import Bling.Linked
import Bling.Sweeps

set_option autoImplicit false

namespace Bling

open Library

/-! Which refunds the payments sweep still takes up. -/

/-- How `due` sweeps the refunds: a row with ten claims is passed over. -/
def refundSweep : Sweep PaymentRefund RefundStatus where
  kind refund := refund.status
  time refund := refund.nextAttemptAt
  live refund := decide (refund.attempts < maxAttempts)
  limit := sweepBatch

def refundKinds : List RefundStatus := [.requested, .retry, .pending, .processing]

/-- What a claim makes of a refund. -/
def takeRefund (now : Time) (refund : PaymentRefund) : PaymentRefund :=
  { refund with
    status := .processing
    attempts := refund.attempts + 1
    nextAttemptAt := now + leaseMs }

/-- Every refund that the code lists is claimed when its job runs. -/
theorem refundPart_sweeps : refundPart.Sweeps refundSweep refundKinds
    (fun db => db.paymentRefunds) takeRefund where
  due _ _ := rfl
  distinct := by decide
  lists _ _ := rfl
  apart _ _ same := Job.runRefund.inj same
  jobless _ _ := rfl
  later now _ := Nat.lt_add_of_pos_right (by decide : 0 < leaseMs)
  claims w ctx id refund present swept timely live := by
    have unspent : refund.attempts < maxAttempts := of_decide_eq_true live
    have isDue : refundDue ctx.now refund = true := by
      simp only [refundSweep] at timely
      simp only [refundSweep, refundKinds, List.mem_cons, List.not_mem_nil, or_false] at swept
      simp only [refundDue]
      rcases swept with status | status | status | status <;> simp [status, timely]
    have claimed : claimRefund ctx w.db id =
        ({ w.db with paymentRefunds := w.db.paymentRefunds.patch id (takeRefund ctx.now) },
          some (takeRefund ctx.now refund)) := by
      have patched : w.db.paymentRefunds.patch id (takeRefund ctx.now) =
          w.db.paymentRefunds.patch id fun r =>
            { r with
              status := .processing
              attempts := refund.attempts + 1
              nextAttemptAt := ctx.now + leaseMs } := by
        apply Table.patch_congr
        intro a found
        obtain rfl := Option.some.inj (present.symm.trans found)
        rfl
      unfold claimRefund
      rw [present]
      dsimp only
      rw [if_neg (by simp [isDue, unspent]), ← patched, Table.get_patch_self present]
    refine ⟨?_, ?_, ?_⟩
    · simp only [refundPart, claimed, Option.isSome_some]
    all_goals
      simp only [refundPart, World.runJob, claimed, World.mutate, World.fly, Mutation.apply]

/-! ### Claims are counted -/

/-- A claim that leaves no further one. -/
def lastRefundClaim (ctx : Ctx) (db : DB) : Mutation → Bool
  | .claimRefund refundId => (db.paymentRefunds.get refundId).any fun refund =>
    refundDue ctx.now refund && refund.attempts + 1 == maxAttempts
  | _ => false

def RefundClaimed (ctx : Ctx) (m : Mutation) (id : RefundId) (before after : PaymentRefund) :
    Prop :=
  after.attempts = before.attempts ∨
    m = .claimRefund id ∧ refundDue ctx.now before = true ∧ after.attempts = before.attempts + 1

theorem RefundClaimed.refl (ctx : Ctx) (m : Mutation) (id : RefundId) (refund : PaymentRefund) :
    RefundClaimed ctx m id refund refund := Or.inl rfl

theorem requestRefund_claimed {ctx : Ctx} {m : Mutation} {db : DB} (attemptId : AttemptId)
    (attempt : PaymentAttempt) (callId : CallId) (reason : RefundReason) :
    Table.Follow (RefundClaimed ctx m) (fun refund => refund.attempts = 0) db.paymentRefunds
      (requestRefund ctx db attemptId attempt callId reason).paymentRefunds := by
  rcases requestRefund_cases ctx db attemptId attempt callId reason with
    ⟨unchanged, _⟩ | ⟨_, _, _, _, asked⟩
  · rw [unchanged]
    exact .refl (.refl ctx m) _
  · rw [asked]
    exact .insert (.refl ctx m) db.paymentRefunds rfl

/-- Only a claim counts against a refund. -/
theorem Effect.refund_claims {ctx : Ctx} {db after : DB} {m : Mutation}
    (effect : Effect ctx db m after) :
    Table.Follow (RefundClaimed ctx m) (fun refund => refund.attempts = 0) db.paymentRefunds
      after.paymentRefunds := by
  have stays := RefundClaimed.refl ctx m
  cases effect with
  | moved callId call target shows present allowed asked isOver same =>
      rw [same.paymentRefunds]
      dsimp only
      rcases finishCall_refunds ctx db callId call target with
        ⟨unchanged, _⟩ | ⟨_, _, attemptId, attempt, _, held, requested⟩
      · rw [unchanged]
        exact .refl stays _
      · rw [requested]
        exact requestRefund_claimed ..
  | selected showId hotline entryId entry mode attempt asked host live idle present inShow waiting
      held paid same => exact .of_eq stays (same.paymentRefunds.trans (openCall_refunds ..))
  | callMissed attemptId attempt capturedAt method callId call asked present found unstarted isOver
      pending same =>
      rw [same.paymentRefunds]
      exact requestRefund_claimed ..
  | chargeReturned attemptId attempt capturedAt method callId call asked present found unstarted
      isOver settled same =>
      rw [same.paymentRefunds]
      exact requestRefund_claimed ..
  | refundClaimed refundId refund asked present due same =>
      rw [same.paymentRefunds]
      dsimp only
      refine .patch_row stays present ?_
      exact Or.inr ⟨asked, due, rfl⟩
  | refundRetried refundId refund status failureCode nextAttemptAt processedAt present claimed
      again same =>
      rw [same.paymentRefunds]
      dsimp only
      refine .patch_row stays present ?_
      exact Or.inl rfl
  | refundRecorded refundId refund stripeRefundId status failureCode asked present unsettled same =>
      rw [same.paymentRefunds]
      exact .patch_row stays present (Or.inl rfl)
  | refundSettled event refundId refund asked matched present newer same =>
      rw [same.paymentRefunds]
      exact .patch_row stays present (Or.inl rfl)
  | refundFound event refund asked unmatched outside same =>
      rw [same.paymentRefunds]
      refine .insert stays _ ?_
      unfold outsideRefund at outside
      obtain ⟨intentId, _, outside⟩ := Option.bind_eq_some_iff.mp outside
      obtain ⟨row, _, outside⟩ := Option.bind_eq_some_iff.mp outside
      obtain ⟨call, _, outside⟩ := Option.bind_eq_some_iff.mp outside
      obtain ⟨amount, _, outside⟩ := Option.bind_eq_some_iff.mp outside
      obtain rfl := Option.some.inj outside
      rfl
  | _ =>
      rename_i same
      exact .of_eq stays same.paymentRefunds

def RefundsUnspent (db : DB) : Prop :=
  ∀ id refund, db.paymentRefunds.get id = some refund → refund.attempts < maxAttempts

theorem RefundsUnspent.mutation {db : DB} (unspent : RefundsUnspent db) (ctx : Ctx) (m : Mutation)
    (further : lastRefundClaim ctx db m = false) : RefundsUnspent (m.apply ctx db) := by
  intro id refund found
  rcases (m.effect ctx db).refund_claims.origin id refund found with
    ⟨before, present, same | ⟨rfl, due, counted⟩⟩ | ⟨_, none⟩
  · rw [same]
    exact unspent id before present
  · have below := unspent id before present
    simp only [lastRefundClaim, present, Option.any_some, due, Bool.true_and,
      beq_eq_false_iff_ne] at further
    omega
  · rw [none]
    decide

theorem RefundsUnspent.run {inputs : List (Ctx × Op)}
    (guarded : Along World.step
      (World.Meets fun ctx db m => lastRefundClaim ctx db m = false) World.empty inputs) :
    RefundsUnspent (run World.step World.empty inputs).db := by
  have jobless : World.Unscheduled RefundsUnspent := fun _ _ => Iff.rfl
  have aware : World.Unscheduled fun _ => True := fun _ _ => Iff.rfl
  have blind (ctx : Ctx) (m : Mutation) :
      World.Unscheduled fun db => lastRefundClaim ctx db m = false := by
    intro db jobs
    cases m <;> exact Iff.rfl
  have initial : RefundsUnspent .empty := by
    intro id refund found
    cases found
  exact World.guarded_keeps jobless aware blind initial
    (fun ctx _ m _ unspent further => unspent.mutation ctx m further) (fun _ _ => trivial) guarded

theorem spent_step {w : World} (input : Ctx × Op) {id : RefundId} {refund : PaymentRefund}
    (present : w.db.paymentRefunds.get id = some refund) (spent : maxAttempts ≤ refund.attempts) :
    ∃ next, (w.step input).db.paymentRefunds.get id = some next ∧ maxAttempts ≤ next.attempts := by
  rcases World.step_ran w input with ⟨_, later, same⟩ | ⟨m, earlier, later, _, same⟩
  · rw [same]
    exact ⟨refund, present, spent⟩
  · rw [same]
    obtain ⟨next, found, same | ⟨_, _, counted⟩⟩ :=
      (m.effect input.1 { w.db with scheduled := earlier }).refund_claims.kept id refund present
    · exact ⟨next, found, same ▸ spent⟩
    · exact ⟨next, found, by omega⟩

/-- Whatever happens, a refund with ten claims is handed to no worker again. -/
theorem spent_unclaimed {w : World} {inputs : List (Ctx × Op)} {id : RefundId}
    {refund : PaymentRefund} (present : w.db.paymentRefunds.get id = some refund)
    (spent : maxAttempts ≤ refund.attempts) (ctx : Ctx) :
    refundPart.claims ctx (run World.step w inputs).db id = false := by
  induction inputs generalizing w refund with
  | nil =>
      rw [run_nil]
      simp only [refundPart, claimRefund, present]
      rw [if_pos (Or.inl spent)]
      rfl
  | cons input rest ih =>
      obtain ⟨next, found, still⟩ := spent_step input present spent
      exact ih found still

/-! ### No refund is left stuck -/

/-- Every refund that is not settled is still taken up. -/
def RefundsTakenUp (w : World) : Prop :=
  ∀ id refund, w.db.paymentRefunds.get id = some refund → refund.status.final = false →
    refundPart.TakesUp w id

theorem refundKinds_of_open {refund : PaymentRefund} (unsettled : refund.status.final = false) :
    refundSweep.kind refund ∈ refundKinds := by
  simp only [refundSweep]
  cases status : refund.status <;> simp_all [RefundStatus.final, refundKinds]

/-- In every state a refund is taken up exactly when it has been claimed less
than ten times and fewer than fifty rows with ten claims stand before it; and
so it is in every run that makes no tenth claim. -/
theorem refunds_taken_up (inputs : List (Ctx × Op)) :
    (∀ id refund, (run World.step World.empty inputs).db.paymentRefunds.get id = some refund →
      refund.status.final = false →
      (refundPart.TakesUp (run World.step World.empty inputs) id ↔
        refund.attempts < maxAttempts ∧
          (refundSweep.spentAhead (run World.step World.empty inputs).db.paymentRefunds
            (id, refund)).card < sweepBatch)) ∧
    (Along World.step
        (World.Meets fun ctx db m => lastRefundClaim ctx db m = false) World.empty inputs →
      RefundsTakenUp (run World.step World.empty inputs)) := by
  have upTo {id : RefundId} {refund : PaymentRefund}
      (present : (run World.step World.empty inputs).db.paymentRefunds.get id = some refund)
      (unsettled : refund.status.final = false) :=
    refundPart_sweeps.takesUp_iff present (refundKinds_of_open unsettled)
  constructor
  · intro id refund present unsettled
    rw [upTo present unsettled]
    simp only [refundSweep, decide_eq_true_eq]
  · intro guarded id refund present unsettled
    have unspent := RefundsUnspent.run guarded
    have none : refundSweep.spentAhead (run World.step World.empty inputs).db.paymentRefunds
        (id, refund) = ∅ := by
      apply Finset.eq_empty_of_forall_notMem
      intro key spent
      obtain ⟨other, found, _, _, noneLeft⟩ := Sweep.mem_spentAhead.mp spent
      have left := unspent key other found
      simp only [refundSweep, decide_eq_false_iff_not] at noneLeft
      exact noneLeft left
    have left := unspent id refund present
    rw [upTo present unsettled, none]
    simp only [refundSweep, decide_eq_true_eq]
    exact ⟨left, by decide⟩

/-- The refund of a show that ended early is in the hands of its first worker. -/
def firstClaimed : List (Ctx × Op) := World.sampled (World.paid ++ World.refunding)

set_option maxRecDepth 20000 in
theorem refunds_taken_up_firstClaimed :
    RefundsTakenUp (run World.step World.empty firstClaimed) ∧
      ((run World.step World.empty firstClaimed).db.paymentRefunds.get 0).map
        (fun refund => refund.status) = some .processing :=
  ⟨(refunds_taken_up firstClaimed).2 (by decide), by decide⟩

/-- That worker dies, and so do the nine that sweeps start after it. -/
def tenClaimed : List (Ctx × Op) :=
  firstClaimed ++ [1, 2, 3, 4, 5, 6, 7, 8, 9].flatMap fun (k : Nat) =>
    let now := 5 + k * leaseMs
    [(⟨now, World.sampleEnv⟩, .sweepRefunds now),
      (⟨now, World.sampleEnv⟩, .runJob now (.runRefund 0))]

set_option maxRecDepth 20000 in
/-- The refund is then processing for ever. -/
theorem refund_stuck : ¬ ∀ inputs, RefundsTakenUp (run World.step World.empty inputs) := by
  intro always
  have stuck : ((run World.step World.empty tenClaimed).db.paymentRefunds.get 0).any
      (fun refund => refund.status == .processing && refund.attempts == 10) = true := by decide
  obtain ⟨refund, present, is⟩ := Option.any_eq_true _ _ |>.mp stuck
  simp only [Bool.and_eq_true, beq_iff_eq] at is
  have unsettled : refund.status.final = false := by
    rw [is.1]
    rfl
  have takenUp := always tenClaimed 0 refund present unsettled
  rw [refundPart_sweeps.takesUp_iff present (refundKinds_of_open unsettled)] at takenUp
  have left : refund.attempts < maxAttempts := of_decide_eq_true takenUp.1
  rw [is.2] at left
  exact absurd left (by decide)

end Bling
