import Bling.Intents

set_option autoImplicit false

namespace Bling

open Library

/-! A charge for a call that never happened is given back, except where a
report or an outside refund keeps Bling from asking for it. -/

/-- A refund that Bling asked for gives back all of the attempt. -/
def Returned (db : DB) (attemptId : AttemptId) (attempt : PaymentAttempt) : Prop :=
  ∃ id refund, db.paymentRefunds.get id = some refund ∧ refund.paymentAttemptId = attemptId ∧
    refund.reason ≠ .outsideBling ∧ refund.amountCents = attempt.amountCents

/-- The call ended without ever having started. -/
def Call.missed (call : Call) : Prop :=
  (call.status = .ended ∨ call.status = .failed) ∧ call.startedAt = none

/-- No charge is kept for a call that never happened. -/
def NoChargeKept (db : DB) : Prop :=
  ∀ callId call attemptId attempt, db.calls.get callId = some call → call.missed →
    call.paymentAttemptId = some attemptId →
    db.paymentAttempts.get attemptId = some attempt → attempt.status = .captured →
    Returned db attemptId attempt

/-! ### Where a charge is kept -/

/-- Refunds made outside Bling are all that is recorded of the attempt, so
Bling does not ask for its own. -/
def refundBlocked (db : DB) (attemptId : AttemptId) : Bool :=
  (db.paymentRefunds.first fun r => r.paymentAttemptId == attemptId).isSome &&
    (db.paymentRefunds.first fun r =>
      r.paymentAttemptId == attemptId && r.reason != .outsideBling).isNone

/-- The mutation ends a call that has not started while its refund is blocked. -/
def endsUnreturned (ctx : Ctx) (db : DB) (m : Mutation) : Bool :=
  match m.moves ctx db with
  | some (_, call, target) =>
    (target == .ended || target == .failed) && canTransition call.status target &&
      call.startedAt.isNone && call.paymentAttemptId.any (refundBlocked db)
  | none => false

/-- The mutation reports the capture of a call that a decline has failed while
its show goes on, or of one whose show is over while its refund is blocked. -/
def capturesUnreturned (db : DB) (m : Mutation) : Bool :=
  match m.report db with
  | some (attemptId, .captured) =>
    match callForAttempt db attemptId with
    | some (_, call) =>
      if showLive db call.showId then
        call.status == .failed &&
          (db.paymentAttempts.get attemptId).any fun a => a.status != .captured
      else
        (call.status == .paymentPending || call.status == .failed) && call.startedAt.isNone &&
          refundBlocked db attemptId
    | none => false
  | _ => false

def keepsCharge (ctx : Ctx) (db : DB) (m : Mutation) : Bool :=
  endsUnreturned ctx db m || capturesUnreturned db m

/-! ### What a step keeps -/

/-- What is not blocked is either returned already or free to be. -/
theorem refundBlocked_false {db : DB} {attemptId : AttemptId}
    (free : refundBlocked db attemptId = false) :
    (∀ id r, db.paymentRefunds.get id = some r → r.paymentAttemptId ≠ attemptId) ∨
      ∃ id r, db.paymentRefunds.get id = some r ∧ r.paymentAttemptId = attemptId ∧
        r.reason ≠ .outsideBling := by
  unfold refundBlocked at free
  rcases Bool.and_eq_false_iff.mp free with none | own
  · rw [Option.isSome_eq_false_iff, Option.isNone_iff_eq_none] at none
    exact Or.inl fun id r present => by simpa using Table.first_none none present
  · rw [Option.isNone_eq_false_iff, Option.isSome_iff_exists] at own
    obtain ⟨row, found⟩ := own
    obtain ⟨present, matched⟩ := Table.first_row found
    simp only [Bool.and_eq_true, beq_iff_eq, bne_iff_ne] at matched
    exact Or.inr ⟨row.1, row.2, present, matched⟩

/-- An unblocked request for the refund of a captured attempt leaves a refund
that Bling asked for. -/
theorem requestRefund_returns {ctx : Ctx} {db : DB} {attemptId : AttemptId}
    {a attempt : PaymentAttempt} {callId : CallId} {reason : RefundReason}
    (linked : RefundsLinked db.paymentRefunds db.paymentAttempts)
    (present : db.paymentAttempts.get attemptId = some a) (own : reason ≠ .outsideBling)
    (free : refundBlocked db attemptId = false) (isCaptured : attempt.status = .captured)
    (attached : ∃ intentId, attempt.stripePaymentIntentId = some intentId)
    (amount : attempt.amountCents = a.amountCents) :
    ∃ id r, (requestRefund ctx db attemptId attempt callId reason).paymentRefunds.get id = some r ∧
      r.paymentAttemptId = attemptId ∧ r.reason ≠ .outsideBling ∧
      r.amountCents = a.amountCents := by
  rcases requestRefund_cases ctx db attemptId attempt callId reason with
    ⟨unchanged, detached | uncaptured | ⟨id, row, found, of⟩⟩ | ⟨intentId, _, _, _, asked⟩
  · obtain ⟨intentId, is⟩ := attached
    rw [detached] at is
    cases is
  · exact absurd isCaptured uncaptured
  · rcases refundBlocked_false free with none | ⟨other, r, located, returns, isOwn⟩
    · exact absurd of (none id row found)
    · obtain ⟨b, held, _, full⟩ := linked other r located
      rw [returns] at held
      obtain rfl := Option.some.inj (present.symm.trans held)
      rw [unchanged]
      exact ⟨other, r, located, returns, isOwn, full isOwn⟩
  · rw [asked]
    exact ⟨_, _, Table.get_insert_next _ _, rfl, own, amount⟩

/-- Every attempt past its creation has its intent. -/
def Attached (attempts : Table PaymentAttempt) : Prop :=
  ∀ id a, attempts.get id = some a → a.status ≠ .created →
    ∃ intentId, a.stripePaymentIntentId = some intentId

/-- No attempt is captured that was not. -/
abbrev NoneCaptured : Table PaymentAttempt → Table PaymentAttempt → Prop :=
  Table.Follow (fun _ a b => b.status = .captured → a.status = .captured)
    fun b => b.status ≠ .captured

section Step

variable {ctx : Ctx} {db after : DB} {m : Mutation}

/-- A charge returned before is returned after. -/
theorem Returned.stays {attemptId : AttemptId} {a b : PaymentAttempt}
    (returned : Returned db attemptId a) (effect : Effect ctx db m after)
    (amount : b.amountCents = a.amountCents) : Returned after attemptId b := by
  obtain ⟨id, r, present, of, own, full⟩ := returned
  obtain ⟨kept, found, same⟩ := effect.refunds.kept id r present
  exact ⟨id, kept, found, same.paymentAttemptId.trans of, by rw [same.reason]; exact own,
    same.amountCents.trans (full.trans amount.symm)⟩

/-- A call missed before whose attempt was captured before stays settled. -/
theorem NoChargeKept.old (kept : NoChargeKept db) (effect : Effect ctx db m after)
    {callId : CallId} {call : Call} {attemptId : AttemptId} {a b : PaymentAttempt}
    (found : db.calls.get callId = some call) (missed : call.missed)
    (pays : call.paymentAttemptId = some attemptId)
    (present : db.paymentAttempts.get attemptId = some a) (before : a.status = .captured)
    (held : after.paymentAttempts.get attemptId = some b) : Returned after attemptId b := by
  obtain ⟨c, located, follows⟩ := effect.attempts.kept attemptId a present
  obtain rfl := Option.some.inj (held.symm.trans located)
  exact Returned.stays (kept callId call attemptId a found missed pays present before) effect
    follows.terms.amountCents

/-- A mutation that neither moves a call nor captures an attempt. -/
theorem NoChargeKept.calm (kept : NoChargeKept db) (effect : Effect ctx db m after)
    (calls : ∀ id call, after.calls.get id = some call → call.missed → db.calls.get id = some call)
    (calm : NoneCaptured db.paymentAttempts after.paymentAttempts) : NoChargeKept after := by
  intro callId call attemptId b found missed pays held isCaptured
  rcases calm.origin attemptId b held with ⟨a, present, before⟩ | ⟨_, fresh⟩
  · exact kept.old effect (calls callId call found missed) missed pays present
      (before isCaptured) held
  · exact absurd isCaptured fresh

/-- A transition that ends a call which never started asks for its refund. -/
theorem NoChargeKept.moved (kept : NoChargeKept db) (linked : Linked db)
    (attached : Attached db.paymentAttempts) (effect : Effect ctx db m after) {callId : CallId}
    {call : Call} {target : CallStatus} (present : db.calls.get callId = some call)
    (free : (target = .ended ∨ target = .failed) → call.startedAt = none →
      ∀ attemptId, call.paymentAttemptId = some attemptId → refundBlocked db attemptId = false)
    (calls : after.calls = db.calls.patch callId (transitionPatch ctx target))
    (attempts : after.paymentAttempts = db.paymentAttempts)
    (refunds : after.paymentRefunds = (finishCall ctx db callId call target).paymentRefunds) :
    NoChargeKept after := by
  intro id c attemptId b found missed pays held isCaptured
  rw [attempts] at held
  rw [calls, Table.get_patch] at found
  split at found
  · rename_i here
    rw [here, present] at found
    obtain rfl := Option.some.inj found
    have isOver : target = .ended ∨ target = .failed := missed.1
    have unstarted : call.startedAt = none := by
      have patched := missed.2
      simp only [transitionPatch] at patched
      split at patched
      · cases patched
      · exact patched
    rcases finishCall_refunds ctx db callId call target with
      ⟨_, unasked⟩ | ⟨_, _, other, a, paid, located, asked⟩
    · exact absurd ⟨isOver, unstarted, attemptId, b, pays, held⟩ unasked
    · obtain rfl := Option.some.inj (paid.symm.trans pays)
      obtain rfl := Option.some.inj (located.symm.trans held)
      unfold Returned
      rw [refunds, asked]
      refine requestRefund_returns linked.refunds held ?_ (free isOver unstarted other paid)
        isCaptured (attached other a held (by simp [isCaptured])) rfl
      unfold finishReason
      split <;> exact fun same => by cases same
  · exact kept.old effect found missed pays held isCaptured (attempts ▸ held)

/-- A report on an attempt, whatever it makes of the call it pays for. -/
theorem NoChargeKept.reported (kept : NoChargeKept db) (effect : Effect ctx db m after)
    {about : AttemptId} {moved : PaymentAttempt → PaymentAttempt}
    (attempts : after.paymentAttempts = db.paymentAttempts.patch about moved)
    (calls : ∀ id call attemptId, after.calls.get id = some call → call.missed →
      call.paymentAttemptId = some attemptId → attemptId ≠ about →
      db.calls.get id = some call)
    (returned : ∀ id call b, after.calls.get id = some call → call.missed →
      call.paymentAttemptId = some about → after.paymentAttempts.get about = some b →
      b.status = .captured → Returned after about b) : NoChargeKept after := by
  intro id call attemptId b found missed pays held isCaptured
  by_cases same : attemptId = about
  · subst same
    exact returned id call b found missed pays held isCaptured
  · have before := held
    rw [attempts, Table.get_patch_of_ne same] at before
    exact kept.old effect (calls id call attemptId found missed pays same) missed pays before
      isCaptured held

/-- An attempt that pays for a call has been used, so it has its intent. -/
theorem Linked.paid_intent (linked : Linked db) (attached : Attached db.paymentAttempts)
    {id : CallId} {call : Call} {attemptId : AttemptId} {attempt : PaymentAttempt}
    (located : db.calls.get id = some call) (pays : call.paymentAttemptId = some attemptId)
    (present : db.paymentAttempts.get attemptId = some attempt) :
    ∃ intentId, attempt.stripePaymentIntentId = some intentId := by
  obtain ⟨b, held, used, _⟩ := linked.calls.attempt id call attemptId located pays
  obtain rfl := Option.some.inj (present.symm.trans held)
  exact attached attemptId attempt present used.1

/-- A paid call that ended had been paid for, so its attempt was captured before. -/
theorem Linked.ended_captured (linked : Linked db) {id : CallId} {call : Call}
    {attemptId : AttemptId} {attempt : PaymentAttempt} (located : db.calls.get id = some call)
    (pays : call.paymentAttemptId = some attemptId)
    (present : db.paymentAttempts.get attemptId = some attempt) (ended : call.status = .ended) :
    attempt.status = .captured := by
  obtain ⟨b, held, _, paid⟩ := linked.calls.attempt id call attemptId located pays
  obtain rfl := Option.some.inj (present.symm.trans held)
  exact paid (by simp [ended, CallStatus.paidFor])

/-- A call is opened for a hold that isn't captured yet. -/
theorem NoChargeKept.openCall (kept : NoChargeKept db) (effect : Effect ctx db m after)
    {showId : ShowId} {hotline : Show} {entryId : EntryId} {entry : QueueEntry}
    {mode : SelectionMode} {attempt : Option (AttemptId × PaymentAttempt)}
    (same : SameCore (openCall ctx db showId hotline entryId entry mode attempt).1 after) :
    NoChargeKept after := by
  refine kept.calm effect ?_ ?_
  · intro id call found missed
    rw [same.calls, openCall_calls, Table.get_insert] at found
    split at found
    · obtain rfl := Option.some.inj found
      have isOver := missed.1
      dsimp only at isOver
      split at isOver <;> simp at isOver
    · exact found
  · rw [same.paymentAttempts, openCall_attempts]
    cases attempt with
    | none => exact .refl (fun _ _ => id) _
    | some row => exact .patch (fun _ _ => id) fun _ _ same => by cases same

section Reports

variable {attemptId : AttemptId} {attempt : PaymentAttempt} {capturedAt : Option Time}
  {method : Option StripeId} {callId : CallId} {call : Call}

/-- The call may begin. -/
theorem NoChargeKept.callOpened (kept : NoChargeKept db) (linked : Linked db)
    (effect : Effect ctx db m after) (found : callForAttempt db attemptId = some (callId, call))
    (attempts : after.paymentAttempts =
      db.paymentAttempts.patch attemptId (capturedPatch capturedAt method))
    (calls : after.calls = db.calls.patch callId fun c => { c with status := .created }) :
    NoChargeKept after := by
  obtain ⟨located, pays⟩ := callForAttempt_present found
  have old (id : CallId) (c : Call) (moved : after.calls.get id = some c)
      (missed : c.missed) : id ≠ callId ∧ db.calls.get id = some c := by
    rw [calls, Table.get_patch] at moved
    split at moved
    · obtain ⟨was, _, rfl⟩ := Option.map_eq_some_iff.mp moved
      rcases missed.1 with isOver | isOver <;> cases isOver
    · rename_i apart
      exact ⟨apart, moved⟩
  refine kept.reported effect attempts (fun id c _ moved missed _ _ => (old id c moved missed).2) ?_
  intro id c b moved missed uses
  obtain ⟨apart, was⟩ := old id c moved missed
  exact absurd (linked.calls.one id callId c call attemptId was located uses pays) apart

/-- The call's show is over, and its refund is asked for unless it is blocked. -/
theorem NoChargeKept.callMissed (kept : NoChargeKept db) (linked : Linked db)
    (attached : Attached db.paymentAttempts) (effect : Effect ctx db m after)
    (present : db.paymentAttempts.get attemptId = some attempt)
    (found : callForAttempt db attemptId = some (callId, call))
    (free : refundBlocked db attemptId = false)
    (attempts : after.paymentAttempts =
      db.paymentAttempts.patch attemptId (capturedPatch capturedAt method))
    (calls : after.calls = db.calls.patch callId (failedPatch ctx))
    (refunds : after.paymentRefunds = (requestRefund ctx db attemptId
      (capturedPatch capturedAt attempt.savedPaymentMethodId attempt) callId
      .showEndedBeforeCallStarted).paymentRefunds) : NoChargeKept after := by
  obtain ⟨located, pays⟩ := callForAttempt_present found
  refine kept.reported effect attempts ?_ ?_
  · intro id c other moved missed uses apart
    rw [calls] at moved
    rcases Table.get_patch_row located moved with ⟨_, rfl⟩ | ⟨_, old⟩
    · exact absurd (Option.some.inj (uses.symm.trans pays)) apart
    · exact old
  · intro id c b moved missed uses held isCaptured
    rw [attempts, Table.get_patch_self present] at held
    obtain rfl := Option.some.inj held
    unfold Returned
    rw [refunds]
    have intent := linked.paid_intent attached located pays present
    exact requestRefund_returns (a := attempt) linked.refunds present
      (fun same => by cases same) free rfl intent rfl

/-- So it is for a call that was over before the capture was reported. -/
theorem NoChargeKept.chargeReturned (kept : NoChargeKept db) (linked : Linked db)
    (attached : Attached db.paymentAttempts) (effect : Effect ctx db m after)
    (present : db.paymentAttempts.get attemptId = some attempt)
    (found : callForAttempt db attemptId = some (callId, call))
    (free : call.status = .failed → refundBlocked db attemptId = false)
    (attempts : after.paymentAttempts =
      db.paymentAttempts.patch attemptId (capturedPatch capturedAt method))
    (calls : after.calls = db.calls)
    (refunds : after.paymentRefunds = (requestRefund ctx db attemptId
      (capturedPatch capturedAt attempt.savedPaymentMethodId attempt) callId
      .showEndedBeforeCallStarted).paymentRefunds) : NoChargeKept after := by
  obtain ⟨located, pays⟩ := callForAttempt_present found
  refine kept.reported effect attempts (fun id c _ moved _ _ _ => calls ▸ moved) ?_
  intro id c b moved missed uses held isCaptured
  have was : db.calls.get id = some c := calls ▸ moved
  obtain rfl := linked.calls.one id callId c call attemptId was located uses pays
  obtain rfl := Option.some.inj (was.symm.trans located)
  rcases missed.1 with ended | failed
  · exact kept.old effect was missed uses present
      (linked.ended_captured was uses present ended) held
  · rw [attempts, Table.get_patch_self present] at held
    obtain rfl := Option.some.inj held
    unfold Returned
    rw [refunds]
    have intent := linked.paid_intent attached located pays present
    exact requestRefund_returns (a := attempt) linked.refunds present
      (fun same => by cases same) (free failed) rfl intent rfl

/-- A capture that changes no call had been reported before, where a call was missed. -/
theorem NoChargeKept.captureNoted (kept : NoChargeKept db) (linked : Linked db)
    (effect : Effect ctx db m after) (present : db.paymentAttempts.get attemptId = some attempt)
    (noted : ∀ id c, callForAttempt db attemptId = some (id, c) → c.startedAt = none →
      c.status = .failed → attempt.status = .captured)
    (attempts : after.paymentAttempts =
      db.paymentAttempts.patch attemptId (capturedPatch capturedAt method))
    (calls : after.calls = db.calls) : NoChargeKept after := by
  refine kept.reported effect attempts (fun id c _ moved _ _ _ => calls ▸ moved) ?_
  intro id c b moved missed uses held _
  have was : db.calls.get id = some c := calls ▸ moved
  refine kept.old effect was missed uses present ?_ held
  rcases missed.1 with ended | failed
  · exact linked.ended_captured was uses present ended
  · exact noted id c (linked.calls.found was uses) missed.2 failed

/-- A hold that isn't captured is no charge. -/
theorem NoChargeKept.notCaptured (kept : NoChargeKept db) (effect : Effect ctx db m after)
    {status : NotCaptured} {failureCode : Option String}
    {canceledAt : PaymentAttempt → Option Time}
    (present : db.paymentAttempts.get attemptId = some attempt)
    (attempts : after.paymentAttempts = db.paymentAttempts.patch attemptId
      (notCapturedPatch status failureCode canceledAt))
    (failed : after.calls = db.calls ∨ ∃ callId call,
      callForAttempt db attemptId = some (callId, call) ∧
        after.calls = db.calls.patch callId (failedPatch ctx)) : NoChargeKept after := by
  refine kept.reported effect attempts ?_ ?_
  · intro id c other moved missed uses apart
    rcases failed with unchanged | ⟨callId, call, found, patched⟩
    · exact unchanged ▸ moved
    · obtain ⟨located, pays⟩ := callForAttempt_present found
      rw [patched] at moved
      rcases Table.get_patch_row located moved with ⟨_, rfl⟩ | ⟨_, old⟩
      · exact absurd (Option.some.inj (uses.symm.trans pays)) apart
      · exact old
  · intro id c b moved missed uses held isCaptured
    rw [attempts, Table.get_patch_self present] at held
    obtain rfl := Option.some.inj held
    cases status <;> cases isCaptured

end Reports

end Step

theorem NoChargeKept.mutation {ctx : Ctx} {db : DB} {m : Mutation} (kept : NoChargeKept db)
    (linked : Linked db) (attached : Attached db.paymentAttempts)
    (guarded : keepsCharge ctx db m = false) : NoChargeKept (m.apply ctx db) := by
  have effect := m.effect ctx db
  generalize m.apply ctx db = after at effect ⊢
  have acts := effect
  obtain ⟨ends, captures⟩ := Bool.or_eq_false_iff.mp guarded
  have unmoved (calls : after.calls = db.calls) (id : CallId) (call : Call)
      (found : after.calls.get id = some call) (_ : call.missed) : db.calls.get id = some call :=
    calls ▸ found
  cases effect with
  | moved callId call target shows present allowed asked isOver same =>
      refine kept.moved linked attached acts present ?_ same.calls same.paymentAttempts
        same.paymentRefunds
      intro finishes unstarted attemptId pays
      simpa [endsUnreturned, asked, finishes, allowed, unstarted, pays] using ends
  | selected showId hotline entryId entry mode attempt asked host live idle present inShow waiting
      held paid same => exact kept.openCall acts same
  | callOpened attemptId attempt capturedAt method callId call asked present found pending live
      same => exact kept.callOpened linked acts found same.paymentAttempts same.calls
  | callMissed attemptId attempt capturedAt method callId call asked present found unstarted isOver
      pending same =>
      refine kept.callMissed linked attached acts present found ?_ same.paymentAttempts same.calls
        same.paymentRefunds
      simpa [capturesUnreturned, asked, found, isOver, pending, unstarted] using captures
  | chargeReturned attemptId attempt capturedAt method callId call asked present found unstarted
      isOver settled same =>
      refine kept.chargeReturned linked attached acts present found (fun failed => ?_)
        same.paymentAttempts same.calls same.paymentRefunds
      simpa [capturesUnreturned, asked, found, isOver, failed, unstarted] using captures
  | captureNoted attemptId attempt capturedAt method asked present settled same =>
      refine kept.captureNoted linked acts present ?_ same.paymentAttempts same.calls
      intro id c found unstarted failed
      have live : showLive db c.showId = true := by
        by_contra isOver
        exact (settled id c found).2 ⟨unstarted, isOver⟩
      simpa [capturesUnreturned, asked, found, live, failed, present] using captures
  | notCaptured attemptId attempt status failureCode canceledAt calls queueEntries asked present
      uncaptured failed released same =>
      refine kept.notCaptured acts present same.paymentAttempts ?_
      rw [same.calls]
      exact failed.imp And.left fun ⟨callId, call, found, _, patched⟩ =>
        ⟨callId, call, found, patched⟩
  | joined viewerId args tierId tier existing attempt live found offered previous gone held paid
      same =>
      refine kept.calm acts (unmoved same.calls) ?_
      rw [same.paymentAttempts, enqueue_attempts]
      cases attempt with
      | none => exact .refl (fun _ _ => id) _
      | some row => exact .patch (fun _ _ => id) fun _ _ => id
  | attemptAdded attempt tierId tier hotline found paid created detached unqueued amount fee
      same =>
      refine kept.calm acts (unmoved same.calls) ?_
      rw [same.paymentAttempts]
      exact .insert (fun _ _ => id) _ (by simp [created])
  | intentAttached attemptId intentId attempt asked present detached same =>
      refine kept.calm acts (unmoved same.calls) ?_
      rw [same.paymentAttempts]
      dsimp only
      exact .patch (fun _ _ => id) fun _ _ => id
  | authorized attemptId attempt asked present created same =>
      refine kept.calm acts (unmoved same.calls) ?_
      rw [same.paymentAttempts]
      dsimp only
      exact .patch (fun _ _ => id) fun _ _ same => by cases same
  | _ =>
      rename_i same
      exact kept.calm acts (unmoved same.calls) (.of_eq (fun _ _ => id) same.paymentAttempts)

/-! ### Runs -/

theorem keepsCharge_scheduled (ctx : Ctx) (db : DB) (jobs : List (Time × Job)) (m : Mutation) :
    keepsCharge ctx { db with scheduled := jobs } m = keepsCharge ctx db m := by
  cases m <;> rfl

/-- No charge is kept for a call that never happened in any run none of whose
steps meets one of the two cases. -/
theorem charges_returned (inputs : List (Ctx × Op))
    (guarded : Along World.step (World.Meets fun ctx db m => keepsCharge ctx db m = false)
      World.empty inputs) : NoChargeKept (run World.step World.empty inputs).db := by
  have jobless : World.Unscheduled NoChargeKept := fun _ _ => Iff.rfl
  have aware : World.Unscheduled fun db => Linked db ∧ Attached db.paymentAttempts :=
    fun db jobs => and_congr_left' (Linked.unscheduled db jobs)
  have blind (ctx : Ctx) (m : Mutation) :
      World.Unscheduled fun db => keepsCharge ctx db m = false := by
    intro db jobs
    dsimp only
    rw [keepsCharge_scheduled]
  refine World.guarded_keeps jobless aware blind ?_ ?_ ?_ guarded
  · intro callId call attemptId attempt found
    cases found
  · intro ctx db m known kept met
    exact kept.mutation known.1 known.2 met
  · intro w reached
    exact ⟨Linked.reached reached, (IntentsSound.reached reached).attached⟩

/-- A show that ends before its call starts: the charge is returned. -/
def showEnded : List (Ctx × Op) :=
  World.sampled (World.paid ++
    [.request (.endShow (some 0) 0)])

set_option maxRecDepth 20000 in
theorem charges_returned_showEnded : NoChargeKept (run World.step World.empty showEnded).db :=
  charges_returned showEnded (by decide)

/-- The first card is declined and a second one held, and the report of the
decline comes while the hold is being captured. -/
def lateDecline : List (Ctx × Op) :=
  World.sampled (World.preparing ++ [.stripe (.decline 0 none)] ++ World.confirming ++ World.waiting ++ World.selecting ++
    [.deliver 0] ++ World.capturing)

set_option maxRecDepth 20000 in
/-- The call fails, the payment is captured and nobody asks for a refund. -/
theorem charge_kept : ¬ ∀ inputs, NoChargeKept (run World.step World.empty inputs).db := by
  intro always
  have missed : ((run World.step World.empty lateDecline).db.calls.get 0).any (fun call =>
      call.status == .failed && call.startedAt == none && call.paymentAttemptId == some 0) = true :=
    by decide
  have paid : ((run World.step World.empty lateDecline).db.paymentAttempts.get 0).any
      (fun attempt => attempt.status == .captured) = true := by decide
  have unreturned : (run World.step World.empty lateDecline).db.paymentRefunds.rows = [] := by
    decide
  obtain ⟨call, found, call_missed⟩ := Option.any_eq_true _ _ |>.mp missed
  obtain ⟨attempt, present, captured⟩ := Option.any_eq_true _ _ |>.mp paid
  simp only [Bool.and_eq_true, beq_iff_eq] at call_missed captured
  obtain ⟨id, refund, returned, _⟩ := always lateDecline 0 call 0 attempt found
    ⟨Or.inr call_missed.1.1, call_missed.1.2⟩ call_missed.2 present captured
  simp [Table.get, unreturned] at returned

end Bling
