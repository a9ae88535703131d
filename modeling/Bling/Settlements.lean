import Bling.Captures
import Bling.Charges
import Bling.Entries

set_option autoImplicit false

namespace Bling

open Library

/-! A payment is given back or earned, never both. -/

/-! ### Calls that will not happen -/

/-- How far a call has come is never undone. -/
structure CallGoes (before after : Call) : Prop where
  pays : after.paymentAttemptId = before.paymentAttemptId
  started : before.startedAt ≠ none → after.startedAt ≠ none
  missed : before.missed → after.missed

theorem CallGoes.refl (call : Call) : CallGoes call call := ⟨rfl, id, id⟩

/-- A call that has not ended moves on without losing its start. -/
theorem CallGoes.move {before after : Call} (ongoing : ¬ before.missed)
    (pays : after.paymentAttemptId = before.paymentAttemptId)
    (started : before.startedAt ≠ none → after.startedAt ≠ none) : CallGoes before after :=
  ⟨pays, started, fun missed => absurd missed ongoing⟩

theorem Call.open_not_missed {call : Call} (isOpen : call.status ∈ activeCallStatuses) :
    ¬ call.missed := by
  rintro ⟨isOver, _⟩
  rcases isOver with is | is <;> rw [is] at isOpen <;> revert isOpen <;> decide

theorem Effect.call_goes {ctx : Ctx} {db after : DB} {m : Mutation}
    (effect : Effect ctx db m after) :
    Table.Follow (fun _ => CallGoes) (fun _ => True) db.calls after.calls := by
  have stays (_ : CallId) (c : Call) : CallGoes c c := .refl c
  cases effect with
  | moved callId call target shows present allowed asked isOver same =>
      rw [same.calls]
      dsimp only
      refine .patch_row stays present (.move ?_ rfl ?_)
      · exact call.open_not_missed (connectable_active (CallStatus.open_of_transition allowed))
      · intro started
        simp [transitionPatch, started]
  | selected showId hotline entryId entry mode attempt asked host live idle present inShow waiting
      held paid same =>
      rw [same.calls, openCall_calls]
      exact .insert stays _ trivial
  | callOpened attemptId attempt capturedAt method callId call asked present found pending live
      same =>
      rw [same.calls]
      dsimp only
      refine .patch_row stays (callForAttempt_present found).1 (.move ?_ rfl id)
      exact call.open_not_missed (by simp [pending, activeCallStatuses])
  | callMissed attemptId attempt capturedAt method callId call asked present found unstarted isOver
      pending same =>
      rw [same.calls]
      dsimp only
      refine .patch_row stays (callForAttempt_present found).1 (.move ?_ rfl id)
      exact call.open_not_missed (by simp [pending, activeCallStatuses])
  | notCaptured attemptId attempt status failureCode canceledAt calls queueEntries asked present
      uncaptured failed released same =>
      rw [same.calls]
      dsimp only
      rcases failed with ⟨unchanged, _⟩ | ⟨callId, call, found, pending, patched⟩
      · rw [unchanged]
        exact .refl stays _
      · rw [patched]
        refine .patch_row stays (callForAttempt_present found).1 (.move ?_ rfl id)
        exact call.open_not_missed (by simp [pending, activeCallStatuses])
  | _ =>
      rename_i same
      exact .of_eq stays same.calls

/-! ### What Bling asks to be returned -/

/-- The call was paid for by the attempt, and will not happen. -/
def MissedFor (calls : Table Call) (callId : CallId) (attemptId : AttemptId) : Prop :=
  ∃ call, calls.get callId = some call ∧ call.paymentAttemptId = some attemptId ∧ call.missed

/-- The call was paid for by the attempt, and has started. -/
def StartedFor (calls : Table Call) (callId : CallId) (attemptId : AttemptId) : Prop :=
  ∃ call, calls.get callId = some call ∧ call.paymentAttemptId = some attemptId ∧
    call.startedAt ≠ none

def CapturedIn (attempts : Table PaymentAttempt) (attemptId : AttemptId) : Prop :=
  ∃ attempt, attempts.get attemptId = some attempt ∧ attempt.status = .captured

/-- Bling asks for a refund once, of a captured charge for a missed call. -/
structure AsksFor (db after : DB) (refund : PaymentRefund) : Prop where
  first : ∀ id r, db.paymentRefunds.get id = some r → r.paymentAttemptId ≠ refund.paymentAttemptId
  captured : CapturedIn after.paymentAttempts refund.paymentAttemptId
  missed : MissedFor after.calls refund.callId refund.paymentAttemptId

abbrev RefundsAsked (db after : DB) : Table PaymentRefund → Table PaymentRefund → Prop :=
  Table.Follow (fun _ => SameRequest) fun r => r.reason ≠ .outsideBling → AsksFor db after r

theorem requestRefund_asks {ctx : Ctx} {db after : DB} {attemptId : AttemptId}
    {attempt : PaymentAttempt} {callId : CallId} {reason : RefundReason}
    (captured : attempt.status = .captured → CapturedIn after.paymentAttempts attemptId)
    (missed : MissedFor after.calls callId attemptId) :
    RefundsAsked db after db.paymentRefunds
      (requestRefund ctx db attemptId attempt callId reason).paymentRefunds := by
  rcases requestRefund_cases ctx db attemptId attempt callId reason with
    ⟨unchanged, _⟩ | ⟨intentId, _, isCaptured, first, asked⟩
  · rw [unchanged]
    exact .refl (fun _ => .refl) _
  · rw [asked]
    exact .insert (fun _ => .refl) _ fun _ => ⟨first, captured isCaptured, missed⟩

theorem Effect.refunds_asked {ctx : Ctx} {db after : DB} {m : Mutation}
    (effect : Effect ctx db m after) (inStep : ShowsInStep db.shows db.calls) :
    RefundsAsked db after db.paymentRefunds after.paymentRefunds := by
  have stays (_ : RefundId) (r : PaymentRefund) : SameRequest r r := .refl r
  cases effect with
  | moved callId call target shows present allowed asked isOver same =>
      rw [same.paymentRefunds]
      dsimp only
      rcases finishCall_refunds ctx db callId call target with
        ⟨unchanged, _⟩ | ⟨ends, unstarted, attemptId, attempt, pays, held, requested⟩
      · rw [unchanged]
        exact .refl stays _
      · rw [requested]
        apply requestRefund_asks
        · intro captured
          rw [same.paymentAttempts]
          exact ⟨attempt, held, captured⟩
        · rw [same.calls]
          refine ⟨_, Table.get_patch_self present _, pays, ends, ?_⟩
          rcases ends with rfl | rfl <;> simp [transitionPatch, unstarted]
  | selected showId hotline entryId entry mode attempt asked host live idle present inShow waiting
      held paid same => exact .of_eq stays (same.paymentRefunds.trans (openCall_refunds ..))
  | callMissed attemptId attempt capturedAt method callId call asked present found unstarted isOver
      pending same =>
      rw [same.paymentRefunds]
      apply requestRefund_asks
      · intro _
        rw [same.paymentAttempts]
        exact ⟨_, Table.get_patch_self present _, rfl⟩
      · obtain ⟨located, pays⟩ := callForAttempt_present found
        rw [same.calls]
        exact ⟨_, Table.get_patch_self located _, pays, Or.inr rfl, unstarted⟩
  | chargeReturned attemptId attempt capturedAt method callId call asked present found unstarted
      isOver settled same =>
      rw [same.paymentRefunds]
      apply requestRefund_asks
      · intro _
        rw [same.paymentAttempts]
        exact ⟨_, Table.get_patch_self present _, rfl⟩
      · obtain ⟨located, pays⟩ := callForAttempt_present found
        rw [same.calls]
        refine ⟨call, located, pays, ?_, unstarted⟩
        -- Its show is over, so the call connects no more.
        have closed : call.status ∉ connectableStatuses := by
          intro connectable
          have live := showLive_iff.mpr ((inStep.hosted callId call located).2 connectable)
          rw [isOver] at live
          cases live
        cases status : call.status <;> simp_all [connectableStatuses]
  | refundClaimed refundId refund asked present due same =>
      rw [same.paymentRefunds]
      dsimp only
      refine .patch stays ?_
      exact fun _ _ => ⟨rfl, rfl, rfl, rfl, rfl, rfl⟩
  | refundRetried refundId refund status failureCode nextAttemptAt processedAt present claimed
      again same =>
      rw [same.paymentRefunds]
      dsimp only
      refine .patch stays ?_
      exact fun _ _ => ⟨rfl, rfl, rfl, rfl, rfl, rfl⟩
  | refundRecorded refundId refund stripeRefundId status failureCode asked present unsettled same =>
      rw [same.paymentRefunds]
      refine .patch stays ?_
      exact fun _ _ => ⟨rfl, rfl, rfl, rfl, rfl, rfl⟩
  | refundSettled event refundId refund asked matched present newer same =>
      rw [same.paymentRefunds]
      exact .patch stays fun r _ => settledPatch_same ctx event refund r
  | refundFound event refund asked unmatched outside same =>
      obtain ⟨_, _, _, _, _, reason, _⟩ := outsideRefund_of outside
      rw [same.paymentRefunds]
      exact .insert stays _ fun own => absurd reason own
  | _ =>
      rename_i same
      exact .of_eq stays same.paymentRefunds

/-! ### The invariant -/

structure Settled (db : DB) : Prop where
  once : ∀ i j a b, db.paymentRefunds.get i = some a → db.paymentRefunds.get j = some b →
    a.reason ≠ .outsideBling → b.reason ≠ .outsideBling →
    a.paymentAttemptId = b.paymentAttemptId → i = j
  returned : ∀ id refund, db.paymentRefunds.get id = some refund →
    refund.reason ≠ .outsideBling → CapturedIn db.paymentAttempts refund.paymentAttemptId ∧
      MissedFor db.calls refund.callId refund.paymentAttemptId
  earned : ∀ id entry, db.ledger.ledgerEntries.get id = some entry → entry.kind = .earning →
    ∃ attemptId callId, entry.idempotencyKey = .earning attemptId ∧
      entry.paymentAttemptId = some attemptId ∧ entry.callId = some callId ∧
      StartedFor db.calls callId attemptId

theorem Settled.empty : Settled .empty := by
  refine ⟨?_, ?_, ?_⟩
  · intro i j a b found
    cases found
  · intro id refund found
    cases found
  · intro id entry found
    cases found

section Follow

variable {before after : Table Call} {callId : CallId} {attemptId : AttemptId}

theorem MissedFor.follow (missed : MissedFor before callId attemptId)
    (goes : Table.Follow (fun _ => CallGoes) (fun _ => True) before after) :
    MissedFor after callId attemptId := by
  obtain ⟨call, present, pays, isOver⟩ := missed
  obtain ⟨next, found, follows⟩ := goes.kept callId call present
  exact ⟨next, found, follows.pays.trans pays, follows.missed isOver⟩

theorem StartedFor.follow (started : StartedFor before callId attemptId)
    (goes : Table.Follow (fun _ => CallGoes) (fun _ => True) before after) :
    StartedFor after callId attemptId := by
  obtain ⟨call, present, pays, begun⟩ := started
  obtain ⟨next, found, follows⟩ := goes.kept callId call present
  exact ⟨next, found, follows.pays.trans pays, follows.started begun⟩

end Follow

/-- Only a call that goes live is credited. -/
theorem LedgerChange.earning {ctx : Ctx} {db after : DB} {m : Mutation}
    (change : LedgerChange ctx db m after) {id : Nat} {entry : LedgerEntry}
    (found : after.ledger.ledgerEntries.get id = some entry) (earns : entry.kind = .earning) :
    db.ledger.ledgerEntries.get id = some entry ∨
      ∃ attemptId callId call, entry.idempotencyKey = .earning attemptId ∧
        entry.paymentAttemptId = some attemptId ∧ entry.callId = some callId ∧
        after.calls.get callId = some call ∧ call.paymentAttemptId = some attemptId ∧
        call.status = .live ∧ call.startedAt ≠ none := by
  cases change with
  | reserves posted =>
      refine (posted.origin found).imp_right ?_
      intro reservation
      rw [reservation.1] at earns
      cases earns
  | credits callId call attemptId attempt asked present allowed calls pays held ledger =>
      rw [ledger] at found
      refine ((creditEarning_only ..).origin found).imp_right ?_
      intro credited
      rw [credited]
      refine ⟨attemptId, callId, transitionPatch ctx .live call, rfl, rfl, rfl, ?_, pays, rfl, ?_⟩
      · rw [calls]
        exact Table.get_patch_self present _
      · by_cases unstarted : call.startedAt = none <;> simp [transitionPatch, unstarted]
  | reverses refundId refund row succeeded ledger =>
      rw [ledger] at found
      refine ((reverseForRefund_only ..).origin found).imp_right ?_
      intro reversal
      rw [reversal.kind] at earns
      cases earns
  | adjusts event asked disputes ledger =>
      rw [ledger] at found
      refine ((adjustForDispute_only ..).origin found).imp_right ?_
      intro adjustment
      rcases adjustment.kind with ⟨is, _⟩ | ⟨is, _⟩ <;> rw [is] at earns <;> cases earns

theorem Settled.effect {ctx : Ctx} {db after : DB} {m : Mutation} (settled : Settled db)
    (inStep : ShowsInStep db.shows db.calls) (effect : Effect ctx db m after) :
    Settled after := by
  have asked := effect.refunds_asked inStep
  have goes := effect.call_goes
  refine ⟨?_, ?_, ?_⟩
  · intro i j a b first second ownFirst ownSecond together
    rcases asked.origin i a first with ⟨x, wasFirst, sameFirst⟩ | ⟨newFirst, asksFirst⟩ <;>
      rcases asked.origin j b second with ⟨y, wasSecond, sameSecond⟩ | ⟨newSecond, asksSecond⟩
    · refine settled.once i j x y wasFirst wasSecond ?_ ?_ ?_
      · rw [← sameFirst.reason]
        exact ownFirst
      · rw [← sameSecond.reason]
        exact ownSecond
      · rw [← sameFirst.paymentAttemptId, ← sameSecond.paymentAttemptId, together]
    · refine absurd ?_ ((asksSecond ownSecond).first i x wasFirst)
      rw [← sameFirst.paymentAttemptId, together]
    · refine absurd ?_ ((asksFirst ownFirst).first j y wasSecond)
      rw [← sameSecond.paymentAttemptId, together]
    · exact newFirst.trans newSecond.symm
  · intro id refund found own
    rcases asked.origin id refund found with ⟨was, present, same⟩ | ⟨_, asks⟩
    · rw [same.reason] at own
      rw [same.callId, same.paymentAttemptId]
      obtain ⟨⟨attempt, held, captured⟩, missed⟩ := settled.returned id was present own
      obtain ⟨kept, there, follows⟩ := effect.attempts.kept _ attempt held
      exact ⟨⟨kept, there, follows.captured captured⟩, missed.follow goes⟩
    · exact ⟨(asks own).captured, (asks own).missed⟩
  · intro id entry found earns
    rcases effect.ledger_change.earning found earns with
      old | ⟨attemptId, callId, call, key, of, named, present, pays, _, started⟩
    · obtain ⟨attemptId, callId, key, of, named, started⟩ := settled.earned id entry old earns
      exact ⟨attemptId, callId, key, of, named, started.follow goes⟩
    · exact ⟨attemptId, callId, key, of, named, call, present, pays, started⟩

theorem Settled.unscheduled : World.Unscheduled Settled := fun _ _ =>
  ⟨fun s => ⟨s.once, s.returned, s.earned⟩, fun s => ⟨s.once, s.returned, s.earned⟩⟩

theorem Settled.reached {w : World} (reached : World.Reached w) : Settled w.db := by
  have both : ShowsInStep w.db.shows w.db.calls ∧ Settled w.db := by
    refine World.reached_keeps (fun db => ShowsInStep db.shows db.calls ∧ Settled db) ?_
      ⟨.empty, .empty⟩ ?_ reached
    · intro db jobs
      exact and_congr_right' (Settled.unscheduled db jobs)
    · rintro ctx db m ⟨inStep, settled⟩
      exact ⟨inStep.effect (m.effect ctx db), settled.effect inStep (m.effect ctx db)⟩
  exact both.2

/-! ### Runs -/

theorem step_call_goes (w : World) (input : Ctx × Op) :
    Table.Follow (fun _ => CallGoes) (fun _ => True) w.db.calls (w.step input).db.calls := by
  rcases World.step_ran w input with ⟨_, later, same⟩ | ⟨m, earlier, later, _, same⟩
  · rw [same]
    exact .refl (fun _ => .refl) _
  · rw [same]
    exact (m.effect input.1 { w.db with scheduled := earlier }).call_goes

/-- A call that is missed is missed for ever. -/
theorem MissedFor.run {w : World} {callId : CallId} {attemptId : AttemptId}
    (missed : MissedFor w.db.calls callId attemptId) (inputs : List (Ctx × Op)) :
    MissedFor (run World.step w inputs).db.calls callId attemptId := by
  induction inputs generalizing w with
  | nil => exact missed
  | cons input rest ih => exact ih (missed.follow (step_call_goes w input))

/-- The call was live at some time in the run. -/
def WentLive (inputs : List (Ctx × Op)) (callId : CallId) : Prop :=
  ∃ front back call, inputs = front ++ back ∧
    (run World.step World.empty front).db.calls.get callId = some call ∧ call.status = .live

/-- The call is live at no time after the run, whatever follows. -/
def NeverGoesLive (inputs : List (Ctx × Op)) (callId : CallId) : Prop :=
  ∀ later call, (run World.step World.empty (inputs ++ later)).db.calls.get callId = some call →
    call.status ≠ .live

theorem WentLive.append {inputs : List (Ctx × Op)} {callId : CallId} (live : WentLive inputs callId)
    (later : List (Ctx × Op)) : WentLive (inputs ++ later) callId := by
  obtain ⟨front, back, call, rfl, found, status⟩ := live
  exact ⟨front, back ++ later, call, List.append_assoc .., found, status⟩

/-- A call is credited when it goes live. -/
theorem earning_went_live (inputs : List (Ctx × Op)) {id : Nat} {entry : LedgerEntry}
    (found : (run World.step World.empty inputs).db.ledger.ledgerEntries.get id = some entry)
    (earns : entry.kind = .earning) :
    ∃ callId, entry.callId = some callId ∧ WentLive inputs callId := by
  induction inputs using List.reverseRecOn generalizing id with
  | nil => cases found
  | append_singleton inputs input ih =>
      have old (was : (run World.step World.empty inputs).db.ledger.ledgerEntries.get id =
          some entry) : ∃ callId, entry.callId = some callId ∧
            WentLive (inputs ++ [input]) callId := by
        obtain ⟨callId, named, live⟩ := ih was
        exact ⟨callId, named, live.append [input]⟩
      rw [run_append, run_cons, run_nil] at found
      rcases World.step_ran (run World.step World.empty inputs) input with
        ⟨_, later, same⟩ | ⟨m, earlier, later, _, same⟩
      · rw [same] at found
        exact old found
      · rw [same] at found
        rcases (m.effect input.1 { (run World.step World.empty inputs).db with
          scheduled := earlier }).ledger_change.earning found earns with
          was | ⟨attemptId, callId, call, _, _, named, present, _, status, _⟩
        · exact old was
        · refine ⟨callId, named, inputs ++ [input], [], call, (List.append_nil _).symm, ?_, status⟩
          rw [run_append, run_cons, run_nil, same]
          exact present

/-- What a payment comes to after the run: one refund at most that Bling asked
for, of a charge for a call that never goes live, or one earning at most, of a
call that did. -/
structure RefundedOrEarned (inputs : List (Ctx × Op)) (db : DB) : Prop where
  one_refund : ∀ i j a b, db.paymentRefunds.get i = some a → db.paymentRefunds.get j = some b →
    a.reason ≠ .outsideBling → b.reason ≠ .outsideBling →
    a.paymentAttemptId = b.paymentAttemptId → i = j
  refunded : ∀ id refund, db.paymentRefunds.get id = some refund →
    refund.reason ≠ .outsideBling → CapturedIn db.paymentAttempts refund.paymentAttemptId ∧
      MissedFor db.calls refund.callId refund.paymentAttemptId ∧
      NeverGoesLive inputs refund.callId
  apart : ∀ id refund j entry, db.paymentRefunds.get id = some refund →
    refund.reason ≠ .outsideBling → db.ledger.ledgerEntries.get j = some entry →
    entry.kind = .earning → entry.paymentAttemptId ≠ some refund.paymentAttemptId
  earned : ∀ id entry, db.ledger.ledgerEntries.get id = some entry → entry.kind = .earning →
    ∃ attemptId callId call, entry.paymentAttemptId = some attemptId ∧
      entry.callId = some callId ∧ db.calls.get callId = some call ∧
      call.paymentAttemptId = some attemptId ∧ WentLive inputs callId
  one_earning : ∀ i j a b, db.ledger.ledgerEntries.get i = some a →
    db.ledger.ledgerEntries.get j = some b → a.kind = .earning → b.kind = .earning →
    a.paymentAttemptId = b.paymentAttemptId → i = j
  one_call : ∀ i j a b attemptId, db.calls.get i = some a → db.calls.get j = some b →
    a.paymentAttemptId = some attemptId → b.paymentAttemptId = some attemptId → i = j

/-- After any run, no payment is both refunded by Bling and earned. -/
theorem refunded_or_earned (inputs : List (Ctx × Op)) :
    RefundedOrEarned inputs (run World.step World.empty inputs).db := by
  have reached : World.Reached (run World.step World.empty inputs) := ⟨inputs, rfl⟩
  have settled := Settled.reached reached
  have linked := (Linked.reached reached).calls
  refine ⟨settled.once, ?_, ?_, ?_, ?_, linked.one⟩
  · intro id refund found own
    obtain ⟨captured, missed⟩ := settled.returned id refund found own
    refine ⟨captured, missed, ?_⟩
    intro later call located live
    rw [run_append] at located
    obtain ⟨other, same, _, isOver, _⟩ := missed.run later
    obtain rfl := Option.some.inj (located.symm.trans same)
    rcases isOver with is | is <;> rw [is] at live <;> cases live
  · intro id refund j entry found own posted earns of
    obtain ⟨_, call, present, pays, _, unstarted⟩ := settled.returned id refund found own
    obtain ⟨attemptId, callId, _, ofAttempt, _, other, located, paysToo, started⟩ :=
      settled.earned j entry posted earns
    obtain rfl := Option.some.inj (ofAttempt.symm.trans of)
    have same := linked.one callId refund.callId other call _ located present paysToo pays
    rw [same, present] at located
    exact started (Option.some.inj located ▸ unstarted)
  · intro id entry found earns
    obtain ⟨attemptId, callId, _, of, named, call, present, pays, _⟩ :=
      settled.earned id entry found earns
    obtain ⟨other, also, live⟩ := earning_went_live inputs found earns
    obtain rfl := Option.some.inj (named.symm.trans also)
    exact ⟨attemptId, callId, call, of, named, present, pays, live⟩
  · intro i j a b first second earnsFirst earnsSecond together
    obtain ⟨x, _, keyFirst, ofFirst, _⟩ := settled.earned i a first earnsFirst
    obtain ⟨y, _, keySecond, ofSecond, _⟩ := settled.earned j b second earnsSecond
    refine (Balanced.reached reached).keys i j a b first second ?_
    rw [ofFirst, ofSecond] at together
    rw [keyFirst, keySecond, Option.some.inj together]

end Bling
