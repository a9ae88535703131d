import Bling.Settlements

set_option autoImplicit false

namespace Bling

open Library

/-! After the first report of a capture, further ones change nothing. -/

/-! ### A capture that has been reported -/

def RefundedFor (refunds : Table PaymentRefund) (attemptId : AttemptId) : Prop :=
  ∃ id refund, refunds.get id = some refund ∧ refund.paymentAttemptId = attemptId

/-- The attempt is captured, and what follows from that has been done. -/
structure Reported (db : DB) (attemptId : AttemptId) : Prop where
  captured : ∃ attempt intentId, db.paymentAttempts.get attemptId = some attempt ∧
    attempt.status = .captured ∧ attempt.stripePaymentIntentId = some intentId
  calls : ∀ callId call, db.calls.get callId = some call →
    call.paymentAttemptId = some attemptId → call.status ≠ .paymentPending ∧
      (call.missed → RefundedFor db.paymentRefunds attemptId)

/-- A charge that is refunded is refunded once. -/
theorem requestRefund_again {ctx : Ctx} {db : DB} {attemptId : AttemptId}
    (refunded : RefundedFor db.paymentRefunds attemptId) (attempt : PaymentAttempt)
    (callId : CallId) (reason : RefundReason) :
    requestRefund ctx db attemptId attempt callId reason = db := by
  obtain ⟨id, refund, present, of⟩ := refunded
  rcases requestRefund_cases ctx db attemptId attempt callId reason with
    ⟨unchanged, _⟩ | ⟨_, _, _, first, _⟩
  · exact unchanged
  · exact absurd of (first id refund present)

/-- A captured charge is refunded once that is asked for. -/
theorem requestRefund_refunded {ctx : Ctx} {db : DB} {attemptId : AttemptId}
    {attempt : PaymentAttempt} {intentId : StripeId} (captured : attempt.status = .captured)
    (attached : attempt.stripePaymentIntentId = some intentId) (callId : CallId)
    (reason : RefundReason) : RefundedFor
      (requestRefund ctx db attemptId attempt callId reason).paymentRefunds attemptId := by
  rcases requestRefund_cases ctx db attemptId attempt callId reason with
    ⟨unchanged, none | other | ⟨id, row, present, of⟩⟩ | ⟨_, _, _, _, asked⟩
  · rw [attached] at none
    cases none
  · exact absurd captured other
  · rw [unchanged]
    exact ⟨id, row, present, of⟩
  · rw [asked]
    exact ⟨_, _, Table.get_insert_next _ _, rfl⟩

/-- A call of an ended show that has not started will not. -/
theorem Call.missed_of_over {shows : Table Show} {calls : Table Call}
    (inStep : ShowsInStep shows calls) {callId : CallId} {call : Call}
    (present : calls.get callId = some call) (settled : call.status ≠ .paymentPending)
    (unstarted : call.startedAt = none) (isOver : ¬ LiveIn shows call.showId) : call.missed := by
  have closed : call.status ∉ connectableStatuses := by
    intro connectable
    exact isOver ((inStep.hosted callId call present).2 connectable)
  refine ⟨?_, unstarted⟩
  cases status : call.status <;> simp_all [connectableStatuses]

/-- A report of a capture that has been reported is inert, whatever has become
of the call and its show. -/
theorem recordCaptured_again {db : DB} {attemptId : AttemptId} (reported : Reported db attemptId)
    (inStep : ShowsInStep db.shows db.calls) (ctx : Ctx) {attempt : PaymentAttempt}
    (present : db.paymentAttempts.get attemptId = some attempt) :
    recordCaptured ctx db attemptId attempt = db := by
  obtain ⟨same, _, held, captured, _⟩ := reported.captured
  obtain rfl := Option.some.inj (present.symm.trans held)
  unfold recordCaptured
  rw [if_neg (not_not.mpr captured)]
  dsimp only
  rw [present]
  cases found : callForAttempt db attemptId with
  | none => rfl
  | some row =>
      obtain ⟨callId, call⟩ := row
      obtain ⟨located, pays⟩ := callForAttempt_present found
      obtain ⟨settled, refunded⟩ := reported.calls callId call located pays
      dsimp only
      rw [if_neg fun pending => settled pending.1]
      split
      · rename_i missed
        have isOver : ¬ LiveIn db.shows call.showId := fun live => missed.2 (showLive_iff.mpr live)
        exact requestRefund_again
          (refunded (call.missed_of_over inStep located settled missed.1 isOver)) ..
      · rfl

/-! ### Later steps keep it so -/

theorem RefundedFor.follow {before after : Table PaymentRefund} {attemptId : AttemptId}
    {starts : PaymentRefund → Prop} (refunded : RefundedFor before attemptId)
    (follow : Table.Follow (fun _ => SameRequest) starts before after) :
    RefundedFor after attemptId := by
  obtain ⟨id, refund, present, of⟩ := refunded
  obtain ⟨row, kept, same⟩ := follow.kept id refund present
  exact ⟨id, row, kept, same.paymentAttemptId.trans of⟩

theorem Reported.effect {ctx : Ctx} {db after : DB} {m : Mutation} {attemptId : AttemptId}
    (reported : Reported db attemptId) (inStep : ShowsInStep db.shows db.calls)
    (effect : Effect ctx db m after) : Reported after attemptId := by
  obtain ⟨attempt, intentId, held, captured, attached⟩ := reported.captured
  have asked := effect.refunds_asked inStep
  refine ⟨?_, ?_⟩
  · obtain ⟨next, there, follows⟩ := effect.attempts.kept attemptId attempt held
    exact ⟨next, intentId, there, follows.captured captured, follows.intent intentId attached⟩
  intro id call found pays
  have old (was : db.calls.get id = some call) : call.status ≠ .paymentPending ∧
      (call.missed → RefundedFor after.paymentRefunds attemptId) := by
    obtain ⟨settled, refunded⟩ := reported.calls id call was pays
    exact ⟨settled, fun missed => (refunded missed).follow asked⟩
  -- A call that waits for a payment waits for another one.
  have other {callId : CallId} {c : Call} (located : db.calls.get callId = some c)
      (pending : c.status = .paymentPending) (uses : c.paymentAttemptId = some attemptId) : False :=
    (reported.calls callId c located uses).1 pending
  cases effect with
  | moved callId c target shows present allowed moves isOver same =>
      rw [same.calls] at found
      rcases Table.get_patch_row present found with ⟨_, rfl⟩ | ⟨_, was⟩
      · refine ⟨(canTransition_target allowed).2.1, ?_⟩
        rintro ⟨ends, unstarted⟩
        have before : c.startedAt = none := by
          by_contra started
          simp [transitionPatch, started] at unstarted
        rw [same.paymentRefunds]
        rcases finishCall_refunds ctx db callId c target with
          ⟨_, goesOn⟩ | ⟨_, _, attemptId', attempt', uses, holds, requested⟩
        · exact absurd ⟨ends, before, attemptId, attempt, pays, held⟩ goesOn
        · obtain rfl := Option.some.inj (uses.symm.trans pays)
          obtain rfl := Option.some.inj (held.symm.trans holds)
          dsimp only
          rw [requested]
          exact requestRefund_refunded captured attached ..
      · exact old was
  | selected showId hotline entryId entry mode row asked' host live idle present inShow waiting
      holds paid same =>
      rw [same.calls, openCall_calls] at found
      rcases Table.get_insert_row found with ⟨_, rfl⟩ | was
      · cases row with
        | none => cases pays
        | some row =>
            obtain rfl : row.1 = attemptId := Option.some.inj pays
            obtain ⟨priced, _, located⟩ := entryAttempt_present holds.symm
            obtain ⟨_, named, authorized⟩ := paid priced
            obtain rfl := Option.some.inj named
            rw [located] at held
            obtain rfl := Option.some.inj held
            rw [captured] at authorized
            cases authorized
      · exact old was
  | callOpened other' a capturedAt method callId c asked' present located pending live same =>
      rw [same.calls] at found
      obtain ⟨there, uses⟩ := callForAttempt_present located
      rcases Table.get_patch_row there found with ⟨_, rfl⟩ | ⟨_, was⟩
      · exact (other there pending pays).elim
      · exact old was
  | callMissed other' a capturedAt method callId c asked' present located unstarted isOver pending
      same =>
      rw [same.calls] at found
      obtain ⟨there, uses⟩ := callForAttempt_present located
      rcases Table.get_patch_row there found with ⟨_, rfl⟩ | ⟨_, was⟩
      · exact (other there pending pays).elim
      · exact old was
  | notCaptured other' a status failureCode canceledAt calls queueEntries asked' present uncaptured
      failed released same =>
      rw [same.calls] at found
      dsimp only at found
      rcases failed with ⟨unchanged, _⟩ | ⟨callId, c, located, pending, patched⟩
      · rw [unchanged] at found
        exact old found
      · rw [patched] at found
        obtain ⟨there, uses⟩ := callForAttempt_present located
        rcases Table.get_patch_row there found with ⟨_, rfl⟩ | ⟨_, was⟩
        · exact (other there pending pays).elim
        · exact old was
  | _ =>
      rename_i same
      rw [same.calls] at found
      exact old found

/-! ### The first report -/

/-- The log of events after a mutation that reports a capture. -/
def Logged (db : DB) (m : Mutation) (events : Table StripeEvent) : Prop :=
  events = db.stripeEvents ∨ ∃ event, m = .applyEvent event ∧
    events = db.stripeEvents.insert ⟨event.eventId, event.type, event.connectedAccountId⟩

/-- Whoever reports a capture, the database is what `recordCaptured` makes of
it, but for the log of events and the card the payment saves. -/
theorem Mutation.apply_captured (ctx : Ctx) {db : DB} {m : Mutation} {attemptId : AttemptId}
    {attempt : PaymentAttempt} (asked : m.report db = some (attemptId, .captured))
    (present : db.paymentAttempts.get attemptId = some attempt) :
    ∃ events method, Logged db m events ∧ m.apply ctx db =
      { recordCaptured ctx { db with stripeEvents := events } attemptId attempt with
        paymentAttempts := db.paymentAttempts.patch attemptId
          (capturedPatch (captureTime ctx attempt) method) } := by
  have attempts (events : Table StripeEvent) :=
    recordCaptured_attempts ctx { db with stripeEvents := events } present
  cases m with
  | captured other =>
      obtain ⟨rfl, _⟩ := Prod.mk.inj (Option.some.inj asked)
      refine ⟨db.stripeEvents, attempt.savedPaymentMethodId, Or.inl rfl, ?_⟩
      simp only [Mutation.apply, Bling.captured, present]
      rw [← recordCaptured_attempts ctx db present]
  | notCaptured other status failureCode => cases (Prod.mk.inj (Option.some.inj asked)).2
  | applyEvent event =>
      obtain ⟨unseen, intent, other, object, found, report⟩ := Mutation.report_event asked
      obtain rfl := Option.some.inj (present.symm.trans (attemptForIntent_present found).1)
      have succeeded : event.type = .paymentIntentSucceeded := by
        by_contra otherwise
        rw [intentReport, if_neg otherwise] at report
        cases report
      have sameAttempt (events : Table StripeEvent) :
          attemptForIntent { db with stripeEvents := events } intent.id =
            attemptForIntent db intent.id := rfl
      simp only [Mutation.apply, Bling.applyEvent, unseen, Bool.false_eq_true, if_false, object,
        applyIntent, sameAttempt, found, if_pos succeeded]
      let events := db.stripeEvents.insert
        ⟨event.eventId, event.type, event.connectedAccountId⟩
      split
      · refine ⟨events, intent.paymentMethodId, Or.inr ⟨event, rfl, rfl⟩, ?_⟩
        rw [attempts, Table.patch_patch]
        rfl
      · refine ⟨events, attempt.savedPaymentMethodId, Or.inr ⟨event, rfl, rfl⟩, ?_⟩
        rw [← attempts events]
  | _ => cases asked

/-- Once the capture has been reported, a report only adds to the log and may
save a card. -/
theorem Reported.report {ctx : Ctx} {db : DB} {m : Mutation} {attemptId : AttemptId}
    (reported : Reported db attemptId) (inStep : ShowsInStep db.shows db.calls)
    (asked : m.report db = some (attemptId, .captured)) :
    ∃ events method, Logged db m events ∧ m.apply ctx db =
      { db with
        stripeEvents := events
        paymentAttempts := db.paymentAttempts.patch attemptId fun a =>
          { a with savedPaymentMethodId := method } } := by
  obtain ⟨attempt, intentId, present, captured, attached⟩ := reported.captured
  obtain ⟨events, method, logged, after⟩ := m.apply_captured ctx asked present
  refine ⟨events, method, logged, ?_⟩
  have again : recordCaptured ctx { db with stripeEvents := events } attemptId attempt =
      { db with stripeEvents := events } := by
    have still : Reported { db with stripeEvents := events } attemptId :=
      ⟨reported.captured, reported.calls⟩
    exact recordCaptured_again still inStep ctx present
  have onlyCard : db.paymentAttempts.patch attemptId
        (capturedPatch (captureTime ctx attempt) method) =
      db.paymentAttempts.patch attemptId fun a => { a with savedPaymentMethodId := method } := by
    apply Table.patch_congr
    intro a found
    obtain rfl := Option.some.inj (present.symm.trans found)
    have time : captureTime ctx attempt = attempt.capturedAt := if_pos captured
    simp only [capturedPatch, time, ← captured]
  rw [after, again, onlyCard]

/-- What a report makes of a call that has waited for it. -/
theorem recordCaptured_pending (ctx : Ctx) {db : DB} {attemptId : AttemptId}
    {attempt : PaymentAttempt} (present : db.paymentAttempts.get attemptId = some attempt)
    {callId : CallId} {call : Call} (found : callForAttempt db attemptId = some (callId, call))
    (pending : call.status = .paymentPending) (unstarted : call.startedAt = none) :
    let isCaptured := capturedPatch (captureTime ctx attempt) attempt.savedPaymentMethodId
    let recorded : DB :=
      { db with paymentAttempts := db.paymentAttempts.patch attemptId isCaptured }
    recordCaptured ctx db attemptId attempt =
      if showLive db call.showId then
        { recorded with calls := db.calls.patch callId fun c => { c with status := .created } }
      else requestRefund ctx
        { recorded with
          calls := db.calls.patch callId (failedPatch ctx)
          queueEntries := db.queueEntries.patch call.queueEntryId fun e =>
            { e with status := .ended } }
        attemptId (isCaptured attempt) callId .showEndedBeforeCallStarted := by
  intro isCaptured recorded
  have there : recorded.paymentAttempts.get attemptId = some (isCaptured attempt) :=
    Table.get_patch_self present _
  have sameCall : callForAttempt recorded attemptId = some (callId, call) := found
  unfold recordCaptured
  rw [captured_attempts ctx db present]
  dsimp only
  rw [there, sameCall]
  dsimp only
  by_cases live : showLive db call.showId = true
  · rw [if_pos live, if_pos ⟨pending, live⟩]
  · rw [if_neg live, if_neg fun both => live both.2, if_pos ⟨unstarted, live⟩, if_pos pending]
    rfl

/-- The first report settles the call that has waited for it. -/
theorem Reported.first {ctx : Ctx} {db : DB} {m : Mutation} {attemptId : AttemptId}
    {attempt : PaymentAttempt} {intentId : StripeId} (captures : Captures db)
    (present : db.paymentAttempts.get attemptId = some attempt)
    (attached : attempt.stripePaymentIntentId = some intentId)
    (capturing : attempt.status = .capturing)
    (asked : m.report db = some (attemptId, .captured)) :
    Reported (m.apply ctx db) attemptId := by
  obtain ⟨events, method, _, after⟩ := m.apply_captured ctx asked present
  obtain ⟨callId, call, located, pays, pending⟩ :=
    captures.paired.capturing attemptId attempt present capturing
  have only (id : CallId) (c : Call) (there : db.calls.get id = some c)
      (uses : c.paymentAttemptId = some attemptId) : id = callId :=
    captures.linked.calls.one id callId c call attemptId there located uses pays
  have found : callForAttempt { db with stripeEvents := events } attemptId =
      some (callId, call) := by
    unfold callForAttempt
    apply Table.first_of_unique located (by simp [pays])
    intro id c there uses
    exact only id c there (by simpa using uses)
  have unstarted : call.startedAt = none :=
    captures.linked.calls.unstarted callId call located (by simp [pending, CallStatus.beforeStart])
  have record := @recordCaptured_pending ctx { db with stripeEvents := events } attemptId attempt
    present callId call found pending unstarted
  -- Of the calls, only the one that has waited is written to.
  have settles (calls : Table Call) (refunds : Table PaymentRefund) (f : Call → Call)
      (patched : calls = db.calls.patch callId f) (settled : (f call).status ≠ .paymentPending)
      (refunded : (f call).missed → RefundedFor refunds attemptId) (id : CallId) (c : Call)
      (there : calls.get id = some c) (uses : c.paymentAttemptId = some attemptId) :
      c.status ≠ .paymentPending ∧ (c.missed → RefundedFor refunds attemptId) := by
    rw [patched] at there
    rcases Table.get_patch_row located there with ⟨_, rfl⟩ | ⟨apart, was⟩
    · exact ⟨settled, refunded⟩
    · exact absurd (only id c was uses) apart
  constructor
  · rw [after]
    exact ⟨_, intentId, Table.get_patch_self present _, rfl, attached⟩
  · intro id c there uses
    rw [after, record] at there ⊢
    dsimp only at there ⊢
    by_cases live : showLive { db with stripeEvents := events } call.showId = true
    · rw [if_pos live] at there ⊢
      refine settles _ _ _ rfl (by simp) ?_ id c there uses
      rintro ⟨ended | failed, _⟩
      · cases ended
      · cases failed
    · rw [if_neg live] at there ⊢
      refine settles _ _ (failedPatch ctx) ?_ (by simp [failedPatch]) (fun _ => ?_) id c there uses
      · rw [(requestRefund_same ctx _ _ _ _ _).calls]
      · have isCaptured : (capturedPatch (captureTime ctx attempt)
            attempt.savedPaymentMethodId attempt).status = .captured := rfl
        exact requestRefund_refunded isCaptured attached ..

end Bling
