import Bling.Backend

set_option autoImplicit false

namespace Bling

open Library

/-! What the functions of the backend leave alone, and what they write to the
tables that decide payments. -/

/-- Two databases that agree on users, shows, calls, payments, payouts and the ledger. -/
structure SameCore (before after : DB) : Prop where
  users : after.users = before.users
  showTiers : after.showTiers = before.showTiers
  shows : after.shows = before.shows
  queueEntries : after.queueEntries = before.queueEntries
  calls : after.calls = before.calls
  paymentAttempts : after.paymentAttempts = before.paymentAttempts
  paymentRefunds : after.paymentRefunds = before.paymentRefunds
  paymentDisputes : after.paymentDisputes = before.paymentDisputes
  ledger : after.ledger = before.ledger
  payoutItems : after.payoutItems = before.payoutItems
  payoutRuns : after.payoutRuns = before.payoutRuns

namespace SameCore

theorem refl (db : DB) : SameCore db db := ⟨rfl, rfl, rfl, rfl, rfl, rfl, rfl, rfl, rfl, rfl, rfl⟩

theorem trans {a b c : DB} (first : SameCore a b) (second : SameCore b c) : SameCore a c :=
  ⟨second.users.trans first.users, second.showTiers.trans first.showTiers,
    second.shows.trans first.shows, second.queueEntries.trans first.queueEntries,
    second.calls.trans first.calls, second.paymentAttempts.trans first.paymentAttempts,
    second.paymentRefunds.trans first.paymentRefunds,
    second.paymentDisputes.trans first.paymentDisputes, second.ledger.trans first.ledger,
    second.payoutItems.trans first.payoutItems,
    second.payoutRuns.trans first.payoutRuns⟩

theorem symm {a b : DB} (same : SameCore a b) : SameCore b a :=
  ⟨same.users.symm, same.showTiers.symm, same.shows.symm, same.queueEntries.symm,
    same.calls.symm, same.paymentAttempts.symm, same.paymentRefunds.symm,
    same.paymentDisputes.symm, same.ledger.symm, same.payoutItems.symm,
    same.payoutRuns.symm⟩

theorem runAt (db : DB) (time : Time) (job : Job) : SameCore db (db.runAt time job) :=
  ⟨rfl, rfl, rfl, rfl, rfl, rfl, rfl, rfl, rfl, rfl, rfl⟩

theorem runAfter (db : DB) (now delay : Time) (job : Job) :
    SameCore db (db.runAfter now delay job) := runAt db _ job

/-- A job that is scheduled only in some cases. -/
theorem thenAfter {start db : DB} (same : SameCore start db) (skips : Prop) [Decidable skips]
    (now delay : Time) (job : Job) :
    SameCore start (if skips then db else db.runAfter now delay job) := by
  split
  · exact same
  · exact same.trans (runAfter db now delay job)

theorem scheduled (db : DB) (jobs : List (Time × Job)) :
    SameCore db { db with scheduled := jobs } :=
  ⟨rfl, rfl, rfl, rfl, rfl, rfl, rfl, rfl, rfl, rfl, rfl⟩

end SameCore

/-! ### Functions that leave the core tables alone -/

theorem scheduleCancel_same (ctx : Ctx) (db : DB) (attemptId : AttemptId)
    (attempt : PaymentAttempt) (reason : CancelReason) :
    SameCore db (scheduleCancel ctx db attemptId attempt reason) := by
  unfold scheduleCancel
  split
  · exact .runAfter db _ _ _
  · exact .refl db

theorem saveAccount_same (db : DB) (creatorId : UserId) (account : PayoutAccount) :
    SameCore db (saveAccount db creatorId account) := by
  unfold saveAccount
  dsimp only
  split
  · exact ⟨rfl, rfl, rfl, rfl, rfl, rfl, rfl, rfl, rfl, rfl, rfl⟩
  · split <;> exact ⟨rfl, rfl, rfl, rfl, rfl, rfl, rfl, rfl, rfl, rfl, rfl⟩

theorem heartbeat_same (ctx : Ctx) (db : DB) (userId : Option UserId) (callId : CallId) :
    SameCore db (commit db (heartbeat ctx db userId callId)) := by
  unfold heartbeat
  cases callForParticipant db userId callId with
  | error _ => exact .refl db
  | ok found =>
      simp only [bind, Except.bind]
      split
      · exact .refl db
      · exact ⟨rfl, rfl, rfl, rfl, rfl, rfl, rfl, rfl, rfl, rfl, rfl⟩

theorem markDisconnected_same (ctx : Ctx) (db : DB) (rowId : Nat) (callId : CallId)
    (role : CallRole) : SameCore db (markDisconnected ctx db rowId callId role) :=
  ⟨rfl, rfl, rfl, rfl, rfl, rfl, rfl, rfl, rfl, rfl, rfl⟩

theorem leaveCall_same (ctx : Ctx) (db : DB) (userId : Option UserId) (callId : CallId) :
    SameCore db (commit db (leaveCall ctx db userId callId)) := by
  unfold leaveCall
  cases callForParticipant db userId callId with
  | error _ => exact .refl db
  | ok found =>
      simp only [bind, Except.bind]
      split
      · exact .refl db
      · split
        · split
          · exact markDisconnected_same ctx db _ _ _
          · exact .refl db
        · exact .refl db

theorem checkSeen_same (ctx : Ctx) (db : DB) (callId : CallId) (role : CallRole) (seenAt : Time) :
    SameCore db (checkSeen ctx db callId role seenAt) := by
  unfold checkSeen
  split
  · exact .refl db
  · split
    · exact .refl db
    · exact markDisconnected_same ctx db _ _ _

theorem applyPayout_same (db : DB) (connected : StripeId) (payout : PayoutObject) :
    SameCore db (applyPayout db connected payout) := by
  unfold applyPayout
  split
  · exact .refl db
  · split <;> exact ⟨rfl, rfl, rfl, rfl, rfl, rfl, rfl, rfl, rfl, rfl, rfl⟩

/-! ### Refund requests and transitions -/

/-- The row a refund request inserts. -/
def refundRequest (ctx : Ctx) (attemptId : AttemptId) (attempt : PaymentAttempt) (callId : CallId)
    (intentId : StripeId) (reason : RefundReason) : PaymentRefund :=
  { paymentAttemptId := attemptId
    callId
    stripePaymentIntentId := intentId
    stripeRefundId := none
    amountCents := attempt.amountCents
    currency := attempt.currency
    reason
    status := .requested
    attempts := 0
    failureCode := none
    nextAttemptAt := ctx.now
    processedAt := none }

/-- A refund request either changes nothing, since the attempt is not captured
or has a row already, or inserts one full refund. -/
theorem requestRefund_cases (ctx : Ctx) (db : DB) (attemptId : AttemptId)
    (attempt : PaymentAttempt) (callId : CallId) (reason : RefundReason) :
    (requestRefund ctx db attemptId attempt callId reason = db ∧
      (attempt.stripePaymentIntentId = none ∨ attempt.status ≠ .captured ∨
        ∃ id row, db.paymentRefunds.get id = some row ∧ row.paymentAttemptId = attemptId)) ∨
    ∃ intentId, attempt.stripePaymentIntentId = some intentId ∧ attempt.status = .captured ∧
      (∀ id row, db.paymentRefunds.get id = some row → row.paymentAttemptId ≠ attemptId) ∧
      requestRefund ctx db attemptId attempt callId reason =
        { db with
          paymentRefunds := db.paymentRefunds.insert
            (refundRequest ctx attemptId attempt callId intentId reason) }.runAfter ctx.now 0
          (.runRefund db.paymentRefunds.next) := by
  unfold requestRefund
  split
  · rename_i absent
    exact Or.inl ⟨rfl, Or.inl absent⟩
  · rename_i intentId attached
    split
    · rename_i uncaptured
      exact Or.inl ⟨rfl, Or.inr (Or.inl uncaptured)⟩
    · rename_i isCaptured
      split
      · rename_i row found
        obtain ⟨present, matched⟩ := Table.first_row found
        exact Or.inl ⟨rfl, Or.inr (Or.inr ⟨row.1, row.2, present, by simpa using matched⟩)⟩
      · rename_i absent
        refine Or.inr ⟨intentId, attached, not_not.mp isCaptured, ?_, rfl⟩
        intro id row present
        simpa using Table.first_none absent present

/-- A refund request touches refunds only. -/
theorem requestRefund_same (ctx : Ctx) (db : DB) (attemptId : AttemptId)
    (attempt : PaymentAttempt) (callId : CallId) (reason : RefundReason) :
    SameCore
      { db with paymentRefunds :=
          (requestRefund ctx db attemptId attempt callId reason).paymentRefunds }
      (requestRefund ctx db attemptId attempt callId reason) := by
  unfold requestRefund
  split
  · exact .refl db
  · split
    · exact .refl db
    · split
      · exact .refl db
      · exact ⟨rfl, rfl, rfl, rfl, rfl, rfl, rfl, rfl, rfl, rfl, rfl⟩

/-- A request reads the attempt it is given and the refund table alone. -/
theorem requestRefund_congr (ctx : Ctx) {db other : DB} (attemptId : AttemptId)
    (attempt : PaymentAttempt) (callId : CallId) (reason : RefundReason)
    (same : other.paymentRefunds = db.paymentRefunds) :
    (requestRefund ctx other attemptId attempt callId reason).paymentRefunds =
      (requestRefund ctx db attemptId attempt callId reason).paymentRefunds := by
  unfold requestRefund
  cases attempt.stripePaymentIntentId with
  | none => exact same
  | some intentId =>
      simp only [same]
      split
      · exact same
      · split
        · exact same
        · simp only [DB.runAfter, DB.runAt]

/-- Only a first start credits the ledger. -/
theorem goLive_ledger (ctx : Ctx) (db : DB) (callId : CallId) (call : Call)
    (target : CallStatus) :
    (goLive ctx db callId call target).ledger = db.ledger ∨
      target = .live ∧ call.startedAt = none ∧ ∃ attemptId attempt,
        call.paymentAttemptId = some attemptId ∧
        db.paymentAttempts.get attemptId = some attempt ∧
        (goLive ctx db callId call target).ledger =
          creditEarning ctx.env db.ledger attemptId attempt callId ctx.now := by
  unfold goLive
  split
  · rename_i starts
    dsimp only [DB.runAt]
    split
    · exact Or.inl rfl
    · rename_i attemptId paid
      split
      · exact Or.inl rfl
      · rename_i attempt present
        exact Or.inr ⟨starts.1, starts.2, attemptId, attempt, paid, present, rfl⟩
  · exact Or.inl rfl

theorem goLive_other (ctx : Ctx) (db : DB) (callId : CallId) (call : Call) {target : CallStatus}
    (other : target ≠ .live) : goLive ctx db callId call target = db :=
  if_neg fun starts => other starts.1

theorem goLive_same (ctx : Ctx) (db : DB) (callId : CallId) (call : Call) (target : CallStatus) :
    SameCore { db with ledger := (goLive ctx db callId call target).ledger }
      (goLive ctx db callId call target) := by
  unfold goLive
  split
  · dsimp only
    split
    · exact ⟨rfl, rfl, rfl, rfl, rfl, rfl, rfl, rfl, rfl, rfl, rfl⟩
    · split <;> exact ⟨rfl, rfl, rfl, rfl, rfl, rfl, rfl, rfl, rfl, rfl, rfl⟩
  · exact .refl db

def finishReason (target : CallStatus) : RefundReason :=
  if target = .failed then .callFailedBeforeLive else .callEndedBeforeLive

/-- Only the end of a paid call that never started asks for a refund. -/
theorem finishCall_refunds (ctx : Ctx) (db : DB) (callId : CallId) (call : Call)
    (target : CallStatus) :
    ((finishCall ctx db callId call target).paymentRefunds = db.paymentRefunds ∧
      ¬ ((target = .ended ∨ target = .failed) ∧ call.startedAt = none ∧ ∃ attemptId attempt,
        call.paymentAttemptId = some attemptId ∧
        db.paymentAttempts.get attemptId = some attempt)) ∨
    ((target = .ended ∨ target = .failed) ∧ call.startedAt = none ∧ ∃ attemptId attempt,
      call.paymentAttemptId = some attemptId ∧
      db.paymentAttempts.get attemptId = some attempt ∧
      (finishCall ctx db callId call target).paymentRefunds =
        (requestRefund ctx db attemptId attempt callId (finishReason target)).paymentRefunds) := by
  unfold finishCall
  split
  · rename_i finishes
    dsimp only
    split
    · rename_i unstarted
      split
      · rename_i unpaid
        refine Or.inl ⟨rfl, ?_⟩
        rintro ⟨_, _, attemptId, _, paid, _⟩
        simp [unpaid] at paid
      · rename_i attemptId paid
        split
        · rename_i absent
          refine Or.inl ⟨rfl, ?_⟩
          rintro ⟨_, _, other, attempt, paidBy, present⟩
          rw [← Option.some.inj (paid.symm.trans paidBy), absent] at present
          cases present
        · rename_i attempt present
          exact Or.inr ⟨finishes, unstarted, attemptId, attempt, paid, present, rfl⟩
    · rename_i started
      exact Or.inl ⟨rfl, fun asked => started asked.2.1⟩
  · rename_i continues
    exact Or.inl ⟨rfl, fun asked => continues asked.1⟩

theorem finishCall_same (ctx : Ctx) (db : DB) (callId : CallId) (call : Call)
    (target : CallStatus) :
    SameCore { db with paymentRefunds := (finishCall ctx db callId call target).paymentRefunds }
      (finishCall ctx db callId call target) := by
  unfold finishCall
  split
  · dsimp only
    split
    · split
      · exact ⟨rfl, rfl, rfl, rfl, rfl, rfl, rfl, rfl, rfl, rfl, rfl⟩
      · split
        · exact ⟨rfl, rfl, rfl, rfl, rfl, rfl, rfl, rfl, rfl, rfl, rfl⟩
        · have same := requestRefund_same ctx db
          exact ⟨(same _ _ _ _).users, (same _ _ _ _).showTiers, (same _ _ _ _).shows,
            (same _ _ _ _).queueEntries, (same _ _ _ _).calls, (same _ _ _ _).paymentAttempts,
            (same _ _ _ _).paymentRefunds, (same _ _ _ _).paymentDisputes,
            (same _ _ _ _).ledger, (same _ _ _ _).payoutItems,
            (same _ _ _ _).payoutRuns⟩
    · exact ⟨rfl, rfl, rfl, rfl, rfl, rfl, rfl, rfl, rfl, rfl, rfl⟩
  · exact .refl db

theorem finishCall_congr (ctx : Ctx) (db other : DB) (callId : CallId) (call : Call)
    (target : CallStatus) (attempts : other.paymentAttempts = db.paymentAttempts)
    (refunds : other.paymentRefunds = db.paymentRefunds) :
    (finishCall ctx other callId call target).paymentRefunds =
      (finishCall ctx db callId call target).paymentRefunds := by
  unfold finishCall
  split
  · dsimp only [DB.runAfter, DB.runAt]
    split
    · split
      · exact refunds
      · rw [attempts]
        split
        · exact refunds
        · exact requestRefund_congr ctx _ _ _ _ refunds
    · exact refunds
  · exact refunds

/-- What a transition writes to the core tables. -/
theorem moveCall_same (ctx : Ctx) (db : DB) (callId : CallId) (call : Call) (target : CallStatus) :
    SameCore
      { db with
        calls := db.calls.patch callId (transitionPatch ctx target)
        queueEntries := db.queueEntries.patch call.queueEntryId fun e =>
          { e with status := entryStatusFor target }
        paymentRefunds := (finishCall ctx db callId call target).paymentRefunds
        ledger := (goLive ctx db callId call target).ledger }
      (moveCall ctx db callId call target) := by
  unfold moveCall
  dsimp only
  have live := goLive_same ctx db callId call target
  have finish := finishCall_same ctx
    { goLive ctx db callId call target with
      calls := (goLive ctx db callId call target).calls.patch callId (transitionPatch ctx target)
      queueEntries := (goLive ctx db callId call target).queueEntries.patch call.queueEntryId
        fun e => { e with status := entryStatusFor target } } callId call target
  have refunds := finishCall_congr ctx db
    { goLive ctx db callId call target with
      calls := (goLive ctx db callId call target).calls.patch callId (transitionPatch ctx target)
      queueEntries := (goLive ctx db callId call target).queueEntries.patch call.queueEntryId
        fun e => { e with status := entryStatusFor target } } callId call target
    live.paymentAttempts live.paymentRefunds
  refine ⟨finish.users.trans live.users, finish.showTiers.trans live.showTiers,
    finish.shows.trans live.shows, ?_, ?_, finish.paymentAttempts.trans live.paymentAttempts,
    refunds, finish.paymentDisputes.trans live.paymentDisputes, finish.ledger,
    finish.payoutItems.trans live.payoutItems,
    finish.payoutRuns.trans live.payoutRuns⟩
  · rw [finish.queueEntries]
    dsimp only
    rw [live.queueEntries]
  · rw [finish.calls]
    dsimp only
    rw [live.calls]

end Bling
