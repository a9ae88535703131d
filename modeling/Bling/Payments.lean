import Bling.Ledger

set_option autoImplicit false

namespace Bling

open Library

/-! Payment state changes, from `lib/payments.ts`, and the mutations of
`payments.ts`. Each runs inside one transaction. -/

/-- Asks Stripe to release a hold (scheduled, since mutations cannot call out). -/
def scheduleCancel (ctx : Ctx) (db : DB) (attemptId : AttemptId) (attempt : PaymentAttempt)
    (reason : CancelReason) : DB :=
  if attempt.stripePaymentIntentId.isSome ∧
      (attempt.status = .created ∨ attempt.status = .authorized) then
    db.runAfter ctx.now 0 (.cancelIntent attemptId reason)
  else db

/-- Records one refund per captured attempt and starts processing it. -/
def requestRefund (ctx : Ctx) (db : DB) (attemptId : AttemptId) (attempt : PaymentAttempt)
    (callId : CallId) (reason : RefundReason) : DB :=
  match attempt.stripePaymentIntentId with
  | none => db
  | some intentId =>
    if attempt.status ≠ .captured then db
    else match db.paymentRefunds.first fun r => r.paymentAttemptId == attemptId with
      | some _ => db
      | none =>
        let refundId := db.paymentRefunds.next
        { db with
          paymentRefunds := db.paymentRefunds.insert
            { paymentAttemptId := attemptId
              callId
              stripePaymentIntentId := intentId
              stripeRefundId := none
              amountCents := attempt.amountCents
              currency := attempt.currency
              reason
              status := .requested
              attempts := 0
              failureCode := none
              nextAttemptAt := ctx.now
              processedAt := none } }.runAfter ctx.now 0 (.runRefund refundId)

def callForAttempt (db : DB) (attemptId : AttemptId) : Option (CallId × Call) :=
  db.calls.first fun call => call.paymentAttemptId == some attemptId

/-- `show?.status === "LIVE"`. -/
def showLive (db : DB) (showId : ShowId) : Bool :=
  (db.shows.get showId).any fun s => s.status == .live

/-- Stripe captured the payment. A paid call waiting on the capture opens; if
its show ended meanwhile, the call fails and the payment is refunded. -/
def recordCaptured (ctx : Ctx) (db : DB) (attemptId : AttemptId) (attempt : PaymentAttempt) : DB :=
  let db :=
    if attempt.status ≠ .captured then
      { db with paymentAttempts := db.paymentAttempts.patch attemptId fun a =>
          { a with status := .captured
                   capturedAt := some (attempt.capturedAt.getD ctx.now) } }
    else db
  match db.paymentAttempts.get attemptId, callForAttempt db attemptId with
  | some captured, some (callId, call) =>
    if call.status = .paymentPending ∧ showLive db call.showId then
      { db with calls := db.calls.patch callId fun c => { c with status := .created } }
    else if call.startedAt = none ∧ ¬ showLive db call.showId then
      let db :=
        if call.status = .paymentPending then
          { db with
            calls := db.calls.patch callId fun c =>
              { c with status := .failed, endedAt := some ctx.now }
            queueEntries := db.queueEntries.patch call.queueEntryId fun e =>
              { e with status := .ended } }
        else db
      requestRefund ctx db attemptId captured callId .showEndedBeforeCallStarted
    else db
  | _, _ => db

/-- The statuses `recordNotCaptured` may set. -/
inductive NotCaptured where
  | canceled | failed
deriving DecidableEq

def NotCaptured.status : NotCaptured → PaymentStatus
  | .canceled => .canceled
  | .failed => .failed

/-- The payment will not be captured. A paid call waiting on it fails, and the
caller is released from the queue so they can try again. -/
def recordNotCaptured (ctx : Ctx) (db : DB) (attemptId : AttemptId) (attempt : PaymentAttempt)
    (status : NotCaptured) (failureCode : Option String) : DB :=
  if attempt.status = .captured then db
  else
    let db := { db with paymentAttempts := db.paymentAttempts.patch attemptId fun a =>
      { a with
        status := status.status
        failureCode
        canceledAt :=
          if status = .canceled then some (attempt.canceledAt.getD ctx.now) else a.canceledAt } }
    let call := callForAttempt db attemptId
    let pending := call.any fun row => row.2.status == .paymentPending
    let db := match call with
      | some (callId, _) =>
        if pending then
          { db with calls := db.calls.patch callId fun c =>
              { c with status := .failed, endedAt := some ctx.now } }
        else db
      | none => db
    match attempt.queueEntryId with
    | none => db
    | some entryId =>
      let entry := db.queueEntries.get entryId
      let waitingOnPayment := entry.any fun e =>
        e.status == .waiting || (e.status == .selected && pending)
      if waitingOnPayment then
        { db with queueEntries := db.queueEntries.patch entryId fun e =>
            { e with status := .left, leftAt := some ctx.now } }
      else db

/-! ### Mutations of `payments.ts` -/

/-- A mutation's writes commit only if its handler returns. -/
def commit {α : Type} (db : DB) : Except ErrorCode (DB × α) → DB
  | .ok (after, _) => after
  | .error _ => db

def requireUserId (userId : Option UserId) : Except ErrorCode UserId :=
  match userId with
  | some userId => .ok userId
  | none => .error .unauthenticated

/-- A signed-in creator: a real account, not an anonymous viewer. -/
def requireCreatorId (db : DB) (userId : Option UserId) : Except ErrorCode UserId := do
  let userId ← requireUserId userId
  match db.users.get userId with
  | none => .error .unauthenticated
  | some user =>
    if user.isAnonymous ∨ user.username.getD [] = [] then .error .unauthenticated
    else .ok userId

def prepare (db : DB) (userId : Option UserId) (showId : ShowId) (tierId : TierId)
    (idempotencyKey : Text) (stripeCustomerId : Option StripeId) :
    Except ErrorCode (DB × AttemptId) := do
  let payerId ← requireUserId userId
  match db.shows.get showId, db.showTiers.get tierId with
  | some hotline, some tier =>
    if tier.showId ≠ showId ∨ ¬ tier.enabled then .error .tierNotPayable
    else if hotline.status ≠ .live then .error .showNotLive
    else if tier.priceCents ≤ 0 then .error .tierNotPayable
    else match db.paymentAttempts.first fun a =>
        a.showId == showId && a.idempotencyKey == idempotencyKey with
      | some (attemptId, existing) =>
        if existing.payerId ≠ payerId ∨ existing.tierId ≠ tierId ∨
            existing.stripeCustomerId ≠ stripeCustomerId then .error .paymentNotAuthorized
        else .ok (db, attemptId)
      | none =>
        let fees := paymentFees tier.priceCents (creatorFeeBps (db.users.get hotline.creatorId))
        .ok ({ db with
          paymentAttempts := db.paymentAttempts.insert
            { showId
              creatorId := hotline.creatorId
              tierId
              payerId
              idempotencyKey
              queueEntryId := none
              stripePaymentIntentId := none
              stripeCustomerId
              amountCents := tier.priceCents
              currency := "usd"
              platformFeeBps := fees.platformFeeBps
              platformFeeCents := fees.platformFeeCents
              basicCardFeeCents := fees.basicCardFeeCents
              creatorProcessingFeeCents := fees.creatorProcessingFeeCents
              status := .created
              failureCode := none
              authorizedAt := none
              capturedAt := none
              canceledAt := none
              savedPaymentMethodId := none } }, db.paymentAttempts.next)
  | _, _ => .error .tierNotPayable

def attachIntent (db : DB) (attemptId : AttemptId) (intentId : StripeId) :
    Except ErrorCode (DB × Unit) :=
  match db.paymentAttempts.get attemptId with
  | none => .error .paymentNotAuthorized
  | some attempt =>
    match attempt.stripePaymentIntentId with
    | some attached => if attached = intentId then .ok (db, ()) else .error .paymentNotAuthorized
    | none => .ok ({ db with paymentAttempts := db.paymentAttempts.patch attemptId fun a =>
        { a with stripePaymentIntentId := some intentId } }, ())

def attemptForPayer (db : DB) (userId : Option UserId) (showId : ShowId) (attemptId : AttemptId) :
    Except ErrorCode PaymentAttempt := do
  let payerId ← requireUserId userId
  match db.paymentAttempts.get attemptId with
  | none => .error .paymentNotAuthorized
  | some attempt =>
    if attempt.showId ≠ showId ∨ attempt.payerId ≠ payerId then .error .paymentNotAuthorized
    else .ok attempt

def markAuthorized (ctx : Ctx) (db : DB) (attemptId : AttemptId) : DB :=
  if (db.paymentAttempts.get attemptId).any fun a => a.status == .created then
    { db with paymentAttempts := db.paymentAttempts.patch attemptId fun a =>
        { a with status := .authorized, authorizedAt := some ctx.now } }
  else db

/-- The attempt and intent a capture works on, while the call still waits for it. -/
def pendingCapture (db : DB) (callId : CallId) : Option (AttemptId × StripeId) := do
  let call ← db.calls.get callId
  guard (call.status = .paymentPending)
  let attemptId ← call.paymentAttemptId
  let attempt ← db.paymentAttempts.get attemptId
  guard (attempt.status = .capturing)
  let intentId ← attempt.stripePaymentIntentId
  return (attemptId, intentId)

def captured (ctx : Ctx) (db : DB) (attemptId : AttemptId) : DB :=
  match db.paymentAttempts.get attemptId with
  | some attempt => recordCaptured ctx db attemptId attempt
  | none => db

def notCaptured (ctx : Ctx) (db : DB) (attemptId : AttemptId) (status : NotCaptured)
    (failureCode : Option String) : DB :=
  match db.paymentAttempts.get attemptId with
  | some attempt => recordNotCaptured ctx db attemptId attempt status failureCode
  | none => db

/-- The calls the sweep hands back to `capture`. -/
def stalledCaptures (db : DB) (olderThan : Time) : List CallId :=
  (((db.calls.query fun call => call.status == .paymentPending).take 100).filter fun row =>
    decide (row.2.creationTime < olderThan)).map Prod.fst

end Bling
