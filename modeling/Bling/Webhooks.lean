import Bling.Refunds

set_option autoImplicit false

namespace Bling

open Library

/-! The Stripe webhook's transaction, from `webhooks.ts`. -/

structure IntentEvent where
  id : StripeId
  failureCode : Option String
  customerId : Option StripeId
  paymentMethodId : Option StripeId
  savedForFuture : Bool
deriving DecidableEq

structure RefundEvent where
  id : StripeId
  intentId : Option StripeId
  status : StripeRefundStatus
  failureReason : Option String
  amountCents : Option Nat
  currency : Option String
deriving DecidableEq

structure DisputeEvent where
  id : StripeId
  intentId : Option StripeId
  amountCents : Nat
  currency : String
  reason : String
  status : DisputeStatus
  evidenceDueAt : Option Time
deriving DecidableEq

structure PayoutObject where
  id : StripeId
  amountCents : Nat
  currency : String
  status : String
  failureCode : Option String
  failureMessage : Option String
  arrivalAt : Option Time
deriving DecidableEq

/-- The one optional argument of `apply` that an event's type fills. -/
inductive EventObject where
  | intent (intent : IntentEvent)
  | refund (refund : RefundEvent)
  | dispute (dispute : DisputeEvent)
  | payout (payout : PayoutObject)
  | account (accountId : Option StripeId)
deriving DecidableEq

structure Event where
  eventId : StripeId
  type : EventType
  connectedAccountId : Option StripeId
  object : EventObject
deriving DecidableEq

def attemptForIntent (db : DB) (intentId : StripeId) : Option (AttemptId × PaymentAttempt) :=
  db.paymentAttempts.first fun a => a.stripePaymentIntentId == some intentId

def applyIntent (ctx : Ctx) (db : DB) (type : EventType) (intent : IntentEvent) : DB :=
  match attemptForIntent db intent.id with
  | none => db
  | some (attemptId, attempt) =>
    if type = .paymentIntentSucceeded then
      let db := recordCaptured ctx db attemptId attempt
      if intent.savedForFuture ∧ intent.paymentMethodId.isSome ∧
          intent.customerId = attempt.stripeCustomerId then
        { db with paymentAttempts := db.paymentAttempts.patch attemptId fun a =>
          { a with savedPaymentMethodId := intent.paymentMethodId } }
      else db
    else recordNotCaptured ctx db attemptId attempt
      (if type = .paymentIntentCanceled then .canceled else .failed) intent.failureCode

/-- The row an event settles: the one with its Stripe id, or else one of its
intent whose Stripe id isn't recorded yet. -/
def refundRow (db : DB) (event : RefundEvent) : Option (RefundId × PaymentRefund) :=
  (db.paymentRefunds.first fun r => r.stripeRefundId == some event.id).or
    (event.intentId.bind fun intentId => db.paymentRefunds.first fun r =>
      r.stripePaymentIntentId == intentId && r.stripeRefundId == none)

/-- The row recorded for a refund made outside Bling, such as by support in the
Stripe dashboard. -/
def outsideRefund (ctx : Ctx) (db : DB) (event : RefundEvent) : Option PaymentRefund := do
  let intentId ← event.intentId
  let (attemptId, attempt) ← attemptForIntent db intentId
  let (callId, _) ← callForAttempt db attemptId
  let amountCents ← event.amountCents
  return {
    paymentAttemptId := attemptId
    callId
    stripePaymentIntentId := intentId
    stripeRefundId := some event.id
    amountCents
    currency := event.currency.getD attempt.currency
    reason := .outsideBling
    status := .pending
    attempts := 0
    failureCode := none
    nextAttemptAt := ctx.now
    processedAt := none }

/-- What the event does to the row found for it. -/
def settleRefund (ctx : Ctx) (db : DB) (event : RefundEvent) (refundId : RefundId)
    (refund : PaymentRefund) : DB :=
  let next := statusFromStripe event.status
  -- A final outcome is never reopened by an older event.
  if refund.status.final ∧ next = .pending then db
  else
    let db := { db with paymentRefunds := db.paymentRefunds.patch refundId fun r =>
      { r with
        stripeRefundId := some (refund.stripeRefundId.getD event.id)
        status := next.status
        failureCode := event.failureReason
        processedAt := if next = .pending then refund.processedAt else some ctx.now } }
    if next = .succeeded then reversePatched ctx db refundId else db

def applyRefund (ctx : Ctx) (db : DB) (event : RefundEvent) : DB :=
  match refundRow db event with
  | some (refundId, refund) => settleRefund ctx db event refundId refund
  | none =>
    match outsideRefund ctx db event with
    | none => db
    | some refund =>
      settleRefund ctx { db with paymentRefunds := db.paymentRefunds.insert refund } event
        db.paymentRefunds.next refund

def applyDispute (ctx : Ctx) (db : DB) (event : DisputeEvent) : DB :=
  let attemptId := event.intentId.bind fun intentId =>
    (attemptForIntent db intentId).map Prod.fst
  let existing := db.paymentDisputes.first fun d => d.stripeDisputeId == event.id
  let dispute : PaymentDispute :=
    { stripeDisputeId := event.id
      paymentAttemptId := (existing.bind fun row => row.2.paymentAttemptId).or attemptId
      stripePaymentIntentId :=
        (existing.bind fun row => row.2.stripePaymentIntentId).or event.intentId
      amountCents := event.amountCents
      currency := event.currency
      reason := event.reason
      status := event.status
      -- A date the event leaves out is not patched.
      evidenceDueAt := event.evidenceDueAt.or (existing.bind fun row => row.2.evidenceDueAt) }
  let paymentDisputes := match existing with
    | some (disputeId, _) => db.paymentDisputes.patch disputeId fun _ => dispute
    | none => db.paymentDisputes.insert dispute
  { db with paymentDisputes, ledger := adjustForDispute ctx db.ledger dispute }

def applyPayout (db : DB) (connected : StripeId) (payout : PayoutObject) : DB :=
  match db.payoutAccounts.first fun a => a.stripeAccountId == connected with
  | none => db
  | some (_, account) =>
    match db.payoutEvents.first fun p => p.stripePayoutId == payout.id with
    | some (id, _) =>
      { db with
        payoutEvents := db.payoutEvents.patch id fun p =>
          -- What the event leaves out is not patched.
          { p with
            amountCents := payout.amountCents
            currency := payout.currency
            status := payout.status
            failureCode := payout.failureCode.or p.failureCode
            failureMessage := payout.failureMessage.or p.failureMessage
            arrivalAt := payout.arrivalAt.or p.arrivalAt } }
    | none =>
      { db with
        payoutEvents := db.payoutEvents.insert
          { stripePayoutId := payout.id
            creatorId := account.creatorId
            amountCents := payout.amountCents
            currency := payout.currency
            status := payout.status
            failureCode := payout.failureCode
            failureMessage := payout.failureMessage
            arrivalAt := payout.arrivalAt } }

/-- Records the event id and applies the event in one transaction; a
redelivered event finds its id and does nothing. -/
def applyEvent (ctx : Ctx) (db : DB) (event : Event) : DB :=
  if (db.stripeEvents.first fun e => e.stripeEventId == event.eventId).isSome then db
  else
    let db := { db with
      stripeEvents := db.stripeEvents.insert
        ⟨event.eventId, event.type, event.connectedAccountId⟩ }
    match event.object with
    | .intent intent => applyIntent ctx db event.type intent
    | .refund refund => applyRefund ctx db refund
    | .dispute dispute => applyDispute ctx db dispute
    | .payout payout =>
      match event.connectedAccountId with
      | some connected => applyPayout db connected payout
      | none => db
    | .account (some accountId) => db.runAfter ctx.now 0 (.reconcileAccount accountId)
    | .account none => db

end Bling
