import Bling.Webhooks
import Bling.Payouts

set_option autoImplicit false

namespace Bling

open Library

/-! What Bling relies on of Stripe: requests under an idempotency key take
effect once, an intent is captured or canceled but never both, and every change
is reported by an event that may be delivered late, repeatedly and in any order. -/

inductive IntentStatus where
  | requiresPaymentMethod | requiresCapture | succeeded | canceled
deriving DecidableEq

structure Intent where
  /-- The attempt in its idempotency key, `bling-payment-create-<attempt>`. -/
  attemptId : AttemptId
  amount : Nat
  currency : String
  customer : Option StripeId
  transferData : Option StripeId
  applicationFeeAmount : Option Nat
  status : IntentStatus
  paymentMethod : Option StripeId
  setupFutureUsage : Bool
  lastPaymentError : Option String
deriving DecidableEq

structure StripeRefund where
  intentId : StripeId
  amount : Nat
  status : StripeRefundStatus
  failureReason : Option String
  /-- The row in its idempotency key, `bling-refund-<refund>`, if Bling asked. -/
  requestedBy : Option RefundId
deriving DecidableEq

structure StripeDispute where
  intentId : StripeId
  amount : Nat
  currency : String
  reason : String
  evidenceDueAt : Option Time
  status : DisputeStatus
deriving DecidableEq

structure StripeTransfer where
  amount : Int
  currency : String
  destination : StripeId
  itemId : ItemId
  idempotencyKey : PayoutKey
deriving DecidableEq

structure Stripe where
  intents : Table Intent
  refunds : Table StripeRefund
  disputes : Table StripeDispute
  transfers : Table StripeTransfer
  /-- Every event so far; its place is its id. -/
  events : List Event

def Stripe.empty : Stripe := ⟨.empty, .empty, .empty, .empty, []⟩

namespace Stripe

def emit (stripe : Stripe) (type : EventType) (connectedAccountId : Option StripeId)
    (object : EventObject) : Stripe :=
  { stripe with events := stripe.events ++
    [⟨stripe.events.length, type, connectedAccountId, object⟩] }

def emitIntent (stripe : Stripe) (type : EventType) (intentId : StripeId) : Stripe :=
  match stripe.intents.get intentId with
  | none => stripe
  | some intent => stripe.emit type none (.intent
      ⟨intentId, intent.lastPaymentError, intent.customer, intent.paymentMethod,
        intent.setupFutureUsage⟩)

def emitRefund (stripe : Stripe) (type : EventType) (refundId : StripeId) : Stripe :=
  match stripe.refunds.get refundId with
  | none => stripe
  | some refund =>
    let currency := (stripe.intents.get refund.intentId).map Intent.currency
    stripe.emit type none (.refund
      ⟨refundId, some refund.intentId, refund.status, refund.failureReason, some refund.amount,
        currency⟩)

def emitDispute (stripe : Stripe) (type : EventType) (disputeId : StripeId) : Stripe :=
  match stripe.disputes.get disputeId with
  | none => stripe
  | some dispute => stripe.emit type none (.dispute
      ⟨disputeId, some dispute.intentId, dispute.amount, dispute.currency, dispute.reason,
        dispute.status, dispute.evidenceDueAt⟩)

def setIntent (stripe : Stripe) (intentId : StripeId) (status : IntentStatus) : Stripe :=
  { stripe with intents := stripe.intents.patch intentId fun i => { i with status } }

def intentStatus (stripe : Stripe) (intentId : StripeId) : Option IntentStatus :=
  (stripe.intents.get intentId).map Intent.status

/-! ### Requests -/

/-- `paymentIntents.create`: the same attempt always gets the same intent. -/
def createIntent (stripe : Stripe) (attemptId : AttemptId) (attempt : PaymentAttempt) :
    Stripe × StripeId :=
  match stripe.intents.first fun i => i.attemptId == attemptId with
  | some (intentId, _) => (stripe, intentId)
  | none =>
    ({ stripe with
        intents := stripe.intents.insert
          { attemptId, amount := attempt.amountCents, currency := attempt.currency,
            customer := attempt.stripeCustomerId, transferData := none,
            applicationFeeAmount := none, status := .requiresPaymentMethod,
            paymentMethod := none, setupFutureUsage := false, lastPaymentError := none } },
      stripe.intents.next)

/-- `paymentIntents.capture`, and whether Stripe accepts it. -/
def capture (stripe : Stripe) (intentId : StripeId) : Stripe × Bool :=
  match stripe.intentStatus intentId with
  | some .requiresCapture =>
    ((stripe.setIntent intentId .succeeded).emitIntent .paymentIntentSucceeded intentId, true)
  | some .succeeded => (stripe, true)
  | _ => (stripe, false)

/-- `paymentIntents.cancel`, and whether Stripe accepts it. -/
def cancel (stripe : Stripe) (intentId : StripeId) : Stripe × Bool :=
  match stripe.intentStatus intentId with
  | some .requiresPaymentMethod | some .requiresCapture =>
    ((stripe.setIntent intentId .canceled).emitIntent .paymentIntentCanceled intentId, true)
  | _ => (stripe, false)

/-- What refunds have not yet given back of a captured intent. -/
def refundable (stripe : Stripe) (intentId : StripeId) : Int :=
  match stripe.intents.get intentId with
  | none => 0
  | some intent =>
    if intent.status = .succeeded then
      intent.amount - stripe.refunds.total
        (fun r => r.intentId == intentId && r.status != .failed && r.status != .canceled)
        fun r => r.amount
    else 0

def addRefund (stripe : Stripe) (refund : StripeRefund) : Stripe :=
  { stripe with refunds := stripe.refunds.insert refund }.emitRefund .refundCreated
    stripe.refunds.next

/-- `refunds.create` without an amount refunds all that is left of the intent. -/
def createRefund (stripe : Stripe) (refundId : RefundId) (intentId : StripeId)
    (status : StripeRefundStatus) : Stripe × Option StripeId :=
  match stripe.refunds.first fun r => r.requestedBy == some refundId with
  | some (stripeRefundId, _) => (stripe, some stripeRefundId)
  | none =>
    let amount := stripe.refundable intentId
    if amount ≤ 0 then (stripe, none)
    else (stripe.addRefund ⟨intentId, amount.toNat, status, none, some refundId⟩,
      some stripe.refunds.next)

/-- `transfers.create`: at most one transfer for each idempotency key. -/
def createTransfer (stripe : Stripe) (itemId : ItemId) (item : PayoutItem) : Stripe × StripeId :=
  match stripe.transfers.first fun t => t.idempotencyKey == item.idempotencyKey with
  | some (transferId, _) => (stripe, transferId)
  | none =>
    ({ stripe with
        transfers := stripe.transfers.insert
          { amount := item.amountCents, currency := item.currency,
            destination := item.destinationAccountId, itemId,
            idempotencyKey := item.idempotencyKey } }, stripe.transfers.next)

end Stripe

/-! ### What happens at Stripe without Bling asking -/

inductive StripeOp where
  /-- The caller confirms the payment in the browser and the card is held. -/
  | confirm (intentId : StripeId) (paymentMethod : StripeId) (setupFutureUsage : Bool)
  /-- The caller confirms the payment and the card is declined. -/
  | decline (intentId : StripeId) (failureCode : Option String)
  | captureOutside (intentId : StripeId)
  /-- A hold canceled in the dashboard, or lapsed. -/
  | cancelOutside (intentId : StripeId)
  | refundOutside (intentId : StripeId) (amount : Nat) (status : StripeRefundStatus)
  | updateRefund (refundId : StripeId) (status : StripeRefundStatus)
      (failureReason : Option String)
  | createDispute (dispute : StripeDispute)
  | updateDispute (disputeId : StripeId) (status : DisputeStatus) (type : EventType)
  /-- A payout from a connected account to its bank. -/
  | report (type : EventType) (connectedAccountId : Option StripeId) (payout : PayoutObject)
  | accountUpdated (accountId : StripeId)

/-- Which status may follow which: failed and canceled refunds stay so, and a
succeeded one can still fail. -/
def StripeRefundStatus.mayBecome : StripeRefundStatus → StripeRefundStatus → Bool
  | .pending, _ => true
  | .requiresAction, _ => true
  | .succeeded, .failed => true
  | _, _ => false

def Stripe.step (stripe : Stripe) : StripeOp → Stripe
  | .confirm intentId paymentMethod setupFutureUsage =>
    if stripe.intentStatus intentId = some .requiresPaymentMethod then
      { stripe with intents := stripe.intents.patch intentId fun i =>
        { i with
          status := .requiresCapture
          paymentMethod := some paymentMethod
          setupFutureUsage } }
    else stripe
  | .decline intentId failureCode =>
    if stripe.intentStatus intentId = some .requiresPaymentMethod then
      { stripe with intents := stripe.intents.patch intentId fun i =>
        { i with lastPaymentError := failureCode } }.emitIntent .paymentIntentPaymentFailed intentId
    else stripe
  | .captureOutside intentId => (stripe.capture intentId).1
  | .cancelOutside intentId => (stripe.cancel intentId).1
  | .refundOutside intentId amount status =>
    if 0 < amount ∧ (amount : Int) ≤ stripe.refundable intentId then
      stripe.addRefund ⟨intentId, amount, status, none, none⟩
    else stripe
  | .updateRefund refundId status failureReason =>
    match stripe.refunds.get refundId with
    | none => stripe
    | some refund =>
      if refund.status.mayBecome status then
        { stripe with refunds := stripe.refunds.patch refundId fun r =>
          { r with status, failureReason } }.emitRefund
            (if status = StripeRefundStatus.failed then .refundFailed else .refundUpdated) refundId
      else stripe
  | .createDispute dispute =>
    if stripe.intentStatus dispute.intentId = some .succeeded then
      { stripe with disputes := stripe.disputes.insert dispute }.emitDispute
        .chargeDisputeCreated stripe.disputes.next
    else stripe
  | .updateDispute disputeId status type =>
    if type = .chargeDisputeUpdated ∨ type = .chargeDisputeClosed then
      { stripe with disputes := stripe.disputes.patch disputeId fun d =>
        { d with status } }.emitDispute type disputeId
    else stripe
  | .report type connectedAccountId payout =>
    if type ∈ [.payoutCreated, .payoutUpdated, .payoutPaid, .payoutFailed] then
      stripe.emit type connectedAccountId (.payout payout)
    else stripe
  | .accountUpdated accountId => stripe.emit .accountUpdated none (.account (some accountId))

end Bling
