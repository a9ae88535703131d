import Mathlib.Data.List.Sort
import Bling.Payments

set_option autoImplicit false

namespace Bling

open Library

/-! Automatic refunds for paid calls that never went live, from `refunds.ts`. -/

def maxAttempts : Nat := 10
def leaseMs : Time := 5 * 60000
def pendingRecheckMs : Time := 5 * 60000
def sweepBatch : Nat := 50

/-- A refund's status at Stripe. -/
inductive StripeRefundStatus where
  | pending | requiresAction | succeeded | failed | canceled
deriving DecidableEq

/-- The statuses a report from Stripe can give a refund row. -/
inductive RefundOutcome where
  | succeeded | failed | pending
deriving DecidableEq

def RefundOutcome.status : RefundOutcome → RefundStatus
  | .succeeded => .succeeded
  | .failed => .failed
  | .pending => .pending

def statusFromStripe : StripeRefundStatus → RefundOutcome
  | .succeeded => .succeeded
  | .failed => .failed
  | .canceled => .failed
  | _ => .pending

def RefundStatus.final (status : RefundStatus) : Bool :=
  status == .succeeded || status == .failed

def refundDue (now : Time) (refund : PaymentRefund) : Bool :=
  refund.status == .requested ||
    ((refund.status == .retry || refund.status == .pending || refund.status == .processing) &&
      decide (refund.nextAttemptAt ≤ now))

/-- Takes a refund for processing if it is due and not already in hand. -/
def claimRefund (ctx : Ctx) (db : DB) (refundId : RefundId) : DB × Option PaymentRefund :=
  match db.paymentRefunds.get refundId with
  | none => (db, none)
  | some refund =>
    if maxAttempts ≤ refund.attempts ∨ ¬ refundDue ctx.now refund then (db, none)
    else
      let paymentRefunds := db.paymentRefunds.patch refundId fun r =>
        { r with
          status := .processing
          attempts := refund.attempts + 1
          nextAttemptAt := ctx.now + leaseMs }
      ({ db with paymentRefunds }, paymentRefunds.get refundId)

/-- A refund row that has just been patched to `succeeded` reverses its share. -/
def reversePatched (ctx : Ctx) (db : DB) (refundId : RefundId) : DB :=
  match db.paymentRefunds.get refundId with
  | some refund =>
    { db with ledger := reverseForRefund ctx db.paymentAttempts db.ledger refundId refund }
  | none => db

def recordRefund (ctx : Ctx) (db : DB) (refundId : RefundId) (stripeRefundId : StripeId)
    (status : RefundOutcome) (failureCode : Option String) : DB :=
  match db.paymentRefunds.get refundId with
  | none => db
  | some refund =>
    -- A webhook may already have reported the final outcome.
    if refund.status.final then db
    else
      let final := status ≠ .pending
      let db := { db with paymentRefunds := db.paymentRefunds.patch refundId fun r =>
        { r with
          stripeRefundId := some stripeRefundId
          status := status.status
          failureCode
          nextAttemptAt := ctx.now + pendingRecheckMs
          processedAt := if final then some ctx.now else none } }
      let db := if status = .succeeded then reversePatched ctx db refundId else db
      if final then db else db.runAfter ctx.now pendingRecheckMs (.runRefund refundId)

def retryRefund (ctx : Ctx) (db : DB) (refundId : RefundId) (failureCode : String) : DB :=
  match db.paymentRefunds.get refundId with
  | none => db
  | some refund =>
    if refund.status ≠ .processing then db
    else if maxAttempts ≤ refund.attempts then
      { db with paymentRefunds := db.paymentRefunds.patch refundId fun r =>
        { r with status := .failed, failureCode := some failureCode, processedAt := some ctx.now } }
    else
      let delay := 1000 * 2 ^ min refund.attempts 8
      { db with paymentRefunds := db.paymentRefunds.patch refundId fun r =>
        { r with
          status := .retry
          failureCode := some failureCode
          nextAttemptAt := ctx.now + delay } }.runAfter ctx.now delay (.runRefund refundId)

/-- Refunds that are due but have no live action, for the payments sweep. The
index orders each status by `nextAttemptAt`. -/
def dueRefunds (db : DB) (now : Time) : List RefundId :=
  [RefundStatus.requested, .retry, .pending, .processing].flatMap fun status =>
    ((((db.paymentRefunds.query fun r =>
      r.status == status && decide (r.nextAttemptAt ≤ now)).insertionSort
        fun a b => a.2.nextAttemptAt < b.2.nextAttemptAt ∨
          (a.2.nextAttemptAt = b.2.nextAttemptAt ∧ a.1 ≤ b.1)).take sweepBatch).filter
      fun row => decide (row.2.attempts < maxAttempts)).map Prod.fst

end Bling
