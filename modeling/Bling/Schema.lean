import Bling.Library.Table

set_option autoImplicit false

namespace Bling

open Library

/-- Milliseconds, as `Date.now()` reads them. -/
abbrev Time := Nat
/-- A JavaScript string as its UTF-16 code units, which is what `length` counts. -/
abbrev Text := List Nat
/-- An identifier Stripe makes up. -/
abbrev StripeId := Nat

abbrev UserId := Nat
abbrev ShowId := Nat
abbrev TierId := Nat
abbrev EntryId := Nat
abbrev CallId := Nat
abbrev AttemptId := Nat
abbrev RefundId := Nat
abbrev RunId := Nat
abbrev ItemId := Nat

inductive ShowStatus where
  | created | live | ended
deriving DecidableEq

inductive QueueStatus where
  | waiting | left | selected | connecting | live | ended
deriving DecidableEq

inductive CallStatus where
  | paymentPending | created | connecting | live | ended | failed
deriving DecidableEq

inductive CallRole where
  | creator | viewer
deriving DecidableEq

inductive SelectionMode where
  | manual | random
deriving DecidableEq

inductive PaymentStatus where
  | created | authorized | capturing | captured | canceled | failed
deriving DecidableEq

inductive RefundStatus where
  | requested | processing | retry | pending | succeeded | failed
deriving DecidableEq

inductive LedgerKind where
  | earning | refundReversal | disputeDebit | disputeRelease | payoutReservation | payoutRelease
  | adjustment
deriving DecidableEq

inductive PayoutRunStatus where
  | processing | completed | partialFailed
deriving DecidableEq

inductive PayoutItemStatus where
  | reserved | sending | paid | retry | failed | canceled
deriving DecidableEq

/-- The texts the code writes into `paymentRefunds.reason`. -/
inductive RefundReason where
  | showEndedBeforeCallStarted | callFailedBeforeLive | callEndedBeforeLive | outsideBling
deriving DecidableEq

/-- A Stripe dispute status; `other` is any text the code does not name. -/
inductive DisputeStatus where
  | needsResponse | underReview | lost | warningNeedsResponse | warningUnderReview
  | won | warningClosed | prevented
  | other (name : String)
deriving DecidableEq

/-- The event types the webhook handles. -/
inductive EventType where
  | accountUpdated
  | paymentIntentSucceeded | paymentIntentCanceled | paymentIntentPaymentFailed
  | setupIntentSucceeded | paymentMethodAttached | paymentMethodDetached
  | refundCreated | refundUpdated | refundFailed
  | chargeDisputeCreated | chargeDisputeUpdated | chargeDisputeClosed
  | payoutCreated | payoutUpdated | payoutPaid | payoutFailed
deriving DecidableEq

/-- `ledgerEntries.idempotencyKey`: the prefix of the text and what follows it. -/
inductive LedgerKey where
  | earning (attempt : AttemptId)
  | refund (refund : RefundId)
  | disputeDebit (dispute : StripeId)
  | disputeRelease (dispute : StripeId)
  | payoutReservation (item : ItemId)
deriving DecidableEq

structure User where
  isAnonymous : Bool
  username : Option Text
  platformFeeBps : Option Nat
deriving DecidableEq

structure Show where
  creatorId : UserId
  status : ShowStatus
  startedAt : Option Time
  endedAt : Option Time
deriving DecidableEq

structure ShowTier where
  showId : ShowId
  name : Text
  priorityRank : Nat
  callDurationSeconds : Nat
  priceCents : Nat
  enabled : Bool
deriving DecidableEq

structure QueueEntry where
  showId : ShowId
  viewerId : UserId
  displayName : Text
  topic : Text
  status : QueueStatus
  tierId : TierId
  tierName : Text
  priorityRank : Nat
  callDurationSeconds : Nat
  tierPriceCents : Nat
  joinedAt : Time
  selectedAt : Option Time
  leftAt : Option Time
  paymentAttemptId : Option AttemptId
deriving DecidableEq

structure Call where
  creationTime : Time
  showId : ShowId
  queueEntryId : EntryId
  creatorId : UserId
  viewerId : UserId
  status : CallStatus
  selectionMode : SelectionMode
  callDurationSeconds : Nat
  startedAt : Option Time
  endedAt : Option Time
  expiresAt : Option Time
  paymentAttemptId : Option AttemptId
deriving DecidableEq

structure CallPresence where
  callId : CallId
  role : CallRole
  lastSeenAt : Time
  disconnectedAt : Option Time
deriving DecidableEq

structure PaymentAttempt where
  showId : ShowId
  creatorId : UserId
  tierId : TierId
  payerId : UserId
  idempotencyKey : Text
  queueEntryId : Option EntryId
  stripePaymentIntentId : Option StripeId
  stripeCustomerId : Option StripeId
  amountCents : Nat
  currency : String
  platformFeeBps : Nat
  platformFeeCents : Int
  basicCardFeeCents : Int
  creatorProcessingFeeCents : Int
  status : PaymentStatus
  failureCode : Option String
  authorizedAt : Option Time
  capturedAt : Option Time
  canceledAt : Option Time
  savedPaymentMethodId : Option StripeId
deriving DecidableEq

structure PaymentRefund where
  paymentAttemptId : AttemptId
  callId : CallId
  stripePaymentIntentId : StripeId
  stripeRefundId : Option StripeId
  amountCents : Nat
  currency : String
  reason : RefundReason
  status : RefundStatus
  attempts : Nat
  failureCode : Option String
  nextAttemptAt : Time
  processedAt : Option Time
deriving DecidableEq

structure PaymentDispute where
  stripeDisputeId : StripeId
  paymentAttemptId : Option AttemptId
  stripePaymentIntentId : Option StripeId
  amountCents : Nat
  currency : String
  reason : String
  status : DisputeStatus
  evidenceDueAt : Option Time
deriving DecidableEq

structure StripeEvent where
  stripeEventId : StripeId
  type : EventType
  connectedAccountId : Option StripeId
deriving DecidableEq

structure PayoutAccount where
  creatorId : UserId
  stripeAccountId : StripeId
  transfersStatus : String
  bankPayoutsStatus : String
  externalAccountPresent : Bool
  externalAccountBankName : Option String
  externalAccountLast4 : Option String
  externalAccountCurrency : Option String
  detailsSubmitted : Bool
  requirementsDue : List String
deriving DecidableEq

/-- What an entry's `metadata` record holds for each kind that has one. -/
inductive LedgerMetadata where
  | earning (grossCents platformFeeCents basicCardFeeCents creatorProcessingFeeCents : Int)
  | refund (refundId : Option StripeId)
  | dispute (disputeId : StripeId) (status : DisputeStatus)
deriving DecidableEq

structure LedgerEntry where
  creatorId : UserId
  kind : LedgerKind
  amountCents : Int
  currency : String
  effectiveAt : Time
  idempotencyKey : LedgerKey
  paymentAttemptId : Option AttemptId
  callId : Option CallId
  payoutItemId : Option ItemId
  metadata : Option LedgerMetadata
deriving DecidableEq

structure CreatorBalance where
  creatorId : UserId
  currency : String
  totalCents : Int
deriving DecidableEq

/-- The first day of a month, which is every date a payout period names. -/
structure Month where
  year : Nat
  month : Nat
deriving DecidableEq

structure PayoutRun where
  periodStart : Month
  periodEnd : Month
  currency : String
  status : PayoutRunStatus
  completedAt : Option Time
deriving DecidableEq

/-- `bling-payout-<creator>-<yyyy-mm>`. -/
structure PayoutKey where
  creatorId : UserId
  period : Month
deriving DecidableEq

structure PayoutItem where
  runId : RunId
  creatorId : UserId
  amountCents : Int
  currency : String
  destinationAccountId : StripeId
  idempotencyKey : PayoutKey
  stripeTransferId : Option StripeId
  status : PayoutItemStatus
  attempts : Nat
  nextAttemptAt : Time
  failureCode : Option String
  processedAt : Option Time
deriving DecidableEq

structure PayoutEvent where
  stripePayoutId : StripeId
  creatorId : UserId
  amountCents : Nat
  currency : String
  status : String
  failureCode : Option String
  failureMessage : Option String
  arrivalAt : Option Time
deriving DecidableEq

inductive CancelReason where
  | callerLeft | showEnded
deriving DecidableEq

/-- A scheduled function with its arguments. -/
inductive Job where
  | cancelIntent (attemptId : AttemptId) (reason : CancelReason)
  | capture (callId : CallId) (tries : Nat)
  | runRefund (refundId : RefundId)
  | expire (callId : CallId)
  | purgeSignals (callId : CallId)
  | closeQueue (showId : ShowId)
  | checkSeen (callId : CallId) (role : CallRole) (seenAt : Time)
  | checkGrace (callId : CallId) (role : CallRole) (disconnectedAt : Time)
  | reserveBatch (runId : RunId) (cursor : Option Nat)
  | finishRuns
  | transfer (itemId : ItemId)
  | reconcileAccount (stripeAccountId : StripeId)
deriving DecidableEq

instance : LawfulBEq (Time × Job) := inferInstance

/-- The two tables `lib/ledger.ts` writes. -/
structure Ledger where
  ledgerEntries : Table LedgerEntry
  creatorBalances : Table CreatorBalance

structure DB where
  users : Table User
  shows : Table Show
  showTiers : Table ShowTier
  queueEntries : Table QueueEntry
  calls : Table Call
  callPresence : Table CallPresence
  paymentAttempts : Table PaymentAttempt
  paymentRefunds : Table PaymentRefund
  paymentDisputes : Table PaymentDispute
  stripeEvents : Table StripeEvent
  payoutAccounts : Table PayoutAccount
  ledger : Ledger
  payoutRuns : Table PayoutRun
  payoutItems : Table PayoutItem
  payoutEvents : Table PayoutEvent
  scheduled : List (Time × Job)

def Ledger.empty : Ledger := ⟨.empty, .empty⟩

def DB.empty : DB :=
  ⟨.empty, .empty, .empty, .empty, .empty, .empty, .empty, .empty, .empty, .empty, .empty,
    .empty, .empty, .empty, .empty, []⟩

/-- The environment variables the modelled code reads, as `Number(...)` and
`toLowerCase()` leave them; `none` is a variable that is unset or no integer. -/
structure Env where
  creatorEarningsHoldHours : Option Int
  creatorPayoutsEnabled : Bool
  creatorPayoutDay : Option Int
  creatorPayoutMinimumCents : Option Int
  creatorPayoutCurrency : String
deriving DecidableEq

/-- What a mutation reads besides the database. -/
structure Ctx where
  now : Time
  env : Env
deriving DecidableEq

inductive ErrorCode where
  | unauthenticated | validationFailed | showNotFound | showNotLive | activeShowExists
  | invalidShowState | showNotConfigurable | invalidTierConfiguration | payoutSetupRequired
  | tierNotFound | paymentRequired | notInQueue | invalidQueueState | callNotFound
  | callerNotWaiting | queueEmpty | activeCallExists | invalidCallState | paymentCaptureFailed
  | tierNotPayable | paymentNotAuthorized | invalidSignal | creatorNotFound | selfFollow
  | followLimit | rateLimited
deriving DecidableEq

/-- `ctx.scheduler.runAt`; a mutation's jobs commit with its writes. -/
def DB.runAt (db : DB) (time : Time) (job : Job) : DB :=
  { db with scheduled := db.scheduled ++ [(time, job)] }

def DB.runAfter (db : DB) (now delay : Time) (job : Job) : DB :=
  db.runAt (now + delay) job

end Bling
