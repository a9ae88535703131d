import Mathlib.Logic.Relation
import Bling.Frames

set_option autoImplicit false

namespace Bling

open Library

/-! What each mutation can do to the tables that decide payments: one
constructor of `Effect` for each kind of write. Every invariant of runs is
derived from it. -/

/-! ### What a mutation asks for -/

/-- The event a mutation brings, unless it has been seen before. -/
def Mutation.news (db : DB) : Mutation → Option Event
  | .applyEvent event =>
    if (db.stripeEvents.first fun e => e.stripeEventId == event.eventId).isSome then none
    else some event
  | _ => none

/-- What can be reported of an attempt's payment. -/
inductive Report where
  | captured
  | notCaptured (status : NotCaptured)
deriving DecidableEq

def intentReport (type : EventType) : Report :=
  if type = .paymentIntentSucceeded then .captured
  else .notCaptured (if type = .paymentIntentCanceled then .canceled else .failed)

/-- The attempt a mutation reports on, be it from an action or the webhook. -/
def Mutation.report (db : DB) (m : Mutation) : Option (AttemptId × Report) :=
  match m with
  | .captured attemptId => some (attemptId, .captured)
  | .notCaptured attemptId status _ => some (attemptId, .notCaptured status)
  | m =>
    match m.news db with
    | some ⟨_, type, _, .intent intent⟩ =>
      (attemptForIntent db intent.id).map fun row => (row.1, intentReport type)
    | _ => none

/-- The refund event a mutation brings. -/
def Mutation.refundNews (db : DB) (m : Mutation) : Option RefundEvent :=
  match m.news db with
  | some ⟨_, _, _, .refund refund⟩ => some refund
  | _ => none

/-- The dispute event a mutation brings. -/
def Mutation.disputeNews (db : DB) (m : Mutation) : Option DisputeEvent :=
  match m.news db with
  | some ⟨_, _, _, .dispute dispute⟩ => some dispute
  | _ => none

/-- The call a mutation asks to move, and the status it should have next. -/
def Mutation.moves (ctx : Ctx) (db : DB) : Mutation → Option (CallId × Call × CallStatus)
  | .transition userId callId status =>
    match callForParticipant db userId callId with
    | .ok (call, role) =>
      if status ∈ allowedTargets role then some (callId, call, status) else none
    | .error _ => none
  | .expire callId =>
    match db.calls.get callId with
    | some call =>
      if call.status = .live ∧ call.expiresAt.getD 0 ≤ ctx.now then some (callId, call, .ended)
      else none
    | none => none
  | .checkGrace callId role disconnectedAt =>
    if (presenceRow db callId role).bind (fun row => row.2.disconnectedAt) = some disconnectedAt then
      match db.calls.get callId with
      | some call =>
        if call.status ∈ connectableStatuses then some (callId, call, .failed) else none
      | none => none
    else none
  | .endShow userId showId =>
    match requireCreatorId db userId with
    | .error _ => none
    | .ok creatorId =>
      match showForCreator db showId creatorId with
      | .error _ => none
      | .ok hotline =>
        if hotline.status = .live then
          match activeCallForShow db showId with
          | some (callId, call) =>
            if call.status ∈ connectableStatuses then some (callId, call, .ended) else none
          | none => none
        else none
  | _ => none

/-- The mutation takes the entry out of the queue, as its caller or the show's
creator has asked. -/
def Mutation.removes (entryId : EntryId) (entry : QueueEntry) : Mutation → Bool
  | .leave userId showId => userId == some entry.viewerId && showId == entry.showId
  | .select _ _ selected => selected == entryId
  | .selectRandom _ showId _ => showId == entry.showId
  | .closeQueue showId => showId == entry.showId
  | _ => false

/-! ### What it does -/

/-- A tier whose price `replaceTiers` accepts. -/
def ShowTier.priced (tier : ShowTier) : Prop := tier.priceCents = 0 ∨ 50 ≤ tier.priceCents

def capturedPatch (capturedAt : Option Time) (method : Option StripeId) (a : PaymentAttempt) :
    PaymentAttempt :=
  { a with status := .captured, capturedAt, savedPaymentMethodId := method }

def failedPatch (ctx : Ctx) (call : Call) : Call :=
  { call with status := .failed, endedAt := some ctx.now }

def notCapturedPatch (status : NotCaptured) (failureCode : Option String)
    (canceledAt : PaymentAttempt → Option Time) (a : PaymentAttempt) : PaymentAttempt :=
  { a with status := status.status, failureCode, canceledAt := canceledAt a }

/-- An entry `closeQueue` closes. -/
def closedPatch (ctx : Ctx) (entry : QueueEntry) : QueueEntry :=
  { entry with status := .ended, leftAt := some ctx.now }

def releasedPatch (ctx : Ctx) (entry : QueueEntry) : QueueEntry :=
  { entry with status := .left, leftAt := some ctx.now }

def recordedPatch (ctx : Ctx) (stripeRefundId : StripeId) (status : RefundOutcome)
    (failureCode : Option String) (refund : PaymentRefund) : PaymentRefund :=
  { refund with
    stripeRefundId := some stripeRefundId
    status := status.status
    failureCode
    nextAttemptAt := ctx.now + pendingRecheckMs
    processedAt := if status ≠ .pending then some ctx.now else none }

/-- What an event makes of the row `refund` found for it. -/
def settledPatch (ctx : Ctx) (event : RefundEvent) (refund : PaymentRefund) (r : PaymentRefund) :
    PaymentRefund :=
  { r with
    stripeRefundId := some (refund.stripeRefundId.getD event.id)
    status := (statusFromStripe event.status).status
    failureCode := event.failureReason
    processedAt :=
      if statusFromStripe event.status = .pending then refund.processedAt else some ctx.now }

def ledgerAfter (ctx : Ctx) (db : DB) (outcome : RefundOutcome) (refundId : RefundId)
    (refund : PaymentRefund) : Ledger :=
  if outcome = .succeeded then
    reverseForRefund ctx db.paymentAttempts db.ledger refundId refund
  else db.ledger

def existingDispute (db : DB) (event : DisputeEvent) : Option (Nat × PaymentDispute) :=
  db.paymentDisputes.first fun d => d.stripeDisputeId == event.id

/-- The dispute row after an event. -/
def disputeAfter (db : DB) (event : DisputeEvent) : PaymentDispute :=
  let existing := existingDispute db event
  { stripeDisputeId := event.id
    paymentAttemptId := (existing.bind fun row => row.2.paymentAttemptId).or
      (event.intentId.bind fun intentId => (attemptForIntent db intentId).map Prod.fst)
    stripePaymentIntentId :=
      (existing.bind fun row => row.2.stripePaymentIntentId).or event.intentId
    amountCents := event.amountCents
    currency := event.currency
    reason := event.reason
    status := event.status
    evidenceDueAt := event.evidenceDueAt.or (existing.bind fun row => row.2.evidenceDueAt) }

def disputesAfter (db : DB) (event : DisputeEvent) : Table PaymentDispute :=
  match existingDispute db event with
  | some (disputeId, _) => db.paymentDisputes.patch disputeId fun _ => disputeAfter db event
  | none => db.paymentDisputes.insert (disputeAfter db event)

/-- The entry a reservation posts. -/
def IsReservation (entry : LedgerEntry) : Prop :=
  entry.kind = .payoutReservation ∧ entry.paymentAttemptId = none ∧
    ∃ itemId, entry.idempotencyKey = .payoutReservation itemId

def posts (ledger : Ledger) (entries : List LedgerEntry) : Ledger :=
  entries.foldl (fun ledger entry => (postEntry ledger entry).1) ledger

def reservedItem (ctx : Ctx) (runId : RunId) (payoutRun : PayoutRun) (account : PayoutAccount)
    (availableCents : Int) : PayoutItem :=
  { runId
    creatorId := account.creatorId
    amountCents := availableCents
    currency := payoutRun.currency
    destinationAccountId := account.stripeAccountId
    idempotencyKey := ⟨account.creatorId, payoutRun.periodStart⟩
    stripeTransferId := none
    status := .reserved
    attempts := 0
    nextAttemptAt := ctx.now
    failureCode := none
    processedAt := none }

def reservationEntry (ctx : Ctx) (payoutRun : PayoutRun) (account : PayoutAccount)
    (itemId : ItemId) (availableCents : Int) : LedgerEntry :=
  { creatorId := account.creatorId
    kind := .payoutReservation
    amountCents := -availableCents
    currency := payoutRun.currency
    effectiveAt := ctx.now
    idempotencyKey := .payoutReservation itemId
    paymentAttemptId := none
    callId := none
    payoutItemId := some itemId
    metadata := none }

/-- A turn of the batch that reserves a creator's balance, with what it has
checked. -/
structure Reserves (ctx : Ctx) (runId : RunId) (payoutRun : PayoutRun) (account : PayoutAccount)
    (availableCents : Int) (before after : DB) : Prop where
  available : availableCents =
    (balanceAt before.ledger account.creatorId payoutRun.currency ctx.now).availableCents
  minimum : (config ctx.env).minimumCents ≤ availableCents
  first : ∀ id item, before.payoutItems.get id = some item →
    ¬ (item.runId = runId ∧ item.creatorId = account.creatorId)
  settled : ∀ id item, before.payoutItems.get id = some item →
    item.creatorId = account.creatorId → item.status ∉ unsettled
  ledger : after.ledger = (postEntry before.ledger (reservationEntry ctx payoutRun account
    before.payoutItems.next availableCents)).1
  items : after.payoutItems =
    before.payoutItems.insert (reservedItem ctx runId payoutRun account availableCents)
  runs : after.payoutRuns =
    if payoutRun.status ≠ .processing then before.payoutRuns.patch runId fun r =>
      { r with status := .processing, completedAt := none }
    else before.payoutRuns
  same : SameCore
    { before with
      ledger := after.ledger, payoutItems := after.payoutItems, payoutRuns := after.payoutRuns }
    after

/-- A turn of the batch over one account. -/
def Turn (ctx : Ctx) (runId : RunId) (payoutRun : PayoutRun) (before after : DB) : Prop :=
  SameCore before after ∨
    ∃ account cents, Reserves ctx runId payoutRun account cents before after

/-- A run with this status has nothing in flight, and the status says what has
become of its items. -/
structure Finished (items : Table PayoutItem) (runId : RunId) (payoutRun : PayoutRun) : Prop where
  idle : ∀ id item, items.get id = some item → item.runId = runId →
    item.status ≠ .reserved ∧ item.status ≠ .sending ∧ item.status ≠ .retry
  status : payoutRun.status = .completed ∧ (∀ id item, items.get id = some item →
      item.runId = runId → item.status ≠ .failed) ∨
    payoutRun.status = .partialFailed ∧ ∃ id item, items.get id = some item ∧
      item.runId = runId ∧ item.status = .failed

/-- `finishRuns` leaves a run as it is, or finishes it. -/
def Finishes (items : Table PayoutItem) (runId : RunId) (before after : PayoutRun) : Prop :=
  after = before ∨ Finished items runId after

/-- The ways a mutation can change the core tables, each with what its code has
checked. -/
inductive Effect (ctx : Ctx) (db : DB) (m : Mutation) (after : DB) : Prop
  | same (same : SameCore db after)
  | userAdded (user : User)
      (rate : user.platformFeeBps = none ∨ user.platformFeeBps = some signupPlatformFeeBps)
      (same : SameCore { db with users := db.users.insert user } after)
  | tiersReplaced (showId : ShowId) (hotline : Show) (showTiers : Table ShowTier)
      (present : db.shows.get showId = some hotline) (created : hotline.status = .created)
      (kept : ∀ id tier, db.showTiers.get id = some tier → tier.showId ≠ showId →
        showTiers.get id = some tier)
      (each : ∀ id tier, showTiers.get id = some tier →
        db.showTiers.get id = some tier ∨ tier.priced)
      (same : SameCore { db with showTiers } after)
  | showAdded (hotline : Show) (tier : ShowTier) (created : hotline.status = .created)
      (free : tier.priceCents = 0)
      (same : SameCore
        { db with shows := db.shows.insert hotline, showTiers := db.showTiers.insert tier } after)
  | showStarted (showId : ShowId) (hotline : Show) (present : db.shows.get showId = some hotline)
      (created : hotline.status = .created)
      (alone : ∀ id s, db.shows.get id = some s → s.creatorId = hotline.creatorId →
        s.status ≠ .live)
      (same : SameCore { db with shows := db.shows.patch showId fun s =>
        { s with status := .live, startedAt := some ctx.now } } after)
  | showEnded (showId : ShowId) (hotline : Show) (asked : ∃ userId, m = .endShow userId showId)
      (present : db.shows.get showId = some hotline)
      (live : hotline.status = .live)
      (idle : ∀ callId call, activeCallForShow db showId = some (callId, call) →
        call.status ∉ connectableStatuses)
      (same : SameCore { db with shows := db.shows.patch showId fun s =>
        { s with status := .ended, endedAt := some ctx.now } } after)
  | moved (callId : CallId) (call : Call) (target : CallStatus) (shows : Table Show)
      (present : db.calls.get callId = some call)
      (allowed : canTransition call.status target = true)
      (asked : m.moves ctx db = some (callId, call, target))
      (isOver : shows = db.shows ∨ target = .ended ∧ ∃ showId hotline,
        (∃ userId, m = .endShow userId showId) ∧ db.shows.get showId = some hotline ∧ hotline.status = .live ∧
          activeCallForShow db showId = some (callId, call) ∧
          shows = db.shows.patch showId fun s =>
            { s with status := .ended, endedAt := some ctx.now })
      (same : SameCore
        { db with
          shows
          calls := db.calls.patch callId (transitionPatch ctx target)
          queueEntries := db.queueEntries.patch call.queueEntryId fun e =>
            { e with status := entryStatusFor target }
          paymentRefunds := (finishCall ctx db callId call target).paymentRefunds
          ledger := (goLive ctx db callId call target).ledger } after)
  | queueClosed (showId : ShowId) (queueEntries : Table QueueEntry)
      (asked : m = .closeQueue showId)
      (each : ∀ id, queueEntries.get id = db.queueEntries.get id ∨
        ∃ entry, db.queueEntries.get id = some entry ∧ m.removes id entry = true ∧
          entry.status ∈ activeEntryStatuses ∧ queueEntries.get id = some (closedPatch ctx entry))
      (same : SameCore { db with queueEntries } after)
  | joined (viewerId : UserId) (args : JoinArgs) (tierId : TierId) (tier : ShowTier)
      (existing : Option (EntryId × QueueEntry)) (attempt : Option (AttemptId × PaymentAttempt))
      (live : showLive db args.showId = true)
      (found : db.showTiers.get tierId = some tier)
      (offered : tier.showId = args.showId ∧ tier.enabled = true)
      (previous : entryForViewer db args.showId viewerId = existing)
      (gone : ∀ row, existing = some row → row.2.status = .left)
      (held : ∀ row, attempt = some row → db.paymentAttempts.get row.1 = some row.2 ∧
        usableAttempt row.2 viewerId args.showId tierId tier (existing.map Prod.fst) = true)
      (paid : attempt.isSome = decide (0 < tier.priceCents))
      (same : SameCore (enqueue ctx db viewerId args tierId tier (existing.map Prod.fst)
        (attempt.map Prod.fst)).1 after)
  | left (entryId : EntryId) (entry : QueueEntry) (asked : m.removes entryId entry = true)
      (present : db.queueEntries.get entryId = some entry) (waiting : entry.status = .waiting)
      (same : SameCore
        { db with queueEntries := db.queueEntries.patch entryId (releasedPatch ctx) } after)
  | selected (showId : ShowId) (hotline : Show) (entryId : EntryId) (entry : QueueEntry)
      (mode : SelectionMode) (attempt : Option (AttemptId × PaymentAttempt))
      (asked : m.removes entryId entry = true)
      (host : db.shows.get showId = some hotline) (live : hotline.status = .live)
      (idle : activeCallForShow db showId = none)
      (present : db.queueEntries.get entryId = some entry)
      (inShow : entry.showId = showId) (waiting : entry.status = .waiting)
      (held : attempt = entryAttempt db entry)
      (paid : 0 < entry.tierPriceCents → ∃ row, attempt = some row ∧ row.2.status = .authorized)
      (same : SameCore (openCall ctx db showId hotline entryId entry mode attempt).1 after)
  | attemptAdded (attempt : PaymentAttempt) (tierId : TierId) (tier : ShowTier)
      (hotline : Show) (found : db.showTiers.get tierId = some tier) (paid : 0 < tier.priceCents)
      (created : attempt.status = .created) (detached : attempt.stripePaymentIntentId = none)
      (unqueued : attempt.queueEntryId = none)
      (amount : attempt.amountCents = tier.priceCents)
      (fee : attempt.platformFeeCents = (paymentFees tier.priceCents
        (creatorFeeBps (db.users.get hotline.creatorId))).platformFeeCents)
      (same : SameCore { db with paymentAttempts := db.paymentAttempts.insert attempt } after)
  | intentAttached (attemptId : AttemptId) (intentId : StripeId) (attempt : PaymentAttempt)
      (asked : m = .attachIntent attemptId intentId)
      (present : db.paymentAttempts.get attemptId = some attempt)
      (detached : attempt.stripePaymentIntentId = none)
      (same : SameCore { db with paymentAttempts := db.paymentAttempts.patch attemptId fun a =>
        { a with stripePaymentIntentId := some intentId } } after)
  | authorized (attemptId : AttemptId) (attempt : PaymentAttempt)
      (asked : m = .markAuthorized attemptId)
      (present : db.paymentAttempts.get attemptId = some attempt)
      (created : attempt.status = .created)
      (same : SameCore { db with paymentAttempts := db.paymentAttempts.patch attemptId fun a =>
        { a with status := .authorized, authorizedAt := some ctx.now } } after)
  | captureNoted (attemptId : AttemptId) (attempt : PaymentAttempt) (capturedAt : Option Time)
      (method : Option StripeId) (asked : m.report db = some (attemptId, .captured))
      (present : db.paymentAttempts.get attemptId = some attempt)
      (settled : ∀ callId call, callForAttempt db attemptId = some (callId, call) →
        ¬ (call.status = .paymentPending ∧ showLive db call.showId) ∧
        ¬ (call.startedAt = none ∧ ¬ showLive db call.showId))
      (same : SameCore
        { db with
          paymentAttempts :=
            db.paymentAttempts.patch attemptId (capturedPatch capturedAt method) } after)
  | callOpened (attemptId : AttemptId) (attempt : PaymentAttempt) (capturedAt : Option Time)
      (method : Option StripeId) (callId : CallId) (call : Call)
      (asked : m.report db = some (attemptId, .captured))
      (present : db.paymentAttempts.get attemptId = some attempt)
      (found : callForAttempt db attemptId = some (callId, call))
      (pending : call.status = .paymentPending) (live : showLive db call.showId = true)
      (same : SameCore
        { db with
          paymentAttempts :=
            db.paymentAttempts.patch attemptId (capturedPatch capturedAt method)
          calls := db.calls.patch callId fun c => { c with status := .created } } after)
  | callMissed (attemptId : AttemptId) (attempt : PaymentAttempt) (capturedAt : Option Time)
      (method : Option StripeId) (callId : CallId) (call : Call)
      (asked : m.report db = some (attemptId, .captured))
      (present : db.paymentAttempts.get attemptId = some attempt)
      (found : callForAttempt db attemptId = some (callId, call))
      (unstarted : call.startedAt = none) (isOver : showLive db call.showId = false)
      (pending : call.status = .paymentPending)
      (same : SameCore
        { db with
          paymentAttempts :=
            db.paymentAttempts.patch attemptId (capturedPatch capturedAt method)
          calls := db.calls.patch callId (failedPatch ctx)
          queueEntries := db.queueEntries.patch call.queueEntryId fun e =>
            { e with status := .ended }
          paymentRefunds := (requestRefund ctx db attemptId
            (capturedPatch capturedAt attempt.savedPaymentMethodId attempt) callId
            .showEndedBeforeCallStarted).paymentRefunds } after)
  | chargeReturned (attemptId : AttemptId) (attempt : PaymentAttempt) (capturedAt : Option Time)
      (method : Option StripeId) (callId : CallId) (call : Call)
      (asked : m.report db = some (attemptId, .captured))
      (present : db.paymentAttempts.get attemptId = some attempt)
      (found : callForAttempt db attemptId = some (callId, call))
      (unstarted : call.startedAt = none) (isOver : showLive db call.showId = false)
      (settled : call.status ≠ .paymentPending)
      (same : SameCore
        { db with
          paymentAttempts :=
            db.paymentAttempts.patch attemptId (capturedPatch capturedAt method)
          paymentRefunds := (requestRefund ctx db attemptId
            (capturedPatch capturedAt attempt.savedPaymentMethodId attempt) callId
            .showEndedBeforeCallStarted).paymentRefunds } after)
  | notCaptured (attemptId : AttemptId) (attempt : PaymentAttempt) (status : NotCaptured)
      (failureCode : Option String) (canceledAt : PaymentAttempt → Option Time)
      (calls : Table Call) (queueEntries : Table QueueEntry)
      (asked : m.report db = some (attemptId, .notCaptured status))
      (present : db.paymentAttempts.get attemptId = some attempt)
      (uncaptured : attempt.status ≠ .captured)
      (failed : (calls = db.calls ∧ ∀ callId call,
          callForAttempt db attemptId = some (callId, call) → call.status ≠ .paymentPending) ∨
        ∃ callId call, callForAttempt db attemptId = some (callId, call) ∧
          call.status = .paymentPending ∧ calls = db.calls.patch callId (failedPatch ctx))
      (released : (queueEntries = db.queueEntries ∧ ∀ entryId entry,
          attempt.queueEntryId = some entryId → db.queueEntries.get entryId = some entry →
          entry.status ≠ .waiting ∧ (entry.status = .selected → ∀ callId call,
            callForAttempt db attemptId = some (callId, call) → call.status ≠ .paymentPending)) ∨
        ∃ entryId entry,
        attempt.queueEntryId = some entryId ∧ db.queueEntries.get entryId = some entry ∧
          (entry.status = .waiting ∨ entry.status = .selected ∧ ∃ callId call,
            callForAttempt db attemptId = some (callId, call) ∧ call.status = .paymentPending) ∧
          queueEntries = db.queueEntries.patch entryId (releasedPatch ctx))
      (same : SameCore
        { db with
          paymentAttempts := db.paymentAttempts.patch attemptId
            (notCapturedPatch status failureCode canceledAt)
          calls
          queueEntries } after)
  | refundClaimed (refundId : RefundId) (refund : PaymentRefund)
      (asked : m = .claimRefund refundId)
      (present : db.paymentRefunds.get refundId = some refund)
      (due : refundDue ctx.now refund = true)
      (same : SameCore { db with paymentRefunds := db.paymentRefunds.patch refundId fun r =>
        { r with
          status := .processing
          attempts := refund.attempts + 1
          nextAttemptAt := ctx.now + leaseMs } } after)
  | refundRetried (refundId : RefundId) (refund : PaymentRefund) (status : RefundStatus)
      (failureCode : Option String) (nextAttemptAt : PaymentRefund → Time)
      (processedAt : PaymentRefund → Option Time)
      (present : db.paymentRefunds.get refundId = some refund)
      (claimed : refund.status = .processing) (again : status = .retry ∨ status = .failed)
      (same : SameCore { db with paymentRefunds := db.paymentRefunds.patch refundId fun r =>
        { r with
          status
          failureCode
          nextAttemptAt := nextAttemptAt r
          processedAt := processedAt r } } after)
  | refundRecorded (refundId : RefundId) (refund : PaymentRefund) (stripeRefundId : StripeId)
      (status : RefundOutcome) (failureCode : Option String)
      (asked : m = .recordRefund refundId stripeRefundId status failureCode)
      (present : db.paymentRefunds.get refundId = some refund)
      (unsettled : refund.status.final = false)
      (same : SameCore
        { db with
          paymentRefunds := db.paymentRefunds.patch refundId
            (recordedPatch ctx stripeRefundId status failureCode)
          ledger := ledgerAfter ctx db status refundId
            (recordedPatch ctx stripeRefundId status failureCode refund) } after)
  | refundSettled (event : RefundEvent) (refundId : RefundId) (refund : PaymentRefund)
      (asked : m.refundNews db = some event)
      (matched : refundRow db event = some (refundId, refund))
      (present : db.paymentRefunds.get refundId = some refund)
      (newer : ¬ (refund.status.final = true ∧ statusFromStripe event.status = .pending))
      (same : SameCore
        { db with
          paymentRefunds := db.paymentRefunds.patch refundId (settledPatch ctx event refund)
          ledger := ledgerAfter ctx db (statusFromStripe event.status) refundId
            (settledPatch ctx event refund refund) } after)
  | refundFound (event : RefundEvent) (refund : PaymentRefund)
      (asked : m.refundNews db = some event) (unmatched : refundRow db event = none)
      (outside : outsideRefund ctx db event = some refund)
      (same : SameCore
        { db with
          paymentRefunds := db.paymentRefunds.insert (settledPatch ctx event refund refund)
          ledger := ledgerAfter ctx db (statusFromStripe event.status) db.paymentRefunds.next
            (settledPatch ctx event refund refund) } after)
  | disputed (event : DisputeEvent) (asked : m.disputeNews db = some event)
      (same : SameCore
        { db with
          paymentDisputes := disputesAfter db event
          ledger := adjustForDispute ctx db.ledger (disputeAfter db event) } after)
  | runOpened (payoutRun : PayoutRun) (processing : payoutRun.status = .processing)
      (same : SameCore { db with payoutRuns := db.payoutRuns.insert payoutRun } after)
  | runsFinished (payoutRuns : Table PayoutRun)
      (each : Table.Follow (Finishes db.payoutItems) (fun _ => False) db.payoutRuns payoutRuns)
      (same : SameCore { db with payoutRuns } after)
  | reserved (runId : RunId) (payoutRun : PayoutRun) (entries : List LedgerEntry)
      (payoutItems : Table PayoutItem) (payoutRuns : Table PayoutRun) (cursor : Option Nat)
      (asked : m = .reserveBatch runId cursor)
      (present : db.payoutRuns.get runId = some payoutRun)
      (each : ∀ entry ∈ entries, IsReservation entry)
      (turns : Relation.ReflTransGen (Turn ctx runId payoutRun) db after)
      (same : SameCore
        { db with ledger := posts db.ledger entries, payoutItems, payoutRuns } after)
  | itemClaimed (itemId : ItemId) (item : PayoutItem)
      (asked : m = .claimTransfer itemId)
      (present : db.payoutItems.get itemId = some item)
      (due : transferDue ctx.now item = true)
      (same : SameCore
        { db with
          payoutItems := db.payoutItems.patch itemId fun i =>
            { i with
              status := .sending
              attempts := item.attempts + 1
              nextAttemptAt := ctx.now + transferLeaseMs } } after)
  | itemPaid (itemId : ItemId) (item : PayoutItem) (transferId : StripeId)
      (asked : m = .markPaid itemId transferId)
      (present : db.payoutItems.get itemId = some item) (sending : item.status = .sending)
      (same : SameCore
        { db with
          payoutItems := db.payoutItems.patch itemId fun i =>
            { i with
              status := .paid
              stripeTransferId := some transferId
              failureCode := none
              processedAt := some ctx.now } } after)
  | itemRetried (itemId : ItemId) (item : PayoutItem) (status : PayoutItemStatus)
      (failureCode : Option String) (nextAttemptAt : PayoutItem → Time)
      (processedAt : PayoutItem → Option Time)
      (present : db.payoutItems.get itemId = some item) (sending : item.status = .sending)
      (again : status = .retry ∨ status = .failed)
      (same : SameCore
        { db with
          payoutItems := db.payoutItems.patch itemId fun i =>
            { i with
              status
              failureCode
              nextAttemptAt := nextAttemptAt i
              processedAt := processedAt i } } after)

/-! ### Reports of captures -/

/-- When an attempt already captured is captured again, it keeps its time. -/
def captureTime (ctx : Ctx) (attempt : PaymentAttempt) : Option Time :=
  if attempt.status = .captured then attempt.capturedAt
  else some (attempt.capturedAt.getD ctx.now)

/-- The attempts `recordCaptured` goes on with. -/
theorem captured_attempts (ctx : Ctx) (db : DB) {attemptId : AttemptId} {attempt : PaymentAttempt}
    (present : db.paymentAttempts.get attemptId = some attempt) :
    (if attempt.status ≠ .captured then
      { db with paymentAttempts := db.paymentAttempts.patch attemptId fun a =>
        { a with status := .captured
                 capturedAt := some (attempt.capturedAt.getD ctx.now) } }
    else db) =
      { db with
        paymentAttempts := db.paymentAttempts.patch attemptId
          (capturedPatch (captureTime ctx attempt) attempt.savedPaymentMethodId) } := by
  by_cases isCaptured : attempt.status = .captured
  · have unchanged : db.paymentAttempts.patch attemptId
        (capturedPatch (captureTime ctx attempt) attempt.savedPaymentMethodId) =
        db.paymentAttempts := by
      refine Table.patch_eq_self ?_
      intro a found
      obtain rfl := Option.some.inj (present.symm.trans found)
      rw [captureTime, if_pos isCaptured, capturedPatch, ← isCaptured]
    rw [unchanged, if_neg (not_not.mpr isCaptured)]
  · rw [if_pos isCaptured]
    congr 1
    refine Table.patch_congr ?_
    intro a found
    obtain rfl := Option.some.inj (present.symm.trans found)
    simp only [capturedPatch, captureTime, if_neg isCaptured]

theorem recordCaptured_attempts (ctx : Ctx) (db : DB) {attemptId : AttemptId}
    {attempt : PaymentAttempt} (present : db.paymentAttempts.get attemptId = some attempt) :
    (recordCaptured ctx db attemptId attempt).paymentAttempts =
      db.paymentAttempts.patch attemptId
        (capturedPatch (captureTime ctx attempt) attempt.savedPaymentMethodId) := by
  unfold recordCaptured
  rw [captured_attempts ctx db present]
  dsimp only
  split
  · split
    · rfl
    · split
      · rw [(requestRefund_same ctx _ _ _ _ _).paymentAttempts]
        dsimp only
        split <;> rfl
      · rfl
  · rfl

/-- Whatever card the payment saves, a capture has one of four effects. -/
theorem recordCaptured_effect (ctx : Ctx) {db : DB} {m : Mutation} {attemptId : AttemptId}
    {attempt : PaymentAttempt} (asked : m.report db = some (attemptId, .captured))
    (present : db.paymentAttempts.get attemptId = some attempt) (events : Table StripeEvent)
    (method : Option StripeId) :
    Effect ctx db m
      { recordCaptured ctx { db with stripeEvents := events } attemptId attempt with
        paymentAttempts := db.paymentAttempts.patch attemptId
          (capturedPatch (captureTime ctx attempt) method) } := by
  have patched : (db.paymentAttempts.patch attemptId
      (capturedPatch (captureTime ctx attempt) attempt.savedPaymentMethodId)).get attemptId =
      some (capturedPatch (captureTime ctx attempt) attempt.savedPaymentMethodId attempt) :=
    Table.get_patch_self present _
  unfold recordCaptured
  rw [captured_attempts ctx { db with stripeEvents := events } present]
  dsimp only
  rw [patched]
  have sameCalls : callForAttempt
      { db with
        stripeEvents := events
        paymentAttempts := db.paymentAttempts.patch attemptId
          (capturedPatch (captureTime ctx attempt) attempt.savedPaymentMethodId) } attemptId =
      callForAttempt db attemptId := rfl
  rw [sameCalls]
  cases found : callForAttempt db attemptId with
  | none =>
      refine .captureNoted attemptId attempt _ method asked present ?_
        ⟨rfl, rfl, rfl, rfl, rfl, rfl, rfl, rfl, rfl, rfl, rfl⟩
      intro callId call located
      rw [found] at located
      cases located
  | some row =>
      obtain ⟨callId, call⟩ := row
      dsimp only
      split
      · rename_i opens
        exact .callOpened attemptId attempt _ method callId call asked present found opens.1
          opens.2 ⟨rfl, rfl, rfl, rfl, rfl, rfl, rfl, rfl, rfl, rfl, rfl⟩
      · rename_i unopened
        split
        · rename_i missed
          have isOver : showLive db call.showId = false := Bool.eq_false_iff.mpr missed.2
          split
          · rename_i pending
            have same := requestRefund_same ctx
            refine .callMissed attemptId attempt _ method callId call asked present found missed.1
              isOver pending ⟨(same _ _ _ _ _).users, (same _ _ _ _ _).showTiers,
                (same _ _ _ _ _).shows, (same _ _ _ _ _).queueEntries, (same _ _ _ _ _).calls,
                rfl, requestRefund_congr ctx _ _ _ _ rfl, (same _ _ _ _ _).paymentDisputes,
                (same _ _ _ _ _).ledger, (same _ _ _ _ _).payoutItems,
                (same _ _ _ _ _).payoutRuns⟩
          · rename_i settled
            have same := requestRefund_same ctx
            refine .chargeReturned attemptId attempt _ method callId call asked present found
              missed.1 isOver settled ⟨(same _ _ _ _ _).users, (same _ _ _ _ _).showTiers,
                (same _ _ _ _ _).shows, (same _ _ _ _ _).queueEntries, (same _ _ _ _ _).calls,
                rfl, requestRefund_congr ctx _ _ _ _ rfl, (same _ _ _ _ _).paymentDisputes,
                (same _ _ _ _ _).ledger, (same _ _ _ _ _).payoutItems,
                (same _ _ _ _ _).payoutRuns⟩
        · rename_i continues
          refine .captureNoted attemptId attempt _ method asked present ?_
            ⟨rfl, rfl, rfl, rfl, rfl, rfl, rfl, rfl, rfl, rfl, rfl⟩
          intro otherId other located
          obtain ⟨rfl, rfl⟩ := Prod.mk.inj (Option.some.inj (found.symm.trans located))
          exact ⟨unopened, continues⟩

/-! ### Reports that a payment will not be captured -/

def waitsForCapture (db : DB) (attemptId : AttemptId) : Bool :=
  (callForAttempt db attemptId).any fun row => row.2.status == .paymentPending

/-- The calls after the one waiting on the payment, if any, has failed. -/
def callsAfterFailure (ctx : Ctx) (db : DB) (attemptId : AttemptId) : Table Call :=
  match callForAttempt db attemptId with
  | some (callId, _) =>
    if waitsForCapture db attemptId then db.calls.patch callId (failedPatch ctx) else db.calls
  | none => db.calls

/-- The entry that `recordNotCaptured` lets go. -/
def releasedEntry (queueEntries : Table QueueEntry) (pointer : Option EntryId) (pending : Bool) :
    Option (EntryId × QueueEntry) :=
  match pointer with
  | none => none
  | some entryId => ((queueEntries.get entryId).filter fun e =>
      e.status == .waiting || (e.status == .selected && pending)).map fun e => (entryId, e)

theorem releasedEntry_some {queueEntries : Table QueueEntry} {pointer : Option EntryId}
    {pending : Bool} {entryId : EntryId} {entry : QueueEntry} :
    releasedEntry queueEntries pointer pending = some (entryId, entry) ↔
      pointer = some entryId ∧ queueEntries.get entryId = some entry ∧
        (entry.status = .waiting ∨ (entry.status = .selected ∧ pending = true)) := by
  cases pointer with
  | none => simp [releasedEntry]
  | some pointed =>
      simp only [releasedEntry, Option.map_eq_some_iff, Option.filter_eq_some_iff, Prod.mk.injEq,
        Bool.or_eq_true, Bool.and_eq_true, beq_iff_eq, Option.some.injEq]
      constructor
      · rintro ⟨held, ⟨found, waits⟩, rfl, rfl⟩
        exact ⟨rfl, found, waits⟩
      · rintro ⟨rfl, found, waits⟩
        exact ⟨entry, ⟨found, waits⟩, rfl, rfl⟩

def entriesAfterRelease (ctx : Ctx) (queueEntries : Table QueueEntry) (pointer : Option EntryId)
    (pending : Bool) : Table QueueEntry :=
  match releasedEntry queueEntries pointer pending with
  | some (entryId, _) => queueEntries.patch entryId (releasedPatch ctx)
  | none => queueEntries

/-- The end of `recordNotCaptured`, whatever it has written before. -/
theorem release_eq (ctx : Ctx) (db : DB) (pointer : Option EntryId) (pending : Bool) :
    (match pointer with
      | none => db
      | some entryId =>
        if (db.queueEntries.get entryId).any fun e =>
            e.status == .waiting || (e.status == .selected && pending) then
          { db with queueEntries := db.queueEntries.patch entryId (releasedPatch ctx) }
        else db) =
      { db with queueEntries := entriesAfterRelease ctx db.queueEntries pointer pending } := by
  unfold entriesAfterRelease releasedEntry
  cases pointer with
  | none => rfl
  | some entryId =>
      cases found : db.queueEntries.get entryId with
      | none => simp [found]
      | some entry =>
          by_cases waits : (entry.status == .waiting || (entry.status == .selected && pending)) = true
          · simp only [found, Option.any_some, waits, if_true, Option.filter_some, Option.map_some]
          · simp only [found, Option.any_some, waits, Option.filter_some]
            rfl

def cancelTime (ctx : Ctx) (attempt : PaymentAttempt) (status : NotCaptured) (a : PaymentAttempt) :
    Option Time :=
  if status = .canceled then some (attempt.canceledAt.getD ctx.now) else a.canceledAt

/-- Everything the report of a lost payment writes. -/
theorem recordNotCaptured_eq (ctx : Ctx) (db : DB) (attemptId : AttemptId)
    (attempt : PaymentAttempt) (status : NotCaptured) (failureCode : Option String)
    (uncaptured : attempt.status ≠ .captured) :
    recordNotCaptured ctx db attemptId attempt status failureCode =
      { db with
        paymentAttempts := db.paymentAttempts.patch attemptId
          (notCapturedPatch status failureCode (cancelTime ctx attempt status))
        calls := callsAfterFailure ctx db attemptId
        queueEntries := entriesAfterRelease ctx db.queueEntries attempt.queueEntryId
          (waitsForCapture db attemptId) } := by
  unfold recordNotCaptured callsAfterFailure waitsForCapture
  rw [if_neg uncaptured]
  simp only [callForAttempt]
  rcases Option.eq_none_or_eq_some (db.calls.first fun call =>
    call.paymentAttemptId == some attemptId) with found | ⟨⟨callId, call⟩, found⟩
  · simp only [found]
    exact release_eq ctx
      { db with
        paymentAttempts := db.paymentAttempts.patch attemptId
          (notCapturedPatch status failureCode (cancelTime ctx attempt status)) }
      attempt.queueEntryId _
  · simp only [found, Option.any_some]
    by_cases pending : (call.status == CallStatus.paymentPending) = true
    · simp only [pending, if_true]
      exact release_eq ctx
        { db with
          paymentAttempts := db.paymentAttempts.patch attemptId
            (notCapturedPatch status failureCode (cancelTime ctx attempt status))
          calls := db.calls.patch callId (failedPatch ctx) }
        attempt.queueEntryId _
    · simp only [pending]
      exact release_eq ctx
        { db with
          paymentAttempts := db.paymentAttempts.patch attemptId
            (notCapturedPatch status failureCode (cancelTime ctx attempt status)) }
        attempt.queueEntryId _

theorem recordNotCaptured_effect {ctx : Ctx} {db : DB} {m : Mutation} {attemptId : AttemptId}
    {attempt : PaymentAttempt} {status : NotCaptured}
    (asked : m.report db = some (attemptId, .notCaptured status))
    (present : db.paymentAttempts.get attemptId = some attempt) (events : Table StripeEvent)
    (failureCode : Option String) :
    Effect ctx db m (recordNotCaptured ctx { db with stripeEvents := events } attemptId attempt
      status failureCode) := by
  by_cases isCaptured : attempt.status = .captured
  · rw [recordNotCaptured, if_pos isCaptured]
    exact .same ⟨rfl, rfl, rfl, rfl, rfl, rfl, rfl, rfl, rfl, rfl, rfl⟩
  · rw [recordNotCaptured_eq ctx _ attemptId attempt status failureCode isCaptured]
    refine .notCaptured attemptId attempt status failureCode _ (callsAfterFailure ctx db attemptId)
      (entriesAfterRelease ctx db.queueEntries attempt.queueEntryId
        (waitsForCapture db attemptId)) asked present isCaptured ?_ ?_
      ⟨rfl, rfl, rfl, rfl, rfl, rfl, rfl, rfl, rfl, rfl, rfl⟩
    · unfold callsAfterFailure waitsForCapture
      cases found : callForAttempt db attemptId with
      | none =>
          refine Or.inl ⟨rfl, ?_⟩
          intro callId call located
          cases located
      | some row =>
          obtain ⟨callId, call⟩ := row
          by_cases pending : call.status = .paymentPending
          · refine Or.inr ⟨callId, call, rfl, pending, ?_⟩
            simp [pending]
          · refine Or.inl ⟨by simp [pending], ?_⟩
            intro otherId other located
            obtain ⟨rfl, rfl⟩ := Prod.mk.inj (Option.some.inj located)
            exact pending
    · unfold entriesAfterRelease
      cases released : releasedEntry db.queueEntries attempt.queueEntryId
          (waitsForCapture db attemptId) with
      | none =>
          refine Or.inl ⟨rfl, ?_⟩
          intro entryId entry pointer found
          have unreleased (waits : entry.status = .waiting ∨ (entry.status = .selected ∧
              waitsForCapture db attemptId = true)) : False := by
            rw [releasedEntry_some.mpr ⟨pointer, found, waits⟩] at released
            cases released
          refine ⟨fun waiting => unreleased (Or.inl waiting), ?_⟩
          intro selected callId call located pending
          refine unreleased (Or.inr ⟨selected, ?_⟩)
          simp [waitsForCapture, located, pending]
      | some row =>
          obtain ⟨pointer, found, waits⟩ := releasedEntry_some.mp released
          refine Or.inr ⟨row.1, row.2, pointer, found, waits.imp_right ?_, rfl⟩
          rintro ⟨selected, pending⟩
          obtain ⟨⟨callId, call⟩, located, isPending⟩ := Option.any_eq_true _ _ |>.mp pending
          exact ⟨selected, callId, call, located, by simpa using isPending⟩

/-! ### Closing a queue -/

/-- `after` differs from `before` in entries of one show that have been closed. -/
structure Closed (ctx : Ctx) (showId : ShowId) (before after : DB) : Prop where
  same : SameCore { before with queueEntries := after.queueEntries } after
  each : ∀ id, after.queueEntries.get id = before.queueEntries.get id ∨
    ∃ entry, before.queueEntries.get id = some entry ∧ entry.showId = showId ∧
      entry.status ∈ activeEntryStatuses ∧
      after.queueEntries.get id = some (closedPatch ctx entry)

theorem Closed.refl (ctx : Ctx) (showId : ShowId) (db : DB) : Closed ctx showId db db :=
  ⟨.refl db, fun _ => Or.inl rfl⟩

theorem Closed.trans {ctx : Ctx} {showId : ShowId} {a b c : DB} (first : Closed ctx showId a b)
    (second : Closed ctx showId b c) : Closed ctx showId a c := by
  refine ⟨⟨second.same.users.trans first.same.users,
    second.same.showTiers.trans first.same.showTiers, second.same.shows.trans first.same.shows,
    rfl, second.same.calls.trans first.same.calls,
    second.same.paymentAttempts.trans first.same.paymentAttempts,
    second.same.paymentRefunds.trans first.same.paymentRefunds,
    second.same.paymentDisputes.trans first.same.paymentDisputes,
    second.same.ledger.trans first.same.ledger,
    second.same.payoutItems.trans first.same.payoutItems,
    second.same.payoutRuns.trans first.same.payoutRuns⟩, ?_⟩
  intro id
  rcases second.each id with kept | ⟨entry, present, inShow, active, closed⟩
  · rw [kept]
    exact first.each id
  · rcases first.each id with kept | ⟨old, _, _, _, closedBefore⟩
    · rw [kept] at present
      exact Or.inr ⟨entry, present, inShow, active, closed⟩
    · -- An entry that is closed already is in no active status.
      rw [present] at closedBefore
      obtain rfl := Option.some.inj closedBefore
      simp [closedPatch, activeEntryStatuses] at active

theorem closeEntry_same (ctx : Ctx) (status : QueueStatus) (db : DB) (row : EntryId × QueueEntry) :
    SameCore { db with queueEntries := db.queueEntries.patch row.1 (closedPatch ctx) }
      (closeEntry ctx status db row) := by
  unfold closeEntry
  dsimp only
  split
  · exact .refl _
  · split
    · split
      · exact .refl _
      · exact scheduleCancel_same ctx _ _ _ _
    · exact .refl _

theorem closeEntry_closed {ctx : Ctx} {showId : ShowId} {start db : DB} (status : QueueStatus)
    {row : EntryId × QueueEntry} (sofar : Closed ctx showId start db)
    (present : start.queueEntries.get row.1 = some row.2) (inShow : row.2.showId = showId)
    (active : row.2.status ∈ activeEntryStatuses) :
    Closed ctx showId start (closeEntry ctx status db row) := by
  have same := closeEntry_same ctx status db row
  refine ⟨⟨same.users.trans sofar.same.users, same.showTiers.trans sofar.same.showTiers,
    same.shows.trans sofar.same.shows, rfl, same.calls.trans sofar.same.calls,
    same.paymentAttempts.trans sofar.same.paymentAttempts,
    same.paymentRefunds.trans sofar.same.paymentRefunds,
    same.paymentDisputes.trans sofar.same.paymentDisputes,
    same.ledger.trans sofar.same.ledger,
    same.payoutItems.trans sofar.same.payoutItems,
    same.payoutRuns.trans sofar.same.payoutRuns⟩, ?_⟩
  intro id
  rw [same.queueEntries, Table.get_patch]
  split
  · rename_i here
    rw [here]
    refine Or.inr ⟨row.2, present, inShow, active, ?_⟩
    rcases sofar.each row.1 with kept | ⟨entry, found, _, _, closed⟩
    · rw [kept, present, Option.map_some]
    · rw [closed, Option.some.inj (found.symm.trans present), Option.map_some]
      rfl
  · exact sofar.each id

theorem mem_entriesWith {db : DB} {showId : ShowId} {status : QueueStatus}
    {row : EntryId × QueueEntry} (member : row ∈ entriesWith db showId status) :
    db.queueEntries.get row.1 = some row.2 ∧ row.2.showId = showId ∧ row.2.status = status := by
  unfold entriesWith at member
  rw [List.mem_insertionSort] at member
  obtain ⟨present, matched⟩ := (Table.mem_query _ _ row.1 row.2).mp member
  simp only [Bool.and_eq_true, beq_iff_eq] at matched
  exact ⟨present, matched.1, matched.2⟩

theorem closeEach_closed {ctx : Ctx} {showId : ShowId} {start : DB} (status : QueueStatus)
    (rows : List (EntryId × QueueEntry))
    (each : ∀ row ∈ rows, start.queueEntries.get row.1 = some row.2 ∧ row.2.showId = showId ∧
      row.2.status ∈ activeEntryStatuses) {db : DB} (sofar : Closed ctx showId start db) :
    Closed ctx showId start (rows.foldl (closeEntry ctx status) db) := by
  induction rows generalizing db with
  | nil => exact sofar
  | cons row rest ih =>
      obtain ⟨present, inShow, active⟩ := each row List.mem_cons_self
      exact ih (fun other member => each other (List.mem_cons_of_mem _ member))
        (closeEntry_closed status sofar present inShow active)

theorem closeStatuses_closed (ctx : Ctx) {db current : DB} (showId : ShowId) (limit : Nat)
    (statuses : List QueueStatus) (isActive : ∀ status ∈ statuses, status ∈ activeEntryStatuses)
    (closed : Nat) (sofar : Closed ctx showId db current) : Closed ctx showId db
      (statuses.foldl (fun (db, closed) status =>
        if limit ≤ closed then (db, closed)
        else
          let entries := (entriesWith db showId status).take (limit - closed)
          (entries.foldl (closeEntry ctx status) db, closed + entries.length))
        (current, closed)).1 := by
  induction statuses generalizing current closed with
  | nil => exact sofar
  | cons status rest ih =>
      rw [List.foldl_cons]
      dsimp only
      split
      · exact ih (fun s member => isActive s (List.mem_cons_of_mem _ member)) _ sofar
      · refine ih (fun s member => isActive s (List.mem_cons_of_mem _ member)) _
          (sofar.trans (closeEach_closed status _ ?_ (.refl ctx showId current)))
        intro row member
        obtain ⟨present, inShow, same⟩ := mem_entriesWith (List.mem_of_mem_take member)
        exact ⟨present, inShow, same ▸ isActive status List.mem_cons_self⟩

theorem closeEntries_closed (ctx : Ctx) (db : DB) (showId : ShowId) (limit : Nat) :
    Closed ctx showId db (closeEntries ctx db showId limit).1 :=
  closeStatuses_closed ctx showId limit activeEntryStatuses (fun _ => id) 0 (.refl ctx showId db)

theorem closeQueue_effect (ctx : Ctx) (db : DB) (showId : ShowId) :
    Effect ctx db (.closeQueue showId) (closeQueue ctx db showId) := by
  have closed := closeEntries_closed ctx db showId closeBatch
  have each : ∀ id, (closeEntries ctx db showId closeBatch).1.queueEntries.get id =
      db.queueEntries.get id ∨ ∃ entry, db.queueEntries.get id = some entry ∧
        (Mutation.closeQueue showId).removes id entry = true ∧
        entry.status ∈ activeEntryStatuses ∧
        (closeEntries ctx db showId closeBatch).1.queueEntries.get id =
          some (closedPatch ctx entry) := by
    intro id
    refine (closed.each id).imp_right ?_
    rintro ⟨entry, present, rfl, active, isClosed⟩
    exact ⟨entry, present, beq_self_eq_true _, active, isClosed⟩
  unfold closeQueue
  dsimp only
  split
  · exact .queueClosed showId _ rfl each (closed.same.trans (.runAfter _ _ _ _))
  · exact .queueClosed showId _ rfl each closed.same

/-! ### Refunds, disputes and events -/

theorem reversePatched_ledger (ctx : Ctx) {db : DB} {refundId : RefundId} {refund : PaymentRefund}
    (present : db.paymentRefunds.get refundId = some refund) :
    reversePatched ctx db refundId =
      { db with ledger := reverseForRefund ctx db.paymentAttempts db.ledger refundId refund } := by
  unfold reversePatched
  rw [present]

theorem settleRefund_same (ctx : Ctx) (db : DB) (event : RefundEvent) {refundId : RefundId}
    {refund : PaymentRefund} (present : db.paymentRefunds.get refundId = some refund)
    (newer : ¬ (refund.status.final = true ∧ statusFromStripe event.status = .pending)) :
    SameCore
      { db with
        paymentRefunds := db.paymentRefunds.patch refundId (settledPatch ctx event refund)
        ledger := ledgerAfter ctx db (statusFromStripe event.status) refundId
          (settledPatch ctx event refund refund) }
      (settleRefund ctx db event refundId refund) := by
  unfold settleRefund ledgerAfter
  dsimp only
  rw [if_neg newer]
  split
  · rename_i succeeded
    rw [reversePatched_ledger ctx (Table.get_patch_self present _)]
    exact ⟨rfl, rfl, rfl, rfl, rfl, rfl, rfl, rfl, rfl, rfl, rfl⟩
  · exact ⟨rfl, rfl, rfl, rfl, rfl, rfl, rfl, rfl, rfl, rfl, rfl⟩

theorem settleRefund_stale (ctx : Ctx) (db : DB) (event : RefundEvent) (refundId : RefundId)
    (refund : PaymentRefund)
    (older : refund.status.final = true ∧ statusFromStripe event.status = .pending) :
    settleRefund ctx db event refundId refund = db := by
  unfold settleRefund
  exact if_pos older

theorem refundRow_some {db : DB} {event : RefundEvent} {id : RefundId} {row : PaymentRefund}
    (matched : refundRow db event = some (id, row)) :
    db.paymentRefunds.get id = some row ∧ (row.stripeRefundId = some event.id ∨
      row.stripeRefundId = none ∧ event.intentId = some row.stripePaymentIntentId) := by
  unfold refundRow at matched
  rcases Option.or_eq_some_iff.mp matched with byId | ⟨_, byIntent⟩
  · obtain ⟨present, named⟩ := Table.first_row byId
    exact ⟨present, Or.inl (by simpa using named)⟩
  · obtain ⟨intentId, told, found⟩ := Option.bind_eq_some_iff.mp byIntent
    obtain ⟨present, both⟩ := Table.first_row found
    simp only [Bool.and_eq_true, beq_iff_eq] at both
    exact ⟨present, Or.inr ⟨both.2, by rw [told, both.1]⟩⟩

theorem applyRefund_effect {ctx : Ctx} {db : DB} {m : Mutation} {event : RefundEvent}
    (asked : m.refundNews db = some event) (events : Table StripeEvent) :
    Effect ctx db m (applyRefund ctx { db with stripeEvents := events } event) := by
  unfold applyRefund
  have sameRow : refundRow { db with stripeEvents := events } event = refundRow db event := rfl
  have sameRefund : outsideRefund ctx { db with stripeEvents := events } event =
      outsideRefund ctx db event := rfl
  rw [sameRow, sameRefund]
  cases matched : refundRow db event with
  | some row =>
      obtain ⟨refundId, refund⟩ := row
      have present := (refundRow_some matched).1
      dsimp only
      by_cases older : refund.status.final = true ∧ statusFromStripe event.status = .pending
      · rw [settleRefund_stale ctx _ event refundId refund older]
        exact .same ⟨rfl, rfl, rfl, rfl, rfl, rfl, rfl, rfl, rfl, rfl, rfl⟩
      · have same := settleRefund_same ctx { db with stripeEvents := events } event present older
        exact .refundSettled event refundId refund asked matched present older
          ⟨same.users, same.showTiers, same.shows, same.queueEntries, same.calls,
            same.paymentAttempts, same.paymentRefunds, same.paymentDisputes, same.ledger,
            same.payoutItems, same.payoutRuns⟩
  | none =>
      dsimp only
      cases outside : outsideRefund ctx db event with
      | none => exact .same ⟨rfl, rfl, rfl, rfl, rfl, rfl, rfl, rfl, rfl, rfl, rfl⟩
      | some refund =>
          have pending : refund.status = .pending := by
            unfold outsideRefund at outside
            obtain ⟨intentId, _, outside⟩ := Option.bind_eq_some_iff.mp outside
            obtain ⟨row, _, outside⟩ := Option.bind_eq_some_iff.mp outside
            obtain ⟨call, _, outside⟩ := Option.bind_eq_some_iff.mp outside
            obtain ⟨amount, _, outside⟩ := Option.bind_eq_some_iff.mp outside
            rw [← Option.some.inj outside]
          have unsettled : ¬ (refund.status.final = true ∧
              statusFromStripe event.status = .pending) := by
            simp [pending, RefundStatus.final]
          have same := settleRefund_same ctx
            { db with
              stripeEvents := events
              paymentRefunds := db.paymentRefunds.insert refund } event
            (Table.get_insert_next db.paymentRefunds refund) unsettled
          exact .refundFound event refund asked matched outside
            ⟨same.users, same.showTiers, same.shows, same.queueEntries, same.calls,
              same.paymentAttempts,
              same.paymentRefunds.trans (Table.patch_insert_next db.paymentRefunds refund _),
              same.paymentDisputes, same.ledger, same.payoutItems, same.payoutRuns⟩

theorem recordRefund_effect (ctx : Ctx) (db : DB) (refundId : RefundId)
    (stripeRefundId : StripeId) (status : RefundOutcome) (failureCode : Option String) :
    Effect ctx db (.recordRefund refundId stripeRefundId status failureCode)
      (recordRefund ctx db refundId stripeRefundId status failureCode) := by
  unfold recordRefund
  cases present : db.paymentRefunds.get refundId with
  | none => exact .same (.refl db)
  | some refund =>
      dsimp only
      cases final : refund.status.final with
      | true => exact .same (.refl db)
      | false =>
          have written : SameCore
              { db with
                paymentRefunds := db.paymentRefunds.patch refundId
                  (recordedPatch ctx stripeRefundId status failureCode)
                ledger := ledgerAfter ctx db status refundId
                  (recordedPatch ctx stripeRefundId status failureCode refund) }
              (if status = .succeeded then
                reversePatched ctx { db with
                  paymentRefunds := db.paymentRefunds.patch refundId
                    (recordedPatch ctx stripeRefundId status failureCode) } refundId
              else { db with
                paymentRefunds := db.paymentRefunds.patch refundId
                  (recordedPatch ctx stripeRefundId status failureCode) }) := by
            unfold ledgerAfter
            split
            · rw [reversePatched_ledger ctx (Table.get_patch_self present _)]
              exact ⟨rfl, rfl, rfl, rfl, rfl, rfl, rfl, rfl, rfl, rfl, rfl⟩
            · exact ⟨rfl, rfl, rfl, rfl, rfl, rfl, rfl, rfl, rfl, rfl, rfl⟩
          rw [if_neg Bool.false_ne_true]
          exact .refundRecorded refundId refund stripeRefundId status failureCode rfl present
            final (written.thenAfter _ _ _ _)

theorem claimRefund_effect (ctx : Ctx) (db : DB) (refundId : RefundId) :
    Effect ctx db (.claimRefund refundId) (claimRefund ctx db refundId).1 := by
  unfold claimRefund
  cases present : db.paymentRefunds.get refundId with
  | none => exact .same (.refl db)
  | some refund =>
      dsimp only
      split
      · exact .same (.refl db)
      · rename_i claims
        obtain ⟨_, due⟩ := not_or.mp claims
        exact .refundClaimed refundId refund rfl present (not_not.mp due) (.refl _)

theorem retryRefund_effect (ctx : Ctx) (db : DB) (m : Mutation) (refundId : RefundId)
    (failureCode : String) : Effect ctx db m (retryRefund ctx db refundId failureCode) := by
  unfold retryRefund
  cases present : db.paymentRefunds.get refundId with
  | none => exact .same (.refl db)
  | some refund =>
      dsimp only
      split
      · exact .same (.refl db)
      · rename_i claimed
        split
        · exact .refundRetried refundId refund .failed (some failureCode)
            (fun r => r.nextAttemptAt) (fun _ => some ctx.now) present (not_not.mp claimed)
            (Or.inr rfl) (.refl _)
        · exact .refundRetried refundId refund .retry (some failureCode) (fun _ => _)
            (fun r => r.processedAt) present (not_not.mp claimed) (Or.inl rfl)
            (.runAfter _ _ _ _)

theorem attemptForIntent_present {db : DB} {intentId : StripeId} {attemptId : AttemptId}
    {attempt : PaymentAttempt} (found : attemptForIntent db intentId = some (attemptId, attempt)) :
    db.paymentAttempts.get attemptId = some attempt ∧
      attempt.stripePaymentIntentId = some intentId := by
  obtain ⟨present, matched⟩ := Table.first_some found
  exact ⟨present, by simpa using matched⟩

theorem applyIntent_effect {ctx : Ctx} {db : DB} {event : Event} {intent : IntentEvent}
    (unseen : (Mutation.applyEvent event).news db = some event)
    (object : event.object = .intent intent) (events : Table StripeEvent) :
    Effect ctx db (.applyEvent event)
      (applyIntent ctx { db with stripeEvents := events } event.type intent) := by
  have report : (Mutation.applyEvent event).report db =
      (attemptForIntent db intent.id).map fun row => (row.1, intentReport event.type) := by
    obtain ⟨eventId, type, connected, object'⟩ := event
    obtain rfl := object
    simp only [Mutation.report, unseen]
  unfold applyIntent
  have sameAttempt : attemptForIntent { db with stripeEvents := events } intent.id =
      attemptForIntent db intent.id := rfl
  rw [sameAttempt]
  cases found : attemptForIntent db intent.id with
  | none => exact .same ⟨rfl, rfl, rfl, rfl, rfl, rfl, rfl, rfl, rfl, rfl, rfl⟩
  | some row =>
      obtain ⟨attemptId, attempt⟩ := row
      obtain ⟨present, _⟩ := attemptForIntent_present found
      rw [found] at report
      dsimp only
      by_cases succeeded : event.type = .paymentIntentSucceeded
      · have asked : (Mutation.applyEvent event).report db = some (attemptId, .captured) := by
          rw [report, Option.map_some, intentReport, if_pos succeeded]
        have attempts := recordCaptured_attempts ctx { db with stripeEvents := events } present
        rw [if_pos succeeded]
        split
        · have effect := recordCaptured_effect ctx asked present events
            intent.paymentMethodId
          rw [attempts, Table.patch_patch]
          exact effect
        · have effect := recordCaptured_effect ctx asked present events
            attempt.savedPaymentMethodId
          rw [← attempts] at effect
          exact effect
      · rw [if_neg succeeded]
        refine recordNotCaptured_effect ?_ present events intent.failureCode
        rw [report, Option.map_some, intentReport, if_neg succeeded]

theorem applyEvent_effect (ctx : Ctx) (db : DB) (event : Event) :
    Effect ctx db (.applyEvent event) (applyEvent ctx db event) := by
  unfold applyEvent
  split
  · exact .same (.refl db)
  · rename_i new
    have unseen : (Mutation.applyEvent event).news db = some event := if_neg new
    dsimp only
    split
    · rename_i intent object
      exact applyIntent_effect unseen object _
    · rename_i refund object
      refine applyRefund_effect ?_ _
      obtain ⟨eventId, type, connected, object'⟩ := event
      obtain rfl := object
      simp only [Mutation.refundNews, unseen]
    · rename_i dispute object
      refine .disputed dispute ?_ ?_
      · obtain ⟨eventId, type, connected, object'⟩ := event
        obtain rfl := object
        simp only [Mutation.disputeNews, unseen]
      · exact ⟨rfl, rfl, rfl, rfl, rfl, rfl, rfl, rfl, rfl, rfl, rfl⟩
    · rename_i payout object
      split
      · refine .same (SameCore.trans ?_ (applyPayout_same _ _ payout))
        exact ⟨rfl, rfl, rfl, rfl, rfl, rfl, rfl, rfl, rfl, rfl, rfl⟩
      · exact .same ⟨rfl, rfl, rfl, rfl, rfl, rfl, rfl, rfl, rfl, rfl, rfl⟩
    · exact .same ⟨rfl, rfl, rfl, rfl, rfl, rfl, rfl, rfl, rfl, rfl, rfl⟩
    · exact .same ⟨rfl, rfl, rfl, rfl, rfl, rfl, rfl, rfl, rfl, rfl, rfl⟩

end Bling
