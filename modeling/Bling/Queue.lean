import Bling.Shows

set_option autoImplicit false

namespace Bling

open Library

/-! The caller queue, from `queue.ts`. -/

structure JoinArgs where
  showId : ShowId
  tierId : Option TierId
  displayName : Text
  topic : Text
deriving DecidableEq

/-- The tier asked for, or else the show's highest enabled one. -/
def joinTier (db : DB) (args : JoinArgs) : Option (TierId × ShowTier) :=
  match args.tierId with
  | some tierId => (db.showTiers.get tierId).map fun tier => (tierId, tier)
  | none => ((db.showTiers.query fun t => t.showId == args.showId && t.enabled).insertionSort
      fun a b => b.2.priorityRank < a.2.priorityRank ∨
        (a.2.priorityRank = b.2.priorityRank ∧ b.1 ≤ a.1)).head?

def entryForViewer (db : DB) (showId : ShowId) (viewerId : UserId) :
    Option (EntryId × QueueEntry) :=
  db.queueEntries.first fun e => e.showId == showId && e.viewerId == viewerId

/-- The caller's own authorized hold for exactly this tier's price, not yet
used by another queue entry. -/
def usableAttempt (attempt : PaymentAttempt) (viewerId : UserId) (showId : ShowId)
    (tierId : TierId) (tier : ShowTier) (existing : Option EntryId) : Bool :=
  attempt.payerId == viewerId && attempt.showId == showId && attempt.tierId == tierId &&
    attempt.amountCents == tier.priceCents && attempt.status == .authorized &&
    (attempt.queueEntryId == none || attempt.queueEntryId == existing)

/-- What joining writes: the caller's one entry for the show, and its place on
the attempt that pays for it. -/
def enqueue (ctx : Ctx) (db : DB) (viewerId : UserId) (args : JoinArgs) (tierId : TierId)
    (tier : ShowTier) (existing : Option EntryId) (attempt : Option AttemptId) : DB × EntryId :=
  let fields : QueueEntry :=
    { showId := args.showId
      viewerId
      displayName := trim args.displayName
      topic := trim args.topic
      status := .waiting
      tierId
      tierName := tier.name
      priorityRank := tier.priorityRank
      callDurationSeconds := tier.callDurationSeconds
      tierPriceCents := tier.priceCents
      joinedAt := ctx.now
      selectedAt := none
      leftAt := none
      paymentAttemptId := attempt }
  let entryId := existing.getD db.queueEntries.next
  let queueEntries :=
    match existing with
    -- A patch keeps the `selectedAt` of an earlier stay.
    | some entryId => db.queueEntries.patch entryId fun e =>
        { fields with selectedAt := e.selectedAt }
    | none => db.queueEntries.insert fields
  let paymentAttempts :=
    match attempt with
    | none => db.paymentAttempts
    | some attemptId => db.paymentAttempts.patch attemptId fun a =>
        { a with queueEntryId := some entryId }
  ({ db with queueEntries, paymentAttempts }, entryId)

/-- The hold a caller offers for a paid tier. -/
def offeredAttempt (db : DB) (tier : ShowTier) (paymentAttemptId : Option AttemptId) :
    Option (AttemptId × PaymentAttempt) :=
  if 0 < tier.priceCents then paymentAttemptId.bind fun attemptId =>
    (db.paymentAttempts.get attemptId).map fun attempt => (attemptId, attempt)
  else none

/-- Joining is idempotent per caller: a retry or a second tab returns the same
entry rather than adding another. -/
def joinQueue (ctx : Ctx) (db : DB) (viewerId : UserId) (args : JoinArgs)
    (paymentAttemptId : Option AttemptId) : Except ErrorCode (DB × EntryId) :=
  let displayName := trim args.displayName
  let topic := trim args.topic
  if displayName.length < 1 ∨ 60 < displayName.length then .error .validationFailed
  else if topic.length < 1 ∨ 280 < topic.length then .error .validationFailed
  else if ¬ showLive db args.showId then .error .showNotLive
  else match joinTier db args with
    | none => .error .tierNotFound
    | some (tierId, tier) =>
      if tier.showId ≠ args.showId ∨ ¬ tier.enabled then .error .tierNotFound
      else
        let existing := entryForViewer db args.showId viewerId
        match existing.filter fun row => row.2.status != .left with
        | some (entryId, _) => .ok (db, entryId)
        | none =>
          let attempt := offeredAttempt db tier paymentAttemptId
          if 0 < tier.priceCents ∧ ¬ attempt.any (fun row =>
              usableAttempt row.2 viewerId args.showId tierId tier (existing.map Prod.fst)) then
            .error .paymentRequired
          else .ok (enqueue ctx db viewerId args tierId tier (existing.map Prod.fst)
            (attempt.map Prod.fst))

/-- Joins a free tier. Paid tiers go through `joinWithPayment`. -/
def join (ctx : Ctx) (db : DB) (userId : Option UserId) (args : JoinArgs) :
    Except ErrorCode (DB × EntryId) := do
  let viewerId ← requireUserId userId
  joinQueue ctx db viewerId args none

def joinWithPayment (ctx : Ctx) (db : DB) (userId : Option UserId) (args : JoinArgs)
    (paymentAttemptId : AttemptId) : Except ErrorCode (DB × EntryId) := do
  let viewerId ← requireUserId userId
  joinQueue ctx db viewerId args (some paymentAttemptId)

/-- Leaving releases the caller's card hold. -/
def leave (ctx : Ctx) (db : DB) (userId : Option UserId) (showId : ShowId) :
    Except ErrorCode (DB × Unit) := do
  let viewerId ← requireUserId userId
  match entryForViewer db showId viewerId with
  | none => .error .notInQueue
  | some (entryId, entry) =>
    if entry.status = .left then .ok (db, ())
    else if entry.status ≠ .waiting then .error .invalidQueueState
    else
      let db := { db with queueEntries := db.queueEntries.patch entryId fun e =>
        { e with status := .left, leftAt := some ctx.now } }
      match entry.paymentAttemptId with
      | none => .ok (db, ())
      | some attemptId =>
        match db.paymentAttempts.get attemptId with
        | none => .ok (db, ())
        | some attempt => .ok (scheduleCancel ctx db attemptId attempt .callerLeft, ())

end Bling
