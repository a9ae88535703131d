import Bling.Schema
import Mathlib.Data.List.Sort
import Mathlib.Data.Prod.Lex

set_option autoImplicit false

namespace Bling.Api

open Library

/-! The queue, its payments and its calls in the Go API, one transaction a step:
`queue/store.go`, `call/store.go`, `payment/store.go` and the end of a show in
`show/store.go`. What these also write and never read (refunds, ledger entries,
the outbox) is left out. -/

/-! ### Tables -/

/-- A digest, such as that of a session token. -/
abbrev Hash := Nat

structure QueueEntry where
  showId : ShowId
  displayName : Text
  topic : Text
  status : QueueStatus
  tierId : TierId
  tierName : Text
  priorityRank : Nat
  callDurationSeconds : Nat
  tierPriceCents : Nat
  queuePosition : Nat
  sessionTokenHash : Hash
  joinKeyHash : Hash
  paymentAttemptId : Option AttemptId
  joinedAt : Time
  selectedAt : Option Time
  leftAt : Option Time

structure PaymentAttempt where
  showId : ShowId
  tierId : TierId
  queueEntryId : Option EntryId
  viewerTokenHash : Hash
  idempotencyKeyHash : Hash
  payerUserId : Option UserId
  stripeCustomerId : Option StripeId
  stripePaymentIntentId : Option StripeId
  amountCents : Nat
  status : PaymentStatus
  failureCode : Option String
  authorizedAt : Option Time
  capturedAt : Option Time
  canceledAt : Option Time

structure Call where
  showId : ShowId
  queueEntryId : EntryId
  status : CallStatus
  selectionMode : SelectionMode
  callDurationSeconds : Nat
  paymentAttemptId : Option AttemptId
  startedAt : Option Time
  endedAt : Option Time
  expiresAt : Option Time
  creatorDisconnectedAt : Option Time
  viewerDisconnectedAt : Option Time
  createdAt : Time

structure DB where
  shows : Table Show
  showTiers : Table ShowTier
  queueEntries : Table QueueEntry
  paymentAttempts : Table PaymentAttempt
  calls : Table Call
  /-- `queue_entry_position_seq`. -/
  nextPosition : Nat

/-! ### Uniqueness -/

inductive UniqueKey where
  /-- `payment_attempts.queue_entry_id`. -/
  | attemptEntry
  /-- `queue_entries.payment_attempt_id`. -/
  | entryAttempt
  /-- `calls.queue_entry_id`. -/
  | callEntry
  /-- `queue_entries(show_id, session_token_hash)`. -/
  | sessionToken
  /-- `queue_entries(show_id, join_key_hash)`. -/
  | joinKey
  /-- `queue_entries_one_selected_per_show_idx`. -/
  | oneSelected
  /-- `calls_one_active_per_show_idx`. -/
  | oneActive
  /-- `payment_attempts.stripe_payment_intent_id`. -/
  | intent
deriving DecidableEq

inductive ApiError where
  | showNotLive | showNotFound | tierNotFound | freeTier | paymentRequired | paymentFailed
  | entryNotFound | cannotLeave | activeCall | callerNotWaiting | queueEmpty | callNotFound
  | invalidTransition | attemptNotFound | authorizationUsed
  /-- A row that a statement was to return is not there. -/
  | noRows
  | unique (key : UniqueKey)
deriving DecidableEq

def onStage : List QueueStatus := [.selected, .connecting, .live]
def activeStatuses : List CallStatus := [.paymentPending, .created, .connecting, .live]
def openStatuses : List CallStatus := [.created, .connecting, .live]

/-- The key on which an entry and another entry clash. -/
def QueueEntry.clash (entry other : QueueEntry) : Option UniqueKey :=
  if entry.showId = other.showId ∧ entry.sessionTokenHash = other.sessionTokenHash then
    some .sessionToken
  else if entry.showId = other.showId ∧ entry.joinKeyHash = other.joinKeyHash then some .joinKey
  else if entry.paymentAttemptId.isSome ∧ entry.paymentAttemptId = other.paymentAttemptId then
    some .entryAttempt
  else if entry.showId = other.showId ∧ entry.status ∈ onStage ∧ other.status ∈ onStage then
    some .oneSelected
  else none

/-- The entry written under the id, unless it clashes with another. -/
def entryKey (queueEntries : Table QueueEntry) (entryId : EntryId) (entry : QueueEntry) :
    Except ApiError Unit :=
  match queueEntries.rows.findSome? fun row =>
      if row.1 = entryId then none else entry.clash row.2 with
  | some key => .error (.unique key)
  | none => .ok ()

def insertQueueEntry (db : DB) (entry : QueueEntry) : Except ApiError DB := do
  entryKey db.queueEntries db.queueEntries.next entry
  .ok { db with queueEntries := db.queueEntries.insert entry }

/-- An entry that isn't there is no error, as with any update. -/
def updateEntry (db : DB) (entryId : EntryId) (f : QueueEntry → QueueEntry) :
    Except ApiError DB :=
  match db.queueEntries.get entryId with
  | none => .ok db
  | some entry => do
    entryKey db.queueEntries entryId (f entry)
    .ok { db with queueEntries := db.queueEntries.patch entryId f }

def insertCall (db : DB) (call : Call) : Except ApiError DB :=
  if (db.calls.first fun c => c.queueEntryId == call.queueEntryId).isSome then
    .error (.unique .callEntry)
  else if call.status ∈ activeStatuses ∧ (db.calls.first fun c =>
      c.showId == call.showId && c.status ∈ activeStatuses).isSome then .error (.unique .oneActive)
  else .ok { db with calls := db.calls.insert call }

/-- Every update of a call's status leaves it active or makes it inactive, so no
index is to be checked. -/
def updateCall (db : DB) (callId : CallId) (f : Call → Call) : DB :=
  { db with calls := db.calls.patch callId f }

def updateAttempt (db : DB) (attemptId : AttemptId) (f : PaymentAttempt → PaymentAttempt) : DB :=
  { db with paymentAttempts := db.paymentAttempts.patch attemptId f }

/-! ### Payments -/

/-- `Prepare`. A key that was used before gives the attempt it was used for. -/
def prepare (db : DB) (showId : ShowId) (tierId : TierId) (viewerTokenHash keyHash : Hash)
    (payerUserId : Option UserId) (stripeCustomerId : Option StripeId) : Except ApiError DB :=
  match db.shows.get showId, db.showTiers.get tierId with
  | some hotline, some tier =>
    if tier.showId ≠ showId ∨ ¬ tier.enabled then .error .tierNotFound
    else if hotline.status ≠ .live then .error .showNotLive
    else if tier.priceCents = 0 then .error .freeTier
    else match db.paymentAttempts.first fun a =>
        a.showId == showId && a.idempotencyKeyHash == keyHash with
      | some (_, attempt) =>
        if attempt.viewerTokenHash ≠ viewerTokenHash ∨ attempt.tierId ≠ tierId ∨
            attempt.payerUserId ≠ payerUserId ∨ attempt.stripeCustomerId ≠ stripeCustomerId then
          .error .authorizationUsed
        else .ok db
      | none =>
        let paymentAttempts := db.paymentAttempts.insert
          { showId
            tierId
            queueEntryId := none
            viewerTokenHash
            idempotencyKeyHash := keyHash
            payerUserId
            stripeCustomerId
            stripePaymentIntentId := none
            amountCents := tier.priceCents
            status := .created
            failureCode := none
            authorizedAt := none
            capturedAt := none
            canceledAt := none }
        .ok { db with paymentAttempts }
  | _, _ => .error .tierNotFound

def attachIntent (db : DB) (attemptId : AttemptId) (intentId : StripeId) : Except ApiError DB :=
  match db.paymentAttempts.get attemptId with
  | none => .error .authorizationUsed
  | some attempt =>
    if attempt.stripePaymentIntentId.any (· != intentId) then .error .authorizationUsed
    else if (db.paymentAttempts.rows.any fun row =>
        row.1 != attemptId && row.2.stripePaymentIntentId == some intentId) then
      .error (.unique .intent)
    else .ok (updateAttempt db attemptId fun a =>
      { a with stripePaymentIntentId := some intentId })

/-- `MarkAuthorized`, as `VerifyForQueue` calls it: the intent has been checked. -/
def markAuthorized (now : Time) (db : DB) (attemptId : AttemptId) : DB :=
  updateAttempt db attemptId fun a =>
    if a.stripePaymentIntentId.isSome ∧ (a.status = .created ∨ a.status = .authorized) then
      { a with status := .authorized, authorizedAt := some (a.authorizedAt.getD now) }
    else a

def markCanceled (now : Time) (db : DB) (attemptId : AttemptId) : DB :=
  updateAttempt db attemptId fun a =>
    if a.status = .captured then a
    else { a with status := .canceled, canceledAt := some (a.canceledAt.getD now) }

/-! ### `queue/store.go` -/

structure JoinInput where
  showId : ShowId
  tierId : Option TierId
  displayName : Text
  topic : Text
  sessionTokenHash : Hash
  joinKeyHash : Hash
  paymentAttemptId : Option AttemptId

/-- Without a tier asked for, the first of the highest rank. -/
def tierForJoin (db : DB) (showId : ShowId) (tierId : Option TierId) :
    Except ApiError (TierId × ShowTier) :=
  match tierId with
  | none =>
    match (db.showTiers.query fun t => t.showId == showId && t.enabled).insertionSort
        (fun a b => b.2.priorityRank ≤ a.2.priorityRank) with
    | [] => .error .tierNotFound
    | first :: _ => .ok first
  | some tierId =>
    match db.showTiers.get tierId with
    | none => .error .tierNotFound
    | some tier => if tier.showId = showId ∧ tier.enabled then .ok (tierId, tier)
      else .error .tierNotFound

/-- The attempt holds the tier's price for this viewer, and nobody else uses it. -/
def paymentValid (db : DB) (input : JoinInput) (attemptId : AttemptId) (tierId : TierId)
    (tier : ShowTier) : Bool :=
  match db.paymentAttempts.get attemptId with
  | none => false
  | some p => p.showId == input.showId && p.tierId == tierId &&
      p.viewerTokenHash == input.sessionTokenHash && p.amountCents == tier.priceCents &&
      p.status == .authorized && match p.queueEntryId with
        | none => true
        | some entryId => (db.queueEntries.get entryId).any fun q =>
          q.sessionTokenHash == input.sessionTokenHash && q.status == .waiting

/-- The viewer's entry, or else that of the join key. -/
def existingEntry (db : DB) (input : JoinInput) : Option (EntryId × QueueEntry) :=
  match db.queueEntries.first fun q =>
      q.showId == input.showId && q.sessionTokenHash == input.sessionTokenHash with
  | some row => some row
  | none => db.queueEntries.first fun q =>
      q.showId == input.showId && q.joinKeyHash == input.joinKeyHash

/-- The attempt a join uses: the checked one for a paid tier, none for a free one. -/
def joinPayment (db : DB) (input : JoinInput) (tierId : TierId) (tier : ShowTier) :
    Except ApiError (Option AttemptId) :=
  if tier.priceCents = 0 then .ok none
  else match input.paymentAttemptId with
    | none => .error .paymentRequired
    | some attemptId =>
      if paymentValid db input attemptId tierId tier then .ok (some attemptId)
      else .error .paymentRequired

def joinedEntry (now : Time) (db : DB) (input : JoinInput) (tierId : TierId) (tier : ShowTier)
    (payment : Option AttemptId) : QueueEntry :=
  { showId := input.showId
    displayName := input.displayName
    topic := input.topic
    status := .waiting
    tierId
    tierName := tier.name
    priorityRank := tier.priorityRank
    callDurationSeconds := tier.callDurationSeconds
    tierPriceCents := tier.priceCents
    queuePosition := db.nextPosition
    sessionTokenHash := input.sessionTokenHash
    joinKeyHash := input.joinKeyHash
    paymentAttemptId := payment
    joinedAt := now
    selectedAt := none
    leftAt := none }

/-- The attempt is claimed for the entry. -/
def claimPayment (db : DB) (payment : Option AttemptId) (entryId : EntryId) :
    Except ApiError DB :=
  match payment with
  | none => .ok db
  | some attemptId =>
    match db.paymentAttempts.get attemptId with
    | none => .error .paymentRequired
    | some attempt =>
      if attempt.status ≠ .authorized ∨ attempt.queueEntryId.isSome then .error .paymentRequired
      else if (db.paymentAttempts.first fun a => a.queueEntryId == some entryId).isSome then
        .error (.unique .attemptEntry)
      else .ok (updateAttempt db attemptId fun a => { a with queueEntryId := some entryId })

/-- `Join`, with the id of the entry it returns. -/
def join (now : Time) (db : DB) (input : JoinInput) : Except ApiError (DB × EntryId) := do
  match db.shows.get input.showId with
  | none => .error .showNotLive
  | some hotline =>
    if hotline.status ≠ .live then .error .showNotLive
    else
      let (tierId, tier) ← tierForJoin db input.showId input.tierId
      let payment ← joinPayment db input tierId tier
      match existingEntry db input with
      | some (entryId, existing) =>
        if existing.status = .waiting then
          let db ← updateEntry db entryId fun e =>
            { e with
              sessionTokenHash := input.sessionTokenHash
              joinKeyHash := input.joinKeyHash }
          .ok (db, entryId)
        else if existing.status = .left then
          let moved ← updateEntry db entryId fun e =>
            { joinedEntry now db input tierId tier payment with
              showId := e.showId
              selectedAt := e.selectedAt }
          let claimed ← claimPayment { moved with nextPosition := db.nextPosition + 1 } payment
            entryId
          .ok (claimed, entryId)
        else .ok (db, entryId)
      | none =>
        let inserted ← insertQueueEntry db (joinedEntry now db input tierId tier payment)
        let claimed ← claimPayment { inserted with nextPosition := db.nextPosition + 1 } payment
          db.queueEntries.next
        .ok (claimed, db.queueEntries.next)

def leave (now : Time) (db : DB) (showId : ShowId) (sessionTokenHash : Hash) :
    Except ApiError DB :=
  match db.queueEntries.first fun q =>
      q.showId == showId && q.sessionTokenHash == sessionTokenHash with
  | none => .error .entryNotFound
  | some (entryId, entry) =>
    if entry.status = .left then .ok db
    else if entry.status ≠ .waiting then .error .cannotLeave
    else updateEntry db entryId fun e => { e with status := .left, leftAt := some now }

/-! ### `call/store.go` -/

inductive Choice where
  | manual (entryId : EntryId)
  /-- `pivot` is the random number drawn. -/
  | random (pivot : Nat)

def Choice.mode : Choice → SelectionMode
  | .manual _ => .manual
  | .random _ => .random

def lockCaller (db : DB) (showId : ShowId) (entryId : EntryId) : Option (EntryId × QueueEntry) :=
  match db.queueEntries.get entryId with
  | none => none
  | some q => if q.showId = showId ∧ q.status = .waiting then some (entryId, q) else none

/-- The first waiting caller of the highest rank from the pivot on, or else of all. -/
def randomCaller (db : DB) (showId : ShowId) (pivot : Nat) : Option (EntryId × QueueEntry) :=
  ((db.queueEntries.query fun q => q.showId == showId && q.status == .waiting).insertionSort
    fun a b =>
      toLex (-(a.2.priorityRank : Int), toLex (if a.2.queuePosition < pivot then 1 else 0,
          a.2.queuePosition)) ≤
        toLex (-(b.2.priorityRank : Int), toLex (if b.2.queuePosition < pivot then 1 else 0,
          b.2.queuePosition))).head?

/-- A paid caller whose payment is being captured, as `selectPaid` remembers it. -/
structure Reservation where
  showId : ShowId
  callId : CallId
  entryId : EntryId
  attemptId : AttemptId
  intentId : StripeId
deriving DecidableEq

def newCall (now : Time) (showId : ShowId) (entryId : EntryId) (entry : QueueEntry)
    (mode : SelectionMode) (status : CallStatus) (payment : Option AttemptId) : Call :=
  { showId
    queueEntryId := entryId
    status
    selectionMode := mode
    callDurationSeconds := entry.callDurationSeconds
    paymentAttemptId := payment
    startedAt := none
    endedAt := none
    expiresAt := none
    creatorDisconnectedAt := none
    viewerDisconnectedAt := none
    createdAt := now }

/-- `selectPaid` up to its request to Stripe. -/
def selectPaid (now : Time) (db : DB) (showId : ShowId) (entryId : EntryId) (entry : QueueEntry)
    (mode : SelectionMode) : Except ApiError (DB × Option Reservation) :=
  match entry.paymentAttemptId.bind fun id => (db.paymentAttempts.get id).map fun p => (id, p) with
  | none => .error .paymentFailed
  | some (attemptId, attempt) =>
    match attempt.stripePaymentIntentId with
    | none => .error .paymentFailed
    | some intentId =>
      if attempt.status ≠ .authorized then .error .paymentFailed
      else do
        let callId := db.calls.next
        let db ← insertCall db
          (newCall now showId entryId entry mode .paymentPending (some attemptId))
        .ok (updateAttempt db attemptId fun a => { a with status := .capturing },
          some { showId, callId, entryId, attemptId, intentId })

/-- `Select`: a free caller is selected, a paid one reserved. -/
def select (now : Time) (db : DB) (showId : ShowId) (creatorId : UserId) (choice : Choice) :
    Except ApiError (DB × Option Reservation) :=
  match db.shows.get showId with
  | none => .error .showNotFound
  | some hotline =>
    if hotline.creatorId ≠ creatorId then .error .showNotFound
    else if hotline.status ≠ .live then .error .showNotLive
    else if (db.calls.first fun c => c.showId == showId && c.status ∈ activeStatuses).isSome then
      .error .activeCall
    else
      let caller := match choice with
        | .manual entryId => lockCaller db showId entryId
        | .random pivot => randomCaller db showId pivot
      match caller with
      | none => match choice with
        | .manual _ => .error .callerNotWaiting
        | .random _ => .error .queueEmpty
      | some (entryId, entry) =>
        if 0 < entry.tierPriceCents then selectPaid now db showId entryId entry choice.mode
        else do
          let db ← updateEntry db entryId fun e =>
            { e with status := .selected, selectedAt := some now }
          let db ← insertCall db (newCall now showId entryId entry choice.mode .created none)
          .ok (db, none)

def failPending (now : Time) (call : Call) : Call :=
  if call.status = .paymentPending then { call with status := .failed, endedAt := some now }
  else call

def failCapture (attempt : PaymentAttempt) : PaymentAttempt :=
  if attempt.status = .capturing then
    { attempt with status := .failed, failureCode := some "capture_failed" }
  else attempt

def failPaidSelection (now : Time) (db : DB) (callId : CallId) (attemptId : AttemptId) :
    Except ApiError DB :=
  let db := updateAttempt (updateCall db callId (failPending now)) attemptId failCapture
  match db.calls.get callId with
  | none => .error .noRows
  | some call =>
    match db.queueEntries.get call.queueEntryId with
    | none => .error .noRows
    | some entry =>
      if entry.status ≠ .waiting then .error .noRows
      else updateEntry db call.queueEntryId fun e =>
        { e with status := .left, leftAt := some now }

def takeCapture (now : Time) (attempt : PaymentAttempt) : PaymentAttempt :=
  if attempt.status = .capturing ∨ attempt.status = .captured then
    { attempt with status := .captured, capturedAt := some (attempt.capturedAt.getD now) }
  else attempt

def seatWaiting (now : Time) (entry : QueueEntry) : QueueEntry :=
  if entry.status = .waiting then { entry with status := .selected, selectedAt := some now }
  else entry

/-- Whether the caller's show is still on decides. The entry's update is
conditional, and whether it found the entry waiting is not looked at. -/
def completePaidSelection (now : Time) (db : DB) (r : Reservation) : Except ApiError DB :=
  match db.shows.get r.showId with
  | none => .error .noRows
  | some hotline =>
    let db := updateAttempt db r.attemptId (takeCapture now)
    if hotline.status ≠ .live then
      .ok (updateCall db r.callId fun c =>
        { c with status := .failed, endedAt := some (c.endedAt.getD now) })
    else do
      let db ← updateEntry db r.entryId (seatWaiting now)
      match db.calls.get r.callId with
      | none => .error .activeCall
      | some call =>
        if call.status ≠ .paymentPending then .error .activeCall
        else .ok (updateCall db r.callId fun c => { c with status := .created })

def canTransition : CallStatus → CallStatus → Bool
  | .created, target => target = .connecting ∨ target = .ended ∨ target = .failed
  | .connecting, target => target = .live ∨ target = .ended ∨ target = .failed
  | .live, target => target = .ended ∨ target = .failed
  | _, _ => false

/-- The entry's status that goes with a call's. -/
def queueStatus : CallStatus → QueueStatus
  | .paymentPending => .waiting
  | .created => .selected
  | .connecting => .connecting
  | .live => .live
  | .ended | .failed => .ended

def applyTransition (now : Time) (db : DB) (callId : CallId) (call : Call) (target : CallStatus) :
    Except ApiError DB :=
  if ¬ canTransition call.status target then .error .invalidTransition
  else
    let over_ := target = .ended ∨ target = .failed
    let starts := target = .live ∧ call.startedAt = none
    let db := updateCall db callId fun c =>
      { c with
        status := target
        startedAt := if starts then some now else call.startedAt
        endedAt := if over_ then some now else none
        expiresAt := if starts then some (now + 1000 * call.callDurationSeconds) else call.expiresAt
        creatorDisconnectedAt := if over_ then none else c.creatorDisconnectedAt
        viewerDisconnectedAt := if over_ then none else c.viewerDisconnectedAt }
    updateEntry db call.queueEntryId fun e => { e with status := queueStatus target }

/-- Who asks for a transition, and so how the call is looked up. -/
inductive Party where
  | creator (creatorId : UserId)
  | viewer (sessionTokenHash : Hash)

def authorizedCall (db : DB) (showId : ShowId) (callId : CallId) (party : Party) : Option Call :=
  match db.calls.get callId with
  | none => none
  | some call =>
    let permitted : Bool := match party with
      | .creator creatorId => (db.shows.get call.showId).any fun s => s.creatorId == creatorId
      | .viewer token =>
        (db.queueEntries.get call.queueEntryId).any fun q => q.sessionTokenHash == token
    if call.showId = showId ∧ permitted then some call else none

def transition (now : Time) (db : DB) (showId : ShowId) (callId : CallId) (party : Party)
    (target : CallStatus) : Except ApiError DB :=
  match authorizedCall db showId callId party with
  | none => .error .callNotFound
  | some call =>
    if call.status = target then .ok db else applyTransition now db callId call target

/-- The due calls of an expiry, one after the other in one transaction. -/
def expireEach (now : Time) (target : CallStatus) :
    List (CallId × Call) → DB → Except ApiError DB
  | [], db => .ok db
  | (callId, call) :: rest, db => do
    expireEach now target rest (← applyTransition now db callId call target)

/-- When the participant who left first did. -/
def Call.disconnectedAt (call : Call) : Option Time :=
  match call.creatorDisconnectedAt, call.viewerDisconnectedAt with
  | some a, some b => some (min a b)
  | some a, none => some a
  | none, b => b

def expireDisconnected (now : Time) (db : DB) (grace : Time) (limit : Nat) : Except ApiError DB :=
  let due := (db.calls.query fun c => c.status ∈ openStatuses &&
    c.disconnectedAt.any fun at_ => at_ + grace ≤ now).insertionSort fun a b =>
      a.2.disconnectedAt.getD 0 ≤ b.2.disconnectedAt.getD 0
  expireEach now .failed (due.take limit) db

def expireDue (now : Time) (db : DB) (limit : Nat) : Except ApiError DB :=
  let due := (db.calls.query fun c => c.status == .live &&
    c.expiresAt.any fun at_ => at_ ≤ now).insertionSort fun a b =>
      a.2.expiresAt.getD 0 ≤ b.2.expiresAt.getD 0
  expireEach now .ended (due.take limit) db

/-- `MarkParticipantConnected` and `MarkParticipantDisconnected`. -/
def markParticipant (db : DB) (callId : CallId) (role : CallRole) (gone : Option Time) : DB :=
  updateCall db callId fun c =>
    if c.status ∈ openStatuses then
      match role with
      | .creator => { c with creatorDisconnectedAt := gone.map c.creatorDisconnectedAt.getD }
      | .viewer => { c with viewerDisconnectedAt := gone.map c.viewerDisconnectedAt.getD }
    else c

/-! ### `Reconcile` -/

/-- What a webhook says of an intent. -/
inductive Outcome where
  | captured | canceled | failed
deriving DecidableEq

def reconcileCaptured (now : Time) (db : DB) (attemptId : AttemptId) (hotline : Show) :
    Except ApiError DB :=
  let db := updateAttempt db attemptId fun a =>
    { a with status := .captured, capturedAt := some (a.capturedAt.getD now) }
  match db.calls.first fun c => c.paymentAttemptId == some attemptId with
  | none => .ok db
  | some (callId, call) =>
    let shouldRefund := call.startedAt = none ∧ hotline.status ≠ .live
    if call.status ≠ .paymentPending ∧ ¬ shouldRefund then .ok db
    else if shouldRefund then
      let db := updateCall db callId fun c =>
        if c.status = .paymentPending then
          { c with status := .failed, endedAt := some (c.endedAt.getD now) }
        else c
      updateEntry db call.queueEntryId fun e =>
        if e.status = .waiting ∨ e.status ∈ onStage then { e with status := .ended } else e
    else do
      let db ← updateEntry db call.queueEntryId fun e =>
        { e with status := .selected, selectedAt := some (e.selectedAt.getD now) }
      .ok (updateCall db callId fun c => { c with status := .created })

def reconcileNotCaptured (now : Time) (db : DB) (attemptId : AttemptId) (status : PaymentStatus)
    (failureCode : Option String) : Except ApiError DB :=
  let db := updateAttempt db attemptId fun a =>
    { a with
      status
      failureCode
      canceledAt := if status = .canceled then some (a.canceledAt.getD now) else a.canceledAt }
  let calls := db.calls.patchWhere
    (fun c => c.paymentAttemptId == some attemptId && c.status == .paymentPending)
    fun c => { c with status := .failed, endedAt := some (c.endedAt.getD now) }
  let db := { db with calls }
  match db.queueEntries.first fun q =>
      q.paymentAttemptId == some attemptId && q.status == .waiting with
  | none => .ok db
  | some (entryId, _) => updateEntry db entryId fun e =>
      { e with status := .left, leftAt := some (e.leftAt.getD now) }

def reconcile (now : Time) (db : DB) (intentId : StripeId) (outcome : Outcome)
    (failureCode : Option String) : Except ApiError DB :=
  match db.paymentAttempts.first fun a => a.stripePaymentIntentId == some intentId with
  | none => .error .attemptNotFound
  | some (attemptId, attempt) =>
    if attempt.status = .captured ∧ outcome ≠ .captured then .ok db
    else match outcome with
      | .captured => match db.shows.get attempt.showId with
        | none => .error .noRows
        | some hotline => reconcileCaptured now db attemptId hotline
      | .canceled => reconcileNotCaptured now db attemptId .canceled failureCode
      | .failed => reconcileNotCaptured now db attemptId .failed failureCode

/-! ### `End` -/

def endShow (now : Time) (db : DB) (showId : ShowId) (creatorId : UserId) : Except ApiError DB :=
  match db.shows.get showId with
  | none => .error .showNotFound
  | some hotline =>
    if hotline.creatorId ≠ creatorId then .error .showNotFound
    else match hotline.status with
      | .created => .error .invalidTransition
      | .ended => .ok db
      | .live =>
        let shows := db.shows.patch showId fun s =>
          { s with status := .ended, endedAt := some now }
        let calls := db.calls.patchWhere
          (fun c => c.showId == showId && c.status ∈ activeStatuses)
          fun c => { c with status := .ended, endedAt := some now }
        let queueEntries := db.queueEntries.patchWhere
          (fun q => q.showId == showId && (q.status == .waiting || q.status ∈ onStage))
          fun q => { q with status := .ended }
        .ok { db with shows, calls, queueEntries }

/-! ### Any interleaving -/

/-- The database, and the paid selections that wait for Stripe. -/
structure State where
  db : DB
  reservations : List Reservation

inductive Op where
  | prepare (showId : ShowId) (tierId : TierId) (viewerTokenHash keyHash : Hash)
      (payerUserId : Option UserId) (stripeCustomerId : Option StripeId)
  | attachIntent (attemptId : AttemptId) (intentId : StripeId)
  | markAuthorized (attemptId : AttemptId)
  | markCanceled (attemptId : AttemptId)
  | join (input : JoinInput)
  | leave (showId : ShowId) (sessionTokenHash : Hash)
  | select (showId : ShowId) (creatorId : UserId) (choice : Choice)
  /-- Stripe has captured the payment. -/
  | complete (reservation : Reservation)
  /-- Stripe has not captured the payment, and won't. -/
  | fail (reservation : Reservation)
  /-- Whether Stripe has is not known: the webhook will say. -/
  | pending (reservation : Reservation)
  | transition (showId : ShowId) (callId : CallId) (party : Party) (target : CallStatus)
  | expireDisconnected (grace : Time) (limit : Nat)
  | expireDue (limit : Nat)
  | markParticipant (callId : CallId) (role : CallRole) (gone : Option Time)
  | reconcile (intentId : StripeId) (outcome : Outcome) (failureCode : Option String)
  | endShow (showId : ShowId) (creatorId : UserId)

/-- A transaction that fails leaves the database as it is. -/
def State.commit (s : State) : Except ApiError DB → State
  | .ok db => { s with db }
  | .error _ => s

def State.step (s : State) (input : Time × Op) : State :=
  let now := input.1
  match input.2 with
  | .prepare showId tierId viewerTokenHash keyHash payerUserId stripeCustomerId =>
    s.commit (Api.prepare s.db showId tierId viewerTokenHash keyHash payerUserId stripeCustomerId)
  | .attachIntent attemptId intentId => s.commit (Api.attachIntent s.db attemptId intentId)
  | .markAuthorized attemptId => { s with db := Api.markAuthorized now s.db attemptId }
  | .markCanceled attemptId => { s with db := Api.markCanceled now s.db attemptId }
  | .join input => s.commit ((Api.join now s.db input).map Prod.fst)
  | .leave showId sessionTokenHash => s.commit (Api.leave now s.db showId sessionTokenHash)
  | .select showId creatorId choice =>
    match Api.select now s.db showId creatorId choice with
    | .error _ => s
    | .ok (db, none) => { s with db }
    | .ok (db, some reservation) => { db, reservations := s.reservations ++ [reservation] }
  | .complete r =>
    if r ∈ s.reservations then
      { s with reservations := s.reservations.erase r }.commit (completePaidSelection now s.db r)
    else s
  | .fail r =>
    if r ∈ s.reservations then
      { s with reservations := s.reservations.erase r }.commit
        (failPaidSelection now s.db r.callId r.attemptId)
    else s
  | .pending r => { s with reservations := s.reservations.erase r }
  | .transition showId callId party target =>
    s.commit (Api.transition now s.db showId callId party target)
  | .expireDisconnected grace limit => s.commit (Api.expireDisconnected now s.db grace limit)
  | .expireDue limit => s.commit (Api.expireDue now s.db limit)
  | .markParticipant callId role gone => { s with db := Api.markParticipant s.db callId role gone }
  | .reconcile intentId outcome failureCode =>
    s.commit (Api.reconcile now s.db intentId outcome failureCode)
  | .endShow showId creatorId => s.commit (Api.endShow now s.db showId creatorId)

/-- Shows and their tiers, with nobody in any queue yet. -/
def State.opening (shows : Table Show) (showTiers : Table ShowTier) : State :=
  ⟨⟨shows, showTiers, .empty, .empty, .empty, 1⟩, []⟩

end Bling.Api
