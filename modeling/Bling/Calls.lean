import Mathlib.Data.List.Sort
import Bling.Payments

set_option autoImplicit false

namespace Bling

open Library

/-! The call lifecycle, from `lib/calls.ts` and `calls.ts`. -/

/-- A call in one of these states blocks selecting another caller. -/
def activeCallStatuses : List CallStatus := [.paymentPending, .created, .connecting, .live]

/-- States in which participants connect, signal and send heartbeats. -/
def connectableStatuses : List CallStatus := [.created, .connecting, .live]

def presenceTtlMs : Time := 30000
def disconnectGraceMs : Time := 20000

def transitions : CallStatus → List CallStatus
  | .paymentPending => []
  | .created => [.connecting, .ended, .failed]
  | .connecting => [.live, .ended, .failed]
  | .live => [.ended, .failed]
  | .ended => []
  | .failed => []

def canTransition (source target : CallStatus) : Bool :=
  (transitions source).contains target

/-- The show's call that blocks a new selection, if any. -/
def activeCallForShow (db : DB) (showId : ShowId) : Option (CallId × Call) :=
  activeCallStatuses.findSome? fun status =>
    db.calls.first fun call => call.showId == showId && call.status == status

def callForParticipant (db : DB) (userId : Option UserId) (callId : CallId) :
    Except ErrorCode (Call × CallRole) := do
  let userId ← requireUserId userId
  match db.calls.get callId with
  | none => .error .callNotFound
  | some call =>
    if call.creatorId = userId then .ok (call, .creator)
    else if call.viewerId = userId then .ok (call, .viewer)
    else .error .callNotFound

/-- The call document's changes: its start and end times follow its status. -/
def transitionPatch (ctx : Ctx) (target : CallStatus) (call : Call) : Call :=
  let starts := target = .live ∧ call.startedAt = none
  { call with
    status := target
    startedAt := if starts then some ctx.now else call.startedAt
    expiresAt :=
      if starts then some (ctx.now + call.callDurationSeconds * 1000) else call.expiresAt
    endedAt :=
      if target = .ended ∨ target = .failed then some ctx.now else call.endedAt }

/-- The caller's entry follows the call; a failed call simply ends it. -/
def entryStatusFor : CallStatus → QueueStatus
  | .connecting => .connecting
  | .live => .live
  | _ => .ended

/-- A call going live for the first time schedules its own end and earns the
creator their share. -/
def goLive (ctx : Ctx) (db : DB) (callId : CallId) (call : Call) (target : CallStatus) : DB :=
  if target = .live ∧ call.startedAt = none then
    let db := db.runAt (ctx.now + call.callDurationSeconds * 1000) (.expire callId)
    match call.paymentAttemptId with
    | none => db
    | some attemptId =>
      match db.paymentAttempts.get attemptId with
      | none => db
      | some attempt =>
        { db with ledger := creditEarning ctx.env db.ledger attemptId attempt callId ctx.now }
  else db

/-- A paid call that never went live is refunded in full. Signals and presence
only matter while a call is open. -/
def finishCall (ctx : Ctx) (db : DB) (callId : CallId) (call : Call) (target : CallStatus) : DB :=
  if target = .ended ∨ target = .failed then
    let db :=
      if call.startedAt = none then
        match call.paymentAttemptId with
        | none => db
        | some attemptId =>
          match db.paymentAttempts.get attemptId with
          | none => db
          | some attempt => requestRefund ctx db attemptId attempt callId
              (if target = .failed then .callFailedBeforeLive else .callEndedBeforeLive)
      else db
    let db := db.runAfter ctx.now 0 (.purgeSignals callId)
    let rows := db.callPresence.query fun p => p.callId == callId
    { db with
      callPresence := rows.foldl (fun table row => table.delete row.1) db.callPresence }
  else db

/-- What an allowed transition writes. -/
def moveCall (ctx : Ctx) (db : DB) (callId : CallId) (call : Call) (target : CallStatus) : DB :=
  let db := goLive ctx db callId call target
  let db := { db with
    calls := db.calls.patch callId (transitionPatch ctx target)
    queueEntries := db.queueEntries.patch call.queueEntryId fun e =>
      { e with status := entryStatusFor target } }
  finishCall ctx db callId call target

/-- Moves a call to a new state and keeps its queue entry in step. Idempotent:
asking for the current state returns without writing. -/
def applyTransition (ctx : Ctx) (db : DB) (callId : CallId) (call : Call) (target : CallStatus) :
    Except ErrorCode (DB × Unit) :=
  if call.status = target then .ok (db, ())
  else if ¬ canTransition call.status target then .error .invalidCallState
  else .ok (moveCall ctx db callId call target, ())

/-! ### Mutations of `calls.ts` -/

def showForCreator (db : DB) (showId : ShowId) (creatorId : UserId) : Except ErrorCode Show :=
  match db.shows.get showId with
  | none => .error .showNotFound
  | some hotline => if hotline.creatorId ≠ creatorId then .error .showNotFound else .ok hotline

def prepareSelection (db : DB) (userId : Option UserId) (showId : ShowId) :
    Except ErrorCode Show := do
  let creatorId ← requireCreatorId db userId
  let hotline ← showForCreator db showId creatorId
  if hotline.status ≠ .live then .error .showNotLive
  else if (activeCallForShow db showId).isSome then .error .activeCallExists
  else .ok hotline

/-- What a selection writes. A paid caller's hold is captured before the call
opens: the call waits in `paymentPending` while `payments.capture` runs. -/
def openCall (ctx : Ctx) (db : DB) (showId : ShowId) (hotline : Show) (entryId : EntryId)
    (entry : QueueEntry) (selectionMode : SelectionMode)
    (attempt : Option (AttemptId × PaymentAttempt)) : DB × CallId :=
  let callId := db.calls.next
  let db := { db with
    queueEntries := db.queueEntries.patch entryId fun e =>
      { e with status := .selected, selectedAt := some ctx.now }
    calls := db.calls.insert
      { creationTime := ctx.now
        showId
        queueEntryId := entryId
        creatorId := hotline.creatorId
        viewerId := entry.viewerId
        status := if 0 < entry.tierPriceCents then .paymentPending else .created
        selectionMode
        callDurationSeconds := entry.callDurationSeconds
        startedAt := none
        endedAt := none
        expiresAt := none
        paymentAttemptId := attempt.map Prod.fst } }
  match attempt with
  | none => (db, callId)
  | some (attemptId, _) =>
    ({ db with paymentAttempts := db.paymentAttempts.patch attemptId fun a =>
        { a with status := .capturing } }.runAfter ctx.now 0 (.capture callId 0), callId)

/-- The hold behind a paid entry. -/
def entryAttempt (db : DB) (entry : QueueEntry) : Option (AttemptId × PaymentAttempt) :=
  if 0 < entry.tierPriceCents then entry.paymentAttemptId.bind fun attemptId =>
    (db.paymentAttempts.get attemptId).map fun attempt => (attemptId, attempt)
  else none

def createCall (ctx : Ctx) (db : DB) (showId : ShowId) (hotline : Show) (entryId : EntryId)
    (entry : QueueEntry) (selectionMode : SelectionMode) : Except ErrorCode (DB × CallId) :=
  let attempt := entryAttempt db entry
  if 0 < entry.tierPriceCents ∧ ¬ attempt.any (fun row => row.2.status == .authorized) then
    .error .paymentCaptureFailed
  else .ok (openCall ctx db showId hotline entryId entry selectionMode attempt)

/-- The creator connects to a caller they chose. -/
def select (ctx : Ctx) (db : DB) (userId : Option UserId) (showId : ShowId) (entryId : EntryId) :
    Except ErrorCode (DB × CallId) := do
  let hotline ← prepareSelection db userId showId
  match db.queueEntries.get entryId with
  | none => .error .callerNotWaiting
  | some entry =>
    if entry.showId ≠ showId ∨ entry.status ≠ .waiting then .error .callerNotWaiting
    else createCall ctx db showId hotline entryId entry .manual

/-- The ranks of a show's tiers, highest first, each once. -/
def tierRanks (db : DB) (showId : ShowId) : List Nat :=
  (((db.showTiers.query fun t => t.showId == showId).map fun row =>
    row.2.priorityRank).dedup).insertionSort (· ≥ ·)

/-- A tier's waiting callers in the index order `joinedAt`, then creation. -/
def waitingAt (db : DB) (showId : ShowId) (rank : Nat) : List (EntryId × QueueEntry) :=
  (db.queueEntries.query fun e => e.showId == showId && e.status == .waiting &&
    e.priorityRank == rank).insertionSort fun a b =>
      a.2.joinedAt < b.2.joinedAt ∨ (a.2.joinedAt = b.2.joinedAt ∧ a.1 ≤ b.1)

/-- The caller at or after the pivot, or else the last one. The pivot is
`first.joinedAt + random * (last.joinedAt - first.joinedAt)`. -/
def chooseAt (db : DB) (showId : ShowId) (pivot : Time) (rank : Nat) :
    Option (EntryId × QueueEntry) :=
  let waiting := waitingAt db showId rank
  match waiting.getLast? with
  | none => none
  | some last => some ((waiting.find? fun row => decide (pivot ≤ row.2.joinedAt)).getD last)

/-- The creator connects to a random caller from the highest tier with anyone
waiting. -/
def selectRandom (ctx : Ctx) (db : DB) (userId : Option UserId) (showId : ShowId) (pivot : Time) :
    Except ErrorCode (DB × CallId) := do
  let hotline ← prepareSelection db userId showId
  match (tierRanks db showId).findSome? (chooseAt db showId pivot) with
  | none => .error .queueEmpty
  | some (entryId, entry) => createCall ctx db showId hotline entryId entry .random

/-- The creator may set every later status; the caller all but `connecting`. -/
def allowedTargets : CallRole → List CallStatus
  | .creator => [.connecting, .live, .ended, .failed]
  | .viewer => [.live, .ended, .failed]

def transition (ctx : Ctx) (db : DB) (userId : Option UserId) (callId : CallId)
    (status : CallStatus) : Except ErrorCode (DB × Unit) := do
  let (call, role) ← callForParticipant db userId callId
  if status ∉ allowedTargets role then .error .invalidCallState
  else applyTransition ctx db callId call status

/-- Scheduled for a call's `expiresAt` when it goes live. -/
def expire (ctx : Ctx) (db : DB) (callId : CallId) : Except ErrorCode (DB × Unit) :=
  match db.calls.get callId with
  | none => .ok (db, ())
  | some call =>
    if call.status ≠ .live ∨ ctx.now < call.expiresAt.getD 0 then .ok (db, ())
    else applyTransition ctx db callId call .ended

/-! ### Mutations of `presence.ts` -/

def presenceRow (db : DB) (callId : CallId) (role : CallRole) : Option (Nat × CallPresence) :=
  db.callPresence.first fun p => p.callId == callId && p.role == role

def markDisconnected (ctx : Ctx) (db : DB) (rowId : Nat) (callId : CallId) (role : CallRole) :
    DB :=
  { db with callPresence := db.callPresence.patch rowId fun p =>
      { p with disconnectedAt := some ctx.now } }.runAfter ctx.now disconnectGraceMs
    (.checkGrace callId role ctx.now)

def heartbeat (ctx : Ctx) (db : DB) (userId : Option UserId) (callId : CallId) :
    Except ErrorCode (DB × Unit) := do
  let (call, role) ← callForParticipant db userId callId
  if call.status ∉ connectableStatuses then .error .callNotFound
  else
    let callPresence := match presenceRow db callId role with
      | some (rowId, _) => db.callPresence.patch rowId fun p =>
          { p with lastSeenAt := ctx.now, disconnectedAt := none }
      | none => db.callPresence.insert
          { callId, role, lastSeenAt := ctx.now, disconnectedAt := none }
    .ok ({ db with callPresence }.runAfter ctx.now presenceTtlMs
      (.checkSeen callId role ctx.now), ())

/-- Sent when a participant leaves the call page, so the grace starts now. -/
def leaveCall (ctx : Ctx) (db : DB) (userId : Option UserId) (callId : CallId) :
    Except ErrorCode (DB × Unit) := do
  let (call, role) ← callForParticipant db userId callId
  if call.status ∉ connectableStatuses then .ok (db, ())
  else match presenceRow db callId role with
    | some (rowId, row) =>
      if row.disconnectedAt = none then .ok (markDisconnected ctx db rowId callId role, ())
      else .ok (db, ())
    | none => .ok (db, ())

def checkSeen (ctx : Ctx) (db : DB) (callId : CallId) (role : CallRole) (seenAt : Time) : DB :=
  match presenceRow db callId role with
  | none => db
  | some (rowId, row) =>
    if row.lastSeenAt ≠ seenAt ∨ row.disconnectedAt ≠ none then db
    else markDisconnected ctx db rowId callId role

def checkGrace (ctx : Ctx) (db : DB) (callId : CallId) (role : CallRole) (disconnectedAt : Time) :
    Except ErrorCode (DB × Unit) :=
  if (presenceRow db callId role).bind (fun row => row.2.disconnectedAt) ≠ some disconnectedAt then
    .ok (db, ())
  else match db.calls.get callId with
    | none => .ok (db, ())
    | some call =>
      if call.status ∈ connectableStatuses then applyTransition ctx db callId call .failed
      else .ok (db, ())

end Bling
