import Bling.Calls

set_option autoImplicit false

namespace Bling

open Library

/-! The show lifecycle, from `shows.ts`, with tiers (`tiers.ts`), sign-up
(`auth.ts`) and connected accounts (`payouts.saveAccount`), which a paid show
needs before it can start. -/

/-- The white space `String.prototype.trim` strips, by code unit. -/
def isSpace (unit : Nat) : Bool :=
  (9 ≤ unit && unit ≤ 13) || unit == 32 || unit == 160 || unit == 0x1680 ||
    (0x2000 ≤ unit && unit ≤ 0x200a) || unit == 0x2028 || unit == 0x2029 || unit == 0x202f ||
    unit == 0x205f || unit == 0x3000 || unit == 0xfeff

def trim (text : Text) : Text :=
  (((text.dropWhile isSpace).reverse).dropWhile isSpace).reverse

/-- `createOrUpdateUser` for a new account; a caller without a username is
anonymous. Usernames are unique. -/
def signUp (db : DB) (username : Option Text) : Except ErrorCode (DB × UserId) :=
  let added : DB × UserId :=
    ({ db with
        users := db.users.insert
          { isAnonymous := username.isNone
            username
            platformFeeBps := username.map fun _ => signupPlatformFeeBps } }, db.users.next)
  match username with
  | none => .ok added
  | some name =>
    if (db.users.first fun u => u.username == some name).isSome then .error .validationFailed
    else .ok added

/-- A creator keeps their first account; a different id is never adopted. -/
def saveAccount (db : DB) (creatorId : UserId) (account : PayoutAccount) : DB :=
  let account := { account with creatorId }
  match db.payoutAccounts.first fun a => a.creatorId == creatorId with
  | none => { db with payoutAccounts := db.payoutAccounts.insert account }
  | some (id, existing) =>
    if existing.stripeAccountId ≠ account.stripeAccountId then db
    else { db with payoutAccounts := db.payoutAccounts.patch id fun _ => account }

def accountReady (account : Option PayoutAccount) : Bool :=
  account.any fun a => a.transfersStatus == "active" && a.bankPayoutsStatus == "active" &&
    a.externalAccountPresent && a.detailsSubmitted

/-- A new show starts with one free Standard tier. -/
def createShow (db : DB) (userId : Option UserId) : Except ErrorCode (DB × ShowId) := do
  let creatorId ← requireCreatorId db userId
  let showId := db.shows.next
  .ok ({ db with
    shows := db.shows.insert
      { creatorId, status := .created, startedAt := none, endedAt := none }
    showTiers := db.showTiers.insert
      { showId, name := [83, 116, 97, 110, 100, 97, 114, 100], priorityRank := 0
        callDurationSeconds := 300, priceCents := 0, enabled := true } }, showId)

/-! ### Tiers -/

def maxTiers : Nat := 5

structure TierInput where
  name : Text
  callDurationSeconds : Int
  priceCents : Int
  enabled : Bool
deriving DecidableEq

def TierInput.valid (tier : TierInput) : Bool :=
  let name := trim tier.name
  1 ≤ name.length && name.length ≤ 40 &&
    30 ≤ tier.callDurationSeconds && tier.callDurationSeconds ≤ 3600 &&
    (tier.priceCents == 0 || (50 ≤ tier.priceCents && tier.priceCents ≤ 1000000))

/-- The tiers as stored, ranked by their place in the list. -/
def normalizeTiers (showId : ShowId) (tiers : List TierInput) : List ShowTier :=
  tiers.mapIdx fun index tier =>
    { showId
      name := trim tier.name
      priorityRank := (tiers.length - index) * 100
      callDurationSeconds := tier.callDurationSeconds.toNat
      priceCents := tier.priceCents.toNat
      enabled := tier.enabled }

/-- Replaces the whole tier set before the show starts. Names are compared by
`toLowerCase`, which is the runtime's. -/
def replaceTiers (toLowerCase : Text → Text) (db : DB) (userId : Option UserId) (showId : ShowId)
    (tiers : List TierInput) : Except ErrorCode (DB × Unit) := do
  let creatorId ← requireCreatorId db userId
  let hotline ← showForCreator db showId creatorId
  if hotline.status ≠ .created then .error .showNotConfigurable
  else if tiers.length < 1 ∨ maxTiers < tiers.length then .error .invalidTierConfiguration
  else if ¬ tiers.all TierInput.valid ∨
      ¬ (tiers.map fun tier => toLowerCase (trim tier.name)).Nodup then
    .error .invalidTierConfiguration
  else if ¬ tiers.any TierInput.enabled then .error .invalidTierConfiguration
  else
    let cleared := (db.showTiers.query fun t => t.showId == showId).foldl
      (fun table row => table.delete row.1) db.showTiers
    .ok ({ db with showTiers := (normalizeTiers showId tiers).foldl Table.insert cleared }, ())

/-! ### Starting and ending -/

def startShow (ctx : Ctx) (db : DB) (userId : Option UserId) (showId : ShowId) :
    Except ErrorCode (DB × Unit) := do
  let creatorId ← requireCreatorId db userId
  let hotline ← showForCreator db showId creatorId
  if hotline.status = .live then .ok (db, ())
  else if hotline.status ≠ .created then .error .invalidShowState
  else
    let enabled := db.showTiers.query fun t => t.showId == showId && t.enabled
    let account := (db.payoutAccounts.first fun a => a.creatorId == creatorId).map Prod.snd
    if enabled = [] then .error .invalidTierConfiguration
    else if enabled.any (fun row => decide (0 < row.2.priceCents)) ∧ ¬ accountReady account then
      .error .payoutSetupRequired
    else if (db.shows.first fun s => s.creatorId == creatorId && s.status == .live).isSome then
      .error .activeShowExists
    else .ok ({ db with shows := db.shows.patch showId fun s =>
      { s with status := .live, startedAt := some ctx.now } }, ())

/-- An open call ends with its show; a call still capturing payment is settled
when the capture finishes. -/
def endShow (ctx : Ctx) (db : DB) (userId : Option UserId) (showId : ShowId) :
    Except ErrorCode (DB × Unit) := do
  let creatorId ← requireCreatorId db userId
  let hotline ← showForCreator db showId creatorId
  if hotline.status = .ended then .ok (db, ())
  else if hotline.status ≠ .live then .error .invalidShowState
  else
    let db := { db with shows := db.shows.patch showId fun s =>
      { s with status := .ended, endedAt := some ctx.now } }
    let db ← match activeCallForShow db showId with
      | none => .ok db
      | some (callId, call) =>
        if call.status ∈ connectableStatuses then
          (applyTransition ctx db callId call .ended).map Prod.fst
        else .ok db
    .ok (db.runAfter ctx.now 0 (.closeQueue showId), ())

def closeBatch : Nat := 200

def activeEntryStatuses : List QueueStatus := [.waiting, .selected, .connecting, .live]

/-- Callers still waiting when the show ends get their card hold back now. -/
def closeEntry (ctx : Ctx) (status : QueueStatus) (db : DB) (row : EntryId × QueueEntry) : DB :=
  let db := { db with queueEntries := db.queueEntries.patch row.1 fun e =>
    { e with status := .ended, leftAt := some ctx.now } }
  match row.2.paymentAttemptId with
  | none => db
  | some attemptId =>
    if status = .waiting then
      match db.paymentAttempts.get attemptId with
      | none => db
      | some attempt => scheduleCancel ctx db attemptId attempt .showEnded
    else db

/-- The entries of one status, in the index order rank, `joinedAt`, creation. -/
def entriesWith (db : DB) (showId : ShowId) (status : QueueStatus) : List (EntryId × QueueEntry) :=
  (db.queueEntries.query fun e => e.showId == showId && e.status == status).insertionSort
    fun a b => a.2.priorityRank < b.2.priorityRank ∨ (a.2.priorityRank = b.2.priorityRank ∧
      (a.2.joinedAt < b.2.joinedAt ∨ (a.2.joinedAt = b.2.joinedAt ∧ a.1 ≤ b.1)))

/-- The loop over the active statuses, with the number closed so far. -/
def closeEntries (ctx : Ctx) (db : DB) (showId : ShowId) (limit : Nat) : DB × Nat :=
  activeEntryStatuses.foldl (fun (db, closed) status =>
    if limit ≤ closed then (db, closed)
    else
      let entries := (entriesWith db showId status).take (limit - closed)
      (entries.foldl (closeEntry ctx status) db, closed + entries.length)) (db, 0)

def closeQueue (ctx : Ctx) (db : DB) (showId : ShowId) : DB :=
  let (db, closed) := closeEntries ctx db showId closeBatch
  if closed = closeBatch then db.runAfter ctx.now 0 (.closeQueue showId) else db

end Bling
