import Bling.Follows
import Bling.Backend

set_option autoImplicit false

namespace Bling

open Library

/-! Creator profiles (`profiles.ts`), with what shows write to them (`shows.ts`,
`lib/social.ts`) and the avatar files in storage. -/

abbrev StorageId := Nat

/-- `size` is in bytes, and `header` is the first twelve of them. -/
structure StoredFile where
  size : Nat
  header : List Nat
deriving DecidableEq

structure CreatorProfile where
  userId : UserId
  username : Text
  displayName : Text
  bio : Text
  avatarStorageId : Option StorageId
  avatarUrl : Text
  coverUrl : Text
  published : Bool
  followerCount : Int
  isLive : Bool
  liveShowId : Option ShowId
  liveStartedAt : Option Time
  nextHotlineAt : Option Time
  lastLiveAlertAt : Option Time
  topics : Option (List Text)
  searchText : Text
deriving DecidableEq

/-- A row of `liveEvents`, with its `_creationTime`. -/
structure LiveEvent where
  creatorId : UserId
  showId : ShowId
  createdAt : Time
deriving DecidableEq

/-- The arguments of `liveAlerts.collect`; a cursor is the last row a page had. -/
structure CollectJob where
  showId : ShowId
  cursor : Option Nat
  batch : Nat
deriving DecidableEq

instance : LawfulBEq (Time × CollectJob) := inferInstance

/-- A `setAvatar` that has read its file and not yet attached or discarded it. -/
structure AvatarCall where
  userId : Option UserId
  storageId : StorageId
  accepted : Bool
deriving DecidableEq

inductive Failure where
  | code (code : ErrorCode)
  | validationFailed (message : String)
  | invalidAvatar
  | fileNotFound
deriving DecidableEq

/-- What `new URL` finds in an address. -/
structure Url where
  protocol : String
  hostname : Text
  username : Text
  password : Text
deriving DecidableEq

/-- `parseUrl` is `new URL`, and `storageUrl` the address of a stored file. -/
structure Web where
  parseUrl : Text → Option Url
  storageUrl : StorageId → Text

/-- The backend and the tables of profiles. `scheduledFor` is that field of the shows. -/
structure Site where
  backend : DB
  scheduledFor : ShowId → Option Time
  profiles : Table CreatorProfile
  liveEvents : Table LiveEvent
  files : Table StoredFile
  rateLimits : Table RateLimit
  avatarCalls : Table AvatarCall
  collects : List (Time × CollectJob)

namespace Site

def empty : Site :=
  ⟨.empty, fun _ => none, .empty, .empty, .empty, .empty, .empty, []⟩

def profileForUser (s : Site) (userId : UserId) : Option (Nat × CreatorProfile) :=
  s.profiles.first fun p => p.userId == userId

def profileByUsername (toLowerCase : Text → Text) (s : Site) (username : Text) :
    Option (Nat × CreatorProfile) :=
  s.profiles.first fun p => p.username == toLowerCase (trim username)

/-- `join(" ")`. -/
def searchText (username displayName bio : Text) (topics : List Text) : Text :=
  List.intercalate [32] ([username, displayName, bio] ++ topics)

/-! ### `lib/social.ts` -/

def createProfile (s : Site) (userId : UserId) (username : Text) : Site :=
  { s with
    profiles := s.profiles.insert
      { userId, username, displayName := username, bio := [], avatarStorageId := none
        avatarUrl := [], coverUrl := [], published := false, followerCount := 0, isLive := false
        liveShowId := none, liveStartedAt := none, nextHotlineAt := none
        lastLiveAlertAt := none, topics := none
        searchText := searchText username username [] [] } }

/-- Writes to the creator's profile, if there is one. -/
def patchProfile (s : Site) (creatorId : UserId) (f : CreatorProfile → CreatorProfile) : Site :=
  match s.profileForUser creatorId with
  | some (id, _) => { s with profiles := s.profiles.patch id f }
  | none => s

/-- Creating a show makes its creator discoverable. -/
def onShowCreated (s : Site) (creatorId : UserId) : Site :=
  s.patchProfile creatorId fun p => { p with published := true }

def onShowScheduled (s : Site) (creatorId : UserId) (scheduledFor : Option Time) : Site :=
  s.patchProfile creatorId fun p => { p with nextHotlineAt := scheduledFor }

def alertCooldownMs : Time := 6 * 60 * 60000

/-- A creator who restarts within six hours doesn't email everyone again. -/
def queueLiveAlert (now : Time) (s : Site) (creatorId : UserId) (showId : ShowId) : Site :=
  match s.profileForUser creatorId with
  | none => s
  | some (id, profile) =>
    if profile.lastLiveAlertAt.any fun last => now < last + alertCooldownMs then s
    else { s with
      profiles := s.profiles.patch id fun p => { p with lastLiveAlertAt := some now }
      collects := s.collects ++ [(now, { showId, cursor := none, batch := 0 })] }

/-- Going live publishes the profile and records one live event per show. -/
def onShowLive (now : Time) (s : Site) (creatorId : UserId) (showId : ShowId) : Site :=
  let s := s.patchProfile creatorId fun p => { p with
    published := true, isLive := true, liveShowId := some showId
    liveStartedAt := some now, nextHotlineAt := none }
  match s.liveEvents.first fun e => e.showId == showId with
  | some _ => s
  | none => queueLiveAlert now
      { s with liveEvents := s.liveEvents.insert { creatorId, showId, createdAt := now } }
      creatorId showId

def onShowEnded (s : Site) (creatorId : UserId) (showId : ShowId) : Site :=
  s.patchProfile creatorId fun p =>
    if p.liveShowId = some showId then
      { p with isLive := false, liveShowId := none, liveStartedAt := none }
    else p

/-! ### `auth.ts` and `shows.ts` -/

/-- Every account with a username gets an unpublished creator profile. -/
def signUp (s : Site) (username : Option Text) : Except Failure (Site × UserId) := do
  let (backend, userId) ← (Bling.signUp s.backend username).mapError .code
  let s := { s with backend }
  if username.getD [] = [] then .ok (s, userId)
  else .ok (s.createProfile userId (username.getD []), userId)

def create (s : Site) (userId : Option UserId) : Except Failure (Site × ShowId) := do
  let creatorId ← (requireCreatorId s.backend userId).mapError .code
  let (backend, showId) ← (createShow s.backend userId).mapError .code
  .ok ({ s with backend }.onShowCreated creatorId, showId)

def scheduleMinLeadMs : Time := 5 * 60000
def scheduleMaxLeadMs : Time := 60 * 24 * 60 * 60000

/-- Announces when a draft Hotline will open, or clears it. -/
def schedule (now : Time) (s : Site) (userId : Option UserId) (showId : ShowId)
    (scheduledFor : Option Time) : Except Failure (Site × Unit) := do
  let creatorId ← (requireCreatorId s.backend userId).mapError .code
  let hotline ← (showForCreator s.backend showId creatorId).mapError .code
  if hotline.status ≠ .created then .error (.code .invalidShowState)
  else if scheduledFor.any fun opening =>
      opening < now + scheduleMinLeadMs || now + scheduleMaxLeadMs < opening then
    .error (.code .validationFailed)
  else
    .ok ({ s with scheduledFor := fun id =>
      if id = showId then scheduledFor else s.scheduledFor id }.onShowScheduled
        creatorId scheduledFor, ())

/-- `startShow` returns at once for a show that is live already. -/
def start (ctx : Ctx) (s : Site) (userId : Option UserId) (showId : ShowId) :
    Except Failure (Site × Unit) := do
  let creatorId ← (requireCreatorId s.backend userId).mapError .code
  let hotline ← (showForCreator s.backend showId creatorId).mapError .code
  let (backend, _) ← (startShow ctx s.backend userId showId).mapError .code
  if hotline.status = .live then .ok (s, ())
  else .ok ({ s with backend }.onShowLive ctx.now creatorId showId, ())

/-- `shows.end`. -/
def finish (ctx : Ctx) (s : Site) (userId : Option UserId) (showId : ShowId) :
    Except Failure (Site × Unit) := do
  let creatorId ← (requireCreatorId s.backend userId).mapError .code
  let hotline ← (showForCreator s.backend showId creatorId).mapError .code
  let (backend, _) ← (endShow ctx s.backend userId showId).mapError .code
  if hotline.status = .ended then .ok (s, ())
  else .ok ({ s with backend }.onShowEnded creatorId showId, ())

/-! ### Storage -/

/-- `storage.getUrl` is null for a file that is gone. -/
def getUrl (web : Web) (s : Site) (id : StorageId) : Option Text :=
  (s.files.get id).map fun _ => web.storageUrl id

def deleteFile (s : Site) (id : StorageId) : Except Failure Site :=
  match s.files.get id with
  | none => .error .fileNotFound
  | some _ => .ok { s with files := s.files.delete id }

/-- The file a profile lets go of, if it had one. -/
def removeFile (s : Site) : Option StorageId → Except Failure Site
  | none => .ok s
  | some id => s.deleteFile id

/-! ### `profiles.ts` -/

def avatarMaxBytes : Nat := 768 * 1024
def maxTopics : Nat := 3

/-- The topics of `lib/topics.ts`. -/
def topicNames : List Text :=
  [['A', 'd', 'v', 'i', 'c', 'e'], ['M', 'u', 's', 'i', 'c'], ['G', 'a', 'm', 'i', 'n', 'g'],
    ['C', 'o', 'm', 'e', 'd', 'y'], ['S', 'p', 'o', 'r', 't', 's'],
    ['F', 'i', 't', 'n', 'e', 's', 's'], ['W', 'e', 'l', 'l', 'n', 'e', 's', 's'],
    ['R', 'e', 'l', 'a', 't', 'i', 'o', 'n', 's', 'h', 'i', 'p', 's'], ['M', 'o', 'n', 'e', 'y'],
    ['T', 'e', 'c', 'h'], ['A', 'r', 't'], ['F', 'a', 's', 'h', 'i', 'o', 'n']].map
      fun name => name.map Char.toNat

def isTopic (value : Text) : Bool := topicNames.contains value

/-- `[...value].length`: a surrogate pair is one. -/
def lengthOf : Text → Nat
  | [] => 0
  | [_] => 1
  | high :: low :: rest =>
    if 0xd800 ≤ high ∧ high < 0xdc00 ∧ 0xdc00 ≤ low ∧ low < 0xe000 then 1 + lengthOf rest
    else 1 + lengthOf (low :: rest)

def validHttpsUrl (web : Web) (raw : Text) : Bool :=
  raw.length ≤ 2048 && (web.parseUrl raw).any fun url =>
    url.protocol == "https:" && url.hostname != [] && url.username == [] && url.password == []

/-- `avatarUrl`: `none` keeps the current avatar, the empty text removes it. -/
structure SaveArgs where
  displayName : Text
  bio : Text
  avatarUrl : Option Text
  coverUrl : Text
  published : Bool
  topics : Option (List Text)
deriving DecidableEq

/-- The form sends back the avatar URL it was given; for an uploaded avatar that is
its storage URL. -/
def keepsUpload (web : Web) (s : Site) (profile : CreatorProfile) (avatar : Option Text) : Bool :=
  match profile.avatarStorageId with
  | none => false
  | some storageId => avatar.isSome && avatar == s.getUrl web storageId

/-- What a save writes besides the avatar. A live profile stays published. -/
def savePatch (args : SaveArgs) (p : CreatorProfile) : CreatorProfile :=
  let topics := (args.topics.map List.eraseDups).getD (p.topics.getD [])
  { p with
    displayName := trim args.displayName
    bio := trim args.bio
    coverUrl := trim args.coverUrl
    published := args.published || p.isLive
    topics := some topics
    searchText := searchText p.username (trim args.displayName) (trim args.bio) topics }

def save (web : Web) (now : Time) (s : Site) (userId : Option UserId) (args : SaveArgs) :
    Except Failure (Site × Unit) := do
  let userId ← (requireCreatorId s.backend userId).mapError .code
  let rateLimits ← (rateLimit now s.rateLimits userId 20 60000).mapError .code
  match s.profileForUser userId with
  | none => .error (.code .creatorNotFound)
  | some (id, profile) =>
    let avatar := args.avatarUrl.map trim
    let coverUrl := trim args.coverUrl
    let displayName := trim args.displayName
    let topics := (args.topics.map List.eraseDups).getD (profile.topics.getD [])
    if lengthOf displayName < 1 ∨ 60 < lengthOf displayName ∨ 500 < lengthOf (trim args.bio) then
      .error (.validationFailed "Check your display name and bio.")
    else if (coverUrl ≠ [] ∧ ¬ validHttpsUrl web coverUrl) ∨
        (avatar.getD [] ≠ [] ∧ ¬ s.keepsUpload web profile avatar ∧
          ¬ validHttpsUrl web (avatar.getD [])) then
      .error (.validationFailed "Images must be https links.")
    else if maxTopics < topics.length ∨ ¬ topics.all isTopic then
      .error (.validationFailed "Pick up to 3 topics.")
    else
      let s := { s with rateLimits }
      match avatar with
      | none => .ok ({ s with profiles := s.profiles.patch id (savePatch args) }, ())
      | some url =>
        if s.keepsUpload web profile avatar then
          .ok ({ s with profiles := s.profiles.patch id (savePatch args) }, ())
        else do
          let s ← s.removeFile profile.avatarStorageId
          .ok ({ s with profiles := s.profiles.patch id fun p =>
            { savePatch args p with avatarUrl := url, avatarStorageId := none } }, ())

/-- The type comes from the file's own first bytes. -/
def isAvatarImage (bytes : List Nat) : Bool :=
  bytes.take 3 == [0xff, 0xd8, 0xff] ||
    bytes.take 8 == [0x89, 0x50, 0x4e, 0x47, 0x0d, 0x0a, 0x1a, 0x0a] ||
    (bytes.take 4 == ['R', 'I', 'F', 'F'].map Char.toNat &&
      (bytes.drop 8).take 4 == ['W', 'E', 'B', 'P'].map Char.toNat)

/-- The first half of `setAvatar`: the file is read outside of any transaction. -/
def setAvatar (s : Site) (userId : Option UserId) (storageId : StorageId) : Site :=
  { s with
    avatarCalls := s.avatarCalls.insert
      { userId, storageId
        accepted := (s.files.get storageId).any fun file =>
          file.size ≤ avatarMaxBytes && isAvatarImage file.header } }

def avatarOwner (s : Site) (storageId : StorageId) : Option (Nat × CreatorProfile) :=
  s.profiles.first fun p => p.avatarStorageId == some storageId

/-- Only an unattached file is deleted. -/
def discardUpload (s : Site) (storageId : StorageId) : Except Failure (Site × Unit) :=
  if (s.avatarOwner storageId).isNone ∧ (s.files.get storageId).isSome then
    (s.deleteFile storageId).map fun s => (s, ())
  else .ok (s, ())

/-- A file already attached to another profile cannot be claimed. -/
def attachAvatar (s : Site) (userId : Option UserId) (storageId : StorageId) :
    Except Failure (Site × Unit) := do
  let userId ← (requireCreatorId s.backend userId).mapError .code
  match s.profileForUser userId with
  | none => .error (.code .creatorNotFound)
  | some (id, profile) =>
    if (s.avatarOwner storageId).any fun owner => owner.1 ≠ id then .error .invalidAvatar
    else do
      let s ← s.removeFile (profile.avatarStorageId.filter (· ≠ storageId))
      .ok ({ s with profiles := s.profiles.patch id fun p =>
        { p with avatarStorageId := some storageId, avatarUrl := [] } }, ())

/-- The second half of `setAvatar`. -/
def runSetAvatar (s : Site) (call : AvatarCall) : Except Failure (Site × Unit) :=
  if call.accepted then s.attachAvatar call.userId call.storageId
  else s.discardUpload call.storageId

/-! ### Any interleaving -/

/-- A mutation that fails writes nothing. -/
def commit {α : Type} (s : Site) : Except Failure (Site × α) → Site
  | .ok (after, _) => after
  | .error _ => s

end Site

inductive SiteOp where
  | signUp (username : Option Text)
  | saveAccount (creatorId : UserId) (account : PayoutAccount)
  | replaceTiers (toLowerCase : Text → Text) (userId : Option UserId) (showId : ShowId)
      (tiers : List TierInput)
  | create (userId : Option UserId)
  | schedule (userId : Option UserId) (showId : ShowId) (scheduledFor : Option Time)
  | start (userId : Option UserId) (showId : ShowId)
  | finish (userId : Option UserId) (showId : ShowId)
  | save (userId : Option UserId) (args : Site.SaveArgs)
  | upload (file : StoredFile)
  | setAvatar (userId : Option UserId) (storageId : StorageId)
  /-- The second half of a `setAvatar` that read its file before. -/
  | runSetAvatar (id : Nat)

def Site.step (web : Web) (s : Site) (input : Ctx × SiteOp) : Site :=
  let ctx := input.1
  match input.2 with
  | .signUp username => s.commit (s.signUp username)
  | .saveAccount creatorId account =>
    { s with backend := Bling.saveAccount s.backend creatorId account }
  | .replaceTiers toLowerCase userId showId tiers =>
    { s with
      backend := Bling.commit s.backend
        (Bling.replaceTiers toLowerCase s.backend userId showId tiers) }
  | .create userId => s.commit (s.create userId)
  | .schedule userId showId scheduledFor => s.commit (s.schedule ctx.now userId showId scheduledFor)
  | .start userId showId => s.commit (s.start ctx userId showId)
  | .finish userId showId => s.commit (s.finish ctx userId showId)
  | .save userId args => s.commit (s.save web ctx.now userId args)
  | .upload file => { s with files := s.files.insert file }
  | .setAvatar userId storageId => s.setAvatar userId storageId
  | .runSetAvatar id =>
    match s.avatarCalls.get id with
    | none => s
    | some call =>
      let s := { s with avatarCalls := s.avatarCalls.delete id }
      s.commit (s.runSetAvatar call)

end Bling
