import Bling.Library.Machine
import Bling.Shows

set_option autoImplicit false

namespace Bling

open Library

/-! Follows, from `follows.ts`. A creator's follower total lives in 64 shards,
and the profile's `followerCount` is projected from them later. -/

def shards : Nat := 64
def maxFollows : Int := 1000
def projectionDelayMs : Time := 5000

/-- The fields of a profile that following reads and writes. -/
structure Profile where
  userId : UserId
  username : Text
  published : Bool
  followerCount : Int
deriving DecidableEq

structure Follow where
  followerId : UserId
  creatorId : UserId
deriving DecidableEq

structure FollowingCount where
  userId : UserId
  count : Int
deriving DecidableEq

structure FollowerShard where
  creatorId : UserId
  shard : Nat
  count : Int
deriving DecidableEq

/-- A creator whose shards changed since the last projection. -/
structure FollowerProjection where
  creatorId : UserId
deriving DecidableEq

/-- The row under the key `follow:<userId>`. -/
structure RateLimit where
  userId : UserId
  windowStart : Time
  count : Nat
deriving DecidableEq

/-- The backend with the tables of `follows.ts` and its scheduled `project`
jobs. -/
structure Social where
  backend : DB
  profiles : Table Profile
  follows : Table Follow
  followingCounts : Table FollowingCount
  followerShards : Table FollowerShard
  followerProjections : Table FollowerProjection
  rateLimits : Table RateLimit
  scheduled : List (Time × UserId)

def Social.empty : Social :=
  ⟨.empty, .empty, .empty, .empty, .empty, .empty, .empty, []⟩

/-! ### `lib/social.ts` -/

/-- A fixed window: its first call starts the count, and the limit is checked
before each later one. -/
def rateLimit (now : Time) (limits : Table RateLimit) (userId : UserId) (perWindow : Nat)
    (windowMs : Time) : Except ErrorCode (Table RateLimit) :=
  let windowStart := now - now % windowMs
  match limits.first fun row => row.userId == userId with
  | none => .ok (limits.insert { userId, windowStart, count := 1 })
  | some (id, row) =>
    if row.windowStart ≠ windowStart then
      .ok (limits.patch id fun r => { r with windowStart, count := 1 })
    else if perWindow ≤ row.count then .error .rateLimited
    else .ok (limits.patch id fun r => { r with count := row.count + 1 })

def profileByUsername (toLowerCase : Text → Text) (db : Social) (username : Text) :
    Option (Nat × Profile) :=
  db.profiles.first fun p => p.username == toLowerCase (trim username)

/-- Every account with a username gets an unpublished creator profile. -/
def Social.signUp (db : Social) (username : Option Text) : Social :=
  match Bling.signUp db.backend username with
  | .error _ => db
  | .ok (backend, userId) =>
    let db := { db with backend }
    match username.getD [] with
    | [] => db
    | name => { db with
        profiles := db.profiles.insert
          { userId, username := name, published := false, followerCount := 0 } }

/-! ### `follows.ts` -/

def shardAt (db : Social) (creatorId : UserId) (shard : Nat) : Option (Nat × FollowerShard) :=
  db.followerShards.first fun s => s.creatorId == creatorId && s.shard == shard

/-- The first shard after a random start that is not empty. -/
def nonEmptyShard (db : Social) (creatorId : UserId) (start : Fin shards) :
    Option (Nat × FollowerShard) :=
  (List.range shards).findSome? fun offset =>
    (shardAt db creatorId ((start + offset) % shards)).filter fun row => 0 < row.2.count

/-- A follow goes to a random shard; an unfollow takes from the first non-empty
one after it, so counts never go negative. -/
def moveShard (db : Social) (creatorId : UserId) (start : Fin shards) (follow : Bool) : Social :=
  if follow then
    match shardAt db creatorId start with
    | some (id, shard) => { db with
        followerShards := db.followerShards.patch id fun s =>
          { s with count := shard.count + 1 } }
    | none => { db with
        followerShards := db.followerShards.insert { creatorId, shard := start, count := 1 } }
  else
    match nonEmptyShard db creatorId start with
    | some (id, shard) => { db with
        followerShards := db.followerShards.patch id fun s =>
          { s with count := shard.count - 1 } }
    | none => db

/-- Only the first change in a window schedules its projection. -/
def scheduleProjection (now : Time) (db : Social) (creatorId : UserId) : Social :=
  match db.followerProjections.first fun marker => marker.creatorId == creatorId with
  | some _ => db
  | none => { db with
      followerProjections := db.followerProjections.insert { creatorId }
      scheduled := db.scheduled ++ [(now + projectionDelayMs, creatorId)] }

def adjustShard (now : Time) (db : Social) (creatorId : UserId) (start : Fin shards)
    (follow : Bool) : Social :=
  scheduleProjection now (moveShard db creatorId start follow) creatorId

/-- The relation and its user's count, which change together. -/
def writeFollow (db : Social) (userId creatorId : UserId) (follow : Bool) : Social :=
  let existing := db.follows.first fun f => f.followerId == userId && f.creatorId == creatorId
  let following := db.followingCounts.first fun c => c.userId == userId
  let nextCount := (following.elim 0 fun row => row.2.count) + if follow then 1 else -1
  { db with
    followingCounts := match following with
      | some (id, _) => db.followingCounts.patch id fun c => { c with count := nextCount }
      | none => db.followingCounts.insert { userId, count := nextCount }
    follows :=
      if follow then db.follows.insert { followerId := userId, creatorId }
      else existing.elim db.follows fun row => db.follows.delete row.1 }

/-- Following is a target state, not a toggle: asking for the state there is
writes nothing. -/
def setFollow (now : Time) (start : Fin shards) (toLowerCase : Text → Text) (db : Social)
    (userId : Option UserId) (username : Text) (follow : Bool) :
    Except ErrorCode (Social × Bool) := do
  let userId ← requireCreatorId db.backend userId
  match profileByUsername toLowerCase db username with
  | none => .error .creatorNotFound
  | some (_, creator) =>
    if follow ∧ ¬ creator.published then .error .creatorNotFound
    else if creator.userId = userId then .error .selfFollow
    else
      let existing := db.follows.first fun f =>
        f.followerId == userId && f.creatorId == creator.userId
      if existing.isSome = follow then .ok (db, follow)
      else
        let rateLimits ← rateLimit now db.rateLimits userId 60 60000
        let following := db.followingCounts.first fun c => c.userId == userId
        if follow ∧ maxFollows ≤ following.elim 0 fun row => row.2.count then
          .error .followLimit
        else
          let db := writeFollow { db with rateLimits } userId creator.userId follow
          .ok (adjustShard now db creator.userId start follow, follow)

/-- The sum of a creator's shards. -/
def Social.shardSum (db : Social) (creatorId : UserId) : Int :=
  db.followerShards.total (fun s => s.creatorId == creatorId) FollowerShard.count

/-- Sums a creator's shards into their profile's `followerCount`. -/
def project (db : Social) (creatorId : UserId) : Social :=
  let total := db.shardSum creatorId
  let markers := db.followerProjections.query fun marker => marker.creatorId == creatorId
  { db with
    profiles := match db.profiles.first fun p => p.userId == creatorId with
      | some (id, profile) =>
        if profile.followerCount ≠ total then
          db.profiles.patch id fun p => { p with followerCount := total }
        else db.profiles
      | none => db.profiles
    followerProjections := markers.foldl (fun table row => table.delete row.1)
      db.followerProjections }

/-- What the query `followingCount` returns for a user. -/
def followingCount (db : Social) (userId : UserId) : Int :=
  (db.followingCounts.first fun c => c.userId == userId).elim 0 fun row => row.2.count

/-! ### Any interleaving -/

inductive SocialOp where
  | signUp (username : Option Text)
  /-- Saving a profile publishes or hides it; so does a show. -/
  | publish (profileId : Nat) (published : Bool)
  | follow (start : Fin shards) (toLowerCase : Text → Text) (userId : Option UserId)
      (username : Text)
  | unfollow (start : Fin shards) (toLowerCase : Text → Text) (userId : Option UserId)
      (username : Text)
  | runProject (time : Time) (creatorId : UserId)

/-- A mutation that fails writes nothing. -/
def Social.commit {α : Type} (db : Social) : Except ErrorCode (Social × α) → Social
  | .ok (after, _) => after
  | .error _ => db

def Social.step (db : Social) (input : Time × SocialOp) : Social :=
  let now := input.1
  match input.2 with
  | .signUp username => db.signUp username
  | .publish profileId published => { db with
      profiles := db.profiles.patch profileId fun p => { p with published } }
  | .follow start toLowerCase userId username =>
    db.commit (setFollow now start toLowerCase db userId username true)
  | .unfollow start toLowerCase userId username =>
    db.commit (setFollow now start toLowerCase db userId username false)
  | .runProject time creatorId =>
    if (time, creatorId) ∈ db.scheduled ∧ time ≤ now then
      project { db with scheduled := db.scheduled.erase (time, creatorId) } creatorId
    else db

end Bling
