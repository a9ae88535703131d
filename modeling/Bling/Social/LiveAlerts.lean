import Bling.Library.Paging
import Bling.Library.Groups
import Bling.Social.Mirror

set_option autoImplicit false

namespace Bling

open Library

/-! Emails to followers that a creator went live, from `liveAlerts.ts`, with the follows they
go to. A walk over the followers makes batches, and each batch is one request to Resend. -/

def alertBatch : Nat := 100
def maxSendAttempts : Nat := 3

structure EmailPreference where
  userId : UserId
  liveAlerts : Bool
deriving DecidableEq

abbrev Recipient := UserId × Text

/-- The recipients of a batch, under the number that is in its idempotency key. -/
structure AlertBatch where
  showId : ShowId
  batch : Nat
  recipients : List Recipient
deriving DecidableEq

/-- A scheduled `send`. -/
structure SendJob where
  due : Time
  username : Text
  displayName : Text
  batch : AlertBatch
  attempt : Nat
deriving DecidableEq

/-- `emails` is that field of the users. `batches` are all the batches made so far, and
`delivered` those that Resend took. -/
structure Alerts where
  site : Site
  emails : UserId → Option Text
  follows : Table Follow
  followingCounts : Table FollowingCount
  followerShards : Table FollowerShard
  followerProjections : Table FollowerProjection
  followLimits : Table RateLimit
  projections : List (Time × UserId)
  preferences : Table EmailPreference
  sends : Table SendJob
  batches : List AlertBatch
  delivered : List AlertBatch

namespace Alerts

def empty : Alerts :=
  ⟨.empty, fun _ => none, .empty, .empty, .empty, .empty, .empty, [], .empty, .empty, [], []⟩

/-! ### `follows.ts` -/

/-- The tables `setFollow` reads and writes. -/
def social (a : Alerts) : Social where
  backend := a.site.backend
  profiles := a.site.profiles.map fun p =>
    { userId := p.userId, username := p.username, published := p.published
      followerCount := p.followerCount }
  follows := a.follows
  followingCounts := a.followingCounts
  followerShards := a.followerShards
  followerProjections := a.followerProjections
  rateLimits := a.followLimits
  scheduled := a.projections

def setFollow (now : Time) (start : Fin shards) (toLowerCase : Text → Text) (a : Alerts)
    (userId : Option UserId) (username : Text) (follow : Bool) :
    Except ErrorCode (Alerts × Bool) := do
  let (social, isFollowing) ←
    Bling.setFollow now start toLowerCase a.social userId username follow
  .ok ({ a with
    follows := social.follows
    followingCounts := social.followingCounts
    followerShards := social.followerShards
    followerProjections := social.followerProjections
    followLimits := social.rateLimits
    projections := social.scheduled }, isFollowing)

/-! ### `liveAlerts.ts` -/

def preference (a : Alerts) (userId : UserId) : Option (Nat × EmailPreference) :=
  a.preferences.first fun p => p.userId == userId

/-- The address a user is emailed at: accounts with an email that haven't turned alerts off. -/
def recipient (a : Alerts) (userId : UserId) : Option Recipient :=
  match a.site.backend.users.get userId with
  | none => none
  | some user =>
    match a.emails userId with
    | none => none
    | some email =>
      if email = [] ∨ user.isAnonymous then none
      else if (a.preference userId).any fun row => !row.2.liveAlerts then none
      else some (userId, email)

/-- The follows of a creator behind a cursor, in creation order. -/
def followersBeyond (a : Alerts) (creatorId : UserId) (cursor : Option Nat) :
    List (Nat × Follow) :=
  beyond (· < ·) Prod.fst (a.follows.query fun f => f.creatorId == creatorId) cursor

/-- One batch of followers. A full page is not known to be the last one. -/
def collect (now : Time) (a : Alerts) (job : CollectJob) : Alerts :=
  match a.site.backend.shows.get job.showId with
  | none => a
  | some hotline =>
    if hotline.status ≠ .live then a
    else
      match a.site.profileForUser hotline.creatorId with
      | none => a
      | some (_, profile) =>
        let page := (a.followersBeyond hotline.creatorId job.cursor).take alertBatch
        let recipients := page.filterMap fun row => a.recipient row.2.followerId
        let batch : AlertBatch := { showId := job.showId, batch := job.batch, recipients }
        let a := if recipients = [] then a else
          { a with
            batches := a.batches ++ [batch]
            sends := a.sends.insert
              { due := now, username := profile.username, displayName := profile.displayName
                batch, attempt := 1 } }
        if page.length < alertBatch then a
        else { a with site := { a.site with collects := a.site.collects ++
          [(now, { showId := job.showId, cursor := page.getLast?.map Prod.fst
                   batch := job.batch + 1 })] } }

/-- A job that runs is not scheduled any more. -/
def dequeue (a : Alerts) (job : Time × CollectJob) : Alerts :=
  { a with site := { a.site with collects := a.site.collects.erase job } }

/-- What a request to Resend comes to: whether the batch is taken, and `response.ok`, or none
when `fetch` throws. Without `AUTH_RESEND_KEY`, or with emails logged, there is none. -/
inductive Mailing where
  | notSent
  | resend (accepts : Bool) (ok : Option Bool)
deriving DecidableEq

/-- A batch already delivered under its key is not delivered again. -/
def deliver (a : Alerts) (batch : AlertBatch) : Alerts :=
  if a.delivered.any fun other => other.showId == batch.showId && other.batch == batch.batch then a
  else { a with delivered := a.delivered ++ [batch] }

def send (now : Time) (a : Alerts) (job : SendJob) : Mailing → Alerts
  | .notSent => a
  | .resend accepts ok =>
    let a := if accepts then a.deliver job.batch else a
    if ok = some false ∧ job.attempt < maxSendAttempts then
      { a with
        sends := a.sends.insert
          { job with attempt := job.attempt + 1, due := now + job.attempt * 30000 } }
    else a

def savePreference (a : Alerts) (userId : UserId) (liveAlerts : Bool) : Alerts :=
  match a.preference userId with
  | some (id, _) => { a with preferences := a.preferences.patch id fun p => { p with liveAlerts } }
  | none => { a with preferences := a.preferences.insert { userId, liveAlerts } }

def setLiveAlerts (a : Alerts) (userId : Option UserId) (enabled : Bool) :
    Except ErrorCode (Alerts × Unit) := do
  let userId ← requireUserId userId
  match a.site.backend.users.get userId with
  | none => .error .unauthenticated
  | some user =>
    if (a.emails userId).getD [] = [] ∨ user.isAnonymous then .error .unauthenticated
    else .ok (a.savePreference userId enabled, ())

def unsubscribe (a : Alerts) (userId : UserId) : Alerts :=
  match a.site.backend.users.get userId with
  | none => a
  | some _ => a.savePreference userId false

/-- A mutation that fails writes nothing. -/
def commit {α : Type} (a : Alerts) : Except ErrorCode (Alerts × α) → Alerts
  | .ok (after, _) => after
  | .error _ => a

end Alerts

inductive AlertOp where
  | site (op : SiteOp)
  /-- The auth library's writes to the users. -/
  | setEmail (userId : UserId) (email : Option Text)
  | follow (start : Fin shards) (userId : Option UserId) (username : Text)
  | unfollow (start : Fin shards) (userId : Option UserId) (username : Text)
  | setLiveAlerts (userId : Option UserId) (enabled : Bool)
  | unsubscribe (userId : UserId)
  | collect (time : Time) (job : CollectJob)
  | send (id : Nat) (mailing : Alerts.Mailing)

def Alerts.step (web : Web) (toLowerCase : Text → Text) (a : Alerts) (input : Ctx × AlertOp) :
    Alerts :=
  let now := input.1.now
  match input.2 with
  | .site op => { a with site := a.site.step web (input.1, op) }
  | .setEmail userId email =>
    { a with emails := fun id => if id = userId then email else a.emails id }
  | .follow start userId username =>
    a.commit (a.setFollow now start toLowerCase userId username true)
  | .unfollow start userId username =>
    a.commit (a.setFollow now start toLowerCase userId username false)
  | .setLiveAlerts userId enabled => a.commit (a.setLiveAlerts userId enabled)
  | .unsubscribe userId => a.unsubscribe userId
  | .collect time job =>
    if (time, job) ∈ a.site.collects ∧ time ≤ now then (a.dequeue (time, job)).collect now job
    else a
  | .send id mailing =>
    match a.sends.get id with
    | none => a
    | some job =>
      if now < job.due then a
      else { a with sends := a.sends.delete id }.send now job mailing

end Bling
