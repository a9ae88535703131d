import Bling.Library.Paging
import Bling.Library.Groups
import Bling.Social.Mirror

set_option autoImplicit false

namespace Bling

open Library

/-! Visitors of channel pages, from `channels.ts`. A heartbeat writes its visitor's own row;
a job per show recounts the rows while anyone is there. -/

def visitorTtlMs : Time := 90000
def visitorCountIntervalMs : Time := 30000
def minHeartbeatGapMs : Time := 10000
def countPageSize : Nat := 1000

structure ChannelVisit where
  showId : ShowId
  visitorId : UserId
  lastSeenAt : Time
deriving DecidableEq

structure ChannelStats where
  showId : ShowId
  visitors : Nat
  counting : Bool
deriving DecidableEq

/-- Where a visit stands in the index `by_show_seen`, among those of its show. -/
abbrev SeenAt := Time × Nat

/-- A `countVisitors` action waits for its time, reads pages, and stores what it counted. -/
inductive CountStage where
  | scheduled (due : Time)
  | counting (since : Int) (cursor : Option SeenAt) (total : Nat)
  | counted (since : Int) (total : Nat)
deriving DecidableEq

structure CountJob where
  showId : ShowId
  stage : CountStage
deriving DecidableEq

structure Channels where
  site : Site
  visits : Table ChannelVisit
  stats : Table ChannelStats
  jobs : Table CountJob

namespace Channels

def empty : Channels := ⟨.empty, .empty, .empty, .empty⟩

/-- `ctx.scheduler.runAfter` for `countVisitors`. -/
def runAfter (c : Channels) (now delay : Time) (showId : ShowId) : Channels :=
  { c with jobs := c.jobs.insert { showId, stage := .scheduled (now + delay) } }

/-- The show whose page a username leads to. -/
def liveShow (toLowerCase : Text → Text) (s : Site) (username : Text) : Option ShowId :=
  match s.profileByUsername toLowerCase username with
  | none => none
  | some (_, profile) => if profile.published && profile.isLive then profile.liveShowId else none

/-- Extra tabs and fast reloads do not cost a write. -/
def visit (now : Time) (c : Channels) (showId : ShowId) (visitorId : UserId) : Channels :=
  match c.visits.first fun v => v.showId == showId && v.visitorId == visitorId with
  | none => { c with visits := c.visits.insert { showId, visitorId, lastSeenAt := now } }
  | some (id, visit) =>
    if visit.lastSeenAt + minHeartbeatGapMs ≤ now then
      { c with visits := c.visits.patch id fun v => { v with lastSeenAt := now } }
    else c

/-- The first visitor after a quiet spell starts the recounting. -/
def startCounting (now : Time) (c : Channels) (showId : ShowId) : Channels :=
  match c.stats.first fun s => s.showId == showId with
  | none => { c with
      stats := c.stats.insert { showId, visitors := 1, counting := true } }.runAfter now 0 showId
  | some (id, stats) =>
    if stats.counting then c
    else { c with stats := c.stats.patch id fun s =>
      { s with counting := true } }.runAfter now 0 showId

/-- Returns the seconds until the visit expires. -/
def heartbeat (toLowerCase : Text → Text) (now : Time) (c : Channels) (userId : Option UserId)
    (username : Text) : Except ErrorCode (Channels × Nat) := do
  let visitorId ← requireUserId userId
  match liveShow toLowerCase c.site username with
  | none => .error .showNotLive
  | some showId =>
    .ok ((c.visit now showId visitorId).startCounting now showId, visitorTtlMs / 1000)

def seenBefore (a b : SeenAt) : Prop := a.1 < b.1 ∨ (a.1 = b.1 ∧ a.2 < b.2)

instance : DecidableRel seenBefore := fun a b =>
  inferInstanceAs (Decidable (a.1 < b.1 ∨ (a.1 = b.1 ∧ a.2 < b.2)))

def seenAt (row : Nat × ChannelVisit) : SeenAt := (row.2.lastSeenAt, row.1)

/-- The visits of a show in the order of the index `by_show_seen`. -/
def bySeen (c : Channels) (showId : ShowId) (seen : Time → Bool) : List (Nat × ChannelVisit) :=
  inOrder seenBefore seenAt (c.visits.query fun v => v.showId == showId && seen v.lastSeenAt)

/-- The visits a count has still to read. -/
def unread (c : Channels) (showId : ShowId) (since : Int) (cursor : Option SeenAt) :
    List (Nat × ChannelVisit) :=
  beyond seenBefore seenAt (c.bySeen showId fun seen => since < (seen : Int)) cursor

/-- One `countPage`: the next rows behind the cursor. A full page is not known to be the
last one. -/
def countPage (c : Channels) (id : Nat) (showId : ShowId) (since : Int)
    (cursor : Option SeenAt) (total : Nat) : Channels :=
  let page := (c.unread showId since cursor).take countPageSize
  { c with jobs := c.jobs.patch id fun job => { job with
      stage := if page.length < countPageSize then .counted since (total + page.length)
        else .counting since (page.getLast?.map seenAt) (total + page.length) } }

/-- What `storeCount` writes to the show's row of `channelStats`. -/
def storeStats (stats : Table ChannelStats) (showId : ShowId) (live : Bool) (visitors : Nat)
    (counting : Bool) : Table ChannelStats :=
  match stats.first fun s => s.showId == showId with
  | none => if live then stats.insert { showId, visitors, counting } else stats
  | some (id, row) =>
    if live then
      if row.visitors ≠ visitors ∨ row.counting ≠ counting then
        stats.patch id fun s => { s with visitors, counting }
      else stats
    else stats.delete id

/-- Expired visits, all of them once the show is no longer live. -/
def expired (c : Channels) (showId : ShowId) (live : Bool) (since : Int) :
    List (Nat × ChannelVisit) :=
  (c.bySeen showId fun seen => !live || (seen : Int) ≤ since).take countPageSize

def isLive (s : Site) (showId : ShowId) : Bool :=
  (s.backend.shows.get showId).any fun hotline => hotline.status == .live

/-- Keeps counting while anyone is here; the next heartbeat restarts it. -/
def storeCount (now : Time) (c : Channels) (showId : ShowId) (visitors : Nat) (since : Int) :
    Channels :=
  let live := isLive c.site showId
  let counting := live && 0 < visitors
  let gone := c.expired showId live since
  let c := { c with
    stats := storeStats c.stats showId live visitors counting
    visits := gone.foldl (fun table row => table.delete row.1) c.visits }
  if counting || gone.length == countPageSize then
    c.runAfter now (if counting then visitorCountIntervalMs else 0) showId
  else c

/-- The next step of a `countVisitors` action, once its time has come. -/
def advance (now : Time) (c : Channels) (id : Nat) (job : CountJob) : Channels :=
  match job.stage with
  | .scheduled due =>
    if due ≤ now then
      { c with jobs := c.jobs.patch id fun job =>
        { job with stage := .counting ((now : Int) - visitorTtlMs) none 0 } }
    else c
  | .counting since cursor total => c.countPage id job.showId since cursor total
  | .counted since total =>
    { c with jobs := c.jobs.delete id }.storeCount now job.showId total since

/-- A mutation that fails writes nothing. -/
def commit {α : Type} (c : Channels) : Except ErrorCode (Channels × α) → Channels
  | .ok (after, _) => after
  | .error _ => c

end Channels

inductive ChannelOp where
  | site (op : SiteOp)
  | heartbeat (userId : Option UserId) (username : Text)
  | recount (id : Nat)

def Channels.step (web : Web) (toLowerCase : Text → Text) (c : Channels)
    (input : Ctx × ChannelOp) : Channels :=
  match input.2 with
  | .site op => { c with site := c.site.step web (input.1, op) }
  | .heartbeat userId username =>
    c.commit (c.heartbeat toLowerCase input.1.now userId username)
  | .recount id =>
    match c.jobs.get id with
    | none => c
    | some job => c.advance input.1.now id job

end Bling
