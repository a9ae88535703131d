import Bling.Api.Directory
import Bling.Library.Rfc3339

set_option autoImplicit false

namespace Bling.LiveEvents

open Library
open Directory (Bytes Uuid Profile Failure)

/-! The inbox of a viewer: `Notifications` of `store.go`, with its cursors from `social.go`. Times
of the database are in microseconds from 1 March of year 0, UTC. -/

def minute : Int := 60000000

def day : Int := 1440 * minute

/-! ### `social.go` -/

structure Notification where
  id : Bytes
  username : Bytes
  displayName : Bytes
  avatarURL : Bytes
  showID : Uuid
  createdAt : Int
  isLive : Bool
  read : Bool
deriving DecidableEq

structure Notifications where
  items : List Notification
  nextCursor : Bytes
  unreadCount : Nat
  unreadCapped : Bool
deriving DecidableEq

/-- `At` is in nanoseconds. -/
structure NotificationCursor where
  atTime : Int
  id : Int
deriving DecidableEq

/-- The start of year 1. -/
def zeroTime : Int := 306 * Rfc3339.day

/-- The zone in which times are shown, in minutes east of UTC. -/
structure Location where
  offset : Int → Int
  bounded : ∀ time, (offset time).natAbs < 1440

/-- What an object's member does to a cursor; `null` leaves a field as it is. -/
def NotificationCursor.set (c : NotificationCursor) (member : Bytes × Json) :
    Option NotificationCursor :=
  let name := Json.foldName member.1
  match member.2 with
  | .null => some c
  | value =>
    if name = ascii ['A', 'T'] then
      match value with
      | .string raw => (Rfc3339.parse raw).map fun atTime => { c with atTime }
      | _ => none
    else if name = ascii ['I', 'D'] then
      match value with
      | .number text => (Json.toInt64 text).map fun id => { c with id }
      | _ => none
    else some c

/-- `json.Unmarshal`. -/
def NotificationCursor.unmarshal (text : Bytes) : Option NotificationCursor :=
  let empty : NotificationCursor := { atTime := zeroTime, id := 0 }
  match Json.parse text with
  | some (.object members) => members.foldlM NotificationCursor.set empty
  | some .null => some empty
  | _ => none

/-- `json.Marshal`, which fails for a time that has no text. -/
def NotificationCursor.marshal (location : Location) (c : NotificationCursor) : Option Bytes :=
  (Rfc3339.write (location.offset c.atTime) c.atTime).map fun text =>
    Json.encodeObject
      [(ascii ['a', 't'], 34 :: text ++ [34]), (ascii ['i', 'd'], itoa c.id)]

/-- An error leaves nothing to encode. -/
def encodeCursor (location : Location) (c : NotificationCursor) : Bytes :=
  Base64.encode ((c.marshal location).getD [])

def decodeNotificationCursor (raw : Bytes) : Except Failure (Option NotificationCursor) :=
  if raw = [] then .ok none
  else if 256 < raw.length then .error .invalid
  else match (Base64.decode raw).bind NotificationCursor.unmarshal with
    | none => .error .invalid
    | some c => if c.atTime = zeroTime ∨ c.id < 1 then .error .invalid else .ok (some c)

/-! ### `store.go` -/

/-- A row of `creator_follows`. -/
structure Follow where
  followerId : Uuid
  creatorId : Uuid
  createdAt : Int
deriving DecidableEq

/-- A row of `creator_live_events`. -/
structure LiveEvent where
  id : Nat
  creatorId : Uuid
  showId : Uuid
  createdAt : Int
deriving DecidableEq

/-- A row of `notification_reads`. -/
structure NotificationRead where
  userId : Uuid
  eventId : Nat
deriving DecidableEq

/-- The tables at a moment of a year that has four digits, with their primary keys. An event has
the time at which it was written, by a clock that is less than a minute ahead. -/
structure Tables where
  profiles : List Profile
  follows : List Follow
  events : List LiveEvent
  reads : List NotificationRead
  now : Int
  oneProfile : (profiles.map Profile.id).Nodup
  oneFollow : (follows.map fun f => (f.followerId, f.creatorId)).Nodup
  oneEvent : (events.map LiveEvent.id).Nodup
  oneRead : reads.Nodup
  ids : ∀ e ∈ events, 0 < e.id ∧ e.id < 2 ^ 63
  past : ∀ e ∈ events, e.createdAt < now + minute
  begun : 731 * day ≤ now
  ends : now + minute ≤ Gregorian.monthStart (Gregorian.monthIndex 9999 1) * day

/-- `(created_at, id)`, compared row-wise. -/
def rowLess (a b : Int × Int) : Prop := a.1 < b.1 ∨ (a.1 = b.1 ∧ a.2 < b.2)

instance : DecidableRel rowLess := fun _ _ => inferInstanceAs (Decidable (_ ∨ _))

/-- `ORDER BY e.created_at DESC, e.id DESC`. -/
def newest (a b : Int × Int) : Prop := rowLess b a

instance : DecidableRel newest := fun a b => inferInstanceAs (Decidable (rowLess b a))

def LiveEvent.position (e : LiveEvent) : Int × Int := (e.createdAt, e.id)

namespace Tables

/-- The creators that a viewer follows, of those with a published profile. -/
def followed (db : Tables) (id : Uuid) : List (Follow × Profile) :=
  (db.follows.filter fun f => f.followerId == id).flatMap fun f =>
    (db.profiles.filter fun p => p.id == f.creatorId && p.published).map fun p => (f, p)

/-- The events of a creator since the follow, and of the last 30 days. -/
def eventsSince (db : Tables) (f : Follow) : List LiveEvent :=
  db.events.filter fun e => e.creatorId == f.creatorId && decide (f.createdAt ≤ e.createdAt) &&
    decide (db.now - 30 * day < e.createdAt)

def isRead (db : Tables) (id : Uuid) (e : LiveEvent) : Bool :=
  db.reads.any fun r => r.userId == id && r.eventId == e.id

/-- `LEFT JOIN notification_reads`, with whether there is a row. -/
def joinReads (db : Tables) (id : Uuid) (e : LiveEvent) : List Bool :=
  match db.reads.filter fun r => r.userId == id && r.eventId == e.id with
  | [] => [false]
  | found => found.map fun _ => true

def notification (p : Profile) (e : LiveEvent) (read : Bool) : Notification where
  id := itoa e.id
  username := p.username
  displayName := p.displayName
  avatarURL := p.avatarURL
  showID := e.showId
  createdAt := e.createdAt
  isLive := p.liveShowID == some e.showId && p.isLive
  read := read

/-- Up to 25 events of each creator, and of these the first 25. -/
def selectEvents (db : Tables) (id : Uuid) (before : Int × Int) :
    List (LiveEvent × Notification) :=
  let rows := (db.followed id).flatMap fun g =>
    ((inOrder newest LiveEvent.position
      ((db.eventsSince g.1).filter fun e => rowLess e.position before)).take 25).flatMap fun e =>
        (db.joinReads id e).map fun read => (e, notification g.2 e read)
  (inOrder newest (fun row => row.1.position) rows).take 25

/-- Up to 100 events of each creator, and up to 100 of these. -/
def countUnread (db : Tables) (id : Uuid) : Nat :=
  (((db.followed id).flatMap fun g =>
    (inOrder newest LiveEvent.position
      ((db.eventsSince g.1).filter fun e => !db.isRead id e)).take 100).take 100).length

/-- Row 25 tells whether there is a next page. -/
def cutPage (location : Location) (items : List Notification) (unreadCount : Nat) :
    Notifications where
  items := if 24 < items.length then items.take 24 else items
  nextCursor :=
    if 24 < items.length then
      match items[23]? with
      | none => []
      | some last =>
        let eventID := (atoi last.id).getD 0
        encodeCursor location { atTime := last.createdAt * 1000, id := eventID }
    else []
  unreadCount := unreadCount
  unreadCapped := unreadCount == 100

def notifications (location : Location) (db : Tables) (id : Uuid) (cursorRaw : Bytes) :
    Except Failure Notifications := do
  let cursor ← decodeNotificationCursor cursorRaw
  let before := match cursor with
    | none => (db.now + minute, 9223372036854775807)
    | some c => (c.atTime / 1000, c.id)
  .ok (cutPage location ((db.selectEvents id before).map Prod.snd) (db.countUnread id))

end Tables

end Bling.LiveEvents
