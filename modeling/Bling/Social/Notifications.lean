import Bling.Library.Groups
import Bling.Library.Paging
import Bling.Social.Site

set_option autoImplicit false

namespace Bling

open Library

/-! "Creator went live" notifications, from `notifications.ts`. There is one live event for each
show, and a viewer's query gathers those of the creators they follow. -/

/-- A row of `follows`, with its `_creationTime`. -/
structure DatedFollow where
  followerId : UserId
  creatorId : UserId
  createdAt : Time
deriving DecidableEq

structure NotificationRead where
  userId : UserId
  eventId : Nat
deriving DecidableEq

/-- The live events are those of the site. `readLimits` are the rows under `reads:<userId>`. -/
structure Feed where
  site : Site
  follows : Table DatedFollow
  notificationReads : Table NotificationRead
  readLimits : Table RateLimit

structure Candidate where
  eventId : Nat
  event : LiveEvent
  creator : CreatorProfile
deriving DecidableEq

structure NotificationItem where
  eventId : Nat
  username : Text
  displayName : Text
  avatarUrl : Text
  showId : ShowId
  createdAt : Time
  isLive : Bool
  read : Bool
deriving DecidableEq

/-- `before` is absent on the last page. -/
structure NotificationPage where
  items : List NotificationItem
  before : Option Time
  unreadCount : Nat
  unreadCapped : Bool
deriving DecidableEq

namespace Feed

def notificationWindowMs : Time := 30 * 24 * 60 * 60000
def page : Nat := 24
def perCreator : Nat := 25
def unreadCap : Nat := 100
def unreadScan : Nat := 500
def pruneBatch : Nat := 500

def empty : Feed := ⟨.empty, .empty, .empty, .empty⟩

def avatarUrl (web : Web) (s : Feed) (profile : CreatorProfile) : Text :=
  match profile.avatarStorageId with
  | some storageId => (s.site.getUrl web storageId).getD []
  | none => profile.avatarUrl

/-! ### `list` -/

/-- The newest events of one followed creator. -/
def recentEvents (now : Time) (s : Feed) (follow : DatedFollow) : List (Nat × LiveEvent) :=
  let since := max follow.createdAt (now - notificationWindowMs)
  (inOrder (fun a b : Time => b < a) (fun row : Nat × LiveEvent => row.2.createdAt)
    (s.site.liveEvents.query fun e => e.creatorId == follow.creatorId && since ≤ e.createdAt)).take
      perCreator

def candidates (now : Time) (s : Feed) (follow : DatedFollow) : List Candidate :=
  match s.site.profileForUser follow.creatorId with
  | none => []
  | some (_, creator) =>
    if creator.published then
      (s.recentEvents now follow).map fun row => { eventId := row.1, event := row.2, creator }
    else []

/-- The follows are in the order of `by_follower_creator`. -/
def visibleEvents (now : Time) (s : Feed) (userId : UserId) : List Candidate :=
  let follows := inOrder (fun a b : UserId => a < b) (fun row : Nat × DatedFollow =>
    row.2.creatorId) (s.follows.query fun f => f.followerId == userId)
  inOrder (fun a b : Time => b < a) (fun c : Candidate => c.event.createdAt)
    (follows.flatMap fun row => s.candidates now row.2)

def isRead (s : Feed) (userId : UserId) (eventId : Nat) : Bool :=
  (s.notificationReads.first fun r => r.userId == userId && r.eventId == eventId).isSome

def item (web : Web) (s : Feed) (userId : UserId) (candidate : Candidate) : NotificationItem where
  eventId := candidate.eventId
  username := candidate.creator.username
  displayName := candidate.creator.displayName
  avatarUrl := s.avatarUrl web candidate.creator
  showId := candidate.event.showId
  createdAt := candidate.event.createdAt
  isLive := candidate.creator.isLive && candidate.creator.liveShowId == some candidate.event.showId
  read := s.isRead userId candidate.eventId

/-- How many are unread, and how many were looked at to find out. -/
def countUnread (s : Feed) (userId : UserId) : List Candidate → Nat → Nat → Nat × Nat
  | [], unreadCount, scanned => (unreadCount, scanned)
  | candidate :: rest, unreadCount, scanned =>
    if unreadCap ≤ unreadCount ∨ unreadScan ≤ scanned then (unreadCount, scanned)
    else
      s.countUnread userId rest
        (if s.isRead userId candidate.eventId then unreadCount else unreadCount + 1) (scanned + 1)

def list (web : Web) (now : Time) (s : Feed) (userId : Option UserId) (before : Option Time) :
    Except ErrorCode NotificationPage := do
  let userId ← requireCreatorId s.site.backend userId
  let all := s.visibleEvents now userId
  let earlier := all.filter fun c => before.all fun bound => c.event.createdAt < bound
  let rows := earlier.take (page + 1)
  let items := (rows.take page).map (s.item web userId)
  let (unreadCount, scanned) := s.countUnread userId all 0 0
  .ok {
    items
    before := if page < rows.length then items[page - 1]?.map (·.createdAt) else none
    unreadCount
    unreadCapped := unreadCap ≤ unreadCount || unreadScan ≤ scanned }

/-- The pages, as they are asked for one after the other. -/
def pages (web : Web) (now : Time) (s : Feed) (userId : Option UserId) (before : Option Time) :
    List NotificationItem × Option Time :=
  match s.list web now userId before with
  | .ok answer => (answer.items, answer.before)
  | .error _ => ([], none)

/-! ### `markRead` -/

def followOf (s : Feed) (userId creatorId : UserId) : Option (Nat × DatedFollow) :=
  s.follows.first fun f => f.followerId == userId && f.creatorId == creatorId

/-- One event of a call. Events the user can't see are ignored. -/
def mark (now : Time) (userId : UserId) (s : Feed) (eventId : Nat) : Feed :=
  match s.site.liveEvents.get eventId with
  | none => s
  | some event =>
    if event.createdAt < now - notificationWindowMs then s
    else
      match s.followOf userId event.creatorId with
      | none => s
      | some (_, follow) =>
        if event.createdAt < follow.createdAt then s
        else if (s.site.profileForUser event.creatorId).all fun row => !row.2.published then s
        else if s.isRead userId eventId then s
        else { s with notificationReads := s.notificationReads.insert { userId, eventId } }

def markRead (now : Time) (s : Feed) (userId : Option UserId) (ids : List Nat) :
    Except ErrorCode Feed := do
  let userId ← requireCreatorId s.site.backend userId
  if ids.length < 1 ∨ 50 < ids.length then .error .validationFailed
  else
    let readLimits ← rateLimit now s.readLimits userId 120 60000
    .ok (ids.eraseDups.foldl (mark now userId) { s with readLimits })

/-! ### `prune` -/

def receiptsOf (s : Feed) (eventId : Nat) : List (Nat × NotificationRead) :=
  s.notificationReads.query fun r => r.eventId == eventId

def deleteReceipts (s : Feed) (receipts : List (Nat × NotificationRead)) : Feed :=
  { s with
    notificationReads := receipts.foldl (fun t row => t.delete row.1) s.notificationReads }

def deleteEvent (s : Feed) (eventId : Nat) : Feed :=
  { s with site := { s.site with liveEvents := s.site.liveEvents.delete eventId } }

/-- Receipts go first, and an event only once it has none. `deleted` counts the receipts. -/
def pruneEvents (s : Feed) : List (Nat × LiveEvent) → Nat → Feed × Nat
  | [], deleted => (s, deleted)
  | event :: rest, deleted =>
    let receipts := (s.receiptsOf event.1).take (pruneBatch - deleted)
    let s := s.deleteReceipts receipts
    let deleted := deleted + receipts.length
    if pruneBatch ≤ deleted then (s, deleted)
    else pruneEvents (s.deleteEvent event.1) rest deleted

def oldEvents (now : Time) (s : Feed) : List (Nat × LiveEvent) :=
  (inOrder (fun a b : Time => a < b) (fun row : Nat × LiveEvent => row.2.createdAt)
    (s.site.liveEvents.query fun e => e.createdAt < now - notificationWindowMs)).take 50

/-- Whether it schedules itself again comes with the result. -/
def prune (now : Time) (s : Feed) : Feed × Bool :=
  let old := s.oldEvents now
  let (s, deleted) := s.pruneEvents old 0
  (s, pruneBatch ≤ deleted || old.length == 50)

/-! ### What a viewer can see -/

/-- The viewer follows the creator, who is published, since before the event, and the event is in
the window. -/
def eligible (now : Time) (s : Feed) (userId : UserId) (e : LiveEvent) : Bool :=
  (s.follows.rows.any fun row => row.2.followerId == userId && row.2.creatorId == e.creatorId &&
    row.2.createdAt ≤ e.createdAt) &&
  (s.site.profileForUser e.creatorId).any (·.2.published) &&
  now - notificationWindowMs ≤ e.createdAt

/-- One of the newest of its creator. -/
def visible (now : Time) (s : Feed) (userId : UserId) (e : LiveEvent) : Bool :=
  s.eligible now userId e &&
  (s.site.liveEvents.query fun other => other.creatorId == e.creatorId &&
    s.eligible now userId other && e.createdAt < other.createdAt).length < perCreator

variable {s : Feed} {now : Time} {userId : UserId}

/-- The events of a query keep their distinct times. -/
theorem query_distinct (distinct : s.site.liveEvents.OnePer (·.createdAt)) (p : LiveEvent → Bool) :
    ((s.site.liveEvents.query p).map (·.2.createdAt)).Nodup := by
  apply List.pairwise_map.mpr
  apply (s.site.liveEvents.ordered.filter _).imp_of_mem
  intro a b first second earlier same
  have one := (s.site.liveEvents.mem_rows_iff a.1 a.2).mp (List.mem_filter.mp first).1
  have other := (s.site.liveEvents.mem_rows_iff b.1 b.2).mp (List.mem_filter.mp second).1
  exact Nat.ne_of_lt earlier (distinct a.1 b.1 a.2 b.2 one other same)

theorem mem_recentEvents {follow : DatedFollow} (distinct : s.site.liveEvents.OnePer (·.createdAt))
    {id : Nat} {e : LiveEvent} : (id, e) ∈ s.recentEvents now follow ↔
      s.site.liveEvents.get id = some e ∧ e.creatorId = follow.creatorId ∧
      max follow.createdAt (now - notificationWindowMs) ≤ e.createdAt ∧
      (s.site.liveEvents.query fun other => other.creatorId == follow.creatorId &&
        max follow.createdAt (now - notificationWindowMs) ≤ other.createdAt &&
        e.createdAt < other.createdAt).length < perCreator := by
  have order : StrictOrder fun a b : Time => b < a := StrictOrder.lt.swap
  rw [recentEvents, mem_take_inOrder order (query_distinct distinct _), Table.mem_query]
  simp only [Table.query, List.filter_filter, Bool.and_eq_true, beq_iff_eq, decide_eq_true_eq,
    and_assoc, Bool.and_comm]

theorem eligible_iff {e : LiveEvent} : s.eligible now userId e = true ↔
    (∃ id f, s.follows.get id = some f ∧ f.followerId = userId ∧ f.creatorId = e.creatorId ∧
      f.createdAt ≤ e.createdAt) ∧
    (∃ id p, s.site.profileForUser e.creatorId = some (id, p) ∧ p.published = true) ∧
    now - notificationWindowMs ≤ e.createdAt := by
  have followed : (s.follows.rows.any fun row => row.2.followerId == userId &&
      row.2.creatorId == e.creatorId && row.2.createdAt ≤ e.createdAt) = true ↔
      ∃ id f, s.follows.get id = some f ∧ f.followerId = userId ∧ f.creatorId = e.creatorId ∧
        f.createdAt ≤ e.createdAt := by
    simp only [List.any_eq_true, Prod.exists, Table.mem_rows_iff, Bool.and_eq_true, beq_iff_eq,
      decide_eq_true_eq, and_assoc]
  have published : (s.site.profileForUser e.creatorId).any (·.2.published) = true ↔
      ∃ id p, s.site.profileForUser e.creatorId = some (id, p) ∧ p.published = true := by
    simp [Option.any_eq_true]
  rw [eligible, Bool.and_eq_true, Bool.and_eq_true, followed, published, decide_eq_true_eq,
    and_assoc]

/-- With the one follow of a creator, being eligible is being in reach of it. -/
theorem eligible_of_follow
    (once : s.follows.OnePer fun f => (f.followerId, f.creatorId)) {id : Nat} {f : DatedFollow}
    (found : s.follows.get id = some f) {i : Nat} {p : CreatorProfile}
    (profiled : s.site.profileForUser f.creatorId = some (i, p)) (published : p.published = true)
    {e : LiveEvent} (mine : e.creatorId = f.creatorId) :
    s.eligible now f.followerId e = true ↔
      max f.createdAt (now - notificationWindowMs) ≤ e.createdAt := by
  rw [eligible_iff, Nat.max_le]
  constructor
  · rintro ⟨⟨id', f', found', viewer, creator, since⟩, _, within⟩
    have same := once id' id f' f found' found (Prod.ext viewer (creator.trans mine))
    subst same
    obtain rfl := Option.some.inj (found'.symm.trans found)
    exact ⟨since, within⟩
  · rintro ⟨since, within⟩
    exact ⟨⟨id, f, found, rfl, mine.symm, since⟩, ⟨i, p, mine ▸ profiled, published⟩, within⟩

theorem visible_of_follow
    (once : s.follows.OnePer fun f => (f.followerId, f.creatorId)) {id : Nat} {f : DatedFollow}
    (found : s.follows.get id = some f) {i : Nat} {p : CreatorProfile}
    (profiled : s.site.profileForUser f.creatorId = some (i, p)) (published : p.published = true)
    {e : LiveEvent} (mine : e.creatorId = f.creatorId) :
    s.visible now f.followerId e = true ↔
      max f.createdAt (now - notificationWindowMs) ≤ e.createdAt ∧
      (s.site.liveEvents.query fun other => other.creatorId == f.creatorId &&
        max f.createdAt (now - notificationWindowMs) ≤ other.createdAt &&
        e.createdAt < other.createdAt).length < perCreator := by
  have same : (s.site.liveEvents.query fun other => other.creatorId == e.creatorId &&
      s.eligible now f.followerId other && e.createdAt < other.createdAt) =
      s.site.liveEvents.query fun other => other.creatorId == f.creatorId &&
        max f.createdAt (now - notificationWindowMs) ≤ other.createdAt &&
        e.createdAt < other.createdAt := by
    apply List.filter_congr
    intro row _
    rw [mine]
    by_cases here : row.2.creatorId = f.creatorId
    · rw [Bool.eq_iff_iff]
      simp only [Bool.and_eq_true, eligible_of_follow once found profiled published here,
        decide_eq_true_eq]
    · have off : (row.2.creatorId == f.creatorId) = false := beq_eq_false_iff_ne.mpr here
      simp only [off, Bool.false_and]
  rw [visible, same, Bool.and_eq_true, eligible_of_follow once found profiled published mine,
    decide_eq_true_eq]

theorem mem_candidates
    (distinct : s.site.liveEvents.OnePer (·.createdAt))
    (once : s.follows.OnePer fun f => (f.followerId, f.creatorId)) {id : Nat} {f : DatedFollow}
    (found : s.follows.get id = some f) {c : Candidate} :
    c ∈ s.candidates now f ↔ s.site.liveEvents.get c.eventId = some c.event ∧
      c.event.creatorId = f.creatorId ∧ s.visible now f.followerId c.event = true ∧
      (s.site.profileForUser f.creatorId).map Prod.snd = some c.creator := by
  unfold candidates
  split
  · rename_i unknown
    simp [unknown]
  · rename_i i p profiled
    rw [profiled]
    by_cases published : p.published = true
    · rw [if_pos published, List.mem_map]
      constructor
      · rintro ⟨⟨key, e⟩, recent, rfl⟩
        obtain ⟨held, mine, since, few⟩ := (mem_recentEvents distinct).mp recent
        exact ⟨held, mine,
          (visible_of_follow once found profiled published mine).mpr ⟨since, few⟩, rfl⟩
      · rintro ⟨held, mine, seen, creator⟩
        obtain ⟨since, few⟩ := (visible_of_follow once found profiled published mine).mp seen
        refine ⟨(c.eventId, c.event), (mem_recentEvents distinct).mpr ⟨held, mine, since, few⟩, ?_⟩
        cases Option.some.inj creator
        rfl
    · rw [if_neg published]
      constructor
      · intro none
        cases none
      · rintro ⟨_, mine, seen, _⟩
        rw [visible, Bool.and_eq_true] at seen
        obtain ⟨_, ⟨i', p', profiled', shown⟩, _⟩ := eligible_iff.mp seen.1
        rw [mine, profiled] at profiled'
        cases profiled'
        exact absurd shown published

theorem mem_visibleEvents (distinct : s.site.liveEvents.OnePer (·.createdAt))
    (once : s.follows.OnePer fun f => (f.followerId, f.creatorId)) {c : Candidate} :
    c ∈ s.visibleEvents now userId ↔ s.site.liveEvents.get c.eventId = some c.event ∧
      s.visible now userId c.event = true ∧
      (s.site.profileForUser c.event.creatorId).map Prod.snd = some c.creator := by
  simp only [visibleEvents, mem_inOrder, List.mem_flatMap, Prod.exists, Table.mem_query, beq_iff_eq]
  constructor
  · rintro ⟨id, f, ⟨found, rfl⟩, member⟩
    obtain ⟨held, mine, seen, creator⟩ := (mem_candidates distinct once found).mp member
    exact ⟨held, seen, mine ▸ creator⟩
  · rintro ⟨held, seen, creator⟩
    have within := seen
    rw [visible, Bool.and_eq_true] at within
    obtain ⟨⟨id, f, found, rfl, mine, _⟩, _⟩ := eligible_iff.mp within.1
    exact ⟨id, f, ⟨found, rfl⟩,
      (mem_candidates distinct once found).mpr ⟨held, mine.symm, seen, mine ▸ creator⟩⟩

/-! ### Pages -/

theorem visibleEvents_apart (distinct : s.site.liveEvents.OnePer (·.createdAt))
    (once : s.follows.OnePer fun f => (f.followerId, f.creatorId)) :
    ((inOrder (fun a b : UserId => a < b) (fun row : Nat × DatedFollow => row.2.creatorId)
      (s.follows.query fun f => f.followerId == userId)).flatMap fun row =>
        s.candidates now row.2).Pairwise fun a b => a.event.createdAt ≠ b.event.createdAt := by
  have held {row : Nat × DatedFollow} (member : row ∈ s.follows.query fun f =>
      f.followerId == userId) : s.follows.get row.1 = some row.2 :=
    ((s.follows.mem_query _ row.1 row.2).mp member).1
  rw [List.pairwise_flatMap]
  constructor
  · intro row member
    have found := held (mem_inOrder _ _ |>.mp member)
    unfold candidates
    split
    · exact List.Pairwise.nil
    · split
      · rw [List.pairwise_map, recentEvents]
        have sorted := inOrder_pairwise StrictOrder.lt.swap (query_distinct distinct fun e =>
          e.creatorId == row.2.creatorId &&
            max row.2.createdAt (now - notificationWindowMs) ≤ e.createdAt)
        apply (sorted.sublist (List.take_sublist _ _)).imp
        intro a b later
        exact Nat.ne_of_gt later
      · exact List.Pairwise.nil
  · have creators : (s.follows.query fun f => f.followerId == userId).Pairwise fun a b =>
        a.2.creatorId ≠ b.2.creatorId := by
      apply (s.follows.ordered.filter _).imp_of_mem
      intro a b first second earlier same
      have viewers : a.2.followerId = b.2.followerId := by
        rw [beq_iff_eq.mp (List.mem_filter.mp first).2, beq_iff_eq.mp (List.mem_filter.mp second).2]
      exact Nat.ne_of_lt earlier
        (once a.1 b.1 a.2 b.2 (held first) (held second) (Prod.ext viewers same))
    have moved : (inOrder (fun a b : UserId => a < b) (fun row : Nat × DatedFollow =>
        row.2.creatorId) (s.follows.query fun f => f.followerId == userId)).Pairwise
          fun a b => a.2.creatorId ≠ b.2.creatorId :=
      ((inOrder_perm _ _ _).pairwise_iff (fun apart => Ne.symm apart)).mpr creators
    apply moved.imp_of_mem
    intro a b first second apart x atX y atY same
    have foundA := held (mem_inOrder _ _ |>.mp first)
    have foundB := held (mem_inOrder _ _ |>.mp second)
    obtain ⟨heldX, mineX, _⟩ := (mem_candidates distinct once foundA).mp atX
    obtain ⟨heldY, mineY, _⟩ := (mem_candidates distinct once foundB).mp atY
    have one := distinct x.eventId y.eventId x.event y.event heldX heldY same
    rw [one, heldY] at heldX
    exact apart (by rw [← mineX, ← mineY, Option.some.inj heldX])

theorem visibleEvents_newestFirst (distinct : s.site.liveEvents.OnePer (·.createdAt))
    (once : s.follows.OnePer fun f => (f.followerId, f.creatorId)) :
    (s.visibleEvents now userId).Pairwise fun a b => b.event.createdAt < a.event.createdAt :=
  inOrder_pairwise StrictOrder.lt.swap
    (List.pairwise_map.mpr (visibleEvents_apart distinct once))

theorem visibleEvents_nodup (distinct : s.site.liveEvents.OnePer (·.createdAt))
    (once : s.follows.OnePer fun f => (f.followerId, f.creatorId)) :
    ((s.visibleEvents now userId).map (·.eventId)).Nodup := by
  apply List.pairwise_map.mpr
  apply (visibleEvents_newestFirst distinct once).imp_of_mem
  intro a b first second later same
  have one := ((mem_visibleEvents distinct once).mp first).1
  rw [same, ((mem_visibleEvents distinct once).mp second).1] at one
  rw [Option.some.inj one] at later
  exact Nat.lt_irrefl _ later

theorem list_eq (web : Web) {viewer : Option UserId}
    (signedIn : requireCreatorId s.site.backend viewer = .ok userId) (before : Option Time) :
    s.list web now viewer before = .ok {
      items := ((beyond (fun a b : Time => b < a) (fun c : Candidate => c.event.createdAt)
        (s.visibleEvents now userId) before).take page).map (s.item web userId)
      before :=
        if page < (beyond (fun a b : Time => b < a) (fun c : Candidate => c.event.createdAt)
          (s.visibleEvents now userId) before).length then
          (((beyond (fun a b : Time => b < a) (fun c : Candidate => c.event.createdAt)
            (s.visibleEvents now userId) before).take page).map (s.item web userId)).getLast?.map
              (·.createdAt)
        else none
      unreadCount := (s.countUnread userId (s.visibleEvents now userId) 0 0).1
      unreadCapped :=
        unreadCap ≤ (s.countUnread userId (s.visibleEvents now userId) 0 0).1 ||
          unreadScan ≤ (s.countUnread userId (s.visibleEvents now userId) 0 0).2 } := by
  have earlier : (s.visibleEvents now userId).filter (fun c => before.all fun bound =>
      c.event.createdAt < bound) = beyond (fun a b : Time => b < a)
        (fun c : Candidate => c.event.createdAt) (s.visibleEvents now userId) before := by
    cases before with
    | none => exact List.filter_eq_self.mpr fun _ _ => rfl
    | some bound => rfl
  unfold list
  rw [signedIn]
  simp only [bind, Except.bind, earlier, List.take_take, Nat.min_eq_left (Nat.le_succ page)]
  congr 2
  generalize beyond (fun a b : Time => b < a) (fun c : Candidate => c.event.createdAt)
    (s.visibleEvents now userId) before = rows
  by_cases more : page < rows.length
  · rw [if_pos more, if_pos (by rw [List.length_take]; omega), List.getLast?_eq_getElem?,
      List.length_map, List.length_take, Nat.min_eq_left (Nat.le_of_lt more)]
  · rw [if_neg more, if_neg (by rw [List.length_take]; omega)]

/-- Following the cursors reads all that can be seen. -/
theorem pages_complete (web : Web) {viewer : Option UserId}
    (signedIn : requireCreatorId s.site.backend viewer = .ok userId)
    (distinct : s.site.liveEvents.OnePer (·.createdAt))
    (once : s.follows.OnePer fun f => (f.followerId, f.creatorId)) {fuel : Nat}
    (enough : (s.visibleEvents now userId).length < fuel) :
    Library.follow (s.pages web now viewer) fuel none =
      some ((s.visibleEvents now userId).map (s.item web userId)) := by
  have ordered : ((s.visibleEvents now userId).map (s.item web userId)).Pairwise
      fun a b => b.createdAt < a.createdAt :=
    List.pairwise_map.mpr (visibleEvents_newestFirst distinct once)
  have moved (before : Option Time) : beyond (fun a b : Time => b < a)
      (fun i : NotificationItem => i.createdAt)
        ((s.visibleEvents now userId).map (s.item web userId)) before =
      (beyond (fun a b : Time => b < a) (fun c : Candidate => c.event.createdAt)
        (s.visibleEvents now userId) before).map (s.item web userId) := by
    cases before with
    | none => rfl
    | some bound => exact List.filter_map
  show Library.follow (s.pages web now viewer) fuel none =
    some (beyond (fun a b : Time => b < a) (fun i : NotificationItem => i.createdAt)
      ((s.visibleEvents now userId).map (s.item web userId)) none)
  apply follow_eq StrictOrder.lt.swap ordered (show 0 < page by decide)
  · intro before
    simp only [pages, list_eq web signedIn before, moved, List.map_take]
  · intro before
    simp only [pages, list_eq web signedIn before, moved, List.map_take, List.length_map]
  · rw [moved, List.length_map]
    exact enough

/-! ### Unread counts -/

theorem countUnread_eq {rows : List Candidate} {unreadCount scanned : Nat}
    (unread : (s.countUnread userId rows unreadCount scanned).1 < unreadCap)
    (looked : (s.countUnread userId rows unreadCount scanned).2 < unreadScan) :
    (s.countUnread userId rows unreadCount scanned).1 =
      unreadCount + (rows.filter fun c => !s.isRead userId c.eventId).length := by
  induction rows generalizing unreadCount scanned with
  | nil => rfl
  | cons c rest ih =>
      rw [countUnread] at unread looked ⊢
      by_cases full : unreadCap ≤ unreadCount ∨ unreadScan ≤ scanned
      · rw [if_pos full] at unread looked
        dsimp only at unread looked
        omega
      · rw [if_neg full] at unread looked ⊢
        rw [ih unread looked, List.filter_cons]
        cases s.isRead userId c.eventId with
        | true => rfl
        | false =>
            simp only [Bool.false_eq_true, if_false, Bool.not_false, if_true, List.length_cons]
            omega

/-- The rows that are visible are those that are gathered. -/
theorem visibleEvents_perm (distinct : s.site.liveEvents.OnePer (·.createdAt))
    (once : s.follows.OnePer fun f => (f.followerId, f.creatorId)) :
    ((s.visibleEvents now userId).map fun c => (c.eventId, c.event)).Perm
      (s.site.liveEvents.query (s.visible now userId)) := by
  have first : ((s.visibleEvents now userId).map fun c => (c.eventId, c.event)).Nodup := by
    apply List.Nodup.of_map Prod.fst
    rw [List.map_map]
    exact visibleEvents_nodup distinct once
  have second : (s.site.liveEvents.query (s.visible now userId)).Nodup := by
    apply (s.site.liveEvents.ordered.filter _).imp
    rintro a b earlier rfl
    exact Nat.lt_irrefl _ earlier
  rw [List.perm_ext_iff_of_nodup first second]
  rintro ⟨id, e⟩
  rw [List.mem_map, Table.mem_query]
  constructor
  · rintro ⟨c, member, same⟩
    cases same
    obtain ⟨held, seen, _⟩ := (mem_visibleEvents distinct once).mp member
    exact ⟨held, seen⟩
  · rintro ⟨held, seen⟩
    have within := seen
    rw [visible, Bool.and_eq_true] at within
    obtain ⟨_, ⟨i, p, profiled, _⟩, _⟩ := eligible_iff.mp within.1
    refine ⟨⟨id, e, p⟩, (mem_visibleEvents distinct once).mpr ⟨held, seen, ?_⟩, rfl⟩
    rw [profiled]
    rfl

/-! ### Receipts -/

theorem mark_site (now : Time) (userId : UserId) (s : Feed) (eventId : Nat) :
    (s.mark now userId eventId).site = s.site ∧
      (s.mark now userId eventId).follows = s.follows := by
  unfold mark
  repeat' split
  all_goals exact ⟨rfl, rfl⟩

/-- A receipt is there, and stays. -/
theorem isRead_iff {eventId : Nat} : s.isRead userId eventId = true ↔
    ∃ id, s.notificationReads.get id = some { userId, eventId } := by
  rw [isRead, Table.first_isSome_iff]
  constructor
  · rintro ⟨id, ⟨viewer, event⟩, found, same⟩
    simp only [Bool.and_eq_true, beq_iff_eq] at same
    obtain ⟨rfl, rfl⟩ := same
    exact ⟨id, found⟩
  · rintro ⟨id, found⟩
    exact ⟨id, _, found, by simp⟩

theorem mark_isRead {eventId other : Nat} (read : s.isRead userId other = true) :
    (s.mark now userId eventId).isRead userId other = true := by
  unfold mark
  repeat' split
  all_goals first
    | exact read
    | skip
  obtain ⟨id, found⟩ := isRead_iff.mp read
  exact isRead_iff.mpr ⟨id, Table.get_insert_of_some found _⟩

theorem foldl_mark_isRead {ids : List Nat} {other : Nat} (read : s.isRead userId other = true) :
    (ids.foldl (mark now userId) s).isRead userId other = true := by
  induction ids generalizing s with
  | nil => exact read
  | cons id rest ih => exact ih (mark_isRead read)

theorem eligible_congr {other : Feed} (site : other.site = s.site)
    (follows : other.follows = s.follows) (e : LiveEvent) :
    other.eligible now userId e = s.eligible now userId e := by
  unfold eligible
  rw [site, follows]

/-- An event the viewer is eligible for is marked. -/
theorem mark_eligible (once : s.follows.OnePer fun f => (f.followerId, f.creatorId))
    {eventId : Nat} {e : LiveEvent} (held : s.site.liveEvents.get eventId = some e)
    (reach : s.eligible now userId e = true) :
    (s.mark now userId eventId).isRead userId eventId = true := by
  obtain ⟨⟨id, f, found, viewer, creator, since⟩, ⟨i, p, profiled, published⟩, within⟩ :=
    eligible_iff.mp reach
  have follow : s.followOf userId e.creatorId = some (id, f) := by
    apply Table.first_of_unique found
    · simp [viewer, creator]
    · intro key g other same
      simp only [Bool.and_eq_true, beq_iff_eq] at same
      exact once key id g f other found
        (Prod.ext (same.1.trans viewer.symm) (same.2.trans creator.symm))
  unfold mark
  rw [held]
  dsimp only
  rw [if_neg (Nat.not_lt.mpr within), follow]
  dsimp only
  rw [if_neg (Nat.not_lt.mpr since), profiled]
  simp only [Option.all_some, published, Bool.not_true, Bool.false_eq_true, if_false]
  split
  · rename_i read
    exact read
  · exact isRead_iff.mpr ⟨_, Table.get_insert_next _ _⟩

theorem foldl_mark_eligible (once : s.follows.OnePer fun f => (f.followerId, f.creatorId))
    {ids : List Nat} {eventId : Nat} (listed : eventId ∈ ids) {e : LiveEvent}
    (held : s.site.liveEvents.get eventId = some e) (reach : s.eligible now userId e = true) :
    (ids.foldl (mark now userId) s).isRead userId eventId = true := by
  induction ids generalizing s with
  | nil => cases listed
  | cons id rest ih =>
      obtain ⟨site, follows⟩ := mark_site now userId s id
      rcases List.mem_cons.mp listed with rfl | later
      · rw [List.foldl_cons]
        exact foldl_mark_isRead (mark_eligible once held reach)
      · exact ih (follows ▸ once) later (site ▸ held)
          ((eligible_congr site follows e).trans reach)

theorem markRead_marks {viewer : Option UserId}
    (signedIn : requireCreatorId s.site.backend viewer = .ok userId)
    (once : s.follows.OnePer fun f => (f.followerId, f.creatorId)) {ids : List Nat} {after : Feed}
    (done : s.markRead now viewer ids = .ok after) {eventId : Nat} (listed : eventId ∈ ids)
    {e : LiveEvent} (held : s.site.liveEvents.get eventId = some e)
    (reach : s.eligible now userId e = true) : after.isRead userId eventId = true := by
  unfold markRead at done
  rw [signedIn] at done
  simp only [bind, Except.bind] at done
  split at done
  · cases done
  · cases limited : rateLimit now s.readLimits userId 120 60000 with
    | error code =>
        rw [limited] at done
        cases done
    | ok readLimits =>
        rw [limited] at done
        cases done
        exact foldl_mark_eligible (s := { s with readLimits }) once
          (List.mem_eraseDups.mpr listed) held reach

/-- What a viewer reads, page by page, marks and counts at one moment. -/
structure Exact (web : Web) (now : Time) (s : Feed) (viewer : Option UserId) (userId : UserId)
    (items : List NotificationItem) : Prop where
  pages : ∃ count, ∀ fuel, count ≤ fuel →
    Library.follow (s.pages web now viewer) fuel none = some items
  newestFirst : items.Pairwise fun a b => b.createdAt < a.createdAt
  once : (items.map fun i => i.eventId).Nodup
  shown : ∀ i ∈ items, ∃ e row creator, s.site.liveEvents.get i.eventId = some e ∧
    s.visible now userId e = true ∧ s.site.profileForUser e.creatorId = some (row, creator) ∧
    i = s.item web userId ⟨i.eventId, e, creator⟩
  complete : ∀ id e, s.site.liveEvents.get id = some e → s.visible now userId e = true →
    id ∈ items.map fun i => i.eventId
  marks : ∀ i ∈ items, ∀ ids after, i.eventId ∈ ids → s.markRead now viewer ids = .ok after →
    after.isRead userId i.eventId = true
  unread : ∀ before answer, s.list web now viewer before = .ok answer →
    answer.unreadCapped = false →
    answer.unreadCount = (s.site.liveEvents.rows.filter fun row =>
      s.visible now userId row.2 && !s.isRead userId row.1).length

theorem visibleEvents_shown (web : Web) (distinct : s.site.liveEvents.OnePer (·.createdAt))
    (once : s.follows.OnePer fun f => (f.followerId, f.creatorId)) {i : NotificationItem}
    (member : i ∈ (s.visibleEvents now userId).map (s.item web userId)) :
    ∃ e row creator, s.site.liveEvents.get i.eventId = some e ∧ s.visible now userId e = true ∧
      s.site.profileForUser e.creatorId = some (row, creator) ∧
      i = s.item web userId ⟨i.eventId, e, creator⟩ := by
  obtain ⟨c, gathered, rfl⟩ := List.mem_map.mp member
  obtain ⟨held, seen, profiled⟩ := (mem_visibleEvents distinct once).mp gathered
  obtain ⟨⟨row, creator⟩, profiled, same⟩ := Option.map_eq_some_iff.mp profiled
  cases same
  exact ⟨c.event, row, c.creator, held, seen, profiled, rfl⟩

theorem unreadCount_exact (web : Web) {viewer : Option UserId}
    (signedIn : requireCreatorId s.site.backend viewer = .ok userId)
    (distinct : s.site.liveEvents.OnePer (·.createdAt))
    (once : s.follows.OnePer fun f => (f.followerId, f.creatorId)) {before : Option Time}
    {answer : NotificationPage} (done : s.list web now viewer before = .ok answer)
    (uncapped : answer.unreadCapped = false) :
    answer.unreadCount = (s.site.liveEvents.rows.filter fun row =>
      s.visible now userId row.2 && !s.isRead userId row.1).length := by
  rw [list_eq web signedIn before] at done
  cases done
  simp only [Bool.or_eq_false_iff, decide_eq_false_iff_not, Nat.not_le] at uncapped
  have counted := countUnread_eq uncapped.1 uncapped.2
  simp only [Nat.zero_add] at counted
  have gathered : ((s.visibleEvents now userId).map fun c => (c.eventId, c.event)).Perm
      (s.site.liveEvents.query (s.visible now userId)) := visibleEvents_perm distinct once
  have same := (gathered.filter fun row => !s.isRead userId row.1).length_eq
  rw [List.filter_map, List.length_map, Table.query, List.filter_filter] at same
  simp only [Bool.and_comm] at same ⊢
  exact counted.trans same

/-- Pages enumerate what can be seen, each once and newest first, all of which can be marked
read, and the unread count is exact unless it is capped. -/
theorem notifications_exact (web : Web) (now : Time) (s : Feed) {viewer : Option UserId}
    {userId : UserId} (signedIn : requireCreatorId s.site.backend viewer = .ok userId)
    (distinct : s.site.liveEvents.OnePer (·.createdAt))
    (once : s.follows.OnePer fun f => (f.followerId, f.creatorId)) :
    ∃ items, s.Exact web now viewer userId items := by
  refine ⟨(s.visibleEvents now userId).map (s.item web userId), ?_⟩
  constructor
  · exact ⟨_, fun fuel enough => pages_complete web signedIn distinct once enough⟩
  · exact List.pairwise_map.mpr (visibleEvents_newestFirst distinct once)
  · rw [List.map_map]
    exact visibleEvents_nodup distinct once
  · intro i member
    exact visibleEvents_shown web distinct once member
  · intro id e held seen
    have within := (visibleEvents_perm distinct once).mem_iff.mpr
      ((s.site.liveEvents.mem_query _ id e).mpr ⟨held, seen⟩)
    obtain ⟨c, member, same⟩ := List.mem_map.mp within
    cases same
    rw [List.map_map]
    exact List.mem_map.mpr ⟨c, member, rfl⟩
  · intro i member ids after listed done
    obtain ⟨e, _, _, held, seen, _⟩ := visibleEvents_shown web distinct once member
    rw [visible, Bool.and_eq_true] at seen
    exact markRead_marks signedIn once done listed held seen.1
  · intro before answer done uncapped
    exact unreadCount_exact web signedIn distinct once done uncapped

def sampleWeb : Web := ⟨fun _ => none, fun id => [id]⟩

def sampleCtx (now : Time) : Ctx := ⟨now, ⟨none, false, none, none, "usd"⟩⟩

/-- A viewer who follows a published creator with two live events. -/
def sampleFeed : Feed where
  site :=
    { run (Site.step sampleWeb) .empty
        ([.signUp (some [97]), .signUp (some [98]), .create (some 0)].map fun op =>
          (sampleCtx 0, op)) with
      liveEvents := (Table.empty.insert ⟨0, 0, 60⟩).insert ⟨0, 1, 90⟩ }
  follows := Table.empty.insert ⟨1, 0, 50⟩
  notificationReads := .empty
  readLimits := .empty

theorem sampleFeed_exact : sampleFeed.visible 100 1 ⟨0, 1, 90⟩ = true ∧
    ∃ items, sampleFeed.Exact sampleWeb 100 (some 1) 1 items := by
  refine ⟨by decide, ?_⟩
  apply notifications_exact
  · rfl
  · apply Table.OnePer.insert
    · apply Table.OnePer.insert Table.OnePer.empty
      intro i e found
      cases found
    · intro i e found same
      rcases Table.get_insert_row found with ⟨_, rfl⟩ | older
      · cases same
      · cases older
  · apply Table.OnePer.insert Table.OnePer.empty
    intro i f found
    cases found

end Feed

end Bling
