import Bling.Api.LiveEvents

set_option autoImplicit false

namespace Bling.LiveEvents

open Library
open Directory (Bytes Uuid Profile Failure)

/-! Following the cursors of an inbox reads all of it, and unread events are counted up to 100. -/

/-! ### Cursors -/

theorem timeByte_plain {byte : UInt8} (shown : Rfc3339.isTimeByte byte = true) :
    Json.isPlain byte = true := by
  unfold Rfc3339.isTimeByte at shown
  rw [Bool.or_eq_true, List.contains_iff_mem] at shown
  rcases shown with digit | mark
  · unfold isDigit at digit
    rw [Bool.and_eq_true, decide_eq_true_eq, decide_eq_true_eq] at digit
    have apart (other : UInt8) (outside : other.toNat < 48 ∨ 57 < other.toNat) : byte ≠ other := by
      rintro rfl
      omega
    simp only [Json.isPlain, Bool.and_eq_true, decide_eq_true_eq, bne_iff_ne]
    refine ⟨⟨⟨⟨⟨⟨?_, ?_⟩, apart 34 ?_⟩, apart 92 ?_⟩, apart 60 ?_⟩, apart 62 ?_⟩, apart 38 ?_⟩
    · omega
    · omega
    · decide
    · decide
    · decide
    · decide
    · decide
  · simp only [List.mem_cons, List.not_mem_nil, or_false] at mark
    rcases mark with rfl | rfl | rfl | rfl | rfl | rfl
    · decide
    · decide
    · decide
    · decide
    · decide
    · decide

theorem set_at (c : NotificationCursor) {raw : Bytes} {time : Int}
    (read : Rfc3339.parse raw = some time) :
    c.set (ascii ['a', 't'], .string raw) = some { c with atTime := time } := by
  have name : Json.foldName (ascii ['a', 't']) = ascii ['A', 'T'] := by decide
  simp [NotificationCursor.set, name, read]

theorem set_id (c : NotificationCursor) {text : Bytes} {id : Int}
    (read : Json.toInt64 text = some id) :
    c.set (ascii ['i', 'd'], .number text) = some { c with id } := by
  have name : Json.foldName (ascii ['i', 'd']) = ascii ['I', 'D'] := by decide
  have apart : ascii ['I', 'D'] ≠ ascii ['A', 'T'] := by decide
  simp [NotificationCursor.set, name, apart, read]

theorem unmarshal_marshal {location : Location} {c : NotificationCursor} {text : Bytes}
    (written : Rfc3339.write (location.offset c.atTime) c.atTime = some text) (nonneg : 0 ≤ c.id)
    (fits : c.id < 2 ^ 63) :
    ∃ json, c.marshal location = some json ∧ json ≠ [] ∧
      NotificationCursor.unmarshal json = some c ∧ json.length ≤ 128 := by
  obtain ⟨n, same⟩ := Int.eq_ofNat_of_zero_le nonneg
  have fits : n < 2 ^ 63 := by
    rw [same] at fits
    exact_mod_cast fits
  have bytes := Rfc3339.write_bytes written
  have plain : text.all Json.isPlain = true := by
    rw [List.all_eq_true]
    intro byte member
    exact timeByte_plain (List.all_eq_true.mp bytes.1 byte member)
  have quoted : Json.quote text = 34 :: text ++ [34] := by
    rw [Json.quote, Json.quoteFrom_plain plain]
    rfl
  have each : ∀ m ∈ [(ascii ['a', 't'], Json.quote text, Json.string text),
      (ascii ['i', 'd'], decimal 19 n, .number (decimal 19 n))],
      m.1.all Json.isPlain = true ∧ Json.Scans m.2.1 m.2.2 := by
    simp only [List.forall_mem_cons, List.not_mem_nil, false_imp_iff, implies_true, and_true]
    exact ⟨⟨by decide, Json.scans_string plain⟩, ⟨by decide, Json.scans_decimal 19 n⟩⟩
  have read := Json.parse_object _ (List.cons_ne_nil _ _) each
  simp only [List.map_cons, List.map_nil] at read
  have marshalled : c.marshal location = some (Json.encodeObject
      [(ascii ['a', 't'], Json.quote text), (ascii ['i', 'd'], decimal 19 n)]) := by
    simp only [NotificationCursor.marshal, written, Option.map_some, quoted, same, itoa_natCast]
  refine ⟨_, marshalled, List.cons_ne_nil _ _, ?_, ?_⟩
  · rw [NotificationCursor.unmarshal, read]
    simp only [List.foldlM_cons, List.foldlM_nil, set_at _ (Rfc3339.parse_write written),
      set_id _ (Json.toInt64_decimal fits), Option.bind_eq_bind, Option.bind_some, ← same]
    rfl
  · have digits : (decimal 19 n).length ≤ 19 := length_decimal 18 n
    have names : (Json.quote (ascii ['a', 't'])).length = 4 ∧
        (Json.quote (ascii ['i', 'd'])).length = 4 := by
      decide
    have time : (Json.quote text).length ≤ 37 := by
      rw [quoted]
      simp only [List.length_append, List.length_cons, List.length_nil]
      omega
    simp only [Json.encodeObject, Json.encodeMembers, Json.encodeMember, List.length_append,
      List.length_cons, List.length_nil, names]
    omega

/-- The cursor behind a row. -/
def cursorAt (position : Int × Int) : NotificationCursor where
  atTime := position.1 * 1000
  id := position.2

/-- The position of an event that an inbox may list. -/
structure Placed (position : Int × Int) : Prop where
  begun : 701 * day ≤ position.1
  ends : position.1 < Gregorian.monthStart (Gregorian.monthIndex 9999 1) * day
  positive : 0 < position.2
  fits : position.2 < 2 ^ 63

/-- The text of a cursor; the first page has none. -/
def written (location : Location) : Option (Int × Int) → Bytes
  | none => []
  | some position => encodeCursor location (cursorAt position)

theorem decode_written (location : Location) {position : Int × Int} (placed : Placed position) :
    encodeCursor location (cursorAt position) ≠ [] ∧
      decodeNotificationCursor (encodeCursor location (cursorAt position)) =
        .ok (some (cursorAt position)) := by
  obtain ⟨begun, ends, positive, fits⟩ := placed
  have micro : (Rfc3339.day : Int) = day * 1000 := by decide
  have early : (Rfc3339.day : Int) ≤ position.1 * 1000 := by
    rw [micro]
    unfold day minute at *
    omega
  have late : position.1 * 1000 <
      Gregorian.monthStart (Gregorian.monthIndex 9999 1) * (Rfc3339.day : Int) := by
    rw [micro]
    unfold day minute at *
    omega
  have later : position.1 * 1000 ≠ zeroTime := by
    rw [zeroTime, micro]
    unfold day minute at *
    omega
  obtain ⟨text, shown⟩ := Rfc3339.write_some (location.bounded (position.1 * 1000)) early late
  have shown : Rfc3339.write (location.offset (cursorAt position).atTime)
      (cursorAt position).atTime = some text := shown
  obtain ⟨json, marshalled, filled, read, short⟩ := unmarshal_marshal shown positive.le fits
  have length := Base64.length_encode json
  have encoded : encodeCursor location (cursorAt position) = Base64.encode json := by
    rw [encodeCursor, marshalled, Option.getD_some]
  have some := Base64.encode_ne_nil filled
  refine ⟨encoded ▸ some, ?_⟩
  have valid : ¬ ((cursorAt position).atTime = zeroTime ∨ (cursorAt position).id < 1) := by
    rintro (zero | low)
    · exact later zero
    · exact absurd positive (Int.not_lt.mpr (Int.lt_add_one_iff.mp low))
  rw [encoded, decodeNotificationCursor, if_neg some, if_neg (by omega), Base64.decode_encode,
    Option.bind_some, read]
  dsimp only
  rw [if_neg valid]

/-! ### Rows -/

theorem newest_order : StrictOrder newest :=
  (StrictOrder.lt.lex StrictOrder.lt).swap

theorem readOf (id : Uuid) (e : LiveEvent) :
    (fun r : NotificationRead => r.userId == id && r.eventId == e.id) =
      fun r => r == ⟨id, e.id⟩ := by
  funext r
  cases r
  simp [Bool.beq_eq_decide_eq]

theorem isRead_eq (db : Tables) (id : Uuid) (e : LiveEvent) :
    db.isRead id e = decide ((⟨id, e.id⟩ : NotificationRead) ∈ db.reads) := by
  rw [Tables.isRead, readOf, List.any_beq', List.contains_eq_mem]

theorem joinReads_eq (db : Tables) (id : Uuid) (e : LiveEvent) :
    db.joinReads id e = [db.isRead id e] := by
  unfold Tables.joinReads
  rw [readOf, List.filter_beq, isRead_eq]
  by_cases member : (⟨id, e.id⟩ : NotificationRead) ∈ db.reads
  · rw [List.count_eq_one_of_mem db.oneRead member, decide_eq_true member]
    rfl
  · rw [List.count_eq_zero.mpr member, decide_eq_false member]
    rfl

/-- A viewer follows each creator once. -/
theorem followed_pairwise (db : Tables) (id : Uuid) :
    (db.followed id).Pairwise fun g other => g.1.creatorId ≠ other.1.creatorId := by
  unfold Tables.followed
  rw [List.pairwise_flatMap]
  constructor
  · intro f _
    rw [List.pairwise_map]
    have once := (List.pairwise_map.mp db.oneProfile).sublist
      (List.filter_sublist (p := fun p => p.id == f.creatorId && p.published))
    refine once.imp_of_mem ?_
    intro p other first second apart
    have same := (List.mem_filter.mp first).2
    have same' := (List.mem_filter.mp second).2
    simp only [Bool.and_eq_true, beq_iff_eq] at same same'
    exact absurd (same.1.trans same'.1.symm) apart
  · have once := (List.pairwise_map.mp db.oneFollow).sublist
      (List.filter_sublist (p := fun f => f.followerId == id))
    refine once.imp_of_mem ?_
    intro f other first second apart g here g' there same
    obtain ⟨p, _, rfl⟩ := List.mem_map.mp here
    obtain ⟨p', _, rfl⟩ := List.mem_map.mp there
    have viewer : f.followerId = id := by simpa using (List.mem_filter.mp first).2
    have viewer' : other.followerId = id := by simpa using (List.mem_filter.mp second).2
    exact apart (Prod.ext (viewer.trans viewer'.symm) same)

/-- The rows that a group has for the inbox. -/
def rowsOf (db : Tables) (id : Uuid) (g : Follow × Profile) : List (LiveEvent × Notification) :=
  (db.eventsSince g.1).map fun e => (e, Tables.notification g.2 e (db.isRead id e))

def rowPosition (row : LiveEvent × Notification) : Int × Int := row.1.position

theorem rows_distinct (db : Tables) (id : Uuid) :
    (((db.followed id).flatMap (rowsOf db id)).map rowPosition).Nodup := by
  have positions : ((db.followed id).flatMap (rowsOf db id)).Pairwise
      fun row other => row.1.id ≠ other.1.id := by
    rw [List.pairwise_flatMap]
    constructor
    · intro g _
      exact List.pairwise_map.mpr
        ((List.pairwise_map.mp db.oneEvent).sublist List.filter_sublist)
    · refine (followed_pairwise db id).imp ?_
      intro g other apart row here row' there same
      obtain ⟨e, since, rfl⟩ := List.mem_map.mp here
      obtain ⟨e', since', rfl⟩ := List.mem_map.mp there
      obtain ⟨present, own⟩ := List.mem_filter.mp since
      obtain ⟨present', own'⟩ := List.mem_filter.mp since'
      have one := List.inj_on_of_nodup_map db.oneEvent present present' same
      simp only [Bool.and_eq_true, beq_iff_eq] at own own'
      exact apart (own.1.1.symm.trans (one ▸ own'.1.1))
  refine List.pairwise_map.mpr (positions.imp ?_)
  intro row other apart same
  exact apart (Int.ofNat_inj.mp (Prod.ext_iff.mp same).2)

/-- What the inbox lists, in its order. -/
def sorted (db : Tables) (id : Uuid) : List (LiveEvent × Notification) :=
  inOrder newest rowPosition ((db.followed id).flatMap (rowsOf db id))

theorem sample_eq (db : Tables) (id : Uuid) (before : Int × Int) (g : Follow × Profile) :
    (((inOrder newest LiveEvent.position
      ((db.eventsSince g.1).filter fun e => rowLess e.position before)).take 25).flatMap fun e =>
        (db.joinReads id e).map fun read => (e, Tables.notification g.2 e read)) =
      (inOrder newest rowPosition
        ((rowsOf db id g).filter fun row => newest before (rowPosition row))).take 25 := by
  simp only [joinReads_eq, List.map_singleton, ← List.map_eq_flatMap]
  rw [rowsOf, List.filter_map, ← map_inOrder, List.map_take]
  rfl

theorem selectEvents_eq (db : Tables) (id : Uuid) (before : Int × Int) :
    db.selectEvents id before =
      (beyond newest rowPosition (sorted db id) (some before)).take 25 := by
  have distinct := rows_distinct db id
  have kept : (((db.followed id).flatMap fun g => (rowsOf db id g).filter fun row =>
      newest before (rowPosition row)).map rowPosition).Nodup := by
    rw [← List.filter_flatMap]
    exact distinct.sublist (List.filter_sublist.map rowPosition)
  unfold Tables.selectEvents
  dsimp only
  simp only [sample_eq]
  refine (take_sampled newest_order kept 25).trans ?_
  rw [← List.filter_flatMap, inOrder_filter newest_order distinct]
  rfl

/-- The position that a next cursor is made of. -/
def Notification.position (n : Notification) : Int × Int := (n.createdAt, (atoi n.id).getD 0)

theorem mem_sorted {db : Tables} {id : Uuid} {row : LiveEvent × Notification} :
    row ∈ sorted db id ↔ ∃ g ∈ db.followed id, ∃ e ∈ db.eventsSince g.1,
      row = (e, Tables.notification g.2 e (db.isRead id e)) := by
  simp only [sorted, mem_inOrder, List.mem_flatMap, rowsOf, List.mem_map, eq_comm]

/-- A row of the inbox stands at its event's position. -/
theorem sorted_position {db : Tables} {id : Uuid} {row : LiveEvent × Notification}
    (member : row ∈ sorted db id) :
    row.2.position = rowPosition row ∧ Placed (rowPosition row) ∧
      newest (db.now + minute, 9223372036854775807) (rowPosition row) := by
  obtain ⟨g, _, e, since, rfl⟩ := mem_sorted.mp member
  obtain ⟨present, kept⟩ := List.mem_filter.mp since
  simp only [Bool.and_eq_true, decide_eq_true_eq] at kept
  have ids := db.ids e present
  have past := db.past e present
  have begun := db.begun
  have ends := db.ends
  have read : atoi (itoa e.id) = some (e.id : Int) := atoi_itoa (by omega) (by omega)
  refine ⟨?_, ⟨?_, ?_, ?_, ?_⟩, ?_⟩
  · simp only [Notification.position, Tables.notification, read, Option.getD_some]
    rfl
  · show 701 * day ≤ e.createdAt
    unfold day at *
    omega
  · exact past.trans_le ends
  · exact Int.natCast_pos.mpr ids.1
  · show (e.id : Int) < 2 ^ 63
    omega
  · exact Or.inl past

/-- The notifications of an inbox, newest first. -/
def inbox (db : Tables) (id : Uuid) : List Notification := (sorted db id).map Prod.snd

theorem inbox_pairwise (db : Tables) (id : Uuid) :
    (inbox db id).Pairwise fun n other => newest n.position other.position := by
  have rows := inOrder_pairwise newest_order (rows_distinct db id)
  refine List.pairwise_map.mpr (rows.imp_of_mem ?_)
  intro row other first second earlier
  rw [(sorted_position first).1, (sorted_position second).1]
  exact earlier

theorem beyond_inbox (db : Tables) (id : Uuid) (cursor : Option (Int × Int)) :
    beyond newest Notification.position (inbox db id) cursor =
      (beyond newest rowPosition (sorted db id) cursor).map Prod.snd := by
  cases cursor with
  | none => rfl
  | some position =>
      rw [beyond, beyond, inbox, List.filter_map]
      apply congrArg (List.map Prod.snd)
      apply List.filter_congr
      intro row member
      simp only [Function.comp_apply, (sorted_position member).1]

/-- A cursor's place in the order of the database. -/
def before (db : Tables) : Option (Int × Int) → Int × Int
  | none => (db.now + minute, 9223372036854775807)
  | some position => position

theorem selectEvents_inbox (db : Tables) (id : Uuid) (cursor : Option (Int × Int)) :
    (db.selectEvents id (before db cursor)).map Prod.snd =
      (beyond newest Notification.position (inbox db id) cursor).take 25 := by
  rw [selectEvents_eq, List.map_take, beyond_inbox]
  cases cursor with
  | none =>
      have all : beyond newest rowPosition (sorted db id) (some (before db none)) =
          sorted db id := by
        apply List.filter_eq_self.mpr
        intro row member
        exact decide_eq_true (sorted_position member).2.2
      rw [all]
      rfl
  | some position => rfl

/-! ### Pages -/

/-- Which notifications are behind a cursor, and where the next page starts. -/
def readPage (db : Tables) (id : Uuid) (cursor : Option (Int × Int)) :
    List Notification × Option (Int × Int) :=
  let rows := beyond newest Notification.position (inbox db id) cursor
  (rows.take 24,
    if 24 < rows.length then (rows.take 24).getLast?.map Notification.position else none)

theorem cutPage_eq (location : Location) (rows : List Notification) (count : Nat) :
    Tables.cutPage location (rows.take 25) count =
      { items := rows.take 24
        nextCursor := written location
          (if 24 < rows.length then (rows.take 24).getLast?.map Notification.position else none)
        unreadCount := count
        unreadCapped := count == 100 } := by
  have length : 24 < (rows.take 25).length ↔ 24 < rows.length := by
    rw [List.length_take]
    omega
  unfold Tables.cutPage
  simp only [length, List.take_take]
  by_cases more : 24 < rows.length
  · obtain ⟨last, found⟩ : ∃ last, rows[23]? = some last :=
      ⟨_, List.getElem?_eq_getElem (by omega)⟩
    have page : (rows.take 25)[23]? = some last := by
      rw [List.getElem?_take_of_lt (by omega), found]
    have page' : (rows.take 24).getLast? = some last := by
      rw [List.getLast?_take, if_neg (by omega), found]
      rfl
    simp only [if_pos more, page, page']
    rfl
  · simp only [if_neg more]
    rw [List.take_of_length_le (by omega), List.take_of_length_le (by omega)]
    rfl

theorem readPage_placed {db : Tables} {id : Uuid} {cursor : Option (Int × Int)}
    {next : Int × Int} (more : (readPage db id cursor).2 = some next) : Placed next := by
  unfold readPage at more
  dsimp only at more
  split at more
  · obtain ⟨last, found, rfl⟩ := Option.map_eq_some_iff.mp more
    have behind := List.mem_of_mem_take (List.mem_of_getLast? found)
    obtain ⟨row, member, rfl⟩ := List.mem_map.mp (mem_beyond.mp behind).1
    rw [(sorted_position member).1]
    exact (sorted_position member).2.1
  · cases more

theorem notifications_written (location : Location) (db : Tables) (id : Uuid)
    {cursor : Option (Int × Int)} (placed : ∀ position, cursor = some position → Placed position) :
    db.notifications location id (written location cursor) =
      .ok { items := (readPage db id cursor).1
            nextCursor := written location (readPage db id cursor).2
            unreadCount := db.countUnread id
            unreadCapped := db.countUnread id == 100 } := by
  have decoded : decodeNotificationCursor (written location cursor) =
      .ok (cursor.map cursorAt) := by
    cases cursor with
    | none => rfl
    | some position => exact (decode_written location (placed position rfl)).2
  have page : (db.notifications location id (written location cursor)) =
      .ok (Tables.cutPage location ((db.selectEvents id (before db cursor)).map Prod.snd)
        (db.countUnread id)) := by
    unfold Tables.notifications
    rw [decoded]
    cases cursor with
    | none => rfl
    | some position =>
        have time : position.1 * 1000 / 1000 = position.1 := by omega
        show Except.ok (Tables.cutPage location ((db.selectEvents id
          (position.1 * 1000 / 1000, position.2)).map Prod.snd) (db.countUnread id)) = _
        rw [time]
        rfl
  rw [page, selectEvents_inbox, cutPage_eq]
  rfl

/-- A page as a client gets it, which goes on with the next cursor unless that is empty. -/
def fetch (location : Location) (db : Tables) (id : Uuid) (cursor : Bytes) :
    Option (List Notification × Option Bytes) :=
  match db.notifications location id cursor with
  | .error _ => none
  | .ok page => some (page.items, if page.nextCursor = [] then none else some page.nextCursor)

theorem fetch_written (location : Location) (db : Tables) (id : Uuid)
    {cursor : Option (Int × Int)} (placed : ∀ position, cursor = some position → Placed position) :
    fetch location db id (written location cursor) =
      some ((readPage db id cursor).1,
        (readPage db id cursor).2.map fun next => written location (some next)) := by
  unfold fetch
  rw [notifications_written location db id placed]
  cases next : (readPage db id cursor).2 with
  | none => rfl
  | some position =>
      dsimp only [written]
      rw [if_neg (decode_written location (readPage_placed next)).1]
      rfl

/-! ### Unread events -/

theorem countUnread_eq (db : Tables) (id : Uuid) :
    db.countUnread id = min 100 ((inbox db id).filter fun n => !n.read).length := by
  have each (g : Follow × Profile) : ((rowsOf db id g).filter fun row => !row.2.read).length =
      (inOrder newest LiveEvent.position
        ((db.eventsSince g.1).filter fun e => !db.isRead id e)).length := by
    rw [inOrder_length, rowsOf, List.filter_map, List.length_map]
    rfl
  have unread : ((inbox db id).filter fun n => !n.read).length =
      ((db.followed id).flatMap fun g => (rowsOf db id g).filter fun row =>
        !row.2.read).length := by
    rw [inbox, List.filter_map, List.length_map, ← List.filter_flatMap]
    exact ((inOrder_perm newest rowPosition _).filter _).length_eq
  unfold Tables.countUnread
  rw [length_sampled, unread, List.length_flatMap, List.length_flatMap]
  simp only [each]

/-- What a viewer is to be told: the events of the last 30 days of the creators with a published
profile whom the viewer has followed since before the event, and whether they are read. -/
def Listed (db : Tables) (id : Uuid) (n : Notification) : Prop :=
  ∃ f ∈ db.follows, ∃ p ∈ db.profiles, ∃ e ∈ db.events,
    (f.followerId = id ∧ p.id = f.creatorId ∧ p.published = true) ∧
    (e.creatorId = f.creatorId ∧ f.createdAt ≤ e.createdAt ∧ db.now - 30 * day < e.createdAt) ∧
    n = Tables.notification p e (decide (⟨id, e.id⟩ ∈ db.reads))

theorem mem_inbox {db : Tables} {id : Uuid} {n : Notification} :
    n ∈ inbox db id ↔ Listed db id n := by
  constructor
  · intro member
    obtain ⟨row, sortedRow, rfl⟩ := List.mem_map.mp member
    obtain ⟨g, group, e, since, rfl⟩ := mem_sorted.mp sortedRow
    obtain ⟨f, follow, joined⟩ := List.mem_flatMap.mp group
    obtain ⟨p, profile, rfl⟩ := List.mem_map.mp joined
    simp only [Tables.eventsSince, List.mem_filter, Bool.and_eq_true, beq_iff_eq,
      decide_eq_true_eq] at follow profile since
    refine ⟨f, follow.1, p, profile.1, e, since.1, ⟨follow.2, profile.2⟩, ?_, ?_⟩
    · exact ⟨since.2.1.1, since.2.1.2, since.2.2⟩
    · rw [isRead_eq]
  · rintro ⟨f, follow, p, profile, e, event, own, since, rfl⟩
    have group : (f, p) ∈ db.followed id := by
      refine List.mem_flatMap.mpr ⟨f, ?_, List.mem_map.mpr ⟨p, ?_, rfl⟩⟩
      · simpa using ⟨follow, own.1⟩
      · simpa using ⟨profile, own.2⟩
    have visible : e ∈ db.eventsSince f := by
      simpa [Tables.eventsSince, and_assoc] using ⟨event, since⟩
    rw [← isRead_eq]
    exact List.mem_map.mpr ⟨_, mem_sorted.mpr ⟨(f, p), group, e, visible, rfl⟩, rfl⟩

/-- Following the cursors lists each event once, newest first, and unread events are counted up
to 100. -/
theorem inbox_paging_complete (location : Location) (db : Tables) (id : Uuid) :
    ∃ all : List Notification, (∀ n, n ∈ all ↔ Listed db id n) ∧
      all.Pairwise (fun n other => rowLess other.position n.position) ∧
      (∀ fuel, all.length < fuel → followAll (fetch location db id) fuel [] = some all) ∧
      ∀ cursor page, db.notifications location id cursor = .ok page →
        page.unreadCount = min 100 (all.filter fun n => !n.read).length ∧
        page.unreadCapped = decide (100 ≤ (all.filter fun n => !n.read).length) := by
  have sorted := inbox_pairwise db id
  refine ⟨inbox db id, fun n => mem_inbox, sorted, ?_, ?_⟩
  · intro fuel enough
    have start : ∀ position, (none : Option (Int × Int)) = some position → Placed position := by
      intro position same
      cases same
    have pages := followAll_eq (fun cursor placed => fetch_written location db id placed)
      (fun cursor next more => readPage_placed more) fuel start
    refine pages.trans ?_
    exact follow_eq newest_order sorted (by decide) (fun _ => rfl) (fun _ => rfl) enough
  · intro cursor page given
    have count := countUnread_eq db id
    unfold Tables.notifications at given
    cases decoded : decodeNotificationCursor cursor with
    | error failure =>
        rw [decoded] at given
        cases given
    | ok position =>
        rw [decoded] at given
        obtain rfl := Except.ok.inj given
        refine ⟨count, ?_⟩
        show (db.countUnread id == 100) = _
        rw [count, Bool.beq_eq_decide_eq]
        apply decide_eq_decide.mpr
        omega

def Location.utc : Location where
  offset _ := 0
  bounded _ := by decide

def sampleViewer : Uuid := ⟨1, by decide⟩

def sampleCreator : Uuid := ⟨2, by decide⟩

def sampleEvent (id : Nat) (showId : Uuid) (createdAt : Int) : LiveEvent :=
  ⟨id, sampleCreator, showId, createdAt⟩

/-- Two events at one time, of which one is read, and one from before the follow. -/
def sampleTables : Tables where
  profiles := [⟨sampleCreator, [], [], [], [], [], true, ⟨1, by decide⟩, false, none, none⟩]
  follows := [⟨sampleViewer, sampleCreator, 990 * day⟩]
  events := [sampleEvent 1 ⟨7, by decide⟩ (980 * day), sampleEvent 2 ⟨8, by decide⟩ (995 * day),
    sampleEvent 3 ⟨9, by decide⟩ (995 * day)]
  reads := [⟨sampleViewer, 3⟩]
  now := 1000 * day
  oneProfile := by decide
  oneFollow := by decide
  oneEvent := by decide
  oneRead := by decide
  ids := by decide
  past := by decide
  begun := by decide
  ends := by decide

theorem sample_inbox_complete :
    (inbox sampleTables sampleViewer).map (fun n => (n.id, n.read)) =
        [(itoa 3, true), (itoa 2, false)] ∧
      ∃ all : List Notification, (∀ n, n ∈ all ↔ Listed sampleTables sampleViewer n) ∧
        all.Pairwise (fun n other => rowLess other.position n.position) ∧
        (∀ fuel, all.length < fuel →
          followAll (fetch .utc sampleTables sampleViewer) fuel [] = some all) ∧
        ∀ cursor page, sampleTables.notifications .utc sampleViewer cursor = .ok page →
          page.unreadCount = min 100 (all.filter fun n => !n.read).length ∧
          page.unreadCapped = decide (100 ≤ (all.filter fun n => !n.read).length) :=
  ⟨by decide, inbox_paging_complete .utc sampleTables sampleViewer⟩

end Bling.LiveEvents
