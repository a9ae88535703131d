import Bling.Api.Directory

set_option autoImplicit false

namespace Bling.Directory

open Library

/-! The pages of the directory are complete, and its cursors are those of their options. -/

/-! ### Texts of ids -/

theorem matchGroups_write {groups : List Nat} {digits : Bytes}
    (some : groups ≠ []) (length : digits.length = groups.sum)
    (hex : ∀ byte ∈ digits, (hexDigit byte).isSome) :
    matchGroups groups (writeGroups groups digits) = true := by
  induction groups generalizing digits with
  | nil => exact absurd rfl some
  | cons size groups ih =>
      cases groups with
      | nil =>
          simp only [List.sum_cons, List.sum_nil, Nat.add_zero] at length
          simp only [matchGroups, writeGroups, Bool.and_eq_true, beq_iff_eq, List.all_eq_true]
          rw [List.take_of_length_le (Nat.le_of_eq length)]
          exact ⟨length, hex⟩
      | cons next rest =>
          rw [List.sum_cons] at length
          have front : (digits.take size).length = size := by
            rw [List.length_take]
            omega
          have rest_length : (digits.drop size).length = (next :: rest).sum := by
            rw [List.length_drop]
            omega
          have later := ih (List.cons_ne_nil _ _) rest_length
            (fun byte member => hex byte (List.mem_of_mem_drop member))
          have cut : (digits.take size ++ 45 :: writeGroups (next :: rest) (digits.drop size)).take
              size = digits.take size := by
            rw [List.take_append_of_le_length (Nat.le_of_eq front.symm), List.take_take,
              Nat.min_self]
          have behind : (digits.take size ++ 45 :: writeGroups (next :: rest)
              (digits.drop size)).drop size =
                45 :: writeGroups (next :: rest) (digits.drop size) := by
            rw [List.drop_append_of_le_length (Nat.le_of_eq front.symm),
              List.drop_of_length_le (Nat.le_of_eq front), List.nil_append]
          have further : (digits.take size ++ 45 :: writeGroups (next :: rest)
              (digits.drop size)).drop (size + 1) =
                writeGroups (next :: rest) (digits.drop size) := by
            rw [← List.drop_drop, behind]
            rfl
          simp only [matchGroups, writeGroups, cut, behind, further, later, front, beq_self_eq_true,
            Bool.true_and, List.head?_cons, Bool.and_true]
          rw [List.all_eq_true]
          exact fun byte member => hex byte (List.mem_of_mem_take member)

/-- The dashes are not read. -/
theorem filterMap_writeGroups {groups : List Nat} {digits : Bytes}
    (length : digits.length = groups.sum) :
    (writeGroups groups digits).filterMap hexDigit = digits.filterMap hexDigit := by
  induction groups generalizing digits with
  | nil =>
      rw [List.sum_nil, List.length_eq_zero_iff] at length
      rw [length]
      rfl
  | cons size groups ih =>
      cases groups with
      | nil =>
          simp only [List.sum_cons, List.sum_nil, Nat.add_zero] at length
          rw [writeGroups, List.take_of_length_le (Nat.le_of_eq length)]
      | cons next rest =>
          rw [List.sum_cons] at length
          have rest_length : (digits.drop size).length = (next :: rest).sum := by
            rw [List.length_drop]
            omega
          have later := ih rest_length
          have dash : hexDigit 45 = none := by decide
          rw [writeGroups, List.filterMap_append, List.filterMap_cons_none dash, later,
            ← List.filterMap_append, List.take_append_drop]

theorem uuid_hex (id : Uuid) :
    ∀ byte ∈ (toDigits 16 32 id).map hexByte, (hexDigit byte).isSome := by
  intro byte member
  obtain ⟨digit, present, rfl⟩ := List.mem_map.mp member
  rw [hexDigit_hexByte (toDigits_lt (by decide) 32 id digit present)]
  rfl

theorem uuidPattern_text (id : Uuid) : uuidPattern id.text = true :=
  matchGroups_write (by decide) (by simp [uuidGroups]) (uuid_hex id)

theorem uuidOf_text (id : Uuid) : uuidOf id.text = id := by
  have read : ((toDigits 16 32 id).map hexByte).filterMap hexDigit = toDigits 16 32 id := by
    rw [List.filterMap_map]
    have each : ∀ digit ∈ toDigits 16 32 id, (hexDigit ∘ hexByte) digit = some digit :=
      fun digit member => hexDigit_hexByte (toDigits_lt (by decide) 32 id digit member)
    rw [List.filterMap_congr each, List.filterMap_some]
  unfold uuidOf Uuid.text
  rw [filterMap_writeGroups (by simp [uuidGroups]), read, ofDigits_toDigits]
  exact Nat.mod_eq_of_lt id.isLt

theorem hexByte_plain {digit : Nat} (bound : digit < 16) :
    Json.isPlain (hexByte digit) = true := by
  have all : ∀ digit < 16, Json.isPlain (hexByte digit) = true := by decide
  exact all digit bound

theorem writeGroups_plain {groups : List Nat} {digits : Bytes}
    (plain : digits.all Json.isPlain = true) :
    (writeGroups groups digits).all Json.isPlain = true := by
  rw [List.all_eq_true] at plain ⊢
  induction groups generalizing digits with
  | nil => simp [writeGroups]
  | cons size groups ih =>
      cases groups with
      | nil => exact fun byte member => plain byte (List.mem_of_mem_take member)
      | cons next rest =>
          intro byte member
          rcases List.mem_append.mp member with front | later
          · exact plain byte (List.mem_of_mem_take front)
          · rcases List.mem_cons.mp later with rfl | later
            · decide
            · exact ih (fun byte member => plain byte (List.mem_of_mem_drop member)) byte later

theorem uuid_plain (id : Uuid) : id.text.all Json.isPlain = true := by
  apply writeGroups_plain
  rw [List.all_map, List.all_eq_true]
  exact fun digit member => hexByte_plain (toDigits_lt (by decide) 32 id digit member)

theorem hexText_plain (bytes : Bytes) : (hexText bytes).all Json.isPlain = true := by
  rw [hexText, List.all_flatMap, List.all_eq_true]
  intro byte _
  have small := byte.toNat_lt
  simp [hexByte_plain (show byte.toNat / 16 < 16 by omega),
    hexByte_plain (show byte.toNat % 16 < 16 by omega)]

/-! ### Cursors -/

theorem set_live (c : DirectoryCursor) (live : Bool) :
    c.set (ascii ['l'], .bool live) = some { c with live } := by
  have name : Json.foldName (ascii ['l']) = ascii ['L'] := by decide
  simp [DirectoryCursor.set, name]

theorem set_count (c : DirectoryCursor) {text : Bytes} {count : Int}
    (read : Json.toInt64 text = some count) :
    c.set (ascii ['n'], .number text) = some { c with count } := by
  have name : Json.foldName (ascii ['n']) = ascii ['N'] := by decide
  have apart : ascii ['N'] ≠ ascii ['L'] := by decide
  simp [DirectoryCursor.set, name, apart, read]

theorem set_id (c : DirectoryCursor) {id : Bytes} (plain : id.all Json.isPlain = true) :
    c.set (ascii ['i', 'd'], .string id) = some { c with id } := by
  have name : Json.foldName (ascii ['i', 'd']) = ascii ['I', 'D'] := by decide
  have apart : ascii ['I', 'D'] ≠ ascii ['L'] ∧ ascii ['I', 'D'] ≠ ascii ['N'] := by decide
  simp [DirectoryCursor.set, name, apart, Json.unquoteFrom_plain plain]

theorem set_scope (c : DirectoryCursor) {scope : Bytes} (plain : scope.all Json.isPlain = true) :
    c.set (ascii ['s'], .string scope) = some { c with scope } := by
  have name : Json.foldName (ascii ['s']) = ascii ['S'] := by decide
  have apart : ascii ['S'] ≠ ascii ['L'] ∧ ascii ['S'] ≠ ascii ['N'] ∧
      ascii ['S'] ≠ ascii ['I', 'D'] := by decide
  simp [DirectoryCursor.set, name, apart, Json.unquoteFrom_plain plain]

theorem unmarshal_marshal {c : DirectoryCursor} (id : c.id.all Json.isPlain = true)
    (scope : c.scope.all Json.isPlain = true) (nonneg : 0 ≤ c.count) (bound : c.count < 2 ^ 63) :
    DirectoryCursor.unmarshal c.marshal = some c := by
  obtain ⟨n, same⟩ := Int.eq_ofNat_of_zero_le nonneg
  have bound : n < 2 ^ 63 := by
    rw [same] at bound
    exact_mod_cast bound
  have each : ∀ m ∈ [(ascii ['l'], Json.encodeBool c.live, Json.bool c.live),
      (ascii ['n'], decimal 19 n, .number (decimal 19 n)),
      (ascii ['i', 'd'], Json.quote c.id, .string c.id),
      (ascii ['s'], Json.quote c.scope, .string c.scope)],
      m.1.all Json.isPlain = true ∧ Json.Scans m.2.1 m.2.2 := by
    simp only [List.forall_mem_cons, List.not_mem_nil, false_imp_iff, implies_true, and_true]
    exact ⟨⟨by decide, Json.scans_bool _⟩, ⟨by decide, Json.scans_decimal 19 n⟩,
      ⟨by decide, Json.scans_string id⟩, ⟨by decide, Json.scans_string scope⟩⟩
  have parsed : Json.parse c.marshal = some (.object [(ascii ['l'], .bool c.live),
      (ascii ['n'], .number (decimal 19 n)), (ascii ['i', 'd'], .string c.id),
      (ascii ['s'], .string c.scope)]) := by
    have read := Json.parse_object _ (List.cons_ne_nil _ _) each
    simp only [List.map_cons, List.map_nil] at read
    simp only [DirectoryCursor.marshal, same, itoa_natCast]
    exact read
  simp only [DirectoryCursor.unmarshal, parsed, List.foldlM_cons, List.foldlM_nil, set_live,
    set_count _ (Json.toInt64_decimal bound), set_id _ id, set_scope _ scope, Option.bind_eq_bind,
    Option.bind_some, ← same]
  rfl

/-- What the cursors of the directory are checked for besides their options. -/
structure WellFormed (c : DirectoryCursor) : Prop where
  id : uuidPattern c.id = true
  count : 0 ≤ c.count

/-- The cursor of a text, whatever options it is for. -/
def decoded (text : Bytes) : Option DirectoryCursor :=
  (Base64.decode text).bind DirectoryCursor.unmarshal

section

variable {sum256 : Bytes → Bytes}

theorem decodeCursor_iff {o : ListOptions} {c : DirectoryCursor} (given : o.cursor ≠ []) :
    o.decodeCursor sum256 = .ok (some c) ↔
      decoded o.cursor = some c ∧ WellFormed c ∧ c.scope = o.scope sum256 := by
  unfold ListOptions.decodeCursor decoded
  rw [if_neg given]
  cases (Base64.decode o.cursor).bind DirectoryCursor.unmarshal with
  | none => simp
  | some other =>
      dsimp only
      split
      · rename_i refused
        simp only [reduceCtorEq, Option.some.injEq, false_iff]
        rintro ⟨rfl, formed, scope⟩
        rcases refused with id | count | apart
        · exact id formed.id
        · exact absurd formed.count (by omega)
        · exact apart scope
      · rename_i accepted
        simp only [not_or, not_not, Int.not_lt] at accepted
        simp only [Except.ok.injEq, Option.some.injEq]
        constructor
        · rintro rfl
          exact ⟨rfl, ⟨accepted.1, accepted.2.1⟩, accepted.2.2⟩
        · exact fun both => both.1

/-- The cursor behind a place in the ranking. -/
def issued (sum256 : Bytes → Bytes) (o : ListOptions) (rank : Rank) : DirectoryCursor where
  live := rank.1
  count := rank.2.1
  id := Uuid.text (Fin.ofNat _ rank.2.2)
  scope := o.scope sum256

/-- Places that a profile can have. -/
structure Placed (rank : Rank) : Prop where
  nonneg : 0 ≤ rank.2.1
  count : rank.2.1 < 2 ^ 63
  id : rank.2.2 < 2 ^ 128

theorem placed_rank (p : Profile) : Placed p.rank := by
  have small : (p.followerCount.val : Int) < 2 ^ 63 := by
    exact_mod_cast p.followerCount.isLt
  exact ⟨Int.natCast_nonneg _, small, p.id.isLt⟩

theorem issued_rank {rank : Rank} (placed : Placed rank) (o : ListOptions) :
    (issued sum256 o rank).rank = rank := by
  have same : (Fin.ofNat (2 ^ 128) rank.2.2).val = rank.2.2 := Nat.mod_eq_of_lt placed.id
  unfold issued DirectoryCursor.rank
  rw [uuidOf_text, same]

theorem decoded_issued {rank : Rank} (placed : Placed rank) (o : ListOptions) :
    decoded (encodeCursor (issued sum256 o rank)) = some (issued sum256 o rank) := by
  unfold decoded encodeCursor
  rw [Base64.decode_encode]
  exact unmarshal_marshal (uuid_plain _) (hexText_plain _) placed.nonneg placed.count

theorem wellFormed_issued {rank : Rank} (placed : Placed rank) (o : ListOptions) :
    WellFormed (issued sum256 o rank) :=
  ⟨uuidPattern_text _, placed.nonneg⟩

theorem encodeCursor_ne_nil (c : DirectoryCursor) : encodeCursor c ≠ [] :=
  Base64.encode_ne_nil (List.cons_ne_nil _ _)

theorem decodeCursor_issued {rank : Rank} (placed : Placed rank) (o : ListOptions) :
    { o with cursor := encodeCursor (issued sum256 o rank) }.decodeCursor sum256 =
      .ok (some (issued sum256 o rank)) :=
  (decodeCursor_iff (encodeCursor_ne_nil _)).mpr
    ⟨decoded_issued placed o, wellFormed_issued placed o, rfl⟩

theorem length_quote {text : Bytes} (plain : text.all Json.isPlain = true) :
    (Json.quote text).length = text.length + 2 := by
  rw [Json.quote, Json.quoteFrom_plain plain]
  simp

theorem length_uuid (id : Uuid) : id.text.length = 36 := by
  simp [Uuid.text, uuidGroups, writeGroups]

theorem length_scope (o : ListOptions) : (o.scope sum256).length ≤ 16 := by
  have pairs (bytes : Bytes) : (hexText bytes).length = 2 * bytes.length := by
    induction bytes with
    | nil => rfl
    | cons byte rest ih =>
        rw [hexText, List.flatMap_cons, List.length_append, ← hexText, ih]
        simp
        omega
  unfold ListOptions.scope
  rw [pairs, List.length_take]
  omega

theorem scope_plain (o : ListOptions) : (o.scope sum256).all Json.isPlain = true :=
  hexText_plain _

/-- A cursor that is handed out is short enough to be taken back. -/
theorem length_issued {rank : Rank} (placed : Placed rank) (o : ListOptions) :
    (encodeCursor (issued sum256 o rank)).length ≤ 512 := by
  have written := Base64.length_encode (issued sum256 o rank).marshal
  have bool (value : Bool) : (Json.encodeBool value).length ≤ 5 := by
    cases value with
    | true => decide
    | false => decide
  have live := bool (issued sum256 o rank).live
  have digits : (itoa (issued sum256 o rank).count).length ≤ 19 := by
    have nonneg : ¬ (issued sum256 o rank).count < 0 := Int.not_lt.mpr placed.nonneg
    rw [itoa, if_neg nonneg]
    exact length_decimal 18 _
  have names : (Json.quote (ascii ['l'])).length = 3 ∧ (Json.quote (ascii ['n'])).length = 3 ∧
      (Json.quote (ascii ['i', 'd'])).length = 4 ∧ (Json.quote (ascii ['s'])).length = 3 := by
    decide
  have id : (Json.quote (issued sum256 o rank).id).length = 38 :=
    (length_quote (uuid_plain _)).trans (congrArg (· + 2) (length_uuid _))
  have scope : (Json.quote (issued sum256 o rank).scope).length ≤ 18 :=
    (length_quote (scope_plain o)).le.trans (Nat.add_le_add_right (length_scope o) 2)
  have short : (issued sum256 o rank).marshal.length ≤ 128 := by
    simp only [DirectoryCursor.marshal, Json.encodeObject, Json.encodeMembers, Json.encodeMember,
      List.length_append, List.length_cons, List.length_nil, names, id]
    omega
  unfold encodeCursor
  omega

/-! ### Rows -/

theorem ranked_order : StrictOrder ranked :=
  (StrictOrder.lt.lex (StrictOrder.lt.lex StrictOrder.lt)).swap

theorem ranks_distinct {rows : List Profile} (distinct : (rows.map Profile.id).Nodup) :
    (rows.map Profile.rank).Nodup := by
  have ids : ((rows.map Profile.rank).map fun rank => rank.2.2).Nodup := by
    have values : (rows.map Profile.rank).map (fun rank => rank.2.2) =
        (rows.map Profile.id).map Fin.val := by
      simp only [List.map_map]
      rfl
    rw [values]
    exact distinct.map Fin.val_injective
  exact ids.of_map

/-- A viewer's follow of a creator joins their profile once. -/
theorem joined_once {follows : List CreatorFollow} (oneFollow : follows.Nodup) (userID : Uuid)
    (p : Profile) :
    (follows.filter fun f => f.creatorId == p.id && f.followerId == userID).map (fun _ => p) =
      if (⟨userID, p.id⟩ : CreatorFollow) ∈ follows then [p] else [] := by
  have same : (fun f : CreatorFollow => f.creatorId == p.id && f.followerId == userID) =
      fun f => f == ⟨userID, p.id⟩ := by
    funext f
    cases f
    simp [Bool.and_comm, Bool.beq_eq_decide_eq]
  rw [same, List.filter_beq, List.map_replicate]
  split
  · rename_i member
    rw [List.count_eq_one_of_mem oneFollow member]
    rfl
  · rename_i absent
    rw [List.count_eq_zero.mpr absent]
    rfl

theorem source_rows (db : Tables) {following : Bool} {userID : Option Uuid}
    (known : following = true → userID.isSome) :
    ∃ rows, db.source following userID = .ok rows ∧ (rows.map Profile.id).Nodup ∧
      ∀ p, p ∈ rows ↔ p ∈ db.profiles ∧ (following = true → ∃ viewer, userID = some viewer ∧
        ⟨viewer, p.id⟩ ∈ db.follows) := by
  cases following with
  | false => exact ⟨db.profiles, rfl, db.oneProfile, by simp⟩
  | true =>
      obtain ⟨viewer, rfl⟩ := Option.isSome_iff_exists.mp (known rfl)
      have joined : (db.profiles.flatMap fun p => (db.follows.filter fun f =>
          f.creatorId == p.id && f.followerId == viewer).map fun _ => p) =
          db.profiles.filter fun p => decide (⟨viewer, p.id⟩ ∈ db.follows) := by
        simp only [joined_once db.oneFollow]
        induction db.profiles with
        | nil => rfl
        | cons p rest ih =>
            rw [List.flatMap_cons, ih, List.filter_cons]
            split
            · rename_i member
              rw [if_pos (decide_eq_true member)]
              rfl
            · rename_i absent
              rw [if_neg (by simpa using absent)]
              rfl
      refine ⟨_, congrArg Except.ok joined, ?_, ?_⟩
      · exact db.oneProfile.sublist (List.filter_sublist.map _)
      · intro p
        simp

/-! ### Pages -/

/-- A cursor's text; the first page has none. -/
def written (sum256 : Bytes → Bytes) (o : ListOptions) : Option Rank → Bytes
  | none => []
  | some rank => encodeCursor (issued sum256 o rank)

/-- Which profiles are behind a cursor, of those in the ranking. -/
def readPage (o : ListOptions) (all : List Profile) (cursor : Option Rank) :
    List Profile × Option Rank :=
  let rows := beyond ranked Profile.rank all cursor
  (rows.take o.limit.toNat,
    if o.limit.toNat < rows.length then (rows.take o.limit.toNat).getLast?.map Profile.rank
    else none)

theorem cutPage_eq (o : ListOptions) (all : List Profile) (cursor : Option Rank) :
    cutPage sum256 o ((beyond ranked Profile.rank all cursor).take (o.limit.toNat + 1)) =
      ⟨(readPage o all cursor).1, written sum256 o (readPage o all cursor).2⟩ := by
  have length : o.limit.toNat <
      ((beyond ranked Profile.rank all cursor).take (o.limit.toNat + 1)).length ↔
        o.limit.toNat < (beyond ranked Profile.rank all cursor).length := by
    rw [List.length_take]
    omega
  unfold cutPage readPage
  simp only [List.take_take, Nat.min_eq_left (Nat.le_succ _), length]
  by_cases more : o.limit.toNat < (beyond ranked Profile.rank all cursor).length
  · simp only [if_pos more]
    cases ((beyond ranked Profile.rank all cursor).take o.limit.toNat).getLast? with
    | none => rfl
    | some last =>
        have id : Fin.ofNat (2 ^ 128) last.rank.2.2 = last.id :=
          Fin.ext (Nat.mod_eq_of_lt last.id.isLt)
        simp only [Option.map_some, written, issued, id]
        rfl
  · simp only [if_neg more, written]
    rw [List.take_of_length_le (by omega), List.take_of_length_le (by omega)]

/-- Options that are valid for the first page are valid with a cursor of their own. -/
theorem validate_cursor {o valid : ListOptions}
    (accepted : { o with cursor := [] }.validate sum256 = .ok valid) {cursor : Bytes}
    (short : cursor.length ≤ 512) {decoded : Option DirectoryCursor}
    (own : { valid with cursor }.decodeCursor sum256 = .ok decoded) :
    { o with cursor }.validate sum256 = .ok { valid with cursor } := by
  unfold ListOptions.validate at accepted ⊢
  dsimp only at accepted ⊢
  generalize (if o.limit = 0 then 24 else o.limit) = limit at accepted ⊢
  generalize trimSpace o.query = query at accepted ⊢
  split at accepted
  · cases accepted
  · rename_i within
    rw [not_or, not_or, not_or] at within
    cases first : ListOptions.decodeCursor sum256 { o with query, cursor := [], limit } with
    | error failure =>
        rw [first] at accepted
        cases accepted
    | ok start =>
        rw [first] at accepted
        obtain rfl := Except.ok.inj accepted
        rw [own, if_neg]
        · rfl
        · rw [not_or, not_or, not_or]
          exact ⟨within.1, within.2.1, within.2.2.1, Nat.not_lt.mpr short⟩

theorem decodeCursor_written (o : ListOptions) {cursor : Option Rank}
    (placed : ∀ rank, cursor = some rank → Placed rank) :
    { o with cursor := written sum256 o cursor }.decodeCursor sum256 =
      .ok (cursor.map (issued sum256 o)) := by
  cases cursor with
  | none => rfl
  | some rank => exact decodeCursor_issued (placed rank rfl) o

theorem length_written (o : ListOptions) {cursor : Option Rank}
    (placed : ∀ rank, cursor = some rank → Placed rank) :
    (written sum256 o cursor).length ≤ 512 := by
  cases cursor with
  | none => exact Nat.zero_le _
  | some rank => exact length_issued (placed rank rfl) o

/-- The profiles the options ask for, in the order of the ranking. -/
def ranking (o : ListOptions) (rows : List Profile) (found : Profile → Bool) : List Profile :=
  inOrder ranked Profile.rank
    (rows.filter fun p => p.published && (!o.live || p.isLive) && found p)

theorem ranking_pairwise (o : ListOptions) {rows : List Profile}
    (distinct : (rows.map Profile.id).Nodup) (found : Profile → Bool) :
    (ranking o rows found).Pairwise fun p q => ranked p.rank q.rank :=
  inOrder_pairwise ranked_order
    ((ranks_distinct distinct).sublist (List.filter_sublist.map Profile.rank))

/-- The rows of a query are those behind its cursor. -/
theorem list_written {search : Bytes → Option (Profile → Bool)} {db : Tables} {o : ListOptions}
    {userID : Option Uuid} {rows : List Profile} {found : Profile → Bool}
    (source : db.source o.following userID = .ok rows)
    (distinct : (rows.map Profile.id).Nodup) (taken : matching search o.query = .ok found)
    {cursor : Option Rank} (placed : ∀ rank, cursor = some rank → Placed rank) :
    db.list sum256 search { o with cursor := written sum256 o cursor } userID =
      .ok ⟨(readPage o (ranking o rows found) cursor).1,
        written sum256 o (readPage o (ranking o rows found) cursor).2⟩ := by
  have narrowed : inOrder ranked Profile.rank (rows.filter fun p =>
      p.published && (!o.live || p.isLive) && found p &&
        (cursor.map (issued sum256 o)).all fun c => decide (rowLess p.rank c.rank)) =
      beyond ranked Profile.rank (ranking o rows found) cursor := by
    cases cursor with
    | none => simp [beyond, ranking]
    | some rank =>
        simp only [Option.map_some, Option.all_some, issued_rank (placed rank rfl) o]
        rw [beyond, ranking, ← inOrder_filter ranked_order
          ((ranks_distinct distinct).sublist (List.filter_sublist.map Profile.rank)),
          List.filter_filter]
        congr 1
        apply List.filter_congr
        intro p _
        rw [Bool.and_comm]
        rfl
  unfold Tables.list
  rw [decodeCursor_written o placed]
  simp only [source, taken, bind, Except.bind, narrowed]
  exact congrArg Except.ok (cutPage_eq o _ cursor)

end

/-- A page as a client gets it, which goes on with the next cursor unless that is empty. -/
def fetch (sum256 : Bytes → Bytes) (search : Bytes → Option (Profile → Bool)) (db : Tables)
    (o : ListOptions) (userID : Option Uuid) (cursor : Bytes) :
    Option (List Profile × Option Bytes) :=
  match db.page sum256 search { o with cursor } userID with
  | .error _ => none
  | .ok page => some (page.items, if page.nextCursor = [] then none else some page.nextCursor)

/-- What a profile has to be for the options to ask for it. -/
structure Listed (db : Tables) (o : ListOptions) (userID : Option Uuid) (found : Profile → Bool)
    (p : Profile) : Prop where
  present : p ∈ db.profiles
  published : p.published = true
  live : o.live = true → p.isLive = true
  following : o.following = true → ∃ viewer, userID = some viewer ∧ ⟨viewer, p.id⟩ ∈ db.follows
  found : found p = true

structure SameList (o other : ListOptions) : Prop where
  query : o.query = other.query
  live : o.live = other.live
  following : o.following = other.following

/-- Following the cursors from the first page lists each profile once, in descending order. -/
def PagesComplete (sum256 : Bytes → Bytes) (search : Bytes → Option (Profile → Bool))
    (db : Tables) (o : ListOptions) (userID : Option Uuid) (valid : ListOptions)
    (found : Profile → Bool) : Prop :=
  ∃ all : List Profile, (∀ p, p ∈ all ↔ Listed db valid userID found p) ∧
    all.Pairwise (fun p q => rowLess q.rank p.rank) ∧
    ∀ fuel, all.length < fuel →
      followAll (fetch sum256 search db o userID) fuel [] = some all

/-- The cursors taken are those that decode to a well-formed one with the options' own scope: of
options whose scopes differ where they do, those issued for the same list. -/
def TakesOwnCursors (sum256 : Bytes → Bytes) (o : ListOptions) : Prop :=
  ∀ cursor, cursor ≠ [] →
    ((∃ c, { o with cursor }.decodeCursor sum256 = .ok c) ↔
      ∃ c, decoded cursor = some c ∧ WellFormed c ∧ c.scope = o.scope sum256) ∧
    ∀ c other, decoded cursor = some c → WellFormed c → c.scope = other.scope sum256 →
      (o.scope sum256 = other.scope sum256 → SameList o other) →
        ((∃ c, { o with cursor }.decodeCursor sum256 = .ok c) ↔ SameList o other)

variable {sum256 : Bytes → Bytes}

theorem scope_same {o other : ListOptions} (same : SameList o other) :
    o.scope sum256 = other.scope sum256 := by
  unfold ListOptions.scope
  rw [same.query, same.live, same.following]

theorem decodeCursor_taken {o : ListOptions} {cursor : Bytes} (given : cursor ≠ []) :
    (∃ c, { o with cursor }.decodeCursor sum256 = .ok c) ↔
      ∃ c, decoded cursor = some c ∧ WellFormed c ∧ c.scope = o.scope sum256 := by
  have read (c : DirectoryCursor) : { o with cursor }.decodeCursor sum256 = .ok (some c) ↔
      decoded cursor = some c ∧ WellFormed c ∧ c.scope = o.scope sum256 := decodeCursor_iff given
  constructor
  · rintro ⟨c, taken⟩
    cases c with
    | none =>
        unfold ListOptions.decodeCursor at taken
        rw [if_neg given] at taken
        split at taken
        · cases taken
        · split at taken
          · cases taken
          · cases taken
    | some c => exact ⟨c, (read c).mp taken⟩
  · rintro ⟨c, own⟩
    exact ⟨some c, (read c).mpr own⟩

theorem takesOwnCursors (o : ListOptions) : TakesOwnCursors sum256 o := by
  intro cursor given
  refine ⟨decodeCursor_taken given, ?_⟩
  intro c other decodes formed issuedFor apart
  rw [decodeCursor_taken given]
  constructor
  · rintro ⟨d, same, _, own⟩
    obtain rfl := Option.some.inj (decodes.symm.trans same)
    exact apart (own.symm.trans issuedFor)
  · intro same
    exact ⟨c, decodes, formed, issuedFor.trans (scope_same same).symm⟩

theorem fetch_written {search : Bytes → Option (Profile → Bool)} {db : Tables}
    {o valid : ListOptions} {userID : Option Uuid} {rows : List Profile} {found : Profile → Bool}
    (accepted : { o with cursor := [] }.validate sum256 = .ok valid)
    (source : db.source valid.following userID = .ok rows)
    (distinct : (rows.map Profile.id).Nodup) (taken : matching search valid.query = .ok found)
    {cursor : Option Rank} (placed : ∀ rank, cursor = some rank → Placed rank) :
    fetch sum256 search db o userID (written sum256 valid cursor) =
      some ((readPage valid (ranking valid rows found) cursor).1,
        (readPage valid (ranking valid rows found) cursor).2.map fun next =>
          written sum256 valid (some next)) := by
  have page : db.page sum256 search { o with cursor := written sum256 valid cursor } userID =
      .ok ⟨(readPage valid (ranking valid rows found) cursor).1,
        written sum256 valid (readPage valid (ranking valid rows found) cursor).2⟩ := by
    unfold Tables.page
    rw [validate_cursor accepted (length_written valid placed) (decodeCursor_written valid placed)]
    exact list_written source distinct taken placed
  unfold fetch
  rw [page]
  cases (readPage valid (ranking valid rows found) cursor).2 with
  | none => rfl
  | some next =>
      dsimp only [written]
      rw [if_neg (encodeCursor_ne_nil _)]
      rfl

theorem directory_paging_complete (search : Bytes → Option (Profile → Bool)) (db : Tables)
    (o : ListOptions) (userID : Option Uuid) {valid : ListOptions} {found : Profile → Bool}
    (accepted : { o with cursor := [] }.validate sum256 = .ok valid)
    (known : o.following = true → userID.isSome)
    (taken : matching search valid.query = .ok found) :
    PagesComplete sum256 search db o userID valid found ∧ TakesOwnCursors sum256 valid := by
  refine ⟨?_, takesOwnCursors valid⟩
  have limit : 0 < valid.limit.toNat ∧ valid.following = o.following := by
    unfold ListOptions.validate at accepted
    dsimp only at accepted
    generalize (if o.limit = 0 then 24 else o.limit) = limit at accepted
    split at accepted
    · cases accepted
    · rename_i within
      cases first : ListOptions.decodeCursor sum256
          { o with query := trimSpace o.query, cursor := [], limit } with
      | error failure =>
          rw [first] at accepted
          cases accepted
      | ok start =>
          rw [first] at accepted
          obtain rfl := Except.ok.inj accepted
          refine ⟨?_, rfl⟩
          dsimp only
          omega
  obtain ⟨rows, source, distinct, members⟩ := source_rows db (limit.2 ▸ known)
  have sorted := ranking_pairwise valid distinct found
  refine ⟨ranking valid rows found, ?_, sorted, ?_⟩
  · intro p
    simp only [ranking, mem_inOrder, List.mem_filter, members, Bool.and_eq_true, Bool.or_eq_true,
      Bool.not_eq_true']
    constructor
    · rintro ⟨⟨present, following⟩, ⟨published, live⟩, found⟩
      refine ⟨present, published, fun asked => live.resolve_left ?_, following, found⟩
      rw [asked]
      exact Bool.noConfusion
    · intro listed
      refine ⟨⟨listed.present, listed.following⟩, ⟨listed.published, ?_⟩, listed.found⟩
      cases asked : valid.live with
      | false => exact Or.inl rfl
      | true => exact Or.inr (listed.live asked)
  · intro fuel enough
    have start : ∀ rank, (none : Option Rank) = some rank → Placed rank := by
      intro rank same
      cases same
    have stays : ∀ cursor next, (readPage valid (ranking valid rows found) cursor).2 = some next →
        Placed next := by
      intro cursor next same
      unfold readPage at same
      dsimp only at same
      split at same
      · obtain ⟨last, _, rfl⟩ := Option.map_eq_some_iff.mp same
        exact placed_rank last
      · cases same
    have pages := followAll_eq (fun cursor placed =>
      fetch_written accepted source distinct taken placed) stays fuel start
    refine pages.trans ?_
    exact follow_eq ranked_order sorted limit.1 (fun _ => rfl) (fun _ => rfl) enough

def sampleProfile (id : Uuid) (followerCount : Fin (2 ^ 63)) (isLive : Bool) : Profile where
  id := id
  username := []
  displayName := []
  bio := []
  avatarURL := []
  coverURL := []
  published := true
  followerCount := followerCount
  isLive := isLive
  liveShowID := none
  liveStartedAt := none

/-- Two live creators with as many followers, and one who is not live. -/
def sampleTables : Tables where
  profiles := [sampleProfile 1 3 true, sampleProfile 2 3 true, sampleProfile 3 9 false]
  follows := []
  oneProfile := by decide
  oneFollow := List.nodup_nil

def sampleOptions : ListOptions :=
  { query := [], cursor := [], live := true, following := false, limit := 1 }

/-- The digest of `["",true,false]`, which is what these options are hashed as. -/
def sampleSum (_ : Bytes) : Bytes :=
  [164, 148, 136, 36, 56, 209, 100, 65, 74, 251, 148, 173, 116, 163, 19, 118, 44, 146, 97, 195,
    82, 44, 200, 225, 165, 168, 94, 83, 70, 153, 48, 190]

theorem sample_directory_complete :
    PagesComplete sampleSum (fun _ => none) sampleTables sampleOptions none sampleOptions
      (fun _ => true) ∧ TakesOwnCursors sampleSum sampleOptions :=
  directory_paging_complete (fun _ => none) sampleTables sampleOptions none rfl (by decide) rfl

end Bling.Directory
