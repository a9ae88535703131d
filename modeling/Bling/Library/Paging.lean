import Mathlib.Data.List.Sort

set_option autoImplicit false

namespace Library

/-! Rows in a strict order of their keys, read a page at a time behind a cursor. -/

structure StrictOrder {κ : Type} (before : κ → κ → Prop) : Prop where
  irrefl : ∀ a, ¬ before a a
  trans : ∀ a b c, before a b → before b c → before a c
  total : ∀ a b, a ≠ b → before a b ∨ before b a

namespace StrictOrder

variable {κ η : Type} {before : κ → κ → Prop} {next : η → η → Prop}

theorem asymm (order : StrictOrder before) {a b : κ} (one : before a b) : ¬ before b a :=
  fun other => order.irrefl a (order.trans a b a one other)

theorem lt [LinearOrder κ] : StrictOrder fun a b : κ => a < b :=
  ⟨lt_irrefl, fun _ _ _ => lt_trans, fun _ _ => lt_or_gt_of_ne⟩

/-- The other way around. -/
theorem swap (order : StrictOrder before) : StrictOrder fun a b => before b a :=
  ⟨order.irrefl, fun a b c one other => order.trans c b a other one,
    fun a b apart => (order.total a b apart).symm⟩

/-- By one key, and where that is equal by another. -/
theorem lex (first : StrictOrder before) (second : StrictOrder next) :
    StrictOrder fun a b : κ × η => before a.1 b.1 ∨ (a.1 = b.1 ∧ next a.2 b.2) := by
  refine ⟨?_, ?_, ?_⟩
  · rintro a (one | ⟨_, one⟩)
    · exact first.irrefl a.1 one
    · exact second.irrefl a.2 one
  · rintro a b c (one | ⟨same, one⟩) (other | ⟨same', other⟩)
    · exact Or.inl (first.trans _ _ _ one other)
    · exact Or.inl (same' ▸ one)
    · exact Or.inl (same ▸ other)
    · exact Or.inr ⟨same.trans same', second.trans _ _ _ one other⟩
  · intro a b apart
    by_cases same : a.1 = b.1
    · have apart : a.2 ≠ b.2 := fun same' => apart (Prod.ext same same')
      rcases second.total a.2 b.2 apart with one | other
      · exact Or.inl (Or.inr ⟨same, one⟩)
      · exact Or.inr (Or.inr ⟨same.symm, other⟩)
    · rcases first.total a.1 b.1 same with one | other
      · exact Or.inl (Or.inl one)
      · exact Or.inr (Or.inl other)

end StrictOrder

variable {α κ : Type} {before : κ → κ → Prop} [DecidableRel before] {key : α → κ}

/-- The rows in the order of their keys. -/
def inOrder (before : κ → κ → Prop) [DecidableRel before] (key : α → κ) (rows : List α) : List α :=
  rows.insertionSort fun a b => ¬ before (key b) (key a)

/-- The rows behind the position of a cursor. -/
def beyond (before : κ → κ → Prop) [DecidableRel before] (key : α → κ) (rows : List α) :
    Option κ → List α
  | none => rows
  | some cursor => rows.filter fun a => before cursor (key a)

@[simp] theorem mem_inOrder (rows : List α) (a : α) : a ∈ inOrder before key rows ↔ a ∈ rows :=
  List.mem_insertionSort _

@[simp] theorem inOrder_length (rows : List α) : (inOrder before key rows).length = rows.length :=
  List.length_insertionSort _ _

variable (before key) in
theorem inOrder_perm (rows : List α) : (inOrder before key rows).Perm rows :=
  List.perm_insertionSort _ _

/-- Rows with keys of their own are in the strict order. -/
theorem inOrder_pairwise (order : StrictOrder before) {rows : List α}
    (distinct : (rows.map key).Nodup) :
    (inOrder before key rows).Pairwise fun a b => before (key a) (key b) := by
  have apart : (inOrder before key rows).Pairwise fun a b => key a ≠ key b := by
    have moved := ((inOrder_perm before key rows).map key).nodup_iff.mpr distinct
    exact List.pairwise_map.mp moved
  have total : Std.Total fun a b : α => ¬ before (key b) (key a) := by
    refine ⟨fun a b => ?_⟩
    by_cases one : before (key b) (key a)
    · exact Or.inr (order.asymm one)
    · exact Or.inl one
  have trans : IsTrans α fun a b => ¬ before (key b) (key a) := by
    refine ⟨fun a b c one other backward => ?_⟩
    by_cases same : key b = key a
    · exact other (same ▸ backward)
    · rcases order.total _ _ same with forward | after
      · exact one forward
      · exact other (order.trans _ _ _ backward after)
  have sorted : (inOrder before key rows).Pairwise fun a b => ¬ before (key b) (key a) :=
    List.pairwise_insertionSort _ rows
  refine (sorted.and apart).imp ?_
  intro a b both
  rcases order.total _ _ both.2 with forward | backward
  · exact forward
  · exact absurd backward both.1

omit [DecidableRel before] in
/-- There is one way to put rows in the strict order. -/
theorem ordered_unique (order : StrictOrder before) {first second : List α}
    (sorted : first.Pairwise fun a b => before (key a) (key b))
    (sorted' : second.Pairwise fun a b => before (key a) (key b))
    (same : ∀ a, a ∈ first ↔ a ∈ second) : first = second := by
  have apart {rows : List α} (sorted : rows.Pairwise fun a b => before (key a) (key b)) :
      rows.Nodup := by
    refine sorted.imp ?_
    rintro a b less rfl
    exact order.irrefl _ less
  have perm := (List.perm_ext_iff_of_nodup (apart sorted) (apart sorted')).mpr same
  exact perm.eq_of_pairwise (fun a b _ _ less more => absurd more (order.asymm less)) sorted sorted'

theorem map_inOrder {β : Type} (f : α → β) (key : β → κ) (rows : List α) :
    (inOrder before (fun a => key (f a)) rows).map f = inOrder before key (rows.map f) :=
  List.map_insertionSort _ _ f rows fun _ _ _ _ => Iff.rfl

theorem inOrder_filter (order : StrictOrder before) {rows : List α}
    (distinct : (rows.map key).Nodup) (p : α → Bool) :
    inOrder before key (rows.filter p) = (inOrder before key rows).filter p := by
  apply ordered_unique order
  · exact inOrder_pairwise order (distinct.sublist (List.filter_sublist.map key))
  · exact (inOrder_pairwise order distinct).filter p
  · intro a
    simp only [mem_inOrder, List.mem_filter]

theorem beyond_pairwise {rows : List α}
    (ordered : rows.Pairwise fun a b => before (key a) (key b)) (cursor : Option κ) :
    (beyond before key rows cursor).Pairwise fun a b => before (key a) (key b) := by
  cases cursor with
  | none => exact ordered
  | some position => exact ordered.filter _

@[simp] theorem mem_beyond {rows : List α} {cursor : Option κ} {a : α} :
    a ∈ beyond before key rows cursor ↔
      a ∈ rows ∧ ∀ position, cursor = some position → before position (key a) := by
  cases cursor with
  | none => simp [beyond]
  | some position => simp [beyond]

/-- Behind the last row of a page are the rows that came after the page. -/
theorem beyond_last (order : StrictOrder before) {rows : List α}
    (ordered : rows.Pairwise fun a b => before (key a) (key b)) {cursor : Option κ}
    {front back : List α} {last : α}
    (split : beyond before key rows cursor = front ++ last :: back) :
    beyond before key rows (some (key last)) = back := by
  have narrowed : beyond before key rows (some (key last)) =
      (beyond before key rows cursor).filter fun a => before (key last) (key a) := by
    cases cursor with
    | none => rfl
    | some position =>
        have member : last ∈ rows.filter fun a => before position (key a) := by
          have split : (rows.filter fun a => before position (key a)) = front ++ last :: back :=
            split
          rw [split]
          simp
        have passed : before position (key last) := by simpa using (List.mem_filter.mp member).2
        simp only [beyond, List.filter_filter]
        apply List.filter_congr
        intro a _
        by_cases later : before (key last) (key a)
        · simp [later, order.trans _ _ _ passed later]
        · simp [later]
  have sublist := beyond_pairwise ordered cursor
  rw [split] at sublist
  obtain ⟨_, later, earlier⟩ := List.pairwise_append.mp sublist
  rw [narrowed, split, List.filter_append, List.filter_cons, if_neg (by simpa using order.irrefl _)]
  have none : (front.filter fun a => before (key last) (key a)) = [] := by
    apply List.filter_eq_nil_iff.mpr
    intro a member
    have := order.asymm (earlier a member last List.mem_cons_self)
    simpa using this
  have all : (back.filter fun a => before (key last) (key a)) = back := by
    apply List.filter_eq_self.mpr
    intro a member
    simpa using (List.pairwise_cons.mp later).1 a member
  rw [none, all, List.nil_append]

/-- The rows after a full page are those behind its last one. -/
theorem beyond_take (order : StrictOrder before) {rows : List α}
    (ordered : rows.Pairwise fun a b => before (key a) (key b)) {cursor : Option κ} {size : Nat}
    {last : α} (found : ((beyond before key rows cursor).take size).getLast? = some last) :
    beyond before key rows (some (key last)) = (beyond before key rows cursor).drop size := by
  obtain ⟨front, page⟩ := List.getLast?_eq_some_iff.mp found
  have split : beyond before key rows cursor =
      front ++ last :: (beyond before key rows cursor).drop size := by
    rw [← List.singleton_append, ← List.append_assoc, ← page, List.take_append_drop]
  exact beyond_last order ordered split

omit [DecidableRel before] in
/-- A row that comes after a page is behind its last one, and the page is full. -/
theorem last_before {rows : List α} (ordered : rows.Pairwise fun a b => before (key a) (key b))
    {size : Nat} {a : α} (member : a ∈ rows) (off : a ∉ rows.take size) :
    (rows.take size).length = size ∧
      ∀ last, (rows.take size).getLast? = some last → before (key last) (key a) := by
  rw [← List.take_append_drop size rows] at member
  have rest := (List.mem_append.mp member).resolve_left off
  constructor
  · have more := List.length_pos_of_mem rest
    rw [List.length_drop] at more
    rw [List.length_take]
    omega
  · intro last found
    have sorted : (rows.take size ++ rows.drop size).Pairwise fun a b =>
        before (key a) (key b) := by
      rw [List.take_append_drop]
      exact ordered
    exact (List.pairwise_append.mp sorted).2.2 last (List.mem_of_getLast? found) a rest

/-- The rows a page of the first `size` keeps are those that have fewer before them. -/
theorem mem_take_iff (order : StrictOrder before) {rows : List α}
    (ordered : rows.Pairwise fun a b => before (key a) (key b)) {size : Nat} {a : α} :
    a ∈ rows.take size ↔
      a ∈ rows ∧ (rows.filter fun b => before (key b) (key a)).length < size := by
  have split {front back : List α} (whole : rows = front ++ a :: back) :
      (rows.filter fun b => before (key b) (key a)) = front := by
    subst whole
    have sorted := List.pairwise_append.mp ordered
    have kept : (front.filter fun b => before (key b) (key a)) = front := by
      apply List.filter_eq_self.mpr
      intro b member
      simpa using sorted.2.2 b member a List.mem_cons_self
    have dropped : ((a :: back).filter fun b => before (key b) (key a)) = [] := by
      apply List.filter_eq_nil_iff.mpr
      intro b member
      rcases List.mem_cons.mp member with rfl | later
      · simpa using order.irrefl (key b)
      · simpa using order.asymm ((List.pairwise_cons.mp sorted.2.1).1 b later)
    rw [List.filter_append, kept, dropped, List.append_nil]
  constructor
  · intro member
    have within := List.mem_of_mem_take member
    refine ⟨within, ?_⟩
    obtain ⟨front, back, page⟩ := List.append_of_mem member
    have whole : rows = front ++ a :: (back ++ rows.drop size) := by
      calc rows = rows.take size ++ rows.drop size := (List.take_append_drop _ _).symm
        _ = front ++ a :: (back ++ rows.drop size) := by rw [page]; simp
    rw [split whole]
    have length := congrArg List.length page
    simp only [List.length_take, List.length_append, List.length_cons] at length
    omega
  · rintro ⟨member, few⟩
    obtain ⟨front, back, whole⟩ := List.append_of_mem member
    rw [split whole] at few
    rw [whole, List.take_append, List.mem_append]
    obtain ⟨more, rest⟩ : ∃ more, size - front.length = more + 1 :=
      ⟨size - front.length - 1, by omega⟩
    rw [rest, List.take_succ_cons]
    exact Or.inr List.mem_cons_self

theorem mem_take_inOrder (order : StrictOrder before) {rows : List α}
    (distinct : (rows.map key).Nodup) {size : Nat} {a : α} :
    a ∈ (inOrder before key rows).take size ↔
      a ∈ rows ∧ (rows.filter fun b => before (key b) (key a)).length < size := by
  rw [mem_take_iff order (inOrder_pairwise order distinct), mem_inOrder,
    ((inOrder_perm before key rows).filter _).length_eq]

/-- Leaving out rows that are not on the first page does not change that page. -/
theorem take_filter_eq {rows : List α} {p : α → Bool} {size : Nat}
    (kept : ∀ a ∈ rows.take size, p a = true) :
    (rows.filter p).take size = rows.take size := by
  have whole := List.take_append_drop size rows
  by_cases short : rows.length ≤ size
  · rw [List.take_of_length_le short] at kept ⊢
    rw [List.filter_eq_self.mpr kept, List.take_of_length_le short]
  · have full : (rows.take size).length = size := by
      rw [List.length_take]
      omega
    calc (rows.filter p).take size
        = ((rows.take size ++ rows.drop size).filter p).take size := by rw [whole]
      _ = (rows.take size ++ (rows.drop size).filter p).take size := by
          rw [List.filter_append, List.filter_eq_self.mpr kept]
      _ = rows.take size := List.take_left' full

/-! ### Samples of groups -/

variable {γ : Type}

/-- The first rows of all groups are among the first rows of each. -/
theorem take_sampled (order : StrictOrder before) {groups : List γ} {items : γ → List α}
    (distinct : ((groups.flatMap items).map key).Nodup) (size : Nat) :
    (inOrder before key
        (groups.flatMap fun g => (inOrder before key (items g)).take size)).take size =
      (inOrder before key (groups.flatMap items)).take size := by
  classical
  let sampled := groups.flatMap fun g => (inOrder before key (items g)).take size
  have whole := distinct
  rw [List.map_flatMap, List.nodup_flatMap] at whole
  have within {g : γ} {a : α} (first : a ∈ (inOrder before key (items g)).take size) :
      a ∈ items g := (mem_inOrder _ _).mp (List.mem_of_mem_take first)
  have keys {g : γ} {x : κ} (first : x ∈ ((inOrder before key (items g)).take size).map key) :
      x ∈ (items g).map key := by
    obtain ⟨a, member, rfl⟩ := List.mem_map.mp first
    exact List.mem_map_of_mem (within member)
  have distinct' : (sampled.map key).Nodup := by
    rw [List.map_flatMap, List.nodup_flatMap]
    constructor
    · intro g member
      have sorted := ((inOrder_perm before key (items g)).map key).nodup_iff.mpr (whole.1 g member)
      exact sorted.sublist ((List.take_sublist _ _).map key)
    · refine whole.2.imp ?_
      intro g other apart x here there
      exact apart (keys here) (keys there)
  have kept : ∀ a ∈ (inOrder before key (groups.flatMap items)).take size,
      decide (a ∈ sampled) = true := by
    intro a first
    obtain ⟨member, few⟩ := (mem_take_inOrder order distinct).mp first
    obtain ⟨g, group, item⟩ := List.mem_flatMap.mp member
    rw [decide_eq_true_eq]
    have part : (items g).Sublist (groups.flatMap items) :=
      List.sublist_flatten_of_mem (List.mem_map_of_mem group)
    have fewer := (part.filter fun b => decide (before (key b) (key a))).length_le
    have first := (mem_take_inOrder order (whole.1 g group)).mpr ⟨item, fewer.trans_lt few⟩
    exact List.mem_flatMap.mpr ⟨g, group, first⟩
  have filtered : inOrder before key sampled =
      (inOrder before key (groups.flatMap items)).filter fun a => decide (a ∈ sampled) := by
    apply ordered_unique order
    · exact inOrder_pairwise order distinct'
    · exact (inOrder_pairwise order distinct).filter _
    · intro a
      rw [mem_inOrder, List.mem_filter, mem_inOrder, decide_eq_true_eq]
      constructor
      · intro member
        obtain ⟨g, group, item⟩ := List.mem_flatMap.mp member
        exact ⟨List.mem_flatMap.mpr ⟨g, group, within item⟩, member⟩
      · exact fun both => both.2
  rw [filtered]
  exact take_filter_eq kept

/-- So many of each group are enough to count so many of all. -/
theorem length_sampled {groups : List γ} {items : γ → List α} (size : Nat) :
    ((groups.flatMap fun g => (items g).take size).take size).length =
      min size (groups.flatMap items).length := by
  rw [List.length_take]
  induction groups with
  | nil => rfl
  | cons g groups ih =>
      simp only [List.flatMap_cons, List.length_append, List.length_take]
      omega

/-! ### Reading all pages -/

/-- What is read by asking for pages until there is no further cursor. -/
def follow (fetch : Option κ → List α × Option κ) : Nat → Option κ → Option (List α)
  | 0, _ => none
  | fuel + 1, cursor =>
    match (fetch cursor).2 with
    | none => some (fetch cursor).1
    | some next => (follow fetch fuel (some next)).map ((fetch cursor).1 ++ ·)

/-- Pages of `size`, each with a cursor where there is more, read all rows in order. -/
theorem follow_eq (order : StrictOrder before) {rows : List α}
    (ordered : rows.Pairwise fun a b => before (key a) (key b)) {size : Nat} (positive : 0 < size)
    {fetch : Option κ → List α × Option κ}
    (page : ∀ cursor, (fetch cursor).1 = (beyond before key rows cursor).take size)
    (next : ∀ cursor, (fetch cursor).2 =
      if size < (beyond before key rows cursor).length then
        (fetch cursor).1.getLast?.map key else none)
    {fuel : Nat} {cursor : Option κ}
    (enough : (beyond before key rows cursor).length < fuel) :
    follow fetch fuel cursor = some (beyond before key rows cursor) := by
  induction fuel generalizing cursor with
  | zero => exact absurd enough (Nat.not_lt_zero _)
  | succ fuel ih =>
      rw [follow, next, page]
      by_cases more : size < (beyond before key rows cursor).length
      · rw [if_pos more]
        have filled : (beyond before key rows cursor).take size ≠ [] := by
          intro empty
          have := congrArg List.length empty
          simp only [List.length_take, List.length_nil] at this
          omega
        obtain ⟨last, found⟩ := Option.isSome_iff_exists.mp (List.getLast?_isSome.mpr filled)
        have rest := beyond_take order ordered found
        rw [found]
        show (follow fetch fuel (some (key last))).map _ = _
        have fewer : (beyond before key rows (some (key last))).length < fuel := by
          rw [rest, List.length_drop]
          omega
        rw [ih fewer, rest]
        simp
      · rw [if_neg more]
        simp only [Option.some.injEq]
        exact List.take_of_length_le (by omega)

variable {η : Type}

/-- Pages under cursors of another form, of which any may be refused. -/
def followAll (fetch : η → Option (List α × Option η)) : Nat → η → Option (List α)
  | 0, _ => none
  | fuel + 1, cursor => (fetch cursor).bind fun page =>
    match page.2 with
    | none => some page.1
    | some next => (followAll fetch fuel next).map (page.1 ++ ·)

/-- Cursors that are written and read back lead through the same pages. -/
theorem followAll_eq {fetch : η → Option (List α × Option η)}
    {read : Option κ → List α × Option κ} {write : Option κ → η} {valid : κ → Prop}
    (pages : ∀ cursor, (∀ position, cursor = some position → valid position) →
      fetch (write cursor) = some ((read cursor).1, (read cursor).2.map fun next =>
        write (some next)))
    (stays : ∀ cursor next, (read cursor).2 = some next → valid next) (fuel : Nat)
    {cursor : Option κ} (start : ∀ position, cursor = some position → valid position) :
    followAll fetch fuel (write cursor) = follow read fuel cursor := by
  induction fuel generalizing cursor with
  | zero => rfl
  | succ fuel ih =>
      rw [followAll, follow, pages cursor start, Option.bind_some]
      cases next : (read cursor).2 with
      | none => rfl
      | some position =>
          have later : ∀ other, some position = some other → valid other := by
            intro other same
            exact stays cursor other (next.trans same)
          simp only [Option.map_some]
          rw [ih later]

end Library
