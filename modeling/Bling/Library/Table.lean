import Mathlib.Algebra.BigOperators.Group.List.Basic
import Mathlib.Algebra.Order.BigOperators.Group.Finset
import Mathlib.Algebra.Order.BigOperators.Group.List
import Mathlib.Data.List.Pairwise
import Mathlib.Tactic.Ring

set_option autoImplicit false

namespace Library

/-- What a sequence of fallible steps returns, its second step has. -/
theorem bind_ok {ε α β : Type} {x : Except ε α} {f : α → Except ε β} {b : β}
    (ok : (x >>= f) = .ok b) : ∃ a, x = .ok a ∧ f a = .ok b := by
  cases x with
  | error e => cases ok
  | ok a => exact ⟨a, rfl, ok⟩

/-- A document table: rows in creation order, under ids that are never reused. -/
structure Table (α : Type) where
  rows : List (Nat × α)
  next : Nat
  ordered : rows.Pairwise fun a b => a.1 < b.1
  fresh : ∀ row ∈ rows, row.1 < next

namespace Table

variable {α β : Type}

def empty : Table α := ⟨[], 0, List.Pairwise.nil, by simp⟩

def get (t : Table α) (id : Nat) : Option α :=
  (t.rows.find? fun row => row.1 == id).map Prod.snd

/-- The new row takes the id `t.next`. -/
def insert (t : Table α) (a : α) : Table α where
  rows := t.rows ++ [(t.next, a)]
  next := t.next + 1
  ordered := by
    refine List.pairwise_append.mpr ⟨t.ordered, List.pairwise_singleton _ _, ?_⟩
    intro row member new isNew
    rw [List.mem_singleton.mp isNew]
    exact t.fresh row member
  fresh := by
    intro row member
    rcases List.mem_append.mp member with old | new
    · exact Nat.lt_succ_of_lt (t.fresh row old)
    · rw [List.mem_singleton.mp new]
      exact Nat.lt_succ_self t.next

def patch (t : Table α) (id : Nat) (f : α → α) : Table α where
  rows := t.rows.map fun row => if row.1 = id then (row.1, f row.2) else row
  next := t.next
  ordered := by
    refine List.pairwise_map.mpr (t.ordered.imp ?_)
    intro a b before
    split <;> split <;> exact before
  fresh := by
    intro row member
    obtain ⟨old, present, rfl⟩ := List.mem_map.mp member
    split <;> exact t.fresh old present

/-- An update of every row that a condition matches. -/
def patchWhere (t : Table α) (p : α → Bool) (f : α → α) : Table α where
  rows := t.rows.map fun row => if p row.2 then (row.1, f row.2) else row
  next := t.next
  ordered := by
    refine List.pairwise_map.mpr (t.ordered.imp ?_)
    intro a b before
    split <;> split <;> exact before
  fresh := by
    intro row member
    obtain ⟨old, present, rfl⟩ := List.mem_map.mp member
    split <;> exact t.fresh old present

def delete (t : Table α) (id : Nat) : Table α where
  rows := t.rows.filter fun row => row.1 != id
  next := t.next
  ordered := t.ordered.filter _
  fresh := fun row member => t.fresh row (List.mem_filter.mp member).1

/-- The same rows, seen through `f`. -/
def map {β : Type} (t : Table α) (f : α → β) : Table β where
  rows := t.rows.map fun row => (row.1, f row.2)
  next := t.next
  ordered := List.pairwise_map.mpr t.ordered
  fresh := by
    intro row member
    obtain ⟨before, held, rfl⟩ := List.mem_map.mp member
    exact t.fresh before held

/-- The rows an index query collects, in creation order. -/
def query (t : Table α) (p : α → Bool) : List (Nat × α) :=
  t.rows.filter fun row => p row.2

/-- The row an index query's `first` returns. -/
def first (t : Table α) (p : α → Bool) : Option (Nat × α) :=
  t.rows.find? fun row => p row.2

/-- The sum of `f` over the rows a query collects. -/
def total (t : Table α) (p : α → Bool) (f : α → Int) : Int :=
  ((t.query p).map fun row => f row.2).sum

/-! ### Lookups -/

theorem find?_id {rows : List (Nat × α)} (ordered : rows.Pairwise fun a b => a.1 < b.1)
    {id : Nat} {a : α} (member : (id, a) ∈ rows) :
    rows.find? (fun row => row.1 == id) = some (id, a) := by
  induction rows with
  | nil => cases member
  | cons head rest ih =>
      obtain ⟨below, restOrdered⟩ := List.pairwise_cons.mp ordered
      rcases List.mem_cons.mp member with rfl | inRest
      · simp
      · have apart : (head.1 == id) = false := by
          have := below (id, a) inRest
          simp only [beq_eq_false_iff_ne]
          omega
        rw [List.find?_cons, apart]
        exact ih restOrdered inRest

theorem mem_rows_iff (t : Table α) (id : Nat) (a : α) : (id, a) ∈ t.rows ↔ t.get id = some a := by
  constructor
  · intro member
    simp only [get, find?_id t.ordered member, Option.map_some]
  · intro found
    obtain ⟨row, located, rfl⟩ := Option.map_eq_some_iff.mp found
    have same : row.1 = id := by simpa using List.find?_some located
    rw [← same]
    exact List.mem_of_find?_eq_some located

theorem get_lt {t : Table α} {id : Nat} {a : α} (found : t.get id = some a) : id < t.next :=
  t.fresh _ ((t.mem_rows_iff id a).mpr found)

theorem get_next (t : Table α) : t.get t.next = none := by
  cases found : t.get t.next with
  | none => rfl
  | some a => exact absurd (get_lt found) (Nat.lt_irrefl _)

theorem ne_next {t : Table α} {id : Nat} {a : α} (found : t.get id = some a) : id ≠ t.next :=
  Nat.ne_of_lt (get_lt found)

@[simp, grind =] theorem get_empty (id : Nat) : (empty : Table α).get id = none := rfl

@[simp] theorem insert_next (t : Table α) (a : α) : (t.insert a).next = t.next + 1 := rfl

@[simp] theorem patch_next (t : Table α) (id : Nat) (f : α → α) : (t.patch id f).next = t.next := rfl

@[grind =] theorem get_insert (t : Table α) (a : α) (id : Nat) :
    (t.insert a).get id = if id = t.next then some a else t.get id := by
  ext b
  rw [← mem_rows_iff]
  by_cases new : id = t.next
  · subst new
    have absent : (t.next, b) ∉ t.rows := fun member =>
      absurd (t.fresh _ member) (Nat.lt_irrefl _)
    simp [insert, absent, eq_comm]
  · simp [insert, new, mem_rows_iff]

@[simp] theorem get_insert_next (t : Table α) (a : α) : (t.insert a).get t.next = some a := by
  rw [get_insert, if_pos rfl]

theorem get_insert_of_some {t : Table α} {id : Nat} {b : α} (found : t.get id = some b) (a : α) :
    (t.insert a).get id = some b := by
  rw [get_insert, if_neg (ne_next found), found]

@[grind =] theorem get_patch (t : Table α) (key id : Nat) (f : α → α) :
    (t.patch key f).get id = if id = key then (t.get id).map f else t.get id := by
  ext b
  rw [← mem_rows_iff]
  simp only [patch, List.mem_map, Prod.exists]
  constructor
  · rintro ⟨i, a, member, moved⟩
    rw [mem_rows_iff] at member
    split at moved
    · rename_i same
      obtain ⟨rfl, rfl⟩ := Prod.mk.inj moved
      rw [if_pos same, member, Option.map_some]
    · rename_i apart
      obtain ⟨rfl, rfl⟩ := Prod.mk.inj moved
      rw [if_neg apart, member]
  · intro found
    split at found
    · rename_i same
      obtain ⟨a, present, rfl⟩ := Option.map_eq_some_iff.mp found
      exact ⟨id, a, (t.mem_rows_iff id a).mpr present, by rw [if_pos same]⟩
    · rename_i apart
      exact ⟨id, b, (t.mem_rows_iff id b).mpr found, by rw [if_neg apart]⟩

theorem get_patchWhere (t : Table α) (p : α → Bool) (f : α → α) (id : Nat) :
    (t.patchWhere p f).get id = (t.get id).map fun a => if p a then f a else a := by
  ext b
  rw [← mem_rows_iff]
  simp only [patchWhere, List.mem_map, Prod.exists, Option.map_eq_some_iff]
  constructor
  · rintro ⟨i, a, member, moved⟩
    refine ⟨a, ?_⟩
    rw [mem_rows_iff] at member
    split at moved
    · rename_i matched
      obtain ⟨rfl, rfl⟩ := Prod.mk.inj moved
      exact ⟨member, by rw [if_pos matched]⟩
    · rename_i unmatched
      obtain ⟨rfl, rfl⟩ := Prod.mk.inj moved
      exact ⟨member, by rw [if_neg unmatched]⟩
  · rintro ⟨a, present, rfl⟩
    refine ⟨id, a, (t.mem_rows_iff id a).mpr present, ?_⟩
    split <;> rfl

@[simp] theorem get_patch_self {t : Table α} {id : Nat} {a : α} (found : t.get id = some a)
    (f : α → α) : (t.patch id f).get id = some (f a) := by
  rw [get_patch, if_pos rfl, found, Option.map_some]

theorem get_patch_of_ne {key id : Nat} (apart : id ≠ key) (t : Table α) (f : α → α) :
    (t.patch key f).get id = t.get id := by
  rw [get_patch, if_neg apart]

@[ext] theorem ext {t u : Table α} (rows : t.rows = u.rows) (next : t.next = u.next) : t = u := by
  cases t
  cases u
  cases rows
  cases next
  rfl

/-- A row of a patched table is the patched row, or a row it had. -/
theorem get_patch_row {t : Table α} {key id : Nat} {a b : α} {f : α → α}
    (present : t.get key = some a) (found : (t.patch key f).get id = some b) :
    (id = key ∧ b = f a) ∨ (id ≠ key ∧ t.get id = some b) := by
  by_cases here : id = key
  · rw [here, get_patch_self present] at found
    exact Or.inl ⟨here, (Option.some.inj found).symm⟩
  · rw [get_patch_of_ne here] at found
    exact Or.inr ⟨here, found⟩

/-- A row of a table with one more is the new row, or a row it had. -/
theorem get_insert_row {t : Table α} {id : Nat} {a b : α}
    (found : (t.insert a).get id = some b) : (id = t.next ∧ b = a) ∨ t.get id = some b := by
  rw [get_insert] at found
  split at found
  · rename_i here
    exact Or.inl ⟨here, (Option.some.inj found).symm⟩
  · exact Or.inr found

/-- A patch that changes nothing in the row it finds is no change. -/
theorem patch_eq_self {t : Table α} {id : Nat} {f : α → α}
    (same : ∀ a, t.get id = some a → f a = a) : t.patch id f = t := by
  refine Table.ext ?_ rfl
  refine (List.map_congr_left ?_).trans (List.map_id t.rows)
  rintro ⟨key, a⟩ member
  by_cases found : key = id
  · subst found
    simp [same a ((t.mem_rows_iff key a).mp member)]
  · simp [found]

theorem patch_patch (t : Table α) (id : Nat) (f g : α → α) :
    (t.patch id f).patch id g = t.patch id fun a => g (f a) := by
  refine Table.ext ?_ rfl
  simp only [patch, List.map_map]
  refine List.map_congr_left ?_
  intro row _
  by_cases found : row.1 = id <;> simp [found]

/-- Only what the patch does to the row it finds matters. -/
theorem patch_congr {t : Table α} {id : Nat} {f g : α → α}
    (same : ∀ a, t.get id = some a → f a = g a) : t.patch id f = t.patch id g := by
  refine Table.ext ?_ rfl
  refine List.map_congr_left ?_
  rintro ⟨key, a⟩ member
  by_cases found : key = id
  · subst found
    simp [same a ((t.mem_rows_iff key a).mp member)]
  · simp [found]

/-- A patch that a query doesn't notice doesn't change what it finds first. -/
theorem first_patch (t : Table α) (id : Nat) {f : α → α} {p : α → Bool}
    (unnoticed : ∀ a, p (f a) = p a) : (t.patch id f).first p =
      (t.first p).map fun row => if row.1 = id then (row.1, f row.2) else row := by
  unfold first patch
  dsimp only
  rw [List.find?_map]
  congr 1
  congr 1
  funext row
  simp only [Function.comp]
  split
  · exact unnoticed row.2
  · rfl

/-- Patching the row just inserted is inserting the patched row. -/
theorem patch_insert_next (t : Table α) (a : α) (f : α → α) :
    (t.insert a).patch t.next f = t.insert (f a) := by
  refine Table.ext ?_ rfl
  simp only [patch, insert, List.map_append, List.map_cons, List.map_nil, if_true]
  congr 1
  refine (List.map_congr_left ?_).trans (List.map_id t.rows)
  intro row member
  rw [if_neg (Nat.ne_of_lt (t.fresh row member))]
  rfl

@[grind =] theorem get_delete (t : Table α) (key id : Nat) :
    (t.delete key).get id = if id = key then none else t.get id := by
  ext b
  rw [← mem_rows_iff]
  by_cases same : id = key
  · simp [delete, same]
  · simp [delete, same, mem_rows_iff]

/-! ### Queries -/

@[grind →] theorem first_some {t : Table α} {p : α → Bool} {id : Nat} {a : α}
    (found : t.first p = some (id, a)) : t.get id = some a ∧ p a = true := by
  unfold first at found
  have matched := List.find?_some found
  exact ⟨(t.mem_rows_iff id a).mp (List.mem_of_find?_eq_some found), matched⟩

theorem first_row {t : Table α} {p : α → Bool} {row : Nat × α} (found : t.first p = some row) :
    t.get row.1 = some row.2 ∧ p row.2 = true :=
  first_some found

/-- A row that is found is found among more rows too. -/
theorem first_insert {t : Table α} {p : α → Bool} {row : Nat × α} (found : t.first p = some row)
    (a : α) : (t.insert a).first p = some row := by
  unfold first at found ⊢
  simp only [insert, List.find?_append, found, Option.some_or]

theorem first_none_iff (t : Table α) (p : α → Bool) :
    t.first p = none ↔ ∀ id a, t.get id = some a → p a = false := by
  simp only [first, List.find?_eq_none, Prod.forall, mem_rows_iff, Bool.not_eq_true]

theorem first_none {t : Table α} {p : α → Bool} (absent : t.first p = none) {id : Nat} {a : α}
    (found : t.get id = some a) : p a = false :=
  (first_none_iff t p).mp absent id a found

/-- A query that matches a row finds one. -/
theorem exists_first {t : Table α} {p : α → Bool} {id : Nat} {a : α} (found : t.get id = some a)
    (matched : p a = true) : ∃ key b, t.first p = some (key, b) ∧ t.get key = some b ∧ p b = true := by
  cases outcome : t.first p with
  | none =>
      have := first_none outcome found
      rw [matched] at this
      cases this
  | some row => exact ⟨row.1, row.2, rfl, first_some outcome⟩

theorem first_isSome_iff (t : Table α) (p : α → Bool) :
    (t.first p).isSome = true ↔ ∃ id a, t.get id = some a ∧ p a = true := by
  constructor
  · intro found
    obtain ⟨⟨id, a⟩, outcome⟩ := Option.isSome_iff_exists.mp found
    exact ⟨id, a, first_some outcome⟩
  · rintro ⟨id, a, found, matched⟩
    obtain ⟨key, b, outcome, _⟩ := exists_first found matched
    rw [outcome]
    rfl

/-- A new row that a query doesn't match doesn't change what it finds. -/
theorem first_insert_other {t : Table α} {a : α} {p : α → Bool} (apart : p a = false) :
    (t.insert a).first p = t.first p := by
  simp only [first, insert, List.find?_append, List.find?_cons, apart, List.find?_nil,
    Option.or_none]

/-- A query that at most one row matches finds that row. -/
theorem first_of_unique {t : Table α} {p : α → Bool} {id : Nat} {a : α} (found : t.get id = some a)
    (matched : p a = true) (unique : ∀ key b, t.get key = some b → p b = true → key = id) :
    t.first p = some (id, a) := by
  obtain ⟨key, b, outcome, present, agrees⟩ := exists_first found matched
  have same := unique key b present agrees
  subst same
  rw [outcome, Option.some.inj (present.symm.trans found)]

theorem mem_query (t : Table α) (p : α → Bool) (id : Nat) (a : α) :
    (id, a) ∈ t.query p ↔ t.get id = some a ∧ p a = true := by
  simp only [query, List.mem_filter, mem_rows_iff]

theorem get_foldl_delete (rows : List (Nat × α)) (t : Table α) (id : Nat) :
    (rows.foldl (fun table row => table.delete row.1) t).get id =
      if id ∈ rows.map Prod.fst then none else t.get id := by
  induction rows generalizing t with
  | nil => simp
  | cons row rest ih =>
      rw [List.foldl_cons, ih, get_delete]
      by_cases here : id = row.1
      · simp [here]
      · simp only [here, List.map_cons, List.mem_cons, false_or, if_false]

/-- Deleting what a query collects leaves the rows it doesn't match. -/
theorem get_delete_query (t : Table α) (p : α → Bool) (id : Nat) (a : α) :
    ((t.query p).foldl (fun table row => table.delete row.1) t).get id = some a ↔
      t.get id = some a ∧ p a = false := by
  rw [get_foldl_delete]
  constructor
  · intro found
    split at found
    · cases found
    · rename_i kept
      refine ⟨found, ?_⟩
      by_contra matched
      apply kept
      exact List.mem_map.mpr ⟨(id, a), (t.mem_query p id a).mpr ⟨found, by simpa using matched⟩, rfl⟩
  · rintro ⟨found, unmatched⟩
    rw [if_neg]
    · exact found
    · intro member
      obtain ⟨⟨key, b⟩, collected, rfl⟩ := List.mem_map.mp member
      obtain ⟨present, matched⟩ := (t.mem_query p key b).mp collected
      rw [Option.some.inj (found.symm.trans present), matched] at unmatched
      cases unmatched

/-! ### Totals -/

theorem query_nodup (t : Table α) (p : α → Bool) : ((t.query p).map Prod.fst).Nodup := by
  refine List.pairwise_map.mpr ((t.ordered.filter _).imp ?_)
  intro a b before same
  rw [same] at before
  exact Nat.lt_irrefl _ before

theorem total_eq (t : Table α) (p : α → Bool) (f : α → Int) :
    t.total p f = (t.rows.map fun row => if p row.2 then f row.2 else 0).sum := by
  simp only [total, query]
  induction t.rows with
  | nil => rfl
  | cons head rest ih =>
      by_cases kept : p head.2 <;> simp [kept, ih]

@[simp] theorem total_empty (p : α → Bool) (f : α → Int) : (empty : Table α).total p f = 0 := rfl

theorem total_insert (t : Table α) (a : α) (p : α → Bool) (f : α → Int) :
    (t.insert a).total p f = t.total p f + if p a then f a else 0 := by
  simp only [total_eq, insert, List.map_append, List.sum_append, List.map_cons, List.map_nil,
    List.sum_cons, List.sum_nil, Int.add_zero]

theorem total_delete {t : Table α} {id : Nat} {a : α} (found : t.get id = some a)
    (p : α → Bool) (f : α → Int) :
    (t.delete id).total p f = t.total p f - if p a then f a else 0 := by
  have member := (t.mem_rows_iff id a).mpr found
  have ordered := t.ordered
  simp only [total_eq, delete]
  generalize t.rows = rows at member ordered
  induction rows with
  | nil => cases member
  | cons head rest ih =>
      obtain ⟨below, restOrdered⟩ := List.pairwise_cons.mp ordered
      rcases List.mem_cons.mp member with rfl | inRest
      · have kept : (rest.filter fun row => row.1 != id) = rest := by
          refine List.filter_eq_self.mpr ?_
          intro row present
          have := below row present
          simp only [bne_iff_ne]
          omega
        simp [kept]
      · have apart : head.1 ≠ id := by
          have := below (id, a) inRest
          omega
        simp only [List.filter_cons, bne_iff_ne, ne_eq, apart, not_false_eq_true, if_true,
          List.map_cons, List.sum_cons, ih inRest restOrdered]
        ring

theorem total_congr {t : Table α} {p q : α → Bool} {f g : α → Int}
    (same : ∀ id a, t.get id = some a → (if p a then f a else 0) = if q a then g a else 0) :
    t.total p f = t.total q g := by
  simp only [total_eq]
  refine congrArg List.sum (List.map_congr_left ?_)
  rintro ⟨id, a⟩ member
  exact same id a ((t.mem_rows_iff id a).mp member)

theorem total_zero {t : Table α} {p : α → Bool} {f : α → Int}
    (none : ∀ id a, t.get id = some a → p a = true → f a = 0) : t.total p f = 0 := by
  have cleared : t.total p f = t.total (fun _ => false) f := by
    refine total_congr ?_
    intro id a found
    by_cases kept : p a
    · simp [kept, none id a found kept]
    · simp [kept]
  rw [cleared]
  simp [total, query]

theorem total_add (t : Table α) (p : α → Bool) (f g : α → Int) :
    t.total p f + t.total p g = t.total p fun a => f a + g a := by
  simp only [total, List.sum_map_add]

theorem total_or (t : Table α) (p q : α → Bool) (f : α → Int)
    (apart : ∀ a, p a = true → q a = false) :
    t.total (fun a => p a || q a) f = t.total p f + t.total q f := by
  simp only [total_eq]
  rw [← List.sum_map_add]
  refine congrArg List.sum (List.map_congr_left ?_)
  intro row _
  by_cases left : p row.2
  · simp [left, apart row.2 left]
  · simp [left]

/-- The rows of a query split by a second condition. -/
theorem total_split (t : Table α) (p q : α → Bool) (f : α → Int) :
    t.total p f = t.total (fun a => p a && q a) f + t.total (fun a => p a && !q a) f := by
  rw [← total_or]
  · refine total_congr ?_
    intro id a _
    by_cases kept : q a <;> simp [kept]
  · intro a both
    simp only [Bool.and_eq_true] at both
    simp [both.2]

theorem total_nonneg {t : Table α} {p : α → Bool} {f : α → Int}
    (positive : ∀ id a, t.get id = some a → p a = true → 0 ≤ f a) : 0 ≤ t.total p f := by
  refine List.sum_nonneg ?_
  intro value member
  obtain ⟨⟨id, a⟩, kept, rfl⟩ := List.mem_map.mp member
  obtain ⟨found, matched⟩ := (t.mem_query p id a).mp kept
  exact positive id a found matched

theorem sum_map_update {rows : List (Nat × α)} (ordered : rows.Pairwise fun a b => a.1 < b.1)
    {id : Nat} {a : α} (member : (id, a) ∈ rows) (f : α → α) (g : α → Int) :
    (rows.map fun row => g (if row.1 = id then (row.1, f row.2) else row).2).sum =
      (rows.map fun row => g row.2).sum - g a + g (f a) := by
  induction rows with
  | nil => cases member
  | cons head rest ih =>
      obtain ⟨below, restOrdered⟩ := List.pairwise_cons.mp ordered
      simp only [List.map_cons, List.sum_cons]
      rcases List.mem_cons.mp member with rfl | inRest
      · have untouched : (rest.map fun row => g (if row.1 = id then (row.1, f row.2) else row).2) =
            rest.map fun row => g row.2 := by
          refine List.map_congr_left ?_
          intro row present
          have := below row present
          rw [if_neg (by omega)]
        rw [untouched, if_pos rfl]
        ring
      · have apart : head.1 ≠ id := by
          have := below (id, a) inRest
          omega
        rw [if_neg apart, ih restOrdered inRest]
        ring

/-- Patching one row changes a total by that row's contribution only. -/
theorem total_patch {t : Table α} {id : Nat} {a : α} (found : t.get id = some a) (f : α → α)
    (p : α → Bool) (g : α → Int) :
    (t.patch id f).total p g = t.total p g - (if p a then g a else 0) +
      if p (f a) then g (f a) else 0 := by
  simp only [total_eq, patch, List.map_map]
  exact sum_map_update t.ordered ((t.mem_rows_iff id a).mpr found) f
    (fun b => if p b then g b else 0)

/-! ### Comparing totals -/

/-- The ids of the rows a query collects. -/
def ids (t : Table α) (p : α → Bool) : Finset Nat := ((t.query p).map Prod.fst).toFinset

theorem mem_ids (t : Table α) (p : α → Bool) (id : Nat) :
    id ∈ t.ids p ↔ ∃ a, t.get id = some a ∧ p a = true := by
  simp only [ids, List.mem_toFinset, List.mem_map, Prod.exists, mem_query, exists_and_right,
    exists_eq_right]

def valueAt (t : Table α) (f : α → Int) (id : Nat) : Int := ((t.get id).map f).getD 0

theorem valueAt_of_get {t : Table α} {id : Nat} {a : α} (found : t.get id = some a) (f : α → Int) :
    t.valueAt f id = f a := by
  rw [valueAt, found, Option.map_some, Option.getD_some]

theorem total_eq_sum (t : Table α) (p : α → Bool) (f : α → Int) :
    t.total p f = ∑ id ∈ t.ids p, t.valueAt f id := by
  have distinct : ((t.query p).map Prod.fst).Nodup :=
    List.pairwise_map.mpr ((t.ordered.filter _).imp Nat.ne_of_lt)
  rw [ids, List.sum_toFinset _ distinct, total, List.map_map]
  refine congrArg List.sum (List.map_congr_left ?_)
  rintro ⟨id, a⟩ member
  exact (valueAt_of_get ((t.mem_query p id a).mp member).1 f).symm

/-- If every row a query collects has a partner of its own in another table
that is worth no less, the one total is at most the other. -/
theorem total_le_total {t : Table α} {u : Table β} {p : α → Bool} {q : β → Bool} {f : α → Int}
    {g : β → Int} (partner : Nat → Nat)
    (maps : ∀ id a, t.get id = some a → p a = true →
      ∃ b, u.get (partner id) = some b ∧ q b = true ∧ f a ≤ g b)
    (injective : ∀ i j a b, t.get i = some a → t.get j = some b → p a = true → p b = true →
      partner i = partner j → i = j)
    (positive : ∀ id b, u.get id = some b → q b = true → 0 ≤ g b) :
    t.total p f ≤ u.total q g := by
  have apart : Set.InjOn partner (t.ids p) := by
    intro i memberI j memberJ same
    obtain ⟨a, foundA, keptA⟩ := (t.mem_ids p i).mp memberI
    obtain ⟨b, foundB, keptB⟩ := (t.mem_ids p j).mp memberJ
    exact injective i j a b foundA foundB keptA keptB same
  have within : (t.ids p).image partner ⊆ u.ids q := by
    intro key member
    obtain ⟨id, present, rfl⟩ := Finset.mem_image.mp member
    obtain ⟨a, found, kept⟩ := (t.mem_ids p id).mp present
    obtain ⟨b, located, matched, _⟩ := maps id a found kept
    exact (u.mem_ids q _).mpr ⟨b, located, matched⟩
  calc t.total p f
      = ∑ id ∈ t.ids p, t.valueAt f id := total_eq_sum t p f
    _ ≤ ∑ id ∈ t.ids p, u.valueAt g (partner id) := by
        refine Finset.sum_le_sum ?_
        intro id member
        obtain ⟨a, found, kept⟩ := (t.mem_ids p id).mp member
        obtain ⟨b, located, _, below⟩ := maps id a found kept
        rw [valueAt_of_get found, valueAt_of_get located]
        exact below
    _ = ∑ key ∈ (t.ids p).image partner, u.valueAt g key := (Finset.sum_image apart).symm
    _ ≤ ∑ key ∈ u.ids q, u.valueAt g key := by
        refine Finset.sum_le_sum_of_subset_of_nonneg within ?_
        intro key member _
        obtain ⟨b, located, matched⟩ := (u.mem_ids q key).mp member
        rw [valueAt_of_get located]
        exact positive key b located matched
    _ = u.total q g := (total_eq_sum u q g).symm

/-! ### Rows that live on -/

section Follow

variable {becomes : Nat → α → α → Prop} {starts : α → Prop}

/-- Every row lives on as what it may become, and at most one row is new, which
starts as it should. -/
structure Follow (becomes : Nat → α → α → Prop) (starts : α → Prop) (before after : Table α) :
    Prop where
  kept : ∀ id a, before.get id = some a → ∃ b, after.get id = some b ∧ becomes id a b
  origin : ∀ id b, after.get id = some b →
    (∃ a, before.get id = some a ∧ becomes id a b) ∨ (id = before.next ∧ starts b)

theorem Follow.refl (stays : ∀ id a, becomes id a a) (t : Table α) : Follow becomes starts t t :=
  ⟨fun id a found => ⟨a, found, stays id a⟩, fun id b found => Or.inl ⟨b, found, stays id b⟩⟩

theorem Follow.of_eq (stays : ∀ id a, becomes id a a) {before after : Table α}
    (same : after = before) : Follow becomes starts before after := by
  rw [same]
  exact .refl stays before

theorem Follow.patch (stays : ∀ id a, becomes id a a) {t : Table α} {id : Nat} {f : α → α}
    (moves : ∀ a, t.get id = some a → becomes id a (f a)) :
    Follow becomes starts t (t.patch id f) := by
  constructor
  · intro key a found
    rw [get_patch, found]
    split
    · rename_i here
      subst here
      exact ⟨_, rfl, moves a found⟩
    · exact ⟨a, rfl, stays key a⟩
  · intro key b found
    rw [get_patch] at found
    split at found
    · rename_i here
      subst here
      obtain ⟨a, present, rfl⟩ := Option.map_eq_some_iff.mp found
      exact Or.inl ⟨a, present, moves a present⟩
    · exact Or.inl ⟨b, found, stays key b⟩

/-- The same, for a row that is known. -/
theorem Follow.patch_row (stays : ∀ id a, becomes id a a) {t : Table α} {id : Nat} {a : α}
    {f : α → α} (present : t.get id = some a) (moves : becomes id a (f a)) :
    Follow becomes starts t (t.patch id f) := by
  refine .patch stays ?_
  intro b found
  obtain rfl := Option.some.inj (present.symm.trans found)
  exact moves

theorem Follow.patchWhere (stays : ∀ id a, becomes id a a) {t : Table α} {p : α → Bool} {f : α → α}
    (moves : ∀ id a, t.get id = some a → p a = true → becomes id a (f a)) :
    Follow becomes starts t (t.patchWhere p f) := by
  have lives (id : Nat) (a : α) (found : t.get id = some a) :
      becomes id a (if p a then f a else a) := by
    split
    · rename_i matched
      exact moves id a found matched
    · exact stays id a
  constructor
  · intro id a found
    exact ⟨_, by rw [get_patchWhere, found, Option.map_some], lives id a found⟩
  · intro id b found
    rw [get_patchWhere] at found
    obtain ⟨a, present, rfl⟩ := Option.map_eq_some_iff.mp found
    exact Or.inl ⟨a, present, lives id a present⟩

theorem get_foldl_patch_other {β : Type} {rows : List (Nat × β)} {id : Nat}
    (unlisted : id ∉ rows.map Prod.fst) (f : Nat × β → α → α) (t : Table α) :
    (rows.foldl (fun t row => t.patch row.1 (f row)) t).get id = t.get id := by
  induction rows generalizing t with
  | nil => rfl
  | cons row rest ih =>
      rw [List.map_cons, List.mem_cons, not_or] at unlisted
      rw [List.foldl_cons, ih unlisted.2, get_patch_of_ne unlisted.1]

/-- Rows that are updated in turn, each once, change independently. -/
theorem get_foldl_patch {β : Type} {rows : List (Nat × β)} (apart : (rows.map Prod.fst).Nodup)
    {row : Nat × β} (member : row ∈ rows) (f : Nat × β → α → α) (t : Table α) :
    (rows.foldl (fun t row => t.patch row.1 (f row)) t).get row.1 = (t.get row.1).map (f row) := by
  induction rows generalizing t with
  | nil => cases member
  | cons first rest ih =>
      obtain ⟨unrepeated, restApart⟩ := List.nodup_cons.mp apart
      rw [List.foldl_cons]
      rcases List.mem_cons.mp member with rfl | later
      · rw [get_foldl_patch_other unrepeated, get_patch, if_pos rfl]
      · have ne : row.1 ≠ first.1 := by
          intro same
          exact unrepeated (List.mem_map.mpr ⟨row, later, same⟩)
        rw [ih restApart later, get_patch_of_ne ne]

theorem Follow.foldl_patch {β : Type} (stays : ∀ id a, becomes id a a) {rows : List (Nat × β)}
    (apart : (rows.map Prod.fst).Nodup) {f : Nat × β → α → α} (t : Table α)
    (moves : ∀ row ∈ rows, ∀ a, t.get row.1 = some a → becomes row.1 a (f row a)) :
    Follow becomes starts t (rows.foldl (fun t row => t.patch row.1 (f row)) t) := by
  constructor
  · intro id a found
    by_cases listed : id ∈ rows.map Prod.fst
    · obtain ⟨row, member, rfl⟩ := List.mem_map.mp listed
      exact ⟨f row a, by rw [get_foldl_patch apart member, found, Option.map_some],
        moves row member a found⟩
    · exact ⟨a, (get_foldl_patch_other listed f t).trans found, stays id a⟩
  · intro id b found
    left
    by_cases listed : id ∈ rows.map Prod.fst
    · obtain ⟨row, member, rfl⟩ := List.mem_map.mp listed
      rw [get_foldl_patch apart member] at found
      obtain ⟨a, present, rfl⟩ := Option.map_eq_some_iff.mp found
      exact ⟨a, present, moves row member a present⟩
    · exact ⟨b, (get_foldl_patch_other listed f t).symm.trans found, stays id b⟩

theorem Follow.insert (stays : ∀ id a, becomes id a a) (t : Table α) {a : α} (new : starts a) :
    Follow becomes starts t (t.insert a) := by
  constructor
  · intro id b found
    exact ⟨b, get_insert_of_some found a, stays id b⟩
  · intro id b found
    rw [get_insert] at found
    split at found
    · rename_i here
      obtain rfl := Option.some.inj found
      exact Or.inr ⟨here, new⟩
    · exact Or.inl ⟨b, found, stays id b⟩

/-- One follows on another, if a new row of the first starts as one of both. -/
theorem Follow.trans {further : Nat → α → α → Prop} {begins : α → Prop} {a b c : Table α}
    (first : Follow becomes starts a b) (second : Follow further begins b c)
    (compose : ∀ id x y z, becomes id x y → further id y z → becomes id x z)
    (none : ∀ x, begins x → False) (grows : ∀ id x y, starts x → further id x y → starts y) :
    Follow becomes starts a c := by
  constructor
  · intro id x found
    obtain ⟨y, located, lives⟩ := first.kept id x found
    obtain ⟨z, kept, goes⟩ := second.kept id y located
    exact ⟨z, kept, compose id x y z lives goes⟩
  · intro id z found
    rcases second.origin id z found with ⟨y, located, goes⟩ | ⟨_, new⟩
    · rcases first.origin id y located with ⟨x, present, lives⟩ | ⟨fresh, starting⟩
      · exact Or.inl ⟨x, present, compose id x y z lives goes⟩
      · exact Or.inr ⟨fresh, grows id y z starting goes⟩
    · exact absurd new (none z)

/-- What the rows have and keep, and new rows start with, all rows have. -/
theorem Follow.forall {before after : Table α} (follow : Follow becomes starts before after)
    {holds : α → Prop} (old : ∀ id a, before.get id = some a → holds a)
    (keeps : ∀ id a b, becomes id a b → holds a → holds b) (begins : ∀ a, starts a → holds a)
    {id : Nat} {b : α} (found : after.get id = some b) : holds b := by
  rcases follow.origin id b found with ⟨a, present, lives⟩ | ⟨_, new⟩
  · exact keeps id a b lives (old id a present)
  · exact begins b new

theorem Follow.mono {weaker : Nat → α → α → Prop} {looser : α → Prop} {before after : Table α}
    (follow : Follow becomes starts before after)
    (weakens : ∀ id a b, becomes id a b → weaker id a b)
    (loosens : ∀ a, starts a → looser a) : Follow weaker looser before after := by
  constructor
  · intro id a found
    obtain ⟨b, located, lives⟩ := follow.kept id a found
    exact ⟨b, located, weakens id a b lives⟩
  · intro id b found
    rcases follow.origin id b found with ⟨a, present, lives⟩ | ⟨first, new⟩
    · exact Or.inl ⟨a, present, weakens id a b lives⟩
    · exact Or.inr ⟨first, loosens b new⟩

end Follow

end Table

end Library
