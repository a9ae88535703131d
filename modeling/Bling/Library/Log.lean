import Bling.Library.Table

set_option autoImplicit false

namespace Library

namespace Table

variable {α : Type}

/-! A table as a log: rows are only added, and the last one of a kind decides. -/

/-- The row with the highest id of those that a query collects. -/
def last (t : Table α) (p : α → Bool) : Option (Nat × α) :=
  (t.query p).getLast?

def append (t : Table α) (as : List α) : Table α :=
  as.foldl insert t

@[simp] theorem append_nil (t : Table α) : t.append [] = t := rfl

@[simp] theorem append_cons (t : Table α) (a : α) (as : List α) :
    t.append (a :: as) = (t.insert a).append as := rfl

theorem getLast?_eq_iff {rows : List (Nat × α)} (ordered : rows.Pairwise fun a b => a.1 < b.1)
    (row : Nat × α) : rows.getLast? = some row ↔
      row ∈ rows ∧ ∀ other ∈ rows, other.1 ≤ row.1 := by
  rcases List.eq_nil_or_concat rows with rfl | ⟨front, final, rfl⟩
  · simp
  · rw [List.concat_eq_append] at ordered ⊢
    rw [List.getLast?_append, List.getLast?_singleton, Option.some_or]
    have before := (List.pairwise_append.mp ordered).2.2
    constructor
    · intro same
      obtain rfl := Option.some.inj same
      refine ⟨List.mem_append_right _ List.mem_cons_self, fun other member => ?_⟩
      rcases List.mem_append.mp member with early | late
      · exact Nat.le_of_lt (before other early final List.mem_cons_self)
      · rw [List.mem_singleton.mp late]
    · intro ⟨member, top⟩
      rcases List.mem_append.mp member with early | late
      · have above := top final (List.mem_append_right _ List.mem_cons_self)
        have below := before row early final List.mem_cons_self
        exact absurd above (Nat.not_le.mpr below)
      · rw [List.mem_singleton.mp late]

theorem last_eq_iff (t : Table α) (p : α → Bool) (id : Nat) (a : α) :
    t.last p = some (id, a) ↔ (t.get id = some a ∧ p a = true) ∧
      ∀ other b, t.get other = some b → p b = true → other ≤ id := by
  have ordered : (t.query p).Pairwise fun a b => a.1 < b.1 := t.ordered.filter _
  unfold last
  rw [getLast?_eq_iff ordered, mem_query]
  simp only [Prod.forall, mem_query, and_imp]

theorem last_none_iff (t : Table α) (p : α → Bool) :
    t.last p = none ↔ ∀ id a, t.get id = some a → p a = false := by
  unfold last
  rw [List.getLast?_eq_none_iff, List.eq_nil_iff_forall_not_mem]
  simp only [Prod.forall, mem_query, not_and, Bool.not_eq_true]

theorem last_insert (t : Table α) (a : α) (p : α → Bool) :
    (t.insert a).last p = if p a then some (t.next, a) else t.last p := by
  unfold last query insert
  rw [List.filter_append]
  by_cases matched : p a = true
  · rw [if_pos matched, List.filter_singleton]
    simp [matched]
  · rw [if_neg matched, List.filter_singleton]
    simp [matched]

theorem append_rows (t : Table α) (as : List α) :
    (t.append as).rows = t.rows ++ (as.zipIdx t.next).map fun row => (row.2, row.1) := by
  induction as generalizing t with
  | nil => simp
  | cons a as ih =>
      rw [append_cons, ih, List.zipIdx_cons, insert_next]
      simp [insert]

/-- The rows from the first new id on are the new ones, in order. -/
theorem append_new (t : Table α) (as : List α) :
    ((t.append as).rows.filter fun row => t.next ≤ row.1) =
      (as.zipIdx t.next).map fun row => (row.2, row.1) := by
  have old : (t.rows.filter fun row => t.next ≤ row.1) = [] := by
    refine List.filter_eq_nil_iff.mpr ?_
    intro row member
    have early := t.fresh row member
    simpa using early
  rw [append_rows, List.filter_append, old, List.nil_append, List.filter_eq_self]
  intro row member
  obtain ⟨⟨a, id⟩, taken, rfl⟩ := List.mem_map.mp member
  simpa using List.le_snd_of_mem_zipIdx taken

theorem get_append_of_some {t : Table α} {id : Nat} {b : α} (found : t.get id = some b)
    (as : List α) : (t.append as).get id = some b := by
  induction as generalizing t with
  | nil => exact found
  | cons a as ih => exact ih (get_insert_of_some found a)

/-- A row of a longer log is one it had, or one of the new. -/
theorem get_append {t : Table α} {as : List α} {id : Nat} {b : α}
    (found : (t.append as).get id = some b) : t.get id = some b ∨ t.next ≤ id ∧ b ∈ as := by
  induction as generalizing t with
  | nil => exact Or.inl found
  | cons a as ih =>
      rcases ih found with old | ⟨new, member⟩
      · rcases get_insert_row old with ⟨rfl, rfl⟩ | older
        · exact Or.inr ⟨Nat.le_refl _, List.mem_cons_self⟩
        · exact Or.inl older
      · rw [insert_next] at new
        exact Or.inr ⟨by omega, List.mem_cons_of_mem _ member⟩

/-- The last row of a kind stays where no new one is of the kind. -/
theorem last_append_of_none {t : Table α} {as : List α} {p : α → Bool}
    (none : ∀ a ∈ as, p a = false) : (t.append as).last p = t.last p := by
  induction as generalizing t with
  | nil => rfl
  | cons a as ih =>
      rw [append_cons, ih fun b member => none b (List.mem_cons_of_mem _ member), last_insert,
        if_neg (by rw [none a List.mem_cons_self]; exact Bool.false_ne_true)]

/-- Where one is, the last is new. -/
theorem last_append_of_some {t : Table α} {as : List α} {p : α → Bool} {a : α} (member : a ∈ as)
    (matched : p a = true) : ∃ id b, (t.append as).last p = some (id, b) ∧ t.next ≤ id ∧ b ∈ as := by
  induction as generalizing t a with
  | nil => cases member
  | cons c as ih =>
      by_cases later : ∃ b ∈ as, p b = true
      · obtain ⟨b, further, same⟩ := later
        obtain ⟨id, d, outcome, new, listed⟩ := ih (t := t.insert c) further same
        exact ⟨id, d, outcome, by rw [insert_next] at new; omega, List.mem_cons_of_mem _ listed⟩
      · have none : ∀ b ∈ as, p b = false := by
          intro b further
          rw [← Bool.not_eq_true]
          exact fun same => later ⟨b, further, same⟩
        rcases List.mem_cons.mp member with rfl | further
        · rw [append_cons, last_append_of_none none, last_insert, if_pos matched]
          exact ⟨t.next, a, rfl, Nat.le_refl _, List.mem_cons_self⟩
        · rw [none a further] at matched
          cases matched

end Table

end Library
