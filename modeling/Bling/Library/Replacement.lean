import Bling.Library.Table

set_option autoImplicit false

namespace Library

namespace Table

/-! Rows that are replaced together. -/

variable {α : Type} (t : Table α) (p : α → Bool)

/-- The rows that match make way for others. -/
def replaceWhere (added : List α) : Table α :=
  added.foldl Table.insert ((t.query p).foldl (fun table row => table.delete row.1) t)

theorem query_insert (a : α) (q : α → Bool) :
    (t.insert a).query q = t.query q ++ (if q a then [(t.next, a)] else []) := by
  show (t.rows ++ [(t.next, a)]).filter _ = _
  rw [List.filter_append]
  cases matched : q a with
  | false => simp [matched, Table.query]
  | true => simp [matched, Table.query]

theorem query_foldl_insert (added : List α) (q : α → Bool) :
    ((added.foldl Table.insert t).query q).map Prod.snd =
      (t.query q).map Prod.snd ++ added.filter q := by
  induction added generalizing t with
  | nil => simp
  | cons a rest ih =>
      rw [List.foldl_cons, ih, query_insert]
      cases matched : q a with
      | false => simp [matched]
      | true => simp [matched]

theorem foldl_delete_rows (rows : List (Nat × α)) :
    (rows.foldl (fun table row => table.delete row.1) t).rows =
      t.rows.filter fun row => decide (row.1 ∉ rows.map Prod.fst) := by
  induction rows generalizing t with
  | nil => simp
  | cons first rest ih =>
      rw [List.foldl_cons, ih]
      show (t.rows.filter _).filter _ = _
      rw [List.filter_filter]
      refine List.filter_congr fun row _ => ?_
      rw [Bool.eq_iff_iff, List.map_cons]
      simp only [Bool.and_eq_true, decide_eq_true_eq, bne_iff_ne, List.mem_cons, not_or]
      exact and_comm

/-- What a query collects is gone when it is deleted, and nothing else is. -/
theorem delete_query_rows :
    ((t.query p).foldl (fun table row => table.delete row.1) t).rows =
      t.rows.filter fun row => !p row.2 := by
  rw [foldl_delete_rows]
  refine List.filter_congr fun row member => ?_
  obtain ⟨id, a⟩ := row
  have present := (mem_rows_iff t id a).mp member
  have collected : id ∈ (t.query p).map Prod.fst ↔ p a = true := by
    constructor
    · intro listed
      obtain ⟨⟨key, b⟩, inside, rfl⟩ := List.mem_map.mp listed
      obtain ⟨there, matched⟩ := (t.mem_query p key b).mp inside
      rwa [Option.some.inj (present.symm.trans there)]
    · intro matched
      exact List.mem_map.mpr ⟨(id, a), (t.mem_query p id a).mpr ⟨present, matched⟩, rfl⟩
  cases matched : p a with
  | false => simp [collected, matched]
  | true => simp [collected, matched]

variable {t p} {added : List α}

/-- Just the new rows match then. -/
theorem query_replaceWhere (match_ : ∀ a ∈ added, p a = true) :
    ((t.replaceWhere p added).query p).map Prod.snd = added := by
  unfold replaceWhere
  rw [query_foldl_insert, List.filter_eq_self.mpr match_]
  have cleared : ((t.query p).foldl (fun table row => table.delete row.1) t).query p = [] := by
    unfold Table.query
    rw [show (t.rows.filter fun row => p row.2) = t.query p from rfl, delete_query_rows,
      List.filter_filter, List.filter_eq_nil_iff]
    intro row _
    simp
  rw [cleared]
  rfl

theorem query_foldl_insert_none {q : α → Bool} (new : ∀ a ∈ added, q a = false) :
    (added.foldl Table.insert t).query q = t.query q := by
  induction added generalizing t with
  | nil => rfl
  | cons a rest ih =>
      rw [List.foldl_cons, ih fun b member => new b (List.mem_cons_of_mem _ member), query_insert,
        if_neg (by simp [new a List.mem_cons_self]), List.append_nil]

/-- Queries for other rows find what they found. -/
theorem query_replaceWhere_other {q : α → Bool} (new : ∀ a ∈ added, q a = false)
    (old : ∀ a, p a = true → q a = false) : (t.replaceWhere p added).query q = t.query q := by
  unfold replaceWhere
  rw [query_foldl_insert_none new]
  unfold Table.query
  rw [show (t.rows.filter fun row => p row.2) = t.query p from rfl, delete_query_rows,
    List.filter_filter]
  refine List.filter_congr fun row _ => ?_
  cases matched : p row.2 with
  | false => simp
  | true => simp [old row.2 matched]

theorem get_foldl_insert_old {id : Nat} (low : id < t.next) :
    (added.foldl Table.insert t).get id = t.get id := by
  induction added generalizing t with
  | nil => rfl
  | cons a rest ih =>
      rw [List.foldl_cons, ih (Nat.lt_succ_of_lt low), get_insert, if_neg (Nat.ne_of_lt low)]

theorem get_replaceWhere_other {id : Nat} {a : α} (present : t.get id = some a)
    (unmatched : p a = false) : (t.replaceWhere p added).get id = some a := by
  have kept := (get_delete_query t p id a).mpr ⟨present, unmatched⟩
  unfold replaceWhere
  rw [get_foldl_insert_old (get_lt kept)]
  exact kept

end Table

end Library
