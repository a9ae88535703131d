import Bling.Library.Table

set_option autoImplicit false

namespace Library

namespace Table

/-! Tables whose rows fall into groups, and writes that stay within one. -/

variable {α γ : Type} {group : α → γ} {g : γ} {t before after : Table α}

/-- At most one row of each group. -/
def OnePer (group : α → γ) (t : Table α) : Prop :=
  ∀ i j a b, t.get i = some a → t.get j = some b → group a = group b → i = j

/-- Rows of other groups are as they were. -/
def OnlyIn (group : α → γ) (g : γ) (before after : Table α) : Prop :=
  ∀ i a, group a ≠ g → (after.get i = some a ↔ before.get i = some a)

theorem OnePer.empty : OnePer group (Table.empty : Table α) := by
  intro i j a b found
  cases found

theorem OnePer.insert (one : OnePer group t) {a : α}
    (new : ∀ i b, t.get i = some b → group b ≠ group a) : OnePer group (t.insert a) := by
  intro i j b b' first second same
  rcases get_insert_row first with ⟨rfl, rfl⟩ | old
  · rcases get_insert_row second with ⟨rfl, rfl⟩ | old'
    · rfl
    · exact absurd same.symm (new j b' old')
  · rcases get_insert_row second with ⟨rfl, rfl⟩ | old'
    · exact absurd same (new i b old)
    · exact one i j b b' old old' same

theorem OnePer.patch (one : OnePer group t) {id : Nat} {f : α → α}
    (keeps : ∀ a, t.get id = some a → group (f a) = group a) : OnePer group (t.patch id f) := by
  have origin {i : Nat} {a : α} (found : (t.patch id f).get i = some a) :
      ∃ b, t.get i = some b ∧ group b = group a := by
    rw [get_patch] at found
    split at found
    · rename_i here
      obtain ⟨b, old, rfl⟩ := Option.map_eq_some_iff.mp found
      exact ⟨b, old, (keeps b (here ▸ old)).symm⟩
    · exact ⟨a, found, rfl⟩
  intro i j a b first second same
  obtain ⟨a', old, group⟩ := origin first
  obtain ⟨b', old', group'⟩ := origin second
  exact one i j a' b' old old' (by rw [group, group', same])

theorem OnePer.delete (one : OnePer group t) (id : Nat) : OnePer group (t.delete id) := by
  have origin {i : Nat} {a : α} (found : (t.delete id).get i = some a) : t.get i = some a := by
    rw [get_delete] at found
    split at found
    · cases found
    · exact found
  exact fun i j a b first second => one i j a b (origin first) (origin second)

theorem OnlyIn.refl (group : α → γ) (g : γ) (t : Table α) : OnlyIn group g t t :=
  fun _ _ _ => Iff.rfl

theorem OnlyIn.trans {middle : Table α} (first : OnlyIn group g before middle)
    (second : OnlyIn group g middle after) : OnlyIn group g before after :=
  fun i a other => (second i a other).trans (first i a other)

theorem OnlyIn.insert {a : α} (own : group a = g) : OnlyIn group g t (t.insert a) := by
  intro i b other
  constructor
  · intro found
    rcases get_insert_row found with ⟨_, rfl⟩ | old
    · exact absurd own other
    · exact old
  · exact fun found => get_insert_of_some found a

theorem OnlyIn.patch {id : Nat} {a : α} (found : t.get id = some a) (own : group a = g)
    {f : α → α} (keeps : group (f a) = group a) : OnlyIn group g t (t.patch id f) := by
  intro i b other
  rw [get_patch]
  by_cases here : i = id
  · subst here
    rw [if_pos rfl, found]
    constructor
    · intro same
      obtain rfl := Option.some.inj same
      exact absurd (keeps.trans own) other
    · intro same
      obtain rfl := Option.some.inj same
      exact absurd own other
  · rw [if_neg here]

theorem OnlyIn.delete {id : Nat} {a : α} (found : t.get id = some a) (own : group a = g) :
    OnlyIn group g t (t.delete id) := by
  intro i b other
  rw [get_delete]
  by_cases here : i = id
  · subst here
    rw [if_pos rfl, found]
    constructor
    · exact fun same => by cases same
    · intro same
      obtain rfl := Option.some.inj same
      exact absurd own other
  · rw [if_neg here]

theorem OnlyIn.foldl_delete {rows : List (Nat × α)}
    (each : ∀ row ∈ rows, t.get row.1 = some row.2 ∧ group row.2 = g) :
    OnlyIn group g t (rows.foldl (fun table row => table.delete row.1) t) := by
  intro i b other
  rw [get_foldl_delete]
  split
  · rename_i gone
    obtain ⟨row, member, rfl⟩ := List.mem_map.mp gone
    obtain ⟨present, same⟩ := each row member
    constructor
    · exact fun same => by cases same
    · intro found
      obtain rfl := Option.some.inj (present.symm.trans found)
      exact absurd same other
  · exact Iff.rfl

/-- Tables that agree on what a query asks for answer it alike. -/
theorem query_congr {p : α → Bool} {u : Table α}
    (same : ∀ i a, p a = true → (t.get i = some a ↔ u.get i = some a)) :
    t.query p = u.query p := by
  have sorted (t : Table α) : (t.query p).Pairwise fun a b => a.1 < b.1 := t.ordered.filter _
  have members : ∀ row, row ∈ t.query p ↔ row ∈ u.query p := by
    intro row
    rw [mem_query, mem_query]
    constructor
    · rintro ⟨found, matched⟩
      exact ⟨(same row.1 row.2 matched).mp found, matched⟩
    · rintro ⟨found, matched⟩
      exact ⟨(same row.1 row.2 matched).mpr found, matched⟩
  have distinct (t : Table α) : (t.query p).Nodup :=
    (sorted t).imp fun less same => by rw [same] at less; exact Nat.lt_irrefl _ less
  have perm := (List.perm_ext_iff_of_nodup (distinct t) (distinct u)).mpr members
  exact perm.eq_of_pairwise (fun a b _ _ less more => absurd (Nat.lt_trans less more)
    (Nat.lt_irrefl _)) (sorted t) (sorted u)

theorem OnlyIn.query_eq (only : OnlyIn group g before after) {p : α → Bool}
    (other : ∀ a, p a = true → group a ≠ g) : after.query p = before.query p :=
  query_congr fun i a matched => only i a (other a matched)

theorem query_length_delete {p : α → Bool} {id : Nat} {a : α} (found : t.get id = some a)
    (matched : p a = true) : ((t.delete id).query p).length + 1 = (t.query p).length := by
  have counted (t : Table α) : t.total p (fun _ => 1) = ((t.query p).length : Int) := by
    simp [total]
  have less := total_delete found p fun _ => 1
  rw [counted, counted, if_pos matched] at less
  omega

/-- Deleting some of what a query collects leaves that much less of it. -/
theorem query_length_foldl_delete {p : α → Bool} {rows : List (Nat × α)} {t : Table α}
    (each : ∀ row ∈ rows, t.get row.1 = some row.2 ∧ p row.2 = true)
    (distinct : (rows.map Prod.fst).Nodup) :
    ((rows.foldl (fun table row => table.delete row.1) t).query p).length + rows.length =
      (t.query p).length := by
  induction rows generalizing t with
  | nil => rfl
  | cons row rest ih =>
      obtain ⟨found, matched⟩ := each row List.mem_cons_self
      obtain ⟨apart, distinct⟩ := List.nodup_cons.mp distinct
      have later := ih (t := t.delete row.1) (fun other member => by
        obtain ⟨found, matched⟩ := each other (List.mem_cons_of_mem _ member)
        have ne : other.1 ≠ row.1 := fun same => apart (same ▸ List.mem_map_of_mem member)
        rw [get_delete, if_neg ne]
        exact ⟨found, matched⟩) distinct
      have less := query_length_delete found matched
      rw [List.foldl_cons, List.length_cons]
      omega

end Table

end Library
