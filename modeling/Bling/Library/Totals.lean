import Mathlib.Algebra.BigOperators.Ring.List
import Bling.Library.Table

set_option autoImplicit false

namespace Library

namespace Table

/-! Totals over the rows of a table: of one row, of rows with names, and by group. -/

variable {α β ν : Type} {t : Table α} {u : Table β} {p : α → Bool} {q : β → Bool}

theorem total_single {id : Nat} {a : α} (found : t.get id = some a) (counts : p a = true)
    (only : ∀ i b, t.get i = some b → p b = true → i = id) (f : α → Int) : t.total p f = f a := by
  have alone : t.ids p = {id} := by
    ext i
    rw [mem_ids, Finset.mem_singleton]
    constructor
    · rintro ⟨b, present, kept⟩
      exact only i b present kept
    · rintro rfl
      exact ⟨a, found, counts⟩
  rw [total_eq_sum, alone, Finset.sum_singleton, valueAt_of_get found]

theorem total_mul (t : Table α) (p : α → Bool) (c : Int) (f : α → Int) :
    t.total p (fun a => c * f a) = c * t.total p f := by
  simp only [total]
  exact List.sum_map_mul_left (t.query p) (fun row => f row.2) c

theorem total_one (t : Table α) (p : α → Bool) :
    t.total p (fun _ => 1) = ((t.query p).length : Int) := by
  simp [total]

/-- If no two rows of a query have the same name, and each name is one of another query's, the
one query collects at most as much as the other. -/
theorem total_le_of_names {f : α → Int} {g : β → Int} (name : α → ν) (name' : β → ν)
    (named : ∀ id a, t.get id = some a → p a = true →
      ∃ key b, u.get key = some b ∧ q b = true ∧ name' b = name a)
    (worth : ∀ a b, p a = true → q b = true → name' b = name a → f a ≤ g b)
    (distinct : ∀ i j a b, t.get i = some a → t.get j = some b → p a = true → p b = true →
      name a = name b → i = j)
    (positive : ∀ id b, u.get id = some b → q b = true → 0 ≤ g b) :
    t.total p f ≤ u.total q g := by
  classical
  let partner (id : Nat) : Nat := ((t.get id).bind fun a =>
    (u.first fun b => q b && decide (name' b = name a)).map Prod.fst).getD 0
  have partnerOf (id : Nat) (a : α) (found : t.get id = some a) (kept : p a = true) :
      ∃ b, u.get (partner id) = some b ∧ q b = true ∧ name' b = name a := by
    obtain ⟨key, b, present, counts, same⟩ := named id a found kept
    obtain ⟨⟨key', b'⟩, outcome⟩ := Option.isSome_iff_exists.mp
      ((u.first_isSome_iff fun b => q b && decide (name' b = name a)).mpr
        ⟨key, b, present, by simp [counts, same]⟩)
    obtain ⟨located, matched⟩ := first_some outcome
    have here : partner id = key' := by
      show ((t.get id).bind _).getD 0 = key'
      rw [found, Option.bind_some, outcome]
      rfl
    simp only [Bool.and_eq_true, decide_eq_true_eq] at matched
    exact ⟨b', here ▸ located, matched⟩
  refine total_le_total partner ?_ ?_ positive
  · intro id a found kept
    obtain ⟨b, present, counts, same⟩ := partnerOf id a found kept
    exact ⟨b, present, counts, worth a b kept counts same⟩
  · intro i j a b foundA foundB keptA keptB same
    obtain ⟨c, presentA, _, sameA⟩ := partnerOf i a foundA keptA
    obtain ⟨d, presentB, _, sameB⟩ := partnerOf j b foundB keptB
    rw [same] at presentA
    obtain rfl := Option.some.inj (presentA.symm.trans presentB)
    exact distinct i j a b foundA foundB keptA keptB (sameA.symm.trans sameB)

/-- A total is the sum of what belongs to each row of another table. -/
theorem total_by_group (group : α → Option Nat)
    (belongs : ∀ id a, t.get id = some a → p a = true →
      ∃ key b, group a = some key ∧ u.get key = some b ∧ q b = true) (f : α → Int) :
    t.total p f = ∑ key ∈ u.ids q, t.total (fun a => p a && group a == some key) f := by
  let groupAt (id : Nat) : Nat := ((t.get id).bind group).getD 0
  have groupAt_eq {id key : Nat} {a : α} (found : t.get id = some a)
      (of : group a = some key) : groupAt id = key := by
    show ((t.get id).bind group).getD 0 = key
    rw [found, Option.bind_some, of]
    rfl
  have maps : ∀ id ∈ t.ids p, groupAt id ∈ u.ids q := by
    intro id member
    obtain ⟨a, found, kept⟩ := (t.mem_ids p id).mp member
    obtain ⟨key, b, of, present, counts⟩ := belongs id a found kept
    rw [groupAt_eq found of]
    exact (u.mem_ids q key).mpr ⟨b, present, counts⟩
  rw [total_eq_sum, ← Finset.sum_fiberwise_of_maps_to maps]
  refine Finset.sum_congr rfl ?_
  intro key _
  rw [total_eq_sum]
  refine Finset.sum_congr ?_ fun _ _ => rfl
  ext id
  rw [Finset.mem_filter, mem_ids, mem_ids]
  constructor
  · rintro ⟨⟨a, found, kept⟩, same⟩
    obtain ⟨key', b, of, _, _⟩ := belongs id a found kept
    obtain rfl := (groupAt_eq found of).symm.trans same
    exact ⟨a, found, by simp [kept, of]⟩
  · rintro ⟨a, found, kept⟩
    rw [Bool.and_eq_true, beq_iff_eq] at kept
    exact ⟨⟨a, found, kept.1⟩, groupAt_eq found kept.2⟩

end Table

end Library
