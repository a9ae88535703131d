import Bling.Library.Paging

set_option autoImplicit false

namespace Library

/-! Sets whose members have scores. -/

/-- Each member is there once. -/
structure SortedSet (α : Type) where
  entries : List (α × Nat)
  distinct : (entries.map Prod.fst).Nodup

namespace SortedSet

variable {α : Type}

def empty : SortedSet α := ⟨[], List.nodup_nil⟩

/-- Only the entries that a condition matches. -/
def filter (z : SortedSet α) (p : α × Nat → Bool) : SortedSet α where
  entries := z.entries.filter p
  distinct := z.distinct.sublist (List.filter_sublist.map Prod.fst)

/-- The members up to a score. -/
def removeUpTo (z : SortedSet α) (bound : Nat) : SortedSet α :=
  z.filter fun entry => bound < entry.2

def card (z : SortedSet α) : Nat := z.entries.length

/-- The members up to a score, by score and then by name, no more than a limit that is positive. -/
def rangeUpTo (before : α → α → Prop) [DecidableRel before] (z : SortedSet α) (bound : Nat)
    (limit : Int) : List α :=
  let found := (inOrder (fun a b : Nat × α => a.1 < b.1 ∨ (a.1 = b.1 ∧ before a.2 b.2))
    (fun entry : α × Nat => (entry.2, entry.1))
    (z.entries.filter fun entry => entry.2 ≤ bound)).map Prod.fst
  if 0 < limit then found.take limit.toNat else found

variable [DecidableEq α]

def remove (z : SortedSet α) (member : α) : SortedSet α :=
  z.filter fun entry => entry.1 ≠ member

/-- A member that is there already gets the new score. -/
def add (z : SortedSet α) (member : α) (score : Nat) : SortedSet α where
  entries := (z.remove member).entries ++ [(member, score)]
  distinct := by
    rw [List.map_append, List.nodup_append]
    refine ⟨(z.remove member).distinct, List.nodup_singleton _, ?_⟩
    rintro other old _ new rfl
    obtain ⟨entry, held, rfl⟩ := List.mem_map.mp old
    obtain rfl := List.mem_singleton.mp new
    simpa using (List.mem_filter.mp held).2

def score (z : SortedSet α) (member : α) : Option Nat :=
  (z.entries.find? fun entry => entry.1 = member).map Prod.snd

theorem score_eq_some {z : SortedSet α} {member : α} {x : Nat} :
    z.score member = some x ↔ (member, x) ∈ z.entries := by
  constructor
  · intro found
    obtain ⟨⟨other, y⟩, located, rfl⟩ := Option.map_eq_some_iff.mp found
    have same : other = member := by simpa using List.find?_some located
    exact same ▸ List.mem_of_find?_eq_some located
  · intro held
    have there : (z.entries.find? fun entry => entry.1 = member).isSome := by
      rw [List.find?_isSome]
      exact ⟨_, held, by simp⟩
    obtain ⟨⟨other, y⟩, located⟩ := Option.isSome_iff_exists.mp there
    have same : other = member := by simpa using List.find?_some located
    have one := List.inj_on_of_nodup_map z.distinct (List.mem_of_find?_eq_some located) held same
    rw [score, located, Option.map_some]
    exact congrArg some (congrArg Prod.snd one)

theorem score_filter {z : SortedSet α} {p : α × Nat → Bool} {member : α} {x : Nat} :
    (z.filter p).score member = some x ↔ z.score member = some x ∧ p (member, x) = true := by
  rw [score_eq_some, score_eq_some]
  exact List.mem_filter

theorem score_removeUpTo {z : SortedSet α} {bound : Nat} {member : α} {x : Nat} :
    (z.removeUpTo bound).score member = some x ↔ z.score member = some x ∧ bound < x := by
  rw [removeUpTo, score_filter, decide_eq_true_eq]

theorem score_remove {z : SortedSet α} {member other : α} {x : Nat} :
    (z.remove member).score other = some x ↔ z.score other = some x ∧ other ≠ member := by
  rw [remove, score_filter, decide_eq_true_eq]

theorem score_add {z : SortedSet α} {member other : α} {x y : Nat} :
    (z.add member y).score other = some x ↔
      (other = member ∧ x = y) ∨ (z.score other = some x ∧ other ≠ member) := by
  rw [score_eq_some, add, List.mem_append, ← score_eq_some, score_remove, List.mem_singleton,
    Prod.mk.injEq]
  exact Or.comm

theorem card_eq_zero {z : SortedSet α} : z.card = 0 ↔ ∀ member, z.score member = none := by
  constructor
  · intro none member
    cases found : z.score member with
    | none => rfl
    | some x =>
        rw [score_eq_some, List.length_eq_zero_iff.mp none] at found
        cases found
  · intro none
    apply List.length_eq_zero_iff.mpr
    apply List.eq_nil_iff_forall_not_mem.mpr
    rintro ⟨member, x⟩ held
    rw [← score_eq_some, none] at held
    cases held

/-- A set that has lost a member and gained none is smaller. -/
theorem card_lt {z after : SortedSet α} {member : α} {x : Nat}
    (fewer : ∀ member x, after.score member = some x → z.score member = some x)
    (held : z.score member = some x) (gone : after.score member ≠ some x) :
    after.card < z.card := by
  have apart : ((member, x) :: after.entries).Nodup :=
    List.nodup_cons.mpr ⟨fun there => gone (score_eq_some.mpr there),
      List.Nodup.of_map Prod.fst after.distinct⟩
  have within : (member, x) :: after.entries ⊆ z.entries := by
    rintro ⟨other, y⟩ there
    rcases List.mem_cons.mp there with same | there
    · rw [same]
      exact score_eq_some.mp held
    · exact score_eq_some.mp (fewer other y (score_eq_some.mpr there))
  exact (List.subperm_of_subset apart within).length_le

/-- A set that has gained no member is no larger. -/
theorem card_le {z after : SortedSet α}
    (fewer : ∀ member x, after.score member = some x → z.score member = some x) :
    after.card ≤ z.card := by
  have within : after.entries ⊆ z.entries := by
    rintro ⟨other, y⟩ there
    exact score_eq_some.mp (fewer other y (score_eq_some.mpr there))
  have apart := List.Nodup.of_map Prod.fst after.distinct
  exact (List.subperm_of_subset apart within).length_le

theorem mem_rangeUpTo {before : α → α → Prop} [DecidableRel before] {z : SortedSet α}
    {bound : Nat} {limit : Int} {member : α} (listed : member ∈ z.rangeUpTo before bound limit) :
    ∃ x, z.score member = some x ∧ x ≤ bound := by
  have within : member ∈ (inOrder (fun a b : Nat × α => a.1 < b.1 ∨ (a.1 = b.1 ∧ before a.2 b.2))
      (fun entry : α × Nat => (entry.2, entry.1))
      (z.entries.filter fun entry => entry.2 ≤ bound)).map Prod.fst := by
    unfold rangeUpTo at listed
    dsimp only at listed
    split at listed
    · exact List.mem_of_mem_take listed
    · exact listed
  obtain ⟨⟨_, x⟩, held, rfl⟩ := List.mem_map.mp within
  rw [mem_inOrder, List.mem_filter] at held
  exact ⟨x, score_eq_some.mpr held.1, by simpa using held.2⟩

/-- Where none is found, there is none. -/
theorem rangeUpTo_nil {before : α → α → Prop} [DecidableRel before] {z : SortedSet α}
    {bound : Nat} {limit : Int} (none : z.rangeUpTo before bound limit = []) {member : α}
    {x : Nat} (held : z.score member = some x) : bound < x := by
  by_contra within
  have listed : (member, x) ∈ inOrder
      (fun a b : Nat × α => a.1 < b.1 ∨ (a.1 = b.1 ∧ before a.2 b.2))
      (fun entry : α × Nat => (entry.2, entry.1))
      (z.entries.filter fun entry => entry.2 ≤ bound) := by
    rw [mem_inOrder, List.mem_filter]
    exact ⟨score_eq_some.mp held, by simpa using Nat.le_of_not_lt within⟩
  unfold rangeUpTo at none
  dsimp only at none
  split at none
  · rename_i positive
    have length := congrArg List.length none
    rw [List.length_take, List.length_map, List.length_nil] at length
    have some := List.length_pos_of_mem listed
    omega
  · rw [List.map_eq_nil_iff] at none
    rw [none] at listed
    cases listed

end SortedSet

end Library
