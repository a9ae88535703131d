import Mathlib.Algebra.Order.Field.Basic
import Mathlib.Data.Finset.Max
import Mathlib.Order.Interval.Finset.Nat
import Mathlib.Data.List.Sort
import Mathlib.Tactic.Linarith
import Mathlib.Tactic.FieldSimp

set_option autoImplicit false

namespace Library

/-! A draw from an ordered list: a random point between the times of its two
ends, and the first element at or after that point. -/

variable {α K : Type}

/-- In an ordered list, `find?` finds the least element of those it looks for. -/
theorem find_least {le : α → α → Prop} (reflexive : ∀ a, le a a) {l : List α}
    (antisymmetric : ∀ a b, a ∈ l → b ∈ l → le a b → le b a → a = b) (ordered : l.Pairwise le)
    {p : α → Bool} {a : α} :
    l.find? p = some a ↔ a ∈ l ∧ p a = true ∧ ∀ b ∈ l, p b = true → le a b := by
  have least {a : α} (found : l.find? p = some a) :
      a ∈ l ∧ p a = true ∧ ∀ b ∈ l, p b = true → le a b := by
    obtain ⟨holds, front, back, split, before⟩ := List.find?_eq_some_iff_append.mp found
    refine ⟨List.mem_of_find?_eq_some found, holds, ?_⟩
    intro b member also
    rw [split] at member ordered
    rcases List.mem_append.mp member with early | late
    · have skipped := before b early
      simp [also] at skipped
    · rcases List.mem_cons.mp late with rfl | later
      · exact reflexive b
      · exact List.rel_of_pairwise_cons (List.pairwise_append.mp ordered).2.1 later
  constructor
  · exact least
  · intro ⟨member, holds, first⟩
    cases found : l.find? p with
    | none => exact absurd holds (List.find?_eq_none.mp found a member)
    | some b =>
        obtain ⟨present, also, before⟩ := least found
        rw [antisymmetric a b member present (first b present also) (before a member holds)]

/-- The head of an ordered list is the least element. -/
theorem head_least {le : α → α → Prop} (reflexive : ∀ a, le a a) {l : List α}
    (antisymmetric : ∀ a b, a ∈ l → b ∈ l → le a b → le b a → a = b) (ordered : l.Pairwise le)
    {a : α} : l.head? = some a ↔ a ∈ l ∧ ∀ b ∈ l, le a b := by
  have least := find_least reflexive antisymmetric ordered (p := fun _ => true) (a := a)
  have head : l.find? (fun _ => true) = l.head? := by cases l <;> rfl
  rw [head] at least
  simpa using least

section Draws

variable [Field K] [LinearOrder K]

/-- The point a random share of the way from one time to another. -/
def pivot (random low high : K) : K := low + random * (high - low)

def draw (time : α → K) (random : K) (l : List α) : Option α :=
  match l.head?, l.getLast? with
  | some first, some last =>
    some ((l.find? fun a => decide (pivot random (time first) (time last) ≤ time a)).getD last)
  | _, _ => none

/-- Some interval of draws chooses the element. -/
def Wins (time : α → K) (l : List α) (a : α) : Prop :=
  ∃ low high : K, 0 ≤ low ∧ low < high ∧ high ≤ 1 ∧
    ∀ random, low < random → random < high → draw time random l = some a

end Draws

/-- A list in the order of an index by time: no element stands before an earlier one. -/
structure Chronological [LinearOrder K] (time : α → K) (le : α → α → Prop) (l : List α) :
    Prop where
  ordered : l.Pairwise le
  reflexive : ∀ a, le a a
  antisymmetric : ∀ a b, a ∈ l → b ∈ l → le a b → le b a → a = b
  total : ∀ a b, le a b ∨ le b a
  timed : ∀ a b, le a b → time a ≤ time b

section Orders

variable [LinearOrder K] {time : α → K} {le : α → α → Prop} {l : List α}

theorem Chronological.head (chronological : Chronological time le l)
    {first : α} (starts : l.head? = some first) {a : α} (member : a ∈ l) :
    time first ≤ time a := by
  have ordered := chronological.ordered
  cases l with
  | nil => cases member
  | cons b rest =>
      obtain rfl := Option.some.inj starts
      rcases List.mem_cons.mp member with rfl | later
      · exact le_refl _
      · exact chronological.timed _ _ (List.rel_of_pairwise_cons ordered later)

theorem Chronological.last (chronological : Chronological time le l)
    {last : α} (ends : l.getLast? = some last) {a : α} (member : a ∈ l) :
    time a ≤ time last := by
  have ordered := chronological.ordered
  obtain ⟨front, rfl⟩ := List.getLast?_eq_some_iff.mp ends
  rcases List.mem_append.mp member with early | here
  · exact chronological.timed _ _
      ((List.pairwise_append.mp ordered).2.2 a early last (List.mem_singleton.mpr rfl))
  · rw [List.mem_singleton.mp here]

/-- The last of the times before another. -/
theorem exists_latest_before {t : K} (earlier : ∃ a ∈ l, time a < t) :
    ∃ a ∈ l, time a < t ∧ ∀ b ∈ l, time b < t → time b ≤ time a := by
  obtain ⟨a, member, before⟩ := earlier
  have some_before : ((l.filter fun b => decide (time b < t) : List α) : Multiset α) ≠ 0 := by
    intro none
    have found : a ∈ l.filter fun b => decide (time b < t) := by simp [member, before]
    rw [(Multiset.coe_eq_zero _).mp none] at found
    cases found
  obtain ⟨c, found, latest⟩ := Multiset.exists_max_image time some_before
  simp only [Multiset.mem_coe, List.mem_filter, decide_eq_true_eq] at found latest
  exact ⟨c, found.1, found.2, fun b present early => latest b ⟨present, early⟩⟩

end Orders

variable [Field K] [LinearOrder K] [IsStrictOrderedRing K]
  {time : α → K} {le : α → α → Prop} {l : List α}

/-- A draw chooses the least of the elements at or after its pivot. -/
theorem Chronological.draw_iff (chronological : Chronological time le l)
    {first last : α} (starts : l.head? = some first) (ends : l.getLast? = some last) {random : K}
    (inside : random < 1) {a : α} :
    draw time random l = some a ↔ a ∈ l ∧ pivot random (time first) (time last) ≤ time a ∧
      ∀ b ∈ l, pivot random (time first) (time last) ≤ time b → le a b := by
  have final : last ∈ l := List.mem_of_getLast? ends
  have width : time first ≤ time last := chronological.head starts final
  have reaches : pivot random (time first) (time last) ≤ time last := by
    unfold pivot
    nlinarith
  have least := find_least chronological.reflexive chronological.antisymmetric
    chronological.ordered (a := a)
    (p := fun a => decide (pivot random (time first) (time last) ≤ time a))
  simp only [decide_eq_true_eq] at least
  rw [← least]
  unfold draw
  rw [starts, ends]
  dsimp only
  cases found : l.find? fun a => decide (pivot random (time first) (time last) ≤ time a) with
  | none =>
      have missed := List.find?_eq_none.mp found last final
      simp [reaches] at missed
  | some b => rw [Option.getD_some]

/-- An element is chosen by some interval of draws exactly when it stands first
of those of its time, and its time is not the earliest of several. -/
theorem Chronological.wins_iff (chronological : Chronological time le l)
    {a : α} (member : a ∈ l) :
    Wins time l a ↔ (∀ b ∈ l, time b = time a → le a b) ∧
      ((∃ b ∈ l, time b < time a) ∨ ∀ b ∈ l, time b ≤ time a) := by
  obtain ⟨first, starts⟩ : ∃ first, l.head? = some first := by
    cases l with
    | nil => cases member
    | cons b rest => exact ⟨b, rfl⟩
  obtain ⟨last, ends⟩ : ∃ last, l.getLast? = some last :=
    ⟨_, List.getLast?_eq_some_getLast (List.ne_nil_of_mem member)⟩
  have lower := fun {b : α} => chronological.head starts (a := b)
  have upper := fun {b : α} => chronological.last ends (a := b)
  constructor
  · rintro ⟨low, high, nonnegative, positive, bounded, wins⟩
    obtain ⟨random, above, below⟩ := exists_between positive
    have chosen := (chronological.draw_iff starts ends (below.trans_le bounded)).mp
      (wins random above below)
    obtain ⟨_, reached, least⟩ := chosen
    refine ⟨?_, ?_⟩
    · intro b present same
      exact least b present (same ▸ reached)
    · by_cases earlier : ∃ b ∈ l, time b < time a
      · exact Or.inl earlier
      · right
        intro b present
        -- Nothing is earlier, so the pivot of a positive draw only reaches
        -- `a` when all the times are one.
        have earliest : time a ≤ time first :=
          le_of_not_gt fun before => earlier ⟨first, List.mem_of_head? starts, before⟩
        have random_pos : 0 < random := nonnegative.trans_lt above
        unfold pivot at reached
        have width : random * (time last - time first) ≤ 0 := by linarith
        have none_left : time last - time first ≤ 0 := nonpos_of_mul_nonpos_right width random_pos
        have := upper present
        have := lower member
        linarith
  · rintro ⟨foremost, reachable⟩
    have chosen (random : K) (inside : random < 1)
        (reached : pivot random (time first) (time last) ≤ time a)
        (passed : ∀ b ∈ l, time b < time a → time b < pivot random (time first) (time last)) :
        draw time random l = some a := by
      refine (chronological.draw_iff starts ends inside).mpr ⟨member, reached, ?_⟩
      intro b present after
      rcases lt_trichotomy (time b) (time a) with early | same | late
      · exact absurd after (not_le.mpr (passed b present early))
      · exact foremost b present same
      · rcases chronological.total a b with before | behind
        · exact before
        · exact absurd (chronological.timed b a behind) (not_le.mpr late)
    by_cases earlier : ∃ b ∈ l, time b < time a
    · -- Any pivot between the last of the earlier times and that of `a`.
      obtain ⟨c, present, before, latest⟩ := exists_latest_before earlier
      have start := lower present
      have finish := upper member
      have width : 0 < time last - time first := by linarith
      refine ⟨(time c - time first) / (time last - time first),
        (time a - time first) / (time last - time first), ?_, ?_, ?_, ?_⟩
      · exact div_nonneg (by linarith) width.le
      · exact div_lt_div_of_pos_right (by linarith) width
      · rw [div_le_one width]
        linarith
      · intro random above below
        rw [div_lt_iff₀ width] at above
        rw [lt_div_iff₀ width] at below
        refine chosen random ?_ ?_ ?_
        · by_contra outside
          have : time last - time first ≤ random * (time last - time first) :=
            le_mul_of_one_le_left width.le (not_lt.mp outside)
          linarith
        · unfold pivot
          linarith
        · intro b there early
          have := latest b there early
          unfold pivot
          linarith
    · have level : time last = time first := by
        rcases reachable with before | after
        · exact absurd before earlier
        · have := after last (List.mem_of_getLast? ends)
          have := lower (List.mem_of_getLast? ends)
          have : time a ≤ time first :=
            le_of_not_gt fun before => earlier ⟨first, List.mem_of_head? starts, before⟩
          linarith
      refine ⟨0, 1, le_refl _, one_pos, le_refl _, ?_⟩
      intro random _ inside
      refine chosen random inside ?_ ?_
      · unfold pivot
        have := lower member
        rw [level]
        linarith
      · intro b present early
        exact absurd ⟨b, present, early⟩ earlier

/-! ### Draws of a whole number over sparse positions -/

section Positions

variable {positions : Finset Nat} {low high pivot p q : Nat}

/-- The first of the positions from the pivot on. -/
def FirstFrom (positions : Finset Nat) (pivot p : Nat) : Prop :=
  p ∈ positions ∧ pivot ≤ p ∧ ∀ q ∈ positions, pivot ≤ q → p ≤ q

/-- A position is the first from every pivot after the one before it. -/
theorem firstFrom_iff_after (member : p ∈ positions) (before : q ∈ positions) (below : q < p)
    (latest : ∀ r ∈ positions, r < p → r ≤ q) :
    FirstFrom positions pivot p ↔ q < pivot ∧ pivot ≤ p := by
  constructor
  · intro ⟨_, reached, first⟩
    refine ⟨?_, reached⟩
    by_contra missed
    have := first q before (not_lt.mp missed)
    omega
  · intro ⟨passed, reached⟩
    refine ⟨member, reached, ?_⟩
    intro r present after
    by_contra earlier
    have := latest r present (not_le.mp earlier)
    omega

theorem firstFrom_iff_least (member : p ∈ positions) (least : ∀ r ∈ positions, p ≤ r) :
    FirstFrom positions pivot p ↔ pivot ≤ p :=
  ⟨fun first => first.2.1, fun reached => ⟨member, reached, fun r present _ => least r present⟩⟩

/-- Of the draws from the lowest position to the highest, a position is chosen
by as many as it is apart from the one before it. -/
theorem card_firstFrom_after (member : p ∈ positions) (before : q ∈ positions) (below : q < p)
    (latest : ∀ r ∈ positions, r < p → r ≤ q) (lowest : low ≤ q) (highest : p ≤ high)
    [DecidablePred fun random => FirstFrom positions (low + random) p] :
    ((Finset.range (high - low + 1)).filter fun random =>
      FirstFrom positions (low + random) p).card = p - q := by
  have chosen : ((Finset.range (high - low + 1)).filter fun random =>
      FirstFrom positions (low + random) p) = Finset.Ioc (q - low) (p - low) := by
    ext random
    rw [Finset.mem_filter, Finset.mem_range, Finset.mem_Ioc,
      firstFrom_iff_after member before below latest]
    omega
  rw [chosen, Nat.card_Ioc]
  omega

/-- The lowest position is chosen by one draw. -/
theorem card_firstFrom_least (member : low ∈ positions) (least : ∀ r ∈ positions, low ≤ r)
    [DecidablePred fun random => FirstFrom positions (low + random) low] :
    ((Finset.range (high - low + 1)).filter fun random =>
      FirstFrom positions (low + random) low).card = 1 := by
  have chosen : ((Finset.range (high - low + 1)).filter fun random =>
      FirstFrom positions (low + random) low) = {0} := by
    ext random
    rw [Finset.mem_filter, Finset.mem_range, Finset.mem_singleton, firstFrom_iff_least member least]
    omega
  rw [chosen, Finset.card_singleton]

end Positions

end Library
