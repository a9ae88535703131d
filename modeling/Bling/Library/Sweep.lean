import Mathlib.Data.Finset.Card
import Mathlib.Data.List.Sort
import Bling.Library.Table

set_option autoImplicit false

namespace Library

/-! A sweep looks through an index for rows that are due, a batch of each kind
at a time, and whoever takes a row up puts it off. -/

/-- What stands among the first elements of an ordered list is what few
elements precede. -/
theorem mem_take_iff_few {α : Type} {r : α → α → Prop} [DecidableRel r]
    (asymmetric : ∀ a b, r a b → ¬ r b a) {l : List α} (ordered : l.Pairwise r) (k : Nat) (a : α) :
    a ∈ l.take k ↔ a ∈ l ∧ (l.filter fun b => decide (r b a)).length < k := by
  induction l generalizing k with
  | nil => simp
  | cons b rest ih =>
      rw [List.pairwise_cons] at ordered
      obtain ⟨first, later⟩ := ordered
      cases k with
      | zero => simp
      | succ k =>
          rw [List.take_succ_cons, List.mem_cons, List.mem_cons, ih later]
          by_cases same : a = b
          · subst same
            have none : ((a :: rest).filter fun c => decide (r c a)) = [] := by
              apply List.filter_eq_nil_iff.mpr
              intro c member before
              rcases List.mem_cons.mp member with rfl | member
              · exact asymmetric c c (of_decide_eq_true before) (of_decide_eq_true before)
              · exact asymmetric a c (first c member) (of_decide_eq_true before)
            rw [none]
            simp
          · by_cases member : a ∈ rest
            · have before : r b a := first a member
              simp [same, member, before]
            · simp [same, member]

/-- How the rows of a table are swept: an index by kind and time, of which
`limit` rows of each kind are read. Rows that are not `live` are passed over. -/
structure Sweep (α κ : Type) where
  kind : α → κ
  time : α → Nat
  live : α → Bool
  limit : Nat

namespace Sweep

variable {α κ : Type} {s : Sweep α κ}

/-- The order of the index among rows of one kind. -/
def precedes (s : Sweep α κ) (a b : Nat × α) : Prop :=
  s.time a.2 < s.time b.2 ∨ s.time a.2 = s.time b.2 ∧ a.1 < b.1

instance : DecidableRel s.precedes := fun _ _ => inferInstanceAs (Decidable (_ ∨ _))

theorem precedes_asymm (a b : Nat × α) (before : s.precedes a b) : ¬ s.precedes b a := by
  unfold precedes at *
  omega

theorem precedes_trans {a b c : Nat × α} (first : s.precedes a b) (second : s.precedes b c) :
    s.precedes a c := by
  unfold precedes at *
  omega

theorem precedes_irrefl (a : Nat × α) : ¬ s.precedes a a := by
  unfold precedes
  omega

def sorts (s : Sweep α κ) (a b : Nat × α) : Prop :=
  s.time a.2 < s.time b.2 ∨ (s.time a.2 = s.time b.2 ∧ a.1 ≤ b.1)

instance : DecidableRel s.sorts := fun _ _ => inferInstanceAs (Decidable (_ ∨ _))

instance : Std.Total s.sorts := ⟨fun a b => by unfold sorts; omega⟩

instance : IsTrans (Nat × α) s.sorts := ⟨fun a b c => by unfold sorts; omega⟩

variable [DecidableEq κ]

/-- The rows of a kind that are due, in the order of the index. -/
def indexed (s : Sweep α κ) (t : Table α) (kind : κ) (now : Nat) : List (Nat × α) :=
  (t.query fun a => s.kind a == kind && decide (s.time a ≤ now)).insertionSort s.sorts

/-- The rows a sweep finds. -/
def due (s : Sweep α κ) (kinds : List κ) (t : Table α) (now : Nat) : List Nat :=
  kinds.flatMap fun kind =>
    (((s.indexed t kind now).take s.limit).filter fun row => s.live row.2).map Prod.fst

/-- The rows of its kind before a row in the index. -/
def ahead (s : Sweep α κ) (t : Table α) (row : Nat × α) : Finset Nat :=
  ((t.rows.filter fun other =>
    s.kind other.2 == s.kind row.2 && decide (s.precedes other row)).map Prod.fst).toFinset

/-- Those among them that are never taken up. -/
def spentAhead (s : Sweep α κ) (t : Table α) (row : Nat × α) : Finset Nat :=
  ((t.rows.filter fun other => s.kind other.2 == s.kind row.2 &&
    decide (s.precedes other row) && !s.live other.2).map Prod.fst).toFinset

theorem mem_ahead {t : Table α} {row : Nat × α} {key : Nat} :
    key ∈ s.ahead t row ↔
      ∃ b, t.get key = some b ∧ s.kind b = s.kind row.2 ∧ s.precedes (key, b) row := by
  simp [ahead, t.mem_rows_iff]

theorem mem_spentAhead {t : Table α} {row : Nat × α} {key : Nat} :
    key ∈ s.spentAhead t row ↔
      ∃ b, t.get key = some b ∧ s.kind b = s.kind row.2 ∧ s.precedes (key, b) row ∧
        s.live b = false := by
  simp [spentAhead, t.mem_rows_iff, and_assoc]

theorem spentAhead_subset (t : Table α) (row : Nat × α) : s.spentAhead t row ⊆ s.ahead t row := by
  intro key member
  obtain ⟨b, present, kind, before, _⟩ := mem_spentAhead.mp member
  exact mem_ahead.mpr ⟨b, present, kind, before⟩

theorem mem_indexed {t : Table α} {kind : κ} {now : Nat} {row : Nat × α} :
    row ∈ s.indexed t kind now ↔
      t.get row.1 = some row.2 ∧ s.kind row.2 = kind ∧ s.time row.2 ≤ now := by
  unfold indexed
  rw [List.mem_insertionSort, Table.mem_query]
  simp

theorem indexed_nodup (t : Table α) (kind : κ) (now : Nat) :
    ((s.indexed t kind now).map Prod.fst).Nodup :=
  ((List.perm_insertionSort s.sorts _).map Prod.fst).nodup_iff.mpr (t.query_nodup _)

theorem indexed_ordered (t : Table α) (kind : κ) (now : Nat) :
    (s.indexed t kind now).Pairwise s.precedes := by
  have sorted : (s.indexed t kind now).Pairwise s.sorts := List.pairwise_insertionSort s.sorts _
  have apart := List.pairwise_map.mp (indexed_nodup (s := s) t kind now)
  apply (sorted.and apart).imp
  intro a b both
  unfold sorts at both
  unfold precedes
  omega

/-- How far down its kind's index a row stands. -/
theorem indexed_before {t : Table α} {row : Nat × α} {now : Nat} (timely : s.time row.2 ≤ now) :
    ((s.indexed t (s.kind row.2) now).filter fun other => decide (s.precedes other row)).length =
      (s.ahead t row).card := by
  have distinct : (((s.indexed t (s.kind row.2) now).filter
      fun other => decide (s.precedes other row)).map Prod.fst).Nodup :=
    (indexed_nodup t _ now).sublist (List.filter_sublist.map Prod.fst)
  rw [← List.length_map Prod.fst, ← List.toFinset_card_of_nodup distinct]
  congr 1
  ext key
  rw [mem_ahead]
  simp only [List.mem_toFinset, List.mem_map, List.mem_filter, mem_indexed, decide_eq_true_eq]
  constructor
  · rintro ⟨⟨_, b⟩, ⟨⟨present, kind, _⟩, before⟩, rfl⟩
    exact ⟨b, present, kind, before⟩
  · rintro ⟨b, present, kind, before⟩
    have early : s.time b ≤ now := by
      unfold precedes at before
      dsimp only at before
      omega
    exact ⟨(key, b), ⟨⟨present, kind, early⟩, before⟩, rfl⟩

/-- A sweep finds a live row whose time has come and which few rows of its kind precede. -/
theorem mem_due {kinds : List κ} {t : Table α} {now id : Nat} :
    id ∈ s.due kinds t now ↔ ∃ a, t.get id = some a ∧ s.kind a ∈ kinds ∧ s.time a ≤ now ∧
      s.live a = true ∧ (s.ahead t (id, a)).card < s.limit := by
  unfold due
  simp only [List.mem_flatMap, List.mem_map, List.mem_filter]
  constructor
  · rintro ⟨kind, swept, ⟨_, a⟩, ⟨taken, live⟩, rfl⟩
    rw [mem_take_iff_few precedes_asymm (indexed_ordered t kind now)] at taken
    obtain ⟨member, few⟩ := taken
    obtain ⟨present, rfl, timely⟩ := mem_indexed.mp member
    rw [indexed_before timely] at few
    exact ⟨a, present, swept, timely, live, few⟩
  · rintro ⟨a, present, swept, timely, live, few⟩
    refine ⟨s.kind a, swept, (id, a), ⟨?_, live⟩, rfl⟩
    rw [mem_take_iff_few precedes_asymm (indexed_ordered t _ now)]
    refine ⟨mem_indexed.mpr ⟨present, rfl, timely⟩, ?_⟩
    exact (indexed_before timely).trans_lt few

theorem due_nodup {kinds : List κ} (distinct : kinds.Nodup) (t : Table α) (now : Nat) :
    (s.due kinds t now).Nodup := by
  unfold due
  apply List.nodup_flatMap.mpr
  constructor
  · intro kind _
    exact (indexed_nodup t kind now).sublist
      ((List.filter_sublist.trans (List.take_sublist _ _)).map Prod.fst)
  · apply distinct.imp
    intro one other apart id first second
    simp only [List.mem_map, List.mem_filter] at first second
    obtain ⟨⟨_, a⟩, ⟨a_taken, _⟩, rfl⟩ := first
    obtain ⟨⟨_, b⟩, ⟨b_taken, _⟩, same⟩ := second
    obtain ⟨a_present, a_kind, _⟩ := mem_indexed.mp (List.mem_of_mem_take a_taken)
    obtain ⟨b_present, b_kind, _⟩ := mem_indexed.mp (List.mem_of_mem_take b_taken)
    dsimp only at same a_present b_present a_kind b_kind
    rw [same, a_present] at b_present
    obtain rfl := Option.some.inj b_present
    exact apart (a_kind.symm.trans b_kind)

/-- Unless spent rows fill the batch, the sweep finds a row or one before it. -/
theorem exists_due {kinds : List κ} {t : Table α} {now id : Nat} {a : α}
    (present : t.get id = some a) (swept : s.kind a ∈ kinds) (timely : s.time a ≤ now)
    (live : s.live a = true) (few : (s.spentAhead t (id, a)).card < s.limit) :
    ∃ key ∈ insert id (s.ahead t (id, a)), key ∈ s.due kinds t now := by
  generalize size : (s.ahead t (id, a)).card = n
  induction n using Nat.strong_induction_on generalizing id a with
  | _ n ih =>
      by_cases near : (s.ahead t (id, a)).card < s.limit
      · exact ⟨id, Finset.mem_insert_self _ _, mem_due.mpr ⟨a, present, swept, timely, live, near⟩⟩
      · obtain ⟨key, isAhead, unspent⟩ : ∃ key ∈ s.ahead t (id, a),
            key ∉ s.spentAhead t (id, a) := by
          by_contra allSpent
          push Not at allSpent
          have fewer := Finset.card_le_card fun key member => allSpent key member
          omega
        obtain ⟨b, found, kind, before⟩ := mem_ahead.mp isAhead
        dsimp only at kind
        have living : s.live b = true := by
          by_contra spent
          exact unspent (mem_spentAhead.mpr ⟨b, found, kind, before, Bool.eq_false_iff.mpr spent⟩)
        have early : s.time b ≤ now := by
          unfold precedes at before
          dsimp only at before
          omega
        have nested : s.ahead t (key, b) ⊆ s.ahead t (id, a) := by
          intro other member
          obtain ⟨c, there, alike, earlier⟩ := mem_ahead.mp member
          exact mem_ahead.mpr ⟨c, there, alike.trans kind, precedes_trans earlier before⟩
        have nestedSpent : s.spentAhead t (key, b) ⊆ s.spentAhead t (id, a) := by
          intro other member
          obtain ⟨c, there, alike, earlier, spent⟩ := mem_spentAhead.mp member
          exact mem_spentAhead.mpr
            ⟨c, there, alike.trans kind, precedes_trans earlier before, spent⟩
        have proper : s.ahead t (key, b) ⊂ s.ahead t (id, a) := by
          apply Finset.ssubset_iff_subset_ne.mpr
          refine ⟨nested, fun same => ?_⟩
          rw [← same] at isAhead
          obtain ⟨c, there, _, self⟩ := mem_ahead.mp isAhead
          rw [found] at there
          obtain rfl := Option.some.inj there
          exact precedes_irrefl _ self
        have smaller := Finset.card_lt_card proper
        have fewSpent := Finset.card_le_card nestedSpent
        obtain ⟨hit, within, listed⟩ := ih _ (by omega) found (kind ▸ swept) early living
          (by omega) rfl
        refine ⟨hit, ?_, listed⟩
        rcases Finset.mem_insert.mp within with rfl | within
        · exact Finset.mem_insert_of_mem isAhead
        · exact Finset.mem_insert_of_mem (nested within)

/-! ### Sweeping on and on -/

/-- A sweep at `now` takes up the rows it finds, and no other row changes. -/
def Swept (s : Sweep α κ) (kinds : List κ) (take : Nat → α → α) (now : Nat) (t u : Table α) :
    Prop :=
  ∀ id, u.get id = (t.get id).map fun a => if id ∈ s.due kinds t now then take now a else a

variable {kinds : List κ} {take : Nat → α → α} {tables : Nat → Table α} {clock : Nat → Nat}

theorem Swept.unlisted {now : Nat} {t u : Table α} (swept : s.Swept kinds take now t u) {id : Nat}
    (unlisted : id ∉ s.due kinds t now) : u.get id = t.get id := by
  rw [swept id]
  cases t.get id with
  | none => rfl
  | some a => rw [Option.map_some, if_neg unlisted]

theorem Swept.listed {now : Nat} {t u : Table α} (swept : s.Swept kinds take now t u) {id : Nat}
    {a : α} (present : t.get id = some a) (listed : id ∈ s.due kinds t now) :
    u.get id = some (take now a) := by
  rw [swept id, present, Option.map_some, if_pos listed]

/-- Taking rows up puts them behind a row whose time has come. -/
theorem Swept.ahead {now : Nat} {t u : Table α} (swept : s.Swept kinds take now t u)
    (later : ∀ b, now < s.time (take now b)) {row : Nat × α} (timely : s.time row.2 ≤ now) :
    s.ahead u row = s.ahead t row \ (s.due kinds t now).toFinset := by
  ext key
  rw [Finset.mem_sdiff, List.mem_toFinset, mem_ahead, mem_ahead]
  by_cases listed : key ∈ s.due kinds t now
  · obtain ⟨a, present, _⟩ := mem_due.mp listed
    rw [swept.listed present listed]
    simp only [Option.some.injEq, listed, not_true_eq_false, and_false, iff_false]
    rintro ⟨b, rfl, _, before⟩
    have late := later a
    unfold precedes at before
    dsimp only at before
    omega
  · rw [swept.unlisted listed]
    simp only [listed, not_false_eq_true, and_true]

/-- Spent rows stay where they are. -/
theorem Swept.spentAhead {now : Nat} {t u : Table α} (swept : s.Swept kinds take now t u)
    (row : Nat × α) : s.spentAhead t row ⊆ s.spentAhead u row := by
  intro key member
  obtain ⟨b, present, kind, before, spent⟩ := mem_spentAhead.mp member
  have unlisted : key ∉ s.due kinds t now := by
    intro listed
    obtain ⟨c, there, _, _, live, _⟩ := mem_due.mp listed
    rw [present] at there
    obtain rfl := Option.some.inj there
    rw [spent] at live
    cases live
  exact mem_spentAhead.mpr ⟨b, (swept.unlisted unlisted).trans present, kind, before, spent⟩

/-- None joins the spent rows before a row whose time has come. -/
theorem Swept.spentAhead_subset {now : Nat} {t u : Table α} (swept : s.Swept kinds take now t u)
    (later : ∀ b, now < s.time (take now b)) {row : Nat × α} (timely : s.time row.2 ≤ now) :
    s.spentAhead u row ⊆ s.spentAhead t row := by
  intro key member
  obtain ⟨b, found, kind, before, spent⟩ := mem_spentAhead.mp member
  have isAhead : key ∈ s.ahead u row := mem_ahead.mpr ⟨b, found, kind, before⟩
  rw [swept.ahead later timely, Finset.mem_sdiff, List.mem_toFinset] at isAhead
  exact mem_spentAhead.mpr ⟨b, (swept.unlisted isAhead.2) ▸ found, kind, before, spent⟩

section Rounds

variable (rounds : ∀ k, s.Swept kinds take (clock k) (tables k) (tables (k + 1)))
include rounds

/-- Sweeping gets to every live row that fewer spent rows precede than it reads. -/
theorem due_of_few (later : ∀ now b, now < s.time (take now b)) {id : Nat} {a : α}
    (present : (tables 0).get id = some a) (swept : s.kind a ∈ kinds) (live : s.live a = true)
    (few : (s.spentAhead (tables 0) (id, a)).card < s.limit)
    (timely : ∀ k, s.time a ≤ clock k) : ∃ k, id ∈ s.due kinds (tables k) (clock k) := by
  by_contra never
  push Not at never
  have shrinks (k : Nat) : (tables k).get id = some a ∧
      (s.spentAhead (tables k) (id, a)).card < s.limit ∧
      (s.ahead (tables k) (id, a)).card + k ≤ (s.ahead (tables 0) (id, a)).card := by
    induction k with
    | zero => exact ⟨present, few, Nat.le_refl _⟩
    | succ k ih =>
        obtain ⟨there, fewer, size⟩ := ih
        have spent : (s.spentAhead (tables (k + 1)) (id, a)).card ≤
            (s.spentAhead (tables k) (id, a)).card :=
          Finset.card_le_card ((rounds k).spentAhead_subset (later (clock k)) (timely k))
        have left : s.ahead (tables (k + 1)) (id, a) =
            s.ahead (tables k) (id, a) \ (s.due kinds (tables k) (clock k)).toFinset :=
          (rounds k).ahead (later (clock k)) (timely k)
        obtain ⟨key, within, listed⟩ := exists_due there swept (timely k) live fewer
        have isAhead : key ∈ s.ahead (tables k) (id, a) := by
          rcases Finset.mem_insert.mp within with rfl | isAhead
          · exact absurd listed (never k)
          · exact isAhead
        have smaller : (s.ahead (tables (k + 1)) (id, a)).card <
            (s.ahead (tables k) (id, a)).card := by
          apply Finset.card_lt_card
          rw [left, Finset.ssubset_iff_of_subset Finset.sdiff_subset]
          refine ⟨key, isAhead, fun kept => ?_⟩
          exact (Finset.mem_sdiff.mp kept).2 (List.mem_toFinset.mpr listed)
        exact ⟨((rounds k).unlisted (never k)).trans there, by omega, by omega⟩
  have size := (shrinks ((s.ahead (tables 0) (id, a)).card + 1)).2.2
  omega

/-- Sweeping never gets to a spent row, nor to one behind a batch of spent rows. -/
theorem not_due_of_many {id : Nat} {a : α} (present : (tables 0).get id = some a)
    (many : s.live a = true → s.limit ≤ (s.spentAhead (tables 0) (id, a)).card) (k : Nat) :
    id ∉ s.due kinds (tables k) (clock k) := by
  have unlisted {t : Table α} {now : Nat} (there : t.get id = some a)
      (enough : s.live a = true → s.limit ≤ (s.spentAhead t (id, a)).card) :
      id ∉ s.due kinds t now := by
    intro listed
    obtain ⟨b, same, _, _, live, near⟩ := mem_due.mp listed
    rw [there] at same
    obtain rfl := Option.some.inj same
    have fewer : (s.spentAhead t (id, a)).card ≤ (s.ahead t (id, a)).card :=
      Finset.card_le_card (Sweep.spentAhead_subset t _)
    have full := enough live
    omega
  have stays : (tables k).get id = some a ∧
      (s.live a = true → s.limit ≤ (s.spentAhead (tables k) (id, a)).card) := by
    induction k with
    | zero => exact ⟨present, many⟩
    | succ k ih =>
        obtain ⟨there, enough⟩ := ih
        have more := Finset.card_le_card ((rounds k).spentAhead (id, a))
        refine ⟨((rounds k).unlisted (unlisted there enough)).trans there, fun live => ?_⟩
        have full := enough live
        omega
  exact unlisted stays.1 stays.2

end Rounds

end Sweep

end Library
