import Bling.Library.Numerals
import Bling.Library.Paging
import Bling.Library.Slices

set_option autoImplicit false

namespace Bling.Api

open Library

/-! Pages of who waits: `List` of `queue/index.go`. -/

variable {α σ : Type} [LinearOrder α] [LinearOrder σ]

/-- A sorted set of Redis, under `candidatesKey`. -/
structure TierCandidates (α σ : Type) where
  entries : List (α × σ)
  distinct : (entries.map Prod.fst).Nodup

namespace TierCandidates

def empty : TierCandidates α σ := ⟨[], List.nodup_nil⟩

def zrem (tier : TierCandidates α σ) (entryId : α) : TierCandidates α σ where
  entries := tier.entries.filter fun entry => entry.1 ≠ entryId
  distinct := tier.distinct.sublist (List.filter_sublist.map Prod.fst)

def zadd (tier : TierCandidates α σ) (entryId : α) (score : σ) : TierCandidates α σ where
  entries := (entryId, score) :: (tier.zrem entryId).entries
  distinct := by
    rw [List.map_cons, List.nodup_cons]
    refine ⟨?_, (tier.zrem entryId).distinct⟩
    intro member
    obtain ⟨entry, held, same⟩ := List.mem_map.mp member
    simpa [same] using (List.mem_filter.mp held).2

def zcard (tier : TierCandidates α σ) : Int := tier.entries.length

/-- By score, and those of one score by member. -/
def Earlier (a b : σ × α) : Prop := a.1 < b.1 ∨ (a.1 = b.1 ∧ a.2 < b.2)

instance : DecidableRel (Earlier (α := α) (σ := σ)) :=
  fun a b => inferInstanceAs (Decidable (a.1 < b.1 ∨ (a.1 = b.1 ∧ a.2 < b.2)))

def position (entry : α × σ) : σ × α := (entry.2, entry.1)

def ranked (tier : TierCandidates α σ) : List (α × σ) :=
  inOrder Earlier position tier.entries

def members (tier : TierCandidates α σ) : List α := tier.ranked.map Prod.fst

def zrange (tier : TierCandidates α σ) (start stop : Int) : List α :=
  indexRange tier.members start stop

theorem ranked_pairwise (tier : TierCandidates α σ) :
    tier.ranked.Pairwise fun a b => Earlier (position a) (position b) := by
  apply inOrder_pairwise (StrictOrder.lt.lex StrictOrder.lt)
  have members : (tier.entries.map position).map Prod.snd = tier.entries.map Prod.fst := by
    rw [List.map_map]
    rfl
  apply List.Nodup.of_map Prod.snd
  rw [members]
  exact tier.distinct

@[simp] theorem mem_ranked {tier : TierCandidates α σ} {entry : α × σ} :
    entry ∈ tier.ranked ↔ entry ∈ tier.entries :=
  mem_inOrder _ _

theorem zcard_eq (tier : TierCandidates α σ) : tier.zcard = tier.members.length := by
  rw [zcard, members, List.length_map, ranked, inOrder_length]

end TierCandidates

/-- What Redis holds for a show. A rank is in the set once, in the text that `Add` wrote. -/
structure ShowIndex (α σ : Type) where
  priorities : List (List UInt8)
  nodup : priorities.Nodup
  canonical : ∀ value ∈ priorities, ∀ rank, atoi value = some rank → value = itoa rank
  candidates : Int → TierCandidates α σ

namespace ShowIndex

def empty : ShowIndex α σ := ⟨[], List.nodup_nil, by simp, fun _ => .empty⟩

abbrev Fits (rank : Int) : Prop := -(2 ^ 63) ≤ rank ∧ rank < 2 ^ 63

/-- `Add`. -/
def add (index : ShowIndex α σ) (rank : Int) (fits : Fits rank) (entryId : α) (score : σ) :
    ShowIndex α σ where
  priorities := index.priorities.insert (itoa rank)
  nodup := index.nodup.insert
  canonical := by
    intro value listed other parsed
    rcases List.mem_insert_iff.mp listed with rfl | listed
    · rw [atoi_itoa fits.1 fits.2, Option.some.injEq] at parsed
      rw [parsed]
    · exact index.canonical value listed other parsed
  candidates := Function.update index.candidates rank ((index.candidates rank).zadd entryId score)

/-- `Remove`. A rank stays in the set when its last candidate has gone. -/
def remove (index : ShowIndex α σ) (rank : Int) (entryId : α) : ShowIndex α σ :=
  { index with candidates :=
      Function.update index.candidates rank ((index.candidates rank).zrem entryId) }

/-- The set in the order of `SMEMBERS`, without what is not an integer. -/
def readPriorities (index : ShowIndex α σ) : List Int := index.priorities.filterMap atoi

/-- `Clear`. -/
def clear (index : ShowIndex α σ) : ShowIndex α σ where
  priorities := []
  nodup := List.nodup_nil
  canonical := by simp
  candidates := fun rank => if rank ∈ index.readPriorities then .empty else index.candidates rank

/-- The loop of `List`. A limit for which the ids can be allocated leaves the end of a range
within an int64. -/
def listTiers (index : ShowIndex α σ) : List Int → Int → Int → List α
  | [], _, _ => []
  | rank :: ranks, remainingOffset, remaining =>
    if remaining = 0 then []
    else
      let count := (index.candidates rank).zcard
      if count ≤ remainingOffset then index.listTiers ranks (remainingOffset - count) remaining
      else
        let page :=
          (index.candidates rank).zrange remainingOffset (remainingOffset + remaining - 1)
        page ++ index.listTiers ranks 0 (remaining - page.length)

/-- `sort.Reverse(sort.IntSlice(ranks))`. -/
def ranks (index : ShowIndex α σ) : List Int :=
  inOrder (fun a b => b < a) id index.readPriorities

/-- `List`. -/
def list (index : ShowIndex α σ) (limit offset : Int) : List α :=
  index.listTiers index.ranks offset limit

/-- The whole queue: the candidates of the highest rank, then those of the next. -/
def queue (index : ShowIndex α σ) : List α :=
  index.ranks.flatMap fun rank => (index.candidates rank).members

/-- Pages of the given sizes, one after the other. -/
def pages (index : ShowIndex α σ) (offset : Nat) (sizes : List Nat) : List α :=
  readPages (fun limit offset => index.list limit offset) offset sizes

omit [LinearOrder α] [LinearOrder σ] in
theorem mem_ranks {index : ShowIndex α σ} {rank : Int} :
    rank ∈ index.ranks ↔ ∃ value ∈ index.priorities, atoi value = some rank := by
  rw [ranks, mem_inOrder, readPriorities, List.mem_filterMap]

omit [LinearOrder α] [LinearOrder σ] in
/-- The ranks go down. -/
theorem ranks_pairwise (index : ShowIndex α σ) : index.ranks.Pairwise fun a b => b < a := by
  have once : index.readPriorities.Nodup := by
    apply List.pairwise_filterMap.mpr
    refine index.nodup.imp_of_mem ?_
    intro value other listed listed' apart rank parsed rank' parsed' same
    apply apart
    rw [index.canonical value listed rank parsed, index.canonical other listed' rank' parsed', same]
  have distinct : (index.readPriorities.map id).Nodup := by
    rw [List.map_id]
    exact once
  exact inOrder_pairwise StrictOrder.lt.swap distinct

theorem listTiers_eq (index : ShowIndex α σ) (ranks : List Int) (offset limit : Nat) :
    index.listTiers ranks offset limit =
      slice offset limit (ranks.flatMap fun rank => (index.candidates rank).members) := by
  induction ranks generalizing offset limit with
  | nil => simp [listTiers]
  | cons rank ranks ih =>
      rw [listTiers, List.flatMap_cons]
      by_cases stop : (limit : Int) = 0
      · have none : limit = 0 := by omega
        rw [if_pos stop, none, slice_zero]
      · rw [if_neg stop]
        dsimp only
        by_cases skip : (index.candidates rank).zcard ≤ offset
        · rw [if_pos skip]
          rw [TierCandidates.zcard_eq] at skip ⊢
          have past : (index.candidates rank).members.length ≤ offset := by omega
          rw [← Int.ofNat_sub past, ih, slice_append_skip past]
        · rw [if_neg skip]
          rw [TierCandidates.zcard_eq] at skip
          have within : offset ≤ (index.candidates rank).members.length := by omega
          have page : (index.candidates rank).zrange offset (offset + limit - 1) =
              slice offset limit (index.candidates rank).members :=
            indexRange_eq_slice _ _ (by omega)
          have bound : (slice offset limit (index.candidates rank).members).length ≤ limit := by
            rw [length_slice]
            omega
          have rest := ih 0 (limit - (slice offset limit (index.candidates rank).members).length)
          rw [Int.ofNat_sub bound] at rest
          rw [page, slice_append_within within, ← rest]
          rfl

theorem list_eq (index : ShowIndex α σ) (limit offset : Nat) :
    index.list limit offset = slice offset limit index.queue :=
  index.listTiers_eq index.ranks offset limit

end ShowIndex

/-- Pages are slices of one queue, which has the tiers by descending rank and in each of them
the candidates by score and then by member. -/
theorem queue_pages (index : ShowIndex α σ) :
    (index.ranks.Pairwise (fun a b => b < a) ∧ ∀ rank,
      rank ∈ index.ranks ↔ ∃ value ∈ index.priorities, atoi value = some rank) ∧
    (∀ rank, (index.candidates rank).ranked.Pairwise (fun a b =>
        a.2 < b.2 ∨ (a.2 = b.2 ∧ a.1 < b.1)) ∧
      ∀ entry, entry ∈ (index.candidates rank).ranked ↔
        entry ∈ (index.candidates rank).entries) ∧
    (∀ limit offset : Nat, index.list limit offset = (index.queue.drop offset).take limit) ∧
    ∀ sizes : List Nat, index.pages 0 sizes = index.queue.take sizes.sum ∧
      (index.queue.length ≤ sizes.sum → index.pages 0 sizes = index.queue) := by
  have paged (sizes : List Nat) : index.pages 0 sizes = index.queue.take sizes.sum := by
    have read := readPages_eq index.list_eq 0 sizes
    rw [slice, List.drop_zero] at read
    exact read
  refine ⟨⟨index.ranks_pairwise, fun rank => ShowIndex.mem_ranks⟩, ?_, index.list_eq, ?_⟩
  · intro rank
    exact ⟨(index.candidates rank).ranked_pairwise, fun entry => TierCandidates.mem_ranked⟩
  · intro sizes
    refine ⟨paged sizes, ?_⟩
    intro enough
    rw [paged, List.take_of_length_le enough]

/-- Two wait at rank 5, one at rank -2 and none at rank 0. -/
def sampleIndex : ShowIndex Nat Nat :=
  ((((ShowIndex.empty.add 0 (by decide) 4 9).add 5 (by decide) 1 3).add (-2) (by decide) 7 0).add
    5 (by decide) 2 1).remove 0 4

theorem sampleIndex_pages :
    sampleIndex.queue = [2, 1, 7] ∧ sampleIndex.pages 0 [1, 2] = sampleIndex.queue :=
  ⟨by decide, ((queue_pages sampleIndex).2.2.2 [1, 2]).2 (by decide)⟩

end Bling.Api
