import Bling.Api.Queue
import Bling.Library.Draw

set_option autoImplicit false

namespace Bling.Api

open Library

/-! The random pick of `call/store.go`, with the number it draws. -/

/-- The rows of `queue_entries` that both queries read. -/
def waitingRows (db : DB) (showId : ShowId) : List (EntryId × QueueEntry) :=
  db.queueEntries.query fun q => q.showId == showId && q.status == .waiting

def tierRows (db : DB) (showId : ShowId) (rank : Nat) : List (EntryId × QueueEntry) :=
  (waitingRows db showId).filter fun row => row.2.priorityRank == rank

/-- The first query: the highest rank with someone waiting, and the least and
greatest position in it. -/
def topTier (db : DB) (showId : ShowId) : Option (Nat × Nat × Nat) :=
  ((waitingRows db showId).map fun row => row.2.priorityRank).max?.bind fun rank =>
    let positions := (tierRows db showId rank).map fun row => row.2.queuePosition
    positions.min?.bind fun minimum => positions.max?.map fun maximum => (rank, minimum, maximum)

/-- `ORDER BY (queue_position < $3), queue_position`. -/
def fromPivot (pivot : Nat) (row : EntryId × QueueEntry) : Nat ×ₗ Nat :=
  toLex (if row.2.queuePosition < pivot then 1 else 0, row.2.queuePosition)

/-- The second query. -/
def firstFromPivot (db : DB) (showId : ShowId) (rank pivot : Nat) : Option (EntryId × QueueEntry) :=
  ((tierRows db showId rank).insertionSort fun a b => fromPivot pivot a ≤ fromPivot pivot b).head?

/-- How many numbers `rand.Int64N` draws from. -/
def drawWidth (db : DB) (showId : ShowId) : Nat :=
  match topTier db showId with
  | none => 0
  | some (_, minimum, maximum) => maximum - minimum + 1

/-- `randomCaller`, with the number drawn. -/
def drawCaller (db : DB) (showId : ShowId) (random : Nat) : Option (EntryId × QueueEntry) :=
  match topTier db showId with
  | none => none
  | some (rank, minimum, maximum) =>
    let width := maximum - minimum + 1
    let pivot := if 1 < width then minimum + random else minimum
    firstFromPivot db showId rank pivot

/-- The position before an entry's in its tier. -/
def previousPosition (db : DB) (showId : ShowId) (entry : QueueEntry) : Option Nat :=
  (((tierRows db showId entry.priorityRank).map fun row => row.2.queuePosition).filter
    fun position => position < entry.queuePosition).max?

/-- How many of the draws an entry should have. -/
def drawWeight (db : DB) (showId : ShowId) (entry : QueueEntry) : Nat :=
  match previousPosition db showId entry with
  | none => 1
  | some position => entry.queuePosition - position

/-! ### The pick -/

section Pick

variable {db : DB} {showId : ShowId}

theorem mem_tierRows {rank : Nat} {row : EntryId × QueueEntry} :
    row ∈ tierRows db showId rank ↔ row ∈ waitingRows db showId ∧ row.2.priorityRank = rank := by
  simp [tierRows]

/-- No two entries that wait stand at one position. -/
def DistinctPositions (db : DB) (showId : ShowId) : Prop :=
  ∀ a ∈ waitingRows db showId, ∀ b ∈ waitingRows db showId,
    a.2.queuePosition = b.2.queuePosition → a = b

/-- The positions of a tier. -/
def tierPositions (db : DB) (showId : ShowId) (rank : Nat) : Finset Nat :=
  ((tierRows db showId rank).map fun row => row.2.queuePosition).toFinset

theorem mem_tierPositions {rank position : Nat} :
    position ∈ tierPositions db showId rank ↔
      ∃ row ∈ tierRows db showId rank, row.2.queuePosition = position := by
  simp [tierPositions]

instance fromPivot_total (pivot : Nat) :
    Std.Total fun a b : EntryId × QueueEntry => fromPivot pivot a ≤ fromPivot pivot b :=
  ⟨fun _ _ => le_total _ _⟩

instance fromPivot_trans (pivot : Nat) :
    IsTrans (EntryId × QueueEntry) fun a b => fromPivot pivot a ≤ fromPivot pivot b :=
  ⟨fun _ _ _ => le_trans⟩

theorem firstFromPivot_iff (distinct : DistinctPositions db showId) {rank pivot : Nat}
    {row : EntryId × QueueEntry} :
    firstFromPivot db showId rank pivot = some row ↔ row ∈ tierRows db showId rank ∧
      ∀ other ∈ tierRows db showId rank, fromPivot pivot row ≤ fromPivot pivot other := by
  have ordered := List.pairwise_insertionSort
    (fun a b : EntryId × QueueEntry => fromPivot pivot a ≤ fromPivot pivot b)
    (tierRows db showId rank)
  have least := head_least (fun a => le_refl (fromPivot pivot a)) ?_ ordered (a := row)
  · simp only [List.mem_insertionSort] at least
    exact least
  · intro a b memberA memberB le ge
    rw [List.mem_insertionSort, mem_tierRows] at memberA memberB
    have same := le_antisymm le ge
    simp only [fromPivot, toLex_inj, Prod.mk.injEq] at same
    exact distinct a memberA.1 b memberB.1 same.2

/-- From a pivot that someone stands at or after, the pick is the first of them. -/
theorem firstFromPivot_reached (distinct : DistinctPositions db showId) {rank pivot : Nat}
    {last row : EntryId × QueueEntry} (final : last ∈ tierRows db showId rank)
    (reached : pivot ≤ last.2.queuePosition) :
    firstFromPivot db showId rank pivot = some row ↔ row ∈ tierRows db showId rank ∧
      FirstFrom (tierPositions db showId rank) pivot row.2.queuePosition := by
  rw [firstFromPivot_iff distinct]
  constructor
  · intro ⟨member, least⟩
    have after : pivot ≤ row.2.queuePosition := by
      have first := least last final
      simp only [fromPivot, Prod.Lex.toLex_le_toLex] at first
      by_contra before
      simp only [not_le.mp before, not_lt.mpr reached, if_true, if_false] at first
      omega
    refine ⟨member, mem_tierPositions.mpr ⟨row, member, rfl⟩, after, ?_⟩
    intro position present also
    obtain ⟨other, there, rfl⟩ := mem_tierPositions.mp present
    have first := least other there
    simp only [fromPivot, Prod.Lex.toLex_le_toLex, not_lt.mpr after, not_lt.mpr also,
      if_false] at first
    omega
  · intro ⟨member, _, after, first⟩
    refine ⟨member, ?_⟩
    intro other there
    simp only [fromPivot, Prod.Lex.toLex_le_toLex, not_lt.mpr after, if_false]
    by_cases passed : other.2.queuePosition < pivot
    · simp [passed]
    · right
      simp only [passed, if_false, true_and]
      exact first _ (mem_tierPositions.mpr ⟨other, there, rfl⟩) (not_lt.mp passed)

/-- What the first query finds. -/
theorem topTier_some {rank minimum maximum : Nat}
    (found : topTier db showId = some (rank, minimum, maximum)) :
    (∀ row ∈ waitingRows db showId, row.2.priorityRank ≤ rank) ∧
      (∃ row ∈ tierRows db showId rank, row.2.queuePosition = minimum) ∧
      (∃ row ∈ tierRows db showId rank, row.2.queuePosition = maximum) ∧
      ∀ row ∈ tierRows db showId rank, minimum ≤ row.2.queuePosition ∧
        row.2.queuePosition ≤ maximum := by
  unfold topTier at found
  obtain ⟨highest, ranked, rest⟩ := Option.bind_eq_some_iff.mp found
  obtain ⟨least, low, rest⟩ := Option.bind_eq_some_iff.mp rest
  obtain ⟨greatest, high, same⟩ := Option.map_eq_some_iff.mp rest
  simp only [Prod.mk.injEq] at same
  obtain ⟨rfl, rfl, rfl⟩ := same
  rw [List.max?_eq_some_iff] at ranked high
  rw [List.min?_eq_some_iff] at low
  simp only [List.mem_map, forall_exists_index, and_imp, forall_apply_eq_imp_iff₂]
    at ranked low high
  exact ⟨ranked.2, low.1, high.1, fun row member => ⟨low.2 row member, high.2 row member⟩⟩

theorem exists_topTier (waiting : waitingRows db showId ≠ []) :
    ∃ rank minimum maximum, topTier db showId = some (rank, minimum, maximum) := by
  have ranks : (waitingRows db showId).map (fun row => row.2.priorityRank) ≠ [] := by
    simpa using waiting
  obtain ⟨rank, ranked⟩ := Option.isSome_iff_exists.mp (List.isSome_max?_of_ne_nil ranks)
  obtain ⟨row, member, top⟩ := List.mem_map.mp (List.max?_mem ranked)
  have tier : (tierRows db showId rank).map (fun row => row.2.queuePosition) ≠ [] := by
    simpa using List.ne_nil_of_mem (mem_tierRows.mpr ⟨member, top⟩)
  obtain ⟨minimum, low⟩ := Option.isSome_iff_exists.mp (List.isSome_min?_of_ne_nil tier)
  obtain ⟨maximum, high⟩ := Option.isSome_iff_exists.mp (List.isSome_max?_of_ne_nil tier)
  exact ⟨rank, minimum, maximum, by simp [topTier, ranked, low, high]⟩

/-- A draw picks the first of the highest rank from its pivot on. -/
theorem drawCaller_iff (distinct : DistinctPositions db showId) {rank minimum maximum random : Nat}
    (found : topTier db showId = some (rank, minimum, maximum))
    (inside : random < maximum - minimum + 1) {row : EntryId × QueueEntry} :
    drawCaller db showId random = some row ↔ row ∈ tierRows db showId rank ∧
      FirstFrom (tierPositions db showId rank) (minimum + random) row.2.queuePosition := by
  obtain ⟨_, ⟨first, _, least⟩, ⟨last, final, greatest⟩, bounds⟩ := topTier_some found
  have ends := (bounds last final).1
  have pivot : drawCaller db showId random =
      firstFromPivot db showId rank (minimum + random) := by
    unfold drawCaller
    rw [found]
    dsimp only
    split
    · rfl
    · have only : random = 0 := by omega
      rw [only, Nat.add_zero]
  rw [pivot]
  exact firstFromPivot_reached distinct final (by omega)

theorem exists_drawn (waiting : waitingRows db showId ≠ []) (random : Nat) :
    ∃ row, drawCaller db showId random = some row := by
  obtain ⟨rank, minimum, maximum, found⟩ := exists_topTier waiting
  obtain ⟨_, ⟨first, member, _⟩, _⟩ := topTier_some found
  unfold drawCaller firstFromPivot
  rw [found]
  generalize (if 1 < maximum - minimum + 1 then minimum + random else minimum) = pivot
  refine Option.isSome_iff_exists.mp (List.isSome_head?.mpr (List.ne_nil_of_mem (a := first) ?_))
  rw [List.mem_insertionSort]
  exact member

/-- The order that the transaction's pick sorts by. -/
def rankedFromPivot (pivot : Nat) (row : EntryId × QueueEntry) : Int ×ₗ Nat ×ₗ Nat :=
  toLex (-(row.2.priorityRank : Int), fromPivot pivot row)

theorem randomCaller_iff (distinct : DistinctPositions db showId) {pivot : Nat}
    {row : EntryId × QueueEntry} :
    randomCaller db showId pivot = some row ↔ row ∈ waitingRows db showId ∧
      ∀ other ∈ waitingRows db showId, rankedFromPivot pivot row ≤ rankedFromPivot pivot other := by
  have total : Std.Total fun a b : EntryId × QueueEntry =>
      rankedFromPivot pivot a ≤ rankedFromPivot pivot b := ⟨fun _ _ => le_total _ _⟩
  have trans : IsTrans (EntryId × QueueEntry) fun a b =>
      rankedFromPivot pivot a ≤ rankedFromPivot pivot b := ⟨fun _ _ _ => le_trans⟩
  have ordered := List.pairwise_insertionSort
    (fun a b : EntryId × QueueEntry => rankedFromPivot pivot a ≤ rankedFromPivot pivot b)
    (waitingRows db showId)
  have least := head_least (fun a => le_refl (rankedFromPivot pivot a)) ?_ ordered (a := row)
  · simp only [List.mem_insertionSort] at least
    exact least
  · intro a b memberA memberB le ge
    rw [List.mem_insertionSort] at memberA memberB
    have same := le_antisymm le ge
    simp only [rankedFromPivot, fromPivot, toLex_inj, Prod.mk.injEq] at same
    exact distinct a memberA b memberB same.2.2

/-- The pivots of the transaction's step function cover every draw. -/
theorem drawCaller_eq_randomCaller (distinct : DistinctPositions db showId)
    (waiting : waitingRows db showId ≠ []) (random : Nat) :
    ∃ pivot, drawCaller db showId random = randomCaller db showId pivot := by
  obtain ⟨rank, minimum, maximum, found⟩ := exists_topTier waiting
  obtain ⟨highest, _⟩ := topTier_some found
  refine ⟨if 1 < maximum - minimum + 1 then minimum + random else minimum, ?_⟩
  obtain ⟨row, drawn⟩ := exists_drawn waiting random
  rw [drawn]
  unfold drawCaller at drawn
  rw [found] at drawn
  obtain ⟨member, least⟩ := (firstFromPivot_iff distinct).mp drawn
  obtain ⟨listed, top⟩ := mem_tierRows.mp member
  refine ((randomCaller_iff distinct).mpr ⟨listed, ?_⟩).symm
  intro other there
  have below := highest other there
  by_cases same : other.2.priorityRank = rank
  · have first := least other (mem_tierRows.mpr ⟨there, same⟩)
    simp only [rankedFromPivot, Prod.Lex.toLex_le_toLex, top, same, lt_self_iff_false, true_and,
      false_or]
    exact first
  · simp only [rankedFromPivot, Prod.Lex.toLex_le_toLex, top]
    omega

/-! ### Fairness -/

/-- How many of the numbers that can be drawn pick an entry. -/
def drawsOf (db : DB) (showId : ShowId) (entryId : EntryId) : Nat :=
  ((Finset.range (drawWidth db showId)).filter fun random =>
    (drawCaller db showId random).map Prod.fst = some entryId).card

/-- The rows of a table are told apart by their ids. -/
theorem drawn_id {random : Nat} {row : EntryId × QueueEntry}
    (distinct : DistinctPositions db showId) (member : row ∈ waitingRows db showId)
    (inside : random < drawWidth db showId) :
    (drawCaller db showId random).map Prod.fst = some row.1 ↔
      drawCaller db showId random = some row := by
  constructor
  · intro same
    obtain ⟨drawn, found, id⟩ := Option.map_eq_some_iff.mp same
    obtain ⟨rank, minimum, maximum, top⟩ := exists_topTier (List.ne_nil_of_mem member)
    simp only [drawWidth, top] at inside
    have listed := (mem_tierRows.mp ((drawCaller_iff distinct top inside).mp found).1).1
    have here := ((Table.mem_query _ _ row.1 row.2).mp member).1
    have there := ((Table.mem_query _ _ drawn.1 drawn.2).mp listed).1
    rw [id, here] at there
    rw [found]
    exact congrArg some (Prod.ext id (Option.some.inj there).symm)
  · intro drawn
    rw [drawn]
    rfl

/-- No one of the tier stands before an entry without a previous position. -/
theorem previousPosition_none {row : EntryId × QueueEntry}
    (first : previousPosition db showId row.2 = none) :
    ∀ position ∈ tierPositions db showId row.2.priorityRank,
      row.2.queuePosition ≤ position := by
  intro position present
  obtain ⟨other, there, rfl⟩ := mem_tierPositions.mp present
  have empty := List.max?_eq_none_iff.mp first
  rw [List.filter_eq_nil_iff] at empty
  have passed := empty other.2.queuePosition (List.mem_map_of_mem there)
  simpa using passed

/-- The previous position is the last before an entry's. -/
theorem previousPosition_some {row : EntryId × QueueEntry} {position : Nat}
    (before : previousPosition db showId row.2 = some position) :
    position ∈ tierPositions db showId row.2.priorityRank ∧ position < row.2.queuePosition ∧
      ∀ other ∈ tierPositions db showId row.2.priorityRank, other < row.2.queuePosition →
        other ≤ position := by
  unfold previousPosition at before
  obtain ⟨member, latest⟩ := List.max?_eq_some_iff.mp before
  obtain ⟨listed, below⟩ := List.mem_filter.mp member
  refine ⟨List.mem_toFinset.mpr listed, by simpa using below, ?_⟩
  intro other present early
  exact latest other (List.mem_filter.mpr ⟨List.mem_toFinset.mp present, by simpa using early⟩)

theorem drawWeight_pos (row : EntryId × QueueEntry) : 0 < drawWeight db showId row.2 := by
  unfold drawWeight
  split
  · exact Nat.one_pos
  · rename_i position before
    have := (previousPosition_some before).2.1
    omega

/-- An entry of the top tier is picked by as many draws as its position is from
the one before it. -/
theorem drawsOf_eq (distinct : DistinctPositions db showId) {rank minimum maximum : Nat}
    (found : topTier db showId = some (rank, minimum, maximum)) {row : EntryId × QueueEntry}
    (member : row ∈ tierRows db showId rank) :
    drawsOf db showId row.1 = drawWeight db showId row.2 := by
  obtain ⟨listed, ranked⟩ := mem_tierRows.mp member
  obtain ⟨_, ⟨first, start, least⟩, _, bounds⟩ := topTier_some found
  have width : drawWidth db showId = maximum - minimum + 1 := by
    simp only [drawWidth, found]
  have present : row.2.queuePosition ∈ tierPositions db showId rank :=
    mem_tierPositions.mpr ⟨row, member, rfl⟩
  classical
  have picked : drawsOf db showId row.1 =
      ((Finset.range (maximum - minimum + 1)).filter fun random =>
        FirstFrom (tierPositions db showId rank) (minimum + random) row.2.queuePosition).card := by
    unfold drawsOf
    rw [width]
    refine congrArg Finset.card (Finset.filter_congr ?_)
    intro random inside
    rw [Finset.mem_range] at inside
    rw [drawn_id distinct listed (by omega), drawCaller_iff distinct found inside]
    exact ⟨fun drawn => drawn.2, fun drawn => ⟨member, drawn⟩⟩
  rw [picked]
  subst ranked
  unfold drawWeight
  split
  · rename_i none
    have earliest := previousPosition_none none
    have lowest : row.2.queuePosition = minimum := by
      have := earliest first.2.queuePosition (mem_tierPositions.mpr ⟨first, start, rfl⟩)
      have := (bounds row member).1
      omega
    rw [lowest] at present earliest ⊢
    exact card_firstFrom_least present earliest
  · rename_i position before
    obtain ⟨there, below, latest⟩ := previousPosition_some before
    obtain ⟨other, standing, rfl⟩ := mem_tierPositions.mp there
    exact card_firstFrom_after present there below latest (bounds other standing).1
      (bounds row member).2

/-- Only the highest rank is picked from, and everyone in it by as many draws as
their position is from the one before it. -/
theorem randomCaller_fair (waiting : waitingRows db showId ≠ [])
    (distinct : DistinctPositions db showId) :
    (∀ random < drawWidth db showId, ∃ row ∈ waitingRows db showId,
      drawCaller db showId random = some row ∧
        ∀ other ∈ waitingRows db showId, other.2.priorityRank ≤ row.2.priorityRank) ∧
    ∀ row ∈ waitingRows db showId,
      (∀ other ∈ waitingRows db showId, other.2.priorityRank ≤ row.2.priorityRank) →
        drawsOf db showId row.1 = drawWeight db showId row.2 ∧
          ∃ random < drawWidth db showId, drawCaller db showId random = some row := by
  obtain ⟨rank, minimum, maximum, found⟩ := exists_topTier waiting
  obtain ⟨highest, ⟨first, start, _⟩, _⟩ := topTier_some found
  constructor
  · intro random inside
    obtain ⟨row, drawn⟩ := exists_drawn waiting random
    simp only [drawWidth, found] at inside
    obtain ⟨listed, ranked⟩ := mem_tierRows.mp ((drawCaller_iff distinct found inside).mp drawn).1
    exact ⟨row, listed, drawn, fun other there => ranked ▸ highest other there⟩
  · intro row listed top
    have ranked : row.2.priorityRank = rank := by
      obtain ⟨there, same⟩ := mem_tierRows.mp start
      have := top first there
      have := highest row listed
      omega
    have draws := drawsOf_eq distinct found (mem_tierRows.mpr ⟨listed, ranked⟩)
    refine ⟨draws, ?_⟩
    have some_draw : 0 < drawsOf db showId row.1 := draws ▸ drawWeight_pos row
    obtain ⟨random, picked⟩ := Finset.card_pos.mp some_draw
    rw [Finset.mem_filter, Finset.mem_range] at picked
    exact ⟨random, picked.1, (drawn_id distinct listed picked.1).mp picked.2⟩

end Pick

def waitingCaller (priorityRank queuePosition : Nat) : QueueEntry :=
  { showId := 0
    displayName := [2]
    topic := [3]
    status := .waiting
    tierId := 0
    tierName := [1]
    priorityRank
    callDurationSeconds := 60
    tierPriceCents := 0
    queuePosition
    sessionTokenHash := queuePosition
    joinKeyHash := queuePosition
    paymentAttemptId := none
    joinedAt := 4
    selectedAt := none
    leftAt := none }

/-- Three callers wait, two of them in the top tier, four places apart. -/
def callersWaiting : DB :=
  { shows := .empty
    showTiers := .empty
    queueEntries := ((Table.empty.insert (waitingCaller 1 2)).insert (waitingCaller 2 3)).insert
      (waitingCaller 2 7)
    paymentAttempts := .empty
    calls := .empty
    nextPosition := 8 }

theorem callersWaiting_rows : waitingRows callersWaiting 0 =
    [(0, waitingCaller 1 2), (1, waitingCaller 2 3), (2, waitingCaller 2 7)] := rfl

/-- The second of the two is picked by four draws of five. -/
theorem randomCaller_fair_two : drawsOf callersWaiting 0 2 = 4 := by
  have waiting : waitingRows callersWaiting 0 ≠ [] := by simp [callersWaiting_rows]
  have distinct : DistinctPositions callersWaiting 0 := by
    simp [DistinctPositions, callersWaiting_rows, waitingCaller]
  have fair := (randomCaller_fair waiting distinct).2
    (2, waitingCaller 2 7) (by simp [callersWaiting_rows])
    (by simp [callersWaiting_rows, waitingCaller])
  exact fair.1

end Bling.Api
