import Mathlib.Data.Rat.Defs
import Mathlib.Data.Rat.Floor
import Bling.Backing
import Bling.Lifecycle
import Bling.Library.Draw

set_option autoImplicit false

namespace Bling

open Library

/-! The random draw of a caller, with the number `Math.random()` returns: who
can be drawn, and that a draw respects the tiers. -/

/-! ### The draw -/

/-- One turn of the loop over the ranks. The index is read at its two ends, and
from the pivot on. -/
def drawAt (db : DB) (showId : ShowId) (random : ℚ) (rank : Nat) :
    Option (EntryId × QueueEntry) :=
  let waiting := waitingAt db showId rank
  match waiting.head?, waiting.getLast? with
  | some first, some last =>
    let pivot : ℚ := first.2.joinedAt + random * (last.2.joinedAt - first.2.joinedAt)
    some ((waiting.find? fun row => decide (pivot ≤ row.2.joinedAt)).getD last)
  | _, _ => none

def drawCaller (db : DB) (showId : ShowId) (random : ℚ) : Option (EntryId × QueueEntry) :=
  (tierRanks db showId).findSome? (drawAt db showId random)

/-- `selectRandom`, with what `Math.random()` returns. -/
def selectDrawn (ctx : Ctx) (db : DB) (userId : Option UserId) (showId : ShowId) (random : ℚ) :
    Except ErrorCode (DB × CallId) := do
  let hotline ← prepareSelection db userId showId
  match drawCaller db showId random with
  | none => .error .queueEmpty
  | some (entryId, entry) => createCall ctx db showId hotline entryId entry .random

/-- When a caller joined, as `drawAt` reads it. -/
def joinTime (row : EntryId × QueueEntry) : ℚ := row.2.joinedAt

theorem drawAt_eq (db : DB) (showId : ShowId) (random : ℚ) (rank : Nat) :
    drawAt db showId random rank = draw joinTime random (waitingAt db showId rank) := by
  unfold drawAt draw
  dsimp only
  generalize (waitingAt db showId rank).head? = starts
  generalize (waitingAt db showId rank).getLast? = ends
  cases starts <;> cases ends <;> simp only [joinTime, pivot]
  -- Only the instances that decide `≤` differ.
  congr!

/-- The order of the index within a rank. -/
def joinedBefore (a b : EntryId × QueueEntry) : Prop :=
  a.2.joinedAt < b.2.joinedAt ∨ (a.2.joinedAt = b.2.joinedAt ∧ a.1 ≤ b.1)

theorem mem_waitingAt {db : DB} {showId : ShowId} {rank : Nat} {row : EntryId × QueueEntry} :
    row ∈ waitingAt db showId rank ↔ db.queueEntries.get row.1 = some row.2 ∧
      row.2.showId = showId ∧ row.2.status = .waiting ∧ row.2.priorityRank = rank := by
  unfold waitingAt
  rw [List.mem_insertionSort, Table.mem_query]
  simp only [Bool.and_eq_true, beq_iff_eq, and_assoc]

theorem joinedBefore_total (a b : EntryId × QueueEntry) : joinedBefore a b ∨ joinedBefore b a := by
  rcases Nat.lt_trichotomy a.2.joinedAt b.2.joinedAt with before | same | after
  · exact Or.inl (Or.inl before)
  · rcases Nat.le_total a.1 b.1 with first | second
    · exact Or.inl (Or.inr ⟨same, first⟩)
    · exact Or.inr (Or.inr ⟨same.symm, second⟩)
  · exact Or.inr (Or.inl after)

theorem joinedBefore_trans (a b c : EntryId × QueueEntry) (first : joinedBefore a b)
    (second : joinedBefore b c) : joinedBefore a c := by
  rcases first with before | ⟨same, first⟩ <;> rcases second with after | ⟨again, second⟩
  · exact Or.inl (Nat.lt_trans before after)
  · exact Or.inl (again ▸ before)
  · exact Or.inl (same ▸ after)
  · exact Or.inr ⟨same.trans again, Nat.le_trans first second⟩

instance : Std.Total joinedBefore := ⟨joinedBefore_total⟩

instance : IsTrans (EntryId × QueueEntry) joinedBefore := ⟨joinedBefore_trans⟩

instance : DecidableRel joinedBefore := fun _ _ => inferInstanceAs (Decidable (_ ∨ _))

theorem waitingAt_ordered (db : DB) (showId : ShowId) (rank : Nat) :
    (waitingAt db showId rank).Pairwise joinedBefore :=
  List.pairwise_insertionSort joinedBefore _

/-- Whether or not a draw finds anyone at a rank does not depend on the number. -/
theorem drawAt_none_iff {db : DB} {showId : ShowId} {random : ℚ} {rank : Nat} :
    drawAt db showId random rank = none ↔ waitingAt db showId rank = [] := by
  unfold drawAt
  cases waiting : waitingAt db showId rank with
  | nil => simp
  | cons first rest =>
      have ends := List.getLast?_eq_some_getLast (l := first :: rest) (by simp)
      simp [ends]

theorem drawAt_waiting {db : DB} {showId : ShowId} {random : ℚ} {rank : Nat}
    {row : EntryId × QueueEntry} (drawn : drawAt db showId random rank = some row) :
    row ∈ waitingAt db showId rank := by
  unfold drawAt at drawn
  dsimp only at drawn
  split at drawn
  · rename_i first last starts ends
    obtain rfl := Option.some.inj drawn
    cases found : (waitingAt db showId rank).find? _ with
    | none => exact List.mem_of_getLast? ends
    | some row => exact List.mem_of_find?_eq_some found
  · cases drawn

/-- Join times are whole numbers, so a pivot reaches what the next whole number
does. -/
theorem exists_pivot (db : DB) (showId : ShowId) (random : ℚ) (ranks : List Nat) :
    ∃ pivot, ranks.findSome? (drawAt db showId random) =
      ranks.findSome? (chooseAt db showId pivot) := by
  induction ranks with
  | nil => exact ⟨0, rfl⟩
  | cons rank rest ih =>
      cases waiting : waitingAt db showId rank with
      | nil =>
          obtain ⟨pivot, same⟩ := ih
          refine ⟨pivot, ?_⟩
          rw [List.findSome?_cons, List.findSome?_cons, drawAt_none_iff.mpr waiting, same]
          simp [chooseAt, waiting]
      | cons first others =>
          have ends := List.getLast?_eq_some_getLast (l := first :: others) (by simp)
          refine ⟨⌈(first.2.joinedAt + random * (((first :: others).getLast (by simp)).2.joinedAt -
            first.2.joinedAt) : ℚ)⌉₊, ?_⟩
          simp only [List.findSome?_cons, drawAt, chooseAt, waiting, ends, List.head?_cons,
            Nat.ceil_le]

/-- The pivots of the queue's step function cover every draw. -/
theorem selectDrawn_pivot (ctx : Ctx) (db : DB) (userId : Option UserId) (showId : ShowId)
    (random : ℚ) :
    ∃ pivot, selectDrawn ctx db userId showId random = selectRandom ctx db userId showId pivot := by
  obtain ⟨pivot, same⟩ := exists_pivot db showId random (tierRanks db showId)
  refine ⟨pivot, ?_⟩
  unfold selectDrawn selectRandom drawCaller
  rewrite [same]
  rfl

/-! ### Ranks -/

/-- Every entry's rank is one of its show's tiers'. -/
def RanksKnown (entries : Table QueueEntry) (tiers : Table ShowTier) : Prop :=
  ∀ id entry, entries.get id = some entry → ∃ tierId tier, tiers.get tierId = some tier ∧
    tier.showId = entry.showId ∧ tier.priorityRank = entry.priorityRank

theorem RanksKnown.empty : RanksKnown .empty .empty := by
  intro id entry found
  cases found

/-- The tiers of a show that has begun stay. -/
theorem Effect.tiers_kept {ctx : Ctx} {db after : DB} {m : Mutation}
    (effect : Effect ctx db m after) {tierId : TierId} {tier : ShowTier}
    (found : db.showTiers.get tierId = some tier) (begun : BegunIn db.shows tier.showId) :
    after.showTiers.get tierId = some tier := by
  cases effect with
  | tiersReplaced showId hotline showTiers present created kept each same =>
      rw [same.showTiers]
      refine kept tierId tier found ?_
      rintro rfl
      obtain ⟨s, located, started⟩ := begun
      obtain rfl := Option.some.inj (present.symm.trans located)
      exact started created
  | showAdded hotline tier created free same =>
      rw [same.showTiers]
      exact Table.get_insert_of_some found _
  | selected showId hotline entryId entry mode attempt asked host live idle present inShow waiting
      held paid same =>
      rw [same.showTiers]
      cases attempt <;> exact found
  | _ =>
      rename_i same
      rw [same.showTiers]
      exact found

/-- Whoever has joined has the rank of a tier of the show. -/
theorem enqueue_ranks {ctx : Ctx} {db : DB} {viewerId : UserId} {args : JoinArgs}
    {tierId : TierId} {tier : ShowTier} {existing : Option EntryId} {attempt : Option AttemptId}
    {id : EntryId} {entry : QueueEntry}
    (found : (enqueue ctx db viewerId args tierId tier existing attempt).1.queueEntries.get id =
      some entry) :
    db.queueEntries.get id = some entry ∨
      entry.showId = args.showId ∧ entry.priorityRank = tier.priorityRank := by
  cases existing with
  | none =>
      rcases Table.get_insert_row found with ⟨_, rfl⟩ | old
      · exact Or.inr ⟨rfl, rfl⟩
      · exact Or.inl old
  | some entryId =>
      change (db.queueEntries.patch entryId _).get id = some entry at found
      rw [Table.get_patch] at found
      split at found
      · obtain ⟨e, _, rfl⟩ := Option.map_eq_some_iff.mp found
        exact Or.inr ⟨rfl, rfl⟩
      · exact Or.inl found

theorem RanksKnown.effect {ctx : Ctx} {db after : DB} {m : Mutation}
    (known : RanksKnown db.queueEntries db.showTiers) (inStep : InStep db)
    (effect : Effect ctx db m after) : RanksKnown after.queueEntries after.showTiers := by
  have kept (id : EntryId) (entry : QueueEntry) (found : db.queueEntries.get id = some entry) :
      ∃ tierId tier, after.showTiers.get tierId = some tier ∧ tier.showId = entry.showId ∧
        tier.priorityRank = entry.priorityRank := by
    obtain ⟨tierId, tier, located, ofShow, rank⟩ := known id entry found
    refine ⟨tierId, tier, effect.tiers_kept located ?_, ofShow, rank⟩
    rw [ofShow]
    exact inStep.queue.placed id entry found
  intro id entry found
  rcases effect.seats with seats | ⟨viewerId, args, tierId, tier, existing, attempt, joined⟩
  · rcases seats.origin id entry found with ⟨before, present, seat⟩ | ⟨_, none⟩
    · rw [seat.showId, seat.priorityRank]
      exact kept id before present
    · exact none.elim
  · rw [joined.same.queueEntries] at found
    rcases enqueue_ranks found with old | ⟨inShow, rank⟩
    · exact kept id entry old
    · have begun := (showLive_iff.mp joined.live).begun
      rw [← joined.inShow] at begun
      exact ⟨tierId, tier, effect.tiers_kept joined.found begun, joined.inShow.trans inShow.symm,
        rank.symm⟩

theorem RanksKnown.reached {w : World} (reached : World.Reached w) :
    RanksKnown w.db.queueEntries w.db.showTiers := by
  refine (reached.induct (fun w => World.Reached w ∧ RanksKnown w.db.queueEntries w.db.showTiers)
    ?_ ?_).2
  · exact ⟨.refl _ _, .empty⟩
  · rintro w input ⟨reached, known⟩
    refine ⟨reached.step input, ?_⟩
    have jobless : World.Unscheduled fun db => RanksKnown db.queueEntries db.showTiers :=
      fun _ _ => Iff.rfl
    have blind (_ : Ctx) (_ : Mutation) : World.Unscheduled fun _ => True := fun _ _ => Iff.rfl
    refine World.step_keeps jobless InStep.unscheduled blind ?_ (InStep.reached reached) known
      fun _ _ => trivial
    intro ctx db m inStep known _
    exact known.effect inStep (m.effect ctx db)

/-! ### Who is drawn -/

/-- The entry waits, and nobody in its show waits at a higher rank. -/
structure Foremost (db : DB) (showId : ShowId) (entryId : EntryId) (entry : QueueEntry) : Prop where
  present : db.queueEntries.get entryId = some entry
  inShow : entry.showId = showId
  waiting : entry.status = .waiting
  highest : ∀ id other, db.queueEntries.get id = some other → other.showId = showId →
    other.status = .waiting → other.priorityRank ≤ entry.priorityRank

theorem foremost_iff {db : DB} {showId : ShowId} {entryId : EntryId} {entry : QueueEntry} :
    Foremost db showId entryId entry ↔ db.queueEntries.get entryId = some entry ∧
      entry.showId = showId ∧ entry.status = .waiting ∧
      ∀ row ∈ db.queueEntries.rows, row.2.showId = showId → row.2.status = .waiting →
        row.2.priorityRank ≤ entry.priorityRank := by
  constructor
  · intro foremost
    refine ⟨foremost.present, foremost.inShow, foremost.waiting, ?_⟩
    intro row member
    exact foremost.highest row.1 row.2 ((Table.mem_rows_iff _ _ _).mp member)
  · intro ⟨present, inShow, waiting, highest⟩
    refine ⟨present, inShow, waiting, ?_⟩
    intro id other found
    exact highest (id, other) ((Table.mem_rows_iff _ _ _).mpr found)

instance (db : DB) (showId : ShowId) (entryId : EntryId) (entry : QueueEntry) :
    Decidable (Foremost db showId entryId entry) := decidable_of_iff' _ foremost_iff

theorem mem_tierRanks {db : DB} {showId : ShowId} {rank : Nat} :
    rank ∈ tierRanks db showId ↔ ∃ tierId tier, db.showTiers.get tierId = some tier ∧
      tier.showId = showId ∧ tier.priorityRank = rank := by
  unfold tierRanks
  rw [List.mem_insertionSort, List.mem_dedup, List.mem_map]
  constructor
  · intro ⟨row, member, same⟩
    obtain ⟨located, matched⟩ := (Table.mem_query _ _ row.1 row.2).mp member
    exact ⟨row.1, row.2, located, by simpa using matched, same⟩
  · intro ⟨tierId, tier, located, inShow, same⟩
    exact ⟨(tierId, tier), (Table.mem_query _ _ tierId tier).mpr ⟨located, by simpa using inShow⟩,
      same⟩

section Drawn

variable {db : DB} {showId : ShowId} {random : ℚ}

/-- The first rank with anyone waiting is the highest of the waiting entries. -/
theorem drawCaller_some (known : RanksKnown db.queueEntries db.showTiers)
    {row : EntryId × QueueEntry} (drawn : drawCaller db showId random = some row) :
    Foremost db showId row.1 row.2 ∧
      drawAt db showId random row.2.priorityRank = some row := by
  obtain ⟨front, rank, back, split, here, before⟩ := List.findSome?_eq_some_iff.mp drawn
  obtain ⟨present, inShow, waiting, same⟩ := mem_waitingAt.mp (drawAt_waiting here)
  refine ⟨⟨present, inShow, waiting, ?_⟩, same ▸ here⟩
  intro id other found together also
  by_contra above
  obtain ⟨tierId, tier, located, ofShow, named⟩ := known id other found
  have member : other.priorityRank ∈ tierRanks db showId :=
    mem_tierRanks.mpr ⟨tierId, tier, located, ofShow.trans together, named⟩
  have sorted : (tierRanks db showId).Pairwise (· ≥ ·) := List.pairwise_insertionSort _ _
  rw [split] at member sorted
  rcases List.mem_append.mp member with early | late
  · have nobody := drawAt_none_iff.mp (before _ early)
    have someone : (id, other) ∈ waitingAt db showId other.priorityRank :=
      mem_waitingAt.mpr ⟨found, together, also, rfl⟩
    rw [nobody] at someone
    cases someone
  · have lower : other.priorityRank ≤ rank := by
      rcases List.mem_cons.mp late with here | later
      · exact here.le
      · exact List.rel_of_pairwise_cons (List.pairwise_append.mp sorted).2.1 later
    omega

theorem drawCaller_none_iff (known : RanksKnown db.queueEntries db.showTiers) :
    drawCaller db showId random = none ↔ ∀ id entry, db.queueEntries.get id = some entry →
      entry.showId = showId → entry.status ≠ .waiting := by
  constructor
  · intro nobody id entry found inShow waiting
    obtain ⟨tierId, tier, located, ofShow, named⟩ := known id entry found
    have absent := List.findSome?_eq_none_iff.mp nobody entry.priorityRank
      (mem_tierRanks.mpr ⟨tierId, tier, located, ofShow.trans inShow, named⟩)
    have someone : (id, entry) ∈ waitingAt db showId entry.priorityRank :=
      mem_waitingAt.mpr ⟨found, inShow, waiting, rfl⟩
    rw [drawAt_none_iff.mp absent] at someone
    cases someone
  · intro nobody
    cases drawn : drawCaller db showId random with
    | none => rfl
    | some row =>
        obtain ⟨foremost, _⟩ := drawCaller_some known drawn
        exact absurd foremost.waiting (nobody row.1 row.2 foremost.present foremost.inShow)

/-- The draw takes place among the foremost entries. -/
theorem Foremost.drawCaller_eq (known : RanksKnown db.queueEntries db.showTiers)
    {entryId : EntryId} {entry : QueueEntry} (foremost : Foremost db showId entryId entry) :
    drawCaller db showId random = drawAt db showId random entry.priorityRank := by
  cases drawn : drawCaller db showId random with
  | none =>
      exact absurd foremost.waiting
        ((drawCaller_none_iff known).mp drawn entryId entry foremost.present foremost.inShow)
  | some row =>
      obtain ⟨also, here⟩ := drawCaller_some known drawn
      have same : row.2.priorityRank = entry.priorityRank :=
        le_antisymm (foremost.highest row.1 row.2 also.present also.inShow also.waiting)
          (also.highest entryId entry foremost.present foremost.inShow foremost.waiting)
      rw [← same, here]

end Drawn

/-! ### Selections -/

/-- The hold of a waiting entry can be captured, as long as nobody but Bling captures holds. -/
theorem waiting_payable {w : World} (reached : World.Reached w) (sound : BackingSound w)
    {entryId : EntryId} {entry : QueueEntry} (found : w.db.queueEntries.get entryId = some entry)
    (waiting : entry.status = .waiting) (ctx : Ctx) (showId : ShowId) (hotline : Show)
    (mode : SelectionMode) :
    ∃ opened, createCall ctx w.db showId hotline entryId entry mode = .ok opened := by
  have seated := (SeatsSound.reached reached).seated
  unfold createCall
  dsimp only
  rw [if_neg]
  · exact ⟨_, rfl⟩
  · rintro ⟨paid, unpaid⟩
    obtain ⟨attemptId, pays⟩ := seated.paid entryId entry found paid
    obtain ⟨a, present, _⟩ := seated.backed entryId entry attemptId found pays
    have authorized := sound.held entryId entry attemptId a found waiting pays present
    apply unpaid
    simp [entryAttempt, paid, pays, present, authorized]

theorem createCall_not_empty (ctx : Ctx) (db : DB) (showId : ShowId) (hotline : Show)
    (entryId : EntryId) (entry : QueueEntry) (mode : SelectionMode) :
    createCall ctx db showId hotline entryId entry mode ≠ .error .queueEmpty := by
  unfold createCall
  dsimp only
  split <;> exact nofun

/-- Whoever the creator's random pick selects waits at the highest rank of all
who wait, whatever number is drawn. The queue is empty only when nobody waits. -/
theorem random_pick_respects_tiers (inputs : List (Ctx × Op)) (ctx : Ctx)
    (userId : Option UserId) (showId : ShowId) (hotline : Show) (random : ℚ)
    (ready : prepareSelection (run World.step World.empty inputs).db userId showId = .ok hotline) :
    let db := (run World.step World.empty inputs).db
    (selectDrawn ctx db userId showId random = .error .queueEmpty ↔
      ∀ id entry, db.queueEntries.get id = some entry → entry.showId = showId →
        entry.status ≠ .waiting) ∧
    ((∃ id entry, db.queueEntries.get id = some entry ∧ entry.showId = showId ∧
        entry.status = .waiting) →
      ∃ entryId entry, Foremost db showId entryId entry ∧
        selectDrawn ctx db userId showId random =
          createCall ctx db showId hotline entryId entry .random ∧
        (Along World.step (fun _ input => capturesOutside input.2 = false) World.empty inputs →
          ∃ opened, selectDrawn ctx db userId showId random = .ok opened)) := by
  have reached : World.Reached (run World.step World.empty inputs) := ⟨inputs, rfl⟩
  have known := RanksKnown.reached reached
  generalize state : run World.step World.empty inputs = w at reached known ready ⊢
  dsimp only
  have nobody : drawCaller w.db showId random = none ↔ _ := drawCaller_none_iff known
  have picks : selectDrawn ctx w.db userId showId random =
      match drawCaller w.db showId random with
      | none => .error .queueEmpty
      | some (entryId, entry) => createCall ctx w.db showId hotline entryId entry .random := by
    unfold selectDrawn
    rw [ready]
    rfl
  rw [picks]
  cases drawn : drawCaller w.db showId random with
  | none =>
      refine ⟨⟨fun _ => nobody.mp drawn, fun _ => rfl⟩, ?_⟩
      intro ⟨id, entry, found, inShow, waiting⟩
      exact absurd waiting (nobody.mp drawn id entry found inShow)
  | some row =>
      obtain ⟨foremost, _⟩ := drawCaller_some known drawn
      refine ⟨⟨?_, ?_⟩, fun _ => ⟨row.1, row.2, foremost, rfl, ?_⟩⟩
      · intro failed
        exact absurd failed (createCall_not_empty _ _ _ _ _ _ _)
      · intro none
        exact absurd foremost.waiting (none row.1 row.2 foremost.present foremost.inShow)
      · intro own
        have sound : BackingSound w := state ▸ BackingSound.run (.refl _ _) ⟨.empty, .empty⟩ own
        exact waiting_payable reached sound foremost.present foremost.waiting _ _ _ _

/-- Two callers wait in a live show's only tier, the second since a moment later. -/
def twoCallers : List (Ctx × Op) :=
  [(⟨1, World.sampleEnv⟩, .request (.signUp (some [97]))),
    (⟨1, World.sampleEnv⟩, .request (.signUp none)),
    (⟨1, World.sampleEnv⟩, .request (.signUp none)),
    (⟨2, World.sampleEnv⟩, .request (.createShow (some 0))),
    (⟨3, World.sampleEnv⟩, .request (.startShow (some 0) 0)),
    (⟨5, World.sampleEnv⟩, .request (.join (some 1) ⟨0, none, [98], [116]⟩)),
    (⟨7, World.sampleEnv⟩, .request (.join (some 2) ⟨0, none, [99], [116]⟩))]

def twoCallersDB : DB := (run World.step World.empty twoCallers).db

set_option maxRecDepth 20000 in
theorem random_pick_respects_tiers_twoCallers :
    ∃ hotline, prepareSelection twoCallersDB (some 0) 0 = .ok hotline ∧
    (selectDrawn ⟨9, World.sampleEnv⟩ twoCallersDB (some 0) 0 (1 / 2) = .error .queueEmpty ↔
      ∀ id entry, twoCallersDB.queueEntries.get id = some entry → entry.showId = 0 →
        entry.status ≠ .waiting) ∧
    ∃ entryId entry, Foremost twoCallersDB 0 entryId entry ∧
      selectDrawn ⟨9, World.sampleEnv⟩ twoCallersDB (some 0) 0 (1 / 2) =
        createCall ⟨9, World.sampleEnv⟩ twoCallersDB 0 hotline entryId entry .random ∧
      ∃ opened, selectDrawn ⟨9, World.sampleEnv⟩ twoCallersDB (some 0) 0 (1 / 2) = .ok opened := by
  obtain ⟨empty, picks⟩ := random_pick_respects_tiers twoCallers ⟨9, World.sampleEnv⟩ (some 0) 0 _
    (1 / 2) rfl
  obtain ⟨entryId, entry, foremost, same, opens⟩ := picks ⟨0, _, rfl, rfl, rfl⟩
  exact ⟨_, rfl, empty, entryId, entry, foremost, same, opens (by decide)⟩

/-- A caller waits whose hold support has captured in the dashboard, and Bling is told. -/
def capturedWaiting : List (Ctx × Op) :=
  World.sampled (World.preparing ++ World.confirming ++ World.waiting ++
    [.stripe (.captureOutside 0), .deliver 0])

set_option maxRecDepth 40000 in
/-- A pick fails where the hold of the one who would be selected is gone. -/
theorem random_pick_fails : ¬ ∀ (inputs : List (Ctx × Op)) (ctx : Ctx) (userId : Option UserId)
    (showId : ShowId) (hotline : Show) (random : ℚ), 0 ≤ random → random < 1 →
    prepareSelection (run World.step World.empty inputs).db userId showId = .ok hotline →
    let db := (run World.step World.empty inputs).db
    (∃ id entry, db.queueEntries.get id = some entry ∧ entry.showId = showId ∧
      entry.status = .waiting) →
    ∃ entryId entry opened, Foremost db showId entryId entry ∧
      selectDrawn ctx db userId showId random =
        createCall ctx db showId hotline entryId entry .random ∧
      selectDrawn ctx db userId showId random = .ok opened := by
  intro always
  obtain ⟨entryId, entry, opened, foremost, same, picked⟩ := always capturedWaiting
    ⟨9, World.sampleEnv⟩ (some 0) 0 _ (1 / 2) (by norm_num) (by norm_num) rfl ⟨0, _, rfl, rfl, rfl⟩
  have alone : (run World.step World.empty capturedWaiting).db.queueEntries.next = 1 := by decide
  have first : entryId < 1 := alone ▸ Table.get_lt foremost.present
  obtain rfl := Nat.lt_one_iff.mp first
  obtain rfl := Option.some.inj (foremost.present.symm.trans rfl)
  rw [same] at picked
  cases picked

/-! ### Who can win -/

theorem waitingAt_chronological (db : DB) (showId : ShowId) (rank : Nat) :
    Chronological joinTime joinedBefore (waitingAt db showId rank) := by
  refine ⟨waitingAt_ordered db showId rank, fun a => Or.inr ⟨rfl, le_refl _⟩, ?_,
    joinedBefore_total, ?_⟩
  · intro a b first second before after
    have sameId : a.1 = b.1 := by
      rcases before with earlier | ⟨same, first⟩
      · rcases after with later | ⟨same, _⟩
        · exact absurd later (Nat.lt_asymm earlier)
        · exact absurd earlier (same ▸ Nat.lt_irrefl _)
      · rcases after with later | ⟨_, second⟩
        · exact absurd later (same ▸ Nat.lt_irrefl _)
        · exact Nat.le_antisymm first second
    have found := (mem_waitingAt.mp first).1
    rw [sameId, (mem_waitingAt.mp second).1] at found
    exact Prod.ext sameId (Option.some.inj found).symm
  · intro a b before
    unfold joinTime
    rcases before with earlier | ⟨same, _⟩
    · exact_mod_cast Nat.le_of_lt earlier
    · rw [same]

/-- Some interval of the numbers `Math.random()` returns draws the entry. -/
def CanWin (db : DB) (showId : ShowId) (entryId : EntryId) (entry : QueueEntry) : Prop :=
  ∃ low high : ℚ, 0 ≤ low ∧ low < high ∧ high ≤ 1 ∧
    ∀ random, low < random → random < high → drawCaller db showId random = some (entryId, entry)

section Winners

variable {db : DB} {showId : ShowId} {entryId : EntryId} {entry : QueueEntry}

theorem Foremost.mem_iff (foremost : Foremost db showId entryId entry)
    {row : EntryId × QueueEntry} :
    row ∈ waitingAt db showId entry.priorityRank ↔ Foremost db showId row.1 row.2 := by
  rw [mem_waitingAt]
  constructor
  · intro ⟨present, inShow, waiting, rank⟩
    exact ⟨present, inShow, waiting, rank ▸ foremost.highest⟩
  · intro other
    refine ⟨other.present, other.inShow, other.waiting, le_antisymm ?_ ?_⟩
    · exact foremost.highest row.1 row.2 other.present other.inShow other.waiting
    · exact other.highest entryId entry foremost.present foremost.inShow foremost.waiting

theorem Foremost.canWin_iff_wins (foremost : Foremost db showId entryId entry)
    (known : RanksKnown db.queueEntries db.showTiers) : CanWin db showId entryId entry ↔
      Wins joinTime (waitingAt db showId entry.priorityRank) (entryId, entry) := by
  unfold CanWin Wins
  simp only [foremost.drawCaller_eq known, drawAt_eq]

/-- A foremost entry can win exactly when it is the first made of those that
joined at its time, and others joined before that time or none after. -/
theorem waiting_caller_wins_iff (known : RanksKnown db.queueEntries db.showTiers)
    (foremost : Foremost db showId entryId entry) :
    CanWin db showId entryId entry ↔
      (∀ id other, Foremost db showId id other → other.joinedAt = entry.joinedAt →
        entryId ≤ id) ∧
      ((∃ id other, Foremost db showId id other ∧ other.joinedAt < entry.joinedAt) ∨
        ∀ id other, Foremost db showId id other → other.joinedAt ≤ entry.joinedAt) := by
  have member : (entryId, entry) ∈ waitingAt db showId entry.priorityRank :=
    foremost.mem_iff.mpr foremost
  rw [foremost.canWin_iff_wins known,
    (waitingAt_chronological db showId entry.priorityRank).wins_iff member]
  simp only [foremost.mem_iff, Prod.forall, Prod.exists, joinTime, joinedBefore, Nat.cast_inj,
    Nat.cast_lt, Nat.cast_le]
  apply and_congr_left
  intro _
  constructor
  · intro first id other also same
    rcases first id other also same with before | ⟨_, made⟩
    · exact absurd before (same ▸ Nat.lt_irrefl _)
    · exact made
  · intro first id other also same
    exact Or.inr ⟨same.symm, first id other also same⟩

end Winners

/-- The two callers' entries, by when they joined and who they are. -/
def twoCallersEntry (viewerId : UserId) (displayName : Text) (joinedAt : Time) : QueueEntry :=
  { showId := 0
    viewerId
    displayName
    topic := [116]
    status := .waiting
    tierId := 0
    tierName := [83, 116, 97, 110, 100, 97, 114, 100]
    priorityRank := 0
    callDurationSeconds := 300
    tierPriceCents := 0
    joinedAt
    selectedAt := none
    leftAt := none
    paymentAttemptId := none }

set_option maxRecDepth 20000 in
theorem waiting_caller_wins_iff_twoCallers :
    Foremost twoCallersDB 0 1 (twoCallersEntry 2 [99] 7) ∧
    (CanWin twoCallersDB 0 1 (twoCallersEntry 2 [99] 7) ↔
      (∀ id other, Foremost twoCallersDB 0 id other → other.joinedAt = 7 → 1 ≤ id) ∧
      ((∃ id other, Foremost twoCallersDB 0 id other ∧ other.joinedAt < 7) ∨
        ∀ id other, Foremost twoCallersDB 0 id other → other.joinedAt ≤ 7)) :=
  ⟨by decide, waiting_caller_wins_iff (RanksKnown.reached ⟨twoCallers, rfl⟩) (by decide)⟩

set_option maxRecDepth 20000 in
/-- Of two callers, the one who joined first is never drawn but by the number zero. -/
theorem first_caller_cannot_win :
    Foremost twoCallersDB 0 0 (twoCallersEntry 1 [98] 5) ∧
      ¬ CanWin twoCallersDB 0 0 (twoCallersEntry 1 [98] 5) := by
  have foremost : Foremost twoCallersDB 0 0 (twoCallersEntry 1 [98] 5) := by decide
  refine ⟨foremost, ?_⟩
  intro wins
  have member : (0, twoCallersEntry 1 [98] 5) ∈ waitingAt twoCallersDB 0
      (twoCallersEntry 1 [98] 5).priorityRank := foremost.mem_iff.mpr foremost
  have wins := (foremost.canWin_iff_wins (RanksKnown.reached ⟨twoCallers, rfl⟩)).mp wins
  rcases (((waitingAt_chronological _ _ _).wins_iff member).mp wins).2 with earlier | last
  · obtain ⟨row, present, before⟩ := earlier
    have none : ∀ row ∈ waitingAt twoCallersDB 0 0, ¬ row.2.joinedAt < 5 := by decide
    exact none row present (Nat.cast_lt.mp before)
  · have none : ¬ ∀ row ∈ waitingAt twoCallersDB 0 0, row.2.joinedAt ≤ 5 := by decide
    exact none fun row present => Nat.cast_le.mp (last row present)

end Bling
