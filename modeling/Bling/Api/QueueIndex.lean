import Bling.Api.Agreement
import Bling.Api.Outbox
import Bling.Library.Log

set_option autoImplicit false

namespace Bling.Api

open Library

/-! The Redis index of who waits: `queue/index.go`, the updates that follow a join
or a leave in `queue/service.go`, and `flushOutbox`, in any number of processes. -/

/-! ### The index -/

/-- The sets of `priorityKey`, and the sorted sets of `candidatesKey`. -/
structure CandidateIndex where
  priorities : List (ShowId × Nat)
  candidates : List (IndexKey × Nat)

namespace CandidateIndex

def add (index : CandidateIndex) (candidate : Candidate) : CandidateIndex where
  priorities := index.priorities.insert (candidate.showId, candidate.priorityRank)
  candidates := (candidate.key, candidate.queuePosition) ::
    index.candidates.filter fun row => row.1 != candidate.key

def remove (index : CandidateIndex) (candidate : Candidate) : CandidateIndex :=
  { index with candidates := index.candidates.filter fun row => row.1 != candidate.key }

/-- The candidates under the priorities that are listed, and these. -/
def clear (index : CandidateIndex) (showId : ShowId) : CandidateIndex where
  priorities := index.priorities.filter fun row => row.1 != showId
  candidates := index.candidates.filter fun row =>
    !(row.1.showId == showId && decide ((showId, row.1.priorityRank) ∈ index.priorities))

/-- The score of a member. -/
def position (index : CandidateIndex) (key : IndexKey) : Option Nat :=
  (index.candidates.find? fun row => row.1 == key).map Prod.snd

end CandidateIndex

/-- The update of the index that follows a join or a leave. -/
inductive IndexUpdate where
  | add (candidate : Candidate)
  | remove (candidate : Candidate)

def IndexUpdate.apply (index : CandidateIndex) : IndexUpdate → CandidateIndex
  | .add candidate => index.add candidate
  | .remove candidate => index.remove candidate

def OutboxEvent.apply (index : CandidateIndex) (event : OutboxEvent) : CandidateIndex :=
  match event.eventType with
  | .callerJoined => index.add event.candidate
  | .callerLeft | .callerSelected => index.remove event.candidate
  | .showEnded => index.clear event.candidate.showId
  | .call => index

/-- The event puts the key's member into the index, or takes it out. -/
def OutboxEvent.about (event : OutboxEvent) (key : IndexKey) : Bool :=
  (event.eventType == .callerJoined || event.eventType == .callerLeft ||
    event.eventType == .callerSelected) && event.candidate.key == key

/-! ### Transactions, updates and flushes -/

structure OutboxRow where
  event : OutboxEvent
  published : Bool

abbrev OutboxId := Nat

/-- A run of `flushOutbox`: the events that it has read, and those left to apply. -/
structure Flush where
  batch : List (OutboxId × OutboxEvent)
  remaining : List (OutboxId × OutboxEvent)

structure QueueState where
  api : State
  /-- The row of a paid caller, as it was when the caller was chosen. -/
  selected : List (Reservation × Candidate)
  outbox : Table OutboxRow
  index : CandidateIndex
  direct : List IndexUpdate
  flushes : List Flush

inductive QueueInput where
  | api (now : Time) (op : Op)
  /-- A direct update reaches the index. -/
  | update (position : Nat)
  /-- A direct update fails. -/
  | fail (position : Nat)
  | pendingOutbox
  | publish (flush : Nat)
  | markOutboxPublished (flush : Nat)
  /-- A flush ends with an error. -/
  | abort (flush : Nat)
  /-- A key is gone thirty days after the last candidate was added. -/
  | expireCandidates (showId : ShowId) (priorityRank : Nat)
  | expirePriorities (showId : ShowId)

namespace QueueState

def start (shows : Table Show) (showTiers : Table ShowTier) : QueueState :=
  ⟨.opening shows showTiers, [], .empty, ⟨[], []⟩, [], []⟩

def candidateOf (s : QueueState) (r : Reservation) : Option Candidate :=
  (s.selected.find? fun row => row.1 == r).map Prod.snd

/-- The row of the paid caller that a selection has chosen. -/
def chosen (now : Time) (api : State) : Op → List (Reservation × Candidate)
  | .select showId creatorId choice =>
    match select now api.db showId creatorId choice with
    | .ok (_, some r) => (callerOf api.db showId choice).toList.map fun row =>
        (r, candidateFromEntry row.1 row.2)
    | _ => []
  | _ => []

/-- What `Join` and `Leave` of the service do with the entry that they are given. -/
def following (now : Time) (api : State) : Op → List IndexUpdate
  | .join input =>
    match join now api.db input with
    | .error _ => []
    | .ok (after, entryId) => (after.queueEntries.get entryId).toList.map fun entry =>
        .add (candidateFromEntry entryId entry)
  | .leave showId sessionTokenHash =>
    match leave now api.db showId sessionTokenHash with
    | .error _ => []
    | .ok after => (after.queueEntries.first fun q =>
        q.showId == showId && q.sessionTokenHash == sessionTokenHash).toList.map fun row =>
          .remove (candidateFromEntry row.1 row.2)
  | _ => []

def pending (outbox : Table OutboxRow) : List (OutboxId × OutboxEvent) :=
  ((outbox.query fun row => !row.published).take 1000).map fun row => (row.1, row.2.event)

def markPublished (outbox : Table OutboxRow) (batch : List (OutboxId × OutboxEvent)) :
    Table OutboxRow :=
  batch.foldl (fun outbox row => outbox.patch row.1 fun stored => { stored with published := true })
    outbox

def step (s : QueueState) : QueueInput → QueueState
  | .api now op =>
    { s with
      api := s.api.step (now, op)
      selected := s.selected ++ chosen now s.api op
      outbox := s.outbox.append ((emitted now s.api s.candidateOf op).map fun event =>
        ⟨event, false⟩)
      direct := s.direct ++ following now s.api op }
  | .update position =>
    match s.direct[position]? with
    | none => s
    | some update =>
      { s with index := update.apply s.index, direct := s.direct.eraseIdx position }
  | .fail position => { s with direct := s.direct.eraseIdx position }
  | .pendingOutbox => { s with flushes := s.flushes ++ [⟨pending s.outbox, pending s.outbox⟩] }
  | .publish flush =>
    match s.flushes[flush]? with
    | some ⟨batch, row :: rest⟩ =>
      { s with index := row.2.apply s.index, flushes := s.flushes.set flush ⟨batch, rest⟩ }
    | _ => s
  | .markOutboxPublished flush =>
    match s.flushes[flush]? with
    | some ⟨batch, []⟩ =>
      { s with outbox := markPublished s.outbox batch, flushes := s.flushes.eraseIdx flush }
    | _ => s
  | .abort flush => { s with flushes := s.flushes.eraseIdx flush }
  | .expireCandidates showId priorityRank =>
    { s with index := { s.index with candidates := s.index.candidates.filter fun row =>
        !(row.1.showId == showId && row.1.priorityRank == priorityRank) } }
  | .expirePriorities showId =>
    { s with index := { s.index with priorities := s.index.priorities.filter fun row =>
        row.1 != showId } }

/-! ### What an update may overtake -/

/-- The last event about a key is still to be applied by each flush that will
publish it. -/
def awaits (s : QueueState) (key : IndexKey) : Bool :=
  (s.outbox.last fun row => row.event.about key).any fun last => !last.2.published &&
    s.flushes.all fun flush => !(flush.batch.any fun row => row.1 == last.1) ||
      flush.remaining.any fun row => row.1 == last.1

/-- An update leaves what the database has, or something that is still to be
overwritten. -/
def settles (s : QueueState) (key : IndexKey) (position : Option Nat) : Bool :=
  !s.api.db.showLive key.showId || s.api.db.waiting key == position || s.awaits key

def eventSettles (s : QueueState) (event : OutboxEvent) : Bool :=
  match event.eventType with
  | .callerJoined => s.settles event.candidate.key (some event.candidate.queuePosition)
  | .callerLeft | .callerSelected => s.settles event.candidate.key none
  | .showEnded | .call => true

/-- Transactions tell of whom they move, updates settle, and no key in use expires. -/
def orderly (s : QueueState) : QueueInput → Bool
  | .api now op => told now s.api s.candidateOf op
  | .update position => (s.direct[position]?).all fun update => match update with
    | .add candidate => s.settles candidate.key (some candidate.queuePosition)
    | .remove candidate => s.settles candidate.key none
  | .publish flush => match s.flushes[flush]? with
    | some ⟨_, row :: _⟩ => s.eventSettles row.2
    | _ => true
  | .expireCandidates showId priorityRank => !s.api.db.showLive showId ||
      s.index.candidates.all fun row =>
        !(row.1.showId == showId && row.1.priorityRank == priorityRank)
  | .expirePriorities showId => !s.api.db.showLive showId ||
      s.index.candidates.all fun row => row.1.showId != showId
  | _ => true

/-- Nothing is left to publish, and no update or flush is under way. -/
def quiet (s : QueueState) : Bool :=
  s.outbox.rows.all (fun row => row.2.published) && s.direct.isEmpty && s.flushes.isEmpty

/-- The index of each live show has those who wait, where `List` finds them. -/
structure Converged (s : QueueState) : Prop where
  position : ∀ key, s.api.db.showLive key.showId = true →
    s.index.position key = s.api.db.waiting key
  listed : ∀ key, s.api.db.showLive key.showId = true → (s.index.position key).isSome →
    (key.showId, key.priorityRank) ∈ s.index.priorities

end QueueState

/-! ### Positions -/

section Index

variable {index : CandidateIndex} {candidate : Candidate} {key : IndexKey}

theorem find?_filter_of_imp {α : Type} {p q : α → Bool} (imp : ∀ a, q a = true → p a = true)
    (l : List α) : (l.filter p).find? q = l.find? q := by
  rw [List.find?_filter]
  congr 1
  funext a
  cases kept : q a with
  | true => simp [imp a kept]
  | false => simp

/-- Members of a filtered index are where they were. -/
theorem position_filter {p : IndexKey × Nat → Bool} {rows : List (IndexKey × Nat)}
    (kept : ∀ row : IndexKey × Nat, row.1 = key → p row = true) :
    ((rows.filter p).find? fun row => row.1 == key).map Prod.snd =
      (rows.find? fun row => row.1 == key).map Prod.snd := by
  rw [find?_filter_of_imp]
  intro row same
  exact kept row (by simpa using same)

theorem position_add : (index.add candidate).position key =
    if candidate.key = key then some candidate.queuePosition else index.position key := by
  unfold CandidateIndex.add CandidateIndex.position
  dsimp only
  rw [List.find?_cons]
  by_cases here : candidate.key = key
  · rw [if_pos here, beq_iff_eq.mpr here]
    rfl
  · rw [if_neg here, beq_eq_false_iff_ne.mpr here]
    exact position_filter fun row same => by simp [same, Ne.symm here]

theorem position_remove : (index.remove candidate).position key =
    if candidate.key = key then none else index.position key := by
  unfold CandidateIndex.remove CandidateIndex.position
  dsimp only
  by_cases here : candidate.key = key
  · rw [if_pos here, Option.map_eq_none_iff, List.find?_eq_none]
    intro row member
    simp only [List.mem_filter, bne_iff_ne, here] at member
    simpa using member.2
  · rw [if_neg here]
    exact position_filter fun row same => by simp [same, Ne.symm here]

theorem position_clear {showId : ShowId} (apart : showId ≠ key.showId) :
    (index.clear showId).position key = index.position key :=
  position_filter fun row same => by simp [same, Ne.symm apart]

theorem about_iff {event : OutboxEvent} : event.about key = true ↔
    (event.eventType = .callerJoined ∨ event.eventType = .callerLeft ∨
      event.eventType = .callerSelected) ∧ event.candidate.key = key := by
  simp [OutboxEvent.about, or_assoc]

/-- An event about a key leaves in the index what it tells of the key. -/
theorem position_apply_about {event : OutboxEvent} (about : event.about key = true) :
    (event.apply index).position key = event.effect key none := by
  obtain ⟨kind, here⟩ := about_iff.mp about
  unfold OutboxEvent.apply OutboxEvent.effect
  rcases kind with kind | kind | kind <;> rw [kind] <;> dsimp only
  · rw [position_add, if_pos here, if_pos here]
  · rw [position_remove, if_pos here, if_pos here]
  · rw [position_remove, if_pos here, if_pos here]

/-- Any other event leaves the key as it is, but for the end of its show. -/
theorem position_apply_other {event : OutboxEvent} (other : event.about key = false)
    (going : event.eventType = .showEnded → event.candidate.showId ≠ key.showId) :
    (event.apply index).position key = index.position key := by
  have apart (kind : event.eventType = .callerJoined ∨ event.eventType = .callerLeft ∨
      event.eventType = .callerSelected) : event.candidate.key ≠ key := by
    intro here
    rw [about_iff.mpr ⟨kind, here⟩] at other
    cases other
  unfold OutboxEvent.apply
  cases kind : event.eventType with
  | callerJoined =>
      dsimp only
      rw [position_add, if_neg (apart (Or.inl kind))]
  | callerLeft =>
      dsimp only
      rw [position_remove, if_neg (apart (Or.inr (Or.inl kind)))]
  | callerSelected =>
      dsimp only
      rw [position_remove, if_neg (apart (Or.inr (Or.inr kind)))]
  | showEnded => exact position_clear (going kind)
  | call => rfl

theorem effect_about {event : OutboxEvent} (about : event.about key = true)
    (position : Option Nat) : event.effect key position = event.effect key none := by
  obtain ⟨kind, here⟩ := about_iff.mp about
  unfold OutboxEvent.effect
  rcases kind with kind | kind | kind <;> rw [kind] <;> simp [here]

theorem effect_other {event : OutboxEvent} (other : event.about key = false)
    (going : event.eventType = .showEnded → event.candidate.showId ≠ key.showId)
    (position : Option Nat) : event.effect key position = position := by
  have apart (kind : event.eventType = .callerJoined ∨ event.eventType = .callerLeft ∨
      event.eventType = .callerSelected) : event.candidate.key ≠ key := by
    intro here
    rw [about_iff.mpr ⟨kind, here⟩] at other
    cases other
  unfold OutboxEvent.effect
  cases kind : event.eventType with
  | callerJoined => exact if_neg (apart (Or.inl kind))
  | callerLeft => exact if_neg (apart (Or.inr (Or.inl kind)))
  | callerSelected => exact if_neg (apart (Or.inr (Or.inr kind)))
  | showEnded => exact if_neg (going kind)
  | call => rfl

/-! ### Priorities -/

/-- Each member is under a priority that is listed. -/
def CandidateIndex.Listed (index : CandidateIndex) (showId : ShowId) : Prop :=
  ∀ row ∈ index.candidates, row.1.showId = showId →
    (showId, row.1.priorityRank) ∈ index.priorities

theorem CandidateIndex.Listed.add {showId : ShowId} (listed : index.Listed showId) :
    (index.add candidate).Listed showId := by
  intro row member inShow
  rcases List.mem_cons.mp member with rfl | old
  · exact List.mem_insert_iff.mpr (Or.inl (by rw [← inShow]; rfl))
  · exact List.mem_insert_of_mem (listed row (List.mem_filter.mp old).1 inShow)

theorem CandidateIndex.Listed.remove {showId : ShowId} (listed : index.Listed showId) :
    (index.remove candidate).Listed showId :=
  fun row member inShow => listed row (List.mem_filter.mp member).1 inShow

theorem CandidateIndex.Listed.clear {showId ended : ShowId} (listed : index.Listed showId)
    (apart : ended ≠ showId) : (index.clear ended).Listed showId := by
  intro row member inShow
  refine List.mem_filter.mpr ⟨listed row (List.mem_filter.mp member).1 inShow, ?_⟩
  simpa using Ne.symm apart

theorem CandidateIndex.Listed.apply {showId : ShowId} (listed : index.Listed showId)
    {event : OutboxEvent}
    (going : event.eventType = .showEnded → event.candidate.showId ≠ showId) :
    (event.apply index).Listed showId := by
  unfold OutboxEvent.apply
  cases kind : event.eventType with
  | callerJoined => exact listed.add
  | callerLeft => exact listed.remove
  | callerSelected => exact listed.remove
  | showEnded => exact listed.clear (going kind)
  | call => exact listed

theorem mem_of_position {position : Nat} (here : index.position key = some position) :
    (key, position) ∈ index.candidates := by
  unfold CandidateIndex.position at here
  obtain ⟨⟨other, score⟩, found, rfl⟩ := Option.map_eq_some_iff.mp here
  have same : other = key := by simpa using List.find?_some found
  subst same
  exact List.mem_of_find?_eq_some found

end Index

/-! ### The log -/

namespace QueueState

/-- What the last event about a key tells of it. -/
def logged (outbox : Table OutboxRow) (key : IndexKey) : Option Nat :=
  (outbox.last fun row => row.event.about key).bind fun last => last.2.event.effect key none

/-- What holds after any run. -/
structure Recorded (s : QueueState) : Prop where
  staged : Staged s.api
  mine : ∀ r c, (r, c) ∈ s.selected → c.entryId = r.entryId
  ended : ∀ id row, s.outbox.get id = some row → row.event.eventType = .showEnded →
    s.api.db.showLive row.event.candidate.showId = false
  batch : ∀ flush ∈ s.flushes, ∀ id event, (id, event) ∈ flush.batch →
    ∃ row, s.outbox.get id = some row ∧ row.event = event
  remaining : ∀ flush ∈ s.flushes, ∀ row ∈ flush.remaining, row ∈ flush.batch

/-- What holds after a run whose steps all keep to the condition. -/
structure Settled (s : QueueState) : Prop where
  recorded : Recorded s
  logged : ∀ key, s.api.db.showLive key.showId = true →
    logged s.outbox key = s.api.db.waiting key
  index : ∀ key, s.api.db.showLive key.showId = true →
    s.index.position key = s.api.db.waiting key ∨ s.awaits key = true
  listed : ∀ showId, s.api.db.showLive showId = true → s.index.Listed showId

theorem awaits_iff {s : QueueState} {key : IndexKey} : s.awaits key = true ↔
    ∃ id row, s.outbox.last (fun row => row.event.about key) = some (id, row) ∧
      row.published = false ∧ ∀ flush ∈ s.flushes,
        (∃ event, (id, event) ∈ flush.batch) → ∃ event, (id, event) ∈ flush.remaining := by
  unfold awaits
  rw [Option.any_eq_true]
  simp only [Prod.exists, Bool.and_eq_true, Bool.not_eq_true', List.all_eq_true, Bool.or_eq_true,
    List.any_eq_true, beq_iff_eq]
  refine exists_congr fun id => exists_congr fun row => and_congr_right fun _ =>
    and_congr_right fun _ => forall_congr' fun flush => forall_congr' fun _ => ?_
  rw [← Bool.not_eq_true, List.any_eq_true, ← imp_iff_not_or]
  simp

/-- The condition on an update says that the index agrees, or is overwritten. -/
theorem settles_iff {s : QueueState} {key : IndexKey} {position : Option Nat}
    (live : s.api.db.showLive key.showId = true) : s.settles key position = true ↔
      position = s.api.db.waiting key ∨ s.awaits key = true := by
  simp only [settles, live, Bool.not_true, Bool.false_or, Bool.or_eq_true, beq_iff_eq]
  exact or_congr_left eq_comm

section Transactions

variable {now : Time} {api : State} {selected : Reservation → Option Candidate} {op : Op}

theorem endShow_ends {db after : DB} {showId : ShowId} {creatorId : UserId}
    (ok : endShow now db showId creatorId = .ok after) : after.showLive showId = false := by
  unfold endShow at ok
  split at ok
  · cases ok
  · rename_i hotline host
    split at ok
    · cases ok
    · split at ok
      · cases ok
      · rename_i ended
        obtain rfl := Except.ok.inj ok
        rw [DB.showLive, host, Option.any_some, ended]
        rfl
      · obtain rfl := Except.ok.inj ok
        show ((db.shows.patch showId _).get showId).any _ = false
        rw [Table.get_patch_self host]
        rfl

/-- Only the end of a show tells of it. -/
theorem emitted_type {event : OutboxEvent} (member : event ∈ emitted now api selected op)
    (ends : event.eventType = .showEnded) : ∃ showId creatorId after,
      op = .endShow showId creatorId ∧ endShow now api.db showId creatorId = .ok after ∧
      event.candidate.showId = showId := by
  cases op with
  | endShow showId creatorId =>
      simp only [emitted] at member
      split at member
      · cases member
      · rename_i after ok
        split at member
        · obtain rfl := List.mem_singleton.mp member
          exact ⟨showId, creatorId, after, rfl, ok, rfl⟩
        · cases member
  | _ =>
      simp only [emitted] at member
      repeat' split at member
      all_goals simp only [List.not_mem_nil, List.mem_map, List.mem_singleton] at member
      all_goals obtain ⟨_, _, rfl⟩ := member
      all_goals cases ends

theorem emitted_ended {event : OutboxEvent} (member : event ∈ emitted now api selected op)
    (ends : event.eventType = .showEnded) :
    (api.step (now, op)).db.showLive event.candidate.showId = false := by
  obtain ⟨showId, creatorId, after, rfl, ok, rfl⟩ := emitted_type member ends
  simp only [State.step, ok, State.commit]
  exact endShow_ends ok

/-- A caller is reserved as the row that was read. -/
theorem chosen_entry {r : Reservation} {c : Candidate} (member : (r, c) ∈ chosen now api op) :
    c.entryId = r.entryId := by
  cases op with
  | select showId creatorId choice =>
      simp only [chosen] at member
      split at member
      · rename_i reservation ok
        obtain ⟨row, listed, same⟩ := List.mem_map.mp member
        obtain ⟨rfl, rfl⟩ := Prod.mk.inj same
        exact select_entry ok (Option.mem_toList.mp listed)
      · cases member
  | _ => cases member

end Transactions

section Steps

variable {s : QueueState}

theorem logged_insert (outbox : Table OutboxRow) (event : OutboxEvent) (key : IndexKey)
    (going : event.eventType = .showEnded → event.candidate.showId ≠ key.showId) :
    logged (outbox.insert ⟨event, false⟩) key = event.effect key (logged outbox key) := by
  unfold logged
  rw [Table.last_insert]
  by_cases about : event.about key = true
  · rw [if_pos about, effect_about about]
    rfl
  · rw [if_neg about, effect_other (by simpa using about) going]

/-- The log tells what its events do in turn. -/
theorem logged_append (outbox : Table OutboxRow) (events : List OutboxEvent) (key : IndexKey)
    (going : ∀ event ∈ events, event.eventType = .showEnded →
      event.candidate.showId ≠ key.showId) :
    logged (outbox.append (events.map fun event => ⟨event, false⟩)) key =
      events.foldl (fun position event => event.effect key position) (logged outbox key) := by
  induction events generalizing outbox with
  | nil => rfl
  | cons event rest ih =>
      rw [List.map_cons, Table.append_cons, ih _ fun other member =>
        going other (List.mem_cons_of_mem _ member), List.foldl_cons,
        logged_insert _ _ _ (going event List.mem_cons_self)]

theorem foldl_effect_other {events : List OutboxEvent} {key : IndexKey}
    (going : ∀ event ∈ events, event.eventType = .showEnded →
      event.candidate.showId ≠ key.showId)
    (other : ∀ event ∈ events, event.about key = false) (position : Option Nat) :
    events.foldl (fun position event => event.effect key position) position = position := by
  induction events with
  | nil => rfl
  | cons event rest ih =>
      rw [List.foldl_cons, effect_other (other event List.mem_cons_self)
        (going event List.mem_cons_self)]
      exact ih (fun e member => going e (List.mem_cons_of_mem _ member))
        fun e member => other e (List.mem_cons_of_mem _ member)

theorem Recorded.candidate (recorded : Recorded s) (r : Reservation) (c : Candidate)
    (named : s.candidateOf r = some c) : c.entryId = r.entryId := by
  obtain ⟨⟨other, candidate⟩, found, rfl⟩ := Option.map_eq_some_iff.mp named
  have same : other = r := by simpa using List.find?_some found
  subst same
  exact recorded.mine other candidate (List.mem_of_find?_eq_some found)

theorem Settled.api (settled : Settled s) {now : Time} {op : Op}
    (tells : told now s.api s.candidateOf op = true) : Settled (s.step (.api now op)) := by
  obtain ⟨recorded, logs, agrees, listed⟩ := settled
  have tracks := s.api.step_tracks recorded.staged.linked now recorded.candidate tells
  have going {key : IndexKey} (live : (s.api.step (now, op)).db.showLive key.showId = true) :
      ∀ event ∈ emitted now s.api s.candidateOf op, event.eventType = .showEnded →
        event.candidate.showId ≠ key.showId := by
    intro event member ends same
    have closed := emitted_ended member ends
    rw [same, live] at closed
    cases closed
  refine ⟨⟨step_staged recorded.staged (now, op), ?_, ?_, ?_, recorded.remaining⟩, ?_, ?_, ?_⟩
  · intro r c member
    rcases List.mem_append.mp member with old | new
    · exact recorded.mine r c old
    · exact chosen_entry new
  · intro id row found ends
    rcases Table.get_append found with old | ⟨_, new⟩
    · have closed := recorded.ended id row old ends
      show (s.api.step (now, op)).db.showLive _ = false
      rw [← Bool.not_eq_true] at closed ⊢
      exact fun live => closed (tracks.live _ live)
    · obtain ⟨event, member, rfl⟩ := List.mem_map.mp new
      exact emitted_ended member ends
  · intro flush member id event listed
    obtain ⟨row, found, same⟩ := recorded.batch flush member id event listed
    exact ⟨row, Table.get_append_of_some found _, same⟩
  · intro key live
    show QueueState.logged (s.outbox.append _) key = (s.api.step (now, op)).db.waiting key
    rw [logged_append _ _ _ (going live), logs key (tracks.live _ live), tracks.waiting key live]
  · intro key live
    by_cases told : ∃ event ∈ emitted now s.api s.candidateOf op, event.about key = true
    · right
      obtain ⟨event, member, about⟩ := told
      have added : (⟨event, false⟩ : OutboxRow) ∈
          (emitted now s.api s.candidateOf op).map fun event => ⟨event, false⟩ :=
        List.mem_map.mpr ⟨event, member, rfl⟩
      obtain ⟨id, row, last, new, listed⟩ := Table.last_append_of_some (t := s.outbox)
        (p := fun row => row.event.about key) added about
      obtain ⟨_, _, rfl⟩ := List.mem_map.mp listed
      refine awaits_iff.mpr ⟨id, _, last, rfl, fun flush read => ?_⟩
      intro ⟨other, batched⟩
      obtain ⟨old, found, _⟩ := recorded.batch flush read id other batched
      exact absurd (Table.get_lt found) (Nat.not_lt.mpr new)
    · have other : ∀ event ∈ emitted now s.api s.candidateOf op, event.about key = false := by
        intro event member
        rw [← Bool.not_eq_true]
        exact fun about => told ⟨event, member, about⟩
      have same : (s.outbox.append ((emitted now s.api s.candidateOf op).map fun event =>
          ⟨event, false⟩)).last (fun row => row.event.about key) =
          s.outbox.last fun row => row.event.about key := by
        refine Table.last_append_of_none fun row member => ?_
        obtain ⟨event, listed, rfl⟩ := List.mem_map.mp member
        exact other event listed
      rcases agrees key (tracks.live _ live) with agree | waits
      · left
        refine agree.trans (Eq.symm ?_)
        exact (tracks.waiting key live).trans (foldl_effect_other (going live) other _)
      · right
        obtain ⟨id, row, last, rest⟩ := awaits_iff.mp waits
        exact awaits_iff.mpr ⟨id, row, same.trans last, rest⟩
  · intro showId live
    exact listed showId (tracks.live _ live)

/-- An update of the index that settles its key. -/
theorem Settled.update_index (settled : Settled s) {index : CandidateIndex}
    (direct : List IndexUpdate)
    (position : ∀ key, s.api.db.showLive key.showId = true →
      index.position key = s.index.position key ∨
        index.position key = s.api.db.waiting key ∨ s.awaits key = true)
    (listed : ∀ showId, s.api.db.showLive showId = true → index.Listed showId) :
    Settled { s with index, direct } := by
  obtain ⟨recorded, logs, agrees, _⟩ := settled
  refine ⟨⟨recorded.staged, recorded.mine, recorded.ended, recorded.batch, recorded.remaining⟩,
    logs, fun key live => ?_, listed⟩
  rcases position key live with same | settles
  · rcases agrees key live with agree | waits
    · exact Or.inl (same.trans agree)
    · exact Or.inr waits
  · exact settles

theorem Settled.update (settled : Settled s) {position : Nat}
    (orderly : s.orderly (.update position) = true) : Settled (s.step (.update position)) := by
  simp only [step]
  simp only [QueueState.orderly] at orderly
  cases taken : s.direct[position]? with
  | none => exact settled
  | some update =>
      rw [taken] at orderly
      cases update with
      | add candidate =>
          refine settled.update_index _ (fun key live => ?_) fun showId live =>
            (settled.listed showId live).add
          show (s.index.add candidate).position key = _ ∨
            (s.index.add candidate).position key = _ ∨ _
          rw [position_add]
          split
          · rename_i here
            subst here
            exact Or.inr ((settles_iff live).mp orderly)
          · exact Or.inl rfl
      | remove candidate =>
          refine settled.update_index _ (fun key live => ?_) fun showId live =>
            (settled.listed showId live).remove
          show (s.index.remove candidate).position key = _ ∨
            (s.index.remove candidate).position key = _ ∨ _
          rw [position_remove]
          split
          · rename_i here
            subst here
            exact Or.inr ((settles_iff live).mp orderly)
          · exact Or.inl rfl

/-- A flush that applies another event than the last about a key still has that one. -/
theorem awaits_publish {flush : Nat} {batch rest : List (OutboxId × OutboxEvent)}
    {row : OutboxId × OutboxEvent} {index : CandidateIndex} {key : IndexKey}
    (reading : s.flushes[flush]? = some ⟨batch, row :: rest⟩) (waits : s.awaits key = true)
    (other : ∀ id stored, s.outbox.last (fun row => row.event.about key) = some (id, stored) →
      id ≠ row.1) :
    ({ s with index, flushes := s.flushes.set flush ⟨batch, rest⟩ } : QueueState).awaits key =
      true := by
  obtain ⟨id, stored, last, unpublished, ahead⟩ := awaits_iff.mp waits
  refine awaits_iff.mpr ⟨id, stored, last, unpublished, fun next member => ?_⟩
  rcases List.mem_or_eq_of_mem_set member with old | rfl
  · exact ahead next old
  · intro batched
    obtain ⟨event, later⟩ := ahead _ (List.mem_of_getElem? reading) batched
    rcases List.mem_cons.mp later with here | later
    · exact absurd (congrArg Prod.fst here) (other id stored last)
    · exact ⟨event, later⟩

theorem Settled.publish (settled : Settled s) {flush : Nat}
    (orderly : s.orderly (.publish flush) = true) : Settled (s.step (.publish flush)) := by
  simp only [step]
  simp only [QueueState.orderly] at orderly
  split
  · rename_i batch row rest reading
    rw [reading] at orderly
    have orderly : s.eventSettles row.2 = true := orderly
    obtain ⟨recorded, logs, agrees, listed⟩ := settled
    have present := List.mem_of_getElem? reading
    obtain ⟨stored, found, same⟩ := recorded.batch _ present row.1 row.2
      (recorded.remaining _ present row List.mem_cons_self)
    have going (showId : ShowId) (live : s.api.db.showLive showId = true)
        (ends : row.2.eventType = .showEnded) : row.2.candidate.showId ≠ showId := by
      intro here
      have closed := recorded.ended row.1 stored found (same ▸ ends)
      rw [same, here, live] at closed
      cases closed
    refine ⟨⟨recorded.staged, recorded.mine, recorded.ended, ?_, ?_⟩, logs, ?_, ?_⟩
    · intro next member id event batched
      rcases List.mem_or_eq_of_mem_set member with old | rfl
      · exact recorded.batch next old id event batched
      · exact recorded.batch _ present id event batched
    · intro next member other left
      rcases List.mem_or_eq_of_mem_set member with old | rfl
      · exact recorded.remaining next old other left
      · exact recorded.remaining _ present other (List.mem_cons_of_mem _ left)
    · intro key live
      by_cases about : row.2.about key = true
      · obtain ⟨kind, here⟩ := about_iff.mp about
        have applied : (row.2.apply s.index).position key = row.2.effect key none :=
          position_apply_about about
        cases last : s.outbox.last fun row => row.event.about key with
        | none =>
            have absent := (Table.last_none_iff _ _).mp last row.1 stored found
            rw [same, about] at absent
            cases absent
        | some top =>
            obtain ⟨id, final⟩ := top
            by_cases latest : id = row.1
            · left
              have log := logs key live
              rw [QueueState.logged, last, Option.bind_some] at log
              have there := ((Table.last_eq_iff _ _ _ _).mp last).1.1
              rw [latest, found] at there
              obtain rfl := Option.some.inj there
              rw [applied, ← same]
              exact log
            · have settles : row.2.effect key none = s.api.db.waiting key ∨
                  s.awaits key = true := by
                refine (settles_iff (s := s) live).mp ?_
                subst here
                unfold OutboxEvent.effect
                unfold eventSettles at orderly
                rcases kind with kind | kind | kind <;> rw [kind] at orderly ⊢ <;>
                  simpa using orderly
              rcases settles with agree | waits
              · exact Or.inl (applied.trans agree)
              · refine Or.inr (awaits_publish reading waits fun other _ listed => ?_)
                rw [last] at listed
                obtain ⟨rfl, _⟩ := Prod.mk.inj (Option.some.inj listed)
                exact latest
      · have unmoved : (row.2.apply s.index).position key = s.index.position key :=
          position_apply_other (by simpa using about) (going key.showId live)
        rcases agrees key live with agree | waits
        · exact Or.inl (unmoved.trans agree)
        · refine Or.inr (awaits_publish reading waits fun id final last here => ?_)
          obtain ⟨⟨there, concerns⟩, _⟩ := (Table.last_eq_iff _ _ _ _).mp last
          rw [here, found] at there
          obtain rfl := Option.some.inj there
          rw [same] at concerns
          exact about concerns
    · intro showId live
      exact (listed showId live).apply (going showId live)
  · exact settled

theorem get_markPublished (outbox : Table OutboxRow) (batch : List (OutboxId × OutboxEvent))
    (id : OutboxId) : (markPublished outbox batch).get id = (outbox.get id).map fun row =>
      if id ∈ batch.map Prod.fst then { row with published := true } else row := by
  induction batch generalizing outbox with
  | nil => simp [markPublished]
  | cons row rest ih =>
      show (markPublished (outbox.patch row.1 _) rest).get id = _
      rw [ih, Table.get_patch]
      rw [List.map_cons]
      simp only [List.mem_cons]
      by_cases here : id = row.1
      · subst here
        simp only [true_or, if_true, Option.map_map]
        refine congrArg (fun f => (outbox.get row.1).map f) (funext fun stored => ?_)
        show (if row.1 ∈ rest.map Prod.fst then _ else _) = _
        split <;> rfl
      · simp only [here, if_false, false_or]

/-- Which event is the last about a key does not depend on what is published. -/
theorem last_markPublished {outbox : Table OutboxRow} (batch : List (OutboxId × OutboxEvent))
    {p : OutboxEvent → Bool} {id : OutboxId} {row : OutboxRow}
    (last : outbox.last (fun row => p row.event) = some (id, row)) :
    (markPublished outbox batch).last (fun row => p row.event) = some (id,
      if id ∈ batch.map Prod.fst then { row with published := true } else row) := by
  obtain ⟨⟨found, concerns⟩, top⟩ := (Table.last_eq_iff _ _ _ _).mp last
  refine (Table.last_eq_iff _ _ _ _).mpr ⟨⟨?_, ?_⟩, fun other stored there same => ?_⟩
  · rw [get_markPublished, found]
    rfl
  · split <;> exact concerns
  · rw [get_markPublished] at there
    obtain ⟨before, present, rfl⟩ := Option.map_eq_some_iff.mp there
    refine top other before present ?_
    split at same <;> exact same

theorem logged_markPublished (outbox : Table OutboxRow) (batch : List (OutboxId × OutboxEvent))
    (key : IndexKey) : logged (markPublished outbox batch) key = logged outbox key := by
  unfold logged
  cases last : outbox.last fun row => row.event.about key with
  | some top =>
      rw [last_markPublished (p := fun event => event.about key) batch last,
        Option.bind_some, Option.bind_some]
      split <;> rfl
  | none =>
      have absent : (markPublished outbox batch).last (fun row => row.event.about key) = none := by
        refine (Table.last_none_iff _ _).mpr fun id row found => ?_
        rw [get_markPublished] at found
        obtain ⟨before, present, rfl⟩ := Option.map_eq_some_iff.mp found
        have none := (Table.last_none_iff _ _).mp last id before present
        split <;> exact none
      rw [absent]

theorem Settled.mark (settled : Settled s) (flush : Nat) :
    Settled (s.step (.markOutboxPublished flush)) := by
  simp only [step]
  split
  · rename_i batch reading
    obtain ⟨recorded, logs, agrees, listed⟩ := settled
    have kept {next : Flush} (member : next ∈ s.flushes.eraseIdx flush) : next ∈ s.flushes :=
      List.mem_of_mem_eraseIdx member
    refine ⟨⟨recorded.staged, recorded.mine, ?_, ?_, ?_⟩, ?_, ?_, listed⟩
    · intro id row found ends
      rw [get_markPublished] at found
      obtain ⟨before, present, rfl⟩ := Option.map_eq_some_iff.mp found
      split at ends
      · rename_i marked
        rw [if_pos marked]
        exact recorded.ended id before present ends
      · rename_i unmarked
        rw [if_neg unmarked]
        exact recorded.ended id before present ends
    · intro next member id event batched
      obtain ⟨row, found, same⟩ := recorded.batch next (kept member) id event batched
      refine ⟨_, by rw [get_markPublished, found, Option.map_some], ?_⟩
      split <;> exact same
    · exact fun next member => recorded.remaining next (kept member)
    · intro key live
      exact (logged_markPublished s.outbox batch key).trans (logs key live)
    · intro key live
      rcases agrees key live with agree | waits
      · exact Or.inl agree
      · right
        obtain ⟨id, row, last, unpublished, ahead⟩ := awaits_iff.mp waits
        have unmarked : id ∉ batch.map Prod.fst := by
          intro marked
          obtain ⟨⟨same, event⟩, batched, rfl⟩ := List.mem_map.mp marked
          obtain ⟨_, left⟩ := ahead _ (List.mem_of_getElem? reading) ⟨event, batched⟩
          cases left
        have still := last_markPublished (p := fun event => event.about key) batch last
        rw [if_neg unmarked] at still
        exact awaits_iff.mpr ⟨id, row, still, unpublished, fun next member =>
          ahead next (kept member)⟩
  · exact settled

theorem pending_mem {outbox : Table OutboxRow} {id : OutboxId} {event : OutboxEvent}
    (member : (id, event) ∈ pending outbox) :
    ∃ row, outbox.get id = some row ∧ row.event = event := by
  obtain ⟨⟨other, row⟩, listed, same⟩ := List.mem_map.mp member
  obtain ⟨rfl, rfl⟩ := Prod.mk.inj same
  exact ⟨row, ((Table.mem_query _ _ _ _).mp (List.mem_of_mem_take listed)).1, rfl⟩

/-- A flush that begins has all that it has read before it. -/
theorem Settled.read (settled : Settled s) : Settled (s.step .pendingOutbox) := by
  obtain ⟨recorded, logs, agrees, listed⟩ := settled
  refine ⟨⟨recorded.staged, recorded.mine, recorded.ended, ?_, ?_⟩, logs, ?_, listed⟩
  · intro flush member id event batched
    rcases List.mem_append.mp member with old | new
    · exact recorded.batch flush old id event batched
    · obtain rfl := List.mem_singleton.mp new
      exact pending_mem batched
  · intro flush member row left
    rcases List.mem_append.mp member with old | new
    · exact recorded.remaining flush old row left
    · obtain rfl := List.mem_singleton.mp new
      exact left
  · intro key live
    rcases agrees key live with agree | waits
    · exact Or.inl agree
    · right
      obtain ⟨id, row, last, unpublished, ahead⟩ := awaits_iff.mp waits
      refine awaits_iff.mpr ⟨id, row, last, unpublished, fun flush member => ?_⟩
      rcases List.mem_append.mp member with old | new
      · exact ahead flush old
      · obtain rfl := List.mem_singleton.mp new
        exact fun batched => batched

theorem Settled.abort (settled : Settled s) (flush : Nat) : Settled (s.step (.abort flush)) := by
  obtain ⟨recorded, logs, agrees, listed⟩ := settled
  have kept {next : Flush} (member : next ∈ s.flushes.eraseIdx flush) : next ∈ s.flushes :=
    List.mem_of_mem_eraseIdx member
  refine ⟨⟨recorded.staged, recorded.mine, recorded.ended, fun next member =>
    recorded.batch next (kept member), fun next member => recorded.remaining next (kept member)⟩,
    logs, fun key live => ?_, listed⟩
  rcases agrees key live with agree | waits
  · exact Or.inl agree
  · obtain ⟨id, row, last, unpublished, ahead⟩ := awaits_iff.mp waits
    exact Or.inr (awaits_iff.mpr ⟨id, row, last, unpublished, fun next member =>
      ahead next (kept member)⟩)

theorem Settled.expire (settled : Settled s) {showId : ShowId} {priorityRank : Nat}
    (orderly : s.orderly (.expireCandidates showId priorityRank) = true) :
    Settled (s.step (.expireCandidates showId priorityRank)) := by
  simp only [QueueState.orderly, Bool.or_eq_true, Bool.not_eq_true', List.all_eq_true] at orderly
  refine settled.update_index s.direct (fun key live => Or.inl ?_) fun other live => ?_
  · by_cases going : s.api.db.showLive showId = true
    · rw [going] at orderly
      have unused := orderly.resolve_left (by simp)
      show (CandidateIndex.position ⟨_, List.filter _ _⟩ key) = _
      rw [List.filter_eq_self.mpr]
      intro row member
      rw [unused row member]
      rfl
    · refine position_filter fun row same => ?_
      have apart : row.1.showId ≠ showId := by
        intro here
        rw [← here, same] at going
        exact going live
      simp [apart]
  · intro row member inShow
    exact settled.listed other live row (List.mem_filter.mp member).1 inShow

theorem Settled.expirePriorities (settled : Settled s) {showId : ShowId}
    (orderly : s.orderly (.expirePriorities showId) = true) :
    Settled (s.step (.expirePriorities showId)) := by
  simp only [QueueState.orderly, Bool.or_eq_true, Bool.not_eq_true', List.all_eq_true] at orderly
  refine settled.update_index s.direct (fun key live => Or.inl rfl) fun other live => ?_
  intro row member inShow
  have apart : other ≠ showId := by
    rintro rfl
    rw [live] at orderly
    have absent := orderly.resolve_left (by simp) row member
    simp [inShow] at absent
  refine List.mem_filter.mpr ⟨settled.listed other live row member inShow, ?_⟩
  simpa using apart

theorem Settled.step (settled : Settled s) (input : QueueInput)
    (orderly : s.orderly input = true) : Settled (s.step input) := by
  cases input with
  | api now op => exact settled.api orderly
  | update position => exact settled.update orderly
  | fail position =>
      obtain ⟨recorded, logs, agrees, listed⟩ := settled
      exact ⟨⟨recorded.staged, recorded.mine, recorded.ended, recorded.batch,
        recorded.remaining⟩, logs, agrees, listed⟩
  | pendingOutbox => exact settled.read
  | publish flush => exact settled.publish orderly
  | markOutboxPublished flush => exact settled.mark flush
  | abort flush => exact settled.abort flush
  | expireCandidates showId priorityRank => exact settled.expire orderly
  | expirePriorities showId => exact settled.expirePriorities orderly

end Steps

/-! ### Any run -/

theorem start_settled (shows : Table Show) (showTiers : Table ShowTier) :
    Settled (start shows showTiers) := by
  refine ⟨⟨opening_staged shows showTiers, nofun, ?_, nofun, nofun⟩, ?_, ?_, nofun⟩
  · intro id row found
    cases found
  · intro key live
    rfl
  · intro key live
    exact Or.inl rfl

theorem Settled.converged {s : QueueState} (settled : Settled s) (quiet : s.quiet = true) :
    Converged s := by
  simp only [QueueState.quiet, Bool.and_eq_true, List.all_eq_true] at quiet
  refine ⟨fun key live => ?_, fun key live present => ?_⟩
  · rcases settled.index key live with agree | waits
    · exact agree
    · obtain ⟨id, row, last, unpublished, _⟩ := awaits_iff.mp waits
      have found := ((Table.last_eq_iff _ _ _ _).mp last).1.1
      have published := quiet.1.1 _ ((Table.mem_rows_iff _ _ _).mpr found)
      rw [unpublished] at published
      cases published
  · obtain ⟨position, here⟩ := Option.isSome_iff_exists.mp present
    exact settled.listed key.showId live _ (mem_of_position here) rfl

/-- Where transactions tell of whom they move and no update overtakes a later one,
the index converges to the database. -/
theorem index_converges (shows : Table Show) (showTiers : Table ShowTier)
    (inputs : List QueueInput)
    (orderly : Along step (fun s input => s.orderly input = true) (start shows showTiers) inputs)
    (quiet : (run step (start shows showTiers) inputs).quiet = true) :
    Converged (run step (start shows showTiers) inputs) :=
  (run_keeps Settled (fun _ input settled orderly => settled.step input orderly)
    (start_settled shows showTiers) orderly).converged quiet

/-- A viewer joins and leaves, and both events are published. -/
def sampleVisit : List QueueInput :=
  [.api 1 (sampleJoin none), .api 2 (.leave 0 7), .pendingOutbox, .publish 0, .publish 0,
    .markOutboxPublished 0]

set_option maxRecDepth 20000 in
theorem index_converges_visit : Converged (run step (start sampleShows (sampleTiers 0))
    (sampleVisit ++ [.fail 0, .update 0])) :=
  index_converges sampleShows (sampleTiers 0) _ (by decide) (by decide)

set_option maxRecDepth 20000 in
/-- The update of the join comes after all others, and the viewer who has left is listed. -/
theorem late_add_stays : ¬ ∀ shows showTiers inputs,
    (run step (start shows showTiers) inputs).quiet = true →
      Converged (run step (start shows showTiers) inputs) := by
  intro always
  have converged := always sampleShows (sampleTiers 0) (sampleVisit ++ [.update 1, .update 0])
    (by decide)
  have agree := converged.position ⟨0, 0, 0⟩ (by decide)
  revert agree
  decide

end QueueState

end Bling.Api
