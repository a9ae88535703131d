import Bling.Library.Machine
import Bling.Social.Notifications

set_option autoImplicit false

namespace Bling

open Library

/-! Old live events go with their receipts, in runs of `prune` that schedule themselves. -/

/-- `scheduled` are the times of the runs that earlier runs asked for. -/
structure Pruning where
  feed : Feed
  scheduled : List Time

inductive FeedOp where
  | markRead (userId : Option UserId) (ids : List Nat)
  /-- The cron job of `crons.ts`. -/
  | cron
  /-- A run that an earlier one scheduled. -/
  | again (time : Time)
  | goLive (creatorId : UserId) (showId : ShowId)
  /-- Whatever is written to the tables that pruning doesn't touch. -/
  | elsewhere (site : Site) (follows : Table DatedFollow)

namespace Pruning

def empty : Pruning := ⟨.empty, []⟩

def prune (now : Time) (p : Pruning) : Pruning :=
  let (feed, more) := p.feed.prune now
  { feed, scheduled := if more then p.scheduled ++ [now] else p.scheduled }

def step (p : Pruning) (input : Time × FeedOp) : Pruning :=
  let now := input.1
  match input.2 with
  | .markRead userId ids =>
    match p.feed.markRead now userId ids with
    | .ok feed => { p with feed }
    | .error _ => p
  | .cron => p.prune now
  | .again time =>
    if time ∈ p.scheduled ∧ time ≤ now then
      { p with scheduled := p.scheduled.erase time }.prune now
    else p
  | .goLive creatorId showId =>
    { p with feed := { p.feed with site := { p.feed.site with
      liveEvents := p.feed.site.liveEvents.insert { creatorId, showId, createdAt := now } } } }
  | .elsewhere site follows =>
    { p with feed := { p.feed with
      site := { site with liveEvents := p.feed.site.liveEvents }, follows } }

end Pruning

namespace Feed

variable {s : Feed} {cutoff now : Time}

/-- Every receipt is of an event that is there. -/
def NoOrphans (s : Feed) : Prop :=
  ∀ id r, s.notificationReads.get id = some r → (s.site.liveEvents.get r.eventId).isSome

def isOld (cutoff : Time) (s : Feed) (eventId : Nat) : Bool :=
  (s.site.liveEvents.get eventId).any fun e => e.createdAt < cutoff

/-- The old events and their receipts, which are all that pruning can delete. -/
def backlog (cutoff : Time) (s : Feed) : Nat :=
  (s.notificationReads.query fun r => s.isOld cutoff r.eventId).length +
    (s.site.liveEvents.query fun e => e.createdAt < cutoff).length

/-! ### One event -/

theorem mem_receipts {eventId budget : Nat} {row : Nat × NotificationRead}
    (member : row ∈ (s.receiptsOf eventId).take budget) :
    s.notificationReads.get row.1 = some row.2 ∧ row.2.eventId = eventId := by
  have within := (s.notificationReads.mem_query _ row.1 row.2).mp (List.mem_of_mem_take member)
  exact ⟨within.1, by simpa using within.2⟩

theorem receipts_distinct (s : Feed) (eventId budget : Nat) :
    (((s.receiptsOf eventId).take budget).map Prod.fst).Nodup := by
  apply List.pairwise_map.mpr
  have ordered := s.notificationReads.ordered.filter fun row => row.2.eventId == eventId
  exact (ordered.sublist (List.take_sublist _ _)).imp Nat.ne_of_lt

theorem deleteReceipts_get (receipts : List (Nat × NotificationRead)) (id : Nat) :
    (s.deleteReceipts receipts).notificationReads.get id =
      if id ∈ receipts.map Prod.fst then none else s.notificationReads.get id :=
  Table.get_foldl_delete receipts s.notificationReads id

/-- Fewer than there was room for are all that there were. -/
theorem deleteReceipts_all {eventId budget : Nat}
    (few : ((s.receiptsOf eventId).take budget).length < budget) {id : Nat} {r : NotificationRead}
    (found : (s.deleteReceipts ((s.receiptsOf eventId).take budget)).notificationReads.get id =
      some r) : r.eventId ≠ eventId := by
  intro same
  have whole : (s.receiptsOf eventId).take budget = s.receiptsOf eventId := by
    apply List.take_of_length_le
    rw [List.length_take] at few
    omega
  rw [whole, deleteReceipts_get] at found
  split at found
  · cases found
  · rename_i off
    apply off
    apply List.mem_map.mpr
    exact ⟨(id, r), (s.notificationReads.mem_query _ id r).mpr ⟨found, by simpa using same⟩, rfl⟩

theorem deleteReceipts_backlog {eventId : Nat} (old : s.isOld cutoff eventId = true)
    (budget : Nat) :
    (s.deleteReceipts ((s.receiptsOf eventId).take budget)).backlog cutoff +
      ((s.receiptsOf eventId).take budget).length = s.backlog cutoff := by
  have counted := Table.query_length_foldl_delete (t := s.notificationReads)
    (p := fun r => s.isOld cutoff r.eventId) (fun row member => by
      obtain ⟨found, same⟩ := mem_receipts member
      exact ⟨found, same ▸ old⟩) (receipts_distinct s eventId budget)
  unfold backlog
  have same : (s.deleteReceipts ((s.receiptsOf eventId).take budget)).isOld cutoff =
      s.isOld cutoff := rfl
  rw [same]
  simp only [deleteReceipts]
  omega

theorem deleteEvent_backlog {id : Nat} {e : LiveEvent}
    (held : s.site.liveEvents.get id = some e) (old : e.createdAt < cutoff)
    (none : ∀ i r, s.notificationReads.get i = some r → r.eventId ≠ id) :
    (s.deleteEvent id).backlog cutoff + 1 = s.backlog cutoff := by
  have events := Table.query_length_delete (p := fun e : LiveEvent => e.createdAt < cutoff) held
    (by simpa using old)
  have reads : s.notificationReads.query (fun r => (s.deleteEvent id).isOld cutoff r.eventId) =
      s.notificationReads.query fun r => s.isOld cutoff r.eventId := by
    apply List.filter_congr
    intro row member
    have apart := none row.1 row.2 ((s.notificationReads.mem_rows_iff row.1 row.2).mp member)
    simp only [isOld, deleteEvent, Table.get_delete, if_neg apart]
  unfold backlog
  rw [show (s.deleteEvent id).notificationReads = s.notificationReads from rfl, reads]
  simp only [deleteEvent]
  omega

/-! ### One run -/

/-- What going through some of the events does, with `total` receipts deleted in the end. -/
structure Pruned (s : Feed) (rows : List (Nat × LiveEvent)) (deleted : Nat) (after : Feed)
    (total : Nat) : Prop where
  budget : total ≤ pruneBatch
  counted : after.notificationReads.rows.length + total = s.notificationReads.rows.length + deleted
  kept : ∀ id r, s.notificationReads.get id = some r → r.eventId ∉ rows.map Prod.fst →
    after.notificationReads.get id = some r
  events : ∀ id, id ∉ rows.map Prod.fst → after.site.liveEvents.get id = s.site.liveEvents.get id
  left : ∀ id e, after.site.liveEvents.get id = some e → s.site.liveEvents.get id = some e
  gone : total < pruneBatch → ∀ row ∈ rows, after.site.liveEvents.get row.1 = none
  sound : s.NoOrphans → after.NoOrphans
  paid : ∀ cutoff, (rows.map Prod.fst).Nodup → (∀ row ∈ rows,
    s.site.liveEvents.get row.1 = some row.2 ∧ row.2.createdAt < cutoff) →
    after.backlog cutoff + total + (if total < pruneBatch then rows.length else 0) ≤
      s.backlog cutoff + deleted

theorem deleteReceipts_length (s : Feed) (eventId budget : Nat) :
    (s.deleteReceipts ((s.receiptsOf eventId).take budget)).notificationReads.rows.length +
      ((s.receiptsOf eventId).take budget).length = s.notificationReads.rows.length := by
  have all (t : Table NotificationRead) : t.query (fun _ => true) = t.rows :=
    List.filter_eq_self.mpr fun _ _ => rfl
  have counted := Table.query_length_foldl_delete (t := s.notificationReads)
    (p := fun _ => true) (fun row member => ⟨(mem_receipts member).1, rfl⟩)
    (receipts_distinct s eventId budget)
  rw [all, all] at counted
  exact counted

/-- A run that stops here has used up its budget, and the event stays. -/
theorem pruned_stop {row : Nat × LiveEvent} {rest : List (Nat × LiveEvent)} {deleted : Nat}
    (within : deleted < pruneBatch)
    (full : pruneBatch ≤
      deleted + ((s.receiptsOf row.1).take (pruneBatch - deleted)).length) :
    Pruned s (row :: rest) deleted
      (s.deleteReceipts ((s.receiptsOf row.1).take (pruneBatch - deleted)))
      (deleted + ((s.receiptsOf row.1).take (pruneBatch - deleted)).length) := by
  have most := List.length_take_le (pruneBatch - deleted) (s.receiptsOf row.1)
  constructor
  · omega
  · have := deleteReceipts_length s row.1 (pruneBatch - deleted)
    omega
  · intro id r found off
    rw [deleteReceipts_get, if_neg]
    · exact found
    · intro listed
      obtain ⟨receipt, member, rfl⟩ := List.mem_map.mp listed
      obtain ⟨held, own⟩ := mem_receipts member
      obtain rfl := Option.some.inj (held.symm.trans found)
      exact off (own ▸ List.mem_cons_self)
  · intro id _
    rfl
  · intro id e found
    exact found
  · intro short
    omega
  · intro sound id r found
    rw [deleteReceipts_get] at found
    split at found
    · cases found
    · exact sound id r found
  · intro cutoff _ each
    obtain ⟨held, old⟩ := each row List.mem_cons_self
    have isOld : s.isOld cutoff row.1 = true := by simp [Feed.isOld, held, old]
    have paid := deleteReceipts_backlog isOld (pruneBatch - deleted)
    rw [if_neg (by omega)]
    omega

/-- An event whose receipts are all gone goes too. -/
theorem pruned_next {row : Nat × LiveEvent} {rest : List (Nat × LiveEvent)} {deleted : Nat}
    (room : deleted + ((s.receiptsOf row.1).take (pruneBatch - deleted)).length < pruneBatch)
    {after : Feed} {total : Nat}
    (more : Pruned ((s.deleteReceipts
      ((s.receiptsOf row.1).take (pruneBatch - deleted))).deleteEvent row.1) rest
      (deleted + ((s.receiptsOf row.1).take (pruneBatch - deleted)).length) after total) :
    Pruned s (row :: rest) deleted after total := by
  have few : ((s.receiptsOf row.1).take (pruneBatch - deleted)).length < pruneBatch - deleted := by
    omega
  have none {id : Nat} {r : NotificationRead}
      (found : (s.deleteReceipts ((s.receiptsOf row.1).take
        (pruneBatch - deleted))).notificationReads.get id = some r) : r.eventId ≠ row.1 :=
    deleteReceipts_all few found
  have length := deleteReceipts_length s row.1 (pruneBatch - deleted)
  generalize receipts : (s.receiptsOf row.1).take (pruneBatch - deleted) = gone at *
  constructor
  · exact more.budget
  · have counted := more.counted
    rw [show ((s.deleteReceipts gone).deleteEvent row.1).notificationReads =
      (s.deleteReceipts gone).notificationReads from rfl] at counted
    omega
  · intro id r found off
    rw [List.map_cons, List.mem_cons, not_or] at off
    apply more.kept id r _ off.2
    rw [show ((s.deleteReceipts gone).deleteEvent row.1).notificationReads =
      (s.deleteReceipts gone).notificationReads from rfl, deleteReceipts_get, if_neg]
    · exact found
    · intro listed
      obtain ⟨receipt, member, rfl⟩ := List.mem_map.mp listed
      obtain ⟨held, own⟩ := mem_receipts (receipts ▸ member)
      obtain rfl := Option.some.inj (held.symm.trans found)
      exact off.1 own
  · intro id off
    rw [List.map_cons, List.mem_cons, not_or] at off
    rw [more.events id off.2]
    simp only [deleteEvent, Table.get_delete, if_neg off.1]
    rfl
  · intro id e found
    have before := more.left id e found
    simp only [deleteEvent, Table.get_delete] at before
    split at before
    · cases before
    · exact before
  · intro short other member
    rcases List.mem_cons.mp member with rfl | later
    · cases outcome : after.site.liveEvents.get other.1 with
      | none => rfl
      | some e =>
          have before := more.left other.1 e outcome
          simp [deleteEvent, Table.get_delete] at before
    · exact more.gone short other later
  · intro sound
    apply more.sound
    intro id r found
    have apart := none found
    have before : s.notificationReads.get id = some r := by
      have found : (s.deleteReceipts gone).notificationReads.get id = some r := found
      rw [deleteReceipts_get] at found
      split at found
      · cases found
      · exact found
    simp only [deleteEvent, Table.get_delete, if_neg apart]
    exact sound id r before
  · intro cutoff distinct each
    obtain ⟨unrepeated, distinct⟩ := List.nodup_cons.mp distinct
    obtain ⟨held, old⟩ := each row List.mem_cons_self
    have isOld : s.isOld cutoff row.1 = true := by simp [Feed.isOld, held, old]
    have first := deleteReceipts_backlog isOld (pruneBatch - deleted)
    rw [receipts] at first
    have second : ((s.deleteReceipts gone).deleteEvent row.1).backlog cutoff + 1 =
        (s.deleteReceipts gone).backlog cutoff :=
      deleteEvent_backlog held old fun i r found => none found
    have third := more.paid cutoff distinct fun other member => by
      obtain ⟨present, stale⟩ := each other (List.mem_cons_of_mem _ member)
      have apart : other.1 ≠ row.1 := fun same =>
        unrepeated (same ▸ List.mem_map_of_mem member)
      simp only [deleteEvent, Table.get_delete, if_neg apart]
      exact ⟨present, stale⟩
    rw [List.length_cons]
    split at third
    · rename_i short
      rw [if_pos short]
      omega
    · rename_i long
      rw [if_neg long]
      omega

theorem pruneEvents_pruned {rows : List (Nat × LiveEvent)} {deleted : Nat}
    (within : deleted < pruneBatch) :
    Pruned s rows deleted (s.pruneEvents rows deleted).1 (s.pruneEvents rows deleted).2 := by
  induction rows generalizing s deleted with
  | nil =>
      constructor
      · exact Nat.le_of_lt within
      · rfl
      · exact fun _ _ found _ => found
      · exact fun _ _ => rfl
      · exact fun _ _ found => found
      · intro _ row member
        cases member
      · exact fun sound => sound
      · intro cutoff _ _
        rw [pruneEvents]
        split <;> exact Nat.le_refl _
  | cons row rest ih =>
      simp only [pruneEvents]
      split
      · rename_i full
        exact pruned_stop within full
      · rename_i room
        exact pruned_next (Nat.lt_of_not_le room) (ih (Nat.lt_of_not_le room))

theorem mem_oldEvents {row : Nat × LiveEvent} (member : row ∈ s.oldEvents now) :
    s.site.liveEvents.get row.1 = some row.2 ∧ row.2.createdAt < now - notificationWindowMs := by
  have within := (mem_inOrder _ _).mp (List.mem_of_mem_take member)
  simpa using (s.site.liveEvents.mem_query _ row.1 row.2).mp within

theorem oldEvents_distinct : ((s.oldEvents now).map Prod.fst).Nodup := by
  have ordered := s.site.liveEvents.ordered.filter fun row =>
    decide (row.2.createdAt < now - notificationWindowMs)
  have distinct : ((s.site.liveEvents.query fun e =>
      e.createdAt < now - notificationWindowMs).map Prod.fst).Nodup :=
    List.pairwise_map.mpr (ordered.imp Nat.ne_of_lt)
  have moved := ((inOrder_perm (fun a b : Time => a < b)
    (fun row : Nat × LiveEvent => row.2.createdAt) _).map Prod.fst).nodup_iff.mpr distinct
  exact moved.sublist ((List.take_sublist _ _).map Prod.fst)

/-- Fewer than a batch are all the old events. -/
theorem oldEvents_all (few : (s.oldEvents now).length < 50) {id : Nat} {e : LiveEvent}
    (held : s.site.liveEvents.get id = some e)
    (old : e.createdAt < now - notificationWindowMs) : (id, e) ∈ s.oldEvents now := by
  unfold oldEvents at few ⊢
  rw [List.length_take] at few
  rw [List.take_of_length_le (by omega), mem_inOrder, Table.mem_query]
  exact ⟨held, by simpa using old⟩

theorem prune_pruned (now : Time) (s : Feed) :
    Pruned s (s.oldEvents now) 0 (s.prune now).1 (s.pruneEvents (s.oldEvents now) 0).2 :=
  pruneEvents_pruned (by decide)

/-- A run deletes at most 500 receipts. -/
theorem prune_budget (now : Time) (s : Feed) :
    s.notificationReads.rows.length ≤ (s.prune now).1.notificationReads.rows.length + 500 := by
  have pruned := prune_pruned now s
  have counted := pruned.counted
  have budget : _ ≤ 500 := pruned.budget
  omega

/-- A run that does not schedule another one leaves no old event. -/
theorem prune_last (last : (s.prune now).2 = false) {id : Nat} {e : LiveEvent}
    (found : (s.prune now).1.site.liveEvents.get id = some e) :
    now - notificationWindowMs ≤ e.createdAt := by
  have pruned := prune_pruned now s
  have last : (decide (pruneBatch ≤ (s.pruneEvents (s.oldEvents now) 0).2) ||
      (s.oldEvents now).length == 50) = false := last
  simp only [Bool.or_eq_false_iff, decide_eq_false_iff_not, Nat.not_le, beq_eq_false_iff_ne] at last
  by_contra old
  have some := pruned.left id e found
  have most : (s.oldEvents now).length ≤ 50 := List.length_take_le _ _
  have member := oldEvents_all (by omega) some (Nat.lt_of_not_le old)
  have none := pruned.gone last.1 (id, e) member
  rw [found] at none
  cases none

/-- A run that schedules another one has made the backlog smaller. -/
theorem prune_paid (crossed : ∀ id e, s.site.liveEvents.get id = some e →
      e.createdAt < now - notificationWindowMs → e.createdAt < cutoff) :
    (if (s.prune now).2 then 50 else 0) + (s.prune now).1.backlog cutoff ≤ s.backlog cutoff := by
  have pruned := prune_pruned now s
  have paid := pruned.paid cutoff oldEvents_distinct fun row member => by
    obtain ⟨held, old⟩ := mem_oldEvents member
    exact ⟨held, crossed row.1 row.2 held old⟩
  have more : (s.prune now).2 = (decide (pruneBatch ≤ (s.pruneEvents (s.oldEvents now) 0).2) ||
      (s.oldEvents now).length == 50) := rfl
  have batch : pruneBatch = 500 := rfl
  rw [more]
  split
  · rename_i again
    rw [Bool.or_eq_true, decide_eq_true_eq, beq_iff_eq] at again
    rcases again with full | many
    · omega
    · split at paid <;> omega
  · split at paid <;> omega

/-! ### Other steps -/

theorem mark_reads (now : Time) (userId : UserId) (s : Feed) (eventId : Nat) :
    (s.mark now userId eventId) = s ∨ ∃ e, s.site.liveEvents.get eventId = some e ∧
      now - notificationWindowMs ≤ e.createdAt ∧ s.mark now userId eventId =
        { s with notificationReads := s.notificationReads.insert { userId, eventId } } := by
  unfold mark
  split
  · exact Or.inl rfl
  · rename_i e held
    split
    · exact Or.inl rfl
    · rename_i within
      split
      · exact Or.inl rfl
      · repeat' split
        all_goals first
          | exact Or.inl rfl
          | exact Or.inr ⟨e, held, Nat.le_of_not_lt within, rfl⟩

/-- Marking adds receipts of events in the window, and changes nothing else. -/
structure Marked (now : Time) (s after : Feed) : Prop where
  events : after.site.liveEvents = s.site.liveEvents
  kept : ∀ id r, s.notificationReads.get id = some r → after.notificationReads.get id = some r
  new : ∀ id r, after.notificationReads.get id = some r → s.notificationReads.get id = some r ∨
    ∃ e, s.site.liveEvents.get r.eventId = some e ∧ now - notificationWindowMs ≤ e.createdAt
  backlog : ∀ cutoff, cutoff ≤ now - notificationWindowMs → after.backlog cutoff = s.backlog cutoff

theorem mark_marked (now : Time) (userId : UserId) (s : Feed) (eventId : Nat) :
    Marked now s (s.mark now userId eventId) := by
  rcases mark_reads now userId s eventId with same | ⟨e, held, within, same⟩
  · rw [same]
    exact ⟨rfl, fun _ _ found => found, fun _ _ found => Or.inl found, fun _ _ => rfl⟩
  · rw [same]
    refine ⟨rfl, fun id r found => Table.get_insert_of_some found _, ?_, ?_⟩
    · intro id r found
      rcases Table.get_insert_row found with ⟨_, rfl⟩ | older
      · exact Or.inr ⟨e, held, within⟩
      · exact Or.inl older
    · intro cutoff below
      have recent : s.isOld cutoff eventId = false := by
        simp only [isOld, held, Option.any_some, decide_eq_false_iff_not, Nat.not_lt]
        exact Nat.le_trans below within
      have reads : (s.notificationReads.insert { userId, eventId }).query
          (fun r => s.isOld cutoff r.eventId) =
          s.notificationReads.query fun r => s.isOld cutoff r.eventId := by
        simp only [Table.query, Table.insert, List.filter_append, List.filter_cons, recent,
          Bool.false_eq_true, if_false, List.filter_nil, List.append_nil]
      exact congrArg (List.length · + _) reads

theorem foldl_mark_marked (now : Time) (userId : UserId) (ids : List Nat) (s : Feed) :
    Marked now s (ids.foldl (mark now userId) s) := by
  induction ids generalizing s with
  | nil => exact ⟨rfl, fun _ _ found => found, fun _ _ found => Or.inl found, fun _ _ => rfl⟩
  | cons id rest ih =>
      have first := mark_marked now userId s id
      have later := ih (s.mark now userId id)
      refine ⟨later.events.trans first.events, ?_, ?_, ?_⟩
      · exact fun i r found => later.kept i r (first.kept i r found)
      · intro i r found
        rcases later.new i r found with before | ⟨e, held, within⟩
        · exact first.new i r before
        · exact Or.inr ⟨e, first.events ▸ held, within⟩
      · intro cutoff below
        exact (later.backlog cutoff below).trans (first.backlog cutoff below)

theorem markRead_marked {viewer : Option UserId} {ids : List Nat} {after : Feed}
    (done : s.markRead now viewer ids = .ok after) : Marked now s after := by
  unfold markRead at done
  obtain ⟨userId, _, done⟩ := bind_ok done
  split at done
  · cases done
  · obtain ⟨readLimits, _, done⟩ := bind_ok done
    cases done
    have marked := foldl_mark_marked now userId ids.eraseDups { s with readLimits }
    exact ⟨marked.events, marked.kept, marked.new, marked.backlog⟩

/-- A new event is not old, and no receipt is of it yet. -/
theorem insert_backlog (sound : s.NoOrphans) {e : LiveEvent} (recent : cutoff ≤ e.createdAt) :
    ({ s with site := { s.site with liveEvents := s.site.liveEvents.insert e } } : Feed).backlog
      cutoff = s.backlog cutoff := by
  have events : (s.site.liveEvents.insert e).query (fun e => e.createdAt < cutoff) =
      s.site.liveEvents.query fun e => e.createdAt < cutoff := by
    have off : decide (e.createdAt < cutoff) = false := decide_eq_false (Nat.not_lt.mpr recent)
    simp only [Table.query, Table.insert, List.filter_append, List.filter_cons, off,
      Bool.false_eq_true, if_false, List.filter_nil, List.append_nil]
  have reads : s.notificationReads.query (fun r => isOld cutoff
        { s with site := { s.site with liveEvents := s.site.liveEvents.insert e } } r.eventId) =
      s.notificationReads.query fun r => s.isOld cutoff r.eventId := by
    apply List.filter_congr
    intro row member
    obtain ⟨a, held⟩ := Option.isSome_iff_exists.mp
      (sound row.1 row.2 ((s.notificationReads.mem_rows_iff row.1 row.2).mp member))
    simp only [isOld, held, Table.get_insert_of_some held]
  unfold backlog
  rw [reads]
  simp only [events]

end Feed

namespace Pruning

open Feed

variable {p : Pruning}

/-- What a step keeps of the events and receipts inside the window. -/
structure Spares (now : Time) (s after : Feed) : Prop where
  events : ∀ id e, s.site.liveEvents.get id = some e → now - notificationWindowMs ≤ e.createdAt →
    after.site.liveEvents.get id = some e
  receipts : ∀ id r e, s.notificationReads.get id = some r →
    s.site.liveEvents.get r.eventId = some e → now - notificationWindowMs ≤ e.createdAt →
    after.notificationReads.get id = some r

theorem prune_spares (now : Time) (s : Feed) : Spares now s (s.prune now).1 := by
  have pruned := prune_pruned now s
  have off {id : Nat} {e : LiveEvent} (held : s.site.liveEvents.get id = some e)
      (within : now - notificationWindowMs ≤ e.createdAt) :
      id ∉ (s.oldEvents now).map Prod.fst := by
    intro listed
    obtain ⟨row, member, rfl⟩ := List.mem_map.mp listed
    obtain ⟨present, old⟩ := mem_oldEvents member
    obtain rfl := Option.some.inj (present.symm.trans held)
    exact Nat.lt_irrefl _ (Nat.lt_of_lt_of_le old within)
  constructor
  · intro id e held within
    rw [pruned.events id (off held within), held]
  · intro id r e found held within
    exact pruned.kept id r found (off held within)

theorem step_spares (p : Pruning) (input : Time × FeedOp) :
    Spares input.1 p.feed (p.step input).feed := by
  obtain ⟨now, op⟩ := input
  have same : Spares now p.feed p.feed := ⟨fun _ _ held _ => held, fun _ _ _ found _ _ => found⟩
  cases op with
  | markRead userId ids =>
      simp only [step]
      split
      · rename_i feed done
        have marked := markRead_marked done
        exact ⟨fun id e held _ => marked.events ▸ held,
          fun id r _ found _ _ => marked.kept id r found⟩
      · exact same
  | cron => exact prune_spares now p.feed
  | again time =>
      simp only [step]
      split
      · exact prune_spares now p.feed
      · exact same
  | goLive creatorId showId =>
      exact ⟨fun id e held _ => Table.get_insert_of_some held _, same.receipts⟩
  | elsewhere site follows => exact ⟨same.events, same.receipts⟩

theorem step_noOrphans (sound : p.feed.NoOrphans) (input : Time × FeedOp) :
    (p.step input).feed.NoOrphans := by
  obtain ⟨now, op⟩ := input
  have pruned := (prune_pruned now p.feed).sound sound
  cases op with
  | markRead userId ids =>
      simp only [step]
      split
      · rename_i feed done
        have marked := markRead_marked done
        intro id r found
        rw [marked.events]
        rcases marked.new id r found with before | ⟨e, held, _⟩
        · exact sound id r before
        · rw [held]
          rfl
      · exact sound
  | cron => exact pruned
  | again time =>
      simp only [step]
      split
      · exact pruned
      · exact sound
  | goLive creatorId showId =>
      intro id r found
      obtain ⟨e, held⟩ := Option.isSome_iff_exists.mp (sound id r found)
      rw [Option.isSome_iff_exists]
      exact ⟨e, Table.get_insert_of_some held _⟩
  | elsewhere site follows => exact sound

/-! ### The chain -/

/-- The cron job starts a chain. -/
def starts (_ : Pruning) (input : Time × FeedOp) : Bool :=
  match input.2 with
  | .cron => true
  | _ => false

/-- A scheduled run goes on with one. -/
def continues (p : Pruning) (input : Time × FeedOp) : Bool :=
  match input.2 with
  | .again time => time ∈ p.scheduled && time ≤ input.1
  | _ => false

/-- The run schedules another one. -/
def reschedules (p : Pruning) (input : Time × FeedOp) : Bool :=
  (starts p input || continues p input) && (p.feed.prune input.1).2

/-- Since `t`, no event has become old. -/
def noneCross (t : Time) (p : Pruning) (input : Time × FeedOp) : Prop :=
  t ≤ input.1 ∧ ∀ id e, p.feed.site.liveEvents.get id = some e →
    e.createdAt < input.1 - notificationWindowMs → e.createdAt < t - notificationWindowMs

theorem step_paid {t : Time} {input : Time × FeedOp} (sound : p.feed.NoOrphans)
    (guarded : noneCross t p input) :
    (if reschedules p input then 50 else 0) +
      (p.step input).feed.backlog (t - notificationWindowMs) ≤
        p.feed.backlog (t - notificationWindowMs) := by
  obtain ⟨now, op⟩ := input
  obtain ⟨later, crossed⟩ := guarded
  have paid := prune_paid crossed
  have below : t - notificationWindowMs ≤ now - notificationWindowMs :=
    Nat.sub_le_sub_right later _
  cases op with
  | markRead userId ids =>
      simp only [step, reschedules, starts, continues, Bool.or_self, Bool.false_and,
        Bool.false_eq_true, if_false, Nat.zero_add]
      split
      · rename_i feed done
        exact Nat.le_of_eq ((markRead_marked done).backlog _ below)
      · exact Nat.le_refl _
  | cron => exact paid
  | again time =>
      simp only [step, reschedules, starts, continues, Bool.false_or]
      by_cases due : time ∈ p.scheduled ∧ time ≤ now
      · simp only [due, decide_true, Bool.and_self, Bool.true_and]
        exact paid
      · have off : (decide (time ∈ p.scheduled) && decide (time ≤ now)) = false := by
          rw [← Bool.decide_and]
          exact decide_eq_false due
        simp only [off, if_neg due, Bool.false_and, Bool.false_eq_true, if_false, Nat.zero_add,
          Nat.le_refl]
  | goLive creatorId showId =>
      have recent : t - notificationWindowMs ≤ now := Nat.le_trans below (Nat.sub_le _ _)
      have same := insert_backlog (e := { creatorId, showId, createdAt := now }) sound recent
      simp only [reschedules, starts, continues, Bool.or_self, Bool.false_and, Bool.false_eq_true,
        if_false, Nat.zero_add]
      exact Nat.le_of_eq same
  | elsewhere site follows =>
      simp only [reschedules, starts, continues, Bool.or_self, Bool.false_and, Bool.false_eq_true,
        if_false, Nat.zero_add]
      exact Nat.le_refl _

theorem prune_scheduled (now : Time) (p : Pruning) : (p.prune now).scheduled.length =
    p.scheduled.length + if (p.feed.prune now).2 then 1 else 0 := by
  show (if (p.feed.prune now).2 then p.scheduled ++ [now] else p.scheduled).length = _
  split
  · rw [List.length_append]
    rfl
  · rfl

/-- Runs that go on with a chain are paid for by the runs that scheduled them. -/
theorem step_scheduled (p : Pruning) (input : Time × FeedOp) :
    (if continues p input then 1 else 0) + (p.step input).scheduled.length =
      p.scheduled.length + if reschedules p input then 1 else 0 := by
  obtain ⟨now, op⟩ := input
  cases op with
  | markRead userId ids =>
      simp only [step, reschedules, starts, continues, Bool.or_self, Bool.false_and,
        Bool.false_eq_true, if_false, Nat.zero_add, Nat.add_zero]
      split <;> rfl
  | cron =>
      have more := prune_scheduled now p
      simp only [continues, reschedules, starts, Bool.or_false, Bool.true_and, Bool.false_eq_true,
        if_false, Nat.zero_add]
      exact more
  | again time =>
      simp only [step, reschedules, starts, continues, Bool.false_or]
      by_cases due : time ∈ p.scheduled ∧ time ≤ now
      · have more := prune_scheduled now { p with scheduled := p.scheduled.erase time }
        have fewer := List.length_erase_of_mem due.1
        have some := List.length_pos_of_mem due.1
        simp only [due, and_self, decide_true, Bool.and_self, Bool.true_and, if_true]
        simp only at more
        omega
      · have off : (decide (time ∈ p.scheduled) && decide (time ≤ now)) = false := by
          rw [← Bool.decide_and]
          exact decide_eq_false due
        simp [off, due]
  | goLive creatorId showId => simp [step, reschedules, starts, continues]
  | elsewhere site follows => simp [step, reschedules, starts, continues]

theorem run_scheduled (p : Pruning) (inputs : List (Time × FeedOp)) :
    countAlong step continues p inputs + (run step p inputs).scheduled.length =
      p.scheduled.length + countAlong step reschedules p inputs := by
  induction inputs generalizing p with
  | nil => simp [countAlong]
  | cons input rest ih =>
      have now := step_scheduled p input
      have later := ih (p.step input)
      simp only [countAlong, run_cons]
      omega

/-- Scheduled runs are at most as many as the backlog allows. -/
theorem chain_stops {t : Time} {inputs : List (Time × FeedOp)} (sound : p.feed.NoOrphans)
    (guarded : Along step (noneCross t) p inputs) :
    countAlong step continues p inputs + (run step p inputs).scheduled.length ≤
      p.scheduled.length + p.feed.backlog (t - notificationWindowMs) / 50 := by
  have paid := countAlong_cost_le 50 (fun p : Pruning =>
    p.feed.backlog (t - notificationWindowMs)) (fun p input sound _ => step_noOrphans sound input)
    (fun p input sound guarded => step_paid sound guarded) sound guarded
  have scheduled := run_scheduled p inputs
  have bound : countAlong step reschedules p inputs ≤
      p.feed.backlog (t - notificationWindowMs) / 50 := by
    rw [Nat.le_div_iff_mul_le (by decide), Nat.mul_comm]
    exact Nat.le_trans (Nat.le_add_right _ _) paid
  omega

theorem reached_noOrphans (inputs : List (Time × FeedOp)) :
    (run step empty inputs).feed.NoOrphans := by
  have reached : Reachable step empty (run step empty inputs) := ⟨inputs, rfl⟩
  apply reached.induct fun p => p.feed.NoOrphans
  · intro id r found
    cases found
  · exact fun p input sound => step_noOrphans sound input

/-- Receipts are never orphaned, what is in the window stays, a run deletes at most 500 receipts,
and as long as no event becomes old the scheduled runs come to an end, the last of which leaves
no old event. -/
theorem pruning_finishes (before : List (Time × FeedOp)) :
    let p := run step empty before
    p.feed.NoOrphans ∧
    (∀ input, Spares input.1 p.feed (p.step input).feed) ∧
    (∀ now, p.feed.notificationReads.rows.length ≤
      (p.feed.prune now).1.notificationReads.rows.length + 500) ∧
    (∀ now, (p.feed.prune now).2 = false → ∀ id e,
      (p.feed.prune now).1.site.liveEvents.get id = some e →
      now - notificationWindowMs ≤ e.createdAt) ∧
    ∀ t inputs, Along step (noneCross t) p inputs →
      countAlong step continues p inputs + (run step p inputs).scheduled.length ≤
        p.scheduled.length + p.feed.backlog (t - notificationWindowMs) / 50 := by
  dsimp only
  have sound := reached_noOrphans before
  refine ⟨sound, step_spares _, fun now => prune_budget now _, ?_, ?_⟩
  · intro now last id e found
    exact prune_last last found
  · intro t inputs guarded
    exact chain_stops sound guarded

/-- A creator goes live sixty times, and then never again. -/
def livedLong : List (Time × FeedOp) := (List.range 60).map fun i => (i, .goLive 7 i)

/-- The cron job runs when all of it has become old, and schedules one more run. -/
def pruned (now : Time) : List (Time × FeedOp) := [(now, .cron), (now, .again now)]

theorem pruning_finishes_sixty :
    let now := notificationWindowMs + 60
    let p := run step empty livedLong
    countAlong step continues p (pruned now) = 1 ∧
      (run step p (pruned now)).feed.site.liveEvents.rows = [] ∧
      countAlong step continues p (pruned now) + (run step p (pruned now)).scheduled.length ≤
        p.scheduled.length + p.feed.backlog (now - notificationWindowMs) / 50 := by
  obtain ⟨_, _, _, _, chain⟩ := pruning_finishes livedLong
  refine ⟨by decide +kernel, by decide +kernel, chain (notificationWindowMs + 60) _ ?_⟩
  exact ⟨⟨Nat.le_refl _, fun _ _ _ => id⟩, ⟨Nat.le_refl _, fun _ _ _ => id⟩, trivial⟩

end Pruning

end Bling
