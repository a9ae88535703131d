import Bling.Lifecycle

set_option autoImplicit false

namespace Bling

open Library

/-! Ending a show closes everything under it. -/

/-! ### What a batch closes -/

/-- The entries of a show that are waiting or on stage. -/
def activeEntries (db : DB) (showId : ShowId) : Finset EntryId :=
  db.queueEntries.ids fun e => e.showId == showId && decide (e.status ∈ activeEntryStatuses)

theorem mem_activeEntries {db : DB} {showId : ShowId} {id : EntryId} :
    id ∈ activeEntries db showId ↔ ∃ entry, db.queueEntries.get id = some entry ∧
      entry.showId = showId ∧ entry.status ∈ activeEntryStatuses := by
  simp only [activeEntries, Table.mem_ids, Bool.and_eq_true, beq_iff_eq, decide_eq_true_eq]

theorem activeEntries_runAfter (db : DB) (now delay : Time) (job : Job) (showId : ShowId) :
    activeEntries (db.runAfter now delay job) showId = activeEntries db showId := rfl

theorem closeEntry_active (ctx : Ctx) (status : QueueStatus) (db : DB) (showId : ShowId)
    (row : EntryId × QueueEntry) :
    activeEntries (closeEntry ctx status db row) showId = (activeEntries db showId).erase row.1 := by
  ext id
  rw [mem_activeEntries, Finset.mem_erase, mem_activeEntries,
    (closeEntry_same ctx status db row).queueEntries]
  dsimp only
  by_cases here : id = row.1
  · rw [here]
    refine iff_of_false ?_ fun closed => closed.1 rfl
    rintro ⟨entry, found, _, active⟩
    rw [Table.get_patch, if_pos rfl] at found
    obtain ⟨e, _, rfl⟩ := Option.map_eq_some_iff.mp found
    simp [closedPatch, activeEntryStatuses] at active
  · rw [Table.get_patch_of_ne here]
    exact (and_iff_right here).symm

theorem closeEach_active (ctx : Ctx) (status : QueueStatus) (showId : ShowId)
    (rows : List (EntryId × QueueEntry)) (db : DB) :
    activeEntries (rows.foldl (closeEntry ctx status) db) showId =
      activeEntries db showId \ (rows.map Prod.fst).toFinset := by
  induction rows generalizing db with
  | nil => simp
  | cons row rest ih =>
      rw [List.foldl_cons, ih, closeEntry_active]
      ext id
      simp only [List.map_cons, List.toFinset_cons, Finset.mem_sdiff, Finset.mem_erase,
        Finset.mem_insert]
      tauto

theorem entriesWith_nodup (db : DB) (showId : ShowId) (status : QueueStatus) :
    ((entriesWith db showId status).map Prod.fst).Nodup := by
  unfold entriesWith
  refine ((List.perm_insertionSort _ _).map Prod.fst).nodup_iff.mpr ?_
  exact Table.query_nodup _ _

theorem mem_entriesWith_iff {db : DB} {showId : ShowId} {status : QueueStatus}
    {row : EntryId × QueueEntry} : row ∈ entriesWith db showId status ↔
      db.queueEntries.get row.1 = some row.2 ∧ row.2.showId = showId ∧ row.2.status = status := by
  refine ⟨mem_entriesWith, ?_⟩
  rintro ⟨present, inShow, is⟩
  unfold entriesWith
  rw [List.mem_insertionSort]
  exact (Table.mem_query _ _ row.1 row.2).mpr ⟨present, by simp [inShow, is]⟩

/-- The loop over the statuses: what it has closed and what is left add up, and
it stops short of the limit only when nothing is left. -/
theorem closeStatuses_counts (ctx : Ctx) (showId : ShowId) (limit : Nat)
    (statuses : List QueueStatus) (areActive : ∀ s ∈ statuses, s ∈ activeEntryStatuses)
    (db : DB) (closed : Nat) (within : closed ≤ limit)
    (left : closed < limit → ∀ id entry, db.queueEntries.get id = some entry →
      entry.showId = showId → entry.status ∈ activeEntryStatuses → entry.status ∈ statuses) :
    let result := statuses.foldl (fun (db, closed) status =>
      if limit ≤ closed then (db, closed)
      else
        let entries := (entriesWith db showId status).take (limit - closed)
        (entries.foldl (closeEntry ctx status) db, closed + entries.length)) (db, closed)
    result.2 + (activeEntries result.1 showId).card =
        closed + (activeEntries db showId).card ∧
      result.2 ≤ limit ∧ (result.2 < limit → activeEntries result.1 showId = ∅) := by
  induction statuses generalizing db closed with
  | nil =>
      refine ⟨rfl, within, ?_⟩
      intro short
      rw [Finset.eq_empty_iff_forall_notMem]
      intro id active
      obtain ⟨entry, found, inShow, is⟩ := mem_activeEntries.mp active
      exact absurd (left short id entry found inShow is) List.not_mem_nil
  | cons status rest ih =>
      have restActive : ∀ s ∈ rest, s ∈ activeEntryStatuses := fun s member =>
        areActive s (List.mem_cons_of_mem _ member)
      rw [List.foldl_cons]
      dsimp only
      split
      · rename_i full
        exact ih restActive db closed within fun short => absurd full (Nat.not_le.mpr short)
      · rename_i room
        set rows := (entriesWith db showId status).take (limit - closed) with taken
        have length : rows.length ≤ limit - closed := by
          rw [taken, List.length_take]
          exact Nat.min_le_left _ _
        have subset : (rows.map Prod.fst).toFinset ⊆ activeEntries db showId := by
          intro id member
          obtain ⟨row, isRow, rfl⟩ := List.mem_map.mp (List.mem_toFinset.mp member)
          obtain ⟨present, inShow, is⟩ := mem_entriesWith (List.mem_of_mem_take isRow)
          exact mem_activeEntries.mpr
            ⟨row.2, present, inShow, is ▸ areActive status List.mem_cons_self⟩
        have distinct : (rows.map Prod.fst).toFinset.card = rows.length := by
          rw [List.toFinset_card_of_nodup, List.length_map]
          exact (entriesWith_nodup db showId status).sublist
            ((List.take_sublist _ _).map Prod.fst)
        have counted : rows.length + (activeEntries (rows.foldl (closeEntry ctx status) db)
            showId).card = (activeEntries db showId).card := by
          rw [closeEach_active, ← distinct, Nat.add_comm]
          exact Finset.card_sdiff_add_card_eq_card subset
        have done := ih restActive (rows.foldl (closeEntry ctx status) db) (closed + rows.length)
          (by omega) ?_
        · refine ⟨done.1.trans ?_, done.2⟩
          rw [Nat.add_assoc, counted]
        · intro short id entry found inShow active
          have kept : id ∉ (rows.map Prod.fst).toFinset := by
            have isActive := mem_activeEntries.mpr ⟨entry, found, inShow, active⟩
            rw [closeEach_active, Finset.mem_sdiff] at isActive
            exact isActive.2
          have present : db.queueEntries.get id = some entry := by
            have each := (closeEach_closed status rows (fun row member => ?_)
              (.refl ctx showId db)).each id
            · rcases each with unchanged | ⟨_, _, _, _, isOver⟩
              · exact unchanged.symm.trans found
              · obtain rfl := Option.some.inj (isOver.symm.trans found)
                simp [closedPatch, activeEntryStatuses] at active
            · obtain ⟨there, together, is⟩ := mem_entriesWith (List.mem_of_mem_take member)
              exact ⟨there, together, is ▸ areActive status List.mem_cons_self⟩
          rcases List.mem_cons.mp (left (by omega) id entry present inShow active) with is | later
          · -- The batch had room for all entries of this status.
            have all : rows = entriesWith db showId status := by
              refine List.take_of_length_le (Nat.le_of_lt ?_)
              rw [taken, List.length_take] at short
              omega
            refine absurd (List.mem_toFinset.mpr (List.mem_map.mpr ⟨(id, entry), ?_, rfl⟩)) kept
            rw [all]
            exact mem_entriesWith_iff.mpr ⟨present, inShow, is⟩
          · exact later

theorem closeEntries_counts (ctx : Ctx) (db : DB) (showId : ShowId) (limit : Nat) :
    (closeEntries ctx db showId limit).2 +
        (activeEntries (closeEntries ctx db showId limit).1 showId).card =
      (activeEntries db showId).card ∧ (closeEntries ctx db showId limit).2 ≤ limit ∧
      ((closeEntries ctx db showId limit).2 < limit →
        activeEntries (closeEntries ctx db showId limit).1 showId = ∅) := by
  have counts := closeStatuses_counts ctx showId limit activeEntryStatuses (fun _ => id) db 0
    (Nat.zero_le limit) fun _ _ _ _ _ => id
  rw [Nat.zero_add] at counts
  exact counts

/-! ### Holds that are given back -/

/-- The release of an attempt's hold is scheduled to run at once. -/
def ReleaseScheduled (ctx : Ctx) (db : DB) (attemptId : AttemptId) : Prop :=
  (ctx.now, .cancelIntent attemptId .showEnded) ∈ db.scheduled

/-- Bling can release the attempt's hold. -/
def PaymentAttempt.releasable (attempt : PaymentAttempt) : Prop :=
  attempt.stripePaymentIntentId.isSome ∧
    (attempt.status = .created ∨ attempt.status = .authorized)

theorem scheduleCancel_releases {ctx : Ctx} {db : DB} {attemptId : AttemptId}
    {attempt : PaymentAttempt} (releasable : attempt.releasable) :
    ReleaseScheduled ctx (scheduleCancel ctx db attemptId attempt .showEnded) attemptId := by
  obtain ⟨attached, isOpen⟩ := releasable
  unfold scheduleCancel
  rw [if_pos ⟨attached, isOpen⟩]
  exact List.mem_append_right _ (List.mem_singleton_self _)

/-- Of the entries that waited, those that no longer do have had their holds'
release scheduled. -/
def HoldsReleased (ctx : Ctx) (before after : DB) : Prop :=
  ∀ id entry attemptId attempt, before.queueEntries.get id = some entry →
    entry.status = .waiting → after.queueEntries.get id ≠ some entry →
    entry.paymentAttemptId = some attemptId →
    before.paymentAttempts.get attemptId = some attempt → attempt.releasable →
    ReleaseScheduled ctx after attemptId

/-- What a batch has done so far. -/
structure Batched (ctx : Ctx) (showId : ShowId) (before after : DB) : Prop where
  closed : Closed ctx showId before after
  released : HoldsReleased ctx before after

theorem Batched.refl (ctx : Ctx) (showId : ShowId) (db : DB) : Batched ctx showId db db :=
  ⟨.refl ctx showId db, fun _ _ _ _ present _ stops => absurd present stops⟩

/-- An entry that a batch finds active is as it was before. -/
theorem Batched.untouched {ctx : Ctx} {showId : ShowId} {before after : DB}
    (sofar : Batched ctx showId before after) {id : EntryId} {entry : QueueEntry}
    (present : after.queueEntries.get id = some entry)
    (active : entry.status ∈ activeEntryStatuses) : before.queueEntries.get id = some entry := by
  rcases sofar.closed.each id with unchanged | ⟨_, _, _, _, isOver⟩
  · exact unchanged.symm.trans present
  · obtain rfl := Option.some.inj (isOver.symm.trans present)
    simp [closedPatch, activeEntryStatuses] at active

theorem Batched.close {ctx : Ctx} {showId : ShowId} {before after : DB}
    (sofar : Batched ctx showId before after) {row : EntryId × QueueEntry}
    (present : before.queueEntries.get row.1 = some row.2) (inShow : row.2.showId = showId)
    (active : row.2.status ∈ activeEntryStatuses) :
    Batched ctx showId before (closeEntry ctx row.2.status after row) := by
  refine ⟨closeEntry_closed row.2.status sofar.closed present inShow active, ?_⟩
  intro id entry attemptId attempt found waiting stops pays held releasable
  by_cases here : id = row.1
  · rw [here, present] at found
    obtain rfl := Option.some.inj found
    have attempts := sofar.closed.same.paymentAttempts
    dsimp only at attempts
    simp only [closeEntry, pays, waiting, if_true, attempts, held]
    exact scheduleCancel_releases releasable
  · refine (closeEntry_quiet ctx row.2.status after row).adds.mem ?_
    refine sofar.released id entry attemptId attempt found waiting ?_ pays held releasable
    rw [(closeEntry_same ctx row.2.status after row).queueEntries,
      Table.get_patch_of_ne here] at stops
    exact stops

theorem Batched.closeEach {ctx : Ctx} {showId : ShowId} {before after : DB} {status : QueueStatus}
    (active : status ∈ activeEntryStatuses) (rows : List (EntryId × QueueEntry))
    (each : ∀ row ∈ rows, before.queueEntries.get row.1 = some row.2 ∧ row.2.showId = showId ∧
      row.2.status = status) (sofar : Batched ctx showId before after) :
    Batched ctx showId before (rows.foldl (closeEntry ctx status) after) := by
  induction rows generalizing after with
  | nil => exact sofar
  | cons row rest ih =>
      obtain ⟨present, inShow, is⟩ := each row List.mem_cons_self
      refine ih (fun other member => each other (List.mem_cons_of_mem _ member)) ?_
      have closed := sofar.close present inShow (is ▸ active)
      rw [is] at closed
      exact closed

theorem closeEntries_batched (ctx : Ctx) (db : DB) (showId : ShowId) (limit : Nat) :
    Batched ctx showId db (closeEntries ctx db showId limit).1 := by
  unfold closeEntries
  have each (statuses : List QueueStatus)
      (areActive : ∀ s ∈ statuses, s ∈ activeEntryStatuses) (current : DB) (closed : Nat)
      (sofar : Batched ctx showId db current) :
      Batched ctx showId db (statuses.foldl (fun (db, closed) status =>
        if limit ≤ closed then (db, closed)
        else
          let entries := (entriesWith db showId status).take (limit - closed)
          (entries.foldl (closeEntry ctx status) db, closed + entries.length))
        (current, closed)).1 := by
    induction statuses generalizing current closed with
    | nil => exact sofar
    | cons status rest ih =>
        have active := areActive status List.mem_cons_self
        have restActive : ∀ s ∈ rest, s ∈ activeEntryStatuses := fun s member =>
          areActive s (List.mem_cons_of_mem _ member)
        rw [List.foldl_cons]
        dsimp only
        split
        · exact ih restActive current closed sofar
        · refine ih restActive _ _ (sofar.closeEach active _ ?_)
          intro row member
          obtain ⟨present, inShow, is⟩ := mem_entriesWith (List.mem_of_mem_take member)
          exact ⟨sofar.untouched present (is ▸ active), inShow, is⟩
  exact each activeEntryStatuses (fun _ => id) db 0 (.refl ctx showId db)

/-! ### An ended show's queue only gets shorter -/

theorem Effect.queue_closes {ctx : Ctx} {db after : DB} {m : Mutation} (inStep : InStep db)
    (effect : Effect ctx db m after) {showId : ShowId} (ended : EndedIn db.shows showId) :
    activeEntries after showId ⊆ activeEntries db showId := by
  intro id active
  obtain ⟨entry, found, inShow, isActive⟩ := mem_activeEntries.mp active
  -- An entry that a write leaves in no active status is another one.
  have patched {entryId : EntryId} {isOver : QueueEntry → QueueEntry} {status : QueueStatus}
      (there : (db.queueEntries.patch entryId isOver).get id = some entry)
      (sets : ∀ e, (isOver e).status = status) (stops : status ∉ activeEntryStatuses) :
      id ∈ activeEntries db showId := by
    rw [Table.get_patch] at there
    split at there
    · obtain ⟨e, _, rfl⟩ := Option.map_eq_some_iff.mp there
      exact absurd (sets e ▸ isActive) stops
    · exact mem_activeEntries.mpr ⟨entry, there, inShow, isActive⟩
  cases effect with
  | moved callId call target shows present allowed asked isOver same =>
      rw [same.queueEntries] at found
      dsimp only at found
      have connectable := CallStatus.open_of_transition allowed
      have live := (inStep.shows.hosted callId call present).2 connectable
      obtain ⟨e, held, together, _⟩ :=
        inStep.queue.called callId call present (connectable_active connectable)
      rcases Table.get_patch_row held found with ⟨_, rfl⟩ | ⟨_, old⟩
      · rw [← together, show e.showId = showId from inShow] at live
        exact absurd live ended.unlive
      · exact mem_activeEntries.mpr ⟨entry, old, inShow, isActive⟩
  | queueClosed other queueEntries asked each same =>
      rw [same.queueEntries] at found
      rcases each id with unchanged | ⟨e, _, _, _, closed⟩
      · exact mem_activeEntries.mpr ⟨entry, unchanged.symm.trans found, inShow, isActive⟩
      · obtain rfl := Option.some.inj (closed.symm.trans found)
        simp [closedPatch, activeEntryStatuses] at isActive
  | joined viewerId args tierId tier existing attempt live host offered previous gone held paid
      same =>
      obtain ⟨entryId, mine, _, present, ofShow, _, _, _, _, _, others⟩ :=
        enqueue_entries ctx tierId tier (attempt.map Prod.fst) previous
      rw [same.queueEntries] at found
      by_cases here : id = entryId
      · rw [here, present] at found
        obtain rfl := Option.some.inj found
        rw [ofShow] at inShow
        rw [inShow] at live
        exact absurd (showLive_iff.mp live) ended.unlive
      · rw [others id here] at found
        exact mem_activeEntries.mpr ⟨entry, found, inShow, isActive⟩
  | left entryId e asked present waiting same =>
      rw [same.queueEntries] at found
      exact patched found (fun _ => rfl) (by decide)
  | selected other hotline entryId e mode attempt asked host live idle present ofShow waiting held
      paid same =>
      rw [same.queueEntries, openCall_entries] at found
      rcases Table.get_patch_row present found with ⟨_, rfl⟩ | ⟨_, old⟩
      · have isLive : LiveIn db.shows showId := ⟨hotline, by rw [← inShow, ← host, ← ofShow], live⟩
        exact absurd isLive ended.unlive
      · exact mem_activeEntries.mpr ⟨entry, old, inShow, isActive⟩
  | callMissed attemptId attempt capturedAt method callId call asked present located unstarted isOver
      pending same =>
      rw [same.queueEntries] at found
      exact patched found (fun _ => rfl) (by decide)
  | notCaptured attemptId attempt status failureCode canceledAt calls queueEntries asked present
      uncaptured failed released same =>
      rw [same.queueEntries] at found
      dsimp only at found
      rcases released with ⟨unchanged, _⟩ | ⟨_, _, _, _, _, isPatched⟩
      · rw [unchanged] at found
        exact mem_activeEntries.mpr ⟨entry, found, inShow, isActive⟩
      · rw [isPatched] at found
        exact patched found (fun _ => rfl) (by decide)
  | _ =>
      rename_i same
      rw [same.queueEntries] at found
      exact mem_activeEntries.mpr ⟨entry, found, inShow, isActive⟩

/-! ### The chain of batches -/

def isClosing (showId : ShowId) (row : Time × Job) : Bool := row.2 == .closeQueue showId

/-- How many batches of the show's closing are scheduled. -/
def pendingCloses (db : DB) (showId : ShowId) : Nat := db.scheduled.countP (isClosing showId)

/-- The step runs a batch of the show's closing. -/
def runsBatch (showId : ShowId) (w : World) (input : Ctx × Op) : Bool :=
  match input.2 with
  | .runJob time job =>
    isClosing showId (time, job) && decide ((time, job) ∈ w.db.scheduled ∧ time ≤ input.1.now)
  | _ => false

theorem isClosing_spares {showId : ShowId} (row : Time × Job) (spares : row.2.spares) :
    isClosing showId row = false := by
  simpa [isClosing] using spares showId

theorem pendingCloses_runAfter (db : DB) (now delay : Time) (showId other : ShowId) :
    pendingCloses (db.runAfter now delay (.closeQueue other)) showId =
      pendingCloses db showId + if other = showId then 1 else 0 := by
  by_cases same : other = showId <;>
    simp [pendingCloses, DB.runAfter, DB.runAt, isClosing, same]

/-- A job that runs is taken off the list. -/
theorem pendingCloses_started (w : World) (input : Ctx × Op) (showId : ShowId) :
    pendingCloses (w.started input) showId + (if runsBatch showId w input then 1 else 0) =
      pendingCloses w.db showId := by
  obtain ⟨ctx, op⟩ := input
  cases op with
  | runJob time job =>
      by_cases due : (time, job) ∈ w.db.scheduled ∧ time ≤ ctx.now
      · have runs : runsBatch showId w (ctx, .runJob time job) = isClosing showId (time, job) := by
          simp [runsBatch, due]
        have off : (w.started (ctx, .runJob time job)).scheduled =
            w.db.scheduled.erase (time, job) := by
          simp only [World.started, if_pos due]
        rw [runs, pendingCloses, pendingCloses, off, (List.perm_cons_erase due.1).countP_eq,
          List.countP_cons]
      · have rests : runsBatch showId w (ctx, .runJob time job) = false := by
          simp [runsBatch, due]
        have on : w.started (ctx, .runJob time job) = w.db := by
          simp only [World.started, if_neg due]
        rw [rests, on]
        rfl
  | _ => rfl

theorem Effect.ends {ctx : Ctx} {db after : DB} {m : Mutation} (effect : Effect ctx db m after)
    {showId : ShowId} (ended : EndedIn after.shows showId) :
    EndedIn db.shows showId ∨ ∃ userId, m = .endShow userId showId := by
  obtain ⟨hotline, found, status⟩ := ended
  have patched {other : ShowId} {s : Show} {isOver : Show → Show}
      (present : db.shows.get other = some s) (there : (db.shows.patch other isOver).get showId =
        some hotline) (asked : ∃ userId, m = .endShow userId other) :
      EndedIn db.shows showId ∨ ∃ userId, m = .endShow userId showId := by
    rcases Table.get_patch_row present there with ⟨rfl, _⟩ | ⟨_, old⟩
    · exact Or.inr asked
    · exact Or.inl ⟨hotline, old, status⟩
  cases effect with
  | showAdded added tier created free same =>
      rw [same.shows] at found
      rcases Table.get_insert_row found with ⟨_, rfl⟩ | old
      · rw [created] at status
        cases status
      · exact Or.inl ⟨hotline, old, status⟩
  | showStarted other s present created alone same =>
      rw [same.shows] at found
      rcases Table.get_patch_row present found with ⟨_, rfl⟩ | ⟨_, old⟩
      · cases status
      · exact Or.inl ⟨hotline, old, status⟩
  | showEnded other s asked present live idle same =>
      rw [same.shows] at found
      exact patched present found asked
  | moved callId call target shows present allowed moves isOver same =>
      rw [same.shows] at found
      dsimp only at found
      rcases isOver with unchanged | ⟨_, other, s, asked, host, _, _, isPatched⟩
      · rw [unchanged] at found
        exact Or.inl ⟨hotline, found, status⟩
      · rw [isPatched] at found
        exact patched host found asked
  | selected other s entryId entry mode attempt asked host live idle present inShow waiting held
      paid same =>
      have shows : after.shows = db.shows := by
        rw [same.shows]
        cases attempt <;> rfl
      rw [shows] at found
      exact Or.inl ⟨hotline, found, status⟩
  | _ =>
      rename_i same
      rw [same.shows] at found
      exact Or.inl ⟨hotline, found, status⟩

theorem Op.mutation_endShow {w : World} {ctx : Ctx} {op : Op} {userId : Option UserId}
    {showId : ShowId} (ran : op.mutation w ctx = some (.endShow userId showId)) :
    op = .request (.endShow userId showId) := by
  cases op with
  | request other =>
      simp only [Op.mutation, Option.ite_none_right_eq_some, Option.some.injEq] at ran
      rw [ran.2]
  | authorize userId showId tierId idempotencyKey stripeCustomerId =>
      simp [Op.mutation] at ran
  | runJob time job =>
      simp only [Op.mutation, Option.ite_none_right_eq_some] at ran
      obtain ⟨_, begins⟩ := ran
      cases job <;> cases begins
  | advance flight outcome status =>
      simp only [Op.mutation, Option.ite_none_right_eq_some] at ran
      obtain ⟨_, ends⟩ := ran
      cases flight <;> cases ends
  | deliver eventId =>
      obtain ⟨_, _, same⟩ := Option.map_eq_some_iff.mp ran
      cases same
  | saveAccount creatorId account => cases ran
  | runDue => cases ran
  | joinPaid userId args attemptId => cases ran
  | sweepRefunds now => cases ran
  | sweepCaptures now => cases ran
  | sweepTransfers now => cases ran
  | stripe op => cases ran

theorem step_ends {w : World} {input : Ctx × Op} {showId : ShowId}
    (ended : EndedIn (w.step input).db.shows showId) :
    EndedIn w.db.shows showId ∨ ∃ userId, input.2 = .request (.endShow userId showId) := by
  rcases World.step_ran w input with ⟨_, later, same⟩ | ⟨m, earlier, later, ran, same⟩
  · rw [same] at ended
    exact Or.inl ended
  · rw [same] at ended
    refine ((m.effect input.1 { w.db with scheduled := earlier }).ends ended).imp_right ?_
    rintro ⟨userId, rfl⟩
    exact ⟨userId, Op.mutation_endShow ran⟩

/-- What a step does for the closing of a show's queue. -/
inductive ChainStep (w : World) (input : Ctx × Op) (showId : ShowId) : Prop
  | still (unmarked : runsBatch showId w input = false)
      (jobs : pendingCloses (w.step input).db showId = pendingCloses w.db showId)
      (ended : EndedIn (w.step input).db.shows showId → EndedIn w.db.shows showId)
  | ends (unmarked : runsBatch showId w input = false) (live : LiveIn w.db.shows showId)
      (jobs : pendingCloses (w.step input).db showId = pendingCloses w.db showId + 1)
  | full (marked : runsBatch showId w input = true)
      (jobs : pendingCloses (w.step input).db showId = pendingCloses w.db showId)
      (pending : 0 < pendingCloses w.db showId)
      (left : (activeEntries (w.step input).db showId).card + closeBatch =
        (activeEntries w.db showId).card)
  | last (marked : runsBatch showId w input = true)
      (jobs : pendingCloses (w.step input).db showId + 1 = pendingCloses w.db showId)
      (empty : activeEntries (w.step input).db showId = ∅)

/-- A step that runs a batch is `closeQueue`. -/
theorem runsBatch_step {w : World} {input : Ctx × Op} {showId : ShowId}
    (marked : runsBatch showId w input = true) :
    (w.step input).db = closeQueue input.1 (w.started input) showId := by
  obtain ⟨ctx, op⟩ := input
  cases op with
  | runJob time job =>
      simp only [runsBatch, isClosing, Bool.and_eq_true, beq_iff_eq, decide_eq_true_eq] at marked
      obtain ⟨rfl, due⟩ := marked
      simp only [World.step, World.started, if_pos due, World.runJob, Job.mutation, World.mutate,
        Mutation.apply]
  | _ => cases marked

theorem step_chain (w : World) (input : Ctx × Op) (showId : ShowId) :
    ChainStep w input showId := by
  have started := pendingCloses_started w input showId
  cases marked : runsBatch showId w input with
  | true =>
      rw [marked, if_pos rfl] at started
      obtain ⟨jobs, unscheduled⟩ := World.started_same w input
      have active : activeEntries (w.started input) showId = activeEntries w.db showId := by
        rw [unscheduled]
        rfl
      obtain ⟨adds, closed⟩ := closeQueue_adds input.1 (w.started input) showId
      obtain ⟨sum, within, empty⟩ := closeEntries_counts input.1 (w.started input) showId closeBatch
      have kept : pendingCloses (closeEntries input.1 (w.started input) showId closeBatch).1 showId =
          pendingCloses (w.started input) showId := adds.count isClosing_spares
      rw [active] at sum
      rw [← runsBatch_step marked] at closed
      split at closed
      · rename_i isFull
        refine .full marked ?_ (by omega) ?_
        · rw [closed, pendingCloses_runAfter, if_pos rfl, kept, started]
        · have same : activeEntries (w.step input).db showId =
              activeEntries (closeEntries input.1 (w.started input) showId closeBatch).1 showId := by
            rw [closed, activeEntries_runAfter]
          rw [isFull] at sum
          rw [same, Nat.add_comm]
          exact sum
      · rename_i short
        refine .last marked ?_ ?_
        · rw [closed, kept, started]
        · rw [closed]
          exact empty (by omega)
  | false =>
      rw [marked, if_neg Bool.false_ne_true, Nat.add_zero] at started
      have quiet (adds : Adds Job.spares (w.started input) (w.step input).db) :
          pendingCloses (w.step input).db showId = pendingCloses w.db showId := by
        rw [← started]
        exact adds.count isClosing_spares
      by_cases ends : ∃ userId, input.2 = .request (.endShow userId showId)
      · obtain ⟨userId, asked⟩ := ends
        have step : (w.step input).db = commit w.db (endShow input.1 w.db userId showId) := by
          unfold World.step
          rw [asked]
          rfl
        rcases endShow_adds input.1 w.db userId showId with
          same | ⟨hotline, before, host, live, _, adds, ended⟩
        · rw [same] at step
          exact .still marked (by rw [step]) (by rw [step]; exact id)
        · refine .ends marked ⟨hotline, host, live⟩ ?_
          rw [step, ended, pendingCloses_runAfter, if_pos rfl]
          have kept : pendingCloses before showId = pendingCloses w.db showId :=
            adds.count isClosing_spares
          rw [kept]
      · refine .still marked ?_ fun ended => (step_ends ended).resolve_right ends
        rcases step_adds w input with
          adds | ⟨userId, other, asked, step⟩ | ⟨time, other, asked, member, due, step⟩
        · exact quiet adds
        · have apart : other ≠ showId := by
            rintro rfl
            exact ends ⟨userId, asked⟩
          rcases endShow_adds input.1 w.db userId other with
            same | ⟨hotline, before, _, _, _, adds, ended⟩
          · rw [step, same]
          · have kept : pendingCloses before showId = pendingCloses w.db showId :=
              adds.count isClosing_spares
            rw [step, ended, pendingCloses_runAfter, if_neg apart, Nat.add_zero, kept]
        · obtain ⟨adds, closed⟩ := closeQueue_adds input.1 (w.started input) other
          have kept : pendingCloses (closeEntries input.1 (w.started input) other closeBatch).1
              showId = pendingCloses w.db showId := by
            rw [← started]
            exact adds.count isClosing_spares
          have apart : other ≠ showId := by
            rintro rfl
            simp [runsBatch, asked, isClosing, member, due] at marked
          rw [step, closed]
          split
          · rw [pendingCloses_runAfter, if_neg apart, Nat.add_zero, kept]
          · exact kept

theorem step_queue_closes {w : World} (reached : World.Reached w) (input : Ctx × Op)
    {showId : ShowId} (ended : EndedIn w.db.shows showId) :
    activeEntries (w.step input).db showId ⊆ activeEntries w.db showId := by
  rcases World.step_ran w input with ⟨_, later, same⟩ | ⟨m, earlier, later, _, same⟩
  · rw [same]
    exact Finset.Subset.refl _
  · rw [same]
    have inStep : InStep { w.db with scheduled := earlier } :=
      (InStep.unscheduled w.db earlier).mpr (InStep.reached reached)
    exact (m.effect input.1 { w.db with scheduled := earlier }).queue_closes inStep ended

/-- A show has one batch scheduled at most, and one as long as its queue has to be closed. -/
structure ChainSound (db : DB) (showId : ShowId) : Prop where
  one : pendingCloses db showId ≤ 1
  owed : EndedIn db.shows showId → (activeEntries db showId).Nonempty →
    0 < pendingCloses db showId

theorem pendingCloses_live {db : DB} (closes : ClosesEnded db) {showId : ShowId}
    (live : LiveIn db.shows showId) : pendingCloses db showId = 0 := by
  rw [pendingCloses, List.countP_eq_zero]
  rintro ⟨time, job⟩ member closing
  obtain rfl : job = .closeQueue showId := by simpa [isClosing] using closing
  exact (closes time showId member).unlive live

theorem ChainSound.step {w : World} (reached : World.Reached w) {showId : ShowId}
    (sound : ChainSound w.db showId) (input : Ctx × Op) :
    ChainSound (w.step input).db showId := by
  have one := sound.one
  cases step_chain w input showId with
  | still unmarked jobs ended =>
      refine ⟨by omega, ?_⟩
      intro isOver waiting
      rw [jobs]
      exact sound.owed (ended isOver) (waiting.mono (step_queue_closes reached input (ended isOver)))
  | ends unmarked live jobs =>
      rw [pendingCloses_live (ClosesEnded.reached reached) live] at jobs
      exact ⟨by omega, fun _ _ => by omega⟩
  | full marked jobs pending left => exact ⟨by omega, fun _ _ => by omega⟩
  | last marked jobs empty =>
      refine ⟨by omega, ?_⟩
      intro _ waiting
      rw [empty] at waiting
      exact absurd rfl waiting.ne_empty

theorem ChainSound.reached {w : World} (reached : World.Reached w) (showId : ShowId) :
    ChainSound w.db showId := by
  refine (reached.induct (fun w => World.Reached w ∧ ChainSound w.db showId) ?_ ?_).2
  · refine ⟨.refl _ _, Nat.zero_le 1, ?_⟩
    rintro ⟨hotline, found, _⟩
    cases found
  · intro w input sound
    exact ⟨sound.1.step input, sound.2.step sound.1 input⟩

/-- What the chain of an ended show has still to run, at most. -/
def chainPotential (showId : ShowId) (w : World) : Nat :=
  pendingCloses w.db showId + (activeEntries w.db showId).card / closeBatch

theorem chainPotential_pays {w : World} (reached : World.Reached w) {showId : ShowId}
    (ended : EndedIn w.db.shows showId) (input : Ctx × Op) :
    (if runsBatch showId w input then 1 else 0) + chainPotential showId (w.step input) ≤
      chainPotential showId w := by
  have fewer := Finset.card_le_card (step_queue_closes reached input ended)
  have batches := Nat.div_le_div_right (c := closeBatch) fewer
  unfold chainPotential
  cases step_chain w input showId with
  | still unmarked jobs isOver =>
      rw [unmarked, jobs, if_neg Bool.false_ne_true]
      omega
  | ends unmarked live jobs => exact absurd live ended.unlive
  | full marked jobs pending left =>
      rw [marked, jobs, if_pos rfl, ← left, Nat.add_div_right _ (by decide : 0 < closeBatch)]
      omega
  | last marked jobs empty =>
      rw [marked, if_pos rfl]
      omega

/-- The chain of an ended show can always be run to its end. -/
theorem chain_finishes (showId : ShowId) {w : World} (reached : World.Reached w)
    (ended : EndedIn w.db.shows showId) :
    ∃ more, pendingCloses (run World.step w more).db showId = 0 := by
  induction potential : chainPotential showId w using Nat.strong_induction_on generalizing w with
  | _ n ih =>
      by_cases none : pendingCloses w.db showId = 0
      · exact ⟨[], none⟩
      · obtain ⟨⟨time, job⟩, member, closing⟩ := List.countP_pos_iff.mp (Nat.pos_of_ne_zero none)
        have marked : runsBatch showId w (⟨time, World.sampleEnv⟩, .runJob time job) = true := by
          simp [runsBatch, closing, member]
        have pays := chainPotential_pays reached ended (⟨time, World.sampleEnv⟩, .runJob time job)
        rw [marked, if_pos rfl, potential] at pays
        have smaller : chainPotential showId
            (w.step (⟨time, World.sampleEnv⟩, .runJob time job)) < n := by omega
        obtain ⟨more, finished⟩ := ih _ smaller (reached.step _) (ended.step _) rfl
        exact ⟨_ :: more, finished⟩

/-! ### Calls whose payment is open -/

/-- The caller of a call that waits for its payment does not wait in the queue. -/
def PendingCalled (db : DB) : Prop :=
  ∀ id call entry, db.calls.get id = some call → call.status = .paymentPending →
    db.queueEntries.get call.queueEntryId = some entry → entry.status ≠ .waiting

/-- Only a selection opens a call that waits for its payment. -/
theorem Effect.pending_calls {ctx : Ctx} {db after : DB} {m : Mutation}
    (effect : Effect ctx db m after) {id : CallId} {call : Call}
    (found : after.calls.get id = some call) (pending : call.status = .paymentPending) :
    db.calls.get id = some call ∨ ∀ entry, after.queueEntries.get call.queueEntryId = some entry →
      entry.status ≠ .waiting := by
  have patched {callId : CallId} {c : Call} {moved : Call → Call}
      (present : db.calls.get callId = some c) (there : (db.calls.patch callId moved).get id =
        some call) (opens : (moved c).status ≠ .paymentPending) : db.calls.get id = some call := by
    rcases Table.get_patch_row present there with ⟨_, rfl⟩ | ⟨_, old⟩
    · exact absurd pending opens
    · exact old
  cases effect with
  | moved callId c target shows present allowed asked isOver same =>
      rw [same.calls] at found
      exact Or.inl (patched present found (canTransition_target allowed).2.1)
  | selected showId hotline entryId entry mode attempt asked host live idle present inShow waiting
      held paid same =>
      rw [same.calls, openCall_calls] at found
      rcases Table.get_insert_row found with ⟨_, rfl⟩ | old
      · refine Or.inr ?_
        intro other located stillWaiting
        rw [same.queueEntries, openCall_entries] at located
        exact (waiting_patch located stillWaiting (fun _ => rfl) (by decide)).1 rfl
      · exact Or.inl old
  | callOpened attemptId attempt capturedAt method callId c asked present located isPending live
      same =>
      rw [same.calls] at found
      exact Or.inl (patched (callForAttempt_present located).1 found (by simp))
  | callMissed attemptId attempt capturedAt method callId c asked present located unstarted isOver
      isPending same =>
      rw [same.calls] at found
      exact Or.inl (patched (callForAttempt_present located).1 found (by simp [failedPatch]))
  | notCaptured attemptId attempt status failureCode canceledAt calls queueEntries asked present
      uncaptured failed released same =>
      rw [same.calls] at found
      dsimp only at found
      rcases failed with ⟨unchanged, _⟩ | ⟨callId, c, located, _, isPatched⟩
      · rw [unchanged] at found
        exact Or.inl found
      · rw [isPatched] at found
        exact Or.inl (patched (callForAttempt_present located).1 found (by simp [failedPatch]))
  | _ =>
      rename_i same
      rw [same.calls] at found
      exact Or.inl found

theorem PendingCalled.effect {ctx : Ctx} {db after : DB} {m : Mutation}
    (called : PendingCalled db) (inStep : InStep db) (effect : Effect ctx db m after) :
    PendingCalled after := by
  intro id call entry found pending located waiting
  rcases effect.pending_calls found pending with old | settled
  · rcases effect.waits with waits | ⟨viewerId, args, tierId, tier, existing, attempt, joined⟩
    · exact called id call entry old pending (waits _ entry located waiting) waiting
    · obtain ⟨entryId, mine, named, _, _, _, _, _, _, _, others⟩ :=
        enqueue_entries ctx tierId tier (attempt.map Prod.fst) joined.previous
      rw [← joined.same.queueEntries] at others
      obtain ⟨e, held, inShow, status⟩ := inStep.queue.called id call old (by
        rw [pending]
        decide)
      by_cases here : call.queueEntryId = entryId
      · -- Who joins has no open call: they are new, or have left.
        cases existing with
        | none =>
            rw [here, named] at held
            exact absurd held (by simp [Table.get_next])
        | some row =>
            obtain ⟨present, matched⟩ := Table.first_row joined.previous
            rw [here, named] at held
            obtain rfl := Option.some.inj (present.symm.trans held)
            have left := joined.gone row rfl
            simp only [Bool.and_eq_true, beq_iff_eq] at matched
            have live : LiveIn db.shows call.showId := by
              rw [← inShow, matched.1]
              exact showLive_iff.mp joined.live
            rw [status live, pending] at left
            cases left
      · rw [others _ here] at located
        exact called id call entry old pending located waiting
  · exact settled entry located waiting

theorem PendingCalled.reached {w : World} (reached : World.Reached w) : PendingCalled w.db := by
  refine (reached.induct (fun w => World.Reached w ∧ PendingCalled w.db) ?_ ?_).2
  · refine ⟨.refl _ _, ?_⟩
    intro id call entry found
    cases found
  · rintro w input ⟨reached, called⟩
    refine ⟨reached.step input, ?_⟩
    rcases World.step_ran w input with ⟨_, later, same⟩ | ⟨m, earlier, later, _, same⟩
    · rw [same]
      exact called
    · have inStep : InStep { w.db with scheduled := earlier } :=
        (InStep.unscheduled w.db earlier).mpr (InStep.reached reached)
      have before : PendingCalled { w.db with scheduled := earlier } := called
      have after := before.effect inStep (m.effect input.1 { w.db with scheduled := earlier })
      rw [same]
      exact after

/-! ### Entries that are closed -/

/-- The entries of an ended show that wait are closed by its chain alone. -/
theorem Effect.closed_by {ctx : Ctx} {db after : DB} {m : Mutation} (inStep : InStep db)
    (called : PendingCalled db) (effect : Effect ctx db m after) {id : EntryId}
    {entry b : QueueEntry} (present : db.queueEntries.get id = some entry)
    (ended : EndedIn db.shows entry.showId) (waiting : entry.status = .waiting)
    (found : after.queueEntries.get id = some b) (closed : b.status = .ended) :
    m = .closeQueue entry.showId := by
  have unchanged (same : after.queueEntries.get id = db.queueEntries.get id) : False := by
    rw [same, present] at found
    obtain rfl := Option.some.inj found
    rw [waiting] at closed
    cases closed
  cases effect with
  | moved callId call target shows located allowed asked isOver same =>
      have connectable := CallStatus.open_of_transition allowed
      have live := (inStep.shows.hosted callId call located).2 connectable
      obtain ⟨e, held, together, _⟩ :=
        inStep.queue.called callId call located (connectable_active connectable)
      by_cases here : id = call.queueEntryId
      · rw [here, held] at present
        obtain rfl := Option.some.inj present
        rw [← together] at live
        exact absurd live ended.unlive
      · refine (unchanged ?_).elim
        rw [same.queueEntries]
        exact Table.get_patch_of_ne here _ _
  | queueClosed showId queueEntries asked each same =>
      rw [same.queueEntries] at found
      rcases each id with still | ⟨e, there, removed, _, _⟩
      · exact (unchanged (by rw [same.queueEntries]; exact still)).elim
      · obtain rfl := Option.some.inj (present.symm.trans there)
        rw [asked] at removed ⊢
        rw [show showId = entry.showId by simpa [Mutation.removes] using removed]
  | joined viewerId args tierId tier existing attempt live host offered previous gone held paid
      same =>
      obtain ⟨entryId, mine, _, placed, _, _, _, _, _, status, others⟩ :=
        enqueue_entries ctx tierId tier (attempt.map Prod.fst) previous
      by_cases here : id = entryId
      · rw [same.queueEntries, here, placed] at found
        obtain rfl := Option.some.inj found
        rw [status] at closed
        cases closed
      · exact (unchanged (by rw [same.queueEntries]; exact others id here)).elim
  | left entryId e asked there isWaiting same =>
      by_cases here : id = entryId
      · rw [same.queueEntries, here] at found
        rw [Table.get_patch_self there] at found
        obtain rfl := Option.some.inj found
        cases closed
      · refine (unchanged ?_).elim
        rw [same.queueEntries]
        exact Table.get_patch_of_ne here _ _
  | selected showId hotline entryId e mode attempt asked host live idle there ofShow isWaiting held
      paid same =>
      by_cases here : id = entryId
      · rw [same.queueEntries, openCall_entries, here] at found
        rw [Table.get_patch_self there] at found
        obtain rfl := Option.some.inj found
        cases closed
      · refine (unchanged ?_).elim
        rw [same.queueEntries, openCall_entries]
        exact Table.get_patch_of_ne here _ _
  | callMissed attemptId attempt capturedAt method callId call asked there located unstarted isOver
      pending same =>
      by_cases here : id = call.queueEntryId
      · have isCall := (callForAttempt_present located).1
        exact absurd waiting (called callId call entry isCall pending (here ▸ present))
      · refine (unchanged ?_).elim
        rw [same.queueEntries]
        exact Table.get_patch_of_ne here _ _
  | notCaptured attemptId attempt status failureCode canceledAt calls queueEntries asked there
      uncaptured failed released same =>
      rcases released with ⟨still, _⟩ | ⟨entryId, e, _, located, _, isPatched⟩
      · exact (unchanged (by rw [same.queueEntries]; dsimp only; rw [still])).elim
      · by_cases here : id = entryId
        · rw [same.queueEntries] at found
          dsimp only at found
          rw [isPatched, here, Table.get_patch_self located] at found
          obtain rfl := Option.some.inj found
          cases closed
        · refine (unchanged ?_).elim
          rw [same.queueEntries]
          dsimp only
          rw [isPatched]
          exact Table.get_patch_of_ne here _ _
  | _ =>
      rename_i same
      exact (unchanged (by rw [same.queueEntries])).elim

theorem runAfter_queueEntries (db : DB) (now delay : Time) (job : Job) :
    (db.runAfter now delay job).queueEntries = db.queueEntries := rfl

theorem closeQueue_entries (ctx : Ctx) (db : DB) (showId : ShowId) :
    (closeQueue ctx db showId).queueEntries =
      (closeEntries ctx db showId closeBatch).1.queueEntries := by
  unfold closeQueue
  dsimp only
  split
  · rw [runAfter_queueEntries]
  · rfl

theorem closeQueue_scheduled {ctx : Ctx} {db : DB} {showId : ShowId} {row : Time × Job}
    (member : row ∈ (closeEntries ctx db showId closeBatch).1.scheduled) :
    row ∈ (closeQueue ctx db showId).scheduled := by
  unfold closeQueue
  dsimp only
  split
  · exact List.mem_append_left _ member
  · exact member

/-- An entry of an ended show that waits is closed only together with the
release of its hold. -/
theorem step_releases {w : World} (reached : World.Reached w) (input : Ctx × Op) {id : EntryId}
    {entry b : QueueEntry} {attemptId : AttemptId} {attempt : PaymentAttempt}
    (present : w.db.queueEntries.get id = some entry)
    (ended : EndedIn w.db.shows entry.showId) (waiting : entry.status = .waiting)
    (found : (w.step input).db.queueEntries.get id = some b) (closed : b.status = .ended)
    (pays : entry.paymentAttemptId = some attemptId)
    (held : w.db.paymentAttempts.get attemptId = some attempt) (releasable : attempt.releasable) :
    ReleaseScheduled input.1 (w.step input).db attemptId := by
  have changed : b ≠ entry := by
    rintro rfl
    rw [waiting] at closed
    cases closed
  rcases World.step_ran w input with ⟨_, later, same⟩ | ⟨m, earlier, later, ran, same⟩
  · rw [same] at found
    exact absurd (Option.some.inj (found.symm.trans present)) changed
  · have inStep : InStep { w.db with scheduled := earlier } :=
      (InStep.unscheduled w.db earlier).mpr (InStep.reached reached)
    have there : (m.apply input.1 { w.db with scheduled := earlier }).queueEntries.get id =
        some b := by
      rw [same] at found
      exact found
    obtain rfl := Effect.closed_by inStep (PendingCalled.reached reached)
      (m.effect input.1 { w.db with scheduled := earlier }) present ended waiting there closed
    obtain ⟨time, asked, member, due⟩ := Op.mutation_closeQueue ran
    have marked : runsBatch entry.showId w input = true := by
      simp [runsBatch, asked, isClosing, member, due]
    have step := runsBatch_step marked
    obtain ⟨jobs, unscheduled⟩ := World.started_same w input
    have batched := closeEntries_batched input.1 (w.started input) entry.showId closeBatch
    have released : ReleaseScheduled input.1
        (closeEntries input.1 (w.started input) entry.showId closeBatch).1 attemptId := by
      refine batched.released id entry attemptId attempt ?_ waiting ?_ pays ?_ releasable
      · rw [unscheduled]
        exact present
      · intro still
        rw [step, closeQueue_entries] at found
        exact changed (Option.some.inj (found.symm.trans still))
      · rw [unscheduled]
        exact held
    rw [step]
    exact closeQueue_scheduled released

/-! ### The whole run -/

theorem ended_run {w : World} {showId : ShowId} (ended : EndedIn w.db.shows showId)
    (inputs : List (Ctx × Op)) : EndedIn (run World.step w inputs).db.shows showId := by
  induction inputs generalizing w with
  | nil => exact ended
  | cons input rest ih => exact ih (ended.step input)

theorem queue_closes_run {w : World} (reached : World.Reached w) {showId : ShowId}
    (ended : EndedIn w.db.shows showId) (inputs : List (Ctx × Op)) :
    activeEntries (run World.step w inputs).db showId ⊆ activeEntries w.db showId := by
  induction inputs generalizing w with
  | nil => exact Finset.Subset.refl _
  | cons input rest ih =>
      have later := ih (reached.step input) (ended.step input)
      exact later.trans (step_queue_closes reached input ended)

/-- What becomes of an ended show from `w` on, along the run of `inputs`. -/
structure ClosesDown (showId : ShowId) (w : World) (inputs : List (Ctx × Op)) : Prop where
  bounded : countAlong World.step (runsBatch showId) w inputs ≤
    1 + (activeEntries w.db showId).card / closeBatch
  finishes : ∃ more, pendingCloses (run World.step w (inputs ++ more)).db showId = 0
  closed : pendingCloses (run World.step w inputs).db showId = 0 →
    ∀ later id entry, (run World.step w (inputs ++ later)).db.queueEntries.get id = some entry →
      entry.showId = showId → entry.status ∉ activeEntryStatuses
  uncalled : ∀ id call, (run World.step w inputs).db.calls.get id = some call →
    call.showId = showId → call.status ∉ connectableStatuses
  released : ∀ front input rest id entry b attemptId attempt, inputs = front ++ input :: rest →
    (run World.step w front).db.queueEntries.get id = some entry → entry.showId = showId →
    entry.status = .waiting →
    (run World.step w (front ++ [input])).db.queueEntries.get id = some b → b.status = .ended →
    entry.paymentAttemptId = some attemptId →
    (run World.step w front).db.paymentAttempts.get attemptId = some attempt →
    attempt.releasable →
    ReleaseScheduled input.1 (run World.step w (front ++ [input])).db attemptId

/-- Once a show has ended, its chain of batches terminates, and leaves no entry
or call of it open, now or later. -/
theorem show_closes (before after : List (Ctx × Op)) (showId : ShowId)
    (ended : EndedIn (run World.step World.empty before).db.shows showId) :
    ClosesDown showId (run World.step World.empty before) after := by
  have reached : World.Reached (run World.step World.empty before) := ⟨before, rfl⟩
  generalize run World.step World.empty before = w at ended reached
  have reachedAfter (inputs : List (Ctx × Op)) : World.Reached (run World.step w inputs) :=
    reached.run inputs
  constructor
  · let holds (w : World) : Prop := World.Reached w ∧ EndedIn w.db.shows showId
    have keeps (w : World) (input : Ctx × Op) (held : holds w) : holds (World.step w input) :=
      ⟨held.1.step input, held.2.step input⟩
    have within : countAlong World.step (runsBatch showId) w after +
        chainPotential showId (run World.step w after) ≤ chainPotential showId w :=
      countAlong_le (chainPotential showId) keeps
        (fun _ input holds => chainPotential_pays holds.1 holds.2 input) ⟨reached, ended⟩
    have one := (ChainSound.reached reached showId).one
    unfold chainPotential at within
    calc countAlong World.step (runsBatch showId) w after
        ≤ pendingCloses w.db showId + (activeEntries w.db showId).card / closeBatch :=
          (Nat.le_add_right _ _).trans within
      _ ≤ 1 + (activeEntries w.db showId).card / closeBatch := Nat.add_le_add_right one _
  · obtain ⟨more, finished⟩ := chain_finishes showId (reachedAfter after) (ended_run ended after)
    refine ⟨more, ?_⟩
    rw [run_append]
    exact finished
  · intro finished later id entry found inShow active
    have isOver := ended_run ended after
    have empty : activeEntries (run World.step w after).db showId = ∅ := by
      by_contra some
      have owed := (ChainSound.reached (reachedAfter after) showId).owed isOver
        (Finset.nonempty_iff_ne_empty.mpr some)
      omega
    have fewer := queue_closes_run (reachedAfter after) isOver later
    rw [run_append] at found
    have isActive := fewer (mem_activeEntries.mpr ⟨entry, found, inShow, active⟩)
    rw [empty] at isActive
    exact absurd isActive (Finset.notMem_empty id)
  · intro id call found inShow connectable
    have live := ((InStep.reached (reachedAfter after)).shows.hosted id call found).2 connectable
    rw [inShow] at live
    exact (ended_run ended after).unlive live
  · intro front input rest id entry b attemptId attempt split found inShow waiting there closed
      pays held releasable
    have isOver : EndedIn (run World.step w front).db.shows entry.showId := by
      rw [inShow]
      exact ended_run ended front
    rw [run_append] at there ⊢
    exact step_releases (reachedAfter front) input found isOver waiting there closed pays held
      releasable

open World in
set_option maxRecDepth 20000 in
theorem show_closes_sampled : ClosesDown 0
    (run step World.empty (sampled (preparing ++ confirming ++ waiting ++
      [.request (.endShow (some 0) 0)]))) (sampled [.runJob 5 (.closeQueue 0)]) := by
  refine show_closes _ (sampled [.runJob 5 (.closeQueue 0)]) 0 ?_
  have ended : ((run step World.empty (sampled (preparing ++ confirming ++ waiting ++
      [.request (.endShow (some 0) 0)]))).db.shows.get 0).any (·.status == .ended) = true := by
    decide
  obtain ⟨hotline, found, status⟩ := Option.any_eq_true _ _ |>.mp ended
  exact ⟨hotline, found, by simpa using status⟩

end Bling
