import Bling.InStep

set_option autoImplicit false

namespace Bling

open Library

/-! The queue of a live show follows its calls. -/

/-- An entry that is with the creator, or about to be. -/
def onStage : List QueueStatus := [.selected, .connecting, .live]

/-- The status of the entry whose call is active. -/
def CallStatus.ofEntry : CallStatus → QueueStatus
  | .paymentPending => .selected
  | .created => .selected
  | .connecting => .connecting
  | .live => .live
  | .ended => .ended
  | .failed => .ended

theorem CallStatus.ofEntry_onStage {status : CallStatus} (active : status ∈ activeCallStatuses) :
    status.ofEntry ∈ onStage := by
  cases status <;> simp_all [activeCallStatuses, CallStatus.ofEntry, onStage]

structure QueueInStep (shows : Table Show) (calls : Table Call) (entries : Table QueueEntry) :
    Prop where
  placed : ∀ id entry, entries.get id = some entry → BegunIn shows entry.showId
  seat : ∀ i j a b, entries.get i = some a → entries.get j = some b → a.showId = b.showId →
    a.viewerId = b.viewerId → i = j
  called : ∀ id call, calls.get id = some call → call.status ∈ activeCallStatuses →
    ∃ entry, entries.get call.queueEntryId = some entry ∧ entry.showId = call.showId ∧
      (LiveIn shows call.showId → entry.status = call.status.ofEntry)
  served : ∀ id entry, entries.get id = some entry → LiveIn shows entry.showId →
    entry.status ∈ onStage → ∃ callId call, calls.get callId = some call ∧
      call.status ∈ activeCallStatuses ∧ call.queueEntryId = id

theorem QueueInStep.empty : QueueInStep .empty .empty .empty := by
  constructor
  · intro id entry found
    cases found
  · intro i j a b found
    cases found
  · intro id call found
    cases found
  · intro id entry found
    cases found

section Queue

variable {shows : Table Show} {calls : Table Call} {entries after : Table QueueEntry}

/-- Entries keep their places while nobody joins. -/
theorem QueueInStep.placed_of (queue : QueueInStep shows calls entries)
    (seats : SameSeats entries after) (id : EntryId) (entry : QueueEntry)
    (found : after.get id = some entry) : BegunIn shows entry.showId := by
  rcases seats.origin id entry found with ⟨before, present, seat⟩ | ⟨_, none⟩
  · rw [seat.showId]
    exact queue.placed id before present
  · exact none.elim

theorem QueueInStep.seat_of (queue : QueueInStep shows calls entries)
    (seats : SameSeats entries after) (i j : EntryId) (a b : QueueEntry)
    (first : after.get i = some a) (second : after.get j = some b) (together : a.showId = b.showId)
    (same : a.viewerId = b.viewerId) : i = j := by
  rcases seats.origin i a first with ⟨x, oldFirst, left⟩ | ⟨_, none⟩
  · rcases seats.origin j b second with ⟨y, oldSecond, right⟩ | ⟨_, none⟩
    · refine queue.seat i j x y oldFirst oldSecond ?_ ?_
      · rw [← left.showId, together, right.showId]
      · rw [← left.viewerId, same, right.viewerId]
    · exact none.elim
  · exact none.elim

/-- An active call moves on, and takes its entry with it. -/
theorem QueueInStep.moveCall (queue : QueueInStep shows calls entries)
    (inStep : ShowsInStep shows calls) {callId : CallId} {call : Call} {moved : Call → Call}
    {called : QueueEntry → QueueEntry} (present : calls.get callId = some call)
    (active : call.status ∈ activeCallStatuses)
    (sameShow : (moved call).showId = call.showId)
    (sameEntry : (moved call).queueEntryId = call.queueEntryId)
    (seat : ∀ e, SameSeat e (called e))
    (follows : ∀ e, entries.get call.queueEntryId = some e → LiveIn shows call.showId →
      (moved call).status ∈ activeCallStatuses → (called e).status = (moved call).status.ofEntry)
    (leaves : ∀ e, entries.get call.queueEntryId = some e → LiveIn shows call.showId →
      (called e).status ∈ onStage → (moved call).status ∈ activeCallStatuses) :
    QueueInStep shows (calls.patch callId moved) (entries.patch call.queueEntryId called) := by
  have seats : SameSeats entries (entries.patch call.queueEntryId called) :=
    .patch (fun _ => .refl) fun e _ => seat e
  obtain ⟨entry, held, inShow, _⟩ := queue.called callId call present active
  refine ⟨queue.placed_of seats, queue.seat_of seats, ?_, ?_⟩
  · intro id c found isActive
    rcases Table.get_patch_row present found with ⟨_, rfl⟩ | ⟨apart, old⟩
    · refine ⟨called entry, ?_, ?_, ?_⟩
      · rw [sameEntry]
        exact Table.get_patch_self held called
      · rw [(seat entry).showId, inShow, sameShow]
      · rw [sameShow]
        exact fun live => follows entry held live isActive
    · obtain ⟨e, located, together, status⟩ := queue.called id c old isActive
      refine ⟨e, ?_, together, status⟩
      -- The show has no other active call, so another call has another entry.
      rw [Table.get_patch_of_ne]
      · exact located
      · intro shared
        rw [shared, held] at located
        obtain rfl := Option.some.inj located
        exact apart (inStep.single id callId c call old present isActive active
          (together.symm.trans inShow))
  · intro id e found live isOn
    rcases Table.get_patch_row held found with ⟨rfl, rfl⟩ | ⟨apart, old⟩
    · rw [(seat entry).showId, inShow] at live
      exact ⟨callId, moved call, Table.get_patch_self present moved,
        leaves entry held live isOn, sameEntry⟩
    · obtain ⟨otherId, other, located, isActive, same⟩ := queue.served id e old live isOn
      refine ⟨otherId, other, ?_, isActive, same⟩
      rw [Table.get_patch_of_ne]
      · exact located
      · rintro rfl
        rw [present] at located
        obtain rfl := Option.some.inj located
        exact apart same.symm

/-- Entries change that are not on stage, or whose show is over. -/
theorem QueueInStep.patchEntries (queue : QueueInStep shows calls entries)
    (placed : ∀ id entry, after.get id = some entry → BegunIn shows entry.showId)
    (seat : ∀ i j a b, after.get i = some a → after.get j = some b → a.showId = b.showId →
      a.viewerId = b.viewerId → i = j)
    (kept : ∀ id entry, entries.get id = some entry → ∃ e, after.get id = some e ∧
      e.showId = entry.showId ∧ (LiveIn shows entry.showId → entry.status ∈ onStage → e = entry))
    (origin : ∀ id e, after.get id = some e → LiveIn shows e.showId → e.status ∈ onStage →
      entries.get id = some e) : QueueInStep shows calls after := by
  refine ⟨placed, seat, ?_, ?_⟩
  · intro id call found active
    obtain ⟨entry, located, inShow, status⟩ := queue.called id call found active
    obtain ⟨e, there, together, same⟩ := kept _ entry located
    refine ⟨e, there, together.trans inShow, ?_⟩
    intro live
    have called := status live
    rw [same (inShow ▸ live) (called ▸ CallStatus.ofEntry_onStage active)]
    exact called
  · intro id e found live isOn
    exact queue.served id e (origin id e found live isOn) live isOn

/-- An entry changes that is not on stage before or after. -/
theorem QueueInStep.patchEntry (queue : QueueInStep shows calls entries) {entryId : EntryId}
    {entry : QueueEntry} {moved : QueueEntry → QueueEntry}
    (present : entries.get entryId = some entry) (off : entry.status ∉ onStage)
    (seat : ∀ e, SameSeat e (moved e)) (still : (moved entry).status ∉ onStage) :
    QueueInStep shows calls (entries.patch entryId moved) := by
  have seats : SameSeats entries (entries.patch entryId moved) :=
    .patch (fun _ => .refl) fun e _ => seat e
  refine queue.patchEntries (queue.placed_of seats) (queue.seat_of seats) ?_ ?_
  · intro id e found
    by_cases here : id = entryId
    · rw [here, present] at found
      obtain rfl := Option.some.inj found
      refine ⟨moved entry, here ▸ Table.get_patch_self present moved, (seat entry).showId, ?_⟩
      exact fun _ isOn => absurd isOn off
    · exact ⟨e, (Table.get_patch_of_ne here _ _).trans found, rfl, fun _ _ => rfl⟩
  · intro id e found _ isOn
    rcases Table.get_patch_row present found with ⟨_, rfl⟩ | ⟨_, old⟩
    · exact absurd isOn still
    · exact old

/-- Whatever becomes of the shows, those that have begun have begun, and none of
them is live again. -/
theorem QueueInStep.reshow {others : Table Show} (queue : QueueInStep shows calls entries)
    (hosted : ∀ id call, calls.get id = some call → BegunIn shows call.showId)
    (begun : ∀ showId, BegunIn shows showId → BegunIn others showId)
    (live : ∀ showId, BegunIn shows showId → LiveIn others showId → LiveIn shows showId) :
    QueueInStep others calls entries := by
  refine ⟨?_, queue.seat, ?_, ?_⟩
  · intro id entry found
    exact begun _ (queue.placed id entry found)
  · intro id call found active
    obtain ⟨entry, located, inShow, status⟩ := queue.called id call found active
    refine ⟨entry, located, inShow, ?_⟩
    intro isLive
    exact status (live _ (hosted id call found) isLive)
  · intro id entry found isLive
    exact queue.served id entry found (live _ (queue.placed id entry found) isLive)

theorem QueueInStep.endShow (queue : QueueInStep shows calls entries) {showId : ShowId}
    {hotline : Show} {isOver : Show → Show}
    (hosted : ∀ id call, calls.get id = some call → BegunIn shows call.showId)
    (present : shows.get showId = some hotline) (ended : (isOver hotline).status = .ended) :
    QueueInStep (shows.patch showId isOver) calls entries := by
  refine queue.reshow hosted ?_ ?_
  · rintro other ⟨s, located, begun⟩
    by_cases here : other = showId
    · refine ⟨isOver hotline, here ▸ Table.get_patch_self present isOver, ?_⟩
      rw [ended]
      decide
    · exact ⟨s, (Table.get_patch_of_ne here _ _).trans located, begun⟩
  · rintro other _ ⟨s, located, live⟩
    rcases Table.get_patch_row present located with ⟨_, rfl⟩ | ⟨_, old⟩
    · rw [ended] at live
      cases live
    · exact ⟨s, old, live⟩

/-- An active call moves on, but its entry stays as it is. -/
theorem QueueInStep.moveOnly (queue : QueueInStep shows calls entries)
    (inStep : ShowsInStep shows calls) {callId : CallId} {call : Call} {moved : Call → Call}
    (present : calls.get callId = some call) (active : call.status ∈ activeCallStatuses)
    (sameShow : (moved call).showId = call.showId)
    (sameEntry : (moved call).queueEntryId = call.queueEntryId)
    (follows : (moved call).status ∈ activeCallStatuses →
      call.status.ofEntry = (moved call).status.ofEntry)
    (leaves : LiveIn shows call.showId → (moved call).status ∈ activeCallStatuses) :
    QueueInStep shows (calls.patch callId moved) entries := by
  have unchanged : entries.patch call.queueEntryId (fun e => e) = entries :=
    Table.patch_eq_self fun _ _ => rfl
  rw [← unchanged]
  refine queue.moveCall inStep present active sameShow sameEntry (fun e => .refl e) ?_ ?_
  · intro e held live isActive
    obtain ⟨entry, located, _, status⟩ := queue.called callId call present active
    obtain rfl := Option.some.inj (held.symm.trans located)
    exact (status live).trans (follows isActive)
  · exact fun e _ live _ => leaves live

/-- A waiting entry is called. -/
theorem QueueInStep.openCall (queue : QueueInStep shows calls entries) {entryId : EntryId}
    {entry : QueueEntry} {call : Call} {called : QueueEntry → QueueEntry}
    (present : entries.get entryId = some entry) (off : entry.status ∉ onStage)
    (seat : ∀ e, SameSeat e (called e)) (selected : (called entry).status = .selected)
    (live : LiveIn shows entry.showId) (inShow : call.showId = entry.showId)
    (forEntry : call.queueEntryId = entryId)
    (opens : call.status = .paymentPending ∨ call.status = .created) :
    QueueInStep shows (calls.insert call) (entries.patch entryId called) := by
  have seats : SameSeats entries (entries.patch entryId called) :=
    .patch (fun _ => .refl) fun e _ => seat e
  have active : call.status ∈ activeCallStatuses := by
    rcases opens with is | is <;> simp [is, activeCallStatuses]
  refine ⟨queue.placed_of seats, queue.seat_of seats, ?_, ?_⟩
  · intro id c found isActive
    rcases Table.get_insert_row found with ⟨_, rfl⟩ | old
    · refine ⟨called entry, forEntry ▸ Table.get_patch_self present called, ?_, ?_⟩
      · rw [(seat entry).showId, inShow]
      · intro _
        rw [selected]
        rcases opens with is | is <;> rw [is] <;> rfl
    · obtain ⟨e, located, together, status⟩ := queue.called id c old isActive
      refine ⟨e, ?_, together, status⟩
      rw [Table.get_patch_of_ne]
      · exact located
      · intro shared
        rw [shared, present] at located
        obtain rfl := Option.some.inj located
        have called := status (together ▸ live)
        exact off (called ▸ CallStatus.ofEntry_onStage isActive)
  · intro id e found isLive isOn
    rcases Table.get_patch_row present found with ⟨rfl, rfl⟩ | ⟨_, old⟩
    · exact ⟨calls.next, call, Table.get_insert_next _ _, active, forEntry⟩
    · obtain ⟨callId, c, located, isActive, same⟩ := queue.served id e old isLive isOn
      exact ⟨callId, c, Table.get_insert_of_some located _, isActive, same⟩

/-- A draft is added. -/
theorem QueueInStep.addShow (queue : QueueInStep shows calls entries) {hotline : Show}
    (hosted : ∀ id call, calls.get id = some call → BegunIn shows call.showId)
    (created : hotline.status = .created) : QueueInStep (shows.insert hotline) calls entries := by
  refine queue.reshow hosted ?_ ?_
  · rintro showId ⟨s, present, begun⟩
    exact ⟨s, Table.get_insert_of_some present _, begun⟩
  · rintro showId _ ⟨s, present, live⟩
    rcases Table.get_insert_row present with ⟨_, rfl⟩ | old
    · rw [created] at live
      cases live
    · exact ⟨s, old, live⟩

/-- A draft has no calls or entries, whatever becomes of it. -/
theorem QueueInStep.startShow (queue : QueueInStep shows calls entries) {showId : ShowId}
    {hotline : Show} {started : Show → Show}
    (hosted : ∀ id call, calls.get id = some call → BegunIn shows call.showId)
    (present : shows.get showId = some hotline) (created : hotline.status = .created) :
    QueueInStep (shows.patch showId started) calls entries := by
  have others {other : ShowId} (begun : BegunIn shows other) : other ≠ showId := by
    rintro rfl
    obtain ⟨s, located, status⟩ := begun
    rw [present] at located
    exact status (Option.some.inj located ▸ created)
  refine queue.reshow hosted ?_ ?_
  · intro other begun
    have apart := others begun
    obtain ⟨s, located, status⟩ := begun
    exact ⟨s, (Table.get_patch_of_ne apart _ _).trans located, status⟩
  · rintro other begun ⟨s, located, live⟩
    exact ⟨s, (Table.get_patch_of_ne (others begun) _ _).symm.trans located, live⟩

/-- A call and its entry make an allowed transition. -/
theorem QueueInStep.transition (queue : QueueInStep shows calls entries)
    (inStep : ShowsInStep shows calls) (ctx : Ctx) {callId : CallId} {call : Call}
    {target : CallStatus} (present : calls.get callId = some call)
    (allowed : canTransition call.status target = true) :
    QueueInStep shows (calls.patch callId (transitionPatch ctx target))
      (entries.patch call.queueEntryId fun e => { e with status := entryStatusFor target }) := by
  have connectable := CallStatus.open_of_transition allowed
  refine queue.moveCall inStep present (connectable_active connectable) rfl rfl
    (fun _ => ⟨rfl, rfl, rfl, rfl, rfl, rfl⟩) ?_ ?_
  · intro e _ _ active
    obtain ⟨_, notPending, notCreated, _⟩ := canTransition_target allowed
    cases target <;> first | rfl | contradiction
  · intro e _ _ isOn
    cases target <;>
      simp_all [entryStatusFor, onStage, transitionPatch, activeCallStatuses]

/-- Entries of a show that isn't live are closed. -/
theorem QueueInStep.closeQueue (queue : QueueInStep shows calls entries) (ctx : Ctx)
    {others : Table QueueEntry} (closed : ∀ id, others.get id = entries.get id ∨
      ∃ entry, entries.get id = some entry ∧ ¬ LiveIn shows entry.showId ∧
        others.get id = some (closedPatch ctx entry)) : QueueInStep shows calls others := by
  have seats : SameSeats entries others := by
    constructor
    · intro id entry found
      rcases closed id with unchanged | ⟨other, present, _, isClosed⟩
      · exact ⟨entry, unchanged.trans found, .refl entry⟩
      · obtain rfl := Option.some.inj (found.symm.trans present)
        exact ⟨_, isClosed, rfl, rfl, rfl, rfl, rfl, rfl⟩
    · intro id entry found
      rcases closed id with unchanged | ⟨other, present, _, isClosed⟩
      · exact Or.inl ⟨entry, unchanged.symm.trans found, .refl entry⟩
      · obtain rfl := Option.some.inj (isClosed.symm.trans found)
        exact Or.inl ⟨other, present, rfl, rfl, rfl, rfl, rfl, rfl⟩
  refine queue.patchEntries (queue.placed_of seats) (queue.seat_of seats) ?_ ?_
  · intro id entry found
    rcases closed id with unchanged | ⟨other, present, ended, isClosed⟩
    · exact ⟨entry, unchanged.trans found, rfl, fun _ _ => rfl⟩
    · obtain rfl := Option.some.inj (found.symm.trans present)
      exact ⟨_, isClosed, rfl, fun live => absurd live ended⟩
  · intro id e found live _
    rcases closed id with unchanged | ⟨other, present, ended, isClosed⟩
    · exact unchanged.symm.trans found
    · obtain rfl := Option.some.inj (isClosed.symm.trans found)
      exact absurd live ended

/-- A waiting entry is released. -/
theorem QueueInStep.release (queue : QueueInStep shows calls entries) (ctx : Ctx)
    {entryId : EntryId} {entry : QueueEntry} (present : entries.get entryId = some entry)
    (waiting : entry.status = .waiting) :
    QueueInStep shows calls (entries.patch entryId (releasedPatch ctx)) := by
  refine queue.patchEntry present ?_ (fun _ => ⟨rfl, rfl, rfl, rfl, rfl, rfl⟩) ?_ <;>
    simp [waiting, onStage, releasedPatch]

end Queue

/-- A caller joins: their one row is not on stage before, and waits afterwards. -/
theorem QueueInStep.join {ctx : Ctx} {db after : DB} {viewerId : UserId} {args : JoinArgs}
    {tierId : TierId} {tier : ShowTier} {existing : Option (EntryId × QueueEntry)}
    {attempt : Option (AttemptId × PaymentAttempt)}
    (queue : QueueInStep db.shows db.calls db.queueEntries)
    (joined : Joined ctx db after viewerId args tierId tier existing attempt) :
    QueueInStep db.shows db.calls after.queueEntries := by
  obtain ⟨entryId, entry, named, present, inShow, ofViewer, _, _, _, waiting, others⟩ :=
    enqueue_entries ctx tierId tier (attempt.map Prod.fst) joined.previous
  rw [← joined.same.queueEntries] at present others
  -- The caller had no row in this show but the one that is patched.
  have own (id : EntryId) (e : QueueEntry) (found : db.queueEntries.get id = some e)
      (sameShow : e.showId = args.showId) (sameViewer : e.viewerId = viewerId) : id = entryId := by
    have previous := joined.previous
    unfold entryForViewer at previous
    cases existing with
    | none =>
        have unmatched := Table.first_none previous found
        simp [sameShow, sameViewer] at unmatched
    | some row =>
        obtain ⟨located, matched⟩ := Table.first_row previous
        simp only [Bool.and_eq_true, beq_iff_eq] at matched
        rw [named, Option.map_some, Option.getD_some]
        exact queue.seat id row.1 e row.2 found located (sameShow.trans matched.1.symm)
          (sameViewer.trans matched.2.symm)
  have before (e : QueueEntry) (found : db.queueEntries.get entryId = some e) :
      e.showId = args.showId ∧ e.status = .left := by
    have previous := joined.previous
    unfold entryForViewer at previous
    cases existing with
    | none =>
        rw [Option.map_none, Option.getD_none] at named
        exact absurd named (Table.ne_next found)
    | some row =>
        obtain ⟨located, matched⟩ := Table.first_row previous
        simp only [Bool.and_eq_true, beq_iff_eq] at matched
        rw [Option.map_some, Option.getD_some] at named
        rw [named, located] at found
        obtain rfl := Option.some.inj found
        exact ⟨matched.1, joined.gone row rfl⟩
  have live := showLive_iff.mp joined.live
  refine queue.patchEntries ?_ ?_ ?_ ?_
  · intro id e found
    by_cases here : id = entryId
    · rw [here, present] at found
      obtain rfl := Option.some.inj found
      exact inShow ▸ live.begun
    · rw [others id here] at found
      exact queue.placed id e found
  · intro i j a b first second together same
    by_cases atFirst : i = entryId <;> by_cases atSecond : j = entryId
    · exact atFirst.trans atSecond.symm
    · rw [atFirst, present] at first
      obtain rfl := Option.some.inj first
      rw [others j atSecond] at second
      exact absurd (own j b second (together.symm.trans inShow) (same.symm.trans ofViewer)) atSecond
    · rw [atSecond, present] at second
      obtain rfl := Option.some.inj second
      rw [others i atFirst] at first
      exact absurd (own i a first (together.trans inShow) (same.trans ofViewer)) atFirst
    · rw [others i atFirst] at first
      rw [others j atSecond] at second
      exact queue.seat i j a b first second together same
  · intro id e found
    by_cases here : id = entryId
    · rw [here] at found ⊢
      obtain ⟨sameShow, left⟩ := before e found
      refine ⟨entry, present, inShow.trans sameShow.symm, ?_⟩
      intro _ isOn
      simp [left, onStage] at isOn
    · exact ⟨e, (others id here).trans found, rfl, fun _ _ => rfl⟩
  · intro id e found _ isOn
    by_cases here : id = entryId
    · rw [here, present] at found
      obtain rfl := Option.some.inj found
      simp [waiting, onStage] at isOn
    · exact (others id here).symm.trans found

theorem pending_active {call : Call} (pending : call.status = .paymentPending) :
    call.status ∈ activeCallStatuses := by
  rw [pending]
  decide

/-- A hold that isn't captured: the call that waits for it fails, and its entry leaves the stage. -/
theorem QueueInStep.notCaptured {ctx : Ctx} {db : DB} {calls : Table Call}
    {entries : Table QueueEntry} {attemptId : AttemptId} {attempt : PaymentAttempt}
    (queue : QueueInStep db.shows db.calls db.queueEntries)
    (inStep : ShowsInStep db.shows db.calls) (seats : CallsSeated db.calls db.paymentAttempts)
    (present : db.paymentAttempts.get attemptId = some attempt)
    (failed : (calls = db.calls ∧ ∀ callId call,
        callForAttempt db attemptId = some (callId, call) → call.status ≠ .paymentPending) ∨
      ∃ callId call, callForAttempt db attemptId = some (callId, call) ∧
        call.status = .paymentPending ∧ calls = db.calls.patch callId (failedPatch ctx))
    (released : (entries = db.queueEntries ∧ ∀ entryId entry,
        attempt.queueEntryId = some entryId → db.queueEntries.get entryId = some entry →
        entry.status ≠ .waiting ∧ (entry.status = .selected → ∀ callId call,
          callForAttempt db attemptId = some (callId, call) → call.status ≠ .paymentPending)) ∨
      ∃ entryId entry,
      attempt.queueEntryId = some entryId ∧ db.queueEntries.get entryId = some entry ∧
        (entry.status = .waiting ∨ entry.status = .selected ∧ ∃ callId call,
          callForAttempt db attemptId = some (callId, call) ∧ call.status = .paymentPending) ∧
        entries = db.queueEntries.patch entryId (releasedPatch ctx)) :
    QueueInStep db.shows calls entries := by
  rcases failed with ⟨sameCalls, settled⟩ | ⟨callId, call, found, pending, patched⟩
  · rw [sameCalls]
    rcases released with ⟨sameEntries, _⟩ | ⟨id, entry, _, located, waits, patched⟩
    · rw [sameEntries]
      exact queue
    · rw [patched]
      refine queue.release ctx located ?_
      rcases waits with waiting | ⟨_, callId, call, found, pending⟩
      · exact waiting
      · exact absurd pending (settled callId call found)
  · -- The attempt points to the entry of the call it pays for.
    obtain ⟨there, pays⟩ := callForAttempt_present found
    obtain ⟨a, held, pointer⟩ := seats callId call attemptId there pays
    obtain rfl := Option.some.inj (present.symm.trans held)
    rw [patched]
    rcases released with ⟨sameEntries, unreleased⟩ | ⟨id, entry, named, _, _, let_⟩
    · rw [sameEntries]
      refine queue.moveOnly inStep there (pending_active pending) rfl rfl ?_ ?_
      · intro active
        simp [failedPatch, activeCallStatuses] at active
      · intro live
        obtain ⟨e, located, _, status⟩ := queue.called callId call there (pending_active pending)
        have selected := status live
        rw [pending] at selected
        exact absurd pending ((unreleased _ e pointer located).2 selected callId call found)
    · rw [let_, ← Option.some.inj (pointer.symm.trans named)]
      refine queue.moveCall inStep there (pending_active pending) rfl rfl
        (fun _ => ⟨rfl, rfl, rfl, rfl, rfl, rfl⟩) ?_ ?_ <;>
        simp [failedPatch, releasedPatch, activeCallStatuses, onStage]

/-- The queue of a show that closes is not that of a live show. -/
def ClosesOver (db : DB) (m : Mutation) : Prop :=
  ∀ showId, m = .closeQueue showId → showLive db showId = false

theorem QueueInStep.effect {ctx : Ctx} {db after : DB} {m : Mutation}
    (queue : QueueInStep db.shows db.calls db.queueEntries)
    (inStep : ShowsInStep db.shows db.calls) (seats : CallsSeated db.calls db.paymentAttempts)
    (closes : ClosesOver db m) (effect : Effect ctx db m after) :
    QueueInStep after.shows after.calls after.queueEntries := by
  have hosted (id : CallId) (call : Call) (found : db.calls.get id = some call) :=
    (inStep.hosted id call found).1
  cases effect with
  | showAdded hotline tier created free same =>
      rw [same.shows, same.calls, same.queueEntries]
      dsimp only
      exact queue.addShow hosted created
  | showStarted showId hotline present created alone same =>
      rw [same.shows, same.calls, same.queueEntries]
      dsimp only
      exact queue.startShow hosted present created
  | showEnded showId hotline asked present live idle same =>
      rw [same.shows, same.calls, same.queueEntries]
      dsimp only
      exact queue.endShow hosted present rfl
  | moved callId call target shows present allowed asked isOver same =>
      rw [same.shows, same.calls, same.queueEntries]
      dsimp only
      have moved := queue.transition inStep ctx present allowed
      rcases isOver with unchanged | ⟨_, showId, hotline, _, host, _, _, patched⟩
      · rw [unchanged]
        exact moved
      · rw [patched]
        refine moved.endShow ?_ host rfl
        intro id c found
        rcases Table.get_patch_row present found with ⟨_, rfl⟩ | ⟨_, old⟩
        · exact hosted callId call present
        · exact hosted id c old
  | queueClosed showId entries asked each same =>
      have isOver : ¬ LiveIn db.shows showId := by
        rw [← showLive_iff, closes showId asked]
        decide
      rw [same.shows, same.calls, same.queueEntries]
      dsimp only
      refine queue.closeQueue ctx fun id => (each id).imp_right ?_
      rintro ⟨entry, present, removed, _, isClosed⟩
      rw [asked] at removed
      have inShow : showId = entry.showId := by simpa [Mutation.removes] using removed
      exact ⟨entry, present, inShow ▸ isOver, isClosed⟩
  | joined viewerId args tierId tier existing attempt live found offered previous gone held paid
      same =>
      rw [same.shows, same.calls]
      exact queue.join ⟨live, found, offered.1, previous, gone, held, paid, same⟩
  | left entryId entry asked present waiting same =>
      rw [same.shows, same.calls, same.queueEntries]
      exact queue.release ctx present waiting
  | selected showId hotline entryId entry mode attempt asked host live idle present inShow waiting
      held paid same =>
      have shows : after.shows = db.shows := by
        rw [same.shows]
        cases attempt <;> rfl
      rw [shows, same.calls, openCall_calls, same.queueEntries, openCall_entries]
      refine queue.openCall present ?_ (fun _ => ⟨rfl, rfl, rfl, rfl, rfl, rfl⟩) rfl
        ⟨hotline, inShow ▸ host, live⟩ inShow.symm rfl ?_
      · simp [waiting, onStage]
      · dsimp only
        split
        · exact Or.inl rfl
        · exact Or.inr rfl
  | callOpened attemptId attempt capturedAt method callId call asked present found pending live
      same =>
      have located := (callForAttempt_present found).1
      rw [same.shows, same.calls, same.queueEntries]
      dsimp only
      refine queue.moveOnly inStep located (pending_active pending) rfl rfl ?_ ?_
      · rw [pending]
        exact fun _ => rfl
      · exact fun _ => List.mem_cons_of_mem _ List.mem_cons_self
  | callMissed attemptId attempt capturedAt method callId call asked present found unstarted isOver
      pending same =>
      rw [same.shows, same.calls, same.queueEntries]
      dsimp only
      refine queue.moveCall inStep (callForAttempt_present found).1 (pending_active pending) rfl rfl
        (fun _ => ⟨rfl, rfl, rfl, rfl, rfl, rfl⟩) ?_ ?_ <;>
        simp [failedPatch, activeCallStatuses, onStage]
  | notCaptured attemptId attempt status failureCode canceledAt calls entries asked present
      uncaptured failed released same =>
      rw [same.shows, same.calls, same.queueEntries]
      exact queue.notCaptured inStep seats present failed released
  | _ =>
      rename_i same
      rw [same.shows, same.calls, same.queueEntries]
      exact queue

end Bling
