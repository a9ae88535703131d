import Bling.Intents

set_option autoImplicit false

namespace Bling

open Library

/-! What the end of an attempt does to the queue. An attempt keeps pointing to
the entry it once paid for, and the report of its end looks at that entry
without asking which attempt holds it now. -/

/-- Entries that another attempt holds, or none, are as they were. -/
def OthersKept (attemptId : AttemptId) (before after : Table QueueEntry) : Prop :=
  ∀ id entry, before.get id = some entry → entry.paymentAttemptId ≠ some attemptId →
    after.get id = some entry

/-- The entry the attempt points to is held by another, and waits. -/
def disturbs (db : DB) (attemptId : AttemptId) (attempt : PaymentAttempt) : Bool :=
  attempt.status != .captured &&
    (attempt.queueEntryId.bind db.queueEntries.get).any fun entry =>
      entry.paymentAttemptId != some attemptId &&
        (entry.status == .waiting || entry.status == .selected && waitsForCapture db attemptId)

theorem disturbs_iff {db : DB} {attemptId : AttemptId} {attempt : PaymentAttempt} :
    disturbs db attemptId attempt = true ↔ attempt.status ≠ .captured ∧ ∃ id entry,
      releasedEntry db.queueEntries attempt.queueEntryId (waitsForCapture db attemptId) =
        some (id, entry) ∧ entry.paymentAttemptId ≠ some attemptId := by
  simp only [disturbs, releasedEntry_some, Bool.and_eq_true, bne_iff_ne, Option.any_eq_true,
    Option.bind_eq_some_iff, Bool.or_eq_true, beq_iff_eq]
  refine and_congr_right fun _ => ?_
  constructor
  · rintro ⟨entry, ⟨id, pointer, found⟩, other, waits⟩
    exact ⟨id, entry, ⟨pointer, found, waits⟩, other⟩
  · rintro ⟨id, entry, ⟨pointer, found, waits⟩, other⟩
    exact ⟨entry, ⟨id, pointer, found⟩, other, waits⟩

/-- The report of an attempt's end leaves the others' entries alone exactly
when it disturbs none. -/
theorem recordNotCaptured_frame (ctx : Ctx) (db : DB) (attemptId : AttemptId)
    (attempt : PaymentAttempt) (status : NotCaptured) (failureCode : Option String) :
    OthersKept attemptId db.queueEntries
        (recordNotCaptured ctx db attemptId attempt status failureCode).queueEntries ↔
      disturbs db attemptId attempt = false := by
  rw [← Bool.not_eq_true, disturbs_iff]
  by_cases isCaptured : attempt.status = .captured
  · rw [recordNotCaptured, if_pos isCaptured]
    exact ⟨fun _ disturbed => disturbed.1 isCaptured, fun _ _ _ found _ => found⟩
  · rw [recordNotCaptured_eq ctx db attemptId attempt status failureCode isCaptured]
    dsimp only [entriesAfterRelease]
    cases released : releasedEntry db.queueEntries attempt.queueEntryId
        (waitsForCapture db attemptId) with
    | none =>
        refine ⟨?_, fun _ id entry found _ => found⟩
        rintro _ ⟨_, id, entry, found, _⟩
        cases found
    | some row =>
        obtain ⟨pointer, found, waits⟩ := releasedEntry_some.mp released
        constructor
        · rintro kept ⟨_, id, entry, same, other⟩
          obtain rfl := Option.some.inj same
          have left := kept id entry found other
          rw [Table.get_patch_self found] at left
          rw [← Option.some.inj left] at waits
          simp [releasedPatch] at waits
        · intro spared id entry held other
          rw [Table.get_patch]
          split
          · rename_i here
            subst here
            obtain rfl := Option.some.inj (held.symm.trans found)
            exact absurd ⟨isCaptured, row.1, row.2, rfl, other⟩ spared
          · exact held

/-- Whoever reports an attempt's end, the queue and the attempts are what
`recordNotCaptured` makes of them. -/
theorem Mutation.apply_notCaptured (ctx : Ctx) {db : DB} {m : Mutation} {attemptId : AttemptId}
    {attempt : PaymentAttempt} {status : NotCaptured}
    (asked : m.report db = some (attemptId, .notCaptured status))
    (present : db.paymentAttempts.get attemptId = some attempt) :
    ∃ failureCode, (m.apply ctx db).queueEntries =
        (recordNotCaptured ctx db attemptId attempt status failureCode).queueEntries ∧
      (m.apply ctx db).paymentAttempts =
        (recordNotCaptured ctx db attemptId attempt status failureCode).paymentAttempts := by
  cases m with
  | notCaptured other outcome failureCode =>
      obtain ⟨rfl, same⟩ := Prod.mk.inj (Option.some.inj asked)
      obtain rfl := Report.notCaptured.inj same
      refine ⟨failureCode, ?_⟩
      simp only [Mutation.apply, Bling.notCaptured, present, and_self]
  | captured other => cases (Prod.mk.inj (Option.some.inj asked)).2
  | applyEvent event =>
      obtain ⟨unseen, intent, other, object, found, report⟩ := Mutation.report_event asked
      obtain rfl := Option.some.inj (present.symm.trans (attemptForIntent_present found).1)
      have isOver : event.type ≠ .paymentIntentSucceeded := by
        intro succeeded
        rw [succeeded] at report
        cases report
      have outcome : status =
          if event.type = .paymentIntentCanceled then .canceled else .failed := by
        rw [intentReport, if_neg isOver] at report
        exact Report.notCaptured.inj report
      refine ⟨intent.failureCode, ?_⟩
      have sameAttempt (events : Table StripeEvent) :
          attemptForIntent { db with stripeEvents := events } intent.id =
            attemptForIntent db intent.id := rfl
      simp only [Mutation.apply, Bling.applyEvent, unseen, Bool.false_eq_true, if_false, object,
        applyIntent, sameAttempt, found, if_neg isOver, ← outcome]
      by_cases isCaptured : attempt.status = .captured
      · simp only [recordNotCaptured, if_pos isCaptured, and_self]
      · rw [recordNotCaptured_eq _ _ _ _ _ _ isCaptured, recordNotCaptured_eq _ _ _ _ _ _ isCaptured]
        exact ⟨rfl, rfl⟩
  | _ => cases asked

/-! ### Callers who wait -/

/-- A report of an attempt's end, if the mutation is one, disturbs no entry. -/
def spares (db : DB) (m : Mutation) : Bool :=
  match m.report db with
  | some (attemptId, .notCaptured _) =>
    (db.paymentAttempts.get attemptId).all fun attempt => !disturbs db attemptId attempt
  | _ => true

/-- Neither the caller nor the creator takes the entry out of the queue, and
the attempt that holds it does not end. -/
def leavesAlone (entryId : EntryId) (entry : QueueEntry) (db : DB) (m : Mutation) : Bool :=
  !m.removes entryId entry &&
    match m.report db with
    | some (attemptId, .notCaptured _) => entry.paymentAttemptId != some attemptId
    | _ => true

/-- The states of an entry whose call is open, or has been closed with its show. -/
def calledStatuses : List QueueStatus := [.selected, .connecting, .live, .ended]

/-- An entry of a free tier has no hold. -/
def QueueEntry.heldIfPaid (entry : QueueEntry) : Prop :=
  ¬ 0 < entry.tierPriceCents → entry.paymentAttemptId = none

/-- An open call has the entry it was opened for, with its hold. -/
structure EntriesSound (db : DB) : Prop where
  free : ∀ id entry, db.queueEntries.get id = some entry → entry.heldIfPaid
  active : ∀ id call, db.calls.get id = some call → call.status ∈ activeCallStatuses →
    ∃ entry, db.queueEntries.get call.queueEntryId = some entry ∧ entry.status ∈ calledStatuses ∧
      call.paymentAttemptId = entry.paymentAttemptId

section Effects

variable {ctx : Ctx} {db after : DB} {m : Mutation}

/-- A waiting entry that is left alone waits on. -/
theorem waiting_kept (effect : Effect ctx db m after) (sound : EntriesSound db)
    (spared : spares db m = true) {entryId : EntryId} {entry : QueueEntry}
    (found : db.queueEntries.get entryId = some entry) (waiting : entry.status = .waiting)
    (alone : leavesAlone entryId entry db m = true) :
    after.queueEntries.get entryId = some entry := by
  obtain ⟨stays, holder⟩ := Bool.and_eq_true_iff.mp alone
  have kept : m.removes entryId entry = false := by simpa using stays
  -- The entry of an open call does not wait.
  have uncalled {id : CallId} {call : Call} (present : db.calls.get id = some call)
      (active : call.status ∈ activeCallStatuses) : entryId ≠ call.queueEntryId := by
    rintro rfl
    obtain ⟨e, located, called, _⟩ := sound.active id call present active
    obtain rfl := Option.some.inj (found.symm.trans located)
    rw [waiting] at called
    simp [calledStatuses] at called
  cases effect with
  | moved callId call target shows present allowed asked isOver same =>
      have active : call.status ∈ activeCallStatuses := by
        rcases (canTransition_target allowed).1 with is | is | is <;>
          simp [is, activeCallStatuses]
      rw [same.queueEntries]
      exact (Table.get_patch_of_ne (uncalled present active) _ _).trans found
  | queueClosed showId queueEntries asked each same =>
      rw [same.queueEntries]
      rcases each entryId with unchanged | ⟨other, present, removed, _, _⟩
      · exact unchanged.trans found
      · obtain rfl := Option.some.inj (found.symm.trans present)
        rw [kept] at removed
        cases removed
  | joined viewerId args tierId tier existing attempt live host offered previous gone held paid
      same =>
      rw [same.queueEntries]
      cases existing with
      | none => exact Table.get_insert_of_some found _
      | some row =>
          have left := gone row rfl
          have present := (Table.first_row previous).1
          refine (Table.get_patch_of_ne ?_ _ _).trans found
          rintro rfl
          obtain rfl := Option.some.inj (found.symm.trans present)
          rw [waiting] at left
          cases left
  | left id other asked present isWaiting same =>
      rw [same.queueEntries]
      refine (Table.get_patch_of_ne ?_ _ _).trans found
      rintro rfl
      obtain rfl := Option.some.inj (found.symm.trans present)
      rw [kept] at asked
      cases asked
  | selected showId hotline id other mode attempt asked host live idle present inShow isWaiting
      held paid same =>
      rw [same.queueEntries, openCall_entries]
      refine (Table.get_patch_of_ne ?_ _ _).trans found
      rintro rfl
      obtain rfl := Option.some.inj (found.symm.trans present)
      rw [kept] at asked
      cases asked
  | callMissed attemptId attempt capturedAt method callId call asked present located unstarted isOver
      pending same =>
      rw [same.queueEntries]
      refine (Table.get_patch_of_ne (uncalled (callForAttempt_present located).1 ?_) _ _).trans found
      simp [pending, activeCallStatuses]
  | notCaptured attemptId attempt status failureCode canceledAt calls queueEntries asked present
      uncaptured failed released same =>
      rw [same.queueEntries]
      dsimp only
      rcases released with ⟨unchanged, _⟩ | ⟨id, other, pointer, located, waits, patched⟩
      · rw [unchanged]
        exact found
      · rw [patched]
        refine (Table.get_patch_of_ne ?_ _ _).trans found
        rintro rfl
        obtain rfl := Option.some.inj (found.symm.trans located)
        -- The attempt holds the entry it points to, for else it would disturb it.
        simp only [asked, bne_iff_ne] at holder
        simp [spares, asked, present, disturbs, uncaptured, pointer, found, waiting, holder]
          at spared
  | _ =>
      rename_i same
      rw [same.queueEntries]
      exact found

/-- What a mutation keeps of an entry that has been called. -/
structure EntryKept (before after : QueueEntry) : Prop where
  free : before.heldIfPaid → after.heldIfPaid
  called : before.status ∈ calledStatuses →
    after.status ∈ calledStatuses ∧ after.paymentAttemptId = before.paymentAttemptId

theorem EntryKept.refl (entry : QueueEntry) : EntryKept entry entry := ⟨id, fun called => ⟨called, rfl⟩⟩

abbrev EntriesKept : Table QueueEntry → Table QueueEntry → Prop :=
  Table.Follow (fun _ => EntryKept) QueueEntry.heldIfPaid

/-- An entry that has not been called may change its status. -/
theorem EntryKept.uncalled {before after : QueueEntry} (price : after.tierPriceCents =
    before.tierPriceCents) (hold : after.paymentAttemptId = before.paymentAttemptId)
    (uncalled : before.status ∉ calledStatuses) : EntryKept before after := by
  refine ⟨?_, fun called => absurd called uncalled⟩
  unfold QueueEntry.heldIfPaid
  rw [price, hold]
  exact id

/-- Any entry may be called. -/
theorem EntryKept.call {before after : QueueEntry} (price : after.tierPriceCents =
    before.tierPriceCents) (hold : after.paymentAttemptId = before.paymentAttemptId)
    (called : after.status ∈ calledStatuses) : EntryKept before after := by
  refine ⟨?_, fun _ => ⟨called, hold⟩⟩
  unfold QueueEntry.heldIfPaid
  rw [price, hold]
  exact id

theorem EntriesSound.keep (sound : EntriesSound db)
    (entries : EntriesKept db.queueEntries after.queueEntries)
    (calls : ∀ id call, after.calls.get id = some call → call.status ∈ activeCallStatuses →
      (∃ was, db.calls.get id = some was ∧ was.status ∈ activeCallStatuses ∧
        call.queueEntryId = was.queueEntryId ∧ call.paymentAttemptId = was.paymentAttemptId) ∨
      ∃ entry, after.queueEntries.get call.queueEntryId = some entry ∧
        entry.status ∈ calledStatuses ∧ call.paymentAttemptId = entry.paymentAttemptId) :
    EntriesSound after := by
  constructor
  · intro id entry found
    exact entries.forall sound.free (fun _ _ _ kept => kept.free) (fun _ held => held) found
  · intro id call found active
    rcases calls id call found active with ⟨was, present, wasActive, pointer, hold⟩ | opened
    · obtain ⟨entry, located, called, same⟩ := sound.active id was present wasActive
      obtain ⟨after, kept, keeps⟩ := entries.kept _ entry located
      obtain ⟨stillCalled, sameHold⟩ := keeps.called called
      exact ⟨after, pointer ▸ kept, stillCalled, hold.trans (same.trans sameHold.symm)⟩
    · exact opened

/-- The calls that are open after a patch were open before, on the same entry and hold. -/
theorem opened_patched {callId : CallId} {call : Call} {f : Call → Call}
    (patched : after.calls = db.calls.patch callId f) (present : db.calls.get callId = some call)
    (sameEntry : (f call).queueEntryId = call.queueEntryId)
    (sameHold : (f call).paymentAttemptId = call.paymentAttemptId)
    (opened : (f call).status ∈ activeCallStatuses → call.status ∈ activeCallStatuses)
    (id : CallId) (c : Call) (found : after.calls.get id = some c)
    (active : c.status ∈ activeCallStatuses) :
    ∃ was, db.calls.get id = some was ∧ was.status ∈ activeCallStatuses ∧
      c.queueEntryId = was.queueEntryId ∧ c.paymentAttemptId = was.paymentAttemptId := by
  rw [patched] at found
  rcases Table.get_patch_row present found with ⟨rfl, rfl⟩ | ⟨_, old⟩
  · exact ⟨call, present, opened active, sameEntry, sameHold⟩
  · exact ⟨c, old, active, rfl, rfl⟩

/-- No call is opened. -/
theorem EntriesSound.keepCalls (sound : EntriesSound db)
    (entries : EntriesKept db.queueEntries after.queueEntries)
    (calls : ∀ id call, after.calls.get id = some call → call.status ∈ activeCallStatuses →
      ∃ was, db.calls.get id = some was ∧ was.status ∈ activeCallStatuses ∧
        call.queueEntryId = was.queueEntryId ∧ call.paymentAttemptId = was.paymentAttemptId) :
    EntriesSound after :=
  sound.keep entries fun id call found active => Or.inl (calls id call found active)

/-- Only entries change. -/
theorem EntriesSound.keepEntries (sound : EntriesSound db) (calls : after.calls = db.calls)
    (entries : EntriesKept db.queueEntries after.queueEntries) : EntriesSound after :=
  sound.keepCalls entries fun _ call found active => ⟨call, calls ▸ found, active, rfl, rfl⟩

theorem EntryKept.close (ctx : Ctx) (entry : QueueEntry) :
    EntryKept entry (closedPatch ctx entry) :=
  .call rfl rfl (by simp [closedPatch, calledStatuses])

theorem EntriesKept.close (ctx : Ctx) {entries others : Table QueueEntry}
    (each : ∀ id, others.get id = entries.get id ∨ ∃ entry, entries.get id = some entry ∧
      others.get id = some (closedPatch ctx entry)) : EntriesKept entries others := by
  constructor
  · intro id entry found
    rcases each id with unchanged | ⟨other, present, closed⟩
    · exact ⟨entry, unchanged.trans found, .refl entry⟩
    · obtain rfl := Option.some.inj (found.symm.trans present)
      exact ⟨_, closed, .close ctx entry⟩
  · intro id entry found
    rcases each id with unchanged | ⟨other, present, closed⟩
    · exact Or.inl ⟨entry, unchanged.symm.trans found, .refl entry⟩
    · obtain rfl := Option.some.inj (closed.symm.trans found)
      exact Or.inl ⟨other, present, .close ctx other⟩

theorem EntriesKept.release {entries : Table QueueEntry} {entryId : EntryId} {entry : QueueEntry}
    (present : entries.get entryId = some entry) (waiting : entry.status = .waiting) :
    EntriesKept entries (entries.patch entryId (releasedPatch ctx)) := by
  refine .patch_row (fun _ => .refl) present (.uncalled rfl rfl ?_)
  simp [waiting, calledStatuses]

/-- Whoever joins a free tier has no hold. -/
theorem EntriesKept.join {viewerId : UserId} {args : JoinArgs} {tierId : TierId} {tier : ShowTier}
    {existing : Option (EntryId × QueueEntry)} {attempt : Option (AttemptId × PaymentAttempt)}
    (previous : entryForViewer db args.showId viewerId = existing)
    (gone : ∀ row, existing = some row → row.2.status = .left)
    (paid : attempt.isSome = decide (0 < tier.priceCents)) :
    EntriesKept db.queueEntries (enqueue ctx db viewerId args tierId tier (existing.map Prod.fst)
      (attempt.map Prod.fst)).1.queueEntries := by
  have unheld (free : ¬ 0 < tier.priceCents) : attempt.map Prod.fst = none := by
    rw [decide_eq_false free] at paid
    cases attempt with
    | none => rfl
    | some row => cases paid
  cases existing with
  | none => exact .insert (fun _ => .refl) _ unheld
  | some row =>
      dsimp only [enqueue, Option.map_some]
      refine .patch_row (fun _ => .refl) (Table.first_row previous).1 ⟨fun _ => unheld, ?_⟩
      intro called
      simp [gone row rfl, calledStatuses] at called

/-- The call that is opened for an entry has its hold. -/
theorem EntriesSound.openCall (sound : EntriesSound db) {showId : ShowId} {hotline : Show}
    {entryId : EntryId} {entry : QueueEntry} {mode : SelectionMode}
    {attempt : Option (AttemptId × PaymentAttempt)}
    (present : db.queueEntries.get entryId = some entry) (held : attempt = entryAttempt db entry)
    (paid : 0 < entry.tierPriceCents → ∃ row, attempt = some row ∧ row.2.status = .authorized)
    (same : SameCore (openCall ctx db showId hotline entryId entry mode attempt).1 after) :
    EntriesSound after := by
  have hold : attempt.map Prod.fst = entry.paymentAttemptId := by
    by_cases isPaid : 0 < entry.tierPriceCents
    · obtain ⟨row, named, _⟩ := paid isPaid
      rw [named, (entryAttempt_present (held.symm.trans named)).2.1]
      rfl
    · rw [held, sound.free entryId entry present isPaid]
      simp only [entryAttempt, if_neg isPaid, Option.map_none]
  refine sound.keep ?_ ?_
  · rw [same.queueEntries, openCall_entries]
    exact .patch (fun _ => .refl) fun _ _ => .call rfl rfl (by simp [calledStatuses])
  · intro callId c found active
    rw [same.calls, openCall_calls] at found
    rcases Table.get_insert_row found with ⟨_, rfl⟩ | old
    · have called : after.queueEntries.get entryId =
          some { entry with status := .selected, selectedAt := some ctx.now } := by
        rw [same.queueEntries, openCall_entries]
        exact Table.get_patch_self present _
      refine Or.inr ⟨_, called, ?_, hold⟩
      simp [calledStatuses]
    · exact Or.inl ⟨c, old, active, rfl, rfl⟩

/-- A hold that isn't captured takes no other call's entry. -/
theorem EntriesSound.notCaptured (sound : EntriesSound db) (linked : Linked db)
    {attemptId : AttemptId} {attempt : PaymentAttempt} {status : NotCaptured}
    (asked : m.report db = some (attemptId, .notCaptured status))
    (present : db.paymentAttempts.get attemptId = some attempt)
    (uncaptured : attempt.status ≠ .captured)
    (failed : (after.calls = db.calls ∧ ∀ callId call,
        callForAttempt db attemptId = some (callId, call) → call.status ≠ .paymentPending) ∨
      ∃ callId call, callForAttempt db attemptId = some (callId, call) ∧
        call.status = .paymentPending ∧ after.calls = db.calls.patch callId (failedPatch ctx))
    (released : after.queueEntries = db.queueEntries ∨ ∃ entryId entry,
      attempt.queueEntryId = some entryId ∧ db.queueEntries.get entryId = some entry ∧
        (entry.status = .waiting ∨ entry.status = .selected ∧ ∃ callId call,
          callForAttempt db attemptId = some (callId, call) ∧ call.status = .paymentPending) ∧
        after.queueEntries = db.queueEntries.patch entryId (releasedPatch ctx))
    (spared : spares db m = true) : EntriesSound after := by
  have still (id : CallId) (c : Call) (moved : after.calls.get id = some c)
      (active : c.status ∈ activeCallStatuses) : db.calls.get id = some c ∧
        ∀ callId call, callForAttempt db attemptId = some (callId, call) →
          call.status = .paymentPending → id ≠ callId := by
    rcases failed with ⟨unchanged, settled⟩ | ⟨callId, call, found, pending, patched⟩
    · exact ⟨unchanged ▸ moved, fun callId call found pending =>
        absurd pending (settled callId call found)⟩
    · rw [patched, Table.get_patch] at moved
      split at moved
      · obtain ⟨was, _, rfl⟩ := Option.map_eq_some_iff.mp moved
        simp [failedPatch, activeCallStatuses] at active
      · rename_i apart
        refine ⟨moved, ?_⟩
        intro other _ located _
        obtain ⟨rfl, rfl⟩ := Prod.mk.inj (Option.some.inj (found.symm.trans located))
        exact apart
  have calls (id : CallId) (c : Call) (moved : after.calls.get id = some c)
      (active : c.status ∈ activeCallStatuses) :
      ∃ was, db.calls.get id = some was ∧ was.status ∈ activeCallStatuses ∧
        c.queueEntryId = was.queueEntryId ∧ c.paymentAttemptId = was.paymentAttemptId :=
    ⟨c, (still id c moved active).1, active, rfl, rfl⟩
  rcases released with unchanged | ⟨id, entry, pointer, located, waiting, entries⟩
  · exact sound.keepCalls (.of_eq (fun _ => .refl) unchanged) calls
  · rcases waiting with isWaiting | ⟨isSelected, callId, call, found, pending⟩
    · exact sound.keepCalls (entries ▸ .release located isWaiting) calls
    · -- The call that waited has failed, and no other call is open on its entry.
      have holder : entry.paymentAttemptId = some attemptId := by
        by_contra other
        simp [spares, asked, present, disturbs, uncaptured, pointer, located, isSelected,
          other, waitsForCapture, found, pending] at spared
      constructor
      · intro key e held
        rw [entries, Table.get_patch] at held
        split at held
        · obtain ⟨was, before, rfl⟩ := Option.map_eq_some_iff.mp held
          exact sound.free key was before
        · exact sound.free key e held
      · intro key c moved active
        obtain ⟨was, apart⟩ := still key c moved active
        obtain ⟨e, held, called, hold⟩ := sound.active key c was active
        refine ⟨e, ?_, called, hold⟩
        rw [entries]
        refine (Table.get_patch_of_ne ?_ _ _).trans held
        intro here
        rw [here] at held
        obtain rfl := Option.some.inj (located.symm.trans held)
        obtain ⟨there, pays⟩ := callForAttempt_present found
        exact apart callId call found pending
          (linked.calls.one key callId c call attemptId was there (hold.trans holder) pays)

theorem EntriesSound.effect (sound : EntriesSound db) (linked : Linked db)
    (effect : Effect ctx db m after) (spared : spares db m = true) : EntriesSound after := by
  cases effect with
  | moved callId call target shows present allowed asked isOver same =>
      refine sound.keepCalls ?_ (opened_patched (f := transitionPatch ctx target)
        same.calls present rfl rfl fun _ => ?_)
      · rw [same.queueEntries]
        dsimp only
        refine .patch (fun _ => .refl) fun _ _ => .call rfl rfl ?_
        cases target <;> simp [entryStatusFor, calledStatuses]
      · rcases (canTransition_target allowed).1 with is | is | is <;>
          simp [is, activeCallStatuses]
  | queueClosed showId queueEntries asked each same =>
      refine sound.keepEntries same.calls ?_
      rw [same.queueEntries]
      refine .close ctx fun id => (each id).imp_right ?_
      rintro ⟨entry, present, _, _, closed⟩
      exact ⟨entry, present, closed⟩
  | joined viewerId args tierId tier existing attempt live host offered previous gone held paid
      same =>
      refine sound.keepEntries same.calls ?_
      rw [same.queueEntries]
      exact .join previous gone paid
  | left id other asked present isWaiting same =>
      refine sound.keepEntries same.calls ?_
      rw [same.queueEntries]
      exact .release present isWaiting
  | selected showId hotline id entry mode attempt asked host live idle present inShow isWaiting
      held paid same =>
      exact sound.openCall present held paid same
  | callOpened attemptId attempt capturedAt method callId call asked present found pending live
      same =>
      refine sound.keepCalls (.of_eq (fun _ => .refl) same.queueEntries)
        (opened_patched (f := fun c => { c with status := .created }) same.calls
          (callForAttempt_present found).1 rfl rfl fun _ => ?_)
      simp [pending, activeCallStatuses]
  | callMissed attemptId attempt capturedAt method callId call asked present located unstarted isOver
      pending same =>
      refine sound.keepCalls ?_
        (opened_patched (f := failedPatch ctx) same.calls (callForAttempt_present located).1 rfl rfl
          fun active => ?_)
      · rw [same.queueEntries]
        dsimp only
        exact .patch (fun _ => .refl) fun _ _ => .call rfl rfl (by simp [calledStatuses])
      · simp [failedPatch, activeCallStatuses] at active
  | notCaptured attemptId attempt status failureCode canceledAt calls queueEntries asked present
      uncaptured failed released same =>
      have calls := same.calls
      have entries := same.queueEntries
      dsimp only at calls entries
      rw [← calls] at failed
      rw [← entries] at released
      exact sound.notCaptured linked asked present uncaptured failed (released.imp_left And.left)
        spared
  | _ =>
      rename_i same
      exact sound.keepEntries same.calls (.of_eq (fun _ => .refl) same.queueEntries)

end Effects

/-! ### Runs -/

theorem spares_scheduled (db : DB) (jobs : List (Time × Job)) (m : Mutation) :
    spares { db with scheduled := jobs } m = spares db m := by
  cases m <;> rfl

theorem leavesAlone_scheduled (entryId : EntryId) (entry : QueueEntry) (db : DB)
    (jobs : List (Time × Job)) (m : Mutation) :
    leavesAlone entryId entry { db with scheduled := jobs } m = leavesAlone entryId entry db m := by
  cases m <;> rfl

theorem EntriesSound.unscheduled : World.Unscheduled EntriesSound := fun _ _ =>
  ⟨fun sound => ⟨sound.free, sound.active⟩, fun sound => ⟨sound.free, sound.active⟩⟩

/-- No report of the step disturbs an entry. -/
abbrev Spares : World → Ctx × Op → Prop := World.Meets fun _ db m => spares db m = true

/-- The step leaves the entry alone. -/
abbrev LeavesAlone (entryId : EntryId) (entry : QueueEntry) : World → Ctx × Op → Prop :=
  World.Meets fun _ db m => leavesAlone entryId entry db m = true

theorem EntriesSound.step {w : World} (reached : World.Reached w) (sound : EntriesSound w.db)
    {input : Ctx × Op} (spared : Spares w input) : EntriesSound (w.step input).db := by
  refine World.step_keeps EntriesSound.unscheduled Linked.unscheduled ?_ ?_
    (Linked.reached reached) sound spared
  · intro ctx m db jobs
    dsimp only
    rw [spares_scheduled]
  · intro ctx db m linked sound spared
    exact sound.effect linked (m.effect ctx db) spared

theorem waiting_step {w : World} (sound : EntriesSound w.db) {input : Ctx × Op}
    (spared : Spares w input) {entryId : EntryId} {entry : QueueEntry}
    (found : w.db.queueEntries.get entryId = some entry) (waiting : entry.status = .waiting)
    (alone : LeavesAlone entryId entry w input) :
    (w.step input).db.queueEntries.get entryId = some entry := by
  rcases World.step_ran w input with ⟨_, later, same⟩ | ⟨m, earlier, later, ran, same⟩
  · rw [same]
    exact found
  · rw [same]
    refine waiting_kept (m.effect input.1 { w.db with scheduled := earlier })
      ((EntriesSound.unscheduled _ earlier).mpr sound) ?_ found waiting ?_
    · rw [spares_scheduled]
      exact spared m ran
    · rw [leavesAlone_scheduled]
      exact alone m ran

/-- A waiting caller in a state that a run without disturbance reaches. -/
structure Waits (entryId : EntryId) (entry : QueueEntry) (w : World) : Prop where
  reached : World.Reached w
  sound : EntriesSound w.db
  found : w.db.queueEntries.get entryId = some entry

theorem EntriesSound.run {inputs : List (Ctx × Op)}
    (guarded : Along World.step Spares World.empty inputs) :
    EntriesSound (run World.step World.empty inputs).db := by
  have start : World.Reached World.empty ∧ EntriesSound World.empty.db := by
    refine ⟨.refl _ _, ?_, ?_⟩
    · intro id entry found
      cases found
    · intro id call found
      cases found
  exact (run_keeps (fun w => World.Reached w ∧ EntriesSound w.db)
    (fun w input known spared => ⟨known.1.step input, known.2.step known.1 spared⟩) start
    guarded).2

/-- In a run that disturbs no entry, a waiting caller who is left alone waits on. -/
theorem waiting_stays {inputs more : List (Ctx × Op)} {entryId : EntryId} {entry : QueueEntry}
    (guarded : Along World.step Spares World.empty (inputs ++ more))
    (found : (Library.run World.step World.empty inputs).db.queueEntries.get entryId = some entry)
    (waiting : entry.status = .waiting)
    (alone : Along World.step (LeavesAlone entryId entry) (run World.step World.empty inputs) more) :
    (run World.step World.empty (inputs ++ more)).db.queueEntries.get entryId = some entry := by
  obtain ⟨before, after⟩ := (along_append ..).mp guarded
  have start : Waits entryId entry (run World.step World.empty inputs) :=
    ⟨⟨inputs, rfl⟩, EntriesSound.run before, found⟩
  rw [run_append]
  refine (run_keeps (Waits entryId entry) ?_ start (after.and alone)).found
  rintro w input waits ⟨spared, left⟩
  exact ⟨waits.reached.step input, waits.sound.step waits.reached spared,
    waiting_step waits.sound spared waits.found waiting left⟩

/-- In every reachable state, a report of an attempt's end leaves the entries of
others alone exactly when it disturbs none; and in every run that disturbs
none, a caller who waits, and is left alone, waits on. -/
theorem holds_undisturbed (inputs : List (Ctx × Op)) :
    (∀ (input : Ctx × Op) m attemptId attempt status,
      input.2.mutation (run World.step World.empty inputs) input.1 = some m →
      m.report (run World.step World.empty inputs).db = some (attemptId, .notCaptured status) →
      (run World.step World.empty inputs).db.paymentAttempts.get attemptId = some attempt →
      (OthersKept attemptId (run World.step World.empty inputs).db.queueEntries
          ((run World.step World.empty inputs).step input).db.queueEntries ↔
        disturbs (run World.step World.empty inputs).db attemptId attempt = false)) ∧
    ∀ more entryId entry, Along World.step Spares World.empty (inputs ++ more) →
      (run World.step World.empty inputs).db.queueEntries.get entryId = some entry →
      entry.status = .waiting →
      Along World.step (LeavesAlone entryId entry) (run World.step World.empty inputs) more →
      (run World.step World.empty (inputs ++ more)).db.queueEntries.get entryId = some entry := by
  refine ⟨?_, fun more entryId entry => waiting_stays⟩
  generalize run World.step World.empty inputs = w
  intro input m attemptId attempt status ran asked present
  rcases World.step_ran w input with ⟨idle, _⟩ | ⟨other, earlier, later, also, same⟩
  · rw [idle] at ran
    cases ran
  · obtain rfl := Option.some.inj (also.symm.trans ran)
    have report : other.report { w.db with scheduled := earlier } =
        some (attemptId, .notCaptured status) := by
      rw [Mutation.report_scheduled]
      exact asked
    obtain ⟨failureCode, entries, _⟩ := Mutation.apply_notCaptured input.1 report present
    have frame := recordNotCaptured_frame input.1 { w.db with scheduled := earlier } attemptId
      attempt status failureCode
    rw [same]
    dsimp only
    rw [entries]
    exact frame

open World in
/-- The caller leaves and joins again on a second hold. -/
def rejoining : List Op :=
  let second := { sampleAttempt with idempotencyKey := [1, 2, 3, 4, 5, 6, 7, 9] }
  [.authorize (some 1) 0 1 second.idempotencyKey none,
    .advance (.creatingIntent 1 second) .answered .pending,
    .advance (.attachingIntent 1 1) .answered .pending,
    .stripe (.confirm 1 0 false),
    .joinPaid (some 1) sampleArgs 1,
    .advance (.verifying (some 1) sampleArgs 1
      { second with stripePaymentIntentId := some 1 } 1) .answered .pending,
    .advance (.markingAuthorized (some 1) sampleArgs 1) .answered .pending,
    .advance (.joining (some 1) sampleArgs 1) .answered .pending]

def leaving : List Op :=
  [.request (.leave (some 1) 0), .runJob 5 (.cancelIntent 0 .callerLeft),
    .advance (.canceling 0 0 .callerLeft) .answered .pending,
    .advance (.reportingNotCaptured 0 .canceled none) .answered .pending]

open World in
/-- The first hold is released, and its release reported, before the caller
joins again. -/
def rejoined : List (Ctx × Op) :=
  sampled (preparing ++ confirming ++ waiting ++ leaving ++ [.deliver 0] ++ rejoining)

/-- The entry as it then is. -/
def rejoinedEntry : QueueEntry :=
  { showId := 0
    viewerId := 1
    displayName := [83]
    topic := [84]
    status := .waiting
    tierId := 1
    tierName := [80]
    priorityRank := 100
    callDurationSeconds := 300
    tierPriceCents := 500
    joinedAt := 5
    selectedAt := none
    leftAt := none
    paymentAttemptId := some 1 }

set_option maxRecDepth 30000 in
theorem holds_undisturbed_rejoined :
    (run World.step World.empty (rejoined ++ World.sampled [.deliver 0])).db.queueEntries.get 0 =
      some rejoinedEntry :=
  (holds_undisturbed rejoined).2 (World.sampled [.deliver 0]) 0 rejoinedEntry (by decide)
    (by decide) rfl (by decide)

open World in
/-- The release is reported once more by the webhook, after the caller has
joined again. -/
def reportedLate : List (Ctx × Op) :=
  sampled (preparing ++ confirming ++ waiting ++ leaving ++ rejoining)

/-- The report of an attempt's end leaves the entries of others alone. -/
def NeverDisturbs : Prop :=
  ∀ (inputs : List (Ctx × Op)) (input : Ctx × Op) m attemptId status,
    input.2.mutation (run World.step World.empty inputs) input.1 = some m →
    m.report (run World.step World.empty inputs).db = some (attemptId, .notCaptured status) →
    OthersKept attemptId (run World.step World.empty inputs).db.queueEntries
      ((run World.step World.empty inputs).step input).db.queueEntries

set_option maxRecDepth 30000 in
/-- The late report of the first hold takes the caller on the second one out of
the queue. -/
theorem hold_disturbed : ¬ NeverDisturbs := by
  intro never
  let late : Event :=
    ⟨0, .paymentIntentCanceled, none, .intent ⟨0, none, none, some 0, false⟩⟩
  have told : (run World.step World.empty reportedLate).stripe.events[0]? = some late := by decide
  have ran : (Op.deliver 0).mutation (run World.step World.empty reportedLate) ⟨5, World.sampleEnv⟩ =
      some (.applyEvent late) := by
    rw [Op.mutation, told, Option.map_some]
  have kept := never reportedLate (⟨5, World.sampleEnv⟩, .deliver 0) (.applyEvent late) 0 .canceled
    ran (by decide) 0 rejoinedEntry (by decide) (by decide)
  have left : (((run World.step World.empty reportedLate).step
      (⟨5, World.sampleEnv⟩, .deliver 0)).db.queueEntries.get 0).map QueueEntry.status =
      some .left := by decide
  rw [kept] at left
  cases left

end Bling
