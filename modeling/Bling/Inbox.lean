import Bling.Library.Log
import Bling.Signals
import Bling.Watchdog

set_option autoImplicit false

namespace Bling

open Library

/-! The signal inbox over whole runs, whoever sends, acknowledges and hangs up
in between. -/

/-! ### Calls and their purges -/

def CallFinished (db : DB) (callId : CallId) : Prop :=
  ∃ call, db.calls.get callId = some call ∧ call.status.finished

theorem CallFinished.unopened {db : DB} {callId : CallId} (finished : CallFinished db callId) :
    ¬ CallOpen db callId := by
  obtain ⟨call, found, isOver⟩ := finished
  rintro ⟨other, present, connectable⟩
  obtain rfl := Option.some.inj (found.symm.trans present)
  exact finished_unconnectable isOver connectable

/-- A call that is over stays over. -/
theorem Effect.callFinished {ctx : Ctx} {db after : DB} {m : Mutation}
    (effect : Effect ctx db m after) {callId : CallId} (finished : CallFinished db callId) :
    CallFinished after callId := by
  obtain ⟨call, found, isOver⟩ := finished
  have patched (key : CallId) (f : Call → Call) (apart : key ≠ callId)
      (same : after.calls = db.calls.patch key f) : CallFinished after callId :=
    ⟨call, by rw [same, Table.get_patch_of_ne apart.symm, found], isOver⟩
  have unpending {pendingId : CallId} {pending : Call}
      (present : db.calls.get pendingId = some pending) (status : pending.status = .paymentPending) :
      pendingId ≠ callId := by
    rintro rfl
    obtain rfl := Option.some.inj (found.symm.trans present)
    rw [status] at isOver
    rcases isOver with is | is <;> cases is
  cases effect with
  | moved movedId moving target shows present allowed asked ended same =>
      refine patched movedId (transitionPatch ctx target) ?_ same.calls
      rintro rfl
      obtain rfl := Option.some.inj (found.symm.trans present)
      rcases isOver with is | is <;> simp [is, canTransition, transitions] at allowed
  | selected showId hotline entryId entry mode attempt asked host live idle present inShow waiting
      held paid same =>
      refine ⟨call, ?_, isOver⟩
      rw [same.calls, openCall_calls]
      exact Table.get_insert_of_some found _
  | callOpened attemptId attempt capturedAt method openedId opened asked present located pending live
      same =>
      exact patched openedId (fun c => { c with status := .created })
        (unpending (callForAttempt_present located).1 pending) same.calls
  | callMissed attemptId attempt capturedAt method missedId missed asked present located unstarted
      ended pending same =>
      exact patched missedId (failedPatch ctx)
        (unpending (callForAttempt_present located).1 pending) same.calls
  | notCaptured attemptId attempt status failureCode canceledAt calls queueEntries asked present
      uncaptured failed released same =>
      rcases failed with ⟨unchanged, _⟩ | ⟨failedId, missed, located, pending, written⟩
      · exact ⟨call, by rw [same.calls]; exact unchanged ▸ found, isOver⟩
      · exact patched failedId (failedPatch ctx)
          (unpending (callForAttempt_present located).1 pending) (same.calls.trans written)
  | _ =>
      rename_i same
      exact ⟨call, by rw [same.calls]; exact found, isOver⟩

/-- A mutation schedules purges for calls that it finishes only. -/
theorem Mutation.purges_origin {ctx : Ctx} {db : DB} {m : Mutation} {time : Time} {callId : CallId}
    (member : (time, .purgeSignals callId) ∈ (m.apply ctx db).scheduled) :
    (time, .purgeSignals callId) ∈ db.scheduled ∨ CallFinished (m.apply ctx db) callId := by
  by_cases ends : ∃ callId, m.Ends ctx db callId
  · obtain ⟨ended, ends⟩ := ends
    rcases ends.hangsUp.adds.origin member with old | purge | calm
    · exact Or.inl old
    · obtain rfl := Job.purgeSignals.inj purge
      exact Or.inr ends.hangsUp.finished
    · exact absurd calm id
  · cases m.attended ctx db (fun callId ended => ends ⟨callId, ended⟩) with
    | calm calm =>
        rcases calm.adds.origin member with old | calm
        · exact Or.inl old
        · exact absurd calm id
    | beat userId otherId other asked part wrote =>
        rw [wrote] at member
        rcases List.mem_append.mp member with old | new
        · exact Or.inl old
        · cases List.mem_singleton.mp new
    | marked rowId seen otherId other asked found connected wrote =>
        rw [wrote] at member
        rcases List.mem_append.mp member with old | new
        · exact Or.inl old
        · cases List.mem_singleton.mp new

/-- What happens to the calls and their purges while nothing is purged. -/
structure Proceeds (before after : DB) : Prop where
  opened : ∀ callId, CallOpen before callId → CallOpen after callId ∨
    CallFinished after callId ∧ ∃ time, (time, .purgeSignals callId) ∈ after.scheduled
  finished : ∀ callId, CallFinished before callId → CallFinished after callId
  purging : ∀ time callId, (time, .purgeSignals callId) ∈ before.scheduled →
    (time, .purgeSignals callId) ∈ after.scheduled
  purges : ∀ time callId, (time, .purgeSignals callId) ∈ after.scheduled →
    (time, .purgeSignals callId) ∈ before.scheduled ∨ CallFinished after callId

/-- A mutation that is about a call in progress is all there is to its step. -/
theorem step_attended {w : World} {input : Ctx × Op} {m : Mutation}
    (asked : input.2.mutation w input.1 = some m) (attends : m.attends = true) :
    (w.step input).db = m.apply input.1 (w.started input) := by
  rcases step_attends w input with _ | ⟨other, _, same, after⟩
  · obtain ⟨ctx, op⟩ := input
    cases op with
    | request other =>
        simp only [Op.mutation, Option.ite_none_right_eq_some, Option.some.injEq] at asked
        obtain ⟨isPublic, rfl⟩ := asked
        simp only [World.step, isPublic, if_true]
        rfl
    | runJob time job =>
        simp only [Op.mutation, Option.ite_none_right_eq_some] at asked
        obtain ⟨due, begins⟩ := asked
        simp only [World.step, World.started, due, and_self, if_true]
        cases job <;> cases begins <;> first | rfl | cases attends
    | advance flight outcome status =>
        simp only [Op.mutation, Option.ite_none_right_eq_some] at asked
        obtain ⟨_, ends⟩ := asked
        cases flight <;> cases ends <;> cases attends
    | deliver eventId =>
        obtain ⟨_, _, rfl⟩ := Option.map_eq_some_iff.mp asked
        cases attends
    | authorize userId showId tierId idempotencyKey stripeCustomerId =>
        simp only [Op.mutation, Option.ite_none_left_eq_some, Option.some.injEq] at asked
        obtain ⟨_, rfl⟩ := asked
        cases attends
    | saveAccount creatorId account =>
        cases asked
        cases attends
    | runDue =>
        cases asked
        cases attends
    | joinPaid userId args attemptId => cases asked
    | sweepRefunds now => cases asked
    | sweepCaptures now => cases asked
    | sweepTransfers now => cases asked
    | stripe op => cases asked
  · rw [asked] at same
    rw [after, Option.some.inj same]

theorem step_proceeds (w : World) {input : Ctx × Op} (purgeless : input.2.purges = false) :
    Proceeds w.db (w.step input).db := by
  have calls := (World.started_presence w input).2
  have kept {time : Time} {callId : CallId} (member : (time, Job.purgeSignals callId) ∈
      w.db.scheduled) : (time, Job.purgeSignals callId) ∈ (w.started input).scheduled := by
    rcases World.started_keeps input member with kept | ⟨runs, _⟩
    · exact kept
    · rw [runs] at purgeless
      cases purgeless
  by_cases attended : ∃ m, input.2.mutation w input.1 = some m ∧ m.attends = true
  · obtain ⟨m, asked, attends⟩ := attended
    rw [step_attended asked attends]
    have effect := m.effect input.1 (w.started input)
    constructor
    · rintro callId ⟨call, found, connectable⟩
      rcases effect.callOpen ⟨call, calls ▸ found, connectable⟩ with still | ends
      · exact Or.inl still
      · exact Or.inr ⟨ends.hangsUp.finished, _, ends.hangsUp.purged⟩
    · rintro callId ⟨call, found, isOver⟩
      exact effect.callFinished ⟨call, calls ▸ found, isOver⟩
    · exact fun time callId member => m.scheduled_mem input.1 _ (kept member)
    · intro time callId member
      exact (Mutation.purges_origin member).imp_left World.started_mem
  · have quiet : Quiet (w.started input) (w.step input).db := by
      rcases step_attends w input with quiet | ⟨m, attends, asked, _⟩
      · exact quiet
      · exact absurd ⟨m, asked, attends⟩ attended
    have purging (time : Time) (callId : CallId)
        (member : (time, Job.purgeSignals callId) ∈ w.db.scheduled) :
        (time, Job.purgeSignals callId) ∈ (w.step input).db.scheduled := quiet.adds.mem (kept member)
    have purges (time : Time) (callId : CallId)
        (member : (time, Job.purgeSignals callId) ∈ (w.step input).db.scheduled) :
        (time, Job.purgeSignals callId) ∈ w.db.scheduled ∨ CallFinished (w.step input).db callId := by
      rcases quiet.adds.origin member with old | plain
      · exact Or.inl (World.started_mem old)
      · exact absurd plain id
    rcases World.step_ran w input with ⟨_, later, same⟩ | ⟨m, earlier, later, asked, same⟩
    · have sameCalls : (w.step input).db.calls = w.db.calls := by rw [same]
      refine ⟨?_, ?_, purging, purges⟩
      · rintro callId ⟨call, found, connectable⟩
        exact Or.inl ⟨call, sameCalls ▸ found, connectable⟩
      · rintro callId ⟨call, found, isOver⟩
        exact ⟨call, sameCalls ▸ found, isOver⟩
    · have effect := m.effect input.1 { w.db with scheduled := earlier }
      have sameCalls : (w.step input).db.calls =
          (m.apply input.1 { w.db with scheduled := earlier }).calls := by rw [same]
      refine ⟨?_, ?_, purging, purges⟩
      · rintro callId ⟨call, found, connectable⟩
        rcases effect.callOpen ⟨call, found, connectable⟩ with ⟨other, still, isOpen⟩ | ends
        · exact Or.inl ⟨other, sameCalls ▸ still, isOpen⟩
        · obtain ⟨_, _, moves⟩ := ends
          have unattended : m.attends = false := by
            rw [← Bool.not_eq_true]
            exact fun attends => attended ⟨m, asked, attends⟩
          have unmoved : m.moves input.1 { w.db with scheduled := earlier } = none := by
            cases m <;> first | rfl | cases unattended
          rw [unmoved] at moves
          cases moves.1
      · rintro callId ⟨call, found, isOver⟩
        obtain ⟨other, still, over_⟩ := effect.callFinished ⟨call, found, isOver⟩
        exact ⟨other, sameCalls ▸ still, over_⟩

/-! ### What a send, an ack and a purge write -/

/-- The new rows are signals of one call to one recipient. -/
structure Posts (callId : CallId) (recipient : CallRole) (before after : Table CallSignal) :
    Prop where
  next : before.next ≤ after.next
  old : ∀ i signal, before.get i = some signal → after.get i = some signal
  new : ∀ i signal, after.get i = some signal → before.get i = some signal ∨
    before.next ≤ i ∧ signal.callId = callId ∧ signal.recipient = recipient

theorem Posts.refl (callId : CallId) (recipient : CallRole) (table : Table CallSignal) :
    Posts callId recipient table table :=
  ⟨Nat.le_refl _, fun _ _ => id, fun _ _ => Or.inl⟩

theorem Posts.trans {callId : CallId} {recipient : CallRole} {a b c : Table CallSignal}
    (first : Posts callId recipient a b) (second : Posts callId recipient b c) :
    Posts callId recipient a c := by
  refine ⟨first.next.trans second.next, ?_, ?_⟩
  · exact fun i signal found => second.old i signal (first.old i signal found)
  · intro i signal found
    rcases second.new i signal found with there | ⟨late, same⟩
    · exact first.new i signal there
    · exact Or.inr ⟨first.next.trans late, same⟩

theorem Posts.insert (table : Table CallSignal) (signal : CallSignal) :
    Posts signal.callId signal.recipient table (table.insert signal) := by
  refine ⟨Nat.le_succ _, ?_, ?_⟩
  · exact fun i other found => Table.get_insert_of_some found signal
  · intro i other found
    rcases Table.get_insert_row found with ⟨rfl, rfl⟩ | old
    · exact Or.inr ⟨Nat.le_refl _, rfl, rfl⟩
    · exact Or.inl old

theorem sendSignals_posts {parses : Text → Bool} {callId : CallId} {role : CallRole}
    {signals : List Signal} {table after : Table CallSignal} {readyPending : Option Bool}
    (outcome : sendSignals parses callId role signals table readyPending = .ok after) :
    Posts callId role.other table after := by
  induction signals generalizing table readyPending with
  | nil =>
      obtain rfl := Except.ok.inj outcome
      exact .refl callId role.other table
  | cons signal rest ih =>
      unfold sendSignals at outcome
      obtain ⟨_, _, outcome⟩ := bind_ok outcome
      dsimp only at outcome
      have inserts := Posts.insert table ⟨callId, role.other, signal.type, signal.payload⟩
      split at outcome
      · split at outcome
        · exact ih outcome
        · exact inserts.trans (ih outcome)
      · exact inserts.trans (ih outcome)

/-- At most one `ready` of a call is pending, and it is the creator's to handle. -/
structure OneReady (table : Table CallSignal) : Prop where
  creator : ∀ i signal, table.get i = some signal → signal.type = .ready →
    signal.recipient = .creator
  one : ∀ i j a b, table.get i = some a → table.get j = some b → a.type = .ready →
    b.type = .ready → a.callId = b.callId → i = j

theorem OneReady.insert {table : Table CallSignal} (ready : OneReady table) {signal : CallSignal}
    (creator : signal.type = .ready → signal.recipient = .creator)
    (alone : signal.type = .ready → ∀ i other, table.get i = some other → other.type = .ready →
      other.callId ≠ signal.callId) : OneReady (table.insert signal) := by
  constructor
  · intro i other found isReady
    rcases Table.get_insert_row found with ⟨_, rfl⟩ | old
    · exact creator isReady
    · exact ready.creator i other old isReady
  · intro i j a b first second readyA readyB same
    rcases Table.get_insert_row first with ⟨rfl, rfl⟩ | old
    · rcases Table.get_insert_row second with ⟨rfl, rfl⟩ | old'
      · rfl
      · exact absurd same.symm (alone readyA j b old' readyB)
    · rcases Table.get_insert_row second with ⟨rfl, rfl⟩ | old'
      · exact absurd same (alone readyB i a old readyA)
      · exact ready.one i j a b old old' readyA readyB same

theorem checkSignal_allowed {parses : Text → Bool} {role : CallRole} {signal : Signal} {value : Unit}
    (checked : checkSignal parses role signal = .ok value) : signal.type ∈ allowed role := by
  unfold checkSignal at checked
  split at checked
  · cases checked
  · rename_i permitted
    exact not_not.mp permitted

theorem ready_viewer {role : CallRole} (permitted : SignalType.ready ∈ allowed role) :
    role = .viewer := by
  cases role with
  | creator => simp [allowed] at permitted
  | viewer => rfl

theorem sendSignals_ready {parses : Text → Bool} {callId : CallId} {role : CallRole}
    {signals : List Signal} {table after : Table CallSignal} {readyPending : Option Bool}
    (ready : OneReady table) (looked : readyPending ≠ some false)
    (outcome : sendSignals parses callId role signals table readyPending = .ok after) :
    OneReady after := by
  induction signals generalizing table readyPending with
  | nil =>
      obtain rfl := Except.ok.inj outcome
      exact ready
  | cons signal rest ih =>
      unfold sendSignals at outcome
      obtain ⟨value, checked, outcome⟩ := bind_ok outcome
      dsimp only at outcome
      split at outcome
      · rename_i isReady
        have known : some true ≠ some false := nofun
        have permitted := checkSignal_allowed checked
        rw [isReady] at permitted
        obtain rfl := ready_viewer permitted
        split at outcome
        · exact ih ready known outcome
        · rename_i unready
          refine ih (ready.insert (fun _ => rfl) ?_) known outcome
          intro _ i other found otherReady sameCall
          have unfound : (table.first fun s => s.callId == callId &&
              s.recipient == CallRole.viewer.other && s.type == .ready) = none := by
            cases pending : readyPending with
            | some value =>
                cases value with
                | false => exact absurd pending looked
                | true =>
                    rw [pending] at unready
                    exact absurd rfl unready
            | none =>
                rw [pending] at unready
                simpa using unready
          have recipient : other.recipient = CallRole.viewer.other :=
            ready.creator i other found otherReady
          have unmatched := Table.first_none unfound found
          simp [sameCall, recipient, otherReady] at unmatched
      · rename_i unready
        exact ih (ready.insert (absurd · unready) (absurd · unready)) looked outcome

/-- A batch without its repeats: every signal, in order, but a `ready` while one is pending. -/
def withoutRepeats : Bool → List Signal → List Signal
  | _, [] => []
  | pending, signal :: rest =>
    if signal.type = .ready then
      if pending then withoutRepeats true rest else signal :: withoutRepeats true rest
    else signal :: withoutRepeats pending rest

def Signal.addressed (callId : CallId) (recipient : CallRole) (signal : Signal) : CallSignal :=
  ⟨callId, recipient, signal.type, signal.payload⟩

/-- The loop adds the batch without its repeats. -/
theorem sendSignals_rows {parses : Text → Bool} {callId : CallId} {role : CallRole}
    {signals : List Signal} {table after : Table CallSignal} {readyPending : Option Bool}
    (outcome : sendSignals parses callId role signals table readyPending = .ok after) :
    after = table.append ((withoutRepeats (readyPending.getD (table.first fun s =>
      s.callId == callId && s.recipient == role.other && s.type == .ready).isSome) signals).map
        (Signal.addressed callId role.other)) := by
  induction signals generalizing table readyPending with
  | nil => exact (Except.ok.inj outcome).symm
  | cons signal rest ih =>
      unfold sendSignals at outcome
      obtain ⟨_, _, outcome⟩ := bind_ok outcome
      dsimp only at outcome
      unfold withoutRepeats
      split at outcome
      · rename_i isReady
        rw [if_pos isReady]
        split at outcome
        · rename_i pending
          rw [if_pos pending]
          exact ih outcome
        · rename_i unready
          rw [if_neg unready]
          exact ih outcome
      · rename_i unready
        rw [if_neg unready, List.map_cons, Table.append_cons]
        refine (ih outcome).trans ?_
        rw [Table.first_insert_other (by simp [unready])]
        rfl

/-- A batch of signals that pass their checks is taken. -/
theorem sendSignals_valid {parses : Text → Bool} (callId : CallId) {role : CallRole}
    {signals : List Signal} (valid : ∀ signal ∈ signals, checkSignal parses role signal = .ok ())
    (table : Table CallSignal) (readyPending : Option Bool) :
    ∃ after, sendSignals parses callId role signals table readyPending = .ok after := by
  induction signals generalizing table readyPending with
  | nil => exact ⟨table, rfl⟩
  | cons signal rest ih =>
      have later := ih fun other member => valid other (List.mem_cons_of_mem _ member)
      unfold sendSignals
      rw [valid signal List.mem_cons_self]
      simp only [bind, Except.bind]
      split
      · split <;> exact later _ _
      · exact later _ _

/-- One signal that fails its check fails the batch. -/
theorem sendSignals_invalid {parses : Text → Bool} {callId : CallId} {role : CallRole}
    {signals : List Signal} {signal : Signal} (member : signal ∈ signals) {code : ErrorCode}
    (invalid : checkSignal parses role signal = .error code) (table : Table CallSignal)
    (readyPending : Option Bool) :
    ∃ code, sendSignals parses callId role signals table readyPending = .error code := by
  induction signals generalizing table readyPending with
  | nil => cases member
  | cons head rest ih =>
      unfold sendSignals
      rcases List.mem_cons.mp member with rfl | later
      · rw [invalid]
        exact ⟨code, rfl⟩
      · cases checked : checkSignal parses role head with
        | error earlier => exact ⟨earlier, rfl⟩
        | ok value =>
            simp only [bind, Except.bind]
            split
            · split <;> exact ih later _ _
            · exact ih later _ _

/-- A send that commits is one of a participant of an open call. -/
theorem send_ok {parses : Text → Bool} {db : DB} {table after : Table CallSignal}
    {userId : Option UserId} {callId : CallId} {signals : List Signal}
    (outcome : send parses db table userId callId signals = .ok after) :
    ∃ role, TakesPart db userId callId role ∧
      sendSignals parses callId role signals table none = .ok after := by
  unfold send at outcome
  obtain ⟨⟨call, role⟩, found, outcome⟩ := bind_ok outcome
  dsimp only at outcome
  split at outcome
  · cases outcome
  · rename_i connectable
    split at outcome
    · cases outcome
    · exact ⟨role, ⟨call, found, not_not.mp connectable⟩, outcome⟩

/-- The loop of an ack deletes the recipient's signals among those it names. -/
theorem foldl_ack (callId : CallId) (role : CallRole) (ids : List Nat) (table : Table CallSignal) :
    let after := ids.foldl (fun table id =>
      if (table.get id).any fun s => s.callId == callId && s.recipient == role then table.delete id
      else table) table
    after.next = table.next ∧ ∀ i signal, after.get i = some signal ↔
      table.get i = some signal ∧
        ¬ (i ∈ ids ∧ signal.callId = callId ∧ signal.recipient = role) := by
  induction ids generalizing table with
  | nil => simp
  | cons id rest ih =>
      rw [List.foldl_cons]
      split
      · rename_i addressed
        obtain ⟨next, rows⟩ := ih (table.delete id)
        refine ⟨next, ?_⟩
        intro i signal
        rw [rows, Table.get_delete]
        by_cases here : i = id
        · subst here
          simp only [if_true, reduceCtorEq, false_and, List.mem_cons, true_or, true_and,
            false_iff, not_and]
          intro present
          simpa [present] using addressed
        · simp [here]
      · rename_i unaddressed
        obtain ⟨next, rows⟩ := ih table
        refine ⟨next, ?_⟩
        intro i signal
        rw [rows]
        by_cases here : i = id
        · subst here
          refine and_congr_right ?_
          intro present
          have apart : ¬ (signal.callId = callId ∧ signal.recipient = role) := by
            simpa [present] using unaddressed
          simp [apart]
        · simp [here]

theorem ack_get {db : DB} {table after : Table CallSignal} {userId : Option UserId}
    {callId : CallId} {ids : List Nat} (outcome : ack db table userId callId ids = .ok after) :
    ∃ call role, callForParticipant db userId callId = .ok (call, role) ∧
      after.next = table.next ∧ ∀ i signal, after.get i = some signal ↔
        table.get i = some signal ∧
          ¬ (i ∈ ids ∧ signal.callId = callId ∧ signal.recipient = role) := by
  unfold ack at outcome
  obtain ⟨⟨call, role⟩, found, outcome⟩ := bind_ok outcome
  obtain rfl := Except.ok.inj outcome
  exact ⟨call, role, found, foldl_ack callId role ids table⟩

theorem mem_byCall {createdAt : Nat → Time} {table : Table CallSignal} {p : CallSignal → Bool}
    {i : Nat} {signal : CallSignal} :
    (i, signal) ∈ byCall createdAt table p ↔ table.get i = some signal ∧ p signal = true := by
  rw [byCall, List.mem_insertionSort, Table.mem_query]

theorem foldl_delete_next (rows : List (Nat × CallSignal)) (table : Table CallSignal) :
    (rows.foldl (fun table row => table.delete row.1) table).next = table.next := by
  induction rows generalizing table with
  | nil => rfl
  | cons row rest ih => exact ih (table.delete row.1)

theorem mem_leftovers {createdAt : Nat → Time} {table : Table CallSignal} {callId : CallId}
    {i : Nat} {signal : CallSignal} (member : (i, signal) ∈ leftovers createdAt table callId) :
    table.get i = some signal ∧ signal.callId = callId := by
  obtain ⟨present, same⟩ := mem_byCall.mp (List.mem_of_mem_take member)
  exact ⟨present, by simpa using same⟩

/-- A batch that is not full takes all that is left. -/
theorem leftovers_all {createdAt : Nat → Time} {table : Table CallSignal} {callId : CallId}
    (last : (leftovers createdAt table callId).length ≠ purgeBatch) {i : Nat}
    {signal : CallSignal} (present : table.get i = some signal) (here : signal.callId = callId) :
    (i, signal) ∈ leftovers createdAt table callId := by
  have few : (byCall createdAt table fun s => s.callId == callId).length ≤ purgeBatch := by
    rw [leftovers, List.length_take] at last
    omega
  rw [leftovers, List.take_of_length_le few]
  exact mem_byCall.mpr ⟨present, by simpa using here⟩

/-- The signals after a purge. -/
theorem purge_get {createdAt : Nat → Time} {table : Table CallSignal} {callId : CallId} {i : Nat}
    {signal : CallSignal}
    (there : ((leftovers createdAt table callId).foldl (fun table row => table.delete row.1)
      table).get i = some signal) :
    table.get i = some signal ∧
      ((leftovers createdAt table callId).length ≠ purgeBatch → signal.callId ≠ callId) := by
  rw [Table.get_foldl_delete] at there
  split at there
  · cases there
  · rename_i kept
    refine ⟨there, ?_⟩
    intro last here
    exact kept (List.mem_map.mpr ⟨(i, signal), leftovers_all last there here, rfl⟩)

/-- A purge spares the signals of other calls. -/
theorem purge_spares {createdAt : Nat → Time} {table : Table CallSignal} {callId : CallId} {i : Nat}
    {signal : CallSignal} (present : table.get i = some signal) (apart : signal.callId ≠ callId) :
    ((leftovers createdAt table callId).foldl (fun table row => table.delete row.1)
      table).get i = some signal := by
  rw [Table.get_foldl_delete, if_neg]
  · exact present
  · intro member
    obtain ⟨⟨j, other⟩, taken, rfl⟩ := List.mem_map.mp member
    obtain ⟨found, same⟩ := mem_leftovers taken
    obtain rfl := Option.some.inj (present.symm.trans found)
    exact apart same

/-! ### What has been sent and acknowledged -/

/-- A signal that a send committed. -/
structure Sent where
  sender : CallRole
  id : Nat
  signal : CallSignal

/-- The system with the signals sent so far, in commit order, and who has
acknowledged which. -/
structure History where
  signaling : Signaling
  sent : List Sent
  acked : List (CallRole × CallId × Nat)

def History.empty : History := ⟨.empty, [], []⟩

/-- What the other participant has sent and the role has not acknowledged. -/
def History.waiting (h : History) (callId : CallId) (role : CallRole) :
    List (Nat × SignalType × Text) :=
  (h.sent.filter fun x => x.sender = role.other ∧ x.signal.callId = callId ∧
    (role, callId, x.id) ∉ h.acked).map fun x => (x.id, x.signal.type, x.signal.payload)

@[simp] theorem CallRole.other_other (role : CallRole) : role.other.other = role := by
  cases role <;> rfl

/-- A `ready` of the sender's has yet to be acknowledged. -/
def History.readyPending (h : History) (callId : CallId) (sender : CallRole) : Bool :=
  (h.waiting callId sender.other).any fun signal => signal.2.1 == .ready

/-- What a send that succeeds commits of its batch. -/
def committed (parses : Text → Bool) (h : History) : SignalOp → List Sent
  | .send userId callId signals =>
    match callForParticipant h.signaling.world.db userId callId with
    | .ok (_, role) =>
      if (Bling.send parses h.signaling.world.db h.signaling.callSignals userId callId
          signals).isOk then
        (((withoutRepeats (h.readyPending callId role) signals).map
          (Signal.addressed callId role.other)).zipIdx h.signaling.callSignals.next).map
            fun row => ⟨role, row.2, row.1⟩
      else []
    | .error _ => []
  | _ => []

/-- Ids there have been so far: nobody acknowledges what isn't there yet. -/
def acknowledged (s : Signaling) : SignalOp → List (CallRole × CallId × Nat)
  | .ack userId callId ids =>
    match callForParticipant s.world.db userId callId with
    | .ok (_, role) =>
      (ids.filter fun id => id < s.callSignals.next).map fun id => (role, callId, id)
    | .error _ => []
  | _ => []

def History.step (parses : Text → Bool) (createdAt : Nat → Time) (h : History)
    (input : Ctx × SignalOp) : History :=
  let after := h.signaling.step parses createdAt input
  { signaling := after
    sent := h.sent ++ committed parses h input.2
    acked := h.acked ++ acknowledged h.signaling input.2 }

/-- How the table of signals stands to what has been sent and acknowledged. -/
structure Posted (h : History) : Prop where
  ordered : h.sent.Pairwise fun a b => a.id < b.id
  fresh : ∀ x ∈ h.sent, x.id < h.signaling.callSignals.next
  addressed : ∀ x ∈ h.sent, x.signal.recipient = x.sender.other
  begun : ∀ x ∈ h.sent, CallOpen h.signaling.world.db x.signal.callId ∨
    CallFinished h.signaling.world.db x.signal.callId
  acked : ∀ role callId id, (role, callId, id) ∈ h.acked → id < h.signaling.callSignals.next
  posted : ∀ i signal, h.signaling.callSignals.get i = some signal →
    ⟨signal.recipient.other, i, signal⟩ ∈ h.sent ∧
      (signal.recipient, signal.callId, i) ∉ h.acked
  kept : ∀ x ∈ h.sent, CallOpen h.signaling.world.db x.signal.callId →
    (x.sender.other, x.signal.callId, x.id) ∉ h.acked →
      h.signaling.callSignals.get x.id = some x.signal
  ready : OneReady h.signaling.callSignals
  purging : ∀ i signal, h.signaling.callSignals.get i = some signal →
    CallFinished h.signaling.world.db signal.callId →
      ∃ time, (time, .purgeSignals signal.callId) ∈ h.signaling.world.db.scheduled
  purges : ∀ time callId, (time, .purgeSignals callId) ∈ h.signaling.world.db.scheduled →
    CallFinished h.signaling.world.db callId

theorem Posted.empty : Posted .empty :=
  ⟨.nil, nofun, nofun, nofun, nofun, nofun, nofun, ⟨nofun, nofun⟩, nofun, nofun⟩

theorem Posted.waiting {h : History} (posted : Posted h) {callId : CallId} (role : CallRole)
    (isOpen : CallOpen h.signaling.world.db callId) :
    ((h.signaling.callSignals.query fun s => s.callId == callId && s.recipient == role).map
      fun row => (row.1, row.2.type, row.2.payload)) = h.waiting callId role := by
  have same : (h.signaling.callSignals.query fun s => s.callId == callId && s.recipient == role) =
      (h.sent.filter fun x => x.sender = role.other ∧ x.signal.callId = callId ∧
        (role, callId, x.id) ∉ h.acked).map fun x => (x.id, x.signal) := by
    have antisymm : Std.Antisymm fun a b : Nat × CallSignal => a.1 < b.1 :=
      ⟨fun a b before after => absurd after (Nat.lt_asymm before)⟩
    have irrefl : Std.Irrefl fun a b : Nat × CallSignal => a.1 < b.1 :=
      ⟨fun a => Nat.lt_irrefl a.1⟩
    refine List.Pairwise.eq_of_mem_iff (h.signaling.callSignals.ordered.filter _)
      (List.pairwise_map.mpr (posted.ordered.filter _)) ?_
    rintro ⟨i, signal⟩
    rw [Table.mem_query]
    constructor
    · rintro ⟨found, addressed⟩
      simp only [Bool.and_eq_true, beq_iff_eq] at addressed
      obtain ⟨rfl, rfl⟩ := addressed
      obtain ⟨member, unacked⟩ := posted.posted i signal found
      refine List.mem_map.mpr ⟨⟨signal.recipient.other, i, signal⟩, ?_, rfl⟩
      exact List.mem_filter.mpr ⟨member, by simpa using unacked⟩
    · intro member
      obtain ⟨x, taken, same⟩ := List.mem_map.mp member
      obtain ⟨rfl, rfl⟩ := Prod.mk.inj same
      obtain ⟨there, due⟩ := List.mem_filter.mp taken
      simp only [decide_eq_true_eq] at due
      obtain ⟨sender, rfl, unacked⟩ := due
      have asRole : x.sender.other = role := by rw [sender, CallRole.other_other]
      refine ⟨posted.kept x there isOpen (asRole ▸ unacked), ?_⟩
      simp [posted.addressed x there, asRole]
  rw [same, List.map_map]
  rfl

/-- The `ready` that a send looks for is one that has been sent and not acknowledged. -/
theorem Posted.readyPending {h : History} (posted : Posted h) {callId : CallId} (role : CallRole)
    (isOpen : CallOpen h.signaling.world.db callId) :
    (h.signaling.callSignals.first fun s =>
      s.callId == callId && s.recipient == role.other && s.type == .ready).isSome =
        h.readyPending callId role := by
  unfold History.readyPending
  rw [← posted.waiting role.other isOpen, Bool.eq_iff_iff, Table.first_isSome_iff, List.any_eq_true]
  constructor
  · rintro ⟨id, signal, found, matched⟩
    simp only [Bool.and_eq_true] at matched
    obtain ⟨addressed, isReady⟩ := matched
    refine ⟨_, List.mem_map.mpr ⟨(id, signal), ?_, rfl⟩, isReady⟩
    exact (Table.mem_query _ _ id signal).mpr ⟨found, by simpa using addressed⟩
  · rintro ⟨_, member, isReady⟩
    obtain ⟨⟨id, signal⟩, queried, rfl⟩ := List.mem_map.mp member
    obtain ⟨found, addressed⟩ := (Table.mem_query _ _ id signal).mp queried
    exact ⟨id, signal, found, (Bool.and_eq_true _ _).mpr ⟨addressed, isReady⟩⟩

theorem Posted.send {h : History} (posted : Posted h) {callId : CallId} {role : CallRole}
    {after : Table CallSignal} (isOpen : CallOpen h.signaling.world.db callId)
    (posts : Posts callId role.other h.signaling.callSignals after) (ready : OneReady after) :
    Posted
      { signaling := { h.signaling with callSignals := after }
        sent := h.sent ++ (after.rows.filter fun row =>
          h.signaling.callSignals.next ≤ row.1).map fun row => ⟨role, row.1, row.2⟩
        acked := h.acked } := by
  have news {x : Sent} (member : x ∈ (after.rows.filter fun row =>
      h.signaling.callSignals.next ≤ row.1).map fun row => (⟨role, row.1, row.2⟩ : Sent)) :
      after.get x.id = some x.signal ∧ h.signaling.callSignals.next ≤ x.id ∧ x.sender = role ∧
        x.signal.callId = callId ∧ x.signal.recipient = role.other := by
    obtain ⟨⟨i, signal⟩, taken, rfl⟩ := List.mem_map.mp member
    obtain ⟨present, late⟩ := List.mem_filter.mp taken
    have found := (after.mem_rows_iff i signal).mp present
    replace late : h.signaling.callSignals.next ≤ i := by simpa using late
    refine ⟨found, late, rfl, ?_⟩
    rcases posts.new i signal found with old | ⟨_, same⟩
    · exact absurd (Table.get_lt old) (Nat.not_lt_of_le late)
    · exact same
  constructor
  · refine List.pairwise_append.mpr ⟨posted.ordered, ?_, ?_⟩
    · exact List.pairwise_map.mpr (after.ordered.filter _)
    · intro x old y new
      exact Nat.lt_of_lt_of_le (posted.fresh x old) (news new).2.1
  · intro x member
    rcases List.mem_append.mp member with old | new
    · exact Nat.lt_of_lt_of_le (posted.fresh x old) posts.next
    · exact Table.get_lt (news new).1
  · intro x member
    rcases List.mem_append.mp member with old | new
    · exact posted.addressed x old
    · obtain ⟨_, _, sender, _, recipient⟩ := news new
      rw [recipient, sender]
  · intro x member
    rcases List.mem_append.mp member with old | new
    · exact posted.begun x old
    · rw [(news new).2.2.2.1]
      exact Or.inl isOpen
  · exact fun other otherId id member =>
      Nat.lt_of_lt_of_le (posted.acked other otherId id member) posts.next
  · intro i signal found
    rcases posts.new i signal found with old | ⟨late, here, recipient⟩
    · obtain ⟨member, unacked⟩ := posted.posted i signal old
      exact ⟨List.mem_append_left _ member, unacked⟩
    · constructor
      · refine List.mem_append_right _ (List.mem_map.mpr ⟨(i, signal), ?_, ?_⟩)
        · exact List.mem_filter.mpr ⟨(after.mem_rows_iff i signal).mpr found, by simpa using late⟩
        · rw [recipient, CallRole.other_other]
      · intro acked
        exact absurd (posted.acked _ _ i acked) (Nat.not_lt_of_le late)
  · intro x member opened unacked
    rcases List.mem_append.mp member with old | new
    · exact posts.old _ _ (posted.kept x old opened unacked)
    · exact (news new).1
  · exact ready
  · intro i signal found finished
    rcases posts.new i signal found with old | ⟨_, here, _⟩
    · exact posted.purging i signal old finished
    · rw [here] at finished
      exact absurd isOpen finished.unopened
  · exact posted.purges

/-- Fewer signals, none of which comes twice. -/
theorem OneReady.sub {before after : Table CallSignal} (ready : OneReady before)
    (sub : ∀ i signal, after.get i = some signal → before.get i = some signal) :
    OneReady after :=
  ⟨fun i signal found => ready.creator i signal (sub i signal found),
    fun i j a b first second => ready.one i j a b (sub i a first) (sub j b second)⟩

theorem Posted.ack {h : History} (posted : Posted h) {callId : CallId} {role : CallRole}
    {ids : List Nat} {after : Table CallSignal} (next : after.next = h.signaling.callSignals.next)
    (rows : ∀ i signal, after.get i = some signal ↔
      h.signaling.callSignals.get i = some signal ∧
        ¬ (i ∈ ids ∧ signal.callId = callId ∧ signal.recipient = role)) :
    Posted
      { signaling := { h.signaling with callSignals := after }
        sent := h.sent
        acked := h.acked ++ (ids.filter fun id => id < h.signaling.callSignals.next).map fun id =>
          (role, callId, id) } := by
  have sub (i : Nat) (signal : CallSignal) (found : after.get i = some signal) :
      h.signaling.callSignals.get i = some signal := ((rows i signal).mp found).1
  have news {other : CallRole} {otherId : CallId} {id : Nat} :
      (other, otherId, id) ∈ ((ids.filter fun id => id < h.signaling.callSignals.next).map fun id =>
        (role, callId, id)) ↔
        role = other ∧ callId = otherId ∧ id ∈ ids ∧ id < h.signaling.callSignals.next := by
    simp only [List.mem_map, List.mem_filter, decide_eq_true_eq, Prod.mk.injEq]
    constructor
    · rintro ⟨key, named, rfl, rfl, rfl⟩
      exact ⟨rfl, rfl, named⟩
    · rintro ⟨rfl, rfl, named⟩
      exact ⟨id, named, rfl, rfl, rfl⟩
  constructor
  · exact posted.ordered
  · exact fun x member => next ▸ posted.fresh x member
  · exact posted.addressed
  · exact posted.begun
  · intro other otherId id member
    show id < after.next
    rw [next]
    rcases List.mem_append.mp member with old | new
    · exact posted.acked other otherId id old
    · exact (news.mp new).2.2.2
  · intro i signal found
    obtain ⟨there, spared⟩ := (rows i signal).mp found
    obtain ⟨member, unacked⟩ := posted.posted i signal there
    refine ⟨member, ?_⟩
    intro acked
    rcases List.mem_append.mp acked with old | new
    · exact unacked old
    · obtain ⟨asRole, here, named, _⟩ := news.mp new
      exact spared ⟨named, here.symm, asRole.symm⟩
  · intro x member opened unacked
    refine (rows _ _).mpr ⟨?_, ?_⟩
    · exact posted.kept x member opened fun old => unacked (List.mem_append_left _ old)
    · rintro ⟨named, here, recipient⟩
      apply unacked
      refine List.mem_append_right _ (news.mpr ⟨?_, here.symm, named, posted.fresh x member⟩)
      rw [← recipient, posted.addressed x member]
  · exact posted.ready.sub sub
  · exact fun i signal found => posted.purging i signal (sub i signal found)
  · exact posted.purges

theorem Posted.world {h : History} (posted : Posted h) {world : World}
    (proceeds : Proceeds h.signaling.world.db world.db) :
    Posted { h with signaling := { h.signaling with world } } := by
  have before {x : Sent} (member : x ∈ h.sent) (opened : CallOpen world.db x.signal.callId) :
      CallOpen h.signaling.world.db x.signal.callId := by
    rcases posted.begun x member with isOpen | finished
    · exact isOpen
    · exact absurd opened (proceeds.finished _ finished).unopened
  constructor
  · exact posted.ordered
  · exact posted.fresh
  · exact posted.addressed
  · intro x member
    rcases posted.begun x member with isOpen | finished
    · exact (proceeds.opened _ isOpen).imp_right And.left
    · exact Or.inr (proceeds.finished _ finished)
  · exact posted.acked
  · exact posted.posted
  · exact fun x member opened => posted.kept x member (before member opened)
  · exact posted.ready
  · intro i signal found finished
    rcases posted.begun _ (posted.posted i signal found).1 with isOpen | isOver
    · rcases proceeds.opened _ isOpen with still | ⟨_, purging⟩
      · exact absurd still finished.unopened
      · exact purging
    · obtain ⟨time, pending⟩ := posted.purging i signal found isOver
      exact ⟨time, proceeds.purging time _ pending⟩
  · intro time callId member
    rcases proceeds.purges time callId member with old | finished
    · exact proceeds.finished _ (posted.purges time callId old)
    · exact finished

/-- A purge that runs takes its job, and leaves another if its batch was full. -/
structure Purges (ctx : Ctx) (time : Time) (callId : CallId) (full : Prop) (before after : World) :
    Prop where
  calls : after.db.calls = before.db.calls
  origin : ∀ job, job ∈ after.db.scheduled →
    job ∈ before.db.scheduled ∨ job = (ctx.now, .purgeSignals callId)
  others : ∀ job, job ∈ before.db.scheduled → job ≠ (time, .purgeSignals callId) →
    job ∈ after.db.scheduled
  again : full → (ctx.now, .purgeSignals callId) ∈ after.db.scheduled

theorem step_runPurge (parses : Text → Bool) (createdAt : Nat → Time) (s : Signaling) (ctx : Ctx)
    {time : Time} {callId : CallId}
    (due : (time, .purgeSignals callId) ∈ s.world.db.scheduled ∧ time ≤ ctx.now) :
    ∃ world, s.step parses createdAt (ctx, .runPurge time callId) =
        ⟨world, (leftovers createdAt s.callSignals callId).foldl
          (fun table row => table.delete row.1) s.callSignals⟩ ∧
      Purges ctx time callId ((leftovers createdAt s.callSignals callId).length = purgeBatch)
        s.world world := by
  let taken : World := { s.world with
    db := { s.world.db with scheduled := s.world.db.scheduled.erase (time, .purgeSignals callId) } }
  have ran : s.world.step (ctx, .runJob time (.purgeSignals callId)) = taken := by
    simp only [World.step, due, and_self, if_true]
    rfl
  have others (job : Time × Job) (member : job ∈ s.world.db.scheduled)
      (apart : job ≠ (time, .purgeSignals callId)) : job ∈ taken.db.scheduled :=
    (List.mem_erase_of_ne apart).mpr member
  simp only [Signaling.step, due, and_self, if_true, ran, Signaling.purge]
  split
  · refine ⟨_, rfl, rfl, ?_, ?_, ?_⟩
    · intro job member
      rcases List.mem_append.mp member with old | new
      · exact Or.inl (List.mem_of_mem_erase old)
      · exact Or.inr (List.mem_singleton.mp new)
    · exact fun job member apart => List.mem_append_left _ (others job member apart)
    · exact fun _ => List.mem_append_right _ (List.mem_singleton.mpr rfl)
  · rename_i last
    exact ⟨_, rfl, rfl, fun job member => Or.inl (List.mem_of_mem_erase member), others,
      fun full => absurd full last⟩

theorem Posted.purge {h : History} (posted : Posted h) {createdAt : Nat → Time} {ctx : Ctx}
    {time : Time} {callId : CallId} {world : World}
    (pending : (time, .purgeSignals callId) ∈ h.signaling.world.db.scheduled)
    (purges : Purges ctx time callId
      ((leftovers createdAt h.signaling.callSignals callId).length = purgeBatch)
      h.signaling.world world) :
    Posted { h with signaling :=
      ⟨world, (leftovers createdAt h.signaling.callSignals callId).foldl
        (fun table row => table.delete row.1) h.signaling.callSignals⟩ } := by
  have finished := posted.purges time callId pending
  have opened (otherId : CallId) :
      CallOpen world.db otherId ↔ CallOpen h.signaling.world.db otherId := by
    unfold CallOpen
    rw [purges.calls]
  have over_ (otherId : CallId) :
      CallFinished world.db otherId ↔ CallFinished h.signaling.world.db otherId := by
    unfold CallFinished
    rw [purges.calls]
  have next := foldl_delete_next (leftovers createdAt h.signaling.callSignals callId)
    h.signaling.callSignals
  constructor
  · exact posted.ordered
  · exact fun x member => next ▸ posted.fresh x member
  · exact posted.addressed
  · intro x member
    rw [opened, over_]
    exact posted.begun x member
  · exact fun role otherId id member => next ▸ posted.acked role otherId id member
  · exact fun i signal found => posted.posted i signal (purge_get found).1
  · intro x member isOpen unacked
    have before := (opened _).mp isOpen
    refine purge_spares (posted.kept x member before unacked) ?_
    intro here
    rw [here] at before
    exact finished.unopened before
  · exact posted.ready.sub fun i signal found => (purge_get found).1
  · intro i signal found isOver
    obtain ⟨there, emptied⟩ := purge_get found
    by_cases here : signal.callId = callId
    · rw [here]
      exact ⟨_, purges.again (not_not.mp fun last => emptied last here)⟩
    · obtain ⟨when, waits⟩ := posted.purging i signal there ((over_ _).mp isOver)
      refine ⟨when, purges.others _ waits ?_⟩
      intro same
      exact here (Job.purgeSignals.inj (Prod.mk.inj same).2)
  · intro when otherId member
    rw [over_]
    rcases purges.origin _ member with old | new
    · exact posted.purges when otherId old
    · obtain rfl := Job.purgeSignals.inj (Prod.mk.inj new).2
      exact finished

/-- What a send commits is what it adds to the table. -/
theorem Posted.committed_send {parses : Text → Bool} {h : History} (posted : Posted h)
    {userId : Option UserId} {callId : CallId} {signals : List Signal} {call : Call}
    {role : CallRole} {after : Table CallSignal}
    (found : callForParticipant h.signaling.world.db userId callId = .ok (call, role))
    (connectable : call.status ∈ connectableStatuses)
    (outcome : Bling.send parses h.signaling.world.db h.signaling.callSignals userId callId
      signals = .ok after)
    (written : sendSignals parses callId role signals h.signaling.callSignals none = .ok after) :
    committed parses h (.send userId callId signals) =
      (after.rows.filter fun row => h.signaling.callSignals.next ≤ row.1).map fun row =>
        ⟨role, row.1, row.2⟩ := by
  have pending := posted.readyPending role ⟨call, callForParticipant_ok found, connectable⟩
  have rows := sendSignals_rows written
  rw [Option.getD_none, pending] at rows
  simp only [committed, found, outcome, Except.isOk, Except.toBool, if_true]
  rw [rows, Table.append_new, List.map_map]
  rfl

theorem Posted.step {parses : Text → Bool} {createdAt : Nat → Time} {h : History}
    (posted : Posted h) (input : Ctx × SignalOp) : Posted (h.step parses createdAt input) := by
  obtain ⟨ctx, op⟩ := input
  cases op with
  | send userId callId signals =>
      simp only [History.step, Signaling.step, acknowledged, List.append_nil]
      cases outcome : Bling.send parses h.signaling.world.db h.signaling.callSignals userId callId
          signals with
      | error code =>
          have nothing : committed parses h (.send userId callId signals) = [] := by
            simp only [committed, outcome, Except.isOk, Except.toBool, Bool.false_eq_true, if_false]
            split
            · rfl
            · rfl
          rw [nothing, List.append_nil]
          exact posted
      | ok after =>
          obtain ⟨role, ⟨call, found, connectable⟩, written⟩ := send_ok outcome
          have unknown : (none : Option Bool) ≠ some false := nofun
          rw [posted.committed_send found connectable outcome written]
          exact posted.send ⟨call, callForParticipant_ok found, connectable⟩
            (sendSignals_posts written) (sendSignals_ready posted.ready unknown written)
  | ack userId callId ids =>
      simp only [History.step, Signaling.step, committed, acknowledged, List.append_nil]
      cases outcome : Bling.ack h.signaling.world.db h.signaling.callSignals userId callId ids with
      | error code =>
          have unfound : ∃ code, callForParticipant h.signaling.world.db userId callId =
              .error code := by
            unfold Bling.ack at outcome
            cases found : callForParticipant h.signaling.world.db userId callId with
            | error code => exact ⟨code, rfl⟩
            | ok value =>
                rw [found] at outcome
                cases outcome
          obtain ⟨code', unfound⟩ := unfound
          simp only [Signaling.write, unfound, List.append_nil]
          exact posted
      | ok after =>
          obtain ⟨call, role, found, next, rows⟩ := ack_get outcome
          simp only [Signaling.write, found]
          exact posted.ack next rows
  | runPurge time callId =>
      simp only [History.step, committed, acknowledged, List.append_nil]
      by_cases due : (time, Job.purgeSignals callId) ∈ h.signaling.world.db.scheduled ∧
          time ≤ ctx.now
      · obtain ⟨world, same, purges⟩ := step_runPurge parses createdAt h.signaling ctx due
        rw [same]
        exact posted.purge due.1 purges
      · simp only [Signaling.step, due, if_false]
        exact posted
  | world op =>
      simp only [History.step, committed, acknowledged, List.append_nil, Signaling.step]
      split
      · exact posted
      · rename_i purgeless
        have proceeds := step_proceeds h.signaling.world
          (Bool.eq_false_iff.mpr purgeless : (ctx, op).2.purges = false)
        exact posted.world proceeds

theorem Posted.reached (parses : Text → Bool) (createdAt : Nat → Time)
    (inputs : List (Ctx × SignalOp)) :
    Posted (run (History.step parses createdAt) .empty inputs) := by
  have reached : Reachable (History.step parses createdAt) .empty
      (run (History.step parses createdAt) .empty inputs) := ⟨inputs, rfl⟩
  exact reached.induct Posted .empty fun h input posted => posted.step input

/-- The history only watches the system. -/
theorem History.run_signaling (parses : Text → Bool) (createdAt : Nat → Time) (h : History)
    (inputs : List (Ctx × SignalOp)) :
    (run (History.step parses createdAt) h inputs).signaling =
      run (Signaling.step parses createdAt) h.signaling inputs := by
  induction inputs generalizing h with
  | nil => rfl
  | cons input rest ih => exact ih (h.step parses createdAt input)

/-! ### The inbox -/

/-- Where creation times increase in commit order, the inbox is in commit order. -/
theorem inbox_eq {createdAt : Nat → Time} (increasing : StrictMono createdAt) {db : DB}
    (table : Table CallSignal) {userId : Option UserId} {callId : CallId} {call : Call}
    {role : CallRole} (found : callForParticipant db userId callId = .ok (call, role)) :
    inbox createdAt db table userId callId =
      .ok ((table.query fun s => s.callId == callId && s.recipient == role).map fun row =>
        (row.1, row.2.type, row.2.payload)) := by
  have sorted : (byCall createdAt table fun s => s.callId == callId && s.recipient == role).insertionSort
        (fun a b => createdAt a.1 ≤ createdAt b.1) =
      table.query fun s => s.callId == callId && s.recipient == role := by
    have rows (row : Nat × CallSignal) (member : row ∈ (byCall createdAt table fun s =>
        s.callId == callId && s.recipient == role).insertionSort
          fun a b => createdAt a.1 ≤ createdAt b.1) : table.get row.1 = some row.2 :=
      (mem_byCall.mp ((List.mem_insertionSort _).mp member)).1
    have total : Std.Total fun a b : Nat × CallSignal => createdAt a.1 ≤ createdAt b.1 :=
      ⟨fun a b => Nat.le_total _ _⟩
    have transitive : IsTrans (Nat × CallSignal) fun a b => createdAt a.1 ≤ createdAt b.1 :=
      ⟨fun a b c => Nat.le_trans⟩
    refine List.Perm.eq_of_pairwise ?_ (List.pairwise_insertionSort _ _)
      ((table.ordered.filter _).imp fun before => (increasing before).le) ?_
    · intro a b memberA memberB before after
      have same : a.1 = b.1 := increasing.injective (Nat.le_antisymm before after)
      have presentA := rows a memberA
      have presentB := ((table.mem_query _ b.1 b.2).mp memberB).1
      rw [same] at presentA
      exact Prod.ext same (Option.some.inj (presentA.symm.trans presentB))
    · exact (List.perm_insertionSort _ _).trans (List.perm_insertionSort _ _)
  unfold inbox
  rw [found]
  simp only [bind, Except.bind]
  rw [sorted]

/-- Whoever removes a signal is its recipient, or purges a call that is over. -/
theorem Posted.removed {parses : Text → Bool} {createdAt : Nat → Time} {h : History}
    (posted : Posted h) {input : Ctx × SignalOp} {i : Nat} {signal : CallSignal}
    (there : h.signaling.callSignals.get i = some signal)
    (gone : (h.signaling.step parses createdAt input).callSignals.get i ≠ some signal) :
    (∃ userId ids call, input.2 = .ack userId signal.callId ids ∧ i ∈ ids ∧
      callForParticipant h.signaling.world.db userId signal.callId =
        .ok (call, signal.recipient)) ∨
    (∃ time, input.2 = .runPurge time signal.callId) ∧
      CallFinished h.signaling.world.db signal.callId := by
  obtain ⟨ctx, op⟩ := input
  cases op with
  | send userId callId signals =>
      apply absurd _ gone
      simp only [Signaling.step]
      cases outcome : Bling.send parses h.signaling.world.db h.signaling.callSignals userId callId
          signals with
      | error code => exact there
      | ok after =>
          obtain ⟨role, _, written⟩ := send_ok outcome
          exact (sendSignals_posts written).old i signal there
  | ack userId callId ids =>
      simp only [Signaling.step] at gone
      cases outcome : Bling.ack h.signaling.world.db h.signaling.callSignals userId callId ids with
      | error code =>
          rw [outcome] at gone
          exact absurd there gone
      | ok after =>
          rw [outcome] at gone
          obtain ⟨call, role, found, _, rows⟩ := ack_get outcome
          have named : i ∈ ids ∧ signal.callId = callId ∧ signal.recipient = role := by
            by_contra spared
            exact gone ((rows i signal).mpr ⟨there, spared⟩)
          obtain ⟨named, rfl, rfl⟩ := named
          exact Or.inl ⟨userId, ids, call, rfl, named, found⟩
  | runPurge time callId =>
      by_cases due : (time, Job.purgeSignals callId) ∈ h.signaling.world.db.scheduled ∧
          time ≤ ctx.now
      · obtain ⟨world, same, _⟩ := step_runPurge parses createdAt h.signaling ctx due
        rw [same] at gone
        have here : signal.callId = callId := by
          by_contra apart
          exact gone (purge_spares there apart)
        subst here
        exact Or.inr ⟨⟨time, rfl⟩, posted.purges time _ due.1⟩
      · simp only [Signaling.step, due, if_false] at gone
        exact absurd there gone
  | world op =>
      apply absurd _ gone
      simp only [Signaling.step]
      split <;> exact there

/-- The call is over, and none of its signals are left. -/
def Cleared (s : Signaling) (callId : CallId) : Prop :=
  CallFinished s.world.db callId ∧ ∀ i signal, s.callSignals.get i = some signal →
    signal.callId ≠ callId

theorem Posted.cleared {h : History} (posted : Posted h) {callId : CallId}
    (finished : CallFinished h.signaling.world.db callId)
    (purged : ∀ time, (time, .purgeSignals callId) ∉ h.signaling.world.db.scheduled) :
    Cleared h.signaling callId := by
  refine ⟨finished, ?_⟩
  rintro i signal found rfl
  obtain ⟨time, pending⟩ := posted.purging i signal found finished
  exact purged time pending

/-- Nothing comes back. -/
theorem Cleared.step {parses : Text → Bool} {createdAt : Nat → Time} {s : Signaling}
    {callId : CallId} (cleared : Cleared s callId) (input : Ctx × SignalOp) :
    Cleared (s.step parses createdAt input) callId := by
  obtain ⟨finished, none⟩ := cleared
  obtain ⟨ctx, op⟩ := input
  cases op with
  | send userId sentId signals =>
      simp only [Signaling.step]
      cases outcome : Bling.send parses s.world.db s.callSignals userId sentId signals with
      | error code => exact ⟨finished, none⟩
      | ok after =>
          obtain ⟨role, ⟨call, found, connectable⟩, written⟩ := send_ok outcome
          refine ⟨finished, ?_⟩
          intro i signal there
          rcases (sendSignals_posts written).new i signal there with old | ⟨_, here, _⟩
          · exact none i signal old
          · rintro rfl
            exact finished.unopened ⟨call, here ▸ callForParticipant_ok found, connectable⟩
  | ack userId ackedId ids =>
      simp only [Signaling.step]
      cases outcome : Bling.ack s.world.db s.callSignals userId ackedId ids with
      | error code => exact ⟨finished, none⟩
      | ok after =>
          obtain ⟨_, _, _, _, rows⟩ := ack_get outcome
          exact ⟨finished, fun i signal there => none i signal ((rows i signal).mp there).1⟩
  | runPurge time purgedId =>
      by_cases due : (time, Job.purgeSignals purgedId) ∈ s.world.db.scheduled ∧ time ≤ ctx.now
      · obtain ⟨world, same, purges⟩ := step_runPurge parses createdAt s ctx due
        obtain ⟨call, found, isOver⟩ := finished
        rw [same]
        refine ⟨⟨call, ?_, isOver⟩, fun i signal there => none i signal (purge_get there).1⟩
        rw [purges.calls]
        exact found
      · simp only [Signaling.step, due, if_false]
        exact ⟨finished, none⟩
  | world op =>
      simp only [Signaling.step]
      split
      · exact ⟨finished, none⟩
      · rename_i purgeless
        have proceeds := step_proceeds s.world
          (Bool.eq_false_iff.mpr purgeless : (ctx, op).2.purges = false)
        exact ⟨proceeds.finished callId finished, none⟩

theorem Cleared.run {parses : Text → Bool} {createdAt : Nat → Time} {s : Signaling}
    {callId : CallId} (cleared : Cleared s callId) (inputs : List (Ctx × SignalOp)) :
    Cleared (Library.run (Signaling.step parses createdAt) s inputs) callId := by
  induction inputs generalizing s with
  | nil => exact cleared
  | cons input rest ih => exact ih (cleared.step input)

theorem Cleared.inbox {createdAt : Nat → Time} (increasing : StrictMono createdAt) {s : Signaling}
    {callId : CallId} (cleared : Cleared s callId) {userId : Option UserId} {call : Call}
    {role : CallRole} (found : callForParticipant s.world.db userId callId = .ok (call, role)) :
    inbox createdAt s.world.db s.callSignals userId callId = .ok [] := by
  rw [inbox_eq increasing _ found]
  have nothing : (s.callSignals.query fun s => s.callId == callId && s.recipient == role) = [] := by
    refine List.eq_nil_iff_forall_not_mem.mpr ?_
    rintro ⟨i, signal⟩ member
    obtain ⟨there, addressed⟩ := (s.callSignals.mem_query _ i signal).mp member
    simp only [Bool.and_eq_true, beq_iff_eq] at addressed
    exact cleared.2 i signal there addressed.1
  rw [nothing]
  rfl

/-- What the inbox promises in every state a history comes to. -/
structure Delivers (parses : Text → Bool) (createdAt : Nat → Time) (h : History) : Prop where
  /-- The inbox of an open call is what waits for the role, in commit order. -/
  waits : ∀ userId callId call role,
    callForParticipant h.signaling.world.db userId callId = .ok (call, role) →
    call.status ∈ connectableStatuses →
    inbox createdAt h.signaling.world.db h.signaling.callSignals userId callId =
      .ok (h.waiting callId role)
  in_order : h.sent.Pairwise fun a b => createdAt a.id < createdAt b.id
  removed : ∀ input i signal, h.signaling.callSignals.get i = some signal →
    (h.signaling.step parses createdAt input).callSignals.get i ≠ some signal →
    (∃ userId ids call, input.2 = .ack userId signal.callId ids ∧ i ∈ ids ∧
      callForParticipant h.signaling.world.db userId signal.callId =
        .ok (call, signal.recipient)) ∨
    (∃ time, input.2 = .runPurge time signal.callId) ∧
      CallFinished h.signaling.world.db signal.callId
  one_ready : ∀ i j a b, h.signaling.callSignals.get i = some a →
    h.signaling.callSignals.get j = some b → a.type = .ready → b.type = .ready →
    a.callId = b.callId → i = j
  /-- A batch that passes the checks is sent. -/
  sends : ∀ userId callId call role signals,
    callForParticipant h.signaling.world.db userId callId = .ok (call, role) →
    call.status ∈ connectableStatuses → 1 ≤ signals.length → signals.length ≤ maxSignalBatch →
    (∀ signal ∈ signals, checkSignal parses role signal = .ok ()) → ∃ after,
      send parses h.signaling.world.db h.signaling.callSignals userId callId signals = .ok after
  all_or_none : ∀ ctx userId callId call role signals signal,
    callForParticipant h.signaling.world.db userId callId = .ok (call, role) →
    signal ∈ signals → checkSignal parses role signal ≠ .ok () →
    h.signaling.step parses createdAt (ctx, .send userId callId signals) = h.signaling
  /-- Once a call that is over is purged, its inboxes are empty, whatever comes. -/
  cleared : ∀ callId, CallFinished h.signaling.world.db callId →
    (∀ time, (time, .purgeSignals callId) ∉ h.signaling.world.db.scheduled) →
    ∀ inputs userId call role,
      let later := run (Signaling.step parses createdAt) h.signaling inputs
      callForParticipant later.world.db userId callId = .ok (call, role) →
      inbox createdAt later.world.db later.callSignals userId callId = .ok []

theorem signals_delivered (parses : Text → Bool) {createdAt : Nat → Time}
    (increasing : StrictMono createdAt) (inputs : List (Ctx × SignalOp)) :
    let h := run (History.step parses createdAt) .empty inputs
    h.signaling = run (Signaling.step parses createdAt) .empty inputs ∧
      Delivers parses createdAt h := by
  have posted := Posted.reached parses createdAt inputs
  refine ⟨History.run_signaling parses createdAt .empty inputs, ?_⟩
  constructor
  · intro userId callId call role found connectable
    rw [inbox_eq increasing _ found]
    rw [posted.waiting role ⟨call, callForParticipant_ok found, connectable⟩]
  · exact posted.ordered.imp fun before => increasing before
  · exact fun input i signal there gone => posted.removed there gone
  · exact posted.ready.one
  · intro userId callId call role signals found connectable some few valid
    simp only [Bling.send, found, bind, Except.bind]
    rw [if_neg (not_not.mpr connectable), if_neg (by omega)]
    exact sendSignals_valid callId valid _ none
  · intro ctx userId callId call role signals signal found member invalid
    have failed : ∃ code, checkSignal parses role signal = .error code := by
      cases checked : checkSignal parses role signal with
      | error code => exact ⟨code, rfl⟩
      | ok value => exact absurd checked invalid
    obtain ⟨code, failed⟩ := failed
    simp only [Signaling.step, Bling.send, found, bind, Except.bind]
    split
    · rfl
    · split
      · rfl
      · obtain ⟨code', refused⟩ := sendSignals_invalid member failed
          (run (History.step parses createdAt) .empty inputs).signaling.callSignals none
        rw [refused]
        rfl
  · intro callId finished purged more userId call role later found
    exact ((posted.cleared finished purged).run more).inbox increasing found

/-- Over a paid call the caller says twice in one batch that it is ready, with a candidate in
between; the creator, who has handled the first, offers and sends a candidate. -/
def greeting : List (Ctx × SignalOp) :=
  (World.sampled World.paid).map (fun input => (input.1, .world input.2)) ++
    [(⟨5, World.sampleEnv⟩, .send (some 1) 0
        [⟨.ready, [123, 125]⟩, ⟨.ice, [123, 32, 125]⟩, ⟨.ready, [123, 125]⟩]),
      (⟨5, World.sampleEnv⟩, .ack (some 0) 0 [0]),
      (⟨5, World.sampleEnv⟩, .send (some 0) 0 [⟨.offer, [123, 125]⟩, ⟨.ice, [123, 32, 125]⟩])]

set_option maxRecDepth 20000 in
theorem signals_delivered_greeting :
    (run (History.step (fun _ => true) id) .empty greeting).waiting 0 .creator =
      [(1, .ice, [123, 32, 125])] ∧
    (run (History.step (fun _ => true) id) .empty greeting).waiting 0 .viewer =
      [(2, .offer, [123, 125]), (3, .ice, [123, 32, 125])] ∧
    Delivers (fun _ => true) id (run (History.step (fun _ => true) id) .empty greeting) :=
  ⟨by decide, by decide, (signals_delivered (fun _ => true) strictMono_id greeting).2⟩

end Bling
