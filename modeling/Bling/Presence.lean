import Bling.Jobs
import Bling.Linked

set_option autoImplicit false

namespace Bling

open Library

/-! Who is present in a call, and the checks that watch over them. Checks are
never cancelled; the timestamps tell the live one from the stale ones. -/

/-! ### What a mutation does to presence -/

/-- Presence, and the jobs that watch over it, stay as they are. -/
structure Calm (before after : DB) : Prop where
  presence : after.callPresence = before.callPresence
  adds : Adds Job.calm before after

theorem Calm.refl (db : DB) : Calm db db := ⟨rfl, .refl db⟩

theorem Calm.trans {a b c : DB} (first : Calm a b) (second : Calm b c) : Calm a c :=
  ⟨second.presence.trans first.presence, first.adds.trans second.adds⟩

theorem Quiet.calm {a b : DB} (quiet : Quiet a b) : Calm a b :=
  ⟨quiet.presence, quiet.adds.mono fun _ plain => plain.calm⟩

abbrev CallStatus.finished (status : CallStatus) : Prop := status = .ended ∨ status = .failed

/-- The call finishes: nobody is present any more, and its signals are purged. -/
structure HangsUp (ctx : Ctx) (callId : CallId) (before after : DB) : Prop where
  finished : ∃ call, after.calls.get callId = some call ∧ call.status.finished
  presence : ∀ i row, after.callPresence.get i = some row ↔
    before.callPresence.get i = some row ∧ row.callId ≠ callId
  purged : (ctx.now, .purgeSignals callId) ∈ after.scheduled
  adds : Adds (fun job => job = .purgeSignals callId ∨ job.calm) before after

/-- The refund that `finishCall` asks for. -/
theorem finishRefund_quiet (ctx : Ctx) (db : DB) (callId : CallId) (call : Call)
    (reason : RefundReason) : Quiet db (if call.startedAt = none then
      match call.paymentAttemptId with
      | none => db
      | some attemptId =>
        match db.paymentAttempts.get attemptId with
        | none => db
        | some attempt => requestRefund ctx db attemptId attempt callId reason
    else db) := by
  split
  · split
    · exact .refl db
    · split
      · exact .refl db
      · exact requestRefund_quiet ctx db _ _ _ _
  · exact .refl db

theorem finishCall_hangsUp (ctx : Ctx) (db : DB) {callId : CallId} (call : Call)
    {target : CallStatus} (finished : target.finished) {later : Call}
    (moved : db.calls.get callId = some later) (status : later.status = target) :
    HangsUp ctx callId db (finishCall ctx db callId call target) := by
  have same := finishCall_same ctx db callId call target
  have quiet := finishRefund_quiet ctx db callId call
    (if target = .failed then .callFailedBeforeLive else .callEndedBeforeLive)
  constructor
  · exact ⟨later, by rw [same.calls, moved], status ▸ finished⟩
  · intro i row
    unfold finishCall
    rw [if_pos finished]
    dsimp only
    rw [Table.get_delete_query, beq_eq_false_iff_ne]
    exact and_congr_left' (by rw [← quiet.presence]; rfl)
  · unfold finishCall
    rw [if_pos finished]
    exact List.mem_append_right _ (List.mem_singleton.mpr rfl)
  · unfold finishCall
    rw [if_pos finished]
    refine (quiet.adds.mono fun _ plain => Or.inr plain.calm).trans ?_
    exact (Adds.runAfter _ ctx.now 0 (Or.inl rfl)).trans (.of_eq rfl)

theorem moveCall_quiet (ctx : Ctx) (db : DB) (callId : CallId) (call : Call) {target : CallStatus}
    (ongoing : ¬ target.finished) : Quiet db (moveCall ctx db callId call target) := by
  unfold moveCall finishCall
  dsimp only
  rw [if_neg ongoing]
  exact (goLive_quiet ctx db callId call target).trans (.of_eq rfl rfl)

theorem moveCall_hangsUp (ctx : Ctx) (db : DB) {callId : CallId} {call : Call}
    {target : CallStatus} (finished : target.finished) (present : db.calls.get callId = some call) :
    HangsUp ctx callId db (moveCall ctx db callId call target) := by
  have live := goLive_quiet ctx db callId call target
  have calls := (goLive_same ctx db callId call target).calls
  unfold moveCall
  dsimp only
  have moved : ((goLive ctx db callId call target).calls.patch callId
      (transitionPatch ctx target)).get callId = some (transitionPatch ctx target call) :=
    Table.get_patch_self (by rw [calls]; exact present) _
  obtain ⟨isOver, gone, purged, adds⟩ := finishCall_hangsUp ctx
    { goLive ctx db callId call target with
      calls := (goLive ctx db callId call target).calls.patch callId (transitionPatch ctx target)
      queueEntries := (goLive ctx db callId call target).queueEntries.patch call.queueEntryId
        fun e => { e with status := entryStatusFor target } } call finished moved rfl
  refine ⟨isOver, ?_, purged, ?_⟩
  · intro i row
    rw [gone]
    exact and_congr_left' (by rw [← live.presence])
  · exact (live.adds.mono fun _ plain => Or.inr plain.calm).trans ((Adds.of_eq rfl).trans adds)

/-- The mutation finishes the call. -/
def Mutation.Ends (ctx : Ctx) (db : DB) (m : Mutation) (callId : CallId) : Prop :=
  ∃ call target, m.moves ctx db = some (callId, call, target) ∧
    db.calls.get callId = some call ∧ canTransition call.status target = true ∧ target.finished

/-- The row of a participant who is here now. -/
def beatRows (ctx : Ctx) (db : DB) (callId : CallId) (role : CallRole) : Table CallPresence :=
  match presenceRow db callId role with
  | some (rowId, _) => db.callPresence.patch rowId fun p =>
      { p with lastSeenAt := ctx.now, disconnectedAt := none }
  | none => db.callPresence.insert
      { callId, role, lastSeenAt := ctx.now, disconnectedAt := none }

def beatDB (ctx : Ctx) (db : DB) (callId : CallId) (role : CallRole) : DB :=
  { db with callPresence := beatRows ctx db callId role }.runAfter ctx.now presenceTtlMs
    (.checkSeen callId role ctx.now)

/-- The signed-in user takes part in the call, which is open. -/
def TakesPart (db : DB) (userId : Option UserId) (callId : CallId) (role : CallRole) : Prop :=
  ∃ call, callForParticipant db userId callId = .ok (call, role) ∧
    call.status ∈ connectableStatuses

/-- A mutation that finishes no call leaves presence as it is, or is a heartbeat,
or marks a participant disconnected. -/
inductive Attends (ctx : Ctx) (db : DB) (m : Mutation) (after : DB) : Prop
  | calm (calm : Calm db after)
  | beat (userId : Option UserId) (callId : CallId) (role : CallRole)
      (asked : m = .heartbeat userId callId) (part : TakesPart db userId callId role)
      (wrote : after = beatDB ctx db callId role)
  | marked (rowId : Nat) (row : CallPresence) (callId : CallId) (role : CallRole)
      (asked : (∃ userId, m = .leaveCall userId callId ∧ TakesPart db userId callId role) ∨
        m = .checkSeen callId role row.lastSeenAt)
      (present : presenceRow db callId role = some (rowId, row))
      (connected : row.disconnectedAt = none)
      (wrote : after = markDisconnected ctx db rowId callId role)

theorem applyTransition_calm {ctx : Ctx} {db : DB} {callId : CallId} {call : Call}
    {target : CallStatus} {after : DB} {value : Unit}
    (outcome : applyTransition ctx db callId call target = .ok (after, value))
    (ongoing : canTransition call.status target = true → ¬ target.finished) : Calm db after := by
  rcases applyTransition_ok outcome with rfl | ⟨allowed, rfl⟩
  · exact .refl after
  · exact (moveCall_quiet ctx db callId call (ongoing allowed)).calm

theorem Attends.committed {α : Type} {ctx : Ctx} {db : DB} {m : Mutation}
    {result : Except ErrorCode (DB × α)}
    (each : ∀ after value, result = .ok (after, value) → Attends ctx db m after) :
    Attends ctx db m (commit db result) := by
  cases result with
  | error code => exact .calm (.refl db)
  | ok outcome => exact each outcome.1 outcome.2 rfl

theorem HangsUp.runAfter {ctx : Ctx} {callId : CallId} {before after : DB}
    (hangsUp : HangsUp ctx callId before after) (delay : Time) {job : Job} (calm : job.calm) :
    HangsUp ctx callId before (after.runAfter ctx.now delay job) :=
  ⟨hangsUp.finished, hangsUp.presence, List.mem_append_left _ hangsUp.purged,
    hangsUp.adds.trans (.runAfter after ctx.now delay (Or.inr calm))⟩

/-- Ending a show that has no open call finishes none. -/
theorem endShow_calm (ctx : Ctx) (db : DB) (userId : Option UserId) (showId : ShowId) :
    let m := Mutation.endShow userId showId
    (∃ callId, m.Ends ctx db callId) ∨ Calm db (m.apply ctx db) := by
  intro m
  show _ ∨ Calm db (commit db (endShow ctx db userId showId))
  cases outcome : endShow ctx db userId showId with
  | error code => exact Or.inr (.refl db)
  | ok result =>
      unfold endShow at outcome
      obtain ⟨creatorId, authenticated, outcome⟩ := bind_ok outcome
      obtain ⟨hotline, found, outcome⟩ := bind_ok outcome
      split at outcome
      · obtain rfl := Except.ok.inj outcome
        exact Or.inr (.refl db)
      · split at outcome
        · cases outcome
        · rename_i isLive
          have live := not_not.mp isLive
          dsimp only at outcome
          have sameCall : activeCallForShow
              { db with shows := db.shows.patch showId fun s =>
                { s with status := .ended, endedAt := some ctx.now } } showId =
              activeCallForShow db showId := rfl
          rw [sameCall] at outcome
          have closes (later : DB) (quiet : Quiet db later) :
              Calm db (later.runAfter ctx.now 0 (.closeQueue showId)) :=
            quiet.calm.trans ⟨rfl, .runAfter later _ _ trivial⟩
          cases active : activeCallForShow db showId with
          | none =>
              rw [active] at outcome
              obtain rfl := Except.ok.inj outcome
              exact Or.inr (closes _ (.of_eq rfl rfl))
          | some row =>
              obtain ⟨callId, call⟩ := row
              rw [active] at outcome
              dsimp only at outcome
              split at outcome
              · rename_i connectable
                have moves : m.moves ctx db = some (callId, call, .ended) := by
                  simp only [m, Mutation.moves, authenticated, found, if_pos live, active,
                    if_pos connectable]
                have allowed := connectable_ends connectable
                have present := (activeCallForShow_present active).1
                exact Or.inl ⟨callId, call, .ended, moves, present, allowed, Or.inl rfl⟩
              · obtain rfl := Except.ok.inj outcome
                exact Or.inr (closes _ (.of_eq rfl rfl))

/-- What a mutation that finishes a call does. -/
theorem Mutation.Ends.hangsUp {ctx : Ctx} {db : DB} {m : Mutation} {callId : CallId}
    (ends : m.Ends ctx db callId) : HangsUp ctx callId db (m.apply ctx db) := by
  obtain ⟨call, target, asked, present, allowed, finished⟩ := ends
  have hangsUp := moveCall_hangsUp ctx db finished present
  have applied := applyTransition_allowed ctx db callId allowed
  cases m with
  | transition userId otherId status =>
      simp only [Mutation.moves] at asked
      split at asked
      · rename_i held role found
        split at asked
        · rename_i permitted
          cases asked
          have outcome : Bling.transition ctx db userId callId target =
              .ok (moveCall ctx db callId call target, ()) := by
            simp only [Bling.transition, found, bind, Except.bind, permitted, not_true_eq_false,
              if_false, applied]
          simp only [Mutation.apply, outcome, commit]
          exact hangsUp
        · cases asked
      · cases asked
  | expire otherId =>
      simp only [Mutation.moves] at asked
      split at asked
      · rename_i held found
        split at asked
        · rename_i due
          cases asked
          have outcome : Bling.expire ctx db callId =
              .ok (moveCall ctx db callId call .ended, ()) := by
            unfold Bling.expire
            rw [found]
            dsimp only
            rw [if_neg, applied]
            rintro (other | early)
            · exact other due.1
            · exact absurd due.2 (Nat.not_le_of_lt early)
          simp only [Mutation.apply, outcome, commit]
          exact hangsUp
        · cases asked
      · cases asked
  | checkGrace otherId role disconnectedAt =>
      simp only [Mutation.moves] at asked
      split at asked
      · rename_i still
        split at asked
        · rename_i held found
          split at asked
          · rename_i connectable
            cases asked
            have outcome : Bling.checkGrace ctx db callId role disconnectedAt =
                .ok (moveCall ctx db callId call .failed, ()) := by
              unfold Bling.checkGrace
              rw [if_neg (not_not.mpr still), found]
              dsimp only
              rw [if_pos connectable, applied]
            simp only [Mutation.apply, outcome, commit]
            exact hangsUp
          · cases asked
        · cases asked
      · cases asked
  | endShow userId showId =>
      simp only [Mutation.moves] at asked
      split at asked
      · cases asked
      · rename_i creatorId authenticated
        split at asked
        · cases asked
        · rename_i hotline found
          split at asked
          · rename_i live
            split at asked
            · rename_i held active
              split at asked
              · rename_i connectable
                cases asked
                have sameCall : activeCallForShow
                    { db with shows := db.shows.patch showId fun s =>
                      { s with status := .ended, endedAt := some ctx.now } } showId =
                    some (callId, call) := active
                have outcome : Bling.endShow ctx db userId showId =
                    .ok ((moveCall ctx { db with shows := db.shows.patch showId fun s =>
                      { s with status := .ended, endedAt := some ctx.now } } callId call
                      .ended).runAfter ctx.now 0 (.closeQueue showId), ()) := by
                  simp only [Bling.endShow, authenticated, found, bind, Except.bind, live,
                    reduceCtorEq, if_false, ne_eq, not_true_eq_false, sameCall, connectable,
                    if_true, applyTransition_allowed ctx _ callId allowed, Except.map]
                have moved := moveCall_hangsUp ctx { db with
                  shows := db.shows.patch showId fun s =>
                    { s with status := .ended, endedAt := some ctx.now } } (Or.inl rfl) present
                have hangsUp : HangsUp ctx callId db (moveCall ctx { db with
                    shows := db.shows.patch showId fun s =>
                      { s with status := .ended, endedAt := some ctx.now } } callId call .ended) :=
                  ⟨moved.finished, moved.presence, moved.purged, moved.adds⟩
                simp only [Mutation.apply, outcome, commit]
                exact hangsUp.runAfter 0 (by trivial)
              · cases asked
            · cases asked
          · cases asked
  | _ => cases asked

/-- Where the mutation ends no call, neither does the transition it asks for. -/
theorem Attends.transition {ctx : Ctx} {db : DB} {m : Mutation}
    (none : ∀ callId, ¬ m.Ends ctx db callId) {callId : CallId} {call : Call}
    {target : CallStatus} {after : DB} {value : Unit}
    (asked : m.moves ctx db = some (callId, call, target))
    (present : db.calls.get callId = some call)
    (outcome : applyTransition ctx db callId call target = .ok (after, value)) :
    Attends ctx db m after := by
  refine .calm (applyTransition_calm outcome ?_)
  intro allowed finished
  exact none callId ⟨call, target, asked, present, allowed, finished⟩

theorem Mutation.transition_attended (ctx : Ctx) (db : DB) (userId : Option UserId)
    (callId : CallId) (status : CallStatus)
    (none : ∀ id, ¬ (Mutation.transition userId callId status).Ends ctx db id) :
    Attends ctx db (Mutation.transition userId callId status)
      ((Mutation.transition userId callId status).apply ctx db) := by
  refine .committed ?_
  intro after value outcome
  unfold Bling.transition at outcome
  obtain ⟨⟨call, role⟩, found, outcome⟩ := bind_ok outcome
  dsimp only at outcome
  split at outcome
  · cases outcome
  · rename_i permitted
    refine .transition none ?_ (callForParticipant_ok found) outcome
    simp only [Mutation.moves, found, if_pos (not_not.mp permitted)]

theorem Mutation.expire_attended (ctx : Ctx) (db : DB) (callId : CallId)
    (none : ∀ id, ¬ (Mutation.expire callId).Ends ctx db id) :
    Attends ctx db (Mutation.expire callId) ((Mutation.expire callId).apply ctx db) := by
  refine .committed ?_
  intro after value outcome
  unfold Bling.expire at outcome
  split at outcome
  · obtain ⟨rfl, rfl⟩ := Prod.mk.inj (Except.ok.inj outcome)
    exact .calm (.refl _)
  · rename_i call present
    split at outcome
    · obtain ⟨rfl, rfl⟩ := Prod.mk.inj (Except.ok.inj outcome)
      exact .calm (.refl _)
    · rename_i due
      obtain ⟨live, reached⟩ := not_or.mp due
      refine .transition none ?_ present outcome
      simp only [Mutation.moves, present,
        if_pos (And.intro (not_not.mp live) (Nat.le_of_not_lt reached))]

theorem Mutation.heartbeat_attended (ctx : Ctx) (db : DB) (userId : Option UserId)
    (callId : CallId) :
    Attends ctx db (Mutation.heartbeat userId callId)
      ((Mutation.heartbeat userId callId).apply ctx db) := by
  refine .committed ?_
  intro after value outcome
  obtain ⟨⟨call, role⟩, found, outcome⟩ := bind_ok outcome
  dsimp only at outcome
  split at outcome
  · cases outcome
  · rename_i connectable
    obtain ⟨rfl, rfl⟩ := Prod.mk.inj (Except.ok.inj outcome)
    exact .beat userId callId role rfl ⟨call, found, not_not.mp connectable⟩ rfl

theorem Mutation.leaveCall_attended (ctx : Ctx) (db : DB) (userId : Option UserId)
    (callId : CallId) :
    Attends ctx db (Mutation.leaveCall userId callId)
      ((Mutation.leaveCall userId callId).apply ctx db) := by
  refine .committed ?_
  intro after value outcome
  obtain ⟨⟨call, role⟩, found, outcome⟩ := bind_ok outcome
  dsimp only at outcome
  split at outcome
  · obtain ⟨rfl, rfl⟩ := Prod.mk.inj (Except.ok.inj outcome)
    exact .calm (.refl _)
  · rename_i connectable
    split at outcome
    · rename_i rowId row present
      split at outcome
      · rename_i connected
        obtain ⟨rfl, rfl⟩ := Prod.mk.inj (Except.ok.inj outcome)
        exact .marked rowId row callId role
          (Or.inl ⟨userId, rfl, call, found, not_not.mp connectable⟩) present connected rfl
      · obtain ⟨rfl, rfl⟩ := Prod.mk.inj (Except.ok.inj outcome)
        exact .calm (.refl _)
    · obtain ⟨rfl, rfl⟩ := Prod.mk.inj (Except.ok.inj outcome)
      exact .calm (.refl _)

theorem Mutation.checkSeen_attended (ctx : Ctx) (db : DB) (callId : CallId) (role : CallRole)
    (seenAt : Time) :
    Attends ctx db (Mutation.checkSeen callId role seenAt)
      ((Mutation.checkSeen callId role seenAt).apply ctx db) := by
  simp only [Mutation.apply, Bling.checkSeen]
  split
  · exact .calm (.refl db)
  · rename_i rowId row present
    split
    · exact .calm (.refl db)
    · rename_i stays
      obtain ⟨seen, connected⟩ := not_or.mp stays
      rw [not_not] at seen connected
      exact .marked rowId row callId role (Or.inr (by rw [seen])) present connected rfl

theorem Mutation.checkGrace_attended (ctx : Ctx) (db : DB) (callId : CallId) (role : CallRole)
    (disconnectedAt : Time)
    (none : ∀ id, ¬ (Mutation.checkGrace callId role disconnectedAt).Ends ctx db id) :
    Attends ctx db (Mutation.checkGrace callId role disconnectedAt)
      ((Mutation.checkGrace callId role disconnectedAt).apply ctx db) := by
  refine .committed ?_
  intro after value outcome
  unfold Bling.checkGrace at outcome
  split at outcome
  · obtain ⟨rfl, rfl⟩ := Prod.mk.inj (Except.ok.inj outcome)
    exact .calm (.refl _)
  · rename_i still
    split at outcome
    · obtain ⟨rfl, rfl⟩ := Prod.mk.inj (Except.ok.inj outcome)
      exact .calm (.refl _)
    · rename_i call present
      split at outcome
      · rename_i connectable
        refine .transition none ?_ present outcome
        simp only [Mutation.moves, if_pos (not_not.mp still), present, if_pos connectable]
      · obtain ⟨rfl, rfl⟩ := Prod.mk.inj (Except.ok.inj outcome)
        exact .calm (.refl _)

theorem Mutation.attended (ctx : Ctx) (db : DB) (m : Mutation)
    (none : ∀ callId, ¬ m.Ends ctx db callId) : Attends ctx db m (m.apply ctx db) := by
  cases m with
  | transition userId callId status => exact transition_attended ctx db userId callId status none
  | expire callId => exact expire_attended ctx db callId none
  | heartbeat userId callId => exact heartbeat_attended ctx db userId callId
  | leaveCall userId callId => exact leaveCall_attended ctx db userId callId
  | checkSeen callId role seenAt => exact checkSeen_attended ctx db callId role seenAt
  | checkGrace callId role disconnectedAt =>
      exact checkGrace_attended ctx db callId role disconnectedAt none
  | endShow userId showId =>
      rcases endShow_calm ctx db userId showId with ⟨callId, ends⟩ | calm
      · exact absurd ends (none callId)
      · exact .calm calm
  | closeQueue showId =>
      have quiet := (closeEntries_quiet ctx db showId closeBatch).calm
      refine .calm ?_
      show Calm db (Bling.closeQueue ctx db showId)
      unfold Bling.closeQueue
      dsimp only
      split
      · exact ⟨quiet.presence, quiet.adds.trans (.runAfter _ _ _ trivial)⟩
      · exact quiet
  | _ => exact .calm (Mutation.quiet ctx db _ rfl).calm

/-! ### Open calls -/

def CallOpen (db : DB) (callId : CallId) : Prop :=
  ∃ call, db.calls.get callId = some call ∧ call.status ∈ connectableStatuses

theorem finished_unconnectable {status : CallStatus} (finished : status.finished) :
    status ∉ connectableStatuses := by
  rcases finished with rfl | rfl <;> decide

/-- A call stays open until a mutation finishes it. -/
theorem Effect.callOpen {ctx : Ctx} {db after : DB} {m : Mutation} (effect : Effect ctx db m after)
    {callId : CallId} (isOpen : CallOpen db callId) :
    CallOpen after callId ∨ m.Ends ctx db callId := by
  obtain ⟨call, found, connectable⟩ := isOpen
  have patched (key : CallId) (f : Call → Call)
      (keeps : ∀ c, key = callId → c = call → (f c).status ∈ connectableStatuses)
      (same : after.calls = db.calls.patch key f) : CallOpen after callId := by
    by_cases here : callId = key
    · subst here
      exact ⟨f call, by rw [same, Table.get_patch_self found], keeps call rfl rfl⟩
    · exact ⟨call, by rw [same, Table.get_patch_of_ne here, found], connectable⟩
  have unpending {pendingId : CallId} {pending : Call}
      (present : db.calls.get pendingId = some pending) (status : pending.status = .paymentPending)
      (here : pendingId = callId) : False := by
    subst here
    rw [← Option.some.inj (found.symm.trans present)] at status
    rw [status] at connectable
    revert connectable
    decide
  cases effect with
  | moved movedId moving target shows present allowed asked isOver same =>
      by_cases finished : target.finished ∧ movedId = callId
      · obtain ⟨finished, rfl⟩ := finished
        obtain rfl := Option.some.inj (found.symm.trans present)
        exact Or.inr ⟨call, target, asked, found, allowed, finished⟩
      · refine Or.inl (patched movedId (transitionPatch ctx target) ?_ same.calls)
        rintro c rfl rfl
        have ongoing : ¬ target.finished := fun over_ => finished ⟨over_, rfl⟩
        obtain rfl := Option.some.inj (found.symm.trans present)
        show target ∈ connectableStatuses
        cases held : c.status <;> cases target <;>
          simp_all [canTransition, transitions, connectableStatuses, CallStatus.finished]
  | selected showId hotline entryId entry mode attempt asked host live idle present inShow waiting
      held paid same =>
      refine Or.inl ⟨call, ?_, connectable⟩
      rw [same.calls, openCall_calls]
      exact Table.get_insert_of_some found _
  | callOpened attemptId attempt capturedAt method openedId opened asked present located pending live
      same =>
      refine Or.inl (patched openedId (fun c => { c with status := .created }) ?_ same.calls)
      intro c _ _
      show CallStatus.created ∈ connectableStatuses
      decide
  | callMissed attemptId attempt capturedAt method missedId missed asked present located unstarted
      isOver pending same =>
      refine Or.inl (patched missedId (failedPatch ctx) ?_ same.calls)
      intro c here _
      exact absurd here (unpending (callForAttempt_present located).1 pending)
  | notCaptured attemptId attempt status failureCode canceledAt calls queueEntries asked present
      uncaptured failed released same =>
      rcases failed with ⟨unchanged, _⟩ | ⟨failedId, missed, located, pending, written⟩
      · exact Or.inl ⟨call, by rw [same.calls]; exact unchanged ▸ found, connectable⟩
      · refine Or.inl (patched failedId (failedPatch ctx) ?_ (same.calls.trans written))
        intro c here _
        exact absurd here (unpending (callForAttempt_present located).1 pending)
  | _ =>
      rename_i same
      exact Or.inl ⟨call, by rw [same.calls]; exact found, connectable⟩

end Bling
