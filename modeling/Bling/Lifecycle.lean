import Bling.Jobs
import Bling.QueueInStep

set_option autoImplicit false

namespace Bling

open Library

/-! Shows, calls and the queue in every reachable state. -/

/-! ### Shows -/

/-- The show is over. -/
def EndedIn (shows : Table Show) (showId : ShowId) : Prop :=
  ∃ hotline, shows.get showId = some hotline ∧ hotline.status = .ended

theorem EndedIn.unlive {shows : Table Show} {showId : ShowId} (ended : EndedIn shows showId) :
    ¬ LiveIn shows showId := by
  rintro ⟨hotline, present, live⟩
  obtain ⟨isOver, found, status⟩ := ended
  obtain rfl := Option.some.inj (present.symm.trans found)
  rw [status] at live
  cases live

/-- A show keeps its creator, and one that is over stays over. -/
structure ShowGoes (before after : Show) : Prop where
  creatorId : after.creatorId = before.creatorId
  ended : before.status = .ended → after.status = .ended

theorem ShowGoes.refl (hotline : Show) : ShowGoes hotline hotline := ⟨rfl, id⟩

theorem Effect.show_goes {ctx : Ctx} {db after : DB} {m : Mutation} (effect : Effect ctx db m after) :
    Table.Follow (fun _ => ShowGoes) (fun s => s.status = .created) db.shows after.shows := by
  have stays (_ : ShowId) (s : Show) : ShowGoes s s := .refl s
  have ends (hotline : Show) : ShowGoes hotline
      { hotline with status := .ended, endedAt := some ctx.now } := ⟨rfl, fun _ => rfl⟩
  cases effect with
  | showAdded hotline tier created free same =>
      rw [same.shows]
      exact .insert stays _ created
  | showStarted showId hotline present created alone same =>
      rw [same.shows]
      dsimp only
      refine .patch_row stays present ⟨rfl, ?_⟩
      intro ended
      rw [created] at ended
      cases ended
  | showEnded showId hotline asked present live idle same =>
      rw [same.shows]
      exact .patch stays fun s _ => ends s
  | moved callId call target shows present allowed asked isOver same =>
      rw [same.shows]
      dsimp only
      rcases isOver with unchanged | ⟨_, showId, hotline, _, _, _, _, patched⟩
      · rw [unchanged]
        exact .refl stays _
      · rw [patched]
        exact .patch stays fun s _ => ends s
  | selected showId hotline entryId entry mode attempt asked host live idle present inShow waiting
      held paid same =>
      rw [same.shows]
      cases attempt <;> exact .refl stays _
  | _ =>
      rename_i same
      exact .of_eq stays same.shows

theorem step_shows (w : World) (input : Ctx × Op) :
    Table.Follow (fun _ => ShowGoes) (fun s => s.status = .created) w.db.shows
      (w.step input).db.shows := by
  rcases World.step_ran w input with ⟨_, later, same⟩ | ⟨m, earlier, later, _, same⟩
  · rw [same]
    exact .refl (fun _ => .refl) _
  · rw [same]
    exact (m.effect input.1 { w.db with scheduled := earlier }).show_goes

theorem EndedIn.step {w : World} {showId : ShowId} (ended : EndedIn w.db.shows showId)
    (input : Ctx × Op) : EndedIn (w.step input).db.shows showId := by
  obtain ⟨hotline, present, status⟩ := ended
  obtain ⟨after, found, goes⟩ := (step_shows w input).kept showId hotline present
  exact ⟨after, found, goes.ended status⟩

/-! ### Queues that close -/

/-- Only the queues of shows that are over wait to be closed. -/
def ClosesEnded (db : DB) : Prop :=
  ∀ time showId, (time, .closeQueue showId) ∈ db.scheduled → EndedIn db.shows showId

theorem ClosesEnded.step {w : World} (closes : ClosesEnded w.db) (input : Ctx × Op) :
    ClosesEnded (w.step input).db := by
  intro time showId member
  have old (before : (time, Job.closeQueue showId) ∈ w.db.scheduled) :
      EndedIn (w.step input).db.shows showId := (closes time showId before).step input
  rcases step_adds w input with adds | ⟨userId, ending, _, after⟩ | ⟨at_, closing, _, ran, _, after⟩
  · rcases adds.origin member with before | spares
    · exact old (World.started_mem before)
    · exact absurd rfl (spares showId)
  · rcases endShow_adds input.1 w.db userId ending with
      still | ⟨hotline, before, _, _, isOver, adds, ended⟩
    · rw [after, still] at member
      exact old member
    · rw [after, ended] at member
      rcases List.mem_append.mp member with earlier | new
      · rcases adds.origin earlier with before | spares
        · exact old before
        · exact absurd rfl (spares showId)
      · obtain ⟨_, same⟩ := Prod.mk.inj (List.mem_singleton.mp new)
        obtain rfl := Job.closeQueue.inj same
        rw [after, ended]
        exact isOver
  · obtain ⟨adds, closed⟩ := closeQueue_adds input.1 (w.started input) closing
    rw [after, closed] at member
    have earlier (there : (time, Job.closeQueue showId) ∈
        (closeEntries input.1 (w.started input) closing closeBatch).1.scheduled) :
        EndedIn (w.step input).db.shows showId := by
      rcases adds.origin there with before | spares
      · exact old (World.started_mem before)
      · exact absurd rfl (spares showId)
    split at member
    · rcases List.mem_append.mp member with there | new
      · exact earlier there
      · obtain ⟨_, same⟩ := Prod.mk.inj (List.mem_singleton.mp new)
        obtain rfl := Job.closeQueue.inj same
        exact (closes at_ _ ran).step input
    · exact earlier member

theorem ClosesEnded.reached {w : World} (reached : World.Reached w) : ClosesEnded w.db := by
  refine reached.induct (fun w => ClosesEnded w.db) ?_ fun w input closes => closes.step input
  intro time showId member
  exact absurd member List.not_mem_nil

/-- A queue closes as a job that was scheduled. -/
theorem Op.mutation_closeQueue {w : World} {ctx : Ctx} {op : Op} {showId : ShowId}
    (ran : op.mutation w ctx = some (.closeQueue showId)) :
    ∃ time, op = .runJob time (.closeQueue showId) ∧
      (time, .closeQueue showId) ∈ w.db.scheduled ∧ time ≤ ctx.now := by
  cases op with
  | request other =>
      simp only [Op.mutation, Option.ite_none_right_eq_some, Option.some.injEq] at ran
      obtain ⟨isPublic, rfl⟩ := ran
      cases isPublic
  | authorize userId showId tierId idempotencyKey stripeCustomerId =>
      simp [Op.mutation] at ran
  | runJob time job =>
      simp only [Op.mutation, Option.ite_none_right_eq_some] at ran
      obtain ⟨due, begins⟩ := ran
      cases job <;> cases begins
      exact ⟨time, rfl, due⟩
  | advance flight outcome status =>
      simp only [Op.mutation, Option.ite_none_right_eq_some] at ran
      obtain ⟨_, ends⟩ := ran
      cases flight <;> cases ends
  | deliver eventId =>
      obtain ⟨_, _, same⟩ := Option.map_eq_some_iff.mp ran
      cases same
  | saveAccount creatorId account => cases ran
  | runDue => cases ran
  | joinPaid userId args attemptId => cases ran
  | sweepRefunds now => cases ran
  | sweepCaptures now => cases ran
  | sweepTransfers now => cases ran
  | stripe op => cases ran

theorem ClosesEnded.meets {w : World} (closes : ClosesEnded w.db) (input : Ctx × Op) :
    World.Meets (fun _ => ClosesOver) w input := by
  rintro m ran showId rfl
  obtain ⟨time, _, member, _⟩ := Op.mutation_closeQueue ran
  rw [← Bool.not_eq_true, showLive_iff]
  exact (closes time showId member).unlive

/-! ### Every reachable state -/

/-- What the three tables keep of each other. -/
structure InStep (db : DB) : Prop where
  shows : ShowsInStep db.shows db.calls
  queue : QueueInStep db.shows db.calls db.queueEntries

theorem InStep.unscheduled : World.Unscheduled InStep := fun _ _ =>
  ⟨fun inStep => ⟨inStep.shows, inStep.queue⟩, fun inStep => ⟨inStep.shows, inStep.queue⟩⟩

theorem InStep.step {w : World} (reached : World.Reached w) (inStep : InStep w.db)
    (input : Ctx × Op) : InStep (w.step input).db := by
  refine World.step_keeps InStep.unscheduled SeatsSound.unscheduled (fun _ _ _ _ => Iff.rfl) ?_
    (SeatsSound.reached reached) inStep ((ClosesEnded.reached reached).meets input)
  intro ctx db m seats inStep closes
  have effect := m.effect ctx db
  exact ⟨inStep.shows.effect effect, inStep.queue.effect inStep.shows seats.calls closes effect⟩

theorem InStep.reached {w : World} (reached : World.Reached w) : InStep w.db := by
  refine (reached.induct (fun w => World.Reached w ∧ InStep w.db) ?_ ?_).2
  · exact ⟨.refl _ _, .empty, .empty⟩
  · intro w input sound
    exact ⟨sound.1.step input, sound.2.step sound.1 input⟩

/-- The queue of a live show: who is on stage has one active call, with a status to
match. -/
structure StageSound (db : DB) (entryId : EntryId) (entry : QueueEntry) : Prop where
  onStage : entry.status ∈ onStage ↔ ∃! callId, ∃ call, db.calls.get callId = some call ∧
    call.status ∈ activeCallStatuses ∧ call.queueEntryId = entryId
  matched : ∀ callId call, db.calls.get callId = some call → call.status ∈ activeCallStatuses →
    call.queueEntryId = entryId → call.showId = entry.showId ∧ entry.status = call.status.ofEntry

theorem InStep.stage {db : DB} (inStep : InStep db) {entryId : EntryId} {entry : QueueEntry}
    (found : db.queueEntries.get entryId = some entry) (live : showLive db entry.showId = true) :
    StageSound db entryId entry := by
  have isLive := showLive_iff.mp live
  have matched (callId : CallId) (call : Call) (present : db.calls.get callId = some call)
      (active : call.status ∈ activeCallStatuses) (ofEntry : call.queueEntryId = entryId) :
      call.showId = entry.showId ∧ entry.status = call.status.ofEntry := by
    obtain ⟨e, held, together, status⟩ := inStep.queue.called callId call present active
    rw [ofEntry, found] at held
    obtain rfl := Option.some.inj held
    exact ⟨together.symm, status (together ▸ isLive)⟩
  refine ⟨⟨?_, ?_⟩, matched⟩
  · intro isOn
    obtain ⟨callId, call, present, active, ofEntry⟩ :=
      inStep.queue.served entryId entry found isLive isOn
    refine ⟨callId, ⟨call, present, active, ofEntry⟩, ?_⟩
    rintro other ⟨c, located, isActive, same⟩
    refine inStep.shows.single other callId c call located present isActive active ?_
    rw [(matched other c located isActive same).1, (matched callId call present active ofEntry).1]
  · rintro ⟨callId, ⟨call, present, active, ofEntry⟩, _⟩
    rw [(matched callId call present active ofEntry).2]
    exact CallStatus.ofEntry_onStage active

/-- In every reachable state a creator has at most one live show, a show at most one
active call, a call that connects a live show, a viewer at most one entry a show,
and the entries of a live show are on stage exactly with their calls. -/
structure ShowsHeld (db : DB) : Prop where
  one_live : ∀ i j a b, db.shows.get i = some a → db.shows.get j = some b → a.status = .live →
    b.status = .live → a.creatorId = b.creatorId → i = j
  one_call : ∀ i j a b, db.calls.get i = some a → db.calls.get j = some b →
    a.status ∈ activeCallStatuses → b.status ∈ activeCallStatuses → a.showId = b.showId → i = j
  hosted : ∀ id call, db.calls.get id = some call → call.status ∈ connectableStatuses →
    showLive db call.showId = true
  one_entry : ∀ i j a b, db.queueEntries.get i = some a → db.queueEntries.get j = some b →
    a.showId = b.showId → a.viewerId = b.viewerId → i = j
  stage : ∀ id entry, db.queueEntries.get id = some entry → showLive db entry.showId = true →
    StageSound db id entry

theorem shows_held (inputs : List (Ctx × Op)) :
    ShowsHeld (run World.step World.empty inputs).db := by
  have inStep := InStep.reached (w := run World.step World.empty inputs) ⟨inputs, rfl⟩
  refine ⟨inStep.shows.alone, inStep.shows.single, ?_, inStep.queue.seat, ?_⟩
  · intro id call found connectable
    exact showLive_iff.mpr ((inStep.shows.hosted id call found).2 connectable)
  · exact fun id entry found live => inStep.stage found live

end Bling
