import Bling.Presence

set_option autoImplicit false

namespace Bling

open Library

/-! The presence watchdog over whole runs: every participant of an open call is
watched, and a call fails only after its grace. -/

/-- The check that a participant's row waits for. -/
def CallPresence.check (row : CallPresence) : Time × Job :=
  match row.disconnectedAt with
  | none => (row.lastSeenAt + presenceTtlMs, .checkSeen row.callId row.role row.lastSeenAt)
  | some disconnectedAt =>
    (disconnectedAt + disconnectGraceMs, .checkGrace row.callId row.role disconnectedAt)

/-- Participants are those of open calls, each in one row. -/
structure Present (db : DB) : Prop where
  opened : ∀ i row, db.callPresence.get i = some row → CallOpen db row.callId
  one : ∀ i j a b, db.callPresence.get i = some a → db.callPresence.get j = some b →
    a.callId = b.callId → a.role = b.role → i = j

/-- What becomes of a participant's row. -/
inductive RowMoves (ctx : Ctx) (before : DB) (m : Mutation) (after : DB) (i : Nat) :
    CallPresence → Prop
  | kept (row : CallPresence) (old : before.callPresence.get i = some row)
      (silent : ∀ userId, m = .heartbeat userId row.callId →
        ¬ TakesPart before userId row.callId row.role) : RowMoves ctx before m after i row
  | beat (userId : Option UserId) (callId : CallId) (role : CallRole)
      (asked : m = .heartbeat userId callId) (part : TakesPart before userId callId role)
      (watched : (ctx.now + presenceTtlMs, .checkSeen callId role ctx.now) ∈ after.scheduled) :
      RowMoves ctx before m after i ⟨callId, role, ctx.now, none⟩
  | marked (row : CallPresence) (old : before.callPresence.get i = some row)
      (connected : row.disconnectedAt = none)
      (watched : (ctx.now + disconnectGraceMs, .checkGrace row.callId row.role ctx.now) ∈
        after.scheduled) :
      RowMoves ctx before m after i { row with disconnectedAt := some ctx.now }

theorem presenceRow_some {db : DB} {callId : CallId} {role : CallRole} {i : Nat}
    {row : CallPresence} (found : presenceRow db callId role = some (i, row)) :
    db.callPresence.get i = some row ∧ row.callId = callId ∧ row.role = role := by
  obtain ⟨present, same⟩ := Table.first_some found
  simp only [Bool.and_eq_true, beq_iff_eq] at same
  exact ⟨present, same.1, same.2⟩

theorem Present.found {db : DB} (present : Present db) {i : Nat} {row : CallPresence}
    (there : db.callPresence.get i = some row) :
    presenceRow db row.callId row.role = some (i, row) := by
  apply Table.first_of_unique there
  · simp
  · intro j other there' same
    simp only [Bool.and_eq_true, beq_iff_eq] at same
    exact present.one j i other row there' there same.1 same.2

theorem callForParticipant_role {db : DB} {userId : Option UserId} {callId : CallId}
    {role other : CallRole} (part : TakesPart db userId callId role)
    (again : TakesPart db userId callId other) : role = other := by
  obtain ⟨call, found, _⟩ := part
  obtain ⟨call', found', _⟩ := again
  rw [found] at found'
  exact (Prod.mk.inj (Except.ok.inj found')).2

theorem heartbeat_beats {ctx : Ctx} {db : DB} {userId : Option UserId} {callId : CallId}
    {role : CallRole} (part : TakesPart db userId callId role) :
    (Mutation.heartbeat userId callId).apply ctx db = beatDB ctx db callId role := by
  obtain ⟨call, found, connectable⟩ := part
  simp only [Mutation.apply, heartbeat, found, bind, Except.bind, connectable, not_true_eq_false,
    if_false, commit]
  rfl

/-- A heartbeat renews the participant's row, and no other. -/
theorem beatDB_rows {ctx : Ctx} {db : DB} (present : Present db) {callId : CallId}
    {role : CallRole} {i : Nat} {row : CallPresence}
    (there : (beatDB ctx db callId role).callPresence.get i = some row) :
    row = ⟨callId, role, ctx.now, none⟩ ∨
      db.callPresence.get i = some row ∧ ¬ (row.callId = callId ∧ row.role = role) := by
  replace there : (beatRows ctx db callId role).get i = some row := there
  unfold beatRows at there
  cases found : presenceRow db callId role with
  | none =>
      rw [found] at there
      rcases Table.get_insert_row there with ⟨_, rfl⟩ | old
      · exact Or.inl rfl
      · refine Or.inr ⟨old, ?_⟩
        rintro ⟨rfl, rfl⟩
        rw [present.found old] at found
        cases found
  | some current =>
      obtain ⟨j, seen⟩ := current
      rw [found] at there
      obtain ⟨before, rfl, rfl⟩ := presenceRow_some found
      rcases Table.get_patch_row before there with ⟨_, rfl⟩ | ⟨apart, old⟩
      · exact Or.inl rfl
      · refine Or.inr ⟨old, ?_⟩
        rintro ⟨sameCall, sameRole⟩
        exact apart (present.one i j row seen old before sameCall sameRole)

/-- The rows after any mutation. -/
theorem Mutation.rows {ctx : Ctx} {db : DB} (present : Present db) (m : Mutation) {i : Nat}
    {row : CallPresence} (there : (m.apply ctx db).callPresence.get i = some row) :
    RowMoves ctx db m (m.apply ctx db) i row := by
  by_cases beats : ∃ userId callId role, m = .heartbeat userId callId ∧
      TakesPart db userId callId role
  · obtain ⟨userId, callId, role, rfl, part⟩ := beats
    rw [heartbeat_beats part] at there ⊢
    rcases beatDB_rows present there with rfl | ⟨old, apart⟩
    · exact .beat userId callId role rfl part
        (List.mem_append_right _ (List.mem_singleton.mpr rfl))
    · refine .kept row old ?_
      intro user same again
      obtain ⟨rfl, here⟩ := Mutation.heartbeat.inj same
      exact apart ⟨here.symm, callForParticipant_role (here ▸ again) part⟩
  · have silent (row : CallPresence) (userId : Option UserId)
        (asked : m = .heartbeat userId row.callId) : ¬ TakesPart db userId row.callId row.role :=
      fun part => beats ⟨userId, row.callId, row.role, asked, part⟩
    by_cases ends : ∃ callId, m.Ends ctx db callId
    · obtain ⟨callId, ends⟩ := ends
      exact .kept row ((ends.hangsUp.presence i row).mp there).1 (silent row)
    · cases m.attended ctx db (fun callId ended => ends ⟨callId, ended⟩) with
      | calm calm => exact .kept row (calm.presence ▸ there) (silent row)
      | beat userId callId role asked part wrote =>
          exact absurd ⟨userId, callId, role, asked, part⟩ beats
      | marked rowId seen callId role asked found connected wrote =>
          obtain ⟨before, rfl, rfl⟩ := presenceRow_some found
          have watched : (ctx.now + disconnectGraceMs,
              Job.checkGrace seen.callId seen.role ctx.now) ∈ (m.apply ctx db).scheduled := by
            rw [wrote]
            exact List.mem_append_right _ (List.mem_singleton.mpr rfl)
          rw [wrote] at there
          rcases Table.get_patch_row before there with ⟨rfl, rfl⟩ | ⟨_, old⟩
          · exact .marked seen before connected watched
          · exact .kept row old (silent row)

theorem Mutation.scheduled_mem (ctx : Ctx) (db : DB) (m : Mutation) {job : Time × Job}
    (member : job ∈ db.scheduled) : job ∈ (m.apply ctx db).scheduled := by
  by_cases ends : ∃ callId, m.Ends ctx db callId
  · obtain ⟨callId, ends⟩ := ends
    exact ends.hangsUp.adds.mem member
  · cases m.attended ctx db (fun callId ended => ends ⟨callId, ended⟩) with
    | calm calm => exact calm.adds.mem member
    | beat userId callId role asked part wrote =>
        rw [wrote]
        exact List.mem_append_left _ member
    | marked rowId seen callId role asked found connected wrote =>
        rw [wrote]
        exact List.mem_append_left _ member

/-- A grace check is due when the grace is over. -/
def Timed (db : DB) : Prop :=
  ∀ time callId role disconnectedAt, (time, .checkGrace callId role disconnectedAt) ∈ db.scheduled →
    time = disconnectedAt + disconnectGraceMs

theorem Timed.mutation {ctx : Ctx} {db : DB} (timed : Timed db) (m : Mutation) :
    Timed (m.apply ctx db) := by
  intro time callId role disconnectedAt member
  by_cases ends : ∃ callId, m.Ends ctx db callId
  · obtain ⟨ended, ends⟩ := ends
    rcases ends.hangsUp.adds.origin member with old | purge | calm
    · exact timed time callId role disconnectedAt old
    · cases purge
    · exact absurd calm id
  · cases m.attended ctx db (fun callId ended => ends ⟨callId, ended⟩) with
    | calm calm =>
        rcases calm.adds.origin member with old | calm
        · exact timed time callId role disconnectedAt old
        · exact absurd calm id
    | beat userId otherId other asked part wrote =>
        rw [wrote] at member
        rcases List.mem_append.mp member with old | new
        · exact timed time callId role disconnectedAt old
        · cases List.mem_singleton.mp new
    | marked rowId seen otherId other asked found connected wrote =>
        rw [wrote] at member
        rcases List.mem_append.mp member with old | new
        · exact timed time callId role disconnectedAt old
        · cases List.mem_singleton.mp new
          rfl

theorem CallOpen.mutation {ctx : Ctx} {db : DB} {callId : CallId} (isOpen : CallOpen db callId)
    {m : Mutation} (goesOn : ¬ m.Ends ctx db callId) : CallOpen (m.apply ctx db) callId :=
  ((m.effect ctx db).callOpen isOpen).resolve_right goesOn

theorem Mutation.Ends.unique {ctx : Ctx} {db : DB} {m : Mutation} {callId other : CallId}
    (ends : m.Ends ctx db callId) (again : m.Ends ctx db other) : callId = other := by
  obtain ⟨call, target, asked, _⟩ := ends
  obtain ⟨call', target', asked', _⟩ := again
  rw [asked] at asked'
  exact (Prod.mk.inj (Option.some.inj asked')).1

/-- The old row that a row comes from, unless a participant has just come. -/
theorem RowMoves.origin {ctx : Ctx} {before after : DB} {m : Mutation} {i : Nat}
    {row : CallPresence} (moves : RowMoves ctx before m after i row) :
    (∃ old, before.callPresence.get i = some old ∧ old.callId = row.callId ∧
      old.role = row.role) ∨
    ∃ userId, m = .heartbeat userId row.callId ∧ TakesPart before userId row.callId row.role := by
  cases moves with
  | kept row old silent => exact Or.inl ⟨row, old, rfl, rfl⟩
  | beat userId callId role asked part watched => exact Or.inr ⟨userId, asked, part⟩
  | marked row old connected watched => exact Or.inl ⟨row, old, rfl, rfl⟩

theorem beatDB_one {ctx : Ctx} {db : DB} (present : Present db) {callId : CallId} {role : CallRole}
    {i j : Nat} {a b : CallPresence}
    (first : (beatDB ctx db callId role).callPresence.get i = some a)
    (second : (beatDB ctx db callId role).callPresence.get j = some b)
    (sameCall : a.callId = b.callId) (sameRole : a.role = b.role) : i = j := by
  replace first : (beatRows ctx db callId role).get i = some a := first
  replace second : (beatRows ctx db callId role).get j = some b := second
  unfold beatRows at first second
  cases found : presenceRow db callId role with
  | none =>
      rw [found] at first second
      have fresh {k : Nat} {row : CallPresence} (old : db.callPresence.get k = some row)
          (here : row.callId = callId) (asRole : row.role = role) : False := by
        rw [← here, ← asRole, present.found old] at found
        cases found
      rcases Table.get_insert_row first with ⟨rfl, rfl⟩ | old
      · rcases Table.get_insert_row second with ⟨rfl, rfl⟩ | old'
        · rfl
        · exact (fresh old' sameCall.symm sameRole.symm).elim
      · rcases Table.get_insert_row second with ⟨rfl, rfl⟩ | old'
        · exact (fresh old sameCall sameRole).elim
        · exact present.one i j a b old old' sameCall sameRole
  | some current =>
      obtain ⟨k, seen⟩ := current
      rw [found] at first second
      have before := (presenceRow_some found).1
      have origin {l : Nat} {row : CallPresence} (there : (db.callPresence.patch k fun p =>
          { p with lastSeenAt := ctx.now, disconnectedAt := none }).get l = some row) :
          ∃ old, db.callPresence.get l = some old ∧ old.callId = row.callId ∧
            old.role = row.role := by
        rcases Table.get_patch_row before there with ⟨rfl, rfl⟩ | ⟨_, old⟩
        · exact ⟨seen, before, rfl, rfl⟩
        · exact ⟨row, old, rfl, rfl⟩
      obtain ⟨a', before, call, asRole⟩ := origin first
      obtain ⟨b', before', call', asRole'⟩ := origin second
      exact present.one i j a' b' before before' (by rw [call, call', sameCall])
        (by rw [asRole, asRole', sameRole])

theorem Present.mutation {db : DB} (present : Present db) (ctx : Ctx) (m : Mutation) :
    Present (m.apply ctx db) := by
  constructor
  · intro i row there
    have was : CallOpen db row.callId := by
      rcases (m.rows present there).origin with ⟨old, before, call, _⟩ | ⟨_, _, call, found, isOpen⟩
      · exact call ▸ present.opened i old before
      · exact ⟨call, callForParticipant_ok found, isOpen⟩
    apply was.mutation
    intro ends
    exact ((ends.hangsUp.presence i row).mp there).2 rfl
  · intro i j a b first second sameCall sameRole
    rcases (m.rows present first).origin with ⟨a', before, call, asRole⟩ | ⟨userId, asked, part⟩
    · rcases (m.rows present second).origin with
        ⟨b', before', call', asRole'⟩ | ⟨userId, asked, part⟩
      · exact present.one i j a' b' before before' (by rw [call, call', sameCall])
          (by rw [asRole, asRole', sameRole])
      · rw [asked, heartbeat_beats part] at first second
        exact beatDB_one present first second sameCall sameRole
    · rw [asked, heartbeat_beats part] at first second
      exact beatDB_one present first second sameCall sameRole

/-! ### Runs -/

/-- Every participant has a check pending, and each check its time. -/
structure Watched (db : DB) : Prop extends Present db where
  checked : ∀ i row, db.callPresence.get i = some row → row.check ∈ db.scheduled
  timed : Timed db

theorem World.started_presence (w : World) (input : Ctx × Op) :
    (w.started input).callPresence = w.db.callPresence ∧ (w.started input).calls = w.db.calls := by
  obtain ⟨jobs, same⟩ := World.started_same w input
  rw [same]
  exact ⟨rfl, rfl⟩

/-- The jobs a step starts with are those there were, but for the one that runs. -/
theorem World.started_keeps {w : World} (input : Ctx × Op) {row : Time × Job}
    (member : row ∈ w.db.scheduled) : row ∈ (w.started input).scheduled ∨
      input.2 = .runJob row.1 row.2 ∧ row.1 ≤ input.1.now := by
  unfold World.started
  split
  · rename_i time job asked
    split
    · rename_i due
      by_cases same : row = (time, job)
      · subst same
        exact Or.inr ⟨asked, due.2⟩
      · exact Or.inl ((List.mem_erase_of_ne same).mpr member)
    · exact Or.inl member
  · exact Or.inl member

/-- The mutation a participant's check is. -/
def CallPresence.checks (row : CallPresence) : Mutation :=
  match row.disconnectedAt with
  | none => .checkSeen row.callId row.role row.lastSeenAt
  | some disconnectedAt => .checkGrace row.callId row.role disconnectedAt

/-- A participant's check does not leave their row as it is. -/
theorem Present.check_moves {ctx : Ctx} {db : DB} (present : Present db) {i : Nat}
    {row : CallPresence} (there : db.callPresence.get i = some row) :
    (row.checks.apply ctx db).callPresence.get i ≠ some row := by
  have found := present.found there
  cases seen : row.disconnectedAt with
  | none =>
      have marked : row.checks.apply ctx db = markDisconnected ctx db i row.callId row.role := by
        simp only [CallPresence.checks, seen, Mutation.apply, checkSeen, found, ne_eq,
          not_true_eq_false, or_self, if_false]
      rw [marked]
      intro same
      have patched := Table.get_patch_self there fun p : CallPresence =>
        { p with disconnectedAt := some ctx.now }
      have equal : some { row with disconnectedAt := some ctx.now } = some row :=
        patched.symm.trans same
      have := congrArg CallPresence.disconnectedAt (Option.some.inj equal)
      rw [seen] at this
      cases this
  | some disconnectedAt =>
      obtain ⟨call, held, connectable⟩ := present.opened i row there
      have ends : row.checks.Ends ctx db row.callId := by
        refine ⟨call, .failed, ?_, held, ?_, Or.inr rfl⟩
        · simp [CallPresence.checks, seen, Mutation.moves, found, held, connectable]
        · cases status : call.status <;>
            first | rfl | simp [status, connectableStatuses] at connectable
      intro same
      exact ((ends.hangsUp.presence i row).mp same).2 rfl

theorem step_check {w : World} {input : Ctx × Op} {row : CallPresence}
    (runs : input.2 = .runJob row.check.1 row.check.2) (due : row.check.1 ≤ input.1.now)
    (pending : row.check ∈ w.db.scheduled) :
    (w.step input).db = row.checks.apply input.1 (w.started input) := by
  have there : (row.check.1, row.check.2) ∈ w.db.scheduled ∧ row.check.1 ≤ input.1.now :=
    ⟨pending, due⟩
  simp only [World.step, World.started, runs, there, and_self, if_true]
  cases seen : row.disconnectedAt <;> simp only [CallPresence.check, CallPresence.checks, seen] <;> rfl

theorem Present.started {w : World} (present : Present w.db) (input : Ctx × Op) :
    Present (w.started input) := by
  obtain ⟨jobs, same⟩ := World.started_same w input
  rw [same]
  exact ⟨present.opened, present.one⟩

theorem Present.step {w : World} (present : Present w.db) (input : Ctx × Op) :
    Present (w.step input).db := by
  rcases World.step_ran w input with ⟨_, later, same⟩ | ⟨m, earlier, later, _, same⟩
  · rw [same]
    exact ⟨present.opened, present.one⟩
  · have before : Present { w.db with scheduled := earlier } := ⟨present.opened, present.one⟩
    have after := before.mutation input.1 m
    rw [same]
    exact ⟨after.opened, after.one⟩

/-- The rows after a step. -/
theorem step_rows {w : World} (present : Present w.db) (input : Ctx × Op) {i : Nat}
    {row : CallPresence} (there : (w.step input).db.callPresence.get i = some row) :
    ∃ m, RowMoves input.1 (w.started input) m (w.step input).db i row := by
  rcases step_attends w input with quiet | ⟨m, _, _, same⟩
  · exact ⟨.finishRuns, .kept row (quiet.presence ▸ there) nofun⟩
  · rw [same] at there ⊢
    exact ⟨m, m.rows (present.started input) there⟩

theorem step_scheduled {w : World} {input : Ctx × Op} {job : Time × Job}
    (member : job ∈ (w.started input).scheduled) : job ∈ (w.step input).db.scheduled := by
  rcases step_attends w input with quiet | ⟨m, _, _, same⟩
  · exact quiet.adds.mem member
  · rw [same]
    exact m.scheduled_mem input.1 _ member

theorem Timed.step {w : World} (timed : Timed w.db) (input : Ctx × Op) :
    Timed (w.step input).db := by
  have started : Timed (w.started input) := fun time callId role disconnectedAt member =>
    timed time callId role disconnectedAt (World.started_mem member)
  rcases step_attends w input with quiet | ⟨m, _, _, same⟩
  · intro time callId role disconnectedAt member
    rcases quiet.adds.origin member with old | plain
    · exact started time callId role disconnectedAt old
    · exact absurd plain id
  · rw [same]
    exact started.mutation m

theorem Watched.step {w : World} (watched : Watched w.db) (input : Ctx × Op) :
    Watched (w.step input).db := by
  refine ⟨watched.toPresent.step input, ?_, watched.timed.step input⟩
  intro i row there
  obtain ⟨m, moves⟩ := step_rows watched.toPresent input there
  cases moves with
  | kept row old silent =>
      have before : w.db.callPresence.get i = some row :=
        (World.started_presence w input).1 ▸ old
      have pending := watched.checked i row before
      rcases World.started_keeps input pending with kept | ⟨runs, due⟩
      · exact step_scheduled kept
      · rw [step_check runs due pending] at there
        exact absurd there ((watched.toPresent.started input).check_moves old)
  | beat userId callId role asked part check => exact check
  | marked row old connected check => exact check

theorem Watched.reached {w : World} (reached : World.Reached w) : Watched w.db := by
  refine reached.induct (fun w => Watched w.db) ?_ fun w input watched => watched.step input
  exact ⟨⟨nofun, nofun⟩, nofun, nofun⟩

/-! ### The grace -/

/-- A step that marks a connected participant disconnected. -/
def Marks (w : World) (input : Ctx × Op) (callId : CallId) (role : CallRole) : Prop :=
  ∃ i row, w.db.callPresence.get i = some row ∧ row.callId = callId ∧ row.role = role ∧
    row.disconnectedAt = none ∧
    (w.step input).db.callPresence.get i = some { row with disconnectedAt := some input.1.now }

/-- A heartbeat of the participant that commits. -/
def Beats (w : World) (input : Ctx × Op) (callId : CallId) (role : CallRole) : Prop :=
  ∃ userId, input.2 = .request (.heartbeat userId callId) ∧ TakesPart w.db userId callId role

/-- The run marks the participant disconnected at this time, and hears no
heartbeat of theirs after that. -/
def SilentSince (inputs : List (Ctx × Op)) (callId : CallId) (role : CallRole)
    (disconnectedAt : Time) : Prop :=
  ∃ front mark back, inputs = front ++ mark :: back ∧
    Marks (run World.step World.empty front) mark callId role ∧ mark.1.now = disconnectedAt ∧
    Along World.step (fun w input => ¬ Beats w input callId role)
      (run World.step World.empty (front ++ [mark])) back

theorem beats_connect {w : World} (present : Present w.db) {input : Ctx × Op} {i : Nat}
    {row : CallPresence} (there : (w.step input).db.callPresence.get i = some row)
    (beats : Beats w input row.callId row.role) : row.disconnectedAt = none := by
  obtain ⟨userId, asked, part⟩ := beats
  have same : (w.step input).db = beatDB input.1 w.db row.callId row.role := by
    rw [← heartbeat_beats part]
    obtain ⟨ctx, op⟩ := input
    cases asked
    rfl
  rw [same] at there
  rcases beatDB_rows present there with renewed | ⟨_, apart⟩
  · rw [renewed]
  · exact absurd ⟨rfl, rfl⟩ apart

theorem SilentSince.later {inputs : List (Ctx × Op)} {callId : CallId} {role : CallRole}
    {disconnectedAt : Time} (since : SilentSince inputs callId role disconnectedAt)
    {input : Ctx × Op}
    (silent : ¬ Beats (run World.step World.empty inputs) input callId role) :
    SilentSince (inputs ++ [input]) callId role disconnectedAt := by
  obtain ⟨front, mark, back, rfl, marks, clock, quiet⟩ := since
  refine ⟨front, mark, back ++ [input], by simp, marks, clock, ?_⟩
  rw [along_append]
  refine ⟨quiet, ?_, trivial⟩
  rw [← run_append, List.append_assoc]
  exact silent

/-- A participant who is marked disconnected has been since the row's time. -/
theorem silent_since (inputs : List (Ctx × Op)) {i : Nat} {row : CallPresence}
    (there : (run World.step World.empty inputs).db.callPresence.get i = some row)
    {disconnectedAt : Time} (gone : row.disconnectedAt = some disconnectedAt) :
    SilentSince inputs row.callId row.role disconnectedAt := by
  induction inputs using List.reverseRecOn generalizing i row with
  | nil => cases there
  | append_singleton inputs input ih =>
      have watched := Watched.reached (w := run World.step World.empty inputs) ⟨inputs, rfl⟩
      rw [run_append] at there
      replace there : ((run World.step World.empty inputs).step input).db.callPresence.get i =
        some row := there
      have silent : ¬ Beats (run World.step World.empty inputs) input row.callId row.role := by
        intro beats
        rw [beats_connect watched.toPresent there beats] at gone
        cases gone
      obtain ⟨m, moves⟩ := step_rows watched.toPresent input there
      cases moves with
      | kept row old _ =>
          rw [(World.started_presence _ input).1] at old
          exact (ih old gone).later silent
      | beat userId callId role asked part check => cases gone
      | marked row old connected check =>
          rw [(World.started_presence _ input).1] at old
          exact ⟨inputs, input, [], rfl, ⟨i, row, old, rfl, rfl, connected, there⟩,
            Option.some.inj gone, trivial⟩

/-- A grace check fails a call only for a participant who is still disconnected. -/
theorem checkGrace_fails {w : World} (_present : Present w.db) {ctx : Ctx} {time : Time}
    {callId : CallId} {role : CallRole} {disconnectedAt : Time} (isOpen : CallOpen w.db callId)
    (failed : ¬ CallOpen (w.step (ctx, .runJob time (.checkGrace callId role disconnectedAt))).db
      callId) :
    ((time, .checkGrace callId role disconnectedAt) ∈ w.db.scheduled ∧ time ≤ ctx.now) ∧
      ∃ i row, w.db.callPresence.get i = some row ∧ row.callId = callId ∧ row.role = role ∧
        row.disconnectedAt = some disconnectedAt := by
  by_cases due : (time, Job.checkGrace callId role disconnectedAt) ∈ w.db.scheduled ∧
      time ≤ ctx.now
  · refine ⟨due, ?_⟩
    by_contra absent
    apply failed
    have still : (presenceRow w.db callId role).bind (fun row => row.2.disconnectedAt) ≠
        some disconnectedAt := by
      intro same
      obtain ⟨⟨i, row⟩, found, gone⟩ := Option.bind_eq_some_iff.mp same
      obtain ⟨there, here, asRole⟩ := presenceRow_some found
      exact absent ⟨i, row, there, here, asRole, gone⟩
    let taken : DB := { w.db with
      scheduled := w.db.scheduled.erase (time, .checkGrace callId role disconnectedAt) }
    have outcome : checkGrace ctx taken callId role disconnectedAt = .ok (taken, ()) :=
      if_pos still
    simp only [World.step, due, and_self, if_true, World.runJob, Job.mutation, World.mutate,
      Mutation.apply]
    rw [outcome]
    exact isOpen
  · refine absurd ?_ failed
    simp only [World.step, due, if_false]
    exact isOpen

/-- What the watchdog promises in every run. -/
structure WatchesOver (inputs : List (Ctx × Op)) (w : World) : Prop where
  /-- No call fails while its participant's grace lasts. -/
  graceful : ∀ ctx time callId role disconnectedAt, CallOpen w.db callId →
    ¬ CallOpen (w.step (ctx, .runJob time (.checkGrace callId role disconnectedAt))).db callId →
    SilentSince inputs callId role disconnectedAt ∧ disconnectedAt + disconnectGraceMs ≤ ctx.now
  opened : ∀ i row, w.db.callPresence.get i = some row → CallOpen w.db row.callId
  one : ∀ i j a b, w.db.callPresence.get i = some a → w.db.callPresence.get j = some b →
    a.callId = b.callId → a.role = b.role → i = j
  checked : ∀ i row, w.db.callPresence.get i = some row → row.check ∈ w.db.scheduled

theorem presence_watched (inputs : List (Ctx × Op)) :
    WatchesOver inputs (run World.step World.empty inputs) := by
  have watched := Watched.reached (w := run World.step World.empty inputs) ⟨inputs, rfl⟩
  refine ⟨?_, watched.opened, watched.one, watched.checked⟩
  intro ctx time callId role disconnectedAt isOpen failed
  obtain ⟨⟨scheduled, due⟩, i, row, there, rfl, rfl, gone⟩ :=
    checkGrace_fails watched.toPresent isOpen failed
  have when := watched.timed time row.callId row.role disconnectedAt scheduled
  exact ⟨silent_since inputs there gone, when ▸ due⟩

end Bling
