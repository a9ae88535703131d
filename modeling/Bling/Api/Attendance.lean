import Bling.Api.Agreement
import Bling.Api.Deadlines

set_option autoImplicit false

namespace Bling.Api

open Library

/-! Presence in the Go API: the leases of `realtime/presence.go` in Redis, the
sockets of `httpapi/call_signal.go`, and the recovery loop of `cmd/api/main.go`,
over the deadlines that `call/store.go` keeps in the database. -/

/-! ### Leases -/

/-- What names a lease: `callID|role|connectionID`. -/
structure Connection where
  callId : CallId
  role : CallRole
  connectionId : Nat
deriving DecidableEq

abbrev Leases := List (Connection × Time)

def zadd (leases : Leases) (connection : Connection) (expires : Time) : Leases :=
  (connection, expires) :: leases.filter fun lease => lease.1 != connection

def zrem (leases : Leases) (connection : Connection) : Leases :=
  leases.filter fun lease => lease.1 != connection

def zscore (leases : Leases) (connection : Connection) : Option Time :=
  (leases.find? fun lease => lease.1 == connection).map Prod.snd

/-- The leases of a participant. -/
def ofRole (callId : CallId) (role : CallRole) (connection : Connection) : Bool :=
  connection.callId == callId && connection.role == role

/-- The sets of all participants, and the set of all deadlines. -/
structure PresenceStore where
  roles : Leases
  deadlines : Leases

namespace PresenceStore

def touch (store : PresenceStore) (ttl : Time) (connection : Connection) (now : Time) :
    PresenceStore :=
  ⟨zadd store.roles connection (now + ttl), zadd store.deadlines connection (now + ttl)⟩

/-- `ZREMRANGEBYSCORE` on the participant's set. -/
def forget (roles : Leases) (connection : Connection) (now : Time) : Leases :=
  (zrem roles connection).filter fun lease =>
    !(ofRole connection.callId connection.role lease.1 && decide (lease.2 ≤ now))

/-- What is left of the participant's set. -/
def remaining (roles : Leases) (connection : Connection) : Nat :=
  roles.countP fun lease => ofRole connection.callId connection.role lease.1

/-- Whether the participant has no connection any more. -/
def disconnect (store : PresenceStore) (connection : Connection) (now : Time) :
    PresenceStore × Bool :=
  let roles := forget store.roles connection now
  (⟨roles, zrem store.deadlines connection⟩, remaining roles connection == 0)

/-- `reapPresenceScript`, which returns nothing for a lease that is not over. -/
def reapOne (store : PresenceStore) (connection : Connection) (now : Time) :
    PresenceStore × Option Nat :=
  match zscore store.deadlines connection with
  | none => (store, none)
  | some score =>
    if now < score then (store, none)
    else
      let roles := forget store.roles connection now
      (⟨roles, zrem store.deadlines connection⟩, some (remaining roles connection))

/-- The members that `Reap` goes through. -/
def expired (store : PresenceStore) (now : Time) (limit : Nat) : List Connection :=
  (((store.deadlines.filter fun lease => decide (lease.2 ≤ now)).insertionSort
    fun a b => a.2 ≤ b.2).take limit).map Prod.fst

end PresenceStore

/-! ### Sockets and sweeps -/

/-- A round of `runPresenceRecovery`: the members that are left to reap, and the
participants that are left to report. -/
structure Recovery where
  now : Time
  members : List Connection
  expired : List (CallId × CallRole)

structure PresenceState where
  clock : Time
  api : State
  presence : PresenceStore
  nextConnection : Nat
  /-- Sockets between their `Touch` and `ParticipantConnected`. -/
  opening : List Connection
  /-- Sockets that are served. -/
  serving : List Connection
  /-- Those whose last socket is closed, before `ParticipantDisconnected`. -/
  leaving : List (CallId × CallRole)
  recoveries : List Recovery

structure PresenceConfig where
  presenceTTL : Time
  disconnectGrace : Time

inductive PresenceInput where
  | tick (time : Time)
  /-- The rest of the API. -/
  | api (op : Op)
  | touch (callId : CallId) (role : CallRole)
  | participantConnected (connection : Connection) (ok : Bool)
  | heartbeat (connection : Connection)
  /-- A socket ends, and its lease is removed. -/
  | disconnect (connection : Connection)
  /-- A socket ends, and its lease stays. -/
  | vanish (connection : Connection)
  | participantDisconnected (index : Nat)
  | reap
  | reapNext (index : Nat)
  | reportNext (index : Nat)
  /-- A round ends with an error. -/
  | abandon (index : Nat)
  | expireDisconnected

namespace PresenceState

def reapMember (s : PresenceState) (index : Nat) (round : Recovery) (member : Connection)
    (rest : List Connection) : PresenceState :=
  let (presence, left) := s.presence.reapOne member round.now
  let key := (member.callId, member.role)
  let expired := if left = some 0 ∧ key ∉ round.expired then round.expired ++ [key]
    else round.expired
  { s with presence, recoveries := s.recoveries.set index { round with members := rest, expired } }

def markDisconnected (s : PresenceState) (participant : CallId × CallRole) : PresenceState :=
  { s with
    api := s.api.step (s.clock, .markParticipant participant.1 participant.2 (some s.clock)) }

def step (config : PresenceConfig) (s : PresenceState) : PresenceInput → PresenceState
  | .tick time => { s with clock := max s.clock time }
  | .api (.markParticipant _ _ _) => s
  | .api (.expireDisconnected _ _) => s
  | .api op => { s with api := s.api.step (s.clock, op) }
  | .touch callId role =>
    let connection := ⟨callId, role, s.nextConnection⟩
    { s with
      presence := s.presence.touch config.presenceTTL connection s.clock
      nextConnection := s.nextConnection + 1
      opening := connection :: s.opening }
  | .participantConnected connection ok =>
    if connection ∉ s.opening then s
    else if ok then
      { s with
        api := s.api.step (s.clock, .markParticipant connection.callId connection.role none)
        opening := s.opening.erase connection
        serving := connection :: s.serving }
    else
      { s with
        presence := (s.presence.disconnect connection s.clock).1
        opening := s.opening.erase connection }
  | .heartbeat connection =>
    if connection ∉ s.serving then s
    else { s with presence := s.presence.touch config.presenceTTL connection s.clock }
  | .disconnect connection =>
    if connection ∉ s.serving then s
    else
      let (presence, disconnected) := s.presence.disconnect connection s.clock
      { s with
        presence
        serving := s.serving.erase connection
        leaving := if disconnected then s.leaving ++ [(connection.callId, connection.role)]
          else s.leaving }
  | .vanish connection =>
    { s with opening := s.opening.erase connection, serving := s.serving.erase connection }
  | .participantDisconnected index =>
    match s.leaving[index]? with
    | none => s
    | some participant => { s.markDisconnected participant with leaving := s.leaving.eraseIdx index }
  | .reap =>
    { s with recoveries := s.recoveries ++ [⟨s.clock, s.presence.expired s.clock 500, []⟩] }
  | .reapNext index =>
    match s.recoveries[index]? with
    | some ⟨now, member :: rest, expired⟩ =>
      s.reapMember index ⟨now, member :: rest, expired⟩ member rest
    | _ => s
  | .reportNext index =>
    match s.recoveries[index]? with
    | some ⟨now, [], participant :: rest⟩ =>
      { s.markDisconnected participant with recoveries := s.recoveries.set index ⟨now, [], rest⟩ }
    | _ => s
  | .abandon index => { s with recoveries := s.recoveries.eraseIdx index }
  | .expireDisconnected =>
    { s with api := s.api.step (s.clock, .expireDisconnected config.disconnectGrace 100) }

def start (shows : Table Show) (showTiers : Table ShowTier) : PresenceState :=
  ⟨0, .opening shows showTiers, ⟨[], []⟩, 0, [], [], [], []⟩

/-! ### Deadlines and leases -/

/-- The lease is not over at this time. -/
def Leased (s : PresenceState) (connection : Connection) (time : Time) : Prop :=
  ∃ expires, (connection, expires) ∈ s.presence.roles ∧ time < expires

/-- A participant has a lease that is not over. -/
def attended (s : PresenceState) (callId : CallId) (role : CallRole) : Bool :=
  s.presence.roles.any fun lease => ofRole callId role lease.1 && decide (s.clock < lease.2)

/-- A report that a participant is gone starts no deadline while it has a lease. -/
def timelyReport (s : PresenceState) (participant : CallId × CallRole) : Bool :=
  !s.api.db.isOpen participant.1 || (s.api.db.goneSince participant.1 participant.2).isSome ||
    !s.attended participant.1 participant.2

def overdue (s : PresenceState) (grace : Time) (callId : CallId) (role : CallRole) : Bool :=
  (s.api.db.goneSince callId role).any fun since => decide (since + grace ≤ s.clock)

/-- A report on a participant comes while it has no lease; no lease is renewed
under a deadline; a socket that opens under a deadline is recorded before any call
is expired for it, and does not fail before. -/
def timely (config : PresenceConfig) (s : PresenceState) : PresenceInput → Bool
  | .participantDisconnected index => (s.leaving[index]?).all s.timelyReport
  | .reportNext index =>
    match s.recoveries[index]? with
    | some ⟨_, [], participant :: _⟩ => s.timelyReport participant
    | _ => true
  | .heartbeat connection => decide (connection ∉ s.serving) ||
      (s.api.db.goneSince connection.callId connection.role).isNone
  | .participantConnected connection ok => ok || decide (connection ∉ s.opening) ||
      (s.api.db.goneSince connection.callId connection.role).isNone
  | .vanish connection => decide (connection ∉ s.opening) ||
      (s.api.db.goneSince connection.callId connection.role).isNone
  | .expireDisconnected => s.opening.all fun connection =>
      !s.overdue config.disconnectGrace connection.callId connection.role
  | _ => true

/-! ### Leases after each command -/

theorem mem_zadd {leases : Leases} {connection other : Connection} {expires time : Time}
    (member : (other, time) ∈ zadd leases connection expires) :
    other = connection ∨ (other, time) ∈ leases := by
  rcases List.mem_cons.mp member with new | old
  · exact Or.inl (Prod.mk.inj new).1
  · exact Or.inr (List.mem_filter.mp old).1

theorem forget_sublist (roles : Leases) (connection : Connection) (now : Time) :
    (PresenceStore.forget roles connection now).Sublist roles :=
  List.filter_sublist.trans List.filter_sublist

theorem reapOne_sublist (store : PresenceStore) (connection : Connection) (now : Time) :
    (store.reapOne connection now).1.roles.Sublist store.roles := by
  unfold PresenceStore.reapOne
  split
  · exact .refl _
  · split
    · exact .refl _
    · exact forget_sublist _ _ _

theorem attended_iff {s : PresenceState} {callId : CallId} {role : CallRole} :
    s.attended callId role = true ↔ ∃ connection, connection.callId = callId ∧
      connection.role = role ∧ s.Leased connection s.clock := by
  simp only [attended, List.any_eq_true, Bool.and_eq_true, ofRole, beq_iff_eq, decide_eq_true_eq,
    Leased, Prod.exists]
  constructor
  · intro ⟨connection, expires, member, ⟨call, role⟩, running⟩
    exact ⟨connection, call, role, expires, member, running⟩
  · intro ⟨connection, call, role, expires, member, running⟩
    exact ⟨connection, expires, member, ⟨call, role⟩, running⟩

section Steps

variable {config : PresenceConfig} {s : PresenceState} {input : PresenceInput}
  {connection : Connection} {time since : Time}

/-- The leases that a step gives are of sockets that open, or that are served. -/
theorem leased_step (leased : (s.step config input).Leased connection time) :
    s.Leased connection time ∨ connection ∈ (s.step config input).opening ∨
      input = .heartbeat connection ∧ connection ∈ s.serving := by
  obtain ⟨expires, member, running⟩ := leased
  have kept {roles : Leases} (part : roles.Sublist s.presence.roles)
      (listed : (connection, expires) ∈ roles) : s.Leased connection time :=
    ⟨expires, part.subset listed, running⟩
  cases input with
  | tick => exact Or.inl ⟨expires, member, running⟩
  | api op => cases op <;> exact Or.inl ⟨expires, member, running⟩
  | touch callId role =>
      rcases mem_zadd member with rfl | old
      · exact Or.inr (Or.inl List.mem_cons_self)
      · exact Or.inl ⟨expires, old, running⟩
  | participantConnected other ok =>
      left
      simp only [step] at member
      split at member
      · exact ⟨expires, member, running⟩
      · split at member
        · exact ⟨expires, member, running⟩
        · exact kept (forget_sublist _ _ _) member
  | heartbeat other =>
      simp only [step] at member
      split at member
      · exact Or.inl ⟨expires, member, running⟩
      · rename_i serving
        rcases mem_zadd member with rfl | old
        · exact Or.inr (Or.inr ⟨rfl, not_not.mp serving⟩)
        · exact Or.inl ⟨expires, old, running⟩
  | disconnect other =>
      left
      simp only [step] at member
      split at member
      · exact ⟨expires, member, running⟩
      · exact kept (forget_sublist _ _ _) member
  | vanish => exact Or.inl ⟨expires, member, running⟩
  | participantDisconnected index =>
      left
      simp only [step] at member
      split at member <;> exact ⟨expires, member, running⟩
  | reap => exact Or.inl ⟨expires, member, running⟩
  | reapNext index =>
      left
      simp only [step] at member
      split at member
      · exact kept (reapOne_sublist _ _ _) member
      · exact ⟨expires, member, running⟩
  | reportNext index =>
      left
      simp only [step] at member
      split at member <;> exact ⟨expires, member, running⟩
  | abandon => exact Or.inl ⟨expires, member, running⟩
  | expireDisconnected => exact Or.inl ⟨expires, member, running⟩

/-- A report starts the deadline of a participant who has no lease. -/
theorem markDisconnected_gone {participant : CallId × CallRole}
    (timely : s.timelyReport participant = true) {callId : CallId} {role : CallRole}
    (gone : (markParticipant s.api.db participant.1 participant.2 (some s.clock)).goneSince callId
      role = some since) : s.api.db.goneSince callId role = some since ∨
      since = s.clock ∧ s.attended callId role = false := by
  rw [goneSince_mark] at gone
  split at gone
  · rename_i here
    obtain ⟨rfl, rfl, opened⟩ := here
    cases before : s.api.db.goneSince participant.1 participant.2 with
    | some earlier =>
        rw [before] at gone
        exact Or.inl gone
    | none =>
        rw [before] at gone
        simp only [timelyReport, opened, before, Option.isSome_none, Bool.not_true, Bool.false_or,
          Bool.not_eq_true'] at timely
        exact Or.inr ⟨(Option.some.inj gone).symm, timely⟩
  · exact Or.inl gone

/-- What a step that keeps to the condition starts a deadline for has no lease. -/
theorem gone_step (pending : PendingUnmarked s.api.db) (timely : s.timely config input = true)
    {callId : CallId} {role : CallRole}
    (gone : (s.step config input).api.db.goneSince callId role = some since) :
    s.api.db.goneSince callId role = some since ∨
      since = s.clock ∧ s.attended callId role = false ∧
        (s.step config input).presence = s.presence ∧ (s.step config input).clock = s.clock := by
  have report {participant : CallId × CallRole} (timely : s.timelyReport participant = true)
      (gone : (markParticipant s.api.db participant.1 participant.2 (some s.clock)).goneSince callId
        role = some since) := markDisconnected_gone timely gone
  cases input with
  | tick => exact Or.inl gone
  | api op =>
      left
      cases op with
      | markParticipant => exact gone
      | expireDisconnected => exact gone
      | _ => exact (s.api.step_spares s.clock rfl).goneSince pending gone
  | touch => exact Or.inl gone
  | participantConnected other ok =>
      left
      simp only [step] at gone
      split at gone
      · exact gone
      · split at gone
        · change (markParticipant s.api.db other.callId other.role none).goneSince callId role = _
            at gone
          rw [goneSince_mark] at gone
          split at gone
          · cases gone
          · exact gone
        · exact gone
  | heartbeat other =>
      left
      simp only [step] at gone
      split at gone <;> exact gone
  | disconnect other =>
      left
      simp only [step] at gone
      split at gone <;> exact gone
  | vanish => exact Or.inl gone
  | participantDisconnected index =>
      cases listed : s.leaving[index]? with
      | none =>
          simp only [step, listed] at gone
          exact Or.inl gone
      | some participant =>
          simp only [step, listed] at gone ⊢
          simp only [PresenceState.timely, listed, Option.all_some] at timely
          rcases report timely gone with before | ⟨now, unattended⟩
          · exact Or.inl before
          · exact Or.inr ⟨now, unattended, rfl, rfl⟩
  | reap => exact Or.inl gone
  | reapNext index =>
      left
      simp only [step] at gone
      split at gone <;> exact gone
  | reportNext index =>
      simp only [step] at gone ⊢
      simp only [PresenceState.timely] at timely
      split at gone
      · rename_i participant rest listed
        rw [listed] at timely
        rcases report timely gone with before | ⟨now, unattended⟩
        · exact Or.inl before
        · exact Or.inr ⟨now, unattended, rfl, rfl⟩
      · exact Or.inl gone
  | abandon => exact Or.inl gone
  | expireDisconnected =>
      left
      exact (s.api.step_spares s.clock rfl).goneSince pending gone

/-- A socket opens until its participant is recorded, or under no deadline. -/
theorem opening_step (timely : s.timely config input = true)
    (gone : (s.step config input).api.db.goneSince connection.callId connection.role = some since)
    (before : s.api.db.goneSince connection.callId connection.role = some since)
    (opens : connection ∈ s.opening) : connection ∈ (s.step config input).opening := by
  cases input with
  | tick => exact opens
  | api op => cases op <;> exact opens
  | touch => exact List.mem_cons_of_mem _ opens
  | participantConnected other ok =>
      by_cases same : other = connection
      · subst same
        exfalso
        cases ok with
        | true =>
            simp only [step, opens, not_true_eq_false, if_false, if_true] at gone
            change (markParticipant s.api.db other.callId other.role none).goneSince _ _ = _ at gone
            obtain ⟨call, found, opened, _⟩ := goneSince_some before
            rw [goneSince_mark, if_pos ⟨rfl, rfl, by simp [DB.isOpen, found, opened]⟩] at gone
            cases gone
        | false => simp [PresenceState.timely, opens, before] at timely
      · have stays : connection ∈ s.opening.erase other :=
          (List.mem_erase_of_ne fun here => same here.symm).mpr opens
        simp only [step]
        split
        · exact opens
        · split <;> exact stays
  | heartbeat other =>
      simp only [step]
      split <;> exact opens
  | disconnect other =>
      simp only [step]
      split <;> exact opens
  | vanish other =>
      by_cases same : other = connection
      · subst same
        simp [PresenceState.timely, opens, before] at timely
      · exact (List.mem_erase_of_ne fun here => same here.symm).mpr opens
  | participantDisconnected index =>
      simp only [step]
      split <;> exact opens
  | reap => exact opens
  | reapNext index =>
      simp only [step]
      split <;> exact opens
  | reportNext index =>
      simp only [step]
      split <;> exact opens
  | abandon => exact opens
  | expireDisconnected => exact opens

theorem clock_step (config : PresenceConfig) (s : PresenceState) (input : PresenceInput) :
    s.clock ≤ (s.step config input).clock := by
  cases input with
  | tick time => exact Nat.le_max_left _ _
  | api op => cases op <;> exact Nat.le_refl _
  | touch => exact Nat.le_refl _
  | reap => exact Nat.le_refl _
  | vanish => exact Nat.le_refl _
  | abandon => exact Nat.le_refl _
  | expireDisconnected => exact Nat.le_refl _
  | participantConnected =>
      simp only [step]
      split
      · exact Nat.le_refl _
      · split <;> exact Nat.le_refl _
  | _ =>
      simp only [step]
      split <;> exact Nat.le_refl _

theorem pending_step (pending : PendingUnmarked s.api.db) :
    PendingUnmarked (s.step config input).api.db := by
  cases input with
  | api op =>
      cases op with
      | markParticipant => exact pending
      | expireDisconnected => exact pending
      | _ => exact (s.api.step_spares s.clock rfl).pending pending
  | expireDisconnected => exact (s.api.step_spares s.clock rfl).pending pending
  | participantConnected other ok =>
      simp only [step]
      split
      · exact pending
      · split
        · exact pending.mark _ _ _
        · exact pending
  | participantDisconnected index =>
      simp only [step]
      split
      · exact pending
      · exact pending.mark _ _ _
  | reportNext index =>
      simp only [step]
      split
      · exact pending.mark _ _ _
      · exact pending
  | heartbeat other =>
      simp only [step]
      split <;> exact pending
  | disconnect other =>
      simp only [step]
      split <;> exact pending
  | reapNext index =>
      simp only [step]
      split <;> exact pending
  | _ => exact pending

end Steps

/-! ### Runs -/

section Runs

variable (config : PresenceConfig) (first : PresenceState) (inputs : List PresenceInput)

/-- A lease of the connection was running at this time of the run. -/
def Ran (connection : Connection) (time : Time) : Prop :=
  ∃ front input rest, inputs = front ++ input :: rest ∧
    (run (step config) first front).clock ≤ time ∧
    time ≤ (run (step config) first (front ++ [input])).clock ∧
    (run (step config) first front).Leased connection time

/-- A sweep fails the call, and the participant's deadline is over. -/
def TimesOut (s : PresenceState) (callId : CallId) (role : CallRole) : Prop :=
  s.overdue config.disconnectGrace callId role = true ∧
    ((s.step config .expireDisconnected).api.db.calls.get callId).map Call.status = some .failed

/-- Whoever is timed out had no lease in all of the grace period. -/
def NeverTimedOut : Prop :=
  ∀ front rest callId role, inputs = front ++ .expireDisconnected :: rest →
    TimesOut config (run (step config) first front) callId role →
    ∀ connection, connection.callId = callId → connection.role = role →
    ∀ time, (run (step config) first front).clock < time + config.disconnectGrace →
      ¬ Ran config first (front ++ [.expireDisconnected]) connection time

/-- What is known of those who are gone: no socket of theirs has had a lease since,
but those that are opening. -/
structure Watched : Prop where
  pending : PendingUnmarked (run (step config) first inputs).api.db
  current : ∀ connection since,
    (run (step config) first inputs).api.db.goneSince connection.callId connection.role =
      some since →
    ∀ time, (run (step config) first inputs).clock ≤ time →
      (run (step config) first inputs).Leased connection time →
      connection ∈ (run (step config) first inputs).opening
  past : ∀ connection since,
    (run (step config) first inputs).api.db.goneSince connection.callId connection.role =
      some since →
    ∀ time, since < time → Ran config first inputs connection time →
      connection ∈ (run (step config) first inputs).opening
  bounded : ∀ connection time, Ran config first inputs connection time →
    time ≤ (run (step config) first inputs).clock

end Runs

section Runs

variable {config : PresenceConfig} {first : PresenceState} {inputs : List PresenceInput}

theorem run_snoc (config : PresenceConfig) (first : PresenceState) (inputs : List PresenceInput)
    (input : PresenceInput) : run (step config) first (inputs ++ [input]) =
      (run (step config) first inputs).step config input :=
  run_append _ _ _ _

theorem ran_snoc {input : PresenceInput} {connection : Connection} {time : Time}
    (ran : Ran config first (inputs ++ [input]) connection time) :
    Ran config first inputs connection time ∨
      (run (step config) first inputs).clock ≤ time ∧
      time ≤ ((run (step config) first inputs).step config input).clock ∧
      (run (step config) first inputs).Leased connection time := by
  obtain ⟨front, taken, rest, split, started, ended, leased⟩ := ran
  rcases List.eq_nil_or_concat rest with rfl | ⟨rest, last, rfl⟩
  · obtain ⟨rfl, same⟩ := List.append_inj' split rfl
    obtain rfl := List.head_eq_of_cons_eq same
    rw [run_snoc] at ended
    exact Or.inr ⟨started, ended, leased⟩
  · rw [List.concat_eq_append, ← List.cons_append, ← List.append_assoc] at split
    obtain ⟨rfl, _⟩ := List.append_inj' split rfl
    exact Or.inl ⟨front, taken, rest, rfl, started, ended, leased⟩

theorem Leased.earlier {s : PresenceState} {connection : Connection} {time sooner : Time}
    (leased : s.Leased connection time) (before : sooner ≤ time) : s.Leased connection sooner := by
  obtain ⟨expires, member, running⟩ := leased
  exact ⟨expires, member, Nat.lt_of_le_of_lt before running⟩

theorem unattended {s : PresenceState} {connection : Connection} {time : Time}
    (nobody : s.attended connection.callId connection.role = false) (later : s.clock ≤ time)
    (leased : s.Leased connection time) : False := by
  have : s.attended connection.callId connection.role = true :=
    attended_iff.mpr ⟨connection, rfl, rfl, leased.earlier later⟩
  rw [nobody] at this
  cases this

theorem Watched.snoc (watched : Watched config first inputs) {input : PresenceInput}
    (timely : (run (step config) first inputs).timely config input = true) :
    Watched config first (inputs ++ [input]) := by
  obtain ⟨pending, current, past, bounded⟩ := watched
  constructor <;> simp only [run_snoc]
  all_goals generalize state : run (step config) first inputs = s at *
  · exact pending_step pending
  · intro connection since gone time later leased
    have laterNow := Nat.le_trans (clock_step config s input) later
    have old (leased : s.Leased connection time) :
        connection ∈ (s.step config input).opening := by
      rcases gone_step pending timely gone with before | ⟨_, nobody, _, _⟩
      · exact opening_step timely gone before (current connection since before time laterNow leased)
      · exact (unattended nobody laterNow leased).elim
    rcases leased_step leased with still | opens | ⟨rfl, serving⟩
    · exact old still
    · exact opens
    · rcases gone_step pending timely gone with before | ⟨_, _, same, _⟩
      · simp [PresenceState.timely, serving, before] at timely
      · refine old ?_
        unfold Leased at leased
        rw [same] at leased
        exact leased
  · intro connection since gone time after ran
    replace ran := ran_snoc ran
    rw [state] at ran
    rcases gone_step pending timely gone with before | ⟨now, _, _, still⟩
    · refine opening_step timely gone before ?_
      rcases ran with earlier | ⟨later, _, leased⟩
      · exact past connection since before time after earlier
      · exact current connection since before time later leased
    · exfalso
      rcases ran with earlier | ⟨_, ended, _⟩
      · exact Nat.lt_irrefl since (Nat.lt_of_lt_of_le after (now ▸ bounded connection time earlier))
      · rw [still, ← now] at ended
        exact Nat.lt_irrefl since (Nat.lt_of_lt_of_le after ended)
  · intro connection time ran
    replace ran := ran_snoc ran
    rw [state] at ran
    rcases ran with earlier | ⟨_, ended, _⟩
    · exact Nat.le_trans (bounded connection time earlier) (clock_step config s input)
    · exact ended

theorem watched_start (config : PresenceConfig) (shows : Table Show) (showTiers : Table ShowTier) :
    Watched config (start shows showTiers) [] where
  pending := fun callId call found => by cases found
  current := fun connection since gone => by cases gone
  past := fun connection since gone => by cases gone
  bounded := by
    intro connection time ⟨front, input, rest, split, _⟩
    cases front <;> cases split

theorem watched_run {shows : Table Show} {showTiers : Table ShowTier}
    (timely : Along (step config) (fun s input => s.timely config input = true)
      (start shows showTiers) inputs) : Watched config (start shows showTiers) inputs := by
  induction inputs using List.reverseRecOn with
  | nil => exact watched_start config shows showTiers
  | append_singleton front input ih =>
      obtain ⟨before, now, _⟩ := (along_append ..).mp timely
      exact (ih before).snoc now

end Runs

/-- A participant is timed out only after a grace period without a lease, while
reports, renewals and openings keep to the condition. -/
theorem never_timed_out (config : PresenceConfig) (shows : Table Show) (showTiers : Table ShowTier)
    (inputs : List PresenceInput)
    (timely : Along (step config) (fun s input => s.timely config input = true)
      (start shows showTiers) inputs) :
    NeverTimedOut config (start shows showTiers) inputs := by
  rintro front rest callId role rfl ⟨overdue, _⟩ connection rfl rfl time within ran
  obtain ⟨before, now, _⟩ := (along_append ..).mp timely
  have watched := watched_run before
  have late := overdue
  unfold PresenceState.overdue at overdue
  rw [Option.any_eq_true] at overdue
  obtain ⟨since, gone, over_⟩ := overdue
  rw [decide_eq_true_eq] at over_
  have after : since < time := Nat.lt_of_add_lt_add_right (Nat.lt_of_le_of_lt over_ within)
  have opens : connection ∈ (run (step config) (start shows showTiers) front).opening := by
    rcases ran_snoc ran with earlier | ⟨later, _, leased⟩
    · exact watched.past connection since gone time after earlier
    · exact watched.current connection since gone time later leased
  simp only [PresenceState.timely, List.all_eq_true, Bool.not_eq_true'] at now
  rw [now connection opens] at late
  cases late

def sampleConfig : PresenceConfig := ⟨30000, 20000⟩

/-- A caller is selected and connects. -/
def sampleConnection : List PresenceInput :=
  [.api (sampleJoin none), .api (.select 0 5 (.manual 0)), .touch 0 .viewer,
    .participantConnected ⟨0, .viewer, 0⟩ true, .disconnect ⟨0, .viewer, 0⟩]

set_option maxRecDepth 20000 in
theorem gone_caller_timed_out : NeverTimedOut sampleConfig (start sampleShows (sampleTiers 0))
    (sampleConnection ++ [.participantDisconnected 0, .tick 20000, .expireDisconnected]) :=
  never_timed_out sampleConfig sampleShows (sampleTiers 0) _ (by decide)

/-- The caller's browser reconnects before the old socket is reported. -/
def sampleReconnect : List PresenceInput :=
  sampleConnection ++ [.touch 0 .viewer, .participantConnected ⟨0, .viewer, 1⟩ true,
    .participantDisconnected 0, .tick 10000, .heartbeat ⟨0, .viewer, 1⟩, .tick 20000]

set_option maxRecDepth 20000 in
theorem connected_caller_timed_out : ¬ ∀ config shows showTiers inputs,
    NeverTimedOut config (start shows showTiers) inputs := by
  intro always
  have fails : TimesOut sampleConfig (run (step sampleConfig) (start sampleShows (sampleTiers 0))
      sampleReconnect) 0 .viewer := by
    unfold TimesOut
    decide
  have now : (run (step sampleConfig) (start sampleShows (sampleTiers 0)) sampleReconnect).clock =
      20000 := by decide
  have leased : (⟨0, .viewer, 1⟩, 40000) ∈ (run (step sampleConfig)
      (start sampleShows (sampleTiers 0)) sampleReconnect).presence.roles := by decide
  refine always sampleConfig sampleShows (sampleTiers 0) (sampleReconnect ++ [.expireDisconnected])
    sampleReconnect [] 0 .viewer rfl fails ⟨0, .viewer, 1⟩ rfl rfl 20000 ?_ ?_
  · rw [now]
    decide
  · refine ⟨sampleReconnect, .expireDisconnected, [], rfl, Nat.le_of_eq now, ?_, 40000, leased, ?_⟩
    · rw [run_snoc]
      exact Nat.le_trans (Nat.le_of_eq now.symm) (clock_step ..)
    · decide

end PresenceState

end Bling.Api
