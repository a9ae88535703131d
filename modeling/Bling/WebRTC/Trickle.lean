import Bling.WebRTC.HangUp

set_option autoImplicit false

namespace Bling.WebRTC

open Library

/-! Remote candidates reach the peer connection in order, each once and none
before there is a remote description. -/

/-- The candidates that a task of the chain brings. -/
def Task.candidates : Task → List Nat
  | .signal (.ice candidate) => [candidate]
  | _ => []

namespace Manager

/-! ### What a manager has to do with candidates -/

structure Core where
  phase : Phase
  closing : Bool
  starts : List StartAwait
  peer : Option (Handle × Option Sdp)
  running : Option Await
  chain : List Task
  remoteCandidates : List Nat

def core (m : Manager) : Core where
  phase := m.phase
  closing := m.closing
  starts := m.starts
  peer := m.peer.map fun p => (p.id, p.remoteDescription)
  running := m.running
  chain := m.chain
  remoteCandidates := m.remoteCandidates

/-- The candidates a flush that is under way has yet to add. -/
def Core.flushing (c : Core) : List Nat :=
  match c.running with
  | some (.flush candidates _) => candidates.drop 1
  | _ => []

/-- The candidate that a message brings. -/
def receives (m : Manager) : Event → List Nat
  | .message id (.ice candidate) =>
    if m.sockets id = .closed ∨ m.socket ≠ some id then [] else [candidate]
  | _ => []

def hasRemote (m : Manager) : Bool :=
  (m.peer.bind Peer.remoteDescription).isSome

/-- A flush calls `addIceCandidate` with the first of what it is suspended with, if
there is a peer connection to call it on. -/
def flushed (m : Manager) : List Nat :=
  match m.running, m.peer with
  | some (.flush candidates _), some _ => candidates.take 1
  | _, _ => []

/-- The candidate that a step calls `addIceCandidate` with: the one of a signal, or
the next of a flush. -/
def adds (m : Manager) : Event → List Nat
  | .next => match m.running, m.chain with
    | none, .signal (.ice candidate) :: _ => if m.hasRemote then [candidate] else []
    | _, _ => []
  | .settle outcome => (m.settle outcome).flushed
  | _ => []

/-- A step after which the manager has neither ended nor failed. -/
def StaysOn (m : Manager) (event : Event) : Prop :=
  (m.step event).phase.over_ = false

instance (m : Manager) (event : Event) : Decidable (m.StaysOn event) :=
  inferInstanceAs (Decidable (_ = _))

/-! ### What leaves it alone -/

theorem send_core (m : Manager) (signal : Signal) : (m.send signal).core = m.core := by
  unfold send
  split
  · rfl
  · split <;> rfl

theorem stopReadyPulse_core (m : Manager) : m.stopReadyPulse.core = m.core := by
  simp only [stopReadyPulse, clearTimer_eq, core]

theorem announce_core (m : Manager) : m.announce.core = m.core := by
  unfold announce
  split
  · rfl
  · exact send_core m .ready

theorem openSocket_core (m : Manager) : m.openSocket.core = m.core := by
  unfold openSocket
  split <;> rfl

theorem closed_core (m : Manager) (id : Handle) : (m.closed id).core = m.core := by
  unfold closed
  rw [closeSocket_eq]
  dsimp only
  split
  · rfl
  · split
    · rfl
    · unfold scheduleReconnect
      split <;> rfl

theorem opened_core (m : Manager) (id : Handle) : (m.opened id).core = m.core := by
  unfold opened
  split
  · rfl
  · dsimp only
    split
    · rfl
    · split
      · unfold startReadyPulse
        rw [announce_core, stopReadyPulse_core]
        rfl
      · unfold resend
        split
        · rfl
        · split
          · exact send_core _ _
          · rfl

theorem fail_over (m : Manager) : m.fail.phase.over_ = true := by
  unfold fail
  split
  · rename_i isOver
    rcases isOver with failed | ended
    · rw [failed]
      rfl
    · rw [ended]
      rfl
  · rw [cleanup_phase]
    rfl

/-! ### Before there is a peer connection -/

structure Bare (m : Manager) : Prop where
  peer : m.peer = none
  goes : m.closing = false
  socket : m.socket = none
  running : m.running = none
  chain : m.chain = []
  candidates : m.remoteCandidates = []
  timers : ∀ id, m.timers id = none
  starts : m.phase.busy = false ∧ m.starts = [] ∨ m.phase.busy = true ∧ m.starts = [.microphone]

/-! ### From then on -/

/-- What was received has been passed on, is in a flush, is put by or is to come. -/
structure Core.Orderly (c : Core) (id : Handle) (remote : Option Sdp) (received passed : List Nat) :
    Prop where
  goes : c.closing = false
  busy : c.phase.busy = true
  started : .microphone ∉ c.starts
  peer : c.peer = some (id, remote)
  bound : ∀ peer sdp, c.running = some (.remoteOffer peer sdp) ∨
    c.running = some (.remoteAnswer peer sdp) → peer = some id
  whole : received = passed ++ c.flushing ++ c.remoteCandidates ++ c.chain.flatMap Task.candidates
  early : remote = none → passed = [] ∧ ∀ candidates replies,
    c.running ≠ some (.flush candidates replies)
  late : remote.isSome → c.remoteCandidates = []

def Going (m : Manager) (received passed : List Nat) : Prop :=
  ∃ id remote, m.core.Orderly id remote received passed

def Trickle (m : Manager) (received passed : List Nat) : Prop :=
  m.Bare ∧ received = [] ∧ passed = [] ∨ m.Going received passed

theorem Bare.step {m : Manager} (bare : m.Bare) (event : Event) (on : m.StaysOn event) :
    (m.step event).Trickle [] [] := by
  have still : m.Trickle [] [] := Or.inl ⟨bare, rfl, rfl⟩
  have failed (after : Manager) : after.fail.phase.over_ = false → after.fail.Trickle [] [] :=
    fun on => absurd ((fail_over after).symm.trans on) (by decide)
  cases event with
  | start =>
      show m.start.Trickle [] []
      unfold Manager.start
      rcases bare.starts with ⟨idle, starts⟩ | ⟨busy, starts⟩
      · rw [if_neg (by simp [idle])]
        exact Or.inl ⟨⟨bare.peer, rfl, bare.socket, bare.running, bare.chain, bare.candidates,
          bare.timers, Or.inr ⟨rfl, by simp [starts]⟩⟩, rfl, rfl⟩
      · rw [if_pos busy]
        exact still
  | microphone settled =>
      rw [StaysOn] at on
      simp only [Manager.step, Manager.microphone] at on ⊢
      split
      · exact still
      · rename_i pending
        rw [if_neg pending] at on
        have starts : m.starts = [.microphone] := by
          rcases bare.starts with ⟨_, starts⟩ | ⟨_, starts⟩
          · simp [starts] at pending
          · exact starts
        cases settled with
        | granted makesPeer =>
            cases makesPeer with
            | false => exact failed _ on
            | true =>
                refine Or.inr ⟨_, none, bare.goes, ?_, ?_, rfl, ?_, ?_, ?_, ?_⟩
                · rcases bare.starts with ⟨_, none⟩ | ⟨busy, _⟩
                  · simp [none] at starts
                  · exact busy
                · simp [starts, core]
                · intro peer sdp running
                  simp [core, createPeer, bare.running] at running
                · simp [core, createPeer, Core.flushing, bare.running, bare.chain,
                    bare.candidates]
                · intro _
                  simp [core, createPeer, bare.running]
                · intro remote
                  cases remote
        | denied =>
            exact Or.inl ⟨⟨bare.peer, bare.goes, bare.socket, bare.running, bare.chain,
              bare.candidates, bare.timers, Or.inl ⟨rfl, by simp [setPhase, starts]⟩⟩, rfl, rfl⟩
        | failed => exact failed _ on
  | localReady settles makesSocket =>
      have absent : StartAwait.localReady ∉ m.starts := by
        rcases bare.starts with ⟨_, starts⟩ | ⟨_, starts⟩ <;> simp [starts]
      simp only [Manager.step, Manager.localReady, absent, not_false_eq_true, if_true]
      exact still
  | end_ =>
      refine absurd (Eq.symm ?_ |>.trans on) (by decide : true ≠ false)
      show m.end_.phase.over_ = true
      rw [end_, cleanup_phase]
      rfl
  | opened id =>
      simp only [Manager.step, Manager.opened]
      split
      · exact still
      · rw [if_pos (by simp [bare.socket])]
        exact Or.inl ⟨⟨bare.peer, bare.goes, bare.socket, bare.running, bare.chain,
          bare.candidates, bare.timers, bare.starts⟩, rfl, rfl⟩
  | message id signal =>
      simp only [Manager.step, Manager.message]
      rw [if_pos (Or.inr (by simp [bare.socket]))]
      exact still
  | errored id =>
      exact Or.inl ⟨⟨bare.peer, bare.goes, bare.socket, bare.running, bare.chain,
        bare.candidates, bare.timers, bare.starts⟩, rfl, rfl⟩
  | closed id =>
      simp only [Manager.step, Manager.closed]
      rw [if_pos (by simp [closeSocket, bare.socket])]
      exact Or.inl ⟨⟨bare.peer, bare.goes, bare.socket, bare.running, bare.chain,
        bare.candidates, bare.timers, bare.starts⟩, rfl, rfl⟩
  | next =>
      simp only [Manager.step, Manager.next, bare.running, bare.chain]
      exact still
  | settle outcome =>
      simp only [Manager.step, Manager.settle, bare.running]
      exact still
  | connection id state =>
      simp only [Manager.step, Manager.connection]
      split
      · simp only [onPeer, bare.peer, Option.map_none, connectionChanged]
        exact Or.inl ⟨⟨rfl, bare.goes, bare.socket, bare.running, bare.chain, bare.candidates,
          bare.timers, bare.starts⟩, rfl, rfl⟩
      · exact still
  | candidate id gathered =>
      simp only [Manager.step, Manager.candidate, send, bare.socket]
      split <;> exact still
  | confirmed settles =>
      rw [StaysOn] at on
      simp only [Manager.step, Manager.confirmed] at on ⊢
      split
      · exact still
      · rename_i pending
        rw [if_neg pending] at on
        cases settles with
        | true =>
            exact Or.inl ⟨⟨bare.peer, bare.goes, bare.socket, bare.running, bare.chain,
              bare.candidates, bare.timers, bare.starts⟩, rfl, rfl⟩
        | false => exact failed _ on
  | timer id makesSocket =>
      simp only [Manager.step, Manager.timer, bare.timers]
      exact still

section Going

variable {m : Manager} {received passed : List Nat}

theorem Going.same (going : m.Going received passed) {after : Manager}
    (core : after.core = m.core) : after.Going received passed := by
  obtain ⟨id, remote, orderly⟩ := going
  exact ⟨id, remote, core ▸ orderly⟩

theorem Going.setPhase (going : m.Going received passed) {phase : Phase}
    (busy : phase.busy = true) : (m.setPhase phase).Going received passed := by
  obtain ⟨id, remote, orderly⟩ := going
  exact ⟨id, remote, orderly.goes, busy, orderly.started, orderly.peer, orderly.bound,
    orderly.whole, orderly.early, orderly.late⟩

/-- A call of `start` that goes on leaves the rest alone. -/
theorem Going.taken (going : m.Going received passed) :
    { m with starts := m.starts.erase .localReady }.Going received passed := by
  obtain ⟨id, remote, orderly⟩ := going
  exact ⟨id, remote, orderly.goes, orderly.busy,
    fun member => orderly.started (List.mem_of_mem_erase member), orderly.peer, orderly.bound,
    orderly.whole, orderly.early, orderly.late⟩

theorem Core.Orderly.here {id : Handle} {remote : Option Sdp}
    (orderly : m.core.Orderly id remote received passed) :
    ∃ p, m.peer = some p ∧ p.id = id ∧ p.remoteDescription = remote := by
  have peer := orderly.peer
  simp only [core, Option.map_eq_some_iff, Prod.mk.injEq] at peer
  exact peer

theorem Core.Orderly.hasRemote_eq {id : Handle} {remote : Option Sdp}
    (orderly : m.core.Orderly id remote received passed) : m.hasRemote = remote.isSome := by
  obtain ⟨p, present, _, same⟩ := orderly.here
  simp [hasRemote, present, same]

/-- A task that is suspended elsewhere than in a flush. -/
theorem Going.runs (going : m.Going received passed) (idle : m.core.flushing = [])
    {running : Option Await} (elsewhere : ∀ candidates replies,
      running ≠ some (.flush candidates replies))
    (bound : ∀ peer sdp, running = some (.remoteOffer peer sdp) ∨
      running = some (.remoteAnswer peer sdp) → peer = m.peer.map Peer.id) :
    { m with running }.Going received passed := by
  obtain ⟨id, remote, orderly⟩ := going
  obtain ⟨p, present, named, _⟩ := orderly.here
  have here : m.peer.map Peer.id = some id := by simp [present, named]
  have calm : { m with running }.core.flushing = [] := by
    unfold Core.flushing
    split
    · rename_i candidates replies flushes
      exact absurd flushes (elsewhere candidates replies)
    · rfl
  refine ⟨id, remote, orderly.goes, orderly.busy, orderly.started, orderly.peer, ?_, ?_, ?_,
    orderly.late⟩
  · intro peer sdp awaits
    exact (bound peer sdp awaits).trans here
  · rw [calm, ← idle]
    exact orderly.whole
  · intro unset
    exact ⟨(orderly.early unset).1, elsewhere⟩

/-- A flush goes on with what is left to add, once there is a remote description. -/
theorem Going.flushes {id : Handle} {remote : Option Sdp}
    (orderly : m.core.Orderly id remote received passed) {after : Manager} {sdp : Sdp}
    {candidates : List Nat} {replies : Bool}
    (core : after.core = { m.core with
      peer := some (id, some sdp)
      running := some (.flush candidates replies)
      remoteCandidates := [] })
    (left : candidates = m.core.flushing ++ m.core.remoteCandidates) :
    after.Going received (passed ++ candidates.take 1) := by
  refine ⟨id, some sdp, ?_⟩
  rw [core]
  refine ⟨orderly.goes, orderly.busy, orderly.started, rfl, ?_, ?_, ?_, fun _ => rfl⟩
  · intro peer sdp awaits
    rcases awaits with one | other
    · cases one
    · cases other
  · have whole := orderly.whole
    rw [List.append_assoc passed, ← left] at whole
    simp only [Core.flushing, List.append_nil, List.append_assoc, List.take_append_drop]
    rw [whole, List.append_assoc]
  · intro unset
    cases unset

theorem Going.message (going : m.Going received passed) (id : Handle) (signal : Signal) :
    (m.message id signal).Going (received ++ m.receives (.message id signal)) passed := by
  unfold Manager.message
  by_cases deaf : m.sockets id = .closed ∨ m.socket ≠ some id
  · have none : m.receives (.message id signal) = [] := by
      cases signal <;> first | exact if_pos deaf | rfl
    rw [if_pos deaf, none, List.append_nil]
    exact going
  · have brought : m.receives (.message id signal) = (Task.signal signal).candidates := by
      cases signal <;> first | exact if_neg deaf | rfl
    rw [if_neg deaf, brought]
    obtain ⟨peer, remote, orderly⟩ := going
    refine ⟨peer, remote, orderly.goes, orderly.busy, orderly.started, orderly.peer,
      orderly.bound, ?_, orderly.early, orderly.late⟩
    have whole := orderly.whole
    rw [whole]
    simp [core, Core.flushing]

theorem Going.offer (going : m.Going received passed) (idle : m.core.flushing = []) :
    m.offer.Going received passed := by
  unfold Manager.offer
  split
  · exact going
  · split
    · exact going.same (send_core m _)
    · split
      · exact going
      · exact going.runs idle (fun _ _ same => by cases same) fun _ _ same => by
          rcases same with one | other
          · cases one
          · cases other

/-- A task that brings no candidate has its turn. -/
theorem Going.consume (going : m.Going received passed) {task : Task} {rest : List Task}
    (chain : m.chain = task :: rest) (none : task.candidates = []) :
    { m with chain := rest }.Going received passed := by
  obtain ⟨id, remote, orderly⟩ := going
  refine ⟨id, remote, orderly.goes, orderly.busy, orderly.started, orderly.peer, orderly.bound,
    ?_, orderly.early, orderly.late⟩
  have whole := orderly.whole
  simp only [core, chain, List.flatMap_cons, none, List.nil_append] at whole
  exact whole

/-- A candidate is added if there is a remote description, and put by else. -/
theorem Going.candidate (going : m.Going received passed) (running : m.running = none)
    {candidate : Nat} {rest : List Task} (chain : m.chain = .signal (.ice candidate) :: rest) :
    ({ m with chain := rest }.handleSignal (.ice candidate)).Going received
      (passed ++ if m.hasRemote then [candidate] else []) := by
  obtain ⟨id, remote, orderly⟩ := going
  have whole := orderly.whole
  have same := orderly.hasRemote_eq
  simp only [core, Core.flushing, running, chain, List.flatMap_cons, Task.candidates] at whole
  simp only [Manager.handleSignal]
  by_cases set : m.hasRemote = true
  · rw [if_pos set]
    have kept := orderly.late (same ▸ set)
    rw [if_pos (by simpa [hasRemote] using set)]
    refine ⟨id, remote, orderly.goes, orderly.busy, orderly.started, orderly.peer, ?_, ?_, ?_,
      orderly.late⟩
    · intro peer sdp awaits
      rcases awaits with one | other
      · cases one
      · cases other
    · have empty : m.remoteCandidates = [] := kept
      rw [empty] at whole
      simpa [core, Core.flushing, empty] using whole
    · intro unset
      rw [same, unset] at set
      cases set
  · rw [if_neg set, List.append_nil]
    rw [if_neg (by simpa [hasRemote] using set)]
    refine ⟨id, remote, orderly.goes, orderly.busy, orderly.started, orderly.peer, orderly.bound,
      ?_, orderly.early, ?_⟩
    · simpa [core, Core.flushing, running] using whole
    · intro some
      rw [same] at set
      exact absurd some set

theorem Going.next (going : m.Going received passed) (on : m.StaysOn .next) :
    m.next.Going received (passed ++ m.adds .next) := by
  rw [StaysOn] at on
  cases running : m.running with
  | some await =>
      have still : m.next = m := by simp [Manager.next, running]
      have none : m.adds .next = [] := by simp [adds, running]
      rw [still, none, List.append_nil]
      exact going
  | none =>
      cases chain : m.chain with
      | nil =>
          have still : m.next = m := by simp [Manager.next, running, chain]
          have none : m.adds .next = [] := by simp [adds, running, chain]
          rw [still, none, List.append_nil]
          exact going
      | cons task rest =>
          have idle : { m with chain := rest }.core.flushing = [] := by
            simp [Core.flushing, core, running]
          cases task with
          | offer =>
              have turn : m.next = { m with chain := rest }.offer := by
                simp [Manager.next, running, chain]
              have none : m.adds .next = [] := by simp [adds, running, chain]
              rw [turn, none, List.append_nil]
              exact (going.consume chain rfl).offer idle
          | signal signal =>
              have turn : m.next = { m with chain := rest }.handleSignal signal := by
                simp [Manager.next, running, chain]
              cases signal with
              | ice candidate =>
                  have one : m.adds .next = if m.hasRemote then [candidate] else [] := by
                    simp [adds, running, chain]
                  rw [turn, one]
                  exact going.candidate running chain
              | ready =>
                  have none : m.adds .next = [] := by simp [adds, running, chain]
                  rw [turn, none, List.append_nil]
                  simp only [Manager.handleSignal]
                  split
                  · exact (going.consume chain rfl).offer idle
                  · exact going.consume chain rfl
              | offer sdp =>
                  have none : m.adds .next = [] := by simp [adds, running, chain]
                  rw [turn, none, List.append_nil]
                  simp only [Manager.handleSignal]
                  split
                  · exact going.consume chain rfl
                  · have stopped := (going.consume chain rfl).same (stopReadyPulse_core _)
                    refine stopped.runs ?_ ?_ ?_
                    · rw [stopReadyPulse_core]
                      exact idle
                    · intro _ _ same
                      cases same
                    · intro peer other awaits
                      simp only [Option.some.injEq, Await.remoteOffer.injEq, reduceCtorEq,
                        or_false] at awaits
                      simp only [stopReadyPulse, clearTimer_eq]
                      exact awaits.1.symm
              | answer sdp =>
                  have none : m.adds .next = [] := by simp [adds, running, chain]
                  rw [turn, none, List.append_nil]
                  simp only [Manager.handleSignal]
                  split
                  · refine (going.consume chain rfl).runs idle ?_ ?_
                    · intro _ _ same
                      cases same
                    · intro peer other awaits
                      simp only [Option.some.injEq, Await.remoteAnswer.injEq, reduceCtorEq,
                        false_or] at awaits
                      exact awaits.1.symm
                  · exact going.consume chain rfl
              | malformed =>
                  simp only [Manager.step, turn, Manager.handleSignal] at on
                  exact absurd ((fail_over _).symm.trans on) (by decide)

/-- A step that flushes nothing. -/
theorem Going.calm (going : m.Going received passed)
    (elsewhere : ∀ candidates replies, m.running ≠ some (.flush candidates replies)) :
    m.Going received (passed ++ m.flushed) := by
  have none : m.flushed = [] := by
    unfold flushed
    split
    · rename_i flushes _
      exact absurd flushes (elsewhere _ _)
    · rfl
  rw [none, List.append_nil]
  exact going

theorem idle_of_running {await : Option Await} (running : m.running = await)
    (elsewhere : ∀ candidates replies, await ≠ some (.flush candidates replies)) :
    m.core.flushing = [] := by
  unfold Core.flushing
  split
  · rename_i flushes
    exact absurd (running.symm.trans flushes) (elsewhere _ _)
  · rfl

theorem onPeer_core (m : Manager) (id : Handle) {f : Peer → Peer}
    (same : ∀ p, (f p).id = p.id ∧ (f p).remoteDescription = p.remoteDescription) :
    (m.onPeer id f).core = m.core := by
  unfold onPeer core
  simp only [Option.map_map, Core.mk.injEq, true_and, and_true]
  congr 1
  funext p
  simp only [Function.comp]
  split
  · rw [(same p).1, (same p).2]
  · rfl

/-- A remote description that was asked for. -/
theorem Core.Orderly.described {id : Handle} {remote : Option Sdp}
    (orderly : m.core.Orderly id remote received passed) (sdp : Sdp) {f : Peer → Peer}
    (same : ∀ p, (f p).id = p.id ∧ (f p).remoteDescription = some sdp) (replies : Bool) :
    ((m.onPeer id f).flush replies).core = { m.core with
      peer := some (id, some sdp)
      running := some (.flush m.remoteCandidates replies)
      remoteCandidates := [] } := by
  obtain ⟨p, present, named, _⟩ := orderly.here
  simp [core, Manager.flush, onPeer, present, named, (same p).1, (same p).2]

/-- A task that sends a description and goes on with the call. -/
theorem Going.describe (going : m.Going received passed) (running : m.running = none)
    (id : Handle) {f : Peer → Peer}
    (same : ∀ p, (f p).id = p.id ∧ (f p).remoteDescription = p.remoteDescription)
    (signal : Peer → Signal) (on : (match (m.onPeer id f).peer with
      | none => (m.onPeer id f).fail
      | some p => ((m.onPeer id f).send (signal p)).setPhase .connecting).phase.over_ = false) :
    (match (m.onPeer id f).peer with
      | none => (m.onPeer id f).fail
      | some p => ((m.onPeer id f).send (signal p)).setPhase .connecting).Going received
        (passed ++ (match (m.onPeer id f).peer with
          | none => (m.onPeer id f).fail
          | some p => ((m.onPeer id f).send (signal p)).setPhase .connecting).flushed) := by
  cases present : (m.onPeer id f).peer with
  | none =>
      rw [present] at on
      exact absurd ((fail_over _).symm.trans on) (by decide)
  | some p =>
      have sent : ((m.onPeer id f).send (signal p)).core = m.core :=
        (send_core _ _).trans (onPeer_core m id same)
      have none : ((m.onPeer id f).send (signal p)).running = none :=
        (congrArg Core.running sent).trans running
      refine ((going.same sent).setPhase rfl).calm fun _ _ flushes => ?_
      cases none.symm.trans flushes

/-- A task goes on that is suspended elsewhere than in a flush, or at its end. -/
theorem Going.resume (going : m.Going received passed) (running : m.running = none)
    {await : Await} (elsewhere : ∀ candidate rest replies,
      await ≠ .flush (candidate :: rest) replies)
    (bound : ∀ peer sdp, await = .remoteOffer peer sdp ∨ await = .remoteAnswer peer sdp →
      peer = m.peer.map Peer.id) (outcome : Outcome)
    (on : (m.resume await outcome).phase.over_ = false) :
    (m.resume await outcome).Going received (passed ++ (m.resume await outcome).flushed) := by
  have failed {after : Manager} {goal : Prop} (on : after.fail.phase.over_ = false) : goal :=
    absurd ((fail_over after).symm.trans on) (by decide)
  have idle : m.core.flushing = [] := idle_of_running running fun _ _ same => by cases same
  have ends : m.Going received (passed ++ m.flushed) :=
    going.calm fun _ _ same => by cases running.symm.trans same
  have runs {await : Await} (calm : ∀ candidates replies, await ≠ .flush candidates replies)
      (unbound : ∀ peer sdp, await ≠ .remoteOffer peer sdp ∧ await ≠ .remoteAnswer peer sdp) :
      { m with running := some await }.Going received
        (passed ++ { m with running := some await }.flushed) := by
    have calm : ∀ candidates replies, some await ≠ some (.flush candidates replies) :=
      fun candidates replies same => calm candidates replies (Option.some.inj same)
    refine (going.runs idle calm fun peer sdp awaits => ?_).calm calm
    rcases awaits with one | other
    · exact absurd (Option.some.inj one) (unbound peer sdp).1
    · exact absurd (Option.some.inj other) (unbound peer sdp).2
  obtain ⟨id, remote, orderly⟩ := going
  obtain ⟨p, present, named, _⟩ := orderly.here
  have here : m.peer.map Peer.id = some id := by simp [present, named]
  rw [here] at bound
  have described (sdp : Sdp) {f : Peer → Peer}
      (same : ∀ p, (f p).id = p.id ∧ (f p).remoteDescription = some sdp) (replies : Bool) :
      ((m.onPeer id f).flush replies).Going received
        (passed ++ ((m.onPeer id f).flush replies).flushed) := by
    have takes : ((m.onPeer id f).flush replies).flushed = m.remoteCandidates.take 1 := by
      simp [flushed, Manager.flush, onPeer, present]
    rw [takes]
    refine Going.flushes orderly (orderly.described sdp same replies) ?_
    rw [idle]
    rfl
  revert on
  unfold Manager.resume
  split
  · intro _
    cases bound none _ (Or.inl rfl)
  · rename_i known sdp _
    obtain rfl : known = id := Option.some.inj (bound _ _ (Or.inl rfl))
    intro _
    refine described sdp ?_ true
    intro p
    exact ⟨rfl, rfl⟩
  · exact failed
  · intro _
    cases bound none _ (Or.inr rfl)
  · rename_i known sdp _
    obtain rfl : known = id := Option.some.inj (bound _ _ (Or.inr rfl))
    split
    · exact failed
    · intro _
      refine described sdp ?_ false
      intro p
      exact ⟨rfl, rfl⟩
  · exact failed
  · exact absurd rfl (elsewhere _ _ _)
  · exact failed
  · intro _
    exact runs (fun _ _ same => by cases same) fun _ _ => ⟨by simp, by simp⟩
  · intro _
    have live : (m.setPhase .connecting).Going received passed :=
      Going.setPhase ⟨id, remote, orderly⟩ rfl
    exact live.calm fun _ _ same => by cases running.symm.trans same
  · intro _
    exact ends
  · split
    · exact failed
    · split
      · intro _
        exact ends
      · intro _
        exact runs (fun _ _ same => by cases same) fun _ _ => ⟨by simp, by simp⟩
  · exact failed
  · split
    · exact failed
    · refine Going.describe ⟨id, remote, orderly⟩ running _ ?_ fun p => .answer p.localDescription
      intro p
      exact ⟨rfl, rfl⟩
  · exact failed
  · split
    · exact failed
    · intro _
      exact runs (fun _ _ same => by cases same) fun _ _ => ⟨by simp, by simp⟩
  · exact failed
  · split
    · exact failed
    · refine Going.describe ⟨id, remote, orderly⟩ running _ ?_ fun p => .offer p.localDescription
      intro p
      exact ⟨rfl, rfl⟩
  · exact failed
  · intro _
    exact ends
  · exact failed

theorem Going.settle (going : m.Going received passed) (outcome : Outcome)
    (on : m.StaysOn (.settle outcome)) :
    (m.settle outcome).Going received (passed ++ m.adds (.settle outcome)) := by
  rw [StaysOn] at on
  simp only [adds]
  simp only [Manager.step, Manager.settle] at on ⊢
  cases running : m.running with
  | none => exact going.calm fun _ _ same => by cases running.symm.trans same
  | some await =>
      rw [running] at on
      dsimp only at on ⊢
      obtain ⟨id, remote, orderly⟩ := going
      by_cases flushes : ∃ candidate rest replies, await = .flush (candidate :: rest) replies
      · obtain ⟨candidate, rest, replies, rfl⟩ := flushes
        cases outcome with
        | rejected => exact absurd ((fail_over _).symm.trans on) (by decide)
        | resolved sdp =>
            obtain ⟨p, present, named, described⟩ := orderly.here
            cases remote with
            | none => exact absurd running ((orderly.early rfl).2 _ _)
            | some old =>
                have kept : m.remoteCandidates = [] := orderly.late rfl
                have takes : { m with running := some (.flush rest replies) }.flushed =
                    rest.take 1 := by
                  simp [flushed, present]
                simp only [Manager.resume]
                rw [takes]
                refine @Going.flushes _ _ _ _ _ orderly _ old _ replies ?_ ?_
                · simp [core, present, named, described, kept]
                · simp [core, Core.flushing, running, kept]
      · have idle : m.core.flushing = [] := by
          unfold Core.flushing
          split
          · rename_i candidates replies runs
            obtain rfl := Option.some.inj (running.symm.trans runs)
            cases candidates with
            | nil => rfl
            | cons candidate rest => exact absurd ⟨candidate, rest, replies, rfl⟩ flushes
          · rfl
        have free : { m with running := none }.Going received passed := by
          refine Going.runs ⟨id, remote, orderly⟩ idle (fun _ _ same => by cases same) ?_
          intro peer sdp awaits
          rcases awaits with one | other
          · cases one
          · cases other
        refine free.resume rfl (fun _ _ _ same => flushes ⟨_, _, _, same⟩) ?_ outcome on
        intro peer sdp awaits
        obtain ⟨p, present, named, _⟩ := orderly.here
        have known := orderly.bound peer sdp (by
          rcases awaits with rfl | rfl
          · exact Or.inl running
          · exact Or.inr running)
        simp [present, named, known]

/-- A creator's recovery adds a task that brings no candidate. -/
theorem Going.beginRecovery (going : m.Going received passed) :
    m.beginRecovery.Going received passed := by
  unfold Manager.beginRecovery
  split
  · exact going
  · obtain ⟨id, remote, orderly⟩ := going
    refine ⟨id, remote, orderly.goes, rfl, orderly.started, orderly.peer, orderly.bound, ?_,
      orderly.early, orderly.late⟩
    have whole := orderly.whole
    dsimp only [core] at whole ⊢
    cases m.role with
    | creator =>
        rw [List.flatMap_append]
        simpa [Core.flushing, Task.candidates] using whole
    | viewer => exact whole

theorem Going.connection (going : m.Going received passed) (id : Handle)
    (state : ConnectionState) : (m.connection id state).Going received passed := by
  unfold Manager.connection
  split
  · have changed := going.same (onPeer_core m id (f := fun p => { p with connectionState := state })
      fun _ => ⟨rfl, rfl⟩)
    unfold connectionChanged
    split
    · rw [clearTimer_eq]
      dsimp only
      split
      · exact (changed.setPhase rfl).same rfl
      · exact (changed.setPhase rfl).same rfl
    · exact changed.beginRecovery
    · exact changed.beginRecovery
    · exact changed
  · exact going

/-- A step that brings no candidate and adds none. -/
theorem Going.other (going : m.Going received passed) {event : Event} (on : m.StaysOn event)
    (message : ∀ id signal, event ≠ .message id signal) (next : event ≠ .next)
    (settle : ∀ outcome, event ≠ .settle outcome) : (m.step event).Going received passed := by
  have failed {after : Manager} {goal : Prop} (on : after.fail.phase.over_ = false) : goal :=
    absurd ((fail_over after).symm.trans on) (by decide)
  obtain ⟨_, _, orderly⟩ := id going
  have busy : m.phase.busy = true := orderly.busy
  have started : .microphone ∉ m.starts := orderly.started
  rw [StaysOn] at on
  cases event with
  | start =>
      simp only [Manager.step, Manager.start, busy, if_true]
      exact going
  | microphone settled =>
      simp only [Manager.step, Manager.microphone, started, not_false_eq_true, if_true]
      exact going
  | localReady settles makesSocket =>
      revert on
      simp only [Manager.step, Manager.localReady]
      split
      · intro _
        exact going
      · have waiting := @Going.setPhase _ _ _ going.taken .waiting rfl
        split
        · split
          · intro _
            exact waiting.same (openSocket_core _)
          · exact failed
        · exact failed
  | end_ =>
      refine absurd (Eq.symm ?_ |>.trans on) (by decide : true ≠ false)
      show m.end_.phase.over_ = true
      rw [end_, cleanup_phase]
      rfl
  | opened id => exact going.same (opened_core m id)
  | message id signal => exact absurd rfl (message id signal)
  | errored id => exact going.same rfl
  | closed id => exact going.same (closed_core m id)
  | next => exact absurd rfl next
  | settle outcome => exact absurd rfl (settle outcome)
  | connection id state => exact going.connection id state
  | candidate id gathered =>
      simp only [Manager.step, Manager.candidate]
      split
      · exact going.same (send_core m _)
      · exact going
  | confirmed settles =>
      revert on
      simp only [Manager.step, Manager.confirmed]
      split
      · intro _
        exact going
      · split
        · intro _
          exact going.same rfl
        · exact failed
  | timer id makesSocket =>
      revert on
      simp only [Manager.step, Manager.timer]
      split
      · intro _
        exact going
      · split
        · intro _
          split
          · exact (going.same rfl).same (openSocket_core _)
          · exact going.same rfl
        · intro _
          exact (going.same rfl).same (announce_core _)
        · split
          · exact failed
          · intro _
            exact going.same rfl

theorem receives_nil {event : Event} (other : ∀ id signal, event ≠ .message id signal) :
    m.receives event = [] := by
  cases event with
  | message id signal => exact absurd rfl (other id signal)
  | _ => rfl

theorem adds_nil {event : Event} (next : event ≠ .next) (settle : ∀ outcome,
    event ≠ .settle outcome) : m.adds event = [] := by
  cases event with
  | next => exact absurd rfl next
  | settle outcome => exact absurd rfl (settle outcome)
  | _ => rfl

/-! ### Any run -/

theorem Bare.receives_nil (bare : m.Bare) (event : Event) : m.receives event = [] := by
  unfold receives
  split
  · exact if_pos (Or.inr (by simp [bare.socket]))
  · rfl

theorem Bare.adds_nil (bare : m.Bare) (event : Event) : m.adds event = [] := by
  cases event with
  | next => simp [adds, bare.running, bare.chain]
  | settle outcome => simp [adds, Manager.settle, flushed, bare.running]
  | _ => rfl

theorem Trickle.step (trickle : m.Trickle received passed) (event : Event)
    (on : m.StaysOn event) :
    (m.step event).Trickle (received ++ m.receives event) (passed ++ m.adds event) := by
  rcases trickle with ⟨bare, rfl, rfl⟩ | going
  · rw [bare.receives_nil, bare.adds_nil]
    exact bare.step event on
  · right
    by_cases message : ∃ id signal, event = .message id signal
    · obtain ⟨id, signal, rfl⟩ := message
      rw [adds_nil (by simp) (by simp), List.append_nil]
      exact going.message id signal
    · have silent : ∀ id signal, event ≠ .message id signal :=
        fun id signal same => message ⟨id, signal, same⟩
      rw [receives_nil silent, List.append_nil]
      by_cases next : event = .next
      · subst next
        exact going.next on
      · by_cases settle : ∃ outcome, event = .settle outcome
        · obtain ⟨outcome, rfl⟩ := settle
          exact going.settle outcome on
        · have apart : ∀ outcome, event ≠ .settle outcome :=
            fun outcome same => settle ⟨outcome, same⟩
          rw [adds_nil next apart, List.append_nil]
          exact going.other on silent next apart

theorem Trickle.run (trickle : m.Trickle received passed) {events : List Event}
    (on : Along Manager.step StaysOn m events) :
    (Library.run Manager.step m events).Trickle
      (received ++ outputs Manager.step receives m events)
      (passed ++ outputs Manager.step adds m events) := by
  induction events generalizing m received passed with
  | nil => simpa [outputs] using trickle
  | cons event rest ih =>
      have later := ih (trickle.step event on.1) on.2
      simp only [List.append_assoc] at later
      exact later

theorem new_trickle (role : CallRole) : (Manager.new role).Trickle [] [] :=
  Or.inl ⟨⟨rfl, rfl, rfl, rfl, rfl, rfl, fun _ => rfl, Or.inl ⟨rfl, rfl⟩⟩, rfl, rfl⟩

end Going

/-- While the manager has neither ended nor failed, the candidates it has called
`addIceCandidate` with are the first of those it received; it has called it with
none before there is a remote description, and with all of them once there is one
and the signal chain is idle. -/
theorem candidates_in_order (role : CallRole) (events : List Event)
    (on : Along Manager.step StaysOn (.new role) events) :
    let m := run Manager.step (.new role) events
    let received := outputs Manager.step receives (.new role) events
    let passed := outputs Manager.step adds (.new role) events
    passed <+: received ∧ (passed ≠ [] → m.hasRemote = true) ∧
      (m.running = none → m.chain = [] → m.hasRemote = true → passed = received) := by
  intro m received passed
  have trickle : m.Trickle received passed := (new_trickle role).run on
  rcases trickle with ⟨_, none, nothing⟩ | ⟨id, remote, orderly⟩
  · rw [none, nothing]
    exact ⟨List.prefix_rfl, fun some => absurd rfl some, fun _ _ _ => rfl⟩
  · rw [orderly.hasRemote_eq]
    refine ⟨?_, ?_, ?_⟩
    · rw [orderly.whole, List.append_assoc, List.append_assoc]
      exact List.prefix_append _ _
    · intro some
      by_contra unset
      exact some (orderly.early (by simpa using unset)).1
    · intro running chain set
      have idle : m.core.flushing = [] := idle_of_running running fun _ _ same => by cases same
      have whole := orderly.whole
      rw [idle, orderly.late set] at whole
      simpa [core, chain] using whole.symm

/-- A viewer that gets a candidate, an offer and another candidate. -/
theorem candidates_in_order_two :
    let events : List Event := [.start, .microphone (.granted true), .localReady true true,
      .opened 2, .message 2 (.ice 7), .next, .message 2 (.offer (some 1)), .message 2 (.ice 8),
      .next, .settle (.resolved 0), .settle (.resolved 0), .settle (.resolved 0),
      .settle (.resolved 5), .settle (.resolved 0), .next, .settle (.resolved 0)]
    outputs Manager.step adds (.new .viewer) events = [7, 8] := by
  intro events
  exact (candidates_in_order .viewer events (by decide)).2.2 rfl rfl rfl

end Manager

end Bling.WebRTC
