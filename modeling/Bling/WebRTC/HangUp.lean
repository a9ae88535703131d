import Bling.WebRTC.Manager
import Bling.Library.Machine

set_option autoImplicit false

namespace Bling.WebRTC

open Library

/-! Hanging up releases what the manager holds, unless a call of `start` or the
handling of an answer goes on after it. -/

namespace Manager

/-! ### What hanging up is to do -/

/-- No await is pending. -/
def Settled (m : Manager) : Prop :=
  m.starts = [] ∧ m.running = none ∧ m.chain = [] ∧ m.confirming = 0

structure Released (m : Manager) : Prop where
  tracks : ∀ stream, m.hot stream = false
  peers : ∀ peer, m.peers peer = false
  sockets : ∀ socket, m.sockets socket = .closed
  timers : ∀ timer, m.timers timer = none

/-- Since `end` or `fail` has run, and until `start` is called again: these set
`closing`, and this clears it. -/
def HungUp (m : Manager) : Prop :=
  m.closing = true → m.phase.over_ = true ∧ (m.Settled → m.Released)

/-- A call of `start` goes on only if nothing was hung up or started since, and the
handling of an answer comes to its end only before the call is hung up. -/
def Fresh (m : Manager) : Event → Prop
  | .microphone (.granted _) => StartAwait.microphone ∈ m.starts →
    m.closing = false ∧ m.localStream = none ∧ m.peer = none
  | .microphone .denied => StartAwait.microphone ∈ m.starts → m.closing = false
  | .localReady true _ => StartAwait.localReady ∈ m.starts →
    m.closing = false ∧ m.socket = none ∧ m.reconnectTimer = none
  | .settle _ => m.running = some (.flush [] false) → m.closing = false
  | _ => True

instance (m : Manager) (event : Event) : Decidable (m.Fresh event) := by
  unfold Fresh
  split <;> infer_instance

/-! ### What a manager holds -/

/-- What a manager holds of the browser, as it sees it and as it is. -/
structure Held where
  closing : Bool
  localStream : Option Handle
  peer : Option Handle
  socket : Option Handle
  timer : TimerKind → Option Handle
  hot : Handle → Bool
  peers : Handle → Bool
  sockets : Handle → ReadyState
  timers : Handle → Option TimerKind

def timerOf (m : Manager) : TimerKind → Option Handle
  | .reconnect => m.reconnectTimer
  | .disconnect => m.disconnectTimer
  | .ready => m.readyTimer

def held (m : Manager) : Held where
  closing := m.closing
  localStream := m.localStream
  peer := m.peer.map Peer.id
  socket := m.socket
  timer := m.timerOf
  hot := m.hot
  peers := m.peers
  sockets := m.sockets
  timers := m.timers

/-- Whatever is held is known, and nothing is once the manager closes. -/
structure Held.Neat (h : Held) : Prop where
  tracks : ∀ stream, h.hot stream = true → h.localStream = some stream
  peers : ∀ peer, h.peers peer = true → h.peer = some peer
  sockets : ∀ socket, h.sockets socket ≠ .closed → h.socket = some socket
  timers : ∀ timer kind, h.timers timer = some kind → h.timer kind = some timer
  waits : (h.timer .reconnect).isSome = true → h.socket = none
  closing : h.closing = true → h.localStream = none ∧ h.peer = none ∧ h.socket = none ∧
    ∀ kind, h.timer kind = none

structure Kept (m : Manager) : Prop where
  neat : m.held.Neat
  over_ : m.closing = true → m.phase.over_ = true

theorem Kept.hungUp {m : Manager} (kept : Kept m) : m.HungUp := by
  intro closing
  refine ⟨kept.over_ closing, fun _ => ?_⟩
  obtain ⟨stream, peer, socket, timer⟩ := kept.neat.closing closing
  constructor
  · intro id
    by_contra hot
    have := kept.neat.tracks id (by simpa [held] using hot)
    rw [stream] at this
    cases this
  · intro id
    by_contra isOpen
    have := kept.neat.peers id (by simpa [held] using isOpen)
    rw [peer] at this
    cases this
  · intro id
    by_contra isOpen
    have := kept.neat.sockets id isOpen
    rw [socket] at this
    cases this
  · intro id
    by_contra isSet
    obtain ⟨kind, set⟩ := Option.ne_none_iff_exists'.mp isSet
    have := kept.neat.timers id kind set
    rw [timer kind] at this
    cases this

theorem Kept.same {m after : Manager} (kept : Kept m) (held : after.held = m.held)
    (phase : after.closing = true → after.phase = m.phase) : Kept after := by
  refine ⟨held ▸ kept.neat, fun closing => ?_⟩
  have same : after.closing = m.closing := congrArg Held.closing held
  rw [phase closing]
  exact kept.over_ (same ▸ closing)

theorem Kept.setPhase {m : Manager} (kept : Kept m) (goes : m.closing = false) (phase : Phase) :
    Kept (m.setPhase phase) :=
  kept.same rfl fun closing => absurd (closing.symm.trans goes) (by decide)

theorem send_held (m : Manager) (signal : Signal) : (m.send signal).held = m.held := by
  unfold send
  split
  · rfl
  · split <;> rfl

theorem send_phase (m : Manager) (signal : Signal) : (m.send signal).phase = m.phase := by
  unfold send
  split
  · rfl
  · split <;> rfl

theorem Kept.send {m : Manager} (kept : Kept m) (signal : Signal) : Kept (m.send signal) :=
  kept.same (send_held m signal) fun _ => send_phase m signal

theorem Kept.open_ {m : Manager} (kept : Kept m) {p : Peer} (present : m.peer = some p) :
    m.closing = false := by
  by_contra closing
  have gone := (kept.neat.closing (by simpa [held] using closing)).2.1
  simp [held, present] at gone

/-! ### Hanging up -/

/-- What is released is switched off where it is held. -/
def off {α : Type} (f : Handle → α) (held : Option Handle) (released : α) : Handle → α :=
  held.elim f fun id => Function.update f id released

theorem off_apply {α : Type} (f : Handle → α) (held : Option Handle) (released : α)
    (id : Handle) : off f held released id = if held = some id then released else f id := by
  cases held with
  | none => rfl
  | some other =>
      simp only [off, Option.elim_some, Function.update_apply, Option.some.injEq, eq_comm]

theorem clearTimer_eq (m : Manager) (timer : Option Handle) :
    m.clearTimer timer = { m with timers := off m.timers timer none } := by
  cases timer <;> rfl

theorem closeSocket_eq (m : Manager) (socket : Option Handle) :
    m.closeSocket socket = { m with sockets := off m.sockets socket .closed } := by
  cases socket <;> rfl

theorem closePeer_eq (m : Manager) (peer : Option Peer) :
    m.closePeer peer = { m with peers := off m.peers (peer.map Peer.id) false } := by
  cases peer <;> rfl

theorem stopTracks_eq (m : Manager) (stream : Option Handle) :
    m.stopTracks stream = { m with hot := off m.hot stream false } := by
  cases stream <;> rfl

theorem cleanup_held {m : Manager} (neat : m.held.Neat) : m.cleanup.held =
    { closing := true
      localStream := none
      peer := none
      socket := none
      timer := fun _ => none
      hot := fun _ => false
      peers := fun _ => false
      sockets := fun _ => .closed
      timers := fun _ => none } := by
  simp only [cleanup, stopReadyPulse, clearTimer_eq, closeSocket_eq, closePeer_eq, stopTracks_eq,
    held, Option.map_none, Held.mk.injEq, true_and]
  refine ⟨?_, ?_, ?_, ?_, ?_⟩
  · funext kind
    cases kind <;> rfl
  · funext id
    rw [off_apply]
    split
    · rfl
    · rename_i other
      by_contra hot
      exact other (neat.tracks id (by simpa [held] using hot))
  · funext id
    rw [off_apply]
    split
    · rfl
    · rename_i other
      by_contra isOpen
      exact other (neat.peers id (by simpa [held] using isOpen))
  · funext id
    rw [off_apply]
    split
    · rfl
    · rename_i other
      by_contra isOpen
      exact other (neat.sockets id isOpen)
  · funext id
    simp only [off_apply]
    split
    · rfl
    · rename_i notReady
      split
      · rfl
      · rename_i notDisconnect
        split
        · rfl
        · rename_i notReconnect
          by_contra isSet
          obtain ⟨kind, set⟩ := Option.ne_none_iff_exists'.mp isSet
          have known := neat.timers id kind set
          cases kind with
          | reconnect => exact notReconnect known
          | disconnect => exact notDisconnect known
          | ready => exact notReady known

theorem cleanup_phase (m : Manager) : m.cleanup.phase = m.phase := by
  simp only [cleanup, stopReadyPulse, clearTimer_eq, closeSocket_eq, closePeer_eq, stopTracks_eq]

theorem Kept.cleanup {m : Manager} (neat : m.held.Neat) (over_ : m.phase.over_ = true) :
    Kept m.cleanup := by
  refine ⟨?_, fun _ => by rw [cleanup_phase]; exact over_⟩
  rw [cleanup_held neat]
  constructor <;> simp

theorem Kept.fail {m : Manager} (kept : Kept m) : Kept m.fail := by
  unfold Manager.fail
  split
  · exact kept
  · exact .cleanup (m := m.setPhase .failed) kept.neat rfl

theorem Kept.end_ {m : Manager} (kept : Kept m) : Kept m.end_ :=
  .cleanup (m := m.setPhase .ended) kept.neat rfl

/-! ### Timers and sockets -/

/-- A timer is set where none of its kind is. -/
theorem Held.Neat.set {h : Held} (neat : h.Neat) (kind : TimerKind) (id : Handle)
    (free : ∀ timer, h.timers timer ≠ some kind) (goes : h.closing = false)
    (waits : kind = .reconnect → h.socket = none) :
    Held.Neat { h with
      timer := Function.update h.timer kind (some id)
      timers := Function.update h.timers id (some kind) } := by
  refine ⟨neat.tracks, neat.peers, neat.sockets, ?_, ?_, ?_⟩
  · intro timer other set
    simp only [Function.update_apply] at set ⊢
    split at set
    · rename_i here
      obtain rfl := Option.some.inj set
      rw [if_pos rfl, here]
    · have apart : other ≠ kind := fun same => free timer (same ▸ set)
      rw [if_neg apart]
      exact neat.timers timer other set
  · intro isSet
    simp only [Function.update_apply] at isSet
    split at isSet
    · rename_i same
      exact waits same.symm
    · exact neat.waits isSet
  · intro closing
    rw [goes] at closing
    cases closing

/-- A timer that goes off, or is cleared, is pending no more. -/
theorem Held.Neat.unset {h : Held} (neat : h.Neat) (timer : Option Handle) :
    Held.Neat { h with timers := off h.timers timer none } := by
  refine ⟨neat.tracks, neat.peers, neat.sockets, ?_, neat.waits, neat.closing⟩
  intro id kind set
  simp only [off_apply] at set
  split at set
  · cases set
  · exact neat.timers id kind set

/-- A timer that isn't pending is forgotten. -/
theorem Held.Neat.forget {h : Held} (neat : h.Neat) (kind : TimerKind)
    (free : ∀ timer, h.timers timer ≠ some kind) :
    Held.Neat { h with timer := Function.update h.timer kind none } := by
  refine ⟨neat.tracks, neat.peers, neat.sockets, ?_, ?_, ?_⟩
  · intro id other set
    have apart : other ≠ kind := fun same => free id (same ▸ set)
    simp only [Function.update_apply, if_neg apart]
    exact neat.timers id other set
  · intro isSet
    simp only [Function.update_apply] at isSet
    split at isSet
    · cases isSet
    · exact neat.waits isSet
  · intro closing
    obtain ⟨stream, peer, socket, timer⟩ := neat.closing closing
    refine ⟨stream, peer, socket, fun other => ?_⟩
    simp only [Function.update_apply]
    split
    · rfl
    · exact timer other

theorem timerOf_reconnect (m : Manager) (timer : Option Handle) :
    { m with reconnectTimer := timer }.timerOf = Function.update m.timerOf .reconnect timer := by
  funext kind
  cases kind <;> rfl

theorem timerOf_disconnect (m : Manager) (timer : Option Handle) :
    { m with disconnectTimer := timer }.timerOf = Function.update m.timerOf .disconnect timer := by
  funext kind
  cases kind <;> rfl

theorem timerOf_ready (m : Manager) (timer : Option Handle) :
    { m with readyTimer := timer }.timerOf = Function.update m.timerOf .ready timer := by
  funext kind
  cases kind <;> rfl

/-- No timer of a kind whose field was cleared is pending. -/
theorem off_free {m : Manager} (neat : m.held.Neat) (kind : TimerKind) (timer : Handle) :
    off m.timers (m.timerOf kind) none timer ≠ some kind := by
  intro set
  rw [off_apply] at set
  split at set
  · cases set
  · rename_i apart
    exact apart (neat.timers timer kind set)

theorem Kept.stopReadyPulse {m : Manager} (kept : Kept m) : Kept m.stopReadyPulse := by
  refine ⟨?_, ?_⟩
  · have cleared := (kept.neat.unset m.readyTimer).forget .ready
      (off_free kept.neat .ready)
    have same : m.stopReadyPulse.held = { m.held with
        timers := off m.timers m.readyTimer none
        timer := Function.update m.timerOf .ready none } := by
      rw [← timerOf_ready]
      simp only [Manager.stopReadyPulse, clearTimer_eq]
      rfl
    rw [same]
    exact cleared
  · simp only [Manager.stopReadyPulse, clearTimer_eq]
    exact kept.over_

theorem stopReadyPulse_free {m : Manager} (kept : Kept m) (timer : Handle) :
    m.stopReadyPulse.timers timer ≠ some .ready := by
  simp only [stopReadyPulse, clearTimer_eq]
  exact off_free kept.neat .ready timer

theorem Kept.announce {m : Manager} (kept : Kept m)
    (free : ∀ timer, m.timers timer ≠ some .ready) : Kept m.announce := by
  unfold Manager.announce
  split
  · exact kept
  · rename_i goes
    have sent := kept.send .ready
    have open_ : (m.send .ready).closing = false := by
      have same : (m.send .ready).closing = m.closing := congrArg Held.closing (send_held m _)
      rw [same]
      simpa using fun closing => goes (Or.inl closing)
    have timers : (m.send .ready).timers = m.timers := congrArg Held.timers (send_held m _)
    refine ⟨?_, fun closing => sent.over_ closing⟩
    have set := sent.neat.set .ready (m.send .ready).fresh
      (fun timer => by
        show (m.send .ready).timers timer ≠ _
        rw [timers]
        exact free timer) open_ (fun same => by cases same)
    dsimp only [held] at set ⊢
    rw [timerOf_ready { m.send .ready with
      timers := Function.update (m.send .ready).timers (m.send .ready).fresh (some .ready)
      fresh := (m.send .ready).fresh + 1 }]
    exact set

theorem Kept.startReadyPulse {m : Manager} (kept : Kept m) : Kept m.startReadyPulse :=
  kept.stopReadyPulse.announce (stopReadyPulse_free kept)

theorem Kept.scheduleReconnect {m : Manager} (kept : Kept m) (goes : m.closing = false)
    (gone : m.socket = none) : Kept m.scheduleReconnect := by
  unfold Manager.scheduleReconnect
  split
  · exact kept
  · rename_i unset
    refine ⟨?_, kept.over_⟩
    have set := kept.neat.set .reconnect m.fresh
      (fun timer set => unset (by rw [show m.reconnectTimer = some timer from
        kept.neat.timers timer .reconnect set]; rfl)) goes fun _ => gone
    dsimp only [held] at set ⊢
    rw [timerOf_reconnect { m with
      timers := Function.update m.timers m.fresh (some .reconnect)
      fresh := m.fresh + 1 }]
    exact set

/-- A socket is opened where none is, and none is about to be. -/
theorem Kept.openSocket {m : Manager} (kept : Kept m)
    (gone : m.closing = false → m.socket = none ∧ m.reconnectTimer = none) :
    Kept m.openSocket := by
  unfold Manager.openSocket
  split
  · exact kept
  · rename_i goes
    have goes : m.closing = false := by simpa using goes
    obtain ⟨noSocket, noTimer⟩ := gone goes
    refine ⟨⟨kept.neat.tracks, kept.neat.peers, ?_, kept.neat.timers, ?_, ?_⟩, kept.over_⟩
    · intro id isOpen
      simp only [held, Function.update_apply] at isOpen ⊢
      split at isOpen
      · rename_i here
        rw [here]
      · have known : m.socket = some id := kept.neat.sockets id isOpen
        rw [noSocket] at known
        cases known
    · intro isSet
      have unset : m.reconnectTimer.isSome = true := isSet
      rw [noTimer] at unset
      cases unset
    · intro closing
      exact absurd (goes.symm.trans closing) (by decide)

theorem Kept.closeSocket {m : Manager} (kept : Kept m) (socket : Option Handle) :
    Kept (m.closeSocket socket) := by
  rw [closeSocket_eq]
  refine ⟨⟨kept.neat.tracks, kept.neat.peers, ?_, kept.neat.timers, kept.neat.waits,
    kept.neat.closing⟩, kept.over_⟩
  intro id isOpen
  simp only [held, off_apply] at isOpen
  split at isOpen
  · exact absurd rfl isOpen
  · exact kept.neat.sockets id isOpen

theorem Kept.resend {m : Manager} (kept : Kept m) : Kept m.resend := by
  unfold Manager.resend
  split
  · exact kept
  · split
    · exact kept.send _
    · exact kept

theorem Kept.opened {m : Manager} (kept : Kept m) (id : Handle) : Kept (m.opened id) := by
  unfold Manager.opened
  split
  · exact kept
  · rename_i connecting
    have isOpen : Kept { m with sockets := Function.update m.sockets id .open_ } := by
      refine ⟨⟨kept.neat.tracks, kept.neat.peers, ?_, kept.neat.timers, kept.neat.waits,
        kept.neat.closing⟩, kept.over_⟩
      intro other isOpen
      apply kept.neat.sockets other
      simp only [held, Function.update_apply] at isOpen ⊢
      split at isOpen
      · rename_i here
        rw [here, not_not.mp connecting]
        decide
      · exact isOpen
    dsimp only
    split
    · exact isOpen
    · split
      · exact isOpen.startReadyPulse
      · exact isOpen.resend

theorem Kept.message {m : Manager} (kept : Kept m) (id : Handle) (signal : Signal) :
    Kept (m.message id signal) := by
  unfold Manager.message
  split
  · exact kept
  · exact kept.same rfl fun _ => rfl

theorem Kept.closed {m : Manager} (kept : Kept m) (id : Handle) : Kept (m.closed id) := by
  unfold Manager.closed
  have shut := kept.closeSocket (some id)
  dsimp only
  split
  · exact shut
  · rename_i mine
    have mine : (m.closeSocket (some id)).socket = some id := not_not.mp mine
    have gone : Kept { m.closeSocket (some id) with socket := none } := by
      refine ⟨⟨shut.neat.tracks, shut.neat.peers, ?_, shut.neat.timers, fun _ => rfl, ?_⟩,
        shut.over_⟩
      · intro other isOpen
        have known := shut.neat.sockets other isOpen
        have here : other = id := Option.some.inj (known.symm.trans mine)
        have closed : (m.closeSocket (some id)).sockets id = .closed := by
          rw [closeSocket_eq]
          simp [off_apply]
        exact absurd (here ▸ closed) isOpen
      · intro closing
        obtain ⟨stream, peer, _, timer⟩ := shut.neat.closing closing
        exact ⟨stream, peer, rfl, timer⟩
    split
    · exact gone
    · rename_i goes
      exact gone.scheduleReconnect (by simpa using goes) rfl

/-! ### Signals -/

theorem onPeer_held (m : Manager) (id : Handle) {f : Peer → Peer} (same : ∀ p, (f p).id = p.id) :
    (m.onPeer id f).held = m.held := by
  have peer : (m.onPeer id f).peer.map Peer.id = m.peer.map Peer.id := by
    unfold onPeer
    rw [Option.map_map]
    congr 1
    funext p
    simp only [Function.comp]
    split
    · exact same p
    · rfl
  have rest : (m.onPeer id f).held =
      { m.held with peer := (m.onPeer id f).peer.map Peer.id } := rfl
  rw [rest, peer]
  rfl

theorem Kept.onPeer {m : Manager} (kept : Kept m) (id : Handle) {f : Peer → Peer}
    (same : ∀ p, (f p).id = p.id) : Kept (m.onPeer id f) :=
  kept.same (onPeer_held m id same) fun _ => rfl

theorem Kept.offer {m : Manager} (kept : Kept m) : Kept m.offer := by
  unfold Manager.offer
  split
  · exact kept
  · split
    · exact kept.send _
    · split
      · exact kept
      · exact kept.same rfl fun _ => rfl

theorem Kept.handleSignal {m : Manager} (kept : Kept m) (signal : Signal) :
    Kept (m.handleSignal signal) := by
  cases signal with
  | ready =>
      simp only [Manager.handleSignal]
      split
      · exact kept.offer
      · exact kept
  | offer sdp =>
      simp only [Manager.handleSignal]
      split
      · exact kept
      · exact kept.stopReadyPulse.same rfl fun _ => rfl
  | answer sdp =>
      simp only [Manager.handleSignal]
      split
      · exact kept.same rfl fun _ => rfl
      · exact kept
  | ice candidate =>
      simp only [Manager.handleSignal]
      split <;> exact kept.same rfl fun _ => rfl
  | malformed => exact kept.fail

theorem Kept.next {m : Manager} (kept : Kept m) : Kept m.next := by
  unfold Manager.next
  split
  · rename_i task chain idle listed
    have taken : Kept { m with chain } := kept.same rfl fun _ => rfl
    cases task with
    | signal signal => exact taken.handleSignal signal
    | offer => exact taken.offer
  · exact kept

theorem Kept.flush {m : Manager} (kept : Kept m) (replies : Bool) : Kept (m.flush replies) :=
  kept.same rfl fun _ => rfl

/-- A task that sends a description and goes on with the call. -/
theorem Kept.describe {m : Manager} (kept : Kept m) (id : Handle) {f : Peer → Peer}
    (same : ∀ p, (f p).id = p.id) (signal : Peer → Signal) :
    Kept (match (m.onPeer id f).peer with
      | none => (m.onPeer id f).fail
      | some p => ((m.onPeer id f).send (signal p)).setPhase .connecting) := by
  have changed := kept.onPeer id same
  split
  · exact changed.fail
  · rename_i p present
    have goes := changed.open_ present
    refine (changed.send (signal p)).setPhase ?_ .connecting
    have closing : ((m.onPeer id f).send (signal p)).closing = (m.onPeer id f).closing :=
      congrArg Held.closing (send_held _ _)
    rw [closing]
    exact goes

theorem Kept.resume {m : Manager} (kept : Kept m) (await : Await) (outcome : Outcome)
    (goes : await = .flush [] false → m.closing = false) : Kept (m.resume await outcome) := by
  have idle (running : Option Await) : Kept { m with running } := kept.same rfl fun _ => rfl
  unfold Manager.resume
  split
  · exact kept.flush true
  · refine (kept.onPeer _ ?_).flush true
    intro p
    rfl
  · exact kept.fail
  · exact kept.flush false
  · split
    · exact kept.fail
    · refine (kept.onPeer _ ?_).flush false
      intro p
      rfl
  · exact kept.fail
  · exact idle _
  · exact kept.fail
  · exact idle _
  · exact kept.setPhase (goes rfl) .connecting
  · exact kept
  · split
    · exact kept.fail
    · split
      · exact kept
      · exact idle _
  · exact kept.fail
  · split
    · exact kept.fail
    · refine kept.describe _ ?_ fun p => .answer p.localDescription
      intro p
      rfl
  · exact kept.fail
  · split
    · exact kept.fail
    · exact idle _
  · exact kept.fail
  · split
    · exact kept.fail
    · refine kept.describe _ ?_ fun p => .offer p.localDescription
      intro p
      rfl
  · exact kept.fail
  · exact kept
  · exact kept.fail

theorem Kept.settle {m : Manager} (kept : Kept m) (outcome : Outcome)
    (fresh : m.Fresh (.settle outcome)) : Kept (m.settle outcome) := by
  unfold Manager.settle
  split
  · exact kept
  · rename_i await running
    have idle : Kept { m with running := none } := kept.same rfl fun _ => rfl
    refine idle.resume await outcome fun last => ?_
    exact fresh (running.trans (congrArg some last))

/-! ### The connection -/

theorem Kept.beginRecovery {m : Manager} (kept : Kept m) : Kept m.beginRecovery := by
  unfold Manager.beginRecovery
  split
  · exact kept
  · rename_i goes
    simp only [not_or, Bool.not_eq_true, Option.isSome_eq_false_iff, Option.isNone_iff_eq_none]
      at goes
    obtain ⟨unset, goes⟩ := goes
    have free (timer : Handle) : m.timers timer ≠ some .disconnect := by
      intro set
      have known : m.disconnectTimer = some timer := kept.neat.timers timer .disconnect set
      rw [unset] at known
      cases known
    refine ⟨?_, fun closing => absurd (goes.symm.trans closing) (by decide)⟩
    have set := kept.neat.set .disconnect m.fresh free goes fun same => by cases same
    dsimp only [held] at set ⊢
    rw [← timerOf_disconnect] at set
    exact set

theorem Kept.connectionChanged {m : Manager} (kept : Kept m) : Kept m.connectionChanged := by
  unfold Manager.connectionChanged
  split
  · rename_i connected
    obtain ⟨p, present, _⟩ := Option.map_eq_some_iff.mp connected
    have goes := kept.open_ present
    have cleared : Kept { m.clearTimer m.disconnectTimer with disconnectTimer := none } := by
      have neat := (kept.neat.unset m.disconnectTimer).forget .disconnect
        (off_free kept.neat .disconnect)
      refine ⟨?_, ?_⟩
      · have same : { m.clearTimer m.disconnectTimer with disconnectTimer := none }.held =
            { m.held with
              timers := off m.timers m.disconnectTimer none
              timer := Function.update m.timerOf .disconnect none } := by
          rw [← timerOf_disconnect]
          simp only [clearTimer_eq]
          rfl
        rw [same]
        exact neat
      · simp only [clearTimer_eq]
        exact kept.over_
    have live := cleared.setPhase (by simpa only [clearTimer_eq] using goes) .live
    dsimp only
    split
    · exact live
    · exact live.same rfl fun _ => rfl
  · exact kept.beginRecovery
  · exact kept.beginRecovery
  · exact kept

theorem Kept.connection {m : Manager} (kept : Kept m) (id : Handle) (state : ConnectionState) :
    Kept (m.connection id state) := by
  unfold Manager.connection
  split
  · refine (kept.onPeer id ?_).connectionChanged
    intro p
    rfl
  · exact kept

theorem Kept.confirmed {m : Manager} (kept : Kept m) (settles : Bool) :
    Kept (m.confirmed settles) := by
  unfold Manager.confirmed
  split
  · exact kept
  · have counted : Kept { m with confirming := m.confirming - 1 } := kept.same rfl fun _ => rfl
    dsimp only
    split
    · exact counted
    · exact counted.fail

/-- A timer that has gone off. -/
theorem Kept.wentOff {m : Manager} (kept : Kept m) (id : Handle) :
    Kept { m with timers := Function.update m.timers id none } :=
  ⟨kept.neat.unset (some id), kept.over_⟩

theorem wentOff_free {m : Manager} (kept : Kept m) {id : Handle} {kind : TimerKind}
    (set : m.timers id = some kind) (timer : Handle) :
    Function.update m.timers id none timer ≠ some kind := by
  intro pending
  simp only [Function.update_apply] at pending
  split at pending
  · cases pending
  · rename_i apart
    have one := kept.neat.timers id kind set
    have other := kept.neat.timers timer kind pending
    exact apart (Option.some.inj (other.symm.trans one))

theorem Kept.timer {m : Manager} (kept : Kept m) (id : Handle) (makesSocket : Bool) :
    Kept (m.timer id makesSocket) := by
  unfold Manager.timer
  split
  · exact kept
  · rename_i kind set
    have went := kept.wentOff id
    have free := wentOff_free kept set
    dsimp only
    split
    · have forgot : Kept { m with
          timers := Function.update m.timers id none
          reconnectTimer := none } := by
        refine ⟨?_, kept.over_⟩
        have neat := went.neat.forget .reconnect free
        dsimp only [held] at neat
        rw [← timerOf_reconnect] at neat
        exact neat
      split
      · refine forgot.openSocket fun _ => ⟨?_, rfl⟩
        have known : m.reconnectTimer = some id := kept.neat.timers id .reconnect set
        exact kept.neat.waits (by
          show m.reconnectTimer.isSome = true
          rw [known]
          rfl)
      · exact forgot
    · exact went.announce free
    · have forgot : Kept { m with
          timers := Function.update m.timers id none
          disconnectTimer := none } := by
        refine ⟨?_, kept.over_⟩
        have neat := went.neat.forget .disconnect free
        dsimp only [held] at neat
        rw [← timerOf_disconnect] at neat
        exact neat
      split
      · exact forgot.fail
      · exact forgot

/-! ### Starting -/

theorem Kept.start {m : Manager} (kept : Kept m) : Kept m.start := by
  unfold Manager.start
  split
  · exact kept
  · exact ⟨⟨kept.neat.tracks, kept.neat.peers, kept.neat.sockets, kept.neat.timers,
      kept.neat.waits, fun closing => (by cases closing)⟩, fun closing => (by cases closing)⟩

theorem Kept.createPeer {m : Manager} (kept : Kept m) (goes : m.closing = false)
    (gone : m.peer = none) : Kept m.createPeer := by
  refine ⟨⟨kept.neat.tracks, ?_, kept.neat.sockets, kept.neat.timers, kept.neat.waits, ?_⟩,
    kept.over_⟩
  · intro id isOpen
    simp only [Manager.createPeer, held, Function.update_apply] at isOpen ⊢
    split at isOpen
    · rename_i here
      rw [here]
      rfl
    · have known := kept.neat.peers id isOpen
      simp [held, gone] at known
  · intro closing
    exact absurd (goes.symm.trans closing) (by decide)

theorem Kept.microphone {m : Manager} (kept : Kept m) (settled : Microphone)
    (fresh : m.Fresh (.microphone settled)) : Kept (m.microphone settled) := by
  unfold Manager.microphone
  split
  · exact kept
  · rename_i pending
    have pending : StartAwait.microphone ∈ m.starts := not_not.mp pending
    have taken : Kept { m with starts := m.starts.erase .microphone } := kept.same rfl fun _ => rfl
    cases settled with
    | granted makesPeer =>
        obtain ⟨goes, noStream, noPeer⟩ := fresh pending
        have granted : Kept { m with
            starts := m.starts.erase .microphone
            localStream := some m.fresh
            hot := Function.update m.hot m.fresh true
            fresh := m.fresh + 1 } := by
          refine ⟨⟨?_, kept.neat.peers, kept.neat.sockets, kept.neat.timers, kept.neat.waits, ?_⟩,
            kept.over_⟩
          · intro id isHot
            simp only [held, Function.update_apply] at isHot ⊢
            split at isHot
            · rename_i here
              rw [here]
            · have known : m.localStream = some id := kept.neat.tracks id isHot
              rw [noStream] at known
              cases known
          · intro closing
            exact absurd (goes.symm.trans closing) (by decide)
        dsimp only
        split
        · exact (granted.createPeer goes noPeer).same rfl fun _ => rfl
        · exact granted.fail
    | denied => exact taken.setPhase (fresh pending) .microphoneDenied
    | failed => exact taken.fail

theorem Kept.localReady {m : Manager} (kept : Kept m) (settles makesSocket : Bool)
    (fresh : m.Fresh (.localReady settles makesSocket)) :
    Kept (m.localReady settles makesSocket) := by
  unfold Manager.localReady
  split
  · exact kept
  · rename_i pending
    have taken : Kept { m with starts := m.starts.erase .localReady } := kept.same rfl fun _ => rfl
    dsimp only
    split
    · rename_i settled
      subst settled
      obtain ⟨goes, noSocket, noTimer⟩ := fresh (not_not.mp pending)
      have waiting := taken.setPhase goes .waiting
      split
      · exact waiting.openSocket fun _ => ⟨noSocket, noTimer⟩
      · exact waiting.fail
    · exact taken.fail

/-! ### Any run -/

theorem Kept.step {m : Manager} (kept : Kept m) (event : Event) (fresh : m.Fresh event) :
    Kept (m.step event) := by
  cases event with
  | start => exact kept.start
  | microphone settled => exact kept.microphone settled fresh
  | localReady settles makesSocket => exact kept.localReady settles makesSocket fresh
  | end_ => exact kept.end_
  | opened id => exact kept.opened id
  | message id signal => exact kept.message id signal
  | errored id => exact kept.closeSocket (some id)
  | closed id => exact kept.closed id
  | next => exact kept.next
  | settle outcome => exact kept.settle outcome fresh
  | connection id state => exact kept.connection id state
  | candidate id gathered =>
      show Kept (m.candidate id gathered)
      unfold Manager.candidate
      split
      · exact kept.send _
      · exact kept
  | confirmed settles => exact kept.confirmed settles
  | timer id makesSocket => exact kept.timer id makesSocket

theorem new_kept (role : CallRole) : Kept (Manager.new role) := by
  refine ⟨⟨?_, ?_, ?_, ?_, fun isSet => (by cases isSet), fun closing => (by cases closing)⟩,
    fun closing => (by cases closing)⟩
  · intro id isHot
    cases isHot
  · intro id isOpen
    cases isOpen
  · intro id isOpen
    exact absurd rfl isOpen
  · intro id kind set
    cases set

/-- Hanging up releases everything for good, in any run without a late `start` or a
late answer. -/
theorem hang_up_releases (role : CallRole) (events : List Event)
    (fresh : Along Manager.step Fresh (.new role) events) :
    (run Manager.step (.new role) events).HungUp :=
  (run_keeps Kept (fun _ event kept fresh => kept.step event fresh) (new_kept role) fresh).hungUp

/-- A call that connects and is hung up. -/
theorem hang_up_releases_call : (run Manager.step (.new .viewer)
    [.start, .microphone (.granted true), .localReady true true, .opened 2, .end_]).HungUp :=
  hang_up_releases .viewer _ (by decide)

/-- The microphone is granted after the call was hung up: the tracks are never
stopped, and the phase goes on. -/
theorem late_microphone_stays : ¬ ∀ role events,
    (run Manager.step (.new role) events).HungUp := by
  intro always
  have hungUp := always .viewer [.start, .end_, .microphone (.granted true), .localReady true true]
  exact absurd (hungUp rfl).1 (by decide)

end Manager

end Bling.WebRTC
