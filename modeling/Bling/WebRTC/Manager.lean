import Bling.Schema
import Mathlib.Logic.Function.Basic

set_option autoImplicit false

namespace Bling.WebRTC

/-! `WebRTCCallManager` of `webrtc.ts`, one turn of the event loop a step. What
stands between two awaits runs in one step, and every await is resumed by a step
of its own, whenever and however the browser settles it. -/

/-! ### The browser -/

/-- The identity of a stream, a peer connection, a socket or a timer. -/
abbrev Handle := Nat

abbrev Sdp := Nat

inductive ReadyState where
  | connecting | open_ | closed
deriving DecidableEq

inductive SignalingState where
  | stable | haveLocalOffer | haveRemoteOffer
deriving DecidableEq

inductive ConnectionState where
  | new | connecting | connected | disconnected | failed
deriving DecidableEq

structure Peer where
  id : Handle
  signalingState : SignalingState
  localDescription : Option Sdp
  remoteDescription : Option Sdp
  connectionState : ConnectionState
deriving DecidableEq

inductive TimerKind where
  | reconnect | disconnect | ready
deriving DecidableEq

/-! ### The manager -/

inductive Phase where
  | idle | requestingMicrophone | waiting | connecting | reconnecting | live | microphoneDenied
  | failed | ended
deriving DecidableEq

def Phase.busy : Phase → Bool
  | .requestingMicrophone | .waiting | .connecting | .reconnecting | .live => true
  | _ => false

def Phase.over_ (phase : Phase) : Bool :=
  phase = .failed || phase = .ended

inductive Signal where
  | ready
  | offer (sdp : Option Sdp)
  | answer (sdp : Option Sdp)
  | ice (candidate : Nat)
  /-- No JSON, or an envelope whose payload is no record. -/
  | malformed
deriving DecidableEq

/-- What waits its turn in the signal chain. -/
inductive Task where
  | signal (signal : Signal)
  | offer
deriving DecidableEq

/-- Where the task that has its turn is suspended, and what it goes on with. A
peer that was null when its method was called is none. -/
inductive Await where
  | remoteOffer (peer : Option Handle) (sdp : Option Sdp)
  | remoteAnswer (peer : Option Handle) (sdp : Option Sdp)
  /-- `flushRemoteCandidates`, for a viewer's reply to an offer or a creator's
  handling of an answer. -/
  | flush (candidates : List Nat) (replies : Bool)
  | createAnswer (peer : Option Handle)
  | localAnswer (peer : Handle) (sdp : Sdp)
  | createOffer (peer : Handle)
  | localOffer (peer : Handle) (sdp : Sdp)
  | addCandidate
deriving DecidableEq

/-- Where a call of `start` is suspended. -/
inductive StartAwait where
  | microphone | localReady
deriving DecidableEq

structure Manager where
  role : CallRole
  phase : Phase
  localStream : Option Handle
  peer : Option Peer
  socket : Option Handle
  remoteCandidates : List Nat
  reconnectTimer : Option Handle
  disconnectTimer : Option Handle
  readyTimer : Option Handle
  closing : Bool
  connectedNotified : Bool
  /-- The tasks of `signalChain` to come, and where the current one is. -/
  chain : List Task
  running : Option Await
  starts : List StartAwait
  /-- How many calls of `onConnected` have yet to settle. -/
  confirming : Nat
  /-- Streams whose tracks aren't stopped. -/
  hot : Handle → Bool
  /-- Peer connections that aren't closed. -/
  peers : Handle → Bool
  sockets : Handle → ReadyState
  /-- Timers that are set. -/
  timers : Handle → Option TimerKind
  fresh : Handle
  /-- What was sent over an open socket and has not been received yet. -/
  outgoing : List Signal

def Manager.new (role : CallRole) : Manager where
  role
  phase := .idle
  localStream := none
  peer := none
  socket := none
  remoteCandidates := []
  reconnectTimer := none
  disconnectTimer := none
  readyTimer := none
  closing := false
  connectedNotified := false
  chain := []
  running := none
  starts := []
  confirming := 0
  hot := fun _ => false
  peers := fun _ => false
  sockets := fun _ => .closed
  timers := fun _ => none
  fresh := 0
  outgoing := []

namespace Manager

variable (m : Manager)

def setPhase (phase : Phase) : Manager := { m with phase }

/-- Without an open socket nothing is sent. -/
def send (signal : Signal) : Manager :=
  match m.socket with
  | none => m
  | some id => if m.sockets id = .open_ then { m with outgoing := m.outgoing ++ [signal] } else m

/-! ### Ending -/

def clearTimer (timer : Option Handle) : Manager :=
  match timer with
  | none => m
  | some id => { m with timers := Function.update m.timers id none }

def stopReadyPulse : Manager := { m.clearTimer m.readyTimer with readyTimer := none }

def closeSocket (socket : Option Handle) : Manager :=
  match socket with
  | none => m
  | some id => { m with sockets := Function.update m.sockets id .closed }

def closePeer (peer : Option Peer) : Manager :=
  match peer with
  | none => m
  | some p => { m with peers := Function.update m.peers p.id false }

def stopTracks (stream : Option Handle) : Manager :=
  match stream with
  | none => m
  | some id => { m with hot := Function.update m.hot id false }

def cleanup : Manager :=
  let m := { m with closing := true }
  let m := ((m.clearTimer m.reconnectTimer).clearTimer m.disconnectTimer).stopReadyPulse
  let m := { m with reconnectTimer := none, disconnectTimer := none }
  let m := { m.closeSocket m.socket with socket := none }
  let m := { m.closePeer m.peer with peer := none }
  { m.stopTracks m.localStream with localStream := none, remoteCandidates := [] }

def end_ : Manager := (m.setPhase .ended).cleanup

def fail : Manager :=
  if m.phase = .failed ∨ m.phase = .ended then m else (m.setPhase .failed).cleanup

/-! ### Starting -/

def start : Manager :=
  if m.phase.busy then m
  else { m with
    closing := false
    phase := .requestingMicrophone
    starts := m.starts ++ [.microphone] }

/-- How `getUserMedia` settles. The constructor of a peer connection may throw. -/
inductive Microphone where
  | granted (makesPeer : Bool)
  | denied
  | failed

def createPeer : Manager :=
  { m with
    peer := some ⟨m.fresh, .stable, none, none, .new⟩
    peers := Function.update m.peers m.fresh true
    fresh := m.fresh + 1 }

def microphone (settled : Microphone) : Manager :=
  if .microphone ∉ m.starts then m
  else
    let m := { m with starts := m.starts.erase .microphone }
    match settled with
    | .granted makesPeer =>
      let m := { m with
        localStream := some m.fresh
        hot := Function.update m.hot m.fresh true
        fresh := m.fresh + 1 }
      if makesPeer then { m.createPeer with starts := m.starts ++ [.localReady] } else m.fail
    | .denied => m.setPhase .microphoneDenied
    | .failed => m.fail

def openSocket : Manager :=
  if m.closing then m
  else { m with
    socket := some m.fresh
    sockets := Function.update m.sockets m.fresh .connecting
    fresh := m.fresh + 1 }

/-- `onLocalReady` settles. The constructor of a socket may throw. -/
def localReady (settles makesSocket : Bool) : Manager :=
  if .localReady ∉ m.starts then m
  else
    let m := { m with starts := m.starts.erase .localReady }
    if settles then
      let m := m.setPhase .waiting
      if m.closing ∨ makesSocket then m.openSocket else m.fail
    else m.fail

/-! ### The socket -/

def scheduleReconnect : Manager :=
  if m.reconnectTimer.isSome then m
  else { m with
    reconnectTimer := some m.fresh
    timers := Function.update m.timers m.fresh (some .reconnect)
    fresh := m.fresh + 1 }

/-- `announce` of the ready pulse. -/
def announce : Manager :=
  if m.closing ∨ (m.peer.bind Peer.remoteDescription).isSome then m
  else
    let m := m.send .ready
    { m with
      readyTimer := some m.fresh
      timers := Function.update m.timers m.fresh (some .ready)
      fresh := m.fresh + 1 }

def startReadyPulse : Manager := m.stopReadyPulse.announce

/-- An offer that has not been answered is sent again. -/
def resend : Manager :=
  match m.peer with
  | none => m
  | some p =>
    if p.signalingState = .haveLocalOffer ∧ p.localDescription.isSome then
      m.send (.offer p.localDescription)
    else m

def opened (id : Handle) : Manager :=
  if m.sockets id ≠ .connecting then m
  else
    let m := { m with sockets := Function.update m.sockets id .open_ }
    if m.socket ≠ some id then m
    else match m.role with
      | .viewer => m.startReadyPulse
      | .creator => m.resend

def message (id : Handle) (signal : Signal) : Manager :=
  if m.sockets id = .closed ∨ m.socket ≠ some id then m
  else { m with chain := m.chain ++ [.signal signal] }

/-- `onerror` closes the socket, and its close event follows. -/
def errored (id : Handle) : Manager := m.closeSocket (some id)

def closed (id : Handle) : Manager :=
  let m := m.closeSocket (some id)
  if m.socket ≠ some id then m
  else
    let m := { m with socket := none }
    if m.closing then m else m.scheduleReconnect

/-! ### Signals -/

/-- An operation of a peer connection that is the manager's still changes it. -/
def onPeer (id : Handle) (f : Peer → Peer) : Manager :=
  { m with peer := m.peer.map fun p => if p.id = id then f p else p }

/-- The manager's peer connection is this one, and in none of these states. -/
def unfit (id : Handle) (states : List SignalingState) : Bool :=
  m.peer.any fun p => p.id = id && p.signalingState ∉ states

def offer : Manager :=
  match m.peer with
  | none => m
  | some p =>
    if p.signalingState = .haveLocalOffer ∧ p.localDescription.isSome then
      m.send (.offer p.localDescription)
    else if p.signalingState ≠ .stable then m
    else { m with running := some (.createOffer p.id) }

def handleSignal : Signal → Manager
  | .ready => match m.role with
    | .creator => m.offer
    | .viewer => m
  | .offer sdp => match m.role with
    | .creator => m
    | .viewer => { m.stopReadyPulse with running := some (.remoteOffer (m.peer.map Peer.id) sdp) }
  | .answer sdp => match m.role with
    | .creator => { m with running := some (.remoteAnswer (m.peer.map Peer.id) sdp) }
    | .viewer => m
  | .ice candidate =>
    if (m.peer.bind Peer.remoteDescription).isSome then { m with running := some .addCandidate }
    else { m with remoteCandidates := m.remoteCandidates ++ [candidate] }
  | .malformed => m.fail

/-- The next task of the chain has its turn. -/
def next : Manager :=
  match m.running, m.chain with
  | none, task :: chain =>
    let m := { m with chain }
    match task with
    | .signal signal => m.handleSignal signal
    | .offer => m.offer
  | _, _ => m

def flush (replies : Bool) : Manager :=
  { m with running := some (.flush m.remoteCandidates replies), remoteCandidates := [] }

/-- How an await settles: with the description that was asked for, if one was. -/
inductive Outcome where
  | resolved (sdp : Sdp)
  | rejected

/-- A task goes on. An answer is accepted in `have-local-offer` only. -/
def resume : Await → Outcome → Manager
  | .remoteOffer none _, _ => m.flush true
  | .remoteOffer (some id) (some sdp), .resolved _ =>
    (m.onPeer id fun p =>
      { p with signalingState := .haveRemoteOffer, remoteDescription := some sdp }).flush true
  | .remoteOffer (some _) _, _ => m.fail
  | .remoteAnswer none _, _ => m.flush false
  | .remoteAnswer (some id) (some sdp), .resolved _ =>
    if m.unfit id [.haveLocalOffer] then m.fail
    else (m.onPeer id fun p =>
      { p with signalingState := .stable, remoteDescription := some sdp }).flush false
  | .remoteAnswer (some _) _, _ => m.fail
  | .flush (_ :: candidates) replies, .resolved _ =>
    { m with running := some (.flush candidates replies) }
  | .flush (_ :: _) _, .rejected => m.fail
  | .flush [] true, _ => { m with running := some (.createAnswer (m.peer.map Peer.id)) }
  | .flush [] false, _ => m.setPhase .connecting
  | .createAnswer none, _ => m
  | .createAnswer (some id), .resolved sdp =>
    if m.unfit id [.haveRemoteOffer] then m.fail
    else match m.peer with
      | none => m
      | some p => { m with running := some (.localAnswer p.id sdp) }
  | .createAnswer (some _), .rejected => m.fail
  | .localAnswer id sdp, .resolved _ =>
    if m.unfit id [.haveRemoteOffer] then m.fail
    else
      let m := m.onPeer id fun p =>
        { p with signalingState := .stable, localDescription := some sdp }
      match m.peer with
      | none => m.fail
      | some p => (m.send (.answer p.localDescription)).setPhase .connecting
  | .localAnswer _ _, .rejected => m.fail
  | .createOffer _, .resolved sdp =>
    match m.peer with
    | none => m.fail
    | some p => { m with running := some (.localOffer p.id sdp) }
  | .createOffer _, .rejected => m.fail
  | .localOffer id sdp, .resolved _ =>
    if m.unfit id [.stable, .haveLocalOffer] then m.fail
    else
      let m := m.onPeer id fun p =>
        { p with signalingState := .haveLocalOffer, localDescription := some sdp }
      match m.peer with
      | none => m.fail
      | some p => (m.send (.offer p.localDescription)).setPhase .connecting
  | .localOffer _ _, .rejected => m.fail
  | .addCandidate, .resolved _ => m
  | .addCandidate, .rejected => m.fail

def settle (outcome : Outcome) : Manager :=
  match m.running with
  | none => m
  | some await => { m with running := none }.resume await outcome

/-! ### The connection -/

/-- A creator offers again. -/
def beginRecovery : Manager :=
  if m.disconnectTimer.isSome ∨ m.closing then m
  else { m with
    phase := .reconnecting
    chain := match m.role with
      | .creator => m.chain ++ [Task.offer]
      | .viewer => m.chain
    disconnectTimer := some m.fresh
    timers := Function.update m.timers m.fresh (some .disconnect)
    fresh := m.fresh + 1 }

def connectionChanged : Manager :=
  match m.peer.map Peer.connectionState with
  | some .connected =>
    let m := { m.clearTimer m.disconnectTimer with disconnectTimer := none }
    let m := m.setPhase .live
    if m.connectedNotified then m
    else { m with connectedNotified := true, confirming := m.confirming + 1 }
  | some .failed => m.beginRecovery
  | some .disconnected => m.beginRecovery
  | _ => m

/-- A peer connection that isn't closed changes its state. -/
def connection (id : Handle) (state : ConnectionState) : Manager :=
  if m.peers id then (m.onPeer id fun p => { p with connectionState := state }).connectionChanged
  else m

/-- A peer connection that isn't closed gathers a candidate. -/
def candidate (id : Handle) (candidate : Nat) : Manager :=
  if m.peers id then m.send (.ice candidate) else m

/-- A call of `onConnected` settles. -/
def confirmed (settles : Bool) : Manager :=
  if m.confirming = 0 then m
  else
    let m := { m with confirming := m.confirming - 1 }
    if settles then m else m.fail

/-- A timer that is set goes off. -/
def timer (id : Handle) (makesSocket : Bool) : Manager :=
  match m.timers id with
  | none => m
  | some kind =>
    let m := { m with timers := Function.update m.timers id none }
    match kind with
    | .reconnect =>
      let m := { m with reconnectTimer := none }
      if makesSocket then m.openSocket else m
    | .ready => m.announce
    | .disconnect =>
      let m := { m with disconnectTimer := none }
      let state := m.peer.map Peer.connectionState
      if state = some .disconnected ∨ state = some .failed then m.fail else m

/-! ### Any event -/

inductive Event where
  | start
  | microphone (settled : Microphone)
  | localReady (settles makesSocket : Bool)
  | end_
  | opened (id : Handle)
  | message (id : Handle) (signal : Signal)
  | errored (id : Handle)
  | closed (id : Handle)
  | next
  | settle (outcome : Outcome)
  | connection (id : Handle) (state : ConnectionState)
  | candidate (id : Handle) (candidate : Nat)
  | confirmed (settles : Bool)
  | timer (id : Handle) (makesSocket : Bool)

def step : Event → Manager
  | .start => m.start
  | .microphone settled => m.microphone settled
  | .localReady settles makesSocket => m.localReady settles makesSocket
  | .end_ => m.end_
  | .opened id => m.opened id
  | .message id signal => m.message id signal
  | .errored id => m.errored id
  | .closed id => m.closed id
  | .next => m.next
  | .settle outcome => m.settle outcome
  | .connection id state => m.connection id state
  | .candidate id candidate => m.candidate id candidate
  | .confirmed settles => m.confirmed settles
  | .timer id makesSocket => m.timer id makesSocket

end Manager

end Bling.WebRTC
