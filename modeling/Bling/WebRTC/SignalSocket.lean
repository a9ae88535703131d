import Bling.Signals
import Bling.WebRTC.Manager
import Bling.Library.Machine

set_option autoImplicit false

namespace Bling.WebRTC

open Library

/-! `ConvexSignalSocket` of `signalSocket.ts`, one turn of the event loop a step:
what it hands to `signals.send`, passes to its handler and acknowledges. -/

def maxBatch : Nat := 20

/-- A callback of the promise chain `sending`, and its mutation. -/
inductive PostState where
  | waiting | inFlight | settled
deriving DecidableEq

structure Post where
  signals : List Bling.Signal
  state : PostState
deriving DecidableEq

/-- A signal as the inbox gives it, under its id. -/
abbrev Incoming := Nat × Bling.Signal

structure ConvexSignalSocket where
  readyState : ReadyState
  /-- `onmessage` is not null. -/
  attached : Bool
  seen : List Nat
  unacked : List Nat
  ice : List Bling.Signal
  iceTimer : Bool
  ackTimer : Bool
  sending : List Post
  /-- The batches of the calls of `signals.send`, in the order of the calls. -/
  handed : List (List Bling.Signal)
  /-- The calls of `onmessage`. -/
  passed : List Incoming
  /-- The calls of `signals.ack`. -/
  acks : List (List Nat)
deriving DecidableEq

namespace ConvexSignalSocket

variable (s : ConvexSignalSocket)

/-! ### Sending -/

def post (signals : List Bling.Signal) : ConvexSignalSocket :=
  { s with sending := s.sending ++ [⟨signals, .waiting⟩] }

/-- The loop of `flushIce`: every turn takes a signal at least. -/
def postAll : Nat → ConvexSignalSocket → ConvexSignalSocket
  | 0, s => s
  | turns + 1, s =>
    if s.ice = [] then s
    else postAll turns ({ s with ice := s.ice.drop maxBatch }.post (s.ice.take maxBatch))

def flushIce : ConvexSignalSocket :=
  postAll s.ice.length { s with iceTimer := false }

def send (signal : Bling.Signal) : ConvexSignalSocket :=
  if s.readyState ≠ .open_ then s
  else if signal.type = .ice then
    let s := { s with ice := s.ice ++ [signal] }
    if maxBatch ≤ s.ice.length then s.flushIce
    else { s with iceTimer := true }
  else s.flushIce.post [signal]

/-- The promise before a place of the chain is settled. -/
def hasTurn (place : Nat) : Bool :=
  place = 0 || (s.sending[place - 1]?).any fun before => before.state = .settled

/-- The callback at a place of the chain runs. -/
def turn (place : Nat) : ConvexSignalSocket :=
  match s.sending[place]? with
  | none => s
  | some p =>
    if p.state = .waiting ∧ s.hasTurn place then
      { s with
        sending := s.sending.set place { p with state := .inFlight }
        handed := s.handed ++ [p.signals] }
    else s

/-! ### Receiving -/

def flushAcks : ConvexSignalSocket :=
  let s := { s with ackTimer := false }
  if s.unacked = [] then s else { s with unacked := [], acks := s.acks ++ [s.unacked] }

/-- A turn of the loop of `receive`. -/
def take (signal : Incoming) : ConvexSignalSocket :=
  if signal.1 ∈ s.seen then s
  else { s with
    seen := s.seen ++ [signal.1]
    unacked := s.unacked ++ [signal.1]
    passed := if s.attached then s.passed ++ [signal] else s.passed }

def receive (signals : List Incoming) : ConvexSignalSocket :=
  let s := signals.foldl take s
  if s.unacked = [] then s else { s with ackTimer := true }

/-! ### Beginning and ending -/

def stopTimers : ConvexSignalSocket :=
  { s with iceTimer := false, ackTimer := false }

/-- Whether the subscription to the inbox goes on is that the socket isn't closed. -/
def fail : ConvexSignalSocket :=
  if s.readyState = .closed then s else { s with readyState := .closed }.stopTimers

def close : ConvexSignalSocket :=
  if s.readyState = .closed then s
  else { s.flushIce.flushAcks with readyState := .closed }.stopTimers

/-- What `localQueryResult` does. -/
inductive QueryResult where
  | none
  | signals (signals : List Incoming)
  | throws

def deliver (result : QueryResult) : ConvexSignalSocket :=
  match result with
  | .none => s
  | .signals signals => s.receive signals
  | .throws => s.fail

/-- The constructor, which delivers what is there already. -/
def new (result : QueryResult) : ConvexSignalSocket :=
  deliver
    { readyState := .connecting
      attached := false
      seen := []
      unacked := []
      ice := []
      iceTimer := false
      ackTimer := false
      sending := []
      handed := []
      passed := []
      acks := [] } result

def attach : ConvexSignalSocket := { s with attached := true }

def opened : ConvexSignalSocket :=
  if s.readyState = .connecting then { s with readyState := .open_ } else s

/-- The mutation of a post settles, and a failure fails the socket. -/
def settle (place : Nat) (succeeds : Bool) : ConvexSignalSocket :=
  match s.sending[place]? with
  | none => s
  | some p =>
    if p.state = .inFlight then
      let s := { s with sending := s.sending.set place { p with state := .settled } }
      if succeeds then s else s.fail
    else s

/-! ### Any event -/

inductive Event where
  | attach
  | opened
  | send (signal : Bling.Signal)
  | iceTimer
  | ackTimer
  | turn (place : Nat)
  | settle (place : Nat) (succeeds : Bool)
  | update (result : QueryResult)
  | close

def step : Event → ConvexSignalSocket
  | .attach => s.attach
  | .opened => s.opened
  | .send signal => s.send signal
  | .iceTimer => if s.iceTimer then s.flushIce else s
  | .ackTimer => if s.ackTimer then s.flushAcks else s
  | .turn place => s.turn place
  | .settle place succeeds => s.settle place succeeds
  | .update result => if s.readyState = .closed then s else s.deliver result
  | .close => s.close

end ConvexSignalSocket

end Bling.WebRTC
