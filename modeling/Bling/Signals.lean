import Bling.World
import Mathlib.Data.List.Sort
import Mathlib.Data.Prod.Lex

set_option autoImplicit false

namespace Bling

open Library

/-! WebRTC signaling, from `signals.ts`. The sender inserts signals addressed to
the other participant, who handles them in order and deletes them with `ack`. -/

inductive SignalType where
  | ready | offer | answer | ice
deriving DecidableEq

structure Signal where
  type : SignalType
  payload : Text
deriving DecidableEq

structure CallSignal where
  callId : CallId
  recipient : CallRole
  type : SignalType
  payload : Text
deriving DecidableEq

/-- The creator offers, the caller answers and announces it is ready, both send
ICE candidates. -/
def allowed : CallRole → List SignalType
  | .creator => [.offer, .ice]
  | .viewer => [.ready, .answer, .ice]

def maxPayloadBytes : Nat := 64 * 1024
def maxSignalBatch : Nat := 20
def purgeBatch : Nat := 500

/-- How many bytes `TextEncoder` makes of a string: a surrogate pair is one
character of four, and a surrogate alone is replaced by one of three. -/
def utf8Length : Text → Nat
  | [] => 0
  | [unit] => if unit < 0x80 then 1 else if unit < 0x800 then 2 else 3
  | unit :: next :: rest =>
    if unit < 0x80 then 1 + utf8Length (next :: rest)
    else if unit < 0x800 then 2 + utf8Length (next :: rest)
    else if 0xd800 ≤ unit ∧ unit < 0xdc00 ∧ 0xdc00 ≤ next ∧ next < 0xe000 then 4 + utf8Length rest
    else 3 + utf8Length (next :: rest)

def CallRole.other : CallRole → CallRole
  | .creator => .viewer
  | .viewer => .creator

/-- The checks on one signal of a batch. Whether `JSON.parse` takes the payload
is the runtime's. -/
def checkSignal (parses : Text → Bool) (role : CallRole) (signal : Signal) :
    Except ErrorCode Unit :=
  if signal.type ∉ allowed role then .error .invalidSignal
  else if maxPayloadBytes < utf8Length signal.payload then .error .invalidSignal
  else if ¬ parses signal.payload then .error .invalidSignal
  else .ok ()

/-- The batch's loop. One unhandled `ready` is enough, so repeats are dropped;
whether one is pending is looked up at the first. -/
def sendSignals (parses : Text → Bool) (callId : CallId) (role : CallRole) :
    List Signal → Table CallSignal → Option Bool → Except ErrorCode (Table CallSignal)
  | [], table, _ => .ok table
  | signal :: rest, table, readyPending => do
    checkSignal parses role signal
    let row : CallSignal := ⟨callId, role.other, signal.type, signal.payload⟩
    if signal.type = .ready then
      let pending := readyPending.getD (table.first fun s =>
        s.callId == callId && s.recipient == role.other && s.type == .ready).isSome
      if pending then sendSignals parses callId role rest table (some true)
      else sendSignals parses callId role rest (table.insert row) (some true)
    else sendSignals parses callId role rest (table.insert row) readyPending

def send (parses : Text → Bool) (db : DB) (callSignals : Table CallSignal) (userId : Option UserId)
    (callId : CallId) (signals : List Signal) : Except ErrorCode (Table CallSignal) := do
  let (call, role) ← callForParticipant db userId callId
  if call.status ∉ connectableStatuses then .error .callNotFound
  else if signals.length < 1 ∨ maxSignalBatch < signals.length then .error .invalidSignal
  else sendSignals parses callId role signals callSignals none

/-- The place of a type in the index order of its text. -/
def SignalType.order : SignalType → Nat
  | .answer => 0
  | .ice => 1
  | .offer => 2
  | .ready => 3

/-- Where a document of a call stands in the index `by_call_to_type`; `createdAt`
is what the runtime stamps the document of an id with. -/
def indexKey (createdAt : Nat → Time) (row : Nat × CallSignal) : Nat ×ₗ Nat ×ₗ Time :=
  toLex (if row.2.recipient = .creator then 0 else 1, toLex (row.2.type.order, createdAt row.1))

/-- A call's documents as the index gives them. -/
def byCall (createdAt : Nat → Time) (callSignals : Table CallSignal) (p : CallSignal → Bool) :
    List (Nat × CallSignal) :=
  (callSignals.query p).insertionSort fun a b => indexKey createdAt a ≤ indexKey createdAt b

/-- Signals waiting for the signed-in participant, oldest first. -/
def inbox (createdAt : Nat → Time) (db : DB) (callSignals : Table CallSignal)
    (userId : Option UserId) (callId : CallId) :
    Except ErrorCode (List (Nat × SignalType × Text)) := do
  let (_, role) ← callForParticipant db userId callId
  let signals := byCall createdAt callSignals fun s => s.callId == callId && s.recipient == role
  .ok ((signals.insertionSort fun a b => createdAt a.1 ≤ createdAt b.1).map fun row =>
    (row.1, row.2.type, row.2.payload))

/-- Deletes signals the recipient has handled. -/
def ack (db : DB) (callSignals : Table CallSignal) (userId : Option UserId) (callId : CallId)
    (ids : List Nat) : Except ErrorCode (Table CallSignal) := do
  let (_, role) ← callForParticipant db userId callId
  .ok (ids.foldl (fun table id =>
    if (table.get id).any fun s => s.callId == callId && s.recipient == role then table.delete id
    else table) callSignals)

/-- The call's next leftovers. -/
def leftovers (createdAt : Nat → Time) (callSignals : Table CallSignal) (callId : CallId) :
    List (Nat × CallSignal) :=
  (byCall createdAt callSignals fun s => s.callId == callId).take purgeBatch

/-! ### Any interleaving -/

/-- The whole system with the signals between the participants of its calls. -/
structure Signaling where
  world : World
  callSignals : Table CallSignal

def Signaling.empty : Signaling := ⟨.empty, .empty⟩

/-- Removes a finished call's leftover signals, in batches. -/
def Signaling.purge (createdAt : Nat → Time) (ctx : Ctx) (s : Signaling) (callId : CallId) :
    Signaling :=
  let rows := leftovers createdAt s.callSignals callId
  let callSignals := rows.foldl (fun table row => table.delete row.1) s.callSignals
  if rows.length = purgeBatch then
    { world := s.world.schedule ctx.now (.purgeSignals callId), callSignals }
  else { s with callSignals }

inductive SignalOp where
  | send (userId : Option UserId) (callId : CallId) (signals : List Signal)
  | ack (userId : Option UserId) (callId : CallId) (ids : List Nat)
  /-- A purge that is scheduled runs. -/
  | runPurge (time : Time) (callId : CallId)
  /-- Anything else the system does. -/
  | world (op : Op)

/-- The job an operation runs would be a purge. -/
def Op.purges : Op → Bool
  | .runJob _ (.purgeSignals _) => true
  | _ => false

def Signaling.write (s : Signaling) : Except ErrorCode (Table CallSignal) → Signaling
  | .ok callSignals => { s with callSignals }
  | .error _ => s

def Signaling.step (parses : Text → Bool) (createdAt : Nat → Time) (s : Signaling)
    (input : Ctx × SignalOp) : Signaling :=
  let ctx := input.1
  match input.2 with
  | .send userId callId signals =>
    s.write (Bling.send parses s.world.db s.callSignals userId callId signals)
  | .ack userId callId ids => s.write (Bling.ack s.world.db s.callSignals userId callId ids)
  | .runPurge time callId =>
    if (time, .purgeSignals callId) ∈ s.world.db.scheduled ∧ time ≤ ctx.now then
      Signaling.purge createdAt ctx
        { s with world := s.world.step (ctx, .runJob time (.purgeSignals callId)) } callId
    else s
  | .world op => if op.purges then s else { s with world := s.world.step (ctx, op) }

end Bling
