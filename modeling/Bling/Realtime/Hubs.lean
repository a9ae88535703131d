import Bling.Realtime.Rooms
import Bling.Schema

set_option autoImplicit false

namespace Bling.Realtime

open Library

/-! `Hub` of `realtime/hub.go`, with the events of a show for all who watch it, and
`SignalHub` of `realtime/signal.go`, with the signals of a call for one role. -/

structure Event where
  eventType : Text
  showId : Text
  occurredAt : Time

structure Signal where
  signalType : Text
  callId : Text
  sender : Text
  target : Text
  payload : Text
  occurredAt : Time

namespace Hub

def rules (bufferSize maxPerShow : Nat) : Rules Text Unit Event where
  bufferSize
  maxClients := maxPerShow
  keyOf := Event.showId
  wants _ _ := true
  stopsStrangers := false
  returnsDisplaced := false

def step (bufferSize maxPerShow : Nat) :
    Rooms Text Unit Event → RoomInput Text Unit Event → Rooms Text Unit Event :=
  Rooms.step (rules bufferSize maxPerShow)

end Hub

namespace SignalHub

def rules (bufferSize maxPerCall : Nat) : Rules Text Text Signal where
  bufferSize
  maxClients := maxPerCall
  keyOf := Signal.callId
  wants role signal := role == signal.target
  stopsStrangers := true
  returnsDisplaced := true

def step (bufferSize maxPerCall : Nat) :
    Rooms Text Text Signal → RoomInput Text Text Signal → Rooms Text Text Signal :=
  Rooms.step (rules bufferSize maxPerCall)

end SignalHub

namespace Rooms

variable {κ ρ μ : Type} [DecidableEq κ] {rules : Rules κ ρ μ} {s : Rooms κ ρ μ}

/-- A client that unsubscribes from another room of its key, which came after its own,
leaves that room as it is. -/
theorem unsubscribe_stranger (tidy : Tidy rules s) {key : κ} {client : ClientId}
    (stranger : ¬ s.Inside client) :
    (s.unsubscribe rules key client).rooms = s.rooms ∧
      (s.unsubscribe rules key client).heap = s.heap := by
  unfold unsubscribe
  cases mapped : s.rooms key with
  | none => exact ⟨rfl, rfl⟩
  | some id =>
      obtain ⟨room, there, positive, _⟩ := tidy.filled key id mapped
      simp only [there]
      split
      · exact ⟨rfl, rfl⟩
      · have all : (room.clients.filter fun row => row.1 != client) = room.clients := by
          refine List.filter_eq_self.mpr fun row member => bne_iff_ne.mpr ?_
          rintro rfl
          exact stranger ⟨key, id, room, mapped, there, List.mem_map_of_mem member⟩
        have filled : room.clients.isEmpty = false := by
          cases empty : room.clients with
          | nil =>
              rw [empty] at positive
              exact absurd positive (Nat.not_succ_le_zero 0)
          | cons => rfl
        unfold Rooms.keep
        rw [all, filled]
        have same : (s.heap.patch id fun other => { other with clients := room.clients }) =
            s.heap := by
          refine Table.patch_eq_self fun other found => ?_
          rw [there] at found
          obtain rfl := Option.some.inj found
          rfl
        exact ⟨rfl, same⟩

/-- Whatever the calls and their order, rooms stay tidy. -/
theorem run_tidy (capacity : 1 ≤ rules.maxClients) (inputs : List (RoomInput κ ρ μ)) :
    Tidy rules (run (step rules) empty inputs) :=
  Reachable.induct ⟨inputs, rfl⟩ (Tidy rules) (empty_tidy rules)
    fun _ input tidy => step_tidy capacity tidy input

end Rooms

/-- In any run of either hub, rooms are neither leaked nor shared, and a signal is only
delivered to clients of its target role and call. -/
theorem hubs_sealed (bufferSize maxPerShow maxPerCall : Nat) (perShow : 1 ≤ maxPerShow)
    (perCall : 1 ≤ maxPerCall) :
    (∀ inputs, Rooms.Sealed (Hub.rules bufferSize maxPerShow)
      (run (Hub.step bufferSize maxPerShow) .empty inputs)) ∧
    (∀ inputs, Rooms.Sealed (SignalHub.rules bufferSize maxPerCall)
      (run (SignalHub.step bufferSize maxPerCall) .empty inputs)) ∧
    ∀ inputs client row, (run (SignalHub.step bufferSize maxPerCall) .empty inputs).clients.get
        client = some row →
      ∀ signal ∈ row.received ++ row.messages, signal.callId = row.key ∧
        signal.target = row.role := by
  have shows (inputs : List (RoomInput Text Unit Event)) :
      Rooms.Tidy (Hub.rules bufferSize maxPerShow) (run (Hub.step bufferSize maxPerShow) .empty
        inputs) := Rooms.run_tidy perShow inputs
  have call (inputs : List (RoomInput Text Text Signal)) :
      Rooms.Tidy (SignalHub.rules bufferSize maxPerCall)
        (run (SignalHub.step bufferSize maxPerCall) .empty inputs) :=
    Rooms.run_tidy perCall inputs
  refine ⟨fun inputs => (shows inputs).sealed perShow, fun inputs => (call inputs).sealed perCall,
    fun inputs client row found signal member => ?_⟩
  obtain ⟨key, wanted⟩ := (call inputs).meant client row found signal member
  exact ⟨key, (beq_iff_eq.mp wanted).symm⟩

theorem hubs_sealed_pair :
    (∀ inputs, Rooms.Sealed (Hub.rules 1 2) (run (Hub.step 1 2) .empty inputs)) ∧
    (∀ inputs, Rooms.Sealed (SignalHub.rules 1 8) (run (SignalHub.step 1 8) .empty inputs)) ∧
    ∀ inputs client row, (run (SignalHub.step 1 8) .empty inputs).clients.get client = some row →
      ∀ signal ∈ row.received ++ row.messages, signal.callId = row.key ∧
        signal.target = row.role :=
  hubs_sealed 1 2 8 (by decide) (by decide)

end Bling.Realtime
