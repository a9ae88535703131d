import Bling.Library.Machine
import Bling.Library.Table
import Mathlib.Logic.Function.Basic

set_option autoImplicit false

namespace Bling.Realtime

open Library

/-! What `Hub` and `SignalHub` have in common: rooms of clients under a mutex, each
with a subscription to a bus. The lock sections are atomic; what a call does
between and after them is interleaved with all others. -/

/-! ### The state -/

abbrev RoomId := Nat
abbrev ClientId := Nat
abbrev SubscriptionId := Nat

/-- Where the two hubs differ; a message has a room's key, and is for some roles. -/
structure Rules (κ ρ μ : Type) where
  bufferSize : Nat
  maxClients : Nat
  keyOf : μ → κ
  wants : ρ → μ → Bool
  /-- `Unsubscribe` stops a client that is not in the room as well. -/
  stopsStrangers : Bool
  /-- The goroutine of a room returns when it finds the room displaced. -/
  returnsDisplaced : Bool

structure Room (ρ : Type) where
  subscription : SubscriptionId
  clients : List (ClientId × ρ)

/-- A client, with what `Subscribe` was asked for and what the connection has read. -/
structure Client (κ ρ μ : Type) where
  key : κ
  role : ρ
  messages : List μ
  received : List μ
  stopped : Bool

structure Subscription (κ : Type) where
  key : κ
  closed : Bool

/-- A `Subscribe` between its two lock sections. -/
structure Joining (κ ρ : Type) where
  key : κ
  role : ρ
  subscription : Option SubscriptionId

inductive Phase (μ : Type) where
  | waiting
  | delivering (message : μ)
  | closing
  | returned

/-- The goroutine of a room. -/
structure Runner (κ μ : Type) where
  key : κ
  room : RoomId
  phase : Phase μ

structure Rooms (κ ρ μ : Type) where
  rooms : κ → Option RoomId
  /-- The rooms that were ever made, in the map or not. -/
  heap : Table (Room ρ)
  clients : Table (Client κ ρ μ)
  subscriptions : Table (Subscription κ)
  joining : Table (Joining κ ρ)
  runners : Table (Runner κ μ)
  /-- The calls that have displaced a subscription and go on to close it. -/
  closing : Table SubscriptionId

inductive RoomInput (κ ρ μ : Type) where
  | subscribe (key : κ) (role : ρ)
  /-- The bus answers a `Subscribe`, or fails. -/
  | busSubscribe (joining : Nat) (ok : Bool)
  | insertRoom (joining : Nat)
  | unsubscribe (key : κ) (client : ClientId)
  | receive (runner : Nat) (message : μ)
  | broadcast (runner : Nat)
  /-- The server shuts down, or the bus closes the channel. -/
  | finish (runner : Nat)
  | closeRoom (runner : Nat)
  | closeSubscription (closing : Nat)
  /-- The connection takes a message from its channel. -/
  | take (client : ClientId)

namespace Rooms

variable {κ ρ μ : Type}

def empty : Rooms κ ρ μ := ⟨fun _ => none, .empty, .empty, .empty, .empty, .empty, .empty⟩

/-! ### The lock sections -/

section Steps

variable [DecidableEq κ]

def addClientLocked (rules : Rules κ ρ μ) (s : Rooms κ ρ μ) (id : RoomId) (key : κ) (role : ρ) :
    Option (Rooms κ ρ μ) :=
  match s.heap.get id with
  | none => none
  | some room =>
    if rules.maxClients ≤ room.clients.length then none
    else some { s with
      clients := s.clients.insert ⟨key, role, [], [], false⟩
      heap := s.heap.patch id fun room =>
        { room with clients := room.clients ++ [(s.clients.next, role)] } }

/-- The room is out of the map, and its subscription is to be closed. -/
def displace (s : Rooms κ ρ μ) (key : κ) (subscription : SubscriptionId) : Rooms κ ρ μ :=
  { s with
    rooms := Function.update s.rooms key none
    closing := s.closing.insert subscription }

/-- The clients that stay in a room, which goes with the last of them. -/
def keep (s : Rooms κ ρ μ) (key : κ) (id : RoomId) (room : Room ρ) (left : List (ClientId × ρ))
    (clients : Table (Client κ ρ μ)) : Rooms κ ρ μ :=
  let kept := { s with heap := s.heap.patch id fun room => { room with clients := left }, clients }
  if left.isEmpty then kept.displace key room.subscription else kept

def stop (client : Client κ ρ μ) : Client κ ρ μ := { client with stopped := true }

def unsubscribe (rules : Rules κ ρ μ) (s : Rooms κ ρ μ) (key : κ) (client : ClientId) :
    Rooms κ ρ μ :=
  match s.rooms key with
  | none => s
  | some id =>
    match s.heap.get id with
    | none => s
    | some room =>
      if client ∉ room.clients.map Prod.fst ∧ rules.stopsStrangers = false then s
      else s.keep key id room (room.clients.filter fun row => row.1 != client)
        (s.clients.patch client stop)

/-- A client's channel has room for one more message. -/
def accepts (rules : Rules κ ρ μ) (client : Client κ ρ μ) : Bool :=
  client.messages.length < rules.bufferSize

/-- The message is sent, or the client is too slow and dropped. -/
def offer (rules : Rules κ ρ μ) (message : μ) (role : ρ) (client : Client κ ρ μ) : Client κ ρ μ :=
  if rules.wants role message then
    if accepts rules client then { client with messages := client.messages ++ [message] }
    else stop client
  else client

def broadcast (rules : Rules κ ρ μ) (s : Rooms κ ρ μ) (key : κ) (id : RoomId) (message : μ) :
    Rooms κ ρ μ :=
  if s.rooms key ≠ some id then s
  else match s.heap.get id with
    | none => s
    | some room =>
      s.keep key id room
        (room.clients.filter fun row => !rules.wants row.2 message ||
          (s.clients.get row.1).any (accepts rules))
        (room.clients.foldl (fun clients row => clients.patch row.1 (offer rules message row.2))
          s.clients)

def closeRoom (s : Rooms κ ρ μ) (key : κ) (id : RoomId) : Rooms κ ρ μ :=
  if s.rooms key ≠ some id then s
  else match s.heap.get id with
    | none => s
    | some room =>
      let clients := room.clients.foldl (fun clients row => clients.patch row.1 stop) s.clients
      { s with clients }.displace key room.subscription

/-! ### Calls and goroutines -/

def subscribe (rules : Rules κ ρ μ) (s : Rooms κ ρ μ) (key : κ) (role : ρ) : Rooms κ ρ μ :=
  match s.rooms key with
  | some id => (s.addClientLocked rules id key role).getD s
  | none => { s with joining := s.joining.insert ⟨key, role, none⟩ }

def busSubscribe (s : Rooms κ ρ μ) (id : Nat) (ok : Bool) (call : Joining κ ρ) : Rooms κ ρ μ :=
  match call.subscription with
  | some _ => s
  | none =>
    if ok then
      { s with
        subscriptions := s.subscriptions.insert ⟨call.key, false⟩
        joining := s.joining.patch id fun call =>
          { call with subscription := some s.subscriptions.next } }
    else { s with joining := s.joining.delete id }

/-- The second lock section of `Subscribe`. A room that takes no client is closed again. -/
def insertRoom (rules : Rules κ ρ μ) (s : Rooms κ ρ μ) (id : Nat) (call : Joining κ ρ) :
    Rooms κ ρ μ :=
  match call.subscription with
  | none => s
  | some subscription =>
    let s := { s with joining := s.joining.delete id }
    match s.rooms call.key with
    | some existing =>
      let added := (s.addClientLocked rules existing call.key call.role).getD s
      { added with closing := added.closing.insert subscription }
    | none =>
      let created := s.heap.next
      let s := { s with
        heap := s.heap.insert ⟨subscription, []⟩
        rooms := Function.update s.rooms call.key (some created) }
      match s.addClientLocked rules created call.key call.role with
      | some added => { added with runners := added.runners.insert ⟨call.key, created, .waiting⟩ }
      | none => { s with runners := s.runners.insert ⟨call.key, created, .closing⟩ }

def goOn (s : Rooms κ ρ μ) (id : Nat) (phase : Phase μ) : Rooms κ ρ μ :=
  { s with runners := s.runners.patch id fun runner => { runner with phase } }

def receive (rules : Rules κ ρ μ) (s : Rooms κ ρ μ) (id : Nat) (message : μ)
    (runner : Runner κ μ) : Rooms κ ρ μ :=
  match runner.phase with
  | .waiting =>
    if rules.keyOf message ≠ runner.key then s else s.goOn id (.delivering message)
  | _ => s

def broadcasts (rules : Rules κ ρ μ) (s : Rooms κ ρ μ) (id : Nat) (runner : Runner κ μ) :
    Rooms κ ρ μ :=
  match runner.phase with
  | .delivering message =>
    let after := s.broadcast rules runner.key runner.room message
    if rules.returnsDisplaced ∧ after.rooms runner.key ≠ some runner.room then
      after.goOn id .returned
    else after.goOn id .waiting
  | _ => s

def finish (s : Rooms κ ρ μ) (id : Nat) (runner : Runner κ μ) : Rooms κ ρ μ :=
  match runner.phase with
  | .waiting => s.goOn id .closing
  | _ => s

def closes (s : Rooms κ ρ μ) (id : Nat) (runner : Runner κ μ) : Rooms κ ρ μ :=
  match runner.phase with
  | .closing => (s.closeRoom runner.key runner.room).goOn id .returned
  | _ => s

def closeSubscription (s : Rooms κ ρ μ) (id : Nat) (subscription : SubscriptionId) :
    Rooms κ ρ μ :=
  { s with
    subscriptions := s.subscriptions.patch subscription fun row => { row with closed := true }
    closing := s.closing.delete id }

def step (rules : Rules κ ρ μ) (s : Rooms κ ρ μ) : RoomInput κ ρ μ → Rooms κ ρ μ
  | .subscribe key role => s.subscribe rules key role
  | .busSubscribe id ok => (s.joining.get id).elim s (s.busSubscribe id ok)
  | .insertRoom id => (s.joining.get id).elim s (s.insertRoom rules id)
  | .unsubscribe key client => s.unsubscribe rules key client
  | .receive id message => (s.runners.get id).elim s (s.receive rules id message)
  | .broadcast id => (s.runners.get id).elim s (s.broadcasts rules id)
  | .finish id => (s.runners.get id).elim s (s.finish id)
  | .closeRoom id => (s.runners.get id).elim s (s.closes id)
  | .closeSubscription id => (s.closing.get id).elim s (s.closeSubscription id)
  | .take client =>
    { s with clients := s.clients.patch client fun client =>
        { client with
          messages := client.messages.tail
          received := client.received ++ client.messages.take 1 } }

end Steps

/-! ### The invariant -/

/-- Who has a subscription: a room in the map, a `Subscribe`, or a call that closes it. -/
inductive Owner where
  | room (id : RoomId)
  | joining (id : Nat)
  | closing (id : Nat)

def Owns (s : Rooms κ ρ μ) (subscription : SubscriptionId) : Owner → Prop
  | .room id => ∃ key room, s.rooms key = some id ∧ s.heap.get id = some room ∧
      room.subscription = subscription
  | .joining id => ∃ call, s.joining.get id = some call ∧ call.subscription = some subscription
  | .closing id => s.closing.get id = some subscription

/-- The client is in a room that is in the map. -/
def Inside (s : Rooms κ ρ μ) (client : ClientId) : Prop :=
  ∃ key id room, s.rooms key = some id ∧ s.heap.get id = some room ∧
    client ∈ room.clients.map Prod.fst

/-- A message is for the client's room and role. -/
def Meant (rules : Rules κ ρ μ) (client : Client κ ρ μ) (message : μ) : Prop :=
  rules.keyOf message = client.key ∧ rules.wants client.role message = true

/-- Each subscription that is open has one owner. -/
structure Ownership (s : Rooms κ ρ μ) : Prop where
  opened : ∀ subscription owner, s.Owns subscription owner →
    ∃ row, s.subscriptions.get subscription = some row ∧ row.closed = false
  owned : ∀ subscription row, s.subscriptions.get subscription = some row → row.closed = false →
    ∃ owner, s.Owns subscription owner
  alone : ∀ subscription owner other, s.Owns subscription owner → s.Owns subscription other →
    owner = other

/-- What holds whenever the mutex is free. -/
structure Tidy (rules : Rules κ ρ μ) (s : Rooms κ ρ μ) : Prop where
  filled : ∀ key id, s.rooms key = some id → ∃ room, s.heap.get id = some room ∧
    1 ≤ room.clients.length ∧ room.clients.length ≤ rules.maxClients
  apart : ∀ key other id, s.rooms key = some id → s.rooms other = some id → key = other
  distinct : ∀ id room, s.heap.get id = some room → (room.clients.map Prod.fst).Nodup
  single : ∀ id other room room' client, s.heap.get id = some room →
    s.heap.get other = some room' → client ∈ room.clients.map Prod.fst →
    client ∈ room'.clients.map Prod.fst → id = other
  registered : ∀ id room client role, s.heap.get id = some room → (client, role) ∈ room.clients →
    ∃ row, s.clients.get client = some row ∧ row.role = role ∧
      ∀ key, s.rooms key = some id → row.key = key
  stopped : ∀ client row, s.clients.get client = some row → row.stopped = true ∨ s.Inside client
  meant : ∀ client row, s.clients.get client = some row →
    ∀ message ∈ row.received ++ row.messages, Meant rules row message
  delivers : ∀ id runner message, s.runners.get id = some runner →
    runner.phase = .delivering message → rules.keyOf message = runner.key
  ownership : Ownership s

/-- How a client goes on: it is the same, stopped for good, and told what it is meant to be. -/
def Lives (rules : Rules κ ρ μ) (_ : ClientId) (before after : Client κ ρ μ) : Prop :=
  after.key = before.key ∧ after.role = before.role ∧
    (before.stopped = true → after.stopped = true) ∧
    ∀ message ∈ after.received ++ after.messages,
      message ∈ before.received ++ before.messages ∨ Meant rules before message

section Changes

variable {rules : Rules κ ρ μ} {s : Rooms κ ρ μ} {key : κ} {id : RoomId} {room : Room ρ}
  {left : List (ClientId × ρ)} {clients : Table (Client κ ρ μ)}

theorem Lives.refl (rules : Rules κ ρ μ) (id : ClientId) (client : Client κ ρ μ) :
    Lives rules id client client :=
  ⟨rfl, rfl, fun stopped => stopped, fun _ member => Or.inl member⟩

theorem owner_one {one other : SubscriptionId} {owner : Owner} (first : s.Owns one owner)
    (second : s.Owns other owner) : one = other := by
  cases owner with
  | room id =>
      obtain ⟨_, room, _, found, rfl⟩ := first
      obtain ⟨_, room', _, found', rfl⟩ := second
      rw [found] at found'
      rw [Option.some.inj found']
  | joining id =>
      obtain ⟨call, found, same⟩ := first
      obtain ⟨call', found', same'⟩ := second
      rw [found] at found'
      obtain rfl := Option.some.inj found'
      rw [same] at same'
      exact Option.some.inj same'
  | closing id =>
      have first : s.closing.get id = some one := first
      have second : s.closing.get id = some other := second
      rw [first] at second
      exact Option.some.inj second

theorem offer_lives (client : ClientId) (row : Client κ ρ μ) {message : μ}
    (here : rules.keyOf message = row.key) :
    Lives rules client row (offer rules message row.role row) := by
  unfold offer
  split
  · rename_i wanted
    split
    · refine ⟨rfl, rfl, fun stopped => stopped, fun one member => ?_⟩
      rcases List.mem_append.mp member with read | sent
      · exact Or.inl (List.mem_append_left _ read)
      · rcases List.mem_append.mp sent with earlier | new
        · exact Or.inl (List.mem_append_right _ earlier)
        · rw [List.mem_singleton.mp new]
          exact Or.inr ⟨here, wanted⟩
    · exact ⟨rfl, rfl, fun _ => rfl, fun _ => Or.inl⟩
  · exact Lives.refl rules client row

theorem empty_tidy (rules : Rules κ ρ μ) : Tidy rules (empty : Rooms κ ρ μ) := by
  have unowned {subscription : SubscriptionId} {owner : Owner} :
      ¬ (empty : Rooms κ ρ μ).Owns subscription owner := by
    intro owns
    cases owner with
    | room id =>
        obtain ⟨_, _, mapped, _⟩ := owns
        cases mapped
    | joining id =>
        obtain ⟨_, found, _⟩ := owns
        cases found
    | closing id => cases owns
  exact ⟨nofun, nofun, nofun, nofun, nofun, nofun, nofun, nofun,
    fun _ _ owns => absurd owns unowned, nofun, fun _ _ _ owns => absurd owns unowned⟩

/-- A subscription changes hands. -/
theorem Ownership.transfer (ownership : Ownership s) {after : Rooms κ ρ μ}
    {subscription : SubscriptionId} {giver : Owner} (taker : Owner)
    (gives : s.Owns subscription giver)
    (same : after.subscriptions = s.subscriptions)
    (owns : ∀ one owner, after.Owns one owner ↔
      (owner ≠ giver ∧ s.Owns one owner) ∨ (owner = taker ∧ one = subscription)) :
    Ownership after := by
  constructor
  · intro one owner holds
    rw [same]
    rcases (owns one owner).mp holds with ⟨_, before⟩ | ⟨_, rfl⟩
    · exact ownership.opened one owner before
    · exact ownership.opened one giver gives
  · intro one row found opened
    rw [same] at found
    obtain ⟨owner, before⟩ := ownership.owned one row found opened
    by_cases here : owner = giver
    · by_cases itself : one = subscription
      · exact ⟨taker, (owns one taker).mpr (Or.inr ⟨rfl, itself⟩)⟩
      · exact absurd (here ▸ before) fun also => itself (owner_one also gives)
    · exact ⟨owner, (owns one owner).mpr (Or.inl ⟨here, before⟩)⟩
  · intro one owner other first second
    rcases (owns one owner).mp first with ⟨elsewhere, before⟩ | ⟨rfl, rfl⟩
    · rcases (owns one other).mp second with ⟨_, before'⟩ | ⟨rfl, rfl⟩
      · exact ownership.alone one owner other before before'
      · exact absurd (ownership.alone _ owner giver before gives) elsewhere
    · rcases (owns one other).mp second with ⟨elsewhere, before'⟩ | ⟨rfl, _⟩
      · exact absurd (ownership.alone _ other giver before' gives) elsewhere
      · rfl

theorem Ownership.same (ownership : Ownership s) {after : Rooms κ ρ μ}
    (same : after.subscriptions = s.subscriptions)
    (owns : ∀ one owner, after.Owns one owner ↔ s.Owns one owner) : Ownership after := by
  constructor
  · intro one owner holds
    rw [same]
    exact ownership.opened one owner ((owns one owner).mp holds)
  · intro one row found opened
    rw [same] at found
    obtain ⟨owner, before⟩ := ownership.owned one row found opened
    exact ⟨owner, (owns one owner).mpr before⟩
  · exact fun one owner other first second => ownership.alone one owner other
      ((owns one owner).mp first) ((owns one other).mp second)

/-- A room of the heap after its clients are those that stay. -/
theorem heap_row {other : RoomId} {after : Room ρ} (stays : List.Sublist left room.clients)
    (there : s.heap.get id = some room)
    (found : (s.heap.patch id fun room => { room with clients := left }).get other = some after) :
    ∃ before, s.heap.get other = some before ∧ after.subscription = before.subscription ∧
      List.Sublist after.clients before.clients := by
  rw [Table.get_patch] at found
  split at found
  · rename_i here
    obtain ⟨before, present, rfl⟩ := Option.map_eq_some_iff.mp found
    rw [here, there] at present
    obtain rfl := Option.some.inj present
    exact ⟨room, here ▸ there, rfl, stays⟩
  · exact ⟨after, found, rfl, List.Sublist.refl _⟩

/-- What the other fields say after a lock section that lets clients go. -/
theorem Tidy.sheds (tidy : Tidy rules s) (there : s.heap.get id = some room)
    (stays : List.Sublist left room.clients)
    (lives : Table.Follow (Lives rules) (fun _ => False) s.clients clients)
    (rooms : κ → Option RoomId) (closing : Table SubscriptionId) (mapped : ∀ other one, rooms other = some one →
      s.rooms other = some one)
    (filled : ∀ key one, rooms key = some one → one = id → left ≠ [])
    (stopped : ∀ client row, clients.get client = some row → client ∈ room.clients.map Prod.fst →
      row.stopped = true ∨ client ∈ left.map Prod.fst ∧ ∃ other, rooms other = some id)
    (kept : ∀ other one, s.rooms other = some one → one ≠ id → rooms other = some one)
    {after : Rooms κ ρ μ}
    (result : after = { s with
      rooms, clients, closing
      heap := s.heap.patch id fun room => { room with clients := left } })
    (ownership : Ownership after) : Tidy rules after := by
  subst result
  have row {other : RoomId} {after : Room ρ}
      (found : (s.heap.patch id fun room => { room with clients := left }).get other =
        some after) := heap_row stays there found
  refine ⟨?_, ?_, ?_, ?_, ?_, ?_, ?_, tidy.delivers, ownership⟩
  · intro other one found
    obtain ⟨before, present, positive, bounded⟩ := tidy.filled other one (mapped other one found)
    by_cases here : one = id
    · rw [here, there] at present
      obtain rfl := Option.some.inj present
      refine ⟨{ room with clients := left }, ?_, ?_, ?_⟩
      · show (s.heap.patch id _).get one = _
        rw [here, Table.get_patch_self there]
      · exact List.length_pos_of_ne_nil (filled other one found here)
      · exact Nat.le_trans stays.length_le bounded
    · refine ⟨before, ?_, positive, bounded⟩
      show (s.heap.patch id _).get one = _
      rw [Table.get_patch_of_ne here, present]
  · intro one other common first second
    exact tidy.apart one other common (mapped one common first) (mapped other common second)
  · intro other after found
    obtain ⟨before, present, _, sub⟩ := row found
    exact (tidy.distinct other before present).sublist (sub.map _)
  · intro one other first second client found found' member member'
    obtain ⟨before, present, _, sub⟩ := row found
    obtain ⟨before', present', _, sub'⟩ := row found'
    exact tidy.single one other before before' client present present' ((sub.map _).subset member)
      ((sub'.map _).subset member')
  · intro other after client role found member
    obtain ⟨before, present, _, sub⟩ := row found
    obtain ⟨old, held, role', keys⟩ := tidy.registered other before client role present
      (sub.subset member)
    obtain ⟨new, held', same, same', _⟩ := lives.kept client old held
    exact ⟨new, held', same'.trans role', fun one mapping =>
      same.trans (keys one (mapped one other mapping))⟩
  · intro client new found
    rcases lives.origin client new found with ⟨old, held, _, _, stops, _⟩ | ⟨_, never⟩
    · by_cases inRoom : client ∈ room.clients.map Prod.fst
      · rcases stopped client new found inRoom with out | ⟨member, other, mapping⟩
        · exact Or.inl out
        · refine Or.inr ⟨other, id, { room with clients := left }, mapping, ?_, member⟩
          show (s.heap.patch id _).get id = _
          rw [Table.get_patch_self there]
      · rcases tidy.stopped client old held with out | ⟨other, one, before, mapping, present, member⟩
        · exact Or.inl (stops out)
        · have elsewhere : one ≠ id := by
            intro here
            rw [here, there] at present
            obtain rfl := Option.some.inj present
            exact inRoom member
          refine Or.inr ⟨other, one, before, kept other one mapping elsewhere, ?_, member⟩
          show (s.heap.patch id _).get one = _
          rw [Table.get_patch_of_ne elsewhere, present]
    · exact never.elim
  · intro client new found message member
    rcases lives.origin client new found with ⟨old, held, same, same', _, told⟩ | ⟨_, never⟩
    · unfold Meant
      rw [same, same']
      rcases told message member with earlier | meant
      · exact tidy.meant client old held message earlier
      · exact meant
    · exact never.elim

/-- Owners do not depend on who is in a room. -/
theorem owns_kept (left : List (ClientId × ρ)) (clients : Table (Client κ ρ μ))
    (there : s.heap.get id = some room) {subscription : SubscriptionId}
    {owner : Owner} :
    ({ s with heap := s.heap.patch id fun room => { room with clients := left }, clients } :
      Rooms κ ρ μ).Owns subscription owner ↔ s.Owns subscription owner := by
  cases owner with
  | room one =>
      constructor
      · intro ⟨other, after, mapped, found, same⟩
        have found : (s.heap.patch id fun room => { room with clients := left }).get one =
          some after := found
        rw [Table.get_patch] at found
        split at found
        · obtain ⟨before, present, rfl⟩ := Option.map_eq_some_iff.mp found
          exact ⟨other, before, mapped, present, same⟩
        · exact ⟨other, after, mapped, found, same⟩
      · intro ⟨other, before, mapped, present, same⟩
        by_cases here : one = id
        · rw [here, there] at present
          obtain rfl := Option.some.inj present
          refine ⟨other, { room with clients := left }, mapped, ?_, same⟩
          show (s.heap.patch id _).get one = _
          rw [here, Table.get_patch_self there]
        · refine ⟨other, before, mapped, ?_, same⟩
          show (s.heap.patch id _).get one = _
          rw [Table.get_patch_of_ne here, present]
  | joining one => exact Iff.rfl
  | closing one => exact Iff.rfl

/-- A goroutine that goes on keeps to its room's key. -/
theorem Tidy.goOn (tidy : Tidy rules s) (runner : Nat) {phase : Phase μ}
    (keyed : ∀ row message, s.runners.get runner = some row → phase = .delivering message →
      rules.keyOf message = row.key) : Tidy rules (s.goOn runner phase) := by
  refine ⟨tidy.filled, tidy.apart, tidy.distinct, tidy.single, tidy.registered, tidy.stopped,
    tidy.meant, ?_, tidy.ownership.same rfl fun _ owner => by cases owner <;> exact Iff.rfl⟩
  intro other row message found delivers
  have found : (s.runners.patch runner fun row => { row with phase }).get other = some row := found
  rw [Table.get_patch] at found
  split at found
  · rename_i here
    obtain ⟨before, there, rfl⟩ := Option.map_eq_some_iff.mp found
    exact keyed before message (here ▸ there) delivers
  · exact tidy.delivers other row message found delivers

/-- A client that is new is in no room. -/
theorem Tidy.unlisted (tidy : Tidy rules s) (there : s.heap.get id = some room) :
    s.clients.next ∉ room.clients.map Prod.fst := by
  intro member
  obtain ⟨entry, listed, same⟩ := List.mem_map.mp member
  obtain ⟨row, held, _⟩ := tidy.registered id room entry.1 entry.2 there listed
  exact absurd same (Table.ne_next held)

theorem addClientLocked_tidy (tidy : Tidy rules s) (mapped : s.rooms key = some id) (role : ρ)
    {after : Rooms κ ρ μ} (added : s.addClientLocked rules id key role = some after) :
    Tidy rules after := by
  obtain ⟨room, there, positive, _⟩ := tidy.filled key id mapped
  unfold addClientLocked at added
  simp only [there] at added
  split at added
  · cases added
  · rename_i free
    obtain rfl := Option.some.inj added
    have more : (s.heap.patch id fun room =>
        { room with clients := room.clients ++ [(s.clients.next, role)] }) =
        s.heap.patch id fun other =>
          { other with clients := room.clients ++ [(s.clients.next, role)] } := by
      refine Table.patch_congr fun other found => ?_
      rw [there] at found
      obtain rfl := Option.some.inj found
      rfl
    rw [more]
    have row {other : RoomId} {after : Room ρ} (found : (s.heap.patch id fun other =>
        { other with clients := room.clients ++ [(s.clients.next, role)] }).get other = some after) :
        (other = id ∧ after.clients = room.clients ++ [(s.clients.next, role)]) ∨
          (other ≠ id ∧ s.heap.get other = some after) := by
      rw [Table.get_patch] at found
      split at found
      · rename_i here
        obtain ⟨_, _, rfl⟩ := Option.map_eq_some_iff.mp found
        exact Or.inl ⟨here, rfl⟩
      · rename_i elsewhere
        exact Or.inr ⟨elsewhere, found⟩
    have member {client : ClientId} {entries : List (ClientId × ρ)}
        (same : entries = room.clients ++ [(s.clients.next, role)])
        (listed : client ∈ entries.map Prod.fst) :
        client ∈ room.clients.map Prod.fst ∨ client = s.clients.next := by
      rw [same, List.map_append, List.mem_append] at listed
      exact listed.imp_right List.mem_singleton.mp
    refine ⟨?_, tidy.apart, ?_, ?_, ?_, ?_, ?_, tidy.delivers,
      tidy.ownership.same rfl fun _ _ => owns_kept _ _ there⟩
    · intro other one mapping
      obtain ⟨before, present, some_clients, bounded⟩ := tidy.filled other one mapping
      by_cases here : one = id
      · refine ⟨{ room with clients := room.clients ++ [(s.clients.next, role)] }, ?_, ?_, ?_⟩
        · show (s.heap.patch id _).get one = _
          rw [here, Table.get_patch_self there]
        · simp
        · simp
          omega
      · refine ⟨before, ?_, some_clients, bounded⟩
        show (s.heap.patch id _).get one = _
        rw [Table.get_patch_of_ne here, present]
    · intro other after found
      rcases row found with ⟨_, same⟩ | ⟨_, before⟩
      · rw [same, List.map_append]
        refine List.Nodup.append (tidy.distinct id room there) (List.nodup_singleton _) ?_
        intro client listed new
        rw [List.mem_singleton.mp new] at listed
        exact tidy.unlisted there listed
      · exact tidy.distinct other after before
    · intro one other first second client found found' listed listed'
      rcases row found with ⟨rfl, same⟩ | ⟨_, before⟩ <;>
        rcases row found' with ⟨rfl, same'⟩ | ⟨_, before'⟩
      · rfl
      · rcases member same listed with old | rfl
        · exact tidy.single one other room second client there before' old listed'
        · exact absurd listed' (tidy.unlisted before')
      · rcases member same' listed' with old | rfl
        · exact tidy.single one other first room client before there listed old
        · exact absurd listed (tidy.unlisted before)
      · exact tidy.single one other first second client before before' listed listed'
    · intro other after client role' found listed
      have keeps {row : Client κ ρ μ} (held : s.clients.get client = some row) :
          (s.clients.insert ⟨key, role, [], [], false⟩).get client = some row :=
        Table.get_insert_of_some held _
      rcases row found with ⟨rfl, same⟩ | ⟨_, before⟩
      · rw [same, List.mem_append] at listed
        rcases listed with old | new
        · obtain ⟨registered, held, rest⟩ := tidy.registered other room client role' there old
          exact ⟨registered, keeps held, rest⟩
        · obtain ⟨rfl, rfl⟩ := Prod.mk.inj (List.mem_singleton.mp new)
          exact ⟨_, Table.get_insert_next _ _, rfl, fun one mapping =>
            tidy.apart key one other mapped mapping⟩
      · obtain ⟨registered, held, rest⟩ := tidy.registered other after client role' before listed
        exact ⟨registered, keeps held, rest⟩
    · intro client new found
      rcases Table.get_insert_row found with ⟨rfl, _⟩ | old
      · refine Or.inr ⟨key, id, { room with clients := room.clients ++ [(s.clients.next, role)] },
          mapped, ?_, by simp⟩
        show (s.heap.patch id _).get id = _
        rw [Table.get_patch_self there]
      · rcases tidy.stopped client new old with out | ⟨other, one, before, mapping, present, listed⟩
        · exact Or.inl out
        · by_cases here : one = id
          · rw [here, there] at present
            obtain rfl := Option.some.inj present
            refine Or.inr ⟨key, id, { room with
              clients := room.clients ++ [(s.clients.next, role)] }, mapped, ?_, ?_⟩
            · show (s.heap.patch id _).get id = _
              rw [Table.get_patch_self there]
            · rw [List.map_append]
              exact List.mem_append_left _ listed
          · refine Or.inr ⟨other, one, before, mapping, ?_, listed⟩
            show (s.heap.patch id _).get one = _
            rw [Table.get_patch_of_ne here, present]
    · intro client new found message told
      rcases Table.get_insert_row found with ⟨_, rfl⟩ | old
      · cases told
      · exact tidy.meant client new old message told

/-- Nothing but the calls in progress changes, and who has a subscription. -/
theorem Tidy.calls (tidy : Tidy rules s) {after : Rooms κ ρ μ} (rooms : after.rooms = s.rooms)
    (heap : after.heap = s.heap) (clients : after.clients = s.clients)
    (runners : after.runners = s.runners) (ownership : Ownership after) : Tidy rules after := by
  obtain ⟨_, _, _, subscriptions, joining, _, closing⟩ := after
  dsimp only at rooms heap clients runners
  subst rooms heap clients runners
  exact ⟨tidy.filled, tidy.apart, tidy.distinct, tidy.single, tidy.registered, tidy.stopped,
    tidy.meant, tidy.delivers, ownership⟩

theorem busSubscribe_tidy (tidy : Tidy rules s) {call : Joining κ ρ} {one : Nat}
    (calls : s.joining.get one = some call) (ok : Bool) :
    Tidy rules (s.busSubscribe one ok call) := by
  unfold busSubscribe
  split
  · exact tidy
  · rename_i fresh
    split
    · have new (subscription : SubscriptionId) (owner : Owner) :
          ({ s with
            subscriptions := s.subscriptions.insert ⟨call.key, false⟩
            joining := s.joining.patch one fun call =>
              { call with subscription := some s.subscriptions.next } } :
            Rooms κ ρ μ).Owns subscription owner ↔ s.Owns subscription owner ∨
              (owner = .joining one ∧ subscription = s.subscriptions.next) := by
        cases owner with
        | room id => simp [Owns]
        | closing id => simp [Owns]
        | joining id =>
            show (∃ call, (s.joining.patch one _).get id = some call ∧ _) ↔ _
            rw [Table.get_patch]
            by_cases here : id = one
            · subst here
              simp [Owns, calls, fresh, eq_comm]
            · simp [Owns, here]
      refine tidy.calls rfl rfl rfl rfl ⟨?_, ?_, ?_⟩
      · intro subscription owner owns
        rcases (new subscription owner).mp owns with before | ⟨_, rfl⟩
        · obtain ⟨row, found, opened⟩ := tidy.ownership.opened subscription owner before
          exact ⟨row, Table.get_insert_of_some found _, opened⟩
        · exact ⟨_, Table.get_insert_next _ _, rfl⟩
      · intro subscription row found opened
        rcases Table.get_insert_row found with ⟨rfl, _⟩ | old
        · exact ⟨.joining one, (new _ _).mpr (Or.inr ⟨rfl, rfl⟩)⟩
        · obtain ⟨owner, before⟩ := tidy.ownership.owned subscription row old opened
          exact ⟨owner, (new _ _).mpr (Or.inl before)⟩
      · have unused {owner : Owner} : ¬ s.Owns s.subscriptions.next owner := by
          intro owns
          obtain ⟨_, found, _⟩ := tidy.ownership.opened _ owner owns
          rw [Table.get_next] at found
          cases found
        intro subscription owner other first second
        rcases (new _ _).mp first with before | ⟨rfl, rfl⟩
        · rcases (new _ _).mp second with before' | ⟨_, rfl⟩
          · exact tidy.ownership.alone subscription owner other before before'
          · exact absurd before unused
        · rcases (new _ _).mp second with before' | ⟨rfl, _⟩
          · exact absurd before' unused
          · rfl
    · refine tidy.calls rfl rfl rfl rfl (tidy.ownership.same rfl fun subscription owner => ?_)
      cases owner with
      | room id => exact Iff.rfl
      | closing id => exact Iff.rfl
      | joining id =>
          show (∃ call, (s.joining.delete one).get id = some call ∧ _) ↔ _
          rw [Table.get_delete]
          by_cases here : id = one
          · subst here
            simp [Owns, calls, fresh]
          · simp [Owns, here]

theorem closeSubscription_tidy (tidy : Tidy rules s) {one : Nat} {subscription : SubscriptionId}
    (calls : s.closing.get one = some subscription) :
    Tidy rules (s.closeSubscription one subscription) := by
  have owns (other : SubscriptionId) (owner : Owner) :
      (s.closeSubscription one subscription).Owns other owner ↔
        owner ≠ .closing one ∧ s.Owns other owner := by
    cases owner with
    | room id => simp [Owns, closeSubscription]
    | joining id => simp [Owns, closeSubscription]
    | closing id =>
        show (s.closing.delete one).get id = some other ↔ _
        rw [Table.get_delete]
        by_cases here : id = one <;> simp [Owns, here]
  have holds : s.Owns subscription (.closing one) := calls
  have others {other : SubscriptionId} {owner : Owner} (elsewhere : owner ≠ .closing one)
      (before : s.Owns other owner) : other ≠ subscription := by
    rintro rfl
    exact elsewhere (tidy.ownership.alone other owner _ before holds)
  refine tidy.calls rfl rfl rfl rfl ⟨?_, ?_, ?_⟩
  · intro other owner after
    obtain ⟨elsewhere, before⟩ := (owns other owner).mp after
    obtain ⟨row, found, opened⟩ := tidy.ownership.opened other owner before
    refine ⟨row, ?_, opened⟩
    show (s.subscriptions.patch subscription _).get other = _
    rw [Table.get_patch_of_ne (others elsewhere before), found]
  · intro other row found opened
    have found : (s.subscriptions.patch subscription fun row => { row with closed := true }).get
      other = some row := found
    rw [Table.get_patch] at found
    split at found
    · obtain ⟨_, _, rfl⟩ := Option.map_eq_some_iff.mp found
      cases opened
    · rename_i elsewhere
      obtain ⟨owner, before⟩ := tidy.ownership.owned other row found opened
      refine ⟨owner, (owns other owner).mpr ⟨?_, before⟩⟩
      rintro rfl
      exact elsewhere (owner_one before holds)
  · intro other owner owner' first second
    exact tidy.ownership.alone other owner owner' ((owns _ _).mp first).2 ((owns _ _).mp second).2

theorem subscribe_tidy (tidy : Tidy rules s) (key : κ) (role : ρ) :
    Tidy rules (s.subscribe rules key role) := by
  unfold subscribe
  cases mapped : s.rooms key with
  | none =>
      refine tidy.calls rfl rfl rfl rfl (tidy.ownership.same rfl fun subscription owner => ?_)
      cases owner with
      | room id => exact Iff.rfl
      | closing id => exact Iff.rfl
      | joining id =>
          constructor
          · intro ⟨call, found, same⟩
            rcases Table.get_insert_row found with ⟨_, rfl⟩ | old
            · cases same
            · exact ⟨call, old, same⟩
          · intro ⟨call, found, same⟩
            exact ⟨call, Table.get_insert_of_some found _, same⟩
  | some id =>
      dsimp only
      cases added : s.addClientLocked rules id key role with
      | none => exact tidy
      | some after => exact addClientLocked_tidy tidy mapped role added

/-- A `Subscribe` that finds a room in the map closes its own subscription. -/
theorem loses_tidy (tidy : Tidy rules s) {call : Joining κ ρ} {one : Nat}
    {subscription : SubscriptionId} (calls : s.joining.get one = some call)
    (same : call.subscription = some subscription) :
    Tidy rules { s with
      joining := s.joining.delete one
      closing := s.closing.insert subscription } := by
  have gives : s.Owns subscription (.joining one) := ⟨call, calls, same⟩
  refine tidy.calls rfl rfl rfl rfl (tidy.ownership.transfer (.closing s.closing.next)
    gives rfl fun other owner => ?_)
  cases owner with
  | room id => simp [Owns]
  | joining id =>
      show (∃ call, (s.joining.delete one).get id = some call ∧ _) ↔ _
      rw [Table.get_delete]
      by_cases here : id = one <;> simp [Owns, here]
  | closing id =>
      show (s.closing.insert subscription).get id = some other ↔ _
      rw [Table.get_insert]
      by_cases here : id = s.closing.next
      · rw [if_pos here, here]
        simp [Owns, Table.get_next, eq_comm]
      · rw [if_neg here]
        simp [Owns, here]

variable [DecidableEq κ]

/-- A subscription that is displaced is with the call that closes it. -/
theorem owns_displaced (left : List (ClientId × ρ)) (clients : Table (Client κ ρ μ))
    (tidy : Tidy rules s) (mapped : s.rooms key = some id)
    (there : s.heap.get id = some room) (subscription : SubscriptionId) (owner : Owner) :
    (({ s with heap := s.heap.patch id fun room => { room with clients := left }, clients } :
      Rooms κ ρ μ).displace key room.subscription).Owns subscription owner ↔
      (owner ≠ .room id ∧ s.Owns subscription owner) ∨
        (owner = .closing s.closing.next ∧ subscription = room.subscription) := by
  cases owner with
  | room one =>
      simp only [reduceCtorEq, false_and, or_false, ne_eq, Owner.room.injEq]
      constructor
      · intro ⟨other, after, mapping, found, same⟩
        have mapping : Function.update s.rooms key none other = some one := mapping
        by_cases here : other = key
        · rw [here, Function.update_self] at mapping
          cases mapping
        · rw [Function.update_of_ne here] at mapping
          refine ⟨fun same => ?_, (owns_kept left clients there).mp
            ⟨other, after, mapping, found, same⟩⟩
          rw [same] at mapping
          exact here (tidy.apart other key id mapping mapped)
      · intro ⟨elsewhere, owns⟩
        obtain ⟨other, after, mapping, found, same⟩ := (owns_kept left clients there).mpr owns
        refine ⟨other, after, ?_, found, same⟩
        show Function.update s.rooms key none other = some one
        rw [Function.update_of_ne]
        · exact mapping
        · intro here
          have mapping : s.rooms other = some one := mapping
          rw [here, mapped] at mapping
          exact elsewhere (Option.some.inj mapping).symm
  | joining one => simp [Owns, displace]
  | closing one =>
      show (s.closing.insert room.subscription).get one = some subscription ↔ _
      rw [Table.get_insert]
      by_cases here : one = s.closing.next
      · rw [if_pos here, here]
        constructor
        · intro same
          exact Or.inr ⟨rfl, (Option.some.inj same).symm⟩
        · rintro (⟨_, owns⟩ | ⟨_, rfl⟩)
          · have owns : s.closing.get s.closing.next = some subscription := owns
            rw [Table.get_next] at owns
            cases owns
          · rfl
      · rw [if_neg here]
        simp [Owns, here]

theorem Tidy.displaces (tidy : Tidy rules s) (mapped : s.rooms key = some id)
    (there : s.heap.get id = some room) (stays : List.Sublist left room.clients)
    (lives : Table.Follow (Lives rules) (fun _ => False) s.clients clients)
    (stopped : ∀ client row, clients.get client = some row →
      client ∈ room.clients.map Prod.fst → row.stopped = true) :
    Tidy rules (({ s with
      heap := s.heap.patch id fun room => { room with clients := left }, clients } :
      Rooms κ ρ μ).displace key room.subscription) := by
  have holder : s.Owns room.subscription (.room id) := ⟨key, room, mapped, there, rfl⟩
  refine tidy.sheds there stays lives (Function.update s.rooms key none)
    (s.closing.insert room.subscription) ?_ ?_ ?_ ?_ rfl
    (tidy.ownership.transfer (.closing s.closing.next) holder rfl (owns_displaced left clients tidy mapped there))
  · intro other one mapping
    by_cases here : other = key
    · rw [here, Function.update_self] at mapping
      cases mapping
    · rw [Function.update_of_ne here] at mapping
      exact mapping
  · intro other one mapping here
    by_cases same : other = key
    · rw [same, Function.update_self] at mapping
      cases mapping
    · rw [Function.update_of_ne same, here] at mapping
      exact absurd (tidy.apart other key id mapping mapped) same
  · exact fun client row found member => Or.inl (stopped client row found member)
  · intro other one mapping elsewhere
    rw [Function.update_of_ne]
    · exact mapping
    · intro here
      rw [here, mapped] at mapping
      exact elsewhere (Option.some.inj mapping).symm

/-- Clients that leave a room are stopped, and the last one takes it out of the map. -/
theorem Tidy.keep (tidy : Tidy rules s) (mapped : s.rooms key = some id)
    (there : s.heap.get id = some room) (stays : List.Sublist left room.clients)
    (lives : Table.Follow (Lives rules) (fun _ => False) s.clients clients)
    (stopped : ∀ client row, clients.get client = some row →
      client ∈ room.clients.map Prod.fst → row.stopped = true ∨ client ∈ left.map Prod.fst) :
    Tidy rules (s.keep key id room left clients) := by
  unfold Rooms.keep
  cases gone : left.isEmpty with
  | true =>
      rw [List.isEmpty_iff] at gone
      refine tidy.displaces mapped there stays lives fun client row found member => ?_
      rcases stopped client row found member with out | staying
      · exact out
      · rw [gone] at staying
        cases staying
  | false =>
      have some_left : left ≠ [] := by
        intro nothing
        rw [nothing] at gone
        cases gone
      refine tidy.sheds there stays lives s.rooms s.closing
        (fun _ _ mapping => mapping) (fun _ _ _ _ => some_left) ?_ (fun _ _ mapping _ => mapping)
        rfl (tidy.ownership.same rfl fun _ _ => owns_kept left clients there)
      intro client row found member
      rcases stopped client row found member with out | staying
      · exact Or.inl out
      · exact Or.inr ⟨staying, key, mapped⟩

/-! ### Each lock section -/

variable {message : μ}

theorem unsubscribe_tidy (tidy : Tidy rules s) (key : κ) (client : ClientId) :
    Tidy rules (s.unsubscribe rules key client) := by
  unfold unsubscribe
  cases mapped : s.rooms key with
  | none => exact tidy
  | some id =>
      obtain ⟨room, there, _⟩ := tidy.filled key id mapped
      simp only [there]
      split
      · exact tidy
      · refine tidy.keep mapped there (List.filter_sublist) ?_ ?_
        · exact .patch (Lives.refl rules) fun row _ => ⟨rfl, rfl, fun _ => rfl, fun _ => Or.inl⟩
        · intro other row found member
          rw [Table.get_patch] at found
          split at found
          · obtain ⟨_, _, rfl⟩ := Option.map_eq_some_iff.mp found
            exact Or.inl rfl
          · rename_i elsewhere
            obtain ⟨entry, listed, rfl⟩ := List.mem_map.mp member
            refine Or.inr (List.mem_map.mpr ⟨entry, List.mem_filter.mpr ⟨listed, ?_⟩, rfl⟩)
            exact bne_iff_ne.mpr elsewhere

/-- A message goes to the clients it is for, and those too slow for it are dropped. -/
theorem broadcast_tidy (tidy : Tidy rules s) (here : rules.keyOf message = key) (id : RoomId) :
    Tidy rules (s.broadcast rules key id message) := by
  unfold broadcast
  by_cases mapped : s.rooms key = some id
  · rw [if_neg (not_not_intro mapped)]
    obtain ⟨room, there, _⟩ := tidy.filled key id mapped
    simp only [there]
    have apart := tidy.distinct id room there
    refine tidy.keep mapped there List.filter_sublist ?_ ?_
    · refine .foldl_patch (Lives.refl rules) apart s.clients fun entry member row found => ?_
      obtain ⟨registered, held, role, keys⟩ := tidy.registered id room entry.1 entry.2 there member
      rw [found] at held
      obtain rfl := Option.some.inj held
      rw [← role]
      exact offer_lives entry.1 row (here.trans (keys key mapped).symm)
    · intro client row found member
      obtain ⟨entry, listed, rfl⟩ := List.mem_map.mp member
      rw [Table.get_foldl_patch apart listed] at found
      obtain ⟨before, held, rfl⟩ := Option.map_eq_some_iff.mp found
      unfold offer
      by_cases wanted : rules.wants entry.2 message = true
      · rw [if_pos wanted]
        by_cases fits : accepts rules before = true
        · refine Or.inr (List.mem_map.mpr ⟨entry, List.mem_filter.mpr ⟨listed, ?_⟩, rfl⟩)
          rw [held, Option.any_some, fits, Bool.or_true]
        · rw [if_neg fits]
          exact Or.inl rfl
      · refine Or.inr (List.mem_map.mpr ⟨entry, List.mem_filter.mpr ⟨listed, ?_⟩, rfl⟩)
        rw [Bool.not_eq_true] at wanted
        rw [wanted]
        rfl
  · rw [if_pos mapped]
    exact tidy

theorem closeRoom_tidy (tidy : Tidy rules s) (key : κ) (id : RoomId) :
    Tidy rules (s.closeRoom key id) := by
  unfold closeRoom
  by_cases mapped : s.rooms key = some id
  · rw [if_neg (not_not_intro mapped)]
    obtain ⟨room, there, _⟩ := tidy.filled key id mapped
    simp only [there]
    have apart := tidy.distinct id room there
    have same : (s.heap.patch id fun other => { other with clients := room.clients }) = s.heap := by
      refine Table.patch_eq_self fun other found => ?_
      rw [there] at found
      obtain rfl := Option.some.inj found
      rfl
    rw [← same]
    refine tidy.displaces mapped there (List.Sublist.refl _) ?_ ?_
    · exact .foldl_patch (Lives.refl rules) apart s.clients fun entry _ row _ =>
        ⟨rfl, rfl, fun _ => rfl, fun _ => Or.inl⟩
    · intro client row found member
      obtain ⟨entry, listed, rfl⟩ := List.mem_map.mp member
      rw [Table.get_foldl_patch apart listed] at found
      obtain ⟨_, _, rfl⟩ := Option.map_eq_some_iff.mp found
      rfl
  · rw [if_pos mapped]
    exact tidy

/-- A `Subscribe` that finds none makes the room, with its client in it. -/
theorem creates_tidy (tidy : Tidy rules s) (capacity : 1 ≤ rules.maxClients) {call : Joining κ ρ}
    {one : Nat} {subscription : SubscriptionId} (calls : s.joining.get one = some call)
    (same : call.subscription = some subscription) (unmapped : s.rooms call.key = none) :
    Tidy rules { s with
      rooms := Function.update s.rooms call.key (some s.heap.next)
      heap := s.heap.insert ⟨subscription, [(s.clients.next, call.role)]⟩
      clients := s.clients.insert ⟨call.key, call.role, [], [], false⟩
      joining := s.joining.delete one
      runners := s.runners.insert ⟨call.key, s.heap.next, .waiting⟩ } := by
  have mapped {key : κ} {id : RoomId}
      (mapping : Function.update s.rooms call.key (some s.heap.next) key = some id) :
      (key = call.key ∧ id = s.heap.next) ∨
        (key ≠ call.key ∧ s.rooms key = some id ∧ id ≠ s.heap.next) := by
    by_cases here : key = call.key
    · rw [here, Function.update_self] at mapping
      exact Or.inl ⟨here, (Option.some.inj mapping).symm⟩
    · rw [Function.update_of_ne here] at mapping
      obtain ⟨_, there, _⟩ := tidy.filled key id mapping
      exact Or.inr ⟨here, mapping, Table.ne_next there⟩
  have stays {key : κ} {id : RoomId} (mapping : s.rooms key = some id) :
      Function.update s.rooms call.key (some s.heap.next) key = some id := by
    rw [Function.update_of_ne]
    · exact mapping
    · intro here
      rw [here, unmapped] at mapping
      cases mapping
  have keeps {client : ClientId} {row : Client κ ρ μ}
      (held : s.clients.get client = some row) :
      (s.clients.insert ⟨call.key, call.role, [], [], false⟩).get client = some row :=
    Table.get_insert_of_some held _
  have gives : s.Owns subscription (.joining one) := ⟨call, calls, same⟩
  refine ⟨?_, ?_, ?_, ?_, ?_, ?_, ?_, ?_,
    tidy.ownership.transfer (.room s.heap.next) gives rfl fun other owner => ?_⟩
  · intro key id mapping
    rcases mapped mapping with ⟨_, rfl⟩ | ⟨_, before, _⟩
    · exact ⟨_, Table.get_insert_next _ _, Nat.le_refl 1, capacity⟩
    · obtain ⟨room, there, rest⟩ := tidy.filled key id before
      exact ⟨room, Table.get_insert_of_some there _, rest⟩
  · intro key other id first second
    rcases mapped first with ⟨here, rfl⟩ | ⟨_, before, old⟩ <;>
      rcases mapped second with ⟨here', same'⟩ | ⟨_, before', old'⟩
    · rw [here, here']
    · exact absurd rfl old'
    · exact absurd same' old
    · exact tidy.apart key other id before before'
  · intro id room found
    rcases Table.get_insert_row found with ⟨_, rfl⟩ | old
    · exact List.nodup_singleton _
    · exact tidy.distinct id room old
  · intro id other room room' client found found' member member'
    rcases Table.get_insert_row found with ⟨rfl, rfl⟩ | old <;>
      rcases Table.get_insert_row found' with ⟨rfl, rfl⟩ | old'
    · rfl
    · rw [List.mem_singleton.mp member] at member'
      exact absurd member' (tidy.unlisted old')
    · rw [List.mem_singleton.mp member'] at member
      exact absurd member (tidy.unlisted old)
    · exact tidy.single id other room room' client old old' member member'
  · intro id room client role found member
    rcases Table.get_insert_row found with ⟨rfl, rfl⟩ | old
    · obtain ⟨rfl, rfl⟩ := Prod.mk.inj (List.mem_singleton.mp member)
      refine ⟨_, Table.get_insert_next _ _, rfl, fun key mapping => ?_⟩
      rcases mapped mapping with ⟨here, _⟩ | ⟨_, _, old⟩
      · exact here.symm
      · exact absurd rfl old
    · obtain ⟨row, held, role', keys⟩ := tidy.registered id room client role old member
      refine ⟨row, keeps held, role', fun key mapping => ?_⟩
      rcases mapped mapping with ⟨_, new⟩ | ⟨_, before, _⟩
      · exact absurd new (Table.ne_next old)
      · exact keys key before
  · intro client row found
    rcases Table.get_insert_row found with ⟨rfl, _⟩ | old
    · exact Or.inr ⟨call.key, s.heap.next, _, Function.update_self .., Table.get_insert_next _ _,
        by simp⟩
    · rcases tidy.stopped client row old with out | ⟨key, id, room, mapping, there, member⟩
      · exact Or.inl out
      · exact Or.inr ⟨key, id, room, stays mapping, Table.get_insert_of_some there _, member⟩
  · intro client row found message told
    rcases Table.get_insert_row found with ⟨_, rfl⟩ | old
    · cases told
    · exact tidy.meant client row old message told
  · intro id runner message found delivers
    rcases Table.get_insert_row found with ⟨_, rfl⟩ | old
    · cases delivers
    · exact tidy.delivers id runner message old delivers
  · cases owner with
    | room id =>
        constructor
        · intro ⟨key, room, mapping, found, has⟩
          rcases mapped mapping with ⟨_, rfl⟩ | ⟨_, before, old⟩
          · have found : (s.heap.insert _).get s.heap.next = some room := found
            rw [Table.get_insert_next] at found
            obtain rfl := Option.some.inj found
            exact Or.inr ⟨rfl, has.symm⟩
          · refine Or.inl ⟨nofun, key, room, before, ?_, has⟩
            have found : (s.heap.insert _).get id = some room := found
            rw [Table.get_insert, if_neg old] at found
            exact found
        · rintro (⟨_, key, room, mapping, there, has⟩ | ⟨here, rfl⟩)
          · exact ⟨key, room, stays mapping, Table.get_insert_of_some there _, has⟩
          · obtain rfl := Owner.room.inj here
            exact ⟨call.key, _, Function.update_self .., Table.get_insert_next _ _, rfl⟩
    | joining id =>
        show (∃ call, (s.joining.delete one).get id = some call ∧ _) ↔ _
        rw [Table.get_delete]
        by_cases here : id = one <;> simp [Owns, here]
    | closing id => simp [Owns]

theorem insertRoom_tidy (tidy : Tidy rules s) (capacity : 1 ≤ rules.maxClients)
    {call : Joining κ ρ} {one : Nat} (calls : s.joining.get one = some call) :
    Tidy rules (s.insertRoom rules one call) := by
  unfold insertRoom
  cases same : call.subscription with
  | none => exact tidy
  | some subscription =>
      dsimp only
      cases mapped : s.rooms call.key with
      | some existing =>
          have loses := loses_tidy tidy calls same
          dsimp only
          cases added : addClientLocked rules { s with joining := s.joining.delete one } existing
              call.key call.role with
          | none => exact loses
          | some after =>
              refine addClientLocked_tidy loses mapped call.role ?_
              unfold addClientLocked at added ⊢
              split at added
              · cases added
              · rename_i room there
                simp only [there]
                split at added
                · cases added
                · rename_i free
                  obtain rfl := Option.some.inj added
                  rw [if_neg free]
                  rfl
      | none =>
          have free : ¬ rules.maxClients ≤ 0 := Nat.not_le.mpr capacity
          have created := creates_tidy tidy capacity calls same mapped
          simp only [addClientLocked, Table.get_insert_next, List.length_nil, free, if_false,
            Table.patch_insert_next, List.nil_append]
          exact created

theorem take_tidy (tidy : Tidy rules s) (client : ClientId) :
    Tidy rules (s.step rules (.take client)) := by
  have row {other : ClientId} {after : Client κ ρ μ}
      (found : (s.step rules (.take client)).clients.get other = some after) :
      ∃ before, s.clients.get other = some before ∧ after.key = before.key ∧
        after.role = before.role ∧ after.stopped = before.stopped ∧
        after.received ++ after.messages = before.received ++ before.messages := by
    simp only [step] at found
    rw [Table.get_patch] at found
    split at found
    · rename_i here
      obtain ⟨before, present, rfl⟩ := Option.map_eq_some_iff.mp found
      refine ⟨before, here ▸ present, rfl, rfl, rfl, ?_⟩
      show (before.received ++ before.messages.take 1) ++ before.messages.tail = _
      rw [List.append_assoc, ← List.drop_one, List.take_append_drop]
    · exact ⟨after, found, rfl, rfl, rfl, rfl⟩
  refine ⟨tidy.filled, tidy.apart, tidy.distinct, tidy.single, ?_, ?_, ?_, tidy.delivers,
    tidy.ownership.same rfl fun _ owner => by cases owner <;> exact Iff.rfl⟩
  · intro id room other role there member
    obtain ⟨before, held, same, keys⟩ := tidy.registered id room other role there member
    simp only [step]
    rw [Table.get_patch, held]
    split
    · exact ⟨_, rfl, same, keys⟩
    · exact ⟨before, rfl, same, keys⟩
  · intro other after found
    obtain ⟨before, held, _, _, same, _⟩ := row found
    rw [same]
    exact tidy.stopped other before held
  · intro other after found message told
    obtain ⟨before, held, key, role, _, same⟩ := row found
    rw [same] at told
    rw [Meant, key, role]
    exact tidy.meant other before held message told

/-- One step of any call keeps the rooms tidy. -/
theorem step_tidy (capacity : 1 ≤ rules.maxClients) (tidy : Tidy rules s)
    (input : RoomInput κ ρ μ) : Tidy rules (s.step rules input) := by
  cases input with
  | subscribe key role => exact subscribe_tidy tidy key role
  | busSubscribe one ok =>
      cases calls : s.joining.get one with
      | none =>
          rw [step, calls]
          exact tidy
      | some call =>
          rw [step, calls]
          exact busSubscribe_tidy tidy calls ok
  | insertRoom one =>
      cases calls : s.joining.get one with
      | none =>
          rw [step, calls]
          exact tidy
      | some call =>
          rw [step, calls]
          exact insertRoom_tidy tidy capacity calls
  | unsubscribe key client => exact unsubscribe_tidy tidy key client
  | receive one message =>
      cases runs : s.runners.get one with
      | none =>
          rw [step, runs]
          exact tidy
      | some runner =>
          rw [step, runs]
          show Tidy rules (s.receive rules one message runner)
          unfold receive
          split
          · split
            · exact tidy
            · rename_i same
              refine tidy.goOn one fun row other found delivers => ?_
              rw [runs] at found
              obtain rfl := Option.some.inj found
              obtain rfl := Phase.delivering.inj delivers
              exact not_not.mp same
          · exact tidy
  | broadcast one =>
      cases runs : s.runners.get one with
      | none =>
          rw [step, runs]
          exact tidy
      | some runner =>
          rw [step, runs]
          show Tidy rules (s.broadcasts rules one runner)
          unfold broadcasts
          split
          · rename_i message delivers
            have sent := broadcast_tidy tidy (tidy.delivers one runner message runs delivers)
              runner.room
            dsimp only
            split
            · exact sent.goOn one nofun
            · exact sent.goOn one nofun
          · exact tidy
  | finish one =>
      cases runs : s.runners.get one with
      | none =>
          rw [step, runs]
          exact tidy
      | some runner =>
          rw [step, runs]
          show Tidy rules (s.finish one runner)
          unfold finish
          split
          · exact tidy.goOn one nofun
          · exact tidy
  | closeRoom one =>
      cases runs : s.runners.get one with
      | none =>
          rw [step, runs]
          exact tidy
      | some runner =>
          rw [step, runs]
          show Tidy rules (s.closes one runner)
          unfold closes
          split
          · exact (closeRoom_tidy tidy runner.key runner.room).goOn one nofun
          · exact tidy
  | closeSubscription one =>
      cases calls : s.closing.get one with
      | none =>
          rw [step, calls]
          exact tidy
      | some subscription =>
          rw [step, calls]
          exact closeSubscription_tidy tidy calls
  | take client => exact take_tidy tidy client

/-! ### Subscriptions that are displaced -/

theorem keep_subscriptions (s : Rooms κ ρ μ) (key : κ) (id : RoomId) (room : Room ρ)
    (left : List (ClientId × ρ)) (clients : Table (Client κ ρ μ)) :
    (s.keep key id room left clients).subscriptions = s.subscriptions := by
  unfold Rooms.keep
  dsimp only
  split <;> rfl

omit [DecidableEq κ] in
theorem addClient_subscriptions (rules : Rules κ ρ μ) (s : Rooms κ ρ μ) (id : RoomId) (key : κ)
    (role : ρ) : ((s.addClientLocked rules id key role).getD s).subscriptions =
      s.subscriptions := by
  unfold addClientLocked
  split
  · rfl
  · split <;> rfl

omit [DecidableEq κ] in
theorem subscribe_subscriptions (rules : Rules κ ρ μ) (s : Rooms κ ρ μ) (key : κ) (role : ρ) :
    (s.subscribe rules key role).subscriptions = s.subscriptions := by
  unfold subscribe
  split
  · exact addClient_subscriptions rules s _ key role
  · rfl

omit [DecidableEq κ] in
/-- A subscription of the bus is a new one. -/
theorem busSubscribe_subscriptions (s : Rooms κ ρ μ) (one : Nat) (ok : Bool) (call : Joining κ ρ)
    {subscription : SubscriptionId} {row : Subscription κ}
    (found : s.subscriptions.get subscription = some row) :
    (s.busSubscribe one ok call).subscriptions.get subscription = some row := by
  unfold busSubscribe
  split
  · exact found
  · split
    · exact Table.get_insert_of_some found _
    · exact found

theorem insertRoom_subscriptions (rules : Rules κ ρ μ) (s : Rooms κ ρ μ) (one : Nat)
    (call : Joining κ ρ) : (s.insertRoom rules one call).subscriptions = s.subscriptions := by
  unfold insertRoom
  split
  · rfl
  · dsimp only
    split
    · exact addClient_subscriptions rules { s with joining := s.joining.delete one } _ _ _
    · split
      · rename_i added
        unfold addClientLocked at added
        split at added
        · cases added
        · split at added
          · cases added
          · obtain rfl := Option.some.inj added
            rfl
      · rfl

theorem unsubscribe_subscriptions (rules : Rules κ ρ μ) (s : Rooms κ ρ μ) (key : κ)
    (client : ClientId) : (s.unsubscribe rules key client).subscriptions = s.subscriptions := by
  unfold unsubscribe
  split
  · rfl
  · split
    · rfl
    · split
      · rfl
      · exact keep_subscriptions ..

theorem receive_subscriptions (rules : Rules κ ρ μ) (s : Rooms κ ρ μ) (one : Nat) (message : μ)
    (runner : Runner κ μ) : (s.receive rules one message runner).subscriptions =
      s.subscriptions := by
  unfold receive
  split
  · split <;> rfl
  · rfl

theorem broadcasts_subscriptions (rules : Rules κ ρ μ) (s : Rooms κ ρ μ) (one : Nat)
    (runner : Runner κ μ) : (s.broadcasts rules one runner).subscriptions = s.subscriptions := by
  have sends (message : μ) :
      (s.broadcast rules runner.key runner.room message).subscriptions = s.subscriptions := by
    unfold broadcast
    split
    · rfl
    · split
      · rfl
      · exact keep_subscriptions ..
  unfold broadcasts
  split
  · dsimp only
    split <;> exact sends _
  · rfl

omit [DecidableEq κ] in
theorem finish_subscriptions (s : Rooms κ ρ μ) (one : Nat) (runner : Runner κ μ) :
    (s.finish one runner).subscriptions = s.subscriptions := by
  unfold finish
  split <;> rfl

theorem closes_subscriptions (s : Rooms κ ρ μ) (one : Nat)
    (runner : Runner κ μ) : (s.closes one runner).subscriptions = s.subscriptions := by
  unfold closes
  split
  · show (s.closeRoom runner.key runner.room).subscriptions = _
    unfold closeRoom
    split
    · rfl
    · split <;> rfl
  · rfl

/-- Only the call that has a subscription to close does so. -/
theorem step_opened (rules : Rules κ ρ μ) {subscription : SubscriptionId} {row : Subscription κ}
    (found : s.subscriptions.get subscription = some row) (input : RoomInput κ ρ μ) :
    (s.step rules input).subscriptions.get subscription = some row ∨
      ∃ one, input = .closeSubscription one ∧ s.closing.get one = some subscription := by
  have same {after : Rooms κ ρ μ} (stays : after.subscriptions = s.subscriptions) :
      after.subscriptions.get subscription = some row := by
    rw [stays]
    exact found
  cases input with
  | subscribe key role => exact Or.inl (same (subscribe_subscriptions rules s key role))
  | busSubscribe one ok =>
      left
      simp only [step]
      cases s.joining.get one with
      | none => exact found
      | some call => exact busSubscribe_subscriptions s one ok call found
  | insertRoom one =>
      left
      simp only [step]
      cases s.joining.get one with
      | none => exact found
      | some call => exact same (insertRoom_subscriptions rules s one call)
  | unsubscribe key client => exact Or.inl (same (unsubscribe_subscriptions rules s key client))
  | receive one message =>
      left
      simp only [step]
      cases s.runners.get one with
      | none => exact found
      | some runner => exact same (receive_subscriptions rules s one message runner)
  | broadcast one =>
      left
      simp only [step]
      cases s.runners.get one with
      | none => exact found
      | some runner => exact same (broadcasts_subscriptions rules s one runner)
  | finish one =>
      left
      simp only [step]
      cases s.runners.get one with
      | none => exact found
      | some runner => exact same (finish_subscriptions s one runner)
  | closeRoom one =>
      left
      simp only [step]
      cases s.runners.get one with
      | none => exact found
      | some runner => exact same (closes_subscriptions s one runner)
  | closeSubscription one =>
      simp only [step]
      cases calls : s.closing.get one with
      | none => exact Or.inl found
      | some other =>
          by_cases here : subscription = other
          · exact Or.inr ⟨one, rfl, by rw [calls, here]⟩
          · left
            show (s.subscriptions.patch other _).get subscription = some row
            rw [Table.get_patch_of_ne here, found]
  | take client => exact Or.inl found

/-- A subscription of a room in the map, or of a `Subscribe` that is to try for one. -/
def Held (s : Rooms κ ρ μ) (subscription : SubscriptionId) : Prop :=
  ∃ id, s.Owns subscription (.room id) ∨ s.Owns subscription (.joining id)

/-- Rooms are neither leaked nor shared. -/
structure Sealed (rules : Rules κ ρ μ) (s : Rooms κ ρ μ) : Prop where
  filled : ∀ key id, s.rooms key = some id → ∃ room subscription, s.heap.get id = some room ∧
    1 ≤ room.clients.length ∧ room.clients.length ≤ rules.maxClients ∧
    s.subscriptions.get room.subscription = some subscription ∧ subscription.closed = false
  single : ∀ key id room key' id' room' client, s.rooms key = some id → s.heap.get id = some room →
    s.rooms key' = some id' → s.heap.get id' = some room' →
    client ∈ room.clients.map Prod.fst → client ∈ room'.clients.map Prod.fst →
    key = key' ∧ id = id'
  stopped : ∀ client row, s.clients.get client = some row → ¬ s.Inside client → row.stopped = true
  unmapped : ∀ subscription row, s.subscriptions.get subscription = some row →
    row.closed = false → s.Held subscription ∨ ∃ id, s.closing.get id = some subscription
  displaced : ∀ input subscription, s.Held subscription → ¬ (s.step rules input).Held subscription →
    ∃ id, (s.step rules input).closing.get id = some subscription ∧
      s.closing.get id ≠ some subscription
  closes : ∀ id subscription, s.closing.get id = some subscription → ∃ row,
    (s.step rules (.closeSubscription id)).subscriptions.get subscription = some row ∧
      row.closed = true
  delivered : ∀ client row, s.clients.get client = some row →
    ∀ message ∈ row.received ++ row.messages, Meant rules row message

theorem Tidy.displaced (tidy : Tidy rules s) (capacity : 1 ≤ rules.maxClients)
    (input : RoomInput κ ρ μ) {subscription : SubscriptionId} (held : s.Held subscription)
    (lost : ¬ (s.step rules input).Held subscription) :
    ∃ id, (s.step rules input).closing.get id = some subscription ∧
      s.closing.get id ≠ some subscription := by
  obtain ⟨owner, holds, apart⟩ : ∃ owner, s.Owns subscription owner ∧
      ∀ id, owner ≠ .closing id := by
    obtain ⟨id, holds | holds⟩ := held
    · exact ⟨_, holds, nofun⟩
    · exact ⟨_, holds, nofun⟩
  have unclosed (id : Nat) : s.closing.get id ≠ some subscription := by
    intro closing
    exact apart id (tidy.ownership.alone subscription owner (.closing id) holds closing)
  obtain ⟨row, found, opened⟩ := tidy.ownership.opened subscription owner holds
  rcases step_opened rules found input with stays | ⟨one, rfl, closing⟩
  · obtain ⟨owner, after⟩ := (step_tidy capacity tidy input).ownership.owned subscription row stays
      opened
    cases owner with
    | room id => exact absurd ⟨id, Or.inl after⟩ lost
    | joining id => exact absurd ⟨id, Or.inr after⟩ lost
    | closing id => exact ⟨id, after, unclosed id⟩
  · exact absurd closing (unclosed one)

theorem Tidy.sealed (tidy : Tidy rules s) (capacity : 1 ≤ rules.maxClients) : Sealed rules s := by
  refine ⟨?_, ?_, ?_, ?_, fun input subscription => tidy.displaced capacity input, ?_, tidy.meant⟩
  · intro key id mapped
    obtain ⟨room, there, positive, bounded⟩ := tidy.filled key id mapped
    obtain ⟨subscription, found, opened⟩ := tidy.ownership.opened room.subscription (.room id)
      ⟨key, room, mapped, there, rfl⟩
    exact ⟨room, subscription, there, positive, bounded, found, opened⟩
  · intro key id room key' id' room' client mapped there mapped' there' member member'
    have same := tidy.single id id' room room' client there there' member member'
    subst same
    exact ⟨tidy.apart key key' id mapped mapped', rfl⟩
  · intro client row found outside
    exact (tidy.stopped client row found).resolve_right outside
  · intro subscription row found opened
    obtain ⟨owner, owns⟩ := tidy.ownership.owned subscription row found opened
    cases owner with
    | room id => exact Or.inl ⟨id, Or.inl owns⟩
    | joining id => exact Or.inl ⟨id, Or.inr owns⟩
    | closing id => exact Or.inr ⟨id, owns⟩
  · intro id subscription closing
    obtain ⟨row, found, _⟩ := tidy.ownership.opened subscription (.closing id) closing
    refine ⟨{ row with closed := true }, ?_, rfl⟩
    rw [step, closing]
    show (s.subscriptions.patch subscription _).get subscription = _
    rw [Table.get_patch_self found]

end Changes

end Rooms

end Bling.Realtime
