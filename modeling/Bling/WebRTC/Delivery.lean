import Bling.Inbox
import Bling.WebRTC.SignalOrder

set_option autoImplicit false

namespace Bling.WebRTC

open Library

/-! Incoming signals, from the inbox through one socket after another to the manager's handler. -/

/-! ### A participant's end of a call -/

/-- A participant's line: what its sockets have handed to the handler, the socket it has now, the
results on their way to it and the acknowledgements on their way back. -/
structure Line where
  history : History
  socket : Option ConvexSignalSocket
  views : List ConvexSignalSocket.QueryResult
  asks : List (List Nat)
  handled : List Incoming

namespace Line

def empty : Line := ⟨.empty, none, [], [], []⟩

inductive Op where
  /-- Whatever else is asked of the server. -/
  | server (input : Ctx × SignalOp)
  /-- `openSocket`, with what the client knows of the inbox already. -/
  | connect (result : ConvexSignalSocket.QueryResult)
  /-- The server runs the query for the subscription. -/
  | read
  /-- Its oldest result arrives. -/
  | update
  | event (event : ConvexSignalSocket.Event)
  /-- The oldest acknowledgement commits. -/
  | acknowledge (ctx : Ctx)

def incoming (row : Nat × SignalType × Text) : Incoming := (row.1, ⟨row.2.1, row.2.2⟩)

/-- The socket turns; what it hands to the handler and to `signals.ack` is taken on. -/
def on (line : Line) (turn : ConvexSignalSocket → ConvexSignalSocket) : Line :=
  match line.socket with
  | none => line
  | some s =>
    let after := turn s
    { line with
      socket := some after
      asks := line.asks ++ after.acks.drop s.acks.length
      handled := line.handled ++ after.passed.drop s.passed.length }

section Step

variable (parses : Text → Bool) (createdAt : Nat → Time) (userId : Option UserId) (callId : CallId)

def readInbox (s : Signaling) : ConvexSignalSocket.QueryResult :=
  match inbox createdAt s.world.db s.callSignals userId callId with
  | .ok rows => .signals (rows.map incoming)
  | .error _ => .throws

def step (line : Line) : Op → Line
  | .server input => { line with history := line.history.step parses createdAt input }
  | .connect result =>
    -- The manager opens a socket only when it has none.
    if line.socket.any fun s => s.readyState ≠ .closed then line
    else
      { line with
        socket := some (ConvexSignalSocket.new result).attach
        views := []
        handled := line.handled ++ (ConvexSignalSocket.new result).passed }
  | .read => { line with
      views := line.views ++ [readInbox createdAt userId callId line.history.signaling] }
  | .update =>
    match line.views with
    | [] => line
    | view :: rest => { line with views := rest }.on fun s => s.step (.update view)
  | .event event => line.on fun s => s.step event
  | .acknowledge ctx =>
    match line.asks with
    | [] => line
    | ids :: rest => { line with
        history := line.history.step parses createdAt (ctx, .ack userId callId ids)
        asks := rest }

end Step

end Line

/-- What has been sent to the role, in commit order. -/
def sentTo (h : History) (callId : CallId) (role : CallRole) : List Incoming :=
  (h.sent.filter fun x => x.sender = role.other ∧ x.signal.callId = callId).map fun x =>
    (x.id, ⟨x.signal.type, x.signal.payload⟩)

/-! ### What a socket makes of a result -/

namespace ConvexSignalSocket

variable {s : ConvexSignalSocket}

/-- Taking a result, a socket passes on what it hasn't seen. -/
structure Takes (s : ConvexSignalSocket) (fresh : List Incoming) (after : ConvexSignalSocket) :
    Prop where
  passed : after.passed = s.passed ++ fresh
  seen : after.seen = s.seen ++ fresh.map Prod.fst
  unacked : after.unacked = s.unacked ++ fresh.map Prod.fst
  acks : after.acks = s.acks
  attached : after.attached = s.attached

theorem foldl_take (attached : s.attached = true) {signals : List Incoming}
    (apart : (signals.map Prod.fst).Nodup) :
    s.Takes (signals.filter fun x => x.1 ∉ s.seen) (signals.foldl take s) := by
  induction signals generalizing s with
  | nil => exact ⟨by simp, by simp, by simp, rfl, rfl⟩
  | cons signal rest ih =>
      rw [List.map_cons, List.nodup_cons] at apart
      rw [List.foldl_cons]
      by_cases known : signal.1 ∈ s.seen
      · have taken : s.take signal = s := if_pos known
        rw [taken, List.filter_cons_of_neg (by simpa using known)]
        exact ih attached apart.2
      · have taken : s.take signal = { s with
            seen := s.seen ++ [signal.1]
            unacked := s.unacked ++ [signal.1]
            passed := s.passed ++ [signal] } := by
          unfold take
          rw [if_neg known, if_pos attached]
        have others : (rest.filter fun x => x.1 ∉ s.seen ++ [signal.1]) =
            rest.filter fun x => x.1 ∉ s.seen := by
          apply List.filter_congr
          intro x member
          have different : x.1 ≠ signal.1 := by
            intro same
            exact apart.1 (same ▸ List.mem_map_of_mem member)
          simp [different]
        have next := @ih (s.take signal) (by rw [taken]; exact attached) apart.2
        rw [taken] at next ⊢
        dsimp only at next
        rw [others] at next
        rw [List.filter_cons_of_pos (by simpa using known)]
        exact ⟨by rw [next.passed]; simp, by rw [next.seen]; simp, by rw [next.unacked]; simp,
          next.acks, next.attached⟩

theorem receive_takes (attached : s.attached = true) {signals : List Incoming}
    (apart : (signals.map Prod.fst).Nodup) :
    s.Takes (signals.filter fun x => x.1 ∉ s.seen) (s.receive signals) := by
  have taken := foldl_take attached apart
  unfold receive
  dsimp only
  split
  · exact taken
  · exact ⟨taken.passed, taken.seen, taken.unacked, taken.acks, taken.attached⟩

/-! ### What else it does -/

/-- Nothing new is passed on, and what was unacknowledged, and no more, may be acknowledged. -/
structure Quiet (s after : ConvexSignalSocket) : Prop where
  passed : after.passed = s.passed
  seen : after.seen = s.seen
  attached : s.attached = true → after.attached = true
  unacked : ∀ id ∈ after.unacked, id ∈ s.unacked
  kept : ∀ id ∈ s.unacked, id ∈ after.unacked ∨ id ∈ after.acks.flatten
  acks : ∃ more, after.acks = s.acks ++ more ∧ ∀ ids ∈ more, ∀ id ∈ ids, id ∈ s.unacked

theorem Quiet.refl (s : ConvexSignalSocket) : s.Quiet s :=
  ⟨rfl, rfl, id, fun _ => id, fun _ => Or.inl, [], (List.append_nil _).symm,
    fun _ none => by cases none⟩

theorem Quiet.trans {a b c : ConvexSignalSocket} (first : a.Quiet b) (second : b.Quiet c) :
    a.Quiet c := by
  obtain ⟨more, acked, due⟩ := first.acks
  obtain ⟨rest, further, owed⟩ := second.acks
  refine ⟨second.passed.trans first.passed, second.seen.trans first.seen,
    fun attached => second.attached (first.attached attached),
    fun id member => first.unacked id (second.unacked id member), ?_, more ++ rest, ?_, ?_⟩
  · intro id member
    rcases first.kept id member with held | done
    · exact second.kept id held
    · rw [further, List.flatten_append]
      exact Or.inr (List.mem_append_left _ done)
  · rw [further, acked, List.append_assoc]
  · intro ids member
    rcases List.mem_append.mp member with old | new
    · exact due ids old
    · exact fun id named => first.unacked id (owed ids new id named)

/-- What incoming signals have no part in. -/
theorem Quiet.of_same {after : ConvexSignalSocket} (passed : after.passed = s.passed)
    (seen : after.seen = s.seen) (attached : s.attached = true → after.attached = true)
    (unacked : after.unacked = s.unacked) (acks : after.acks = s.acks) : s.Quiet after :=
  ⟨passed, seen, attached, fun id member => unacked ▸ member,
    fun id member => Or.inl (by rw [unacked]; exact member), [],
    acks.trans (List.append_nil _).symm, fun _ none => by cases none⟩

theorem flushIce_quiet (s : ConvexSignalSocket) : s.Quiet s.flushIce := by
  obtain ⟨posts, same, _⟩ := s.flushIce_eq
  rw [same]
  exact .of_same rfl rfl id rfl rfl

theorem flushAcks_quiet (s : ConvexSignalSocket) : s.Quiet s.flushAcks := by
  unfold flushAcks
  dsimp only
  split
  · exact .of_same rfl rfl id rfl rfl
  · refine ⟨rfl, rfl, id, ?_, ?_, [s.unacked], rfl, ?_⟩
    · intro id none
      cases none
    · intro id member
      refine Or.inr ?_
      rw [List.flatten_append]
      exact List.mem_append_right _ (List.mem_flatten.mpr ⟨_, List.mem_singleton_self _, member⟩)
    · intro ids member
      rw [List.mem_singleton.mp member]
      exact fun _ => id

theorem fail_quiet (s : ConvexSignalSocket) : s.Quiet s.fail := by
  unfold fail
  split
  · exact .refl s
  · exact .of_same rfl rfl id rfl rfl

theorem send_quiet (s : ConvexSignalSocket) (signal : Bling.Signal) : s.Quiet (s.send signal) := by
  unfold send
  dsimp only
  split
  · exact .refl s
  · split
    · have held : s.Quiet { s with ice := s.ice ++ [signal] } := .of_same rfl rfl id rfl rfl
      split
      · exact held.trans (flushIce_quiet _)
      · exact .of_same rfl rfl id rfl rfl
    · exact (flushIce_quiet s).trans (.of_same rfl rfl id rfl rfl)

theorem close_quiet (s : ConvexSignalSocket) : s.Quiet s.close := by
  unfold close
  split
  · exact .refl s
  · exact ((flushIce_quiet s).trans (flushAcks_quiet _)).trans (.of_same rfl rfl id rfl rfl)

theorem turn_quiet (s : ConvexSignalSocket) (place : Nat) : s.Quiet (s.turn place) := by
  unfold turn
  split
  · exact .refl s
  · split
    · exact .of_same rfl rfl id rfl rfl
    · exact .refl s

theorem settle_quiet (s : ConvexSignalSocket) (place : Nat) (succeeds : Bool) :
    s.Quiet (s.settle place succeeds) := by
  unfold settle
  split
  · exact .refl s
  · dsimp only
    split
    · split
      · exact .of_same rfl rfl id rfl rfl
      · refine Quiet.trans ?_ (fail_quiet _)
        exact .of_same rfl rfl id rfl rfl
    · exact .refl s

theorem step_quiet (s : ConvexSignalSocket) {event : Event}
    (own : ∀ result, event ≠ .update result) : s.Quiet (s.step event) := by
  cases event with
  | attach => exact .of_same rfl rfl (fun _ => rfl) rfl rfl
  | opened =>
      simp only [step, ConvexSignalSocket.opened]
      split
      · exact .of_same rfl rfl id rfl rfl
      · exact .refl s
  | send signal => exact send_quiet s signal
  | iceTimer =>
      simp only [step]
      split
      · exact flushIce_quiet s
      · exact .refl s
  | ackTimer =>
      simp only [step]
      split
      · exact flushAcks_quiet s
      · exact .refl s
  | turn place => exact turn_quiet s place
  | settle place succeeds => exact settle_quiet s place succeeds
  | update result => exact (own result rfl).elim
  | close => exact close_quiet s

end ConvexSignalSocket

/-! ### Two prefixes of one list -/

/-- What a second prefix has that the first hasn't, put after the first. -/
theorem prefix_catch_up {α : Type} {whole first second : List α} (key : α → Nat)
    (apart : (whole.map key).Nodup) (one : first <+: whole) (other : second <+: whole) :
    first ++ (second.filter fun x => key x ∉ first.map key) <+: whole ∧
      second <+: first ++ (second.filter fun x => key x ∉ first.map key) := by
  have none (xs : List α) (within : ∀ x ∈ xs, x ∈ first) :
      (xs.filter fun x => key x ∉ first.map key) = [] := by
    rw [List.filter_eq_nil_iff]
    intro x member
    simpa using ⟨x, within x member, rfl⟩
  rcases List.prefix_or_prefix_of_prefix one other with ⟨rest, rfl⟩ | before
  · have all : (rest.filter fun x => key x ∉ first.map key) = rest := by
      rw [List.filter_eq_self]
      intro x member
      have split : ((first ++ rest).map key).Nodup := apart.sublist (other.sublist.map key)
      rw [List.map_append, List.nodup_append] at split
      have unlike := split.2.2
      simp only [decide_eq_true_eq]
      intro known
      exact unlike _ known _ (List.mem_map_of_mem member) rfl
    rw [List.filter_append, none first fun _ => id, all, List.nil_append]
    exact ⟨other, List.prefix_refl _⟩
  · rw [none second before.subset, List.append_nil]
    exact ⟨one, before⟩

/-! ### Runs of a line -/

section Runs

variable {parses : Text → Bool} {createdAt : Nat → Time} {userId : Option UserId} {callId : CallId}
  {role : CallRole}

/-- What a step of the line is allowed: the role's signals are acknowledged through the line only,
the inbox is read while the call is open or not at all, and a socket opens with nothing to deliver
yet and after all that was handled before it has been acknowledged. -/
def Line.Orderly (userId : Option UserId) (callId : CallId) (role : CallRole) (line : Line) :
    Line.Op → Prop
  | .server input => ∀ row ∈ acknowledged line.history.signaling input.2,
      ¬ (row.1 = role ∧ row.2.1 = callId)
  | .connect result => (match result with
      | .signals signals => signals = []
      | _ => True) ∧
      ∀ x ∈ line.handled, line.history.acked.contains (role, callId, x.1)
  | .read => (callForParticipant line.history.signaling.world.db userId callId).toOption.all
      fun row => row.2 = role ∧ row.1.status ∈ connectableStatuses
  | .event (.update _) => False
  | _ => True

instance (line : Line) (op : Line.Op) : Decidable (line.Orderly userId callId role op) := by
  unfold Line.Orderly
  split
  · infer_instance
  · refine @instDecidableAnd _ _ ?_ _
    split <;> infer_instance
  · infer_instance
  · infer_instance
  · infer_instance

/-- A result is what had been sent when it was read, less what had been acknowledged: of what has
been handled since, all that earlier sockets have. -/
def ViewOf (log handled : List Incoming) (seen : List Nat) (signals : List Incoming) : Prop :=
  ∃ (known : List Incoming) (gone : List Nat), known <+: log ∧
    signals = known.filter (fun x => x.1 ∉ gone) ∧ (∀ id ∈ gone, id ∈ handled.map Prod.fst) ∧
    ∀ id ∈ handled.map Prod.fst, id ∉ seen → id ∈ gone

/-- What holds of the line's socket. -/
structure Serves (line : Line) (callId : CallId) (role : CallRole) (s : ConvexSignalSocket) :
    Prop where
  attached : s.attached = true
  seen : ∀ id ∈ s.seen, id ∈ line.handled.map Prod.fst
  unacked : ∀ id ∈ s.unacked, id ∈ line.handled.map Prod.fst
  others : ∀ id ∈ line.handled.map Prod.fst, id ∉ s.seen →
    (role, callId, id) ∈ line.history.acked
  views : ∀ signals, .signals signals ∈ line.views →
    ViewOf (sentTo line.history callId role) line.handled s.seen signals

structure Delivered (line : Line) (callId : CallId) (role : CallRole) : Prop where
  posted : Posted line.history
  inOrder : line.handled <+: sentTo line.history callId role
  acked : ∀ id, (role, callId, id) ∈ line.history.acked → id ∈ line.handled.map Prod.fst
  asked : ∀ ids ∈ line.asks, ∀ id ∈ ids, id ∈ line.handled.map Prod.fst
  socket : ∀ s, line.socket = some s → Serves line callId role s

/-- What a socket hasn't seen of a result, nobody has handled. -/
theorem filter_unseen {known handled : List Incoming} {seen gone : List Nat}
    (seenHandled : ∀ id ∈ seen, id ∈ handled.map Prod.fst)
    (old : ∀ id ∈ gone, id ∈ handled.map Prod.fst)
    (covers : ∀ id ∈ handled.map Prod.fst, id ∉ seen → id ∈ gone) :
    ((known.filter fun x => x.1 ∉ gone).filter fun x => x.1 ∉ seen) =
      known.filter fun x => x.1 ∉ handled.map Prod.fst := by
  rw [List.filter_filter]
  apply List.filter_congr
  intro x _
  have same : (x.1 ∉ seen ∧ x.1 ∉ gone) ↔ x.1 ∉ handled.map Prod.fst := by
    constructor
    · intro ⟨unseen, there⟩ taken
      exact there (covers x.1 taken unseen)
    · intro untaken
      exact ⟨fun is => untaken (seenHandled x.1 is), fun is => untaken (old x.1 is)⟩
  rw [← Bool.decide_and]
  exact decide_eq_decide.mpr same

theorem ViewOf.fresh {log handled : List Incoming} {seen : List Nat} {signals : List Incoming}
    (view : ViewOf log handled seen signals)
    (seenHandled : ∀ id ∈ seen, id ∈ handled.map Prod.fst) :
    ∃ known, known <+: log ∧ (signals.map Prod.fst).Sublist (known.map Prod.fst) ∧
      (signals.filter fun x => x.1 ∉ seen) =
        known.filter fun x => x.1 ∉ handled.map Prod.fst := by
  obtain ⟨known, gone, before, rfl, old, covers⟩ := view
  exact ⟨known, before, List.filter_sublist.map _, filter_unseen seenHandled old covers⟩

/-- A result stays one, as more is sent and this socket handles more. -/
theorem ViewOf.later {log log' handled fresh : List Incoming} {seen : List Nat}
    {signals : List Incoming} (view : ViewOf log handled seen signals) (grows : log <+: log') :
    ViewOf log' (handled ++ fresh) (seen ++ fresh.map Prod.fst) signals := by
  obtain ⟨known, gone, before, same, old, covers⟩ := view
  refine ⟨known, gone, before.trans grows, same, ?_, ?_⟩
  · intro id member
    rw [List.map_append]
    exact List.mem_append_left _ (old id member)
  · intro id taken unseen
    rw [List.mem_append, not_or] at unseen
    rw [List.map_append, List.mem_append] at taken
    rcases taken with earlier | new
    · exact covers id earlier unseen.1
    · exact (unseen.2 new).elim

/-- What the role has acknowledged. -/
def ackedBy (h : History) (callId : CallId) (role : CallRole) : List Nat :=
  (h.acked.filter fun row => row.1 = role ∧ row.2.1 = callId).map fun row => row.2.2

theorem mem_ackedBy {h : History} {id : Nat} :
    id ∈ ackedBy h callId role ↔ (role, callId, id) ∈ h.acked := by
  unfold ackedBy
  rw [List.mem_map]
  constructor
  · rintro ⟨⟨other, call, named⟩, member, rfl⟩
    obtain ⟨there, ofRole⟩ := List.mem_filter.mp member
    simp only [decide_eq_true_eq] at ofRole
    obtain ⟨rfl, rfl⟩ := ofRole
    exact there
  · intro there
    exact ⟨(role, callId, id), List.mem_filter.mpr ⟨there, by simp⟩, rfl⟩

theorem sentTo_apart {h : History} (posted : Posted h) :
    ((sentTo h callId role).map Prod.fst).Nodup := by
  unfold sentTo
  rw [List.map_map]
  refine List.Pairwise.map _ ?_ (posted.ordered.filter _)
  intro a b before
  exact Nat.ne_of_lt before

/-- The log of what is sent only grows. -/
theorem sentTo_step (h : History) (input : Ctx × SignalOp) :
    sentTo h callId role <+: sentTo (h.step parses createdAt input) callId role := by
  unfold sentTo History.step
  rw [List.filter_append, List.map_append]
  exact List.prefix_append _ _

/-- The server goes on: the role's own acknowledgements are of what has been handled. -/
theorem Delivered.server {line : Line} (delivered : Delivered line callId role)
    (input : Ctx × SignalOp) (owned : ∀ id, (role, callId, id) ∈
      acknowledged line.history.signaling input.2 → id ∈ line.handled.map Prod.fst) :
    Delivered { line with history := line.history.step parses createdAt input } callId role := by
  have grows : sentTo line.history callId role <+:
      sentTo (line.history.step parses createdAt input) callId role := sentTo_step _ _
  refine ⟨delivered.posted.step input, delivered.inOrder.trans grows, ?_, delivered.asked, ?_⟩
  · intro id member
    rcases List.mem_append.mp member with old | new
    · exact delivered.acked id old
    · exact owned id new
  · intro s present
    have serves := delivered.socket s present
    refine ⟨serves.attached, serves.seen, serves.unacked, ?_, ?_⟩
    · intro id handled unseen
      exact List.mem_append_left _ (serves.others id handled unseen)
    · intro signals member
      obtain ⟨known, gone, before, rest⟩ := serves.views signals member
      exact ⟨known, gone, before.trans grows, rest⟩

/-- The socket takes a result. -/
theorem Delivered.takes {line : Line} (delivered : Delivered line callId role)
    {s after : ConvexSignalSocket} (present : line.socket = some s) {signals : List Incoming}
    (view : ViewOf (sentTo line.history callId role) line.handled s.seen signals)
    (taken : s.Takes (signals.filter fun x => x.1 ∉ s.seen) after) :
    Delivered { line with
      socket := some after
      asks := line.asks ++ after.acks.drop s.acks.length
      handled := line.handled ++ after.passed.drop s.passed.length } callId role := by
  have serves := delivered.socket s present
  obtain ⟨known, before, _, fresh⟩ := view.fresh serves.seen
  rw [fresh] at taken
  have caught := (prefix_catch_up Prod.fst (sentTo_apart delivered.posted) delivered.inOrder
    before).1
  rw [taken.passed, taken.acks, List.drop_left, List.drop_length, List.append_nil]
  generalize (known.filter fun x => x.1 ∉ line.handled.map Prod.fst) = new at taken caught
  have more (id : Nat) (member : id ∈ line.handled.map Prod.fst) :
      id ∈ (line.handled ++ new).map Prod.fst := by
    rw [List.map_append]
    exact List.mem_append_left _ member
  have within (ids : List Nat) (old : ∀ id ∈ ids, id ∈ line.handled.map Prod.fst) (id : Nat)
      (member : id ∈ ids ++ new.map Prod.fst) : id ∈ (line.handled ++ new).map Prod.fst := by
    rcases List.mem_append.mp member with earlier | fresh
    · exact more id (old id earlier)
    · rw [List.map_append]
      exact List.mem_append_right _ fresh
  refine ⟨delivered.posted, caught, fun id member => more id (delivered.acked id member),
    fun ids member id named => more id (delivered.asked ids member id named), ?_⟩
  intro other same
  obtain rfl := Option.some.inj same
  refine ⟨taken.attached.trans serves.attached, ?_, ?_, ?_, ?_⟩
  · rw [taken.seen]
    exact within s.seen serves.seen
  · rw [taken.unacked]
    exact within s.unacked serves.unacked
  · intro id handled unseen
    rw [taken.seen, List.mem_append, not_or] at unseen
    rw [List.map_append, List.mem_append] at handled
    rcases handled with earlier | fresh
    · exact serves.others id earlier unseen.1
    · exact (unseen.2 fresh).elim
  · intro signals member
    rw [taken.seen]
    exact (serves.views signals member).later (List.prefix_refl _)

/-- The socket does anything else. -/
theorem Delivered.quiet {line : Line} (delivered : Delivered line callId role)
    {s after : ConvexSignalSocket} (present : line.socket = some s) (quiet : s.Quiet after) :
    Delivered { line with
      socket := some after
      asks := line.asks ++ after.acks.drop s.acks.length
      handled := line.handled ++ after.passed.drop s.passed.length } callId role := by
  have serves := delivered.socket s present
  obtain ⟨more, acked, due⟩ := quiet.acks
  rw [quiet.passed, acked, List.drop_left, List.drop_length, List.append_nil]
  refine ⟨delivered.posted, delivered.inOrder, delivered.acked, ?_, ?_⟩
  · intro ids member
    rcases List.mem_append.mp member with old | new
    · exact delivered.asked ids old
    · exact fun id named => serves.unacked id (due ids new id named)
  · intro other same
    obtain rfl := Option.some.inj same
    refine ⟨quiet.attached serves.attached, ?_,
      fun id member => serves.unacked id (quiet.unacked id member), ?_, ?_⟩
    · rw [quiet.seen]
      exact serves.seen
    · rw [quiet.seen]
      exact serves.others
    · rw [quiet.seen]
      exact serves.views

/-- What a read finds while the call is open. -/
theorem readInbox_open (increasing : StrictMono createdAt) {h : History} (posted : Posted h)
    {call : Call}
    (found : callForParticipant h.signaling.world.db userId callId = .ok (call, role))
    (isOpen : call.status ∈ connectableStatuses) :
    Line.readInbox createdAt userId callId h.signaling =
      .signals ((sentTo h callId role).filter fun x => x.1 ∉ ackedBy h callId role) := by
  have waits := posted.waiting role ⟨call, callForParticipant_ok found, isOpen⟩
  have rows : (h.waiting callId role).map Line.incoming =
      (sentTo h callId role).filter fun x => x.1 ∉ ackedBy h callId role := by
    unfold History.waiting sentTo
    rw [List.filter_map, List.filter_filter, List.map_map]
    congr 1
    apply List.filter_congr
    intro x _
    rw [Function.comp_apply, ← Bool.decide_and, decide_eq_decide, mem_ackedBy]
    tauto
  unfold Line.readInbox
  rw [inbox_eq increasing _ found, waits]
  exact congrArg _ rows

theorem readInbox_error {h : History} {error : ErrorCode}
    (refused : callForParticipant h.signaling.world.db userId callId = .error error) :
    Line.readInbox createdAt userId callId h.signaling = .throws := by
  unfold Line.readInbox inbox
  rw [refused]
  rfl

/-- A socket that knows of nothing yet when it opens. -/
theorem new_quiet {result : ConvexSignalSocket.QueryResult}
    (none : ∀ signals, result = .signals signals → signals = []) :
    (ConvexSignalSocket.new result).seen = [] ∧ (ConvexSignalSocket.new result).unacked = [] ∧
      (ConvexSignalSocket.new result).passed = [] := by
  cases result with
  | none => exact ⟨rfl, rfl, rfl⟩
  | throws => exact ⟨rfl, rfl, rfl⟩
  | signals signals =>
      obtain rfl := none signals rfl
      exact ⟨rfl, rfl, rfl⟩

theorem Delivered.connect {line : Line} (delivered : Delivered line callId role)
    {result : ConvexSignalSocket.QueryResult}
    (none : ∀ signals, result = .signals signals → signals = [])
    (acked : ∀ x ∈ line.handled, (role, callId, x.1) ∈ line.history.acked) :
    Delivered { line with
      socket := some (ConvexSignalSocket.new result).attach
      views := []
      handled := line.handled ++ (ConvexSignalSocket.new result).passed } callId role := by
  obtain ⟨seen, unacked, passed⟩ := new_quiet none
  rw [passed, List.append_nil]
  refine ⟨delivered.posted, delivered.inOrder, delivered.acked, delivered.asked, ?_⟩
  intro s same
  obtain rfl := Option.some.inj same
  have blank (ids : List Nat) (empty : ids = []) (id : Nat) (member : id ∈ ids) :
      id ∈ line.handled.map Prod.fst := by
    rw [empty] at member
    cases member
  refine ⟨rfl, blank _ seen, blank _ unacked, ?_, ?_⟩
  · intro id handled _
    obtain ⟨x, member, rfl⟩ := List.mem_map.mp handled
    exact acked x member
  · intro signals member
    cases member

/-- A result is on its way. -/
theorem Delivered.addView {line : Line} (delivered : Delivered line callId role)
    {view : ConvexSignalSocket.QueryResult} (fits : ∀ s signals, line.socket = some s →
      view = .signals signals →
      ViewOf (sentTo line.history callId role) line.handled s.seen signals) :
    Delivered { line with views := line.views ++ [view] } callId role := by
  refine ⟨delivered.posted, delivered.inOrder, delivered.acked, delivered.asked, ?_⟩
  intro s present
  have serves := delivered.socket s present
  refine ⟨serves.attached, serves.seen, serves.unacked, serves.others, ?_⟩
  intro signals member
  rcases List.mem_append.mp member with old | new
  · exact serves.views signals old
  · exact fits s signals present (List.mem_singleton.mp new).symm

theorem Delivered.read (increasing : StrictMono createdAt) {line : Line}
    (delivered : Delivered line callId role) {call : Call}
    (found : callForParticipant line.history.signaling.world.db userId callId = .ok (call, role))
    (isOpen : call.status ∈ connectableStatuses) :
    Delivered { line with
      views := line.views ++ [Line.readInbox createdAt userId callId line.history.signaling] }
      callId role := by
  rw [readInbox_open increasing delivered.posted found isOpen]
  apply delivered.addView
  intro s signals present same
  obtain rfl := ConvexSignalSocket.QueryResult.signals.inj same
  have serves := delivered.socket s present
  refine ⟨_, ackedBy line.history callId role, List.prefix_refl _, rfl, ?_, ?_⟩
  · intro id member
    exact delivered.acked id (mem_ackedBy.mp member)
  · intro id handled unseen
    exact mem_ackedBy.mpr (serves.others id handled unseen)

/-- The query fails. -/
theorem Delivered.readError {line : Line} (delivered : Delivered line callId role)
    {error : ErrorCode}
    (refused : callForParticipant line.history.signaling.world.db userId callId = .error error) :
    Delivered { line with
      views := line.views ++ [Line.readInbox createdAt userId callId line.history.signaling] }
      callId role := by
  rw [readInbox_error refused]
  apply delivered.addView
  intro s signals _ same
  cases same

theorem Delivered.update {line : Line} (delivered : Delivered line callId role)
    {s : ConvexSignalSocket} (present : line.socket = some s)
    {view : ConvexSignalSocket.QueryResult} (member : view ∈ line.views) :
    Delivered { line with
      socket := some (s.step (.update view))
      asks := line.asks ++ (s.step (.update view)).acks.drop s.acks.length
      handled := line.handled ++ (s.step (.update view)).passed.drop s.passed.length }
      callId role := by
  have serves := delivered.socket s present
  simp only [ConvexSignalSocket.step]
  split
  · exact delivered.quiet present (.refl s)
  · cases view with
    | none => exact delivered.quiet present (.refl s)
    | throws => exact delivered.quiet present s.fail_quiet
    | signals signals =>
        have view := serves.views signals member
        obtain ⟨known, before, within, _⟩ := view.fresh serves.seen
        have apart : (signals.map Prod.fst).Nodup :=
          ((sentTo_apart delivered.posted).sublist (before.sublist.map _)).sublist within
        exact delivered.takes present view
          (ConvexSignalSocket.receive_takes serves.attached apart)

theorem Delivered.dropView {line : Line} (delivered : Delivered line callId role)
    {views : List ConvexSignalSocket.QueryResult} (fewer : ∀ view ∈ views, view ∈ line.views) :
    Delivered { line with views } callId role := by
  refine ⟨delivered.posted, delivered.inOrder, delivered.acked, delivered.asked, ?_⟩
  intro s present
  have serves := delivered.socket s present
  exact ⟨serves.attached, serves.seen, serves.unacked, serves.others,
    fun signals member => serves.views signals (fewer _ member)⟩

/-- The participant acknowledges nothing but what it is asked to. -/
theorem acknowledged_ack {s : Signaling} {ids : List Nat} {id : Nat}
    (member : (role, callId, id) ∈ acknowledged s (.ack userId callId ids)) : id ∈ ids := by
  simp only [acknowledged] at member
  split at member
  · obtain ⟨other, within, same⟩ := List.mem_map.mp member
    obtain rfl : other = id := (Prod.mk.inj (Prod.mk.inj same).2).2
    exact (List.mem_filter.mp within).1
  · cases member

theorem Delivered.step (increasing : StrictMono createdAt) {line : Line}
    (delivered : Delivered line callId role) (op : Line.Op)
    (orderly : line.Orderly userId callId role op) :
    Delivered (line.step parses createdAt userId callId op) callId role := by
  cases op with
  | server input =>
      exact delivered.server input fun id member => (orderly _ member ⟨rfl, rfl⟩).elim
  | connect result =>
      have none (signals : List Incoming) (same : result = .signals signals) : signals = [] := by
        subst same
        exact orderly.1
      simp only [Line.step]
      split
      · exact delivered
      · exact delivered.connect none fun x handled =>
          List.contains_iff_mem.mp (orderly.2 x handled)
  | read =>
      cases found : callForParticipant line.history.signaling.world.db userId callId with
      | error error => exact delivered.readError found
      | ok row =>
          obtain ⟨call, other⟩ := row
          simp only [Line.Orderly, found, Except.toOption, Option.all_some,
            decide_eq_true_eq] at orderly
          obtain ⟨rfl, isOpen⟩ := orderly
          exact delivered.read increasing found isOpen
  | update =>
      simp only [Line.step]
      cases views : line.views with
      | nil => exact delivered
      | cons view rest =>
          have fewer (other : ConvexSignalSocket.QueryResult) (member : other ∈ rest) :
              other ∈ line.views := by
            rw [views]
            exact List.mem_cons_of_mem _ member
          simp only [Line.on]
          cases present : line.socket with
          | none =>
              have kept := delivered.dropView fewer
              rw [present] at kept
              exact kept
          | some s =>
              have first : view ∈ line.views := by
                rw [views]
                exact List.mem_cons_self
              exact (delivered.update present first).dropView fewer
  | event event =>
      simp only [Line.step, Line.on]
      cases present : line.socket with
      | none => exact delivered
      | some s =>
          have own (result : ConvexSignalSocket.QueryResult) : event ≠ .update result := by
            rintro rfl
            exact orderly
          exact delivered.quiet present (s.step_quiet own)
  | acknowledge ctx =>
      simp only [Line.step]
      cases asks : line.asks with
      | nil => exact delivered
      | cons ids rest =>
          have owned (id : Nat) (member : (role, callId, id) ∈
              acknowledged line.history.signaling (.ack userId callId ids)) :
              id ∈ line.handled.map Prod.fst := by
            refine delivered.asked ids ?_ id (acknowledged_ack member)
            rw [asks]
            exact List.mem_cons_self
          have next := @Delivered.server parses createdAt callId role line delivered
            (ctx, .ack userId callId ids) owned
          refine ⟨next.posted, next.inOrder, next.acked, ?_, fun s present => ?_⟩
          · intro others member
            refine delivered.asked others ?_
            rw [asks]
            exact List.mem_cons_of_mem _ member
          · have serves := next.socket s present
            exact ⟨serves.attached, serves.seen, serves.unacked, serves.others, serves.views⟩

theorem Delivered.empty : Delivered .empty callId role := by
  refine ⟨.empty, List.nil_prefix, ?_, ?_, ?_⟩
  · intro id member
    cases member
  · intro ids member
    cases member
  · intro s present
    cases present

theorem Delivered.run (increasing : StrictMono createdAt) {ops : List Line.Op}
    (orderly : Along (Line.step parses createdAt userId callId)
      (Line.Orderly userId callId role) .empty ops) :
    Delivered (run (Line.step parses createdAt userId callId) .empty ops) callId role :=
  run_keeps (fun line => Delivered line callId role)
    (fun _ op delivered guarded => delivered.step increasing op guarded) .empty orderly

/-- Nothing is left behind: the next result brings the handler all that has been sent. -/
theorem Delivered.catches_up (increasing : StrictMono createdAt) {line : Line}
    (delivered : Delivered line callId role) {s : ConvexSignalSocket}
    (present : line.socket = some s) (listens : s.readyState ≠ .closed) (none : line.views = [])
    {call : Call}
    (found : callForParticipant line.history.signaling.world.db userId callId = .ok (call, role))
    (isOpen : call.status ∈ connectableStatuses) :
    (Library.run (Line.step parses createdAt userId callId) line [.read, .update]).handled =
      sentTo line.history callId role := by
  have serves := delivered.socket s present
  have apart := @sentTo_apart callId role line.history delivered.posted
  have read := readInbox_open increasing delivered.posted found isOpen
  have unseen := @filter_unseen (sentTo line.history callId role) line.handled s.seen
    (ackedBy line.history callId role) serves.seen
    (fun id member => delivered.acked id (mem_ackedBy.mp member))
    fun id handled fresh => mem_ackedBy.mpr (serves.others id handled fresh)
  have within : (((sentTo line.history callId role).filter fun x =>
      x.1 ∉ ackedBy line.history callId role).map Prod.fst).Nodup :=
    apart.sublist (List.filter_sublist.map _)
  have taken := ConvexSignalSocket.receive_takes serves.attached within
  have all := prefix_catch_up Prod.fst apart delivered.inOrder (List.prefix_refl _)
  simp only [run_cons, run_nil, Line.step, none, List.nil_append, read, Line.on, present,
    ConvexSignalSocket.step, if_neg listens, ConvexSignalSocket.deliver]
  rw [taken.passed, List.drop_left, unseen]
  exact all.1.eq_of_length_le all.2.length_le

end Runs

/-- Over all its sockets, a manager's handler is given the signals that were sent to it in the order
they were, each one once, and only what it was given is acknowledged; none is left behind, as long
as a socket that fails leaves nothing unacknowledged and one that opens has nothing to deliver. -/
theorem signals_handled_once (parses : Text → Bool) {createdAt : Nat → Time}
    (increasing : StrictMono createdAt) (userId : Option UserId) (callId : CallId) (role : CallRole)
    {ops : List Line.Op}
    (orderly : Along (Line.step parses createdAt userId callId)
      (Line.Orderly userId callId role) .empty ops) :
    let line := run (Line.step parses createdAt userId callId) .empty ops
    line.handled <+: sentTo line.history callId role ∧ (line.handled.map Prod.fst).Nodup ∧
      (∀ id, (role, callId, id) ∈ line.history.acked → id ∈ line.handled.map Prod.fst) ∧
      ∀ s call, line.socket = some s → s.readyState ≠ .closed → line.views = [] →
        callForParticipant line.history.signaling.world.db userId callId = .ok (call, role) →
        call.status ∈ connectableStatuses →
        (run (Line.step parses createdAt userId callId) line [.read, .update]).handled =
          sentTo line.history callId role := by
  intro line
  have delivered : Delivered line callId role := .run increasing orderly
  refine ⟨delivered.inOrder,
    (sentTo_apart delivered.posted).sublist (delivered.inOrder.sublist.map _), delivered.acked, ?_⟩
  intro s call present listens none found isOpen
  exact delivered.catches_up increasing present listens none found isOpen

/-- The caller says that it is ready. -/
def greeted : List Line.Op :=
  (World.sampled World.paid).map (fun input => .server (input.1, .world input.2)) ++
    [.server (⟨5, World.sampleEnv⟩, .send (some 1) 0 [⟨.ready, [123, 125]⟩])]

/-- The creator acknowledges that, its offer fails the socket, and the caller's candidate comes to
the next one. -/
def reopened : List Line.Op :=
  [.connect .none, .read, .update, .event .ackTimer, .acknowledge ⟨5, World.sampleEnv⟩,
    .event .opened, .event (.send ⟨.offer, [123, 125]⟩), .event (.turn 0), .event (.settle 0 false),
    .server (⟨5, World.sampleEnv⟩, .send (some 1) 0 [⟨.ice, [123, 125]⟩]),
    .connect .none, .read, .update]

set_option maxRecDepth 40000 in
theorem signals_handled_once_reopened :
    let line := run (Line.step (fun _ => true) id (some 0) 0) .empty (greeted ++ reopened)
    line.handled = [(0, ⟨.ready, [123, 125]⟩), (1, ⟨.ice, [123, 125]⟩)] ∧
      line.handled <+: sentTo line.history 0 .creator := by
  intro line
  refine ⟨by decide, ?_⟩
  exact (signals_handled_once (fun _ => true) strictMono_id (some 0) 0 .creator (by decide)).1

/-! ### What goes wrong otherwise -/

/-- The next socket handles again exactly what the last one left unacknowledged. -/
theorem signals_handled_twice_iff (parses : Text → Bool) {createdAt : Nat → Time}
    (increasing : StrictMono createdAt) (userId : Option UserId) (callId : CallId) (role : CallRole)
    {ops : List Line.Op}
    (orderly : Along (Line.step parses createdAt userId callId)
      (Line.Orderly userId callId role) .empty ops) :
    let line := run (Line.step parses createdAt userId callId) .empty ops
    ∀ call, (line.socket.any fun s => s.readyState ≠ .closed) = false →
      callForParticipant line.history.signaling.world.db userId callId = .ok (call, role) →
      call.status ∈ connectableStatuses →
      let reopened := run (Line.step parses createdAt userId callId) line
        [.connect .none, .read, .update]
      reopened.handled = line.handled ++
          ((sentTo line.history callId role).filter fun x =>
            x.1 ∉ ackedBy line.history callId role) ∧
        ((reopened.handled.map Prod.fst).Nodup ↔
          ∀ x ∈ line.handled, (role, callId, x.1) ∈ line.history.acked) := by
  intro line call down found isOpen reopened
  have delivered : Delivered line callId role := .run increasing orderly
  have apart := @sentTo_apart callId role line.history delivered.posted
  have read := readInbox_open increasing delivered.posted found isOpen
  have within : (((sentTo line.history callId role).filter fun x =>
      x.1 ∉ ackedBy line.history callId role).map Prod.fst).Nodup :=
    apart.sublist (List.filter_sublist.map _)
  have attached : ((ConvexSignalSocket.new .none).attach).attached = true := rfl
  have taken := ConvexSignalSocket.receive_takes attached within
  have fresh : (((sentTo line.history callId role).filter fun x =>
      x.1 ∉ ackedBy line.history callId role).filter fun x =>
        x.1 ∉ ((ConvexSignalSocket.new .none).attach).seen) =
      (sentTo line.history callId role).filter fun x =>
        x.1 ∉ ackedBy line.history callId role := by
    apply List.filter_eq_self.mpr
    intro x _
    exact decide_eq_true List.not_mem_nil
  have again : reopened.handled = line.handled ++ (sentTo line.history callId role).filter
      fun x => x.1 ∉ ackedBy line.history callId role := by
    have empty : (ConvexSignalSocket.new .none).passed = [] := rfl
    have listens : ((ConvexSignalSocket.new .none).attach).readyState ≠ .closed := by
      intro closed
      cases closed
    simp only [reopened, run_cons, run_nil, Line.step, down, Bool.false_eq_true, if_false,
      List.nil_append, read, Line.on, ConvexSignalSocket.step, if_neg listens,
      ConvexSignalSocket.deliver]
    rw [taken.passed, List.drop_left, fresh, empty, List.append_nil]
  refine ⟨again, ?_⟩
  rw [again, List.map_append, List.nodup_append]
  constructor
  · rintro ⟨_, _, unlike⟩ x handled
    by_contra unacked
    refine unlike x.1 (List.mem_map_of_mem handled) x.1 (List.mem_map_of_mem ?_) rfl
    refine List.mem_filter.mpr ⟨delivered.inOrder.subset handled, ?_⟩
    exact decide_eq_true fun member => unacked (mem_ackedBy.mp member)
  · intro acked
    refine ⟨apart.sublist (delivered.inOrder.sublist.map _), within, ?_⟩
    rintro id handled other remaining rfl
    obtain ⟨x, member, rfl⟩ := List.mem_map.mp handled
    obtain ⟨y, left, same⟩ := List.mem_map.mp remaining
    obtain ⟨_, unacked⟩ := List.mem_filter.mp left
    refine of_decide_eq_true unacked (mem_ackedBy.mpr ?_)
    rw [same]
    exact acked x member

/-- The socket fails before the ready is acknowledged. -/
def failed : List Line.Op :=
  greeted ++ [.connect .none, .read, .update, .event .opened,
    .event (.send ⟨.offer, [123, 125]⟩), .event (.turn 0), .event (.settle 0 false)]

/-- The client knows of the ready when its first socket opens. -/
def cached : List Line.Op :=
  greeted ++ [.connect (.signals [(0, ⟨.ready, [123, 125]⟩)]), .read, .update, .event .ackTimer,
    .acknowledge ⟨5, World.sampleEnv⟩]

set_option maxRecDepth 40000 in
/-- In one run the ready is handled twice, in another it is acknowledged and never handled. -/
theorem signal_twice_or_never :
    (run (Line.step (fun _ => true) id (some 0) 0) .empty
        (failed ++ [.connect .none, .read, .update])).handled =
      [(0, ⟨.ready, [123, 125]⟩), (0, ⟨.ready, [123, 125]⟩)] ∧
    let line := run (Line.step (fun _ => true) id (some 0) 0) .empty cached
    line.handled = [] ∧ (CallRole.creator, 0, 0) ∈ line.history.acked := by
  decide

set_option maxRecDepth 40000 in
theorem signals_handled_twice_failed :
    let line := run (Line.step (fun _ => true) id (some 0) 0) .empty failed
    ¬ (((run (Line.step (fun _ => true) id (some 0) 0) line
      [.connect .none, .read, .update]).handled.map Prod.fst).Nodup) := by
  intro line twice
  have orderly : Along (Line.step (fun _ => true) id (some 0) 0)
      (Line.Orderly (some 0) 0 .creator) .empty failed := by decide
  have down : (line.socket.any fun s => s.readyState ≠ .closed) = false := by decide
  have participates : (callForParticipant line.history.signaling.world.db (some 0) 0).toOption.any
      (fun row => row.2 == .creator && connectableStatuses.contains row.1.status) = true := by
    decide
  have unacked : ¬ ∀ x ∈ line.handled, (CallRole.creator, 0, x.1) ∈ line.history.acked := by decide
  cases located : callForParticipant line.history.signaling.world.db (some 0) 0 with
  | error error =>
      rw [located] at participates
      cases participates
  | ok row =>
      obtain ⟨call, role⟩ := row
      rw [located] at participates
      simp only [Except.toOption, Option.any_some, Bool.and_eq_true, beq_iff_eq,
        List.contains_iff_mem] at participates
      obtain ⟨rfl, isOpen⟩ := participates
      exact unacked ((signals_handled_twice_iff (fun _ => true) strictMono_id (some 0) 0 .creator
        orderly call down located isOpen).2.mp twice)

namespace ConvexSignalSocket

variable {s : ConvexSignalSocket}

/-- Some signals are seen and never passed on, and acknowledged all the same. -/
structure Loses (ids : List Nat) (s : ConvexSignalSocket) : Prop where
  seen : ∀ id ∈ ids, id ∈ s.seen
  passed : ∀ x ∈ s.passed, x.1 ∉ ids
  acked : ∀ id ∈ ids, id ∈ s.unacked ∨ id ∈ s.acks.flatten

theorem Loses.quiet {ids : List Nat} {after : ConvexSignalSocket} (loses : Loses ids s)
    (quiet : s.Quiet after) : Loses ids after := by
  obtain ⟨more, acked, _⟩ := quiet.acks
  refine ⟨?_, ?_, ?_⟩
  · rw [quiet.seen]
    exact loses.seen
  · rw [quiet.passed]
    exact loses.passed
  · intro id member
    rcases loses.acked id member with held | done
    · exact quiet.kept id held
    · rw [acked, List.flatten_append]
      exact Or.inr (List.mem_append_left _ done)

theorem Loses.take {ids : List Nat} (loses : Loses ids s) (signal : Incoming) :
    Loses ids (s.take signal) := by
  unfold ConvexSignalSocket.take
  split
  · exact loses
  · rename_i unseen
    refine ⟨fun id member => List.mem_append_left _ (loses.seen id member), ?_, ?_⟩
    · have fresh : signal.1 ∉ ids := fun member => unseen (loses.seen _ member)
      dsimp only
      split
      · intro x member
        rcases List.mem_append.mp member with old | new
        · exact loses.passed x old
        · rw [List.mem_singleton.mp new]
          exact fresh
      · exact loses.passed
    · intro id member
      rcases loses.acked id member with held | done
      · exact Or.inl (List.mem_append_left _ held)
      · exact Or.inr done

theorem Loses.receive {ids : List Nat} (loses : Loses ids s) (signals : List Incoming) :
    Loses ids (s.receive signals) := by
  have taken : Loses ids (signals.foldl ConvexSignalSocket.take s) := by
    induction signals generalizing s with
    | nil => exact loses
    | cons signal rest ih => exact ih (loses.take signal)
  unfold ConvexSignalSocket.receive
  dsimp only
  split
  · exact taken
  · exact ⟨taken.seen, taken.passed, taken.acked⟩

theorem Loses.step {ids : List Nat} (loses : Loses ids s) (event : Event) :
    Loses ids (s.step event) := by
  by_cases own : ∀ result, event ≠ .update result
  · exact loses.quiet (s.step_quiet own)
  · rw [not_forall] at own
    obtain ⟨result, is⟩ := own
    obtain rfl := not_not.mp is
    simp only [ConvexSignalSocket.step]
    split
    · exact loses
    · cases result with
      | none => exact loses
      | throws => exact loses.quiet s.fail_quiet
      | signals signals => exact loses.receive signals

/-- Before there is a handler, signals are taken and passed to nobody. -/
theorem foldl_take_unattached (unattached : s.attached = false) (same : s.seen = s.unacked)
    (signals : List Incoming) :
    (signals.foldl take s).passed = s.passed ∧
      (signals.foldl take s).seen = (signals.foldl take s).unacked ∧
      ∀ id, id ∈ s.seen ∨ id ∈ signals.map Prod.fst → id ∈ (signals.foldl take s).seen := by
  induction signals generalizing s with
  | nil =>
      refine ⟨rfl, same, ?_⟩
      rintro id (old | new)
      · exact old
      · cases new
  | cons signal rest ih =>
      rw [List.foldl_cons]
      by_cases known : signal.1 ∈ s.seen
      · have taken : s.take signal = s := if_pos known
        rw [taken]
        obtain ⟨passed, unacked, all⟩ := ih unattached same
        refine ⟨passed, unacked, ?_⟩
        rintro id (old | new)
        · exact all id (Or.inl old)
        · rcases List.mem_cons.mp new with rfl | later
          · exact all _ (Or.inl known)
          · exact all id (Or.inr later)
      · have taken : s.take signal = { s with
            seen := s.seen ++ [signal.1]
            unacked := s.unacked ++ [signal.1] } := by
          unfold take
          rw [if_neg known, unattached]
          rfl
        have next := @ih (s.take signal) (by rw [taken]; exact unattached)
          (by rw [taken]; exact congrArg (· ++ [signal.1]) same)
        rw [taken] at next ⊢
        obtain ⟨passed, unacked, all⟩ := next
        refine ⟨passed, unacked, ?_⟩
        rintro id (old | new)
        · exact all id (Or.inl (List.mem_append_left _ old))
        · rcases List.mem_cons.mp new with rfl | later
          · exact all _ (Or.inl (List.mem_append_right _ (List.mem_singleton_self _)))
          · exact all id (Or.inr later)

theorem Loses.new (signals : List Incoming) :
    Loses (signals.map Prod.fst) (ConvexSignalSocket.new (.signals signals)) := by
  unfold ConvexSignalSocket.new ConvexSignalSocket.deliver ConvexSignalSocket.receive
  dsimp only
  generalize start : ConvexSignalSocket.mk .connecting false [] [] [] false false [] [] [] [] = s
  have blank : s.attached = false ∧ s.seen = s.unacked ∧ s.passed = [] := by
    subst start
    exact ⟨rfl, rfl, rfl⟩
  obtain ⟨passed, unacked, all⟩ := foldl_take_unattached blank.1 blank.2.1 signals
  have taken : Loses (signals.map Prod.fst) (signals.foldl ConvexSignalSocket.take s) := by
    refine ⟨fun id member => all id (Or.inr member), ?_, ?_⟩
    · rw [passed, blank.2.2]
      intro x member
      cases member
    · rw [← unacked]
      exact fun id member => Or.inl (all id (Or.inr member))
  split
  · exact taken
  · exact ⟨taken.seen, taken.passed, taken.acked⟩

theorem Loses.run {ids : List Nat} (loses : Loses ids s) (events : List Event) :
    Loses ids (run ConvexSignalSocket.step s events) := by
  induction events generalizing s with
  | nil => exact loses
  | cons event rest ih => exact ih (loses.step event)

end ConvexSignalSocket

/-- What a new socket finds in the client's cache it sees before its handler is there: whatever
happens after that it is passed to no one, and the socket acknowledges it. -/
theorem signals_lost (signals : List Incoming) (events : List ConvexSignalSocket.Event) :
    let s := run ConvexSignalSocket.step (ConvexSignalSocket.new (.signals signals)) events
    (∀ x ∈ s.passed, x.1 ∉ signals.map Prod.fst) ∧
      ∀ id ∈ signals.map Prod.fst, id ∈ s.unacked ∨ id ∈ s.acks.flatten := by
  intro s
  have loses := (ConvexSignalSocket.Loses.new signals).run events
  exact ⟨loses.passed, loses.acked⟩

end Bling.WebRTC
