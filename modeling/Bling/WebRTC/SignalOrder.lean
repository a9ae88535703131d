import Bling.WebRTC.SignalSocket

set_option autoImplicit false

namespace Bling.WebRTC

open Library

/-! Outgoing signals keep their order through the socket's batches. -/

/-! ### The chain of posts -/

/-- Posts are settled in order, and only the first of the others may be in flight. -/
def Chained : List Post → Prop
  | [] => True
  | p :: rest =>
    if p.state = .settled then Chained rest else ∀ q ∈ rest, q.state = .waiting

/-- The batches of the posts whose callback has run. -/
def begun : List Post → List (List Bling.Signal)
  | [] => []
  | p :: rest => if p.state = .waiting then begun rest else p.signals :: begun rest

/-- The batches of the others. -/
def unbegun : List Post → List (List Bling.Signal)
  | [] => []
  | p :: rest => if p.state = .waiting then p.signals :: unbegun rest else unbegun rest

def Post.Sized (p : Post) : Prop :=
  1 ≤ p.signals.length ∧ p.signals.length ≤ maxBatch

@[simp] theorem chained_settled {p : Post} (settled : p.state = .settled) (rest : List Post) :
    Chained (p :: rest) ↔ Chained rest := by
  simp [Chained, settled]

@[simp] theorem chained_unsettled {p : Post} (unsettled : p.state ≠ .settled) (rest : List Post) :
    Chained (p :: rest) ↔ ∀ q ∈ rest, q.state = .waiting := by
  simp [Chained, unsettled]

theorem begun_of_waiting {posts : List Post} (waiting : ∀ p ∈ posts, p.state = .waiting) :
    begun posts = [] := by
  induction posts with
  | nil => rfl
  | cons p rest ih =>
      simp only [List.mem_cons, forall_eq_or_imp] at waiting
      simp only [begun, waiting.1, if_true]
      exact ih waiting.2

theorem unbegun_of_waiting {posts : List Post} (waiting : ∀ p ∈ posts, p.state = .waiting) :
    unbegun posts = posts.map Post.signals := by
  induction posts with
  | nil => rfl
  | cons p rest ih =>
      simp only [List.mem_cons, forall_eq_or_imp] at waiting
      simp only [unbegun, waiting.1, if_true, List.map_cons, ih waiting.2]

theorem unbegun_of_settled {posts : List Post} (settled : ∀ p ∈ posts, p.state = .settled) :
    unbegun posts = [] := by
  induction posts with
  | nil => rfl
  | cons p rest ih =>
      simp only [List.mem_cons, forall_eq_or_imp] at settled
      simp only [unbegun, settled.1, reduceCtorEq, if_false, ih settled.2]

theorem begun_append (front back : List Post) :
    begun (front ++ back) = begun front ++ begun back := by
  induction front with
  | nil => rfl
  | cons p rest ih =>
      simp only [List.cons_append, begun, ih]
      split <;> rfl

theorem chained_append {front : List Post} (settled : ∀ p ∈ front, p.state = .settled)
    (back : List Post) : Chained (front ++ back) ↔ Chained back := by
  induction front with
  | nil => rfl
  | cons p rest ih =>
      simp only [List.mem_cons, forall_eq_or_imp] at settled
      rw [List.cons_append, chained_settled settled.1]
      exact ih settled.2

theorem Chained.of_waiting {posts : List Post} (waiting : ∀ p ∈ posts, p.state = .waiting) :
    Chained posts := by
  cases posts with
  | nil => trivial
  | cons p rest =>
      simp only [List.mem_cons, forall_eq_or_imp] at waiting
      rw [chained_unsettled (by simp [waiting.1])]
      exact waiting.2

theorem Chained.append {posts more : List Post} (chained : Chained posts)
    (waiting : ∀ p ∈ more, p.state = .waiting) : Chained (posts ++ more) := by
  induction posts with
  | nil => exact .of_waiting waiting
  | cons p rest ih =>
      by_cases settled : p.state = .settled
      · rw [List.cons_append, chained_settled settled]
        exact ih ((chained_settled settled rest).mp chained)
      · rw [List.cons_append, chained_unsettled settled]
        have others := (chained_unsettled settled rest).mp chained
        intro q member
        rcases List.mem_append.mp member with old | new
        · exact others q old
        · exact waiting q new

/-- What was handed over comes before what is waiting. -/
theorem Chained.split {posts : List Post} (chained : Chained posts) :
    posts.map Post.signals = begun posts ++ unbegun posts := by
  induction posts with
  | nil => rfl
  | cons p rest ih =>
      cases state : p.state with
      | settled =>
          have tail := (chained_settled state rest).mp chained
          simp [begun, unbegun, state, ih tail]
      | waiting =>
          have others := (chained_unsettled (by simp [state]) rest).mp chained
          simp [begun, unbegun, state, begun_of_waiting others, unbegun_of_waiting others]
      | inFlight =>
          have others := (chained_unsettled (by simp [state]) rest).mp chained
          simp [begun, unbegun, state, begun_of_waiting others, unbegun_of_waiting others]

theorem Chained.inFlight_le {posts : List Post} (chained : Chained posts) :
    posts.countP (fun p => p.state = .inFlight) ≤ 1 := by
  induction posts with
  | nil => simp
  | cons p rest ih =>
      by_cases settled : p.state = .settled
      · simpa [settled] using ih ((chained_settled settled rest).mp chained)
      · have others := (chained_unsettled settled rest).mp chained
        have none : rest.countP (fun q => q.state = .inFlight) = 0 := by
          apply List.countP_eq_zero.mpr
          intro q member
          simp [others q member]
        rw [List.countP_cons, none]
        split <;> omega

/-- A post that can go on: its mutation can settle, or its callback can run. -/
def CanGo (posts : List Post) (place : Nat) (p : Post) : Prop :=
  posts[place]? = some p ∧ (p.state = .inFlight ∨ p.state = .waiting ∧
    (place = 0 ∨ (posts[place - 1]?).any fun before => before.state = .settled))

/-- Before a post that can go on all are settled, and none has begun after it. -/
theorem Chained.around {posts : List Post} {place : Nat} {p : Post} (chained : Chained posts)
    (canGo : CanGo posts place p) : ∃ front back, posts = front ++ p :: back ∧
      front.length = place ∧ (∀ q ∈ front, q.state = .settled) ∧
      ∀ q ∈ back, q.state = .waiting := by
  obtain ⟨present, goes⟩ := canGo
  have unsettled : p.state ≠ .settled := by
    rcases goes with inFlight | ⟨waiting, _⟩ <;> simp [*]
  induction posts generalizing place with
  | nil => simp at present
  | cons first rest ih =>
      cases place with
      | zero =>
          obtain rfl : first = p := by simpa using present
          exact ⟨[], rest, rfl, rfl, by simp, (chained_unsettled unsettled rest).mp chained⟩
      | succ place =>
          have found : rest[place]? = some p := by simpa using present
          have settled : first.state = .settled := by
            by_contra open_
            have others := (chained_unsettled open_ rest).mp chained
            rcases goes with inFlight | ⟨_, start | before⟩
            · have := others p (List.mem_of_getElem? found)
              rw [inFlight] at this
              cases this
            · cases start
            · cases place with
              | zero => simp [open_] at before
              | succ place =>
                  rw [Option.any_eq_true] at before
                  obtain ⟨q, earlier, isSettled⟩ := before
                  have := others q (List.mem_of_getElem? (by simpa using earlier))
                  simp [this] at isSettled
          have after : p.state = .inFlight ∨ p.state = .waiting ∧
              (place = 0 ∨ (rest[place - 1]?).any fun before => before.state = .settled) := by
            rcases goes with inFlight | ⟨waiting, before⟩
            · exact Or.inl inFlight
            · refine Or.inr ⟨waiting, ?_⟩
              cases place with
              | zero => exact Or.inl rfl
              | succ place => simpa using before
          obtain ⟨front, back, parts, length, before, later⟩ :=
            ih ((chained_settled settled rest).mp chained) found after
          refine ⟨first :: front, back, by rw [parts]; rfl, by simp [length], ?_, later⟩
          intro q member
          rcases List.mem_cons.mp member with rfl | member
          · exact settled
          · exact before q member

/-- Until every post is settled, one of them can go on. -/
theorem Chained.goes_on {posts : List Post} (chained : Chained posts) {p : Post}
    (member : p ∈ posts) (unsettled : p.state ≠ .settled) : ∃ place q, CanGo posts place q := by
  induction posts with
  | nil => cases member
  | cons first rest ih =>
      cases state : first.state with
      | waiting => exact ⟨0, first, rfl, Or.inr ⟨state, Or.inl rfl⟩⟩
      | inFlight => exact ⟨0, first, rfl, Or.inl state⟩
      | settled =>
          have later : p ∈ rest := by
            rcases List.mem_cons.mp member with rfl | later
            · exact absurd state unsettled
            · exact later
          obtain ⟨place, q, found, goes⟩ := ih ((chained_settled state rest).mp chained) later
          refine ⟨place + 1, q, by simpa using found, ?_⟩
          rcases goes with inFlight | ⟨waiting, before⟩
          · exact Or.inl inFlight
          · refine Or.inr ⟨waiting, Or.inr ?_⟩
            cases place with
            | zero => simp [state]
            | succ place => simpa using before

/-- How many steps a post has before it. -/
def PostState.steps : PostState → Nat
  | .waiting => 2
  | .inFlight => 1
  | .settled => 0

@[simp] theorem steps_waiting : PostState.waiting.steps = 2 := rfl

@[simp] theorem steps_inFlight : PostState.inFlight.steps = 1 := rfl

@[simp] theorem steps_settled : PostState.settled.steps = 0 := rfl

/-! ### The socket -/

namespace ConvexSignalSocket

/-- What the socket has taken up so far, and where it is now. -/
structure Orderly (s : ConvexSignalSocket) (accepted : List Bling.Signal) : Prop where
  chained : Chained s.sending
  handed : s.handed = begun s.sending
  sized : ∀ p ∈ s.sending, p.Sized
  whole : (s.sending.map Post.signals).flatten ++ s.ice = accepted
  few : s.ice.length < maxBatch
  waits : s.ice ≠ [] → s.iceTimer = true ∧ s.readyState ≠ .closed

/-- Posting puts waiting batches to the end of the chain. -/
theorem postAll_eq (turns : Nat) (s : ConvexSignalSocket) (enough : s.ice.length ≤ turns) :
    ∃ posts, postAll turns s = { s with ice := [], sending := s.sending ++ posts } ∧
      (∀ p ∈ posts, p.state = .waiting ∧ p.Sized) ∧ (posts.map Post.signals).flatten = s.ice := by
  induction turns generalizing s with
  | zero =>
      have none : s.ice = [] := List.length_eq_zero_iff.mp (Nat.le_zero.mp enough)
      refine ⟨[], ?_, by simp, none.symm⟩
      rw [List.append_nil, ← none]
      rfl
  | succ turns ih =>
      by_cases none : s.ice = []
      · refine ⟨[], ?_, by simp, none.symm⟩
        rw [postAll, if_pos none, List.append_nil, ← none]
      · have some : 0 < s.ice.length := List.length_pos_iff.mpr none
        have less : (s.ice.drop maxBatch).length ≤ turns := by
          rw [List.length_drop, maxBatch]
          omega
        obtain ⟨posts, same, waiting, whole⟩ :=
          ih ({ s with ice := s.ice.drop maxBatch }.post (s.ice.take maxBatch)) less
        refine ⟨⟨s.ice.take maxBatch, .waiting⟩ :: posts, ?_, ?_, ?_⟩
        · simp only [postAll, none, if_false, same]
          simp only [post, List.append_assoc, List.singleton_append]
        · intro p member
          rcases List.mem_cons.mp member with rfl | member
          · refine ⟨rfl, ?_, List.length_take_le _ _⟩
            simp only [List.length_take, maxBatch]
            omega
          · exact waiting p member
        · rw [List.map_cons, List.flatten_cons, whole]
          exact List.take_append_drop maxBatch s.ice

theorem flushIce_eq (s : ConvexSignalSocket) :
    ∃ posts, s.flushIce =
        { s with iceTimer := false, ice := [], sending := s.sending ++ posts } ∧
      (∀ p ∈ posts, p.state = .waiting ∧ p.Sized) ∧ (posts.map Post.signals).flatten = s.ice :=
  postAll_eq s.ice.length { s with iceTimer := false } (Nat.le_refl _)

section Orderly

variable {s : ConvexSignalSocket} {accepted : List Bling.Signal}

/-- A step that leaves what is sent alone. -/
theorem Orderly.same (orderly : s.Orderly accepted) {after : ConvexSignalSocket}
    (sending : after.sending = s.sending) (handed : after.handed = s.handed)
    (ice : after.ice = s.ice)
    (waits : s.ice ≠ [] → after.iceTimer = true ∧ after.readyState ≠ .closed) :
    after.Orderly accepted where
  chained := sending ▸ orderly.chained
  handed := by rw [handed, sending, orderly.handed]
  sized := sending ▸ orderly.sized
  whole := by rw [sending, ice, orderly.whole]
  few := ice ▸ orderly.few
  waits := ice ▸ waits

/-- Batches of what is held, and of what comes with it, go to the end of the chain. -/
theorem Orderly.posted (orderly : s.Orderly accepted) {after : ConvexSignalSocket}
    {posts : List Post} {more : List Bling.Signal} (sending : after.sending = s.sending ++ posts)
    (handed : after.handed = s.handed) (ice : after.ice = [])
    (waiting : ∀ p ∈ posts, p.state = .waiting ∧ p.Sized)
    (whole : (posts.map Post.signals).flatten = s.ice ++ more) :
    after.Orderly (accepted ++ more) where
  chained := by
    rw [sending]
    exact orderly.chained.append fun p member => (waiting p member).1
  handed := by
    rw [handed, sending, begun_append, begun_of_waiting fun p member => (waiting p member).1,
      List.append_nil, orderly.handed]
  sized := by
    rw [sending]
    intro p member
    rcases List.mem_append.mp member with old | new
    · exact orderly.sized p old
    · exact (waiting p new).2
  whole := by
    rw [sending, ice, List.map_append, List.flatten_append, whole, List.append_nil,
      ← List.append_assoc, orderly.whole]
  few := by
    rw [ice]
    decide
  waits := fun some => absurd ice some

theorem Orderly.flushIce (orderly : s.Orderly accepted) : s.flushIce.Orderly accepted := by
  obtain ⟨posts, same, waiting, whole⟩ := s.flushIce_eq
  have posted : s.flushIce.Orderly (accepted ++ []) :=
    orderly.posted (by rw [same]) (by rw [same]) (by rw [same]) waiting
      (by rw [whole, List.append_nil])
  rwa [List.append_nil] at posted

/-- What a call of `send` takes up. -/
def accepts (s : ConvexSignalSocket) : Event → List Bling.Signal
  | .send signal => if s.readyState = .open_ then [signal] else []
  | _ => []

theorem Orderly.send (orderly : s.Orderly accepted) (signal : Bling.Signal) :
    (s.send signal).Orderly (accepted ++ s.accepts (.send signal)) := by
  unfold ConvexSignalSocket.send
  by_cases isOpen : s.readyState = .open_
  · have taken : s.accepts (.send signal) = [signal] := if_pos isOpen
    rw [if_neg (not_not.mpr isOpen), taken]
    by_cases isIce : signal.type = .ice
    · rw [if_pos isIce]
      dsimp only
      by_cases full : maxBatch ≤ (s.ice ++ [signal]).length
      · rw [if_pos full]
        obtain ⟨posts, same, waiting, whole⟩ :=
          { s with ice := s.ice ++ [signal] }.flushIce_eq
        exact orderly.posted (by rw [same]) (by rw [same]) (by rw [same]) waiting whole
      · rw [if_neg full]
        exact
          { chained := orderly.chained
            handed := orderly.handed
            sized := orderly.sized
            whole := by
              show _ ++ (s.ice ++ [signal]) = _
              rw [← List.append_assoc, orderly.whole]
            few := Nat.lt_of_not_le full
            waits := fun _ => ⟨rfl, fun closed => by cases isOpen.symm.trans closed⟩ }
    · rw [if_neg isIce]
      obtain ⟨posts, same, waiting, whole⟩ := s.flushIce_eq
      refine @Orderly.posted _ _ orderly _ (posts ++ [⟨[signal], .waiting⟩]) _ ?_ ?_ ?_ ?_ ?_
      · simp only [post, same, List.append_assoc]
      · simp only [post, same]
      · simp only [post, same]
      · intro p member
        rcases List.mem_append.mp member with old | new
        · exact waiting p old
        · rw [List.mem_singleton.mp new]
          exact ⟨rfl, Nat.le_refl 1, (by decide : 1 ≤ maxBatch)⟩
      · simp [whole]
  · have taken : s.accepts (.send signal) = [] := if_neg isOpen
    rw [if_pos isOpen, taken, List.append_nil]
    exact orderly

theorem Orderly.turn (orderly : s.Orderly accepted) (place : Nat) :
    (s.turn place).Orderly accepted := by
  unfold ConvexSignalSocket.turn
  split
  · exact orderly
  · rename_i p present
    split
    · rename_i now
      obtain ⟨waiting, hasTurn⟩ := now
      have canGo : CanGo s.sending place p :=
        ⟨present, Or.inr ⟨waiting, by simpa [ConvexSignalSocket.hasTurn] using hasTurn⟩⟩
      obtain ⟨front, back, parts, length, before, later⟩ := orderly.chained.around canGo
      have set : s.sending.set place { p with state := .inFlight } =
          front ++ { p with state := .inFlight } :: back := by
        simp [parts, ← length]
      have old : begun s.sending = begun front := by
        rw [parts, begun_append]
        simp [begun, waiting, begun_of_waiting later]
      exact
        { chained := by
            show Chained (s.sending.set place _)
            rw [set, chained_append before, chained_unsettled (by simp)]
            exact later
          handed := by
            show s.handed ++ [p.signals] = begun (s.sending.set place _)
            rw [set, begun_append, orderly.handed, old]
            simp [begun, begun_of_waiting later]
          sized := by
            show ∀ q ∈ s.sending.set place _, q.Sized
            have sized := orderly.sized
            rw [parts] at sized
            rw [set]
            simpa [Post.Sized, or_imp, forall_and] using sized
          whole := by
            show ((s.sending.set place _).map Post.signals).flatten ++ s.ice = accepted
            rw [set, ← orderly.whole, parts]
            simp
          few := orderly.few
          waits := orderly.waits }
    · exact orderly

/-- A post whose mutation has settled. -/
theorem Orderly.settled (orderly : s.Orderly accepted) {place : Nat} {p : Post}
    (present : s.sending[place]? = some p) (inFlight : p.state = .inFlight) :
    { s with sending := s.sending.set place { p with state := .settled } }.Orderly accepted := by
  obtain ⟨front, back, parts, length, before, later⟩ :=
    orderly.chained.around ⟨present, Or.inl inFlight⟩
  have set : s.sending.set place { p with state := .settled } =
      front ++ { p with state := .settled } :: back := by
    simp [parts, ← length]
  exact
    { chained := by
        show Chained (s.sending.set place _)
        rw [set, chained_append before, chained_settled (by simp)]
        exact .of_waiting later
      handed := by
        show s.handed = begun (s.sending.set place _)
        rw [set, begun_append, orderly.handed, parts, begun_append]
        simp [begun, inFlight]
      sized := by
        show ∀ q ∈ s.sending.set place _, q.Sized
        have sized := orderly.sized
        rw [parts] at sized
        rw [set]
        simpa [Post.Sized, or_imp, forall_and] using sized
      whole := by
        show ((s.sending.set place _).map Post.signals).flatten ++ s.ice = accepted
        rw [set, ← orderly.whole, parts]
        simp
      few := orderly.few
      waits := orderly.waits }

/-! ### Any run -/

/-- No mutation of `signals.send` fails, nor does the inbox. -/
def Event.Succeeds : Event → Prop
  | .settle _ succeeds => succeeds = true
  | .update .throws => False
  | _ => True

instance (event : Event) : Decidable event.Succeeds := by
  unfold Event.Succeeds
  split <;> infer_instance

theorem receive_eq (s : ConvexSignalSocket) (signals : List Incoming) :
    ∃ seen unacked passed ackTimer,
      s.receive signals = { s with seen, unacked, passed, ackTimer } := by
  have taken : ∃ seen unacked passed,
      signals.foldl take s = { s with seen, unacked, passed } := by
    induction signals generalizing s with
    | nil => exact ⟨s.seen, s.unacked, s.passed, rfl⟩
    | cons signal rest ih =>
        obtain ⟨seen, unacked, passed, same⟩ := ih (s.take signal)
        rw [List.foldl_cons, same]
        unfold take
        split
        · exact ⟨seen, unacked, passed, rfl⟩
        · exact ⟨seen, unacked, passed, rfl⟩
  obtain ⟨seen, unacked, passed, same⟩ := taken
  unfold receive
  rw [same]
  dsimp only
  split
  · exact ⟨seen, unacked, passed, s.ackTimer, rfl⟩
  · exact ⟨seen, unacked, passed, true, rfl⟩

theorem Orderly.receive (orderly : s.Orderly accepted) (signals : List Incoming) :
    (s.receive signals).Orderly accepted := by
  obtain ⟨seen, unacked, passed, ackTimer, same⟩ := s.receive_eq signals
  rw [same]
  exact orderly.same rfl rfl rfl orderly.waits

theorem Orderly.flushAcks (orderly : s.Orderly accepted) : s.flushAcks.Orderly accepted := by
  unfold ConvexSignalSocket.flushAcks
  dsimp only
  split <;> exact orderly.same rfl rfl rfl orderly.waits

/-- A socket closes with nothing held back. -/
theorem Orderly.close (orderly : s.Orderly accepted) : s.close.Orderly accepted := by
  unfold ConvexSignalSocket.close
  split
  · exact orderly
  · obtain ⟨posts, same, _⟩ := s.flushIce_eq
    have empty : s.flushIce.flushAcks.ice = [] := by
      unfold ConvexSignalSocket.flushAcks
      dsimp only
      split <;> rw [same]
    exact orderly.flushIce.flushAcks.same rfl rfl rfl fun some => absurd empty some

/-- A step but one that sends. -/
theorem Orderly.other (orderly : s.Orderly accepted) {event : Event} (succeeds : event.Succeeds)
    (other : ∀ signal, event ≠ .send signal) : (s.step event).Orderly accepted := by
  cases event with
  | send signal => exact absurd rfl (other signal)
  | attach => exact orderly.same rfl rfl rfl orderly.waits
  | opened =>
      show s.opened.Orderly accepted
      unfold ConvexSignalSocket.opened
      split
      · exact orderly.same rfl rfl rfl fun some => ⟨(orderly.waits some).1, by simp⟩
      · exact orderly
  | iceTimer =>
      simp only [ConvexSignalSocket.step]
      split
      · exact orderly.flushIce
      · exact orderly
  | ackTimer =>
      simp only [ConvexSignalSocket.step]
      split
      · exact orderly.flushAcks
      · exact orderly
  | turn place => exact orderly.turn place
  | settle place succeeded =>
      obtain rfl : succeeded = true := succeeds
      show (s.settle place true).Orderly accepted
      unfold ConvexSignalSocket.settle
      split
      · exact orderly
      · split
        · rename_i p present inFlight
          exact orderly.settled present inFlight
        · exact orderly
  | update result =>
      simp only [ConvexSignalSocket.step]
      split
      · exact orderly
      · cases result with
        | none => exact orderly
        | signals signals => exact orderly.receive signals
        | throws => exact absurd succeeds id
  | close => exact orderly.close

theorem accepts_nil {event : Event} (other : ∀ signal, event ≠ .send signal) :
    s.accepts event = [] := by
  cases event with
  | send signal => exact absurd rfl (other signal)
  | _ => rfl

theorem Orderly.step (orderly : s.Orderly accepted) (event : Event) (succeeds : event.Succeeds) :
    (s.step event).Orderly (accepted ++ s.accepts event) := by
  by_cases sends : ∃ signal, event = .send signal
  · obtain ⟨signal, rfl⟩ := sends
    exact orderly.send signal
  · have other : ∀ signal, event ≠ .send signal := fun signal same => sends ⟨signal, same⟩
    rw [accepts_nil other, List.append_nil]
    exact orderly.other succeeds other

theorem new_orderly (result : QueryResult) : (new result).Orderly [] := by
  have fresh : (new .none).Orderly [] :=
    ⟨trivial, rfl, by simp [new, deliver], rfl, by decide, by simp [new, deliver]⟩
  cases result with
  | none => exact fresh
  | signals signals => exact fresh.receive signals
  | throws => exact fresh.same rfl rfl rfl fun some => absurd rfl some

/-! ### Until nothing is under way -/

/-- What is under way of the socket's own: the batch timer, a callback of the
chain, a mutation. -/
def Pending (s : ConvexSignalSocket) : Event → Prop
  | .iceTimer => s.iceTimer = true
  | .turn place => ∃ p, s.sending[place]? = some p ∧ p.state = .waiting ∧ s.hasTurn place = true
  | .settle place succeeds => succeeds = true ∧
    ∃ p, s.sending[place]? = some p ∧ p.state = .inFlight
  | _ => False

theorem Pending.succeeds {event : Event} (pending : s.Pending event) : event.Succeeds := by
  cases event <;> first | trivial | exact pending.1

/-- How many of these there can still be. -/
def left (s : ConvexSignalSocket) : Nat :=
  (if s.iceTimer then 1 else 0) + 2 * s.ice.length + (s.sending.map fun p => p.state.steps).sum

/-- Batches of a signal at least are no more than the signals. -/
theorem left_waiting {posts : List Post} (waiting : ∀ p ∈ posts, p.state = .waiting ∧ p.Sized) :
    (posts.map fun p => p.state.steps).sum ≤ 2 * (posts.map Post.signals).flatten.length := by
  induction posts with
  | nil => simp
  | cons p rest ih =>
      simp only [List.mem_cons, forall_eq_or_imp] at waiting
      have later := ih waiting.2
      obtain ⟨state, sized⟩ := waiting.1
      simp only [List.map_cons, List.sum_cons, List.flatten_cons, List.length_append, state,
        steps_waiting]
      have := sized.1
      omega

theorem left_set {posts : List Post} {place : Nat} {p : Post} (present : posts[place]? = some p)
    (state : PostState) : ((posts.set place { p with state }).map fun p => p.state.steps).sum +
      p.state.steps = (posts.map fun p => p.state.steps).sum + state.steps := by
  induction posts generalizing place with
  | nil => simp at present
  | cons first rest ih =>
      cases place with
      | zero =>
          obtain rfl : first = p := by simpa using present
          simp only [List.set_cons_zero, List.map_cons, List.sum_cons]
          omega
      | succ place =>
          have found : rest[place]? = some p := by simpa using present
          have later := ih found
          simp only [List.set_cons_succ, List.map_cons, List.sum_cons]
          omega

theorem Pending.left_lt {event : Event} (pending : s.Pending event) :
    (s.step event).left < s.left := by
  cases event with
  | iceTimer =>
      have set : s.iceTimer = true := pending
      obtain ⟨posts, same, waiting, whole⟩ := s.flushIce_eq
      have few := left_waiting waiting
      rw [whole] at few
      simp only [ConvexSignalSocket.step, set, if_true, same, left, List.map_append,
        List.sum_append, List.length_nil, Bool.false_eq_true, if_false]
      omega
  | turn place =>
      obtain ⟨p, present, waiting, hasTurn⟩ := pending
      have change := left_set present .inFlight
      simp only [waiting, steps_waiting, steps_inFlight] at change
      have after : s.turn place = { s with
          sending := s.sending.set place { p with state := .inFlight }
          handed := s.handed ++ [p.signals] } := by
        unfold ConvexSignalSocket.turn
        simp [present, waiting, hasTurn]
      simp only [ConvexSignalSocket.step, after, left]
      omega
  | settle place succeeds =>
      obtain ⟨rfl, p, present, inFlight⟩ := pending
      have change := left_set present .settled
      simp only [inFlight, steps_inFlight, steps_settled] at change
      have after : s.settle place true =
          { s with sending := s.sending.set place { p with state := .settled } } := by
        unfold ConvexSignalSocket.settle
        simp [present, inFlight]
      simp only [ConvexSignalSocket.step, after, left]
      omega
  | _ => exact absurd pending id

/-- Once nothing is under way all that was taken up has been handed over. -/
theorem Orderly.idle (orderly : s.Orderly accepted) (idle : ∀ event, ¬ s.Pending event) :
    s.handed.flatten = accepted := by
  have none : s.ice = [] := by
    by_contra some
    exact idle .iceTimer (orderly.waits some).1
  have settled : ∀ p ∈ s.sending, p.state = .settled := by
    intro p member
    by_contra unsettled
    obtain ⟨place, q, present, inFlight | ⟨waiting, before⟩⟩ :=
      orderly.chained.goes_on member unsettled
    · exact idle (.settle place true) ⟨rfl, q, present, inFlight⟩
    · exact idle (.turn place) ⟨q, present, waiting, by
        simpa [ConvexSignalSocket.hasTurn] using before⟩
  have all : begun s.sending = s.sending.map Post.signals := by
    have whole := (chained_append settled []).mpr trivial
    rw [List.append_nil] at whole
    rw [whole.split, unbegun_of_settled settled, List.append_nil]
  rw [orderly.handed, all, ← orderly.whole, none, List.append_nil]

theorem Orderly.prefix_ (orderly : s.Orderly accepted) : s.handed.flatten <+: accepted := by
  rw [← orderly.whole, orderly.chained.split, orderly.handed, List.flatten_append,
    List.append_assoc]
  exact List.prefix_append _ _

theorem Orderly.batch (orderly : s.Orderly accepted) {batch : List Bling.Signal}
    (member : batch ∈ s.handed) : 1 ≤ batch.length ∧ batch.length ≤ maxBatch := by
  rw [orderly.handed] at member
  have listed : batch ∈ s.sending.map Post.signals := by
    rw [orderly.chained.split]
    exact List.mem_append_left _ member
  obtain ⟨p, present, rfl⟩ := List.mem_map.mp listed
  exact orderly.sized p present

/-- In any run without a failure, the batches handed to `signals.send` are what
was accepted while the socket was open, in order: a prefix of it, and all of it
once nothing is under way, which the socket gets to by itself. -/
theorem signals_in_order (result : QueryResult) (events : List Event)
    (succeed : ∀ event ∈ events, event.Succeeds) :
    let s := run step (new result) events
    let accepted := outputs step accepts (new result) events
    s.handed.flatten <+: accepted ∧
    (∀ batch ∈ s.handed,
      1 ≤ batch.length ∧ batch.length ≤ maxBatch ∧ batch.length ≤ maxSignalBatch) ∧
    s.sending.countP (fun p => p.state = .inFlight) ≤ 1 ∧
    ∀ own, Along step Pending s own → own.length ≤ s.left ∧
      ((∀ event, ¬ (run step s own).Pending event) →
        (run step s own).handed.flatten = accepted) := by
  intro s accepted
  have orderly : s.Orderly accepted :=
    outputs_keeps Orderly (fun _ event _ orderly succeeds => orderly.step event succeeds)
      (new_orderly result) (along_of_forall succeed)
  refine ⟨orderly.prefix_, ?_, orderly.chained.inFlight_le, ?_⟩
  · intro batch member
    have := orderly.batch member
    exact ⟨this.1, this.2, this.2⟩
  · intro own pending
    constructor
    · exact along_bounded left (fun _ _ pending => pending.left_lt) pending
    · intro idle
      have kept : (run step s own).Orderly accepted := by
        refine run_keeps (fun s => s.Orderly accepted) ?_ orderly pending
        intro state event orderly pending
        refine orderly.other pending.succeeds fun signal same => ?_
        subst same
        exact pending
      exact kept.idle idle

/-- A candidate, an offer and a candidate of a socket that closes. -/
theorem signals_in_order_three :
    let s := run step (new .none) [.opened, .send ⟨.ice, []⟩, .send ⟨.offer, []⟩, .turn 0,
      .send ⟨.ice, []⟩, .close, .settle 0 true, .turn 1, .settle 1 true, .turn 2]
    s.handed.flatten <+: [⟨.ice, []⟩, ⟨.offer, []⟩, ⟨.ice, []⟩] := by
  intro s
  exact (signals_in_order .none _ (by decide)).1

end Orderly

end ConvexSignalSocket

end Bling.WebRTC
