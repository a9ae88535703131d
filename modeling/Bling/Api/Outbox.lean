import Bling.Api.Transactions

set_option autoImplicit false

namespace Bling.Api

open Library

/-! What the transactions on the queue write to `queue_outbox`, and that their
events tell who waits in the shows that are live. -/

/-! ### Events -/

structure Candidate where
  entryId : EntryId
  showId : ShowId
  priorityRank : Nat
  queuePosition : Nat
deriving DecidableEq

inductive OutboxType where
  | callerJoined | callerLeft | callerSelected | showEnded
  /-- `call.connecting` and the like, which concern no index. -/
  | call
deriving DecidableEq

structure OutboxEvent where
  eventType : OutboxType
  candidate : Candidate
deriving DecidableEq

def candidateFromEntry (entryId : EntryId) (entry : QueueEntry) : Candidate :=
  ⟨entryId, entry.showId, entry.priorityRank, entry.queuePosition⟩

/-- `candidatesKey`, with the member that is looked for in its set. -/
structure IndexKey where
  showId : ShowId
  priorityRank : Nat
  entryId : EntryId
deriving DecidableEq

def Candidate.key (candidate : Candidate) : IndexKey :=
  ⟨candidate.showId, candidate.priorityRank, candidate.entryId⟩

/-- What the event makes of the position under a key. -/
def OutboxEvent.effect (event : OutboxEvent) (key : IndexKey) (position : Option Nat) :
    Option Nat :=
  match event.eventType with
  | .callerJoined =>
    if event.candidate.key = key then some event.candidate.queuePosition else position
  | .callerLeft | .callerSelected => if event.candidate.key = key then none else position
  | .showEnded => if event.candidate.showId = key.showId then none else position
  | .call => position

/-- The position under which an entry waits. -/
def QueueEntry.waitsAs (entry : QueueEntry) (showId : ShowId) (priorityRank : Nat) : Option Nat :=
  if entry.showId = showId ∧ entry.priorityRank = priorityRank ∧ entry.status = .waiting then
    some entry.queuePosition
  else none

def DB.waiting (db : DB) (key : IndexKey) : Option Nat :=
  (db.queueEntries.get key.entryId).bind fun entry => entry.waitsAs key.showId key.priorityRank

def DB.showLive (db : DB) (showId : ShowId) : Bool :=
  (db.shows.get showId).any fun hotline => hotline.status == .live

/-! ### What each transaction inserts -/

def callerOf (db : DB) (showId : ShowId) : Choice → Option (EntryId × QueueEntry)
  | .manual entryId => lockCaller db showId entryId
  | .random pivot => randomCaller db showId pivot

def entryOfCall (db : DB) (callId : CallId) : Option (EntryId × QueueEntry) :=
  (db.calls.get callId).bind fun call =>
    (db.queueEntries.get call.queueEntryId).map fun entry => (call.queueEntryId, entry)

/-- The calls of an expiry. -/
def dueDisconnected (now : Time) (db : DB) (grace : Time) (limit : Nat) : List (CallId × Call) :=
  ((db.calls.query fun c => c.status ∈ openStatuses &&
    c.disconnectedAt.any fun at_ => at_ + grace ≤ now).insertionSort fun a b =>
      a.2.disconnectedAt.getD 0 ≤ b.2.disconnectedAt.getD 0).take limit

def dueCalls (now : Time) (db : DB) (limit : Nat) : List (CallId × Call) :=
  ((db.calls.query fun c => c.status == .live &&
    c.expiresAt.any fun at_ => at_ ≤ now).insertionSort fun a b =>
      a.2.expiresAt.getD 0 ≤ b.2.expiresAt.getD 0).take limit

def callEvent (db : DB) (call : Call) : OutboxEvent :=
  ⟨.call, call.queueEntryId, call.showId,
    ((db.queueEntries.get call.queueEntryId).map QueueEntry.priorityRank).getD 0, 0⟩

/-- The events of a transaction that has committed. For a paid caller the row read
when the caller was chosen is passed on. -/
def emitted (now : Time) (s : State) (selected : Reservation → Option Candidate) :
    Op → List OutboxEvent
  | .join input =>
    match join now s.db input with
    | .error _ => []
    | .ok (after, entryId) =>
      if (existingEntry s.db input).all fun row => row.2.status == .left then
        (after.queueEntries.get entryId).toList.map fun entry =>
          ⟨.callerJoined, candidateFromEntry entryId entry⟩
      else []
  | .leave showId sessionTokenHash =>
    match s.db.queueEntries.first fun q =>
        q.showId == showId && q.sessionTokenHash == sessionTokenHash with
    | none => []
    | some (entryId, entry) =>
      match leave now s.db showId sessionTokenHash with
      | .error _ => []
      | .ok _ => if entry.status = .waiting then
          [⟨.callerLeft, candidateFromEntry entryId entry⟩] else []
  | .select showId creatorId choice =>
    match select now s.db showId creatorId choice with
    | .ok (_, none) => (callerOf s.db showId choice).toList.map fun row =>
        ⟨.callerSelected, candidateFromEntry row.1 row.2⟩
    | _ => []
  | .complete r =>
    if r ∈ s.reservations ∧ s.db.showLive r.showId then
      match completePaidSelection now s.db r with
      | .error _ => []
      | .ok _ => (selected r).toList.map fun candidate => ⟨.callerSelected, candidate⟩
    else []
  | .fail r =>
    if r ∈ s.reservations then
      match failPaidSelection now s.db r.callId r.attemptId with
      | .error _ => []
      | .ok _ => (entryOfCall s.db r.callId).toList.map fun row =>
          ⟨.callerLeft, candidateFromEntry row.1 row.2⟩
    else []
  | .transition showId callId party target =>
    match authorizedCall s.db showId callId party with
    | none => []
    | some call =>
      match transition now s.db showId callId party target with
      | .error _ => []
      | .ok _ => if call.status = target then [] else [callEvent s.db call]
  | .expireDisconnected grace limit =>
    match expireDisconnected now s.db grace limit with
    | .error _ => []
    | .ok _ => (dueDisconnected now s.db grace limit).map fun row => callEvent s.db row.2
  | .expireDue limit =>
    match expireDue now s.db limit with
    | .error _ => []
    | .ok _ => (dueCalls now s.db limit).map fun row => callEvent s.db row.2
  | .reconcile intentId outcome failureCode =>
    match reconcile now s.db intentId outcome failureCode with
    | .error _ => []
    | .ok _ =>
      match s.db.paymentAttempts.first fun a => a.stripePaymentIntentId == some intentId with
      | none => []
      | some (attemptId, attempt) =>
        if outcome = .captured then
          match s.db.calls.first fun c => c.paymentAttemptId == some attemptId with
          | none => []
          | some (callId, call) =>
            if call.status ≠ .paymentPending ∨
                call.startedAt = none ∧ ¬ s.db.showLive attempt.showId then []
            else (entryOfCall s.db callId).toList.map fun row =>
              ⟨.callerSelected, { candidateFromEntry row.1 row.2 with showId := attempt.showId }⟩
        else if attempt.status = .captured then []
        else (s.db.queueEntries.first fun q => q.paymentAttemptId == some attemptId &&
            q.status == .waiting).toList.map fun row =>
          ⟨.callerLeft, { candidateFromEntry row.1 row.2 with showId := attempt.showId }⟩
  | .endShow showId creatorId =>
    match endShow now s.db showId creatorId with
    | .error _ => []
    | .ok _ => if s.db.showLive showId then [⟨.showEnded, 0, showId, 0, 0⟩] else []
  | _ => []

/-- A transaction that moves a caller who waits tells of it under the caller's key. -/
def told (now : Time) (s : State) (selected : Reservation → Option Candidate) : Op → Bool
  | .complete r => (s.db.queueEntries.get r.entryId).all fun entry => entry.status != .waiting ||
      (selected r).any fun candidate =>
        candidate.key == (candidateFromEntry r.entryId entry).key
  | .transition showId callId party target =>
    (authorizedCall s.db showId callId party).all fun call => call.status == target ||
      (s.db.queueEntries.get call.queueEntryId).all fun entry => entry.status != .waiting
  | .expireDisconnected grace limit => (dueDisconnected now s.db grace limit).all fun row =>
      (s.db.queueEntries.get row.2.queueEntryId).all fun entry => entry.status != .waiting
  | .expireDue limit => (dueCalls now s.db limit).all fun row =>
      (s.db.queueEntries.get row.2.queueEntryId).all fun entry => entry.status != .waiting
  | _ => true

/-! ### Who waits -/

/-- What becomes of the positions in the shows that are live is what events tell. -/
structure Tracks (db after : DB) (events : List OutboxEvent) : Prop where
  live : ∀ showId, after.showLive showId = true → db.showLive showId = true
  waiting : ∀ key, after.showLive key.showId = true →
    after.waiting key = events.foldl (fun position event => event.effect key position)
      (db.waiting key)

section Tracks

variable {db after : DB} {events : List OutboxEvent}

theorem Tracks.of_eq (shows : after.shows = db.shows)
    (entries : after.queueEntries = db.queueEntries)
    (silent : ∀ event ∈ events, event.eventType = .call) : Tracks db after events := by
  refine ⟨fun showId live => ?_, fun key _ => ?_⟩
  · unfold DB.showLive at live ⊢
    rwa [shows] at live
  · have same : after.waiting key = db.waiting key := by rw [DB.waiting, DB.waiting, entries]
    rw [same]
    clear same
    induction events with
    | nil => rfl
    | cons event rest ih =>
        have calm : event.effect key (db.waiting key) = db.waiting key := by
          rw [OutboxEvent.effect, silent event List.mem_cons_self]
        rw [List.foldl_cons, calm]
        exact ih fun other member => silent other (List.mem_cons_of_mem _ member)

theorem Tracks.refl (db : DB) : Tracks db db [] := .of_eq rfl rfl nofun

theorem Tracks.trans {middle : DB} {more : List OutboxEvent} (first : Tracks db middle events)
    (second : Tracks middle after more) : Tracks db after (events ++ more) := by
  refine ⟨fun showId live => first.live showId (second.live showId live), fun key live => ?_⟩
  rw [List.foldl_append, ← first.waiting key (second.live _ live)]
  exact second.waiting key live

/-- Calls and payments are of no concern. -/
theorem Tracks.congr {middle : DB} (tracks : Tracks db middle events)
    (shows : after.shows = middle.shows) (entries : after.queueEntries = middle.queueEntries) :
    Tracks db after events := by
  have silent : Tracks middle after [] := .of_eq shows entries nofun
  have both := tracks.trans silent
  rwa [List.append_nil] at both

theorem waitsAs_none {entry : QueueEntry} (idle : entry.status ≠ .waiting) (showId : ShowId)
    (priorityRank : Nat) : entry.waitsAs showId priorityRank = none :=
  if_neg fun waits => idle waits.2.2

theorem waitsAs_some {entry : QueueEntry} {showId : ShowId} {priorityRank position : Nat}
    (waits : entry.waitsAs showId priorityRank = some position) :
    entry.showId = showId ∧ entry.priorityRank = priorityRank ∧ entry.status = .waiting := by
  unfold QueueEntry.waitsAs at waits
  rw [Option.ite_none_right_eq_some] at waits
  exact waits.1

theorem waiting_of_get {key : IndexKey} {entry : QueueEntry}
    (found : db.queueEntries.get key.entryId = some entry) :
    db.waiting key = entry.waitsAs key.showId key.priorityRank := by
  rw [DB.waiting, found, Option.bind_some]

/-- An entry that goes on waiting as before, or not to wait. -/
theorem Tracks.idle {entryId : EntryId} {f : QueueEntry → QueueEntry}
    (idle : ∀ entry, db.queueEntries.get entryId = some entry → ∀ showId priorityRank,
      (f entry).waitsAs showId priorityRank = entry.waitsAs showId priorityRank) :
    Tracks db { db with queueEntries := db.queueEntries.patch entryId f } [] := by
  refine ⟨fun _ live => live, fun key _ => ?_⟩
  show ((db.queueEntries.patch entryId f).get key.entryId).bind _ = db.waiting key
  rw [Table.get_patch, DB.waiting]
  split
  · rename_i here
    cases found : db.queueEntries.get key.entryId with
    | none => rfl
    | some entry => exact idle entry (here ▸ found) key.showId key.priorityRank
  · rfl

/-- An entry that waits no more, with the event that tells it. -/
theorem Tracks.leaves {entryId : EntryId} {f : QueueEntry → QueueEntry} {event : OutboxEvent}
    (left : ∀ entry, db.queueEntries.get entryId = some entry → (f entry).status ≠ .waiting)
    (removes : event.eventType = .callerLeft ∨ event.eventType = .callerSelected)
    (about : event.candidate.entryId = entryId)
    (named : ∀ entry, db.queueEntries.get entryId = some entry → entry.status = .waiting →
      event.candidate.key = (candidateFromEntry entryId entry).key) :
    Tracks db { db with queueEntries := db.queueEntries.patch entryId f } [event] := by
  refine ⟨fun _ live => live, fun key _ => ?_⟩
  have effect : event.effect key (db.waiting key) =
      if event.candidate.key = key then none else db.waiting key := by
    rcases removes with kind | kind <;> rw [OutboxEvent.effect, kind]
  rw [List.foldl_cons, List.foldl_nil, effect]
  by_cases here : key.entryId = entryId
  · subst here
    cases found : db.queueEntries.get key.entryId with
    | none =>
        have absent : ({ db with queueEntries := db.queueEntries.patch key.entryId f } : DB).waiting
            key = none := by
          show ((db.queueEntries.patch key.entryId f).get key.entryId).bind _ = none
          rw [Table.get_patch, if_pos rfl, found]
          rfl
        rw [absent, DB.waiting, found, Option.bind_none, ite_self]
    | some entry =>
        have gone : ({ db with queueEntries := db.queueEntries.patch key.entryId f } : DB).waiting
            key = none := by
          exact (waiting_of_get (Table.get_patch_self found f)).trans
            (waitsAs_none (left entry found) _ _)
        rw [gone]
        split
        · rfl
        · rename_i other
          symm
          rw [waiting_of_get found, Option.eq_none_iff_forall_ne_some]
          intro position waits
          obtain ⟨inShow, rank, waiting⟩ := waitsAs_some waits
          refine other ((named entry found waiting).trans ?_)
          obtain ⟨showId, priorityRank, keyEntry⟩ := key
          subst inShow rank
          rfl
  · rw [if_neg fun same => here (by rw [← same]; exact about)]
    show ((db.queueEntries.patch entryId f).get key.entryId).bind _ = _
    rw [Table.get_patch_of_ne here]
    rfl

/-- What an entry that waits now is under each key. -/
theorem joined_effect {entryId : EntryId} {entry : QueueEntry} (waits : entry.status = .waiting)
    {key : IndexKey} (here : key.entryId = entryId) {before : Option Nat} (idle : before = none) :
    entry.waitsAs key.showId key.priorityRank =
      OutboxEvent.effect ⟨.callerJoined, candidateFromEntry entryId entry⟩ key before := by
  subst idle here
  unfold QueueEntry.waitsAs OutboxEvent.effect
  obtain ⟨showId, priorityRank, keyEntry⟩ := key
  simp only [candidateFromEntry, Candidate.key, IndexKey.mk.injEq, waits, and_true]

/-- An entry that did not wait joins again. -/
theorem Tracks.rejoins {entryId : EntryId} {entry : QueueEntry} {f : QueueEntry → QueueEntry}
    (found : db.queueEntries.get entryId = some entry) (idle : entry.status ≠ .waiting)
    (waits : (f entry).status = .waiting) :
    Tracks db { db with queueEntries := db.queueEntries.patch entryId f }
      [⟨.callerJoined, candidateFromEntry entryId (f entry)⟩] := by
  refine ⟨fun _ live => live, fun key _ => ?_⟩
  rw [List.foldl_cons, List.foldl_nil]
  by_cases here : key.entryId = entryId
  · subst here
    refine (waiting_of_get (Table.get_patch_self found f)).trans (joined_effect waits rfl ?_)
    rw [waiting_of_get found, waitsAs_none idle]
  · have other : (candidateFromEntry entryId (f entry)).key ≠ key := fun same =>
      here (by rw [← same]; rfl)
    show ((db.queueEntries.patch entryId f).get key.entryId).bind _ = _
    rw [Table.get_patch_of_ne here, OutboxEvent.effect]
    exact (if_neg other).symm

/-- A new entry joins. -/
theorem Tracks.joins {entry : QueueEntry} (waits : entry.status = .waiting) :
    Tracks db { db with queueEntries := db.queueEntries.insert entry }
      [⟨.callerJoined, candidateFromEntry db.queueEntries.next entry⟩] := by
  refine ⟨fun _ live => live, fun key _ => ?_⟩
  rw [List.foldl_cons, List.foldl_nil]
  by_cases here : key.entryId = db.queueEntries.next
  · have there : (db.queueEntries.insert entry).get key.entryId = some entry := by
      rw [here]
      exact Table.get_insert_next _ _
    refine (waiting_of_get there).trans (joined_effect waits here ?_)
    rw [DB.waiting, here, Table.get_next]
    rfl
  · have other : (candidateFromEntry db.queueEntries.next entry).key ≠ key := fun same =>
      here (by rw [← same]; rfl)
    show ((db.queueEntries.insert entry).get key.entryId).bind _ = _
    rw [Table.get_insert, if_neg here, OutboxEvent.effect]
    exact (if_neg other).symm

/-! ### Each transaction -/

theorem prepare_tracks {showId : ShowId} {tierId : TierId} {viewerTokenHash keyHash : Hash}
    {payerUserId : Option UserId} {stripeCustomerId : Option StripeId}
    (ok : prepare db showId tierId viewerTokenHash keyHash payerUserId stripeCustomerId = .ok after) :
    Tracks db after [] := by
  unfold prepare at ok
  repeat' split at ok
  all_goals cases ok
  all_goals exact .of_eq rfl rfl nofun

theorem attachIntent_tracks {attemptId : AttemptId} {intentId : StripeId}
    (ok : attachIntent db attemptId intentId = .ok after) : Tracks db after [] := by
  unfold attachIntent at ok
  repeat' split at ok
  all_goals cases ok
  all_goals exact .of_eq rfl rfl nofun

theorem claimPayment_same {payment : Option AttemptId} {entryId : EntryId}
    (ok : claimPayment db payment entryId = .ok after) :
    after.shows = db.shows ∧ after.queueEntries = db.queueEntries := by
  obtain ⟨_, rfl, _⟩ := claimPayment_ok ok
  exact ⟨rfl, rfl⟩

theorem joinedEntry_waits (now : Time) (db : DB) (input : JoinInput) (tierId : TierId)
    (tier : ShowTier) (payment : Option AttemptId) :
    (joinedEntry now db input tierId tier payment).status = .waiting := rfl

/-- A join tells of an entry that did not wait and now does. -/
theorem join_tracks {now : Time} {input : JoinInput} {joinedId : EntryId}
    (ok : join now db input = .ok (after, joinedId)) :
    Tracks db after (if (existingEntry db input).all fun row => row.2.status == .left then
      (after.queueEntries.get joinedId).toList.map fun entry =>
        ⟨.callerJoined, candidateFromEntry joinedId entry⟩ else []) := by
  unfold join at ok
  split at ok
  · cases ok
  · split at ok
    · cases ok
    · obtain ⟨⟨tierId, tier⟩, _, ok⟩ := bind_ok ok
      obtain ⟨payment, _, ok⟩ := bind_ok ok
      split at ok
      · rename_i entryId existing located
        have present := (existingEntry_some located).1
        rw [located]
        split at ok
        · rename_i waits
          obtain ⟨moved, updated, ok⟩ := bind_ok ok
          obtain ⟨rfl, rfl⟩ := Prod.mk.inj (Except.ok.inj ok)
          obtain ⟨rfl, _⟩ := updateEntry_ok updated
          rw [Option.all_some, waits, if_neg (by decide)]
          exact .idle fun _ _ _ _ => rfl
        · rename_i idle
          split at ok
          · rename_i isLeft
            obtain ⟨moved, updated, ok⟩ := bind_ok ok
            obtain ⟨claimed, claims, ok⟩ := bind_ok ok
            obtain ⟨rfl, rfl⟩ := Prod.mk.inj (Except.ok.inj ok)
            obtain ⟨rfl, _⟩ := updateEntry_ok updated
            obtain ⟨shows, entries⟩ := claimPayment_same claims
            rw [Option.all_some, isLeft, if_pos (by decide), entries]
            dsimp only
            rw [Table.get_patch_self present]
            refine Tracks.congr ?_ shows entries
            exact (Tracks.rejoins (f := fun e =>
              { joinedEntry now db input tierId tier payment with
                showId := e.showId
                selectedAt := e.selectedAt }) present idle rfl).congr rfl rfl
          · rename_i stays
            obtain ⟨rfl, rfl⟩ := Prod.mk.inj (Except.ok.inj ok)
            rw [Option.all_some, if_neg (by simpa using stays)]
            exact .refl _
      · rename_i located
        obtain ⟨inserted, inserts, ok⟩ := bind_ok ok
        obtain ⟨claimed, claims, ok⟩ := bind_ok ok
        obtain ⟨rfl, rfl⟩ := Prod.mk.inj (Except.ok.inj ok)
        obtain ⟨rfl, _⟩ := insertQueueEntry_ok inserts
        obtain ⟨shows, entries⟩ := claimPayment_same claims
        rw [located, Option.all_none, if_pos rfl, entries]
        dsimp only
        rw [Table.get_insert_next]
        refine Tracks.congr ?_ shows entries
        exact (Tracks.joins (joinedEntry_waits ..)).congr rfl rfl

theorem leave_tracks {now : Time} {showId : ShowId} {sessionTokenHash : Hash} {entryId : EntryId}
    {entry : QueueEntry}
    (located : (db.queueEntries.first fun q =>
      q.showId == showId && q.sessionTokenHash == sessionTokenHash) = some (entryId, entry))
    (ok : leave now db showId sessionTokenHash = .ok after) :
    Tracks db after (if entry.status = .waiting then
      [⟨.callerLeft, candidateFromEntry entryId entry⟩] else []) := by
  have present : db.queueEntries.get entryId = some entry := (Table.first_some located).1
  simp only [leave, located] at ok
  split at ok
  · rename_i isLeft
    obtain rfl := Except.ok.inj ok
    rw [if_neg (by rw [isLeft]; decide)]
    exact .refl _
  · split at ok
    · cases ok
    · rename_i waiting
      obtain ⟨rfl, _⟩ := updateEntry_ok ok
      rw [if_pos (not_not.mp waiting)]
      refine .leaves (fun _ _ => by simp) (Or.inl rfl) rfl fun other found _ => ?_
      obtain rfl := Option.some.inj (present.symm.trans found)
      rfl

theorem callerOf_some {showId : ShowId} {choice : Choice} {entryId : EntryId} {entry : QueueEntry}
    (chosen : callerOf db showId choice = some (entryId, entry)) :
    db.queueEntries.get entryId = some entry ∧ entry.showId = showId ∧ entry.status = .waiting := by
  cases choice with
  | manual asked => exact lockCaller_some chosen
  | random pivot => exact randomCaller_some chosen

theorem insertCall_same {call : Call} (ok : insertCall db call = .ok after) :
    after.shows = db.shows ∧ after.queueEntries = db.queueEntries := by
  obtain ⟨rfl, _⟩ := insertCall_ok ok
  exact ⟨rfl, rfl⟩

/-- A selection takes the caller it reads. -/
theorem select_ok {now : Time} {showId : ShowId} {creatorId : UserId} {choice : Choice}
    {reservation : Option Reservation}
    (ok : select now db showId creatorId choice = .ok (after, reservation)) :
    ∃ entryId entry, callerOf db showId choice = some (entryId, entry) ∧
      (if 0 < entry.tierPriceCents then selectPaid now db showId entryId entry choice.mode
      else do
        let db ← updateEntry db entryId fun e =>
          { e with status := .selected, selectedAt := some now }
        let db ← insertCall db (newCall now showId entryId entry choice.mode .created none)
        .ok (db, none)) = .ok (after, reservation) := by
  unfold select at ok
  split at ok
  · cases ok
  · split at ok
    · cases ok
    · split at ok
      · cases ok
      · split at ok
        · cases ok
        · cases choice with
          | manual id =>
              dsimp only at ok
              split at ok
              · cases ok
              · rename_i entryId entry chosen
                exact ⟨entryId, entry, chosen, ok⟩
          | random pivot =>
              dsimp only at ok
              split at ok
              · cases ok
              · rename_i entryId entry chosen
                exact ⟨entryId, entry, chosen, ok⟩

/-- A selection tells of a free caller, and of a paid one when the payment is taken. -/
theorem select_tracks {now : Time} {showId : ShowId} {creatorId : UserId} {choice : Choice}
    {reservation : Option Reservation}
    (ok : select now db showId creatorId choice = .ok (after, reservation)) :
    Tracks db after (match reservation with
      | none => (callerOf db showId choice).toList.map fun row =>
        ⟨.callerSelected, candidateFromEntry row.1 row.2⟩
      | some _ => []) := by
  obtain ⟨entryId, entry, chosen, ok⟩ := select_ok ok
  obtain ⟨present, inShow, waits⟩ := callerOf_some chosen
  split at ok
  · unfold selectPaid at ok
    split at ok
    · cases ok
    · split at ok
      · cases ok
      · split at ok
        · cases ok
        · obtain ⟨inserted, inserts, ok⟩ := bind_ok ok
          obtain ⟨rfl, rfl⟩ := Prod.mk.inj (Except.ok.inj ok)
          obtain ⟨shows, entries⟩ := insertCall_same inserts
          exact .of_eq shows entries fun _ member => by cases member
  · obtain ⟨moved, updated, ok⟩ := bind_ok ok
    obtain ⟨inserted, inserts, ok⟩ := bind_ok ok
    obtain ⟨rfl, rfl⟩ := Prod.mk.inj (Except.ok.inj ok)
    obtain ⟨rfl, _⟩ := updateEntry_ok updated
    obtain ⟨shows, entries⟩ := insertCall_same inserts
    rw [chosen]
    refine Tracks.congr ?_ shows entries
    refine .leaves (fun _ _ => by simp) (Or.inr rfl) rfl fun other found _ => ?_
    obtain rfl := Option.some.inj (present.symm.trans found)
    rfl

/-- A paid caller is reserved under the entry that was read. -/
theorem select_entry {now : Time} {showId : ShowId} {creatorId : UserId} {choice : Choice}
    {r : Reservation} (ok : select now db showId creatorId choice = .ok (after, some r))
    {row : EntryId × QueueEntry} (chosen : callerOf db showId choice = some row) :
    row.1 = r.entryId := by
  obtain ⟨entryId, entry, read, ok⟩ := select_ok ok
  obtain rfl := Option.some.inj (chosen.symm.trans read)
  split at ok
  · unfold selectPaid at ok
    split at ok
    · cases ok
    · split at ok
      · cases ok
      · split at ok
        · cases ok
        · obtain ⟨inserted, _, ok⟩ := bind_ok ok
          obtain ⟨rfl, reserved⟩ := Prod.mk.inj (Except.ok.inj ok)
          obtain rfl := Option.some.inj reserved
          rfl
  · obtain ⟨moved, _, ok⟩ := bind_ok ok
    obtain ⟨inserted, _, ok⟩ := bind_ok ok
    cases Except.ok.inj ok

theorem seatWaiting_idle {now : Time} {entry : QueueEntry} :
    (seatWaiting now entry).status ≠ .waiting := by
  unfold seatWaiting
  split
  · nofun
  · assumption

/-- Where the show is live, a paid caller who still waits waits no more. -/
theorem complete_tracks {now : Time} {r : Reservation} {candidate : Option Candidate}
    (mine : ∀ c, candidate = some c → c.entryId = r.entryId)
    (told : (db.queueEntries.get r.entryId).all (fun entry => entry.status != .waiting ||
      candidate.any fun c => c.key == (candidateFromEntry r.entryId entry).key) = true)
    (ok : completePaidSelection now db r = .ok after) :
    Tracks db after (if db.showLive r.showId then
      candidate.toList.map fun c => ⟨.callerSelected, c⟩ else []) := by
  unfold completePaidSelection at ok
  split at ok
  · cases ok
  · rename_i hotline host
    have status : db.showLive r.showId = (hotline.status == .live) := by
      rw [DB.showLive, host, Option.any_some]
    dsimp only at ok
    split at ok
    · rename_i ended
      obtain rfl := Except.ok.inj ok
      rw [status, if_neg (by simpa using ended)]
      exact .of_eq rfl rfl nofun
    · rename_i live
      obtain ⟨seated, updated, ok⟩ := bind_ok ok
      have same : after.shows = seated.shows ∧ after.queueEntries = seated.queueEntries := by
        split at ok
        · cases ok
        · split at ok
          · cases ok
          · obtain rfl := Except.ok.inj ok
            exact ⟨rfl, rfl⟩
      obtain ⟨rfl, _⟩ := updateEntry_ok updated
      rw [status, if_pos (by simpa using live)]
      refine Tracks.congr ?_ same.1 same.2
      cases candidate with
      | none =>
          refine (Tracks.idle (f := seatWaiting now) ?_).congr rfl rfl
          intro entry found showId priorityRank
          rw [found] at told
          have idle : entry.status ≠ .waiting := by simpa using told
          rw [seatWaiting, if_neg idle]
      | some c =>
          refine (Tracks.leaves (f := seatWaiting now) (fun _ _ => seatWaiting_idle) (Or.inr rfl)
            (mine c rfl) fun entry found waits => ?_).congr rfl rfl
          rw [found] at told
          simpa [waits] using told

theorem failPending_entry (now : Time) (call : Call) :
    (failPending now call).queueEntryId = call.queueEntryId := by
  unfold failPending
  split <;> rfl

theorem fail_tracks {now : Time} {callId : CallId} {attemptId : AttemptId}
    (ok : failPaidSelection now db callId attemptId = .ok after) :
    Tracks db after ((entryOfCall db callId).toList.map fun row =>
      ⟨.callerLeft, candidateFromEntry row.1 row.2⟩) := by
  unfold failPaidSelection at ok
  dsimp only at ok
  split at ok
  · cases ok
  · rename_i failed located
    change (db.calls.patch callId (failPending now)).get callId = some failed at located
    rw [Table.get_patch, if_pos rfl] at located
    obtain ⟨call, found, rfl⟩ := Option.map_eq_some_iff.mp located
    rw [failPending_entry] at ok
    split at ok
    · cases ok
    · rename_i entry present
      change db.queueEntries.get call.queueEntryId = some entry at present
      split at ok
      · cases ok
      · obtain ⟨rfl, _⟩ := updateEntry_ok ok
        rw [entryOfCall, found, Option.bind_some, present]
        refine (Tracks.leaves (f := fun e => { e with status := .left, leftAt := some now })
          (fun _ _ => ?_) (Or.inl rfl) rfl fun other there _ => ?_).congr rfl rfl
        · exact fun waits => by cases waits
        · obtain rfl := Option.some.inj (present.symm.trans there)
          rfl

/-- No entry under the id waits. -/
def DB.Idle (db : DB) (entryId : EntryId) : Prop :=
  ∀ entry, db.queueEntries.get entryId = some entry → entry.status ≠ .waiting

theorem idle_iff {db : DB} {entryId : EntryId} :
    ((db.queueEntries.get entryId).all fun entry => entry.status != .waiting) = true ↔
      db.Idle entryId := by
  unfold DB.Idle
  cases db.queueEntries.get entryId <;> simp

theorem queueStatus_idle {target : CallStatus} (started : target ≠ .paymentPending) :
    queueStatus target ≠ .waiting := by
  cases target <;> simp_all [queueStatus]

/-- A call that moves on takes its caller along, who did not wait any more. -/
theorem applyTransition_tracks {now : Time} {callId : CallId} {call : Call} {target : CallStatus}
    (idle : db.Idle call.queueEntryId)
    (ok : applyTransition now db callId call target = .ok after) :
    Tracks db after [] ∧ ∀ entryId, db.Idle entryId → after.Idle entryId := by
  unfold applyTransition at ok
  split at ok
  · cases ok
  · rename_i can
    obtain ⟨_, started⟩ := canTransition_from (by simpa using can)
    obtain ⟨rfl, _⟩ := updateEntry_ok ok
    constructor
    · refine (Tracks.idle (f := fun e => { e with status := queueStatus target }) ?_).congr rfl rfl
      intro entry found showId priorityRank
      rw [waitsAs_none (idle entry found), waitsAs_none (queueStatus_idle started)]
    · intro entryId calm entry found
      change (db.queueEntries.patch call.queueEntryId _).get entryId = some entry at found
      rw [Table.get_patch] at found
      split at found
      · obtain ⟨before, _, rfl⟩ := Option.map_eq_some_iff.mp found
        exact queueStatus_idle started
      · exact calm entry found

theorem transition_tracks {now : Time} {showId : ShowId} {callId : CallId} {party : Party}
    {target : CallStatus} {call : Call} (asked : authorizedCall db showId callId party = some call)
    (idle : call.status = target ∨ db.Idle call.queueEntryId)
    (ok : transition now db showId callId party target = .ok after) :
    Tracks db after (if call.status = target then [] else [callEvent db call]) := by
  unfold transition at ok
  rw [asked] at ok
  dsimp only at ok
  split at ok
  · rename_i same
    obtain rfl := Except.ok.inj ok
    rw [if_pos same]
    exact .refl _
  · rename_i differs
    rw [if_neg differs]
    have first := (applyTransition_tracks (idle.resolve_left differs) ok).1
    have told : Tracks after after [callEvent db call] :=
      .of_eq rfl rfl fun event member => by
        obtain rfl := List.mem_singleton.mp member
        rfl
    exact first.trans told

theorem expireEach_tracks {now : Time} {target : CallStatus} {due : List (CallId × Call)}
    (idle : ∀ row ∈ due, db.Idle row.2.queueEntryId)
    (ok : expireEach now target due db = .ok after) (events : List OutboxEvent)
    (silent : ∀ event ∈ events, event.eventType = .call) : Tracks db after events := by
  induction due generalizing db with
  | nil =>
      obtain rfl := Except.ok.inj ok
      exact .of_eq rfl rfl silent
  | cons row rest ih =>
      obtain ⟨middle, applied, ok⟩ := bind_ok ok
      obtain ⟨first, keeps⟩ := applyTransition_tracks (idle row List.mem_cons_self) applied
      refine first.trans (ih (fun other member => ?_) ok)
      exact keeps _ (idle other (List.mem_cons_of_mem _ member))

theorem callEvents_silent (db : DB) (due : List (CallId × Call)) :
    ∀ event ∈ due.map (fun row => callEvent db row.2), event.eventType = .call := by
  intro event member
  obtain ⟨row, _, rfl⟩ := List.mem_map.mp member
  rfl

/-- A payment that is taken tells of its caller, unless the show has ended. -/
theorem reconcileCaptured_tracks {now : Time} {attemptId : AttemptId} {attempt : PaymentAttempt}
    {hotline : Show} (linked : Linked db)
    (stored : db.paymentAttempts.get attemptId = some attempt)
    (host : db.shows.get attempt.showId = some hotline)
    (ok : reconcileCaptured now db attemptId hotline = .ok after) :
    Tracks db after (match db.calls.first fun c => c.paymentAttemptId == some attemptId with
      | none => []
      | some (callId, call) =>
        if call.status ≠ .paymentPending ∨
            call.startedAt = none ∧ ¬ db.showLive attempt.showId then []
        else (entryOfCall db callId).toList.map fun row =>
          ⟨.callerSelected, { candidateFromEntry row.1 row.2 with showId := attempt.showId }⟩) := by
  have status : db.showLive attempt.showId = (hotline.status == .live) := by
    rw [DB.showLive, host, Option.any_some]
  unfold reconcileCaptured at ok
  dsimp only at ok
  split at ok
  · rename_i absent
    change (db.calls.first fun c => c.paymentAttemptId == some attemptId) = none at absent
    obtain rfl := Except.ok.inj ok
    rw [absent]
    exact .of_eq rfl rfl nofun
  · rename_i callId call located
    change (db.calls.first fun c => c.paymentAttemptId == some attemptId) = some (callId, call)
      at located
    obtain ⟨found, paid⟩ := Table.first_some located
    rw [located]
    dsimp only
    have inShow {entry : QueueEntry}
        (present : db.queueEntries.get call.queueEntryId = some entry) :
        entry.showId = attempt.showId := by
      obtain ⟨owner, there, shows⟩ := linked.paid callId call attemptId found (by simpa using paid)
      obtain rfl := Option.some.inj (stored.symm.trans there)
      obtain ⟨other, here, same⟩ := linked.bound callId call found
      obtain rfl := Option.some.inj (present.symm.trans here)
      exact same.trans shows.symm
    split at ok
    · rename_i settled
      obtain rfl := Except.ok.inj ok
      rw [if_pos (Or.inl settled.1)]
      exact .of_eq rfl rfl nofun
    · rename_i concerned
      split at ok
      · rename_i refunds
        have ended : ¬ db.showLive attempt.showId = true := by
          rw [status]
          simpa using refunds.2
        rw [if_pos (Or.inr ⟨refunds.1, ended⟩)]
        obtain ⟨rfl, _⟩ := updateEntry_ok ok
        refine ⟨fun _ live => live, fun key live => ?_⟩
        rw [List.foldl_nil]
        show ((db.queueEntries.patch call.queueEntryId _).get key.entryId).bind _ = db.waiting key
        rw [Table.get_patch, DB.waiting]
        split
        · rename_i here
          cases present : db.queueEntries.get key.entryId with
          | none => rfl
          | some entry =>
              have elsewhere : attempt.showId ≠ key.showId := by
                intro same
                rw [same] at ended
                exact ended live
              have mine := inShow (here ▸ present)
              have away (other : QueueEntry) (same : other.showId = attempt.showId) :
                  other.waitsAs key.showId key.priorityRank = none :=
                if_neg fun waits => elsewhere (same.symm.trans waits.1)
              rw [Option.map_some, Option.bind_some, Option.bind_some, away entry mine]
              refine away _ ?_
              split <;> exact mine
        · rfl
      · rename_i kept
        obtain ⟨seated, updated, ok⟩ := bind_ok ok
        obtain rfl := Except.ok.inj ok
        obtain ⟨rfl, _⟩ := updateEntry_ok updated
        have pending : call.status = .paymentPending := by
          by_contra other
          exact concerned ⟨other, kept⟩
        have live : ¬(call.status ≠ .paymentPending ∨
            call.startedAt = none ∧ ¬ db.showLive attempt.showId = true) := by
          rw [status]
          rintro (other | ⟨unstarted, ended⟩)
          · exact other pending
          · exact kept ⟨unstarted, by simpa using ended⟩
        rw [if_neg live]
        let selected (e : QueueEntry) : QueueEntry :=
          { e with status := .selected, selectedAt := some (e.selectedAt.getD now) }
        cases present : db.queueEntries.get call.queueEntryId with
        | none =>
            have nobody : entryOfCall db callId = none := by
              rw [entryOfCall, found, Option.bind_some, present, Option.map_none]
            rw [nobody]
            refine (Tracks.idle (f := selected) fun entry there => ?_).congr rfl rfl
            rw [present] at there
            cases there
        | some entry =>
            have caller : entryOfCall db callId = some (call.queueEntryId, entry) := by
              rw [entryOfCall, found, Option.bind_some, present, Option.map_some]
            rw [caller]
            refine (Tracks.leaves (f := selected) (fun _ _ => ?_) (Or.inr rfl) rfl
              fun other there _ => ?_).congr rfl rfl
            · exact fun waits => by cases waits
            · obtain rfl := Option.some.inj (present.symm.trans there)
              rw [← inShow present]
              rfl

/-- A payment that is not taken tells of the caller who waited on it. -/
theorem reconcileNotCaptured_tracks {now : Time} {attemptId : AttemptId} {attempt : PaymentAttempt}
    {status : PaymentStatus} {failureCode : Option String} (linked : Linked db)
    (stored : db.paymentAttempts.get attemptId = some attempt)
    (ok : reconcileNotCaptured now db attemptId status failureCode = .ok after) :
    Tracks db after ((db.queueEntries.first fun q => q.paymentAttemptId == some attemptId &&
      q.status == .waiting).toList.map fun row =>
        ⟨.callerLeft, { candidateFromEntry row.1 row.2 with showId := attempt.showId }⟩) := by
  unfold reconcileNotCaptured at ok
  dsimp only at ok
  split at ok
  · rename_i absent
    change (db.queueEntries.first _) = none at absent
    obtain rfl := Except.ok.inj ok
    rw [absent]
    exact .of_eq rfl rfl nofun
  · rename_i entryId entry located
    change (db.queueEntries.first _) = some (entryId, entry) at located
    obtain ⟨present, matched⟩ := Table.first_some located
    simp only [Bool.and_eq_true, beq_iff_eq] at matched
    obtain ⟨owner, there, _, inShow⟩ := linked.owned entryId entry attemptId present matched.1
    obtain rfl := Option.some.inj (stored.symm.trans there)
    obtain ⟨rfl, _⟩ := updateEntry_ok ok
    rw [located]
    refine (Tracks.leaves (f := fun e =>
      { e with status := .left, leftAt := some (e.leftAt.getD now) })
      (fun _ _ => ?_) (Or.inl rfl) rfl fun other here _ => ?_).congr rfl rfl
    · exact fun waits => by cases waits
    · obtain rfl := Option.some.inj (present.symm.trans here)
      rw [inShow]
      rfl

/-- The end of a show leaves the other shows as they are. -/
theorem endShow_tracks {now : Time} {showId : ShowId} {creatorId : UserId}
    (ok : endShow now db showId creatorId = .ok after) :
    Tracks db after (if db.showLive showId then [⟨.showEnded, 0, showId, 0, 0⟩] else []) := by
  unfold endShow at ok
  split at ok
  · cases ok
  · rename_i hotline host
    have status : db.showLive showId = (hotline.status == .live) := by
      rw [DB.showLive, host, Option.any_some]
    split at ok
    · cases ok
    · split at ok
      · cases ok
      · rename_i ended
        obtain rfl := Except.ok.inj ok
        rw [status, ended, if_neg (by decide)]
        exact .refl _
      · rename_i live
        obtain rfl := Except.ok.inj ok
        rw [status, live, if_pos (by decide)]
        have over_ : ({ db with
            shows := db.shows.patch showId fun s => { s with status := .ended, endedAt := some now }
            : DB}).showLive showId = false := by
          show ((db.shows.patch showId _).get showId).any _ = false
          rw [Table.get_patch_self host]
          rfl
        constructor
        · intro other isLive
          change ((db.shows.patch showId _).get other).any _ = true at isLive
          rw [Table.get_patch] at isLive
          split at isLive
          · rename_i here
            rw [here, host] at isLive
            cases isLive
          · exact isLive
        · intro key isLive
          have apart : showId ≠ key.showId := by
            intro same
            rw [← same] at isLive
            exact Bool.false_ne_true (over_.symm.trans isLive)
          rw [List.foldl_cons, List.foldl_nil, OutboxEvent.effect, if_neg apart]
          show ((db.queueEntries.patchWhere _ _).get key.entryId).bind _ = db.waiting key
          rw [Table.get_patchWhere, DB.waiting]
          cases db.queueEntries.get key.entryId with
          | none => rfl
          | some entry =>
              rw [Option.map_some, Option.bind_some, Option.bind_some]
              split
              · rename_i closed
                simp only [Bool.and_eq_true, beq_iff_eq] at closed
                have away (other : QueueEntry) (same : other.showId = showId) :
                    other.waitsAs key.showId key.priorityRank = none :=
                  if_neg fun waits => apart (same.symm.trans waits.1)
                rw [away entry closed.1]
                exact away _ closed.1
              · rfl

end Tracks

theorem State.step_complete {s : State} (now : Time) (r : Reservation)
    {selected : Reservation → Option Candidate}
    (mine : ∀ r c, selected r = some c → c.entryId = r.entryId)
    (tells : told now s selected (.complete r) = true) :
    Tracks s.db (s.step (now, .complete r)).db (emitted now s selected (.complete r)) := by
  simp only [State.step, emitted]
  by_cases member : r ∈ s.reservations
  · rw [if_pos member]
    cases completed : completePaidSelection now s.db r with
    | error e =>
        rw [ite_self]
        exact .refl _
    | ok after =>
        simp only [member, true_and]
        exact complete_tracks (fun c => mine r c) tells completed
  · rw [if_neg member, if_neg fun both => member both.1]
    exact .refl _

theorem State.step_fail {s : State} (now : Time) (r : Reservation)
    {selected : Reservation → Option Candidate} :
    Tracks s.db (s.step (now, .fail r)).db (emitted now s selected (.fail r)) := by
  simp only [State.step, emitted]
  by_cases member : r ∈ s.reservations
  · rw [if_pos member, if_pos member]
    cases failed : failPaidSelection now s.db r.callId r.attemptId with
    | error e => exact .refl _
    | ok after => exact fail_tracks failed
  · rw [if_neg member, if_neg member]
    exact .refl _

theorem State.step_transition {s : State} (now : Time) (showId : ShowId) (callId : CallId)
    (party : Party) (target : CallStatus) {selected : Reservation → Option Candidate}
    (tells : told now s selected (.transition showId callId party target) = true) :
    Tracks s.db (s.step (now, .transition showId callId party target)).db
      (emitted now s selected (.transition showId callId party target)) := by
  simp only [State.step, emitted]
  cases asked : authorizedCall s.db showId callId party with
  | none =>
      rw [transition, asked]
      exact .refl _
  | some call =>
      cases moved : transition now s.db showId callId party target with
      | error e => exact .refl _
      | ok after =>
          simp only [told, asked, Option.all_some, Bool.or_eq_true, beq_iff_eq,
            idle_iff] at tells
          exact transition_tracks asked tells moved

theorem State.step_reconcile {s : State} (linked : Linked s.db) (now : Time) (intentId : StripeId)
    (outcome : Outcome) (failureCode : Option String)
    {selected : Reservation → Option Candidate} :
    Tracks s.db (s.step (now, .reconcile intentId outcome failureCode)).db
      (emitted now s selected (.reconcile intentId outcome failureCode)) := by
  simp only [State.step, emitted]
  cases settled : reconcile now s.db intentId outcome failureCode with
  | error e => exact .refl _
  | ok after =>
      unfold reconcile at settled
      cases located : s.db.paymentAttempts.first fun a =>
          a.stripePaymentIntentId == some intentId with
      | none =>
          rw [located] at settled
          cases settled
      | some row =>
          obtain ⟨attemptId, attempt⟩ := row
          rw [located] at settled
          dsimp only at settled ⊢
          have stored := (Table.first_some located).1
          split at settled
          · rename_i taken
            obtain rfl := Except.ok.inj settled
            rw [if_neg taken.2, if_pos taken.1]
            exact .refl _
          · rename_i open_
            split at settled
            · split at settled
              · cases settled
              · rename_i hotline host
                exact reconcileCaptured_tracks linked stored host settled
            · have untaken : attempt.status ≠ .captured := fun taken => open_ ⟨taken, nofun⟩
              rw [if_neg (by nofun), if_neg untaken]
              exact reconcileNotCaptured_tracks linked stored settled
            · have untaken : attempt.status ≠ .captured := fun taken => open_ ⟨taken, nofun⟩
              rw [if_neg (by nofun), if_neg untaken]
              exact reconcileNotCaptured_tracks linked stored settled

/-- The events of a step tell what becomes of those who wait. -/
theorem State.step_tracks {s : State} (linked : Linked s.db) (now : Time) {op : Op}
    {selected : Reservation → Option Candidate}
    (mine : ∀ r c, selected r = some c → c.entryId = r.entryId)
    (tells : told now s selected op = true) :
    Tracks s.db (s.step (now, op)).db (emitted now s selected op) := by
  have commit (s : State) {result : Except ApiError DB} {events : List OutboxEvent}
      (ok : ∀ after, result = .ok after → Tracks s.db after events)
      (error : ∀ e, result = .error e → events = []) : Tracks s.db (s.commit result).db events := by
    cases result with
    | ok after => exact ok after rfl
    | error e =>
        rw [error e rfl]
        exact .refl _
  cases op with
  | prepare => exact commit s (fun _ ok => prepare_tracks ok) fun _ _ => rfl
  | attachIntent => exact commit s (fun _ ok => attachIntent_tracks ok) fun _ _ => rfl
  | markAuthorized => exact .of_eq rfl rfl nofun
  | markCanceled => exact .of_eq rfl rfl nofun
  | join input =>
      simp only [State.step, emitted]
      cases joined : join now s.db input with
      | error e => exact .refl _
      | ok result => exact join_tracks joined
  | leave showId sessionTokenHash =>
      simp only [State.step, emitted]
      split
      · rename_i absent
        refine commit s (fun after ok => ?_) fun _ _ => rfl
        simp only [leave, absent] at ok
        cases ok
      · rename_i entryId entry located
        cases left : leave now s.db showId sessionTokenHash with
        | error e => exact .refl _
        | ok after => exact leave_tracks located left
  | select showId creatorId choice =>
      simp only [State.step, emitted]
      cases chosen : select now s.db showId creatorId choice with
      | error e => exact .refl _
      | ok result =>
          obtain ⟨after, reservation⟩ := result
          cases reservation with
          | none => exact select_tracks chosen
          | some r => exact select_tracks chosen
  | complete r => exact step_complete now r mine tells
  | fail r => exact step_fail now r
  | pending => exact .of_eq rfl rfl nofun
  | transition showId callId party target =>
      exact step_transition now showId callId party target tells
  | expireDisconnected grace limit =>
      simp only [State.step, emitted]
      simp only [told, List.all_eq_true, idle_iff] at tells
      cases expired : expireDisconnected now s.db grace limit with
      | error e => exact .refl _
      | ok after => exact expireEach_tracks tells expired _ (callEvents_silent _ _)
  | expireDue limit =>
      simp only [State.step, emitted]
      simp only [told, List.all_eq_true, idle_iff] at tells
      cases expired : expireDue now s.db limit with
      | error e => exact .refl _
      | ok after => exact expireEach_tracks tells expired _ (callEvents_silent _ _)
  | markParticipant => exact .of_eq rfl rfl nofun
  | reconcile intentId outcome failureCode =>
      exact step_reconcile linked now intentId outcome failureCode
  | endShow showId creatorId =>
      simp only [State.step, emitted]
      cases ended : endShow now s.db showId creatorId with
      | error e => exact .refl _
      | ok after => exact endShow_tracks ended

end Bling.Api
