import Bling.Api.Queue
import Bling.Library.Machine

set_option autoImplicit false

namespace Bling.Api

open Library

/-! What links entries, payments and calls after every run, and what a
transaction does to who is on stage. -/

/-! ### Links -/

structure Linked (db : DB) : Prop where
  bound : ∀ callId call, db.calls.get callId = some call →
    ∃ entry, db.queueEntries.get call.queueEntryId = some entry ∧ entry.showId = call.showId
  single : ∀ i j c d, db.calls.get i = some c → db.calls.get j = some d →
    c.queueEntryId = d.queueEntryId → i = j
  hosted : ∀ callId call, db.calls.get callId = some call → call.status ∈ activeStatuses →
    ∃ hotline, db.shows.get call.showId = some hotline ∧ hotline.status = .live
  apart : ∀ i j a b, db.queueEntries.get i = some a → db.queueEntries.get j = some b → i ≠ j →
    a.clash b = none
  owned : ∀ entryId entry attemptId, db.queueEntries.get entryId = some entry →
    entry.paymentAttemptId = some attemptId →
    ∃ attempt, db.paymentAttempts.get attemptId = some attempt ∧
      attempt.queueEntryId = some entryId ∧ attempt.showId = entry.showId
  paid : ∀ callId call attemptId, db.calls.get callId = some call →
    call.paymentAttemptId = some attemptId →
    ∃ attempt, db.paymentAttempts.get attemptId = some attempt ∧ attempt.showId = call.showId
  backed : ∀ attemptId attempt, db.paymentAttempts.get attemptId = some attempt →
    attempt.status = .authorized → attempt.stripePaymentIntentId.isSome

theorem clash_none_iff (a b : QueueEntry) : a.clash b = none ↔
    ¬(a.showId = b.showId ∧ a.sessionTokenHash = b.sessionTokenHash) ∧
      ¬(a.showId = b.showId ∧ a.joinKeyHash = b.joinKeyHash) ∧
      ¬(a.paymentAttemptId.isSome ∧ a.paymentAttemptId = b.paymentAttemptId) ∧
      ¬(a.showId = b.showId ∧ a.status ∈ onStage ∧ b.status ∈ onStage) := by
  unfold QueueEntry.clash
  by_cases token : a.showId = b.showId ∧ a.sessionTokenHash = b.sessionTokenHash
  · rw [if_pos token]
    exact ⟨fun absent => (by cases absent), fun all => absurd token all.1⟩
  · by_cases key : a.showId = b.showId ∧ a.joinKeyHash = b.joinKeyHash
    · rw [if_neg token, if_pos key]
      exact ⟨fun absent => (by cases absent), fun all => absurd key all.2.1⟩
    · by_cases payment : a.paymentAttemptId.isSome ∧ a.paymentAttemptId = b.paymentAttemptId
      · rw [if_neg token, if_neg key, if_pos payment]
        exact ⟨fun absent => (by cases absent), fun all => absurd payment all.2.2.1⟩
      · rw [if_neg token, if_neg key, if_neg payment]
        simp only [ite_eq_right_iff, reduceCtorEq, imp_false]
        exact ⟨fun stage => ⟨token, key, payment, stage⟩, fun all => all.2.2.2⟩

theorem clash_none_comm {a b : QueueEntry} (apart : a.clash b = none) : b.clash a = none := by
  rw [clash_none_iff] at apart ⊢
  obtain ⟨token, key, payment, stage⟩ := apart
  refine ⟨fun ⟨shows, same⟩ => token ⟨shows.symm, same.symm⟩,
    fun ⟨shows, same⟩ => key ⟨shows.symm, same.symm⟩, fun ⟨paid, same⟩ => ?_,
    fun ⟨shows, one, other⟩ => stage ⟨shows.symm, other, one⟩⟩
  exact payment ⟨by rw [← same]; exact paid, same.symm⟩

theorem entryKey_ok_iff (queueEntries : Table QueueEntry) (entryId : EntryId)
    (entry : QueueEntry) : entryKey queueEntries entryId entry = .ok () ↔
      ∀ id other, queueEntries.get id = some other → id ≠ entryId → entry.clash other = none := by
  unfold entryKey
  constructor
  · intro ok id other found apart
    split at ok
    · cases ok
    · rename_i unclashed
      have := List.findSome?_eq_none_iff.mp unclashed _ ((Table.mem_rows_iff _ id other).mpr found)
      simpa [apart] using this
  · intro unclashed
    have none : (queueEntries.rows.findSome? fun row =>
        if row.1 = entryId then none else entry.clash row.2) = none := by
      rw [List.findSome?_eq_none_iff]
      rintro ⟨id, other⟩ member
      by_cases here : id = entryId
      · simp [here]
      · simpa [here] using unclashed id other ((Table.mem_rows_iff _ id other).mp member) here
    rw [none]

theorem insertQueueEntry_ok {db after : DB} {entry : QueueEntry}
    (ok : insertQueueEntry db entry = .ok after) :
    after = { db with queueEntries := db.queueEntries.insert entry } ∧
      ∀ id other, db.queueEntries.get id = some other → entry.clash other = none := by
  unfold insertQueueEntry at ok
  cases key : entryKey db.queueEntries db.queueEntries.next entry with
  | error clash =>
      rw [key] at ok
      cases ok
  | ok _ =>
      rw [key] at ok
      refine ⟨(Except.ok.inj ok).symm, fun id other found => ?_⟩
      exact (entryKey_ok_iff _ _ _).mp key id other found (Table.ne_next found)

theorem updateEntry_ok {db after : DB} {entryId : EntryId} {f : QueueEntry → QueueEntry}
    (ok : updateEntry db entryId f = .ok after) :
    after = { db with queueEntries := db.queueEntries.patch entryId f } ∧
      ∀ entry, db.queueEntries.get entryId = some entry → ∀ id other,
        db.queueEntries.get id = some other → id ≠ entryId → (f entry).clash other = none := by
  unfold updateEntry at ok
  split at ok
  · rename_i absent
    obtain rfl := Except.ok.inj ok
    refine ⟨?_, fun entry found => by rw [absent] at found; cases found⟩
    rw [Table.patch_eq_self fun entry found => by rw [absent] at found; cases found]
  · rename_i entry present
    cases key : entryKey db.queueEntries entryId (f entry) with
    | error clash =>
        rw [key] at ok
        cases ok
    | ok _ =>
        rw [key] at ok
        refine ⟨(Except.ok.inj ok).symm, fun same found => ?_⟩
        obtain rfl := Option.some.inj (present.symm.trans found)
        exact (entryKey_ok_iff _ _ _).mp key

theorem insertCall_ok {db after : DB} {call : Call} (ok : insertCall db call = .ok after) :
    after = { db with calls := db.calls.insert call } ∧
      (∀ id other, db.calls.get id = some other → other.queueEntryId ≠ call.queueEntryId) ∧
      (call.status ∈ activeStatuses → ∀ id other, db.calls.get id = some other →
        other.showId = call.showId → other.status ∉ activeStatuses) := by
  unfold insertCall at ok
  split at ok
  · cases ok
  · rename_i unused
    split at ok
    · cases ok
    · rename_i idle
      refine ⟨(Except.ok.inj ok).symm, fun id other found same => ?_,
        fun active id other found same busy => ?_⟩
      · exact unused ((Table.first_isSome_iff _ _).mpr ⟨id, other, found, by simpa using same⟩)
      · exact idle ⟨active, (Table.first_isSome_iff _ _).mpr
          ⟨id, other, found, by simp [same, busy]⟩⟩

/-! ### What keeps the links -/

/-- The links after a transaction, and the calls that live on through it. -/
structure Onward (db after : DB) : Prop where
  linked : Linked after
  kept : ∀ callId call, db.calls.get callId = some call →
    ∃ later, after.calls.get callId = some later ∧ later.showId = call.showId ∧
      later.queueEntryId = call.queueEntryId

theorem Onward.refl {db : DB} (linked : Linked db) : Onward db db :=
  ⟨linked, fun _ call found => ⟨call, found, rfl, rfl⟩⟩

theorem Onward.trans {db middle after : DB} (first : Onward db middle)
    (second : Onward middle after) : Onward db after := by
  refine ⟨second.linked, fun callId call found => ?_⟩
  obtain ⟨between, present, shows, entries⟩ := first.kept callId call found
  obtain ⟨later, here, sameShow, sameEntry⟩ := second.kept callId between present
  exact ⟨later, here, sameShow.trans shows, sameEntry.trans entries⟩

structure PaymentAttempt.Goes (attempt later : PaymentAttempt) : Prop where
  shows : later.showId = attempt.showId
  claimed : attempt.queueEntryId.isSome → later.queueEntryId = attempt.queueEntryId
  backed : (attempt.status = .authorized → attempt.stripePaymentIntentId.isSome) →
    later.status = .authorized → later.stripePaymentIntentId.isSome

def PaymentAttempt.Starts (attempt : PaymentAttempt) : Prop :=
  attempt.status ≠ .authorized

structure Call.Goes (call later : Call) : Prop where
  shows : later.showId = call.showId
  entries : later.queueEntryId = call.queueEntryId
  payment : later.paymentAttemptId = call.paymentAttemptId
  active : later.status ∈ activeStatuses → call.status ∈ activeStatuses

theorem PaymentAttempt.goes_refl (attempt : PaymentAttempt) : attempt.Goes attempt :=
  ⟨rfl, fun _ => rfl, fun backed => backed⟩

theorem Call.goes_refl (call : Call) : call.Goes call :=
  ⟨rfl, rfl, rfl, fun active => active⟩

section Keeps

variable {db : DB} (linked : Linked db)

include linked

theorem Linked.attempts {paymentAttempts : Table PaymentAttempt}
    (goes : Table.Follow (fun _ => PaymentAttempt.Goes) PaymentAttempt.Starts db.paymentAttempts
      paymentAttempts) : Onward db { db with paymentAttempts } := by
  refine ⟨⟨linked.bound, linked.single, linked.hosted, linked.apart, ?_, ?_, ?_⟩,
    (Onward.refl linked).kept⟩
  · intro entryId entry attemptId found payment
    obtain ⟨attempt, present, claimed, shows⟩ := linked.owned entryId entry attemptId found payment
    obtain ⟨later, here, went⟩ := goes.kept attemptId attempt present
    exact ⟨later, here, (went.claimed (by rw [claimed]; rfl)).trans claimed, went.shows.trans shows⟩
  · intro callId call attemptId found payment
    obtain ⟨attempt, present, shows⟩ := linked.paid callId call attemptId found payment
    obtain ⟨later, here, went⟩ := goes.kept attemptId attempt present
    exact ⟨later, here, went.shows.trans shows⟩
  · intro attemptId attempt found
    exact goes.forall linked.backed (fun _ _ _ went => went.backed)
      (fun _ starts authorized => absurd authorized starts) found

theorem Linked.calls {calls : Table Call}
    (goes : Table.Follow (fun _ => Call.Goes) (fun _ => False) db.calls calls) :
    Onward db { db with calls } := by
  have origin {callId : CallId} {call : Call} (found : calls.get callId = some call) :
      ∃ before, db.calls.get callId = some before ∧ before.Goes call := by
    rcases goes.origin callId call found with old | ⟨_, new⟩
    · exact old
    · exact absurd new id
  refine ⟨⟨?_, ?_, ?_, linked.apart, linked.owned, ?_, linked.backed⟩, ?_⟩
  · intro callId call found
    obtain ⟨before, present, went⟩ := origin found
    rw [went.entries, went.shows]
    exact linked.bound callId before present
  · intro i j c d one other same
    obtain ⟨before, present, went⟩ := origin one
    obtain ⟨earlier, there, gone⟩ := origin other
    rw [went.entries, gone.entries] at same
    exact linked.single i j before earlier present there same
  · intro callId call found active
    obtain ⟨before, present, went⟩ := origin found
    rw [went.shows]
    exact linked.hosted callId before present (went.active active)
  · intro callId call attemptId found payment
    obtain ⟨before, present, went⟩ := origin found
    rw [went.shows]
    exact linked.paid callId before attemptId present (went.payment ▸ payment)
  · intro callId call found
    obtain ⟨later, here, went⟩ := goes.kept callId call found
    exact ⟨later, here, went.shows, went.entries⟩

/-- A new call for a waiting caller of a live show. -/
theorem Linked.newCall {call : Call} {entry : QueueEntry} {hotline : Show}
    (found : db.queueEntries.get call.queueEntryId = some entry)
    (inShow : entry.showId = call.showId) (present : db.shows.get call.showId = some hotline)
    (live : hotline.status = .live)
    (unused : ∀ id other, db.calls.get id = some other → other.queueEntryId ≠ call.queueEntryId)
    (paid : ∀ attemptId, call.paymentAttemptId = some attemptId →
      ∃ attempt, db.paymentAttempts.get attemptId = some attempt ∧ attempt.showId = call.showId) :
    Onward db { db with calls := db.calls.insert call } := by
  refine ⟨⟨?_, ?_, ?_, linked.apart, linked.owned, ?_, linked.backed⟩,
    fun callId old there => ⟨old, Table.get_insert_of_some there call, rfl, rfl⟩⟩
  · intro callId other located
    rcases Table.get_insert_row located with ⟨_, rfl⟩ | old
    · exact ⟨entry, found, inShow⟩
    · exact linked.bound callId other old
  · intro i j c d one other same
    rcases Table.get_insert_row one with ⟨first, rfl⟩ | old
    · rcases Table.get_insert_row other with ⟨second, _⟩ | there
      · rw [first, second]
      · exact absurd same.symm (unused j d there)
    · rcases Table.get_insert_row other with ⟨_, rfl⟩ | there
      · exact absurd same (unused i c old)
      · exact linked.single i j c d old there same
  · intro callId other located active
    rcases Table.get_insert_row located with ⟨_, rfl⟩ | old
    · exact ⟨hotline, present, live⟩
    · exact linked.hosted callId other old active
  · intro callId other attemptId located payment
    rcases Table.get_insert_row located with ⟨_, rfl⟩ | old
    · exact paid attemptId payment
    · exact linked.paid callId other attemptId old payment

theorem Linked.patchEntry {entryId : EntryId} {f : QueueEntry → QueueEntry}
    (shows : ∀ entry, (f entry).showId = entry.showId)
    (owned : ∀ entry attemptId, db.queueEntries.get entryId = some entry →
      (f entry).paymentAttemptId = some attemptId →
      ∃ attempt, db.paymentAttempts.get attemptId = some attempt ∧
        attempt.queueEntryId = some entryId ∧ attempt.showId = entry.showId)
    (unclashed : ∀ entry, db.queueEntries.get entryId = some entry → ∀ id other,
      db.queueEntries.get id = some other → id ≠ entryId → (f entry).clash other = none) :
    Onward db { db with queueEntries := db.queueEntries.patch entryId f } := by
  refine ⟨⟨?_, linked.single, linked.hosted, ?_, ?_, linked.paid, linked.backed⟩,
    (Onward.refl linked).kept⟩
  · intro callId call found
    obtain ⟨entry, present, inShow⟩ := linked.bound callId call found
    show ∃ entry, (db.queueEntries.patch entryId f).get call.queueEntryId = some entry ∧
      entry.showId = call.showId
    rw [Table.get_patch, present]
    split
    · exact ⟨f entry, rfl, (shows entry).trans inShow⟩
    · exact ⟨entry, rfl, inShow⟩
  · intro i j a b one other differ
    rw [Table.get_patch] at one other
    split at one
    · rename_i here
      rw [if_neg (fun same => differ (here.trans same.symm))] at other
      obtain ⟨before, present, rfl⟩ := Option.map_eq_some_iff.mp one
      exact unclashed before (here ▸ present) j b other fun same => differ (here.trans same.symm)
    · rename_i elsewhere
      split at other
      · rename_i here
        obtain ⟨before, present, rfl⟩ := Option.map_eq_some_iff.mp other
        exact clash_none_comm (unclashed before (here ▸ present) i a one elsewhere)
      · exact linked.apart i j a b one other differ
  · intro id entry attemptId found payment
    rw [Table.get_patch] at found
    split at found
    · rename_i here
      obtain ⟨before, present, rfl⟩ := Option.map_eq_some_iff.mp found
      obtain ⟨attempt, there, claimed, inShow⟩ := owned before attemptId (here ▸ present) payment
      exact ⟨attempt, there, here ▸ claimed, inShow.trans (shows before).symm⟩
    · exact linked.owned id entry attemptId found payment

/-- The entry stays that of its viewer and its payment. -/
theorem Linked.updateEntry {entryId : EntryId} {f : QueueEntry → QueueEntry} {after : DB}
    (ok : Api.updateEntry db entryId f = .ok after)
    (shows : ∀ entry, (f entry).showId = entry.showId)
    (payment : ∀ entry, (f entry).paymentAttemptId = entry.paymentAttemptId) : Onward db after := by
  obtain ⟨rfl, unclashed⟩ := updateEntry_ok ok
  refine linked.patchEntry shows (fun entry attemptId found paid => ?_) unclashed
  exact linked.owned entryId entry attemptId found ((payment entry).symm.trans paid)

theorem Linked.newEntry {entry : QueueEntry}
    (owned : ∀ attemptId, entry.paymentAttemptId = some attemptId →
      ∃ attempt, db.paymentAttempts.get attemptId = some attempt ∧
        attempt.queueEntryId = some db.queueEntries.next ∧ attempt.showId = entry.showId)
    (unclashed : ∀ id other, db.queueEntries.get id = some other → entry.clash other = none) :
    Onward db { db with queueEntries := db.queueEntries.insert entry } := by
  refine ⟨⟨?_, linked.single, linked.hosted, ?_, ?_, linked.paid, linked.backed⟩,
    (Onward.refl linked).kept⟩
  · intro callId call found
    obtain ⟨old, present, inShow⟩ := linked.bound callId call found
    exact ⟨old, Table.get_insert_of_some present entry, inShow⟩
  · intro i j a b one other differ
    rcases Table.get_insert_row one with ⟨first, rfl⟩ | old
    · rcases Table.get_insert_row other with ⟨second, _⟩ | there
      · exact absurd (first.trans second.symm) differ
      · exact unclashed j b there
    · rcases Table.get_insert_row other with ⟨_, rfl⟩ | there
      · exact clash_none_comm (unclashed i a old)
      · exact linked.apart i j a b old there differ
  · intro id other attemptId found payment
    rcases Table.get_insert_row found with ⟨here, rfl⟩ | old
    · exact here ▸ owned attemptId payment
    · exact linked.owned id other attemptId old payment

theorem Linked.position (nextPosition : Nat) : Onward db { db with nextPosition } :=
  ⟨⟨linked.bound, linked.single, linked.hosted, linked.apart, linked.owned, linked.paid,
    linked.backed⟩, (Onward.refl linked).kept⟩

end Keeps

/-! ### Who is on stage -/

def QueueEntry.stage (entry : QueueEntry) : Option QueueStatus :=
  if entry.status ∈ onStage then some entry.status else none

/-- The status of an entry on stage. -/
def DB.stage (db : DB) (entryId : EntryId) : Option QueueStatus :=
  (db.queueEntries.get entryId).bind QueueEntry.stage

def OpenCall (db : DB) (entryId : EntryId) (status : CallStatus) : Prop :=
  status ∈ openStatuses ∧ ∃ callId call, db.calls.get callId = some call ∧
    call.queueEntryId = entryId ∧ call.status = status

/-- Whoever has an open call is on stage, in the same state. -/
def Called (db : DB) (entryId : EntryId) : Prop :=
  ∀ status, OpenCall db entryId status → db.stage entryId = some (queueStatus status)

/-- Whoever is on stage has an open call, in the same state. -/
def Served (db : DB) (entryId : EntryId) : Prop :=
  ∀ seat, db.stage entryId = some seat → ∃ status, OpenCall db entryId status ∧
    queueStatus status = seat

/-- Nothing changes on stage for this entry. -/
structure Quiet (db after : DB) (entryId : EntryId) : Prop where
  stage : after.stage entryId = db.stage entryId
  calls : ∀ status, OpenCall after entryId status ↔ OpenCall db entryId status

theorem Quiet.refl (db : DB) (entryId : EntryId) : Quiet db db entryId :=
  ⟨rfl, fun _ => Iff.rfl⟩

theorem Quiet.trans {db middle after : DB} {entryId : EntryId} (first : Quiet db middle entryId)
    (second : Quiet middle after entryId) : Quiet db after entryId :=
  ⟨second.stage.trans first.stage, fun status => (second.calls status).trans (first.calls status)⟩

theorem Quiet.called {db after : DB} {entryId : EntryId} (quiet : Quiet db after entryId)
    (called : Called db entryId) : Called after entryId := by
  intro status opened
  rw [quiet.stage]
  exact called status ((quiet.calls status).mp opened)

theorem Quiet.served {db after : DB} {entryId : EntryId} (quiet : Quiet db after entryId)
    (served : Served db entryId) : Served after entryId := by
  intro seat here
  rw [quiet.stage] at here
  obtain ⟨status, opened, same⟩ := served seat here
  exact ⟨status, (quiet.calls status).mpr opened, same⟩

theorem stage_some {db : DB} {entryId : EntryId} {seat : QueueStatus}
    (here : db.stage entryId = some seat) : ∃ entry, db.queueEntries.get entryId = some entry ∧
      entry.status = seat ∧ seat ∈ onStage := by
  obtain ⟨entry, present, stage⟩ := Option.bind_eq_some_iff.mp here
  unfold QueueEntry.stage at stage
  split at stage
  · rename_i on
    obtain rfl := Option.some.inj stage
    exact ⟨entry, present, rfl, on⟩
  · cases stage

theorem stage_of_on {db : DB} {entryId : EntryId} {entry : QueueEntry}
    (present : db.queueEntries.get entryId = some entry) (on : entry.status ∈ onStage) :
    db.stage entryId = some entry.status := by
  rw [DB.stage, present, Option.bind_some, QueueEntry.stage, if_pos on]

theorem stage_of_off {db : DB} {entryId : EntryId} {entry : QueueEntry}
    (present : db.queueEntries.get entryId = some entry) (off : entry.status ∉ onStage) :
    db.stage entryId = none := by
  rw [DB.stage, present, Option.bind_some, QueueEntry.stage, if_neg off]

section Quiet

variable {db : DB} {shows : Table Show} {showTiers : Table ShowTier}
  {attempts : Table PaymentAttempt} {calls : Table Call} {position : Nat}

theorem quiet_patchEntry_other {entryId other : EntryId} {f : QueueEntry → QueueEntry}
    (apart : other ≠ entryId) : Quiet db
      ⟨shows, showTiers, db.queueEntries.patch entryId f, attempts, db.calls, position⟩ other := by
  refine ⟨?_, fun _ => Iff.rfl⟩
  simp only [DB.stage, Table.get_patch_of_ne apart]

theorem quiet_patchEntry {entryId other : EntryId} {f : QueueEntry → QueueEntry}
    (calm : ∀ entry, db.queueEntries.get entryId = some entry → (f entry).stage = entry.stage) :
    Quiet db
      ⟨shows, showTiers, db.queueEntries.patch entryId f, attempts, db.calls, position⟩ other := by
  refine ⟨?_, fun _ => Iff.rfl⟩
  simp only [DB.stage, Table.get_patch]
  split
  · rename_i here
    cases present : db.queueEntries.get other with
    | none => rfl
    | some entry => exact calm entry (here ▸ present)
  · rfl

theorem quiet_insertEntry {entry : QueueEntry} {other : EntryId} (off : entry.stage = none) :
    Quiet db
      ⟨shows, showTiers, db.queueEntries.insert entry, attempts, db.calls, position⟩ other := by
  refine ⟨?_, fun _ => Iff.rfl⟩
  simp only [DB.stage, Table.get_insert]
  split
  · rename_i here
    rw [here, Table.get_next]
    exact off
  · rfl

/-- Only open calls of the entry that open, close or move on are to be heard. -/
theorem quiet_calls {entryId : EntryId}
    (goes : Table.Follow (fun _ c d => d.queueEntryId = c.queueEntryId ∧
      (c.queueEntryId = entryId → c.status ∈ openStatuses ∨ d.status ∈ openStatuses →
        d.status = c.status))
      (fun c => c.queueEntryId = entryId → c.status ∉ openStatuses) db.calls calls) :
    Quiet db ⟨shows, showTiers, db.queueEntries, attempts, calls, position⟩ entryId := by
  refine ⟨rfl, fun status => ⟨?_, ?_⟩⟩
  · rintro ⟨opened, callId, call, found, here, rfl⟩
    rcases goes.origin callId call found with ⟨before, present, entries, calm⟩ | ⟨_, off⟩
    · have same := calm (entries ▸ here) (Or.inr opened)
      exact ⟨opened, callId, before, present, entries ▸ here, same.symm⟩
    · exact absurd opened (off here)
  · rintro ⟨opened, callId, call, found, here, rfl⟩
    obtain ⟨later, present, entries, calm⟩ := goes.kept callId call found
    exact ⟨opened, callId, later, present, entries.trans here, calm here (Or.inl opened)⟩

end Quiet

/-- A transaction that leaves entries and their calls agreeing where it is heard. -/
structure Settles (db after : DB) : Prop where
  onward : Onward db after
  stage : ∀ entryId, Quiet db after entryId ∨ Served after entryId ∧ Called after entryId

theorem Settles.refl {db : DB} (linked : Linked db) : Settles db db :=
  ⟨.refl linked, fun entryId => Or.inl (.refl db entryId)⟩

theorem Settles.served {db after : DB} (settles : Settles db after)
    (served : ∀ entryId, Served db entryId) (entryId : EntryId) : Served after entryId := by
  rcases settles.stage entryId with quiet | ⟨now, _⟩
  · exact quiet.served (served entryId)
  · exact now

theorem Settles.called {db after : DB} (settles : Settles db after)
    (called : ∀ entryId, Called db entryId) (entryId : EntryId) : Called after entryId := by
  rcases settles.stage entryId with quiet | ⟨_, now⟩
  · exact quiet.called (called entryId)
  · exact now

theorem Settles.trans {db middle after : DB} (first : Settles db middle)
    (second : Settles middle after) : Settles db after := by
  refine ⟨first.onward.trans second.onward, fun entryId => ?_⟩
  rcases second.stage entryId with quiet | now
  · rcases first.stage entryId with calm | ⟨served, called⟩
    · exact Or.inl (calm.trans quiet)
    · exact Or.inr ⟨quiet.served served, quiet.called called⟩
  · exact Or.inr now

end Bling.Api
