import Bling.Api.Transactions

set_option autoImplicit false

namespace Bling.Api

open Library

/-! Calls and queue entries agree as long as no capture completes after its
caller has left. -/

/-- Calls and queue entries agree, whichever side one looks from. -/
structure Agrees (db : DB) : Prop where
  called : ∀ callId call, db.calls.get callId = some call → call.status ∈ openStatuses →
    ∃ entry, db.queueEntries.get call.queueEntryId = some entry ∧
      entry.status = queueStatus call.status
  served : ∀ entryId entry, db.queueEntries.get entryId = some entry → entry.status ∈ onStage →
    ∃ callId call, db.calls.get callId = some call ∧ call.queueEntryId = entryId ∧
      call.status ∈ openStatuses ∧ entry.status = queueStatus call.status

theorem agrees_iff (db : DB) :
    Agrees db ↔ ∀ entryId, Called db entryId ∧ Served db entryId := by
  constructor
  · intro agrees entryId
    constructor
    · rintro status ⟨opened, callId, call, found, rfl, rfl⟩
      obtain ⟨entry, present, same⟩ := agrees.called callId call found opened
      rw [← same]
      apply stage_of_on present
      rw [same]
      revert opened
      cases call.status <;> decide
    · intro seat here
      obtain ⟨entry, present, rfl, on⟩ := stage_some here
      obtain ⟨callId, call, found, mine, opened, same⟩ := agrees.served entryId entry present on
      exact ⟨call.status, ⟨opened, callId, call, found, mine, rfl⟩, same.symm⟩
  · intro both
    constructor
    · intro callId call found opened
      have here := (both call.queueEntryId).1 call.status ⟨opened, callId, call, found, rfl, rfl⟩
      obtain ⟨entry, present, same, _⟩ := stage_some here
      exact ⟨entry, present, same⟩
    · intro entryId entry present on
      obtain ⟨status, ⟨opened, callId, call, found, mine, rfl⟩, same⟩ :=
        (both entryId).2 entry.status (stage_of_on present on)
      exact ⟨callId, call, found, mine, opened, same.symm⟩

/-! ### One step -/

theorem commit_settles {s : State} (linked : Linked s.db) {result : Except ApiError DB}
    (settles : ∀ after, result = .ok after → Settles s.db after) :
    Settles s.db (s.commit result).db := by
  cases result with
  | error e => exact .refl linked
  | ok after => exact settles after rfl

theorem commit_reservations (s : State) (result : Except ApiError DB) :
    (s.commit result).reservations = s.reservations := by
  cases result <;> rfl

/-- A reservation waits for the capture of its call's payment. -/
def Reserved (db : DB) (r : Reservation) : Prop :=
  ∃ call, db.calls.get r.callId = some call ∧ call.showId = r.showId ∧
    call.queueEntryId = r.entryId

theorem Onward.reserved {db after : DB} (onward : Onward db after) {r : Reservation}
    (reserved : Reserved db r) : Reserved after r := by
  obtain ⟨call, found, inShow, mine⟩ := reserved
  obtain ⟨later, here, shows, entries⟩ := onward.kept r.callId call found
  exact ⟨later, here, shows.trans inShow, entries.trans mine⟩

/-- A step that isn't late settles. -/
theorem step_settles {s : State} (staged : Staged s) {input : Time × Op}
    (timely : s.Timely input) : Settles s.db (s.step input).db := by
  obtain ⟨now, op⟩ := input
  have linked := staged.linked
  cases op with
  | prepare showId tierId viewerTokenHash keyHash payerUserId stripeCustomerId =>
      exact commit_settles linked fun after ok => prepare_settles linked ok
  | attachIntent attemptId intentId =>
      exact commit_settles linked fun after ok => attachIntent_settles linked ok
  | markAuthorized attemptId => exact markAuthorized_settles linked now attemptId
  | markCanceled attemptId => exact markCanceled_settles linked now attemptId
  | join input =>
      refine commit_settles linked fun after ok => ?_
      cases joined : join now s.db input with
      | error e =>
          rw [joined] at ok
          cases ok
      | ok result =>
          rw [joined] at ok
          obtain rfl := Except.ok.inj ok
          exact join_settles linked joined
  | leave showId sessionTokenHash =>
      exact commit_settles linked fun after ok => leave_settles linked ok
  | select showId creatorId choice =>
      simp only [State.step]
      split
      · exact .refl linked
      · rename_i selected
        exact (select_settles linked selected).1
      · rename_i selected
        exact (select_settles linked selected).1
  | complete r =>
      simp only [State.step]
      split
      · rename_i member
        obtain ⟨call, found, inShow, mine⟩ := staged.reserved r member
        exact commit_settles (s := { s with reservations := s.reservations.erase r }) linked
          fun after ok => complete_settles linked found mine inShow (timely r rfl member) ok
      · exact .refl linked
  | fail r =>
      simp only [State.step]
      split
      · exact commit_settles (s := { s with reservations := s.reservations.erase r }) linked
          fun after ok => failPaidSelection_settles linked ok
      · exact .refl linked
  | pending r => exact .refl linked
  | transition showId callId party target =>
      exact commit_settles linked fun after ok => transition_settles linked ok
  | expireDisconnected grace limit =>
      exact commit_settles linked fun after ok => expire_settles linked (by decide) ok
  | expireDue limit =>
      exact commit_settles linked fun after ok => expire_settles linked (by decide) ok
  | markParticipant callId role gone => exact markParticipant_settles linked callId role gone
  | reconcile intentId outcome failureCode =>
      exact commit_settles linked fun after ok => reconcile_settles linked staged.served ok
  | endShow showId creatorId =>
      exact commit_settles linked fun after ok => endShow_settles linked ok

theorem step_reservations (s : State) (input : Time × Op) {r : Reservation}
    (member : r ∈ (s.step input).reservations) (linked : Linked s.db) :
    r ∈ s.reservations ∨ Reserved (s.step input).db r := by
  obtain ⟨now, op⟩ := input
  cases op with
  | select showId creatorId choice =>
      simp only [State.step] at member ⊢
      split at member
      · exact Or.inl member
      · exact Or.inl member
      · rename_i selected
        rcases List.mem_append.mp member with old | new
        · exact Or.inl old
        · right
          exact (select_settles linked selected).2 r (by rw [List.mem_singleton.mp new])
  | complete kept | fail kept =>
      left
      simp only [State.step] at member
      split at member
      · rw [commit_reservations] at member
        exact List.mem_of_mem_erase member
      · exact member
  | pending kept => exact Or.inl (List.mem_of_mem_erase member)
  | markAuthorized | markCanceled | markParticipant => exact Or.inl member
  | _ =>
      left
      simp only [State.step, commit_reservations] at member
      exact member

/-- A step that is late opens a call for a caller who is off stage. -/
theorem step_late {s : State} (staged : Staged s) {input : Time × Op}
    (late : ¬ s.Timely input) : Onward s.db (s.step input).db ∧
      (∀ entryId, Served (s.step input).db entryId) ∧
      ∃ entryId, ¬ Called (s.step input).db entryId := by
  obtain ⟨now, op⟩ := input
  unfold State.Timely at late
  simp only [not_forall] at late
  obtain ⟨r, rfl, member, untimely⟩ := late
  obtain ⟨call, found, inShow, mine⟩ := staged.reserved r member
  obtain ⟨after, completes, onward, quiet, off, opened⟩ :=
    complete_untimely staged.linked found mine staged.served untimely now
  have same : (s.step (now, .complete r)).db = after := by
    simp only [State.step, if_pos member, completes]
    rfl
  rw [same]
  refine ⟨onward, fun entryId => ?_, r.entryId, fun called => ?_⟩
  · by_cases here : entryId = r.entryId
    · intro seat on
      rw [here, off] at on
      cases on
    · exact (quiet entryId here).served (staged.served entryId)
  · have on := called .created opened
    rw [off] at on
    cases on

theorem step_staged {s : State} (staged : Staged s) (input : Time × Op) :
    Staged (s.step input) := by
  have facts : Onward s.db (s.step input).db ∧ ∀ entryId, Served (s.step input).db entryId := by
    by_cases timely : s.Timely input
    · have settles := step_settles staged timely
      exact ⟨settles.onward, settles.served staged.served⟩
    · have late := step_late staged timely
      exact ⟨late.1, late.2.1⟩
  refine ⟨facts.1.linked, facts.2, fun r member => ?_⟩
  rcases step_reservations s input member staged.linked with old | new
  · exact facts.1.reserved (staged.reserved r old)
  · exact new

theorem reachable_staged {shows : Table Show} {showTiers : Table ShowTier} {s : State}
    (reached : Reachable State.step (.opening shows showTiers) s) : Staged s :=
  reached.induct Staged (opening_staged shows showTiers) fun _ input staged =>
    step_staged staged input

/-! ### Any run -/

instance (s : State) (input : Time × Op) : Decidable (s.Timely input) :=
  match input with
  | (now, .complete r) =>
    decidable_of_iff (r ∈ s.reservations → s.db.timely r = true)
      ⟨fun timely other same member => by cases same; exact timely member,
        fun timely member => timely r rfl member⟩
  | (_, .prepare ..) | (_, .attachIntent ..) | (_, .markAuthorized _) | (_, .markCanceled _)
  | (_, .join _) | (_, .leave ..) | (_, .select ..) | (_, .fail _) | (_, .pending _)
  | (_, .transition ..) | (_, .expireDisconnected ..) | (_, .expireDue _)
  | (_, .markParticipant ..) | (_, .reconcile ..) | (_, .endShow ..) =>
    isTrue fun _ same => by cases same

/-- After any run without a late completion calls and entries agree, and the next
step keeps it so if and only if it isn't one. -/
theorem calls_agree (shows : Table Show) (showTiers : Table ShowTier) (inputs : List (Time × Op))
    (timely : Along State.step State.Timely (.opening shows showTiers) inputs) :
    Agrees (run State.step (.opening shows showTiers) inputs).db ∧
      ∀ input, Agrees ((run State.step (.opening shows showTiers) inputs).step input).db ↔
        (run State.step (.opening shows showTiers) inputs).Timely input := by
  have holds : Staged (run State.step (.opening shows showTiers) inputs) ∧
      ∀ entryId, Called (run State.step (.opening shows showTiers) inputs).db entryId := by
    refine run_keeps (fun s => Staged s ∧ ∀ entryId, Called s.db entryId) ?_
      ⟨opening_staged shows showTiers, ?_⟩ timely
    · rintro s input ⟨staged, called⟩ inTime
      exact ⟨step_staged staged input, (step_settles staged inTime).called called⟩
    · rintro entryId status ⟨_, callId, call, found, _⟩
      cases found
  obtain ⟨staged, called⟩ := holds
  refine ⟨(agrees_iff _).mpr fun entryId => ⟨called entryId, staged.served entryId⟩,
    fun input => ⟨fun agrees => ?_, fun inTime => ?_⟩⟩
  · by_contra late
    obtain ⟨_, _, entryId, uncalled⟩ := step_late staged late
    exact uncalled ((agrees_iff _).mp agrees entryId).1
  · have settles := step_settles staged inTime
    exact (agrees_iff _).mpr fun entryId =>
      ⟨settles.called called entryId, settles.served staged.served entryId⟩

/-! ### A caller who leaves while Stripe captures -/

def sampleShows : Table Show := Table.empty.insert ⟨5, .live, some 0, none⟩

def sampleTiers (priceCents : Nat) : Table ShowTier :=
  Table.empty.insert ⟨0, [1], 0, 60, priceCents, true⟩

def sampleJoin (payment : Option AttemptId) : Op :=
  .join ⟨0, some 0, [2], [3], 7, 8, payment⟩

/-- Viewer 7 pays, joins and is selected. -/
def sampleSelection : List (Time × Op) :=
  [(1, .prepare 0 0 7 1 (some 8) (some 80)), (2, .attachIntent 0 900), (3, .markAuthorized 0),
    (4, sampleJoin (some 0)), (5, .select 0 5 (.manual 0))]

def sampleReservation : Reservation := ⟨0, 0, 0, 0, 900⟩

set_option maxRecDepth 20000 in
theorem calls_agree_completed :
    Along State.step State.Timely (.opening sampleShows (sampleTiers 500))
      (sampleSelection ++ [(6, .complete sampleReservation)]) ∧
    Agrees (run State.step (.opening sampleShows (sampleTiers 500))
      (sampleSelection ++ [(6, .complete sampleReservation)])).db :=
  have timely : Along State.step State.Timely (.opening sampleShows (sampleTiers 500))
      (sampleSelection ++ [(6, .complete sampleReservation)]) := by decide
  ⟨timely, (calls_agree sampleShows (sampleTiers 500) _ timely).1⟩

set_option maxRecDepth 20000 in
/-- The viewer leaves before the capture completes, and has an open call that is paid for. -/
theorem leaver_has_call : ¬ ∀ shows showTiers inputs,
    Agrees (run State.step (.opening shows showTiers) inputs).db := by
  intro always
  have agrees := always sampleShows (sampleTiers 500)
    (sampleSelection ++ [(6, .leave 0 7), (7, .complete sampleReservation)])
  have created : ((run State.step (.opening sampleShows (sampleTiers 500))
      (sampleSelection ++ [(6, .leave 0 7), (7, .complete sampleReservation)])).db.calls.get 0).map
        (fun c => (c.queueEntryId, c.status)) = some (0, .created) := by decide
  have left : ((run State.step (.opening sampleShows (sampleTiers 500))
      (sampleSelection ++ [(6, .leave 0 7), (7, .complete sampleReservation)])).db.queueEntries.get
        0).map (fun q => q.status) = some .left := by decide
  obtain ⟨call, found, same⟩ := Option.map_eq_some_iff.mp created
  obtain ⟨mine, opened⟩ := Prod.mk.inj same
  obtain ⟨entry, present, agree⟩ := agrees.called 0 call found (by rw [opened]; decide)
  rw [mine] at present
  rw [present, Option.map_some, agree, opened] at left
  cases left

end Bling.Api
