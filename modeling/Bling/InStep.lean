import Bling.Seats

set_option autoImplicit false

namespace Bling

open Library

/-! Shows, calls and the queue stay in step. -/

/-! ### Shows and their calls -/

/-- The show is live. -/
def LiveIn (shows : Table Show) (showId : ShowId) : Prop :=
  ∃ hotline, shows.get showId = some hotline ∧ hotline.status = .live

theorem showLive_iff {db : DB} {showId : ShowId} :
    showLive db showId = true ↔ LiveIn db.shows showId := by
  simp only [showLive, Option.any_eq_true, beq_iff_eq, LiveIn]

/-- The show has been live, be it over or not. -/
def BegunIn (shows : Table Show) (showId : ShowId) : Prop :=
  ∃ hotline, shows.get showId = some hotline ∧ hotline.status ≠ .created

theorem LiveIn.begun {shows : Table Show} {showId : ShowId} (live : LiveIn shows showId) :
    BegunIn shows showId := by
  obtain ⟨hotline, present, status⟩ := live
  refine ⟨hotline, present, ?_⟩
  rw [status]
  decide

structure ShowsInStep (shows : Table Show) (calls : Table Call) : Prop where
  alone : ∀ i j a b, shows.get i = some a → shows.get j = some b → a.status = .live →
    b.status = .live → a.creatorId = b.creatorId → i = j
  hosted : ∀ id call, calls.get id = some call → BegunIn shows call.showId ∧
    (call.status ∈ connectableStatuses → LiveIn shows call.showId)
  single : ∀ i j a b, calls.get i = some a → calls.get j = some b →
    a.status ∈ activeCallStatuses → b.status ∈ activeCallStatuses → a.showId = b.showId → i = j

theorem connectable_active {status : CallStatus} (connectable : status ∈ connectableStatuses) :
    status ∈ activeCallStatuses := by
  cases status <;> simp_all [connectableStatuses, activeCallStatuses]

theorem activeCallForShow_none {db : DB} {showId : ShowId}
    (idle : activeCallForShow db showId = none) {callId : CallId} {call : Call}
    (present : db.calls.get callId = some call) (inShow : call.showId = showId) :
    call.status ∉ activeCallStatuses := by
  intro active
  have absent := List.findSome?_eq_none_iff.mp idle call.status active
  have unmatched := Table.first_none absent present
  simp [inShow] at unmatched

section Shows

variable {shows : Table Show} {calls : Table Call}

theorem ShowsInStep.empty : ShowsInStep .empty .empty := by
  constructor
  · intro i j a b found
    cases found
  · intro id call found
    cases found
  · intro i j a b found
    cases found

/-- A call that moves on within its show. -/
theorem ShowsInStep.patchCall (inStep : ShowsInStep shows calls) {callId : CallId} {call : Call}
    {moved : Call → Call} (present : calls.get callId = some call)
    (inShow : (moved call).showId = call.showId)
    (active : (moved call).status ∈ activeCallStatuses → call.status ∈ activeCallStatuses)
    (live : (moved call).status ∈ connectableStatuses → LiveIn shows call.showId) :
    ShowsInStep shows (calls.patch callId moved) := by
  refine ⟨inStep.alone, ?_, ?_⟩
  · intro id c found
    rcases Table.get_patch_row present found with ⟨_, rfl⟩ | ⟨_, old⟩
    · rw [inShow]
      exact ⟨(inStep.hosted callId call present).1, live⟩
    · exact inStep.hosted id c old
  · intro i j a b first second firstActive secondActive together
    rcases Table.get_patch_row present first with ⟨rfl, rfl⟩ | ⟨_, oldFirst⟩ <;>
      rcases Table.get_patch_row present second with ⟨rfl, rfl⟩ | ⟨_, oldSecond⟩
    · rfl
    · exact inStep.single i j call b present oldSecond (active firstActive) secondActive
        (inShow.symm.trans together)
    · exact inStep.single i j a call oldFirst present firstActive (active secondActive)
        (together.trans inShow)
    · exact inStep.single i j a b oldFirst oldSecond firstActive secondActive together

/-- A call opens in a live show without an active one. -/
theorem ShowsInStep.openCall (inStep : ShowsInStep shows calls) {call : Call}
    (live : LiveIn shows call.showId)
    (idle : ∀ id c, calls.get id = some c → c.showId = call.showId →
      c.status ∉ activeCallStatuses) : ShowsInStep shows (calls.insert call) := by
  refine ⟨inStep.alone, ?_, ?_⟩
  · intro id c found
    rcases Table.get_insert_row found with ⟨_, rfl⟩ | old
    · exact ⟨live.begun, fun _ => live⟩
    · exact inStep.hosted id c old
  · intro i j a b first second firstActive secondActive together
    rcases Table.get_insert_row first with ⟨rfl, rfl⟩ | oldFirst <;>
      rcases Table.get_insert_row second with ⟨rfl, rfl⟩ | oldSecond
    · rfl
    · exact absurd secondActive (idle j b oldSecond together.symm)
    · exact absurd firstActive (idle i a oldFirst together)
    · exact inStep.single i j a b oldFirst oldSecond firstActive secondActive together

/-- A show ends once none of its calls connects. -/
theorem ShowsInStep.endShow (inStep : ShowsInStep shows calls) {showId : ShowId} {hotline : Show}
    {isOver : Show → Show} (present : shows.get showId = some hotline)
    (ended : (isOver hotline).status = .ended)
    (quiet : ∀ id c, calls.get id = some c → c.showId = showId →
      c.status ∉ connectableStatuses) : ShowsInStep (shows.patch showId isOver) calls := by
  refine ⟨?_, ?_, inStep.single⟩
  · intro i j a b first second firstLive secondLive creator
    rcases Table.get_patch_row present first with ⟨_, rfl⟩ | ⟨_, oldFirst⟩
    · rw [ended] at firstLive
      cases firstLive
    · rcases Table.get_patch_row present second with ⟨_, rfl⟩ | ⟨_, oldSecond⟩
      · rw [ended] at secondLive
        cases secondLive
      · exact inStep.alone i j a b oldFirst oldSecond firstLive secondLive creator
  · intro id c found
    obtain ⟨⟨s, located, begun⟩, live⟩ := inStep.hosted id c found
    by_cases here : c.showId = showId
    · rw [here]
      refine ⟨⟨_, Table.get_patch_self present _, ?_⟩, ?_⟩
      · rw [ended]
        decide
      · exact fun connectable => absurd connectable (quiet id c found here)
    · have kept := Table.get_patch_of_ne here shows isOver
      refine ⟨⟨s, kept.trans located, begun⟩, ?_⟩
      intro connectable
      obtain ⟨h, there, isLive⟩ := live connectable
      exact ⟨h, kept.trans there, isLive⟩

/-- A show starts if its creator has no other live show. -/
theorem ShowsInStep.startShow (inStep : ShowsInStep shows calls) {showId : ShowId} {hotline : Show}
    {start : Show → Show} (present : shows.get showId = some hotline)
    (created : hotline.status = .created) (creator : (start hotline).creatorId = hotline.creatorId)
    (alone : ∀ id s, shows.get id = some s → s.creatorId = hotline.creatorId → s.status ≠ .live) :
    ShowsInStep (shows.patch showId start) calls := by
  refine ⟨?_, ?_, inStep.single⟩
  · intro i j a b first second firstLive secondLive together
    rcases Table.get_patch_row present first with ⟨rfl, rfl⟩ | ⟨_, oldFirst⟩ <;>
      rcases Table.get_patch_row present second with ⟨rfl, rfl⟩ | ⟨_, oldSecond⟩
    · rfl
    · exact absurd secondLive (alone j b oldSecond (together.symm.trans creator))
    · exact absurd firstLive (alone i a oldFirst (together.trans creator))
    · exact inStep.alone i j a b oldFirst oldSecond firstLive secondLive together
  · intro id c found
    obtain ⟨⟨s, located, begun⟩, live⟩ := inStep.hosted id c found
    -- The call's show has begun, so it is another one.
    have apart : c.showId ≠ showId := by
      intro here
      rw [here, present] at located
      exact begun (Option.some.inj located ▸ created)
    have kept := Table.get_patch_of_ne apart shows start
    refine ⟨⟨s, kept.trans located, begun⟩, ?_⟩
    intro connectable
    obtain ⟨h, there, isLive⟩ := live connectable
    exact ⟨h, kept.trans there, isLive⟩

theorem ShowsInStep.addShow (inStep : ShowsInStep shows calls) {hotline : Show}
    (created : hotline.status = .created) : ShowsInStep (shows.insert hotline) calls := by
  refine ⟨?_, ?_, inStep.single⟩
  · intro i j a b first second firstLive secondLive creator
    rcases Table.get_insert_row first with ⟨_, rfl⟩ | oldFirst
    · rw [created] at firstLive
      cases firstLive
    · rcases Table.get_insert_row second with ⟨_, rfl⟩ | oldSecond
      · rw [created] at secondLive
        cases secondLive
      · exact inStep.alone i j a b oldFirst oldSecond firstLive secondLive creator
  · intro id c found
    obtain ⟨⟨s, located, begun⟩, live⟩ := inStep.hosted id c found
    refine ⟨⟨s, Table.get_insert_of_some located _, begun⟩, ?_⟩
    intro connectable
    obtain ⟨h, there, isLive⟩ := live connectable
    exact ⟨h, Table.get_insert_of_some there _, isLive⟩

end Shows

/-- The show's active call is the one that is found. -/
theorem ShowsInStep.active {db : DB} (inStep : ShowsInStep db.shows db.calls) {callId : CallId}
    {call : Call} (present : db.calls.get callId = some call)
    (active : call.status ∈ activeCallStatuses) :
    activeCallForShow db call.showId = some (callId, call) := by
  cases found : activeCallForShow db call.showId with
  | none => exact absurd active (activeCallForShow_none found present rfl)
  | some row =>
      obtain ⟨located, together, isActive⟩ := activeCallForShow_present found
      have same := inStep.single callId row.1 call row.2 present located active isActive
        together.symm
      rw [← same, present] at located
      rw [Option.some.inj located, same]

theorem CallStatus.open_of_transition {source target : CallStatus}
    (allowed : canTransition source target = true) : source ∈ connectableStatuses := by
  rcases (canTransition_target allowed).1 with is | is | is <;> simp [is, connectableStatuses]

theorem ShowsInStep.effect {ctx : Ctx} {db after : DB} {m : Mutation}
    (inStep : ShowsInStep db.shows db.calls) (effect : Effect ctx db m after) :
    ShowsInStep after.shows after.calls := by
  cases effect with
  | showAdded hotline tier created free same =>
      rw [same.shows, same.calls]
      exact inStep.addShow created
  | showStarted showId hotline present created alone same =>
      rw [same.shows, same.calls]
      dsimp only
      exact inStep.startShow present created rfl alone
  | showEnded showId hotline asked present live idle same =>
      rw [same.shows, same.calls]
      dsimp only
      refine inStep.endShow present rfl ?_
      intro id c found inShow connectable
      have active := inStep.active found (connectable_active connectable)
      rw [inShow] at active
      exact idle id c active connectable
  | moved callId call target shows present allowed asked isOver same =>
      have connectable := CallStatus.open_of_transition allowed
      have live := (inStep.hosted callId call present).2 connectable
      have moved : ShowsInStep db.shows (db.calls.patch callId (transitionPatch ctx target)) :=
        inStep.patchCall present rfl (fun _ => connectable_active connectable) fun _ => live
      rw [same.shows, same.calls]
      dsimp only
      rcases isOver with unchanged | ⟨ended, showId, hotline, _, host, isLive, active, patched⟩
      · rw [unchanged]
        exact moved
      · rw [patched]
        refine moved.endShow host rfl ?_
        intro id c found inShow connects
        rcases Table.get_patch_row present found with ⟨_, rfl⟩ | ⟨apart, old⟩
        · rw [transitionPatch, ended] at connects
          simp [connectableStatuses] at connects
        · -- Another call that connects would be the show's active call too.
          have found := inStep.active old (connectable_active connects)
          rw [inShow, active] at found
          exact apart (Prod.mk.inj (Option.some.inj found)).1.symm
  | selected showId hotline entryId entry mode attempt asked host live idle present inShow waiting
      held paid same =>
      have shows : after.shows = db.shows := by
        rw [same.shows]
        cases attempt <;> rfl
      rw [shows, same.calls, openCall_calls]
      refine inStep.openCall ⟨hotline, host, live⟩ ?_
      intro id c found together
      exact activeCallForShow_none idle found together
  | callOpened attemptId attempt capturedAt method callId call asked present found pending live
      same =>
      rw [same.shows, same.calls]
      dsimp only
      refine inStep.patchCall (callForAttempt_present found).1 rfl ?_ ?_
      · intro _
        rw [pending]
        decide
      · exact fun _ => showLive_iff.mp live
  | callMissed attemptId attempt capturedAt method callId call asked present found unstarted isOver
      pending same =>
      rw [same.shows, same.calls]
      dsimp only
      refine inStep.patchCall (callForAttempt_present found).1 rfl ?_ ?_ <;>
        simp [failedPatch, activeCallStatuses, connectableStatuses]
  | notCaptured attemptId attempt status failureCode canceledAt calls queueEntries asked present
      uncaptured failed released same =>
      rw [same.shows, same.calls]
      dsimp only
      rcases failed with ⟨unchanged, _⟩ | ⟨callId, call, found, pending, patched⟩
      · rw [unchanged]
        exact inStep
      · rw [patched]
        refine inStep.patchCall (callForAttempt_present found).1 rfl ?_ ?_ <;>
          simp [failedPatch, activeCallStatuses, connectableStatuses]
  | _ =>
      rename_i same
      rw [same.shows, same.calls]
      exact inStep

theorem ShowsInStep.reached {w : World} (reached : World.Reached w) :
    ShowsInStep w.db.shows w.db.calls :=
  World.reached_keeps (fun db => ShowsInStep db.shows db.calls) (fun _ _ => Iff.rfl) .empty
    (fun ctx db m inStep => inStep.effect (m.effect ctx db)) reached

end Bling
