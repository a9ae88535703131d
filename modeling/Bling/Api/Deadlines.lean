import Bling.Api.Transactions

set_option autoImplicit false

namespace Bling.Api

open Library

/-! What the API makes of the times at which the participants of a call left. -/

def Call.goneAt (call : Call) : CallRole → Option Time
  | .creator => call.creatorDisconnectedAt
  | .viewer => call.viewerDisconnectedAt

def Call.Unmarked (call : Call) : Prop := ∀ role, call.goneAt role = none

/-- A call's times are kept or cleared, and no closed call is opened. -/
structure Call.Spares (call later : Call) : Prop where
  gone : ∀ role, later.goneAt role = call.goneAt role ∨ later.goneAt role = none
  opens : later.status ∈ openStatuses → call.status ∈ openStatuses ∨ call.status = .paymentPending
  pending : later.status = .paymentPending → call.status = .paymentPending

theorem Call.Spares.refl (call : Call) : call.Spares call :=
  ⟨fun _ => Or.inl rfl, Or.inl, fun pending => pending⟩

theorem Call.Spares.trans {a b c : Call} (first : a.Spares b) (second : b.Spares c) :
    a.Spares c := by
  refine ⟨fun role => ?_, fun opened => ?_, fun pending => first.pending (second.pending pending)⟩
  · rcases second.gone role with same | cleared
    · rw [same]
      exact first.gone role
    · exact Or.inr cleared
  · rcases second.opens opened with still | pending
    · exact first.opens still
    · exact Or.inr (first.pending pending)

/-- Every call is new, or an earlier one with its times kept or cleared. -/
def Spares (db after : DB) : Prop :=
  ∀ callId later, after.calls.get callId = some later →
    (∃ call, db.calls.get callId = some call ∧ call.Spares later) ∨ later.Unmarked

section Spares

variable {db after : DB}

theorem Spares.of_eq (same : after.calls = db.calls) : Spares db after := by
  intro callId later found
  exact Or.inl ⟨later, same ▸ found, .refl later⟩

theorem Spares.trans {middle : DB} (first : Spares db middle) (second : Spares middle after) :
    Spares db after := by
  intro callId later found
  rcases second callId later found with ⟨between, present, spared⟩ | unmarked
  · rcases first callId between present with ⟨call, there, kept⟩ | unmarked
    · exact Or.inl ⟨call, there, kept.trans spared⟩
    · right
      intro role
      rcases spared.gone role with same | cleared
      · exact same.trans (unmarked role)
      · exact cleared
  · exact Or.inr unmarked

theorem Spares.of_follow (goes : Table.Follow (fun _ => Call.Spares) (fun _ => False) db.calls
    after.calls) : Spares db after := by
  intro callId later found
  rcases goes.origin callId later found with old | ⟨_, none⟩
  · exact Or.inl old
  · cases none

theorem Spares.updateCall {callId : CallId} {f : Call → Call}
    (spared : ∀ call, db.calls.get callId = some call → call.Spares (f call)) :
    Spares db (updateCall db callId f) :=
  .of_follow (.patch (fun _ => .refl) spared)

theorem updateEntry_calls {entryId : EntryId} {f : QueueEntry → QueueEntry}
    (ok : updateEntry db entryId f = .ok after) : after.calls = db.calls := by
  obtain ⟨rfl, _⟩ := updateEntry_ok ok
  rfl

/-! ### Entries and payments -/

theorem prepare_calls {showId : ShowId} {tierId : TierId} {viewerTokenHash keyHash : Hash}
    {payerUserId : Option UserId} {stripeCustomerId : Option StripeId}
    (ok : prepare db showId tierId viewerTokenHash keyHash payerUserId stripeCustomerId = .ok after) :
    after.calls = db.calls := by
  unfold prepare at ok
  repeat' split at ok
  all_goals cases ok
  all_goals rfl

theorem attachIntent_calls {attemptId : AttemptId} {intentId : StripeId}
    (ok : attachIntent db attemptId intentId = .ok after) : after.calls = db.calls := by
  unfold attachIntent at ok
  repeat' split at ok
  all_goals cases ok
  all_goals rfl

theorem claimPayment_calls {payment : Option AttemptId} {entryId : EntryId}
    (ok : claimPayment db payment entryId = .ok after) : after.calls = db.calls := by
  obtain ⟨_, rfl, _⟩ := claimPayment_ok ok
  rfl

theorem join_calls {now : Time} {input : JoinInput} {joinedId : EntryId}
    (ok : join now db input = .ok (after, joinedId)) : after.calls = db.calls := by
  unfold join at ok
  split at ok
  · cases ok
  · split at ok
    · cases ok
    · obtain ⟨⟨tierId, tier⟩, _, ok⟩ := bind_ok ok
      obtain ⟨payment, _, ok⟩ := bind_ok ok
      split at ok
      · split at ok
        · obtain ⟨moved, updated, ok⟩ := bind_ok ok
          obtain ⟨rfl, rfl⟩ := Prod.mk.inj (Except.ok.inj ok)
          exact updateEntry_calls updated
        · split at ok
          · obtain ⟨moved, updated, ok⟩ := bind_ok ok
            obtain ⟨claimed, claims, ok⟩ := bind_ok ok
            obtain ⟨rfl, rfl⟩ := Prod.mk.inj (Except.ok.inj ok)
            have same : claimed.calls = moved.calls := (claimPayment_calls claims).trans rfl
            exact same.trans (updateEntry_calls updated)
          · obtain ⟨rfl, rfl⟩ := Prod.mk.inj (Except.ok.inj ok)
            rfl
      · obtain ⟨inserted, inserts, ok⟩ := bind_ok ok
        obtain ⟨claimed, claims, ok⟩ := bind_ok ok
        obtain ⟨rfl, rfl⟩ := Prod.mk.inj (Except.ok.inj ok)
        obtain ⟨rfl, _⟩ := insertQueueEntry_ok inserts
        have same : claimed.calls = db.calls := (claimPayment_calls claims).trans rfl
        exact same

theorem leave_calls {now : Time} {showId : ShowId} {sessionTokenHash : Hash}
    (ok : leave now db showId sessionTokenHash = .ok after) : after.calls = db.calls := by
  unfold leave at ok
  split at ok
  · cases ok
  · split at ok
    · obtain rfl := Except.ok.inj ok
      rfl
    · split at ok
      · cases ok
      · exact updateEntry_calls ok

/-! ### Calls -/

theorem Spares.insertCall {call : Call} (unmarked : call.Unmarked)
    (ok : insertCall db call = .ok after) : Spares db after := by
  obtain ⟨rfl, _⟩ := insertCall_ok ok
  intro callId later found
  rcases Table.get_insert_row found with ⟨_, rfl⟩ | old
  · exact Or.inr unmarked
  · exact Or.inl ⟨later, old, .refl later⟩

theorem newCall_unmarked (now : Time) (showId : ShowId) (entryId : EntryId) (entry : QueueEntry)
    (mode : SelectionMode) (status : CallStatus) (payment : Option AttemptId) :
    (newCall now showId entryId entry mode status payment).Unmarked := by
  intro role
  cases role <;> rfl

theorem select_spares {now : Time} {showId : ShowId} {creatorId : UserId} {choice : Choice}
    {reservation : Option Reservation}
    (ok : select now db showId creatorId choice = .ok (after, reservation)) : Spares db after := by
  unfold select at ok
  split at ok
  · cases ok
  · split at ok
    · cases ok
    · split at ok
      · cases ok
      · split at ok
        · cases ok
        · dsimp only at ok
          split at ok
          · split at ok <;> cases ok
          · split at ok
            · unfold selectPaid at ok
              split at ok
              · cases ok
              · split at ok
                · cases ok
                · split at ok
                  · cases ok
                  · obtain ⟨inserted, inserts, ok⟩ := bind_ok ok
                    obtain ⟨rfl, rfl⟩ := Prod.mk.inj (Except.ok.inj ok)
                    exact (Spares.insertCall (newCall_unmarked _ _ _ _ _ _ _) inserts).trans (.of_eq rfl)
            · obtain ⟨moved, updated, ok⟩ := bind_ok ok
              obtain ⟨inserted, inserts, ok⟩ := bind_ok ok
              obtain ⟨rfl, rfl⟩ := Prod.mk.inj (Except.ok.inj ok)
              exact (Spares.of_eq (updateEntry_calls updated)).trans
                (.insertCall (newCall_unmarked _ _ _ _ _ _ _) inserts)

theorem Call.Spares.closed {call later : Call} (gone : ∀ role, later.goneAt role = call.goneAt role)
    (closed : later.status = .failed ∨ later.status = .ended) : call.Spares later := by
  refine ⟨fun role => Or.inl (gone role), fun opened => ?_, fun pending => ?_⟩
  · rcases closed with failed | ended
    · rw [failed] at opened
      exact absurd opened (by decide)
    · rw [ended] at opened
      exact absurd opened (by decide)
  · rcases closed with failed | ended
    · rw [failed] at pending
      cases pending
    · rw [ended] at pending
      cases pending

/-- A call that is paid for now begins. -/
theorem Call.Spares.created {call : Call} (pending : call.status = .paymentPending) :
    call.Spares { call with status := .created } :=
  ⟨fun role => Or.inl (by cases role <;> rfl), fun _ => Or.inr pending, nofun⟩

theorem failPending_spares (now : Time) (call : Call) : call.Spares (failPending now call) := by
  unfold failPending
  split
  · exact .closed (fun role => by cases role <;> rfl) (Or.inl rfl)
  · exact .refl call

theorem complete_spares {now : Time} {r : Reservation}
    (ok : completePaidSelection now db r = .ok after) : Spares db after := by
  unfold completePaidSelection at ok
  split at ok
  · cases ok
  · dsimp only at ok
    split at ok
    · obtain rfl := Except.ok.inj ok
      refine (Spares.of_eq rfl).trans (.updateCall fun call _ => ?_)
      exact .closed (fun role => by cases role <;> rfl) (Or.inl rfl)
    · obtain ⟨seated, updated, ok⟩ := bind_ok ok
      have same : seated.calls = db.calls := (updateEntry_calls updated).trans rfl
      split at ok
      · cases ok
      · rename_i call found
        split at ok
        · cases ok
        · rename_i pending
          obtain rfl := Except.ok.inj ok
          refine (Spares.of_eq same).trans (.updateCall fun other there => ?_)
          obtain rfl := Option.some.inj (found.symm.trans there)
          exact .created (not_not.mp pending)

theorem failPaidSelection_spares {now : Time} {callId : CallId} {attemptId : AttemptId}
    (ok : failPaidSelection now db callId attemptId = .ok after) : Spares db after := by
  have first : Spares db (updateAttempt (updateCall db callId (failPending now)) attemptId
      failCapture) :=
    (Spares.updateCall fun call _ => failPending_spares now call).trans (.of_eq rfl)
  unfold failPaidSelection at ok
  dsimp only at ok
  split at ok
  · cases ok
  · split at ok
    · cases ok
    · split at ok
      · cases ok
      · exact first.trans (.of_eq (updateEntry_calls ok))

theorem applyTransition_spares {now : Time} {callId : CallId} {call : Call} {target : CallStatus}
    (still : ∀ current, db.calls.get callId = some current →
      target ∈ openStatuses → current.status ∈ openStatuses)
    (ok : applyTransition now db callId call target = .ok after) : Spares db after := by
  unfold applyTransition at ok
  split at ok
  · cases ok
  · rename_i can
    obtain ⟨_, pending⟩ := canTransition_from (by simpa using can)
    refine (Spares.updateCall fun current found => ?_).trans (.of_eq (updateEntry_calls ok))
    refine ⟨fun role => ?_, fun opened => Or.inl (still current found opened),
      fun paid => absurd paid pending⟩
    by_cases closes : target = .ended ∨ target = .failed <;> cases role <;>
      simp [Call.goneAt, closes]

theorem transition_spares {now : Time} {showId : ShowId} {callId : CallId} {party : Party}
    {target : CallStatus} (ok : transition now db showId callId party target = .ok after) :
    Spares db after := by
  unfold transition at ok
  split at ok
  · cases ok
  · rename_i call asked
    split at ok
    · obtain rfl := Except.ok.inj ok
      exact .of_eq rfl
    · have found : db.calls.get callId = some call := by
        unfold authorizedCall at asked
        split at asked
        · cases asked
        · rename_i present
          simp only [Option.ite_none_right_eq_some] at asked
          exact present.trans asked.2
      refine applyTransition_spares (fun current there _ => ?_) ok
      obtain rfl := Option.some.inj (found.symm.trans there)
      unfold applyTransition at ok
      split at ok
      · cases ok
      · rename_i can
        exact (canTransition_from (by simpa using can)).1

theorem expireEach_spares {now : Time} {target : CallStatus} (closes : target ∉ openStatuses)
    {due : List (CallId × Call)} (ok : expireEach now target due db = .ok after) :
    Spares db after := by
  induction due generalizing db with
  | nil =>
      obtain rfl := Except.ok.inj ok
      exact .of_eq rfl
  | cons row rest ih =>
      obtain ⟨middle, applied, ok⟩ := bind_ok ok
      exact (applyTransition_spares (fun _ _ opened => absurd opened closes) applied).trans (ih ok)

theorem reconcileCaptured_spares {now : Time} {attemptId : AttemptId} {hotline : Show}
    (ok : reconcileCaptured now db attemptId hotline = .ok after) : Spares db after := by
  unfold reconcileCaptured at ok
  dsimp only at ok
  split at ok
  · obtain rfl := Except.ok.inj ok
    exact .of_eq rfl
  · rename_i callId call located
    have found : db.calls.get callId = some call := (Table.first_some located).1
    split at ok
    · obtain rfl := Except.ok.inj ok
      exact .of_eq rfl
    · rename_i concerned
      split at ok
      · refine .trans ?_ (.of_eq (updateEntry_calls ok))
        refine .trans (.of_eq ?_) (.updateCall fun other _ => ?_)
        · rfl
        split
        · exact .closed (fun role => by cases role <;> rfl) (Or.inl rfl)
        · exact .refl other
      · rename_i kept
        obtain ⟨seated, updated, ok⟩ := bind_ok ok
        obtain rfl := Except.ok.inj ok
        have same : seated.calls = db.calls := (updateEntry_calls updated).trans rfl
        refine (Spares.of_eq same).trans (.updateCall fun other there => ?_)
        rw [same, found] at there
        obtain rfl := Option.some.inj there
        refine .created ?_
        by_contra other
        exact concerned ⟨other, kept⟩

theorem reconcileNotCaptured_spares {now : Time} {attemptId : AttemptId} {status : PaymentStatus}
    {failureCode : Option String}
    (ok : reconcileNotCaptured now db attemptId status failureCode = .ok after) :
    Spares db after := by
  unfold reconcileNotCaptured at ok
  dsimp only at ok
  have failed : Table.Follow (fun _ => Call.Spares) (fun _ => False) db.calls
      (db.calls.patchWhere
        (fun c => c.paymentAttemptId == some attemptId && c.status == .paymentPending)
        fun c => { c with status := .failed, endedAt := some (c.endedAt.getD now) }) := by
    refine .patchWhere (fun _ => .refl) ?_
    intro _ call _ _
    exact .closed (fun role => by cases role <;> rfl) (Or.inl rfl)
  split at ok
  · obtain rfl := Except.ok.inj ok
    exact .of_follow failed
  · have same := updateEntry_calls ok
    refine .of_follow ?_
    rw [same]
    exact failed

theorem reconcile_spares {now : Time} {intentId : StripeId} {outcome : Outcome}
    {failureCode : Option String} (ok : reconcile now db intentId outcome failureCode = .ok after) :
    Spares db after := by
  unfold reconcile at ok
  split at ok
  · cases ok
  · split at ok
    · obtain rfl := Except.ok.inj ok
      exact .of_eq rfl
    · split at ok
      · split at ok
        · cases ok
        · exact reconcileCaptured_spares ok
      · exact reconcileNotCaptured_spares ok
      · exact reconcileNotCaptured_spares ok

theorem endShow_spares {now : Time} {showId : ShowId} {creatorId : UserId}
    (ok : endShow now db showId creatorId = .ok after) : Spares db after := by
  unfold endShow at ok
  split at ok
  · cases ok
  · split at ok
    · cases ok
    · split at ok
      · cases ok
      · obtain rfl := Except.ok.inj ok
        exact .of_eq rfl
      · obtain rfl := Except.ok.inj ok
        have ended : Table.Follow (fun _ => Call.Spares) (fun _ => False) db.calls
            (db.calls.patchWhere (fun c => c.showId == showId && c.status ∈ activeStatuses)
              fun c => { c with status := .ended, endedAt := some now }) := by
          refine .patchWhere (fun _ => .refl) ?_
          intro _ call _ _
          exact .closed (fun role => by cases role <;> rfl) (Or.inr rfl)
        exact .of_follow ended

end Spares

/-- A report on a participant. -/
def Op.marks : Op → Bool
  | .markParticipant _ _ _ => true
  | _ => false

/-- Whatever is not a report on a participant spares the times of all calls. -/
theorem State.step_spares (s : State) (now : Time) {op : Op} (apart : op.marks = false) :
    Spares s.db (s.step (now, op)).db := by
  have commit (s : State) {result : Except ApiError DB}
      (spares : ∀ after, result = .ok after → Spares s.db after) :
      Spares s.db (s.commit result).db := by
    cases result with
    | ok after => exact spares after rfl
    | error e => exact .of_eq rfl
  cases op with
  | prepare => exact commit s fun _ ok => .of_eq (prepare_calls ok)
  | attachIntent => exact commit s fun _ ok => .of_eq (attachIntent_calls ok)
  | markAuthorized => exact .of_eq rfl
  | markCanceled => exact .of_eq rfl
  | join input =>
      refine commit s fun after ok => ?_
      cases joined : join now s.db input with
      | error e =>
          rw [joined] at ok
          cases ok
      | ok result =>
          rw [joined] at ok
          obtain rfl := Except.ok.inj ok
          exact .of_eq (join_calls joined)
  | leave => exact commit s fun _ ok => .of_eq (leave_calls ok)
  | select showId creatorId choice =>
      simp only [State.step]
      split
      · exact .of_eq rfl
      · rename_i ok
        exact select_spares ok
      · rename_i ok
        exact select_spares ok
  | complete r =>
      show Spares s.db (if r ∈ s.reservations then
        { s with reservations := s.reservations.erase r }.commit (completePaidSelection now s.db r)
        else s).db
      split
      · exact commit _ fun _ ok => complete_spares ok
      · exact .of_eq rfl
  | fail r =>
      show Spares s.db (if r ∈ s.reservations then
        { s with reservations := s.reservations.erase r }.commit
          (failPaidSelection now s.db r.callId r.attemptId)
        else s).db
      split
      · exact commit _ fun _ ok => failPaidSelection_spares ok
      · exact .of_eq rfl
  | pending => exact .of_eq rfl
  | transition => exact commit s fun _ ok => transition_spares ok
  | expireDisconnected => exact commit s fun _ ok => expireEach_spares (by decide) ok
  | expireDue => exact commit s fun _ ok => expireEach_spares (by decide) ok
  | markParticipant callId role gone => cases apart
  | reconcile => exact commit s fun _ ok => reconcile_spares ok
  | endShow => exact commit s fun _ ok => endShow_spares ok

/-! ### Participants who are gone -/

/-- Since when a participant of an open call is gone. -/
def DB.goneSince (db : DB) (callId : CallId) (role : CallRole) : Option Time :=
  (db.calls.get callId).bind fun call =>
    if call.status ∈ openStatuses then call.goneAt role else none

def DB.isOpen (db : DB) (callId : CallId) : Bool :=
  (db.calls.get callId).any fun call => decide (call.status ∈ openStatuses)

/-- A call that waits for its payment has no times yet. -/
def PendingUnmarked (db : DB) : Prop :=
  ∀ callId call, db.calls.get callId = some call → call.status = .paymentPending → call.Unmarked

theorem goneSince_some {db : DB} {callId : CallId} {role : CallRole} {since : Time}
    (gone : db.goneSince callId role = some since) : ∃ call, db.calls.get callId = some call ∧
      call.status ∈ openStatuses ∧ call.goneAt role = some since := by
  obtain ⟨call, found, here⟩ := Option.bind_eq_some_iff.mp gone
  rw [Option.ite_none_right_eq_some] at here
  exact ⟨call, found, here⟩

theorem goneSince_of_open {db : DB} {callId : CallId} {call : Call}
    (found : db.calls.get callId = some call) (opened : call.status ∈ openStatuses)
    (role : CallRole) : db.goneSince callId role = call.goneAt role := by
  rw [DB.goneSince, found, Option.bind_some, if_pos opened]

/-- Nobody is gone after a step that spares the times who was not gone before. -/
theorem Spares.goneSince {db after : DB} (spares : Spares db after) (pending : PendingUnmarked db)
    {callId : CallId} {role : CallRole} {since : Time}
    (gone : after.goneSince callId role = some since) : db.goneSince callId role = some since := by
  obtain ⟨later, found, opened, marked⟩ := goneSince_some gone
  rcases spares callId later found with ⟨call, present, spared⟩ | unmarked
  · have same : later.goneAt role = call.goneAt role := by
      rcases spared.gone role with same | cleared
      · exact same
      · rw [cleared] at marked
        cases marked
    rcases spared.opens opened with still | waits
    · rw [goneSince_of_open present still, ← same]
      exact marked
    · rw [same, pending callId call present waits role] at marked
      cases marked
  · rw [unmarked role] at marked
    cases marked

theorem Spares.pending {db after : DB} (spares : Spares db after) (pending : PendingUnmarked db) :
    PendingUnmarked after := by
  intro callId later found waits role
  rcases spares callId later found with ⟨call, present, spared⟩ | unmarked
  · rcases spared.gone role with same | cleared
    · exact same.trans (pending callId call present (spared.pending waits) role)
    · exact cleared
  · exact unmarked role

theorem goneSince_mark (db : DB) (callId other : CallId) (role party : CallRole)
    (gone : Option Time) : (markParticipant db callId role gone).goneSince other party =
      if other = callId ∧ party = role ∧ db.isOpen callId then
        gone.map (db.goneSince other party).getD
      else db.goneSince other party := by
  show ((db.calls.patch callId _).get other).bind _ = _
  rw [Table.get_patch]
  by_cases here : other = callId
  · subst here
    rw [if_pos rfl]
    cases found : db.calls.get other with
    | none => simp [DB.goneSince, DB.isOpen, found]
    | some call =>
        by_cases opened : call.status ∈ openStatuses
        · cases role <;> cases party <;>
            simp [DB.goneSince, DB.isOpen, Call.goneAt, found, opened]
        · simp [DB.goneSince, DB.isOpen, found, opened]
  · rw [if_neg here, if_neg fun same => here same.1]
    rfl

theorem PendingUnmarked.mark {db : DB} (pending : PendingUnmarked db) (callId : CallId)
    (role : CallRole) (gone : Option Time) :
    PendingUnmarked (markParticipant db callId role gone) := by
  intro other later found waits
  change (db.calls.patch callId _).get other = some later at found
  rw [Table.get_patch] at found
  split at found
  · obtain ⟨call, present, rfl⟩ := Option.map_eq_some_iff.mp found
    by_cases opened : call.status ∈ openStatuses
    · rw [if_pos opened] at waits
      cases role <;> (rw [show call.status = .paymentPending from waits] at opened) <;>
        exact absurd opened (by decide)
    · rw [if_neg opened] at waits ⊢
      exact pending other call present waits
  · exact pending other later found waits

end Bling.Api
