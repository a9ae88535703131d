import Bling.Api.Stage

set_option autoImplicit false

namespace Bling.Api

open Library

/-! Every transaction keeps the links, and but for one leaves entries and calls
agreeing wherever it is heard on stage. -/

theorem ok_bind {α β : Type} (a : α) (f : α → Except ApiError β) :
    ((Except.ok a : Except ApiError α) >>= f) = f a := rfl

/-! ### Payments -/

section Payments

variable {db after : DB} (linked : Linked db)

include linked

theorem Linked.settles_attempts {paymentAttempts : Table PaymentAttempt}
    (goes : Table.Follow (fun _ => PaymentAttempt.Goes) PaymentAttempt.Starts db.paymentAttempts
      paymentAttempts) : Settles db { db with paymentAttempts } :=
  ⟨linked.attempts goes, fun _ => Or.inl ⟨rfl, fun _ => Iff.rfl⟩⟩

theorem Linked.settles_attempt (attemptId : AttemptId) {f : PaymentAttempt → PaymentAttempt}
    (goes : ∀ attempt : PaymentAttempt, attempt.Goes (f attempt)) :
    Settles db (updateAttempt db attemptId f) :=
  linked.settles_attempts (.patch (fun _ => PaymentAttempt.goes_refl) fun attempt _ => goes attempt)

theorem prepare_settles {showId : ShowId} {tierId : TierId} {viewerTokenHash keyHash : Hash}
    {payerUserId : Option UserId} {stripeCustomerId : Option StripeId}
    (ok : prepare db showId tierId viewerTokenHash keyHash payerUserId stripeCustomerId = .ok after) :
    Settles db after := by
  unfold prepare at ok
  split at ok
  · split at ok
    · cases ok
    · split at ok
      · cases ok
      · split at ok
        · cases ok
        · split at ok
          · split at ok
            · cases ok
            · obtain rfl := Except.ok.inj ok
              exact .refl linked
          · obtain rfl := Except.ok.inj ok
            exact linked.settles_attempts
              (.insert (fun _ => PaymentAttempt.goes_refl) _ (by simp [PaymentAttempt.Starts]))
  · cases ok

theorem attachIntent_settles {attemptId : AttemptId} {intentId : StripeId}
    (ok : attachIntent db attemptId intentId = .ok after) : Settles db after := by
  unfold attachIntent at ok
  split at ok
  · cases ok
  · split at ok
    · cases ok
    · split at ok
      · cases ok
      · obtain rfl := Except.ok.inj ok
        exact linked.settles_attempt attemptId fun attempt =>
          ⟨rfl, fun _ => rfl, fun _ _ => rfl⟩

theorem markAuthorized_settles (now : Time) (attemptId : AttemptId) :
    Settles db (markAuthorized now db attemptId) := by
  refine linked.settles_attempt attemptId fun attempt => ?_
  split
  · rename_i permitted
    exact ⟨rfl, fun _ => rfl, fun _ _ => permitted.1⟩
  · exact attempt.goes_refl

theorem markCanceled_settles (now : Time) (attemptId : AttemptId) :
    Settles db (markCanceled now db attemptId) := by
  refine linked.settles_attempt attemptId fun attempt => ?_
  split
  · exact attempt.goes_refl
  · exact ⟨rfl, fun _ => rfl, fun _ authorized => by cases authorized⟩

end Payments

/-! ### Joining and leaving -/

theorem existingEntry_some {db : DB} {input : JoinInput} {entryId : EntryId} {entry : QueueEntry}
    (located : existingEntry db input = some (entryId, entry)) :
    db.queueEntries.get entryId = some entry ∧ entry.showId = input.showId := by
  unfold existingEntry at located
  split at located
  · rename_i row mine
    obtain rfl := Option.some.inj located
    obtain ⟨present, matched⟩ := Table.first_some mine
    simp only [Bool.and_eq_true, beq_iff_eq] at matched
    exact ⟨present, matched.1⟩
  · obtain ⟨present, matched⟩ := Table.first_some located
    simp only [Bool.and_eq_true, beq_iff_eq] at matched
    exact ⟨present, matched.1⟩

theorem joinPayment_ok {db : DB} {input : JoinInput} {tierId : TierId} {tier : ShowTier}
    {payment : Option AttemptId} {attemptId : AttemptId}
    (ok : joinPayment db input tierId tier = .ok payment) (paid : payment = some attemptId) :
    ∃ attempt, db.paymentAttempts.get attemptId = some attempt ∧
      attempt.showId = input.showId := by
  unfold joinPayment at ok
  split at ok
  · rw [← Except.ok.inj ok] at paid
    cases paid
  · split at ok
    · cases ok
    · split at ok
      · rename_i valid
        rw [← Except.ok.inj ok] at paid
        obtain rfl := Option.some.inj paid
        unfold paymentValid at valid
        split at valid
        · cases valid
        · rename_i attempt present
          simp only [Bool.and_eq_true, beq_iff_eq] at valid
          exact ⟨attempt, present, valid.1.1.1.1.1⟩
      · cases ok

/-- What claiming a payment for an entry does. -/
theorem claimPayment_ok {db after : DB} {payment : Option AttemptId} {entryId : EntryId}
    (ok : claimPayment db payment entryId = .ok after) :
    ∃ paymentAttempts, after = { db with paymentAttempts } ∧
      Table.Follow (fun _ => PaymentAttempt.Goes) PaymentAttempt.Starts db.paymentAttempts
        paymentAttempts ∧
      ∀ attemptId, payment = some attemptId → ∃ attempt,
        paymentAttempts.get attemptId = some attempt ∧ attempt.queueEntryId = some entryId := by
  unfold claimPayment at ok
  split at ok
  · obtain rfl := Except.ok.inj ok
    exact ⟨db.paymentAttempts, rfl, .refl (fun _ => PaymentAttempt.goes_refl) _,
      fun _ paid => by cases paid⟩
  · rename_i attemptId
    split at ok
    · cases ok
    · rename_i attempt present
      split at ok
      · cases ok
      · rename_i usable
        split at ok
        · cases ok
        · obtain rfl := Except.ok.inj ok
          refine ⟨_, rfl, .patch_row (fun _ => PaymentAttempt.goes_refl) present ?_, ?_⟩
          · exact ⟨rfl, fun claimed => absurd (Or.inr claimed) usable, fun backed => backed⟩
          · intro same paid
            obtain rfl := Option.some.inj paid
            exact ⟨_, Table.get_patch_self present _, rfl⟩

theorem joined_stage (now : Time) (db : DB) (input : JoinInput) (tierId : TierId)
    (tier : ShowTier) (payment : Option AttemptId) :
    (joinedEntry now db input tierId tier payment).stage = none := by
  simp [QueueEntry.stage, joinedEntry, onStage]

theorem stage_none_iff (entry : QueueEntry) : entry.stage = none ↔ entry.status ∉ onStage := by
  unfold QueueEntry.stage
  split <;> simp_all

/-- The claim and what the join writes, in whichever order. -/
theorem Linked.claimed {db : DB} (linked : Linked db)
    {paymentAttempts : Table PaymentAttempt} {payment : Option AttemptId} {entryId : EntryId}
    {showId : ShowId}
    (goes : Table.Follow (fun _ => PaymentAttempt.Goes) PaymentAttempt.Starts db.paymentAttempts
      paymentAttempts)
    (claimed : ∀ attemptId, payment = some attemptId → ∃ attempt,
      paymentAttempts.get attemptId = some attempt ∧ attempt.queueEntryId = some entryId)
    (inShow : ∀ attemptId, payment = some attemptId → ∃ attempt,
      db.paymentAttempts.get attemptId = some attempt ∧ attempt.showId = showId) (position : Nat) :
    Settles db { db with paymentAttempts, nextPosition := position } ∧
      ∀ attemptId, payment = some attemptId → ∃ attempt,
        paymentAttempts.get attemptId = some attempt ∧ attempt.queueEntryId = some entryId ∧
          attempt.showId = showId := by
  constructor
  · have first := linked.settles_attempts goes
    exact ⟨first.onward.trans (first.onward.linked.position position),
      fun _ => Or.inl ⟨rfl, fun _ => Iff.rfl⟩⟩
  · intro attemptId paid
    obtain ⟨attempt, present, mine⟩ := claimed attemptId paid
    obtain ⟨before, there, same⟩ := inShow attemptId paid
    obtain ⟨later, here, went⟩ := goes.kept attemptId before there
    obtain rfl := Option.some.inj (present.symm.trans here)
    exact ⟨attempt, present, mine, went.shows.trans same⟩

theorem join_settles {now : Time} {db after : DB} {input : JoinInput} {joinedId : EntryId}
    (linked : Linked db) (ok : join now db input = .ok (after, joinedId)) : Settles db after := by
  unfold join at ok
  split at ok
  · cases ok
  · split at ok
    · cases ok
    · obtain ⟨⟨tierId, tier⟩, chosen, ok⟩ := bind_ok ok
      obtain ⟨payment, paying, ok⟩ := bind_ok ok
      have inShow (attemptId : AttemptId) (paid : payment = some attemptId) :=
        joinPayment_ok paying paid
      split at ok
      · rename_i entryId existing located
        obtain ⟨present, mine⟩ := existingEntry_some located
        split at ok
        · obtain ⟨moved, updated, ok⟩ := bind_ok ok
          obtain ⟨rfl, rfl⟩ := Prod.mk.inj (Except.ok.inj ok)
          have onward := linked.updateEntry updated (fun _ => rfl) fun _ => rfl
          obtain ⟨rfl, _⟩ := updateEntry_ok updated
          refine ⟨onward, fun other => Or.inl ?_⟩
          refine quiet_patchEntry ?_
          intro entry _
          rfl
        · split at ok
          · rename_i isLeft
            obtain ⟨moved, updated, ok⟩ := bind_ok ok
            obtain ⟨claimed, claims, ok⟩ := bind_ok ok
            obtain ⟨rfl, rfl⟩ := Prod.mk.inj (Except.ok.inj ok)
            obtain ⟨rfl, unclashed⟩ := updateEntry_ok updated
            obtain ⟨paymentAttempts, rfl, goes, mineNow⟩ := claimPayment_ok claims
            obtain ⟨first, owns⟩ := linked.claimed goes mineNow inShow (db.nextPosition + 1)
            refine first.trans ⟨first.onward.linked.patchEntry ?_ ?_ unclashed, ?_⟩
            · intro entry
              rfl
            · intro entry attemptId found paid
              obtain rfl := Option.some.inj (present.symm.trans found)
              obtain ⟨attempt, there, claimed, shows⟩ := owns attemptId paid
              exact ⟨attempt, there, claimed, shows.trans mine.symm⟩
            · intro other
              left
              dsimp only
              refine quiet_patchEntry ?_
              intro entry found
              obtain rfl := Option.some.inj (present.symm.trans found)
              rw [(stage_none_iff existing).mpr (by rw [isLeft]; decide)]
              exact joined_stage now db input tierId tier payment
          · obtain ⟨rfl, rfl⟩ := Prod.mk.inj (Except.ok.inj ok)
            exact .refl linked
      · obtain ⟨inserted, inserts, ok⟩ := bind_ok ok
        obtain ⟨claimed, claims, ok⟩ := bind_ok ok
        obtain ⟨rfl, rfl⟩ := Prod.mk.inj (Except.ok.inj ok)
        obtain ⟨rfl, unclashed⟩ := insertQueueEntry_ok inserts
        obtain ⟨paymentAttempts, rfl, goes, mineNow⟩ := claimPayment_ok claims
        obtain ⟨first, owns⟩ := linked.claimed goes mineNow inShow (db.nextPosition + 1)
        refine first.trans ⟨first.onward.linked.newEntry owns unclashed, fun other => Or.inl ?_⟩
        exact quiet_insertEntry (joined_stage now db input tierId tier payment)

theorem leave_settles {now : Time} {db after : DB} {showId : ShowId} {sessionTokenHash : Hash}
    (linked : Linked db) (ok : leave now db showId sessionTokenHash = .ok after) :
    Settles db after := by
  unfold leave at ok
  split at ok
  · cases ok
  · rename_i entryId entry located
    split at ok
    · obtain rfl := Except.ok.inj ok
      exact .refl linked
    · split at ok
      · cases ok
      · rename_i waiting
        have onward := linked.updateEntry ok (fun _ => rfl) fun _ => rfl
        obtain ⟨rfl, _⟩ := updateEntry_ok ok
        refine ⟨onward, fun other => Or.inl ?_⟩
        refine quiet_patchEntry ?_
        intro found present
        obtain rfl := Option.some.inj ((Table.first_some located).1.symm.trans present)
        have off : entry.status ∉ onStage := by
          rw [not_not.mp waiting]
          decide
        rw [(stage_none_iff entry).mpr off]
        rfl

/-! ### Calls -/

section Calls

variable {db after : DB} (linked : Linked db)

include linked

theorem Linked.settles_calls {calls : Table Call}
    (goes : Table.Follow (fun _ c d => Call.Goes c d ∧
      (c.status ∈ openStatuses ∨ d.status ∈ openStatuses → d.status = c.status))
      (fun _ => False) db.calls calls) : Settles db { db with calls } := by
  refine ⟨linked.calls (goes.mono (fun _ _ _ went => went.1) fun _ new => new), fun other => ?_⟩
  refine Or.inl (quiet_calls (goes.mono ?_ fun _ new => absurd new id))
  intro _ c d went
  exact ⟨went.1.entries, fun _ => went.2⟩

theorem Linked.settles_call (callId : CallId) {f : Call → Call}
    (goes : ∀ call, db.calls.get callId = some call → call.Goes (f call) ∧
      (call.status ∈ openStatuses ∨ (f call).status ∈ openStatuses →
        (f call).status = call.status)) : Settles db (updateCall db callId f) :=
  linked.settles_calls (.patch (fun _ call => ⟨call.goes_refl, fun _ => rfl⟩) goes)

theorem Linked.settles_entry {entryId : EntryId} {f : QueueEntry → QueueEntry}
    (ok : Api.updateEntry db entryId f = .ok after)
    (shows : ∀ entry, (f entry).showId = entry.showId)
    (payment : ∀ entry, (f entry).paymentAttemptId = entry.paymentAttemptId)
    (calm : ∀ entry, db.queueEntries.get entryId = some entry → (f entry).stage = entry.stage) :
    Settles db after := by
  have onward := linked.updateEntry ok shows payment
  obtain ⟨rfl, _⟩ := updateEntry_ok ok
  exact ⟨onward, fun _ => Or.inl (quiet_patchEntry calm)⟩

/-- The caller of an open call in the call's state. -/
theorem Linked.seated {callId : CallId} {call : Call} {entry : QueueEntry}
    (found : db.calls.get callId = some call) (opened : call.status ∈ openStatuses)
    (present : db.queueEntries.get call.queueEntryId = some entry)
    (same : entry.status = queueStatus call.status) :
    Served db call.queueEntryId ∧ Called db call.queueEntryId := by
  have on : entry.status ∈ onStage := by
    rw [same]
    revert opened
    cases call.status <;> decide
  have stage := stage_of_on present on
  constructor
  · intro seat here
    obtain rfl := Option.some.inj (stage.symm.trans here)
    exact ⟨call.status, ⟨opened, callId, call, found, rfl, rfl⟩, same.symm⟩
  · rintro status ⟨_, otherId, other, there, entries, rfl⟩
    obtain rfl := linked.single otherId callId other call there found entries
    obtain rfl := Option.some.inj (found.symm.trans there)
    rw [stage, same]

/-- The caller of a call that isn't open, off stage. -/
theorem Linked.cleared {callId : CallId} {call : Call} {entry : QueueEntry}
    (found : db.calls.get callId = some call) (closed : call.status ∉ openStatuses)
    (present : db.queueEntries.get call.queueEntryId = some entry) (off : entry.status ∉ onStage) :
    Served db call.queueEntryId ∧ Called db call.queueEntryId := by
  constructor
  · intro seat here
    rw [stage_of_off present off] at here
    cases here
  · rintro status ⟨opened, otherId, other, there, entries, rfl⟩
    obtain rfl := linked.single otherId callId other call there found entries
    obtain rfl := Option.some.inj (found.symm.trans there)
    exact absurd opened closed

/-- Nobody whose call isn't open is on stage. -/
theorem Linked.offStage (served : ∀ entryId, Served db entryId) {callId : CallId} {call : Call}
    {entry : QueueEntry} (found : db.calls.get callId = some call)
    (closed : call.status ∉ openStatuses)
    (present : db.queueEntries.get call.queueEntryId = some entry) : entry.status ∉ onStage := by
  intro on
  obtain ⟨status, ⟨opened, otherId, other, there, entries, rfl⟩, _⟩ :=
    served call.queueEntryId _ (stage_of_on present on)
  obtain rfl := linked.single otherId callId other call there found entries
  obtain rfl := Option.some.inj (found.symm.trans there)
  exact closed opened

/-- A call and its entry move to the status of the call. -/
theorem Linked.settles_move {callId : CallId} {call : Call} {entryId : EntryId} {f : Call → Call}
    {g : QueueEntry → QueueEntry} (found : db.calls.get callId = some call)
    (mine : call.queueEntryId = entryId)
    (ok : Api.updateEntry (updateCall db callId f) entryId g = .ok after)
    (goes : call.Goes (f call)) (shows : ∀ entry, (g entry).showId = entry.showId)
    (payment : ∀ entry, (g entry).paymentAttemptId = entry.paymentAttemptId)
    (moves : ∀ entry, db.queueEntries.get entryId = some entry →
      (g entry).status = queueStatus (f call).status)
    (pending : (f call).status ≠ .paymentPending) : Settles db after := by
  subst mine
  have first : Onward db (updateCall db callId f) :=
    linked.calls (.patch_row (fun _ => Call.goes_refl) found goes)
  have onward := first.trans (first.linked.updateEntry ok shows payment)
  obtain ⟨rfl, _⟩ := updateEntry_ok ok
  refine ⟨onward, fun entryId => ?_⟩
  by_cases here : entryId = call.queueEntryId
  · right
    obtain ⟨entry, present, _⟩ := linked.bound callId call found
    have moved := moves entry present
    have there : (db.calls.patch callId f).get callId = some (f call) :=
      Table.get_patch_self found f
    have seat : (db.queueEntries.patch call.queueEntryId g).get (f call).queueEntryId =
        some (g entry) := by
      rw [goes.entries]
      exact Table.get_patch_self present g
    rw [here]
    by_cases opened : (f call).status ∈ openStatuses
    · have now := onward.linked.seated there opened seat moved
      rwa [goes.entries] at now
    · have off : (g entry).status ∉ onStage := by
        rw [moved]
        revert opened pending
        cases (f call).status <;> decide
      have now := onward.linked.cleared there opened seat off
      rwa [goes.entries] at now
  · left
    have quiet : Quiet db (updateCall db callId f) entryId := by
      refine quiet_calls (.patch_row (fun _ _ => ⟨rfl, fun _ _ => rfl⟩) found ?_)
      exact ⟨goes.entries, fun mine => absurd mine.symm here⟩
    exact quiet.trans (quiet_patchEntry_other here)

end Calls

/-- An entry's update doesn't look at calls. -/
theorem updateEntry_updateCall {db after : DB} {entryId : EntryId} {g : QueueEntry → QueueEntry}
    (ok : updateEntry db entryId g = .ok after) (callId : CallId) (f : Call → Call) :
    updateEntry (updateCall db callId f) entryId g = .ok (updateCall after callId f) := by
  unfold updateEntry at ok ⊢
  cases present : db.queueEntries.get entryId with
  | none =>
      simp only [present] at ok
      obtain rfl := Except.ok.inj ok
      simp only [updateCall, present]
  | some entry =>
      simp only [present] at ok
      obtain ⟨_, key, ok⟩ := bind_ok ok
      obtain rfl := Except.ok.inj ok
      simp only [updateCall, present, key]
      rfl

/-! ### Selecting -/

theorem lockCaller_some {db : DB} {showId : ShowId} {asked entryId : EntryId} {entry : QueueEntry}
    (locked : lockCaller db showId asked = some (entryId, entry)) :
    db.queueEntries.get entryId = some entry ∧ entry.showId = showId ∧ entry.status = .waiting := by
  unfold lockCaller at locked
  split at locked
  · cases locked
  · rename_i found present
    split at locked
    · rename_i fits
      obtain ⟨rfl, rfl⟩ := Prod.mk.inj (Option.some.inj locked)
      exact ⟨present, fits.1, fits.2⟩
    · cases locked

theorem randomCaller_some {db : DB} {showId : ShowId} {pivot : Nat} {entryId : EntryId}
    {entry : QueueEntry} (drawn : randomCaller db showId pivot = some (entryId, entry)) :
    db.queueEntries.get entryId = some entry ∧ entry.showId = showId ∧ entry.status = .waiting := by
  have member := List.mem_of_mem_head? (Option.mem_def.mpr drawn)
  rw [List.mem_insertionSort] at member
  obtain ⟨present, matched⟩ := (Table.mem_query _ _ _ _).mp member
  simp only [Bool.and_eq_true, beq_iff_eq] at matched
  exact ⟨present, matched.1, matched.2⟩

section Select

variable {now : Time} {db after : DB} {showId : ShowId} {hotline : Show} {entryId : EntryId}
  {entry : QueueEntry} {mode : SelectionMode} (linked : Linked db)
  (host : db.shows.get showId = some hotline) (live : hotline.status = .live)
  (present : db.queueEntries.get entryId = some entry) (inShow : entry.showId = showId)

include linked host live present inShow

/-- A free caller takes the stage with a call. -/
theorem selectFree_settles {middle : DB}
    (moved : updateEntry db entryId (fun e => { e with status := .selected, selectedAt := some now })
      = .ok middle)
    (called : insertCall middle (newCall now showId entryId entry mode .created none) = .ok after) :
    Settles db after := by
  have first := linked.updateEntry moved (fun _ => rfl) fun _ => rfl
  obtain ⟨rfl, _⟩ := updateEntry_ok moved
  obtain ⟨rfl, unused, _⟩ := insertCall_ok called
  have seat := Table.get_patch_self present
    fun e => { e with status := .selected, selectedAt := some now }
  have onward := first.trans (first.linked.newCall seat inShow host live unused
    fun _ paid => by cases paid)
  refine ⟨onward, fun other => ?_⟩
  by_cases here : other = entryId
  · right
    rw [here]
    exact onward.linked.seated (Table.get_insert_next _ _) (by simp [newCall, openStatuses]) seat rfl
  · left
    refine (quiet_patchEntry_other here).trans
      (quiet_calls (.insert (fun _ _ => ⟨rfl, fun _ _ => rfl⟩) _ ?_))
    intro mine
    exact absurd mine.symm here

/-- A reserved call isn't open yet. -/
theorem selectPaid_settles {reservation : Option Reservation}
    (ok : selectPaid now db showId entryId entry mode = .ok (after, reservation)) :
    Settles db after ∧ ∀ r, reservation = some r → ∃ call, after.calls.get r.callId = some call ∧
      call.showId = r.showId ∧ call.queueEntryId = r.entryId := by
  unfold selectPaid at ok
  split at ok
  · cases ok
  · rename_i attemptId attempt chosen
    obtain ⟨id, payment, chosen⟩ := Option.bind_eq_some_iff.mp chosen
    obtain ⟨_, there, chosen⟩ := Option.map_eq_some_iff.mp chosen
    obtain ⟨rfl, rfl⟩ := Prod.mk.inj chosen
    split at ok
    · cases ok
    · split at ok
      · cases ok
      · obtain ⟨middle, called, ok⟩ := bind_ok ok
        obtain ⟨rfl, rfl⟩ := Prod.mk.inj (Except.ok.inj ok)
        obtain ⟨rfl, unused, _⟩ := insertCall_ok called
        have first := linked.newCall present inShow host live unused fun attemptId paid => by
          obtain rfl := Option.some.inj paid
          obtain ⟨owned, found, _, shows⟩ := linked.owned entryId entry id present payment
          exact ⟨owned, found, shows.trans inShow⟩
        have quiet (other : EntryId) : Quiet db { db with
            calls := db.calls.insert (newCall now showId entryId entry mode .paymentPending
              (some id)) } other := by
          refine quiet_calls (.insert (fun _ _ => ⟨rfl, fun _ _ => rfl⟩) _ fun _ => ?_)
          simp [newCall, openStatuses]
        refine ⟨.trans ⟨first, fun other => Or.inl (quiet other)⟩
          (first.linked.settles_attempt id fun attempt => ?_), ?_⟩
        · exact ⟨rfl, fun _ => rfl, fun _ authorized => by cases authorized⟩
        · intro r same
          obtain rfl := Option.some.inj same
          exact ⟨_, Table.get_insert_next _ _, rfl, rfl⟩

end Select

theorem select_settles {now : Time} {db after : DB} {showId : ShowId} {creatorId : UserId}
    {choice : Choice} {reservation : Option Reservation} (linked : Linked db)
    (ok : select now db showId creatorId choice = .ok (after, reservation)) :
    Settles db after ∧ ∀ r, reservation = some r → ∃ call, after.calls.get r.callId = some call ∧
      call.showId = r.showId ∧ call.queueEntryId = r.entryId := by
  unfold select at ok
  split at ok
  · cases ok
  · rename_i hotline host
    split at ok
    · cases ok
    · split at ok
      · cases ok
      · rename_i live
        split at ok
        · cases ok
        · dsimp only at ok
          split at ok
          · split at ok <;> cases ok
          · rename_i entryId entry chosen
            have caller : db.queueEntries.get entryId = some entry ∧ entry.showId = showId ∧
                entry.status = .waiting := by
              cases choice with
              | manual asked => exact lockCaller_some chosen
              | random pivot => exact randomCaller_some chosen
            split at ok
            · exact selectPaid_settles linked host (not_not.mp live) caller.1 caller.2.1 ok
            · obtain ⟨middle, moved, ok⟩ := bind_ok ok
              obtain ⟨final, called, ok⟩ := bind_ok ok
              obtain ⟨rfl, rfl⟩ := Prod.mk.inj (Except.ok.inj ok)
              refine ⟨?_, fun r none => by cases none⟩
              exact selectFree_settles linked host (not_not.mp live) caller.1 caller.2.1 moved called

/-! ### Completing a paid selection -/

theorem failPending_goes (now : Time) (call : Call) : call.Goes (failPending now call) ∧
    (call.status ∈ openStatuses ∨ (failPending now call).status ∈ openStatuses →
      (failPending now call).status = call.status) := by
  unfold failPending
  split
  · rename_i pending
    refine ⟨⟨rfl, rfl, rfl, fun _ => by rw [pending]; decide⟩, fun opened => ?_⟩
    rw [pending] at opened
    rcases opened with opened | opened
    · exact absurd opened (by decide)
    · exact absurd opened (show CallStatus.failed ∉ openStatuses by decide)
  · exact ⟨call.goes_refl, fun _ => rfl⟩

theorem failCapture_goes (attempt : PaymentAttempt) : attempt.Goes (failCapture attempt) := by
  unfold failCapture
  split
  · exact ⟨rfl, fun _ => rfl, fun _ authorized => by cases authorized⟩
  · exact attempt.goes_refl

theorem takeCapture_goes (now : Time) (attempt : PaymentAttempt) :
    attempt.Goes (takeCapture now attempt) := by
  unfold takeCapture
  split
  · exact ⟨rfl, fun _ => rfl, fun _ authorized => by cases authorized⟩
  · exact attempt.goes_refl

theorem waiting_off {entry : QueueEntry} (waiting : entry.status = .waiting) :
    entry.stage = none := by
  rw [stage_none_iff, waiting]
  decide

theorem failPaidSelection_settles {now : Time} {db after : DB} {callId : CallId}
    {attemptId : AttemptId} (linked : Linked db)
    (ok : failPaidSelection now db callId attemptId = .ok after) : Settles db after := by
  unfold failPaidSelection at ok
  dsimp only at ok
  have first := linked.settles_call callId fun call _ => failPending_goes now call
  have second := first.trans (first.onward.linked.settles_attempt attemptId failCapture_goes)
  split at ok
  · cases ok
  · split at ok
    · cases ok
    · rename_i entry present
      split at ok
      · cases ok
      · rename_i waiting
        refine second.trans (second.onward.linked.settles_entry ok (fun _ => rfl) (fun _ => rfl) ?_)
        intro found there
        obtain rfl := Option.some.inj (present.symm.trans there)
        rw [waiting_off (not_not.mp waiting)]
        rfl

/-- If the show is live and the call still waits for its payment, its caller
still waits too. -/
def DB.timely (db : DB) (r : Reservation) : Bool :=
  !(db.shows.get r.showId).any (fun s => s.status == .live) ||
    !(db.calls.get r.callId).any (fun c => c.status == .paymentPending) ||
    (db.queueEntries.get r.entryId).any fun q => q.status == .waiting

/-- The conditional update of an entry that doesn't wait. -/
theorem Linked.seatWaiting_idle {now : Time} {db : DB} (linked : Linked db) {r : Reservation}
    {entry : QueueEntry}
    (present : db.queueEntries.get r.entryId = some entry) (gone : entry.status ≠ .waiting) :
    Api.updateEntry (updateAttempt db r.attemptId (takeCapture now)) r.entryId (seatWaiting now) =
      .ok (updateAttempt db r.attemptId (takeCapture now)) := by
  have idle : seatWaiting now entry = entry := if_neg gone
  have key : entryKey db.queueEntries r.entryId entry = .ok () :=
    (entryKey_ok_iff _ _ _).mpr fun id other there apart =>
      linked.apart r.entryId id entry other present there apart.symm
  have unchanged : db.queueEntries.patch r.entryId (seatWaiting now) = db.queueEntries := by
    apply Table.patch_eq_self
    intro other there
    obtain rfl := Option.some.inj (present.symm.trans there)
    exact idle
  unfold Api.updateEntry updateAttempt
  simp only [present, idle, key, unchanged]
  rfl

section Complete

variable {now : Time} {db after : DB} {r : Reservation} {call : Call} (linked : Linked db)
  (found : db.calls.get r.callId = some call) (mine : call.queueEntryId = r.entryId)

include linked found mine

theorem complete_settles (inShow : call.showId = r.showId) (timely : db.timely r = true)
    (ok : completePaidSelection now db r = .ok after) : Settles db after := by
  unfold completePaidSelection at ok
  split at ok
  · cases ok
  · rename_i hotline host
    dsimp only at ok
    have first := linked.settles_attempt r.attemptId (takeCapture_goes now)
    split at ok
    · rename_i over_
      obtain rfl := Except.ok.inj ok
      have failed : CallStatus.failed ∉ activeStatuses ∧ CallStatus.failed ∉ openStatuses := by
        decide
      refine first.trans (first.onward.linked.settles_call r.callId fun other there => ?_)
      obtain rfl := Option.some.inj (found.symm.trans there)
      refine ⟨⟨rfl, rfl, rfl, fun active => absurd active failed.1⟩, fun opened => ?_⟩
      rcases opened with opened | opened
      · obtain ⟨sameShow, there, live⟩ := linked.hosted r.callId call found (by
          revert opened
          cases call.status <;> decide)
        rw [inShow, host] at there
        obtain rfl := Option.some.inj there
        exact absurd live over_
      · exact absurd opened failed.2
    · rename_i live
      obtain ⟨middle, moved, ok⟩ := bind_ok ok
      have both := updateEntry_updateCall moved r.callId fun c => { c with status := .created }
      obtain ⟨rfl, _⟩ := updateEntry_ok moved
      dsimp only [updateAttempt] at ok
      rw [found] at ok
      dsimp only at ok
      split at ok
      · cases ok
      · rename_i pending
        obtain rfl := Except.ok.inj ok
        have still : call.status = .paymentPending := not_not.mp pending
        obtain ⟨entry, present, _⟩ := linked.bound r.callId call found
        have waiting : entry.status = .waiting := by
          unfold DB.timely at timely
          rw [host, found, ← mine, present] at timely
          simpa [still, not_not.mp live] using timely
        have goes : call.Goes { call with status := .created } :=
          ⟨rfl, rfl, rfl, fun _ => by rw [still]; decide⟩
        refine first.trans (first.onward.linked.settles_move found mine both goes ?_ ?_ ?_ ?_)
        · intro entry
          unfold seatWaiting
          split <;> rfl
        · intro entry
          unfold seatWaiting
          split <;> rfl
        · intro other there
          rw [← mine] at there
          obtain rfl := Option.some.inj (present.symm.trans there)
          rw [seatWaiting, if_pos waiting]
          rfl
        · intro same
          cases same

/-- A completion that comes too late opens a call for a caller who is off stage. -/
theorem complete_untimely (served : ∀ entryId, Served db entryId)
    (untimely : ¬ db.timely r = true) (now : Time) :
    ∃ after, completePaidSelection now db r = .ok after ∧
      Onward db after ∧ (∀ other, other ≠ r.entryId → Quiet db after other) ∧
      after.stage r.entryId = none ∧ OpenCall after r.entryId .created := by
  obtain ⟨entry, present, _⟩ := linked.bound r.callId call found
  have facts : (∃ hotline, db.shows.get r.showId = some hotline ∧ hotline.status = .live) ∧
      call.status = .paymentPending ∧ entry.status ≠ .waiting := by
    unfold DB.timely at untimely
    rw [found, ← mine, present] at untimely
    simp only [Bool.or_eq_true, Bool.not_eq_true', Option.any_some, beq_iff_eq, not_or,
      Bool.not_eq_false, Option.any_eq_true] at untimely
    exact ⟨untimely.1.1, untimely.1.2, untimely.2⟩
  obtain ⟨⟨hotline, host, live⟩, pending, gone⟩ := facts
  have off := linked.offStage served found (by rw [pending]; decide) present
  rw [mine] at present
  have first := linked.settles_attempt r.attemptId (takeCapture_goes now)
  have goes : call.Goes { call with status := .created } :=
    ⟨rfl, rfl, rfl, fun _ => by rw [pending]; decide⟩
  refine ⟨updateCall (updateAttempt db r.attemptId (takeCapture now)) r.callId
    fun c => { c with status := .created }, ?_, ?_, ?_, ?_, ?_⟩
  · unfold completePaidSelection
    rw [host]
    dsimp only
    rw [if_neg (not_not.mpr live), linked.seatWaiting_idle present gone]
    have same : (updateAttempt db r.attemptId (takeCapture now)).calls = db.calls := rfl
    dsimp only [bind, Except.bind]
    rw [same, found]
    exact if_neg (not_not.mpr pending)
  · exact first.onward.trans
      (first.onward.linked.calls (.patch_row (fun _ => Call.goes_refl) found goes))
  · intro other apart
    refine quiet_calls (.patch_row (fun _ _ => ⟨rfl, fun _ _ => rfl⟩) found ⟨rfl, fun here => ?_⟩)
    exact absurd (here.symm.trans mine) apart
  · exact stage_of_off present off
  · exact ⟨by decide, r.callId, _, Table.get_patch_self found _, mine, rfl⟩

end Complete

/-! ### Transitions and expiries -/

theorem canTransition_from {status target : CallStatus} (can : canTransition status target = true) :
    status ∈ openStatuses ∧ target ≠ .paymentPending := by
  revert can
  cases status <;> cases target <;> decide

/-- A transition of a call, or the close of one whatever has become of it since. -/
theorem applyTransition_settles {now : Time} {db after : DB} {callId : CallId} {call current : Call}
    {target : CallStatus} (linked : Linked db) (found : db.calls.get callId = some current)
    (mine : current.queueEntryId = call.queueEntryId)
    (still : target ∉ openStatuses ∨ current.status = call.status)
    (ok : applyTransition now db callId call target = .ok after) : Settles db after := by
  unfold applyTransition at ok
  split at ok
  · cases ok
  · rename_i can
    obtain ⟨opened, pending⟩ := canTransition_from (by simpa using can)
    refine linked.settles_move found mine ok ⟨rfl, rfl, rfl, fun active => ?_⟩ (fun _ => rfl)
      (fun _ => rfl) (fun _ _ => rfl) pending
    rcases still with closes | same
    · have : target ∉ activeStatuses := by
        revert closes pending
        cases target <;> decide
      exact absurd active this
    · rw [same]
      revert opened
      cases call.status <;> decide

theorem transition_settles {now : Time} {db after : DB} {showId : ShowId} {callId : CallId}
    {party : Party} {target : CallStatus} (linked : Linked db)
    (ok : transition now db showId callId party target = .ok after) : Settles db after := by
  unfold transition at ok
  split at ok
  · cases ok
  · rename_i call asked
    split at ok
    · obtain rfl := Except.ok.inj ok
      exact .refl linked
    · have found : db.calls.get callId = some call := by
        unfold authorizedCall at asked
        split at asked
        · cases asked
        · rename_i present
          simp only [Option.ite_none_right_eq_some] at asked
          exact present.trans asked.2
      exact applyTransition_settles linked found rfl (Or.inr rfl) ok

/-- The due calls are still there when it is their turn, whatever their status. -/
theorem expireEach_settles {now : Time} {target : CallStatus} (closes : target ∉ openStatuses)
    {due : List (CallId × Call)} {db after : DB} (linked : Linked db)
    (listed : ∀ row ∈ due, ∃ current, db.calls.get row.1 = some current ∧
      current.queueEntryId = row.2.queueEntryId)
    (ok : expireEach now target due db = .ok after) : Settles db after := by
  induction due generalizing db with
  | nil =>
      obtain rfl := Except.ok.inj ok
      exact .refl linked
  | cons row rest ih =>
      obtain ⟨middle, applied, ok⟩ := bind_ok ok
      obtain ⟨current, found, mine⟩ := listed row List.mem_cons_self
      have first := applyTransition_settles linked found mine (Or.inl closes) applied
      refine first.trans (ih first.onward.linked ?_ ok)
      intro other member
      obtain ⟨before, present, same⟩ := listed other (List.mem_cons_of_mem _ member)
      obtain ⟨later, here, _, entries⟩ := first.onward.kept other.1 before present
      exact ⟨later, here, entries.trans same⟩

/-- The rows of a query, in whatever order and however many. -/
theorem expire_settles {now : Time} {db after : DB} {target : CallStatus} {p : Call → Bool}
    {order : CallId × Call → CallId × Call → Prop} [DecidableRel order] {limit : Nat}
    (linked : Linked db) (closes : target ∉ openStatuses)
    (ok : expireEach now target (((db.calls.query p).insertionSort order).take limit) db =
      .ok after) : Settles db after := by
  refine expireEach_settles closes linked ?_ ok
  intro row member
  have sorted := (List.mem_insertionSort order).mp (List.mem_of_mem_take member)
  exact ⟨row.2, ((Table.mem_query _ _ _ _).mp sorted).1, rfl⟩

theorem markParticipant_settles {db : DB} (linked : Linked db) (callId : CallId) (role : CallRole)
    (gone : Option Time) : Settles db (markParticipant db callId role gone) := by
  refine linked.settles_call callId fun call _ => ?_
  split
  · cases role <;> exact ⟨⟨rfl, rfl, rfl, fun active => active⟩, fun _ => rfl⟩
  · exact ⟨call.goes_refl, fun _ => rfl⟩

/-! ### Webhooks -/

theorem reconcileCaptured_settles {now : Time} {db after : DB} {attemptId : AttemptId}
    {attempt : PaymentAttempt} {hotline : Show} (linked : Linked db)
    (served : ∀ entryId, Served db entryId)
    (stored : db.paymentAttempts.get attemptId = some attempt)
    (host : db.shows.get attempt.showId = some hotline)
    (ok : reconcileCaptured now db attemptId hotline = .ok after) : Settles db after := by
  unfold reconcileCaptured at ok
  dsimp only at ok
  have first := linked.settles_attempt attemptId (f := fun a =>
      { a with status := .captured, capturedAt := some (a.capturedAt.getD now) }) fun _ =>
    ⟨rfl, fun _ => rfl, fun _ authorized => by cases authorized⟩
  split at ok
  · obtain rfl := Except.ok.inj ok
    exact first
  · rename_i callId call located
    obtain ⟨found, paid⟩ := Table.first_some located
    replace found : db.calls.get callId = some call := found
    split at ok
    · obtain rfl := Except.ok.inj ok
      exact first
    · rename_i concerned
      split at ok
      · rename_i refunds
        have closed : call.status ∉ openStatuses := by
          intro opened
          obtain ⟨sameShow, there, live⟩ := linked.hosted callId call found (by
            revert opened
            cases call.status <;> decide)
          obtain ⟨owner, stored', inShow⟩ := linked.paid callId call attemptId found (by simpa using paid)
          obtain rfl := Option.some.inj (stored.symm.trans stored')
          rw [inShow, there] at host
          obtain rfl := Option.some.inj host
          exact refunds.2 live
        have second := first.trans (first.onward.linked.settles_call callId
          (f := fun c => if c.status = .paymentPending then
            { c with status := .failed, endedAt := some (c.endedAt.getD now) } else c) fun c there => by
          obtain rfl := Option.some.inj (found.symm.trans there)
          split
          · rename_i pending
            refine ⟨⟨rfl, rfl, rfl, fun _ => by rw [pending]; decide⟩, fun opened => ?_⟩
            rcases opened with opened | opened
            · exact absurd opened closed
            · exact absurd opened (show CallStatus.failed ∉ openStatuses by decide)
          · exact ⟨Call.goes_refl _, fun _ => rfl⟩)
        refine second.trans (second.onward.linked.settles_entry ok ?_ ?_ ?_)
        · intro entry
          split <;> rfl
        · intro entry
          split <;> rfl
        · intro entry present
          have off := linked.offStage served found closed present
          rw [(stage_none_iff entry).mpr off]
          split
          · rfl
          · exact (stage_none_iff entry).mpr off
      · rename_i kept
        have pending : call.status = .paymentPending := by
          by_contra other
          exact concerned ⟨other, kept⟩
        obtain ⟨middle, moved, ok⟩ := bind_ok ok
        obtain rfl := Except.ok.inj ok
        have both := updateEntry_updateCall moved callId fun c => { c with status := .created }
        refine first.trans (first.onward.linked.settles_move found rfl both
          ⟨rfl, rfl, rfl, fun _ => by rw [pending]; decide⟩ (fun _ => rfl) (fun _ => rfl)
          (fun _ _ => rfl) ?_)
        intro same
        cases same

theorem reconcileNotCaptured_settles {now : Time} {db after : DB} {attemptId : AttemptId}
    {status : PaymentStatus} {failureCode : Option String} (linked : Linked db)
    (unauthorized : status ≠ .authorized)
    (ok : reconcileNotCaptured now db attemptId status failureCode = .ok after) :
    Settles db after := by
  unfold reconcileNotCaptured at ok
  dsimp only at ok
  have first := linked.settles_attempt attemptId (f := fun a =>
      { a with
        status
        failureCode
        canceledAt := if status = .canceled then some (a.canceledAt.getD now) else a.canceledAt })
    fun _ => ⟨rfl, fun _ => rfl, fun _ authorized => absurd authorized unauthorized⟩
  have second := first.trans (first.onward.linked.settles_calls
    (.patchWhere (fun _ call => ⟨call.goes_refl, fun _ => rfl⟩)
      (p := fun c => c.paymentAttemptId == some attemptId && c.status == .paymentPending)
      (f := fun c => { c with status := .failed, endedAt := some (c.endedAt.getD now) })
      fun _ call _ matched => by
        simp only [Bool.and_eq_true, beq_iff_eq] at matched
        refine ⟨⟨rfl, rfl, rfl, fun _ => by rw [matched.2]; decide⟩, fun opened => ?_⟩
        rw [matched.2] at opened
        rcases opened with opened | opened
        · exact absurd opened (by decide)
        · exact absurd opened (show CallStatus.failed ∉ openStatuses by decide)))
  split at ok
  · obtain rfl := Except.ok.inj ok
    exact second
  · rename_i entryId entry located
    obtain ⟨present, matched⟩ := Table.first_some located
    simp only [Bool.and_eq_true, beq_iff_eq] at matched
    refine second.trans (second.onward.linked.settles_entry ok (fun _ => rfl) (fun _ => rfl) ?_)
    intro other there
    obtain rfl := Option.some.inj (present.symm.trans there)
    rw [waiting_off matched.2]
    rfl

theorem reconcile_settles {now : Time} {db after : DB} {intentId : StripeId} {outcome : Outcome}
    {failureCode : Option String} (linked : Linked db) (served : ∀ entryId, Served db entryId)
    (ok : reconcile now db intentId outcome failureCode = .ok after) : Settles db after := by
  unfold reconcile at ok
  split at ok
  · cases ok
  · rename_i attemptId attempt located
    have stored := (Table.first_some located).1
    split at ok
    · obtain rfl := Except.ok.inj ok
      exact .refl linked
    · split at ok
      · split at ok
        · cases ok
        · rename_i host
          exact reconcileCaptured_settles linked served stored host ok
      · exact reconcileNotCaptured_settles linked (by decide) ok
      · exact reconcileNotCaptured_settles linked (by decide) ok

/-! ### The end of a show -/

def endEntry (showId : ShowId) (entry : QueueEntry) : QueueEntry :=
  if entry.showId == showId && (entry.status == .waiting || entry.status ∈ onStage) then
    { entry with status := .ended }
  else entry

def endCall (now : Time) (showId : ShowId) (call : Call) : Call :=
  if call.showId == showId && call.status ∈ activeStatuses then
    { call with status := .ended, endedAt := some now }
  else call

theorem endEntry_keeps (showId : ShowId) (entry : QueueEntry) :
    (endEntry showId entry).showId = entry.showId ∧
      (endEntry showId entry).sessionTokenHash = entry.sessionTokenHash ∧
      (endEntry showId entry).joinKeyHash = entry.joinKeyHash ∧
      (endEntry showId entry).paymentAttemptId = entry.paymentAttemptId := by
  unfold endEntry
  split <;> exact ⟨rfl, rfl, rfl, rfl⟩

theorem endEntry_on {showId : ShowId} {entry : QueueEntry}
    (on : (endEntry showId entry).status ∈ onStage) :
    entry.status ∈ onStage ∧ entry.showId ≠ showId := by
  unfold endEntry at on
  split at on
  · exact absurd on (show QueueStatus.ended ∉ onStage by decide)
  · rename_i unended
    refine ⟨on, fun same => unended ?_⟩
    simp [same, on]

theorem endCall_goes (now : Time) (showId : ShowId) (call : Call) :
    call.Goes (endCall now showId call) := by
  unfold endCall
  split
  · exact ⟨rfl, rfl, rfl, fun active =>
      absurd active (show CallStatus.ended ∉ activeStatuses by decide)⟩
  · exact call.goes_refl

theorem endCall_active {now : Time} {showId : ShowId} {call : Call}
    (active : (endCall now showId call).status ∈ activeStatuses) :
    endCall now showId call = call ∧ call.showId ≠ showId := by
  unfold endCall at active ⊢
  split at active
  · exact absurd active (show CallStatus.ended ∉ activeStatuses by decide)
  · rename_i unended
    refine ⟨if_neg unended, fun same => unended ?_⟩
    simp [same, active]

theorem active_of_open {status : CallStatus} (opened : status ∈ openStatuses) :
    status ∈ activeStatuses := by
  revert opened
  cases status <;> decide

section End

variable {now : Time} {db : DB} {showId : ShowId} {shows : Table Show} {calls : Table Call}
  {queueEntries : Table QueueEntry} (linked : Linked db)
  (kept : ∀ id, id ≠ showId → shows.get id = db.shows.get id)
  (ends : ∀ id, calls.get id = (db.calls.get id).map (endCall now showId))
  (leaves : ∀ id, queueEntries.get id = (db.queueEntries.get id).map (endEntry showId))

include linked kept ends leaves

theorem end_onward : Onward db { db with shows, calls, queueEntries } := by
  have origin {callId : CallId} {call : Call} (found : calls.get callId = some call) :
      ∃ before, db.calls.get callId = some before ∧ endCall now showId before = call :=
    Option.map_eq_some_iff.mp ((ends callId).symm.trans found)
  have entered {id : EntryId} {entry : QueueEntry} (found : queueEntries.get id = some entry) :
      ∃ before, db.queueEntries.get id = some before ∧ endEntry showId before = entry :=
    Option.map_eq_some_iff.mp ((leaves id).symm.trans found)
  refine ⟨⟨?_, ?_, ?_, ?_, ?_, ?_, linked.backed⟩, ?_⟩
  · intro callId call found
    obtain ⟨before, present, rfl⟩ := origin found
    obtain ⟨entry, there, inShow⟩ := linked.bound callId before present
    have goes := endCall_goes now showId before
    refine ⟨endEntry showId entry, ?_, ?_⟩
    · show queueEntries.get _ = _
      rw [leaves, goes.entries, there, Option.map_some]
    · rw [goes.shows, (endEntry_keeps showId entry).1, inShow]
  · intro i j c d one other same
    obtain ⟨before, present, rfl⟩ := origin one
    obtain ⟨earlier, there, rfl⟩ := origin other
    rw [(endCall_goes now showId before).entries, (endCall_goes now showId earlier).entries] at same
    exact linked.single i j before earlier present there same
  · intro callId call found active
    obtain ⟨before, present, rfl⟩ := origin found
    obtain ⟨same, elsewhere⟩ := endCall_active active
    rw [same] at active ⊢
    obtain ⟨hotline, host, live⟩ := linked.hosted callId before present active
    exact ⟨hotline, (kept _ elsewhere).trans host, live⟩
  · intro i j a b one other differ
    obtain ⟨before, present, rfl⟩ := entered one
    obtain ⟨earlier, there, rfl⟩ := entered other
    obtain ⟨shows, token, key, payment⟩ := endEntry_keeps showId before
    obtain ⟨shows', token', key', payment'⟩ := endEntry_keeps showId earlier
    have apart := linked.apart i j before earlier present there differ
    rw [clash_none_iff] at apart ⊢
    rw [shows, shows', token, token', key, key', payment, payment']
    refine ⟨apart.1, apart.2.1, apart.2.2.1, fun ⟨same, on, on'⟩ => apart.2.2.2 ⟨same, ?_, ?_⟩⟩
    · exact (endEntry_on on).1
    · exact (endEntry_on on').1
  · intro id entry attemptId found paid
    obtain ⟨before, present, rfl⟩ := entered found
    obtain ⟨shows, _, _, payment⟩ := endEntry_keeps showId before
    rw [payment] at paid
    rw [shows]
    exact linked.owned id before attemptId present paid
  · intro callId call attemptId found paid
    obtain ⟨before, present, rfl⟩ := origin found
    have goes := endCall_goes now showId before
    rw [goes.payment] at paid
    rw [goes.shows]
    exact linked.paid callId before attemptId present paid
  · intro callId call found
    have goes := endCall_goes now showId call
    exact ⟨_, by rw [ends, found, Option.map_some], goes.shows, goes.entries⟩

/-- The end of a show clears its stage and is not heard elsewhere. -/
theorem end_settles : Settles db { db with shows, calls, queueEntries } := by
  have onward := end_onward linked kept ends leaves
  refine ⟨onward, fun entryId => ?_⟩
  have opened (status : CallStatus) :
      OpenCall { db with shows, calls, queueEntries } entryId status ↔
        ∃ callId call, db.calls.get callId = some call ∧ call.queueEntryId = entryId ∧
          call.status = status ∧ status ∈ openStatuses ∧ call.showId ≠ showId := by
    constructor
    · rintro ⟨opened, callId, call, found, mine, rfl⟩
      obtain ⟨before, present, rfl⟩ := Option.map_eq_some_iff.mp ((ends callId).symm.trans found)
      obtain ⟨same, elsewhere⟩ := endCall_active (active_of_open opened)
      rw [same] at mine opened ⊢
      exact ⟨callId, before, present, mine, rfl, opened, elsewhere⟩
    · rintro ⟨callId, call, found, mine, rfl, opened, elsewhere⟩
      have same : endCall now showId call = call := if_neg (by simp [elsewhere])
      exact ⟨opened, callId, call, by rw [ends, found, Option.map_some, same], mine, rfl⟩
  have inShow {callId : CallId} {call : Call} {entry : QueueEntry}
      (present : db.queueEntries.get entryId = some entry) (found : db.calls.get callId = some call)
      (mine : call.queueEntryId = entryId) : call.showId = entry.showId := by
    obtain ⟨same, there, shows⟩ := linked.bound callId call found
    rw [mine] at there
    obtain rfl := Option.some.inj (present.symm.trans there)
    exact shows.symm
  cases present : db.queueEntries.get entryId with
  | none =>
      left
      refine ⟨?_, fun status => ⟨fun after => ?_, fun before => ?_⟩⟩
      · simp only [DB.stage, leaves, present, Option.map_none]
      · obtain ⟨callId, call, found, mine, same, isOpen, _⟩ := (opened status).mp after
        exact ⟨isOpen, callId, call, found, mine, same⟩
      · obtain ⟨isOpen, callId, call, found, mine, same⟩ := before
        obtain ⟨entry, there, _⟩ := linked.bound callId call found
        rw [mine, present] at there
        cases there
  | some entry =>
      have later : queueEntries.get entryId = some (endEntry showId entry) := by
        rw [leaves, present, Option.map_some]
      by_cases here : entry.showId = showId
      · right
        constructor
        · intro seat on
          obtain ⟨found, there, same, stays⟩ := stage_some on
          obtain rfl := Option.some.inj (later.symm.trans there)
          exact absurd here (endEntry_on (same ▸ stays)).2
        · intro status isOpen
          obtain ⟨callId, call, found, mine, _, _, elsewhere⟩ := (opened status).mp isOpen
          exact absurd ((inShow present found mine).trans here) elsewhere
      · left
        have same : endEntry showId entry = entry := if_neg (by simp [here])
        refine ⟨?_, fun status => ⟨fun after => ?_, fun before => ?_⟩⟩
        · simp only [DB.stage, later, present, same]
        · obtain ⟨callId, call, found, mine, same, isOpen, _⟩ := (opened status).mp after
          exact ⟨isOpen, callId, call, found, mine, same⟩
        · obtain ⟨isOpen, callId, call, found, mine, same⟩ := before
          refine (opened status).mpr ⟨callId, call, found, mine, same, isOpen, ?_⟩
          rw [inShow present found mine]
          exact here

end End

theorem endShow_settles {now : Time} {db after : DB} {showId : ShowId} {creatorId : UserId}
    (linked : Linked db) (ok : endShow now db showId creatorId = .ok after) : Settles db after := by
  unfold endShow at ok
  split at ok
  · cases ok
  · split at ok
    · cases ok
    · split at ok
      · cases ok
      · obtain rfl := Except.ok.inj ok
        exact .refl linked
      · obtain rfl := Except.ok.inj ok
        exact end_settles linked (fun id apart => Table.get_patch_of_ne apart _ _)
          (fun id => Table.get_patchWhere _ _ _ id) (fun id => Table.get_patchWhere _ _ _ id)

/-! ### Any step -/

/-- What holds after any run. -/
structure Staged (s : State) : Prop where
  linked : Linked s.db
  served : ∀ entryId, Served s.db entryId
  reserved : ∀ r ∈ s.reservations, ∃ call, s.db.calls.get r.callId = some call ∧
    call.showId = r.showId ∧ call.queueEntryId = r.entryId

/-- A completion that a step makes comes in time. -/
def State.Timely (s : State) (input : Time × Op) : Prop :=
  ∀ r, input.2 = .complete r → r ∈ s.reservations → s.db.timely r = true

theorem opening_staged (shows : Table Show) (showTiers : Table ShowTier) :
    Staged (State.opening shows showTiers) := by
  refine ⟨⟨?_, ?_, ?_, ?_, ?_, ?_, ?_⟩, ?_, ?_⟩
  · intro callId call found
    cases found
  · intro i j c d found
    cases found
  · intro callId call found
    cases found
  · intro i j a b found
    cases found
  · intro entryId entry attemptId found
    cases found
  · intro callId call attemptId found
    cases found
  · intro attemptId attempt found
    cases found
  · intro entryId seat on
    cases on
  · intro r member
    cases member

end Bling.Api
