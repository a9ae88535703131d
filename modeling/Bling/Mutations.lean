import Bling.Effects

set_option autoImplicit false

namespace Bling

open Library

/-! Every mutation has one of the effects. -/

theorem commit_effect {α : Type} {ctx : Ctx} {db : DB} {m : Mutation}
    {result : Except ErrorCode (DB × α)}
    (committed : ∀ after value, result = .ok (after, value) → Effect ctx db m after) :
    Effect ctx db m (commit db result) := by
  cases result with
  | error code => exact .same (.refl db)
  | ok outcome => exact committed outcome.1 outcome.2 rfl

theorem showForCreator_ok {db : DB} {showId : ShowId} {creatorId : UserId} {hotline : Show}
    (found : showForCreator db showId creatorId = .ok hotline) :
    db.shows.get showId = some hotline ∧ hotline.creatorId = creatorId := by
  unfold showForCreator at found
  split at found
  · cases found
  · rename_i held present
    split at found
    · cases found
    · rename_i owned
      obtain rfl := Except.ok.inj found
      exact ⟨present, not_not.mp owned⟩

theorem callForParticipant_ok {db : DB} {userId : Option UserId} {callId : CallId} {call : Call}
    {role : CallRole} (found : callForParticipant db userId callId = .ok (call, role)) :
    db.calls.get callId = some call := by
  unfold callForParticipant at found
  obtain ⟨user, _, found⟩ := bind_ok found
  split at found
  · cases found
  · rename_i held present
    split at found
    · rw [present, (Prod.mk.inj (Except.ok.inj found)).1]
    · split at found
      · rw [present, (Prod.mk.inj (Except.ok.inj found)).1]
      · cases found

/-! ### Accounts and shows -/

theorem signUp_effect (ctx : Ctx) (db : DB) (m : Mutation) (username : Option Text) :
    Effect ctx db m (commit db (signUp db username)) := by
  refine commit_effect ?_
  intro after value outcome
  unfold signUp at outcome
  cases username with
  | none =>
      obtain ⟨rfl, rfl⟩ := Prod.mk.inj (Except.ok.inj outcome)
      exact .userAdded _ (Or.inl rfl) (.refl _)
  | some name =>
      dsimp only at outcome
      split at outcome
      · cases outcome
      · obtain ⟨rfl, rfl⟩ := Prod.mk.inj (Except.ok.inj outcome)
        exact .userAdded _ (Or.inr rfl) (.refl _)

theorem createShow_effect (ctx : Ctx) (db : DB) (m : Mutation) (userId : Option UserId) :
    Effect ctx db m (commit db (createShow db userId)) := by
  refine commit_effect ?_
  intro after value outcome
  unfold createShow at outcome
  obtain ⟨creatorId, _, outcome⟩ := bind_ok outcome
  obtain ⟨rfl, rfl⟩ := Prod.mk.inj (Except.ok.inj outcome)
  exact .showAdded _ _ rfl rfl (.refl _)

theorem get_foldl_insert {α : Type} (added : List α) (table : Table α) (id : Nat) (a : α)
    (found : (added.foldl Table.insert table).get id = some a) :
    table.get id = some a ∨ a ∈ added := by
  induction added generalizing table with
  | nil => exact Or.inl found
  | cons first rest ih =>
      rcases ih _ found with old | new
      · rw [Table.get_insert] at old
        split at old
        · exact Or.inr (Option.some.inj old ▸ List.mem_cons_self)
        · exact Or.inl old
      · exact Or.inr (List.mem_cons_of_mem _ new)

theorem get_foldl_insert_of_some {α : Type} (added : List α) {table : Table α} {id : Nat} {a : α}
    (found : table.get id = some a) : (added.foldl Table.insert table).get id = some a := by
  induction added generalizing table with
  | nil => exact found
  | cons first rest ih => exact ih (Table.get_insert_of_some found first)

theorem TierInput.valid_priced {tier : TierInput} (valid : tier.valid = true) :
    tier.priceCents.toNat = 0 ∨ 50 ≤ tier.priceCents.toNat := by
  simp only [TierInput.valid, Bool.and_eq_true, Bool.or_eq_true, beq_iff_eq,
    decide_eq_true_eq] at valid
  omega

theorem normalizeTiers_priced {showId : ShowId} {tiers : List TierInput}
    (valid : tiers.all TierInput.valid = true) {tier : ShowTier}
    (member : tier ∈ normalizeTiers showId tiers) : tier.priced := by
  obtain ⟨index, bound, rfl⟩ := List.mem_mapIdx.mp member
  exact TierInput.valid_priced (List.all_eq_true.mp valid _ (List.getElem_mem bound))

theorem replaceTiers_effect (ctx : Ctx) (db : DB) (m : Mutation) (toLowerCase : Text → Text)
    (userId : Option UserId) (showId : ShowId) (tiers : List TierInput) :
    Effect ctx db m (commit db (replaceTiers toLowerCase db userId showId tiers)) := by
  refine commit_effect ?_
  intro after value outcome
  unfold replaceTiers at outcome
  obtain ⟨creatorId, _, outcome⟩ := bind_ok outcome
  obtain ⟨hotline, found, outcome⟩ := bind_ok outcome
  obtain ⟨present, _⟩ := showForCreator_ok found
  split at outcome
  · cases outcome
  · rename_i created
    split at outcome
    · cases outcome
    · split at outcome
      · cases outcome
      · rename_i accepted
        split at outcome
        · cases outcome
        · obtain ⟨rfl, rfl⟩ := Prod.mk.inj (Except.ok.inj outcome)
          refine .tiersReplaced showId hotline _ present (not_not.mp created) ?_ ?_ (.refl _)
          · intro id tier located elsewhere
            apply get_foldl_insert_of_some
            exact (Table.get_delete_query _ _ id tier).mpr ⟨located, by simpa using elsewhere⟩
          intro id tier found
          rcases get_foldl_insert _ _ id tier found with old | new
          · exact Or.inl ((Table.get_delete_query _ _ id tier).mp old).1
          · exact Or.inr (normalizeTiers_priced (not_not.mp (not_or.mp accepted).1) new)

theorem startShow_effect (ctx : Ctx) (db : DB) (m : Mutation) (userId : Option UserId)
    (showId : ShowId) : Effect ctx db m (commit db (startShow ctx db userId showId)) := by
  refine commit_effect ?_
  intro after value outcome
  unfold startShow at outcome
  obtain ⟨creatorId, _, outcome⟩ := bind_ok outcome
  obtain ⟨hotline, found, outcome⟩ := bind_ok outcome
  obtain ⟨present, owner⟩ := showForCreator_ok found
  split at outcome
  · obtain ⟨rfl, rfl⟩ := Prod.mk.inj (Except.ok.inj outcome)
    exact .same (.refl _)
  · split at outcome
    · cases outcome
    · rename_i created
      dsimp only at outcome
      split at outcome
      · cases outcome
      · split at outcome
        · cases outcome
        · split at outcome
          · cases outcome
          · rename_i alone
            obtain ⟨rfl, rfl⟩ := Prod.mk.inj (Except.ok.inj outcome)
            refine .showStarted showId hotline present (not_not.mp created) ?_ (.refl _)
            intro id s located owned
            have unmatched := Table.first_none (Option.not_isSome_iff_eq_none.mp alone) located
            simpa [owned, owner] using unmatched

/-! ### Calls -/

theorem applyTransition_ok {ctx : Ctx} {db : DB} {callId : CallId} {call : Call}
    {target : CallStatus} {after : DB} {value : Unit}
    (outcome : applyTransition ctx db callId call target = .ok (after, value)) :
    after = db ∨ (canTransition call.status target = true ∧
      after = moveCall ctx db callId call target) := by
  unfold applyTransition at outcome
  split at outcome
  · exact Or.inl (Prod.mk.inj (Except.ok.inj outcome)).1.symm
  · split at outcome
    · cases outcome
    · rename_i allowed
      exact Or.inr ⟨not_not.mp allowed, (Prod.mk.inj (Except.ok.inj outcome)).1.symm⟩

theorem applyTransition_allowed (ctx : Ctx) (db : DB) (callId : CallId) {call : Call}
    {target : CallStatus} (allowed : canTransition call.status target = true) :
    applyTransition ctx db callId call target = .ok (moveCall ctx db callId call target, ()) := by
  have moves : call.status ≠ target := by
    rintro rfl
    cases held : call.status <;> simp [held, canTransition, transitions] at allowed
  unfold applyTransition
  rw [if_neg moves, if_neg (not_not.mpr allowed)]

theorem connectable_ends {status : CallStatus} (connectable : status ∈ connectableStatuses) :
    canTransition status .ended = true := by
  cases status <;> first | rfl | simp [connectableStatuses] at connectable

theorem applyTransition_effect {ctx : Ctx} {db : DB} {m : Mutation} {callId : CallId} {call : Call}
    {target : CallStatus} {after : DB} {value : Unit} (present : db.calls.get callId = some call)
    (asked : m.moves ctx db = some (callId, call, target))
    (outcome : applyTransition ctx db callId call target = .ok (after, value)) :
    Effect ctx db m after := by
  rcases applyTransition_ok outcome with rfl | ⟨allowed, rfl⟩
  · exact .same (.refl _)
  · exact .moved callId call target db.shows present allowed asked (Or.inl rfl)
      (moveCall_same ctx db callId call target)

theorem transition_effect (ctx : Ctx) (db : DB) (userId : Option UserId) (callId : CallId)
    (status : CallStatus) : Effect ctx db (.transition userId callId status)
      (commit db (transition ctx db userId callId status)) := by
  refine commit_effect ?_
  intro after value outcome
  unfold transition at outcome
  obtain ⟨⟨call, role⟩, found, outcome⟩ := bind_ok outcome
  dsimp only at outcome
  split at outcome
  · cases outcome
  · rename_i permitted
    refine applyTransition_effect (callForParticipant_ok found) ?_ outcome
    simp only [Mutation.moves, found, if_pos (not_not.mp permitted)]

theorem expire_effect (ctx : Ctx) (db : DB) (callId : CallId) :
    Effect ctx db (.expire callId) (commit db (expire ctx db callId)) := by
  refine commit_effect ?_
  intro after value outcome
  unfold expire at outcome
  split at outcome
  · obtain ⟨rfl, rfl⟩ := Prod.mk.inj (Except.ok.inj outcome)
    exact .same (.refl _)
  · rename_i call present
    split at outcome
    · obtain ⟨rfl, rfl⟩ := Prod.mk.inj (Except.ok.inj outcome)
      exact .same (.refl _)
    · rename_i due
      obtain ⟨live, reached⟩ := not_or.mp due
      refine applyTransition_effect present ?_ outcome
      simp only [Mutation.moves, present, if_pos (And.intro (not_not.mp live) (Nat.le_of_not_lt reached))]

theorem checkGrace_effect (ctx : Ctx) (db : DB) (callId : CallId) (role : CallRole)
    (disconnectedAt : Time) : Effect ctx db (.checkGrace callId role disconnectedAt)
      (commit db (checkGrace ctx db callId role disconnectedAt)) := by
  refine commit_effect ?_
  intro after value outcome
  unfold checkGrace at outcome
  split at outcome
  · obtain ⟨rfl, rfl⟩ := Prod.mk.inj (Except.ok.inj outcome)
    exact .same (.refl _)
  · rename_i still
    split at outcome
    · obtain ⟨rfl, rfl⟩ := Prod.mk.inj (Except.ok.inj outcome)
      exact .same (.refl _)
    · rename_i call present
      split at outcome
      · rename_i connectable
        refine applyTransition_effect present ?_ outcome
        simp only [Mutation.moves, if_pos (not_not.mp still), present, if_pos connectable]
      · obtain ⟨rfl, rfl⟩ := Prod.mk.inj (Except.ok.inj outcome)
        exact .same (.refl _)

theorem activeCallForShow_present {db : DB} {showId : ShowId} {callId : CallId} {call : Call}
    (active : activeCallForShow db showId = some (callId, call)) :
    db.calls.get callId = some call ∧ call.showId = showId ∧
      call.status ∈ activeCallStatuses := by
  obtain ⟨status, member, found⟩ := List.exists_of_findSome?_eq_some active
  obtain ⟨present, matched⟩ := Table.first_some found
  simp only [Bool.and_eq_true, beq_iff_eq] at matched
  exact ⟨present, matched.1, matched.2 ▸ member⟩

theorem endShow_effect (ctx : Ctx) (db : DB) (userId : Option UserId) (showId : ShowId) :
    Effect ctx db (.endShow userId showId) (commit db (endShow ctx db userId showId)) := by
  refine commit_effect ?_
  intro after value outcome
  unfold endShow at outcome
  obtain ⟨creatorId, authenticated, outcome⟩ := bind_ok outcome
  obtain ⟨hotline, found, outcome⟩ := bind_ok outcome
  obtain ⟨present, owner⟩ := showForCreator_ok found
  split at outcome
  · obtain ⟨rfl, rfl⟩ := Prod.mk.inj (Except.ok.inj outcome)
    exact .same (.refl _)
  · split at outcome
    · cases outcome
    · rename_i isLive
      have live := not_not.mp isLive
      dsimp only at outcome
      have sameCall : activeCallForShow
          { db with shows := db.shows.patch showId fun s =>
            { s with status := .ended, endedAt := some ctx.now } } showId =
          activeCallForShow db showId := rfl
      rw [sameCall] at outcome
      cases active : activeCallForShow db showId with
      | none =>
          rw [active] at outcome
          obtain ⟨rfl, rfl⟩ := Prod.mk.inj (Except.ok.inj outcome)
          refine .showEnded showId hotline ⟨userId, rfl⟩ present live ?_ (.runAfter _ _ _ _)
          intro callId call found
          rw [active] at found
          cases found
      | some row =>
          obtain ⟨callId, call⟩ := row
          rw [active] at outcome
          dsimp only at outcome
          split at outcome
          · rename_i connectable
            have moves : (Mutation.endShow userId showId).moves ctx db =
                some (callId, call, .ended) := by
              simp only [Mutation.moves, authenticated, found, if_pos live, active,
                if_pos connectable]
            have allowed := connectable_ends connectable
            rw [applyTransition_allowed ctx _ callId allowed] at outcome
            obtain ⟨rfl, rfl⟩ := Prod.mk.inj (Except.ok.inj outcome)
            have same := moveCall_same ctx
              { db with shows := db.shows.patch showId fun s =>
                { s with status := .ended, endedAt := some ctx.now } } callId call .ended
            have ledger : (goLive ctx
                { db with shows := db.shows.patch showId fun s =>
                  { s with status := .ended, endedAt := some ctx.now } } callId call
                .ended).ledger = (goLive ctx db callId call .ended).ledger := by
              rw [goLive_other, goLive_other] <;> decide
            refine .moved callId call .ended _ (activeCallForShow_present active).1 allowed
              moves (Or.inr ⟨rfl, showId, hotline, ⟨userId, rfl⟩, present, live, active, rfl⟩)
              (SameCore.trans ?_ (.runAfter _ _ _ _))
            exact ⟨same.users, same.showTiers, same.shows, same.queueEntries, same.calls,
              same.paymentAttempts,
              same.paymentRefunds.trans (finishCall_congr ctx _ _ callId call .ended rfl rfl),
              same.paymentDisputes, same.ledger.trans ledger, same.payoutItems,
              same.payoutRuns⟩
          · rename_i capturing
            obtain ⟨rfl, rfl⟩ := Prod.mk.inj (Except.ok.inj outcome)
            refine .showEnded showId hotline ⟨userId, rfl⟩ present live ?_ (.runAfter _ _ _ _)
            intro otherId other found
            obtain ⟨rfl, rfl⟩ := Prod.mk.inj (Option.some.inj (active.symm.trans found))
            exact capturing

/-! ### Selecting a caller -/

theorem createCall_effect {ctx : Ctx} {db : DB} {m : Mutation} {userId : Option UserId}
    {showId : ShowId} {hotline : Show} {entryId : EntryId} {entry : QueueEntry}
    {mode : SelectionMode} {after : DB} {callId : CallId}
    (ready : prepareSelection db userId showId = .ok hotline)
    (present : db.queueEntries.get entryId = some entry) (inShow : entry.showId = showId)
    (waiting : entry.status = .waiting) (asked : m.removes entryId entry = true)
    (outcome : createCall ctx db showId hotline entryId entry mode = .ok (after, callId)) :
    Effect ctx db m after := by
  unfold createCall at outcome
  dsimp only at outcome
  split at outcome
  · cases outcome
  · rename_i payable
    obtain ⟨rfl, rfl⟩ := Prod.mk.inj (Except.ok.inj outcome)
    unfold prepareSelection at ready
    obtain ⟨creatorId, _, ready⟩ := bind_ok ready
    obtain ⟨host, found, ready⟩ := bind_ok ready
    split at ready
    · cases ready
    · rename_i live
      split at ready
      · cases ready
      · rename_i idle
        obtain rfl := Except.ok.inj ready
        refine .selected showId host entryId entry mode _ asked (showForCreator_ok found).1
          (not_not.mp live) (Option.not_isSome_iff_eq_none.mp idle) present inShow waiting rfl ?_
          (.refl _)
        intro paid
        have authorized := not_not.mp (not_and.mp payable paid)
        obtain ⟨row, held, status⟩ := Option.any_eq_true _ _ |>.mp authorized
        exact ⟨row, held, by simpa using status⟩

theorem select_effect (ctx : Ctx) (db : DB) (userId : Option UserId) (showId : ShowId)
    (entryId : EntryId) :
    Effect ctx db (.select userId showId entryId) (commit db (select ctx db userId showId entryId)) := by
  refine commit_effect ?_
  intro after value outcome
  unfold select at outcome
  obtain ⟨hotline, ready, outcome⟩ := bind_ok outcome
  split at outcome
  · cases outcome
  · rename_i entry present
    split at outcome
    · cases outcome
    · rename_i inPlace
      obtain ⟨inShow, waiting⟩ := not_or.mp inPlace
      exact createCall_effect ready present (not_not.mp inShow) (not_not.mp waiting)
        (beq_self_eq_true entryId) outcome

theorem chooseAt_waiting {db : DB} {showId : ShowId} {pivot : Time} {rank : Nat}
    {row : EntryId × QueueEntry} (chosen : chooseAt db showId pivot rank = some row) :
    db.queueEntries.get row.1 = some row.2 ∧ row.2.showId = showId ∧ row.2.status = .waiting := by
  have member : row ∈ waitingAt db showId rank := by
    unfold chooseAt at chosen
    dsimp only at chosen
    split at chosen
    · cases chosen
    · rename_i last final
      obtain rfl := Option.some.inj chosen
      cases later : (waitingAt db showId rank).find? fun row => decide (pivot ≤ row.2.joinedAt) with
      | none => exact List.mem_of_getLast? final
      | some row => exact List.mem_of_find?_eq_some later
  unfold waitingAt at member
  rw [List.mem_insertionSort] at member
  obtain ⟨present, matched⟩ := (Table.mem_query _ _ row.1 row.2).mp member
  simp only [Bool.and_eq_true, beq_iff_eq] at matched
  exact ⟨present, matched.1.1, matched.1.2⟩

theorem selectRandom_effect (ctx : Ctx) (db : DB) (userId : Option UserId) (showId : ShowId)
    (pivot : Time) : Effect ctx db (.selectRandom userId showId pivot)
    (commit db (selectRandom ctx db userId showId pivot)) := by
  refine commit_effect ?_
  intro after value outcome
  unfold selectRandom at outcome
  obtain ⟨hotline, ready, outcome⟩ := bind_ok outcome
  split at outcome
  · cases outcome
  · rename_i entryId entry chosen
    obtain ⟨rank, _, found⟩ := List.exists_of_findSome?_eq_some chosen
    obtain ⟨present, inShow, waiting⟩ := chooseAt_waiting found
    refine createCall_effect ready present inShow waiting ?_ outcome
    dsimp only at inShow
    simp only [Mutation.removes, inShow, beq_self_eq_true]

/-! ### Joining and leaving -/

theorem joinTier_present {db : DB} {args : JoinArgs} {tierId : TierId} {tier : ShowTier}
    (found : joinTier db args = some (tierId, tier)) : db.showTiers.get tierId = some tier := by
  unfold joinTier at found
  split at found
  · rename_i asked _
    obtain ⟨held, present, same⟩ := Option.map_eq_some_iff.mp found
    obtain ⟨rfl, rfl⟩ := Prod.mk.inj same
    exact present
  · have member := List.mem_of_head? found
    rw [List.mem_insertionSort] at member
    exact ((Table.mem_query _ _ _ _).mp member).1

theorem offeredAttempt_some {db : DB} {tier : ShowTier} {offer : Option AttemptId}
    {row : AttemptId × PaymentAttempt} (held : offeredAttempt db tier offer = some row) :
    0 < tier.priceCents ∧ db.paymentAttempts.get row.1 = some row.2 := by
  unfold offeredAttempt at held
  split at held
  · rename_i paid
    obtain ⟨attemptId, _, held⟩ := Option.bind_eq_some_iff.mp held
    obtain ⟨attempt, present, rfl⟩ := Option.map_eq_some_iff.mp held
    exact ⟨paid, present⟩
  · cases held

theorem joinQueue_effect {ctx : Ctx} {db : DB} {m : Mutation} {viewerId : UserId} {args : JoinArgs}
    {offer : Option AttemptId} {after : DB} {entryId : EntryId}
    (outcome : joinQueue ctx db viewerId args offer = .ok (after, entryId)) :
    Effect ctx db m after := by
  unfold joinQueue at outcome
  dsimp only at outcome
  split at outcome
  · cases outcome
  · split at outcome
    · cases outcome
    · split at outcome
      · cases outcome
      · rename_i isLive
        split at outcome
        · cases outcome
        · rename_i tierId tier found
          split at outcome
          · cases outcome
          · rename_i isOffered
            obtain ⟨inShow, enabled⟩ := not_or.mp isOffered
            split at outcome
            · obtain ⟨rfl, rfl⟩ := Prod.mk.inj (Except.ok.inj outcome)
              exact .same (.refl _)
            · rename_i inQueue
              split at outcome
              · cases outcome
              · rename_i payable
                obtain ⟨rfl, rfl⟩ := Prod.mk.inj (Except.ok.inj outcome)
                refine .joined viewerId args tierId tier _ _ (not_not.mp isLive)
                  (joinTier_present found) ⟨not_not.mp inShow, not_not.mp enabled⟩ rfl ?_ ?_ ?_
                  (.refl _)
                · intro row existing
                  rw [existing] at inQueue
                  simpa using inQueue
                · intro row held
                  obtain ⟨paid, present⟩ := offeredAttempt_some held
                  have usable := not_not.mp (not_and.mp payable paid)
                  rw [held] at usable
                  exact ⟨present, usable⟩
                · cases held : offeredAttempt db tier offer with
                  | some row => simp [(offeredAttempt_some held).1]
                  | none =>
                      rw [held] at payable
                      simpa using payable

theorem join_effect (ctx : Ctx) (db : DB) (m : Mutation) (userId : Option UserId)
    (args : JoinArgs) : Effect ctx db m (commit db (join ctx db userId args)) := by
  refine commit_effect ?_
  intro after value outcome
  obtain ⟨viewerId, _, outcome⟩ := bind_ok outcome
  exact joinQueue_effect outcome

theorem joinWithPayment_effect (ctx : Ctx) (db : DB) (m : Mutation) (userId : Option UserId)
    (args : JoinArgs) (paymentAttemptId : AttemptId) :
    Effect ctx db m (commit db (joinWithPayment ctx db userId args paymentAttemptId)) := by
  refine commit_effect ?_
  intro after value outcome
  obtain ⟨viewerId, _, outcome⟩ := bind_ok outcome
  exact joinQueue_effect outcome

theorem requireUserId_ok {userId : Option UserId} {viewerId : UserId}
    (signedIn : requireUserId userId = .ok viewerId) : userId = some viewerId := by
  unfold requireUserId at signedIn
  split at signedIn
  · exact congrArg some (Except.ok.inj signedIn)
  · cases signedIn

theorem leave_effect (ctx : Ctx) (db : DB) (userId : Option UserId) (showId : ShowId) :
    Effect ctx db (.leave userId showId) (commit db (leave ctx db userId showId)) := by
  refine commit_effect ?_
  intro after value outcome
  unfold leave at outcome
  obtain ⟨viewerId, signedIn, outcome⟩ := bind_ok outcome
  split at outcome
  · cases outcome
  · rename_i entryId entry found
    obtain ⟨present, theirs⟩ := Table.first_some found
    simp only [Bool.and_eq_true, beq_iff_eq] at theirs
    have asked : (Mutation.leave userId showId).removes entryId entry = true := by
      rw [requireUserId_ok signedIn]
      simp [Mutation.removes, theirs]
    split at outcome
    · obtain ⟨rfl, rfl⟩ := Prod.mk.inj (Except.ok.inj outcome)
      exact .same (.refl _)
    · split at outcome
      · cases outcome
      · rename_i isWaiting
        refine .left entryId entry asked present (not_not.mp isWaiting) ?_
        dsimp only at outcome
        split at outcome
        · obtain ⟨rfl, rfl⟩ := Prod.mk.inj (Except.ok.inj outcome)
          exact .refl _
        · split at outcome
          · obtain ⟨rfl, rfl⟩ := Prod.mk.inj (Except.ok.inj outcome)
            exact .refl _
          · obtain ⟨rfl, rfl⟩ := Prod.mk.inj (Except.ok.inj outcome)
            exact scheduleCancel_same ctx _ _ _ _

/-! ### Payments -/

theorem prepare_effect (ctx : Ctx) (db : DB) (m : Mutation) (userId : Option UserId)
    (showId : ShowId) (tierId : TierId) (idempotencyKey : Text)
    (stripeCustomerId : Option StripeId) : Effect ctx db m
      (commit db (prepare db userId showId tierId idempotencyKey stripeCustomerId)) := by
  refine commit_effect ?_
  intro after value outcome
  unfold prepare at outcome
  obtain ⟨payerId, _, outcome⟩ := bind_ok outcome
  split at outcome
  · rename_i hotline tier _ found
    split at outcome
    · cases outcome
    · split at outcome
      · cases outcome
      · split at outcome
        · cases outcome
        · rename_i paid
          split at outcome
          · split at outcome
            · cases outcome
            · obtain ⟨rfl, rfl⟩ := Prod.mk.inj (Except.ok.inj outcome)
              exact .same (.refl _)
          · obtain ⟨rfl, rfl⟩ := Prod.mk.inj (Except.ok.inj outcome)
            exact .attemptAdded _ tierId tier hotline found (Nat.lt_of_not_le paid) rfl rfl rfl
              rfl rfl (.refl _)
  · cases outcome

theorem attachIntent_effect (ctx : Ctx) (db : DB) (attemptId : AttemptId) (intentId : StripeId) :
    Effect ctx db (.attachIntent attemptId intentId)
      (commit db (attachIntent db attemptId intentId)) := by
  refine commit_effect ?_
  intro after value outcome
  unfold attachIntent at outcome
  split at outcome
  · cases outcome
  · rename_i attempt present
    split at outcome
    · split at outcome
      · obtain ⟨rfl, rfl⟩ := Prod.mk.inj (Except.ok.inj outcome)
        exact .same (.refl _)
      · cases outcome
    · rename_i detached
      obtain ⟨rfl, rfl⟩ := Prod.mk.inj (Except.ok.inj outcome)
      exact .intentAttached attemptId intentId attempt rfl present detached (.refl _)

theorem markAuthorized_effect (ctx : Ctx) (db : DB) (attemptId : AttemptId) :
    Effect ctx db (.markAuthorized attemptId) (markAuthorized ctx db attemptId) := by
  unfold markAuthorized
  split
  · rename_i isCreated
    obtain ⟨attempt, present, created⟩ := Option.any_eq_true _ _ |>.mp isCreated
    exact .authorized attemptId attempt rfl present (by simpa using created) (.refl _)
  · exact .same (.refl _)

theorem captured_effect (ctx : Ctx) (db : DB) (attemptId : AttemptId) :
    Effect ctx db (.captured attemptId) (captured ctx db attemptId) := by
  unfold captured
  split
  · rename_i attempt present
    have effect := recordCaptured_effect ctx (m := .captured attemptId) rfl present
      db.stripeEvents attempt.savedPaymentMethodId
    rw [← recordCaptured_attempts ctx db present] at effect
    exact effect
  · exact .same (.refl _)

theorem notCaptured_effect (ctx : Ctx) (db : DB) (attemptId : AttemptId) (status : NotCaptured)
    (failureCode : Option String) : Effect ctx db (.notCaptured attemptId status failureCode)
      (notCaptured ctx db attemptId status failureCode) := by
  unfold notCaptured
  split
  · rename_i attempt present
    exact recordNotCaptured_effect (m := .notCaptured attemptId status failureCode) rfl present
      db.stripeEvents failureCode
  · exact .same (.refl _)

/-! ### Reservations -/

theorem posts_append (ledger : Ledger) (first second : List LedgerEntry) :
    posts ledger (first ++ second) = posts (posts ledger first) second :=
  List.foldl_append

/-- A batch of reservations, on the core tables. -/
structure Reserved (ctx : Ctx) (runId : RunId) (payoutRun : PayoutRun) (before after : DB)
    (entries : List LedgerEntry) : Prop where
  same : SameCore
    { before with
      ledger := posts before.ledger entries
      payoutItems := after.payoutItems
      payoutRuns := after.payoutRuns } after
  each : ∀ entry ∈ entries, IsReservation entry
  turns : Relation.ReflTransGen (Turn ctx runId payoutRun) before after

theorem Reserved.refl (ctx : Ctx) (runId : RunId) (payoutRun : PayoutRun) (db : DB) :
    Reserved ctx runId payoutRun db db [] :=
  ⟨.refl db, fun _ member => absurd member List.not_mem_nil, .refl⟩

theorem Reserved.trans {ctx : Ctx} {runId : RunId} {payoutRun : PayoutRun} {a b c : DB}
    {first second : List LedgerEntry} (left : Reserved ctx runId payoutRun a b first)
    (right : Reserved ctx runId payoutRun b c second) :
    Reserved ctx runId payoutRun a c (first ++ second) := by
  refine ⟨⟨right.same.users.trans left.same.users,
    right.same.showTiers.trans left.same.showTiers, right.same.shows.trans left.same.shows,
    right.same.queueEntries.trans left.same.queueEntries,
    right.same.calls.trans left.same.calls,
    right.same.paymentAttempts.trans left.same.paymentAttempts,
    right.same.paymentRefunds.trans left.same.paymentRefunds,
    right.same.paymentDisputes.trans left.same.paymentDisputes, ?_, rfl, rfl⟩, ?_,
    left.turns.trans right.turns⟩
  · rw [right.same.ledger]
    dsimp only
    rw [left.same.ledger, posts_append]
  · intro entry member
    rcases List.mem_append.mp member with early | late
    · exact left.each entry early
    · exact right.each entry late

/-- A turn of the batch reserves the whole available balance, or does nothing. -/
theorem reserveAccount_cases (ctx : Ctx) (runId : RunId) (payoutRun : PayoutRun) (db : DB)
    (account : PayoutAccount) :
    reserveAccount ctx runId payoutRun db account = db ∨ ∃ availableCents,
      Reserves ctx runId payoutRun account availableCents db
        (reserveAccount ctx runId payoutRun db account) := by
  unfold reserveAccount
  split
  · exact Or.inl rfl
  · split
    · exact Or.inl rfl
    · rename_i newInRun
      split
      · exact Or.inl rfl
      · rename_i nothingOpen
        dsimp only
        split
        · exact Or.inl rfl
        · rename_i enough
          refine Or.inr ⟨_, rfl, Int.not_lt.mp enough, ?_, ?_, ?_, ?_, ?_, ?_⟩
          · intro id item present
            have unmatched := Table.first_none (Option.not_isSome_iff_eq_none.mp newInRun) present
            simpa using unmatched
          · intro id item present owned isOpen
            refine nothingOpen (List.any_eq_true.mpr ⟨item.status, isOpen, ?_⟩)
            obtain ⟨key, found, located, _⟩ := Table.exists_first
              (p := fun i => i.creatorId == account.creatorId && i.status == item.status) present
              (by simp [owned])
            rw [located, Option.isSome_some]
          · split <;> rfl
          · split <;> rfl
          · split <;> rfl
          · split <;> exact ⟨rfl, rfl, rfl, rfl, rfl, rfl, rfl, rfl, rfl, rfl, rfl⟩

theorem reserveAccount_reserved (ctx : Ctx) (runId : RunId) (payoutRun : PayoutRun) (db : DB)
    (account : PayoutAccount) : ∃ entries,
      Reserved ctx runId payoutRun db (reserveAccount ctx runId payoutRun db account) entries := by
  rcases reserveAccount_cases ctx runId payoutRun db account with unchanged | ⟨cents, reserves⟩
  · rw [unchanged]
    exact ⟨[], .refl ctx runId payoutRun db⟩
  · refine ⟨[reservationEntry ctx payoutRun account db.payoutItems.next cents], ?_, ?_,
      .single (Or.inr ⟨account, cents, reserves⟩)⟩
    · have same := reserves.same
      rw [reserves.ledger] at same
      exact same
    · intro entry member
      rw [List.mem_singleton.mp member]
      exact ⟨rfl, rfl, _, rfl⟩

theorem reserveBatch_effect (ctx : Ctx) (db : DB) (runId : RunId) (cursor : Option Nat) :
    Effect ctx db (.reserveBatch runId cursor) (reserveBatch ctx db runId cursor) := by
  unfold reserveBatch
  split
  · exact .same (.refl _)
  · rename_i payoutRun present
    have each (accounts : List PayoutAccount) : ∀ start, ∃ entries,
        Reserved ctx runId payoutRun start
          (accounts.foldl (reserveAccount ctx runId payoutRun) start) entries := by
      induction accounts with
      | nil => exact fun start => ⟨[], .refl ctx runId payoutRun start⟩
      | cons account rest ih =>
          intro start
          obtain ⟨first, turn⟩ := reserveAccount_reserved ctx runId payoutRun start account
          obtain ⟨others, turns⟩ := ih (reserveAccount ctx runId payoutRun start account)
          exact ⟨first ++ others, turn.trans turns⟩
    obtain ⟨entries, reserved⟩ := each
      (((accountsAfter db cursor).take reserveBatchSize).map Prod.snd) db
    dsimp only
    split
    · exact .reserved runId payoutRun entries _ _ cursor rfl present reserved.each reserved.turns reserved.same
    · exact .reserved runId payoutRun entries _ _ cursor rfl present reserved.each
        (reserved.turns.tail (Or.inl (.runAfter _ _ _ _)))
        (reserved.same.trans (.runAfter _ _ _ _))

theorem runDue_effect (ctx : Ctx) (db : DB) (m : Mutation) : Effect ctx db m (runDue ctx db) := by
  unfold runDue
  dsimp only
  split
  · exact .same (.refl db)
  · split
    · exact .same ((SameCore.runAfter _ _ _ _).trans (.runAfter _ _ _ _))
    · exact .runOpened _ rfl ((SameCore.runAfter _ _ _ _).trans (.runAfter _ _ _ _))

/-- A turn over the processing runs. -/
theorem finishRun_cases (ctx : Ctx) (db : DB) (runId : RunId) :
    finishRun ctx db runId = db ∨ ∃ moved : PayoutRun → PayoutRun,
      finishRun ctx db runId = { db with payoutRuns := db.payoutRuns.patch runId moved } ∧
        ∀ r, Finished db.payoutItems runId (moved r) := by
  unfold finishRun
  dsimp only
  split
  · exact Or.inl rfl
  · rename_i idle
    simp only [not_or, Option.not_isSome_iff_eq_none] at idle
    have unlike {status : PayoutItemStatus} (absent : (db.payoutItems.first fun i =>
        i.runId == runId && i.status == status) = none) (id : ItemId) (item : PayoutItem)
        (present : db.payoutItems.get id = some item) (inRun : item.runId = runId) :
        item.status ≠ status := by
      have unmatched := Table.first_none absent present
      simpa [inRun] using unmatched
    refine Or.inr ⟨_, rfl, fun r => ⟨?_, ?_⟩⟩
    · exact fun id item present inRun => ⟨unlike idle.1 id item present inRun,
        unlike idle.2.1 id item present inRun, unlike idle.2.2 id item present inRun⟩
    · by_cases failed : (db.payoutItems.first fun i =>
          i.runId == runId && i.status == .failed).isSome = true
      · obtain ⟨row, found⟩ := Option.isSome_iff_exists.mp failed
        obtain ⟨present, matched⟩ := Table.first_row found
        simp only [Bool.and_eq_true, beq_iff_eq] at matched
        exact Or.inr ⟨if_pos failed, row.1, row.2, present, matched⟩
      · exact Or.inl ⟨if_neg failed, unlike (Option.not_isSome_iff_eq_none.mp failed)⟩

theorem finishRuns_effect (ctx : Ctx) (db : DB) (m : Mutation) :
    Effect ctx db m (finishRuns ctx db) := by
  unfold finishRuns
  generalize List.map Prod.fst _ = runs
  have each (start : DB) (items : start.payoutItems = db.payoutItems) :
      SameCore { start with payoutRuns := (runs.foldl (finishRun ctx) start).payoutRuns }
          (runs.foldl (finishRun ctx) start) ∧
        Table.Follow (Finishes db.payoutItems) (fun _ => False) start.payoutRuns
          (runs.foldl (finishRun ctx) start).payoutRuns := by
    have stays (id : RunId) (r : PayoutRun) : Finishes db.payoutItems id r r := Or.inl rfl
    induction runs generalizing start with
    | nil => exact ⟨.refl start, .refl stays _⟩
    | cons runId rest ih =>
        simp only [List.foldl_cons]
        rcases finishRun_cases ctx start runId with unchanged | ⟨moved, patched, finished⟩
        · rw [unchanged]
          exact ih start items
        · rw [patched]
          obtain ⟨same, follow⟩ := ih { start with payoutRuns := start.payoutRuns.patch runId moved }
            items
          refine ⟨same, ?_⟩
          have turn : Table.Follow (Finishes db.payoutItems) (fun _ => False) start.payoutRuns
              (start.payoutRuns.patch runId moved) :=
            .patch stays fun r _ => Or.inr (items ▸ finished r)
          refine turn.trans follow ?_ (fun _ => id) fun _ _ _ none => none.elim
          rintro id a b c first (rfl | second)
          · exact first
          · exact Or.inr second
  obtain ⟨same, follow⟩ := each db rfl
  exact .runsFinished _ follow same

theorem claimTransfer_effect (ctx : Ctx) (db : DB) (itemId : ItemId) :
    Effect ctx db (.claimTransfer itemId) (claimTransfer ctx db itemId).1 := by
  unfold claimTransfer
  split
  · exact .same (.refl _)
  · rename_i item present
    split
    · exact .same (.refl _)
    · rename_i claims
      exact .itemClaimed itemId item rfl present (not_not.mp (not_or.mp claims).2) (.refl _)

theorem markPaid_effect (ctx : Ctx) (db : DB) (itemId : ItemId) (transferId : StripeId) :
    Effect ctx db (.markPaid itemId transferId) (markPaid ctx db itemId transferId) := by
  unfold markPaid
  split
  · rename_i isSending
    obtain ⟨item, present, sending⟩ := Option.any_eq_true _ _ |>.mp isSending
    exact .itemPaid itemId item transferId rfl present (by simpa using sending)
      (.runAfter _ _ _ _)
  · exact .same (.refl _)

theorem retryTransfer_effect (ctx : Ctx) (db : DB) (m : Mutation) (itemId : ItemId)
    (failureCode : String) : Effect ctx db m (retryTransfer ctx db itemId failureCode) := by
  unfold retryTransfer
  split
  · exact .same (.refl _)
  · rename_i item present
    split
    · exact .same (.refl _)
    · rename_i sending
      split
      · exact .itemRetried itemId item .failed (some failureCode) (fun i => i.nextAttemptAt)
          (fun _ => some ctx.now) present (not_not.mp sending) (Or.inr rfl) (.runAfter _ _ _ _)
      · exact .itemRetried itemId item .retry (some failureCode) (fun _ => _)
          (fun i => i.processedAt) present (not_not.mp sending) (Or.inl rfl) (.runAfter _ _ _ _)

/-! ### All of them -/

theorem Mutation.effect (ctx : Ctx) (db : DB) (m : Mutation) :
    Effect ctx db m (m.apply ctx db) := by
  cases m with
  | signUp username => exact signUp_effect ctx db _ username
  | saveAccount creatorId account => exact .same (saveAccount_same db creatorId account)
  | createShow userId => exact createShow_effect ctx db _ userId
  | replaceTiers toLowerCase userId showId tiers =>
      exact replaceTiers_effect ctx db _ toLowerCase userId showId tiers
  | startShow userId showId => exact startShow_effect ctx db _ userId showId
  | endShow userId showId => exact endShow_effect ctx db userId showId
  | closeQueue showId => exact closeQueue_effect ctx db showId
  | join userId args => exact join_effect ctx db _ userId args
  | joinWithPayment userId args attemptId =>
      exact joinWithPayment_effect ctx db _ userId args attemptId
  | leave userId showId => exact leave_effect ctx db userId showId
  | select userId showId entryId => exact select_effect ctx db userId showId entryId
  | selectRandom userId showId pivot => exact selectRandom_effect ctx db userId showId pivot
  | transition userId callId status => exact transition_effect ctx db userId callId status
  | expire callId => exact expire_effect ctx db callId
  | heartbeat userId callId => exact .same (heartbeat_same ctx db userId callId)
  | leaveCall userId callId => exact .same (leaveCall_same ctx db userId callId)
  | checkSeen callId role seenAt => exact .same (checkSeen_same ctx db callId role seenAt)
  | checkGrace callId role disconnectedAt =>
      exact checkGrace_effect ctx db callId role disconnectedAt
  | prepare userId showId tierId idempotencyKey stripeCustomerId =>
      exact prepare_effect ctx db _ userId showId tierId idempotencyKey stripeCustomerId
  | attachIntent attemptId intentId => exact attachIntent_effect ctx db attemptId intentId
  | markAuthorized attemptId => exact markAuthorized_effect ctx db attemptId
  | captured attemptId => exact captured_effect ctx db attemptId
  | notCaptured attemptId status failureCode =>
      exact notCaptured_effect ctx db attemptId status failureCode
  | claimRefund refundId => exact claimRefund_effect ctx db refundId
  | recordRefund refundId stripeRefundId status failureCode =>
      exact recordRefund_effect ctx db refundId stripeRefundId status failureCode
  | retryRefund refundId failureCode => exact retryRefund_effect ctx db _ refundId failureCode
  | applyEvent event => exact applyEvent_effect ctx db event
  | runDue => exact runDue_effect ctx db _
  | reserveBatch runId cursor => exact reserveBatch_effect ctx db runId cursor
  | claimTransfer itemId => exact claimTransfer_effect ctx db itemId
  | markPaid itemId transferId => exact markPaid_effect ctx db itemId transferId
  | retryTransfer itemId failureCode =>
      exact retryTransfer_effect ctx db _ itemId failureCode
  | finishRuns => exact finishRuns_effect ctx db _

end Bling
