import Bling.Api.Transactions

set_option autoImplicit false

namespace Bling.Api

open Library

/-! What a queue entry and a payment record of the tier they were made for, and that no transaction
of the queue makes them differ from it. -/

/-! ### Bookings and charges -/

/-- What an entry says of its tier. -/
structure Booking where
  showId : ShowId
  tierId : TierId
  tierName : Text
  priorityRank : Nat
  callDurationSeconds : Nat
  tierPriceCents : Nat
deriving DecidableEq

def QueueEntry.booking (entry : QueueEntry) : Booking :=
  ⟨entry.showId, entry.tierId, entry.tierName, entry.priorityRank, entry.callDurationSeconds,
    entry.tierPriceCents⟩

/-- What a payment says of its tier. -/
structure Charge where
  showId : ShowId
  tierId : TierId
  amountCents : Nat
deriving DecidableEq

def PaymentAttempt.charge (attempt : PaymentAttempt) : Charge :=
  ⟨attempt.showId, attempt.tierId, attempt.amountCents⟩

/-- An enabled tier of a show that has begun. -/
def DB.Offers (db : DB) (showId : ShowId) (tierId : TierId) (tier : ShowTier) : Prop :=
  db.showTiers.get tierId = some tier ∧ tier.showId = showId ∧ tier.enabled = true ∧
    ∃ hotline, db.shows.get showId = some hotline ∧ hotline.status ≠ .created

def Booking.Offered (db : DB) (booking : Booking) : Prop :=
  ∃ tier, db.Offers booking.showId booking.tierId tier ∧ booking.tierName = tier.name ∧
    booking.priorityRank = tier.priorityRank ∧
    booking.callDurationSeconds = tier.callDurationSeconds ∧
    booking.tierPriceCents = tier.priceCents

def Charge.Offered (db : DB) (charge : Charge) : Prop :=
  ∃ tier, db.Offers charge.showId charge.tierId tier ∧ 0 < tier.priceCents ∧
    charge.amountCents = tier.priceCents

structure Booked (db : DB) : Prop where
  entries : ∀ entryId entry, db.queueEntries.get entryId = some entry → entry.booking.Offered db
  attempts : ∀ attemptId attempt, db.paymentAttempts.get attemptId = some attempt →
    attempt.charge.Offered db

/-- A show goes on as it is, or ends. -/
structure Show.Goes (hotline later : Show) : Prop where
  creator : later.creatorId = hotline.creatorId
  began : later.startedAt = hotline.startedAt
  status : later.status = hotline.status ∨ hotline.status = .live ∧ later.status = .ended

theorem Show.goes_refl (hotline : Show) : Show.Goes hotline hotline := ⟨rfl, rfl, Or.inl rfl⟩

theorem Show.Goes.trans {first second third : Show} (one : Show.Goes first second)
    (two : Show.Goes second third) : Show.Goes first third := by
  refine ⟨two.creator.trans one.creator, two.began.trans one.began, ?_⟩
  rcases two.status with same | ⟨live, over_⟩
  · rw [same]
    exact one.status
  · rcases one.status with same | ⟨_, ended⟩
    · exact Or.inr ⟨same ▸ live, over_⟩
    · rw [ended] at live
      cases live

/-- A transaction that leaves tiers alone, begins no show and books only what is offered. -/
structure Sells (db after : DB) : Prop where
  tiers : after.showTiers = db.showTiers
  shows : Table.Follow (fun _ => Show.Goes) (fun _ => False) db.shows after.shows
  charges : ∀ attemptId attempt, db.paymentAttempts.get attemptId = some attempt →
    ∃ later, after.paymentAttempts.get attemptId = some later ∧ later.charge = attempt.charge
  booked : Booked db → Booked after

theorem Sells.refl (db : DB) : Sells db db :=
  ⟨rfl, .refl (fun _ => Show.goes_refl) _, fun _ attempt found => ⟨attempt, found, rfl⟩, id⟩

theorem Sells.trans {db middle after : DB} (first : Sells db middle)
    (second : Sells middle after) : Sells db after := by
  refine ⟨second.tiers.trans first.tiers, first.shows.trans second.shows ?_ ?_ ?_, ?_,
    second.booked ∘ first.booked⟩
  · intro _ _ _ _ one two
    exact one.trans two
  · intro _ new
    exact new
  · intro _ _ _ new _
    exact new
  · intro attemptId attempt found
    obtain ⟨between, here, same⟩ := first.charges attemptId attempt found
    obtain ⟨later, there, still⟩ := second.charges attemptId between here
    exact ⟨later, there, still.trans same⟩

/-- An entry keeps its tier, or sells one that is offered. -/
def Rebooks (db : DB) (entry later : QueueEntry) : Prop :=
  later.booking = entry.booking ∨ later.booking.Offered db

theorem Rebooks.refl (db : DB) (entry : QueueEntry) : Rebooks db entry entry := Or.inl rfl

/-- A payment keeps its tier and its amount. -/
def Recharges (attempt later : PaymentAttempt) : Prop := later.charge = attempt.charge

theorem Recharges.refl (attempt : PaymentAttempt) : Recharges attempt attempt := rfl

theorem offers_congr {db after : DB} (tiers : after.showTiers = db.showTiers)
    (shows : Table.Follow (fun _ => Show.Goes) (fun _ => False) db.shows after.shows)
    {showId : ShowId} {tierId : TierId} {tier : ShowTier} (offers : db.Offers showId tierId tier) :
    after.Offers showId tierId tier := by
  obtain ⟨found, inShow, enabled, hotline, present, begun⟩ := offers
  obtain ⟨later, here, goes⟩ := shows.kept showId hotline present
  refine ⟨tiers ▸ found, inShow, enabled, later, here, ?_⟩
  rcases goes.status with same | ⟨_, ended⟩
  · rw [same]
    exact begun
  · rw [ended]
    decide

/-! ### What makes a transaction -/

section Rows

variable {db after : DB}

/-- Entries and payments keep their tiers, or book what is offered. -/
theorem Sells.rows {queueEntries : Table QueueEntry} {paymentAttempts : Table PaymentAttempt}
    {calls : Table Call} {nextPosition : Nat}
    (entries : Table.Follow (fun _ => Rebooks db) (fun e => e.booking.Offered db)
      db.queueEntries queueEntries)
    (attempts : Table.Follow (fun _ => Recharges) (fun a => a.charge.Offered db)
      db.paymentAttempts paymentAttempts) :
    Sells db ⟨db.shows, db.showTiers, queueEntries, paymentAttempts, calls, nextPosition⟩ := by
  refine ⟨rfl, .refl (fun _ => Show.goes_refl) _, attempts.kept, fun booked => ⟨?_, ?_⟩⟩
  · intro entryId entry found
    rcases entries.origin entryId entry found with ⟨before, present, same | new⟩ | ⟨_, new⟩
    · rw [same]
      exact booked.entries entryId before present
    · exact new
    · exact new
  · intro attemptId attempt found
    rcases attempts.origin attemptId attempt found with ⟨before, present, same⟩ | ⟨_, new⟩
    · rw [same]
      exact booked.attempts attemptId before present
    · exact new

theorem sells_attempts {paymentAttempts : Table PaymentAttempt}
    (attempts : Table.Follow (fun _ => Recharges) (fun a => a.charge.Offered db)
      db.paymentAttempts paymentAttempts) : Sells db { db with paymentAttempts } :=
  .rows (.refl (fun _ => .refl db) _) attempts

theorem sells_attempt (attemptId : AttemptId) {f : PaymentAttempt → PaymentAttempt}
    (same : ∀ attempt, (f attempt).charge = attempt.charge) :
    Sells db (updateAttempt db attemptId f) :=
  sells_attempts (.patch (fun _ => Recharges.refl) fun attempt _ => same attempt)

theorem sells_calls (calls : Table Call) : Sells db { db with calls } :=
  .rows (.refl (fun _ => .refl db) _) (.refl (fun _ => Recharges.refl) _)

theorem sells_position (nextPosition : Nat) : Sells db { db with nextPosition } :=
  .rows (.refl (fun _ => .refl db) _) (.refl (fun _ => Recharges.refl) _)

theorem sells_entries {queueEntries : Table QueueEntry}
    (entries : Table.Follow (fun _ => Rebooks db) (fun e => e.booking.Offered db)
      db.queueEntries queueEntries) :
    Sells db { db with queueEntries } :=
  .rows entries (.refl (fun _ => Recharges.refl) _)

theorem sells_entry {entryId : EntryId} {f : QueueEntry → QueueEntry}
    (ok : updateEntry db entryId f = .ok after)
    (same : ∀ entry, (f entry).booking = entry.booking) : Sells db after := by
  obtain ⟨rfl, _⟩ := updateEntry_ok ok
  exact sells_entries (.patch (fun _ => .refl db) fun entry _ => Or.inl (same entry))

theorem sells_insertCall {call : Call} (ok : insertCall db call = .ok after) : Sells db after := by
  obtain ⟨rfl, _⟩ := insertCall_ok ok
  exact sells_calls _

end Rows

/-! ### Payments -/

section Transactions

variable {now : Time} {db after : DB}

theorem prepare_sells {showId : ShowId} {tierId : TierId} {viewerTokenHash keyHash : Hash}
    {payerUserId : Option UserId} {stripeCustomerId : Option StripeId}
    (ok : prepare db showId tierId viewerTokenHash keyHash payerUserId stripeCustomerId = .ok after) :
    Sells db after := by
  unfold prepare at ok
  split at ok
  · rename_i hotline tier host found
    split at ok
    · cases ok
    · rename_i fits
      split at ok
      · cases ok
      · rename_i live
        split at ok
        · cases ok
        · rename_i paid
          split at ok
          · split at ok
            · cases ok
            · obtain rfl := Except.ok.inj ok
              exact .refl _
          · obtain rfl := Except.ok.inj ok
            refine sells_attempts (.insert (fun _ => Recharges.refl) _ ?_)
            rw [not_or, not_not, not_not] at fits
            have begun : hotline.status ≠ .created := by
              rw [not_not.mp live]
              decide
            exact ⟨tier, ⟨found, fits.1, fits.2, hotline, host, begun⟩, Nat.pos_of_ne_zero paid,
              rfl⟩
  · cases ok

theorem attachIntent_sells {attemptId : AttemptId} {intentId : StripeId}
    (ok : attachIntent db attemptId intentId = .ok after) : Sells db after := by
  unfold attachIntent at ok
  split at ok
  · cases ok
  · split at ok
    · cases ok
    · split at ok
      · cases ok
      · obtain rfl := Except.ok.inj ok
        exact sells_attempt attemptId fun _ => rfl

theorem markAuthorized_sells (attemptId : AttemptId) :
    Sells db (markAuthorized now db attemptId) := by
  refine sells_attempt attemptId fun attempt => ?_
  split
  · rfl
  · rfl

theorem markCanceled_sells (attemptId : AttemptId) : Sells db (markCanceled now db attemptId) := by
  refine sells_attempt attemptId fun attempt => ?_
  split
  · rfl
  · rfl

/-! ### Joining and leaving -/

theorem tierForJoin_ok {showId : ShowId} {asked : Option TierId} {tierId : TierId} {tier : ShowTier}
    (ok : tierForJoin db showId asked = .ok (tierId, tier)) :
    db.showTiers.get tierId = some tier ∧ tier.showId = showId ∧ tier.enabled = true := by
  unfold tierForJoin at ok
  split at ok
  · split at ok
    · cases ok
    · rename_i first rest sorted
      obtain rfl := Except.ok.inj ok
      have member := (List.mem_insertionSort
        (fun a b : TierId × ShowTier => b.2.priorityRank ≤ a.2.priorityRank)).mp
          (sorted ▸ List.mem_cons_self : (tierId, tier) ∈ _)
      obtain ⟨present, matched⟩ := (Table.mem_query _ _ _ _).mp member
      simp only [Bool.and_eq_true, beq_iff_eq] at matched
      exact ⟨present, matched.1, matched.2⟩
  · split at ok
    · cases ok
    · rename_i found
      split at ok
      · rename_i fits
        obtain ⟨rfl, rfl⟩ := Prod.mk.inj (Except.ok.inj ok)
        exact ⟨found, fits.1, fits.2⟩
      · cases ok

theorem claimPayment_sells {payment : Option AttemptId} {entryId : EntryId}
    (ok : claimPayment db payment entryId = .ok after) : Sells db after := by
  unfold claimPayment at ok
  split at ok
  · obtain rfl := Except.ok.inj ok
    exact .refl _
  · split at ok
    · cases ok
    · split at ok
      · cases ok
      · split at ok
        · cases ok
        · obtain rfl := Except.ok.inj ok
          exact sells_attempt _ fun _ => rfl

theorem join_sells {input : JoinInput} {joinedId : EntryId}
    (ok : join now db input = .ok (after, joinedId)) : Sells db after := by
  unfold join at ok
  split at ok
  · cases ok
  · rename_i hotline host
    split at ok
    · cases ok
    · rename_i live
      obtain ⟨⟨tierId, tier⟩, chosen, ok⟩ := bind_ok ok
      obtain ⟨payment, _, ok⟩ := bind_ok ok
      obtain ⟨found, inShow, enabled⟩ := tierForJoin_ok chosen
      have begun : hotline.status ≠ .created := by
        rw [not_not.mp live]
        decide
      have offered : (joinedEntry now db input tierId tier payment).booking.Offered db :=
        ⟨tier, ⟨found, inShow, enabled, hotline, host, begun⟩, rfl, rfl, rfl, rfl⟩
      split at ok
      · rename_i entryId existing located
        obtain ⟨present, mine⟩ := existingEntry_some located
        split at ok
        · obtain ⟨moved, updated, ok⟩ := bind_ok ok
          obtain ⟨rfl, rfl⟩ := Prod.mk.inj (Except.ok.inj ok)
          exact sells_entry updated fun _ => rfl
        · split at ok
          · obtain ⟨moved, updated, ok⟩ := bind_ok ok
            obtain ⟨claimed, claims, ok⟩ := bind_ok ok
            obtain ⟨rfl, rfl⟩ := Prod.mk.inj (Except.ok.inj ok)
            obtain ⟨rfl, _⟩ := updateEntry_ok updated
            refine .trans ?_
              ((sells_position (db.nextPosition + 1)).trans (claimPayment_sells claims))
            refine sells_entries (.patch (fun _ => .refl db) fun entry there => Or.inr ?_)
            obtain rfl := Option.some.inj (present.symm.trans there)
            obtain ⟨tier', offers, rest⟩ := offered
            refine ⟨tier', ?_, rest⟩
            show db.Offers existing.showId tierId tier'
            rw [mine]
            exact offers
          · obtain ⟨rfl, rfl⟩ := Prod.mk.inj (Except.ok.inj ok)
            exact .refl _
      · obtain ⟨inserted, inserts, ok⟩ := bind_ok ok
        obtain ⟨claimed, claims, ok⟩ := bind_ok ok
        obtain ⟨rfl, rfl⟩ := Prod.mk.inj (Except.ok.inj ok)
        obtain ⟨rfl, _⟩ := insertQueueEntry_ok inserts
        refine .trans ?_ ((sells_position (db.nextPosition + 1)).trans (claimPayment_sells claims))
        exact sells_entries (.insert (fun _ => .refl db) _ offered)

theorem leave_sells {showId : ShowId} {sessionTokenHash : Hash}
    (ok : leave now db showId sessionTokenHash = .ok after) : Sells db after := by
  unfold leave at ok
  split at ok
  · cases ok
  · split at ok
    · obtain rfl := Except.ok.inj ok
      exact .refl _
    · split at ok
      · cases ok
      · exact sells_entry ok fun _ => rfl

/-! ### Calls -/

theorem select_sells {showId : ShowId} {creatorId : UserId} {choice : Choice}
    {reservation : Option Reservation}
    (ok : select now db showId creatorId choice = .ok (after, reservation)) : Sells db after := by
  unfold select at ok
  split at ok
  · cases ok
  · split at ok
    · cases ok
    · split at ok
      · cases ok
      · split at ok
        · cases ok
        · dsimp only at ok
          split at ok
          · split at ok
            · cases ok
            · cases ok
          · split at ok
            · unfold selectPaid at ok
              split at ok
              · cases ok
              · split at ok
                · cases ok
                · split at ok
                  · cases ok
                  · obtain ⟨middle, called, ok⟩ := bind_ok ok
                    obtain ⟨rfl, rfl⟩ := Prod.mk.inj (Except.ok.inj ok)
                    exact (sells_insertCall called).trans (sells_attempt _ fun _ => rfl)
            · obtain ⟨middle, moved, ok⟩ := bind_ok ok
              obtain ⟨final, called, ok⟩ := bind_ok ok
              obtain ⟨rfl, rfl⟩ := Prod.mk.inj (Except.ok.inj ok)
              exact (sells_entry moved fun _ => rfl).trans (sells_insertCall called)

theorem failPaidSelection_sells {callId : CallId} {attemptId : AttemptId}
    (ok : failPaidSelection now db callId attemptId = .ok after) : Sells db after := by
  unfold failPaidSelection at ok
  dsimp only at ok
  have first : Sells db (updateAttempt (updateCall db callId (failPending now)) attemptId
      failCapture) := by
    refine (sells_calls _).trans (sells_attempt attemptId fun attempt => ?_)
    unfold failCapture
    split
    · rfl
    · rfl
  split at ok
  · cases ok
  · split at ok
    · cases ok
    · split at ok
      · cases ok
      · exact first.trans (sells_entry ok fun _ => rfl)

theorem completePaidSelection_sells {r : Reservation}
    (ok : completePaidSelection now db r = .ok after) : Sells db after := by
  unfold completePaidSelection at ok
  split at ok
  · cases ok
  · dsimp only at ok
    have first : Sells db (updateAttempt db r.attemptId (takeCapture now)) := by
      refine sells_attempt r.attemptId fun attempt => ?_
      unfold takeCapture
      split
      · rfl
      · rfl
    split at ok
    · obtain rfl := Except.ok.inj ok
      exact first.trans (sells_calls _)
    · obtain ⟨middle, moved, ok⟩ := bind_ok ok
      have second : Sells _ middle := sells_entry moved fun entry => by
        unfold seatWaiting
        split
        · rfl
        · rfl
      split at ok
      · cases ok
      · split at ok
        · cases ok
        · obtain rfl := Except.ok.inj ok
          exact (first.trans second).trans (sells_calls _)

theorem applyTransition_sells {callId : CallId} {call : Call} {target : CallStatus}
    (ok : applyTransition now db callId call target = .ok after) : Sells db after := by
  unfold applyTransition at ok
  split at ok
  · cases ok
  · dsimp only at ok
    exact (sells_calls _).trans (sells_entry ok fun _ => rfl)

theorem transition_sells {showId : ShowId} {callId : CallId} {party : Party} {target : CallStatus}
    (ok : transition now db showId callId party target = .ok after) : Sells db after := by
  unfold transition at ok
  split at ok
  · cases ok
  · split at ok
    · obtain rfl := Except.ok.inj ok
      exact .refl _
    · exact applyTransition_sells ok

theorem expireEach_sells {target : CallStatus} {due : List (CallId × Call)} {db after : DB}
    (ok : expireEach now target due db = .ok after) : Sells db after := by
  induction due generalizing db with
  | nil =>
      obtain rfl := Except.ok.inj ok
      exact .refl _
  | cons row rest ih =>
      obtain ⟨middle, applied, ok⟩ := bind_ok ok
      exact (applyTransition_sells applied).trans (ih ok)

theorem expireDisconnected_sells {grace : Time} {limit : Nat}
    (ok : expireDisconnected now db grace limit = .ok after) : Sells db after :=
  expireEach_sells ok

theorem expireDue_sells {limit : Nat} (ok : expireDue now db limit = .ok after) : Sells db after :=
  expireEach_sells ok

/-! ### Webhooks -/

theorem reconcile_sells {intentId : StripeId} {outcome : Outcome} {failureCode : Option String}
    (ok : reconcile now db intentId outcome failureCode = .ok after) : Sells db after := by
  have notCaptured {attemptId : AttemptId} {status : PaymentStatus}
      (ok : reconcileNotCaptured now db attemptId status failureCode = .ok after) :
      Sells db after := by
    unfold reconcileNotCaptured at ok
    dsimp only at ok
    have first : Sells db (updateAttempt db attemptId fun a =>
        { a with
          status
          failureCode
          canceledAt :=
            if status = .canceled then some (a.canceledAt.getD now) else a.canceledAt }) :=
      sells_attempt attemptId fun _ => rfl
    split at ok
    · obtain rfl := Except.ok.inj ok
      exact first.trans (sells_calls _)
    · exact (first.trans (sells_calls _)).trans (sells_entry ok fun _ => rfl)
  unfold reconcile at ok
  split at ok
  · cases ok
  · rename_i attemptId attempt _
    split at ok
    · obtain rfl := Except.ok.inj ok
      exact .refl _
    · split at ok
      · split at ok
        · cases ok
        · unfold reconcileCaptured at ok
          dsimp only at ok
          have first : Sells db (updateAttempt db attemptId fun a =>
              { a with status := .captured, capturedAt := some (a.capturedAt.getD now) }) :=
            sells_attempt attemptId fun _ => rfl
          split at ok
          · obtain rfl := Except.ok.inj ok
            exact first
          · split at ok
            · obtain rfl := Except.ok.inj ok
              exact first
            · split at ok
              · refine (first.trans (sells_calls _)).trans (sells_entry ok fun entry => ?_)
                split
                · rfl
                · rfl
              · obtain ⟨middle, moved, ok⟩ := bind_ok ok
                obtain rfl := Except.ok.inj ok
                exact (first.trans (sells_entry moved fun _ => rfl)).trans (sells_calls _)
      · exact notCaptured ok
      · exact notCaptured ok

/-! ### The end of a show -/

theorem endShow_sells {showId : ShowId} {creatorId : UserId}
    (ok : endShow now db showId creatorId = .ok after) : Sells db after := by
  unfold endShow at ok
  split at ok
  · cases ok
  · rename_i hotline host
    split at ok
    · cases ok
    · split at ok
      · cases ok
      · obtain rfl := Except.ok.inj ok
        exact .refl _
      · rename_i live
        have ended := (Except.ok.inj ok).symm
        have tiers : after.showTiers = db.showTiers := by rw [ended]
        have goes : Table.Follow (fun _ => Show.Goes) (fun _ => False) db.shows after.shows := by
          rw [ended]
          exact Table.Follow.patch_row
            (f := fun s : Show => { s with status := .ended, endedAt := some now })
            (fun _ => Show.goes_refl) host ⟨rfl, rfl, Or.inr ⟨live, rfl⟩⟩
        have charges (attemptId : AttemptId) (attempt : PaymentAttempt)
            (found : db.paymentAttempts.get attemptId = some attempt) :
            ∃ later, after.paymentAttempts.get attemptId = some later ∧
              later.charge = attempt.charge := by
          rw [ended]
          exact ⟨attempt, found, rfl⟩
        refine ⟨tiers, goes, charges, fun booked => ⟨?_, ?_⟩⟩
        · intro entryId entry found
          have origin : ∃ before, db.queueEntries.get entryId = some before ∧
              entry.booking = before.booking := by
            rw [ended] at found
            obtain ⟨before, present, rfl⟩ :=
              Option.map_eq_some_iff.mp ((Table.get_patchWhere _ _ _ entryId).symm.trans found)
            refine ⟨before, present, ?_⟩
            split
            · rfl
            · rfl
          obtain ⟨before, present, same⟩ := origin
          obtain ⟨tier, offers, rest⟩ := booked.entries entryId before present
          rw [same]
          exact ⟨tier, offers_congr tiers goes offers, rest⟩
        · intro attemptId attempt found
          rw [ended] at found
          obtain ⟨tier, offers, rest⟩ := booked.attempts attemptId attempt found
          exact ⟨tier, offers_congr tiers goes offers, rest⟩

end Transactions

/-! ### Any step -/

theorem State.commit_sells {s : State} {result : Except ApiError DB}
    (each : ∀ after, result = .ok after → Sells s.db after) : Sells s.db (s.commit result).db := by
  cases outcome : result with
  | error _ => exact .refl _
  | ok after => exact each after outcome

theorem State.step_sells (s : State) (input : Time × Op) : Sells s.db (s.step input).db := by
  obtain ⟨now, op⟩ := input
  cases op with
  | prepare showId tierId viewerTokenHash keyHash payerUserId stripeCustomerId =>
      exact State.commit_sells fun _ ok => prepare_sells ok
  | attachIntent attemptId intentId => exact State.commit_sells fun _ ok => attachIntent_sells ok
  | markAuthorized attemptId => exact markAuthorized_sells attemptId
  | markCanceled attemptId => exact markCanceled_sells attemptId
  | join input =>
      refine State.commit_sells fun after ok => ?_
      cases joined : join now s.db input with
      | error reason =>
          rw [joined] at ok
          cases ok
      | ok result =>
          rw [joined] at ok
          obtain rfl := Except.ok.inj ok
          exact join_sells joined
  | leave showId sessionTokenHash => exact State.commit_sells fun _ ok => leave_sells ok
  | select showId creatorId choice =>
      simp only [State.step]
      split
      · exact .refl _
      · rename_i ok
        exact select_sells ok
      · rename_i ok
        exact select_sells ok
  | complete r =>
      simp only [State.step]
      split
      · exact State.commit_sells (s := ⟨s.db, s.reservations.erase r⟩)
          fun _ ok => completePaidSelection_sells ok
      · exact .refl _
  | fail r =>
      simp only [State.step]
      split
      · exact State.commit_sells (s := ⟨s.db, s.reservations.erase r⟩)
          fun _ ok => failPaidSelection_sells ok
      · exact .refl _
  | pending r => exact .refl _
  | transition showId callId party target =>
      exact State.commit_sells fun _ ok => transition_sells ok
  | expireDisconnected grace limit =>
      exact State.commit_sells fun _ ok => expireDisconnected_sells ok
  | expireDue limit => exact State.commit_sells fun _ ok => expireDue_sells ok
  | markParticipant callId role gone => exact sells_calls _
  | reconcile intentId outcome failureCode =>
      exact State.commit_sells fun _ ok => reconcile_sells ok
  | endShow showId creatorId => exact State.commit_sells fun _ ok => endShow_sells ok

end Bling.Api
