import Bling.Linked

set_option autoImplicit false

namespace Bling

open Library

/-! A queue entry and the hold that pays for it point to each other. -/

/-! ### Holds -/

/-- What an attempt was made for never changes, nor does the entry it has once
been used for. -/
structure SameHold (before after : PaymentAttempt) : Prop where
  showId : after.showId = before.showId
  tierId : after.tierId = before.tierId
  payerId : after.payerId = before.payerId
  amountCents : after.amountCents = before.amountCents
  queueEntryId : ∀ entryId, before.queueEntryId = some entryId → after.queueEntryId = some entryId

theorem SameHold.refl (attempt : PaymentAttempt) : SameHold attempt attempt :=
  ⟨rfl, rfl, rfl, rfl, fun _ => id⟩

abbrev HoldsFollow : Table PaymentAttempt → Table PaymentAttempt → Prop :=
  Table.Follow (fun _ => SameHold) fun b => b.queueEntryId = none

/-- A usable attempt is one for this seat, whose pointer is free or the seat's. -/
theorem usableAttempt_terms {attempt : PaymentAttempt} {viewerId : UserId} {showId : ShowId}
    {tierId : TierId} {tier : ShowTier} {existing : Option EntryId}
    (usable : usableAttempt attempt viewerId showId tierId tier existing = true) :
    attempt.payerId = viewerId ∧ attempt.showId = showId ∧ attempt.tierId = tierId ∧
      attempt.amountCents = tier.priceCents ∧ attempt.status = .authorized ∧
      (attempt.queueEntryId = none ∨ attempt.queueEntryId = existing) := by
  simp only [usableAttempt, Bool.and_eq_true, Bool.or_eq_true, beq_iff_eq] at usable
  obtain ⟨⟨⟨⟨⟨payer, inShow⟩, ofTier⟩, amount⟩, authorized⟩, free⟩ := usable
  exact ⟨payer, inShow, ofTier, amount, authorized, free⟩

theorem Effect.holds {ctx : Ctx} {db after : DB} {m : Mutation} (effect : Effect ctx db m after) :
    HoldsFollow db.paymentAttempts after.paymentAttempts := by
  have stays (_ : AttemptId) (a : PaymentAttempt) : SameHold a a := .refl a
  cases effect with
  | joined viewerId args tierId tier existing attempt live found offered previous gone held paid
      same =>
      rw [same.paymentAttempts, enqueue_attempts]
      cases attempt with
      | none => exact .refl stays _
      | some row =>
          obtain ⟨present, usable⟩ := held row rfl
          refine .patch_row stays present ⟨rfl, rfl, rfl, rfl, ?_⟩
          intro entryId pointer
          obtain ⟨_, _, _, _, _, free⟩ := usableAttempt_terms usable
          rw [pointer] at free
          rcases free with none | here
          · cases none
          · dsimp only
            rw [← here, Option.getD_some]
  | selected showId hotline entryId entry mode attempt asked host live idle present inShow waiting
      held paid same =>
      rw [same.paymentAttempts, openCall_attempts]
      cases attempt with
      | none => exact .refl stays _
      | some row =>
          refine .patch stays ?_
          exact fun a _ => ⟨rfl, rfl, rfl, rfl, fun _ => id⟩
  | attemptAdded attempt tierId tier hotline found paid created detached unqueued amount fee same =>
      rw [same.paymentAttempts]
      exact .insert stays _ unqueued
  | intentAttached attemptId intentId attempt asked present detached same =>
      rw [same.paymentAttempts]
      dsimp only
      refine .patch stays ?_
      exact fun a _ => ⟨rfl, rfl, rfl, rfl, fun _ => id⟩
  | authorized attemptId attempt asked present created same =>
      rw [same.paymentAttempts]
      dsimp only
      refine .patch stays ?_
      exact fun a _ => ⟨rfl, rfl, rfl, rfl, fun _ => id⟩
  | captureNoted attemptId attempt capturedAt method asked present settled same =>
      rw [same.paymentAttempts]
      dsimp only
      refine .patch stays ?_
      exact fun a _ => ⟨rfl, rfl, rfl, rfl, fun _ => id⟩
  | callOpened attemptId attempt capturedAt method callId call asked present found pending live
      same =>
      rw [same.paymentAttempts]
      dsimp only
      refine .patch stays ?_
      exact fun a _ => ⟨rfl, rfl, rfl, rfl, fun _ => id⟩
  | callMissed attemptId attempt capturedAt method callId call asked present found unstarted isOver
      pending same =>
      rw [same.paymentAttempts]
      dsimp only
      refine .patch stays ?_
      exact fun a _ => ⟨rfl, rfl, rfl, rfl, fun _ => id⟩
  | chargeReturned attemptId attempt capturedAt method callId call asked present found unstarted
      isOver settled same =>
      rw [same.paymentAttempts]
      dsimp only
      refine .patch stays ?_
      exact fun a _ => ⟨rfl, rfl, rfl, rfl, fun _ => id⟩
  | notCaptured attemptId attempt status failureCode canceledAt calls queueEntries asked present
      uncaptured failed released same =>
      rw [same.paymentAttempts]
      dsimp only
      refine .patch stays ?_
      exact fun a _ => ⟨rfl, rfl, rfl, rfl, fun _ => id⟩
  | _ =>
      rename_i same
      exact .of_eq stays same.paymentAttempts

/-! ### Entries -/

/-- What an entry keeps but when its caller joins again. -/
structure SameSeat (before after : QueueEntry) : Prop where
  showId : after.showId = before.showId
  viewerId : after.viewerId = before.viewerId
  tierId : after.tierId = before.tierId
  tierPriceCents : after.tierPriceCents = before.tierPriceCents
  paymentAttemptId : after.paymentAttemptId = before.paymentAttemptId
  priorityRank : after.priorityRank = before.priorityRank

theorem SameSeat.refl (entry : QueueEntry) : SameSeat entry entry := ⟨rfl, rfl, rfl, rfl, rfl, rfl⟩

abbrev SameSeats : Table QueueEntry → Table QueueEntry → Prop :=
  Table.Follow (fun _ => SameSeat) fun _ => False

/-- A caller has joined, with what `joinQueue` has checked. -/
structure Joined (ctx : Ctx) (db after : DB) (viewerId : UserId) (args : JoinArgs)
    (tierId : TierId) (tier : ShowTier) (existing : Option (EntryId × QueueEntry))
    (attempt : Option (AttemptId × PaymentAttempt)) : Prop where
  live : showLive db args.showId = true
  found : db.showTiers.get tierId = some tier
  inShow : tier.showId = args.showId
  previous : entryForViewer db args.showId viewerId = existing
  gone : ∀ row, existing = some row → row.2.status = .left
  held : ∀ row, attempt = some row → db.paymentAttempts.get row.1 = some row.2 ∧
    usableAttempt row.2 viewerId args.showId tierId tier (existing.map Prod.fst) = true
  paid : attempt.isSome = decide (0 < tier.priceCents)
  same : SameCore (enqueue ctx db viewerId args tierId tier (existing.map Prod.fst)
    (attempt.map Prod.fst)).1 after

/-- Only joining changes who sits where, and for which hold. -/
theorem Effect.seats {ctx : Ctx} {db after : DB} {m : Mutation} (effect : Effect ctx db m after) :
    SameSeats db.queueEntries after.queueEntries ∨
      ∃ viewerId args tierId tier existing attempt,
        Joined ctx db after viewerId args tierId tier existing attempt := by
  have stays (_ : EntryId) (e : QueueEntry) : SameSeat e e := .refl e
  cases effect with
  | joined viewerId args tierId tier existing attempt live found offered previous gone held paid
      same =>
      exact Or.inr ⟨viewerId, args, tierId, tier, existing, attempt, live, found, offered.1,
        previous, gone, held, paid, same⟩
  | moved callId call target shows present allowed asked isOver same =>
      rw [same.queueEntries]
      dsimp only
      refine Or.inl (.patch stays ?_)
      exact fun e _ => ⟨rfl, rfl, rfl, rfl, rfl, rfl⟩
  | queueClosed showId queueEntries asked each same =>
      rw [same.queueEntries]
      refine Or.inl ⟨?_, ?_⟩
      · intro id entry found
        rcases each id with unchanged | ⟨other, present, _, _, closed⟩
        · exact ⟨entry, unchanged.trans found, .refl entry⟩
        · obtain rfl := Option.some.inj (found.symm.trans present)
          exact ⟨_, closed, rfl, rfl, rfl, rfl, rfl, rfl⟩
      · intro id entry found
        rcases each id with unchanged | ⟨other, present, _, _, closed⟩
        · exact Or.inl ⟨entry, unchanged.symm.trans found, .refl entry⟩
        · obtain rfl := Option.some.inj (closed.symm.trans found)
          exact Or.inl ⟨other, present, rfl, rfl, rfl, rfl, rfl, rfl⟩
  | left entryId entry asked present waiting same =>
      rw [same.queueEntries]
      dsimp only
      refine Or.inl (.patch stays ?_)
      exact fun e _ => ⟨rfl, rfl, rfl, rfl, rfl, rfl⟩
  | selected showId hotline entryId entry mode attempt asked host live idle present inShow waiting
      held paid same =>
      rw [same.queueEntries, openCall_entries]
      refine Or.inl (.patch stays ?_)
      exact fun e _ => ⟨rfl, rfl, rfl, rfl, rfl, rfl⟩
  | callMissed attemptId attempt capturedAt method callId call asked present found unstarted isOver
      pending same =>
      rw [same.queueEntries]
      dsimp only
      refine Or.inl (.patch stays ?_)
      exact fun e _ => ⟨rfl, rfl, rfl, rfl, rfl, rfl⟩
  | notCaptured attemptId attempt status failureCode canceledAt calls queueEntries asked present
      uncaptured failed released same =>
      rw [same.queueEntries]
      dsimp only
      rcases released with ⟨unchanged, _⟩ | ⟨_, _, _, _, _, patched⟩
      · rw [unchanged]
        exact Or.inl (.refl stays _)
      · rw [patched]
        refine Or.inl (.patch stays ?_)
        exact fun e _ => ⟨rfl, rfl, rfl, rfl, rfl, rfl⟩
  | _ =>
      rename_i same
      exact Or.inl (.of_eq stays same.queueEntries)

/-- An entry that waits is not the one that has just stopped. -/
theorem waiting_patch {entries : Table QueueEntry} {entryId id : EntryId} {entry : QueueEntry}
    {isOver : QueueEntry → QueueEntry} {status : QueueStatus}
    (found : (entries.patch entryId isOver).get id = some entry) (waiting : entry.status = .waiting)
    (sets : ∀ e, (isOver e).status = status) (stops : status ≠ .waiting) :
    id ≠ entryId ∧ entries.get id = some entry := by
  rw [Table.get_patch] at found
  split at found
  · obtain ⟨e, _, rfl⟩ := Option.map_eq_some_iff.mp found
    exact absurd ((sets e).symm.trans waiting) stops
  · rename_i apart
    exact ⟨apart, found⟩

theorem entryStatusFor_not_waiting (target : CallStatus) : entryStatusFor target ≠ .waiting := by
  cases target <;> decide

/-- Unless they have just joined, whoever waits has waited before. -/
theorem Effect.waits {ctx : Ctx} {db after : DB} {m : Mutation} (effect : Effect ctx db m after) :
    (∀ id entry, after.queueEntries.get id = some entry → entry.status = .waiting →
      db.queueEntries.get id = some entry) ∨
      ∃ viewerId args tierId tier existing attempt,
        Joined ctx db after viewerId args tierId tier existing attempt := by
  cases effect with
  | joined viewerId args tierId tier existing attempt live found offered previous gone held paid
      same =>
      exact Or.inr ⟨viewerId, args, tierId, tier, existing, attempt, live, found, offered.1,
        previous, gone, held, paid, same⟩
  | moved callId call target shows present allowed asked isOver same =>
      refine Or.inl fun id entry found waiting => ?_
      rw [same.queueEntries] at found
      exact (waiting_patch found waiting (fun _ => rfl) (entryStatusFor_not_waiting target)).2
  | queueClosed showId queueEntries asked each same =>
      refine Or.inl fun id entry found waiting => ?_
      rw [same.queueEntries] at found
      rcases each id with unchanged | ⟨other, _, _, _, closed⟩
      · exact unchanged.symm.trans found
      · obtain rfl := Option.some.inj (closed.symm.trans found)
        cases waiting
  | left entryId entry asked present isWaiting same =>
      refine Or.inl fun id other found waiting => ?_
      rw [same.queueEntries] at found
      exact (waiting_patch found waiting (fun _ => rfl) (by decide)).2
  | selected showId hotline entryId entry mode attempt asked host live idle present inShow isWaiting
      held paid same =>
      refine Or.inl fun id other found waiting => ?_
      rw [same.queueEntries, openCall_entries] at found
      exact (waiting_patch found waiting (fun _ => rfl) (by decide)).2
  | callMissed attemptId attempt capturedAt method callId call asked present located unstarted isOver
      pending same =>
      refine Or.inl fun id entry found waiting => ?_
      rw [same.queueEntries] at found
      exact (waiting_patch found waiting (fun _ => rfl) (by decide)).2
  | notCaptured attemptId attempt status failureCode canceledAt calls queueEntries asked present
      uncaptured failed released same =>
      refine Or.inl fun id entry found waiting => ?_
      rw [same.queueEntries] at found
      dsimp only at found
      rcases released with ⟨unchanged, _⟩ | ⟨_, _, _, _, _, patched⟩
      · rw [unchanged] at found
        exact found
      · rw [patched] at found
        exact (waiting_patch found waiting (fun _ => rfl) (by decide)).2
  | _ =>
      rename_i same
      refine Or.inl fun id entry found _ => ?_
      rw [same.queueEntries] at found
      exact found

/-! ### Calls -/

/-- What a call keeps for ever. -/
structure SameCall (before after : Call) : Prop where
  showId : after.showId = before.showId
  queueEntryId : after.queueEntryId = before.queueEntryId
  creatorId : after.creatorId = before.creatorId
  viewerId : after.viewerId = before.viewerId
  paymentAttemptId : after.paymentAttemptId = before.paymentAttemptId

theorem SameCall.refl (call : Call) : SameCall call call := ⟨rfl, rfl, rfl, rfl, rfl⟩

/-- A new call is one with a waiting entry, and waits for its hold if it has one. -/
structure NewCall (db : DB) (call : Call) : Prop where
  entry : ∃ entry, db.queueEntries.get call.queueEntryId = some entry ∧
    entry.showId = call.showId ∧ entry.viewerId = call.viewerId ∧
    call.paymentAttemptId = (entryAttempt db entry).map Prod.fst
  unstarted : call.startedAt = none
  opens : call.status = .paymentPending ∨ call.status = .created

abbrev CallsFollow (db : DB) : Table Call → Table Call → Prop :=
  Table.Follow (fun _ => SameCall) (NewCall db)

theorem Effect.call_seats {ctx : Ctx} {db after : DB} {m : Mutation}
    (effect : Effect ctx db m after) : CallsFollow db db.calls after.calls := by
  have stays (_ : CallId) (c : Call) : SameCall c c := .refl c
  cases effect with
  | moved callId call target shows present allowed asked isOver same =>
      rw [same.calls]
      dsimp only
      refine .patch stays ?_
      exact fun c _ => ⟨rfl, rfl, rfl, rfl, rfl⟩
  | selected showId hotline entryId entry mode attempt asked host live idle present inShow waiting
      held paid same =>
      rw [same.calls, openCall_calls]
      refine .insert stays _ ⟨⟨entry, present, inShow, rfl, ?_⟩, rfl, ?_⟩
      · rw [held]
      · dsimp only
        split
        · exact Or.inl rfl
        · exact Or.inr rfl
  | callOpened attemptId attempt capturedAt method callId call asked present found pending live
      same =>
      rw [same.calls]
      dsimp only
      refine .patch stays ?_
      exact fun c _ => ⟨rfl, rfl, rfl, rfl, rfl⟩
  | callMissed attemptId attempt capturedAt method callId call asked present found unstarted isOver
      pending same =>
      rw [same.calls]
      dsimp only
      refine .patch stays ?_
      exact fun c _ => ⟨rfl, rfl, rfl, rfl, rfl⟩
  | notCaptured attemptId attempt status failureCode canceledAt calls queueEntries asked present
      uncaptured failed released same =>
      rw [same.calls]
      dsimp only
      rcases failed with ⟨unchanged, _⟩ | ⟨_, _, _, _, patched⟩
      · rw [unchanged]
        exact .refl stays _
      · rw [patched]
        refine .patch stays ?_
        exact fun c _ => ⟨rfl, rfl, rfl, rfl, rfl⟩
  | _ =>
      rename_i same
      exact .of_eq stays same.calls

/-! ### Who pays for what -/

/-- The attempt was paid by the entry's viewer for the entry's place, and points
back to it. -/
structure Backs (entryId : EntryId) (entry : QueueEntry) (attempt : PaymentAttempt) : Prop where
  payer : attempt.payerId = entry.viewerId
  inShow : attempt.showId = entry.showId
  ofTier : attempt.tierId = entry.tierId
  amount : attempt.amountCents = entry.tierPriceCents
  pointer : attempt.queueEntryId = some entryId

theorem Backs.follow {entryId : EntryId} {entry after : QueueEntry} {a b : PaymentAttempt}
    (backs : Backs entryId entry a) (hold : SameHold a b) (seat : SameSeat entry after) :
    Backs entryId after b := by
  constructor
  · rw [hold.payerId, seat.viewerId, backs.payer]
  · rw [hold.showId, seat.showId, backs.inShow]
  · rw [hold.tierId, seat.tierId, backs.ofTier]
  · rw [hold.amountCents, seat.tierPriceCents, backs.amount]
  · exact hold.queueEntryId entryId backs.pointer

/-- A paid entry has a hold, and an entry's hold backs it. -/
structure Seated (entries : Table QueueEntry) (attempts : Table PaymentAttempt) : Prop where
  paid : ∀ id entry, entries.get id = some entry → 0 < entry.tierPriceCents →
    ∃ attemptId, entry.paymentAttemptId = some attemptId
  backed : ∀ id entry attemptId, entries.get id = some entry →
    entry.paymentAttemptId = some attemptId →
    ∃ attempt, attempts.get attemptId = some attempt ∧ Backs id entry attempt

theorem Seated.empty : Seated .empty .empty := by
  constructor
  · intro id entry found
    cases found
  · intro id entry attemptId found
    cases found

/-- An attempt is the hold of at most one entry. -/
theorem Seated.one {entries : Table QueueEntry} {attempts : Table PaymentAttempt}
    (seated : Seated entries attempts) {i j : EntryId} {a b : QueueEntry} {attemptId : AttemptId}
    (first : entries.get i = some a) (second : entries.get j = some b)
    (holds : a.paymentAttemptId = some attemptId) (shares : b.paymentAttemptId = some attemptId) :
    i = j := by
  obtain ⟨x, present, backs⟩ := seated.backed i a attemptId first holds
  obtain ⟨y, found, also⟩ := seated.backed j b attemptId second shares
  obtain rfl := Option.some.inj (present.symm.trans found)
  exact Option.some.inj (backs.pointer.symm.trans also.pointer)

theorem Seated.follow {entries after : Table QueueEntry} {attempts later : Table PaymentAttempt}
    (seated : Seated entries attempts) (seats : SameSeats entries after)
    (holds : HoldsFollow attempts later) : Seated after later := by
  constructor
  · intro id entry found priced
    rcases seats.origin id entry found with ⟨before, present, seat⟩ | ⟨_, none⟩
    · rw [seat.tierPriceCents] at priced
      rw [seat.paymentAttemptId]
      exact seated.paid id before present priced
    · exact none.elim
  · intro id entry attemptId found held
    rcases seats.origin id entry found with ⟨before, present, seat⟩ | ⟨_, none⟩
    · rw [seat.paymentAttemptId] at held
      obtain ⟨a, located, backs⟩ := seated.backed id before attemptId present held
      obtain ⟨b, kept, hold⟩ := holds.kept attemptId a located
      exact ⟨b, kept, backs.follow hold seat⟩
    · exact none.elim

/-- The entries after a join: the caller's own row is the only one to change. -/
theorem enqueue_entries (ctx : Ctx) {db : DB} {viewerId : UserId} {args : JoinArgs}
    (tierId : TierId) (tier : ShowTier) {existing : Option (EntryId × QueueEntry)}
    (attempt : Option AttemptId)
    (previous : entryForViewer db args.showId viewerId = existing) :
    ∃ entryId entry,
      entryId = (existing.map Prod.fst).getD db.queueEntries.next ∧
      (enqueue ctx db viewerId args tierId tier (existing.map Prod.fst)
        attempt).1.queueEntries.get entryId = some entry ∧
      entry.showId = args.showId ∧ entry.viewerId = viewerId ∧ entry.tierId = tierId ∧
      entry.tierPriceCents = tier.priceCents ∧ entry.paymentAttemptId = attempt ∧
      entry.status = .waiting ∧
      ∀ id, id ≠ entryId → (enqueue ctx db viewerId args tierId tier (existing.map Prod.fst)
        attempt).1.queueEntries.get id = db.queueEntries.get id := by
  cases existing with
  | none =>
      refine ⟨db.queueEntries.next, _, rfl, Table.get_insert_next _ _, rfl, rfl, rfl, rfl, rfl, rfl,
        ?_⟩
      intro id apart
      exact (Table.get_insert _ _ _).trans (if_neg apart)
  | some row =>
      have present := (Table.first_row previous).1
      refine ⟨row.1, _, rfl, Table.get_patch_self present _, rfl, rfl, rfl, rfl, rfl, rfl, ?_⟩
      intro id apart
      exact Table.get_patch_of_ne apart _ _

theorem Seated.join {ctx : Ctx} {db after : DB} {viewerId : UserId} {args : JoinArgs}
    {tierId : TierId} {tier : ShowTier} {existing : Option (EntryId × QueueEntry)}
    {attempt : Option (AttemptId × PaymentAttempt)}
    (seated : Seated db.queueEntries db.paymentAttempts)
    (joined : Joined ctx db after viewerId args tierId tier existing attempt)
    (holds : HoldsFollow db.paymentAttempts after.paymentAttempts) :
    Seated after.queueEntries after.paymentAttempts := by
  obtain ⟨entryId, entry, named, present, inShow, ofViewer, ofTier, price, hold, _, others⟩ :=
    enqueue_entries ctx tierId tier (attempt.map Prod.fst) joined.previous
  rw [← joined.same.queueEntries] at present others
  constructor
  · intro id other found priced
    by_cases here : id = entryId
    · rw [here, present] at found
      obtain rfl := Option.some.inj found
      rw [price] at priced
      have some_ : attempt.isSome = true := joined.paid.trans (decide_eq_true priced)
      obtain ⟨row, rfl⟩ := Option.isSome_iff_exists.mp some_
      exact ⟨row.1, hold⟩
    · rw [others id here] at found
      exact seated.paid id other found priced
  · intro id other attemptId found held
    by_cases here : id = entryId
    · rw [here, present] at found
      obtain rfl := Option.some.inj found
      rw [hold] at held
      obtain ⟨row, rfl, rfl⟩ := Option.map_eq_some_iff.mp held
      obtain ⟨located, usable⟩ := joined.held row rfl
      obtain ⟨payer, forShow, forTier, amount, _, _⟩ := usableAttempt_terms usable
      have attempts := joined.same.paymentAttempts
      rw [enqueue_attempts] at attempts
      dsimp only [Option.map_some] at attempts
      refine ⟨{ row.2 with queueEntryId := some entryId }, ?_, ?_⟩
      · rw [attempts, named]
        exact Table.get_patch_self located _
      · refine ⟨payer.trans ofViewer.symm, forShow.trans inShow.symm, forTier.trans ofTier.symm,
          amount.trans price.symm, ?_⟩
        rw [here]
    · rw [others id here] at found
      obtain ⟨a, located, backs⟩ := seated.backed id other attemptId found held
      obtain ⟨b, kept, same⟩ := holds.kept attemptId a located
      exact ⟨b, kept, backs.follow same (.refl other)⟩

/-- The attempt that pays for a call points to the call's entry. -/
def CallsSeated (calls : Table Call) (attempts : Table PaymentAttempt) : Prop :=
  ∀ id call attemptId, calls.get id = some call → call.paymentAttemptId = some attemptId →
    ∃ a, attempts.get attemptId = some a ∧ a.queueEntryId = some call.queueEntryId

/-- Entries, calls and attempts point to each other as they should. -/
structure SeatsSound (db : DB) : Prop where
  seated : Seated db.queueEntries db.paymentAttempts
  calls : CallsSeated db.calls db.paymentAttempts

theorem SeatsSound.empty : SeatsSound .empty := by
  refine ⟨.empty, ?_⟩
  intro id call attemptId found
  cases found

theorem SeatsSound.effect {ctx : Ctx} {db after : DB} {m : Mutation} (sound : SeatsSound db)
    (effect : Effect ctx db m after) : SeatsSound after := by
  have holds := effect.holds
  constructor
  · rcases effect.seats with seats | ⟨viewerId, args, tierId, tier, existing, attempt, joined⟩
    · exact sound.seated.follow seats holds
    · exact sound.seated.join joined holds
  · intro id call attemptId found pays
    have paid : ∃ a, db.paymentAttempts.get attemptId = some a ∧
        a.queueEntryId = some call.queueEntryId := by
      rcases effect.call_seats.origin id call found with ⟨before, present, same⟩ | ⟨_, new⟩
      · rw [same.paymentAttemptId] at pays
        rw [same.queueEntryId]
        exact sound.calls id before attemptId present pays
      · obtain ⟨entry, present, _, _, hold⟩ := new.entry
        rw [hold] at pays
        obtain ⟨row, held, rfl⟩ := Option.map_eq_some_iff.mp pays
        obtain ⟨_, ofEntry, located⟩ := entryAttempt_present held
        obtain ⟨a, there, backs⟩ := sound.seated.backed _ entry row.1 present ofEntry
        exact ⟨a, there, backs.pointer⟩
    obtain ⟨a, present, pointer⟩ := paid
    obtain ⟨b, kept, hold⟩ := holds.kept attemptId a present
    exact ⟨b, kept, hold.queueEntryId _ pointer⟩

theorem SeatsSound.unscheduled : World.Unscheduled SeatsSound := fun _ _ =>
  ⟨fun sound => ⟨sound.seated, sound.calls⟩, fun sound => ⟨sound.seated, sound.calls⟩⟩

theorem SeatsSound.reached {w : World} (reached : World.Reached w) : SeatsSound w.db :=
  World.reached_keeps SeatsSound SeatsSound.unscheduled .empty
    (fun ctx db m sound => sound.effect (m.effect ctx db)) reached

end Bling
