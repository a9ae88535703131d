import Bling.Settlements

set_option autoImplicit false

namespace Bling

open Library

/-! What a dispute posts: at most one debit of the whole earning, and at most one release of it. -/

/-! ### The rows of disputes -/

/-- The dispute is recorded, and of this attempt. -/
def DisputeOf (disputes : Table PaymentDispute) (disputeId : StripeId) (attemptId : AttemptId) :
    Prop :=
  ∃ id row, disputes.get id = some row ∧ row.stripeDisputeId = disputeId ∧
    row.paymentAttemptId = some attemptId

def OneRowEach (disputes : Table PaymentDispute) : Prop :=
  ∀ i j a b, disputes.get i = some a → disputes.get j = some b →
    a.stripeDisputeId = b.stripeDisputeId → i = j

theorem existingDispute_some {db : DB} {event : DisputeEvent} {rowId : Nat} {row : PaymentDispute}
    (existing : existingDispute db event = some (rowId, row)) :
    db.paymentDisputes.get rowId = some row ∧ row.stripeDisputeId = event.id := by
  obtain ⟨present, matched⟩ := Table.first_some existing
  exact ⟨present, by simpa using matched⟩

theorem existingDispute_none {db : DB} {event : DisputeEvent}
    (unknown : existingDispute db event = none) {rowId : Nat} {row : PaymentDispute}
    (present : db.paymentDisputes.get rowId = some row) : row.stripeDisputeId ≠ event.id := by
  have unmatched := Table.first_none unknown present
  simpa using unmatched

theorem disputesAfter_one {db : DB} (one : OneRowEach db.paymentDisputes) (event : DisputeEvent) :
    OneRowEach (disputesAfter db event) := by
  intro i j a b first second same
  unfold disputesAfter at first second
  cases existing : existingDispute db event with
  | none =>
      rw [existing] at first second
      dsimp only at first second
      rcases Table.get_insert_row first with ⟨rfl, rfl⟩ | wasFirst
      · rcases Table.get_insert_row second with ⟨rfl, rfl⟩ | wasSecond
        · rfl
        · exact absurd same.symm (existingDispute_none existing wasSecond)
      · rcases Table.get_insert_row second with ⟨rfl, rfl⟩ | wasSecond
        · exact absurd same (existingDispute_none existing wasFirst)
        · exact one i j a b wasFirst wasSecond same
  | some found =>
      obtain ⟨rowId, row⟩ := found
      rw [existing] at first second
      dsimp only at first second
      obtain ⟨present, named⟩ := existingDispute_some existing
      rcases Table.get_patch_row present first with ⟨rfl, rfl⟩ | ⟨_, wasFirst⟩
      · rcases Table.get_patch_row present second with ⟨rfl, rfl⟩ | ⟨_, wasSecond⟩
        · rfl
        · exact one _ j row b present wasSecond (named.trans same)
      · rcases Table.get_patch_row present second with ⟨rfl, rfl⟩ | ⟨_, wasSecond⟩
        · exact one i _ a row wasFirst present (same.trans named.symm)
        · exact one i j a b wasFirst wasSecond same

/-- A dispute stays with its attempt. -/
theorem DisputeOf.after {db : DB} {disputeId : StripeId} {attemptId : AttemptId}
    (before : DisputeOf db.paymentDisputes disputeId attemptId) (event : DisputeEvent) :
    DisputeOf (disputesAfter db event) disputeId attemptId := by
  obtain ⟨id, row, present, named, of⟩ := before
  unfold disputesAfter
  cases existing : existingDispute db event with
  | none => exact ⟨id, row, Table.get_insert_of_some present _, named, of⟩
  | some found =>
      obtain ⟨rowId, other⟩ := found
      obtain ⟨located, known⟩ := existingDispute_some existing
      by_cases same : id = rowId
      · subst same
        obtain rfl := Option.some.inj (present.symm.trans located)
        refine ⟨id, disputeAfter db event, Table.get_patch_self located _,
          known.symm.trans named, ?_⟩
        simp only [disputeAfter, existing, Option.bind_some, of, Option.some_or]
      · exact ⟨id, row, (Table.get_patch_of_ne same _ _).trans present, named, of⟩

theorem disputeAfter_of {db : DB} {event : DisputeEvent} {attemptId : AttemptId}
    (of : (disputeAfter db event).paymentAttemptId = some attemptId) :
    DisputeOf (disputesAfter db event) event.id attemptId := by
  unfold disputesAfter
  cases existing : existingDispute db event with
  | none => exact ⟨_, _, Table.get_insert_next _ _, rfl, of⟩
  | some found =>
      obtain ⟨rowId, row⟩ := found
      obtain ⟨present, _⟩ := existingDispute_some existing
      exact ⟨rowId, _, Table.get_patch_self present _, rfl, of⟩

theorem DisputeOf.unique {disputes : Table PaymentDispute} (one : OneRowEach disputes)
    {disputeId : StripeId} {a b : AttemptId} (first : DisputeOf disputes disputeId a)
    (second : DisputeOf disputes disputeId b) : a = b := by
  obtain ⟨i, row, present, named, of⟩ := first
  obtain ⟨j, other, located, known, also⟩ := second
  obtain rfl := one i j row other present located (named.trans known.symm)
  obtain rfl := Option.some.inj (present.symm.trans located)
  exact Option.some.inj (of.symm.trans also)

/-! ### What an event does -/

theorem Mutation.disputeNews_event {db : DB} {m : Mutation} {dispute : DisputeEvent}
    (told : m.disputeNews db = some dispute) :
    ∃ event, m = .applyEvent event ∧ event.object = .dispute dispute ∧
      (db.stripeEvents.first fun e => e.stripeEventId == event.eventId).isSome = false := by
  unfold Mutation.disputeNews at told
  split at told
  · rename_i isNews
    obtain rfl := Option.some.inj told
    obtain ⟨applied, unseen⟩ := Mutation.news_event isNews
    exact ⟨_, applied, rfl, unseen⟩
  · cases told

theorem Mutation.apply_disputed (ctx : Ctx) {db : DB} {m : Mutation} {event : DisputeEvent}
    (asked : m.disputeNews db = some event) :
    (m.apply ctx db).paymentDisputes = disputesAfter db event ∧
      (m.apply ctx db).ledger = adjustForDispute ctx db.ledger (disputeAfter db event) := by
  obtain ⟨told, rfl, object, unseen⟩ := Mutation.disputeNews_event asked
  simp only [Mutation.apply, Bling.applyEvent, unseen, Bool.false_eq_true, if_false, object]
  exact ⟨rfl, rfl⟩

/-- The dispute that an entry's key names. -/
def LedgerKey.dispute : LedgerKey → Option StripeId
  | .disputeDebit disputeId | .disputeRelease disputeId => some disputeId
  | _ => none

/-- Without news of a dispute nothing is posted for one. -/
theorem Effect.undisputed {ctx : Ctx} {db after : DB} {m : Mutation}
    (effect : Effect ctx db m after) (quiet : m.disputeNews db = none) :
    after.paymentDisputes = db.paymentDisputes ∧
      PostsOnly (fun entry => entry.idempotencyKey.dispute = none) db.ledger after.ledger := by
  constructor
  · cases effect with
    | disputed event asked same =>
        rw [quiet] at asked
        cases asked
    | selected showId hotline entryId entry mode attempt asked host live idle present inShow waiting
        held paid same =>
        refine same.paymentDisputes.trans ?_
        cases attempt <;> rfl
    | _ =>
        rename_i same
        exact same.paymentDisputes
  · cases effect.ledger_change with
    | reserves posted =>
        refine posted.mono ?_
        rintro entry ⟨_, _, itemId, key⟩
        rw [key]
        rfl
    | credits callId call attemptId attempt asked present allowed calls pays held ledger =>
        rw [ledger]
        refine (creditEarning_only ..).mono ?_
        rintro entry rfl
        rfl
    | reverses refundId refund row succeeded ledger =>
        rw [ledger]
        refine (reverseForRefund_only ..).mono ?_
        intro entry reversal
        rw [reversal.key]
        rfl
    | adjusts event asked disputes ledger =>
        rw [quiet] at asked
        cases asked

/-! ### Debits and releases -/

def debitEntry (ctx : Ctx) (dispute : PaymentDispute) (attemptId : AttemptId)
    (earning : LedgerEntry) : LedgerEntry :=
  { creatorId := earning.creatorId
    kind := .disputeDebit
    amountCents := -earning.amountCents
    currency := earning.currency
    effectiveAt := ctx.now
    idempotencyKey := .disputeDebit dispute.stripeDisputeId
    paymentAttemptId := some attemptId
    callId := none
    payoutItemId := none
    metadata := some (.dispute dispute.stripeDisputeId dispute.status) }

def releaseEntry (ctx : Ctx) (dispute : PaymentDispute) (attemptId : AttemptId)
    (earning debit : LedgerEntry) : LedgerEntry :=
  { debitEntry ctx dispute attemptId earning with
    kind := .disputeRelease
    amountCents := -debit.amountCents
    idempotencyKey := .disputeRelease dispute.stripeDisputeId }

section Adjust

variable (ctx : Ctx) {ledger : Ledger} {dispute : PaymentDispute} {attemptId : AttemptId}
  {earning : LedgerEntry}

theorem adjustForDispute_open (of : dispute.paymentAttemptId = some attemptId)
    (credited : earningFor ledger attemptId = some earning)
    (isOpen : dispute.status ∈ disputeOpen) : adjustForDispute ctx ledger dispute =
      (postEntry ledger (debitEntry ctx dispute attemptId earning)).1 := by
  simp only [adjustForDispute, of, credited, if_pos isOpen]
  rfl

theorem adjustForDispute_resolved (of : dispute.paymentAttemptId = some attemptId)
    (credited : earningFor ledger attemptId = some earning)
    (resolved : dispute.status ∈ disputeResolved) :
    (adjustForDispute ctx ledger dispute = ledger ∧
      ¬ ledger.Posted (.disputeDebit dispute.stripeDisputeId)) ∨
    ∃ id debit, ledger.ledgerEntries.get id = some debit ∧
      debit.idempotencyKey = .disputeDebit dispute.stripeDisputeId ∧
      adjustForDispute ctx ledger dispute =
        (postEntry ledger (releaseEntry ctx dispute attemptId earning debit)).1 := by
  have closed : dispute.status ∉ disputeOpen :=
    fun isOpen => disputeOpen_not_resolved isOpen resolved
  cases found : ledger.ledgerEntries.first fun e =>
      e.idempotencyKey == .disputeDebit dispute.stripeDisputeId with
  | none =>
      refine Or.inl ⟨?_, (first_key_none_iff _ _).mp found⟩
      simp only [adjustForDispute, of, credited, if_neg closed, if_pos resolved, found]
  | some row =>
      obtain ⟨id, debit⟩ := row
      obtain ⟨present, matched⟩ := Table.first_some found
      refine Or.inr ⟨id, debit, present, by simpa using matched, ?_⟩
      simp only [adjustForDispute, of, credited, if_neg closed, if_pos resolved, found]
      rfl

theorem adjustForDispute_undecided (isOpen : dispute.status ∉ disputeOpen)
    (resolved : dispute.status ∉ disputeResolved) :
    adjustForDispute ctx ledger dispute = ledger := by
  unfold adjustForDispute
  split
  · rfl
  · split
    · rfl
    · rw [if_neg isOpen, if_neg resolved]

theorem adjustForDispute_uncredited
    (uncredited : ∀ attemptId, dispute.paymentAttemptId = some attemptId →
      earningFor ledger attemptId = none) : adjustForDispute ctx ledger dispute = ledger := by
  unfold adjustForDispute
  split
  · rfl
  · rename_i attemptId of
    rw [uncredited attemptId of]

end Adjust

/-! ### What the entries of disputes say -/

structure Adjusts (kind : LedgerKind) (attemptId : AttemptId) (amountCents : Int)
    (entry : LedgerEntry) : Prop where
  kind : entry.kind = kind
  attempt : entry.paymentAttemptId = some attemptId
  amount : entry.amountCents = amountCents

/-- The entry holds back all that the dispute's call has earned. -/
def DebitOf (db : DB) (disputeId : StripeId) (entry : LedgerEntry) : Prop :=
  ∃ attemptId earning, DisputeOf db.paymentDisputes disputeId attemptId ∧
    earningFor db.ledger attemptId = some earning ∧
    Adjusts .disputeDebit attemptId (-earning.amountCents) entry

/-- The entry gives back what a debit has held back. -/
def ReleaseOf (db : DB) (disputeId : StripeId) (entry : LedgerEntry) : Prop :=
  ∃ attemptId earning, DisputeOf db.paymentDisputes disputeId attemptId ∧
    earningFor db.ledger attemptId = some earning ∧
    Adjusts .disputeRelease attemptId earning.amountCents entry ∧
    db.ledger.Posted (.disputeDebit disputeId)

structure DisputesSound (db : DB) : Prop where
  one : OneRowEach db.paymentDisputes
  debit : ∀ id entry disputeId, db.ledger.ledgerEntries.get id = some entry →
    entry.idempotencyKey = .disputeDebit disputeId → DebitOf db disputeId entry
  release : ∀ id entry disputeId, db.ledger.ledgerEntries.get id = some entry →
    entry.idempotencyKey = .disputeRelease disputeId → ReleaseOf db disputeId entry

theorem DisputesSound.empty : DisputesSound .empty := by
  refine ⟨?_, ?_, ?_⟩
  · intro i j a b found
    cases found
  · intro id entry disputeId found
    cases found
  · intro id entry disputeId found
    cases found

theorem DisputesSound.grow {before after : DB} {kind : LedgerEntry → Prop}
    (sound : DisputesSound before) (one : OneRowEach after.paymentDisputes)
    (kept : ∀ disputeId attemptId, DisputeOf before.paymentDisputes disputeId attemptId →
      DisputeOf after.paymentDisputes disputeId attemptId)
    (posted : PostsOnly kind before.ledger after.ledger)
    (debit : ∀ entry disputeId, kind entry → entry.idempotencyKey = .disputeDebit disputeId →
      DebitOf after disputeId entry)
    (release : ∀ entry disputeId, kind entry → entry.idempotencyKey = .disputeRelease disputeId →
      ReleaseOf after disputeId entry) : DisputesSound after := by
  refine ⟨one, ?_, ?_⟩
  · intro id entry disputeId found key
    rcases posted.origin found with old | new
    · obtain ⟨attemptId, earning, of, credited, adjusts⟩ := sound.debit id entry disputeId old key
      exact ⟨attemptId, earning, kept disputeId attemptId of, posted.earningFor credited, adjusts⟩
    · exact debit entry disputeId new key
  · intro id entry disputeId found key
    rcases posted.origin found with old | new
    · obtain ⟨attemptId, earning, of, credited, adjusts, debited⟩ :=
        sound.release id entry disputeId old key
      exact ⟨attemptId, earning, kept disputeId attemptId of, posted.earningFor credited, adjusts,
        posted.posted debited⟩
    · exact release entry disputeId new key

/-- A debit of the dispute holds back the earning of the dispute's call. -/
theorem DisputesSound.debit_of {db : DB} (sound : DisputesSound db) {disputeId : StripeId}
    {attemptId : AttemptId} {earning debit : LedgerEntry} {disputes : Table PaymentDispute}
    (one : OneRowEach disputes)
    (kept : ∀ other, DisputeOf db.paymentDisputes disputeId other →
      DisputeOf disputes disputeId other)
    (of : DisputeOf disputes disputeId attemptId)
    (credited : earningFor db.ledger attemptId = some earning) {id : Nat}
    (present : db.ledger.ledgerEntries.get id = some debit)
    (key : debit.idempotencyKey = .disputeDebit disputeId) :
    Adjusts .disputeDebit attemptId (-earning.amountCents) debit := by
  obtain ⟨other, earned, ofOther, credit, adjusts⟩ := sound.debit id debit disputeId present key
  obtain rfl := (kept other ofOther).unique one of
  obtain rfl := Option.some.inj (credit.symm.trans credited)
  exact adjusts

theorem DisputesSound.mutation {db : DB} (sound : DisputesSound db) (ctx : Ctx) (m : Mutation) :
    DisputesSound (m.apply ctx db) := by
  cases asked : m.disputeNews db with
  | none =>
      obtain ⟨disputes, posted⟩ := (m.effect ctx db).undisputed asked
      refine sound.grow (disputes ▸ sound.one) (fun _ _ of => disputes ▸ of) posted ?_ ?_
      · intro entry disputeId apart key
        rw [key] at apart
        cases apart
      · intro entry disputeId apart key
        rw [key] at apart
        cases apart
  | some event =>
      obtain ⟨disputes, ledger⟩ := m.apply_disputed ctx asked
      have one := disputesAfter_one sound.one event
      have kept (disputeId : StripeId) (attemptId : AttemptId)
          (of : DisputeOf db.paymentDisputes disputeId attemptId) :
          DisputeOf (disputesAfter db event) disputeId attemptId := of.after event
      have still (same : adjustForDispute ctx db.ledger (disputeAfter db event) = db.ledger) :
          DisputesSound (m.apply ctx db) := by
        have posted : PostsOnly (fun _ => False) db.ledger (m.apply ctx db).ledger := by
          rw [ledger, same]
          exact .refl _ db.ledger
        refine sound.grow (disputes ▸ one) (disputes ▸ kept) posted ?_ ?_
        · intro entry disputeId none
          exact none.elim
        · intro entry disputeId none
          exact none.elim
      cases of : (disputeAfter db event).paymentAttemptId with
      | none =>
          apply still
          refine adjustForDispute_uncredited ctx ?_
          intro attemptId named
          rw [of] at named
          cases named
      | some attemptId =>
          have ofAttempt := disputeAfter_of of
          cases credited : earningFor db.ledger attemptId with
          | none =>
              apply still
              refine adjustForDispute_uncredited ctx ?_
              intro other named
              obtain rfl := Option.some.inj (of.symm.trans named)
              exact credited
          | some earning =>
              by_cases isOpen : (disputeAfter db event).status ∈ disputeOpen
              · rw [adjustForDispute_open ctx of credited isOpen] at ledger
                have posted : PostsOnly (fun entry => entry =
                    debitEntry ctx (disputeAfter db event) attemptId earning) db.ledger
                    (m.apply ctx db).ledger := by
                  rw [ledger]
                  exact .one db.ledger rfl
                refine sound.grow (disputes ▸ one) (disputes ▸ kept) posted ?_ ?_
                · rintro entry disputeId rfl key
                  obtain rfl := LedgerKey.disputeDebit.inj key
                  refine ⟨attemptId, earning, disputes ▸ ofAttempt, posted.earningFor credited, ?_⟩
                  exact ⟨rfl, rfl, rfl⟩
                · rintro entry disputeId rfl key
                  cases key
              · by_cases resolved : (disputeAfter db event).status ∈ disputeResolved
                · rcases adjustForDispute_resolved ctx of credited resolved with
                    ⟨same, _⟩ | ⟨id, debit, present, key, released⟩
                  · exact still same
                  · rw [released] at ledger
                    have adjusts := sound.debit_of one (kept _) ofAttempt credited present key
                    have posted : PostsOnly (fun entry => entry = releaseEntry ctx
                        (disputeAfter db event) attemptId earning debit) db.ledger
                        (m.apply ctx db).ledger := by
                      rw [ledger]
                      exact .one db.ledger rfl
                    refine sound.grow (disputes ▸ one) (disputes ▸ kept) posted ?_ ?_
                    · rintro entry disputeId rfl key
                      cases key
                    · rintro entry disputeId rfl same
                      obtain rfl := LedgerKey.disputeRelease.inj same
                      refine ⟨attemptId, earning, disputes ▸ ofAttempt,
                        posted.earningFor credited, ⟨rfl, rfl, ?_⟩,
                        posted.posted ⟨id, debit, present, key⟩⟩
                      show -debit.amountCents = earning.amountCents
                      rw [adjusts.amount, Int.neg_neg]
                · exact still (adjustForDispute_undecided ctx isOpen resolved)

theorem DisputesSound.unscheduled : World.Unscheduled DisputesSound := fun _ _ =>
  ⟨fun s => ⟨s.one, s.debit, s.release⟩, fun s => ⟨s.one, s.debit, s.release⟩⟩

theorem DisputesSound.reached {w : World} (reached : World.Reached w) : DisputesSound w.db :=
  World.reached_keeps DisputesSound unscheduled .empty
    (fun ctx _ m sound => sound.mutation ctx m) reached

end Bling
