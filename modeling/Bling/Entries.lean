import Bling.Balances
import Bling.Intents

set_option autoImplicit false

namespace Bling

open Library

/-! What the ledger holds about a paid call, whatever mutations run. -/

/-! ### Posts and what they leave alone -/

section Posts

variable {kind : LedgerEntry → Prop} {before after : Ledger}

theorem PostsOnly.mono {weaker : LedgerEntry → Prop} (posted : PostsOnly kind before after)
    (weakens : ∀ entry, kind entry → weaker entry) : PostsOnly weaker before after := by
  obtain ⟨entries, each, same⟩ := posted
  exact ⟨entries, fun entry member => weakens entry (each entry member), same⟩

/-- An invariant of one post is one of them all. -/
theorem PostsOnly.induct (posted : PostsOnly kind before after) (holds : Ledger → Prop)
    (start : holds before)
    (keeps : ∀ ledger entry, kind entry → holds ledger → holds (postEntry ledger entry).1) :
    holds after := by
  obtain ⟨entries, each, rfl⟩ := posted
  induction entries generalizing before with
  | nil => exact start
  | cons entry rest ih =>
      exact ih (keeps before entry (each entry List.mem_cons_self) start)
        fun other member => each other (List.mem_cons_of_mem _ member)

theorem PostsOnly.kept (posted : PostsOnly kind before after) {id : Nat} {entry : LedgerEntry}
    (present : before.ledgerEntries.get id = some entry) :
    after.ledgerEntries.get id = some entry := by
  refine posted.induct (fun ledger => ledger.ledgerEntries.get id = some entry) present ?_
  intro ledger other _ found
  rcases postEntry_cases ledger other with ⟨unchanged, _⟩ | ⟨entries, _, _⟩
  · rw [unchanged]
    exact found
  · rw [entries]
    exact Table.get_insert_of_some found other

theorem PostsOnly.origin (posted : PostsOnly kind before after) {id : Nat} {entry : LedgerEntry}
    (found : after.ledgerEntries.get id = some entry) :
    before.ledgerEntries.get id = some entry ∨ kind entry := by
  refine posted.induct (fun ledger => ∀ id entry, ledger.ledgerEntries.get id = some entry →
    before.ledgerEntries.get id = some entry ∨ kind entry) (fun _ _ => Or.inl) ?_ id entry found
  intro ledger other is origin id entry found
  rcases postEntry_cases ledger other with ⟨unchanged, _⟩ | ⟨entries, _, _⟩
  · rw [unchanged] at found
    exact origin id entry found
  · rw [entries, Table.get_insert] at found
    split at found
    · obtain rfl := Option.some.inj found
      exact Or.inr is
    · exact origin id entry found

theorem PostsOnly.posted (posted : PostsOnly kind before after) {key : LedgerKey}
    (was : before.Posted key) : after.Posted key := by
  obtain ⟨id, entry, present, is⟩ := was
  exact ⟨id, entry, posted.kept present, is⟩

/-- A key that no such entry has is posted only if it was. -/
theorem PostsOnly.posted_iff (posted : PostsOnly kind before after) {key : LedgerKey}
    (apart : ∀ entry, kind entry → entry.idempotencyKey ≠ key) :
    after.Posted key ↔ before.Posted key := by
  refine ⟨?_, posted.posted⟩
  rintro ⟨id, entry, found, is⟩
  rcases posted.origin found with present | new
  · exact ⟨id, entry, present, is⟩
  · exact absurd is (apart entry new)

/-- A sum that no such entry counts for stays as it is. -/
theorem PostsOnly.total (posted : PostsOnly kind before after) {counts : LedgerEntry → Bool}
    (apart : ∀ entry, kind entry → counts entry = false) :
    after.ledgerEntries.total counts LedgerEntry.amountCents =
      before.ledgerEntries.total counts LedgerEntry.amountCents := by
  refine posted.induct (fun ledger => ledger.ledgerEntries.total counts LedgerEntry.amountCents =
    before.ledgerEntries.total counts LedgerEntry.amountCents) rfl ?_
  intro ledger entry is same
  rcases postEntry_cases ledger entry with ⟨unchanged, _⟩ | ⟨entries, _, _⟩
  · rw [unchanged]
    exact same
  · rw [entries, Table.total_insert, apart entry is, same]
    exact Int.add_zero _

/-- A call's earning is found whatever is posted after it. -/
theorem PostsOnly.earningFor (posted : PostsOnly kind before after) {attemptId : AttemptId}
    {earning : LedgerEntry} (found : Bling.earningFor before attemptId = some earning) :
    Bling.earningFor after attemptId = some earning := by
  refine posted.induct (fun ledger => Bling.earningFor ledger attemptId = some earning) found ?_
  intro ledger entry _ found
  rcases postEntry_cases ledger entry with ⟨unchanged, _⟩ | ⟨entries, _, _⟩
  · rw [unchanged]
    exact found
  · obtain ⟨row, located, rfl⟩ := Option.map_eq_some_iff.mp found
    unfold Bling.earningFor
    rw [entries, Table.first_insert located]
    rfl

end Posts

/-! ### What each write posts -/

/-- The entry that credits a call. -/
def earningEntry (env : Env) (attemptId : AttemptId) (attempt : PaymentAttempt) (callId : CallId)
    (liveAt : Time) : LedgerEntry :=
  { creatorId := attempt.creatorId
    kind := .earning
    amountCents := attempt.amountCents - attempt.platformFeeCents
    currency := attempt.currency
    effectiveAt := liveAt + earningsHoldMs env
    idempotencyKey := .earning attemptId
    paymentAttemptId := some attemptId
    callId := some callId
    payoutItemId := none
    metadata := some (.earning attempt.amountCents attempt.platformFeeCents
      attempt.basicCardFeeCents attempt.creatorProcessingFeeCents) }

theorem creditEarning_only (env : Env) (ledger : Ledger) (attemptId : AttemptId)
    (attempt : PaymentAttempt) (callId : CallId) (liveAt : Time) :
    PostsOnly (fun entry => entry = earningEntry env attemptId attempt callId liveAt) ledger
      (creditEarning env ledger attemptId attempt callId liveAt) := by
  unfold creditEarning
  split
  · exact .one ledger rfl
  · exact .refl _ ledger

/-- An entry that takes back what the refund returns. -/
structure IsReversal (refundId : RefundId) (refund : PaymentRefund) (entry : LedgerEntry) :
    Prop where
  kind : entry.kind = .refundReversal
  key : entry.idempotencyKey = .refund refundId
  attempt : entry.paymentAttemptId = some refund.paymentAttemptId

theorem reverseForRefund_only (ctx : Ctx) (attempts : Table PaymentAttempt) (ledger : Ledger)
    (refundId : RefundId) (refund : PaymentRefund) :
    PostsOnly (IsReversal refundId refund) ledger
      (reverseForRefund ctx attempts ledger refundId refund) := by
  unfold reverseForRefund
  split
  · exact .refl _ ledger
  · dsimp only
    split
    · exact .refl _ ledger
    · exact .one ledger ⟨rfl, rfl, rfl⟩

/-- An entry that holds a dispute's amount back, or releases it. -/
structure IsAdjustment (dispute : PaymentDispute) (entry : LedgerEntry) : Prop where
  kind : entry.kind = .disputeDebit ∧ entry.idempotencyKey = .disputeDebit dispute.stripeDisputeId ∨
    entry.kind = .disputeRelease ∧ entry.idempotencyKey = .disputeRelease dispute.stripeDisputeId
  attempt : entry.paymentAttemptId = dispute.paymentAttemptId

theorem adjustForDispute_only (ctx : Ctx) (ledger : Ledger) (dispute : PaymentDispute) :
    PostsOnly (IsAdjustment dispute) ledger (adjustForDispute ctx ledger dispute) := by
  unfold adjustForDispute
  split
  · exact .refl _ ledger
  · rename_i attemptId disputes
    split
    · exact .refl _ ledger
    · split
      · exact .one ledger ⟨Or.inl ⟨rfl, rfl⟩, disputes.symm⟩
      · split
        · split
          · exact .refl _ ledger
          · exact .one ledger ⟨Or.inr ⟨rfl, rfl⟩, disputes.symm⟩
        · exact .refl _ ledger

/-- What a mutation does to the ledger, and what it does it for. -/
inductive LedgerChange (ctx : Ctx) (db : DB) (m : Mutation) (after : DB) : Prop
  | reserves (posted : PostsOnly IsReservation db.ledger after.ledger)
  | credits (callId : CallId) (call : Call) (attemptId : AttemptId) (attempt : PaymentAttempt)
      (asked : m.moves ctx db = some (callId, call, .live))
      (present : db.calls.get callId = some call)
      (allowed : canTransition call.status .live = true)
      (calls : after.calls = db.calls.patch callId (transitionPatch ctx .live))
      (pays : call.paymentAttemptId = some attemptId)
      (held : db.paymentAttempts.get attemptId = some attempt)
      (ledger : after.ledger = creditEarning ctx.env db.ledger attemptId attempt callId ctx.now)
  | reverses (refundId : RefundId) (refund : PaymentRefund)
      (row : after.paymentRefunds.get refundId = some refund)
      (succeeded : refund.status = .succeeded)
      (ledger : after.ledger =
        reverseForRefund ctx db.paymentAttempts db.ledger refundId refund)
  | adjusts (event : DisputeEvent) (asked : m.disputeNews db = some event)
      (disputes : after.paymentDisputes = disputesAfter db event)
      (ledger : after.ledger = adjustForDispute ctx db.ledger (disputeAfter db event))

/-- The success of a refund that an action records. -/
def Mutation.recordsSuccess : Mutation → Option RefundId
  | .recordRefund refundId _ .succeeded _ => some refundId
  | _ => none

/-- The refund whose success a mutation brings, and its row: as it was, or as it is recorded. -/
def Mutation.refundSuccess (ctx : Ctx) (db : DB) (m : Mutation) :
    Option (RefundId × PaymentRefund) :=
  match m.recordsSuccess, m.refundNews db with
  | some refundId, _ =>
    match db.paymentRefunds.get refundId with
    | some refund => if refund.status.final then none else some (refundId, refund)
    | none => none
  | none, some event =>
    if statusFromStripe event.status = .succeeded then (refundRow db event).or
      ((outsideRefund ctx db event).map fun refund => (db.paymentRefunds.next, refund))
    else none
  | none, none => none

theorem Mutation.refundSuccess_recorded {ctx : Ctx} {db : DB} {refundId : RefundId}
    {refund : PaymentRefund} (stripeRefundId : StripeId) (failureCode : Option String)
    (present : db.paymentRefunds.get refundId = some refund)
    (unsettled : refund.status.final = false) :
    (Mutation.recordRefund refundId stripeRefundId .succeeded failureCode).refundSuccess ctx db =
      some (refundId, refund) := by
  simp [Mutation.refundSuccess, Mutation.recordsSuccess, present, unsettled]

theorem Mutation.refundSuccess_news {ctx : Ctx} {db : DB} {m : Mutation} {event : RefundEvent}
    (news : m.refundNews db = some event) (succeeded : statusFromStripe event.status = .succeeded) :
    m.refundSuccess ctx db = (refundRow db event).or
      ((outsideRefund ctx db event).map fun refund => (db.paymentRefunds.next, refund)) := by
  have unrecorded : m.recordsSuccess = none := by
    cases m with
    | recordRefund refundId stripeRefundId status failureCode => cases news
    | _ => rfl
  unfold Mutation.refundSuccess
  rw [unrecorded, news]
  exact if_pos succeeded

/-- The same change, with the refund that a reversal is for. -/
inductive LedgerCause (ctx : Ctx) (db : DB) (m : Mutation) (after : DB) : Prop
  | reserves (posted : PostsOnly IsReservation db.ledger after.ledger)
  | credits (callId : CallId) (call : Call) (attemptId : AttemptId) (attempt : PaymentAttempt)
      (asked : m.moves ctx db = some (callId, call, .live))
      (present : db.calls.get callId = some call)
      (allowed : canTransition call.status .live = true)
      (calls : after.calls = db.calls.patch callId (transitionPatch ctx .live))
      (pays : call.paymentAttemptId = some attemptId)
      (held : db.paymentAttempts.get attemptId = some attempt)
      (ledger : after.ledger = creditEarning ctx.env db.ledger attemptId attempt callId ctx.now)
  | reverses (refundId : RefundId) (row refund : PaymentRefund)
      (asked : m.refundSuccess ctx db = some (refundId, row))
      (attempt : refund.paymentAttemptId = row.paymentAttemptId)
      (amount : refund.amountCents = row.amountCents)
      (succeeded : refund.status = .succeeded)
      (present : after.paymentRefunds.get refundId = some refund)
      (ledger : after.ledger =
        reverseForRefund ctx db.paymentAttempts db.ledger refundId refund)
  | adjusts (event : DisputeEvent) (asked : m.disputeNews db = some event)
      (disputes : after.paymentDisputes = disputesAfter db event)
      (ledger : after.ledger = adjustForDispute ctx db.ledger (disputeAfter db event))

theorem Effect.ledger_cause {ctx : Ctx} {db after : DB} {m : Mutation}
    (effect : Effect ctx db m after) : LedgerCause ctx db m after := by
  have unchanged (same : after.ledger = db.ledger) : LedgerCause ctx db m after :=
    .reserves (by rw [same]; exact .refl _ db.ledger)
  have settled {outcome : RefundOutcome} {refundId : RefundId} {refund : PaymentRefund}
      (row : PaymentRefund) (ledger : after.ledger = ledgerAfter ctx db outcome refundId refund)
      (status : refund.status = outcome.status)
      (asked : outcome = .succeeded → m.refundSuccess ctx db = some (refundId, row))
      (attempt : refund.paymentAttemptId = row.paymentAttemptId)
      (amount : refund.amountCents = row.amountCents)
      (present : after.paymentRefunds.get refundId = some refund) :
      LedgerCause ctx db m after := by
    unfold ledgerAfter at ledger
    split at ledger
    · rename_i succeeded
      rw [succeeded] at status
      exact .reverses refundId row refund (asked succeeded) attempt amount status present ledger
    · exact unchanged ledger
  cases effect with
  | moved callId call target shows present allowed asked isOver same =>
      have ledger := same.ledger
      dsimp only at ledger
      rcases goLive_ledger ctx db callId call target with
        still | ⟨rfl, _, attemptId, attempt, pays, held, credited⟩
      · exact unchanged (ledger.trans still)
      · exact .credits callId call attemptId attempt asked present allowed same.calls pays held
          (ledger.trans credited)
  | refundRecorded refundId refund stripeRefundId status failureCode asked present unsettled same =>
      refine settled refund same.ledger rfl ?_ rfl rfl ?_
      · rintro rfl
        rw [asked]
        exact Mutation.refundSuccess_recorded stripeRefundId failureCode present unsettled
      · rw [same.paymentRefunds]
        exact Table.get_patch_self present _
  | refundSettled event refundId refund asked matched present newer same =>
      refine settled refund same.ledger rfl ?_ rfl rfl ?_
      · intro succeeded
        rw [Mutation.refundSuccess_news asked succeeded, matched]
        rfl
      · rw [same.paymentRefunds]
        exact Table.get_patch_self present _
  | refundFound event refund asked unmatched outside same =>
      refine settled refund same.ledger rfl ?_ rfl rfl ?_
      · intro succeeded
        rw [Mutation.refundSuccess_news asked succeeded, unmatched, outside]
        rfl
      · rw [same.paymentRefunds]
        exact Table.get_insert_next _ _
  | disputed event asked same => exact .adjusts event asked same.paymentDisputes same.ledger
  | reserved runId payoutRun entries payoutItems payoutRuns cursor asked present each turns
      same => exact .reserves ⟨entries, each, same.ledger⟩
  | selected showId hotline entryId entry mode attempt asked host live idle present inShow waiting
      held paid same =>
      refine unchanged (same.ledger.trans ?_)
      cases attempt <;> rfl
  | _ =>
      rename_i same
      exact unchanged same.ledger

theorem Effect.ledger_change {ctx : Ctx} {db after : DB} {m : Mutation}
    (effect : Effect ctx db m after) : LedgerChange ctx db m after := by
  cases effect.ledger_cause with
  | reserves posted => exact .reserves posted
  | credits callId call attemptId attempt asked present allowed calls pays held ledger =>
      exact .credits callId call attemptId attempt asked present allowed calls pays held ledger
  | reverses refundId row refund asked attempt amount succeeded present ledger =>
      exact .reverses refundId refund present succeeded ledger
  | adjusts event asked disputes ledger => exact .adjusts event asked disputes ledger

end Bling
