import Bling.Fees

set_option autoImplicit false

namespace Bling

open Library

/-! The creator ledger, from `lib/ledger.ts`. -/

def hourMs : Time := 60 * 60000

/-- Earnings become available this long after the call goes live. -/
def earningsHoldMs (env : Env) : Time :=
  match env.creatorEarningsHoldHours with
  | some hours => (if 0 ≤ hours then hours.toNat else 168) * hourMs
  | none => 168 * hourMs

/-- Posts an entry unless its key already exists, and keeps the creator's
running total in step. Returns whether it was posted. -/
def postEntry (ledger : Ledger) (entry : LedgerEntry) : Ledger × Bool :=
  if entry.amountCents = 0 then (ledger, false)
  else match ledger.ledgerEntries.first fun e => e.idempotencyKey == entry.idempotencyKey with
    | some _ => (ledger, false)
    | none =>
      let creatorBalances :=
        match ledger.creatorBalances.first fun b =>
          b.creatorId == entry.creatorId && b.currency == entry.currency with
        | some (id, balance) => ledger.creatorBalances.patch id fun b =>
            { b with totalCents := balance.totalCents + entry.amountCents }
        | none => ledger.creatorBalances.insert
            { creatorId := entry.creatorId, currency := entry.currency,
              totalCents := entry.amountCents }
      ({ ledgerEntries := ledger.ledgerEntries.insert entry, creatorBalances }, true)

structure Balance where
  currency : String
  totalCents : Int
  pendingCents : Int
  availableCents : Int
deriving DecidableEq

/-- Total, held and available amounts at a moment. -/
def balanceAt (ledger : Ledger) (creatorId : UserId) (currency : String) (now : Time) : Balance :=
  let balance := ledger.creatorBalances.first fun b =>
    b.creatorId == creatorId && b.currency == currency
  let held := ledger.ledgerEntries.query fun e =>
    e.creatorId == creatorId && e.currency == currency && decide (now < e.effectiveAt)
  let totalCents := (balance.map fun row => row.2.totalCents).getD 0
  let pendingCents := (held.map fun row => row.2.amountCents).sum
  { currency, totalCents, pendingCents, availableCents := totalCents - pendingCents }

def earningFor (ledger : Ledger) (attemptId : AttemptId) : Option LedgerEntry :=
  (ledger.ledgerEntries.first fun e =>
    e.paymentAttemptId == some attemptId && e.kind == .earning).map Prod.snd

/-- A paid call went live: credit the creator their share, held for a week. -/
def creditEarning (env : Env) (ledger : Ledger) (attemptId : AttemptId) (attempt : PaymentAttempt)
    (callId : CallId) (liveAt : Time) : Ledger :=
  if attempt.status = .captured then
    (postEntry ledger
      { creatorId := attempt.creatorId
        kind := .earning
        amountCents := attempt.amountCents - attempt.platformFeeCents
        currency := attempt.currency
        effectiveAt := liveAt + earningsHoldMs env
        idempotencyKey := .earning attemptId
        paymentAttemptId := some attemptId
        callId := some callId
        payoutItemId := none
        metadata := some (.earning attempt.amountCents attempt.platformFeeCents
          attempt.basicCardFeeCents attempt.creatorProcessingFeeCents) }).1
  else ledger

/-- `Math.round(numerator / denominator)`: halves round up. -/
def mathRound (numerator denominator : Int) : Int :=
  (2 * numerator + denominator) / (2 * denominator)

/-- The part of an earning that a refund takes back: the same share of it as
the refund is of the payment. -/
def refundShare (attempt : Option PaymentAttempt) (earningCents : Int) (refundCents : Nat) : Int :=
  match attempt with
  | some attempt =>
    if refundCents < attempt.amountCents then
      mathRound (earningCents * refundCents) attempt.amountCents
    else earningCents
  | none => earningCents

/-- What other refunds of the attempt have taken back. -/
def reversedByOthers (ledger : Ledger) (attemptId : AttemptId) (refundId : RefundId) : Int :=
  -(((ledger.ledgerEntries.query fun e =>
      e.paymentAttemptId == some attemptId && e.kind == .refundReversal).filter fun row =>
        row.2.idempotencyKey != .refund refundId).map fun row => row.2.amountCents).sum

/-- A refund succeeded: take back the creator's share, if one was credited. -/
def reverseForRefund (ctx : Ctx) (attempts : Table PaymentAttempt) (ledger : Ledger)
    (refundId : RefundId) (refund : PaymentRefund) : Ledger :=
  match earningFor ledger refund.paymentAttemptId with
  | none => ledger
  | some earning =>
    let share := refundShare (attempts.get refund.paymentAttemptId) earning.amountCents
      refund.amountCents
    let reversed := reversedByOthers ledger refund.paymentAttemptId refundId
    let amount := min share (earning.amountCents - reversed)
    if amount ≤ 0 then ledger
    else (postEntry ledger
      { creatorId := earning.creatorId
        kind := .refundReversal
        amountCents := -amount
        currency := earning.currency
        effectiveAt := ctx.now
        idempotencyKey := .refund refundId
        paymentAttemptId := some refund.paymentAttemptId
        callId := some refund.callId
        payoutItemId := none
        metadata := some (.refund refund.stripeRefundId) }).1

def disputeOpen : List DisputeStatus :=
  [.needsResponse, .underReview, .lost, .warningNeedsResponse, .warningUnderReview]

def disputeResolved : List DisputeStatus := [.won, .warningClosed, .prevented]

/-- An open or lost dispute holds back the creator's share; a dispute Bling
wins releases it. Each happens at most once per dispute. -/
def adjustForDispute (ctx : Ctx) (ledger : Ledger) (dispute : PaymentDispute) : Ledger :=
  match dispute.paymentAttemptId with
  | none => ledger
  | some attemptId =>
    match earningFor ledger attemptId with
    | none => ledger
    | some earning =>
      if dispute.status ∈ disputeOpen then
        (postEntry ledger
          { creatorId := earning.creatorId
            kind := .disputeDebit
            amountCents := -earning.amountCents
            currency := earning.currency
            effectiveAt := ctx.now
            idempotencyKey := .disputeDebit dispute.stripeDisputeId
            paymentAttemptId := some attemptId
            callId := none
            payoutItemId := none
            metadata := some (.dispute dispute.stripeDisputeId dispute.status) }).1
      else if dispute.status ∈ disputeResolved then
        match ledger.ledgerEntries.first fun e =>
          e.idempotencyKey == .disputeDebit dispute.stripeDisputeId with
        | none => ledger
        | some (_, debit) =>
          (postEntry ledger
            { creatorId := earning.creatorId
              kind := .disputeRelease
              amountCents := -debit.amountCents
              currency := earning.currency
              effectiveAt := ctx.now
              idempotencyKey := .disputeRelease dispute.stripeDisputeId
              paymentAttemptId := some attemptId
              callId := none
              payoutItemId := none
              metadata := some (.dispute dispute.stripeDisputeId dispute.status) }).1
      else ledger

/-! ### What a post does -/

/-- A key that an entry of the ledger carries. -/
def Ledger.Posted (ledger : Ledger) (key : LedgerKey) : Prop :=
  ∃ id entry, ledger.ledgerEntries.get id = some entry ∧ entry.idempotencyKey = key

theorem posted_of_get {ledger : Ledger} {id : Nat} {entry : LedgerEntry}
    (present : ledger.ledgerEntries.get id = some entry) : ledger.Posted entry.idempotencyKey :=
  ⟨id, entry, present, rfl⟩

theorem first_key_none_iff (ledger : Ledger) (key : LedgerKey) :
    (ledger.ledgerEntries.first fun e => e.idempotencyKey == key) = none ↔ ¬ ledger.Posted key := by
  rw [Table.first_none_iff]
  simp only [beq_eq_false_iff_ne, Ledger.Posted, not_exists, not_and]

/-- A zero amount or a key already posted leaves the ledger alone. -/
theorem postEntry_skips {ledger : Ledger} {entry : LedgerEntry}
    (skips : entry.amountCents = 0 ∨ ledger.Posted entry.idempotencyKey) :
    (postEntry ledger entry).1 = ledger := by
  unfold postEntry
  split
  · rfl
  · rename_i nonzero
    split
    · rfl
    · rename_i absent
      exact absurd (skips.resolve_left nonzero) ((first_key_none_iff _ _).mp absent)

/-- Otherwise the entry is the only addition to the history. -/
theorem postEntry_entries {ledger : Ledger} {entry : LedgerEntry}
    (nonzero : entry.amountCents ≠ 0) (absent : ¬ ledger.Posted entry.idempotencyKey) :
    (postEntry ledger entry).1.ledgerEntries = ledger.ledgerEntries.insert entry := by
  unfold postEntry
  rw [if_neg nonzero, (first_key_none_iff _ _).mpr absent]

/-- The two outcomes of a post, for case analysis. -/
theorem postEntry_cases (ledger : Ledger) (entry : LedgerEntry) :
    ((postEntry ledger entry).1 = ledger ∧
      (entry.amountCents = 0 ∨ ledger.Posted entry.idempotencyKey)) ∨
    ((postEntry ledger entry).1.ledgerEntries = ledger.ledgerEntries.insert entry ∧
      entry.amountCents ≠ 0 ∧ ¬ ledger.Posted entry.idempotencyKey) := by
  by_cases skips : entry.amountCents = 0 ∨ ledger.Posted entry.idempotencyKey
  · exact Or.inl ⟨postEntry_skips skips, skips⟩
  · obtain ⟨nonzero, absent⟩ := not_or.mp skips
    exact Or.inr ⟨postEntry_entries nonzero absent, nonzero, absent⟩

theorem earningFor_some {ledger : Ledger} {attemptId : AttemptId} {earning : LedgerEntry}
    (found : earningFor ledger attemptId = some earning) :
    ∃ id, ledger.ledgerEntries.get id = some earning ∧
      earning.paymentAttemptId = some attemptId ∧ earning.kind = .earning := by
  obtain ⟨⟨id, entry⟩, located, rfl⟩ := Option.map_eq_some_iff.mp found
  obtain ⟨present, matched⟩ := Table.first_some located
  simp only [Bool.and_eq_true, beq_iff_eq] at matched
  exact ⟨id, present, matched.1, matched.2⟩

theorem disputeOpen_not_resolved {status : DisputeStatus} (isOpen : status ∈ disputeOpen) :
    status ∉ disputeResolved := by
  cases status <;> simp_all [disputeOpen, disputeResolved]

end Bling
