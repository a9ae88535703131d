import Bling.Entries
import Bling.TakeHome
import Mathlib.Data.Rat.Floor
import Mathlib.Algebra.BigOperators.Group.Finset.Basic
import Mathlib.Tactic.FieldSimp

set_option autoImplicit false

namespace Bling

open Library

/-! What the refunds of one call take back of its creator's earning. -/

/-! ### Rounding -/

/-- `mathRound` rounds the exact quotient, halves up. -/
theorem mathRound_eq_floor (numerator denominator : Int) (positive : 0 < denominator) :
    mathRound numerator denominator = ⌊(numerator : ℚ) / denominator + 1 / 2⌋ := by
  obtain ⟨d, rfl⟩ := Int.eq_ofNat_of_zero_le positive.le
  have nonzero : (d : ℚ) ≠ 0 := by
    have := positive.ne'
    exact_mod_cast this
  have halves : (numerator : ℚ) / ((d : Int) : ℚ) + 1 / 2 =
      ((2 * numerator + d : Int) : ℚ) / ((2 * d : Nat) : ℚ) := by
    push_cast
    field_simp
  rw [halves, Rat.floor_intCast_div_natCast]
  simp [mathRound]

/-- The share of an earning that goes back with a part of the payment: the whole of it with the
whole payment, and otherwise the exact share rounded, halves up. -/
def roundedShare (earnedCents : Int) (paidCents refundedCents : Nat) : Int :=
  if paidCents ≤ refundedCents then earnedCents
  else ⌊(earnedCents * refundedCents : ℚ) / paidCents + 1 / 2⌋

theorem refundShare_eq_rounded {attempt : PaymentAttempt} (charged : 0 < attempt.amountCents)
    (earningCents : Int) (refundCents : Nat) :
    refundShare (some attempt) earningCents refundCents =
      roundedShare earningCents attempt.amountCents refundCents := by
  simp only [refundShare, roundedShare]
  by_cases part : refundCents < attempt.amountCents
  · rw [if_pos part, if_neg (Nat.not_le.mpr part), mathRound_eq_floor _ _ (by omega)]
    push_cast
    rfl
  · rw [if_neg part, if_pos (Nat.not_lt.mp part)]

theorem mathRound_nonneg {numerator denominator : Int} (least : 0 ≤ numerator)
    (positive : 0 < denominator) : 0 ≤ mathRound numerator denominator :=
  Int.ediv_nonneg (by omega) (by omega)

/-- What rounding adds to a quotient, in parts of twice the denominator. -/
theorem mathRound_value (numerator denominator : Int) :
    2 * denominator * mathRound numerator denominator =
      2 * numerator + denominator - (2 * numerator + denominator) % (2 * denominator) := by
  have parts := Int.mul_ediv_add_emod (2 * numerator + denominator) (2 * denominator)
  unfold mathRound
  omega

theorem refundShare_nonneg {attempt : PaymentAttempt} {earningCents : Int}
    (charged : 0 < attempt.amountCents) (earned : 0 ≤ earningCents) (refundCents : Nat) :
    0 ≤ refundShare (some attempt) earningCents refundCents := by
  simp only [refundShare]
  split
  · exact mathRound_nonneg (Int.mul_nonneg earned (Int.natCast_nonneg _)) (by omega)
  · exact earned

/-! ### The refunds of a credited call -/

/-- A call's charge and what it earned its creator. -/
structure Credited (attempts : Table PaymentAttempt) (ledger : Ledger) (attemptId : AttemptId)
    (attempt : PaymentAttempt) (earning : LedgerEntry) : Prop where
  charge : attempts.get attemptId = some attempt
  charged : 0 < attempt.amountCents
  credit : earningFor ledger attemptId = some earning
  earned : 0 < earning.amountCents

/-- Refunds of one call, each for an amount. -/
structure CallRefunds (attemptId : AttemptId) (refunds : List (RefundId × PaymentRefund)) :
    Prop where
  distinct : (refunds.map Prod.fst).Nodup
  attempt : ∀ row ∈ refunds, row.2.paymentAttemptId = attemptId
  positive : ∀ row ∈ refunds, 0 < row.2.amountCents

/-- Nothing of the earning has been taken back, for these refunds or others. -/
structure Unreversed (ledger : Ledger) (attemptId : AttemptId)
    (refunds : List (RefundId × PaymentRefund)) : Prop where
  whole : ∀ id entry, ledger.ledgerEntries.get id = some entry →
    entry.paymentAttemptId = some attemptId → entry.kind ≠ .refundReversal
  unposted : ∀ row ∈ refunds, ¬ ledger.Posted (.refund row.1)

def isReversalOf (attemptId : AttemptId) (entry : LedgerEntry) : Bool :=
  entry.paymentAttemptId == some attemptId && entry.kind == .refundReversal

/-- What the refunds of a call have taken back together. -/
def takenBack (ledger : Ledger) (attemptId : AttemptId) : Int :=
  -ledger.ledgerEntries.total (isReversalOf attemptId) LedgerEntry.amountCents

/-- Refunds processed one after the other, each at its own time. -/
def reverseRefunds (attempts : Table PaymentAttempt) (ledger : Ledger)
    (runs : List (Ctx × RefundId × PaymentRefund)) : Ledger :=
  runs.foldl (fun ledger run => reverseForRefund run.1 attempts ledger run.2.1 run.2.2) ledger

/-- A refund that has taken nothing counts every reversal as others'. -/
theorem reversedByOthers_eq {ledger : Ledger} (attemptId : AttemptId) {refundId : RefundId}
    (unposted : ¬ ledger.Posted (.refund refundId)) :
    reversedByOthers ledger attemptId refundId = takenBack ledger attemptId := by
  have others : ((ledger.ledgerEntries.query (isReversalOf attemptId)).filter fun row =>
      row.2.idempotencyKey != .refund refundId) =
        ledger.ledgerEntries.query (isReversalOf attemptId) := by
    rw [List.filter_eq_self]
    rintro ⟨id, entry⟩ member
    have present := ((Table.mem_query _ _ id entry).mp member).1
    simp only [bne_iff_ne, ne_eq]
    intro same
    exact unposted ⟨id, entry, present, same⟩
  unfold takenBack Table.total
  rw [← others]
  rfl

/-! ### A call refunded in parts -/

/-- The least price a tier may have, at the rate new creators pay: thirty cents
are the creator's. -/
def leastAttempt : PaymentAttempt :=
  { World.sampleAttempt with
    amountCents := 50
    platformFeeCents := 20
    status := .captured }

def leastEarning : LedgerEntry := earningEntry World.sampleEnv 0 leastAttempt 0 0

def leastLedger : Ledger := creditEarning World.sampleEnv .empty 0 leastAttempt 0 0

def leastAttempts : Table PaymentAttempt := Table.empty.insert leastAttempt

/-- A refund made in the Stripe dashboard. -/
def dashboardRefund (refundId : RefundId) (amountCents : Nat) : RefundId × PaymentRefund :=
  (refundId, { refundRequest ⟨0, World.sampleEnv⟩ 0 leastAttempt 0 0 .outsideBling with
    amountCents
    status := .succeeded })

def leastParts : List (RefundId × PaymentRefund) :=
  [dashboardRefund 0 4, dashboardRefund 1 4, dashboardRefund 2 42]

theorem least_credited : Credited leastAttempts leastLedger 0 leastAttempt leastEarning :=
  ⟨by decide, by decide, by decide, by decide⟩

theorem leastParts_refunds : CallRefunds 0 leastParts :=
  ⟨by decide, by decide, by decide⟩

theorem leastParts_fresh : Unreversed leastLedger 0 leastParts := by
  have only : ∀ id entry, leastLedger.ledgerEntries.get id = some entry →
      entry = leastEarning := by
    intro id entry present
    rcases Table.get_insert_row (t := Table.empty) (a := leastEarning) present with new | old
    · exact new.2
    · simp at old
  constructor
  · intro id entry present _ reversal
    rw [only id entry present] at reversal
    exact absurd reversal (by decide)
  · rintro row _ ⟨id, entry, present, key⟩
    rw [only id entry present] at key
    exact absurd key (by simp [leastEarning, earningEntry])

section

variable {attempts : Table PaymentAttempt} {attemptId : AttemptId} {attempt : PaymentAttempt}
  {earning : LedgerEntry} {refunds : List (RefundId × PaymentRefund)}

/-- What one refund would take back on its own. -/
def shareOf (attempt : PaymentAttempt) (earning : LedgerEntry)
    (row : RefundId × PaymentRefund) : Int :=
  refundShare (some attempt) earning.amountCents row.2.amountCents

/-- The ledger after some of the refunds were processed. -/
structure Reversed (attempts : Table PaymentAttempt) (attemptId : AttemptId)
    (attempt : PaymentAttempt) (earning : LedgerEntry)
    (refunds : List (RefundId × PaymentRefund)) (done : Finset (RefundId × PaymentRefund))
    (ledger : Ledger) : Prop where
  credited : Credited attempts ledger attemptId attempt earning
  taken : takenBack ledger attemptId =
    min earning.amountCents (∑ row ∈ done, shareOf attempt earning row)
  due : ∀ row ∈ refunds, ledger.Posted (.refund row.1) → row ∈ done
  spent : ∀ row ∈ done, ¬ ledger.Posted (.refund row.1) →
    shareOf attempt earning row ≤ 0 ∨ earning.amountCents ≤ takenBack ledger attemptId
  once : ∀ row ∈ refunds, ∀ i j e f, ledger.ledgerEntries.get i = some e →
    ledger.ledgerEntries.get j = some f → e.idempotencyKey = .refund row.1 →
    f.idempotencyKey = .refund row.1 → i = j
  each : ∀ id entry, ledger.ledgerEntries.get id = some entry → isReversalOf attemptId entry →
    entry.amountCents < 0 ∧ ∃ row ∈ refunds, entry.idempotencyKey = .refund row.1

/-- Before the first refund. -/
theorem Reversed.start {ledger : Ledger}
    (credited : Credited attempts ledger attemptId attempt earning)
    (fresh : Unreversed ledger attemptId refunds) :
    Reversed attempts attemptId attempt earning refunds ∅ ledger := by
  have none : takenBack ledger attemptId = 0 := by
    unfold takenBack
    rw [Table.total_zero, Int.neg_zero]
    intro id entry present reversal
    simp only [isReversalOf, Bool.and_eq_true, beq_iff_eq] at reversal
    exact absurd reversal.2 (fresh.whole id entry present reversal.1)
  constructor
  · exact credited
  · rw [none, Finset.sum_empty]
    have := credited.earned
    omega
  · intro row member posted
    exact absurd posted (fresh.unposted row member)
  · intro row member
    simp at member
  · intro row member i _ e _ present _ key
    exact absurd (key ▸ posted_of_get present) (fresh.unposted row member)
  · intro id entry present reversal
    simp only [isReversalOf, Bool.and_eq_true, beq_iff_eq] at reversal
    exact absurd reversal.2 (fresh.whole id entry present reversal.1)

/-- The entry that a refund posts for an amount. -/
def reversalEntry (ctx : Ctx) (earning : LedgerEntry) (row : RefundId × PaymentRefund)
    (amount : Int) : LedgerEntry :=
  { creatorId := earning.creatorId
    kind := .refundReversal
    amountCents := -amount
    currency := earning.currency
    effectiveAt := ctx.now
    idempotencyKey := .refund row.1
    paymentAttemptId := some row.2.paymentAttemptId
    callId := some row.2.callId
    payoutItemId := none
    metadata := some (.refund row.2.stripeRefundId) }

theorem reverseForRefund_first {ledger : Ledger} (ctx : Ctx) (attempts : Table PaymentAttempt)
    {row : RefundId × PaymentRefund} {earning : LedgerEntry}
    (credited : earningFor ledger row.2.paymentAttemptId = some earning)
    (unposted : ¬ ledger.Posted (.refund row.1)) :
    let amount := min
      (refundShare (attempts.get row.2.paymentAttemptId) earning.amountCents row.2.amountCents)
      (earning.amountCents - takenBack ledger row.2.paymentAttemptId)
    reverseForRefund ctx attempts ledger row.1 row.2 =
      if amount ≤ 0 then ledger
      else (postEntry ledger (reversalEntry ctx earning row amount)).1 := by
  simp only [reverseForRefund, credited, reversedByOthers_eq _ unposted, reversalEntry]

theorem reverseForRefund_cases {ledger : Ledger} (ctx : Ctx) (attempts : Table PaymentAttempt)
    {row : RefundId × PaymentRefund} {earning : LedgerEntry}
    (credited : earningFor ledger row.2.paymentAttemptId = some earning)
    (unposted : ¬ ledger.Posted (.refund row.1)) : ∃ amount, amount = min
      (refundShare (attempts.get row.2.paymentAttemptId) earning.amountCents row.2.amountCents)
      (earning.amountCents - takenBack ledger row.2.paymentAttemptId) ∧
      (amount ≤ 0 ∧ reverseForRefund ctx attempts ledger row.1 row.2 = ledger ∨
      0 < amount ∧ (reverseForRefund ctx attempts ledger row.1 row.2).ledgerEntries =
        ledger.ledgerEntries.insert (reversalEntry ctx earning row amount)) := by
  refine ⟨_, rfl, ?_⟩
  rw [reverseForRefund_first ctx attempts credited unposted]
  split
  · rename_i nothing
    exact Or.inl ⟨nothing, rfl⟩
  · rename_i positive
    refine Or.inr ⟨Int.not_le.mp positive, postEntry_entries ?_ unposted⟩
    exact Int.neg_ne_zero.mpr (Int.ne_of_gt (Int.not_le.mp positive))

theorem reverseForRefund_posted {ledger : Ledger} (ctx : Ctx) (attempts : Table PaymentAttempt)
    {refundId : RefundId} (refund : PaymentRefund) (posted : ledger.Posted (.refund refundId)) :
    reverseForRefund ctx attempts ledger refundId refund = ledger := by
  unfold reverseForRefund
  split
  · rfl
  · dsimp only
    split
    · rfl
    · exact postEntry_skips (Or.inr posted)

/-- A refund not processed yet takes its share, or what is left of the earning. -/
theorem reverseForRefund_eq {ledger : Ledger} (ctx : Ctx)
    (credited : Credited attempts ledger attemptId attempt earning)
    {row : RefundId × PaymentRefund} (same : row.2.paymentAttemptId = attemptId)
    (unposted : ¬ ledger.Posted (.refund row.1)) :
    let amount := min (shareOf attempt earning row)
      (earning.amountCents - takenBack ledger attemptId)
    reverseForRefund ctx attempts ledger row.1 row.2 =
      if amount ≤ 0 then ledger
      else (postEntry ledger (reversalEntry ctx earning row amount)).1 := by
  subst same
  rw [reverseForRefund_first ctx attempts credited.credit unposted, credited.charge]
  rfl

/-- A refund that was processed takes nothing more. -/
theorem reverseForRefund_again {ledger : Ledger} (ctx : Ctx)
    {done : Finset (RefundId × PaymentRefund)}
    (reversed : Reversed attempts attemptId attempt earning refunds done ledger)
    {row : RefundId × PaymentRefund} (same : row.2.paymentAttemptId = attemptId)
    (processed : row ∈ done) : reverseForRefund ctx attempts ledger row.1 row.2 = ledger := by
  by_cases posted : ledger.Posted (.refund row.1)
  · exact reverseForRefund_posted ctx attempts row.2 posted
  · rw [reverseForRefund_eq ctx reversed.credited same posted]
    have spent := reversed.spent row processed posted
    exact if_pos (by omega)

/-- A refund for which nothing is left, or whose share rounds to nothing. -/
theorem Reversed.skip {ledger : Ledger} {done : Finset (RefundId × PaymentRefund)}
    (reversed : Reversed attempts attemptId attempt earning refunds done ledger)
    {row : RefundId × PaymentRefund} (new : row ∉ done)
    (least : 0 ≤ shareOf attempt earning row)
    (nothing : min (shareOf attempt earning row)
      (earning.amountCents - takenBack ledger attemptId) ≤ 0) :
    Reversed attempts attemptId attempt earning refunds (insert row done) ledger := by
  have taken := reversed.taken
  constructor
  · exact reversed.credited
  · rw [Finset.sum_insert new]
    omega
  · intro other listed posted
    exact Finset.mem_insert_of_mem (reversed.due other listed posted)
  · intro other processed unposted
    cases Finset.mem_insert.mp processed with
    | inl same =>
        subst same
        omega
    | inr earlier => exact reversed.spent other earlier unposted
  · exact reversed.once
  · exact reversed.each

/-- A refund that takes its share, or what is left. -/
theorem Reversed.post {ledger : Ledger} (ctx : Ctx) (given : CallRefunds attemptId refunds)
    {done : Finset (RefundId × PaymentRefund)}
    (reversed : Reversed attempts attemptId attempt earning refunds done ledger)
    {row : RefundId × PaymentRefund} (member : row ∈ refunds) (new : row ∉ done)
    {amount : Int} (taking : amount = min (shareOf attempt earning row)
      (earning.amountCents - takenBack ledger attemptId)) (some : 0 < amount) :
    Reversed attempts attemptId attempt earning refunds (insert row done)
      (postEntry ledger (reversalEntry ctx earning row amount)).1 := by
  have same := given.attempt row member
  have taken := reversed.taken
  have unposted : ¬ ledger.Posted (.refund row.1) := fun posted =>
    new (reversed.due row member posted)
  have entries := @postEntry_entries ledger
    (reversalEntry ctx earning row amount) (show -amount ≠ 0 by omega) unposted
  -- keys tell the refunds apart
  have apart : ∀ other ∈ refunds, other.1 = row.1 → other = row := fun other listed key =>
    List.inj_on_of_nodup_map given.distinct listed member key
  have counted : takenBack (postEntry ledger (reversalEntry ctx earning row amount)).1 attemptId =
      takenBack ledger attemptId + amount := by
    unfold takenBack
    rw [entries, Table.total_insert]
    simp only [isReversalOf, reversalEntry, same, beq_self_eq_true, Bool.and_self, if_true]
    omega
  constructor
  · refine ⟨reversed.credited.charge, reversed.credited.charged, ?_, reversed.credited.earned⟩
    have credit := reversed.credited.credit
    unfold Bling.earningFor at credit ⊢
    rw [entries, Table.first_insert_other (by simp [reversalEntry])]
    exact credit
  · rw [counted, Finset.sum_insert new]
    omega
  · intro other listed posted
    obtain ⟨id, entry, present, key⟩ := posted
    rw [entries, Table.get_insert] at present
    split at present
    · obtain rfl := Option.some.inj present
      have same := apart other listed (LedgerKey.refund.inj key).symm
      exact same ▸ Finset.mem_insert_self _ _
    · exact Finset.mem_insert_of_mem (reversed.due other listed ⟨id, entry, present, key⟩)
  · intro other processed still
    cases Finset.mem_insert.mp processed with
    | inl same =>
        subst same
        exact absurd ⟨_, _, by rw [entries]; exact Table.get_insert_next _ _, rfl⟩ still
    | inr earlier =>
        have before := reversed.spent other earlier fun posted => still (by
          obtain ⟨id, entry, present, key⟩ := posted
          exact ⟨id, entry, by rw [entries]; exact Table.get_insert_of_some present _, key⟩)
        omega
  · intro other listed i j e f foundE foundF keyE keyF
    rw [entries] at foundE foundF
    have older : ∀ id g, ledger.ledgerEntries.get id = Option.some g →
        g.idempotencyKey = .refund other.1 → other.1 ≠ row.1 := fun id g present key same =>
      unposted (same ▸ key ▸ posted_of_get present)
    rcases Table.get_insert_row foundE with ⟨nextE, rfl⟩ | oldE
    · rcases Table.get_insert_row foundF with ⟨nextF, rfl⟩ | oldF
      · rw [nextE, nextF]
      · exact absurd (LedgerKey.refund.inj keyE).symm (older j f oldF keyF)
    · rcases Table.get_insert_row foundF with ⟨nextF, rfl⟩ | oldF
      · exact absurd (LedgerKey.refund.inj keyF).symm (older i e oldE keyE)
      · exact reversed.once other listed i j e f oldE oldF keyE keyF
  · intro id entry present reversal
    rw [entries, Table.get_insert] at present
    split at present
    · obtain rfl := Option.some.inj present
      exact ⟨show -amount < 0 by omega, row, member, rfl⟩
    · exact reversed.each id entry present reversal

/-- One more refund is processed. -/
theorem Reversed.step {ledger : Ledger} (ctx : Ctx) (given : CallRefunds attemptId refunds)
    {done : Finset (RefundId × PaymentRefund)}
    (reversed : Reversed attempts attemptId attempt earning refunds done ledger)
    {row : RefundId × PaymentRefund} (member : row ∈ refunds) :
    Reversed attempts attemptId attempt earning refunds (insert row done)
      (reverseForRefund ctx attempts ledger row.1 row.2) := by
  have same := given.attempt row member
  by_cases processed : row ∈ done
  · rw [reverseForRefund_again ctx reversed same processed, Finset.insert_eq_of_mem processed]
    exact reversed
  · have unposted : ¬ ledger.Posted (.refund row.1) := fun posted =>
      processed (reversed.due row member posted)
    rw [reverseForRefund_eq ctx reversed.credited same unposted]
    split
    · rename_i nothing
      have least := refundShare_nonneg reversed.credited.charged reversed.credited.earned.le
        row.2.amountCents
      exact reversed.skip processed least nothing
    · rename_i some
      exact reversed.post ctx given member processed rfl (by omega)

/-- The refunds processed, whatever their order and however often. -/
theorem Reversed.run (given : CallRefunds attemptId refunds)
    {runs : List (Ctx × RefundId × PaymentRefund)} (among : ∀ run ∈ runs, run.2 ∈ refunds)
    {ledger : Ledger} {done : Finset (RefundId × PaymentRefund)}
    (reversed : Reversed attempts attemptId attempt earning refunds done ledger) :
    Reversed attempts attemptId attempt earning refunds (done ∪ (runs.map Prod.snd).toFinset)
      (reverseRefunds attempts ledger runs) := by
  induction runs generalizing ledger done with
  | nil => simpa [reverseRefunds] using reversed
  | cons run rest ih =>
      have next := reversed.step run.1 given (among run List.mem_cons_self)
      have after := ih (fun other member => among other (List.mem_cons_of_mem _ member)) next
      simpa [reverseRefunds, Finset.insert_union, Finset.union_insert] using after

/-- All of the refunds processed. -/
theorem reverseRefunds_reversed {ledger : Ledger}
    (credited : Credited attempts ledger attemptId attempt earning)
    (given : CallRefunds attemptId refunds) (fresh : Unreversed ledger attemptId refunds)
    {runs : List (Ctx × RefundId × PaymentRefund)}
    (every : ∀ row, row ∈ runs.map Prod.snd ↔ row ∈ refunds) :
    Reversed attempts attemptId attempt earning refunds refunds.toFinset
      (reverseRefunds attempts ledger runs) := by
  have processed : (runs.map Prod.snd).toFinset = refunds.toFinset := by
    ext row
    simp only [List.mem_toFinset]
    exact every row
  have among : ∀ run ∈ runs, run.2 ∈ refunds := fun run member =>
    (every run.2).mp (List.mem_map_of_mem member)
  have after := (Reversed.start credited fresh).run given among
  rw [Finset.empty_union, processed] at after
  exact after

/-- The total over the list is the total over what was processed. -/
theorem reverseRefunds_taken {ledger : Ledger}
    (credited : Credited attempts ledger attemptId attempt earning)
    (given : CallRefunds attemptId refunds) (fresh : Unreversed ledger attemptId refunds)
    {runs : List (Ctx × RefundId × PaymentRefund)}
    (every : ∀ row, row ∈ runs.map Prod.snd ↔ row ∈ refunds) :
    takenBack (reverseRefunds attempts ledger runs) attemptId =
      min earning.amountCents (refunds.map fun row =>
        refundShare (some attempt) earning.amountCents row.2.amountCents).sum := by
  rw [(reverseRefunds_reversed credited given fresh every).taken,
    List.sum_toFinset _ (List.Nodup.of_map _ given.distinct)]
  rfl

/-- Refunds are reversed once each, and together take back the sum of their
shares of the earning, up to the whole of it. -/
theorem refunds_capped {ledger : Ledger}
    (credited : Credited attempts ledger attemptId attempt earning)
    (given : CallRefunds attemptId refunds) (fresh : Unreversed ledger attemptId refunds)
    {runs : List (Ctx × RefundId × PaymentRefund)}
    (every : ∀ row, row ∈ runs.map Prod.snd ↔ row ∈ refunds) :
    let after := reverseRefunds attempts ledger runs
    (∀ row ∈ refunds, ∀ i j e f, after.ledgerEntries.get i = some e →
      after.ledgerEntries.get j = some f → e.idempotencyKey = .refund row.1 →
      f.idempotencyKey = .refund row.1 → i = j) ∧
    (∀ id entry, after.ledgerEntries.get id = some entry →
      entry.paymentAttemptId = some attemptId → entry.kind = .refundReversal →
      entry.amountCents < 0 ∧ ∃ row ∈ refunds, entry.idempotencyKey = .refund row.1) ∧
    takenBack after attemptId = min earning.amountCents (refunds.map fun row =>
      roundedShare earning.amountCents attempt.amountCents row.2.amountCents).sum ∧
    takenBack after attemptId ≤ earning.amountCents := by
  have reversed := reverseRefunds_reversed credited given fresh every
  have taken := reverseRefunds_taken credited given fresh every
  simp only [refundShare_eq_rounded credited.charged] at taken
  refine ⟨reversed.once, ?_, taken, ?_⟩
  · intro id entry present attempt kind
    exact reversed.each id entry present (by simp [isReversalOf, attempt, kind])
  · rw [taken]
    exact Int.min_le_left _ _

theorem refunds_capped_least :
    let after := reverseRefunds leastAttempts leastLedger
      (leastParts.map fun row => (⟨0, World.sampleEnv⟩, row))
    takenBack after 0 = min leastEarning.amountCents (leastParts.map fun row =>
      roundedShare leastEarning.amountCents leastAttempt.amountCents row.2.amountCents).sum :=
  (refunds_capped least_credited leastParts_refunds leastParts_fresh (by simp)).2.2.1

/-! ### Refunds that add up to the charge -/

/-- A share in parts of twice the charge, less what rounding leaves. -/
theorem refundShare_value {earningCents : Int} (charged : 0 < attempt.amountCents)
    {refundCents : Nat} (within : refundCents ≤ attempt.amountCents) :
    2 * attempt.amountCents * refundShare (some attempt) earningCents refundCents =
      2 * (earningCents * refundCents) + attempt.amountCents -
        (2 * (earningCents * refundCents) + attempt.amountCents) % (2 * attempt.amountCents) := by
  simp only [refundShare]
  split
  · exact mathRound_value _ _
  · have same : refundCents = attempt.amountCents := by omega
    have remainder : (2 * (earningCents * attempt.amountCents) + attempt.amountCents) %
        (2 * attempt.amountCents) = (attempt.amountCents : Int) := by
      have shifted : 2 * (earningCents * attempt.amountCents) + (attempt.amountCents : Int) =
          attempt.amountCents + 2 * attempt.amountCents * earningCents := by ring
      rw [shifted, Int.add_mul_emod_self_left]
      exact Int.emod_eq_of_lt (by omega) (by omega)
    rw [same, remainder]
    ring

/-- The shares of refunds within the charge, together. -/
theorem shares_value {earningCents : Int} (charged : 0 < attempt.amountCents)
    {amounts : List Nat} (within : ∀ amount ∈ amounts, amount ≤ attempt.amountCents) :
    2 * attempt.amountCents *
        (amounts.map fun amount => refundShare (some attempt) earningCents amount).sum =
      2 * (earningCents * (amounts.sum : Nat)) + amounts.length * attempt.amountCents -
        (amounts.map fun amount : Nat => (2 * (earningCents * amount) + attempt.amountCents) %
          (2 * attempt.amountCents : Int)).sum := by
  induction amounts with
  | nil => simp
  | cons amount rest ih =>
      have first := @refundShare_value attempt earningCents charged amount
        (within amount List.mem_cons_self)
      have others := ih fun other member => within other (List.mem_cons_of_mem _ member)
      simp only [List.map_cons, List.sum_cons, List.length_cons, Nat.cast_add, Nat.cast_one]
      rw [mul_add, first, others]
      ring

/-- A call refunded in parts is taken back whole exactly when what the rounding
of its shares adds is at least what it drops. -/
theorem refunds_whole_iff {ledger : Ledger}
    (credited : Credited attempts ledger attemptId attempt earning)
    (given : CallRefunds attemptId refunds) (fresh : Unreversed ledger attemptId refunds)
    (whole : (refunds.map fun row => row.2.amountCents).sum = attempt.amountCents)
    {runs : List (Ctx × RefundId × PaymentRefund)}
    (every : ∀ row, row ∈ runs.map Prod.snd ↔ row ∈ refunds) :
    takenBack (reverseRefunds attempts ledger runs) attemptId = earning.amountCents ↔
      (refunds.map fun row =>
          (2 * (earning.amountCents * row.2.amountCents) + attempt.amountCents) %
            (2 * attempt.amountCents : Int)).sum ≤
        refunds.length * attempt.amountCents := by
  have taken := reverseRefunds_taken credited given fresh every
  have charged := credited.charged
  have within : ∀ amount ∈ refunds.map fun row => row.2.amountCents,
      amount ≤ attempt.amountCents := fun amount member =>
    whole ▸ List.single_le_sum (by simp) amount member
  have value := @shares_value attempt earning.amountCents charged _ within
  rw [whole, List.map_map, List.map_map, List.length_map] at value
  simp only [Function.comp_def] at value
  rw [taken]
  generalize (refunds.map fun row =>
    refundShare (some attempt) earning.amountCents row.2.amountCents).sum = shares at value ⊢
  generalize (refunds.map fun row => (2 * (earning.amountCents * row.2.amountCents) +
    attempt.amountCents) % (2 * attempt.amountCents : Int)).sum = dropped at value ⊢
  have doubled : (0 : Int) < 2 * attempt.amountCents := by omega
  have scaled : earning.amountCents ≤ shares ↔
      2 * attempt.amountCents * earning.amountCents ≤ 2 * attempt.amountCents * shares :=
    (Int.mul_le_mul_left doubled).symm
  have same : 2 * (earning.amountCents * (attempt.amountCents : Int)) =
      2 * attempt.amountCents * earning.amountCents := by ring
  omega

theorem refunds_whole_iff_least :
    takenBack (reverseRefunds leastAttempts leastLedger
        (leastParts.map fun row => (⟨0, World.sampleEnv⟩, row))) 0 = leastEarning.amountCents ↔
      (leastParts.map fun row =>
          (2 * (leastEarning.amountCents * row.2.amountCents) + leastAttempt.amountCents) %
            (2 * leastAttempt.amountCents : Int)).sum ≤
        leastParts.length * leastAttempt.amountCents :=
  refunds_whole_iff least_credited leastParts_refunds leastParts_fresh (by decide) (by simp)

set_option maxRecDepth 20000 in
/-- Fifty cents refunded as four, four and forty-two take back twenty-nine of
the thirty that were credited. -/
theorem refunds_short :
    (leastParts.map fun row => row.2.amountCents).sum = leastAttempt.amountCents ∧
      (∀ row ∈ leastParts, row.2.status = .succeeded) ∧
      earningFor leastLedger 0 = some leastEarning ∧
      leastEarning.amountCents = 30 ∧
      takenBack (reverseRefunds leastAttempts leastLedger
        (leastParts.map fun row => (⟨0, World.sampleEnv⟩, row))) 0 = 29 := by
  decide

end

end Bling
