import Bling.Overdrafts

set_option autoImplicit false

namespace Bling

open Library

/-! What refunds have taken back of a call's earning, and which of them have succeeded. -/

/-! ### A step of the refunds -/

def NoReversal (entry : LedgerEntry) : Prop :=
  entry.kind ≠ .refundReversal ∧ ∀ refundId, entry.idempotencyKey ≠ .refund refundId

/-- What is posted when a refund's row has come to be so. -/
def Reverses (ctx : Ctx) (db after : DB) (refundId : RefundId) (refund : PaymentRefund) : Prop :=
  refund.status = .succeeded ∧
      after.ledger = reverseForRefund ctx db.paymentAttempts db.ledger refundId refund ∨
    refund.status ≠ .succeeded ∧ after.ledger = db.ledger

/-- Stripe tells that the refund of this row has failed after all. -/
def FailsLate (db : DB) (m : Mutation) (refundId : RefundId) (refund : PaymentRefund) : Prop :=
  ∃ event, m.refundNews db = some event ∧ statusFromStripe event.status = .failed ∧
    refundRow db event = some (refundId, refund)

/-- A mutation changes one row of a refund at most, and posts what follows from it. -/
inductive RefundStep (ctx : Ctx) (db : DB) (m : Mutation) (after : DB) : Prop
  | quiet (rows : after.paymentRefunds = db.paymentRefunds)
      (posted : PostsOnly NoReversal db.ledger after.ledger)
  | added (refund : PaymentRefund) (rows : after.paymentRefunds = db.paymentRefunds.insert refund)
      (reverses : Reverses ctx db after db.paymentRefunds.next refund)
  | changed (refundId : RefundId) (before : PaymentRefund) (f : PaymentRefund → PaymentRefund)
      (present : db.paymentRefunds.get refundId = some before)
      (request : SameRequest before (f before))
      (rows : after.paymentRefunds = db.paymentRefunds.patch refundId f)
      (reverses : Reverses ctx db after refundId (f before))
      (fails : before.status = .succeeded → (f before).status ≠ .succeeded →
        FailsLate db m refundId before)

theorem ledgerAfter_reverses {ctx : Ctx} {db after : DB} {outcome : RefundOutcome}
    {refundId : RefundId} {refund : PaymentRefund} (status : refund.status = outcome.status)
    (ledger : after.ledger = ledgerAfter ctx db outcome refundId refund) :
    Reverses ctx db after refundId refund := by
  unfold ledgerAfter at ledger
  cases outcome with
  | succeeded =>
      rw [if_pos rfl] at ledger
      exact Or.inl ⟨status, ledger⟩
  | failed =>
      refine Or.inr ⟨?_, ledger⟩
      rw [status]
      exact RefundStatus.noConfusion
  | pending =>
      refine Or.inr ⟨?_, ledger⟩
      rw [status]
      exact RefundStatus.noConfusion

theorem Effect.refund_step {ctx : Ctx} {db after : DB} {m : Mutation}
    (effect : Effect ctx db m after) : RefundStep ctx db m after := by
  have still (rows : after.paymentRefunds = db.paymentRefunds)
      (ledger : after.ledger = db.ledger) : RefundStep ctx db m after :=
    .quiet rows (by rw [ledger]; exact .refl _ db.ledger)
  have requested {attemptId : AttemptId} {attempt : PaymentAttempt} {callId : CallId}
      {reason : RefundReason} (rows : after.paymentRefunds =
        (requestRefund ctx db attemptId attempt callId reason).paymentRefunds)
      (ledger : after.ledger = db.ledger) : RefundStep ctx db m after := by
    rcases requestRefund_cases ctx db attemptId attempt callId reason with
      ⟨unchanged, _⟩ | ⟨intentId, _, _, _, asked⟩
    · rw [unchanged] at rows
      exact still rows ledger
    · rw [asked] at rows
      exact .added _ rows (Or.inr ⟨RefundStatus.noConfusion, ledger⟩)
  cases effect with
  | moved callId call target shows present allowed asked isOver same =>
      have rows := same.paymentRefunds
      have ledger := same.ledger
      dsimp only at rows ledger
      rcases goLive_ledger ctx db callId call target with
        unchanged | ⟨rfl, _, attemptId, attempt, _, _, credited⟩
      · rw [unchanged] at ledger
        rcases finishCall_refunds ctx db callId call target with
          ⟨none, _⟩ | ⟨_, _, attemptId, attempt, _, _, asks⟩
        · exact still (rows.trans none) ledger
        · exact requested (rows.trans asks) ledger
      · rcases finishCall_refunds ctx db callId call .live with ⟨none, _⟩ | ⟨ends, _⟩
        · refine .quiet (rows.trans none) ?_
          rw [ledger, credited]
          refine (creditEarning_only ..).mono ?_
          rintro entry rfl
          exact ⟨LedgerKind.noConfusion, fun _ => LedgerKey.noConfusion⟩
        · rcases ends with ends | ends <;> cases ends
  | selected showId hotline entryId entry mode attempt asked host live idle present inShow waiting
      held paid same =>
      refine still (same.paymentRefunds.trans (openCall_refunds ..)) (same.ledger.trans ?_)
      cases attempt <;> rfl
  | callMissed attemptId attempt capturedAt method callId call asked present found unstarted isOver
      pending same => exact requested same.paymentRefunds same.ledger
  | chargeReturned attemptId attempt capturedAt method callId call asked present found unstarted
      isOver settled same => exact requested same.paymentRefunds same.ledger
  | refundClaimed refundId refund asked present due same =>
      have unsettled := refundDue_unsettled due
      have rows := same.paymentRefunds
      dsimp only at rows
      refine .changed refundId refund _ present ?_ rows ?_ ?_
      · exact ⟨rfl, rfl, rfl, rfl, rfl, rfl⟩
      · exact Or.inr ⟨RefundStatus.noConfusion, same.ledger⟩
      · intro succeeded
        rw [succeeded] at unsettled
        cases unsettled
  | refundRetried refundId refund status failureCode nextAttemptAt processedAt present claimed
      again same =>
      have rows := same.paymentRefunds
      dsimp only at rows
      refine .changed refundId refund _ present ?_ rows ?_ ?_
      · exact ⟨rfl, rfl, rfl, rfl, rfl, rfl⟩
      · refine Or.inr ⟨?_, same.ledger⟩
        rcases again with rfl | rfl <;> exact RefundStatus.noConfusion
      · intro succeeded
        rw [claimed] at succeeded
        cases succeeded
  | refundRecorded refundId refund stripeRefundId status failureCode asked present unsettled same =>
      refine .changed refundId refund _ present ⟨rfl, rfl, rfl, rfl, rfl, rfl⟩
        same.paymentRefunds (ledgerAfter_reverses rfl same.ledger) ?_
      intro succeeded
      rw [succeeded] at unsettled
      cases unsettled
  | refundSettled event refundId refund asked matched present newer same =>
      refine .changed refundId refund _ present (settledPatch_same ctx event refund refund)
        same.paymentRefunds (ledgerAfter_reverses rfl same.ledger) ?_
      intro succeeded changed
      refine ⟨event, asked, ?_, matched⟩
      cases outcome : statusFromStripe event.status with
      | succeeded =>
          have status : (settledPatch ctx event refund refund).status = .succeeded := by
            simp only [settledPatch, outcome]
            rfl
          exact absurd status changed
      | failed => rfl
      | pending =>
          rw [succeeded] at newer
          exact absurd ⟨rfl, outcome⟩ newer
  | refundFound event refund asked unmatched outside same =>
      exact .added _ same.paymentRefunds (ledgerAfter_reverses rfl same.ledger)
  | disputed event asked same =>
      refine .quiet same.paymentRefunds ?_
      rw [same.ledger]
      refine (adjustForDispute_only ..).mono ?_
      intro entry adjustment
      rcases adjustment.kind with ⟨kind, key⟩ | ⟨kind, key⟩
      · rw [NoReversal, kind, key]
        exact ⟨LedgerKind.noConfusion, fun _ => LedgerKey.noConfusion⟩
      · rw [NoReversal, kind, key]
        exact ⟨LedgerKind.noConfusion, fun _ => LedgerKey.noConfusion⟩
  | reserved runId payoutRun entries payoutItems payoutRuns cursor asked present each turns
      same =>
      refine .quiet same.paymentRefunds ⟨entries, ?_, same.ledger⟩
      intro entry member
      obtain ⟨kind, _, itemId, key⟩ := each entry member
      rw [NoReversal, kind, key]
      exact ⟨LedgerKind.noConfusion, fun _ => LedgerKey.noConfusion⟩
  | _ =>
      rename_i same
      exact still same.paymentRefunds same.ledger

/-! ### Whose reversals these are -/

structure RefundKeys (db : DB) : Prop where
  named : ∀ id entry, db.ledger.ledgerEntries.get id = some entry →
    entry.kind = .refundReversal → ∃ refundId, entry.idempotencyKey = .refund refundId
  row : ∀ id entry refundId, db.ledger.ledgerEntries.get id = some entry →
    entry.idempotencyKey = .refund refundId → entry.kind = .refundReversal ∧
      ∃ refund, db.paymentRefunds.get refundId = some refund ∧
        entry.paymentAttemptId = some refund.paymentAttemptId

theorem RefundKeys.empty : RefundKeys .empty := by
  refine ⟨?_, ?_⟩
  · intro id entry found
    cases found
  · intro id entry refundId found
    cases found

theorem RefundKeys.mutation {db : DB} (keys : RefundKeys db) (ctx : Ctx) (m : Mutation) :
    RefundKeys (m.apply ctx db) := by
  have effect := m.effect ctx db
  have new : ∃ kind, PostsOnly kind db.ledger (m.apply ctx db).ledger ∧ ∀ entry, kind entry →
      NoReversal entry ∨ ∃ refundId refund, IsReversal refundId refund entry ∧
        (m.apply ctx db).paymentRefunds.get refundId = some refund := by
    cases effect.refund_step with
    | quiet rows posted => exact ⟨_, posted, fun _ => Or.inl⟩
    | added refund rows reverses =>
        rcases reverses with ⟨_, ledger⟩ | ⟨_, ledger⟩
        · refine ⟨_, ledger ▸ reverseForRefund_only .., ?_⟩
          intro entry reversal
          exact Or.inr ⟨_, refund, reversal, rows ▸ Table.get_insert_next _ _⟩
        · exact ⟨fun _ => False, ledger ▸ .refl _ _, fun _ none => none.elim⟩
    | changed refundId before f present request rows reverses fails =>
        rcases reverses with ⟨_, ledger⟩ | ⟨_, ledger⟩
        · refine ⟨_, ledger ▸ reverseForRefund_only .., ?_⟩
          intro entry reversal
          exact Or.inr ⟨_, f before, reversal, rows ▸ Table.get_patch_self present f⟩
        · exact ⟨fun _ => False, ledger ▸ .refl _ _, fun _ none => none.elim⟩
  obtain ⟨kind, posted, each⟩ := new
  refine ⟨?_, ?_⟩
  · intro id entry found reversal
    rcases posted.origin found with old | isNew
    · exact keys.named id entry old reversal
    · rcases each entry isNew with other | ⟨refundId, refund, is, _⟩
      · exact absurd reversal other.1
      · exact ⟨refundId, is.key⟩
  · intro id entry refundId found key
    rcases posted.origin found with old | isNew
    · obtain ⟨reversal, refund, present, of⟩ := keys.row id entry refundId old key
      obtain ⟨after, kept, same⟩ := effect.refunds.kept refundId refund present
      exact ⟨reversal, after, kept, of.trans (congrArg some same.paymentAttemptId.symm)⟩
    · rcases each entry isNew with other | ⟨refundId', refund, is, present⟩
      · exact absurd key (other.2 refundId)
      · obtain rfl := LedgerKey.refund.inj (is.key.symm.trans key)
        exact ⟨is.kind, refund, present, is.attempt⟩

theorem RefundKeys.unscheduled : World.Unscheduled RefundKeys := fun _ _ =>
  ⟨fun keys => ⟨keys.named, keys.row⟩, fun keys => ⟨keys.named, keys.row⟩⟩

theorem RefundKeys.reached {w : World} (reached : World.Reached w) : RefundKeys w.db :=
  World.reached_keeps RefundKeys unscheduled .empty
    (fun ctx _ m keys => keys.mutation ctx m) reached

/-! ### What is owed -/

/-- The refund that an entry's key names. -/
def LedgerKey.refunded : LedgerKey → Option RefundId
  | .refund refundId => some refundId
  | _ => none

def isOwed (attemptId : AttemptId) (refund : PaymentRefund) : Bool :=
  refund.paymentAttemptId == attemptId && refund.status == .succeeded

/-- What the refunds that have succeeded ask for together, each its own share. -/
def owedShares (attemptId : AttemptId) (share : Nat → Int) (refunds : Table PaymentRefund) : Int :=
  refunds.total (isOwed attemptId) fun refund => share refund.amountCents

/-- The row has been added, or changed. -/
structure Puts (before after : Table PaymentRefund) (refundId : RefundId)
    (refund : PaymentRefund) : Prop where
  here : after.get refundId = some refund
  elsewhere : ∀ id, id ≠ refundId → after.get id = before.get id
  total : ∀ p f, after.total p f = before.total p f -
    ((before.get refundId).elim 0 fun was => if p was then f was else 0) +
    if p refund then f refund else 0

theorem Puts.insert (refunds : Table PaymentRefund) (refund : PaymentRefund) :
    Puts refunds (refunds.insert refund) refunds.next refund := by
  refine ⟨Table.get_insert_next _ _, ?_, ?_⟩
  · intro id apart
    rw [Table.get_insert, if_neg apart]
  · intro p f
    rw [Table.total_insert, Table.get_next]
    exact congrArg (· + _) (Int.sub_zero _).symm

theorem Puts.patch {refunds : Table PaymentRefund} {refundId : RefundId} {before : PaymentRefund}
    (present : refunds.get refundId = some before) (f : PaymentRefund → PaymentRefund) :
    Puts refunds (refunds.patch refundId f) refundId (f before) := by
  refine ⟨Table.get_patch_self present f, ?_, ?_⟩
  · intro id apart
    exact Table.get_patch_of_ne apart refunds f
  · intro p g
    rw [Table.total_patch present, present]
    rfl

/-- A refund of the call that has taken back some of its share. -/
def TookBack (attemptId : AttemptId) (share : Nat → Int) (refunds : Table PaymentRefund)
    (entry : LedgerEntry) : Prop :=
  ∃ refundId refund, entry.idempotencyKey = .refund refundId ∧
    refunds.get refundId = some refund ∧ isOwed attemptId refund = true ∧
    -entry.amountCents ≤ share refund.amountCents

/-- What has been taken back is what the refunds that have succeeded ask for, as far as the
earning goes. -/
structure OwedKept (attemptId : AttemptId) (earning : LedgerEntry) (share : Nat → Int)
    (refunds : Table PaymentRefund) (ledger : Ledger) : Prop where
  credited : earningFor ledger attemptId = some earning
  taken : takenBack ledger attemptId =
    min earning.amountCents (owedShares attemptId share refunds)
  reversal : ∀ id entry, ledger.ledgerEntries.get id = some entry →
    isReversalOf attemptId entry = true → TookBack attemptId share refunds entry
  skipped : ∀ id refund, refunds.get id = some refund → isOwed attemptId refund = true →
    ¬ ledger.Posted (.refund id) →
    share refund.amountCents ≤ 0 ∨ earning.amountCents ≤ takenBack ledger attemptId

section Owed

variable {attemptId : AttemptId} {earning : LedgerEntry} {share : Nat → Int}
  {refunds after : Table PaymentRefund} {ledger ledger' : Ledger} {refundId : RefundId}
  {refund : PaymentRefund}

theorem taken_le_owed (least : ∀ cents, 0 ≤ share cents)
    (keys : ∀ i j a b, ledger.ledgerEntries.get i = some a →
      ledger.ledgerEntries.get j = some b → a.idempotencyKey = b.idempotencyKey → i = j)
    (reversal : ∀ id entry, ledger.ledgerEntries.get id = some entry →
      isReversalOf attemptId entry = true → TookBack attemptId share refunds entry) :
    takenBack ledger attemptId ≤ owedShares attemptId share refunds := by
  let partner (id : Nat) : Nat :=
    ((ledger.ledgerEntries.get id).bind fun entry => entry.idempotencyKey.refunded).getD 0
  have partner_eq {id : Nat} {entry : LedgerEntry} {refundId : RefundId}
      (present : ledger.ledgerEntries.get id = some entry)
      (key : entry.idempotencyKey = .refund refundId) : partner id = refundId := by
    show ((ledger.ledgerEntries.get id).bind _).getD 0 = _
    rw [present, Option.bind_some, key]
    rfl
  have counted : takenBack ledger attemptId = ledger.ledgerEntries.total
      (isReversalOf attemptId) fun entry => -entry.amountCents := by
    have sum := Table.total_add ledger.ledgerEntries (isReversalOf attemptId)
      LedgerEntry.amountCents fun entry => -entry.amountCents
    have nothing : (ledger.ledgerEntries.total (isReversalOf attemptId) fun entry =>
        entry.amountCents + -entry.amountCents) = 0 :=
      Table.total_zero fun _ entry _ _ => Int.add_right_neg entry.amountCents
    unfold takenBack
    omega
  rw [counted]
  refine Table.total_le_total partner ?_ ?_ ?_
  · intro id entry present counts
    obtain ⟨refundId, refund, key, found, owed, below⟩ := reversal id entry present counts
    exact ⟨refund, partner_eq present key ▸ found, owed, below⟩
  · intro i j a b foundA foundB countsA countsB same
    obtain ⟨_, _, keyA, _⟩ := reversal i a foundA countsA
    obtain ⟨_, _, keyB, _⟩ := reversal j b foundB countsB
    rw [partner_eq foundA keyA, partner_eq foundB keyB] at same
    exact keys i j a b foundA foundB (keyA.trans (same ▸ keyB.symm))
  · intro id refund _ _
    exact least refund.amountCents

theorem OwedKept.posts {kind : LedgerEntry → Prop}
    (kept : OwedKept attemptId earning share refunds ledger)
    (posted : PostsOnly kind ledger ledger')
    (apart : ∀ entry, kind entry → isReversalOf attemptId entry = false) :
    OwedKept attemptId earning share refunds ledger' := by
  have taken : takenBack ledger' attemptId = takenBack ledger attemptId :=
    congrArg (- ·) (posted.total apart)
  refine ⟨posted.earningFor kept.credited, taken.trans kept.taken, ?_, ?_⟩
  · intro id entry found counts
    rcases posted.origin found with old | new
    · exact kept.reversal id entry old counts
    · rw [apart entry new] at counts
      cases counts
  · intro id refund found owed unposted
    rw [taken]
    exact kept.skipped id refund found owed fun was => unposted (posted.posted was)

theorem Puts.owed (puts : Puts refunds after refundId refund) (attemptId : AttemptId)
    (share : Nat → Int) : owedShares attemptId share after = owedShares attemptId share refunds -
      ((refunds.get refundId).elim 0 fun was =>
        if isOwed attemptId was then share was.amountCents else 0) +
      if isOwed attemptId refund then share refund.amountCents else 0 :=
  puts.total _ _

/-- What is taken back is another refund's, unless the row asked for no less. -/
theorem TookBack.puts {entry : LedgerEntry} (took : TookBack attemptId share refunds entry)
    (puts : Puts refunds after refundId refund)
    (same : ∀ was, refunds.get refundId = some was → isOwed attemptId was = true →
      entry.idempotencyKey = .refund refundId →
      isOwed attemptId refund = true ∧ refund.amountCents = was.amountCents) :
    TookBack attemptId share after entry := by
  obtain ⟨id, was, key, found, owed, below⟩ := took
  by_cases here : id = refundId
  · subst here
    obtain ⟨still, amount⟩ := same was found owed key
    exact ⟨id, refund, key, puts.here, still, amount ▸ below⟩
  · exact ⟨id, was, key, (puts.elsewhere id here).trans found, owed, below⟩

/-- The row of a refund that has not succeeded, or of another call. -/
theorem OwedKept.unowed (kept : OwedKept attemptId earning share refunds ledger)
    (puts : Puts refunds after refundId refund)
    (was : ∀ was, refunds.get refundId = some was → isOwed attemptId was = false)
    (now : isOwed attemptId refund = false) :
    OwedKept attemptId earning share after ledger := by
  have owed : owedShares attemptId share after = owedShares attemptId share refunds := by
    rw [puts.owed, now, if_neg Bool.false_ne_true]
    cases before : refunds.get refundId with
    | none => simp
    | some row => simp [was row before]
  refine ⟨kept.credited, owed ▸ kept.taken, ?_, ?_⟩
  · intro id entry found counts
    refine (kept.reversal id entry found counts).puts puts ?_
    intro row before isOwed
    rw [was row before] at isOwed
    cases isOwed
  · intro id row found isOwed
    by_cases here : id = refundId
    · subst here
      obtain rfl := Option.some.inj (puts.here.symm.trans found)
      rw [now] at isOwed
      cases isOwed
    · exact kept.skipped id row ((puts.elsewhere id here).symm.trans found) isOwed

/-- A refund that had succeeded, and still has. -/
theorem OwedKept.again (kept : OwedKept attemptId earning share refunds ledger)
    (puts : Puts refunds after refundId refund) {before : PaymentRefund}
    (present : refunds.get refundId = some before) (was : isOwed attemptId before = true)
    (now : isOwed attemptId refund = true) (amount : refund.amountCents = before.amountCents) :
    OwedKept attemptId earning share after ledger := by
  have owed : owedShares attemptId share after = owedShares attemptId share refunds := by
    rw [puts.owed, present, now, if_pos rfl, Option.elim_some, was, if_pos rfl, amount]
    exact Int.sub_add_cancel _ _
  refine ⟨kept.credited, owed ▸ kept.taken, ?_, ?_⟩
  · intro id entry found counts
    refine (kept.reversal id entry found counts).puts puts ?_
    intro row located _ _
    obtain rfl := Option.some.inj (present.symm.trans located)
    exact ⟨now, amount⟩
  · intro id row found isOwed
    by_cases here : id = refundId
    · subst here
      obtain rfl := Option.some.inj (puts.here.symm.trans found)
      rw [amount]
      exact kept.skipped id before present was
    · exact kept.skipped id row ((puts.elsewhere id here).symm.trans found) isOwed

/-- A refund that fails although it had succeeded, having taken nothing back. -/
theorem OwedKept.fails (kept : OwedKept attemptId earning share refunds ledger)
    (least : ∀ cents, 0 ≤ share cents)
    (keys : ∀ i j a b, ledger.ledgerEntries.get i = some a →
      ledger.ledgerEntries.get j = some b → a.idempotencyKey = b.idempotencyKey → i = j)
    (puts : Puts refunds after refundId refund) {before : PaymentRefund}
    (present : refunds.get refundId = some before) (was : isOwed attemptId before = true)
    (now : isOwed attemptId refund = false) (unposted : ¬ ledger.Posted (.refund refundId)) :
    OwedKept attemptId earning share after ledger := by
  have owed : owedShares attemptId share after =
      owedShares attemptId share refunds - share before.amountCents := by
    rw [puts.owed, present, now, if_neg Bool.false_ne_true, Option.elim_some, was, if_pos rfl]
    exact Int.add_zero _
  have reversal (id : Nat) (entry : LedgerEntry)
      (found : ledger.ledgerEntries.get id = some entry)
      (counts : isReversalOf attemptId entry = true) : TookBack attemptId share after entry := by
    refine (kept.reversal id entry found counts).puts puts ?_
    intro _ _ _ key
    exact absurd ⟨id, entry, found, key⟩ unposted
  have below := taken_le_owed least keys reversal
  have nothing := kept.skipped refundId before present was unposted
  have nonneg := least before.amountCents
  have taken := kept.taken
  refine ⟨kept.credited, by omega, reversal, ?_⟩
  intro id row found isOwed
  by_cases here : id = refundId
  · subst here
    obtain rfl := Option.some.inj (puts.here.symm.trans found)
    rw [now] at isOwed
    cases isOwed
  · exact kept.skipped id row ((puts.elsewhere id here).symm.trans found) isOwed

/-- A refund that had not succeeded takes its share, or what is left of the earning. -/
theorem OwedKept.takes (kept : OwedKept attemptId earning share refunds ledger)
    (least : ∀ cents, 0 ≤ share cents) (puts : Puts refunds after refundId refund)
    (was : ∀ was, refunds.get refundId = some was → isOwed attemptId was = false)
    (now : isOwed attemptId refund = true) (unposted : ¬ ledger.Posted (.refund refundId))
    (ctx : Ctx) (attempts : Table PaymentAttempt)
    (shares : refundShare (attempts.get attemptId) earning.amountCents = share) :
    OwedKept attemptId earning share after
      (reverseForRefund ctx attempts ledger refundId refund) := by
  have of : refund.paymentAttemptId = attemptId := by
    simpa using ((Bool.and_eq_true _ _).mp now).1
  have owed : owedShares attemptId share after =
      owedShares attemptId share refunds + share refund.amountCents := by
    rw [puts.owed, now, if_pos rfl]
    cases before : refunds.get refundId with
    | none => simp
    | some row => simp [was row before]
  have elsewhere (entry : LedgerEntry) (took : TookBack attemptId share refunds entry) :
      TookBack attemptId share after entry := by
    refine took.puts puts ?_
    intro row before isOwed
    rw [was row before] at isOwed
    cases isOwed
  have nonneg := least refund.amountCents
  have taken := kept.taken
  obtain ⟨amount, value, cases⟩ := @reverseForRefund_cases ledger ctx attempts (refundId, refund)
    earning (by rw [of]; exact kept.credited) unposted
  dsimp only at value cases
  rw [of, shares] at value
  rcases cases with ⟨nothing, unchanged⟩ | ⟨positive, posts⟩
  · rw [unchanged]
    refine ⟨kept.credited, by omega, ?_, ?_⟩
    · intro id entry found counts
      exact elsewhere entry (kept.reversal id entry found counts)
    · intro id row found isOwed
      by_cases here : id = refundId
      · subst here
        obtain rfl := Option.some.inj (puts.here.symm.trans found)
        omega
      · exact kept.skipped id row ((puts.elsewhere id here).symm.trans found) isOwed
  · have more := takenBack_reversal posts
    dsimp only at more
    rw [of] at more
    refine ⟨?_, by omega, ?_, ?_⟩
    · refine (earningFor_post posts (Or.inr ?_)).trans kept.credited
      exact LedgerKind.noConfusion
    · intro id entry found counts
      rw [posts] at found
      rcases Table.get_insert_row found with ⟨_, rfl⟩ | old
      · refine ⟨refundId, refund, rfl, puts.here, now, ?_⟩
        show - -amount ≤ _
        omega
      · exact elsewhere entry (kept.reversal id entry old counts)
    · intro id row found isOwed fresh
      by_cases here : id = refundId
      · subst here
        exact absurd ((posted_post posts _).mpr (Or.inr rfl)) fresh
      · have before := kept.skipped id row ((puts.elsewhere id here).symm.trans found) isOwed
          fun was => fresh ((posted_post posts _).mpr (Or.inl was))
        omega

end Owed

/-! ### Every change keeps it -/

/-- The share of the earning that each amount gives back. -/
def sharesOf (attempts : Table PaymentAttempt) (attemptId : AttemptId) (earning : LedgerEntry) :
    Nat → Int :=
  refundShare (attempts.get attemptId) earning.amountCents

/-- A refund of the call that has taken back its share is to fail after all. -/
def reversalOutlives (attemptId : AttemptId) (db : DB) (m : Mutation) : Bool :=
  match m.refundNews db with
  | none => false
  | some event =>
    statusFromStripe event.status == .failed && (refundRow db event).any fun row =>
      isOwed attemptId row.2 &&
        (db.ledger.ledgerEntries.first fun e => e.idempotencyKey == .refund row.1).isSome

theorem FailsLate.unposted {db : DB} {m : Mutation} {attemptId : AttemptId} {refundId : RefundId}
    {refund : PaymentRefund} (fails : FailsLate db m refundId refund)
    (allowed : reversalOutlives attemptId db m = false) (owed : isOwed attemptId refund = true) :
    ¬ db.ledger.Posted (.refund refundId) := by
  obtain ⟨event, asked, failed, matched⟩ := fails
  simpa [reversalOutlives, asked, failed, matched, owed, ← first_key_none_iff] using allowed

/-- What the refunds of every reachable state are known to be. -/
structure OwedKnown (db : DB) : Prop where
  keys : RefundKeys db
  balanced : Balanced db.ledger
  earnings : EarningsSound db

theorem OwedKnown.unscheduled : World.Unscheduled OwedKnown := by
  intro db jobs
  have keys := RefundKeys.unscheduled db jobs
  have earnings := EarningsSound.unscheduled db jobs
  constructor
  · intro known
    exact ⟨keys.mp known.keys, known.balanced, earnings.mp known.earnings⟩
  · intro known
    exact ⟨keys.mpr known.keys, known.balanced, earnings.mpr known.earnings⟩

theorem OwedKnown.reached {w : World} (reached : World.Reached w) : OwedKnown w.db :=
  ⟨.reached reached, .reached reached, .reached reached⟩

/-- What refunds have taken back is what those that have succeeded ask for. -/
def OwedIn (attemptId : AttemptId) (earning : LedgerEntry) (db : DB) : Prop :=
  OwedKept attemptId earning (sharesOf db.paymentAttempts attemptId earning) db.paymentRefunds
    db.ledger

section Change

variable {attemptId : AttemptId} {earning : LedgerEntry} {db : DB}

theorem Effect.shares {ctx : Ctx} {after : DB} {m : Mutation} (effect : Effect ctx db m after)
    {attempt : PaymentAttempt} (present : db.paymentAttempts.get attemptId = some attempt)
    (earning : LedgerEntry) : sharesOf after.paymentAttempts attemptId earning =
      sharesOf db.paymentAttempts attemptId earning := by
  obtain ⟨next, kept, follows⟩ := effect.attempts.kept attemptId attempt present
  funext cents
  unfold sharesOf
  rw [present, kept]
  simp only [refundShare, follows.terms.amountCents]

theorem RefundKeys.unposted (keys : RefundKeys db)
    (kept : OwedIn attemptId earning db) {refundId : RefundId}
    (none : ∀ was, db.paymentRefunds.get refundId = some was → isOwed attemptId was = false)
    (of : ∀ was, db.paymentRefunds.get refundId = some was → was.paymentAttemptId = attemptId) :
    ¬ db.ledger.Posted (.refund refundId) := by
  rintro ⟨id, entry, found, key⟩
  obtain ⟨kind, refund, present, attempt⟩ := keys.row id entry refundId found key
  have counts : isReversalOf attemptId entry = true := by
    simp [isReversalOf, kind, attempt, of refund present]
  obtain ⟨other, row, named, located, owed, _⟩ := kept.reversal id entry found counts
  obtain rfl := LedgerKey.refund.inj (key.symm.trans named)
  rw [none row located] at owed
  cases owed

/-- A row's new state, with what follows from it. -/
theorem OwedIn.puts {ctx : Ctx} {after : DB} {refundId : RefundId} {refund : PaymentRefund}
    (kept : OwedIn attemptId earning db) (known : OwedKnown db)
    (shares : sharesOf after.paymentAttempts attemptId earning =
      sharesOf db.paymentAttempts attemptId earning)
    (puts : Puts db.paymentRefunds after.paymentRefunds refundId refund)
    (reverses : Reverses ctx db after refundId refund)
    (same : ∀ was, db.paymentRefunds.get refundId = some was → SameRequest was refund)
    (fails : ∀ was, db.paymentRefunds.get refundId = some was → isOwed attemptId was = true →
      isOwed attemptId refund = false → ¬ db.ledger.Posted (.refund refundId)) :
    OwedIn attemptId earning after := by
  obtain ⟨_, attempt, present, charged, _⟩ := known.earnings.earning kept.credited
  have earned := (known.earnings.earning kept.credited).1
  have least (cents : Nat) : 0 ≤ sharesOf db.paymentAttempts attemptId earning cents := by
    unfold sharesOf
    rw [present]
    exact refundShare_nonneg charged earned.le cents
  unfold OwedIn
  rw [shares]
  by_cases now : isOwed attemptId refund = true
  · obtain ⟨of, succeeded⟩ := (Bool.and_eq_true _ _).mp now
    rw [beq_iff_eq] at of succeeded
    have ledger := (reverses.resolve_right fun other => other.1 succeeded).2
    rw [ledger]
    by_cases was : ∃ before, db.paymentRefunds.get refundId = some before ∧
        isOwed attemptId before = true
    · obtain ⟨before, located, owed⟩ := was
      have again := OwedKept.again kept puts located owed now (same before located).amountCents
      by_cases posted : db.ledger.Posted (.refund refundId)
      · rw [reverseForRefund_posted ctx _ refund posted]
        exact again
      · have nothing := again.skipped refundId refund puts.here now posted
        obtain ⟨amount, value, cases⟩ := @reverseForRefund_cases db.ledger ctx db.paymentAttempts
          (refundId, refund) earning (by rw [of]; exact kept.credited) posted
        dsimp only at value cases
        rw [of] at value
        unfold sharesOf at nothing
        rcases cases with ⟨_, unchanged⟩ | ⟨positive, _⟩
        · rw [unchanged]
          exact again
        · omega
    · have none (row : PaymentRefund) (located : db.paymentRefunds.get refundId = some row) :
          isOwed attemptId row = false := by
        rw [← Bool.not_eq_true]
        intro owed
        exact was ⟨row, located, owed⟩
      refine OwedKept.takes kept least puts none now ?_ ctx db.paymentAttempts rfl
      refine known.keys.unposted kept none ?_
      intro row located
      exact (same row located).paymentAttemptId.symm.trans of
  · rw [Bool.not_eq_true] at now
    by_cases was : ∃ before, db.paymentRefunds.get refundId = some before ∧
        isOwed attemptId before = true
    · obtain ⟨before, located, owed⟩ := was
      have unposted := fails before located owed now
      obtain ⟨of, _⟩ := (Bool.and_eq_true _ _).mp owed
      have ledger : after.ledger = db.ledger := by
        rcases reverses with ⟨succeeded, _⟩ | ⟨_, unchanged⟩
        · refine absurd now ?_
          rw [isOwed, (same before located).paymentAttemptId, of, succeeded]
          decide
        · exact unchanged
      rw [ledger]
      exact OwedKept.fails kept least known.balanced.keys puts located owed now unposted
    · have unowed := OwedKept.unowed kept puts (fun row located => by
        rw [← Bool.not_eq_true]
        intro owed
        exact was ⟨row, located, owed⟩) now
      rcases reverses with ⟨succeeded, ledger⟩ | ⟨_, ledger⟩
      · rw [ledger]
        refine unowed.posts (reverseForRefund_only ..) ?_
        intro entry reversal
        have apart : refund.paymentAttemptId ≠ attemptId := by
          intro of
          simp [isOwed, of, succeeded] at now
        simp [isReversalOf, reversal.attempt, apart]
      · rw [ledger]
        exact unowed

theorem OwedIn.mutation {ctx : Ctx} {m : Mutation} (kept : OwedIn attemptId earning db)
    (known : OwedKnown db) (allowed : reversalOutlives attemptId db m = false) :
    OwedIn attemptId earning (m.apply ctx db) := by
  have effect := m.effect ctx db
  obtain ⟨_, attempt, present, _⟩ := known.earnings.earning kept.credited
  have shares := effect.shares present earning
  cases effect.refund_step with
  | quiet rows posted =>
      unfold OwedIn
      rw [shares, rows]
      refine OwedKept.posts kept posted ?_
      intro entry other
      simp [isReversalOf, other.1]
  | added refund rows reverses =>
      refine kept.puts known shares (rows ▸ .insert db.paymentRefunds refund) reverses ?_ ?_
      · intro was located
        rw [Table.get_next] at located
        cases located
      · intro was located
        rw [Table.get_next] at located
        cases located
  | changed refundId before f located request rows reverses fails =>
      refine kept.puts known shares (rows ▸ .patch located f) reverses ?_ ?_
      · intro was found
        obtain rfl := Option.some.inj (located.symm.trans found)
        exact request
      · intro was found owed now
        obtain rfl := Option.some.inj (located.symm.trans found)
        obtain ⟨of, succeeded⟩ := (Bool.and_eq_true _ _).mp owed
        refine (fails (beq_iff_eq.mp succeeded) ?_).unposted allowed owed
        intro still
        rw [isOwed, request.paymentAttemptId, of, still] at now
        cases now

end Change

/-- A call's reversals are what its refunds that have succeeded ask for, as far as its earning
goes, and one that has failed takes nothing. -/
structure OutcomesAgree (db : DB) (attemptId : AttemptId) (earning : LedgerEntry) : Prop where
  sum : db.ledger.ledgerEntries.total (isReversalOf attemptId) LedgerEntry.amountCents =
    -min earning.amountCents (owedShares attemptId
      (sharesOf db.paymentAttempts attemptId earning) db.paymentRefunds)
  failed : ∀ id refund, db.paymentRefunds.get id = some refund →
    refund.paymentAttemptId = attemptId → refund.status = .failed →
    ¬ db.ledger.Posted (.refund id)

theorem OwedIn.agree {attemptId : AttemptId} {earning : LedgerEntry} {db : DB}
    (kept : OwedIn attemptId earning db) (keys : RefundKeys db) :
    OutcomesAgree db attemptId earning := by
  refine ⟨?_, ?_⟩
  · rw [← OwedKept.taken kept]
    exact (Int.neg_neg _).symm
  · intro id refund present of failed
    refine keys.unposted kept ?_ ?_
    · intro was located
      obtain rfl := Option.some.inj (present.symm.trans located)
      simp [isOwed, failed]
    · intro was located
      obtain rfl := Option.some.inj (present.symm.trans located)
      exact of

theorem OwedIn.start {attemptId : AttemptId} {earning : LedgerEntry} {db : DB}
    (known : OwedKnown db) (credited : earningFor db.ledger attemptId = some earning)
    (unasked : ∀ id refund, db.paymentRefunds.get id = some refund →
      refund.paymentAttemptId ≠ attemptId) : OwedIn attemptId earning db := by
  have unowed (id : Nat) (refund : PaymentRefund)
      (present : db.paymentRefunds.get id = some refund) : isOwed attemptId refund = false := by
    simp [isOwed, unasked id refund present]
  have none (id : Nat) (entry : LedgerEntry) (present : db.ledger.ledgerEntries.get id = some entry)
      (counts : isReversalOf attemptId entry = true) : False := by
    simp only [isReversalOf, Bool.and_eq_true, beq_iff_eq] at counts
    obtain ⟨refundId, key⟩ := known.keys.named id entry present counts.2
    obtain ⟨_, refund, located, of⟩ := known.keys.row id entry refundId present key
    exact unasked refundId refund located (Option.some.inj (of.symm.trans counts.1))
  have earned := (known.earnings.earning credited).1
  have taken : takenBack db.ledger attemptId = 0 := by
    unfold takenBack
    rw [Table.total_zero fun id entry present counts => (none id entry present counts).elim]
    exact Int.neg_zero
  have owed : owedShares attemptId (sharesOf db.paymentAttempts attemptId earning)
      db.paymentRefunds = 0 := by
    refine Table.total_zero ?_
    intro id refund present counts
    rw [unowed id refund present] at counts
    cases counts
  refine ⟨credited, by omega, ?_, ?_⟩
  · intro id entry present counts
    exact (none id entry present counts).elim
  · intro id refund present counts
    rw [unowed id refund present] at counts
    cases counts

/-- After every run in which no refund that has taken back its share fails after all, the
reversals of a call credited before any refund are those of the refunds that have succeeded. -/
theorem outcomes_agree {w : World} (reached : World.Reached w) {attemptId : AttemptId}
    {earning : LedgerEntry} (credited : earningFor w.db.ledger attemptId = some earning)
    (unasked : ∀ id refund, w.db.paymentRefunds.get id = some refund →
      refund.paymentAttemptId ≠ attemptId) {inputs : List (Ctx × Op)}
    (guarded : Along World.step
      (World.Meets fun _ db m => reversalOutlives attemptId db m = false) w inputs) :
    OutcomesAgree (run World.step w inputs).db attemptId earning := by
  have blind (ctx : Ctx) (m : Mutation) :
      World.Unscheduled fun db => reversalOutlives attemptId db m = false := by
    intro db jobs
    cases m <;> exact Iff.rfl
  have jobless : World.Unscheduled (OwedIn attemptId earning) := fun _ _ => Iff.rfl
  have start : World.Reached w ∧ OwedIn attemptId earning w.db :=
    ⟨reached, .start (.reached reached) credited unasked⟩
  obtain ⟨after, kept⟩ := run_keeps (fun w => World.Reached w ∧ OwedIn attemptId earning w.db)
    (by
      intro w input before met
      exact ⟨before.1.step input, World.step_keeps jobless OwedKnown.unscheduled blind
        (fun _ _ _ known kept allowed => kept.mutation known allowed) (.reached before.1)
        before.2 met⟩) start guarded
  exact kept.agree (.reached after)

/-- A paid call has gone live. -/
def wentLive : World := run World.step World.empty (World.sampled (World.paid ++ World.starting))

theorem wentLive_reached : World.Reached wentLive := ⟨_, rfl⟩

set_option maxRecDepth 40000 in
theorem wentLive_unasked (id : Nat) (refund : PaymentRefund)
    (present : wentLive.db.paymentRefunds.get id = some refund) :
    refund.paymentAttemptId ≠ 0 := by
  have none : wentLive.db.paymentRefunds.rows = [] := by decide
  have member := (Table.mem_rows_iff _ _ _).mpr present
  rw [none] at member
  cases member

/-- Half of the charge is refunded in vain, and then a part of it for good. -/
def refundedInParts : List (Ctx × Op) :=
  World.sampled [.stripe (.refundOutside 0 250 .pending), .deliver 1,
    .stripe (.updateRefund 0 .failed none), .deliver 2,
    .stripe (.refundOutside 0 200 .succeeded), .deliver 3]

set_option maxRecDepth 40000 in
theorem outcomes_agree_refundedInParts : ∃ earning,
    earningFor wentLive.db.ledger 0 = some earning ∧
    OutcomesAgree (run World.step wentLive refundedInParts).db 0 earning := by
  obtain ⟨earning, credited⟩ : ∃ earning, earningFor wentLive.db.ledger 0 = some earning :=
    Option.isSome_iff_exists.mp (by decide)
  exact ⟨earning, credited,
    outcomes_agree wentLive_reached credited wentLive_unasked (by decide)⟩

/-- A refund succeeds, and Stripe later tells that it has failed. -/
def refundReturned : List (Ctx × Op) :=
  World.sampled [.stripe (.refundOutside 0 250 .succeeded), .deliver 1,
    .stripe (.updateRefund 0 .failed none), .deliver 2]

set_option maxRecDepth 40000 in
/-- The creator has paid for a refund that nobody received. -/
theorem outcomes_disagree : ¬ ∀ w, World.Reached w → ∀ attemptId earning,
    earningFor w.db.ledger attemptId = some earning →
    (∀ id refund, w.db.paymentRefunds.get id = some refund →
      refund.paymentAttemptId ≠ attemptId) →
    ∀ inputs, OutcomesAgree (run World.step w inputs).db attemptId earning := by
  intro always
  obtain ⟨earning, credited⟩ : ∃ earning, earningFor wentLive.db.ledger 0 = some earning :=
    Option.isSome_iff_exists.mp (by decide)
  have agree := always wentLive wentLive_reached 0 earning credited wentLive_unasked
    refundReturned
  have failed : ((run World.step wentLive refundReturned).db.paymentRefunds.get 0).any
      (fun refund => refund.paymentAttemptId == 0 && refund.status == .failed) = true := by decide
  have posted : ((run World.step wentLive refundReturned).db.ledger.ledgerEntries.first
      fun entry => entry.idempotencyKey == .refund 0).isSome = true := by decide
  obtain ⟨refund, present, is⟩ := Option.any_eq_true _ _ |>.mp failed
  obtain ⟨of, status⟩ := (Bool.and_eq_true _ _).mp is
  obtain ⟨id, entry, found, key⟩ := (Table.first_isSome_iff _ _).mp posted
  exact agree.failed 0 refund present (beq_iff_eq.mp of) (beq_iff_eq.mp status)
    ⟨id, entry, found, beq_iff_eq.mp key⟩

end Bling
