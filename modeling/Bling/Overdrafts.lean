import Bling.Clawback
import Bling.Earnings

set_option autoImplicit false

namespace Bling

open Library

/-! What a call comes to for its creator: never more than it earned, and never less than
nothing unless refunds and disputes take the same money twice. -/

/-- An entry that a call's start, its refunds or its disputes post. -/
def ofCall (attemptId : AttemptId) (entry : LedgerEntry) : Bool :=
  entry.paymentAttemptId == some attemptId &&
    (entry.kind == .earning || entry.kind == .refundReversal || entry.kind == .disputeDebit ||
      entry.kind == .disputeRelease)

def callCents (ledger : Ledger) (attemptId : AttemptId) : Int :=
  ledger.ledgerEntries.total (ofCall attemptId) LedgerEntry.amountCents

/-- What each call comes to is between nothing and what it earned. -/
def CallsInBounds (db : DB) : Prop :=
  ∀ attemptId attempt, db.paymentAttempts.get attemptId = some attempt →
    0 ≤ callCents db.ledger attemptId ∧ callCents db.ledger attemptId ≤ attempt.earningCents

/-! ### Steps that take the same money twice -/

/-- A debit whose release has not been posted. -/
def unreleased (ledger : Ledger) (entry : LedgerEntry) : Bool :=
  match entry.idempotencyKey with
  | .disputeDebit disputeId =>
    (ledger.ledgerEntries.first fun e => e.idempotencyKey == .disputeRelease disputeId).isNone
  | _ => false

/-- A dispute holds the call's earning back. -/
def heldBack (ledger : Ledger) (attemptId : AttemptId) : Bool :=
  (ledger.ledgerEntries.first fun entry =>
    entry.paymentAttemptId == some attemptId && unreleased ledger entry).isSome

/-- A dispute opens although a refund or another dispute has taken from the earning. -/
def disputeOverdraws (db : DB) (m : Mutation) : Bool :=
  match m.disputeNews db with
  | none => false
  | some event =>
    decide ((disputeAfter db event).status ∈ disputeOpen) &&
      (db.ledger.ledgerEntries.first fun e =>
        e.idempotencyKey == .disputeDebit event.id).isNone &&
      (disputeAfter db event).paymentAttemptId.any fun attemptId =>
        heldBack db.ledger attemptId || decide (0 < takenBack db.ledger attemptId)

/-- A refund first succeeds although a dispute holds the earning back. -/
def refundOverdraws (ctx : Ctx) (db : DB) (m : Mutation) : Bool :=
  match m.refundSuccess ctx db with
  | none => false
  | some (refundId, refund) =>
    heldBack db.ledger refund.paymentAttemptId &&
      (db.ledger.ledgerEntries.first fun e => e.idempotencyKey == .refund refundId).isNone &&
      (earningFor db.ledger refund.paymentAttemptId).any fun earning =>
        decide (0 < refundShare (db.paymentAttempts.get refund.paymentAttemptId)
          earning.amountCents refund.amountCents)

def overdraws (ctx : Ctx) (db : DB) (m : Mutation) : Bool :=
  disputeOverdraws db m || refundOverdraws ctx db m

/-! ### What a post does to a call -/

/-- The dispute holds the call's earning back. -/
def HeldBy (ledger : Ledger) (attemptId : AttemptId) (disputeId : StripeId) : Prop :=
  (∃ id entry, ledger.ledgerEntries.get id = some entry ∧
    entry.paymentAttemptId = some attemptId ∧
    entry.idempotencyKey = .disputeDebit disputeId) ∧
  ¬ ledger.Posted (.disputeRelease disputeId)

theorem unreleased_iff (ledger : Ledger) (entry : LedgerEntry) :
    unreleased ledger entry = true ↔ ∃ disputeId, entry.idempotencyKey = .disputeDebit disputeId ∧
      ¬ ledger.Posted (.disputeRelease disputeId) := by
  unfold unreleased
  cases entry.idempotencyKey with
  | disputeDebit disputeId =>
      rw [Option.isNone_iff_eq_none, first_key_none_iff]
      constructor
      · intro unposted
        exact ⟨disputeId, rfl, unposted⟩
      · rintro ⟨other, same, unposted⟩
        exact LedgerKey.disputeDebit.inj same ▸ unposted
  | _ => simp

theorem heldBack_iff (ledger : Ledger) (attemptId : AttemptId) :
    heldBack ledger attemptId = true ↔ ∃ disputeId, HeldBy ledger attemptId disputeId := by
  unfold heldBack
  rw [Table.first_isSome_iff]
  constructor
  · rintro ⟨id, entry, present, matched⟩
    rw [Bool.and_eq_true, beq_iff_eq, unreleased_iff] at matched
    obtain ⟨of, disputeId, key, unposted⟩ := matched
    exact ⟨disputeId, ⟨id, entry, present, of, key⟩, unposted⟩
  · rintro ⟨disputeId, ⟨id, entry, present, of, key⟩, unposted⟩
    refine ⟨id, entry, present, ?_⟩
    rw [Bool.and_eq_true, beq_iff_eq, unreleased_iff]
    exact ⟨of, disputeId, key, unposted⟩

section Post

variable {before after : Ledger} {entry : LedgerEntry} {attemptId : AttemptId}

theorem callCents_post (posts : after.ledgerEntries = before.ledgerEntries.insert entry)
    (attemptId : AttemptId) : callCents after attemptId =
      callCents before attemptId + if ofCall attemptId entry then entry.amountCents else 0 := by
  unfold callCents
  rw [posts, Table.total_insert]

theorem takenBack_post (posts : after.ledgerEntries = before.ledgerEntries.insert entry)
    (attemptId : AttemptId) : takenBack after attemptId = takenBack before attemptId -
      if isReversalOf attemptId entry then entry.amountCents else 0 := by
  unfold takenBack
  rw [posts, Table.total_insert]
  omega

theorem posted_post (posts : after.ledgerEntries = before.ledgerEntries.insert entry)
    (key : LedgerKey) : after.Posted key ↔ before.Posted key ∨ entry.idempotencyKey = key := by
  unfold Ledger.Posted
  rw [posts]
  constructor
  · rintro ⟨id, other, found, is⟩
    rcases Table.get_insert_row found with ⟨_, rfl⟩ | old
    · exact Or.inr is
    · exact Or.inl ⟨id, other, old, is⟩
  · rintro (⟨id, other, old, is⟩ | is)
    · exact ⟨id, other, Table.get_insert_of_some old _, is⟩
    · exact ⟨_, entry, Table.get_insert_next _ _, is⟩

theorem earningFor_post (posts : after.ledgerEntries = before.ledgerEntries.insert entry)
    (apart : entry.paymentAttemptId ≠ some attemptId ∨ entry.kind ≠ .earning) :
    earningFor after attemptId = earningFor before attemptId := by
  unfold earningFor
  rw [posts, Table.first_insert_other]
  rcases apart with other | kind
  · simp [other]
  · simp [kind]

theorem callCents_own (posts : after.ledgerEntries = before.ledgerEntries.insert entry)
    (of : entry.paymentAttemptId = some attemptId)
    (kind : entry.kind ∈ [LedgerKind.earning, .refundReversal, .disputeDebit, .disputeRelease]) :
    callCents after attemptId = callCents before attemptId + entry.amountCents := by
  have counts : ofCall attemptId entry = true := by
    simpa [ofCall, of, or_assoc] using kind
  rw [callCents_post posts, counts, if_pos rfl]

theorem takenBack_same (posts : after.ledgerEntries = before.ledgerEntries.insert entry)
    (kind : entry.kind ≠ .refundReversal) (attemptId : AttemptId) :
    takenBack after attemptId = takenBack before attemptId := by
  have apart : isReversalOf attemptId entry = false := by
    simp [isReversalOf, kind]
  rw [takenBack_post posts, apart, if_neg Bool.false_ne_true, Int.sub_zero]

theorem takenBack_reversal {ctx : Ctx} {earning : LedgerEntry} {row : RefundId × PaymentRefund}
    {amount : Int} (posts : after.ledgerEntries =
      before.ledgerEntries.insert (reversalEntry ctx earning row amount)) :
    takenBack after row.2.paymentAttemptId = takenBack before row.2.paymentAttemptId + amount := by
  have counts : isReversalOf row.2.paymentAttemptId (reversalEntry ctx earning row amount) =
      true := by
    simp [isReversalOf, reversalEntry]
  rw [takenBack_post posts, counts, if_pos rfl]
  exact Int.sub_neg _ _

/-- A new debit or release may change what holds a call's earning back. -/
theorem heldBy_post (posts : after.ledgerEntries = before.ledgerEntries.insert entry)
    {disputeId : StripeId} (apart : entry.idempotencyKey.dispute ≠ some disputeId) :
    HeldBy after attemptId disputeId ↔ HeldBy before attemptId disputeId := by
  have unchanged : after.Posted (.disputeRelease disputeId) ↔
      before.Posted (.disputeRelease disputeId) := by
    rw [posted_post posts]
    refine or_iff_left ?_
    intro same
    rw [same] at apart
    exact apart rfl
  unfold HeldBy
  rw [unchanged]
  refine and_congr_left' ?_
  constructor
  · rintro ⟨id, other, found, of, key⟩
    rw [posts] at found
    rcases Table.get_insert_row found with ⟨_, rfl⟩ | old
    · rw [key] at apart
      exact absurd rfl apart
    · exact ⟨id, other, old, of, key⟩
  · rintro ⟨id, other, old, of, key⟩
    refine ⟨id, other, ?_, of, key⟩
    rw [posts]
    exact Table.get_insert_of_some old _

theorem heldBy_undisputed (posts : after.ledgerEntries = before.ledgerEntries.insert entry)
    (undisputed : entry.idempotencyKey.dispute = none) (attemptId : AttemptId)
    (disputeId : StripeId) :
    HeldBy after attemptId disputeId ↔ HeldBy before attemptId disputeId := by
  refine heldBy_post posts ?_
  rw [undisputed]
  exact (Option.some_ne_none disputeId).symm

end Post

/-! ### The invariant -/

/-- What a credited call comes to: what it earned, less what refunds have taken back, less the
whole of it while a dispute holds it back. -/
structure CallSound (ledger : Ledger) (attemptId : AttemptId) (earnedCents : Int) : Prop where
  sum : callCents ledger attemptId = earnedCents - takenBack ledger attemptId -
    if heldBack ledger attemptId then earnedCents else 0
  taken : 0 ≤ takenBack ledger attemptId
  capped : takenBack ledger attemptId ≤ earnedCents
  apart : heldBack ledger attemptId = true → takenBack ledger attemptId = 0
  one : ∀ a b, HeldBy ledger attemptId a → HeldBy ledger attemptId b → a = b

structure CallsSound (ledger : Ledger) : Prop where
  uncredited : ∀ attemptId, earningFor ledger attemptId = none → ∀ id entry,
    ledger.ledgerEntries.get id = some entry → entry.paymentAttemptId ≠ some attemptId
  credited : ∀ attemptId earning, earningFor ledger attemptId = some earning →
    CallSound ledger attemptId earning.amountCents

theorem CallsSound.empty : CallsSound .empty := by
  refine ⟨?_, ?_⟩
  · intro attemptId _ id entry found
    cases found
  · intro attemptId earning found
    cases found

/-! ### Every change keeps it -/

section Change

variable {before after : Ledger} {entry : LedgerEntry} {attemptId : AttemptId}

theorem heldBack_congr (same : ∀ disputeId,
    HeldBy after attemptId disputeId ↔ HeldBy before attemptId disputeId) :
    heldBack after attemptId = heldBack before attemptId := by
  rw [Bool.eq_iff_iff, heldBack_iff, heldBack_iff]
  exact exists_congr same

theorem CallSound.elsewhere {earnedCents : Int} (sound : CallSound before attemptId earnedCents)
    (posts : after.ledgerEntries = before.ledgerEntries.insert entry)
    (other : entry.paymentAttemptId ≠ some attemptId)
    (same : ∀ disputeId, HeldBy after attemptId disputeId ↔ HeldBy before attemptId disputeId) :
    CallSound after attemptId earnedCents := by
  have held := heldBack_congr same
  have cents : callCents after attemptId = callCents before attemptId := by
    rw [callCents_post posts]
    simp [ofCall, other]
  have taken : takenBack after attemptId = takenBack before attemptId := by
    rw [takenBack_post posts]
    simp [isReversalOf, other]
  refine ⟨?_, ?_, ?_, ?_, ?_⟩
  · rw [cents, taken, held]
    exact sound.sum
  · rw [taken]
    exact sound.taken
  · rw [taken]
    exact sound.capped
  · rw [taken, held]
    exact sound.apart
  · intro a b first second
    exact sound.one a b ((same a).mp first) ((same b).mp second)

/-- A call of which no dispute holds anything back. -/
theorem CallSound.free {ledger : Ledger} {earnedCents : Int}
    (free : heldBack ledger attemptId = false)
    (sum : callCents ledger attemptId = earnedCents - takenBack ledger attemptId)
    (taken : 0 ≤ takenBack ledger attemptId) (capped : takenBack ledger attemptId ≤ earnedCents) :
    CallSound ledger attemptId earnedCents := by
  refine ⟨?_, taken, capped, ?_, ?_⟩
  · rw [free, sum]
    exact (Int.sub_zero _).symm
  · intro isHeld
    rw [free] at isHeld
    cases isHeld
  · intro a b heldA
    have isHeld := (heldBack_iff ledger attemptId).mpr ⟨a, heldA⟩
    rw [free] at isHeld
    cases isHeld

/-- A post concerns the call it names. -/
theorem CallsSound.post (sound : CallsSound before)
    (posts : after.ledgerEntries = before.ledgerEntries.insert entry)
    (own : ∀ attemptId, entry.paymentAttemptId = some attemptId → ∃ earning,
      earningFor after attemptId = some earning ∧ CallSound after attemptId earning.amountCents)
    (others : ∀ attemptId, entry.paymentAttemptId ≠ some attemptId → ∀ disputeId,
      HeldBy after attemptId disputeId ↔ HeldBy before attemptId disputeId) :
    CallsSound after := by
  refine ⟨?_, ?_⟩
  · intro attemptId uncredited id row found of
    by_cases here : entry.paymentAttemptId = some attemptId
    · obtain ⟨earning, credited, _⟩ := own attemptId here
      rw [uncredited] at credited
      cases credited
    · rw [earningFor_post posts (Or.inl here)] at uncredited
      rw [posts] at found
      rcases Table.get_insert_row found with ⟨_, rfl⟩ | old
      · exact here of
      · exact sound.uncredited attemptId uncredited id row old of
  · intro attemptId earning credited
    by_cases here : entry.paymentAttemptId = some attemptId
    · obtain ⟨other, found, keeps⟩ := own attemptId here
      obtain rfl := Option.some.inj (found.symm.trans credited)
      exact keeps
    · rw [earningFor_post posts (Or.inl here)] at credited
      exact (sound.credited attemptId earning credited).elsewhere posts here (others attemptId here)

theorem CallsSound.reserve {ledger : Ledger} (sound : CallsSound ledger) {entry : LedgerEntry}
    (reservation : IsReservation entry) : CallsSound (postEntry ledger entry).1 := by
  rcases postEntry_cases ledger entry with ⟨unchanged, _⟩ | ⟨posts, _, _⟩
  · rw [unchanged]
    exact sound
  · obtain ⟨_, unnamed, itemId, key⟩ := reservation
    refine sound.post posts ?_ ?_
    · intro attemptId of
      rw [unnamed] at of
      cases of
    · intro attemptId _ disputeId
      refine heldBy_undisputed posts ?_ attemptId disputeId
      rw [key]
      rfl

theorem CallsSound.credit {ledger : Ledger} (sound : CallsSound ledger) (env : Env)
    (credits : ∀ id entry attemptId, ledger.ledgerEntries.get id = some entry →
      entry.kind = .earning → entry.paymentAttemptId = some attemptId →
      entry.idempotencyKey = .earning attemptId)
    (attemptId : AttemptId) {attempt : PaymentAttempt} (earns : attempt.Earns) (callId : CallId)
    (liveAt : Time) : CallsSound (creditEarning env ledger attemptId attempt callId liveAt) := by
  unfold creditEarning
  split
  · change CallsSound (postEntry ledger (earningEntry env attemptId attempt callId liveAt)).1
    rcases postEntry_cases ledger (earningEntry env attemptId attempt callId liveAt) with
      ⟨unchanged, _⟩ | ⟨posts, _, unposted⟩
    · rw [unchanged]
      exact sound
    · have held := heldBy_undisputed posts rfl
      cases credited : earningFor ledger attemptId with
      | some earning =>
          obtain ⟨id, present, of, kind⟩ := earningFor_some credited
          exact absurd ⟨id, earning, present, credits id earning attemptId present kind of⟩ unposted
      | none =>
          have none (id : Nat) (entry : LedgerEntry)
              (present : ledger.ledgerEntries.get id = some entry) :=
            sound.uncredited attemptId credited id entry present
          have cents : callCents ledger attemptId = 0 := by
            refine Table.total_zero ?_
            intro id entry present counts
            simp [ofCall, none id entry present] at counts
          have taken : takenBack ledger attemptId = 0 := by
            unfold takenBack
            rw [Table.total_zero, Int.neg_zero]
            intro id entry present counts
            simp [isReversalOf, none id entry present] at counts
          have free : heldBack ledger attemptId = false := by
            rw [← Bool.not_eq_true, heldBack_iff]
            rintro ⟨disputeId, ⟨id, entry, present, of, _⟩, _⟩
            exact none id entry present of
          refine sound.post posts ?_ fun other _ => held other
          intro other of
          obtain rfl := Option.some.inj of
          refine ⟨earningEntry env attemptId attempt callId liveAt, ?_, ?_⟩
          · have absent := Option.map_eq_none_iff.mp credited
            unfold Table.first at absent
            unfold earningFor Table.first
            rw [posts]
            simp only [Table.insert, List.find?_append, absent, Option.none_or]
            simp [earningEntry]
          · have cents' := @callCents_own _ _ _ attemptId posts rfl (by simp [earningEntry])
            have taken' := takenBack_same posts LedgerKind.noConfusion attemptId
            have free' := heldBack_congr (held attemptId)
            rw [cents] at cents'
            rw [taken] at taken'
            rw [free] at free'
            have earned : 0 < (earningEntry env attemptId attempt callId liveAt).amountCents :=
              earns.earned
            exact .free free' (by omega) (by omega) (by omega)
  · exact sound

/-- A refund that succeeds takes back no more than is left, of an earning that no dispute
holds back. -/
theorem CallsSound.reverse {ledger : Ledger} (sound : CallsSound ledger) (ctx : Ctx)
    (attempts : Table PaymentAttempt) (refundId : RefundId) (refund : PaymentRefund)
    (allowed : ∀ earning, earningFor ledger refund.paymentAttemptId = some earning →
      ¬ ledger.Posted (.refund refundId) →
      0 < refundShare (attempts.get refund.paymentAttemptId) earning.amountCents
        refund.amountCents → heldBack ledger refund.paymentAttemptId = false) :
    CallsSound (reverseForRefund ctx attempts ledger refundId refund) := by
  cases credited : earningFor ledger refund.paymentAttemptId with
  | none =>
      simp only [reverseForRefund, credited]
      exact sound
  | some earning =>
      by_cases posted : ledger.Posted (.refund refundId)
      · rw [reverseForRefund_posted ctx attempts refund posted]
        exact sound
      · obtain ⟨amount, same, ⟨_, unchanged⟩ | ⟨positive, posts⟩⟩ :=
          @reverseForRefund_cases ledger ctx attempts (refundId, refund) earning credited posted
        · dsimp only at unchanged
          rw [unchanged]
          exact sound
        · have call := sound.credited _ earning credited
          have capped := call.capped
          have taken := call.taken
          have sum := call.sum
          dsimp only at same
          have free := allowed earning credited posted (by omega)
          have held := heldBy_undisputed posts rfl
          refine sound.post posts ?_ fun other _ => held other
          intro attemptId of
          have here : refund.paymentAttemptId = attemptId := Option.some.inj of
          subst here
          refine ⟨earning,
            (earningFor_post posts (Or.inr LedgerKind.noConfusion)).trans credited, ?_⟩
          have free' := heldBack_congr (held refund.paymentAttemptId)
          have cents' := @callCents_own _ _ _ refund.paymentAttemptId posts rfl
            (by simp [reversalEntry])
          have taken' := takenBack_reversal posts
          dsimp only [reversalEntry] at cents' taken' free'
          rw [free] at free' sum
          rw [if_neg Bool.false_ne_true] at sum
          exact .free free' (by omega) (by omega) (by omega)

/-- A first debit, of an earning of which nothing has been taken. -/
theorem CallsSound.debit (sound : CallsSound before)
    (posts : after.ledgerEntries = before.ledgerEntries.insert entry) {disputeId : StripeId}
    (key : entry.idempotencyKey = .disputeDebit disputeId) {earning : LedgerEntry}
    (credited : earningFor before attemptId = some earning)
    (adjusts : Adjusts .disputeDebit attemptId (-earning.amountCents) entry)
    (unposted : ¬ before.Posted (.disputeDebit disputeId))
    (unreleased : ¬ before.Posted (.disputeRelease disputeId))
    (free : heldBack before attemptId = false) (untaken : takenBack before attemptId ≤ 0) :
    CallsSound after := by
  have elsewhere (other : AttemptId) {other' : StripeId} (apart : other' ≠ disputeId) :
      HeldBy after other other' ↔ HeldBy before other other' := by
    refine heldBy_post posts ?_
    rw [key]
    exact fun same => apart (Option.some.inj same).symm
  have unheld (other : AttemptId) : ¬ HeldBy before other disputeId := by
    rintro ⟨⟨id, row, present, _, same⟩, _⟩
    exact unposted ⟨id, row, present, same⟩
  refine sound.post posts ?_ ?_
  · intro other of
    obtain rfl := Option.some.inj (adjusts.attempt.symm.trans of)
    have apart : entry.kind ≠ .earning := by
      rw [adjusts.kind]
      exact LedgerKind.noConfusion
    refine ⟨earning, (earningFor_post posts (Or.inr apart)).trans credited, ?_⟩
    have call := sound.credited attemptId earning credited
    have taken := call.taken
    have sum := call.sum
    rw [free, if_neg Bool.false_ne_true] at sum
    have held : HeldBy after attemptId disputeId := by
      refine ⟨⟨_, entry, posts ▸ Table.get_insert_next _ _, of, key⟩, ?_⟩
      rw [posted_post posts, key]
      exact fun posted => unreleased (posted.resolve_right LedgerKey.noConfusion)
    have isHeld : heldBack after attemptId = true := (heldBack_iff _ _).mpr ⟨disputeId, held⟩
    have same := takenBack_same posts (by rw [adjusts.kind]; exact LedgerKind.noConfusion) attemptId
    have cents := callCents_own posts of (by simp [adjusts.kind])
    rw [adjusts.amount] at cents
    have only (other : StripeId) (holds : HeldBy after attemptId other) : other = disputeId := by
      by_contra apart
      have was := (heldBack_iff _ _).mpr ⟨other, (elsewhere attemptId apart).mp holds⟩
      rw [free] at was
      cases was
    refine ⟨?_, ?_, ?_, ?_, ?_⟩
    · rw [isHeld, if_pos rfl]
      omega
    · omega
    · have capped := call.capped
      omega
    · intro _
      omega
    · intro a b first second
      exact (only a first).trans (only b second).symm
  · intro other apart otherId
    by_cases same : otherId = disputeId
    · subst same
      refine iff_of_false ?_ (unheld other)
      rintro ⟨⟨id, row, found, of, named⟩, _⟩
      rw [posts] at found
      rcases Table.get_insert_row found with ⟨_, rfl⟩ | old
      · exact apart of
      · exact unposted ⟨id, row, old, named⟩
    · exact elsewhere other same

/-- The release of the debit that holds the earning back. -/
theorem CallsSound.release (sound : CallsSound before)
    (posts : after.ledgerEntries = before.ledgerEntries.insert entry) {disputeId : StripeId}
    (key : entry.idempotencyKey = .disputeRelease disputeId) {earning : LedgerEntry}
    (credited : earningFor before attemptId = some earning)
    (adjusts : Adjusts .disputeRelease attemptId earning.amountCents entry)
    (held : HeldBy before attemptId disputeId)
    (only : ∀ other, HeldBy before other disputeId → other = attemptId) : CallsSound after := by
  have elsewhere (other : AttemptId) {other' : StripeId} (apart : other' ≠ disputeId) :
      HeldBy after other other' ↔ HeldBy before other other' := by
    refine heldBy_post posts ?_
    rw [key]
    exact fun same => apart (Option.some.inj same).symm
  have released (other : AttemptId) : ¬ HeldBy after other disputeId := by
    rintro ⟨_, unposted⟩
    exact unposted ((posted_post posts _).mpr (Or.inr key))
  refine sound.post posts ?_ ?_
  · intro other of
    obtain rfl := Option.some.inj (adjusts.attempt.symm.trans of)
    have apart : entry.kind ≠ .earning := by
      rw [adjusts.kind]
      exact LedgerKind.noConfusion
    refine ⟨earning, (earningFor_post posts (Or.inr apart)).trans credited, ?_⟩
    have call := sound.credited attemptId earning credited
    have isHeld : heldBack before attemptId = true := (heldBack_iff _ _).mpr ⟨disputeId, held⟩
    have untaken := call.apart isHeld
    have capped := call.capped
    have sum := call.sum
    rw [isHeld, if_pos rfl] at sum
    have free : heldBack after attemptId = false := by
      rw [← Bool.not_eq_true, heldBack_iff]
      rintro ⟨other, holds⟩
      by_cases same : other = disputeId
      · exact released attemptId (same ▸ holds)
      · exact same (call.one other disputeId ((elsewhere attemptId same).mp holds) held)
    have same := takenBack_same posts (by rw [adjusts.kind]; exact LedgerKind.noConfusion) attemptId
    have cents := callCents_own posts of (by simp [adjusts.kind])
    rw [adjusts.amount] at cents
    exact .free free (by omega) (by omega) (by omega)
  · intro other apart otherId
    by_cases same : otherId = disputeId
    · subst same
      refine iff_of_false (released other) ?_
      intro holds
      exact apart (only other holds ▸ adjusts.attempt)
    · exact elsewhere other same

/-- A dispute's event, once the entries of disputes are sound. -/
theorem CallsSound.adjust {db : DB} (sound : CallsSound db.ledger) (disputes : DisputesSound db)
    (ctx : Ctx) (event : DisputeEvent)
    (allowed : ∀ attemptId, (disputeAfter db event).paymentAttemptId = some attemptId →
      (disputeAfter db event).status ∈ disputeOpen →
      ¬ db.ledger.Posted (.disputeDebit event.id) →
      heldBack db.ledger attemptId = false ∧ takenBack db.ledger attemptId ≤ 0) :
    CallsSound (adjustForDispute ctx db.ledger (disputeAfter db event)) := by
  cases of : (disputeAfter db event).paymentAttemptId with
  | none =>
      rw [adjustForDispute_uncredited ctx]
      · exact sound
      · intro attemptId named
        rw [of] at named
        cases named
  | some attemptId =>
      have ofAttempt := disputeAfter_of of
      have one := disputesAfter_one disputes.one event
      have kept (other : AttemptId) (was : DisputeOf db.paymentDisputes event.id other) :
          other = attemptId := (was.after event).unique one ofAttempt
      cases credited : earningFor db.ledger attemptId with
      | none =>
          rw [adjustForDispute_uncredited ctx]
          · exact sound
          · intro other named
            obtain rfl := Option.some.inj (of.symm.trans named)
            exact credited
      | some earning =>
          have call := sound.credited attemptId earning credited
          by_cases isOpen : (disputeAfter db event).status ∈ disputeOpen
          · rw [adjustForDispute_open ctx of credited isOpen]
            rcases postEntry_cases db.ledger
              (debitEntry ctx (disputeAfter db event) attemptId earning) with
              ⟨unchanged, _⟩ | ⟨posts, _, unposted⟩
            · rw [unchanged]
              exact sound
            · obtain ⟨free, untaken⟩ := allowed attemptId of isOpen unposted
              refine sound.debit posts rfl credited ⟨rfl, rfl, rfl⟩ unposted ?_ free untaken
              rintro ⟨id, entry, present, key⟩
              obtain ⟨_, _, _, _, _, debited⟩ := disputes.release id entry event.id present key
              exact unposted debited
          · by_cases resolved : (disputeAfter db event).status ∈ disputeResolved
            · rcases adjustForDispute_resolved ctx of credited resolved with
                ⟨same, _⟩ | ⟨id, debit, present, key, released⟩
              · rw [same]
                exact sound
              · rw [released]
                have adjusts := disputes.debit_of one (fun other was => was.after event) ofAttempt
                  credited present key
                rcases postEntry_cases db.ledger
                  (releaseEntry ctx (disputeAfter db event) attemptId earning debit) with
                  ⟨unchanged, _⟩ | ⟨posts, _, unposted⟩
                · rw [unchanged]
                  exact sound
                · refine sound.release posts rfl credited ⟨rfl, rfl, ?_⟩
                    ⟨⟨id, debit, present, adjusts.attempt, key⟩, unposted⟩ ?_
                  · show -debit.amountCents = earning.amountCents
                    rw [adjusts.amount, Int.neg_neg]
                  · rintro other ⟨⟨otherId, row, located, of, named⟩, _⟩
                    obtain ⟨named', _, was, _, is⟩ :=
                      disputes.debit otherId row event.id located named
                    obtain rfl := Option.some.inj (is.attempt.symm.trans of)
                    exact kept _ was
            · rw [adjustForDispute_undecided ctx isOpen resolved]
              exact sound

end Change

theorem disputeOverdraws_false {db : DB} {m : Mutation} (allowed : disputeOverdraws db m = false)
    {event : DisputeEvent} (asked : m.disputeNews db = some event) {attemptId : AttemptId}
    (of : (disputeAfter db event).paymentAttemptId = some attemptId)
    (isOpen : (disputeAfter db event).status ∈ disputeOpen)
    (unposted : ¬ db.ledger.Posted (.disputeDebit event.id)) :
    heldBack db.ledger attemptId = false ∧ takenBack db.ledger attemptId ≤ 0 := by
  have first := (first_key_none_iff _ _).mpr unposted
  simpa [disputeOverdraws, asked, of, isOpen, first] using allowed

theorem refundOverdraws_false {ctx : Ctx} {db : DB} {m : Mutation}
    (allowed : refundOverdraws ctx db m = false) {refundId : RefundId} {refund : PaymentRefund}
    (asked : m.refundSuccess ctx db = some (refundId, refund)) {earning : LedgerEntry}
    (credited : earningFor db.ledger refund.paymentAttemptId = some earning)
    (unposted : ¬ db.ledger.Posted (.refund refundId))
    (share : 0 < refundShare (db.paymentAttempts.get refund.paymentAttemptId) earning.amountCents
      refund.amountCents) : heldBack db.ledger refund.paymentAttemptId = false := by
  have first := (first_key_none_iff _ _).mpr unposted
  simpa [refundOverdraws, asked, credited, first, share] using allowed

/-- What the entries of every reachable state are known to be. -/
structure LedgerKnown (db : DB) : Prop where
  settled : Settled db
  disputes : DisputesSound db
  earnings : EarningsSound db

theorem LedgerKnown.unscheduled : World.Unscheduled LedgerKnown := by
  intro db jobs
  have settled := Settled.unscheduled db jobs
  have disputes := DisputesSound.unscheduled db jobs
  have earnings := EarningsSound.unscheduled db jobs
  constructor
  · intro sound
    exact ⟨settled.mp sound.settled, disputes.mp sound.disputes, earnings.mp sound.earnings⟩
  · intro sound
    exact ⟨settled.mpr sound.settled, disputes.mpr sound.disputes, earnings.mpr sound.earnings⟩

theorem LedgerKnown.reached {w : World} (reached : World.Reached w) : LedgerKnown w.db :=
  ⟨.reached reached, .reached reached, .reached reached⟩

theorem CallsSound.mutation {ctx : Ctx} {db : DB} {m : Mutation} (sound : CallsSound db.ledger)
    (known : LedgerKnown db) (allowed : overdraws ctx db m = false) :
    CallsSound (m.apply ctx db).ledger := by
  obtain ⟨disputeAllowed, refundAllowed⟩ := Bool.or_eq_false_iff.mp allowed
  cases (m.effect ctx db).ledger_cause with
  | reserves posted =>
      exact posted.induct CallsSound sound fun _ _ reservation sound => sound.reserve reservation
  | credits callId call attemptId attempt asked present allows calls pays held ledger =>
      rw [ledger]
      refine sound.credit ctx.env ?_ attemptId (known.earnings.charge attemptId attempt held)
        callId ctx.now
      intro id entry other found kind of
      obtain ⟨named, _, key, ofNamed, _⟩ := known.settled.earned id entry found kind
      obtain rfl := Option.some.inj (ofNamed.symm.trans of)
      exact key
  | reverses refundId row refund asked attempt amount succeeded present ledger =>
      rw [ledger]
      refine sound.reverse ctx db.paymentAttempts refundId refund ?_
      rw [attempt, amount]
      intro earning credited unposted share
      exact refundOverdraws_false refundAllowed asked credited unposted share
  | adjusts event asked disputes ledger =>
      rw [ledger]
      refine sound.adjust known.disputes ctx event ?_
      intro attemptId of isOpen unposted
      exact disputeOverdraws_false disputeAllowed asked of isOpen unposted

theorem CallsSound.inBounds {db : DB} (sound : CallsSound db.ledger)
    (earnings : EarningsSound db) : CallsInBounds db := by
  intro attemptId attempt present
  have earned := (earnings.charge attemptId attempt present).earned
  cases credited : earningFor db.ledger attemptId with
  | none =>
      have cents : callCents db.ledger attemptId = 0 := by
        refine Table.total_zero ?_
        intro id entry found counts
        simp [ofCall, sound.uncredited attemptId credited id entry found] at counts
      omega
  | some earning =>
      obtain ⟨_, other, located, _, amount⟩ := earnings.earning credited
      obtain rfl := Option.some.inj (located.symm.trans present)
      have call := sound.credited attemptId earning credited
      have sum := call.sum
      have taken := call.taken
      have capped := call.capped
      by_cases held : heldBack db.ledger attemptId = true
      · have untaken := call.apart held
        rw [if_pos held] at sum
        omega
      · rw [if_neg held] at sum
        omega

/-- In every run none of whose steps opens a dispute on an earning already taken from, or takes
from one that a dispute holds back, no call costs its creator more than it earned or pays more. -/
theorem calls_in_bounds (inputs : List (Ctx × Op))
    (guarded : Along World.step (World.Meets fun ctx db m => overdraws ctx db m = false)
      World.empty inputs) : CallsInBounds (run World.step World.empty inputs).db := by
  have reached : World.Reached (run World.step World.empty inputs) := ⟨inputs, rfl⟩
  have blind (ctx : Ctx) (m : Mutation) :
      World.Unscheduled fun db => overdraws ctx db m = false := by
    intro db jobs
    cases m <;> exact Iff.rfl
  have jobless : World.Unscheduled fun db => CallsSound db.ledger := fun _ _ => Iff.rfl
  have sound := World.guarded_keeps jobless LedgerKnown.unscheduled blind CallsSound.empty
    (fun _ _ _ known sound allowed => sound.mutation known allowed)
    (fun _ reached => LedgerKnown.reached reached) guarded
  exact sound.inBounds (.reached reached)

/-- A call that has gone live is disputed, and the dispute is won. -/
def disputeWon : List (Ctx × Op) :=
  World.sampled (World.paid ++ World.starting ++
    [.stripe (.createDispute ⟨0, 500, "usd", "fraudulent", none, .needsResponse⟩), .deliver 1,
      .stripe (.updateDispute 0 .won .chargeDisputeClosed), .deliver 2])

/-- The call is refunded once the dispute is won. -/
def refundedLater : List (Ctx × Op) :=
  disputeWon ++ World.sampled [.stripe (.refundOutside 0 500 .succeeded), .deliver 3]

set_option maxRecDepth 40000 in
theorem calls_in_bounds_refundedLater :
    CallsInBounds (run World.step World.empty refundedLater).db :=
  calls_in_bounds refundedLater (by decide)

/-- The call is refunded while it is disputed. -/
def refundedDisputed : List (Ctx × Op) :=
  World.sampled (World.paid ++ World.starting ++
    [.stripe (.createDispute ⟨0, 500, "usd", "fraudulent", none, .needsResponse⟩), .deliver 1,
      .stripe (.refundOutside 0 500 .succeeded), .deliver 2])

set_option maxRecDepth 40000 in
/-- The creator loses the call's earning twice. -/
theorem call_overdrawn : ¬ ∀ inputs, CallsInBounds (run World.step World.empty inputs).db := by
  intro always
  have cents : callCents (run World.step World.empty refundedDisputed).db.ledger 0 = -428 := by
    decide
  have present : ((run World.step World.empty refundedDisputed).db.paymentAttempts.get 0).isSome =
      true := by decide
  obtain ⟨attempt, found⟩ := Option.isSome_iff_exists.mp present
  have bounds := always refundedDisputed 0 attempt found
  rw [cents] at bounds
  exact absurd bounds.1 (by decide)

end Bling
