import Bling.Library.Totals
import Bling.Overdrafts
import Bling.RefundOutcomes

set_option autoImplicit false

namespace Bling

open Library

/-! What every call comes to for its creator, and that balances hold nothing else. -/

/-! ### Where entries come from -/

/-- The kind of entry that a key is for. -/
def LedgerKey.kind : LedgerKey → LedgerKind
  | .earning _ => .earning
  | .refund _ => .refundReversal
  | .disputeDebit _ => .disputeDebit
  | .disputeRelease _ => .disputeRelease
  | .payoutReservation _ => .payoutReservation

/-- The entry is its charge's creator's, in its charge's currency. -/
def OfCharge (attempts : Table PaymentAttempt) (entry : LedgerEntry) : Prop :=
  ∀ attemptId, entry.paymentAttemptId = some attemptId → ∃ attempt,
    attempts.get attemptId = some attempt ∧ entry.creatorId = attempt.creatorId ∧
      entry.currency = attempt.currency

/-- The entry is about a call that has earned, or a payout. -/
structure Accounted (attempts : Table PaymentAttempt) (ledger : Ledger) (entry : LedgerEntry) :
    Prop where
  kind : entry.kind = entry.idempotencyKey.kind
  named : ∀ attemptId, entry.paymentAttemptId = some attemptId →
    ∃ earning, earningFor ledger attemptId = some earning
  unnamed : entry.paymentAttemptId = none ↔ entry.kind = .payoutReservation
  charge : OfCharge attempts entry

structure AccountsSound (attempts : Table PaymentAttempt) (ledger : Ledger) : Prop where
  accounted : ∀ id entry, ledger.ledgerEntries.get id = some entry →
    Accounted attempts ledger entry
  capped : ∀ attemptId earning, earningFor ledger attemptId = some earning →
    0 ≤ takenBack ledger attemptId ∧ takenBack ledger attemptId ≤ earning.amountCents

theorem AccountsSound.empty : AccountsSound .empty .empty := by
  refine ⟨?_, ?_⟩
  · intro id entry found
    cases found
  · intro attemptId earning found
    cases found

/-- The entry says what the earning of its call says. -/
def CopiedFrom (ledger : Ledger) (entry : LedgerEntry) : Prop :=
  ∃ attemptId earning, entry.paymentAttemptId = some attemptId ∧
    earningFor ledger attemptId = some earning ∧ entry.creatorId = earning.creatorId ∧
    entry.currency = earning.currency

theorem reverseForRefund_copies (ctx : Ctx) (attempts : Table PaymentAttempt) (ledger : Ledger)
    (refundId : RefundId) (refund : PaymentRefund) :
    PostsOnly (fun entry => IsReversal refundId refund entry ∧ CopiedFrom ledger entry) ledger
      (reverseForRefund ctx attempts ledger refundId refund) := by
  unfold reverseForRefund
  split
  · exact .refl _ ledger
  · rename_i earning credited
    dsimp only
    split
    · exact .refl _ ledger
    · exact .one ledger ⟨⟨rfl, rfl, rfl⟩, _, earning, rfl, credited, rfl, rfl⟩

theorem adjustForDispute_copies (ctx : Ctx) (ledger : Ledger) (dispute : PaymentDispute) :
    PostsOnly (fun entry => IsAdjustment dispute entry ∧ CopiedFrom ledger entry) ledger
      (adjustForDispute ctx ledger dispute) := by
  unfold adjustForDispute
  split
  · exact .refl _ ledger
  · rename_i attemptId of
    split
    · exact .refl _ ledger
    · rename_i earning credited
      split
      · exact .one ledger
          ⟨⟨Or.inl ⟨rfl, rfl⟩, of.symm⟩, attemptId, earning, rfl, credited, rfl, rfl⟩
      · split
        · split
          · exact .refl _ ledger
          · exact .one ledger
              ⟨⟨Or.inr ⟨rfl, rfl⟩, of.symm⟩, attemptId, earning, rfl, credited, rfl, rfl⟩
        · exact .refl _ ledger

/-! ### Every change keeps it -/

section Change

variable {attempts attempts' : Table PaymentAttempt} {ledger ledger' : Ledger}
  {kind : LedgerEntry → Prop}

theorem OfCharge.follow {entry : LedgerEntry} (charge : OfCharge attempts entry)
    (follow : AttemptsFollow attempts attempts') : OfCharge attempts' entry := by
  intro attemptId of
  obtain ⟨attempt, present, creator, currency⟩ := charge attemptId of
  obtain ⟨after, kept, follows⟩ := follow.kept attemptId attempt present
  exact ⟨after, kept, creator.trans follows.terms.creatorId.symm,
    currency.trans follows.terms.currency.symm⟩

theorem AccountsSound.accounted_posts (sound : AccountsSound attempts ledger)
    (follow : AttemptsFollow attempts attempts') (posted : PostsOnly kind ledger ledger')
    (each : ∀ id entry, kind entry → ledger'.ledgerEntries.get id = some entry →
      Accounted attempts' ledger' entry) (id : Nat) (entry : LedgerEntry)
    (found : ledger'.ledgerEntries.get id = some entry) : Accounted attempts' ledger' entry := by
  rcases posted.origin found with old | new
  · have before := sound.accounted id entry old
    refine ⟨before.kind, ?_, before.unnamed, before.charge.follow follow⟩
    intro attemptId of
    obtain ⟨earning, credited⟩ := before.named attemptId of
    exact ⟨earning, posted.earningFor credited⟩
  · exact each id entry new found

/-- A call that no entry names has had nothing taken back. -/
theorem AccountsSound.untaken (sound : AccountsSound attempts ledger) {attemptId : AttemptId}
    (uncredited : earningFor ledger attemptId = none) : takenBack ledger attemptId = 0 := by
  unfold takenBack
  rw [Table.total_zero, Int.neg_zero]
  intro id entry present reversal
  simp only [isReversalOf, Bool.and_eq_true, beq_iff_eq] at reversal
  obtain ⟨earning, credited⟩ := (sound.accounted id entry present).named attemptId reversal.1
  rw [uncredited] at credited
  cases credited

/-- Posts that are no reversals leave the caps as they are. -/
theorem AccountsSound.capped_posts (sound : AccountsSound attempts ledger)
    (posted : PostsOnly kind ledger ledger')
    (unreversed : ∀ entry, kind entry → entry.kind ≠ .refundReversal)
    (earned : ∀ entry, kind entry → 0 ≤ entry.amountCents ∨ entry.kind ≠ .earning)
    (attemptId : AttemptId) (earning : LedgerEntry)
    (credited : earningFor ledger' attemptId = some earning) :
    0 ≤ takenBack ledger' attemptId ∧ takenBack ledger' attemptId ≤ earning.amountCents := by
  have same : takenBack ledger' attemptId = takenBack ledger attemptId := by
    refine congrArg (- ·) (posted.total ?_)
    intro entry is
    simp [isReversalOf, unreversed entry is]
  rw [same]
  cases before : earningFor ledger attemptId with
  | some old =>
      obtain rfl := Option.some.inj ((posted.earningFor before).symm.trans credited)
      exact sound.capped attemptId old before
  | none =>
      have nothing := sound.untaken before
      obtain ⟨id, present, of, isEarning⟩ := earningFor_some credited
      rcases posted.origin present with old | new
      · obtain ⟨other, known⟩ := (sound.accounted id earning old).named attemptId of
        rw [before] at known
        cases known
      · have positive := (earned earning new).resolve_right (not_not_intro isEarning)
        omega

theorem CopiedFrom.accounted {entry : LedgerEntry} (copied : CopiedFrom ledger entry)
    (sound : AccountsSound attempts ledger) (follow : AttemptsFollow attempts attempts')
    (posted : PostsOnly kind ledger ledger') (own : entry.kind = entry.idempotencyKey.kind)
    (paid : entry.kind ≠ .payoutReservation) : Accounted attempts' ledger' entry := by
  obtain ⟨attemptId, earning, of, credited, creator, currency⟩ := copied
  refine ⟨own, ?_, ?_, ?_⟩
  · intro other named
    obtain rfl := Option.some.inj (of.symm.trans named)
    exact ⟨earning, posted.earningFor credited⟩
  · rw [of]
    exact ⟨fun none => (Option.some_ne_none _ none).elim, fun payout => absurd payout paid⟩
  · intro other named
    obtain rfl := Option.some.inj (of.symm.trans named)
    obtain ⟨id, present, ofEarning, _⟩ := earningFor_some credited
    obtain ⟨attempt, held, its, in_⟩ :=
      ((sound.accounted id earning present).charge.follow follow) attemptId ofEarning
    exact ⟨attempt, held, creator.trans its, currency.trans in_⟩

theorem earningFor_of_get {id : Nat} {earning : LedgerEntry} {attemptId : AttemptId}
    (present : ledger.ledgerEntries.get id = some earning)
    (of : earning.paymentAttemptId = some attemptId) (kind : earning.kind = .earning) :
    ∃ earning, earningFor ledger attemptId = some earning := by
  have found := (ledger.ledgerEntries.first_isSome_iff fun e =>
    e.paymentAttemptId == some attemptId && e.kind == .earning).mpr
      ⟨id, earning, present, by simp [of, kind]⟩
  obtain ⟨row, located⟩ := Option.isSome_iff_exists.mp found
  exact ⟨row.2, congrArg (Option.map Prod.snd) located⟩

theorem AccountsSound.credit (sound : AccountsSound attempts ledger)
    (follow : AttemptsFollow attempts attempts') (env : Env) {attemptId : AttemptId}
    {attempt : PaymentAttempt} (held : attempts.get attemptId = some attempt)
    (earns : attempt.Earns) (callId : CallId) (liveAt : Time) :
    AccountsSound attempts' (creditEarning env ledger attemptId attempt callId liveAt) := by
  have posted := creditEarning_only env ledger attemptId attempt callId liveAt
  refine ⟨sound.accounted_posts follow posted ?_, sound.capped_posts posted ?_ ?_⟩
  · rintro id entry rfl found
    refine ⟨rfl, ?_, ?_, ?_⟩
    · intro other of
      exact earningFor_of_get found of rfl
    · exact ⟨fun none => (Option.some_ne_none _ none).elim, LedgerKind.noConfusion⟩
    · intro other of
      obtain rfl := Option.some.inj of
      obtain ⟨after, kept, follows⟩ := follow.kept attemptId attempt held
      exact ⟨after, kept, follows.terms.creatorId.symm, follows.terms.currency.symm⟩
  · rintro entry rfl
    exact LedgerKind.noConfusion
  · rintro entry rfl
    exact Or.inl earns.earned.le

theorem AccountsSound.reserve (sound : AccountsSound attempts ledger)
    (follow : AttemptsFollow attempts attempts') (posted : PostsOnly IsReservation ledger ledger') :
    AccountsSound attempts' ledger' := by
  refine ⟨sound.accounted_posts follow posted ?_, sound.capped_posts posted ?_ ?_⟩
  · intro id entry reservation _
    obtain ⟨kind, unnamed, itemId, key⟩ := reservation
    refine ⟨by rw [kind, key]; rfl, ?_, ⟨fun _ => kind, fun _ => unnamed⟩, ?_⟩
    · intro attemptId of
      rw [unnamed] at of
      cases of
    · intro attemptId of
      rw [unnamed] at of
      cases of
  · intro entry reservation
    rw [reservation.1]
    exact LedgerKind.noConfusion
  · intro entry reservation
    rw [reservation.1]
    exact Or.inr LedgerKind.noConfusion

theorem AccountsSound.adjust (sound : AccountsSound attempts ledger)
    (follow : AttemptsFollow attempts attempts') (ctx : Ctx) (dispute : PaymentDispute) :
    AccountsSound attempts' (adjustForDispute ctx ledger dispute) := by
  have posted := adjustForDispute_copies ctx ledger dispute
  have own (entry : LedgerEntry) (is : IsAdjustment dispute entry) :
      entry.kind = entry.idempotencyKey.kind ∧ entry.kind ≠ .refundReversal ∧
        entry.kind ≠ .earning ∧ entry.kind ≠ .payoutReservation := by
    rcases is.kind with ⟨kind, key⟩ | ⟨kind, key⟩
    · rw [kind, key]
      exact ⟨rfl, LedgerKind.noConfusion, LedgerKind.noConfusion, LedgerKind.noConfusion⟩
    · rw [kind, key]
      exact ⟨rfl, LedgerKind.noConfusion, LedgerKind.noConfusion, LedgerKind.noConfusion⟩
  refine ⟨sound.accounted_posts follow posted ?_, sound.capped_posts posted ?_ ?_⟩
  · intro id entry is _
    exact is.2.accounted sound follow posted (own entry is.1).1 (own entry is.1).2.2.2
  · intro entry is
    exact (own entry is.1).2.1
  · intro entry is
    exact Or.inr (own entry is.1).2.2.1

/-- A refund takes back no more than is left of the earning. -/
theorem AccountsSound.reverse (sound : AccountsSound attempts ledger)
    (follow : AttemptsFollow attempts attempts') (ctx : Ctx) (charges : Table PaymentAttempt)
    (refundId : RefundId) (refund : PaymentRefund) :
    AccountsSound attempts' (reverseForRefund ctx charges ledger refundId refund) := by
  have posted := reverseForRefund_copies ctx charges ledger refundId refund
  refine ⟨sound.accounted_posts follow posted ?_, ?_⟩
  · intro id entry is _
    refine is.2.accounted sound follow posted (by rw [is.1.kind, is.1.key]; rfl) ?_
    rw [is.1.kind]
    exact LedgerKind.noConfusion
  · intro attemptId earning credited
    have still (same : reverseForRefund ctx charges ledger refundId refund = ledger) :
        0 ≤ takenBack (reverseForRefund ctx charges ledger refundId refund) attemptId ∧
          takenBack (reverseForRefund ctx charges ledger refundId refund) attemptId ≤
            earning.amountCents := by
      rw [same] at credited ⊢
      exact sound.capped attemptId earning credited
    by_cases already : ledger.Posted (.refund refundId)
    · exact still (reverseForRefund_posted ctx charges refund already)
    · cases before : earningFor ledger refund.paymentAttemptId with
      | none =>
          apply still
          simp only [reverseForRefund, before]
      | some own =>
          obtain ⟨amount, value, cases⟩ := @reverseForRefund_cases ledger ctx charges
            (refundId, refund) own before already
          dsimp only at value cases
          rcases cases with ⟨_, unchanged⟩ | ⟨positive, posts⟩
          · exact still unchanged
          · have capped := sound.capped refund.paymentAttemptId own before
            by_cases here : refund.paymentAttemptId = attemptId
            · subst here
              obtain rfl := Option.some.inj ((posted.earningFor before).symm.trans credited)
              have more := takenBack_reversal posts
              dsimp only at more
              omega
            · have same : takenBack (reverseForRefund ctx charges ledger refundId refund)
                  attemptId = takenBack ledger attemptId := by
                rw [takenBack_post posts]
                simp [isReversalOf, reversalEntry, here]
              rw [earningFor_post posts (Or.inl (by simpa [reversalEntry] using here))] at credited
              rw [same]
              exact sound.capped attemptId earning credited

theorem AccountsSound.mutation {db : DB} (sound : AccountsSound db.paymentAttempts db.ledger)
    (earnings : EarningsSound db) (ctx : Ctx) (m : Mutation) :
    AccountsSound (m.apply ctx db).paymentAttempts (m.apply ctx db).ledger := by
  have effect := m.effect ctx db
  have follow := effect.attempts
  cases effect.ledger_cause with
  | reserves posted => exact sound.reserve follow posted
  | credits callId call attemptId attempt asked present allowed calls pays held ledger =>
      rw [ledger]
      exact sound.credit follow ctx.env held (earnings.charge attemptId attempt held) callId ctx.now
  | reverses refundId row refund asked attempt amount succeeded present ledger =>
      rw [ledger]
      exact sound.reverse follow ctx db.paymentAttempts refundId refund
  | adjusts event asked disputes ledger =>
      rw [ledger]
      exact sound.adjust follow ctx (disputeAfter db event)

end Change

theorem AccountsSound.reached {w : World} (reached : World.Reached w) :
    AccountsSound w.db.paymentAttempts w.db.ledger := by
  have both := World.reached_keeps
    (fun db => EarningsSound db ∧ AccountsSound db.paymentAttempts db.ledger)
    (fun db jobs => and_congr (EarningsSound.unscheduled db jobs) Iff.rfl)
    ⟨.empty, .empty⟩
    (fun ctx _ m sound => ⟨sound.1.mutation ctx m, sound.2.mutation sound.1 ctx m⟩) reached
  exact both.2

/-! ### What each reversal takes -/

/-- What the reversals of a call in the rows before this one have taken back. -/
def takenBefore (ledger : Ledger) (attemptId : AttemptId) (id : Nat) : Int :=
  -((ledger.ledgerEntries.rows.filter fun row => row.1 < id && isReversalOf attemptId row.2).map
    fun row => row.2.amountCents).sum

theorem takenBefore_next (ledger : Ledger) (attemptId : AttemptId) :
    takenBefore ledger attemptId ledger.ledgerEntries.next = takenBack ledger attemptId := by
  have every : (ledger.ledgerEntries.rows.filter fun row =>
      row.1 < ledger.ledgerEntries.next && isReversalOf attemptId row.2) =
      ledger.ledgerEntries.rows.filter fun row => isReversalOf attemptId row.2 := by
    refine List.filter_congr ?_
    intro row member
    rw [decide_eq_true (ledger.ledgerEntries.fresh row member), Bool.true_and]
  unfold takenBefore
  rw [every]
  rfl

section Before

variable {before after : Ledger} {attemptId : AttemptId} {id : Nat} {entry : LedgerEntry}

theorem takenBefore_post {last : LedgerEntry}
    (posts : after.ledgerEntries = before.ledgerEntries.insert last)
    (early : id ≤ before.ledgerEntries.next) :
    takenBefore after attemptId id = takenBefore before attemptId id := by
  have late : decide (before.ledgerEntries.next < id) = false :=
    decide_eq_false (Nat.not_lt.mpr early)
  unfold takenBefore
  rw [posts]
  simp only [Table.insert, List.filter_append, List.filter_singleton, late, Bool.false_and,
    cond_false, List.append_nil]

theorem PostsOnly.takenBefore {kind : LedgerEntry → Prop} (posted : PostsOnly kind before after)
    (present : before.ledgerEntries.get id = some entry) :
    Bling.takenBefore after attemptId id = Bling.takenBefore before attemptId id := by
  refine (posted.induct (fun ledger => ledger.ledgerEntries.get id = some entry ∧
    Bling.takenBefore ledger attemptId id = Bling.takenBefore before attemptId id)
    ⟨present, rfl⟩ ?_).2
  rintro ledger last _ ⟨found, same⟩
  rcases postEntry_cases ledger last with ⟨unchanged, _⟩ | ⟨posts, _, _⟩
  · rw [unchanged]
    exact ⟨found, same⟩
  · refine ⟨?_, (takenBefore_post posts (Table.get_lt found).le).trans same⟩
    rw [posts]
    exact Table.get_insert_of_some found last

end Before

/-- The entry takes back its refund's share of the earning, or what the reversals before it have
left. -/
def TakesShare (db : DB) (attemptId : AttemptId) (earning : LedgerEntry) (id : Nat)
    (entry : LedgerEntry) : Prop :=
  ∃ refundId refund attempt, entry.idempotencyKey = .refund refundId ∧
    db.paymentRefunds.get refundId = some refund ∧ refund.paymentAttemptId = attemptId ∧
    db.paymentAttempts.get attemptId = some attempt ∧
    -entry.amountCents =
      min (roundedShare earning.amountCents attempt.amountCents refund.amountCents)
        (earning.amountCents - takenBefore db.ledger attemptId id)

def ReversalsSound (db : DB) : Prop :=
  ∀ attemptId earning id entry, earningFor db.ledger attemptId = some earning →
    db.ledger.ledgerEntries.get id = some entry → isReversalOf attemptId entry = true →
    TakesShare db attemptId earning id entry

/-- What a refund that succeeds posts. -/
theorem reverseForRefund_outcome (ctx : Ctx) (attempts : Table PaymentAttempt) (ledger : Ledger)
    (refundId : RefundId) (refund : PaymentRefund) :
    reverseForRefund ctx attempts ledger refundId refund = ledger ∨ ∃ earning amount,
      earningFor ledger refund.paymentAttemptId = some earning ∧
      amount = min (refundShare (attempts.get refund.paymentAttemptId) earning.amountCents
        refund.amountCents) (earning.amountCents - takenBack ledger refund.paymentAttemptId) ∧
      (reverseForRefund ctx attempts ledger refundId refund).ledgerEntries =
        ledger.ledgerEntries.insert (reversalEntry ctx earning (refundId, refund) amount) := by
  by_cases posted : ledger.Posted (.refund refundId)
  · exact Or.inl (reverseForRefund_posted ctx attempts refund posted)
  · cases credited : earningFor ledger refund.paymentAttemptId with
    | none =>
        refine Or.inl ?_
        unfold reverseForRefund
        rw [credited]
    | some earning =>
        obtain ⟨amount, value, ⟨_, unchanged⟩ | ⟨_, posts⟩⟩ :=
          @reverseForRefund_cases ledger ctx attempts (refundId, refund) earning credited posted
        · exact Or.inl unchanged
        · exact Or.inr ⟨earning, amount, rfl, value, posts⟩

section Reversals

variable {ctx : Ctx} {db after : DB} {m : Mutation}

/-- A reversal that was there is what it was. -/
theorem TakesShare.kept {kind : LedgerEntry → Prop} (effect : Effect ctx db m after)
    (posted : PostsOnly kind db.ledger after.ledger) {attemptId : AttemptId}
    {earning entry : LedgerEntry} {id : Nat}
    (present : db.ledger.ledgerEntries.get id = some entry)
    (takes : TakesShare db attemptId earning id entry) :
    TakesShare after attemptId earning id entry := by
  obtain ⟨refundId, refund, attempt, key, row, of, charge, amount⟩ := takes
  obtain ⟨later, located, same⟩ := effect.refunds.kept refundId refund row
  obtain ⟨next, held, follows⟩ := effect.attempts.kept attemptId attempt charge
  refine ⟨refundId, later, next, key, located, same.paymentAttemptId.trans of, held, ?_⟩
  rw [posted.takenBefore present, same.amountCents, follows.terms.amountCents]
  exact amount

/-- One that is new takes its share, if that is left. -/
theorem ReversalsSound.reverse (sound : ReversalsSound db) (earnings : EarningsSound db)
    (accounts : AccountsSound db.paymentAttempts db.ledger) (effect : Effect ctx db m after)
    {refundId : RefundId} {refund : PaymentRefund}
    (row : after.paymentRefunds.get refundId = some refund)
    (ledger : after.ledger = reverseForRefund ctx db.paymentAttempts db.ledger refundId refund) :
    ReversalsSound after := by
  intro attemptId earning id entry credited found reversal
  have posted : PostsOnly (IsReversal refundId refund) db.ledger after.ledger :=
    ledger ▸ reverseForRefund_only ctx db.paymentAttempts db.ledger refundId refund
  have old (present : db.ledger.ledgerEntries.get id = some entry) :
      TakesShare after attemptId earning id entry := by
    obtain ⟨of, _⟩ := (Bool.and_eq_true _ _).mp reversal
    obtain ⟨was, held⟩ := (accounts.accounted id entry present).named attemptId (beq_iff_eq.mp of)
    obtain rfl := Option.some.inj ((posted.earningFor held).symm.trans credited)
    exact (sound attemptId was id entry held present reversal).kept effect posted present
  rcases reverseForRefund_outcome ctx db.paymentAttempts db.ledger refundId refund with
    unchanged | ⟨was, amount, held, value, posts⟩
  · rw [ledger, unchanged] at found
    exact old found
  · rw [← ledger] at posts
    have located := found
    rw [posts] at located
    rcases Table.get_insert_row located with ⟨rfl, rfl⟩ | present
    · obtain rfl : refund.paymentAttemptId = attemptId := by
        obtain ⟨of, _⟩ := (Bool.and_eq_true _ _).mp reversal
        exact Option.some.inj (beq_iff_eq.mp of)
      obtain rfl := Option.some.inj ((posted.earningFor held).symm.trans credited)
      obtain ⟨_, attempt, charge, charged, _⟩ := earnings.earning held
      obtain ⟨next, stands, follows⟩ := effect.attempts.kept _ attempt charge
      refine ⟨refundId, refund, next, rfl, row, rfl, stands, ?_⟩
      rw [takenBefore_post posts (Nat.le_refl _), takenBefore_next, follows.terms.amountCents,
        ← refundShare_eq_rounded charged, ← charge]
      exact (Int.neg_neg amount).trans value
    · exact old present

theorem ReversalsSound.mutation (sound : ReversalsSound db) (earnings : EarningsSound db)
    (accounts : AccountsSound db.paymentAttempts db.ledger) (ctx : Ctx) (m : Mutation) :
    ReversalsSound (m.apply ctx db) := by
  have effect := m.effect ctx db
  have still {kind : LedgerEntry → Prop} (posted : PostsOnly kind db.ledger (m.apply ctx db).ledger)
      (none : ∀ entry, kind entry → entry.kind ≠ .refundReversal) :
      ReversalsSound (m.apply ctx db) := by
    intro attemptId earning id entry credited found reversal
    obtain ⟨of, kind⟩ := (Bool.and_eq_true _ _).mp reversal
    have present := (posted.origin found).resolve_right fun new =>
      none entry new (beq_iff_eq.mp kind)
    obtain ⟨was, held⟩ := (accounts.accounted id entry present).named attemptId (beq_iff_eq.mp of)
    obtain rfl := Option.some.inj ((posted.earningFor held).symm.trans credited)
    exact (sound attemptId was id entry held present reversal).kept effect posted present
  have reverses {refundId : RefundId} {refund : PaymentRefund}
      (row : (m.apply ctx db).paymentRefunds.get refundId = some refund)
      (outcome : Reverses ctx db (m.apply ctx db) refundId refund) :
      ReversalsSound (m.apply ctx db) := by
    rcases outcome with ⟨_, ledger⟩ | ⟨_, ledger⟩
    · exact sound.reverse earnings accounts effect row ledger
    · have unposted : PostsOnly (fun _ => False) db.ledger (m.apply ctx db).ledger :=
        ledger ▸ .refl _ _
      exact still unposted fun _ => False.elim
  cases effect.refund_step with
  | quiet rows posted => exact still posted fun _ no => no.1
  | added refund rows outcome => exact reverses (rows ▸ Table.get_insert_next _ _) outcome
  | changed refundId before f present request rows outcome fails =>
      exact reverses (rows ▸ Table.get_patch_self present f) outcome

/-- A refund that comes to succeed takes back its share, unless that is nothing or nothing is
left. -/
theorem Effect.refund_reversed (effect : Effect ctx db m after) {refundId : RefundId}
    {refund : PaymentRefund} {earning : LedgerEntry}
    (now : after.paymentRefunds.get refundId = some refund)
    (succeeded : refund.status = .succeeded)
    (news : ∀ was, db.paymentRefunds.get refundId = some was → was.status ≠ .succeeded)
    (credited : earningFor db.ledger refund.paymentAttemptId = some earning) :
    after.ledger.Posted (.refund refundId) ∨
      refundShare (db.paymentAttempts.get refund.paymentAttemptId) earning.amountCents
        refund.amountCents ≤ 0 ∨
      earning.amountCents ≤ takenBack after.ledger refund.paymentAttemptId := by
  have outcome : after.ledger =
      reverseForRefund ctx db.paymentAttempts db.ledger refundId refund := by
    have unsettled {was : PaymentRefund} (old : db.paymentRefunds.get refundId = some was)
        (same : was = refund) : after.ledger =
          reverseForRefund ctx db.paymentAttempts db.ledger refundId refund :=
      absurd (same ▸ succeeded) (news was old)
    have reverses (outcome : Reverses ctx db after refundId refund) : after.ledger =
        reverseForRefund ctx db.paymentAttempts db.ledger refundId refund :=
      (outcome.resolve_right fun other => other.1 succeeded).2
    cases effect.refund_step with
    | quiet rows posted => exact unsettled (rows ▸ now) rfl
    | added row rows outcome =>
        rw [rows] at now
        rcases Table.get_insert_row now with ⟨rfl, rfl⟩ | old
        · exact reverses outcome
        · exact unsettled old rfl
    | changed key before f present request rows outcome fails =>
        rw [rows, Table.get_patch] at now
        split at now
        · rename_i here
          subst here
          rw [present] at now
          obtain rfl := Option.some.inj now
          exact reverses outcome
        · exact unsettled now rfl
  by_cases posted : db.ledger.Posted (.refund refundId)
  · left
    rw [outcome]
    exact (reverseForRefund_only ..).posted posted
  · obtain ⟨amount, value, ⟨nothing, unchanged⟩ | ⟨_, posts⟩⟩ :=
      @reverseForRefund_cases db.ledger ctx db.paymentAttempts (refundId, refund) earning credited
        posted
    · right
      rw [outcome, unchanged]
      dsimp only at value
      omega
    · left
      rw [outcome]
      exact ⟨_, _, posts ▸ Table.get_insert_next _ _, rfl⟩

end Reversals

theorem ReversalsSound.reached {w : World} (reached : World.Reached w) : ReversalsSound w.db := by
  have all := World.reached_keeps
    (fun db => EarningsSound db ∧ AccountsSound db.paymentAttempts db.ledger ∧ ReversalsSound db)
    (fun db jobs => and_congr (EarningsSound.unscheduled db jobs) Iff.rfl)
    ⟨.empty, .empty, fun _ _ _ _ credited => nomatch credited⟩
    (fun ctx _ m sound => ⟨sound.1.mutation ctx m, sound.2.1.mutation sound.1 ctx m,
      sound.2.2.mutation sound.1 sound.2.1 ctx m⟩) reached
  exact all.2.2

/-! ### What a call comes to -/

/-- A call's entry of this kind. -/
def isOf (attemptId : AttemptId) (kind : LedgerKind) (entry : LedgerEntry) : Bool :=
  entry.paymentAttemptId == some attemptId && entry.kind == kind

/-- How many disputes hold the call's earning back. -/
def disputesHolding (ledger : Ledger) (attemptId : AttemptId) : Nat :=
  (ledger.ledgerEntries.query fun entry =>
    entry.paymentAttemptId == some attemptId && unreleased ledger entry).length

/-- A call that has earned comes to its earning, less what refunds have taken back, less the whole
of it for every dispute that holds it back; any other call comes to nothing. -/
def CallAccount (ledger : Ledger) (attemptId : AttemptId) : Prop :=
  match earningFor ledger attemptId with
  | none => callCents ledger attemptId = 0
  | some earning => callCents ledger attemptId = earning.amountCents -
      takenBack ledger attemptId - earning.amountCents * disputesHolding ledger attemptId ∧
      0 ≤ takenBack ledger attemptId ∧ takenBack ledger attemptId ≤ earning.amountCents

theorem LedgerKey.debit_of_kind {key : LedgerKey} (kind : key.kind = .disputeDebit) :
    ∃ disputeId, key = .disputeDebit disputeId := by
  cases key with
  | disputeDebit disputeId => exact ⟨disputeId, rfl⟩
  | _ => cases kind

theorem LedgerKey.release_of_kind {key : LedgerKey} (kind : key.kind = .disputeRelease) :
    ∃ disputeId, key = .disputeRelease disputeId := by
  cases key with
  | disputeRelease disputeId => exact ⟨disputeId, rfl⟩
  | _ => cases kind

theorem callCents_parts (ledger : Ledger) (attemptId : AttemptId) :
    callCents ledger attemptId =
      ledger.ledgerEntries.total (isOf attemptId .earning) LedgerEntry.amountCents -
        takenBack ledger attemptId +
      ledger.ledgerEntries.total (isOf attemptId .disputeDebit) LedgerEntry.amountCents +
      ledger.ledgerEntries.total (isOf attemptId .disputeRelease) LedgerEntry.amountCents := by
  have parts : callCents ledger attemptId = ledger.ledgerEntries.total (fun entry =>
      ((isOf attemptId .earning entry || isReversalOf attemptId entry) ||
        isOf attemptId .disputeDebit entry) || isOf attemptId .disputeRelease entry)
      LedgerEntry.amountCents := by
    refine Table.total_congr ?_
    intro id entry _
    have same : ofCall attemptId entry =
        (((isOf attemptId .earning entry || isReversalOf attemptId entry) ||
          isOf attemptId .disputeDebit entry) || isOf attemptId .disputeRelease entry) := by
      simp only [ofCall, isOf, isReversalOf, Bool.and_or_distrib_left]
    rw [same]
  rw [parts, Table.total_or, Table.total_or, Table.total_or]
  · unfold takenBack
    omega
  · intro entry
    simp only [isOf, isReversalOf]
    cases entry.kind <;> simp
  · intro entry
    simp only [isOf, isReversalOf]
    cases entry.kind <;> simp
  · intro entry
    simp only [isOf, isReversalOf]
    cases entry.kind <;> simp

/-- What the ledger of every reachable state is known to be. -/
structure AccountsKnown (db : DB) : Prop where
  accounts : AccountsSound db.paymentAttempts db.ledger
  balanced : Balanced db.ledger
  disputes : DisputesSound db
  settled : Settled db

theorem AccountsKnown.reached {w : World} (reached : World.Reached w) : AccountsKnown w.db :=
  ⟨.reached reached, .reached reached, .reached reached, .reached reached⟩

section Known

variable {db : DB} {attemptId : AttemptId} {earning : LedgerEntry}

theorem AccountsKnown.earning_key (known : AccountsKnown db) {id : Nat} {entry : LedgerEntry}
    (found : db.ledger.ledgerEntries.get id = some entry)
    (counts : isOf attemptId .earning entry = true) :
    entry.idempotencyKey = .earning attemptId := by
  simp only [isOf, Bool.and_eq_true, beq_iff_eq] at counts
  obtain ⟨other, _, key, named, _⟩ := known.settled.earned id entry found counts.2
  obtain rfl := Option.some.inj (named.symm.trans counts.1)
  exact key

theorem AccountsKnown.earning_total (known : AccountsKnown db)
    (credited : earningFor db.ledger attemptId = some earning) :
    db.ledger.ledgerEntries.total (isOf attemptId .earning) LedgerEntry.amountCents =
      earning.amountCents := by
  obtain ⟨id, present, of, kind⟩ := earningFor_some credited
  have counted : isOf attemptId .earning earning = true := by simp [isOf, of, kind]
  refine Table.total_single present counted ?_ _
  intro i entry found counts
  exact known.balanced.keys i id entry earning found present
    ((known.earning_key found counts).trans (known.earning_key present counted).symm)

theorem AccountsKnown.debit (known : AccountsKnown db) {id : Nat} {entry : LedgerEntry}
    (found : db.ledger.ledgerEntries.get id = some entry)
    (counts : isOf attemptId .disputeDebit entry = true) :
    ∃ disputeId, entry.idempotencyKey = .disputeDebit disputeId ∧
      DisputeOf db.paymentDisputes disputeId attemptId ∧
      ∀ earning, earningFor db.ledger attemptId = some earning →
        entry.amountCents = -earning.amountCents := by
  simp only [isOf, Bool.and_eq_true, beq_iff_eq] at counts
  obtain ⟨disputeId, key⟩ := LedgerKey.debit_of_kind
    ((known.accounts.accounted id entry found).kind.symm.trans counts.2)
  obtain ⟨other, own, of, credited, adjusts⟩ := known.disputes.debit id entry disputeId found key
  obtain rfl := Option.some.inj (adjusts.attempt.symm.trans counts.1)
  refine ⟨disputeId, key, of, ?_⟩
  intro earning also
  obtain rfl := Option.some.inj (credited.symm.trans also)
  exact adjusts.amount

theorem AccountsKnown.release (known : AccountsKnown db) {id : Nat} {entry : LedgerEntry}
    (found : db.ledger.ledgerEntries.get id = some entry)
    (counts : isOf attemptId .disputeRelease entry = true) :
    ∃ disputeId, entry.idempotencyKey = .disputeRelease disputeId ∧
      DisputeOf db.paymentDisputes disputeId attemptId ∧
      db.ledger.Posted (.disputeDebit disputeId) ∧
      ∀ earning, earningFor db.ledger attemptId = some earning →
        entry.amountCents = earning.amountCents := by
  simp only [isOf, Bool.and_eq_true, beq_iff_eq] at counts
  obtain ⟨disputeId, key⟩ := LedgerKey.release_of_kind
    ((known.accounts.accounted id entry found).kind.symm.trans counts.2)
  obtain ⟨other, own, of, credited, adjusts, debited⟩ :=
    known.disputes.release id entry disputeId found key
  obtain rfl := Option.some.inj (adjusts.attempt.symm.trans counts.1)
  refine ⟨disputeId, key, of, debited, ?_⟩
  intro earning also
  obtain rfl := Option.some.inj (credited.symm.trans also)
  exact adjusts.amount

/-- An entry about a dispute is one of the dispute's call. -/
theorem AccountsKnown.ofDispute (known : AccountsKnown db) {disputeId : StripeId}
    (disputes : DisputeOf db.paymentDisputes disputeId attemptId) {id : Nat} {entry : LedgerEntry}
    (found : db.ledger.ledgerEntries.get id = some entry) :
    (entry.idempotencyKey = .disputeDebit disputeId →
      isOf attemptId .disputeDebit entry = true) ∧
    (entry.idempotencyKey = .disputeRelease disputeId →
      isOf attemptId .disputeRelease entry = true) := by
  constructor
  · intro key
    obtain ⟨other, _, of, _, adjusts⟩ := known.disputes.debit id entry disputeId found key
    obtain rfl := of.unique known.disputes.one disputes
    simp [isOf, adjusts.attempt, adjusts.kind]
  · intro key
    obtain ⟨other, _, of, _, adjusts, _⟩ := known.disputes.release id entry disputeId found key
    obtain rfl := of.unique known.disputes.one disputes
    simp [isOf, adjusts.attempt, adjusts.kind]

theorem AccountsKnown.same_row (known : AccountsKnown db) {i j : Nat} {a b : LedgerEntry}
    (first : db.ledger.ledgerEntries.get i = some a)
    (second : db.ledger.ledgerEntries.get j = some b) {kind : LedgerKind}
    (countsA : isOf attemptId kind a = true) (countsB : isOf attemptId kind b = true)
    (disputed : a.idempotencyKey.dispute ≠ none)
    (same : a.idempotencyKey.dispute = b.idempotencyKey.dispute) : i = j := by
  simp only [isOf, Bool.and_eq_true, beq_iff_eq] at countsA countsB
  have kinds : a.idempotencyKey.kind = b.idempotencyKey.kind := by
    rw [← (known.accounts.accounted i a first).kind, ← (known.accounts.accounted j b second).kind,
      countsA.2, countsB.2]
  refine known.balanced.keys i j a b first second ?_
  revert kinds same disputed
  cases a.idempotencyKey <;> cases b.idempotencyKey <;>
    simp [LedgerKey.kind, LedgerKey.dispute]

/-- As many debits have been released as there are releases. -/
theorem AccountsKnown.released (known : AccountsKnown db) (attemptId : AttemptId) :
    db.ledger.ledgerEntries.total (fun entry => isOf attemptId .disputeDebit entry &&
        !unreleased db.ledger entry) (fun _ => 1) =
      db.ledger.ledgerEntries.total (isOf attemptId .disputeRelease) (fun _ => 1) := by
  apply Int.le_antisymm
  · refine Table.total_le_of_names (fun entry => entry.idempotencyKey.dispute)
      (fun entry => entry.idempotencyKey.dispute) ?_ (fun _ _ _ _ _ => Int.le_refl 1) ?_
      (fun _ _ _ _ => Int.one_nonneg)
    · intro id entry found counts
      obtain ⟨isDebit, done⟩ := (Bool.and_eq_true _ _).mp counts
      obtain ⟨disputeId, key, of, _⟩ := known.debit found isDebit
      have posted : db.ledger.Posted (.disputeRelease disputeId) := by
        by_contra unposted
        have open_ := (unreleased_iff db.ledger entry).mpr ⟨disputeId, key, unposted⟩
        rw [open_] at done
        cases done
      obtain ⟨other, release, present, named⟩ := posted
      refine ⟨other, release, present, (known.ofDispute of present).2 named, ?_⟩
      rw [key, named]
      rfl
    · intro i j a b first second countsA countsB same
      have isDebit := ((Bool.and_eq_true _ _).mp countsA).1
      obtain ⟨disputeId, key, _⟩ := known.debit first isDebit
      refine known.same_row first second isDebit ((Bool.and_eq_true _ _).mp countsB).1 ?_ same
      rw [key]
      exact Option.some_ne_none disputeId
  · refine Table.total_le_of_names (fun entry => entry.idempotencyKey.dispute)
      (fun entry => entry.idempotencyKey.dispute) ?_ (fun _ _ _ _ _ => Int.le_refl 1) ?_
      (fun _ _ _ _ => Int.one_nonneg)
    · intro id entry found counts
      obtain ⟨disputeId, key, of, ⟨other, debit, present, named⟩, _⟩ := known.release found counts
      have done : unreleased db.ledger debit = false := by
        rw [← Bool.not_eq_true, unreleased_iff]
        rintro ⟨named', key', unposted⟩
        obtain rfl := LedgerKey.disputeDebit.inj (named.symm.trans key')
        exact unposted ⟨id, entry, found, key⟩
      refine ⟨other, debit, present, ?_, ?_⟩
      · rw [(known.ofDispute of present).1 named, done]
        rfl
      · rw [key, named]
        rfl
    · intro i j a b first second countsA countsB same
      obtain ⟨disputeId, key, _⟩ := known.release first countsA
      refine known.same_row first second countsA countsB ?_ same
      rw [key]
      exact Option.some_ne_none disputeId

theorem AccountsKnown.holding (known : AccountsKnown db) (attemptId : AttemptId) :
    db.ledger.ledgerEntries.total (isOf attemptId .disputeDebit) (fun _ => 1) =
      disputesHolding db.ledger attemptId +
        db.ledger.ledgerEntries.total (isOf attemptId .disputeRelease) (fun _ => 1) := by
  rw [Table.total_split _ _ (unreleased db.ledger), known.released attemptId]
  refine congrArg (· + _) ?_
  have same : db.ledger.ledgerEntries.total (fun entry => isOf attemptId .disputeDebit entry &&
      unreleased db.ledger entry) (fun _ => (1 : Int)) = db.ledger.ledgerEntries.total
      (fun entry => entry.paymentAttemptId == some attemptId && unreleased db.ledger entry)
      (fun _ => 1) := by
    refine Table.total_congr ?_
    intro id entry found
    have kind : unreleased db.ledger entry = true → entry.kind = .disputeDebit := by
      intro holds
      obtain ⟨disputeId, key, _⟩ := (unreleased_iff _ _).mp holds
      rw [(known.accounts.accounted id entry found).kind, key]
      rfl
    cases holds : unreleased db.ledger entry with
    | false => simp
    | true => simp [isOf, kind holds]
  rw [same]
  exact Table.total_one _ _

end Known

theorem AccountsKnown.callAccount {db : DB} (known : AccountsKnown db) (attemptId : AttemptId) :
    CallAccount db.ledger attemptId := by
  unfold CallAccount
  cases credited : earningFor db.ledger attemptId with
  | none =>
      refine Table.total_zero ?_
      intro id entry found counts
      simp only [ofCall, Bool.and_eq_true, beq_iff_eq] at counts
      obtain ⟨earning, other⟩ := (known.accounts.accounted id entry found).named attemptId counts.1
      rw [credited] at other
      cases other
  | some earning =>
      refine ⟨?_, known.accounts.capped attemptId earning credited⟩
      have debits : db.ledger.ledgerEntries.total (isOf attemptId .disputeDebit)
          LedgerEntry.amountCents = -earning.amountCents * db.ledger.ledgerEntries.total
            (isOf attemptId .disputeDebit) (fun _ => 1) := by
        rw [← Table.total_mul]
        refine Table.total_congr ?_
        intro id entry found
        by_cases counts : isOf attemptId .disputeDebit entry = true
        · obtain ⟨_, _, _, amount⟩ := known.debit found counts
          rw [if_pos counts, if_pos counts, amount earning credited, Int.mul_one]
        · rw [if_neg counts, if_neg counts]
      have releases : db.ledger.ledgerEntries.total (isOf attemptId .disputeRelease)
          LedgerEntry.amountCents = earning.amountCents * db.ledger.ledgerEntries.total
            (isOf attemptId .disputeRelease) (fun _ => 1) := by
        rw [← Table.total_mul]
        refine Table.total_congr ?_
        intro id entry found
        by_cases counts : isOf attemptId .disputeRelease entry = true
        · obtain ⟨_, _, _, _, amount⟩ := known.release found counts
          rw [if_pos counts, if_pos counts, amount earning credited, Int.mul_one]
        · rw [if_neg counts, if_neg counts]
      rw [callCents_parts, known.earning_total credited, debits, releases, known.holding attemptId]
      ring

/-- What an entry that names a call is. -/
inductive EntryOfCall (db : DB) (attemptId : AttemptId) (earning : LedgerEntry) (id : Nat)
    (entry : LedgerEntry) : Prop
  | earning (key : entry.idempotencyKey = .earning attemptId) (same : entry = earning)
  | reversal (takes : TakesShare db attemptId earning id entry)
  | debit (disputeId : StripeId) (key : entry.idempotencyKey = .disputeDebit disputeId)
      (of : DisputeOf db.paymentDisputes disputeId attemptId)
      (amount : entry.amountCents = -earning.amountCents)
  | release (disputeId : StripeId) (key : entry.idempotencyKey = .disputeRelease disputeId)
      (of : DisputeOf db.paymentDisputes disputeId attemptId)
      (debited : db.ledger.Posted (.disputeDebit disputeId))
      (amount : entry.amountCents = earning.amountCents)

theorem AccountsKnown.entryOfCall {db : DB} (known : AccountsKnown db)
    (reversals : ReversalsSound db) {attemptId : AttemptId} {id : Nat} {entry : LedgerEntry}
    (found : db.ledger.ledgerEntries.get id = some entry)
    (of : entry.paymentAttemptId = some attemptId) :
    ∃ earning, earningFor db.ledger attemptId = some earning ∧
      EntryOfCall db attemptId earning id entry := by
  have accounted := known.accounts.accounted id entry found
  obtain ⟨earning, credited⟩ := accounted.named attemptId of
  refine ⟨earning, credited, ?_⟩
  have counts {kind : LedgerKind} (is : entry.kind = kind) : isOf attemptId kind entry = true := by
    simp [isOf, of, is]
  cases key : entry.idempotencyKey with
  | earning other =>
      have is : entry.kind = .earning := by rw [accounted.kind, key]; rfl
      have own := known.earning_key found (counts is)
      obtain ⟨at_, present, its, kind⟩ := earningFor_some credited
      have ofEarning := known.earning_key present (by simp [isOf, its, kind] :
        isOf attemptId .earning earning = true)
      obtain rfl := known.balanced.keys id at_ entry earning found present
        (own.trans ofEarning.symm)
      exact .earning own (Option.some.inj (found.symm.trans present))
  | refund refundId =>
      have is : entry.kind = .refundReversal := by rw [accounted.kind, key]; rfl
      exact .reversal (reversals attemptId earning id entry credited found (counts is))
  | disputeDebit disputeId =>
      have is : entry.kind = .disputeDebit := by rw [accounted.kind, key]; rfl
      obtain ⟨named, same, disputes, amount⟩ := known.debit found (counts is)
      exact .debit named same disputes (amount earning credited)
  | disputeRelease disputeId =>
      have is : entry.kind = .disputeRelease := by rw [accounted.kind, key]; rfl
      obtain ⟨named, same, disputes, debited, amount⟩ := known.release found (counts is)
      exact .release named same disputes debited (amount earning credited)
  | payoutReservation itemId =>
      have is : entry.kind = .payoutReservation := by rw [accounted.kind, key]; rfl
      exact absurd (of.symm.trans (accounted.unnamed.mpr is)) (Option.some_ne_none _)

/-- A refund that has come to succeed has its reversal, if there is any of its share to take. -/
theorem step_refund_reversed {w : World} {input : Ctx × Op} {refundId : RefundId}
    {refund : PaymentRefund} {earning : LedgerEntry}
    (now : (w.step input).db.paymentRefunds.get refundId = some refund)
    (succeeded : refund.status = .succeeded)
    (news : ∀ was, w.db.paymentRefunds.get refundId = some was → was.status ≠ .succeeded)
    (credited : earningFor w.db.ledger refund.paymentAttemptId = some earning) :
    (w.step input).db.ledger.Posted (.refund refundId) ∨
      refundShare (w.db.paymentAttempts.get refund.paymentAttemptId) earning.amountCents
        refund.amountCents ≤ 0 ∨
      earning.amountCents ≤ takenBack (w.step input).db.ledger refund.paymentAttemptId := by
  rcases World.step_ran w input with ⟨_, later, same⟩ | ⟨m, earlier, later, _, same⟩
  · rw [same] at now
    exact absurd succeeded (news refund now)
  · rw [same] at now ⊢
    have effect := m.effect input.1 { w.db with scheduled := earlier }
    exact effect.refund_reversed now succeeded news credited

/-- What is promised of a call in a state and in the step after it. -/
structure CallAccounted (w : World) (attemptId : AttemptId) : Prop where
  comes_to : CallAccount w.db.ledger attemptId
  each : ∀ id entry, w.db.ledger.ledgerEntries.get id = some entry →
    entry.paymentAttemptId = some attemptId → ∃ earning,
      earningFor w.db.ledger attemptId = some earning ∧
      EntryOfCall w.db attemptId earning id entry
  /-- A refund that succeeds takes back its share, unless that is nothing or nothing is left. -/
  reversed : ∀ (input : Ctx × Op) refundId refund earning attempt,
    (w.step input).db.paymentRefunds.get refundId = some refund →
    refund.paymentAttemptId = attemptId → refund.status = .succeeded →
    (∀ was, w.db.paymentRefunds.get refundId = some was → was.status ≠ .succeeded) →
    earningFor w.db.ledger attemptId = some earning →
    w.db.paymentAttempts.get attemptId = some attempt →
    (w.step input).db.ledger.Posted (.refund refundId) ∨
      roundedShare earning.amountCents attempt.amountCents refund.amountCents ≤ 0 ∨
      earning.amountCents ≤ takenBack (w.step input).db.ledger attemptId

/-- In every reachable state every entry that names a call is its earning, the share of a refund,
or the whole earning for a dispute, and together they come to what these leave of the earning. -/
theorem call_accounts (inputs : List (Ctx × Op)) (attemptId : AttemptId) :
    CallAccounted (run World.step World.empty inputs) attemptId := by
  generalize reached' : run World.step World.empty inputs = w
  have reached : World.Reached w := ⟨inputs, reached'.symm⟩
  have known := AccountsKnown.reached reached
  have reversals := ReversalsSound.reached reached
  have earnings := EarningsSound.reached reached
  refine ⟨known.callAccount attemptId, fun id entry => known.entryOfCall reversals, ?_⟩
  rintro input refundId refund earning attempt now rfl succeeded news credited charge
  obtain ⟨_, held, present, charged, _⟩ := earnings.earning credited
  obtain rfl := Option.some.inj (present.symm.trans charge)
  rw [← refundShare_eq_rounded charged, ← charge]
  exact step_refund_reversed now succeeded news credited

/-! ### What a balance holds -/

/-- An entry that names a call is one of the call's. -/
theorem Accounted.ofCall {attempts : Table PaymentAttempt} {ledger : Ledger} {entry : LedgerEntry}
    {attemptId : AttemptId} (accounted : Accounted attempts ledger entry)
    (of : entry.paymentAttemptId = some attemptId) : ofCall attemptId entry = true := by
  have paid : entry.kind ≠ .payoutReservation := by
    intro payout
    exact Option.some_ne_none _ (of.symm.trans (accounted.unnamed.mpr payout))
  rw [accounted.kind] at paid
  simp only [Bling.ofCall, of, accounted.kind]
  revert paid
  cases entry.idempotencyKey <;> simp [LedgerKey.kind]

/-- What the payouts of a creator have reserved. -/
def payoutsReserved (ledger : Ledger) (creatorId : UserId) (currency : String) : Int :=
  -ledger.ledgerEntries.total (fun entry => ownedBy creatorId currency entry &&
    entry.kind == .payoutReservation) LedgerEntry.amountCents

/-- The charges for calls to the creator in the currency. -/
def chargesOf (db : DB) (creatorId : UserId) (currency : String) : Finset AttemptId :=
  db.paymentAttempts.ids fun attempt =>
    attempt.creatorId == creatorId && attempt.currency == currency

theorem AccountsKnown.history {db : DB} (known : AccountsKnown db) (creatorId : UserId)
    (currency : String) : historyCents db.ledger creatorId currency =
      ∑ attemptId ∈ chargesOf db creatorId currency, callCents db.ledger attemptId -
        payoutsReserved db.ledger creatorId currency := by
  have ofCalls : db.ledger.ledgerEntries.total (fun entry => ownedBy creatorId currency entry &&
      !(entry.kind == .payoutReservation)) LedgerEntry.amountCents =
      ∑ attemptId ∈ chargesOf db creatorId currency, callCents db.ledger attemptId := by
    rw [Table.total_by_group (u := db.paymentAttempts) (q := fun attempt =>
      attempt.creatorId == creatorId && attempt.currency == currency)
      LedgerEntry.paymentAttemptId]
    · refine Finset.sum_congr rfl ?_
      intro attemptId member
      obtain ⟨attempt, held, its⟩ := (Table.mem_ids _ _ _).mp member
      simp only [Bool.and_eq_true, beq_iff_eq] at its
      refine Table.total_congr ?_
      intro id entry found
      have accounted := known.accounts.accounted id entry found
      by_cases of : entry.paymentAttemptId = some attemptId
      · obtain ⟨attempt', held', creator, in_⟩ := accounted.charge attemptId of
        obtain rfl := Option.some.inj (held.symm.trans held')
        obtain ⟨earning, credited⟩ := accounted.named attemptId of
        have owned : ownedBy creatorId currency entry = true := by
          simp [ownedBy, creator, in_, its.1, its.2]
        have paid : entry.kind ≠ .payoutReservation := by
          intro payout
          exact Option.some_ne_none _ (of.symm.trans (accounted.unnamed.mpr payout))
        simp [owned, of, paid, accounted.ofCall of]
      · simp [of, ofCall]
    · intro id entry found counts
      simp only [Bool.and_eq_true, Bool.not_eq_true', beq_eq_false_iff_ne] at counts
      obtain ⟨owned, call⟩ := counts
      simp only [ownedBy, Bool.and_eq_true, beq_iff_eq] at owned
      have accounted := known.accounts.accounted id entry found
      cases of : entry.paymentAttemptId with
      | none => exact absurd (accounted.unnamed.mp of) call
      | some attemptId =>
          obtain ⟨attempt, held, creator, in_⟩ := accounted.charge attemptId of
          refine ⟨attemptId, attempt, rfl, held, ?_⟩
          simp [← creator, ← in_, owned.1, owned.2]
  unfold historyCents payoutsReserved
  rw [Table.total_split _ _ fun entry => entry.kind == .payoutReservation, ofCalls]
  omega

/-- A creator's balance is what their calls come to, less what their payouts have reserved: no
cent of it is from elsewhere, and none is missing. -/
theorem balances_from_calls (inputs : List (Ctx × Op)) (creatorId : UserId) (currency : String)
    (now : Time) :
    let db := (run World.step World.empty inputs).db
    (balanceAt db.ledger creatorId currency now).totalCents =
      ∑ attemptId ∈ chargesOf db creatorId currency, callCents db.ledger attemptId -
        payoutsReserved db.ledger creatorId currency := by
  intro db
  have known : AccountsKnown db := .reached ⟨inputs, rfl⟩
  rw [known.balanced.balanceAt_eq_summary, ← known.history]
  rfl

end Bling
