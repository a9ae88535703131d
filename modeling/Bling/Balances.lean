import Bling.WorldSteps

set_option autoImplicit false

namespace Bling

open Library

/-! The stored running balance against the history of ledger entries. -/

def ownedBy (creatorId : UserId) (currency : String) (entry : LedgerEntry) : Bool :=
  entry.creatorId == creatorId && entry.currency == currency

/-- The sum of a creator's entries in a currency. -/
def historyCents (ledger : Ledger) (creatorId : UserId) (currency : String) : Int :=
  ledger.ledgerEntries.total (ownedBy creatorId currency) LedgerEntry.amountCents

/-- `PostgresRepository.Summary`: every amount from the history alone. -/
def summary (ledger : Ledger) (creatorId : UserId) (currency : String) (now : Time) : Balance :=
  let totalCents := historyCents ledger creatorId currency
  let availableCents := ledger.ledgerEntries.total
    (fun e => ownedBy creatorId currency e && decide (e.effectiveAt ≤ now)) LedgerEntry.amountCents
  { currency, totalCents, pendingCents := totalCents - availableCents, availableCents }

/-- The stored balances are what the history adds up to. -/
structure Balanced (ledger : Ledger) : Prop where
  keys : ∀ i j a b, ledger.ledgerEntries.get i = some a → ledger.ledgerEntries.get j = some b →
    a.idempotencyKey = b.idempotencyKey → i = j
  rows : ∀ i j a b, ledger.creatorBalances.get i = some a → ledger.creatorBalances.get j = some b →
    a.creatorId = b.creatorId → a.currency = b.currency → i = j
  totals : ∀ id b, ledger.creatorBalances.get id = some b →
    b.totalCents = historyCents ledger b.creatorId b.currency
  covered : ∀ id e, ledger.ledgerEntries.get id = some e → ∃ key b,
    ledger.creatorBalances.get key = some b ∧ b.creatorId = e.creatorId ∧ b.currency = e.currency

theorem Balanced.empty : Balanced .empty := by
  refine ⟨?_, ?_, ?_, ?_⟩ <;> intro id <;> intros <;> contradiction

/-! ### One post -/

/-- The balances after an entry is added to the creator's total. -/
theorem postEntry_balances {ledger : Ledger} {entry : LedgerEntry}
    (nonzero : entry.amountCents ≠ 0) (absent : ¬ ledger.Posted entry.idempotencyKey) :
    (∃ id balance, ledger.creatorBalances.get id = some balance ∧
      balance.creatorId = entry.creatorId ∧ balance.currency = entry.currency ∧
      (postEntry ledger entry).1.creatorBalances = ledger.creatorBalances.patch id fun b =>
        { b with totalCents := balance.totalCents + entry.amountCents }) ∨
    ((∀ id balance, ledger.creatorBalances.get id = some balance →
        ¬ (balance.creatorId = entry.creatorId ∧ balance.currency = entry.currency)) ∧
      (postEntry ledger entry).1.creatorBalances = ledger.creatorBalances.insert
        { creatorId := entry.creatorId, currency := entry.currency,
          totalCents := entry.amountCents }) := by
  unfold postEntry
  rw [if_neg nonzero, (first_key_none_iff _ _).mpr absent]
  dsimp only
  cases found : ledger.creatorBalances.first fun b =>
      b.creatorId == entry.creatorId && b.currency == entry.currency with
  | some row =>
      obtain ⟨present, matched⟩ := Table.first_row found
      simp only [Bool.and_eq_true, beq_iff_eq] at matched
      exact Or.inl ⟨row.1, row.2, present, matched.1, matched.2, rfl⟩
  | none =>
      refine Or.inr ⟨?_, rfl⟩
      intro id balance present same
      have unmatched := Table.first_none found present
      simp [same.1, same.2] at unmatched

theorem historyCents_insert {before after : Ledger} {entry : LedgerEntry}
    (entries : after.ledgerEntries = before.ledgerEntries.insert entry) (creatorId : UserId)
    (currency : String) : historyCents after creatorId currency =
      historyCents before creatorId currency +
        if entry.creatorId = creatorId ∧ entry.currency = currency then entry.amountCents
        else 0 := by
  simp only [historyCents, entries, Table.total_insert, ownedBy, Bool.and_eq_true, beq_iff_eq]

/-- A creator without a balance row has no entries. -/
theorem Balanced.no_history {ledger : Ledger} (balanced : Balanced ledger) {creatorId : UserId}
    {currency : String} (none : ∀ id balance, ledger.creatorBalances.get id = some balance →
      ¬ (balance.creatorId = creatorId ∧ balance.currency = currency)) :
    historyCents ledger creatorId currency = 0 := by
  refine Table.total_zero ?_
  intro id e present owned
  obtain ⟨key, balance, held, sameCreator, sameCurrency⟩ := balanced.covered id e present
  simp only [ownedBy, Bool.and_eq_true, beq_iff_eq] at owned
  exact absurd ⟨sameCreator.trans owned.1, sameCurrency.trans owned.2⟩ (none key balance held)

/-- A post keeps the totals in step with the history. -/
theorem Balanced.post {ledger : Ledger} (balanced : Balanced ledger) (entry : LedgerEntry) :
    Balanced (postEntry ledger entry).1 := by
  rcases postEntry_cases ledger entry with ⟨unchanged, _⟩ | ⟨entries, nonzero, absent⟩
  · rw [unchanged]
    exact balanced
  · have history := historyCents_insert entries
    have keys : ∀ i j a b, (postEntry ledger entry).1.ledgerEntries.get i = some a →
        (postEntry ledger entry).1.ledgerEntries.get j = some b →
        a.idempotencyKey = b.idempotencyKey → i = j := by
      intro i j a b presentA presentB same
      rw [entries, Table.get_insert] at presentA presentB
      split at presentA <;> split at presentB
      · rename_i first second
        exact first.trans second.symm
      · obtain rfl := Option.some.inj presentA
        exact absurd ⟨j, b, presentB, same.symm⟩ absent
      · obtain rfl := Option.some.inj presentB
        exact absurd ⟨i, a, presentA, same⟩ absent
      · exact balanced.keys i j a b presentA presentB same
    rcases postEntry_balances nonzero absent with
      ⟨id, balance, held, sameCreator, sameCurrency, balances⟩ | ⟨none, balances⟩
    · refine ⟨keys, ?_, ?_, ?_⟩
      · -- A patch moves no row to another creator or currency.
        intro i j a b presentA presentB
        have old : ∀ key row, (postEntry ledger entry).1.creatorBalances.get key = some row →
            ∃ was, ledger.creatorBalances.get key = some was ∧ was.creatorId = row.creatorId ∧
              was.currency = row.currency := by
          intro key row present
          rw [balances, Table.get_patch] at present
          split at present
          · obtain ⟨was, found, rfl⟩ := Option.map_eq_some_iff.mp present
            exact ⟨was, found, rfl, rfl⟩
          · exact ⟨row, present, rfl, rfl⟩
        obtain ⟨wasA, foundA, creatorA, currencyA⟩ := old i a presentA
        obtain ⟨wasB, foundB, creatorB, currencyB⟩ := old j b presentB
        intro creators currencies
        exact balanced.rows i j wasA wasB foundA foundB
          (creatorA.trans (creators.trans creatorB.symm))
          (currencyA.trans (currencies.trans currencyB.symm))
      · intro key row present
        rw [balances, Table.get_patch] at present
        rw [history]
        split at present
        · rename_i here
          obtain ⟨was, found, rfl⟩ := Option.map_eq_some_iff.mp present
          obtain rfl := Option.some.inj (held.symm.trans (here ▸ found))
          rw [if_pos ⟨sameCreator.symm, sameCurrency.symm⟩]
          exact congrArg (· + entry.amountCents) (balanced.totals id balance held)
        · rename_i elsewhere
          rw [balanced.totals key row present, if_neg, Int.add_zero]
          rintro ⟨creators, currencies⟩
          exact elsewhere (balanced.rows key id row balance present held
            (creators.symm.trans sameCreator.symm) (currencies.symm.trans sameCurrency.symm))
      · intro key e present
        have survives : ∀ i b, ledger.creatorBalances.get i = some b → ∃ b',
            (postEntry ledger entry).1.creatorBalances.get i = some b' ∧
              b'.creatorId = b.creatorId ∧ b'.currency = b.currency := by
          intro i b found
          rw [balances, Table.get_patch, found]
          split
          · exact ⟨_, rfl, rfl, rfl⟩
          · exact ⟨b, rfl, rfl, rfl⟩
        have owner : ∃ i b, ledger.creatorBalances.get i = some b ∧ b.creatorId = e.creatorId ∧
            b.currency = e.currency := by
          rw [entries, Table.get_insert] at present
          split at present
          · obtain rfl := Option.some.inj present
            exact ⟨id, balance, held, sameCreator, sameCurrency⟩
          · exact balanced.covered key e present
        obtain ⟨i, b, found, creators, currencies⟩ := owner
        obtain ⟨b', kept, creators', currencies'⟩ := survives i b found
        exact ⟨i, b', kept, creators'.trans creators, currencies'.trans currencies⟩
    · refine ⟨keys, ?_, ?_, ?_⟩
      · intro i j a b presentA presentB creators currencies
        rw [balances, Table.get_insert] at presentA presentB
        split at presentA <;> split at presentB
        · rename_i first second
          exact first.trans second.symm
        · obtain rfl := Option.some.inj presentA
          exact absurd ⟨creators.symm, currencies.symm⟩ (none j b presentB)
        · obtain rfl := Option.some.inj presentB
          exact absurd ⟨creators, currencies⟩ (none i a presentA)
        · exact balanced.rows i j a b presentA presentB creators currencies
      · intro key row present
        rw [balances, Table.get_insert] at present
        rw [history]
        split at present
        · obtain rfl := Option.some.inj present
          rw [if_pos ⟨rfl, rfl⟩, balanced.no_history none, Int.zero_add]
        · rw [balanced.totals key row present, if_neg, Int.add_zero]
          rintro ⟨creators, currencies⟩
          exact none key row present ⟨creators.symm, currencies.symm⟩
      · intro key e present
        rw [entries, Table.get_insert] at present
        split at present
        · obtain rfl := Option.some.inj present
          exact ⟨ledger.creatorBalances.next, _, by rw [balances, Table.get_insert_next], rfl, rfl⟩
        · obtain ⟨i, b, found, creators, currencies⟩ := balanced.covered key e present
          exact ⟨i, b, by rw [balances, Table.get_insert_of_some found], creators, currencies⟩

/-! ### Reading a balance -/

/-- The running total less what is held is the sum of what is released. -/
theorem Balanced.balanceAt_eq_summary {ledger : Ledger} (balanced : Balanced ledger)
    (creatorId : UserId) (currency : String) (now : Time) :
    balanceAt ledger creatorId currency now = summary ledger creatorId currency now := by
  have stored : ((ledger.creatorBalances.first fun b =>
      b.creatorId == creatorId && b.currency == currency).map fun row =>
        row.2.totalCents).getD 0 = historyCents ledger creatorId currency := by
    cases found : ledger.creatorBalances.first fun b =>
        b.creatorId == creatorId && b.currency == currency with
    | none =>
        refine (balanced.no_history ?_).symm
        intro id balance present same
        have unmatched := Table.first_none found present
        simp [same.1, same.2] at unmatched
    | some row =>
        obtain ⟨present, matched⟩ := Table.first_row found
        simp only [Bool.and_eq_true, beq_iff_eq] at matched
        have total := balanced.totals row.1 row.2 present
        rw [matched.1, matched.2] at total
        exact total
  have split := Table.total_split ledger.ledgerEntries (ownedBy creatorId currency)
    (fun e => decide (now < e.effectiveAt)) LedgerEntry.amountCents
  have released : ledger.ledgerEntries.total
      (fun e => ownedBy creatorId currency e && !decide (now < e.effectiveAt))
      LedgerEntry.amountCents = ledger.ledgerEntries.total
      (fun e => ownedBy creatorId currency e && decide (e.effectiveAt ≤ now))
      LedgerEntry.amountCents := by
    refine Table.total_congr ?_
    intro id e _
    have opposite : (!decide (now < e.effectiveAt)) = decide (e.effectiveAt ≤ now) := by
      rcases Nat.lt_or_ge now e.effectiveAt with held | released
      · simp [held]
      · simp [released]
    rw [opposite]
  have pending : ((ledger.ledgerEntries.query fun e =>
      e.creatorId == creatorId && e.currency == currency && decide (now < e.effectiveAt)).map
        fun row => row.2.amountCents).sum = historyCents ledger creatorId currency -
      ledger.ledgerEntries.total
        (fun e => ownedBy creatorId currency e && decide (e.effectiveAt ≤ now))
        LedgerEntry.amountCents := by
    rw [released] at split
    rw [historyCents, split, Int.add_sub_cancel]
    rfl
  simp only [balanceAt, summary, stored, pending, Int.sub_sub_self]

/-! ### Every writer posts -/

/-- A write to the ledger by one of the four functions that make them. -/
inductive LedgerWrite where
  | creditEarning (env : Env) (attemptId : AttemptId) (attempt : PaymentAttempt) (callId : CallId)
      (liveAt : Time)
  | reverseForRefund (ctx : Ctx) (attempts : Table PaymentAttempt) (refundId : RefundId)
      (refund : PaymentRefund)
  | adjustForDispute (ctx : Ctx) (dispute : PaymentDispute)
  | reserve (ctx : Ctx) (payoutRun : PayoutRun) (account : PayoutAccount) (itemId : ItemId)
      (availableCents : Int)

def LedgerWrite.apply (ledger : Ledger) : LedgerWrite → Ledger
  | .creditEarning env attemptId attempt callId liveAt =>
    Bling.creditEarning env ledger attemptId attempt callId liveAt
  | .reverseForRefund ctx attempts refundId refund =>
    Bling.reverseForRefund ctx attempts ledger refundId refund
  | .adjustForDispute ctx dispute => Bling.adjustForDispute ctx ledger dispute
  | .reserve ctx payoutRun account itemId availableCents =>
    (postEntry ledger (reservationEntry ctx payoutRun account itemId availableCents)).1

/-- An entry about a paid call, not about a payout. -/
def IsCallEntry (entry : LedgerEntry) : Prop :=
  entry.kind ≠ .payoutReservation ∧ ∀ itemId, entry.idempotencyKey ≠ .payoutReservation itemId

/-- The ledger after some entries of a kind. -/
def PostsOnly (kind : LedgerEntry → Prop) (before after : Ledger) : Prop :=
  ∃ entries, (∀ entry ∈ entries, kind entry) ∧ after = posts before entries

abbrev PostsCalls : Ledger → Ledger → Prop := PostsOnly IsCallEntry

theorem PostsOnly.refl (kind : LedgerEntry → Prop) (ledger : Ledger) :
    PostsOnly kind ledger ledger :=
  ⟨[], fun _ member => absurd member List.not_mem_nil, rfl⟩

theorem PostsOnly.one {kind : LedgerEntry → Prop} (ledger : Ledger) {entry : LedgerEntry}
    (is : kind entry) : PostsOnly kind ledger (postEntry ledger entry).1 := by
  refine ⟨[entry], ?_, rfl⟩
  intro other member
  rw [List.mem_singleton.mp member]
  exact is

theorem creditEarning_posts (env : Env) (ledger : Ledger) (attemptId : AttemptId)
    (attempt : PaymentAttempt) (callId : CallId) (liveAt : Time) :
    PostsCalls ledger (creditEarning env ledger attemptId attempt callId liveAt) := by
  unfold creditEarning
  split
  · exact .one ledger ⟨by simp, by simp⟩
  · exact .refl _ ledger

theorem reverseForRefund_posts (ctx : Ctx) (attempts : Table PaymentAttempt) (ledger : Ledger)
    (refundId : RefundId) (refund : PaymentRefund) :
    PostsCalls ledger (reverseForRefund ctx attempts ledger refundId refund) := by
  unfold reverseForRefund
  split
  · exact .refl _ ledger
  · dsimp only
    split
    · exact .refl _ ledger
    · exact .one ledger ⟨by simp, by simp⟩

theorem adjustForDispute_posts (ctx : Ctx) (ledger : Ledger) (dispute : PaymentDispute) :
    PostsCalls ledger (adjustForDispute ctx ledger dispute) := by
  unfold adjustForDispute
  split
  · exact .refl _ ledger
  · split
    · exact .refl _ ledger
    · split
      · exact .one ledger ⟨by simp, by simp⟩
      · split
        · split
          · exact .refl _ ledger
          · exact .one ledger ⟨by simp, by simp⟩
        · exact .refl _ ledger

theorem LedgerWrite.apply_posts (ledger : Ledger) (write : LedgerWrite) :
    ∃ entries, write.apply ledger = posts ledger entries := by
  have any {after : Ledger} (posted : PostsCalls ledger after) :
      ∃ entries, after = posts ledger entries := posted.imp fun _ => And.right
  cases write with
  | creditEarning env attemptId attempt callId liveAt =>
      exact any (creditEarning_posts env ledger attemptId attempt callId liveAt)
  | reverseForRefund ctx attempts refundId refund =>
      exact any (reverseForRefund_posts ctx attempts ledger refundId refund)
  | adjustForDispute ctx dispute => exact any (adjustForDispute_posts ctx ledger dispute)
  | reserve ctx payoutRun account itemId availableCents => exact ⟨[_], rfl⟩

theorem Balanced.posts {ledger : Ledger} (balanced : Balanced ledger)
    (entries : List LedgerEntry) : Balanced (Bling.posts ledger entries) := by
  induction entries generalizing ledger with
  | nil => exact balanced
  | cons entry rest ih => exact ih (balanced.post entry)

/-- The fields of a payout item that never change. -/
structure SameItem (before after : PayoutItem) : Prop where
  runId : after.runId = before.runId
  creatorId : after.creatorId = before.creatorId
  amountCents : after.amountCents = before.amountCents
  currency : after.currency = before.currency
  destinationAccountId : after.destinationAccountId = before.destinationAccountId
  idempotencyKey : after.idempotencyKey = before.idempotencyKey

theorem SameItem.refl (item : PayoutItem) : SameItem item item :=
  ⟨rfl, rfl, rfl, rfl, rfl, rfl⟩

theorem SameItem.trans {a b c : PayoutItem} (first : SameItem a b) (second : SameItem b c) :
    SameItem a c :=
  ⟨second.runId.trans first.runId, second.creatorId.trans first.creatorId,
    second.amountCents.trans first.amountCents, second.currency.trans first.currency,
    second.destinationAccountId.trans first.destinationAccountId,
    second.idempotencyKey.trans first.idempotencyKey⟩

theorem SameItem.symm {a b : PayoutItem} (same : SameItem a b) : SameItem b a :=
  ⟨same.runId.symm, same.creatorId.symm, same.amountCents.symm, same.currency.symm,
    same.destinationAccountId.symm, same.idempotencyKey.symm⟩

/-- What a mutation can do to the ledger and to the payouts. -/
inductive LedgerEffect (ctx : Ctx) (m : Mutation) (db after : DB) : Prop
  | calls (posted : PostsCalls db.ledger after.ledger)
      (items : after.payoutItems = db.payoutItems)
  | item (itemId : ItemId) (item : PayoutItem) (moved : PayoutItem → PayoutItem)
      (present : db.payoutItems.get itemId = some item) (unpaid : item.status ∈ unsettled)
      (same : SameItem item (moved item))
      (next : (moved item).status ∈ unsettled ∨ (moved item).status = .paid)
      (ledger : after.ledger = db.ledger)
      (items : after.payoutItems = db.payoutItems.patch itemId moved)
  | batch (runId : RunId) (payoutRun : PayoutRun) (cursor : Option Nat)
      (asked : m = .reserveBatch runId cursor) (entries : List LedgerEntry)
      (posted : after.ledger = posts db.ledger entries)
      (turns : Relation.ReflTransGen (Turn ctx runId payoutRun) db after)

theorem mutation_ledger (ctx : Ctx) (db : DB) (m : Mutation) :
    LedgerEffect ctx m db (m.apply ctx db) := by
  have kept {after : DB} (ledger : after.ledger = db.ledger)
      (items : after.payoutItems = db.payoutItems) : LedgerEffect ctx m db after :=
    .calls (by rw [ledger]; exact .refl _ db.ledger) items
  have settled (outcome : RefundOutcome) (refundId : RefundId) (refund : PaymentRefund) :
      PostsCalls db.ledger (ledgerAfter ctx db outcome refundId refund) := by
    unfold ledgerAfter
    split
    · exact reverseForRefund_posts ctx db.paymentAttempts db.ledger refundId refund
    · exact .refl _ db.ledger
  cases m.effect ctx db with
  | moved callId call target shows present allowed asked isOver same =>
      refine .calls ?_ same.payoutItems
      rw [same.ledger]
      dsimp only
      rcases goLive_ledger ctx db callId call target with
        unchanged | ⟨_, _, attemptId, attempt, _, _, credited⟩
      · rw [unchanged]
        exact .refl _ db.ledger
      · rw [credited]
        exact creditEarning_posts ctx.env db.ledger attemptId attempt callId ctx.now
  | refundRecorded refundId refund stripeRefundId status failureCode asked present unsettled same =>
      exact .calls (same.ledger ▸ settled _ _ _) same.payoutItems
  | refundSettled event refundId refund asked matched present newer same =>
      exact .calls (same.ledger ▸ settled _ _ _) same.payoutItems
  | refundFound event refund asked unmatched outside same =>
      exact .calls (same.ledger ▸ settled _ _ _) same.payoutItems
  | disputed event asked same =>
      exact .calls (same.ledger ▸ adjustForDispute_posts ctx db.ledger _) same.payoutItems
  | reserved runId payoutRun entries payoutItems payoutRuns cursor asked present each turns
      same =>
      exact .batch runId payoutRun cursor asked entries same.ledger turns
  | itemClaimed itemId item asked present due same =>
      have items := same.payoutItems
      dsimp only at items
      refine .item itemId item _ present ?_ ?_ ?_ same.ledger items
      · cases status : item.status <;> simp_all [transferDue, unsettled]
      · exact ⟨rfl, rfl, rfl, rfl, rfl, rfl⟩
      · exact Or.inl (by simp [unsettled])
  | itemPaid itemId item transferId asked present sending same =>
      have items := same.payoutItems
      dsimp only at items
      refine .item itemId item _ present ?_ ?_ ?_ same.ledger items
      · exact sending ▸ by decide
      · exact ⟨rfl, rfl, rfl, rfl, rfl, rfl⟩
      · exact Or.inr rfl
  | itemRetried itemId item status failureCode nextAttemptAt processedAt present sending again
      same =>
      have items := same.payoutItems
      dsimp only at items
      refine .item itemId item _ present ?_ ?_ ?_ same.ledger items
      · exact sending ▸ by decide
      · exact ⟨rfl, rfl, rfl, rfl, rfl, rfl⟩
      · rcases again with rfl | rfl <;> exact Or.inl (by simp [unsettled])
  | selected showId hotline entryId entry mode attempt asked host live idle present inShow waiting
      held paid same =>
      refine kept (same.ledger.trans ?_) (same.payoutItems.trans ?_) <;>
        cases attempt <;> rfl
  | _ =>
      rename_i same
      exact kept same.ledger same.payoutItems

/-- Whatever a mutation does to the ledger, it does by posting. -/
theorem mutation_posts (ctx : Ctx) (db : DB) (m : Mutation) :
    ∃ entries, (m.apply ctx db).ledger = posts db.ledger entries := by
  cases mutation_ledger ctx db m with
  | calls posted items => exact posted.imp fun _ => And.right
  | item itemId item moved present unpaid same next ledger items => exact ⟨[], ledger⟩
  | batch runId payoutRun cursor asked entries posted turns => exact ⟨entries, posted⟩

theorem Balanced.reached {w : World} (reached : World.Reached w) : Balanced w.db.ledger := by
  refine World.reached_keeps (fun db => Balanced db.ledger) (fun _ _ => Iff.rfl)
    .empty ?_ reached
  intro ctx db m balanced
  obtain ⟨entries, posted⟩ := mutation_posts ctx db m
  rw [posted]
  exact balanced.posts entries

/-- What the balance reads promise of a ledger. -/
structure BalancesAgree (ledger : Ledger) : Prop where
  one_row : ∀ i j a b, ledger.creatorBalances.get i = some a →
    ledger.creatorBalances.get j = some b → a.creatorId = b.creatorId →
    a.currency = b.currency → i = j
  totals : ∀ id b, ledger.creatorBalances.get id = some b →
    b.totalCents = historyCents ledger b.creatorId b.currency
  one_entry : ∀ i j a b, ledger.ledgerEntries.get i = some a →
    ledger.ledgerEntries.get j = some b → a.idempotencyKey = b.idempotencyKey → i = j
  reads : ∀ creatorId currency now,
    balanceAt ledger creatorId currency now = summary ledger creatorId currency now

theorem Balanced.agree {ledger : Ledger} (balanced : Balanced ledger) : BalancesAgree ledger :=
  ⟨balanced.rows, balanced.totals, balanced.keys, balanced.balanceAt_eq_summary⟩

/-- After any sequence of ledger writes, and in every state the system can
reach, the optimised balance is the sum of the history. -/
theorem balances_agree :
    (∀ writes : List LedgerWrite, BalancesAgree (run LedgerWrite.apply .empty writes)) ∧
      ∀ w, World.Reached w → BalancesAgree w.db.ledger := by
  refine ⟨?_, fun w reached => (Balanced.reached reached).agree⟩
  intro writes
  have reached : Reachable LedgerWrite.apply .empty (run LedgerWrite.apply .empty writes) :=
    ⟨writes, rfl⟩
  refine Balanced.agree (reached.induct Balanced .empty ?_)
  intro ledger write balanced
  obtain ⟨entries, posted⟩ := write.apply_posts ledger
  rw [posted]
  exact balanced.posts entries

end Bling
