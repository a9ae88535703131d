import Bling.Mutations
import Bling.Balances

set_option autoImplicit false

namespace Bling

open Library

/-! The keys that transfers are sent to Stripe under, over any months and
currencies. -/

/-- A month as `toISOString().slice(0, 7)` writes it. From year 10000 on a sign
and two more digits leave no room for the month. -/
def Month.written (month : Month) : Nat × Option Nat :=
  if month.year < 10000 then (month.year, some month.month) else (month.year, none)

/-- An item's `idempotencyKey` as it is sent. -/
def PayoutItem.sentKey (item : PayoutItem) : UserId × Nat × Option Nat :=
  (item.idempotencyKey.creatorId, item.idempotencyKey.period.written)

/-- What payouts read and write: balances in any currency come about, and the
mutations of `payouts.ts` run at any time and with any configuration. -/
inductive PayoutOp where
  | post (entry : LedgerEntry)
  | saveAccount (creatorId : UserId) (account : PayoutAccount)
  | runDue
  | reserveBatch (runId : RunId) (cursor : Option Nat)
  | claimTransfer (itemId : ItemId)
  | markPaid (itemId : ItemId) (transferId : StripeId)
  | retryTransfer (itemId : ItemId) (failureCode : String)
  | finishRuns
deriving DecidableEq

def payoutStep (db : DB) (input : Ctx × PayoutOp) : DB :=
  match input.2 with
  | .post entry => { db with ledger := (postEntry db.ledger entry).1 }
  | .saveAccount creatorId account => saveAccount db creatorId account
  | .runDue => runDue input.1 db
  | .reserveBatch runId cursor => reserveBatch input.1 db runId cursor
  | .claimTransfer itemId => (claimTransfer input.1 db itemId).1
  | .markPaid itemId transferId => markPaid input.1 db itemId transferId
  | .retryTransfer itemId failureCode => retryTransfer input.1 db itemId failureCode
  | .finishRuns => finishRuns input.1 db

/-- The checks of a batch's turn over an account. -/
def eligible (ctx : Ctx) (db : DB) (runId : RunId) (payoutRun : PayoutRun)
    (account : PayoutAccount) : Bool :=
  account.transfersStatus == "active" &&
    (db.payoutItems.first fun i =>
      i.runId == runId && i.creatorId == account.creatorId).isNone &&
    !(unsettled.any fun status => (db.payoutItems.first fun i =>
      i.creatorId == account.creatorId && i.status == status).isSome) &&
    decide ((config ctx.env).minimumCents ≤
      (balanceAt db.ledger account.creatorId payoutRun.currency ctx.now).availableCents)

/-- The creator has an item in a run of another currency, or of another month,
whose month is written the same. -/
def crosses (db : DB) (payoutRun : PayoutRun) (creatorId : UserId) : Bool :=
  db.payoutItems.rows.any fun row => row.2.creatorId == creatorId &&
    (db.payoutRuns.get row.2.runId).any fun other =>
      (other.currency != payoutRun.currency || other.periodStart != payoutRun.periodStart) &&
        other.periodStart.written == payoutRun.periodStart.written

/-- No account that a batch is about to reserve for crosses another run. -/
def uncrossed (db : DB) (input : Ctx × PayoutOp) : Bool :=
  match input.2 with
  | .reserveBatch runId cursor => (db.payoutRuns.get runId).all fun payoutRun =>
      ((accountsAfter db cursor).take reserveBatchSize).all fun row =>
        !(eligible input.1 db runId payoutRun row.2 && crosses db payoutRun row.2.creatorId)
  | _ => true

/-! ### What the keys depend on -/

def PayoutRun.key (payoutRun : PayoutRun) : Month × String :=
  (payoutRun.periodStart, payoutRun.currency)

def PayoutItem.origin (item : PayoutItem) : RunId × UserId × PayoutKey :=
  (item.runId, item.creatorId, item.idempotencyKey)

/-- One run for each month and currency, one item in it for each creator, and a
key for each item. -/
structure KeysApart (db : DB) : Prop where
  balanced : Balanced db.ledger
  runs : ∀ i j a b, db.payoutRuns.get i = some a → db.payoutRuns.get j = some b →
    a.key = b.key → i = j
  belongs : ∀ id item, db.payoutItems.get id = some item → ∃ payoutRun,
    db.payoutRuns.get item.runId = some payoutRun ∧
      item.idempotencyKey = ⟨item.creatorId, payoutRun.periodStart⟩
  once : ∀ i j a b, db.payoutItems.get i = some a → db.payoutItems.get j = some b →
    a.runId = b.runId → a.creatorId = b.creatorId → i = j
  apart : ∀ i j a b, db.payoutItems.get i = some a → db.payoutItems.get j = some b →
    a.sentKey = b.sentKey → i = j

theorem KeysApart.empty : KeysApart .empty := by
  refine ⟨.empty, ?_, ?_, ?_, ?_⟩ <;> intro id <;> intros <;> contradiction

/-- Nothing that the keys depend on has changed. -/
structure SameKeys (before after : DB) : Prop where
  runs : ∀ id, (after.payoutRuns.get id).map PayoutRun.key =
    (before.payoutRuns.get id).map PayoutRun.key
  items : ∀ id, (after.payoutItems.get id).map PayoutItem.origin =
    (before.payoutItems.get id).map PayoutItem.origin

theorem SameKeys.refl (db : DB) : SameKeys db db := ⟨fun _ => rfl, fun _ => rfl⟩

theorem SameKeys.trans {a b c : DB} (first : SameKeys a b) (second : SameKeys b c) :
    SameKeys a c :=
  ⟨fun id => (second.runs id).trans (first.runs id),
    fun id => (second.items id).trans (first.items id)⟩

theorem SameKeys.run {before after : DB} (same : SameKeys before after) {id : RunId}
    {payoutRun : PayoutRun} (found : after.payoutRuns.get id = some payoutRun) :
    ∃ old, before.payoutRuns.get id = some old ∧ old.key = payoutRun.key := by
  have here := same.runs id
  rw [found, Option.map_some] at here
  obtain ⟨old, present, key⟩ := Option.map_eq_some_iff.mp here.symm
  exact ⟨old, present, key⟩

theorem SameKeys.item {before after : DB} (same : SameKeys before after) {id : ItemId}
    {item : PayoutItem} (found : after.payoutItems.get id = some item) :
    ∃ old, before.payoutItems.get id = some old ∧ old.origin = item.origin := by
  have here := same.items id
  rw [found, Option.map_some] at here
  obtain ⟨old, present, key⟩ := Option.map_eq_some_iff.mp here.symm
  exact ⟨old, present, key⟩

theorem SameKeys.symm {before after : DB} (same : SameKeys before after) :
    SameKeys after before :=
  ⟨fun id => (same.runs id).symm, fun id => (same.items id).symm⟩

theorem sentKey_of_origin {a b : PayoutItem} (same : a.origin = b.origin) :
    a.sentKey = b.sentKey := by
  simp only [PayoutItem.origin, Prod.mk.injEq] at same
  simp [PayoutItem.sentKey, same.2.2]

theorem KeysApart.same {before after : DB} (apart : KeysApart before)
    (balanced : Balanced after.ledger) (same : SameKeys before after) : KeysApart after := by
  refine ⟨balanced, ?_, ?_, ?_, ?_⟩
  · intro i j a b foundA foundB key
    obtain ⟨oldA, presentA, sameA⟩ := same.run foundA
    obtain ⟨oldB, presentB, sameB⟩ := same.run foundB
    exact apart.runs i j oldA oldB presentA presentB (by rw [sameA, sameB, key])
  · intro id item found
    obtain ⟨old, present, origin⟩ := same.item found
    obtain ⟨payoutRun, there, key⟩ := apart.belongs id old present
    obtain ⟨now, located, runKey⟩ := same.symm.run there
    simp only [PayoutItem.origin, Prod.mk.injEq] at origin
    simp only [PayoutRun.key, Prod.mk.injEq] at runKey
    refine ⟨now, by rw [← origin.1]; exact located, ?_⟩
    rw [← origin.2.2, ← origin.2.1, key, runKey.1]
  · intro i j a b foundA foundB run creator
    obtain ⟨oldA, presentA, sameA⟩ := same.item foundA
    obtain ⟨oldB, presentB, sameB⟩ := same.item foundB
    simp only [PayoutItem.origin, Prod.mk.injEq] at sameA sameB
    exact apart.once i j oldA oldB presentA presentB (by rw [sameA.1, sameB.1, run])
      (by rw [sameA.2.1, sameB.2.1, creator])
  · intro i j a b foundA foundB key
    obtain ⟨oldA, presentA, sameA⟩ := same.item foundA
    obtain ⟨oldB, presentB, sameB⟩ := same.item foundB
    exact apart.apart i j oldA oldB presentA presentB
      (by rw [sentKey_of_origin sameA, sentKey_of_origin sameB, key])

/-- A patch that leaves `field` alone leaves it alone in every row. -/
theorem map_get_patch {α β : Type} {field : α → β} {f : α → α} (keeps : ∀ a, field (f a) = field a)
    (t : Table α) (key id : Nat) :
    ((t.patch key f).get id).map field = (t.get id).map field := by
  rw [Table.get_patch]
  split
  · rw [Option.map_map]
    exact congrArg (fun g => (t.get id).map g) (funext keeps)
  · rfl

theorem SameKeys.patchItem (db : DB) (itemId : ItemId) {f : PayoutItem → PayoutItem}
    (keeps : ∀ item, (f item).origin = item.origin) :
    SameKeys db { db with payoutItems := db.payoutItems.patch itemId f } :=
  ⟨fun _ => rfl, map_get_patch keeps db.payoutItems itemId⟩

theorem SameKeys.patchRun (db : DB) (runId : RunId) {f : PayoutRun → PayoutRun}
    (keeps : ∀ payoutRun, (f payoutRun).key = payoutRun.key) :
    SameKeys db { db with payoutRuns := db.payoutRuns.patch runId f } :=
  ⟨map_get_patch keeps db.payoutRuns runId, fun _ => rfl⟩

theorem SameKeys.thenAfter {before after : DB} (same : SameKeys before after) (now delay : Time)
    (job : Job) : SameKeys before (after.runAfter now delay job) := ⟨same.runs, same.items⟩

theorem finishRun_keys (ctx : Ctx) (db : DB) (runId : RunId) :
    SameKeys db (finishRun ctx db runId) := by
  unfold finishRun
  dsimp only
  split
  · exact .refl db
  · exact .patchRun db runId fun _ => rfl

theorem finishRuns_keys (ctx : Ctx) (db : DB) : SameKeys db (finishRuns ctx db) := by
  unfold finishRuns
  generalize ((db.payoutRuns.query fun r => r.status == .processing).take 12).map Prod.fst = ids
  induction ids generalizing db with
  | nil => exact .refl db
  | cons runId rest ih => exact (finishRun_keys ctx db runId).trans (ih _)

theorem finishRuns_ledger (ctx : Ctx) (db : DB) : (finishRuns ctx db).ledger = db.ledger := by
  unfold finishRuns
  generalize ((db.payoutRuns.query fun r => r.status == .processing).take 12).map Prod.fst = ids
  induction ids generalizing db with
  | nil => rfl
  | cons runId rest ih =>
      refine (ih _).trans ?_
      unfold finishRun
      dsimp only
      split <;> rfl

/-- Transfers move an item on, and leave what it was reserved for. -/
theorem transfer_keys (ctx : Ctx) (db : DB) {op : PayoutOp}
    (transfers : (∃ itemId, op = .claimTransfer itemId) ∨
      (∃ itemId transferId, op = .markPaid itemId transferId) ∨
      ∃ itemId failureCode, op = .retryTransfer itemId failureCode) :
    SameKeys db (payoutStep db (ctx, op)) ∧ (payoutStep db (ctx, op)).ledger = db.ledger := by
  rcases transfers with ⟨itemId, rfl⟩ | ⟨itemId, transferId, rfl⟩ | ⟨itemId, failureCode, rfl⟩
  · unfold payoutStep claimTransfer
    dsimp only
    split
    · exact ⟨.refl db, rfl⟩
    · split
      · exact ⟨.refl db, rfl⟩
      · exact ⟨.patchItem db itemId fun _ => rfl, rfl⟩
  · unfold payoutStep markPaid
    dsimp only
    split
    · refine ⟨.thenAfter (.patchItem db itemId ?_) _ _ _, rfl⟩
      exact fun _ => rfl
    · exact ⟨.refl db, rfl⟩
  · unfold payoutStep retryTransfer
    dsimp only
    split
    · exact ⟨.refl db, rfl⟩
    · split
      · exact ⟨.refl db, rfl⟩
      · split
        · refine ⟨.thenAfter (.patchItem db itemId ?_) _ _ _, rfl⟩
          exact fun _ => rfl
        · refine ⟨.thenAfter (.patchItem db itemId ?_) _ _ _, rfl⟩
          exact fun _ => rfl

/-- A month is opened once in a currency. -/
theorem KeysApart.runDue {db : DB} (apart : KeysApart db) (ctx : Ctx) :
    KeysApart (Bling.runDue ctx db) := by
  unfold Bling.runDue
  dsimp only
  split
  · exact apart
  · split
    · exact apart.same apart.balanced ⟨fun _ => rfl, fun _ => rfl⟩
    · rename_i absent
      have opened : KeysApart { db with
          payoutRuns := db.payoutRuns.insert
            { periodStart := (payoutPeriod ctx.now (config ctx.env).payoutDay).1
              periodEnd := (payoutPeriod ctx.now (config ctx.env).payoutDay).2
              currency := (config ctx.env).currency
              status := .processing
              completedAt := none } } := by
        refine ⟨apart.balanced, ?_, ?_, apart.once, apart.apart⟩
        · intro i j a b foundA foundB key
          have older : ∀ id old, db.payoutRuns.get id = some old → old.key ≠
              ((payoutPeriod ctx.now (config ctx.env).payoutDay).1, (config ctx.env).currency) := by
            intro id old present same
            have unmatched := Table.first_none absent present
            simp only [PayoutRun.key, Prod.mk.injEq] at same
            simp [same.1, same.2] at unmatched
          rcases Table.get_insert_row foundA with ⟨newA, rfl⟩ | oldA
          · rcases Table.get_insert_row foundB with ⟨newB, rfl⟩ | oldB
            · rw [newA, newB]
            · exact absurd key.symm (older j b oldB)
          · rcases Table.get_insert_row foundB with ⟨newB, rfl⟩ | oldB
            · exact absurd key (older i a oldA)
            · exact apart.runs i j a b oldA oldB key
        · intro id item found
          obtain ⟨payoutRun, present, key⟩ := apart.belongs id item found
          exact ⟨payoutRun, Table.get_insert_of_some present _, key⟩
      exact opened.same apart.balanced ⟨fun _ => rfl, fun _ => rfl⟩

/-! ### A batch -/

/-- The batch part way: what it has reserved so far is in its own run, and the
money of creators it has not reserved for is untouched. -/
structure Reserving (runId : RunId) (payoutRun : PayoutRun) (start db : DB) : Prop where
  apart : KeysApart db
  runs : ∀ id, (db.payoutRuns.get id).map PayoutRun.key =
    (start.payoutRuns.get id).map PayoutRun.key
  old : ∀ id item, start.payoutItems.get id = some item → db.payoutItems.get id = some item
  new : ∀ id item, db.payoutItems.get id = some item →
    start.payoutItems.get id = some item ∨ item.runId = runId
  funds : ∀ creatorId, (∀ id item, db.payoutItems.get id = some item → item.runId = runId →
    item.creatorId ≠ creatorId) → ∀ now,
    balanceAt db.ledger creatorId payoutRun.currency now =
      balanceAt start.ledger creatorId payoutRun.currency now

/-- An entry for someone else leaves a creator's balance alone. -/
theorem balanceAt_post_other {ledger : Ledger} (balanced : Balanced ledger) {entry : LedgerEntry}
    {creatorId : UserId} (other : entry.creatorId ≠ creatorId) (currency : String) (now : Time) :
    balanceAt (postEntry ledger entry).1 creatorId currency now =
      balanceAt ledger creatorId currency now := by
  rw [(balanced.post entry).balanceAt_eq_summary, balanced.balanceAt_eq_summary]
  rcases postEntry_cases ledger entry with ⟨unchanged, _⟩ | ⟨entries, _, _⟩
  · rw [unchanged]
  · simp [summary, historyCents, entries, Table.total_insert, ownedBy, other]

theorem reserveAccount_active {ctx : Ctx} {runId : RunId} {payoutRun : PayoutRun} {db : DB}
    {account : PayoutAccount} :
    reserveAccount ctx runId payoutRun db account = db ∨ account.transfersStatus = "active" := by
  by_cases active : account.transfersStatus = "active"
  · exact Or.inr active
  · unfold reserveAccount
    rw [if_pos active]
    exact Or.inl rfl

/-- What the batch reserves for now, it could have reserved for at its start. -/
theorem Reserving.eligible {ctx : Ctx} {runId : RunId} {payoutRun : PayoutRun} {start db after : DB}
    (reserving : Reserving runId payoutRun start db) {account : PayoutAccount} {cents : Int}
    (active : account.transfersStatus = "active")
    (reserves : Reserves ctx runId payoutRun account cents db after) :
    eligible ctx start runId payoutRun account = true := by
  have untouched : ∀ id item, db.payoutItems.get id = some item → item.runId = runId →
      item.creatorId ≠ account.creatorId := fun id item present inRun owned =>
    reserves.first id item present ⟨inRun, owned⟩
  have first : (start.payoutItems.first fun i =>
      i.runId == runId && i.creatorId == account.creatorId) = none := by
    rw [Table.first_none_iff]
    intro id item present
    have later := reserving.old id item present
    have unmatched := reserves.first id item later
    simpa using unmatched
  have settled : (unsettled.any fun status => (start.payoutItems.first fun i =>
      i.creatorId == account.creatorId && i.status == status).isSome) = false := by
    rw [List.any_eq_false]
    intro status isOpen found
    obtain ⟨id, item, present, matched⟩ := (Table.first_isSome_iff _ _).mp found
    simp only [Bool.and_eq_true, beq_iff_eq] at matched
    exact reserves.settled id item (reserving.old id item present) matched.1
      (matched.2 ▸ isOpen)
  have funds := reserving.funds account.creatorId untouched ctx.now
  have available := reserves.available
  rw [funds] at available
  have minimum := reserves.minimum
  simp only [Bling.eligible, active, first, settled, ← available, minimum, beq_self_eq_true,
    Option.isNone_none, Bool.not_false, Bool.and_self, decide_true]

/-- An item whose key is written like the new one's would cross. -/
theorem Reserving.unsent {ctx : Ctx} {runId : RunId} {payoutRun read : PayoutRun}
    {start db after : DB} (reserving : Reserving runId payoutRun start db) {account : PayoutAccount}
    {cents : Int} (reserves : Reserves ctx runId payoutRun account cents db after)
    (located : db.payoutRuns.get runId = some read) (readKey : read.key = payoutRun.key)
    (uncrossed : crosses start payoutRun account.creatorId = false) (id : ItemId)
    (item : PayoutItem) (there : db.payoutItems.get id = some item) :
    item.sentKey ≠ (reservedItem ctx runId payoutRun account cents).sentKey := by
  have apart := reserving.apart
  intro sent
  obtain ⟨r, found, key⟩ := apart.belongs id item there
  simp only [PayoutItem.sentKey, reservedItem, key, Prod.mk.injEq] at sent
  obtain ⟨owned, written⟩ := sent
  have elsewhere : item.runId ≠ runId := fun inRun => reserves.first id item there ⟨inRun, owned⟩
  have old := (reserving.new id item there).resolve_right elsewhere
  obtain ⟨other, opened, otherKey⟩ : ∃ other, start.payoutRuns.get item.runId = some other ∧
      other.key = r.key := by
    have here := reserving.runs item.runId
    rw [found, Option.map_some] at here
    obtain ⟨other, opened, same⟩ := Option.map_eq_some_iff.mp here.symm
    exact ⟨other, opened, same⟩
  have apartRuns : other.currency ≠ payoutRun.currency ∨
      other.periodStart ≠ payoutRun.periodStart := by
    by_contra same
    simp only [not_or, not_not] at same
    refine elsewhere (apart.runs _ _ r read found located ?_)
    rw [← otherKey, readKey]
    simp [PayoutRun.key, same.1, same.2]
  have period : other.periodStart = r.periodStart := congrArg Prod.fst otherKey
  unfold crosses at uncrossed
  rw [List.any_eq_false] at uncrossed
  refine uncrossed (id, item) ((Table.mem_rows_iff _ _ _).mpr old) ?_
  have differs : (other.currency != payoutRun.currency ||
      other.periodStart != payoutRun.periodStart) = true := by
    simpa [bne_iff_ne] using apartRuns
  rw [← period] at written
  simp only [opened, owned, differs, written, Option.any_some, beq_self_eq_true, Bool.and_self]

/-- One more reservation keeps the keys apart, unless the creator crosses. -/
theorem Reserving.reserve {ctx : Ctx} {runId : RunId} {payoutRun : PayoutRun} {start db after : DB}
    (present : start.payoutRuns.get runId = some payoutRun)
    (reserving : Reserving runId payoutRun start db) {account : PayoutAccount} {cents : Int}
    (reserves : Reserves ctx runId payoutRun account cents db after)
    (uncrossed : crosses start payoutRun account.creatorId = false) :
    Reserving runId payoutRun start after := by
  have apart := reserving.apart
  have runs : ∀ id, (after.payoutRuns.get id).map PayoutRun.key =
      (db.payoutRuns.get id).map PayoutRun.key := by
    intro id
    rw [reserves.runs]
    split
    · refine map_get_patch ?_ db.payoutRuns runId id
      exact fun _ => rfl
    · rfl
  have sameRun {id : RunId} {r : PayoutRun} (found : after.payoutRuns.get id = some r) :
      ∃ old, db.payoutRuns.get id = some old ∧ old.key = r.key := by
    have here := runs id
    rw [found, Option.map_some] at here
    obtain ⟨old, there, key⟩ := Option.map_eq_some_iff.mp here.symm
    exact ⟨old, there, key⟩
  have laterRun {id : RunId} {r : PayoutRun} (found : db.payoutRuns.get id = some r) :
      ∃ now, after.payoutRuns.get id = some now ∧ now.key = r.key := by
    have here := runs id
    rw [found, Option.map_some] at here
    obtain ⟨now, there, key⟩ := Option.map_eq_some_iff.mp here
    exact ⟨now, there, key⟩
  obtain ⟨read, located, readKey⟩ : ∃ read, db.payoutRuns.get runId = some read ∧
      read.key = payoutRun.key := by
    have here := reserving.runs runId
    rw [present, Option.map_some] at here
    obtain ⟨read, there, key⟩ := Option.map_eq_some_iff.mp here
    exact ⟨read, there, key⟩
  have unsent := reserving.unsent reserves located readKey uncrossed
  constructor
  · refine ⟨?_, ?_, ?_, ?_, ?_⟩
    · rw [reserves.ledger]
      exact apart.balanced.post _
    · intro i j a b foundA foundB key
      obtain ⟨oldA, presentA, sameA⟩ := sameRun foundA
      obtain ⟨oldB, presentB, sameB⟩ := sameRun foundB
      exact apart.runs i j oldA oldB presentA presentB (by rw [sameA, sameB, key])
    · intro id item found
      rw [reserves.items] at found
      rcases Table.get_insert_row found with ⟨_, rfl⟩ | old
      · obtain ⟨now, there, key⟩ := laterRun located
        rw [readKey] at key
        simp only [PayoutRun.key, Prod.mk.injEq] at key
        exact ⟨now, there, by simp [reservedItem, key.1]⟩
      · obtain ⟨r, there, key⟩ := apart.belongs id item old
        obtain ⟨now, here, same⟩ := laterRun there
        simp only [PayoutRun.key, Prod.mk.injEq] at same
        exact ⟨now, here, by rw [key, same.1]⟩
    · intro i j a b foundA foundB run creator
      rw [reserves.items] at foundA foundB
      rcases Table.get_insert_row foundA with ⟨newA, rfl⟩ | oldA
      · rcases Table.get_insert_row foundB with ⟨newB, rfl⟩ | oldB
        · rw [newA, newB]
        · exact absurd ⟨run.symm, creator.symm⟩ (reserves.first j b oldB)
      · rcases Table.get_insert_row foundB with ⟨newB, rfl⟩ | oldB
        · exact absurd ⟨run, creator⟩ (reserves.first i a oldA)
        · exact apart.once i j a b oldA oldB run creator
    · intro i j a b foundA foundB key
      rw [reserves.items] at foundA foundB
      rcases Table.get_insert_row foundA with ⟨newA, rfl⟩ | oldA
      · rcases Table.get_insert_row foundB with ⟨newB, rfl⟩ | oldB
        · rw [newA, newB]
        · exact absurd key.symm (unsent j b oldB)
      · rcases Table.get_insert_row foundB with ⟨newB, rfl⟩ | oldB
        · exact absurd key (unsent i a oldA)
        · exact apart.apart i j a b oldA oldB key
  · intro id
    rw [runs id, reserving.runs id]
  · intro id item found
    rw [reserves.items]
    exact Table.get_insert_of_some (reserving.old id item found) _
  · intro id item found
    rw [reserves.items] at found
    rcases Table.get_insert_row found with ⟨_, rfl⟩ | old
    · exact Or.inr rfl
    · exact reserving.new id item old
  · intro creatorId untouched now
    have other : account.creatorId ≠ creatorId :=
      untouched db.payoutItems.next (reservedItem ctx runId payoutRun account cents)
        (by rw [reserves.items, Table.get_insert_next]) rfl
    rw [reserves.ledger, balanceAt_post_other apart.balanced (by exact other)]
    refine reserving.funds creatorId ?_ now
    intro id item found inRun
    exact untouched id item (by rw [reserves.items]; exact Table.get_insert_of_some found _) inRun

theorem Reserving.batch {ctx : Ctx} {runId : RunId} {payoutRun : PayoutRun} {start db : DB}
    (present : start.payoutRuns.get runId = some payoutRun)
    (reserving : Reserving runId payoutRun start db) {accounts : List PayoutAccount}
    (uncrossed : ∀ account ∈ accounts,
      Bling.eligible ctx start runId payoutRun account = true →
        crosses start payoutRun account.creatorId = false) :
    Reserving runId payoutRun start (accounts.foldl (reserveAccount ctx runId payoutRun) db) := by
  induction accounts generalizing db with
  | nil => exact reserving
  | cons account rest ih =>
      refine ih ?_ fun other member => uncrossed other (List.mem_cons_of_mem _ member)
      rcases reserveAccount_cases ctx runId payoutRun db account with unchanged | ⟨cents, reserves⟩
      · rw [unchanged]
        exact reserving
      · rcases reserveAccount_active with unchanged | active
        · rw [unchanged]
          exact reserving
        · exact reserving.reserve present reserves
            (uncrossed account List.mem_cons_self (reserving.eligible active reserves))

theorem KeysApart.reserveBatch {db : DB} (apart : KeysApart db) (ctx : Ctx) (runId : RunId)
    (cursor : Option Nat) (met : uncrossed db (ctx, .reserveBatch runId cursor) = true) :
    KeysApart (Bling.reserveBatch ctx db runId cursor) := by
  unfold Bling.reserveBatch
  split
  · exact apart
  · rename_i payoutRun present
    have start : Reserving runId payoutRun db db :=
      ⟨apart, fun _ => rfl, fun _ _ found => found, fun _ _ found => Or.inl found,
        fun _ _ _ => rfl⟩
    have reserved : Reserving runId payoutRun db
        ((((accountsAfter db cursor).take reserveBatchSize).map Prod.snd).foldl
          (reserveAccount ctx runId payoutRun) db) := by
      refine start.batch present fun account member => ?_
      obtain ⟨row, listed, rfl⟩ := List.mem_map.mp member
      simp only [uncrossed, present, Option.all_some, List.all_eq_true, Bool.not_eq_true',
        Bool.and_eq_false_imp] at met
      exact met row listed
    dsimp only
    split
    · exact reserved.apart
    · exact reserved.apart.same reserved.apart.balanced ⟨fun _ => rfl, fun _ => rfl⟩

/-- Every step keeps the keys apart, a batch if nobody it reserves for crosses. -/
theorem KeysApart.step {db : DB} (apart : KeysApart db) (input : Ctx × PayoutOp)
    (met : uncrossed db input = true) : KeysApart (payoutStep db input) := by
  obtain ⟨ctx, op⟩ := input
  have transfer (transfers : (∃ itemId, op = .claimTransfer itemId) ∨
      (∃ itemId transferId, op = .markPaid itemId transferId) ∨
      ∃ itemId failureCode, op = .retryTransfer itemId failureCode) :
      KeysApart (payoutStep db (ctx, op)) := by
    obtain ⟨same, ledger⟩ := transfer_keys ctx db transfers
    refine apart.same ?_ same
    rw [ledger]
    exact apart.balanced
  cases op with
  | post entry => exact apart.same (apart.balanced.post entry) ⟨fun _ => rfl, fun _ => rfl⟩
  | saveAccount creatorId account =>
      unfold payoutStep saveAccount
      dsimp only
      split
      · exact apart.same apart.balanced ⟨fun _ => rfl, fun _ => rfl⟩
      · split
        · exact apart
        · exact apart.same apart.balanced ⟨fun _ => rfl, fun _ => rfl⟩
  | runDue => exact apart.runDue ctx
  | reserveBatch runId cursor => exact apart.reserveBatch ctx runId cursor met
  | claimTransfer itemId => exact transfer (Or.inl ⟨itemId, rfl⟩)
  | markPaid itemId transferId => exact transfer (Or.inr (Or.inl ⟨itemId, transferId, rfl⟩))
  | retryTransfer itemId failureCode =>
      exact transfer (Or.inr (Or.inr ⟨itemId, failureCode, rfl⟩))
  | finishRuns =>
      refine apart.same ?_ (finishRuns_keys ctx db)
      unfold payoutStep
      rw [finishRuns_ledger]
      exact apart.balanced

/-- While no batch reserves for a creator who has an item in another run whose
month is written the same, no two items share a key. -/
theorem payout_keys_apart {inputs : List (Ctx × PayoutOp)}
    (met : Along payoutStep (fun db input => uncrossed db input = true) DB.empty inputs) :
    ∀ i j a b, (run payoutStep DB.empty inputs).payoutItems.get i = some a →
      (run payoutStep DB.empty inputs).payoutItems.get j = some b → i ≠ j →
      a.sentKey ≠ b.sentKey := by
  have apart : KeysApart (run payoutStep DB.empty inputs) :=
    run_keeps KeysApart (fun _ input before => before.step input) .empty met
  intro i j a b foundA foundB differ same
  exact differ (apart.apart i j a b foundA foundB same)

/-! ### A month paid in two currencies -/

/-- What a creator earned, in a currency. -/
def earned (currency : String) (attemptId : AttemptId) : LedgerEntry :=
  { creatorId := 0
    kind := .earning
    amountCents := 5000
    currency
    effectiveAt := 0
    idempotencyKey := .earning attemptId
    paymentAttemptId := some attemptId
    callId := none
    payoutItemId := none
    metadata := none }

/-- Payouts on the first, in a currency, as a moment in October or November 2026. -/
def october (currency : String) : Ctx := ⟨1791547200000, ⟨none, true, none, none, currency⟩⟩
def november (currency : String) : Ctx := ⟨1794225600000, ⟨none, true, none, none, currency⟩⟩

/-- A month is opened, reserved and transferred. -/
def paysOut (ctx : Ctx) (runId : RunId) (itemId : ItemId) : List (Ctx × PayoutOp) :=
  [.runDue, .reserveBatch runId none, .claimTransfer itemId, .markPaid itemId itemId,
    .finishRuns].map fun op => (ctx, op)

def earns (currency : String) (attemptId : AttemptId) : List (Ctx × PayoutOp) :=
  [(october currency, .post (earned currency attemptId)),
    (october currency, .saveAccount 0 World.sampleAccount)]

set_option maxRecDepth 20000 in
theorem payout_keys_apart_months :
    let db := run payoutStep DB.empty (earns "usd" 0 ++ paysOut (october "usd") 0 0 ++
      earns "usd" 1 ++ paysOut (november "usd") 1 1)
    ∀ i j a b, db.payoutItems.get i = some a → db.payoutItems.get j = some b → i ≠ j →
      a.sentKey ≠ b.sentKey :=
  payout_keys_apart (by decide)

set_option maxRecDepth 20000 in
/-- The payout currency is changed in October, after the month was paid in the
other: the second transfer goes out under the first one's key. -/
theorem payout_keys_collide :
    let db := run payoutStep DB.empty (earns "usd" 0 ++ earns "eur" 1 ++
      paysOut (october "usd") 0 0 ++ paysOut (october "eur") 1 1)
    (db.payoutItems.get 0).map (fun item => (item.sentKey, item.currency)) =
        some ((0, 2026, some 9), "usd") ∧
      (db.payoutItems.get 1).map (fun item => (item.sentKey, item.currency)) =
        some ((0, 2026, some 9), "eur") := by
  decide

end Bling
