import Bling.Schema
import Mathlib.Data.List.Sort

set_option autoImplicit false

namespace Bling.Api

open Library

/-! Creator balances and monthly payouts of the Go API: `balance/store.go` over
the tables of `000012_creator_balances.up.sql`, and `balance/service.go`. -/

/-! ### Tables -/

/-- The first day of a month, as a `DATE`: months are counted from year 0. -/
abbrev Month := Int

/-- A payout item's key: `bling-payout-<creator>-<YYYY-MM>`, or any other text. -/
inductive ItemKey where
  | monthly (creatorId : UserId) (month : Month)
  | other (text : Text)
deriving DecidableEq

/-- A ledger entry's key: `payout-reservation:<item>`, or any other text. -/
inductive EntryKey where
  | reservation (itemId : ItemId)
  | other (text : Text)
deriving DecidableEq

inductive RunStatus where
  | created | processing | completed | partialFailed
deriving DecidableEq

inductive ItemStatus where
  | reserved | sending | paid | retry | failed | canceled
deriving DecidableEq

structure PayoutRun where
  periodStart : Month
  periodEnd : Month
  currency : String
  status : RunStatus
  startedAt : Option Time
  completedAt : Option Time

structure PayoutItem where
  runId : RunId
  creatorId : UserId
  amountCents : Int
  currency : String
  destinationAccountId : StripeId
  stripeTransferId : Option StripeId
  status : ItemStatus
  idempotencyKey : ItemKey
  attempts : Nat
  nextAttemptAt : Time
  failureCode : Option String
  processedAt : Option Time
  updatedAt : Time

structure PayoutAccount where
  creatorId : UserId
  stripeAccountId : StripeId
  transfersStatus : String

structure LedgerEntry where
  creatorId : UserId
  kind : LedgerKind
  amountCents : Int
  currency : String
  effectiveAt : Time
  payoutItemId : Option ItemId
  idempotencyKey : EntryKey

structure Books where
  runs : Table PayoutRun
  items : Table PayoutItem
  accounts : Table PayoutAccount
  entries : Table LedgerEntry

/-! ### Constraints -/

inductive SqlError where
  | checkViolation | uniqueViolation | outOfRange
deriving DecidableEq

/-- `currency ~ '^[a-z]{3}$'`. -/
def validCurrency (currency : String) : Bool :=
  currency.toList.length = 3 ∧ currency.toList.all fun c => 'a' ≤ c ∧ c ≤ 'z'

/-- The greatest `BIGINT`. -/
def maxBigint : Int := 2 ^ 63 - 1

def unsettledStatuses : List ItemStatus := [.reserved, .sending, .retry, .failed]

/-- `UNIQUE (run_id, creator_id, currency)`. -/
def PayoutItem.sameRun (a b : PayoutItem) : Bool :=
  a.runId = b.runId ∧ a.creatorId = b.creatorId ∧ a.currency = b.currency

/-- `creator_payout_items_one_unsettled_idx`. -/
def PayoutItem.bothUnsettled (a b : PayoutItem) : Bool :=
  a.status ∈ unsettledStatuses ∧ b.status ∈ unsettledStatuses ∧ a.creatorId = b.creatorId ∧
    a.currency = b.currency

/-- `idempotency_key TEXT NOT NULL UNIQUE`. -/
def PayoutItem.sameKey (a b : PayoutItem) : Bool := a.idempotencyKey = b.idempotencyKey

/-- `stripe_transfer_id TEXT UNIQUE`. -/
def PayoutItem.sameTransfer (a b : PayoutItem) : Bool :=
  a.stripeTransferId.isSome ∧ a.stripeTransferId = b.stripeTransferId

def PayoutItem.valid (item : PayoutItem) : Bool :=
  0 < item.amountCents ∧ validCurrency item.currency

/-- What the schema demands of the tables. An item takes a random id, which
nothing names before. -/
structure Books.Sound (db : Books) : Prop where
  account : db.accounts.rows.Pairwise fun a b => a.2.creatorId ≠ b.2.creatorId
  payoutRun : db.runs.rows.Pairwise fun a b => ¬ (a.2.periodStart = b.2.periodStart ∧
    a.2.periodEnd = b.2.periodEnd ∧ a.2.currency = b.2.currency)
  inRun : db.items.rows.Pairwise fun a b => a.2.sameRun b.2 = false
  unsettled : db.items.rows.Pairwise fun a b => a.2.bothUnsettled b.2 = false
  keyed : db.items.rows.Pairwise fun a b => a.2.sameKey b.2 = false
  transferred : db.items.rows.Pairwise fun a b => a.2.sameTransfer b.2 = false
  valid : ∀ row ∈ db.items.rows, row.2.valid = true
  entry : db.entries.rows.Pairwise fun a b => a.2.idempotencyKey ≠ b.2.idempotencyKey
  nonzero : ∀ row ∈ db.entries.rows, row.2.amountCents ≠ 0
  fresh : ∀ row ∈ db.entries.rows, ∀ itemId, row.2.idempotencyKey = .reservation itemId →
    itemId < db.items.next

/-! ### `CreateMonthlyRun` -/

/-- The run of the period, which there is or is inserted. -/
def openRun (runs : Table PayoutRun) (periodStart periodEnd : Month) (currency : String)
    (now : Time) : Table PayoutRun × RunId :=
  match runs.first fun r =>
      r.periodStart == periodStart && r.periodEnd == periodEnd && r.currency == currency with
  | some (runId, _) => (runs, runId)
  | none => (runs.insert
      { periodStart
        periodEnd
        currency
        status := .processing
        startedAt := some now
        completedAt := none }, runs.next)

def upsertRun (runs : Table PayoutRun) (periodStart periodEnd : Month) (currency : String)
    (now : Time) : Except SqlError (Table PayoutRun × RunId) :=
  if ¬ periodStart < periodEnd ∨ ¬ validCurrency currency then .error .checkViolation
  else .ok (openRun runs periodStart periodEnd currency now)

/-- The entries that count towards what a creator can be paid now. -/
def LedgerEntry.counts (creatorId : UserId) (currency : String) (now : Time) (e : LedgerEntry) :
    Bool :=
  e.creatorId == creatorId && e.currency == currency && e.effectiveAt ≤ now

def available (db : Books) (creatorId : UserId) (currency : String) (now : Time) : Int :=
  db.entries.total (LedgerEntry.counts creatorId currency now) LedgerEntry.amountCents

/-- The statement's first part, over the tables as it finds them. -/
def eligible (db : Books) (currency : String) (minimum : Int) (now : Time) :
    List (PayoutAccount × Int) :=
  (db.accounts.query fun a => a.transfersStatus == "active" &&
      (db.entries.first (LedgerEntry.counts a.creatorId currency now)).isSome &&
      minimum ≤ available db a.creatorId currency now).map fun row =>
    (row.2, available db row.2.creatorId currency now)

def newItem (runId : RunId) (periodStart : Month) (currency : String) (now : Time)
    (row : PayoutAccount × Int) : PayoutItem :=
  { runId
    creatorId := row.1.creatorId
    amountCents := row.2
    currency
    destinationAccountId := row.1.stripeAccountId
    stripeTransferId := none
    status := .reserved
    idempotencyKey := .monthly row.1.creatorId periodStart
    attempts := 0
    nextAttemptAt := now
    failureCode := none
    processedAt := none
    updatedAt := now }

/-- One row of the insertion. Only a conflict on the run, the creator and the
currency is passed over; any other fails the statement. -/
def insertItem (items : Table PayoutItem) (item : PayoutItem) :
    Except SqlError (Option (Table PayoutItem)) :=
  if maxBigint < item.amountCents then .error .outOfRange
  else if ¬ item.valid then .error .checkViolation
  else if (items.first item.sameRun).isSome then .ok none
  else if (items.first fun other => item.bothUnsettled other || item.sameKey other ||
      item.sameTransfer other).isSome then .error .uniqueViolation
  else .ok (some (items.insert item))

/-- The statement's second part, with the rows that it inserts. -/
def insertItems (item : PayoutAccount × Int → PayoutItem) :
    List (PayoutAccount × Int) → Table PayoutItem →
    Except SqlError (Table PayoutItem × List (ItemId × PayoutItem))
  | [], items => .ok (items, [])
  | row :: rest, items => do
    match ← insertItem items (item row) with
    | none => insertItems item rest items
    | some more =>
      let (all, inserted) ← insertItems item rest more
      .ok (all, (items.next, item row) :: inserted)

def reservation (now : Time) (row : ItemId × PayoutItem) : LedgerEntry :=
  { creatorId := row.2.creatorId
    kind := .payoutReservation
    amountCents := -row.2.amountCents
    currency := row.2.currency
    effectiveAt := now
    payoutItemId := some row.1
    idempotencyKey := .reservation row.1 }

def insertEntry (entries : Table LedgerEntry) (entry : LedgerEntry) :
    Except SqlError (Table LedgerEntry) :=
  if entry.amountCents = 0 then .error .checkViolation
  else if (entries.first fun other => other.idempotencyKey == entry.idempotencyKey).isSome then
    .error .uniqueViolation
  else .ok (entries.insert entry)

/-- The statement's last part. -/
def insertReservations (now : Time) :
    List (ItemId × PayoutItem) → Table LedgerEntry → Except SqlError (Table LedgerEntry)
  | [], entries => .ok entries
  | row :: rest, entries => do insertReservations now rest (← insertEntry entries (reservation now row))

/-- One transaction: an error anywhere leaves the tables as they are. -/
def createMonthlyRun (db : Books) (periodStart periodEnd : Month) (currency : String)
    (minimum : Int) (now : Time) : Except SqlError Books := do
  let (runs, runId) ← upsertRun db.runs periodStart periodEnd currency now
  let (items, inserted) ← insertItems (newItem runId periodStart currency now)
    (eligible db currency minimum now) db.items
  let entries ← insertReservations now inserted db.entries
  .ok { db with runs, items, entries }

/-! ### Transfers -/

def PayoutItem.due (now : Time) (item : PayoutItem) : Bool :=
  ((item.status = .reserved ∨ item.status = .retry) ∧ item.nextAttemptAt ≤ now ∨
    item.status = .sending ∧ item.updatedAt + 5 * 60000 < now) ∧ item.attempts < 10

/-- The first of the due items, in the order of `ORDER BY next_attempt_at,id`. -/
def dueItems (items : Table PayoutItem) (now : Time) (limit : Nat) : List (ItemId × PayoutItem) :=
  ((items.query (PayoutItem.due now)).insertionSort fun a b =>
    a.2.nextAttemptAt < b.2.nextAttemptAt ∨
      a.2.nextAttemptAt = b.2.nextAttemptAt ∧ a.1 ≤ b.1).take limit

/-- The claimed items, each with the attempt that is now made of it. -/
def claimTransfers (db : Books) (now : Time) (limit : Nat) : Books × List (ItemId × PayoutItem) :=
  let claimed := dueItems db.items now limit
  let items := claimed.foldl (fun items row => items.patch row.1 fun item =>
    { item with status := .sending, attempts := row.2.attempts + 1, updatedAt := now }) db.items
  ({ db with items }, claimed.map fun row => (row.1, { row.2 with attempts := row.2.attempts + 1 }))

/-- An update that `stripe_transfer_id` refuses is an error nobody looks at. -/
def markPaid (db : Books) (itemId : ItemId) (transferId : StripeId) (now : Time) : Books :=
  if (db.items.rows.any fun row => row.1 != itemId && row.2.stripeTransferId == some transferId) then
    db
  else { db with items := db.items.patch itemId fun item =>
    if item.status = .sending then
      { item with
        status := .paid
        stripeTransferId := some transferId
        failureCode := none
        processedAt := some now
        updatedAt := now }
    else item }

def markRetry (db : Books) (request : ItemId × PayoutItem) (code : String) (now : Time) : Books :=
  let failed := 10 ≤ request.2.attempts
  { db with items := db.items.patch request.1 fun item =>
    { item with
      status := if failed then .failed else .retry
      failureCode := some code
      nextAttemptAt := now + 1000 * 2 ^ min request.2.attempts 8
      processedAt := if failed then some now else none
      updatedAt := now } }

def finishRuns (db : Books) (now : Time) : Books :=
  let has (runId : RunId) (statuses : List ItemStatus) : Bool :=
    db.items.rows.any fun row => row.2.runId == runId && statuses.contains row.2.status
  { db with runs := db.runs.rows.foldl (fun runs row =>
      if row.2.status = .processing ∧ ¬ has row.1 [.reserved, .sending, .retry] then
        runs.patch row.1 fun r =>
          { r with
            status := if has row.1 [.failed] then .partialFailed else .completed
            completedAt := some now }
      else runs) db.runs }

/-! ### `Service` -/

structure Service where
  currency : String
  minimum : Int
  payoutDay : Nat
  /-- The configuration takes positive minimums only. -/
  positive : 0 < minimum

/-- A reading of the clock, with the month and the day of it in UTC. -/
structure Clock where
  now : Time
  month : Month
  day : Nat

/-- The month that is paid: the one before that of the last payout day. -/
def Service.period (s : Service) (clock : Clock) : Month × Month :=
  let scheduled := if clock.day < s.payoutDay then clock.month - 1 else clock.month
  (scheduled - 1, scheduled)

/-- What the service calls. -/
inductive RepositoryCall where
  | createMonthlyRun | claimTransfers | finishRuns
deriving DecidableEq

/-- The gateway's answer to one request is recorded. -/
def transfer (gateway : ItemId × PayoutItem → Option StripeId) (now : Time) (db : Books)
    (request : ItemId × PayoutItem) : Books :=
  match gateway request with
  | none => markRetry db request "provider_error" now
  | some transferId => markPaid db request.1 transferId now

/-- The service's loop, for at most so many rounds. -/
def transferAll (gateway : ItemId × PayoutItem → Option StripeId) (now : Time) :
    Nat → Books → Option (Books × List RepositoryCall)
  | 0, _ => none
  | rounds + 1, db =>
    let (claimed, requests) := claimTransfers db now 25
    let db := requests.foldl (transfer gateway now) claimed
    if requests.length < 25 then some (db, [.claimTransfers])
    else (transferAll gateway now rounds db).map fun result =>
      (result.1, .claimTransfers :: result.2)

/-- `runDue`, with the calls it makes. -/
def Service.runDue (s : Service) (gateway : ItemId × PayoutItem → Option StripeId) (db : Books)
    (clock : Clock) : Option (Books × List RepositoryCall) :=
  let (periodStart, periodEnd) := s.period clock
  match createMonthlyRun db periodStart periodEnd s.currency s.minimum clock.now with
  | .error _ => some (db, [.createMonthlyRun])
  | .ok db =>
    (transferAll gateway clock.now (db.items.rows.length + 1) db).map fun result =>
      (finishRuns result.1 clock.now, .createMonthlyRun :: result.2 ++ [.finishRuns])

end Bling.Api
