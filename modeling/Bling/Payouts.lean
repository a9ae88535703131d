import Bling.Refunds

set_option autoImplicit false

namespace Bling

open Library

/-! The monthly payout run, from `payouts.ts`. -/

def maxTransferAttempts : Nat := 10
def transferLeaseMs : Time := 5 * 60000
def reserveBatchSize : Nat := 100

/-- The payout configuration; a minimum that is not positive cannot be built. -/
structure PayoutConfig where
  enabled : Bool
  payoutDay : Nat
  minimumCents : Int
  currency : String
  minimum_pos : 0 < minimumCents

def config (env : Env) : PayoutConfig where
  enabled := env.creatorPayoutsEnabled
  payoutDay :=
    let day := env.creatorPayoutDay.getD 1
    if 1 ≤ day ∧ day ≤ 28 then day.toNat else 1
  minimumCents :=
    let minimum := env.creatorPayoutMinimumCents.getD 2500
    if 0 < minimum then minimum else 2500
  currency := env.creatorPayoutCurrency
  minimum_pos := by
    dsimp only
    split <;> omega

/-- The UTC calendar date of a clock reading: year, month from 1, day. -/
def utcDate (now : Time) : Nat × Nat × Nat :=
  let z := now / 86400000 + 719468
  let era := z / 146097
  let doe := z % 146097
  let yoe := (doe - doe / 1460 + doe / 36524 - doe / 146096) / 365
  let doy := doe - (365 * yoe + yoe / 4 - yoe / 100)
  let mp := (5 * doy + 2) / 153
  let day := doy - (153 * mp + 2) / 5 + 1
  let month := if mp < 10 then mp + 3 else mp - 9
  let year := yoe + era * 400 + if month ≤ 2 then 1 else 0
  (year, month, day)

/-- The first of the month that is `index` months after year 0. -/
def Month.ofIndex (index : Nat) : Month := ⟨index / 12, index % 12 + 1⟩

/-- The month a run on `now` pays out: the month before this payout day. -/
def payoutPeriod (now : Time) (payoutDay : Nat) : Month × Month :=
  let (year, month, day) := utcDate now
  let index := year * 12 + (month - 1) - if day < payoutDay then 1 else 0
  (.ofIndex (index - 1), .ofIndex index)

example : payoutPeriod 1791547200000 1 = (⟨2026, 9⟩, ⟨2026, 10⟩) := by decide

/-- Hourly. Opens this period's run if needed and reserves every eligible
creator's available balance, in batches. -/
def runDue (ctx : Ctx) (db : DB) : DB :=
  let config := config ctx.env
  if ¬ config.enabled then db
  else
    let (periodStart, periodEnd) := payoutPeriod ctx.now config.payoutDay
    let existing := db.payoutRuns.first fun r =>
      r.periodStart == periodStart && r.currency == config.currency
    let (db, runId) := match existing with
      | some (runId, _) => (db, runId)
      | none =>
        ({ db with
            payoutRuns := db.payoutRuns.insert
              { periodStart, periodEnd, currency := config.currency, status := .processing,
                completedAt := none } }, db.payoutRuns.next)
    (db.runAfter ctx.now 0 (.reserveBatch runId none)).runAfter ctx.now 0 .finishRuns

def unsettled : List PayoutItemStatus := [.reserved, .sending, .retry, .failed]

/-- One turn of the loop over a page of accounts. -/
def reserveAccount (ctx : Ctx) (runId : RunId) (payoutRun : PayoutRun) (db : DB)
    (account : PayoutAccount) : DB :=
  if account.transfersStatus ≠ "active" then db
  else if (db.payoutItems.first fun i =>
      i.runId == runId && i.creatorId == account.creatorId).isSome then db
  else if unsettled.any fun status => (db.payoutItems.first fun i =>
      i.creatorId == account.creatorId && i.status == status).isSome then db
  else
    let availableCents :=
      (balanceAt db.ledger account.creatorId payoutRun.currency ctx.now).availableCents
    if availableCents < (config ctx.env).minimumCents then db
    else
      let itemId := db.payoutItems.next
      let db := { db with
        payoutItems := db.payoutItems.insert
          { runId
            creatorId := account.creatorId
            amountCents := availableCents
            currency := payoutRun.currency
            destinationAccountId := account.stripeAccountId
            idempotencyKey := ⟨account.creatorId, payoutRun.periodStart⟩
            stripeTransferId := none
            status := .reserved
            attempts := 0
            nextAttemptAt := ctx.now
            failureCode := none
            processedAt := none } }
      -- The reservation takes the amount out of the available balance at once,
      -- so nothing can be paid twice while the transfer is in flight.
      let db := { db with ledger := (postEntry db.ledger
        { creatorId := account.creatorId
          kind := .payoutReservation
          amountCents := -availableCents
          currency := payoutRun.currency
          effectiveAt := ctx.now
          idempotencyKey := .payoutReservation itemId
          paymentAttemptId := none
          callId := none
          payoutItemId := some itemId
          metadata := none }).1 }
      let db :=
        if payoutRun.status ≠ .processing then
          { db with payoutRuns := db.payoutRuns.patch runId fun r =>
            { r with status := .processing, completedAt := none } }
        else db
      db.runAfter ctx.now 0 (.transfer itemId)

/-- The accounts after the cursor, in creation order. -/
def accountsAfter (db : DB) (cursor : Option Nat) : List (Nat × PayoutAccount) :=
  db.payoutAccounts.rows.filter fun row => cursor.all fun last => decide (last < row.1)

def reserveBatch (ctx : Ctx) (db : DB) (runId : RunId) (cursor : Option Nat) : DB :=
  match db.payoutRuns.get runId with
  | none => db
  | some payoutRun =>
    let remaining := accountsAfter db cursor
    let page := remaining.take reserveBatchSize
    let db := (page.map Prod.snd).foldl (reserveAccount ctx runId payoutRun) db
    if remaining.length ≤ reserveBatchSize then db
    else db.runAfter ctx.now 0 (.reserveBatch runId (page.getLast?.map Prod.fst))

def transferDue (now : Time) (item : PayoutItem) : Bool :=
  item.status == .reserved ||
    ((item.status == .retry || item.status == .sending) && decide (item.nextAttemptAt ≤ now))

def claimTransfer (ctx : Ctx) (db : DB) (itemId : ItemId) : DB × Option PayoutItem :=
  match db.payoutItems.get itemId with
  | none => (db, none)
  | some item =>
    if maxTransferAttempts ≤ item.attempts ∨ ¬ transferDue ctx.now item then (db, none)
    else
      let payoutItems := db.payoutItems.patch itemId fun i =>
        { i with
          status := .sending
          attempts := item.attempts + 1
          nextAttemptAt := ctx.now + transferLeaseMs }
      ({ db with payoutItems }, payoutItems.get itemId)

def markPaid (ctx : Ctx) (db : DB) (itemId : ItemId) (transferId : StripeId) : DB :=
  if (db.payoutItems.get itemId).any fun i => i.status == .sending then
    { db with payoutItems := db.payoutItems.patch itemId fun i =>
      { i with
        status := .paid
        stripeTransferId := some transferId
        failureCode := none
        processedAt := some ctx.now } }.runAfter ctx.now 0 .finishRuns
  else db

/-- Backs off exponentially. After the last attempt the item fails and its
reservation stays in place. -/
def retryTransfer (ctx : Ctx) (db : DB) (itemId : ItemId) (failureCode : String) : DB :=
  match db.payoutItems.get itemId with
  | none => db
  | some item =>
    if item.status ≠ .sending then db
    else if maxTransferAttempts ≤ item.attempts then
      { db with payoutItems := db.payoutItems.patch itemId fun i =>
        { i with
          status := .failed
          failureCode := some failureCode
          processedAt := some ctx.now } }.runAfter ctx.now 0 .finishRuns
    else
      let delay := 1000 * 2 ^ min item.attempts 8
      { db with payoutItems := db.payoutItems.patch itemId fun i =>
        { i with
          status := .retry
          failureCode := some failureCode
          nextAttemptAt := ctx.now + delay } }.runAfter ctx.now delay (.transfer itemId)

/-- One turn of the loop over the processing runs. -/
def finishRun (ctx : Ctx) (db : DB) (runId : RunId) : DB :=
  let item (status : PayoutItemStatus) := (db.payoutItems.first fun i =>
    i.runId == runId && i.status == status).isSome
  if item .reserved ∨ item .sending ∨ item .retry then db
  else { db with payoutRuns := db.payoutRuns.patch runId fun r =>
    { r with
      status := if item .failed then .partialFailed else .completed
      completedAt := some ctx.now } }

/-- Marks runs with nothing left in flight as completed or partially failed. -/
def finishRuns (ctx : Ctx) (db : DB) : DB :=
  (((db.payoutRuns.query fun r => r.status == .processing).take 12).map Prod.fst).foldl
    (finishRun ctx) db

/-- Transfers whose action died, for the payments sweep. -/
def dueTransfers (db : DB) (now : Time) : List ItemId :=
  [PayoutItemStatus.reserved, .retry, .sending].flatMap fun status =>
    ((((db.payoutItems.query fun i =>
      i.status == status && decide (i.nextAttemptAt ≤ now)).insertionSort
        fun a b => a.2.nextAttemptAt < b.2.nextAttemptAt ∨
          (a.2.nextAttemptAt = b.2.nextAttemptAt ∧ a.1 ≤ b.1)).take 50).filter
      fun row => decide (row.2.attempts < maxTransferAttempts)).map Prod.fst

end Bling
