import Mathlib.Logic.Function.Basic
import Bling.Library.Machine
import Bling.Api.MonthlyRun

set_option autoImplicit false

namespace Bling.Api

open Library

/-! Payout items when several replicas of the Go API send them: each runs
`runDue` of `balance/service.go`, at its own pace, on the same tables. -/

/-! ### Replicas -/

/-- What `MarkRetry` makes of an item. -/
def retriedItem (request : ItemId × PayoutItem) (code : String) (now : Time) (item : PayoutItem) :
    PayoutItem :=
  let failed := 10 ≤ request.2.attempts
  { item with
    status := if failed then .failed else .retry
    failureCode := some code
    nextAttemptAt := now + 1000 * 2 ^ min request.2.attempts 8
    processedAt := if failed then some now else none
    updatedAt := now }

/-- The index of unsettled items refuses the update: its creator has another. -/
def refusesRetry (db : Books) (request : ItemId × PayoutItem) (code : String) (now : Time) : Bool :=
  (db.items.get request.1).any fun item =>
    db.items.rows.any fun row =>
      row.1 != request.1 && (retriedItem request code now item).bothUnsettled row.2

/-- `MarkRetry`, whose error nobody looks at. -/
def retryTransfer (db : Books) (request : ItemId × PayoutItem) (code : String) (now : Time) :
    Books :=
  if refusesRetry db request code now then db else markRetry db request code now

structure TransferState where
  books : Books
  /-- What each replica has claimed and not sent yet, in order. -/
  workers : Nat → List (ItemId × PayoutItem)

inductive TransferInput where
  /-- Accounts and ledger entries are written by the rest of the API. -/
  | accounts (accounts : Table PayoutAccount)
  | entries (entries : Table LedgerEntry)
  | createMonthlyRun (periodStart periodEnd : Month) (currency : String) (minimum : Int)
      (now : Time)
  | claimTransfers (worker : Nat) (now : Time) (limit : Nat)
  /-- The gateway has answered the worker's next request. -/
  | answer (worker : Nat) (transferId : Option StripeId) (now : Time)
  | finishRuns (now : Time)
  | crash (worker : Nat)

namespace TransferState

def empty : TransferState := ⟨⟨.empty, .empty, .empty, .empty⟩, fun _ => []⟩

def step (s : TransferState) : TransferInput → TransferState
  | .accounts accounts => { s with books := { s.books with accounts } }
  | .entries entries => { s with books := { s.books with entries } }
  | .createMonthlyRun periodStart periodEnd currency minimum now =>
    match createMonthlyRun s.books periodStart periodEnd currency minimum now with
    | .ok books => { s with books }
    | .error _ => s
  | .claimTransfers worker now limit =>
    match s.workers worker with
    | [] =>
      let (books, requests) := claimTransfers s.books now limit
      ⟨books, Function.update s.workers worker requests⟩
    | _ :: _ => s
  | .answer worker transferId now =>
    match s.workers worker with
    | [] => s
    | request :: rest =>
      ⟨match transferId with
        | none => retryTransfer s.books request "provider_error" now
        | some transferId => markPaid s.books request.1 transferId now,
        Function.update s.workers worker rest⟩
  | .finishRuns now => { s with books := finishRuns s.books now }
  | .crash worker => { s with workers := Function.update s.workers worker [] }

end TransferState

/-! ### What becomes of items -/

def openItemStatuses : List ItemStatus := [.reserved, .sending, .retry]

def closedRunStatuses : List RunStatus := [.completed, .partialFailed]

/-- The run of the period that `CreateMonthlyRun` adds to. -/
def runOf (db : Books) (periodStart periodEnd : Month) (currency : String) : RunId :=
  (openRun db.runs periodStart periodEnd currency 0).2

/-- What a step can make of an item. -/
inductive ItemGoes (s : TransferState) (input : TransferInput) (id : ItemId) (a b : PayoutItem) :
    Prop
  | same (status : b.status = a.status)
  | claimed (isOpen : a.status ∈ openItemStatuses) (sending : b.status = .sending)
  | paid (isOpen : a.status ∈ openItemStatuses) (paid : b.status = .paid)
  | retried (worker : Nat) (now : Time) (request : ItemId × PayoutItem)
      (rest : List (ItemId × PayoutItem)) (asked : input = .answer worker none now)
      (held : s.workers worker = request :: rest) (named : request.1 = id)
      (accepted : refusesRetry s.books request "provider_error" now = false)
      (status : b.status = if 10 ≤ request.2.attempts then .failed else .retry)

/-- An item the step inserts. -/
def ItemAdded (s : TransferState) (input : TransferInput) (b : PayoutItem) : Prop :=
  b.status = .reserved ∧ ∃ periodStart periodEnd currency minimum now,
    input = .createMonthlyRun periodStart periodEnd currency minimum now ∧
    (createMonthlyRun s.books periodStart periodEnd currency minimum now).isOk = true ∧
    b.runId = runOf s.books periodStart periodEnd currency ∧
    ∃ row ∈ eligible s.books currency minimum now,
      inRun s.books.items b.runId row.1.creatorId currency = false

structure ItemsGo (s : TransferState) (input : TransferInput) (t : TransferState) : Prop where
  kept : ∀ id a, s.books.items.get id = some a → ∃ b, t.books.items.get id = some b ∧
    b.runId = a.runId ∧ ItemGoes s input id a b
  origin : ∀ id b, t.books.items.get id = some b →
    (∃ a, s.books.items.get id = some a ∧ b.runId = a.runId ∧ ItemGoes s input id a b) ∨
      ItemAdded s input b

section Steps

variable {s t : TransferState} {input : TransferInput}

theorem ItemsGo.of_eq (same : t.books.items = s.books.items) : ItemsGo s input t := by
  constructor
  · intro id a found
    exact ⟨a, same ▸ found, rfl, .same rfl⟩
  · intro id b found
    exact Or.inl ⟨b, same ▸ found, rfl, .same rfl⟩

theorem ItemsGo.patch {key : ItemId} {f : PayoutItem → PayoutItem}
    (patched : t.books.items = s.books.items.patch key f)
    (moves : ∀ item, s.books.items.get key = some item → (f item).runId = item.runId ∧
      ItemGoes s input key item (f item)) : ItemsGo s input t := by
  have follow : Table.Follow (fun id a b => b.runId = a.runId ∧ ItemGoes s input id a b)
      (fun _ => False) s.books.items t.books.items := by
    rw [patched]
    exact .patch (fun id a => ⟨rfl, .same rfl⟩) moves
  constructor
  · exact follow.kept
  · intro id b found
    rcases follow.origin id b found with old | ⟨_, none⟩
    · exact Or.inl old
    · exact none.elim

theorem insertItem_some {items more : Table PayoutItem} {item : PayoutItem}
    (inserted : insertItem items item = .ok (some more)) :
    more = items.insert item ∧ items.first item.sameRun = none := by
  unfold insertItem at inserted
  split at inserted
  · cases inserted
  · split at inserted
    · cases inserted
    · split at inserted
      · cases inserted
      · rename_i apart
        split at inserted
        · cases inserted
        · exact ⟨(Option.some.inj (Except.ok.inj inserted)).symm,
            Option.not_isSome_iff_eq_none.mp apart⟩

/-- The insertion keeps the items there are, and adds those of creators who had none in the run. -/
theorem insertItems_adds {item : PayoutAccount × Int → PayoutItem}
    {rows : List (PayoutAccount × Int)} {items after : Table PayoutItem}
    {inserted : List (ItemId × PayoutItem)}
    (ok : insertItems item rows items = .ok (after, inserted)) :
    (∀ id a, items.get id = some a → after.get id = some a) ∧
      ∀ id b, after.get id = some b → items.get id = some b ∨
        ∃ row ∈ rows, b = item row ∧ items.first (item row).sameRun = none := by
  induction rows generalizing items inserted with
  | nil =>
      obtain ⟨rfl, _⟩ := Prod.mk.inj (Except.ok.inj ok)
      exact ⟨fun _ _ => id, fun _ _ => Or.inl⟩
  | cons row rest ih =>
      unfold insertItems at ok
      obtain ⟨result, first, ok⟩ := bind_ok ok
      cases result with
      | none =>
          obtain ⟨keeps, adds⟩ := ih ok
          refine ⟨keeps, fun id b found => (adds id b found).imp_right ?_⟩
          rintro ⟨other, member, same⟩
          exact ⟨other, List.mem_cons_of_mem _ member, same⟩
      | some more =>
          obtain ⟨⟨all, others⟩, later, ok⟩ := bind_ok ok
          obtain ⟨rfl, _⟩ := Prod.mk.inj (Except.ok.inj ok)
          obtain ⟨rfl, apart⟩ := insertItem_some first
          obtain ⟨keeps, adds⟩ := ih later
          constructor
          · intro id a found
            exact keeps id a (Table.get_insert_of_some found _)
          · intro id b found
            rcases adds id b found with old | ⟨other, member, same, none⟩
            · rcases Table.get_insert_row old with ⟨_, rfl⟩ | older
              · exact Or.inr ⟨row, List.mem_cons_self, rfl, apart⟩
              · exact Or.inl older
            · refine Or.inr ⟨other, List.mem_cons_of_mem _ member, same, ?_⟩
              apply (Table.first_none_iff _ _).mpr
              intro key c found
              exact (Table.first_none_iff _ _).mp none key c (Table.get_insert_of_some found _)

/-! ### Each step -/

theorem createMonthlyRun_items (s : TransferState) {periodStart periodEnd : Month}
    {currency : String} {minimum : Int} {now : Time} {books : Books}
    (ok : createMonthlyRun s.books periodStart periodEnd currency minimum now = .ok books) :
    books.runs = (openRun s.books.runs periodStart periodEnd currency now).1 ∧
      ItemsGo s (.createMonthlyRun periodStart periodEnd currency minimum now)
        { s with books } := by
  have made :
      (createMonthlyRun s.books periodStart periodEnd currency minimum now).isOk = true := by
    rw [ok]
    rfl
  unfold createMonthlyRun at ok
  obtain ⟨⟨runs, runId⟩, opened, ok⟩ := bind_ok ok
  obtain ⟨⟨items, inserted⟩, added, ok⟩ := bind_ok ok
  obtain ⟨entries, _, ok⟩ := bind_ok ok
  obtain rfl := Except.ok.inj ok
  have period : (runs, runId) = openRun s.books.runs periodStart periodEnd currency now := by
    unfold upsertRun at opened
    split at opened
    · cases opened
    · exact (Except.ok.inj opened).symm
  have named : runId = runOf s.books periodStart periodEnd currency := by
    have same := congrArg Prod.snd period
    unfold openRun at same
    unfold runOf openRun
    dsimp only at same
    rw [same]
    split <;> rfl
  refine ⟨congrArg Prod.fst period, ?_⟩
  obtain ⟨keeps, adds⟩ := insertItems_adds added
  constructor
  · intro id a found
    exact ⟨a, keeps id a found, rfl, .same rfl⟩
  · intro id b found
    rcases adds id b found with old | ⟨row, member, rfl, apart⟩
    · exact Or.inl ⟨b, old, rfl, .same rfl⟩
    · refine Or.inr ⟨rfl, periodStart, periodEnd, currency, minimum, now, rfl, made, named, row,
        member, ?_⟩
      have none := newItem_inRun runId periodStart currency now s.books.items row
      rw [apart] at none
      exact none.symm

/-- The items after a claim: those claimed are sending. -/
theorem claimed_get (now : Time) (claimed : List (ItemId × PayoutItem)) {items : Table PayoutItem}
    {id : ItemId} {item : PayoutItem} (found : items.get id = some item) :
    ∃ b, (claimed.foldl (fun items row => items.patch row.1 fun item =>
        { item with status := .sending, attempts := row.2.attempts + 1, updatedAt := now })
        items).get id = some b ∧ b.runId = item.runId ∧
      (b.status = item.status ∨ id ∈ claimed.map Prod.fst ∧ b.status = .sending) := by
  induction claimed generalizing items item with
  | nil => exact ⟨item, found, rfl, Or.inl rfl⟩
  | cons row rest ih =>
      rw [List.foldl_cons]
      by_cases here : id = row.1
      · subst here
        obtain ⟨b, there, sameRun, status⟩ := ih (Table.get_patch_self found _)
        refine ⟨b, there, sameRun, Or.inr ⟨List.mem_cons_self, ?_⟩⟩
        rcases status with same | ⟨_, sending⟩
        · exact same
        · exact sending
      · obtain ⟨b, there, sameRun, status⟩ := ih ((Table.get_patch_of_ne here _ _).trans found)
        exact ⟨b, there, sameRun, status.imp_right fun later =>
          ⟨List.mem_cons_of_mem _ later.1, later.2⟩⟩

theorem claimed_origin (now : Time) (claimed : List (ItemId × PayoutItem))
    {items : Table PayoutItem} {id : ItemId} {b : PayoutItem}
    (found : (claimed.foldl (fun items row => items.patch row.1 fun item =>
      { item with status := .sending, attempts := row.2.attempts + 1, updatedAt := now })
      items).get id = some b) : ∃ item, items.get id = some item := by
  induction claimed generalizing items with
  | nil => exact ⟨b, found⟩
  | cons row rest ih =>
      obtain ⟨patched, there⟩ := ih found
      rw [Table.get_patch] at there
      split at there
      · obtain ⟨item, present, _⟩ := Option.map_eq_some_iff.mp there
        exact ⟨item, present⟩
      · exact ⟨patched, there⟩

theorem claimTransfers_items (s : TransferState) (worker : Nat) (now : Time) (limit : Nat)
    {workers : Nat → List (ItemId × PayoutItem)} :
    ItemsGo s (.claimTransfers worker now limit)
      ⟨(claimTransfers s.books now limit).1, workers⟩ := by
  have goes (id : ItemId) (item : PayoutItem) (present : s.books.items.get id = some item) :
      ∃ b, (claimTransfers s.books now limit).1.items.get id = some b ∧ b.runId = item.runId ∧
        ItemGoes s (.claimTransfers worker now limit) id item b := by
    obtain ⟨b, there, sameRun, status⟩ :=
      claimed_get now (dueItems s.books.items now limit) present
    refine ⟨b, there, sameRun, ?_⟩
    rcases status with same | ⟨member, sending⟩
    · exact .same same
    · obtain ⟨row, taken, named⟩ := List.mem_map.mp member
      have kept := (List.mem_insertionSort _).mp (List.mem_of_mem_take taken)
      obtain ⟨located, due⟩ := (Table.mem_query _ _ row.1 row.2).mp kept
      rw [named, present] at located
      obtain rfl := Option.some.inj located
      refine .claimed ?_ sending
      simp only [PayoutItem.due, Bool.decide_and, Bool.and_eq_true, decide_eq_true_eq] at due
      rcases due.1 with ⟨waits | waits, _⟩ | ⟨waits, _⟩ <;> simp [openItemStatuses, waits]
  constructor
  · exact goes
  · intro id b found
    obtain ⟨item, present⟩ := claimed_origin now _ found
    obtain ⟨c, there, sameRun, becomes⟩ := goes id item present
    obtain rfl := Option.some.inj (found.symm.trans there)
    exact Or.inl ⟨item, present, sameRun, becomes⟩

theorem markPaid_items (s : TransferState) {worker : Nat} (transferId : StripeId) (now : Time)
    (itemId : ItemId) {workers : Nat → List (ItemId × PayoutItem)} :
    ItemsGo s (.answer worker (some transferId) now)
      ⟨markPaid s.books itemId transferId now, workers⟩ := by
  unfold markPaid
  split
  · exact .of_eq rfl
  · apply ItemsGo.patch
    · dsimp only
    intro item found
    split
    · rename_i sending
      exact ⟨rfl, .paid (by simp [openItemStatuses, sending]) rfl⟩
    · exact ⟨rfl, .same rfl⟩

theorem retryTransfer_items (s : TransferState) {worker : Nat} (now : Time)
    {request : ItemId × PayoutItem} {rest : List (ItemId × PayoutItem)}
    (held : s.workers worker = request :: rest)
    {workers : Nat → List (ItemId × PayoutItem)} :
    ItemsGo s (.answer worker none now)
      ⟨retryTransfer s.books request "provider_error" now, workers⟩ := by
  unfold retryTransfer
  split
  · exact .of_eq rfl
  · rename_i accepted
    refine .patch (f := retriedItem request "provider_error" now) (by rfl) ?_
    intro item found
    exact ⟨rfl, .retried worker now request rest rfl held rfl (by simpa using accepted) (by
      by_cases failed : 10 ≤ request.2.attempts <;> simp [retriedItem, failed])⟩

theorem step_items (s : TransferState) (input : TransferInput) : ItemsGo s input (s.step input) := by
  cases input with
  | accounts accounts => exact .of_eq rfl
  | entries entries => exact .of_eq rfl
  | createMonthlyRun periodStart periodEnd currency minimum now =>
      simp only [TransferState.step]
      split
      · rename_i books ok
        exact (createMonthlyRun_items s ok).2
      · exact .of_eq rfl
  | claimTransfers worker now limit =>
      simp only [TransferState.step]
      split
      · exact claimTransfers_items s worker now limit
      · exact .of_eq rfl
  | answer worker transferId now =>
      simp only [TransferState.step]
      split
      · exact .of_eq rfl
      · rename_i request rest held
        cases transferId with
        | none => exact retryTransfer_items s now held
        | some transferId => exact markPaid_items s transferId now request.1
  | finishRuns now => exact .of_eq rfl
  | crash worker => exact .of_eq rfl

/-! ### Runs -/

/-- What `FinishRuns` asks of a run's items. -/
def hasItem (db : Books) (runId : RunId) (statuses : List ItemStatus) : Bool :=
  db.items.rows.any fun row => row.2.runId == runId && statuses.contains row.2.status

theorem hasItem_iff {db : Books} {runId : RunId} {statuses : List ItemStatus} :
    hasItem db runId statuses = true ↔ ∃ id item, db.items.get id = some item ∧
      item.runId = runId ∧ item.status ∈ statuses := by
  unfold hasItem
  simp only [List.any_eq_true, Bool.and_eq_true, beq_iff_eq, List.contains_iff_mem, Prod.exists,
    Table.mem_rows_iff]

/-- A run that a step has closed. -/
structure Closes (db : Books) (runId : RunId) (r : PayoutRun) : Prop where
  settled : hasItem db runId openItemStatuses = false
  completed : r.status = .completed → hasItem db runId [.failed] = false

theorem finishRuns_runs (db : Books) (now : Time) {runId : RunId} {r : PayoutRun}
    (found : (finishRuns db now).runs.get runId = some r) :
    db.runs.get runId = some r ∨ Closes db runId r := by
  have each (rows : List (RunId × PayoutRun)) (runs : Table PayoutRun)
      (found : (rows.foldl (fun runs row =>
        if row.2.status = .processing ∧ ¬ hasItem db row.1 [.reserved, .sending, .retry] then
          runs.patch row.1 fun r =>
            { r with
              status := if hasItem db row.1 [.failed] then .partialFailed else .completed
              completedAt := some now }
        else runs) runs).get runId = some r) :
      runs.get runId = some r ∨ Closes db runId r := by
    induction rows generalizing runs with
    | nil => exact Or.inl found
    | cons row rest ih =>
        rw [List.foldl_cons] at found
        rcases ih _ found with before | closes
        · split at before
          · rename_i closing
            rw [Table.get_patch] at before
            split at before
            · rename_i here
              subst here
              obtain ⟨old, _, rfl⟩ := Option.map_eq_some_iff.mp before
              refine Or.inr ⟨by simpa [openItemStatuses] using closing.2, ?_⟩
              intro completed
              by_contra failed
              simp [failed] at completed
            · exact Or.inl before
          · exact Or.inl before
        · exact Or.inr closes
  exact each db.runs.rows db.runs found

/-- A run after a step is as before, new and processing, or closed by it. -/
theorem step_runs (s : TransferState) (input : TransferInput) {runId : RunId} {r : PayoutRun}
    (found : (s.step input).books.runs.get runId = some r) :
    s.books.runs.get runId = some r ∨ r.status = .processing ∨
      (∃ now, input = .finishRuns now) ∧ Closes s.books runId r := by
  cases input with
  | accounts accounts => exact Or.inl found
  | entries entries => exact Or.inl found
  | createMonthlyRun periodStart periodEnd currency minimum now =>
      simp only [TransferState.step] at found
      split at found
      · rename_i books ok
        change books.runs.get runId = some r at found
        rw [(createMonthlyRun_items s ok).1] at found
        unfold openRun at found
        split at found
        · exact Or.inl found
        · rcases Table.get_insert_row found with ⟨_, rfl⟩ | old
          · exact Or.inr (Or.inl rfl)
          · exact Or.inl old
      · exact Or.inl found
  | claimTransfers worker now limit =>
      simp only [TransferState.step] at found
      split at found <;> exact Or.inl found
  | answer worker transferId now =>
      simp only [TransferState.step] at found
      split at found
      · exact Or.inl found
      · cases transferId with
        | none =>
            simp only [retryTransfer, markRetry] at found
            split at found <;> exact Or.inl found
        | some transferId =>
            simp only [markPaid] at found
            split at found <;> exact Or.inl found
  | finishRuns now =>
      exact (finishRuns_runs s.books now found).imp_right fun closes => Or.inr ⟨⟨now, rfl⟩, closes⟩
  | crash worker => exact Or.inl found

end Steps

/-! ### What stays settled -/

def isClosed (db : Books) (runId : RunId) : Bool :=
  (db.runs.get runId).any fun r => closedRunStatuses.contains r.status

/-- The input is too late: a failure is recorded of an item that is paid or
whose run is closed, or a closed run is given another item. -/
def TransferState.late (s : TransferState) : TransferInput → Bool
  | .answer worker none now =>
    match s.workers worker with
    | [] => false
    | request :: _ =>
      !refusesRetry s.books request "provider_error" now &&
        (s.books.items.get request.1).any fun item =>
          item.status == .paid || isClosed s.books item.runId &&
            !(item.status == .failed && decide (10 ≤ request.2.attempts))
  | .createMonthlyRun periodStart periodEnd currency minimum now =>
    let runId := runOf s.books periodStart periodEnd currency
    isClosed s.books runId &&
      (createMonthlyRun s.books periodStart periodEnd currency minimum now).isOk &&
      (eligible s.books currency minimum now).any fun row =>
        !inRun s.books.items runId row.1.creatorId currency
  | _ => false

/-- The runs that are closed have settled their items, all of them paid or
canceled if the run is completed. -/
structure RunsSettled (db : Books) : Prop where
  settled : ∀ runId r, db.runs.get runId = some r → r.status ∈ closedRunStatuses →
    ∀ id item, db.items.get id = some item → item.runId = runId → item.status ∉ openItemStatuses
  completed : ∀ runId r, db.runs.get runId = some r → r.status = .completed →
    ∀ id item, db.items.get id = some item → item.runId = runId →
      item.status = .paid ∨ item.status = .canceled

section Timely

variable {s : TransferState} {input : TransferInput}

/-- A failure that is recorded in time changes neither what is paid nor a closed run. -/
theorem ItemGoes.timely (timely : s.late input = false) {id : ItemId} {a b : PayoutItem}
    (found : s.books.items.get id = some a) (goes : ItemGoes s input id a b) :
    b.status = a.status ∨ a.status ∈ openItemStatuses ∨
      a.status ≠ .paid ∧ isClosed s.books a.runId = false := by
  cases goes with
  | same status => exact Or.inl status
  | claimed isOpen sending => exact Or.inr (Or.inl isOpen)
  | paid isOpen paid => exact Or.inr (Or.inl isOpen)
  | retried worker now request rest asked held named accepted status =>
      subst asked named
      simp only [TransferState.late, held, accepted, found, Bool.not_false, Bool.true_and,
        Option.any_some, Bool.or_eq_false_iff, beq_eq_false_iff_ne] at timely
      obtain ⟨unpaid, closing⟩ := timely
      cases closed : isClosed s.books a.runId with
      | false => exact Or.inr (Or.inr ⟨unpaid, rfl⟩)
      | true =>
          simp only [closed, Bool.true_and, Bool.not_eq_false', Bool.and_eq_true, beq_iff_eq,
            decide_eq_true_eq] at closing
          left
          rw [status, if_pos closing.2, closing.1]

theorem isClosed_of_get {db : Books} {runId : RunId} {r : PayoutRun}
    (found : db.runs.get runId = some r) (closed : r.status ∈ closedRunStatuses) :
    isClosed db runId = true := by
  unfold isClosed
  simp [found, closed]

/-- In a closed run, every item keeps its status and none is added. -/
theorem RunsSettled.item_kept (sound : RunsSettled s.books) (timely : s.late input = false)
    {runId : RunId} {r : PayoutRun} (found : s.books.runs.get runId = some r)
    (closed : r.status ∈ closedRunStatuses) {id : ItemId} {b : PayoutItem}
    (present : (s.step input).books.items.get id = some b) (inRun : b.runId = runId) :
    ∃ a, s.books.items.get id = some a ∧ a.runId = runId ∧ b.status = a.status := by
  have isClosed := isClosed_of_get found closed
  rcases (step_items s input).origin id b present with ⟨a, old, sameRun, goes⟩ | added
  · have here : a.runId = runId := sameRun.symm.trans inRun
    refine ⟨a, old, here, ?_⟩
    rcases goes.timely timely old with same | isOpen | ⟨_, unclosed⟩
    · exact same
    · exact absurd isOpen (sound.settled runId r found closed id a old here)
    · rw [here, isClosed] at unclosed
      cases unclosed
  · obtain ⟨_, periodStart, periodEnd, currency, minimum, now, rfl, made, ofPeriod, row, member,
      apart⟩ := added
    rw [inRun] at ofPeriod apart
    simp only [TransferState.late, ← ofPeriod, isClosed, made, Bool.true_and,
      List.any_eq_false] at timely
    have taken := timely row member
    rw [apart] at taken
    exact absurd rfl taken

theorem RunsSettled.step (sound : RunsSettled s.books) (timely : s.late input = false) :
    RunsSettled (s.step input).books := by
  have completed_closed : RunStatus.completed ∈ closedRunStatuses := by simp [closedRunStatuses]
  constructor
  · intro runId r found closed id b present inRun
    rcases step_runs s input found with old | processing | ⟨⟨now, rfl⟩, closes⟩
    · obtain ⟨a, before, here, same⟩ := sound.item_kept timely old closed present inRun
      rw [same]
      exact sound.settled runId r old closed id a before here
    · rw [processing] at closed
      simp [closedRunStatuses] at closed
    · intro isOpen
      have before : s.books.items.get id = some b := present
      have has := hasItem_iff.mpr ⟨id, b, before, inRun, isOpen⟩
      rw [closes.settled] at has
      cases has
  · intro runId r found completed id b present inRun
    rcases step_runs s input found with old | processing | ⟨⟨now, rfl⟩, closes⟩
    · obtain ⟨a, before, here, same⟩ :=
        sound.item_kept timely old (completed ▸ completed_closed) present inRun
      rw [same]
      exact sound.completed runId r old completed id a before here
    · rw [processing] at completed
      cases completed
    · have none (statuses : List ItemStatus) (absent : hasItem s.books runId statuses = false) :
          b.status ∉ statuses := by
        intro member
        have before : s.books.items.get id = some b := present
        have has := hasItem_iff.mpr ⟨id, b, before, inRun, member⟩
        rw [absent] at has
        cases has
      have settled := none openItemStatuses closes.settled
      have unfailed := none [.failed] (closes.completed completed)
      cases status : b.status <;> simp_all [openItemStatuses]

theorem paid_step (timely : s.late input = false) {id : ItemId} {a : PayoutItem}
    (found : s.books.items.get id = some a) (paid : a.status = .paid) :
    ∃ b, (s.step input).books.items.get id = some b ∧ b.status = .paid := by
  obtain ⟨b, there, _, goes⟩ := (step_items s input).kept id a found
  refine ⟨b, there, ?_⟩
  rcases goes.timely timely found with same | isOpen | ⟨unpaid, _⟩
  · exact same.trans paid
  · simp [openItemStatuses, paid] at isOpen
  · exact absurd paid unpaid

end Timely

theorem RunsSettled.empty : RunsSettled TransferState.empty.books := by
  constructor
  · intro runId r found
    cases found
  · intro runId r found
    cases found

/-- An item that is paid stays paid. -/
def PaidStays (inputs : List TransferInput) : Prop :=
  ∀ front middle back id item, inputs = front ++ middle ++ back →
    (run TransferState.step .empty front).books.items.get id = some item → item.status = .paid →
      ∃ later, (run TransferState.step .empty (front ++ middle)).books.items.get id = some later ∧
        later.status = .paid

/-- As long as nothing comes late, what is paid stays paid, and runs are closed
for good. -/
theorem paid_out_stays (inputs : List TransferInput)
    (timely : Along TransferState.step (fun s input => s.late input = false) .empty inputs) :
    PaidStays inputs ∧ ∀ front back, inputs = front ++ back →
      RunsSettled (run TransferState.step .empty front).books := by
  constructor
  · intro front middle back id item split found paid
    rw [split, along_append, along_append] at timely
    rw [run_append]
    refine run_keeps (fun s : TransferState => ∃ later, s.books.items.get id = some later ∧
      later.status = .paid) ?_ ⟨item, found, paid⟩ timely.1.2
    rintro s input ⟨later, there, isPaid⟩ inTime
    exact paid_step inTime there isPaid
  · intro front back split
    rw [split, along_append] at timely
    exact run_keeps (fun s => RunsSettled s.books) (fun _ _ sound inTime => sound.step inTime)
      .empty timely.1

/-! ### Two replicas -/

/-- One creator has earned $20. -/
def earned : List TransferInput :=
  [.accounts (Table.empty.insert ⟨7, 70, "active"⟩),
    .entries (Table.empty.insert ⟨7, .earning, 2000, "usd", 0, none, .other []⟩)]

/-- The month's run pays the creator. -/
def paidOut : List TransferInput :=
  earned ++ [.createMonthlyRun 1 2 "usd" 1000 5, .claimTransfers 0 5 25, .answer 0 (some 9) 5,
    .finishRuns 5]

/-- Another creator is paid with the next month's run, and the month's run can't add them. -/
def refusedLate : List TransferInput :=
  paidOut ++
    [.accounts ((Table.empty.insert ⟨7, 70, "active"⟩).insert ⟨8, 80, "active"⟩),
      .entries (Table.empty.insert ⟨8, .earning, 3000, "usd", 0, none, .other [1]⟩),
      .createMonthlyRun 2 3 "usd" 1000 8,
      .entries (Table.empty.insert ⟨8, .earning, 5000, "usd", 0, none, .other [2]⟩),
      .createMonthlyRun 1 2 "usd" 1000 9]

set_option maxRecDepth 20000 in
theorem paid_out_stays_once : PaidStays refusedLate ∧ ∀ front back, refusedLate = front ++ back →
    RunsSettled (run TransferState.step .empty front).books :=
  paid_out_stays refusedLate (by decide)

/-- A replica's transfer takes more than five minutes, and the other pays the
item meanwhile. -/
def paidTwice : List TransferInput :=
  earned ++ [.createMonthlyRun 1 2 "usd" 1000 5, .claimTransfers 0 5 25,
    .claimTransfers 1 300006 25, .answer 1 (some 9) 300006]

/-- Another creator comes to earn enough after the run is completed. -/
def addedLate : List TransferInput :=
  paidOut ++
    [.accounts ((Table.empty.insert ⟨7, 70, "active"⟩).insert ⟨8, 80, "active"⟩),
      .entries (Table.empty.insert ⟨8, .earning, 3000, "usd", 0, none, .other [1]⟩),
      .createMonthlyRun 1 2 "usd" 1000 8]

set_option maxRecDepth 20000 in
/-- The first replica's failure then takes the payment back; and who comes to
earn enough late is added to the completed run. -/
theorem late_failure_unpays : ¬ PaidStays (paidTwice ++ [.answer 0 none 5]) ∧
    ¬ RunsSettled (run TransferState.step .empty addedLate).books := by
  constructor
  · intro stays
    have paid : ((run TransferState.step .empty paidTwice).books.items.get 0).any
        (fun item => item.status == .paid) = true := by decide
    obtain ⟨item, found, isPaid⟩ := Option.any_eq_true _ _ |>.mp paid
    obtain ⟨later, there, stillPaid⟩ :=
      stays paidTwice [.answer 0 none 5] [] 0 item rfl found (beq_iff_eq.mp isPaid)
    have retry : ((run TransferState.step .empty
        (paidTwice ++ [.answer 0 none 5])).books.items.get 0).map PayoutItem.status =
          some .retry := by decide
    rw [there, Option.map_some, stillPaid] at retry
    cases retry
  · intro settled
    have added : ((run TransferState.step .empty addedLate).books.runs.get 0).any
        (fun r => r.status == .completed) = true := by decide
    obtain ⟨r, found, completed⟩ := Option.any_eq_true _ _ |>.mp added
    have reserved : ((run TransferState.step .empty addedLate).books.items.get 1).any
        (fun item => item.status == .reserved && item.runId == 0) = true := by decide
    obtain ⟨item, present, is⟩ := Option.any_eq_true _ _ |>.mp reserved
    simp only [Bool.and_eq_true, beq_iff_eq] at is
    have := settled.completed 0 r found (beq_iff_eq.mp completed) 1 item present is.2
    rw [is.1] at this
    simp at this

end Bling.Api
