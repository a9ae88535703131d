import Bling.Api.Transfers

set_option autoImplicit false

namespace Bling.Api

open Library

/-! The loop of one `runDue`, which has one time for all it does, with other replicas at work on
the same items. -/

/-- The due items that no other transaction has locked (`FOR UPDATE SKIP LOCKED`). -/
def unlockedItems (items : Table PayoutItem) (now : Time) (limit : Nat) (locked : ItemId → Bool) :
    List (ItemId × PayoutItem) :=
  (((items.query (PayoutItem.due now)).filter fun row => !locked row.1).insertionSort fun a b =>
    a.2.nextAttemptAt < b.2.nextAttemptAt ∨
      a.2.nextAttemptAt = b.2.nextAttemptAt ∧ a.1 ≤ b.1).take limit

def claimUnlocked (db : Books) (now : Time) (limit : Nat) (locked : ItemId → Bool) :
    Books × List (ItemId × PayoutItem) :=
  let claimed := unlockedItems db.items now limit locked
  let items := claimed.foldl (fun items row => items.patch row.1 fun item =>
    { item with status := .sending, attempts := row.2.attempts + 1, updatedAt := now }) db.items
  ({ db with items }, claimed.map fun row => (row.1, { row.2 with attempts := row.2.attempts + 1 }))

/-- With nothing locked, this is the claim of a worker that is alone. -/
theorem claimUnlocked_alone (db : Books) (now : Time) (limit : Nat) :
    claimUnlocked db now limit (fun _ => false) = claimTransfers db now limit := by
  have all : (db.items.query (PayoutItem.due now)).filter (fun _ => !false) =
      db.items.query (PayoutItem.due now) := List.filter_eq_self.mpr fun _ _ => rfl
  unfold claimUnlocked claimTransfers unlockedItems dueItems
  rw [all]

inductive LoopPhase where
  | claiming
  /-- The rest of a batch of some size. -/
  | sending (requests : List (ItemId × PayoutItem)) (size : Nat)
  | ended

/-- A batch that is done is the last if it was not full. -/
def LoopPhase.next (requests : List (ItemId × PayoutItem)) (size : Nat) : LoopPhase :=
  match requests with
  | [] => if size < 25 then .ended else .claiming
  | _ :: _ => .sending requests size

/-- The tables and the other replicas, the loop, the batches it has claimed and the requests it
has made of the gateway. -/
structure TransferLoop where
  state : TransferState
  phase : LoopPhase
  batches : List (List (ItemId × PayoutItem))
  sent : List (ItemId × PayoutItem)

inductive LoopInput where
  | other (input : TransferInput)
  | otherClaims (worker : Nat) (now : Time) (limit : Nat) (locked : ItemId → Bool)
  | otherUpdateFails (worker : Nat)
  | claim (locked : ItemId → Bool)
  | claimFails
  /-- The gateway's answer to the next request, and whether it can be recorded. -/
  | answer (transferId : Option StripeId) (recorded : Bool)

/-- The other replicas have started later. -/
def LoopInput.later (now : Time) : LoopInput → Prop
  | .other (.createMonthlyRun _ _ _ _ time) => now < time
  | .other (.claimTransfers _ time _) => now < time
  | .other (.answer _ _ time) => now < time
  | .otherClaims _ time _ _ => now < time
  | _ => True

namespace TransferLoop

def start (state : TransferState) : TransferLoop := ⟨state, .claiming, [], []⟩

/-- `MarkRetry` or `MarkPaid`. -/
def record (now : Time) (db : Books) (request : ItemId × PayoutItem) :
    Option StripeId → Books
  | none => retryTransfer db request "provider_error" now
  | some transferId => markPaid db request.1 transferId now

def step (now : Time) (l : TransferLoop) : LoopInput → TransferLoop
  | .other input => { l with state := l.state.step input }
  | .otherClaims worker time limit locked =>
    match l.state.workers worker with
    | [] =>
      let (books, requests) := claimUnlocked l.state.books time limit locked
      { l with state := ⟨books, Function.update l.state.workers worker requests⟩ }
    | _ :: _ => l
  | .otherUpdateFails worker =>
    { l with state := { l.state with
      workers := Function.update l.state.workers worker (l.state.workers worker).tail } }
  | .claim locked =>
    match l.phase with
    | .claiming =>
      let (books, requests) := claimUnlocked l.state.books now 25 locked
      { l with
        state := { l.state with books }
        phase := .next requests requests.length
        batches := l.batches ++ [requests] }
    | _ => l
  | .claimFails =>
    match l.phase with
    | .claiming => { l with phase := .ended }
    | _ => l
  | .answer transferId recorded =>
    match l.phase with
    | .sending (request :: rest) size =>
      { l with
        state := { l.state with
          books := if recorded then record now l.state.books request transferId
            else l.state.books }
        phase := .next rest size
        sent := l.sent ++ [request] }
    | _ => l

end TransferLoop

/-! ### What is due -/

/-- What is due afterwards was so before, and is as it was. -/
def DueStays (now : Time) (before after : Table PayoutItem) : Prop :=
  ∀ id item, after.get id = some item → item.due now = true → before.get id = some item

variable {now : Time} {before items after : Table PayoutItem} {db : Books}

theorem DueStays.refl (now : Time) (items : Table PayoutItem) : DueStays now items items :=
  fun _ _ found _ => found

theorem DueStays.trans (first : DueStays now before items) (second : DueStays now items after) :
    DueStays now before after :=
  fun id item found due => first id item (second id item found due) due

theorem DueStays.patch (key : ItemId) {f : PayoutItem → PayoutItem}
    (settles : ∀ item, (f item).due now = true → f item = item) :
    DueStays now items (items.patch key f) := by
  intro id item found due
  rw [Table.get_patch] at found
  split at found
  · obtain ⟨old, present, rfl⟩ := Option.map_eq_some_iff.mp found
    rw [settles old due]
    exact present
  · exact found

theorem updated_undue {item : PayoutItem} (sending : item.status = .sending)
    (updated : now ≤ item.updatedAt) : item.due now = false := by
  have late : ¬ item.updatedAt + 5 * 60000 < now :=
    Nat.not_lt.mpr (Nat.le_trans updated (Nat.le_add_right _ _))
  simp [PayoutItem.due, sending, late]

theorem retried_undue (request : ItemId × PayoutItem) (code : String) {time : Time}
    (later : now ≤ time) (item : PayoutItem) :
    (retriedItem request code time item).due now = false := by
  have wait : 0 < 1000 * 2 ^ min request.2.attempts 8 :=
    Nat.mul_pos (by decide) (Nat.pow_pos (by decide))
  have late : ¬ time + 1000 * 2 ^ min request.2.attempts 8 ≤ now :=
    Nat.not_le.mpr (Nat.lt_of_le_of_lt later (Nat.lt_add_of_pos_right wait))
  by_cases failed : 10 ≤ request.2.attempts <;> simp [PayoutItem.due, retriedItem, failed, late]

theorem claim_dueStays (claimed : List (ItemId × PayoutItem)) {time : Time}
    (later : now ≤ time) : DueStays now items (claimed.foldl (fun items row =>
      items.patch row.1 fun item =>
        { item with status := .sending, attempts := row.2.attempts + 1, updatedAt := time })
      items) := by
  intro id item found due
  rcases claimed_items time claimed items id item found with ⟨sending, updated⟩ | ⟨_, there⟩
  · rw [updated_undue sending (updated ▸ later)] at due
    cases due
  · exact there

theorem markPaid_dueStays (itemId : ItemId) (transferId : StripeId) (time : Time) :
    DueStays now db.items (markPaid db itemId transferId time).items := by
  unfold markPaid
  split
  · exact .refl now _
  · apply DueStays.patch
    intro item due
    split at due
    · simp [PayoutItem.due] at due
    · rename_i still
      rw [if_neg still]

theorem retryTransfer_dueStays (request : ItemId × PayoutItem) (code : String) {time : Time}
    (later : now ≤ time) : DueStays now db.items (retryTransfer db request code time).items := by
  unfold retryTransfer
  split
  · exact .refl now _
  · apply DueStays.patch
    intro item due
    have undue : (retriedItem request code time item).due now = false :=
      retried_undue request code later item
    exact absurd due (by simpa [retriedItem] using undue)

theorem createMonthlyRun_dueStays {periodStart periodEnd : Month} {currency : String}
    {minimum : Int} {time : Time} {books : Books}
    (ok : createMonthlyRun db periodStart periodEnd currency minimum time = .ok books)
    (later : now < time) : DueStays now db.items books.items := by
  unfold createMonthlyRun at ok
  obtain ⟨⟨runs, runId⟩, _, ok⟩ := bind_ok ok
  obtain ⟨⟨all, inserted⟩, added, ok⟩ := bind_ok ok
  obtain ⟨entries, _, ok⟩ := bind_ok ok
  obtain rfl := Except.ok.inj ok
  intro id item found due
  rcases (insertItems_adds added).2 id item found with old | ⟨row, _, rfl, _⟩
  · exact old
  · have late : ¬ time ≤ now := Nat.not_le.mpr later
    simp [PayoutItem.due, newItem, late] at due

theorem record_dueStays (request : ItemId × PayoutItem) (transferId : Option StripeId) :
    DueStays now db.items (TransferLoop.record now db request transferId).items := by
  cases transferId with
  | none => exact retryTransfer_dueStays request _ (Nat.le_refl _)
  | some transferId => exact markPaid_dueStays request.1 transferId now

/-- No step of any replica makes an item due again. -/
theorem step_dueStays (l : TransferLoop) {input : LoopInput} (later : input.later now) :
    DueStays now l.state.books.items (l.step now input).state.books.items := by
  cases input with
  | other input =>
      cases input with
      | accounts accounts => exact .refl now _
      | entries entries => exact .refl now _
      | createMonthlyRun periodStart periodEnd currency minimum time =>
          simp only [TransferLoop.step, TransferState.step]
          split
          · rename_i books ok
            exact createMonthlyRun_dueStays ok later
          · exact .refl now _
      | claimTransfers worker time limit =>
          simp only [TransferLoop.step, TransferState.step]
          split
          · exact claim_dueStays _ (Nat.le_of_lt later)
          · exact .refl now _
      | answer worker transferId time =>
          simp only [TransferLoop.step, TransferState.step]
          split
          · exact .refl now _
          · cases transferId with
            | none => exact retryTransfer_dueStays _ _ (Nat.le_of_lt later)
            | some transferId => exact markPaid_dueStays _ _ _
      | finishRuns time => exact .refl now _
      | crash worker => exact .refl now _
  | otherClaims worker time limit locked =>
      simp only [TransferLoop.step]
      split
      · exact claim_dueStays _ (Nat.le_of_lt later)
      · exact .refl now _
  | otherUpdateFails worker => exact .refl now _
  | claim locked =>
      simp only [TransferLoop.step]
      split
      · exact claim_dueStays _ (Nat.le_refl _)
      · exact .refl now _
  | claimFails =>
      simp only [TransferLoop.step]
      split <;> exact .refl now _
  | answer transferId recorded =>
      simp only [TransferLoop.step]
      split
      · cases recorded with
        | true => exact record_dueStays _ _
        | false => exact .refl now _
      · exact .refl now _

/-! ### One claim -/

theorem mem_unlockedItems {limit : Nat} {locked : ItemId → Bool} {row : ItemId × PayoutItem}
    (member : row ∈ unlockedItems items now limit locked) :
    items.get row.1 = some row.2 ∧ row.2.due now = true := by
  have kept := (List.mem_insertionSort _).mp (List.mem_of_mem_take member)
  exact (items.mem_query _ row.1 row.2).mp (List.mem_filter.mp kept).1

theorem unlockedItems_distinct (items : Table PayoutItem) (now : Time) (limit : Nat)
    (locked : ItemId → Bool) : ((unlockedItems items now limit locked).map Prod.fst).Nodup := by
  have queried := (items.query_nodup (PayoutItem.due now)).sublist
    ((List.filter_sublist (p := fun row => !locked row.1)).map Prod.fst)
  have sorted := ((List.perm_insertionSort (fun a b : ItemId × PayoutItem =>
    a.2.nextAttemptAt < b.2.nextAttemptAt ∨
      a.2.nextAttemptAt = b.2.nextAttemptAt ∧ a.1 ≤ b.1) _).map Prod.fst).nodup_iff.mpr queried
  exact sorted.sublist ((List.take_sublist _ _).map Prod.fst)

/-- A claimed item was due, and its attempts are one more in the request and in the table. -/
theorem mem_claimUnlocked {limit : Nat} {locked : ItemId → Bool} {request : ItemId × PayoutItem}
    (member : request ∈ (claimUnlocked db now limit locked).2) : ∃ item,
      db.items.get request.1 = some item ∧ item.due now = true ∧
      request.2 = { item with attempts := item.attempts + 1 } ∧
      (claimUnlocked db now limit locked).1.items.get request.1 =
        some { item with
          status := .sending, attempts := item.attempts + 1, updatedAt := now } := by
  obtain ⟨row, claimed, rfl⟩ := List.mem_map.mp member
  obtain ⟨held, due⟩ := mem_unlockedItems claimed
  refine ⟨row.2, held, due, rfl, ?_⟩
  have patched := Table.get_foldl_patch (unlockedItems_distinct db.items now limit locked) claimed
    (fun row item => { item with
      status := .sending, attempts := row.2.attempts + 1, updatedAt := now }) db.items
  rw [held] at patched
  exact patched

theorem claimUnlocked_ids (db : Books) (now : Time) (limit : Nat) (locked : ItemId → Bool) :
    (claimUnlocked db now limit locked).2.map Prod.fst =
      (unlockedItems db.items now limit locked).map Prod.fst := by
  simp [claimUnlocked, Function.comp_def]

/-- What is due after a claim is not among the claimed. -/
theorem claimUnlocked_due {limit : Nat} {locked : ItemId → Bool} {id : ItemId} {item : PayoutItem}
    (found : (claimUnlocked db now limit locked).1.items.get id = some item)
    (due : item.due now = true) : id ∉ (claimUnlocked db now limit locked).2.map Prod.fst := by
  rw [claimUnlocked_ids]
  rcases claimed_items now _ db.items id item found with ⟨sending, updated⟩ | ⟨unclaimed, _⟩
  · rw [updated_undue sending (Nat.le_of_eq updated.symm)] at due
    cases due
  · exact unclaimed

/-! ### The loop -/

/-- The requests of the current batch that are still to be made. -/
def LoopPhase.requests : LoopPhase → List (ItemId × PayoutItem)
  | .sending requests _ => requests
  | _ => []

theorem LoopPhase.next_requests (requests : List (ItemId × PayoutItem)) (size : Nat) :
    (LoopPhase.next requests size).requests = requests := by
  cases requests with
  | nil =>
      unfold LoopPhase.next
      dsimp only
      split <;> rfl
  | cons request rest => rfl

/-- Only the last batch may be less than full, and with it the loop ends. -/
def LoopPhase.Full (batches : List (List (ItemId × PayoutItem))) : LoopPhase → Prop
  | .claiming => ∀ batch ∈ batches, batch.length = 25
  | .sending _ size => ∃ front last, batches = front ++ [last] ∧ last.length = size ∧
      ∀ batch ∈ front, batch.length = 25
  | .ended => ∃ front last, batches = front ++ last ∧ last.length ≤ 1 ∧
      ∀ batch ∈ front, batch.length = 25

theorem unlockedItems_length (items : Table PayoutItem) (now : Time) (limit : Nat)
    (locked : ItemId → Bool) : (unlockedItems items now limit locked).length ≤ limit :=
  List.length_take_le _ _

theorem LoopPhase.full_next {batches front : List (List (ItemId × PayoutItem))}
    {last requests : List (ItemId × PayoutItem)} {size : Nat} (whole : batches = front ++ [last])
    (length : last.length = size) (most : size ≤ 25) (full : ∀ batch ∈ front, batch.length = 25) :
    (LoopPhase.next requests size).Full batches := by
  cases requests with
  | nil =>
      unfold LoopPhase.next
      dsimp only
      split
      · exact ⟨front, [last], whole, Nat.le_refl 1, full⟩
      · intro batch member
        rw [whole, List.mem_append, List.mem_singleton] at member
        rcases member with earlier | rfl
        · exact full batch earlier
        · omega
  | cons request rest => exact ⟨front, last, whole, length, full⟩

/-- The loop over the items as they were when it began. -/
structure Orderly (now : Time) (before : Table PayoutItem) (l : TransferLoop) : Prop where
  due : ∀ id item, l.state.books.items.get id = some item → item.due now = true →
    before.get id = some item ∧ id ∉ l.batches.flatten.map Prod.fst
  claimed : ∀ request ∈ l.batches.flatten, ∃ item, before.get request.1 = some item ∧
    item.due now = true ∧ request.2 = { item with attempts := item.attempts + 1 }
  once : (l.batches.flatten.map Prod.fst).Nodup
  sent : l.sent ++ l.phase.requests = l.batches.flatten
  small : ∀ batch ∈ l.batches, batch.length ≤ 25
  full : l.phase.Full l.batches

theorem Orderly.frame {l : TransferLoop} (orderly : Orderly now before l) {state : TransferState}
    (stays : DueStays now l.state.books.items state.books.items) :
    Orderly now before { l with state } :=
  ⟨fun id item found due => orderly.due id item (stays id item found due) due, orderly.claimed,
    orderly.once, orderly.sent, orderly.small, orderly.full⟩

theorem Orderly.claim {l : TransferLoop} (orderly : Orderly now before l)
    (claiming : l.phase = .claiming) (locked : ItemId → Bool) :
    Orderly now before (l.step now (.claim locked)) := by
  have emptied : l.sent = l.batches.flatten := by
    have sent := orderly.sent
    rw [claiming] at sent
    simpa [LoopPhase.requests] using sent
  have every : ∀ batch ∈ l.batches, batch.length = 25 := by
    have full := orderly.full
    rw [claiming] at full
    exact full
  have small : (claimUnlocked l.state.books now 25 locked).2.length ≤ 25 := by
    rw [← List.length_map Prod.fst, claimUnlocked_ids, List.length_map]
    exact unlockedItems_length _ _ _ _
  have stays : DueStays now l.state.books.items (l.step now (.claim locked)).state.books.items :=
    step_dueStays l trivial
  simp only [TransferLoop.step, claiming] at stays ⊢
  constructor
  · intro id item found due
    have old := stays id item found due
    obtain ⟨present, unclaimed⟩ := orderly.due id item old due
    refine ⟨present, ?_⟩
    rw [List.flatten_append, List.map_append, List.mem_append, not_or, List.flatten_singleton]
    exact ⟨unclaimed, claimUnlocked_due found due⟩
  · intro request member
    rw [List.flatten_append, List.mem_append, List.flatten_singleton] at member
    rcases member with earlier | new
    · exact orderly.claimed request earlier
    · obtain ⟨item, held, due, same, _⟩ := mem_claimUnlocked new
      exact ⟨item, (orderly.due request.1 item held due).1, due, same⟩
  · rw [List.flatten_append, List.map_append, List.flatten_singleton, List.nodup_append]
    refine ⟨orderly.once, ?_, ?_⟩
    · rw [claimUnlocked_ids]
      exact unlockedItems_distinct _ _ _ _
    · rintro id earlier _ new rfl
      obtain ⟨request, member, rfl⟩ := List.mem_map.mp new
      obtain ⟨item, held, due, _⟩ := mem_claimUnlocked member
      exact (orderly.due request.1 item held due).2 earlier
  · rw [LoopPhase.next_requests, emptied, List.flatten_append, List.flatten_singleton]
  · intro batch member
    rcases List.mem_append.mp member with earlier | new
    · exact orderly.small batch earlier
    · rw [List.mem_singleton.mp new]
      exact small
  · exact LoopPhase.full_next rfl rfl small every

theorem Orderly.step {l : TransferLoop} (orderly : Orderly now before l) {input : LoopInput}
    (later : input.later now) : Orderly now before (l.step now input) := by
  have stays := step_dueStays l later
  cases input with
  | other input => exact orderly.frame stays
  | otherClaims worker time limit locked =>
      simp only [TransferLoop.step] at stays ⊢
      split at stays
      · exact orderly.frame stays
      · exact orderly
  | otherUpdateFails worker => exact orderly.frame stays
  | claim locked =>
      cases phase : l.phase with
      | claiming => exact orderly.claim phase locked
      | sending requests size =>
          simp only [TransferLoop.step, phase]
          exact orderly
      | ended =>
          simp only [TransferLoop.step, phase]
          exact orderly
  | claimFails =>
      cases phase : l.phase with
      | claiming =>
          have sent := orderly.sent
          have full := orderly.full
          rw [phase] at sent full
          simp only [TransferLoop.step, phase]
          exact ⟨orderly.due, orderly.claimed, orderly.once, sent, orderly.small,
            ⟨l.batches, [], (List.append_nil _).symm, Nat.zero_le 1, full⟩⟩
      | sending requests size =>
          simp only [TransferLoop.step, phase]
          exact orderly
      | ended =>
          simp only [TransferLoop.step, phase]
          exact orderly
  | answer transferId recorded =>
      simp only [TransferLoop.step] at stays ⊢
      split at stays
      · rename_i request rest size phase
        have sent := orderly.sent
        have full := orderly.full
        rw [phase] at sent full
        obtain ⟨front, last, whole, length, every⟩ := full
        have most : size ≤ 25 := length ▸ orderly.small last (by rw [whole]; simp)
        have framed := orderly.frame stays
        refine ⟨framed.due, orderly.claimed, orderly.once, ?_, orderly.small,
          LoopPhase.full_next whole length most every⟩
        rw [LoopPhase.next_requests, List.append_assoc]
        exact sent
      · exact orderly

theorem start_orderly (now : Time) (s : TransferState) :
    Orderly now s.books.items (.start s) := by
  constructor
  · exact fun id item found _ => ⟨found, by simp [TransferLoop.start]⟩
  · intro request member
    cases member
  · exact List.nodup_nil
  · rfl
  · intro batch member
    cases member
  · intro batch member
    cases member

theorem run_orderly {s : TransferState} {inputs : List LoopInput}
    (later : ∀ input ∈ inputs, input.later now) :
    Orderly now s.books.items (run (TransferLoop.step now) (.start s) inputs) :=
  run_keeps (Orderly now s.books.items) (fun _ _ orderly later => orderly.step later)
    (start_orderly now s) (along_of_forall later)

/-- All that was claimed was due when the loop began. -/
theorem Orderly.claimed_le {l : TransferLoop} (orderly : Orderly now before l) :
    l.batches.flatten.length ≤ (before.query (PayoutItem.due now)).length := by
  have within : l.batches.flatten.map Prod.fst ⊆
      (before.query (PayoutItem.due now)).map Prod.fst := by
    intro id member
    obtain ⟨request, listed, rfl⟩ := List.mem_map.mp member
    obtain ⟨item, held, due, _⟩ := orderly.claimed request listed
    exact List.mem_map.mpr ⟨(request.1, item), (before.mem_query _ _ _).mpr ⟨held, due⟩, rfl⟩
  have most := (List.subperm_of_subset orderly.once within).length_le
  rwa [List.length_map, List.length_map] at most

theorem flatten_full {batches : List (List (ItemId × PayoutItem))}
    (full : ∀ batch ∈ batches, batch.length = 25) :
    batches.flatten.length = 25 * batches.length := by
  induction batches with
  | nil => rfl
  | cons batch rest ih =>
      have others := ih fun batch member => full batch (List.mem_cons_of_mem _ member)
      rw [List.flatten_cons, List.length_append, full batch List.mem_cons_self, others,
        List.length_cons]
      omega

/-- Before its last batch, the loop has claimed full ones only. -/
theorem Orderly.batches_le {l : TransferLoop} (orderly : Orderly now before l) :
    l.batches.length ≤ (before.query (PayoutItem.due now)).length / 25 + 1 ∧
      (l.phase = .claiming →
        l.batches.length ≤ (before.query (PayoutItem.due now)).length / 25) := by
  have most := orderly.claimed_le
  have bound {front last : List (List (ItemId × PayoutItem))} (whole : l.batches = front ++ last)
      (every : ∀ batch ∈ front, batch.length = 25) :
      front.length ≤ (before.query (PayoutItem.due now)).length / 25 := by
    rw [whole, List.flatten_append, List.length_append, flatten_full every] at most
    omega
  have full := orderly.full
  cases phase : l.phase with
  | claiming =>
      rw [phase] at full
      have all := bound (List.append_nil _).symm full
      exact ⟨Nat.le_succ_of_le all, fun _ => all⟩
  | sending requests size =>
      rw [phase] at full
      obtain ⟨front, last, whole, _, every⟩ := full
      have earlier := bound whole every
      refine ⟨?_, fun claiming => by cases claiming⟩
      rw [whole, List.length_append]
      exact Nat.succ_le_succ earlier
  | ended =>
      rw [phase] at full
      obtain ⟨front, last, whole, one, every⟩ := full
      have earlier := bound whole every
      refine ⟨?_, fun claiming => by cases claiming⟩
      rw [whole, List.length_append]
      omega

/-- The keys of requests for different items are different. -/
theorem Orderly.keys {l : TransferLoop} (orderly : Orderly now before l)
    (keyed : before.rows.Pairwise fun a b => a.2.sameKey b.2 = false) :
    (l.sent.map fun request => request.2.idempotencyKey).Nodup := by
  have all : (l.batches.flatten.map fun request => request.2.idempotencyKey).Nodup := by
    apply List.pairwise_map.mpr
    apply (List.pairwise_map.mp orderly.once).imp_of_mem
    intro a b first second apart same
    obtain ⟨one, held, _, copy⟩ := orderly.claimed a first
    obtain ⟨other, held', _, copy'⟩ := orderly.claimed b second
    rw [copy, copy'] at same
    have rows : (a.1, one) ≠ (b.1, other) := fun equal => apart (Prod.mk.inj equal).1
    have symm : Std.Symm fun a b : ItemId × PayoutItem =>
        a.2.idempotencyKey ≠ b.2.idempotencyKey := ⟨fun _ _ apart => apart.symm⟩
    have distinct : before.rows.Pairwise fun a b => a.2.idempotencyKey ≠ b.2.idempotencyKey :=
      keyed.imp fun apart same => by simp [PayoutItem.sameKey, same] at apart
    exact distinct.forall ((before.mem_rows_iff a.1 one).mpr held)
      ((before.mem_rows_iff b.1 other).mpr held') rows same
  rw [← orderly.sent, List.map_append] at all
  exact (List.nodup_append.mp all).1

/-- In one call of `runDue`, whatever the gateway answers and whichever updates fail: no item is
claimed twice, each claimed item was due and makes one more attempt of at most ten, the requests
are those of the claimed items under their own keys, and the batches come to an end. -/
theorem transfer_loop_once (now : Time) (s : TransferState)
    (keyed : s.books.items.rows.Pairwise fun a b => a.2.sameKey b.2 = false)
    (inputs : List LoopInput) (later : ∀ input ∈ inputs, input.later now) :
    let l := run (TransferLoop.step now) (.start s) inputs
    let due := s.books.items.query (PayoutItem.due now)
    (l.batches.flatten.map Prod.fst).Nodup ∧
    (∀ request ∈ l.batches.flatten, ∃ item, (request.1, item) ∈ due ∧ item.attempts < 10 ∧
      request.2 = { item with attempts := item.attempts + 1 }) ∧
    (∀ locked, ∀ request ∈ (claimUnlocked l.state.books now 25 locked).2, ∃ item,
      l.state.books.items.get request.1 = some item ∧
      (claimUnlocked l.state.books now 25 locked).1.items.get request.1 =
        some { item with
          status := .sending, attempts := item.attempts + 1, updatedAt := now }) ∧
    l.sent ++ l.phase.requests = l.batches.flatten ∧
    (l.sent.map fun request => request.2.idempotencyKey).Nodup ∧
    l.batches.length ≤ due.length / 25 + 1 ∧
    (l.phase = .claiming → l.batches.length ≤ due.length / 25) := by
  have orderly : Orderly now s.books.items (run (TransferLoop.step now) (.start s) inputs) :=
    run_orderly later
  refine ⟨orderly.once, ?_, ?_, orderly.sent, orderly.keys keyed, orderly.batches_le.1,
    orderly.batches_le.2⟩
  · intro request member
    obtain ⟨item, held, due, same⟩ := orderly.claimed request member
    refine ⟨item, (s.books.items.mem_query _ _ _).mpr ⟨held, due⟩, ?_, same⟩
    simp only [PayoutItem.due, Bool.decide_and, Bool.and_eq_true, decide_eq_true_eq] at due
    exact due.2
  · intro locked request member
    obtain ⟨item, held, _, _, after⟩ := mem_claimUnlocked member
    exact ⟨item, held, after⟩

/-- Items of so many creators, which are all due. -/
def dueBooks (creators : Nat) : Books :=
  { sampleBooks .reserved with
    items := (List.range creators).foldl (fun items i => items.insert
      ⟨0, i, 4000, "usd", 70 + i, none, .reserved, .monthly i 1, 0, 1, none, none, 1⟩) Table.empty }

/-- The gateway fails the first item of a full batch and takes the others. Then another replica
claims the next item, so that one is left for the second batch. -/
def twoReplicas : List LoopInput :=
  [.claim fun _ => false, .answer none true] ++
    (List.range 24).map (fun i => .answer (some (100 + i)) true) ++
    [.otherClaims 1 10 1 fun _ => false, .claim fun _ => false, .other (.answer 1 (some 200) 11),
      .answer (some 201) true]

theorem twoReplicas_later : ∀ input ∈ twoReplicas, input.later 9 := by
  intro input member
  simp only [twoReplicas, List.cons_append, List.nil_append, List.mem_cons, List.mem_append,
    List.mem_map, List.mem_range, List.not_mem_nil, or_false] at member
  rcases member with rfl | rfl | ⟨i, _, rfl⟩ | rfl | rfl | rfl | rfl <;> simp [LoopInput.later]

set_option maxRecDepth 20000 in
theorem due_item_sent_once :
    (dueBooks 27).items.next = 27 ∧
    let l := run (TransferLoop.step 9) (.start ⟨dueBooks 27, fun _ => []⟩) twoReplicas
    l.batches.map List.length = [25, 1] ∧
      (l.sent.map fun request => request.2.idempotencyKey).Nodup ∧
      (l.batches.flatten.map Prod.fst).Nodup ∧ l.batches.length ≤ 2 := by
  have once := transfer_loop_once 9 ⟨dueBooks 27, fun _ => []⟩ (by decide) twoReplicas
    twoReplicas_later
  have due : ((dueBooks 27).items.query (PayoutItem.due 9)).length = 27 := by decide
  dsimp only at once
  rw [due] at once
  obtain ⟨apart, _, _, _, keys, batches, _⟩ := once
  exact ⟨rfl, by decide, keys, apart, batches⟩

end Bling.Api
