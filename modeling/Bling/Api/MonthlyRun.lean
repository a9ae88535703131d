import Bling.Api.Balance

set_option autoImplicit false

namespace Bling.Api

open Library

/-! Who holds up a monthly run: one conflict other than that of the run itself
fails the reservation of everybody. -/

/-! ### What a run is for -/

/-- The creator has an item in the run already. -/
def inRun (items : Table PayoutItem) (runId : RunId) (creatorId : UserId) (currency : String) :
    Bool :=
  (items.first fun i =>
    i.runId == runId && i.creatorId == creatorId && i.currency == currency).isSome

/-- The creator's last payout is not settled. -/
def unsettled (items : Table PayoutItem) (creatorId : UserId) (currency : String) : Bool :=
  (items.first fun i =>
    i.status ∈ unsettledStatuses && i.creatorId == creatorId && i.currency == currency).isSome

/-- An item has the key the creator's item of the month would have. -/
def keyTaken (items : Table PayoutItem) (creatorId : UserId) (month : Month) : Bool :=
  (items.first fun i => i.idempotencyKey == .monthly creatorId month).isSome

section Run

variable (s : Service) (db : Books) (clock : Clock)

/-- The run of the clock's period. -/
def Service.openRun : Table PayoutRun × RunId :=
  Api.openRun db.runs (s.period clock).1 (s.period clock).2 s.currency clock.now

def Service.createRun : Except SqlError Books :=
  createMonthlyRun db (s.period clock).1 (s.period clock).2 s.currency s.minimum clock.now

/-- The balances the run is to reserve. -/
def Service.payable : List (PayoutAccount × Int) :=
  (db.accounts.query fun a => a.transfersStatus == "active" &&
      s.minimum ≤ available db a.creatorId s.currency clock.now &&
      !inRun db.items (s.openRun db clock).2 a.creatorId s.currency &&
      !unsettled db.items a.creatorId s.currency).map fun row =>
    (row.2, available db row.2.creatorId s.currency clock.now)

def reserve (item : PayoutAccount × Int → PayoutItem) (now : Time) (db : Books)
    (row : PayoutAccount × Int) : Books :=
  { db with
    items := db.items.insert (item row)
    entries := db.entries.insert (reservation now (db.items.next, item row)) }

/-- The books with exactly these balances reserved. -/
def Service.reserved : Books :=
  (s.payable db clock).foldl
    (reserve (newItem (s.openRun db clock).2 (s.period clock).1 s.currency clock.now) clock.now)
    { db with runs := (s.openRun db clock).1 }

/-- The run reserves what it is to, and the service goes on to the transfers. -/
def Service.Settles : Prop :=
  s.createRun db clock = .ok (s.reserved db clock) ∧
    ∀ gateway, ∃ after calls, s.runDue gateway db clock = some (after, calls) ∧
      .claimTransfers ∈ calls ∧ .finishRuns ∈ calls

/-- Nobody holds up the run: whoever is eligible and not in it yet has settled
before and has no item with the month's key, and no balance outgrows its column. -/
def Service.Unblocked : Prop :=
  validCurrency s.currency = true ∧
    ∀ row ∈ eligible db s.currency s.minimum clock.now, row.2 ≤ maxBigint ∧
      (inRun db.items (s.openRun db clock).2 row.1.creatorId s.currency = true ∨
        unsettled db.items row.1.creatorId s.currency = false ∧
          keyTaken db.items row.1.creatorId (s.period clock).1 = false)

instance : Decidable (s.Unblocked db clock) :=
  inferInstanceAs (Decidable (_ ∧ ∀ row ∈ _, _))

end Run

/-! ### One insertion -/

section Insert

variable (runId : RunId) (month : Month) (currency : String) (now : Time)

/-- The statement would fail at this row. -/
def blocked (items : Table PayoutItem) (row : PayoutAccount × Int) : Bool :=
  !inRun items runId row.1.creatorId currency &&
    (unsettled items row.1.creatorId currency || keyTaken items row.1.creatorId month)

theorem newItem_inRun (items : Table PayoutItem) (row : PayoutAccount × Int) :
    (items.first (newItem runId month currency now row).sameRun).isSome =
      inRun items runId row.1.creatorId currency := by
  have same : (newItem runId month currency now row).sameRun = fun i =>
      i.runId == runId && i.creatorId == row.1.creatorId && i.currency == currency := by
    funext i
    rw [Bool.eq_iff_iff, PayoutItem.sameRun, decide_eq_true_iff]
    simp only [newItem, Bool.and_eq_true, beq_iff_eq]
    constructor
    · rintro ⟨here, creator, money⟩
      exact ⟨⟨here.symm, creator.symm⟩, money.symm⟩
    · rintro ⟨⟨here, creator⟩, money⟩
      exact ⟨here.symm, creator.symm, money.symm⟩
  rw [same]
  rfl

theorem newItem_conflicts (items : Table PayoutItem) (row : PayoutAccount × Int) :
    let item := newItem runId month currency now row
    (items.first fun other => item.bothUnsettled other || item.sameKey other ||
      item.sameTransfer other).isSome =
        (unsettled items row.1.creatorId currency || keyTaken items row.1.creatorId month) := by
  intro item
  rw [Bool.eq_iff_iff, Bool.or_eq_true, unsettled, keyTaken, Table.first_isSome_iff,
    Table.first_isSome_iff, Table.first_isSome_iff]
  constructor
  · rintro ⟨id, i, found, conflicts⟩
    simp only [Bool.or_eq_true] at conflicts
    rcases conflicts with (both | key) | sent
    · refine Or.inl ⟨id, i, found, ?_⟩
      simp only [PayoutItem.bothUnsettled, decide_eq_true_eq] at both
      simp [both.2.1, both.2.2.1.symm, both.2.2.2.symm, item, newItem]
    · refine Or.inr ⟨id, i, found, ?_⟩
      simp only [PayoutItem.sameKey, decide_eq_true_eq] at key
      simp [← key, item, newItem]
    · simp [PayoutItem.sameTransfer, item, newItem] at sent
  · rintro (⟨id, i, found, same⟩ | ⟨id, i, found, same⟩)
    · refine ⟨id, i, found, ?_⟩
      simp only [Bool.and_eq_true, decide_eq_true_eq, beq_iff_eq] at same
      have reserved : ItemStatus.reserved ∈ unsettledStatuses := by decide
      simp [PayoutItem.bothUnsettled, item, newItem, same.1, same.2, reserved]
    · refine ⟨id, i, found, ?_⟩
      simp only [beq_iff_eq] at same
      simp [PayoutItem.sameKey, item, newItem, same]

theorem newItem_valid (row : PayoutAccount × Int) :
    (newItem runId month currency now row).valid = true ↔
      0 < row.2 ∧ validCurrency currency = true := by
  rw [PayoutItem.valid, decide_eq_true_iff]
  rfl

/-- The insertion of one creator's item. -/
theorem insertItem_newItem (items : Table PayoutItem) (row : PayoutAccount × Int) :
    insertItem items (newItem runId month currency now row) =
      if maxBigint < row.2 then .error .outOfRange
      else if ¬ (newItem runId month currency now row).valid then .error .checkViolation
      else if inRun items runId row.1.creatorId currency then .ok none
      else if blocked runId month currency items row then .error .uniqueViolation
      else .ok (some (items.insert (newItem runId month currency now row))) := by
  have conflicts := newItem_conflicts runId month currency now items row
  dsimp only at conflicts
  unfold insertItem
  rw [newItem_inRun, conflicts, blocked]
  show (if maxBigint < row.2 then _ else _) = _
  split
  · rfl
  · split
    · rfl
    · split
      · rfl
      · rename_i out
        simp [out]

/-- Another creator's item makes no difference. -/
theorem inRun_insert {items : Table PayoutItem} {row other : PayoutAccount × Int}
    (apart : row.1.creatorId ≠ other.1.creatorId) :
    inRun (items.insert (newItem runId month currency now row)) runId other.1.creatorId currency =
      inRun items runId other.1.creatorId currency := by
  unfold inRun
  rw [Table.first_insert_other]
  simp [newItem, apart]

theorem blocked_insert {items : Table PayoutItem} {row other : PayoutAccount × Int}
    (apart : row.1.creatorId ≠ other.1.creatorId) :
    blocked runId month currency (items.insert (newItem runId month currency now row)) other =
      blocked runId month currency items other := by
  unfold blocked
  rw [inRun_insert runId month currency now apart]
  have settled : unsettled (items.insert (newItem runId month currency now row)) other.1.creatorId
      currency = unsettled items other.1.creatorId currency := by
    unfold unsettled
    rw [Table.first_insert_other]
    simp [newItem, apart]
  have keyed : keyTaken (items.insert (newItem runId month currency now row)) other.1.creatorId
      month = keyTaken items other.1.creatorId month := by
    unfold keyTaken
    rw [Table.first_insert_other]
    simp [newItem, apart]
  rw [settled, keyed]

/-! ### The statement -/

/-- The items a run adds, under their ids. -/
def placed : List (PayoutAccount × Int) → Table PayoutItem → List (ItemId × PayoutItem)
  | [], _ => []
  | row :: rest, items =>
    (items.next, newItem runId month currency now row) ::
      placed rest (items.insert (newItem runId month currency now row))

/-- The rows a run adds items for. -/
def added (items : Table PayoutItem) (rows : List (PayoutAccount × Int)) :
    List (PayoutAccount × Int) :=
  rows.filter fun row => !inRun items runId row.1.creatorId currency

section InsertItems

variable {item : PayoutAccount × Int → PayoutItem} {row : PayoutAccount × Int}
  {rest : List (PayoutAccount × Int)} {items : Table PayoutItem}

theorem insertItems_fails {error : SqlError} (first : insertItem items (item row) = .error error) :
    insertItems item (row :: rest) items = .error error := by
  unfold insertItems
  rw [first]
  rfl

theorem insertItems_none (first : insertItem items (item row) = .ok none) :
    insertItems item (row :: rest) items = insertItems item rest items := by
  rw [insertItems, first]
  rfl

theorem insertItems_some {more : Table PayoutItem}
    (first : insertItem items (item row) = .ok (some more)) :
    insertItems item (row :: rest) items = (insertItems item rest more).map fun later =>
      (later.1, (items.next, item row) :: later.2) := by
  rw [insertItems, first]
  show (insertItems item rest more).bind _ = _
  cases insertItems item rest more <;> rfl

end InsertItems

theorem insertItems_ok {rows : List (PayoutAccount × Int)} (items : Table PayoutItem)
    (apart : rows.Pairwise fun a b => a.1.creatorId ≠ b.1.creatorId)
    (valid : validCurrency currency = true)
    (fits : ∀ row ∈ rows, 0 < row.2 ∧ row.2 ≤ maxBigint)
    (free : ∀ row ∈ rows, blocked runId month currency items row = false) :
    insertItems (newItem runId month currency now) rows items =
      .ok ((added runId currency items rows).foldl
          (fun items row => items.insert (newItem runId month currency now row)) items,
        placed runId month currency now (added runId currency items rows) items) := by
  induction rows generalizing items with
  | nil => rfl
  | cons row rest ih =>
      obtain ⟨others, restApart⟩ := List.pairwise_cons.mp apart
      have restFits (other : PayoutAccount × Int) (member : other ∈ rest) :=
        fits other (List.mem_cons_of_mem row member)
      obtain ⟨positive, small⟩ := fits row List.mem_cons_self
      have first := insertItem_newItem runId month currency now items row
      rw [if_neg (by omega), if_neg
        (not_not.mpr ((newItem_valid runId month currency now row).mpr ⟨positive, valid⟩))] at first
      by_cases already : inRun items runId row.1.creatorId currency = true
      · have skipped : added runId currency items (row :: rest) = added runId currency items rest :=
          List.filter_cons_of_neg (by simp [already])
        rw [if_pos already] at first
        rw [insertItems_none first, skipped]
        exact ih items restApart restFits fun other member =>
          free other (List.mem_cons_of_mem row member)
      · have inserts : added runId currency items (row :: rest) =
            row :: added runId currency (items.insert (newItem runId month currency now row))
              rest := by
          unfold added
          rw [List.filter_cons_of_pos (by simp [already])]
          refine congrArg (row :: ·) (List.filter_congr ?_)
          intro other member
          rw [inRun_insert runId month currency now (others other member)]
        have unblocked := free row List.mem_cons_self
        rw [if_neg already, if_neg (by simp [unblocked])] at first
        have later := ih (items.insert (newItem runId month currency now row)) restApart restFits ?_
        · rw [insertItems_some first, later, inserts]
          rfl
        · intro other member
          rw [blocked_insert runId month currency now (others other member)]
          exact free other (List.mem_cons_of_mem row member)

/-- One row that the statement fails at fails it all. -/
theorem insertItems_error {rows : List (PayoutAccount × Int)} {items : Table PayoutItem}
    (apart : rows.Pairwise fun a b => a.1.creatorId ≠ b.1.creatorId)
    {bad : PayoutAccount × Int} (member : bad ∈ rows)
    (fails : maxBigint < bad.2 ∨ blocked runId month currency items bad = true) :
    ∃ error, insertItems (newItem runId month currency now) rows items = .error error := by
  induction rows generalizing items with
  | nil => cases member
  | cons row rest ih =>
      obtain ⟨others, restApart⟩ := List.pairwise_cons.mp apart
      have first := insertItem_newItem runId month currency now items row
      by_cases large : maxBigint < row.2
      · rw [if_pos large] at first
        exact ⟨.outOfRange, insertItems_fails first⟩
      · rw [if_neg large] at first
        by_cases valid : ¬ (newItem runId month currency now row).valid = true
        · rw [if_pos valid] at first
          exact ⟨.checkViolation, insertItems_fails first⟩
        · rw [if_neg valid] at first
          by_cases already : inRun items runId row.1.creatorId currency = true
          · rw [if_pos already] at first
            rw [insertItems_none first]
            rcases List.mem_cons.mp member with rfl | later
            · rcases fails with large' | held
              · exact absurd large' large
              · simp [blocked, already] at held
            · exact ih restApart later fails
          · rw [if_neg already] at first
            by_cases held : blocked runId month currency items row = true
            · rw [if_pos held] at first
              exact ⟨.uniqueViolation, insertItems_fails first⟩
            · rw [if_neg held] at first
              rcases List.mem_cons.mp member with rfl | later
              · rcases fails with large' | held'
                · exact absurd large' large
                · exact absurd held' held
              · have still : maxBigint < bad.2 ∨ blocked runId month currency
                    (items.insert (newItem runId month currency now row)) bad = true := by
                  rw [blocked_insert runId month currency now (others bad later)]
                  exact fails
                obtain ⟨error, failed⟩ := ih restApart later still
                rw [insertItems_some first, failed]
                exact ⟨error, rfl⟩

/-- The new ids are nobody's yet, so every reservation is entered. -/
theorem insertReservations_ok {rows : List (PayoutAccount × Int)} (items : Table PayoutItem)
    (entries : Table LedgerEntry) (fits : ∀ row ∈ rows, row.2 ≠ 0)
    (fresh : ∀ i entry itemId, entries.get i = some entry →
      entry.idempotencyKey = .reservation itemId → itemId < items.next) :
    insertReservations now (placed runId month currency now rows items) entries =
      .ok ((placed runId month currency now rows items).foldl
        (fun entries row => entries.insert (reservation now row)) entries) := by
  induction rows generalizing items entries with
  | nil => rfl
  | cons row rest ih =>
      have nonzero : (reservation now (items.next, newItem runId month currency now row)).amountCents
          ≠ 0 := by
        exact Int.neg_ne_zero.mpr (fits row List.mem_cons_self)
      have unused : (entries.first fun other => other.idempotencyKey ==
          (reservation now (items.next, newItem runId month currency now row)).idempotencyKey).isSome
            = false := by
        rw [← Bool.not_eq_true, Table.first_isSome_iff]
        rintro ⟨i, entry, found, same⟩
        have before := fresh i entry items.next found (by simpa [reservation] using same)
        exact Nat.lt_irrefl _ before
      simp only [placed, insertReservations, List.foldl_cons, insertEntry, nonzero, unused,
        if_false, Bool.false_eq_true, bind, Except.bind]
      refine ih _ _ (fun other member => fits other (List.mem_cons_of_mem row member)) ?_
      intro i entry itemId found key
      rcases Table.get_insert_row found with ⟨_, rfl⟩ | old
      · obtain rfl := EntryKey.reservation.inj key
        exact Nat.lt_succ_self _
      · exact Nat.lt_succ_of_lt (fresh i entry itemId old key)

/-- Reserving balance by balance comes to the same. -/
theorem foldl_reserve (rows : List (PayoutAccount × Int)) (db : Books) :
    rows.foldl (reserve (newItem runId month currency now) now) db =
      { db with
        items := rows.foldl
          (fun items row => items.insert (newItem runId month currency now row)) db.items
        entries := (placed runId month currency now rows db.items).foldl
          (fun entries row => entries.insert (reservation now row)) db.entries } := by
  induction rows generalizing db with
  | nil => rfl
  | cons row rest ih =>
      rw [List.foldl_cons, ih]
      rfl

end Insert

/-! ### The transfers come to an end -/

/-- An item that is still due was due before, and is not among the requests. -/
def LeftDue (before : Table PayoutItem) (now : Time) (requests : List (ItemId × PayoutItem))
    (items : Table PayoutItem) : Prop :=
  ∀ id item, items.get id = some item → item.due now = true →
    id ∉ requests.map Prod.fst ∧ ∃ old, before.get id = some old ∧ old.due now = true

theorem LeftDue.patch {before items : Table PayoutItem} {now : Time}
    {requests : List (ItemId × PayoutItem)} (left : LeftDue before now requests items)
    (key : ItemId) {f : PayoutItem → PayoutItem}
    (settles : ∀ item, (f item).due now = true → f item = item) :
    LeftDue before now requests (items.patch key f) := by
  intro id item found due
  rw [Table.get_patch] at found
  split at found
  · obtain ⟨old, present, rfl⟩ := Option.map_eq_some_iff.mp found
    have same := settles old due
    rw [same] at due
    exact left id old present due
  · exact left id item found due

theorem sending_undue {now : Time} {item : PayoutItem} (sending : item.status = .sending)
    (updated : item.updatedAt = now) : item.due now = false := by
  simp [PayoutItem.due, sending, updated]

theorem LeftDue.transfer {before : Table PayoutItem} {now : Time}
    {requests : List (ItemId × PayoutItem)} {db : Books} (left : LeftDue before now requests db.items)
    (gateway : ItemId × PayoutItem → Option StripeId) (request : ItemId × PayoutItem) :
    LeftDue before now requests (Api.transfer gateway now db request).items := by
  unfold Api.transfer
  split
  · refine left.patch request.1 ?_
    intro item due
    have later : now < now + 1000 * 2 ^ min request.2.attempts 8 :=
      Nat.lt_add_of_pos_right (Nat.mul_pos (by omega) (Nat.pow_pos (by omega)))
    by_cases failed : 10 ≤ request.2.attempts
    · simp [PayoutItem.due, failed] at due
    · simp [PayoutItem.due, failed] at due
  · unfold markPaid
    split
    · exact left
    · refine left.patch request.1 ?_
      intro item due
      split at due
      · simp [PayoutItem.due] at due
      · rename_i still
        rw [if_neg still]

theorem LeftDue.foldl {before : Table PayoutItem} {now : Time}
    {requests : List (ItemId × PayoutItem)} (gateway : ItemId × PayoutItem → Option StripeId)
    (some : List (ItemId × PayoutItem)) {db : Books} (left : LeftDue before now requests db.items) :
    LeftDue before now requests (some.foldl (Api.transfer gateway now) db).items := by
  induction some generalizing db with
  | nil => exact left
  | cons request rest ih => exact ih (left.transfer gateway request)

/-- Claimed items are sending, as of now. -/
theorem claimed_items (now : Time) (claimed : List (ItemId × PayoutItem))
    (items : Table PayoutItem) (id : ItemId) (item : PayoutItem)
    (found : (claimed.foldl (fun items row => items.patch row.1 fun item =>
      { item with status := .sending, attempts := row.2.attempts + 1, updatedAt := now })
        items).get id = some item) :
    item.status = .sending ∧ item.updatedAt = now ∨
      id ∉ claimed.map Prod.fst ∧ items.get id = some item := by
  induction claimed generalizing items with
  | nil => exact Or.inr ⟨List.not_mem_nil, found⟩
  | cons row rest ih =>
      rw [List.foldl_cons] at found
      rcases ih _ found with sending | ⟨unclaimed, there⟩
      · exact Or.inl sending
      · rw [Table.get_patch] at there
        split at there
        · obtain ⟨old, _, rfl⟩ := Option.map_eq_some_iff.mp there
          exact Or.inl ⟨rfl, rfl⟩
        · rename_i apart
          refine Or.inr ⟨?_, there⟩
          rw [List.map_cons, List.mem_cons, not_or]
          exact ⟨apart, unclaimed⟩

theorem claimTransfers_left (db : Books) (now : Time) (limit : Nat) :
    LeftDue db.items now (claimTransfers db now limit).2 (claimTransfers db now limit).1.items := by
  intro id item found due
  have sameIds : (claimTransfers db now limit).2.map Prod.fst =
      (dueItems db.items now limit).map Prod.fst := by
    simp [claimTransfers, Function.comp_def]
  rw [sameIds]
  rcases claimed_items now _ db.items id item found with ⟨sending, updated⟩ | ⟨unclaimed, there⟩
  · rw [sending_undue sending updated] at due
    cases due
  · exact ⟨unclaimed, item, there, due⟩

/-- Each round leaves fewer items due than it found, if its batch was full. -/
theorem round_fewer (gateway : ItemId × PayoutItem → Option StripeId) (now : Time) (db : Books)
    (full : ¬ (claimTransfers db now 25).2.length < 25) :
    (((claimTransfers db now 25).2.foldl (transfer gateway now)
      (claimTransfers db now 25).1).items.ids (PayoutItem.due now)).card <
        (db.items.ids (PayoutItem.due now)).card := by
  have left := (claimTransfers_left db now 25).foldl gateway (claimTransfers db now 25).2
  have requested : ∃ row, row ∈ dueItems db.items now 25 := by
    refine List.exists_mem_of_length_pos ?_
    have same : (claimTransfers db now 25).2.length = (dueItems db.items now 25).length :=
      List.length_map _
    omega
  obtain ⟨⟨id, item⟩, member⟩ := requested
  have taken := (List.mem_insertionSort _).mp (List.mem_of_mem_take member)
  obtain ⟨found, due⟩ := (db.items.mem_query _ id item).mp taken
  apply Finset.card_lt_card
  refine Finset.ssubset_iff_of_subset ?_ |>.mpr ⟨id, ?_, ?_⟩
  · intro other still
    obtain ⟨row, there, isDue⟩ := (Table.mem_ids _ _ other).mp still
    obtain ⟨_, old, was, wasDue⟩ := left other row there isDue
    exact (Table.mem_ids _ _ other).mpr ⟨old, was, wasDue⟩
  · exact (Table.mem_ids _ _ id).mpr ⟨item, found, due⟩
  · intro still
    obtain ⟨row, there, isDue⟩ := (Table.mem_ids _ _ id).mp still
    refine (left id row there isDue).1 (List.mem_map.mpr
      ⟨(id, { item with attempts := item.attempts + 1 }), ?_, rfl⟩)
    exact List.mem_map.mpr ⟨(id, item), member, rfl⟩

theorem transferAll_ends (gateway : ItemId × PayoutItem → Option StripeId) (now : Time)
    {rounds : Nat} {db : Books} (enough : (db.items.ids (PayoutItem.due now)).card < rounds) :
    ∃ after calls, transferAll gateway now rounds db = some (after, calls) ∧
      .claimTransfers ∈ calls := by
  induction rounds generalizing db with
  | zero => cases enough
  | succ rounds ih =>
      unfold transferAll
      dsimp only
      split
      · exact ⟨_, _, rfl, List.mem_cons_self⟩
      · rename_i full
        have fewer := round_fewer gateway now db full
        obtain ⟨after, calls, ended, _⟩ := ih (Nat.lt_of_lt_of_le fewer (Nat.le_of_lt_succ enough))
        rw [ended]
        exact ⟨after, .claimTransfers :: calls, rfl, List.mem_cons_self⟩

theorem card_ids_le {α : Type} (t : Table α) (p : α → Bool) : (t.ids p).card ≤ t.rows.length :=
  calc (t.ids p).card
      ≤ ((t.query p).map Prod.fst).length := List.toFinset_card_le _
    _ = (t.query p).length := List.length_map _
    _ ≤ t.rows.length := List.length_filter_le _ _

/-! ### Every ledger -/

section Run

variable {s : Service} {db : Books} {clock : Clock}

theorem eligible_apart (sound : db.Sound) :
    (eligible db s.currency s.minimum clock.now).Pairwise fun a b =>
      a.1.creatorId ≠ b.1.creatorId :=
  List.pairwise_map.mpr (sound.account.filter _)

theorem eligible_minimum {row : PayoutAccount × Int}
    (member : row ∈ eligible db s.currency s.minimum clock.now) : s.minimum ≤ row.2 := by
  obtain ⟨account, collected, rfl⟩ := List.mem_map.mp member
  have kept := (List.mem_filter.mp collected).2
  simp only [Bool.and_eq_true, decide_eq_true_eq] at kept
  exact kept.2

/-- Where nobody is held up, those to be paid are those the statement adds. -/
theorem payable_eq (unblocked : s.Unblocked db clock) :
    s.payable db clock = added (s.openRun db clock).2 s.currency db.items
      (eligible db s.currency s.minimum clock.now) := by
  unfold Service.payable added eligible
  rw [List.filter_map]
  refine congrArg _ ?_
  unfold Table.query
  rw [List.filter_filter]
  refine List.filter_congr ?_
  rintro ⟨id, account⟩ member
  simp only [Function.comp]
  by_cases active : account.transfersStatus = "active"
  · by_cases enough : s.minimum ≤ available db account.creatorId s.currency clock.now
    · -- A positive balance has entries.
      have credited : (db.entries.first
          (LedgerEntry.counts account.creatorId s.currency clock.now)).isSome = true := by
        by_contra uncredited
        have none := Option.not_isSome_iff_eq_none.mp uncredited
        have zero : available db account.creatorId s.currency clock.now = 0 := by
          refine Table.total_zero ?_
          intro id entry found counts
          rw [Table.first_none none found] at counts
          cases counts
        have := s.positive
        omega
      have listed : (account, available db account.creatorId s.currency clock.now) ∈
          eligible db s.currency s.minimum clock.now :=
        List.mem_map.mpr ⟨(id, account), List.mem_filter.mpr
          ⟨member, by simp [active, enough, credited]⟩, rfl⟩
      rcases (unblocked.2 _ listed).2 with already | ⟨settled, _⟩
      · simp [already]
      · simp [active, enough, credited, settled]
    · simp [enough]
  · have other : (account.transfersStatus == "active") = false := beq_eq_false_iff_ne.mpr active
    simp only [other, Bool.false_and, Bool.and_false]

theorem period_before (s : Service) (clock : Clock) : (s.period clock).1 < (s.period clock).2 :=
  Int.sub_one_lt_of_le (Int.le_refl _)

theorem upsertRun_ok (valid : validCurrency s.currency = true) :
    upsertRun db.runs (s.period clock).1 (s.period clock).2 s.currency clock.now =
      .ok (s.openRun db clock) := by
  unfold upsertRun
  rw [if_neg (by simp [period_before, valid])]
  rfl

theorem Service.Unblocked.createRun (sound : db.Sound) (unblocked : s.Unblocked db clock) :
    s.createRun db clock = .ok (s.reserved db clock) := by
  have positive (row : PayoutAccount × Int)
      (member : row ∈ eligible db s.currency s.minimum clock.now) : 0 < row.2 :=
    Int.lt_of_lt_of_le s.positive (eligible_minimum member)
  have inserted := insertItems_ok (s.openRun db clock).2 (s.period clock).1 s.currency clock.now
    db.items (eligible_apart sound) unblocked.1
    (fun row member => ⟨positive row member, (unblocked.2 row member).1⟩) ?_
  · have reservations := @insertReservations_ok (s.openRun db clock).2 (s.period clock).1 s.currency
      clock.now (s.payable db clock) db.items db.entries ?_ ?_
    · unfold Service.createRun createMonthlyRun
      rw [upsertRun_ok unblocked.1]
      simp only [bind, Except.bind, inserted]
      rw [← payable_eq unblocked, reservations]
      unfold Service.reserved
      rw [foldl_reserve]
    · intro row member
      rw [payable_eq unblocked] at member
      have := positive row (List.mem_of_mem_filter member)
      omega
    · intro i entry itemId found key
      exact sound.fresh (i, entry) ((db.entries.mem_rows_iff i entry).mpr found) itemId key
  · intro row member
    rcases (unblocked.2 row member).2 with already | ⟨settled, unkeyed⟩
    · simp [blocked, already]
    · simp [blocked, settled, unkeyed]

theorem Service.Unblocked.of_createRun (sound : db.Sound) {after : Books}
    (created : s.createRun db clock = .ok after) : s.Unblocked db clock := by
  unfold Service.createRun createMonthlyRun at created
  have valid : validCurrency s.currency = true := by
    by_contra invalid
    simp [upsertRun, invalid, bind, Except.bind] at created
  refine ⟨valid, ?_⟩
  rw [upsertRun_ok valid] at created
  by_contra held
  simp only [not_forall] at held
  obtain ⟨row, member, held⟩ := held
  have fails : maxBigint < row.2 ∨
      blocked (s.openRun db clock).2 (s.period clock).1 s.currency db.items row = true := by
    by_cases large : maxBigint < row.2
    · exact Or.inl large
    · refine Or.inr ?_
      have small : row.2 ≤ maxBigint := by omega
      simp only [small, true_and, not_or, not_and, Bool.not_eq_true, Bool.not_eq_false] at held
      cases unsettles : unsettled db.items row.1.creatorId s.currency with
      | true => simp [blocked, held.1, unsettles]
      | false => simp [blocked, held.1, held.2 unsettles]
  obtain ⟨error, failed⟩ := insertItems_error (s.openRun db clock).2 (s.period clock).1 s.currency
    clock.now (eligible_apart sound) member fails
  simp [bind, Except.bind, failed] at created

/-- The monthly run does what it is for exactly when nobody holds it up. -/
theorem monthly_run_settles (s : Service) {db : Books} (sound : db.Sound) (clock : Clock) :
    s.Settles db clock ↔ s.Unblocked db clock := by
  constructor
  · exact fun settles => .of_createRun sound settles.1
  · intro unblocked
    have created := unblocked.createRun sound
    refine ⟨created, ?_⟩
    intro gateway
    obtain ⟨after, calls, ended, claims⟩ := transferAll_ends gateway clock.now
      (Nat.lt_succ_of_le (card_ids_le (s.reserved db clock).items (PayoutItem.due clock.now)))
    have ran : s.runDue gateway db clock =
        some (finishRuns after clock.now, .createMonthlyRun :: calls ++ [.finishRuns]) := by
      unfold Service.runDue
      unfold Service.createRun at created
      simp only [created, ended, Option.map_some]
    exact ⟨_, _, ran, by simp [claims], by simp⟩

end Run

/-! ### Two creators -/

def sampleService : Service := ⟨"usd", 2500, 1, by decide⟩

/-- The second of the third month. -/
def sampleClock : Clock := ⟨9, 3, 2⟩

/-- Creators 7 and 8 are owed $30 each, and 7 has been paid before, or not. -/
def sampleBooks (status : ItemStatus) : Books :=
  { runs := Table.empty.insert ⟨1, 2, "usd", .processing, some 1, none⟩
    items := Table.empty.insert
      ⟨0, 7, 4000, "usd", 70, none, status, .monthly 7 1, 10, 1, none, none, 1⟩
    accounts := (Table.empty.insert ⟨7, 70, "active"⟩).insert ⟨8, 80, "active"⟩
    entries := (Table.empty.insert ⟨7, .earning, 3000, "usd", 5, none, .other [0]⟩).insert
      ⟨8, .earning, 3000, "usd", 5, none, .other [1]⟩ }

set_option maxRecDepth 20000 in
theorem sampleBooks_sound (status : ItemStatus) : (sampleBooks status).Sound := by
  constructor
  · show List.Pairwise _ [_, _]
    simp
  · exact List.pairwise_singleton _ _
  · exact List.pairwise_singleton _ _
  · exact List.pairwise_singleton _ _
  · exact List.pairwise_singleton _ _
  · exact List.pairwise_singleton _ _
  · intro row member
    obtain rfl := List.mem_singleton.mp member
    cases status <;> decide
  · show List.Pairwise _ [_, _]
    simp
  · cases status <;> decide
  · intro row member itemId key
    rcases List.mem_cons.mp member with rfl | later
    · cases key
    · obtain rfl := List.mem_singleton.mp later
      cases key

set_option maxRecDepth 20000 in
theorem monthly_run_settles_paid :
    (sampleBooks .paid).Sound ∧ sampleService.Settles (sampleBooks .paid) sampleClock :=
  ⟨sampleBooks_sound .paid,
    (monthly_run_settles sampleService (sampleBooks_sound .paid) sampleClock).mpr (by decide)⟩

set_option maxRecDepth 20000 in
/-- Creator 7's failed transfer holds up creator 8, and every other transfer. -/
theorem failed_payout_blocks :
    (sampleBooks .failed).Sound ∧ ¬ sampleService.Settles (sampleBooks .failed) sampleClock ∧
      ∀ gateway, (sampleService.runDue gateway (sampleBooks .failed) sampleClock).map Prod.snd =
        some [.createMonthlyRun] := by
  refine ⟨sampleBooks_sound .failed, ?_, fun _ => rfl⟩
  intro settles
  have unblocked := Service.Unblocked.of_createRun (sampleBooks_sound .failed) settles.1
  revert unblocked
  decide

end Bling.Api
