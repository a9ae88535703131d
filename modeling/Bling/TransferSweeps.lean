import Bling.PayoutRuns
import Bling.Sweeps

set_option autoImplicit false

namespace Bling

open Library

/-! Which payout items the payments sweep still takes up, and that an item it
takes up can be paid. -/

/-- How `dueTransfers` sweeps the items: an item with ten claims is passed over. -/
def transferSweep : Sweep PayoutItem PayoutItemStatus where
  kind item := item.status
  time item := item.nextAttemptAt
  live item := decide (item.attempts < maxTransferAttempts)
  limit := 50

def transferKinds : List PayoutItemStatus := [.reserved, .retry, .sending]

/-- What a claim makes of an item. -/
def takeTransfer (now : Time) (item : PayoutItem) : PayoutItem :=
  { item with
    status := .sending
    attempts := item.attempts + 1
    nextAttemptAt := now + transferLeaseMs }

theorem claimTransfer_takes {ctx : Ctx} {db : DB} {id : ItemId} {item : PayoutItem}
    (present : db.payoutItems.get id = some item) (unspent : item.attempts < maxTransferAttempts)
    (isDue : transferDue ctx.now item = true) : claimTransfer ctx db id =
      ({ db with payoutItems := db.payoutItems.patch id (takeTransfer ctx.now) },
        some (takeTransfer ctx.now item)) := by
  have patched : db.payoutItems.patch id (takeTransfer ctx.now) =
      db.payoutItems.patch id fun i =>
        { i with
          status := .sending
          attempts := item.attempts + 1
          nextAttemptAt := ctx.now + transferLeaseMs } := by
    apply Table.patch_congr
    intro a found
    obtain rfl := Option.some.inj (present.symm.trans found)
    rfl
  unfold claimTransfer
  rw [present]
  dsimp only
  rw [if_neg (by simp [isDue, unspent]), ← patched, Table.get_patch_self present]

theorem transferDue_of_swept {now : Time} {item : PayoutItem}
    (swept : transferSweep.kind item ∈ transferKinds) (timely : transferSweep.time item ≤ now) :
    transferDue now item = true := by
  simp only [transferSweep] at timely
  simp only [transferSweep, transferKinds, List.mem_cons, List.not_mem_nil, or_false] at swept
  simp only [transferDue]
  rcases swept with status | status | status <;> simp [status, timely]

/-- Every item that the code lists is claimed when its job runs. -/
theorem transferPart_sweeps : transferPart.Sweeps transferSweep transferKinds
    (fun db => db.payoutItems) takeTransfer where
  due _ _ := rfl
  distinct := by decide
  lists _ _ := rfl
  apart _ _ same := Job.transfer.inj same
  jobless _ _ := rfl
  later now _ := Nat.lt_add_of_pos_right (by decide : 0 < transferLeaseMs)
  claims w ctx id item present swept timely live := by
    have claimed := claimTransfer_takes present (of_decide_eq_true live)
      (transferDue_of_swept swept timely)
    refine ⟨?_, ?_, ?_⟩
    · simp only [transferPart, claimed, Option.isSome_some]
    all_goals
      simp only [transferPart, World.runJob, claimed, World.mutate, World.fly, Mutation.apply]

/-! ### Claims are counted -/

/-- A claim that leaves no further one. -/
def lastTransferClaim (ctx : Ctx) (db : DB) : Mutation → Bool
  | .claimTransfer itemId => (db.payoutItems.get itemId).any fun item =>
    transferDue ctx.now item && item.attempts + 1 == maxTransferAttempts
  | _ => false

def ItemClaimed (ctx : Ctx) (m : Mutation) (id : ItemId) (before after : PayoutItem) : Prop :=
  after.attempts = before.attempts ∨
    m = .claimTransfer id ∧ transferDue ctx.now before = true ∧
      after.attempts = before.attempts + 1

theorem ItemClaimed.refl (ctx : Ctx) (m : Mutation) (id : ItemId) (item : PayoutItem) :
    ItemClaimed ctx m id item item := Or.inl rfl

theorem turns_claimless {ctx : Ctx} {runId : RunId} {payoutRun : PayoutRun} {before after : DB}
    (turns : Relation.ReflTransGen (Turn ctx runId payoutRun) before after) {id : ItemId}
    {item : PayoutItem} (found : after.payoutItems.get id = some item) :
    before.payoutItems.get id = some item ∨ item.attempts = 0 := by
  induction turns with
  | refl => exact Or.inl found
  | tail _ turn ih =>
      rcases turn with same | ⟨account, cents, reserves⟩
      · rw [same.payoutItems] at found
        exact ih found
      · rw [reserves.items] at found
        rcases Table.get_insert_row found with ⟨_, rfl⟩ | present
        · exact Or.inr rfl
        · exact ih present

/-- Only a claim counts against an item. -/
theorem Effect.item_claims {ctx : Ctx} {db after : DB} {m : Mutation}
    (effect : Effect ctx db m after) {id : ItemId} {b : PayoutItem}
    (found : after.payoutItems.get id = some b) :
    (∃ a, db.payoutItems.get id = some a ∧ ItemClaimed ctx m id a b) ∨ b.attempts = 0 := by
  have kept (was : db.payoutItems.get id = some b) :
      (∃ a, db.payoutItems.get id = some a ∧ ItemClaimed ctx m id a b) ∨ b.attempts = 0 :=
    Or.inl ⟨b, was, Or.inl rfl⟩
  cases effect with
  | selected showId hotline entryId entry mode attempt asked host live idle present inShow waiting
      held paid same =>
      have items := same.payoutItems
      cases attempt <;> (rw [items] at found; exact kept found)
  | reserved runId payoutRun entries payoutItems payoutRuns cursor asked present each turns
      same =>
      rcases turns_claimless turns found with was | none
      · exact kept was
      · exact Or.inr none
  | itemClaimed itemId item asked present due same =>
      rw [same.payoutItems] at found
      rcases Table.get_patch_row present found with ⟨rfl, rfl⟩ | ⟨_, was⟩
      · exact Or.inl ⟨item, present, Or.inr ⟨asked, due, rfl⟩⟩
      · exact kept was
  | itemPaid itemId item transferId asked present sending same =>
      rw [same.payoutItems] at found
      rcases Table.get_patch_row present found with ⟨rfl, rfl⟩ | ⟨_, was⟩
      · exact Or.inl ⟨item, present, Or.inl rfl⟩
      · exact kept was
  | itemRetried itemId item status failureCode nextAttemptAt processedAt present sending again
      same =>
      rw [same.payoutItems] at found
      rcases Table.get_patch_row present found with ⟨rfl, rfl⟩ | ⟨_, was⟩
      · exact Or.inl ⟨item, present, Or.inl rfl⟩
      · exact kept was
  | _ =>
      rename_i same
      rw [same.payoutItems] at found
      exact kept found

def ItemsUnspent (db : DB) : Prop :=
  ∀ id item, db.payoutItems.get id = some item → item.attempts < maxTransferAttempts

theorem ItemsUnspent.mutation {db : DB} (unspent : ItemsUnspent db) (ctx : Ctx) (m : Mutation)
    (further : lastTransferClaim ctx db m = false) : ItemsUnspent (m.apply ctx db) := by
  intro id item found
  rcases (m.effect ctx db).item_claims found with
    ⟨before, present, same | ⟨rfl, due, counted⟩⟩ | none
  · rw [same]
    exact unspent id before present
  · have below := unspent id before present
    simp only [lastTransferClaim, present, Option.any_some, due, Bool.true_and,
      beq_eq_false_iff_ne] at further
    omega
  · rw [none]
    decide

theorem ItemsUnspent.run {inputs : List (Ctx × Op)}
    (guarded : Along World.step
      (World.Meets fun ctx db m => lastTransferClaim ctx db m = false) World.empty inputs) :
    ItemsUnspent (run World.step World.empty inputs).db := by
  have jobless : World.Unscheduled ItemsUnspent := fun _ _ => Iff.rfl
  have aware : World.Unscheduled fun _ => True := fun _ _ => Iff.rfl
  have blind (ctx : Ctx) (m : Mutation) :
      World.Unscheduled fun db => lastTransferClaim ctx db m = false := by
    intro db jobs
    cases m <;> exact Iff.rfl
  have initial : ItemsUnspent .empty := by
    intro id item found
    cases found
  exact World.guarded_keeps jobless aware blind initial
    (fun ctx _ m _ unspent further => unspent.mutation ctx m further) (fun _ _ => trivial) guarded

/-! ### What a claim can lead to -/

/-- `finishRuns` looks at the run: it is one of the first twelve that are processing. -/
def finishes (db : DB) (runId : RunId) : Prop :=
  runId ∈ ((db.payoutRuns.query fun r => r.status == .processing).take 12).map Prod.fst

/-- Nothing of the run is in flight. -/
def RunIdle (db : DB) (runId : RunId) : Prop :=
  ∀ id item, db.payoutItems.get id = some item → item.runId = runId → item.status ∉ inFlight

theorem finishRun_closes (ctx : Ctx) {db : DB} {runId : RunId} {payoutRun : PayoutRun}
    (present : db.payoutRuns.get runId = some payoutRun) (idle : RunIdle db runId) :
    ∃ r, (finishRun ctx db runId).payoutRuns.get runId = some r ∧ r.status ≠ .processing := by
  have grounded {status : PayoutItemStatus} (flying : status ∈ inFlight) :
      ¬ (db.payoutItems.first fun i => i.runId == runId && i.status == status).isSome := by
    intro some
    obtain ⟨row, hit⟩ := Option.isSome_iff_exists.mp some
    obtain ⟨found, matched⟩ := Table.first_row hit
    simp only [Bool.and_eq_true, beq_iff_eq] at matched
    exact idle row.1 row.2 found matched.1 (matched.2 ▸ flying)
  unfold finishRun
  dsimp only
  split
  · rename_i flying
    rcases flying with hit | hit | hit
    · exact absurd hit (grounded (by decide))
    · exact absurd hit (grounded (by decide))
    · exact absurd hit (grounded (by decide))
  · refine ⟨_, Table.get_patch_self present _, ?_⟩
    dsimp only
    split <;> decide

/-- A turn leaves the items alone, and a closed run closed. -/
theorem finishRun_keeps (ctx : Ctx) {db : DB} (other : RunId) {runId : RunId} {r : PayoutRun}
    (found : db.payoutRuns.get runId = some r) :
    (finishRun ctx db other).payoutItems = db.payoutItems ∧
      ∃ next, (finishRun ctx db other).payoutRuns.get runId = some next ∧
        (r.status ≠ .processing → next.status ≠ .processing) := by
  rcases finishRun_cases ctx db other with unchanged | ⟨moved, patched, finished⟩
  · rw [unchanged]
    exact ⟨rfl, r, found, id⟩
  · rw [patched]
    refine ⟨rfl, ?_⟩
    dsimp only
    rw [Table.get_patch]
    split
    · rw [found]
      refine ⟨moved r, rfl, fun _ => ?_⟩
      rcases (finished r).status with ⟨closed, _⟩ | ⟨closed, _⟩
      · rw [closed]
        decide
      · rw [closed]
        decide
    · exact ⟨r, found, id⟩

theorem foldl_finishRun_closes (ctx : Ctx) (runs : List RunId) {db : DB} {runId : RunId}
    {r : PayoutRun} (found : db.payoutRuns.get runId = some r) (idle : RunIdle db runId)
    (settled : r.status ≠ .processing ∨ runId ∈ runs) :
    ∃ r, (runs.foldl (finishRun ctx) db).payoutRuns.get runId = some r ∧
      r.status ≠ .processing := by
  induction runs generalizing db r with
  | nil =>
      rcases settled with closed | member
      · exact ⟨r, found, closed⟩
      · cases member
  | cons other rest ih =>
      rw [List.foldl_cons]
      obtain ⟨items, next, there, kept⟩ := finishRun_keeps ctx other found
      have idleStill : RunIdle (finishRun ctx db other) runId := by
        intro id item held
        rw [items] at held
        exact idle id item held
      apply ih there idleStill
      rcases settled with closed | member
      · exact Or.inl (kept closed)
      · rcases List.mem_cons.mp member with rfl | member
        · obtain ⟨last, same, closed⟩ := finishRun_closes ctx found idle
          obtain rfl := Option.some.inj (there.symm.trans same)
          exact Or.inl closed
        · exact Or.inr member

/-- An idle run that is looked at is closed. -/
theorem finishRuns_closes (ctx : Ctx) {db : DB} {runId : RunId} {payoutRun : PayoutRun}
    (present : db.payoutRuns.get runId = some payoutRun) (idle : RunIdle db runId)
    (looked : finishes db runId) :
    ∃ r, (finishRuns ctx db).payoutRuns.get runId = some r ∧ r.status ≠ .processing :=
  foldl_finishRun_closes ctx _ present idle (Or.inr looked)

/-- The item is paid, and finishing the runs now closes its run, unless another
item is in flight in it or twelve older runs are processing. -/
structure PaidOff (w : World) (ctx : Ctx) (itemId : ItemId) (runId : RunId) : Prop where
  paid : ∃ item, w.db.payoutItems.get itemId = some item ∧ item.status = .paid
  scheduled : (ctx.now, .finishRuns) ∈ w.db.scheduled
  closes : RunIdle w.db runId → finishes w.db runId →
    ∃ r, (w.step (ctx, .runJob ctx.now .finishRuns)).db.payoutRuns.get runId = some r ∧
      r.status ≠ .processing

def claiming (ctx : Ctx) (itemId : ItemId) : List (Ctx × Op) :=
  [(ctx, .sweepTransfers ctx.now), (ctx, .runJob ctx.now (.transfer itemId))]

/-- The rest of a worker that Stripe answers. -/
def paying (ctx : Ctx) (itemId : ItemId) (item : PayoutItem) (transferId : StripeId) :
    List (Ctx × Op) :=
  [(ctx, .advance (.transferring itemId item) .answered .pending),
    (ctx, .advance (.markingPaid itemId transferId) .answered .pending)]

theorem sweep_flies {w : World} {ctx : Ctx} {itemId : ItemId} {item : PayoutItem}
    (present : w.db.payoutItems.get itemId = some item)
    (listed : itemId ∈ dueTransfers w.db ctx.now) :
    let after := run World.step w (claiming ctx itemId)
    after.db.payoutItems = w.db.payoutItems.patch itemId (takeTransfer ctx.now) ∧
      after.db.payoutRuns = w.db.payoutRuns ∧
      .transferring itemId (takeTransfer ctx.now item) ∈ after.flights := by
  have isDue : itemId ∈ transferSweep.due transferKinds w.db.payoutItems ctx.now := listed
  obtain ⟨found, same, swept, timely, live, _⟩ := Sweep.mem_due.mp isDue
  obtain rfl := Option.some.inj (present.symm.trans same)
  let swept' := w.scheduleAll ctx ((dueTransfers w.db ctx.now).map .transfer)
  have scheduled : swept'.db = { w.db with scheduled :=
      w.db.scheduled ++ ((dueTransfers w.db ctx.now).map Job.transfer).map fun job =>
        (ctx.now, job) } := SweepPart.scheduleAll_db ctx w _
  have runs : (ctx.now, .transfer itemId) ∈ swept'.db.scheduled ∧ ctx.now ≤ ctx.now := by
    rw [scheduled]
    simp [listed]
  let started : World :=
    { swept' with db := { swept'.db with
      scheduled := swept'.db.scheduled.erase (ctx.now, .transfer itemId) } }
  have items : started.db.payoutItems = w.db.payoutItems :=
    congrArg (fun db => db.payoutItems) scheduled
  have payoutRuns : started.db.payoutRuns = w.db.payoutRuns :=
    congrArg (fun db => db.payoutRuns) scheduled
  have claimed : claimTransfer ctx started.db itemId =
      ({ started.db with
          payoutItems := started.db.payoutItems.patch itemId (takeTransfer ctx.now) },
        some (takeTransfer ctx.now item)) :=
    claimTransfer_takes (items ▸ present) (of_decide_eq_true live)
      (transferDue_of_swept swept timely)
  have stepped : swept'.step (ctx, .runJob ctx.now (.transfer itemId)) =
      (started.mutate ctx (.claimTransfer itemId)).fly
        (.transferring itemId (takeTransfer ctx.now item)) := by
    have job : swept'.step (ctx, .runJob ctx.now (.transfer itemId)) =
        started.runJob ctx (.transfer itemId) := if_pos runs
    rw [job]
    simp only [World.runJob, claimed]
  intro after
  have reaches : after = swept'.step (ctx, .runJob ctx.now (.transfer itemId)) := rfl
  rw [reaches, stepped]
  simp only [World.mutate, World.fly, Mutation.apply, claimed]
  exact ⟨by rw [items], payoutRuns, by simp⟩

/-- A worker that Stripe answers pays its item. -/
theorem transfer_pays {w : World} {ctx : Ctx} {itemId : ItemId} {item : PayoutItem}
    (present : w.db.payoutItems.get itemId = some item) (sending : item.status = .sending)
    (flying : .transferring itemId item ∈ w.flights) {runId : RunId} {payoutRun : PayoutRun}
    (found : w.db.payoutRuns.get runId = some payoutRun) :
    ∃ transferId,
      PaidOff (run World.step w (paying ctx itemId item transferId)) ctx itemId runId := by
  let sent := w.stripe.createTransfer itemId item
  let sending' : World :=
    { (w.land (.transferring itemId item)) with stripe := sent.1 }.fly (.markingPaid itemId sent.2)
  have sends : w.step (ctx, .advance (.transferring itemId item) .answered .pending) = sending' :=
    if_pos flying
  have marks : sending'.step (ctx, .advance (.markingPaid itemId sent.2) .answered .pending) =
      (sending'.land (.markingPaid itemId sent.2)).mutate ctx (.markPaid itemId sent.2) :=
    if_pos (List.mem_append_right _ (List.mem_singleton_self _))
  have pays : markPaid ctx w.db itemId sent.2 =
      { w.db with payoutItems := w.db.payoutItems.patch itemId fun i =>
        { i with
          status := .paid
          stripeTransferId := some sent.2
          failureCode := none
          processedAt := some ctx.now } }.runAfter ctx.now 0 .finishRuns := by
    unfold markPaid
    rw [if_pos (by simp [present, sending])]
  refine ⟨sent.2, ?_⟩
  rw [paying, run_cons, run_cons, run_nil, sends, marks]
  have db : ((sending'.land (.markingPaid itemId sent.2)).mutate ctx
      (.markPaid itemId sent.2)).db = markPaid ctx w.db itemId sent.2 := rfl
  have scheduled : (ctx.now, .finishRuns) ∈ ((sending'.land (.markingPaid itemId sent.2)).mutate ctx
      (.markPaid itemId sent.2)).db.scheduled := by
    rw [db, pays]
    simp [DB.runAfter, DB.runAt]
  generalize (sending'.land (.markingPaid itemId sent.2)).mutate ctx
    (.markPaid itemId sent.2) = after at db scheduled
  refine ⟨?_, scheduled, ?_⟩
  · rw [db, pays]
    exact ⟨_, Table.get_patch_self present _, rfl⟩
  · intro idle looked
    have runs : after.step (ctx, .runJob ctx.now .finishRuns) =
        { after with db := { after.db with
          scheduled := after.db.scheduled.erase (ctx.now, .finishRuns) } }.mutate ctx
            .finishRuns := if_pos ⟨scheduled, Nat.le_refl _⟩
    rw [runs]
    have there : after.db.payoutRuns.get runId = some payoutRun := by
      rw [db, pays]
      exact found
    let jobless : DB :=
      { after.db with scheduled := after.db.scheduled.erase (ctx.now, .finishRuns) }
    have idleHere : RunIdle jobless runId := idle
    have lookedHere : finishes jobless runId := looked
    have thereHere : jobless.payoutRuns.get runId = some payoutRun := there
    exact finishRuns_closes ctx thereHere idleHere lookedHere

theorem runId_kept {w : World} {id : ItemId} {a b : PayoutItem} {inputs : List (Ctx × Op)}
    (present : w.db.payoutItems.get id = some a)
    (found : (run World.step w inputs).db.payoutItems.get id = some b) : b.runId = a.runId := by
  induction inputs generalizing w a with
  | nil =>
      obtain rfl := Option.some.inj (present.symm.trans found)
      rfl
  | cons input rest ih =>
      obtain ⟨next, kept, same, _⟩ := step_persists w input id a present
      exact (ih kept found).trans same.runId

/-- A sweep that lists the item can lead to its payment. -/
theorem listed_pays {w : World} (reached : World.Reached w) {ctx : Ctx} {itemId : ItemId}
    {item : PayoutItem} (present : w.db.payoutItems.get itemId = some item)
    (listed : itemId ∈ dueTransfers w.db ctx.now) :
    ∃ more, PaidOff (run World.step w more) ctx itemId item.runId := by
  obtain ⟨items, runs, flying⟩ := sweep_flies present listed
  obtain ⟨payoutRun, found⟩ := (RunsTruthful.reached reached).belongs itemId item present
  have taken : (run World.step w (claiming ctx itemId)).db.payoutItems.get itemId =
      some (takeTransfer ctx.now item) := by
    rw [items, Table.get_patch_self present]
  obtain ⟨transferId, paid⟩ := transfer_pays taken rfl flying (runs ▸ found)
  rw [← run_append] at paid
  exact ⟨_, paid⟩

/-! ### No payout is left in flight -/

/-- The item is still taken up, and may then be paid and its run closed. -/
structure Deliverable (w : World) (itemId : ItemId) (runId : RunId) : Prop where
  takenUp : transferPart.TakesUp w itemId
  payable : ∃ more ctx, PaidOff (run World.step w more) ctx itemId runId

/-- Every item in flight is still taken up. -/
def TransfersTakenUp (w : World) : Prop :=
  ∀ id item, w.db.payoutItems.get id = some item → item.status ∈ inFlight →
    Deliverable w id item.runId

theorem SweepPart.rounds_run (part : SweepPart) (clock : Nat → Ctx) (w : World) (k : Nat) :
    ∃ inputs, part.rounds clock w k = run World.step w inputs := by
  induction k with
  | zero => exact ⟨[], rfl⟩
  | succ k ih =>
      obtain ⟨inputs, same⟩ := ih
      let ctx := clock k
      let jobs := (part.due (part.rounds clock w k).db ctx.now).map fun id =>
        (ctx, Op.runJob ctx.now (part.job id))
      have next : part.rounds clock w (k + 1) =
          run World.step (part.rounds clock w k) ((ctx, part.op ctx.now) :: jobs) := rfl
      refine ⟨inputs ++ (ctx, part.op ctx.now) :: jobs, ?_⟩
      rw [next, run_append, ← same]

theorem Deliverable.of_takenUp {w : World} (reached : World.Reached w) {id : ItemId}
    {item : PayoutItem} (present : w.db.payoutItems.get id = some item)
    (takenUp : transferPart.TakesUp w id) : Deliverable w id item.runId := by
  refine ⟨takenUp, ?_⟩
  obtain ⟨time, sweeping⟩ := takenUp
  let clock (_ : Nat) : Ctx := ⟨time, World.sampleEnv⟩
  obtain ⟨k, listed, _⟩ := sweeping clock fun _ => Nat.le_refl time
  obtain ⟨before, same⟩ := transferPart.rounds_run clock w k
  rw [same] at listed
  have isDue : id ∈ transferSweep.due transferKinds (run World.step w before).db.payoutItems
      (clock k).now := listed
  obtain ⟨b, found, _⟩ := Sweep.mem_due.mp isDue
  obtain ⟨more, paid⟩ := listed_pays (reached.run before) found listed
  rw [runId_kept present found, ← run_append] at paid
  exact ⟨_, clock k, paid⟩

theorem transferKinds_of_flying {item : PayoutItem} (flying : item.status ∈ inFlight) :
    transferSweep.kind item ∈ transferKinds := by
  simp only [transferSweep]
  cases status : item.status <;> simp_all [inFlight, transferKinds]

/-- In every reachable state an item in flight is taken up, and can be paid,
exactly when it has been claimed less than ten times and fewer than fifty items
with ten claims stand before it; and so it is in every run that makes no tenth
claim. -/
theorem transfers_taken_up (inputs : List (Ctx × Op)) :
    (∀ id item, (run World.step World.empty inputs).db.payoutItems.get id = some item →
      item.status ∈ inFlight →
      (Deliverable (run World.step World.empty inputs) id item.runId ↔
        item.attempts < maxTransferAttempts ∧
          (transferSweep.spentAhead (run World.step World.empty inputs).db.payoutItems
            (id, item)).card < 50)) ∧
    (Along World.step
        (World.Meets fun ctx db m => lastTransferClaim ctx db m = false) World.empty inputs →
      TransfersTakenUp (run World.step World.empty inputs)) := by
  have reached : World.Reached (run World.step World.empty inputs) := ⟨inputs, rfl⟩
  have upTo {id : ItemId} {item : PayoutItem}
      (present : (run World.step World.empty inputs).db.payoutItems.get id = some item)
      (flying : item.status ∈ inFlight) :=
    transferPart_sweeps.takesUp_iff present (transferKinds_of_flying flying)
  constructor
  · intro id item present flying
    have iff := upTo present flying
    simp only [transferSweep, decide_eq_true_eq] at iff
    constructor
    · intro deliverable
      exact iff.mp deliverable.takenUp
    · intro left
      exact .of_takenUp reached present (iff.mpr left)
  · intro guarded id item present flying
    have unspent := ItemsUnspent.run guarded
    have none : transferSweep.spentAhead (run World.step World.empty inputs).db.payoutItems
        (id, item) = ∅ := by
      apply Finset.eq_empty_of_forall_notMem
      intro key spent
      obtain ⟨other, found, _, _, noneLeft⟩ := Sweep.mem_spentAhead.mp spent
      have left := unspent key other found
      simp only [transferSweep, decide_eq_false_iff_not] at noneLeft
      exact noneLeft left
    have left := unspent id item present
    apply Deliverable.of_takenUp reached present
    rw [upTo present flying, none]
    simp only [transferSweep, decide_eq_true_eq]
    exact ⟨left, by decide⟩

/-- Ten days after the call, payouts from $1 on are due. -/
def payday : Ctx := ⟨10 * 86400000, { World.sampleEnv with creatorPayoutMinimumCents := some 100 }⟩

/-- The creator's earning is reserved, and the transfer is in the hands of its
first worker. -/
def firstSending : List (Ctx × Op) :=
  World.sampled (World.paid ++ World.starting) ++
    [(payday, .runDue), (payday, .runJob payday.now (.reserveBatch 0 none)),
      (payday, .runJob payday.now (.transfer 0))]

set_option maxRecDepth 20000 in
theorem transfers_taken_up_firstSending :
    TransfersTakenUp (run World.step World.empty firstSending) ∧
      ((run World.step World.empty firstSending).db.payoutItems.get 0).map
        (fun item => item.status) = some .sending :=
  ⟨(transfers_taken_up firstSending).2 (by decide), by decide⟩

/-- That worker dies, and so do the nine that sweeps start after it. -/
def tenSending : List (Ctx × Op) :=
  firstSending ++ [1, 2, 3, 4, 5, 6, 7, 8, 9].flatMap fun (k : Nat) =>
    let ctx : Ctx := { payday with now := payday.now + k * transferLeaseMs }
    [(ctx, .sweepTransfers ctx.now), (ctx, .runJob ctx.now (.transfer 0))]

set_option maxRecDepth 20000 in
/-- The item is then in flight for ever. -/
theorem transfer_stuck : ¬ ∀ inputs, TransfersTakenUp (run World.step World.empty inputs) := by
  intro always
  have stuck : ((run World.step World.empty tenSending).db.payoutItems.get 0).any
      (fun item => item.status == .sending && item.attempts == 10) = true := by decide
  obtain ⟨item, present, is⟩ := Option.any_eq_true _ _ |>.mp stuck
  simp only [Bool.and_eq_true, beq_iff_eq] at is
  have flying : item.status ∈ inFlight := by
    rw [is.1]
    decide
  have takenUp := (always tenSending 0 item present flying).takenUp
  rw [transferPart_sweeps.takesUp_iff present (transferKinds_of_flying flying)] at takenUp
  have left : item.attempts < maxTransferAttempts := of_decide_eq_true takenUp.1
  rw [is.2] at left
  exact absurd left (by decide)

end Bling
