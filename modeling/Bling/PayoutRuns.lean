import Bling.PayoutSafety

set_option autoImplicit false

namespace Bling

open Library

/-! A payout run's status against its items. -/

/-- An item whose transfer may still be made. -/
def inFlight : List PayoutItemStatus := [.reserved, .sending, .retry]

/-- A closed run has nothing in flight, and its status says what became of its
items. -/
structure RunsTruthful (runs : Table PayoutRun) (items : Table PayoutItem) : Prop where
  belongs : ∀ itemId item, items.get itemId = some item →
    ∃ payoutRun, runs.get item.runId = some payoutRun
  kept : ∀ itemId item, items.get itemId = some item → item.status ≠ .canceled
  idle : ∀ runId payoutRun itemId item, runs.get runId = some payoutRun →
    payoutRun.status ≠ .processing → items.get itemId = some item → item.runId = runId →
    item.status ∉ inFlight
  completed : ∀ runId payoutRun itemId item, runs.get runId = some payoutRun →
    payoutRun.status = .completed → items.get itemId = some item → item.runId = runId →
    item.status = .paid
  failed : ∀ runId payoutRun, runs.get runId = some payoutRun →
    payoutRun.status = .partialFailed →
    ∃ itemId item, items.get itemId = some item ∧ item.runId = runId ∧ item.status = .failed

theorem RunsTruthful.empty : RunsTruthful .empty .empty := by
  constructor
  · intro itemId item found
    cases found
  · intro itemId item found
    cases found
  · intro runId payoutRun itemId item found
    cases found
  · intro runId payoutRun itemId item found
    cases found
  · intro runId payoutRun found
    cases found

/-- The run of an item in flight is processing. -/
theorem RunsTruthful.processing {runs : Table PayoutRun} {items : Table PayoutItem}
    (truthful : RunsTruthful runs items) {itemId : ItemId} {item : PayoutItem}
    (present : items.get itemId = some item) (flying : item.status ∈ inFlight) :
    ∃ payoutRun, runs.get item.runId = some payoutRun ∧ payoutRun.status = .processing := by
  obtain ⟨payoutRun, found⟩ := truthful.belongs itemId item present
  refine ⟨payoutRun, found, ?_⟩
  by_contra closed
  exact truthful.idle _ payoutRun itemId item found closed present rfl flying

/-- An item in flight may move on: its run is processing, and promises nothing. -/
theorem RunsTruthful.patchItem {runs : Table PayoutRun} {items : Table PayoutItem}
    (truthful : RunsTruthful runs items) {itemId : ItemId} {item : PayoutItem}
    {moved : PayoutItem → PayoutItem} (present : items.get itemId = some item)
    (flying : item.status ∈ inFlight) (same : (moved item).runId = item.runId)
    (known : (moved item).status ≠ .canceled) : RunsTruthful runs (items.patch itemId moved) := by
  obtain ⟨opened, found, processing⟩ := truthful.processing present flying
  -- A row of the patched table in a closed run is a row of the table before.
  have elsewhere (runId : RunId) (payoutRun : PayoutRun) (id : ItemId) (i : PayoutItem)
      (located : runs.get runId = some payoutRun) (closed : payoutRun.status ≠ .processing)
      (after : (items.patch itemId moved).get id = some i) (inRun : i.runId = runId) :
      items.get id = some i := by
    rcases Table.get_patch_row present after with ⟨_, rfl⟩ | ⟨_, before⟩
    · rw [same] at inRun
      rw [← inRun, found] at located
      exact absurd (Option.some.inj located ▸ processing) closed
    · exact before
  constructor
  · intro id i after
    rcases Table.get_patch_row present after with ⟨_, rfl⟩ | ⟨_, before⟩
    · rw [same]
      exact ⟨opened, found⟩
    · exact truthful.belongs id i before
  · intro id i after
    rcases Table.get_patch_row present after with ⟨_, rfl⟩ | ⟨_, before⟩
    · exact known
    · exact truthful.kept id i before
  · intro runId payoutRun id i located closed after inRun
    exact truthful.idle runId payoutRun id i located closed
      (elsewhere runId payoutRun id i located closed after inRun) inRun
  · intro runId payoutRun id i located done after inRun
    have closed : payoutRun.status ≠ .processing := by
      rw [done]
      decide
    exact truthful.completed runId payoutRun id i located done
      (elsewhere runId payoutRun id i located closed after inRun) inRun
  · intro runId payoutRun located done
    obtain ⟨id, i, before, inRun, fails⟩ := truthful.failed runId payoutRun located done
    refine ⟨id, i, ?_, inRun, fails⟩
    rw [Table.get_patch_of_ne]
    · exact before
    · rintro rfl
      rw [present] at before
      obtain rfl := Option.some.inj before
      rw [fails] at flying
      exact absurd flying (by decide)

/-! ### A batch -/

/-- The batch goes by the run as it read it. In between, a run it has reopened is
processing, and any other is still as it was. -/
structure Batch (runId : RunId) (payoutRun : PayoutRun) (db : DB) : Prop where
  truthful : RunsTruthful db.payoutRuns db.payoutItems
  read : ∃ now, db.payoutRuns.get runId = some now ∧ (now = payoutRun ∨ now.status = .processing)

/-- Reserving reopens the run unless it is processing already. -/
theorem Batch.reserve {ctx : Ctx} {runId : RunId} {payoutRun : PayoutRun} {account : PayoutAccount}
    {cents : Int} {before after : DB} (batch : Batch runId payoutRun before)
    (reserves : Reserves ctx runId payoutRun account cents before after) :
    Batch runId payoutRun after := by
  obtain ⟨truthful, now, found, read⟩ := batch
  have reopened : ∃ next, after.payoutRuns.get runId = some next ∧ next.status = .processing := by
    rw [reserves.runs]
    split
    · exact ⟨_, Table.get_patch_self found _, rfl⟩
    · rename_i processing
      rcases read with rfl | processing'
      · exact ⟨now, found, not_not.mp processing⟩
      · exact ⟨now, found, processing'⟩
  have others (other : RunId) (apart : other ≠ runId) :
      after.payoutRuns.get other = before.payoutRuns.get other := by
    rw [reserves.runs]
    split
    · exact Table.get_patch_of_ne apart _ _
    · rfl
  obtain ⟨next, located, processing⟩ := reopened
  -- A closed run is another run, with the items it had.
  have elsewhere (other : RunId) (r : PayoutRun) (there : after.payoutRuns.get other = some r)
      (closed : r.status ≠ .processing) :
      other ≠ runId ∧ before.payoutRuns.get other = some r := by
    have apart : other ≠ runId := by
      rintro rfl
      rw [located] at there
      exact closed (Option.some.inj there ▸ processing)
    exact ⟨apart, (others other apart) ▸ there⟩
  have old (id : ItemId) (i : PayoutItem) (there : after.payoutItems.get id = some i)
      (apart : i.runId ≠ runId) : before.payoutItems.get id = some i := by
    rw [reserves.items] at there
    rcases Table.get_insert_row there with ⟨_, rfl⟩ | present
    · exact absurd rfl apart
    · exact present
  refine ⟨⟨?_, ?_, ?_, ?_, ?_⟩, next, located, Or.inr processing⟩
  · intro id i there
    by_cases here : i.runId = runId
    · exact ⟨next, here ▸ located⟩
    · rw [others _ here]
      exact truthful.belongs id i (old id i there here)
  · intro id i there
    rw [reserves.items] at there
    rcases Table.get_insert_row there with ⟨_, rfl⟩ | present
    · simp [reservedItem]
    · exact truthful.kept id i present
  · intro other r id i there closed item inRun
    obtain ⟨apart, before⟩ := elsewhere other r there closed
    exact truthful.idle other r id i before closed (old id i item (inRun ▸ apart)) inRun
  · intro other r id i there done item inRun
    obtain ⟨apart, before⟩ := elsewhere other r there (by rw [done]; decide)
    exact truthful.completed other r id i before done (old id i item (inRun ▸ apart)) inRun
  · intro other r there done
    obtain ⟨_, before⟩ := elsewhere other r there (by rw [done]; decide)
    obtain ⟨id, i, item, inRun, fails⟩ := truthful.failed other r before done
    refine ⟨id, i, ?_, inRun, fails⟩
    rw [reserves.items]
    exact Table.get_insert_of_some item _

theorem Batch.turns {ctx : Ctx} {runId : RunId} {payoutRun : PayoutRun} {before after : DB}
    (batch : Batch runId payoutRun before)
    (turns : Relation.ReflTransGen (Turn ctx runId payoutRun) before after) :
    Batch runId payoutRun after := by
  induction turns with
  | refl => exact batch
  | tail _ turn ih =>
      rcases turn with same | ⟨account, cents, reserves⟩
      · constructor
        · rw [same.payoutRuns, same.payoutItems]
          exact ih.truthful
        · rw [same.payoutRuns]
          exact ih.read
      · exact ih.reserve reserves

/-- Whatever a batch adds is reserved. -/
theorem turns_reserve {ctx : Ctx} {runId : RunId} {payoutRun : PayoutRun} {before after : DB}
    (turns : Relation.ReflTransGen (Turn ctx runId payoutRun) before after) {id : ItemId}
    {item : PayoutItem} (found : after.payoutItems.get id = some item) :
    before.payoutItems.get id = some item ∨ item.status = .reserved := by
  induction turns with
  | refl => exact Or.inl found
  | tail _ turn ih =>
      rcases turn with same | ⟨account, cents, reserves⟩
      · rw [same.payoutItems] at found
        exact ih found
      · rw [reserves.items] at found
        rcases Table.get_insert_row found with ⟨_, rfl⟩ | present
        · exact Or.inr rfl
        · exact ih present

/-! ### Every mutation -/

/-- Closing a run looks at its items. -/
theorem RunsTruthful.finish {runs after : Table PayoutRun} {items : Table PayoutItem}
    (truthful : RunsTruthful runs items)
    (each : Table.Follow (Finishes items) (fun _ => False) runs after) :
    RunsTruthful after items := by
  have cases_ (runId : RunId) (r : PayoutRun) (found : after.get runId = some r) :
      runs.get runId = some r ∨ Finished items runId r := by
    rcases each.origin runId r found with ⟨old, present, rfl | finished⟩ | ⟨_, new⟩
    · exact Or.inl present
    · exact Or.inr finished
    · exact new.elim
  refine ⟨?_, truthful.kept, ?_, ?_, ?_⟩
  · intro id i present
    obtain ⟨r, found⟩ := truthful.belongs id i present
    obtain ⟨next, located, _⟩ := each.kept i.runId r found
    exact ⟨next, located⟩
  · intro runId r id i found closed present inRun
    rcases cases_ runId r found with old | finished
    · exact truthful.idle runId r id i old closed present inRun
    · have idle := finished.idle id i present inRun
      simp only [inFlight, List.mem_cons, List.not_mem_nil, or_false, not_or]
      exact idle
  · intro runId r id i found done present inRun
    rcases cases_ runId r found with old | finished
    · exact truthful.completed runId r id i old done present inRun
    · have idle := finished.idle id i present inRun
      have kept := truthful.kept id i present
      rcases finished.status with ⟨_, unfailed⟩ | ⟨partly, _⟩
      · have sound := unfailed id i present inRun
        cases status : i.status <;> simp_all
      · rw [done] at partly
        cases partly
  · intro runId r found partly
    rcases cases_ runId r found with old | finished
    · exact truthful.failed runId r old partly
    · rcases finished.status with ⟨completed, _⟩ | ⟨_, fails⟩
      · rw [partly] at completed
        cases completed
      · exact fails

/-- A run that opens is processing, and so promises nothing. -/
theorem RunsTruthful.open {runs : Table PayoutRun} {items : Table PayoutItem}
    (truthful : RunsTruthful runs items) {payoutRun : PayoutRun}
    (processing : payoutRun.status = .processing) : RunsTruthful (runs.insert payoutRun) items := by
  have old (runId : RunId) (r : PayoutRun) (found : (runs.insert payoutRun).get runId = some r)
      (closed : r.status ≠ .processing) : runs.get runId = some r := by
    rcases Table.get_insert_row found with ⟨_, rfl⟩ | present
    · exact absurd processing closed
    · exact present
  refine ⟨?_, truthful.kept, ?_, ?_, ?_⟩
  · intro id i present
    obtain ⟨r, found⟩ := truthful.belongs id i present
    exact ⟨r, Table.get_insert_of_some found _⟩
  · intro runId r id i found closed
    exact truthful.idle runId r id i (old runId r found closed) closed
  · intro runId r id i found done
    exact truthful.completed runId r id i (old runId r found (by rw [done]; decide)) done
  · intro runId r found partly
    exact truthful.failed runId r (old runId r found (by rw [partly]; decide)) partly

theorem RunsTruthful.mutation {db : DB} (truthful : RunsTruthful db.payoutRuns db.payoutItems)
    (ctx : Ctx) (m : Mutation) :
    RunsTruthful (m.apply ctx db).payoutRuns (m.apply ctx db).payoutItems := by
  cases m.effect ctx db with
  | runOpened payoutRun processing same =>
      rw [same.payoutRuns, same.payoutItems]
      exact truthful.open processing
  | runsFinished payoutRuns each same =>
      rw [same.payoutRuns, same.payoutItems]
      exact truthful.finish each
  | reserved runId payoutRun entries payoutItems payoutRuns cursor asked present each turns
      same =>
      have batch : Batch runId payoutRun db := ⟨truthful, payoutRun, present, Or.inl rfl⟩
      exact (batch.turns turns).truthful
  | itemClaimed itemId item asked present due same =>
      rw [same.payoutRuns, same.payoutItems]
      dsimp only
      refine truthful.patchItem present ?_ rfl (by simp)
      cases status : item.status <;> simp_all [transferDue, inFlight]
  | itemPaid itemId item transferId asked present sending same =>
      rw [same.payoutRuns, same.payoutItems]
      dsimp only
      refine truthful.patchItem present ?_ rfl (by simp)
      rw [sending]
      decide
  | itemRetried itemId item status failureCode nextAttemptAt processedAt present sending again
      same =>
      rw [same.payoutRuns, same.payoutItems]
      dsimp only
      refine truthful.patchItem present ?_ rfl ?_
      · rw [sending]
        decide
      · rcases again with rfl | rfl <;> simp
  | selected showId hotline entryId entry mode attempt asked host live idle present inShow waiting
      held paid same =>
      have runs := same.payoutRuns
      have items := same.payoutItems
      cases attempt <;> (rw [runs, items]; exact truthful)
  | _ =>
      rename_i same
      rw [same.payoutRuns, same.payoutItems]
      exact truthful

theorem RunsTruthful.reached {w : World} (reached : World.Reached w) :
    RunsTruthful w.db.payoutRuns w.db.payoutItems :=
  World.reached_keeps (fun db => RunsTruthful db.payoutRuns db.payoutItems)
    (fun _ _ => Iff.rfl) .empty (fun ctx _ m truthful => truthful.mutation ctx m) reached

/-- An item a mutation adds is reserved. -/
theorem mutation_reserves (ctx : Ctx) (db : DB) (m : Mutation) {id : ItemId} {item : PayoutItem}
    (new : db.payoutItems.get id = none)
    (found : (m.apply ctx db).payoutItems.get id = some item) : item.status = .reserved := by
  cases mutation_ledger ctx db m with
  | calls posted items =>
      rw [items, new] at found
      cases found
  | item itemId item moved present unpaid same next ledger items =>
      rw [items, Table.get_patch, new] at found
      simp at found
  | batch runId payoutRun cursor asked entries posted turns =>
      rcases turns_reserve turns found with old | reserved
      · rw [new] at old
        cases old
      · exact reserved

theorem step_reserves {w : World} {input : Ctx × Op} {id : ItemId} {item : PayoutItem}
    (new : w.db.payoutItems.get id = none)
    (found : (w.step input).db.payoutItems.get id = some item) : item.status = .reserved := by
  rcases World.step_ran w input with ⟨_, later, same⟩ | ⟨m, earlier, later, _, same⟩
  · rw [same, new] at found
    cases found
  · rw [same] at found
    exact mutation_reserves input.1 { w.db with scheduled := earlier } m new found

/-- After any run of the system a payout run's status is true of its items, and a
step that reserves leaves the payout run processing, whatever it was before. -/
theorem runs_truthful (inputs : List (Ctx × Op)) :
    let w := run World.step .empty inputs
    RunsTruthful w.db.payoutRuns w.db.payoutItems ∧
      ∀ input id item, w.db.payoutItems.get id = none →
        (w.step input).db.payoutItems.get id = some item →
        ∃ payoutRun, (w.step input).db.payoutRuns.get item.runId = some payoutRun ∧
          payoutRun.status = .processing := by
  intro w
  have reached : World.Reached w := ⟨inputs, rfl⟩
  refine ⟨.reached reached, ?_⟩
  intro input id item new found
  have truthful := RunsTruthful.reached (reached.step input)
  refine truthful.processing found ?_
  rw [step_reserves new found]
  decide

end Bling
