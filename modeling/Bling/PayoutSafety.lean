import Bling.Balances
import Bling.StripeSteps

set_option autoImplicit false

namespace Bling

open Library

/-! Payouts: each creator's balance is reserved whole, once at a time, and never
sent twice. -/

/-- What holds of the payout items and the reservations behind them. -/
structure PayoutsSound (items : Table PayoutItem) (ledger : Ledger) : Prop where
  one_open : ∀ i j a b, items.get i = some a → items.get j = some b →
    a.creatorId = b.creatorId → a.status ∈ unsettled → b.status ∈ unsettled → i = j
  one_in_run : ∀ i j a b, items.get i = some a → items.get j = some b →
    a.runId = b.runId → a.creatorId = b.creatorId → i = j
  positive : ∀ i a, items.get i = some a → 0 < a.amountCents
  keyed : ∀ i a, items.get i = some a → a.idempotencyKey.creatorId = a.creatorId
  entry : ∀ i a, items.get i = some a → ∃ id e, ledger.ledgerEntries.get id = some e ∧
    e.kind = .payoutReservation ∧ e.payoutItemId = some i ∧
    e.idempotencyKey = .payoutReservation i ∧ e.creatorId = a.creatorId ∧
    e.amountCents = -a.amountCents
  kind : ∀ id e, ledger.ledgerEntries.get id = some e → e.kind = .payoutReservation →
    ∃ i, e.payoutItemId = some i ∧ e.idempotencyKey = .payoutReservation i
  known : ∀ id e i, ledger.ledgerEntries.get id = some e →
    e.idempotencyKey = .payoutReservation i → ∃ a, items.get i = some a

theorem PayoutsSound.empty : PayoutsSound .empty .empty := by
  refine ⟨?_, ?_, ?_, ?_, ?_, ?_, ?_⟩ <;> intro id <;> intros <;> contradiction

/-- An entry about a call is no reservation. -/
theorem PayoutsSound.post_call {items : Table PayoutItem} {ledger : Ledger}
    (sound : PayoutsSound items ledger) {entry : LedgerEntry} (isCall : IsCallEntry entry) :
    PayoutsSound items (postEntry ledger entry).1 := by
  rcases postEntry_cases ledger entry with ⟨unchanged, _⟩ | ⟨entries, _, _⟩
  · rw [unchanged]
    exact sound
  · refine ⟨sound.one_open, sound.one_in_run, sound.positive, sound.keyed, ?_, ?_, ?_⟩
    · intro i a present
      obtain ⟨id, e, found, rest⟩ := sound.entry i a present
      exact ⟨id, e, by rw [entries, Table.get_insert_of_some found], rest⟩
    · intro id e found reserves
      rw [entries, Table.get_insert] at found
      split at found
      · obtain rfl := Option.some.inj found
        exact absurd reserves isCall.1
      · exact sound.kind id e found reserves
    · intro id e i found key
      rw [entries, Table.get_insert] at found
      split at found
      · obtain rfl := Option.some.inj found
        exact absurd key (isCall.2 i)
      · exact sound.known id e i found key

theorem PayoutsSound.posts_calls {items : Table PayoutItem} {ledger after : Ledger}
    (sound : PayoutsSound items ledger) (posted : PostsCalls ledger after) :
    PayoutsSound items after := by
  obtain ⟨entries, calls, rfl⟩ := posted
  induction entries generalizing ledger with
  | nil => exact sound
  | cons entry rest ih =>
      exact ih (sound.post_call (calls entry List.mem_cons_self))
        fun other member => calls other (List.mem_cons_of_mem _ member)

/-- An item that has been paid moves no more, and no other item is reopened. -/
theorem PayoutsSound.patch {items : Table PayoutItem} {ledger : Ledger}
    (sound : PayoutsSound items ledger) {itemId : ItemId} {item : PayoutItem}
    {moved : PayoutItem → PayoutItem} (present : items.get itemId = some item)
    (isOpen : item.status ∈ unsettled) (same : SameItem item (moved item)) :
    PayoutsSound (items.patch itemId moved) ledger := by
  -- Every row after the patch has the fixed fields of the row before, and is
  -- open only if that row was.
  have old : ∀ i a, (items.patch itemId moved).get i = some a → ∃ was, items.get i = some was ∧
      SameItem was a ∧ (a.status ∈ unsettled → was.status ∈ unsettled) := by
    intro i a found
    rw [Table.get_patch] at found
    split at found
    · rename_i here
      rw [here, present, Option.map_some] at found
      obtain rfl := Option.some.inj found
      exact ⟨item, here ▸ present, same, fun _ => isOpen⟩
    · exact ⟨a, found, .refl a, id⟩
  refine ⟨?_, ?_, ?_, ?_, ?_, sound.kind, ?_⟩
  · intro i j a b foundA foundB creators openA openB
    obtain ⟨wasA, presentA, sameA, reopenedA⟩ := old i a foundA
    obtain ⟨wasB, presentB, sameB, reopenedB⟩ := old j b foundB
    exact sound.one_open i j wasA wasB presentA presentB
      (sameA.creatorId.symm.trans (creators.trans sameB.creatorId)) (reopenedA openA)
      (reopenedB openB)
  · intro i j a b foundA foundB runs creators
    obtain ⟨wasA, presentA, sameA, _⟩ := old i a foundA
    obtain ⟨wasB, presentB, sameB, _⟩ := old j b foundB
    exact sound.one_in_run i j wasA wasB presentA presentB
      (sameA.runId.symm.trans (runs.trans sameB.runId))
      (sameA.creatorId.symm.trans (creators.trans sameB.creatorId))
  · intro i a found
    obtain ⟨was, presentWas, sameWas, _⟩ := old i a found
    rw [sameWas.amountCents]
    exact sound.positive i was presentWas
  · intro i a found
    obtain ⟨was, presentWas, sameWas, _⟩ := old i a found
    rw [sameWas.idempotencyKey, sameWas.creatorId]
    exact sound.keyed i was presentWas
  · intro i a found
    obtain ⟨was, presentWas, sameWas, _⟩ := old i a found
    rw [sameWas.creatorId, sameWas.amountCents]
    exact sound.entry i was presentWas
  · intro id e i found key
    obtain ⟨was, presentWas⟩ := sound.known id e i found key
    rw [Table.get_patch, presentWas]
    split
    · exact ⟨_, rfl⟩
    · exact ⟨_, rfl⟩

/-- The reservation of a new item is always posted. -/
theorem reservation_posted {ctx : Ctx} {runId : RunId} {payoutRun : PayoutRun}
    {account : PayoutAccount} {cents : Int} {before after : DB}
    (sound : PayoutsSound before.payoutItems before.ledger)
    (reserves : Reserves ctx runId payoutRun account cents before after) :
    after.ledger.ledgerEntries = before.ledger.ledgerEntries.insert
      (reservationEntry ctx payoutRun account before.payoutItems.next cents) := by
  rw [reserves.ledger]
  refine postEntry_entries ?_ ?_
  · have positive := (config ctx.env).minimum_pos
    have enough := reserves.minimum
    simp only [reservationEntry]
    omega
  · rintro ⟨id, e, found, key⟩
    obtain ⟨a, present⟩ := sound.known id e _ found key
    exact Table.ne_next present rfl

theorem PayoutsSound.reserve {ctx : Ctx} {runId : RunId} {payoutRun : PayoutRun}
    {account : PayoutAccount} {cents : Int} {before after : DB}
    (sound : PayoutsSound before.payoutItems before.ledger)
    (reserves : Reserves ctx runId payoutRun account cents before after) :
    PayoutsSound after.payoutItems after.ledger := by
  have entries := reservation_posted sound reserves
  have positive := (config ctx.env).minimum_pos
  have enough := reserves.minimum
  rw [reserves.items]
  refine ⟨?_, ?_, ?_, ?_, ?_, ?_, ?_⟩
  · intro i j a b foundA foundB creators openA openB
    rw [Table.get_insert] at foundA foundB
    split at foundA <;> split at foundB
    · rename_i first second
      exact first.trans second.symm
    · obtain rfl := Option.some.inj foundA
      exact absurd openB (reserves.settled j b foundB creators.symm)
    · obtain rfl := Option.some.inj foundB
      exact absurd openA (reserves.settled i a foundA creators)
    · exact sound.one_open i j a b foundA foundB creators openA openB
  · intro i j a b foundA foundB runs creators
    rw [Table.get_insert] at foundA foundB
    split at foundA <;> split at foundB
    · rename_i first second
      exact first.trans second.symm
    · obtain rfl := Option.some.inj foundA
      exact absurd ⟨runs.symm, creators.symm⟩ (reserves.first j b foundB)
    · obtain rfl := Option.some.inj foundB
      exact absurd ⟨runs, creators⟩ (reserves.first i a foundA)
    · exact sound.one_in_run i j a b foundA foundB runs creators
  · intro i a found
    rw [Table.get_insert] at found
    split at found
    · obtain rfl := Option.some.inj found
      simp only [reservedItem]
      omega
    · exact sound.positive i a found
  · intro i a found
    rw [Table.get_insert] at found
    split at found
    · obtain rfl := Option.some.inj found
      rfl
    · exact sound.keyed i a found
  · intro i a found
    rw [Table.get_insert] at found
    split at found
    · rename_i here
      obtain rfl := Option.some.inj found
      exact ⟨_, _, by rw [entries, Table.get_insert_next], rfl, by rw [here]; rfl,
        by rw [here]; rfl, rfl, rfl⟩
    · obtain ⟨id, e, present, rest⟩ := sound.entry i a found
      exact ⟨id, e, by rw [entries, Table.get_insert_of_some present], rest⟩
  · intro id e found isReservation
    rw [entries, Table.get_insert] at found
    split at found
    · obtain rfl := Option.some.inj found
      exact ⟨_, rfl, rfl⟩
    · exact sound.kind id e found isReservation
  · intro id e i found key
    rw [entries, Table.get_insert] at found
    split at found
    · obtain rfl := Option.some.inj found
      obtain rfl := LedgerKey.payoutReservation.inj key
      exact ⟨_, Table.get_insert_next _ _⟩
    · obtain ⟨a, present⟩ := sound.known id e i found key
      exact ⟨a, Table.get_insert_of_some present _⟩

theorem PayoutsSound.turn {ctx : Ctx} {runId : RunId} {payoutRun : PayoutRun} {before after : DB}
    (sound : PayoutsSound before.payoutItems before.ledger)
    (turn : Turn ctx runId payoutRun before after) :
    PayoutsSound after.payoutItems after.ledger := by
  rcases turn with same | ⟨account, cents, reserves⟩
  · rw [same.payoutItems, same.ledger]
    exact sound
  · exact sound.reserve reserves

theorem PayoutsSound.turns {ctx : Ctx} {runId : RunId} {payoutRun : PayoutRun} {before after : DB}
    (sound : PayoutsSound before.payoutItems before.ledger)
    (turns : Relation.ReflTransGen (Turn ctx runId payoutRun) before after) :
    PayoutsSound after.payoutItems after.ledger := by
  induction turns with
  | refl => exact sound
  | tail _ turn ih => exact ih.turn turn

theorem PayoutsSound.mutation {db : DB} (sound : PayoutsSound db.payoutItems db.ledger) (ctx : Ctx)
    (m : Mutation) :
    PayoutsSound (m.apply ctx db).payoutItems (m.apply ctx db).ledger := by
  cases mutation_ledger ctx db m with
  | calls posted items =>
      rw [items]
      exact sound.posts_calls posted
  | item itemId item moved present unpaid same next ledger items =>
      rw [items, ledger]
      exact sound.patch present unpaid same
  | batch runId payoutRun cursor asked entries posted turns =>
      exact sound.turns turns

theorem PayoutsSound.reached {w : World} (reached : World.Reached w) :
    PayoutsSound w.db.payoutItems w.db.ledger :=
  World.reached_keeps (fun db => PayoutsSound db.payoutItems db.ledger)
    (fun _ _ => Iff.rfl) .empty (fun ctx _ m sound => sound.mutation ctx m) reached

/-! ### What each step does to the items -/

/-- The rows of one table live on in another, with the same amount and key; those
already paid exactly as they are. -/
def Persists (before after : Table PayoutItem) : Prop :=
  ∀ i a, before.get i = some a → ∃ b, after.get i = some b ∧ SameItem a b ∧
    (a.status = .paid → b = a)

theorem Persists.refl (items : Table PayoutItem) : Persists items items :=
  fun _ a present => ⟨a, present, .refl a, fun _ => rfl⟩

/-- A batch only adds items. -/
theorem turns_keep {ctx : Ctx} {runId : RunId} {payoutRun : PayoutRun} {before after : DB}
    (turns : Relation.ReflTransGen (Turn ctx runId payoutRun) before after) {i : ItemId}
    {a : PayoutItem} (found : before.payoutItems.get i = some a) :
    after.payoutItems.get i = some a := by
  induction turns with
  | refl => exact found
  | tail _ turn ih =>
      rcases turn with same | ⟨account, cents, reserves⟩
      · rw [same.payoutItems]
        exact ih
      · rw [reserves.items]
        exact Table.get_insert_of_some ih _

theorem mutation_persists (ctx : Ctx) (db : DB) (m : Mutation) :
    Persists db.payoutItems (m.apply ctx db).payoutItems := by
  cases mutation_ledger ctx db m with
  | calls posted items =>
      rw [items]
      exact .refl _
  | item itemId item moved present unpaid same next ledger items =>
      intro i a found
      rw [items, Table.get_patch, found]
      split
      · rename_i here
        obtain rfl := Option.some.inj (present.symm.trans (here ▸ found))
        refine ⟨moved item, rfl, same, ?_⟩
        intro paid
        rw [paid] at unpaid
        exact absurd unpaid (by decide)
      · exact ⟨a, rfl, .refl a, fun _ => rfl⟩
  | batch runId payoutRun cursor asked entries posted turns =>
      exact fun i a found => ⟨a, turns_keep turns found, .refl a, fun _ => rfl⟩

theorem step_persists (w : World) (input : Ctx × Op) :
    Persists w.db.payoutItems (w.step input).db.payoutItems := by
  rcases World.step_ran w input with ⟨_, later, same⟩ | ⟨m, earlier, later, _, same⟩
  · rw [same]
    exact .refl _
  · rw [same]
    exact mutation_persists input.1 { w.db with scheduled := earlier } m

/-- Only a batch adds items. -/
theorem mutation_adds_none (ctx : Ctx) (db : DB) {m : Mutation}
    (other : ∀ runId cursor, m ≠ .reserveBatch runId cursor) :
    (m.apply ctx db).payoutItems.next = db.payoutItems.next := by
  cases mutation_ledger ctx db m with
  | calls posted items => rw [items]
  | item itemId item moved present unpaid same next ledger items => rw [items, Table.patch_next]
  | batch runId payoutRun cursor asked entries posted turns =>
      exact absurd asked (other runId cursor)

theorem step_adds_none {w : World} {input : Ctx × Op}
    (other : ∀ runId cursor, input.2.mutation w input.1 ≠ some (.reserveBatch runId cursor)) :
    (w.step input).db.payoutItems.next = w.db.payoutItems.next := by
  rcases World.step_ran w input with ⟨_, later, same⟩ | ⟨m, earlier, later, ran, same⟩
  · rw [same]
  · rw [same]
    refine mutation_adds_none input.1 { w.db with scheduled := earlier } ?_
    rintro runId cursor rfl
    exact other runId cursor ran

/-! ### Where the money is to go -/

/-- The item is to be paid to an account that its creator has. -/
def OwnAccount (db : DB) (item : PayoutItem) : Prop :=
  ∃ accountId account, db.payoutAccounts.get accountId = some account ∧
    account.creatorId = item.creatorId ∧ account.stripeAccountId = item.destinationAccountId

/-- An item that a batch adds is for one of the batch's accounts. -/
theorem foldl_reserves {ctx : Ctx} {runId : RunId} {payoutRun : PayoutRun}
    (accounts : List PayoutAccount) {start : DB} {i : ItemId} {item : PayoutItem}
    (found : (accounts.foldl (reserveAccount ctx runId payoutRun) start).payoutItems.get i =
      some item) :
    start.payoutItems.get i = some item ∨ ∃ account ∈ accounts,
      account.creatorId = item.creatorId ∧ account.stripeAccountId = item.destinationAccountId := by
  induction accounts generalizing start with
  | nil => exact Or.inl found
  | cons account rest ih =>
      rw [List.foldl_cons] at found
      rcases ih found with old | ⟨later, member, own⟩
      · rcases reserveAccount_cases ctx runId payoutRun start account with
          unchanged | ⟨cents, reserves⟩
        · rw [unchanged] at old
          exact Or.inl old
        · rw [reserves.items, Table.get_insert] at old
          split at old
          · obtain rfl := Option.some.inj old
            exact Or.inr ⟨account, List.mem_cons_self, rfl, rfl⟩
          · exact Or.inl old
      · exact Or.inr ⟨later, List.mem_cons_of_mem _ member, own⟩

theorem reserveBatch_own {ctx : Ctx} {db : DB} {runId : RunId} {cursor : Option Nat} {i : ItemId}
    {item : PayoutItem} (absent : db.payoutItems.get i = none)
    (found : (reserveBatch ctx db runId cursor).payoutItems.get i = some item) :
    OwnAccount db item := by
  unfold reserveBatch at found
  split at found
  · rw [absent] at found
    cases found
  · rename_i payoutRun _
    have added : ((((accountsAfter db cursor).take reserveBatchSize).map Prod.snd).foldl
        (reserveAccount ctx runId payoutRun) db).payoutItems.get i = some item := by
      dsimp only at found
      split at found <;> exact found
    rcases foldl_reserves _ added with old | ⟨account, member, own⟩
    · rw [absent] at old
      cases old
    · obtain ⟨⟨accountId, _⟩, taken, rfl⟩ := List.mem_map.mp member
      have row := List.mem_of_mem_filter (List.mem_of_mem_take taken)
      exact ⟨accountId, _, (db.payoutAccounts.mem_rows_iff _ _).mp row, own⟩

theorem mutation_own {ctx : Ctx} {db : DB} {m : Mutation} {i : ItemId} {item : PayoutItem}
    (absent : db.payoutItems.get i = none)
    (found : (m.apply ctx db).payoutItems.get i = some item) : OwnAccount db item := by
  cases mutation_ledger ctx db m with
  | calls posted items =>
      rw [items, absent] at found
      cases found
  | item itemId was moved present unpaid same next ledger items =>
      rw [items, Table.get_patch, absent] at found
      split at found <;> cases found
  | batch runId payoutRun cursor asked entries posted turns =>
      subst asked
      exact reserveBatch_own absent found

theorem step_own {w : World} {input : Ctx × Op} {i : ItemId} {item : PayoutItem}
    (absent : w.db.payoutItems.get i = none)
    (found : (w.step input).db.payoutItems.get i = some item) : OwnAccount w.db item := by
  rcases World.step_ran w input with ⟨_, later, same⟩ | ⟨m, earlier, later, _, same⟩
  · rw [same] at found
    exact nomatch absent.symm.trans found
  · rw [same] at found
    exact @mutation_own input.1 { w.db with scheduled := earlier } m i item absent found

/-! ### The moment of a reservation -/

/-- A reservation for an account takes all that its creator has available, and no less than the
minimum. -/
structure WholeReservation (ctx : Ctx) (account : PayoutAccount) (before after : DB)
    (item : PayoutItem) : Prop where
  creator : item.creatorId = account.creatorId
  destination : item.destinationAccountId = account.stripeAccountId
  minimum : (config ctx.env).minimumCents ≤ item.amountCents
  whole : item.amountCents =
    (balanceAt before.ledger item.creatorId item.currency ctx.now).availableCents
  emptied : (balanceAt after.ledger item.creatorId item.currency ctx.now).availableCents = 0

theorem reserves_whole {ctx : Ctx} {runId : RunId} {payoutRun : PayoutRun}
    {account : PayoutAccount} {cents : Int} {before after : DB}
    (sound : PayoutsSound before.payoutItems before.ledger) (balanced : Balanced before.ledger)
    (reserves : Reserves ctx runId payoutRun account cents before after) :
    WholeReservation ctx account before after
      (reservedItem ctx runId payoutRun account cents) := by
  refine ⟨rfl, rfl, reserves.minimum, reserves.available, ?_⟩
  have balancedAfter : Balanced after.ledger := by
    rw [reserves.ledger]
    exact balanced.post _
  have available := reserves.available
  rw [balanced.balanceAt_eq_summary] at available
  rw [balancedAfter.balanceAt_eq_summary]
  simp only [summary, reservedItem] at available ⊢
  rw [reservation_posted sound reserves, Table.total_insert, ← available]
  simp [ownedBy, reservationEntry]

/-- A prefix of a batch, from any state in which payouts are sound. -/
theorem prefix_sound (ctx : Ctx) (runId : RunId) (payoutRun : PayoutRun)
    (accounts : List PayoutAccount) {db : DB} (sound : PayoutsSound db.payoutItems db.ledger)
    (balanced : Balanced db.ledger) :
    PayoutsSound (accounts.foldl (reserveAccount ctx runId payoutRun) db).payoutItems
        (accounts.foldl (reserveAccount ctx runId payoutRun) db).ledger ∧
      Balanced (accounts.foldl (reserveAccount ctx runId payoutRun) db).ledger := by
  induction accounts generalizing db with
  | nil => exact ⟨sound, balanced⟩
  | cons account rest ih =>
      rw [List.foldl_cons]
      rcases reserveAccount_cases ctx runId payoutRun db account with unchanged | ⟨cents, reserves⟩
      · rw [unchanged]
        exact ih sound balanced
      · refine ih (sound.reserve reserves) ?_
        rw [reserves.ledger]
        exact balanced.post _

/-! ### Transfers -/

/-- The transfer is what the item asks for. -/
structure SentFor (item : PayoutItem) (t : StripeTransfer) : Prop where
  amount : t.amount = item.amountCents
  currency : t.currency = item.currency
  destination : t.destination = item.destinationAccountId
  key : t.idempotencyKey = item.idempotencyKey

theorem SentFor.kept {item kept : PayoutItem} {t : StripeTransfer} (sent : SentFor item t)
    (same : SameItem item kept) : SentFor kept t :=
  ⟨sent.amount.trans same.amountCents.symm, sent.currency.trans same.currency.symm,
    sent.destination.trans same.destinationAccountId.symm,
    sent.key.trans same.idempotencyKey.symm⟩

/-- What the transfers made so far and those about to be made rest on. -/
structure TransfersSound (w : World) : Prop where
  sent : ∀ id t, w.stripe.transfers.get id = some t → ∃ item,
    w.db.payoutItems.get t.itemId = some item ∧ SentFor item t
  once : ∀ i j s t, w.stripe.transfers.get i = some s → w.stripe.transfers.get j = some t →
    s.idempotencyKey = t.idempotencyKey → i = j
  flying : ∀ itemId item, .transferring itemId item ∈ w.flights → ∃ held,
    w.db.payoutItems.get itemId = some held ∧ SameItem held item

theorem requested_transfers {w : World} {input : Ctx × Op} {stripe : Stripe}
    (requested : World.Requested w input stripe) :
    stripe.transfers = w.stripe.transfers ∨ ∃ itemId item,
      .transferring itemId item ∈ w.flights ∧
      (∀ id t, w.stripe.transfers.get id = some t → t.idempotencyKey ≠ item.idempotencyKey) ∧
      stripe.transfers = w.stripe.transfers.insert
        { amount := item.amountCents, currency := item.currency,
          destination := item.destinationAccountId, itemId,
          idempotencyKey := item.idempotencyKey } := by
  cases requested with
  | nothing => exact Or.inl rfl
  | createIntent attemptId attempt flying =>
      exact Or.inl (Stripe.createIntent_transfers w.stripe attemptId attempt)
  | capture callId tries attemptId intentId flying =>
      exact Or.inl (Stripe.capture_transfers w.stripe intentId)
  | release attemptId intentId flying =>
      exact Or.inl (Stripe.cancel_transfers w.stripe intentId)
  | cancel attemptId intentId reason flying =>
      exact Or.inl (Stripe.cancel_transfers w.stripe intentId)
  | createRefund refundId refund outcome status flying asked reaches unrecorded =>
      exact Or.inl (Stripe.createRefund_transfers w.stripe refundId _ status)
  | own op asked => exact Or.inl (Stripe.step_transfers w.stripe op)
  | createTransfer itemId item flying =>
      rcases Stripe.createTransfer_cases w.stripe itemId item with same | ⟨new, added⟩
      · exact Or.inl (congrArg Stripe.transfers same)
      · exact Or.inr ⟨itemId, item, flying, new, congrArg Stripe.transfers added⟩

theorem TransfersSound.step {w : World} (sound : TransfersSound w) (input : Ctx × Op) :
    TransfersSound (w.step input) := by
  have persists := step_persists w input
  have moves := World.step_moves w input
  have sent : ∀ id t, w.stripe.transfers.get id = some t → ∃ item,
      (w.step input).db.payoutItems.get t.itemId = some item ∧ SentFor item t := by
    intro id t present
    obtain ⟨item, held, sent⟩ := sound.sent id t present
    obtain ⟨kept, found, same, _⟩ := persists t.itemId item held
    exact ⟨kept, found, sent.kept same⟩
  have flying : ∀ itemId item, .transferring itemId item ∈ (w.step input).flights → ∃ held,
      (w.step input).db.payoutItems.get itemId = some held ∧ SameItem held item := by
    intro itemId item member
    rcases moves.launched _ member with old | new
    · obtain ⟨held, found, same⟩ := sound.flying itemId item old
      obtain ⟨kept, located, also, _⟩ := persists itemId held found
      exact ⟨kept, located, also.symm.trans same⟩
    · cases new with
      | transferring _ _ present => exact ⟨item, present, .refl item⟩
  have unmoved (stripe : Stripe) (same : stripe.transfers = w.stripe.transfers)
      (after : (w.step input).stripe = stripe) : TransfersSound (w.step input) := by
    refine ⟨?_, ?_, flying⟩ <;> rw [after, same]
    · exact sent
    · exact sound.once
  rcases requested_transfers moves.requested with same | ⟨itemId, item, transferring, new, same⟩
  · refine ⟨?_, ?_, flying⟩ <;> rw [same]
    · exact sent
    · exact sound.once
  · refine ⟨?_, ?_, flying⟩
    · intro id t found
      rw [same, Table.get_insert] at found
      split at found
      · obtain rfl := Option.some.inj found
        obtain ⟨held, present, alike⟩ := sound.flying itemId item transferring
        obtain ⟨kept, located, also, _⟩ := persists itemId held present
        have asked : SentFor item (StripeTransfer.mk item.amountCents item.currency
            item.destinationAccountId itemId item.idempotencyKey) := ⟨rfl, rfl, rfl, rfl⟩
        exact ⟨kept, located, (asked.kept alike.symm).kept also⟩
      · exact sent id t found
    · intro i j s t foundS foundT keys
      rw [same, Table.get_insert] at foundS foundT
      split at foundS <;> split at foundT
      · rename_i first second
        exact first.trans second.symm
      · obtain rfl := Option.some.inj foundS
        exact absurd keys.symm (new j t foundT)
      · obtain rfl := Option.some.inj foundT
        exact absurd keys (new i s foundS)
      · exact sound.once i j s t foundS foundT keys

theorem TransfersSound.reached {w : World} (reached : World.Reached w) : TransfersSound w := by
  refine reached.induct TransfersSound ⟨?_, ?_, ?_⟩ fun _ input sound => sound.step input
  · intro id t present
    cases present
  · intro i j s t present
    cases present
  · intro itemId item member
    cases member

/-- The money sent to a creator. -/
def transferredCents (w : World) (creatorId : UserId) : Int :=
  w.stripe.transfers.total (fun t => t.idempotencyKey.creatorId == creatorId) StripeTransfer.amount

/-- What has been reserved for a creator. -/
def reservedCents (db : DB) (creatorId : UserId) : Int :=
  db.ledger.ledgerEntries.total
    (fun e => e.kind == .payoutReservation && e.creatorId == creatorId) fun e => -e.amountCents

/-- An item has one reservation, and it is for the item's amount. -/
theorem PayoutsSound.reservation {items : Table PayoutItem} {ledger : Ledger}
    (sound : PayoutsSound items ledger) (balanced : Balanced ledger) {i : ItemId} {a : PayoutItem}
    (present : items.get i = some a) : ∃ id e, ledger.ledgerEntries.get id = some e ∧
      e.kind = .payoutReservation ∧ e.payoutItemId = some i ∧ e.creatorId = a.creatorId ∧
      e.amountCents = -a.amountCents ∧
      ∀ key f, ledger.ledgerEntries.get key = some f → f.kind = .payoutReservation →
        f.payoutItemId = some i → key = id := by
  obtain ⟨id, e, found, kind, item, key, creator, amount⟩ := sound.entry i a present
  refine ⟨id, e, found, kind, item, creator, amount, ?_⟩
  intro other f located reserves owns
  obtain ⟨j, owner, keyed⟩ := sound.kind other f located reserves
  obtain rfl := Option.some.inj (owner.symm.trans owns)
  exact balanced.keys other id f e located found (keyed.trans key.symm)

/-- Every transfer has an item of its own, and that item an entry of its own. -/
theorem transferred_le_reserved {w : World} (transfers : TransfersSound w)
    (payouts : PayoutsSound w.db.payoutItems w.db.ledger) (balanced : Balanced w.db.ledger)
    (creatorId : UserId) : transferredCents w creatorId ≤ reservedCents w.db creatorId := by
  have toItems : transferredCents w creatorId ≤ w.db.payoutItems.total
      (fun i => i.creatorId == creatorId) PayoutItem.amountCents := by
    refine Table.total_le_total
      (fun id => ((w.stripe.transfers.get id).map StripeTransfer.itemId).getD 0) ?_ ?_ ?_
    · intro id t found owned
      obtain ⟨item, held, sent⟩ := transfers.sent id t found
      refine ⟨item, by simpa [found] using held, ?_, sent.amount.le⟩
      rw [← payouts.keyed t.itemId item held, ← sent.key]
      exact owned
    · intro i j s t foundS foundT _ _ same
      simp only [foundS, foundT, Option.map_some, Option.getD_some] at same
      obtain ⟨itemS, heldS, sentS⟩ := transfers.sent i s foundS
      obtain ⟨itemT, heldT, sentT⟩ := transfers.sent j t foundT
      rw [same] at heldS
      obtain rfl := Option.some.inj (heldS.symm.trans heldT)
      exact transfers.once i j s t foundS foundT (sentS.key.trans sentT.key.symm)
    · intro id item found _
      exact (payouts.positive id item found).le
  have toEntries : w.db.payoutItems.total (fun i => i.creatorId == creatorId)
      PayoutItem.amountCents ≤ reservedCents w.db creatorId := by
    have entryOf {id : ItemId} {item : PayoutItem} (found : w.db.payoutItems.get id = some item) :
        ∃ entryId e, (w.db.ledger.ledgerEntries.first fun e =>
          e.idempotencyKey == .payoutReservation id) = some (entryId, e) ∧
          w.db.ledger.ledgerEntries.get entryId = some e ∧ e.kind = .payoutReservation ∧
          e.idempotencyKey = .payoutReservation id ∧ e.creatorId = item.creatorId ∧
          e.amountCents = -item.amountCents := by
      obtain ⟨entryId, e, present, kind, _, key, creator, amount⟩ := payouts.entry id item found
      refine ⟨entryId, e, Table.first_of_unique present (by simp [key]) ?_, present, kind, key,
        creator, amount⟩
      intro other f located sameKey
      exact balanced.keys other entryId f e located present
        ((by simpa using sameKey : f.idempotencyKey = _).trans key.symm)
    refine Table.total_le_total (fun id => ((w.db.ledger.ledgerEntries.first fun e =>
      e.idempotencyKey == .payoutReservation id).map Prod.fst).getD 0) ?_ ?_ ?_
    · intro id item found owned
      obtain ⟨entryId, e, first, present, kind, _, creator, amount⟩ := entryOf found
      refine ⟨e, by simpa [first] using present, ?_, ?_⟩
      · simpa [kind, creator] using owned
      · rw [amount, Int.neg_neg]
    · intro i j a b foundA foundB _ _ same
      obtain ⟨entryA, e, firstA, presentA, _, keyA, _⟩ := entryOf foundA
      obtain ⟨entryB, f, firstB, presentB, _, keyB, _⟩ := entryOf foundB
      simp only [firstA, firstB, Option.map_some, Option.getD_some] at same
      rw [same] at presentA
      obtain rfl := Option.some.inj (presentA.symm.trans presentB)
      exact LedgerKey.payoutReservation.inj (keyA.symm.trans keyB)
    · intro id e found reserves
      simp only [Bool.and_eq_true, beq_iff_eq] at reserves
      obtain ⟨i, _, key⟩ := payouts.kind id e found reserves.1
      obtain ⟨item, held⟩ := payouts.known id e i found key
      obtain ⟨entryId, f, _, present, _, sameKey, _, amount⟩ := entryOf held
      have here := balanced.keys id entryId e f found present (key.trans sameKey.symm)
      rw [here] at found
      obtain rfl := Option.some.inj (found.symm.trans present)
      have positive := payouts.positive i item held
      omega
  exact toItems.trans toEntries

/-! ### The whole of it -/

/-- What is promised of payouts in a state and in the step after it. -/
structure PayoutsSafe (w : World) : Prop where
  one_open : ∀ i j a b, w.db.payoutItems.get i = some a → w.db.payoutItems.get j = some b →
    a.creatorId = b.creatorId → a.status ∈ unsettled → b.status ∈ unsettled → i = j
  one_in_run : ∀ i j a b, w.db.payoutItems.get i = some a → w.db.payoutItems.get j = some b →
    a.runId = b.runId → a.creatorId = b.creatorId → i = j
  one_entry : ∀ i a, w.db.payoutItems.get i = some a → ∃ id e,
    w.db.ledger.ledgerEntries.get id = some e ∧ e.kind = .payoutReservation ∧
    e.payoutItemId = some i ∧ e.creatorId = a.creatorId ∧ e.amountCents = -a.amountCents ∧
    ∀ key f, w.db.ledger.ledgerEntries.get key = some f → f.kind = .payoutReservation →
      f.payoutItemId = some i → key = id
  /-- Each turn of a batch reserves nothing, or one whole balance. -/
  whole : ∀ (ctx : Ctx) (runId : RunId) (payoutRun : PayoutRun) (jobs : List (Time × Job))
    (accounts : List PayoutAccount) (account : PayoutAccount),
    let before := accounts.foldl (reserveAccount ctx runId payoutRun)
      { w.db with scheduled := jobs }
    let after := reserveAccount ctx runId payoutRun before account
    after.payoutItems = before.payoutItems ∨ ∃ item,
      after.payoutItems = before.payoutItems.insert item ∧
        WholeReservation ctx account before after item
  batches_only : ∀ input : Ctx × Op,
    (∀ runId cursor, input.2.mutation w input.1 ≠ some (.reserveBatch runId cursor)) →
    (w.step input).db.payoutItems.next = w.db.payoutItems.next
  own_account : ∀ (input : Ctx × Op) i a, w.db.payoutItems.get i = none →
    (w.step input).db.payoutItems.get i = some a → OwnAccount w.db a
  lasting : ∀ (input : Ctx × Op) i a, w.db.payoutItems.get i = some a → ∃ b,
    (w.step input).db.payoutItems.get i = some b ∧ SameItem a b
  paid_final : ∀ (input : Ctx × Op) i a, w.db.payoutItems.get i = some a → a.status = .paid →
    (w.step input).db.payoutItems.get i = some a
  /-- Every transfer is what its item asks for, to the item's account. -/
  sent : ∀ id t, w.stripe.transfers.get id = some t → ∃ item,
    w.db.payoutItems.get t.itemId = some item ∧ SentFor item t ∧
      item.creatorId = t.idempotencyKey.creatorId
  not_overpaid : ∀ creatorId, transferredCents w creatorId ≤ reservedCents w.db creatorId

/-- No interleaving of the hourly runs, their batches, the transfers, their
retries and everything else pays a creator twice. -/
theorem payouts_safe (inputs : List (Ctx × Op)) :
    PayoutsSafe (run World.step World.empty inputs) := by
  generalize reached' : run World.step World.empty inputs = w
  have reached : World.Reached w := ⟨inputs, reached'.symm⟩
  have payouts := PayoutsSound.reached reached
  have balanced := Balanced.reached reached
  have transfers := TransfersSound.reached reached
  refine ⟨payouts.one_open, payouts.one_in_run, fun i a => payouts.reservation balanced, ?_,
    fun input => step_adds_none, fun input i a => step_own, ?_, ?_, ?_,
    transferred_le_reserved transfers payouts balanced⟩
  · intro ctx runId payoutRun jobs accounts account before after
    have start : PayoutsSound { w.db with scheduled := jobs }.payoutItems
        { w.db with scheduled := jobs }.ledger := payouts
    obtain ⟨soundBefore, balancedBefore⟩ :=
      prefix_sound ctx runId payoutRun accounts start balanced
    rcases reserveAccount_cases ctx runId payoutRun before account with
      unchanged | ⟨cents, reserves⟩
    · exact Or.inl (congrArg DB.payoutItems unchanged)
    · exact Or.inr ⟨_, reserves.items, reserves_whole soundBefore balancedBefore reserves⟩
  · intro input i a present
    obtain ⟨b, found, same, _⟩ := step_persists w input i a present
    exact ⟨b, found, same⟩
  · intro input i a present paid
    obtain ⟨b, found, _, unchanged⟩ := step_persists w input i a present
    rw [found, unchanged paid]
  · intro id t present
    obtain ⟨item, held, sent⟩ := transfers.sent id t present
    exact ⟨item, held, sent, by rw [sent.key, payouts.keyed t.itemId item held]⟩

end Bling
