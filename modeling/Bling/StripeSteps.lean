import Bling.Stripe

set_option autoImplicit false

namespace Bling

open Library

/-! What each request and each event of Stripe's own changes there. -/

namespace Stripe

/-- Two states of Stripe that differ in the events told since. -/
structure SameTables (before after : Stripe) : Prop where
  intents : after.intents = before.intents
  refunds : after.refunds = before.refunds
  disputes : after.disputes = before.disputes
  transfers : after.transfers = before.transfers
  events : ∃ told, after.events = before.events ++ told

theorem SameTables.refl (stripe : Stripe) : SameTables stripe stripe :=
  ⟨rfl, rfl, rfl, rfl, [], (List.append_nil _).symm⟩

theorem emit_same (stripe : Stripe) (type : EventType) (connected : Option StripeId)
    (object : EventObject) : SameTables stripe (stripe.emit type connected object) :=
  ⟨rfl, rfl, rfl, rfl, _, rfl⟩

theorem emitIntent_same (stripe : Stripe) (type : EventType) (intentId : StripeId) :
    SameTables stripe (stripe.emitIntent type intentId) := by
  unfold emitIntent
  split
  · exact .refl stripe
  · exact emit_same stripe _ _ _

theorem emitRefund_same (stripe : Stripe) (type : EventType) (refundId : StripeId) :
    SameTables stripe (stripe.emitRefund type refundId) := by
  unfold emitRefund
  split
  · exact .refl stripe
  · exact emit_same stripe _ _ _

theorem emitDispute_same (stripe : Stripe) (type : EventType) (disputeId : StripeId) :
    SameTables stripe (stripe.emitDispute type disputeId) := by
  unfold emitDispute
  split
  · exact .refl stripe
  · exact emit_same stripe _ _ _

/-! ### Intents -/

/-- An intent's way from one status to another. -/
inductive IntentMove : IntentStatus → IntentStatus → Prop
  | hold : IntentMove .requiresPaymentMethod .requiresCapture
  | capture : IntentMove .requiresCapture .succeeded
  | drop : IntentMove .requiresPaymentMethod .canceled
  | release : IntentMove .requiresCapture .canceled

/-- What happens to one intent: its status may move, and the event that tells
of it is added. -/
structure IntentStep (before after : Stripe) (intentId : StripeId) (target : IntentStatus)
    (intent : Intent) (moved : Intent → Intent) : Prop where
  present : before.intents.get intentId = some intent
  move : IntentMove intent.status target
  status : (moved intent).status = target
  attempt : (moved intent).attemptId = intent.attemptId
  intents : after.intents = before.intents.patch intentId moved
  refunds : after.refunds = before.refunds
  transfers : after.transfers = before.transfers

theorem intentStatus_some {stripe : Stripe} {intentId : StripeId} {status : IntentStatus} :
    stripe.intentStatus intentId = some status ↔
      ∃ intent, stripe.intents.get intentId = some intent ∧ intent.status = status :=
  Option.map_eq_some_iff

theorem IntentStep.reaches {before after : Stripe} {intentId : StripeId} {target : IntentStatus}
    {intent : Intent} {moved : Intent → Intent}
    (step : IntentStep before after intentId target intent moved) :
    after.intentStatus intentId = some target := by
  refine intentStatus_some.mpr ⟨moved intent, ?_, step.status⟩
  rw [step.intents]
  exact Table.get_patch_self step.present moved

/-- A capture is refused, repeats one, or takes the held amount. -/
theorem capture_cases (stripe : Stripe) (intentId : StripeId) :
    ((stripe.capture intentId).1 = stripe ∧ ((stripe.capture intentId).2 = true →
      stripe.intentStatus intentId = some .succeeded)) ∨
    (∃ intent, IntentStep stripe (stripe.capture intentId).1 intentId .succeeded intent
        (fun i => { i with status := .succeeded })) ∧
      ∃ object, (stripe.capture intentId).1.events = stripe.events ++
        [⟨stripe.events.length, .paymentIntentSucceeded, none, .intent object⟩] ∧
        object.id = intentId := by
  unfold capture
  split
  · rename_i held
    obtain ⟨intent, present, status⟩ := intentStatus_some.mp held
    have moved : (stripe.setIntent intentId .succeeded).intents.get intentId =
        some { intent with status := .succeeded } := Table.get_patch_self present _
    refine Or.inr ⟨⟨intent, present, status ▸ .capture, rfl, rfl, ?_, ?_, ?_⟩, ?_⟩
    · exact (emitIntent_same _ _ _).intents
    · exact (emitIntent_same _ _ _).refunds
    · exact (emitIntent_same _ _ _).transfers
    · simp only [emitIntent, moved]
      exact ⟨_, rfl, rfl⟩
  · rename_i done
    exact Or.inl ⟨rfl, fun _ => done⟩
  · exact Or.inl ⟨rfl, fun accepted => absurd accepted Bool.false_ne_true⟩

/-- A cancellation is refused, or ends an intent that was not captured. -/
theorem cancel_cases (stripe : Stripe) (intentId : StripeId) :
    (stripe.cancel intentId = (stripe, false)) ∨
    (stripe.cancel intentId).2 = true ∧
      (∃ intent, IntentStep stripe (stripe.cancel intentId).1 intentId .canceled intent
        (fun i => { i with status := .canceled })) ∧
      ∃ object, (stripe.cancel intentId).1.events = stripe.events ++
        [⟨stripe.events.length, .paymentIntentCanceled, none, .intent object⟩] ∧
        object.id = intentId := by
  have ends {status : IntentStatus} (held : stripe.intentStatus intentId = some status)
      (move : IntentMove status .canceled) :
      (∃ intent, IntentStep stripe
        ((stripe.setIntent intentId .canceled).emitIntent .paymentIntentCanceled intentId) intentId
        .canceled intent (fun i => { i with status := .canceled })) ∧
      ∃ object, ((stripe.setIntent intentId .canceled).emitIntent .paymentIntentCanceled
        intentId).events = stripe.events ++
          [⟨stripe.events.length, .paymentIntentCanceled, none, .intent object⟩] ∧
        object.id = intentId := by
    obtain ⟨intent, present, status⟩ := intentStatus_some.mp held
    have moved : (stripe.setIntent intentId .canceled).intents.get intentId =
        some { intent with status := .canceled } := Table.get_patch_self present _
    refine ⟨⟨intent, present, status ▸ move, rfl, rfl, ?_, ?_, ?_⟩, ?_⟩
    · exact (emitIntent_same _ _ _).intents
    · exact (emitIntent_same _ _ _).refunds
    · exact (emitIntent_same _ _ _).transfers
    · simp only [emitIntent, moved]
      exact ⟨_, rfl, rfl⟩
  unfold cancel
  split
  · rename_i held
    exact Or.inr ⟨rfl, ends held .drop⟩
  · rename_i held
    exact Or.inr ⟨rfl, ends held .release⟩
  · exact Or.inl rfl

/-! ### Refunds and transfers -/

/-- A refund is added, with the event that tells of it. -/
theorem addRefund_events (stripe : Stripe) (refund : StripeRefund) :
    ∃ currency, (stripe.addRefund refund).events = stripe.events ++
      [⟨stripe.events.length, .refundCreated, none, .refund
        ⟨stripe.refunds.next, some refund.intentId, refund.status, refund.failureReason,
          some refund.amount, currency⟩⟩] := by
  simp only [addRefund, emitRefund, Table.get_insert_next]
  exact ⟨_, rfl⟩

theorem addRefund_refunds (stripe : Stripe) (refund : StripeRefund) :
    (stripe.addRefund refund).refunds = stripe.refunds.insert refund :=
  (emitRefund_same _ _ _).refunds

theorem addRefund_intents (stripe : Stripe) (refund : StripeRefund) :
    (stripe.addRefund refund).intents = stripe.intents :=
  (emitRefund_same _ _ _).intents

theorem addRefund_transfers (stripe : Stripe) (refund : StripeRefund) :
    (stripe.addRefund refund).transfers = stripe.transfers :=
  (emitRefund_same _ _ _).transfers

/-- A requested refund is the one made before, none, or all that is left. -/
theorem createRefund_cases (stripe : Stripe) (refundId : RefundId) (intentId : StripeId)
    (status : StripeRefundStatus) :
    (∃ id found, stripe.refunds.get id = some found ∧ found.requestedBy = some refundId ∧
      stripe.createRefund refundId intentId status = (stripe, some id)) ∨
    ((∀ id found, stripe.refunds.get id = some found → found.requestedBy ≠ some refundId) ∧
      ((stripe.refundable intentId ≤ 0 ∧
          stripe.createRefund refundId intentId status = (stripe, none)) ∨
        (0 < stripe.refundable intentId ∧ stripe.createRefund refundId intentId status =
          (stripe.addRefund ⟨intentId, (stripe.refundable intentId).toNat, status, none,
            some refundId⟩, some stripe.refunds.next)))) := by
  unfold createRefund
  cases found : stripe.refunds.first fun r => r.requestedBy == some refundId with
  | some row =>
      obtain ⟨present, matched⟩ := Table.first_row found
      exact Or.inl ⟨row.1, row.2, present, by simpa using matched, rfl⟩
  | none =>
      refine Or.inr ⟨fun id row present => by simpa using Table.first_none found present, ?_⟩
      dsimp only
      by_cases left : stripe.refundable intentId ≤ 0
      · exact Or.inl ⟨left, if_pos left⟩
      · exact Or.inr ⟨Int.not_le.mp left, if_neg left⟩

theorem createTransfer_cases (stripe : Stripe) (itemId : ItemId) (item : PayoutItem) :
    (stripe.createTransfer itemId item).1 = stripe ∨
      (∀ id t, stripe.transfers.get id = some t → t.idempotencyKey ≠ item.idempotencyKey) ∧
      (stripe.createTransfer itemId item).1 =
        { stripe with
          transfers := stripe.transfers.insert
            { amount := item.amountCents, currency := item.currency,
              destination := item.destinationAccountId, itemId,
              idempotencyKey := item.idempotencyKey } } := by
  unfold createTransfer
  cases found : stripe.transfers.first fun t => t.idempotencyKey == item.idempotencyKey with
  | some row => exact Or.inl rfl
  | none =>
      refine Or.inr ⟨?_, rfl⟩
      intro id t present
      simpa using Table.first_none found present

theorem createIntent_cases (stripe : Stripe) (attemptId : AttemptId) (attempt : PaymentAttempt) :
    (∃ id intent, stripe.intents.get id = some intent ∧ intent.attemptId = attemptId ∧
      stripe.createIntent attemptId attempt = (stripe, id)) ∨
    ((∀ id intent, stripe.intents.get id = some intent → intent.attemptId ≠ attemptId) ∧
      ∃ intent, intent.attemptId = attemptId ∧ intent.status = .requiresPaymentMethod ∧
        stripe.createIntent attemptId attempt =
          ({ stripe with intents := stripe.intents.insert intent }, stripe.intents.next)) := by
  unfold createIntent
  cases found : stripe.intents.first fun i => i.attemptId == attemptId with
  | some row =>
      obtain ⟨present, matched⟩ := Table.first_row found
      exact Or.inl ⟨row.1, row.2, present, by simpa using matched, rfl⟩
  | none =>
      refine Or.inr ⟨fun id intent present => by simpa using Table.first_none found present, _,
        rfl, rfl, rfl⟩

/-! ### Transfers are made by one request only -/

theorem capture_transfers (stripe : Stripe) (intentId : StripeId) :
    (stripe.capture intentId).1.transfers = stripe.transfers := by
  rcases capture_cases stripe intentId with ⟨same, _⟩ | ⟨⟨_, moved⟩, _⟩
  · rw [same]
  · exact moved.transfers

theorem cancel_transfers (stripe : Stripe) (intentId : StripeId) :
    (stripe.cancel intentId).1.transfers = stripe.transfers := by
  rcases cancel_cases stripe intentId with same | ⟨_, ⟨_, moved⟩, _⟩
  · rw [same]
  · exact moved.transfers

theorem createRefund_transfers (stripe : Stripe) (refundId : RefundId) (intentId : StripeId)
    (status : StripeRefundStatus) :
    (stripe.createRefund refundId intentId status).1.transfers = stripe.transfers := by
  rcases createRefund_cases stripe refundId intentId status with
    ⟨id, found, _, _, same⟩ | ⟨_, ⟨_, same⟩ | ⟨_, added⟩⟩
  · rw [same]
  · rw [same]
  · rw [added]
    exact addRefund_transfers _ _

theorem createIntent_transfers (stripe : Stripe) (attemptId : AttemptId)
    (attempt : PaymentAttempt) :
    (stripe.createIntent attemptId attempt).1.transfers = stripe.transfers := by
  rcases createIntent_cases stripe attemptId attempt with
    ⟨id, found, _, _, same⟩ | ⟨_, intent, _, _, added⟩
  · rw [same]
  · rw [added]

theorem step_transfers (stripe : Stripe) (op : StripeOp) :
    (stripe.step op).transfers = stripe.transfers := by
  cases op with
  | confirm intentId paymentMethod setupFutureUsage =>
      simp only [step]
      split <;> rfl
  | decline intentId failureCode =>
      simp only [step]
      split
      · exact (emitIntent_same _ _ _).transfers
      · rfl
  | captureOutside intentId => exact capture_transfers stripe intentId
  | cancelOutside intentId => exact cancel_transfers stripe intentId
  | refundOutside intentId amount status =>
      simp only [step]
      split
      · exact addRefund_transfers _ _
      · rfl
  | updateRefund refundId status failureReason =>
      simp only [step]
      split
      · rfl
      · split
        · exact (emitRefund_same _ _ _).transfers
        · rfl
  | createDispute dispute =>
      simp only [step]
      split
      · exact (emitDispute_same _ _ _).transfers
      · rfl
  | updateDispute disputeId status type =>
      simp only [step]
      split
      · exact (emitDispute_same _ _ _).transfers
      · rfl
  | report type connectedAccountId payout =>
      simp only [step]
      split <;> rfl
  | accountUpdated accountId => rfl

/-! ### What lives on -/

/-- What no step takes back from an intent. -/
structure IntentFollows (before after : Intent) : Prop where
  attemptId : after.attemptId = before.attemptId
  captured : before.status = .succeeded → after.status = .succeeded
  canceled : before.status = .canceled → after.status = .canceled

theorem IntentFollows.refl (intent : Intent) : IntentFollows intent intent := ⟨rfl, id, id⟩

/-- What no step takes back from a refund. -/
structure RefundFollows (before after : StripeRefund) : Prop where
  intentId : after.intentId = before.intentId
  amount : after.amount = before.amount
  requestedBy : after.requestedBy = before.requestedBy

theorem RefundFollows.refl (refund : StripeRefund) : RefundFollows refund refund := ⟨rfl, rfl, rfl⟩

/-- What an event says is so at Stripe, then and ever after. -/
def Told (stripe : Stripe) (event : Event) : Prop :=
  match event.object with
  | .intent intent =>
    (event.type = .paymentIntentSucceeded → stripe.intentStatus intent.id = some .succeeded) ∧
      (event.type = .paymentIntentCanceled → stripe.intentStatus intent.id = some .canceled)
  | .refund refund => ∃ r, stripe.refunds.get refund.id = some r ∧
    refund.intentId = some r.intentId ∧ refund.amountCents = some r.amount
  | _ => True

/-- Who asks Stripe to make intents and refunds, and to hold money. -/
structure Allows where
  intent : AttemptId → Prop
  hold : StripeId → Prop
  refund : StripeRefund → Prop

/-- How Stripe goes on: intents and refunds live on, a new one is asked for and
the first for its idempotency key, only a confirmation holds money, and events
tell the truth. -/
structure Follows (allows : Allows) (before after : Stripe) : Prop where
  intents : Table.Follow (fun _ => IntentFollows)
    (fun i => allows.intent i.attemptId ∧
      ∀ id x, before.intents.get id = some x → x.attemptId ≠ i.attemptId)
    before.intents after.intents
  refunds : Table.Follow (fun _ => RefundFollows)
    (fun r => ∀ refundId, r.requestedBy = some refundId → allows.refund r ∧
      ∀ id x, before.refunds.get id = some x → x.requestedBy ≠ some refundId)
    before.refunds after.refunds
  held : ∀ id, after.intentStatus id = some .requiresCapture →
    before.intentStatus id = some .requiresCapture ∨ allows.hold id
  events : ∀ event ∈ after.events, event ∈ before.events ∨ after.Told event

section Follows

variable {allows : Allows}

theorem Follows.refl (stripe : Stripe) : Follows allows stripe stripe :=
  ⟨.refl (fun _ => .refl) _, .refl (fun _ => .refl) _, fun _ => Or.inl, fun _ => Or.inl⟩

theorem Follows.emit {before after : Stripe} (follows : Follows allows before after)
    {type : EventType} {connected : Option StripeId} {object : EventObject}
    (told : after.Told ⟨after.events.length, type, connected, object⟩) :
    Follows allows before (after.emit type connected object) := by
  refine ⟨follows.intents, follows.refunds, follows.held, ?_⟩
  intro event member
  rcases List.mem_append.mp member with old | new
  · exact (follows.events event old).imp_right id
  · rw [List.mem_singleton.mp new]
    exact Or.inr told

theorem Follows.emitIntent {before after : Stripe} (follows : Follows allows before after)
    {type : EventType} {intentId : StripeId}
    (captured : type = .paymentIntentSucceeded → after.intentStatus intentId = some .succeeded)
    (canceled : type = .paymentIntentCanceled → after.intentStatus intentId = some .canceled) :
    Follows allows before (after.emitIntent type intentId) := by
  unfold Stripe.emitIntent
  split
  · exact follows
  · exact follows.emit ⟨captured, canceled⟩

theorem Follows.emitRefund {before after : Stripe} (follows : Follows allows before after)
    (type : EventType) (refundId : StripeId) :
    Follows allows before (after.emitRefund type refundId) := by
  unfold Stripe.emitRefund
  split
  · exact follows
  · rename_i refund present
    exact follows.emit ⟨refund, present, rfl, rfl⟩

theorem Follows.emitDispute {before after : Stripe} (follows : Follows allows before after)
    (type : EventType) (disputeId : StripeId) :
    Follows allows before (after.emitDispute type disputeId) := by
  unfold Stripe.emitDispute
  split
  · exact follows
  · exact follows.emit trivial

/-- An intent that is not over yet may change, and be held if it is confirmed. -/
theorem patch_follows (stripe : Stripe) (intentId : StripeId) {moved : Intent → Intent}
    (attempt : ∀ i, (moved i).attemptId = i.attemptId)
    (unsettled : ∀ i, stripe.intents.get intentId = some i → i.status ≠ .succeeded ∧
      i.status ≠ .canceled ∨ (moved i).status = i.status)
    (held : ∀ i, stripe.intents.get intentId = some i → (moved i).status = .requiresCapture →
      i.status = .requiresCapture ∨ allows.hold intentId) :
    Follows allows stripe
      { stripe with intents := stripe.intents.patch intentId moved } := by
  refine ⟨.patch (fun _ => .refl) ?_, .refl (fun _ => .refl) _, ?_, fun _ => Or.inl⟩
  · intro i present
    rcases unsettled i present with ⟨uncaptured, uncanceled⟩ | same
    · exact ⟨attempt i, fun status => absurd status uncaptured,
        fun status => absurd status uncanceled⟩
    · exact ⟨attempt i, fun status => same.trans status, fun status => same.trans status⟩
  · intro id status
    obtain ⟨after, found, isHeld⟩ := intentStatus_some.mp status
    dsimp only at found
    rw [Table.get_patch] at found
    split at found
    · rename_i here
      obtain ⟨i, present, rfl⟩ := Option.map_eq_some_iff.mp found
      rw [here] at present ⊢
      exact (held i present isHeld).imp_left fun before => intentStatus_some.mpr ⟨i, present, before⟩
    · exact Or.inl (intentStatus_some.mpr ⟨after, found, isHeld⟩)

/-- An intent that is not over yet may end. -/
theorem setIntent_follows (allows : Allows)
    {stripe : Stripe} {intentId : StripeId} {status target : IntentStatus}
    (isNow : stripe.intentStatus intentId = some status) (move : IntentMove status target)
    (ends : target ≠ .requiresCapture) :
    Follows allows stripe (stripe.setIntent intentId target) ∧
      (stripe.setIntent intentId target).intentStatus intentId = some target := by
  obtain ⟨intent, present, rfl⟩ := intentStatus_some.mp isNow
  refine ⟨?_, intentStatus_some.mpr ⟨_, Table.get_patch_self present _, rfl⟩⟩
  refine patch_follows stripe intentId (fun _ => rfl) ?_ fun _ _ isHeld => absurd isHeld ends
  intro i found
  obtain rfl := Option.some.inj (present.symm.trans found)
  refine Or.inl ⟨?_, ?_⟩ <;> intro isOver <;> rw [isOver] at move <;> cases move

theorem capture_follows (stripe : Stripe) (intentId : StripeId) :
    Follows allows stripe (stripe.capture intentId).1 := by
  unfold capture
  split
  · rename_i held
    obtain ⟨follows, done⟩ := setIntent_follows allows held .capture nofun
    exact follows.emitIntent (fun _ => done) nofun
  · exact .refl stripe
  · exact .refl stripe

theorem cancel_follows (stripe : Stripe) (intentId : StripeId) :
    Follows allows stripe (stripe.cancel intentId).1 := by
  unfold cancel
  split
  · rename_i unpaid
    obtain ⟨follows, done⟩ := setIntent_follows allows unpaid .drop nofun
    exact follows.emitIntent nofun fun _ => done
  · rename_i held
    obtain ⟨follows, done⟩ := setIntent_follows allows held .release nofun
    exact follows.emitIntent nofun fun _ => done
  · exact .refl stripe

theorem capture_accepted {stripe : Stripe} {intentId : StripeId}
    (accepted : (stripe.capture intentId).2 = true) :
    (stripe.capture intentId).1.intentStatus intentId = some .succeeded := by
  rcases capture_cases stripe intentId with ⟨same, done⟩ | ⟨⟨intent, moved⟩, _⟩
  · rw [same]
    exact done accepted
  · exact moved.reaches

theorem cancel_accepted {stripe : Stripe} {intentId : StripeId}
    (accepted : (stripe.cancel intentId).2 = true) :
    (stripe.cancel intentId).1.intentStatus intentId = some .canceled := by
  rcases cancel_cases stripe intentId with refused | ⟨_, ⟨intent, moved⟩, _⟩
  · rw [refused] at accepted
    cases accepted
  · exact moved.reaches

theorem createIntent_follows (stripe : Stripe) {attemptId : AttemptId} (attempt : PaymentAttempt)
    (asked : allows.intent attemptId) :
    Follows allows stripe (stripe.createIntent attemptId attempt).1 := by
  rcases createIntent_cases stripe attemptId attempt with
    ⟨id, found, _, _, same⟩ | ⟨first, intent, owner, unpaid, added⟩
  · rw [same]
    exact .refl stripe
  · rw [added]
    refine ⟨.insert (fun _ => .refl) _ (owner ▸ ⟨asked, first⟩), .refl (fun _ => .refl) _, ?_, fun _ => Or.inl⟩
    intro id status
    obtain ⟨i, found, isHeld⟩ := intentStatus_some.mp status
    dsimp only at found
    rw [Table.get_insert] at found
    split at found
    · obtain rfl := Option.some.inj found
      rw [unpaid] at isHeld
      cases isHeld
    · exact Or.inl (intentStatus_some.mpr ⟨i, found, isHeld⟩)

theorem addRefund_follows (stripe : Stripe) (refund : StripeRefund)
    (asked : ∀ refundId, refund.requestedBy = some refundId → allows.refund refund ∧
      ∀ id x, stripe.refunds.get id = some x → x.requestedBy ≠ some refundId) :
    Follows allows stripe (stripe.addRefund refund) := by
  have added : Follows allows stripe
      { stripe with refunds := stripe.refunds.insert refund } :=
    ⟨.refl (fun _ => .refl) _, .insert (fun _ => .refl) _ asked, fun _ => Or.inl, fun _ => Or.inl⟩
  exact added.emitRefund _ _

theorem createRefund_follows (stripe : Stripe) {refundId : RefundId} {intentId : StripeId}
    {status : StripeRefundStatus}
    (asks : 0 < stripe.refundable intentId → allows.refund
      ⟨intentId, (stripe.refundable intentId).toNat, status, none, some refundId⟩) :
    Follows allows stripe (stripe.createRefund refundId intentId status).1 := by
  rcases createRefund_cases stripe refundId intentId status with
    ⟨id, found, _, _, same⟩ | ⟨first, ⟨_, same⟩ | ⟨left, added⟩⟩
  · rw [same]
    exact .refl stripe
  · rw [same]
    exact .refl stripe
  · rw [added]
    refine addRefund_follows stripe _ ?_
    intro other asked
    obtain rfl := Option.some.inj asked
    exact ⟨asks left, first⟩

theorem createTransfer_follows (stripe : Stripe) (itemId : ItemId) (item : PayoutItem) :
    Follows allows stripe (stripe.createTransfer itemId item).1 := by
  rcases createTransfer_cases stripe itemId item with same | ⟨_, added⟩
  · rw [same]
    exact .refl stripe
  · rw [added]
    exact ⟨.refl (fun _ => .refl) _, .refl (fun _ => .refl) _, fun _ => Or.inl, fun _ => Or.inl⟩

end Follows

/-- The caller confirms an intent whose card can now be held. -/
def Confirms (stripe : Stripe) (op : StripeOp) (intentId : StripeId) : Prop :=
  stripe.intentStatus intentId = some .requiresPaymentMethod ∧
    ∃ paymentMethod setupFutureUsage, op = .confirm intentId paymentMethod setupFutureUsage

theorem step_follows (allows : Allows) (stripe : Stripe) (op : StripeOp)
    (confirmed : ∀ intentId, stripe.Confirms op intentId → allows.hold intentId) :
    Follows allows stripe (stripe.step op) := by
  cases op with
  | confirm intentId paymentMethod setupFutureUsage =>
      simp only [step]
      split
      · rename_i unpaid
        refine patch_follows stripe intentId (fun _ => rfl) ?_ ?_
        · intro i present
          obtain ⟨intent, found, status⟩ := intentStatus_some.mp unpaid
          obtain rfl := Option.some.inj (found.symm.trans present)
          rw [status]
          exact Or.inl ⟨nofun, nofun⟩
        · exact fun _ _ _ => Or.inr (confirmed intentId ⟨unpaid, _, _, rfl⟩)
      · exact .refl stripe
  | decline intentId failureCode =>
      simp only [step]
      split
      · refine Follows.emitIntent ?_ nofun nofun
        exact patch_follows stripe intentId (fun _ => rfl) (fun _ _ => Or.inr rfl)
          fun _ _ isHeld => Or.inl isHeld
      · exact .refl stripe
  | captureOutside intentId => exact capture_follows stripe intentId
  | cancelOutside intentId => exact cancel_follows stripe intentId
  | refundOutside intentId amount status =>
      simp only [step]
      split
      · exact addRefund_follows stripe _ nofun
      · exact .refl stripe
  | updateRefund refundId status failureReason =>
      simp only [step]
      split
      · exact .refl stripe
      · split
        · have updated : Follows allows stripe
              { stripe with refunds := stripe.refunds.patch refundId fun r =>
                { r with status, failureReason } } := by
            refine ⟨.refl (fun _ => .refl) _, ?_, fun _ => Or.inl, fun _ => Or.inl⟩
            dsimp only
            exact .patch (fun _ => RefundFollows.refl) fun _ _ => ⟨rfl, rfl, rfl⟩
          exact updated.emitRefund _ _
        · exact .refl stripe
  | createDispute dispute =>
      simp only [step]
      split
      · refine Follows.emitDispute ?_ _ _
        exact ⟨.refl (fun _ => .refl) _, .refl (fun _ => .refl) _, fun _ => Or.inl, fun _ => Or.inl⟩
      · exact .refl stripe
  | updateDispute disputeId status type =>
      simp only [step]
      split
      · refine Follows.emitDispute ?_ _ _
        exact ⟨.refl (fun _ => .refl) _, .refl (fun _ => .refl) _, fun _ => Or.inl, fun _ => Or.inl⟩
      · exact .refl stripe
  | report type connectedAccountId payout =>
      simp only [step]
      split
      · exact (Follows.refl stripe).emit trivial
      · exact .refl stripe
  | accountUpdated accountId => exact (Follows.refl stripe).emit trivial

/-! ### What is told of refunds -/

/-- An event has told of the refund in this status. -/
def Says (stripe : Stripe) (id : StripeId) (status : StripeRefundStatus) : Prop :=
  ∃ event ∈ stripe.events, ∃ refund, event.object = .refund refund ∧ refund.id = id ∧
    refund.status = status

/-- Events stay told, and every refund is as it was or has just been told of. -/
structure Reports (before after : Stripe) : Prop where
  events : ∃ told, after.events = before.events ++ told
  refunds : ∀ id r, after.refunds.get id = some r →
    before.refunds.get id = some r ∨ after.Says id r.status

theorem Reports.keeps {before after : Stripe} (reports : Reports before after) {id : StripeId}
    {status : StripeRefundStatus} (said : before.Says id status) : after.Says id status := by
  obtain ⟨event, member, refund⟩ := said
  obtain ⟨told, events⟩ := reports.events
  exact ⟨event, by rw [events]; exact List.mem_append_left told member, refund⟩

theorem Reports.of_same {before after : Stripe} (refunds : after.refunds = before.refunds)
    (events : ∃ told, after.events = before.events ++ told) : Reports before after :=
  ⟨events, fun _ _ found => Or.inl (refunds ▸ found)⟩

theorem Reports.refl (stripe : Stripe) : Reports stripe stripe :=
  .of_same rfl ⟨[], (List.append_nil _).symm⟩

theorem SameTables.reports {before after : Stripe} (same : SameTables before after) :
    Reports before after := .of_same same.refunds same.events

theorem addRefund_reports (stripe : Stripe) (refund : StripeRefund) :
    Reports stripe (stripe.addRefund refund) := by
  obtain ⟨currency, events⟩ := addRefund_events stripe refund
  refine ⟨⟨_, events⟩, ?_⟩
  intro id r found
  rw [addRefund_refunds, Table.get_insert] at found
  split at found
  · rename_i here
    obtain rfl := Option.some.inj found
    unfold Says
    rw [events]
    exact Or.inr ⟨_, List.mem_append_right _ (List.mem_singleton_self _), _, rfl, here.symm, rfl⟩
  · exact Or.inl found

theorem capture_reports (stripe : Stripe) (intentId : StripeId) :
    Reports stripe (stripe.capture intentId).1 := by
  rcases capture_cases stripe intentId with ⟨same, _⟩ | ⟨⟨_, moved⟩, _, events, _⟩
  · rw [same]
    exact .refl stripe
  · exact .of_same moved.refunds ⟨_, events⟩

theorem cancel_reports (stripe : Stripe) (intentId : StripeId) :
    Reports stripe (stripe.cancel intentId).1 := by
  rcases cancel_cases stripe intentId with same | ⟨_, ⟨_, moved⟩, _, events, _⟩
  · rw [same]
    exact .refl stripe
  · exact .of_same moved.refunds ⟨_, events⟩

theorem createIntent_reports (stripe : Stripe) (attemptId : AttemptId) (attempt : PaymentAttempt) :
    Reports stripe (stripe.createIntent attemptId attempt).1 := by
  rcases createIntent_cases stripe attemptId attempt with
    ⟨id, found, _, _, same⟩ | ⟨_, intent, _, _, added⟩
  · rw [same]
    exact .refl stripe
  · rw [added]
    exact .of_same rfl ⟨[], (List.append_nil _).symm⟩

theorem createRefund_reports (stripe : Stripe) (refundId : RefundId) (intentId : StripeId)
    (status : StripeRefundStatus) :
    Reports stripe (stripe.createRefund refundId intentId status).1 := by
  rcases createRefund_cases stripe refundId intentId status with
    ⟨id, found, _, _, same⟩ | ⟨_, ⟨_, same⟩ | ⟨_, added⟩⟩
  · rw [same]
    exact .refl stripe
  · rw [same]
    exact .refl stripe
  · rw [added]
    exact addRefund_reports stripe _

theorem createTransfer_reports (stripe : Stripe) (itemId : ItemId) (item : PayoutItem) :
    Reports stripe (stripe.createTransfer itemId item).1 := by
  rcases createTransfer_cases stripe itemId item with same | ⟨_, added⟩
  · rw [same]
    exact .refl stripe
  · rw [added]
    exact .of_same rfl ⟨[], (List.append_nil _).symm⟩

theorem updateRefund_reports (stripe : Stripe) {refundId : StripeId} {refund : StripeRefund}
    (present : stripe.refunds.get refundId = some refund) (status : StripeRefundStatus)
    (failureReason : Option String) (type : EventType) :
    Reports stripe ({ stripe with refunds := stripe.refunds.patch refundId fun r =>
      { r with status, failureReason } }.emitRefund type refundId) := by
  have patched := Table.get_patch_self present fun r => { r with status, failureReason }
  refine ⟨(emitRefund_same _ type refundId).events, ?_⟩
  intro id r found
  rw [(emitRefund_same _ type refundId).refunds] at found
  dsimp only at found
  by_cases here : id = refundId
  · subst here
    obtain rfl := Option.some.inj (patched.symm.trans found)
    right
    simp only [emitRefund, patched]
    exact ⟨_, List.mem_append_right _ (List.mem_singleton_self _), _, rfl, rfl, rfl⟩
  · rw [Table.get_patch_of_ne here] at found
    exact Or.inl found

theorem step_reports (stripe : Stripe) (op : StripeOp) : Reports stripe (stripe.step op) := by
  cases op with
  | confirm intentId paymentMethod setupFutureUsage =>
      simp only [step]
      split
      · exact .of_same rfl ⟨[], (List.append_nil _).symm⟩
      · exact .refl stripe
  | decline intentId failureCode =>
      simp only [step]
      split
      · exact .of_same (emitIntent_same _ _ _).refunds (emitIntent_same _ _ _).events
      · exact .refl stripe
  | captureOutside intentId => exact capture_reports stripe intentId
  | cancelOutside intentId => exact cancel_reports stripe intentId
  | refundOutside intentId amount status =>
      simp only [step]
      split
      · exact addRefund_reports stripe _
      · exact .refl stripe
  | updateRefund refundId status failureReason =>
      simp only [step]
      split
      · exact .refl stripe
      · rename_i refund present
        split
        · exact updateRefund_reports stripe present status failureReason _
        · exact .refl stripe
  | createDispute dispute =>
      simp only [step]
      split
      · exact .of_same (emitDispute_same _ _ _).refunds (emitDispute_same _ _ _).events
      · exact .refl stripe
  | updateDispute disputeId status type =>
      simp only [step]
      split
      · exact .of_same (emitDispute_same _ _ _).refunds (emitDispute_same _ _ _).events
      · exact .refl stripe
  | report type connectedAccountId payout =>
      simp only [step]
      split
      · exact (emit_same stripe _ _ _).reports
      · exact .refl stripe
  | accountUpdated accountId => exact (emit_same stripe _ _ _).reports

/-! ### Who captures an intent -/

/-- Only these intents can have been captured. -/
def CapturesOnly (taken : StripeId → Prop) (before after : Stripe) : Prop :=
  ∀ id, after.intentStatus id = some .succeeded →
    before.intentStatus id = some .succeeded ∨ taken id

section Taken

variable {taken : StripeId → Prop}

theorem CapturesOnly.of_intents {before after : Stripe} (same : after.intents = before.intents) :
    CapturesOnly taken before after := by
  intro id captured
  rw [intentStatus, same] at captured
  exact Or.inl captured

/-- The change of one intent captures it, or none. -/
theorem CapturesOnly.patch {before after : Stripe} {intentId : StripeId} (moved : Intent → Intent)
    (patched : after.intents = before.intents.patch intentId moved)
    (settles : ∀ i, before.intents.get intentId = some i → (moved i).status = .succeeded →
      i.status = .succeeded ∨ taken intentId) : CapturesOnly taken before after := by
  intro id captured
  obtain ⟨i, found, status⟩ := intentStatus_some.mp captured
  rw [patched, Table.get_patch] at found
  split at found
  · rename_i here
    obtain ⟨was, present, rfl⟩ := Option.map_eq_some_iff.mp found
    rw [here] at present ⊢
    exact (settles was present status).imp_left fun before =>
      intentStatus_some.mpr ⟨was, present, before⟩
  · exact Or.inl (intentStatus_some.mpr ⟨i, found, status⟩)

theorem capture_captures (stripe : Stripe) {intentId : StripeId} (takes : taken intentId) :
    CapturesOnly taken stripe (stripe.capture intentId).1 := by
  rcases capture_cases stripe intentId with ⟨same, _⟩ | ⟨⟨intent, moved⟩, _⟩
  · rw [same]
    exact .of_intents rfl
  · exact .patch _ moved.intents fun _ _ _ => Or.inr takes

theorem cancel_captures (stripe : Stripe) (intentId : StripeId) :
    CapturesOnly taken stripe (stripe.cancel intentId).1 := by
  rcases cancel_cases stripe intentId with same | ⟨_, ⟨intent, moved⟩, _⟩
  · rw [same]
    exact .of_intents rfl
  · refine .patch _ moved.intents ?_
    intro i _ done
    cases done

theorem createIntent_captures (stripe : Stripe) (attemptId : AttemptId)
    (attempt : PaymentAttempt) :
    CapturesOnly taken stripe (stripe.createIntent attemptId attempt).1 := by
  rcases createIntent_cases stripe attemptId attempt with
    ⟨id, found, _, _, same⟩ | ⟨_, intent, _, unpaid, added⟩
  · rw [same]
    exact .of_intents rfl
  · rw [added]
    intro id captured
    obtain ⟨i, found, status⟩ := intentStatus_some.mp captured
    rcases Table.get_insert_row found with ⟨_, rfl⟩ | old
    · rw [unpaid] at status
      cases status
    · exact Or.inl (intentStatus_some.mpr ⟨i, old, status⟩)

theorem createRefund_captures (stripe : Stripe) (refundId : RefundId) (intentId : StripeId)
    (status : StripeRefundStatus) :
    CapturesOnly taken stripe (stripe.createRefund refundId intentId status).1 := by
  rcases createRefund_cases stripe refundId intentId status with
    ⟨id, found, _, _, same⟩ | ⟨_, ⟨_, same⟩ | ⟨_, added⟩⟩
  · rw [same]
    exact .of_intents rfl
  · rw [same]
    exact .of_intents rfl
  · rw [added]
    exact .of_intents (addRefund_intents stripe _)

theorem createTransfer_captures (stripe : Stripe) (itemId : ItemId) (item : PayoutItem) :
    CapturesOnly taken stripe (stripe.createTransfer itemId item).1 := by
  rcases createTransfer_cases stripe itemId item with same | ⟨_, added⟩
  · rw [same]
    exact .of_intents rfl
  · rw [added]
    exact .of_intents rfl

theorem step_captures (stripe : Stripe) (op : StripeOp)
    (outside : ∀ intentId, op = .captureOutside intentId → taken intentId) :
    CapturesOnly taken stripe (stripe.step op) := by
  cases op with
  | confirm intentId paymentMethod setupFutureUsage =>
      simp only [step]
      split
      · refine .patch (fun i => { i with
          status := .requiresCapture
          paymentMethod := some paymentMethod
          setupFutureUsage }) rfl ?_
        intro i _ done
        cases done
      · exact .of_intents rfl
  | decline intentId failureCode =>
      simp only [step]
      split
      · exact .patch (fun i => { i with lastPaymentError := failureCode })
          (emitIntent_same _ _ _).intents fun _ _ done => Or.inl done
      · exact .of_intents rfl
  | captureOutside intentId => exact capture_captures stripe (outside intentId rfl)
  | cancelOutside intentId => exact cancel_captures stripe intentId
  | refundOutside intentId amount status =>
      simp only [step]
      split
      · exact .of_intents (addRefund_intents stripe _)
      · exact .of_intents rfl
  | updateRefund refundId status failureReason =>
      simp only [step]
      split
      · exact .of_intents rfl
      · split
        · exact .of_intents (emitRefund_same _ _ _).intents
        · exact .of_intents rfl
  | createDispute dispute =>
      simp only [step]
      split
      · exact .of_intents (emitDispute_same _ _ _).intents
      · exact .of_intents rfl
  | updateDispute disputeId status type =>
      simp only [step]
      split
      · exact .of_intents (emitDispute_same _ _ _).intents
      · exact .of_intents rfl
  | report type connectedAccountId payout =>
      simp only [step]
      split
      · exact .of_intents rfl
      · exact .of_intents rfl
  | accountUpdated accountId => exact .of_intents rfl

end Taken

end Stripe

end Bling
