import Bling.Intents

set_option autoImplicit false

namespace Bling

open Library

/-! Which of Stripe's refunds settles which row. -/

/-! ### What a step does to the rows -/

theorem Mutation.refundNews_scheduled (db : DB) (jobs : List (Time × Job)) (m : Mutation) :
    m.refundNews { db with scheduled := jobs } = m.refundNews db := by
  cases m <;> rfl

theorem refundRow_none {db : DB} {event : RefundEvent} (unmatched : refundRow db event = none)
    {id : RefundId} {row : PaymentRefund} (present : db.paymentRefunds.get id = some row) :
    row.stripeRefundId ≠ some event.id ∧
      (event.intentId = some row.stripePaymentIntentId → row.stripeRefundId ≠ none) := by
  unfold refundRow at unmatched
  obtain ⟨byId, byIntent⟩ := Option.or_eq_none_iff.mp unmatched
  refine ⟨by simpa using Table.first_none byId present, ?_⟩
  intro told
  rw [told, Option.bind_some] at byIntent
  simpa [Option.isSome_iff_ne_none] using Table.first_none byIntent present

/-- What a step does to the refund rows. -/
theorem step_refunds (w : World) (input : Ctx × Op) :
    (w.step input).db.paymentRefunds = w.db.paymentRefunds ∨
    ∃ m, input.2.mutation w input.1 = some m ∧
      RefundsChange w.db m (w.step input).db.paymentAttempts w.db.paymentRefunds
        (w.step input).db.paymentRefunds := by
  rcases World.step_ran w input with ⟨_, later, same⟩ | ⟨m, earlier, later, ran, same⟩
  · exact Or.inl (by rw [same])
  · refine Or.inr ⟨m, ran, ?_⟩
    rw [same]
    refine (m.effect input.1 { w.db with scheduled := earlier }).refund_changes.mono ?_ ?_
    · intro id a b change
      cases change with
      | same unchanged => exact .same unchanged
      | claimed request unsettled status named => exact .claimed request unsettled status named
      | retried request processing status named => exact .retried request processing status named
      | recorded request stripeRefundId outcome failureCode asked unsettled status named =>
          exact .recorded request stripeRefundId outcome failureCode asked unsettled status named
      | settled request event asked matched newer status named =>
          exact .settled request event (Mutation.refundNews_scheduled .. ▸ asked) matched newer
            status named
    · rintro refund ⟨of, new⟩
      refine ⟨of, ?_⟩
      cases new with
      | requested own unnamed status => exact .requested own unnamed status
      | found event asked unmatched outside named status =>
          exact .found event (Mutation.refundNews_scheduled .. ▸ asked) unmatched outside named
            status

/-- What a row is after a step: new, as it was, or changed by a mutation. -/
theorem step_refund {w : World} {input : Ctx × Op} {id : RefundId} {b : PaymentRefund}
    (found : (w.step input).db.paymentRefunds.get id = some b) :
    (∃ a, w.db.paymentRefunds.get id = some a ∧ (b = a ∨
      ∃ m, input.2.mutation w input.1 = some m ∧ RefundChange w.db m id a b)) ∨
    id = w.db.paymentRefunds.next ∧
      ∃ m, input.2.mutation w input.1 = some m ∧ NewRefund w.db m b := by
  rcases step_refunds w input with same | ⟨m, ran, changes⟩
  · rw [same] at found
    exact Or.inl ⟨b, found, Or.inl rfl⟩
  · rcases changes.origin id b found with ⟨a, present, change⟩ | ⟨first, _, new⟩
    · exact Or.inl ⟨a, present, Or.inr ⟨m, ran, change⟩⟩
    · exact Or.inr ⟨first, m, ran, new⟩

theorem step_refund_kept (w : World) (input : Ctx × Op) {id : RefundId} {a : PaymentRefund}
    (present : w.db.paymentRefunds.get id = some a) :
    ∃ b, (w.step input).db.paymentRefunds.get id = some b ∧ (b = a ∨
      ∃ m, input.2.mutation w input.1 = some m ∧ RefundChange w.db m id a b) := by
  rcases step_refunds w input with same | ⟨m, ran, changes⟩
  · exact ⟨a, same ▸ present, Or.inl rfl⟩
  · obtain ⟨b, found, change⟩ := changes.kept id a present
    exact ⟨b, found, Or.inr ⟨m, ran, change⟩⟩

/-- What a step tells of refunds. -/
theorem step_reports (w : World) (input : Ctx × Op) :
    Stripe.Reports w.stripe (w.step input).stripe := by
  generalize (w.step input).stripe = stripe, (World.step_moves w input).requested = requested
  cases requested with
  | nothing => exact .refl w.stripe
  | createIntent attemptId attempt flying => exact Stripe.createIntent_reports _ attemptId attempt
  | capture callId tries attemptId intentId flying => exact Stripe.capture_reports _ intentId
  | release attemptId intentId flying => exact Stripe.cancel_reports _ intentId
  | cancel attemptId intentId reason flying => exact Stripe.cancel_reports _ intentId
  | createRefund refundId refund outcome status flying asked reaches unrecorded =>
      exact Stripe.createRefund_reports _ refundId _ status
  | createTransfer itemId item flying => exact Stripe.createTransfer_reports _ itemId item
  | own op asked => exact Stripe.step_reports w.stripe op

/-! ### Where rows and refunds part -/

/-- An event about one refund settles the row of another whose id isn't
recorded yet. -/
def adopts (stripe : Stripe) (db : DB) (event : RefundEvent) : Bool :=
  match refundRow db event with
  | none => false
  | some (refundId, refund) => refund.stripeRefundId == none &&
      (stripe.refunds.get event.id).bind StripeRefund.requestedBy != some refundId

/-- An event leaves its refund without a row: nothing says which call it gives
back, or the row it could have has given up. -/
def drops (ctx : Ctx) (db : DB) (event : RefundEvent) : Bool :=
  match refundRow db event with
  | none => (outsideRefund ctx db event).isNone
  | some (_, refund) => refund.stripeRefundId == none && refund.status.final &&
      statusFromStripe event.status == .pending

/-- Stripe gives back all that is left of an intent, and that is not what the
row asks for. -/
def shortChanges (w : World) : Op → Bool
  | .advance (.refunding refundId refund) outcome _ =>
    decide (.refunding refundId refund ∈ w.flights) &&
      (outcome == .answered || outcome == .lost) && refund.stripeRefundId == none &&
      (w.stripe.refunds.first fun r => r.requestedBy == some refundId).isNone &&
      decide (0 < w.stripe.refundable refund.stripePaymentIntentId) &&
      w.stripe.refundable refund.stripePaymentIntentId != refund.amountCents
  | _ => false

/-- The refund event a step applies. -/
def World.refundNews (w : World) (input : Ctx × Op) : Option RefundEvent :=
  (input.2.mutation w input.1).bind fun m => m.refundNews w.db

/-- A step after which a row and Stripe's refunds do not agree. -/
def World.misrefunds (w : World) (input : Ctx × Op) : Bool :=
  (w.refundNews input).any (fun event => adopts w.stripe w.db event || drops input.1 w.db event) ||
    shortChanges w input.2

/-! ### What is known -/

/-- The row a refund of Stripe's must have been made for if it settles this one. -/
def PaymentRefund.requester (refund : PaymentRefund) (id : RefundId) : Option RefundId :=
  if refund.reason = .outsideBling then none else some id

def Stripe.AskedBy (stripe : Stripe) (id : StripeId) (requester : Option RefundId) : Prop :=
  ∃ r, stripe.refunds.get id = some r ∧ r.requestedBy = requester

theorem Stripe.AskedBy.follow {allows : Stripe.Allows} {before after : Stripe} {id : StripeId}
    {requester : Option RefundId} (asked : before.AskedBy id requester)
    (follow : Stripe.Follows allows before after) : after.AskedBy id requester := by
  obtain ⟨r, present, by_⟩ := asked
  obtain ⟨kept, found, follows⟩ := follow.refunds.kept id r present
  exact ⟨kept, found, follows.requestedBy.trans by_⟩

/-- What the worker takes to be so of a row while it is in flight. -/
def Flight.Owed (w : World) : Flight → Prop
  | .refunding refundId refund => ∃ row, w.db.paymentRefunds.get refundId = some row ∧
    SameRequest refund row ∧
    (refund.reason = .outsideBling → refund.stripeRefundId ≠ none) ∧
    ∀ id, refund.stripeRefundId = some id → row.stripeRefundId = some id
  | .recordingRefund refundId id outcome _ => ∃ row, w.db.paymentRefunds.get refundId = some row ∧
    w.stripe.AskedBy id (row.requester refundId) ∧
    (row.reason = .outsideBling → row.stripeRefundId = some id) ∧
    (outcome = .succeeded → w.stripe.Says id .succeeded)
  | _ => True

/-- What is so of refund rows, the worker and Stripe's refunds. -/
structure RefundsSound (w : World) : Prop where
  asked : ∀ id r refundId, w.stripe.refunds.get id = some r → r.requestedBy = some refundId →
    ∃ row, w.db.paymentRefunds.get refundId = some row ∧ row.reason ≠ .outsideBling ∧
      r.intentId = row.stripePaymentIntentId ∧ r.amount = row.amountCents
  askedOnce : ∀ i j x y refundId, w.stripe.refunds.get i = some x →
    w.stripe.refunds.get j = some y → x.requestedBy = some refundId →
    y.requestedBy = some refundId → i = j
  told : ∀ id r, w.stripe.refunds.get id = some r → w.stripe.Says id r.status
  outside : ∀ refundId row, w.db.paymentRefunds.get refundId = some row →
    row.reason = .outsideBling → row.stripeRefundId ≠ none
  named : ∀ refundId row id, w.db.paymentRefunds.get refundId = some row →
    row.stripeRefundId = some id → w.stripe.AskedBy id (row.requester refundId)
  once : ∀ i j a b id, w.db.paymentRefunds.get i = some a → w.db.paymentRefunds.get j = some b →
    a.stripeRefundId = some id → b.stripeRefundId = some id → i = j
  flying : ∀ flight ∈ w.flights, flight.Owed w
  own : ∀ refundId row, w.db.paymentRefunds.get refundId = some row →
    row.reason ≠ .outsideBling → row.status = .succeeded →
    ∃ id, row.stripeRefundId = some id ∧ w.stripe.Says id .succeeded

theorem SameRequest.requester {before after : PaymentRefund} (same : SameRequest before after)
    (id : RefundId) : after.requester id = before.requester id := by
  simp only [PaymentRefund.requester, same.reason]

section Step

variable {w : World} {input : Ctx × Op}

/-- A row that has a Stripe id keeps it, whatever the worker records. -/
theorem RefundsSound.keepsName (sound : RefundsSound w) {m : Mutation} {refundId : RefundId}
    {a b : PaymentRefund} {id : StripeId} (ran : input.2.mutation w input.1 = some m)
    (present : w.db.paymentRefunds.get refundId = some a)
    (change : RefundChange w.db m refundId a b) (named : a.stripeRefundId = some id) :
    b.stripeRefundId = some id := by
  rcases change.named named with kept | ⟨other, outcome, failureCode, asked, renamed⟩
  · exact kept
  · obtain ⟨flight, flying, ends⟩ := Op.mutation_ofAction ran (by rw [asked]; rfl)
    rw [asked] at ends
    cases flight <;> cases ends
    obtain ⟨row, located, ⟨y, made, by_⟩, outside, _⟩ := sound.flying _ flying
    obtain rfl := Option.some.inj (present.symm.trans located)
    by_cases isOutside : a.reason = .outsideBling
    · rw [renamed, ← named, outside isOutside]
    · obtain ⟨x, found, owner⟩ := sound.named refundId a id present named
      simp only [PaymentRefund.requester, if_neg isOutside] at by_ owner
      rw [renamed, sound.askedOnce id other x y refundId found made owner by_]

/-- A row lives on with what it asks for and the Stripe id it has. -/
theorem RefundsSound.rowKept (sound : RefundsSound w) (input : Ctx × Op) {refundId : RefundId}
    {a : PaymentRefund} (present : w.db.paymentRefunds.get refundId = some a) :
    ∃ b, (w.step input).db.paymentRefunds.get refundId = some b ∧ SameRequest a b ∧
      ∀ id, a.stripeRefundId = some id → b.stripeRefundId = some id := by
  obtain ⟨b, found, rfl | ⟨m, ran, change⟩⟩ := step_refund_kept w input present
  · exact ⟨b, found, .refl b, fun _ => id⟩
  · exact ⟨b, found, change.request, fun _ => sound.keepsName ran present change⟩

/-- The Stripe id a row has after a step is the one it had, or that of a refund
made for it. -/
theorem RefundsSound.namedStep (sound : RefundsSound w) (intents : IntentsSound w)
    (met : w.misrefunds input = false) {refundId : RefundId} {b : PaymentRefund} {id : StripeId}
    (found : (w.step input).db.paymentRefunds.get refundId = some b)
    (named : b.stripeRefundId = some id) : w.stripe.AskedBy id (b.requester refundId) := by
  have guarded := (Bool.or_eq_false_iff.mp met).1
  rcases step_refund found with ⟨a, present, rfl | ⟨m, ran, change⟩⟩ | ⟨_, m, ran, new⟩
  · exact sound.named refundId b id present named
  · rw [change.request.requester]
    have old (had : a.stripeRefundId = some id) : w.stripe.AskedBy id (a.requester refundId) :=
      sound.named refundId a id present had
    cases change with
    | same unchanged => exact old (unchanged ▸ named)
    | claimed request unsettled status kept => exact old (kept.symm.trans named)
    | retried request processing status kept => exact old (kept.symm.trans named)
    | recorded request other outcome failureCode asked unsettled status renamed =>
        obtain ⟨flight, flying, ends⟩ := Op.mutation_ofAction ran (by rw [asked]; rfl)
        rw [asked] at ends
        cases flight <;> cases ends
        obtain ⟨row, located, made, _⟩ := sound.flying _ flying
        obtain rfl := Option.some.inj (present.symm.trans located)
        obtain rfl := Option.some.inj (named.symm.trans renamed)
        exact made
    | settled request event asked matched newer status renamed =>
        cases had : a.stripeRefundId with
        | some other =>
            rw [had, Option.getD_some] at renamed
            exact old (had.trans (renamed.symm.trans named))
        | none =>
            rw [had, Option.getD_none] at renamed
            obtain rfl := Option.some.inj (named.symm.trans renamed)
            have own : a.reason ≠ .outsideBling := fun is =>
              sound.outside refundId a present is had
            simp only [PaymentRefund.requester, if_neg own]
            have made : adopts w.stripe w.db event = false := by
              simp only [World.refundNews, ran, Option.bind_some, asked, Option.any_some,
                Bool.or_eq_false_iff] at guarded
              exact guarded.1
            simp only [adopts, matched, had, beq_self_eq_true, Bool.true_and,
              bne_eq_false_iff_eq] at made
            exact Option.bind_eq_some_iff.mp made
  · cases new with
    | requested own unnamed status =>
        rw [unnamed] at named
        cases named
    | found event asked unmatched outside renamed status =>
        obtain rfl := Option.some.inj (named.symm.trans renamed)
        simp only [PaymentRefund.requester, if_pos outside]
        obtain ⟨whole, rfl, object, _⟩ := Mutation.refundNews_event asked
        have told := intents.events whole (Op.mutation_event ran)
        simp only [Stripe.Told, object] at told
        obtain ⟨r, made, about, _⟩ := told
        refine ⟨r, made, ?_⟩
        -- A refund that Bling asked for would have met the row it was asked for.
        by_contra asks
        obtain ⟨asker, by_⟩ := Option.ne_none_iff_exists'.mp asks
        obtain ⟨row, located, own, intent, _⟩ := sound.asked event.id r asker made by_
        obtain ⟨apart, hasName⟩ := refundRow_none unmatched located
        obtain ⟨other, isNamed⟩ :=
          Option.ne_none_iff_exists'.mp (hasName (about.trans (congrArg some intent)))
        obtain ⟨x, given, owner⟩ := sound.named asker row other located isNamed
        simp only [PaymentRefund.requester, if_neg own] at owner
        obtain rfl := sound.askedOnce other event.id x r asker given made owner by_
        exact apart isNamed

/-- A row for a refund made outside Bling had its Stripe id before, or is the
first with it. -/
theorem RefundsSound.outsideStep (sound : RefundsSound w) {refundId : RefundId}
    {b : PaymentRefund} {id : StripeId}
    (found : (w.step input).db.paymentRefunds.get refundId = some b)
    (outside : b.reason = .outsideBling) (named : b.stripeRefundId = some id) :
    (∃ a, w.db.paymentRefunds.get refundId = some a ∧ a.stripeRefundId = some id) ∨
    refundId = w.db.paymentRefunds.next ∧
      ∀ other row, w.db.paymentRefunds.get other = some row → row.stripeRefundId ≠ some id := by
  rcases step_refund found with ⟨a, present, rfl | ⟨m, ran, change⟩⟩ | ⟨first, m, _, new⟩
  · exact Or.inl ⟨b, present, named⟩
  · refine Or.inl ⟨a, present, ?_⟩
    have had := sound.outside refundId a present (change.request.reason.symm.trans outside)
    obtain ⟨other, isNamed⟩ := Option.ne_none_iff_exists'.mp had
    rw [isNamed, ← sound.keepsName ran present change isNamed, named]
  · cases new with
    | requested own unnamed status => exact absurd outside own
    | found event asked unmatched outside renamed status =>
        obtain rfl := Option.some.inj (named.symm.trans renamed)
        exact Or.inr ⟨first, fun _ _ located => (refundRow_none unmatched located).1⟩

/-- A row that Bling asked for succeeds when Stripe has told so of its refund. -/
theorem RefundsSound.succeeds (sound : RefundsSound w) {m : Mutation} {refundId : RefundId}
    {a b : PaymentRefund} (ran : input.2.mutation w input.1 = some m)
    (present : w.db.paymentRefunds.get refundId = some a)
    (change : RefundChange w.db m refundId a b) (own : b.reason ≠ .outsideBling)
    (succeeded : b.status = .succeeded) :
    ∃ id, b.stripeRefundId = some id ∧ w.stripe.Says id .succeeded := by
  cases change with
  | same unchanged =>
      subst unchanged
      exact sound.own refundId b present own succeeded
  | claimed request unsettled status named => cases status.symm.trans succeeded
  | retried request processing status named =>
      rcases status with status | status <;> cases status.symm.trans succeeded
  | recorded request id outcome failureCode asked unsettled status named =>
      obtain ⟨flight, flying, ends⟩ := Op.mutation_ofAction ran (by rw [asked]; rfl)
      rw [asked] at ends
      cases flight <;> cases ends
      obtain ⟨_, _, _, _, said⟩ := sound.flying _ flying
      refine ⟨id, named, said ?_⟩
      cases outcome <;> first | rfl | cases status.symm.trans succeeded
  | settled request event asked matched newer status named =>
      obtain ⟨whole, rfl, object, _⟩ := Mutation.refundNews_event asked
      have isNow : event.status = .succeeded := by
        cases isNow : event.status <;> rw [isNow] at status <;>
          first | rfl | cases status.symm.trans succeeded
      refine ⟨event.id, ?_, whole, Op.mutation_event ran, event, object, rfl, isNow⟩
      rcases (refundRow_some matched).2 with had | ⟨had, _⟩ <;> rw [named, had] <;> rfl

/-- What the worker takes to be so stays so. -/
theorem RefundsSound.owedKept (sound : RefundsSound w) (input : Ctx × Op) {flight : Flight}
    (flying : flight ∈ w.flights) : flight.Owed (w.step input) := by
  have owed := sound.flying flight flying
  cases flight with
  | refunding refundId refund =>
      obtain ⟨row, present, same, outside, named⟩ := owed
      obtain ⟨b, found, lives, keeps⟩ := sound.rowKept input present
      exact ⟨b, found, same.trans lives, outside, fun id had => keeps id (named id had)⟩
  | recordingRefund refundId id outcome failureCode =>
      obtain ⟨row, present, made, outside, said⟩ := owed
      obtain ⟨b, found, lives, keeps⟩ := sound.rowKept input present
      refine ⟨b, found, ?_, ?_, fun succeeded => (step_reports w input).keeps (said succeeded)⟩
      · rw [lives.requester]
        exact made.follow (step_stripe w input)
      · exact fun isOutside => keeps id (outside (lives.reason.symm.trans isOutside))
  | _ => trivial

/-- What a flight that a step adds takes to be so of its row. -/
theorem RefundsSound.launched (sound : RefundsSound w)
    (told : ∀ id r, (w.step input).stripe.refunds.get id = some r →
      (w.step input).stripe.Says id r.status)
    (outside : ∀ refundId row, (w.step input).db.paymentRefunds.get refundId = some row →
      row.reason = .outsideBling → row.stripeRefundId ≠ none)
    (named : ∀ refundId row id, (w.step input).db.paymentRefunds.get refundId = some row →
      row.stripeRefundId = some id → (w.step input).stripe.AskedBy id (row.requester refundId))
    {flight : Flight} (launched : World.Launched w input (w.step input).stripe flight) :
    flight.Owed (w.step input) := by
  -- An answer from Stripe is what an event has told.
  have tells {id : StripeId} {r : StripeRefund}
      (present : (w.step input).stripe.refunds.get id = some r)
      (succeeded : statusFromStripe r.status = .succeeded) :
      (w.step input).stripe.Says id .succeeded := by
    have said := told id r present
    cases status : r.status <;> simp only [status, statusFromStripe, reduceCtorEq] at succeeded said
    exact said
  cases launched with
  | refunding refundId refund present =>
      exact ⟨refund, present, .refl refund, outside refundId refund present, fun _ => id⟩
  | refundFound refundId refund id found flying recorded present same =>
      obtain ⟨row, kept, _, _, keeps⟩ := sound.owedKept input flying
      have had := keeps id recorded
      exact ⟨row, kept, named refundId row id kept had, fun _ => had, tells (same ▸ present)⟩
  | refundCreated refundId refund status id found flying unrecorded created done present =>
      obtain ⟨row, kept, same, outside, _⟩ := sound.owedKept input flying
      have own : row.reason ≠ .outsideBling := fun is =>
        outside (same.reason.symm.trans is) unrecorded
      refine ⟨row, kept, ?_, fun is => absurd is own, tells present⟩
      simp only [PaymentRefund.requester, if_neg own]
      rw [done]
      rcases Stripe.createRefund_cases w.stripe refundId refund.stripePaymentIntentId status with
        ⟨other, r, made, by_, answered⟩ | ⟨_, ⟨_, answered⟩ | ⟨_, answered⟩⟩
      · rw [answered] at created ⊢
        obtain rfl := Option.some.inj created
        exact ⟨r, made, by_⟩
      · rw [answered] at created
        cases created
      · rw [answered] at created ⊢
        obtain rfl := Option.some.inj created
        unfold Stripe.AskedBy
        rw [Stripe.addRefund_refunds, Table.get_insert_next]
        exact ⟨_, rfl, rfl⟩
  | _ => trivial

/-- The refund the worker has made is its row's, unless the amounts differ. -/
theorem RefundsSound.refunded (sound : RefundsSound w) (met : w.misrefunds input = false)
    {r : StripeRefund} {refundId : RefundId} (made : w.Refunds input r)
    (by_ : r.requestedBy = some refundId)
    (first : ∀ id x, w.stripe.refunds.get id = some x → x.requestedBy ≠ some refundId) :
    ∃ row, w.db.paymentRefunds.get refundId = some row ∧ row.reason ≠ .outsideBling ∧
      r.intentId = row.stripePaymentIntentId ∧ r.amount = row.amountCents := by
  obtain ⟨asker, refund, outcome, status, asked, flying, reaches, unrecorded, left, rfl⟩ := made
  obtain rfl := Option.some.inj by_
  obtain ⟨row, present, same, outside, _⟩ := sound.flying _ flying
  have own : row.reason ≠ .outsideBling := fun is =>
    outside (same.reason.symm.trans is) unrecorded
  have unasked : w.stripe.refunds.first (fun r => r.requestedBy == some asker) = none := by
    cases found : w.stripe.refunds.first fun r => r.requestedBy == some asker with
    | none => rfl
    | some row =>
        obtain ⟨located, matched⟩ := Table.first_row found
        exact absurd (by simpa using matched) (first row.1 row.2 located)
  have full : w.stripe.refundable refund.stripePaymentIntentId = refund.amountCents := by
    have guarded := (Bool.or_eq_false_iff.mp met).2
    have reached : (outcome == .answered || outcome == .lost) = true := by
      rcases reaches with rfl | rfl <;> rfl
    simpa [asked, shortChanges, flying, reached, unrecorded, unasked, left] using guarded
  refine ⟨row, present, own, same.stripePaymentIntentId.symm, ?_⟩
  rw [same.amountCents, full]
  rfl

theorem RefundsSound.step (sound : RefundsSound w) (intents : IntentsSound w)
    (met : w.misrefunds input = false) : RefundsSound (w.step input) := by
  have stripe := step_stripe w input
  have reports := step_reports w input
  have told (id : StripeId) (r : StripeRefund)
      (found : (w.step input).stripe.refunds.get id = some r) :
      (w.step input).stripe.Says id r.status := by
    rcases reports.refunds id r found with old | said
    · exact reports.keeps (sound.told id r old)
    · exact said
  have outside (refundId : RefundId) (row : PaymentRefund)
      (found : (w.step input).db.paymentRefunds.get refundId = some row)
      (is : row.reason = .outsideBling) : row.stripeRefundId ≠ none := by
    rcases step_refund found with ⟨a, present, rfl | ⟨m, ran, change⟩⟩ | ⟨_, m, _, new⟩
    · exact sound.outside refundId row present is
    · have had := sound.outside refundId a present (change.request.reason.symm.trans is)
      obtain ⟨id, named⟩ := Option.ne_none_iff_exists'.mp had
      rw [sound.keepsName ran present change named]
      nofun
    · cases new with
      | requested own unnamed status => exact absurd is own
      | found event asked unmatched outside named status =>
          rw [named]
          nofun
  have named (refundId : RefundId) (row : PaymentRefund) (id : StripeId)
      (found : (w.step input).db.paymentRefunds.get refundId = some row)
      (named : row.stripeRefundId = some id) :
      (w.step input).stripe.AskedBy id (row.requester refundId) :=
    (sound.namedStep intents met found named).follow stripe
  refine ⟨?_, ?_, told, outside, named, ?_, ?_, ?_⟩
  · intro id r refundId found by_
    obtain ⟨row, present, own, intent, amount⟩ : ∃ row,
        w.db.paymentRefunds.get refundId = some row ∧ row.reason ≠ .outsideBling ∧
          r.intentId = row.stripePaymentIntentId ∧ r.amount = row.amountCents := by
      rcases stripe.refunds.origin id r found with ⟨was, present, follows⟩ | ⟨_, new⟩
      · rw [follows.intentId, follows.amount]
        exact sound.asked id was refundId present (follows.requestedBy.symm.trans by_)
      · exact sound.refunded met (new refundId by_).1 by_ (new refundId by_).2
    obtain ⟨b, kept, same, _⟩ := sound.rowKept input present
    exact ⟨b, kept, same.reason ▸ own, intent.trans same.stripePaymentIntentId.symm,
      amount.trans same.amountCents.symm⟩
  · intro i j x y refundId foundX foundY byX byY
    rcases stripe.refunds.origin i x foundX with ⟨wasX, presentX, followsX⟩ | ⟨firstX, newX⟩
    · rcases stripe.refunds.origin j y foundY with ⟨wasY, presentY, followsY⟩ | ⟨_, newY⟩
      · exact sound.askedOnce i j wasX wasY refundId presentX presentY
          (followsX.requestedBy.symm.trans byX) (followsY.requestedBy.symm.trans byY)
      · exact absurd (followsX.requestedBy.symm.trans byX)
          ((newY refundId byY).2 i wasX presentX)
    · rcases stripe.refunds.origin j y foundY with ⟨wasY, presentY, followsY⟩ | ⟨firstY, _⟩
      · exact absurd (followsY.requestedBy.symm.trans byY)
          ((newX refundId byX).2 j wasY presentY)
      · exact firstX.trans firstY.symm
  · intro i j a b id foundA foundB namedA namedB
    obtain ⟨x, given, byA⟩ := named i a id foundA namedA
    obtain ⟨y, same, byB⟩ := named j b id foundB namedB
    obtain rfl := Option.some.inj (given.symm.trans same)
    have requesters : a.requester i = b.requester j := byA.symm.trans byB
    by_cases isOutside : a.reason = .outsideBling
    · have alsoOutside : b.reason = .outsideBling := by
        by_contra own
        simp [PaymentRefund.requester, isOutside, own] at requesters
      rcases sound.outsideStep foundA isOutside namedA with ⟨wasA, heldA, hadA⟩ | ⟨firstA, newA⟩
      · rcases sound.outsideStep foundB alsoOutside namedB with ⟨wasB, heldB, hadB⟩ | ⟨_, newB⟩
        · exact sound.once i j wasA wasB id heldA heldB hadA hadB
        · exact absurd hadA (newB i wasA heldA)
      · rcases sound.outsideStep foundB alsoOutside namedB with ⟨wasB, heldB, hadB⟩ | ⟨firstB, _⟩
        · exact absurd hadB (newA j wasB heldB)
        · exact firstA.trans firstB.symm
    · simp only [PaymentRefund.requester, if_neg isOutside] at requesters
      split at requesters
      · cases requesters
      · exact Option.some.inj requesters
  · intro flight member
    rcases (World.step_moves w input).launched flight member with old | new
    · exact sound.owedKept input old
    · exact sound.launched told outside named new
  · intro refundId b found own succeeded
    rcases step_refund found with ⟨a, present, rfl | ⟨m, ran, change⟩⟩ | ⟨_, m, _, new⟩
    · obtain ⟨id, had, said⟩ := sound.own refundId b present own succeeded
      exact ⟨id, had, reports.keeps said⟩
    · obtain ⟨id, had, said⟩ := sound.succeeds ran present change own succeeded
      exact ⟨id, had, reports.keeps said⟩
    · cases new with
      | requested own unnamed status => cases status.symm.trans succeeded
      | found event asked unmatched outside named status => exact absurd outside own

end Step

/-! ### Events that are applied -/

/-- Unless it is dropped, an event leaves a row with its refund's id. -/
theorem applyRefund_named (ctx : Ctx) (db : DB) (event : RefundEvent)
    (kept : drops ctx db event = false) :
    ∃ id row, (applyRefund ctx db event).paymentRefunds.get id = some row ∧
      row.stripeRefundId = some event.id := by
  unfold applyRefund drops at *
  cases matched : refundRow db event with
  | some found =>
      obtain ⟨refundId, refund⟩ := found
      obtain ⟨present, named⟩ := refundRow_some matched
      simp only [matched, Bool.and_eq_false_iff, beq_eq_false_iff_ne] at kept ⊢
      by_cases older : refund.status.final = true ∧ statusFromStripe event.status = .pending
      · rw [settleRefund_stale ctx _ event refundId refund older]
        refine ⟨refundId, refund, present, named.resolve_right ?_⟩
        rintro ⟨unnamed, _⟩
        rcases kept with (had | unsettled) | final
        · exact had unnamed
        · rw [older.1] at unsettled
          cases unsettled
        · exact final older.2
      · rw [(settleRefund_same ctx db event present older).paymentRefunds]
        refine ⟨refundId, _, Table.get_patch_self present _, ?_⟩
        rcases named with had | ⟨had, _⟩ <;> simp only [settledPatch, had] <;> rfl
  | none =>
      simp only [matched, Option.isNone_eq_false_iff] at kept ⊢
      obtain ⟨refund, outside⟩ := Option.isSome_iff_exists.mp kept
      obtain ⟨_, _, _, _, _, _, named, pending, _⟩ := outsideRefund_of outside
      have unsettled : ¬ (refund.status.final = true ∧
          statusFromStripe event.status = .pending) := by
        simp [pending, RefundStatus.final]
      have present := Table.get_insert_next db.paymentRefunds refund
      simp only [outside]
      rw [(settleRefund_same ctx { db with paymentRefunds := db.paymentRefunds.insert refund } event
        present unsettled).paymentRefunds]
      refine ⟨_, _, Table.get_patch_self present _, ?_⟩
      simp only [settledPatch, named, Option.getD_some]

theorem World.refundNews_named {w : World} {input : Ctx × Op} {event : RefundEvent}
    (told : w.refundNews input = some event) (met : w.misrefunds input = false) :
    ∃ id row, (w.step input).db.paymentRefunds.get id = some row ∧
      row.stripeRefundId = some event.id := by
  have kept : drops input.1 w.db event = false := by
    have guarded := (Bool.or_eq_false_iff.mp met).1
    simp only [told, Option.any_some, Bool.or_eq_false_iff] at guarded
    exact guarded.2
  obtain ⟨m, ran, news⟩ := Option.bind_eq_some_iff.mp told
  obtain ⟨whole, rfl, object, unseen⟩ := Mutation.refundNews_event news
  rcases World.step_ran w input with ⟨still, _⟩ | ⟨other, earlier, later, runs, same⟩
  · rw [ran] at still
    cases still
  · obtain rfl := Option.some.inj (ran.symm.trans runs)
    rw [same]
    simp only [Mutation.apply, applyEvent, unseen, object]
    exact applyRefund_named input.1 _ event kept

/-! ### Runs -/

/-- A row that Bling asked for succeeds by the refund made for it, of its
amount, and no refund at Stripe has two rows. -/
structure RefundsMatched (w : World) : Prop where
  own : ∀ refundId row, w.db.paymentRefunds.get refundId = some row →
    row.reason ≠ .outsideBling → row.status = .succeeded →
    ∃ id r, row.stripeRefundId = some id ∧ w.stripe.refunds.get id = some r ∧
      r.requestedBy = some refundId ∧ r.amount = row.amountCents ∧ w.stripe.Says id .succeeded
  once : ∀ i j a b id, w.db.paymentRefunds.get i = some a → w.db.paymentRefunds.get j = some b →
    a.stripeRefundId = some id → b.stripeRefundId = some id → i = j

/-- Every refund that an applied event was about has a row after the run. -/
def RefundsRecorded (inputs : List (Ctx × Op)) : Prop :=
  ∀ front input back event, inputs = front ++ input :: back →
    (run World.step World.empty front).refundNews input = some event →
    ∃ refundId row, (run World.step World.empty inputs).db.paymentRefunds.get refundId = some row ∧
      row.stripeRefundId = some event.id

theorem RefundsSound.matched {w : World} (sound : RefundsSound w) : RefundsMatched w := by
  refine ⟨?_, sound.once⟩
  intro refundId row found own succeeded
  obtain ⟨id, named, said⟩ := sound.own refundId row found own succeeded
  obtain ⟨r, present, by_⟩ := sound.named refundId row id found named
  simp only [PaymentRefund.requester, if_neg own] at by_
  obtain ⟨other, located, _, _, amount⟩ := sound.asked id r refundId present by_
  obtain rfl := Option.some.inj (found.symm.trans located)
  exact ⟨id, r, named, present, by_, amount, said⟩

theorem RefundsSound.empty : RefundsSound World.empty := by
  refine ⟨?_, ?_, ?_, ?_, ?_, ?_, ?_, ?_⟩
  · intro id r refundId found
    cases found
  · intro i j x y refundId found
    cases found
  · intro id r found
    cases found
  · intro refundId row found
    cases found
  · intro refundId row id found
    cases found
  · intro i j a b id found
    cases found
  · intro flight member
    cases member
  · intro refundId row found
    cases found

/-- A guarded run keeps what is known of the refunds. -/
theorem RefundsSound.run {w : World} (reached : World.Reached w) (sound : RefundsSound w)
    {inputs : List (Ctx × Op)}
    (guarded : Along World.step (fun w input => w.misrefunds input = false) w inputs) :
    World.Reached (run World.step w inputs) ∧ RefundsSound (run World.step w inputs) := by
  refine run_keeps (fun w => World.Reached w ∧ RefundsSound w) ?_ ⟨reached, sound⟩ guarded
  rintro w input ⟨reached, sound⟩ met
  exact ⟨reached.step input, sound.step (IntentsSound.reached reached) met⟩

/-- A Stripe id that a row has is on a row after any guarded run. -/
theorem RefundsSound.runKept {w : World} (reached : World.Reached w) (sound : RefundsSound w)
    {inputs : List (Ctx × Op)}
    (guarded : Along World.step (fun w input => w.misrefunds input = false) w inputs)
    {refundId : RefundId} {row : PaymentRefund} {id : StripeId}
    (present : w.db.paymentRefunds.get refundId = some row)
    (named : row.stripeRefundId = some id) :
    ∃ refundId row, (Library.run World.step w inputs).db.paymentRefunds.get refundId = some row ∧
      row.stripeRefundId = some id := by
  induction inputs generalizing w row with
  | nil => exact ⟨refundId, row, present, named⟩
  | cons input rest ih =>
      obtain ⟨b, found, _, keeps⟩ := sound.rowKept input present
      exact ih (reached.step input) (sound.step (IntentsSound.reached reached) guarded.1)
        guarded.2 found (keeps id named)

/-- In any run whose events and requests meet none of the three cases, rows and
refunds agree. -/
theorem refunds_matched (inputs : List (Ctx × Op))
    (guarded : Along World.step (fun w input => w.misrefunds input = false) World.empty inputs) :
    RefundsMatched (run World.step World.empty inputs) ∧ RefundsRecorded inputs := by
  refine ⟨(RefundsSound.run (.refl _ _) .empty guarded).2.matched, ?_⟩
  rintro front input back event rfl told
  obtain ⟨before, met, rest⟩ := (along_append ..).mp guarded
  obtain ⟨reached, sound⟩ := RefundsSound.run (.refl _ _) .empty before
  obtain ⟨refundId, row, found, named⟩ := World.refundNews_named told met
  rw [run_append, run_cons]
  exact (sound.step (IntentsSound.reached reached) met).runKept (reached.step input) rest found
    named

/-- The worker has the charge returned, and Stripe's event is delivered as well. -/
def returned : List (Ctx × Op) :=
  World.sampled (World.paid ++ World.refunding ++
    [.advance (.refunding 0 World.sampleRefund) .answered .succeeded,
      .advance (.recordingRefund 0 0 .succeeded none) .answered .pending, .deliver 1])

set_option maxRecDepth 20000 in
theorem refunds_matched_returned :
    RefundsMatched (run World.step World.empty returned) ∧ RefundsRecorded returned :=
  refunds_matched returned (by decide)

/-- Before the worker reaches Stripe, $1 is given back in the dashboard. -/
def partlyReturned : List (Ctx × Op) :=
  World.sampled (World.paid ++ World.refunding ++
    [.stripe (.refundOutside 0 100 .succeeded), .deliver 1])

set_option maxRecDepth 20000 in
/-- The row for the whole $5 has then succeeded, by a refund made outside Bling. -/
theorem refund_mismatched : ¬ ∀ inputs,
    RefundsMatched (run World.step World.empty inputs) ∧ RefundsRecorded inputs := by
  intro always
  have rows : ((run World.step World.empty partlyReturned).db.paymentRefunds.get 0).any
      (fun row => row.reason != .outsideBling && row.status == .succeeded &&
        row.stripeRefundId == some 0) = true := by decide
  have outside : ((run World.step World.empty partlyReturned).stripe.refunds.get 0).any
      (fun r => r.requestedBy == none) = true := by decide
  obtain ⟨row, found, is⟩ := Option.any_eq_true _ _ |>.mp rows
  obtain ⟨r, made, unasked⟩ := Option.any_eq_true _ _ |>.mp outside
  simp only [Bool.and_eq_true, bne_iff_ne, beq_iff_eq] at is unasked
  obtain ⟨id, other, named, present, by_, _⟩ := (always partlyReturned).1.own 0 row found is.1.1 is.1.2
  obtain rfl := Option.some.inj (is.2.symm.trans named)
  obtain rfl := Option.some.inj (made.symm.trans present)
  rw [unasked] at by_
  cases by_

end Bling
