import Bling.Linked
import Bling.StripeSteps

set_option autoImplicit false

namespace Bling

open Library

/-! What Bling's attempts and the actions in flight know of Stripe's intents is
so, in every state that any interleaving reaches. -/

/-! ### Who runs a mutation -/

/-- The mutations that only actions end with. -/
def Mutation.ofAction : Mutation → Bool
  | .attachIntent .. | .markAuthorized _ | .captured _ | .notCaptured .. | .recordRefund ..
  | .retryRefund .. | .markPaid .. | .retryTransfer .. | .joinWithPayment .. => true
  | _ => false

theorem Op.mutation_ofAction {w : World} {ctx : Ctx} {op : Op} {m : Mutation}
    (ran : op.mutation w ctx = some m) (internal : m.ofAction = true) :
    ∃ flight ∈ w.flights, flight.mutation = some m := by
  cases op with
  | request other =>
      simp only [Op.mutation, Option.ite_none_right_eq_some, Option.some.injEq] at ran
      obtain ⟨isPublic, rfl⟩ := ran
      cases other <;> simp_all [Mutation.isPublic, Mutation.ofAction]
  | authorize userId showId tierId idempotencyKey stripeCustomerId =>
      simp only [Op.mutation, Option.ite_none_left_eq_some, Option.some.injEq] at ran
      rw [← ran.2] at internal
      cases internal
  | runJob time job =>
      simp only [Op.mutation, Option.ite_none_right_eq_some] at ran
      obtain ⟨_, begins⟩ := ran
      cases job <;> simp only [Job.begins, Job.mutation, reduceCtorEq, Option.some.injEq] at begins
        <;> rw [← begins] at internal <;> cases internal
  | advance flight outcome status =>
      simp only [Op.mutation, Option.ite_none_right_eq_some] at ran
      exact ⟨flight, ran⟩
  | deliver eventId =>
      obtain ⟨event, _, rfl⟩ := Option.map_eq_some_iff.mp ran
      cases internal
  | saveAccount creatorId account =>
      obtain rfl := Option.some.inj ran
      cases internal
  | runDue =>
      obtain rfl := Option.some.inj ran
      cases internal
  | joinPaid userId args attemptId => cases ran
  | sweepRefunds now => cases ran
  | sweepCaptures now => cases ran
  | sweepTransfers now => cases ran
  | stripe op => cases ran

/-- Only Stripe delivers events. -/
theorem Op.mutation_event {w : World} {ctx : Ctx} {op : Op} {event : Event}
    (ran : op.mutation w ctx = some (.applyEvent event)) : event ∈ w.stripe.events := by
  cases op with
  | request other =>
      simp only [Op.mutation, Option.ite_none_right_eq_some, Option.some.injEq] at ran
      obtain ⟨isPublic, rfl⟩ := ran
      cases isPublic
  | authorize userId showId tierId idempotencyKey stripeCustomerId =>
      simp [Op.mutation] at ran
  | runJob time job =>
      simp only [Op.mutation, Option.ite_none_right_eq_some] at ran
      obtain ⟨_, begins⟩ := ran
      cases job <;> cases begins
  | advance flight outcome status =>
      simp only [Op.mutation, Option.ite_none_right_eq_some] at ran
      obtain ⟨_, ends⟩ := ran
      cases flight <;> cases ends
  | deliver eventId =>
      obtain ⟨other, found, same⟩ := Option.map_eq_some_iff.mp ran
      obtain rfl := Mutation.applyEvent.inj same
      exact List.mem_of_getElem? found
  | saveAccount creatorId account => cases ran
  | runDue => cases ran
  | joinPaid userId args attemptId => cases ran
  | sweepRefunds now => cases ran
  | sweepCaptures now => cases ran
  | sweepTransfers now => cases ran
  | stripe op => cases ran

theorem Mutation.report_scheduled (db : DB) (jobs : List (Time × Job)) (m : Mutation) :
    m.report { db with scheduled := jobs } = m.report db := by
  cases m <;> rfl

/-- News is an event that has not been seen before. -/
theorem Mutation.news_event {db : DB} {m : Mutation} {event : Event}
    (told : m.news db = some event) : m = .applyEvent event ∧
      (db.stripeEvents.first fun e => e.stripeEventId == event.eventId).isSome = false := by
  unfold Mutation.news at told
  split at told
  · split at told
    · cases told
    · rename_i unseen
      obtain rfl := Option.some.inj told
      exact ⟨rfl, Bool.not_eq_true _ |>.mp unseen⟩
  · cases told

theorem Mutation.report_event {db : DB} {event : Event} {attemptId : AttemptId} {report : Report}
    (asked : (Mutation.applyEvent event).report db = some (attemptId, report)) :
    (db.stripeEvents.first fun e => e.stripeEventId == event.eventId).isSome = false ∧
      ∃ intent attempt, event.object = .intent intent ∧
        attemptForIntent db intent.id = some (attemptId, attempt) ∧
        report = intentReport event.type := by
  simp only [Mutation.report] at asked
  split at asked
  · rename_i isNews
    obtain ⟨same, unseen⟩ := Mutation.news_event isNews
    obtain rfl := Mutation.applyEvent.inj same
    obtain ⟨⟨found, attempt⟩, located, same⟩ := Option.map_eq_some_iff.mp asked
    obtain ⟨rfl, rfl⟩ := Prod.mk.inj same
    exact ⟨unseen, _, attempt, rfl, located, rfl⟩
  · cases asked

theorem Mutation.refundNews_event {db : DB} {m : Mutation} {refund : RefundEvent}
    (told : m.refundNews db = some refund) :
    ∃ event, m = .applyEvent event ∧ event.object = .refund refund ∧
      (db.stripeEvents.first fun e => e.stripeEventId == event.eventId).isSome = false := by
  unfold Mutation.refundNews at told
  split at told
  · rename_i isNews
    obtain rfl := Option.some.inj told
    obtain ⟨applied, unseen⟩ := Mutation.news_event isNews
    exact ⟨_, applied, rfl, unseen⟩
  · cases told

/-- An attempt is reported on by an action or by an event about its intent. -/
theorem report_origin {w : World} {ctx : Ctx} {op : Op} {m : Mutation} {attemptId : AttemptId}
    {report : Report} (ran : op.mutation w ctx = some m)
    (asked : m.report w.db = some (attemptId, report)) :
    (report = .captured ∧ .reportingCaptured attemptId ∈ w.flights) ∨
    (∃ status failureCode, report = .notCaptured status ∧
      .reportingNotCaptured attemptId status failureCode ∈ w.flights) ∨
    ∃ event ∈ w.stripe.events, ∃ intent attempt, event.object = .intent intent ∧
      attemptForIntent w.db intent.id = some (attemptId, attempt) ∧
      report = intentReport event.type := by
  have flies (internal : m.ofAction = true) := Op.mutation_ofAction ran internal
  cases m with
  | captured other =>
      obtain ⟨flight, flying, ends⟩ := flies rfl
      obtain ⟨rfl, rfl⟩ := Prod.mk.inj (Option.some.inj asked)
      cases flight <;> cases ends
      exact Or.inl ⟨rfl, flying⟩
  | notCaptured other status failureCode =>
      obtain ⟨flight, flying, ends⟩ := flies rfl
      obtain ⟨rfl, rfl⟩ := Prod.mk.inj (Option.some.inj asked)
      cases flight <;> cases ends
      exact Or.inr (Or.inl ⟨status, failureCode, rfl, flying⟩)
  | applyEvent event =>
      exact Or.inr (Or.inr ⟨event, Op.mutation_event ran, (Mutation.report_event asked).2⟩)
  | _ => cases asked

/-! ### How a step goes on -/

/-- What a step does to the attempts. -/
theorem step_attempts (w : World) (input : Ctx × Op) :
    (w.step input).db.paymentAttempts = w.db.paymentAttempts ∨
    ∃ m, input.2.mutation w input.1 = some m ∧
      AttemptsChange w.db m w.db.paymentAttempts (w.step input).db.paymentAttempts := by
  rcases World.step_ran w input with ⟨_, later, same⟩ | ⟨m, earlier, later, ran, same⟩
  · exact Or.inl (by rw [same])
  · refine Or.inr ⟨m, ran, ?_⟩
    rw [same]
    refine (m.effect input.1 { w.db with scheduled := earlier }).attempt_changes.mono ?_ fun _ => id
    intro id a b change
    cases change with
    | same terms status intent => exact .same terms status intent
    | attached terms intentId asked detached status intent =>
        exact .attached terms intentId asked detached status intent
    | authorized terms asked created status intent =>
        exact .authorized terms asked created status intent
    | selected terms held asked status intent => exact .selected terms held asked status intent
    | captured terms asked status intent =>
        exact .captured terms (Mutation.report_scheduled .. ▸ asked) status intent
    | notCaptured terms outcome asked uncaptured status intent =>
        exact .notCaptured terms outcome (Mutation.report_scheduled .. ▸ asked) uncaptured status
          intent

theorem step_attempts_follow (w : World) (input : Ctx × Op) :
    AttemptsFollow w.db.paymentAttempts (w.step input).db.paymentAttempts := by
  rcases step_attempts w input with same | ⟨m, _, changes⟩
  · exact .of_eq (fun _ => .refl) same
  · exact changes.mono (fun _ _ _ change => change.follows) fun _ => id

/-- An action is about to have an intent made for the attempt. -/
def World.Creates (w : World) (attemptId : AttemptId) : Prop :=
  ∃ attempt, .creatingIntent attemptId attempt ∈ w.flights

/-- The intent a step puts a hold on. -/
def World.Confirms (w : World) (input : Ctx × Op) (intentId : StripeId) : Prop :=
  ∃ op, input.2 = .stripe op ∧ w.stripe.Confirms op intentId

/-- The refund the worker has made of all that is left of an intent. -/
def World.Refunds (w : World) (input : Ctx × Op) (refund : StripeRefund) : Prop :=
  ∃ refundId row outcome status, input.2 = .advance (.refunding refundId row) outcome status ∧
    .refunding refundId row ∈ w.flights ∧ (outcome = .answered ∨ outcome = .lost) ∧
    row.stripeRefundId = none ∧ 0 < w.stripe.refundable row.stripePaymentIntentId ∧
    refund = ⟨row.stripePaymentIntentId,
      (w.stripe.refundable row.stripePaymentIntentId).toNat, status, none, some refundId⟩

def World.allows (w : World) (input : Ctx × Op) : Stripe.Allows :=
  ⟨w.Creates, w.Confirms input, w.Refunds input⟩

/-- What a step does at Stripe. -/
theorem step_stripe (w : World) (input : Ctx × Op) :
    Stripe.Follows (w.allows input) w.stripe (w.step input).stripe := by
  generalize (w.step input).stripe = stripe, (World.step_moves w input).requested = requested
  cases requested with
  | nothing => exact .refl w.stripe
  | createIntent attemptId attempt flying =>
      exact Stripe.createIntent_follows _ attempt ⟨attempt, flying⟩
  | capture callId tries attemptId intentId flying => exact Stripe.capture_follows _ intentId
  | release attemptId intentId flying => exact Stripe.cancel_follows _ intentId
  | cancel attemptId intentId reason flying => exact Stripe.cancel_follows _ intentId
  | createRefund refundId refund outcome status flying asked reaches unrecorded =>
      exact Stripe.createRefund_follows _ fun left =>
        ⟨refundId, refund, outcome, status, asked, flying, reaches, unrecorded, left, rfl⟩
  | createTransfer itemId item flying => exact Stripe.createTransfer_follows _ itemId item
  | own op asked => exact Stripe.step_follows _ w.stripe op fun _ confirms => ⟨op, asked, confirms⟩

/-! ### What is known -/

/-- The attempt has the intent attached. -/
def Holds (attempts : Table PaymentAttempt) (attemptId : AttemptId) (intentId : StripeId) : Prop :=
  ∃ a, attempts.get attemptId = some a ∧ a.stripePaymentIntentId = some intentId

theorem Holds.follow {before after : Table PaymentAttempt} {attemptId : AttemptId}
    {intentId : StripeId} (holds : Holds before attemptId intentId)
    (follow : AttemptsFollow before after) : Holds after attemptId intentId := by
  obtain ⟨a, present, attached⟩ := holds
  obtain ⟨b, found, follows⟩ := follow.kept attemptId a present
  exact ⟨b, found, follows.intent intentId attached⟩

/-- The intent was made for the attempt. -/
def MadeFor (stripe : Stripe) (intentId : StripeId) (attemptId : AttemptId) : Prop :=
  ∃ intent, stripe.intents.get intentId = some intent ∧ intent.attemptId = attemptId

theorem MadeFor.follow {allows : Stripe.Allows} {before after : Stripe}
    {intentId : StripeId} {attemptId : AttemptId} (made : MadeFor before intentId attemptId)
    (follow : Stripe.Follows allows before after) : MadeFor after intentId attemptId := by
  obtain ⟨intent, present, owner⟩ := made
  obtain ⟨kept, found, follows⟩ := follow.intents.kept intentId intent present
  exact ⟨kept, found, follows.attemptId.trans owner⟩

/-- A captured or canceled intent stays so. -/
theorem Stripe.Follows.intentStatus {allows : Stripe.Allows} {before after : Stripe}
    (follow : Stripe.Follows allows before after) {intentId : StripeId} {status : IntentStatus}
    (isOver : status = .succeeded ∨ status = .canceled)
    (is : before.intentStatus intentId = some status) :
    after.intentStatus intentId = some status := by
  obtain ⟨intent, present, rfl⟩ := Stripe.intentStatus_some.mp is
  obtain ⟨kept, found, follows⟩ := follow.intents.kept intentId intent present
  refine Stripe.intentStatus_some.mpr ⟨kept, found, ?_⟩
  rcases isOver with succeeded | canceled
  · exact (follows.captured succeeded).trans succeeded.symm
  · exact (follows.canceled canceled).trans canceled.symm

theorem Stripe.Follows.told {allows : Stripe.Allows} {before after : Stripe}
    (follow : Stripe.Follows allows before after) {event : Event} (told : before.Told event) :
    after.Told event := by
  obtain ⟨eventId, type, connected, object⟩ := event
  cases object with
  | intent intent =>
      exact ⟨fun is => follow.intentStatus (Or.inl rfl) (told.1 is),
        fun is => follow.intentStatus (Or.inr rfl) (told.2 is)⟩
  | refund refund =>
      obtain ⟨r, present, intent, amount⟩ := told
      obtain ⟨kept, found, follows⟩ := follow.refunds.kept refund.id r present
      exact ⟨kept, found, intent.trans (congrArg some follows.intentId.symm),
        amount.trans (congrArg some follows.amount.symm)⟩
  | dispute dispute => trivial
  | payout payout => trivial
  | account accountId => trivial

/-- What an action in flight takes to be so of an intent. -/
def Flight.Backed (w : World) : Flight → Prop
  | .creatingIntent attemptId _ => ∃ a, w.db.paymentAttempts.get attemptId = some a
  | .attachingIntent attemptId intentId => MadeFor w.stripe intentId attemptId
  | .verifying _ _ attemptId _ intentId => Holds w.db.paymentAttempts attemptId intentId
  | .markingAuthorized _ _ attemptId => ∃ intentId, Holds w.db.paymentAttempts attemptId intentId
  | .capturing _ _ attemptId intentId | .retrieving attemptId intentId
  | .releasing attemptId intentId | .canceling attemptId intentId _
  | .cancelRefused attemptId intentId => Holds w.db.paymentAttempts attemptId intentId
  | .reportingCaptured attemptId => ∃ intentId, Holds w.db.paymentAttempts attemptId intentId ∧
    w.stripe.intentStatus intentId = some .succeeded
  | .reportingNotCaptured attemptId _ _ => ∃ intentId,
    Holds w.db.paymentAttempts attemptId intentId ∧
      w.stripe.intentStatus intentId = some .canceled
  | _ => True

theorem Flight.Backed.follow {allows : Stripe.Allows} {w after : World} {flight : Flight}
    (backed : flight.Backed w)
    (attempts : AttemptsFollow w.db.paymentAttempts after.db.paymentAttempts)
    (stripe : Stripe.Follows allows w.stripe after.stripe) : flight.Backed after := by
  cases flight with
  | creatingIntent attemptId attempt =>
      obtain ⟨a, present⟩ := backed
      exact (attempts.kept attemptId a present).imp fun _ => And.left
  | attachingIntent attemptId intentId => exact MadeFor.follow backed stripe
  | verifying userId args attemptId attempt intentId => exact Holds.follow backed attempts
  | markingAuthorized userId args attemptId => exact backed.imp fun _ holds => holds.follow attempts
  | capturing callId tries attemptId intentId => exact Holds.follow backed attempts
  | retrieving attemptId intentId => exact Holds.follow backed attempts
  | releasing attemptId intentId => exact Holds.follow backed attempts
  | canceling attemptId intentId reason => exact Holds.follow backed attempts
  | cancelRefused attemptId intentId => exact Holds.follow backed attempts
  | reportingCaptured attemptId =>
      exact backed.imp fun _ known =>
        ⟨known.1.follow attempts, stripe.intentStatus (Or.inl rfl) known.2⟩
  | reportingNotCaptured attemptId status failureCode =>
      exact backed.imp fun _ known =>
        ⟨known.1.follow attempts, stripe.intentStatus (Or.inr rfl) known.2⟩
  | _ => trivial

/-- What is so of attempts, actions in flight and Stripe's intents. -/
structure IntentsSound (w : World) : Prop where
  attached : ∀ id a, w.db.paymentAttempts.get id = some a → a.status ≠ .created →
    ∃ intentId, a.stripePaymentIntentId = some intentId
  owned : ∀ id a intentId, w.db.paymentAttempts.get id = some a →
    a.stripePaymentIntentId = some intentId → MadeFor w.stripe intentId id
  real : ∀ id x, w.stripe.intents.get id = some x →
    ∃ a, w.db.paymentAttempts.get x.attemptId = some a
  once : ∀ i j x y, w.stripe.intents.get i = some x → w.stripe.intents.get j = some y →
    x.attemptId = y.attemptId → i = j
  flying : ∀ flight ∈ w.flights, flight.Backed w
  events : ∀ event ∈ w.stripe.events, w.stripe.Told event
  captured : ∀ id a intentId, w.db.paymentAttempts.get id = some a →
    a.stripePaymentIntentId = some intentId → a.status = .captured →
    w.stripe.intentStatus intentId = some .succeeded
  canceled : ∀ id a intentId, w.db.paymentAttempts.get id = some a →
    a.stripePaymentIntentId = some intentId → a.status = .canceled →
    w.stripe.intentStatus intentId = some .canceled

/-- An attempt that is reported on has an intent, and the report is true of it. -/
theorem IntentsSound.reported {w : World} (sound : IntentsSound w) {ctx : Ctx} {op : Op}
    {m : Mutation} {attemptId : AttemptId} {report : Report} (ran : op.mutation w ctx = some m)
    (asked : m.report w.db = some (attemptId, report)) :
    ∃ intentId, Holds w.db.paymentAttempts attemptId intentId ∧
      (report = .captured → w.stripe.intentStatus intentId = some .succeeded) ∧
      (report = .notCaptured .canceled → w.stripe.intentStatus intentId = some .canceled) := by
  rcases report_origin ran asked with
    ⟨rfl, flying⟩ | ⟨status, failureCode, rfl, flying⟩ | ⟨event, member, intent, a, object, found,
      rfl⟩
  · obtain ⟨intentId, holds, succeeded⟩ := sound.flying _ flying
    exact ⟨intentId, holds, fun _ => succeeded, nofun⟩
  · obtain ⟨intentId, holds, canceled⟩ := sound.flying _ flying
    exact ⟨intentId, holds, nofun, fun _ => canceled⟩
  · have told := sound.events event member
    simp only [Stripe.Told, object] at told
    refine ⟨intent.id, ⟨a, attemptForIntent_present found⟩, ?_, ?_⟩
    · intro isCaptured
      refine told.1 ?_
      by_contra other
      simp [intentReport, other] at isCaptured
    · intro isCanceled
      refine told.2 ?_
      by_contra other
      by_cases succeeded : event.type = .paymentIntentSucceeded
      · simp [intentReport, succeeded] at isCanceled
      · simp [intentReport, succeeded, other] at isCanceled

theorem pendingCapture_holds {db : DB} {callId : CallId} {attemptId : AttemptId}
    {intentId : StripeId} (pending : pendingCapture db callId = some (attemptId, intentId)) :
    Holds db.paymentAttempts attemptId intentId := by
  unfold pendingCapture at pending
  obtain ⟨call, _, pending⟩ := Option.bind_eq_some_iff.mp pending
  obtain ⟨_, _, pending⟩ := Option.bind_eq_some_iff.mp pending
  obtain ⟨held, _, pending⟩ := Option.bind_eq_some_iff.mp pending
  obtain ⟨a, present, pending⟩ := Option.bind_eq_some_iff.mp pending
  obtain ⟨_, _, pending⟩ := Option.bind_eq_some_iff.mp pending
  obtain ⟨attached, isAttached, same⟩ := Option.bind_eq_some_iff.mp pending
  obtain ⟨rfl, rfl⟩ := Prod.mk.inj (Option.some.inj same)
  exact ⟨a, present, isAttached⟩

/-- What a flight that a step adds takes to be so. -/
theorem launched_backed {w : World} (sound : IntentsSound w) {input : Ctx × Op} {flight : Flight}
    (launched : World.Launched w input (w.step input).stripe flight) :
    flight.Backed (w.step input) := by
  have attempts := step_attempts_follow w input
  have stripe := step_stripe w input
  have known {flight : Flight} (flying : flight ∈ w.flights) : flight.Backed (w.step input) :=
    (sound.flying flight flying).follow attempts stripe
  cases launched with
  | creatingIntent attemptId attempt present detached => exact ⟨attempt, present⟩
  | attachingIntent attemptId attempt flying created =>
      simp only [Flight.Backed, created]
      rcases Stripe.createIntent_cases w.stripe attemptId attempt with
        ⟨id, found, present, owner, same⟩ | ⟨_, intent, owner, _, added⟩
      · rw [same]
        exact ⟨found, present, owner⟩
      · rw [added]
        exact ⟨intent, Table.get_insert_next _ _, owner⟩
  | verifying userId args attemptId attempt intentId present attached =>
      exact Holds.follow ⟨attempt, present, attached⟩ attempts
  | markingAuthorized userId args attemptId attempt intentId flying =>
      exact ⟨intentId, known flying⟩
  | capturing callId tries attemptId intentId pending =>
      exact Holds.follow (pendingCapture_holds pending) attempts
  | retrieving callId tries attemptId intentId flying =>
      have holds := known flying
      exact holds
  | capturedNow callId tries attemptId intentId flying accepted done =>
      refine ⟨intentId, known flying, ?_⟩
      rw [done]
      exact Stripe.capture_accepted accepted
  | capturedBefore attemptId intentId flying found same =>
      exact ⟨intentId, known flying, by rw [same]; exact found⟩
  | releasing attemptId intentId flying =>
      have holds := known flying
      exact holds
  | lostHold attemptId intentId flying found same =>
      exact ⟨intentId, known flying, by rw [same]; exact found⟩
  | releasedHold attemptId intentId flying accepted done =>
      refine ⟨intentId, known flying, ?_⟩
      rw [done]
      exact Stripe.cancel_accepted accepted
  | canceling attemptId intentId reason attempt present attached =>
      exact Holds.follow ⟨attempt, present, attached⟩ attempts
  | canceledHold attemptId intentId reason flying accepted done =>
      refine ⟨intentId, known flying, ?_⟩
      rw [done]
      exact Stripe.cancel_accepted accepted
  | cancelRefused attemptId intentId reason flying =>
      have holds := known flying
      exact holds
  | canceledBefore attemptId intentId flying found same =>
      exact ⟨intentId, known flying, by rw [same]; exact found⟩
  | _ => trivial

/-- What an attempt is after a step: new, as it was, or changed by a mutation. -/
theorem step_attempt {w : World} {input : Ctx × Op} {id : AttemptId} {b : PaymentAttempt}
    (found : (w.step input).db.paymentAttempts.get id = some b) :
    (b.status = .created ∧ b.stripePaymentIntentId = none) ∨
    ∃ a, w.db.paymentAttempts.get id = some a ∧ (b = a ∨
      ∃ m, input.2.mutation w input.1 = some m ∧ AttemptChange w.db m id a b) := by
  rcases step_attempts w input with same | ⟨m, ran, changes⟩
  · rw [same] at found
    exact Or.inr ⟨b, found, Or.inl rfl⟩
  · rcases changes.origin id b found with ⟨a, present, change⟩ | fresh
    · exact Or.inr ⟨a, present, Or.inr ⟨m, ran, change⟩⟩
    · exact Or.inl fresh.2

/-- The intent an attempt has after a step is the one it had, or the one an
action has just made for it. -/
theorem IntentsSound.intent {w : World} (sound : IntentsSound w) {input : Ctx × Op}
    {id : AttemptId} {b : PaymentAttempt} {intentId : StripeId}
    (found : (w.step input).db.paymentAttempts.get id = some b)
    (attached : b.stripePaymentIntentId = some intentId) :
    ∃ a, w.db.paymentAttempts.get id = some a ∧ MadeFor w.stripe intentId id ∧
      (a.stripePaymentIntentId = some intentId ∨
        a.stripePaymentIntentId = none ∧ b.status = a.status) := by
  rcases step_attempt found with ⟨_, detached⟩ | ⟨a, present, rfl | ⟨m, ran, change⟩⟩
  · rw [detached] at attached
    cases attached
  · exact ⟨b, present, sound.owned id b intentId present attached, Or.inl attached⟩
  · have old (same : b.stripePaymentIntentId = a.stripePaymentIntentId) :
        ∃ a, w.db.paymentAttempts.get id = some a ∧ MadeFor w.stripe intentId id ∧
          (a.stripePaymentIntentId = some intentId ∨
            a.stripePaymentIntentId = none ∧ b.status = a.status) :=
      ⟨a, present, sound.owned id a intentId present (same.symm.trans attached),
        Or.inl (same.symm.trans attached)⟩
    cases change with
    | attached terms other asked detached status intent =>
        obtain rfl := Option.some.inj (attached.symm.trans intent)
        obtain ⟨flight, flying, ends⟩ := Op.mutation_ofAction ran (by rw [asked]; rfl)
        rw [asked] at ends
        cases flight <;> cases ends
        exact ⟨a, present, sound.flying _ flying, Or.inr ⟨detached, status⟩⟩
    | same terms status intent => exact old intent
    | authorized terms asked created status intent => exact old intent
    | selected terms held asked status intent => exact old intent
    | captured terms asked status intent => exact old intent
    | notCaptured terms outcome asked uncaptured status intent => exact old intent

/-- An attempt past its creation keeps the intent it had. -/
theorem IntentsSound.settled {w : World} (sound : IntentsSound w) {input : Ctx × Op}
    {id : AttemptId} {b : PaymentAttempt} {intentId : StripeId}
    (found : (w.step input).db.paymentAttempts.get id = some b)
    (attached : b.stripePaymentIntentId = some intentId) (begun : b.status ≠ .created) :
    ∃ a, w.db.paymentAttempts.get id = some a ∧ a.stripePaymentIntentId = some intentId ∧
      (b.status = a.status ∨
        ∃ m, input.2.mutation w input.1 = some m ∧ AttemptChange w.db m id a b) := by
  obtain ⟨a, present, _, had | ⟨detached, status⟩⟩ := sound.intent found attached
  · refine ⟨a, present, had, ?_⟩
    rcases step_attempt found with ⟨created, _⟩ | ⟨other, located, change⟩
    · exact absurd created begun
    · obtain rfl := Option.some.inj (present.symm.trans located)
      exact change.imp_left fun same => congrArg PaymentAttempt.status same
  · obtain ⟨other, attached⟩ := sound.attached id a present (status ▸ begun)
    rw [detached] at attached
    cases attached

theorem IntentsSound.step {w : World} (sound : IntentsSound w) (input : Ctx × Op) :
    IntentsSound (w.step input) := by
  have attempts := step_attempts_follow w input
  have stripe := step_stripe w input
  -- A report that settles an attempt settles the intent it has.
  have settles {id : AttemptId} {a : PaymentAttempt} {intentId : StripeId} {m : Mutation}
      {report : Report} (present : w.db.paymentAttempts.get id = some a)
      (attached : a.stripePaymentIntentId = some intentId)
      (ran : input.2.mutation w input.1 = some m) (asked : m.report w.db = some (id, report)) :
      (report = .captured → w.stripe.intentStatus intentId = some .succeeded) ∧
        (report = .notCaptured .canceled → w.stripe.intentStatus intentId = some .canceled) := by
    obtain ⟨other, ⟨b, found, holds⟩, known⟩ := sound.reported ran asked
    obtain rfl := Option.some.inj (present.symm.trans found)
    obtain rfl := Option.some.inj (attached.symm.trans holds)
    exact known
  refine ⟨?_, ?_, ?_, ?_, ?_, ?_, ?_, ?_⟩
  · intro id b found begun
    rcases step_attempt found with ⟨created, _⟩ | ⟨a, present, rfl | ⟨m, ran, change⟩⟩
    · exact absurd created begun
    · exact sound.attached id b present begun
    · cases change with
      | same terms status intent =>
          rw [intent]
          exact sound.attached id a present (status ▸ begun)
      | attached terms intentId asked detached status intent => exact ⟨intentId, intent⟩
      | authorized terms asked created status intent =>
          obtain ⟨flight, flying, ends⟩ := Op.mutation_ofAction ran (by rw [asked]; rfl)
          rw [asked] at ends
          cases flight <;> cases ends
          obtain ⟨intentId, other, located, holds⟩ := sound.flying _ flying
          obtain rfl := Option.some.inj (present.symm.trans located)
          exact ⟨intentId, intent.trans holds⟩
      | selected terms held asked status intent =>
          rw [intent]
          exact sound.attached id a present (by rw [held]; nofun)
      | captured terms asked status intent =>
          obtain ⟨intentId, ⟨other, located, holds⟩, _⟩ := sound.reported ran asked
          obtain rfl := Option.some.inj (present.symm.trans located)
          exact ⟨intentId, intent.trans holds⟩
      | notCaptured terms outcome asked uncaptured status intent =>
          obtain ⟨intentId, ⟨other, located, holds⟩, _⟩ := sound.reported ran asked
          obtain rfl := Option.some.inj (present.symm.trans located)
          exact ⟨intentId, intent.trans holds⟩
  · intro id b intentId found attached
    obtain ⟨a, _, made, _⟩ := sound.intent found attached
    exact made.follow stripe
  · intro id y found
    rcases stripe.intents.origin id y found with ⟨x, present, follows⟩ | ⟨_, ⟨_, flying⟩, _⟩
    · rw [follows.attemptId]
      obtain ⟨a, held⟩ := sound.real id x present
      exact (attempts.kept _ a held).imp fun _ => And.left
    · obtain ⟨a, held⟩ := sound.flying _ flying
      exact (attempts.kept _ a held).imp fun _ => And.left
  · intro i j x y foundX foundY same
    rcases stripe.intents.origin i x foundX with ⟨wasX, presentX, followsX⟩ | ⟨first, _, newX⟩
    · rcases stripe.intents.origin j y foundY with ⟨wasY, presentY, followsY⟩ | ⟨_, _, newY⟩
      · exact sound.once i j wasX wasY presentX presentY
          (followsX.attemptId.symm.trans (same.trans followsY.attemptId))
      · exact absurd (followsX.attemptId.symm.trans same) (newY i wasX presentX)
    · rcases stripe.intents.origin j y foundY with ⟨wasY, presentY, followsY⟩ | ⟨second, _⟩
      · exact absurd (followsY.attemptId.symm.trans same.symm) (newX j wasY presentY)
      · exact first.trans second.symm
  · intro flight member
    rcases (World.step_moves w input).launched flight member with old | new
    · exact (sound.flying flight old).follow attempts stripe
    · exact launched_backed sound new
  · intro event member
    rcases stripe.events event member with old | told
    · exact stripe.told (sound.events event old)
    · exact told
  · intro id b intentId found attached isCaptured
    refine stripe.intentStatus (Or.inl rfl) ?_
    obtain ⟨a, present, had, same | ⟨m, ran, change⟩⟩ :=
      sound.settled found attached (by rw [isCaptured]; nofun)
    · exact sound.captured id a intentId present had (same.symm.trans isCaptured)
    · rcases change.captured_of isCaptured with before | asked
      · exact sound.captured id a intentId present had before
      · exact (settles present had ran asked).1 rfl
  · intro id b intentId found attached isCanceled
    refine stripe.intentStatus (Or.inr rfl) ?_
    obtain ⟨a, present, had, same | ⟨m, ran, change⟩⟩ :=
      sound.settled found attached (by rw [isCanceled]; nofun)
    · exact sound.canceled id a intentId present had (same.symm.trans isCanceled)
    · have isOver : b.status = NotCaptured.canceled.status := isCanceled
      rcases change.notCaptured_of isOver with before | ⟨asked, _⟩
      · exact sound.canceled id a intentId present had before
      · exact (settles present had ran asked).2 rfl

theorem IntentsSound.reached {w : World} (reached : World.Reached w) : IntentsSound w := by
  refine reached.induct IntentsSound ⟨?_, ?_, ?_, ?_, ?_, ?_, ?_, ?_⟩ fun _ input sound =>
    sound.step input
  · intro id a found
    cases found
  · intro id a intentId found
    cases found
  · intro id x found
    cases found
  · intro i j x y found
    cases found
  · intro flight member
    cases member
  · intro event member
    cases member
  · intro id a intentId found
    cases found
  · intro id a intentId found
    cases found

end Bling
