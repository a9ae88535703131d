import Bling.World
import Bling.Mutations

set_option autoImplicit false

namespace Bling

open Library

/-! A step of the whole system runs at most one mutation, so what every mutation
keeps, every run keeps. -/

/-- The mutation an action ends its current request with. -/
def Flight.mutation : Flight → Option Mutation
  | .attachingIntent attemptId intentId => some (.attachIntent attemptId intentId)
  | .markingAuthorized _ _ attemptId => some (.markAuthorized attemptId)
  | .joining userId args attemptId => some (.joinWithPayment userId args attemptId)
  | .reportingCaptured attemptId => some (.captured attemptId)
  | .reportingNotCaptured attemptId status failureCode =>
    some (.notCaptured attemptId status failureCode)
  | .recordingRefund refundId stripeRefundId status failureCode =>
    some (.recordRefund refundId stripeRefundId status failureCode)
  | .retryingRefund refundId => some (.retryRefund refundId "provider_error")
  | .markingPaid itemId transferId => some (.markPaid itemId transferId)
  | .retryingTransfer itemId => some (.retryTransfer itemId "provider_error")
  | _ => none

/-- The mutation a scheduled function begins with. -/
def Job.begins : Job → Option Mutation
  | .runRefund refundId => some (.claimRefund refundId)
  | .transfer itemId => some (.claimTransfer itemId)
  | job => job.mutation

/-- The mutation a step runs, if any. -/
def Op.mutation (w : World) (ctx : Ctx) : Op → Option Mutation
  | .request m => if m.isPublic then some m else none
  | .authorize userId showId tierId idempotencyKey stripeCustomerId =>
    if idempotencyKey.length < 8 ∨ 200 < idempotencyKey.length then none
    else some (.prepare userId showId tierId idempotencyKey stripeCustomerId)
  | .saveAccount creatorId account => some (.saveAccount creatorId account)
  | .runJob time job =>
    if (time, job) ∈ w.db.scheduled ∧ time ≤ ctx.now then job.begins else none
  | .runDue => some .runDue
  | .advance flight _ _ => if flight ∈ w.flights then flight.mutation else none
  | .deliver eventId => (w.stripe.events[eventId]?).map .applyEvent
  | _ => none

namespace World

/-- `db` after at most one mutation, up to what is scheduled. -/
def Runs (ctx : Ctx) (db : DB) (m : Option Mutation) (after : DB) : Prop :=
  match m with
  | some m => ∃ before later,
      after = { m.apply ctx { db with scheduled := before } with scheduled := later }
  | none => ∃ later, after = { db with scheduled := later }

theorem Runs.mutate (ctx : Ctx) (db : DB) (m : Mutation) : Runs ctx db (some m) (m.apply ctx db) :=
  ⟨db.scheduled, (m.apply ctx db).scheduled, rfl⟩

theorem Runs.idle (ctx : Ctx) (db : DB) : Runs ctx db none db := ⟨db.scheduled, rfl⟩

theorem mutate_runs (w : World) (ctx : Ctx) (m : Mutation) :
    Runs ctx w.db (some m) (w.mutate ctx m).db := .mutate ctx w.db m

theorem scheduleAll_runs (ctx : Ctx) (w : World) (jobs : List Job) :
    Runs ctx w.db none (w.scheduleAll ctx jobs).db := by
  unfold scheduleAll
  induction jobs generalizing w with
  | nil => exact .idle ctx w.db
  | cons job rest ih =>
      obtain ⟨later, same⟩ := ih (w.schedule ctx.now job)
      exact ⟨later, same⟩

theorem retryCapture_runs (ctx : Ctx) (w : World) (callId : CallId) (tries : Nat) :
    Runs ctx w.db none (w.retryCapture ctx callId tries).db := by
  unfold retryCapture
  split
  · exact ⟨_, rfl⟩
  · exact .idle ctx w.db

theorem authorize_runs (w : World) (ctx : Ctx) (userId : Option UserId) (showId : ShowId)
    (tierId : TierId) (idempotencyKey : Text) (stripeCustomerId : Option StripeId) :
    Runs ctx w.db
      ((Op.authorize userId showId tierId idempotencyKey stripeCustomerId).mutation w ctx)
      (w.authorize ctx userId showId tierId idempotencyKey stripeCustomerId).db := by
  by_cases refusedKey : idempotencyKey.length < 8 ∨ 200 < idempotencyKey.length
  · simp only [authorize, Op.mutation, if_pos refusedKey]
    exact .idle ctx w.db
  · simp only [authorize, Op.mutation, if_neg refusedKey]
    have runs := Runs.mutate ctx w.db (.prepare userId showId tierId idempotencyKey
      stripeCustomerId)
    cases prepared : prepare w.db userId showId tierId idempotencyKey stripeCustomerId with
    | error code =>
        have unchanged : (Mutation.prepare userId showId tierId idempotencyKey
            stripeCustomerId).apply ctx w.db = w.db := by
          change commit w.db (prepare w.db userId showId tierId idempotencyKey
            stripeCustomerId) = w.db
          rw [prepared]
          rfl
        rw [unchanged] at runs
        exact runs
    | ok outcome =>
        dsimp only
        split
        · exact runs
        · split <;> exact runs

theorem runJob_runs (w : World) (ctx : Ctx) (job : Job) :
    Runs ctx w.db job.begins (w.runJob ctx job).db := by
  cases job with
  | cancelIntent attemptId reason =>
      simp only [runJob, Job.begins, Job.mutation]
      split
      · exact .idle ctx w.db
      · split
        · exact .idle ctx w.db
        · split <;> exact .idle ctx w.db
  | capture callId tries =>
      simp only [runJob, Job.begins, Job.mutation]
      split <;> exact .idle ctx w.db
  | runRefund refundId =>
      simp only [runJob, Job.begins]
      split <;> exact mutate_runs w ctx (.claimRefund refundId)
  | transfer itemId =>
      simp only [runJob, Job.begins]
      split <;> exact mutate_runs w ctx (.claimTransfer itemId)
  | expire callId => exact mutate_runs w ctx (.expire callId)
  | closeQueue showId => exact mutate_runs w ctx (.closeQueue showId)
  | checkSeen callId role seenAt => exact mutate_runs w ctx (.checkSeen callId role seenAt)
  | checkGrace callId role disconnectedAt =>
      exact mutate_runs w ctx (.checkGrace callId role disconnectedAt)
  | reserveBatch runId cursor => exact mutate_runs w ctx (.reserveBatch runId cursor)
  | finishRuns => exact mutate_runs w ctx .finishRuns
  | purgeSignals callId => exact .idle ctx w.db
  | reconcileAccount account => exact .idle ctx w.db

theorem advance_runs (w : World) (ctx : Ctx) (outcome : Outcome) (status : StripeRefundStatus)
    (flight : Flight) : Runs ctx w.db flight.mutation (w.advance ctx outcome status flight).db := by
  cases flight with
  | creatingIntent attemptId attempt =>
      simp only [advance, Flight.mutation]
      split <;> exact .idle ctx w.db
  | attachingIntent attemptId intentId => exact .mutate ctx w.db _
  | verifying userId args attemptId attempt intentId =>
      simp only [advance, Flight.mutation]
      split
      · split <;> exact .idle ctx w.db
      · exact .idle ctx w.db
  | markingAuthorized userId args attemptId => exact .mutate ctx w.db _
  | joining userId args attemptId => exact .mutate ctx w.db _
  | capturing callId tries attemptId intentId =>
      simp only [advance, Flight.mutation]
      split
      · split <;> exact .idle ctx w.db
      · exact retryCapture_runs ctx _ callId tries
      · exact retryCapture_runs ctx w callId tries
      · exact .idle ctx w.db
  | retrieving attemptId intentId =>
      simp only [advance, Flight.mutation]
      split <;> exact .idle ctx w.db
  | reportingCaptured attemptId => exact .mutate ctx w.db _
  | releasing attemptId intentId =>
      simp only [advance, Flight.mutation]
      split
      · split <;> exact .idle ctx w.db
      · exact .idle ctx w.db
      · exact .idle ctx w.db
  | canceling attemptId intentId reason =>
      simp only [advance, Flight.mutation]
      split
      · split <;> exact .idle ctx w.db
      · exact .idle ctx w.db
      · exact .idle ctx w.db
  | cancelRefused attemptId intentId =>
      simp only [advance, Flight.mutation]
      split <;> exact .idle ctx w.db
  | reportingNotCaptured attemptId status failureCode => exact .mutate ctx w.db _
  | refunding refundId refund =>
      simp only [advance, Flight.mutation]
      split
      · split <;> exact .idle ctx w.db
      · split <;> exact .idle ctx w.db
  | recordingRefund refundId stripeRefundId status failureCode => exact .mutate ctx w.db _
  | retryingRefund refundId => exact .mutate ctx w.db _
  | transferring itemId item =>
      simp only [advance, Flight.mutation]
      split <;> exact .idle ctx w.db
  | markingPaid itemId transferId => exact .mutate ctx w.db _
  | retryingTransfer itemId => exact .mutate ctx w.db _

/-- What a step does to the database. -/
theorem step_runs (w : World) (input : Ctx × Op) :
    Runs input.1 w.db (input.2.mutation w input.1) (w.step input).db := by
  obtain ⟨ctx, op⟩ := input
  cases op with
  | request m =>
      simp only [step, Op.mutation]
      split
      · exact .mutate ctx w.db m
      · exact .idle ctx w.db
  | authorize userId showId tierId idempotencyKey stripeCustomerId =>
      exact authorize_runs w ctx userId showId tierId idempotencyKey stripeCustomerId
  | joinPaid userId args attemptId =>
      simp only [step, joinPaid, Op.mutation]
      split
      · exact .idle ctx w.db
      · split
        · exact .idle ctx w.db
        · split
          · exact .idle ctx w.db
          · split <;> exact .idle ctx w.db
  | saveAccount creatorId account => exact .mutate ctx w.db _
  | runJob time job =>
      simp only [step, Op.mutation]
      split
      · have runs := runJob_runs
          { w with db := { w.db with scheduled := w.db.scheduled.erase (time, job) } } ctx job
        cases begins : job.begins with
        | none =>
            rw [begins] at runs
            obtain ⟨later, same⟩ := runs
            exact ⟨later, same⟩
        | some m =>
            rw [begins] at runs
            obtain ⟨before, later, same⟩ := runs
            exact ⟨before, later, same⟩
      · exact .idle ctx w.db
  | runDue => exact .mutate ctx w.db _
  | sweepRefunds now => exact scheduleAll_runs ctx w _
  | sweepCaptures now => exact scheduleAll_runs ctx w _
  | sweepTransfers now => exact scheduleAll_runs ctx w _
  | advance flight outcome status =>
      simp only [step, Op.mutation]
      split
      · exact advance_runs (w.land flight) ctx outcome status flight
      · exact .idle ctx w.db
  | stripe op => exact .idle ctx w.db
  | deliver eventId =>
      simp only [step, Op.mutation]
      cases w.stripe.events[eventId]? with
      | none => exact .idle ctx w.db
      | some event => exact .mutate ctx w.db _

/-- The database after a step, with the mutation that made it so. -/
theorem step_ran (w : World) (input : Ctx × Op) :
    (input.2.mutation w input.1 = none ∧ ∃ later,
      (w.step input).db = { w.db with scheduled := later }) ∨
    ∃ m earlier later, input.2.mutation w input.1 = some m ∧
      (w.step input).db =
        { m.apply input.1 { w.db with scheduled := earlier } with scheduled := later } := by
  have runs := step_runs w input
  cases ran : input.2.mutation w input.1 with
  | none =>
      rw [ran] at runs
      exact Or.inl ⟨rfl, runs⟩
  | some m =>
      rw [ran] at runs
      obtain ⟨earlier, later, same⟩ := runs
      exact Or.inr ⟨m, earlier, later, rfl, same⟩

/-! ### From mutations to runs -/

/-- A property of the database that the list of scheduled jobs has no part in. -/
def Unscheduled (holds : DB → Prop) : Prop :=
  ∀ db jobs, holds { db with scheduled := jobs } ↔ holds db

/-- Every mutation of the step, if it runs one, meets the guard. -/
def Meets (guard : Ctx → DB → Mutation → Prop) (w : World) (input : Ctx × Op) : Prop :=
  ∀ m, input.2.mutation w input.1 = some m → guard input.1 w.db m

instance decidableMeets (guard : Ctx → DB → Mutation → Prop)
    [∀ ctx db m, Decidable (guard ctx db m)] (w : World) (input : Ctx × Op) :
    Decidable (Meets guard w input) :=
  match ran : input.2.mutation w input.1 with
  | none => isTrue fun m found => by rw [ran] at found; cases found
  | some m => decidable_of_iff (guard input.1 w.db m)
      ⟨fun met other found => by rw [ran] at found; exact Option.some.inj found ▸ met,
        fun met => met m ran⟩

section Keeps

variable {holds known : DB → Prop} {guard : Ctx → DB → Mutation → Prop}

/-- What guarded mutations keep, guarded steps keep. -/
theorem step_keeps (jobless : Unscheduled holds) (aware : Unscheduled known)
    (blind : ∀ ctx m, Unscheduled fun db => guard ctx db m)
    (keeps : ∀ ctx db (m : Mutation), known db → holds db → guard ctx db m →
      holds (m.apply ctx db))
    {w : World} {input : Ctx × Op} (knows : known w.db) (before : holds w.db)
    (guarded : Meets guard w input) : holds (w.step input).db := by
  rcases step_ran w input with ⟨_, later, same⟩ | ⟨m, earlier, later, ran, same⟩
  · rw [same]
    exact (jobless _ later).mpr before
  · rw [same]
    exact (jobless _ later).mpr (keeps _ _ m ((aware _ earlier).mpr knows)
      ((jobless _ earlier).mpr before) ((blind _ m _ earlier).mpr (guarded m ran)))

/-- What guarded mutations keep, given what all states know, holds after every
guarded run. -/
theorem guarded_keeps (jobless : Unscheduled holds) (aware : Unscheduled known)
    (blind : ∀ ctx m, Unscheduled fun db => guard ctx db m) (initial : holds DB.empty)
    (keeps : ∀ ctx db (m : Mutation), known db → holds db → guard ctx db m →
      holds (m.apply ctx db))
    (knows : ∀ w, Reached w → known w.db) {inputs : List (Ctx × Op)}
    (guarded : Along step (Meets guard) World.empty inputs) :
    holds (run step World.empty inputs).db := by
  have start : Reached World.empty ∧ holds World.empty.db := ⟨.refl _ _, initial⟩
  refine (run_keeps (fun w => Reached w ∧ holds w.db) ?_ start guarded).2
  rintro w input ⟨reached, before⟩ met
  exact ⟨reached.step input, step_keeps jobless aware blind keeps (knows w reached) before met⟩

end Keeps

/-- What every mutation keeps holds in every reachable state. -/
theorem reached_keeps (holds : DB → Prop) (jobless : Unscheduled holds)
    (initial : holds DB.empty)
    (keeps : ∀ ctx db (m : Mutation), holds db → holds (m.apply ctx db)) {w : World}
    (reached : Reached w) : holds w.db := by
  refine reached.induct (fun w => holds w.db) initial ?_
  intro w input before
  have always : Meets (fun _ _ _ => True) w input := fun _ _ => trivial
  have aware : Unscheduled fun _ => True := fun _ _ => Iff.rfl
  exact step_keeps jobless aware (fun _ _ _ _ => Iff.rfl)
    (fun ctx db m _ held _ => keeps ctx db m held) trivial before always

/-! ### Requests to Stripe -/

/-- What a step can have done at Stripe. -/
inductive Requested (w : World) (input : Ctx × Op) : Stripe → Prop
  | nothing : Requested w input w.stripe
  | createIntent (attemptId : AttemptId) (attempt : PaymentAttempt)
      (flying : .creatingIntent attemptId attempt ∈ w.flights) :
      Requested w input (w.stripe.createIntent attemptId attempt).1
  | capture (callId : CallId) (tries : Nat) (attemptId : AttemptId) (intentId : StripeId)
      (flying : .capturing callId tries attemptId intentId ∈ w.flights) :
      Requested w input (w.stripe.capture intentId).1
  | release (attemptId : AttemptId) (intentId : StripeId)
      (flying : .releasing attemptId intentId ∈ w.flights) :
      Requested w input (w.stripe.cancel intentId).1
  | cancel (attemptId : AttemptId) (intentId : StripeId) (reason : CancelReason)
      (flying : .canceling attemptId intentId reason ∈ w.flights) :
      Requested w input (w.stripe.cancel intentId).1
  | createRefund (refundId : RefundId) (refund : PaymentRefund) (outcome : Outcome)
      (status : StripeRefundStatus) (flying : .refunding refundId refund ∈ w.flights)
      (asked : input.2 = .advance (.refunding refundId refund) outcome status)
      (reaches : outcome = .answered ∨ outcome = .lost)
      (unrecorded : refund.stripeRefundId = none) :
      Requested w input
        (w.stripe.createRefund refundId refund.stripePaymentIntentId status).1
  | createTransfer (itemId : ItemId) (item : PayoutItem)
      (flying : .transferring itemId item ∈ w.flights) :
      Requested w input (w.stripe.createTransfer itemId item).1
  | own (op : StripeOp) (asked : input.2 = .stripe op) :
      Requested w input (w.stripe.step op)

/-- How a flight that a step adds came about. -/
inductive Launched (w : World) (input : Ctx × Op) (stripe : Stripe) : Flight → Prop
  | creatingIntent (attemptId : AttemptId) (attempt : PaymentAttempt)
      (present : (w.step input).db.paymentAttempts.get attemptId = some attempt)
      (detached : attempt.stripePaymentIntentId = none) :
      Launched w input stripe (.creatingIntent attemptId attempt)
  | attachingIntent (attemptId : AttemptId) (attempt : PaymentAttempt)
      (flying : .creatingIntent attemptId attempt ∈ w.flights)
      (created : stripe = (w.stripe.createIntent attemptId attempt).1) :
      Launched w input stripe
        (.attachingIntent attemptId (w.stripe.createIntent attemptId attempt).2)
  | verifying (userId : Option UserId) (args : JoinArgs) (attemptId : AttemptId)
      (attempt : PaymentAttempt) (intentId : StripeId)
      (present : w.db.paymentAttempts.get attemptId = some attempt)
      (attached : attempt.stripePaymentIntentId = some intentId) :
      Launched w input stripe (.verifying userId args attemptId attempt intentId)
  | markingAuthorized (userId : Option UserId) (args : JoinArgs) (attemptId : AttemptId)
      (attempt : PaymentAttempt) (intentId : StripeId)
      (flying : .verifying userId args attemptId attempt intentId ∈ w.flights) :
      Launched w input stripe (.markingAuthorized userId args attemptId)
  | joining (userId : Option UserId) (args : JoinArgs) (attemptId : AttemptId) :
      Launched w input stripe (.joining userId args attemptId)
  | capturing (callId : CallId) (tries : Nat) (attemptId : AttemptId) (intentId : StripeId)
      (pending : pendingCapture w.db callId = some (attemptId, intentId)) :
      Launched w input stripe (.capturing callId tries attemptId intentId)
  | retrieving (callId : CallId) (tries : Nat) (attemptId : AttemptId) (intentId : StripeId)
      (flying : .capturing callId tries attemptId intentId ∈ w.flights) :
      Launched w input stripe (.retrieving attemptId intentId)
  | capturedNow (callId : CallId) (tries : Nat) (attemptId : AttemptId) (intentId : StripeId)
      (flying : .capturing callId tries attemptId intentId ∈ w.flights)
      (accepted : (w.stripe.capture intentId).2 = true)
      (done : stripe = (w.stripe.capture intentId).1) :
      Launched w input stripe (.reportingCaptured attemptId)
  | capturedBefore (attemptId : AttemptId) (intentId : StripeId)
      (flying : .retrieving attemptId intentId ∈ w.flights)
      (found : w.stripe.intentStatus intentId = some .succeeded) (same : stripe = w.stripe) :
      Launched w input stripe (.reportingCaptured attemptId)
  | releasing (attemptId : AttemptId) (intentId : StripeId)
      (flying : .retrieving attemptId intentId ∈ w.flights) :
      Launched w input stripe (.releasing attemptId intentId)
  | lostHold (attemptId : AttemptId) (intentId : StripeId)
      (flying : .retrieving attemptId intentId ∈ w.flights)
      (found : w.stripe.intentStatus intentId = some .canceled) (same : stripe = w.stripe) :
      Launched w input stripe
        (.reportingNotCaptured attemptId .failed (some "capture_failed"))
  | releasedHold (attemptId : AttemptId) (intentId : StripeId)
      (flying : .releasing attemptId intentId ∈ w.flights)
      (accepted : (w.stripe.cancel intentId).2 = true)
      (done : stripe = (w.stripe.cancel intentId).1) :
      Launched w input stripe
        (.reportingNotCaptured attemptId .failed (some "capture_failed"))
  | canceling (attemptId : AttemptId) (intentId : StripeId) (reason : CancelReason)
      (attempt : PaymentAttempt)
      (present : w.db.paymentAttempts.get attemptId = some attempt)
      (attached : attempt.stripePaymentIntentId = some intentId) :
      Launched w input stripe (.canceling attemptId intentId reason)
  | canceledHold (attemptId : AttemptId) (intentId : StripeId) (reason : CancelReason)
      (flying : .canceling attemptId intentId reason ∈ w.flights)
      (accepted : (w.stripe.cancel intentId).2 = true)
      (done : stripe = (w.stripe.cancel intentId).1) :
      Launched w input stripe (.reportingNotCaptured attemptId .canceled none)
  | cancelRefused (attemptId : AttemptId) (intentId : StripeId) (reason : CancelReason)
      (flying : .canceling attemptId intentId reason ∈ w.flights) :
      Launched w input stripe (.cancelRefused attemptId intentId)
  | canceledBefore (attemptId : AttemptId) (intentId : StripeId)
      (flying : .cancelRefused attemptId intentId ∈ w.flights)
      (found : w.stripe.intentStatus intentId = some .canceled) (same : stripe = w.stripe) :
      Launched w input stripe (.reportingNotCaptured attemptId .canceled none)
  | refunding (refundId : RefundId) (refund : PaymentRefund)
      (present : (w.step input).db.paymentRefunds.get refundId = some refund) :
      Launched w input stripe (.refunding refundId refund)
  | refundFound (refundId : RefundId) (refund : PaymentRefund) (stripeRefundId : StripeId)
      (found : StripeRefund) (flying : .refunding refundId refund ∈ w.flights)
      (recorded : refund.stripeRefundId = some stripeRefundId)
      (present : w.stripe.refunds.get stripeRefundId = some found) (same : stripe = w.stripe) :
      Launched w input stripe (.recordingRefund refundId stripeRefundId
        (statusFromStripe found.status) found.failureReason)
  | refundCreated (refundId : RefundId) (refund : PaymentRefund) (status : StripeRefundStatus)
      (stripeRefundId : StripeId) (found : StripeRefund)
      (flying : .refunding refundId refund ∈ w.flights)
      (unrecorded : refund.stripeRefundId = none)
      (created : (w.stripe.createRefund refundId refund.stripePaymentIntentId status).2 =
        some stripeRefundId)
      (done : stripe = (w.stripe.createRefund refundId refund.stripePaymentIntentId status).1)
      (present : stripe.refunds.get stripeRefundId = some found) :
      Launched w input stripe (.recordingRefund refundId stripeRefundId
        (statusFromStripe found.status) found.failureReason)
  | retryingRefund (refundId : RefundId) (refund : PaymentRefund)
      (flying : .refunding refundId refund ∈ w.flights) :
      Launched w input stripe (.retryingRefund refundId)
  | transferring (itemId : ItemId) (item : PayoutItem)
      (present : (w.step input).db.payoutItems.get itemId = some item) :
      Launched w input stripe (.transferring itemId item)
  | markingPaid (itemId : ItemId) (item : PayoutItem)
      (flying : .transferring itemId item ∈ w.flights)
      (done : stripe = (w.stripe.createTransfer itemId item).1) :
      Launched w input stripe (.markingPaid itemId (w.stripe.createTransfer itemId item).2)
  | retryingTransfer (itemId : ItemId) (item : PayoutItem)
      (flying : .transferring itemId item ∈ w.flights) :
      Launched w input stripe (.retryingTransfer itemId)

/-- What a step does to Stripe and to the actions in flight. -/
structure Moves (w : World) (input : Ctx × Op) (after : World) : Prop where
  requested : Requested w input after.stripe
  launched : ∀ flight ∈ after.flights, flight ∈ w.flights ∨ Launched w input after.stripe flight

theorem Moves.still {w : World} {input : Ctx × Op} {after : World}
    (stripe : after.stripe = w.stripe) (flights : ∀ flight ∈ after.flights, flight ∈ w.flights) :
    Moves w input after := by
  refine ⟨?_, fun flight member => Or.inl (flights flight member)⟩
  rw [stripe]
  exact .nothing

theorem Moves.fly {w : World} {input : Ctx × Op} {after : World} {flight : Flight}
    (requested : Requested w input after.stripe)
    (flights : ∀ other ∈ after.flights, other ∈ w.flights)
    (launched : Launched w input after.stripe flight) : Moves w input (after.fly flight) := by
  refine ⟨requested, ?_⟩
  intro other member
  rcases List.mem_append.mp member with old | new
  · exact Or.inl (flights other old)
  · rw [List.mem_singleton.mp new]
    exact Or.inr launched

theorem Moves.launch {w : World} {input : Ctx × Op} {after : World} {flight : Flight}
    (stripe : after.stripe = w.stripe) (flights : ∀ other ∈ after.flights, other ∈ w.flights)
    (launched : Launched w input after.stripe flight) : Moves w input (after.fly flight) :=
  .fly (stripe ▸ .nothing) flights launched

theorem authorize_moves (w : World) (ctx : Ctx) (userId : Option UserId) (showId : ShowId)
    (tierId : TierId) (idempotencyKey : Text) (stripeCustomerId : Option StripeId) :
    Moves w (ctx, .authorize userId showId tierId idempotencyKey stripeCustomerId)
      (w.authorize ctx userId showId tierId idempotencyKey stripeCustomerId) := by
  unfold authorize
  split
  · exact .still rfl fun _ member => member
  · rename_i key
    dsimp only
    cases prepared : prepare w.db userId showId tierId idempotencyKey stripeCustomerId with
    | error code => exact .still rfl fun _ member => member
    | ok outcome =>
        obtain ⟨after, attemptId⟩ := outcome
        dsimp only
        cases found : after.paymentAttempts.get attemptId with
        | none => exact .still rfl fun _ member => member
        | some attempt =>
            dsimp only
            split
            · exact .still rfl fun _ member => member
            · rename_i detached
              have committed : (w.step (ctx, .authorize userId showId tierId idempotencyKey
                  stripeCustomerId)).db = after := by
                simp only [step, authorize, if_neg key, prepared, found, if_neg detached]
                change commit w.db (prepare w.db userId showId tierId idempotencyKey
                  stripeCustomerId) = after
                rw [prepared]
                rfl
              refine .launch rfl (fun _ member => member) (.creatingIntent attemptId attempt ?_
                (Option.not_isSome_iff_eq_none.mp detached))
              rw [committed]
              exact found

theorem joinPaid_moves (w : World) (ctx : Ctx) (userId : Option UserId) (args : JoinArgs)
    (attemptId : AttemptId) :
    Moves w (ctx, .joinPaid userId args attemptId) (w.joinPaid userId args attemptId) := by
  unfold joinPaid
  cases found : attemptForPayer w.db userId args.showId attemptId with
  | error code => exact .still rfl fun _ member => member
  | ok attempt =>
      dsimp only
      have present : w.db.paymentAttempts.get attemptId = some attempt := by
        unfold attemptForPayer at found
        obtain ⟨payerId, _, found⟩ := bind_ok found
        split at found
        · cases found
        · rename_i held located
          split at found
          · cases found
          · rw [located, Except.ok.inj found]
      split
      · exact .launch rfl (fun _ member => member) (.joining userId args attemptId)
      · split
        · exact .still rfl fun _ member => member
        · rename_i intentId attached
          split
          · exact .still rfl fun _ member => member
          · exact .launch rfl (fun _ member => member)
              (.verifying userId args attemptId attempt intentId present attached)

theorem claimed_refund {ctx : Ctx} {db : DB} {refundId : RefundId} {refund : PaymentRefund}
    (claimed : (claimRefund ctx db refundId).2 = some refund) :
    (claimRefund ctx db refundId).1.paymentRefunds.get refundId = some refund := by
  unfold claimRefund at claimed ⊢
  split
  · rename_i absent
    rw [absent] at claimed
    cases claimed
  · rename_i held present
    rw [present] at claimed
    dsimp only at claimed
    split
    · rename_i skips
      rw [if_pos skips] at claimed
      cases claimed
    · rename_i claims
      rw [if_neg claims] at claimed
      exact claimed

theorem claimed_transfer {ctx : Ctx} {db : DB} {itemId : ItemId} {item : PayoutItem}
    (claimed : (claimTransfer ctx db itemId).2 = some item) :
    (claimTransfer ctx db itemId).1.payoutItems.get itemId = some item := by
  unfold claimTransfer at claimed ⊢
  split
  · rename_i absent
    rw [absent] at claimed
    cases claimed
  · rename_i held present
    rw [present] at claimed
    dsimp only at claimed
    split
    · rename_i skips
      rw [if_pos skips] at claimed
      cases claimed
    · rename_i claims
      rw [if_neg claims] at claimed
      exact claimed

/-- A job runs in the state from which it has been taken. -/
theorem runJob_moves (w : World) (ctx : Ctx) (time : Time) (job : Job)
    (due : (time, job) ∈ w.db.scheduled ∧ time ≤ ctx.now) :
    Moves w (ctx, .runJob time job) ({ w with db :=
      { w.db with scheduled := w.db.scheduled.erase (time, job) } }.runJob ctx job) := by
  have ran : w.step (ctx, .runJob time job) = { w with db :=
      { w.db with scheduled := w.db.scheduled.erase (time, job) } }.runJob ctx job := by
    simp only [step, if_pos due]
  cases job with
  | cancelIntent attemptId reason =>
      simp only [runJob]
      split
      · exact .still rfl fun _ member => member
      · rename_i attempt present
        split
        · exact .still rfl fun _ member => member
        · rename_i intentId attached
          split
          · exact .still rfl fun _ member => member
          · exact .launch rfl (fun _ member => member)
              (.canceling attemptId intentId reason attempt present attached)
  | capture callId tries =>
      simp only [runJob]
      split
      · exact .still rfl fun _ member => member
      · rename_i attemptId intentId pending
        exact .launch rfl (fun _ member => member)
          (.capturing callId tries attemptId intentId pending)
  | runRefund refundId =>
      simp only [runJob] at ran ⊢
      split
      · exact .still rfl fun _ member => member
      · rename_i refund claimed
        refine .launch rfl (fun _ member => member) (.refunding refundId refund ?_)
        rw [ran, claimed]
        exact claimed_refund claimed
  | transfer itemId =>
      simp only [runJob] at ran ⊢
      split
      · exact .still rfl fun _ member => member
      · rename_i item claimed
        refine .launch rfl (fun _ member => member) (.transferring itemId item ?_)
        rw [ran, claimed]
        exact claimed_transfer claimed
  | expire callId => exact .still rfl fun _ member => member
  | closeQueue showId => exact .still rfl fun _ member => member
  | checkSeen callId role seenAt => exact .still rfl fun _ member => member
  | checkGrace callId role disconnectedAt => exact .still rfl fun _ member => member
  | reserveBatch runId cursor => exact .still rfl fun _ member => member
  | finishRuns => exact .still rfl fun _ member => member
  | purgeSignals callId => exact .still rfl fun _ member => member
  | reconcileAccount account => exact .still rfl fun _ member => member

theorem retryCapture_keeps (w : World) (ctx : Ctx) (callId : CallId) (tries : Nat) :
    (w.retryCapture ctx callId tries).stripe = w.stripe ∧
      (w.retryCapture ctx callId tries).flights = w.flights := by
  unfold retryCapture
  split <;> exact ⟨rfl, rfl⟩

theorem advance_moves (w : World) (ctx : Ctx) (outcome : Outcome) (status : StripeRefundStatus)
    (flight : Flight) (flying : flight ∈ w.flights) :
    Moves w (ctx, .advance flight outcome status)
      ((w.land flight).advance ctx outcome status flight) := by
  have landed : ∀ other ∈ (w.land flight).flights, other ∈ w.flights :=
    fun other member => List.mem_of_mem_erase member
  cases flight with
  | creatingIntent attemptId attempt =>
      simp only [advance]
      split
      · exact .fly (.createIntent attemptId attempt flying) landed
          (.attachingIntent attemptId attempt flying rfl)
      · exact ⟨.createIntent attemptId attempt flying, fun other member =>
          Or.inl (landed other member)⟩
      · exact .still rfl landed
  | attachingIntent attemptId intentId => exact .still rfl landed
  | verifying userId args attemptId attempt intentId =>
      simp only [advance]
      split
      · split
        · exact .launch rfl landed
            (.markingAuthorized userId args attemptId attempt intentId flying)
        · exact .still rfl landed
      · exact .still rfl landed
  | markingAuthorized userId args attemptId =>
      exact .launch rfl landed (.joining userId args attemptId)
  | joining userId args attemptId => exact .still rfl landed
  | capturing callId tries attemptId intentId =>
      simp only [advance]
      split
      · split
        · rename_i accepted
          exact .fly (.capture callId tries attemptId intentId flying) landed
            (.capturedNow callId tries attemptId intentId flying accepted rfl)
        · exact .launch rfl landed (.retrieving callId tries attemptId intentId flying)
      · obtain ⟨stripe, flights⟩ := retryCapture_keeps
          { w.land (.capturing callId tries attemptId intentId) with
            stripe := (w.stripe.capture intentId).1 } ctx callId tries
        refine ⟨?_, fun other member => Or.inl (landed other (flights ▸ member))⟩
        exact stripe.symm ▸ .capture callId tries attemptId intentId flying
      · obtain ⟨stripe, flights⟩ := retryCapture_keeps
          (w.land (.capturing callId tries attemptId intentId)) ctx callId tries
        exact .still stripe fun other member => landed other (flights ▸ member)
      · exact .launch rfl landed (.retrieving callId tries attemptId intentId flying)
  | retrieving attemptId intentId =>
      simp only [advance]
      split
      · rename_i found
        exact .launch rfl landed (.capturedBefore attemptId intentId flying found rfl)
      · rename_i found
        exact .launch rfl landed (.lostHold attemptId intentId flying found rfl)
      · exact .launch rfl landed (.releasing attemptId intentId flying)
      · exact .still rfl landed
  | reportingCaptured attemptId => exact .still rfl landed
  | releasing attemptId intentId =>
      simp only [advance]
      split
      · split
        · rename_i accepted
          exact .fly (.release attemptId intentId flying) landed
            (.releasedHold attemptId intentId flying accepted rfl)
        · exact .still rfl landed
      · exact ⟨.release attemptId intentId flying, fun other member =>
          Or.inl (landed other member)⟩
      · exact .still rfl landed
  | canceling attemptId intentId reason =>
      simp only [advance]
      split
      · split
        · rename_i accepted
          exact .fly (.cancel attemptId intentId reason flying) landed
            (.canceledHold attemptId intentId reason flying accepted rfl)
        · exact .launch rfl landed (.cancelRefused attemptId intentId reason flying)
      · exact .fly (.cancel attemptId intentId reason flying) landed
          (.cancelRefused attemptId intentId reason flying)
      · exact .launch rfl landed (.cancelRefused attemptId intentId reason flying)
  | cancelRefused attemptId intentId =>
      simp only [advance]
      split
      · rename_i found
        exact .launch rfl landed (.canceledBefore attemptId intentId flying found rfl)
      · exact .still rfl landed
  | reportingNotCaptured attemptId status failureCode => exact .still rfl landed
  | refunding refundId refund =>
      simp only [advance]
      split
      · rename_i stripeRefundId recorded
        split
        · rename_i found present
          exact .launch rfl landed
            (.refundFound refundId refund stripeRefundId found flying recorded present rfl)
        · exact .launch rfl landed (.retryingRefund refundId refund flying)
      · rename_i unrecorded
        split
        · rename_i stripeRefundId found present
          obtain ⟨id, created, same⟩ := Option.bind_eq_some_iff.mp present
          obtain ⟨row, located, same⟩ := Option.map_eq_some_iff.mp same
          obtain ⟨rfl, rfl⟩ := Prod.mk.inj same
          exact .fly
            (.createRefund refundId refund .answered status flying rfl (Or.inl rfl) unrecorded)
            landed
            (.refundCreated refundId refund status id row flying unrecorded created rfl located)
        · exact .fly
            (.createRefund refundId refund .lost status flying rfl (Or.inr rfl) unrecorded) landed
            (.retryingRefund refundId refund flying)
        · exact .launch rfl landed (.retryingRefund refundId refund flying)
  | recordingRefund refundId stripeRefundId status failureCode => exact .still rfl landed
  | retryingRefund refundId => exact .still rfl landed
  | transferring itemId item =>
      simp only [advance]
      split
      · exact .fly (.createTransfer itemId item flying) landed
          (.markingPaid itemId item flying rfl)
      · exact .fly (.createTransfer itemId item flying) landed
          (.retryingTransfer itemId item flying)
      · exact .launch rfl landed (.retryingTransfer itemId item flying)
  | markingPaid itemId transferId => exact .still rfl landed
  | retryingTransfer itemId => exact .still rfl landed

theorem scheduleAll_keeps (ctx : Ctx) (w : World) (jobs : List Job) :
    (w.scheduleAll ctx jobs).stripe = w.stripe ∧
      (w.scheduleAll ctx jobs).flights = w.flights := by
  unfold scheduleAll
  induction jobs generalizing w with
  | nil => exact ⟨rfl, rfl⟩
  | cons job rest ih => exact ih (w.schedule ctx.now job)

theorem step_moves (w : World) (input : Ctx × Op) : Moves w input (w.step input) := by
  obtain ⟨ctx, op⟩ := input
  have sweeps (jobs : List Job) (op : Op) : Moves w (ctx, op) (w.scheduleAll ctx jobs) := by
    obtain ⟨stripe, flights⟩ := scheduleAll_keeps ctx w jobs
    exact .still stripe fun other member => flights ▸ member
  cases op with
  | request m =>
      simp only [step]
      split <;> exact .still rfl fun _ member => member
  | authorize userId showId tierId idempotencyKey stripeCustomerId =>
      exact authorize_moves w ctx userId showId tierId idempotencyKey stripeCustomerId
  | joinPaid userId args attemptId => exact joinPaid_moves w ctx userId args attemptId
  | saveAccount creatorId account => exact .still rfl fun _ member => member
  | runJob time job =>
      simp only [step]
      split
      · rename_i due
        exact runJob_moves w ctx time job due
      · exact .still rfl fun _ member => member
  | runDue => exact .still rfl fun _ member => member
  | sweepRefunds now => exact sweeps _ _
  | sweepCaptures now => exact sweeps _ _
  | sweepTransfers now => exact sweeps _ _
  | advance flight outcome status =>
      simp only [step]
      split
      · rename_i flying
        exact advance_moves w ctx outcome status flight flying
      · exact .still rfl fun _ member => member
  | stripe op => exact ⟨.own op rfl, fun _ member => Or.inl member⟩
  | deliver eventId =>
      simp only [step]
      split <;> exact .still rfl fun _ member => member

end World

end Bling
