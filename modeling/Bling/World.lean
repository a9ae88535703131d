import Bling.Library.Machine
import Bling.Backend
import Bling.Stripe

set_option autoImplicit false

namespace Bling

open Library

/-! The whole system: the database, Stripe, and the actions between them. An
action is not a transaction, so it may be overtaken, or die, at every `await`. -/

/-- An action between two of its awaits, with what it has read so far. -/
inductive Flight where
  | creatingIntent (attemptId : AttemptId) (attempt : PaymentAttempt)
  | attachingIntent (attemptId : AttemptId) (intentId : StripeId)
  | verifying (userId : Option UserId) (args : JoinArgs) (attemptId : AttemptId)
      (attempt : PaymentAttempt) (intentId : StripeId)
  | markingAuthorized (userId : Option UserId) (args : JoinArgs) (attemptId : AttemptId)
  | joining (userId : Option UserId) (args : JoinArgs) (attemptId : AttemptId)
  | capturing (callId : CallId) (tries : Nat) (attemptId : AttemptId) (intentId : StripeId)
  | retrieving (attemptId : AttemptId) (intentId : StripeId)
  | reportingCaptured (attemptId : AttemptId)
  | releasing (attemptId : AttemptId) (intentId : StripeId)
  | canceling (attemptId : AttemptId) (intentId : StripeId) (reason : CancelReason)
  | cancelRefused (attemptId : AttemptId) (intentId : StripeId)
  | reportingNotCaptured (attemptId : AttemptId) (status : NotCaptured)
      (failureCode : Option String)
  | refunding (refundId : RefundId) (refund : PaymentRefund)
  | recordingRefund (refundId : RefundId) (stripeRefundId : StripeId) (status : RefundOutcome)
      (failureCode : Option String)
  | retryingRefund (refundId : RefundId)
  | transferring (itemId : ItemId) (item : PayoutItem)
  | markingPaid (itemId : ItemId) (transferId : StripeId)
  | retryingTransfer (itemId : ItemId)
deriving DecidableEq

/-- What becomes of a request to Stripe. -/
inductive Outcome where
  /-- Stripe answered, be it with a refusal. -/
  | answered
  /-- Stripe acted, but the connection failed before the answer arrived. -/
  | lost
  /-- The request never reached Stripe. -/
  | unreachable
  /-- Stripe turned the request down without acting. -/
  | rejected
deriving DecidableEq

structure World where
  db : DB
  stripe : Stripe
  flights : List Flight

def World.empty : World := ⟨.empty, .empty, []⟩

inductive Op where
  /-- A client calls a public mutation. -/
  | request (mutation : Mutation)
  /-- `payments.authorize`, up to its first request to Stripe. -/
  | authorize (userId : Option UserId) (showId : ShowId) (tierId : TierId) (idempotencyKey : Text)
      (stripeCustomerId : Option StripeId)
  /-- `queue.joinPaid`, up to its first request to Stripe. -/
  | joinPaid (userId : Option UserId) (args : JoinArgs) (attemptId : AttemptId)
  /-- `payouts.saveAccount` with an account as just read from Stripe. -/
  | saveAccount (creatorId : UserId) (account : PayoutAccount)
  | runJob (time : Time) (job : Job)
  /-- The hourly `creator payouts` cron job. -/
  | runDue
  /-- A part of the `payments sweep` cron job, with the clock its action read. -/
  | sweepRefunds (now : Time)
  | sweepCaptures (now : Time)
  | sweepTransfers (now : Time)
  /-- An action goes on to its next await; a refund Stripe creates has `status`. -/
  | advance (flight : Flight) (outcome : Outcome) (status : StripeRefundStatus)
  | stripe (op : StripeOp)
  /-- Stripe delivers the event with this id, again or for the first time. -/
  | deliver (eventId : Nat)

def maxCaptureTries : Nat := 5

namespace World

def mutate (w : World) (ctx : Ctx) (mutation : Mutation) : World :=
  { w with db := mutation.apply ctx w.db }

def fly (w : World) (flight : Flight) : World :=
  { w with flights := w.flights ++ [flight] }

def land (w : World) (flight : Flight) : World :=
  { w with flights := w.flights.erase flight }

def schedule (w : World) (time : Time) (job : Job) : World :=
  { w with db := w.db.runAt time job }

/-- The checks of `authorize` before Stripe is asked for an intent. -/
def authorize (w : World) (ctx : Ctx) (userId : Option UserId) (showId : ShowId) (tierId : TierId)
    (idempotencyKey : Text) (stripeCustomerId : Option StripeId) : World :=
  if idempotencyKey.length < 8 ∨ 200 < idempotencyKey.length then w
  else
    let mutation := Mutation.prepare userId showId tierId idempotencyKey stripeCustomerId
    match prepare w.db userId showId tierId idempotencyKey stripeCustomerId with
    | .error _ => w
    | .ok (after, attemptId) =>
      match after.paymentAttempts.get attemptId with
      | none => w.mutate ctx mutation
      | some attempt =>
        if attempt.stripePaymentIntentId.isSome then w.mutate ctx mutation
        else (w.mutate ctx mutation).fly (.creatingIntent attemptId attempt)

/-- `verifyAuthorization` up to its request to Stripe, unless Bling already
knows of the hold. -/
def joinPaid (w : World) (userId : Option UserId) (args : JoinArgs) (attemptId : AttemptId) :
    World :=
  match attemptForPayer w.db userId args.showId attemptId with
  | .error _ => w
  | .ok attempt =>
    if attempt.status = .authorized then w.fly (.joining userId args attemptId)
    else match attempt.stripePaymentIntentId with
      | none => w
      | some intentId =>
        if attempt.status ≠ .created then w
        else w.fly (.verifying userId args attemptId attempt intentId)

/-- A scheduled function runs: a mutation to its end, an action up to its first
request to Stripe. -/
def runJob (w : World) (ctx : Ctx) (job : Job) : World :=
  match job with
  | .cancelIntent attemptId reason =>
    match w.db.paymentAttempts.get attemptId with
    | none => w
    | some attempt =>
      match attempt.stripePaymentIntentId with
      | none => w
      | some intentId =>
        if attempt.status ≠ .created ∧ attempt.status ≠ .authorized then w
        else w.fly (.canceling attemptId intentId reason)
  | .capture callId tries =>
    match pendingCapture w.db callId with
    | none => w
    | some (attemptId, intentId) => w.fly (.capturing callId tries attemptId intentId)
  | .runRefund refundId =>
    match (claimRefund ctx w.db refundId).2 with
    | none => w.mutate ctx (.claimRefund refundId)
    | some refund => (w.mutate ctx (.claimRefund refundId)).fly (.refunding refundId refund)
  | .transfer itemId =>
    match (claimTransfer ctx w.db itemId).2 with
    | none => w.mutate ctx (.claimTransfer itemId)
    | some item => (w.mutate ctx (.claimTransfer itemId)).fly (.transferring itemId item)
  | job =>
    match job.mutation with
    | some mutation => w.mutate ctx mutation
    | none => w

/-- The hold must be for exactly this amount, held by Bling, with no
destination or application fee. -/
def holdMatches (intent : Intent) (attempt : PaymentAttempt) : Bool :=
  intent.status == .requiresCapture && intent.amount == attempt.amountCents &&
    intent.currency == attempt.currency && intent.transferData == none &&
    intent.applicationFeeAmount == none

/-- A capture whose outcome is unknown is tried again, or else left to the
webhook and the sweep. -/
def retryCapture (w : World) (ctx : Ctx) (callId : CallId) (tries : Nat) : World :=
  if tries + 1 < maxCaptureTries then
    w.schedule (ctx.now + 1000 * 2 ^ tries) (.capture callId (tries + 1))
  else w

/-- An action's next step. Every request to Stripe is made with the outcome
given; without one the action ends here. -/
def advance (w : World) (ctx : Ctx) (outcome : Outcome) (status : StripeRefundStatus) :
    Flight → World
  | .creatingIntent attemptId attempt =>
    let (stripe, intentId) := w.stripe.createIntent attemptId attempt
    match outcome with
    | .answered => { w with stripe }.fly (.attachingIntent attemptId intentId)
    | .lost => { w with stripe }
    | _ => w
  | .attachingIntent attemptId intentId => w.mutate ctx (.attachIntent attemptId intentId)
  | .verifying userId args attemptId attempt intentId =>
    match outcome, w.stripe.intents.get intentId with
    | .answered, some intent =>
      if holdMatches intent attempt then w.fly (.markingAuthorized userId args attemptId) else w
    | _, _ => w
  | .markingAuthorized userId args attemptId =>
    (w.mutate ctx (.markAuthorized attemptId)).fly (.joining userId args attemptId)
  | .joining userId args attemptId => w.mutate ctx (.joinWithPayment userId args attemptId)
  | .capturing callId tries attemptId intentId =>
    let (stripe, accepted) := w.stripe.capture intentId
    match outcome with
    | .answered =>
      if accepted then { w with stripe }.fly (.reportingCaptured attemptId)
      else w.fly (.retrieving attemptId intentId)
    | .lost => { w with stripe }.retryCapture ctx callId tries
    | .unreachable => w.retryCapture ctx callId tries
    | .rejected => w.fly (.retrieving attemptId intentId)
  | .retrieving attemptId intentId =>
    match outcome, w.stripe.intentStatus intentId with
    | .answered, some .succeeded => w.fly (.reportingCaptured attemptId)
    | .answered, some .canceled =>
      w.fly (.reportingNotCaptured attemptId .failed (some "capture_failed"))
    | .answered, some _ => w.fly (.releasing attemptId intentId)
    | _, _ => w
  | .reportingCaptured attemptId => w.mutate ctx (.captured attemptId)
  | .releasing attemptId intentId =>
    let (stripe, accepted) := w.stripe.cancel intentId
    match outcome with
    | .answered =>
      if accepted then
        { w with stripe }.fly (.reportingNotCaptured attemptId .failed (some "capture_failed"))
      else w
    | .lost => { w with stripe }
    | _ => w
  | .canceling attemptId intentId _ =>
    let (stripe, accepted) := w.stripe.cancel intentId
    match outcome with
    | .answered =>
      if accepted then { w with stripe }.fly (.reportingNotCaptured attemptId .canceled none)
      else w.fly (.cancelRefused attemptId intentId)
    | .lost => { w with stripe }.fly (.cancelRefused attemptId intentId)
    | _ => w.fly (.cancelRefused attemptId intentId)
  | .cancelRefused attemptId intentId =>
    match outcome, w.stripe.intentStatus intentId with
    | .answered, some .canceled => w.fly (.reportingNotCaptured attemptId .canceled none)
    | _, _ => w
  | .reportingNotCaptured attemptId status failureCode =>
    w.mutate ctx (.notCaptured attemptId status failureCode)
  | .refunding refundId refund =>
    -- Once Stripe has a refund, check it rather than create another.
    match refund.stripeRefundId with
    | some stripeRefundId =>
      match outcome, w.stripe.refunds.get stripeRefundId with
      | .answered, some found => w.fly
          (.recordingRefund refundId stripeRefundId (statusFromStripe found.status)
            found.failureReason)
      | _, _ => w.fly (.retryingRefund refundId)
    | none =>
      let (stripe, created) :=
        w.stripe.createRefund refundId refund.stripePaymentIntentId status
      match outcome, created.bind fun id => (stripe.refunds.get id).map fun r => (id, r) with
      | .answered, some (stripeRefundId, found) => { w with stripe }.fly
          (.recordingRefund refundId stripeRefundId (statusFromStripe found.status)
            found.failureReason)
      | .lost, _ => { w with stripe }.fly (.retryingRefund refundId)
      | _, _ => w.fly (.retryingRefund refundId)
  | .recordingRefund refundId stripeRefundId status failureCode =>
    w.mutate ctx (.recordRefund refundId stripeRefundId status failureCode)
  | .retryingRefund refundId => w.mutate ctx (.retryRefund refundId "provider_error")
  | .transferring itemId item =>
    let (stripe, transferId) := w.stripe.createTransfer itemId item
    match outcome with
    | .answered => { w with stripe }.fly (.markingPaid itemId transferId)
    | .lost => { w with stripe }.fly (.retryingTransfer itemId)
    | _ => w.fly (.retryingTransfer itemId)
  | .markingPaid itemId transferId => w.mutate ctx (.markPaid itemId transferId)
  | .retryingTransfer itemId => w.mutate ctx (.retryTransfer itemId "provider_error")

def scheduleAll (w : World) (ctx : Ctx) (jobs : List Job) : World :=
  jobs.foldl (fun w job => w.schedule ctx.now job) w

def step (w : World) (input : Ctx × Op) : World :=
  let ctx := input.1
  match input.2 with
  | .request mutation => if mutation.isPublic then w.mutate ctx mutation else w
  | .authorize userId showId tierId idempotencyKey stripeCustomerId =>
    w.authorize ctx userId showId tierId idempotencyKey stripeCustomerId
  | .joinPaid userId args attemptId => w.joinPaid userId args attemptId
  | .saveAccount creatorId account => w.mutate ctx (.saveAccount creatorId account)
  | .runJob time job =>
    if (time, job) ∈ w.db.scheduled ∧ time ≤ ctx.now then
      { w with db := { w.db with scheduled := w.db.scheduled.erase (time, job) } }.runJob ctx job
    else w
  | .runDue => w.mutate ctx .runDue
  | .sweepRefunds now => w.scheduleAll ctx ((dueRefunds w.db now).map .runRefund)
  | .sweepCaptures now =>
    w.scheduleAll ctx ((stalledCaptures w.db (now - 2 * 60000)).map fun callId => .capture callId 0)
  | .sweepTransfers now => w.scheduleAll ctx ((dueTransfers w.db now).map .transfer)
  | .advance flight outcome status =>
    if flight ∈ w.flights then (w.land flight).advance ctx outcome status flight else w
  | .stripe op => { w with stripe := w.stripe.step op }
  | .deliver eventId =>
    match w.stripe.events[eventId]? with
    | some event => w.mutate ctx (.applyEvent event)
    | none => w

/-- The states any interleaving can reach. -/
abbrev Reached (w : World) : Prop := Reachable step World.empty w

/-! ### A show with one paying caller -/

def sampleEnv : Env := ⟨none, true, none, none, "usd"⟩

def sampleAccount : PayoutAccount :=
  ⟨0, 0, "active", "active", true, some "Bank", some "6789", some "usd", true, []⟩

def sampleArgs : JoinArgs := ⟨0, some 1, [83], [84]⟩

/-- The attempt `prepare` makes of a $5 tier. -/
def sampleAttempt : PaymentAttempt :=
  { showId := 0
    creatorId := 0
    tierId := 1
    payerId := 1
    idempotencyKey := [1, 2, 3, 4, 5, 6, 7, 8]
    queueEntryId := none
    stripePaymentIntentId := none
    stripeCustomerId := none
    amountCents := 500
    currency := "usd"
    platformFeeBps := 1000
    platformFeeCents := 72
    basicCardFeeCents := 45
    creatorProcessingFeeCents := 22
    status := .created
    failureCode := none
    authorizedAt := none
    capturedAt := none
    canceledAt := none
    savedPaymentMethodId := none }

/-- User 0 starts a show with a $5 tier, and user 1 is given an intent for it. -/
def preparing : List Op :=
  [.request (.signUp (some [97])), .request (.signUp none), .saveAccount 0 sampleAccount,
    .request (.createShow (some 0)),
    .request (.replaceTiers id (some 0) 0 [⟨[80], 300, 500, true⟩]),
    .request (.startShow (some 0) 0),
    .authorize (some 1) 0 1 sampleAttempt.idempotencyKey none,
    .advance (.creatingIntent 0 sampleAttempt) .answered .pending,
    .advance (.attachingIntent 0 0) .answered .pending]

/-- The hold is verified and the caller waits. -/
def waiting : List Op :=
  [.joinPaid (some 1) sampleArgs 0,
    .advance (.verifying (some 1) sampleArgs 0
      { sampleAttempt with stripePaymentIntentId := some 0 } 0) .answered .pending,
    .advance (.markingAuthorized (some 1) sampleArgs 0) .answered .pending,
    .advance (.joining (some 1) sampleArgs 0) .answered .pending]

/-- The caller is selected, and the hold is captured. -/
def selecting : List Op := [.request (.select (some 0) 0 0), .runJob 5 (.capture 0 0)]

def capturing : List Op :=
  [.advance (.capturing 0 0 0 0) .answered .pending,
    .advance (.reportingCaptured 0) .answered .pending]

/-- All of it at one reading of the clock. -/
def sampled (ops : List Op) : List (Ctx × Op) := ops.map fun op => (⟨5, sampleEnv⟩, op)

def confirming : List Op := [.stripe (.confirm 0 0 false)]

/-- All of that: the caller's $5 are captured and the call may begin. -/
def paid : List Op := preparing ++ confirming ++ waiting ++ selecting ++ capturing

set_option maxRecDepth 10000 in
example : (((run step World.empty (sampled paid)).db.calls.get 0).map Call.status) =
    some .created := by decide

/-- The call goes live. -/
def starting : List Op :=
  [.request (.transition (some 0) 0 .connecting), .request (.transition (some 1) 0 .live)]

/-- The show ends before the call starts, and the worker takes the refund. -/
def refunding : List Op := [.request (.endShow (some 0) 0), .runJob 5 (.runRefund 0)]

def sampleRefund : PaymentRefund :=
  { paymentAttemptId := 0
    callId := 0
    stripePaymentIntentId := 0
    stripeRefundId := none
    amountCents := 500
    currency := "usd"
    reason := .callEndedBeforeLive
    status := .processing
    attempts := 1
    failureCode := none
    nextAttemptAt := 5 + leaseMs
    processedAt := none }

end World

end Bling
