import Bling.Payouts
import Bling.Queue
import Bling.Webhooks

set_option autoImplicit false

namespace Bling

/-! The mutations of the backend as inputs of one machine. Convex runs each as
a serializable transaction, so an interleaving is a list of them. -/

inductive Mutation where
  | signUp (username : Option Text)
  | saveAccount (creatorId : UserId) (account : PayoutAccount)
  | createShow (userId : Option UserId)
  | replaceTiers (toLowerCase : Text → Text) (userId : Option UserId) (showId : ShowId)
      (tiers : List TierInput)
  | startShow (userId : Option UserId) (showId : ShowId)
  | endShow (userId : Option UserId) (showId : ShowId)
  | closeQueue (showId : ShowId)
  | join (userId : Option UserId) (args : JoinArgs)
  | joinWithPayment (userId : Option UserId) (args : JoinArgs) (paymentAttemptId : AttemptId)
  | leave (userId : Option UserId) (showId : ShowId)
  | select (userId : Option UserId) (showId : ShowId) (entryId : EntryId)
  | selectRandom (userId : Option UserId) (showId : ShowId) (pivot : Time)
  | transition (userId : Option UserId) (callId : CallId) (status : CallStatus)
  | expire (callId : CallId)
  | heartbeat (userId : Option UserId) (callId : CallId)
  | leaveCall (userId : Option UserId) (callId : CallId)
  | checkSeen (callId : CallId) (role : CallRole) (seenAt : Time)
  | checkGrace (callId : CallId) (role : CallRole) (disconnectedAt : Time)
  | prepare (userId : Option UserId) (showId : ShowId) (tierId : TierId) (idempotencyKey : Text)
      (stripeCustomerId : Option StripeId)
  | attachIntent (attemptId : AttemptId) (intentId : StripeId)
  | markAuthorized (attemptId : AttemptId)
  | captured (attemptId : AttemptId)
  | notCaptured (attemptId : AttemptId) (status : NotCaptured) (failureCode : Option String)
  | claimRefund (refundId : RefundId)
  | recordRefund (refundId : RefundId) (stripeRefundId : StripeId) (status : RefundOutcome)
      (failureCode : Option String)
  | retryRefund (refundId : RefundId) (failureCode : String)
  | applyEvent (event : Event)
  | runDue
  | reserveBatch (runId : RunId) (cursor : Option Nat)
  | claimTransfer (itemId : ItemId)
  | markPaid (itemId : ItemId) (transferId : StripeId)
  | retryTransfer (itemId : ItemId) (failureCode : String)
  | finishRuns

/-- The database after a mutation; one that fails leaves it as it was. -/
def Mutation.apply (ctx : Ctx) (db : DB) : Mutation → DB
  | .signUp username => commit db (Bling.signUp db username)
  | .saveAccount creatorId account => Bling.saveAccount db creatorId account
  | .createShow userId => commit db (Bling.createShow db userId)
  | .replaceTiers toLowerCase userId showId tiers =>
    commit db (Bling.replaceTiers toLowerCase db userId showId tiers)
  | .startShow userId showId => commit db (Bling.startShow ctx db userId showId)
  | .endShow userId showId => commit db (Bling.endShow ctx db userId showId)
  | .closeQueue showId => Bling.closeQueue ctx db showId
  | .join userId args => commit db (Bling.join ctx db userId args)
  | .joinWithPayment userId args paymentAttemptId =>
    commit db (Bling.joinWithPayment ctx db userId args paymentAttemptId)
  | .leave userId showId => commit db (Bling.leave ctx db userId showId)
  | .select userId showId entryId => commit db (Bling.select ctx db userId showId entryId)
  | .selectRandom userId showId pivot => commit db (Bling.selectRandom ctx db userId showId pivot)
  | .transition userId callId status => commit db (Bling.transition ctx db userId callId status)
  | .expire callId => commit db (Bling.expire ctx db callId)
  | .heartbeat userId callId => commit db (Bling.heartbeat ctx db userId callId)
  | .leaveCall userId callId => commit db (Bling.leaveCall ctx db userId callId)
  | .checkSeen callId role seenAt => Bling.checkSeen ctx db callId role seenAt
  | .checkGrace callId role disconnectedAt =>
    commit db (Bling.checkGrace ctx db callId role disconnectedAt)
  | .prepare userId showId tierId idempotencyKey stripeCustomerId =>
    commit db (Bling.prepare db userId showId tierId idempotencyKey stripeCustomerId)
  | .attachIntent attemptId intentId => commit db (Bling.attachIntent db attemptId intentId)
  | .markAuthorized attemptId => Bling.markAuthorized ctx db attemptId
  | .captured attemptId => Bling.captured ctx db attemptId
  | .notCaptured attemptId status failureCode =>
    Bling.notCaptured ctx db attemptId status failureCode
  | .claimRefund refundId => (Bling.claimRefund ctx db refundId).1
  | .recordRefund refundId stripeRefundId status failureCode =>
    Bling.recordRefund ctx db refundId stripeRefundId status failureCode
  | .retryRefund refundId failureCode => Bling.retryRefund ctx db refundId failureCode
  | .applyEvent event => Bling.applyEvent ctx db event
  | .runDue => Bling.runDue ctx db
  | .reserveBatch runId cursor => Bling.reserveBatch ctx db runId cursor
  | .claimTransfer itemId => (Bling.claimTransfer ctx db itemId).1
  | .markPaid itemId transferId => Bling.markPaid ctx db itemId transferId
  | .retryTransfer itemId failureCode => Bling.retryTransfer ctx db itemId failureCode
  | .finishRuns => Bling.finishRuns ctx db

/-- The mutations a client may call itself; the others are internal. -/
def Mutation.isPublic : Mutation → Bool
  | .signUp _ | .createShow _ | .replaceTiers .. | .startShow .. | .endShow .. | .join ..
  | .leave .. | .select .. | .selectRandom .. | .transition .. | .heartbeat .. | .leaveCall .. =>
    true
  | _ => false

/-- The mutation a scheduled function is, unless it is an action. -/
def Job.mutation : Job → Option Mutation
  | .expire callId => some (.expire callId)
  | .closeQueue showId => some (.closeQueue showId)
  | .checkSeen callId role seenAt => some (.checkSeen callId role seenAt)
  | .checkGrace callId role disconnectedAt => some (.checkGrace callId role disconnectedAt)
  | .reserveBatch runId cursor => some (.reserveBatch runId cursor)
  | .finishRuns => some .finishRuns
  | _ => none

end Bling
