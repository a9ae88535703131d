import Bling.WorldSteps

set_option autoImplicit false

namespace Bling

open Library

/-! What few mutations write: shows with their tiers, connected accounts and the events from
Stripe. Payment attempts are written by many, but only one makes them. -/

structure Registry where
  shows : Table Show
  showTiers : Table ShowTier
  payoutAccounts : Table PayoutAccount
  stripeEvents : Table StripeEvent
  nextAttempt : AttemptId

def DB.registry (db : DB) : Registry :=
  ⟨db.shows, db.showTiers, db.payoutAccounts, db.stripeEvents, db.paymentAttempts.next⟩

/-! ### What is made of other writes -/

section Writes

variable (ctx : Ctx) (db : DB)

theorem foldl_registry {α : Type} {f : DB → α → DB} (each : ∀ db x, (f db x).registry = db.registry)
    (xs : List α) : (xs.foldl f db).registry = db.registry := by
  induction xs generalizing db with
  | nil => rfl
  | cons x rest ih => exact (ih (f db x)).trans (each db x)

/-- A mutation that reads first leaves the registry alone if what it goes on with does. -/
theorem commit_bind {α β : Type} {x : Except ErrorCode α} {f : α → Except ErrorCode (DB × β)}
    (each : ∀ a, x = .ok a → (commit db (f a)).registry = db.registry) :
    (commit db (x >>= f)).registry = db.registry := by
  cases outcome : x with
  | error code => rfl
  | ok a => exact each a outcome

theorem scheduleCancel_registry (attemptId : AttemptId) (attempt : PaymentAttempt)
    (reason : CancelReason) :
    (scheduleCancel ctx db attemptId attempt reason).registry = db.registry := by
  unfold scheduleCancel
  split
  · rfl
  · rfl

theorem requestRefund_registry (attemptId : AttemptId) (attempt : PaymentAttempt)
    (callId : CallId) (reason : RefundReason) :
    (requestRefund ctx db attemptId attempt callId reason).registry = db.registry := by
  unfold requestRefund
  split
  · rfl
  · split
    · rfl
    · split
      · rfl
      · rfl

theorem recordCaptured_registry (attemptId : AttemptId) (attempt : PaymentAttempt) :
    (recordCaptured ctx db attemptId attempt).registry = db.registry := by
  unfold recordCaptured
  have noted : (if attempt.status ≠ .captured then
      { db with paymentAttempts := db.paymentAttempts.patch attemptId fun a =>
        { a with status := .captured
                 capturedAt := some (attempt.capturedAt.getD ctx.now) } }
      else db).registry = db.registry := by
    split
    · rfl
    · rfl
  rw [← noted]
  generalize (if attempt.status ≠ .captured then _ else db) = db
  dsimp only
  split
  · split
    · rfl
    · split
      · rw [requestRefund_registry]
        split
        · rfl
        · rfl
      · rfl
  · rfl

theorem recordNotCaptured_registry (attemptId : AttemptId) (attempt : PaymentAttempt)
    (status : NotCaptured) (failureCode : Option String) :
    (recordNotCaptured ctx db attemptId attempt status failureCode).registry = db.registry := by
  by_cases isCaptured : attempt.status = .captured
  · rw [recordNotCaptured, if_pos isCaptured]
  · rw [recordNotCaptured_eq ctx db attemptId attempt status failureCode isCaptured]
    rfl

theorem goLive_registry (callId : CallId) (call : Call) (target : CallStatus) :
    (goLive ctx db callId call target).registry = db.registry := by
  unfold goLive
  split
  · dsimp only
    split
    · rfl
    · split
      · rfl
      · rfl
  · rfl

theorem finishCall_registry (callId : CallId) (call : Call) (target : CallStatus) :
    (finishCall ctx db callId call target).registry = db.registry := by
  unfold finishCall
  split
  · show (if call.startedAt = none then _ else db).registry = db.registry
    split
    · split
      · rfl
      · split
        · rfl
        · exact requestRefund_registry ctx db _ _ _ _
    · rfl
  · rfl

theorem applyTransition_registry {callId : CallId} {call : Call} {target : CallStatus} {after : DB}
    {value : Unit} (outcome : applyTransition ctx db callId call target = .ok (after, value)) :
    after.registry = db.registry := by
  rcases applyTransition_ok outcome with rfl | ⟨_, rfl⟩
  · rfl
  · exact (finishCall_registry ctx _ callId call target).trans
      (goLive_registry ctx db callId call target)

theorem commit_transition (callId : CallId) (call : Call) (target : CallStatus) :
    (commit db (applyTransition ctx db callId call target)).registry = db.registry := by
  cases outcome : applyTransition ctx db callId call target with
  | error code => rfl
  | ok result => exact applyTransition_registry ctx db outcome

theorem createCall_registry (showId : ShowId) (hotline : Show) (entryId : EntryId)
    (entry : QueueEntry) (mode : SelectionMode) :
    (commit db (createCall ctx db showId hotline entryId entry mode)).registry = db.registry := by
  unfold createCall
  dsimp only
  split
  · rfl
  · cases entryAttempt db entry with
    | none => rfl
    | some row => rfl

theorem enqueue_registry (viewerId : UserId) (args : JoinArgs) (tierId : TierId)
    (tier : ShowTier) (existing : Option EntryId) (attempt : Option AttemptId) :
    (enqueue ctx db viewerId args tierId tier existing attempt).1.registry = db.registry := by
  cases existing with
  | none =>
      cases attempt with
      | none => rfl
      | some attemptId => rfl
  | some entryId =>
      cases attempt with
      | none => rfl
      | some attemptId => rfl

theorem joinQueue_registry (viewerId : UserId) (args : JoinArgs)
    (paymentAttemptId : Option AttemptId) :
    (commit db (joinQueue ctx db viewerId args paymentAttemptId)).registry = db.registry := by
  unfold joinQueue
  dsimp only
  repeat' split
  all_goals first | rfl | exact enqueue_registry ctx db viewerId args _ _ _ _

theorem reversePatched_registry (refundId : RefundId) :
    (reversePatched ctx db refundId).registry = db.registry := by
  unfold reversePatched
  split
  · rfl
  · rfl

theorem closeEntry_registry (status : QueueStatus) (row : EntryId × QueueEntry) :
    (closeEntry ctx status db row).registry = db.registry := by
  unfold closeEntry
  dsimp only
  split
  · rfl
  · split
    · split
      · rfl
      · exact scheduleCancel_registry ctx _ _ _ _
    · rfl

theorem closeStatuses_registry (showId : ShowId) (limit : Nat) (statuses : List QueueStatus)
    (closed : Nat) : (statuses.foldl (fun (db, closed) status =>
      if limit ≤ closed then (db, closed)
      else
        let entries := (entriesWith db showId status).take (limit - closed)
        (entries.foldl (closeEntry ctx status) db, closed + entries.length))
      (db, closed)).1.registry = db.registry := by
  induction statuses generalizing db closed with
  | nil => rfl
  | cons status rest ih =>
      rw [List.foldl_cons]
      dsimp only
      split
      · exact ih db closed
      · exact (ih _ _).trans
          (foldl_registry db (fun db row => closeEntry_registry ctx db status row) _)

theorem reserveAccount_registry (runId : RunId) (payoutRun : PayoutRun) (account : PayoutAccount) :
    (reserveAccount ctx runId payoutRun db account).registry = db.registry := by
  unfold reserveAccount
  dsimp only
  repeat' split
  all_goals rfl

end Writes

/-! ### The mutations that do write it -/

/-- The mutations that write a show, its tiers, a connected account or an event, or make an
attempt. -/
def Mutation.registers : Mutation → Bool
  | .saveAccount .. | .createShow _ | .replaceTiers .. | .startShow .. | .endShow ..
  | .prepare .. | .applyEvent _ => true
  | _ => false

theorem Mutation.closeQueue_registry (ctx : Ctx) (db : DB) (showId : ShowId) :
    ((Mutation.closeQueue showId).apply ctx db).registry = db.registry := by
  simp only [Mutation.apply, Bling.closeQueue]
  have closed := closeStatuses_registry ctx db showId closeBatch activeEntryStatuses 0
  split
  · exact closed
  · exact closed

theorem Mutation.leave_registry (ctx : Ctx) (db : DB) (userId : Option UserId) (showId : ShowId) :
    ((Mutation.leave userId showId).apply ctx db).registry = db.registry := by
  refine commit_bind db fun viewerId _ => ?_
  split
  · rfl
  · split
    · rfl
    · split
      · rfl
      · dsimp only
        split
        · rfl
        · split
          · rfl
          · exact scheduleCancel_registry ctx _ _ _ _

theorem Mutation.select_registry (ctx : Ctx) (db : DB) (userId : Option UserId) (showId : ShowId)
    (entryId : EntryId) :
    ((Mutation.select userId showId entryId).apply ctx db).registry = db.registry := by
  refine commit_bind db fun hotline _ => ?_
  split
  · rfl
  · split
    · rfl
    · exact createCall_registry ctx db _ _ _ _ _

theorem Mutation.selectRandom_registry (ctx : Ctx) (db : DB) (userId : Option UserId)
    (showId : ShowId) (pivot : Time) :
    ((Mutation.selectRandom userId showId pivot).apply ctx db).registry = db.registry := by
  refine commit_bind db fun hotline _ => ?_
  split
  · rfl
  · exact createCall_registry ctx db _ _ _ _ _

theorem Mutation.transition_registry (ctx : Ctx) (db : DB) (userId : Option UserId)
    (callId : CallId) (status : CallStatus) :
    ((Mutation.transition userId callId status).apply ctx db).registry = db.registry := by
  refine commit_bind db fun found _ => ?_
  dsimp only
  split
  · rfl
  · exact commit_transition ctx db _ _ _

theorem Mutation.expire_registry (ctx : Ctx) (db : DB) (callId : CallId) :
    ((Mutation.expire callId).apply ctx db).registry = db.registry := by
  simp only [Mutation.apply, Bling.expire]
  split
  · rfl
  · split
    · rfl
    · exact commit_transition ctx db _ _ _

theorem Mutation.heartbeat_registry (ctx : Ctx) (db : DB) (userId : Option UserId)
    (callId : CallId) :
    ((Mutation.heartbeat userId callId).apply ctx db).registry = db.registry := by
  refine commit_bind db fun found _ => ?_
  dsimp only
  split
  · rfl
  · rfl

theorem Mutation.leaveCall_registry (ctx : Ctx) (db : DB) (userId : Option UserId)
    (callId : CallId) :
    ((Mutation.leaveCall userId callId).apply ctx db).registry = db.registry := by
  refine commit_bind db fun found _ => ?_
  dsimp only
  repeat' split
  all_goals rfl

theorem Mutation.checkGrace_registry (ctx : Ctx) (db : DB) (callId : CallId) (role : CallRole)
    (disconnectedAt : Time) :
    ((Mutation.checkGrace callId role disconnectedAt).apply ctx db).registry = db.registry := by
  simp only [Mutation.apply, Bling.checkGrace]
  split
  · rfl
  · split
    · rfl
    · split
      · exact commit_transition ctx db _ _ _
      · rfl

theorem Mutation.markAuthorized_registry (ctx : Ctx) (db : DB) (attemptId : AttemptId) :
    ((Mutation.markAuthorized attemptId).apply ctx db).registry = db.registry := by
  simp only [Mutation.apply, Bling.markAuthorized]
  split
  · rfl
  · rfl

theorem Mutation.captured_registry (ctx : Ctx) (db : DB) (attemptId : AttemptId) :
    ((Mutation.captured attemptId).apply ctx db).registry = db.registry := by
  simp only [Mutation.apply, Bling.captured]
  split
  · exact recordCaptured_registry ctx db attemptId _
  · rfl

theorem Mutation.notCaptured_registry (ctx : Ctx) (db : DB) (attemptId : AttemptId)
    (status : NotCaptured) (failureCode : Option String) :
    ((Mutation.notCaptured attemptId status failureCode).apply ctx db).registry = db.registry := by
  simp only [Mutation.apply, Bling.notCaptured]
  split
  · exact recordNotCaptured_registry ctx db attemptId _ _ _
  · rfl

theorem Mutation.recordRefund_registry (ctx : Ctx) (db : DB) (refundId : RefundId)
    (stripeRefundId : StripeId) (status : RefundOutcome) (failureCode : Option String) :
    ((Mutation.recordRefund refundId stripeRefundId status failureCode).apply ctx db).registry =
      db.registry := by
  simp only [Mutation.apply, Bling.recordRefund]
  split
  · rfl
  · split
    · rfl
    · have recorded (settled : Prop) [Decidable settled] (db after : DB)
          (written : after.registry = db.registry) :
          (if settled then reversePatched ctx after refundId else after).registry =
            db.registry := by
        split
        · exact (reversePatched_registry ctx after refundId).trans written
        · exact written
      split
      · exact recorded _ db _ rfl
      · exact recorded _ db _ rfl

theorem Mutation.reserveBatch_registry (ctx : Ctx) (db : DB) (runId : RunId) (cursor : Option Nat) :
    ((Mutation.reserveBatch runId cursor).apply ctx db).registry = db.registry := by
  simp only [Mutation.apply, Bling.reserveBatch]
  split
  · rfl
  · rename_i payoutRun _
    have reserved := foldl_registry db
      fun db account => reserveAccount_registry ctx db runId payoutRun account
    split
    · exact reserved _
    · exact reserved _

theorem Mutation.markPaid_registry (ctx : Ctx) (db : DB) (itemId : ItemId) (transferId : StripeId) :
    ((Mutation.markPaid itemId transferId).apply ctx db).registry = db.registry := by
  simp only [Mutation.apply, Bling.markPaid]
  split
  · rfl
  · rfl

theorem Mutation.finishRuns_registry (ctx : Ctx) (db : DB) :
    (Mutation.finishRuns.apply ctx db).registry = db.registry := by
  refine foldl_registry db ?_ _
  intro db runId
  unfold finishRun
  dsimp only
  split
  · rfl
  · rfl

/-- No other does. -/
theorem Mutation.registry (ctx : Ctx) (db : DB) (m : Mutation) (other : m.registers = false) :
    (m.apply ctx db).registry = db.registry := by
  cases m with
  | saveAccount | createShow | replaceTiers | startShow | endShow | prepare | applyEvent =>
      cases other
  | signUp username =>
      simp only [Mutation.apply, Bling.signUp]
      repeat' split
      all_goals rfl
  | closeQueue showId => exact closeQueue_registry ctx db showId
  | join userId args =>
      exact commit_bind db fun viewerId _ => joinQueue_registry ctx db viewerId _ _
  | joinWithPayment userId args paymentAttemptId =>
      exact commit_bind db fun viewerId _ => joinQueue_registry ctx db viewerId _ _
  | leave userId showId => exact leave_registry ctx db userId showId
  | select userId showId entryId => exact select_registry ctx db userId showId entryId
  | selectRandom userId showId pivot => exact selectRandom_registry ctx db userId showId pivot
  | transition userId callId status => exact transition_registry ctx db userId callId status
  | expire callId => exact expire_registry ctx db callId
  | heartbeat userId callId => exact heartbeat_registry ctx db userId callId
  | leaveCall userId callId => exact leaveCall_registry ctx db userId callId
  | checkSeen callId role seenAt =>
      simp only [Mutation.apply, Bling.checkSeen]
      repeat' split
      all_goals rfl
  | checkGrace callId role disconnectedAt =>
      exact checkGrace_registry ctx db callId role disconnectedAt
  | attachIntent attemptId intentId =>
      simp only [Mutation.apply, Bling.attachIntent]
      repeat' split
      all_goals rfl
  | markAuthorized attemptId => exact markAuthorized_registry ctx db attemptId
  | captured attemptId => exact captured_registry ctx db attemptId
  | notCaptured attemptId status failureCode =>
      exact notCaptured_registry ctx db attemptId status failureCode
  | claimRefund refundId =>
      simp only [Mutation.apply, Bling.claimRefund]
      repeat' split
      all_goals rfl
  | recordRefund refundId stripeRefundId status failureCode =>
      exact recordRefund_registry ctx db refundId stripeRefundId status failureCode
  | retryRefund refundId failureCode =>
      simp only [Mutation.apply, Bling.retryRefund]
      repeat' split
      all_goals rfl
  | runDue =>
      simp only [Mutation.apply, Bling.runDue]
      repeat' split
      all_goals rfl
  | reserveBatch runId cursor => exact reserveBatch_registry ctx db runId cursor
  | claimTransfer itemId =>
      simp only [Mutation.apply, Bling.claimTransfer]
      repeat' split
      all_goals rfl
  | markPaid itemId transferId => exact markPaid_registry ctx db itemId transferId
  | retryTransfer itemId failureCode =>
      simp only [Mutation.apply, Bling.retryTransfer]
      repeat' split
      all_goals rfl
  | finishRuns => exact finishRuns_registry ctx db

/-! ### The events from Stripe -/

/-- The event has been recorded. -/
def DB.knows (db : DB) (event : Event) : Bool :=
  (db.stripeEvents.first fun e => e.stripeEventId == event.eventId).isSome

section Events

variable (ctx : Ctx) (db : DB)

theorem applyIntent_registry (type : EventType) (intent : IntentEvent) :
    (applyIntent ctx db type intent).registry = db.registry := by
  unfold applyIntent
  split
  · rfl
  · rename_i attemptId attempt _
    split
    · dsimp only
      split
      · exact recordCaptured_registry ctx db attemptId attempt
      · exact recordCaptured_registry ctx db attemptId attempt
    · exact recordNotCaptured_registry ctx db attemptId attempt _ _

theorem settleRefund_registry (event : RefundEvent) (refundId : RefundId)
    (refund : PaymentRefund) :
    (settleRefund ctx db event refundId refund).registry = db.registry := by
  unfold settleRefund
  dsimp only
  split
  · rfl
  · split
    · exact reversePatched_registry ctx _ refundId
    · rfl

theorem applyRefund_registry (event : RefundEvent) :
    (applyRefund ctx db event).registry = db.registry := by
  unfold applyRefund
  split
  · exact settleRefund_registry ctx db event _ _
  · split
    · rfl
    · exact settleRefund_registry ctx _ event _ _

theorem applyPayout_registry (connected : StripeId) (payout : PayoutObject) :
    (applyPayout db connected payout).registry = db.registry := by
  unfold applyPayout
  split
  · rfl
  · split
    · rfl
    · rfl

/-- An event that is news is recorded, whatever comes of it. -/
theorem applyEvent_registry {event : Event} (news : db.knows event = false) :
    (applyEvent ctx db event).registry = { db.registry with
      stripeEvents := db.stripeEvents.insert
        ⟨event.eventId, event.type, event.connectedAccountId⟩ } := by
  unfold applyEvent
  rw [if_neg (by rw [← DB.knows, news]; exact Bool.false_ne_true)]
  dsimp only
  split
  · exact applyIntent_registry ctx _ _ _
  · exact applyRefund_registry ctx _ _
  · rfl
  · split
    · exact applyPayout_registry _ _ _
    · rfl
  · rfl
  · rfl

theorem applyEvent_known {event : Event} (known : db.knows event = true) :
    applyEvent ctx db event = db := by
  unfold applyEvent
  exact if_pos known

theorem DB.knows_insert {after : DB} {event : Event} (told : StripeEvent)
    (events : after.stripeEvents = db.stripeEvents.insert told) :
    after.knows event = (db.knows event || told.stripeEventId == event.eventId) := by
  rw [Bool.eq_iff_iff, Bool.or_eq_true, beq_iff_eq]
  unfold DB.knows
  rw [Table.first_isSome_iff, Table.first_isSome_iff, events]
  constructor
  · rintro ⟨id, row, found, same⟩
    rcases Table.get_insert_row found with ⟨rfl, rfl⟩ | old
    · exact Or.inr (beq_iff_eq.mp same)
    · exact Or.inl ⟨id, row, old, same⟩
  · rintro (⟨id, row, found, same⟩ | same)
    · exact ⟨id, row, Table.get_insert_of_some found _, same⟩
    · exact ⟨db.stripeEvents.next, told, Table.get_insert_next _ _, beq_iff_eq.mpr same⟩

end Events

/-! ### What the others write -/

/-- What `start` asks of a show before it goes live. -/
structure Opens (db : DB) (userId : Option UserId) (showId : ShowId) (hotline : Show) : Prop where
  owner : requireCreatorId db userId = .ok hotline.creatorId
  present : db.shows.get showId = some hotline
  created : hotline.status = .created
  offers : ∃ tierId tier, db.showTiers.get tierId = some tier ∧ tier.showId = showId ∧
    tier.enabled = true
  ready : ∀ tierId tier, db.showTiers.get tierId = some tier → tier.showId = showId →
    tier.enabled = true → 0 < tier.priceCents →
    accountReady ((db.payoutAccounts.first fun a => a.creatorId == hotline.creatorId).map
      Prod.snd) = true
  alone : ∀ id s, db.shows.get id = some s → s.creatorId = hotline.creatorId → s.status ≠ .live

/-- What `prepare` asks of a tier before it charges a viewer for it. -/
structure Charges (db : DB) (showId : ShowId) (tierId : TierId) (hotline : Show)
    (tier : ShowTier) : Prop where
  present : db.shows.get showId = some hotline
  live : hotline.status = .live
  found : db.showTiers.get tierId = some tier
  inShow : tier.showId = showId
  enabled : tier.enabled = true
  paid : 0 < tier.priceCents

/-- What a mutation leaves of the registry. -/
inductive Written (ctx : Ctx) (db : DB) : Mutation → Registry → Prop
  | kept (m : Mutation) : Written ctx db m db.registry
  | account (creatorId : UserId) (account : PayoutAccount) (payoutAccounts : Table PayoutAccount) :
    Written ctx db (.saveAccount creatorId account) { db.registry with payoutAccounts }
  | created (userId : Option UserId) (hotline : Show) (tier : ShowTier)
      (unopened : hotline.status = .created) (first : tier.showId = db.shows.next) :
    Written ctx db (.createShow userId)
      { db.registry with
        shows := db.shows.insert hotline
        showTiers := db.showTiers.insert tier }
  | tiers (toLowerCase : Text → Text) (userId : Option UserId) (showId : ShowId)
      (tiers : List TierInput) (hotline : Show) (showTiers : Table ShowTier)
      (present : db.shows.get showId = some hotline) (unopened : hotline.status = .created)
      (others : ∀ id tier, tier.showId ≠ showId →
        (showTiers.get id = some tier ↔ db.showTiers.get id = some tier)) :
    Written ctx db (.replaceTiers toLowerCase userId showId tiers)
      { db.registry with showTiers }
  | opened (userId : Option UserId) (showId : ShowId) (hotline : Show)
      (opens : Opens db userId showId hotline) :
    Written ctx db (.startShow userId showId)
      { db.registry with shows := db.shows.patch showId fun s =>
        { s with status := .live, startedAt := some ctx.now } }
  | ended (userId : Option UserId) (showId : ShowId) (hotline : Show)
      (present : db.shows.get showId = some hotline) (live : hotline.status = .live) :
    Written ctx db (.endShow userId showId)
      { db.registry with shows := db.shows.patch showId fun s =>
        { s with status := .ended, endedAt := some ctx.now } }
  | asked (userId : Option UserId) (showId : ShowId) (tierId : TierId) (idempotencyKey : Text)
      (stripeCustomerId : Option StripeId) (hotline : Show) (tier : ShowTier)
      (charges : Charges db showId tierId hotline tier) :
    Written ctx db (.prepare userId showId tierId idempotencyKey stripeCustomerId)
      { db.registry with nextAttempt := db.paymentAttempts.next + 1 }
  | heard (event : Event) (news : db.knows event = false) :
    Written ctx db (.applyEvent event) { db.registry with
      stripeEvents := db.stripeEvents.insert
        ⟨event.eventId, event.type, event.connectedAccountId⟩ }

section Writers

variable (ctx : Ctx) (db : DB) (userId : Option UserId)

/-- What a mutation that can be refused leaves, if it leaves this whenever it isn't. -/
theorem commit_written {α : Type} {m : Mutation} {x : Except ErrorCode (DB × α)}
    (each : ∀ after value, x = .ok (after, value) → Written ctx db m after.registry) :
    Written ctx db m (commit db x).registry := by
  cases outcome : x with
  | error code => exact .kept m
  | ok result => exact each result.1 result.2 outcome

/-- An attempt that `prepare` makes is for the price of the tier. -/
theorem prepare_ok {userId : Option UserId} {showId : ShowId} {tierId : TierId}
    {idempotencyKey : Text} {stripeCustomerId : Option StripeId} {after : DB} {value : AttemptId}
    (outcome : prepare db userId showId tierId idempotencyKey stripeCustomerId =
      .ok (after, value)) :
    after = db ∨ ∃ attempt hotline tier, Charges db showId tierId hotline tier ∧
      attempt.showId = showId ∧ attempt.tierId = tierId ∧
      attempt.creatorId = hotline.creatorId ∧ attempt.amountCents = tier.priceCents ∧
      after = { db with paymentAttempts := db.paymentAttempts.insert attempt } := by
  obtain ⟨payerId, _, outcome⟩ := bind_ok outcome
  split at outcome
  · rename_i hotline tier present found
    split at outcome
    · cases outcome
    · rename_i offered
      obtain ⟨inShow, enabled⟩ := not_or.mp offered
      split at outcome
      · cases outcome
      · rename_i live
        split at outcome
        · cases outcome
        · rename_i paid
          split at outcome
          · split at outcome
            · cases outcome
            · obtain ⟨rfl, rfl⟩ := Prod.mk.inj (Except.ok.inj outcome)
              exact Or.inl rfl
          · obtain ⟨rfl, rfl⟩ := Prod.mk.inj (Except.ok.inj outcome)
            exact Or.inr ⟨_, hotline, tier, ⟨present, not_not.mp live, found, not_not.mp inShow,
              not_not.mp enabled, Nat.lt_of_not_le paid⟩, rfl, rfl, rfl, rfl, rfl⟩
  · cases outcome

theorem saveAccount_written (creatorId : UserId) (account : PayoutAccount) :
    Written ctx db (.saveAccount creatorId account)
      (saveAccount db creatorId account).registry := by
  unfold saveAccount
  dsimp only
  split
  · exact .account creatorId account _
  · split
    · exact .kept _
    · exact .account creatorId account _

theorem createShow_written :
    Written ctx db (.createShow userId) (commit db (createShow db userId)).registry := by
  apply commit_written
  intro after value outcome
  obtain ⟨creatorId, _, outcome⟩ := bind_ok outcome
  obtain ⟨rfl, rfl⟩ := Prod.mk.inj (Except.ok.inj outcome)
  exact .created userId _ _ rfl rfl

theorem normalizeTiers_show {showId : ShowId} {tiers : List TierInput} {tier : ShowTier}
    (member : tier ∈ normalizeTiers showId tiers) : tier.showId = showId := by
  obtain ⟨index, _, rfl⟩ := List.mem_mapIdx.mp member
  rfl

theorem replaceTiers_written (toLowerCase : Text → Text) (showId : ShowId)
    (tiers : List TierInput) :
    Written ctx db (.replaceTiers toLowerCase userId showId tiers)
      (commit db (replaceTiers toLowerCase db userId showId tiers)).registry := by
  apply commit_written
  intro after value outcome
  obtain ⟨creatorId, _, outcome⟩ := bind_ok outcome
  obtain ⟨hotline, found, outcome⟩ := bind_ok outcome
  dsimp only at outcome
  split at outcome
  · cases outcome
  · rename_i unopened
    repeat' split at outcome
    any_goals cases outcome
    refine .tiers toLowerCase userId showId tiers hotline _ (showForCreator_ok found).1
      (not_not.mp unopened) ?_
    intro id tier other
    constructor
    · intro held
      rcases get_foldl_insert _ _ id tier held with old | new
      · exact ((Table.get_delete_query _ _ id tier).mp old).1
      · exact (other (normalizeTiers_show new)).elim
    · intro held
      apply get_foldl_insert_of_some
      refine (Table.get_delete_query _ _ id tier).mpr ⟨held, ?_⟩
      exact beq_eq_false_iff_ne.mpr other

theorem prepare_written (showId : ShowId) (tierId : TierId) (idempotencyKey : Text)
    (stripeCustomerId : Option StripeId) :
    Written ctx db (.prepare userId showId tierId idempotencyKey stripeCustomerId)
      (commit db (prepare db userId showId tierId idempotencyKey stripeCustomerId)).registry := by
  apply commit_written
  intro after value outcome
  rcases prepare_ok db outcome with rfl | ⟨attempt, hotline, tier, charges, _, _, _, _, rfl⟩
  · exact .kept _
  · exact .asked userId showId tierId idempotencyKey stripeCustomerId hotline tier charges

theorem startShow_written (showId : ShowId) :
    Written ctx db (.startShow userId showId)
      (commit db (startShow ctx db userId showId)).registry := by
  apply commit_written
  intro after value outcome
  obtain ⟨creatorId, owner, outcome⟩ := bind_ok outcome
  obtain ⟨hotline, found, outcome⟩ := bind_ok outcome
  obtain ⟨present, rfl⟩ := showForCreator_ok found
  dsimp only at outcome
  split at outcome
  · cases outcome
    exact .kept _
  · split at outcome
    · cases outcome
    · rename_i unopened
      split at outcome
      · cases outcome
      · rename_i offered
        split at outcome
        · cases outcome
        · rename_i payable
          split at outcome
          · cases outcome
          · rename_i idle
            obtain ⟨rfl, rfl⟩ := Prod.mk.inj (Except.ok.inj outcome)
            refine .opened userId showId hotline ⟨owner, present, not_not.mp unopened, ?_, ?_, ?_⟩
            · obtain ⟨row, member⟩ := List.exists_mem_of_ne_nil _ offered
              obtain ⟨held, matched⟩ := (Table.mem_query _ _ _ _).mp member
              rw [Bool.and_eq_true, beq_iff_eq] at matched
              exact ⟨row.1, row.2, held, matched.1, matched.2⟩
            · intro tierId tier held inShow enabled paid
              by_contra unready
              refine payable ⟨List.any_eq_true.mpr ⟨(tierId, tier), ?_, decide_eq_true paid⟩,
                unready⟩
              refine (Table.mem_query _ _ _ _).mpr ⟨held, ?_⟩
              rw [Bool.and_eq_true, beq_iff_eq]
              exact ⟨inShow, enabled⟩
            · intro id s held same live
              refine idle ((Table.first_isSome_iff _ _).mpr ⟨id, s, held, ?_⟩)
              rw [Bool.and_eq_true, beq_iff_eq, beq_iff_eq]
              exact ⟨same, live⟩

theorem endShow_written (showId : ShowId) :
    Written ctx db (.endShow userId showId)
      (commit db (endShow ctx db userId showId)).registry := by
  apply commit_written
  intro after value outcome
  obtain ⟨creatorId, _, outcome⟩ := bind_ok outcome
  obtain ⟨hotline, found, outcome⟩ := bind_ok outcome
  have present := (showForCreator_ok found).1
  dsimp only at outcome
  split at outcome
  · cases outcome
    exact .kept _
  · split at outcome
    · cases outcome
    · rename_i live
      have ended := @Written.ended ctx db userId showId hotline present (not_not.mp live)
      split at outcome
      · cases outcome
        exact ended
      · split at outcome
        · obtain ⟨before, settled, outcome⟩ := bind_ok outcome
          cases outcome
          cases moved : applyTransition ctx { db with shows := db.shows.patch showId fun s =>
              { s with status := .ended, endedAt := some ctx.now } } _ _ .ended with
          | error code =>
              rw [moved] at settled
              cases settled
          | ok moves =>
              rw [moved] at settled
              obtain rfl := Except.ok.inj settled
              have same := applyTransition_registry ctx _ moved
              show Written ctx db _ moves.1.registry
              rw [same]
              exact ended
        · cases outcome
          exact ended

end Writers

/-- Each writes its own part. -/
theorem Mutation.written (ctx : Ctx) (db : DB) (m : Mutation) :
    Written ctx db m (m.apply ctx db).registry := by
  cases writes : m.registers with
  | false =>
      rw [Mutation.registry ctx db m writes]
      exact .kept m
  | true =>
      cases m with
      | saveAccount creatorId account => exact saveAccount_written ctx db creatorId account
      | createShow userId => exact createShow_written ctx db userId
      | replaceTiers toLowerCase userId showId tiers =>
          exact replaceTiers_written ctx db userId toLowerCase showId tiers
      | prepare userId showId tierId idempotencyKey stripeCustomerId =>
          exact prepare_written ctx db userId showId tierId idempotencyKey stripeCustomerId
      | startShow userId showId => exact startShow_written ctx db userId showId
      | endShow userId showId => exact endShow_written ctx db userId showId
      | applyEvent event =>
          cases news : db.knows event with
          | true =>
              rw [Mutation.apply, applyEvent_known ctx db news]
              exact .kept _
          | false =>
              rw [Mutation.apply, applyEvent_registry ctx db news]
              exact .heard event news
      | _ => cases writes

/-- Only `prepare` makes an attempt. -/
theorem Mutation.new_attempt {ctx : Ctx} {db : DB} {m : Mutation} {attempt : PaymentAttempt}
    (found : (m.apply ctx db).paymentAttempts.get db.paymentAttempts.next = some attempt) :
    ∃ hotline tier, Charges db attempt.showId attempt.tierId hotline tier ∧
      attempt.creatorId = hotline.creatorId ∧ attempt.amountCents = tier.priceCents := by
  have absent (same : (m.apply ctx db).registry.nextAttempt = db.paymentAttempts.next) :
      False := by
    change (m.apply ctx db).paymentAttempts.next = db.paymentAttempts.next at same
    rw [← same, Table.get_next] at found
    cases found
  have written := m.written ctx db
  generalize left : (m.apply ctx db).registry = registry at absent written
  cases written with
  | asked userId showId tierId idempotencyKey stripeCustomerId hotline tier charges =>
      cases outcome : Bling.prepare db userId showId tierId idempotencyKey stripeCustomerId with
      | error code =>
          simp only [Mutation.apply, outcome, commit, Table.get_next] at found
          cases found
      | ok result =>
          simp only [Mutation.apply, outcome, commit] at found
          rcases prepare_ok db outcome with same | ⟨made, host, sold, sells, inShow, ofTier, ofHost,
            price, same⟩
          · rw [same, Table.get_next] at found
            cases found
          · rw [same, Table.get_insert_next] at found
            obtain rfl := Option.some.inj found
            exact ⟨host, sold, inShow ▸ ofTier ▸ sells, ofHost, price⟩
  | _ => exact (absent rfl).elim

end Bling
