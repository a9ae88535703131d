import Bling.WorldSteps

set_option autoImplicit false

namespace Bling

open Library

/-! What the mutations schedule. Jobs are only ever added, until they run. -/

/-- `after` has the jobs of `before` and others, all of the kind given. -/
def Adds (fits : Job → Prop) (before after : DB) : Prop :=
  ∃ jobs, after.scheduled = before.scheduled ++ jobs ∧ ∀ row ∈ jobs, fits row.2

/-- A job that closes no queue. -/
def Job.spares (job : Job) : Prop := ∀ showId, job ≠ .closeQueue showId

namespace Adds

variable {fits : Job → Prop} {a b c : DB}

theorem of_eq (same : b.scheduled = a.scheduled) : Adds fits a b :=
  ⟨[], by rw [same, List.append_nil], fun _ member => absurd member List.not_mem_nil⟩

theorem refl (db : DB) : Adds fits db db := of_eq rfl

theorem trans (first : Adds fits a b) (second : Adds fits b c) : Adds fits a c := by
  obtain ⟨front, one, early⟩ := first
  obtain ⟨back, two, late⟩ := second
  refine ⟨front ++ back, by rw [two, one, List.append_assoc], ?_⟩
  intro row member
  rcases List.mem_append.mp member with inFront | inBack
  · exact early row inFront
  · exact late row inBack

theorem runAt {job : Job} (db : DB) (time : Time) (fit : fits job) :
    Adds fits db (db.runAt time job) := by
  refine ⟨[(time, job)], rfl, ?_⟩
  intro row member
  rw [List.mem_singleton.mp member]
  exact fit

theorem runAfter {job : Job} (db : DB) (now delay : Time) (fit : fits job) :
    Adds fits db (db.runAfter now delay job) := runAt db _ fit

/-- A job is scheduled after other tables have been written. -/
theorem thenAt {start db : DB} {job : Job} (same : db.scheduled = start.scheduled) (time : Time)
    (fit : fits job) : Adds fits start (db.runAt time job) :=
  (of_eq same).trans (runAt db time fit)

/-- A job that is scheduled only in some cases. -/
theorem thenAfter {start db : DB} {job : Job} (adds : Adds fits start db) (skips : Prop)
    [Decidable skips] (now delay : Time) (fit : fits job) :
    Adds fits start (if skips then db else db.runAfter now delay job) := by
  split
  · exact adds
  · exact adds.trans (runAfter db now delay fit)

theorem mono {looser : Job → Prop} (adds : Adds fits a b) (loosens : ∀ job, fits job → looser job) :
    Adds looser a b := by
  obtain ⟨jobs, same, each⟩ := adds
  exact ⟨jobs, same, fun row member => loosens row.2 (each row member)⟩

theorem mem (adds : Adds fits a b) {row : Time × Job} (member : row ∈ a.scheduled) :
    row ∈ b.scheduled := by
  obtain ⟨jobs, same, _⟩ := adds
  rw [same]
  exact List.mem_append_left _ member

theorem origin (adds : Adds fits a b) {row : Time × Job} (member : row ∈ b.scheduled) :
    row ∈ a.scheduled ∨ fits row.2 := by
  obtain ⟨jobs, same, each⟩ := adds
  rw [same] at member
  exact (List.mem_append.mp member).imp id (each row)

/-- Jobs that do not fit are as many as before. -/
theorem count (adds : Adds fits a b) {p : Time × Job → Bool}
    (unfit : ∀ row, fits row.2 → p row = false) :
    b.scheduled.countP p = a.scheduled.countP p := by
  obtain ⟨jobs, same, each⟩ := adds
  rw [same, List.countP_append, Nat.add_eq_left, List.countP_eq_zero]
  intro row member
  rw [unfit row (each row member)]
  decide

theorem foldl {α : Type} {f : DB → α → DB} (each : ∀ db x, Adds fits db (f db x)) (xs : List α)
    (db : DB) : Adds fits db (xs.foldl f db) := by
  induction xs generalizing db with
  | nil => exact refl db
  | cons x rest ih => exact (each db x).trans (ih (f db x))

theorem committed {α : Type} {result : Except ErrorCode (DB × α)}
    (each : ∀ after value, result = .ok (after, value) → Adds fits a after) :
    Adds fits a (commit a result) := by
  cases result with
  | error code => exact refl a
  | ok outcome => exact each outcome.1 outcome.2 rfl

end Adds

/-- A job that neither watches over a participant nor purges signals. -/
def Job.calm : Job → Prop
  | .purgeSignals _ | .checkSeen .. | .checkGrace .. => False
  | _ => True

/-- A calm job that closes no queue. -/
def Job.plain : Job → Prop
  | .closeQueue _ | .purgeSignals _ | .checkSeen .. | .checkGrace .. => False
  | _ => True

theorem Job.plain.calm {job : Job} (plain : job.plain) : job.calm := by
  cases job <;> trivial

theorem Job.plain.spares {job : Job} (plain : job.plain) : job.spares := by
  rintro showId rfl
  exact plain

/-- `after` has the presence rows of `before`, its jobs, and only plain ones more. -/
structure Quiet (before after : DB) : Prop where
  presence : after.callPresence = before.callPresence
  adds : Adds Job.plain before after

namespace Quiet

variable {a b c : DB}

theorem of_eq (same : b.scheduled = a.scheduled) (presence : b.callPresence = a.callPresence) :
    Quiet a b :=
  ⟨presence, .of_eq same⟩

theorem refl (db : DB) : Quiet db db := of_eq rfl rfl

theorem trans (first : Quiet a b) (second : Quiet b c) : Quiet a c :=
  ⟨second.presence.trans first.presence, first.adds.trans second.adds⟩

theorem runAt {job : Job} (db : DB) (time : Time) (fit : job.plain) :
    Quiet db (db.runAt time job) :=
  ⟨rfl, .runAt db time fit⟩

theorem runAfter {job : Job} (db : DB) (now delay : Time) (fit : job.plain) :
    Quiet db (db.runAfter now delay job) := runAt db _ fit

theorem thenAt {start db : DB} {job : Job} (same : db.scheduled = start.scheduled)
    (presence : db.callPresence = start.callPresence) (time : Time) (fit : job.plain) :
    Quiet start (db.runAt time job) :=
  (of_eq same presence).trans (runAt db time fit)

theorem thenAfter {start db : DB} {job : Job} (quiet : Quiet start db) (skips : Prop)
    [Decidable skips] (now delay : Time) (fit : job.plain) :
    Quiet start (if skips then db else db.runAfter now delay job) := by
  split
  · exact quiet
  · exact quiet.trans (runAfter db now delay fit)

theorem foldl {α : Type} {f : DB → α → DB} (each : ∀ db x, Quiet db (f db x)) (xs : List α)
    (db : DB) : Quiet db (xs.foldl f db) := by
  induction xs generalizing db with
  | nil => exact refl db
  | cons x rest ih => exact (each db x).trans (ih (f db x))

theorem committed {α : Type} {result : Except ErrorCode (DB × α)}
    (each : ∀ after value, result = .ok (after, value) → Quiet a after) :
    Quiet a (commit a result) := by
  cases result with
  | error code => exact refl a
  | ok outcome => exact each outcome.1 outcome.2 rfl

theorem spares (quiet : Quiet a b) : Adds Job.spares a b :=
  quiet.adds.mono fun _ plain => plain.spares

end Quiet

/-! ### The functions that schedule -/

theorem scheduleCancel_quiet (ctx : Ctx) (db : DB) (attemptId : AttemptId)
    (attempt : PaymentAttempt) (reason : CancelReason) :
    Quiet db (scheduleCancel ctx db attemptId attempt reason) := by
  unfold scheduleCancel
  split
  · exact .runAfter db _ _ (by trivial)
  · exact .refl db

theorem requestRefund_quiet (ctx : Ctx) (db : DB) (attemptId : AttemptId)
    (attempt : PaymentAttempt) (callId : CallId) (reason : RefundReason) :
    Quiet db (requestRefund ctx db attemptId attempt callId reason) := by
  unfold requestRefund
  split
  · exact .refl db
  · split
    · exact .refl db
    · split
      · exact .refl db
      · exact .thenAt (by rfl) (by rfl) _ (by trivial)

theorem recordCaptured_quiet (ctx : Ctx) (db : DB) (attemptId : AttemptId)
    (attempt : PaymentAttempt) :
    Quiet db (recordCaptured ctx db attemptId attempt) := by
  unfold recordCaptured
  have start : Quiet db (if attempt.status ≠ .captured then
      { db with paymentAttempts := db.paymentAttempts.patch attemptId fun a =>
        { a with status := .captured
                 capturedAt := some (attempt.capturedAt.getD ctx.now) } }
      else db) := by
    split
    · exact .of_eq rfl rfl
    · exact .refl db
  refine start.trans ?_
  generalize (if attempt.status ≠ .captured then _ else db) = db
  dsimp only
  split
  · split
    · exact .of_eq rfl rfl
    · split
      · refine Quiet.trans ?_ (requestRefund_quiet ctx _ _ _ _ _)
        split
        · exact .of_eq rfl rfl
        · exact .refl db
      · exact .refl db
  · exact .refl db

theorem recordNotCaptured_quiet (ctx : Ctx) (db : DB) (attemptId : AttemptId)
    (attempt : PaymentAttempt) (status : NotCaptured) (failureCode : Option String) :
    Quiet db (recordNotCaptured ctx db attemptId attempt status failureCode) := by
  by_cases isCaptured : attempt.status = .captured
  · rw [recordNotCaptured, if_pos isCaptured]
    exact .refl db
  · rw [recordNotCaptured_eq ctx db attemptId attempt status failureCode isCaptured]
    exact .of_eq rfl rfl

theorem goLive_quiet (ctx : Ctx) (db : DB) (callId : CallId) (call : Call) (target : CallStatus) :
    Quiet db (goLive ctx db callId call target) := by
  unfold goLive
  split
  · dsimp only
    split
    · exact .runAt db _ (by trivial)
    · split
      · exact .runAt db _ (by trivial)
      · exact (Quiet.runAt db _ (by trivial)).trans (.of_eq rfl rfl)
  · exact .refl db

theorem finishCall_adds (ctx : Ctx) (db : DB) (callId : CallId) (call : Call)
    (target : CallStatus) : Adds Job.spares db (finishCall ctx db callId call target) := by
  unfold finishCall
  split
  · dsimp only
    have purges (db : DB) : Adds Job.spares db (db.runAfter ctx.now 0 (.purgeSignals callId)) :=
      .runAfter db ctx.now 0 nofun
    refine Adds.trans ?_ ((purges _).trans (.of_eq rfl))
    split
    · split
      · exact .refl db
      · split
        · exact .refl db
        · exact (requestRefund_quiet ctx db _ _ _ _).spares
    · exact .refl db
  · exact .refl db

theorem moveCall_adds (ctx : Ctx) (db : DB) (callId : CallId) (call : Call) (target : CallStatus) :
    Adds Job.spares db (moveCall ctx db callId call target) := by
  unfold moveCall
  exact ((goLive_quiet ctx db callId call target).spares.trans (.of_eq rfl)).trans
    (finishCall_adds ctx _ callId call target)

theorem applyTransition_adds {ctx : Ctx} {db : DB} {callId : CallId} {call : Call}
    {target : CallStatus} {after : DB} {value : Unit}
    (outcome : applyTransition ctx db callId call target = .ok (after, value)) :
    Adds Job.spares db after := by
  rcases applyTransition_ok outcome with rfl | ⟨_, rfl⟩
  · exact .refl after
  · exact moveCall_adds ctx db callId call target

theorem applyTransition_shows {ctx : Ctx} {db : DB} {callId : CallId} {call : Call}
    {target : CallStatus} {after : DB} {value : Unit}
    (outcome : applyTransition ctx db callId call target = .ok (after, value)) :
    after.shows = db.shows := by
  rcases applyTransition_ok outcome with rfl | ⟨_, rfl⟩
  · rfl
  · exact (moveCall_same ctx db callId call target).shows

theorem createCall_quiet {ctx : Ctx} {db after : DB} {showId : ShowId} {hotline : Show}
    {entryId : EntryId} {entry : QueueEntry} {mode : SelectionMode} {callId : CallId}
    (outcome : createCall ctx db showId hotline entryId entry mode = .ok (after, callId)) :
    Quiet db after := by
  unfold createCall at outcome
  dsimp only at outcome
  split at outcome
  · cases outcome
  · obtain ⟨rfl, rfl⟩ := Prod.mk.inj (Except.ok.inj outcome)
    cases entryAttempt db entry with
    | none => exact .of_eq rfl rfl
    | some row => exact .thenAt (by rfl) (by rfl) _ (by trivial)

theorem markDisconnected_adds (ctx : Ctx) (db : DB) (rowId : Nat) (callId : CallId)
    (role : CallRole) : Adds Job.spares db (markDisconnected ctx db rowId callId role) :=
  .thenAt rfl _ nofun

theorem closeEntry_quiet (ctx : Ctx) (status : QueueStatus) (db : DB) (row : EntryId × QueueEntry) :
    Quiet db (closeEntry ctx status db row) := by
  unfold closeEntry
  dsimp only
  split
  · exact .of_eq rfl rfl
  · split
    · split
      · exact .of_eq rfl rfl
      · refine Quiet.trans ?_ (scheduleCancel_quiet ctx _ _ _ _)
        exact .of_eq rfl rfl
    · exact .of_eq rfl rfl

theorem closeStatuses_quiet (ctx : Ctx) (showId : ShowId) (limit : Nat)
    (statuses : List QueueStatus) (current : DB) (closed : Nat) :
    Quiet current (statuses.foldl (fun (db, closed) status =>
      if limit ≤ closed then (db, closed)
      else
        let entries := (entriesWith db showId status).take (limit - closed)
        (entries.foldl (closeEntry ctx status) db, closed + entries.length))
      (current, closed)).1 := by
  induction statuses generalizing current closed with
  | nil => exact .refl current
  | cons status rest ih =>
      rw [List.foldl_cons]
      dsimp only
      split
      · exact ih current closed
      · exact (Quiet.foldl (closeEntry_quiet ctx status) _ current).trans (ih _ _)

theorem closeEntries_quiet (ctx : Ctx) (db : DB) (showId : ShowId) (limit : Nat) :
    Quiet db (closeEntries ctx db showId limit).1 :=
  closeStatuses_quiet ctx showId limit activeEntryStatuses db 0

theorem reserveAccount_quiet (ctx : Ctx) (runId : RunId) (payoutRun : PayoutRun) (db : DB)
    (account : PayoutAccount) :
    Quiet db (reserveAccount ctx runId payoutRun db account) := by
  unfold reserveAccount
  split
  · exact .refl db
  · split
    · exact .refl db
    · split
      · exact .refl db
      · dsimp only
        split
        · exact .refl db
        · refine .thenAt ?_ ?_ _ (by trivial) <;> split <;> rfl

theorem reversePatched_quiet (ctx : Ctx) (db : DB) (refundId : RefundId) :
    Quiet db (reversePatched ctx db refundId) := by
  unfold reversePatched
  split
  · exact .of_eq rfl rfl
  · exact .refl db

theorem settleRefund_quiet (ctx : Ctx) (db : DB) (event : RefundEvent) (refundId : RefundId)
    (refund : PaymentRefund) : Quiet db (settleRefund ctx db event refundId refund) := by
  unfold settleRefund
  dsimp only
  split
  · exact .refl db
  · split
    · refine Quiet.trans ?_ (reversePatched_quiet ctx _ refundId)
      exact .of_eq rfl rfl
    · exact .of_eq rfl rfl

theorem applyIntent_quiet (ctx : Ctx) (db : DB) (type : EventType) (intent : IntentEvent) :
    Quiet db (applyIntent ctx db type intent) := by
  unfold applyIntent
  split
  · exact .refl db
  · rename_i attemptId attempt _
    split
    · dsimp only
      split
      · exact (recordCaptured_quiet ctx db attemptId attempt).trans (.of_eq rfl rfl)
      · exact recordCaptured_quiet ctx db attemptId attempt
    · exact recordNotCaptured_quiet ctx db attemptId attempt _ _

theorem applyRefund_quiet (ctx : Ctx) (db : DB) (event : RefundEvent) :
    Quiet db (applyRefund ctx db event) := by
  unfold applyRefund
  split
  · exact settleRefund_quiet ctx db event _ _
  · split
    · exact .refl db
    · refine Quiet.trans ?_ (settleRefund_quiet ctx _ event _ _)
      exact .of_eq rfl rfl

theorem applyEvent_quiet (ctx : Ctx) (db : DB) (event : Event) :
    Quiet db (applyEvent ctx db event) := by
  unfold applyEvent
  split
  · exact .refl db
  · dsimp only
    split
    · refine Quiet.trans ?_ (applyIntent_quiet ctx _ _ _)
      exact .of_eq rfl rfl
    · refine Quiet.trans ?_ (applyRefund_quiet ctx _ _)
      exact .of_eq rfl rfl
    · exact .of_eq rfl rfl
    · split
      · unfold applyPayout
        split
        · exact .of_eq rfl rfl
        · split <;> exact .of_eq rfl rfl
      · exact .of_eq rfl rfl
    · exact .thenAt (by rfl) (by rfl) _ (by trivial)
    · exact .of_eq rfl rfl

theorem joinQueue_quiet {ctx : Ctx} {db after : DB} {viewerId : UserId} {args : JoinArgs}
    {paymentAttemptId : Option AttemptId} {entryId : EntryId}
    (outcome : joinQueue ctx db viewerId args paymentAttemptId = .ok (after, entryId)) :
    Quiet db after := by
  unfold joinQueue at outcome
  dsimp only at outcome
  split at outcome
  · cases outcome
  · split at outcome
    · cases outcome
    · split at outcome
      · cases outcome
      · split at outcome
        · cases outcome
        · split at outcome
          · cases outcome
          · split at outcome
            · obtain ⟨rfl, rfl⟩ := Prod.mk.inj (Except.ok.inj outcome)
              exact .refl _
            · split at outcome
              · cases outcome
              · rw [← (Prod.mk.inj (Except.ok.inj outcome)).1]
                exact .of_eq rfl rfl

theorem prepare_quiet {db after : DB} {userId : Option UserId} {showId : ShowId} {tierId : TierId}
    {idempotencyKey : Text} {stripeCustomerId : Option StripeId} {attemptId : AttemptId}
    (outcome : prepare db userId showId tierId idempotencyKey stripeCustomerId =
      .ok (after, attemptId)) : Quiet db after := by
  unfold prepare at outcome
  obtain ⟨payerId, _, outcome⟩ := bind_ok outcome
  split at outcome
  · split at outcome
    · cases outcome
    · split at outcome
      · cases outcome
      · split at outcome
        · cases outcome
        · split at outcome
          · split at outcome
            · cases outcome
            · obtain ⟨rfl, rfl⟩ := Prod.mk.inj (Except.ok.inj outcome)
              exact .refl _
          · obtain ⟨rfl, rfl⟩ := Prod.mk.inj (Except.ok.inj outcome)
            exact .of_eq rfl rfl
  · cases outcome

/-! ### Mutations -/

/-- The show a mutation may close the queue of. -/
def Mutation.closing : Mutation → Option ShowId
  | .endShow _ showId => some showId
  | .closeQueue showId => some showId
  | _ => none

/-- A mutation that a call, its participants or the end of a show is about. -/
def Mutation.attends : Mutation → Bool
  | .transition .. | .expire _ | .heartbeat .. | .leaveCall .. | .checkSeen .. | .checkGrace ..
  | .endShow .. | .closeQueue _ => true
  | _ => false

theorem Mutation.signUp_quiet (ctx : Ctx) (db : DB) (username : Option Text) :
    Quiet db ((Mutation.signUp username).apply ctx db) := by
  refine .committed ?_
  intro after value outcome
  unfold Bling.signUp at outcome
  cases username with
  | none =>
      obtain ⟨rfl, rfl⟩ := Prod.mk.inj (Except.ok.inj outcome)
      exact .of_eq rfl rfl
  | some name =>
      dsimp only at outcome
      split at outcome
      · cases outcome
      · obtain ⟨rfl, rfl⟩ := Prod.mk.inj (Except.ok.inj outcome)
        exact .of_eq rfl rfl

theorem Mutation.saveAccount_quiet (ctx : Ctx) (db : DB) (creatorId : UserId)
    (account : PayoutAccount) :
    Quiet db ((Mutation.saveAccount creatorId account).apply ctx db) := by
  simp only [Mutation.apply, Bling.saveAccount]
  split
  · exact .of_eq rfl rfl
  · split <;> exact .of_eq rfl rfl

theorem Mutation.createShow_quiet (ctx : Ctx) (db : DB) (userId : Option UserId) :
    Quiet db ((Mutation.createShow userId).apply ctx db) := by
  refine .committed ?_
  intro after value outcome
  obtain ⟨creatorId, _, outcome⟩ := bind_ok outcome
  obtain ⟨rfl, rfl⟩ := Prod.mk.inj (Except.ok.inj outcome)
  exact .of_eq rfl rfl

theorem Mutation.replaceTiers_quiet (ctx : Ctx) (db : DB) (toLowerCase : Text → Text)
    (userId : Option UserId) (showId : ShowId) (tiers : List TierInput) :
    Quiet db ((Mutation.replaceTiers toLowerCase userId showId tiers).apply ctx db) := by
  refine .committed ?_
  intro after value outcome
  obtain ⟨creatorId, _, outcome⟩ := bind_ok outcome
  obtain ⟨hotline, _, outcome⟩ := bind_ok outcome
  dsimp only at outcome
  split at outcome
  · cases outcome
  · split at outcome
    · cases outcome
    · split at outcome
      · cases outcome
      · split at outcome
        · cases outcome
        · obtain ⟨rfl, rfl⟩ := Prod.mk.inj (Except.ok.inj outcome)
          exact .of_eq rfl rfl

theorem Mutation.startShow_quiet (ctx : Ctx) (db : DB) (userId : Option UserId) (showId : ShowId) :
    Quiet db ((Mutation.startShow userId showId).apply ctx db) := by
  refine .committed ?_
  intro after value outcome
  obtain ⟨creatorId, _, outcome⟩ := bind_ok outcome
  obtain ⟨hotline, _, outcome⟩ := bind_ok outcome
  dsimp only at outcome
  split at outcome
  · obtain ⟨rfl, rfl⟩ := Prod.mk.inj (Except.ok.inj outcome)
    exact .refl _
  · split at outcome
    · cases outcome
    · split at outcome
      · cases outcome
      · split at outcome
        · cases outcome
        · split at outcome
          · cases outcome
          · obtain ⟨rfl, rfl⟩ := Prod.mk.inj (Except.ok.inj outcome)
            exact .of_eq rfl rfl

theorem Mutation.join_quiet (ctx : Ctx) (db : DB) (userId : Option UserId) (args : JoinArgs) :
    Quiet db ((Mutation.join userId args).apply ctx db) := by
  refine .committed ?_
  intro after value outcome
  obtain ⟨viewerId, _, outcome⟩ := bind_ok outcome
  exact joinQueue_quiet outcome

theorem Mutation.joinWithPayment_quiet (ctx : Ctx) (db : DB) (userId : Option UserId)
    (args : JoinArgs) (paymentAttemptId : AttemptId) :
    Quiet db ((Mutation.joinWithPayment userId args paymentAttemptId).apply ctx db) := by
  refine .committed ?_
  intro after value outcome
  obtain ⟨viewerId, _, outcome⟩ := bind_ok outcome
  exact joinQueue_quiet outcome

theorem Mutation.leave_quiet (ctx : Ctx) (db : DB) (userId : Option UserId) (showId : ShowId) :
    Quiet db ((Mutation.leave userId showId).apply ctx db) := by
  refine .committed ?_
  intro after value outcome
  obtain ⟨viewerId, _, outcome⟩ := bind_ok outcome
  split at outcome
  · cases outcome
  · split at outcome
    · obtain ⟨rfl, rfl⟩ := Prod.mk.inj (Except.ok.inj outcome)
      exact .refl _
    · split at outcome
      · cases outcome
      · dsimp only at outcome
        split at outcome
        · obtain ⟨rfl, rfl⟩ := Prod.mk.inj (Except.ok.inj outcome)
          exact .of_eq rfl rfl
        · split at outcome
          · obtain ⟨rfl, rfl⟩ := Prod.mk.inj (Except.ok.inj outcome)
            exact .of_eq rfl rfl
          · obtain ⟨rfl, rfl⟩ := Prod.mk.inj (Except.ok.inj outcome)
            refine Quiet.trans ?_ (scheduleCancel_quiet ctx _ _ _ _)
            exact .of_eq rfl rfl

theorem Mutation.select_quiet (ctx : Ctx) (db : DB) (userId : Option UserId) (showId : ShowId)
    (entryId : EntryId) : Quiet db ((Mutation.select userId showId entryId).apply ctx db) := by
  refine .committed ?_
  intro after value outcome
  obtain ⟨hotline, _, outcome⟩ := bind_ok outcome
  split at outcome
  · cases outcome
  · split at outcome
    · cases outcome
    · exact createCall_quiet outcome

theorem Mutation.selectRandom_quiet (ctx : Ctx) (db : DB) (userId : Option UserId) (showId : ShowId)
    (pivot : Time) : Quiet db ((Mutation.selectRandom userId showId pivot).apply ctx db) := by
  refine .committed ?_
  intro after value outcome
  obtain ⟨hotline, _, outcome⟩ := bind_ok outcome
  split at outcome
  · cases outcome
  · exact createCall_quiet outcome

theorem Mutation.attachIntent_quiet (ctx : Ctx) (db : DB) (attemptId : AttemptId)
    (intentId : StripeId) : Quiet db ((Mutation.attachIntent attemptId intentId).apply ctx db) := by
  refine .committed ?_
  intro after value outcome
  unfold Bling.attachIntent at outcome
  split at outcome
  · cases outcome
  · split at outcome
    · split at outcome
      · obtain ⟨rfl, rfl⟩ := Prod.mk.inj (Except.ok.inj outcome)
        exact .refl _
      · cases outcome
    · obtain ⟨rfl, rfl⟩ := Prod.mk.inj (Except.ok.inj outcome)
      exact .of_eq rfl rfl

theorem Mutation.markAuthorized_quiet (ctx : Ctx) (db : DB) (attemptId : AttemptId) :
    Quiet db ((Mutation.markAuthorized attemptId).apply ctx db) := by
  simp only [Mutation.apply, Bling.markAuthorized]
  split
  · exact .of_eq rfl rfl
  · exact .refl db

theorem Mutation.captured_quiet (ctx : Ctx) (db : DB) (attemptId : AttemptId) :
    Quiet db ((Mutation.captured attemptId).apply ctx db) := by
  simp only [Mutation.apply, Bling.captured]
  split
  · exact recordCaptured_quiet ctx db attemptId _
  · exact .refl db

theorem Mutation.notCaptured_quiet (ctx : Ctx) (db : DB) (attemptId : AttemptId)
    (status : NotCaptured) (failureCode : Option String) :
    Quiet db ((Mutation.notCaptured attemptId status failureCode).apply ctx db) := by
  simp only [Mutation.apply, Bling.notCaptured]
  split
  · exact recordNotCaptured_quiet ctx db attemptId _ _ _
  · exact .refl db

theorem Mutation.claimRefund_quiet (ctx : Ctx) (db : DB) (refundId : RefundId) :
    Quiet db ((Mutation.claimRefund refundId).apply ctx db) := by
  simp only [Mutation.apply, Bling.claimRefund]
  split
  · exact .refl db
  · split
    · exact .refl db
    · exact .of_eq rfl rfl

theorem Mutation.recordRefund_quiet (ctx : Ctx) (db : DB) (refundId : RefundId)
    (stripeRefundId : StripeId) (status : RefundOutcome) (failureCode : Option String) :
    Quiet db ((Mutation.recordRefund refundId stripeRefundId status failureCode).apply ctx db) := by
  simp only [Mutation.apply, Bling.recordRefund]
  split
  · exact .refl db
  · split
    · exact .refl db
    · refine Quiet.thenAfter ?_ _ _ _ (by trivial)
      split
      · refine Quiet.trans ?_ (reversePatched_quiet ctx _ refundId)
        exact .of_eq rfl rfl
      · exact .of_eq rfl rfl

theorem Mutation.retryRefund_quiet (ctx : Ctx) (db : DB) (refundId : RefundId)
    (failureCode : String) :
    Quiet db ((Mutation.retryRefund refundId failureCode).apply ctx db) := by
  simp only [Mutation.apply, Bling.retryRefund]
  split
  · exact .refl db
  · split
    · exact .refl db
    · split
      · exact .of_eq rfl rfl
      · exact .thenAt (by rfl) (by rfl) _ (by trivial)

theorem Mutation.runDue_quiet (ctx : Ctx) (db : DB) : Quiet db (Mutation.runDue.apply ctx db) := by
  simp only [Mutation.apply, Bling.runDue]
  split
  · exact .refl db
  · split
    · exact (Quiet.runAfter db _ _ (by trivial)).trans (.runAfter _ _ _ (by trivial))
    · exact (Quiet.thenAt (by rfl) (by rfl) _ (by trivial)).trans (.runAfter _ _ _ (by trivial))

theorem Mutation.reserveBatch_quiet (ctx : Ctx) (db : DB) (runId : RunId) (cursor : Option Nat) :
    Quiet db ((Mutation.reserveBatch runId cursor).apply ctx db) := by
  simp only [Mutation.apply, Bling.reserveBatch]
  split
  · exact .refl db
  · exact .thenAfter (.foldl (reserveAccount_quiet ctx runId _) _ db) _ _ _ (by trivial)

theorem Mutation.claimTransfer_quiet (ctx : Ctx) (db : DB) (itemId : ItemId) :
    Quiet db ((Mutation.claimTransfer itemId).apply ctx db) := by
  simp only [Mutation.apply, Bling.claimTransfer]
  split
  · exact .refl db
  · split
    · exact .refl db
    · exact .of_eq rfl rfl

theorem Mutation.markPaid_quiet (ctx : Ctx) (db : DB) (itemId : ItemId) (transferId : StripeId) :
    Quiet db ((Mutation.markPaid itemId transferId).apply ctx db) := by
  simp only [Mutation.apply, Bling.markPaid]
  split
  · exact .thenAt (by rfl) (by rfl) _ (by trivial)
  · exact .refl db

theorem Mutation.retryTransfer_quiet (ctx : Ctx) (db : DB) (itemId : ItemId)
    (failureCode : String) :
    Quiet db ((Mutation.retryTransfer itemId failureCode).apply ctx db) := by
  simp only [Mutation.apply, Bling.retryTransfer]
  split
  · exact .refl db
  · split
    · exact .refl db
    · split
      · exact .thenAt (by rfl) (by rfl) _ (by trivial)
      · exact .thenAt (by rfl) (by rfl) _ (by trivial)

theorem Mutation.finishRuns_quiet (ctx : Ctx) (db : DB) :
    Quiet db (Mutation.finishRuns.apply ctx db) := by
  refine Quiet.foldl ?_ _ db
  intro db runId
  unfold finishRun
  dsimp only
  split
  · exact .refl db
  · exact .of_eq rfl rfl

/-- The others leave presence alone and schedule plain jobs only. -/
theorem Mutation.quiet (ctx : Ctx) (db : DB) (m : Mutation) (other : m.attends = false) :
    Quiet db (m.apply ctx db) := by
  cases m with
  | endShow userId showId => cases other
  | closeQueue showId => cases other
  | transition userId callId status => cases other
  | expire callId => cases other
  | heartbeat userId callId => cases other
  | leaveCall userId callId => cases other
  | checkSeen callId role seenAt => cases other
  | checkGrace callId role disconnectedAt => cases other
  | signUp username => exact signUp_quiet ctx db username
  | saveAccount creatorId account => exact saveAccount_quiet ctx db creatorId account
  | createShow userId => exact createShow_quiet ctx db userId
  | replaceTiers toLowerCase userId showId tiers =>
      exact replaceTiers_quiet ctx db toLowerCase userId showId tiers
  | startShow userId showId => exact startShow_quiet ctx db userId showId
  | join userId args => exact join_quiet ctx db userId args
  | joinWithPayment userId args paymentAttemptId =>
      exact joinWithPayment_quiet ctx db userId args paymentAttemptId
  | leave userId showId => exact leave_quiet ctx db userId showId
  | select userId showId entryId => exact select_quiet ctx db userId showId entryId
  | selectRandom userId showId pivot => exact selectRandom_quiet ctx db userId showId pivot
  | prepare userId showId tierId idempotencyKey stripeCustomerId =>
      refine .committed ?_
      intro after value outcome
      exact prepare_quiet outcome
  | attachIntent attemptId intentId => exact attachIntent_quiet ctx db attemptId intentId
  | markAuthorized attemptId => exact markAuthorized_quiet ctx db attemptId
  | captured attemptId => exact captured_quiet ctx db attemptId
  | notCaptured attemptId status failureCode =>
      exact notCaptured_quiet ctx db attemptId status failureCode
  | claimRefund refundId => exact claimRefund_quiet ctx db refundId
  | recordRefund refundId stripeRefundId status failureCode =>
      exact recordRefund_quiet ctx db refundId stripeRefundId status failureCode
  | retryRefund refundId failureCode => exact retryRefund_quiet ctx db refundId failureCode
  | applyEvent event => exact applyEvent_quiet ctx db event
  | runDue => exact runDue_quiet ctx db
  | reserveBatch runId cursor => exact reserveBatch_quiet ctx db runId cursor
  | claimTransfer itemId => exact claimTransfer_quiet ctx db itemId
  | markPaid itemId transferId => exact markPaid_quiet ctx db itemId transferId
  | retryTransfer itemId failureCode => exact retryTransfer_quiet ctx db itemId failureCode
  | finishRuns => exact finishRuns_quiet ctx db

/-- Only ending a show, and closing its queue, schedule more of that. -/
theorem Mutation.adds (ctx : Ctx) (db : DB) (m : Mutation) (other : m.closing = none) :
    Adds Job.spares db (m.apply ctx db) := by
  cases m with
  | endShow userId showId => cases other
  | closeQueue showId => cases other
  | transition userId callId status =>
      refine .committed ?_
      intro after value outcome
      obtain ⟨⟨call, role⟩, _, outcome⟩ := bind_ok outcome
      dsimp only at outcome
      split at outcome
      · cases outcome
      · exact applyTransition_adds outcome
  | expire callId =>
      refine .committed ?_
      intro after value outcome
      unfold Bling.expire at outcome
      split at outcome
      · obtain ⟨rfl, rfl⟩ := Prod.mk.inj (Except.ok.inj outcome)
        exact .refl _
      · split at outcome
        · obtain ⟨rfl, rfl⟩ := Prod.mk.inj (Except.ok.inj outcome)
          exact .refl _
        · exact applyTransition_adds outcome
  | heartbeat userId callId =>
      refine .committed ?_
      intro after value outcome
      obtain ⟨⟨call, role⟩, _, outcome⟩ := bind_ok outcome
      dsimp only at outcome
      split at outcome
      · cases outcome
      · obtain ⟨rfl, rfl⟩ := Prod.mk.inj (Except.ok.inj outcome)
        exact .thenAt rfl _ nofun
  | leaveCall userId callId =>
      refine .committed ?_
      intro after value outcome
      obtain ⟨⟨call, role⟩, _, outcome⟩ := bind_ok outcome
      dsimp only at outcome
      split at outcome
      · obtain ⟨rfl, rfl⟩ := Prod.mk.inj (Except.ok.inj outcome)
        exact .refl _
      · split at outcome
        · split at outcome
          · obtain ⟨rfl, rfl⟩ := Prod.mk.inj (Except.ok.inj outcome)
            exact markDisconnected_adds ctx db _ _ _
          · obtain ⟨rfl, rfl⟩ := Prod.mk.inj (Except.ok.inj outcome)
            exact .refl _
        · obtain ⟨rfl, rfl⟩ := Prod.mk.inj (Except.ok.inj outcome)
          exact .refl _
  | checkSeen callId role seenAt =>
      simp only [Mutation.apply, Bling.checkSeen]
      split
      · exact .refl db
      · split
        · exact .refl db
        · exact markDisconnected_adds ctx db _ _ _
  | checkGrace callId role disconnectedAt =>
      refine .committed ?_
      intro after value outcome
      unfold Bling.checkGrace at outcome
      split at outcome
      · obtain ⟨rfl, rfl⟩ := Prod.mk.inj (Except.ok.inj outcome)
        exact .refl _
      · split at outcome
        · obtain ⟨rfl, rfl⟩ := Prod.mk.inj (Except.ok.inj outcome)
          exact .refl _
        · split at outcome
          · exact applyTransition_adds outcome
          · obtain ⟨rfl, rfl⟩ := Prod.mk.inj (Except.ok.inj outcome)
            exact .refl _
  | _ => exact (Mutation.quiet ctx db _ rfl).spares

/-- A show that ends schedules the closing of its queue, and nothing else does. -/
theorem endShow_adds (ctx : Ctx) (db : DB) (userId : Option UserId) (showId : ShowId) :
    commit db (endShow ctx db userId showId) = db ∨
      ∃ hotline before, db.shows.get showId = some hotline ∧ hotline.status = .live ∧
        (∃ isOver, before.shows.get showId = some isOver ∧ isOver.status = .ended) ∧
        Adds Job.spares db before ∧ commit db (endShow ctx db userId showId) =
          before.runAfter ctx.now 0 (.closeQueue showId) := by
  cases outcome : endShow ctx db userId showId with
  | error code => exact Or.inl rfl
  | ok result =>
      obtain ⟨creatorId, _, ended⟩ := bind_ok outcome
      obtain ⟨hotline, found, ended⟩ := bind_ok ended
      dsimp only at ended
      split at ended
      · obtain rfl := Except.ok.inj ended
        exact Or.inl rfl
      · split at ended
        · cases ended
        · rename_i isLive
          have host := (showForCreator_ok found).1
          have live := not_not.mp isLive
          let isOver : DB := { db with shows := db.shows.patch showId fun s =>
            { s with status := .ended, endedAt := some ctx.now } }
          have over_ : ∃ s, isOver.shows.get showId = some s ∧ s.status = .ended :=
            ⟨_, Table.get_patch_self host _, rfl⟩
          split at ended
          · obtain rfl := Except.ok.inj ended
            exact Or.inr ⟨hotline, isOver, host, live, over_, .of_eq rfl, rfl⟩
          · split at ended
            · obtain ⟨before, settled, ended⟩ := bind_ok ended
              obtain rfl := Except.ok.inj ended
              refine Or.inr ⟨hotline, before, host, live, ?_⟩
              cases moved : applyTransition ctx isOver _ _ .ended with
              | error code =>
                  rw [moved] at settled
                  cases settled
              | ok moves =>
                  rw [moved] at settled
                  obtain rfl := Except.ok.inj settled
                  obtain ⟨after, value⟩ := moves
                  have adds := applyTransition_adds moved
                  have shows := applyTransition_shows moved
                  exact ⟨shows ▸ over_, Adds.trans (.of_eq rfl) adds, rfl⟩
            · obtain rfl := Except.ok.inj ended
              exact Or.inr ⟨hotline, isOver, host, live, over_, .of_eq rfl, rfl⟩

/-- Closing a queue goes on with another batch only after a full one. -/
theorem closeQueue_adds (ctx : Ctx) (db : DB) (showId : ShowId) :
    Adds Job.spares db (closeEntries ctx db showId closeBatch).1 ∧
      closeQueue ctx db showId =
        if (closeEntries ctx db showId closeBatch).2 = closeBatch then
          (closeEntries ctx db showId closeBatch).1.runAfter ctx.now 0 (.closeQueue showId)
        else (closeEntries ctx db showId closeBatch).1 :=
  ⟨(closeEntries_quiet ctx db showId closeBatch).spares, rfl⟩

/-! ### Steps -/

/-- The database a step starts from: a job that runs is taken off the list. -/
def World.started (w : World) (input : Ctx × Op) : DB :=
  match input.2 with
  | .runJob time job =>
    if (time, job) ∈ w.db.scheduled ∧ time ≤ input.1.now then
      { w.db with scheduled := w.db.scheduled.erase (time, job) }
    else w.db
  | _ => w.db

theorem World.started_same (w : World) (input : Ctx × Op) :
    ∃ jobs, w.started input = { w.db with scheduled := jobs } := by
  unfold World.started
  split
  · split
    · exact ⟨_, rfl⟩
    · exact ⟨w.db.scheduled, rfl⟩
  · exact ⟨w.db.scheduled, rfl⟩

theorem mutate_quiet (w : World) (ctx : Ctx) (m : Mutation) (other : m.attends = false) :
    Quiet w.db (w.mutate ctx m).db :=
  Mutation.quiet ctx w.db m other

theorem World.started_mem {w : World} {input : Ctx × Op} {row : Time × Job}
    (member : row ∈ (w.started input).scheduled) : row ∈ w.db.scheduled := by
  unfold World.started at member
  split at member
  · split at member
    · exact List.mem_of_mem_erase member
    · exact member
  · exact member

theorem scheduleAll_quiet (ctx : Ctx) (w : World) {jobs : List Job}
    (each : ∀ job ∈ jobs, job.plain) : Quiet w.db (w.scheduleAll ctx jobs).db := by
  unfold World.scheduleAll
  induction jobs generalizing w with
  | nil => exact .refl w.db
  | cons job rest ih =>
      rw [List.foldl_cons]
      exact (Quiet.runAt w.db ctx.now (each job List.mem_cons_self)).trans
        (ih (w.schedule ctx.now job) fun other member => each other (List.mem_cons_of_mem _ member))

theorem retryCapture_quiet (w : World) (ctx : Ctx) (callId : CallId) (tries : Nat) :
    Quiet w.db (w.retryCapture ctx callId tries).db := by
  unfold World.retryCapture
  split
  · exact .runAt w.db _ (by trivial)
  · exact .refl w.db

theorem advance_quiet (w : World) (ctx : Ctx) (outcome : Outcome) (status : StripeRefundStatus)
    (flight : Flight) : Quiet w.db (w.advance ctx outcome status flight).db := by
  cases flight with
  | creatingIntent attemptId attempt => cases outcome <;> exact .refl w.db
  | attachingIntent attemptId intentId => exact mutate_quiet w ctx _ rfl
  | verifying userId args attemptId attempt intentId =>
      simp only [World.advance]
      split
      · split <;> exact .refl w.db
      · exact .refl w.db
  | markingAuthorized userId args attemptId =>
      exact mutate_quiet w ctx (.markAuthorized attemptId) rfl
  | joining userId args attemptId => exact mutate_quiet w ctx _ rfl
  | capturing callId tries attemptId intentId =>
      simp only [World.advance]
      cases outcome with
      | answered =>
          dsimp only
          split <;> exact .refl w.db
      | lost => exact retryCapture_quiet { w with stripe := (w.stripe.capture intentId).1 } ctx callId tries
      | unreachable => exact retryCapture_quiet w ctx callId tries
      | rejected => exact .refl w.db
  | retrieving attemptId intentId =>
      simp only [World.advance]
      split <;> exact .refl w.db
  | reportingCaptured attemptId => exact mutate_quiet w ctx _ rfl
  | releasing attemptId intentId =>
      simp only [World.advance]
      cases outcome with
      | answered =>
          dsimp only
          split <;> exact .refl w.db
      | lost => exact .refl w.db
      | unreachable => exact .refl w.db
      | rejected => exact .refl w.db
  | canceling attemptId intentId reason =>
      simp only [World.advance]
      cases outcome with
      | answered =>
          dsimp only
          split <;> exact .refl w.db
      | lost => exact .refl w.db
      | unreachable => exact .refl w.db
      | rejected => exact .refl w.db
  | cancelRefused attemptId intentId =>
      simp only [World.advance]
      split <;> exact .refl w.db
  | reportingNotCaptured attemptId status failureCode => exact mutate_quiet w ctx _ rfl
  | refunding refundId refund =>
      simp only [World.advance]
      split
      · split <;> exact .refl w.db
      · split <;> exact .refl w.db
  | recordingRefund refundId stripeRefundId status failureCode => exact mutate_quiet w ctx _ rfl
  | retryingRefund refundId => exact mutate_quiet w ctx _ rfl
  | transferring itemId item => cases outcome <;> exact .refl w.db
  | markingPaid itemId transferId => exact mutate_quiet w ctx _ rfl
  | retryingTransfer itemId => exact mutate_quiet w ctx _ rfl

/-- A job that is about no call in progress and closes no queue. -/
theorem runJob_quiet (w : World) (ctx : Ctx) (job : Job)
    (other : ∀ m, job.begins = some m → m.attends = false) :
    Quiet w.db (w.runJob ctx job).db := by
  cases job with
  | cancelIntent attemptId reason =>
      simp only [World.runJob]
      split
      · exact .refl w.db
      · split
        · exact .refl w.db
        · split <;> exact .refl w.db
  | capture callId tries =>
      simp only [World.runJob]
      split <;> exact .refl w.db
  | runRefund refundId =>
      simp only [World.runJob]
      split <;> exact mutate_quiet w ctx (.claimRefund refundId) rfl
  | transfer itemId =>
      simp only [World.runJob]
      split <;> exact mutate_quiet w ctx (.claimTransfer itemId) rfl
  | purgeSignals callId => exact .refl w.db
  | reconcileAccount accountId => exact .refl w.db
  | _ => exact Mutation.quiet ctx w.db _ (other _ rfl)

/-- A job that closes no queue. -/
theorem runJob_adds (w : World) (ctx : Ctx) (job : Job) (spares : job.spares) :
    Adds Job.spares w.db (w.runJob ctx job).db := by
  cases job with
  | closeQueue showId => exact absurd rfl (spares showId)
  | expire callId => exact Mutation.adds ctx w.db _ rfl
  | checkSeen callId role seenAt => exact Mutation.adds ctx w.db _ rfl
  | checkGrace callId role disconnectedAt => exact Mutation.adds ctx w.db _ rfl
  | _ =>
      refine (runJob_quiet w ctx _ ?_).spares
      intro m begins
      first
        | cases begins
          rfl
        | cases begins

theorem authorize_quiet (w : World) (ctx : Ctx) (userId : Option UserId) (showId : ShowId)
    (tierId : TierId) (idempotencyKey : Text) (stripeCustomerId : Option StripeId) :
    Quiet w.db
      (w.authorize ctx userId showId tierId idempotencyKey stripeCustomerId).db := by
  let prepares := Mutation.prepare userId showId tierId idempotencyKey stripeCustomerId
  unfold World.authorize
  split
  · exact .refl w.db
  · dsimp only
    split
    · exact .refl w.db
    · split
      · exact mutate_quiet w ctx prepares rfl
      · split <;> exact mutate_quiet w ctx prepares rfl

/-- What a step does to the jobs: it runs one of them or none, and adds others. -/
theorem step_adds (w : World) (input : Ctx × Op) :
    Adds Job.spares (w.started input) (w.step input).db ∨
      (∃ userId showId, input.2 = .request (.endShow userId showId) ∧
        (w.step input).db = commit w.db (endShow input.1 w.db userId showId)) ∨
      ∃ time showId, input.2 = .runJob time (.closeQueue showId) ∧
        (time, .closeQueue showId) ∈ w.db.scheduled ∧ time ≤ input.1.now ∧
        (w.step input).db = closeQueue input.1 (w.started input) showId := by
  obtain ⟨ctx, op⟩ := input
  cases op with
  | request m =>
      simp only [World.step, World.started]
      split
      · cases closing : m.closing with
        | none => exact Or.inl (Mutation.adds ctx w.db m closing)
        | some showId =>
            cases m with
            | endShow userId showId => exact Or.inr (Or.inl ⟨userId, showId, rfl, rfl⟩)
            | closeQueue showId => contradiction
            | _ => cases closing
      · exact Or.inl (.refl w.db)
  | authorize userId showId tierId idempotencyKey stripeCustomerId =>
      exact Or.inl ((authorize_quiet w ctx userId showId tierId idempotencyKey stripeCustomerId).spares)
  | joinPaid userId args attemptId =>
      refine Or.inl ?_
      simp only [World.step, World.started, World.joinPaid]
      split
      · exact .refl w.db
      · split
        · exact .refl w.db
        · split
          · exact .refl w.db
          · split <;> exact .refl w.db
  | saveAccount creatorId account => exact Or.inl (Mutation.adds ctx w.db _ rfl)
  | runJob time job =>
      simp only [World.step, World.started]
      split
      · rename_i due
        cases job with
        | closeQueue showId => exact Or.inr (Or.inr ⟨time, showId, rfl, due.1, due.2, rfl⟩)
        | _ => exact Or.inl (runJob_adds _ ctx _ fun _ same => by cases same)
      · exact Or.inl (.refl w.db)
  | runDue => exact Or.inl (Mutation.adds ctx w.db _ rfl)
  | sweepRefunds now =>
      refine Or.inl (scheduleAll_quiet ctx w ?_).spares
      intro job member
      obtain ⟨id, _, rfl⟩ := List.mem_map.mp member
      trivial
  | sweepCaptures now =>
      refine Or.inl (scheduleAll_quiet ctx w ?_).spares
      intro job member
      obtain ⟨id, _, rfl⟩ := List.mem_map.mp member
      trivial
  | sweepTransfers now =>
      refine Or.inl (scheduleAll_quiet ctx w ?_).spares
      intro job member
      obtain ⟨id, _, rfl⟩ := List.mem_map.mp member
      trivial
  | advance flight outcome status =>
      simp only [World.step, World.started]
      split
      · exact Or.inl (advance_quiet (w.land flight) ctx outcome status flight).spares
      · exact Or.inl (.refl w.db)
  | stripe op => exact Or.inl (.refl w.db)
  | deliver eventId =>
      simp only [World.step, World.started]
      split
      · exact Or.inl (Mutation.adds ctx w.db _ rfl)
      · exact Or.inl (.refl w.db)

/-- A step that attends to no call in progress leaves presence alone and
schedules plain jobs only. -/
theorem step_attends (w : World) (input : Ctx × Op) :
    Quiet (w.started input) (w.step input).db ∨
      ∃ m, m.attends = true ∧ input.2.mutation w input.1 = some m ∧
        (w.step input).db = m.apply input.1 (w.started input) := by
  obtain ⟨ctx, op⟩ := input
  cases op with
  | request m =>
      simp only [World.step, World.started, Op.mutation]
      split
      · cases attends : m.attends with
        | true => exact Or.inr ⟨m, attends, rfl, rfl⟩
        | false => exact Or.inl (Mutation.quiet ctx w.db m attends)
      · exact Or.inl (.refl w.db)
  | authorize userId showId tierId idempotencyKey stripeCustomerId =>
      exact Or.inl (authorize_quiet w ctx userId showId tierId idempotencyKey stripeCustomerId)
  | joinPaid userId args attemptId =>
      refine Or.inl ?_
      simp only [World.step, World.started, World.joinPaid]
      split
      · exact .refl w.db
      · split
        · exact .refl w.db
        · split
          · exact .refl w.db
          · split <;> exact .refl w.db
  | saveAccount creatorId account => exact Or.inl (mutate_quiet w ctx _ (by rfl))
  | runJob time job =>
      simp only [World.step, World.started, Op.mutation]
      let taken : World :=
        { w with db := { w.db with scheduled := w.db.scheduled.erase (time, job) } }
      split
      · cases begins : job.begins with
        | none =>
            refine Or.inl (runJob_quiet taken ctx job ?_)
            intro m begun
            rw [begins] at begun
            cases begun
        | some m =>
            cases attends : m.attends with
            | true =>
                refine Or.inr ⟨m, attends, rfl, ?_⟩
                cases job with
                | runRefund refundId =>
                    cases begins
                    cases attends
                | transfer itemId =>
                    cases begins
                    cases attends
                | cancelIntent attemptId reason => cases begins
                | capture callId tries => cases begins
                | purgeSignals callId => cases begins
                | reconcileAccount accountId => cases begins
                | _ =>
                    cases begins
                    rfl
            | false =>
                refine Or.inl (runJob_quiet taken ctx job ?_)
                intro other begun
                rw [begins] at begun
                exact Option.some.inj begun ▸ attends
      · exact Or.inl (.refl w.db)
  | runDue => exact Or.inl (mutate_quiet w ctx _ (by rfl))
  | sweepRefunds now =>
      refine Or.inl (scheduleAll_quiet ctx w ?_)
      intro job member
      obtain ⟨id, _, rfl⟩ := List.mem_map.mp member
      trivial
  | sweepCaptures now =>
      refine Or.inl (scheduleAll_quiet ctx w ?_)
      intro job member
      obtain ⟨id, _, rfl⟩ := List.mem_map.mp member
      trivial
  | sweepTransfers now =>
      refine Or.inl (scheduleAll_quiet ctx w ?_)
      intro job member
      obtain ⟨id, _, rfl⟩ := List.mem_map.mp member
      trivial
  | advance flight outcome status =>
      simp only [World.step, World.started]
      split
      · exact Or.inl (advance_quiet (w.land flight) ctx outcome status flight)
      · exact Or.inl (.refl w.db)
  | stripe op => exact Or.inl (.refl w.db)
  | deliver eventId =>
      simp only [World.step, World.started]
      split
      · exact Or.inl (mutate_quiet w ctx _ (by rfl))
      · exact Or.inl (.refl w.db)

end Bling
