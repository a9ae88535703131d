import Bling.Backing
import Bling.Captures
import Bling.Closing
import Bling.Declines
import Bling.QueueHolds
import Bling.Settlements

set_option autoImplicit false

namespace Bling

open Library

/-! Someone is responsible for every hold that has paid for a place in a queue. -/

/-! ### Jobs and actions are not lost -/

theorem started_kept (w : World) (input : Ctx × Op) {row : Time × Job}
    (member : row ∈ w.db.scheduled) : row ∈ (w.started input).scheduled ∨
      input.2 = .runJob row.1 row.2 ∧ row.1 ≤ input.1.now := by
  unfold World.started
  split
  · rename_i time job asked
    split
    · rename_i due
      by_cases here : row = (time, job)
      · rw [here]
        exact Or.inr ⟨asked, due.2⟩
      · exact Or.inl ((List.mem_erase_of_ne here).mpr member)
    · exact Or.inl member
  · exact Or.inl member

/-- A job stays on the list until it runs. -/
theorem step_jobs_kept (w : World) (input : Ctx × Op) {row : Time × Job}
    (member : row ∈ w.db.scheduled) : row ∈ (w.step input).db.scheduled ∨
      input.2 = .runJob row.1 row.2 ∧ row.1 ≤ input.1.now := by
  refine (started_kept w input member).imp_left ?_
  intro waits
  rcases step_adds w input with
    adds | ⟨userId, showId, asked, step⟩ | ⟨time, showId, asked, _, _, step⟩
  · exact adds.mem waits
  · rw [step]
    rcases endShow_adds input.1 w.db userId showId with same | ⟨_, before, _, _, _, adds, ended⟩
    · rw [same]
      exact member
    · rw [ended]
      exact List.mem_append_left _ (adds.mem member)
  · rw [step]
    obtain ⟨adds, _⟩ := closeQueue_adds input.1 (w.started input) showId
    exact closeQueue_scheduled (adds.mem waits)

theorem World.fly_keeps {w : World} {flight other : Flight} (flying : other ∈ w.flights) :
    other ∈ (w.fly flight).flights := List.mem_append_left _ flying

theorem World.advance_keeps (w : World) (ctx : Ctx) (outcome : Outcome)
    (status : StripeRefundStatus) (flight : Flight) {other : Flight}
    (flying : other ∈ w.flights) :
    other ∈ (w.advance ctx outcome status flight).flights := by
  cases flight with
  | creatingIntent attemptId attempt =>
      cases outcome <;> first | exact fly_keeps flying | exact flying
  | verifying userId args attemptId attempt intentId =>
      simp only [advance]
      split
      · split
        · exact fly_keeps flying
        · exact flying
      · exact flying
  | markingAuthorized userId args attemptId => exact fly_keeps (w := w.mutate ctx _) flying
  | capturing callId tries attemptId intentId =>
      simp only [advance]
      cases outcome with
      | answered =>
          dsimp only
          split <;> exact fly_keeps flying
      | lost =>
          rw [(retryCapture_keeps _ ctx callId tries).2]
          exact flying
      | unreachable =>
          rw [(retryCapture_keeps w ctx callId tries).2]
          exact flying
      | rejected => exact fly_keeps flying
  | retrieving attemptId intentId =>
      simp only [advance]
      split <;> first | exact fly_keeps flying | exact flying
  | releasing attemptId intentId =>
      simp only [advance]
      cases outcome with
      | answered =>
          dsimp only
          split
          · exact fly_keeps flying
          · exact flying
      | _ => exact flying
  | canceling attemptId intentId reason =>
      simp only [advance]
      cases outcome with
      | answered =>
          dsimp only
          split <;> exact fly_keeps flying
      | _ => exact fly_keeps flying
  | cancelRefused attemptId intentId =>
      simp only [advance]
      split
      · exact fly_keeps flying
      · exact flying
  | refunding refundId refund =>
      simp only [advance]
      split
      · split <;> exact fly_keeps flying
      · split <;> exact fly_keeps flying
  | transferring itemId item => cases outcome <;> exact fly_keeps flying
  | _ => exact flying

theorem World.runJob_keeps (w : World) (ctx : Ctx) (job : Job) {other : Flight}
    (flying : other ∈ w.flights) : other ∈ (w.runJob ctx job).flights := by
  cases job with
  | cancelIntent attemptId reason =>
      simp only [runJob]
      split
      · exact flying
      · split
        · exact flying
        · split
          · exact flying
          · exact fly_keeps flying
  | capture callId tries =>
      simp only [runJob]
      split
      · exact flying
      · exact fly_keeps flying
  | runRefund refundId =>
      simp only [runJob]
      split
      · exact flying
      · exact fly_keeps (w := w.mutate ctx _) flying
  | transfer itemId =>
      simp only [runJob]
      split
      · exact flying
      · exact fly_keeps (w := w.mutate ctx _) flying
  | _ => exact flying

/-- An action is in flight until it goes on. -/
theorem step_flights_kept (w : World) (input : Ctx × Op) {flight : Flight}
    (flying : flight ∈ w.flights) : flight ∈ (w.step input).flights ∨
      ∃ outcome status, input.2 = .advance flight outcome status := by
  obtain ⟨ctx, op⟩ := input
  have sweeps (jobs : List Job) : flight ∈ (w.scheduleAll ctx jobs).flights := by
    rw [(World.scheduleAll_keeps ctx w jobs).2]
    exact flying
  cases op with
  | request m =>
      simp only [World.step]
      split <;> exact Or.inl flying
  | authorize userId showId tierId idempotencyKey stripeCustomerId =>
      refine Or.inl ?_
      simp only [World.step, World.authorize]
      split
      · exact flying
      · split
        · exact flying
        · split
          · exact flying
          · split
            · exact flying
            · exact World.fly_keeps (w := w.mutate ctx _) flying
  | joinPaid userId args attemptId =>
      refine Or.inl ?_
      simp only [World.step, World.joinPaid]
      split
      · exact flying
      · split
        · exact World.fly_keeps flying
        · split
          · exact flying
          · split
            · exact flying
            · exact World.fly_keeps flying
  | saveAccount creatorId account => exact Or.inl flying
  | runJob time job =>
      refine Or.inl ?_
      simp only [World.step]
      split
      · exact World.runJob_keeps _ ctx job flying
      · exact flying
  | runDue => exact Or.inl flying
  | sweepRefunds now => exact Or.inl (sweeps _)
  | sweepCaptures now => exact Or.inl (sweeps _)
  | sweepTransfers now => exact Or.inl (sweeps _)
  | advance other outcome status =>
      by_cases here : flight = other
      · rw [here]
        exact Or.inr ⟨outcome, status, rfl⟩
      · refine Or.inl ?_
        simp only [World.step]
        split
        · exact World.advance_keeps _ ctx outcome status other
            ((List.mem_erase_of_ne here).mpr flying)
        · exact flying
  | stripe op => exact Or.inl flying
  | deliver eventId =>
      refine Or.inl ?_
      simp only [World.step]
      split <;> exact flying

/-! ### Who takes a hold over -/

def CancelScheduled (db : DB) (attemptId : AttemptId) : Prop :=
  ∃ time reason, (time, .cancelIntent attemptId reason) ∈ db.scheduled

def CaptureScheduled (db : DB) (attemptId : AttemptId) : Prop :=
  ∃ time callId tries call, (time, .capture callId tries) ∈ db.scheduled ∧
    db.calls.get callId = some call ∧ call.paymentAttemptId = some attemptId

theorem scheduleCancel_cancels {ctx : Ctx} {db : DB} {attemptId : AttemptId}
    {attempt : PaymentAttempt} (releasable : attempt.releasable) (reason : CancelReason) :
    CancelScheduled (scheduleCancel ctx db attemptId attempt reason) attemptId := by
  obtain ⟨attached, isOpen⟩ := releasable
  refine ⟨ctx.now + 0, reason, ?_⟩
  unfold scheduleCancel
  rw [if_pos ⟨attached, isOpen⟩]
  exact List.mem_append_right _ (List.mem_singleton_self _)

/-- A caller who leaves has their hold released. -/
theorem leave_releases {ctx : Ctx} {db : DB} {userId : Option UserId} {showId : ShowId}
    {id : EntryId} {entry : QueueEntry} {attemptId : AttemptId} {attempt : PaymentAttempt}
    (present : db.queueEntries.get id = some entry)
    (pays : entry.paymentAttemptId = some attemptId)
    (held : db.paymentAttempts.get attemptId = some attempt) (releasable : attempt.releasable) :
    (commit db (leave ctx db userId showId)).queueEntries.get id = some entry ∨
      CancelScheduled (commit db (leave ctx db userId showId)) attemptId := by
  cases outcome : leave ctx db userId showId with
  | error code => exact Or.inl present
  | ok result =>
      obtain ⟨viewerId, _, outcome⟩ := bind_ok outcome
      split at outcome
      · cases outcome
      · rename_i entryId e found
        split at outcome
        · obtain rfl := Except.ok.inj outcome
          exact Or.inl present
        · split at outcome
          · cases outcome
          · by_cases here : id = entryId
            · have there := (Table.first_row found).1
              rw [here] at present
              obtain rfl := Option.some.inj (present.symm.trans there)
              simp only [pays, held] at outcome
              obtain rfl := Except.ok.inj outcome
              exact Or.inr (scheduleCancel_cancels releasable .callerLeft)
            · refine Or.inl ?_
              have apart : (db.queueEntries.patch entryId fun e =>
                  { e with status := .left, leftAt := some ctx.now }).get id = some entry :=
                (Table.get_patch_of_ne here _ _).trans present
              dsimp only at outcome
              split at outcome
              · obtain rfl := Except.ok.inj outcome
                exact apart
              · split at outcome
                · obtain rfl := Except.ok.inj outcome
                  exact apart
                · obtain rfl := Except.ok.inj outcome
                  unfold scheduleCancel
                  dsimp only [commit]
                  split <;> exact apart

theorem leave_attempts (ctx : Ctx) (db : DB) (userId : Option UserId) (showId : ShowId) :
    (commit db (leave ctx db userId showId)).paymentAttempts = db.paymentAttempts := by
  cases outcome : leave ctx db userId showId with
  | error code => rfl
  | ok result =>
      obtain ⟨viewerId, _, outcome⟩ := bind_ok outcome
      split at outcome
      · cases outcome
      · split at outcome
        · obtain rfl := Except.ok.inj outcome
          rfl
        · split at outcome
          · cases outcome
          · dsimp only at outcome
            split at outcome
            · obtain rfl := Except.ok.inj outcome
              rfl
            · split at outcome
              · obtain rfl := Except.ok.inj outcome
                rfl
              · obtain rfl := Except.ok.inj outcome
                unfold scheduleCancel
                dsimp only [commit]
                split <;> rfl

/-- The mutation opens a call for a caller, with the hold behind their entry. -/
def OpensCall (ctx : Ctx) (db after : DB) : Prop :=
  ∃ showId hotline entryId entry mode, db.queueEntries.get entryId = some entry ∧
    after = (openCall ctx db showId hotline entryId entry mode (entryAttempt db entry)).1

theorem createCall_opens {ctx : Ctx} {db after : DB} {showId : ShowId} {hotline : Show}
    {entryId : EntryId} {entry : QueueEntry} {mode : SelectionMode} {callId : CallId}
    (present : db.queueEntries.get entryId = some entry)
    (outcome : createCall ctx db showId hotline entryId entry mode = .ok (after, callId)) :
    OpensCall ctx db after := by
  unfold createCall at outcome
  dsimp only at outcome
  split at outcome
  · cases outcome
  · exact ⟨showId, hotline, entryId, entry, mode, present,
      (congrArg Prod.fst (Except.ok.inj outcome)).symm⟩

theorem select_opens (ctx : Ctx) (db : DB) (userId : Option UserId) (showId : ShowId)
    (entryId : EntryId) : commit db (select ctx db userId showId entryId) = db ∨
      OpensCall ctx db (commit db (select ctx db userId showId entryId)) := by
  cases outcome : select ctx db userId showId entryId with
  | error code => exact Or.inl rfl
  | ok result =>
      obtain ⟨hotline, _, outcome⟩ := bind_ok outcome
      split at outcome
      · cases outcome
      · rename_i entry present
        split at outcome
        · cases outcome
        · exact Or.inr (createCall_opens present outcome)

theorem selectRandom_opens (ctx : Ctx) (db : DB) (userId : Option UserId) (showId : ShowId)
    (pivot : Time) : commit db (selectRandom ctx db userId showId pivot) = db ∨
      OpensCall ctx db (commit db (selectRandom ctx db userId showId pivot)) := by
  cases outcome : selectRandom ctx db userId showId pivot with
  | error code => exact Or.inl rfl
  | ok result =>
      obtain ⟨hotline, _, outcome⟩ := bind_ok outcome
      split at outcome
      · cases outcome
      · rename_i entryId entry chosen
        obtain ⟨rank, _, found⟩ := List.exists_of_findSome?_eq_some chosen
        exact Or.inr (createCall_opens (chooseAt_waiting found).1 outcome)

/-- The capture of the hold a call is opened with is scheduled. -/
theorem openCall_captures (ctx : Ctx) (db : DB) (showId : ShowId) (hotline : Show)
    (entryId : EntryId) (entry : QueueEntry) (mode : SelectionMode) (attemptId : AttemptId)
    (attempt : PaymentAttempt) : CaptureScheduled
      (openCall ctx db showId hotline entryId entry mode (some (attemptId, attempt))).1
        attemptId := by
  refine ⟨ctx.now + 0, db.calls.next, 0, _, List.mem_append_right _ (List.mem_singleton_self _),
    Table.get_insert_next _ _, rfl⟩

/-- A caller who waits is called, or goes on waiting. -/
theorem OpensCall.captures {ctx : Ctx} {db after : DB} (opens : OpensCall ctx db after)
    {id : EntryId} {entry : QueueEntry} {attemptId : AttemptId} {attempt : PaymentAttempt}
    (present : db.queueEntries.get id = some entry) (priced : 0 < entry.tierPriceCents)
    (pays : entry.paymentAttemptId = some attemptId)
    (held : db.paymentAttempts.get attemptId = some attempt) :
    after.queueEntries.get id = some entry ∨
      ∃ b, after.paymentAttempts.get attemptId = some b ∧ b.status = .capturing := by
  obtain ⟨showId, hotline, entryId, e, mode, there, rfl⟩ := opens
  by_cases here : id = entryId
  · rw [here] at present
    obtain rfl := Option.some.inj (present.symm.trans there)
    have hold : entryAttempt db entry = some (attemptId, attempt) := by
      simp [entryAttempt, priced, pays, held]
    rw [hold, openCall_attempts]
    exact Or.inr ⟨_, Table.get_patch_self held _, rfl⟩
  · rw [openCall_entries]
    exact Or.inl ((Table.get_patch_of_ne here _ _).trans present)

/-- An attempt that begins to be captured has its capture scheduled. -/
theorem OpensCall.begins {ctx : Ctx} {db after : DB} (opens : OpensCall ctx db after)
    {attemptId : AttemptId} {a b : PaymentAttempt}
    (present : db.paymentAttempts.get attemptId = some a) (authorized : a.status = .authorized)
    (found : after.paymentAttempts.get attemptId = some b) (capturing : b.status = .capturing) :
    CaptureScheduled after attemptId := by
  have changed : b ≠ a := by
    rintro rfl
    rw [authorized] at capturing
    cases capturing
  obtain ⟨showId, hotline, entryId, entry, mode, _, rfl⟩ := opens
  rw [openCall_attempts] at found
  cases hold : entryAttempt db entry with
  | none =>
      rw [hold] at found
      exact absurd (Option.some.inj (found.symm.trans present)) changed
  | some row =>
      rw [hold] at found
      by_cases here : attemptId = row.1
      · rw [here]
        exact openCall_captures ..
      · dsimp only at found
        rw [Table.get_patch_of_ne here] at found
        exact absurd (Option.some.inj (found.symm.trans present)) changed

/-! ### The steps that take a hold over -/

/-- A public mutation runs because a client has asked for it. -/
theorem Op.mutation_public {w : World} {ctx : Ctx} {op : Op} {m : Mutation}
    (ran : op.mutation w ctx = some m) (isPublic : m.isPublic = true) : op = .request m := by
  cases op with
  | request other =>
      simp only [Op.mutation, Option.ite_none_right_eq_some, Option.some.injEq] at ran
      rw [ran.2]
  | authorize userId showId tierId idempotencyKey stripeCustomerId =>
      simp only [Op.mutation, Option.ite_none_left_eq_some, Option.some.injEq] at ran
      rw [← ran.2] at isPublic
      cases isPublic
  | runJob time job =>
      simp only [Op.mutation, Option.ite_none_right_eq_some] at ran
      obtain ⟨_, begins⟩ := ran
      cases job <;> simp only [Job.begins, Job.mutation, reduceCtorEq, Option.some.injEq] at begins
        <;> rw [← begins] at isPublic <;> cases isPublic
  | advance flight outcome status =>
      simp only [Op.mutation, Option.ite_none_right_eq_some] at ran
      obtain ⟨_, ends⟩ := ran
      cases flight <;> simp only [Flight.mutation, reduceCtorEq, Option.some.injEq] at ends
        <;> rw [← ends] at isPublic <;> cases isPublic
  | deliver eventId =>
      obtain ⟨_, _, rfl⟩ := Option.map_eq_some_iff.mp ran
      cases isPublic
  | saveAccount creatorId account =>
      obtain rfl := Option.some.inj ran
      cases isPublic
  | runDue =>
      obtain rfl := Option.some.inj ran
      cases isPublic
  | joinPaid userId args attemptId => cases ran
  | sweepRefunds now => cases ran
  | sweepCaptures now => cases ran
  | sweepTransfers now => cases ran
  | stripe op => cases ran

/-- The database after a client's request. -/
theorem step_public {w : World} {input : Ctx × Op} {m : Mutation}
    (ran : input.2.mutation w input.1 = some m) (isPublic : m.isPublic = true) :
    (w.step input).db = m.apply input.1 w.db := by
  obtain ⟨ctx, op⟩ := input
  obtain rfl := Op.mutation_public ran isPublic
  simp only [World.step, isPublic, if_true, World.mutate]

/-- The database after a batch of a show's closing. -/
theorem step_closes {w : World} {input : Ctx × Op} {showId : ShowId}
    (ran : input.2.mutation w input.1 = some (.closeQueue showId)) :
    (w.step input).db = closeQueue input.1 (w.started input) showId := by
  obtain ⟨time, asked, member, due⟩ := Op.mutation_closeQueue ran
  refine runsBatch_step ?_
  simp [runsBatch, asked, isClosing, member, due]

theorem closeQueue_attempts (ctx : Ctx) (db : DB) (showId : ShowId) :
    (closeQueue ctx db showId).paymentAttempts = db.paymentAttempts := by
  obtain ⟨_, closed⟩ := closeQueue_adds ctx db showId
  have same := (closeEntries_batched ctx db showId closeBatch).closed.same.paymentAttempts
  rw [closed]
  split
  · exact same
  · exact same

theorem CancelScheduled.closeQueue {ctx : Ctx} {db : DB} {showId : ShowId} {attemptId : AttemptId}
    (released : ReleaseScheduled ctx (closeEntries ctx db showId closeBatch).1 attemptId) :
    CancelScheduled (closeQueue ctx db showId) attemptId :=
  ⟨_, _, closeQueue_scheduled released⟩

/-- A caller who waits on a hold goes on waiting, unless it is to be released or
captured. -/
theorem step_waits {w : World} (reached : World.Reached w) (sound : EntriesSound w.db)
    {input : Ctx × Op} (spared : Spares w input) {id : EntryId} {entry : QueueEntry}
    {attemptId : AttemptId} {attempt : PaymentAttempt}
    (found : w.db.queueEntries.get id = some entry) (waiting : entry.status = .waiting)
    (pays : entry.paymentAttemptId = some attemptId)
    (held : w.db.paymentAttempts.get attemptId = some attempt)
    (authorized : attempt.status = .authorized)
    (unreported : ∀ m status, input.2.mutation w input.1 = some m →
      m.report w.db ≠ some (attemptId, .notCaptured status)) :
    (w.step input).db.queueEntries.get id = some entry ∨
      CancelScheduled (w.step input).db attemptId ∨
      ∃ b, (w.step input).db.paymentAttempts.get attemptId = some b ∧ b.status = .capturing := by
  obtain ⟨intentId, attached⟩ := (IntentsSound.reached reached).attached attemptId attempt held
    (by rw [authorized]; decide)
  have releasable : attempt.releasable := ⟨by rw [attached]; rfl, Or.inr authorized⟩
  have priced : 0 < entry.tierPriceCents := by
    by_contra free
    rw [sound.free id entry found free] at pays
    cases pays
  have kept (stays : ∀ m, input.2.mutation w input.1 = some m → m.removes id entry = false) :
      (w.step input).db.queueEntries.get id = some entry := by
    refine waiting_step sound spared found waiting ?_
    intro m ran
    have other := unreported m
    simp only [leavesAlone, stays m ran, Bool.not_false, Bool.true_and]
    split
    · rename_i reported status asked
      rw [bne_iff_ne]
      intro same
      rw [pays] at same
      obtain rfl := Option.some.inj same
      exact other status ran asked
    · rfl
  cases ran : input.2.mutation w input.1 with
  | none =>
      refine Or.inl (kept ?_)
      intro m also
      rw [ran] at also
      cases also
  | some m =>
      by_cases removes : m.removes id entry = true
      · cases m with
        | leave userId showId =>
            rw [step_public ran rfl]
            exact (leave_releases found pays held releasable).imp_right Or.inl
        | select userId showId entryId =>
            rw [step_public ran rfl]
            rcases select_opens input.1 w.db userId showId entryId with same | opens
            · refine Or.inl ?_
              change (commit w.db _).queueEntries.get id = some entry
              rw [same]
              exact found
            · exact (opens.captures found priced pays held).imp_right Or.inr
        | selectRandom userId showId pivot =>
            rw [step_public ran rfl]
            rcases selectRandom_opens input.1 w.db userId showId pivot with same | opens
            · refine Or.inl ?_
              change (commit w.db _).queueEntries.get id = some entry
              rw [same]
              exact found
            · exact (opens.captures found priced pays held).imp_right Or.inr
        | closeQueue showId =>
            obtain ⟨jobs, unscheduled⟩ := World.started_same w input
            have batched := closeEntries_batched input.1 (w.started input) showId closeBatch
            rw [step_closes ran, closeQueue_entries]
            by_cases still : (closeEntries input.1 (w.started input) showId
                closeBatch).1.queueEntries.get id = some entry
            · exact Or.inl still
            · refine Or.inr (Or.inl (.closeQueue ?_))
              refine batched.released id entry attemptId attempt ?_ waiting still pays ?_ releasable
              · rw [unscheduled]
                exact found
              · rw [unscheduled]
                exact held
        | _ => cases removes
      · refine Or.inl (kept ?_)
        intro other also
        obtain rfl := Option.some.inj (ran.symm.trans also)
        exact Bool.not_eq_true _ |>.mp removes

/-- An attempt that begins to be captured has its capture scheduled by that step. -/
theorem step_begins {w : World} {input : Ctx × Op} {attemptId : AttemptId} {a b : PaymentAttempt}
    (present : w.db.paymentAttempts.get attemptId = some a) (authorized : a.status = .authorized)
    (found : (w.step input).db.paymentAttempts.get attemptId = some b)
    (capturing : b.status = .capturing) : CaptureScheduled (w.step input).db attemptId := by
  have changed : b ≠ a := by
    rintro rfl
    rw [authorized] at capturing
    cases capturing
  rcases step_attempt found with ⟨created, _⟩ | ⟨other, located, rfl | ⟨m, ran, change⟩⟩
  · rw [capturing] at created
    cases created
  · exact absurd (Option.some.inj (located.symm.trans present)) changed
  · obtain rfl := Option.some.inj (present.symm.trans located)
    have asked : ∃ entryId entry, m.removes entryId entry = true := by
      cases change with
      | same terms status intent => cases (capturing.symm.trans status).trans authorized
      | attached terms intentId asked detached status intent =>
          cases (capturing.symm.trans status).trans authorized
      | authorized terms asked created status intent => cases capturing.symm.trans status
      | selected terms held asked status intent => exact asked
      | captured terms asked status intent => cases capturing.symm.trans status
      | notCaptured terms outcome asked uncaptured status intent =>
          cases outcome <;> cases capturing.symm.trans status
    obtain ⟨entryId, entry, removes⟩ := asked
    cases m with
    | leave userId showId =>
        rw [step_public ran rfl] at found
        have same := leave_attempts input.1 w.db userId showId
        change (commit w.db _).paymentAttempts.get attemptId = some b at found
        rw [same, present] at found
        exact absurd (Option.some.inj found).symm changed
    | select userId showId entryId =>
        rw [step_public ran rfl] at found ⊢
        rcases select_opens input.1 w.db userId showId entryId with same | opens
        · change (commit w.db _).paymentAttempts.get attemptId = some b at found
          rw [same, present] at found
          exact absurd (Option.some.inj found).symm changed
        · exact opens.begins present authorized found capturing
    | selectRandom userId showId pivot =>
        rw [step_public ran rfl] at found ⊢
        rcases selectRandom_opens input.1 w.db userId showId pivot with same | opens
        · change (commit w.db _).paymentAttempts.get attemptId = some b at found
          rw [same, present] at found
          exact absurd (Option.some.inj found).symm changed
        · exact opens.begins present authorized found capturing
    | closeQueue showId =>
        obtain ⟨jobs, unscheduled⟩ := World.started_same w input
        rw [step_closes ran, closeQueue_attempts, unscheduled, present] at found
        exact absurd (Option.some.inj found).symm changed
    | _ => cases removes

/-! ### Attempts that have entered a queue -/

/-- What a mutation does to an attempt that has not been used for an entry: it
leaves it so, or puts its payer in the queue. -/
def Queues (after : DB) (attemptId : AttemptId) (a b : PaymentAttempt) : Prop :=
  a.queueEntryId = none → b.queueEntryId ≠ none → b.status = .authorized ∧
    ∃ id entry, after.queueEntries.get id = some entry ∧ entry.status = .waiting ∧
      entry.paymentAttemptId = some attemptId

theorem Effect.queues {ctx : Ctx} {db after : DB} {m : Mutation} (effect : Effect ctx db m after) :
    Table.Follow (Queues after) (fun b => b.queueEntryId = none) db.paymentAttempts
      after.paymentAttempts := by
  have stays (attemptId : AttemptId) (a : PaymentAttempt) : Queues after attemptId a a :=
    fun none queued => absurd none queued
  have patched {attemptId : AttemptId} {isOver : PaymentAttempt → PaymentAttempt}
      (same : ∀ a, (isOver a).queueEntryId = a.queueEntryId) :
      Table.Follow (Queues after) (fun b => b.queueEntryId = none) db.paymentAttempts
        (db.paymentAttempts.patch attemptId isOver) := by
    refine .patch stays ?_
    intro a _ none queued
    rw [same] at queued
    exact absurd none queued
  cases effect with
  | joined viewerId args tierId tier existing attempt live found offered previous gone held paid
      same =>
      obtain ⟨entryId, entry, _, placed, _, _, _, _, hold, status, _⟩ :=
        enqueue_entries ctx tierId tier (attempt.map Prod.fst) previous
      rw [← same.queueEntries] at placed
      rw [same.paymentAttempts, enqueue_attempts]
      cases attempt with
      | none => exact .refl stays _
      | some row =>
          obtain ⟨present, usable⟩ := held row rfl
          refine .patch_row stays present ?_
          intro _ _
          exact ⟨(usableAttempt_terms usable).2.2.2.2.1, entryId, entry, placed, status, hold⟩
  | selected showId hotline entryId entry mode attempt asked host live idle present inShow waiting
      held paid same =>
      rw [same.paymentAttempts, openCall_attempts]
      cases attempt with
      | none => exact .refl stays _
      | some row => exact patched fun _ => rfl
  | attemptAdded attempt tierId tier hotline found paid created detached unqueued amount fee same =>
      rw [same.paymentAttempts]
      exact .insert stays _ unqueued
  | intentAttached attemptId intentId attempt asked present detached same =>
      rw [same.paymentAttempts]
      dsimp only
      refine patched ?_
      exact fun _ => rfl
  | authorized attemptId attempt asked present created same =>
      rw [same.paymentAttempts]
      dsimp only
      refine patched ?_
      exact fun _ => rfl
  | captureNoted attemptId attempt capturedAt method asked present settled same =>
      rw [same.paymentAttempts]
      dsimp only
      refine patched ?_
      exact fun _ => rfl
  | callOpened attemptId attempt capturedAt method callId call asked present found pending live
      same =>
      rw [same.paymentAttempts]
      dsimp only
      refine patched ?_
      exact fun _ => rfl
  | callMissed attemptId attempt capturedAt method callId call asked present found unstarted isOver
      pending same =>
      rw [same.paymentAttempts]
      dsimp only
      refine patched ?_
      exact fun _ => rfl
  | chargeReturned attemptId attempt capturedAt method callId call asked present found unstarted
      isOver settled same =>
      rw [same.paymentAttempts]
      dsimp only
      refine patched ?_
      exact fun _ => rfl
  | notCaptured attemptId attempt status failureCode canceledAt calls queueEntries asked present
      uncaptured failed released same =>
      rw [same.paymentAttempts]
      dsimp only
      refine patched ?_
      exact fun _ => rfl
  | _ =>
      rename_i same
      exact .of_eq stays same.paymentAttempts

/-- What a step does to an attempt whose payer has entered the queue by then. -/
theorem step_queues {w : World} {input : Ctx × Op} {attemptId : AttemptId} {b : PaymentAttempt}
    (found : (w.step input).db.paymentAttempts.get attemptId = some b)
    (queued : b.queueEntryId ≠ none) :
    ∃ a, w.db.paymentAttempts.get attemptId = some a ∧ (a.queueEntryId ≠ none ∨
      b.status = .authorized ∧ ∃ id entry, (w.step input).db.queueEntries.get id = some entry ∧
        entry.status = .waiting ∧ entry.paymentAttemptId = some attemptId) := by
  rcases World.step_ran w input with ⟨_, later, same⟩ | ⟨m, earlier, later, _, same⟩
  · rw [same] at found
    exact ⟨b, found, Or.inl queued⟩
  · rw [same] at found
    rcases (m.effect input.1 { w.db with scheduled := earlier }).queues.origin attemptId b found with
      ⟨a, present, joins⟩ | ⟨_, none⟩
    · refine ⟨a, present, ?_⟩
      by_cases unused : a.queueEntryId = none
      · rw [same]
        exact Or.inr (joins unused queued)
      · exact Or.inl unused
    · exact absurd none queued

/-- Who has entered the queue has been authorized before. -/
def QueuedBegun (attempts : Table PaymentAttempt) : Prop :=
  ∀ attemptId a, attempts.get attemptId = some a → a.queueEntryId ≠ none → a.status ≠ .created

theorem QueuedBegun.reached {w : World} (reached : World.Reached w) :
    QueuedBegun w.db.paymentAttempts := by
  refine reached.induct (fun w => QueuedBegun w.db.paymentAttempts) ?_ ?_
  · intro attemptId a found
    cases found
  · intro w input begun attemptId b found queued
    obtain ⟨a, present, was | ⟨authorized, _⟩⟩ := step_queues found queued
    · have before := begun attemptId a present was
      obtain ⟨c, there, after⟩ := attempt_begun present before [input]
      obtain rfl := Option.some.inj (found.symm.trans there)
      exact after
    · rw [authorized]
      decide

/-! ### Who is responsible -/

/-- Stripe holds the money no more. -/
def Over (stripe : Stripe) (intentId : StripeId) : Prop :=
  stripe.intentStatus intentId = some .succeeded ∨ stripe.intentStatus intentId = some .canceled

theorem Over.step {w : World} {intentId : StripeId} (isOver : Over w.stripe intentId)
    (input : Ctx × Op) : Over (w.step input).stripe intentId := by
  have follows := step_stripe w input
  exact isOver.imp (follows.intentStatus (Or.inl rfl)) (follows.intentStatus (Or.inr rfl))

/-- Someone waits on an authorized hold, or it is being released. -/
inductive Awaited (w : World) (attemptId : AttemptId) (intentId : StripeId) : Prop
  | waiting (id : EntryId) (entry : QueueEntry) (found : w.db.queueEntries.get id = some entry)
      (waits : entry.status = .waiting) (pays : entry.paymentAttemptId = some attemptId)
  | scheduled (cancels : CancelScheduled w.db attemptId)
  | canceling (reason : CancelReason) (flying : .canceling attemptId intentId reason ∈ w.flights)

/-- A hold that is to be captured is being captured, or released after all. -/
inductive Pursued (w : World) (attemptId : AttemptId) (intentId : StripeId) : Prop
  | scheduled (captures : CaptureScheduled w.db attemptId)
  | capturing (callId : CallId) (tries : Nat) (call : Call)
      (flying : .capturing callId tries attemptId intentId ∈ w.flights)
      (located : w.db.calls.get callId = some call)
      (pays : call.paymentAttemptId = some attemptId)
  | retrieving (flying : .retrieving attemptId intentId ∈ w.flights)
  | releasing (flying : .releasing attemptId intentId ∈ w.flights)

/-- The step is the end of an action that was to capture or release a hold and
has had no answer from Stripe. -/
def abandonsHold (w : World) (input : Ctx × Op) : Bool :=
  match input.2 with
  | .advance flight outcome _ => decide (flight ∈ w.flights) &&
    match flight with
    | .capturing _ tries _ _ =>
      (outcome == .lost || outcome == .unreachable) && !decide (tries + 1 < maxCaptureTries)
    | .retrieving .. => outcome != .answered
    | .releasing .. | .canceling .. => outcome == .unreachable || outcome == .rejected
    | _ => false
  | _ => false

/-- Every hold that has paid for a place in a queue has someone responsible. -/
def HoldsTended (w : World) : Prop :=
  ∀ attemptId a intentId, w.db.paymentAttempts.get attemptId = some a →
    a.stripePaymentIntentId = some intentId → a.queueEntryId ≠ none → ¬ Over w.stripe intentId →
    (a.status = .authorized → Awaited w attemptId intentId) ∧
      (a.status = .capturing → Pursued w attemptId intentId)

theorem cancel_over {stripe : Stripe} {intentId : StripeId} {intent : Intent}
    (present : stripe.intents.get intentId = some intent) :
    Over (stripe.cancel intentId).1 intentId := by
  have status : stripe.intentStatus intentId = some intent.status :=
    Stripe.intentStatus_some.mpr ⟨intent, present, rfl⟩
  by_cases accepted : (stripe.cancel intentId).2 = true
  · exact Or.inr (Stripe.cancel_accepted accepted)
  · unfold Stripe.cancel at accepted ⊢
    rw [status] at accepted ⊢
    cases is : intent.status with
    | requiresPaymentMethod => simp [is] at accepted
    | requiresCapture => simp [is] at accepted
    | succeeded => exact Or.inl (by rw [status, is])
    | canceled => exact Or.inr (by rw [status, is])

theorem cancel_refused {stripe : Stripe} {intentId : StripeId}
    (refused : (stripe.cancel intentId).2 ≠ true) : (stripe.cancel intentId).1 = stripe := by
  unfold Stripe.cancel at refused ⊢
  split
  · rename_i is
    simp [is] at refused
  · rename_i is
    simp [is] at refused
  · rfl

theorem capture_over {stripe : Stripe} {intentId : StripeId}
    (accepted : (stripe.capture intentId).2 = true) : Over (stripe.capture intentId).1 intentId :=
  Or.inl (Stripe.capture_accepted accepted)

/-- The release that is due begins. -/
theorem step_cancels {w : World} {ctx : Ctx} {time : Time} {reason : CancelReason}
    {attemptId : AttemptId} {a : PaymentAttempt} {intentId : StripeId}
    (member : (time, .cancelIntent attemptId reason) ∈ w.db.scheduled) (due : time ≤ ctx.now)
    (present : w.db.paymentAttempts.get attemptId = some a)
    (attached : a.stripePaymentIntentId = some intentId) (authorized : a.status = .authorized) :
    .canceling attemptId intentId reason ∈
      (w.step (ctx, .runJob time (.cancelIntent attemptId reason))).flights := by
  have flies : ¬ (a.status ≠ .created ∧ a.status ≠ .authorized) := fun isOver => isOver.2 authorized
  simp only [World.step, if_pos (And.intro member due), World.runJob, present, attached, if_neg flies]
  exact List.mem_append_right _ (List.mem_singleton_self _)

/-- The capture that is due begins, as long as the call waits for it. -/
theorem step_captures_due {w : World} {ctx : Ctx} {time : Time} {callId : CallId} {tries : Nat}
    {attemptId : AttemptId} {intentId : StripeId}
    (member : (time, .capture callId tries) ∈ w.db.scheduled) (due : time ≤ ctx.now)
    (pending : pendingCapture w.db callId = some (attemptId, intentId)) :
    .capturing callId tries attemptId intentId ∈
      (w.step (ctx, .runJob time (.capture callId tries))).flights := by
  have same (jobs : List (Time × Job)) :
      pendingCapture { w.db with scheduled := jobs } callId = pendingCapture w.db callId := rfl
  simp only [World.step, if_pos (And.intro member due), World.runJob, same, pending]
  exact List.mem_append_right _ (List.mem_singleton_self _)

/-- The call of an attempt that is being captured waits for it. -/
theorem capturing_pending {db : DB} (captures : Captures db) {attemptId : AttemptId}
    {a : PaymentAttempt} {intentId : StripeId}
    (present : db.paymentAttempts.get attemptId = some a)
    (attached : a.stripePaymentIntentId = some intentId) (capturing : a.status = .capturing)
    {callId : CallId} {call : Call} (located : db.calls.get callId = some call)
    (pays : call.paymentAttemptId = some attemptId) :
    pendingCapture db callId = some (attemptId, intentId) := by
  obtain ⟨id, c, there, uses, pending⟩ :=
    captures.paired.capturing attemptId a present capturing
  obtain rfl := captures.linked.calls.one id callId c call attemptId there located uses pays
  obtain rfl := Option.some.inj (there.symm.trans located)
  simp [pendingCapture, located, pending, pays, present, capturing, attached]

/-- A call keeps the attempt it is paid for with. -/
theorem step_call {w : World} {callId : CallId} {call : Call} {attemptId : AttemptId}
    (located : w.db.calls.get callId = some call) (pays : call.paymentAttemptId = some attemptId)
    (input : Ctx × Op) : ∃ next, (w.step input).db.calls.get callId = some next ∧
      next.paymentAttemptId = some attemptId := by
  obtain ⟨next, found, goes⟩ := (step_call_goes w input).kept callId call located
  exact ⟨next, found, goes.pays.trans pays⟩

/-- A report that the money will not come ends the attempt. -/
theorem step_reported {w : World} {input : Ctx × Op} {m : Mutation} {attemptId : AttemptId}
    {a b : PaymentAttempt} {status : NotCaptured} (ran : input.2.mutation w input.1 = some m)
    (asked : m.report w.db = some (attemptId, .notCaptured status))
    (present : w.db.paymentAttempts.get attemptId = some a) (uncaptured : a.status ≠ .captured)
    (found : (w.step input).db.paymentAttempts.get attemptId = some b) :
    b.status = status.status := by
  rcases World.step_ran w input with ⟨idle, _⟩ | ⟨other, earlier, later, also, same⟩
  · rw [idle] at ran
    cases ran
  · obtain rfl := Option.some.inj (also.symm.trans ran)
    have report : other.report { w.db with scheduled := earlier } =
        some (attemptId, .notCaptured status) := by
      rw [Mutation.report_scheduled]
      exact asked
    obtain ⟨failureCode, _, attempts⟩ := Mutation.apply_notCaptured input.1 report present
    rw [recordNotCaptured_eq _ _ _ _ _ _ uncaptured] at attempts
    rw [same] at found
    dsimp only at found attempts
    rw [attempts, Table.get_patch_self present] at found
    rw [← Option.some.inj found]
    rfl

/-- An action in flight goes on only from where it is. -/
theorem step_advanced {w : World} {ctx : Ctx} {flight : Flight} (flying : flight ∈ w.flights)
    (outcome : Outcome) (status : StripeRefundStatus) :
    w.step (ctx, .advance flight outcome status) =
      (w.land flight).advance ctx outcome status flight := by
  simp only [World.step, if_pos flying]

section Step

variable {w : World} {input : Ctx × Op} {attemptId : AttemptId} {a b : PaymentAttempt}
  {intentId : StripeId}

theorem Awaited.step (awaited : Awaited w attemptId intentId) (reached : World.Reached w)
    (sound : EntriesSound w.db) (spared : Spares w input) (goesOn : abandonsHold w input = false)
    (present : w.db.paymentAttempts.get attemptId = some a)
    (attached : a.stripePaymentIntentId = some intentId) (authorized : a.status = .authorized)
    (found : (w.step input).db.paymentAttempts.get attemptId = some b)
    (still : b.status = .authorized) (open_ : ¬ Over (w.step input).stripe intentId) :
    Awaited (w.step input) attemptId intentId := by
  cases awaited with
  | waiting id entry there waits pays =>
      have unreported (m : Mutation) (status : NotCaptured)
          (ran : input.2.mutation w input.1 = some m) :
          m.report w.db ≠ some (attemptId, .notCaptured status) := by
        intro asked
        have isOver := step_reported ran asked present (by rw [authorized]; decide) found
        rw [still] at isOver
        cases status <;> cases isOver
      rcases step_waits reached sound spared there waits pays present authorized unreported with
        kept | cancels | ⟨c, same, capturing⟩
      · exact .waiting id entry kept waits pays
      · exact .scheduled cancels
      · obtain rfl := Option.some.inj (found.symm.trans same)
        rw [still] at capturing
        cases capturing
  | scheduled cancels =>
      obtain ⟨time, reason, member⟩ := cancels
      rcases step_jobs_kept w input member with kept | ⟨asked, due⟩
      · exact .scheduled ⟨time, reason, kept⟩
      · obtain ⟨ctx, op⟩ := input
        obtain rfl : op = .runJob time (.cancelIntent attemptId reason) := asked
        exact .canceling reason (step_cancels member due present attached authorized)
  | canceling reason flying =>
      rcases step_flights_kept w input flying with kept | ⟨outcome, status, asked⟩
      · exact .canceling reason kept
      · obtain ⟨ctx, op⟩ := input
        obtain rfl : op = .advance (.canceling attemptId intentId reason) outcome status := asked
        obtain ⟨intent, made, _⟩ :=
          (IntentsSound.reached reached).owned attemptId a intentId present attached
        rw [step_advanced flying] at open_
        refine absurd ?_ open_
        cases outcome with
        | answered =>
            simp only [World.advance]
            by_cases accepted : (w.stripe.cancel intentId).2 = true
            · simp only [World.land, accepted, if_true]
              exact cancel_over made
            · have isOver := cancel_over made
              rw [cancel_refused accepted] at isOver
              simp only [World.land, accepted, Bool.false_eq_true, if_false]
              exact isOver
        | lost => exact cancel_over made
        | unreachable => simp [abandonsHold, flying] at goesOn
        | rejected => simp [abandonsHold, flying] at goesOn

theorem Pursued.step (pursued : Pursued w attemptId intentId) (reached : World.Reached w)
    (goesOn : abandonsHold w input = false)
    (present : w.db.paymentAttempts.get attemptId = some a)
    (attached : a.stripePaymentIntentId = some intentId) (begun : a.status = .capturing)
    (open_ : ¬ Over (w.step input).stripe intentId) :
    Pursued (w.step input) attemptId intentId := by
  have captures := Captures.reached reached
  obtain ⟨intent, made, _⟩ :=
    (IntentsSound.reached reached).owned attemptId a intentId present attached
  cases pursued with
  | scheduled captured =>
      obtain ⟨time, callId, tries, call, member, located, pays⟩ := captured
      obtain ⟨next, there, uses⟩ := step_call located pays input
      rcases step_jobs_kept w input member with kept | ⟨asked, due⟩
      · exact .scheduled ⟨time, callId, tries, next, kept, there, uses⟩
      · have pending := capturing_pending captures present attached begun located pays
        obtain ⟨ctx, op⟩ := input
        obtain rfl : op = .runJob time (.capture callId tries) := asked
        exact .capturing callId tries next (step_captures_due member due pending) there uses
  | capturing callId tries call flying located pays =>
      obtain ⟨next, there, uses⟩ := step_call located pays input
      rcases step_flights_kept w input flying with kept | ⟨outcome, status, asked⟩
      · exact .capturing callId tries next kept there uses
      · obtain ⟨ctx, op⟩ := input
        obtain rfl : op = .advance (.capturing callId tries attemptId intentId) outcome status :=
          asked
        rw [step_advanced flying] at there open_ ⊢
        cases outcome with
        | answered =>
            simp only [World.advance] at open_ ⊢
            by_cases accepted : (w.stripe.capture intentId).2 = true
            · simp only [World.land, accepted, if_true] at open_
              exact absurd (capture_over accepted) open_
            · simp only [World.land, accepted, Bool.false_eq_true, if_false]
              exact .retrieving (List.mem_append_right _ (List.mem_singleton_self _))
        | rejected => exact .retrieving (List.mem_append_right _ (List.mem_singleton_self _))
        | lost =>
            have again : tries + 1 < maxCaptureTries := by
              by_contra spent
              simp [abandonsHold, flying, spent] at goesOn
            simp only [World.advance, World.retryCapture, if_pos again] at there ⊢
            exact .scheduled ⟨_, callId, tries + 1, next,
              List.mem_append_right _ (List.mem_singleton_self _), there, uses⟩
        | unreachable =>
            have again : tries + 1 < maxCaptureTries := by
              by_contra spent
              simp [abandonsHold, flying, spent] at goesOn
            simp only [World.advance, World.retryCapture, if_pos again] at there ⊢
            exact .scheduled ⟨_, callId, tries + 1, next,
              List.mem_append_right _ (List.mem_singleton_self _), there, uses⟩
  | retrieving flying =>
      rcases step_flights_kept w input flying with kept | ⟨outcome, status, asked⟩
      · exact .retrieving kept
      · obtain ⟨ctx, op⟩ := input
        obtain rfl : op = .advance (.retrieving attemptId intentId) outcome status := asked
        have answered : outcome = .answered := by
          simpa [abandonsHold, flying] using goesOn
        have known : w.stripe.intentStatus intentId = some intent.status :=
          Stripe.intentStatus_some.mpr ⟨intent, made, rfl⟩
        rw [step_advanced flying, answered] at open_ ⊢
        have releases (other : intent.status ≠ .succeeded) (also : intent.status ≠ .canceled) :
            (w.land (.retrieving attemptId intentId)).advance ctx .answered status
              (.retrieving attemptId intentId) =
            (w.land (.retrieving attemptId intentId)).fly (.releasing attemptId intentId) := by
          simp only [World.advance, World.land, known]
        by_cases succeeded : intent.status = .succeeded
        · refine absurd (Or.inl ?_) open_
          simp only [World.advance, World.land, known, succeeded]
          rw [← succeeded]
          exact known
        · by_cases canceled : intent.status = .canceled
          · refine absurd (Or.inr ?_) open_
            simp only [World.advance, World.land, known, canceled]
            rw [← canceled]
            exact known
          · rw [releases succeeded canceled]
            exact .releasing (List.mem_append_right _ (List.mem_singleton_self _))
  | releasing flying =>
      rcases step_flights_kept w input flying with kept | ⟨outcome, status, asked⟩
      · exact .releasing kept
      · obtain ⟨ctx, op⟩ := input
        obtain rfl : op = .advance (.releasing attemptId intentId) outcome status := asked
        rw [step_advanced flying] at open_
        refine absurd ?_ open_
        cases outcome with
        | answered =>
            simp only [World.advance]
            by_cases accepted : (w.stripe.cancel intentId).2 = true
            · simp only [World.land, accepted, if_true]
              exact cancel_over made
            · have isOver := cancel_over made
              rw [cancel_refused accepted] at isOver
              simp only [World.land, accepted, Bool.false_eq_true, if_false]
              exact isOver
        | lost => exact cancel_over made
        | unreachable => simp [abandonsHold, flying] at goesOn
        | rejected => simp [abandonsHold, flying] at goesOn

end Step

theorem HoldsTended.step {w : World} (tended : HoldsTended w) (reached : World.Reached w)
    (sound : EntriesSound w.db) {input : Ctx × Op} (spared : Spares w input)
    (goesOn : abandonsHold w input = false) : HoldsTended (w.step input) := by
  intro attemptId b intentId found attached queued open_
  have before : ¬ Over w.stripe intentId := fun isOver => open_ (isOver.step input)
  obtain ⟨a, present, queuedBefore⟩ := step_queues found queued
  have begun : b.status ≠ .created := (QueuedBegun.reached (reached.step input)) attemptId b found
    queued
  obtain ⟨same, there, had, change⟩ :=
    (IntentsSound.reached reached).settled found attached begun
  obtain rfl := Option.some.inj (present.symm.trans there)
  rcases queuedBefore with was | ⟨authorized, id, entry, placed, waits, pays⟩
  · have wasBegun := QueuedBegun.reached reached attemptId a present was
    have responsible := tended attemptId a intentId present had was before
    refine ⟨?_, ?_⟩
    · intro authorized
      have still : a.status = .authorized := by
        rcases change with same | ⟨m, _, change⟩
        · exact same.symm.trans authorized
        · cases change with
          | same terms status intent => exact status.symm.trans authorized
          | attached terms intentId asked detached status intent =>
              exact status.symm.trans authorized
          | authorized terms asked created status intent => exact absurd created wasBegun
          | selected terms held asked status intent => exact held
          | captured terms asked status intent => cases authorized.symm.trans status
          | notCaptured terms outcome asked uncaptured status intent =>
              cases outcome <;> cases authorized.symm.trans status
      exact (responsible.1 still).step reached sound spared goesOn present had still found
        authorized open_
    · intro capturing
      have either : a.status = .capturing ∨ a.status = .authorized := by
        rcases change with same | ⟨m, _, change⟩
        · exact Or.inl (same.symm.trans capturing)
        · cases change with
          | same terms status intent => exact Or.inl (status.symm.trans capturing)
          | attached terms intentId asked detached status intent =>
              exact Or.inl (status.symm.trans capturing)
          | authorized terms asked created status intent => cases capturing.symm.trans status
          | selected terms held asked status intent => exact Or.inr held
          | captured terms asked status intent => cases capturing.symm.trans status
          | notCaptured terms outcome asked uncaptured status intent =>
              cases outcome <;> cases capturing.symm.trans status
      rcases either with still | authorized
      · exact (responsible.2 still).step reached goesOn present had still open_
      · exact .scheduled (step_begins present authorized found capturing)
  · refine ⟨fun _ => .waiting id entry placed waits pays, ?_⟩
    intro capturing
    rw [authorized] at capturing
    cases capturing

/-! ### Runs -/

/-- No action that captures or releases a hold is scheduled or in flight. -/
structure HoldsSettled (w : World) : Prop where
  jobs : ∀ time job, (time, job) ∈ w.db.scheduled →
    (∀ attemptId reason, job ≠ .cancelIntent attemptId reason) ∧
      ∀ callId tries, job ≠ .capture callId tries
  flights : ∀ flight ∈ w.flights, ∀ attemptId intentId,
    (∀ callId tries, flight ≠ .capturing callId tries attemptId intentId) ∧
      flight ≠ .retrieving attemptId intentId ∧ flight ≠ .releasing attemptId intentId ∧
      ∀ reason, flight ≠ .canceling attemptId intentId reason

theorem HoldsSettled.unpursued {w : World} (settled : HoldsSettled w) {attemptId : AttemptId}
    {intentId : StripeId} : ¬ Pursued w attemptId intentId := by
  intro pursued
  cases pursued with
  | scheduled captures =>
      obtain ⟨time, callId, tries, _, member, _⟩ := captures
      exact (settled.jobs time _ member).2 callId tries rfl
  | capturing callId tries call flying located pays =>
      exact (settled.flights _ flying attemptId intentId).1 callId tries rfl
  | retrieving flying => exact (settled.flights _ flying attemptId intentId).2.1 rfl
  | releasing flying => exact (settled.flights _ flying attemptId intentId).2.2.1 rfl

/-- With nothing left to run, a hold that is awaited has a caller who waits. -/
theorem HoldsSettled.awaited {w : World} (settled : HoldsSettled w) {attemptId : AttemptId}
    {intentId : StripeId} (awaited : Awaited w attemptId intentId) :
    ∃ id entry, w.db.queueEntries.get id = some entry ∧ entry.status = .waiting ∧
      entry.paymentAttemptId = some attemptId := by
  cases awaited with
  | waiting id entry found waits pays => exact ⟨id, entry, found, waits, pays⟩
  | scheduled cancels =>
      obtain ⟨time, reason, member⟩ := cancels
      exact absurd rfl ((settled.jobs time _ member).1 attemptId reason)
  | canceling reason flying =>
      exact absurd rfl ((settled.flights _ flying attemptId intentId).2.2.2 reason)

/-- The show is over, its queue is closed, and every capture and release that
was scheduled has run. -/
structure WoundUp (w : World) (showId : ShowId) : Prop where
  ended : EndedIn w.db.shows showId
  closed : pendingCloses w.db showId = 0
  settled : HoldsSettled w

/-- The step leaves the holds of queued callers in good hands: no report of
another payment's end disturbs an entry or fails an attempt whose money is
held, and no action gives up on a hold. -/
def MindsHolds (w : World) (input : Ctx × Op) : Prop :=
  strandsHold w input = false ∧ Spares w input ∧ abandonsHold w input = false

instance (w : World) (input : Ctx × Op) : Decidable (MindsHolds w input) :=
  inferInstanceAs (Decidable (_ ∧ _ ∧ _))

/-- What is known after a run that minds holds. -/
structure HoldsMinded (w : World) : Prop where
  reached : World.Reached w
  entries : EntriesSound w.db
  failed : FailedReleased w
  tended : HoldsTended w

theorem HoldsMinded.step {w : World} (minded : HoldsMinded w) {input : Ctx × Op}
    (minds : MindsHolds w input) : HoldsMinded (w.step input) where
  reached := minded.reached.step input
  entries := minded.entries.step minded.reached minds.2.1
  failed := minded.failed.step (IntentsSound.reached minded.reached) minds.1
  tended := minded.tended.step minded.reached minded.entries minds.2.1 minds.2.2

theorem HoldsMinded.empty : HoldsMinded World.empty := by
  refine ⟨.refl _ _, ⟨?_, ?_⟩, ?_, ?_⟩
  · intro id entry found
    cases found
  · intro id call found
    cases found
  · intro id a intentId found
    cases found
  · intro attemptId a intentId found
    cases found

/-- Once a show is wound up, no hold that has paid for a place in its queue is
left at Stripe. -/
theorem holds_wound_up (inputs : List (Ctx × Op))
    (guarded : Along World.step MindsHolds World.empty inputs) (showId : ShowId)
    (isOver : WoundUp (run World.step World.empty inputs) showId) (attemptId : AttemptId)
    (a : PaymentAttempt) (intentId : StripeId)
    (found : (run World.step World.empty inputs).db.paymentAttempts.get attemptId = some a)
    (inShow : a.showId = showId) (queued : a.queueEntryId ≠ none)
    (attached : a.stripePaymentIntentId = some intentId) :
    (run World.step World.empty inputs).stripe.intentStatus intentId ≠ some .requiresCapture := by
  have minded : HoldsMinded (run World.step World.empty inputs) :=
    run_keeps HoldsMinded (fun _ _ minded minds => minded.step minds) .empty guarded
  generalize run World.step World.empty inputs = w at *
  intro held
  have intents := IntentsSound.reached minded.reached
  have open_ : ¬ Over w.stripe intentId := by
    rintro (is | is) <;> cases held.symm.trans is
  obtain ⟨awaits, pursues⟩ := minded.tended attemptId a intentId found attached queued open_
  cases status : a.status with
  | created => exact QueuedBegun.reached minded.reached attemptId a found queued status
  | authorized =>
      obtain ⟨id, entry, located, waiting, pays⟩ := isOver.settled.awaited (awaits status)
      obtain ⟨b, there, backs⟩ :=
        (SeatsSound.reached minded.reached).seated.backed id entry attemptId located pays
      obtain rfl := Option.some.inj (found.symm.trans there)
      -- The entry is still there to be closed, and nothing is left to close it.
      have active : id ∈ activeEntries w.db showId :=
        mem_activeEntries.mpr ⟨entry, located, backs.inShow.symm.trans inShow, by simp [waiting,
          activeEntryStatuses]⟩
      have owed := (ChainSound.reached minded.reached showId).owed isOver.ended ⟨id, active⟩
      rw [isOver.closed] at owed
      exact absurd owed (Nat.lt_irrefl 0)
  | capturing => exact isOver.settled.unpursued (pursues status)
  | captured => cases held.symm.trans (intents.captured attemptId a intentId found attached status)
  | canceled => cases held.symm.trans (intents.canceled attemptId a intentId found attached status)
  | failed => exact minded.failed attemptId a intentId found attached status held

theorem HoldsSettled.of_nil {w : World} (jobs : w.db.scheduled = []) (flights : w.flights = []) :
    HoldsSettled w := by
  constructor
  · intro time job member
    rw [jobs] at member
    cases member
  · intro flight member
    rw [flights] at member
    cases member

theorem endedIn_of_any {shows : Table Show} {showId : ShowId}
    (isOver : (shows.get showId).any (·.status == .ended) = true) : EndedIn shows showId := by
  obtain ⟨hotline, found, status⟩ := Option.any_eq_true _ _ |>.mp isOver
  exact ⟨hotline, found, by simpa using status⟩

open World in
/-- The show ends while the caller waits, and the hold is released. -/
def windingUp : List (Ctx × Op) :=
  sampled (preparing ++ confirming ++ waiting ++ [.request (.endShow (some 0) 0),
    .runJob 5 (.closeQueue 0), .runJob 5 (.cancelIntent 0 .showEnded),
    .advance (.canceling 0 0 .showEnded) .answered .pending,
    .advance (.reportingNotCaptured 0 .canceled none) .answered .pending])

set_option maxRecDepth 20000 in
theorem holds_wound_up_waiting :
    (run World.step World.empty windingUp).stripe.intentStatus 0 ≠ some .requiresCapture :=
  holds_wound_up windingUp (by decide) 0
    ⟨endedIn_of_any (by decide), by decide, .of_nil (by decide) (by decide)⟩ 0
    { World.sampleAttempt with
      queueEntryId := some 0
      stripePaymentIntentId := some 0
      status := .canceled
      authorizedAt := some 5
      canceledAt := some 5 } 0 (by decide) rfl (by decide) rfl

/-- No hold is left at Stripe once its show is wound up, whoever put it there. -/
def NoHoldOutlivesItsShow : Prop :=
  ∀ (inputs : List (Ctx × Op)) (showId : ShowId),
    Along World.step (fun w input => abandonsHold w input = false) World.empty inputs →
    WoundUp (run World.step World.empty inputs) showId → ∀ attemptId a intentId,
    (run World.step World.empty inputs).db.paymentAttempts.get attemptId = some a →
    a.showId = showId → a.stripePaymentIntentId = some intentId →
    (run World.step World.empty inputs).stripe.intentStatus intentId ≠ some .requiresCapture

open World in
/-- The caller confirms the payment, and the show ends before they join. -/
def neverJoined : List (Ctx × Op) :=
  sampled (preparing ++ confirming ++ [.request (.endShow (some 0) 0), .runJob 5 (.closeQueue 0)])

set_option maxRecDepth 20000 in
theorem hold_outlives_show : ¬ NoHoldOutlivesItsShow := by
  intro never
  exact never neverJoined 0 (by decide)
    ⟨endedIn_of_any (by decide), by decide, .of_nil (by decide) (by decide)⟩ 0
    { World.sampleAttempt with stripePaymentIntentId := some 0 } 0 (by decide) rfl rfl (by decide)

end Bling
