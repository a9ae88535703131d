import Bling.WorldSteps

set_option autoImplicit false

namespace Bling

open Library

/-! How attempts, calls and refunds refer to each other, whatever mutations run. -/

/-! ### Attempts -/

def PaymentStatus.used (status : PaymentStatus) : Prop :=
  status ≠ .created ∧ status ≠ .authorized

/-- The fields of an attempt that never change. -/
structure SameTerms (before after : PaymentAttempt) : Prop where
  creatorId : after.creatorId = before.creatorId
  amountCents : after.amountCents = before.amountCents
  currency : after.currency = before.currency
  platformFeeCents : after.platformFeeCents = before.platformFeeCents

theorem SameTerms.refl (attempt : PaymentAttempt) : SameTerms attempt attempt :=
  ⟨rfl, rfl, rfl, rfl⟩

theorem SameTerms.earning {before after : PaymentAttempt} (terms : SameTerms before after) :
    after.earningCents = before.earningCents := by
  simp only [PaymentAttempt.earningCents, terms.amountCents, terms.platformFeeCents]

/-- What a mutation may make of an attempt. -/
inductive AttemptChange (db : DB) (m : Mutation) (id : AttemptId)
    (before after : PaymentAttempt) : Prop
  | same (terms : SameTerms before after) (status : after.status = before.status)
      (intent : after.stripePaymentIntentId = before.stripePaymentIntentId)
  | attached (terms : SameTerms before after) (intentId : StripeId)
      (asked : m = .attachIntent id intentId) (detached : before.stripePaymentIntentId = none)
      (status : after.status = before.status)
      (intent : after.stripePaymentIntentId = some intentId)
  | authorized (terms : SameTerms before after) (asked : m = .markAuthorized id)
      (created : before.status = .created) (status : after.status = .authorized)
      (intent : after.stripePaymentIntentId = before.stripePaymentIntentId)
  | selected (terms : SameTerms before after) (held : before.status = .authorized)
      (asked : ∃ entryId entry, m.removes entryId entry = true) (status : after.status = .capturing)
      (intent : after.stripePaymentIntentId = before.stripePaymentIntentId)
  | captured (terms : SameTerms before after) (asked : m.report db = some (id, .captured))
      (status : after.status = .captured)
      (intent : after.stripePaymentIntentId = before.stripePaymentIntentId)
  | notCaptured (terms : SameTerms before after) (outcome : NotCaptured)
      (asked : m.report db = some (id, .notCaptured outcome))
      (uncaptured : before.status ≠ .captured) (status : after.status = outcome.status)
      (intent : after.stripePaymentIntentId = before.stripePaymentIntentId)

theorem AttemptChange.refl (db : DB) (m : Mutation) (id : AttemptId) (attempt : PaymentAttempt) :
    AttemptChange db m id attempt attempt := .same (.refl attempt) rfl rfl

/-- Only a report makes an attempt captured. -/
theorem AttemptChange.captured_of {db : DB} {m : Mutation} {id : AttemptId}
    {before after : PaymentAttempt} (change : AttemptChange db m id before after)
    (isCaptured : after.status = .captured) :
    before.status = .captured ∨ m.report db = some (id, .captured) := by
  cases change with
  | same terms status intent => exact Or.inl (status.symm.trans isCaptured)
  | attached terms intentId asked detached status intent =>
      exact Or.inl (status.symm.trans isCaptured)
  | captured terms asked status intent => exact Or.inr asked
  | authorized terms asked created status intent => cases status.symm.trans isCaptured
  | selected terms held asked status intent => cases status.symm.trans isCaptured
  | notCaptured terms outcome asked uncaptured status intent =>
      cases outcome <;> cases status.symm.trans isCaptured

/-- Only a report ends an attempt any other way. -/
theorem AttemptChange.notCaptured_of {db : DB} {m : Mutation} {id : AttemptId}
    {before after : PaymentAttempt} (change : AttemptChange db m id before after)
    {outcome : NotCaptured} (isOver : after.status = outcome.status) :
    before.status = outcome.status ∨
      m.report db = some (id, .notCaptured outcome) ∧ before.status ≠ .captured := by
  cases change with
  | same terms status intent => exact Or.inl (status.symm.trans isOver)
  | attached terms intentId asked detached status intent => exact Or.inl (status.symm.trans isOver)
  | captured terms asked status intent => cases outcome <;> cases status.symm.trans isOver
  | authorized terms asked created status intent => cases outcome <;> cases status.symm.trans isOver
  | selected terms held asked status intent => cases outcome <;> cases status.symm.trans isOver
  | notCaptured terms other asked uncaptured status intent =>
      have same : other = outcome := by
        cases other <;> cases outcome <;> first | rfl | cases status.symm.trans isOver
      exact Or.inr ⟨same ▸ asked, uncaptured⟩

/-- The old attempts live on, and a new one starts without an intent. -/
abbrev AttemptsChange (db : DB) (m : Mutation) : Table PaymentAttempt → Table PaymentAttempt → Prop :=
  Table.Follow (AttemptChange db m) fun b => b.status = .created ∧ b.stripePaymentIntentId = none

/-- What no mutation takes back from an attempt. -/
structure Follows (before after : PaymentAttempt) : Prop where
  terms : SameTerms before after
  intent : ∀ id, before.stripePaymentIntentId = some id → after.stripePaymentIntentId = some id
  captured : before.status = .captured → after.status = .captured
  used : before.status.used → after.status.used

theorem Follows.refl (attempt : PaymentAttempt) : Follows attempt attempt :=
  ⟨.refl attempt, fun _ => id, id, id⟩

theorem AttemptChange.follows {db : DB} {m : Mutation} {id : AttemptId}
    {before after : PaymentAttempt} (change : AttemptChange db m id before after) :
    Follows before after := by
  cases change with
  | same terms status intent =>
      refine ⟨terms, fun _ => intent.trans, status.trans, ?_⟩
      rw [status]
      exact fun used => used
  | attached terms intentId asked detached status intent =>
      refine ⟨terms, ?_, status.trans, ?_⟩
      · intro other attached
        rw [detached] at attached
        cases attached
      · rw [status]
        exact fun used => used
  | authorized terms asked created status intent =>
      refine ⟨terms, fun _ => intent.trans, ?_, fun used => absurd created used.1⟩
      intro isCaptured
      rw [created] at isCaptured
      cases isCaptured
  | selected terms held asked status intent =>
      refine ⟨terms, fun _ => intent.trans, ?_, fun used => absurd held used.2⟩
      intro isCaptured
      rw [held] at isCaptured
      cases isCaptured
  | captured terms asked status intent =>
      refine ⟨terms, fun _ => intent.trans, fun _ => status, fun _ => ?_⟩
      rw [status]
      exact ⟨nofun, nofun⟩
  | notCaptured terms outcome asked uncaptured status intent =>
      refine ⟨terms, fun _ => intent.trans, fun is => absurd is uncaptured, fun _ => ?_⟩
      rw [status]
      cases outcome <;> exact ⟨nofun, nofun⟩

abbrev AttemptsFollow : Table PaymentAttempt → Table PaymentAttempt → Prop :=
  Table.Follow (fun _ => Follows) fun b => b.status = .created ∧ b.stripePaymentIntentId = none

/-- The attempts after a selection. -/
theorem openCall_attempts (ctx : Ctx) (db : DB) (showId : ShowId) (hotline : Show)
    (entryId : EntryId) (entry : QueueEntry) (mode : SelectionMode)
    (attempt : Option (AttemptId × PaymentAttempt)) :
    (openCall ctx db showId hotline entryId entry mode attempt).1.paymentAttempts =
      match attempt with
      | none => db.paymentAttempts
      | some (attemptId, _) => db.paymentAttempts.patch attemptId fun a =>
        { a with status := .capturing } := by
  unfold openCall
  cases attempt <;> rfl

/-- The attempts after a join. -/
theorem enqueue_attempts (ctx : Ctx) (db : DB) (viewerId : UserId) (args : JoinArgs)
    (tierId : TierId) (tier : ShowTier) (existing : Option EntryId)
    (attempt : Option AttemptId) :
    (enqueue ctx db viewerId args tierId tier existing attempt).1.paymentAttempts =
      match attempt with
      | none => db.paymentAttempts
      | some attemptId => db.paymentAttempts.patch attemptId fun a =>
        { a with queueEntryId := some (existing.getD db.queueEntries.next) } := rfl

theorem entryAttempt_present {db : DB} {entry : QueueEntry} {attemptId : AttemptId}
    {attempt : PaymentAttempt} (held : entryAttempt db entry = some (attemptId, attempt)) :
    0 < entry.tierPriceCents ∧ entry.paymentAttemptId = some attemptId ∧
      db.paymentAttempts.get attemptId = some attempt := by
  unfold entryAttempt at held
  split at held
  · rename_i paid
    obtain ⟨pointed, points, held⟩ := Option.bind_eq_some_iff.mp held
    obtain ⟨a, present, same⟩ := Option.map_eq_some_iff.mp held
    obtain ⟨rfl, rfl⟩ := Prod.mk.inj same
    exact ⟨paid, points, present⟩
  · cases held

theorem Effect.attempt_changes {ctx : Ctx} {db after : DB} {m : Mutation}
    (effect : Effect ctx db m after) :
    AttemptsChange db m db.paymentAttempts after.paymentAttempts := by
  have captures {attemptId : AttemptId} {capturedAt : Option Time} {method : Option StripeId}
      (asked : m.report db = some (attemptId, .captured)) :
      AttemptsChange db m db.paymentAttempts
        (db.paymentAttempts.patch attemptId (capturedPatch capturedAt method)) :=
    .patch (.refl db m) fun _ _ => .captured ⟨rfl, rfl, rfl, rfl⟩ asked rfl rfl
  cases effect with
  | joined viewerId args tierId tier existing attempt live found offered previous gone held paid
      same =>
      rw [same.paymentAttempts, enqueue_attempts]
      cases attempt with
      | none => exact .refl (.refl db m) _
      | some row => exact .patch (.refl db m) fun _ _ => .same ⟨rfl, rfl, rfl, rfl⟩ rfl rfl
  | selected showId hotline entryId entry mode attempt asked host live idle present inShow waiting
      held paid same =>
      rw [same.paymentAttempts, openCall_attempts]
      cases attempt with
      | none => exact .refl (.refl db m) _
      | some row =>
          obtain ⟨isPaid, _, present⟩ := entryAttempt_present held.symm
          obtain ⟨other, named, authorized⟩ := paid isPaid
          obtain rfl := Option.some.inj named
          refine .patch_row (.refl db m) present ?_
          exact .selected ⟨rfl, rfl, rfl, rfl⟩ authorized ⟨entryId, entry, asked⟩ rfl rfl
  | attemptAdded attempt tierId tier hotline found paid created detached unqueued amount fee
      same =>
      rw [same.paymentAttempts]
      exact .insert (.refl db m) _ ⟨created, detached⟩
  | intentAttached attemptId intentId attempt asked present detached same =>
      rw [same.paymentAttempts]
      dsimp only
      refine .patch_row (.refl db m) present ?_
      exact .attached ⟨rfl, rfl, rfl, rfl⟩ intentId asked detached rfl rfl
  | authorized attemptId attempt asked present created same =>
      rw [same.paymentAttempts]
      dsimp only
      refine .patch_row (.refl db m) present ?_
      exact .authorized ⟨rfl, rfl, rfl, rfl⟩ asked created rfl rfl
  | captureNoted attemptId attempt capturedAt method asked present settled same =>
      rw [same.paymentAttempts]
      exact captures asked
  | callOpened attemptId attempt capturedAt method callId call asked present found pending live
      same =>
      rw [same.paymentAttempts]
      exact captures asked
  | callMissed attemptId attempt capturedAt method callId call asked present found unstarted isOver
      pending same =>
      rw [same.paymentAttempts]
      exact captures asked
  | chargeReturned attemptId attempt capturedAt method callId call asked present found unstarted
      isOver settled same =>
      rw [same.paymentAttempts]
      exact captures asked
  | notCaptured attemptId attempt status failureCode canceledAt calls queueEntries asked present
      uncaptured failed released same =>
      rw [same.paymentAttempts]
      dsimp only
      refine .patch_row (.refl db m) present ?_
      exact .notCaptured ⟨rfl, rfl, rfl, rfl⟩ status asked uncaptured rfl rfl
  | _ =>
      rename_i same
      exact .of_eq (.refl db m) same.paymentAttempts

theorem Effect.attempts {ctx : Ctx} {db after : DB} {m : Mutation}
    (effect : Effect ctx db m after) :
    AttemptsFollow db.paymentAttempts after.paymentAttempts :=
  effect.attempt_changes.mono (fun _ _ _ change => change.follows) fun _ => id

/-! ### Calls -/

/-- A paid call in one of these states has been paid for. -/
def CallStatus.paidFor (status : CallStatus) : Prop :=
  status ∈ [CallStatus.created, .connecting, .live, .ended]

def CallStatus.beforeStart (status : CallStatus) : Prop :=
  status ∈ [CallStatus.paymentPending, .created, .connecting]

/-- What holds of calls and the attempts that pay for them. -/
structure CallsLinked (calls : Table Call) (attempts : Table PaymentAttempt) : Prop where
  attempt : ∀ id call attemptId, calls.get id = some call →
    call.paymentAttemptId = some attemptId →
    ∃ a, attempts.get attemptId = some a ∧ a.status.used ∧
      (call.status.paidFor → a.status = .captured)
  one : ∀ i j a b attemptId, calls.get i = some a → calls.get j = some b →
    a.paymentAttemptId = some attemptId → b.paymentAttemptId = some attemptId → i = j
  unstarted : ∀ id call, calls.get id = some call → call.status.beforeStart →
    call.startedAt = none
  started : ∀ id call, calls.get id = some call → call.status = .live →
    call.startedAt ≠ none

theorem CallsLinked.empty : CallsLinked .empty .empty := by
  refine ⟨?_, ?_, ?_, ?_⟩ <;> intro id <;> intros <;> contradiction

theorem CallsLinked.follow {calls : Table Call} {before after : Table PaymentAttempt}
    (linked : CallsLinked calls before) (follow : AttemptsFollow before after) :
    CallsLinked calls after := by
  refine ⟨?_, linked.one, linked.unstarted, linked.started⟩
  intro id call attemptId found pays
  obtain ⟨a, present, used, paid⟩ := linked.attempt id call attemptId found pays
  obtain ⟨b, kept, follows⟩ := follow.kept attemptId a present
  exact ⟨b, kept, follows.used used, fun opened => follows.captured (paid opened)⟩

/-- A call that moves on stays linked if what pays for it is captured by then. -/
theorem CallsLinked.patch {calls : Table Call} {attempts : Table PaymentAttempt}
    (linked : CallsLinked calls attempts) {callId : CallId} {call : Call} {moved : Call → Call}
    (present : calls.get callId = some call)
    (same : (moved call).paymentAttemptId = call.paymentAttemptId)
    (paid : ∀ attemptId a, call.paymentAttemptId = some attemptId →
      attempts.get attemptId = some a → (moved call).status.paidFor → a.status = .captured)
    (unstarted : (moved call).status.beforeStart → (moved call).startedAt = none)
    (started : (moved call).status = .live → (moved call).startedAt ≠ none) :
    CallsLinked (calls.patch callId moved) attempts := by
  have old : ∀ id c, (calls.patch callId moved).get id = some c →
      (id = callId ∧ c = moved call) ∨ calls.get id = some c := by
    intro id c found
    rw [Table.get_patch] at found
    split at found
    · rename_i here
      rw [here, present] at found
      exact Or.inl ⟨here, (Option.some.inj found).symm⟩
    · exact Or.inr found
  have pointer : ∀ id c, (calls.patch callId moved).get id = some c → ∃ was,
      calls.get id = some was ∧ was.paymentAttemptId = c.paymentAttemptId := by
    intro id c found
    rcases old id c found with ⟨rfl, rfl⟩ | kept
    · exact ⟨call, present, same.symm⟩
    · exact ⟨c, kept, rfl⟩
  refine ⟨?_, ?_, ?_, ?_⟩
  · intro id c attemptId found pays
    rcases old id c found with ⟨rfl, rfl⟩ | kept
    · rw [same] at pays
      obtain ⟨a, held, used, _⟩ := linked.attempt id call attemptId present pays
      exact ⟨a, held, used, paid attemptId a pays held⟩
    · exact linked.attempt id c attemptId kept pays
  · intro i j a b attemptId foundA foundB paysA paysB
    obtain ⟨wasA, presentA, sameA⟩ := pointer i a foundA
    obtain ⟨wasB, presentB, sameB⟩ := pointer j b foundB
    exact linked.one i j wasA wasB attemptId presentA presentB (sameA.trans paysA)
      (sameB.trans paysB)
  · intro id c found
    rcases old id c found with ⟨rfl, rfl⟩ | kept
    · exact unstarted
    · exact linked.unstarted id c kept
  · intro id c found
    rcases old id c found with ⟨rfl, rfl⟩ | kept
    · exact started
    · exact linked.started id c kept

theorem CallsLinked.insert {calls : Table Call} {attempts : Table PaymentAttempt}
    (linked : CallsLinked calls attempts) {call : Call} (unstarted : call.startedAt = none)
    (waits : call.status = .paymentPending ∨ call.paymentAttemptId = none)
    (begins : call.status ≠ .live)
    (paying : ∀ attemptId, call.paymentAttemptId = some attemptId →
      (∃ a, attempts.get attemptId = some a ∧ a.status.used) ∧
      ∀ id c, calls.get id = some c → c.paymentAttemptId ≠ some attemptId) :
    CallsLinked (calls.insert call) attempts := by
  refine ⟨?_, ?_, ?_, ?_⟩
  · intro id c attemptId found pays
    rw [Table.get_insert] at found
    split at found
    · obtain rfl := Option.some.inj found
      obtain ⟨a, held, used⟩ := (paying attemptId pays).1
      refine ⟨a, held, used, ?_⟩
      intro opened
      rcases waits with pending | free
      · rw [pending] at opened
        exact absurd opened (by simp [CallStatus.paidFor])
      · rw [free] at pays
        cases pays
    · exact linked.attempt id c attemptId found pays
  · intro i j a b attemptId foundA foundB paysA paysB
    rw [Table.get_insert] at foundA foundB
    split at foundA <;> split at foundB
    · rename_i first second
      exact first.trans second.symm
    · obtain rfl := Option.some.inj foundA
      exact absurd paysB ((paying attemptId paysA).2 j b foundB)
    · obtain rfl := Option.some.inj foundB
      exact absurd paysA ((paying attemptId paysB).2 i a foundA)
    · exact linked.one i j a b attemptId foundA foundB paysA paysB
  · intro id c found
    rw [Table.get_insert] at found
    split at found
    · obtain rfl := Option.some.inj found
      exact fun _ => unstarted
    · exact linked.unstarted id c found
  · intro id c found
    rw [Table.get_insert] at found
    split at found
    · obtain rfl := Option.some.inj found
      exact fun live => absurd live begins
    · exact linked.started id c found

theorem callForAttempt_present {db : DB} {attemptId : AttemptId} {callId : CallId} {call : Call}
    (found : callForAttempt db attemptId = some (callId, call)) :
    db.calls.get callId = some call ∧ call.paymentAttemptId = some attemptId := by
  obtain ⟨present, matched⟩ := Table.first_some found
  exact ⟨present, by simpa using matched⟩

/-- The call an attempt pays for is the one that is found for it. -/
theorem CallsLinked.found {db : DB} (linked : CallsLinked db.calls db.paymentAttempts)
    {callId : CallId} {call : Call} {attemptId : AttemptId}
    (present : db.calls.get callId = some call) (pays : call.paymentAttemptId = some attemptId) :
    callForAttempt db attemptId = some (callId, call) := by
  refine Table.first_of_unique present (by simp [pays]) ?_
  intro other c located matched
  exact linked.one other callId c call attemptId located present (by simpa using matched) pays

theorem canTransition_target {source target : CallStatus}
    (allowed : canTransition source target = true) :
    (source = .created ∨ source = .connecting ∨ source = .live) ∧
      target ≠ .paymentPending ∧ target ≠ .created ∧
      (target = .connecting → source = .created) := by
  cases source <;> cases target <;> simp_all [canTransition, transitions]

/-- A transition keeps a call linked. -/
theorem CallsLinked.move {calls : Table Call} {attempts : Table PaymentAttempt}
    (linked : CallsLinked calls attempts) (ctx : Ctx) {callId : CallId} {call : Call}
    {target : CallStatus} (present : calls.get callId = some call)
    (allowed : canTransition call.status target = true) :
    CallsLinked (calls.patch callId (transitionPatch ctx target)) attempts := by
  obtain ⟨isOpen, notPending, notCreated, connects⟩ := canTransition_target allowed
  refine linked.patch present rfl ?_ ?_ ?_
  · intro attemptId a pays held _
    obtain ⟨b, found, _, captured⟩ := linked.attempt callId call attemptId present pays
    obtain rfl := Option.some.inj (held.symm.trans found)
    refine captured ?_
    rcases isOpen with status | status | status <;> simp [status, CallStatus.paidFor]
  · intro before
    simp only [transitionPatch, CallStatus.beforeStart, List.mem_cons, List.not_mem_nil,
      or_false] at before ⊢
    rcases before with pending | created | connecting
    · exact absurd pending notPending
    · exact absurd created notCreated
    · subst connecting
      have unstarted := linked.unstarted callId call present
        (by simp [connects rfl, CallStatus.beforeStart])
      simp [unstarted]
  · intro live
    obtain rfl : target = .live := live
    by_cases unstarted : call.startedAt = none
    · simp [transitionPatch, unstarted]
    · simp [transitionPatch, unstarted]

/-- The calls after a selection. -/
theorem openCall_calls (ctx : Ctx) (db : DB) (showId : ShowId) (hotline : Show)
    (entryId : EntryId) (entry : QueueEntry) (mode : SelectionMode)
    (attempt : Option (AttemptId × PaymentAttempt)) :
    (openCall ctx db showId hotline entryId entry mode attempt).1.calls = db.calls.insert
      { creationTime := ctx.now
        showId
        queueEntryId := entryId
        creatorId := hotline.creatorId
        viewerId := entry.viewerId
        status := if 0 < entry.tierPriceCents then .paymentPending else .created
        selectionMode := mode
        callDurationSeconds := entry.callDurationSeconds
        startedAt := none
        endedAt := none
        expiresAt := none
        paymentAttemptId := attempt.map Prod.fst } := by
  unfold openCall
  cases attempt <;> rfl

theorem openCall_entries (ctx : Ctx) (db : DB) (showId : ShowId) (hotline : Show)
    (entryId : EntryId) (entry : QueueEntry) (mode : SelectionMode)
    (attempt : Option (AttemptId × PaymentAttempt)) :
    (openCall ctx db showId hotline entryId entry mode attempt).1.queueEntries =
      db.queueEntries.patch entryId fun e =>
        { e with status := .selected, selectedAt := some ctx.now } := by
  unfold openCall
  cases attempt <;> rfl

theorem openCall_refunds (ctx : Ctx) (db : DB) (showId : ShowId) (hotline : Show)
    (entryId : EntryId) (entry : QueueEntry) (mode : SelectionMode)
    (attempt : Option (AttemptId × PaymentAttempt)) :
    (openCall ctx db showId hotline entryId entry mode attempt).1.paymentRefunds =
      db.paymentRefunds := by
  unfold openCall
  cases attempt <;> rfl

/-- A call that fails stays linked, whatever became of its payment. -/
theorem CallsLinked.fail {calls : Table Call} {attempts : Table PaymentAttempt}
    (linked : CallsLinked calls attempts) (ctx : Ctx) {callId : CallId} {call : Call}
    (present : calls.get callId = some call) :
    CallsLinked (calls.patch callId (failedPatch ctx)) attempts := by
  refine linked.patch present rfl ?_ ?_ ?_
  · intro attemptId a _ _ opened
    exact absurd opened (by simp [failedPatch, CallStatus.paidFor])
  · intro before
    exact absurd before (by simp [failedPatch, CallStatus.beforeStart])
  · intro live
    cases live

theorem Effect.calls {ctx : Ctx} {db after : DB} {m : Mutation} (effect : Effect ctx db m after)
    (linked : CallsLinked db.calls db.paymentAttempts) :
    CallsLinked after.calls after.paymentAttempts := by
  have follow := effect.attempts
  have kept (same : after.calls = db.calls) : CallsLinked after.calls after.paymentAttempts := by
    rw [same]
    exact linked.follow follow
  cases effect with
  | moved callId call target shows present allowed asked isOver same =>
      rw [same.calls]
      exact (linked.follow follow).move ctx present allowed
  | selected showId hotline entryId entry mode attempt asked host live idle present inShow waiting
      held paid same =>
      have follows := linked.follow follow
      rw [same.paymentAttempts, openCall_attempts] at follows ⊢
      rw [same.calls, openCall_calls]
      refine follows.insert rfl ?_ ?_ ?_
      · by_cases isPaid : 0 < entry.tierPriceCents
        · exact Or.inl (if_pos isPaid)
        · refine Or.inr ?_
          rw [held]
          simp only [entryAttempt, if_neg isPaid, Option.map_none]
      · dsimp only
        split <;> exact nofun
      · intro attemptId pays
        obtain ⟨row, named, rfl⟩ := Option.map_eq_some_iff.mp pays
        subst named
        obtain ⟨isPaid, _, found⟩ := entryAttempt_present held.symm
        obtain ⟨other, named, authorized⟩ := paid isPaid
        obtain rfl := Option.some.inj named
        refine ⟨⟨_, Table.get_patch_self found _, nofun, nofun⟩, ?_⟩
        intro id c located uses
        obtain ⟨a, kept, used, _⟩ := linked.attempt id c row.1 located uses
        obtain rfl := Option.some.inj (found.symm.trans kept)
        exact used.2 authorized
  | callOpened attemptId attempt capturedAt method callId call asked present found pending live
      same =>
      obtain ⟨located, pays⟩ := callForAttempt_present found
      rw [same.calls]
      have follows := linked.follow follow
      rw [same.paymentAttempts] at follows ⊢
      dsimp only at follows ⊢
      refine follows.patch located rfl ?_ ?_ ?_
      · intro other a uses held _
        obtain rfl := Option.some.inj (pays.symm.trans uses)
        rw [Table.get_patch_self present] at held
        obtain rfl := Option.some.inj held
        rfl
      · intro _
        exact linked.unstarted callId call located (by simp [pending, CallStatus.beforeStart])
      · intro live
        cases live
  | callMissed attemptId attempt capturedAt method callId call asked present found unstarted isOver
      pending same =>
      rw [same.calls]
      exact (linked.follow follow).fail ctx (callForAttempt_present found).1
  | notCaptured attemptId attempt status failureCode canceledAt calls queueEntries asked present
      uncaptured failed released same =>
      rcases failed with ⟨unchanged, _⟩ | ⟨callId, call, found, pending, patched⟩
      · exact kept (same.calls.trans unchanged)
      · rw [same.calls]
        dsimp only
        rw [patched]
        exact (linked.follow follow).fail ctx (callForAttempt_present found).1
  | _ =>
      rename_i same
      exact kept same.calls

/-! ### Refunds -/

/-- The fields of a refund row that never change. -/
structure SameRequest (before after : PaymentRefund) : Prop where
  paymentAttemptId : after.paymentAttemptId = before.paymentAttemptId
  callId : after.callId = before.callId
  stripePaymentIntentId : after.stripePaymentIntentId = before.stripePaymentIntentId
  amountCents : after.amountCents = before.amountCents
  currency : after.currency = before.currency
  reason : after.reason = before.reason

theorem SameRequest.refl (refund : PaymentRefund) : SameRequest refund refund :=
  ⟨rfl, rfl, rfl, rfl, rfl, rfl⟩

theorem SameRequest.trans {a b c : PaymentRefund} (first : SameRequest a b)
    (second : SameRequest b c) : SameRequest a c :=
  ⟨second.paymentAttemptId.trans first.paymentAttemptId, second.callId.trans first.callId,
    second.stripePaymentIntentId.trans first.stripePaymentIntentId,
    second.amountCents.trans first.amountCents, second.currency.trans first.currency,
    second.reason.trans first.reason⟩

/-- A refund row and the attempt it gives back. -/
def RefundsOf (attempts : Table PaymentAttempt) (refund : PaymentRefund) : Prop :=
  ∃ a, attempts.get refund.paymentAttemptId = some a ∧
    a.stripePaymentIntentId = some refund.stripePaymentIntentId ∧
    (refund.reason ≠ .outsideBling → refund.amountCents = a.amountCents)

theorem RefundsOf.follow {before after : Table PaymentAttempt} {refund : PaymentRefund}
    (of : RefundsOf before refund) (follow : AttemptsFollow before after) :
    RefundsOf after refund := by
  obtain ⟨a, present, intent, full⟩ := of
  obtain ⟨b, kept, follows⟩ := follow.kept refund.paymentAttemptId a present
  exact ⟨b, kept, follows.intent _ intent, fun own => (full own).trans follows.terms.amountCents.symm⟩

theorem RefundsOf.same {attempts : Table PaymentAttempt} {before after : PaymentRefund}
    (of : RefundsOf attempts before) (same : SameRequest before after) :
    RefundsOf attempts after := by
  unfold RefundsOf
  rw [same.paymentAttemptId, same.stripePaymentIntentId, same.reason, same.amountCents]
  exact of

/-- What a mutation may make of a refund row. -/
inductive RefundChange (db : DB) (m : Mutation) (id : RefundId) (before after : PaymentRefund) :
    Prop
  | same (unchanged : after = before)
  | claimed (request : SameRequest before after) (unsettled : before.status.final = false)
      (status : after.status = .processing)
      (named : after.stripeRefundId = before.stripeRefundId)
  | retried (request : SameRequest before after) (processing : before.status = .processing)
      (status : after.status = .retry ∨ after.status = .failed)
      (named : after.stripeRefundId = before.stripeRefundId)
  | recorded (request : SameRequest before after) (stripeRefundId : StripeId)
      (outcome : RefundOutcome) (failureCode : Option String)
      (asked : m = .recordRefund id stripeRefundId outcome failureCode)
      (unsettled : before.status.final = false) (status : after.status = outcome.status)
      (named : after.stripeRefundId = some stripeRefundId)
  | settled (request : SameRequest before after) (event : RefundEvent)
      (asked : m.refundNews db = some event)
      (matched : refundRow db event = some (id, before))
      (newer : ¬ (before.status.final = true ∧ statusFromStripe event.status = .pending))
      (status : after.status = (statusFromStripe event.status).status)
      (named : after.stripeRefundId = some (before.stripeRefundId.getD event.id))

theorem RefundChange.refl (db : DB) (m : Mutation) (id : RefundId) (refund : PaymentRefund) :
    RefundChange db m id refund refund := .same rfl

theorem RefundChange.request {db : DB} {m : Mutation} {id : RefundId} {before after : PaymentRefund}
    (change : RefundChange db m id before after) : SameRequest before after := by
  cases change with
  | same unchanged =>
      rw [unchanged]
      exact .refl before
  | claimed request unsettled status named => exact request
  | retried request processing status named => exact request
  | recorded request stripeRefundId outcome failureCode asked unsettled status named =>
      exact request
  | settled request event asked matched newer status named => exact request

/-- A row keeps the id of Stripe's refund, unless the worker records another. -/
theorem RefundChange.named {db : DB} {m : Mutation} {id : RefundId} {before after : PaymentRefund}
    (change : RefundChange db m id before after) {stripeRefundId : StripeId}
    (named : before.stripeRefundId = some stripeRefundId) :
    after.stripeRefundId = some stripeRefundId ∨
      ∃ other outcome failureCode, m = .recordRefund id other outcome failureCode ∧
        after.stripeRefundId = some other := by
  cases change with
  | same unchanged => exact Or.inl (unchanged ▸ named)
  | claimed request unsettled status kept => exact Or.inl (kept.trans named)
  | retried request processing status kept => exact Or.inl (kept.trans named)
  | recorded request other outcome failureCode asked unsettled status renamed =>
      exact Or.inr ⟨other, outcome, failureCode, asked, renamed⟩
  | settled request event asked matched newer status kept =>
      refine Or.inl (kept.trans ?_)
      rw [named]
      rfl

/-- How a row comes about: Bling asks for a refund, or an event tells of one
made outside Bling. -/
inductive NewRefund (db : DB) (m : Mutation) (refund : PaymentRefund) : Prop
  | requested (own : refund.reason ≠ .outsideBling) (unnamed : refund.stripeRefundId = none)
      (status : refund.status = .requested)
  | found (event : RefundEvent) (asked : m.refundNews db = some event)
      (unmatched : refundRow db event = none) (outside : refund.reason = .outsideBling)
      (named : refund.stripeRefundId = some event.id)
      (status : refund.status = (statusFromStripe event.status).status)

/-- What a mutation does to the refunds: the old rows live on, and a new row
gives back an attempt. -/
abbrev RefundsChange (db : DB) (m : Mutation) (attempts : Table PaymentAttempt) :
    Table PaymentRefund → Table PaymentRefund → Prop :=
  Table.Follow (RefundChange db m) fun refund => RefundsOf attempts refund ∧ NewRefund db m refund

abbrev RefundsFollow (before after : Table PaymentRefund) (attempts : Table PaymentAttempt) : Prop :=
  Table.Follow (fun _ => SameRequest) (RefundsOf attempts) before after

theorem requestRefund_changes {ctx : Ctx} {db : DB} {attemptId : AttemptId}
    {attempt a : PaymentAttempt} {callId : CallId} {reason : RefundReason}
    {attempts : Table PaymentAttempt} (m : Mutation)
    (present : attempts.get attemptId = some a)
    (intent : a.stripePaymentIntentId = attempt.stripePaymentIntentId)
    (amount : a.amountCents = attempt.amountCents) (own : reason ≠ .outsideBling) :
    RefundsChange db m attempts db.paymentRefunds
      (requestRefund ctx db attemptId attempt callId reason).paymentRefunds := by
  rcases requestRefund_cases ctx db attemptId attempt callId reason with
    ⟨unchanged, _⟩ | ⟨intentId, attached, _, _, asked⟩
  · rw [unchanged]
    exact .refl (.refl db m) _
  · rw [asked]
    exact .insert (.refl db m) _
      ⟨⟨a, present, intent.trans attached, fun _ => amount.symm⟩, .requested own rfl rfl⟩

theorem outsideRefund_of {ctx : Ctx} {db : DB} {event : RefundEvent} {refund : PaymentRefund}
    (outside : outsideRefund ctx db event = some refund) :
    ∃ intentId a, event.intentId = some intentId ∧
      attemptForIntent db intentId = some (refund.paymentAttemptId, a) ∧
      refund.stripePaymentIntentId = intentId ∧ refund.reason = .outsideBling ∧
      refund.stripeRefundId = some event.id ∧ refund.status = .pending ∧
      event.amountCents = some refund.amountCents := by
  unfold outsideRefund at outside
  obtain ⟨intentId, named, outside⟩ := Option.bind_eq_some_iff.mp outside
  obtain ⟨⟨attemptId, a⟩, found, outside⟩ := Option.bind_eq_some_iff.mp outside
  obtain ⟨call, _, outside⟩ := Option.bind_eq_some_iff.mp outside
  obtain ⟨amount, told, outside⟩ := Option.bind_eq_some_iff.mp outside
  obtain rfl := Option.some.inj outside
  exact ⟨intentId, a, named, found, rfl, rfl, rfl, rfl, told⟩

theorem settledPatch_same (ctx : Ctx) (event : RefundEvent) (refund r : PaymentRefund) :
    SameRequest r (settledPatch ctx event refund r) := ⟨rfl, rfl, rfl, rfl, rfl, rfl⟩

theorem refundDue_unsettled {now : Time} {refund : PaymentRefund}
    (due : refundDue now refund = true) : refund.status.final = false := by
  unfold refundDue at due
  cases status : refund.status <;> simp [status, RefundStatus.final] at due ⊢

theorem Effect.refund_changes {ctx : Ctx} {db after : DB} {m : Mutation}
    (effect : Effect ctx db m after) :
    RefundsChange db m after.paymentAttempts db.paymentRefunds after.paymentRefunds := by
  cases effect with
  | moved callId call target shows present allowed asked isOver same =>
      rw [same.paymentRefunds, same.paymentAttempts]
      dsimp only
      rcases finishCall_refunds ctx db callId call target with
        ⟨unchanged, _⟩ | ⟨_, _, attemptId, attempt, _, held, requested⟩
      · rw [unchanged]
        exact .refl (.refl db m) _
      · rw [requested]
        refine requestRefund_changes m held rfl rfl ?_
        unfold finishReason
        split <;> nofun
  | selected showId hotline entryId entry mode attempt asked host live idle present inShow waiting
      held paid same => exact .of_eq (.refl db m) (same.paymentRefunds.trans (openCall_refunds ..))
  | callMissed attemptId attempt capturedAt method callId call asked present found unstarted isOver
      pending same =>
      rw [same.paymentRefunds, same.paymentAttempts]
      exact requestRefund_changes m (Table.get_patch_self present _) rfl rfl nofun
  | chargeReturned attemptId attempt capturedAt method callId call asked present found unstarted
      isOver settled same =>
      rw [same.paymentRefunds, same.paymentAttempts]
      exact requestRefund_changes m (Table.get_patch_self present _) rfl rfl nofun
  | refundClaimed refundId refund asked present due same =>
      rw [same.paymentRefunds]
      dsimp only
      exact .patch_row (.refl db m) present
        (.claimed ⟨rfl, rfl, rfl, rfl, rfl, rfl⟩ (refundDue_unsettled due) rfl rfl)
  | refundRetried refundId refund status failureCode nextAttemptAt processedAt present claimed
      again same =>
      rw [same.paymentRefunds]
      dsimp only
      exact .patch_row (.refl db m) present
        (.retried ⟨rfl, rfl, rfl, rfl, rfl, rfl⟩ claimed again rfl)
  | refundRecorded refundId refund stripeRefundId status failureCode asked present unsettled same =>
      rw [same.paymentRefunds]
      dsimp only
      exact .patch_row (.refl db m) present
        (.recorded ⟨rfl, rfl, rfl, rfl, rfl, rfl⟩ stripeRefundId status failureCode asked unsettled
          rfl rfl)
  | refundSettled event refundId refund asked matched present newer same =>
      rw [same.paymentRefunds]
      exact .patch_row (.refl db m) present
        (.settled (settledPatch_same ctx event refund refund) event asked matched newer rfl rfl)
  | refundFound event refund asked unmatched outside same =>
      rw [same.paymentRefunds, same.paymentAttempts]
      obtain ⟨intentId, a, _, found, intent, reason, named, _⟩ := outsideRefund_of outside
      obtain ⟨present, attached⟩ := attemptForIntent_present found
      refine .insert (.refl db m) _ ⟨⟨a, present, attached.trans (congrArg some intent.symm),
        fun own => absurd reason own⟩, ?_⟩
      refine .found event asked unmatched reason ?_ rfl
      simp only [settledPatch, named, Option.getD_some]
  | _ =>
      rename_i same
      exact .of_eq (.refl db m) same.paymentRefunds

theorem Effect.refunds {ctx : Ctx} {db after : DB} {m : Mutation}
    (effect : Effect ctx db m after) :
    RefundsFollow db.paymentRefunds after.paymentRefunds after.paymentAttempts :=
  effect.refund_changes.mono (fun _ _ _ change => change.request) fun _ => And.left

/-- Every refund row gives back an attempt, and one that Bling asked for gives
back all of it. -/
def RefundsLinked (refunds : Table PaymentRefund) (attempts : Table PaymentAttempt) : Prop :=
  ∀ id refund, refunds.get id = some refund → RefundsOf attempts refund

theorem Effect.refunds_linked {ctx : Ctx} {db after : DB} {m : Mutation}
    (effect : Effect ctx db m after)
    (linked : RefundsLinked db.paymentRefunds db.paymentAttempts) :
    RefundsLinked after.paymentRefunds after.paymentAttempts := by
  intro id refund found
  rcases effect.refunds.origin id refund found with ⟨before, present, same⟩ | ⟨_, of⟩
  · exact ((linked id before present).follow effect.attempts).same same
  · exact of

/-- What holds of every state, whatever mutations have run. -/
structure Linked (db : DB) : Prop where
  calls : CallsLinked db.calls db.paymentAttempts
  refunds : RefundsLinked db.paymentRefunds db.paymentAttempts

theorem Linked.empty : Linked .empty :=
  ⟨.empty, fun _ _ found => absurd found (by simp [DB.empty])⟩

theorem Linked.mutation {db : DB} (linked : Linked db) (ctx : Ctx) (m : Mutation) :
    Linked (m.apply ctx db) :=
  ⟨(m.effect ctx db).calls linked.calls, (m.effect ctx db).refunds_linked linked.refunds⟩

theorem Linked.unscheduled : World.Unscheduled Linked := fun _ _ =>
  ⟨fun linked => ⟨linked.calls, linked.refunds⟩, fun linked => ⟨linked.calls, linked.refunds⟩⟩

theorem Linked.reached {w : World} (reached : World.Reached w) : Linked w.db :=
  World.reached_keeps Linked Linked.unscheduled .empty (fun ctx _ m linked => linked.mutation ctx m)
    reached

end Bling
