import Bling.Intents
import Bling.Lifecycle

set_option autoImplicit false

namespace Bling

open Library

/-! A call that waits for its payment and the attempt that is being captured
for it come and go together. -/

structure CapturesPaired (calls : Table Call) (attempts : Table PaymentAttempt) : Prop where
  pending : ∀ id call, calls.get id = some call → call.status = .paymentPending →
    ∃ attemptId a, call.paymentAttemptId = some attemptId ∧ attempts.get attemptId = some a ∧
      a.status = .capturing
  capturing : ∀ attemptId a, attempts.get attemptId = some a → a.status = .capturing →
    ∃ id call, calls.get id = some call ∧ call.paymentAttemptId = some attemptId ∧
      call.status = .paymentPending

section Tables

variable {calls : Table Call} {attempts after : Table PaymentAttempt}

theorem CapturesPaired.empty : CapturesPaired .empty .empty := by
  constructor
  · intro id call found
    cases found
  · intro attemptId a found
    cases found

/-- An attempt that changes goes on capturing, or goes on not capturing. -/
def SameCapture (before after : PaymentAttempt) : Prop :=
  after.status = .capturing ↔ before.status = .capturing

theorem CapturesPaired.follow (paired : CapturesPaired calls attempts)
    (follow : Table.Follow (fun _ => SameCapture) (fun a => a.status ≠ .capturing) attempts after) :
    CapturesPaired calls after := by
  constructor
  · intro id call found pending
    obtain ⟨attemptId, a, pays, present, capturing⟩ := paired.pending id call found pending
    obtain ⟨b, kept, same⟩ := follow.kept attemptId a present
    exact ⟨attemptId, b, pays, kept, same.mpr capturing⟩
  · intro attemptId b found capturing
    rcases follow.origin attemptId b found with ⟨a, present, same⟩ | ⟨_, starts⟩
    · exact paired.capturing attemptId a present (same.mp capturing)
    · exact absurd capturing starts

/-- A call moves on that waits for no payment. -/
theorem CapturesPaired.patchCall (paired : CapturesPaired calls attempts) {callId : CallId}
    {call : Call} {moved : Call → Call} (present : calls.get callId = some call)
    (paid : call.status ≠ .paymentPending) (still : (moved call).status ≠ .paymentPending) :
    CapturesPaired (calls.patch callId moved) attempts := by
  constructor
  · intro id c found pending
    rcases Table.get_patch_row present found with ⟨_, rfl⟩ | ⟨_, old⟩
    · exact absurd pending still
    · exact paired.pending id c old pending
  · intro attemptId a found capturing
    obtain ⟨id, c, located, pays, pending⟩ := paired.capturing attemptId a found capturing
    refine ⟨id, c, ?_, pays, pending⟩
    rw [Table.get_patch_of_ne]
    · exact located
    · rintro rfl
      rw [present] at located
      exact paid (Option.some.inj located ▸ pending)

/-- The outcome of a payment that no call waits for. -/
theorem CapturesPaired.settle (paired : CapturesPaired calls attempts) {attemptId : AttemptId}
    {attempt : PaymentAttempt} {isOver : PaymentAttempt → PaymentAttempt}
    (present : attempts.get attemptId = some attempt)
    (unpaid : ∀ id call, calls.get id = some call → call.paymentAttemptId = some attemptId →
      call.status ≠ .paymentPending) (settled : (isOver attempt).status ≠ .capturing) :
    CapturesPaired calls (attempts.patch attemptId isOver) := by
  constructor
  · intro id call found pending
    obtain ⟨other, a, pays, located, capturing⟩ := paired.pending id call found pending
    refine ⟨other, a, pays, ?_, capturing⟩
    rw [Table.get_patch_of_ne]
    · exact located
    · rintro rfl
      exact unpaid id call found pays pending
  · intro other a found capturing
    rcases Table.get_patch_row present found with ⟨_, rfl⟩ | ⟨_, old⟩
    · exact absurd capturing settled
    · exact paired.capturing other a old capturing

/-- The outcome of the payment that a call waits for. -/
theorem CapturesPaired.settleCall (paired : CapturesPaired calls attempts)
    (linked : CallsLinked calls attempts) {attemptId : AttemptId} {attempt : PaymentAttempt}
    {isOver : PaymentAttempt → PaymentAttempt} {callId : CallId} {call : Call} {moved : Call → Call}
    (present : attempts.get attemptId = some attempt) (located : calls.get callId = some call)
    (pays : call.paymentAttemptId = some attemptId) (settled : (isOver attempt).status ≠ .capturing)
    (opened : (moved call).status ≠ .paymentPending) :
    CapturesPaired (calls.patch callId moved) (attempts.patch attemptId isOver) := by
  constructor
  · intro id c found pending
    rcases Table.get_patch_row located found with ⟨_, rfl⟩ | ⟨apart, old⟩
    · exact absurd pending opened
    · obtain ⟨other, a, uses, there, capturing⟩ := paired.pending id c old pending
      refine ⟨other, a, uses, ?_, capturing⟩
      rw [Table.get_patch_of_ne]
      · exact there
      · rintro rfl
        exact apart (linked.one id callId c call other old located uses pays)
  · intro other a found capturing
    rcases Table.get_patch_row present found with ⟨_, rfl⟩ | ⟨apart, old⟩
    · exact absurd capturing settled
    · obtain ⟨id, c, there, uses, pending⟩ := paired.capturing other a old capturing
      refine ⟨id, c, ?_, uses, pending⟩
      rw [Table.get_patch_of_ne]
      · exact there
      · rintro rfl
        rw [located] at there
        obtain rfl := Option.some.inj there
        exact apart (Option.some.inj (uses.symm.trans pays))

/-- A free call opens at once. -/
theorem CapturesPaired.openFree (paired : CapturesPaired calls attempts) {call : Call}
    (opened : call.status ≠ .paymentPending) : CapturesPaired (calls.insert call) attempts := by
  constructor
  · intro id c found pending
    rcases Table.get_insert_row found with ⟨_, rfl⟩ | old
    · exact absurd pending opened
    · exact paired.pending id c old pending
  · intro attemptId a found capturing
    obtain ⟨id, c, located, pays, pending⟩ := paired.capturing attemptId a found capturing
    exact ⟨id, c, Table.get_insert_of_some located _, pays, pending⟩

/-- A paid call waits while its hold is captured. -/
theorem CapturesPaired.openPaid (paired : CapturesPaired calls attempts) {attemptId : AttemptId}
    {attempt : PaymentAttempt} {capture : PaymentAttempt → PaymentAttempt} {call : Call}
    (present : attempts.get attemptId = some attempt) (unused : attempt.status ≠ .capturing)
    (begins : (capture attempt).status = .capturing)
    (pays : call.paymentAttemptId = some attemptId) (pending : call.status = .paymentPending) :
    CapturesPaired (calls.insert call) (attempts.patch attemptId capture) := by
  constructor
  · intro id c found isPending
    rcases Table.get_insert_row found with ⟨_, rfl⟩ | old
    · exact ⟨attemptId, capture attempt, pays, Table.get_patch_self present _, begins⟩
    · obtain ⟨other, a, uses, located, capturing⟩ := paired.pending id c old isPending
      refine ⟨other, a, uses, ?_, capturing⟩
      rw [Table.get_patch_of_ne]
      · exact located
      · rintro rfl
        rw [present] at located
        exact unused (Option.some.inj located ▸ capturing)
  · intro other a found capturing
    rcases Table.get_patch_row present found with ⟨rfl, _⟩ | ⟨_, old⟩
    · exact ⟨calls.next, call, Table.get_insert_next _ _, pays, pending⟩
    · obtain ⟨id, c, located, uses, isPending⟩ := paired.capturing other a old capturing
      exact ⟨id, c, Table.get_insert_of_some located _, uses, isPending⟩

end Tables

theorem CapturesPaired.effect {ctx : Ctx} {db after : DB} {m : Mutation}
    (paired : CapturesPaired db.calls db.paymentAttempts)
    (linked : CallsLinked db.calls db.paymentAttempts) (effect : Effect ctx db m after) :
    CapturesPaired after.calls after.paymentAttempts := by
  have stays (_ : AttemptId) (a : PaymentAttempt) : SameCapture a a := Iff.rfl
  -- A call that waits for the attempt's payment would be the one that is found.
  have only {attemptId : AttemptId} {callId : CallId} {call : Call}
      (found : callForAttempt db attemptId = some (callId, call))
      (settled : call.status ≠ .paymentPending) (id : CallId) (c : Call)
      (located : db.calls.get id = some c) (pays : c.paymentAttemptId = some attemptId) :
      c.status ≠ .paymentPending := by
    have same := linked.found located pays
    obtain ⟨_, rfl⟩ := Prod.mk.inj (Option.some.inj (found.symm.trans same))
    exact settled
  cases effect with
  | moved callId call target shows present allowed asked isOver same =>
      obtain ⟨isOpen, notPending, _, _⟩ := canTransition_target allowed
      rw [same.calls, same.paymentAttempts]
      dsimp only
      refine paired.patchCall present ?_ notPending
      rcases isOpen with is | is | is <;> rw [is] <;> decide
  | joined viewerId args tierId tier existing attempt live found offered previous gone held paid
      same =>
      rw [same.calls, same.paymentAttempts, enqueue_attempts]
      refine paired.follow ?_
      cases attempt with
      | none => exact .refl stays _
      | some row =>
          refine .patch stays ?_
          exact fun _ _ => Iff.rfl
  | selected showId hotline entryId entry mode attempt asked host live idle present inShow waiting
      held paid same =>
      rw [same.calls, openCall_calls, same.paymentAttempts, openCall_attempts]
      cases attempt with
      | none =>
          refine paired.openFree ?_
          have free : ¬ 0 < entry.tierPriceCents := by
            intro priced
            obtain ⟨row, none, _⟩ := paid priced
            cases none
          dsimp only
          rw [if_neg free]
          decide
      | some row =>
          obtain ⟨priced, _, located⟩ := entryAttempt_present held.symm
          obtain ⟨other, named, authorized⟩ := paid priced
          obtain rfl := Option.some.inj named
          refine paired.openPaid located ?_ rfl rfl (if_pos priced)
          rw [authorized]
          decide
  | attemptAdded attempt tierId tier hotline found paid created detached unqueued amount fee same =>
      rw [same.calls, same.paymentAttempts]
      refine paired.follow (.insert stays _ ?_)
      rw [created]
      decide
  | intentAttached attemptId intentId attempt asked present detached same =>
      rw [same.calls, same.paymentAttempts]
      dsimp only
      refine paired.follow (.patch stays ?_)
      exact fun _ _ => Iff.rfl
  | authorized attemptId attempt asked present created same =>
      rw [same.calls, same.paymentAttempts]
      dsimp only
      refine paired.follow (.patch_row stays present ?_)
      simp [SameCapture, created]
  | captureNoted attemptId attempt capturedAt method asked present settled same =>
      rw [same.calls, same.paymentAttempts]
      dsimp only
      refine paired.settle present ?_ (by simp [capturedPatch])
      intro id c located pays pending
      obtain ⟨unopened, continues⟩ := settled id c (linked.found located pays)
      have unstarted := linked.unstarted id c located (by simp [pending, CallStatus.beforeStart])
      by_cases live : showLive db c.showId = true
      · exact unopened ⟨pending, live⟩
      · exact continues ⟨unstarted, live⟩
  | callOpened attemptId attempt capturedAt method callId call asked present found pending live
      same =>
      obtain ⟨located, pays⟩ := callForAttempt_present found
      rw [same.calls, same.paymentAttempts]
      dsimp only
      exact paired.settleCall linked present located pays (by simp [capturedPatch]) (by simp)
  | callMissed attemptId attempt capturedAt method callId call asked present found unstarted isOver
      pending same =>
      obtain ⟨located, pays⟩ := callForAttempt_present found
      rw [same.calls, same.paymentAttempts]
      dsimp only
      exact paired.settleCall linked present located pays (by simp [capturedPatch])
        (by simp [failedPatch])
  | chargeReturned attemptId attempt capturedAt method callId call asked present found unstarted
      isOver settled same =>
      rw [same.calls, same.paymentAttempts]
      dsimp only
      exact paired.settle present (only found settled) (by simp [capturedPatch])
  | notCaptured attemptId attempt status failureCode canceledAt calls queueEntries asked present
      uncaptured failed released same =>
      have isOver : (notCapturedPatch status failureCode canceledAt attempt).status ≠ .capturing := by
        cases status <;> simp [notCapturedPatch, NotCaptured.status]
      rw [same.calls, same.paymentAttempts]
      dsimp only
      rcases failed with ⟨unchanged, settled⟩ | ⟨callId, call, found, pending, patched⟩
      · rw [unchanged]
        refine paired.settle present ?_ isOver
        intro id c located pays
        exact settled id c (linked.found located pays)
      · obtain ⟨located, pays⟩ := callForAttempt_present found
        rw [patched]
        exact paired.settleCall linked present located pays isOver (by simp [failedPatch])
  | _ =>
      rename_i same
      rw [same.calls, same.paymentAttempts]
      exact paired

/-- Calls and attempts are linked, and captures paired. -/
structure Captures (db : DB) : Prop where
  linked : Linked db
  paired : CapturesPaired db.calls db.paymentAttempts

theorem Captures.reached {w : World} (reached : World.Reached w) : Captures w.db := by
  refine World.reached_keeps Captures ?_ ⟨.empty, .empty⟩ ?_ reached
  · intro db jobs
    exact ⟨fun captures => ⟨(Linked.unscheduled db jobs).mp captures.linked, captures.paired⟩,
      fun captures => ⟨(Linked.unscheduled db jobs).mpr captures.linked, captures.paired⟩⟩
  · intro ctx db m captures
    exact ⟨captures.linked.mutation ctx m,
      captures.paired.effect captures.linked.calls (m.effect ctx db)⟩

/-- A call waits for its payment exactly while the attempt that pays for it is being
captured; then the capture can be taken up again, and no other call is paid for by it. -/
structure CaptureHeld (db : DB) (callId : CallId) (call : Call) : Prop where
  paired : call.status = .paymentPending ↔ ∃ attemptId a, call.paymentAttemptId = some attemptId ∧
    db.paymentAttempts.get attemptId = some a ∧ a.status = .capturing
  resumes : call.status = .paymentPending → ∃ attemptId a intentId,
    call.paymentAttemptId = some attemptId ∧ db.paymentAttempts.get attemptId = some a ∧
      a.stripePaymentIntentId = some intentId ∧
      pendingCapture db callId = some (attemptId, intentId)
  alone : ∀ other c attemptId, db.calls.get other = some c →
    call.paymentAttemptId = some attemptId → c.paymentAttemptId = some attemptId → other = callId

/-- In every reachable state each call's capture is held, and no attempt is being
captured without a call that waits for it. -/
theorem captures_held (inputs : List (Ctx × Op)) :
    let db := (run World.step World.empty inputs).db
    (∀ callId call, db.calls.get callId = some call → CaptureHeld db callId call) ∧
      ∀ attemptId a, db.paymentAttempts.get attemptId = some a → a.status = .capturing →
        ∃ callId call, db.calls.get callId = some call ∧
          call.paymentAttemptId = some attemptId ∧ call.status = .paymentPending := by
  intro db
  have reached : World.Reached (run World.step World.empty inputs) := ⟨inputs, rfl⟩
  have captures := Captures.reached reached
  refine ⟨?_, captures.paired.capturing⟩
  intro callId call found
  constructor
  · constructor
    · exact captures.paired.pending callId call found
    · rintro ⟨attemptId, a, pays, present, capturing⟩
      obtain ⟨id, c, located, uses, pending⟩ :=
        captures.paired.capturing attemptId a present capturing
      have same := captures.linked.calls.one id callId c call attemptId located found uses pays
      rw [same, found] at located
      exact Option.some.inj located ▸ pending
  · intro pending
    obtain ⟨attemptId, a, pays, present, capturing⟩ :=
      captures.paired.pending callId call found pending
    obtain ⟨intentId, attached⟩ := (IntentsSound.reached reached).attached attemptId a present
      (by rw [capturing]; decide)
    refine ⟨attemptId, a, intentId, pays, present, attached, ?_⟩
    have sameCall : db.calls.get callId = some call := found
    have sameAttempt : db.paymentAttempts.get attemptId = some a := present
    simp [pendingCapture, sameCall, pending, pays, sameAttempt, capturing, attached]
  · intro other c attemptId located pays uses
    exact captures.linked.calls.one other callId c call attemptId located found uses pays

end Bling
