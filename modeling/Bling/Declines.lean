import Bling.Intents

set_option autoImplicit false

namespace Bling

open Library

/-! A card hold is not stranded, except by a decline: Stripe lets the caller
confirm the same intent again, but Bling takes the attempt to be over. -/

/-- Bling can still queue the caller, capture the hold or release it. -/
def PaymentStatus.actionable (status : PaymentStatus) : Prop :=
  status = .created ∨ status = .authorized ∨ status = .capturing

/-- Every hold at Stripe is one that Bling can act on. -/
def NoHoldStranded (w : World) : Prop :=
  ∀ intentId intent, w.stripe.intents.get intentId = some intent →
    intent.status = .requiresCapture → ∃ attempt,
      w.db.paymentAttempts.get intent.attemptId = some attempt ∧ attempt.status.actionable

/-! ### Where a hold is stranded -/

/-- The mutation reports an attempt as failed whose intent holds the money. -/
def failsHeld (w : World) (m : Mutation) : Bool :=
  match m.report w.db with
  | some (attemptId, .notCaptured .failed) =>
    (w.db.paymentAttempts.get attemptId).any fun a => a.status != .captured &&
      a.stripePaymentIntentId.bind w.stripe.intentStatus == some .requiresCapture
  | _ => false

/-- The caller confirms an intent whose attempt has failed already. -/
def confirmsFailed (w : World) : Op → Bool
  | .stripe (.confirm intentId _ _) =>
    (w.stripe.intents.get intentId).any fun i => i.status == .requiresPaymentMethod &&
      (w.db.paymentAttempts.get i.attemptId).any fun a => a.status == .failed
  | _ => false

def strandsHold (w : World) (input : Ctx × Op) : Bool :=
  (input.2.mutation w input.1).any (failsHeld w) || confirmsFailed w input.2

/-! ### What a step keeps -/

/-- An attempt that has failed holds no money. -/
def FailedReleased (w : World) : Prop :=
  ∀ id a intentId, w.db.paymentAttempts.get id = some a →
    a.stripePaymentIntentId = some intentId → a.status = .failed →
    w.stripe.intentStatus intentId ≠ some .requiresCapture

theorem FailedReleased.step {w : World} (released : FailedReleased w) (sound : IntentsSound w)
    {input : Ctx × Op} (guarded : strandsHold w input = false) :
    FailedReleased (w.step input) := by
  intro id b intentId found attached isFailed held
  obtain ⟨reports, confirms⟩ := Bool.or_eq_false_iff.mp guarded
  obtain ⟨a, present, had, change⟩ := sound.settled found attached (by rw [isFailed]; nofun)
  have before : a.status = .failed ∨ ∃ m, input.2.mutation w input.1 = some m ∧
      m.report w.db = some (id, .notCaptured .failed) ∧ a.status ≠ .captured := by
    rcases change with same | ⟨m, ran, change⟩
    · exact Or.inl (same.symm.trans isFailed)
    · have isOver : b.status = NotCaptured.failed.status := isFailed
      exact (change.notCaptured_of isOver).imp_right fun asked => ⟨m, ran, asked⟩
  rcases (step_stripe w input).held intentId held with wasHeld | ⟨op, asked, unpaid, method, future,
    rfl⟩
  · rcases before with failed | ⟨m, ran, report, uncaptured⟩
    · exact released id a intentId present had failed wasHeld
    · -- The report comes while the money is held.
      simp [ran, failsHeld, report, present, uncaptured, had, wasHeld] at reports
  · rcases before with failed | ⟨m, ran, _⟩
    · -- The caller confirms once more after the attempt has failed.
      obtain ⟨intent, located, status⟩ := Stripe.intentStatus_some.mp unpaid
      obtain ⟨owner, owned, made⟩ := sound.owned id a intentId present had
      obtain rfl := Option.some.inj (located.symm.trans owned)
      simp [confirmsFailed, asked, located, status, made, present, failed] at confirms
    · rw [asked] at ran
      cases ran

theorem IntentsSound.unstranded {w : World} (sound : IntentsSound w)
    (released : FailedReleased w) : NoHoldStranded w := by
  intro intentId intent found held
  obtain ⟨a, present⟩ := sound.real intentId intent found
  refine ⟨a, present, ?_⟩
  have unsettled (begun : a.status ≠ .created) : a.stripePaymentIntentId = some intentId := by
    obtain ⟨other, attached⟩ := sound.attached intent.attemptId a present begun
    obtain ⟨made, located, owner⟩ := sound.owned intent.attemptId a other present attached
    rw [attached, sound.once other intentId made intent located found owner]
  have isHeld : w.stripe.intentStatus intentId = some .requiresCapture :=
    Stripe.intentStatus_some.mpr ⟨intent, found, held⟩
  cases status : a.status with
  | created => exact Or.inl rfl
  | authorized => exact Or.inr (Or.inl rfl)
  | capturing => exact Or.inr (Or.inr rfl)
  | captured =>
      have done := sound.captured _ a intentId present (unsettled (by rw [status]; nofun)) status
      cases isHeld.symm.trans done
  | canceled =>
      have done := sound.canceled _ a intentId present (unsettled (by rw [status]; nofun)) status
      cases isHeld.symm.trans done
  | failed =>
      exact absurd isHeld
        (released _ a intentId present (unsettled (by rw [status]; nofun)) status)

/-! ### Runs -/

/-- No hold is stranded in any run in which no report fails an attempt while
its money is held, and nobody confirms an attempt that has failed. -/
theorem holds_unstranded (inputs : List (Ctx × Op))
    (guarded : Along World.step (fun w input => strandsHold w input = false) World.empty inputs) :
    NoHoldStranded (run World.step World.empty inputs) := by
  have start : World.Reached World.empty ∧ FailedReleased World.empty := by
    refine ⟨.refl _ _, ?_⟩
    intro id a intentId found
    cases found
  obtain ⟨reached, released⟩ := run_keeps (fun w => World.Reached w ∧ FailedReleased w)
    (fun w input known guarded => ⟨known.1.step input,
      known.2.step (IntentsSound.reached known.1) guarded⟩) start guarded
  exact (IntentsSound.reached reached).unstranded released

open World in
/-- The first card is declined, and the report is still on its way when the
caller waits on the second one. -/
def declinedOnce : List (Ctx × Op) :=
  sampled (preparing ++ [.stripe (.decline 0 none)] ++ confirming ++ waiting)

set_option maxRecDepth 20000 in
theorem holds_unstranded_declinedOnce :
    NoHoldStranded (run World.step World.empty declinedOnce) :=
  holds_unstranded declinedOnce (by decide)

open World in
/-- The report of the decline comes after the second card is held. -/
def declineReported : List (Ctx × Op) :=
  sampled (preparing ++ [.stripe (.decline 0 none)] ++ confirming ++ [.deliver 0])

set_option maxRecDepth 20000 in
/-- Stripe holds the money, and the attempt has failed. -/
theorem hold_stranded :
    ¬ ∀ inputs, NoHoldStranded (run World.step World.empty inputs) := by
  intro always
  have held : ((run World.step World.empty declineReported).stripe.intents.get 0).any (fun intent =>
      intent.status == .requiresCapture && intent.attemptId == 0) = true := by decide
  have failed : (run World.step World.empty declineReported).db.paymentAttempts.get 0 =
      some { World.sampleAttempt with stripePaymentIntentId := some 0, status := .failed } := by decide
  obtain ⟨intent, found, isHeld⟩ := Option.any_eq_true _ _ |>.mp held
  simp only [Bool.and_eq_true, beq_iff_eq] at isHeld
  obtain ⟨attempt, present, actionable⟩ := always declineReported 0 intent found isHeld.1
  rw [isHeld.2, failed] at present
  obtain rfl := Option.some.inj present
  rcases actionable with status | status | status <;> cases status

end Bling
