import Bling.Intents
import Bling.Seats

set_option autoImplicit false

namespace Bling

open Library

/-! A caller who waits in the queue for a paid tier is backed by a hold of
their own, as long as nobody but Bling captures it. -/

/-! ### What Bling captures -/

/-- The intents a step can capture. -/
def World.Takes (w : World) (input : Ctx × Op) (intentId : StripeId) : Prop :=
  (∃ callId tries attemptId, .capturing callId tries attemptId intentId ∈ w.flights) ∨
    input.2 = .stripe (.captureOutside intentId)

theorem step_captures (w : World) (input : Ctx × Op) :
    Stripe.CapturesOnly (w.Takes input) w.stripe (w.step input).stripe := by
  generalize (w.step input).stripe = stripe, (World.step_moves w input).requested = requested
  cases requested with
  | nothing => exact .of_intents rfl
  | createIntent attemptId attempt flying => exact Stripe.createIntent_captures _ attemptId attempt
  | capture callId tries attemptId intentId flying =>
      exact Stripe.capture_captures _ (Or.inl ⟨callId, tries, attemptId, flying⟩)
  | release attemptId intentId flying => exact Stripe.cancel_captures _ intentId
  | cancel attemptId intentId reason flying => exact Stripe.cancel_captures _ intentId
  | createRefund refundId refund outcome status flying asked reaches unrecorded =>
      exact Stripe.createRefund_captures _ refundId _ status
  | createTransfer itemId item flying => exact Stripe.createTransfer_captures _ itemId item
  | own op asked =>
      refine Stripe.step_captures w.stripe op ?_
      intro intentId outside
      exact Or.inr (outside ▸ asked)

/-- Someone other than Bling captures an intent. -/
def capturesOutside : Op → Bool
  | .stripe (.captureOutside _) => true
  | _ => false

/-- The attempt is past waiting: its hold has been taken up, or is gone. -/
def UsedIn (attempts : Table PaymentAttempt) (attemptId : AttemptId) : Prop :=
  ∃ a, attempts.get attemptId = some a ∧ a.status.used

theorem UsedIn.follow {before after : Table PaymentAttempt} {attemptId : AttemptId}
    (used : UsedIn before attemptId) (follow : AttemptsFollow before after) :
    UsedIn after attemptId := by
  obtain ⟨a, present, isUsed⟩ := used
  obtain ⟨b, found, follows⟩ := follow.kept attemptId a present
  exact ⟨b, found, follows.used isUsed⟩

/-- Only the hold of an attempt in use is captured. -/
structure OwnCaptures (w : World) : Prop where
  succeeded : ∀ intentId, w.stripe.intentStatus intentId = some .succeeded →
    ∃ attemptId, Holds w.db.paymentAttempts attemptId intentId ∧
      UsedIn w.db.paymentAttempts attemptId
  flying : ∀ callId tries attemptId intentId,
    .capturing callId tries attemptId intentId ∈ w.flights →
      UsedIn w.db.paymentAttempts attemptId

theorem OwnCaptures.empty : OwnCaptures World.empty := by
  constructor
  · intro intentId captured
    cases captured
  · intro callId tries attemptId intentId flying
    cases flying

theorem pendingCapture_used {db : DB} {callId : CallId} {attemptId : AttemptId}
    {intentId : StripeId} (pending : pendingCapture db callId = some (attemptId, intentId)) :
    UsedIn db.paymentAttempts attemptId := by
  unfold pendingCapture at pending
  obtain ⟨call, _, pending⟩ := Option.bind_eq_some_iff.mp pending
  obtain ⟨_, _, pending⟩ := Option.bind_eq_some_iff.mp pending
  obtain ⟨held, _, pending⟩ := Option.bind_eq_some_iff.mp pending
  obtain ⟨a, present, pending⟩ := Option.bind_eq_some_iff.mp pending
  obtain ⟨_, isCapturing, pending⟩ := Option.bind_eq_some_iff.mp pending
  obtain ⟨attached, _, same⟩ := Option.bind_eq_some_iff.mp pending
  obtain ⟨rfl, rfl⟩ := Prod.mk.inj (Option.some.inj same)
  have status : a.status = .capturing := by simpa [guard] using isCapturing
  refine ⟨a, present, ?_⟩
  rw [status]
  exact ⟨nofun, nofun⟩

theorem OwnCaptures.step {w : World} (own : OwnCaptures w) (sound : IntentsSound w)
    {input : Ctx × Op} (guarded : capturesOutside input.2 = false) :
    OwnCaptures (w.step input) := by
  have attempts := step_attempts_follow w input
  constructor
  · intro intentId captured
    rcases step_captures w input intentId captured with
      before | ⟨callId, tries, attemptId, flying⟩ | outside
    · obtain ⟨attemptId, holds, used⟩ := own.succeeded intentId before
      exact ⟨attemptId, holds.follow attempts, used.follow attempts⟩
    · have holds : Holds w.db.paymentAttempts attemptId intentId := sound.flying _ flying
      have used := own.flying callId tries attemptId intentId flying
      exact ⟨attemptId, holds.follow attempts, used.follow attempts⟩
    · rw [outside] at guarded
      cases guarded
  · intro callId tries attemptId intentId flying
    rcases (World.step_moves w input).launched _ flying with old | launched
    · exact (own.flying callId tries attemptId intentId old).follow attempts
    · cases launched with
      | capturing _ _ _ _ pending => exact (pendingCapture_used pending).follow attempts

/-- A capture is reported only of an attempt in use. -/
theorem OwnCaptures.reported {w : World} (own : OwnCaptures w) (sound : IntentsSound w)
    {input : Ctx × Op} {m : Mutation} {attemptId : AttemptId}
    (ran : input.2.mutation w input.1 = some m)
    (asked : m.report w.db = some (attemptId, .captured)) :
    UsedIn w.db.paymentAttempts attemptId := by
  obtain ⟨intentId, ⟨a, present, attached⟩, succeeded, _⟩ := sound.reported ran asked
  obtain ⟨other, ⟨b, found, holds⟩, used⟩ := own.succeeded intentId (succeeded rfl)
  obtain ⟨intent, made, owner⟩ := sound.owned attemptId a intentId present attached
  obtain ⟨also, found, same⟩ := sound.owned other b intentId found holds
  obtain rfl := Option.some.inj (made.symm.trans found)
  rw [← owner, same]
  exact used

/-! ### What a waiting entry relies on -/

/-- The hold of an entry that waits is authorized. -/
def WaitingHeld (entries : Table QueueEntry) (attempts : Table PaymentAttempt) : Prop :=
  ∀ id entry attemptId a, entries.get id = some entry → entry.status = .waiting →
    entry.paymentAttemptId = some attemptId → attempts.get attemptId = some a →
    a.status = .authorized

section Tables

variable {entries : Table QueueEntry} {attempts : Table PaymentAttempt}

theorem WaitingHeld.empty : WaitingHeld .empty .empty := by
  intro id entry attemptId a found
  cases found

/-- An attempt that stays authorized can be relied on. -/
theorem WaitingHeld.patch (held : WaitingHeld entries attempts) {attemptId : AttemptId}
    {a : PaymentAttempt} {isOver : PaymentAttempt → PaymentAttempt}
    (present : attempts.get attemptId = some a)
    (stays : a.status = .authorized → (isOver a).status = .authorized) :
    WaitingHeld entries (attempts.patch attemptId isOver) := by
  intro id entry other b found waiting pays located
  rcases Table.get_patch_row present located with ⟨rfl, rfl⟩ | ⟨_, old⟩
  · exact stays (held id entry other a found waiting pays present)
  · exact held id entry other b found waiting pays old

/-- An attempt changes that no waiting entry relies on. -/
theorem WaitingHeld.release (held : WaitingHeld entries attempts) {attemptId : AttemptId}
    {a : PaymentAttempt} {isOver : PaymentAttempt → PaymentAttempt}
    (present : attempts.get attemptId = some a)
    (free : ∀ id entry, entries.get id = some entry → entry.status = .waiting →
      entry.paymentAttemptId ≠ some attemptId) :
    WaitingHeld entries (attempts.patch attemptId isOver) := by
  intro id entry other b found waiting pays located
  rcases Table.get_patch_row present located with ⟨rfl, _⟩ | ⟨_, old⟩
  · exact absurd pays (free id entry found waiting)
  · exact held id entry other b found waiting pays old

end Tables

/-- Whoever waits after a mutation relies on a hold that was authorized before it. -/
theorem WaitingHeld.entries {ctx : Ctx} {db after : DB} {m : Mutation}
    (held : WaitingHeld db.queueEntries db.paymentAttempts) (effect : Effect ctx db m after) :
    WaitingHeld after.queueEntries db.paymentAttempts := by
  intro id entry attemptId a found waiting pays present
  rcases effect.waits with waits | ⟨viewerId, args, tierId, tier, existing, attempt, joined⟩
  · exact held id entry attemptId a (waits id entry found waiting) waiting pays present
  · obtain ⟨entryId, mine, _, placed, _, _, _, _, hold, _, others⟩ :=
      enqueue_entries ctx tierId tier (attempt.map Prod.fst) joined.previous
    rw [← joined.same.queueEntries] at placed others
    by_cases here : id = entryId
    · rw [here, placed] at found
      obtain rfl := Option.some.inj found
      rw [hold] at pays
      obtain ⟨row, rfl, rfl⟩ := Option.map_eq_some_iff.mp pays
      obtain ⟨stored, isUsable⟩ := joined.held row rfl
      obtain rfl := Option.some.inj (present.symm.trans stored)
      exact (usableAttempt_terms isUsable).2.2.2.2.1
    · rw [others id here] at found
      exact held id entry attemptId a found waiting pays present

theorem WaitingHeld.effect {ctx : Ctx} {db after : DB} {m : Mutation}
    (held : WaitingHeld db.queueEntries db.paymentAttempts) (seats : SeatsSound db)
    (reported : ∀ attemptId, m.report db = some (attemptId, .captured) →
      UsedIn db.paymentAttempts attemptId)
    (effect : Effect ctx db m after) : WaitingHeld after.queueEntries after.paymentAttempts := by
  have relies := held.entries effect
  -- A captured attempt was in use, so nobody waits on it.
  have captures {attemptId : AttemptId} {attempt : PaymentAttempt} {capturedAt : Option Time}
      {method : Option StripeId} (asked : m.report db = some (attemptId, .captured))
      (present : db.paymentAttempts.get attemptId = some attempt) :
      WaitingHeld after.queueEntries
        (db.paymentAttempts.patch attemptId (capturedPatch capturedAt method)) := by
    refine relies.release present ?_
    intro id entry found waiting pays
    obtain ⟨a, used, isUsed⟩ := reported attemptId asked
    exact isUsed.2 (relies id entry attemptId a found waiting pays used)
  cases effect with
  | joined viewerId args tierId tier existing attempt live found offered previous gone usable paid
      same =>
      rw [same.paymentAttempts, enqueue_attempts]
      cases attempt with
      | none => exact relies
      | some row => exact relies.patch (usable row rfl).1 id
  | selected showId hotline entryId entry mode attempt asked host live idle present inShow waiting
      mine paid same =>
      rw [same.paymentAttempts, openCall_attempts]
      cases attempt with
      | none => exact relies
      | some row =>
          obtain ⟨_, holds, located⟩ := entryAttempt_present mine.symm
          refine relies.release located ?_
          intro id other found stillWaiting pays
          rw [same.queueEntries, openCall_entries] at found
          obtain ⟨apart, old⟩ := waiting_patch found stillWaiting (fun _ => rfl) (by decide)
          exact apart (seats.seated.one old present pays holds)
  | attemptAdded attempt tierId tier hotline found paid created detached unqueued amount fee same =>
      intro id entry attemptId b located waiting pays present
      have entries := same.queueEntries
      dsimp only at entries
      obtain ⟨a, was, _⟩ := seats.seated.backed id entry attemptId (entries ▸ located) pays
      rw [same.paymentAttempts, Table.get_insert_of_some was] at present
      obtain rfl := Option.some.inj present
      exact relies id entry attemptId _ located waiting pays was
  | intentAttached attemptId intentId attempt asked present detached same =>
      rw [same.paymentAttempts]
      exact relies.patch present id
  | authorized attemptId attempt asked present created same =>
      rw [same.paymentAttempts]
      exact relies.patch present fun _ => rfl
  | captureNoted attemptId attempt capturedAt method asked present settled same =>
      rw [same.paymentAttempts]
      exact captures asked present
  | callOpened attemptId attempt capturedAt method callId call asked present found pending live
      same =>
      rw [same.paymentAttempts]
      exact captures asked present
  | callMissed attemptId attempt capturedAt method callId call asked present found unstarted isOver
      pending same =>
      rw [same.paymentAttempts]
      exact captures asked present
  | chargeReturned attemptId attempt capturedAt method callId call asked present found unstarted
      isOver settled same =>
      rw [same.paymentAttempts]
      exact captures asked present
  | notCaptured attemptId attempt status failureCode canceledAt calls queueEntries asked present
      uncaptured failed released same =>
      rw [same.paymentAttempts]
      refine relies.release present ?_
      intro id entry found waiting pays
      rw [same.queueEntries] at found
      dsimp only at found
      -- The attempt points to the entry that relies on it, so that entry is released.
      have points (entry : QueueEntry) (found : db.queueEntries.get id = some entry)
          (pays : entry.paymentAttemptId = some attemptId) : attempt.queueEntryId = some id := by
        obtain ⟨a, located, backs⟩ := seats.seated.backed id entry attemptId found pays
        obtain rfl := Option.some.inj (present.symm.trans located)
        exact backs.pointer
      rcases released with ⟨unchanged, gone⟩ | ⟨entryId, row, pointer, _, _, patched⟩
      · rw [unchanged] at found
        exact (gone id entry (points entry found pays) found).1 waiting
      · rw [patched] at found
        obtain ⟨apart, old⟩ := waiting_patch found waiting (fun _ => rfl) (by decide)
        exact apart (Option.some.inj ((points entry old pays).symm.trans pointer))
  | _ =>
      rename_i same
      rw [same.paymentAttempts]
      exact relies

/-! ### Runs -/

/-- What is known of the queue's holds after a run in which only Bling captures. -/
structure BackingSound (w : World) : Prop where
  own : OwnCaptures w
  held : WaitingHeld w.db.queueEntries w.db.paymentAttempts

theorem BackingSound.step {w : World} (sound : BackingSound w) (reached : World.Reached w)
    {input : Ctx × Op} (guarded : capturesOutside input.2 = false) :
    BackingSound (w.step input) := by
  have intents := IntentsSound.reached reached
  refine ⟨sound.own.step intents guarded, ?_⟩
  rcases World.step_ran w input with ⟨_, later, same⟩ | ⟨m, earlier, later, ran, same⟩
  · rw [same]
    exact sound.held
  · rw [same]
    have reported (attemptId : AttemptId)
        (asked : m.report { w.db with scheduled := earlier } = some (attemptId, .captured)) :
        UsedIn w.db.paymentAttempts attemptId := by
      rw [Mutation.report_scheduled] at asked
      exact sound.own.reported intents ran asked
    have held : WaitingHeld
        (m.apply input.1 { w.db with scheduled := earlier }).queueEntries
        (m.apply input.1 { w.db with scheduled := earlier }).paymentAttempts := by
      refine WaitingHeld.effect ?_ ?_ reported (m.effect input.1 { w.db with scheduled := earlier })
      · exact sound.held
      · exact (SeatsSound.unscheduled w.db earlier).mpr (SeatsSound.reached reached)
    exact held

theorem BackingSound.run {w : World} (reached : World.Reached w) (sound : BackingSound w)
    {inputs : List (Ctx × Op)}
    (guarded : Along World.step (fun _ input => capturesOutside input.2 = false) w inputs) :
    BackingSound (run World.step w inputs) := by
  have both : World.Reached (Library.run World.step w inputs) ∧
      BackingSound (Library.run World.step w inputs) := by
    refine run_keeps (fun w => World.Reached w ∧ BackingSound w) ?_ ⟨reached, sound⟩ guarded
    rintro w input ⟨reached, sound⟩ met
    exact ⟨reached.step input, sound.step reached met⟩
  exact both.2

/-- An attempt that was authorized does not become new again. -/
theorem AttemptChange.begun {db : DB} {m : Mutation} {id : AttemptId} {a b : PaymentAttempt}
    (change : AttemptChange db m id a b) (begun : a.status ≠ .created) : b.status ≠ .created := by
  cases change with
  | same terms status intent => rw [status]; exact begun
  | attached terms intentId asked detached status intent => rw [status]; exact begun
  | authorized terms asked created status intent => exact absurd created begun
  | selected terms held asked status intent => rw [status]; decide
  | captured terms asked status intent => rw [status]; decide
  | notCaptured terms outcome asked uncaptured status intent =>
      rw [status]
      cases outcome <;> decide

theorem attempt_begun {w : World} {attemptId : AttemptId} {a : PaymentAttempt}
    (present : w.db.paymentAttempts.get attemptId = some a) (begun : a.status ≠ .created)
    (inputs : List (Ctx × Op)) :
    ∃ b, (run World.step w inputs).db.paymentAttempts.get attemptId = some b ∧
      b.status ≠ .created := by
  induction inputs generalizing w a with
  | nil => exact ⟨a, present, begun⟩
  | cons input rest ih =>
      rcases step_attempts w input with same | ⟨m, _, changes⟩
      · exact ih (same ▸ present) begun
      · obtain ⟨b, found, change⟩ := changes.kept attemptId a present
        exact ih found (change.begun begun)

theorem attempts_follow_run (w : World) (inputs : List (Ctx × Op)) {attemptId : AttemptId}
    (used : UsedIn w.db.paymentAttempts attemptId) :
    UsedIn (run World.step w inputs).db.paymentAttempts attemptId := by
  induction inputs generalizing w with
  | nil => exact used
  | cons input rest ih => exact ih (w.step input) (used.follow (step_attempts_follow w input))

/-- Every paid caller who waits has an authorized hold of their own, for their
place and of its price, and no hold is two callers'. -/
structure QueueBacked (db : DB) : Prop where
  backed : ∀ id entry, db.queueEntries.get id = some entry → entry.status = .waiting →
    0 < entry.tierPriceCents → ∃ attemptId a, entry.paymentAttemptId = some attemptId ∧
      db.paymentAttempts.get attemptId = some a ∧ a.status = .authorized ∧ Backs id entry a
  one : ∀ i j a b attemptId, db.queueEntries.get i = some a → db.queueEntries.get j = some b →
    a.paymentAttemptId = some attemptId → b.paymentAttemptId = some attemptId → i = j

/-- A hold that was authorized in the run and no longer is has nobody waiting on it. -/
def NeverBacksAgain (inputs : List (Ctx × Op)) : Prop :=
  ∀ front middle back attemptId a b, inputs = front ++ middle ++ back →
    (run World.step World.empty front).db.paymentAttempts.get attemptId = some a →
    a.status = .authorized →
    (run World.step World.empty (front ++ middle)).db.paymentAttempts.get attemptId = some b →
    b.status ≠ .authorized →
    ∀ id entry, (run World.step World.empty inputs).db.queueEntries.get id = some entry →
      entry.status = .waiting → entry.paymentAttemptId ≠ some attemptId

/-- In every run in which only Bling captures, every paid caller in the queue is
backed by their own hold. -/
theorem queue_backed (inputs : List (Ctx × Op))
    (own : Along World.step (fun _ input => capturesOutside input.2 = false) World.empty inputs) :
    QueueBacked (run World.step World.empty inputs).db ∧ NeverBacksAgain inputs := by
  have reached : World.Reached (run World.step World.empty inputs) := ⟨inputs, rfl⟩
  have seated := (SeatsSound.reached reached).seated
  have held : WaitingHeld _ _ := (BackingSound.run (.refl _ _) ⟨.empty, .empty⟩ own).held
  refine ⟨⟨?_, fun i j a b attemptId => seated.one⟩, ?_⟩
  · intro id entry found waiting priced
    obtain ⟨attemptId, pays⟩ := seated.paid id entry found priced
    obtain ⟨a, present, backs⟩ := seated.backed id entry attemptId found pays
    exact ⟨attemptId, a, pays, present, held id entry attemptId a found waiting pays present, backs⟩
  · intro front middle back attemptId a b split present isAuthorized gone left id entry found
      waiting pays
    have begun : a.status ≠ .created := by
      rw [isAuthorized]
      decide
    obtain ⟨c, same, isBegun⟩ := attempt_begun present begun middle
    rw [← run_append, gone] at same
    obtain rfl := Option.some.inj same
    have used : UsedIn (run World.step World.empty inputs).db.paymentAttempts attemptId := by
      rw [split, run_append]
      exact attempts_follow_run _ back ⟨b, gone, isBegun, left⟩
    obtain ⟨d, there, isUsed⟩ := used
    exact isUsed.2 (held id entry attemptId d found waiting pays there)

open World in
set_option maxRecDepth 20000 in
theorem queue_backed_waiting :
    QueueBacked (run World.step World.empty (sampled (preparing ++ confirming ++ waiting))).db ∧
      NeverBacksAgain (sampled (preparing ++ confirming ++ waiting)) :=
  queue_backed (sampled (preparing ++ confirming ++ waiting)) (by decide)

end Bling
