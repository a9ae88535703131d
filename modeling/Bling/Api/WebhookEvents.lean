import Mathlib.Logic.Function.Basic
import Bling.Library.Machine
import Bling.Schema

set_option autoImplicit false

namespace Bling.Api

open Library

/-! Deliveries of Stripe's events to the Go API: the webhook handler of
`httpapi/payment.go` over the claims of `finance/store.go`. -/

/-! ### Claims -/

inductive EventStatus where
  | processing | processed | failed
deriving DecidableEq

/-- A row of `stripe_webhook_events`. -/
structure WebhookEvent where
  status : EventStatus
  attempts : Nat
  failureCode : Option String
  lockedAt : Time
  processedAt : Option Time
deriving DecidableEq

inductive EventClaim where
  | claimed | processed | busy
deriving DecidableEq

/-- The rows by `stripe_event_id`, their primary key. -/
abbrev WebhookEvents := StripeId → Option WebhookEvent

/-- `interval '5 minutes'`. -/
def lockMs : Time := 5 * 60000

/-- The first statement of `ClaimEvent`, unless it returns no row. -/
def claimEvent (events : WebhookEvents) (id : StripeId) (now : Time) : Option WebhookEvents :=
  match events id with
  | none => some (Function.update events id (some
      { status := .processing
        attempts := 1
        failureCode := none
        lockedAt := now
        processedAt := none }))
  | some event =>
    if event.status = .failed ∨ event.status = .processing ∧ event.lockedAt + lockMs < now then
      some (Function.update events id (some { event with
        status := .processing
        attempts := event.attempts + 1
        failureCode := none
        lockedAt := now }))
    else none

/-- Its second statement, after a claim that returned no row. -/
def readClaim (event : WebhookEvent) : EventClaim :=
  if event.status = .processed then .processed else .busy

def completeEvent (events : WebhookEvents) (id : StripeId) (now : Time) : WebhookEvents :=
  Function.update events id ((events id).map fun event =>
    { event with status := .processed, processedAt := some now })

def failEvent (events : WebhookEvents) (id : StripeId) (code : String) : WebhookEvents :=
  Function.update events id ((events id).map fun event =>
    { event with status := .failed, failureCode := some code })

/-! ### Handlers -/

/-- How a handler answers: 204, 409 `WEBHOOK_IN_PROGRESS` or 500 `WEBHOOK_RETRY`. -/
inductive WebhookAnswer where
  | noContent | inProgress | retry
deriving DecidableEq

inductive WebhookPhase where
  /-- The clock is read, and `ClaimEvent` has not reached the database. -/
  | claiming (now : Time)
  | reading
  | working (claimedAt : Time)
  | answered (answer : WebhookAnswer)
deriving DecidableEq

structure WebhookHandler where
  eventId : StripeId
  phase : WebhookPhase
deriving DecidableEq

structure WebhookState where
  clock : Time
  events : WebhookEvents
  handlers : Nat → Option WebhookHandler

inductive WebhookInput where
  | tick (time : Time)
  | deliver (h : Nat) (eventId : StripeId)
  | claim (h : Nat)
  | read (h : Nat)
  /-- `processEvent` is through, and `CompleteEvent` reaches the database. -/
  | complete (h : Nat)
  /-- `processEvent` has failed, and `FailEvent` reaches the database. -/
  | fail (h : Nat)
  /-- The handler dies, or what it asks of the database never gets there. -/
  | drop (h : Nat)

namespace WebhookState

def empty : WebhookState := ⟨0, fun _ => none, fun _ => none⟩

def setPhase (s : WebhookState) (h : Nat) (eventId : StripeId) (phase : WebhookPhase) :
    WebhookState :=
  { s with handlers := Function.update s.handlers h (some ⟨eventId, phase⟩) }

def step (s : WebhookState) : WebhookInput → WebhookState
  | .tick time => { s with clock := max s.clock time }
  | .deliver h eventId =>
    match s.handlers h with
    | none => s.setPhase h eventId (.claiming s.clock)
    | some _ => s
  | .claim h =>
    match s.handlers h with
    | some ⟨eventId, .claiming now⟩ =>
      match claimEvent s.events eventId now with
      | some events => { s with events }.setPhase h eventId (.working now)
      | none => s.setPhase h eventId .reading
    | _ => s
  | .read h =>
    match s.handlers h with
    | some ⟨eventId, .reading⟩ =>
      s.setPhase h eventId (.answered (match (s.events eventId).map readClaim with
        | some .processed => .noContent
        | some _ => .inProgress
        | none => .retry))
    | _ => s
  | .complete h =>
    match s.handlers h with
    | some ⟨eventId, .working _⟩ =>
      { s with events := completeEvent s.events eventId s.clock }.setPhase h eventId
        (.answered .noContent)
    | _ => s
  | .fail h =>
    match s.handlers h with
    | some ⟨eventId, .working _⟩ =>
      { s with events := failEvent s.events eventId "processing_failed" }.setPhase h eventId
        (.answered .retry)
    | _ => s
  | .drop h =>
    match s.handlers h with
    | some ⟨_, .answered _⟩ | none => s
    | some ⟨eventId, _⟩ => s.setPhase h eventId (.answered .retry)

/-! ### What a claim is worth -/

/-- The handler holds a claim on the event. -/
def Works (s : WebhookState) (h : Nat) (eventId : StripeId) (claimedAt : Time) : Prop :=
  s.handlers h = some ⟨eventId, .working claimedAt⟩

/-- A claim of that time is older than five minutes. -/
def Expired (s : WebhookState) (claimedAt : Time) : Prop := claimedAt + lockMs < s.clock

instance (s : WebhookState) (claimedAt : Time) : Decidable (s.Expired claimedAt) :=
  inferInstanceAs (Decidable (_ < _))

def HasStatus (s : WebhookState) (eventId : StripeId) (status : EventStatus) : Prop :=
  ∃ event, s.events eventId = some event ∧ event.status = status

/-- What claims rely on: a handler's claim has expired once the event can be
claimed by another. -/
structure Sound (s : WebhookState) : Prop where
  timed : ∀ h eventId now, s.handlers h = some ⟨eventId, .claiming now⟩ → now ≤ s.clock
  unclaimed : ∀ h eventId claimedAt, s.Works h eventId claimedAt → (s.events eventId).isSome
  failed : ∀ h eventId claimedAt, s.Works h eventId claimedAt → s.HasStatus eventId .failed →
    s.Expired claimedAt
  locked : ∀ h eventId claimedAt event, s.Works h eventId claimedAt →
    s.events eventId = some event → event.status = .processing →
    claimedAt ≤ event.lockedAt ∨ s.Expired claimedAt
  single : ∀ h other eventId claimedAt otherAt, s.Works h eventId claimedAt →
    s.Works other eventId otherAt → h ≠ other → s.Expired claimedAt ∨ s.Expired otherAt

theorem empty_sound : Sound empty := by
  constructor
  · intro h eventId now waits
    cases waits
  · intro h eventId claimedAt works
    cases works
  · intro h eventId claimedAt works
    cases works
  · intro h eventId claimedAt event works
    cases works
  · intro h other eventId claimedAt otherAt works
    cases works

/-- The failure of a handler whose claim is the event's only one in force. -/
def FailsAlone (s : WebhookState) : WebhookInput → Prop
  | .fail h => ∀ eventId claimedAt, s.Works h eventId claimedAt →
      ¬ s.HasStatus eventId .processed ∧
      ∀ other otherAt, s.Works other eventId otherAt → other ≠ h → s.Expired otherAt
  | _ => True

section Steps

variable {s t : WebhookState}

theorem setPhase_works {h other : Nat} {eventId otherId : StripeId} {phase : WebhookPhase}
    {claimedAt : Time} (works : (s.setPhase h eventId phase).Works other otherId claimedAt) :
    (other = h ∧ otherId = eventId ∧ phase = .working claimedAt) ∨
      other ≠ h ∧ s.Works other otherId claimedAt := by
  unfold Works setPhase at works
  by_cases here : other = h
  · subst here
    simp only [Function.update_self, Option.some.injEq, WebhookHandler.mk.injEq] at works
    exact Or.inl ⟨rfl, works.1.symm, works.2⟩
  · simp only [Function.update_of_ne here] at works
    exact Or.inr ⟨here, works⟩

theorem setPhase_claiming {h other : Nat} {eventId otherId : StripeId} {phase : WebhookPhase}
    {now : Time}
    (waits : (s.setPhase h eventId phase).handlers other = some ⟨otherId, .claiming now⟩) :
    phase = .claiming now ∨ s.handlers other = some ⟨otherId, .claiming now⟩ := by
  unfold setPhase at waits
  by_cases here : other = h
  · subst here
    simp only [Function.update_self, Option.some.injEq, WebhookHandler.mk.injEq] at waits
    exact Or.inl waits.2
  · simp only [Function.update_of_ne here] at waits
    exact Or.inr waits

/-- Time passes, claims are given up and events are processed. -/
theorem Sound.weaken (sound : s.Sound) (clock : s.clock ≤ t.clock)
    (timed : ∀ h eventId now, t.handlers h = some ⟨eventId, .claiming now⟩ → now ≤ t.clock)
    (works : ∀ h eventId claimedAt, t.Works h eventId claimedAt → s.Works h eventId claimedAt)
    (events : ∀ eventId, t.events eventId = s.events eventId ∨ t.HasStatus eventId .processed) :
    t.Sound := by
  have later {claimedAt : Time} (expired : s.Expired claimedAt) : t.Expired claimedAt :=
    Nat.lt_of_lt_of_le expired clock
  constructor
  · exact timed
  · intro h eventId claimedAt held
    rcases events eventId with same | ⟨event, found, _⟩
    · rw [same]
      exact sound.unclaimed h eventId claimedAt (works _ _ _ held)
    · rw [found]
      rfl
  · rintro h eventId claimedAt held ⟨event, found, failed⟩
    rcases events eventId with same | ⟨other, located, processed⟩
    · exact later (sound.failed h eventId claimedAt (works _ _ _ held)
        ⟨event, same ▸ found, failed⟩)
    · obtain rfl := Option.some.inj (found.symm.trans located)
      rw [failed] at processed
      cases processed
  · intro h eventId claimedAt event held found processing
    rcases events eventId with same | ⟨other, located, processed⟩
    · exact (sound.locked h eventId claimedAt event (works _ _ _ held) (same ▸ found)
        processing).imp_right later
    · obtain rfl := Option.some.inj (found.symm.trans located)
      rw [processing] at processed
      cases processed
  · intro h other eventId claimedAt otherAt held also apart
    exact (sound.single h other eventId claimedAt otherAt (works _ _ _ held) (works _ _ _ also)
      apart).imp later later

theorem setPhase_timed (sound : s.Sound) {h : Nat} {eventId : StripeId} {phase : WebhookPhase}
    (timed : ∀ now, phase = .claiming now → now ≤ s.clock) (other : Nat) (otherId : StripeId)
    (now : Time)
    (waits : (s.setPhase h eventId phase).handlers other = some ⟨otherId, .claiming now⟩) :
    now ≤ s.clock := by
  rcases setPhase_claiming waits with here | before
  · exact timed now here
  · exact sound.timed other otherId now before

/-- A handler moves on without a claim. -/
theorem Sound.setPhase (sound : s.Sound) {h : Nat} {eventId : StripeId} {phase : WebhookPhase}
    (idle : ∀ claimedAt, phase ≠ .working claimedAt)
    (timed : ∀ now, phase = .claiming now → now ≤ s.clock) : (s.setPhase h eventId phase).Sound := by
  refine sound.weaken (le_refl _) (setPhase_timed sound timed) ?_ fun _ => Or.inl rfl
  intro other otherId claimedAt works
  rcases setPhase_works works with ⟨_, _, working⟩ | ⟨_, before⟩
  · exact absurd working (idle claimedAt)
  · exact before

/-- Whoever else has claimed an event that can be claimed is late. -/
theorem Sound.claim_expired (sound : s.Sound) {eventId : StripeId} {now : Time}
    {events : WebhookEvents} (claims : claimEvent s.events eventId now = some events)
    (timely : now ≤ s.clock) {h : Nat} {claimedAt : Time} (works : s.Works h eventId claimedAt) :
    s.Expired claimedAt := by
  obtain ⟨event, found⟩ := Option.isSome_iff_exists.mp (sound.unclaimed h eventId claimedAt works)
  simp only [claimEvent, found] at claims
  split at claims
  · rename_i free
    rcases free with failed | ⟨processing, late⟩
    · exact sound.failed h eventId claimedAt works ⟨event, found, failed⟩
    · rcases sound.locked h eventId claimedAt event works found processing with before | expired
      · exact (Nat.add_le_add_right before lockMs).trans_lt (late.trans_le timely)
      · exact expired
  · cases claims

/-- What a claim leaves of the rows. -/
theorem claimEvent_some {events after : WebhookEvents} {eventId : StripeId} {now : Time}
    (claims : claimEvent events eventId now = some after) :
    (∃ event, after eventId = some event ∧ event.status = .processing ∧ event.lockedAt = now) ∧
      ∀ id, id ≠ eventId → after id = events id := by
  unfold claimEvent at claims
  split at claims
  · obtain rfl := Option.some.inj claims
    exact ⟨⟨_, Function.update_self .., rfl, rfl⟩, fun id apart => Function.update_of_ne apart ..⟩
  · split at claims
    · obtain rfl := Option.some.inj claims
      exact ⟨⟨_, Function.update_self .., rfl, rfl⟩, fun id apart => Function.update_of_ne apart ..⟩
    · cases claims

theorem Sound.claim (sound : s.Sound) {h : Nat} {eventId : StripeId} {now : Time}
    {events : WebhookEvents} (waits : s.handlers h = some ⟨eventId, .claiming now⟩)
    (claims : claimEvent s.events eventId now = some events) :
    ({ s with events }.setPhase h eventId (.working now)).Sound := by
  have timely := sound.timed h eventId now waits
  obtain ⟨⟨claimed, here, processing, lockedAt⟩, elsewhere⟩ := claimEvent_some claims
  -- A claim that is held after the step is the new one, or an old one.
  have holds {other : Nat} {otherId : StripeId} {claimedAt : Time}
      (works : ({ s with events }.setPhase h eventId (.working now)).Works other otherId
        claimedAt) :
      (other = h ∧ otherId = eventId ∧ claimedAt = now) ∨
        other ≠ h ∧ s.Works other otherId claimedAt := by
    rcases setPhase_works works with ⟨same, ofEvent, working⟩ | before
    · exact Or.inl ⟨same, ofEvent, (WebhookPhase.working.inj working).symm⟩
    · exact Or.inr before
  constructor
  · intro other otherId time claiming
    rcases setPhase_claiming claiming with working | before
    · cases working
    · exact sound.timed other otherId time before
  · intro other otherId claimedAt works
    show (events otherId).isSome
    by_cases same : otherId = eventId
    · rw [same, here]
      rfl
    · rw [elsewhere otherId same]
      rcases holds works with ⟨_, ofEvent, _⟩ | ⟨_, before⟩
      · exact absurd ofEvent same
      · exact sound.unclaimed other otherId claimedAt before
  · rintro other otherId claimedAt works ⟨event, found, failed⟩
    change events otherId = some event at found
    by_cases same : otherId = eventId
    · rw [same, here] at found
      obtain rfl := Option.some.inj found
      rw [processing] at failed
      cases failed
    · rw [elsewhere otherId same] at found
      rcases holds works with ⟨_, ofEvent, _⟩ | ⟨_, before⟩
      · exact absurd ofEvent same
      · exact sound.failed other otherId claimedAt before ⟨event, found, failed⟩
  · intro other otherId claimedAt event works found isProcessing
    change events otherId = some event at found
    by_cases same : otherId = eventId
    · subst same
      rw [here] at found
      obtain rfl := Option.some.inj found
      rcases holds works with ⟨_, _, atNow⟩ | ⟨_, before⟩
      · exact Or.inl (by rw [lockedAt, atNow])
      · exact Or.inr (sound.claim_expired claims timely before)
    · rw [elsewhere otherId same] at found
      rcases holds works with ⟨_, ofEvent, _⟩ | ⟨_, before⟩
      · exact absurd ofEvent same
      · exact sound.locked other otherId claimedAt event before found isProcessing
  · intro one other otherId claimedAt otherAt works also apart
    rcases holds works with ⟨rfl, rfl, _⟩ | ⟨_, before⟩
    · rcases holds also with ⟨same, _, _⟩ | ⟨_, before⟩
      · exact absurd same.symm apart
      · exact Or.inr (sound.claim_expired claims timely before)
    · rcases holds also with ⟨_, rfl, _⟩ | ⟨_, alsoBefore⟩
      · exact Or.inl (sound.claim_expired claims timely before)
      · exact sound.single one other otherId claimedAt otherAt before alsoBefore apart

theorem Sound.fail (sound : s.Sound) {h : Nat} {eventId : StripeId} {claimedAt : Time}
    (code : String) (works : s.Works h eventId claimedAt)
    (alone : ∀ other otherAt, s.Works other eventId otherAt → other ≠ h → s.Expired otherAt) :
    ({ s with events := failEvent s.events eventId code }.setPhase h eventId
      (.answered .retry)).Sound := by
  obtain ⟨event, found⟩ := Option.isSome_iff_exists.mp (sound.unclaimed h eventId claimedAt works)
  have here : failEvent s.events eventId code eventId =
      some { event with status := .failed, failureCode := some code } := by
    simp [failEvent, found]
  have elsewhere (id : StripeId) (apart : id ≠ eventId) :
      failEvent s.events eventId code id = s.events id := Function.update_of_ne apart ..
  have holds {other : Nat} {otherId : StripeId} {otherAt : Time}
      (works : ({ s with events := failEvent s.events eventId code }.setPhase h eventId
        (.answered .retry)).Works other otherId otherAt) :
      other ≠ h ∧ s.Works other otherId otherAt := by
    rcases setPhase_works works with ⟨_, _, answered⟩ | before
    · cases answered
    · exact before
  constructor
  · intro other otherId now claiming
    rcases setPhase_claiming claiming with answered | before
    · cases answered
    · exact sound.timed other otherId now before
  · intro other otherId otherAt held
    show (failEvent s.events eventId code otherId).isSome
    by_cases same : otherId = eventId
    · rw [same, here]
      rfl
    · rw [elsewhere otherId same]
      exact sound.unclaimed other otherId otherAt (holds held).2
  · rintro other otherId otherAt held ⟨row, located, failed⟩
    change failEvent s.events eventId code otherId = some row at located
    by_cases same : otherId = eventId
    · subst same
      exact alone other otherAt (holds held).2 (holds held).1
    · rw [elsewhere otherId same] at located
      exact sound.failed other otherId otherAt (holds held).2 ⟨row, located, failed⟩
  · intro other otherId otherAt row held located processing
    change failEvent s.events eventId code otherId = some row at located
    by_cases same : otherId = eventId
    · rw [same, here] at located
      obtain rfl := Option.some.inj located
      cases processing
    · rw [elsewhere otherId same] at located
      exact sound.locked other otherId otherAt row (holds held).2 located processing
  · intro one other otherId oneAt otherAt held also apart
    exact sound.single one other otherId oneAt otherAt (holds held).2 (holds also).2 apart

theorem Sound.complete (sound : s.Sound) {h : Nat} {eventId : StripeId} {claimedAt : Time}
    (works : s.Works h eventId claimedAt) (now : Time) :
    ({ s with events := completeEvent s.events eventId now }.setPhase h eventId
      (.answered .noContent)).Sound := by
  refine sound.weaken (le_refl _) ?_ ?_ ?_
  · intro other otherId time claiming
    rcases setPhase_claiming claiming with answered | before
    · cases answered
    · exact sound.timed other otherId time before
  · intro other otherId otherAt held
    rcases setPhase_works held with ⟨_, _, answered⟩ | ⟨_, before⟩
    · cases answered
    · exact before
  · intro id
    by_cases same : id = eventId
    · obtain ⟨event, found⟩ :=
        Option.isSome_iff_exists.mp (sound.unclaimed h eventId claimedAt works)
      refine Or.inr ⟨{ event with status := .processed, processedAt := some now }, ?_, rfl⟩
      show completeEvent s.events eventId now id = _
      simp [same, completeEvent, found]
    · exact Or.inl (Function.update_of_ne same ..)

theorem Sound.step (sound : s.Sound) {input : WebhookInput} (guarded : s.FailsAlone input) :
    (s.step input).Sound := by
  cases input with
  | tick time =>
      refine sound.weaken (Nat.le_max_left _ _) ?_ (fun _ _ _ => id) fun _ => Or.inl rfl
      intro h eventId now waits
      exact (sound.timed h eventId now waits).trans (Nat.le_max_left _ _)
  | deliver h eventId =>
      simp only [WebhookState.step]
      split
      · refine sound.setPhase nofun ?_
        intro now claiming
        exact (WebhookPhase.claiming.inj claiming).ge
      · exact sound
  | claim h =>
      simp only [WebhookState.step]
      split
      · rename_i eventId now waits
        split
        · rename_i events claims
          exact sound.claim waits claims
        · exact sound.setPhase nofun nofun
      · exact sound
  | read h =>
      simp only [WebhookState.step]
      split
      · exact sound.setPhase nofun nofun
      · exact sound
  | complete h =>
      simp only [WebhookState.step]
      split
      · rename_i eventId claimedAt works
        exact sound.complete works s.clock
      · exact sound
  | fail h =>
      simp only [WebhookState.step]
      split
      · rename_i eventId claimedAt works
        exact sound.fail _ works (guarded eventId claimedAt works).2
      · exact sound
  | drop h =>
      simp only [WebhookState.step]
      split
      · exact sound
      · exact sound
      · exact sound.setPhase nofun nofun

theorem Sound.run {inputs : List WebhookInput} (sound : s.Sound)
    (guarded : Along WebhookState.step FailsAlone s inputs) :
    (Library.run WebhookState.step s inputs).Sound :=
  run_keeps Sound (fun _ _ sound guarded => sound.step guarded) sound guarded

/-! ### An event that is processed -/

theorem claimEvent_processed {eventId : StripeId} (processed : s.HasStatus eventId .processed)
    (now : Time) : claimEvent s.events eventId now = none := by
  obtain ⟨event, found, status⟩ := processed
  simp [claimEvent, found, status]

theorem HasStatus.step {eventId : StripeId} (processed : s.HasStatus eventId .processed)
    {input : WebhookInput} (guarded : s.FailsAlone input) :
    (s.step input).HasStatus eventId .processed := by
  cases input with
  | tick time => exact processed
  | deliver h id =>
      simp only [WebhookState.step]
      split <;> exact processed
  | claim h =>
      simp only [WebhookState.step]
      split
      · rename_i id now waits
        split
        · rename_i events claims
          by_cases same : eventId = id
          · rw [← same, claimEvent_processed processed] at claims
            cases claims
          · obtain ⟨event, found, status⟩ := processed
            exact ⟨event, ((claimEvent_some claims).2 eventId same).trans found, status⟩
        · exact processed
      · exact processed
  | read h =>
      simp only [WebhookState.step]
      split <;> exact processed
  | complete h =>
      simp only [WebhookState.step]
      split
      · rename_i id claimedAt works
        obtain ⟨event, found, status⟩ := processed
        by_cases same : eventId = id
        · refine ⟨{ event with status := .processed, processedAt := some s.clock }, ?_, rfl⟩
          show completeEvent s.events id s.clock eventId = _
          simp [← same, completeEvent, found]
        · exact ⟨event, (Function.update_of_ne same ..).trans found, status⟩
      · exact processed
  | fail h =>
      simp only [WebhookState.step]
      split
      · rename_i id claimedAt works
        by_cases same : eventId = id
        · exact absurd (same ▸ processed) (guarded id claimedAt works).1
        · obtain ⟨event, found, status⟩ := processed
          exact ⟨event, (Function.update_of_ne same ..).trans found, status⟩
      · exact processed
  | drop h =>
      simp only [WebhookState.step]
      split <;> exact processed

end Steps

/-- Of the handlers of one event, at most one holds a claim that has not expired. -/
def OneInForce (s : WebhookState) : Prop :=
  ∀ h other eventId claimedAt otherAt, s.Works h eventId claimedAt →
    s.Works other eventId otherAt → ¬ s.Expired claimedAt → ¬ s.Expired otherAt → h = other

/-- An event that is processed stays so, and no claim of it succeeds. -/
def ProcessedOnce (inputs : List WebhookInput) : Prop :=
  ∀ front middle back eventId, inputs = front ++ middle ++ back →
    (run step empty front).HasStatus eventId .processed →
      (run step empty (front ++ middle)).HasStatus eventId .processed ∧
        ∀ now, claimEvent (run step empty (front ++ middle)).events eventId now = none

/-- As long as handlers fail alone, an event is processed once, by one handler
at a time. -/
theorem event_processed_once (inputs : List WebhookInput)
    (alone : Along step FailsAlone empty inputs) :
    ProcessedOnce inputs ∧
      ∀ front back, inputs = front ++ back → (run step empty front).OneInForce := by
  constructor
  · intro front middle back eventId split processed
    rw [split, along_append, along_append] at alone
    have still : (run step empty (front ++ middle)).HasStatus eventId .processed := by
      rw [run_append]
      exact run_keeps (fun s => s.HasStatus eventId .processed)
        (fun _ _ processed guarded => processed.step guarded) processed alone.1.2
    exact ⟨still, claimEvent_processed still⟩
  · intro front back split h other eventId claimedAt otherAt works also inForce alsoInForce
    rw [split, along_append] at alone
    by_contra apart
    rcases (empty_sound.run alone.1).single h other eventId claimedAt otherAt works also apart with
      expired | expired
    · exact inForce expired
    · exact alsoInForce expired

/-- Two handlers deliver an event: the second takes the claim over after five
minutes, and the first fails then. -/
def takenOver : List WebhookInput :=
  [.deliver 0 7, .claim 0, .tick 300001, .deliver 1 7, .claim 1, .fail 0]

/-- A second handler finds the event taken, the first fails, and a third processes it. A fourth is
told so. -/
def failedAlone : List WebhookInput :=
  [.deliver 0 7, .claim 0, .deliver 1 7, .claim 1, .read 1, .fail 0, .deliver 2 7, .claim 2,
    .complete 2, .deliver 3 7, .claim 3, .read 3]

theorem failedAlone_along : Along step FailsAlone empty failedAlone := by
  refine ⟨trivial, trivial, trivial, trivial, trivial, ?_, trivial, trivial, trivial, trivial,
    trivial, trivial, trivial⟩
  intro eventId claimedAt works
  cases works
  constructor
  · rintro ⟨event, found, processed⟩
    cases found
    cases processed
  · intro other otherAt also apart
    rcases other with _ | _ | other
    · exact absurd rfl apart
    · cases also
    · cases also

theorem event_processed_once_claimed :
    ProcessedOnce failedAlone ∧ (run step empty (failedAlone.take 11)).OneInForce ∧
      (run step empty failedAlone).HasStatus 7 .processed := by
  obtain ⟨once, one⟩ := event_processed_once failedAlone failedAlone_along
  exact ⟨once, one _ _ (List.take_append_drop 11 failedAlone).symm, _, rfl, rfl⟩

/-- The late failure hands the event to a third handler, while the second still
works on it, and the third's failure undoes what the second has completed. -/
theorem late_failure_reopens :
    ¬ (run step empty (takenOver ++ [.deliver 2 7, .claim 2])).OneInForce ∧
      ¬ ProcessedOnce (takenOver ++ [.deliver 2 7, .claim 2, .complete 1, .fail 2]) := by
  constructor
  · intro one
    exact absurd (one 1 2 7 300001 300001 rfl rfl (by decide) (by decide)) (by decide)
  · intro once
    obtain ⟨⟨event, found, processed⟩, _⟩ :=
      once (takenOver ++ [.deliver 2 7, .claim 2, .complete 1]) [.fail 2] [] 7 rfl ⟨_, rfl, rfl⟩
    have failed : ((run step empty (takenOver ++ [.deliver 2 7, .claim 2, .complete 1] ++
        [.fail 2])).events 7).map WebhookEvent.status = some .failed := by decide
    rw [found, Option.map_some, processed] at failed
    cases failed

end WebhookState

end Bling.Api
