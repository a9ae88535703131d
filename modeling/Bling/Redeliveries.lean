import Bling.Library.Replays
import Bling.RefundRows
import Bling.Registry

set_option autoImplicit false

namespace Bling

open Library

/-! Stripe delivers an event as often as it takes: the second delivery and any later one say
nothing new, whatever happened in between. -/

/-- No mutation forgets an event. -/
theorem Mutation.keeps_known (ctx : Ctx) (db : DB) (m : Mutation) {event : Event}
    (known : db.knows event = true) : (m.apply ctx db).knows event = true := by
  have kept (same : (m.apply ctx db).registry.stripeEvents = db.stripeEvents) :
      (m.apply ctx db).knows event = true := by
    unfold DB.knows
    change (m.apply ctx db).stripeEvents = db.stripeEvents at same
    rw [same]
    exact known
  have written := m.written ctx db
  generalize left : (m.apply ctx db).registry = registry at kept written
  cases written with
  | heard told news =>
      rw [DB.knows_insert db _ (congrArg Registry.stripeEvents left), known, Bool.true_or]
  | _ => exact kept rfl

namespace World

/-- The event a step delivers. -/
def delivered : Ctx × Op → Option Nat
  | (_, .deliver eventId) => some eventId
  | _ => none

/-- The step delivers what Bling has heard already, or what Stripe never told. -/
def redelivers (w : World) (input : Ctx × Op) : Bool :=
  match delivered input with
  | none => false
  | some eventId => match w.stripe.events[eventId]? with
    | none => true
    | some event => w.db.knows event

/-- Bling has heard the event. -/
def Heard (w : World) (eventId : Nat) : Prop :=
  ∃ event, w.stripe.events[eventId]? = some event ∧ w.db.knows event = true

theorem step_redelivers (w : World) (input : Ctx × Op) (again : w.redelivers input = true) :
    w.step input = w := by
  obtain ⟨ctx, op⟩ := input
  cases op with
  | deliver eventId =>
      simp only [redelivers, delivered] at again
      simp only [step]
      split at again
      · next never => rw [never]
      · next event told =>
        rw [told]
        show { w with db := Bling.applyEvent ctx w.db event } = w
        rw [applyEvent_known ctx w.db again]
  | _ => cases again

theorem Heard.step {w : World} {eventId : Nat} (heard : w.Heard eventId) (input : Ctx × Op) :
    (w.step input).Heard eventId := by
  obtain ⟨event, told, known⟩ := heard
  obtain ⟨more, events⟩ := (step_reports w input).events
  refine ⟨event, ?_, ?_⟩
  · rw [events]
    exact List.getElem?_append_left (List.getElem?_eq_some_iff.mp told).1 ▸ told
  · rcases step_ran w input with ⟨_, later, same⟩ | ⟨m, earlier, later, _, same⟩
    · rw [same]
      exact known
    · rw [same]
      exact Mutation.keeps_known input.1 { w.db with scheduled := earlier } m known

theorem deliver_heard {w : World} {input : Ctx × Op} {eventId : Nat}
    (names : delivered input = some eventId) (news : w.redelivers input = false) :
    (w.step input).Heard eventId := by
  obtain ⟨ctx, op⟩ := input
  cases op with
  | deliver other =>
      obtain rfl := Option.some.inj names
      simp only [redelivers, delivered] at news
      split at news
      · cases news
      · next event told =>
        refine ⟨event, ?_, ?_⟩
        · simp only [step, told]
          exact told
        · simp only [step, told]
          show (Bling.applyEvent ctx w.db event).knows event = true
          rw [DB.knows_insert w.db _
            (congrArg Registry.stripeEvents (applyEvent_registry ctx w.db news)), news,
            Bool.false_or, beq_self_eq_true]
  | _ => cases names

/-- A run without what it is told again. -/
def firstDeliveries (w : World) (inputs : List (Ctx × Op)) : List (Ctx × Op) :=
  freshInputs step redelivers w inputs

end World

/-- Whatever is delivered twice, or before Stripe told it, can be left out of a run: what is left
delivers every event once at most, does all else the run did, and ends in the same state. -/
theorem first_deliveries (w : World) (inputs : List (Ctx × Op)) :
    (w.firstDeliveries inputs).Sublist inputs ∧
      (w.firstDeliveries inputs).filter (fun input => (World.delivered input).isNone) =
        inputs.filter (fun input => (World.delivered input).isNone) ∧
      ((w.firstDeliveries inputs).filterMap World.delivered).Nodup ∧
      run World.step w (w.firstDeliveries inputs) = run World.step w inputs := by
  have other (w : World) (input : Ctx × Op) (again : w.redelivers input = true) :
      (World.delivered input).isNone = false := by
    unfold World.redelivers at again
    cases names : World.delivered input with
    | none =>
        rw [names] at again
        cases again
    | some eventId => rfl
  have stale (w : World) (input : Ctx × Op) (eventId : Nat)
      (names : World.delivered input = some eventId) (heard : w.Heard eventId) :
      w.redelivers input = true := by
    obtain ⟨event, told, known⟩ := heard
    simp only [World.redelivers, names, told, known]
  refine ⟨freshInputs_sublist _ _ w inputs, freshInputs_keeps _ _ other w inputs, ?_,
    run_freshInputs _ _ World.step_redelivers w inputs⟩
  exact freshInputs_nodup stale (fun w input eventId names news => World.deliver_heard names news)
    (fun w input eventId heard => heard.step input) w inputs

end Bling
