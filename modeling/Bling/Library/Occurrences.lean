import Mathlib.Data.List.Induction
import Bling.Library.Machine

set_option autoImplicit false

namespace Library

/-! What some step of a run did. -/

variable {σ ι : Type} {step : σ → ι → σ}

/-- Some input of the run is of this kind, for the state that it comes to. -/
def Occurs (step : σ → ι → σ) (kind : σ → ι → Prop) (start : σ) (inputs : List ι) : Prop :=
  ∃ front input back, inputs = front ++ input :: back ∧ kind (run step start front) input

theorem occurs_concat {kind : σ → ι → Prop} {start : σ} {inputs : List ι} {last : ι} :
    Occurs step kind start (inputs ++ [last]) ↔
      Occurs step kind start inputs ∨ kind (run step start inputs) last := by
  constructor
  · rintro ⟨front, input, back, split, caused⟩
    rcases List.eq_nil_or_concat back with rfl | ⟨earlier, other, rfl⟩
    · obtain ⟨rfl, same⟩ := List.append_inj' split rfl
      rw [List.singleton_inj.mp same]
      exact Or.inr caused
    · rw [List.concat_eq_append, ← List.cons_append, ← List.append_assoc] at split
      obtain ⟨rfl, _⟩ := List.append_inj' split rfl
      exact Or.inl ⟨front, input, earlier, rfl, caused⟩
  · rintro (⟨front, input, back, rfl, caused⟩ | caused)
    · exact ⟨front, input, back ++ [last], by rw [List.append_assoc, List.cons_append], caused⟩
    · exact ⟨inputs, last, [], rfl, caused⟩

/-- What holds after a run, and not at its start, some step of it brought about. -/
theorem run_origin (holds : σ → Prop) {cause : σ → ι → Prop}
    (arises : ∀ state input, holds (step state input) → holds state ∨ cause state input)
    {start : σ} (initial : ¬ holds start) {inputs : List ι}
    (now : holds (run step start inputs)) : Occurs step cause start inputs := by
  induction inputs using List.reverseRecOn with
  | nil => exact (initial now).elim
  | append_singleton earlier last ih =>
      rw [run_append, run_cons, run_nil] at now
      rw [occurs_concat]
      exact (arises _ last now).imp ih id

end Library
