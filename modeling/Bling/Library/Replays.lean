import Bling.Library.Machine

set_option autoImplicit false

namespace Library

/-! A machine that is told some things more than once, and knows what it has been told. -/

variable {σ ι κ : Type} (step : σ → ι → σ) (spent : σ → ι → Bool)

/-- The inputs of a run that still have something to say when they come. -/
def freshInputs : σ → List ι → List ι
  | _, [] => []
  | state, input :: rest =>
    if spent state input then freshInputs (step state input) rest
    else input :: freshInputs (step state input) rest

theorem freshInputs_sublist (state : σ) (inputs : List ι) :
    (freshInputs step spent state inputs).Sublist inputs := by
  induction inputs generalizing state with
  | nil => exact .slnil
  | cons input rest ih =>
      unfold freshInputs
      split
      · exact .cons input (ih _)
      · exact .cons_cons input (ih _)

/-- Every input left out was spent when it came. -/
theorem freshInputs_keeps {kept : ι → Bool}
    (never : ∀ state input, spent state input = true → kept input = false) (state : σ)
    (inputs : List ι) :
    (freshInputs step spent state inputs).filter kept = inputs.filter kept := by
  induction inputs generalizing state with
  | nil => rfl
  | cons input rest ih =>
      unfold freshInputs
      split
      · next old =>
        rw [ih, List.filter_cons_of_neg (by rw [never state input old]; exact Bool.false_ne_true)]
      · rw [List.filter_cons, List.filter_cons, ih]

/-- Spent inputs that change nothing can be left out. -/
theorem run_freshInputs
    (idle : ∀ state input, spent state input = true → step state input = state)
    (state : σ) (inputs : List ι) :
    run step state (freshInputs step spent state inputs) = run step state inputs := by
  induction inputs generalizing state with
  | nil => rfl
  | cons input rest ih =>
      unfold freshInputs
      split
      · next old =>
        rw [run_cons, idle state input old]
        exact ih state
      · rw [run_cons, run_cons]
        exact ih _

section Keys

variable {step spent} {key : ι → Option κ} {seen : σ → κ → Prop}
  (stale : ∀ state input k, key input = some k → seen state k → spent state input = true)
  (marks : ∀ state input k, key input = some k → spent state input = false →
    seen (step state input) k)
  (lasts : ∀ state input k, seen state k → seen (step state input) k)

include stale lasts in
theorem seen_not_fresh {k : κ} {state : σ} (known : seen state k) (inputs : List ι) :
    k ∉ (freshInputs step spent state inputs).filterMap key := by
  induction inputs generalizing state with
  | nil => exact List.not_mem_nil
  | cons input rest ih =>
      have later := ih (lasts state input k known)
      unfold freshInputs
      split
      · exact later
      · next fresh =>
        intro present
        rw [List.filterMap_cons] at present
        cases named : key input with
        | none =>
            rw [named] at present
            exact later present
        | some other =>
            rw [named, List.mem_cons] at present
            rcases present with rfl | present
            · exact fresh (stale state input _ named known)
            · exact later present

include stale marks lasts in
/-- Told with its key once, an input has nothing more to say for good: no key comes twice. -/
theorem freshInputs_nodup (state : σ) (inputs : List ι) :
    ((freshInputs step spent state inputs).filterMap key).Nodup := by
  induction inputs generalizing state with
  | nil => exact List.nodup_nil
  | cons input rest ih =>
      unfold freshInputs
      split
      · exact ih _
      · next fresh =>
        rw [List.filterMap_cons]
        cases named : key input with
        | none => exact ih _
        | some k =>
            refine List.nodup_cons.mpr ⟨?_, ih _⟩
            exact seen_not_fresh stale lasts
              (marks state input k named (Bool.eq_false_iff.mpr fresh)) rest

end Keys

end Library
