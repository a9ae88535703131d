import Mathlib.Data.List.Basic

set_option autoImplicit false

namespace Library

variable {σ τ ι : Type}

/-- A machine run: the state after a list of inputs. -/
def run (step : σ → ι → σ) (start : σ) (inputs : List ι) : σ :=
  inputs.foldl step start

def Reachable (step : σ → ι → σ) (start state : σ) : Prop :=
  ∃ inputs, state = run step start inputs

/-- Every input of a run meets the guard in the state that receives it. -/
def Along (step : σ → ι → σ) (guard : σ → ι → Prop) : σ → List ι → Prop
  | _, [] => True
  | state, input :: rest => guard state input ∧ Along step guard (step state input) rest

@[simp] theorem run_nil (step : σ → ι → σ) (start : σ) : run step start [] = start := rfl

@[simp] theorem run_cons (step : σ → ι → σ) (start : σ) (input : ι) (rest : List ι) :
    run step start (input :: rest) = run step (step start input) rest := rfl

theorem run_append (step : σ → ι → σ) (start : σ) (front back : List ι) :
    run step start (front ++ back) = run step (run step start front) back :=
  List.foldl_append

@[simp] theorem along_nil (step : σ → ι → σ) (guard : σ → ι → Prop) (start : σ) :
    Along step guard start [] ↔ True := Iff.rfl

@[simp] theorem along_cons (step : σ → ι → σ) (guard : σ → ι → Prop) (start : σ) (input : ι)
    (rest : List ι) : Along step guard start (input :: rest) ↔
      guard start input ∧ Along step guard (step start input) rest := Iff.rfl

instance decidableAlong (step : σ → ι → σ) (guard : σ → ι → Prop)
    [∀ state input, Decidable (guard state input)] :
    (start : σ) → (inputs : List ι) → Decidable (Along step guard start inputs)
  | _, [] => isTrue trivial
  | start, input :: rest =>
    have := decidableAlong step guard (step start input) rest
    inferInstanceAs (Decidable (guard start input ∧ Along step guard (step start input) rest))

theorem along_append (step : σ → ι → σ) (guard : σ → ι → Prop) (start : σ)
    (front back : List ι) : Along step guard start (front ++ back) ↔
      Along step guard start front ∧ Along step guard (run step start front) back := by
  induction front generalizing start with
  | nil => simp
  | cons input rest ih => simp only [List.cons_append, along_cons, run_cons, ih, and_assoc]

/-- A guard that asks nothing of the state. -/
theorem along_of_forall {step : σ → ι → σ} {guard : ι → Prop} {start : σ} {inputs : List ι}
    (all : ∀ input ∈ inputs, guard input) :
    Along step (fun _ input => guard input) start inputs := by
  induction inputs generalizing start with
  | nil => trivial
  | cons input rest ih =>
      simp only [List.mem_cons, forall_eq_or_imp] at all
      exact ⟨all.1, ih all.2⟩

theorem Along.and {step : σ → ι → σ} {first second : σ → ι → Prop} {start : σ} {inputs : List ι}
    (one : Along step first start inputs) (other : Along step second start inputs) :
    Along step (fun state input => first state input ∧ second state input) start inputs := by
  induction inputs generalizing start with
  | nil => trivial
  | cons input rest ih => exact ⟨⟨one.1, other.1⟩, ih one.2 other.2⟩

/-- An invariant every guarded step keeps holds after a guarded run. -/
theorem run_keeps {step : σ → ι → σ} {guard : σ → ι → Prop} (holds : σ → Prop)
    (keeps : ∀ state input, holds state → guard state input → holds (step state input))
    {start : σ} {inputs : List ι} (initial : holds start)
    (guarded : Along step guard start inputs) : holds (run step start inputs) := by
  induction inputs generalizing start with
  | nil => exact initial
  | cons input rest ih => exact ih (keeps start input initial guarded.1) guarded.2

/-- An invariant every step keeps holds in every reachable state. -/
theorem Reachable.induct {step : σ → ι → σ} {start state : σ}
    (reached : Reachable step start state) (holds : σ → Prop) (initial : holds start)
    (keeps : ∀ state input, holds state → holds (step state input)) : holds state := by
  obtain ⟨inputs, rfl⟩ := reached
  induction inputs generalizing start with
  | nil => exact initial
  | cons input rest ih => exact ih (keeps start input initial)

theorem Reachable.refl (step : σ → ι → σ) (start : σ) : Reachable step start start :=
  ⟨[], rfl⟩

theorem Reachable.run {step : σ → ι → σ} {start state : σ} (reached : Reachable step start state)
    (inputs : List ι) : Reachable step start (run step state inputs) := by
  obtain ⟨before, rfl⟩ := reached
  exact ⟨before ++ inputs, (run_append step start before inputs).symm⟩

theorem Reachable.step {step : σ → ι → σ} {start state : σ} (reached : Reachable step start state)
    (input : ι) : Reachable step start (step state input) :=
  reached.run [input]

/-- A guard that a stronger one implies on the states of an invariant. -/
theorem Along.mono {step : σ → ι → σ} {strong weak : σ → ι → Prop} {holds : σ → Prop}
    (keeps : ∀ state input, holds state → strong state input → holds (step state input))
    (weaker : ∀ state input, holds state → strong state input → weak state input)
    {start : σ} {inputs : List ι} (initial : holds start)
    (guarded : Along step strong start inputs) : Along step weak start inputs := by
  induction inputs generalizing start with
  | nil => trivial
  | cons input rest ih =>
      exact ⟨weaker start input initial guarded.1,
        ih (keeps start input initial guarded.1) guarded.2⟩

/-- A property that a step keeps exactly when it meets the guard: it holds all along a run
exactly when the run is guarded. -/
theorem along_iff_prefixes {step : σ → ι → σ} {guard : σ → ι → Prop} (inv holds : σ → Prop)
    (keeps : ∀ state input, inv state → inv (step state input))
    (exactly : ∀ state input, inv state → holds state →
      (guard state input ↔ holds (step state input)))
    {start : σ} {inputs : List ι} (sound : inv start) (initial : holds start) :
    Along step guard start inputs ↔
      ∀ front back, front ++ back = inputs → holds (run step start front) := by
  induction inputs generalizing start with
  | nil =>
      simp only [along_nil, true_iff]
      intro front back whole
      rw [(List.append_eq_nil_iff.mp whole).1]
      exact initial
  | cons input rest ih =>
      rw [along_cons]
      constructor
      · intro guarded front back whole
        have next := (exactly start input sound initial).mp guarded.1
        cases front with
        | nil => exact initial
        | cons first front =>
            obtain ⟨rfl, tail⟩ := List.cons.inj whole
            exact (ih (keeps _ _ sound) next).mp guarded.2 front back tail
      · intro all
        have next := all [input] rest rfl
        have guarded := (exactly start input sound initial).mpr next
        refine ⟨guarded, (ih (keeps _ _ sound) next).mpr ?_⟩
        intro front back whole
        exact all (input :: front) back (by rw [List.cons_append, whole])

/-- How many steps of a run are marked. -/
def countAlong (step : σ → ι → σ) (marks : σ → ι → Bool) : σ → List ι → Nat
  | _, [] => 0
  | state, input :: rest =>
    (if marks state input then 1 else 0) + countAlong step marks (step state input) rest

/-- A potential that pays what each marked step of a guarded run costs. -/
theorem countAlong_cost_le {step : σ → ι → σ} {guard : σ → ι → Prop} {marks : σ → ι → Bool}
    {holds : σ → Prop} (cost : Nat) (potential : σ → Nat)
    (keeps : ∀ state input, holds state → guard state input → holds (step state input))
    (pays : ∀ state input, holds state → guard state input →
      (if marks state input then cost else 0) + potential (step state input) ≤ potential state)
    {start : σ} {inputs : List ι} (initial : holds start)
    (guarded : Along step guard start inputs) :
    cost * countAlong step marks start inputs + potential (run step start inputs) ≤
      potential start := by
  induction inputs generalizing start with
  | nil => simp [countAlong]
  | cons input rest ih =>
      have now := pays start input initial guarded.1
      have later := ih (keeps start input initial guarded.1) guarded.2
      simp only [countAlong, run_cons, Nat.mul_add]
      split at now
      · rename_i marked
        rw [if_pos marked]
        omega
      · rename_i unmarked
        rw [if_neg unmarked]
        omega

/-- Marked steps are at most as many as a potential that pays for each of them. -/
theorem countAlong_le {step : σ → ι → σ} {marks : σ → ι → Bool} {holds : σ → Prop}
    (potential : σ → Nat) (keeps : ∀ state input, holds state → holds (step state input))
    (pays : ∀ state input, holds state →
      (if marks state input then 1 else 0) + potential (step state input) ≤ potential state)
    {start : σ} {inputs : List ι} (initial : holds start) :
    countAlong step marks start inputs + potential (run step start inputs) ≤ potential start := by
  have guarded : Along step (fun _ _ => True) start inputs :=
    along_of_forall fun _ _ => trivial
  have paid := countAlong_cost_le 1 potential (fun state input held _ => keeps state input held)
    (fun state input held _ => pays state input held) initial guarded
  omega

/-- What the steps of a run put out. -/
def outputs {ω : Type} (step : σ → ι → σ) (out : σ → ι → List ω) : σ → List ι → List ω
  | _, [] => []
  | state, input :: rest => out state input ++ outputs step out (step state input) rest

/-- An invariant of the state and of all that was put out so far. -/
theorem outputs_keeps {ω : Type} {step : σ → ι → σ} {out : σ → ι → List ω}
    {guard : σ → ι → Prop} (holds : σ → List ω → Prop)
    (keeps : ∀ state input before, holds state before → guard state input →
      holds (step state input) (before ++ out state input))
    {start : σ} {inputs : List ι} {before : List ω} (initial : holds start before)
    (guarded : Along step guard start inputs) :
    holds (run step start inputs) (before ++ outputs step out start inputs) := by
  induction inputs generalizing start before with
  | nil => simpa [outputs] using initial
  | cons input rest ih =>
      have later := ih (keeps start input before initial guarded.1) guarded.2
      rw [List.append_assoc] at later
      exact later

/-- Steps that each take from a potential are at most as many. -/
theorem along_bounded {step : σ → ι → σ} {guard : σ → ι → Prop} (potential : σ → Nat)
    (pays : ∀ state input, guard state input → potential (step state input) < potential state)
    {start : σ} {inputs : List ι} (guarded : Along step guard start inputs) :
    inputs.length ≤ potential start := by
  induction inputs generalizing start with
  | nil => exact Nat.zero_le _
  | cons input rest ih =>
      have now := pays start input guarded.1
      have later := ih guarded.2
      rw [List.length_cons]
      omega

/-! ### Runs without end -/

/-- The states of a run without end. -/
def trace (step : σ → ι → σ) (start : σ) (inputs : Nat → ι) : Nat → σ
  | 0 => start
  | n + 1 => step (trace step start inputs n) (inputs n)

/-- An invariant every guarded step keeps holds in every state of a guarded run. -/
theorem trace_keeps {step : σ → ι → σ} {guard : σ → ι → Prop} {start : σ} {inputs : Nat → ι}
    (holds : σ → Prop)
    (keeps : ∀ state input, holds state → guard state input → holds (step state input))
    {n : Nat} (before : holds (trace step start inputs n))
    (guarded : ∀ m, guard (trace step start inputs m) (inputs m)) {m : Nat} (later : n ≤ m) :
    holds (trace step start inputs m) := by
  induction later with
  | refl => exact before
  | step _ ih => exact keeps _ _ ih (guarded _)

/-- What never rises does not fall for ever. -/
theorem no_endless_descent (potential : Nat → Nat) {n : Nat}
    (falls : ∀ m, n ≤ m → potential (m + 1) ≤ potential m)
    (often : ∀ m, n ≤ m → ∃ k, m ≤ k ∧ potential (k + 1) < potential k) : False := by
  have bounded {m k : Nat} (start : n ≤ m) (later : m ≤ k) : potential k ≤ potential m := by
    induction later with
    | refl => exact Nat.le_refl _
    | step after ih => exact Nat.le_trans (falls _ (Nat.le_trans start after)) ih
  have descends (bound : Nat) : ∃ m, n ≤ m ∧ potential m + bound ≤ potential n := by
    induction bound with
    | zero => exact ⟨n, Nat.le_refl n, Nat.le_refl _⟩
    | succ bound ih =>
        obtain ⟨m, start, below⟩ := ih
        obtain ⟨k, later, less⟩ := often m start
        have := bounded start later
        exact ⟨k + 1, by omega, by omega⟩
  obtain ⟨m, _, below⟩ := descends (potential n + 1)
  omega

end Library
