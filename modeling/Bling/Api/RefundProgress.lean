import Mathlib.Data.Nat.Pairing
import Bling.Api.Refunds

set_option autoImplicit false

namespace Bling.Api

open Library

/-! Whether each refund that is not settled is claimed again. -/

namespace RefundState

/-! ### How often a refund is in the batches -/

/-- What a list of lists holds of a kind when one of them is replaced. -/
theorem countP_flatten_set {α : Type} (p : α → Bool) {lists : List (List α)} {i : Nat}
    {old : List α} (new : List α) (found : lists[i]? = some old) :
    (lists.set i new).flatten.countP p + old.countP p = lists.flatten.countP p + new.countP p := by
  induction lists generalizing i with
  | nil => cases found
  | cons first rest ih =>
      cases i with
      | zero =>
          obtain rfl : first = old := Option.some.inj found
          simp only [List.set_cons_zero, List.flatten_cons, List.countP_append]
          omega
      | succ i =>
          have later := ih (i := i) found
          simp only [List.set_cons_succ, List.flatten_cons, List.countP_append]
          omega

section Steps

variable {s : RefundState} {input : RefundInput}

def heldCount (s : RefundState) (id : RefundId) : Nat :=
  s.batches.flatten.countP fun request => request.1 == id

/-- A sweep claims the refund. -/
def Claims (s : RefundState) (input : RefundInput) (id : RefundId) : Prop :=
  ∃ locked, input = .claimRefunds locked ∧
    id ∈ (dueRefunds s.refunds locked s.clock 25).map Prod.fst

theorem heldCount_pos {id : RefundId} : 0 < s.heldCount id ↔ s.Held id := by
  simp only [heldCount, Held, List.countP_pos_iff, List.mem_flatten, beq_iff_eq]
  constructor
  · intro ⟨request, ⟨requests, member, listed⟩, named⟩
    exact ⟨requests, member, request, listed, named⟩
  · intro ⟨requests, member, request, listed, named⟩
    exact ⟨request, ⟨requests, member, listed⟩, named⟩

theorem countP_claimed {locked : List RefundId} {id : RefundId}
    (unclaimed : ¬ s.Claims (.claimRefunds locked) id) :
    (claimRefunds s.refunds locked s.clock 25).2.countP (fun request => request.1 == id) = 0 := by
  rw [List.countP_eq_zero]
  intro request member
  obtain ⟨row, listed, rfl⟩ := List.mem_map.mp member
  rw [beq_iff_eq]
  intro same
  exact unclaimed ⟨locked, rfl, List.mem_map.mpr ⟨row, listed, same⟩⟩

/-- What an answer leaves of its batch. -/
theorem step_answer_batches (result : Option RefundResult) {batch : Nat} {request : RefundRequest}
    {rest : List RefundRequest} (held : s.batches[batch]? = some (request :: rest)) :
    ∃ kept, (s.step (.answer batch result)).batches = s.batches.set batch kept ∧
      kept.Sublist rest := by
  cases result with
  | none =>
      rw [step_failed held]
      exact ⟨rest, rfl, .refl _⟩
  | some result =>
      rw [step_answered held]
      split
      · exact ⟨[], rfl, List.nil_sublist _⟩
      · exact ⟨rest, rfl, .refl _⟩

/-- A refund that no sweep claims comes into no more batches. -/
theorem heldCount_le {id : RefundId} (unclaimed : ¬ s.Claims input id) :
    (s.step input).heldCount id ≤ s.heldCount id := by
  cases input with
  | tick time => exact Nat.le_refl _
  | request intentId => exact Nat.le_refl _
  | claimRefunds locked =>
      show (s.batches ++ [(claimRefunds s.refunds locked s.clock 25).2]).flatten.countP _ ≤ _
      rw [List.flatten_append, List.countP_append, List.flatten_singleton,
        countP_claimed unclaimed]
      exact Nat.le_refl _
  | answer batch result =>
      cases held : s.batches[batch]? with
      | none => rw [step_unanswered (by simp [held])]
      | some requests =>
          cases requests with
          | nil => rw [step_unanswered (by simp [held])]
          | cons request rest =>
              obtain ⟨kept, becomes, part⟩ := step_answer_batches result held
              have fewer : kept.countP (fun request => request.1 == id) ≤
                  rest.countP fun request => request.1 == id := part.countP_le
              have moved := countP_flatten_set (fun request => request.1 == id) kept held
              rw [List.countP_cons] at moved
              unfold heldCount
              rw [becomes]
              omega
  | reconcile refundId intentId status failureCode => exact Nat.le_refl _
  | crash batch =>
      show (s.batches.set batch []).flatten.countP _ ≤ _
      cases held : s.batches[batch]? with
      | none =>
          rw [List.set_eq_of_length_le (List.getElem?_eq_none_iff.mp held)]
          exact Nat.le_refl _
      | some requests =>
          have moved := countP_flatten_set (fun request => request.1 == id) [] held
          rw [List.countP_nil] at moved
          unfold heldCount
          omega

theorem heldCount_answer {id : RefundId} (answers : s.Answers input id) :
    (s.step input).heldCount id < s.heldCount id := by
  obtain ⟨batch, result, request, rest, rfl, held, rfl⟩ := answers
  obtain ⟨kept, becomes, part⟩ := step_answer_batches result held
  have fewer : kept.countP (fun other => other.1 == request.1) ≤
      rest.countP fun other => other.1 == request.1 := part.countP_le
  have moved := countP_flatten_set (fun other => other.1 == request.1) kept held
  rw [List.countP_cons, beq_self_eq_true, if_pos rfl] at moved
  unfold heldCount
  rw [becomes]
  omega

theorem heldCount_crash {batch : Nat} {requests : List RefundRequest}
    (held : s.batches[batch]? = some requests) {request : RefundRequest}
    (listed : request ∈ requests) :
    (s.step (.crash batch)).heldCount request.1 < s.heldCount request.1 := by
  show (s.batches.set batch []).flatten.countP _ < _
  have moved := countP_flatten_set (fun other => other.1 == request.1) [] held
  have counted : 0 < requests.countP fun other => other.1 == request.1 :=
    List.countP_pos_iff.mpr ⟨request, listed, beq_self_eq_true _⟩
  rw [List.countP_nil] at moved
  unfold heldCount
  omega

/-! ### Attempts left -/

/-- The attempts that are left of a row, also of one that is not there yet. -/
def left (s : RefundState) (id : RefundId) : Nat :=
  ((s.refunds.get id).map fun refund => 10 - refund.attempts).getD 10

theorem left_of_get {id : RefundId} {refund : PaymentRefund}
    (found : s.refunds.get id = some refund) : s.left id = 10 - refund.attempts := by
  simp [left, found]

theorem RefundGoes.attempts_le {id : RefundId} {a b : PaymentRefund}
    (goes : s.RefundGoes input id a b) : a.attempts ≤ b.attempts := by
  cases goes with
  | same unchanged => exact unchanged ▸ Nat.le_refl _
  | claimed locked asked member becomes => exact becomes ▸ Nat.le_succ _
  | answered batch result request rest asked held named attempts later status =>
      exact Nat.le_of_eq attempts.symm
  | reconciled refundId intentId status failureCode asked attempts same isOpen =>
      exact Nat.le_of_eq attempts.symm

theorem left_le (s : RefundState) (input : RefundInput) (id : RefundId) :
    (s.step input).left id ≤ s.left id := by
  cases before : s.refunds.get id with
  | none =>
      have most (s : RefundState) : s.left id ≤ 10 := by
        unfold left
        cases s.refunds.get id with
        | none => exact Nat.le_refl 10
        | some refund => exact Nat.sub_le 10 _
      have whole : s.left id = 10 := by simp [left, before]
      exact whole ▸ most _
  | some refund =>
      obtain ⟨next, there, goes⟩ := (step_refunds s input).kept id refund before
      rw [left_of_get before, left_of_get there]
      have := goes.attempts_le
      omega

/-- A sweep takes an attempt of each row that it claims. -/
theorem left_claimed {locked : List RefundId} {row : RefundId × PaymentRefund}
    (member : row ∈ dueRefunds s.refunds locked s.clock 25) :
    (s.step (.claimRefunds locked)).left row.1 < s.left row.1 := by
  obtain ⟨found, due, _⟩ := mem_dueRefunds member
  have there : (s.step (.claimRefunds locked)).refunds.get row.1 =
      some { row.2 with status := .processing, attempts := row.2.attempts + 1 } := by
    refine (Table.get_foldl_patch (dueRefunds_nodup ..) member
      (fun row refund => { refund with status := .processing, attempts := row.2.attempts + 1 })
      s.refunds).trans ?_
    rw [found, Option.map_some]
  rw [left_of_get found, left_of_get there]
  have few : row.2.attempts < 10 := by
    simp only [PaymentRefund.due, Bool.and_eq_true, decide_eq_true_eq] at due
    exact due.2
  show 10 - (row.2.attempts + 1) < 10 - row.2.attempts
  omega

theorem clock_step (s : RefundState) (input : RefundInput) : s.clock ≤ (s.step input).clock := by
  cases input with
  | tick time => exact Nat.le_max_left _ _
  | request intentId => exact Nat.le_refl _
  | claimRefunds locked => exact Nat.le_refl _
  | answer batch result =>
      cases held : s.batches[batch]? with
      | none => rw [step_unanswered (by simp [held])]
      | some requests =>
          cases requests with
          | nil => rw [step_unanswered (by simp [held])]
          | cons request rest =>
              cases result with
              | none => rw [step_failed held]
              | some result =>
                  rw [step_answered held]
                  split <;> exact Nat.le_refl _
  | reconcile refundId intentId status failureCode => exact Nat.le_refl _
  | crash batch => exact Nat.le_refl _

end Steps

/-! ### Runs without end -/

/-- The states of the run, in order. -/
abbrev after (inputs : Nat → RefundInput) (n : Nat) : RefundState :=
  trace RefundState.step .empty inputs n

/-- Time goes on, no lock is held for ever, and each batch comes to an end. -/
structure FairRefunds (inputs : Nat → RefundInput) : Prop where
  time (bound : Time) : ∃ n, bound < (after inputs n).clock
  sweeps (n : Nat) (id : RefundId) :
    ∃ m, n ≤ m ∧ ∃ locked, inputs m = .claimRefunds locked ∧ id ∉ locked
  batches (n batch : Nat) : ∃ m, n ≤ m ∧
    ((∃ result, inputs m = .answer batch result) ∨ inputs m = .crash batch)

section Forever

variable {inputs : Nat → RefundInput}

/-- The next request of a batch is answered in the end, or its worker is gone. -/
theorem next_release (orderly : ∀ m, (after inputs m).orderly (inputs m) = true)
    {batch : Nat} {requests : List RefundRequest} {n : Nat}
    (stored : (after inputs n).batches[batch]? = some requests)
    (distance : Nat) {k : Nat} (far : k = n + distance)
    (release : (∃ result, inputs k = .answer batch result) ∨ inputs k = .crash batch) :
    ∃ m, n ≤ m ∧ (after inputs m).batches[batch]? = some requests ∧
      ((∃ result, inputs m = .answer batch result) ∨ inputs m = .crash batch) := by
  induction distance generalizing n with
  | zero =>
      subst far
      exact ⟨k, Nat.le_refl k, stored, release⟩
  | succ distance ih =>
      rcases step_batch (orderly n) stored with
        ⟨same, _⟩ | ⟨result, request, rest, asked, _, _⟩ | gone
      · obtain ⟨m, later, held⟩ := ih (n := n + 1) same (by omega)
        exact ⟨m, Nat.le_of_succ_le later, held⟩
      · exact ⟨n, Nat.le_refl n, stored, Or.inl ⟨result, asked⟩⟩
      · exact ⟨n, Nat.le_refl n, stored, Or.inr gone⟩

/-- Whatever a batch holds is reported on in the end, or its worker is gone. -/
theorem eventually_released (fair : FairRefunds inputs)
    (orderly : ∀ m, (after inputs m).orderly (inputs m) = true) {batch : Nat}
    {request : RefundRequest} (requests : List RefundRequest) {n : Nat}
    (stored : (after inputs n).batches[batch]? = some requests) (listed : request ∈ requests) :
    ∃ m, n ≤ m ∧ (after inputs (m + 1)).heldCount request.1 <
      (after inputs m).heldCount request.1 := by
  induction requests generalizing n with
  | nil => cases listed
  | cons first rest ih =>
      obtain ⟨k, later, release⟩ := fair.batches n batch
      obtain ⟨m, start, held, ends⟩ :=
        next_release orderly stored (k - n) (by omega) release
      rcases ends with ⟨result, asked⟩ | gone
      · rcases List.mem_cons.mp listed with rfl | listed
        · exact ⟨m, start, heldCount_answer ⟨batch, result, request, rest, asked, held, rfl⟩⟩
        · rcases step_batch (orderly m) held with
            ⟨_, idle⟩ | ⟨_, _, _, _, taken, still⟩ | gone
          · cases idle result asked
          · obtain ⟨rfl, rfl⟩ := List.cons.inj taken
            obtain ⟨k, after, falls⟩ := ih (n := m + 1) still listed
            exact ⟨k, by omega, falls⟩
          · rw [asked] at gone
            cases gone
      · refine ⟨m, start, ?_⟩
        show ((after inputs m).step (inputs m)).heldCount _ < _
        rw [gone]
        exact heldCount_crash held listed

/-- A refund that no sweep claims is in the end in no batch, and stays out. -/
theorem eventually_unheld (fair : FairRefunds inputs)
    (orderly : ∀ m, (after inputs m).orderly (inputs m) = true) {id : RefundId} {n : Nat}
    (unclaimed : ∀ m, n ≤ m → ¬ (after inputs m).Claims (inputs m) id) :
    ∃ m, n ≤ m ∧ ∀ k, m ≤ k → ¬ (after inputs k).Held id := by
  have falls (m : Nat) (start : n ≤ m) :
      (after inputs (m + 1)).heldCount id ≤ (after inputs m).heldCount id :=
    heldCount_le (unclaimed m start)
  have stays {m k : Nat} (start : n ≤ m) (later : m ≤ k)
      (unheld : ¬ (after inputs m).Held id) : ¬ (after inputs k).Held id := by
    rw [← heldCount_pos] at unheld ⊢
    induction later with
    | refl => exact unheld
    | step further ih =>
        intro held
        exact ih (Nat.lt_of_lt_of_le held (falls _ (Nat.le_trans start further)))
  apply Classical.byContradiction
  intro never
  have always (m : Nat) (start : n ≤ m) : (after inputs m).Held id := by
    apply Classical.byContradiction
    intro unheld
    exact never ⟨m, start, fun k later => stays start later unheld⟩
  refine no_endless_descent (fun m => (after inputs m).heldCount id) (n := n) falls ?_
  intro m start
  obtain ⟨batch, requests, stored, request, listed, rfl⟩ := held_iff.mp (always m start)
  exact eventually_released fair orderly requests stored listed

/-! ### Rows that are passed over -/

theorem after_keeps (holds : RefundState → Prop)
    (keeps : ∀ s input, holds s → s.orderly input = true → holds (s.step input))
    (orderly : ∀ m, (after inputs m).orderly (inputs m) = true) {n m : Nat} (later : n ≤ m)
    (before : holds (after inputs n)) : holds (after inputs m) :=
  trace_keeps holds keeps before orderly later

theorem tended_after (orderly : ∀ m, (after inputs m).orderly (inputs m) = true) (n : Nat) :
    (after inputs n).Tended := by
  refine after_keeps Tended (fun s input tended orderly => tended.step orderly) orderly (Nat.zero_le n) ?_
  intro id refund found
  cases found

theorem final_after (orderly : ∀ m, (after inputs m).orderly (inputs m) = true) {n m : Nat}
    (later : n ≤ m) {id : RefundId} {refund : PaymentRefund}
    (found : (after inputs n).refunds.get id = some refund)
    (final : isFinal refund.status = true) :
    ∃ last, (after inputs m).refunds.get id = some last ∧ isFinal last.status = true := by
  refine after_keeps (fun s => ∃ last, s.refunds.get id = some last ∧
    isFinal last.status = true) ?_ orderly later ⟨refund, found, final⟩
  intro s input ⟨_, there, settled⟩ orderly
  exact final_step orderly there settled

theorem clock_after {n m : Nat} (later : n ≤ m) :
    (after inputs n).clock ≤ (after inputs m).clock := by
  induction later with
  | refl => exact Nat.le_refl _
  | step _ ih => exact Nat.le_trans ih (clock_step _ _)

/-- A refund that is not settled from here on, and that no sweep claims. -/
structure Overlooked (inputs : Nat → RefundInput) (id : RefundId) (n : Nat) : Prop where
  present : ∃ refund, (after inputs n).refunds.get id = some refund
  unsettled : ∀ m, n ≤ m → ∀ refund, (after inputs m).refunds.get id = some refund →
    isFinal refund.status = false
  unclaimed : ∀ m, n ≤ m → ¬ (after inputs m).Claims (inputs m) id

theorem Overlooked.later {id : RefundId} {n m : Nat} (overlooked : Overlooked inputs id n)
    (later : n ≤ m) : Overlooked inputs id m where
  present := by
    induction later with
    | refl => exact overlooked.present
    | step _ ih =>
        obtain ⟨refund, found⟩ := ih
        obtain ⟨next, there, _⟩ := (step_refunds _ _).kept id refund found
        exact ⟨next, there⟩
  unsettled := fun k further => overlooked.unsettled k (Nat.le_trans later further)
  unclaimed := fun k further => overlooked.unclaimed k (Nat.le_trans later further)

/-- Where no worker has it, it keeps the time of its next attempt and can be claimed. -/
theorem Overlooked.waits (orderly : ∀ m, (after inputs m).orderly (inputs m) = true)
    {id : RefundId} {n : Nat} (overlooked : Overlooked inputs id n)
    (unheld : ∀ m, n ≤ m → ¬ (after inputs m).Held id) :
    ∃ time, ∀ m, n ≤ m → ∃ refund, (after inputs m).refunds.get id = some refund ∧
      refund.nextAttemptAt = time ∧ Claimable refund := by
  have claimable {m : Nat} (later : n ≤ m) {refund : PaymentRefund}
      (found : (after inputs m).refunds.get id = some refund) : Claimable refund :=
    (tended_after orderly m id refund found (overlooked.unsettled m later refund found)).resolve_right
      (unheld m later)
  obtain ⟨first, present⟩ := overlooked.present
  refine ⟨first.nextAttemptAt, fun m later => ?_⟩
  induction later with
  | refl => exact ⟨first, present, rfl, claimable (Nat.le_refl n) present⟩
  | @step m later ih =>
      obtain ⟨refund, found, same, _⟩ := ih
      obtain ⟨next, there, goes⟩ := (step_refunds _ (inputs m)).kept id refund found
      refine ⟨next, there, ?_, claimable (Nat.le_succ_of_le later) there⟩
      cases goes with
      | same unchanged => exact unchanged ▸ same
      | claimed locked asked member becomes =>
          exact absurd ⟨locked, asked, List.mem_map.mpr ⟨_, member, rfl⟩⟩
            (overlooked.unclaimed m later)
      | answered batch result request rest asked held named attempts later' status =>
          exact absurd (held_iff.mpr ⟨batch, _, held, request, List.mem_cons_self, named⟩)
            (unheld m later)
      | reconciled refundId intentId status failureCode asked attempts kept isOpen =>
          exact kept.trans same

/-- Once a time is past, no new row has its next attempt before it. -/
theorem new_rows_later {n : Nat} {time : Time} (past : time < (after inputs n).clock) {m : Nat}
    (later : n ≤ m) {id : RefundId} {refund : PaymentRefund}
    (found : (after inputs m).refunds.get id = some refund)
    (new : (after inputs n).refunds.next ≤ id) : time < refund.nextAttemptAt := by
  induction later generalizing refund with
  | refl => exact absurd (Table.get_lt found) (Nat.not_lt.mpr new)
  | @step m later ih =>
      have passed : time < (after inputs m).clock := Nat.lt_of_lt_of_le past (clock_after later)
      rcases (step_refunds _ (inputs m)).origin id refund found with
        ⟨before, present, goes⟩ | ⟨_, _, _, rfl⟩
      · have above := ih present
        cases goes with
        | same unchanged => exact unchanged ▸ above
        | claimed locked asked member becomes => exact becomes ▸ above
        | answered batch result request rest asked held named attempts after status =>
            exact Nat.lt_trans passed after
        | reconciled refundId intentId status failureCode asked attempts kept isOpen =>
            exact kept ▸ above
      · exact passed

/-- A sweep that passes a refund over takes an attempt of a row that is due before it. -/
theorem passed_over {s : RefundState} {locked : List RefundId} {id : RefundId}
    {refund : PaymentRefund} (found : s.refunds.get id = some refund) (claimable : Claimable refund)
    (time : refund.nextAttemptAt ≤ s.clock) (unlocked : id ∉ locked)
    (unclaimed : ¬ s.Claims (.claimRefunds locked) id) :
    ∃ other before, s.refunds.get other = some before ∧
      before.nextAttemptAt ≤ refund.nextAttemptAt ∧
      (s.step (.claimRefunds locked)).left other < s.left other := by
  have due : refund.due s.clock = true := by
    obtain ⟨unsettled, idle, few⟩ := claimable
    cases status : refund.status <;>
      simp_all [PaymentRefund.due, isFinal]
  have missed : (id, refund) ∉ dueRefunds s.refunds locked s.clock 25 := by
    intro member
    exact unclaimed ⟨locked, rfl, List.mem_map.mpr ⟨_, member, rfl⟩⟩
  obtain ⟨whole, before⟩ := dueRefunds_before found due unlocked missed
  obtain ⟨row, member⟩ := List.exists_mem_of_length_pos (by omega :
    0 < (dueRefunds s.refunds locked s.clock 25).length)
  refine ⟨row.1, row.2, (mem_dueRefunds member).1, ?_, left_claimed member⟩
  rcases before row member with earlier | ⟨same, _⟩
  · exact Nat.le_of_lt earlier
  · exact Nat.le_of_eq same

/-- No refund is overlooked for ever. -/
theorem not_overlooked (fair : FairRefunds inputs)
    (orderly : ∀ m, (after inputs m).orderly (inputs m) = true) {id : RefundId} {n : Nat}
    (overlooked : Overlooked inputs id n) : False := by
  obtain ⟨free, start, unheld⟩ := eventually_unheld fair orderly overlooked.unclaimed
  obtain ⟨time, waits⟩ := (overlooked.later start).waits orderly unheld
  obtain ⟨passed, past⟩ := fair.time time
  -- from here on every new row comes after this one
  let late := max free passed
  have lateClock : time < (after inputs late).clock :=
    Nat.lt_of_lt_of_le past (clock_after (Nat.le_max_right free passed))
  let next := (after inputs late).refunds.next
  refine no_endless_descent (n := late)
    (fun m => ∑ other ∈ Finset.range next, (after inputs m).left other)
    (fun m _ => Finset.sum_le_sum fun other _ => left_le _ _ other) ?_
  intro m afterLate
  obtain ⟨k, later, locked, asked, unlocked⟩ := fair.sweeps m id
  refine ⟨k, later, ?_⟩
  have reachedFree : free ≤ k :=
    Nat.le_trans (Nat.le_max_left free passed) (Nat.le_trans afterLate later)
  obtain ⟨refund, found, rfl, claimable⟩ := waits k reachedFree
  have clock : (after inputs late).clock ≤ (after inputs k).clock :=
    clock_after (Nat.le_trans afterLate later)
  have unclaimed := overlooked.unclaimed k (Nat.le_trans start reachedFree)
  rw [asked] at unclaimed
  obtain ⟨other, before, there, early, falls⟩ := passed_over found claimable
    (Nat.le_of_lt (Nat.lt_of_lt_of_le lateClock clock)) unlocked unclaimed
  refine Finset.sum_lt_sum (fun other _ => left_le _ _ other) ⟨other, ?_, ?_⟩
  · rw [Finset.mem_range]
    apply Nat.lt_of_not_le
    intro new
    exact Nat.not_lt.mpr early (new_rows_later lateClock (Nat.le_trans afterLate later) there new)
  · show ((after inputs k).step (inputs k)).left other < _
    rw [asked]
    exact falls

end Forever

/-! ### Final outcomes and further attempts -/

/-- What is settled stays settled, and what is not is claimed again unless it is. -/
structure Progress (inputs : Nat → RefundInput) : Prop where
  final : ∀ n m id refund, n ≤ m → (after inputs n).refunds.get id = some refund →
    isFinal refund.status = true →
    ∃ last, (after inputs m).refunds.get id = some last ∧ isFinal last.status = true
  again : FairRefunds inputs → ∀ n id refund, (after inputs n).refunds.get id = some refund →
    ∃ m, n ≤ m ∧ ((after inputs m).Claims (inputs m) id ∨
      ∃ settled, (after inputs m).refunds.get id = some settled ∧ isFinal settled.status = true)

theorem refunds_make_progress (inputs : Nat → RefundInput)
    (orderly : ∀ n, (after inputs n).orderly (inputs n) = true) : Progress inputs where
  final := fun _ _ _ _ later found final => final_after orderly later found final
  again := by
    intro fair n id refund found
    apply Classical.byContradiction
    intro never
    suffices overlooked : Overlooked inputs id n from not_overlooked fair orderly overlooked
    refine ⟨⟨refund, found⟩, ?_, ?_⟩
    · intro m later settled there
      rw [← Bool.not_eq_true]
      intro final
      exact never ⟨m, later, Or.inr ⟨settled, there, final⟩⟩
    · intro m later claims
      exact never ⟨m, later, Or.inl claims⟩

/-! ### A run without end -/

/-- The first call of a refund fails, and the second doesn't. From then on time passes, sweeps go
on, and one batch after another is asked for an answer. -/
def answeredLater : Nat → RefundInput
  | 0 => .request 7
  | 1 => .claimRefunds []
  | 2 => .answer 0 none
  | 3 => .tick 2000
  | 4 => .claimRefunds []
  | 5 => .answer 1 (some ⟨some 9, .succeeded, none⟩)
  | n + 6 =>
    if n % 3 = 0 then .tick n
    else if n % 3 = 1 then .claimRefunds []
    else .answer (Nat.unpair (n / 3)).1 none

theorem answeredLater_tick (k : Nat) : answeredLater (3 * k + 6) = .tick (3 * k) := by
  have round : 3 * k % 3 = 0 := by omega
  simp only [answeredLater, round, if_true]

theorem answeredLater_sweep (k : Nat) : answeredLater (3 * k + 1 + 6) = .claimRefunds [] := by
  have round : (3 * k + 1) % 3 = 1 := by omega
  simp only [answeredLater, round, if_true]
  rfl

theorem answeredLater_answer (k : Nat) :
    answeredLater (3 * k + 2 + 6) = .answer (Nat.unpair k).1 none := by
  have round : (3 * k + 2) % 3 = 2 := by omega
  have number : (3 * k + 2) / 3 = k := by omega
  simp only [answeredLater, round, number]
  rfl

theorem answeredLater_fair : FairRefunds answeredLater where
  time bound := by
    have passes (n : Nat) : n < 3 * (n + 1) := by omega
    refine ⟨3 * (bound + 1) + 7, ?_⟩
    show bound < ((after answeredLater (3 * (bound + 1) + 6)).step
      (answeredLater (3 * (bound + 1) + 6))).clock
    rw [answeredLater_tick]
    exact Nat.lt_of_lt_of_le (passes bound) (Nat.le_max_right _ _)
  sweeps n id := ⟨3 * n + 1 + 6, by omega, [], answeredLater_sweep n, List.not_mem_nil⟩
  batches n batch := by
    refine ⟨3 * Nat.pair batch n + 2 + 6, ?_, Or.inl ⟨none, ?_⟩⟩
    · have := Nat.right_le_pair batch n
      omega
    · rw [answeredLater_answer, Nat.unpair_pair]

/-- Every refund is final, and no worker holds one. -/
def Done (s : RefundState) : Prop :=
  (∀ id refund, s.refunds.get id = some refund → isFinal refund.status = true) ∧
    ∀ requests ∈ s.batches, requests = []

theorem Done.unclaimed {s : RefundState} (done : Done s) (locked : List RefundId) :
    dueRefunds s.refunds locked s.clock 25 = [] := by
  apply List.eq_nil_iff_forall_not_mem.mpr
  intro row member
  obtain ⟨present, due, _⟩ := mem_dueRefunds member
  have final := done.1 row.1 row.2 present
  simp only [PaymentRefund.due, Bool.and_eq_true, Bool.or_eq_true, beq_iff_eq] at due
  rcases due.1.1 with (status | status) | status <;> simp [isFinal, status] at final

theorem Done.unanswered {s : RefundState} (done : Done s) (batch : Nat) (request : RefundRequest)
    (rest : List RefundRequest) : s.batches[batch]? ≠ some (request :: rest) := by
  intro held
  cases done.2 _ (List.mem_of_getElem? held)

/-- Where all is done, time, sweeps and answers find nothing to do. -/
theorem Done.step {s : RefundState} (done : Done s) (n : Nat) :
    s.orderly (answeredLater (n + 6)) = true ∧ Done (s.step (answeredLater (n + 6))) := by
  simp only [answeredLater]
  split
  · exact ⟨rfl, done⟩
  · split
    · refine ⟨rfl, ?_⟩
      have unclaimed := done.unclaimed []
      simp only [RefundState.step, claimRefunds, unclaimed, List.foldl_nil, List.map_nil]
      refine ⟨done.1, ?_⟩
      intro requests member
      rcases List.mem_append.mp member with old | new
      · exact done.2 requests old
      · exact List.mem_singleton.mp new
    · rw [step_unanswered (done.unanswered _)]
      refine ⟨?_, done⟩
      simp only [orderly]
      split
      · rename_i held
        exact absurd held (done.unanswered _ _ _)
      · rfl

set_option maxRecDepth 20000 in
theorem answeredLater_done (n : Nat) : Done (after answeredLater (n + 6)) := by
  induction n with
  | zero =>
      constructor
      · intro id refund found
        have all : (after answeredLater 6).refunds.rows.all
            (fun row => isFinal row.2.status) = true := by decide
        exact List.all_eq_true.mp all (id, refund) ((Table.mem_rows_iff _ id refund).mpr found)
      · decide
  | succ n ih => exact (ih.step n).2

set_option maxRecDepth 20000 in
theorem answeredLater_orderly (n : Nat) :
    (after answeredLater n).orderly (answeredLater n) = true := by
  by_cases early : n < 6
  · revert n
    decide
  · obtain ⟨k, rfl⟩ := Nat.exists_eq_add_of_le (Nat.not_lt.mp early)
    rw [Nat.add_comm]
    exact ((answeredLater_done k).step k).1

/-- The refund is claimed again, or settled. -/
theorem answeredLater_progress : Progress answeredLater ∧
    ∃ m, 3 ≤ m ∧ ((after answeredLater m).Claims (answeredLater m) 0 ∨
      ∃ settled, (after answeredLater m).refunds.get 0 = some settled ∧
        isFinal settled.status = true) := by
  have progress := refunds_make_progress answeredLater answeredLater_orderly
  exact ⟨progress, progress.again answeredLater_fair 3 0 _ rfl⟩

/-- Stripe's event overtakes the worker, whose call has failed. -/
def staleWorker : Nat → RefundInput
  | 0 => .request 7
  | 1 => .claimRefunds []
  | 2 => .reconcile (some 9) (some 7) .succeeded none
  | 3 => .answer 0 none
  | n + 4 => .tick n

set_option maxRecDepth 20000 in
theorem succeeded_moves_back : ¬ ∀ inputs, Progress inputs := by
  intro all
  have succeeded : ((after staleWorker 3).refunds.get 0).map PaymentRefund.status =
      some .succeeded := by decide
  have retry : ((after staleWorker 4).refunds.get 0).map PaymentRefund.status = some .retry := by
    decide
  obtain ⟨refund, found, settled⟩ := Option.map_eq_some_iff.mp succeeded
  obtain ⟨last, there, final⟩ := (all staleWorker).final 3 4 0 refund (by decide) found
    (by rw [settled]; rfl)
  rw [there, Option.map_some, Option.some.injEq] at retry
  rw [retry] at final
  cases final

end RefundState

end Bling.Api
