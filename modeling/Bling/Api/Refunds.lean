import Mathlib.Data.List.Sort
import Bling.Library.Machine
import Bling.Schema

set_option autoImplicit false

namespace Bling.Api

open Library

/-! Refunds of the Go API: the sweep of `finance/service.go`, Stripe's events,
and what `finance/store.go` makes of the rows. -/

/-! ### Rows -/

/-- A row of `payment_refunds`. -/
structure PaymentRefund where
  stripePaymentIntentId : StripeId
  stripeRefundId : Option StripeId
  status : RefundStatus
  attempts : Nat
  failureCode : Option String
  nextAttemptAt : Time
  processedAt : Option Time
deriving DecidableEq

abbrev PaymentRefunds := Table PaymentRefund

/-- A row as a worker has claimed it, with the attempt that is now made of it. -/
abbrev RefundRequest := RefundId × PaymentRefund

structure RefundResult where
  id : Option StripeId
  status : RefundStatus
  failureCode : Option String
deriving DecidableEq

def isFinal (status : RefundStatus) : Bool := status == .succeeded || status == .failed

/-- Any other status is recorded as `PENDING`. -/
def recordedStatus (status : RefundStatus) : RefundStatus :=
  if isFinal status then status else .pending

/-- `stripe_refund_id TEXT UNIQUE`: another row has the id. -/
def idTaken (refunds : PaymentRefunds) (id : RefundId) (stripeRefundId : Option StripeId) : Bool :=
  stripeRefundId.isSome &&
    refunds.rows.any fun row => row.1 != id && row.2.stripeRefundId == stripeRefundId

def newRefund (intentId : StripeId) (now : Time) : PaymentRefund :=
  { stripePaymentIntentId := intentId
    stripeRefundId := none
    status := .requested
    attempts := 0
    failureCode := none
    nextAttemptAt := now
    processedAt := none }

def PaymentRefund.due (now : Time) (refund : PaymentRefund) : Bool :=
  (refund.status == .requested || refund.status == .retry || refund.status == .pending) &&
    decide (refund.nextAttemptAt ≤ now) && decide (refund.attempts < 10)

/-- The order of `ORDER BY r.next_attempt_at,r.id`. -/
def dueBefore (a b : RefundId × PaymentRefund) : Prop :=
  a.2.nextAttemptAt < b.2.nextAttemptAt ∨ (a.2.nextAttemptAt = b.2.nextAttemptAt ∧ a.1 ≤ b.1)

instance : DecidableRel dueBefore := fun _ _ => inferInstanceAs (Decidable (_ ∨ _))

/-- The first of the rows that are due. Those that another transaction has
locked are skipped. -/
def dueRefunds (refunds : PaymentRefunds) (locked : List RefundId) (now : Time) (limit : Nat) :
    List (RefundId × PaymentRefund) :=
  (((refunds.query (PaymentRefund.due now)).filter fun row =>
    decide (row.1 ∉ locked)).insertionSort dueBefore).take limit

def claimRefunds (refunds : PaymentRefunds) (locked : List RefundId) (now : Time) (limit : Nat) :
    PaymentRefunds × List RefundRequest :=
  let claimed := dueRefunds refunds locked now limit
  (claimed.foldl (fun refunds row => refunds.patch row.1 fun refund =>
      { refund with status := .processing, attempts := row.2.attempts + 1 }) refunds,
    claimed.map fun row => (row.1, { row.2 with attempts := row.2.attempts + 1 }))

def answeredRefund (result : RefundResult) (now : Time) (refund : PaymentRefund) : PaymentRefund :=
  { refund with
    stripeRefundId := result.id
    status := recordedStatus result.status
    failureCode := result.failureCode
    nextAttemptAt := now + 5 * 60000
    processedAt := if isFinal (recordedStatus result.status) then some now else none }

/-- The update fails where the id is another row's. -/
def markRefundResult (refunds : PaymentRefunds) (request : RefundRequest) (result : RefundResult)
    (now : Time) : Option PaymentRefunds :=
  if idTaken refunds request.1 result.id then none
  else some (refunds.patch request.1 (answeredRefund result now))

def retriedRefund (request : RefundRequest) (code : String) (now : Time) (refund : PaymentRefund) :
    PaymentRefund :=
  let failed := 10 ≤ request.2.attempts
  { refund with
    status := if failed then .failed else .retry
    failureCode := some code
    nextAttemptAt := now + 1000 * 2 ^ min request.2.attempts 8
    processedAt := if failed then some now else none }

def markRefundRetry (refunds : PaymentRefunds) (request : RefundRequest) (code : String)
    (now : Time) : PaymentRefunds :=
  refunds.patch request.1 (retriedRefund request code now)

/-- The rows that an event is about. -/
def concerns (refundId intentId : Option StripeId) (refund : PaymentRefund) : Bool :=
  (refundId.isSome && refund.stripeRefundId == refundId) ||
    intentId == some refund.stripePaymentIntentId

def reconciled (refundId : Option StripeId) (status : RefundStatus) (failureCode : Option String)
    (now : Time) (refund : PaymentRefund) : PaymentRefund :=
  { refund with
    stripeRefundId := refund.stripeRefundId.or refundId
    status := recordedStatus status
    failureCode
    processedAt := if isFinal (recordedStatus status) then some now else refund.processedAt }

/-- One statement, which changes nothing if it would give two rows one id. -/
def reconcileRefund (refunds : PaymentRefunds) (refundId intentId : Option StripeId)
    (status : RefundStatus) (failureCode : Option String) (now : Time) : PaymentRefunds :=
  let after := refunds.patchWhere (concerns refundId intentId)
    (reconciled refundId status failureCode now)
  if after.rows.any fun row => idTaken after row.1 row.2.stripeRefundId then refunds else after

/-! ### Sweeps and events -/

structure RefundState where
  clock : Time
  refunds : PaymentRefunds
  /-- What each sweep has claimed and not reported yet, in order. -/
  batches : List (List RefundRequest)

inductive RefundInput where
  | tick (time : Time)
  /-- A refund is requested, by the rest of the API. -/
  | request (intentId : StripeId)
  /-- `processRefunds` claims a batch. -/
  | claimRefunds (locked : List RefundId)
  /-- The gateway has answered the next request of a batch. -/
  | answer (batch : Nat) (result : Option RefundResult)
  /-- An event of Stripe's is processed. -/
  | reconcile (refundId intentId : Option StripeId) (status : RefundStatus)
      (failureCode : Option String)
  /-- The worker of a batch is gone. -/
  | crash (batch : Nat)

namespace RefundState

def empty : RefundState := ⟨0, .empty, []⟩

/-- An error of `MarkRefundResult` ends the sweep, with the rest of its batch. -/
def step (s : RefundState) : RefundInput → RefundState
  | .tick time => { s with clock := max s.clock time }
  | .request intentId => { s with refunds := s.refunds.insert (newRefund intentId s.clock) }
  | .claimRefunds locked =>
    let (refunds, requests) := claimRefunds s.refunds locked s.clock 25
    { s with refunds, batches := s.batches ++ [requests] }
  | .answer batch result =>
    match s.batches[batch]? with
    | some (request :: rest) =>
      match result with
      | none =>
        { s with
          refunds := markRefundRetry s.refunds request "provider_error" s.clock
          batches := s.batches.set batch rest }
      | some result =>
        match markRefundResult s.refunds request result s.clock with
        | some refunds => { s with refunds, batches := s.batches.set batch rest }
        | none => { s with batches := s.batches.set batch [] }
    | _ => s
  | .reconcile refundId intentId status failureCode =>
    { s with refunds := reconcileRefund s.refunds refundId intentId status failureCode s.clock }
  | .crash batch => { s with batches := s.batches.set batch [] }

/-! ### What the condition asks -/

/-- The row can be claimed again after this report, and was not settled before. -/
def canRetry (s : RefundState) (id : RefundId) : Bool :=
  (s.refunds.get id).all fun refund => !isFinal refund.status && decide (refund.attempts < 10)

/-- The row needs no report: it is settled, or can be claimed as it is. -/
def idle (s : RefundState) (id : RefundId) : Bool :=
  (s.refunds.get id).all fun refund => isFinal refund.status ||
    refund.status != .processing && decide (refund.attempts < 10)

/-- A report that settles nothing comes for a row that is not settled and can be
claimed again, an id is no other row's, and a worker that is gone had no row left
to report on. -/
def orderly (s : RefundState) : RefundInput → Bool
  | .answer batch result =>
    match s.batches[batch]? with
    | some (request :: _) =>
      match result with
      | none => decide (10 ≤ request.2.attempts) || s.canRetry request.1
      | some result => !idTaken s.refunds request.1 result.id &&
          (isFinal result.status || s.canRetry request.1)
    | _ => true
  | .reconcile refundId intentId status _ =>
    isFinal status || s.refunds.rows.all fun row => !concerns refundId intentId row.2 ||
      !isFinal row.2.status && (decide (row.2.attempts < 10) || row.2.status == .processing)
  | .crash batch => (s.batches[batch]?).all fun requests => requests.all fun request =>
      s.idle request.1
  | _ => true

/-- A worker has the refund in its batch. -/
def Held (s : RefundState) (id : RefundId) : Prop :=
  ∃ requests ∈ s.batches, ∃ request ∈ requests, request.1 = id

def Claimable (refund : PaymentRefund) : Prop :=
  isFinal refund.status = false ∧ refund.status ≠ .processing ∧ refund.attempts < 10

/-- Whatever is not settled is held by a worker, or can be claimed. -/
def Tended (s : RefundState) : Prop :=
  ∀ id refund, s.refunds.get id = some refund → isFinal refund.status = false →
    Claimable refund ∨ s.Held id

/-- What a step can make of a refund. -/
inductive RefundGoes (s : RefundState) (input : RefundInput) (id : RefundId)
    (a b : PaymentRefund) : Prop
  | same (unchanged : b = a)
  | claimed (locked : List RefundId) (asked : input = .claimRefunds locked)
      (member : (id, a) ∈ dueRefunds s.refunds locked s.clock 25)
      (becomes : b = { a with status := .processing, attempts := a.attempts + 1 })
  | answered (batch : Nat) (result : Option RefundResult) (request : RefundRequest)
      (rest : List RefundRequest) (asked : input = .answer batch result)
      (held : s.batches[batch]? = some (request :: rest)) (named : request.1 = id)
      (attempts : b.attempts = a.attempts) (later : s.clock < b.nextAttemptAt)
      (status : isFinal b.status = true ∨ b.status ≠ .processing ∧
        (s.orderly input = true → isFinal a.status = false ∧ a.attempts < 10))
  | reconciled (refundId intentId : Option StripeId) (status : RefundStatus)
      (failureCode : Option String) (asked : input = .reconcile refundId intentId status failureCode)
      (attempts : b.attempts = a.attempts) (same : b.nextAttemptAt = a.nextAttemptAt)
      (status : isFinal b.status = true ∨ b.status = .pending ∧
        (s.orderly input = true → isFinal a.status = false ∧
          (a.attempts < 10 ∨ a.status = .processing)))

abbrev RefundsGo (s : RefundState) (input : RefundInput) : PaymentRefunds → PaymentRefunds → Prop :=
  Table.Follow (s.RefundGoes input) fun b => ∃ intentId, input = .request intentId ∧
    b = newRefund intentId s.clock

/-! ### Claims -/

theorem dueBefore_total (a b : RefundId × PaymentRefund) : dueBefore a b ∨ dueBefore b a := by
  rcases Nat.lt_trichotomy a.2.nextAttemptAt b.2.nextAttemptAt with before | same | after
  · exact Or.inl (Or.inl before)
  · rcases Nat.le_total a.1 b.1 with first | second
    · exact Or.inl (Or.inr ⟨same, first⟩)
    · exact Or.inr (Or.inr ⟨same.symm, second⟩)
  · exact Or.inr (Or.inl after)

theorem dueBefore_trans (a b c : RefundId × PaymentRefund) (first : dueBefore a b)
    (second : dueBefore b c) : dueBefore a c := by
  rcases first with before | ⟨same, first⟩ <;> rcases second with after | ⟨again, second⟩
  · exact Or.inl (Nat.lt_trans before after)
  · exact Or.inl (again ▸ before)
  · exact Or.inl (same ▸ after)
  · exact Or.inr ⟨same.trans again, Nat.le_trans first second⟩

instance : Std.Total dueBefore := ⟨dueBefore_total⟩

instance : IsTrans (RefundId × PaymentRefund) dueBefore := ⟨dueBefore_trans⟩

section Claims

variable {refunds : PaymentRefunds} {locked : List RefundId} {now : Time} {limit : Nat}

theorem mem_dueRefunds {row : RefundId × PaymentRefund}
    (member : row ∈ dueRefunds refunds locked now limit) :
    refunds.get row.1 = some row.2 ∧ row.2.due now = true ∧ row.1 ∉ locked := by
  have kept := (List.mem_insertionSort _).mp (List.mem_of_mem_take member)
  obtain ⟨queried, unlocked⟩ := List.mem_filter.mp kept
  obtain ⟨present, due⟩ := (Table.mem_query _ _ row.1 row.2).mp queried
  exact ⟨present, due, of_decide_eq_true unlocked⟩

theorem dueRefunds_nodup (refunds : PaymentRefunds) (locked : List RefundId) (now : Time)
    (limit : Nat) : ((dueRefunds refunds locked now limit).map Prod.fst).Nodup := by
  unfold dueRefunds
  refine List.Nodup.sublist ((List.take_sublist _ _).map _) ?_
  have all : (((refunds.query (PaymentRefund.due now)).filter fun row =>
      decide (row.1 ∉ locked)).map Prod.fst).Nodup :=
    (refunds.query_nodup _).sublist (List.filter_sublist.map _)
  exact ((List.perm_insertionSort dueBefore _).map Prod.fst).nodup_iff.mpr all

/-- A row that is due is left to a later sweep only for a whole batch before it. -/
theorem dueRefunds_before {id : RefundId} {refund : PaymentRefund}
    (present : refunds.get id = some refund) (due : refund.due now = true)
    (unlocked : id ∉ locked) (left : (id, refund) ∉ dueRefunds refunds locked now limit) :
    (dueRefunds refunds locked now limit).length = limit ∧
      ∀ row ∈ dueRefunds refunds locked now limit, dueBefore row (id, refund) := by
  unfold dueRefunds at left ⊢
  generalize listed : ((refunds.query (PaymentRefund.due now)).filter fun row =>
    decide (row.1 ∉ locked)).insertionSort dueBefore = l at left ⊢
  have sorted : l.Pairwise dueBefore := listed ▸ List.pairwise_insertionSort dueBefore _
  have member : (id, refund) ∈ l := by
    rw [← listed, List.mem_insertionSort, List.mem_filter]
    exact ⟨(Table.mem_query _ _ id refund).mpr ⟨present, due⟩, decide_eq_true unlocked⟩
  rw [← List.take_append_drop limit l] at member sorted
  have dropped : (id, refund) ∈ l.drop limit :=
    (List.mem_append.mp member).resolve_left left
  constructor
  · rw [List.length_take]
    have := List.length_pos_of_mem dropped
    rw [List.length_drop] at this
    omega
  · intro row early
    exact (List.pairwise_append.mp sorted).2.2 row early _ dropped

end Claims

/-! ### Each step -/

section Steps

variable {s : RefundState} {input : RefundInput}

theorem claimRefunds_goes (s : RefundState) (locked : List RefundId) :
    RefundsGo s (.claimRefunds locked) s.refunds
      (claimRefunds s.refunds locked s.clock 25).1 := by
  have stays (id : RefundId) (refund : PaymentRefund) :
      s.RefundGoes (.claimRefunds locked) id refund refund := .same rfl
  refine Table.Follow.foldl_patch stays (dueRefunds_nodup ..) s.refunds
    (f := fun row refund => { refund with status := .processing, attempts := row.2.attempts + 1 })
    ?_
  intro row member refund found
  obtain ⟨present, _, _⟩ := mem_dueRefunds member
  obtain rfl := Option.some.inj (present.symm.trans found)
  exact .claimed locked rfl member rfl

theorem recordedStatus_final {status : RefundStatus} :
    isFinal (recordedStatus status) = isFinal status := by
  cases status <;> rfl

theorem recordedStatus_pending {status : RefundStatus} (settles : isFinal status = false) :
    recordedStatus status = .pending := by
  simp [recordedStatus, settles]

theorem canRetry_of_get {id : RefundId} {refund : PaymentRefund}
    (found : s.refunds.get id = some refund) (can : s.canRetry id = true) :
    isFinal refund.status = false ∧ refund.attempts < 10 := by
  unfold canRetry at can
  rw [found, Option.all_some, Bool.and_eq_true, Bool.not_eq_true', decide_eq_true_eq] at can
  exact can

theorem step_failed {batch : Nat} {request : RefundRequest} {rest : List RefundRequest}
    (held : s.batches[batch]? = some (request :: rest)) :
    s.step (.answer batch none) =
      { s with
        refunds := s.refunds.patch request.1 (retriedRefund request "provider_error" s.clock)
        batches := s.batches.set batch rest } := by
  simp only [step, held]
  rfl

theorem step_answered {batch : Nat} {result : RefundResult} {request : RefundRequest}
    {rest : List RefundRequest} (held : s.batches[batch]? = some (request :: rest)) :
    s.step (.answer batch (some result)) =
      if idTaken s.refunds request.1 result.id then { s with batches := s.batches.set batch [] }
      else { s with
        refunds := s.refunds.patch request.1 (answeredRefund result s.clock)
        batches := s.batches.set batch rest } := by
  simp only [step, held, markRefundResult]
  by_cases taken : idTaken s.refunds request.1 result.id = true <;> simp [taken]

theorem step_unanswered {batch : Nat} {result : Option RefundResult}
    (idle : ∀ request rest, s.batches[batch]? ≠ some (request :: rest)) :
    s.step (.answer batch result) = s := by
  simp only [step]

/-- What a failed request is recorded as. -/
theorem retriedRefund_status {batch : Nat} {request : RefundRequest} {rest : List RefundRequest}
    (held : s.batches[batch]? = some (request :: rest)) {refund : PaymentRefund}
    (found : s.refunds.get request.1 = some refund) (code : String) (now : Time) :
    isFinal (retriedRefund request code now refund).status = true ∨
      (retriedRefund request code now refund).status ≠ .processing ∧
        (s.orderly (.answer batch none) = true →
          isFinal refund.status = false ∧ refund.attempts < 10) := by
  by_cases failed : 10 ≤ request.2.attempts
  · left
    simp [retriedRefund, failed, isFinal]
  · right
    refine ⟨by simp [retriedRefund, failed], fun orderly => ?_⟩
    simp only [RefundState.orderly, held, failed, decide_false, Bool.false_or] at orderly
    exact canRetry_of_get found orderly

/-- What an answered request is recorded as. -/
theorem answeredRefund_status {batch : Nat} {result : RefundResult} {request : RefundRequest}
    {rest : List RefundRequest} (held : s.batches[batch]? = some (request :: rest))
    {refund : PaymentRefund} (found : s.refunds.get request.1 = some refund) (now : Time) :
    isFinal (answeredRefund result now refund).status = true ∨
      (answeredRefund result now refund).status ≠ .processing ∧
        (s.orderly (.answer batch (some result)) = true →
          isFinal refund.status = false ∧ refund.attempts < 10) := by
  by_cases settles : isFinal result.status = true
  · exact Or.inl (recordedStatus_final.trans settles)
  · right
    simp only [Bool.not_eq_true] at settles
    refine ⟨by simp [answeredRefund, recordedStatus_pending settles], fun orderly => ?_⟩
    simp only [RefundState.orderly, held, settles, Bool.false_or, Bool.and_eq_true] at orderly
    exact canRetry_of_get found orderly.2

theorem answer_goes (s : RefundState) {batch : Nat} {result : Option RefundResult}
    {request : RefundRequest} {rest : List RefundRequest}
    (held : s.batches[batch]? = some (request :: rest)) :
    RefundsGo s (.answer batch result) s.refunds (s.step (.answer batch result)).refunds := by
  have stays (id : RefundId) (refund : PaymentRefund) :
      s.RefundGoes (.answer batch result) id refund refund := .same rfl
  cases result with
  | none =>
      rw [step_failed held]
      refine .patch stays ?_
      intro refund found
      refine .answered batch none request rest rfl held rfl rfl ?_
        (retriedRefund_status held found _ _)
      exact Nat.lt_add_of_pos_right (Nat.mul_pos (by decide) (Nat.pow_pos (by decide)))
  | some result =>
      rw [step_answered held]
      split
      · exact .refl stays _
      · refine .patch stays ?_
        intro refund found
        exact .answered batch (some result) request rest rfl held rfl rfl
          (Nat.lt_add_of_pos_right (by decide)) (answeredRefund_status held found _)

theorem reconcile_goes (s : RefundState) (refundId intentId : Option StripeId)
    (status : RefundStatus) (failureCode : Option String) :
    RefundsGo s (.reconcile refundId intentId status failureCode) s.refunds
      (reconcileRefund s.refunds refundId intentId status failureCode s.clock) := by
  unfold reconcileRefund
  dsimp only
  split
  · exact .refl (fun _ _ => .same rfl) _
  · refine .patchWhere (fun _ _ => .same rfl) ?_
    intro id refund found about
    refine .reconciled refundId intentId status failureCode rfl rfl rfl ?_
    by_cases settles : isFinal status = true
    · left
      exact recordedStatus_final.trans settles
    · right
      simp only [Bool.not_eq_true] at settles
      refine ⟨recordedStatus_pending settles, fun orderly => ?_⟩
      simp only [RefundState.orderly, settles, Bool.false_or, List.all_eq_true] at orderly
      have allowed := orderly (id, refund) ((Table.mem_rows_iff _ _ _).mpr found)
      simpa [about] using allowed

theorem step_refunds (s : RefundState) (input : RefundInput) :
    RefundsGo s input s.refunds (s.step input).refunds := by
  have stays (id : RefundId) (refund : PaymentRefund) : s.RefundGoes input id refund refund :=
    .same rfl
  cases input with
  | tick time => exact .refl stays _
  | request intentId => exact .insert stays _ ⟨intentId, rfl, rfl⟩
  | claimRefunds locked => exact claimRefunds_goes s locked
  | answer batch result =>
      cases held : s.batches[batch]? with
      | none =>
          rw [step_unanswered (by simp [held])]
          exact .refl stays _
      | some requests =>
          cases requests with
          | nil =>
              rw [step_unanswered (by simp [held])]
              exact .refl stays _
          | cons request rest => exact answer_goes s held
  | reconcile refundId intentId status failureCode =>
      exact reconcile_goes s refundId intentId status failureCode
  | crash batch => exact .refl stays _

/-! ### Batches -/

/-- The next request of some batch is answered, and it is for the refund. -/
def Answers (s : RefundState) (input : RefundInput) (id : RefundId) : Prop :=
  ∃ batch result request rest, input = .answer batch result ∧
    s.batches[batch]? = some (request :: rest) ∧ request.1 = id

theorem not_taken {batch : Nat} {result : RefundResult} {request : RefundRequest}
    {rest : List RefundRequest} (held : s.batches[batch]? = some (request :: rest))
    (orderly : s.orderly (.answer batch (some result)) = true) :
    idTaken s.refunds request.1 result.id = false := by
  simp only [RefundState.orderly, held, Bool.and_eq_true, Bool.not_eq_true'] at orderly
  exact orderly.1

/-- A step leaves a batch as it is, but for an answer, which takes its next request,
and the end of its worker. -/
theorem step_batch (orderly : s.orderly input = true) {batch : Nat}
    {requests : List RefundRequest} (held : s.batches[batch]? = some requests) :
    ((s.step input).batches[batch]? = some requests ∧
      ∀ result, input = .answer batch result → requests = []) ∨
    (∃ result request rest, input = .answer batch result ∧ requests = request :: rest ∧
      (s.step input).batches[batch]? = some rest) ∨
    input = .crash batch := by
  cases input with
  | tick time => exact Or.inl ⟨held, nofun⟩
  | request intentId => exact Or.inl ⟨held, nofun⟩
  | claimRefunds locked =>
      refine Or.inl ⟨?_, nofun⟩
      show (s.batches ++ _)[batch]? = some requests
      rw [List.getElem?_append_left (List.getElem?_eq_some_iff.mp held).1]
      exact held
  | answer other result =>
      by_cases here : other = batch
      · subst here
        cases requests with
        | nil =>
            rw [step_unanswered (by simp [held])]
            exact Or.inl ⟨held, fun _ _ => rfl⟩
        | cons request rest =>
            refine Or.inr (Or.inl ⟨result, request, rest, rfl, rfl, ?_⟩)
            have bound := (List.getElem?_eq_some_iff.mp held).1
            cases result with
            | none =>
                rw [step_failed held]
                simp [bound]
            | some result =>
                rw [step_answered held, if_neg (by simp [not_taken held orderly])]
                simp [bound]
      · left
        refine ⟨?_, fun result asked => absurd (RefundInput.answer.inj asked).1 here⟩
        cases held' : s.batches[other]? with
        | none =>
            rw [step_unanswered (by simp [held'])]
            exact held
        | some listed =>
            cases listed with
            | nil =>
                rw [step_unanswered (by simp [held'])]
                exact held
            | cons request rest =>
                cases result with
                | none =>
                    rw [step_failed held']
                    simp [List.getElem?_set_ne here, held]
                | some result =>
                    rw [step_answered held']
                    split <;> simp [List.getElem?_set_ne here, held]
  | reconcile refundId intentId status failureCode => exact Or.inl ⟨held, nofun⟩
  | crash other =>
      by_cases here : other = batch
      · exact Or.inr (Or.inr (here ▸ rfl))
      · refine Or.inl ⟨?_, nofun⟩
        show (s.batches.set other [])[batch]? = some requests
        rw [List.getElem?_set_ne here]
        exact held

theorem held_iff {id : RefundId} : s.Held id ↔
    ∃ (batch : Nat) (requests : List RefundRequest), s.batches[batch]? = some requests ∧
      ∃ request ∈ requests, request.1 = id := by
  constructor
  · intro ⟨requests, member, request, listed, named⟩
    obtain ⟨batch, held⟩ := List.getElem?_of_mem member
    exact ⟨batch, requests, held, request, listed, named⟩
  · intro ⟨batch, requests, held, request, listed, named⟩
    exact ⟨requests, List.mem_of_getElem? held, request, listed, named⟩

/-- A worker keeps a refund until it reports on it, or is gone. -/
theorem Held.step {id : RefundId} (held : s.Held id) (orderly : s.orderly input = true) :
    (s.step input).Held id ∨ s.Answers input id ∨
      (∃ batch, input = .crash batch) ∧ s.idle id = true := by
  obtain ⟨batch, requests, stored, request, listed, named⟩ := held_iff.mp held
  rcases step_batch orderly stored with
    ⟨same, _⟩ | ⟨result, first, rest, asked, rfl, taken⟩ | gone
  · exact Or.inl (held_iff.mpr ⟨batch, requests, same, request, listed, named⟩)
  · rcases List.mem_cons.mp listed with rfl | later
    · exact Or.inr (Or.inl ⟨batch, result, request, rest, asked, stored, named⟩)
    · exact Or.inl (held_iff.mpr ⟨batch, rest, taken, request, later, named⟩)
  · subst gone
    refine Or.inr (Or.inr ⟨⟨batch, rfl⟩, ?_⟩)
    simp only [RefundState.orderly, stored, Option.all_some, List.all_eq_true] at orderly
    exact named ▸ orderly request listed

theorem idle_of_get {id : RefundId} {refund : PaymentRefund}
    (found : s.refunds.get id = some refund) (idle : s.idle id = true) :
    isFinal refund.status = true ∨ Claimable refund := by
  unfold RefundState.idle at idle
  rw [found, Option.all_some, Bool.or_eq_true, Bool.and_eq_true, bne_iff_ne,
    decide_eq_true_eq] at idle
  cases final : isFinal refund.status with
  | true => exact Or.inl rfl
  | false => exact Or.inr ⟨final, idle.resolve_left (by simp [final])⟩

/-- A refund that is reported on is settled, or can be claimed again. -/
theorem Answers.settles {id : RefundId} {refund : PaymentRefund}
    (answers : s.Answers input id) (orderly : s.orderly input = true)
    (found : s.refunds.get id = some refund) : ∃ after, (s.step input).refunds.get id = some after ∧
      (isFinal after.status = true ∨ Claimable after) := by
  obtain ⟨batch, result, request, rest, rfl, held, rfl⟩ := answers
  have claimable {after : PaymentRefund} (attempts : after.attempts = refund.attempts)
      (status : isFinal after.status = true ∨ after.status ≠ .processing ∧
        (s.orderly (.answer batch result) = true →
          isFinal refund.status = false ∧ refund.attempts < 10)) :
      isFinal after.status = true ∨ Claimable after := by
    cases final : isFinal after.status with
    | true => exact Or.inl rfl
    | false =>
        rcases status with settled | ⟨idle, retries⟩
        · rw [final] at settled
          cases settled
        · exact Or.inr ⟨final, idle, attempts ▸ (retries orderly).2⟩
  cases result with
  | none =>
      refine ⟨retriedRefund request "provider_error" s.clock refund, ?_,
        claimable rfl (retriedRefund_status held found _ _)⟩
      rw [step_failed held]
      exact Table.get_patch_self found _
  | some result =>
      refine ⟨answeredRefund result s.clock refund, ?_,
        claimable rfl (answeredRefund_status held found _)⟩
      rw [step_answered held, if_neg (by simp [not_taken held orderly])]
      exact Table.get_patch_self found _

theorem Tended.step (tended : s.Tended) (orderly : s.orderly input = true) :
    (s.step input).Tended := by
  intro id after found unsettled
  rcases (step_refunds s input).origin id after found with
    ⟨refund, present, goes⟩ | ⟨_, intentId, _, rfl⟩
  · cases goes with
    | same unchanged =>
        subst unchanged
        rcases tended id after present unsettled with claimable | held
        · exact Or.inl claimable
        · rcases held.step orderly with still | answers | ⟨_, idle⟩
          · exact Or.inr still
          · obtain ⟨other, there, settles⟩ := answers.settles orderly present
            obtain rfl := Option.some.inj (found.symm.trans there)
            rcases settles with settled | claimable
            · rw [unsettled] at settled
              cases settled
            · exact Or.inl claimable
          · rcases idle_of_get present idle with settled | claimable
            · rw [unsettled] at settled
              cases settled
            · exact Or.inl claimable
    | claimed locked asked member becomes =>
        subst asked
        right
        refine ⟨_, List.mem_append_right _ (List.mem_singleton.mpr rfl), _,
          List.mem_map.mpr ⟨(id, refund), member, rfl⟩, rfl⟩
    | answered batch result request rest asked held named attempts later status =>
        left
        rcases status with settled | ⟨idle, retries⟩
        · rw [unsettled] at settled
          cases settled
        · exact ⟨unsettled, idle, attempts ▸ (retries orderly).2⟩
    | reconciled refundId intentId status failureCode asked attempts same isOpen =>
        rcases isOpen with settled | ⟨pending, retries⟩
        · rw [unsettled] at settled
          cases settled
        · obtain ⟨unsettledBefore, few | processing⟩ := retries orderly
          · exact Or.inl ⟨unsettled, by simp [pending], attempts ▸ few⟩
          · rcases tended id refund present unsettledBefore with claimable | held
            · exact absurd processing claimable.2.1
            · rcases held.step orderly with still | ⟨_, _, _, _, answer, _⟩ | ⟨⟨_, crash⟩, _⟩
              · exact Or.inr still
              · rw [asked] at answer
                cases answer
              · rw [asked] at crash
                cases crash
  · left
    exact ⟨rfl, by simp [newRefund], by simp [newRefund]⟩

/-- A final outcome stays final. -/
theorem final_step (orderly : s.orderly input = true) {id : RefundId} {refund : PaymentRefund}
    (found : s.refunds.get id = some refund) (final : isFinal refund.status = true) :
    ∃ after, (s.step input).refunds.get id = some after ∧ isFinal after.status = true := by
  obtain ⟨after, there, goes⟩ := (step_refunds s input).kept id refund found
  refine ⟨after, there, ?_⟩
  cases goes with
  | same unchanged => exact unchanged ▸ final
  | claimed locked asked member becomes =>
      have due := (mem_dueRefunds member).2.1
      cases status : refund.status <;>
        simp [PaymentRefund.due, isFinal, status] at due final
  | answered batch result request rest asked held named attempts later status =>
      rcases status with settled | ⟨_, retries⟩
      · exact settled
      · rw [(retries orderly).1] at final
        cases final
  | reconciled refundId intentId status failureCode asked attempts same isOpen =>
      rcases isOpen with settled | ⟨_, retries⟩
      · exact settled
      · rw [(retries orderly).1] at final
        cases final

end Steps

end RefundState

end Bling.Api
