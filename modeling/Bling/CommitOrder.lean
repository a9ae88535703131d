import Bling.CallAccounts

set_option autoImplicit false

namespace Bling

open Library

/-! A call going live and a report about its payment commit in either order. The order decides
whether the report posts anything for the call. -/

/-! ### What is posted for a call -/

/-- The kinds and amounts of the call's entries, in the order they were posted. -/
def postings (ledger : Ledger) (attemptId : AttemptId) : List (LedgerKind × Int) :=
  (ledger.ledgerEntries.query fun entry => entry.paymentAttemptId == some attemptId).map
    fun row => (row.2.kind, row.2.amountCents)

section Postings

variable {before after : Ledger} {attemptId : AttemptId}

theorem postings_insert {entry : LedgerEntry}
    (entries : after.ledgerEntries = before.ledgerEntries.insert entry) :
    postings after attemptId = postings before attemptId ++
      (if entry.paymentAttemptId = some attemptId then [(entry.kind, entry.amountCents)]
      else []) := by
  unfold postings
  rw [entries]
  simp only [Table.query, Table.insert, List.filter_append, List.map_append]
  congr 1
  by_cases of : entry.paymentAttemptId = some attemptId
  · simp [of]
  · simp [of]

/-- Entries about other calls are none of this one's. -/
theorem PostsOnly.postings {kind : LedgerEntry → Prop} (posted : PostsOnly kind before after)
    (others : ∀ entry, kind entry → entry.paymentAttemptId ≠ some attemptId) :
    Bling.postings after attemptId = Bling.postings before attemptId := by
  refine posted.induct
    (fun ledger => Bling.postings ledger attemptId = Bling.postings before attemptId) rfl ?_
  intro ledger entry is same
  rcases postEntry_cases ledger entry with ⟨unchanged, _⟩ | ⟨entries, _, _⟩
  · rw [unchanged]
    exact same
  · rw [postings_insert entries, if_neg (others entry is), List.append_nil]
    exact same

end Postings

/-- Nothing has been posted about the call. -/
structure Unposted (ledger : Ledger) (attemptId : AttemptId) : Prop where
  unnamed : ∀ id entry, ledger.ledgerEntries.get id = some entry →
    entry.paymentAttemptId ≠ some attemptId
  unearned : ¬ ledger.Posted (.earning attemptId)

theorem Unposted.postings {ledger : Ledger} {attemptId : AttemptId}
    (unposted : Unposted ledger attemptId) : postings ledger attemptId = [] := by
  unfold Bling.postings
  rw [List.map_eq_nil_iff, List.eq_nil_iff_forall_not_mem]
  rintro ⟨id, entry⟩ member
  obtain ⟨present, of⟩ := (Table.mem_query _ _ _ _).mp member
  exact unposted.unnamed id entry present (beq_iff_eq.mp of)

theorem Unposted.uncredited {ledger : Ledger} {attemptId : AttemptId}
    (unposted : Unposted ledger attemptId) : earningFor ledger attemptId = none := by
  by_contra credited
  obtain ⟨earning, found⟩ := Option.ne_none_iff_exists'.mp credited
  obtain ⟨id, present, of, _⟩ := earningFor_some found
  exact unposted.unnamed id earning present of

/-- A call that has not earned has no entry. -/
theorem AccountsKnown.unposted {db : DB} (known : AccountsKnown db) {attemptId : AttemptId}
    (uncredited : earningFor db.ledger attemptId = none) : Unposted db.ledger attemptId := by
  have unnamed (id : Nat) (entry : LedgerEntry)
      (found : db.ledger.ledgerEntries.get id = some entry) :
      entry.paymentAttemptId ≠ some attemptId := by
    intro of
    obtain ⟨earning, credited⟩ := (known.accounts.accounted id entry found).named attemptId of
    rw [uncredited] at credited
    cases credited
  refine ⟨unnamed, ?_⟩
  rintro ⟨id, entry, found, key⟩
  have kind := (known.accounts.accounted id entry found).kind
  rw [key] at kind
  obtain ⟨own, _, its, of, _⟩ := known.settled.earned id entry found kind
  obtain rfl := LedgerKey.earning.inj (key.symm.trans its)
  exact unnamed id entry found of

/-- The ledger has one more entry than it had: the call's earning. -/
structure JustEarned (before ledger : Ledger) (attemptId : AttemptId) (attempt : PaymentAttempt) :
    Prop where
  unposted : Unposted before attemptId
  entries : ∃ env callId liveAt, ledger.ledgerEntries =
    before.ledgerEntries.insert (earningEntry env attemptId attempt callId liveAt)

section JustEarned

variable {before ledger : Ledger} {attemptId : AttemptId} {attempt : PaymentAttempt}

theorem JustEarned.postings (earned : JustEarned before ledger attemptId attempt) :
    Bling.postings ledger attemptId = [(.earning, attempt.earningCents)] := by
  obtain ⟨env, callId, liveAt, entries⟩ := earned.entries
  rw [postings_insert entries, earned.unposted.postings]
  exact if_pos rfl

theorem JustEarned.credited (earned : JustEarned before ledger attemptId attempt) :
    ∃ earning, earningFor ledger attemptId = some earning ∧
      earning.amountCents = attempt.earningCents := by
  obtain ⟨env, callId, liveAt, entries⟩ := earned.entries
  have present : ledger.ledgerEntries.get before.ledgerEntries.next =
      some (earningEntry env attemptId attempt callId liveAt) := by
    rw [entries, Table.get_insert_next]
  obtain ⟨earning, found⟩ := earningFor_of_get present rfl rfl
  refine ⟨earning, found, ?_⟩
  obtain ⟨id, located, of, _⟩ := earningFor_some found
  rw [entries, Table.get_insert] at located
  split at located
  · obtain rfl := Option.some.inj located
    rfl
  · exact absurd of (earned.unposted.unnamed id earning located)

theorem JustEarned.posted (earned : JustEarned before ledger attemptId attempt) {key : LedgerKey}
    (other : key ≠ .earning attemptId) (posted : ledger.Posted key) : before.Posted key := by
  obtain ⟨env, callId, liveAt, entries⟩ := earned.entries
  obtain ⟨id, entry, found, is⟩ := posted
  rw [entries, Table.get_insert] at found
  split at found
  · obtain rfl := Option.some.inj found
    exact absurd is.symm other
  · exact ⟨id, entry, found, is⟩

theorem JustEarned.untaken (earned : JustEarned before ledger attemptId attempt) :
    takenBack ledger attemptId = 0 := by
  obtain ⟨env, callId, liveAt, entries⟩ := earned.entries
  unfold takenBack
  rw [Table.total_zero, Int.neg_zero]
  intro id entry found reversal
  simp only [isReversalOf, Bool.and_eq_true, beq_iff_eq] at reversal
  rw [entries, Table.get_insert] at found
  split at found
  · obtain rfl := Option.some.inj found
    cases reversal.2
  · exact absurd reversal.1 (earned.unposted.unnamed id entry found)

end JustEarned

/-! ### A call about to go live -/

/-- The paid call is connecting, its payment is captured, and one of the two in it says that it is
live. -/
structure Opening (db : DB) (userId : UserId) (callId : CallId) (call : Call)
    (attemptId : AttemptId) (attempt : PaymentAttempt) : Prop where
  present : db.calls.get callId = some call
  connecting : call.status = .connecting
  pays : call.paymentAttemptId = some attemptId
  held : db.paymentAttempts.get attemptId = some attempt
  captured : attempt.status = .captured
  part : call.creatorId = userId ∨ call.viewerId = userId

def goesLive (userId : UserId) (callId : CallId) : Mutation :=
  .transition (some userId) callId .live

section Opening

variable {db : DB} {userId : UserId} {callId : CallId} {call : Call} {attemptId : AttemptId}
  {attempt : PaymentAttempt}

/-- What going live writes. -/
theorem Opening.goesLive (opening : Opening db userId callId call attemptId attempt)
    (unstarted : call.startedAt = none) (ctx : Ctx) :
    (Bling.goesLive userId callId).apply ctx db =
      { db.runAt (ctx.now + call.callDurationSeconds * 1000) (.expire callId) with
        ledger := creditEarning ctx.env db.ledger attemptId attempt callId ctx.now
        calls := db.calls.patch callId (transitionPatch ctx .live)
        queueEntries := db.queueEntries.patch call.queueEntryId fun e =>
          { e with status := .live } } := by
  have role : ∃ role, callForParticipant db (some userId) callId = .ok (call, role) ∧
      .live ∈ allowedTargets role := by
    unfold callForParticipant
    by_cases creator : call.creatorId = userId
    · exact ⟨.creator, by simp [requireUserId, opening.present, creator, bind, Except.bind],
        by decide⟩
    · have viewer := opening.part.resolve_left creator
      refine ⟨.viewer, ?_, by decide⟩
      simp [requireUserId, opening.present, creator, viewer, bind, Except.bind]
  obtain ⟨role, found, permitted⟩ := role
  have allowed : canTransition call.status .live = true := by
    rw [opening.connecting]
    rfl
  have moved : transition ctx db (some userId) callId .live =
      .ok (moveCall ctx db callId call .live, ()) := by
    simp only [transition, found, bind, Except.bind]
    rw [if_neg (not_not.mpr permitted), applyTransition_allowed ctx db callId allowed]
  simp only [Bling.goesLive, Mutation.apply, moved, commit, moveCall, finishCall, goLive, unstarted,
    opening.pays, and_self, if_true, reduceCtorEq, or_self, if_false, entryStatusFor]
  have held : (db.runAt (ctx.now + call.callDurationSeconds * 1000)
      (.expire callId)).paymentAttempts.get attemptId = some attempt := opening.held
  simp only [held]
  rfl

theorem Opening.earned (opening : Opening db userId callId call attemptId attempt)
    (unstarted : call.startedAt = none) (unposted : Unposted db.ledger attemptId)
    (earns : 0 < attempt.earningCents) (ctx : Ctx) : JustEarned db.ledger
      ((Bling.goesLive userId callId).apply ctx db).ledger attemptId attempt := by
  refine ⟨unposted, ctx.env, callId, ctx.now, ?_⟩
  rw [opening.goesLive unstarted ctx]
  show (creditEarning ctx.env db.ledger attemptId attempt callId ctx.now).ledgerEntries = _
  unfold creditEarning
  rw [if_pos opening.captured]
  exact postEntry_entries (Int.ne_of_gt earns) unposted.unearned

end Opening

/-! ### Any other mutation -/

/-- The mutations that may move a call. -/
def Mutation.mayMove : Mutation → Bool
  | .transition .. | .expire _ | .checkGrace .. | .endShow .. => true
  | _ => false

/-- What the mutation takes back of the call's earning if the call has just earned: a refund's
share for its success, the whole for a dispute that is open or lost. -/
def takesBack (ctx : Ctx) (db : DB) (m : Mutation) (attemptId : AttemptId)
    (attempt : PaymentAttempt) : List (LedgerKind × Int) :=
  match m.refundSuccess ctx db, m.disputeNews db with
  | some (_, refund), _ =>
    let share := refundShare (some attempt) attempt.earningCents refund.amountCents
    if refund.paymentAttemptId = attemptId ∧ 0 < share then [(.refundReversal, -share)] else []
  | none, some event =>
    let dispute := disputeAfter db event
    if dispute.paymentAttemptId = some attemptId ∧ dispute.status ∈ disputeOpen then
      [(.disputeDebit, -attempt.earningCents)]
    else []
  | none, none => []

theorem refundShare_le {attempt : PaymentAttempt} {earningCents : Int}
    (charged : 0 < attempt.amountCents) (earned : 0 ≤ earningCents) (refundCents : Nat) :
    refundShare (some attempt) earningCents refundCents ≤ earningCents := by
  simp only [refundShare]
  split
  · rename_i part
    unfold mathRound
    apply Int.le_of_lt_add_one
    apply Int.ediv_lt_of_lt_mul (by omega)
    have most : (refundCents : Int) + 1 ≤ attempt.amountCents := by omega
    nlinarith
  · exact Int.le_refl _

section Others

variable {db : DB} {m : Mutation}

theorem Mutation.moves_none (still : m.mayMove = false) (ctx : Ctx) (db : DB) :
    m.moves ctx db = none := by
  cases m with
  | transition | expire | checkGrace | endShow => cases still
  | _ => rfl

theorem Mutation.recordsSuccess_some {refundId : RefundId}
    (records : m.recordsSuccess = some refundId) : ∃ stripeRefundId failureCode,
      m = .recordRefund refundId stripeRefundId .succeeded failureCode := by
  unfold Mutation.recordsSuccess at records
  split at records
  · obtain rfl := Option.some.inj records
    exact ⟨_, _, rfl⟩
  · cases records

/-- Where the news of a refund's success is from. -/
theorem Mutation.refundSuccess_some {ctx : Ctx} {refundId : RefundId} {row : PaymentRefund}
    (told : m.refundSuccess ctx db = some (refundId, row)) :
    (∃ stripeRefundId failureCode,
      m = .recordRefund refundId stripeRefundId .succeeded failureCode ∧
      db.paymentRefunds.get refundId = some row ∧ row.status.final = false) ∨
    ∃ event, m.refundNews db = some event ∧ statusFromStripe event.status = .succeeded ∧
      (refundRow db event = some (refundId, row) ∨
        refundRow db event = none ∧ outsideRefund ctx db event = some row ∧
          refundId = db.paymentRefunds.next) := by
  cases records : m.recordsSuccess with
  | some id =>
      obtain ⟨stripeRefundId, failureCode, rfl⟩ := Mutation.recordsSuccess_some records
      cases present : db.paymentRefunds.get id with
      | none => simp [Mutation.refundSuccess, records, present] at told
      | some refund =>
          cases final : refund.status.final with
          | true => simp [Mutation.refundSuccess, records, present, final] at told
          | false =>
              rw [Mutation.refundSuccess_recorded stripeRefundId failureCode present final] at told
              obtain ⟨rfl, rfl⟩ := Prod.mk.inj (Option.some.inj told)
              exact Or.inl ⟨stripeRefundId, failureCode, rfl, present, final⟩
  | none =>
      cases news : m.refundNews db with
      | none => simp [Mutation.refundSuccess, records, news] at told
      | some event =>
          by_cases succeeded : statusFromStripe event.status = .succeeded
          · rw [Mutation.refundSuccess_news news succeeded] at told
            refine Or.inr ⟨event, rfl, succeeded, ?_⟩
            rcases Option.or_eq_some_iff.mp told with matched | ⟨unmatched, outside⟩
            · exact Or.inl matched
            · obtain ⟨refund, found, same⟩ := Option.map_eq_some_iff.mp outside
              obtain ⟨rfl, rfl⟩ := Prod.mk.inj same
              exact Or.inr ⟨unmatched, found, rfl⟩
          · simp [Mutation.refundSuccess, records, news, succeeded] at told

theorem Mutation.refundSuccess_row {ctx : Ctx} {refundId : RefundId} {row was : PaymentRefund}
    (told : m.refundSuccess ctx db = some (refundId, row))
    (present : db.paymentRefunds.get refundId = some was) : was = row := by
  rcases Mutation.refundSuccess_some told with ⟨_, _, _, held, _⟩ | ⟨event, _, _, found⟩
  · exact Option.some.inj (present.symm.trans held)
  · rcases found with matched | ⟨_, _, rfl⟩
    · exact Option.some.inj (present.symm.trans (refundRow_some matched).1)
    · rw [Table.get_next] at present
      cases present

theorem settleRefund_ledger (ctx : Ctx) (db : DB) (event : RefundEvent) {refundId : RefundId}
    {row : PaymentRefund} (present : db.paymentRefunds.get refundId = some row)
    (succeeded : statusFromStripe event.status = .succeeded) :
    (settleRefund ctx db event refundId row).ledger = reverseForRefund ctx db.paymentAttempts
      db.ledger refundId (settledPatch ctx event row row) := by
  have same := settleRefund_same ctx db event present (by rw [succeeded]; simp)
  rw [same.ledger]
  exact if_pos succeeded

theorem Mutation.disputeNews_refund {event : RefundEvent} (told : m.refundNews db = some event) :
    m.disputeNews db = none := by
  unfold Mutation.refundNews at told
  unfold Mutation.disputeNews
  split at told
  · rename_i news
    rw [news]
  · cases told

/-- A refund's success reverses its share. -/
theorem Mutation.apply_succeeded (ctx : Ctx) {refundId : RefundId} {row : PaymentRefund}
    (told : m.refundSuccess ctx db = some (refundId, row)) :
    ∃ refund : PaymentRefund, refund.paymentAttemptId = row.paymentAttemptId ∧
      refund.amountCents = row.amountCents ∧ (m.apply ctx db).ledger =
        reverseForRefund ctx db.paymentAttempts db.ledger refundId refund := by
  rcases Mutation.refundSuccess_some told with
    ⟨stripeRefundId, failureCode, rfl, present, unsettled⟩ | ⟨event, news, succeeded, found⟩
  · refine ⟨recordedPatch ctx stripeRefundId .succeeded failureCode row, rfl, rfl, ?_⟩
    simp only [Mutation.apply, Bling.recordRefund, present, unsettled, Bool.false_eq_true,
      if_false, if_true, ne_eq, reduceCtorEq, not_false_eq_true]
    rw [reversePatched_ledger ctx (Table.get_patch_self present _)]
    rfl
  · obtain ⟨told, rfl, object, unseen⟩ := Mutation.refundNews_event news
    simp only [Mutation.apply, Bling.applyEvent, unseen, Bool.false_eq_true, if_false, object]
    have sameRow (events : Table StripeEvent) :
        refundRow { db with stripeEvents := events } event = refundRow db event := rfl
    have sameRefund (events : Table StripeEvent) :
        outsideRefund ctx { db with stripeEvents := events } event =
          outsideRefund ctx db event := rfl
    refine ⟨settledPatch ctx event row row, rfl, rfl, ?_⟩
    rcases found with matched | ⟨unmatched, outside, rfl⟩
    · simp only [applyRefund, sameRow, matched]
      exact settleRefund_ledger ctx _ event (refundRow_some matched).1 succeeded
    · simp only [applyRefund, sameRow, unmatched, sameRefund, outside]
      exact settleRefund_ledger ctx _ event (Table.get_insert_next _ _) succeeded

/-- Without such news nothing is posted for a call. -/
theorem Mutation.postings_quiet (still : m.mayMove = false) (ctx : Ctx)
    (unsuccessful : m.refundSuccess ctx db = none) (undisputed : m.disputeNews db = none)
    (attemptId : AttemptId) :
    postings (m.apply ctx db).ledger attemptId = postings db.ledger attemptId := by
  cases (m.effect ctx db).ledger_cause with
  | reserves posted =>
      refine posted.postings ?_
      intro entry reservation of
      rw [reservation.2.1] at of
      cases of
  | credits callId call paid attempt asked =>
      rw [Mutation.moves_none still] at asked
      cases asked
  | reverses refundId row refund asked =>
      rw [unsuccessful] at asked
      cases asked
  | adjusts event asked =>
      rw [undisputed] at asked
      cases asked

/-- Nothing is posted for a call that has not earned. -/
theorem Unposted.apply (still : m.mayMove = false) (ctx : Ctx) {attemptId : AttemptId}
    (unposted : Unposted db.ledger attemptId) : Unposted (m.apply ctx db).ledger attemptId := by
  have keep {kind : LedgerEntry → Prop} {after : Ledger} (posted : PostsOnly kind db.ledger after)
      (others : ∀ entry, kind entry → entry.paymentAttemptId ≠ some attemptId)
      (keys : ∀ entry, kind entry → entry.idempotencyKey ≠ .earning attemptId) :
      Unposted after attemptId := by
    refine ⟨?_, fun earned => unposted.unearned ((posted.posted_iff keys).mp earned)⟩
    intro id entry found
    rcases posted.origin found with old | new
    · exact unposted.unnamed id entry old
    · exact others entry new
  have copied {entry : LedgerEntry} (copies : CopiedFrom db.ledger entry) :
      entry.paymentAttemptId ≠ some attemptId := by
    obtain ⟨other, earning, of, credited, _⟩ := copies
    intro named
    obtain rfl := Option.some.inj (of.symm.trans named)
    rw [unposted.uncredited] at credited
    cases credited
  cases (m.effect ctx db).ledger_cause with
  | reserves posted =>
      refine keep posted ?_ ?_
      · intro entry reservation of
        rw [reservation.2.1] at of
        cases of
      · intro entry reservation
        obtain ⟨itemId, key⟩ := reservation.2.2
        rw [key]
        exact LedgerKey.noConfusion
  | credits callId call paid attempt asked =>
      rw [Mutation.moves_none still] at asked
      cases asked
  | reverses refundId row refund asked attempt amount succeeded present ledger =>
      rw [ledger]
      refine keep (reverseForRefund_copies ..) (fun entry is => copied is.2) ?_
      intro entry is
      rw [is.1.key]
      exact LedgerKey.noConfusion
  | adjusts event asked disputes ledger =>
      rw [ledger]
      refine keep (adjustForDispute_copies ..) (fun entry is => copied is.2) ?_
      intro entry is
      rcases is.1.kind with ⟨_, key⟩ | ⟨_, key⟩
      · rw [key]
        exact LedgerKey.noConfusion
      · rw [key]
        exact LedgerKey.noConfusion

/-- A call that waits for no payment stays as it is. -/
theorem Effect.call_kept {ctx : Ctx} {after : DB} (effect : Effect ctx db m after)
    (unmoved : m.moves ctx db = none) {callId : CallId} {call : Call}
    (present : db.calls.get callId = some call) (opened : call.status ≠ .paymentPending) :
    after.calls.get callId = some call := by
  have patched {other : CallId} {waiting : Call} {f : Call → Call}
      (found : db.calls.get other = some waiting) (pending : waiting.status = .paymentPending)
      (calls : after.calls = db.calls.patch other f) : after.calls.get callId = some call := by
    have apart : callId ≠ other := by
      rintro rfl
      obtain rfl := Option.some.inj (present.symm.trans found)
      exact opened pending
    rw [calls, Table.get_patch_of_ne apart]
    exact present
  cases effect with
  | moved other moves target shows found allowed asked isOver same =>
      rw [unmoved] at asked
      cases asked
  | selected showId hotline entryId entry mode attempt asked host live idle found inShow waiting
      held paid same =>
      rw [same.calls]
      cases attempt with
      | none => exact Table.get_insert_of_some present _
      | some row => exact Table.get_insert_of_some present _
  | callOpened other paid capturedAt method its waiting asked held found pending live same =>
      exact patched (f := fun c => { c with status := .created })
        (callForAttempt_present found).1 pending same.calls
  | callMissed other paid capturedAt method its waiting asked held found unstarted isOver pending
      same =>
      exact patched (callForAttempt_present found).1 pending same.calls
  | notCaptured other unpaid status failureCode canceledAt calls queueEntries asked held uncaptured
      failed released same =>
      rcases failed with ⟨unchanged, _⟩ | ⟨its, waiting, found, pending, written⟩
      · rw [same.calls]
        show calls.get callId = some call
        rw [unchanged]
        exact present
      · exact patched (callForAttempt_present found).1 pending (same.calls.trans written)
  | _ =>
      rename_i same
      rw [same.calls]
      exact present

theorem Opening.apply {userId : UserId} {callId : CallId} {call : Call} {attemptId : AttemptId}
    {attempt : PaymentAttempt} (opening : Opening db userId callId call attemptId attempt)
    (still : m.mayMove = false) (ctx : Ctx) : ∃ kept, kept.earningCents = attempt.earningCents ∧
      Opening (m.apply ctx db) userId callId call attemptId kept := by
  obtain ⟨kept, held, follows⟩ := (m.effect ctx db).attempts.kept attemptId attempt opening.held
  refine ⟨kept, follows.terms.earning, ?_, opening.connecting, opening.pays, held,
    follows.captured opening.captured, opening.part⟩
  refine (m.effect ctx db).call_kept (Mutation.moves_none still ctx db) opening.present ?_
  rw [opening.connecting]
  exact CallStatus.noConfusion

end Others

/-! ### Both orders -/

section Orders

variable {db : DB} {m : Mutation} {userId : UserId} {callId : CallId} {call : Call}
  {attemptId : AttemptId} {attempt : PaymentAttempt}

/-- A call's move does not change which call an outside refund is for. -/
theorem outsideRefund_patch (ctx : Ctx) {after : DB} (event : RefundEvent) {f : Call → Call}
    (attempts : after.paymentAttempts = db.paymentAttempts)
    (calls : after.calls = db.calls.patch callId f)
    (pays : ∀ c, (f c).paymentAttemptId = c.paymentAttemptId) :
    outsideRefund ctx after event = outsideRefund ctx db event := by
  have charge (intentId : StripeId) :
      attemptForIntent after intentId = attemptForIntent db intentId := by
    unfold attemptForIntent
    rw [attempts]
  have paidFor (attemptId : AttemptId) : callForAttempt after attemptId =
      (callForAttempt db attemptId).map fun row =>
        if row.1 = callId then (row.1, f row.2) else row := by
    unfold callForAttempt
    rw [calls]
    refine Table.first_patch db.calls callId ?_
    intro c
    rw [pays c]
  unfold outsideRefund
  simp only [charge, paidFor]
  cases event.intentId with
  | none => rfl
  | some intentId =>
      cases matched : attemptForIntent db intentId with
      | none => simp [matched]
      | some row =>
          cases found : callForAttempt db row.1 with
          | none => simp [matched, found]
          | some its =>
              simp only [matched, found, Option.map_some, bind, Option.bind_some]
              split
              · rfl
              · rfl

/-- The news a mutation brings is the same once the call is live. -/
theorem Opening.news (opening : Opening db userId callId call attemptId attempt)
    (unstarted : call.startedAt = none) (ctx goes : Ctx) (m : Mutation) :
    m.refundSuccess ctx ((Bling.goesLive userId callId).apply goes db) = m.refundSuccess ctx db ∧
      m.disputeNews ((Bling.goesLive userId callId).apply goes db) = m.disputeNews db := by
  rw [opening.goesLive unstarted goes]
  refine ⟨?_, rfl⟩
  unfold Mutation.refundSuccess
  have outside (event : RefundEvent) : outsideRefund ctx
      { db.runAt (goes.now + call.callDurationSeconds * 1000) (.expire callId) with
        ledger := creditEarning goes.env db.ledger attemptId attempt callId goes.now
        calls := db.calls.patch callId (transitionPatch goes .live)
        queueEntries := db.queueEntries.patch call.queueEntryId fun e =>
          { e with status := .live } } event = outsideRefund ctx db event :=
    outsideRefund_patch ctx event rfl rfl fun _ => rfl
  simp only [outside]
  rfl

/-- What is known of a call about to go live. -/
structure OpeningKnown (db : DB) : Prop where
  accounts : AccountsKnown db
  linked : CallsLinked db.calls db.paymentAttempts
  earnings : EarningsSound db
  keys : RefundKeys db

theorem OpeningKnown.reached {w : World} (reached : World.Reached w) : OpeningKnown w.db :=
  ⟨.reached reached, (Linked.reached reached).calls, .reached reached, .reached reached⟩

theorem Opening.unstarted (opening : Opening db userId callId call attemptId attempt)
    (known : OpeningKnown db) : call.startedAt = none := by
  refine known.linked.unstarted callId call opening.present ?_
  simp [opening.connecting, CallStatus.beforeStart]

theorem Opening.unposted (opening : Opening db userId callId call attemptId attempt)
    (known : OpeningKnown db) : Unposted db.ledger attemptId := by
  apply known.accounts.unposted
  by_contra credited
  obtain ⟨earning, found⟩ := Option.ne_none_iff_exists'.mp credited
  obtain ⟨id, present, of, kind⟩ := earningFor_some found
  obtain ⟨own, its, _, named, _, started⟩ := known.accounts.settled.earned id earning present kind
  obtain rfl := Option.some.inj (named.symm.trans of)
  obtain ⟨other, located, pays, hasStarted⟩ := started
  obtain rfl := known.linked.one its callId other call own located opening.present pays opening.pays
  obtain rfl := Option.some.inj (located.symm.trans opening.present)
  exact hasStarted (opening.unstarted known)

/-- A refund's success takes back its share of the earning just posted. -/
theorem JustEarned.refunds {before ledger : Ledger}
    (earned : JustEarned before ledger attemptId attempt) (earns : attempt.Earns) (ctx : Ctx)
    {attempts : Table PaymentAttempt} (held : attempts.get attemptId = some attempt)
    {refundId : RefundId} {refund : PaymentRefund} (of : refund.paymentAttemptId = attemptId)
    (unseen : ¬ before.Posted (.refund refundId)) :
    Bling.postings (reverseForRefund ctx attempts ledger refundId refund) attemptId =
      Bling.postings ledger attemptId ++
        if 0 < refundShare (some attempt) attempt.earningCents refund.amountCents then
          [(.refundReversal, -refundShare (some attempt) attempt.earningCents refund.amountCents)]
        else [] := by
  obtain ⟨earning, credited, worth⟩ := earned.credited
  subst of
  have unposted : ¬ ledger.Posted (.refund refundId) :=
    fun posted => unseen (earned.posted LedgerKey.noConfusion posted)
  obtain ⟨amount, value, outcome⟩ := @reverseForRefund_cases ledger ctx attempts
    (refundId, refund) earning credited unposted
  have least := refundShare_le earns.charged earns.earned.le refund.amountCents
  dsimp only at value outcome
  rw [held, worth, earned.untaken, Int.sub_zero, Int.min_eq_left least] at value
  subst value
  rcases outcome with ⟨nothing, unchanged⟩ | ⟨positive, posts⟩
  · rw [unchanged, if_neg (Int.not_lt.mpr nothing), List.append_nil]
  · rw [postings_insert posts, if_pos positive]
    exact congrArg _ (if_pos rfl)

/-- A dispute takes back the earning just posted if it is open or lost. -/
theorem JustEarned.disputes {before ledger : Ledger}
    (earned : JustEarned before ledger attemptId attempt) (earns : attempt.Earns) (ctx : Ctx)
    {dispute : PaymentDispute} (of : dispute.paymentAttemptId = some attemptId)
    (unseen : ¬ before.Posted (.disputeDebit dispute.stripeDisputeId)) :
    Bling.postings (adjustForDispute ctx ledger dispute) attemptId =
      Bling.postings ledger attemptId ++
        if dispute.status ∈ disputeOpen then [(.disputeDebit, -attempt.earningCents)] else [] := by
  obtain ⟨earning, credited, worth⟩ := earned.credited
  have unposted : ¬ ledger.Posted (.disputeDebit dispute.stripeDisputeId) :=
    fun posted => unseen (earned.posted LedgerKey.noConfusion posted)
  by_cases isOpen : dispute.status ∈ disputeOpen
  · rw [adjustForDispute_open ctx of credited isOpen, if_pos isOpen]
    have posts := @postEntry_entries ledger (debitEntry ctx dispute attemptId earning)
      (by simp only [debitEntry, worth]; exact Int.neg_ne_zero.mpr (Int.ne_of_gt earns.earned))
      unposted
    rw [postings_insert posts]
    simp only [debitEntry, if_true, worth]
  · rw [if_neg isOpen, List.append_nil]
    by_cases resolved : dispute.status ∈ disputeResolved
    · rcases adjustForDispute_resolved ctx of credited resolved with
        ⟨unchanged, _⟩ | ⟨id, debit, present, key, _⟩
      · rw [unchanged]
      · exact absurd ⟨id, debit, present, key⟩ unposted
    · rw [adjustForDispute_undecided ctx isOpen resolved]

theorem Opening.unrefunded (opening : Opening db userId callId call attemptId attempt)
    (known : OpeningKnown db) {ctx : Ctx} {refundId : RefundId} {row : PaymentRefund}
    (told : m.refundSuccess ctx db = some (refundId, row))
    (of : row.paymentAttemptId = attemptId) : ¬ db.ledger.Posted (.refund refundId) := by
  rintro ⟨id, entry, found, key⟩
  obtain ⟨_, was, present, its⟩ := known.keys.row id entry refundId found key
  obtain rfl := Mutation.refundSuccess_row told present
  exact (opening.unposted known).unnamed id entry found (by rw [its, of])

theorem Opening.undisputed (opening : Opening db userId callId call attemptId attempt)
    (known : OpeningKnown db) {event : DisputeEvent}
    (of : (disputeAfter db event).paymentAttemptId = some attemptId) :
    ¬ db.ledger.Posted (.disputeDebit event.id) := by
  rintro ⟨id, entry, found, key⟩
  obtain ⟨other, _, its, _, adjusts⟩ := known.accounts.disputes.debit id entry event.id found key
  have one := disputesAfter_one known.accounts.disputes.one event
  obtain rfl := (its.after event).unique one (disputeAfter_of of)
  exact (opening.unposted known).unnamed id entry found adjusts.attempt

/-- Once the call is live the mutation takes back what it has news of. -/
theorem Opening.live_first (opening : Opening db userId callId call attemptId attempt)
    (known : OpeningKnown db) (still : m.mayMove = false) (goes ctx : Ctx) :
    postings (m.apply ctx ((Bling.goesLive userId callId).apply goes db)).ledger attemptId =
      (.earning, attempt.earningCents) :: takesBack ctx db m attemptId attempt := by
  have unstarted := opening.unstarted known
  have earns := known.earnings.charge attemptId attempt opening.held
  have earned := opening.earned unstarted (opening.unposted known) earns.earned goes
  have news := opening.news unstarted ctx goes m
  have wrote := opening.goesLive unstarted goes
  generalize (Bling.goesLive userId callId).apply goes db = after at earned news wrote ⊢
  have attempts : after.paymentAttempts = db.paymentAttempts := by rw [wrote]; rfl
  have disputes (event : DisputeEvent) : disputeAfter after event = disputeAfter db event := by
    rw [wrote]
    rfl
  unfold takesBack
  cases told : m.refundSuccess ctx db with
  | some success =>
      obtain ⟨refundId, row⟩ := success
      obtain ⟨refund, of, amount, ledger⟩ := Mutation.apply_succeeded ctx (news.1.trans told)
      rw [ledger, attempts]
      dsimp only
      by_cases its : row.paymentAttemptId = attemptId
      · rw [earned.refunds earns ctx opening.held (of.trans its)
          (opening.unrefunded known told its), earned.postings, amount]
        simp only [its, true_and, List.singleton_append]
      · rw [(reverseForRefund_only ..).postings, earned.postings, if_neg fun both => its both.1]
        intro entry reversal named
        exact its (of.symm.trans (Option.some.inj (reversal.attempt.symm.trans named)))
  | none =>
      cases asked : m.disputeNews db with
      | none =>
          rw [Mutation.postings_quiet still ctx (news.1.trans told) (news.2.trans asked),
            earned.postings]
      | some event =>
          rw [(Mutation.apply_disputed ctx (news.2.trans asked)).2, disputes]
          dsimp only
          by_cases its : (disputeAfter db event).paymentAttemptId = some attemptId
          · rw [earned.disputes earns ctx its (opening.undisputed known its), earned.postings]
            simp only [its, true_and, List.singleton_append]
          · rw [(adjustForDispute_only ..).postings, earned.postings,
              if_neg fun both => its both.1]
            intro entry adjusts named
            exact its (adjusts.attempt.symm.trans named)

/-- Before the call is live the mutation posts nothing for it. -/
theorem Opening.live_last (opening : Opening db userId callId call attemptId attempt)
    (known : OpeningKnown db) (still : m.mayMove = false) (ctx goes : Ctx) :
    postings ((Bling.goesLive userId callId).apply goes (m.apply ctx db)).ledger attemptId =
      [(.earning, attempt.earningCents)] := by
  obtain ⟨kept, same, then_⟩ := opening.apply still ctx
  have earns := known.earnings.charge attemptId attempt opening.held
  have earned := then_.earned (opening.unstarted known)
    ((opening.unposted known).apply still ctx) (by rw [same]; exact earns.earned) goes
  rw [earned.postings, same]

end Orders

/-- A paid call goes live and another mutation commits, in either order. The call's entries are the
same but for what the mutation has news of: a refund's success or a dispute takes its share back
only if it commits after the call is live. -/
theorem commit_order (inputs : List (Ctx × Op)) (m : Mutation) (still : m.mayMove = false)
    (userId : UserId) (callId : CallId) (call : Call) (attemptId : AttemptId)
    (attempt : PaymentAttempt) :
    let db := (run World.step World.empty inputs).db
    Opening db userId callId call attemptId attempt → ∀ first second first' second' : Ctx,
      postings ((goesLive userId callId).apply second (m.apply first db)).ledger attemptId =
        [(.earning, attempt.earningCents)] ∧
      postings (m.apply second' ((goesLive userId callId).apply first' db)).ledger attemptId =
        (.earning, attempt.earningCents) :: takesBack second' db m attemptId attempt := by
  intro db opening first second first' second'
  have known : OpeningKnown db := .reached ⟨inputs, rfl⟩
  exact ⟨opening.live_last known still first second, opening.live_first known still first' second'⟩

/-- A paid call is about to go live. -/
def connecting : List (Ctx × Op) :=
  World.sampled (World.paid ++ [.request (.transition (some 0) 0 .connecting)])

/-- Stripe tells of a full refund that support has made. -/
def refundTold : Mutation :=
  .applyEvent ⟨7, .refundUpdated, none, .refund ⟨0, some 0, .succeeded, none, some 500, some "usd"⟩⟩

set_option maxRecDepth 40000 in
theorem connecting_opening :
    let db := (run World.step World.empty connecting).db
    ∃ call attempt, Opening db 1 0 call 0 attempt ∧ attempt.earningCents = 428 ∧
      takesBack ⟨5, World.sampleEnv⟩ db refundTold 0 attempt = [(.refundReversal, -428)] := by
  intro db
  have paid : (db.paymentAttempts.get 0).any (fun attempt => attempt.status == .captured &&
      attempt.earningCents == 428 && takesBack ⟨5, World.sampleEnv⟩ db refundTold 0 attempt ==
        [(.refundReversal, -428)]) = true := by decide
  have connects : (db.calls.get 0).any (fun call => call.status == .connecting &&
      call.paymentAttemptId == some 0 && call.viewerId == 1) = true := by decide
  obtain ⟨attempt, held, isPaid⟩ := Option.any_eq_true _ _ |>.mp paid
  obtain ⟨call, present, isConnecting⟩ := Option.any_eq_true _ _ |>.mp connects
  simp only [Bool.and_eq_true, beq_iff_eq] at isPaid isConnecting
  obtain ⟨⟨captured, cents⟩, back⟩ := isPaid
  obtain ⟨⟨status, pays⟩, viewer⟩ := isConnecting
  exact ⟨call, attempt, ⟨present, status, pays, held, captured, Or.inr viewer⟩, cents, back⟩

/-- The caller has their money back in both orders; the creator keeps the earning in one. -/
theorem commit_order_refund :
    let db := (run World.step World.empty connecting).db
    let ctx : Ctx := ⟨5, World.sampleEnv⟩
    postings ((goesLive 1 0).apply ctx (refundTold.apply ctx db)).ledger 0 = [(.earning, 428)] ∧
      postings (refundTold.apply ctx ((goesLive 1 0).apply ctx db)).ledger 0 =
        [(.earning, 428), (.refundReversal, -428)] := by
  intro db ctx
  obtain ⟨call, attempt, opening, cents, back⟩ := connecting_opening
  have orders := commit_order connecting refundTold rfl 1 0 call 0 attempt opening ctx ctx ctx ctx
  rw [cents, back] at orders
  exact orders

/-! ### When the order makes no difference -/

/-- A refund's share of the earning comes to nothing, or a dispute is neither open nor lost. -/
def TakesNothing (ctx : Ctx) (db : DB) (m : Mutation) (attemptId : AttemptId)
    (attempt : PaymentAttempt) : Prop :=
  (∀ refundId refund, m.refundSuccess ctx db = some (refundId, refund) →
      refund.paymentAttemptId = attemptId →
      refundShare (some attempt) attempt.earningCents refund.amountCents ≤ 0) ∧
    ∀ event, m.disputeNews db = some event →
      (disputeAfter db event).paymentAttemptId = some attemptId → event.status ∉ disputeOpen

theorem takesBack_nil_iff {ctx : Ctx} {db : DB} {m : Mutation} {attemptId : AttemptId}
    {attempt : PaymentAttempt} :
    takesBack ctx db m attemptId attempt = [] ↔ TakesNothing ctx db m attemptId attempt := by
  unfold takesBack TakesNothing
  cases success : m.refundSuccess ctx db with
  | some told =>
      obtain ⟨refundId, refund⟩ := told
      have quiet : m.disputeNews db = none := by
        rcases Mutation.refundSuccess_some success with ⟨_, _, rfl, _⟩ | ⟨event, news, _⟩
        · rfl
        · exact Mutation.disputeNews_refund news
      simp only [quiet, reduceCtorEq, false_implies, implies_true, and_true, Option.some.injEq,
        Prod.mk.injEq]
      constructor
      · intro none id row same its
        obtain ⟨rfl, rfl⟩ := same
        by_contra positive
        simp only [its, not_le.mp positive, and_self, if_true, reduceCtorEq] at none
      · intro least
        rw [if_neg]
        rintro ⟨its, positive⟩
        exact absurd positive (not_lt.mpr (least refundId refund ⟨rfl, rfl⟩ its))
  | none =>
      cases news : m.disputeNews db with
      | none => simp
      | some event =>
          simp only [reduceCtorEq, false_implies, implies_true, true_and, Option.some.injEq]
          constructor
          · intro none other same its isOpen
            subst same
            have both : (disputeAfter db event).status ∈ disputeOpen := isOpen
            simp only [its, both, and_self, if_true, reduceCtorEq] at none
          · intro unopened
            rw [if_neg]
            rintro ⟨its, isOpen⟩
            exact unopened event rfl its isOpen

/-- The two orders leave the call the same entries exactly if the report takes nothing back. -/
theorem live_order_iff (inputs : List (Ctx × Op)) (m : Mutation) (still : m.mayMove = false)
    (userId : UserId) (callId : CallId) (call : Call) (attemptId : AttemptId)
    (attempt : PaymentAttempt) :
    let db := (run World.step World.empty inputs).db
    Opening db userId callId call attemptId attempt → ∀ first second first' second' : Ctx,
      (postings ((goesLive userId callId).apply second (m.apply first db)).ledger attemptId).Perm
          (postings (m.apply second' ((goesLive userId callId).apply first' db)).ledger attemptId) ↔
        TakesNothing second' db m attemptId attempt := by
  intro db opening first second first' second'
  have known : OpeningKnown db := .reached ⟨inputs, rfl⟩
  rw [opening.live_last known still first second, opening.live_first known still first' second',
    ← takesBack_nil_iff]
  constructor
  · intro same
    have lengths := same.length_eq
    rw [List.length_cons, List.length_cons, List.length_nil] at lengths
    exact List.eq_nil_of_length_eq_zero (by omega)
  · intro none
    rw [none]

/-- Stripe tells that a dispute is won. -/
def disputeTold : Mutation :=
  .applyEvent ⟨7, .chargeDisputeClosed, none,
    .dispute ⟨0, some 0, 500, "usd", "fraudulent", .won, none⟩⟩

set_option maxRecDepth 40000 in
theorem live_order_won :
    let db := (run World.step World.empty connecting).db
    let ctx : Ctx := ⟨5, World.sampleEnv⟩
    (postings ((goesLive 1 0).apply ctx (disputeTold.apply ctx db)).ledger 0).Perm
      (postings (disputeTold.apply ctx ((goesLive 1 0).apply ctx db)).ledger 0) := by
  intro db ctx
  obtain ⟨call, attempt, opening, _⟩ := connecting_opening
  refine (live_order_iff connecting disputeTold rfl 1 0 call 0 attempt opening ctx ctx ctx ctx).mpr
    (takesBack_nil_iff.mp ?_)
  have success : disputeTold.refundSuccess ctx db = none := by decide
  have resolved : disputeTold.disputeNews db =
      some ⟨0, some 0, 500, "usd", "fraudulent", .won, none⟩ := by decide
  have closed : DisputeStatus.won ∉ disputeOpen := by decide
  unfold takesBack
  rw [success, resolved]
  exact if_neg fun both => closed both.2

/-- A full refund leaves the creator the earning in one order and nothing in the other. -/
theorem live_order_refunded :
    let db := (run World.step World.empty connecting).db
    let ctx : Ctx := ⟨5, World.sampleEnv⟩
    ∃ call attempt, Opening db 1 0 call 0 attempt ∧
      ¬ (postings ((goesLive 1 0).apply ctx (refundTold.apply ctx db)).ledger 0).Perm
        (postings (refundTold.apply ctx ((goesLive 1 0).apply ctx db)).ledger 0) := by
  intro db ctx
  obtain ⟨call, attempt, opening, cents, back⟩ := connecting_opening
  have known : OpeningKnown db := .reached ⟨connecting, rfl⟩
  refine ⟨call, attempt, opening, ?_⟩
  have last := opening.live_last (m := refundTold) known rfl ctx ctx
  have first := opening.live_first (m := refundTold) known rfl ctx ctx
  rw [last, first, cents, back]
  decide

end Bling
