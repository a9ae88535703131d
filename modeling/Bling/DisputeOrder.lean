import Bling.CallAccounts

set_option autoImplicit false

namespace Bling

open Library

/-! What a dispute comes to is decided by the order in which its statuses are first told. -/

/-! ### The statuses told -/

/-- Where a dispute stands after some of its statuses have been told. -/
inductive DisputeStage where
  | untouched | held | released
deriving DecidableEq

/-- An open status holds the earning back, a resolved one releases what is held. -/
def DisputeStage.next (stage : DisputeStage) (status : DisputeStatus) : DisputeStage :=
  match stage with
  | .untouched => if status ∈ disputeOpen then .held else .untouched
  | .held => if status ∈ disputeResolved then .released else .held
  | .released => .released

def disputeStage (statuses : List DisputeStatus) : DisputeStage :=
  statuses.foldl .next .untouched

theorem released_foldl (statuses : List DisputeStatus) :
    statuses.foldl .next DisputeStage.released = .released := by
  induction statuses with
  | nil => rfl
  | cons status rest ih => exact ih

theorem held_foldl (statuses : List DisputeStatus) :
    statuses.foldl .next DisputeStage.held = .held ↔
      ∀ status ∈ statuses, status ∉ disputeResolved := by
  induction statuses with
  | nil => simp
  | cons status rest ih =>
      rw [List.foldl_cons, List.forall_mem_cons]
      by_cases resolved : status ∈ disputeResolved
      · simp only [DisputeStage.next, if_pos resolved, released_foldl]
        simp [resolved]
      · simp only [DisputeStage.next, if_neg resolved, ih]
        simp [resolved]

/-- The earning is held back by the order in which the statuses are told: an open one comes, and no
resolved one after the first that does. -/
def HeldBack (statuses : List DisputeStatus) : Prop :=
  ∃ front status back, statuses = front ++ status :: back ∧ status ∈ disputeOpen ∧
    (∀ earlier ∈ front, earlier ∉ disputeOpen) ∧ ∀ later ∈ back, later ∉ disputeResolved

theorem disputeStage_held (statuses : List DisputeStatus) :
    disputeStage statuses = .held ↔ HeldBack statuses := by
  unfold disputeStage HeldBack
  induction statuses with
  | nil => simp
  | cons status rest ih =>
      rw [List.foldl_cons]
      by_cases isOpen : status ∈ disputeOpen
      · simp only [DisputeStage.next, if_pos isOpen, held_foldl]
        constructor
        · intro unresolved
          exact ⟨[], status, rest, rfl, isOpen, by simp, unresolved⟩
        · rintro ⟨front, first, back, same, _, before, after⟩
          cases front with
          | nil =>
              obtain ⟨_, rfl⟩ := List.cons.inj same
              exact after
          | cons earlier front =>
              obtain ⟨rfl, _⟩ := List.cons.inj same
              exact absurd isOpen (before status List.mem_cons_self)
      · simp only [DisputeStage.next, if_neg isOpen, ih]
        constructor
        · rintro ⟨front, first, back, rfl, opens, before, after⟩
          exact ⟨status :: front, first, back, rfl, opens,
            List.forall_mem_cons.mpr ⟨isOpen, before⟩, after⟩
        · rintro ⟨front, first, back, same, opens, before, after⟩
          cases front with
          | nil =>
              obtain ⟨rfl, _⟩ := List.cons.inj same
              exact absurd opens isOpen
          | cons earlier front =>
              obtain ⟨_, rfl⟩ := List.cons.inj same
              exact ⟨front, first, back, rfl, opens, (List.forall_mem_cons.mp before).2, after⟩

/-- The status that a mutation tells of the call's dispute. -/
def Mutation.tells (disputeId : StripeId) (attemptId : AttemptId) (db : DB) (m : Mutation) :
    List DisputeStatus :=
  match m.disputeNews db with
  | some event =>
    if event.id = disputeId ∧ (disputeAfter db event).paymentAttemptId = some attemptId then
      [event.status]
    else []
  | none => []

/-- The status that a step tells of the call's dispute. -/
def World.tells (disputeId : StripeId) (attemptId : AttemptId) (w : World) (input : Ctx × Op) :
    List DisputeStatus :=
  match input.2.mutation w input.1 with
  | some m => m.tells disputeId attemptId w.db
  | none => []

/-- The statuses of the call's dispute, each as it is first told. -/
def statusesTold (disputeId : StripeId) (attemptId : AttemptId) (w : World)
    (inputs : List (Ctx × Op)) : List DisputeStatus :=
  outputs World.step (World.tells disputeId attemptId) w inputs

/-! ### The stage in the ledger -/

/-- The call has an entry with the key. -/
def PostedFor (ledger : Ledger) (attemptId : AttemptId) (key : LedgerKey) : Prop :=
  ∃ id entry, ledger.ledgerEntries.get id = some entry ∧ entry.idempotencyKey = key ∧
    entry.paymentAttemptId = some attemptId

def AtStage (ledger : Ledger) (attemptId : AttemptId) (disputeId : StripeId) :
    DisputeStage → Prop
  | .untouched => ¬ PostedFor ledger attemptId (.disputeDebit disputeId) ∧
      ¬ PostedFor ledger attemptId (.disputeRelease disputeId)
  | .held => PostedFor ledger attemptId (.disputeDebit disputeId) ∧
      ¬ PostedFor ledger attemptId (.disputeRelease disputeId)
  | .released => PostedFor ledger attemptId (.disputeDebit disputeId) ∧
      PostedFor ledger attemptId (.disputeRelease disputeId)

section Stage

variable {before after : Ledger} {attemptId : AttemptId} {disputeId : StripeId}

theorem PostsOnly.postedFor_iff {kind : LedgerEntry → Prop} (posted : PostsOnly kind before after)
    {key : LedgerKey} (apart : ∀ entry, kind entry → entry.idempotencyKey = key →
      entry.paymentAttemptId ≠ some attemptId) :
    PostedFor after attemptId key ↔ PostedFor before attemptId key := by
  constructor
  · rintro ⟨id, entry, found, is, of⟩
    rcases posted.origin found with old | new
    · exact ⟨id, entry, old, is, of⟩
    · exact absurd of (apart entry new is)
  · rintro ⟨id, entry, found, is, of⟩
    exact ⟨id, entry, posted.kept found, is, of⟩

theorem postedFor_insert {entry : LedgerEntry} {key : LedgerKey}
    (entries : after.ledgerEntries = before.ledgerEntries.insert entry) :
    PostedFor after attemptId key ↔ PostedFor before attemptId key ∨
      entry.idempotencyKey = key ∧ entry.paymentAttemptId = some attemptId := by
  constructor
  · rintro ⟨id, other, found, is, of⟩
    rw [entries, Table.get_insert] at found
    split at found
    · obtain rfl := Option.some.inj found
      exact Or.inr ⟨is, of⟩
    · exact Or.inl ⟨id, other, found, is, of⟩
  · rintro (⟨id, other, found, is, of⟩ | ⟨is, of⟩)
    · exact ⟨id, other, by rw [entries, Table.get_insert_of_some found], is, of⟩
    · exact ⟨before.ledgerEntries.next, entry, by rw [entries, Table.get_insert_next], is, of⟩

/-- Entries that are not the dispute's leave its stage. -/
theorem AtStage.posts {stage : DisputeStage} {kind : LedgerEntry → Prop}
    (at_ : AtStage before attemptId disputeId stage) (posted : PostsOnly kind before after)
    (apart : ∀ entry, kind entry → entry.idempotencyKey.dispute = some disputeId →
      entry.paymentAttemptId ≠ some attemptId) : AtStage after attemptId disputeId stage := by
  have debit : PostedFor after attemptId (.disputeDebit disputeId) ↔ _ :=
    posted.postedFor_iff fun entry is key => apart entry is (by rw [key]; rfl)
  have release : PostedFor after attemptId (.disputeRelease disputeId) ↔ _ :=
    posted.postedFor_iff fun entry is key => apart entry is (by rw [key]; rfl)
  cases stage with
  | untouched => exact ⟨fun held => at_.1 (debit.mp held), fun back => at_.2 (release.mp back)⟩
  | held => exact ⟨debit.mpr at_.1, fun back => at_.2 (release.mp back)⟩
  | released => exact ⟨debit.mpr at_.1, release.mpr at_.2⟩

end Stage

/-! ### One mutation -/

section Step

variable {db : DB} {attemptId : AttemptId} {disputeId : StripeId} {earning : LedgerEntry}

/-- Where an event ties a dispute to a call, its entries are the call's. -/
theorem AccountsKnown.postedFor (known : AccountsKnown db) {event : DisputeEvent}
    (of : (disputeAfter db event).paymentAttemptId = some attemptId) :
    (db.ledger.Posted (.disputeDebit event.id) →
      PostedFor db.ledger attemptId (.disputeDebit event.id)) ∧
    (db.ledger.Posted (.disputeRelease event.id) →
      PostedFor db.ledger attemptId (.disputeRelease event.id)) := by
  have one := disputesAfter_one known.disputes.one event
  constructor
  · rintro ⟨id, entry, found, key⟩
    obtain ⟨other, _, its, _, adjusts⟩ := known.disputes.debit id entry event.id found key
    obtain rfl := (its.after event).unique one (disputeAfter_of of)
    exact ⟨id, entry, found, key, adjusts.attempt⟩
  · rintro ⟨id, entry, found, key⟩
    obtain ⟨other, _, its, _, adjusts, _⟩ := known.disputes.release id entry event.id found key
    obtain rfl := (its.after event).unique one (disputeAfter_of of)
    exact ⟨id, entry, found, key, adjusts.attempt⟩

theorem PostedFor.posted {ledger : Ledger} {key : LedgerKey}
    (posted : PostedFor ledger attemptId key) : ledger.Posted key := by
  obtain ⟨id, entry, found, is, _⟩ := posted
  exact ⟨id, entry, found, is⟩

/-- A status told of the call's dispute takes it to the next stage. -/
theorem AtStage.adjust {stage : DisputeStage} {event : DisputeEvent}
    (at_ : AtStage db.ledger attemptId event.id stage) (known : AccountsKnown db)
    (credited : earningFor db.ledger attemptId = some earning) (earns : earning.amountCents ≠ 0)
    (of : (disputeAfter db event).paymentAttemptId = some attemptId) (ctx : Ctx) :
    AtStage (adjustForDispute ctx db.ledger (disputeAfter db event)) attemptId event.id
      (stage.next event.status) := by
  have own := known.postedFor of
  by_cases isOpen : event.status ∈ disputeOpen
  · have unresolved := disputeOpen_not_resolved isOpen
    rw [adjustForDispute_open ctx of credited isOpen]
    by_cases posted : db.ledger.Posted (.disputeDebit event.id)
    · rw [postEntry_skips (Or.inr posted)]
      cases stage with
      | untouched => exact absurd (own.1 posted) at_.1
      | held => simpa only [DisputeStage.next, if_neg unresolved] using at_
      | released => exact at_
    · have entries := @postEntry_entries db.ledger
        (debitEntry ctx (disputeAfter db event) attemptId earning) (Int.neg_ne_zero.mpr earns)
        posted
      cases stage with
      | untouched =>
          simp only [DisputeStage.next, if_pos isOpen]
          refine ⟨(postedFor_insert entries).mpr (Or.inr ⟨rfl, rfl⟩), ?_⟩
          intro back
          rcases (postedFor_insert entries).mp back with old | ⟨key, _⟩
          · exact at_.2 old
          · cases key
      | held => exact absurd at_.1.posted posted
      | released => exact absurd at_.1.posted posted
  · by_cases resolved : event.status ∈ disputeResolved
    · rcases adjustForDispute_resolved ctx of credited resolved with
        ⟨unchanged, unposted⟩ | ⟨id, debit, present, key, release⟩
      · rw [unchanged]
        cases stage with
        | untouched => simpa only [DisputeStage.next, if_neg isOpen] using at_
        | held => exact absurd at_.1.posted unposted
        | released => exact absurd at_.1.posted unposted
      · have held := own.1 ⟨id, debit, present, key⟩
        rw [release]
        by_cases posted : db.ledger.Posted (.disputeRelease event.id)
        · rw [postEntry_skips (Or.inr posted)]
          cases stage with
          | untouched => exact absurd held at_.1
          | held => exact absurd (own.2 posted) at_.2
          | released => exact at_
        · have worth : debit.amountCents ≠ 0 := by
            obtain ⟨other, same, its, also, adjusts⟩ :=
              known.disputes.debit id debit event.id present key
            have one := disputesAfter_one known.disputes.one event
            obtain rfl := (its.after event).unique one (disputeAfter_of of)
            obtain rfl := Option.some.inj (credited.symm.trans also)
            rw [adjusts.amount]
            exact Int.neg_ne_zero.mpr earns
          have entries := @postEntry_entries db.ledger
            (releaseEntry ctx (disputeAfter db event) attemptId earning debit)
            (Int.neg_ne_zero.mpr worth) posted
          cases stage with
          | untouched => exact absurd held at_.1
          | held =>
              simp only [DisputeStage.next, if_pos resolved]
              exact ⟨(postedFor_insert entries).mpr (Or.inl held),
                (postedFor_insert entries).mpr (Or.inr ⟨rfl, rfl⟩)⟩
          | released => exact absurd at_.2.posted posted
    · rw [adjustForDispute_undecided ctx isOpen resolved]
      cases stage with
      | untouched => simpa only [DisputeStage.next, if_neg isOpen] using at_
      | held => simpa only [DisputeStage.next, if_neg resolved] using at_
      | released => exact at_

/-- What a mutation tells of the dispute takes it to its next stage. -/
theorem AtStage.mutation {stage : DisputeStage}
    (at_ : AtStage db.ledger attemptId disputeId stage) (known : AccountsKnown db)
    (credited : earningFor db.ledger attemptId = some earning) (earns : earning.amountCents ≠ 0)
    (ctx : Ctx) (m : Mutation) : AtStage (m.apply ctx db).ledger attemptId disputeId
      ((m.tells disputeId attemptId db).foldl .next stage) := by
  unfold Mutation.tells
  cases news : m.disputeNews db with
  | none =>
      refine at_.posts ((m.effect ctx db).undisputed news).2 ?_
      intro entry undisputed is
      rw [undisputed] at is
      cases is
  | some event =>
      rw [(Mutation.apply_disputed ctx news).2]
      dsimp only
      by_cases told : event.id = disputeId ∧
          (disputeAfter db event).paymentAttemptId = some attemptId
      · obtain ⟨rfl, of⟩ := told
        rw [if_pos ⟨rfl, of⟩]
        exact at_.adjust known credited earns of ctx
      · rw [if_neg told]
        refine at_.posts (adjustForDispute_only ctx db.ledger (disputeAfter db event)) ?_
        intro entry adjusts is of
        refine told ⟨?_, adjusts.attempt.symm.trans of⟩
        rcases adjusts.kind with ⟨_, key⟩ | ⟨_, key⟩
        · rw [key] at is
          exact Option.some.inj is
        · rw [key] at is
          exact Option.some.inj is

theorem Effect.earning_kept {ctx : Ctx} {after : DB} {m : Mutation} (effect : Effect ctx db m after)
    (credited : earningFor db.ledger attemptId = some earning) :
    earningFor after.ledger attemptId = some earning := by
  cases effect.ledger_change with
  | reserves posted => exact posted.earningFor credited
  | credits callId call other attempt asked present allowed calls pays held ledger =>
      rw [ledger]
      exact (creditEarning_only ..).earningFor credited
  | reverses refundId refund row succeeded ledger =>
      rw [ledger]
      exact (reverseForRefund_only ..).earningFor credited
  | adjusts event asked disputes ledger =>
      rw [ledger]
      exact (adjustForDispute_only ..).earningFor credited

end Step

/-! ### What a stage comes to -/

/-- What the dispute has taken from the call's creator, or given back. -/
def disputeCents (ledger : Ledger) (attemptId : AttemptId) (disputeId : StripeId) : Int :=
  ledger.ledgerEntries.total (fun entry => entry.paymentAttemptId == some attemptId &&
    entry.idempotencyKey.dispute == some disputeId) LedgerEntry.amountCents

/-- The entry of the call that has the key. -/
def isFor (attemptId : AttemptId) (key : LedgerKey) (entry : LedgerEntry) : Bool :=
  entry.paymentAttemptId == some attemptId && entry.idempotencyKey == key

section Cents

variable {db : DB} {attemptId : AttemptId} {disputeId : StripeId} {earning : LedgerEntry}

theorem disputeCents_parts (ledger : Ledger) (attemptId : AttemptId) (disputeId : StripeId) :
    disputeCents ledger attemptId disputeId =
      ledger.ledgerEntries.total (isFor attemptId (.disputeDebit disputeId))
        LedgerEntry.amountCents +
      ledger.ledgerEntries.total (isFor attemptId (.disputeRelease disputeId))
        LedgerEntry.amountCents := by
  unfold disputeCents
  rw [← Table.total_or]
  · refine Table.total_congr ?_
    intro id entry _
    have same : (entry.paymentAttemptId == some attemptId &&
        entry.idempotencyKey.dispute == some disputeId) =
        (isFor attemptId (.disputeDebit disputeId) entry ||
          isFor attemptId (.disputeRelease disputeId) entry) := by
      rw [Bool.eq_iff_iff]
      simp only [isFor, Bool.or_eq_true, Bool.and_eq_true, beq_iff_eq]
      cases entry.idempotencyKey <;> simp [LedgerKey.dispute]
    rw [same]
  · intro entry
    unfold isFor
    cases entry.idempotencyKey <;> simp

theorem AccountsKnown.total_posted (known : AccountsKnown db) {key : LedgerKey} {cents : Int}
    (posted : PostedFor db.ledger attemptId key)
    (worth : ∀ id entry, db.ledger.ledgerEntries.get id = some entry →
      entry.idempotencyKey = key → entry.paymentAttemptId = some attemptId →
      entry.amountCents = cents) :
    db.ledger.ledgerEntries.total (isFor attemptId key) LedgerEntry.amountCents = cents := by
  obtain ⟨id, entry, found, is, of⟩ := posted
  rw [Table.total_single found (by simp [isFor, is, of])]
  · exact worth id entry found is of
  · intro i other located counts
    simp only [isFor, Bool.and_eq_true, beq_iff_eq] at counts
    exact known.balanced.keys i id other entry located found (counts.2.trans is.symm)

theorem total_unposted {ledger : Ledger} {key : LedgerKey}
    (unposted : ¬ PostedFor ledger attemptId key) :
    ledger.ledgerEntries.total (isFor attemptId key) LedgerEntry.amountCents = 0 := by
  refine Table.total_zero ?_
  intro id entry found counts
  simp only [isFor, Bool.and_eq_true, beq_iff_eq] at counts
  exact absurd ⟨id, entry, found, counts.2, counts.1⟩ unposted

theorem AtStage.cents {stage : DisputeStage} (at_ : AtStage db.ledger attemptId disputeId stage)
    (known : AccountsKnown db) (credited : earningFor db.ledger attemptId = some earning) :
    disputeCents db.ledger attemptId disputeId =
      if stage = .held then -earning.amountCents else 0 := by
  have debited (posted : PostedFor db.ledger attemptId (.disputeDebit disputeId)) :
      db.ledger.ledgerEntries.total (isFor attemptId (.disputeDebit disputeId))
        LedgerEntry.amountCents = -earning.amountCents := by
    refine known.total_posted posted ?_
    intro id entry found key of
    obtain ⟨other, same, _, also, adjusts⟩ := known.disputes.debit id entry disputeId found key
    obtain rfl := Option.some.inj (adjusts.attempt.symm.trans of)
    obtain rfl := Option.some.inj (credited.symm.trans also)
    exact adjusts.amount
  have released (posted : PostedFor db.ledger attemptId (.disputeRelease disputeId)) :
      db.ledger.ledgerEntries.total (isFor attemptId (.disputeRelease disputeId))
        LedgerEntry.amountCents = earning.amountCents := by
    refine known.total_posted posted ?_
    intro id entry found key of
    obtain ⟨other, same, _, also, adjusts, _⟩ :=
      known.disputes.release id entry disputeId found key
    obtain rfl := Option.some.inj (adjusts.attempt.symm.trans of)
    obtain rfl := Option.some.inj (credited.symm.trans also)
    exact adjusts.amount
  rw [disputeCents_parts]
  cases stage with
  | untouched =>
      rw [total_unposted at_.1, total_unposted at_.2]
      rfl
  | held =>
      rw [debited at_.1, total_unposted at_.2, Int.add_zero]
      rfl
  | released =>
      rw [debited at_.1, released at_.2, Int.add_left_neg]
      rfl

end Cents

/-! ### Whole runs -/

/-- What is known of the dispute once some of its statuses have been told. -/
structure Told (attemptId : AttemptId) (earning : LedgerEntry) (disputeId : StripeId) (w : World)
    (statuses : List DisputeStatus) : Prop where
  reached : World.Reached w
  credited : earningFor w.db.ledger attemptId = some earning
  stage : AtStage w.db.ledger attemptId disputeId (disputeStage statuses)

theorem AccountsKnown.schedule {db : DB} (known : AccountsKnown db) (jobs : List (Time × Job)) :
    AccountsKnown { db with scheduled := jobs } :=
  ⟨known.accounts, known.balanced, (DisputesSound.unscheduled db jobs).mpr known.disputes,
    (Settled.unscheduled db jobs).mpr known.settled⟩

theorem Told.step {attemptId : AttemptId} {earning : LedgerEntry} {disputeId : StripeId}
    {w : World} {statuses : List DisputeStatus}
    (told : Told attemptId earning disputeId w statuses) (input : Ctx × Op) :
    Told attemptId earning disputeId (World.step w input)
      (statuses ++ World.tells disputeId attemptId w input) := by
  have known : AccountsKnown w.db := .reached told.reached
  have earnings := EarningsSound.reached told.reached
  have earns := Int.ne_of_gt (earnings.earning told.credited).1
  unfold World.tells
  rcases World.step_ran w input with ⟨idle, later, same⟩ | ⟨m, earlier, later, ran, same⟩
  · rw [idle, List.append_nil]
    refine ⟨told.reached.step input, ?_, ?_⟩
    · rw [same]
      exact told.credited
    · rw [same]
      exact told.stage
  · rw [ran]
    have aware := known.schedule earlier
    refine ⟨told.reached.step input, ?_, ?_⟩
    · rw [same]
      exact (m.effect input.1 { w.db with scheduled := earlier }).earning_kept told.credited
    · rw [same]
      unfold disputeStage
      rw [List.foldl_append]
      exact @AtStage.mutation { w.db with scheduled := earlier } _ _ _ _ told.stage aware
        told.credited earns input.1 m

/-- What is known of the dispute after a run that starts without it. -/
theorem Told.run {w : World} (reached : World.Reached w) {attemptId : AttemptId}
    {earning : LedgerEntry} (credited : earningFor w.db.ledger attemptId = some earning)
    {disputeId : StripeId} (unknown : ∀ id row, w.db.paymentDisputes.get id = some row →
      row.stripeDisputeId ≠ disputeId) (inputs : List (Ctx × Op)) :
    Told attemptId earning disputeId (Library.run World.step w inputs)
      (statusesTold disputeId attemptId w inputs) := by
  have known : AccountsKnown w.db := .reached reached
  have start : Told attemptId earning disputeId w [] := by
    refine ⟨reached, credited, ?_, ?_⟩
    · rintro ⟨id, entry, found, key, _⟩
      obtain ⟨_, _, ⟨rowId, row, present, named, _⟩, _⟩ :=
        known.disputes.debit id entry disputeId found key
      exact unknown rowId row present named
    · rintro ⟨id, entry, found, key, _⟩
      obtain ⟨_, _, ⟨rowId, row, present, named, _⟩, _⟩ :=
        known.disputes.release id entry disputeId found key
      exact unknown rowId row present named
  have always : Along World.step (fun _ _ => True) w inputs :=
    @along_of_forall _ _ _ (fun _ => True) _ _ fun _ _ => trivial
  exact outputs_keeps (Told attemptId earning disputeId)
    (fun _ input _ told _ => told.step input) start always

/-- The creator is down the earning if it is held back, and nothing otherwise. -/
theorem Told.cents {attemptId : AttemptId} {earning : LedgerEntry} {disputeId : StripeId}
    {w : World} {statuses : List DisputeStatus}
    (told : Told attemptId earning disputeId w statuses) :
    disputeCents w.db.ledger attemptId disputeId =
      if disputeStage statuses = .held then -earning.amountCents else 0 :=
  told.stage.cents (.reached told.reached) told.credited

/-- The stage of the dispute after a run is that of the statuses told in it, in the order in which
they are first told. The creator is down the earning if it is held back, and nothing otherwise. -/
theorem dispute_order {w : World} (reached : World.Reached w) {attemptId : AttemptId}
    {earning : LedgerEntry} (credited : earningFor w.db.ledger attemptId = some earning)
    {disputeId : StripeId} (unknown : ∀ id row, w.db.paymentDisputes.get id = some row →
      row.stripeDisputeId ≠ disputeId) (inputs : List (Ctx × Op)) :
    disputeCents (run World.step w inputs).db.ledger attemptId disputeId =
      if disputeStage (statusesTold disputeId attemptId w inputs) = .held then
        -earning.amountCents
      else 0 :=
  (Told.run reached credited unknown inputs).cents

/-- Stripe tells that the dispute is won before it tells that there is one. -/
def wonFirst : List (Ctx × Op) :=
  World.sampled [.stripe (.createDispute ⟨0, 500, "usd", "fraudulent", none, .needsResponse⟩),
    .stripe (.updateDispute 0 .won .chargeDisputeClosed), .deliver 2, .deliver 1]

set_option maxRecDepth 40000 in
/-- The earning of a dispute that is won stays held back. -/
theorem dispute_order_wonFirst :
    disputeCents (run World.step wentLive wonFirst).db.ledger 0 0 = -428 := by
  have credited : (earningFor wentLive.db.ledger 0).any
      (fun earning => earning.amountCents == 428) = true := by decide
  have empty : wentLive.db.paymentDisputes.rows = [] := by decide
  obtain ⟨earning, found, worth⟩ := Option.any_eq_true _ _ |>.mp credited
  have cents := @dispute_order wentLive wentLive_reached 0 earning found 0
    (by simp [Table.get, empty]) wonFirst
  have held : disputeStage (statusesTold 0 0 wentLive wonFirst) = .held := by decide
  rw [if_pos held, beq_iff_eq.mp worth] at cents
  exact cents

/-! ### Where the dispute ended -/

/-- The dispute comes to what Stripe made of it in the end exactly if the order in which its
statuses are told holds the earning back when it ended open or lost, and does not when it ended
resolved. -/
theorem dispute_ends_as_told_iff {w : World} (reached : World.Reached w) {attemptId : AttemptId}
    {earning : LedgerEntry} (credited : earningFor w.db.ledger attemptId = some earning)
    {disputeId : StripeId} (unknown : ∀ id row, w.db.paymentDisputes.get id = some row →
      row.stripeDisputeId ≠ disputeId) (inputs : List (Ctx × Op)) :
    let after := run World.step w inputs
    let cents := disputeCents after.db.ledger attemptId disputeId
    let told := statusesTold disputeId attemptId w inputs
    ∀ dispute, after.stripe.disputes.get disputeId = some dispute →
      ((dispute.status ∈ disputeOpen → cents = -earning.amountCents) ∧
          (dispute.status ∈ disputeResolved → cents = 0) ↔
        (dispute.status ∈ disputeOpen → HeldBack told) ∧
          (dispute.status ∈ disputeResolved → ¬ HeldBack told)) := by
  intro after cents told dispute _
  have worth := (Told.run reached credited unknown inputs).cents
  have lasting : -earning.amountCents ≠ 0 :=
    Int.neg_ne_zero.mpr (Int.ne_of_gt ((EarningsSound.reached reached).earning credited).1)
  by_cases held : HeldBack told
  · have down : cents = -earning.amountCents :=
      worth.trans (if_pos ((disputeStage_held told).mpr held))
    rw [down]
    simp [held, lasting]
  · have even : cents = 0 :=
      worth.trans (if_neg fun stage => held ((disputeStage_held told).mp stage))
    rw [even]
    simp [held, lasting.symm]

/-- Stripe tells of the dispute, and then that it is won. -/
def wonLast : List (Ctx × Op) :=
  World.sampled [.stripe (.createDispute ⟨0, 500, "usd", "fraudulent", none, .needsResponse⟩),
    .deliver 1, .stripe (.updateDispute 0 .won .chargeDisputeClosed), .deliver 2]

set_option maxRecDepth 40000 in
theorem dispute_ends_as_told_won :
    disputeCents (run World.step wentLive wonLast).db.ledger 0 0 = 0 := by
  have credited : (earningFor wentLive.db.ledger 0).isSome = true := by decide
  have empty : wentLive.db.paymentDisputes.rows = [] := by decide
  have told : disputeStage (statusesTold 0 0 wentLive wonLast) ≠ .held := by decide
  have won : ((run World.step wentLive wonLast).stripe.disputes.get 0).any
      (fun dispute => dispute.status == .won) = true := by decide
  obtain ⟨earning, found⟩ := Option.isSome_iff_exists.mp credited
  obtain ⟨dispute, ended, isWon⟩ := Option.any_eq_true _ _ |>.mp won
  rw [beq_iff_eq] at isWon
  have ends := (@dispute_ends_as_told_iff wentLive wentLive_reached 0 earning found 0
    (by simp [Table.get, empty]) wonLast dispute ended).mpr
      ⟨fun isOpen => by rw [isWon] at isOpen; exact absurd isOpen (by decide),
        fun _ held => told ((disputeStage_held _).mpr held)⟩
  exact ends.2 (by rw [isWon]; decide)

/-- The dispute an event is about. -/
def Event.disputeId (event : Event) : Option StripeId :=
  match event.object with
  | .dispute dispute => some dispute.id
  | _ => none

set_option maxRecDepth 40000 in
/-- Both events of the dispute have been delivered, it is won, and the earning is gone. -/
theorem dispute_won_held_back :
    let w := run World.step wentLive wonFirst
    (w.stripe.disputes.get 0).map StripeDispute.status = some .won ∧
      (∀ event ∈ w.stripe.events, event.disputeId = some 0 →
        (w.db.stripeEvents.first fun e => e.stripeEventId == event.eventId).isSome = true) ∧
      disputeCents w.db.ledger 0 0 = -428 := by
  decide

end Bling
