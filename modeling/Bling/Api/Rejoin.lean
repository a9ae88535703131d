import Bling.Api.Agreement

set_option autoImplicit false

namespace Bling.Api

open Library

/-! Coming back to the queue: the entry is used again, and what names it from its
earlier rounds decides whether that works. -/

/-- A viewer who has left asks to join again, and pays what the tier costs. -/
structure Returning (db : DB) (input : JoinInput) (entryId : EntryId) (entry : QueueEntry)
    (tierId : TierId) (tier : ShowTier) : Prop where
  live : ∃ hotline, db.shows.get input.showId = some hotline ∧ hotline.status = .live
  present : db.queueEntries.get entryId = some entry
  left : entry.status = .left
  inShow : entry.showId = input.showId
  mine : entry.sessionTokenHash = input.sessionTokenHash
  /-- The join key is not that of somebody else's entry. -/
  key : ∀ id other, db.queueEntries.get id = some other → id ≠ entryId →
    other.showId = input.showId → other.joinKeyHash ≠ input.joinKeyHash
  asks : tierForJoin db input.showId input.tierId = .ok (tierId, tier)
  pays : tier.priceCents = 0 ∨ ∃ attemptId attempt, input.paymentAttemptId = some attemptId ∧
    db.paymentAttempts.get attemptId = some attempt ∧ attempt.showId = input.showId ∧
    attempt.tierId = tierId ∧ attempt.viewerTokenHash = input.sessionTokenHash ∧
    attempt.amountCents = tier.priceCents ∧ attempt.status = .authorized ∧
    attempt.queueEntryId = none

/-- A caller who waits, and may be selected as nobody else has an active call. -/
structure Callable (db : DB) (showId : ShowId) (creatorId : UserId) (choice : Choice)
    (entryId : EntryId) (entry : QueueEntry) : Prop where
  live : ∃ hotline, db.shows.get showId = some hotline ∧ hotline.creatorId = creatorId ∧
    hotline.status = .live
  idle : ∀ callId call, db.calls.get callId = some call → call.showId = showId →
    call.status ∉ activeStatuses
  present : db.queueEntries.get entryId = some entry
  waiting : entry.status = .waiting
  inShow : entry.showId = showId
  chosen : choice = .manual entryId ∨
    ∃ pivot, choice = .random pivot ∧ randomCaller db showId pivot = some (entryId, entry)
  paid : entry.tierPriceCents = 0 ∨ ∃ attemptId attempt, entry.paymentAttemptId = some attemptId ∧
    db.paymentAttempts.get attemptId = some attempt ∧ attempt.status = .authorized

/-! ### Joining again -/

section Join

variable {db : DB} {input : JoinInput} {entryId : EntryId} {entry : QueueEntry} {tierId : TierId}
  {tier : ShowTier} (linked : Linked db)
  (returning : Returning db input entryId entry tierId tier)

include linked returning

theorem Returning.existing : existingEntry db input = some (entryId, entry) := by
  unfold existingEntry
  have found : (db.queueEntries.first fun q => q.showId == input.showId &&
      q.sessionTokenHash == input.sessionTokenHash) = some (entryId, entry) := by
    refine Table.first_of_unique returning.present (by simp [returning.inShow, returning.mine]) ?_
    intro key other found matched
    by_contra differ
    have apart := linked.apart entryId key entry other returning.present found (Ne.symm differ)
    simp only [Bool.and_eq_true, beq_iff_eq] at matched
    exact ((clash_none_iff _ _).mp apart).1
      ⟨returning.inShow.trans matched.1.symm, returning.mine.trans matched.2.symm⟩
  rw [found]

omit linked in
/-- The payment of a returning viewer, and what is known of it. -/
theorem Returning.payment : ∃ payment, joinPayment db input tierId tier = .ok payment ∧
    (payment = none ↔ tier.priceCents = 0) ∧ ∀ attemptId, payment = some attemptId →
      ∃ attempt, db.paymentAttempts.get attemptId = some attempt ∧
        attempt.status = .authorized ∧ attempt.queueEntryId = none := by
  unfold joinPayment
  by_cases free : tier.priceCents = 0
  · exact ⟨none, if_pos free, by simp [free], fun _ paid => by cases paid⟩
  · rcases returning.pays with zero | ⟨attemptId, attempt, asked, stored, fits⟩
    · exact absurd zero free
    · obtain ⟨inShow, sameTier, viewer, amount, authorized, unused⟩ := fits
      have valid : paymentValid db input attemptId tierId tier = true := by
        simp [paymentValid, stored, inShow, sameTier, viewer, amount, authorized, unused]
      refine ⟨some attemptId, ?_, by simp [free], fun id same => ?_⟩
      · rw [if_neg free, asked]
        exact if_pos valid
      · obtain rfl := Option.some.inj same
        exact ⟨attempt, stored, authorized, unused⟩

/-- The entry as it joins again clashes with no other. -/
theorem Returning.unclashed (now : Time) {payment : Option AttemptId}
    (fresh : ∀ attemptId, payment = some attemptId → ∃ attempt,
      db.paymentAttempts.get attemptId = some attempt ∧ attempt.status = .authorized ∧
        attempt.queueEntryId = none) {rejoined : QueueEntry}
    (same : rejoined = { joinedEntry now db input tierId tier payment with
      showId := entry.showId
      selectedAt := entry.selectedAt }) :
    entryKey db.queueEntries entryId rejoined = .ok () := by
  subst same
  rw [entryKey_ok_iff]
  intro id other found differ
  have apart := linked.apart entryId id entry other returning.present found differ.symm
  rw [clash_none_iff] at apart ⊢
  refine ⟨?_, ?_, ?_, ?_⟩
  · rintro ⟨shows, token⟩
    exact apart.1 ⟨shows, returning.mine.trans token⟩
  · rintro ⟨shows, key⟩
    exact returning.key id other found differ (shows.symm.trans returning.inShow) key.symm
  · rintro ⟨isPaid, payment⟩
    obtain ⟨attemptId, paid⟩ := Option.isSome_iff_exists.mp isPaid
    obtain ⟨attempt, stored, _, unused⟩ := fresh attemptId paid
    obtain ⟨claimed, there, owner, _⟩ := linked.owned id other attemptId found
      (payment.symm.trans paid)
    obtain rfl := Option.some.inj (stored.symm.trans there)
    rw [unused] at owner
    cases owner
  · rintro ⟨_, on, _⟩
    exact absurd on (show QueueStatus.waiting ∉ onStage by decide)

/-- A viewer who has left joins again, unless the tier costs something and an
attempt of an earlier round still names the entry. -/
theorem join_again (now : Time) : (∃ after, join now db input = .ok (after, entryId)) ↔
    tier.priceCents = 0 ∨ ∀ attemptId attempt, db.paymentAttempts.get attemptId = some attempt →
      attempt.queueEntryId ≠ some entryId := by
  obtain ⟨hotline, host, live⟩ := returning.live
  obtain ⟨payment, paying, isFree, fresh⟩ := returning.payment
  have key := returning.unclashed linked now fresh rfl
  have joins : join now db input = (claimPayment
      { db with
        queueEntries := db.queueEntries.patch entryId fun e =>
          { joinedEntry now db input tierId tier payment with
            showId := e.showId
            selectedAt := e.selectedAt }
        nextPosition := db.nextPosition + 1 } payment entryId).map fun after =>
      (after, entryId) := by
    unfold join updateEntry
    simp only [host, live, returning.asks, ok_bind, paying, returning.existing linked,
      returning.left, returning.present, key]
    rfl
  rw [joins]
  cases payment with
  | none =>
      exact ⟨fun _ => Or.inl (isFree.mp rfl), fun _ => ⟨_, rfl⟩⟩
  | some attemptId =>
      obtain ⟨attempt, stored, authorized, unused⟩ := fresh attemptId rfl
      have priced : tier.priceCents ≠ 0 := fun free => by cases isFree.mpr free
      simp only [claimPayment, stored, authorized, unused]
      constructor
      · rintro ⟨after, ok⟩
        right
        intro id other found named
        rw [if_neg (by simp), if_pos] at ok
        · cases ok
        · exact (Table.first_isSome_iff _ _).mpr ⟨id, other, found, by simp [named]⟩
      · rintro (free | unnamed)
        · exact absurd free priced
        · rw [if_neg (by simp), if_neg]
          · exact ⟨_, rfl⟩
          · intro named
            obtain ⟨id, other, found, same⟩ := (Table.first_isSome_iff _ _).mp named
            exact unnamed id other found (by simpa using same)

end Join

/-! ### Being selected again -/

section Select

variable {db : DB} {showId : ShowId} {creatorId : UserId} {choice : Choice} {entryId : EntryId}
  {entry : QueueEntry} (callable : Callable db showId creatorId choice entryId entry)

include callable

theorem Callable.select_eq (now : Time) : select now db showId creatorId choice =
    if 0 < entry.tierPriceCents then selectPaid now db showId entryId entry choice.mode
    else
      updateEntry db entryId (fun e => { e with status := .selected, selectedAt := some now }) >>=
        fun db => insertCall db (newCall now showId entryId entry choice.mode .created none) >>=
          fun db => .ok (db, none) := by
  obtain ⟨hotline, host, own, live⟩ := callable.live
  have idle : ¬(db.calls.first fun c =>
      c.showId == showId && c.status ∈ activeStatuses).isSome = true := by
    intro busy
    obtain ⟨callId, call, found, matched⟩ := (Table.first_isSome_iff _ _).mp busy
    simp only [Bool.and_eq_true, beq_iff_eq, decide_eq_true_eq] at matched
    exact callable.idle callId call found matched.1 matched.2
  unfold select
  simp only [host, own, live, ne_eq, not_true_eq_false, if_false, if_neg idle]
  rcases callable.chosen with rfl | ⟨pivot, rfl, drawn⟩
  · have locked : lockCaller db showId entryId = some (entryId, entry) := by
      simp [lockCaller, callable.present, callable.inShow, callable.waiting]
    simp only [locked]
  · simp only [drawn]

/-- A call is made unless one names its entry already. -/
theorem insertCall_iff (middle : DB) (calls : middle.calls = db.calls) (call : Call)
    (inShow : call.showId = showId) (mine : call.queueEntryId = entryId) :
    (∃ after, insertCall middle call = .ok after) ↔
      ∀ callId other, db.calls.get callId = some other → other.queueEntryId ≠ entryId := by
  constructor
  · rintro ⟨after, ok⟩ callId other found
    rw [← mine]
    exact (insertCall_ok ok).2.1 callId other (calls ▸ found)
  · intro unnamed
    unfold insertCall
    rw [calls, if_neg, if_neg]
    · exact ⟨_, rfl⟩
    · rintro ⟨_, busy⟩
      obtain ⟨callId, other, found, matched⟩ := (Table.first_isSome_iff _ _).mp busy
      simp only [Bool.and_eq_true, beq_iff_eq, decide_eq_true_eq] at matched
      exact callable.idle callId other found (matched.1.trans inShow) matched.2
    · intro named
      obtain ⟨callId, other, found, matched⟩ := (Table.first_isSome_iff _ _).mp named
      exact unnamed callId other found ((beq_iff_eq.mp matched).trans mine)

/-- A waiting caller is selected, unless a call of an earlier round names the entry. -/
theorem select_again (linked : Linked db) (served : ∀ id, Served db id) (now : Time) :
    (∃ result, select now db showId creatorId choice = .ok result) ↔
      ∀ callId call, db.calls.get callId = some call → call.queueEntryId ≠ entryId := by
  rw [callable.select_eq now]
  by_cases priced : 0 < entry.tierPriceCents
  · rw [if_pos priced]
    rcases callable.paid with free | ⟨attemptId, attempt, payment, stored, authorized⟩
    · omega
    · obtain ⟨intentId, intent⟩ := Option.isSome_iff_exists.mp
        (linked.backed attemptId attempt stored authorized)
      have made := insertCall_iff callable db rfl
        (newCall now showId entryId entry choice.mode .paymentPending (some attemptId)) rfl rfl
      simp only [selectPaid, payment, Option.bind_some, stored, Option.map_some, intent,
        authorized]
      rw [← made]
      constructor
      · rintro ⟨result, ok⟩
        obtain ⟨after, called, _⟩ := bind_ok ok
        exact ⟨after, called⟩
      · rintro ⟨after, called⟩
        rw [called]
        exact ⟨_, rfl⟩
  · rw [if_neg priced]
    have key : entryKey db.queueEntries entryId
        { entry with status := .selected, selectedAt := some now } = .ok () := by
      rw [entryKey_ok_iff]
      intro id other found differ
      have apart := linked.apart entryId id entry other callable.present found differ.symm
      rw [clash_none_iff] at apart ⊢
      refine ⟨apart.1, apart.2.1, apart.2.2.1, ?_⟩
      rintro ⟨shows, _, on⟩
      -- Somebody else on stage would have a call, and so an active one.
      obtain ⟨status, ⟨opened, callId, call, there, same, rfl⟩, _⟩ :=
        served id _ (stage_of_on found on)
      obtain ⟨caller, located, inShow⟩ := linked.bound callId call there
      rw [same] at located
      obtain rfl := Option.some.inj (found.symm.trans located)
      exact callable.idle callId call there (inShow.symm.trans (shows.symm.trans callable.inShow))
        (active_of_open opened)
    have moved : updateEntry db entryId (fun e =>
        { e with status := .selected, selectedAt := some now }) =
        .ok { db with queueEntries := db.queueEntries.patch entryId fun e =>
          { e with status := .selected, selectedAt := some now } } := by
      unfold updateEntry
      simp only [callable.present, key]
      rfl
    rw [moved]
    rw [ok_bind, ← insertCall_iff callable { db with
      queueEntries := db.queueEntries.patch entryId fun e =>
        { e with status := .selected, selectedAt := some now } } rfl
        (newCall now showId entryId entry choice.mode .created none) rfl rfl]
    constructor
    · rintro ⟨result, ok⟩
      obtain ⟨after, called, _⟩ := bind_ok ok
      exact ⟨after, called⟩
    · rintro ⟨after, called⟩
      rw [called]
      exact ⟨_, rfl⟩

end Select

/-! ### Any run -/

/-- After any run, a viewer who has left joins again if and only if the tier is free
or no attempt names the entry yet, and a waiting caller is selected if and only if
no call does. -/
theorem caller_returns {shows : Table Show} {showTiers : Table ShowTier} {s : State}
    (reached : Reachable State.step (.opening shows showTiers) s) (now : Time) :
    (∀ input entryId entry tierId tier, Returning s.db input entryId entry tierId tier →
      ((∃ after, join now s.db input = .ok (after, entryId)) ↔
        tier.priceCents = 0 ∨ ∀ attemptId attempt,
          s.db.paymentAttempts.get attemptId = some attempt →
            attempt.queueEntryId ≠ some entryId)) ∧
    ∀ showId creatorId choice entryId entry, Callable s.db showId creatorId choice entryId entry →
      ((∃ result, select now s.db showId creatorId choice = .ok result) ↔
        ∀ callId call, s.db.calls.get callId = some call → call.queueEntryId ≠ entryId) := by
  have staged := reachable_staged reached
  exact ⟨fun _ _ _ _ _ returning => join_again staged.linked returning now,
    fun _ _ _ _ _ callable => select_again callable staged.linked staged.served now⟩

/-! ### Leaving and coming back -/

/-- The entry of viewer 7 after leaving. -/
def sampleEntry (priceCents : Nat) (payment : Option AttemptId) : QueueEntry :=
  { showId := 0
    displayName := [2]
    topic := [3]
    status := .left
    tierId := 0
    tierName := [1]
    priorityRank := 0
    callDurationSeconds := 60
    tierPriceCents := priceCents
    queuePosition := 1
    sessionTokenHash := 7
    joinKeyHash := 8
    paymentAttemptId := payment
    joinedAt := 4
    selectedAt := none
    leftAt := some 6 }

def sampleReturn (payment : Option AttemptId) : JoinInput :=
  ⟨0, some 0, [2], [3], 7, 8, payment⟩

theorem caller_returns_free : ∃ after,
    join 7 (run State.step (.opening sampleShows (sampleTiers 0))
      [(4, sampleJoin none), (6, .leave 0 7)]).db (sampleReturn none) = .ok (after, 0) := by
  have returning : Returning (run State.step (.opening sampleShows (sampleTiers 0))
      [(4, sampleJoin none), (6, .leave 0 7)]).db (sampleReturn none) 0 (sampleEntry 0 none) 0
      ⟨0, [1], 0, 60, 0, true⟩ := by
    refine ⟨⟨⟨5, .live, some 0, none⟩, rfl, rfl⟩, rfl, rfl, rfl, rfl, ?_, rfl, Or.inl rfl⟩
    intro id other found differ
    have member := (Table.mem_rows_iff _ _ _).mpr found
    exact absurd (congrArg Prod.fst (List.mem_singleton.mp member)) differ
  exact (((caller_returns ⟨_, rfl⟩ 7).1 _ _ _ _ _ returning).mpr (Or.inl rfl))

/-- Viewer 7 pays, joins, leaves and pays again. -/
def sampleLeaver : List (Time × Op) :=
  [(1, .prepare 0 0 7 1 (some 8) (some 80)), (2, .attachIntent 0 900), (3, .markAuthorized 0),
    (4, sampleJoin (some 0)), (6, .leave 0 7), (7, .prepare 0 0 7 2 (some 8) (some 80)),
    (8, .attachIntent 1 901), (9, .markAuthorized 1)]

set_option maxRecDepth 20000 in
/-- The first payment still names the entry, and the second can't. -/
theorem leaver_cannot_return : ¬ ∀ shows showTiers s,
    Reachable State.step (.opening shows showTiers) s →
    ∀ now input entryId entry tierId tier, Returning s.db input entryId entry tierId tier →
      ∃ after, join now s.db input = .ok (after, entryId) := by
  intro always
  have returning : Returning (run State.step (.opening sampleShows (sampleTiers 500))
      sampleLeaver).db (sampleReturn (some 1)) 0 (sampleEntry 500 (some 0)) 0
      ⟨0, [1], 0, 60, 500, true⟩ := by
    refine ⟨⟨⟨5, .live, some 0, none⟩, rfl, rfl⟩, rfl, rfl, rfl, rfl, ?_, rfl, Or.inr ?_⟩
    · intro id other found differ
      have member := (Table.mem_rows_iff _ _ _).mpr found
      exact absurd (congrArg Prod.fst (List.mem_singleton.mp member)) differ
    · exact ⟨1, ⟨0, 0, none, 7, 2, some 8, some 80, some 901, 500, .authorized, none, some 9, none,
        none⟩, rfl, rfl, rfl, rfl, rfl, rfl, rfl, rfl⟩
  obtain ⟨after, joined⟩ := always _ _ _ ⟨sampleLeaver, rfl⟩ 10 _ _ _ _ _ returning
  have clash : join 10 (run State.step (.opening sampleShows (sampleTiers 500)) sampleLeaver).db
      (sampleReturn (some 1)) = .error (.unique .attemptEntry) := rfl
  rw [clash] at joined
  cases joined

end Bling.Api
