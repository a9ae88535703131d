import Bling.Realtime.PresenceStore

set_option autoImplicit false

namespace Bling.Realtime

open Library

/-! Redis has a lease of each connection until it runs out, and says which roles are gone. -/

variable {z : SortedSets} {callID callID' connectionID connectionID' : PlainId}
  {role role' : CallRole} {now : Time} {m : Text} {x : Nat}

/-! ### The invariant -/

/-- Every deadline is the lease of a connection, every entry of a role has its deadline, and
every lease that has not run out is there. -/
structure Kept (z : SortedSets) (clock : Time)
    (leases : PlainId → CallRole → PlainId → Option Time) : Prop where
  named : ∀ m x, (z deadlinesKey).score m = some x → ∃ callID role connectionID,
    m = presenceMember callID.value role connectionID.value ∧
      leases callID role connectionID = some x
  within : ∀ (callID : PlainId) role m x,
    (z (presenceRoleKey callID.value role)).score m = some x → ∃ connectionID : PlainId,
      m = connectionID.value ∧
        (z deadlinesKey).score (presenceMember callID.value role m) = some x
  leased : ∀ (callID : PlainId) role (connectionID : PlainId) x,
    leases callID role connectionID = some x → clock < x →
      (z (presenceRoleKey callID.value role)).score connectionID.value = some x

/-- A `Reap` does members that were well formed, and remembers what it has reported. -/
structure Reaping (clock : Time) (reap : ReapCall) : Prop where
  past : reap.now ≤ clock
  members : ∀ m ∈ reap.members, ∃ (callID : PlainId) (role : CallRole) (connectionID : PlainId),
    m = presenceMember callID.value role connectionID.value
  seen : ∀ key ∈ reap.seen, ∃ (callID : PlainId) (role : CallRole),
    key = callID.value ++ bar :: roleText role ∧ (callID.value, role) ∈ reap.expired

structure Sound (p : Presence) : Prop where
  kept : Kept p.zsets p.clock p.leases
  reaps : ∀ id reap, p.reaps.get id = some reap → Reaping p.clock reap

variable {leases leases' : PlainId → CallRole → PlainId → Option Time} {clock : Time}

/-- The entries of a role are leases. -/
theorem Kept.lease (kept : Kept z clock leases)
    (found : (z (presenceRoleKey callID.value role)).score m = some x) :
    ∃ connectionID : PlainId, m = connectionID.value ∧
      leases callID role connectionID = some x := by
  obtain ⟨connectionID, rfl, deadline⟩ := kept.within callID role m x found
  obtain ⟨callID', role', connectionID', same, lease⟩ := kept.named _ x deadline
  obtain ⟨rfl, rfl, rfl⟩ := member_inj same
  exact ⟨connectionID, rfl, lease⟩

/-- A role with no entries has no lease that has not run out, and the other way around. -/
theorem Kept.card_eq_zero (kept : Kept z clock leases)
    (none : (z (presenceRoleKey callID.value role)).card = 0)
    (lease : leases callID role connectionID = some x) : x ≤ clock := by
  by_contra later
  have held := kept.leased callID role connectionID x lease (Nat.lt_of_not_le later)
  rw [SortedSet.card_eq_zero.mp none] at held
  cases held

theorem Kept.drop (kept : Kept z clock leases) {later : Time} (after : clock ≤ later)
    (past : now ≤ later)
    (others : ∀ c r n, ¬ (c = callID ∧ r = role ∧ n = connectionID) → leases' c r n = leases c r n)
    (gone : ∀ x, leases' callID role connectionID = some x → x ≤ later) :
    Kept (drop z callID.value role connectionID.value now) later leases' := by
  constructor
  · intro m x found
    obtain ⟨old, apart⟩ := drop_deadlines.mp found
    obtain ⟨c, r, n, rfl, lease⟩ := kept.named m x old
    refine ⟨c, r, n, rfl, ?_⟩
    rw [others c r n, lease]
    rintro ⟨rfl, rfl, rfl⟩
    exact apart rfl
  · intro c r m x found
    obtain ⟨old, apart⟩ := drop_role.mp found
    obtain ⟨n, rfl, deadline⟩ := kept.within c r m x old
    refine ⟨n, rfl, drop_deadlines.mpr ⟨deadline, ?_⟩⟩
    intro same
    obtain ⟨rfl, rfl, rfl⟩ := member_inj same
    exact (apart ⟨rfl, rfl⟩).1 rfl
  · intro c r n x lease late
    by_cases here : c = callID ∧ r = role ∧ n = connectionID
    · obtain ⟨rfl, rfl, rfl⟩ := here
      exact absurd late (Nat.not_lt.mpr (gone x lease))
    · rw [others c r n here] at lease
      have old := kept.leased c r n x lease (Nat.lt_of_le_of_lt after late)
      refine drop_role.mpr ⟨old, ?_⟩
      rintro ⟨rfl, rfl⟩
      refine ⟨?_, Nat.lt_of_le_of_lt past late⟩
      intro same
      exact here ⟨rfl, rfl, PlainId.ext same⟩

theorem Kept.touch (kept : Kept z clock leases) (store : PresenceStore) (after : clock ≤ now)
    (others : ∀ c r n, ¬ (c = callID ∧ r = role ∧ n = connectionID) → leases' c r n = leases c r n)
    (new : leases' callID role connectionID = some (now + store.ttl)) :
    Kept (touch store z callID.value role connectionID.value now) now leases' := by
  constructor
  · intro m x found
    rcases touch_deadlines.mp found with ⟨rfl, rfl⟩ | ⟨old, apart⟩
    · exact ⟨callID, role, connectionID, rfl, new⟩
    · obtain ⟨c, r, n, rfl, lease⟩ := kept.named m x old
      refine ⟨c, r, n, rfl, ?_⟩
      rw [others c r n, lease]
      rintro ⟨rfl, rfl, rfl⟩
      exact apart rfl
  · intro c r m x found
    rcases touch_role.mp found with ⟨⟨rfl, rfl⟩, rfl, rfl⟩ | ⟨old, apart⟩
    · exact ⟨connectionID, rfl, touch_deadlines.mpr (Or.inl ⟨rfl, rfl⟩)⟩
    · obtain ⟨n, rfl, deadline⟩ := kept.within c r m x old
      refine ⟨n, rfl, touch_deadlines.mpr (Or.inr ⟨deadline, ?_⟩)⟩
      intro same
      obtain ⟨rfl, rfl, rfl⟩ := member_inj same
      exact apart ⟨rfl, rfl⟩ rfl
  · intro c r n x lease late
    by_cases here : c = callID ∧ r = role ∧ n = connectionID
    · obtain ⟨rfl, rfl, rfl⟩ := here
      rw [new] at lease
      exact touch_role.mpr (Or.inl ⟨⟨rfl, rfl⟩, rfl, (Option.some.inj lease).symm⟩)
    · rw [others c r n here] at lease
      have old := kept.leased c r n x lease (Nat.lt_of_le_of_lt after late)
      refine touch_role.mpr (Or.inr ⟨old, ?_⟩)
      rintro ⟨rfl, rfl⟩ same
      exact here ⟨rfl, rfl, PlainId.ext same⟩

theorem Kept.mono (kept : Kept z clock leases) {later : Time} (after : clock ≤ later) :
    Kept z later leases :=
  ⟨kept.named, kept.within, fun c r n x lease late =>
    kept.leased c r n x lease (Nat.lt_of_le_of_lt after late)⟩

theorem Reaping.mono {reap : ReapCall} (reaping : Reaping clock reap) {later : Time}
    (after : clock ≤ later) : Reaping later reap :=
  ⟨Nat.le_trans reaping.past after, reaping.members, reaping.seen⟩

/-- What one round of a `Reap` can come to. -/
inductive ReapRound (z : SortedSets) (reap : ReapCall) : SortedSets → ReapCall → Prop where
  | done : reap.members = [] → ReapRound z reap z reap
  | touched (callID connectionID : PlainId) (role : CallRole) (members : List Text) :
      reap.members = presenceMember callID.value role connectionID.value :: members →
      (∀ x, (z deadlinesKey).score (presenceMember callID.value role connectionID.value) =
        some x → reap.now < x) →
      ReapRound z reap z { reap with members }
  | dropped (callID connectionID : PlainId) (role : CallRole) (members : List Text) (x : Nat)
      (after : ReapCall) :
      reap.members = presenceMember callID.value role connectionID.value :: members →
      (z deadlinesKey).score (presenceMember callID.value role connectionID.value) = some x →
      x ≤ reap.now →
      ((drop z callID.value role connectionID.value reap.now
          (presenceRoleKey callID.value role)).card = 0 →
        (callID.value, role) ∈ after.expired) →
      (after = { reap with members } ∨
        (drop z callID.value role connectionID.value reap.now
          (presenceRoleKey callID.value role)).card = 0 ∧
        after = { reap with
          members
          expired := reap.expired ++ [(callID.value, role)]
          seen := (callID.value ++ bar :: roleText role) :: reap.seen }) →
      ReapRound z reap (drop z callID.value role connectionID.value reap.now) after

theorem reapNext_round {reap : ReapCall} (reaping : Reaping clock reap) :
    ReapRound z reap (reapNext z reap).1 (reapNext z reap).2 := by
  unfold reapNext
  split
  · rename_i none
    exact .done none
  · rename_i member members listed
    obtain ⟨callID, role, connectionID, rfl⟩ :=
      reaping.members member (listed ▸ List.mem_cons_self)
    simp only [parse_member]
    rcases reapPresenceScript_cases z callID connectionID role reap.now with
      ⟨later, same⟩ | ⟨x, found, due, same⟩
    · simp only [same]
      exact .touched callID connectionID role members listed later
    · simp only [same, Int.natCast_eq_zero]
      split
      · rename_i new
        refine .dropped callID connectionID role members x _ listed found due ?_
          (Or.inr ⟨new.1, rfl⟩)
        intro _
        simp
      · rename_i reported
        refine .dropped callID connectionID role members x _ listed found due ?_ (Or.inl rfl)
        intro gone
        have seen : callID.value ++ bar :: roleText role ∈ reap.seen := by
          by_contra new
          exact reported ⟨gone, new⟩
        obtain ⟨callID', role', key, listed⟩ := reaping.seen _ seen
        obtain ⟨rfl, rfl⟩ := seenKey_inj key
        exact listed

/-! ### Steps -/

namespace Presence

variable (store : PresenceStore) {p : Presence}

theorem setLease_self (p : Presence) (callID : PlainId) (role : CallRole) (connectionID : PlainId)
    (lease : Option Time) :
    (p.setLease callID role connectionID lease).leases callID role connectionID = lease := by
  simp [setLease]

theorem setLease_other (p : Presence) (callID : PlainId) (role : CallRole) (connectionID : PlainId)
    (lease : Option Time) (c : PlainId) (r : CallRole) (n : PlainId)
    (apart : ¬ (c = callID ∧ r = role ∧ n = connectionID)) :
    (p.setLease callID role connectionID lease).leases c r n = p.leases c r n :=
  if_neg apart

theorem ReapRound.kept {reap reap' : ReapCall} {z' : SortedSets}
    (round : ReapRound z reap z' reap') (kept : Kept z clock leases) (past : reap.now ≤ clock) :
    Kept z' clock leases := by
  cases round with
  | done | touched => exact kept
  | dropped callID connectionID role members x _ listed found due =>
      apply kept.drop (Nat.le_refl _) past (fun _ _ _ _ => rfl)
      intro y lease
      obtain ⟨c, r, n, same, known⟩ := kept.named _ x found
      obtain ⟨rfl, rfl, rfl⟩ := member_inj same
      rw [known] at lease
      exact Option.some.inj lease ▸ Nat.le_trans due past

theorem ReapRound.reaping {reap reap' : ReapCall} {z' : SortedSets}
    (round : ReapRound z reap z' reap') (reaping : Reaping clock reap) : Reaping clock reap' := by
  cases round with
  | done => exact reaping
  | touched callID connectionID role members listed =>
      exact ⟨reaping.past, fun m member =>
        reaping.members m (listed ▸ List.mem_cons_of_mem _ member), reaping.seen⟩
  | dropped callID connectionID role members x _ listed found due reported outcome =>
      have rest : ∀ m ∈ members, ∃ (callID : PlainId) (role : CallRole) (connectionID : PlainId),
          m = presenceMember callID.value role connectionID.value := fun m member =>
        reaping.members m (listed ▸ List.mem_cons_of_mem _ member)
      rcases outcome with rfl | ⟨_, rfl⟩
      · exact ⟨reaping.past, rest, reaping.seen⟩
      · refine ⟨reaping.past, rest, ?_⟩
        intro key member
        rcases List.mem_cons.mp member with rfl | earlier
        · exact ⟨callID, role, rfl, by simp⟩
        · obtain ⟨c, r, same, listed⟩ := reaping.seen key earlier
          exact ⟨c, r, same, List.mem_append_left _ listed⟩

theorem step_sound (sound : Sound p) (input : Nat × PresenceOp) : Sound (p.step store input) := by
  obtain ⟨elapsed, op⟩ := input
  have after : p.clock ≤ p.clock + elapsed := Nat.le_add_right _ _
  have waiting : ∀ id reap, p.reaps.get id = some reap → Reaping (p.clock + elapsed) reap :=
    fun id reap found => (sound.reaps id reap found).mono after
  cases op with
  | touch callID role connectionID =>
      refine ⟨?_, waiting⟩
      exact sound.kept.touch store after (setLease_other _ callID role connectionID _)
        (setLease_self _ _ _ _ _)
  | disconnect callID role connectionID =>
      refine ⟨?_, waiting⟩
      apply sound.kept.drop after (Nat.le_refl _) (setLease_other _ callID role connectionID _)
      intro x lease
      rw [setLease_self] at lease
      cases lease
  | reap limit =>
      refine ⟨sound.kept.mono after, ?_⟩
      intro id reap found
      rcases Table.get_insert_row found with ⟨_, rfl⟩ | older
      · refine ⟨Nat.le_refl _, ?_, ?_⟩
        · intro m listed
          obtain ⟨x, held, _⟩ := SortedSet.mem_rangeUpTo listed
          obtain ⟨c, r, n, same, _⟩ := sound.kept.named m x held
          exact ⟨c, r, n, same⟩
        · intro key member
          cases member
      · exact waiting id reap older
  | reapNext id =>
      unfold step
      dsimp only
      split
      · exact ⟨sound.kept.mono after, waiting⟩
      · rename_i reap found
        have reaping := waiting id reap found
        have round := reapNext_round (z := p.zsets) reaping
        refine ⟨ReapRound.kept round (sound.kept.mono after) reaping.past, ?_⟩
        intro other later located
        rcases Table.get_patch_row found located with ⟨rfl, rfl⟩ | ⟨_, older⟩
        · exact ReapRound.reaping round reaping
        · exact waiting other later older

theorem reached_sound (inputs : List (Nat × PresenceOp)) :
    Sound (run (step store) empty inputs) := by
  have reached : Reachable (step store) empty (run (step store) empty inputs) := ⟨inputs, rfl⟩
  apply reached.induct Sound
  · constructor
    · constructor
      · intro m x found
        cases found
      · intro c r m x found
        cases found
      · intro c r n x lease
        cases lease
    · intro id reap found
      cases found
  · exact fun p input sound => step_sound store sound input

/-- A `Disconnect` says that the role is gone exactly when it has no lease any more. -/
theorem disconnect_exact (sound : Sound p) (elapsed : Nat) (callID : PlainId) (role : CallRole)
    (connectionID : PlainId) :
    (disconnect p.zsets callID.value role connectionID.value (p.clock + elapsed)).2 = true ↔
      ∀ other x, (p.step store (elapsed, .disconnect callID role connectionID)).leases callID role
        other = some x → x ≤ p.clock + elapsed := by
  have after := (step_sound store sound
    (elapsed, .disconnect callID role connectionID)).kept
  have card : (disconnect p.zsets callID.value role connectionID.value (p.clock + elapsed)).2 =
      (((p.step store (elapsed, .disconnect callID role connectionID)).zsets
        (presenceRoleKey callID.value role)).card == 0) := rfl
  rw [card, beq_iff_eq]
  constructor
  · intro none other x lease
    exact after.card_eq_zero none lease
  · intro gone
    rw [SortedSet.card_eq_zero]
    intro m
    cases found : ((p.step store (elapsed, .disconnect callID role connectionID)).zsets
        (presenceRoleKey callID.value role)).score m with
    | none => rfl
    | some x =>
        obtain ⟨n, rfl, lease⟩ := after.lease found
        have late := ((drop_role.mp found).2 ⟨rfl, rfl⟩).2
        exact absurd late (Nat.not_lt.mpr (gone n x lease))

/-- What a `Reap` newly reports has no lease any more. -/
theorem reports_gone (sound : Sound p) (input : Nat × PresenceOp) {id : Nat} {after : ReapCall}
    (found : (p.step store input).reaps.get id = some after) {callID : PlainId} {role : CallRole}
    (reported : (callID.value, role) ∈ after.expired)
    (new : ∀ before, p.reaps.get id = some before → (callID.value, role) ∉ before.expired)
    {connectionID : PlainId} {x : Time}
    (lease : (p.step store input).leases callID role connectionID = some x) :
    x ≤ p.clock + input.1 := by
  have kept := (step_sound store sound input).kept
  obtain ⟨elapsed, op⟩ := input
  cases op with
  | touch | disconnect => exact absurd reported (new after found)
  | reap limit =>
      rcases Table.get_insert_row found with ⟨_, rfl⟩ | older
      · cases reported
      · exact absurd reported (new after older)
  | reapNext key =>
      have waiting : ∀ reap, p.reaps.get key = some reap → Reaping (p.clock + elapsed) reap :=
        fun reap found => (sound.reaps key reap found).mono (Nat.le_add_right _ _)
      unfold step at found kept lease
      dsimp only at found kept lease
      split at found
      · exact absurd reported (new after found)
      · rename_i reap located
        simp only [located] at kept lease
        rcases Table.get_patch_row located found with ⟨rfl, rfl⟩ | ⟨_, older⟩
        · have unreported := new reap located
          have round := reapNext_round (z := p.zsets) (waiting reap located)
          generalize reapNext p.zsets reap = outcome at *
          obtain ⟨z, after⟩ := outcome
          cases round with
          | done => exact absurd reported unreported
          | touched => exact absurd reported unreported
          | dropped c n r members y _ listed score due gone outcome =>
              rcases outcome with rfl | ⟨none, rfl⟩
              · exact absurd reported unreported
              · rcases List.mem_append.mp reported with earlier | last
                · exact absurd earlier unreported
                · obtain ⟨call, rfl⟩ := Prod.mk.inj (List.mem_singleton.mp last)
                  obtain rfl := PlainId.ext call
                  exact kept.card_eq_zero none lease
        · exact absurd reported (new after older)

/-! ### Connections that are touched again -/

/-- A connection has no deadline that a `Reap` under way would find due. -/
def Spared (p : Presence) (id : Nat) (now : Time) (callID : PlainId) (role : CallRole)
    (connectionID : PlainId) : Prop :=
  (∃ reap, p.reaps.get id = some reap ∧ reap.now = now) ∧ now ≤ p.clock ∧
    ∀ x, (p.zsets deadlinesKey).score (presenceMember callID.value role connectionID.value) =
      some x → now < x

theorem ReapRound.deadlines {reap reap' : ReapCall} {z' : SortedSets}
    (round : ReapRound z reap z' reap') (found : (z' deadlinesKey).score m = some x) :
    (z deadlinesKey).score m = some x := by
  cases round with
  | done | touched => exact found
  | dropped => exact (drop_deadlines.mp found).1

theorem ReapRound.now_eq {reap reap' : ReapCall} {z' : SortedSets}
    (round : ReapRound z reap z' reap') : reap'.now = reap.now := by
  cases round with
  | done | touched => rfl
  | dropped callID connectionID role members x _ listed found due gone outcome =>
      rcases outcome with rfl | ⟨_, rfl⟩ <;> rfl

theorem ReapRound.expired {reap reap' : ReapCall} {z' : SortedSets}
    (round : ReapRound z reap z' reap') {entry : Text × CallRole} (listed : entry ∈ reap.expired) :
    entry ∈ reap'.expired := by
  cases round with
  | done | touched => exact listed
  | dropped callID connectionID role members x _ _ found due gone outcome =>
      rcases outcome with rfl | ⟨_, rfl⟩
      · exact listed
      · exact List.mem_append_left _ listed

/-- A `Reap` keeps its time and its reports. -/
theorem step_reap (sound : Sound p) (input : Nat × PresenceOp) {id : Nat} {reap : ReapCall}
    (found : p.reaps.get id = some reap) : ∃ after, (p.step store input).reaps.get id = some after ∧
      after.now = reap.now ∧ ∀ entry ∈ reap.expired, entry ∈ after.expired := by
  obtain ⟨elapsed, op⟩ := input
  cases op with
  | touch | disconnect => exact ⟨reap, found, rfl, fun _ listed => listed⟩
  | reap limit => exact ⟨reap, Table.get_insert_of_some found _, rfl, fun _ listed => listed⟩
  | reapNext key =>
      unfold step
      dsimp only
      split
      · exact ⟨reap, found, rfl, fun _ listed => listed⟩
      · rename_i other located
        dsimp only
        rw [Table.get_patch]
        split
        · rename_i same
          subst same
          obtain rfl := Option.some.inj (located.symm.trans found)
          have round := reapNext_round (z := p.zsets) (sound.reaps id other found)
          rw [found]
          exact ⟨_, rfl, ReapRound.now_eq round, fun _ listed => ReapRound.expired round listed⟩
        · exact ⟨reap, found, rfl, fun _ listed => listed⟩

/-- A step that sets no new deadline of a member only takes deadlines away. -/
theorem step_deadlines (sound : Sound p) (input : Nat × PresenceOp)
    (found : ((p.step store input).zsets deadlinesKey).score m = some x) :
    (p.zsets deadlinesKey).score m = some x ∨ x = p.clock + input.1 + store.ttl := by
  obtain ⟨elapsed, op⟩ := input
  cases op with
  | touch callID role connectionID =>
      rcases touch_deadlines.mp found with ⟨_, rfl⟩ | ⟨old, _⟩
      · exact Or.inr rfl
      · exact Or.inl old
  | disconnect callID role connectionID => exact Or.inl (drop_deadlines.mp found).1
  | reap limit => exact Or.inl found
  | reapNext id =>
      left
      unfold step at found
      dsimp only at found
      split at found
      · exact found
      · rename_i reap located
        exact ReapRound.deadlines (reapNext_round (sound.reaps id reap located)) found

theorem step_clock (p : Presence) (input : Nat × PresenceOp) :
    (p.step store input).clock = p.clock + input.1 := by
  obtain ⟨elapsed, op⟩ := input
  cases op with
  | touch | disconnect | reap => rfl
  | reapNext id =>
      unfold step
      dsimp only
      split <;> rfl

theorem Spared.step {id : Nat} {callID connectionID : PlainId} {role : CallRole} (sound : Sound p)
    (spared : Spared p id now callID role connectionID) (input : Nat × PresenceOp) :
    Spared (p.step store input) id now callID role connectionID := by
  obtain ⟨⟨reap, found, same⟩, past, due⟩ := spared
  obtain ⟨after, located, kept, _⟩ := step_reap store sound input found
  have clock := step_clock store p input
  refine ⟨⟨after, located, kept.trans same⟩, ?_, ?_⟩
  · rw [clock]
    exact Nat.le_trans past (Nat.le_add_right _ _)
  · intro x score
    rcases step_deadlines store sound input score with old | rfl
    · exact due x old
    · have positive := store.positive
      exact Nat.lt_of_le_of_lt past (by omega)

/-- What a `Reap` has listed and is touched again stays as it is. -/
theorem touched_again (sound : Sound p) {id : Nat} {listing : ReapCall}
    (found : p.reaps.get id = some listing) (elapsed : Nat) (callID : PlainId) (role : CallRole)
    (connectionID : PlainId) (later : List (Nat × PresenceOp)) {reap : ReapCall}
    {members : List Text}
    (located : (run (step store) (p.step store (elapsed, .touch callID role connectionID))
      later).reaps.get id = some reap)
    (next : reap.members = presenceMember callID.value role connectionID.value :: members)
    (wait : Nat) :
    let before := run (step store) (p.step store (elapsed, .touch callID role connectionID)) later
    let after := before.step store (wait, .reapNext id)
    after.zsets = before.zsets ∧ after.reaps.get id = some { reap with members } := by
  have start : Sound (p.step store (elapsed, .touch callID role connectionID)) :=
    step_sound store sound _
  have reached : Reachable (step store) (p.step store (elapsed, .touch callID role connectionID))
      (run (step store) (p.step store (elapsed, .touch callID role connectionID)) later) :=
    ⟨later, rfl⟩
  have spared : Spared (p.step store (elapsed, .touch callID role connectionID)) id listing.now
      callID role connectionID := by
    have past := (sound.reaps id listing found).past
    refine ⟨⟨listing, found, rfl⟩, Nat.le_trans past (Nat.le_add_right _ _), ?_⟩
    intro x score
    have positive := store.positive
    rcases touch_deadlines.mp score with ⟨_, rfl⟩ | ⟨_, apart⟩
    · exact Nat.lt_of_le_of_lt past (by omega)
    · exact absurd rfl apart
  obtain ⟨sound, spared⟩ := reached.induct
    (fun p => Sound p ∧ Spared p id listing.now callID role connectionID) ⟨start, spared⟩
    (fun q input held => ⟨step_sound store held.1 input, held.2.step store held.1 input⟩)
  dsimp only
  generalize run (step store) (p.step store (elapsed, .touch callID role connectionID)) later =
    q at *
  obtain ⟨⟨same, held, now⟩, _, due⟩ := spared
  obtain rfl := Option.some.inj (held.symm.trans located)
  have round : reapNext q.zsets same = (q.zsets, { same with members }) := by
    unfold reapNext
    rw [next]
    simp only [parse_member]
    rcases reapPresenceScript_cases q.zsets callID connectionID role same.now with
      ⟨_, unchanged⟩ | ⟨x, score, past, _⟩
    · rw [unchanged]
      simp
    · exact absurd (due x score) (Nat.not_lt.mpr (now ▸ past))
  unfold step
  simp only [located, round]
  exact ⟨trivial, by rw [Table.get_patch, if_pos rfl, located, Option.map_some]⟩

/-! ### Roles that expire -/

/-- A `Reap` that began after some moment has the role in what it returns. -/
def Reported (first : Nat) (p : Presence) (callID : PlainId) (role : CallRole) : Prop :=
  ∃ id reap, first ≤ id ∧ p.reaps.get id = some reap ∧ (callID.value, role) ∈ reap.expired

/-- A `Disconnect` that answers that the role is gone. -/
def disconnects (callID : PlainId) (role : CallRole) (p : Presence) (input : Nat × PresenceOp) :
    Bool :=
  match input.2 with
  | .disconnect c r connectionID => c = callID && r = role &&
      (disconnect p.zsets callID.value role connectionID.value (p.clock + input.1)).2
  | _ => false

/-- Since `start`, the role has a deadline that only a later `Reap` takes away, or was reported. -/
structure Watched (start p : Presence) (callID : PlainId) (role : CallRole) : Prop where
  clock : start.clock ≤ p.clock
  next : start.reaps.next ≤ p.reaps.next
  older : ∀ id reap, p.reaps.get id = some reap → id < start.reaps.next → reap.now ≤ start.clock
  alive : (∃ (connectionID : PlainId) (x : Nat), (p.zsets deadlinesKey).score
      (presenceMember callID.value role connectionID.value) = some x ∧ start.clock < x) ∨
    Reported start.reaps.next p callID role

/-- A role that has an entry has a deadline that is as late. -/
theorem alive_of_card (kept : Kept z clock leases)
    (filled : (z (presenceRoleKey callID.value role)).card ≠ 0) {bound : Nat}
    (late : ∀ m x, (z (presenceRoleKey callID.value role)).score m = some x → bound < x) :
    ∃ (connectionID : PlainId) (x : Nat), (z deadlinesKey).score
      (presenceMember callID.value role connectionID.value) = some x ∧ bound < x := by
  by_contra none
  apply filled
  rw [SortedSet.card_eq_zero]
  intro m
  cases found : (z (presenceRoleKey callID.value role)).score m with
  | none => rfl
  | some x =>
      obtain ⟨n, rfl, deadline⟩ := kept.within callID role m x found
      exact absurd ⟨n, x, deadline, late _ x found⟩ none

theorem step_older {start : Presence} (sound : Sound p) {callID : PlainId} {role : CallRole}
    (watched : Watched start p callID role) (input : Nat × PresenceOp) :
    start.reaps.next ≤ (p.step store input).reaps.next ∧
      ∀ id reap, (p.step store input).reaps.get id = some reap → id < start.reaps.next →
        reap.now ≤ start.clock := by
  obtain ⟨elapsed, op⟩ := input
  cases op with
  | touch | disconnect => exact ⟨watched.next, watched.older⟩
  | reap limit =>
      refine ⟨Nat.le_succ_of_le watched.next, ?_⟩
      intro id reap found earlier
      rcases Table.get_insert_row found with ⟨rfl, _⟩ | older
      · exact absurd earlier (Nat.not_lt.mpr watched.next)
      · exact watched.older id reap older earlier
  | reapNext key =>
      unfold step
      dsimp only
      split
      · exact ⟨watched.next, watched.older⟩
      · rename_i reap located
        refine ⟨watched.next, ?_⟩
        intro id after found earlier
        rcases Table.get_patch_row located found with ⟨rfl, rfl⟩ | ⟨_, older⟩
        · rw [ReapRound.now_eq (reapNext_round (z := p.zsets) (sound.reaps id reap located))]
          exact watched.older id reap located earlier
        · exact watched.older id after older earlier

theorem Watched.step {start : Presence} (sound : Sound p) {callID : PlainId} {role : CallRole}
    (watched : Watched start p callID role) {input : Nat × PresenceOp}
    (goes : disconnects callID role p input = false) :
    Watched start (p.step store input) callID role := by
  have after := (step_sound store sound input).kept
  have clock := step_clock store p input
  have older := step_older store sound watched input
  refine ⟨?_, older.1, older.2, ?_⟩
  · rw [clock]
    exact Nat.le_trans watched.clock (Nat.le_add_right _ _)
  · rcases watched.alive with ⟨n, x, deadline, late⟩ | ⟨id, reap, first, found, listed⟩
    · have past : start.clock ≤ p.clock := watched.clock
      obtain ⟨elapsed, op⟩ := input
      cases op with
      | touch c r m =>
          left
          by_cases same : presenceMember callID.value role n.value =
              presenceMember c.value r m.value
          · have positive := store.positive
            have later : start.clock < p.clock + elapsed + store.ttl :=
              Nat.lt_of_le_of_lt past (by omega)
            exact ⟨n, _, touch_deadlines.mpr (Or.inl ⟨same, rfl⟩), later⟩
          · exact ⟨n, x, touch_deadlines.mpr (Or.inr ⟨deadline, same⟩), late⟩
      | disconnect c r m =>
          left
          by_cases same : presenceMember callID.value role n.value =
              presenceMember c.value r m.value
          · obtain ⟨rfl, rfl, rfl⟩ := member_inj same
            apply alive_of_card after
            · intro none
              have answered : (disconnect p.zsets callID.value role n.value
                  (p.clock + elapsed)).2 = true := beq_iff_eq.mpr none
              simp [disconnects, answered] at goes
            · intro m y found
              have later := ((drop_role.mp found).2 ⟨rfl, rfl⟩).2
              exact Nat.lt_of_le_of_lt past (Nat.lt_of_le_of_lt (Nat.le_add_right _ _) later)
          · exact ⟨n, x, drop_deadlines.mpr ⟨deadline, same⟩, late⟩
      | reap limit => exact Or.inl ⟨n, x, deadline, late⟩
      | reapNext id =>
          unfold Presence.step at after ⊢
          dsimp only at after ⊢
          split
          · exact Or.inl ⟨n, x, deadline, late⟩
          · rename_i reap located
            simp only [located] at after
            have round := reapNext_round (z := p.zsets) (sound.reaps id reap located)
            have there : (p.reaps.patch id fun _ => (reapNext p.zsets reap).2).get id =
                some (reapNext p.zsets reap).2 := Table.get_patch_self located _
            dsimp only
            generalize reapNext p.zsets reap = outcome at *
            obtain ⟨z, later⟩ := outcome
            cases round with
            | done | touched => exact Or.inl ⟨n, x, deadline, late⟩
            | dropped c m r members y _ listed found due gone outcome =>
                by_cases same : presenceMember callID.value role n.value =
                    presenceMember c.value r m.value
                · obtain ⟨rfl, rfl, rfl⟩ := member_inj same
                  obtain rfl := Option.some.inj (deadline.symm.trans found)
                  have began : start.clock < reap.now := Nat.lt_of_lt_of_le late due
                  by_cases none : (drop p.zsets callID.value role n.value reap.now
                      (presenceRoleKey callID.value role)).card = 0
                  · refine Or.inr ⟨id, _, ?_, there, gone none⟩
                    by_contra earlier
                    have := watched.older id reap located (Nat.lt_of_not_le earlier)
                    exact Nat.lt_irrefl _ (Nat.lt_of_lt_of_le began this)
                  · left
                    apply alive_of_card after none
                    intro m y found
                    have later := ((drop_role.mp found).2 ⟨rfl, rfl⟩).2
                    exact Nat.lt_trans began later
                · exact Or.inl ⟨n, x, drop_deadlines.mpr ⟨deadline, same⟩, late⟩
    · obtain ⟨later, kept, _, listing⟩ := step_reap store sound input found
      exact Or.inr ⟨id, later, first, kept, listing _ listed⟩

/-- A role that is touched is watched over from then on, while no `Disconnect` says it is gone. -/
theorem watched_run (sound : Sound p) (elapsed : Nat) (callID : PlainId) (role : CallRole)
    (connectionID : PlainId) {later : List (Nat × PresenceOp)}
    (expires : Along (step store) (fun p input => disconnects callID role p input = false)
      (p.step store (elapsed, .touch callID role connectionID)) later) :
    Sound (run (step store) (p.step store (elapsed, .touch callID role connectionID)) later) ∧
      Watched (p.step store (elapsed, .touch callID role connectionID))
        (run (step store) (p.step store (elapsed, .touch callID role connectionID)) later)
        callID role := by
  have start : Sound (p.step store (elapsed, .touch callID role connectionID)) :=
    step_sound store sound _
  have positive := store.positive
  have watched : Watched (p.step store (elapsed, .touch callID role connectionID))
      (p.step store (elapsed, .touch callID role connectionID)) callID role := by
    refine ⟨Nat.le_refl _, Nat.le_refl _, fun id reap found _ => (start.reaps id reap found).past,
      Or.inl ⟨connectionID, _, touch_deadlines.mpr (Or.inl ⟨rfl, rfl⟩), ?_⟩⟩
    exact Nat.lt_add_of_pos_right positive
  exact run_keeps (fun q => Sound q ∧
      Watched (p.step store (elapsed, .touch callID role connectionID)) q callID role)
    (fun q input held goes => ⟨step_sound store held.1 input, held.2.step store held.1 goes⟩)
    ⟨start, watched⟩ expires

/-- Where its leases have run out and no deadline is due, the role has been reported. -/
theorem Watched.reported {start : Presence} (sound : Sound p) {callID : PlainId} {role : CallRole}
    (watched : Watched start p callID role) {bound : Nat}
    (gone : ∀ other x, p.leases callID role other = some x → x ≤ bound)
    (cleared : ∀ m x, (p.zsets deadlinesKey).score m = some x → bound < x) :
    Reported start.reaps.next p callID role := by
  rcases watched.alive with ⟨n, x, deadline, _⟩ | reported
  · obtain ⟨c, r, m, same, lease⟩ := sound.kept.named _ x deadline
    obtain ⟨rfl, rfl, rfl⟩ := member_inj same
    exact absurd (cleared _ x deadline) (Nat.not_lt.mpr (gone n x lease))
  · exact reported

/-- A role that is touched and then runs out is reported, once a `Reap` finds nothing due. -/
theorem expired_reported (sound : Sound p) (elapsed : Nat) (callID : PlainId) (role : CallRole)
    (connectionID : PlainId) {later : List (Nat × PresenceOp)}
    (expires : Along (step store) (fun p input => disconnects callID role p input = false)
      (p.step store (elapsed, .touch callID role connectionID)) later) {wait : Nat} {limit : Int}
    (gone : ∀ other x, (run (step store) (p.step store (elapsed, .touch callID role connectionID))
      later).leases callID role other = some x →
        x ≤ (run (step store) (p.step store (elapsed, .touch callID role connectionID))
          later).clock + wait)
    (none : scan (run (step store) (p.step store (elapsed, .touch callID role connectionID))
      later).zsets ((run (step store) (p.step store (elapsed, .touch callID role connectionID))
        later).clock + wait) limit = []) :
    Reported p.reaps.next (run (step store)
      (p.step store (elapsed, .touch callID role connectionID)) later) callID role := by
  obtain ⟨sound, watched⟩ := watched_run store sound elapsed callID role connectionID expires
  exact watched.reported sound gone fun m x => SortedSet.rangeUpTo_nil none

/-! ### Reaps that come to their end -/

/-- Of what a `Reap` has listed, it has a member yet to do, or no deadline of it is due. -/
def Clears (listed : List Text) (id : Nat) (now : Time) (p : Presence) : Prop :=
  ∃ reap, p.reaps.get id = some reap ∧ reap.now = now ∧
    ∀ m ∈ listed, m ∈ reap.members ∨ ∀ x, (p.zsets deadlinesKey).score m = some x → now < x

theorem ReapRound.clears {reap reap' : ReapCall} {z' : SortedSets}
    (round : ReapRound z reap z' reap') (member : m ∈ reap.members) :
    m ∈ reap'.members ∨ ∀ x, (z' deadlinesKey).score m = some x → reap.now < x := by
  cases round with
  | done => exact Or.inl member
  | touched callID connectionID role members listed later =>
      rw [listed] at member
      rcases List.mem_cons.mp member with rfl | rest
      · exact Or.inr later
      · exact Or.inl rest
  | dropped callID connectionID role members x _ listed found due gone outcome =>
      rw [listed] at member
      rcases List.mem_cons.mp member with rfl | rest
      · exact Or.inr fun y held => absurd rfl (drop_deadlines.mp held).2
      · left
        rcases outcome with rfl | ⟨_, rfl⟩
        · exact rest
        · exact rest

theorem Clears.step {listed : List Text} {id : Nat} (sound : Sound p)
    (clears : Clears listed id now p) (input : Nat × PresenceOp) :
    Clears listed id now (p.step store input) := by
  obtain ⟨reap, found, same, each⟩ := clears
  have past : now ≤ p.clock := same ▸ (sound.reaps id reap found).past
  have positive := store.positive
  have still {m : Text} (due : ∀ x, (p.zsets deadlinesKey).score m = some x → now < x) (x : Nat)
      (held : ((p.step store input).zsets deadlinesKey).score m = some x) : now < x := by
    rcases step_deadlines store sound input held with old | rfl
    · exact due x old
    · exact Nat.lt_of_le_of_lt past (by omega)
  have waits (kept : (p.step store input).reaps.get id = some reap) :
      Clears listed id now (p.step store input) :=
    ⟨reap, kept, same, fun m member => (each m member).imp_right still⟩
  obtain ⟨elapsed, op⟩ := input
  cases op with
  | touch | disconnect => exact waits found
  | reap limit => exact waits (Table.get_insert_of_some found _)
  | reapNext key =>
      by_cases here : key = id
      · subst here
        have round := reapNext_round (z := p.zsets) (sound.reaps key reap found)
        have after : p.step store (elapsed, .reapNext key) =
            { p with
              clock := p.clock + elapsed
              zsets := (reapNext p.zsets reap).1
              reaps := p.reaps.patch key fun _ => (reapNext p.zsets reap).2 } := by
          simp only [Presence.step, found]
        refine ⟨(reapNext p.zsets reap).2, ?_, (ReapRound.now_eq round).trans same, ?_⟩
        · rw [after]
          exact Table.get_patch_self found _
        · intro m member
          rcases each m member with listed | due
          · rw [after]
            exact same ▸ ReapRound.clears round listed
          · exact Or.inr (still due)
      · refine waits ?_
        unfold Presence.step
        dsimp only
        split
        · exact found
        · exact (Table.get_patch_of_ne (Ne.symm here) _ _).trans found

/-- A `Reap` that is through has cleared all that it listed, whatever calls came in between. -/
theorem through_cleared (sound : Sound p) (wait : Nat) (limit : Int)
    (later : List (Nat × PresenceOp)) {reap : ReapCall}
    (found : (run (step store) (p.step store (wait, .reap limit)) later).reaps.get p.reaps.next =
      some reap) (through : reap.members = []) (member : m ∈ scan p.zsets (p.clock + wait) limit)
    (held : ((run (step store) (p.step store (wait, .reap limit)) later).zsets
      deadlinesKey).score m = some x) : p.clock + wait < x := by
  have start : Clears (scan p.zsets (p.clock + wait) limit) p.reaps.next (p.clock + wait)
      (p.step store (wait, .reap limit)) :=
    ⟨_, Table.get_insert_next _ _, rfl, fun _ => Or.inl⟩
  have reached : Reachable (step store) (p.step store (wait, .reap limit))
      (run (step store) (p.step store (wait, .reap limit)) later) := ⟨later, rfl⟩
  obtain ⟨_, after, located, _, each⟩ := reached.induct
    (fun q => Sound q ∧ Clears (scan p.zsets (p.clock + wait) limit) p.reaps.next
      (p.clock + wait) q) ⟨step_sound store sound _, start⟩
    (fun q input held => ⟨step_sound store held.1 input, held.2.step store held.1 input⟩)
  obtain rfl := Option.some.inj (found.symm.trans located)
  rcases each m member with listed | due
  · rw [through] at listed
    cases listed
  · exact due x held

/-- A `Reap` with all its rounds, one right after the other. -/
def wholeReap (p : Presence) (wait : Nat) (limit : Int) : List (Nat × PresenceOp) :=
  (wait, .reap limit) ::
    List.replicate (scan p.zsets (p.clock + wait) limit).length (0, .reapNext p.reaps.next)

/-- Whole `Reap` calls, each at a time after the one before and with its limit. -/
def wholeReaps (store : PresenceStore) : Presence → List (Nat × Int) → List (Nat × PresenceOp)
  | _, [] => []
  | p, (wait, limit) :: rest =>
    wholeReap p wait limit ++
      wholeReaps store (run (step store) p (wholeReap p wait limit)) rest

def ofReap : PresenceOp → Bool
  | .reap _ | .reapNext _ => true
  | _ => false

/-- What `Reap` calls do to a state: leases stay, and deadlines only go. -/
structure Reaped (before after : Presence) : Prop where
  leases : after.leases = before.leases
  clock : before.clock ≤ after.clock
  deadlines : ∀ m x, (after.zsets deadlinesKey).score m = some x →
    (before.zsets deadlinesKey).score m = some x

theorem Reaped.trans {before between after : Presence} (first : Reaped before between)
    (second : Reaped between after) : Reaped before after :=
  ⟨second.leases.trans first.leases, Nat.le_trans first.clock second.clock,
    fun m x held => first.deadlines m x (second.deadlines m x held)⟩

theorem step_reaped (sound : Sound p) {input : Nat × PresenceOp} (only : ofReap input.2 = true) :
    Reaped p (p.step store input) := by
  obtain ⟨elapsed, op⟩ := input
  have clock : p.clock ≤ p.clock + elapsed := Nat.le_add_right _ _
  cases op with
  | touch | disconnect => cases only
  | reap limit => exact ⟨rfl, clock, fun _ _ => id⟩
  | reapNext id =>
      unfold step
      dsimp only
      split
      · exact ⟨rfl, clock, fun _ _ held => held⟩
      · rename_i reap located
        exact ⟨rfl, clock, fun m x =>
          ReapRound.deadlines (reapNext_round (sound.reaps id reap located))⟩

theorem run_reaped (sound : Sound p) {inputs : List (Nat × PresenceOp)}
    (only : ∀ input ∈ inputs, ofReap input.2 = true) :
    Sound (run (step store) p inputs) ∧ Reaped p (run (step store) p inputs) := by
  induction inputs generalizing p with
  | nil => exact ⟨sound, rfl, Nat.le_refl _, fun _ _ => id⟩
  | cons input rest ih =>
      have first := step_reaped store sound (only input List.mem_cons_self)
      obtain ⟨after, others⟩ := ih (step_sound store sound input) fun other member =>
        only other (List.mem_cons_of_mem _ member)
      exact ⟨after, first.trans others⟩

theorem wholeReap_reaps (p : Presence) (wait : Nat) (limit : Int) :
    ∀ input ∈ wholeReap p wait limit, ofReap input.2 = true := by
  intro input member
  rcases List.mem_cons.mp member with rfl | round
  · rfl
  · rw [List.eq_of_mem_replicate round]
    rfl

theorem wholeReaps_reaps (p : Presence) (turns : List (Nat × Int)) :
    ∀ input ∈ wholeReaps store p turns, ofReap input.2 = true := by
  induction turns generalizing p with
  | nil =>
      intro input member
      cases member
  | cons turn rest ih =>
      intro input member
      rcases List.mem_append.mp member with first | later
      · exact wholeReap_reaps p turn.1 turn.2 input first
      · exact ih _ input later

theorem reapNext_members (z : SortedSets) (reap : ReapCall) :
    (reapNext z reap).2.members = reap.members.tail := by
  unfold reapNext
  split
  · rename_i none
    rw [none]
    rfl
  · rename_i listed
    rw [listed]
    split
    · rfl
    · dsimp only
      split <;> rfl

/-- As many rounds as a `Reap` has members bring it to its end. -/
theorem rounds_through {id : Nat} {reap : ReapCall} (found : p.reaps.get id = some reap)
    {rounds : Nat} (enough : reap.members.length = rounds) :
    ∃ after, (run (step store) p (List.replicate rounds (0, .reapNext id))).reaps.get id =
      some after ∧ after.members = [] := by
  induction rounds generalizing p reap with
  | zero => exact ⟨reap, found, List.length_eq_zero_iff.mp enough⟩
  | succ rounds ih =>
      rw [List.replicate_succ, run_cons]
      have next : (p.step store (0, .reapNext id)).reaps.get id =
          some (reapNext p.zsets reap).2 := by
        simp only [step, found]
        exact Table.get_patch_self found _
      refine ih next ?_
      rw [reapNext_members, List.length_tail, enough]
      rfl

/-- A whole `Reap` that finds something takes it out. -/
theorem wholeReap_fewer (sound : Sound p) {wait : Nat} {limit : Int}
    (finds : scan p.zsets (p.clock + wait) limit ≠ []) :
    ((run (step store) p (wholeReap p wait limit)).zsets deadlinesKey).card <
      (p.zsets deadlinesKey).card := by
  obtain ⟨m, listed⟩ := List.exists_mem_of_ne_nil _ finds
  obtain ⟨x, held, due⟩ := SortedSet.mem_rangeUpTo listed
  obtain ⟨reap, found, through⟩ := rounds_through store
    (p := p.step store (wait, .reap limit)) (Table.get_insert_next _ _) rfl
  refine SortedSet.card_lt
    (run_reaped store sound (wholeReap_reaps p wait limit)).2.deadlines held ?_
  intro still
  exact absurd (through_cleared store sound wait limit _ found through listed still)
    (Nat.not_lt.mpr due)

/-- As many whole `Reap` calls as there are deadlines leave none that was due at their start. -/
theorem wholeReaps_clear (sound : Sound p) {bound : Nat} (past : bound ≤ p.clock)
    {turns : List (Nat × Int)} (enough : (p.zsets deadlinesKey).card ≤ turns.length)
    (held : ((run (step store) p (wholeReaps store p turns)).zsets deadlinesKey).score m =
      some x) : bound < x := by
  induction turns generalizing p with
  | nil =>
      rw [List.length_nil, Nat.le_zero] at enough
      rw [wholeReaps, run_nil, SortedSet.card_eq_zero.mp enough] at held
      cases held
  | cons turn rest ih =>
      obtain ⟨wait, limit⟩ := turn
      rw [List.length_cons] at enough
      obtain ⟨after, first⟩ := run_reaped store sound (wholeReap_reaps p wait limit)
      have fewer : scan p.zsets (p.clock + wait) limit ≠ [] → _ := wholeReap_fewer store sound
      rw [wholeReaps, run_append] at held
      generalize run (step store) p (wholeReap p wait limit) = q at *
      by_cases finds : scan p.zsets (p.clock + wait) limit = []
      · have others := (run_reaped store after (wholeReaps_reaps store q rest)).2
        have due := SortedSet.rangeUpTo_nil finds
          (first.deadlines m x (others.deadlines m x held))
        omega
      · have left := fewer finds
        exact ih after (Nat.le_trans past first.clock) (by omega) held

theorem wholeReap_clock (p : Presence) (wait : Nat) (limit : Int) :
    (run (step store) p (wholeReap p wait limit)).clock = p.clock + wait := by
  have rounds (q : Presence) (id count : Nat) :
      (run (step store) q (List.replicate count (0, .reapNext id))).clock = q.clock := by
    induction count generalizing q with
    | zero => rfl
    | succ count ih =>
        rw [List.replicate_succ, run_cons, ih, step_clock]
        rfl
  exact rounds _ _ _

theorem Watched.reaped {start : Presence} (sound : Sound p) {callID : PlainId} {role : CallRole}
    (watched : Watched start p callID role) {inputs : List (Nat × PresenceOp)}
    (only : ∀ input ∈ inputs, ofReap input.2 = true) :
    Watched start (run (Presence.step store) p inputs) callID role := by
  induction inputs generalizing p with
  | nil => exact watched
  | cons input rest ih =>
      have goes : disconnects callID role p input = false := by
        have first := only input List.mem_cons_self
        obtain ⟨elapsed, op⟩ := input
        cases op with
        | touch | disconnect => cases first
        | reap | reapNext => rfl
      exact ih (step_sound store sound input) (watched.step store sound goes)
        fun other member => only other (List.mem_cons_of_mem _ member)

/-- A role that is touched and then runs out is reported by one of the whole `Reap` calls that
follow, if these are more than there are deadlines. -/
theorem expired_reaped (sound : Sound p) (elapsed : Nat) (callID : PlainId) (role : CallRole)
    (connectionID : PlainId) {later : List (Nat × PresenceOp)}
    (expires : Along (step store) (fun p input => disconnects callID role p input = false)
      (p.step store (elapsed, .touch callID role connectionID)) later) {wait : Nat} {limit : Int}
    {turns : List (Nat × Int)}
    (gone : ∀ other x, (run (step store) (p.step store (elapsed, .touch callID role connectionID))
      later).leases callID role other = some x →
        x ≤ (run (step store) (p.step store (elapsed, .touch callID role connectionID))
          later).clock + wait)
    (enough : ((run (step store) (p.step store (elapsed, .touch callID role connectionID))
      later).zsets deadlinesKey).card ≤ turns.length) :
    Reported p.reaps.next (run (step store)
      (run (step store) (p.step store (elapsed, .touch callID role connectionID)) later)
      (wholeReaps store (run (step store)
        (p.step store (elapsed, .touch callID role connectionID)) later)
        ((wait, limit) :: turns))) callID role := by
  obtain ⟨sound, watched⟩ := watched_run store sound elapsed callID role connectionID expires
  generalize run (step store) (p.step store (elapsed, .touch callID role connectionID)) later =
    q at *
  have clock := wholeReap_clock store q wait limit
  obtain ⟨soundFirst, first⟩ := run_reaped store sound (wholeReap_reaps q wait limit)
  have watchedFirst := watched.reaped store sound (wholeReap_reaps q wait limit)
  rw [wholeReaps, run_append]
  generalize run (step store) q (wholeReap q wait limit) = r at *
  obtain ⟨soundLast, others⟩ := run_reaped store soundFirst (wholeReaps_reaps store r turns)
  have watchedLast := watchedFirst.reaped store soundFirst (wholeReaps_reaps store r turns)
  have still (other : PlainId) (x : Time)
      (lease : (run (step store) r (wholeReaps store r turns)).leases callID role other = some x) :
      x ≤ q.clock + wait := by
    rw [others.leases, first.leases] at lease
    exact gone other x lease
  refine watchedLast.reported soundLast still ?_
  intro m x
  exact wholeReaps_clear store soundFirst (Nat.le_of_eq clock.symm)
    (Nat.le_trans (SortedSet.card_le first.deadlines) enough)

/-- Whatever calls came before: `Disconnect` answers that a role is gone exactly when no lease of
it is left, a `Reap` reports only roles of which none is left and leaves alone what was touched
again, and a role whose leases all ran out is reported by a later `Reap`: it has been once one
finds nothing due. A `Reap` finds whatever is due, and at its end has cleared what it found, so
that as many as there are deadlines come to find nothing. -/
theorem presence_exact (store : PresenceStore) (inputs : List (Nat × PresenceOp)) :
    let p := run (step store) empty inputs
    (∀ elapsed (callID : PlainId) role (connectionID : PlainId),
      (disconnect p.zsets callID.value role connectionID.value (p.clock + elapsed)).2 = true ↔
        ∀ other x, (p.step store (elapsed, .disconnect callID role connectionID)).leases callID
          role other = some x → x ≤ p.clock + elapsed) ∧
    (∀ input id reap (callID : PlainId) role,
      (p.step store input).reaps.get id = some reap → (callID.value, role) ∈ reap.expired →
      (∀ before, p.reaps.get id = some before → (callID.value, role) ∉ before.expired) →
      ∀ connectionID x, (p.step store input).leases callID role connectionID = some x →
        x ≤ p.clock + input.1) ∧
    (∀ id listing, p.reaps.get id = some listing →
      ∀ elapsed (callID : PlainId) role (connectionID : PlainId) later reap members wait,
      let q := run (step store) (p.step store (elapsed, .touch callID role connectionID)) later
      q.reaps.get id = some reap →
      reap.members = presenceMember callID.value role connectionID.value :: members →
      (q.step store (wait, .reapNext id)).zsets = q.zsets ∧
        (q.step store (wait, .reapNext id)).reaps.get id = some { reap with members }) ∧
    (∀ wait limit,
      (scan p.zsets (p.clock + wait) limit = [] →
        ∀ m x, (p.zsets deadlinesKey).score m = some x → p.clock + wait < x) ∧
      ∀ later reap, let q := run (step store) (p.step store (wait, .reap limit)) later
        q.reaps.get p.reaps.next = some reap → reap.members = [] →
        ∀ m ∈ scan p.zsets (p.clock + wait) limit, ∀ x,
          (q.zsets deadlinesKey).score m = some x → p.clock + wait < x) ∧
    ∀ elapsed callID role connectionID later wait limit,
      let start := p.step store (elapsed, .touch callID role connectionID)
      let q := run (step store) start later
      Along (step store) (fun p input => disconnects callID role p input = false) start later →
      (∀ other x, q.leases callID role other = some x → x ≤ q.clock + wait) →
      (scan q.zsets (q.clock + wait) limit = [] → Reported p.reaps.next q callID role) ∧
      ∀ turns : List (Nat × Int), (q.zsets deadlinesKey).card ≤ turns.length →
        Reported p.reaps.next (run (step store) q (wholeReaps store q ((wait, limit) :: turns)))
          callID role := by
  have sound := reached_sound store inputs
  refine ⟨disconnect_exact store sound, ?_, ?_, ?_, ?_⟩
  · intro input id reap callID role found reported new connectionID x lease
    exact reports_gone store sound input found reported new lease
  · intro id listing found elapsed callID role connectionID later reap members wait q located next
    exact touched_again store sound found elapsed callID role connectionID later located next wait
  · intro wait limit
    refine ⟨fun none m x => SortedSet.rangeUpTo_nil none, ?_⟩
    intro later reap q found through m member x held
    exact through_cleared store sound wait limit later found through member held
  · intro elapsed callID role connectionID later wait limit start q expires gone
    refine ⟨expired_reported store sound elapsed callID role connectionID expires gone, ?_⟩
    intro turns enough
    exact expired_reaped store sound elapsed callID role connectionID expires gone enough

/-- Leases of a tenth of a second. -/
def brief : PresenceStore := ⟨100, by decide⟩

theorem digit_plain (n : Fin 4) : bar ∉ [48 + n.val] := by
  revert n
  decide

/-- The id of a call or of a connection. -/
def digit (n : Fin 4) : PlainId := ⟨[48 + n.val], List.cons_ne_nil _ [], digit_plain n⟩

/-- While a creator's first connection runs out, a second comes and goes, and the viewer stays. -/
def leftBehind : List (Nat × PresenceOp) :=
  [(10, .touch (digit 0) .creator (digit 2)), (40, .touch (digit 0) .viewer (digit 3)),
    (0, .disconnect (digit 0) .creator (digit 2))]

/-- The creator, and not the viewer, is what the `Reap` calls after that report. -/
theorem presence_exact_leftBehind :
    let start := empty.step brief (0, .touch (digit 0) .creator (digit 1))
    let q := run (step brief) start leftBehind
    let after := run (step brief) q (wholeReaps brief q [(60, 1), (0, 1), (0, 1)])
    Reported 0 after (digit 0) .creator ∧
      (after.reaps.rows.map fun row => row.2.expired) =
        [[((digit 0).value, .creator)], [], []] := by
  intro start q after
  refine ⟨((presence_exact brief []).2.2.2.2 0 (digit 0) .creator (digit 1) leftBehind 60 1
    (by decide) ?_).2 _ (by decide), by decide⟩
  intro other x lease
  simp only [leftBehind, run_cons, run_nil, step, setLease, empty] at lease
  change x ≤ 110
  have ttl : brief.ttl = 100 := rfl
  grind

end Presence

end Bling.Realtime
