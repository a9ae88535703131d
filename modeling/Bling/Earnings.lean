import Bling.Disputes
import Bling.TakeHome

set_option autoImplicit false

namespace Bling

open Library

/-! Every charge leaves its creator something, and a call that goes live is credited with it. -/

/-- A new attempt is charged the price of a tier, less the fee of its creator. -/
theorem Effect.new_attempt {ctx : Ctx} {db after : DB} {m : Mutation}
    (effect : Effect ctx db m after) {attempt : PaymentAttempt}
    (found : after.paymentAttempts.get db.paymentAttempts.next = some attempt) :
    ∃ tierId tier creatorId, db.showTiers.get tierId = some tier ∧ 0 < tier.priceCents ∧
      attempt.amountCents = tier.priceCents ∧
      attempt.platformFeeCents = (paymentFees tier.priceCents
        (creatorFeeBps (db.users.get creatorId))).platformFeeCents := by
  have patched {attempts : Table PaymentAttempt} {id : AttemptId}
      {f : PaymentAttempt → PaymentAttempt} (same : attempts = db.paymentAttempts.patch id f) :
      attempts.get db.paymentAttempts.next = none := by
    rw [same, Table.get_patch, Table.get_next]
    exact ite_self none
  have absent (none : after.paymentAttempts.get db.paymentAttempts.next = none) : False := by
    rw [none] at found
    cases found
  have kept (same : after.paymentAttempts = db.paymentAttempts) : False := by
    apply absent
    rw [same]
    exact Table.get_next _
  cases effect with
  | attemptAdded other tierId tier hotline held paid created detached unqueued amount fee same =>
      rw [same.paymentAttempts, Table.get_insert_next] at found
      obtain rfl := Option.some.inj found
      exact ⟨tierId, tier, hotline.creatorId, held, paid, amount, fee⟩
  | joined viewerId args tierId tier existing attempt live held offered previous gone usable paid
      same =>
      have attempts := same.paymentAttempts
      rw [enqueue_attempts] at attempts
      cases attempt with
      | none => exact (kept attempts).elim
      | some row => exact (absent (patched attempts)).elim
  | selected showId hotline entryId entry mode attempt asked host live idle present inShow waiting
      held paid same =>
      have attempts := same.paymentAttempts
      rw [openCall_attempts] at attempts
      cases attempt with
      | none => exact (kept attempts).elim
      | some row => exact (absent (patched attempts)).elim
  | intentAttached attemptId intentId attempt asked present detached same =>
      have attempts := same.paymentAttempts
      dsimp only at attempts
      exact (absent (patched attempts)).elim
  | authorized attemptId attempt asked present created same =>
      have attempts := same.paymentAttempts
      dsimp only at attempts
      exact (absent (patched attempts)).elim
  | captureNoted attemptId attempt capturedAt method asked present settled same =>
      exact (absent (patched same.paymentAttempts)).elim
  | callOpened attemptId attempt capturedAt method callId call asked present located pending live
      same => exact (absent (patched same.paymentAttempts)).elim
  | callMissed attemptId attempt capturedAt method callId call asked present located unstarted
      isOver pending same => exact (absent (patched same.paymentAttempts)).elim
  | chargeReturned attemptId attempt capturedAt method callId call asked present located unstarted
      isOver settled same => exact (absent (patched same.paymentAttempts)).elim
  | notCaptured attemptId attempt status failureCode canceledAt calls queueEntries asked present
      uncaptured failed released same => exact (absent (patched same.paymentAttempts)).elim
  | _ =>
      rename_i same
      exact (kept same.paymentAttempts).elim

def User.atSignupRate (user : User) : Prop :=
  user.platformFeeBps = none ∨ user.platformFeeBps = some signupPlatformFeeBps

/-- The charge of an attempt, and what is left of it for the creator. -/
structure PaymentAttempt.Earns (attempt : PaymentAttempt) : Prop where
  charged : 0 < attempt.amountCents
  earned : 0 < attempt.earningCents

structure EarningsSound (db : DB) : Prop where
  rate : ∀ id user, db.users.get id = some user → user.atSignupRate
  tier : ∀ id tier, db.showTiers.get id = some tier → tier.priced
  charge : ∀ id attempt, db.paymentAttempts.get id = some attempt → attempt.Earns
  credit : ∀ id entry attemptId, db.ledger.ledgerEntries.get id = some entry →
    entry.kind = .earning → entry.paymentAttemptId = some attemptId →
    ∃ attempt, db.paymentAttempts.get attemptId = some attempt ∧
      entry.amountCents = attempt.earningCents

theorem EarningsSound.empty : EarningsSound .empty := by
  refine ⟨?_, ?_, ?_, ?_⟩
  · intro id user found
    cases found
  · intro id tier found
    cases found
  · intro id attempt found
    cases found
  · intro id entry attemptId found
    cases found

theorem Effect.users_rate {ctx : Ctx} {db after : DB} {m : Mutation} (effect : Effect ctx db m after)
    (rate : ∀ id user, db.users.get id = some user → user.atSignupRate) {id : UserId} {user : User}
    (found : after.users.get id = some user) : user.atSignupRate := by
  cases effect with
  | userAdded added signup same =>
      rw [same.users] at found
      rcases Table.get_insert_row found with ⟨_, rfl⟩ | old
      · exact signup
      · exact rate id user old
  | selected showId hotline entryId entry mode attempt asked host live idle present inShow waiting
      held paid same =>
      refine rate id user ?_
      rw [← found, same.users]
      cases attempt <;> rfl
  | _ =>
      rename_i same
      exact rate id user (same.users ▸ found)

theorem Effect.tiers_priced {ctx : Ctx} {db after : DB} {m : Mutation}
    (effect : Effect ctx db m after)
    (priced : ∀ id tier, db.showTiers.get id = some tier → tier.priced) {id : TierId}
    {tier : ShowTier} (found : after.showTiers.get id = some tier) : tier.priced := by
  cases effect with
  | tiersReplaced showId hotline showTiers present created kept each same =>
      rw [same.showTiers] at found
      rcases each id tier found with old | new
      · exact priced id tier old
      · exact new
  | showAdded hotline added created free same =>
      rw [same.showTiers] at found
      rcases Table.get_insert_row found with ⟨_, rfl⟩ | old
      · exact Or.inl free
      · exact priced id tier old
  | selected showId hotline entryId entry mode attempt asked host live idle present inShow waiting
      held paid same =>
      refine priced id tier ?_
      rw [← found, same.showTiers]
      cases attempt <;> rfl
  | _ =>
      rename_i same
      exact priced id tier (same.showTiers ▸ found)

theorem creatorFeeBps_standard {db : DB}
    (rate : ∀ id user, db.users.get id = some user → user.atSignupRate) (creatorId : UserId) :
    creatorFeeBps (db.users.get creatorId) ≤ standardPlatformFeeBps := by
  unfold creatorFeeBps
  cases found : db.users.get creatorId with
  | none => decide
  | some user =>
      rcases rate creatorId user found with none | signup
      · simp only [Option.bind_some, none]
        decide
      · simp only [Option.bind_some, signup]
        decide

theorem EarningsSound.mutation {db : DB} (sound : EarningsSound db) (ctx : Ctx) (m : Mutation) :
    EarningsSound (m.apply ctx db) := by
  have effect := m.effect ctx db
  have attempts := effect.attempts
  refine ⟨fun id user => effect.users_rate sound.rate, fun id tier =>
    effect.tiers_priced sound.tier, ?_, ?_⟩
  · intro id attempt found
    rcases attempts.origin id attempt found with ⟨before, present, follows⟩ | ⟨rfl, _⟩
    · have earns := sound.charge id before present
      exact ⟨follows.terms.amountCents ▸ earns.charged, follows.terms.earning ▸ earns.earned⟩
    · obtain ⟨tierId, tier, creatorId, held, paid, amount, fee⟩ := effect.new_attempt found
      have least : 50 ≤ tier.priceCents :=
        (sound.tier tierId tier held).resolve_left (Nat.ne_of_gt paid)
      refine ⟨amount ▸ paid, ?_⟩
      unfold PaymentAttempt.earningCents
      rw [amount, fee]
      exact credit_pos _ _ least (creatorFeeBps_standard sound.rate creatorId)
  · intro id entry attemptId found earning of
    have old (was : db.ledger.ledgerEntries.get id = some entry) : ∃ attempt,
        (m.apply ctx db).paymentAttempts.get attemptId = some attempt ∧
          entry.amountCents = attempt.earningCents := by
      obtain ⟨before, present, amount⟩ := sound.credit id entry attemptId was earning of
      obtain ⟨after, kept, follows⟩ := attempts.kept attemptId before present
      exact ⟨after, kept, amount.trans follows.terms.earning.symm⟩
    cases effect.ledger_change with
    | reserves posted =>
        rcases posted.origin found with was | reservation
        · exact old was
        · rw [reservation.1] at earning
          cases earning
    | credits callId call other attempt asked present allowed calls pays held ledger =>
        rw [ledger] at found
        rcases (creditEarning_only ..).origin found with was | rfl
        · exact old was
        · obtain rfl := Option.some.inj of
          obtain ⟨after, kept, follows⟩ := attempts.kept other attempt held
          exact ⟨after, kept, follows.terms.earning.symm⟩
    | reverses refundId refund row succeeded ledger =>
        rw [ledger] at found
        rcases (reverseForRefund_only ..).origin found with was | reversal
        · exact old was
        · rw [reversal.kind] at earning
          cases earning
    | adjusts event asked disputes ledger =>
        rw [ledger] at found
        rcases (adjustForDispute_only ..).origin found with was | adjustment
        · exact old was
        · rcases adjustment.kind with ⟨kind, _⟩ | ⟨kind, _⟩
          · rw [kind] at earning
            cases earning
          · rw [kind] at earning
            cases earning

theorem EarningsSound.unscheduled : World.Unscheduled EarningsSound := fun _ _ =>
  ⟨fun s => ⟨s.rate, s.tier, s.charge, s.credit⟩, fun s => ⟨s.rate, s.tier, s.charge, s.credit⟩⟩

theorem EarningsSound.reached {w : World} (reached : World.Reached w) : EarningsSound w.db :=
  World.reached_keeps EarningsSound unscheduled .empty
    (fun ctx _ m sound => sound.mutation ctx m) reached

/-- What a call is credited with. -/
theorem EarningsSound.earning {db : DB} (sound : EarningsSound db) {attemptId : AttemptId}
    {earning : LedgerEntry} (credited : earningFor db.ledger attemptId = some earning) :
    0 < earning.amountCents ∧ ∃ attempt, db.paymentAttempts.get attemptId = some attempt ∧
      0 < attempt.amountCents ∧ earning.amountCents = attempt.earningCents := by
  obtain ⟨id, present, of, kind⟩ := earningFor_some credited
  obtain ⟨attempt, held, amount⟩ := sound.credit id earning attemptId present kind of
  have earns := sound.charge attemptId attempt held
  exact ⟨amount ▸ earns.earned, attempt, held, earns.charged, amount⟩

end Bling
