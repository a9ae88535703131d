import Bling.InStep
import Bling.Library.Occurrences
import Bling.Registry

set_option autoImplicit false

namespace Bling

open Library

/-! What `start` checks of a show stays true of it, as far as charges go: its tiers are those it
opened with. -/

/-! ### The tiers of a show that has begun -/

section Frozen

variable {ctx : Ctx} {db : DB} {m : Mutation} {registry : Registry} {showId : ShowId}

/-- A show that has begun stays whose it was, and was opened when it was. -/
theorem Written.show_kept (written : Written ctx db m registry) {hotline : Show}
    (present : db.shows.get showId = some hotline) (begun : hotline.status ≠ .created) :
    ∃ later, registry.shows.get showId = some later ∧ later.status ≠ .created ∧
      later.creatorId = hotline.creatorId ∧ later.startedAt = hotline.startedAt := by
  cases written with
  | created userId added tier unopened first =>
      exact ⟨hotline, Table.get_insert_of_some present _, begun, rfl, rfl⟩
  | opened userId other found opens =>
      refine ⟨hotline, ?_, begun, rfl, rfl⟩
      show (db.shows.patch other _).get showId = some hotline
      rw [Table.get_patch, if_neg, present]
      rintro rfl
      obtain rfl := Option.some.inj (opens.present.symm.trans present)
      exact begun opens.created
  | ended userId other found held live =>
      show ∃ later, (db.shows.patch other _).get showId = some later ∧ _
      rw [Table.get_patch]
      split
      · rw [present]
        refine ⟨_, rfl, ?_, rfl, rfl⟩
        intro unopened
        cases unopened
      · exact ⟨hotline, present, begun, rfl, rfl⟩
  | _ => exact ⟨hotline, present, begun, rfl, rfl⟩

/-- No tier is added to it, taken from it or changed. -/
theorem Written.tiers_kept (written : Written ctx db m registry) (begun : BegunIn db.shows showId)
    (tierId : TierId) {tier : ShowTier} (inShow : tier.showId = showId) :
    registry.showTiers.get tierId = some tier ↔ db.showTiers.get tierId = some tier := by
  obtain ⟨hotline, present, started⟩ := begun
  cases written with
  | created userId added first unopened ofNew =>
      show (db.showTiers.insert first).get tierId = some tier ↔ _
      rw [Table.get_insert]
      split
      · next same =>
        rw [same, Table.get_next]
        constructor
        · intro new
          obtain rfl := Option.some.inj new
          rw [← inShow, ofNew, Table.get_next] at present
          cases present
        · intro old
          cases old
      · exact Iff.rfl
  | tiers toLowerCase userId other tiers found showTiers held unopened others =>
      refine others tierId tier ?_
      rintro rfl
      rw [inShow] at held
      obtain rfl := Option.some.inj (held.symm.trans present)
      exact started unopened
  | _ => exact Iff.rfl

/-- What hasn't begun begins by being opened. -/
theorem Written.begins (written : Written ctx db m registry)
    (begun : BegunIn registry.shows showId) : BegunIn db.shows showId ∨
      ∃ userId hotline, m = .startShow userId showId ∧ Opens db userId showId hotline ∧
        registry.showTiers = db.showTiers ∧ registry.shows.get showId =
          some { hotline with status := .live, startedAt := some ctx.now } := by
  obtain ⟨later, found, started⟩ := begun
  cases written with
  | created userId added tier unopened first =>
      rcases Table.get_insert_row found with ⟨_, rfl⟩ | old
      · exact (started unopened).elim
      · exact Or.inl ⟨later, old, started⟩
  | opened userId other hotline opens =>
      by_cases same : showId = other
      · subst same
        refine Or.inr ⟨userId, hotline, rfl, opens, rfl, ?_⟩
        show (db.shows.patch showId _).get showId = _
        rw [Table.get_patch, if_pos rfl, opens.present]
        rfl
      · change (db.shows.patch other _).get showId = some later at found
        rw [Table.get_patch, if_neg same] at found
        exact Or.inl ⟨later, found, started⟩
  | ended userId other hotline held live =>
      by_cases same : showId = other
      · subst same
        refine Or.inl ⟨hotline, held, ?_⟩
        rw [live]
        decide
      · change (db.shows.patch other _).get showId = some later at found
        rw [Table.get_patch, if_neg same] at found
        exact Or.inl ⟨later, found, started⟩
  | _ => exact Or.inl ⟨later, found, started⟩

end Frozen

/-! ### From its opening on -/

/-- The show is as it was opened: whose, when, and with these tiers. -/
structure Kept (showId : ShowId) (creatorId : UserId) (startedAt : Option Time)
    (tiers : Table ShowTier) (db : DB) : Prop where
  hosted : ∃ hotline, db.shows.get showId = some hotline ∧ hotline.status ≠ .created ∧
    hotline.creatorId = creatorId ∧ hotline.startedAt = startedAt
  tiers : ∀ tierId tier, tier.showId = showId →
    (db.showTiers.get tierId = some tier ↔ tiers.get tierId = some tier)

section Keeps

variable {showId : ShowId} {creatorId : UserId} {startedAt : Option Time} {tiers : Table ShowTier}

theorem Kept.mutation {db : DB} (ctx : Ctx) (m : Mutation)
    (kept : Kept showId creatorId startedAt tiers db) :
    Kept showId creatorId startedAt tiers (m.apply ctx db) := by
  have written := m.written ctx db
  obtain ⟨hotline, present, begun, ofCreator, started⟩ := kept.hosted
  constructor
  · obtain ⟨later, found, stays, same, opened⟩ := written.show_kept present begun
    exact ⟨later, found, stays, same.trans ofCreator, opened.trans started⟩
  · intro tierId tier inShow
    exact (written.tiers_kept ⟨hotline, present, begun⟩ tierId inShow).trans
      (kept.tiers tierId tier inShow)

theorem Kept.step {w : World} (kept : Kept showId creatorId startedAt tiers w.db)
    (input : Ctx × Op) : Kept showId creatorId startedAt tiers (w.step input).db := by
  rcases World.step_ran w input with ⟨_, later, same⟩ | ⟨m, earlier, later, _, same⟩
  · rw [same]
    exact ⟨kept.hosted, kept.tiers⟩
  · rw [same]
    have before : Kept showId creatorId startedAt tiers { w.db with scheduled := earlier } :=
      ⟨kept.hosted, kept.tiers⟩
    have next := before.mutation input.1 m
    exact ⟨next.hosted, next.tiers⟩

theorem Kept.run {w : World} (kept : Kept showId creatorId startedAt tiers w.db)
    (inputs : List (Ctx × Op)) :
    Kept showId creatorId startedAt tiers (run World.step w inputs).db := by
  induction inputs generalizing w with
  | nil => exact kept
  | cons input rest ih => exact ih (kept.step input)

end Keeps

theorem World.start_requested {w : World} {input : Ctx × Op} {userId : Option UserId}
    {showId : ShowId} (ran : input.2.mutation w input.1 = some (.startShow userId showId)) :
    input.2 = .request (.startShow userId showId) := by
  generalize input.1 = ctx, input.2 = op at ran
  cases op with
  | request m =>
      simp only [Op.mutation] at ran
      split at ran
      · rw [Option.some.inj ran]
      · cases ran
  | authorize | saveAccount | runDue =>
      simp only [Op.mutation] at ran
      first | cases ran | (split at ran <;> cases ran)
  | runJob time job =>
      simp only [Op.mutation] at ran
      split at ran
      · cases job <;> cases ran
      · cases ran
  | advance flight outcome status =>
      simp only [Op.mutation] at ran
      split at ran
      · cases flight <;> cases ran
      · cases ran
  | deliver eventId =>
      obtain ⟨event, _, other⟩ := Option.map_eq_some_iff.mp ran
      cases other
  | _ => cases ran

/-- The step opens the show. -/
structure World.OpensShow (w : World) (input : Ctx × Op) (userId : Option UserId)
    (showId : ShowId) (hotline : Show) : Prop where
  asked : input.2 = .request (.startShow userId showId)
  opens : Opens w.db userId showId hotline
  kept : Kept showId hotline.creatorId (some input.1.now) w.db.showTiers (w.step input).db

theorem World.step_begins {w : World} {input : Ctx × Op} {showId : ShowId}
    (begun : BegunIn (w.step input).db.shows showId) :
    BegunIn w.db.shows showId ∨ ∃ userId hotline, w.OpensShow input userId showId hotline := by
  rcases World.step_ran w input with ⟨_, later, same⟩ | ⟨m, earlier, later, ran, same⟩
  · rw [same] at begun
    exact Or.inl begun
  · rw [same] at begun
    have written := m.written input.1 { w.db with scheduled := earlier }
    rcases written.begins begun with before | ⟨userId, hotline, rfl, opens, tiers, opened⟩
    · exact Or.inl before
    · refine Or.inr ⟨userId, hotline, World.start_requested ran,
        ⟨opens.owner, opens.present, opens.created, opens.offers, opens.ready, opens.alone⟩, ?_⟩
      rw [same]
      refine ⟨⟨_, opened, ?_, rfl, rfl⟩, ?_⟩
      · intro unopened
        cases unopened
      · intro tierId tier _
        exact iff_of_eq (congrArg (fun table => table.get tierId = some tier) tiers)

/-- A show that has begun was opened in one step of the run: its creator asked for it, and what
`start` checks held. Whose it is, when it started and which tiers it has are as they were then. -/
theorem opened_shows {inputs : List (Ctx × Op)} {showId : ShowId} {hotline : Show}
    (found : (run World.step World.empty inputs).db.shows.get showId = some hotline)
    (begun : hotline.status ≠ .created) :
    ∃ front input back userId before, inputs = front ++ input :: back ∧
      input.2 = .request (.startShow userId showId) ∧
      Opens (run World.step World.empty front).db userId showId before ∧
      before.creatorId = hotline.creatorId ∧ hotline.startedAt = some input.1.now ∧
      ∀ tierId tier, tier.showId = showId →
        ((run World.step World.empty inputs).db.showTiers.get tierId = some tier ↔
          (run World.step World.empty front).db.showTiers.get tierId = some tier) := by
  have never : ¬ BegunIn World.empty.db.shows showId := by
    rintro ⟨_, present, _⟩
    cases present
  obtain ⟨front, input, back, rfl, userId, before, opening⟩ :=
    run_origin (fun w : World => BegunIn w.db.shows showId) (fun _ _ => World.step_begins) never
      ⟨hotline, found, begun⟩
  have kept := opening.kept.run back
  rw [run_append, run_cons] at found ⊢
  obtain ⟨later, present, _, ofCreator, started⟩ := kept.hosted
  obtain rfl := Option.some.inj (found.symm.trans present)
  exact ⟨front, input, back, userId, before, rfl, opening.asked, opening.opens, ofCreator.symm,
    started, kept.tiers⟩

set_option maxRecDepth 40000 in
/-- The show with the $5 tier. -/
theorem opened_shows_preparing :
    ∃ front input back userId before, World.sampled World.preparing = front ++ input :: back ∧
      input.2 = .request (.startShow userId 0) ∧
      Opens (run World.step World.empty front).db userId 0 before ∧ before.creatorId = 0 := by
  have found : (run World.step World.empty (World.sampled World.preparing)).db.shows.get 0 =
      some ⟨0, .live, some 5, none⟩ := by decide
  have started : ShowStatus.live ≠ ShowStatus.created := by decide
  obtain ⟨front, input, back, userId, before, split, asked, opens, ofCreator, _⟩ :=
    opened_shows found started
  exact ⟨front, input, back, userId, before, split, asked, opens, ofCreator⟩

/-! ### What viewers are charged -/

/-- What an attempt is for. -/
structure SameSale (before after : PaymentAttempt) : Prop where
  showId : after.showId = before.showId
  tierId : after.tierId = before.tierId
  creatorId : after.creatorId = before.creatorId
  amountCents : after.amountCents = before.amountCents

theorem SameSale.refl (attempt : PaymentAttempt) : SameSale attempt attempt :=
  ⟨rfl, rfl, rfl, rfl⟩

/-- No mutation changes what an attempt is for. -/
theorem Effect.sales {ctx : Ctx} {db after : DB} {m : Mutation} (effect : Effect ctx db m after) :
    Table.Follow (fun _ => SameSale) (fun _ => True) db.paymentAttempts after.paymentAttempts := by
  have stays (_ : AttemptId) (attempt : PaymentAttempt) : SameSale attempt attempt := .refl attempt
  cases effect with
  | joined viewerId args tierId tier existing attempt live found offered previous gone held paid
      same =>
      rw [same.paymentAttempts, enqueue_attempts]
      cases attempt with
      | none => exact .refl stays _
      | some attemptId => exact .patch stays fun _ _ => ⟨rfl, rfl, rfl, rfl⟩
  | selected showId hotline entryId entry mode attempt asked host live idle present inShow waiting
      held paid same =>
      rw [same.paymentAttempts, openCall_attempts]
      cases attempt with
      | none => exact .refl stays _
      | some row => exact .patch stays fun _ _ => ⟨rfl, rfl, rfl, rfl⟩
  | attemptAdded attempt tierId tier hotline found paid created detached unqueued amount fee
      same =>
      rw [same.paymentAttempts]
      exact .insert stays _ trivial
  | intentAttached attemptId intentId attempt asked present detached same =>
      rw [same.paymentAttempts]
      dsimp only
      exact .patch stays fun _ _ => ⟨rfl, rfl, rfl, rfl⟩
  | authorized attemptId attempt asked present created same =>
      rw [same.paymentAttempts]
      dsimp only
      exact .patch stays fun _ _ => ⟨rfl, rfl, rfl, rfl⟩
  | captureNoted attemptId attempt capturedAt method asked present settled same =>
      rw [same.paymentAttempts]
      exact .patch stays fun _ _ => ⟨rfl, rfl, rfl, rfl⟩
  | callOpened attemptId attempt capturedAt method callId call asked present found pending live
      same =>
      rw [same.paymentAttempts]
      exact .patch stays fun _ _ => ⟨rfl, rfl, rfl, rfl⟩
  | callMissed attemptId attempt capturedAt method callId call asked present found unstarted isOver
      pending same =>
      rw [same.paymentAttempts]
      exact .patch stays fun _ _ => ⟨rfl, rfl, rfl, rfl⟩
  | chargeReturned attemptId attempt capturedAt method callId call asked present found unstarted
      isOver settled same =>
      rw [same.paymentAttempts]
      exact .patch stays fun _ _ => ⟨rfl, rfl, rfl, rfl⟩
  | notCaptured attemptId attempt status failureCode canceledAt calls queueEntries asked present
      uncaptured failed released same =>
      rw [same.paymentAttempts]
      exact .patch stays fun _ _ => ⟨rfl, rfl, rfl, rfl⟩
  | _ =>
      rename_i same
      exact .of_eq stays same.paymentAttempts

/-- The attempt is for a tier that its show sells at this price. -/
structure Sold (db : DB) (attempt : PaymentAttempt) (hotline : Show) (tier : ShowTier) : Prop where
  hosted : db.shows.get attempt.showId = some hotline
  begun : hotline.status ≠ .created
  creator : attempt.creatorId = hotline.creatorId
  found : db.showTiers.get attempt.tierId = some tier
  inShow : tier.showId = attempt.showId
  enabled : tier.enabled = true
  paid : 0 < tier.priceCents
  price : attempt.amountCents = tier.priceCents

def AllSold (db : DB) : Prop :=
  ∀ id attempt, db.paymentAttempts.get id = some attempt →
    ∃ hotline tier, Sold db attempt hotline tier

theorem Sold.mutation {db : DB} {attempt : PaymentAttempt} {hotline : Show} {tier : ShowTier}
    (sold : Sold db attempt hotline tier) (ctx : Ctx) (m : Mutation) {after : PaymentAttempt}
    (same : SameSale attempt after) :
    ∃ later, Sold (m.apply ctx db) after later tier := by
  have written := m.written ctx db
  obtain ⟨later, present, begun, ofCreator, _⟩ := written.show_kept sold.hosted sold.begun
  refine ⟨later, ?_, begun, ?_, ?_, ?_, sold.enabled, sold.paid, ?_⟩
  · rw [same.showId]
    exact present
  · rw [same.creatorId, ofCreator, sold.creator]
  · rw [same.tierId]
    exact (written.tiers_kept ⟨hotline, sold.hosted, sold.begun⟩ _ sold.inShow).mpr sold.found
  · rw [same.showId, sold.inShow]
  · rw [same.amountCents, sold.price]

theorem AllSold.mutation {db : DB} (all : AllSold db) (ctx : Ctx) (m : Mutation) :
    AllSold (m.apply ctx db) := by
  intro id attempt found
  rcases (m.effect ctx db).sales.origin id attempt found with ⟨before, present, same⟩ | ⟨rfl, _⟩
  · obtain ⟨hotline, tier, sold⟩ := all id before present
    obtain ⟨later, sold⟩ := sold.mutation ctx m same
    exact ⟨later, tier, sold⟩
  · obtain ⟨hotline, tier, charges, creator, price⟩ := Mutation.new_attempt found
    have begun : hotline.status ≠ .created := by
      rw [charges.live]
      decide
    obtain ⟨later, sold⟩ := Sold.mutation ⟨charges.present, begun, creator, charges.found,
      charges.inShow, charges.enabled, charges.paid, price⟩ ctx m (.refl attempt)
    exact ⟨later, tier, sold⟩

theorem AllSold.reached {w : World} (reached : World.Reached w) : AllSold w.db := by
  refine World.reached_keeps AllSold ?_ ?_ (fun ctx db m all => all.mutation ctx m) reached
  · intro db jobs
    constructor
    · intro all id attempt found
      obtain ⟨hotline, tier, sold⟩ := all id attempt found
      exact ⟨hotline, tier, sold.1, sold.2, sold.3, sold.4, sold.5, sold.6, sold.7, sold.8⟩
    · intro all id attempt found
      obtain ⟨hotline, tier, sold⟩ := all id attempt found
      exact ⟨hotline, tier, sold.1, sold.2, sold.3, sold.4, sold.5, sold.6, sold.7, sold.8⟩
  · intro id attempt found
    cases found

/-- Every charge is for a tier its show was opened with, at the price it had then, and was opened
by a creator whose connected account could be paid. -/
theorem charged_as_opened {inputs : List (Ctx × Op)} {attemptId : AttemptId}
    {attempt : PaymentAttempt}
    (found : (run World.step World.empty inputs).db.paymentAttempts.get attemptId = some attempt) :
    ∃ front input back userId hotline tier, inputs = front ++ input :: back ∧
      input.2 = .request (.startShow userId attempt.showId) ∧
      Opens (run World.step World.empty front).db userId attempt.showId hotline ∧
      attempt.creatorId = hotline.creatorId ∧
      (run World.step World.empty front).db.showTiers.get attempt.tierId = some tier ∧
      tier.showId = attempt.showId ∧ tier.enabled = true ∧ 0 < tier.priceCents ∧
      attempt.amountCents = tier.priceCents ∧
      accountReady (((run World.step World.empty front).db.payoutAccounts.first fun a =>
        a.creatorId == attempt.creatorId).map Prod.snd) = true := by
  obtain ⟨hotline, tier, sold⟩ := AllSold.reached ⟨inputs, rfl⟩ attemptId attempt found
  obtain ⟨front, input, back, userId, before, split, asked, opens, ofCreator, _, tiers⟩ :=
    opened_shows sold.hosted sold.begun
  have creator : attempt.creatorId = before.creatorId := sold.creator.trans ofCreator.symm
  have offered := (tiers attempt.tierId tier sold.inShow).mp sold.found
  refine ⟨front, input, back, userId, before, tier, split, asked, opens, creator, offered,
    sold.inShow, sold.enabled, sold.paid, sold.price, ?_⟩
  rw [creator]
  exact opens.ready _ tier offered sold.inShow sold.enabled sold.paid

set_option maxRecDepth 40000 in
/-- The charge of the $5 tier. -/
theorem charged_as_opened_preparing :
    ∃ front input back userId, World.sampled World.preparing = front ++ input :: back ∧
      input.2 = .request (.startShow userId 0) ∧
      accountReady (((run World.step World.empty front).db.payoutAccounts.first fun a =>
        a.creatorId == 0).map Prod.snd) = true := by
  have found : (run World.step World.empty
      (World.sampled World.preparing)).db.paymentAttempts.get 0 =
        some { World.sampleAttempt with stripePaymentIntentId := some 0 } := by decide
  obtain ⟨front, input, back, userId, _, _, split, asked, _, _, _, _, _, _, _, ready⟩ :=
    charged_as_opened found
  exact ⟨front, input, back, userId, split, asked, ready⟩

end Bling
