import Bling.Library.Enrolment
import Bling.Shows

set_option autoImplicit false

namespace Bling

open Library

/-! Connected accounts (`payouts.ts`) and customers (`paymentMethods.ts`): what Bling reads off a
Stripe account, and which account many requests at once leave a user with. -/

/-! ### What is read off an account -/

/-- An entry of `account.requirements.entries`; a deadline may come without its status. -/
structure RequirementEntry where
  awaitingActionFrom : String
  description : Option String
  minimumDeadline : Option (Option String)
deriving DecidableEq

/-- A v2 account: the statuses of its `stripe_balance` capabilities, and its requirements. -/
structure ConnectAccount where
  stripeTransfers : Option String
  payouts : Option String
  requirements : List RequirementEntry
deriving DecidableEq

structure BankAccount where
  deleted : Bool
  status : String
  defaultForCurrency : Bool
  bankName : Option String
  last4 : String
  currency : String
deriving DecidableEq

structure AccountFields where
  transfersStatus : String
  bankPayoutsStatus : String
  externalAccountPresent : Bool
  externalAccountBankName : Option String
  externalAccountLast4 : Option String
  externalAccountCurrency : Option String
  detailsSubmitted : Bool
  requirementsDue : List String
deriving DecidableEq

/-- An entry that waits for the creator. -/
def RequirementEntry.isDue (entry : RequirementEntry) : Bool := entry.awaitingActionFrom == "user"

/-- An entry without a deadline blocks, and so does a deadline without a status. -/
def RequirementEntry.blocks (entry : RequirementEntry) : Bool :=
  match entry.minimumDeadline.join with
  | none => true
  | some deadline => deadline == "" || deadline == "currently_due" || deadline == "past_due"

def RequirementEntry.told (entry : RequirementEntry) : Option String :=
  entry.description.filter fun text => text != ""

/-- The loop over the entries: what the creator is told is due, and whether any of it blocks. -/
def readRequirements (blocks : RequirementEntry → Bool) (entries : List RequirementEntry) :
    List String × Bool :=
  entries.foldl (fun (requirementsDue, blocked) entry =>
    if !entry.isDue then (requirementsDue, blocked)
    else (requirementsDue ++ entry.told.toList, blocked || blocks entry)) ([], false)

theorem readRequirements_eq (blocks : RequirementEntry → Bool) (entries : List RequirementEntry) :
    readRequirements blocks entries =
      ((entries.filter RequirementEntry.isDue).filterMap RequirementEntry.told,
        (entries.filter RequirementEntry.isDue).any blocks) := by
  have loop (due : List String) (blocked : Bool) :
      entries.foldl (fun (requirementsDue, blocked) entry =>
        if !entry.isDue then (requirementsDue, blocked)
        else (requirementsDue ++ entry.told.toList, blocked || blocks entry)) (due, blocked) =
        (due ++ (entries.filter RequirementEntry.isDue).filterMap RequirementEntry.told,
          blocked || (entries.filter RequirementEntry.isDue).any blocks) := by
    induction entries generalizing due blocked with
    | nil => simp
    | cons entry rest ih =>
        rw [List.foldl_cons]
        cases waits : entry.isDue with
        | false =>
            rw [List.filter_cons_of_neg (by simp [waits])]
            exact ih due blocked
        | true =>
            rw [List.filter_cons_of_pos waits]
            refine (ih _ _).trans ?_
            cases said : entry.told with
            | none => simp [said, Bool.or_assoc]
            | some text => simp [said, Bool.or_assoc]
  exact loop [] false

def BankAccount.usable (bank : BankAccount) : Bool :=
  !bank.deleted && bank.status != "errored" && bank.status != "verification_failed" &&
    bank.status != "tokenized_account_number_deactivated"

/-- The default bank account, or else the first. -/
def chosenBank (banks : List BankAccount) : Option BankAccount :=
  let usable := banks.filter BankAccount.usable
  (usable.find? BankAccount.defaultForCurrency).or usable.head?

def projectAccount (account : ConnectAccount) (banks : List BankAccount) : AccountFields :=
  let (requirementsDue, blocked) :=
    readRequirements RequirementEntry.blocks account.requirements
  let bank := chosenBank banks
  { transfersStatus := account.stripeTransfers.getD ""
    bankPayoutsStatus := account.payouts.getD ""
    externalAccountPresent := bank.isSome
    externalAccountBankName := bank.bind BankAccount.bankName
    externalAccountLast4 := bank.map BankAccount.last4
    externalAccountCurrency := bank.map BankAccount.currency
    detailsSubmitted := !blocked
    requirementsDue }

/-! ### Creators and their accounts -/

def PayoutAccount.fields (account : PayoutAccount) : AccountFields :=
  { transfersStatus := account.transfersStatus
    bankPayoutsStatus := account.bankPayoutsStatus
    externalAccountPresent := account.externalAccountPresent
    externalAccountBankName := account.externalAccountBankName
    externalAccountLast4 := account.externalAccountLast4
    externalAccountCurrency := account.externalAccountCurrency
    detailsSubmitted := account.detailsSubmitted
    requirementsDue := account.requirementsDue }

/-- The row of `saveAccount`. -/
def AccountFields.row (creatorId : UserId) (stripeAccountId : StripeId) (fields : AccountFields) :
    PayoutAccount :=
  { creatorId
    stripeAccountId
    transfersStatus := fields.transfersStatus
    bankPayoutsStatus := fields.bankPayoutsStatus
    externalAccountPresent := fields.externalAccountPresent
    externalAccountBankName := fields.externalAccountBankName
    externalAccountLast4 := fields.externalAccountLast4
    externalAccountCurrency := fields.externalAccountCurrency
    detailsSubmitted := fields.detailsSubmitted
    requirementsDue := fields.requirementsDue }

def PayoutAccount.named (account : PayoutAccount) : StripeId × AccountFields :=
  (account.stripeAccountId, account.fields)

def payoutAccountOf (db : DB) (creatorId : UserId) : Option (StripeId × AccountFields) :=
  (db.payoutAccounts.rowOf PayoutAccount.creatorId creatorId).map PayoutAccount.named

/-- A row is replaced by one about the same account only. -/
def replaced (account existing : PayoutAccount) : PayoutAccount :=
  if existing.stripeAccountId = account.stripeAccountId then
    { account with creatorId := existing.creatorId }
  else existing

theorem saveAccount_eq (db : DB) (creatorId : UserId) (account : PayoutAccount)
    (own : account.creatorId = creatorId) :
    (saveAccount db creatorId account).payoutAccounts =
      db.payoutAccounts.upsert PayoutAccount.creatorId creatorId account (replaced account) := by
  subst own
  simp only [saveAccount, Table.upsert]
  cases found : db.payoutAccounts.first fun a => a.creatorId == account.creatorId with
  | none => rfl
  | some row =>
      obtain ⟨present, matched⟩ := Table.first_row found
      dsimp only
      split
      · rename_i different
        refine (Table.patch_eq_self ?_).symm
        intro a there
        obtain rfl := Option.some.inj (present.symm.trans there)
        exact if_neg different
      · rename_i same
        dsimp only
        refine Table.patch_congr ?_
        intro a there
        obtain rfl := Option.some.inj (present.symm.trans there)
        unfold replaced
        rw [if_pos (not_not.mp same), beq_iff_eq.mp matched]

theorem replaced_creator (account existing : PayoutAccount) :
    (replaced account existing).creatorId = existing.creatorId := by
  unfold replaced
  split
  · rfl
  · rfl

/-- A creator's first account is kept, and what is read off another is turned down. -/
def keepsAccount :
    Option (StripeId × AccountFields) → StripeId → AccountFields → StripeId × AccountFields
  | none, id, fields => (id, fields)
  | some (held, old), id, fields => if held = id then (id, fields) else (held, old)

/-- `payouts.ts`: `ensureAccount` answers with the account that was made. -/
def payoutAccounts : Keeping DB UserId ConnectAccount (List BankAccount) AccountFields where
  entry := payoutAccountOf
  save db creatorId id fields := saveAccount db creatorId (fields.row creatorId id)
  project := projectAccount
  merge := keepsAccount
  tellsStored := false
  entry_save := by
    intro db creatorId id fields other
    unfold payoutAccountOf
    have own : (fields.row creatorId id).creatorId = creatorId := rfl
    rw [saveAccount_eq db creatorId _ own, Table.rowOf_upsert own (replaced_creator _)]
    split
    · rw [Option.map_some]
      congr 1
      cases db.payoutAccounts.rowOf PayoutAccount.creatorId creatorId with
      | none => rfl
      | some existing =>
          simp only [Option.elim_some, Option.map_some, PayoutAccount.named, keepsAccount,
            replaced, AccountFields.row]
          split
          · rfl
          · rfl
    · rfl
  merge_none _ _ := rfl
  merge_same _ _ _ := if_pos rfl
  merge_first held old id fields := by
    simp only [keepsAccount]
    split
    · rename_i same
      exact same.symm
    · rfl

/-- No creator has two rows. -/
theorem saveAccount_keyed {db : DB} (keyed : db.payoutAccounts.Keyed PayoutAccount.creatorId)
    (creatorId : UserId) (id : StripeId) (fields : AccountFields) :
    (saveAccount db creatorId (fields.row creatorId id)).payoutAccounts.Keyed
      PayoutAccount.creatorId := by
  have own : (fields.row creatorId id).creatorId = creatorId := rfl
  rw [saveAccount_eq db creatorId _ own]
  exact keyed.upsert own (replaced_creator _)

/-- What creators' requests, refreshes and webhooks have come to, in any order. -/
abbrev Onboarding := Enrolment DB UserId ConnectAccount (List BankAccount)

namespace Onboarding

def step : Onboarding → Enrolment.Op UserId ConnectAccount (List BankAccount) → Onboarding :=
  Enrolment.step payoutAccounts []

end Onboarding

/-- However requests interleave, a creator has one row; it names an account that Stripe made for
this creator, shows what was read off that account, and keeps the name. Whoever is sent to set an
account up is sent to one of their own, and to the stored one if Stripe hasn't forgotten making
it. -/
theorem payout_setup_own (state : ConnectAccount × List BankAccount)
    (ops : List (Enrolment.Op UserId ConnectAccount (List BankAccount))) :
    let e := run Onboarding.step (Enrolment.start DB.empty state) ops
    e.store.payoutAccounts.Keyed PayoutAccount.creatorId ∧
      (∀ rowId row, e.store.payoutAccounts.get rowId = some row →
        e.service.made[row.stripeAccountId]? = some row.creatorId ∧
        ∃ account banks, row.fields = projectAccount account banks ∧
          Enrolment.Glimpsed e.service row.stripeAccountId account banks) ∧
      (∀ creatorId id fields more, payoutAccountOf e.store creatorId = some (id, fields) →
        ∃ later, payoutAccountOf (run Onboarding.step e more).store creatorId = some (id, later)) ∧
      (∀ creatorId id, (creatorId, id) ∈ e.told → e.service.made[id]? = some creatorId) ∧
      ((∀ op ∈ ops, op.forgets = false) → ∀ creatorId id, (creatorId, id) ∈ e.told →
        ∃ fields, payoutAccountOf e.store creatorId = some (id, fields)) := by
  intro e
  have empty (creatorId : UserId) : payoutAccounts.entry DB.empty creatorId = none := rfl
  have sound : Enrolment.Sound payoutAccounts [] e :=
    ((Enrolment.Sound.start empty state).run ops).1
  have keyed : e.store.payoutAccounts.Keyed PayoutAccount.creatorId := by
    refine Enrolment.store_run (fun db : DB => db.payoutAccounts.Keyed PayoutAccount.creatorId)
      (fun db creatorId id fields keyed => saveAccount_keyed keyed creatorId id fields) ?_ ops
    intro i j a b found
    cases found
  have shown : Enrolment.Shows payoutAccounts e := by
    refine Enrolment.rows_shown empty state (Or.inl ?_)
    intro held old id fields different
    exact if_neg different
  refine ⟨keyed, ?_, ?_, sound.told, fun all => Enrolment.told_stored empty state (Or.inr all)⟩
  · intro rowId row found
    have stored : payoutAccountOf e.store row.creatorId =
        some (row.stripeAccountId, row.fields) := by
      unfold payoutAccountOf
      rw [keyed.rowOf found]
      rfl
    exact ⟨sound.entries _ _ _ stored, shown _ _ _ stored⟩
  · intro creatorId id fields more stored
    exact (sound.run more).2.entries creatorId id ⟨fields, stored⟩

/-! ### Users and their customers -/

structure PaymentProfile where
  userId : UserId
  stripeCustomerId : StripeId
deriving DecidableEq

/-- Keeps the first customer if two requests raced to create one. -/
def saveProfile (profiles : Table PaymentProfile) (userId : UserId) (stripeCustomerId : StripeId) :
    Table PaymentProfile × StripeId :=
  match profiles.first fun profile => profile.userId == userId with
  | some (_, existing) => (profiles, existing.stripeCustomerId)
  | none => (profiles.insert { userId, stripeCustomerId }, stripeCustomerId)

theorem saveProfile_eq (profiles : Table PaymentProfile) (userId : UserId)
    (stripeCustomerId : StripeId) :
    (saveProfile profiles userId stripeCustomerId).1 =
      profiles.upsert PaymentProfile.userId userId ⟨userId, stripeCustomerId⟩ fun held => held := by
  unfold saveProfile Table.upsert
  cases profiles.first fun profile => profile.userId == userId with
  | none => rfl
  | some row => exact (Table.patch_eq_self fun _ _ => rfl).symm

def PaymentProfile.named (profile : PaymentProfile) : StripeId × Unit :=
  (profile.stripeCustomerId, ())

def profileOf (profiles : Table PaymentProfile) (userId : UserId) : Option (StripeId × Unit) :=
  (profiles.rowOf PaymentProfile.userId userId).map PaymentProfile.named

/-- The customer that is there is kept. -/
def keepsCustomer : Option (StripeId × Unit) → StripeId → Unit → StripeId × Unit
  | none, id, _ => (id, ())
  | some held, _, _ => held

/-- `saveProfile` answers with the customer it leaves. -/
theorem saveProfile_told (profiles : Table PaymentProfile) (userId : UserId)
    (stripeCustomerId : StripeId) :
    (saveProfile profiles userId stripeCustomerId).2 =
      (keepsCustomer (profileOf profiles userId) stripeCustomerId ()).1 := by
  unfold saveProfile profileOf Table.rowOf
  cases profiles.first fun profile => profile.userId == userId with
  | none => rfl
  | some row => rfl

/-- `paymentMethods.ts`: `ensureCustomer` answers with the customer that is stored. -/
def customers : Keeping (Table PaymentProfile) UserId Unit Unit Unit where
  entry := profileOf
  save profiles userId id _ := (saveProfile profiles userId id).1
  project _ _ := ()
  merge := keepsCustomer
  tellsStored := true
  entry_save := by
    intro profiles userId id _ other
    unfold profileOf
    have own : PaymentProfile.userId ⟨userId, id⟩ = userId := rfl
    have kept (held : PaymentProfile) : held.userId = held.userId := rfl
    rw [saveProfile_eq, Table.rowOf_upsert own kept]
    split
    · cases profiles.rowOf PaymentProfile.userId userId with
      | none => rfl
      | some existing => rfl
    · rfl
  merge_none _ _ := rfl
  merge_same _ _ _ := rfl
  merge_first _ _ _ _ := rfl

/-- However requests to pay and to save cards interleave, and though Stripe forgets having made a
customer, a user has one customer, made for this user and kept, and no request of theirs goes on
with another. -/
theorem customers_one (ops : List (Enrolment.Op UserId Unit Unit)) :
    let e := run (Enrolment.step customers ()) (Enrolment.start Table.empty ((), ())) ops
    e.store.Keyed PaymentProfile.userId ∧
      (∀ rowId row, e.store.get rowId = some row →
        e.service.made[row.stripeCustomerId]? = some row.userId) ∧
      (∀ userId id, (userId, id) ∈ e.told → profileOf e.store userId = some (id, ())) ∧
      ∀ more userId id other, (userId, id) ∈ e.told →
        (userId, other) ∈ (run (Enrolment.step customers ()) e more).told → id = other := by
  intro e
  have empty (userId : UserId) : customers.entry Table.empty userId = none := rfl
  have sound : Enrolment.Sound customers () e :=
    ((Enrolment.Sound.start empty ((), ())).run ops).1
  have keyed : e.store.Keyed PaymentProfile.userId := by
    refine Enrolment.store_run (fun t : Table PaymentProfile => t.Keyed PaymentProfile.userId)
      (fun profiles userId id _ keyed => ?_) ?_ ops
    · change (saveProfile profiles userId id).1.Keyed PaymentProfile.userId
      rw [saveProfile_eq]
      exact keyed.upsert rfl fun _ => rfl
    · intro i j a b found
      cases found
  refine ⟨keyed, ?_, ?_, fun more userId id other first second =>
    Enrolment.told_same empty ((), ()) rfl ops more first second⟩
  · intro rowId row found
    refine sound.entries row.userId row.stripeCustomerId () ?_
    change profileOf e.store row.userId = _
    unfold profileOf
    rw [keyed.rowOf found]
    rfl
  · intro userId id told
    obtain ⟨_, stored⟩ := Enrolment.told_stored empty ((), ()) (Or.inl rfl) userId id told
    exact stored

end Bling
