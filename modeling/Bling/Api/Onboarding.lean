import Bling.Onboarding

set_option autoImplicit false

namespace Bling.Api

open Library

/-! Connected accounts and customers in the Go backend (`payout/stripe.go`, `payout/service.go`,
`payout/store.go`, `payment/store.go`). -/

/-! ### What is read off an account -/

/-- What is absent reads as the empty string. -/
structure StripeAccount where
  transfersStatus : String
  bankPayoutsStatus : String
  externalAccountPresent : Bool
  externalAccountBankName : String
  externalAccountLast4 : String
  externalAccountCurrency : String
  chargesEnabled : Bool
  payoutsEnabled : Bool
  detailsSubmitted : Bool
  requirementsDue : List String
deriving DecidableEq

/-- Only an entry with no deadline at all is of unknown urgency. -/
def requirementBlocks (entry : RequirementEntry) : Bool :=
  match entry.minimumDeadline with
  | none => true
  | some deadline => deadline == some "currently_due" || deadline == some "past_due"

def stripeAccount (value : ConnectAccount) : StripeAccount :=
  let transfersStatus := value.stripeTransfers.getD ""
  let bankPayoutsStatus := value.payouts.getD ""
  let (requirementsDue, blocked) := readRequirements requirementBlocks value.requirements
  { transfersStatus
    bankPayoutsStatus
    externalAccountPresent := false
    externalAccountBankName := ""
    externalAccountLast4 := ""
    externalAccountCurrency := ""
    chargesEnabled := transfersStatus == "active"
    payoutsEnabled := bankPayoutsStatus == "active"
    detailsSubmitted := !blocked
    requirementsDue }

def StripeAccount.attach (account : StripeAccount) (bank : BankAccount) : StripeAccount :=
  { account with
    externalAccountPresent := true
    externalAccountBankName := bank.bankName.getD ""
    externalAccountLast4 := bank.last4
    externalAccountCurrency := bank.currency }

/-- The loop of `RetrieveAccount`: the first bank account, until the default one comes. -/
def readBanks (account : StripeAccount) : List BankAccount → StripeAccount
  | [] => account
  | bank :: rest =>
    if bank.deleted || bank.status == "errored" || bank.status == "verification_failed" ||
        bank.status == "tokenized_account_number_deactivated" then
      readBanks account rest
    else
      let account := if !account.externalAccountPresent || bank.defaultForCurrency then
          account.attach bank
        else account
      if bank.defaultForCurrency then account else readBanks account rest

def retrieveAccount (value : ConnectAccount) (banks : List BankAccount) : StripeAccount :=
  readBanks (stripeAccount value) banks

theorem not_usable (bank : BankAccount) :
    (bank.deleted || bank.status == "errored" || bank.status == "verification_failed" ||
      bank.status == "tokenized_account_number_deactivated") = !bank.usable := by
  simp only [BankAccount.usable, Bool.not_and, Bool.not_not, bne]

/-- One pass with an early exit finds what two searches find. -/
theorem readBanks_eq (account : StripeAccount) (banks : List BankAccount) :
    readBanks account banks =
      ((((banks.filter BankAccount.usable).find? BankAccount.defaultForCurrency).or
        (if account.externalAccountPresent then none
          else (banks.filter BankAccount.usable).head?)).elim account account.attach) := by
  induction banks generalizing account with
  | nil =>
      unfold readBanks
      cases account.externalAccountPresent with
      | false => rfl
      | true => rfl
  | cons bank rest ih =>
      unfold readBanks
      rw [not_usable]
      cases usable : bank.usable with
      | false =>
          rw [List.filter_cons_of_neg (by simp [usable])]
          exact ih account
      | true =>
          rw [List.filter_cons_of_pos usable]
          cases default : bank.defaultForCurrency with
          | true =>
              rw [List.find?_cons_of_pos default]
              simp
          | false =>
              rw [List.find?_cons_of_neg (by simp [default])]
              cases present : account.externalAccountPresent with
              | true =>
                  have later := ih account
                  rw [present] at later
                  simpa using later
              | false =>
                  have later := ih (account.attach bank)
                  have there : (account.attach bank).externalAccountPresent = true := rfl
                  rw [there] at later
                  simp only [Bool.not_true, Bool.not_false, Bool.true_or, if_true,
                    Bool.false_eq_true, if_false, later, List.head?_cons, Option.or_none]
                  cases ((rest.filter BankAccount.usable).find? BankAccount.defaultForCurrency) with
                  | none => rfl
                  | some chosen => rfl

/-- A deadline that comes without its status. -/
def undated (entry : RequirementEntry) : Bool :=
  entry.isDue && entry.minimumDeadline.any fun deadline => deadline.getD "" == ""

theorem blocks_eq (entry : RequirementEntry) :
    entry.blocks = (requirementBlocks entry ||
      entry.minimumDeadline.any fun deadline => deadline.getD "" == "") := by
  unfold RequirementEntry.blocks requirementBlocks
  cases entry.minimumDeadline with
  | none => rfl
  | some deadline =>
      cases deadline with
      | none => rfl
      | some status => simp [Bool.or_comm, Bool.or_left_comm]

theorem due_blocks (entries : List RequirementEntry) :
    (entries.filter RequirementEntry.isDue).any RequirementEntry.blocks =
      ((entries.filter RequirementEntry.isDue).any requirementBlocks || entries.any undated) := by
  induction entries with
  | nil => rfl
  | cons entry rest ih =>
      rw [List.any_cons, undated]
      cases due : entry.isDue with
      | false =>
          rw [List.filter_cons_of_neg (by simp [due])]
          exact ih
      | true =>
          rw [List.filter_cons_of_pos due, List.any_cons, List.any_cons, ih, blocks_eq]
          simp [Bool.or_assoc, Bool.or_left_comm]

theorem retrieveAccount_eq (account : ConnectAccount) (banks : List BankAccount) :
    retrieveAccount account banks =
      (chosenBank banks).elim (stripeAccount account) (stripeAccount account).attach := by
  have apart : (stripeAccount account).externalAccountPresent = false := rfl
  unfold retrieveAccount chosenBank
  rw [readBanks_eq, apart, if_neg Bool.false_ne_true]

/-- A stored account, with everything that is read off it (`payout.go`). -/
structure Account where
  creatorId : UserId
  stripeAccountId : StripeId
  read : StripeAccount
deriving DecidableEq

def Account.ready (account : Account) : Bool :=
  account.read.transfersStatus == "active" && account.read.bankPayoutsStatus == "active" &&
    account.read.externalAccountPresent && account.read.detailsSubmitted

/-- Both backends read the same off an account, except that only one of them lets an entry pass
whose deadline comes without a status: a creator with such an entry is ready only there. -/
theorem projections_agree (creatorId : UserId) (id : StripeId) (account : ConnectAccount)
    (banks : List BankAccount) :
    let stored := projectAccount account banks
    let read := retrieveAccount account banks
    read.transfersStatus = stored.transfersStatus ∧
      read.bankPayoutsStatus = stored.bankPayoutsStatus ∧
      read.externalAccountPresent = stored.externalAccountPresent ∧
      read.externalAccountBankName = stored.externalAccountBankName.getD "" ∧
      read.externalAccountLast4 = stored.externalAccountLast4.getD "" ∧
      read.externalAccountCurrency = stored.externalAccountCurrency.getD "" ∧
      read.requirementsDue = stored.requirementsDue ∧
      stored.detailsSubmitted = (read.detailsSubmitted && !account.requirements.any undated) ∧
      accountReady (some (stored.row creatorId id)) =
        ((Account.mk creatorId id read).ready && !account.requirements.any undated) := by
  intro stored read
  have chosen := retrieveAccount_eq account banks
  have kept {γ : Type} (part : StripeAccount → γ)
      (apart : ∀ bank, part ((stripeAccount account).attach bank) = part (stripeAccount account)) :
      part read = part (stripeAccount account) := by
    refine (congrArg part chosen).trans ?_
    cases chosenBank banks with
    | none => rfl
    | some bank => exact apart bank
  have ofBank {γ : Type} (part : StripeAccount → γ) (shown : Option BankAccount → γ)
      (bare : part (stripeAccount account) = shown none)
      (full : ∀ bank, part ((stripeAccount account).attach bank) = shown (some bank)) :
      part read = shown (chosenBank banks) := by
    refine (congrArg part chosen).trans ?_
    cases chosenBank banks with
    | none => exact bare
    | some bank => exact full bank
  have transfers : read.transfersStatus = stored.transfersStatus :=
    kept StripeAccount.transfersStatus fun _ => rfl
  have payouts : read.bankPayoutsStatus = stored.bankPayoutsStatus :=
    kept StripeAccount.bankPayoutsStatus fun _ => rfl
  have present : read.externalAccountPresent = stored.externalAccountPresent :=
    ofBank StripeAccount.externalAccountPresent Option.isSome rfl fun _ => rfl
  have details : stored.detailsSubmitted =
      (read.detailsSubmitted && !account.requirements.any undated) := by
    rw [kept StripeAccount.detailsSubmitted fun _ => rfl]
    simp only [stored, projectAccount, stripeAccount, readRequirements_eq, due_blocks, Bool.not_or]
  have due : read.requirementsDue = stored.requirementsDue := by
    rw [kept StripeAccount.requirementsDue fun _ => rfl]
    simp only [stored, projectAccount, stripeAccount, readRequirements_eq]
  refine ⟨transfers, payouts, present, ?_, ?_, ?_, due, details, ?_⟩
  · exact ofBank StripeAccount.externalAccountBankName
      (fun bank => (bank.bind BankAccount.bankName).getD "") rfl fun _ => rfl
  · exact ofBank StripeAccount.externalAccountLast4
      (fun bank => (bank.map BankAccount.last4).getD "") rfl fun _ => rfl
  · exact ofBank StripeAccount.externalAccountCurrency
      (fun bank => (bank.map BankAccount.currency).getD "") rfl fun _ => rfl
  · simp only [accountReady, Account.ready, Option.any_some, AccountFields.row,
      transfers, payouts, present, details, Bool.and_assoc]

/-! ### Creators and their accounts -/

/-- The account that is there keeps its name, whatever account the rest was read off. -/
def Account.refreshed (read : StripeAccount) (existing : Account) : Account :=
  { existing with read }

/-- `Upsert`: the accounts after it, and the row it returns. -/
def upsertAccount (accounts : Table Account) (creatorId : UserId) (id : StripeId)
    (read : StripeAccount) : Table Account × Account :=
  match accounts.first fun account => account.creatorId == creatorId with
  | none => (accounts.insert ⟨creatorId, id, read⟩, ⟨creatorId, id, read⟩)
  | some (rowId, existing) =>
    (accounts.patch rowId (Account.refreshed read), existing.refreshed read)

theorem upsertAccount_eq (accounts : Table Account) (creatorId : UserId) (id : StripeId)
    (read : StripeAccount) :
    (upsertAccount accounts creatorId id read).1 =
      accounts.upsert Account.creatorId creatorId ⟨creatorId, id, read⟩
        (Account.refreshed read) := by
  unfold upsertAccount Table.upsert
  cases accounts.first fun account => account.creatorId == creatorId with
  | none => rfl
  | some row => rfl

def Account.named (account : Account) : StripeId × StripeAccount :=
  (account.stripeAccountId, account.read)

/-- `ByCreator` -/
def accountOf (accounts : Table Account) (creatorId : UserId) : Option (StripeId × StripeAccount) :=
  (accounts.rowOf Account.creatorId creatorId).map Account.named

/-- The name is kept and everything else is written over it. -/
def keepsName : Option (StripeId × StripeAccount) → StripeId → StripeAccount →
    StripeId × StripeAccount
  | none, id, read => (id, read)
  | some (held, _), _, read => (held, read)

/-- `Upsert` returns the row it leaves, and `ensureAccount` answers with that. -/
theorem upsertAccount_told (accounts : Table Account) (creatorId : UserId) (id : StripeId)
    (read : StripeAccount) :
    (upsertAccount accounts creatorId id read).2.named =
      keepsName (accountOf accounts creatorId) id read := by
  unfold upsertAccount accountOf Table.rowOf
  cases accounts.first fun account => account.creatorId == creatorId with
  | none => rfl
  | some row => rfl

def accounts : Keeping (Table Account) UserId ConnectAccount (List BankAccount) StripeAccount where
  entry := accountOf
  save accounts creatorId id read := (upsertAccount accounts creatorId id read).1
  project := retrieveAccount
  merge := keepsName
  tellsStored := true
  entry_save := by
    intro accounts creatorId id read other
    unfold accountOf
    have own : Account.creatorId ⟨creatorId, id, read⟩ = creatorId := rfl
    have kept (held : Account) : (held.refreshed read).creatorId = held.creatorId := rfl
    rw [upsertAccount_eq, Table.rowOf_upsert own kept]
    split
    · cases accounts.rowOf Account.creatorId creatorId with
      | none => rfl
      | some existing => rfl
    · rfl
  merge_none _ _ := rfl
  merge_same _ _ _ := rfl
  merge_first _ _ _ _ := rfl

/-- However requests interleave, a creator has one account, made for this creator and kept, and no
request of theirs is answered with another, though Stripe forgets having made it. What the row
shows was read off this account only if Stripe hasn't forgotten. -/
theorem account_setup_one (state : ConnectAccount × List BankAccount)
    (ops : List (Enrolment.Op UserId ConnectAccount (List BankAccount))) :
    let e := run (Enrolment.step accounts []) (Enrolment.start Table.empty state) ops
    e.store.Keyed Account.creatorId ∧
      (∀ rowId row, e.store.get rowId = some row →
        e.service.made[row.stripeAccountId]? = some row.creatorId) ∧
      (∀ creatorId id, (creatorId, id) ∈ e.told →
        ∃ read, accountOf e.store creatorId = some (id, read)) ∧
      (∀ more creatorId id other, (creatorId, id) ∈ e.told →
        (creatorId, other) ∈ (run (Enrolment.step accounts []) e more).told → id = other) ∧
      ((∀ op ∈ ops, op.forgets = false) → ∀ rowId row, e.store.get rowId = some row →
        ∃ account banks, row.read = retrieveAccount account banks ∧
          Enrolment.Glimpsed e.service row.stripeAccountId account banks) := by
  intro e
  have empty (creatorId : UserId) : accounts.entry Table.empty creatorId = none := rfl
  have sound : Enrolment.Sound accounts [] e := ((Enrolment.Sound.start empty state).run ops).1
  have keyed : e.store.Keyed Account.creatorId := by
    refine Enrolment.store_run (fun t : Table Account => t.Keyed Account.creatorId)
      (fun accounts creatorId id read keyed => ?_) ?_ ops
    · change (upsertAccount accounts creatorId id read).1.Keyed Account.creatorId
      rw [upsertAccount_eq]
      exact keyed.upsert rfl fun _ => rfl
    · intro i j a b found
      cases found
  have entry (rowId : Nat) (row : Account) (found : e.store.get rowId = some row) :
      accounts.entry e.store row.creatorId = some (row.stripeAccountId, row.read) := by
    change accountOf e.store row.creatorId = _
    unfold accountOf
    rw [keyed.rowOf found]
    rfl
  refine ⟨keyed, fun rowId row found => sound.entries _ _ _ (entry rowId row found),
    Enrolment.told_stored empty state (Or.inl rfl), fun more creatorId id other first second =>
      Enrolment.told_same empty state rfl ops more first second, ?_⟩
  intro remembers rowId row found
  exact Enrolment.rows_shown empty state (Or.inr remembers) _ _ _ (entry rowId row found)

/-- Two requests at once, and Stripe forgets in between: the row names the first account and shows
what the second one was made with. -/
example :
    let first : ConnectAccount := ⟨none, none, []⟩
    let second : ConnectAccount := ⟨some "active", none, []⟩
    let e := run (Enrolment.step accounts []) (Enrolment.start Table.empty (first, []))
      [.ask 0, .ask 0, .advance (.creating 0) first, .forget 0, .advance (.creating 0) second,
        .advance (.saving 0 0 first) first, .advance (.saving 0 1 second) first]
    accountOf e.store 0 = some (0, retrieveAccount second []) := by
  decide

/-! ### Users and their customers -/

/-- `SavePaymentProfile`, but for the time it writes. -/
def savePaymentProfile (profiles : Table PaymentProfile) (userId : UserId) (customerId : StripeId) :
    Table PaymentProfile × PaymentProfile :=
  match profiles.first fun profile => profile.userId == userId with
  | none => (profiles.insert ⟨userId, customerId⟩, ⟨userId, customerId⟩)
  | some (rowId, existing) => (profiles.patch rowId fun held => held, existing)

/-- Both backends keep the same customers and answer with the same one. -/
theorem savePaymentProfile_eq (profiles : Table PaymentProfile) (userId : UserId)
    (customerId : StripeId) :
    (savePaymentProfile profiles userId customerId).1 =
        (saveProfile profiles userId customerId).1 ∧
      (savePaymentProfile profiles userId customerId).2.stripeCustomerId =
        (saveProfile profiles userId customerId).2 := by
  unfold savePaymentProfile saveProfile
  cases profiles.first fun profile => profile.userId == userId with
  | none => exact ⟨rfl, rfl⟩
  | some row => exact ⟨Table.patch_eq_self fun _ _ => rfl, rfl⟩

end Bling.Api
