import Bling.Ledger
import Bling.Library.Tally
import Mathlib.Data.List.Sort
import Mathlib.Data.Prod.Lex

set_option autoImplicit false

namespace Bling

open Library

/-! The chart of a creator's earnings by day, from `payouts.ts`. A date stands
here for the number of its day. -/

/-- A ledger entry with its `_creationTime`. -/
structure DatedEntry where
  createdAt : Time
  entry : LedgerEntry

def earningKinds : List LedgerKind := [.earning, .refundReversal, .disputeDebit, .disputeRelease]

def maxEarningsDays : Int := 366
def earningsScanLimit : Nat := 8000

def dayOf (t : Time) : Nat := t / 86400000

/-- The first instant of the chart; `days` has been rounded down. -/
def spanStart (now : Time) (days : Int) : Time :=
  let span := min (max days 1) maxEarningsDays
  let today := now / 86400000 * 86400000
  today - (span - 1).toNat * 86400000

/-- The order of `by_creator_currency_effective`, descending. -/
def laterFirst (a b : DatedEntry) : Prop :=
  toLex (b.entry.effectiveAt, b.createdAt) ≤ toLex (a.entry.effectiveAt, a.createdAt)

instance : DecidableRel laterFirst := fun _ _ => inferInstanceAs (Decidable (_ ≤ _))

section Chart

variable (ledger : List DatedEntry) (creatorId : UserId) (currency : String)

/-- The range of the index that the query reads. -/
def effectiveSince (since : Time) : List DatedEntry :=
  ledger.filter fun row => row.entry.creatorId == creatorId && row.entry.currency == currency &&
    decide (since ≤ row.entry.effectiveAt)

def inEffectOrder (since : Time) : List DatedEntry :=
  (effectiveSince ledger creatorId currency since).insertionSort laterFirst

/-- The entries that the loop passes over no more than. -/
def counted (since : Time) (row : DatedEntry) : Bool :=
  decide (row.entry.kind ∈ earningKinds) && decide (since ≤ row.createdAt)

/-- The entries that the loop adds up. -/
def scanned (since : Time) : List DatedEntry :=
  ((inEffectOrder ledger creatorId currency since).take earningsScanLimit).filter (counted since)

def earnings (now : Time) (days : Int) : List (Nat × Int) :=
  let since := spanStart now days
  (tally (fun row => dayOf row.createdAt) (fun row : DatedEntry => row.entry.amountCents)
    (scanned ledger creatorId currency since)).insertionSort fun a b => a.1 ≤ b.1

end Chart

/-- Earnings take effect after the hold, all else when it is posted. -/
def Held (hold : Time) (ledger : List DatedEntry) : Prop :=
  ∀ row ∈ ledger, row.entry.effectiveAt =
    row.createdAt + if row.entry.kind = .earning then hold else 0

section Sums

variable {ledger : List DatedEntry} {creatorId : UserId} {currency : String} {since now : Time}
  {days : Int}

theorem Held.later {hold : Time} (held : Held hold ledger) {row : DatedEntry}
    (member : row ∈ ledger) : row.createdAt ≤ row.entry.effectiveAt := by
  rw [held row member]
  exact Nat.le_add_right _ _

end Sums

/-! ### A day that loses its refund -/

def chartEntry (kind : LedgerKind) (amountCents : Int) (createdAt effectiveAt : Time) :
    DatedEntry :=
  { createdAt
    entry :=
      { creatorId := 0
        kind
        amountCents
        currency := "usd"
        effectiveAt
        idempotencyKey := .earning createdAt
        paymentAttemptId := none
        callId := none
        payoutItemId := none
        metadata := none } }

/-- A call on day 99, and one on day 100 that is refunded the same day. -/
def calls : List DatedEntry :=
  [chartEntry .earning 1000 (99 * 86400000) (106 * 86400000),
    chartEntry .earning 1000 (100 * 86400000) (107 * 86400000)]

instance : Std.Total laterFirst := ⟨fun _ _ => le_total _ _⟩

instance : IsTrans DatedEntry laterFirst := ⟨fun _ _ _ first second => le_trans second first⟩

end Bling
