import Mathlib.Algebra.BigOperators.Group.List.Basic
import Mathlib.Data.List.Induction
import Mathlib.Data.List.Nodup
import Mathlib.Tactic.Tauto

set_option autoImplicit false

namespace Library

/-! Totals by key, kept in the order in which the keys first appear. -/

variable {α κ M : Type} [DecidableEq κ]

/-- Adds an amount to the total of a key. -/
def addTotal [Add M] (totals : List (κ × M)) (key : κ) (amount : M) : List (κ × M) :=
  match totals with
  | [] => [(key, amount)]
  | (k, total) :: rest =>
    if k = key then (k, total + amount) :: rest else (k, total) :: addTotal rest key amount

def tally [Add M] (key : α → κ) (value : α → M) (entries : List α) : List (κ × M) :=
  entries.foldl (fun totals a => addTotal totals (key a) (value a)) []

section Totals

variable [Add M]

end Totals

end Library
