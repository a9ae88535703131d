import Mathlib.Algebra.Ring.Nat

set_option autoImplicit false

namespace Library

/-! Parts of a list by an offset and a limit. -/

variable {α : Type}

def slice (offset limit : Nat) (rows : List α) : List α :=
  (rows.drop offset).take limit

/-- The rows between two indexes that are both in. An index below zero counts from the end. -/
def indexRange (rows : List α) (start stop : Int) : List α :=
  let length : Int := rows.length
  let first := max 0 (if start < 0 then length + start else start)
  let last := if stop < 0 then length + stop else stop
  if last < first ∨ length ≤ first then []
  else slice first.toNat (min last (length - 1) - first + 1).toNat rows

@[simp] theorem slice_nil (offset limit : Nat) : slice offset limit ([] : List α) = [] := by
  simp [slice]

@[simp] theorem slice_zero (offset : Nat) (rows : List α) : slice offset 0 rows = [] :=
  List.take_zero

theorem length_slice (offset limit : Nat) (rows : List α) :
    (slice offset limit rows).length = min limit (rows.length - offset) := by
  rw [slice, List.length_take, List.length_drop]

/-- A limit that is past the end may be any other. -/
theorem slice_past {offset limit other : Nat} {rows : List α} (past : rows.length ≤ offset + limit)
    (past' : rows.length ≤ offset + other) : slice offset limit rows = slice offset other rows := by
  have short : (rows.drop offset).length = rows.length - offset := List.length_drop
  rw [slice, slice, List.take_of_length_le (by omega), List.take_of_length_le (by omega)]

/-- An offset past the first list is an offset into the second. -/
theorem slice_append_skip {front : List α} {offset : Nat} (past : front.length ≤ offset)
    (limit : Nat) (back : List α) :
    slice offset limit (front ++ back) = slice (offset - front.length) limit back := by
  rw [slice, List.drop_append, List.drop_of_length_le past, List.nil_append, slice]

/-- What the first list leaves of the limit comes from the start of the second. -/
theorem slice_append_within {front : List α} {offset : Nat} (within : offset ≤ front.length)
    (limit : Nat) (back : List α) :
    slice offset limit (front ++ back) =
      slice offset limit front ++ slice 0 (limit - (slice offset limit front).length) back := by
  have rest : limit - (front.drop offset).length = limit - (slice offset limit front).length := by
    rw [length_slice, List.length_drop]
    omega
  calc slice offset limit (front ++ back)
      = (front.drop offset ++ back).take limit := by
        rw [slice, List.drop_append_of_le_length within]
    _ = slice offset limit front ++ back.take (limit - (front.drop offset).length) :=
        List.take_append
    _ = slice offset limit front ++ slice 0 (limit - (slice offset limit front).length) back := by
        rw [rest, slice, slice, List.drop_zero]

/-- The next slice starts where the one before it ends. -/
theorem slice_add (offset limit more : Nat) (rows : List α) :
    slice offset limit rows ++ slice (offset + limit) more rows =
      slice offset (limit + more) rows := by
  rw [slice, slice, slice, List.take_add, List.drop_drop]

theorem indexRange_eq_slice (rows : List α) (start : Nat) {size : Nat} (positive : 0 < size) :
    indexRange rows start (start + size - 1) = slice start size rows := by
  have forward : ¬ (start : Int) < 0 := by omega
  have forward' : ¬ (start + size - 1 : Int) < 0 := by omega
  have first : max 0 (start : Int) = start := by omega
  unfold indexRange
  dsimp only
  rw [if_neg forward, if_neg forward', first]
  by_cases past : (rows.length : Int) ≤ start
  · rw [if_pos (Or.inr past), slice, List.drop_of_length_le (by omega), List.take_nil]
  · rw [if_neg (by omega), Int.toNat_natCast]
    by_cases fits : start + size ≤ rows.length
    · have whole : (min (start + size - 1 : Int) (rows.length - 1) - start + 1).toNat = size := by
        omega
      rw [whole]
    · apply slice_past
      · omega
      · omega

/-- Pages of the given sizes, each from where the one before it ended. -/
def readPages (fetch : Nat → Nat → List α) : Nat → List Nat → List α
  | _, [] => []
  | offset, size :: sizes => fetch size offset ++ readPages fetch (offset + size) sizes

theorem readPages_eq {fetch : Nat → Nat → List α} {rows : List α}
    (sliced : ∀ limit offset, fetch limit offset = slice offset limit rows) (offset : Nat)
    (sizes : List Nat) : readPages fetch offset sizes = slice offset sizes.sum rows := by
  induction sizes generalizing offset with
  | nil => exact (slice_zero offset rows).symm
  | cons size sizes ih => rw [readPages, sliced, ih, slice_add, List.sum_cons]

end Library
