import Mathlib.Data.List.TakeWhile
import Mathlib.Tactic.Ring

set_option autoImplicit false

namespace Library

/-! Numbers written in digits, and bytes written in Base64 (RFC 4648, URL alphabet, no padding). -/

def ascii (chars : List Char) : List UInt8 := chars.map fun c => UInt8.ofNat c.toNat

/-! ### Digits -/

/-- The last `width` digits of a number, with the highest first. -/
def toDigits (base : Nat) : Nat → Nat → List Nat
  | 0, _ => []
  | width + 1, n => toDigits base width (n / base) ++ [n % base]

def ofDigits (base : Nat) (digits : List Nat) : Nat :=
  digits.foldl (fun value digit => value * base + digit) 0

@[simp] theorem length_toDigits (base width n : Nat) : (toDigits base width n).length = width := by
  induction width generalizing n with
  | zero => rfl
  | succ width ih => simp [toDigits, ih]

theorem toDigits_lt {base : Nat} (positive : 0 < base) (width n : Nat) :
    ∀ digit ∈ toDigits base width n, digit < base := by
  induction width generalizing n with
  | zero => simp [toDigits]
  | succ width ih =>
      intro digit member
      rcases List.mem_append.mp member with high | low
      · exact ih (n / base) digit high
      · rw [List.mem_singleton.mp low]
        exact Nat.mod_lt n positive

theorem ofDigits_toDigits (base width n : Nat) :
    ofDigits base (toDigits base width n) = n % base ^ width := by
  induction width generalizing n with
  | zero => simp [toDigits, ofDigits, Nat.mod_one]
  | succ width ih =>
      have high := ih (n / base)
      unfold ofDigits at high ⊢
      rw [toDigits, List.foldl_append, high, Nat.pow_succ, Nat.mul_comm (base ^ width), Nat.mod_mul]
      simp only [List.foldl_cons, List.foldl_nil]
      ring

/-- Zeros in front don't count. -/
theorem ofDigits_dropWhile (base : Nat) (digits : List Nat) :
    ofDigits base (digits.dropWhile (· == 0)) = ofDigits base digits := by
  induction digits with
  | nil => rfl
  | cons digit rest ih =>
      by_cases zero : digit = 0
      · subst zero
        simpa [List.dropWhile_cons, ofDigits] using ih
      · simp [zero]

/-! ### Hexadecimal and decimal bytes -/

def hexByte (digit : Nat) : UInt8 := UInt8.ofNat (if digit < 10 then 48 + digit else 87 + digit)

/-- In lower case. -/
def hexDigit (byte : UInt8) : Option Nat :=
  if 48 ≤ byte.toNat ∧ byte.toNat ≤ 57 then some (byte.toNat - 48)
  else if 97 ≤ byte.toNat ∧ byte.toNat ≤ 102 then some (byte.toNat - 87)
  else none

theorem hexDigit_hexByte {digit : Nat} (bound : digit < 16) :
    hexDigit (hexByte digit) = some digit := by
  have all : ∀ digit < 16, hexDigit (hexByte digit) = some digit := by decide
  exact all digit bound

def isDigit (byte : UInt8) : Bool := 48 ≤ byte.toNat && byte.toNat ≤ 57

/-- A number of up to `width` digits. -/
def decimal (width n : Nat) : List UInt8 :=
  let digits := (toDigits 10 width n).dropWhile (· == 0)
  if digits = [] then [48] else digits.map fun digit => UInt8.ofNat (48 + digit)

def readDecimal (bytes : List UInt8) : Nat := ofDigits 10 (bytes.map fun byte => byte.toNat - 48)

theorem readDecimal_decimal {width n : Nat} (bound : n < 10 ^ width) :
    readDecimal (decimal width n) = n := by
  have value := ofDigits_dropWhile 10 (toDigits 10 width n)
  rw [ofDigits_toDigits, Nat.mod_eq_of_lt bound] at value
  unfold decimal
  dsimp only
  split
  · rename_i empty
    rw [empty] at value
    exact value
  · have read : ((toDigits 10 width n).dropWhile (· == 0)).map
        ((fun byte : UInt8 => byte.toNat - 48) ∘ fun digit => UInt8.ofNat (48 + digit)) =
        (toDigits 10 width n).dropWhile (· == 0) := by
      refine (List.map_congr_left ?_).trans (List.map_id _)
      intro digit member
      have small := toDigits_lt (by decide : 0 < 10) width n digit
        (List.dropWhile_subset _ member)
      have all : ∀ digit < 10, (UInt8.ofNat (48 + digit)).toNat - 48 = digit := by decide
      exact all digit small
    rw [readDecimal, List.map_map, read]
    exact value

/-- A number starts with a digit that is not zero, unless it is all of it. -/
theorem decimal_shape (width n : Nat) : decimal width n = [48] ∨
    ∃ first rest, decimal width n = first :: rest ∧ (49 ≤ first.toNat ∧ first.toNat ≤ 57) ∧
      rest.all isDigit := by
  unfold decimal
  dsimp only
  split
  · exact Or.inl rfl
  · rename_i some
    right
    have small : ∀ digit ∈ (toDigits 10 width n).dropWhile (· == 0), digit < 10 :=
      fun digit member => toDigits_lt (by decide) width n digit (List.dropWhile_subset _ member)
    have positive := List.head_dropWhile_not (· == 0) some
    cases digits : (toDigits 10 width n).dropWhile (· == 0) with
    | nil => exact absurd digits some
    | cons first rest =>
        simp only [digits, List.head_cons, beq_eq_false_iff_ne] at positive
        simp only [digits, List.mem_cons, forall_eq_or_imp] at small
        have shown : ∀ digit < 10, (UInt8.ofNat (48 + digit)).toNat = 48 + digit := by decide
        refine ⟨_, _, List.map_cons, ?_, ?_⟩
        · rw [shown first small.1]
          omega
        · rw [List.all_eq_true]
          intro byte member
          obtain ⟨digit, present, rfl⟩ := List.mem_map.mp member
          have bound := small.2 digit present
          simp only [isDigit, shown digit bound, Bool.and_eq_true, decide_eq_true_eq]
          omega

theorem length_decimal (width n : Nat) : (decimal (width + 1) n).length ≤ width + 1 := by
  unfold decimal
  dsimp only
  split
  · simp
  · rw [List.length_map]
    exact (List.length_dropWhile_le _ _).trans (by simp)

/-- `strconv.Itoa`. -/
def itoa (n : Int) : List UInt8 :=
  if n < 0 then 45 :: decimal 19 n.natAbs else decimal 19 n.natAbs

/-- `strconv.Atoi`. -/
def atoi (text : List UInt8) : Option Int :=
  let digits := if text.head? = some 45 ∨ text.head? = some 43 then text.tail else text
  let value : Int := if text.head? = some 45 then -(readDecimal digits) else readDecimal digits
  if digits ≠ [] ∧ digits.all isDigit ∧ -(2 ^ 63) ≤ value ∧ value < 2 ^ 63 then some value else none

theorem itoa_natCast (n : Nat) : itoa n = decimal 19 n := by
  rw [itoa, if_neg (Int.not_lt.mpr (Int.natCast_nonneg n)), Int.natAbs_natCast]

theorem decimal_digits (width n : Nat) : (decimal width n).all isDigit = true ∧
    ∃ first, (decimal width n).head? = some first ∧ first ≠ 45 ∧ first ≠ 43 := by
  rcases decimal_shape width n with zero | ⟨first, rest, shape, range, all⟩
  · rw [zero]
    exact ⟨by decide, 48, rfl, by decide, by decide⟩
  · rw [shape]
    refine ⟨?_, first, rfl, ?_, ?_⟩
    · rw [List.all_cons, Bool.and_eq_true]
      refine ⟨?_, all⟩
      simp only [isDigit, Bool.and_eq_true, decide_eq_true_eq]
      omega
    · rintro rfl
      exact absurd range (by decide)
    · rintro rfl
      exact absurd range (by decide)

theorem atoi_itoa {n : Int} (low : -(2 ^ 63) ≤ n) (high : n < 2 ^ 63) :
    atoi (itoa n) = some n := by
  obtain ⟨all, first, starts, unsigned, unmarked⟩ := decimal_digits 19 n.natAbs
  have value := readDecimal_decimal (show n.natAbs < 10 ^ 19 by omega)
  have some : decimal 19 n.natAbs ≠ [] := by
    intro empty
    rw [empty] at starts
    cases starts
  by_cases negative : n < 0
  · have same : -(n.natAbs : Int) = n := by omega
    simp only [itoa, atoi, if_pos negative, List.head?_cons, true_or, if_true, List.tail_cons,
      value, same]
    rw [if_pos ⟨some, all, low, high⟩]
  · have same : (n.natAbs : Int) = n := by omega
    simp only [itoa, atoi, if_neg negative, starts, Option.some.injEq, unsigned, unmarked, or_self,
      if_false, value, same]
    rw [if_pos ⟨some, all, low, high⟩]

/-! ### Base64 -/

namespace Base64

def digitByte (digit : Nat) : UInt8 :=
  UInt8.ofNat (if digit < 26 then 65 + digit else if digit < 52 then 71 + digit
    else if digit < 62 then digit - 4 else if digit = 62 then 45 else 95)

def byteDigit (byte : UInt8) : Option Nat :=
  let n := byte.toNat
  if 65 ≤ n ∧ n ≤ 90 then some (n - 65)
  else if 97 ≤ n ∧ n ≤ 122 then some (n - 71)
  else if 48 ≤ n ∧ n ≤ 57 then some (n + 4)
  else if n = 45 then some 62
  else if n = 95 then some 63
  else none

/-- The six-bit digits of bytes; the last one is filled up with zeros. -/
def sextets : List UInt8 → List Nat
  | a :: b :: c :: rest =>
    let n := a.toNat * 65536 + b.toNat * 256 + c.toNat
    n / 262144 :: n / 4096 % 64 :: n / 64 % 64 :: n % 64 :: sextets rest
  | [a, b] =>
    let n := a.toNat * 65536 + b.toNat * 256
    [n / 262144, n / 4096 % 64, n / 64 % 64]
  | [a] =>
    let n := a.toNat * 65536
    [n / 262144, n / 4096 % 64]
  | [] => []

/-- The bits left over at the end may be any. -/
def ofSextets : List Nat → Option (List UInt8)
  | w :: x :: y :: z :: rest =>
    let n := w * 262144 + x * 4096 + y * 64 + z
    (ofSextets rest).map fun bytes =>
      UInt8.ofNat (n / 65536) :: UInt8.ofNat (n / 256) :: UInt8.ofNat n :: bytes
  | [w, x, y] =>
    let n := w * 262144 + x * 4096 + y * 64
    some [UInt8.ofNat (n / 65536), UInt8.ofNat (n / 256)]
  | [w, x] => some [UInt8.ofNat ((w * 262144 + x * 4096) / 65536)]
  | [_] => none
  | [] => some []

def encode (bytes : List UInt8) : List UInt8 := (sextets bytes).map digitByte

/-- Line ends are skipped. -/
def decode (text : List UInt8) : Option (List UInt8) :=
  ((text.filter fun byte => byte != 10 && byte != 13).mapM byteDigit).bind ofSextets

theorem sextets_lt (bytes : List UInt8) : ∀ digit ∈ sextets bytes, digit < 64 := by
  induction bytes using sextets.induct with
  | case1 a b c rest ih =>
      have bounds := And.intro a.toNat_lt (And.intro b.toNat_lt c.toNat_lt)
      intro digit member
      simp only [sextets, List.mem_cons] at member
      rcases member with rfl | rfl | rfl | rfl | later
      · omega
      · omega
      · omega
      · omega
      · exact ih digit later
  | case2 a b =>
      have bounds := And.intro a.toNat_lt b.toNat_lt
      intro digit member
      simp only [sextets, List.mem_cons, List.not_mem_nil, or_false] at member
      omega
  | case3 a =>
      have bound := a.toNat_lt
      intro digit member
      simp only [sextets, List.mem_cons, List.not_mem_nil, or_false] at member
      omega
  | case4 => simp [sextets]

theorem ofNat_eq {n : Nat} {byte : UInt8} (same : n % 256 = byte.toNat) :
    UInt8.ofNat n = byte := by
  apply UInt8.toNat_inj.mp
  rw [UInt8.toNat_ofNat']
  exact same

theorem ofSextets_sextets (bytes : List UInt8) : ofSextets (sextets bytes) = some bytes := by
  induction bytes using sextets.induct with
  | case1 a b c rest ih =>
      have bounds := And.intro a.toNat_lt (And.intro b.toNat_lt c.toNat_lt)
      simp only [sextets, ofSextets, ih, Option.map_some, Option.some.injEq, List.cons.injEq,
        and_true]
      refine ⟨ofNat_eq ?_, ofNat_eq ?_, ofNat_eq ?_⟩
      · omega
      · omega
      · omega
  | case2 a b =>
      have bounds := And.intro a.toNat_lt b.toNat_lt
      simp only [sextets, ofSextets, Option.some.injEq, List.cons.injEq, and_true]
      refine ⟨ofNat_eq ?_, ofNat_eq ?_⟩
      · omega
      · omega
  | case3 a =>
      have bound := a.toNat_lt
      simp only [sextets, ofSextets, Option.some.injEq, List.cons.injEq, and_true]
      apply ofNat_eq
      omega
  | case4 => rfl

theorem byteDigit_digitByte {digit : Nat} (bound : digit < 64) :
    byteDigit (digitByte digit) = some digit ∧ digitByte digit ≠ 10 ∧ digitByte digit ≠ 13 := by
  have all : ∀ digit < 64, byteDigit (digitByte digit) = some digit ∧
      digitByte digit ≠ 10 ∧ digitByte digit ≠ 13 := by decide
  exact all digit bound

theorem decode_encode (bytes : List UInt8) : decode (encode bytes) = some bytes := by
  have bounds := sextets_lt bytes
  have kept : ((encode bytes).filter fun byte => byte != 10 && byte != 13) = encode bytes := by
    apply List.filter_eq_self.mpr
    intro byte member
    obtain ⟨digit, present, rfl⟩ := List.mem_map.mp member
    have shown := (byteDigit_digitByte (bounds digit present)).2
    simpa using shown
  have read : ∀ digits : List Nat, (∀ digit ∈ digits, digit < 64) →
      (digits.map digitByte).mapM byteDigit = some digits := by
    intro digits
    induction digits with
    | nil => exact fun _ => rfl
    | cons digit rest ih =>
        intro bounds
        simp only [List.mem_cons, forall_eq_or_imp] at bounds
        rw [List.map_cons, List.mapM_cons, (byteDigit_digitByte bounds.1).1, ih bounds.2]
        rfl
  rw [decode, kept, encode, read _ bounds]
  exact ofSextets_sextets bytes

theorem length_encode (bytes : List UInt8) :
    3 * (encode bytes).length ≤ 4 * bytes.length + 2 := by
  rw [encode, List.length_map]
  induction bytes using sextets.induct with
  | case1 a b c rest ih =>
      simp only [sextets, List.length_cons]
      omega
  | case2 a b => simp [sextets]
  | case3 a => simp [sextets]
  | case4 => simp [sextets]

theorem encode_ne_nil {bytes : List UInt8} (some : bytes ≠ []) : encode bytes ≠ [] := by
  intro empty
  have round := decode_encode bytes
  rw [empty] at round
  exact some (Option.some.inj round).symm

end Base64

end Library
