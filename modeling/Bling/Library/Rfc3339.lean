import Bling.Library.Gregorian
import Bling.Library.Numerals
import Mathlib.Data.List.DropRight

set_option autoImplicit false

namespace Library.Rfc3339

/-! Times as texts (RFC 3339), as Go's `time` writes and reads them. A time is in nanoseconds from
1 March of year 0, UTC, and a zone in minutes east of that. -/

def second : Nat := 10 ^ 9

def minute : Nat := 60 * second

def hour : Nat := 60 * minute

def day : Nat := 24 * hour

/-! ### Days -/

/-- January and February of year 0 are before the first day. -/
def dateOf (day : Int) : Nat × Nat × Nat :=
  if day < -29 then (0, 1, (day + 61).toNat)
  else if day < 0 then (0, 2, (day + 30).toNat)
  else Gregorian.date day.toNat

def dayOf (date : Nat × Nat × Nat) : Int :=
  let index := Gregorian.monthIndex date.1 date.2.1
  if index < 2 then 31 * index + date.2.2 - 61 else Gregorian.monthStart index + date.2.2 - 1

def isDate (date : Nat × Nat × Nat) : Prop :=
  (1 ≤ date.2.1 ∧ date.2.1 ≤ 12) ∧
    1 ≤ date.2.2 ∧ date.2.2 ≤ Gregorian.monthLength date.1 (date.2.1 - 1)

instance (date : Nat × Nat × Nat) : Decidable (isDate date) :=
  inferInstanceAs (Decidable (_ ∧ _))

/-! ### Writing -/

def digitByte (digit : Nat) : UInt8 := UInt8.ofNat (48 + digit)

/-- All digits, with zeros in front. -/
def padded (width n : Nat) : List UInt8 := (toDigits 10 width n).map digitByte

/-- Without the zeros at the end. -/
def fractionText (nanos : Nat) : List UInt8 :=
  let digits := (toDigits 10 9 nanos).rdropWhile (· == 0)
  if digits = [] then [] else 46 :: digits.map digitByte

def zoneText (zone : Int) : List UInt8 :=
  if zone = 0 then [90]
  else (if zone < 0 then 45 else 43) ::
    (padded 2 (zone.natAbs / 60) ++ 58 :: padded 2 (zone.natAbs % 60))

/-- The text has four digits for the year, and less than a day for the zone. -/
def write (zone : Int) (time : Int) : Option (List UInt8) :=
  let shown := time + zone * minute
  let date := dateOf (shown / day)
  let clock := (shown % day).toNat
  if shown / day < -60 ∨ 9999 < date.1 ∨ 1440 ≤ zone.natAbs then none
  else some (padded 4 date.1 ++ 45 :: (padded 2 date.2.1 ++ 45 :: (padded 2 date.2.2 ++
    84 :: (padded 2 (clock / hour) ++ 58 :: (padded 2 (clock / minute % 60) ++
      58 :: (padded 2 (clock / second % 60) ++ (fractionText (clock % second) ++
        zoneText zone)))))))

/-! ### Reading -/

/-- A number of so many digits, and what follows it. -/
def digits (width : Nat) (text : List UInt8) : Option (Nat × List UInt8) :=
  let number := text.take width
  if number.length = width ∧ number.all isDigit then some (readDecimal number, text.drop width)
  else none

def mark (byte : UInt8) (text : List UInt8) : Option (List UInt8) :=
  if text.head? = some byte then some text.tail else none

/-- Digits past the ninth don't count. -/
def fraction (text : List UInt8) : Nat × List UInt8 :=
  let number := text.tail.takeWhile isDigit
  if (text.head? = some 46 ∨ text.head? = some 44) ∧ number ≠ [] then
    (readDecimal ((number ++ List.replicate 9 48).take 9), text.tail.dropWhile isDigit)
  else (0, text)

def zone (text : List UInt8) : Option Int :=
  if text = [90] then some 0
  else do
    let hours ← digits 2 text.tail
    let rest ← mark 58 hours.2
    let minutes ← digits 2 rest
    let offset : Int := hours.1 * 60 + minutes.1
    if minutes.2 ≠ [] ∨ 24 < hours.1 ∨ 60 < minutes.1 then none
    else if text.head? = some 43 then some offset
    else if text.head? = some 45 then some (-offset)
    else none

/-- An hour may have one digit only. -/
def parse (text : List UInt8) : Option Int := do
  let year ← digits 4 text
  let text ← mark 45 year.2
  let month ← digits 2 text
  let text ← mark 45 month.2
  let date ← digits 2 text
  let text ← mark 84 date.2
  let hours ← (digits 2 text).or (digits 1 text)
  let text ← mark 58 hours.2
  let minutes ← digits 2 text
  let text ← mark 58 minutes.2
  let seconds ← digits 2 text
  let nanos := fraction seconds.2
  let offset ← zone nanos.2
  if isDate (year.1, month.1, date.1) ∧ hours.1 < 24 ∧ minutes.1 < 60 ∧ seconds.1 < 60 then
    some (dayOf (year.1, month.1, date.1) * day + hours.1 * hour + minutes.1 * minute +
      seconds.1 * second + nanos.1 - offset * minute)
  else none

/-! ### What is written is read back -/

theorem dateOf_spec {day : Int} (begun : -60 ≤ day) :
    isDate (dateOf day) ∧ dayOf (dateOf day) = day := by
  unfold dateOf
  split
  · have january : Gregorian.monthLength 0 (1 - 1) = 31 := by decide
    refine ⟨⟨⟨Nat.le_refl 1, Nat.le_add_left 1 11⟩, ?_, ?_⟩, ?_⟩
    · dsimp only
      omega
    · dsimp only
      rw [january]
      omega
    · simp only [dayOf, Gregorian.monthIndex]
      norm_num
      omega
  · split
    · have february : Gregorian.monthLength 0 (2 - 1) = 29 := by decide
      refine ⟨⟨⟨Nat.le_succ 1, Nat.le_add_left 2 10⟩, ?_, ?_⟩, ?_⟩
      · dsimp only
        omega
      · dsimp only
        rw [february]
        omega
      · simp only [dayOf, Gregorian.monthIndex]
        norm_num
        omega
    · obtain ⟨month, index, starts, first, before⟩ := Gregorian.date_spec day.toNat
      have within := Gregorian.monthStart_succ index
      have parts : Gregorian.monthIndex (Gregorian.date day.toNat).1
            (Gregorian.date day.toNat).2.1 / 12 = (Gregorian.date day.toNat).1 ∧
          Gregorian.monthIndex (Gregorian.date day.toNat).1
            (Gregorian.date day.toNat).2.1 % 12 = (Gregorian.date day.toNat).2.1 - 1 := by
        unfold Gregorian.monthIndex
        omega
      rw [parts.1, parts.2] at within
      refine ⟨⟨month, first, ?_⟩, ?_⟩
      · omega
      · unfold dayOf
        dsimp only
        rw [if_neg (by omega)]
        omega

@[simp] theorem length_padded (width n : Nat) : (padded width n).length = width := by
  rw [padded, List.length_map, length_toDigits]

theorem digitByte_spec {digit : Nat} (small : digit < 10) :
    isDigit (digitByte digit) = true ∧ (digitByte digit).toNat - 48 = digit := by
  have all : ∀ digit < 10,
      isDigit (digitByte digit) = true ∧ (digitByte digit).toNat - 48 = digit := by decide
  exact all digit small

theorem readDecimal_digits {numbers : List Nat} (small : ∀ digit ∈ numbers, digit < 10) :
    (numbers.map digitByte).all isDigit = true ∧
      readDecimal (numbers.map digitByte) = ofDigits 10 numbers := by
  constructor
  · rw [List.all_map, List.all_eq_true]
    intro digit member
    exact (digitByte_spec (small digit member)).1
  · have same : numbers.map ((fun byte : UInt8 => byte.toNat - 48) ∘ digitByte) = numbers := by
      refine (List.map_congr_left ?_).trans (List.map_id _)
      intro digit member
      exact (digitByte_spec (small digit member)).2
    rw [readDecimal, List.map_map, same]

theorem digits_padded {width n : Nat} (bound : n < 10 ^ width) (rest : List UInt8) :
    digits width (padded width n ++ rest) = some (n, rest) := by
  have small := toDigits_lt (by decide : 0 < 10) width n
  have read := readDecimal_digits small
  have number : (padded width n ++ rest).take width = padded width n := by
    rw [List.take_left' (length_padded width n)]
  have after : (padded width n ++ rest).drop width = rest := by
    rw [List.drop_left' (length_padded width n)]
  unfold digits
  dsimp only
  rw [number, after, if_pos ⟨length_padded width n, read.1⟩, padded, read.2, ofDigits_toDigits,
    Nat.mod_eq_of_lt bound]

@[simp] theorem mark_cons (byte : UInt8) (rest : List UInt8) :
    mark byte (byte :: rest) = some rest := by
  simp [mark]

/-- Nothing that a fraction could go on with. -/
def Ends (rest : List UInt8) : Prop :=
  ∃ byte more, rest = byte :: more ∧ isDigit byte = false ∧ byte ≠ 46 ∧ byte ≠ 44

theorem ends_zoneText (zone : Int) : Ends (zoneText zone) := by
  unfold zoneText
  split
  · exact ⟨90, [], rfl, by decide, by decide, by decide⟩
  · split
    · exact ⟨45, _, rfl, by decide, by decide, by decide⟩
    · exact ⟨43, _, rfl, by decide, by decide, by decide⟩

/-- The digits that are left out are zeros. -/
theorem trimmed_spec (nanos : Nat) :
    ∃ k, (toDigits 10 9 nanos).rdropWhile (· == 0) ++ List.replicate k 0 = toDigits 10 9 nanos ∧
      ((toDigits 10 9 nanos).rdropWhile (· == 0)).length + k = 9 ∧
      ∀ digit ∈ (toDigits 10 9 nanos).rdropWhile (· == 0), digit < 10 := by
  have zeros : (toDigits 10 9 nanos).rtakeWhile (· == 0) =
      List.replicate ((toDigits 10 9 nanos).rtakeWhile (· == 0)).length 0 := by
    apply List.eq_replicate_of_mem
    intro digit member
    simpa using List.mem_rtakeWhile_imp member
  have whole : (toDigits 10 9 nanos).rdropWhile (· == 0) ++
      (toDigits 10 9 nanos).rtakeWhile (· == 0) = toDigits 10 9 nanos :=
    List.rdropWhile_append_rtakeWhile
  have length := congrArg List.length whole
  rw [List.length_append, length_toDigits] at length
  refine ⟨((toDigits 10 9 nanos).rtakeWhile (· == 0)).length, ?_, length, ?_⟩
  · rw [← zeros]
    exact whole
  · intro digit member
    exact toDigits_lt (by decide : 0 < 10) 9 nanos digit (whole ▸ List.mem_append_left _ member)

theorem fraction_text {nanos : Nat} (bound : nanos < second) {rest : List UInt8}
    (ends : Ends rest) : fraction (fractionText nanos ++ rest) = (nanos, rest) := by
  obtain ⟨byte, more, starts, digit, point, comma⟩ := ends
  obtain ⟨k, whole, length, kept⟩ := trimmed_spec nanos
  have value : ofDigits 10 (toDigits 10 9 nanos) = nanos := by
    rw [ofDigits_toDigits]
    exact Nat.mod_eq_of_lt bound
  have small := toDigits_lt (by decide : 0 < 10) 9 nanos
  unfold fractionText
  dsimp only
  generalize (toDigits 10 9 nanos).rdropWhile (· == 0) = number at whole length kept ⊢
  by_cases none : number = []
  · have zero : nanos = 0 := by
      rw [← value, ← whole, none, List.nil_append, ← ofDigits_dropWhile]
      simp [ofDigits]
    rw [if_pos none, List.nil_append, starts, zero]
    simp [fraction, point, comma]
  · have read := readDecimal_digits kept
    have all : ∀ byte ∈ number.map digitByte, isDigit byte = true := List.all_eq_true.mp read.1
    have taken : (number.map digitByte ++ rest).takeWhile isDigit = number.map digitByte := by
      rw [List.takeWhile_append_of_pos all, starts, List.takeWhile_cons, digit]
      simp
    have after : (number.map digitByte ++ rest).dropWhile isDigit = rest := by
      rw [List.dropWhile_append_of_pos all, starts, List.dropWhile_cons, digit]
      simp
    have nine : (number.map digitByte ++ List.replicate 9 48).take 9 =
        (toDigits 10 9 nanos).map digitByte := by
      rw [List.take_append, List.take_of_length_le (by rw [List.length_map]; omega),
        List.length_map, List.take_replicate, ← whole, List.map_append, List.map_replicate]
      have rest : min (9 - number.length) 9 = k := by omega
      rw [rest]
      rfl
    rw [if_neg none, List.cons_append]
    simp only [fraction, List.head?_cons, List.tail_cons, taken, after, nine,
      (readDecimal_digits small).2, value]
    rw [if_pos]
    refine ⟨Or.inl trivial, ?_⟩
    intro empty
    exact none (List.map_eq_nil_iff.mp empty)

theorem zone_signed {sign : UInt8} (signed : sign ≠ 90) {minutes : Nat} (bound : minutes < 1440) :
    zone (sign :: (padded 2 (minutes / 60) ++ 58 :: padded 2 (minutes % 60))) =
      if sign = 43 then some (minutes : Int) else if sign = 45 then some (-minutes) else none := by
  have hours := digits_padded (show minutes / 60 < 10 ^ 2 by omega)
    (58 :: padded 2 (minutes % 60))
  have rest := digits_padded (show minutes % 60 < 10 ^ 2 by omega) []
  rw [List.append_nil] at rest
  have whole : ((minutes / 60 : Nat) : Int) * 60 + ((minutes % 60 : Nat) : Int) = minutes := by
    omega
  have range : ¬ (([] : List UInt8) ≠ [] ∨ 24 < minutes / 60 ∨ 60 < minutes % 60) := by
    rintro (some | many)
    · exact some rfl
    · omega
  have long : sign :: (padded 2 (minutes / 60) ++ 58 :: padded 2 (minutes % 60)) ≠ [90] := by
    intro same
    exact signed (List.cons.inj same).1
  unfold zone
  rw [if_neg long]
  simp only [List.tail_cons, List.head?_cons, Option.bind_eq_bind, hours, Option.bind_some,
    mark_cons, rest, if_neg range, whole, Option.some.injEq]

theorem zone_text {offset : Int} (bound : offset.natAbs < 1440) :
    zone (zoneText offset) = some offset := by
  unfold zoneText
  by_cases none : offset = 0
  · rw [if_pos none, none]
    rfl
  · rw [if_neg none]
    by_cases west : offset < 0
    · rw [if_pos west, zone_signed (by decide) bound, if_neg (by decide), if_pos rfl,
        Option.some.injEq]
      omega
    · rw [if_neg west, zone_signed (by decide) bound, if_pos rfl, Option.some.injEq]
      omega

theorem parse_write {offset time : Int} {text : List UInt8}
    (written : write offset time = some text) : parse text = some time := by
  unfold write at written
  dsimp only at written
  split at written
  · cases written
  · rename_i shown
    rw [not_or, not_or] at shown
    obtain ⟨valid, days⟩ := dateOf_spec (Int.not_lt.mp shown.1)
    have whole := Int.mul_ediv_add_emod (time + offset * minute) day
    have clock : (((time + offset * minute) % day).toNat : Int) =
        (time + offset * minute) % day := by
      unfold day hour minute second
      omega
    have short : ((time + offset * minute) % day).toNat < day := by
      unfold day hour minute second
      omega
    rw [← clock] at whole
    generalize ((time + offset * minute) % day).toNat = nanos at *
    generalize dateOf ((time + offset * minute) / day) = date at *
    obtain ⟨month, last⟩ := valid
    have long := (Gregorian.monthLength_bounds date.1 (date.2.1 - 1)).2
    have hours : nanos / hour < 24 := by
      unfold hour minute second
      unfold day hour minute second at short
      omega
    have parts : (nanos / hour * hour + nanos / minute % 60 * minute +
        nanos / second % 60 * second + nanos % second : Nat) = nanos := by
      unfold hour minute second
      omega
    obtain rfl := Option.some.inj written
    unfold parse
    simp only [Option.bind_eq_bind, Option.bind_some, mark_cons, Option.some_or,
      digits_padded (show date.1 < 10 ^ 4 by omega),
      digits_padded (show date.2.1 < 10 ^ 2 by omega),
      digits_padded (show date.2.2 < 10 ^ 2 by omega),
      digits_padded (show nanos / hour < 10 ^ 2 by omega),
      digits_padded (show nanos / minute % 60 < 10 ^ 2 by omega),
      digits_padded (show nanos / second % 60 < 10 ^ 2 by omega),
      fraction_text (Nat.mod_lt nanos (by decide : 0 < second)) (ends_zoneText offset),
      zone_text (Nat.not_le.mp shown.2.2)]
    rw [if_pos]
    · have same : dayOf (date.1, date.2.1, date.2.2) = (time + offset * minute) / day := days
      have sum : ((nanos / hour : Nat) : Int) * hour +
          ((nanos / minute % 60 : Nat) : Int) * minute +
          ((nanos / second % 60 : Nat) : Int) * second + ((nanos % second : Nat) : Int) =
            nanos := by
        exact_mod_cast parts
      rw [same, Option.some.injEq, mul_comm]
      omega
    · exact ⟨⟨month, last⟩, hours, Nat.mod_lt _ (by decide), Nat.mod_lt _ (by decide)⟩

/-! ### Which times have a text, and how long it is -/

theorem dateOf_year {today : Int} {year : Nat} (positive : 0 < year)
    (before : today < Gregorian.monthStart (Gregorian.monthIndex year 1)) :
    (dateOf today).1 < year := by
  unfold dateOf
  split
  · exact positive
  · split
    · exact positive
    · obtain ⟨_, _, starts, first, _⟩ := Gregorian.date_spec today.toNat
      by_contra late
      have order : Gregorian.monthIndex year 1 ≤ Gregorian.monthIndex
          (Gregorian.date today.toNat).1 (Gregorian.date today.toNat).2.1 := by
        unfold Gregorian.monthIndex
        omega
      have months := Gregorian.monthStart_mono
        (show 2 ≤ Gregorian.monthIndex year 1 by unfold Gregorian.monthIndex; omega) order
      omega

/-- Times from the first day on, up to the end of year 9998 in any zone. -/
theorem write_some {zone time : Int} (inZone : zone.natAbs < 1440) (early : day ≤ time)
    (late : time < Gregorian.monthStart (Gregorian.monthIndex 9999 1) * day) :
    ∃ text, write zone time = some text := by
  have shown : 0 ≤ (time + zone * minute) / day ∧
      (time + zone * minute) / day < Gregorian.monthStart (Gregorian.monthIndex 10000 1) := by
    have year : Gregorian.monthStart (Gregorian.monthIndex 9999 1) + 1 <
        Gregorian.monthStart (Gregorian.monthIndex 10000 1) := by decide
    constructor
    · unfold day hour minute second at *
      omega
    · apply Int.ediv_lt_of_lt_mul (by decide)
      have room := Int.mul_le_mul_of_nonneg_right
        (show (Gregorian.monthStart (Gregorian.monthIndex 9999 1) : Int) + 1 ≤
          Gregorian.monthStart (Gregorian.monthIndex 10000 1) by omega)
        (show (0 : Int) ≤ day by decide)
      unfold day hour minute second at *
      omega
  have year := dateOf_year (by decide) shown.2
  unfold write
  dsimp only
  rw [if_neg]
  · exact ⟨_, rfl⟩
  · rw [not_or, not_or]
    exact ⟨by omega, by omega, by omega⟩

def isTimeByte (byte : UInt8) : Bool :=
  isDigit byte || [45, 84, 58, 46, 90, 43].contains byte

theorem all_digits {numbers : List UInt8} (digits : numbers.all isDigit = true) :
    numbers.all isTimeByte = true := by
  rw [List.all_eq_true] at digits ⊢
  intro byte member
  rw [isTimeByte, digits byte member, Bool.true_or]

theorem padded_bytes (width n : Nat) : (padded width n).all isTimeByte = true :=
  all_digits (readDecimal_digits (toDigits_lt (by decide) width n)).1

theorem fraction_bytes (nanos : Nat) :
    (fractionText nanos).all isTimeByte = true ∧ (fractionText nanos).length ≤ 10 := by
  obtain ⟨k, _, length, kept⟩ := trimmed_spec nanos
  unfold fractionText
  dsimp only
  split
  · exact ⟨rfl, Nat.zero_le 10⟩
  · constructor
    · rw [List.all_cons, all_digits (readDecimal_digits kept).1]
      decide
    · rw [List.length_cons, List.length_map]
      omega

theorem zone_bytes (zone : Int) :
    (zoneText zone).all isTimeByte = true ∧ (zoneText zone).length ≤ 6 := by
  unfold zoneText
  split
  · decide
  · constructor
    · rw [List.all_cons, List.all_append, List.all_cons, padded_bytes, padded_bytes]
      split
      · decide
      · decide
    · simp

theorem write_bytes {zone time : Int} {text : List UInt8} (written : write zone time = some text) :
    text.all isTimeByte = true ∧ text.length ≤ 35 := by
  unfold write at written
  dsimp only at written
  split at written
  · cases written
  · obtain rfl := Option.some.inj written
    have fraction := fraction_bytes (((time + zone * minute) % day).toNat % second)
    have offset := zone_bytes zone
    constructor
    · simp only [List.all_append, List.all_cons, padded_bytes, fraction.1, offset.1]
      decide
    · simp only [List.length_append, List.length_cons, length_padded]
      omega

end Library.Rfc3339
