import Mathlib.Data.Nat.Notation
import Mathlib.Order.Monotone.Basic
import Mathlib.Tactic.IntervalCases

set_option autoImplicit false

namespace Library.Gregorian

/-! The proleptic Gregorian calendar from 1 March of year 0 on. Days are counted
from there, and months from January of year 0. Years that begin in March have
their leap day last. -/

/-! ### Years and months -/

def IsLeap (year : Nat) : Prop := year % 4 = 0 ∧ (year % 100 ≠ 0 ∨ year % 400 = 0)

instance (year : Nat) : Decidable (IsLeap year) := inferInstanceAs (Decidable (_ ∧ _))

/-- The days of a month; months are counted from 0. -/
def monthLength (year month : Nat) : Nat :=
  match month with
  | 1 => if IsLeap year then 29 else 28
  | 3 | 5 | 8 | 10 => 30
  | _ => 31

/-- The first day of a year that begins in March. -/
def yearStart (year : Nat) : Nat := 365 * year + year / 4 - year / 100 + year / 400

/-- The first day of a month, of those from March on, in its year. -/
def monthOffset (month : Nat) : Nat := (153 * month + 2) / 5

/-- The first day of a month, by its number from January of year 0. -/
def monthStart (index : Nat) : Nat :=
  yearStart ((index - 2) / 12) + monthOffset ((index - 2) % 12)

theorem yearStart_succ (year : Nat) :
    yearStart (year + 1) = yearStart year + if IsLeap (year + 1) then 366 else 365 := by
  have fours := Nat.succ_div (a := year) (b := 4)
  have hundreds := Nat.succ_div (a := year) (b := 100)
  have cycles := Nat.succ_div (a := year) (b := 400)
  have fewer : year / 100 ≤ 365 * year + year / 4 := by omega
  unfold yearStart
  rw [fours, hundreds, cycles]
  simp only [IsLeap, Nat.dvd_iff_mod_eq_zero]
  generalize year / 4 = q at fewer ⊢
  generalize year / 100 = h at fewer ⊢
  generalize year / 400 = c
  by_cases cycle : (year + 1) % 400 = 0
  · have hundred : (year + 1) % 100 = 0 := by omega
    have four : (year + 1) % 4 = 0 := by omega
    simp only [cycle, hundred, four, if_true, or_true, and_self]
    omega
  · by_cases hundred : (year + 1) % 100 = 0
    · have four : (year + 1) % 4 = 0 := by omega
      simp only [cycle, hundred, four, if_true, if_false, or_false, not_true, ne_eq, and_false]
      omega
    · by_cases four : (year + 1) % 4 = 0
      · simp only [cycle, hundred, four, if_true, if_false, or_false, not_false_iff, ne_eq,
          and_true]
        omega
      · simp only [cycle, hundred, four, if_false, false_and]
        omega

/-- A month within a year that begins in March is as long as the calendar's. -/
theorem monthOffset_succ {month : Nat} (within : month < 11) (year : Nat) :
    monthOffset (month + 1) = monthOffset month + monthLength year ((month + 2) % 12) := by
  interval_cases month <;> rfl

/-- Each month starts where the one before it ends. -/
theorem monthStart_succ {index : Nat} (from_march : 2 ≤ index) :
    monthStart (index + 1) = monthStart index + monthLength (index / 12) (index % 12) := by
  obtain ⟨y, m, march, bound⟩ : ∃ y m, index = 12 * y + m + 2 ∧ m < 12 :=
    ⟨(index - 2) / 12, (index - 2) % 12, by omega, Nat.mod_lt _ (by omega)⟩
  have here : (index - 2) / 12 = y ∧ (index - 2) % 12 = m := by omega
  unfold monthStart
  rw [here.1, here.2]
  by_cases last : m = 11
  · have next : (index + 1 - 2) / 12 = y + 1 ∧ (index + 1 - 2) % 12 = 0 := by omega
    have february : index / 12 = y + 1 ∧ index % 12 = 1 := by omega
    rw [next.1, next.2, february.1, february.2, yearStart_succ, last]
    simp only [monthOffset, monthLength]
    split <;> omega
  · have next : (index + 1 - 2) / 12 = y ∧ (index + 1 - 2) % 12 = m + 1 := by omega
    have calendar : index % 12 = (m + 2) % 12 := by omega
    rw [next.1, next.2, calendar, monthOffset_succ (by omega) (index / 12), Nat.add_assoc]

theorem monthLength_bounds (year month : Nat) :
    28 ≤ monthLength year month ∧ monthLength year month ≤ 31 := by
  unfold monthLength
  split
  · split <;> omega
  · omega
  · omega
  · omega
  · omega
  · omega

theorem monthStart_lt {index : Nat} (from_march : 2 ≤ index) :
    monthStart index + 28 ≤ monthStart (index + 1) := by
  have := (monthLength_bounds (index / 12) (index % 12)).1
  rw [monthStart_succ from_march]
  omega

theorem monthStart_mono {first second : Nat} (from_march : 2 ≤ first) (order : first ≤ second) :
    monthStart first ≤ monthStart second := by
  induction second, order using Nat.le_induction with
  | base => exact Nat.le_refl _
  | succ index reached ih =>
      have := monthStart_lt (Nat.le_trans from_march reached)
      omega

/-! ### The date of a day -/

/-- The year of a day of a cycle of 400, counted from its start. -/
def yearOfCycle (day : Nat) : Nat := (day - day / 1460 + day / 36524 - day / 146096) / 365

/-- The year, the month from 1 and the day of a day. -/
def date (day : Nat) : Nat × Nat × Nat :=
  let era := day / 146097
  let doe := day % 146097
  let yoe := yearOfCycle doe
  let doy := doe - (365 * yoe + yoe / 4 - yoe / 100)
  let mp := (5 * doy + 2) / 153
  let month := if mp < 10 then mp + 3 else mp - 9
  (yoe + era * 400 + (if month ≤ 2 then 1 else 0), month, doy - (153 * mp + 2) / 5 + 1)

theorem yearOfCycle_mono {first second : Nat} (order : first ≤ second) (within : second < 146097) :
    yearOfCycle first ≤ yearOfCycle second := by
  refine Nat.div_le_div_right ?_
  induction second, order using Nat.le_induction with
  | base => exact Nat.le_refl _
  | succ day reached ih =>
      have := ih (by omega)
      omega

set_option maxRecDepth 4000 in
/-- The first and the last day of each year of a cycle are in it. -/
theorem yearOfCycle_ends : ∀ year < 400,
    yearOfCycle (yearStart year) = year ∧ yearOfCycle (yearStart (year + 1) - 1) = year := by
  decide

/-- A day is in the year that has begun and not ended. -/
theorem yearOfCycle_spec {day : Nat} (within : day < 146097) :
    yearOfCycle day < 400 ∧ yearStart (yearOfCycle day) ≤ day ∧
      day < yearStart (yearOfCycle day + 1) := by
  have bound : yearOfCycle day ≤ 399 :=
    @yearOfCycle_mono _ 146096 (by omega) (by omega)
  generalize current : yearOfCycle day = year at bound ⊢
  have inside : ∀ other ≤ 399, yearStart other < 146097 := by
    intro other few
    unfold yearStart
    omega
  refine ⟨by omega, ?_, ?_⟩
  · by_contra early
    cases year with
    | zero => exact early (Nat.zero_le day)
    | succ last =>
        -- the day would be in the year before
        have ends := (yearOfCycle_ends last (by omega)).2
        have := inside (last + 1) bound
        have before := @yearOfCycle_mono day (yearStart (last + 1) - 1)
          (by omega) (by omega)
        omega
  · by_contra late
    by_cases last : year = 399
    · subst last
      exact late within
    · have starts := (yearOfCycle_ends (year + 1) (by omega)).1
      have after := @yearOfCycle_mono (yearStart (year + 1)) day
        (by omega) within
      omega

/-- The month of a day of a year that begins in March. -/
theorem monthOffset_spec {day : Nat} (within : day < 366) :
    (5 * day + 2) / 153 < 12 ∧ monthOffset ((5 * day + 2) / 153) ≤ day ∧
      day < monthOffset ((5 * day + 2) / 153 + 1) := by
  unfold monthOffset
  omega

theorem yearStart_cycles (year era : Nat) :
    yearStart (year + era * 400) = yearStart year + era * 146097 := by
  unfold yearStart
  omega

/-- The number of a month, from January of year 0. -/
def monthIndex (year month : Nat) : Nat := year * 12 + (month - 1)

/-- A month of a year that begins in March, by its number. -/
theorem monthStart_of_year (year : Nat) {month : Nat} (within : month < 12) :
    monthStart (12 * year + month + 2) = yearStart year + monthOffset month := by
  have here : (12 * year + month + 2 - 2) / 12 = year ∧
      (12 * year + month + 2 - 2) % 12 = month := by
    omega
  unfold monthStart
  rw [here.1, here.2]

/-- The next month is of the same year, or the first of the next. -/
theorem monthStart_of_year_succ (year : Nat) {month : Nat} (within : month < 12) {day : Nat}
    (inYear : yearStart year + day < yearStart (year + 1))
    (inMonth : day < monthOffset (month + 1)) :
    yearStart year + day < monthStart (12 * year + month + 3) := by
  by_cases last : month = 11
  · have next := @monthStart_of_year (year + 1) 0 (by omega)
    have same : 12 * (year + 1) + 0 + 2 = 12 * year + month + 3 := by omega
    rw [same] at next
    rw [next]
    exact Nat.lt_of_lt_of_le inYear (Nat.le_add_right _ _)
  · have next := @monthStart_of_year year (month + 1) (by omega)
    have same : 12 * year + (month + 1) + 2 = 12 * year + month + 3 := by omega
    rw [same] at next
    rw [next]
    omega

/-- The date of a day is in the month that has begun and not ended. -/
theorem date_spec (day : Nat) :
    (1 ≤ (date day).2.1 ∧ (date day).2.1 ≤ 12) ∧ 2 ≤ monthIndex (date day).1 (date day).2.1 ∧
      monthStart (monthIndex (date day).1 (date day).2.1) + (date day).2.2 = day + 1 ∧
      1 ≤ (date day).2.2 ∧ day < monthStart (monthIndex (date day).1 (date day).2.1 + 1) := by
  obtain ⟨bound, begun, unfinished⟩ := yearOfCycle_spec (Nat.mod_lt day (by omega : 0 < 146097))
  have cycles := Nat.div_add_mod day 146097
  unfold date
  dsimp only
  generalize day / 146097 = era at cycles ⊢
  generalize day % 146097 = doe at bound begun unfinished cycles ⊢
  generalize yearOfCycle doe = yoe at bound begun unfinished ⊢
  have plain : 365 * yoe + yoe / 4 - yoe / 100 = yearStart yoe := by
    unfold yearStart
    omega
  have long := yearStart_succ yoe
  rw [plain]
  have short : doe - yearStart yoe < 366 := by
    split at long <;> omega
  obtain ⟨months, started, unended⟩ := monthOffset_spec short
  have offset : (153 * ((5 * (doe - yearStart yoe) + 2) / 153) + 2) / 5 =
      monthOffset ((5 * (doe - yearStart yoe) + 2) / 153) := rfl
  rw [offset]
  generalize (5 * (doe - yearStart yoe) + 2) / 153 = mp at months started unended ⊢
  have index : monthIndex
      (yoe + era * 400 + if (if mp < 10 then mp + 3 else mp - 9) ≤ 2 then 1 else 0)
      (if mp < 10 then mp + 3 else mp - 9) = 12 * (yoe + era * 400) + mp + 2 := by
    unfold monthIndex
    split <;> split <;> omega
  rw [index, monthStart_of_year _ months, yearStart_cycles]
  have next := @monthStart_of_year_succ (yoe + era * 400) _ months (doe - yearStart yoe) ?_
    unended
  · rw [yearStart_cycles] at next
    refine ⟨?_, by omega, by omega, by omega, ?_⟩
    · split <;> omega
    · change day < monthStart (12 * (yoe + era * 400) + mp + 3)
      omega
  · have later := yearStart_cycles (yoe + 1) era
    have same : yoe + era * 400 + 1 = yoe + 1 + era * 400 := by omega
    rw [same, later, yearStart_cycles]
    omega

end Library.Gregorian
