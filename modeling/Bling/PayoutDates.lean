import Bling.Payouts
import Bling.Library.Gregorian

set_option autoImplicit false

namespace Bling

open Library

/-! When a payout period turns over, in `payouts.ts` and in `balance/service.go`. -/

def dayMs : Int := 86400000

/-- A day of a month as an instant in milliseconds from 1970; months are counted
from January of year 0. -/
def instant (index : Int) (day : Nat) : Int :=
  (Gregorian.monthStart index.toNat + (day - 1) - 719468) * dayMs

/-- The UTC date of an instant. -/
def dateOf (t : Int) : Nat × Nat × Nat := Gregorian.date (t / dayMs + 719468).toNat

theorem utcDate_eq (now : Time) : utcDate now = dateOf now := by
  have same : ((now : Int) / dayMs + 719468).toNat = now / 86400000 + 719468 := by
    unfold dayMs
    omega
  unfold dateOf
  rw [same]
  rfl

/-- `Date.UTC`; its months are counted from 0 and carried over the year. -/
def dateUTC (year : Nat) (month : Int) (day : Nat) : Int := instant (year * 12 + month) day

def nextPayoutAt (now : Time) (day : Nat) : Int :=
  let (year, month, _) := utcDate now
  let getUTCMonth : Int := month - 1
  let candidate := dateUTC year getUTCMonth day
  if candidate ≤ now then dateUTC year (getUTCMonth + 1) day else candidate

namespace Api

/-- `time.Date` at midnight; its months are counted from 1 and carried too. -/
def date (year : Nat) (month : Int) (day : Nat) : Int := instant (year * 12 + (month - 1)) day

/-- `AddDate(0, months, 0)` -/
def addMonths (t : Int) (months : Int) : Int :=
  let (year, month, day) := dateOf t
  date year (month + months) day + t % dayMs

/-- The start and the end that `runDue` gives a run. -/
def runPeriod (now : Time) (payoutDay : Nat) : Int × Int :=
  let (year, month, _) := dateOf now
  let scheduled := date year month payoutDay
  let scheduled := if now < scheduled then addMonths scheduled (-1) else scheduled
  let (year, month, _) := dateOf scheduled
  let ends := date year month 1
  (addMonths ends (-1), ends)

def nextPayout (now : Time) (day : Nat) : Int :=
  let (year, month, _) := dateOf now
  let candidate := date year month day
  if ¬ now < candidate then addMonths candidate 1 else candidate

end Api

/-- The first instant of a month. -/
def Month.start (month : Month) : Int := dateUTC month.year (month.month - 1) 1

/-- The calendar month after. -/
def Month.next (month : Month) : Month :=
  if month.month = 12 then ⟨month.year + 1, 1⟩ else ⟨month.year, month.month + 1⟩

/-! ### Instants and months -/

/-- The number of the month of an instant. -/
def indexOf (t : Int) : Nat := Gregorian.monthIndex (dateOf t).1 (dateOf t).2.1

theorem instant_lt {index : Nat} (from_march : 2 ≤ index) {day : Nat} :
    instant index day + 28 * dayMs ≤ instant (index + 1) day := by
  have months := Gregorian.monthStart_lt from_march
  have next : ((index : Int) + 1).toNat = index + 1 := by omega
  unfold instant dayMs
  rw [next, Int.toNat_natCast]
  omega

theorem instant_mono {first second : Nat} (from_march : 2 ≤ first) (order : first ≤ second)
    (day : Nat) : instant first day ≤ instant second day := by
  have months := Gregorian.monthStart_mono from_march order
  unfold instant dayMs
  rw [Int.toNat_natCast, Int.toNat_natCast]
  omega

/-- An instant is in its month, on its day of the month. -/
theorem dateOf_spec {t : Int} (after : -719468 * dayMs ≤ t) :
    2 ≤ indexOf t ∧ (1 ≤ (dateOf t).2.1 ∧ (dateOf t).2.1 ≤ 12) ∧ 1 ≤ (dateOf t).2.2 ∧
      instant (indexOf t) (dateOf t).2.2 ≤ t ∧ t < instant (indexOf t) (dateOf t).2.2 + dayMs ∧
      t < instant (indexOf t + 1) 1 := by
  have spec := Gregorian.date_spec (t / dayMs + 719468).toNat
  have days : ((t / dayMs + 719468).toNat : Int) = t / dayMs + 719468 := by
    unfold dayMs at after ⊢
    omega
  unfold indexOf dateOf at *
  generalize Gregorian.date (t / dayMs + 719468).toNat = found at spec ⊢
  generalize Gregorian.monthIndex found.1 found.2.1 = index at spec ⊢
  generalize (t / dayMs + 719468).toNat = day at spec days
  have next : ((index : Int) + 1).toNat = index + 1 := by omega
  obtain ⟨month, from_march, same, positive, within⟩ := spec
  refine ⟨from_march, month, positive, ?_, ?_, ?_⟩
  · unfold instant dayMs at *
    rw [Int.toNat_natCast]
    omega
  · unfold instant dayMs at *
    rw [Int.toNat_natCast]
    omega
  · unfold instant dayMs at *
    rw [next]
    omega

theorem instant_day (index : Int) (day : Nat) :
    instant index day = instant index 1 + (day - 1) * dayMs := by
  unfold instant dayMs
  omega

/-- An instant is in one month only, whatever day the months are counted from. -/
theorem index_unique {t : Int} {day first second : Nat} (fromFirst : 2 ≤ first)
    (fromSecond : 2 ≤ second) (inFirst : instant first day ≤ t ∧ t < instant (first + 1) day)
    (inSecond : instant second day ≤ t ∧ t < instant (second + 1) day) : first = second := by
  rcases Nat.lt_trichotomy first second with before | same | after
  · have ends := instant_mono (Nat.le_succ_of_le fromFirst) before day
    rw [Nat.cast_succ] at ends
    omega
  · exact same
  · have ends := instant_mono (Nat.le_succ_of_le fromSecond) after day
    rw [Nat.cast_succ] at ends
    omega

/-- A day that every month has is read back as it was made. -/
theorem dateOf_instant {index day : Nat} (from_march : 2 ≤ index) (positive : 1 ≤ day)
    (every : day ≤ 28) :
    indexOf (instant index day) = index ∧ (dateOf (instant index day)).2.2 = day := by
  have after : -719468 * dayMs ≤ instant index day := by
    unfold instant dayMs
    omega
  obtain ⟨there, _, least, begun, ends, within⟩ := dateOf_spec after
  have step := @instant_lt index from_march 1
  have here := instant_day index day
  have dated := instant_day (indexOf (instant index day)) (dateOf (instant index day)).2.2
  have same : indexOf (instant index day) = index := by
    refine @index_unique (instant index day) 1 _ _ there from_march ⟨?_, within⟩ ⟨?_, ?_⟩
    · unfold dayMs at dated
      omega
    · unfold dayMs at here
      omega
    · unfold dayMs at here step
      omega
  refine ⟨same, ?_⟩
  rw [same] at begun ends dated
  unfold dayMs at here ends dated
  omega

theorem index_of_date {t : Int} (after : -719468 * dayMs ≤ t) :
    ((dateOf t).1 * 12 + ((dateOf t).2.1 - 1) : Int) = indexOf t := by
  obtain ⟨_, ⟨least, _⟩, _⟩ := dateOf_spec after
  unfold indexOf Gregorian.monthIndex
  omega

/-- The month of a reading of the clock is long after the calendar's first. -/
theorem indexOf_now (now : Time) : 4 ≤ indexOf now := by
  by_contra early
  have after : -719468 * dayMs ≤ (now : Int) := by
    unfold dayMs
    omega
  obtain ⟨there, _, _, _, _, within⟩ := dateOf_spec after
  have order := @instant_mono _ 23640 (Nat.le_succ_of_le there) (by omega) 1
  have epoch : instant (23640 : Nat) 1 = 0 := by decide
  rw [epoch, Nat.cast_succ] at order
  omega

/-! ### The month that is paid -/

/-- The number of the month that a period ends with. -/
def paidIndex (t : Int) (day : Nat) : Nat := indexOf t - if (dateOf t).2.2 < day then 1 else 0

theorem payoutPeriod_eq (now : Time) (day : Nat) :
    payoutPeriod now day = (.ofIndex (paidIndex now day - 1), .ofIndex (paidIndex now day)) := by
  unfold payoutPeriod
  rw [utcDate_eq]
  rfl

/-- A period lasts from its payout day to the next. -/
theorem paidIndex_spec {t : Int} (later : 3 ≤ indexOf t) (after : -719468 * dayMs ≤ t) {day : Nat}
    (positive : 1 ≤ day) (every : day ≤ 28) :
    2 ≤ paidIndex t day ∧ instant (paidIndex t day) day ≤ t ∧
      t < instant (paidIndex t day + 1) day := by
  obtain ⟨there, _, least, begun, ends, within⟩ := dateOf_spec after
  have dated := instant_day (indexOf t) (dateOf t).2.2
  unfold paidIndex
  split
  · rename_i before
    have step := @instant_lt (indexOf t - 1) (by omega) 1
    have back : ((indexOf t - 1 : Nat) : Int) + 1 = indexOf t := by omega
    have last := instant_day (indexOf t - 1 : Nat) day
    have here := instant_day (indexOf t) day
    rw [back] at step ⊢
    unfold dayMs at *
    refine ⟨by omega, ?_, ?_⟩
    · omega
    · omega
  · rename_i reached
    have here := instant_day (indexOf t) day
    have next := instant_day (indexOf t + 1) day
    rw [Nat.sub_zero]
    unfold dayMs at *
    refine ⟨there, ?_, ?_⟩
    · omega
    · omega

theorem paidIndex_now (now : Time) {day : Nat} (positive : 1 ≤ day) (every : day ≤ 28) :
    3 ≤ paidIndex now day ∧ instant (paidIndex now day) day ≤ now ∧
      now < instant (paidIndex now day + 1) day := by
  have late := indexOf_now now
  have after : -719468 * dayMs ≤ (now : Int) := by
    unfold dayMs
    omega
  obtain ⟨_, begun, unended⟩ := paidIndex_spec (by omega) after positive every
  refine ⟨?_, begun, unended⟩
  unfold paidIndex
  split <;> omega

/-- The payout day of the month has come. -/
theorem reached_iff {t : Int} (after : -719468 * dayMs ≤ t) (day : Nat) :
    instant (indexOf t) day ≤ t ↔ ¬ (dateOf t).2.2 < day := by
  obtain ⟨_, _, least, starts, ends, _⟩ := dateOf_spec after
  rw [instant_day] at starts ends
  rw [instant_day]
  generalize instant (indexOf t) 1 = first at starts ends
  unfold dayMs at starts ends ⊢
  omega

theorem now_after (now : Time) : -719468 * dayMs ≤ (now : Int) := by
  unfold dayMs
  omega

/-- The advertised date is the payout day after the period's. -/
theorem nextPayoutAt_eq (now : Time) (day : Nat) :
    nextPayoutAt now day = instant (paidIndex now day + 1) day := by
  have after := now_after now
  have late := indexOf_now now
  have index := index_of_date after
  have reached := reached_iff after day
  have carried : ((dateOf now).1 * 12 + ((dateOf now).2.1 - 1 + 1) : Int) = indexOf now + 1 := by
    omega
  unfold nextPayoutAt dateUTC paidIndex
  rw [utcDate_eq]
  dsimp only
  rw [index, carried]
  by_cases before : (dateOf now).2.2 < day
  · rw [if_neg (fun early => (reached.mp early) before), if_pos before]
    congr 1
    omega
  · rw [if_pos (reached.mpr before), if_neg before, Nat.sub_zero]

/-! ### The Go service's dates -/

theorem Api.date_of_index {t : Int} (after : -719468 * dayMs ≤ t) (day : Nat) :
    Api.date (dateOf t).1 (dateOf t).2.1 day = instant (indexOf t) day := by
  unfold Api.date
  rw [index_of_date after]

theorem instant_after (index : Int) {day : Nat} (positive : 1 ≤ day) :
    -719468 * dayMs ≤ instant index day := by
  unfold instant dayMs
  omega

/-- A day that every month has moves by whole months. -/
theorem Api.addMonths_instant {index day : Nat} (from_march : 2 ≤ index) (positive : 1 ≤ day)
    (every : day ≤ 28) (months : Int) :
    Api.addMonths (instant index day) months = instant (index + months) day := by
  obtain ⟨same, sameDay⟩ := dateOf_instant from_march positive every
  have read := index_of_date (instant_after index positive)
  have midnight : instant index day % dayMs = 0 := Int.mul_emod_left _ _
  have moved : ((dateOf (instant index day)).1 * 12 +
      ((dateOf (instant index day)).2.1 + months - 1) : Int) = index + months := by
    rw [same] at read
    omega
  unfold Api.addMonths Api.date
  dsimp only
  rw [moved, sameDay, midnight, Int.add_zero]

theorem Api.nextPayout_eq (now : Time) {day : Nat} (positive : 1 ≤ day) (every : day ≤ 28) :
    Api.nextPayout now day = instant (paidIndex now day + 1) day := by
  have after := now_after now
  have late := indexOf_now now
  have reached := reached_iff after day
  unfold Api.nextPayout paidIndex
  dsimp only
  rw [Api.date_of_index after, Api.addMonths_instant (by omega) positive every]
  by_cases before : (dateOf now).2.2 < day
  · rw [if_neg (fun early => (reached.mp (not_lt.mp early)) before), if_pos before]
    congr 1
    omega
  · rw [if_pos (not_lt.mpr (reached.mpr before)), if_neg before, Nat.sub_zero]

theorem Api.runPeriod_eq (now : Time) {day : Nat} (positive : 1 ≤ day) (every : day ≤ 28) :
    Api.runPeriod now day =
      (instant (paidIndex now day - 1 : Nat) 1, instant (paidIndex now day) 1) := by
  have after := now_after now
  have late := indexOf_now now
  have reached := reached_iff after day
  obtain ⟨paid, _, _⟩ := paidIndex_now now positive every
  have scheduled : (if (now : Int) < Api.date (dateOf now).1 (dateOf now).2.1 day then
      Api.addMonths (Api.date (dateOf now).1 (dateOf now).2.1 day) (-1)
      else Api.date (dateOf now).1 (dateOf now).2.1 day) = instant (paidIndex now day) day := by
    unfold paidIndex
    rw [Api.date_of_index after, Api.addMonths_instant (by omega) positive every]
    by_cases before : (dateOf now).2.2 < day
    · rw [if_pos (not_le.mp fun early => (reached.mp early) before), if_pos before]
      congr 1
      omega
    · rw [if_neg (not_lt.mpr (reached.mpr before)), if_neg before, Nat.sub_zero]
  have back : ((paidIndex now day : Int) + -1) = (paidIndex now day - 1 : Nat) := by omega
  unfold Api.runPeriod
  dsimp only
  rw [scheduled, Api.date_of_index (instant_after _ positive),
    (dateOf_instant (by omega) positive every).1,
    Api.addMonths_instant (by omega) (Nat.le_refl 1) (by omega), back]

/-! ### The turn of the period -/

theorem ofIndex_start (index : Nat) : (Month.ofIndex index).start = instant index 1 := by
  have same : ((index / 12 : Nat) * 12 + ((index % 12 + 1 : Nat) - 1) : Int) = index := by omega
  unfold Month.start Month.ofIndex dateUTC
  rw [same]

theorem ofIndex_next (index : Nat) : (Month.ofIndex index).next = Month.ofIndex (index + 1) := by
  unfold Month.next Month.ofIndex
  dsimp only
  split
  · rename_i december
    have year : (index + 1) / 12 = index / 12 + 1 := by omega
    have month : (index + 1) % 12 = 0 := by omega
    rw [year, month]
  · rename_i earlier
    have year : (index + 1) / 12 = index / 12 := by omega
    have month : (index + 1) % 12 = index % 12 + 1 := by omega
    rw [year, month]

/-- A month as `toISOString().slice(0, 10)` reads it off its first day. -/
def monthOf (t : Int) : Month := ⟨(dateOf t).1, (dateOf t).2.1⟩

theorem monthOf_instant {index : Nat} (from_march : 2 ≤ index) :
    monthOf (instant index 1) = Month.ofIndex index := by
  have after := instant_after index (Nat.le_refl 1)
  obtain ⟨_, month, _⟩ := dateOf_spec after
  have same := (dateOf_instant from_march (Nat.le_refl 1) (by omega)).1
  unfold indexOf Gregorian.monthIndex at same
  unfold monthOf Month.ofIndex
  congr 1
  · omega
  · omega

/-- The period is read off the instants that the source makes of its months. -/
theorem payoutPeriod_iso (now : Time) (payoutDay : Nat) :
    let year := (utcDate now).1
    let month : Int := (utcDate now).2.1 - 1 - if (utcDate now).2.2 < payoutDay then 1 else 0
    payoutPeriod now payoutDay =
      (monthOf (dateUTC year (month - 1) 1), monthOf (dateUTC year month 1)) := by
  have after := now_after now
  have late := indexOf_now now
  have read := index_of_date after
  have paid : 3 ≤ paidIndex now payoutDay := by
    unfold paidIndex
    split <;> omega
  have index : ((dateOf now).1 * 12 + ((dateOf now).2.1 - 1 -
      if (dateOf now).2.2 < payoutDay then 1 else 0) : Int) = paidIndex now payoutDay := by
    unfold paidIndex
    split <;> omega
  have before : ((dateOf now).1 * 12 + ((dateOf now).2.1 - 1 -
      (if (dateOf now).2.2 < payoutDay then 1 else 0) - 1) : Int) =
        (paidIndex now payoutDay - 1 : Nat) := by
    omega
  rw [payoutPeriod_eq, utcDate_eq]
  dsimp only
  unfold dateUTC
  rw [index, before, monthOf_instant (by omega), monthOf_instant (by omega)]

/-- The paid month is the one whose payout day has come and the next one's has not. -/
theorem paidIndex_unique (t : Time) {day index : Nat} (positive : 1 ≤ day) (every : day ≤ 28)
    (from_march : 2 ≤ index) (begun : instant index day ≤ t)
    (unended : t < instant (index + 1) day) : paidIndex t day = index := by
  obtain ⟨least, starts, ends⟩ := paidIndex_now t positive every
  exact index_unique (by omega) from_march ⟨starts, ends⟩ ⟨begun, unended⟩

/-- The period stays the same until the advertised date and then is the next
month's, periods are consecutive months, and the Go service's are the same. -/
theorem payout_period_turns (now : Time) (day : Nat) (positive : 1 ≤ day) (every : day ≤ 28) :
    (now < nextPayoutAt now day ∧
      ∀ t : Time, now ≤ t → t < nextPayoutAt now day →
        payoutPeriod t day = payoutPeriod now day) ∧
    (∀ t : Time, t = nextPayoutAt now day →
      (payoutPeriod t day).1 = (payoutPeriod now day).2 ∧
        (payoutPeriod t day).2 = (payoutPeriod now day).2.next) ∧
    (payoutPeriod now day).2 = (payoutPeriod now day).1.next ∧
    Api.runPeriod now day =
      ((payoutPeriod now day).1.start, (payoutPeriod now day).2.start) ∧
    Api.nextPayout now day = nextPayoutAt now day := by
  obtain ⟨least, begun, unended⟩ := paidIndex_now now positive every
  have next := nextPayoutAt_eq now day
  have later := @instant_lt (paidIndex now day + 1) (by omega) day
  refine ⟨⟨by rw [next]; exact unended, ?_⟩, ?_, ?_, ?_, ?_⟩
  · intro t from_now until_next
    rw [next] at until_next
    have reached : instant (paidIndex now day) day ≤ t :=
      le_trans begun (Int.ofNat_le.mpr from_now)
    have paid : paidIndex t day = paidIndex now day :=
      paidIndex_unique t positive every (by omega) reached until_next
    rw [payoutPeriod_eq, payoutPeriod_eq, paid]
  · intro t turn
    rw [next] at turn
    have paid : paidIndex t day = paidIndex now day + 1 := by
      refine paidIndex_unique t positive every (by omega) ?_ ?_
      · rw [Nat.cast_succ]
        omega
      · rw [Nat.cast_succ] at later ⊢
        unfold dayMs at later
        omega
    rw [payoutPeriod_eq, payoutPeriod_eq, paid, Nat.add_sub_cancel]
    exact ⟨rfl, (ofIndex_next _).symm⟩
  · rw [payoutPeriod_eq]
    dsimp only
    rw [ofIndex_next]
    congr 1
    omega
  · rw [payoutPeriod_eq, Api.runPeriod_eq now positive every, ofIndex_start, ofIndex_start]
  · rw [next, Api.nextPayout_eq now positive every]

/-- Paid on the 15th, the Ninth of October is in the period of August, until the
Fifteenth. -/
theorem payout_period_turns_october :
    Api.nextPayout 1791547200000 15 = 1792022400000 ∧
      ∀ t : Time, 1791547200000 ≤ t → (t : Int) < nextPayoutAt 1791547200000 15 →
        payoutPeriod t 15 = (⟨2026, 8⟩, ⟨2026, 9⟩) := by
  obtain ⟨⟨_, same⟩, _, _, _, _⟩ :=
    payout_period_turns 1791547200000 15 (by decide) (by decide)
  refine ⟨by decide, ?_⟩
  intro t from_now until_next
  rw [same t from_now until_next]
  decide

end Bling
