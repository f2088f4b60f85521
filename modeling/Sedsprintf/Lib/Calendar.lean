import Mathlib.Data.Int.Basic
import Mathlib.Tactic.IntervalCases

/-!
# The Gregorian calendar

Its rules are carried on without end in both directions. Day numbers count from the first of
January 1970; they and the dates determine each other, and the date of a number is reached from
there day after day.
-/
namespace Sedsprintf.Lib

/-- Every fourth year, of the full centuries every fourth. -/
def isLeap (year : Int) : Bool := year % 4 == 0 && (year % 100 != 0 || year % 400 == 0)

/-- The days of a month; there are none outside the months 1 to 12. -/
def monthLength (year : Int) (month : Nat) : Nat :=
  match month with
  | 2 => if isLeap year then 29 else 28
  | 4 | 6 | 9 | 11 => 30
  | 1 | 3 | 5 | 7 | 8 | 10 | 12 => 31
  | _ => 0

/-- A day of the calendar. -/
structure Date where
  year : Int
  month : Nat
  day : Nat
  day_pos : 1 ≤ day
  day_le : day ≤ monthLength year month
  deriving DecidableEq, Repr

def daysBeforeYear (year : Int) : Int :=
  365 * (year - 1) + (year - 1) / 4 - (year - 1) / 100 + (year - 1) / 400

def daysBeforeMonth (year : Int) (month : Nat) : Nat :=
  ((List.range month).map (monthLength year)).sum

/-- The days since the first of January 1970. A day past the end of its month is counted on
into the next one. -/
def dayNumber (year : Int) (month day : Nat) : Int :=
  daysBeforeYear year - daysBeforeYear 1970 + daysBeforeMonth year month + day - 1

def Date.number (date : Date) : Int := dayNumber date.year date.month date.day

section Counting
variable {year : Int} {month day : Nat}

theorem isLeap_iff :
    isLeap year = true ↔ year % 4 = 0 ∧ (year % 100 ≠ 0 ∨ year % 400 = 0) := by
  simp [isLeap]

theorem daysBeforeMonth_end (year : Int) :
    daysBeforeMonth year 13 = if isLeap year then 366 else 365 := by
  cases h : isLeap year with
  | false => simp [daysBeforeMonth, List.range_succ, monthLength, h]
  | true => simp [daysBeforeMonth, List.range_succ, monthLength, h]

/-- A year is as long as its months together. -/
theorem daysBeforeYear_succ (year : Int) :
    daysBeforeYear (year + 1) = daysBeforeYear year + daysBeforeMonth year 13 := by
  have hfour : year / 4 = (year - 1) / 4 + if year % 4 = 0 then 1 else 0 := by split <;> omega
  have hcentury : year / 100 = (year - 1) / 100 + if year % 100 = 0 then 1 else 0 := by
    split <;> omega
  have hcycle : year / 400 = (year - 1) / 400 + if year % 400 = 0 then 1 else 0 := by
    split <;> omega
  have hfull : year % 100 = 0 → year % 4 = 0 := by omega
  have hevery : year % 400 = 0 → year % 100 = 0 := by omega
  have hleap := @isLeap_iff year
  rw [daysBeforeMonth_end, daysBeforeYear, daysBeforeYear, add_sub_cancel_right, hfour, hcentury,
    hcycle]
  generalize year % 4 = four, year % 100 = century, year % 400 = cycle at *
  generalize (year - 1) / 4 = fours, (year - 1) / 100 = centuries, (year - 1) / 400 = cycles
  clear hfour hcentury hcycle
  by_cases h : isLeap year = true
  · have hdiv := hleap.mp h
    rw [if_pos h, if_pos hdiv.1]
    split <;> split <;> omega
  · have hdiv := mt hleap.mpr h
    rw [if_neg h]
    split <;> split <;> split <;> omega

/-- Days are only in the twelve months. -/
theorem month_of_day (hpos : 1 ≤ day) (hle : day ≤ monthLength year month) :
    1 ≤ month ∧ month ≤ 12 := by
  unfold monthLength at hle
  split at hle <;> omega

theorem monthLength_le (year : Int) (month : Nat) : monthLength year month ≤ 31 := by
  unfold monthLength
  split
  · split <;> omega
  all_goals omega

theorem Date.month_pos (date : Date) : 1 ≤ date.month :=
  (month_of_day date.day_pos date.day_le).1

theorem Date.month_le (date : Date) : date.month ≤ 12 :=
  (month_of_day date.day_pos date.day_le).2

theorem Date.day_le_31 (date : Date) : date.day ≤ 31 :=
  date.day_le.trans (monthLength_le _ _)

/-! Counted from March, the leap day is the last of its year, and the months begin at the same
days of every year. -/

/-- The year that began in March. -/
def marchYear (year : Int) (month : Nat) : Int := year - if month ≤ 2 then 1 else 0

/-- The months since March. -/
def marchMonth (month : Nat) : Int := month + if 2 < month then -3 else 9

/-- The days since the first of March in year 0. -/
def daysBeforeMarch (year : Int) : Int := 365 * year + year / 4 - year / 100 + year / 400

theorem daysBeforeMonth_march (hpos : 1 ≤ month) (hle : month ≤ 12) :
    (daysBeforeMonth year month : Int) = (153 * marchMonth month + 2) / 5 +
      if month ≤ 2 then -306 else if isLeap year then 60 else 59 := by
  cases h : isLeap year with
  | false =>
    interval_cases month <;> simp [daysBeforeMonth, List.range_succ, monthLength, marchMonth, h]
  | true =>
    interval_cases month <;> simp [daysBeforeMonth, List.range_succ, monthLength, marchMonth, h]

theorem daysBeforeMarch_eq (year : Int) : daysBeforeMarch year = daysBeforeYear (year + 1) := by
  rw [daysBeforeYear, add_sub_cancel_right, daysBeforeMarch]

theorem dayNumber_march (hpos : 1 ≤ month) (hle : month ≤ 12) (day : Nat) :
    dayNumber year month day = daysBeforeMarch (marchYear year month) +
      (153 * marchMonth month + 2) / 5 + day - 719469 := by
  have hepoch : daysBeforeYear 1970 = 719162 := by decide
  rw [dayNumber, daysBeforeMonth_march hpos hle, hepoch, marchYear, daysBeforeMarch_eq]
  split
  · rw [sub_add_cancel]
    omega
  · rw [sub_zero, daysBeforeYear_succ, daysBeforeMonth_end]
    split <;> omega

theorem daysBeforeMonth_succ (year : Int) (month : Nat) :
    daysBeforeMonth year (month + 1) = daysBeforeMonth year month + monthLength year month := by
  simp [daysBeforeMonth, List.range_succ]

theorem daysBeforeMonth_mono {month' : Nat} (h : month ≤ month') :
    daysBeforeMonth year month ≤ daysBeforeMonth year month' := by
  induction h with
  | refl => exact le_rfl
  | step _ ih =>
    rw [daysBeforeMonth_succ]
    omega

theorem daysBeforeYear_ge (h : 1 ≤ year) : 365 * (year - 1) ≤ daysBeforeYear year := by
  have hcentury : (year - 1) / 100 ≤ (year - 1) / 4 := by omega
  have hcycle : 0 ≤ (year - 1) / 400 := Int.ediv_nonneg (by omega) (by decide)
  unfold daysBeforeYear
  omega

theorem daysBeforeYear_mono {year' : Int} (h : year ≤ year') :
    daysBeforeYear year ≤ daysBeforeYear year' := by
  unfold daysBeforeYear
  omega

end Counting

section Numbers
variable {date date' : Date}

/-- A date lies within its month and its year. -/
theorem Date.lt_next (date : Date) :
    daysBeforeMonth date.year date.month + date.day ≤
        daysBeforeMonth date.year (date.month + 1) ∧
      daysBeforeMonth date.year (date.month + 1) ≤ daysBeforeMonth date.year 13 := by
  have hle := date.day_le
  have hmonth := date.month_le
  exact ⟨by rw [daysBeforeMonth_succ]; omega, daysBeforeMonth_mono (by omega)⟩

/-- The day numbers of a year. -/
theorem Date.number_bounds (date : Date) :
    daysBeforeYear date.year - daysBeforeYear 1970 ≤ date.number ∧
      date.number < daysBeforeYear (date.year + 1) - daysBeforeYear 1970 := by
  obtain ⟨hmonth, hyear⟩ := date.lt_next
  have hsucc := daysBeforeYear_succ date.year
  have hpos := date.day_pos
  unfold Date.number dayNumber
  omega

theorem Date.number_lt_of_year (h : date.year < date'.year) : date.number < date'.number := by
  have hmono := daysBeforeYear_mono (show date.year + 1 ≤ date'.year by omega)
  have hbefore := date.number_bounds.2
  have hbehind := date'.number_bounds.1
  omega

/-- Days from 1970 on are in years from 1970 on. -/
theorem Date.year_of_number_nonneg (h : 0 ≤ date.number) : 1970 ≤ date.year := by
  by_contra hyear
  have hmono := daysBeforeYear_mono (show date.year + 1 ≤ 1970 by omega)
  have hbefore := date.number_bounds.2
  omega

theorem Date.number_lt_of_month (hyear : date.year = date'.year) (h : date.month < date'.month) :
    date.number < date'.number := by
  obtain ⟨hmonth, -⟩ := date.lt_next
  have hmono := @daysBeforeMonth_mono date.year (date.month + 1) date'.month h
  have hpos := date'.day_pos
  unfold Date.number dayNumber
  rw [← hyear]
  omega

theorem Date.number_injective (h : date.number = date'.number) : date = date' := by
  have hyear : date.year = date'.year := by
    rcases lt_trichotomy date.year date'.year with hlt | heq | hlt
    · exact absurd h (number_lt_of_year hlt).ne
    · exact heq
    · exact absurd h (number_lt_of_year hlt).ne'
  have hmonth : date.month = date'.month := by
    rcases lt_trichotomy date.month date'.month with hlt | heq | hlt
    · exact absurd h (number_lt_of_month hyear hlt).ne
    · exact heq
    · exact absurd h (number_lt_of_month hyear.symm hlt).ne'
  obtain ⟨year, month, day, _, _⟩ := date
  obtain ⟨year', month', day', _, _⟩ := date'
  obtain rfl : year = year' := hyear
  obtain rfl : month = month' := hmonth
  obtain rfl : day = day' := by
    unfold Date.number dayNumber at h
    dsimp only at h
    omega
  rfl

end Numbers

/-! A cycle of 400 years has 146097 days; its last year and the last year of every fourth year
in it are a day longer than the others. -/

section Cycle
variable (day : Int)

/-- The year of the cycle that a day of the cycle falls into. -/
def yearOfCycle : Int := (day - day / 1460 + day / 36524 - day / 146096) / 365

def dayOfYear : Int := day - (365 * yearOfCycle day + yearOfCycle day / 4 - yearOfCycle day / 100)

/-- The centuries, the leap cycles and the years in front of a day of the cycle, and the days
since the first of March. -/
theorem exists_cycle_parts {day : Int} (hpos : 0 ≤ day) (hlt : day < 146097) :
    ∃ century four year rest : Int, (0 ≤ century ∧ century ≤ 3) ∧ (0 ≤ four ∧ four ≤ 24) ∧
      (0 ≤ year ∧ year ≤ 3) ∧ (0 ≤ rest ∧ rest ≤ 365) ∧
      (rest = 365 → year = 3 ∧ (four = 24 → century = 3)) ∧
      day = 36524 * century + 1461 * four + 365 * year + rest := by
  have hcentury : ∃ century, (0 ≤ century ∧ century ≤ 3) ∧ 36524 * century ≤ day ∧
      day - 36524 * century ≤ 36524 ∧ (day - 36524 * century = 36524 → century = 3) :=
    ⟨min (day / 36524) 3, by omega, by omega, by omega, by omega⟩
  obtain ⟨century, hcentury, hle, hle', hlast⟩ := hcentury
  obtain ⟨rest, hrest⟩ : ∃ rest, rest = day - 36524 * century := ⟨_, rfl⟩
  have hyear : ∃ year, (0 ≤ year ∧ year ≤ 3) ∧ 365 * year ≤ rest % 1461 ∧
      rest % 1461 - 365 * year ≤ 365 ∧ (rest % 1461 - 365 * year = 365 → year = 3) :=
    ⟨min (rest % 1461 / 365) 3, by omega, by omega, by omega, by omega⟩
  obtain ⟨year, hyear, hfrom, hto, hleap⟩ := hyear
  refine ⟨century, rest / 1461, year, rest % 1461 - 365 * year, hcentury, by omega, hyear,
    by omega, fun h => ⟨hleap h, fun _ => hlast (by omega)⟩, by omega⟩

theorem yearOfCycle_eq {century four year rest : Int} (hcentury : 0 ≤ century ∧ century ≤ 3)
    (hfour : 0 ≤ four ∧ four ≤ 24) (hyear : 0 ≤ year ∧ year ≤ 3) (hrest : 0 ≤ rest ∧ rest ≤ 365)
    (hleap : rest = 365 → year = 3 ∧ (four = 24 → century = 3)) :
    yearOfCycle (36524 * century + 1461 * four + 365 * year + rest) =
      100 * century + 4 * four + year := by
  have hcenturies : ∀ day, day = 36524 * century + 1461 * four + 365 * year + rest →
      day / 36524 - day / 146096 = century := by
    intro day hday
    by_cases hfull : rest = 365 ∧ four = 24
    · have hthird := (hleap hfull.1).2 hfull.2
      have hlow : day / 36524 = 4 := by omega
      have hhigh : day / 146096 = 1 := by omega
      omega
    · have hwithin : 1461 * four + 365 * year + rest < 36524 := by omega
      have hlow : day / 36524 = century := by omega
      have hhigh : day / 146096 = 0 := by omega
      omega
  have hcycles : ∀ day, day = 36524 * century + 1461 * four + 365 * year + rest →
      day / 1460 = 25 * century + four ∧ rest ≠ 365 ∨
        day / 1460 = 25 * century + four + 1 ∧ rest ≠ 0 := by
    intro day hday
    by_cases hlast : rest = 365
    · have hthird := (hleap hlast).1
      omega
    · omega
  unfold yearOfCycle
  generalize hday : 36524 * century + 1461 * four + 365 * year + rest = day at hcenturies hcycles ⊢
  specialize hcenturies day rfl
  rw [add_sub_assoc, hcenturies]
  clear hleap hcenturies
  rcases hcycles day rfl with ⟨hcycle, hrest'⟩ | ⟨hcycle, hrest'⟩ <;> rw [hcycle] <;> omega

theorem dayOfYear_eq {century four year rest : Int} (hcentury : 0 ≤ century ∧ century ≤ 3)
    (hfour : 0 ≤ four ∧ four ≤ 24) (hyear : 0 ≤ year ∧ year ≤ 3) (hrest : 0 ≤ rest ∧ rest ≤ 365)
    (hleap : rest = 365 → year = 3 ∧ (four = 24 → century = 3)) :
    dayOfYear (36524 * century + 1461 * four + 365 * year + rest) = rest := by
  rw [dayOfYear, yearOfCycle_eq hcentury hfour hyear hrest hleap]
  omega

/-- What a day of the cycle is in its year: the last day of a leap year, or one that every year
has. -/
theorem dayOfYear_bounds {day : Int} (hpos : 0 ≤ day) (hlt : day < 146097) (cycle : Int) :
    (0 ≤ yearOfCycle day ∧ yearOfCycle day < 400) ∧ (0 ≤ dayOfYear day ∧ dayOfYear day ≤ 365) ∧
      (dayOfYear day = 365 → isLeap (yearOfCycle day + 400 * cycle + 1) = true) ∧
      daysBeforeMarch (yearOfCycle day + 400 * cycle) + dayOfYear day = 146097 * cycle + day := by
  obtain ⟨century, four, year, rest, hcentury, hfour, hyear, hrest, hleap, rfl⟩ :=
    exists_cycle_parts hpos hlt
  rw [yearOfCycle_eq hcentury hfour hyear hrest hleap,
    dayOfYear_eq hcentury hfour hyear hrest hleap]
  refine ⟨by omega, hrest, fun hlast => ?_, ?_⟩
  · obtain ⟨hthird, hfull⟩ := hleap hlast
    rw [isLeap_iff]
    by_cases h : four = 24
    · have hlastCentury := hfull h
      omega
    · omega
  · have hfours : (100 * century + 4 * four + year + 400 * cycle) / 4 =
        25 * century + four + 100 * cycle := by omega
    have hcenturies : (100 * century + 4 * four + year + 400 * cycle) / 100 =
        century + 4 * cycle := by omega
    have hcycles : (100 * century + 4 * four + year + 400 * cycle) / 400 = cycle := by omega
    rw [daysBeforeMarch, hfours, hcenturies, hcycles]
    omega

end Cycle

section Inverse

/-- The months since March on a day of the year that began there. -/
def monthOfYear (day : Int) : Int := (5 * day + 2) / 153

/-- The day of that month, from 1. -/
def dayOfMonth (day : Int) : Int := day - (153 * monthOfYear day + 2) / 5 + 1

theorem monthOfYear_bounds {day : Int} (hpos : 0 ≤ day) (hle : day ≤ 365) :
    (0 ≤ monthOfYear day ∧ monthOfYear day ≤ 11) ∧ 1 ≤ dayOfMonth day := by
  unfold dayOfMonth monthOfYear
  omega

/-- The month in the year that begins in January. -/
def civilMonth (month : Int) : Int := month + if month < 10 then 3 else -9

/-- January and February belong to the year behind. -/
def civilYear (year month : Int) : Int := year + if month < 10 then 0 else 1

theorem dayOfMonth_le {day year : Int} (hpos : 0 ≤ day) (hle : day ≤ 365)
    (hleap : day = 365 → isLeap (year + 1) = true) :
    dayOfMonth day ≤
      monthLength (civilYear year (monthOfYear day)) (civilMonth (monthOfYear day)).toNat := by
  obtain ⟨⟨hfirst, hlast⟩, -⟩ := monthOfYear_bounds hpos hle
  have hmonth : (153 * monthOfYear day + 2) / 5 ≤ day ∧
      day < (153 * (monthOfYear day + 1) + 2) / 5 := by
    unfold monthOfYear
    omega
  unfold dayOfMonth
  generalize monthOfYear day = month at hfirst hlast hmonth ⊢
  by_cases hfebruary : month = 11
  · subst hfebruary
    have hlength : monthLength (civilYear year 11) (civilMonth 11).toNat =
        if isLeap (year + 1) then 29 else 28 := rfl
    rw [hlength]
    split
    · omega
    · rename_i hshort
      have hnot : day ≠ 365 := fun h => hshort (hleap h)
      omega
  · interval_cases month <;> simp [civilMonth, monthLength] <;> omega

/-- The year that began in the March in front of a day. -/
def marchYearOf (number : Int) : Int :=
  yearOfCycle ((number + 719468) % 146097) + 400 * ((number + 719468) / 146097)

/-- The day of that year, from 0. -/
def marchDayOf (number : Int) : Int := dayOfYear ((number + 719468) % 146097)

theorem marchDayOf_bounds (number : Int) :
    (0 ≤ marchDayOf number ∧ marchDayOf number ≤ 365) ∧
      (marchDayOf number = 365 → isLeap (marchYearOf number + 1) = true) ∧
      daysBeforeMarch (marchYearOf number) + marchDayOf number = number + 719468 := by
  obtain ⟨-, hday, hleap, hcount⟩ := @dayOfYear_bounds ((number + 719468) % 146097)
    (by omega) (by omega) ((number + 719468) / 146097)
  refine ⟨hday, hleap, ?_⟩
  unfold marchYearOf marchDayOf
  omega

/-- The date of a day number. -/
def Date.ofNumber (number : Int) : Date where
  year := civilYear (marchYearOf number) (monthOfYear (marchDayOf number))
  month := (civilMonth (monthOfYear (marchDayOf number))).toNat
  day := (dayOfMonth (marchDayOf number)).toNat
  day_pos := by
    obtain ⟨⟨hpos, hle⟩, -⟩ := marchDayOf_bounds number
    have hday := (monthOfYear_bounds hpos hle).2
    omega
  day_le := by
    obtain ⟨⟨hpos, hle⟩, hleap, -⟩ := marchDayOf_bounds number
    have hday := dayOfMonth_le hpos hle hleap
    omega

theorem Date.number_ofNumber (number : Int) : (Date.ofNumber number).number = number := by
  obtain ⟨⟨hpos, hle⟩, -, hcount⟩ := marchDayOf_bounds number
  obtain ⟨⟨hfirst, hlast⟩, hday⟩ := monthOfYear_bounds hpos hle
  rw [Date.number, dayNumber_march (Date.month_pos _) (Date.month_le _)]
  have hmonth : marchMonth (Date.ofNumber number).month = monthOfYear (marchDayOf number) := by
    unfold marchMonth Date.ofNumber civilMonth
    dsimp only
    omega
  have hyear : marchYear (Date.ofNumber number).year (Date.ofNumber number).month =
      marchYearOf number := by
    unfold marchYear Date.ofNumber civilYear civilMonth
    dsimp only
    omega
  have hrest : ((Date.ofNumber number).day : Int) = dayOfMonth (marchDayOf number) :=
    Int.toNat_of_nonneg (by omega)
  rw [hmonth, hyear, hrest, dayOfMonth]
  omega

theorem Date.ofNumber_number (date : Date) : Date.ofNumber date.number = date :=
  Date.number_injective (Date.number_ofNumber _)

end Inverse

section Succession

theorem monthLength_pos {year : Int} {month : Nat} (hpos : 1 ≤ month) (hle : month ≤ 12) :
    1 ≤ monthLength year month := by
  cases hleap : isLeap year with
  | false => interval_cases month <;> simp [monthLength, hleap]
  | true => interval_cases month <;> simp [monthLength, hleap]

/-- The day behind it: in the same month, in the next month or in the next year. -/
def Date.next (date : Date) : Date :=
  if h : date.day < monthLength date.year date.month then
    ⟨date.year, date.month, date.day + 1, by omega, h⟩
  else if h : date.month < 12 then
    ⟨date.year, date.month + 1, 1, le_rfl, monthLength_pos (by omega) h⟩
  else ⟨date.year + 1, 1, 1, le_rfl, monthLength_pos le_rfl (by omega)⟩

theorem Date.number_next (date : Date) : date.next.number = date.number + 1 := by
  have hday := date.day_le
  have hmonth := date.month_le
  unfold Date.next
  split
  · rw [Date.number, Date.number, dayNumber, dayNumber]
    dsimp only
    omega
  · have hlast : date.day = monthLength date.year date.month := by omega
    have hsucc := daysBeforeMonth_succ date.year date.month
    split
    · rw [Date.number, Date.number, dayNumber, dayNumber]
      dsimp only
      omega
    · have hdecember : date.month = 12 := by omega
      have hyear := daysBeforeYear_succ date.year
      have hfirst : daysBeforeMonth (date.year + 1) 1 = 0 := rfl
      rw [hdecember] at hlast hsucc
      rw [show 12 + 1 = 13 from rfl] at hsucc
      rw [Date.number, Date.number, dayNumber, dayNumber, hdecember]
      dsimp only
      omega

/-- The first of January 1970. -/
def Date.epoch : Date := ⟨1970, 1, 1, by decide, by decide⟩

/-- Day after day from 1970 on, as the lengths of the months say. -/
def Date.after (days : Nat) : Date := Date.next^[days] Date.epoch

theorem Date.number_after (days : Nat) : (Date.after days).number = days := by
  induction days with
  | zero => rfl
  | succ days ih =>
    rw [Date.after, Function.iterate_succ_apply', ← Date.after, Date.number_next, ih]
    rfl

theorem Date.ofNumber_eq_after (days : Nat) : Date.ofNumber days = Date.after days := by
  apply Date.number_injective
  rw [Date.number_ofNumber, Date.number_after]

end Succession
end Sedsprintf.Lib
