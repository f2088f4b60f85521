import Sedsprintf.TimeSync.NetworkTime

/-!
# Network time in the calendar

src/timesync.rs:173-292 and 546-573 against the Gregorian calendar. A date is counted into days
on `i32`, from March of the year 0 on; a day is looked up on `i64`.
-/
namespace Sedsprintf

open Lib

section Days

/-- The first day that `days_from_civil` has no `i32` for on the way. -/
def calendarEnd : Int := 2 ^ 31 - 719468

theorem Build.signed_of_unchecked {B : Build} (hB : B.overflowChecks = false) (bits : Nat)
    (operator : String) (x : Int) : B.signed bits operator x = .ok (asSigned bits x) := by
  unfold Build.signed
  split
  · rename_i hexact
    rw [hexact]
  · rw [hB]
    rfl

theorem asSigned_add (bits : Nat) (x y : Int) :
    asSigned bits (asSigned bits x + y) = asSigned bits (x + y) := Int.bmod_add_bmod

theorem asSigned_bounds {bits : Nat} (hbits : 0 < bits) (x : Int) :
    -2 ^ (bits - 1) ≤ asSigned bits x ∧ asSigned bits x < 2 ^ (bits - 1) := by
  obtain ⟨k, rfl⟩ : ∃ k, bits = k + 1 := ⟨bits - 1, by omega⟩
  have hpow : ((2 ^ (k + 1) : Nat) : Int) = 2 ^ k * 2 := by push_cast; ring
  have hpos : 0 < 2 ^ (k + 1) := Nat.two_pow_pos _
  have hlow := @Int.le_bmod x (2 ^ (k + 1)) hpos
  have hhigh := @Int.bmod_lt x (2 ^ (k + 1)) hpos
  rw [hpow] at hlow hhigh
  rw [Nat.add_sub_cancel, asSigned]
  omega

variable (B : Build) {year : Int} {month day : Nat}

/-- The days of the full cycles of 400 years, and those behind, are added up on `i32`. -/
theorem daysFromCivil_sum (hyear : 1 ≤ year) (hyear' : year < 2 ^ 31) (hmonth : 1 ≤ month)
    (hmonth' : month ≤ 12) (hday : 1 ≤ day) :
    ∃ cycles rest : Int, 0 ≤ cycles ∧ 0 ≤ rest ∧
      cycles + rest = dayNumber year month day + 719468 ∧
      daysFromCivil B year month day = (do
        let days ← B.signed 32 "multiply" cycles
        let days ← B.signed 32 "add" (days + rest)
        B.signed 32 "subtract" (days - 719468)) := by
  have hcount := @dayNumber_march year month hmonth hmonth' day
  have hmarch : 0 ≤ marchYear year month ∧ marchYear year month < 2 ^ 31 := by
    unfold marchYear
    omega
  have hfirst : 0 ≤ marchMonth month := by
    unfold marchMonth
    omega
  have hyoe : marchYear year month - marchYear year month / 400 * 400 =
      marchYear year month % 400 := by omega
  have hcode : daysFromCivil B year month day = (do
      let year ← B.signed 32 "subtract" (marchYear year month)
      let shifted ← if 0 ≤ year then .ok year else B.signed 32 "subtract" (year - 399)
      let era := shifted.tdiv 400
      let yoe := year - era * 400
      let doy := (153 * marchMonth month + 2).tdiv 5 + day - 1
      let doe := yoe * 365 + yoe.tdiv 4 - yoe.tdiv 100 + doy
      let days ← B.signed 32 "multiply" (era * 146097)
      let days ← B.signed 32 "add" (days + doe)
      B.signed 32 "subtract" (days - 719468)) := rfl
  rw [B.signed_of_mem (by decide) (by omega) (by omega), ok_bind, if_pos hmarch.1, ok_bind] at hcode
  refine ⟨_, _, ?_, ?_, ?_, hcode⟩
  · rw [tdiv_of_nonneg _ hmarch.1]
    omega
  · rw [tdiv_of_nonneg _ hmarch.1, hyoe, tdiv_of_nonneg 4 (by omega),
      tdiv_of_nonneg 100 (by omega), tdiv_of_nonneg 5 (by omega)]
    omega
  · rw [tdiv_of_nonneg _ hmarch.1, hyoe, tdiv_of_nonneg 4 (by omega),
      tdiv_of_nonneg 100 (by omega), tdiv_of_nonneg 5 (by omega), hcount, daysBeforeMarch]
    generalize marchYear year month = y at hmarch ⊢
    have hfour : y / 4 = 100 * (y / 400) + y % 400 / 4 := by omega
    have hcentury : y / 100 = 4 * (y / 400) + y % 400 / 100 := by omega
    have hcycle := Int.mul_ediv_add_emod y 400
    rw [hfour, hcentury]
    generalize y / 400 = cycles, y % 400 / 4 = fours, y % 400 / 100 = centuries at *
    omega

/-- Within the calendar a date is counted exactly. -/
theorem daysFromCivil_eq (hyear : 1 ≤ year) (hyear' : year < 2 ^ 31) (hmonth : 1 ≤ month)
    (hmonth' : month ≤ 12) (hday : 1 ≤ day) (hend : dayNumber year month day < calendarEnd) :
    daysFromCivil B year month day = .ok (dayNumber year month day) := by
  obtain ⟨cycles, rest, hcycles, hrest, hsum, heq⟩ :=
    daysFromCivil_sum B hyear hyear' hmonth hmonth' hday
  unfold calendarEnd at hend
  rw [heq, B.signed_of_mem (by decide) (by omega) (by omega), ok_bind,
    B.signed_of_mem (by decide) (by omega) (by omega), ok_bind, hsum,
    B.signed_of_mem (by decide) (by omega) (by omega)]
  exact congrArg Except.ok (by omega)

/-- Behind it, a build that checks for overflows panics … -/
theorem daysFromCivil_panics (hB : B.overflowChecks = true) (hyear : 1 ≤ year)
    (hyear' : year < 2 ^ 31) (hmonth : 1 ≤ month) (hmonth' : month ≤ 12) (hday : 1 ≤ day)
    (hend : calendarEnd ≤ dayNumber year month day) :
    ∃ what, daysFromCivil B year month day = panics what := by
  obtain ⟨cycles, rest, hcycles, hrest, hsum, heq⟩ :=
    daysFromCivil_sum B hyear hyear' hmonth hmonth' hday
  have hchecked : ∀ (operator : String) (x : Int), asSigned 32 x ≠ x →
      B.signed 32 operator x = panics ("attempt to " ++ operator ++ " with overflow") := by
    intro operator x hx
    rw [Build.signed, if_neg hx, if_pos hB]
  unfold calendarEnd at hend
  rw [heq]
  by_cases hfits : asSigned 32 cycles = cycles
  · have hlost : asSigned 32 (cycles + rest) ≠ cycles + rest := by
      have hbounds := (@asSigned_bounds 32 (by decide) (cycles + rest)).2
      omega
    rw [Build.signed, if_pos hfits, ok_bind, hchecked _ _ hlost]
    exact ⟨_, rfl⟩
  · rw [hchecked _ _ hfits]
    exact ⟨_, rfl⟩

/-- … and one that does not wraps around. -/
theorem daysFromCivil_wraps (hB : B.overflowChecks = false) (hyear : 1 ≤ year)
    (hyear' : year < 2 ^ 31) (hmonth : 1 ≤ month) (hmonth' : month ≤ 12) (hday : 1 ≤ day) :
    daysFromCivil B year month day = .ok (asSigned 32 (dayNumber year month day)) := by
  obtain ⟨cycles, rest, -, -, hsum, heq⟩ :=
    daysFromCivil_sum B hyear hyear' hmonth hmonth' hday
  rw [heq, Build.signed_of_unchecked hB, ok_bind, Build.signed_of_unchecked hB, ok_bind,
    Build.signed_of_unchecked hB, asSigned_add, Int.sub_eq_add_neg, asSigned_add, hsum]
  exact congrArg (fun days => Except.ok (asSigned 32 days)) (by omega)

end Days
namespace NetworkTime

/-- The fields are a date of the calendar and a time of day. -/
structure Exists (time : NetworkTime) : Prop where
  day_pos : 1 ≤ time.day
  day_le : time.day ≤ monthLength time.year time.month
  hour_le : time.hour ≤ 23
  minute_le : time.minute ≤ 59
  second_le : time.second ≤ 59
  nanosecond_lt : time.nanosecond < 1000000000

/-- The nanoseconds since midnight. -/
def ofDay (time : NetworkTime) : Int :=
  (time.hour * 3600 + time.minute * 60 + time.second) * 1000000000 + time.nanosecond

/-- The nanoseconds since 1970. -/
def instant (time : NetworkTime) : Int :=
  dayNumber time.year time.month time.day * 86400000000000 + time.ofDay

/-- What the calendar and the clock show at an instant. -/
def shownAt (unixNs : Int) : NetworkTime :=
  let date := Date.ofNumber (unixNs / 86400000000000)
  let ofDay := (unixNs % 86400000000000).toNat
  ⟨date.year, date.month, date.day, ofDay / 3600000000000, ofDay / 60000000000 % 60,
    ofDay / 1000000000 % 60, ofDay % 1000000000⟩

section Shown
variable {time : NetworkTime}

theorem Exists.inRange (h : time.Exists) : time.InRange := by
  obtain ⟨hmonth, hmonth'⟩ := month_of_day h.day_pos h.day_le
  exact ⟨⟨hmonth, hmonth'⟩, ⟨h.day_pos, h.day_le.trans (monthLength_le _ _)⟩, h.hour_le,
    h.minute_le, h.second_le, h.nanosecond_lt⟩

theorem InRange.ofDay_bounds (h : time.InRange) :
    0 ≤ time.ofDay ∧ time.ofDay < 86400000000000 := by
  obtain ⟨-, -, hhour, hminute, hsecond, hnanosecond⟩ := h
  unfold ofDay
  omega

theorem shownAt_exists (unixNs : Int) : (shownAt unixNs).Exists := by
  refine ⟨Date.day_pos _, Date.day_le _, ?_, ?_, ?_, ?_⟩
  all_goals
    unfold shownAt
    dsimp only
    omega

theorem ofDay_shownAt (unixNs : Int) : (shownAt unixNs).ofDay = unixNs % 86400000000000 := by
  have hofDay : ((unixNs % 86400000000000).toNat : Int) = unixNs % 86400000000000 :=
    Int.toNat_of_nonneg (Int.emod_nonneg _ (by decide))
  unfold ofDay shownAt
  dsimp only
  generalize (unixNs % 86400000000000).toNat = ofDay at hofDay ⊢
  have hhour : ofDay / 3600000000000 = ofDay / 1000000000 / 60 / 60 := by
    rw [Nat.div_div_eq_div_mul, Nat.div_div_eq_div_mul]
  have hminute : ofDay / 60000000000 = ofDay / 1000000000 / 60 := by
    rw [Nat.div_div_eq_div_mul]
  rw [← hofDay, hhour, hminute]
  omega

theorem day_shownAt (unixNs : Int) :
    dayNumber (shownAt unixNs).year (shownAt unixNs).month (shownAt unixNs).day =
      unixNs / 86400000000000 := Date.number_ofNumber _

theorem instant_shownAt (unixNs : Int) : (shownAt unixNs).instant = unixNs := by
  rw [instant, day_shownAt, ofDay_shownAt]
  omega

/-- An existing time is shown at its instant. -/
theorem shownAt_instant (h : time.Exists) : shownAt time.instant = time := by
  obtain ⟨hlow, hhigh⟩ := h.inRange.ofDay_bounds
  have hday : time.instant / 86400000000000 = dayNumber time.year time.month time.day := by
    unfold instant
    omega
  have hrest : (time.instant % 86400000000000).toNat =
      (time.hour * 3600 + time.minute * 60 + time.second) * 1000000000 + time.nanosecond := by
    unfold instant ofDay at *
    omega
  obtain ⟨hpos, hle, hhour, hminute, hsecond, hnanosecond⟩ := h
  have hdate := Date.ofNumber_number ⟨time.year, time.month, time.day, hpos, hle⟩
  rw [Date.number, ← hday] at hdate
  rw [shownAt, hdate, hrest]
  obtain ⟨year, month, day, hour, minute, second, nanosecond⟩ := time
  simp only [NetworkTime.mk.injEq, true_and]
  dsimp only at hhour hminute hsecond hnanosecond
  clear hlow hhigh hday hrest hdate hpos hle
  generalize hofDay :
    (hour * 3600 + minute * 60 + second) * 1000000000 + nanosecond = ofDay
  have hhours : ofDay / 3600000000000 = ofDay / 1000000000 / 3600 := by
    rw [Nat.div_div_eq_div_mul]
  have hminutes : ofDay / 60000000000 = ofDay / 1000000000 / 60 := by
    rw [Nat.div_div_eq_div_mul]
  have hseconds : ofDay / 1000000000 = hour * 3600 + minute * 60 + second := by omega
  rw [hhours, hminutes, hseconds]
  exact ⟨by omega, by omega, by omega, by omega⟩

end Shown

section Conversions
variable (B : Build) {time : NetworkTime}

/-- From 1970 on every instant is looked up exactly. -/
theorem fromUnixNs_eq {unixNs : Int} (hlow : 0 ≤ unixNs) (hhigh : unixNs < 2 ^ 84) :
    fromUnixNs B unixNs = .ok (some (shownAt unixNs)) := by
  have hdays : asSigned 64 (unixNs / 1000000000 / 86400) = unixNs / 86400000000000 := by
    rw [asSigned_of_mem (by decide) (by omega) (by omega)]
    omega
  unfold fromUnixNs
  rw [if_neg (by omega)]
  dsimp only
  rw [hdays, civilFromDays_eq B (by omega) (by omega), ok_bind]
  refine congrArg (fun time => Except.ok (some time)) ?_
  have hseconds : (unixNs / 1000000000 % 86400).toNat =
      (unixNs % 86400000000000).toNat / 1000000000 := by omega
  have hnanos : (unixNs % 1000000000).toNat =
      (unixNs % 86400000000000).toNat % 1000000000 := by omega
  simp only [shownAt, NetworkTime.mk.injEq, true_and]
  rw [hseconds, hnanos]
  clear hseconds hnanos hdays hlow hhigh
  generalize (unixNs % 86400000000000).toNat = ofDay
  exact ⟨Nat.div_div_eq_div_mul _ _ _, by omega, rfl, rfl⟩

theorem asUnixNs_of_days {days : Int} (h : time.InRange)
    (hdays : daysFromCivil B time.year time.month time.day = .ok days) :
    time.asUnixNs B = .ok (some (days * 86400000000000 + time.ofDay)) := by
  unfold asUnixNs
  rw [if_pos h, hdays, ok_bind]
  refine congrArg (fun unixNs => Except.ok (some unixNs)) ?_
  unfold ofDay
  ring

theorem asUnixNs_of_not_inRange (h : ¬time.InRange) : time.asUnixNs B = .ok none := if_neg h

theorem asUnixNs_eq (h : time.InRange) (hyear : 1 ≤ time.year) (hyear' : time.year < 2 ^ 31)
    (hend : dayNumber time.year time.month time.day < calendarEnd) :
    time.asUnixNs B = .ok (some time.instant) :=
  asUnixNs_of_days B h (daysFromCivil_eq B hyear hyear' h.1.1 h.1.2 h.2.1.1 hend)

theorem shownAt_year {unixNs : Int} (hlow : 0 ≤ unixNs) (hhigh : unixNs < 2 ^ 84) :
    1970 ≤ (shownAt unixNs).year ∧ (shownAt unixNs).year < 2 ^ 31 := by
  have hnumber := Date.number_ofNumber (unixNs / 86400000000000)
  have hbefore := (Date.ofNumber (unixNs / 86400000000000)).number_bounds.1
  have hepoch : daysBeforeYear 1970 = 719162 := by decide
  have hyear : (shownAt unixNs).year = (Date.ofNumber (unixNs / 86400000000000)).year := rfl
  have hfrom := Date.year_of_number_nonneg (show 0 ≤
    (Date.ofNumber (unixNs / 86400000000000)).number by omega)
  have hdays := daysBeforeYear_ge (show 1 ≤ (Date.ofNumber (unixNs / 86400000000000)).year by omega)
  rw [hyear]
  exact ⟨hfrom, by omega⟩

/-- What is shown is counted back on a day before the end of the calendar … -/
theorem asUnixNs_shownAt {unixNs : Int} (hlow : 0 ≤ unixNs) (hhigh : unixNs < 2 ^ 84)
    (hend : unixNs / 86400000000000 < calendarEnd) :
    (shownAt unixNs).asUnixNs B = .ok (some unixNs) := by
  obtain ⟨hyear, hyear'⟩ := shownAt_year hlow hhigh
  rw [asUnixNs_eq B (shownAt_exists unixNs).inRange (by omega) hyear' (by rwa [day_shownAt]),
    instant_shownAt]

/-- … and panics or wraps around behind it. -/
theorem asUnixNs_shownAt_panics (hB : B.overflowChecks = true) {unixNs : Int} (hlow : 0 ≤ unixNs)
    (hhigh : unixNs < 2 ^ 84) (hend : calendarEnd ≤ unixNs / 86400000000000) :
    ∃ what, (shownAt unixNs).asUnixNs B = panics what := by
  obtain ⟨hyear, hyear'⟩ := shownAt_year hlow hhigh
  have hrange := (shownAt_exists unixNs).inRange
  obtain ⟨what, hpanics⟩ := daysFromCivil_panics B hB (by omega) hyear' hrange.1.1 hrange.1.2
    hrange.2.1.1 (by rwa [day_shownAt])
  refine ⟨what, ?_⟩
  rw [asUnixNs, if_pos hrange, hpanics]
  rfl

theorem asUnixNs_shownAt_wraps (hB : B.overflowChecks = false) {unixNs : Int} (hlow : 0 ≤ unixNs)
    (hhigh : unixNs < 2 ^ 84) :
    (shownAt unixNs).asUnixNs B =
      .ok (some (asSigned 32 (unixNs / 86400000000000) * 86400000000000 +
        unixNs % 86400000000000)) := by
  obtain ⟨hyear, hyear'⟩ := shownAt_year hlow hhigh
  have hrange := (shownAt_exists unixNs).inRange
  rw [asUnixNs_of_days B hrange (daysFromCivil_wraps B hB (by omega) hyear' hrange.1.1 hrange.1.2
    hrange.2.1.1), day_shownAt, ofDay_shownAt]

theorem asUnixMs_of_ns {unixNs : Int} (h : time.asUnixNs B = .ok (some unixNs)) :
    time.asUnixMs B = .ok (if unixNs < 0 then none else u64TryFrom (unixNs / 1000000)) := by
  rw [asUnixMs, h]
  rfl

end Conversions
end NetworkTime

section Milliseconds
variable (B : Build)

theorem fromUnixMs_eq (unixMs : UInt64) :
    PartialNetworkTime.fromUnixMs B unixMs =
      .ok (.ofFull (NetworkTime.shownAt (1000000 * unixMs.toNat))) := by
  have hbound := unixMs.toNat_lt
  rw [PartialNetworkTime.fromUnixMs, NetworkTime.fromUnixNs_eq B (by omega) (by omega)]
  rfl

theorem u64TryFrom_toNat (unixMs : UInt64) : u64TryFrom unixMs.toNat = some unixMs := by
  have hbound := unixMs.toNat_lt
  rw [u64TryFrom, if_pos (by omega)]
  simp

end Milliseconds

theorem NetworkClock.currentTime_of_best {B : Build} {clock : NetworkClock}
    {src : NetworkTimeSourceState} {base : NetworkTime} (now : UInt64)
    (hbest : clock.bestSource (fun src => src.time.toNetworkTime.isSome) = some src)
    (hbase : src.time.toNetworkTime = some base) :
    clock.currentTime B now = (do
      match ← NetworkClock.advanced B base src.anchorMonoNs now with
      | some reading => .ok (some reading)
      | none => clock.mergedTime B now) := by
  have hsources : clock.sources.isEmpty = false := by
    by_contra hempty
    have hnone : clock.sources.toList = [] := by
      simpa using hempty
    rw [NetworkClock.bestSource, hnone] at hbest
    cases hbest
  rw [NetworkClock.currentTime, hsources, hbest]
  simp only [Option.bind_some, hbase, Option.map_some]
  rfl

end Sedsprintf
