import Sedsprintf.TimeSync.Calendar

/-!
# Times a peer can send

Every millisecond of a `u64` has a date. The way back counts its days on `i32`, which end in the
year 5881580: a later time does not come back. A date behind the end of its month comes back as
another one.
-/
namespace Sedsprintf

open Lib

section Values

/-- An integer type of the source, as the interval of its values. -/
structure IntType where
  low : Int
  bound : Int
  deriving DecidableEq, Repr

namespace IntType

def u8 : IntType := ⟨0, 2 ^ 8⟩
def u32 : IntType := ⟨0, 2 ^ 32⟩
def i32 : IntType := ⟨-2 ^ 31, 2 ^ 31⟩
def i64 : IntType := ⟨-2 ^ 63, 2 ^ 63⟩
def i128 : IntType := ⟨-2 ^ 127, 2 ^ 127⟩

def Holds (type : IntType) (x : Int) : Prop := type.low ≤ x ∧ x < type.bound

end IntType

open IntType

/-- What `civil_from_days` computes and casts, and the types it has for that; its month and day are
cast once more behind it. -/
def civilFromDaysValues (z : Int) : List (IntType × Int) :=
  let shifted := z + 719468
  let floored := if 0 ≤ shifted then shifted else shifted - 146096
  let era := floored.tdiv 146097
  let doe := shifted - era * 146097
  let yoe := (doe - doe.tdiv 1460 + doe.tdiv 36524 - doe.tdiv 146096).tdiv 365
  let doy := doe - (365 * yoe + yoe.tdiv 4 - yoe.tdiv 100)
  let mp := (5 * doy + 2).tdiv 153
  let d := doy - (153 * mp + 2).tdiv 5 + 1
  let m := mp + if mp < 10 then 3 else -9
  [(i64, shifted), (i64, floored), (i64, era * 146097), (i64, doe), (i32, yoe), (i32, era),
    (i32, era * 400), (i32, yoe + era * 400), (i64, doy), (i64, 5 * doy + 2), (i64, mp),
    (i64, 153 * mp + 2), (u32, d), (u8, d), (u32, m), (u8, m),
    (i32, yoe + era * 400 + if m ≤ 2 then 1 else 0)]

/-- The same of `from_unix_ns`. -/
def fromUnixNsValues (unixNs : Int) : List (IntType × Int) :=
  let secs := unixNs / 1000000000
  let sod := secs % 86400
  [(i128, unixNs), (i128, secs), (u32, unixNs % 1000000000), (i64, secs / 86400), (u32, sod),
    (u8, sod / 3600), (u8, sod % 3600 / 60), (u8, sod % 60)] ++ civilFromDaysValues (secs / 86400)

/-- The same of `days_from_civil`. -/
def daysFromCivilValues (year : Int) (month day : Nat) : List (IntType × Int) :=
  let y := year - if month ≤ 2 then 1 else 0
  let floored := if 0 ≤ y then y else y - 399
  let era := floored.tdiv 400
  let yoe := y - era * 400
  let mp : Int := month + if 2 < month then -3 else 9
  let doy := (153 * mp + 2).tdiv 5 + day - 1
  let doe := yoe * 365 + yoe.tdiv 4 - yoe.tdiv 100 + doy
  [(i32, y), (i32, floored), (i32, era * 400), (i32, yoe), (i32, mp), (i32, 153 * mp + 2),
    (i32, (153 * mp + 2).tdiv 5 + day), (i32, doy), (i32, yoe * 365), (i32, doe),
    (i32, era * 146097), (i32, era * 146097 + doe), (i32, era * 146097 + doe - 719468)]

/-- The same of `as_unix_ns`. -/
def NetworkTime.asUnixNsValues (time : NetworkTime) : List (IntType × Int) :=
  let days := dayNumber time.year time.month time.day
  let secs := days * 86400 + time.hour * 3600 + time.minute * 60 + time.second
  daysFromCivilValues time.year time.month time.day ++
    [(i128, secs), (i128, secs * 1000000000), (i128, secs * 1000000000 + time.nanosecond)]

/-- From 1970 to past the last time a peer can send nothing is lost on the way to a date. -/
theorem civilFromDaysValues_hold {z : Int} (hlow : 0 ≤ z) (hhigh : z < 2 ^ 38) :
    ∀ v ∈ civilFromDaysValues z, v.1.Holds v.2 := by
  obtain ⟨⟨hpos, hle⟩, -, -⟩ := marchDayOf_bounds z
  obtain ⟨⟨hfirst, hlast⟩, hday⟩ := monthOfYear_bounds hpos hle
  obtain ⟨⟨hyoe, hyoe'⟩, -⟩ :=
    @dayOfYear_bounds ((z + 719468) % 146097) (by omega) (by omega) 0
  have hday' : dayOfMonth (marchDayOf z) ≤ 31 := by
    have hlength := Date.day_le_31 (Date.ofNumber z)
    have hvalue : (Date.ofNumber z).day = (dayOfMonth (marchDayOf z)).toNat := rfl
    omega
  have hdoe : z + 719468 - (z + 719468) / 146097 * 146097 = (z + 719468) % 146097 := by omega
  have hdoy : dayOfYear ((z + 719468) % 146097) = marchDayOf z := rfl
  have hmp : (5 * marchDayOf z + 2).tdiv 153 = monthOfYear (marchDayOf z) :=
    tdiv_of_nonneg _ (by omega)
  have hd : marchDayOf z - (153 * monthOfYear (marchDayOf z) + 2) / 5 + 1 =
      dayOfMonth (marchDayOf z) := rfl
  unfold civilFromDaysValues
  dsimp only
  rw [if_pos (by omega : 0 ≤ z + 719468), tdiv_of_nonneg 146097 (by omega), hdoe,
    yearOfCycle_tdiv (by omega), dayOfYear_tdiv hyoe, hdoy, hmp, tdiv_of_nonneg 5 (by omega), hd]
  generalize dayOfMonth (marchDayOf z) = d at hday hday' ⊢
  generalize monthOfYear (marchDayOf z) = mp at hfirst hlast ⊢
  generalize yearOfCycle ((z + 719468) % 146097) = yoe at hyoe hyoe' ⊢
  simp only [List.forall_mem_cons, Holds, u8, u32, i32, i64]
  repeat' apply And.intro
  all_goals first | omega | simp

theorem fromUnixNsValues_hold {unixNs : Int} (hlow : 0 ≤ unixNs) (hhigh : unixNs < 2 ^ 84) :
    ∀ v ∈ fromUnixNsValues unixNs, v.1.Holds v.2 := by
  unfold fromUnixNsValues
  dsimp only
  rw [List.forall_mem_append]
  refine ⟨?_, civilFromDaysValues_hold (by omega) (by omega)⟩
  simp only [List.forall_mem_cons, Holds, u8, u32, i64, i128]
  repeat' apply And.intro
  all_goals first | omega | simp

/-- On the way back they are kept up to the end of the calendar, and not behind it. -/
theorem daysFromCivilValues_hold_iff {year : Int} {month day : Nat} (hyear : 1 ≤ year)
    (hyear' : year < 2 ^ 31) (hmonth : 1 ≤ month) (hmonth' : month ≤ 12) (hday : 1 ≤ day)
    (hday' : day ≤ 31) :
    (∀ v ∈ daysFromCivilValues year month day, v.1.Holds v.2) ↔
      dayNumber year month day < calendarEnd := by
  have hcount := @dayNumber_march year month hmonth hmonth' day
  have hmarch : 0 ≤ marchYear year month ∧ marchYear year month < 2 ^ 31 := by
    unfold marchYear
    omega
  have hmp : 0 ≤ marchMonth month ∧ marchMonth month ≤ 11 := by
    unfold marchMonth
    omega
  have hyoe : marchYear year month - marchYear year month / 400 * 400 =
      marchYear year month % 400 := by omega
  have hvalues : daysFromCivilValues year month day =
      let floored := if 0 ≤ marchYear year month then marchYear year month
        else marchYear year month - 399
      let era := floored.tdiv 400
      let yoe := marchYear year month - era * 400
      let doy := (153 * marchMonth month + 2).tdiv 5 + day - 1
      let doe := yoe * 365 + yoe.tdiv 4 - yoe.tdiv 100 + doy
      [(i32, marchYear year month), (i32, floored), (i32, era * 400), (i32, yoe),
        (i32, marchMonth month), (i32, 153 * marchMonth month + 2),
        (i32, (153 * marchMonth month + 2).tdiv 5 + day), (i32, doy), (i32, yoe * 365), (i32, doe),
        (i32, era * 146097), (i32, era * 146097 + doe), (i32, era * 146097 + doe - 719468)] := rfl
  rw [hvalues]
  dsimp only
  rw [if_pos hmarch.1, tdiv_of_nonneg 400 hmarch.1, hyoe, tdiv_of_nonneg 4 (by omega),
    tdiv_of_nonneg 100 (by omega), tdiv_of_nonneg 5 (by omega), hcount, daysBeforeMarch, calendarEnd]
  generalize marchYear year month = y at hmarch ⊢
  generalize marchMonth month = mp at hmp ⊢
  have hfours : y / 4 = 100 * (y / 400) + y % 400 / 4 := by omega
  have hcenturies : y / 100 = 4 * (y / 400) + y % 400 / 100 := by omega
  have hsplit : y = 400 * (y / 400) + y % 400 := by omega
  have hera : 0 ≤ y / 400 := by omega
  have hyear : 0 ≤ y % 400 ∧ y % 400 < 400 := by omega
  rw [hfours, hcenturies]
  clear hcount hyoe hvalues hfours hcenturies hmonth hmonth'
  generalize y / 400 = era at hsplit hera ⊢
  generalize y % 400 = yoe at hsplit hyear ⊢
  have hquarters : 0 ≤ yoe / 100 ∧ yoe / 100 ≤ yoe / 4 ∧ yoe / 4 ≤ 99 := by omega
  have hmonths : 0 ≤ (153 * mp + 2) / 5 ∧ (153 * mp + 2) / 5 ≤ 337 := by omega
  generalize yoe / 4 = fours, yoe / 100 = centuries, (153 * mp + 2) / 5 = months at *
  simp only [List.forall_mem_cons, Holds, i32]
  constructor
  · rintro ⟨-, -, -, -, -, -, -, -, -, -, -, hsum, -⟩
    omega
  · intro hend
    repeat' apply And.intro
    all_goals first | omega | simp

end Values

section RoundTrip
variable (B : Build)

/-- A peer's milliseconds are a complete date and time of day that comes back as the same
milliseconds, and nothing overflows or is cut off on the way there and back. -/
def ComesBack (unixMs : UInt64) : Prop :=
  ∃ time full, PartialNetworkTime.fromUnixMs B unixMs = .ok time ∧ time.isCompleteDate = true ∧
    time.isCompleteTime = true ∧ time.toNetworkTime = some full ∧
    full.asUnixMs B = .ok (some unixMs) ∧
    (∀ v ∈ fromUnixNsValues (1000000 * unixMs.toNat), v.1.Holds v.2) ∧
    ∀ v ∈ full.asUnixNsValues, v.1.Holds v.2

theorem asUnixNsValues_hold_iff {unixNs : Int} (hlow : 0 ≤ unixNs) (hhigh : unixNs < 2 ^ 84) :
    (∀ v ∈ (NetworkTime.shownAt unixNs).asUnixNsValues, v.1.Holds v.2) ↔
      unixNs / 86400000000000 < calendarEnd := by
  obtain ⟨hyear, hyear'⟩ := NetworkTime.shownAt_year hlow hhigh
  have hrange := (NetworkTime.shownAt_exists unixNs).inRange
  have hdays := daysFromCivilValues_hold_iff (by omega) hyear' hrange.1.1 hrange.1.2 hrange.2.1.1
    hrange.2.1.2
  obtain ⟨-, -, hhour, hminute, hsecond, hnanosecond⟩ := hrange
  unfold NetworkTime.asUnixNsValues
  dsimp only
  rw [List.forall_mem_append, hdays, NetworkTime.day_shownAt]
  refine and_iff_left ?_
  simp only [List.forall_mem_cons, IntType.Holds, IntType.i128]
  repeat' apply And.intro
  all_goals first | omega | simp

theorem comesBack_iff (unixMs : UInt64) :
    ComesBack B unixMs ↔ (unixMs.toNat : Int) / 86400000 < calendarEnd := by
  have hbound := unixMs.toNat_lt
  have hlow : (0 : Int) ≤ 1000000 * unixMs.toNat := by omega
  have hhigh : (1000000 * unixMs.toNat : Int) < 2 ^ 84 := by omega
  have hday : (1000000 * unixMs.toNat : Int) / 86400000000000 = unixMs.toNat / 86400000 := by omega
  have hvalues := asUnixNsValues_hold_iff hlow hhigh
  rw [hday] at hvalues
  constructor
  · rintro ⟨time, full, htime, -, -, hfull, -, -, hback⟩
    rw [fromUnixMs_eq] at htime
    cases htime
    cases hfull
    exact hvalues.mp hback
  · intro hend
    have hns := NetworkTime.asUnixNs_shownAt B hlow hhigh (by rwa [hday])
    refine ⟨_, NetworkTime.shownAt (1000000 * unixMs.toNat), fromUnixMs_eq B unixMs, rfl, rfl, rfl,
      ?_, fromUnixNsValues_hold hlow hhigh, hvalues.mpr hend⟩
    have hms : (1000000 * unixMs.toNat : Int) / 1000000 = unixMs.toNat := by omega
    rw [NetworkTime.asUnixMs_of_ns B hns, if_neg (by omega), hms, u64TryFrom_toNat]

end RoundTrip

section Unchecked
variable {B : Build}

/-! Where overflows wrap around, no conversion panics. -/

theorem Build.signed_neverPanics (hB : B.overflowChecks = false) (bits : Nat) (operator : String)
    (x : Int) : NeverPanics (B.signed bits operator x) := by
  rw [Build.signed_of_unchecked hB]
  exact .ok _

theorem daysFromCivil_neverPanics (hB : B.overflowChecks = false) (year : Int) (month day : Nat) :
    NeverPanics (daysFromCivil B year month day) := by
  have hsigned := B.signed_neverPanics hB
  have hdays : ∀ cycles rest : Int, NeverPanics (do
      let days ← B.signed 32 "multiply" cycles
      let days ← B.signed 32 "add" (days + rest)
      B.signed 32 "subtract" (days - 719468)) := fun cycles rest =>
    (hsigned _ _ _).bind fun _ _ => (hsigned _ _ _).bind fun _ _ => hsigned _ _ _
  unfold daysFromCivil
  refine (hsigned _ _ _).bind fun _ _ => ?_
  dsimp only
  split
  · exact (NeverPanics.ok _).bind fun _ _ => hdays _ _
  · exact (hsigned _ _ _).bind fun _ _ => hdays _ _

theorem NetworkTime.asUnixNs_neverPanics (hB : B.overflowChecks = false) (time : NetworkTime) :
    NeverPanics (time.asUnixNs B) := by
  unfold NetworkTime.asUnixNs
  split
  · exact (daysFromCivil_neverPanics hB _ _ _).bind fun _ _ => .ok _
  · exact .ok _

theorem NetworkTime.asUnixMs_neverPanics (hB : B.overflowChecks = false) (time : NetworkTime) :
    NeverPanics (time.asUnixMs B) := by
  refine (time.asUnixNs_neverPanics hB).bind fun unixNs _ => ?_
  cases unixNs with
  | none => exact .ok _
  | some unixNs => exact .ok _

theorem NetworkTime.fromUnixNs_neverPanics (hB : B.overflowChecks = false) (unixNs : Int) :
    NeverPanics (NetworkTime.fromUnixNs B unixNs) := by
  have hsigned := B.signed_neverPanics hB
  unfold NetworkTime.fromUnixNs civilFromDays
  split
  · exact .ok _
  · refine .bind ?_ fun _ _ => .ok _
    exact (hsigned _ _ _).bind fun _ _ => (hsigned _ _ _).bind fun _ _ =>
      (hsigned _ _ _).bind fun _ _ => (hsigned _ _ _).bind fun _ _ => .ok _

theorem NetworkClock.advanced_neverPanics (hB : B.overflowChecks = false) (base : NetworkTime)
    (anchorNs now : UInt64) : NeverPanics (NetworkClock.advanced B base anchorNs now) := by
  refine .bind ?_ fun time _ => ?_
  · refine (base.asUnixNs_neverPanics hB).bind fun unixNs _ => ?_
    cases unixNs with
    | none => exact .ok _
    | some unixNs => exact NetworkTime.fromUnixNs_neverPanics hB _
  · cases time with
    | none => exact .ok _
    | some time => exact (time.asUnixMs_neverPanics hB).bind fun _ _ => .ok _

theorem NetworkClock.currentTime_neverPanics (hB : B.overflowChecks = false) (clock : NetworkClock)
    (now : UInt64) : NeverPanics (clock.currentTime B now) := by
  have hmerged : NeverPanics (clock.mergedTime B now) := by
    unfold NetworkClock.mergedTime
    dsimp only
    split
    · exact .ok _
    · split
      · split
        · exact .ok _
        · exact (NetworkClock.advanced_neverPanics hB _ _ _).bind fun _ _ => .ok _
      · exact .ok _
  unfold NetworkClock.currentTime
  dsimp only
  split
  · exact .ok _
  · split
    · exact hmerged
    · refine (NetworkClock.advanced_neverPanics hB _ _ _).bind fun reading _ => ?_
      cases reading with
      | none => exact hmerged
      | some reading => exact .ok _

end Unchecked

section Announced
variable {B : Build} {clock : NetworkClock} {src : NetworkTimeSourceState} {unixMs : UInt64}

theorem NetworkClock.advanced_shownAt {unixNs : Int} (anchorNs now : UInt64) (hlow : 0 ≤ unixNs)
    (hhigh : unixNs + (saturatingSub now anchorNs).toNat < 2 ^ 84)
    (hend : unixNs / 86400000000000 < calendarEnd) :
    NetworkClock.advanced B (NetworkTime.shownAt unixNs) anchorNs now = (do
      let time := NetworkTime.shownAt (unixNs + (saturatingSub now anchorNs).toNat)
      let unixMs ← time.asUnixMs B
      .ok (some ⟨.ofFull time, unixMs⟩)) := by
  have hns := NetworkTime.asUnixNs_shownAt B hlow (by omega) hend
  rw [NetworkClock.advanced, NetworkTime.advance, hns]
  simp only [ok_bind]
  rw [NetworkTime.fromUnixNs_eq B (by omega) hhigh]
  rfl

/-- A clock that reads an announced time panics where the calendar ends before that time, or
before the one it is by now. -/
theorem announced_neverPanics_iff (now : UInt64)
    (hbest : clock.bestSource (fun src => src.time.toNetworkTime.isSome) = some src)
    (hannounced : PartialNetworkTime.fromUnixMs B unixMs = .ok src.time)
    (hend : (unixMs.toNat : Int) / 86400000 < calendarEnd) :
    NeverPanics (clock.currentTime B now) ↔ (B.overflowChecks = true →
      (1000000 * unixMs.toNat + (saturatingSub now src.anchorMonoNs).toNat : Int) /
        86400000000000 < calendarEnd) := by
  have hbound := unixMs.toNat_lt
  have helapsed := (saturatingSub now src.anchorMonoNs).toNat_lt
  have hbase : src.time.toNetworkTime = some (NetworkTime.shownAt (1000000 * unixMs.toNat)) := by
    rw [fromUnixMs_eq] at hannounced
    rw [← Except.ok.inj hannounced]
    rfl
  cases hB : B.overflowChecks with
  | false => simp [NetworkClock.currentTime_neverPanics hB]
  | true =>
    rw [NetworkClock.currentTime_of_best now hbest hbase,
      NetworkClock.advanced_shownAt src.anchorMonoNs now (by omega) (by omega) (by omega)]
    simp only [forall_const]
    constructor
    · intro hreturns
      by_contra hlate
      obtain ⟨what, hpanics⟩ := @NetworkTime.asUnixNs_shownAt_panics B hB
        (1000000 * unixMs.toNat + (saturatingSub now src.anchorMonoNs).toNat)
        (by omega) (by omega) (by omega)
      refine hreturns what ?_
      rw [NetworkTime.asUnixMs, hpanics]
      rfl
    · intro hreached
      have hns := @NetworkTime.asUnixNs_shownAt B
        (1000000 * unixMs.toNat + (saturatingSub now src.anchorMonoNs).toNat)
        (by omega) (by omega) hreached
      rw [NetworkTime.asUnixMs_of_ns B hns]
      exact .ok _

/-- The milliseconds of a peer come back, and a clock that reads them does not panic, exactly
where the calendar reaches as far. -/
theorem announced_time_comes_back_iff (now : UInt64)
    (hbest : clock.bestSource (fun src => src.time.toNetworkTime.isSome) = some src)
    (hannounced : PartialNetworkTime.fromUnixMs B unixMs = .ok src.time) :
    ComesBack B unixMs ∧ NeverPanics (clock.currentTime B now) ↔
      (unixMs.toNat : Int) / 86400000 < calendarEnd ∧ (B.overflowChecks = true →
        (1000000 * unixMs.toNat + (saturatingSub now src.anchorMonoNs).toNat : Int) /
          86400000000000 < calendarEnd) := by
  rw [comesBack_iff]
  exact and_congr_right fun hend => announced_neverPanics_iff now hbest hannounced hend

end Announced

section Announcing

/-- A clock that knows one announced time. -/
def announcedClock (unixMs : UInt64) : NetworkClock :=
  NetworkClock.updateSource {} "gps" ⟨1, 0, 0, none,
    .ofFull (NetworkTime.shownAt (1000000 * unixMs.toNat))⟩

theorem announced_time_comes_back_iff_gps :
    ComesBack hostBuild 1700000000000 ∧
        NeverPanics ((announcedClock 1700000000000).currentTime hostBuild 5) ↔
      ((1700000000000 : UInt64).toNat : Int) / 86400000 < calendarEnd ∧
        (hostBuild.overflowChecks = true →
          (1000000 * (1700000000000 : UInt64).toNat + (saturatingSub 5 0).toNat : Int) /
            86400000000000 < calendarEnd) :=
  @announced_time_comes_back_iff hostBuild (announcedClock 1700000000000)
    ⟨1, 0, 0, none, .ofFull (NetworkTime.shownAt (1000000 * (1700000000000 : UInt64).toNat))⟩
    1700000000000 5 (by decide +kernel) (fromUnixMs_eq hostBuild _)

/-- The last millisecond of a `u64`. -/
theorem announced_time_panics :
    ¬ComesBack hostBuild 0xFFFFFFFFFFFFFFFF ∧
      (announcedClock 0xFFFFFFFFFFFFFFFF).currentTime hostBuild 0 =
        panics "attempt to multiply with overflow" := by
  rw [comesBack_iff]
  decide +kernel

end Announcing

section RealDates
variable (B : Build) {time : NetworkTime}

/-- `as_unix_ns` takes real dates and times only, and they come back from it as they were. -/
def ConvertsRealDates (time : NetworkTime) : Prop :=
  ∃ unixNs, time.asUnixNs B = .ok unixNs ∧ (unixNs.isSome = true ↔ time.Exists) ∧
    ∀ ns, unixNs = some ns → NetworkTime.fromUnixNs B ns = .ok (some time)

instance (time : NetworkTime) : Decidable time.Exists :=
  decidable_of_iff (1 ≤ time.day ∧ time.day ≤ monthLength time.year time.month ∧ time.hour ≤ 23 ∧
      time.minute ≤ 59 ∧ time.second ≤ 59 ∧ time.nanosecond < 1000000000)
    ⟨fun ⟨h₁, h₂, h₃, h₄, h₅, h₆⟩ => ⟨h₁, h₂, h₃, h₄, h₅, h₆⟩,
      fun ⟨h₁, h₂, h₃, h₄, h₅, h₆⟩ => ⟨h₁, h₂, h₃, h₄, h₅, h₆⟩⟩

theorem dayNumber_bounds {year : Int} {month day : Nat} (hyear : 1970 ≤ year)
    (hyear' : year ≤ 9999) (hmonth : month ≤ 12) (hday : 1 ≤ day) (hday' : day ≤ 31) :
    0 ≤ dayNumber year month day ∧ dayNumber year month day < 2 ^ 22 := by
  have hmonths := @daysBeforeMonth_mono year month 13 (by omega)
  have hsucc := daysBeforeYear_succ year
  have hepoch : daysBeforeYear 1970 = 719162 := by decide
  have hfrom := daysBeforeYear_mono hyear
  have hto := daysBeforeYear_mono (show year + 1 ≤ 10000 by omega)
  have hlast : daysBeforeYear 10000 = 3652059 := by decide
  unfold dayNumber
  omega

/-- The day is held against 31 and not against the month: exactly the dates behind the end of
their month are taken too, for days of the next one. -/
theorem converts_real_dates_iff (hyear : 1970 ≤ time.year) (hyear' : time.year ≤ 9999) :
    ConvertsRealDates B time ↔ (time.InRange → time.day ≤ monthLength time.year time.month) := by
  by_cases hrange : time.InRange
  · obtain ⟨hdays, hdays'⟩ := dayNumber_bounds hyear hyear' hrange.1.2 hrange.2.1.1 hrange.2.1.2
    obtain ⟨hofDay, hofDay'⟩ := hrange.ofDay_bounds
    have hns := NetworkTime.asUnixNs_eq B hrange (by omega) (by omega)
      (show _ < calendarEnd by unfold calendarEnd; omega)
    constructor
    · rintro ⟨unixNs, hunixNs, hexists, -⟩ -
      rw [hns] at hunixNs
      cases hunixNs
      exact (hexists.mp rfl).day_le
    · intro hreal
      have hday := hreal hrange
      obtain ⟨-, ⟨hpos, -⟩, hhour, hminute, hsecond, hnanosecond⟩ := hrange
      have hexists : time.Exists := ⟨hpos, hday, hhour, hminute, hsecond, hnanosecond⟩
      refine ⟨_, hns, by simp [hexists], ?_⟩
      rintro _ ⟨⟩
      have hinstant : 0 ≤ time.instant ∧ time.instant < 2 ^ 84 := by
        unfold NetworkTime.instant
        omega
      rw [NetworkTime.fromUnixNs_eq B hinstant.1 hinstant.2, NetworkTime.shownAt_instant hexists]
  · refine iff_of_true ⟨none, NetworkTime.asUnixNs_of_not_inRange B hrange, ?_, by simp⟩
      fun h => absurd h hrange
    exact iff_of_false (by simp) fun h => hrange h.inRange

theorem converts_real_dates_iff_gps :
    ConvertsRealDates hostBuild ⟨2024, 2, 29, 12, 30, 0, 5⟩ ↔
      (NetworkTime.InRange ⟨2024, 2, 29, 12, 30, 0, 5⟩ → 29 ≤ monthLength 2024 2) :=
  converts_real_dates_iff hostBuild (by decide) (by decide)

/-- The thirtieth of February is the first of March. -/
theorem february_thirtieth_converts :
    ¬NetworkTime.Exists ⟨2024, 2, 30, 0, 0, 0, 0⟩ ∧
      NetworkTime.asUnixNs hostBuild ⟨2024, 2, 30, 0, 0, 0, 0⟩ = .ok (some 1709251200000000000) ∧
      NetworkTime.fromUnixNs hostBuild 1709251200000000000 =
        .ok (some ⟨2024, 3, 1, 0, 0, 0, 0⟩) := by
  decide +kernel

end RealDates
end Sedsprintf
