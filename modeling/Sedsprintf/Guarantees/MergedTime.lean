import Sedsprintf.TimeSync.Calendar

/-!
# Time merged from several sources

src/timesync.rs:450-549. Every field is taken from the best source that has it, as it was at the
anchor of that source, and the reading is advanced from the anchor of one of them.
-/
namespace Sedsprintf

open Lib

section Sources

/-- The fields that are known are those of a full time. -/
structure PartialNetworkTime.PartOf (time : PartialNetworkTime) (full : NetworkTime) : Prop where
  year : ∀ x, time.year = some x → x = full.year
  month : ∀ x, time.month = some x → x = full.month
  day : ∀ x, time.day = some x → x = full.day
  hour : ∀ x, time.hour = some x → x = full.hour
  minute : ∀ x, time.minute = some x → x = full.minute
  second : ∀ x, time.second = some x → x = full.second
  nanosecond : ∀ x, time.nanosecond = some x → x = full.nanosecond

/-- What a clock shows that was at `offset` when the monotonic time was 0, and that runs as it. -/
def shownBy (offset : Int) (mono : UInt64) : NetworkTime :=
  NetworkTime.shownAt (offset + mono.toNat)

/-- Every source has fields of the true time at its anchor, and none is of a time to come. -/
structure NetworkClock.TrueSources (clock : NetworkClock) (offset : Int) (now : UInt64) : Prop where
  fields : ∀ (name : String) (src : NetworkTimeSourceState), clock.sources[name]? = some src →
    src.time.PartOf (shownBy offset src.anchorMonoNs)
  anchors : ∀ (name : String) (src : NetworkTimeSourceState), clock.sources[name]? = some src →
    src.anchorMonoNs ≤ now

def WithinSecond (unixMs : UInt64) (trueNs : Int) : Prop :=
  -1000 ≤ (unixMs.toNat : Int) - trueNs / 1000000 ∧ (unixMs.toNat : Int) - trueNs / 1000000 ≤ 1000

theorem NetworkClock.bestSource_eq_some {clock : NetworkClock} {keep : NetworkTimeSourceState → Bool}
    {src : NetworkTimeSourceState} (h : clock.bestSource keep = some src) :
    (∃ name : String, clock.sources[name]? = some src) ∧ keep src = true := by
  rw [bestSource, Option.map_eq_some_iff] at h
  obtain ⟨⟨name, held⟩, hleast, rfl⟩ := h
  have hmem := List.mem_filter.mp (mem_of_firstLeast hleast)
  exact ⟨⟨name, Std.ExtTreeMap.mem_toList_iff_getElem?_eq_some.mp hmem.1⟩, hmem.2⟩

end Sources

section Advancing
variable {B : Build}

/-- A counted date fits the 32 bits it is counted on. -/
theorem daysFromCivil_bounds {year days : Int} {month day : Nat}
    (h : daysFromCivil B year month day = .ok days) : -2 ^ 31 ≤ days ∧ days < 2 ^ 31 := by
  have hsigned : ∀ {operator x y}, B.signed 32 operator x = .ok y → -2 ^ 31 ≤ y ∧ y < 2 ^ 31 := by
    intro operator x y hy
    have hbounds := @asSigned_bounds 32 (by decide) x
    unfold Build.signed at hy
    split at hy
    · rename_i hexact
      cases hy
      rw [hexact] at hbounds
      exact hbounds
    · split at hy
      · cases hy
      · cases hy
        exact hbounds
  unfold daysFromCivil at h
  obtain ⟨marchYear, -, h⟩ := bind_eq_ok.mp h
  dsimp only at h
  split at h
  all_goals
    obtain ⟨shifted, -, h⟩ := bind_eq_ok.mp h
    obtain ⟨cycles, -, h⟩ := bind_eq_ok.mp h
    obtain ⟨sum, -, h⟩ := bind_eq_ok.mp h
    exact hsigned h

/-- Where a day is shown that is not counted back exactly, it has no milliseconds. -/
theorem NetworkTime.asUnixMs_shownAt {ns : Int} {unixMs : UInt64} (hlow : 0 ≤ ns)
    (hhigh : ns < 2 ^ 32 * 86400000000000)
    (h : (NetworkTime.shownAt ns).asUnixMs B = .ok (some unixMs)) :
    (unixMs.toNat : Int) = ns / 1000000 := by
  have hread : ∀ {x : Int}, 0 ≤ x → u64TryFrom (x / 1000000) = some unixMs →
      (unixMs.toNat : Int) = x / 1000000 := by
    intro x hx hunixMs
    unfold u64TryFrom at hunixMs
    split at hunixMs
    · cases hunixMs
      rw [UInt64.toNat_ofNat']
      omega
    · cases hunixMs
  have hofNs : ∀ {x : Int}, (NetworkTime.shownAt ns).asUnixNs B = .ok (some x) →
      0 ≤ x ∧ (unixMs.toNat : Int) = x / 1000000 := by
    intro x hx
    rw [asUnixMs_of_ns B hx] at h
    split at h
    · cases h
    · rename_i hpos
      exact ⟨by omega, hread (by omega) (Except.ok.inj h)⟩
  by_cases hend : ns / 86400000000000 < calendarEnd
  · exact (hofNs (asUnixNs_shownAt B hlow (by omega) hend)).2
  · cases hB : B.overflowChecks with
    | true =>
      obtain ⟨what, hpanics⟩ := asUnixNs_shownAt_panics B hB hlow (by omega) (not_lt.mp hend)
      rw [asUnixMs, hpanics] at h
      cases h
    | false =>
      obtain ⟨hpos, hunixMs⟩ := hofNs (asUnixNs_shownAt_wraps B hB hlow (by omega))
      have hexact : asSigned 32 (ns / 86400000000000) = ns / 86400000000000 := by
        by_cases hfits : ns / 86400000000000 < 2 ^ 31
        · exact asSigned_of_mem (by decide) (by omega) (by omega)
        · have hwraps : asSigned 32 (ns / 86400000000000) = ns / 86400000000000 - 2 ^ 32 := by
            rw [← @asSigned_of_mem 32 (ns / 86400000000000 - 2 ^ 32) (by decide) (by omega)
              (by omega), asSigned, asSigned]
            exact (Int.sub_mul_bmod_self_right _ 1 _).symm
          omega
      rw [hunixMs, hexact]
      omega

/-- What an advanced reading is, by the days its date is counted to. -/
theorem NetworkClock.advanced_cases {base : NetworkTime} {anchorNs now : UInt64}
    {reading : Option NetworkTimeReading} (hrange : base.InRange)
    (h : advanced B base anchorNs now = .ok reading) :
    ∃ days ns : Int, daysFromCivil B base.year base.month base.day = .ok days ∧
      ns = days * 86400000000000 + base.ofDay + (saturatingSub now anchorNs).toNat ∧
      (reading = none ∧ ns < 0 ∨ 0 ≤ ns ∧ ∃ r, reading = some r ∧
        ∀ unixMs, r.unixTimeMs = some unixMs → (unixMs.toNat : Int) = ns / 1000000) := by
  unfold advanced at h
  obtain ⟨time, htime, hreading⟩ := bind_eq_ok.mp h
  obtain ⟨unixNs, hunixNs, htime⟩ := bind_eq_ok.mp htime
  obtain ⟨days, hdays⟩ : ∃ days, daysFromCivil B base.year base.month base.day = .ok days := by
    rw [NetworkTime.asUnixNs, if_pos hrange] at hunixNs
    obtain ⟨days, hdays, -⟩ := bind_eq_ok.mp hunixNs
    exact ⟨days, hdays⟩
  rw [NetworkTime.asUnixNs_of_days B hrange hdays] at hunixNs
  cases hunixNs
  refine ⟨days, _, hdays, rfl, ?_⟩
  have helapsed := (saturatingSub now anchorNs).toNat_lt
  have hcounted := daysFromCivil_bounds hdays
  have hofDay := hrange.ofDay_bounds
  generalize hns : days * 86400000000000 + base.ofDay + (saturatingSub now anchorNs).toNat = ns
    at htime ⊢
  dsimp only at htime
  rw [hns] at htime
  by_cases hneg : ns < 0
  · rw [NetworkTime.fromUnixNs, if_pos hneg] at htime
    cases htime
    cases hreading
    exact .inl ⟨rfl, hneg⟩
  · rw [NetworkTime.fromUnixNs_eq B (by omega) (by omega)] at htime
    cases htime
    obtain ⟨unixMs, hunixMs, hreading⟩ := bind_eq_ok.mp hreading
    cases hreading
    refine .inr ⟨by omega, _, rfl, ?_⟩
    rintro unixMs' rfl
    exact NetworkTime.asUnixMs_shownAt (by omega) (by omega) hunixMs

/-- A reading whose seconds are those of its anchor is off by whole minutes, and by less than a
second where it is not. -/
theorem withinSecond_iff {base : NetworkTime} {days trueNs elapsed : Int} {unixMs : UInt64}
    (hrange : base.InRange) (hsecond : base.second = (NetworkTime.shownAt trueNs).second)
    (hunixMs : (unixMs.toNat : Int) = (days * 86400000000000 + base.ofDay + elapsed) / 1000000) :
    WithinSecond unixMs (trueNs + elapsed) ↔
      days = trueNs / 86400000000000 ∧ base.hour = (NetworkTime.shownAt trueNs).hour ∧
        base.minute = (NetworkTime.shownAt trueNs).minute := by
  have hshown := NetworkTime.ofDay_shownAt trueNs
  have hsplit : trueNs = trueNs / 86400000000000 * 86400000000000 + trueNs % 86400000000000 := by
    omega
  obtain ⟨-, -, hhour, hminute, -, hnanosecond⟩ := (NetworkTime.shownAt_exists trueNs).inRange
  obtain ⟨-, -, hhour', hminute', -, hnanosecond'⟩ := hrange
  rw [← hshown] at hsplit
  unfold WithinSecond
  rw [hunixMs]
  unfold NetworkTime.ofDay at *
  generalize trueNs / 86400000000000 = trueDay at hsplit ⊢
  generalize NetworkTime.shownAt trueNs = shown at *
  constructor
  · rintro ⟨hlow, hhigh⟩
    have hminutes : (days * 24 + base.hour) * 60 + base.minute =
        (trueDay * 24 + shown.hour) * 60 + shown.minute := by omega
    omega
  · rintro ⟨rfl, hhours, hminutes⟩
    omega

end Advancing

section Merging

/-- The best sources of the fields that a merged reading needs. -/
structure NetworkClock.FieldSources (clock : NetworkClock) where
  year : NetworkTimeSourceState
  month : NetworkTimeSourceState
  day : NetworkTimeSourceState
  hour : NetworkTimeSourceState
  minute : NetworkTimeSourceState
  second : NetworkTimeSourceState
  year_best : clock.bestSource (fun src => src.time.year.isSome) = some year
  month_best : clock.bestSource (fun src => src.time.month.isSome) = some month
  day_best : clock.bestSource (fun src => src.time.day.isSome) = some day
  hour_best : clock.bestSource (fun src => src.time.hour.isSome) = some hour
  minute_best : clock.bestSource (fun src => src.time.minute.isSome) = some minute
  second_best : clock.bestSource (fun src => src.time.second.isSome) = some second

variable (B : Build) (clock : NetworkClock) (offset : Int) (now : UInt64)

/-- The year, month and day that are shown at three times are counted to the day of a fourth. -/
def CountsDay (year month day anchor : UInt64) : Prop :=
  daysFromCivil B (shownBy offset year).year (shownBy offset month).month (shownBy offset day).day =
    .ok ((offset + anchor.toNat) / 86400000000000)

/-- From its anchor on a reading reaches 1970 by now. -/
def ReachesEpoch (base : NetworkTime) (anchorNs : UInt64) : Prop :=
  ∃ days, daysFromCivil B base.year base.month base.day = .ok days ∧
    0 ≤ days * 86400000000000 + base.ofDay + (saturatingSub now anchorNs).toNat

/-- A complete source is the base of the reading. -/
def NetworkClock.FromComplete (src : NetworkTimeSourceState) : Prop :=
  clock.bestSource (fun src => src.time.toNetworkTime.isSome) = some src ∧
    ∃ base, src.time.toNetworkTime = some base ∧ ReachesEpoch B now base src.anchorMonoNs

/-- The fields that are put together are those that are shown at the anchor they are advanced
from. -/
structure NetworkClock.Consistent : Prop where
  complete : ∀ src, clock.FromComplete B now src →
    CountsDay B offset src.anchorMonoNs src.anchorMonoNs src.anchorMonoNs src.anchorMonoNs
  merged : (∀ src, ¬clock.FromComplete B now src) → ∀ best : clock.FieldSources,
    CountsDay B offset best.year.anchorMonoNs best.month.anchorMonoNs best.day.anchorMonoNs
        best.second.anchorMonoNs ∧
      (shownBy offset best.hour.anchorMonoNs).hour =
        (shownBy offset best.second.anchorMonoNs).hour ∧
      (shownBy offset best.minute.anchorMonoNs).minute =
        (shownBy offset best.second.anchorMonoNs).minute

end Merging

section Reading
variable {B : Build} {clock : NetworkClock} {offset : Int} {now unixMs : UInt64}
  {reading : NetworkTimeReading}

theorem NetworkClock.mergedTime_reads (h : clock.mergedTime B now = .ok (some reading))
    (hunixMs : reading.unixTimeMs = some unixMs) :
    ∃ (best : clock.FieldSources) (base : NetworkTime),
      (best.year.time.year = some base.year ∧ best.month.time.month = some base.month ∧
        best.day.time.day = some base.day) ∧
      (best.hour.time.hour = some base.hour ∧ best.minute.time.minute = some base.minute ∧
        best.second.time.second = some base.second) ∧
      (base.nanosecond = 0 ∨ ∃ src, clock.bestSource (fun src => src.time.nanosecond.isSome) =
        some src ∧ src.time.nanosecond = some base.nanosecond) ∧
      advanced B base best.second.anchorMonoNs now = .ok (some reading) := by
  have hlacks : ∀ {time : PartialNetworkTime},
      (.ok (some ⟨time, none⟩) : Outcome (Option NetworkTimeReading)) ≠ .ok (some reading) := by
    intro time heq
    cases heq
    cases hunixMs
  unfold mergedTime at h
  dsimp only at h
  split at h
  · exact absurd h hlacks
  · rename_i src hsrc
    split at h
    · rename_i hcomplete
      split at h
      · cases h
      · rename_i base hbase
        obtain ⟨advance, hadvance, hreading⟩ := bind_eq_ok.mp h
        have hadvanced : advance = some reading := by
          cases advance with
          | none => exact absurd hreading hlacks
          | some advance => exact Except.ok.inj hreading
        rw [hadvanced] at hadvance
        simp only [PartialNetworkTime.toNetworkTime, Option.bind_eq_bind, Option.bind_eq_some_iff,
          Option.some.injEq] at hbase
        obtain ⟨year, hyear, month, hmonth, day, hday, hour, hhour, minute, hminute, second,
          hsecond, rfl⟩ := hbase
        obtain ⟨yearSrc, hyearBest, hyear⟩ := Option.bind_eq_some_iff.mp hyear
        obtain ⟨monthSrc, hmonthBest, hmonth⟩ := Option.bind_eq_some_iff.mp hmonth
        obtain ⟨daySrc, hdayBest, hday⟩ := Option.bind_eq_some_iff.mp hday
        obtain ⟨hourSrc, hhourBest, hhour⟩ := Option.bind_eq_some_iff.mp hhour
        obtain ⟨minuteSrc, hminuteBest, hminute⟩ := Option.bind_eq_some_iff.mp hminute
        obtain ⟨secondSrc, hsecondBest, hsecond⟩ := Option.bind_eq_some_iff.mp hsecond
        rw [timeSource, hsecondBest] at hsrc
        cases hsrc
        refine ⟨⟨yearSrc, monthSrc, daySrc, hourSrc, minuteSrc, src, hyearBest, hmonthBest,
          hdayBest, hhourBest, hminuteBest, hsecondBest⟩, _, ⟨hyear, hmonth, hday⟩,
          ⟨hhour, hminute, hsecond⟩, ?_, hadvance⟩
        cases hnanosecond : clock.merged.nanosecond with
        | none => exact .inl rfl
        | some nanosecond => exact .inr (Option.bind_eq_some_iff.mp hnanosecond)
    · exact absurd h hlacks

theorem NetworkClock.FieldSources.eq (best best' : clock.FieldSources) : best = best' := by
  obtain ⟨_, _, _, _, _, _, hyear, hmonth, hday, hhour, hminute, hsecond⟩ := best
  obtain ⟨_, _, _, _, _, _, hyear', hmonth', hday', hhour', hminute', hsecond'⟩ := best'
  rw [hyear] at hyear'
  rw [hmonth] at hmonth'
  rw [hday] at hday'
  rw [hhour] at hhour'
  rw [hminute] at hminute'
  rw [hsecond] at hsecond'
  cases hyear'
  cases hmonth'
  cases hday'
  cases hhour'
  cases hminute'
  cases hsecond'
  rfl

/-- The fields of a complete source, with its nanoseconds where it has them. -/
theorem PartialNetworkTime.PartOf.toNetworkTime {time : PartialNetworkTime}
    {base full : NetworkTime} (h : time.PartOf full) (hbase : time.toNetworkTime = some base) :
    (base.year = full.year ∧ base.month = full.month ∧ base.day = full.day) ∧
      (base.hour = full.hour ∧ base.minute = full.minute ∧ base.second = full.second) ∧
      (base.nanosecond = 0 ∨ base.nanosecond = full.nanosecond) := by
  simp only [PartialNetworkTime.toNetworkTime, Option.bind_eq_bind, Option.bind_eq_some_iff,
    Option.some.injEq] at hbase
  obtain ⟨year, hyear, month, hmonth, day, hday, hour, hhour, minute, hminute, second,
    hsecond, rfl⟩ := hbase
  refine ⟨⟨h.year _ hyear, h.month _ hmonth, h.day _ hday⟩,
    ⟨h.hour _ hhour, h.minute _ hminute, h.second _ hsecond⟩, ?_⟩
  cases hnanosecond : time.nanosecond with
  | none => exact .inl rfl
  | some nanosecond => exact .inr (h.nanosecond _ hnanosecond)

theorem shownBy_now {anchorNs : UInt64} (h : anchorNs ≤ now) :
    offset + now.toNat = offset + anchorNs.toNat + (saturatingSub now anchorNs).toNat := by
  have hle := UInt64.le_iff_toNat_le.mp h
  rw [toNat_saturatingSub]
  omega

/-- What a reading is that is advanced from fields of the right second, by their day, hour and
minute. -/
theorem NetworkClock.advanced_withinSecond_iff {base : NetworkTime} {anchorNs : UInt64}
    (hrange : base.InRange) (hanchor : anchorNs ≤ now)
    (hsecond : base.second = (shownBy offset anchorNs).second)
    (hadvanced : advanced B base anchorNs now = .ok (some reading))
    (hunixMs : reading.unixTimeMs = some unixMs) :
    ReachesEpoch B now base anchorNs ∧ (WithinSecond unixMs (offset + now.toNat) ↔
      daysFromCivil B base.year base.month base.day =
          .ok ((offset + anchorNs.toNat) / 86400000000000) ∧
        base.hour = (shownBy offset anchorNs).hour ∧
        base.minute = (shownBy offset anchorNs).minute) := by
  obtain ⟨days, ns, hdays, rfl, hreading⟩ := advanced_cases hrange hadvanced
  obtain ⟨hnone, -⟩ | ⟨hpos, r, hr, hread⟩ := hreading
  · cases hnone
  · cases hr
    refine ⟨⟨days, hdays, hpos⟩, ?_⟩
    rw [shownBy_now hanchor, withinSecond_iff hrange hsecond (hread unixMs hunixMs), hdays,
      Except.ok.injEq]
    rfl

theorem NetworkClock.TrueSources.best (htrue : clock.TrueSources offset now)
    {keep : NetworkTimeSourceState → Bool} {src : NetworkTimeSourceState}
    (hbest : clock.bestSource keep = some src) :
    src.time.PartOf (shownBy offset src.anchorMonoNs) ∧ src.anchorMonoNs ≤ now := by
  obtain ⟨⟨name, hsrc⟩, -⟩ := NetworkClock.bestSource_eq_some hbest
  exact ⟨htrue.fields name src hsrc, htrue.anchors name src hsrc⟩

theorem shownBy_inRange (offset : Int) (mono : UInt64) : (shownBy offset mono).InRange :=
  (NetworkTime.shownAt_exists _).inRange

theorem PartialNetworkTime.PartOf.inRange {time : PartialNetworkTime} {base full : NetworkTime}
    (h : time.PartOf full) (hfull : full.InRange) (hbase : time.toNetworkTime = some base) :
    base.InRange := by
  obtain ⟨⟨-, hmonth, hday⟩, ⟨hhour, hminute, hsecond⟩, hnanosecond⟩ := h.toNetworkTime hbase
  refine ⟨hmonth ▸ hfull.1, hday ▸ hfull.2.1, hhour ▸ hfull.2.2.1, hminute ▸ hfull.2.2.2.1,
    hsecond ▸ hfull.2.2.2.2.1, ?_⟩
  obtain hzero | hnanosecond := hnanosecond
  · omega
  · exact hnanosecond ▸ hfull.2.2.2.2.2

/-- No complete source is read: the fields of several sources are put together. -/
theorem NetworkClock.merged_withinSecond_iff (htrue : clock.TrueSources offset now)
    (hnone : ∀ src, ¬clock.FromComplete B now src)
    (hmerged : clock.mergedTime B now = .ok (some reading))
    (hunixMs : reading.unixTimeMs = some unixMs) :
    WithinSecond unixMs (offset + now.toNat) ↔ clock.Consistent B offset now := by
  obtain ⟨best, base, ⟨hyear, hmonth, hday⟩, ⟨hhour, hminute, hsecond⟩, hnanosecond, hadvanced⟩ :=
    mergedTime_reads hmerged hunixMs
  have hyear := (htrue.best best.year_best).1.year _ hyear
  have hmonth := (htrue.best best.month_best).1.month _ hmonth
  have hday := (htrue.best best.day_best).1.day _ hday
  have hhour := (htrue.best best.hour_best).1.hour _ hhour
  have hminute := (htrue.best best.minute_best).1.minute _ hminute
  obtain ⟨hpart, hanchor⟩ := htrue.best best.second_best
  have hsecond := hpart.second _ hsecond
  have hrange : base.InRange := by
    refine ⟨?_, ?_, ?_, ?_, ?_, ?_⟩
    · exact hmonth ▸ (shownBy_inRange _ _).1
    · exact hday ▸ (shownBy_inRange _ _).2.1
    · exact hhour ▸ (shownBy_inRange _ _).2.2.1
    · exact hminute ▸ (shownBy_inRange _ _).2.2.2.1
    · exact hsecond ▸ (shownBy_inRange _ _).2.2.2.2.1
    · obtain hzero | ⟨src, hbest, hnanosecond⟩ := hnanosecond
      · omega
      · exact (htrue.best hbest).1.nanosecond _ hnanosecond ▸ (shownBy_inRange _ _).2.2.2.2.2
  obtain ⟨-, hiff⟩ := advanced_withinSecond_iff hrange hanchor hsecond hadvanced hunixMs
  rw [hiff, hyear, hmonth, hday, hhour, hminute]
  constructor
  · intro hfields
    refine ⟨fun src hsrc => absurd hsrc (hnone src), fun _ best' => ?_⟩
    rw [best'.eq best]
    exact hfields
  · intro hconsistent
    exact hconsistent.merged hnone best

section Complete
variable {src : NetworkTimeSourceState} {base : NetworkTime}
  (hbest : clock.bestSource (fun src => src.time.toNetworkTime.isSome) = some src)
  (hbase : src.time.toNetworkTime = some base)
include hbest hbase

/-- A source that ends before 1970 is not read. -/
theorem NetworkClock.not_fromComplete (hrange : base.InRange)
    (hadvanced : advanced B base src.anchorMonoNs now = .ok none) (src' : NetworkTimeSourceState) :
    ¬clock.FromComplete B now src' := by
  rintro ⟨hbest', base', hbase', days', hdays', hpos⟩
  obtain ⟨days, ns, hdays, rfl, hreads⟩ := advanced_cases hrange hadvanced
  obtain rfl := Option.some.inj (hbest.symm.trans hbest')
  obtain rfl := Option.some.inj (hbase.symm.trans hbase')
  obtain rfl := Except.ok.inj (hdays.symm.trans hdays')
  obtain ⟨-, hneg⟩ | ⟨-, r, hr, -⟩ := hreads
  · omega
  · cases hr

theorem NetworkClock.complete_withinSecond_iff (htrue : clock.TrueSources offset now)
    (hadvanced : advanced B base src.anchorMonoNs now = .ok (some reading))
    (hunixMs : reading.unixTimeMs = some unixMs) :
    WithinSecond unixMs (offset + now.toNat) ↔ clock.Consistent B offset now := by
  obtain ⟨hpart, hanchor⟩ := htrue.best hbest
  have hrange : base.InRange := hpart.inRange (shownBy_inRange _ _) hbase
  obtain ⟨⟨hyear, hmonth, hday⟩, ⟨hhour, hminute, hsecond⟩, -⟩ := hpart.toNetworkTime hbase
  obtain ⟨hreaches, hiff⟩ := advanced_withinSecond_iff hrange hanchor hsecond hadvanced hunixMs
  have hfrom : clock.FromComplete B now src := ⟨hbest, base, hbase, hreaches⟩
  rw [hiff, hyear, hmonth, hday, and_iff_left ⟨hhour, hminute⟩]
  constructor
  · intro hcounts
    refine ⟨fun src' hsrc' => ?_, fun hnone => absurd hfrom (hnone src)⟩
    obtain rfl := Option.some.inj (hbest.symm.trans hsrc'.1)
    exact hcounts
  · intro hconsistent
    exact hconsistent.complete src hfrom

end Complete

/-- A merged reading is within a second of the true time exactly where its fields are shown at the
anchor it is advanced from. -/
theorem merged_time_within_second_iff (htrue : clock.TrueSources offset now)
    (hreading : clock.currentTime B now = .ok (some reading))
    (hunixMs : reading.unixTimeMs = some unixMs) :
    WithinSecond unixMs (offset + now.toNat) ↔ clock.Consistent B offset now := by
  cases hbest : clock.bestSource (fun src => src.time.toNetworkTime.isSome) with
  | none =>
    apply NetworkClock.merged_withinSecond_iff htrue _ _ hunixMs
    · intro src hsrc
      rw [NetworkClock.FromComplete, hbest] at hsrc
      cases hsrc.1
    · unfold NetworkClock.currentTime at hreading
      split at hreading
      · cases hreading
      · simpa only [hbest, Option.bind_none] using hreading
  | some src =>
    obtain ⟨base, hbase⟩ := Option.isSome_iff_exists.mp (NetworkClock.bestSource_eq_some hbest).2
    rw [NetworkClock.currentTime_of_best now hbest hbase] at hreading
    obtain ⟨advance, hadvance, hreading⟩ := bind_eq_ok.mp hreading
    cases advance with
    | none =>
      have hrange : base.InRange := (htrue.best hbest).1.inRange (shownBy_inRange _ _) hbase
      exact NetworkClock.merged_withinSecond_iff htrue
        (NetworkClock.not_fromComplete hbest hbase hrange hadvance) hreading hunixMs
    | some advance =>
      cases hreading
      exact NetworkClock.complete_withinSecond_iff hbest hbase htrue hadvance hunixMs

end Reading

section Midnight

/-- The date is set at the one time and the time of day at the other. -/
def dateThenTimeClock (offset : Int) (dateNs timeNs : UInt64) : NetworkClock :=
  let date := shownBy offset dateNs
  let time := shownBy offset timeNs
  (NetworkClock.updateSource {} "__timesync_local_date__" ⟨1, 0, dateNs, none,
      { year := some date.year, month := some date.month, day := some date.day }⟩).updateSource
    "__timesync_local_tod__" ⟨1, 0, timeNs, none,
      { hour := some time.hour, minute := some time.minute, second := some time.second }⟩

theorem dateThenTimeClock_true (offset : Int) {dateNs timeNs now : UInt64} (hdate : dateNs ≤ now)
    (htime : timeNs ≤ now) : (dateThenTimeClock offset dateNs timeNs).TrueSources offset now := by
  have hsources : ∀ (name : String) src,
      (dateThenTimeClock offset dateNs timeNs).sources[name]? = some src →
        src.time.PartOf (shownBy offset src.anchorMonoNs) ∧ src.anchorMonoNs ≤ now := by
    intro name src hsrc
    simp only [dateThenTimeClock, NetworkClock.updateSource, OrdMap.get?_insert] at hsrc
    split at hsrc
    · cases hsrc
      refine ⟨?_, htime⟩
      constructor <;> simp
    · split at hsrc
      · cases hsrc
        refine ⟨?_, hdate⟩
        constructor <;> simp
      · simp at hsrc
  exact ⟨fun name src hsrc => (hsources name src hsrc).1,
    fun name src hsrc => (hsources name src hsrc).2⟩

theorem merged_time_within_second_iff_noon :
    WithinSecond 1700000003000 (1700000000000000000 + (3000000000 : UInt64).toNat) ↔
      (dateThenTimeClock 1700000000000000000 0 2000000000).Consistent hostBuild
        1700000000000000000 3000000000 :=
  @merged_time_within_second_iff hostBuild (dateThenTimeClock 1700000000000000000 0 2000000000)
    1700000000000000000 3000000000 1700000003000
    ⟨.ofFull (NetworkTime.shownAt 1700000003000000000), some 1700000003000⟩
    (dateThenTimeClock_true _ (by decide) (by decide)) (by decide +kernel) rfl

/-- A date set a second before midnight and a time of day set a second behind it. -/
theorem merged_time_a_day_late :
    (dateThenTimeClock 1700006399000000000 0 2000000000).TrueSources 1700006399000000000
        2000000000 ∧
      (dateThenTimeClock 1700006399000000000 0 2000000000).currentTime hostBuild 2000000000 =
        .ok (some ⟨.ofFull (NetworkTime.shownAt 1699920001000000000), some 1699920001000⟩) ∧
      ¬WithinSecond 1699920001000 (1700006399000000000 + (2000000000 : UInt64).toNat) := by
  refine ⟨dateThenTimeClock_true _ (by decide) (by decide), ?_, ?_⟩
  · decide +kernel
  · rintro ⟨hlow, -⟩
    exact absurd hlow (by decide)

end Midnight
end Sedsprintf
