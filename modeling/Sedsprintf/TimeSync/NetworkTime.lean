import Sedsprintf.Node
import Sedsprintf.Lib.Least
import Sedsprintf.Lib.Calendar
import Mathlib.Data.String.Basic

/-!
# Network time

src/timesync.rs:157-573: calendar readings, the merging of partial ones, and the clock that
slews towards the time it is told. Nanoseconds since 1970 are `i128` in the source and
integers here; the additions it saturates are saturated at the same bounds.
-/
namespace Sedsprintf

open Lib

section Integers

/-- The value of a signed integer of that many bits that keeps the low bits of `x`. -/
def asSigned (bits : Nat) (x : Int) : Int := x.bmod (2 ^ bits)

/-- The result of an operator on signed integers of that many bits. -/
def Build.signed (B : Build) (bits : Nat) (operator : String) (x : Int) : Outcome Int :=
  if asSigned bits x = x then .ok x
  else if B.overflowChecks then panics ("attempt to " ++ operator ++ " with overflow")
  else .ok (asSigned bits x)

/-- `saturating_add` and its kin on `i128`. -/
def saturateI128 (x : Int) : Int := max (-2 ^ 127) (min (2 ^ 127 - 1) x)

/-- `saturating_add` on `u64`. -/
def saturatingAdd (a b : UInt64) : UInt64 :=
  if a.toNat + b.toNat < 2 ^ 64 then a + b else 0xFFFFFFFFFFFFFFFF

theorem toNat_saturatingSub (a b : UInt64) : (saturatingSub a b).toNat = a.toNat - b.toNat := by
  unfold saturatingSub
  split
  · rename_i hle
    rw [UInt64.toNat_sub_of_le a b hle]
  · rename_i hlt
    simp only [UInt64.le_iff_toNat_le] at hlt
    have hzero : (0 : UInt64).toNat = 0 := rfl
    omega

/-- `u64::try_from(…).ok()`. -/
def u64TryFrom (x : Int) : Option UInt64 :=
  if 0 ≤ x ∧ x < 2 ^ 64 then some (UInt64.ofNat x.toNat) else none

theorem asSigned_of_mem {bits : Nat} {x : Int} (hbits : 0 < bits) (hlow : -2 ^ (bits - 1) ≤ x)
    (hhigh : x < 2 ^ (bits - 1)) : asSigned bits x = x := by
  obtain ⟨k, rfl⟩ : ∃ k, bits = k + 1 := ⟨bits - 1, by omega⟩
  simp only [Nat.add_sub_cancel] at hlow hhigh
  rw [asSigned]
  have hpow : ((2 ^ (k + 1) : Nat) : Int) = 2 ^ k * 2 := by push_cast; ring
  apply Int.bmod_eq_of_le
  · rw [hpow]; omega
  · rw [hpow]; omega

theorem Build.signed_of_mem (B : Build) {bits : Nat} {operator : String} {x : Int} (hbits : 0 < bits)
    (hlow : -2 ^ (bits - 1) ≤ x) (hhigh : x < 2 ^ (bits - 1)) :
    B.signed bits operator x = .ok x := by
  rw [Build.signed, if_pos (asSigned_of_mem hbits hlow hhigh)]

end Integers

section Calendar
variable (B : Build)

/-- `days_from_civil`. The caller has checked month and day, so what depends on these alone
stays small. -/
def daysFromCivil (year : Int) (month day : Nat) : Outcome Int := do
  let year ← B.signed 32 "subtract" (year - if month ≤ 2 then 1 else 0)
  let shifted ← if 0 ≤ year then .ok year else B.signed 32 "subtract" (year - 399)
  let era := shifted.tdiv 400
  let yoe := year - era * 400
  let mp : Int := month + if 2 < month then -3 else 9
  let doy := (153 * mp + 2).tdiv 5 + day - 1
  let doe := yoe * 365 + yoe.tdiv 4 - yoe.tdiv 100 + doy
  let days ← B.signed 32 "multiply" (era * 146097)
  let days ← B.signed 32 "add" (days + doe)
  B.signed 32 "subtract" (days - 719468)

/-- `civil_from_days`. -/
def civilFromDays (z : Int) : Outcome (Int × Nat × Nat) := do
  let z ← B.signed 64 "add" (z + 719468)
  let era := (if 0 ≤ z then z else z - 146096).tdiv 146097
  let doe := z - era * 146097
  let yoe := (doe - doe.tdiv 1460 + doe.tdiv 36524 - doe.tdiv 146096).tdiv 365
  let centuries ← B.signed 32 "multiply" (asSigned 32 era * 400)
  let y ← B.signed 32 "add" (asSigned 32 yoe + centuries)
  let doy := doe - (365 * yoe + yoe.tdiv 4 - yoe.tdiv 100)
  let mp := (5 * doy + 2).tdiv 153
  let d := doy - (153 * mp + 2).tdiv 5 + 1
  let m := mp + if mp < 10 then 3 else -9
  let y ← B.signed 32 "add" (y + if m ≤ 2 then 1 else 0)
  .ok (y, m.toNat, d.toNat)

theorem tdiv_of_nonneg {x : Int} (k : Int) (h : 0 ≤ x) : x.tdiv k = x / k :=
  Int.tdiv_eq_ediv_of_nonneg h

theorem yearOfCycle_tdiv {doe : Int} (h : 0 ≤ doe) :
    (doe - doe.tdiv 1460 + doe.tdiv 36524 - doe.tdiv 146096).tdiv 365 = yearOfCycle doe := by
  rw [tdiv_of_nonneg _ h, tdiv_of_nonneg _ h, tdiv_of_nonneg _ h, tdiv_of_nonneg _ (by omega)]
  rfl

theorem dayOfYear_tdiv {doe : Int} (h : 0 ≤ yearOfCycle doe) :
    doe - (365 * yearOfCycle doe + (yearOfCycle doe).tdiv 4 - (yearOfCycle doe).tdiv 100) =
      dayOfYear doe := by
  rw [tdiv_of_nonneg _ h, tdiv_of_nonneg _ h]
  rfl

/-- The calendar reaches past the last millisecond of a `u64`. -/
theorem civilFromDays_eq {z : Int} (hlow : 0 ≤ z) (hhigh : z < 2 ^ 38) :
    civilFromDays B z =
      .ok ((Date.ofNumber z).year, (Date.ofNumber z).month, (Date.ofNumber z).day) := by
  obtain ⟨⟨hpos, hle⟩, -, -⟩ := marchDayOf_bounds z
  obtain ⟨⟨hfirst, hlast⟩, -⟩ := monthOfYear_bounds hpos hle
  obtain ⟨⟨hyoe, hyoe'⟩, -⟩ :=
    @dayOfYear_bounds ((z + 719468) % 146097) (by omega) (by omega) 0
  have hera : asSigned 32 ((z + 719468) / 146097) = (z + 719468) / 146097 :=
    asSigned_of_mem (by decide) (by omega) (by omega)
  have hdoe : z + 719468 - (z + 719468) / 146097 * 146097 = (z + 719468) % 146097 := by omega
  have hyear : marchYearOf z = yearOfCycle ((z + 719468) % 146097) +
      400 * ((z + 719468) / 146097) := rfl
  have hday : dayOfYear ((z + 719468) % 146097) = marchDayOf z := rfl
  have hmp : (5 * marchDayOf z + 2).tdiv 153 = monthOfYear (marchDayOf z) :=
    tdiv_of_nonneg _ (by omega)
  change civilFromDays B z = .ok (civilYear (marchYearOf z) (monthOfYear (marchDayOf z)),
    (civilMonth (monthOfYear (marchDayOf z))).toNat, (dayOfMonth (marchDayOf z)).toNat)
  unfold civilFromDays civilYear civilMonth dayOfMonth
  rw [hyear, B.signed_of_mem (by decide) (by omega) (by omega), ok_bind, if_pos (by omega),
    tdiv_of_nonneg _ (by omega)]
  dsimp only
  rw [hdoe, hera, yearOfCycle_tdiv (by omega), dayOfYear_tdiv hyoe, hday, hmp,
    tdiv_of_nonneg 5 (by omega), asSigned_of_mem (by decide) (by omega) (by omega),
    B.signed_of_mem (by decide) (by omega) (by omega), ok_bind,
    B.signed_of_mem (by decide) (by omega) (by omega), ok_bind]
  generalize monthOfYear (marchDayOf z) = month at hfirst hlast ⊢
  rw [B.signed_of_mem (by decide) (by split <;> omega) (by split <;> omega), ok_bind]
  refine congrArg Except.ok (Prod.ext ?_ rfl)
  dsimp only
  omega

/-- The date and time of day; the year is an `i32`, the other fields are unsigned. -/
structure NetworkTime where
  year : Int
  month : Nat
  day : Nat
  hour : Nat
  minute : Nat
  second : Nat
  nanosecond : Nat
  deriving DecidableEq, Repr

namespace NetworkTime

def fromUnixNs (unixNs : Int) : Outcome (Option NetworkTime) :=
  if unixNs < 0 then .ok none
  else do
    let secs := unixNs / 1000000000
    let sod := (secs % 86400).toNat
    let (year, month, day) ← civilFromDays B (asSigned 64 (secs / 86400))
    .ok (some ⟨year, month, day, sod / 3600, sod % 3600 / 60, sod % 60,
      (unixNs % 1000000000).toNat⟩)

/-- The ranges `as_unix_ns` accepts; the day is not held against the month. -/
def InRange (time : NetworkTime) : Prop :=
  (1 ≤ time.month ∧ time.month ≤ 12) ∧ (1 ≤ time.day ∧ time.day ≤ 31) ∧
    time.hour ≤ 23 ∧ time.minute ≤ 59 ∧ time.second ≤ 59 ∧ time.nanosecond < 1000000000

instance (time : NetworkTime) : Decidable time.InRange :=
  inferInstanceAs (Decidable (_ ∧ _))

def asUnixNs (time : NetworkTime) : Outcome (Option Int) :=
  if time.InRange then do
    let days ← daysFromCivil B time.year time.month time.day
    let secs : Int := days * 86400 + time.hour * 3600 + time.minute * 60 + time.second
    .ok (some (secs * 1000000000 + time.nanosecond))
  else .ok none

def asUnixMs (time : NetworkTime) : Outcome (Option UInt64) := do
  match ← time.asUnixNs B with
  | none => .ok none
  | some unixNs => .ok (if unixNs < 0 then none else u64TryFrom (unixNs / 1000000))

/-- `advance_network_time`. -/
def advance (base : NetworkTime) (elapsedNs : UInt64) : Outcome (Option NetworkTime) := do
  match ← base.asUnixNs B with
  | none => .ok none
  | some unixNs => fromUnixNs B (unixNs + elapsedNs.toNat)

end NetworkTime

structure PartialNetworkTime where
  year : Option Int := none
  month : Option Nat := none
  day : Option Nat := none
  hour : Option Nat := none
  minute : Option Nat := none
  second : Option Nat := none
  nanosecond : Option Nat := none
  deriving DecidableEq, Repr

namespace PartialNetworkTime

/-- `From<NetworkTime>`. -/
def ofFull (time : NetworkTime) : PartialNetworkTime :=
  ⟨some time.year, some time.month, some time.day, some time.hour, some time.minute,
    some time.second, some time.nanosecond⟩

def fromUnixMs (unixMs : UInt64) : Outcome PartialNetworkTime := do
  let full ← NetworkTime.fromUnixNs B (1000000 * unixMs.toNat)
  .ok ((full.map ofFull).getD {})

theorem fromUnixMs_ok (unixMs : UInt64) :
    ∃ time, fromUnixMs B unixMs = .ok time := by
  have hbound := unixMs.toNat_lt
  have hdays : asSigned 64 ((1000000 * unixMs.toNat : Int) / 1000000000 / 86400) =
      (1000000 * unixMs.toNat : Int) / 1000000000 / 86400 :=
    asSigned_of_mem (by decide) (by omega) (by omega)
  have hdate := civilFromDays_eq B
    (show 0 ≤ (1000000 * unixMs.toNat : Int) / 1000000000 / 86400 by omega) (by omega)
  rw [fromUnixMs, NetworkTime.fromUnixNs, if_neg (by omega)]
  simp only [hdays, hdate, ok_bind]
  exact ⟨_, rfl⟩
def isCompleteDate (time : PartialNetworkTime) : Bool :=
  time.year.isSome && time.month.isSome && time.day.isSome

def isCompleteTime (time : PartialNetworkTime) : Bool :=
  time.hour.isSome && time.minute.isSome && time.second.isSome

def toNetworkTime (time : PartialNetworkTime) : Option NetworkTime := do
  let year ← time.year
  let month ← time.month
  let day ← time.day
  let hour ← time.hour
  let minute ← time.minute
  let second ← time.second
  some ⟨year, month, day, hour, minute, second, time.nanosecond.getD 0⟩

end PartialNetworkTime

structure NetworkTimeReading where
  time : PartialNetworkTime
  unixTimeMs : Option UInt64
  deriving DecidableEq, Repr

end Calendar

/-- The clock holds `anchorUnixNs` at `anchorMonoNs` and still owes `pendingAdjustNs`. -/
structure SlewedNetworkClock where
  anchorMonoNs : UInt64
  anchorUnixNs : Int
  pendingAdjustNs : Int
  maxSlewPpm : Nat
  initialized : Bool
  maxSlewPpm_le : maxSlewPpm ≤ 999999
  deriving DecidableEq, Repr

namespace SlewedNetworkClock

def new (maxSlewPpm : Nat) : SlewedNetworkClock where
  anchorMonoNs := 0
  anchorUnixNs := 0
  pendingAdjustNs := 0
  maxSlewPpm := min maxSlewPpm 999999
  initialized := false
  maxSlewPpm_le := Nat.min_le_right _ _

/-- Since the anchor. -/
def elapsedNs (clock : SlewedNetworkClock) (now : UInt64) : Int :=
  (saturatingSub now clock.anchorMonoNs).toNat

/-- The part of what the clock owes that it may have paid by now. The source's negation
overflows where `i128::MIN` is owed, and only there. -/
def appliedAdjustNs (clock : SlewedNetworkClock) (now : UInt64) : Int :=
  let maxAdjust := (saturateI128 (clock.elapsedNs now * clock.maxSlewPpm)).tdiv 1000000
  if 0 ≤ clock.pendingAdjustNs then min clock.pendingAdjustNs maxAdjust
  else -min (-clock.pendingAdjustNs) maxAdjust

def readUnixNs (clock : SlewedNetworkClock) (now : UInt64) : Option Int :=
  if clock.initialized then
    some (saturateI128 (saturateI128 (clock.anchorUnixNs + clock.elapsedNs now) +
      clock.appliedAdjustNs now))
  else none

def readUnixMs (clock : SlewedNetworkClock) (now : UInt64) : Option UInt64 :=
  (clock.readUnixNs now).bind fun unixNs =>
    if unixNs < 0 then none else u64TryFrom (unixNs / 1000000)

/-- `steer_unix_ms`: what is still owed and what the target is ahead add up. -/
def steerUnixMs (clock : SlewedNetworkClock) (now targetMs : UInt64) : SlewedNetworkClock :=
  let target : Int := targetMs.toNat * 1000000
  match clock.readUnixNs now with
  | none => { clock with
      anchorMonoNs := now, anchorUnixNs := target, pendingAdjustNs := 0, initialized := true }
  | some current => { clock with
      anchorMonoNs := now
      anchorUnixNs := current
      pendingAdjustNs := saturateI128 (saturateI128 (clock.pendingAdjustNs -
        clock.appliedAdjustNs now) + saturateI128 (target - current)) }

end SlewedNetworkClock

structure NetworkTimeSourceState where
  priority : UInt64
  updatedMonoMs : UInt64
  anchorMonoNs : UInt64
  ttlMs : Option UInt64
  time : PartialNetworkTime
  deriving DecidableEq, Repr

structure NetworkClock where
  sources : OrdMap String NetworkTimeSourceState := ∅

namespace NetworkClock
variable (B : Build)

def updateSource (clock : NetworkClock) (source : String) (state : NetworkTimeSourceState) :
    NetworkClock :=
  ⟨clock.sources.insert source state⟩

def removeSource (clock : NetworkClock) (source : String) : NetworkClock :=
  ⟨clock.sources.erase source⟩

def pruneExpired (clock : NetworkClock) (now : UInt64) : NetworkClock :=
  ⟨clock.sources.filter fun _ src =>
    src.ttlMs.all fun ttl => saturatingSub now src.updatedMonoMs ≤ ttl⟩

/-- What `best_source` does not drop for another. -/
def Holds (held src : String × NetworkTimeSourceState) : Prop :=
  ¬(src.2.priority < held.2.priority ∨ src.2.priority = held.2.priority ∧ src.1 < held.1)

instance : DecidableRel Holds := fun held src =>
  inferInstanceAs (Decidable
    ¬(src.2.priority < held.2.priority ∨ src.2.priority = held.2.priority ∧ src.1 < held.1))

/-- `best_source`: the lowest priority, and among equals the first name. -/
def bestSource (clock : NetworkClock) (keep : NetworkTimeSourceState → Bool) :
    Option NetworkTimeSourceState :=
  (firstLeast Holds (clock.sources.toList.filter fun src => keep src.2)).map Prod.snd

/-- The reading of a complete base, as far as it can be advanced. -/
def advanced (base : NetworkTime) (anchorNs now : UInt64) :
    Outcome (Option NetworkTimeReading) := do
  match ← base.advance B (saturatingSub now anchorNs) with
  | none => .ok none
  | some time => do
    let unixMs ← time.asUnixMs B
    .ok (some ⟨.ofFull time, unixMs⟩)

/-- The best source of every field. -/
def merged (clock : NetworkClock) : PartialNetworkTime where
  year := (clock.bestSource fun src => src.time.year.isSome).bind fun src => src.time.year
  month := (clock.bestSource fun src => src.time.month.isSome).bind fun src => src.time.month
  day := (clock.bestSource fun src => src.time.day.isSome).bind fun src => src.time.day
  hour := (clock.bestSource fun src => src.time.hour.isSome).bind fun src => src.time.hour
  minute := (clock.bestSource fun src => src.time.minute.isSome).bind fun src => src.time.minute
  second := (clock.bestSource fun src => src.time.second.isSome).bind fun src => src.time.second
  nanosecond :=
    (clock.bestSource fun src => src.time.nanosecond.isSome).bind fun src => src.time.nanosecond

/-- The source whose anchor a merged time of day counts from. -/
def timeSource (clock : NetworkClock) : Option NetworkTimeSourceState :=
  (clock.bestSource fun src => src.time.second.isSome).or
    ((clock.bestSource fun src => src.time.minute.isSome).or
      (clock.bestSource fun src => src.time.hour.isSome))

/-- The tail of `current_time`, behind the complete sources. -/
def mergedTime (clock : NetworkClock) (now : UInt64) : Outcome (Option NetworkTimeReading) :=
  let time := clock.merged
  match clock.timeSource with
  | none => .ok (some ⟨time, none⟩)
  | some src =>
    if time.isCompleteDate && time.isCompleteTime then do
      let time := { time with nanosecond := time.nanosecond.or (some 0) }
      match time.toNetworkTime with
      | none => .ok none
      | some base => do
        let reading ← advanced B base src.anchorMonoNs now
        .ok (reading.or (some ⟨time, none⟩))
    else .ok (some ⟨time, none⟩)

def currentTime (clock : NetworkClock) (now : UInt64) : Outcome (Option NetworkTimeReading) :=
  if clock.sources.isEmpty then .ok none
  else
    let full := clock.bestSource fun src => src.time.toNetworkTime.isSome
    match full.bind fun src => src.time.toNetworkTime.map fun base => (base, src) with
    | none => clock.mergedTime B now
    | some (base, src) => do
      match ← advanced B base src.anchorMonoNs now with
      | some reading => .ok (some reading)
      | none => clock.mergedTime B now

end NetworkClock
end Sedsprintf
