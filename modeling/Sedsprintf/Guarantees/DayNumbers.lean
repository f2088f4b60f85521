import Sedsprintf.Guarantees.Calendar

/-!
# Day numbers

src/timesync.rs:551-573 and src/packet.rs:863-877. The two copies of `civil_from_days` differ in the
integers they count the days of a year with. Both find the date that is reached from the first of
January 1970 day after day.
-/
namespace Sedsprintf

open Lib IntType

namespace Packet
variable (B : Build)

/-- `civil_from_days` of src/packet.rs; the day of the year and what follows are `i32`. -/
def civilFromDays (z : Int) : Outcome (Int × Nat × Nat) := do
  let z ← B.signed 64 "add" (z + 719468)
  let era := (if 0 ≤ z then z else z - 146096).tdiv 146097
  let doe := z - era * 146097
  let yoe := (doe - doe.tdiv 1460 + doe.tdiv 36524 - doe.tdiv 146096).tdiv 365
  let centuries ← B.signed 32 "multiply" (asSigned 32 era * 400)
  let y ← B.signed 32 "add" (asSigned 32 yoe + centuries)
  let doy := asSigned 32 (doe - (365 * yoe + yoe.tdiv 4 - yoe.tdiv 100))
  let mp := (5 * doy + 2).tdiv 153
  let d := doy - (153 * mp + 2).tdiv 5 + 1
  let m := mp + if mp < 10 then 3 else -9
  let y ← B.signed 32 "add" (y + if m ≤ 2 then 1 else 0)
  .ok (y, m.toNat, d.toNat)

/-- What it computes and casts, and the types it has for that. -/
def civilFromDaysValues (z : Int) : List (IntType × Int) :=
  let shifted := z + 719468
  let floored := if 0 ≤ shifted then shifted else shifted - 146096
  let era := floored.tdiv 146097
  let doe := shifted - era * 146097
  let yoe := (doe - doe.tdiv 1460 + doe.tdiv 36524 - doe.tdiv 146096).tdiv 365
  let doy := doe - (365 * yoe + yoe.tdiv 4 - yoe.tdiv 100)
  let mp := (5 * doy + 2).tdiv 153
  let d := doy - (153 * mp + 2).tdiv 5 + 1
  let m := mp + if mp < 10 then 3 else -9
  [(i64, shifted), (i64, floored), (i64, era * 146097), (i64, doe), (i32, yoe), (i32, era),
    (i32, era * 400), (i32, yoe + era * 400), (i32, doy), (i32, 5 * doy + 2), (i32, mp),
    (i32, 153 * mp + 2), (i32, d), (u32, d), (i32, m), (u32, m),
    (i32, yoe + era * 400 + if m ≤ 2 then 1 else 0)]

end Packet

section Copies
variable {z : Int}

/-- The day of the year on the way. -/
theorem dayOfYear_fits (hlow : 0 ≤ z) :
    let doe := z + 719468 - (if 0 ≤ z + 719468 then z + 719468 else z + 719468 - 146096).tdiv 146097 *
      146097
    let yoe := (doe - doe.tdiv 1460 + doe.tdiv 36524 - doe.tdiv 146096).tdiv 365
    let doy := doe - (365 * yoe + yoe.tdiv 4 - yoe.tdiv 100)
    0 ≤ doy ∧ doy ≤ 365 := by
  obtain ⟨⟨hyoe, -⟩, hday, -⟩ :=
    @dayOfYear_bounds ((z + 719468) % 146097) (by omega) (by omega) 0
  have hdoe : z + 719468 - (z + 719468) / 146097 * 146097 = (z + 719468) % 146097 := by omega
  dsimp only
  rw [if_pos (by omega), tdiv_of_nonneg 146097 (by omega), hdoe, yearOfCycle_tdiv (by omega),
    dayOfYear_tdiv hyoe]
  exact hday

/-- Narrower integers make no difference. -/
theorem Packet.civilFromDays_eq (B : Build) (hlow : 0 ≤ z) (hhigh : z < 2 ^ 38) :
    Packet.civilFromDays B z = Sedsprintf.civilFromDays B z := by
  obtain ⟨hfirst, hlast⟩ := dayOfYear_fits hlow
  unfold Packet.civilFromDays Sedsprintf.civilFromDays
  rw [B.signed_of_mem (by decide) (by omega) (by omega), ok_bind, ok_bind]
  dsimp only at hfirst hlast ⊢
  rw [asSigned_of_mem (x := _ - (365 * _ + _ - _)) (by decide) (by omega) (by omega)]

theorem Packet.civilFromDaysValues_hold (hlow : 0 ≤ z) (hhigh : z < 2 ^ 38) :
    ∀ v ∈ Packet.civilFromDaysValues z, v.1.Holds v.2 := by
  obtain ⟨hfirst, hlast⟩ := dayOfYear_fits hlow
  have hwide := Sedsprintf.civilFromDaysValues_hold hlow hhigh
  unfold Sedsprintf.civilFromDaysValues at hwide
  unfold Packet.civilFromDaysValues
  dsimp only at hfirst hlast hwide ⊢
  generalize (if 0 ≤ z + 719468 then z + 719468 else z + 719468 - 146096).tdiv 146097 = era
    at hfirst hlast hwide ⊢
  generalize z + 719468 - era * 146097 = doe at hfirst hlast hwide ⊢
  generalize (doe - doe.tdiv 1460 + doe.tdiv 36524 - doe.tdiv 146096).tdiv 365 = yoe
    at hfirst hlast hwide ⊢
  generalize doe - (365 * yoe + yoe.tdiv 4 - yoe.tdiv 100) = doy at hfirst hlast hwide ⊢
  have hmp : (5 * doy + 2).tdiv 153 = (5 * doy + 2) / 153 := tdiv_of_nonneg 153 (by omega)
  rw [hmp, tdiv_of_nonneg 5 (by omega)] at hwide ⊢
  simp only [List.forall_mem_cons, Holds, u8, u32, i32, i64] at hwide ⊢
  obtain ⟨hshifted, hfloored, hcycles, hdoe, hyoe, hera, hcenturies, hsum, -, -, -, -, hd, -, hm, -,
    hyear, -⟩ := hwide
  refine ⟨hshifted, hfloored, hcycles, hdoe, hyoe, hera, hcenturies, hsum, ?_, ?_, ?_, ?_, ?_, hd,
    ?_, hm, hyear, by simp⟩
  all_goals omega

end Copies

/-- Both copies find the date that is so many days behind the first of January 1970, without an
overflow, and `days_from_civil` counts it back wherever it does not overflow. -/
theorem day_numbers_are_gregorian (B : Build) {z : Nat} (hz : z ≤ (2 ^ 64 - 1) / 86400000) :
    (civilFromDays B z =
        .ok ((Date.after z).year, (Date.after z).month, (Date.after z).day) ∧
      ∀ v ∈ civilFromDaysValues z, v.1.Holds v.2) ∧
    (Packet.civilFromDays B z =
        .ok ((Date.after z).year, (Date.after z).month, (Date.after z).day) ∧
      ∀ v ∈ Packet.civilFromDaysValues z, v.1.Holds v.2) ∧
    ((∀ v ∈ daysFromCivilValues (Date.after z).year (Date.after z).month (Date.after z).day,
        v.1.Holds v.2) →
      daysFromCivil B (Date.after z).year (Date.after z).month (Date.after z).day = .ok z) := by
  have hlow : (0 : Int) ≤ z := by omega
  have hhigh : (z : Int) < 2 ^ 38 := by omega
  have hdate := civilFromDays_eq B hlow hhigh
  rw [Date.ofNumber_eq_after] at hdate
  refine ⟨⟨hdate, civilFromDaysValues_hold hlow hhigh⟩,
    ⟨(Packet.civilFromDays_eq B hlow hhigh).trans hdate, Packet.civilFromDaysValues_hold hlow hhigh⟩,
    fun hfits => ?_⟩
  have hnumber : dayNumber (Date.after z).year (Date.after z).month (Date.after z).day = z :=
    Date.number_after z
  have hyears : 1970 ≤ (Date.after z).year ∧ (Date.after z).year < 2 ^ 31 := by
    have hshown := @NetworkTime.shownAt_year (86400000000000 * z) (by omega) (by omega)
    have hday : (86400000000000 * z : Int) / 86400000000000 = z := by omega
    rw [NetworkTime.shownAt, hday, Date.ofNumber_eq_after] at hshown
    exact hshown
  have hend := (daysFromCivilValues_hold_iff (by omega) hyears.2 (Date.month_pos _) (Date.month_le _)
    (Date.day_pos _) (Date.day_le_31 _)).mp hfits
  rw [daysFromCivil_eq B (by omega) hyears.2 (Date.month_pos _) (Date.month_le _) (Date.day_pos _)
    hend, hnumber]

/-- The 29th of February 2024. -/
theorem day_numbers_are_gregorian_leap :
    19782 ≤ (2 ^ 64 - 1) / 86400000 ∧
      (civilFromDays hostBuild (19782 : Nat) =
          .ok ((Date.after 19782).year, (Date.after 19782).month, (Date.after 19782).day) ∧
        ∀ v ∈ civilFromDaysValues (19782 : Nat), v.1.Holds v.2) :=
  ⟨by decide, (@day_numbers_are_gregorian hostBuild 19782 (by decide)).1⟩

end Sedsprintf
