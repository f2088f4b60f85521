import Sedsprintf.TimeSync.Slewing

/-!
# A clock that never steps

src/timesync.rs:325-396. The part of the time gone by that a clock may slew is rounded down to
whole nanoseconds at every reading, counted from its anchor.
-/
namespace Sedsprintf

namespace SlewedNetworkClock

/-- At times that do not decrease: the steerings before a reading, the reading, the steerings
behind it, and another reading. -/
def InOrder (before : List (UInt64 × UInt64)) (first : UInt64) (between : List (UInt64 × UInt64))
    (second : UInt64) : Prop :=
  (before.map Prod.fst ++ first :: (between.map Prod.fst ++ [second])).Pairwise (· ≤ ·)

instance (before : List (UInt64 × UInt64)) (first : UInt64) (between : List (UInt64 × UInt64))
    (second : UInt64) : Decidable (InOrder before first between second) :=
  inferInstanceAs (Decidable (List.Pairwise _ _))

section Runs
variable {maxSlewPpm : Nat} {before between : List (UInt64 × UInt64)} {first second : UInt64}

theorem initialized_of_reading {clock : SlewedNetworkClock} {now : UInt64} {ns : Int}
    (h : clock.readUnixNs now = some ns) : clock.initialized = true := by
  cases hset : clock.initialized with
  | true => rfl
  | false =>
    rw [readUnixNs, hset] at h
    cases h

/-- As it is at the first reading. -/
theorem sound_of_inOrder (maxSlewPpm : Nat) (hcount : before.length + between.length < 2 ^ 40)
    (horder : InOrder before first between second) :
    ((new maxSlewPpm).steerAll before).Sound before.length ∧
      ((new maxSlewPpm).steerAll before).maxSlewPpm = min maxSlewPpm 999999 ∧
      ((new maxSlewPpm).steerAll before).anchorMonoNs ≤ first := by
  have htimes : ((new maxSlewPpm).anchorMonoNs :: (before.map Prod.fst ++ [first])).Pairwise
      (· ≤ ·) := by
    refine List.pairwise_cons.mpr ⟨fun time _ => UInt64.le_iff_toNat_le.mpr (Nat.zero_le _), ?_⟩
    refine horder.sublist (List.Sublist.append_left ?_ _)
    exact List.singleton_sublist.mpr (List.mem_cons_self ..)
  obtain ⟨hsound, hppm, hanchor⟩ := (new_sound maxSlewPpm).steerAll (by omega) htimes
  rw [Nat.zero_add] at hsound
  exact ⟨hsound, hppm, hanchor⟩

/-- A clock never goes back, a steering does not change what it shows, and from one reading to
another it advances at a rate of its slew rate around one, up to a nanosecond in all. -/
theorem slewed_clock_never_steps {x y : Int} (hcount : before.length + between.length < 2 ^ 40)
    (horder : InOrder before first between second)
    (hx : ((new maxSlewPpm).steerAll before).readUnixNs first = some x)
    (hy : ((new maxSlewPpm).steerAll (before ++ between)).readUnixNs second = some y) :
    x ≤ y ∧
      (∀ targetMs, (((new maxSlewPpm).steerAll before).steerUnixMs first targetMs).readUnixNs first =
        some x) ∧
      (1000000 - min maxSlewPpm 999999 : Int) * (second.toNat - first.toNat) <
        1000000 * (y - x) + 1000000 ∧
      1000000 * (y - x) <
        (1000000 + min maxSlewPpm 999999 : Int) * (second.toNat - first.toNat) + 1000000 := by
  obtain ⟨hsound, hppm, hanchor⟩ := sound_of_inOrder maxSlewPpm hcount horder
  have hset := initialized_of_reading hx
  rw [steerAll_append] at hy
  have hrest : (first :: (between.map Prod.fst ++ [second])).Pairwise (· ≤ ·) :=
    horder.sublist (List.sublist_append_right _ _)
  have htimes : (((new maxSlewPpm).steerAll before).anchorMonoNs ::
      (between.map Prod.fst ++ [second])).Pairwise (· ≤ ·) := by
    obtain ⟨hfirst, hlater⟩ := List.pairwise_cons.mp hrest
    exact List.pairwise_cons.mpr ⟨fun time htime => UInt64.le_trans hanchor (hfirst time htime), hlater⟩
  have hsound' := (hsound.steerAll (by omega) htimes).1
  obtain ⟨hmono, hslow, hfast⟩ := hsound.advance hset (by omega) hanchor hrest
  rw [hsound.readUnixNs_eq hset, Option.some.injEq] at hx
  rw [hsound'.readUnixNs_eq (initialized_of_reading hy), Option.some.injEq] at hy
  rw [hx, hy] at hmono
  rw [hx, hy, hppm] at hslow hfast
  refine ⟨hmono, fun targetMs => ?_, hslow, hfast⟩
  obtain ⟨hsteered, hset', -, -, -⟩ := hsound.steer (by omega) hanchor targetMs
  rw [hsteered.readUnixNs_eq hset', hsound.valueNs_steer (by omega) hset hanchor targetMs, hx]

theorem slewed_clock_never_steps_behind :
    (2000000 : Int) ≤ 3500000 ∧
      (∀ targetMs, (((new 500000).steerAll [(0, 2), (0, 9)]).steerUnixMs 0 targetMs).readUnixNs 0 =
        some 2000000) ∧
      (1000000 - min 500000 999999 : Int) * ((1000000 : UInt64).toNat - (0 : UInt64).toNat) <
        1000000 * (3500000 - 2000000) + 1000000 ∧
      1000000 * (3500000 - 2000000) <
        (1000000 + min 500000 999999 : Int) * ((1000000 : UInt64).toNat - (0 : UInt64).toNat) +
          1000000 :=
  @slewed_clock_never_steps 500000 [(0, 2), (0, 9)] [(1000000, 0)] 0 1000000 2000000 3500000
    (by decide) (by decide) (by decide) (by decide)

/-- Of the second nanosecond since the anchor a half is paid for the first one. -/
theorem slewed_clock_rounds_a_reading :
    InOrder [(0, 0), (0, 1)] 1 [] 2 ∧
      ((new 500000).steerAll [(0, 0), (0, 1)]).readUnixNs 1 = some 1 ∧
      ((new 500000).steerAll [(0, 0), (0, 1)]).readUnixNs 2 = some 3 ∧
      (1000000 + min 500000 999999 : Int) * ((2 : UInt64).toNat - (1 : UInt64).toNat) <
        1000000 * (3 - 1) := by
  decide

end Runs
end SlewedNetworkClock
end Sedsprintf
