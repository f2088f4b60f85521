import Sedsprintf.TimeSync.Steering

/-!
# A clock steered anywhere

src/timesync.rs:325-396 for any targets. A clock shows the time since its anchor and the part of
what it owes, of either sign, that its rate allows for by then. Nothing is saturated before about
2^40 steerings.
-/
namespace Sedsprintf

namespace SlewedNetworkClock

section Reading
variable (clock : SlewedNetworkClock) (now : UInt64)

/-- What the clock shows. -/
def valueNs : Int := clock.anchorUnixNs + clock.elapsedNs now + clock.appliedAdjustNs now

/-- As much as is owed at most, and as much as may be paid. -/
theorem appliedAdjustNs_bounds :
    (-clock.maxAdjustNs now ≤ clock.appliedAdjustNs now ∧
        clock.appliedAdjustNs now ≤ clock.maxAdjustNs now) ∧
      (0 ≤ clock.pendingAdjustNs → 0 ≤ clock.pendingAdjustNs - clock.appliedAdjustNs now ∧
        clock.pendingAdjustNs - clock.appliedAdjustNs now ≤ clock.pendingAdjustNs) ∧
      (clock.pendingAdjustNs ≤ 0 → clock.pendingAdjustNs - clock.appliedAdjustNs now ≤ 0 ∧
        clock.pendingAdjustNs ≤ clock.pendingAdjustNs - clock.appliedAdjustNs now) := by
  obtain ⟨hpos, -⟩ := clock.maxAdjustNs_bounds now
  rw [appliedAdjustNs_eq_clamp]
  omega

theorem valueNs_bounds :
    clock.anchorUnixNs ≤ clock.valueNs now ∧
      clock.valueNs now ≤ clock.anchorUnixNs + 2 * clock.elapsedNs now := by
  obtain ⟨hpos, hle⟩ := clock.maxAdjustNs_bounds now
  obtain ⟨⟨hlow, hhigh⟩, -⟩ := clock.appliedAdjustNs_bounds now
  unfold valueNs
  omega

end Reading

section Advancing
variable {clock : SlewedNetworkClock} {first second : UInt64}

/-- More that may be paid changes what is paid by no more than that. -/
theorem clamp_near {owed payable payable' : Int} (hpos : 0 ≤ payable) (hle : payable ≤ payable') :
    max (-payable) (min owed payable) - (payable' - payable) ≤
        max (-payable') (min owed payable') ∧
      max (-payable') (min owed payable') ≤
        max (-payable) (min owed payable) + (payable' - payable) := by
  omega

/-- Between two readings since one anchor a clock advances by the time gone by, and by what its
rate allows for in that time, up to the nanosecond that is rounded off. -/
theorem valueNs_advance (hfirst : clock.anchorMonoNs ≤ first) (hsecond : first ≤ second) :
    clock.valueNs first ≤ clock.valueNs second ∧
      (1000000 - clock.maxSlewPpm : Int) * (second.toNat - first.toNat) <
        1000000 * (clock.valueNs second - clock.valueNs first) + 1000000 ∧
      1000000 * (clock.valueNs second - clock.valueNs first) <
        (1000000 + clock.maxSlewPpm : Int) * (second.toNat - first.toNat) + 1000000 := by
  rw [UInt64.le_iff_toNat_le] at hfirst hsecond
  have hsplit : clock.elapsedNs second =
      clock.elapsedNs first + (second.toNat - first.toNat : Int) := by
    rw [elapsedNs_eq, elapsedNs_eq]
    omega
  have hgone : (0 : Int) ≤ second.toNat - first.toNat := by omega
  obtain ⟨hlow, hhigh⟩ := clock.slew_bounds hgone
  obtain ⟨hpos, -⟩ := clock.maxAdjustNs_bounds first
  unfold maxAdjustNs at hpos
  unfold valueNs
  generalize (second.toNat - first.toNat : Int) = gone at *
  rw [appliedAdjustNs_eq_clamp, appliedAdjustNs_eq_clamp, maxAdjustNs, maxAdjustNs, hsplit,
    Int.add_mul, Int.sub_mul, Int.add_mul, Int.mul_comm (clock.maxSlewPpm : Int)]
  generalize gone * (clock.maxSlewPpm : Int) = paid at *
  generalize clock.elapsedNs first * (clock.maxSlewPpm : Int) = paidBefore at *
  obtain ⟨hless, hmore⟩ := @clamp_near clock.pendingAdjustNs _ ((paidBefore + paid) / 1000000)
    hpos (by omega)
  generalize max (-(paidBefore / 1000000)) _ = before at *
  generalize max (-((paidBefore + paid) / 1000000)) _ = behind at *
  omega

/-- From the anchor on nothing is rounded in a clock's favour. -/
theorem valueNs_of_anchor (hsecond : clock.anchorMonoNs ≤ second) :
    clock.anchorUnixNs ≤ clock.valueNs second ∧
      (1000000 - clock.maxSlewPpm : Int) * (second.toNat - clock.anchorMonoNs.toNat) ≤
        1000000 * (clock.valueNs second - clock.anchorUnixNs) ∧
      1000000 * (clock.valueNs second - clock.anchorUnixNs) ≤
        (1000000 + clock.maxSlewPpm : Int) * (second.toNat - clock.anchorMonoNs.toNat) := by
  rw [UInt64.le_iff_toNat_le] at hsecond
  have helapsed : clock.elapsedNs second = (second.toNat - clock.anchorMonoNs.toNat : Int) := by
    rw [elapsedNs_eq]
    omega
  have hgone : (0 : Int) ≤ second.toNat - clock.anchorMonoNs.toNat := by omega
  obtain ⟨hlow, hhigh⟩ := clock.slew_bounds hgone
  unfold valueNs
  generalize (second.toNat - clock.anchorMonoNs.toNat : Int) = gone at *
  rw [appliedAdjustNs_eq_clamp, maxAdjustNs, helapsed, Int.sub_mul, Int.add_mul,
    Int.mul_comm (clock.maxSlewPpm : Int)]
  generalize gone * (clock.maxSlewPpm : Int) = paid at *
  omega

end Advancing

section Steering
variable {clock : SlewedNetworkClock} {steers : Nat} {now targetMs : UInt64}

/-- What keeps a clock away from the bounds of `i128` after so many steerings: it has shown no more
than a target and twice the time gone by, and owes no more than it was off at every steering. -/
structure Sound (steers : Nat) (clock : SlewedNetworkClock) : Prop where
  low : 0 ≤ clock.anchorUnixNs
  high : clock.anchorUnixNs ≤ 2 ^ 84 + 2 * clock.anchorMonoNs.toNat
  owes_low : -(steers * 2 ^ 85) ≤ clock.pendingAdjustNs
  owes_high : clock.pendingAdjustNs ≤ steers * 2 ^ 85

theorem new_sound (maxSlewPpm : Nat) : (new maxSlewPpm).Sound 0 := by
  constructor <;> simp [new]

theorem Sound.readUnixNs_eq (h : clock.Sound steers) (hset : clock.initialized = true)
    (now : UInt64) : clock.readUnixNs now = some (clock.valueNs now) := by
  obtain ⟨hlow, hhigh, -, -⟩ := h
  have hanchor := clock.anchorMonoNs.toNat_lt
  have hnow := now.toNat_lt
  have helapsed := clock.elapsedNs_eq now
  obtain ⟨hpos, hle⟩ := clock.maxAdjustNs_bounds now
  obtain ⟨⟨hpaid, hpaid'⟩, -⟩ := clock.appliedAdjustNs_bounds now
  rw [readUnixNs, if_pos hset, saturateI128_of_mem (x := clock.anchorUnixNs + _) (by omega)
    (by omega), saturateI128_of_mem (by omega) (by omega), valueNs]

/-- A steering sets the clock the first time, and after that keeps what it shows. -/
theorem Sound.steer (h : clock.Sound steers) (hsteers : steers < 2 ^ 40)
    (hnow : clock.anchorMonoNs ≤ now) (targetMs : UInt64) :
    (clock.steerUnixMs now targetMs).Sound (steers + 1) ∧
      (clock.steerUnixMs now targetMs).initialized = true ∧
      (clock.steerUnixMs now targetMs).anchorMonoNs = now ∧
      (clock.steerUnixMs now targetMs).maxSlewPpm = clock.maxSlewPpm ∧
      (clock.initialized = true →
        (clock.steerUnixMs now targetMs).anchorUnixNs = clock.valueNs now) := by
  have htarget := targetMs.toNat_lt
  cases hset : clock.initialized with
  | false =>
    have hread : clock.readUnixNs now = none := by
      rw [readUnixNs, hset]
      rfl
    rw [steerUnixMs, hread]
    refine ⟨⟨?_, ?_, ?_, ?_⟩, rfl, rfl, rfl, by simp⟩
    all_goals
      dsimp only
      omega
  | true =>
    rw [UInt64.le_iff_toNat_le] at hnow
    have hlt := now.toNat_lt
    have helapsed := clock.elapsedNs_eq now
    obtain ⟨hvalue, hvalue'⟩ := clock.valueNs_bounds now
    obtain ⟨-, hahead, hbehind⟩ := clock.appliedAdjustNs_bounds now
    rw [steerUnixMs, h.readUnixNs_eq hset]
    obtain ⟨hlow, hhigh, howes, howes'⟩ := h
    have hleft : saturateI128 (clock.pendingAdjustNs - clock.appliedAdjustNs now) =
        clock.pendingAdjustNs - clock.appliedAdjustNs now :=
      saturateI128_of_mem (by omega) (by omega)
    have hoff : saturateI128 (targetMs.toNat * 1000000 - clock.valueNs now) =
        targetMs.toNat * 1000000 - clock.valueNs now := saturateI128_of_mem (by omega) (by omega)
    dsimp only
    rw [hleft, hoff, saturateI128_of_mem (by omega) (by omega)]
    refine ⟨⟨?_, ?_, ?_, ?_⟩, hset, rfl, rfl, fun _ => rfl⟩
    all_goals
      dsimp only
      omega

theorem Sound.valueNs_steer (h : clock.Sound steers) (hsteers : steers < 2 ^ 40)
    (hset : clock.initialized = true) (hnow : clock.anchorMonoNs ≤ now) (targetMs : UInt64) :
    (clock.steerUnixMs now targetMs).valueNs now = clock.valueNs now := by
  obtain ⟨-, -, hanchor, -, hvalue⟩ := h.steer hsteers hnow targetMs
  obtain ⟨hpos, hle⟩ := (clock.steerUnixMs now targetMs).maxAdjustNs_bounds now
  obtain ⟨⟨hpaid, hpaid'⟩, -⟩ := (clock.steerUnixMs now targetMs).appliedAdjustNs_bounds now
  have helapsed := (clock.steerUnixMs now targetMs).elapsedNs_eq now
  rw [hanchor, Nat.sub_self] at helapsed
  rw [← hvalue hset, valueNs]
  omega

end Steering

section Runs
variable {clock : SlewedNetworkClock} {steers : Nat} {first now : UInt64}

/-- Steered at the times, to the targets, of the list. -/
def steerAll (clock : SlewedNetworkClock) (run : List (UInt64 × UInt64)) : SlewedNetworkClock :=
  run.foldl (fun clock steer => clock.steerUnixMs steer.1 steer.2) clock

theorem steerAll_append (clock : SlewedNetworkClock) (run run' : List (UInt64 × UInt64)) :
    clock.steerAll (run ++ run') = (clock.steerAll run).steerAll run' := List.foldl_append

/-- Every steering of the run keeps the bounds. -/
theorem Sound.steerAll {run : List (UInt64 × UInt64)} (h : clock.Sound steers)
    (hcount : steers + run.length ≤ 2 ^ 40)
    (htimes : (clock.anchorMonoNs :: (run.map Prod.fst ++ [now])).Pairwise (· ≤ ·)) :
    (clock.steerAll run).Sound (steers + run.length) ∧
      (clock.steerAll run).maxSlewPpm = clock.maxSlewPpm ∧
      (clock.steerAll run).anchorMonoNs ≤ now := by
  induction run generalizing clock steers with
  | nil =>
    have hle : clock.anchorMonoNs ≤ now := by simpa using htimes
    exact ⟨h, rfl, hle⟩
  | cons steer rest ih =>
    rw [List.map_cons, List.cons_append, List.pairwise_cons] at htimes
    obtain ⟨hfirst, hrest⟩ := htimes
    rw [List.length_cons] at hcount
    obtain ⟨hsound, -, hanchor, hppm, -⟩ :=
      h.steer (by omega) (hfirst steer.1 (List.mem_cons_self ..)) steer.2
    obtain ⟨hsound', hppm', hle⟩ := ih hsound (by omega) (by rwa [hanchor])
    refine ⟨?_, hppm'.trans hppm, hle⟩
    have hlength : steers + (steer :: rest).length = steers + 1 + rest.length := by
      rw [List.length_cons]
      omega
    rw [hlength]
    exact hsound'

/-- Steered on, a clock advances from its anchor by the time gone by at a rate it may run at. -/
theorem Sound.advance_of_anchor {run : List (UInt64 × UInt64)} (h : clock.Sound steers)
    (hset : clock.initialized = true) (hcount : steers + run.length ≤ 2 ^ 40)
    (htimes : (clock.anchorMonoNs :: (run.map Prod.fst ++ [now])).Pairwise (· ≤ ·)) :
    clock.anchorUnixNs ≤ (clock.steerAll run).valueNs now ∧
      (1000000 - clock.maxSlewPpm : Int) * (now.toNat - clock.anchorMonoNs.toNat) ≤
        1000000 * ((clock.steerAll run).valueNs now - clock.anchorUnixNs) ∧
      1000000 * ((clock.steerAll run).valueNs now - clock.anchorUnixNs) ≤
        (1000000 + clock.maxSlewPpm : Int) * (now.toNat - clock.anchorMonoNs.toNat) := by
  induction run generalizing clock steers with
  | nil => exact valueNs_of_anchor (by simpa using htimes)
  | cons steer rest ih =>
    rw [List.map_cons, List.cons_append, List.pairwise_cons] at htimes
    obtain ⟨hfirst, hrest⟩ := htimes
    rw [List.length_cons] at hcount
    have hnow := hfirst steer.1 (List.mem_cons_self ..)
    obtain ⟨hsound, hset', hanchor, hppm, hvalue⟩ := h.steer (by omega) hnow steer.2
    obtain ⟨hmono, hslow, hfast⟩ := ih hsound hset' (by omega) (by rwa [hanchor])
    obtain ⟨hmono', hslow', hfast'⟩ := valueNs_of_anchor hnow
    rw [hvalue hset, hanchor, hppm] at *
    have hsplit : ∀ rate : Int, rate * (now.toNat - clock.anchorMonoNs.toNat) =
        rate * (now.toNat - steer.1.toNat) + rate * (steer.1.toNat - clock.anchorMonoNs.toNat) := by
      intro rate
      ring
    rw [hsplit, hsplit]
    change _ ≤ ((clock.steerUnixMs steer.1 steer.2).steerAll rest).valueNs now ∧ _ ≤ 1000000 *
      (((clock.steerUnixMs steer.1 steer.2).steerAll rest).valueNs now - _) ∧ 1000000 *
      (((clock.steerUnixMs steer.1 steer.2).steerAll rest).valueNs now - _) ≤ _
    omega

/-- From a reading to a later one, with any steerings in between. -/
theorem Sound.advance {run : List (UInt64 × UInt64)} (h : clock.Sound steers)
    (hset : clock.initialized = true) (hcount : steers + run.length ≤ 2 ^ 40)
    (hfirst : clock.anchorMonoNs ≤ first)
    (htimes : (first :: (run.map Prod.fst ++ [now])).Pairwise (· ≤ ·)) :
    clock.valueNs first ≤ (clock.steerAll run).valueNs now ∧
      (1000000 - clock.maxSlewPpm : Int) * (now.toNat - first.toNat) <
        1000000 * ((clock.steerAll run).valueNs now - clock.valueNs first) + 1000000 ∧
      1000000 * ((clock.steerAll run).valueNs now - clock.valueNs first) <
        (1000000 + clock.maxSlewPpm : Int) * (now.toNat - first.toNat) + 1000000 := by
  cases run with
  | nil => exact valueNs_advance hfirst (by simpa using htimes)
  | cons steer rest =>
    rw [List.map_cons, List.cons_append, List.pairwise_cons] at htimes
    obtain ⟨hlater, hrest⟩ := htimes
    rw [List.length_cons] at hcount
    have hnow := hlater steer.1 (List.mem_cons_self ..)
    obtain ⟨hsound, hset', hanchor, hppm, hvalue⟩ :=
      h.steer (by omega) (UInt64.le_trans hfirst hnow) steer.2
    -- rounding costs the first stretch a nanosecond, and those that start at an anchor none
    obtain ⟨hmono, hslow, hfast⟩ := valueNs_advance hfirst hnow
    have hrest' : ((clock.steerUnixMs steer.1 steer.2).anchorMonoNs ::
        (rest.map Prod.fst ++ [now])).Pairwise (· ≤ ·) := by rwa [hanchor]
    obtain ⟨hmono', hslow', hfast'⟩ := hsound.advance_of_anchor hset' (by omega) hrest'
    rw [hvalue hset, hanchor, hppm] at *
    have hsplit : ∀ rate : Int, rate * (now.toNat - first.toNat) =
        rate * (now.toNat - steer.1.toNat) + rate * (steer.1.toNat - first.toNat) := by
      intro rate
      ring
    rw [hsplit, hsplit]
    change _ ≤ ((clock.steerUnixMs steer.1 steer.2).steerAll rest).valueNs now ∧ _ < 1000000 *
      (((clock.steerUnixMs steer.1 steer.2).steerAll rest).valueNs now - _) + 1000000 ∧ 1000000 *
      (((clock.steerUnixMs steer.1 steer.2).steerAll rest).valueNs now - _) < _
    omega

end Runs
end SlewedNetworkClock
end Sedsprintf
