import Sedsprintf.TimeSync.NetworkTime

/-!
# A clock steered to one sample

What is still owed and what the sample is short by add up at every steering. A clock that is
steered to the sample it started from is short by nothing at first, by the time gone by at the
next steering, and pays that off from then on: it falls behind for good.
-/
namespace Sedsprintf

theorem saturateI128_bounds (x : Int) : -2 ^ 127 ≤ saturateI128 x ∧ saturateI128 x < 2 ^ 127 := by
  unfold saturateI128
  omega

theorem saturateI128_of_mem {x : Int} (hlow : -2 ^ 127 ≤ x) (hhigh : x < 2 ^ 127) :
    saturateI128 x = x := by
  unfold saturateI128
  omega

theorem saturateI128_nonpos {x : Int} (h : x ≤ 0) : saturateI128 x ≤ 0 := by
  unfold saturateI128
  omega

theorem saturateI128_neg {x : Int} (h : x < 0) : saturateI128 x < 0 := by
  unfold saturateI128
  omega

namespace SlewedNetworkClock

section Paying
variable (clock : SlewedNetworkClock) (now : UInt64)

/-- The most that may be paid since the anchor. -/
def maxAdjustNs : Int := clock.elapsedNs now * clock.maxSlewPpm / 1000000

theorem elapsedNs_eq : clock.elapsedNs now = (now.toNat - clock.anchorMonoNs.toNat : Nat) := by
  rw [elapsedNs, toNat_saturatingSub]

theorem slew_bounds {time : Int} (h : 0 ≤ time) :
    0 ≤ time * clock.maxSlewPpm ∧ time * clock.maxSlewPpm ≤ time * 999999 := by
  have hppm : (clock.maxSlewPpm : Int) ≤ 999999 := by
    have hle := clock.maxSlewPpm_le
    omega
  exact ⟨Int.mul_nonneg h (by omega), Int.mul_le_mul_of_nonneg_left hppm h⟩

theorem maxAdjustNs_bounds :
    0 ≤ clock.maxAdjustNs now ∧ clock.maxAdjustNs now ≤ clock.elapsedNs now := by
  have helapsed : 0 ≤ clock.elapsedNs now := by
    rw [elapsedNs_eq]
    omega
  obtain ⟨hlow, hhigh⟩ := clock.slew_bounds helapsed
  unfold maxAdjustNs
  omega

/-- Nothing overflows in `max_adjust_ns`. -/
theorem tdiv_eq_maxAdjustNs : (saturateI128 (clock.elapsedNs now * clock.maxSlewPpm)).tdiv 1000000 =
    clock.maxAdjustNs now := by
  have helapsed : 0 ≤ clock.elapsedNs now ∧ clock.elapsedNs now < 2 ^ 64 := by
    have hnow := now.toNat_lt
    rw [elapsedNs_eq]
    omega
  obtain ⟨hlow, hhigh⟩ := clock.slew_bounds helapsed.1
  rw [saturateI128_of_mem (by omega) (by omega), tdiv_of_nonneg _ hlow, maxAdjustNs]

/-- What is paid is what is owed, kept within what may be paid. -/
theorem appliedAdjustNs_eq_clamp :
    clock.appliedAdjustNs now =
      max (-clock.maxAdjustNs now) (min clock.pendingAdjustNs (clock.maxAdjustNs now)) := by
  obtain ⟨hpos, -⟩ := clock.maxAdjustNs_bounds now
  rw [appliedAdjustNs, tdiv_eq_maxAdjustNs]
  split <;> omega

end Paying

section Anchor
variable {clock : SlewedNetworkClock}

/-- At its anchor a clock shows its anchor. -/
theorem readUnixNs_anchor (hset : clock.initialized = true) (hlow : -2 ^ 127 ≤ clock.anchorUnixNs)
    (hhigh : clock.anchorUnixNs < 2 ^ 127) :
    clock.readUnixNs clock.anchorMonoNs = some clock.anchorUnixNs := by
  have helapsed : clock.elapsedNs clock.anchorMonoNs = 0 := by
    rw [elapsedNs_eq, Nat.sub_self]
    rfl
  have hpaid : clock.appliedAdjustNs clock.anchorMonoNs = 0 := by
    rw [appliedAdjustNs_eq_clamp, maxAdjustNs, helapsed]
    omega
  rw [readUnixNs, if_pos hset, helapsed, hpaid, Int.add_zero, Int.add_zero,
    saturateI128_of_mem hlow hhigh, saturateI128_of_mem hlow hhigh]

/-- A steering keeps what the clock shows at that instant. -/
theorem readUnixNs_steerUnixMs {now : UInt64} {current : Int} (targetMs : UInt64)
    (h : clock.readUnixNs now = some current) :
    (clock.steerUnixMs now targetMs).readUnixNs now = some current := by
  have hread := h
  unfold readUnixNs at h
  split at h
  · rename_i hset
    obtain ⟨hlow, hhigh⟩ := saturateI128_bounds
      (saturateI128 (clock.anchorUnixNs + clock.elapsedNs now) + clock.appliedAdjustNs now)
    rw [Option.some.inj h] at hlow hhigh
    rw [steerUnixMs, hread]
    exact readUnixNs_anchor hset hlow hhigh
  · cases h

end Anchor

/-- What a clock that owes time has paid since its anchor. -/
def paidNs (clock : SlewedNetworkClock) (now : UInt64) : Int :=
  min (-clock.pendingAdjustNs)
    (((now.toNat - clock.anchorMonoNs.toNat) * clock.maxSlewPpm / 1000000 : Nat) : Int)

/-- Started with the sample `target`, the clock shows no less than it, no more than it and the
time gone by, and owes time if anything. -/
structure Trailing (start : UInt64) (target : Int) (clock : SlewedNetworkClock) : Prop where
  initialized : clock.initialized = true
  started : start.toNat ≤ clock.anchorMonoNs.toNat
  low : target ≤ clock.anchorUnixNs
  high : clock.anchorUnixNs ≤ target + (clock.anchorMonoNs.toNat - start.toNat : Nat)
  owes : clock.pendingAdjustNs ≤ 0

/-- A sample of the network time. -/
def Sample (target : Int) : Prop := 0 ≤ target ∧ target < 2 ^ 64 * 1000000

section Reading
variable {start now : UInt64} {target : Int} {clock : SlewedNetworkClock}

theorem paidNs_nonneg (h : clock.Trailing start target) (now : UInt64) : 0 ≤ clock.paidNs now := by
  have howes := h.owes
  unfold paidNs
  omega

theorem paidNs_eq (clock : SlewedNetworkClock) (now : UInt64) :
    clock.paidNs now = min (-clock.pendingAdjustNs) (clock.maxAdjustNs now) := by
  rw [paidNs, maxAdjustNs, elapsedNs_eq]
  rfl

/-- A clock pays more slowly than time goes by. -/
theorem paidNs_le (clock : SlewedNetworkClock) (now : UInt64) :
    clock.paidNs now ≤ (now.toNat - clock.anchorMonoNs.toNat : Nat) := by
  obtain ⟨-, hslow⟩ := clock.maxAdjustNs_bounds now
  rw [elapsedNs_eq] at hslow
  rw [paidNs_eq]
  omega

theorem appliedAdjustNs_eq (h : clock.Trailing start target) :
    clock.appliedAdjustNs now = -clock.paidNs now := by
  have howes := h.owes
  obtain ⟨hpos, -⟩ := clock.maxAdjustNs_bounds now
  rw [appliedAdjustNs_eq_clamp, paidNs_eq]
  omega

/-- What it shows. -/
def shownNs (clock : SlewedNetworkClock) (now : UInt64) : Int :=
  clock.anchorUnixNs + (now.toNat - clock.anchorMonoNs.toNat : Nat) - clock.paidNs now

theorem low_le_shownNs (h : clock.Trailing start target) (now : UInt64) : target ≤ clock.shownNs now := by
  have hpaid := paidNs_le clock now
  have hlow := h.low
  unfold shownNs
  omega

theorem shownNs_le (h : clock.Trailing start target) (hnow : clock.anchorMonoNs.toNat ≤ now.toNat) :
    clock.shownNs now ≤ target + (now.toNat - start.toNat : Nat) := by
  have hpaid := paidNs_nonneg h now
  have hhigh := h.high
  have hstarted := h.started
  unfold shownNs
  omega

theorem readUnixNs_eq (h : clock.Trailing start target) (hsample : Sample target)
    (hnow : clock.anchorMonoNs.toNat ≤ now.toNat) : clock.readUnixNs now = some (clock.shownNs now) := by
  have hpaid := paidNs_nonneg h now
  have hslow := paidNs_le clock now
  have hlow := low_le_shownNs h now
  have hhigh := shownNs_le h hnow
  have hbound := now.toNat_lt
  obtain ⟨hpos, hlt⟩ := hsample
  have hanchor := h.low
  have helapsed : clock.elapsedNs now = (now.toNat - clock.anchorMonoNs.toNat : Nat) := by
    rw [elapsedNs, toNat_saturatingSub]
  unfold shownNs at hlow hhigh
  have hsum : saturateI128 (clock.anchorUnixNs + clock.elapsedNs now) =
      clock.anchorUnixNs + (now.toNat - clock.anchorMonoNs.toNat : Nat) := by
    rw [helapsed]
    exact saturateI128_of_mem (by omega) (by omega)
  rw [readUnixNs, if_pos h.initialized, hsum, appliedAdjustNs_eq h, shownNs]
  exact congrArg some (saturateI128_of_mem (by omega) (by omega))

/-- In milliseconds, where these fit. -/
theorem readUnixMs_eq (h : clock.Trailing start target) (hsample : Sample target)
    (hnow : clock.anchorMonoNs.toNat ≤ now.toNat)
    (hfits : clock.shownNs now < 2 ^ 64 * 1000000) :
    clock.readUnixMs now = some (UInt64.ofNat (clock.shownNs now / 1000000).toNat) := by
  have hlow := low_le_shownNs h now
  have hpos := hsample.1
  rw [readUnixMs, readUnixNs_eq h hsample hnow, Option.bind_some, if_neg (by omega), u64TryFrom,
    if_pos (by omega)]

end Reading

section Steering
variable {start now targetMs : UInt64} {target : Int} {clock : SlewedNetworkClock}

/-- Steered to the sample it started from, it stays behind that. -/
theorem steerUnixMs_trailing (h : clock.Trailing start target) (hsample : Sample target)
    (htarget : target = targetMs.toNat * 1000000) (hnow : clock.anchorMonoNs.toNat ≤ now.toNat) :
    (clock.steerUnixMs now targetMs).Trailing start target ∧
    (clock.steerUnixMs now targetMs).anchorMonoNs = now ∧
    (clock.steerUnixMs now targetMs).anchorUnixNs = clock.shownNs now ∧
    (clock.steerUnixMs now targetMs).maxSlewPpm = clock.maxSlewPpm ∧
    (clock.steerUnixMs now targetMs).pendingAdjustNs =
      saturateI128 (saturateI128 (clock.pendingAdjustNs + clock.paidNs now) +
        saturateI128 (target - clock.shownNs now)) := by
  have hlow := low_le_shownNs h now
  have hhigh := shownNs_le h hnow
  have hpending : clock.pendingAdjustNs + clock.paidNs now ≤ 0 := by
    unfold paidNs
    omega
  have hsum := saturateI128_nonpos hpending
  have hshort := saturateI128_nonpos (show target - clock.shownNs now ≤ 0 by omega)
  rw [steerUnixMs, readUnixNs_eq h hsample hnow, appliedAdjustNs_eq h, Int.sub_neg, ← htarget]
  refine ⟨⟨h.initialized, ?_, hlow, hhigh, saturateI128_nonpos (by omega)⟩, rfl, rfl, rfl,
    rfl⟩
  exact h.started.trans hnow

/-- As it started. -/
structure Fresh (start : UInt64) (target : Int) (clock : SlewedNetworkClock) : Prop where
  trailing : clock.Trailing start target
  anchor : clock.anchorMonoNs = start
  shows : clock.anchorUnixNs = target
  settled : clock.pendingAdjustNs = 0

/-- Steered at `r`, it shows what it should and owes time. -/
structure Owing (start : UInt64) (target : Int) (r : UInt64) (clock : SlewedNetworkClock) :
    Prop where
  trailing : clock.Trailing start target
  anchor : clock.anchorMonoNs = r
  later : start.toNat < r.toNat
  shows : clock.anchorUnixNs = target + (r.toNat - start.toNat : Nat)
  owes : clock.pendingAdjustNs < 0

/-- It shows less than it should. -/
structure Behind (start : UInt64) (target : Int) (clock : SlewedNetworkClock) : Prop where
  trailing : clock.Trailing start target
  shows : clock.anchorUnixNs < target + (clock.anchorMonoNs.toNat - start.toNat : Nat)

variable (hsample : Sample target) (htarget : target = targetMs.toNat * 1000000)
include hsample htarget

theorem Fresh.steer (h : clock.Fresh start target) :
    (clock.steerUnixMs start targetMs).Fresh start target := by
  obtain ⟨htrailing, hanchor, hshows, -, hpending⟩ :=
    steerUnixMs_trailing h.trailing hsample htarget (le_of_eq (congrArg UInt64.toNat h.anchor))
  have hpaid : clock.paidNs start = 0 := by
    rw [paidNs, h.settled, h.anchor, Nat.sub_self, Nat.zero_mul]
    rfl
  have hshown : clock.shownNs start = target := by
    rw [shownNs, hpaid, h.shows, h.anchor]
    omega
  refine ⟨htrailing, hanchor, hshows.trans hshown, ?_⟩
  rw [hpending, hpaid, hshown, h.settled, Int.sub_self]
  rfl

theorem Fresh.steer_later (h : clock.Fresh start target) (hlater : start.toNat < now.toNat) :
    (clock.steerUnixMs now targetMs).Owing start target now := by
  have hnow : clock.anchorMonoNs.toNat ≤ now.toNat := by
    rw [h.anchor]
    exact hlater.le
  obtain ⟨htrailing, hanchor, hshows, -, hpending⟩ :=
    steerUnixMs_trailing h.trailing hsample htarget hnow
  have hpaid : clock.paidNs now = 0 := by
    rw [paidNs, h.settled]
    omega
  have hshown : clock.shownNs now = target + (now.toNat - start.toNat : Nat) := by
    rw [shownNs, hpaid, h.shows, h.anchor, Int.sub_zero]
  refine ⟨htrailing, hanchor, hlater, hshows.trans hshown, ?_⟩
  rw [hpending, hpaid, hshown, h.settled]
  have hshort : saturateI128 (target - (target + (now.toNat - start.toNat : Nat))) < 0 :=
    saturateI128_neg (by omega)
  have hzero : saturateI128 (0 + 0) = 0 := rfl
  exact saturateI128_neg (by omega)

theorem Owing.steer {r : UInt64} (h : clock.Owing start target r) :
    (clock.steerUnixMs r targetMs).Owing start target r := by
  obtain ⟨htrailing, hanchor, hshows, -, hpending⟩ :=
    steerUnixMs_trailing h.trailing hsample htarget (le_of_eq (congrArg UInt64.toNat h.anchor))
  have hpaid : clock.paidNs r = 0 := by
    have howes := h.owes
    rw [paidNs, h.anchor, Nat.sub_self, Nat.zero_mul, Nat.zero_div]
    omega
  have hshown : clock.shownNs r = clock.anchorUnixNs := by
    rw [shownNs, hpaid, h.anchor]
    omega
  refine ⟨htrailing, hanchor, h.later, hshows.trans (hshown.trans h.shows), ?_⟩
  have howed := saturateI128_neg (x := clock.pendingAdjustNs + clock.paidNs r) (by
    have howes := h.owes
    omega)
  have hshort := saturateI128_nonpos (x := target - clock.shownNs r) (by
    have hlow := h.trailing.low
    omega)
  rw [hpending]
  exact saturateI128_neg (by omega)

/-- It starts to pay, and falls behind. -/
theorem Owing.steer_later {r : UInt64} (h : clock.Owing start target r) (hslew : 0 < clock.maxSlewPpm)
    (hlater : r.toNat + 1000000 ≤ now.toNat) :
    (clock.steerUnixMs now targetMs).Behind start target := by
  have hnow : clock.anchorMonoNs.toNat ≤ now.toNat := by
    rw [h.anchor]
    omega
  obtain ⟨htrailing, hanchor, hshows, -, -⟩ :=
    steerUnixMs_trailing h.trailing hsample htarget hnow
  have hpays : 1 ≤ (now.toNat - clock.anchorMonoNs.toNat) * clock.maxSlewPpm / 1000000 := by
    rw [Nat.one_le_div_iff (by decide), h.anchor]
    exact le_trans (by omega) (Nat.mul_le_mul_left (now.toNat - r.toNat) hslew)
  have hpaid : 1 ≤ clock.paidNs now := by
    have howes := h.owes
    unfold paidNs
    omega
  refine ⟨htrailing, ?_⟩
  have hstart := h.later
  rw [hshows, hanchor, shownNs, h.shows, h.anchor]
  omega

theorem Behind.steer (h : clock.Behind start target)
    (hnow : clock.anchorMonoNs.toNat ≤ now.toNat) :
    (clock.steerUnixMs now targetMs).Behind start target := by
  obtain ⟨htrailing, hanchor, hshows, -, -⟩ :=
    steerUnixMs_trailing h.trailing hsample htarget hnow
  have hpaid := paidNs_nonneg h.trailing now
  have hshort := h.shows
  have hstarted := h.trailing.started
  refine ⟨htrailing, ?_⟩
  rw [hshows, hanchor, shownNs]
  omega

/-- A clock that may not slew pays nothing. -/
theorem Owing.steer_of_no_slew {r : UInt64} (h : clock.Owing start target r)
    (hslew : clock.maxSlewPpm = 0) (hlater : r.toNat < now.toNat) :
    (clock.steerUnixMs now targetMs).Owing start target now := by
  have hnow : clock.anchorMonoNs.toNat ≤ now.toNat := by
    rw [h.anchor]
    exact hlater.le
  obtain ⟨htrailing, hanchor, hshows, -, hpending⟩ :=
    steerUnixMs_trailing h.trailing hsample htarget hnow
  have hstart := h.later
  have hpaid : clock.paidNs now = 0 := by
    have howes := h.owes
    rw [paidNs, hslew, Nat.mul_zero, Nat.zero_div]
    omega
  have hshown : clock.shownNs now = target + (now.toNat - start.toNat : Nat) := by
    rw [shownNs, hpaid, h.shows, h.anchor]
    omega
  refine ⟨htrailing, hanchor, hstart.trans hlater, hshows.trans hshown, ?_⟩
  have howed := saturateI128_neg (x := clock.pendingAdjustNs + clock.paidNs now) (by
    have howes := h.owes
    omega)
  have hshort := saturateI128_nonpos (x := target - clock.shownNs now) (by omega)
  rw [hpending]
  exact saturateI128_neg (by omega)

end Steering
end SlewedNetworkClock
end Sedsprintf
