import Sedsprintf.TimeSync.Negation

/-!
# Steering without overshoot

src/timesync.rs:339-396. A steering owes all that the clock is off by, and on top of it what was
left of the adjustment before, which was meant for the same offset. The clock therefore comes to
rest off its target by what was left, and in between may run away from it or past it, unless the
monotonic clock ends first.
-/
namespace Sedsprintf

namespace SlewedNetworkClock

/-- An error that is worked off at a rate: it keeps its sign, does not grow, and is gone when
there was time for all of it. -/
structure Settles (ppm : Nat) (now : UInt64) (error : UInt64 → Int) : Prop where
  ahead : ∀ t, now ≤ t → 0 ≤ error now → 0 ≤ error t
  behind : ∀ t, now ≤ t → error now ≤ 0 → error t ≤ 0
  shrinks : ∀ t t', now ≤ t → t ≤ t' → |error t'| ≤ |error t|
  ends : ∀ t, now ≤ t → |error now| * 1000000 ≤ (t.toNat - now.toNat : Nat) * ppm → error t = 0

/-- The clock shows `current` when it is steered to the target, and from then on shows the target,
which goes on with the time, but for an error that settles. -/
def Converges (B : Build) (clock : SlewedNetworkClock) (now targetMs : UInt64) (current : Int) :
    Prop :=
  ∃ (clock' : SlewedNetworkClock) (error : UInt64 → Int),
    clock.steerUnix B now targetMs = .ok clock' ∧
    (∀ t, now ≤ t → clock'.readUnix B t =
      .ok (some (targetMs.toNat * 1000000 + (t.toNat - now.toNat : Nat) + error t))) ∧
    error now = current - targetMs.toNat * 1000000 ∧ Settles clock.maxSlewPpm now error

/-- How much has to be paid before what was left shows: the whole offset, and more than that where
the two have different signs. Nothing where all that is owed is `i128::MIN`. -/
def showsAt (off left : Int) : Int :=
  if left - off ≤ -2 ^ 127 then 0
  else if left < 0 ∧ 0 < off ∨ off < 0 ∧ 0 < left then |off| + 1
  else if |left| ≤ |off| then |off|
  else 1

/-- `u64::MAX`, where the monotonic clock ends. -/
def lastMonoNs : UInt64 := 18446744073709551615

/-- The most that may be paid from `now` to `t`. -/
def payableNs (clock : SlewedNetworkClock) (now t : UInt64) : Int :=
  ((t.toNat - now.toNat : Nat) : Int) * clock.maxSlewPpm / 1000000

section Errors
variable {off left : Int}

theorem showsAt_cases (off left : Int) :
    (left - off ≤ -2 ^ 127 ∧ showsAt off left = 0) ∨
      ((left < 0 ∧ 0 < off ∨ off < 0 ∧ 0 < left) ∧ showsAt off left = |off| + 1) ∨
      (¬(left < 0 ∧ 0 < off ∨ off < 0 ∧ 0 < left) ∧ |left| ≤ |off| ∧ showsAt off left = |off|) ∨
      (¬(left < 0 ∧ 0 < off ∨ off < 0 ∧ 0 < left) ∧ |off| < |left| ∧ showsAt off left = 1) := by
  unfold showsAt
  split
  · rename_i hmin
    exact .inl ⟨hmin, rfl⟩
  · split
    · rename_i hsigns
      exact .inr (.inl ⟨hsigns, rfl⟩)
    · rename_i hsigns
      split
      · rename_i hle
        exact .inr (.inr (.inl ⟨hsigns, hle, rfl⟩))
      · rename_i hgt
        exact .inr (.inr (.inr ⟨hsigns, not_le.mp hgt, rfl⟩))

/-- The error when up to `payable` of what was left and of the offset is paid. -/
def errorAt (off left payable : Int) : Int := off + max (-payable) (min (left - off) payable)

theorem errorAt_neg (off left payable : Int) (hpos : 0 ≤ payable) :
    errorAt (-off) (-left) payable = -errorAt off left payable := by
  unfold errorAt
  omega

theorem errorAt_of_le {payable : Int} (hpos : 0 ≤ payable) (h : left ≤ off) :
    errorAt off left payable = max (off - payable) left := by
  unfold errorAt
  omega

theorem errorAt_of_ge {payable : Int} (hpos : 0 ≤ payable) (h : off ≤ left) :
    errorAt off left payable = min (off + payable) left := by
  unfold errorAt
  omega

/-- What was left cannot show: there is nothing, or what may be paid ends first. -/
theorem hidden_cases {last : Int} (hpos : 0 ≤ last) (h : left = 0 ∨ last < showsAt off left) :
    left = 0 ∨ last = 0 ∨ (0 < off ∧ left ≤ off ∧ last ≤ off ∧ (0 < left → last < off)) ∨
      (off < 0 ∧ off ≤ left ∧ last ≤ -off ∧ (left < 0 → last < -off)) := by
  rcases h with hnone | h
  · exact .inl hnone
  · rcases showsAt_cases off left with ⟨-, hshows⟩ | ⟨hsigns, hshows⟩ | ⟨hsigns, hsize, hshows⟩ |
        ⟨-, -, hshows⟩ <;> rw [hshows] at h
    · omega
    · rcases hsigns with ⟨hleft, hoff⟩ | ⟨hoff, hleft⟩
      · rw [abs_of_pos hoff] at h
        omega
      · rw [abs_of_neg hoff] at h
        omega
    · rw [abs_le] at hsize
      rcases lt_trichotomy off 0 with hoff | rfl | hoff
      · rw [abs_of_neg hoff] at h hsize
        omega
      · rw [abs_zero] at h
        omega
      · rw [abs_of_pos hoff] at h hsize
        omega
    · omega

/-- An error ahead of the target, with a leftover that cannot show, settles. -/
theorem errorAt_settles_ahead {payable payable' last : Int} (hpos : 0 ≤ payable)
    (hle : payable ≤ payable') (hlast : payable' ≤ last) (hoff : 0 ≤ off)
    (h : left = 0 ∨ last = 0 ∨
      (0 < off ∧ left ≤ off ∧ last ≤ off ∧ (0 < left → last < off))) :
    0 ≤ errorAt off left payable' ∧ errorAt off left payable' ≤ errorAt off left payable ∧
      (off ≤ payable → errorAt off left payable = 0) := by
  have hpos' := le_trans hpos hle
  rcases le_total left off with hleft | hleft
  · rw [errorAt_of_le hpos hleft, errorAt_of_le hpos' hleft]
    rcases h with rfl | rfl | ⟨-, -, hend, hsame⟩ <;> omega
  · rw [errorAt_of_ge hpos hleft, errorAt_of_ge hpos' hleft]
    rcases h with rfl | rfl | ⟨-, hle, hend, hsame⟩ <;> omega

/-- A leftover that cannot show by the end leaves an error that settles. -/
theorem errorAt_settles {payable payable' last : Int} (hpos : 0 ≤ payable)
    (hle : payable ≤ payable') (hlast : payable' ≤ last) (h : left = 0 ∨ last < showsAt off left) :
    (0 ≤ off → 0 ≤ errorAt off left payable) ∧ (off ≤ 0 → errorAt off left payable ≤ 0) ∧
      |errorAt off left payable'| ≤ |errorAt off left payable| ∧
      (|off| ≤ payable → errorAt off left payable = 0) := by
  have hpos' := le_trans hpos hle
  have hhidden := hidden_cases (le_trans hpos' hlast) h
  clear h
  rcases le_total 0 off with hoff | hoff
  · have hquiet : left = 0 ∨ last = 0 ∨
        (0 < off ∧ left ≤ off ∧ last ≤ off ∧ (0 < left → last < off)) := by omega
    obtain ⟨hahead, hshrinks, hends⟩ := errorAt_settles_ahead hpos hle hlast hoff hquiet
    rw [abs_of_nonneg hoff, abs_of_nonneg hahead, abs_of_nonneg (le_trans hahead hshrinks)]
    refine ⟨fun _ => le_trans hahead hshrinks, fun hzero => ?_, hshrinks, hends⟩
    exact (hends (le_trans hzero hpos)).le
  · -- behind the target everything is turned round
    have hquiet : -left = 0 ∨ last = 0 ∨
        (0 < -off ∧ -left ≤ -off ∧ last ≤ -off ∧ (0 < -left → last < -off)) := by omega
    obtain ⟨hahead, hshrinks, hends⟩ := errorAt_settles_ahead hpos hle hlast
      (neg_nonneg.mpr hoff) hquiet
    rw [errorAt_neg _ _ _ hpos'] at hahead
    rw [errorAt_neg _ _ _ hpos', errorAt_neg _ _ _ hpos] at hshrinks
    rw [errorAt_neg _ _ _ hpos] at hends
    rw [abs_of_nonpos hoff, abs_of_nonpos (neg_nonneg.mp hahead),
      abs_of_nonpos (neg_nonneg.mp (le_trans hahead hshrinks))]
    refine ⟨fun hzero => ?_, fun _ => neg_nonneg.mp (le_trans hahead hshrinks), hshrinks,
      fun htime => neg_eq_zero.mp (hends htime)⟩
    exact (neg_eq_zero.mp (hends (by omega))).ge

/-- One that shows by then turns the sign, makes the error grow, or does not let it go. -/
theorem errorAt_of_shows {last : Int} (hleft : left ≠ 0) (hmin : -2 ^ 127 < left - off)
    (h : showsAt off left ≤ last) :
    (0 ≤ off ∧ errorAt off left last < 0) ∨ (off ≤ 0 ∧ 0 < errorAt off left last) ∨
      |off| < |errorAt off left last| ∨ (|off| ≤ last ∧ errorAt off left last ≠ 0) := by
  rcases showsAt_cases off left with ⟨howed, -⟩ | ⟨hsigns, hshows⟩ | ⟨hsigns, hsize, hshows⟩ |
      ⟨hsigns, hsize, hshows⟩
  · exact absurd howed (not_le.mpr hmin)
  · -- the sign turns
    rw [hshows] at h
    rcases hsigns with ⟨hbehind, hoff⟩ | ⟨hoff, hahead⟩
    · rw [abs_of_pos hoff] at h
      rw [errorAt_of_le (by omega) (by omega)]
      exact .inl ⟨hoff.le, by omega⟩
    · rw [abs_of_neg hoff] at h
      rw [errorAt_of_ge (by omega) (by omega)]
      exact .inr (.inl ⟨hoff.le, by omega⟩)
  · -- what was left stays
    rw [hshows] at h
    refine .inr (.inr (.inr ⟨h, ?_⟩))
    rw [abs_le] at hsize
    rcases le_total 0 off with hoff | hoff
    · rw [abs_of_nonneg hoff] at h hsize
      rw [errorAt_of_le (by omega) hsize.2]
      omega
    · rw [abs_of_nonpos hoff] at h hsize
      rw [errorAt_of_ge (by omega) (by omega)]
      omega
  · -- the error grows
    rw [hshows] at h
    refine .inr (.inr (.inl ?_))
    rw [lt_abs] at hsize ⊢
    rcases le_total off left with hle | hle
    · rw [errorAt_of_ge (by omega) hle]
      rcases abs_cases off with ⟨hoff, -⟩ | ⟨hoff, -⟩ <;> omega
    · rw [errorAt_of_le (by omega) hle]
      rcases abs_cases off with ⟨hoff, -⟩ | ⟨hoff, -⟩ <;> omega

end Errors
section Readings
variable {B : Build} {clock : SlewedNetworkClock} {now t t' targetMs : UInt64} {current : Int}

theorem le_lastMonoNs (t : UInt64) : t ≤ lastMonoNs :=
  UInt64.le_iff_toNat_le.mpr (Nat.le_of_lt_succ t.toNat_lt)

theorem payableNs_bounds (clock : SlewedNetworkClock) (now t : UInt64) :
    0 ≤ clock.payableNs now t ∧ clock.payableNs now t ≤ (t.toNat - now.toNat : Nat) := by
  obtain ⟨hlow, hhigh⟩ := clock.slew_bounds (Int.natCast_nonneg (t.toNat - now.toNat))
  unfold payableNs
  omega

theorem payableNs_mono (h : t ≤ t') : clock.payableNs now t ≤ clock.payableNs now t' := by
  rw [UInt64.le_iff_toNat_le] at h
  have helapsed : ((t.toNat - now.toNat : Nat) : Int) ≤ (t'.toNat - now.toNat : Nat) := by omega
  exact Int.ediv_le_ediv (by decide)
    (Int.mul_le_mul_of_nonneg_right helapsed (Int.natCast_nonneg _))

theorem clamp_saturateI128 {x payable : Int} (hpos : 0 ≤ payable) (hpayable : payable < 2 ^ 64) :
    max (-payable) (min (saturateI128 x) payable) = max (-payable) (min x payable) := by
  unfold saturateI128
  omega

/-- Where all that is owed is more than `i128::MIN`, the saturated sum pays what the exact one
does: it is the exact one, or both are more than can be paid. -/
theorem owed_pays {left target payable : Int} (hleft : left < 2 ^ 127) (htarget : 0 ≤ target)
    (htarget' : target < 2 ^ 84) (hhigh : current ≤ 2 ^ 84 + 2 ^ 65)
    (howes : current < 0 → 0 ≤ left) (hpos : 0 ≤ payable) (hpayable : payable < 2 ^ 64)
    (howed : -2 ^ 127 < left - (current - target)) :
    -2 ^ 127 < saturateI128 (left + saturateI128 (target - current)) ∧
      max (-payable) (min (saturateI128 (left + saturateI128 (target - current))) payable) =
        max (-payable) (min (left - (current - target)) payable) := by
  rw [clamp_saturateI128 hpos hpayable]
  have hsum : left + (target - current) = left - (current - target) := by omega
  rcases lt_or_ge (target - current) (2 ^ 127) with hfits | hhuge
  · rw [saturateI128_of_mem (x := target - current) (by omega) hfits, hsum]
    refine ⟨?_, rfl⟩
    clear htarget htarget' hhigh howes hpos hpayable hfits hsum
    unfold saturateI128
    omega
  · have hall : saturateI128 (target - current) = 2 ^ 127 - 1 := by
      clear howed hsum howes
      unfold saturateI128
      omega
    have hnone := howes (by omega)
    rw [hall, min_eq_right (by omega), min_eq_right (by omega), saturateI128]
    omega

/-- The clock behind a steering shows the target with the error of what it owes. -/
theorem Within.readUnix_steered (h : clock.Within) (hnow : clock.anchorMonoNs ≤ now)
    (hread : clock.readUnix B now = .ok (some current))
    (howed : -2 ^ 127 < clock.unpaidNs now - (current - targetMs.toNat * 1000000)) :
    (clock.steered now targetMs current).readUnix B t =
      .ok (some (targetMs.toNat * 1000000 + (t.toNat - now.toNat : Nat) +
        errorAt (current - targetMs.toNat * 1000000) (clock.unpaidNs now)
          (clock.payableNs now t))) := by
  obtain ⟨applied, -, -, hunpaid, hlow, hhigh, howes⟩ := h.reading hnow hread
  have hleft := (saturateI128_bounds (clock.pendingAdjustNs - applied)).2
  rw [← hunpaid] at hleft
  have htarget : (targetMs.toNat * 1000000 : Int) < 2 ^ 84 := by
    have hmillis := targetMs.toNat_lt
    omega
  have hcurrent : current ≤ 2 ^ 84 + 2 ^ 65 := by
    have hmono := now.toNat_lt
    omega
  have htime : ((t.toNat - now.toNat : Nat) : Int) < 2 ^ 64 := by
    have hend := t.toNat_lt
    omega
  obtain ⟨hpos, hpayable⟩ := clock.payableNs_bounds now t
  obtain ⟨hmin, hpaid⟩ := owed_pays hleft (by positivity) htarget hcurrent howes hpos
    (lt_of_le_of_lt hpayable htime) howed
  have helapsed : (clock.steered now targetMs current).elapsedNs t =
      (t.toNat - now.toNat : Nat) := elapsedNs_eq _ _
  have hmax : (clock.steered now targetMs current).maxAdjustNs t = clock.payableNs now t := by
    rw [maxAdjustNs, helapsed]
    rfl
  have hpending : (clock.steered now targetMs current).pendingAdjustNs =
      saturateI128 (clock.unpaidNs now + saturateI128 (targetMs.toNat * 1000000 - current)) := rfl
  have hset : (clock.steered now targetMs current).initialized = true := rfl
  have hanchor : (clock.steered now targetMs current).anchorUnixNs = current := rfl
  rw [readUnix_of_gt (by rwa [hpending]), readUnixNs, if_pos hset, appliedAdjustNs_eq_clamp, hmax,
    helapsed, hpending, hpaid, hanchor]
  clear hmin hpaid helapsed hmax hpending hset hanchor hunpaid howed hread howes hleft htarget
  rw [saturateI128_of_mem (x := current + _) (by omega) (by omega),
    saturateI128_of_mem (by omega) (by omega), errorAt]
  congr 2
  omega

/-- A clock that owes `i128::MIN` jumps or panics at once. -/
theorem Within.readUnix_steered_of_min (h : clock.Within) (hnow : clock.anchorMonoNs ≤ now)
    (hread : clock.readUnix B now = .ok (some current))
    (howed : clock.unpaidNs now - (current - targetMs.toNat * 1000000) ≤ -2 ^ 127) :
    (clock.steered now targetMs current).readUnix B now ≠ .ok (some current) := by
  obtain ⟨applied, -, -, hunpaid, hlow, hhigh, howes⟩ := h.reading hnow hread
  have htarget := targetMs.toNat_lt
  have hmono := now.toNat_lt
  have helapsed : (clock.steered now targetMs current).elapsedNs now = 0 := by
    rw [elapsedNs_eq]
    exact congrArg Nat.cast (Nat.sub_self now.toNat)
  have hpending : (clock.steered now targetMs current).pendingAdjustNs = -2 ^ 127 := by
    change saturateI128 (clock.unpaidNs now +
      saturateI128 (targetMs.toNat * 1000000 - current)) = -2 ^ 127
    unfold saturateI128
    omega
  have hanchor : (clock.steered now targetMs current).anchorUnixNs = current := rfl
  have hset : (clock.steered now targetMs current).initialized = true := rfl
  rw [readUnix, if_pos hset, appliedAdjust_of_min hpending, helapsed, hanchor]
  intro heq
  split at heq
  · cases heq
  · rw [ok_bind, Except.ok.injEq, Option.some.injEq] at heq
    unfold saturateI128 at heq
    omega

/-- With no leftover that can show, the error settles. -/
theorem settles_errorAt {off left : Int}
    (hleft : left = 0 ∨ clock.payableNs now lastMonoNs < showsAt off left) :
    Settles clock.maxSlewPpm now fun t => errorAt off left (clock.payableNs now t) := by
  have hstart : errorAt off left (clock.payableNs now now) = off := by simp [errorAt, payableNs]
  have hsettles := fun (t t' : UInt64) (hle : t ≤ t') =>
    errorAt_settles (clock.payableNs_bounds now t).1 (payableNs_mono hle)
      (payableNs_mono (le_lastMonoNs t')) hleft
  constructor
  · intro t _
    rw [hstart]
    exact (hsettles t t (UInt64.le_refl t)).1
  · intro t _
    rw [hstart]
    exact (hsettles t t (UInt64.le_refl t)).2.1
  · intro t t' _ hle
    exact (hsettles t t' hle).2.2.1
  · intro t _ htime
    rw [hstart] at htime
    exact (hsettles t t (UInt64.le_refl t)).2.2.2 (Int.le_ediv_of_mul_le (by decide) htime)

/-- One that shows by the end of the clock leaves an error that does not. -/
theorem not_settles {error : UInt64 → Int} {off left : Int} (hleft : left ≠ 0)
    (howed : -2 ^ 127 < left - off) (hshows : showsAt off left ≤ clock.payableNs now lastMonoNs)
    (hstart : error now = off)
    (herror : error lastMonoNs = errorAt off left (clock.payableNs now lastMonoNs)) :
    ¬Settles clock.maxSlewPpm now error := by
  intro h
  have hlast := le_lastMonoNs now
  have hahead := h.ahead lastMonoNs hlast
  have hbehind := h.behind lastMonoNs hlast
  have hshrinks := h.shrinks now lastMonoNs (UInt64.le_refl now) hlast
  have hends := h.ends lastMonoNs hlast
  rw [hstart, herror] at hahead hbehind hshrinks hends
  rcases errorAt_of_shows hleft howed hshows with ⟨hoff, hneg⟩ | ⟨hoff, hpos⟩ | hgrows | ⟨htime, hstays⟩
  · exact absurd (hahead hoff) (not_le.mpr hneg)
  · exact absurd (hbehind hoff) (not_le.mpr hpos)
  · exact absurd hshrinks (not_le.mpr hgrows)
  · exact hstays (hends (le_trans (Int.mul_le_mul_of_nonneg_right htime (by decide))
      (Int.ediv_mul_le _ (by decide))))

theorem Within.converges_iff (hwithin : clock.Within) (hnow : clock.anchorMonoNs ≤ now)
    (hread : clock.readUnix B now = .ok (some current)) :
    Converges B clock now targetMs current ↔
      clock.unpaidNs now = 0 ∨ clock.payableNs now lastMonoNs <
        showsAt (current - targetMs.toNat * 1000000) (clock.unpaidNs now) := by
  constructor
  · rintro ⟨clock', error, hsteer, hreads, hstart, hsettles⟩
    rw [hwithin.steerUnix_eq hnow hread] at hsteer
    obtain rfl := Except.ok.inj hsteer
    by_contra hshows
    obtain ⟨hleft, hshows⟩ := not_or.mp hshows
    rcases lt_or_ge (-2 ^ 127) (clock.unpaidNs now - (current - targetMs.toNat * 1000000)) with
      howed | howed
    · have herror := hreads lastMonoNs (le_lastMonoNs now)
      rw [hwithin.readUnix_steered hnow hread howed, Except.ok.injEq, Option.some.injEq,
        Int.add_right_inj] at herror
      exact not_settles hleft howed (not_lt.mp hshows) hstart herror.symm hsettles
    · refine hwithin.readUnix_steered_of_min hnow hread howed ?_
      rw [hreads now (UInt64.le_refl now), hstart, Nat.sub_self]
      congr 2
      omega
  · intro hleft
    obtain ⟨applied, -, -, -, hlow, hhigh, -⟩ := hwithin.reading hnow hread
    have hend := (clock.payableNs_bounds now lastMonoNs).1
    have howed : -2 ^ 127 < clock.unpaidNs now - (current - targetMs.toNat * 1000000) := by
      by_contra hmin
      have hmono := now.toNat_lt
      rw [showsAt, if_pos (by omega)] at hleft
      omega
    refine ⟨_, _, hwithin.steerUnix_eq hnow hread targetMs,
      fun t _ => hwithin.readUnix_steered hnow hread howed, ?_, settles_errorAt hleft⟩
    simp [errorAt, payableNs]

/-- A clock that is steered converges on the target exactly if no check stops it, and nothing is
left then of the adjustment before or the monotonic clock ends before that shows. -/
theorem steer_converges_iff {maxSlewPpm : Nat} (hreached : clock.Reached B maxSlewPpm)
    (hset : clock.initialized = true) (hnow : clock.anchorMonoNs ≤ now) :
    (∃ current, clock.readUnix B now = .ok (some current) ∧
        Converges B clock now targetMs current) ↔
      clock.Readable B ∧ (clock.unpaidNs now = 0 ∨ clock.payableNs now lastMonoNs <
        showsAt (clock.showsNs now - targetMs.toNat * 1000000) (clock.unpaidNs now)) := by
  have hwithin := hreached.within
  constructor
  · rintro ⟨current, hread, hconverges⟩
    have hreadable := readable_of_readUnix hset hread
    have hshown := hwithin.readUnix_eq hset hreadable hnow
    rw [hread, Except.ok.injEq, Option.some.injEq] at hshown
    rw [← hshown]
    exact ⟨hreadable, (hwithin.converges_iff hnow hread).mp hconverges⟩
  · rintro ⟨hreadable, hleft⟩
    have hread := hwithin.readUnix_eq hset hreadable hnow
    exact ⟨_, hread, (hwithin.converges_iff hnow hread).mpr hleft⟩

end Readings
section Steered

/-- Set to 0 and steered to a second at once. -/
def owingSecond : SlewedNetworkClock where
  anchorMonoNs := 0
  anchorUnixNs := 0
  pendingAdjustNs := 1000000000
  maxSlewPpm := 50000
  initialized := true
  maxSlewPpm_le := by decide

theorem owingSecond_reached : owingSecond.Reached hostBuild 50000 := by
  have hset : (new 50000).steerUnix hostBuild 0 0 =
      .ok { new 50000 with initialized := true } := rfl
  have hsecond : ({ new 50000 with initialized := true } : SlewedNetworkClock).steerUnix hostBuild
      0 1000 = .ok owingSecond := rfl
  exact .steer (.steer .new (by decide) hset) (by decide) hsecond

/-- Steered again when the second is paid, the clock converges. -/
theorem steer_converges_iff_paid : Converges hostBuild owingSecond 20000000000 77 21000000000 := by
  have hshows : owingSecond.readUnix hostBuild 20000000000 = .ok (some 21000000000) := by decide
  obtain ⟨current, hread, hconverges⟩ :=
    (@steer_converges_iff hostBuild owingSecond 20000000000 77 50000 owingSecond_reached rfl
      (by decide)).mpr ⟨fun _ => by decide, .inl (by decide)⟩
  rw [hshows, Except.ok.injEq, Option.some.injEq] at hread
  rwa [← hread] at hconverges

/-- A millisecond later the target is a millisecond further on. Steered to it, the clock comes to
rest almost a second ahead, as what it was already paying is counted again. -/
theorem steer_counts_leftover_twice :
    owingSecond.Reached hostBuild 50000 ∧
    owingSecond.readUnix hostBuild 1000000 = .ok (some 1050000) ∧
    (owingSecond.steered 1000000 1001 1050000).readUnix hostBuild 40001000000 =
      .ok (some (1001000000 + 40000000000 + 999950000)) ∧
    ¬Converges hostBuild owingSecond 1000000 1001 1050000 := by
  have hread : owingSecond.readUnix hostBuild 1000000 = .ok (some 1050000) := by decide
  have hlater : (owingSecond.steered 1000000 1001 1050000).readUnix hostBuild 40001000000 =
      .ok (some (1001000000 + 40000000000 + 999950000)) := by decide
  refine ⟨owingSecond_reached, hread, hlater, ?_⟩
  rintro ⟨clock', error, hsteer, hreads, hstart, hsettles⟩
  rw [owingSecond_reached.within.steerUnix_eq (by decide) hread] at hsteer
  obtain rfl := Except.ok.inj hsteer
  have herror := hreads 40001000000 (by decide)
  rw [hlater, Except.ok.injEq, Option.some.injEq] at herror
  have hpassed : (40001000000 : UInt64).toNat - (1000000 : UInt64).toNat = 40000000000 := by decide
  have htarget : (1001 : UInt64).toNat = 1001 := by decide
  have hbehind := hsettles.behind 40001000000 (by decide)
  rw [htarget] at herror hstart
  rw [hpassed] at herror
  omega

end Steered
end SlewedNetworkClock
end Sedsprintf
