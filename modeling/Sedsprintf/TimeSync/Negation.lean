import Sedsprintf.TimeSync.Slewing

/-!
# A clock that owes all it can

src/timesync.rs:339-396 with the negation of `pending_adjust_ns`, which overflows where
`i128::MIN` is owed: a panic, or the same value again. Anywhere else the clock is the one of
`readUnixNs` and `steerUnixMs`.
-/
namespace Sedsprintf

/-- `-x` on `i128`. -/
def negateI128 (B : Build) (x : Int) : Outcome Int :=
  if x = -2 ^ 127 then
    if B.overflowChecks then panics "attempt to negate with overflow" else .ok x
  else .ok (-x)

namespace SlewedNetworkClock
variable (B : Build)

/-- `applied_adjust_ns`. -/
def appliedAdjust (clock : SlewedNetworkClock) (now : UInt64) : Outcome Int :=
  let maxAdjust := (saturateI128 (clock.elapsedNs now * clock.maxSlewPpm)).tdiv 1000000
  if 0 ≤ clock.pendingAdjustNs then .ok (min clock.pendingAdjustNs maxAdjust)
  else do
    let owed ← negateI128 B clock.pendingAdjustNs
    negateI128 B (min owed maxAdjust)

/-- `read_unix_ns`. -/
def readUnix (clock : SlewedNetworkClock) (now : UInt64) : Outcome (Option Int) :=
  if clock.initialized then do
    let applied ← clock.appliedAdjust B now
    .ok (some (saturateI128 (saturateI128 (clock.anchorUnixNs + clock.elapsedNs now) + applied)))
  else .ok none

/-- `steer_unix_ms`. -/
def steerUnix (clock : SlewedNetworkClock) (now targetMs : UInt64) : Outcome SlewedNetworkClock :=
  let target : Int := targetMs.toNat * 1000000
  if clock.initialized then do
    let read ← clock.readUnix B now
    let current := read.getD target
    let applied ← clock.appliedAdjust B now
    .ok { clock with
      anchorMonoNs := now
      anchorUnixNs := current
      pendingAdjustNs := saturateI128 (saturateI128 (clock.pendingAdjustNs - applied) +
        saturateI128 (target - current))
      initialized := true }
  else .ok { clock with
    anchorMonoNs := now, anchorUnixNs := target, pendingAdjustNs := 0, initialized := true }

variable {B} {clock clock' : SlewedNetworkClock} {now : UInt64}

theorem appliedAdjust_of_gt (h : -2 ^ 127 < clock.pendingAdjustNs) :
    clock.appliedAdjust B now = .ok (clock.appliedAdjustNs now) := by
  obtain ⟨hpos, -⟩ := clock.maxAdjustNs_bounds now
  unfold appliedAdjust appliedAdjustNs
  rw [tdiv_eq_maxAdjustNs]
  split
  · rfl
  · dsimp only
    rw [negateI128, if_neg (by omega), ok_bind, negateI128, if_neg (by omega)]

/-- Short of `i128::MIN` the clock reads as one without overflows. -/
theorem readUnix_of_gt (h : -2 ^ 127 < clock.pendingAdjustNs) :
    clock.readUnix B now = .ok (clock.readUnixNs now) := by
  unfold readUnix readUnixNs
  rw [appliedAdjust_of_gt h, ok_bind]
  split <;> rfl

theorem steerUnix_of_gt (h : -2 ^ 127 < clock.pendingAdjustNs) (targetMs : UInt64) :
    clock.steerUnix B now targetMs = .ok (clock.steerUnixMs now targetMs) := by
  unfold steerUnix steerUnixMs
  rw [readUnix_of_gt h, appliedAdjust_of_gt h, readUnixNs]
  cases hset : clock.initialized with
  | false => rfl
  | true => rfl

/-- Where `i128::MIN` is owed, it is paid at once if nothing checks for the overflow. -/
theorem appliedAdjust_of_min (h : clock.pendingAdjustNs = -2 ^ 127) :
    clock.appliedAdjust B now =
      if B.overflowChecks then panics "attempt to negate with overflow" else .ok (-2 ^ 127) := by
  obtain ⟨hpos, -⟩ := clock.maxAdjustNs_bounds now
  unfold appliedAdjust
  rw [tdiv_eq_maxAdjustNs, if_neg (by omega), negateI128, if_pos h, h]
  split
  · rfl
  · rename_i hchecks
    rw [ok_bind, Int.min_eq_left (by omega), negateI128, if_pos rfl, if_neg hchecks]

/-- What the clock has left to pay at `now`. -/
def unpaidNs (clock : SlewedNetworkClock) (now : UInt64) : Int :=
  if clock.pendingAdjustNs = -2 ^ 127 then 0
  else clock.pendingAdjustNs - clock.appliedAdjustNs now

/-- What the clock shows at `now`, where it can be read: `i128::MIN` is paid at once. -/
def showsNs (clock : SlewedNetworkClock) (now : UInt64) : Int :=
  if clock.pendingAdjustNs = -2 ^ 127 then clock.anchorUnixNs + clock.elapsedNs now - 2 ^ 127
  else clock.valueNs now

/-- No check stops the negation of what is owed. -/
def Readable (B : Build) (clock : SlewedNetworkClock) : Prop :=
  B.overflowChecks = true → clock.pendingAdjustNs ≠ -2 ^ 127

/-- Made by `new` and steered at times that do not decrease. -/
inductive Reached (B : Build) (maxSlewPpm : Nat) : SlewedNetworkClock → Prop
  | new : Reached B maxSlewPpm (new maxSlewPpm)
  | steer {clock clock' : SlewedNetworkClock} {now targetMs : UInt64}
      (h : Reached B maxSlewPpm clock) (hnow : clock.anchorMonoNs ≤ now)
      (hsteer : clock.steerUnix B now targetMs = .ok clock') : Reached B maxSlewPpm clock'

/-- What holds of a clock after any number of steerings. One that shows less than zero was put
there by an overflow, and owes nothing but time it is short of. -/
structure Within (clock : SlewedNetworkClock) : Prop where
  low : -2 ^ 127 ≤ clock.anchorUnixNs
  high : clock.anchorUnixNs ≤ 2 ^ 84 + 2 * clock.anchorMonoNs.toNat
  pending : -2 ^ 127 ≤ clock.pendingAdjustNs ∧ clock.pendingAdjustNs < 2 ^ 127
  owes : clock.anchorUnixNs < 0 → 0 ≤ clock.pendingAdjustNs

theorem new_within (maxSlewPpm : Nat) : (new maxSlewPpm).Within := by
  constructor <;> simp [new]

theorem Within.readUnix_eq (h : clock.Within) (hset : clock.initialized = true)
    (hreadable : clock.Readable B) (hnow : clock.anchorMonoNs ≤ now) :
    clock.readUnix B now = .ok (some (clock.showsNs now)) := by
  obtain ⟨hlow, hhigh, ⟨hpending, hpending'⟩, howes⟩ := h
  rw [UInt64.le_iff_toNat_le] at hnow
  have hend := now.toNat_lt
  have helapsed := clock.elapsedNs_eq now
  obtain ⟨hpos, hslow⟩ := clock.maxAdjustNs_bounds now
  by_cases hmin : clock.pendingAdjustNs = -2 ^ 127
  · have hchecks : ¬B.overflowChecks = true := fun hchecks => hreadable hchecks hmin
    rw [readUnix, if_pos hset, appliedAdjust_of_min hmin, if_neg hchecks, ok_bind, showsNs,
      if_pos hmin, saturateI128_of_mem (x := clock.anchorUnixNs + _) (by omega) (by omega),
      saturateI128_of_mem (by omega) (by omega)]
    rfl
  · obtain ⟨⟨hpaid, hpaid'⟩, hahead, hbehind⟩ := clock.appliedAdjustNs_bounds now
    rw [readUnix_of_gt (by omega), readUnixNs, if_pos hset, showsNs, if_neg hmin, valueNs,
      saturateI128_of_mem (x := clock.anchorUnixNs + _) (by omega) (by omega),
      saturateI128_of_mem (by omega) (by omega)]

/-- Where a check stops the negation, there is no reading. -/
theorem readable_of_readUnix {read : Option Int} (hset : clock.initialized = true)
    (hread : clock.readUnix B now = .ok read) : clock.Readable B := by
  intro hchecks hmin
  rw [readUnix, if_pos hset, appliedAdjust_of_min hmin, if_pos hchecks] at hread
  cases hread

/-- What a clock shows, and what it has left to pay then. -/
theorem Within.reading {current : Int} (h : clock.Within) (hnow : clock.anchorMonoNs ≤ now)
    (hread : clock.readUnix B now = .ok (some current)) :
    ∃ applied, clock.appliedAdjust B now = .ok applied ∧
      clock.initialized = true ∧
      clock.unpaidNs now = saturateI128 (clock.pendingAdjustNs - applied) ∧
      -2 ^ 127 ≤ current ∧ current ≤ 2 ^ 84 + 2 * now.toNat ∧
      (current < 0 → 0 ≤ clock.unpaidNs now) := by
  obtain ⟨hlow, hhigh, ⟨hpending, hpending'⟩, howes⟩ := h
  rw [UInt64.le_iff_toNat_le] at hnow
  have hanchor := now.toNat_lt
  have helapsed := clock.elapsedNs_eq now
  obtain ⟨hpos, hslow⟩ := clock.maxAdjustNs_bounds now
  unfold readUnix at hread
  split at hread
  · rename_i hset
    obtain ⟨applied, happlied, hcurrent⟩ := bind_eq_ok.mp hread
    rw [Except.ok.injEq, Option.some.injEq] at hcurrent
    refine ⟨applied, happlied, hset, ?_⟩
    by_cases hmin : clock.pendingAdjustNs = -2 ^ 127
    · rw [appliedAdjust_of_min hmin] at happlied
      split at happlied
      · cases happlied
      · obtain rfl := Except.ok.inj happlied
        rw [saturateI128_of_mem (x := clock.anchorUnixNs + _) (by omega) (by omega),
          saturateI128_of_mem (by omega) (by omega)] at hcurrent
        rw [unpaidNs, if_pos hmin, hmin]
        exact ⟨rfl, by omega, by omega, fun _ => le_refl 0⟩
    · rw [appliedAdjust_of_gt (by omega)] at happlied
      obtain rfl := Except.ok.inj happlied
      obtain ⟨⟨hpaid, hpaid'⟩, hahead, hbehind⟩ := clock.appliedAdjustNs_bounds now
      rw [saturateI128_of_mem (x := clock.anchorUnixNs + _) (by omega) (by omega),
        saturateI128_of_mem (by omega) (by omega)] at hcurrent
      rw [unpaidNs, if_neg hmin, saturateI128_of_mem (by omega) (by omega)]
      exact ⟨rfl, by omega, by omega, by omega⟩
  · cases hread

/-- The clock behind a steering, where it showed `current`. -/
def steered (clock : SlewedNetworkClock) (now targetMs : UInt64) (current : Int) :
    SlewedNetworkClock :=
  { clock with
    anchorMonoNs := now
    anchorUnixNs := current
    pendingAdjustNs := saturateI128 (clock.unpaidNs now +
      saturateI128 (targetMs.toNat * 1000000 - current))
    initialized := true }

theorem Within.steerUnix_eq {current : Int} (h : clock.Within) (hnow : clock.anchorMonoNs ≤ now)
    (hread : clock.readUnix B now = .ok (some current)) (targetMs : UInt64) :
    clock.steerUnix B now targetMs = .ok (clock.steered now targetMs current) := by
  obtain ⟨applied, happlied, hset, hunpaid, -⟩ := h.reading hnow hread
  rw [steerUnix, if_pos hset, hread, ok_bind, happlied, ok_bind, steered, hunpaid]
  rfl

theorem Within.steer {targetMs : UInt64} (h : clock.Within) (hnow : clock.anchorMonoNs ≤ now)
    (hsteer : clock.steerUnix B now targetMs = .ok clock') : clock'.Within := by
  have htarget := targetMs.toNat_lt
  cases hset : clock.initialized with
  | false =>
    rw [steerUnix, if_neg (by simp [hset])] at hsteer
    obtain rfl := Except.ok.inj hsteer
    constructor <;> dsimp only <;> omega
  | true =>
    obtain ⟨read, hread, -⟩ := bind_eq_ok.mp (by rwa [steerUnix, if_pos hset] at hsteer)
    obtain ⟨current, rfl⟩ : ∃ current, read = some current := by
      rw [readUnix, if_pos hset] at hread
      obtain ⟨applied, -, hcurrent⟩ := bind_eq_ok.mp hread
      exact ⟨_, (Except.ok.inj hcurrent).symm⟩
    obtain ⟨-, -, -, -, hlow, hhigh, howes⟩ := h.reading hnow hread
    rw [h.steerUnix_eq hnow hread] at hsteer
    obtain rfl := Except.ok.inj hsteer
    refine ⟨hlow, hhigh, saturateI128_bounds _, fun hneg => ?_⟩
    have hleft := howes hneg
    dsimp only [steered] at hneg ⊢
    unfold saturateI128
    omega

theorem Reached.within {maxSlewPpm : Nat} (h : clock.Reached B maxSlewPpm) : clock.Within := by
  induction h with
  | new => exact new_within maxSlewPpm
  | steer _ hnow hsteer ih => exact ih.steer hnow hsteer

end SlewedNetworkClock
end Sedsprintf
