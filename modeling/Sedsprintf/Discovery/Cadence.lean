import Sedsprintf.Node
import Sedsprintf.TimeSync.NetworkTime
import Sedsprintf.Lib.Backoff

/-!
# When a node announces itself

src/discovery.rs:10-47. An announcement doubles the interval to the next one, up to the slow
interval; a change of the topology goes back to the fast one and is announced at once.
-/
namespace Sedsprintf

open Lib

def discoveryFastIntervalMs : UInt64 := 250
def discoverySlowIntervalMs : UInt64 := 5000

structure DiscoveryCadenceState where
  currentIntervalMs : UInt64
  nextAnnounceMs : UInt64
  deriving DecidableEq, Repr

/-- `saturating_mul` on `u64`. -/
def saturatingMul (a b : UInt64) : UInt64 :=
  if a.toNat * b.toNat < 2 ^ 64 then a * b else 0xFFFFFFFFFFFFFFFF

theorem toNat_saturatingAdd (a b : UInt64) :
    (saturatingAdd a b).toNat = min (a.toNat + b.toNat) (2 ^ 64 - 1) := by
  unfold saturatingAdd
  split
  · rename_i hfits
    rw [UInt64.toNat_add, Nat.mod_eq_of_lt hfits]
    omega
  · rename_i hlarge
    have hmax : (0xFFFFFFFFFFFFFFFF : UInt64).toNat = 2 ^ 64 - 1 := rfl
    omega

theorem toNat_saturatingMul (a b : UInt64) :
    (saturatingMul a b).toNat = min (a.toNat * b.toNat) (2 ^ 64 - 1) := by
  unfold saturatingMul
  split
  · rename_i hfits
    rw [UInt64.toNat_mul, Nat.mod_eq_of_lt hfits]
    omega
  · rename_i hlarge
    have hmax : (0xFFFFFFFFFFFFFFFF : UInt64).toNat = 2 ^ 64 - 1 := rfl
    omega

namespace DiscoveryCadenceState

/-- `DiscoveryCadenceState::default()`. -/
def initial : DiscoveryCadenceState := ⟨discoveryFastIntervalMs, 0⟩

def onTopologyChange (_ : DiscoveryCadenceState) (now : UInt64) : DiscoveryCadenceState :=
  ⟨discoveryFastIntervalMs, now⟩

def onAnnounceSent (c : DiscoveryCadenceState) (now : UInt64) : DiscoveryCadenceState where
  currentIntervalMs := min (saturatingMul c.currentIntervalMs 2) discoverySlowIntervalMs
  nextAnnounceMs := saturatingAdd now c.currentIntervalMs

def due (c : DiscoveryCadenceState) (now : UInt64) : Bool := c.nextAnnounceMs ≤ now

/-- The cadence as a timer that backs off, to the end of the clock. -/
def timer (c : DiscoveryCadenceState) : Backoff :=
  ⟨c.currentIntervalMs.toNat, c.nextAnnounceMs.toNat⟩

/-- `u64::MAX`. -/
def lastMs : Nat := 2 ^ 64 - 1

theorem timer_onTopologyChange (c : DiscoveryCadenceState) (now : UInt64) :
    (c.onTopologyChange now).timer = Backoff.reset discoveryFastIntervalMs.toNat now.toNat := rfl

theorem timer_onAnnounceSent (c : DiscoveryCadenceState) (now : UInt64) :
    (c.onAnnounceSent now).timer =
      c.timer.fire discoverySlowIntervalMs.toNat lastMs now.toNat := by
  have hslow : discoverySlowIntervalMs.toNat = 5000 := rfl
  have hmul : (saturatingMul c.currentIntervalMs 2).toNat =
      min (c.currentIntervalMs.toNat * 2) (2 ^ 64 - 1) := toNat_saturatingMul _ _
  simp only [timer, onAnnounceSent, Backoff.fire, Backoff.mk.injEq, toNat_saturatingAdd, lastMs,
    and_true, UInt64.toNat_min]
  omega

theorem due_iff (c : DiscoveryCadenceState) (now : UInt64) :
    c.due now = true ↔ c.timer.next ≤ now.toNat := by
  simp [due, timer, UInt64.le_iff_toNat_le]

end DiscoveryCadenceState
end Sedsprintf
