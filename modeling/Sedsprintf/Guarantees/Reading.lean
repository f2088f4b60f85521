import Sedsprintf.TimeSync.Refreshing
import Sedsprintf.TimeSync.Steering
import Sedsprintf.Router.Calls

/-!
# Readings between samples

A router that follows a leader steers its clock to the leader's last sample at every reading
and every poll, as if the sample were new. Two of these behind the sample already slow the
clock down.
-/
namespace Sedsprintf

open Lib

namespace TimeSyncRuntime

/-- Until `upTo` the runtime follows the sender, whose last sample it holds. -/
structure Led (sender : String) (sampleMs upTo now : UInt64) (rt : TimeSyncRuntime) : Prop where
  configured : rt.cfg.isSome = true
  sampled : ∃ held, rt.remoteSources[sender]? = some held ∧ held.sampleUnixMs = sampleMs ∧
    saturatingSub upTo held.lastSampleMonoMs ≤ (rt.cfg.map fun cfg => cfg.sourceTimeoutMs).getD 0
  leads : ∃ tracker src since, rt.tracker = some tracker ∧ since.toNat ≤ now.toNat ∧
    tracker.bestActiveSource since = some src ∧ src.sender = sender ∧
    tracker.isActive upTo src = true ∧
    (tracker.cfg.role = .source → ¬tracker.Leads tracker.cfg.priority src)

section Led
variable {sender : String} {sampleMs upTo : UInt64} {rt : TimeSyncRuntime}

theorem Led.later {now later : UInt64} (h : rt.Led sender sampleMs upTo now)
    (hle : now.toNat ≤ later.toNat) : rt.Led sender sampleMs upTo later := by
  obtain ⟨tracker, src, since, htracker, hsince, hrest⟩ := h.leads
  exact ⟨h.configured, h.sampled, tracker, src, since, htracker, hsince.trans hle, hrest⟩

variable {now : MonotonicTime} (hnow : now.ms.toNat ≤ upTo.toNat)
include hnow

theorem Led.expire (h : rt.Led sender sampleMs upTo now.ms) :
    (rt.expire now).Led sender sampleMs upTo now.ms := by
  obtain ⟨held, hheld, hsample, htimeout⟩ := h.sampled
  refine ⟨h.configured, ⟨held, ?_, hsample, htimeout⟩, h.leads⟩
  rw [TimeSyncRuntime.expire, Std.ExtTreeMap.getElem?_filter', hheld, Option.filter_some, if_pos]
  simp only [UInt64.le_iff_toNat_le, toNat_saturatingSub, decide_eq_true_eq] at htimeout ⊢
  omega

/-- The leader of a followed runtime. -/
theorem Led.leader_refreshTracker (h : rt.Led sender sampleMs upTo now.ms) (usable : Bool) :
    remoteName ((rt.refreshTracker now).leader now usable) = some sender := by
  obtain ⟨tracker, src, since, htracker, hsince, hbest, hsender, hactive, hleads⟩ := h.leads
  have hstill := TimeSyncTracker.bestActiveSource_later hbest hsince
    (TimeSyncTracker.isActive_of_le hnow hactive)
  rw [TimeSyncRuntime.leader, refreshTracker, htracker, Option.map_some, Option.bind_some,
    TimeSyncTracker.leader_eq_remote (TimeSyncTracker.bestActiveSource_refresh.trans hstill) hleads]
  exact congrArg some hsender

/-- It steers to the sample, whatever else it does. -/
theorem Led.follow (h : rt.Led sender sampleMs upTo now.ms) (usable : Bool) :
    (rt.follow now usable).Led sender sampleMs upTo now.ms ∧
    (rt.follow now usable).disciplinedClock = rt.disciplinedClock.steerUnixMs now.ns sampleMs := by
  obtain ⟨held, hheld, hsample, htimeout⟩ := h.sampled
  have hname := h.leader_refreshTracker hnow usable
  obtain ⟨next, pending, hkept⟩ := reconcilePendingRequest_eq now
    ((rt.refreshTracker now).leader now usable) (rt.refreshTracker now)
  have hfollow : rt.follow now usable = { rt.refreshTracker now with
      nextRequestMonoMs := next
      pendingRequest := pending
      disciplinedClock := rt.disciplinedClock.steerUnixMs now.ns sampleMs } := by
    rw [TimeSyncRuntime.follow, hkept, steerToLeader, hname, Option.bind_some]
    simp only [refreshTracker, hheld, hsample, steerTo]
  rw [hfollow]
  refine ⟨⟨h.configured, ⟨held, hheld, hsample, htimeout⟩, ?_⟩, rfl⟩
  obtain ⟨tracker, src, since, htracker, hsince, hbest, hsender, hactive, hleads⟩ := h.leads
  have hstill := TimeSyncTracker.bestActiveSource_later hbest hsince
    (TimeSyncTracker.isActive_of_le hnow hactive)
  exact ⟨tracker.refresh now.ms, src, now.ms, by rw [refreshTracker, htracker]; rfl, le_rfl,
    TimeSyncTracker.bestActiveSource_refresh.trans hstill, hsender, hactive, hleads⟩

/-- A followed runtime refreshes its clock as steering to the sample does. -/
theorem Led.refreshes {B : Build} {pre post : SlewedNetworkClock → Prop}
    (hle : ∀ clock, post clock → pre clock)
    (hread : ∀ clock, pre clock → (clock.readUnixMs now.ns).isSome = true)
    (hsteer : ∀ clock, pre clock → post (clock.steerUnixMs now.ns sampleMs)) :
    Refreshes B now true
      (fun rt => rt.Led sender sampleMs upTo now.ms ∧ pre rt.disciplinedClock)
      (fun rt => rt.Led sender sampleMs upTo now.ms ∧ post rt.disciplinedClock) where
  le rt h := ⟨h.1, hle _ h.2⟩
  usable rt h := if_pos (hread _ h.2)
  follow rt h := by
    obtain ⟨hled, hclock⟩ := (h.1.expire hnow).follow hnow true
    exact ⟨hled, hclock ▸ hsteer _ h.2⟩
  announce rt due h := ⟨⟨h.1.configured, h.1.sampled, h.1.leads⟩, h.2⟩
  request rt seq due pending h _ := ⟨⟨h.1.configured, h.1.sampled, h.1.leads⟩, h.2⟩

end Led
end TimeSyncRuntime

theorem MonotonicTime.toNat_ofMs_ns (ms : UInt64) :
    (MonotonicTime.ofMs ms).ns.toNat = min (ms.toNat * 1000000) (2 ^ 64 - 1) := by
  have hten : (1000000 : UInt64).toNat = 1000000 := rfl
  have hmax : (0xFFFFFFFFFFFFFFFF : UInt64).toNat = 2 ^ 64 - 1 := rfl
  unfold ofMs
  dsimp only
  split
  · rw [UInt64.toNat_mul, hten]
    omega
  · omega

namespace SlewedNetworkClock

/-- A sample in nanoseconds. -/
def targetNs (sampleMs : UInt64) : Int := sampleMs.toNat * 1000000

theorem sample_targetNs (sampleMs : UInt64) : Sample (targetNs sampleMs) := by
  have hbound := sampleMs.toNat_lt
  unfold Sample targetNs
  omega

/-- What the instants of the steerings say about a clock that was started at `t0`: as it
started, steered at one instant, or behind since two. -/
structure History (t0 sampleMs : UInt64) (slew : Nat) (times : List UInt64)
    (clock : SlewedNetworkClock) : Prop where
  rate : clock.maxSlewPpm = slew
  anchor : ∃ x ∈ t0 :: times, clock.anchorMonoNs = (MonotonicTime.ofMs x).ns
  phase : (clock.Fresh (MonotonicTime.ofMs t0).ns (targetNs sampleMs) ∧ ∀ x ∈ times, x = t0) ∨
    (∃ r ∈ times, clock.Owing (MonotonicTime.ofMs t0).ns (targetNs sampleMs)
      (MonotonicTime.ofMs r).ns ∧ (slew = 0 ∨ ∀ x ∈ times, x = t0 ∨ x = r)) ∨
    (clock.Behind (MonotonicTime.ofMs t0).ns (targetNs sampleMs) ∧ slew ≠ 0 ∧
      ∃ x ∈ times, ∃ y ∈ times, t0.toNat < x.toNat ∧ x.toNat < y.toNat)

section History
variable {t0 sampleMs now : UInt64} {slew : Nat} {times : List UInt64} {clock : SlewedNetworkClock}

theorem History.trailing (h : clock.History t0 sampleMs slew times) :
    clock.Trailing (MonotonicTime.ofMs t0).ns (targetNs sampleMs) := by
  rcases h.phase with ⟨hfresh, -⟩ | ⟨r, -, howing, -⟩ | ⟨hbehind, -⟩
  · exact hfresh.trailing
  · exact howing.trailing
  · exact hbehind.trailing

/-- Only which instants there were matters. -/
theorem History.congr {times' : List UInt64} (h : clock.History t0 sampleMs slew times)
    (hmem : ∀ x, x ∈ times' ↔ x ∈ times) : clock.History t0 sampleMs slew times' := by
  refine ⟨h.rate, ?_, ?_⟩
  · obtain ⟨x, hx, hanchor⟩ := h.anchor
    refine ⟨x, ?_, hanchor⟩
    rw [List.mem_cons, hmem, ← List.mem_cons]
    exact hx
  · simpa only [hmem] using h.phase

/-- One more steering. -/
theorem History.steer (h : clock.History t0 sampleMs slew times)
    (hfits : now.toNat * 1000000 < 2 ^ 64) (hstart : t0.toNat ≤ now.toNat)
    (hlast : ∀ x ∈ times, x.toNat ≤ now.toNat) :
    (clock.steerUnixMs (MonotonicTime.ofMs now).ns sampleMs).History t0 sampleMs slew
      (now :: times) := by
  have hsample := sample_targetNs sampleMs
  have hns := MonotonicTime.toNat_ofMs_ns now
  have hearlier : ∀ x ∈ t0 :: times, (MonotonicTime.ofMs x).ns.toNat = x.toNat * 1000000 ∧
      x.toNat ≤ now.toNat := by
    intro x hx
    have hall : ∀ x ∈ t0 :: times, x.toNat ≤ now.toNat := List.forall_mem_cons.mpr ⟨hstart, hlast⟩
    have hle := hall x hx
    have hxns := MonotonicTime.toNat_ofMs_ns x
    omega
  obtain ⟨hstartns, -⟩ := hearlier t0 List.mem_cons_self
  have hanchor : clock.anchorMonoNs.toNat ≤ (MonotonicTime.ofMs now).ns.toNat := by
    obtain ⟨x, hx, heq⟩ := h.anchor
    obtain ⟨hxns, hle⟩ := hearlier x hx
    rw [heq]
    omega
  obtain ⟨-, hnew, -, hslew, -⟩ := steerUnixMs_trailing h.trailing hsample rfl hanchor
  refine ⟨hslew.trans h.rate, ⟨now, by simp, hnew⟩, ?_⟩
  rcases h.phase with ⟨hfresh, hall⟩ | ⟨r, hr, howing, hall⟩ | ⟨hbehind, hpays, x, hx, y, hy, hxy⟩
  · by_cases hsame : now = t0
    · subst hsame
      exact .inl ⟨hfresh.steer hsample rfl, List.forall_mem_cons.mpr ⟨rfl, hall⟩⟩
    · have hlater : t0.toNat < now.toNat := by
        have hne := mt UInt64.toNat_inj.mp hsame
        omega
      refine .inr (.inl ⟨now, List.mem_cons_self, hfresh.steer_later hsample rfl (by omega), .inr ?_⟩)
      exact List.forall_mem_cons.mpr ⟨.inr rfl, fun x hx => .inl (hall x hx)⟩
  · obtain ⟨hrns, hrle⟩ := hearlier r (List.mem_cons_of_mem _ hr)
    by_cases hsame : now = r
    · subst hsame
      refine .inr (.inl ⟨now, List.mem_cons_self, howing.steer hsample rfl, ?_⟩)
      exact hall.imp_right fun hall => List.forall_mem_cons.mpr ⟨.inr rfl, hall⟩
    · have hlater : r.toNat < now.toNat := by
        have hne := mt UInt64.toNat_inj.mp hsame
        omega
      by_cases hzero : slew = 0
      · refine .inr (.inl ⟨now, List.mem_cons_self, ?_, .inl hzero⟩)
        exact howing.steer_of_no_slew hsample rfl (h.rate.trans hzero) (by omega)
      · have hpays : 0 < clock.maxSlewPpm := by
          have hslew := h.rate
          omega
        have hstartr : t0.toNat < r.toNat := by
          have hstarted := howing.later
          omega
        refine .inr (.inr ⟨howing.steer_later hsample rfl hpays (by omega), hzero, r,
          List.mem_cons_of_mem _ hr, now, List.mem_cons_self, hstartr, hlater⟩)
  · exact .inr (.inr ⟨hbehind.steer hsample rfl hanchor, hpays, x, List.mem_cons_of_mem _ hx, y,
      List.mem_cons_of_mem _ hy, hxy⟩)

/-- Steered at `now`, the clock shows what it should exactly when it may not slew or was
steered at `t0` and `now` only. -/
theorem History.level_iff (h : clock.History t0 sampleMs slew (now :: times))
    (hfits : now.toNat * 1000000 < 2 ^ 64) (hstart : t0.toNat ≤ now.toNat)
    (hlast : ∀ x ∈ times, x.toNat ≤ now.toNat)
    (hanchor : clock.anchorMonoNs = (MonotonicTime.ofMs now).ns) :
    clock.anchorUnixNs = targetNs sampleMs + (now.toNat - t0.toNat : Nat) * 1000000 ↔
      slew = 0 ∨ ∀ x ∈ times, x = t0 ∨ x = now := by
  have hns := MonotonicTime.toNat_ofMs_ns now
  have hstartns := MonotonicTime.toNat_ofMs_ns t0
  have hbefore : ∀ x ∈ now :: times, x.toNat ≤ now.toNat :=
    List.forall_mem_cons.mpr ⟨le_rfl, hlast⟩
  rcases h.phase with ⟨hfresh, hall⟩ | ⟨r, hr, howing, hall⟩ | ⟨hbehind, hpays, x, hx, y, hy, hxy⟩
  · have hnow := hall now List.mem_cons_self
    subst hnow
    rw [hfresh.shows, Nat.sub_self]
    refine iff_of_true (by simp) (.inr fun x hx => .inl (hall x (List.mem_cons_of_mem _ hx)))
  · have hrns : (MonotonicTime.ofMs r).ns = (MonotonicTime.ofMs now).ns := by
      rw [← howing.anchor, hanchor]
    have hrle := hbefore r hr
    have hrnow : r = now := by
      have hrns' := MonotonicTime.toNat_ofMs_ns r
      rw [hrns] at hrns'
      exact UInt64.toNat_inj.mp (by omega)
    subst hrnow
    rw [howing.shows]
    refine iff_of_true (by omega) (hall.imp_right fun hall x hx => ?_)
    exact hall x (List.mem_cons_of_mem _ hx)
  · refine iff_of_false ?_ ?_
    · have hshort := hbehind.shows
      rw [hanchor] at hshort
      omega
    · rintro (hzero | hall)
      · exact hpays hzero
      · have hynow := hbefore y hy
        rcases List.mem_cons.mp hx with rfl | hx
        · omega
        · rcases hall x hx with rfl | rfl
          · omega
          · omega

end History
end SlewedNetworkClock

namespace SlewedNetworkClock
variable {t0 sampleMs now : UInt64} {clock : SlewedNetworkClock}

/-- Its anchor is an instant that is past. -/
def AnchoredBefore (now : UInt64) (clock : SlewedNetworkClock) : Prop :=
  clock.anchorMonoNs.toNat ≤ (MonotonicTime.ofMs now).ns.toNat

theorem toNat_ofMs_ns_mono {x y : UInt64} (h : x.toNat ≤ y.toNat) :
    (MonotonicTime.ofMs x).ns.toNat ≤ (MonotonicTime.ofMs y).ns.toNat := by
  rw [MonotonicTime.toNat_ofMs_ns, MonotonicTime.toNat_ofMs_ns]
  omega

theorem History.anchoredBefore {slew : Nat} {times : List UInt64}
    (h : clock.History t0 sampleMs slew times) (hstart : t0.toNat ≤ now.toNat)
    (hlast : ∀ x ∈ times, x.toNat ≤ now.toNat) : clock.AnchoredBefore now := by
  obtain ⟨x, hx, hanchor⟩ := h.anchor
  have hall : ∀ x ∈ t0 :: times, x.toNat ≤ now.toNat := List.forall_mem_cons.mpr ⟨hstart, hlast⟩
  rw [AnchoredBefore, hanchor]
  exact toNat_ofMs_ns_mono (hall x hx)

/-- Between two instants no more nanoseconds go by than their milliseconds hold. -/
theorem elapsed_le {x : UInt64} (h : x.toNat ≤ now.toNat) :
    (MonotonicTime.ofMs now).ns.toNat - (MonotonicTime.ofMs x).ns.toNat ≤
      (now.toNat - x.toNat) * 1000000 := by
  rw [MonotonicTime.toNat_ofMs_ns, MonotonicTime.toNat_ofMs_ns]
  omega

/-- A clock that trails shows a time while what it should show fits. -/
theorem Trailing.reads (h : clock.Trailing (MonotonicTime.ofMs t0).ns (targetNs sampleMs))
    (hanchor : clock.AnchoredBefore now) (hstart : t0.toNat ≤ now.toNat)
    (hfits : sampleMs.toNat + (now.toNat - t0.toNat) < 2 ^ 64) :
    clock.readUnixMs (MonotonicTime.ofMs now).ns =
      some (UInt64.ofNat (clock.shownNs (MonotonicTime.ofMs now).ns / 1000000).toNat) := by
  have hhigh := shownNs_le h hanchor
  have helapsed := elapsed_le hstart
  refine readUnixMs_eq h (sample_targetNs sampleMs) hanchor ?_
  unfold targetNs at hhigh
  omega

/-- At its anchor it shows its anchor. -/
theorem Trailing.shownNs_anchor {start : UInt64} {target : Int} (h : clock.Trailing start target)
    (hanchor : clock.anchorMonoNs = now) : clock.shownNs now = clock.anchorUnixNs := by
  have howes := h.owes
  rw [shownNs, paidNs, hanchor, Nat.sub_self, Nat.zero_mul, Nat.zero_div]
  omega

end SlewedNetworkClock

namespace TimeSyncRuntime
variable {B : Build} {sender : String} {sampleMs upTo : UInt64} {rt : TimeSyncRuntime}
  {now : MonotonicTime}

theorem reading_eq {unixMs : UInt64}
    (h : rt.disciplinedClock.readUnixMs now.ns = some unixMs) :
    ∃ time, rt.reading B now = .ok (some ⟨time, some unixMs⟩) := by
  obtain ⟨time, htime⟩ := PartialNetworkTime.fromUnixMs_ok B unixMs
  refine ⟨time, ?_⟩
  unfold reading
  split
  · rename_i shown hshown
    obtain rfl : shown = unixMs := Option.some.inj (hshown.symm.trans h)
    rw [htime]
    rfl
  · rename_i hnone
    rw [h] at hnone
    cases hnone

/-- A reading of a followed runtime is that of the clock it has just steered. -/
theorem Led.networkTimeMs_eq (h : rt.Led sender sampleMs upTo now.ms)
    (hnow : now.ms.toNat ≤ upTo.toNat) {unixMs : UInt64}
    (hread : (rt.disciplinedClock.readUnixMs now.ns).isSome = true)
    (hsteered : (rt.disciplinedClock.steerUnixMs now.ns sampleMs).readUnixMs now.ns = some unixMs) :
    (networkTimeMs B now rt).2 = .ok (some unixMs) := by
  have husable : (rt.expire now).hasUsableTime B now = .ok true := if_pos hread
  obtain ⟨-, hclock⟩ := (h.expire hnow).follow hnow true
  have hrefreshed : refreshTimesyncState B now rt = ((rt.expire now).follow now true, .ok ()) := by
    rw [refreshTimesyncState, Program.modify_bind_apply, Program.read_bind_apply, husable,
      Program.of_ok_bind_apply, Program.modify_apply]
  have hnow : ((rt.expire now).follow now true).disciplinedClock.readUnixMs now.ns =
      some unixMs := by
    rw [hclock]
    exact hsteered
  obtain ⟨time, hreading⟩ := @reading_eq B _ _ _ hnow
  have hrun : networkTime B now rt =
      ((rt.expire now).follow now true, .ok (some ⟨time, some unixMs⟩)) := by
    rw [networkTime, Program.bind_apply_of_ok hrefreshed, Program.read_bind_apply, hreading,
      Program.of_apply]
  rw [networkTimeMs, Program.bind_apply_of_ok hrun, Program.pure_apply]
  rfl

end TimeSyncRuntime

namespace SlewedNetworkClock

/-- A clock that has not started starts with the sample it is steered to. -/
theorem fresh_of_start {clock : SlewedNetworkClock} (h : clock.initialized = false)
    (start sampleMs : UInt64) :
    (clock.steerUnixMs start sampleMs).Fresh start (targetNs sampleMs) ∧
      (clock.steerUnixMs start sampleMs).maxSlewPpm = clock.maxSlewPpm := by
  have hnone : clock.readUnixNs start = none := by
    rw [readUnixNs, h]
    rfl
  rw [steerUnixMs, hnone]
  refine ⟨⟨⟨rfl, le_rfl, le_rfl, ?_, le_rfl⟩, rfl, rfl, rfl⟩, rfl⟩
  dsimp only
  unfold targetNs
  omega

end SlewedNetworkClock

namespace TimeSyncRuntime

/-- At `t0` the runtime follows the sender, and what it holds of it counts until `t`. -/
structure FollowsUntil (sender : String) (t0 t : UInt64) (rt : TimeSyncRuntime) : Prop where
  sampled : ∃ cfg held, rt.cfg = some cfg ∧ rt.remoteSources[sender]? = some held ∧
    saturatingSub t held.lastSampleMonoMs ≤ cfg.sourceTimeoutMs
  leader : ∃ tracker src usable, rt.tracker = some tracker ∧
    tracker.leader t0 usable = some (.remote src) ∧ src.sender = sender ∧
    tracker.isActive t src = true

theorem FollowsUntil.led {sender : String} {t0 t : UInt64} {rt : TimeSyncRuntime}
    (h : rt.FollowsUntil sender t0 t) {held : RemoteTimeSyncSource}
    (hheld : rt.remoteSources[sender]? = some held) :
    rt.Led sender held.sampleUnixMs t t0 := by
  obtain ⟨cfg, held', hcfg, hheld', htimeout⟩ := h.sampled
  obtain ⟨tracker, src, usable, htracker, hleader, hsender, hactive⟩ := h.leader
  obtain ⟨hbest, hleads⟩ := TimeSyncTracker.of_leader_eq_remote hleader
  obtain rfl : held = held' := Option.some.inj (hheld.symm.trans hheld')
  refine ⟨by rw [hcfg]; rfl, ⟨held, hheld, rfl, ?_⟩, tracker, src, t0, htracker, le_rfl, hbest,
    hsender, hactive, hleads⟩
  rw [hcfg]
  exact htimeout

end TimeSyncRuntime

namespace TimeSyncRouter
variable {S : Schema}

/-- Readings and polls between two instants, in order, on a clock that counts milliseconds. -/
structure Between (t0 t : UInt64) (inputs : List (TimeSyncInput S)) : Prop where
  reading : ∀ input ∈ inputs, Reading input.call
  clock : ∀ input ∈ inputs, input.now = .ofMs input.now.ms
  ordered : (t0.toNat :: (inputs.map fun input => input.now.ms.toNat) ++ [t.toNat]).Pairwise (· ≤ ·)

theorem Between.le {t0 t : UInt64} {inputs : List (TimeSyncInput S)} (h : Between t0 t inputs) :
    t0.toNat ≤ t.toNat := by
  have hordered := h.ordered
  rw [List.cons_append] at hordered
  exact (List.pairwise_cons.mp hordered).1 t.toNat (by simp)

theorem Between.tail {t0 t : UInt64} {input : TimeSyncInput S} {inputs : List (TimeSyncInput S)}
    (h : Between t0 t (input :: inputs)) :
    t0.toNat ≤ input.now.ms.toNat ∧ Between input.now.ms t inputs := by
  have hordered := h.ordered
  rw [List.map_cons, List.cons_append] at hordered
  obtain ⟨hfirst, hrest⟩ := List.pairwise_cons.mp hordered
  exact ⟨hfirst _ (by simp), fun i hi => h.reading i (List.mem_cons_of_mem _ hi),
    fun i hi => h.clock i (List.mem_cons_of_mem _ hi), hrest⟩

theorem Between.mem {t0 t : UInt64} {inputs : List (TimeSyncInput S)} (h : Between t0 t inputs)
    {input : TimeSyncInput S} (hinput : input ∈ inputs) :
    t0.toNat ≤ input.now.ms.toNat ∧ input.now.ms.toNat ≤ t.toNat := by
  induction inputs generalizing t0 with
  | nil => cases hinput
  | cons first rest ih =>
    obtain ⟨hfirst, hrest⟩ := h.tail
    rcases List.mem_cons.mp hinput with rfl | hmem
    · exact ⟨hfirst, hrest.le⟩
    · obtain ⟨hlow, hhigh⟩ := ih hrest hmem
      exact ⟨hfirst.trans hlow, hhigh⟩

section Run
variable {B : Build} {ts : TimeSyncTypes S.DataType} {built : Option TimeSyncConfig}
  {sender : String} {sampleMs upTo start : UInt64}
  {P : List UInt64 → SlewedNetworkClock → Prop}

/-- What every steering keeps, with the instants of those before it, all readings and polls
keep. -/
theorem after_of_steers
    (hsame : ∀ x times clock, P (x :: x :: times) clock → P (x :: times) clock)
    (hread : ∀ x times clock, start.toNat ≤ x.toNat → x.toNat ≤ upTo.toNat →
      (∀ y ∈ times, y.toNat ≤ x.toNat) → P times clock →
      (clock.readUnixMs (MonotonicTime.ofMs x).ns).isSome = true)
    (hsteer : ∀ x times clock, start.toNat ≤ x.toNat → x.toNat ≤ upTo.toNat →
      (∀ y ∈ times, y.toNat ≤ x.toNat) → P times clock →
      P (x :: times) (clock.steerUnixMs (MonotonicTime.ofMs x).ns sampleMs))
    {last : UInt64} {inputs : List (TimeSyncInput S)} (hinputs : Between last upTo inputs)
    (hstart : start.toNat ≤ last.toNat) {times : List UInt64}
    (htimes : ∀ y ∈ times, y.toNat ≤ last.toNat) {s : TimeSyncRouter S}
    (hled : s.runtime.Led sender sampleMs upTo last) (hclock : P times s.runtime.disciplinedClock) :
    (after B ts built s inputs).runtime.Led sender sampleMs upTo upTo ∧
      P ((inputs.map fun input => input.now.ms).reverse ++ times)
        (after B ts built s inputs).runtime.disciplinedClock := by
  induction inputs generalizing last times s with
  | nil => exact ⟨hled.later hinputs.le, hclock⟩
  | cons input rest ih =>
    obtain ⟨hfirst, hrest⟩ := hinputs.tail
    have hns : input.now.ns = (MonotonicTime.ofMs input.now.ms).ns :=
      congrArg MonotonicTime.ns (hinputs.clock input List.mem_cons_self)
    have hstart' := hstart.trans hfirst
    have htimes' : ∀ y ∈ times, y.toNat ≤ input.now.ms.toNat :=
      fun y hy => (htimes y hy).trans hfirst
    have htimes'' : ∀ y ∈ input.now.ms :: times, y.toNat ≤ input.now.ms.toNat :=
      List.forall_mem_cons.mpr ⟨le_rfl, htimes'⟩
    have hrefreshes := @TimeSyncRuntime.Led.refreshes sender sampleMs upTo input.now hrest.le B
      (fun clock => P times clock ∨ P (input.now.ms :: times) clock) (P (input.now.ms :: times))
      (fun clock h => .inr h)
      (fun clock h => by
        rw [hns]
        rcases h with h | h
        · exact hread _ _ _ hstart' hrest.le htimes' h
        · exact hread _ _ _ hstart' hrest.le htimes'' h)
      (fun clock h => by
        rw [hns]
        rcases h with h | h
        · exact hsteer _ _ _ hstart' hrest.le htimes' h
        · exact hsame _ _ _ (hsteer _ _ _ hstart' hrest.le htimes'' h))
    have hstep : (perform B ts built s input).1.runtime.Led sender sampleMs upTo input.now.ms ∧
        P (input.now.ms :: times) (perform B ts built s input).1.runtime.disciplinedClock :=
      (call_triple hrefreshes (fun rt h => h.1.configured) built
        (hinputs.reading input List.mem_cons_self)).run ⟨hled.later hfirst, .inl hclock⟩
    have hgoal := ih hrest hstart' htimes'' hstep.1 hstep.2
    rw [List.map_cons, List.reverse_cons, List.append_assoc, after_cons]
    exact hgoal

end Run
end TimeSyncRouter

section ReadingsBetweenSamples
variable {t0 t sampleMs : UInt64}

/-- A clock at its anchor shows it in milliseconds. -/
theorem SlewedNetworkClock.Trailing.reads_anchor {clock : SlewedNetworkClock}
    (h : clock.Trailing (MonotonicTime.ofMs t0).ns (targetNs sampleMs))
    (hanchor : clock.anchorMonoNs = (MonotonicTime.ofMs t).ns) (hle : t0.toNat ≤ t.toNat)
    (hfits : sampleMs.toNat + (t.toNat - t0.toNat) < 2 ^ 64) :
    ∃ unixMs : UInt64, clock.readUnixMs (MonotonicTime.ofMs t).ns = some unixMs ∧
      (unixMs.toNat : Int) = clock.anchorUnixNs / 1000000 := by
  have hbefore : clock.AnchoredBefore t := le_of_eq (congrArg UInt64.toNat hanchor)
  have hhigh := shownNs_le h hbefore
  have hlow := h.low
  have helapsed := elapsed_le hle
  refine ⟨_, h.reads hbefore hle hfits, ?_⟩
  rw [h.shownNs_anchor hanchor] at hhigh ⊢
  unfold targetNs at hhigh hlow
  rw [UInt64.toNat_ofNat', Nat.mod_eq_of_lt (by omega)]
  omega

/-- A followed runtime shows the clock it has just steered. -/
theorem TimeSyncRuntime.Led.reads {B : Build} {sender : String} {rt : TimeSyncRuntime}
    (h : rt.Led sender sampleMs t t)
    (htrailing : rt.disciplinedClock.Trailing (MonotonicTime.ofMs t0).ns
      (SlewedNetworkClock.targetNs sampleMs))
    (hbefore : rt.disciplinedClock.AnchoredBefore t) (hle : t0.toNat ≤ t.toNat)
    (hfits : sampleMs.toNat + (t.toNat - t0.toNat) < 2 ^ 64) :
    ∃ unixMs : UInt64, (networkTimeMs B (.ofMs t) rt).2 = .ok (some unixMs) ∧
      (unixMs.toNat : Int) =
        (rt.disciplinedClock.steerUnixMs (MonotonicTime.ofMs t).ns sampleMs).anchorUnixNs /
          1000000 := by
  obtain ⟨htrailing', hanchor, -, -, -⟩ := SlewedNetworkClock.steerUnixMs_trailing htrailing
    (SlewedNetworkClock.sample_targetNs sampleMs) rfl hbefore
  obtain ⟨unixMs, hread, hvalue⟩ := htrailing'.reads_anchor hanchor hle hfits
  have hsome : (rt.disciplinedClock.readUnixMs (MonotonicTime.ofMs t).ns).isSome = true := by
    rw [htrailing.reads hbefore hle hfits]
    rfl
  have hshown : (networkTimeMs B (.ofMs t) rt).2 = .ok (some unixMs) :=
    h.networkTimeMs_eq le_rfl hsome hread
  exact ⟨unixMs, hshown, hvalue⟩

variable {B : Build} {S : Schema} {ts : TimeSyncTypes S.DataType} {built : Option TimeSyncConfig}
  {sender : String} {s : TimeSyncRouter S} {inputs : List (TimeSyncInput S)}

/-- While nanoseconds fit, the instants of the refreshes decide. -/
theorem reading_iff_of_fits (hled : s.runtime.Led sender sampleMs t t0)
    (hfresh : s.runtime.disciplinedClock.Fresh (MonotonicTime.ofMs t0).ns
      (SlewedNetworkClock.targetNs sampleMs))
    (hinputs : TimeSyncRouter.Between t0 t inputs)
    (hfits : sampleMs.toNat + (t.toNat - t0.toNat) < 2 ^ 64) (hns : t.toNat * 1000000 < 2 ^ 64) :
    (∃ unixMs : UInt64, (TimeSyncRuntime.networkTimeMs B (.ofMs t)
        (TimeSyncRouter.after B ts built s inputs).runtime).2 = .ok (some unixMs) ∧
        unixMs.toNat = sampleMs.toNat + (t.toNat - t0.toNat)) ↔
      s.runtime.disciplinedClock.maxSlewPpm = 0 ∨
        ∀ input ∈ inputs, input.now.ms = t0 ∨ input.now.ms = t := by
  generalize hrate : s.runtime.disciplinedClock.maxSlewPpm = slew
  have hsample := SlewedNetworkClock.sample_targetNs sampleMs
  have hinitial : s.runtime.disciplinedClock.History t0 sampleMs slew [] :=
    ⟨hrate, ⟨t0, by simp, hfresh.anchor⟩, .inl ⟨hfresh, by simp⟩⟩
  have hsteer : ∀ (x : UInt64) (times : List UInt64) (clock : SlewedNetworkClock),
      t0.toNat ≤ x.toNat → x.toNat ≤ t.toNat → (∀ y ∈ times, y.toNat ≤ x.toNat) →
      clock.History t0 sampleMs slew times →
      (clock.steerUnixMs (MonotonicTime.ofMs x).ns sampleMs).History t0 sampleMs slew
        (x :: times) := by
    intro x times clock hstart hx htimes h
    exact h.steer (lt_of_le_of_lt (Nat.mul_le_mul_right 1000000 hx) hns) hstart htimes
  obtain ⟨hled', hhistory⟩ := @TimeSyncRouter.after_of_steers S B ts built sender sampleMs t t0
    (fun times clock => clock.History t0 sampleMs slew times)
    (fun x times clock h => h.congr (by simp))
    (fun x times clock hstart hx htimes h => by
      rw [h.trailing.reads (h.anchoredBefore hstart htimes) hstart (by omega)]
      rfl)
    hsteer
    t0 inputs hinputs le_rfl [] (by simp) s hled hinitial
  rw [List.append_nil] at hhistory
  have hmem : ∀ x ∈ (inputs.map fun input => input.now.ms).reverse, x.toNat ≤ t.toNat := by
    intro x hx
    obtain ⟨input, hinput, rfl⟩ := List.mem_map.mp (List.mem_reverse.mp hx)
    exact (hinputs.mem hinput).2
  have hbefore := hhistory.anchoredBefore hinputs.le hmem
  obtain ⟨unixMs, hread, hvalue⟩ := hled'.reads (B := B) hhistory.trailing hbefore hinputs.le hfits
  obtain ⟨htrailing, hanchor, -, -, -⟩ :=
    SlewedNetworkClock.steerUnixMs_trailing hhistory.trailing hsample rfl hbefore
  have hlevel := (hhistory.steer hns hinputs.le hmem).level_iff hns hinputs.le hmem hanchor
  have hhigh := htrailing.high
  have hlow := htrailing.low
  rw [hanchor] at hhigh
  have helapsed := SlewedNetworkClock.elapsed_le hinputs.le
  have hinstants : (∀ x ∈ (inputs.map fun input => input.now.ms).reverse, x = t0 ∨ x = t) ↔
      ∀ input ∈ inputs, input.now.ms = t0 ∨ input.now.ms = t := by
    simp only [List.mem_reverse, List.forall_mem_map]
  rw [← hinstants, ← hlevel]
  unfold SlewedNetworkClock.targetNs at hhigh hlow ⊢
  rw [hread]
  constructor
  · rintro ⟨shown, hshown, hexact⟩
    rw [← Option.some.inj (Except.ok.inj hshown)] at hexact
    omega
  · intro hlevel
    exact ⟨unixMs, rfl, by omega⟩

/-- A clock that has gained no more than the nanoseconds that still fit shows less time than has
gone by, unless none has. -/
theorem eq_of_saturated {shown sample t t0 ns ns0 : Nat} {anchor : Int}
    (hvalue : (shown : Int) = anchor / 1000000)
    (hhigh : anchor ≤ (sample : Int) * 1000000 + (ns - ns0 : Nat))
    (hns0 : ns0 = min (t0 * 1000000) (2 ^ 64 - 1)) (hns : ns = min (t * 1000000) (2 ^ 64 - 1))
    (hfull : ¬t * 1000000 < 2 ^ 64) (hle : t0 ≤ t) (hexact : shown = sample + (t - t0)) :
    t = t0 := by
  omega

/-- From where they do not fit any more, the nanoseconds stand still. -/
theorem reading_iff_of_saturated (hled : s.runtime.Led sender sampleMs t t0)
    (hfresh : s.runtime.disciplinedClock.Fresh (MonotonicTime.ofMs t0).ns
      (SlewedNetworkClock.targetNs sampleMs))
    (hinputs : TimeSyncRouter.Between t0 t inputs)
    (hfits : sampleMs.toNat + (t.toNat - t0.toNat) < 2 ^ 64) (hns : ¬t.toNat * 1000000 < 2 ^ 64) :
    (∃ unixMs : UInt64, (TimeSyncRuntime.networkTimeMs B (.ofMs t)
        (TimeSyncRouter.after B ts built s inputs).runtime).2 = .ok (some unixMs) ∧
        unixMs.toNat = sampleMs.toNat + (t.toNat - t0.toNat)) ↔ t = t0 := by
  have hsample := SlewedNetworkClock.sample_targetNs sampleMs
  have hanchored : ∀ {x : UInt64} {times : List UInt64} {clock : SlewedNetworkClock},
      t0.toNat ≤ x.toNat → (∀ y ∈ times, y.toNat ≤ x.toNat) →
      (∃ y ∈ t0 :: times, clock.anchorMonoNs = (MonotonicTime.ofMs y).ns) →
      clock.AnchoredBefore x := by
    rintro x times clock hstart htimes ⟨y, hy, hanchor⟩
    have hall : ∀ y ∈ t0 :: times, y.toNat ≤ x.toNat := List.forall_mem_cons.mpr ⟨hstart, htimes⟩
    rw [SlewedNetworkClock.AnchoredBefore, hanchor]
    exact SlewedNetworkClock.toNat_ofMs_ns_mono (hall y hy)
  obtain ⟨hled', htrailing, hanchor⟩ := @TimeSyncRouter.after_of_steers S B ts built sender sampleMs
    t t0 (fun times clock => clock.Trailing (MonotonicTime.ofMs t0).ns
        (SlewedNetworkClock.targetNs sampleMs) ∧
      ∃ y ∈ t0 :: times, clock.anchorMonoNs = (MonotonicTime.ofMs y).ns)
    (fun x times clock h => ⟨h.1, by simpa using h.2⟩)
    (fun x times clock hstart hx htimes h => by
      rw [h.1.reads (hanchored hstart htimes h.2) hstart (by omega)]
      rfl)
    (fun x times clock hstart hx htimes h => by
      obtain ⟨htrailing, hanchor, -⟩ :=
        SlewedNetworkClock.steerUnixMs_trailing h.1 hsample rfl (hanchored hstart htimes h.2)
      exact ⟨htrailing, x, by simp, hanchor⟩)
    t0 inputs hinputs le_rfl [] (by simp) s hled ⟨hfresh.trailing, t0, by simp, hfresh.anchor⟩
  rw [List.append_nil] at hanchor
  have hmem : ∀ x ∈ (inputs.map fun input => input.now.ms).reverse, x.toNat ≤ t.toNat := by
    intro x hx
    obtain ⟨input, hinput, rfl⟩ := List.mem_map.mp (List.mem_reverse.mp hx)
    exact (hinputs.mem hinput).2
  have hbefore := hanchored hinputs.le hmem hanchor
  obtain ⟨unixMs, hread, hvalue⟩ := hled'.reads (B := B) htrailing hbefore hinputs.le hfits
  obtain ⟨htrailing', hanchor', -⟩ :=
    SlewedNetworkClock.steerUnixMs_trailing htrailing hsample rfl hbefore
  have hhigh := htrailing'.high
  have hlow := htrailing'.low
  have hstartns := MonotonicTime.toNat_ofMs_ns t0
  have hnowns := MonotonicTime.toNat_ofMs_ns t
  rw [hanchor'] at hhigh
  unfold SlewedNetworkClock.targetNs at hhigh hlow
  have hle := hinputs.le
  rw [hread]
  constructor
  · rintro ⟨shown, hshown, hexact⟩
    rw [← Option.some.inj (Except.ok.inj hshown)] at hexact
    exact UInt64.toNat_inj.mp (eq_of_saturated hvalue hhigh hstartns hnowns hns hle hexact)
  · rintro rfl
    exact ⟨unixMs, rfl, by omega⟩

end ReadingsBetweenSamples

/-- A router whose clock a leader's packet has just started, and that gets no other, shows the
time gone by since exactly when the clock may not slew or was refreshed at two instants at
most: the first, and the one it is read at. -/
theorem reading_undisturbed_iff {B : Build} {S : Schema} {ts : TimeSyncTypes S.DataType}
    {cfg : TimeSyncConfig} {built : Option TimeSyncConfig} {pkt : Packet S}
    {handled : TimeSyncRuntime.Handled} {t0 t start : UInt64} {rt : TimeSyncRuntime}
    {s : TimeSyncRouter S} {inputs : List (TimeSyncInput S)}
    (hhandled : TimeSyncRuntime.handleLocked B (.ofMs t0) ts cfg pkt rt = (s.runtime, .ok handled))
    (hoff : rt.disciplinedClock.initialized = false)
    (hon : s.runtime.disciplinedClock.initialized = true)
    (hstart : s.runtime.disciplinedClock.readUnixMs (MonotonicTime.ofMs t0).ns = some start)
    (hfollows : s.runtime.FollowsUntil pkt.sender t0 t)
    (hinputs : TimeSyncRouter.Between t0 t inputs) :
    (∃ unixMs : UInt64, (TimeSyncRuntime.networkTimeMs B (.ofMs t)
        (TimeSyncRouter.after B ts built s inputs).runtime).2 = .ok (some unixMs) ∧
        unixMs.toNat = start.toNat + (t.toNat - t0.toNat)) ↔
      start.toNat + (t.toNat - t0.toNat) < 2 ^ 64 ∧
        (t = t0 ∨ t.toNat * 1000000 < 2 ^ 64 ∧
          (rt.disciplinedClock.maxSlewPpm = 0 ∨
            ∀ input ∈ inputs, input.now.ms = t0 ∨ input.now.ms = t)) := by
  obtain ⟨priority, sampleMs, hheld, hclock⟩ :=
    TimeSyncRuntime.handleLocked_starts B _ hhandled hoff hon
  obtain ⟨hfresh, hslew⟩ :=
    SlewedNetworkClock.fresh_of_start hoff (MonotonicTime.ofMs t0).ns sampleMs
  rw [← hclock] at hfresh hslew
  have hled := hfollows.led hheld
  have hle := hinputs.le
  obtain rfl : sampleMs = start := by
    obtain ⟨unixMs, hread, hvalue⟩ := hfresh.trailing.reads_anchor (t := t0)
      hfresh.anchor le_rfl (by
        have hbound := sampleMs.toNat_lt
        omega)
    rw [hfresh.shows, SlewedNetworkClock.targetNs] at hvalue
    rw [← Option.some.inj (hread.symm.trans hstart)]
    exact UInt64.toNat_inj.mp (by omega)
  by_cases hfits : sampleMs.toNat + (t.toNat - t0.toNat) < 2 ^ 64
  · rw [and_iff_right hfits]
    by_cases hns : t.toNat * 1000000 < 2 ^ 64
    · rw [reading_iff_of_fits hled hfresh hinputs hfits hns, hslew, and_iff_right hns]
      refine ⟨.inr, fun h => h.elim (fun heq => .inr fun input hinput => ?_) id⟩
      have hbounds := hinputs.mem hinput
      subst heq
      exact .inl (UInt64.toNat_inj.mp (by omega))
    · rw [reading_iff_of_saturated hled hfresh hinputs hfits hns, or_iff_left fun h => hns h.1]
  · refine iff_of_false ?_ fun h => hfits h.1
    rintro ⟨unixMs, -, hvalue⟩
    have hbound := unixMs.toNat_lt
    omega

/-- An announcement of the time in milliseconds, to a router that has just started. -/
def leaderAnnounce : Packet defaultSchema := sourceAnnounce "leader" 100 1000000

/-- A consumer behind that announcement. -/
def startedByLeader : TimeSyncRuntime × Outcome TimeSyncRuntime.Handled :=
  TimeSyncRuntime.handleLocked hostBuild (.ofMs 0) defaultTimeSync {} leaderAnnounce
    (.new hostBuild (some {}))

/-- `network_time_ms()` at that instant, in a router of the name `fc`. -/
def readAt (ms : UInt64) : TimeSyncInput defaultSchema :=
  ⟨.quiet (.bare "fc") ms 16, .ofMs ms, 0, .networkTime⟩

/-- `FollowsUntil` as a computation. -/
def TimeSyncRuntime.checkFollows (rt : TimeSyncRuntime) (sender : String) (t0 t : UInt64) : Bool :=
  (rt.cfg.any fun cfg => rt.remoteSources[sender]?.any fun held =>
    decide (saturatingSub t held.lastSampleMonoMs ≤ cfg.sourceTimeoutMs)) &&
  rt.tracker.any fun tracker => match tracker.leader t0 true with
    | some (.remote src) => src.sender == sender && tracker.isActive t src
    | _ => false

theorem TimeSyncRuntime.followsUntil_of_check {rt : TimeSyncRuntime} {sender : String}
    {t0 t : UInt64} (h : rt.checkFollows sender t0 t = true) : rt.FollowsUntil sender t0 t := by
  obtain ⟨hsampled, hleader⟩ := Bool.and_eq_true_iff.mp h
  obtain ⟨cfg, hcfg, hsampled⟩ := (Option.any_eq_true _ _).mp hsampled
  obtain ⟨held, hheld, htimeout⟩ := (Option.any_eq_true _ _).mp hsampled
  obtain ⟨tracker, htracker, hleader⟩ := (Option.any_eq_true _ _).mp hleader
  refine ⟨⟨cfg, held, hcfg, hheld, of_decide_eq_true htimeout⟩, tracker, ?_⟩
  split at hleader
  · rename_i src hsrc
    obtain ⟨hsender, hactive⟩ := Bool.and_eq_true_iff.mp hleader
    exact ⟨src, true, htracker, hsrc, eq_of_beq hsender, hactive⟩
  · cases hleader

/-- The announcement starts the clock, and the router follows its sender for five seconds. -/
theorem startedByLeader_follows :
    ∃ rt handled, startedByLeader = (rt, .ok handled) ∧
      rt.disciplinedClock.initialized = true ∧
      rt.disciplinedClock.readUnixMs (MonotonicTime.ofMs 0).ns = some 1000000 ∧
      rt.FollowsUntil "leader" 0 3000 := by
  have hchecks : (startedByLeader.2.isOk, startedByLeader.1.disciplinedClock.initialized,
      startedByLeader.1.disciplinedClock.readUnixMs (MonotonicTime.ofMs 0).ns,
      startedByLeader.1.checkFollows "leader" 0 3000) = (true, true, some 1000000, true) := by
    decide +kernel
  obtain ⟨hok, hchecks⟩ := Prod.mk.inj hchecks
  obtain ⟨hon, hchecks⟩ := Prod.mk.inj hchecks
  obtain ⟨hstart, hfollows⟩ := Prod.mk.inj hchecks
  generalize startedByLeader = started at hok hon hstart hfollows ⊢
  obtain ⟨rt, _ | handled⟩ := started
  · cases hok
  · exact ⟨rt, handled, rfl, hon, hstart, TimeSyncRuntime.followsUntil_of_check hfollows⟩

theorem readAt_between {t0 t : UInt64} {instants : List UInt64}
    (h : (t0.toNat :: (instants.map fun ms => ms.toNat) ++ [t.toNat]).Pairwise (· ≤ ·)) :
    TimeSyncRouter.Between t0 t (instants.map readAt) where
  reading input hinput := by
    obtain ⟨ms, -, rfl⟩ := List.mem_map.mp hinput
    trivial
  clock input hinput := by
    obtain ⟨ms, -, rfl⟩ := List.mem_map.mp hinput
    rfl
  ordered := by
    rw [List.map_map]
    exact h

/-- Read at the start and at three seconds, it is right at three seconds. -/
theorem reading_undisturbed_leader :
    ∃ rt handled, startedByLeader = (rt, .ok handled) ∧
      ∀ router : RouterState defaultSchema, ∃ unixMs : UInt64,
        (TimeSyncRuntime.networkTimeMs hostBuild (.ofMs 3000)
          (TimeSyncRouter.after hostBuild defaultTimeSync (some {}) ⟨router, rt⟩
            ([0, 3000].map readAt)).runtime).2 = .ok (some unixMs) ∧
        unixMs.toNat = 1000000 + 3000 := by
  obtain ⟨rt, handled, hstarted, hon, hstart, hfollows⟩ := startedByLeader_follows
  refine ⟨rt, handled, hstarted, fun router => ?_⟩
  have hinstants : ∀ input ∈ ([0, 3000].map readAt), input.now.ms = 0 ∨ input.now.ms = 3000 := by
    simp [readAt, MonotonicTime.ofMs]
  exact (@reading_undisturbed_iff hostBuild defaultSchema defaultTimeSync {} (some {})
    leaderAnnounce handled 0 3000 1000000 (.new hostBuild (some {})) ⟨router, rt⟩ _ hstarted rfl hon
    hstart hfollows (readAt_between (by decide))).mpr
      ⟨by decide, .inr ⟨by decide, .inr hinstants⟩⟩

/-- A reading leaves the rest of the router alone. -/
theorem after_readAt (router : RouterState defaultSchema) (rt : TimeSyncRuntime)
    (instants : List UInt64) :
    TimeSyncRouter.after hostBuild defaultTimeSync (some {}) ⟨router, rt⟩ (instants.map readAt) =
      ⟨router, instants.foldl (fun rt ms =>
        (TimeSyncRuntime.networkTime hostBuild (.ofMs ms) rt).1) rt⟩ := by
  induction instants generalizing rt with
  | nil => rfl
  | cons ms rest ih =>
    have hread : (TimeSyncRouter.perform hostBuild defaultTimeSync (some {}) ⟨router, rt⟩
        (readAt ms)).1 = ⟨router, (TimeSyncRuntime.networkTime hostBuild (.ofMs ms) rt).1⟩ :=
      Program.fst_bind_pure _ _ _
    rw [List.map_cons, TimeSyncRouter.after, List.foldl_cons, hread]
    exact ih _

/-- Read at one, two and three seconds, it is a tenth of a second behind. -/
theorem reading_disturbed :
    ∃ rt handled, startedByLeader = (rt, .ok handled) ∧
      rt.disciplinedClock.initialized = true ∧
      rt.disciplinedClock.readUnixMs (MonotonicTime.ofMs 0).ns = some 1000000 ∧
      rt.FollowsUntil "leader" 0 3000 ∧
      TimeSyncRouter.Between (S := defaultSchema) 0 3000 ([1000, 2000].map readAt) ∧
      ∀ router : RouterState defaultSchema,
        (TimeSyncRuntime.networkTimeMs hostBuild (.ofMs 3000)
          (TimeSyncRouter.after hostBuild defaultTimeSync (some {}) ⟨router, rt⟩
            ([1000, 2000].map readAt)).runtime).2 = .ok (some 1002900) := by
  obtain ⟨rt, handled, hstarted, hon, hstart, hfollows⟩ := startedByLeader_follows
  refine ⟨rt, handled, hstarted, hon, hstart, hfollows, readAt_between (by decide),
    fun router => ?_⟩
  have hread : (TimeSyncRuntime.networkTimeMs hostBuild (.ofMs 3000)
      ([1000, 2000].foldl (fun rt ms => (TimeSyncRuntime.networkTime hostBuild (.ofMs ms) rt).1)
        startedByLeader.1)).2 = .ok (some 1002900) := by
    decide +kernel
  rw [hstarted] at hread
  rw [after_readAt]
  exact hread

end Sedsprintf
