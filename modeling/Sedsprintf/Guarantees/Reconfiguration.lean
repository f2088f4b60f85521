import Sedsprintf.TimeSync.Refreshing
import Sedsprintf.Router.Calls

/-!
# Configuring time sync at run time

`set_timesync_config` replaces the configuration of the runtime. Received packets are handled
by the one the router was built with: without one they are relayed unread, and with one they
end at a runtime that was switched off.
-/
namespace Sedsprintf

open Lib

namespace TimeSyncRuntime
variable {B : Build}

/-- Nothing has been heard, asked or told. -/
structure Quiet (c : TimeSyncConfig) (rt : TimeSyncRuntime) : Prop where
  cfg : rt.cfg = some c
  tracker : ∃ tracker, rt.tracker = some tracker ∧ tracker.cfg = c ∧ tracker.sources = ∅
  clock : rt.clock.sources = ∅
  remote : rt.remoteSources = ∅
  stopped : rt.disciplinedClock.initialized = false
  pending : rt.pendingRequest = none

section Quiet
variable {c : TimeSyncConfig} {rt : TimeSyncRuntime} (h : rt.Quiet c) (now : MonotonicTime)
include h

theorem Quiet.expire : rt.expire now = rt := by
  have hclock : rt.clock.pruneExpired now.ms = rt.clock := by
    rw [NetworkClock.pruneExpired, h.clock, OrdMap.filter_empty, ← h.clock]
  rw [TimeSyncRuntime.expire, hclock, h.remote, OrdMap.filter_empty, ← h.remote]

theorem Quiet.hasUsableTime : rt.hasUsableTime B now = .ok false := by
  have hread : rt.disciplinedClock.readUnixMs now.ns = none := by
    rw [SlewedNetworkClock.readUnixMs, SlewedNetworkClock.readUnixNs, h.stopped]
    rfl
  have hcurrent : rt.clock.currentTime B now.ns = .ok none := by
    rw [NetworkClock.currentTime, h.clock]
    rfl
  rw [TimeSyncRuntime.hasUsableTime, hread, hcurrent]
  rfl

/-- A node that has heard of nobody leads where it is a source, and nobody does elsewhere. -/
theorem Quiet.leader : rt.leader now false =
    if c.role = .source then some (.local c.priority) else none := by
  obtain ⟨tracker, htracker, rfl, hsources⟩ := h.tracker
  have hbest : tracker.bestActiveSource now.ms = none := by
    rw [TimeSyncTracker.bestActiveSource_eq_none, TimeSyncTracker.activeSources, hsources]
    rfl
  rw [TimeSyncRuntime.leader, htracker, Option.bind_some, TimeSyncTracker.leader,
    TimeSyncTracker.localCandidatePriority, hbest]
  cases tracker.cfg.role with
  | source => rfl
  | consumer => rfl
  | auto => rfl

theorem Quiet.remoteName_leader : remoteName (rt.leader now false) = none := by
  rw [h.leader now]
  split
  · rfl
  · rfl

theorem Quiet.follow : (rt.follow now false).Quiet c := by
  obtain ⟨tracker, htracker, hcfg, hsources⟩ := h.tracker
  have hrefreshed : (rt.refreshTracker now).Quiet c := by
    refine ⟨h.cfg, ⟨tracker.refresh now.ms, ?_, hcfg, ?_⟩, h.clock, h.remote, h.stopped, h.pending⟩
    · rw [refreshTracker, htracker]
      rfl
    · rw [TimeSyncTracker.refresh, TimeSyncTracker.reselectSource, hsources]
      exact OrdMap.filter_empty _
  have hname := hrefreshed.remoteName_leader now
  have hkept : (rt.refreshTracker now).reconcilePendingRequest now
      ((rt.refreshTracker now).leader now false) = rt.refreshTracker now := by
    rw [reconcilePendingRequest, hrefreshed.pending]
    rfl
  rw [TimeSyncRuntime.follow, hkept, steerToLeader, hname]
  exact hrefreshed

end Quiet

/-- Readings and polls keep it quiet. -/
theorem Quiet.refreshes (c : TimeSyncConfig) (now : MonotonicTime) :
    Refreshes B now false (Quiet c) (Quiet c) where
  le _ h := h
  usable rt h := by
    rw [h.expire]
    exact h.hasUsableTime now
  follow rt h := by
    rw [h.expire]
    exact h.follow now
  announce rt due h := ⟨h.cfg, h.tracker, h.clock, h.remote, h.stopped, h.pending⟩
  request rt seq due pending h hremote := by
    rw [h.remoteName_leader now] at hremote
    cases hremote

theorem quiet_new (c : TimeSyncConfig) : (new B (some c)).Quiet c :=
  ⟨rfl, ⟨.new B.deviceIdentifier c, rfl, rfl, rfl⟩, rfl, rfl, rfl, rfl⟩

/-- A router built without time sync is configured as one built with it. -/
theorem setTimesyncConfig_new (c : TimeSyncConfig) :
    (new B none).setTimesyncConfig B (some c) = new B (some c) := by
  have hclock : ∀ names : List String,
      names.foldl NetworkClock.removeSource {} = ({} : NetworkClock) := by
    intro names
    induction names with
    | nil => rfl
    | cons name rest ih =>
      have hremoved : ({} : NetworkClock).removeSource name = {} :=
        congrArg NetworkClock.mk Std.ExtTreeMap.erase_empty
      rw [List.foldl_cons, hremoved, ih]
  rw [setTimesyncConfig]
  rw [show (new B none).clock = {} from rfl, hclock]
  rfl

section Handling
variable {S : Schema} {t : TimeSyncTypes S.DataType} {c : TimeSyncConfig} {rt : TimeSyncRuntime}

/-- A packet that tells a quiet runtime nothing: not an announcement, no request that it
would serve, and no response that cannot be read. -/
structure Uninformative (B : Build) (t : TimeSyncTypes S.DataType) (c : TimeSyncConfig)
    (pkt : Packet S) : Prop where
  announce : pkt.ty ≠ t.announce
  request : pkt.ty = t.request → c.role ≠ .source
  response : pkt.ty = t.response → ∃ fields, decodeTimesyncResponse B t pkt = .ok fields

theorem Quiet.handleLocked (h : rt.Quiet c) (now : MonotonicTime) {pkt : Packet S}
    (hpkt : Uninformative B t c pkt) :
    handleLocked B now t c pkt rt = (rt, .ok (.goesOn none false)) := by
  obtain ⟨tracker, htracker, hcfg, hsources⟩ := h.tracker
  rw [TimeSyncRuntime.handleLocked, Program.modify_bind_apply, Program.read_bind_apply, h.expire,
    h.hasUsableTime, Program.of_ok_bind_apply, htracker]
  dsimp only
  rw [if_neg hpkt.announce]
  by_cases hrequest : pkt.ty = t.request
  · have hleader := h.leader now
    rw [if_neg (hpkt.request hrequest), TimeSyncRuntime.leader, htracker, Option.bind_some]
      at hleader
    have hserves : tracker.shouldServe now.ms false = false := by
      rw [TimeSyncTracker.shouldServe, TimeSyncTracker.localAnnouncePriority, hleader]
      rfl
    rw [if_pos hrequest, handleRequest, hserves]
    rfl
  · rw [if_neg hrequest]
    by_cases hresponse : pkt.ty = t.response
    · obtain ⟨fields, hfields⟩ := hpkt.response hresponse
      rw [if_pos hresponse, handleResponse, hfields, Program.of_ok_bind_apply,
        Program.read_bind_apply, h.pending]
      rfl
    · rw [if_neg hresponse]
      rfl

end Handling
end TimeSyncRuntime

namespace TimeSyncRuntime
variable {B : Build}

/-- Without a configuration. -/
structure Off (rt : TimeSyncRuntime) : Prop where
  cfg : rt.cfg = none
  tracker : rt.tracker = none

theorem off_setTimesyncConfig (rt : TimeSyncRuntime) : (rt.setTimesyncConfig B none).Off := ⟨rfl, rfl⟩

section Off
variable {rt rt' : TimeSyncRuntime} {now : MonotonicTime}

theorem Off.expire (h : rt.Off) : (rt.expire now).Off := ⟨h.cfg, h.tracker⟩

theorem Off.follow (h : rt.Off) (usable : Bool) : (rt.follow now usable).Off := by
  have hrefreshed : rt.refreshTracker now = rt := by
    rw [refreshTracker, h.tracker, Option.map_none, ← h.tracker]
  have hleader : rt.leader now usable = none := by
    rw [TimeSyncRuntime.leader, h.tracker, Option.bind_none]
  rw [TimeSyncRuntime.follow, hrefreshed, hleader]
  unfold reconcilePendingRequest
  split
  · exact ⟨h.cfg, h.tracker⟩
  · exact h

section Agreement
variable {B : Build} (hsame : rt.expire now = rt'.expire now)
include hsame

/-- Readings and polls start with dropping what has expired. -/
theorem networkTime_agrees : networkTime B now rt = networkTime B now rt' := by
  have hrefresh : refreshTimesyncState B now rt = refreshTimesyncState B now rt' := by
    rw [refreshTimesyncState, Program.modify_bind_apply, Program.modify_bind_apply, hsame]
  exact Program.bind_apply_congr _ hrefresh

theorem packetTimestampMs_agrees : packetTimestampMs B now rt = packetTimestampMs B now rt' :=
  Program.bind_apply_congr _ (Program.bind_apply_congr _ (networkTime_agrees hsame))

end Agreement

/-- Nor do they switch time sync on. -/
theorem Off.networkTime (h : rt.Off) {B : Build} : (networkTime B now rt).1.Off := by
  have hrefresh : Program.Keeps Off (refreshTimesyncState B now) :=
    (Program.Keeps.modify fun rt h => h.expire).bind fun _ => Program.Keeps.read.bind
      fun _ => (Program.Keeps.of _).bind fun usable => Program.Keeps.modify fun rt h => h.follow usable
  exact (hrefresh.bind fun _ => Program.Keeps.read.bind fun _ => Program.Keeps.of _) rt h

theorem Off.packetTimestampMs (h : rt.Off) {B : Build} : (packetTimestampMs B now rt).1.Off := by
  have hread : Program.Keeps Off (TimeSyncRuntime.networkTime B now) := fun rt h => h.networkTime
  exact ((hread.bind fun _ => .pure _).bind fun _ => .pure _) rt h

/-- Without a configuration nothing is due. -/
theorem Off.pollLocked (h : rt.Off) {B : Build} :
    pollLocked B now rt = (rt.expire now, .ok none) := by
  have hcfg : (rt.expire now).cfg = none := h.cfg
  rw [TimeSyncRuntime.pollLocked, Program.modify_bind_apply, Program.read_bind_apply, hcfg]
  rfl

/-- Without a tracker a packet ends here. -/
theorem Off.handleLocked (h : rt.Off) {B : Build} {S : Schema} {t : TimeSyncTypes S.DataType}
    {cfg : TimeSyncConfig} {usable : Bool} (pkt : Packet S)
    (husable : (rt.expire now).hasUsableTime B now = .ok usable) :
    handleLocked B now t cfg pkt rt = (rt.expire now, .ok .dropped) := by
  have htracker : (rt.expire now).tracker = none := h.tracker
  rw [TimeSyncRuntime.handleLocked, Program.modify_bind_apply, Program.read_bind_apply, husable,
    Program.of_ok_bind_apply, htracker]
  rfl

end Off
end TimeSyncRuntime

namespace TimeSyncRouter
variable {S : Schema} {B : Build} {t : TimeSyncTypes S.DataType}

section Calls
variable {w : RouterWorld S} {now : MonotonicTime} {report : Packet S → RouterProgram S Unit}
  {s : TimeSyncRouter S}

/-- On a quiet runtime a packet that tells it nothing is relayed. -/
theorem handle_quiet {c : TimeSyncConfig} (h : s.runtime.Quiet c) {pkt : Packet S}
    (hpkt : TimeSyncRuntime.Uninformative B t c pkt) (src : Option Nat) (calledFromQueue : Bool) :
    handleInternalTimesyncPacket B t w now report (some c) pkt src calledFromQueue s =
      handleInternalTimesyncPacket B t w now report none pkt src calledFromQueue s := by
  have hlocked : onRuntime (TimeSyncRuntime.handleLocked B now t c pkt) s =
      (s, .ok (.goesOn none false)) := by
    rw [onRuntime, h.handleLocked now hpkt]
  exact Program.bind_apply_of_ok hlocked

/-- Without a configuration a packet that no side is for goes nowhere, whatever the router was
built with. -/
theorem handle_off (h : s.runtime.Off) {pkt : Packet S} {src : Option Nat} {usable : Bool}
    (husable : (s.runtime.expire now).hasUsableTime B now = .ok usable) (cfg : TimeSyncConfig)
    (calledFromQueue : Bool) :
    handleInternalTimesyncPacket B t w now report (some cfg) pkt src calledFromQueue s =
      ({ s with runtime := s.runtime.expire now }, .ok ()) := by
  have hlocked : onRuntime (TimeSyncRuntime.handleLocked B now t cfg pkt) s =
      ({ s with runtime := s.runtime.expire now }, .ok .dropped) := by
    rw [onRuntime, h.handleLocked pkt husable]
  exact Program.bind_apply_of_ok hlocked

theorem poll_off (h : s.runtime.Off) :
    pollTimesync B t w now s = ({ s with runtime := s.runtime.expire now }, .ok false) := by
  have hlocked : onRuntime (TimeSyncRuntime.pollLocked B now) s =
      ({ s with runtime := s.runtime.expire now }, .ok none) := by
    rw [onRuntime, h.pollLocked]
  exact Program.bind_apply_of_ok hlocked

theorem handle_unrouted {pkt : Packet S} {src : Option Nat}
    (hplan : RouterProgram.remoteSidePlan B w (.packet pkt) src s.router = (s.router, .ok []))
    (calledFromQueue : Bool) :
    handleInternalTimesyncPacket B t w now report none pkt src calledFromQueue s = (s, .ok ()) := by
  have hroute : RouterProgram.shouldRouteRemote B w (.packet pkt) src s.router =
      (s.router, .ok false) := Program.bind_apply_of_ok hplan
  have hrouted : RouterProgram.routed B w (.packet pkt) (.packet pkt) src s.router =
      (s.router, .ok none) := Program.bind_apply_of_ok hroute
  have hrelay : (RouterProgram.routed B w (.packet pkt) (.packet pkt) src >>=
      RouterProgram.relayBehind B w report src calledFromQueue) s.router = (s.router, .ok ()) :=
    Program.bind_apply_of_ok hrouted
  rw [handleInternalTimesyncPacket, relayPacket, onRouter, hrelay]

end Calls

section Runs
variable {built built' : Option TimeSyncConfig}

/-- Routers that answer alike as long as their states are related answer alike throughout. -/
theorem answers_eq_of_related {R : TimeSyncRouter S → TimeSyncRouter S → List (TimeSyncInput S) → Prop}
    (hstep : ∀ s s' input rest, R s s' (input :: rest) →
      (perform B t built s input).2 = (perform B t built' s' input).2 ∧
        R (perform B t built s input).1 (perform B t built' s' input).1 rest)
    {s s' : TimeSyncRouter S} {inputs : List (TimeSyncInput S)} (h : R s s' inputs) :
    answers B t built s inputs = answers B t built' s' inputs ∧
      R (after B t built s inputs) (after B t built' s' inputs) [] := by
  induction inputs generalizing s s' with
  | nil => exact ⟨rfl, h⟩
  | cons input rest ih =>
    obtain ⟨hanswer, hrest⟩ := hstep s s' input rest h
    obtain ⟨hanswers, hfinal⟩ := ih hrest
    exact ⟨congrArg₂ List.cons hanswer hanswers, hfinal⟩

/-- Received packets that tell a node so configured nothing, readings and polls. -/
def TellsNothing (B : Build) (t : TimeSyncTypes S.DataType) (c : TimeSyncConfig) :
    TimeSyncCall S → Prop
  | .handle pkt _ _ => TimeSyncRuntime.Uninformative B t c pkt
  | .setTimesyncConfig _ => False
  | _ => True

/-- One such call, on routers built without time sync and with it. -/
theorem perform_quiet {c : TimeSyncConfig} {s : TimeSyncRouter S} (h : s.runtime.Quiet c)
    {input : TimeSyncInput S} (hinput : TellsNothing B t c input.call) :
    perform B t none s input = perform B t (some c) s input ∧
      (perform B t none s input).1.runtime.Quiet c := by
  have hreading : Reading input.call → (perform B t none s input).1.runtime.Quiet c :=
    fun hcall => (call_triple (TimeSyncRuntime.Quiet.refreshes c input.now)
      (fun rt h => by rw [h.cfg]; rfl) none hcall).run h
  cases hcall : input.call with
  | networkTime => exact ⟨by rw [perform, perform, hcall]; rfl, hreading (by rw [hcall]; trivial)⟩
  | packetTimestamp =>
    exact ⟨by rw [perform, perform, hcall]; rfl, hreading (by rw [hcall]; trivial)⟩
  | pollTimesync => exact ⟨by rw [perform, perform, hcall]; rfl, hreading (by rw [hcall]; trivial)⟩
  | setTimesyncConfig cfg =>
    rw [hcall] at hinput
    exact hinput.elim
  | handle pkt src calledFromQueue =>
    rw [hcall] at hinput
    rw [perform, perform, hcall]
    refine ⟨Program.bind_congr_apply (handle_quiet h hinput src calledFromQueue).symm
      fun _ => rfl, ?_⟩
    exact ((onRouter_keeps _ (TimeSyncRuntime.Quiet c)).bind fun _ => .pure _) s h

/-- What a router without a configuration finds when it gets a packet: no side that the packet
is for, and a clock that can be read. -/
def GoesNowhere (B : Build) (s : TimeSyncRouter S) (input : TimeSyncInput S) : TimeSyncCall S → Prop
  | .handle pkt src _ =>
    RouterProgram.remoteSidePlan B input.world (.packet pkt) src s.router = (s.router, .ok []) ∧
      ∃ usable, (s.runtime.expire input.now).hasUsableTime B input.now = .ok usable
  | .setTimesyncConfig _ => False
  | _ => True

/-- Every packet of the run goes nowhere. -/
def AllGoNowhere (B : Build) (t : TimeSyncTypes S.DataType) :
    TimeSyncRouter S → List (TimeSyncInput S) → Prop
  | _, [] => True
  | s, input :: rest =>
    GoesNowhere B s input input.call ∧ AllGoNowhere B t (perform B t none s input).1 rest

/-- One router drops what another may still keep until it is read again. -/
structure SameBut (last : UInt64) (s s' : TimeSyncRouter S) : Prop where
  router : s.router = s'.router
  off : s.runtime.Off
  off' : s'.runtime.Off
  runtime : ∀ now : MonotonicTime, last.toNat ≤ now.ms.toNat →
    s.runtime.expire now = s'.runtime.expire now

theorem SameBut.refl {last : UInt64} {s : TimeSyncRouter S} (h : s.runtime.Off) : SameBut last s s :=
  ⟨rfl, h, h, fun _ _ => rfl⟩

/-- One call on routers without a configuration, built with one and without. -/
theorem SameBut.perform {c : TimeSyncConfig} {last : UInt64} {s s' : TimeSyncRouter S}
    (h : SameBut last s s') {input : TimeSyncInput S} (hlater : last.toNat ≤ input.now.ms.toNat)
    (hinput : GoesNowhere B s' input input.call) :
    (perform B t (some c) s input).2 = (perform B t none s' input).2 ∧
      SameBut input.now.ms (perform B t (some c) s input).1 (perform B t none s' input).1 := by
  obtain ⟨router, rt⟩ := s
  obtain ⟨router', rt'⟩ := s'
  obtain rfl : router = router' := h.router
  have hsame := h.runtime input.now hlater
  have hboth : ∀ {α : Type} {p : TimeSyncProgram α} {f : α → TimeSyncRouterProgram S TimeSyncAnswer},
      p rt = p rt' → (onRuntime p >>= f) ⟨router, rt⟩ = (onRuntime p >>= f) ⟨router, rt'⟩ :=
    fun hp => Program.bind_apply_congr _ (by rw [onRuntime, onRuntime, hp])
  cases hcall : input.call with
  | networkTime =>
    have heq : TimeSyncRouter.perform B t (some c) ⟨router, rt⟩ input =
        TimeSyncRouter.perform B t none ⟨router, rt'⟩ input := by
      rw [TimeSyncRouter.perform, TimeSyncRouter.perform, hcall]
      exact hboth (TimeSyncRuntime.networkTime_agrees hsame)
    rw [heq]
    refine ⟨rfl, .refl ?_⟩
    rw [TimeSyncRouter.perform, hcall]
    exact ((onRuntime_keeps fun rt h => h.networkTime).bind fun _ => .pure _) _ h.off'
  | packetTimestamp =>
    have heq : TimeSyncRouter.perform B t (some c) ⟨router, rt⟩ input =
        TimeSyncRouter.perform B t none ⟨router, rt'⟩ input := by
      rw [TimeSyncRouter.perform, TimeSyncRouter.perform, hcall]
      exact hboth (TimeSyncRuntime.packetTimestampMs_agrees hsame)
    rw [heq]
    refine ⟨rfl, .refl ?_⟩
    rw [TimeSyncRouter.perform, hcall]
    exact ((onRuntime_keeps fun rt h => h.packetTimestampMs).bind fun _ => .pure _) _ h.off'
  | pollTimesync =>
    have hpolled (built : Option TimeSyncConfig) (rt : TimeSyncRuntime) (hoff : rt.Off) :
        TimeSyncRouter.perform B t built ⟨router, rt⟩ input =
          (⟨router, rt.expire input.now⟩, .ok (.polled false)) := by
      rw [TimeSyncRouter.perform, hcall]
      exact Program.bind_apply_of_ok (poll_off hoff)
    rw [hpolled _ rt h.off, hpolled _ rt' h.off', hsame]
    exact ⟨rfl, .refl h.off'.expire⟩
  | setTimesyncConfig cfg =>
    rw [hcall] at hinput
    exact hinput.elim
  | handle pkt src calledFromQueue =>
    rw [hcall] at hinput
    obtain ⟨hplan, usable, husable⟩ := hinput
    rw [← hsame] at husable
    have hdropped : TimeSyncRouter.perform B t (some c) ⟨router, rt⟩ input =
        (⟨router, rt.expire input.now⟩, .ok .done) := by
      rw [TimeSyncRouter.perform, hcall]
      exact Program.bind_apply_of_ok (handle_off h.off husable c calledFromQueue)
    have hpassed : TimeSyncRouter.perform B t none ⟨router, rt'⟩ input =
        (⟨router, rt'⟩, .ok .done) := by
      rw [TimeSyncRouter.perform, hcall]
      exact Program.bind_apply_of_ok (handle_unrouted hplan calledFromQueue)
    rw [hdropped, hpassed]
    exact ⟨rfl, rfl, h.off.expire, h.off', fun now hnow =>
      (TimeSyncRuntime.expire_expire _ hnow).trans (h.runtime now (hlater.trans hnow))⟩

/-- Time does not go back, from `last` on. -/
def InOrder (last : UInt64) (inputs : List (TimeSyncInput S)) : Prop :=
  (last.toNat :: inputs.map fun input => input.now.ms.toNat).Pairwise (· ≤ ·)

end Runs
end TimeSyncRouter

/-- Configured at run time, a router answers and ends like one built so, as long as the packets
it gets tell it nothing; switched off, like one built without, as long as they go nowhere. -/
theorem runtime_configuration_equivalent {B : Build} {S : Schema} (t : TimeSyncTypes S.DataType)
    (c : TimeSyncConfig) (router : RouterState S) :
    (∀ inputs : List (TimeSyncInput S),
      (∀ input ∈ inputs, TimeSyncRouter.TellsNothing B t c input.call) →
      TimeSyncRouter.answers B t none
          ⟨router, (TimeSyncRuntime.new B none).setTimesyncConfig B (some c)⟩ inputs =
        TimeSyncRouter.answers B t (some c) ⟨router, .new B (some c)⟩ inputs ∧
      TimeSyncRouter.after B t none
          ⟨router, (TimeSyncRuntime.new B none).setTimesyncConfig B (some c)⟩ inputs =
        TimeSyncRouter.after B t (some c) ⟨router, .new B (some c)⟩ inputs) ∧
    ∀ (rt : TimeSyncRuntime) (inputs : List (TimeSyncInput S)),
      TimeSyncRouter.InOrder 0 inputs →
      TimeSyncRouter.AllGoNowhere B t ⟨router, rt.setTimesyncConfig B none⟩ inputs →
      TimeSyncRouter.answers B t (some c) ⟨router, rt.setTimesyncConfig B none⟩ inputs =
        TimeSyncRouter.answers B t none ⟨router, rt.setTimesyncConfig B none⟩ inputs ∧
      (TimeSyncRouter.after B t (some c) ⟨router, rt.setTimesyncConfig B none⟩ inputs).router =
        (TimeSyncRouter.after B t none ⟨router, rt.setTimesyncConfig B none⟩ inputs).router := by
  constructor
  · intro inputs hinputs
    rw [TimeSyncRuntime.setTimesyncConfig_new]
    obtain ⟨hanswers, hafter, -⟩ := @TimeSyncRouter.answers_eq_of_related S B t none (some c)
      (fun s s' inputs => s = s' ∧ s.runtime.Quiet c ∧
        ∀ input ∈ inputs, TimeSyncRouter.TellsNothing B t c input.call)
      (fun s s' input rest h => by
        obtain ⟨rfl, hquiet, hrest⟩ := h
        obtain ⟨hfirst, hrest⟩ := List.forall_mem_cons.mp hrest
        obtain ⟨heq, hquiet'⟩ := TimeSyncRouter.perform_quiet hquiet hfirst
        exact ⟨congrArg Prod.snd heq, congrArg Prod.fst heq, hquiet', hrest⟩)
      ⟨router, .new B (some c)⟩ ⟨router, .new B (some c)⟩ inputs
      ⟨rfl, TimeSyncRuntime.quiet_new c, hinputs⟩
    exact ⟨hanswers, hafter⟩
  · intro rt inputs horder hnowhere
    obtain ⟨hanswers, last, hsame, -⟩ := @TimeSyncRouter.answers_eq_of_related S B t (some c) none
      (fun s s' inputs => ∃ last : UInt64, TimeSyncRouter.SameBut last s s' ∧
        TimeSyncRouter.InOrder last inputs ∧ TimeSyncRouter.AllGoNowhere B t s' inputs)
      (fun s s' input rest h => by
        obtain ⟨last, hsame, horder, hfirst, hrest⟩ := h
        obtain ⟨hlater, horder'⟩ := List.pairwise_cons.mp horder
        obtain ⟨hanswer, hsame'⟩ := hsame.perform (t := t) (c := c) (hlater _ (by simp)) hfirst
        exact ⟨hanswer, input.now.ms, hsame', horder', hrest⟩)
      ⟨router, rt.setTimesyncConfig B none⟩ ⟨router, rt.setTimesyncConfig B none⟩ inputs
      ⟨0, .refl (TimeSyncRuntime.off_setTimesyncConfig rt), horder, hnowhere⟩
    exact ⟨hanswers, hsame.router⟩

/-- In a router without live sides a packet that is not answered by a route is for no side. -/
theorem RouterProgram.remoteSidePlan_of_no_side {B : Build} {S : Schema} {w : RouterWorld S}
    {router : RouterState S} {pkt : Packet S} {src : Option Nat}
    (hvalid : pkt.validate B = .ok ())
    (hcontrol : S.isDiscoveryType pkt.ty = false ∧ pkt.ty ≠ S.reliableAck)
    (hsides : ∀ side, router.inner.sideLive side = false) :
    remoteSidePlan B w (.packet pkt) src router = (router, .ok []) := by
  have hplan : router.inner.remoteSidePlan B w.routing router.table (.packet pkt) src =
      .ok (router.table, []) := by
    have hcarries : (RouterItem.packet pkt).Carries B pkt := ⟨rfl, hvalid⟩
    have hnone : ∀ source, (router.inner.planTargets w.routing router.table src
        (sortDedup pkt.endpoints) pkt.ty source).1 = [] := by
      intro source
      refine List.eq_nil_iff_forall_not_mem.mpr fun side hside => ?_
      have hlive := RouterInner.sideLive_of_routeAllowed
        ((RouterInner.planTargets_sound _ _ source).allowed side hside)
      rw [hsides side] at hlive
      cases hlive
    rw [RouterInner.remoteSidePlan_of_carries hcarries hcontrol.1 fun h => hcontrol.2 h.1]
    dsimp only
    rw [hnone]
    exact if_pos (Nat.zero_le 1)
  rw [remoteSidePlan, hplan]

/-- What a consumer receives from a leader, and asks of it. -/
def requestPacket : Packet defaultSchema where
  ty := 8
  dataSize := 16
  sender := "consumer"
  endpoints := [2]
  timestamp := 0
  payload := .inline 16 (encodeU64Words [1, 0])

/-- In a router of the name `fc`, a millisecond after it has started. -/
def atOne (call : TimeSyncCall defaultSchema) : TimeSyncInput defaultSchema :=
  ⟨.quiet (.bare "fc") 1 16, .ofMs 1, 1, call⟩

/-- A request that nobody here serves, a poll and a reading. -/
def idleInputs : List (TimeSyncInput defaultSchema) :=
  [.handle requestPacket none false, .pollTimesync, .networkTime].map atOne

theorem runtime_configuration_equivalent_idle :
    ∃ inner : RouterInner defaultSchema, RouterInner.new hostBuild = .ok inner ∧
      TimeSyncRouter.answers hostBuild defaultTimeSync none
          ⟨.initial inner, (TimeSyncRuntime.new hostBuild none).setTimesyncConfig hostBuild
            (some {})⟩ idleInputs =
        TimeSyncRouter.answers hostBuild defaultTimeSync (some {})
          ⟨.initial inner, .new hostBuild (some {})⟩ idleInputs ∧
      TimeSyncRouter.answers hostBuild defaultTimeSync (some {})
          ⟨.initial inner, (TimeSyncRuntime.new hostBuild (some {})).setTimesyncConfig hostBuild
            none⟩ idleInputs =
        TimeSyncRouter.answers hostBuild defaultTimeSync none
          ⟨.initial inner, (TimeSyncRuntime.new hostBuild (some {})).setTimesyncConfig hostBuild
            none⟩ idleInputs := by
  have hnew : ((RouterInner.new hostBuild : Outcome (RouterInner defaultSchema)).toOption.map
      fun inner => inner.sides.length) = some 0 := by decide +kernel
  obtain ⟨inner, hnew, hsides⟩ := Option.map_eq_some_iff.mp hnew
  have hsides : ∀ side, (RouterState.initial inner).inner.sideLive side = false := by
    intro side
    rw [RouterState.initial, RouterInner.sideLive, List.length_eq_zero_iff.mp hsides]
    rfl
  obtain ⟨hconfigured, hswitched⟩ := @runtime_configuration_equivalent hostBuild defaultSchema
    defaultTimeSync {} (.initial inner)
  have hplan := @RouterProgram.remoteSidePlan_of_no_side hostBuild defaultSchema
    (.quiet (.bare "fc") 1 16) (.initial inner) requestPacket none (by decide +kernel)
    (by decide) hsides
  refine ⟨inner, toOption_eq_some.mp hnew, (hconfigured idleInputs ?_).1,
    (hswitched _ idleInputs ?_ ?_).1⟩
  · intro input hinput
    obtain ⟨call, hcall, rfl⟩ := List.mem_map.mp hinput
    simp only [List.mem_cons, List.not_mem_nil, or_false] at hcall
    rcases hcall with rfl | rfl | rfl
    · exact ⟨by decide, by decide, fun h => absurd h (by decide)⟩
    · trivial
    · trivial
  · exact show List.Pairwise (· ≤ ·) _ by decide
  · have husable : ((((TimeSyncRuntime.new hostBuild (some {})).setTimesyncConfig hostBuild
        none).expire (.ofMs 1)).hasUsableTime hostBuild (.ofMs 1)).toOption = some false := by
      decide +kernel
    exact ⟨⟨hplan, false, toOption_eq_some.mp husable⟩, trivial, trivial, trivial⟩

/-- A leader's announcement, and what the clock shows then. -/
def announcedInputs : List (TimeSyncInput defaultSchema) :=
  [.handle (sourceAnnounce "leader" 100 1000000) none false, .networkTime].map atOne

/-- A router with two sides. -/
def withTwoSides (inner : RouterInner defaultSchema) : RouterState defaultSchema :=
  .initial { inner with sides := [some .reliable, some .reliable] }

/-- Configured at run time, the router shows no time behind the announcement; switched off, it
does not pass a request on. -/
theorem runtime_configuration_differs :
    ∃ inner : RouterInner defaultSchema, RouterInner.new hostBuild = .ok inner ∧
      TimeSyncRouter.answers hostBuild defaultTimeSync none
          ⟨.initial inner, (TimeSyncRuntime.new hostBuild none).setTimesyncConfig hostBuild
            (some {})⟩ announcedInputs ≠
        TimeSyncRouter.answers hostBuild defaultTimeSync (some {})
          ⟨.initial inner, .new hostBuild (some {})⟩ announcedInputs ∧
      (TimeSyncRouter.after hostBuild defaultTimeSync (some {})
          ⟨withTwoSides inner, (TimeSyncRuntime.new hostBuild (some {})).setTimesyncConfig hostBuild
            none⟩ ([.handle requestPacket (some 0) false].map atOne)).router ≠
        (TimeSyncRouter.after hostBuild defaultTimeSync none
          ⟨withTwoSides inner, (TimeSyncRuntime.new hostBuild (some {})).setTimesyncConfig hostBuild
            none⟩ ([.handle requestPacket (some 0) false].map atOne)).router := by
  have hshown : ((RouterInner.new hostBuild : Outcome (RouterInner defaultSchema)).toOption.map
      fun inner =>
        ((TimeSyncRouter.answers hostBuild defaultTimeSync none
          ⟨.initial inner, (TimeSyncRuntime.new hostBuild none).setTimesyncConfig hostBuild
            (some {})⟩ announcedInputs).map Except.toOption ==
        (TimeSyncRouter.answers hostBuild defaultTimeSync (some {})
          ⟨.initial inner, .new hostBuild (some {})⟩ announcedInputs).map Except.toOption,
        (TimeSyncRouter.after hostBuild defaultTimeSync (some {})
          ⟨withTwoSides inner, (TimeSyncRuntime.new hostBuild (some {})).setTimesyncConfig hostBuild
            none⟩ ([.handle requestPacket (some 0) false].map atOne)).router.events.length,
        (TimeSyncRouter.after hostBuild defaultTimeSync none
          ⟨withTwoSides inner, (TimeSyncRuntime.new hostBuild (some {})).setTimesyncConfig hostBuild
            none⟩ ([.handle requestPacket (some 0) false].map atOne)).router.events.length)) =
      some (false, 0, 2) := by
    decide +kernel
  obtain ⟨inner, hnew, hview⟩ := Option.map_eq_some_iff.mp hshown
  obtain ⟨hanswers, hview⟩ := Prod.mk.inj hview
  obtain ⟨hswitched, hwithout⟩ := Prod.mk.inj hview
  refine ⟨inner, toOption_eq_some.mp hnew, fun heq => ?_, fun heq => ?_⟩
  · rw [heq, beq_self_eq_true] at hanswers
    cases hanswers
  · rw [heq, hwithout] at hswitched
    cases hswitched

end Sedsprintf
