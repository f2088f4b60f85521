import Sedsprintf.TimeSync.Election
import Sedsprintf.TimeSync.Runtime

/-!
# Routers that exchange announcements

The time-sync runtimes of any number of routers. A router announces when a poll finds that
due; what was announced any other may receive, in any order, and packets that announce nothing
at any time. Each router is of a build of its own, whose device identifier its tracker takes
for its name.
-/
namespace Sedsprintf

open Lib

structure TimeSyncNodes (ι : Type) where
  builds : ι → Build
  senders : ι → String
  cfgs : ι → TimeSyncConfig

/-- `TimeSyncTracker::new` takes the device identifier for the local id. -/
def TimeSyncNodes.electorate {ι : Type} (nodes : TimeSyncNodes ι) : Electorate ι :=
  ⟨nodes.senders, fun i => (nodes.builds i).deviceIdentifier, nodes.cfgs⟩

structure TimeSyncNetwork (ι : Type) (S : Schema) where
  runtimes : ι → TimeSyncRuntime
  sent : List (Packet S)

inductive TimeSyncNetworkAction (ι : Type) (S : Schema) where
  | poll (node : ι) (now : MonotonicTime)
  | receive (node : ι) (pkt : Packet S) (now : MonotonicTime)
  | read (node : ι) (now : MonotonicTime)

namespace TimeSyncNetwork
variable {ι : Type} [DecidableEq ι] {S : Schema}

def initial (nodes : TimeSyncNodes ι) : TimeSyncNetwork ι S :=
  ⟨fun i => .new (nodes.builds i) (some (nodes.cfgs i)), []⟩

/-- A node after a call, with what the call announced. -/
def update (n : TimeSyncNetwork ι S) (node : ι) (rt : TimeSyncRuntime)
    (announced : Option (Packet S)) : TimeSyncNetwork ι S :=
  ⟨Function.update n.runtimes node rt, announced.toList ++ n.sent⟩

def step (t : TimeSyncTypes S.DataType) (nodes : TimeSyncNodes ι) (n : TimeSyncNetwork ι S) :
    TimeSyncNetworkAction ι S → Option (TimeSyncNetwork ι S)
  | .poll node now =>
    let r := TimeSyncRuntime.pollAnnounce (nodes.builds node) now t (nodes.senders node)
      (n.runtimes node)
    some (n.update node r.1 r.2.toOption.join)
  | .receive node pkt now =>
    if pkt.ty ≠ t.announce ∨ pkt ∈ n.sent ∧ pkt.sender ≠ nodes.senders node then
      let r := TimeSyncRuntime.handleLocked (nodes.builds node) now t (nodes.cfgs node) pkt
        (n.runtimes node)
      some (n.update node r.1 none)
    else none
  | .read node now =>
    let r := TimeSyncRuntime.networkTime (nodes.builds node) now (n.runtimes node)
    some (n.update node r.1 none)

end TimeSyncNetwork

namespace TimeSyncRuntime
variable {ι : Type} {S : Schema} {el : Electorate ι} {i : ι}

/-- A runtime whose tracker is one of the node's. -/
def Tracks (el : Electorate ι) (i : ι) (rt : TimeSyncRuntime) : Prop :=
  ∃ tracker, rt.tracker = some tracker ∧ Election.Sound el i tracker

variable {B : Build} {now : MonotonicTime}

theorem Tracks.follow {rt : TimeSyncRuntime} (h : rt.Tracks el i) (usable : Bool) :
    (rt.follow now usable).Tracks el i := by
  obtain ⟨tracker, htracker, hsound⟩ := h
  refine ⟨tracker.refresh now.ms, ?_, hsound.refresh now.ms⟩
  have hkept : ∀ (leader : Option TimeSyncLeader) (rt : TimeSyncRuntime),
      ((rt.reconcilePendingRequest now leader).steerToLeader now leader).tracker = rt.tracker := by
    intro leader rt
    have hreconciled : (rt.reconcilePendingRequest now leader).tracker = rt.tracker := by
      unfold reconcilePendingRequest
      split
      · rfl
      · rfl
    unfold steerToLeader
    split
    · exact hreconciled
    · exact hreconciled
  rw [TimeSyncRuntime.follow, hkept, refreshTracker, htracker]
  rfl

theorem refreshTimesyncState_tracks :
    Program.Keeps (Tracks el i) (refreshTimesyncState B now) := by
  have hexpire : Program.Keeps (Tracks el i) (Program.modify (expire now) : TimeSyncProgram Unit) :=
    fun _ h => h
  refine hexpire.bind fun _ => Program.Keeps.read.bind fun _ => ?_
  refine (Program.Keeps.of _).bind fun usable => ?_
  exact fun _ h => Tracks.follow h usable

theorem networkTime_tracks : Program.Keeps (Tracks el i) (networkTime B now) :=
  refreshTimesyncState_tracks.bind fun _ => Program.Keeps.read.bind fun _ => .of _

theorem packetTimestampMs_tracks : Program.Keeps (Tracks el i) (packetTimestampMs B now) :=
  (networkTime_tracks.bind fun _ => .pure _).bind fun _ => .pure _

section Polling
variable (hrole : ∀ i, (el.cfgs i).role = .source)
include hrole

/-- What is due to be announced is within the node's means. -/
theorem takeAnnounce_tracks (cfg : TimeSyncConfig) (usable : Bool) :
    Program.Triple (Tracks el i) (takeAnnounce now cfg usable)
      (fun announce rt => rt.Tracks el i ∧ ∀ priority, announce = some priority →
        el.MayAnnounce i priority) (Tracks el i) := by
  intro rt h
  obtain ⟨tracker, htracker, hsound⟩ := h
  rw [takeAnnounce, Program.read_bind_apply, htracker, Option.bind_some]
  cases hann : tracker.localAnnouncePriority now.ms usable with
  | none =>
    refine ⟨fun announce hok => ⟨⟨tracker, htracker, hsound⟩, fun priority heq => ?_⟩, fun _ _ =>
      ⟨tracker, htracker, hsound⟩⟩
    obtain rfl := Except.ok.inj hok
    cases heq
  | some priority =>
    by_cases hdue : rt.nextAnnounceMonoMs ≤ now.ms
    · simp only [if_pos hdue, Program.modify_bind_apply, Program.pure_apply]
      refine ⟨fun announce hok => ⟨⟨tracker, htracker, hsound⟩, fun x heq => ?_⟩, fun _ _ =>
        ⟨tracker, htracker, hsound⟩⟩
      obtain rfl := Except.ok.inj hok
      obtain rfl := Option.some.inj heq
      exact hsound.mayAnnounce (hrole i) hann
    · simp only [if_neg hdue, Program.pure_apply]
      refine ⟨fun announce hok => ⟨⟨tracker, htracker, hsound⟩, fun x heq => ?_⟩, fun _ _ =>
        ⟨tracker, htracker, hsound⟩⟩
      obtain rfl := Except.ok.inj hok
      cases heq

omit hrole in
theorem takeRequest_tracks (cfg : TimeSyncConfig) (usable : Bool) :
    Program.Keeps (Tracks el i) (takeRequest now cfg usable) := by
  refine Program.Keeps.read.bind fun rt => ?_
  split
  · exact .pure _
  · refine .ite (Program.Keeps.bind ?_ fun _ => .pure _) (.pure _)
    exact fun _ h => h

theorem pollLocked_tracks : Program.Triple (Tracks el i) (pollLocked B now)
    (fun due rt => rt.Tracks el i ∧ ∀ priority, (due.bind fun due => due.announce) = some priority →
      el.MayAnnounce i priority) (Tracks el i) := by
  have hexpire : Program.Keeps (Tracks el i) (Program.modify (expire now) : TimeSyncProgram Unit) :=
    fun _ h => h
  refine hexpire.triple.bind fun _ => Program.Keeps.read.triple.bind fun rt => ?_
  cases rt.cfg with
  | none => exact .pure fun rt h => ⟨h, by simp⟩
  | some cfg =>
    have hfollow (usable : Bool) : Program.Keeps (Tracks el i)
        (Program.modify (follow now usable) : TimeSyncProgram Unit) :=
      fun _ h => Tracks.follow h usable
    refine (Program.Keeps.of _).triple.bind fun usable => (hfollow usable).triple.bind fun _ => ?_
    refine ((takeAnnounce_tracks hrole cfg usable).bind fun announce => ?_).imp
      (fun _ h => h) (fun _ _ h => h) fun _ h => h
    refine ((takeRequest_tracks cfg usable).and_const.triple_of_le fun _ h => h.1).bind
      fun request => ?_
    exact .pure fun rt h => h

variable {S : Schema} {t : TimeSyncTypes S.DataType}

omit hrole in
theorem announcePacket_tracks {priority : UInt64} (hmay : el.MayAnnounce i priority) :
    Program.Triple (Tracks el i) (announcePacket B now t (el.senders i) priority)
      (fun pkt rt => rt.Tracks el i ∧ Election.Announced t el pkt) (Tracks el i) := by
  refine packetTimestampMs_tracks.triple.bind fun time => ?_
  refine (Program.Triple.of_value _).imp (fun _ h => h) (fun pkt rt h => ?_) fun _ h => h
  exact ⟨h.1, Election.announced_of_logRaw hmay h.2⟩

/-- What a poll announces is within the node's means. -/
theorem pollAnnounce_tracks : Program.Triple (Tracks el i)
    (pollAnnounce B now t (el.senders i))
    (fun pkt rt => rt.Tracks el i ∧ ∀ announced, pkt = some announced →
      Election.Announced t el announced) (Tracks el i) := by
  refine (pollLocked_tracks hrole).bind fun due => ?_
  cases hpriority : due.bind fun due => due.announce with
  | none => exact .pure fun rt h => ⟨h.1, by simp⟩
  | some priority =>
    intro rt h
    have hpacket : Program.Triple (Tracks el i) (announcePacket B now t (el.senders i) priority)
        (fun pkt rt => rt.Tracks el i ∧ Election.Announced t el pkt) (Tracks el i) :=
      announcePacket_tracks (h.2 priority rfl)
    have hsome : Program.Triple (Tracks el i)
        (announcePacket B now t (el.senders i) priority >>= fun pkt => pure (some pkt))
        (fun pkt rt => rt.Tracks el i ∧ ∀ announced, pkt = some announced →
          Election.Announced t el announced) (Tracks el i) :=
      hpacket.bind fun pkt => .pure fun rt h =>
        ⟨h.1, fun announced heq => Option.some.inj heq ▸ h.2⟩
    exact hsome rt h.1

end Polling

section Receiving
variable {S : Schema} {t : TimeSyncTypes S.DataType}

theorem noteSample_tracks (cfg : TimeSyncConfig) (source : String) (priority sampleMs : UInt64) :
    Program.Keeps (Tracks el i) (noteSample B now cfg source priority sampleMs) := by
  refine Program.Keeps.bind ?_ fun _ => (Program.Keeps.of _).bind fun time => ?_
  · exact fun _ h => h
  · exact fun _ h => h

/-- An announcement of one of the nodes leaves the tracker one of the node's. -/
theorem handleAnnounce_tracks {cfg : TimeSyncConfig} {tracker : TimeSyncTracker} {usable : Bool}
    {pkt : Packet S} (hsound : Election.Sound el i tracker)
    (hannounced : Election.Announced t el pkt) (hother : pkt.sender ≠ el.senders i) :
    Program.Keeps (Tracks el i) (handleAnnounce B now t cfg tracker usable pkt) := by
  refine ((Program.Triple.of_value _).bind fun ann => ?_).keeps
  have hwith : Program.Triple
      (fun rt : TimeSyncRuntime => rt.Tracks el i ∧ decodeTimesyncAnnounce B t pkt = .ok ann)
      (Program.modify (withTracker (tracker.noteAnnounce pkt.sender ann now.ms)) :
        TimeSyncProgram Unit) (fun _ => Tracks el i) (Tracks el i) := by
    intro rt h
    have hnoted := hsound.noteAnnounce hannounced hother h.2 now.ms
    exact ⟨fun _ _ => ⟨_, rfl, hnoted⟩, fun _ _ => ⟨_, rfl, hnoted⟩⟩
  refine hwith.bind fun _ => ((noteSample_tracks _ _ _ _).bind fun _ => ?_).triple
  refine Program.Keeps.bind (.ite ?_ (.pure _)) fun _ => .pure _
  exact fun _ h => h

theorem handleRequest_tracks (tracker : TimeSyncTracker) (usable : Bool) (pkt : Packet S) :
    Program.Keeps (Tracks el i) (handleRequest B now t tracker usable pkt) := by
  refine .ite ?_ (.pure _)
  exact (Program.Keeps.of _).bind fun request => Program.Keeps.read.bind fun rt =>
    (Program.Keeps.of _).bind fun time => .pure _

theorem handleResponse_tracks (cfg : TimeSyncConfig) (tracker : TimeSyncTracker) (pkt : Packet S) :
    Program.Keeps (Tracks el i) (handleResponse B now t cfg tracker pkt) := by
  refine (Program.Keeps.of _).bind fun response => Program.Keeps.read.bind fun rt => ?_
  split
  · exact .pure _
  · refine Program.Keeps.read.bind fun rt => (noteSample_tracks _ _ _ _).bind fun _ => ?_
    refine Program.Keeps.bind ?_ fun _ => Program.Keeps.bind ?_ fun _ => .pure _
    · exact fun _ h => h
    · exact fun _ h => h

theorem handleLocked_tracks {cfg : TimeSyncConfig} {pkt : Packet S}
    (hpkt : pkt.ty = t.announce → Election.Announced t el pkt ∧ pkt.sender ≠ el.senders i) :
    Program.Keeps (Tracks el i) (handleLocked B now t cfg pkt) := by
  intro rt h
  have hexpired : (rt.expire now).Tracks el i := h
  obtain ⟨tracker, htracker, hsound⟩ := id hexpired
  rw [handleLocked, Program.modify_bind_apply, Program.read_bind_apply, htracker]
  refine (Program.Keeps.of _).bind (fun usable => ?_) _ hexpired
  dsimp only
  by_cases hann : pkt.ty = t.announce
  · obtain ⟨hannounced, hother⟩ := hpkt hann
    rw [if_pos hann]
    exact handleAnnounce_tracks hsound hannounced hother
  · rw [if_neg hann]
    refine .ite ?_ (.ite ?_ (.pure _))
    · exact handleRequest_tracks tracker usable pkt
    · exact handleResponse_tracks cfg tracker pkt

end Receiving
end TimeSyncRuntime

namespace TimeSyncNetwork
variable {ι : Type} [DecidableEq ι] {S : Schema} {t : TimeSyncTypes S.DataType}
  {nodes : TimeSyncNodes ι} {n n' : TimeSyncNetwork ι S}

/-- Every node tracks within the means of the others. -/
structure Inv (t : TimeSyncTypes S.DataType) (nodes : TimeSyncNodes ι) (n : TimeSyncNetwork ι S) :
    Prop where
  runtimes : ∀ i, (n.runtimes i).Tracks nodes.electorate i
  sent : ∀ pkt ∈ n.sent, Election.Announced t nodes.electorate pkt

omit [DecidableEq ι] in
theorem Inv.initial : Inv t nodes (TimeSyncNetwork.initial nodes) where
  runtimes i := by
    refine ⟨_, rfl, ⟨rfl, rfl, fun key src h => ?_⟩⟩
    simp [TimeSyncTracker.new] at h
  sent pkt h := by cases h

theorem Inv.update (h : Inv t nodes n) {i : ι} {rt : TimeSyncRuntime}
    {announced : Option (Packet S)} (hrt : rt.Tracks nodes.electorate i)
    (hannounced : ∀ pkt, announced = some pkt → Election.Announced t nodes.electorate pkt) :
    Inv t nodes (n.update i rt announced) where
  runtimes j := by
    rw [TimeSyncNetwork.update]
    by_cases heq : j = i
    · subst heq
      simpa using hrt
    · simpa [Function.update_of_ne heq] using h.runtimes j
  sent pkt hpkt := by
    rcases List.mem_append.mp hpkt with hnew | hold
    · exact hannounced pkt (Option.mem_toList.mp hnew)
    · exact h.sent pkt hold

theorem Inv.step (hrole : ∀ i, (nodes.cfgs i).role = .source) {a : TimeSyncNetworkAction ι S}
    (h : Inv t nodes n) (hstep : n.step t nodes a = some n') : Inv t nodes n' := by
  cases a with
  | poll node now =>
    obtain rfl := Option.some.inj hstep
    have hpoll := @TimeSyncRuntime.pollAnnounce_tracks ι nodes.electorate node (nodes.builds node)
      now hrole S t (n.runtimes node) (h.runtimes node)
    cases hrun : TimeSyncRuntime.pollAnnounce (nodes.builds node) now t (nodes.senders node)
        (n.runtimes node) with
    | mk rt result =>
      rw [show nodes.electorate.senders node = nodes.senders node from rfl, hrun] at hpoll
      cases result with
      | error e => exact h.update (hpoll.2 e rfl) fun pkt hpkt => by cases hpkt
      | ok announced => exact h.update (hpoll.1 announced rfl).1 (hpoll.1 announced rfl).2
  | receive node pkt now =>
    simp only [TimeSyncNetwork.step] at hstep
    split at hstep
    · rename_i hmem
      obtain rfl := Option.some.inj hstep
      refine h.update ?_ (by simp)
      have hpkt (hann : pkt.ty = t.announce) :=
        (hmem.resolve_left (absurd hann)).imp_left (h.sent pkt)
      exact TimeSyncRuntime.handleLocked_tracks hpkt _ (h.runtimes node)
    · cases hstep
  | read node now =>
    obtain rfl := Option.some.inj hstep
    exact h.update (TimeSyncRuntime.networkTime_tracks _ (h.runtimes node)) (by simp)

theorem Inv.run (hrole : ∀ i, (nodes.cfgs i).role = .source)
    {actions : List (TimeSyncNetworkAction ι S)}
    (hrun : Run (TimeSyncNetwork.step t nodes) anyStep (.initial nodes) actions n) :
    Inv t nodes n :=
  hrun.invariant (Inv t nodes) (fun hinv _ hstep => hinv.step hrole hstep) .initial

end TimeSyncNetwork
end Sedsprintf
