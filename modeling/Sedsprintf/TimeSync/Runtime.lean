import Sedsprintf.TimeSync.Tracker
import Sedsprintf.Lib.Program

/-!
# The time-sync runtime

src/router.rs:1075-1123, 1755-1783, 3010-3035, 3313-3370 and the locked parts of 3410-3611:
what a router keeps for time sync, and what reading the clock, polling and receiving do to it.
The configuration of the router and the one the runtime works with are two values.
-/
namespace Sedsprintf

open Lib

structure PendingTimeSyncRequest where
  seq : UInt64
  t1MonoMs : UInt64
  source : String
  deriving DecidableEq, Repr

structure RemoteTimeSyncSource where
  priority : UInt64
  lastSampleMonoMs : UInt64
  sampleUnixMs : UInt64
  deriving DecidableEq, Repr

structure TimeSyncRuntime where
  cfg : Option TimeSyncConfig
  tracker : Option TimeSyncTracker
  clock : NetworkClock
  disciplinedClock : SlewedNetworkClock
  remoteSources : OrdMap String RemoteTimeSyncSource
  nextSeq : UInt64
  nextAnnounceMonoMs : UInt64
  nextRequestMonoMs : UInt64
  pendingRequest : Option PendingTimeSyncRequest

/-- One reading of the monotonic clock. -/
structure MonotonicTime where
  ms : UInt64
  ns : UInt64
  deriving DecidableEq, Repr

/-- `Clock::now_ns` as the trait derives it from `now_ms`. -/
def MonotonicTime.ofMs (ms : UInt64) : MonotonicTime where
  ms := ms
  ns := if ms.toNat * 1000000 < 2 ^ 64 then ms * 1000000 else 0xFFFFFFFFFFFFFFFF

abbrev TimeSyncProgram := Program TimeSyncRuntime Stop

namespace TimeSyncRuntime
variable (B : Build) (now : MonotonicTime)

def slewPpm (cfg : Option TimeSyncConfig) : Nat :=
  (cfg.map fun c => c.maxSlewPpm).getD ({} : TimeSyncConfig).maxSlewPpm

def new (cfg : Option TimeSyncConfig) : TimeSyncRuntime where
  cfg := cfg
  tracker := cfg.map (TimeSyncTracker.new B.deviceIdentifier)
  clock := {}
  disciplinedClock := .new (slewPpm cfg)
  remoteSources := ∅
  nextSeq := 1
  nextAnnounceMonoMs := 0
  nextRequestMonoMs := 0
  pendingRequest := none

/-- `set_timesync_config`. -/
def setTimesyncConfig (rt : TimeSyncRuntime) (cfg : Option TimeSyncConfig) : TimeSyncRuntime where
  cfg := cfg
  tracker := cfg.map (TimeSyncTracker.new B.deviceIdentifier)
  clock := (["__timesync_remote__"] ++ rt.remoteSources.keys ++
    ["__timesync_local_full__", "__timesync_local_date__", "__timesync_local_tod__",
      "__timesync_local_subsec__"]).foldl NetworkClock.removeSource rt.clock
  disciplinedClock := .new (slewPpm cfg)
  remoteSources := ∅
  nextSeq := 1
  nextAnnounceMonoMs := 0
  nextRequestMonoMs := 0
  pendingRequest := none

/-- `timesync_has_usable_time_locked`. -/
def hasUsableTime (rt : TimeSyncRuntime) : Outcome Bool :=
  if (rt.disciplinedClock.readUnixMs now.ns).isSome then .ok true
  else do
    let reading ← rt.clock.currentTime B now.ns
    .ok (reading.bind fun reading => reading.unixTimeMs).isSome

/-- What every entry point drops first. -/
def expire (rt : TimeSyncRuntime) : TimeSyncRuntime :=
  let timeout := (rt.cfg.map fun cfg => cfg.sourceTimeoutMs).getD 0
  { rt with
    clock := rt.clock.pruneExpired now.ms
    remoteSources := rt.remoteSources.filter fun _ src =>
      saturatingSub now.ms src.lastSampleMonoMs ≤ timeout }

def refreshTracker (rt : TimeSyncRuntime) : TimeSyncRuntime :=
  { rt with tracker := rt.tracker.map fun tracker => tracker.refresh now.ms }

def leader (rt : TimeSyncRuntime) (hasUsableTime : Bool) : Option TimeSyncLeader :=
  rt.tracker.bind fun tracker => tracker.leader now.ms hasUsableTime

/-- The sender of a remote leader. -/
def remoteName : Option TimeSyncLeader → Option String
  | some (.remote source) => some source.sender
  | _ => none

/-- `reconcile_pending_timesync_request_locked`. -/
def reconcilePendingRequest (leader : Option TimeSyncLeader) (rt : TimeSyncRuntime) :
    TimeSyncRuntime :=
  if rt.pendingRequest.any fun pending => some pending.source != remoteName leader then
    { rt with pendingRequest := none, nextRequestMonoMs := now.ms }
  else rt

def steerTo (targetMs : UInt64) (rt : TimeSyncRuntime) : TimeSyncRuntime :=
  { rt with disciplinedClock := rt.disciplinedClock.steerUnixMs now.ns targetMs }

/-- The clock is steered to the last sample of a remote leader, however old that is. -/
def steerToLeader (leader : Option TimeSyncLeader) (rt : TimeSyncRuntime) : TimeSyncRuntime :=
  match (remoteName leader).bind fun sender => rt.remoteSources[sender]? with
  | none => rt
  | some sample => rt.steerTo now sample.sampleUnixMs

/-- The part that `refresh_timesync_state` and `poll_timesync` share, with the leader. -/
def follow (usable : Bool) (rt : TimeSyncRuntime) : TimeSyncRuntime :=
  let rt := rt.refreshTracker now
  let leader := rt.leader now usable
  (rt.reconcilePendingRequest now leader).steerToLeader now leader

/-- `refresh_timesync_state`. -/
def refreshTimesyncState : TimeSyncProgram Unit := do
  Program.modify (expire now)
  let rt ← Program.read
  let usable ← Program.of (rt.hasUsableTime B now)
  Program.modify (follow now usable)

/-- The reading of a refreshed runtime. -/
def reading (rt : TimeSyncRuntime) : Outcome (Option NetworkTimeReading) :=
  match rt.disciplinedClock.readUnixMs now.ns with
  | some unixMs => (PartialNetworkTime.fromUnixMs B unixMs).map fun time => some ⟨time, some unixMs⟩
  | none => rt.clock.currentTime B now.ns

def networkTime : TimeSyncProgram (Option NetworkTimeReading) := do
  refreshTimesyncState B now
  let rt ← Program.read
  Program.of (rt.reading B now)

def networkTimeMs : TimeSyncProgram (Option UInt64) := do
  let reading ← networkTime B now
  pure (reading.bind fun reading => reading.unixTimeMs)

def packetTimestampMs : TimeSyncProgram UInt64 := do
  let unixMs ← networkTimeMs B now
  pure (unixMs.getD now.ms)

/-- What `poll_timesync` found due under the lock. -/
structure Due where
  announce : Option UInt64
  request : Option (UInt64 × UInt64)
  deriving DecidableEq, Repr

/-- The announcement, if its time has come. -/
def takeAnnounce (cfg : TimeSyncConfig) (usable : Bool) : TimeSyncProgram (Option UInt64) := do
  let rt ← Program.read
  match rt.tracker.bind fun tracker => tracker.localAnnouncePriority now.ms usable with
  | none => pure none
  | some priority =>
    if rt.nextAnnounceMonoMs ≤ now.ms then do
      Program.modify fun rt => { rt with
        nextAnnounceMonoMs := saturatingAdd now.ms cfg.announceIntervalMs }
      pure (some priority)
    else pure none

/-- The request to a remote leader, if its time has come and none is pending. -/
def takeRequest (cfg : TimeSyncConfig) (usable : Bool) :
    TimeSyncProgram (Option (UInt64 × UInt64)) := do
  let rt ← Program.read
  match remoteName (rt.leader now usable) with
  | none => pure none
  | some source =>
    if rt.nextRequestMonoMs ≤ now.ms ∧ rt.pendingRequest = none then do
      let seq := rt.nextSeq
      Program.modify fun rt => { rt with
        nextSeq := if seq + 1 = 0 then 1 else seq + 1
        nextRequestMonoMs := saturatingAdd now.ms cfg.requestIntervalMs
        pendingRequest := some ⟨seq, now.ms, source⟩ }
      pure (some (seq, now.ms))
    else pure none

/-- `poll_timesync` under the lock; without a configuration nothing is due. -/
def pollLocked : TimeSyncProgram (Option Due) := do
  Program.modify (expire now)
  let rt ← Program.read
  match rt.cfg with
  | none => pure none
  | some cfg => do
    let usable ← Program.of (rt.hasUsableTime B now)
    Program.modify (follow now usable)
    let announce ← takeAnnounce now cfg usable
    let request ← takeRequest now cfg usable
    pure (some ⟨announce, request⟩)

section Packets
variable {S : Schema} (t : TimeSyncTypes S.DataType) (sender : String)

/-- The announcement `poll_timesync` queues. -/
def announcePacket (priority : UInt64) : TimeSyncProgram (Packet S) := do
  let time ← packetTimestampMs B now
  Program.of (logRaw B sender t.announce [priority, time] time)

/-- The packet of `queue_internal_timesync_request`. -/
def requestPacket (request : UInt64 × UInt64) : TimeSyncProgram (Packet S) := do
  let time ← packetTimestampMs B now
  Program.of (logRaw B sender t.request [request.1, request.2] time)

/-- A poll up to its announcement. -/
def pollAnnounce : TimeSyncProgram (Option (Packet S)) := do
  let due ← pollLocked B now
  match due.bind fun due => due.announce with
  | none => pure none
  | some priority => do
    let pkt ← announcePacket B now t sender priority
    pure (some pkt)

/-- The packet of `queue_internal_timesync_response`; received and answered at once. -/
def responsePacket (request : TimeSyncRequestFields) (time : UInt64) :
    TimeSyncProgram (Packet S) := do
  let timestamp ← packetTimestampMs B now
  Program.of (Packet.new B t.response (S.getMessageMeta t.announce).endpoints sender timestamp
    (encodeU64Words [request.seq, request.t1Ms, time, time]))

/-- What `handle_internal_timesync_packet` decides under the lock. -/
inductive Handled where
  /-- The runtime has no tracker: the packet ends here. -/
  | dropped
  /-- The packet goes on; a response to a request `⟨seq, t1⟩` at that network time may be
  due, or a poll. -/
  | goesOn (response : Option (TimeSyncRequestFields × UInt64)) (poll : Bool)

/-- The network time a request is answered with. -/
def serveTime (rt : TimeSyncRuntime) : Outcome UInt64 :=
  match rt.disciplinedClock.readUnixMs now.ns with
  | some unixMs => .ok unixMs
  | none => do
    let reading ← rt.clock.currentTime B now.ns
    .ok ((reading.bind fun reading => reading.unixTimeMs).getD now.ms)

/-- The sample a source is followed by. -/
def keepSample (source : String) (priority sampleMs : UInt64) (rt : TimeSyncRuntime) :
    TimeSyncRuntime :=
  { rt with remoteSources := rt.remoteSources.insert source ⟨priority, now.ms, sampleMs⟩ }

/-- The same as a source of the clock, for as long as `cfg` allows. -/
def keepSource (cfg : TimeSyncConfig) (source : String) (priority : UInt64)
    (time : PartialNetworkTime) (rt : TimeSyncRuntime) : TimeSyncRuntime :=
  let state : NetworkTimeSourceState :=
    ⟨priority, now.ms, now.ns, some cfg.sourceTimeoutMs, time⟩
  { rt with clock := rt.clock.updateSource source state }

/-- A sample of a source, in the two places it is kept. -/
def noteSample (cfg : TimeSyncConfig) (source : String) (priority sampleMs : UInt64) :
    TimeSyncProgram Unit := do
  Program.modify (keepSample now source priority sampleMs)
  let time ← Program.of (PartialNetworkTime.fromUnixMs B sampleMs)
  Program.modify (keepSource now cfg source priority time)

def steer (targetMs : UInt64) : TimeSyncProgram Unit := Program.modify (steerTo now targetMs)

def withTracker (tracker : TimeSyncTracker) (rt : TimeSyncRuntime) : TimeSyncRuntime :=
  { rt with tracker := some tracker }

def answered (rt : TimeSyncRuntime) : TimeSyncRuntime := { rt with pendingRequest := none }

/-- The clock follows an announcement of the leader's only. -/
def steerIfLeading (leading : Option String) (sender : String) (targetMs : UInt64) :
    TimeSyncProgram Unit :=
  if leading = some sender then steer now targetMs else pure ()

/-- An announcement; `cfg` is the configuration of the router. -/
def handleAnnounce (cfg : TimeSyncConfig) (tracker : TimeSyncTracker) (usable : Bool)
    (pkt : Packet S) : TimeSyncProgram Handled := do
  let ann ← Program.of (decodeTimesyncAnnounce B t pkt)
  let tracker := tracker.noteAnnounce pkt.sender ann now.ms
  Program.modify (withTracker tracker)
  noteSample B now cfg pkt.sender ann.priority ann.timeMs
  steerIfLeading now (remoteName (tracker.leader now.ms usable)) pkt.sender ann.timeMs
  pure (.goesOn none true)

def handleRequest (tracker : TimeSyncTracker) (usable : Bool) (pkt : Packet S) :
    TimeSyncProgram Handled := do
  if tracker.shouldServe now.ms usable then do
    let request ← Program.of (decodeTimesyncRequest B t pkt)
    let rt ← Program.read
    let time ← Program.of (rt.serveTime B now)
    pure (.goesOn (some (request, time)) false)
  else pure (.goesOn none false)

/-- The priority a response is kept with. -/
def responsePriority (rt : TimeSyncRuntime) (cfg : TimeSyncConfig) (tracker : TimeSyncTracker)
    (sender : String) : UInt64 :=
  ((tracker.bestActiveSource now.ms).map fun src => src.priority).getD
    ((rt.remoteSources[sender]?.map fun src => src.priority).getD cfg.priority)

/-- A response to the pending request, with the estimate it leads to. -/
def takeSample (cfg : TimeSyncConfig) (tracker : TimeSyncTracker) (source : String)
    (estimate : UInt64) : TimeSyncProgram Handled := do
  let rt ← Program.read
  noteSample B now cfg source (rt.responsePriority now cfg tracker source) estimate
  steer now estimate
  Program.modify answered
  pure (.goesOn none false)

def handleResponse (cfg : TimeSyncConfig) (tracker : TimeSyncTracker) (pkt : Packet S) :
    TimeSyncProgram Handled := do
  let response ← Program.of (decodeTimesyncResponse B t pkt)
  let rt ← Program.read
  match rt.pendingRequest.filter fun pending =>
      pending.seq == response.seq && pending.source == pkt.sender with
  | none => pure (.goesOn none false)
  | some pending =>
    takeSample B now cfg tracker pkt.sender
      (computeNetworkTimeSample pending.t1MonoMs response.t2Ms response.t3Ms now.ms)

/-- `handle_internal_timesync_packet` under the lock. -/
def handleLocked (cfg : TimeSyncConfig) (pkt : Packet S) : TimeSyncProgram Handled := do
  Program.modify (expire now)
  let rt ← Program.read
  let usable ← Program.of (rt.hasUsableTime B now)
  match rt.tracker with
  | none => pure .dropped
  | some tracker =>
    if pkt.ty = t.announce then handleAnnounce B now t cfg tracker usable pkt
    else if pkt.ty = t.request then handleRequest B now t tracker usable pkt
    else if pkt.ty = t.response then handleResponse B now t cfg tracker pkt
    else pure (.goesOn none false)

end Packets
end TimeSyncRuntime
end Sedsprintf
