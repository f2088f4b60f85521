import Sedsprintf.TimeSync.Refreshing
import Sedsprintf.TimeSync.Steering

/-!
# Requests to a leader

src/router.rs:1766-1783 and 3368-3486 while a remote source leads: what a refresh keeps, when
`poll_timesync` asks, and the packet it asks with. A pending request ends where another source
leads, with its response, and where the configuration is set.
-/
namespace Sedsprintf

open Lib

section Packets
variable {S : Schema} {B : Build} {t : TimeSyncTypes S.DataType} {timeSync : S.DataEndpoint}

/-- The request type as every schema is generated with it. -/
def Schema.RequestsTime (S : Schema) (t : TimeSyncTypes S.DataType) (timeSync : S.DataEndpoint) :
    Prop :=
  S.getMessageMeta t.request = ⟨"TIME_SYNC_REQUEST", .static 2 .uint64 .data, [timeSync], .none, 255⟩

/-- What a request takes of the queue budget. -/
def requestCost (B : Build) (sender : String) : Nat :=
  B.packetSize + (asBytes sender).length + endpointSize +
    (if 16 ≤ B.maxStackPayload then 16 else B.smallPayloadSize + 16) + 1 + 1

@[simp] theorem length_encodeU64Words (words : List UInt64) :
    (encodeU64Words words).length = words.length * 8 := by
  induction words with
  | nil => rfl
  | cons word rest ih =>
    rw [encodeU64Words, List.flatMap_cons, List.length_append, ← encodeU64Words, ih, Lib.encodeLE_length,
      List.length_cons]
    omega

/-- Sixteen bytes are stored inline where the build allows as much. -/
theorem SmallPayload.exists_new_of_sixteen {bytes : List UInt8} (hlength : bytes.length = 16) :
    ∃ stored, SmallPayload.new B.maxStackPayload bytes = .ok stored ∧
      stored.byteCost B = if 16 ≤ B.maxStackPayload then 16 else B.smallPayloadSize + 16 := by
  unfold SmallPayload.new
  rw [hlength]
  split
  · exact ⟨_, rfl, rfl⟩
  · exact ⟨_, rfl, congrArg (B.smallPayloadSize + ·) hlength⟩

/-- The packet of a request is always built, and says what was asked. -/
theorem exists_request (hmeta : S.RequestsTime t timeSync) (sender : String)
    (request : UInt64 × UInt64) (time : UInt64) :
    ∃ pkt, logRaw B sender t.request [request.1, request.2] time = .ok pkt ∧
      pkt.ty = t.request ∧ pkt.sender = sender ∧
      (RouterItem.packet pkt).byteCost B B.arcSize + 1 + 1 = requestCost B sender ∧
      decodeTimesyncRequest B t pkt = .ok ⟨request.1, request.2⟩ := by
  have hlength : (encodeU64Words [request.1, request.2]).length = 16 := length_encodeU64Words _
  have hkind : S.getDataType t.request = .uint64 := by
    rw [Schema.getDataType, hmeta]
    rfl
  have hneeded : B.usizeMul 2 (dataTypeSize B .uint64) = .ok 16 := by
    rw [Build.usizeMul, dataTypeSize, if_pos]
    rcases B.usizeBits_eq with h | h <;> simp [Build.usizeModulus, h]
  have hchecked : checkElement B t.request (encodeU64Words [request.1, request.2]) = .ok () := by
    rw [checkElement, hmeta, hkind]
    dsimp only
    rw [hneeded, ok_bind, hlength]
    rfl
  have hlogged : checkLogSize B t.request [request.1, request.2] = .ok () := by
    rw [checkLogSize, hmeta]
    dsimp only
    rw [hneeded]
    rfl
  obtain ⟨stored, hstored, hcost⟩ := @SmallPayload.exists_new_of_sixteen B _ hlength
  have hslice := SmallPayload.asSlice_of_new hstored
  refine ⟨⟨t.request, 16, sender, [timeSync], time, stored⟩, ?_, rfl, rfl, ?_, ?_⟩
  · rw [logRaw, hlogged, ok_bind, hmeta]
    exact (Packet.new_eq_ok B).mpr ⟨List.cons_ne_nil _ _, hchecked, stored, hstored, rfl⟩
  · rw [RouterItem.byteCost, Packet.byteCost, hcost, List.length_singleton, Nat.one_mul, requestCost]
  · rw [decodeTimesyncRequest, decodeU64Payload, ensure_of rfl, ok_bind, Packet.dataAsU64]
    dsimp only
    rw [hkind, ensure_of rfl, ok_bind, hslice, hlength, ensure_of rfl, ok_bind,
      leWords64_encodeU64Words]
    rfl

end Packets

namespace TimeSyncRuntime

/-- Whether there is usable time depends on the two clocks, and steering does not unsettle it. -/
theorem hasUsableTime_steered {B : Build} {now : MonotonicTime} {rt rt' : TimeSyncRuntime}
    {usable : Bool} (hclock : rt'.clock = rt.clock)
    (hsteered : rt'.disciplinedClock = rt.disciplinedClock ∨
      ∃ targetMs, rt'.disciplinedClock = rt.disciplinedClock.steerUnixMs now.ns targetMs)
    (h : rt.hasUsableTime B now = .ok usable) : ∃ usable', rt'.hasUsableTime B now = .ok usable' := by
  unfold hasUsableTime at h ⊢
  by_cases hread : (rt'.disciplinedClock.readUnixMs now.ns).isSome = true
  · exact ⟨true, if_pos hread⟩
  · have hbefore : ¬(rt.disciplinedClock.readUnixMs now.ns).isSome = true := by
      intro hsome
      apply hread
      rcases hsteered with heq | ⟨targetMs, heq⟩
      · rw [heq]
        exact hsome
      · cases hns : rt.disciplinedClock.readUnixNs now.ns with
        | none =>
          rw [SlewedNetworkClock.readUnixMs, hns] at hsome
          cases hsome
        | some current =>
          rw [SlewedNetworkClock.readUnixMs, hns] at hsome
          rw [heq, SlewedNetworkClock.readUnixMs,
            SlewedNetworkClock.readUnixNs_steerUnixMs targetMs hns]
          exact hsome
    rw [if_neg hbefore] at h
    rw [if_neg hread, hclock]
    exact ⟨usable, h⟩

/-- At this instant nothing is left to drop, the clock can be read, and that source leads. -/
structure Following (B : Build) (now : MonotonicTime) (remote : TimeSyncSource)
    (rt : TimeSyncRuntime) : Prop where
  configured : rt.cfg.isSome = true
  expired : rt.expire now = rt
  leads : ∃ tracker, rt.tracker = some tracker ∧ tracker.bestActiveSource now.ms = some remote ∧
    (tracker.cfg.role = .source → ¬tracker.Leads tracker.cfg.priority remote)
  readable : ∃ usable, rt.hasUsableTime B now = .ok usable

section Following
variable {B : Build} {now : MonotonicTime} {remote : TimeSyncSource} {rt : TimeSyncRuntime}

/-- Whom the poll elects leads. -/
theorem Following.of_leader {usable : Bool} (hcfg : rt.cfg.isSome = true)
    (husable : (rt.expire now).hasUsableTime B now = .ok usable)
    (hleader : ((rt.expire now).refreshTracker now).leader now usable = some (.remote remote)) :
    (rt.expire now).Following B now remote where
  configured := hcfg
  expired := rt.expire_expire le_rfl
  leads := by
    obtain ⟨refreshed, hrefreshed, hleader⟩ := Option.bind_eq_some_iff.mp hleader
    obtain ⟨tracker, htracker, rfl⟩ := Option.map_eq_some_iff.mp hrefreshed
    obtain ⟨hbest, hleads⟩ := TimeSyncTracker.of_leader_eq_remote hleader
    exact ⟨tracker, htracker, TimeSyncTracker.bestActiveSource_refresh.symm.trans hbest, hleads⟩
  readable := ⟨usable, husable⟩

variable (h : rt.Following B now remote)
include h

theorem Following.leader (usable : Bool) : rt.leader now usable = some (.remote remote) := by
  obtain ⟨tracker, htracker, hbest, hleads⟩ := h.leads
  rw [TimeSyncRuntime.leader, htracker]
  exact TimeSyncTracker.leader_eq_remote hbest hleads

theorem Following.refreshTracker : (rt.refreshTracker now).Following B now remote where
  configured := h.configured
  expired := congrArg (fun rt => TimeSyncRuntime.refreshTracker now rt) h.expired
  leads := by
    obtain ⟨tracker, htracker, hbest, hleads⟩ := h.leads
    refine ⟨tracker.refresh now.ms, ?_, TimeSyncTracker.bestActiveSource_refresh.trans hbest, hleads⟩
    rw [TimeSyncRuntime.refreshTracker, htracker]
    rfl
  readable := h.readable

/-- The fields a request is kept in play no part. -/
theorem Following.asked (seq due : UInt64) (pending : Option PendingTimeSyncRequest) :
    { rt with nextSeq := seq, nextRequestMonoMs := due, pendingRequest := pending }.Following B now
      remote where
  configured := h.configured
  expired := congrArg (fun rt : TimeSyncRuntime => { rt with
    nextSeq := seq, nextRequestMonoMs := due, pendingRequest := pending }) h.expired
  leads := h.leads
  readable := h.readable

theorem Following.steerTo (targetMs : UInt64) : (rt.steerTo now targetMs).Following B now remote where
  configured := h.configured
  expired := congrArg (fun rt => TimeSyncRuntime.steerTo now targetMs rt) h.expired
  leads := h.leads
  readable := by
    obtain ⟨usable, husable⟩ := h.readable
    exact @hasUsableTime_steered B now rt (rt.steerTo now targetMs) usable rfl (.inr ⟨targetMs, rfl⟩)
      husable

/-- What a refresh keeps of the request that is pending: one to the leader. -/
structure SameRequest (now : MonotonicTime) (remote : TimeSyncSource) (rt rt' : TimeSyncRuntime) :
    Prop where
  pending : rt'.pendingRequest =
    rt.pendingRequest.filter fun pending => pending.source == remote.sender
  nextSeq : rt'.nextSeq = rt.nextSeq
  due : rt.nextRequestMonoMs ≤ now.ms → rt'.nextRequestMonoMs ≤ now.ms

omit h in
theorem reconcilePendingRequest_same (rt : TimeSyncRuntime) :
    SameRequest now remote rt (rt.reconcilePendingRequest now (some (.remote remote))) := by
  unfold reconcilePendingRequest
  cases hpending : rt.pendingRequest with
  | none =>
    rw [if_neg (by simp)]
    exact ⟨by rw [hpending, Option.filter_none], rfl, id⟩
  | some pending =>
    by_cases hsource : pending.source = remote.sender
    · rw [if_neg (by simp [remoteName, hsource])]
      refine ⟨?_, rfl, id⟩
      rw [hpending, Option.filter_some, if_pos (beq_iff_eq.mpr hsource)]
    · rw [if_pos (by simpa [remoteName] using hsource)]
      refine ⟨?_, rfl, fun _ => UInt64.le_refl _⟩
      rw [hpending, Option.filter_some, if_neg (mt beq_iff_eq.mp hsource)]

theorem Following.follow (usable : Bool) : (rt.follow now usable).Following B now remote ∧
    SameRequest now remote rt (rt.follow now usable) := by
  have hrefreshed := h.refreshTracker
  have hsame := @reconcilePendingRequest_same now remote (rt.refreshTracker now)
  obtain ⟨due, pending, heq⟩ := reconcilePendingRequest_eq now (some (.remote remote))
    (rt.refreshTracker now)
  have hreconciled := hrefreshed.asked (rt.refreshTracker now).nextSeq due pending
  rw [← heq] at hreconciled
  rw [TimeSyncRuntime.follow, hrefreshed.leader usable]
  unfold steerToLeader
  split
  · exact ⟨hreconciled, hsame.pending, hsame.nextSeq, hsame.due⟩
  · exact ⟨hreconciled.steerTo _, hsame.pending, hsame.nextSeq, hsame.due⟩

/-- A follower does not announce. -/
theorem Following.takeAnnounce (cfg : TimeSyncConfig) (usable : Bool) :
    takeAnnounce now cfg usable rt = (rt, .ok none) := by
  obtain ⟨tracker, htracker, hbest, hleads⟩ := h.leads
  have hleader := @TimeSyncTracker.leader_eq_remote tracker now.ms usable remote hbest hleads
  rw [TimeSyncRuntime.takeAnnounce, Program.read_bind_apply, htracker, Option.bind_some,
    TimeSyncTracker.localAnnouncePriority, hleader]
  rfl

/-- It asks when it is time to and nothing is pending. -/
theorem Following.takeRequest_asks (cfg : TimeSyncConfig) (usable : Bool)
    (hdue : rt.nextRequestMonoMs ≤ now.ms) (hpending : rt.pendingRequest = none) :
    ∃ seq due, takeRequest now cfg usable rt =
      ({ rt with nextSeq := seq, nextRequestMonoMs := due,
                 pendingRequest := some ⟨rt.nextSeq, now.ms, remote.sender⟩ },
        .ok (some (rt.nextSeq, now.ms))) := by
  rw [takeRequest, Program.read_bind_apply, h.leader usable, remoteName]
  dsimp only
  rw [if_pos ⟨hdue, hpending⟩, Program.modify_bind_apply, Program.pure_apply]
  exact ⟨_, _, rfl⟩

theorem Following.takeRequest_waits (cfg : TimeSyncConfig) (usable : Bool)
    {pending : PendingTimeSyncRequest} (hpending : rt.pendingRequest = some pending) :
    takeRequest now cfg usable rt = (rt, .ok none) := by
  rw [takeRequest, Program.read_bind_apply, h.leader usable, remoteName]
  dsimp only
  rw [if_neg (by simp [hpending])]
  rfl

omit h in
/-- A poll while that source leads is a refresh and its request. -/
theorem Following.pollLocked_apply (h : (rt.expire now).Following B now remote) :
    ∃ cfg usable, pollLocked B now rt =
      (takeRequest now cfg usable >>= fun request => pure (some ⟨none, request⟩))
        ((rt.expire now).follow now usable) := by
  obtain ⟨cfg, hcfg⟩ := Option.isSome_iff_exists.mp h.configured
  obtain ⟨usable, husable⟩ := h.readable
  refine ⟨cfg, usable, ?_⟩
  rw [pollLocked, Program.modify_bind_apply, Program.read_bind_apply, hcfg]
  dsimp only
  rw [husable, Program.of_ok_bind_apply, Program.modify_bind_apply,
    Program.bind_apply_of_ok ((h.follow usable).1.takeAnnounce cfg usable)]

theorem Following.reading : ∃ reading, rt.reading B now = .ok reading := by
  obtain ⟨usable, husable⟩ := h.readable
  unfold TimeSyncRuntime.reading
  unfold hasUsableTime at husable
  cases hread : rt.disciplinedClock.readUnixMs now.ns with
  | some unixMs =>
    obtain ⟨time, htime⟩ := PartialNetworkTime.fromUnixMs_ok B unixMs
    dsimp only
    rw [htime]
    exact ⟨_, rfl⟩
  | none =>
    rw [hread, if_neg (by simp)] at husable
    obtain ⟨reading, hcurrent, -⟩ := bind_eq_ok.mp husable
    exact ⟨reading, hcurrent⟩

/-- The packet's time can always be read, and reading it is a refresh. -/
theorem Following.packetTimestampMs : ∃ rt' time, packetTimestampMs B now rt = (rt', .ok time) ∧
    rt'.Following B now remote ∧ SameRequest now remote rt rt' := by
  obtain ⟨usable, husable⟩ := h.readable
  have hrefresh : refreshTimesyncState B now rt = (rt.follow now usable, .ok ()) := by
    rw [refreshTimesyncState, Program.modify_bind_apply, Program.read_bind_apply, h.expired, husable,
      Program.of_ok_bind_apply, Program.modify_apply]
  obtain ⟨hfollows, hsame⟩ := h.follow usable
  obtain ⟨reading, hreading⟩ := hfollows.reading
  have htime : networkTime B now rt = (rt.follow now usable, .ok reading) := by
    rw [networkTime, Program.bind_apply_of_ok hrefresh, Program.read_bind_apply, hreading]
    rfl
  refine ⟨_, (reading.bind fun reading => reading.unixTimeMs).getD now.ms, ?_, hfollows, hsame⟩
  rw [TimeSyncRuntime.packetTimestampMs, networkTimeMs, Program.bind_assoc,
    Program.bind_apply_of_ok htime]
  rfl

theorem Following.requestPacket {S : Schema} {t : TimeSyncTypes S.DataType}
    {timeSync : S.DataEndpoint} (hmeta : S.RequestsTime t timeSync) (sender : String)
    (request : UInt64 × UInt64) :
    ∃ rt' pkt, requestPacket B now t sender request rt = (rt', .ok pkt) ∧
      SameRequest now remote rt rt' ∧ pkt.ty = t.request ∧ pkt.sender = sender ∧
      (RouterItem.packet pkt).byteCost B B.arcSize + 1 + 1 = requestCost B sender ∧
      decodeTimesyncRequest B t pkt = .ok ⟨request.1, request.2⟩ := by
  obtain ⟨rt', time, htime, -, hsame⟩ := h.packetTimestampMs
  obtain ⟨pkt, hpkt, hty, hsender, hcost, hdecoded⟩ := exists_request hmeta sender request time
  refine ⟨rt', pkt, ?_, hsame, hty, hsender, hcost, hdecoded⟩
  rw [TimeSyncRuntime.requestPacket, Program.bind_apply_of_ok htime, hpkt, Program.of_apply]

end Following
end TimeSyncRuntime
end Sedsprintf
