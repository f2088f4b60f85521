import Sedsprintf.TimeSync.Refreshing
import Sedsprintf.Lib.Runs

/-!
# Requests and responses on their way

src/router.rs:3410-3611. A client asks the source it follows, and any server answers what it
receives with the network time it reads. On their way packets are lost, repeated and reordered. The
client's clock and network time run alike, from different values on.
-/
namespace Sedsprintf

open Lib

/-- What the client's clock and network time show at the time 0, in milliseconds, and how long the
clocks last. -/
structure TimeFrame where
  mono : Nat
  network : Nat
  horizon : Nat
  mono_fits : mono + horizon < 2 ^ 64
  network_fits : network + 2 * horizon < 2 ^ 64

namespace TimeFrame
variable (frame : TimeFrame)

def monoMs (time : Nat) : UInt64 := UInt64.ofNat (frame.mono + time)

def networkMs (time : Nat) : UInt64 := UInt64.ofNat (frame.network + time)

theorem toNat_monoMs {time : Nat} (h : time ≤ frame.horizon) :
    (frame.monoMs time).toNat = frame.mono + time := by
  have hfits := frame.mono_fits
  rw [monoMs, UInt64.toNat_ofNat']
  exact Nat.mod_eq_of_lt (by omega)

theorem toNat_networkMs {time : Nat} (h : time ≤ frame.horizon) :
    (frame.networkMs time).toNat = frame.network + time := by
  have hfits := frame.network_fits
  rw [networkMs, UInt64.toNat_ofNat']
  exact Nat.mod_eq_of_lt (by omega)

/-- The estimate from a response served at `served` to a request of `asked` is off by half the
round trip at most. -/
theorem sample_close {asked served now : Nat} (hserved : asked ≤ served) (hnow : served ≤ now)
    (hhorizon : now ≤ frame.horizon) :
    ((computeNetworkTimeSample (frame.monoMs asked) (frame.networkMs served)
        (frame.networkMs served) (frame.monoMs now)).toNat - (frame.network + now) : Int).natAbs ≤
      (now - asked + 1) / 2 := by
  have hfits := frame.network_fits
  have hasked := frame.toNat_monoMs (hserved.trans (hnow.trans hhorizon))
  have hmono := frame.toNat_monoMs hhorizon
  have hnetwork := frame.toNat_networkMs (hnow.trans hhorizon)
  have hround : (saturatingSub (saturatingSub (frame.monoMs now) (frame.monoMs asked))
      (saturatingSub (frame.networkMs served) (frame.networkMs served)) / 2).toNat =
        (now - asked) / 2 := by
    rw [UInt64.toNat_div, toNat_saturatingSub, toNat_saturatingSub, toNat_saturatingSub, hmono,
      hasked, Nat.sub_self, Nat.sub_zero, Nat.add_sub_add_left]
    rfl
  have hadd : (computeNetworkTimeSample (frame.monoMs asked) (frame.networkMs served)
      (frame.networkMs served) (frame.monoMs now)).toNat =
        frame.network + served + (now - asked) / 2 := by
    rw [computeNetworkTimeSample, saturatingAdd, hround, hnetwork, if_pos (by omega),
      UInt64.toNat_add, hround, hnetwork]
    exact Nat.mod_eq_of_lt (by omega)
  rw [hadd]
  omega

end TimeFrame

namespace TimeSyncRuntime
variable (B : Build) (now : MonotonicTime) {S : Schema} (t : TimeSyncTypes S.DataType)
  (sender : String)

/-- The announcement of a poll, which goes out first. -/
def announceDue (due : Due) : TimeSyncProgram Unit :=
  match due.announce with
  | none => pure ()
  | some priority => do
    let _ ← announcePacket B now t sender priority
    pure ()

/-- The request of a poll. -/
def requestDue (due : Due) : TimeSyncProgram (Option (Packet S)) :=
  match due.request with
  | none => pure none
  | some request => do
    let pkt ← requestPacket B now t sender request
    pure (some pkt)

/-- `poll_timesync` up to its request; without room for the announcement it ends there. -/
def pollRequest (room : Bool) : TimeSyncProgram (Option (Packet S)) := do
  let due ← pollLocked B now
  match due with
  | none => pure none
  | some due => do
    announceDue B now t sender due
    if room then requestDue B now t sender due else pure none

end TimeSyncRuntime

/-- A router that uses time sync, as the exchange needs it. -/
structure TimeClient where
  build : Build
  sender : String
  cfg : TimeSyncConfig

structure TimeExchange (S : Schema) where
  client : TimeSyncRuntime
  /-- The time so far. -/
  clock : Nat
  polls : Nat
  /-- The packets that were made, with when. -/
  made : List (Packet S × Nat)

inductive ExchangeAction (S : Schema) where
  | poll (time : Nat) (now : MonotonicTime) (room : Bool)
  | read (time : Nat) (now : MonotonicTime)
  /-- Some server makes the response of what it received. -/
  | serve (time : Nat) (request response : Packet S)
  /-- The client receives any packet, but no response that nobody made. -/
  | handle (time : Nat) (now : MonotonicTime) (pkt : Packet S)

def ExchangeAction.time {S : Schema} : ExchangeAction S → Nat
  | .poll time _ _ => time
  | .read time _ => time
  | .serve time _ _ => time
  | .handle time _ _ => time

namespace TimeExchange
variable {S : Schema} (t : TimeSyncTypes S.DataType) (who : TimeClient) (frame : TimeFrame)

def initial : TimeExchange S := ⟨.new who.build (some who.cfg), 0, 0, []⟩

def step (s : TimeExchange S) : ExchangeAction S → Option (TimeExchange S)
  | .poll time now room =>
    let r := TimeSyncRuntime.pollRequest who.build now t who.sender room s.client
    some ⟨r.1, time, s.polls + 1, (r.2.toOption.join.toList.map fun pkt => (pkt, time)) ++ s.made⟩
  | .read time now =>
    some { s with
      client := (TimeSyncRuntime.networkTime who.build now s.client).1
      clock := time }
  | .serve time request response =>
    if request ∈ s.made.map Prod.fst then
      some { s with clock := time, made := (response, time) :: s.made }
    else none
  | .handle time now pkt =>
    if pkt.ty = t.response → pkt ∈ s.made.map Prod.fst then
      some { s with
        client := (TimeSyncRuntime.handleLocked who.build now t who.cfg pkt s.client).1
        clock := time }
    else none

/-- A server handles the request and makes the response, with network time as it reads it. -/
def Answers (time : Nat) (request response : Packet S) : Prop :=
  ∃ (server : TimeClient) (now : MonotonicTime) (rt rt' rt'' : TimeSyncRuntime)
    (fields : TimeSyncRequestFields) (poll : Bool),
    TimeSyncRuntime.handleLocked server.build now t server.cfg request rt =
        (rt', .ok (.goesOn (some (fields, frame.networkMs time)) poll)) ∧
      TimeSyncRuntime.responsePacket server.build now t server.sender fields (frame.networkMs time)
        rt' = (rt'', .ok response)

/-- The client's clock shows the time, the sequence numbers last, and servers answer. -/
def Shows (s : TimeExchange S) : ExchangeAction S → Prop
  | .poll time now _ => now.ms = frame.monoMs time ∧ s.polls + 2 < 2 ^ 64
  | .read time now => now.ms = frame.monoMs time
  | .serve time request response => Answers t frame time request response
  | .handle time now _ => now.ms = frame.monoMs time

/-- Time goes on. -/
structure Proceeds (s : TimeExchange S) (a : ExchangeAction S) : Prop where
  later : s.clock ≤ a.time
  lasts : a.time ≤ frame.horizon
  shows : Shows t frame s a

end TimeExchange

namespace TimeSyncRuntime
variable {B : Build} {now : MonotonicTime} {S : Schema} {t : TimeSyncTypes S.DataType}
  {rt rt' start : TimeSyncRuntime}

/-- No new request is made; one that is pending may end. -/
def AsksNoMore (start rt : TimeSyncRuntime) : Prop :=
  rt.nextSeq = start.nextSeq ∧
    (rt.pendingRequest = start.pendingRequest ∨ rt.pendingRequest = none)

theorem asksNoMore_follow (h : AsksNoMore start rt) (usable : Bool) :
    AsksNoMore start (rt.follow now usable) := by
  have hsteer (leader : Option TimeSyncLeader) (rt : TimeSyncRuntime) :
      (rt.steerToLeader now leader).nextSeq = rt.nextSeq ∧
        (rt.steerToLeader now leader).pendingRequest = rt.pendingRequest := by
    unfold steerToLeader
    split
    · exact ⟨rfl, rfl⟩
    · exact ⟨rfl, rfl⟩
  have hreconcile (leader : Option TimeSyncLeader) (rt : TimeSyncRuntime) (h : AsksNoMore start rt) :
      AsksNoMore start (rt.reconcilePendingRequest now leader) := by
    unfold reconcilePendingRequest
    split
    · exact ⟨h.1, .inr rfl⟩
    · exact h
  have hreconciled := hreconcile ((rt.refreshTracker now).leader now usable)
    (rt.refreshTracker now) h
  rw [AsksNoMore, follow, (hsteer _ _).1, (hsteer _ _).2]
  exact hreconciled

theorem keeps_refreshTimesyncState : Program.Keeps (AsksNoMore start) (refreshTimesyncState B now) := by
  refine Program.Keeps.bind (fun _ h => h) fun _ => Program.Keeps.read.bind fun rt => ?_
  exact (Program.Keeps.of _).bind fun usable => fun _ h => asksNoMore_follow h usable

theorem keeps_networkTime : Program.Keeps (AsksNoMore start) (networkTime B now) :=
  keeps_refreshTimesyncState.bind fun _ => Program.Keeps.read.bind fun _ => .of _

theorem keeps_packetTimestampMs : Program.Keeps (AsksNoMore start) (packetTimestampMs B now) :=
  (keeps_networkTime.bind fun _ => .pure _).bind fun _ => .pure _

theorem keeps_announceDue (sender : String) (due : Due) :
    Program.Keeps (AsksNoMore start) (announceDue B now t sender due) := by
  unfold announceDue
  split
  · exact .pure ()
  · exact (keeps_packetTimestampMs.bind fun _ => .of _).bind fun _ => .pure ()

theorem keeps_noteSample (cfg : TimeSyncConfig) (source : String) (priority sampleMs : UInt64) :
    Program.Keeps (AsksNoMore start) (noteSample B now cfg source priority sampleMs) :=
  Program.Keeps.bind (fun _ h => h) fun _ => (Program.Keeps.of _).bind fun _ => fun _ h => h

theorem keeps_handleLocked (cfg : TimeSyncConfig) (pkt : Packet S) :
    Program.Keeps (AsksNoMore start) (handleLocked B now t cfg pkt) := by
  refine Program.Keeps.bind (fun _ h => h) fun _ => Program.Keeps.read.bind fun rt => ?_
  refine (Program.Keeps.of _).bind fun usable => ?_
  split
  · exact .pure _
  · rename_i tracker _
    refine .ite ?_ (.ite ?_ (.ite ?_ (.pure _)))
    · refine (Program.Keeps.of _).bind fun ann => Program.Keeps.bind (fun _ h => h) fun _ => ?_
      refine (keeps_noteSample _ _ _ _).bind fun _ => ?_
      exact Program.Keeps.bind (.ite (fun _ h => h) (.pure ())) fun _ => .pure _
    · refine .ite ?_ (.pure _)
      exact (Program.Keeps.of _).bind fun request => Program.Keeps.read.bind fun rt =>
        (Program.Keeps.of _).bind fun time => .pure _
    · refine (Program.Keeps.of _).bind fun response => Program.Keeps.read.bind fun rt => ?_
      split
      · exact .pure _
      · refine Program.Keeps.read.bind fun rt => (keeps_noteSample _ _ _ _).bind fun _ => ?_
        refine Program.Keeps.bind (fun _ h => h) fun _ => ?_
        exact Program.Keeps.bind (fun _ h => ⟨h.1, .inr rfl⟩) fun _ => .pure _

/-- What a poll that made `request`, or none, leaves; the request may have ended already. -/
def Asks (now : MonotonicTime) (start rt : TimeSyncRuntime) : Option (UInt64 × UInt64) → Prop
  | none => AsksNoMore start rt
  | some request => request = (start.nextSeq, now.ms) ∧
      rt.nextSeq = (if start.nextSeq + 1 = 0 then 1 else start.nextSeq + 1) ∧
      ∀ pending, rt.pendingRequest = some pending →
        pending.seq = start.nextSeq ∧ pending.t1MonoMs = now.ms

theorem Asks.later {request : Option (UInt64 × UInt64)} (h : Asks now start rt request)
    (hlater : AsksNoMore rt rt') : Asks now start rt' request := by
  cases request with
  | none =>
    refine ⟨hlater.1.trans h.1, ?_⟩
    rcases hlater.2 with heq | hnone
    · rw [heq]
      exact h.2
    · exact .inr hnone
  | some request =>
    obtain ⟨hrequest, hnext, hpending⟩ := h
    refine ⟨hrequest, hlater.1.trans hnext, fun pending heq => ?_⟩
    rcases hlater.2 with hsame | hnone
    · exact hpending pending (hsame ▸ heq)
    · rw [hnone] at heq
      cases heq

theorem keeps_asks {α : Type} {p : TimeSyncProgram α} {request : Option (UInt64 × UInt64)}
    (h : ∀ start, Program.Keeps (AsksNoMore start) p) :
    Program.Keeps (fun rt => Asks now start rt request) p :=
  fun rt hasks => hasks.later (h rt rt ⟨rfl, .inl rfl⟩)

theorem takeAnnounce_asksNoMore (cfg : TimeSyncConfig) (usable : Bool) :
    Program.Keeps (AsksNoMore start) (takeAnnounce now cfg usable) := by
  refine Program.Keeps.read.bind fun rt => ?_
  split
  · exact .pure _
  · exact .ite (Program.Keeps.bind (fun _ h => h) fun _ => .pure _) (.pure _)

theorem takeRequest_asks (cfg : TimeSyncConfig) (usable : Bool) :
    Program.Triple (AsksNoMore start) (takeRequest now cfg usable)
      (fun request rt => Asks now start rt request) (AsksNoMore start) := by
  have hwaits : Program.Triple (AsksNoMore start) (pure none : TimeSyncProgram (Option _))
      (fun request rt => Asks now start rt request) (AsksNoMore start) := .pure fun _ h => h
  intro rt h
  rw [takeRequest, Program.read_bind_apply]
  cases remoteName (rt.leader now usable) with
  | none => exact hwaits rt h
  | some source =>
    by_cases hdue : rt.nextRequestMonoMs ≤ now.ms ∧ rt.pendingRequest = none
    · simp only [if_pos hdue, Program.modify_bind_apply, Program.pure_apply]
      refine ⟨fun request hok => ?_, fun e he => ?_⟩
      · obtain rfl := Except.ok.inj hok
        refine ⟨by rw [h.1], by rw [h.1], fun pending heq => ?_⟩
        obtain rfl := Option.some.inj heq
        exact ⟨h.1, rfl⟩
      · cases he
    · simp only [if_neg hdue]
      exact hwaits rt h

theorem pollLocked_asks : Program.Triple (AsksNoMore start) (pollLocked B now)
    (fun due rt => Asks now start rt (due.bind fun due => due.request)) (AsksNoMore start) := by
  have hexpire : Program.Keeps (AsksNoMore start)
      (Program.modify (expire now) : TimeSyncProgram Unit) := fun _ h => h
  refine hexpire.triple.bind fun _ => Program.Keeps.read.triple.bind fun rt => ?_
  split
  · exact .pure fun _ h => h
  · rename_i cfg _
    have hfollow (usable : Bool) : Program.Keeps (AsksNoMore start)
        (Program.modify (follow now usable) : TimeSyncProgram Unit) :=
      fun _ h => asksNoMore_follow h usable
    refine (Program.Keeps.of _).triple.bind fun usable => (hfollow usable).triple.bind fun _ => ?_
    refine (takeAnnounce_asksNoMore cfg usable).triple.bind fun announce => ?_
    exact (takeRequest_asks cfg usable).bind fun request => .pure fun _ h => h

/-- A poll that got stuck may have counted a request that it did not make. -/
theorem pollRequest_asks (sender : String) (room : Bool) :
    Program.Triple (AsksNoMore start) (pollRequest B now t sender room)
      (fun pkt rt => ∃ request, Asks now start rt request ∧ ∀ made, pkt = some made →
        request.isSome = true ∧
          made.payload.asSlice = encodeU64Words [start.nextSeq, now.ms])
      (fun rt => ∃ request, Asks now start rt request) := by
  refine (pollLocked_asks.imp (fun _ h => h) (fun _ _ h => h) fun rt h => ⟨none, h⟩).bind
    fun due => ?_
  cases due with
  | none => exact .pure fun rt h => ⟨none, h, by simp⟩
  | some due =>
    have hannounce : Program.Keeps (fun rt => Asks now start rt due.request)
        (announceDue B now t sender due) := keeps_asks fun _ => keeps_announceDue sender due
    refine (hannounce.triple_of_le fun rt h => ⟨_, h⟩).bind fun _ => ?_
    refine .ite ?_ (.pure fun rt h => ⟨_, h, by simp⟩)
    unfold requestDue
    split
    · exact .pure fun rt h => ⟨_, h, by simp⟩
    · rename_i request hrequest
      rw [hrequest]
      have htime : Program.Keeps (fun rt => Asks now start rt (some request))
          (packetTimestampMs B now) := keeps_asks fun _ => keeps_packetTimestampMs
      have hpacket : Program.Triple (fun rt => Asks now start rt (some request))
          (requestPacket B now t sender request) (fun pkt rt => Asks now start rt (some request) ∧
            pkt.payload.asSlice = encodeU64Words [request.1, request.2])
          (fun rt => Asks now start rt (some request)) := by
        refine htime.triple.bind fun time => ?_
        exact (Program.Triple.of_value _).imp (fun _ h => h)
          (fun pkt rt h => ⟨h.1, (logRaw_eq_ok B h.2).2.2⟩) fun _ h => h
      refine (hpacket.imp (fun _ h => h) (fun _ _ h => h) fun rt h => ⟨_, h⟩).bind
        fun pkt => .pure fun rt h => ⟨some request, h.1, fun made heq => ?_⟩
      obtain rfl := Option.some.inj heq
      obtain ⟨rfl, -⟩ := h.1
      exact ⟨rfl, h.2⟩

section Handling
variable {cfg : TimeSyncConfig} {pkt : Packet S}

/-- Only a response touches the pending request. -/
theorem handleLocked_cases : (handleLocked B now t cfg pkt rt).1.pendingRequest = rt.pendingRequest ∨
    ∃ tracker, handleLocked B now t cfg pkt rt =
      handleResponse B now t cfg tracker pkt (rt.expire now) := by
  have hpending (pre : TimeSyncRuntime) (h : pre.pendingRequest = rt.pendingRequest)
      {p : TimeSyncProgram Handled}
      (hp : Program.Keeps (fun s => s.pendingRequest = rt.pendingRequest) p) :
      (p pre).1.pendingRequest = rt.pendingRequest := hp pre h
  rw [handleLocked, Program.modify_bind_apply, Program.read_bind_apply]
  cases (rt.expire now).hasUsableTime B now with
  | error e => exact .inl rfl
  | ok usable =>
    rw [Program.of_ok_bind_apply]
    cases (rt.expire now).tracker with
    | none => exact .inl rfl
    | some tracker =>
      by_cases hannounce : pkt.ty = t.announce
      · simp only [if_pos hannounce]
        refine .inl (hpending (rt.expire now) rfl ?_)
        refine (Program.Keeps.of _).bind fun ann => Program.Keeps.bind (fun _ h => h) fun _ => ?_
        refine Program.Keeps.bind ?_ fun _ => Program.Keeps.bind (.ite (fun _ h => h) (.pure ()))
          fun _ => .pure _
        exact Program.Keeps.bind (fun _ h => h) fun _ =>
          (Program.Keeps.of _).bind fun _ => fun _ h => h
      · by_cases hrequest : pkt.ty = t.request
        · simp only [if_neg hannounce, if_pos hrequest]
          refine .inl (hpending (rt.expire now) rfl (.ite ?_ (.pure _)))
          exact (Program.Keeps.of _).bind fun request => Program.Keeps.read.bind fun _ =>
            (Program.Keeps.of _).bind fun time => .pure _
        · by_cases hresponse : pkt.ty = t.response
          · simp only [if_neg hannounce, if_neg hrequest, if_pos hresponse]
            exact .inr ⟨tracker, rfl⟩
          · simp only [if_neg hannounce, if_neg hrequest, if_neg hresponse]
            exact .inl rfl

/-- What is answered is a request. -/
theorem request_of_handleLocked {fields : TimeSyncRequestFields} {time : UInt64} {poll : Bool}
    (h : handleLocked B now t cfg pkt rt = (rt', .ok (.goesOn (some (fields, time)) poll))) :
    decodeTimesyncRequest B t pkt = .ok fields := by
  rw [handleLocked, Program.modify_bind_apply, Program.read_bind_apply] at h
  obtain ⟨rt₁, usable, -, h⟩ := Program.bind_apply_eq_ok.mp h
  cases htracker : (rt.expire now).tracker with
  | none =>
    rw [htracker] at h
    cases (Prod.mk.inj h).2
  | some tracker =>
    rw [htracker] at h
    dsimp only at h
    split at h
    · obtain ⟨rt₂, ann, hann, -⟩ := Program.bind_apply_eq_ok.mp h
      obtain ⟨-, hann⟩ := Program.of_apply_eq_ok.mp hann
      obtain ⟨time, hrun⟩ := handleAnnounce_apply B now hann rt₁
      rw [hrun] at h
      obtain ⟨rt₃, -, -, h⟩ := Program.bind_apply_eq_ok.mp h
      cases (Prod.mk.inj h).2
    · split at h
      · unfold handleRequest at h
        split at h
        · obtain ⟨rt₂, request, hrequest, h⟩ := Program.bind_apply_eq_ok.mp h
          rw [Program.read_bind_apply] at h
          obtain ⟨rt₃, served, -, h⟩ := Program.bind_apply_eq_ok.mp h
          cases (Prod.mk.inj h).2
          exact (Program.of_apply_eq_ok.mp hrequest).2
        · cases (Prod.mk.inj h).2
      · split at h
        · obtain ⟨rt₂, response, -, h⟩ := Program.bind_apply_eq_ok.mp h
          rw [Program.read_bind_apply] at h
          cases hpending : rt₂.pendingRequest.filter fun pending =>
              pending.seq == response.seq && pending.source == pkt.sender with
          | none =>
            rw [hpending] at h
            cases (Prod.mk.inj h).2
          | some pending =>
            rw [hpending] at h
            obtain ⟨time, htaken⟩ := takeSample_apply B now cfg tracker pkt.sender
              (computeNetworkTimeSample pending.t1MonoMs response.t2Ms response.t3Ms now.ms) rt₂
            cases (Prod.mk.inj (htaken.symm.trans h)).2
        · cases (Prod.mk.inj h).2

/-- A pending request ends with its response, and the estimate is kept and steered to. -/
theorem handleLocked_ends {pending : PendingTimeSyncRequest}
    (hpending : rt.pendingRequest = some pending)
    (hends : (handleLocked B now t cfg pkt rt).1.pendingRequest = none) :
    ∃ response priority, decodeTimesyncResponse B t pkt = .ok response ∧
      pending.seq = response.seq ∧
      (handleLocked B now t cfg pkt rt).1.remoteSources[pkt.sender]? = some ⟨priority, now.ms,
        computeNetworkTimeSample pending.t1MonoMs response.t2Ms response.t3Ms now.ms⟩ ∧
      (handleLocked B now t cfg pkt rt).1.disciplinedClock = rt.disciplinedClock.steerUnixMs now.ns
        (computeNetworkTimeSample pending.t1MonoMs response.t2Ms response.t3Ms now.ms) := by
  have hexpired : (rt.expire now).pendingRequest = some pending := hpending
  rcases @handleLocked_cases B now S t rt cfg pkt with hstays | ⟨tracker, hresponds⟩
  · rw [hstays, hpending] at hends
    cases hends
  · rw [hresponds] at hends ⊢
    rw [handleResponse] at hends ⊢
    cases hresponse : decodeTimesyncResponse B t pkt with
    | error e =>
      rw [hresponse, Program.of_error_bind_apply, hexpired] at hends
      cases hends
    | ok response =>
      rw [hresponse, Program.of_ok_bind_apply, Program.read_bind_apply, hexpired,
        Option.filter_some] at hends
      rw [Program.of_ok_bind_apply, Program.read_bind_apply, hexpired, Option.filter_some]
      by_cases hmatches : (pending.seq == response.seq && pending.source == pkt.sender) = true
      · obtain ⟨time, htaken⟩ := takeSample_apply B now cfg tracker pkt.sender
          (computeNetworkTimeSample pending.t1MonoMs response.t2Ms response.t3Ms now.ms)
          (rt.expire now)
        simp only [if_pos hmatches, htaken]
        rw [Bool.and_eq_true, beq_iff_eq] at hmatches
        exact ⟨response, _, rfl, hmatches.1, Std.ExtTreeMap.getElem?_insert_self, rfl⟩
      · simp only [if_neg hmatches, Program.pure_apply] at hends
        rw [hexpired] at hends
        cases hends

end Handling
end TimeSyncRuntime

/-- What is read of a payload. -/
theorem decodeTimesyncRequest_eq_ok {B : Build} {S : Schema} {t : TimeSyncTypes S.DataType}
    {pkt : Packet S} {fields : TimeSyncRequestFields}
    (h : decodeTimesyncRequest B t pkt = .ok fields) :
    fields.seq = (leWords64 pkt.payload.asSlice).getD 0 0 := by
  obtain ⟨vals, hvals, h⟩ := bind_eq_ok.mp h
  rw [← Except.ok.inj h, decodeU64Payload_eq_ok B hvals]

theorem decodeTimesyncResponse_eq_ok {B : Build} {S : Schema} {t : TimeSyncTypes S.DataType}
    {pkt : Packet S} {fields : TimeSyncResponseFields}
    (h : decodeTimesyncResponse B t pkt = .ok fields) :
    pkt.ty = t.response ∧
      leWords64 pkt.payload.asSlice = [fields.seq, fields.t1Ms, fields.t2Ms, fields.t3Ms] := by
  obtain ⟨vals, hvals, h⟩ := bind_eq_ok.mp h
  obtain rfl := Except.ok.inj h
  rw [← decodeU64Payload_eq_ok B hvals]
  obtain ⟨_, hty, hvals⟩ := bind_eq_ok.mp hvals
  obtain ⟨words, -, hvals⟩ := bind_eq_ok.mp hvals
  obtain ⟨_, hlength, hvals⟩ := bind_eq_ok.mp hvals
  obtain rfl := Except.ok.inj hvals
  obtain ⟨seq, t1, t2, t3, rfl⟩ := List.length_eq_four.mp (ensure_eq_ok.mp hlength)
  exact ⟨ensure_eq_ok.mp hty, rfl⟩

namespace TimeExchange
variable {S : Schema} {t : TimeSyncTypes S.DataType} {who : TimeClient} {frame : TimeFrame}

/-- A packet made at `made.2`. With the number of the pending request it was asked for by then,
and a response has network time as it was then. -/
def Genuine (frame : TimeFrame) (rt : TimeSyncRuntime) (made : Packet S × Nat) : Prop :=
  ∃ seq rest, leWords64 made.1.payload.asSlice = seq :: rest ∧ seq < rt.nextSeq ∧
    (∀ pending, rt.pendingRequest = some pending → pending.seq = seq →
      ∃ asked ≤ made.2, pending.t1MonoMs = frame.monoMs asked) ∧
    (rest.length = 3 → ∃ t1, rest = [t1, frame.networkMs made.2, frame.networkMs made.2])

structure Inv (frame : TimeFrame) (s : TimeExchange S) : Prop where
  lasts : s.clock ≤ frame.horizon
  counted : s.client.nextSeq.toNat ≤ s.polls + 1
  pending : ∀ pending, s.client.pendingRequest = some pending →
    pending.seq < s.client.nextSeq ∧ ∃ asked ≤ s.clock, pending.t1MonoMs = frame.monoMs asked
  made : ∀ made ∈ s.made, made.2 ≤ s.clock ∧ Genuine frame s.client made

theorem Inv.initial : Inv frame (initial who : TimeExchange S) where
  lasts := Nat.zero_le _
  counted := Nat.le_refl _
  pending := by simp [TimeExchange.initial, TimeSyncRuntime.new]
  made := by simp [TimeExchange.initial]

theorem Genuine.later {rt rt' : TimeSyncRuntime} {made : Packet S × Nat}
    (h : Genuine frame rt made) (hlater : TimeSyncRuntime.AsksNoMore rt rt') :
    Genuine frame rt' made := by
  obtain ⟨seq, rest, hwords, hseq, hasked, hserved⟩ := h
  refine ⟨seq, rest, hwords, hlater.1.symm ▸ hseq, fun pending heq => ?_, hserved⟩
  rcases hlater.2 with hsame | hnone
  · exact hasked pending (hsame ▸ heq)
  · rw [hnone] at heq
    cases heq

/-- The client goes on without asking. -/
theorem Inv.goesOn {s : TimeExchange S} (h : Inv frame s) {rt : TimeSyncRuntime} {time : Nat}
    (hlater : s.clock ≤ time) (hlasts : time ≤ frame.horizon)
    (hclient : TimeSyncRuntime.AsksNoMore s.client rt) :
    Inv frame { s with client := rt, clock := time } where
  lasts := hlasts
  counted := by
    have hcounted := h.counted
    rwa [← hclient.1] at hcounted
  pending pending heq := by
    rcases hclient.2 with hsame | hnone
    · obtain ⟨hseq, asked, hasked, ht1⟩ := h.pending pending (hsame ▸ heq)
      exact ⟨hclient.1.symm ▸ hseq, asked, hasked.trans hlater, ht1⟩
    · rw [show rt.pendingRequest = none from hnone] at heq
      cases heq
  made made hmade := ⟨(h.made made hmade).1.trans hlater, (h.made made hmade).2.later hclient⟩

/-- The client asks, with or without a packet. -/
theorem Inv.asks {s : TimeExchange S} (h : Inv frame s) {rt : TimeSyncRuntime} {time : Nat}
    {now : MonotonicTime} (hlater : s.clock ≤ time) (hlasts : time ≤ frame.horizon)
    (hnow : now.ms = frame.monoMs time) (hcount : s.polls + 2 < 2 ^ 64)
    {request : UInt64 × UInt64} (hasks : TimeSyncRuntime.Asks now s.client rt (some request))
    {pkt : Option (Packet S)} (hpkt : ∀ made, pkt = some made →
      leWords64 made.payload.asSlice = [s.client.nextSeq, now.ms]) :
    Inv frame ⟨rt, time, s.polls + 1, (pkt.toList.map fun pkt => (pkt, time)) ++ s.made⟩ := by
  obtain ⟨-, hnext, hpending⟩ := hasks
  have hcounted := h.counted
  have hsucc : (s.client.nextSeq + 1).toNat = s.client.nextSeq.toNat + 1 := by
    rw [UInt64.toNat_add]
    exact Nat.mod_eq_of_lt (show s.client.nextSeq.toNat + 1 < 2 ^ 64 by omega)
  have hnonzero : s.client.nextSeq + 1 ≠ 0 := by
    intro hzero
    rw [hzero] at hsucc
    cases hsucc
  rw [if_neg hnonzero] at hnext
  have hgrows : s.client.nextSeq < rt.nextSeq := by
    rw [UInt64.lt_iff_toNat_lt, hnext, hsucc]
    exact Nat.lt_succ_self _
  refine ⟨hlasts, ?_, fun pending heq => ?_, fun made hmade => ?_⟩
  · rw [show rt.nextSeq.toNat = s.client.nextSeq.toNat + 1 from hnext ▸ hsucc]
    exact Nat.add_le_add_right hcounted 1
  · obtain ⟨hseq, ht1⟩ := hpending pending heq
    exact ⟨hseq ▸ hgrows, time, Nat.le_refl _, ht1.trans hnow⟩
  · rcases List.mem_append.mp hmade with hnew | hold
    · obtain ⟨request, hrequest, rfl⟩ := List.mem_map.mp hnew
      refine ⟨Nat.le_refl _, s.client.nextSeq, [now.ms], ?_, hgrows, fun pending heq _ => ?_, by simp⟩
      · exact hpkt request (Option.mem_toList.mp hrequest)
      · exact ⟨time, Nat.le_refl _, (hpending pending heq).2.trans hnow⟩
    · obtain ⟨hbefore, seq, rest, hwords, hseq, -, hserved⟩ := h.made made hold
      refine ⟨hbefore.trans hlater, seq, rest, hwords, UInt64.lt_trans hseq hgrows, ?_, hserved⟩
      -- the number of the new request is none of theirs
      intro pending heq hsame
      rw [← hsame, (hpending pending heq).1] at hseq
      exact absurd hseq (UInt64.lt_irrefl _)

/-- A server answers what was made. -/
theorem Inv.served {s : TimeExchange S} (h : Inv frame s) {time : Nat} (hlater : s.clock ≤ time)
    (hlasts : time ≤ frame.horizon) {request response : Packet S}
    (hrequest : request ∈ s.made.map Prod.fst) (hanswers : Answers t frame time request response) :
    Inv frame { s with clock := time, made := (response, time) :: s.made } := by
  obtain ⟨made, hmade, rfl⟩ := List.mem_map.mp hrequest
  obtain ⟨hbefore, seq, rest, hwords, hseq, hasked, -⟩ := h.made made hmade
  refine ⟨hlasts, h.counted, fun pending heq => ?_, fun made' hmade' => ?_⟩
  · obtain ⟨hlt, asked, hle, ht1⟩ := h.pending pending heq
    exact ⟨hlt, asked, hle.trans hlater, ht1⟩
  · rcases List.mem_cons.mp hmade' with rfl | hold
    · obtain ⟨server, now, rt, rt', rt'', fields, poll, hhandled, hresponse⟩ := hanswers
      have hfields : fields.seq = seq := by
        rw [decodeTimesyncRequest_eq_ok (TimeSyncRuntime.request_of_handleLocked hhandled), hwords]
        rfl
      obtain ⟨_, _, -, hbuilt⟩ := Program.bind_apply_eq_ok.mp hresponse
      obtain ⟨-, hbuilt⟩ := Program.of_apply_eq_ok.mp hbuilt
      obtain ⟨-, -, stored, hstored, rfl⟩ := (Packet.new_eq_ok _).mp hbuilt
      refine ⟨Nat.le_refl _, seq, [fields.t1Ms, frame.networkMs time, frame.networkMs time], ?_,
        hseq, fun pending heq hsame => ?_, fun _ => ⟨_, rfl⟩⟩
      · rw [SmallPayload.asSlice_of_new hstored, leWords64_encodeU64Words, hfields]
      · obtain ⟨asked, hle, ht1⟩ := hasked pending heq hsame
        exact ⟨asked, hle.trans (hbefore.trans hlater), ht1⟩
    · exact ⟨(h.made made' hold).1.trans hlater, (h.made made' hold).2⟩

theorem Inv.step {s s' : TimeExchange S} {a : ExchangeAction S} (h : Inv frame s)
    (hok : Proceeds t frame s a) (hstep : step t who s a = some s') : Inv frame s' := by
  obtain ⟨hlater, hlasts, hshown⟩ := hok
  cases a with
  | poll time now room =>
    obtain ⟨hnow, hcount⟩ := hshown
    obtain rfl := Option.some.inj hstep
    obtain ⟨hmade, hstuck⟩ := @TimeSyncRuntime.pollRequest_asks who.build now S t s.client who.sender
      room s.client ⟨rfl, .inl rfl⟩
    generalize TimeSyncRuntime.pollRequest who.build now t who.sender room s.client = r at *
    have hpolled (request : Option (UInt64 × UInt64)) (pkt : Option (Packet S))
        (hasks : TimeSyncRuntime.Asks now s.client r.1 request) (hpkt : ∀ made, pkt = some made →
          request.isSome = true ∧ made.payload.asSlice = encodeU64Words [s.client.nextSeq, now.ms]) :
        Inv frame ⟨r.1, time, s.polls + 1, (pkt.toList.map fun pkt => (pkt, time)) ++ s.made⟩ := by
      cases request with
      | some request =>
        refine h.asks hlater hlasts hnow hcount hasks fun made heq => ?_
        rw [(hpkt made heq).2, leWords64_encodeU64Words]
      | none =>
        cases pkt with
        | some made => cases (hpkt made rfl).1
        | none =>
          have hgoes := h.goesOn hlater hlasts hasks
          exact ⟨hgoes.lasts, hgoes.counted.trans (Nat.le_succ _), hgoes.pending, hgoes.made⟩
    cases hresult : r.2 with
    | ok pkt =>
      obtain ⟨request, hasks, hpkt⟩ := hmade pkt hresult
      exact hpolled request pkt hasks hpkt
    | error e =>
      obtain ⟨request, hasks⟩ := hstuck e hresult
      exact hpolled request none hasks (by simp)
  | read time now =>
    obtain rfl := Option.some.inj hstep
    exact h.goesOn hlater hlasts (TimeSyncRuntime.keeps_networkTime s.client ⟨rfl, .inl rfl⟩)
  | serve time request response =>
    simp only [TimeExchange.step] at hstep
    split at hstep
    · rename_i hrequest
      obtain rfl := Option.some.inj hstep
      exact h.served hlater hlasts hrequest hshown
    · cases hstep
  | handle time now pkt =>
    simp only [TimeExchange.step] at hstep
    split at hstep
    · obtain rfl := Option.some.inj hstep
      exact h.goesOn hlater hlasts
        (TimeSyncRuntime.keeps_handleLocked who.cfg pkt s.client ⟨rfl, .inl rfl⟩)
    · cases hstep

end TimeExchange
end Sedsprintf
