import Sedsprintf.Router.TimeSync

/-!
# What reading and polling do to the runtime

Every reading of the clock and every poll refreshes the runtime at least once: it drops what
has expired and steers to the leader. What a refresh leads to and further ones keep, all of
them lead to.
-/
namespace Sedsprintf

open Lib

namespace TimeSyncRuntime

/-- What is dropped at one instant is dropped at every later one. -/
theorem expire_expire (rt : TimeSyncRuntime) {now later : MonotonicTime}
    (hle : now.ms.toNat ≤ later.ms.toNat) : (rt.expire now).expire later = rt.expire later := by
  have hmono (x : UInt64) (timeout : UInt64) (hkept : saturatingSub later.ms x ≤ timeout) :
      saturatingSub now.ms x ≤ timeout := by
    simp only [UInt64.le_iff_toNat_le, toNat_saturatingSub] at hkept ⊢
    omega
  have hclock : (rt.clock.pruneExpired now.ms).pruneExpired later.ms =
      rt.clock.pruneExpired later.ms := by
    refine congrArg NetworkClock.mk (OrdMap.filter_filter_of_imp _ fun source state hkept => ?_)
    cases httl : state.ttlMs with
    | none => rfl
    | some ttl =>
      rw [httl, Option.all_some, decide_eq_true_eq] at hkept
      rw [Option.all_some, decide_eq_true_eq]
      exact hmono _ _ hkept
  have hremote (timeout : UInt64) : (rt.remoteSources.filter fun _ src =>
      decide (saturatingSub now.ms src.lastSampleMonoMs ≤ timeout)).filter (fun _ src =>
        decide (saturatingSub later.ms src.lastSampleMonoMs ≤ timeout)) =
      rt.remoteSources.filter fun _ src =>
        decide (saturatingSub later.ms src.lastSampleMonoMs ≤ timeout) :=
    OrdMap.filter_filter_of_imp _ fun _ src hkept =>
      decide_eq_true (hmono _ _ (of_decide_eq_true hkept))
  unfold TimeSyncRuntime.expire
  dsimp only
  rw [hclock]
  exact congrArg (fun sources => { rt with
    clock := rt.clock.pruneExpired later.ms, remoteSources := sources }) (hremote _)

theorem reconcilePendingRequest_eq (now : MonotonicTime) (leader : Option TimeSyncLeader)
    (rt : TimeSyncRuntime) : ∃ due pending, rt.reconcilePendingRequest now leader =
      { rt with nextRequestMonoMs := due, pendingRequest := pending } := by
  unfold reconcilePendingRequest
  split
  · exact ⟨_, _, rfl⟩
  · exact ⟨_, _, rfl⟩

/-- Where it is certain whether time is known, a refresh at `now` leads from `pre` to `post`,
and stays there; so do the announcements and requests of a poll. -/
structure Refreshes (B : Build) (now : MonotonicTime) (known : Bool)
    (pre post : TimeSyncRuntime → Prop) : Prop where
  le : ∀ rt, post rt → pre rt
  usable : ∀ rt, pre rt → (rt.expire now).hasUsableTime B now = .ok known
  follow : ∀ rt, pre rt → post ((rt.expire now).follow now known)
  announce : ∀ rt due, post rt → post { rt with nextAnnounceMonoMs := due }
  request : ∀ rt seq due pending, post rt → (remoteName (rt.leader now known)).isSome = true →
    post { rt with nextSeq := seq, nextRequestMonoMs := due, pendingRequest := some pending }

section Refreshing
variable {B : Build} {now : MonotonicTime} {known : Bool} {pre post : TimeSyncRuntime → Prop}
  (h : Refreshes B now known pre post)
include h

theorem refreshTimesyncState_apply {rt : TimeSyncRuntime} (hpre : pre rt) :
    refreshTimesyncState B now rt = ((rt.expire now).follow now known, .ok ()) := by
  rw [refreshTimesyncState, Program.modify_bind_apply, Program.read_bind_apply, h.usable rt hpre,
    Program.of_ok_bind_apply, Program.modify_apply]

theorem refreshTimesyncState_triple :
    Program.Triple pre (refreshTimesyncState B now) (fun _ => post) post := by
  intro rt hpre
  rw [refreshTimesyncState_apply h hpre]
  exact ⟨fun _ _ => h.follow rt hpre, fun _ _ => h.follow rt hpre⟩

theorem networkTime_triple : Program.Triple pre (networkTime B now) (fun _ => post) post := by
  refine (refreshTimesyncState_triple h).bind fun _ => Program.Keeps.triple ?_
  exact Program.Keeps.read.bind fun _ => .of _

theorem packetTimestampMs_triple :
    Program.Triple pre (packetTimestampMs B now) (fun _ => post) post :=
  ((networkTime_triple h).bind fun _ => (Program.Keeps.pure _).triple).bind
    fun _ => (Program.Keeps.pure _).triple

theorem takeAnnounce_keeps (cfg : TimeSyncConfig) :
    Program.Keeps post (takeAnnounce now cfg known) := by
  refine Program.Keeps.read.bind fun rt => ?_
  split
  · exact .pure _
  · refine .ite ((Program.Keeps.modify fun rt hrt => ?_).bind fun _ => .pure _) (.pure _)
    exact h.announce rt _ hrt

theorem takeRequest_keeps (cfg : TimeSyncConfig) :
    Program.Keeps post (takeRequest now cfg known) := by
  intro rt hrt
  rw [takeRequest, Program.read_bind_apply]
  cases hsource : remoteName (rt.leader now known) with
  | none => exact hrt
  | some source =>
    by_cases hdue : rt.nextRequestMonoMs ≤ now.ms ∧ rt.pendingRequest = none
    · simp only [if_pos hdue, Program.modify_bind_apply, Program.pure_apply]
      exact h.request rt _ _ _ hrt (by rw [hsource]; rfl)
    · simp only [if_neg hdue, Program.pure_apply]
      exact hrt

/-- A poll of a runtime with a configuration refreshes it. -/
theorem pollLocked_triple (hcfg : ∀ rt, pre rt → rt.cfg.isSome = true) :
    Program.Triple pre (pollLocked B now) (fun _ => post) post := by
  intro rt hpre
  obtain ⟨cfg, hcfg⟩ := Option.isSome_iff_exists.mp (hcfg rt hpre)
  have hexpired : (rt.expire now).cfg = some cfg := hcfg
  rw [pollLocked, Program.modify_bind_apply, Program.read_bind_apply, hexpired]
  dsimp only
  rw [h.usable rt hpre, Program.of_ok_bind_apply, Program.modify_bind_apply]
  have hrest := (takeAnnounce_keeps h cfg).bind fun announce =>
    (takeRequest_keeps h cfg).bind fun request =>
      Program.Keeps.pure (some (⟨announce, request⟩ : Due))
  exact hrest.triple _ (h.follow rt hpre)

variable {S : Schema} (t : TimeSyncTypes S.DataType) (sender : String)

theorem announcePacket_keeps (priority : UInt64) :
    Program.Keeps post (announcePacket B now t sender priority) :=
  Program.Keeps.bind (fun rt hrt => (packetTimestampMs_triple h).run (h.le rt hrt))
    fun _ => .of _

theorem requestPacket_keeps (request : UInt64 × UInt64) :
    Program.Keeps post (requestPacket B now t sender request) :=
  Program.Keeps.bind (fun rt hrt => (packetTimestampMs_triple h).run (h.le rt hrt))
    fun _ => .of _

end Refreshing
end TimeSyncRuntime

namespace TimeSyncRuntime
section Starting
variable (B : Build) {S : Schema} {t : TimeSyncTypes S.DataType} (now : MonotonicTime)
  {rt rt' : TimeSyncRuntime}

theorem noteSample_apply (cfg : TimeSyncConfig) (source : String) (priority sampleMs : UInt64)
    (rt : TimeSyncRuntime) : ∃ time, noteSample B now cfg source priority sampleMs rt =
      ((rt.keepSample now source priority sampleMs).keepSource now cfg source priority time,
        .ok ()) := by
  obtain ⟨time, htime⟩ := PartialNetworkTime.fromUnixMs_ok B sampleMs
  refine ⟨time, ?_⟩
  rw [noteSample, Program.modify_bind_apply, htime, Program.of_ok_bind_apply, Program.modify_apply]

/-- An announcement steers the clock when it is the leader's. -/
theorem handleAnnounce_apply {cfg : TimeSyncConfig} {tracker : TimeSyncTracker} {usable : Bool}
    {pkt : Packet S} {ann : TimeSyncAnnounceFields} (hann : decodeTimesyncAnnounce B t pkt = .ok ann)
    (rt : TimeSyncRuntime) : ∃ time, handleAnnounce B now t cfg tracker usable pkt rt =
      (steerIfLeading now (remoteName ((tracker.noteAnnounce pkt.sender ann now.ms).leader now.ms
        usable)) pkt.sender ann.timeMs >>= fun _ => pure (.goesOn none true))
        (((rt.withTracker (tracker.noteAnnounce pkt.sender ann now.ms)).keepSample now pkt.sender
          ann.priority ann.timeMs).keepSource now cfg pkt.sender ann.priority time) := by
  obtain ⟨time, hnoted⟩ := noteSample_apply B now cfg pkt.sender ann.priority ann.timeMs
    (rt.withTracker (tracker.noteAnnounce pkt.sender ann now.ms))
  refine ⟨time, ?_⟩
  rw [handleAnnounce, hann, Program.of_ok_bind_apply, Program.modify_bind_apply, Program.bind_apply_of_ok hnoted]

theorem takeSample_apply (cfg : TimeSyncConfig) (tracker : TimeSyncTracker) (source : String)
    (estimate : UInt64) (rt : TimeSyncRuntime) : ∃ time,
      takeSample B now cfg tracker source estimate rt =
        (answered (((rt.keepSample now source (rt.responsePriority now cfg tracker source)
          estimate).keepSource now cfg source (rt.responsePriority now cfg tracker source)
          time).steerTo now estimate), .ok (.goesOn none false)) := by
  obtain ⟨time, hnoted⟩ := noteSample_apply B now cfg source
    (rt.responsePriority now cfg tracker source) estimate rt
  refine ⟨time, ?_⟩
  rw [takeSample, Program.read_bind_apply, Program.bind_apply_of_ok hnoted, steer,
    Program.modify_bind_apply, Program.modify_bind_apply, Program.pure_apply]

/-- The packet that starts the clock leaves the sample it started it with. -/
theorem handleLocked_starts {cfg : TimeSyncConfig} {pkt : Packet S} {handled : Handled}
    (h : handleLocked B now t cfg pkt rt = (rt', .ok handled))
    (hoff : rt.disciplinedClock.initialized = false)
    (hon : rt'.disciplinedClock.initialized = true) :
    ∃ priority sampleMs, rt'.remoteSources[pkt.sender]? = some ⟨priority, now.ms, sampleMs⟩ ∧
      rt'.disciplinedClock = rt.disciplinedClock.steerUnixMs now.ns sampleMs := by
  have hsame : rt'.disciplinedClock ≠ rt.disciplinedClock := by
    intro heq
    rw [heq, hoff] at hon
    cases hon
  rw [handleLocked, Program.modify_bind_apply, Program.read_bind_apply] at h
  obtain ⟨rt₁, usable, husable, h⟩ := Program.bind_apply_eq_ok.mp h
  obtain ⟨rfl, -⟩ := Program.of_apply_eq_ok.mp husable
  cases htracker : (rt.expire now).tracker with
  | none =>
    rw [htracker] at h
    obtain ⟨rfl, -⟩ := Prod.mk.inj h
    exact (hsame rfl).elim
  | some tracker =>
    rw [htracker] at h
    dsimp only at h
    split at h
    · obtain ⟨rt₂, ann, hann, -⟩ := Program.bind_apply_eq_ok.mp h
      obtain ⟨-, hann⟩ := Program.of_apply_eq_ok.mp hann
      obtain ⟨time, hrun⟩ := handleAnnounce_apply B now hann (rt.expire now)
      rw [hrun, steerIfLeading] at h
      split at h
      · rw [steer, Program.modify_bind_apply] at h
        obtain ⟨rfl, -⟩ := Prod.mk.inj h
        exact ⟨ann.priority, ann.timeMs, Std.ExtTreeMap.getElem?_insert_self, rfl⟩
      · obtain ⟨rfl, -⟩ := Prod.mk.inj h
        exact (hsame rfl).elim
    · split at h
      · unfold handleRequest at h
        split at h
        · obtain ⟨rt₂, request, hrequest, h⟩ := Program.bind_apply_eq_ok.mp h
          obtain ⟨rfl, -⟩ := Program.of_apply_eq_ok.mp hrequest
          rw [Program.read_bind_apply] at h
          obtain ⟨rt₃, time, htime, h⟩ := Program.bind_apply_eq_ok.mp h
          obtain ⟨rfl, -⟩ := Program.of_apply_eq_ok.mp htime
          obtain ⟨rfl, -⟩ := Prod.mk.inj h
          exact (hsame rfl).elim
        · obtain ⟨rfl, -⟩ := Prod.mk.inj h
          exact (hsame rfl).elim
      · split at h
        · -- a response steers it when it answers the pending request
          obtain ⟨rt₂, response, hresponse, h⟩ := Program.bind_apply_eq_ok.mp h
          obtain ⟨rfl, -⟩ := Program.of_apply_eq_ok.mp hresponse
          rw [Program.read_bind_apply] at h
          cases hpending : (rt.expire now).pendingRequest.filter fun pending =>
              pending.seq == response.seq && pending.source == pkt.sender with
          | none =>
            rw [hpending] at h
            obtain ⟨rfl, -⟩ := Prod.mk.inj h
            exact (hsame rfl).elim
          | some pending =>
            rw [hpending] at h
            obtain ⟨time, htaken⟩ := takeSample_apply B now cfg tracker pkt.sender
              (computeNetworkTimeSample pending.t1MonoMs response.t2Ms response.t3Ms now.ms)
              (rt.expire now)
            have h := htaken.symm.trans h
            obtain ⟨rfl, -⟩ := Prod.mk.inj h
            exact ⟨_, _, Std.ExtTreeMap.getElem?_insert_self, rfl⟩
        · obtain ⟨rfl, -⟩ := Prod.mk.inj h
          exact (hsame rfl).elim

end Starting
end TimeSyncRuntime

namespace TimeSyncRouter
variable {S : Schema}

theorem onRuntime_triple {α : Type} {p : TimeSyncProgram α} {pre stop : TimeSyncRuntime → Prop}
    {post : α → TimeSyncRuntime → Prop} (h : Program.Triple pre p post stop) :
    Program.Triple (fun s : TimeSyncRouter S => pre s.runtime) (onRuntime p)
      (fun a s => post a s.runtime) (fun s => stop s.runtime) :=
  fun s hs => h s.runtime hs

theorem onRuntime_keeps {α : Type} {p : TimeSyncProgram α} {inv : TimeSyncRuntime → Prop}
    (h : Program.Keeps inv p) :
    Program.Keeps (fun s : TimeSyncRouter S => inv s.runtime) (onRuntime p) :=
  fun s hs => h s.runtime hs

theorem onRouter_keeps {α : Type} (p : RouterProgram S α) (inv : TimeSyncRuntime → Prop) :
    Program.Keeps (fun s : TimeSyncRouter S => inv s.runtime) (onRouter p) :=
  fun _ hs => hs

/-- The calls that only read the clock, or poll. -/
def Reading : TimeSyncCall S → Prop
  | .networkTime | .packetTimestamp | .pollTimesync => True
  | _ => False

section Refreshing
variable {B : Build} {t : TimeSyncTypes S.DataType} {w : RouterWorld S} {now : MonotonicTime}
  {report : Packet S → RouterProgram S Unit} {known : Bool} {pre post : TimeSyncRuntime → Prop}
  (h : TimeSyncRuntime.Refreshes B now known pre post)
include h

theorem queueDue_keeps (due : Option TimeSyncRuntime.Due) :
    Program.Keeps (fun s => post s.runtime) (queueDue B t w now due) := by
  have hannounce (priority : Option UInt64) :
      Program.Keeps (fun s : TimeSyncRouter S => post s.runtime)
        (queueAnnounce B t w now priority) := by
    cases priority with
    | none => exact .pure _
    | some priority =>
      exact (onRuntime_keeps (TimeSyncRuntime.announcePacket_keeps h t _ priority)).bind
        fun pkt => (onRouter_keeps _ post).bind fun _ => .pure _
  have hrequest (request : Option (UInt64 × UInt64)) :
      Program.Keeps (fun s : TimeSyncRouter S => post s.runtime)
        (queueRequest B t w now request) := by
    cases request with
    | none => exact .pure _
    | some request =>
      exact (onRuntime_keeps (TimeSyncRuntime.requestPacket_keeps h t _ request)).bind
        fun pkt => (onRouter_keeps _ post).bind fun _ => .pure _
  cases due with
  | none => exact .pure _
  | some due =>
    exact (hannounce due.announce).bind fun _ => (hrequest due.request).bind fun _ => .pure _

theorem pollTimesync_triple (hcfg : ∀ rt, pre rt → rt.cfg.isSome = true) :
    Program.Triple (fun s => pre s.runtime) (pollTimesync B t w now) (fun _ s => post s.runtime)
      (fun s => post s.runtime) :=
  (onRuntime_triple (TimeSyncRuntime.pollLocked_triple h hcfg)).bind
    fun due => (queueDue_keeps h due).triple

/-- A reading call leads to what a refresh leads to. -/
theorem call_triple (hcfg : ∀ rt, pre rt → rt.cfg.isSome = true) (built : Option TimeSyncConfig)
    {c : TimeSyncCall S} (hc : Reading c) :
    Program.Triple (fun s => pre s.runtime) (call B t w now report built c)
      (fun _ s => post s.runtime) (fun s => post s.runtime) := by
  cases c with
  | networkTime =>
    exact (onRuntime_triple (TimeSyncRuntime.networkTime_triple h)).bind
      fun _ => (Program.Keeps.pure _).triple
  | packetTimestamp =>
    exact (onRuntime_triple (TimeSyncRuntime.packetTimestampMs_triple h)).bind
      fun _ => (Program.Keeps.pure _).triple
  | pollTimesync => exact (pollTimesync_triple h hcfg).bind fun _ => (Program.Keeps.pure _).triple
  | setTimesyncConfig cfg => exact hc.elim
  | handle pkt src calledFromQueue => exact hc.elim

end Refreshing
end TimeSyncRouter
end Sedsprintf
