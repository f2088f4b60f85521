import Sedsprintf.Router.TimeSync
import Sedsprintf.TimeSync.Exchange

/-!
# A router as the client of an exchange

src/router.rs:3410-3611. What the calls of a router do to its time-sync runtime is polling, reading
and handling, one after another at the instant of the call.
-/
namespace Sedsprintf

open Lib

namespace TimeSyncRouter
variable {S : Schema} {B : Build} {t : TimeSyncTypes S.DataType} {w : RouterWorld S}
  {now : MonotonicTime} {report : Packet S → RouterProgram S Unit} {cfg : TimeSyncConfig}
  {s : TimeSyncRouter S}

theorem runtime_onRuntime_bind {α β : Type} (p : TimeSyncProgram α)
    (f : α → TimeSyncRouterProgram S β) (s : TimeSyncRouter S) :
    ((onRuntime p >>= f) s).1.runtime =
      match (p s.runtime).2 with
      | .ok a => (f a { s with runtime := (p s.runtime).1 }).1.runtime
      | .error _ => (p s.runtime).1 := by
  cases hrun : p s.runtime with
  | mk rt result =>
    have happly : onRuntime p s = ({ s with runtime := rt }, result) := by rw [onRuntime, hrun]
    cases result with
    | ok a => rw [Program.bind_apply_of_ok happly]
    | error e => rw [Program.bind_apply_of_error happly]

theorem runtime_queueOwn_bind {β : Type} (pkt : Packet S) (b : β) (s : TimeSyncRouter S) :
    ((queueOwn B pkt >>= fun _ => (pure b : TimeSyncRouterProgram S β)) s).1.runtime = s.runtime := by
  rw [Program.fst_bind_pure]
  rfl

theorem runtime_queueAnnounce (due : TimeSyncRuntime.Due) (s : TimeSyncRouter S) :
    (queueAnnounce B t w now due.announce s).1.runtime =
      (TimeSyncRuntime.announceDue B now t w.cfg.sender due s.runtime).1 := by
  unfold TimeSyncRuntime.announceDue queueAnnounce
  cases due.announce with
  | none => rfl
  | some priority =>
    rw [Program.fst_bind_pure]
    simp only [runtime_onRuntime_bind, runtime_queueOwn_bind]
    split
    · rfl
    · rfl

theorem runtime_queueRequest (due : TimeSyncRuntime.Due) (s : TimeSyncRouter S) :
    (queueRequest B t w now due.request s).1.runtime =
      (TimeSyncRuntime.requestDue B now t w.cfg.sender due s.runtime).1 := by
  unfold TimeSyncRuntime.requestDue queueRequest
  cases due.request with
  | none => rfl
  | some request =>
    rw [Program.fst_bind_pure]
    simp only [runtime_onRuntime_bind, runtime_queueOwn_bind]
    split
    · rfl
    · rfl

/-- An announcement that is queued was made. -/
theorem announceDue_of_queueAnnounce {due : TimeSyncRuntime.Due} {s s' : TimeSyncRouter S} {b : Bool}
    (h : queueAnnounce B t w now due.announce s = (s', .ok b)) :
    (TimeSyncRuntime.announceDue B now t w.cfg.sender due s.runtime).2 = .ok () := by
  unfold queueAnnounce at h
  unfold TimeSyncRuntime.announceDue
  cases hdue : due.announce with
  | none => rfl
  | some priority =>
    rw [hdue] at h
    obtain ⟨s₁, pkt, hmade, -⟩ := Program.bind_apply_eq_ok.mp h
    obtain ⟨-, hpkt⟩ := Prod.mk.inj hmade
    cases hrun : TimeSyncRuntime.announcePacket B now t w.cfg.sender priority s.runtime with
    | mk rt result =>
      rw [hrun] at hpkt
      obtain rfl : result = .ok pkt := hpkt
      simp only [Program.bind_apply_of_ok hrun, Program.pure_apply]

/-- What a poll does to the runtime, whether what it makes can be queued or not. -/
theorem pollTimesync_runtime : ∃ room, (pollTimesync B t w now s).1.runtime =
    (TimeSyncRuntime.pollRequest B now t w.cfg.sender room s.runtime).1 := by
  rw [pollTimesync, runtime_onRuntime_bind]
  cases hpoll : TimeSyncRuntime.pollLocked B now s.runtime with
  | mk rt result =>
    cases result with
    | error e =>
      refine ⟨true, ?_⟩
      rw [TimeSyncRuntime.pollRequest, Program.bind_apply_of_error hpoll]
    | ok due =>
      cases due with
      | none =>
        refine ⟨true, ?_⟩
        rw [TimeSyncRuntime.pollRequest, Program.bind_apply_of_ok hpoll]
        rfl
      | some due =>
        cases hannounce : queueAnnounce B t w now due.announce { s with runtime := rt } with
        | mk s₁ announced =>
          have hstate := @runtime_queueAnnounce S B t w now due { s with runtime := rt }
          rw [hannounce] at hstate
          cases hdue : TimeSyncRuntime.announceDue B now t w.cfg.sender due rt with
          | mk rt₁ made =>
            rw [hdue] at hstate
            have hpolled (room : Bool) : TimeSyncRuntime.pollRequest B now t w.cfg.sender room
                s.runtime = ((TimeSyncRuntime.announceDue B now t w.cfg.sender due >>= fun _ =>
                  if room then TimeSyncRuntime.requestDue B now t w.cfg.sender due else pure none) :
                    TimeSyncProgram _) rt :=
              Program.bind_apply_of_ok hpoll
            cases announced with
            | error e =>
              refine ⟨false, ?_⟩
              have hstopped : (queueDue B t w now (some due) { s with runtime := rt }).1 = s₁ := by
                rw [queueDue, Program.bind_apply_of_error hannounce]
              dsimp only
              rw [hstopped, hpolled]
              cases made with
              | error e => rw [Program.bind_apply_of_error hdue, hstate]
              | ok u =>
                rw [Program.bind_apply_of_ok hdue, hstate]
                rfl
            | ok b =>
              refine ⟨true, ?_⟩
              have hmade := announceDue_of_queueAnnounce hannounce
              rw [hdue] at hmade
              obtain rfl : made = .ok () := hmade
              dsimp only
              rw [hpolled, Program.bind_apply_of_ok hdue, queueDue,
                Program.bind_apply_of_ok hannounce, Program.fst_bind_pure, runtime_queueRequest,
                hstate, if_pos rfl]

/-- The exchange leads from `start` to the runtime of the router, with `polls` at most. -/
def Exchanging (B : Build) (t : TimeSyncTypes S.DataType) (w : RouterWorld S) (cfg : TimeSyncConfig)
    (frame : TimeFrame) (start : TimeExchange S) (time polls : Nat) (s : TimeSyncRouter S) : Prop :=
  ∃ actions e, Run (TimeExchange.step t ⟨B, w.cfg.sender, cfg⟩) (TimeExchange.Proceeds t frame) start
    actions e ∧ e.client = s.runtime ∧ e.clock ≤ time ∧ e.polls ≤ polls ∧
      start.made.map Prod.fst ⊆ e.made.map Prod.fst

section Exchanging
variable {frame : TimeFrame} {start : TimeExchange S} {time polls : Nat}
  (hlasts : time ≤ frame.horizon) (hnow : now.ms = frame.monoMs time)

theorem exchanging_reads {α : Type} {p : TimeSyncProgram α}
    (hp : ∀ rt, (p rt).1 = (TimeSyncRuntime.networkTime B now rt).1) (hlasts : time ≤ frame.horizon)
    (hnow : now.ms = frame.monoMs time) :
    Program.Keeps (Exchanging B t w cfg frame start time polls) (onRuntime p) := by
  rintro s ⟨actions, e, hrun, hclient, hclock, hpolls, hmade⟩
  refine ⟨actions ++ [.read time now], { e with
    client := (TimeSyncRuntime.networkTime B now e.client).1, clock := time }, ?_, ?_,
    Nat.le_refl _, hpolls, hmade⟩
  · exact hrun.append (.cons ⟨hclock, hlasts, hnow⟩ rfl (.nil _))
  · rw [hclient]
    exact (hp s.runtime).symm

theorem exchanging_router {α : Type} (p : RouterProgram S α) :
    Program.Keeps (Exchanging B t w cfg frame start time polls) (onRouter p) := fun _ h => h

include hlasts hnow in
theorem exchanging_poll (hcount : polls + 2 < 2 ^ 64) (s : TimeSyncRouter S)
    (h : Exchanging B t w cfg frame start time polls s) :
    Exchanging B t w cfg frame start time (polls + 1) (pollTimesync B t w now s).1 := by
  obtain ⟨actions, e, hrun, hclient, hclock, hpolls, hmade⟩ := h
  obtain ⟨room, hpoll⟩ := @pollTimesync_runtime S B t w now s
  rw [Exchanging, hpoll, ← hclient]
  refine ⟨actions ++ [.poll time now room], _, hrun.append (.cons ?_ rfl (.nil _)), rfl,
    Nat.le_refl _, Nat.succ_le_succ hpolls, ?_⟩
  · exact ⟨hclock, hlasts, hnow, by omega⟩
  · rw [List.map_append]
    exact fun pkt hpkt => List.mem_append_right _ (hmade hpkt)

include hlasts hnow in
theorem exchanging_handle (pkt : Packet S)
    (hpkt : pkt.ty = t.response → pkt ∈ start.made.map Prod.fst) :
    Program.Keeps (Exchanging B t w cfg frame start time polls)
      (onRuntime (TimeSyncRuntime.handleLocked B now t cfg pkt)) := by
  rintro s ⟨actions, e, hrun, hclient, hclock, hpolls, hmade⟩
  refine ⟨actions ++ [.handle time now pkt], { e with
    client := (TimeSyncRuntime.handleLocked B now t cfg pkt e.client).1, clock := time }, ?_, ?_,
    Nat.le_refl _, hpolls, hmade⟩
  · exact hrun.append (.cons ⟨hclock, hlasts, hnow⟩ (if_pos fun hty => hmade (hpkt hty)) (.nil _))
  · rw [hclient]
    rfl

theorem Exchanging.more {s : TimeSyncRouter S} (h : Exchanging B t w cfg frame start time polls s) :
    Exchanging B t w cfg frame start time (polls + 1) s := by
  obtain ⟨actions, e, hrun, hclient, hclock, hpolls, hmade⟩ := h
  exact ⟨actions, e, hrun, hclient, hclock, hpolls.trans (Nat.le_succ _), hmade⟩

include hlasts hnow in
/-- Every call but a new configuration is an exchange of the runtime at that instant. -/
theorem exchanging_call (hcount : polls + 2 < 2 ^ 64) {c : TimeSyncCall S}
    (hc : ∀ cfg, c ≠ .setTimesyncConfig cfg) (hpkt : ∀ pkt src calledFromQueue,
      c = .handle pkt src calledFromQueue → pkt.ty = t.response → pkt ∈ start.made.map Prod.fst)
    (s : TimeSyncRouter S) (h : Exchanging B t w cfg frame start time polls s) :
    Exchanging B t w cfg frame start time (polls + 1) (call B t w now report (some cfg) c s).1 := by
  have htimestamp (rt : TimeSyncRuntime) : (TimeSyncRuntime.packetTimestampMs B now rt).1 =
      (TimeSyncRuntime.networkTime B now rt).1 := by
    rw [TimeSyncRuntime.packetTimestampMs, Program.fst_bind_pure, TimeSyncRuntime.networkTimeMs,
      Program.fst_bind_pure]
  have hpoll : Program.Triple (Exchanging B t w cfg frame start time polls)
      (pollTimesync B t w now) (fun _ => Exchanging B t w cfg frame start time (polls + 1))
      (Exchanging B t w cfg frame start time (polls + 1)) := fun s h =>
    ⟨fun _ _ => exchanging_poll hlasts hnow hcount s h,
      fun _ _ => exchanging_poll hlasts hnow hcount s h⟩
  cases c with
  | networkTime =>
    rw [call, Program.fst_bind_pure]
    exact (exchanging_reads (fun _ => rfl) hlasts hnow s h).more
  | packetTimestamp =>
    rw [call, Program.fst_bind_pure]
    exact (exchanging_reads htimestamp hlasts hnow s h).more
  | pollTimesync =>
    rw [call, Program.fst_bind_pure]
    exact exchanging_poll hlasts hnow hcount s h
  | setTimesyncConfig cfg => exact absurd rfl (hc cfg)
  | handle pkt src calledFromQueue =>
    rw [call, Program.fst_bind_pure]
    have hrespond (response : Option (TimeSyncRequestFields × UInt64)) :
        Program.Keeps (Exchanging B t w cfg frame start time polls)
          (queueResponse B t w now src response) := by
      cases response with
      | none => exact .pure ()
      | some response =>
        refine (exchanging_reads (fun rt => ?_) hlasts hnow).bind fun pkt => exchanging_router _
        cases hstamp : TimeSyncRuntime.packetTimestampMs B now rt with
        | mk rt' result =>
          rw [← htimestamp rt, hstamp, TimeSyncRuntime.responsePacket]
          cases result with
          | error e => rw [Program.bind_apply_of_error hstamp]
          | ok stamp => rw [Program.bind_apply_of_ok hstamp, Program.of_apply]
    have hafter (poll : Bool) : Program.Triple (Exchanging B t w cfg frame start time polls)
        (pollAfter B t w now poll) (fun _ => Exchanging B t w cfg frame start time (polls + 1))
        (Exchanging B t w cfg frame start time (polls + 1)) :=
      .ite (hpoll.bind fun _ => .pure fun _ h => h) (.pure fun _ h => h.more)
    have hsettle (handled : TimeSyncRuntime.Handled) :
        Program.Triple (Exchanging B t w cfg frame start time polls)
          (settleHandled B t w now report pkt src calledFromQueue handled)
          (fun _ => Exchanging B t w cfg frame start time (polls + 1))
          (Exchanging B t w cfg frame start time (polls + 1)) := by
      cases handled with
      | dropped => exact .pure fun _ h => h.more
      | goesOn response poll =>
        refine ((hrespond response).triple_of_le fun _ h => h.more).bind fun _ => ?_
        exact (hafter poll).bind fun _ => (exchanging_router _).triple
    have hlocked := @exchanging_handle S B t w now cfg frame start time polls hlasts hnow pkt
      (hpkt pkt src calledFromQueue rfl)
    exact ((hlocked.triple_of_le fun _ h => h.more).bind hsettle).run h

end Exchanging
end TimeSyncRouter
end Sedsprintf
