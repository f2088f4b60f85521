import Sedsprintf.Router.Replays
import Sedsprintf.Relay.Replays
import Sedsprintf.Wire.RoundTrip

/-!
# The retransmit-queued flags

A set flag keeps every timeout and request from queueing the frame again, so it
has to stand for a replay that is really queued.
-/
namespace Sedsprintf

open Lib

/-- Along runs of safe steps the flags tell the truth: a router's hop and end-to-end
flags about its transmit queue, a relay's flags about its replay queue. -/
theorem replay_flags_truthful {B : Build} {S : Schema} :
    (∀ (reliable : Bool) (inner : RouterInner S) (s : RouterSystem S)
        (actions : List (RouterSystem.Action B S)), RouterInner.new B = .ok inner →
      Run (RouterSystem.step B reliable) (RouterSystem.FlagSafe B reliable) (.initial inner)
        actions s →
      (∀ (key : StreamKey S) (seq : UInt32) (sent : ReliableSent),
        (s.inner.reliableTx.at key).sent[seq]? = some sent →
          (sent.queued = true ↔ ∃ queued ∈ s.inner.transmitQueue.q,
            queued.item = .reliableReplay key.side sent.bytes)) ∧
      (∀ (packetId : UInt64) (sent : EndToEndReliableSent S),
        s.inner.endToEndReliableTx[packetId]? = some sent →
          (sent.queued = true ↔ ∃ queued ∈ s.inner.transmitQueue.q,
            queued.item = .endToEndReplay packetId))) ∧
    (∀ (inner : RelayInner S) (s : RelaySystem S) (actions : List (RelaySystem.Action B S)),
      RelayInner.new B = .ok inner →
      Run (RelaySystem.step B) (RelaySystem.FlagSafe B) (.initial inner) actions s →
      ∀ (key : StreamKey S) (seq : UInt32) (sent : ReliableSent),
        (s.inner.reliableTx.at key).sent[seq]? = some sent →
          (sent.queued = true ↔ ∃ item ∈ s.inner.replayQueue.q,
            item.dst = key.side ∧ item.bytes = sent.bytes)) := by
  refine ⟨fun reliable inner s actions hnew hrun => ?_, fun inner s actions hnew hrun => ?_⟩
  · have hledgers := RouterSystem.ledgers_of_run hnew hrun
    refine ⟨fun key seq sent hs => ?_, fun packetId sent hs => ?_⟩
    · rw [hledgers.hop.queued_iff hs]
      exact RouterInner.mem_replays_iff
    · have hflag : s.inner.endToEndFlag packetId = some sent.queued := by
        simp [RouterInner.endToEndFlag, hs]
      rw [hledgers.endToEnd.flagged hflag]
      exact RouterInner.mem_endToEndReplays_iff
  · intro key seq sent hs
    rw [(RelaySystem.ledger_of_run hnew hrun).queued_iff hs]
    simp [RelayInner.hop]

namespace RouterSystem
variable {B : Build} {S : Schema}

/-- A router without replays takes a side, a send, or a request it has room for. -/
def quietly (B : Build) (s : RouterSystem S) : Action B S → Bool
  | .addSide _ => true
  | .send .. => ((RouterInner.hop B).replays s.inner).isEmpty
  | .request key seq => ((RouterInner.hop B).replays s.inner).isEmpty &&
      s.inner.endToEndReplays.isEmpty &&
        match s.inner.reliableTx.queueReliableRetransmit key seq with
        | (_, none) => true
        | (streams, some bytes) =>
          decide (RouterInner.Admits B { s.inner with reliableTx := streams }
            ⟨.reliableReplay key.side bytes, true, bumpedPriority key.ty⟩)
  | _ => false

theorem flagSafe_of_quietly {reliable : Bool} (s : RouterSystem S) (a : Action B S)
    (h : s.quietly B a = true) : s.FlagSafe B reliable a := by
  cases a with
  | addSide side => trivial
  | send side data resident tx now =>
    intro ty _ r hr
    rw [List.isEmpty_iff.mp h] at hr
    cases hr
  | request key seq =>
    simp only [quietly, Bool.and_eq_true, List.isEmpty_iff] at h
    obtain ⟨⟨hreplays, hendToEnd⟩, hadmits⟩ := h
    simp only [FlagSafe, HopNode.RequestSafe]
    split
    · trivial
    · rename_i streams bytes hmark
      have hmark : s.inner.reliableTx.queueReliableRetransmit key seq = (streams, some bytes) := hmark
      rw [hmark] at hadmits
      refine ⟨of_decide_eq_true hadmits, ⟨fun r hr => ?_, fun id hid => ?_⟩⟩
      · rw [HopNode.replays_setStreams, hreplays] at hr
        cases hr
      · have hid : id ∈ s.inner.endToEndReplays := hid
        rw [hendToEnd] at hid
        cases hid
  | _ => cases h

end RouterSystem

/-- A fix goes out and is asked for again. -/
theorem replay_flags_truthful_gps :
    ∃ (inner : RouterInner defaultSchema) (s : RouterSystem defaultSchema) (sent : ReliableSent),
      RouterInner.new hostBuild = .ok inner ∧
      Run (RouterSystem.step hostBuild true) (RouterSystem.FlagSafe hostBuild true) (.initial inner)
        [.addSide .reliable, .send 0 (.packet gpsPacket) (by decide) (.accepting 0) 0,
          .request ⟨0, gpsPacket.ty⟩ 1] s ∧
      (s.inner.reliableTx.at ⟨0, gpsPacket.ty⟩).sent[(1 : UInt32)]? = some sent ∧
      sent.queued = true ∧
      ∃ queued ∈ s.inner.transmitQueue.q, queued.item = .reliableReplay 0 sent.bytes := by
  obtain ⟨inner, s, hnew, hsafe, hview⟩ := @System.run_of_checked defaultSchema _ _
    (RouterSystem.step hostBuild true) (RouterSystem.FlagSafe hostBuild true)
    [.addSide .reliable, .send 0 (.packet gpsPacket) (by decide) (.accepting 0) 0,
      .request ⟨0, gpsPacket.ty⟩ 1] _
    (fun s : RouterSystem defaultSchema =>
      (s.inner.reliableTx.at ⟨0, gpsPacket.ty⟩).sent[(1 : UInt32)]?.map (·.queued))
    (some true) (RouterInner.new hostBuild) (RouterSystem.quietly hostBuild)
    RouterSystem.flagSafe_of_quietly (by decide +kernel)
  obtain ⟨sent, hsent, hqueued⟩ := Option.map_eq_some_iff.mp hview
  have htruth := (replay_flags_truthful.1 true inner s _ hnew hsafe).1 ⟨0, gpsPacket.ty⟩ 1 sent hsent
  exact ⟨inner, s, sent, hnew, hsafe, hsent, hqueued, htruth.mp hqueued⟩

/-- The same request, and then `clear_tx_queue`: the flag stands and nothing is
queued. -/
theorem replay_flag_stuck_after_clear :
    ∃ (inner : RouterInner defaultSchema) (s : RouterSystem defaultSchema) (sent : ReliableSent),
      RouterInner.new hostBuild = .ok inner ∧
      Run (RouterSystem.step hostBuild true) anyStep (.initial inner)
        [.addSide .reliable, .send 0 (.packet gpsPacket) (by decide) (.accepting 0) 0,
          .request ⟨0, gpsPacket.ty⟩ 1, .clearTxQueue] s ∧
      (s.inner.reliableTx.at ⟨0, gpsPacket.ty⟩).sent[(1 : UInt32)]? = some sent ∧
      ¬(sent.queued = true ↔ ∃ queued ∈ s.inner.transmitQueue.q,
        queued.item = .reliableReplay 0 sent.bytes) := by
  obtain ⟨inner, s, hnew, hrun, hview⟩ := @System.run_of_execute defaultSchema _ _
    (RouterSystem.step hostBuild true)
    [.addSide .reliable, .send 0 (.packet gpsPacket) (by decide) (.accepting 0) 0,
      .request ⟨0, gpsPacket.ty⟩ 1, .clearTxQueue] _
    (fun s : RouterSystem defaultSchema =>
      ((s.inner.reliableTx.at ⟨0, gpsPacket.ty⟩).sent[(1 : UInt32)]?.map (·.queued),
        s.inner.transmitQueue.q.length))
    (some true, 0) (RouterInner.new hostBuild) (by decide +kernel)
  obtain ⟨hsent, hlength⟩ := Prod.mk.inj hview
  obtain ⟨sent, hsent, hqueued⟩ := Option.map_eq_some_iff.mp hsent
  refine ⟨inner, s, sent, hnew, hrun, hsent, fun htruth => ?_⟩
  obtain ⟨queued, hmem, -⟩ := htruth.mp hqueued
  rw [List.eq_nil_of_length_eq_zero hlength] at hmem
  cases hmem

end Sedsprintf
