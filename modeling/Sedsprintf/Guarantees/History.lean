import Sedsprintf.Router.System
import Sedsprintf.Wire.RoundTrip

/-!
# The reliable history of a router

In every reachable state the two containers of each stream agree, whatever the
peer acknowledges, requests or loses.
-/
namespace Sedsprintf

open Lib

namespace RouterSystem
variable {B : Build} {S : Schema}

/-- As long as fewer than `2^32 - 1` frames were numbered on a stream, `sent_order`
is strictly increasing without repeats and lists the keys of `sent`, which are at
most `RELIABLE_MAX_PENDING`, all below `next_seq`, each the number in its frame's own
header, with at most `RELIABLE_MAX_RETRIES` retries. -/
theorem history_consistent {reliable : Bool} {inner : RouterInner S} {s : RouterSystem S}
    {actions : List (Action B S)} (hnew : RouterInner.new B = .ok inner)
    (hrun : Run (step B reliable) anyStep (.initial inner) actions s) (key : StreamKey S)
    (hframes : s.history.frames key < 2 ^ 32 - 1) :
    (s.inner.reliableTx.at key).sentOrder.Nodup ∧
      (s.inner.reliableTx.at key).Consistent B S key.ty := by
  have hconsistent := (sound_of_run hnew hrun).1.consistent key hframes
  exact ⟨hconsistent.sorted.imp UInt32.ne_of_lt, hconsistent⟩

/-- Two fixes go out, the second is acknowledged partially, the first is asked for
again, replayed, timed out and at last acknowledged. -/
theorem history_consistent_gps :
    ∃ inner s, RouterInner.new hostBuild = .ok inner ∧
      Run (step hostBuild true) anyStep (.initial inner)
        [.addSide .reliable,
          .send 0 (.packet gpsPacket) (by decide) (.accepting 0) 0,
          .send 0 (.packet gpsPacket) (by decide) (.accepting 10) 10,
          .partialAck ⟨0, gpsPacket.ty⟩ 2, .request ⟨0, gpsPacket.ty⟩ 1,
          .process (.accepting 20), .timeouts 1000, .ack ⟨0, gpsPacket.ty⟩ 1] s ∧
      (s.inner.reliableTx.at ⟨0, gpsPacket.ty⟩).sentOrder = [2] ∧
      (s.inner.reliableTx.at ⟨0, gpsPacket.ty⟩).Consistent hostBuild defaultSchema gpsPacket.ty := by
  obtain ⟨inner, s, hnew, hrun, hview⟩ := @System.run_of_execute defaultSchema _ _
    (step hostBuild true)
    [.addSide .reliable,
      .send 0 (.packet gpsPacket) (by decide) (.accepting 0) 0,
      .send 0 (.packet gpsPacket) (by decide) (.accepting 10) 10,
      .partialAck ⟨0, gpsPacket.ty⟩ 2, .request ⟨0, gpsPacket.ty⟩ 1,
      .process (.accepting 20), .timeouts 1000, .ack ⟨0, gpsPacket.ty⟩ 1] _
    (fun s : RouterSystem defaultSchema => (s.history.frames ⟨0, gpsPacket.ty⟩,
      (s.inner.reliableTx.at ⟨0, gpsPacket.ty⟩).sentOrder)) (2, [2]) (RouterInner.new hostBuild)
    (by decide +kernel)
  obtain ⟨hframes, horder⟩ := Prod.mk.inj hview
  refine ⟨inner, s, hnew, hrun, horder, ?_⟩
  exact (history_consistent hnew hrun ⟨0, gpsPacket.ty⟩ (by rw [hframes]; decide)).2

end RouterSystem
end Sedsprintf
