import Sedsprintf.Stores.Eviction
import Sedsprintf.Router.Moves
import Sedsprintf.Relay.Moves

/-!
# What a push costs

`push_back_prioritized` never drops a higher priority for a lower one and refuses
before it drops. The shared budget in front of it pops the front of a queue, which
is its highest priority, and compares an item with the whole budget although the
reservation of the ids is never given back.
-/
namespace Sedsprintf

open Lib

/-- An accepted push respects priorities exactly when its queue holds nothing of higher
priority or the other stores pay for its room. -/
theorem push_respects_priority_iff {B : Build} {S : Schema} {reliable : Bool}
    {inner : RouterInner S} {s : RouterSystem S} {actions : List (RouterSystem.Action B S)}
    (hnew : RouterInner.new B = .ok inner)
    (hrun : Run (RouterSystem.step B reliable) anyStep (.initial inner) actions s) :
    (∀ queued : TxQueued S, (s.inner.pushTransmit B queued).2 = .ok () →
      (RespectsPriority (fun queued => queued.priority) queued s.inner.transmitQueue.q
          (s.inner.pushTransmit B queued).1.transmitQueue.q ↔
        (∀ w ∈ s.inner.transmitQueue.q, w.priority ≤ queued.priority) ∨
        Stores.sharedQueueBytesUsed B B.wordSize (RouterQueues.set B)
            (Stores.spared B B.wordSize (RouterQueues.set B) (.queue .transmit) s.inner.stores) +
          queued.byteCost B ≤ B.maxQueueBudget)) ∧
    (∀ item : RouterRxItem S, (s.inner.pushReceived B item).2 = .ok () →
      (RespectsPriority (fun item => item.priority) item s.inner.receivedQueue.q
          (s.inner.pushReceived B item).1.receivedQueue.q ↔
        (∀ w ∈ s.inner.receivedQueue.q, w.priority ≤ item.priority) ∨
        Stores.sharedQueueBytesUsed B B.wordSize (RouterQueues.set B)
            (Stores.spared B B.wordSize (RouterQueues.set B) (.queue .received) s.inner.stores) +
          item.byteCost B ≤ B.maxQueueBudget)) := by
  have hkept := RouterSystem.kept_of_run hnew hrun
  refine ⟨fun queued hok => ?_, fun item hok => ?_⟩
  · rw [RouterInner.pushTransmit_eq] at hok ⊢
    exact @Stores.push_respects_iff _ _ S B B.wordSize (RouterQueues.set B) s.inner.stores _
      (RouterQueues.bank B) .transmit hkept queued hok
  · rw [RouterInner.pushReceived_eq] at hok ⊢
    exact @Stores.push_respects_iff _ _ S B B.wordSize (RouterQueues.set B) s.inner.stores _
      (RouterQueues.bank B) .received hkept item hok

/-- A fix is sent, asked for again, and its replay waits in front of ordinary traffic. -/
def askedAgain (B : Build) (resident : (RouterItem.packet gpsPacket).Resident B) :
    List (RouterSystem.Action B defaultSchema) :=
  [.addSide .reliable, .send 0 (.packet gpsPacket) resident (.accepting 0) 0,
    .request ⟨0, gpsPacket.ty⟩ 1]

/-- The same fix as ordinary traffic. -/
def gpsBroadcast : TxQueued defaultSchema :=
  ⟨.broadcast (.packet gpsPacket), false, defaultSchema.messagePriority gpsPacket.ty⟩

/-- With room for both, the replay stays. -/
theorem push_respects_priority_gps :
    ∃ (inner : RouterInner defaultSchema) (s : RouterSystem defaultSchema),
      RouterInner.new hostBuild = .ok inner ∧
      Run (RouterSystem.step hostBuild true) anyStep (.initial inner)
        (askedAgain hostBuild (by decide)) s ∧
      s.inner.transmitQueue.q.length = 1 ∧
      (s.inner.pushTransmit hostBuild gpsBroadcast).2 = .ok () ∧
      RespectsPriority (fun queued => queued.priority) gpsBroadcast s.inner.transmitQueue.q
        (s.inner.pushTransmit hostBuild gpsBroadcast).1.transmitQueue.q := by
  obtain ⟨inner, s, hnew, hrun, hview⟩ := @System.run_of_execute defaultSchema _ _
    (RouterSystem.step hostBuild true) (askedAgain hostBuild (by decide)) _
    (fun s : RouterSystem defaultSchema =>
      (s.inner.transmitQueue.q.length, (s.inner.pushTransmit hostBuild gpsBroadcast).2.toOption,
        decide (Stores.sharedQueueBytesUsed hostBuild 8 (RouterQueues.set hostBuild)
            (Stores.spared hostBuild 8 (RouterQueues.set hostBuild) (.queue .transmit)
              s.inner.stores) + gpsBroadcast.byteCost hostBuild ≤ hostBuild.maxQueueBudget)))
    (1, some (), true) (RouterInner.new hostBuild) (by decide +kernel)
  obtain ⟨hlength, hview⟩ := Prod.mk.inj hview
  obtain ⟨hok, hpaid⟩ := Prod.mk.inj hview
  have hok := toOption_eq_some.mp hok
  refine ⟨inner, s, hnew, hrun, hlength, hok, ?_⟩
  exact ((push_respects_priority_iff hnew hrun).1 gpsBroadcast hok).mpr
    (.inr (of_decide_eq_true hpaid))

/-- A budget of 200 bytes beside the ids. -/
def tightBuild : Build := { hostBuild with maxQueueBudget := 1224 }

/-- Without, the replay is dropped for ordinary traffic of lower priority. -/
theorem push_drops_higher_priority :
    ∃ (inner : RouterInner defaultSchema) (s : RouterSystem defaultSchema),
      RouterInner.new tightBuild = .ok inner ∧
      Run (RouterSystem.step tightBuild true) anyStep (.initial inner)
        (askedAgain tightBuild (by decide)) s ∧
      (s.inner.pushTransmit tightBuild gpsBroadcast).2 = .ok () ∧
      ¬RespectsPriority (fun queued => queued.priority) gpsBroadcast s.inner.transmitQueue.q
        (s.inner.pushTransmit tightBuild gpsBroadcast).1.transmitQueue.q := by
  obtain ⟨inner, s, hnew, hrun, hview⟩ := @System.run_of_execute defaultSchema _ _
    (RouterSystem.step tightBuild true) (askedAgain tightBuild (by decide)) _
    (fun s : RouterSystem defaultSchema =>
      ((s.inner.pushTransmit tightBuild gpsBroadcast).2.toOption,
        (s.inner.pushTransmit tightBuild gpsBroadcast).1.transmitQueue.q.countP
          fun w => gpsBroadcast.priority < w.priority,
        s.inner.transmitQueue.q.countP fun w => gpsBroadcast.priority < w.priority))
    (some (), 0, 1) (RouterInner.new tightBuild) (by decide +kernel)
  obtain ⟨hok, hview⟩ := Prod.mk.inj hview
  obtain ⟨hafter, hbefore⟩ := Prod.mk.inj hview
  refine ⟨inner, s, hnew, hrun, toOption_eq_some.mp hok, fun hrespects => ?_⟩
  have hcount := hrespects.countP_eq
  rw [hafter, hbefore] at hcount
  cases hcount

/-- A rejected push leaves the five stores alone exactly when nothing is taken for it
before. -/
theorem rejected_push_keeps_iff {B : Build} {S : Schema} :
    (∀ (reliable : Bool) (inner : RouterInner S) (s : RouterSystem S)
        (actions : List (RouterSystem.Action B S)), RouterInner.new B = .ok inner →
      Run (RouterSystem.step B reliable) anyStep (.initial inner) actions s →
      (∀ queued : TxQueued S,
        ((∃ e, (s.inner.pushTransmit B queued).2 = fail e) →
            s.inner.stores.Same (s.inner.pushTransmit B queued).1.stores) ↔
          s.inner.stores.RejectsSafely B B.wordSize (RouterQueues.bank B) .transmit queued) ∧
      (∀ item : RouterRxItem S,
        ((∃ e, (s.inner.pushReceived B item).2 = fail e) →
            s.inner.stores.Same (s.inner.pushReceived B item).1.stores) ↔
          s.inner.stores.RejectsSafely B B.wordSize (RouterQueues.bank B) .received item) ∧
      (∀ (key : StreamKey S) (seq : UInt32) (bytes : List UInt8),
        ((∃ e, (s.inner.bufferReliableRx B key seq bytes).2 = fail e) →
            s.inner.stores.Same (s.inner.bufferReliableRx B key seq bytes).1.stores) ↔
          s.inner.stores.BuffersSafely B B.wordSize (RouterQueues.set B) key seq bytes)) ∧
    (∀ (inner : RelayInner S) (s : RelaySystem S) (actions : List (RelaySystem.Action B S)),
      RelayInner.new B = .ok inner → Run (RelaySystem.step B) anyStep (.initial inner) actions s →
      (∀ item : RelayTxItem S,
        ((∃ e, (s.inner.pushTx B item).2 = fail e) →
            s.inner.stores.Same (s.inner.pushTx B item).1.stores) ↔
          s.inner.stores.RejectsSafely B 0 (RelayQueues.bank B) .tx item) ∧
      (∀ item : RelayRxItem S,
        ((∃ e, (s.inner.pushRx B item).2 = fail e) →
            s.inner.stores.Same (s.inner.pushRx B item).1.stores) ↔
          s.inner.stores.RejectsSafely B 0 (RelayQueues.bank B) .rx item) ∧
      (∀ item : RelayReplayItem,
        ((∃ e, (s.inner.pushReplay B item).2 = fail e) →
            s.inner.stores.Same (s.inner.pushReplay B item).1.stores) ↔
          s.inner.stores.RejectsSafely B 0 (RelayQueues.bank B) .replay item) ∧
      (∀ (key : StreamKey S) (seq : UInt32) (bytes : List UInt8),
        ((∃ e, (s.inner.bufferReliableRx B key seq bytes).2 = fail e) →
            s.inner.stores.Same (s.inner.bufferReliableRx B key seq bytes).1.stores) ↔
          s.inner.stores.BuffersSafely B 0 (RelayQueues.set B) key seq bytes)) := by
  refine ⟨fun reliable inner s actions hnew hrun => ?_, fun inner s actions hnew hrun => ?_⟩
  · have hkept := RouterSystem.kept_of_run hnew hrun
    refine ⟨fun queued => ?_, fun item => ?_, fun key seq bytes => ?_⟩
    · rw [RouterInner.pushTransmit_eq]
      exact Stores.push_same_iff hkept .transmit queued
    · rw [RouterInner.pushReceived_eq]
      exact Stores.push_same_iff hkept .received item
    · exact Stores.bufferReliableRx_same_iff (RouterQueues.bank B) hkept.toBudgeted key seq bytes
  · have hkept := RelaySystem.kept_of_run hnew hrun
    refine ⟨fun item => ?_, fun item => ?_, fun item => ?_, fun key seq bytes => ?_⟩
    · rw [RelayInner.pushTx_eq]
      exact Stores.push_same_iff hkept .tx item
    · rw [RelayInner.pushRx_eq]
      exact Stores.push_same_iff hkept .rx item
    · rw [RelayInner.pushReplay_eq]
      exact Stores.push_same_iff hkept .replay item
    · exact Stores.bufferReliableRx_same_iff (RelayQueues.bank B) hkept.toBudgeted key seq bytes

/-- A budget of 76 bytes beside the ids. -/
def narrowBuild : Build := { hostBuild with maxQueueBudget := 1100 }

/-- The fix is smaller than the budget and larger than what the ids leave of it: the
replay is dropped, and then the fix is refused. -/
theorem rejected_push_drops_replay :
    ∃ (inner : RouterInner defaultSchema) (s : RouterSystem defaultSchema),
      RouterInner.new narrowBuild = .ok inner ∧
      Run (RouterSystem.step narrowBuild true) anyStep (.initial inner)
        (askedAgain narrowBuild (by decide)) s ∧
      (∃ e, (s.inner.pushTransmit narrowBuild gpsBroadcast).2 = fail e) ∧
      ¬s.inner.stores.Same (s.inner.pushTransmit narrowBuild gpsBroadcast).1.stores := by
  obtain ⟨inner, s, hnew, hrun, hview⟩ := @System.run_of_execute defaultSchema _ _
    (RouterSystem.step narrowBuild true) (askedAgain narrowBuild (by decide)) _
    (fun s : RouterSystem defaultSchema =>
      (decide ((s.inner.pushTransmit narrowBuild gpsBroadcast).2 =
          fail (.packetTooLarge "Item exceeds maximum shared queue budget")),
        (s.inner.pushTransmit narrowBuild gpsBroadcast).1.transmitQueue.q.length,
        s.inner.transmitQueue.q.length))
    (true, 0, 1) (RouterInner.new narrowBuild) (by decide +kernel)
  obtain ⟨herr, hview⟩ := Prod.mk.inj hview
  obtain ⟨hafter, hbefore⟩ := Prod.mk.inj hview
  refine ⟨inner, s, hnew, hrun, ⟨_, of_decide_eq_true herr⟩, fun hsame => ?_⟩
  have hqueues := congrArg (fun queues => queues.transmitQueue.q.length) hsame.queues
  change (s.inner.pushTransmit narrowBuild gpsBroadcast).1.transmitQueue.q.length =
    s.inner.transmitQueue.q.length at hqueues
  rw [hafter, hbefore] at hqueues
  cases hqueues

/-- With the whole budget a fix is never refused, so nothing can be lost to a refusal. -/
theorem rejected_push_keeps_gps :
    ∃ (inner : RouterInner defaultSchema) (s : RouterSystem defaultSchema),
      RouterInner.new hostBuild = .ok inner ∧
      Run (RouterSystem.step hostBuild true) anyStep (.initial inner)
        (askedAgain hostBuild (by decide)) s ∧
      ((∃ e, (s.inner.pushTransmit hostBuild gpsBroadcast).2 = fail e) →
        s.inner.stores.Same (s.inner.pushTransmit hostBuild gpsBroadcast).1.stores) := by
  obtain ⟨inner, s, hnew, hrun, hview⟩ := @System.run_of_execute defaultSchema _ _
    (RouterSystem.step hostBuild true) (askedAgain hostBuild (by decide)) _
    (fun s : RouterSystem defaultSchema =>
      decide (s.inner.sharedQueueBytesUsed hostBuild + gpsBroadcast.byteCost hostBuild ≤
        hostBuild.maxQueueBudget))
    true (RouterInner.new hostBuild) (by decide +kernel)
  refine ⟨inner, s, hnew, hrun, ?_⟩
  exact ((rejected_push_keeps_iff.1 true inner s _ hnew hrun).1 gpsBroadcast).mpr
    (.inr (.inl (of_decide_eq_true hview)))

end Sedsprintf
