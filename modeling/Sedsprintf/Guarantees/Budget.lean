import Sedsprintf.Router.Moves
import Sedsprintf.Relay.Moves

/-!
# The shared queue budget

The queues, the ids, the reorder buffers and the route cache of a node draw on one
`MAX_QUEUE_BUDGET`. The reservation of the ids fits it wherever a node can be built
at all, since `BoundedDeque::new` refuses an empty budget.
-/
namespace Sedsprintf

open Lib

/-- A reachable router or relay is within the budget, and from any state the loop of
`make_shared_queue_room` ends after as many turns as there are items. -/
theorem shared_budget_holds {B : Build} {S : Schema} :
    (∀ (reliable : Bool) (inner : RouterInner S) (s : RouterSystem S)
        (actions : List (RouterSystem.Action B S)), RouterInner.new B = .ok inner →
      Run (RouterSystem.step B reliable) anyStep (.initial inner) actions s →
      s.inner.sharedQueueBytesUsed B ≤ B.maxQueueBudget) ∧
    (∀ (inner : RelayInner S) (s : RelaySystem S) (actions : List (RelaySystem.Action B S)),
      RelayInner.new B = .ok inner → Run (RelaySystem.step B) anyStep (.initial inner) actions s →
      s.inner.sharedQueueBytesUsed B ≤ B.maxQueueBudget) ∧
    (∀ (st : RouterInner S) (cost : Nat) (preferred : StoreKind RouterQueueKind),
      ((Stores.budget B B.wordSize (RouterQueues.set B)).makeRoom B.maxQueueBudget cost preferred
        (Stores.sharedItems (RouterQueues.set B) st.stores + 1) st.stores).2 ≠ .unfinished) ∧
    (∀ (st : RelayInner S) (cost : Nat) (preferred : StoreKind RelayQueueKind),
      ((Stores.budget B 0 (RelayQueues.set B)).makeRoom B.maxQueueBudget cost preferred
        (Stores.sharedItems (RelayQueues.set B) st.stores + 1) st.stores).2 ≠ .unfinished) := by
  refine ⟨fun reliable inner s actions hnew hrun => ?_, fun inner s actions hnew hrun => ?_,
    fun st cost preferred => ?_, fun st cost preferred => ?_⟩
  · exact (RouterSystem.kept_of_run hnew hrun).within
  · exact (RelaySystem.kept_of_run hnew hrun).within
  · exact Stores.makeRoom_finishes B B.wordSize st.stores cost preferred
  · exact Stores.makeRoom_finishes B 0 st.stores cost preferred

/-- A fix waits in the receive queue of a router and in the transmit queue of a relay. -/
theorem shared_budget_holds_gps :
    (∃ (inner : RouterInner defaultSchema) (s : RouterSystem defaultSchema),
      RouterInner.new hostBuild = .ok inner ∧
      Run (RouterSystem.step hostBuild true) anyStep (.initial inner)
        [.addSide .reliable, .pushReceived ⟨some 0, .packet gpsPacket, 2⟩] s ∧
      s.inner.receivedQueue.q.length = 1 ∧
      s.inner.sharedQueueBytesUsed hostBuild ≤ hostBuild.maxQueueBudget) ∧
    ∃ (inner : RelayInner defaultSchema) (s : RelaySystem defaultSchema),
      RelayInner.new hostBuild = .ok inner ∧
      Run (RelaySystem.step hostBuild) anyStep (.initial inner)
        [.addSide .reliable, .pushTx ⟨none, 0, .packet gpsPacket, 2⟩] s ∧
      s.inner.txQueue.q.length = 1 ∧
      s.inner.sharedQueueBytesUsed hostBuild ≤ hostBuild.maxQueueBudget := by
  constructor
  · obtain ⟨inner, s, hnew, hrun, hview⟩ := @System.run_of_execute defaultSchema _ _
      (RouterSystem.step hostBuild true)
      [.addSide .reliable, .pushReceived ⟨some 0, .packet gpsPacket, 2⟩] _
      (fun s : RouterSystem defaultSchema => s.inner.receivedQueue.q.length) 1
      (RouterInner.new hostBuild) (by decide +kernel)
    exact ⟨inner, s, hnew, hrun, hview, shared_budget_holds.1 true inner s _ hnew hrun⟩
  · obtain ⟨inner, s, hnew, hrun, hview⟩ := @System.run_of_execute defaultSchema _ _
      (RelaySystem.step hostBuild)
      [.addSide .reliable, .pushTx ⟨none, 0, .packet gpsPacket, 2⟩] _
      (fun s : RelaySystem defaultSchema => s.inner.txQueue.q.length) 1
      (RelayInner.new hostBuild) (by decide +kernel)
    exact ⟨inner, s, hnew, hrun, hview, shared_budget_holds.2.1 inner s _ hnew hrun⟩

end Sedsprintf
