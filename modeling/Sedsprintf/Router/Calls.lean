import Sedsprintf.Router.Effects

/-!
# Calls into a router

src/router.rs:3412-3480, 3694-4066, 4271-4580 and 5632-5800: what the application, the links
and the callbacks ask of a router. A call that processes a queue is one turn of the loop;
`poll_discovery` and `announce_discovery` are their parts one after the other. A callback that
calls the router does so while the call that reached it is still under way.
-/
namespace Sedsprintf

open Lib

inductive RouterCall (S : Schema) where
  /-- `tx`, `tx_serialized` and `log`. -/
  | tx (data : RouterItem S)
  /-- `tx_queue`, and the same calls while a TX callback is on the stack. -/
  | txQueue (data : RouterItem S)
  /-- `rx_from_side` and its siblings. -/
  | rx (item : RouterRxItem S)
  | rxQueue (item : RouterRxItem S)
  | processTx
  /-- With the item at the front of the interrupt queue, if there is one. -/
  | processRx (isr : Option (RouterRxItem S))
  /-- `poll_timesync`, which queues what the time-sync runtime asks for. -/
  | pollTimesync (queued : List (RouterItem S))
  | pruneDiscoveryRoutes
  | reconcileEndToEndReliableDestinations
  | fitDiscoveryBudget
  /-- A packet of `queue_discovery_announce`. -/
  | queueDiscoveryAnnounce (dst : Nat) (pkt : Packet S)
  | clearQueues
  | clearRxQueue
  | clearTxQueue
  | addSide (side : Side)
  | removeSide (side : Nat)
  | setSideIngressEnabled (side : Nat) (enabled : Bool)
  | setSideEgressEnabled (side : Nat) (enabled : Bool)
  | setSourceRouteMode (src : Option Nat) (mode : RouteSelectionMode)
  | setRouteWeight (key : RouteKey) (weight : Option UInt32)
  | setRoutePriority (key : RouteKey) (priority : Option UInt32)
  | setRoute (key : RouteKey) (enabled : Option Bool)
  | setTypedRoute (key : TypedRouteKey S) (enabled : Option Bool)

namespace RouterProgram
variable {S : Schema} (B : Build) (w : RouterWorld S)

/-- A change of the inner state that may be refused. -/
def changeInner (change : RouterInner S → Outcome (RouterInner S)) : RouterProgram S Unit :=
  fun s =>
  match change s.inner with
  | .error e => (s, .error e)
  | .ok inner => ({ s with inner := inner }, .ok ())

/-- `remove_side`. -/
def removeSide (side : Nat) : RouterProgram S Unit := do
  changeInner fun st => st.removeSide B side
  Program.modify fun s => { s with table := s.table.removeSide side }

/-- A setter of the route rules, behind its checks. -/
def setRule (src dst : Option Nat) (set : RoutingTable S → RoutingTable S) :
    RouterProgram S Unit := do
  let s ← Program.read
  Program.of (RoutingTable.checkRoute s.inner.sides src dst)
  Program.modify fun s => { s with table := set s.table }

end RouterProgram

namespace RouterCall
variable {S : Schema} (B : Build) (w : RouterWorld S) (depth : Nat)

def run : RouterCall S → RouterProgram S Unit
  | .tx data =>
    RouterProgram.txItemImpl B w (RouterProgram.reportError B w depth) (.broadcast data) false
  | .txQueue data => RouterProgram.txQueueItemWithFlags B (.broadcast data) false
  | .rx item => RouterProgram.rxItem B w (RouterProgram.reportError B w depth) item false
  | .rxQueue item => RouterProgram.onInner fun st => st.pushReceived B item
  | .processTx => RouterProgram.processTx B w (RouterProgram.reportError B w depth)
  | .processRx isr => RouterProgram.processRx B w (RouterProgram.reportError B w depth) isr
  | .pollTimesync queued =>
    Program.forEach (fun data => RouterProgram.txQueueItemWithFlags B (.broadcast data) false)
      queued
  | .pruneDiscoveryRoutes => RouterProgram.onInner fun st => (st.pruneDiscovery w.now, .ok ())
  | .reconcileEndToEndReliableDestinations => RouterProgram.reconcileEndToEnd B w
  | .fitDiscoveryBudget => RouterProgram.onInner fun st => (st.fitDiscoveryBudget B, .ok ())
  | .queueDiscoveryAnnounce dst pkt =>
    RouterProgram.txQueueItemWithFlags B (.toSide none dst (.packet pkt)) true
  | .clearQueues => RouterProgram.onInner fun st => (st.clearQueues, .ok ())
  | .clearRxQueue => RouterProgram.onInner fun st => (st.clearRxQueue, .ok ())
  | .clearTxQueue => RouterProgram.onInner fun st => (st.clearTxQueue, .ok ())
  | .addSide side =>
    RouterProgram.onInner fun st => ({ st with sides := st.sides ++ [some side] }, .ok ())
  | .removeSide side => RouterProgram.removeSide B side
  | .setSideIngressEnabled side enabled =>
    RouterProgram.changeInner fun st => st.setSideIngressEnabled side enabled
  | .setSideEgressEnabled side enabled =>
    RouterProgram.changeInner fun st => st.setSideEgressEnabled B side enabled
  | .setSourceRouteMode src mode =>
    RouterProgram.setRule src none fun table => table.setSourceRouteMode src mode
  | .setRouteWeight key weight =>
    RouterProgram.setRule key.src (some key.dst) fun table => table.setRouteWeight key weight
  | .setRoutePriority key priority =>
    RouterProgram.setRule key.src (some key.dst) fun table => table.setRoutePriority key priority
  | .setRoute key enabled =>
    RouterProgram.setRule key.src (some key.dst) fun table => table.setRoute key enabled
  | .setTypedRoute key enabled =>
    RouterProgram.setRule key.route.src (some key.route.dst)
      fun table => table.setTypedRoute key enabled

end RouterCall

/-- Callbacks do to the router what `r` relates, and TX callbacks reconfigure no sides. -/
structure RouterWorld.Reacts {S : Schema} (w : RouterWorld S)
    (r : RouterState S → RouterState S → Prop) : Prop where
  callbacks : ∀ callback s, r s (w.react callback s)
  sides : w.KeepsSides

/-- One call, in which callbacks do what `r` relates. -/
def RouterCall.Step {S : Schema} (B : Build) (r : RouterState S → RouterState S → Prop)
    (s s' : RouterState S) : Prop :=
  ∃ (w : RouterWorld S) (depth : Nat) (call : RouterCall S),
    w.Reacts r ∧ (call.run B w depth s).1 = s'

/-- A single-threaded run: call after call, each with whatever calls its callbacks make, to a
depth of `n`. -/
def RouterRun {S : Schema} (B : Build) (n : Nat) : RouterState S → RouterState S → Prop :=
  Layered (RouterCall.Step B) n

/-- A router as `new_with_clock` makes it. -/
def RouterState.initial {S : Schema} (inner : RouterInner S) : RouterState S :=
  ⟨inner, .empty, []⟩

end Sedsprintf
