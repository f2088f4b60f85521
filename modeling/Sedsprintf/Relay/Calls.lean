import Sedsprintf.Relay.Machine

/-!
# Calls into a relay

src/relay.rs:687-727, 1857-1995, 2214-2545, 2620-2672 and 3020-3180: what the application, the
links and the callbacks ask of a relay. A call that processes a queue is one turn of the loop;
`poll_discovery` and `announce_discovery` are their parts one after the other. A callback that
calls the relay does so while the call that reached it is still under way.
-/
namespace Sedsprintf

open Lib

inductive RelayCall (S : Schema) where
  /-- `rx_from_side` and `rx_serialized_from_side`. -/
  | rxFromSide (src : Nat) (data : RouterItem S)
  | processRx
  | processTx
  | processAll (timeUp : Bool)
  | pruneDiscoveryRoutes
  | reconcileEndToEndAckedDestinations
  | fitDiscoveryBudget
  /-- A packet of `queue_discovery_announce`. -/
  | queueDiscoveryAnnounce (dst : Nat) (pkt : Packet S)
  | clearQueues
  | clearRxQueue
  | clearTxQueue
  | addSide (side : Side)
  | removeSide (side : Nat)
  | setSideIngressEnabled (side : Nat) (enabled : Bool)
  | setSideEgressEnabled (side : Nat) (enabled : Bool)
  | setSourceRouteMode (src : Option Nat) (mode : RouteSelectionMode)
  | setRouteWeight (key : RouteKey) (weight : Option UInt32)
  | setRoutePriority (key : RouteKey) (priority : Option UInt32)
  | setRoute (key : RouteKey) (enabled : Option Bool)
  | setTypedRoute (key : TypedRouteKey S) (enabled : Option Bool)

namespace RelayProgram
variable {S : Schema} (B : Build) (w : RelayWorld S)

/-- A change of the inner state that may be refused. -/
def changeInner (change : RelayInner S → Outcome (RelayInner S)) : RelayProgram S Unit :=
  fun s =>
  match change s.inner with
  | .error e => (s, .error e)
  | .ok inner => ({ s with inner := inner }, .ok ())

/-- `remove_side`. -/
def removeSide (side : Nat) : RelayProgram S Unit := do
  changeInner fun st => st.removeSide B side
  changeTable fun table => { table with toRoutingTable := table.toRoutingTable.removeSide side }

/-- A setter of the route rules, behind its checks. -/
def setRule (src dst : Option Nat) (set : RoutingTable S → RoutingTable S) :
    RelayProgram S Unit := do
  let s ← Program.read
  Program.of (RoutingTable.checkRoute s.inner.sides src dst)
  changeTable fun table => { table with toRoutingTable := set table.toRoutingTable }

/-- One packet of an announcement. -/
def queueDiscoveryAnnounce (dst : Nat) (pkt : Packet S) : RelayProgram S Unit := do
  let priority ← Program.of (itemPriority B (.packet pkt))
  onInner fun st => st.pushTx B ⟨none, dst, .packet pkt, priority⟩

end RelayProgram

namespace RelayCall
variable {S : Schema} (B : Build) (w : RelayWorld S)

def run : RelayCall S → RelayProgram S Unit
  | .rxFromSide src data => RelayProgram.rxFromSide B src data
  | .processRx => RelayProgram.receiveOne B w
  | .processTx => RelayProgram.txTurn B w
  | .processAll timeUp => RelayProgram.allTurn B w timeUp
  | .pruneDiscoveryRoutes => RelayProgram.onInner fun st => (st.pruneDiscovery w.now, .ok ())
  | .reconcileEndToEndAckedDestinations => Program.modify fun s => { s with
      table := RelayInner.reconcileEndToEndAckedDestinations s.table s.inner.discoveryRoutes }
  | .fitDiscoveryBudget => RelayProgram.onInner fun st => (st.fitDiscoveryBudget B, .ok ())
  | .queueDiscoveryAnnounce dst pkt => RelayProgram.queueDiscoveryAnnounce B dst pkt
  | .clearQueues => RelayProgram.onInner fun st => (st.clearQueues, .ok ())
  | .clearRxQueue => RelayProgram.onInner fun st => (st.clearRxQueue, .ok ())
  | .clearTxQueue => RelayProgram.onInner fun st => (st.clearTxQueue, .ok ())
  | .addSide side =>
    RelayProgram.onInner fun st => ({ st with sides := st.sides ++ [some side] }, .ok ())
  | .removeSide side => RelayProgram.removeSide B side
  | .setSideIngressEnabled side enabled =>
    RelayProgram.changeInner fun st => st.setSideIngressEnabled side enabled
  | .setSideEgressEnabled side enabled =>
    RelayProgram.changeInner fun st => st.setSideEgressEnabled B side enabled
  | .setSourceRouteMode src mode =>
    RelayProgram.setRule src none fun table => table.setSourceRouteMode src mode
  | .setRouteWeight key weight =>
    RelayProgram.setRule key.src (some key.dst) fun table => table.setRouteWeight key weight
  | .setRoutePriority key priority =>
    RelayProgram.setRule key.src (some key.dst) fun table => table.setRoutePriority key priority
  | .setRoute key enabled =>
    RelayProgram.setRule key.src (some key.dst) fun table => table.setRoute key enabled
  | .setTypedRoute key enabled =>
    RelayProgram.setRule key.route.src (some key.route.dst)
      fun table => table.setTypedRoute key enabled

end RelayCall

/-- One call, in which callbacks do what `r` relates. -/
def RelayCall.Step {S : Schema} (B : Build) (r : RelayState S → RelayState S → Prop)
    (s s' : RelayState S) : Prop :=
  ∃ (w : RelayWorld S) (call : RelayCall S),
    (∀ side wire t, r t (w.react side wire t)) ∧ (call.run B w s).1 = s'

/-- A single-threaded run: call after call, each with whatever calls its callbacks make, to a
depth of `n`. -/
def RelayRun {S : Schema} (B : Build) (n : Nat) : RelayState S → RelayState S → Prop :=
  Layered (RelayCall.Step B) n

/-- Calls one after the other, with one environment. -/
def RelayState.after {S : Schema} (B : Build) (w : RelayWorld S) (s : RelayState S)
    (calls : List (RelayCall S)) : RelayState S :=
  calls.foldl (fun s call => (call.run B w s).1) s

/-- They are a run where no callback calls the relay. -/
theorem RelayRun.after {S : Schema} {B : Build} {w : RelayWorld S}
    (hquiet : ∀ side wire t, w.react side wire t = t) (calls : List (RelayCall S))
    (s : RelayState S) : RelayRun B 1 s (s.after B w calls) := by
  induction calls generalizing s with
  | nil => exact Relation.ReflTransGen.refl
  | cons call rest ih =>
    have hstep : RelayCall.Step B (Layered (RelayCall.Step B) 0) s (call.run B w s).1 :=
      ⟨w, call, fun side wire t => (hquiet side wire t).symm, rfl⟩
    exact Relation.ReflTransGen.head hstep (ih _)

end Sedsprintf
