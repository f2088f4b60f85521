import Sedsprintf.Discovery.Announcing
import Sedsprintf.Router.Calls
import Sedsprintf.TimeSync.Runtime

/-!
# Routers that announce themselves

src/router.rs:2063-2091 and 4056-4066: what a router says of itself, and `announce_discovery`
and `poll_discovery` as calls beside the others. All they do to the router are calls it has anyway.
-/
namespace Sedsprintf

open Lib

/-- `local_discovery_endpoints`; `timeSync` is the endpoint of a router with time sync. -/
def RouterConfig.localDiscoveryEndpoints {S : Schema} (cfg : RouterConfig S)
    (timeSync : Option S.DataEndpoint) : List S.DataEndpoint :=
  sortDedup ((cfg.handlers.map EndpointHandler.endpoint ++ timeSync.toList).filter
    fun ep => !S.isDiscoveryEndpoint ep)

/-- `local_discovery_timesync_sources`. -/
def TimeSyncRuntime.localDiscoverySources (B : Build) (now : MonotonicTime) (sender : String)
    (rt : TimeSyncRuntime) : Outcome (List String) :=
  match rt.tracker with
  | none => .ok []
  | some tracker => do
    let usable ← rt.hasUsableTime B now
    .ok (if tracker.shouldServe now.ms usable then [sender] else [])

/-- What a call that announces finds besides the router. -/
structure RouterDiscovery (S : Schema) where
  types : DiscoveryTypes S.DataType
  discovery : S.DataEndpoint
  timeSync : Option S.DataEndpoint
  runtime : TimeSyncRuntime
  now : MonotonicTime

/-- What the router says of itself. -/
def RouterDiscovery.identity {S : Schema} (B : Build) (w : RouterWorld S)
    (env : RouterDiscovery S) : Outcome (DiscoveryIdentity S) := do
  let sources ← env.runtime.localDiscoverySources B env.now w.cfg.sender
  .ok ⟨w.cfg.sender, w.cfg.localDiscoveryEndpoints env.timeSync, sources⟩

namespace RouterState
variable {S : Schema} (B : Build) (w : RouterWorld S) (env : RouterDiscovery S)

theorem sides_reconcileEndToEnd (s : RouterState S) :
    (RouterProgram.reconcileEndToEnd B w s).1.inner.sides = s.inner.sides ∧
      (RouterProgram.reconcileEndToEnd B w s).1.table = s.table := by
  have hstores := (RouterInner.reconcileEndToEnd_frame (B := B) s.inner
    (s.inner.expectedOf B s.table w.now)).2.1
  exact ⟨congrArg (fun stores => stores.2.sides) hstores, rfl⟩

/-- The packet for a side that an item is. -/
def sidePacket? (queued : TxQueued S) : Option (Nat × Packet S) :=
  match queued.item with
  | .toSide _ dst (.packet pkt) => some (dst, pkt)
  | _ => none

theorem waiting_txQueueItem {side : Nat} {pkt : Packet S} {s s' : RouterState S}
    (h : RouterProgram.txQueueItemWithFlags B (.toSide none side (.packet pkt)) true s = (s', .ok ())) :
    (side, pkt) ∈ s'.inner.transmitQueue.q.filterMap sidePacket? := by
  obtain ⟨rfl, hresult⟩ := Prod.mk.inj h
  exact List.mem_filterMap.mpr ⟨_, RouterInner.pushTransmit_queued hresult, rfl⟩

theorem routeAllowed_congr {st st' : RouterInner S} (h : st'.sides = st.sides)
    (table : RoutingTable S) (src : Option Nat) (ty : Option S.DataType) :
    st'.routeAllowed table src ty = st.routeAllowed table src ty := by
  funext side
  rw [RouterInner.routeAllowed, RouterInner.routeAllowed, h]

/-- A router as a node that announces `me`. -/
def announcer (me : DiscoveryIdentity S) : AnnouncerNode S (RouterState S) where
  build := B
  types := env.types
  discovery := env.discovery
  identity := me
  now := w.now
  sides s := s.inner.sides
  routes s := s.inner.discoveryRoutes
  allowed s side := s.inner.routeAllowed s.table none (some env.types.announce) side
  unlinked s := s.inner.sides.isEmpty
  prune s := { s with inner := s.inner.pruneDiscovery w.now }
  reconcile := RouterProgram.reconcileEndToEnd B w
  fitDiscoveryBudget s := { s with inner := s.inner.fitDiscoveryBudget B }
  queue side pkt := RouterProgram.txQueueItemWithFlags B (.toSide none side (.packet pkt)) true
  waiting s := s.inner.transmitQueue.q.filterMap sidePacket?
  routes_prune s := rfl
  sides_prune s := ⟨rfl, rfl⟩
  sides_reconcile s := by
    obtain ⟨hsides, htable⟩ := sides_reconcileEndToEnd B w s
    rw [htable]
    exact ⟨hsides, routeAllowed_congr hsides _ _ _⟩
  sides_fit s := by
    have hsides := (RouterInner.fitDiscoveryBudget_keeps (B := B) s.inner).1.sides
    exact ⟨hsides, routeAllowed_congr hsides _ _ _⟩
  unlinked_sides s h := by
    rw [List.isEmpty_iff.mp h]
    rfl
  waiting_queue side pkt s s' h := waiting_txQueueItem B h

/-- The calls that announce, on a router that may say so of itself. -/
def Announcers (n : AnnouncerNode S (RouterState S)) : Prop :=
  ∃ w env me, RouterDiscovery.identity B w env = .ok me ∧ n = announcer B w env me

end RouterState

/-- A run of a router in which announcing is among the calls. -/
def AnnouncingRouterRun {S : Schema} (B : Build) (depth : Nat) :
    Announcing S (RouterState S) → Announcing S (RouterState S) → Prop :=
  Relation.ReflTransGen
    (Announcing.Step (RouterState.Announcers B) (RouterCall.Step B (RouterRun B depth)))

section Refinement
variable {S : Schema} {B : Build}

theorem RouterRun.refl (depth : Nat) (s : RouterState S) : RouterRun B depth s s := by
  cases depth with
  | zero => rfl
  | succ depth => exact Relation.ReflTransGen.refl

/-- A call that reaches no callback. -/
theorem RouterCall.step_still (w : RouterWorld S) (depth : Nat) (call : RouterCall S)
    (s : RouterState S) : RouterCall.Step B (RouterRun B depth) s
      (call.run B { w with react := fun _ s => s } 0 s).1 :=
  ⟨_, 0, call, ⟨fun _ s => .refl depth s, fun _ _ _ => rfl⟩, rfl⟩

theorem RouterState.announcer_madeOf (w : RouterWorld S) (env : RouterDiscovery S)
    (me : DiscoveryIdentity S) (depth : Nat) :
    (RouterState.announcer B w env me).MadeOf (RouterCall.Step B (RouterRun B depth)) where
  prune s := RouterCall.step_still w depth .pruneDiscoveryRoutes s
  reconcile s := RouterCall.step_still w depth .reconcileEndToEndReliableDestinations s
  fitDiscoveryBudget s := RouterCall.step_still w depth .fitDiscoveryBudget s
  queue side pkt s := RouterCall.step_still w depth (.queueDiscoveryAnnounce side pkt) s

/-- A run with announcing is a run of the router's calls. -/
theorem AnnouncingRouterRun.routerRun {depth : Nat} {s s' : Announcing S (RouterState S)}
    (hrun : AnnouncingRouterRun B depth s s') : RouterRun B (depth + 1) s.node s'.node := by
  refine Announcing.moves ?_ (fun _ _ h => h) hrun
  rintro n ⟨w, env, me, -, rfl⟩
  exact RouterState.announcer_madeOf w env me depth

end Refinement
end Sedsprintf
