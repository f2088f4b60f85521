import Sedsprintf.Router.Ops
import Sedsprintf.Routing

/-!
# The router's routing

src/router.rs:354-360, 455-535, 1143-1147, 1231-1303, 1529-1574, 1838-2016 and
2094-2124, as built with `discovery`; the router does not build without it.
-/
namespace Sedsprintf

open Lib

/-- `endpoint_is_router_internal`. `TimeSync` is the endpoint of the generated announce
type. -/
def Schema.endpointIsRouterInternal (S : Schema) (ep : S.DataEndpoint) : Bool :=
  (S.timeSync.any fun t => (S.getMessageMeta t.announce).endpoints.contains ep) ||
    S.isDiscoveryEndpoint ep

inductive EndpointHandlerFn where
  | packet
  | serialized
  deriving DecidableEq, Repr

structure EndpointHandler (S : Schema) where
  endpoint : S.DataEndpoint
  handler : EndpointHandlerFn
  deriving DecidableEq

/-- `RouterConfig`, with the sender `Router` takes from it. The constructor asserts that
no handler is for an internal endpoint. -/
structure RouterConfig (S : Schema) where
  handlers : List (EndpointHandler S)
  reliableEnabled : Bool
  sender : String
  external : handlers.all (fun h => !S.endpointIsRouterInternal h.endpoint) = true

namespace RouterConfig
variable {S : Schema} (cfg : RouterConfig S)

/-- A router that only forwards. -/
def bare (sender : String) : RouterConfig S := ⟨[], true, sender, rfl⟩

def isLocalEndpoint (ep : S.DataEndpoint) : Bool :=
  !S.endpointIsRouterInternal ep && cfg.handlers.any fun h => h.endpoint == ep

/-- `has_nonlocal_endpoint`. -/
def hasNonlocalEndpoint (eps : List S.DataEndpoint) : Bool :=
  eps.any fun ep => !cfg.isLocalEndpoint ep && !S.isLinkLocalOnly ep

end RouterConfig

/-- What routing reads besides the state: the configuration, the clock, and the time
source the tracker follows. -/
structure RoutingEnv (S : Schema) where
  cfg : RouterConfig S
  now : UInt64
  timesyncSource : Option String

namespace RouterInner
variable (B : Build) {S : Schema} (env : RoutingEnv S)

/-- `route_allowed_locked`; a packet turns back only by a rule. -/
def routeAllowed (st : RouterInner S) (table : RoutingTable S) (src : Option Nat)
    (ty : Option S.DataType) (dst : Nat) : Bool :=
  table.routeAllowedBy (src != some dst) st.sides src ty dst

/-- `item_route_info`. -/
def itemRouteInfo (data : RouterItem S) : Outcome (List S.DataEndpoint × S.DataType) :=
  match data with
  | .packet pkt => do
    pkt.validate B
    RoutingTable.routeInfo B data
  | .serialized _ => RoutingTable.routeInfo B data

/-- `preferred_timesync_route_source` of a packet. -/
def packetTimesyncSource (ty : S.DataType) (pkt : Packet S) : Option String :=
  S.timeSync.bind fun t =>
    if ty = t.request then
      if pkt.sender = env.cfg.sender then env.timesyncSource else none
    else if ty = t.announce ∨ ty = t.response then some pkt.sender
    else none

/-- `preferred_timesync_route_source`. -/
def preferredTimesyncRouteSource (data : RouterItem S) (ty : S.DataType) :
    Outcome (Option String) :=
  if S.isTimeSyncType ty then
    match data with
    | .packet pkt => .ok (packetTimesyncSource env ty pkt)
    | .serialized bytes => do
      let pkt ← deserializePacket B S bytes
      .ok (packetTimesyncSource env ty pkt)
  else .ok none

/-- The sides of `remote_side_plan` before a selection is applied, with their origin,
for a packet that is neither discovery nor an end-to-end acknowledgement. -/
def planTargets (st : RouterInner S) (table : RoutingTable S) (exclude : Option Nat)
    (eps : List S.DataEndpoint) (ty : S.DataType) (source : Option String) :
    List Nat × RouteSelectionOrigin :=
  let allowed := fun side => st.routeAllowed table exclude (some ty) side
  let restrictLinkLocal := RoutingTable.endpointsAreLinkLocalOnly eps
  let flooded :=
    if restrictLinkLocal then (RoutingTable.eligibleSideIds st.sides allowed true, .flood)
    else if env.cfg.hasNonlocalEndpoint eps || S.isTimeSyncType ty then
      (RoutingTable.eligibleSideIds st.sides allowed false, .flood)
    else ([], .flood)
  if st.discoveryRoutes.isEmpty then flooded
  else
    let candidate := RoutingTable.isCandidate st.sides allowed restrictLinkLocal env.now exclude
    let exact := RoutingTable.exactTargets st.discoveryRoutes candidate source
    let generic := RoutingTable.genericTargets st.discoveryRoutes candidate source eps
    if !exact.isEmpty then (exact, RoutingTable.discoveredOrigin ty)
    else if !generic.isEmpty then (generic, RoutingTable.discoveredOrigin ty)
    else flooded

/-- `remote_side_plan`. -/
def remoteSidePlan (st : RouterInner S) (table : RoutingTable S) (data : RouterItem S)
    (exclude : Option Nat) : Outcome (RoutingTable S × List Nat) := do
  let (eps, ty) ← itemRouteInfo B data
  let preferred ← RoutingTable.reliableControlTargetPacketId B data
  if S.isDiscoveryType ty then
    let allowed := fun side => st.routeAllowed table exclude (some ty) side
    table.applyRouteSelection B exclude (RoutingTable.eligibleSideIds st.sides allowed false) .flood
  else do
    let source ← preferredTimesyncRouteSource B env data ty
    match preferred with
    | some packetId =>
      .ok (table, (table.reliableReturnRoutes[packetId]?.filter fun side =>
        st.routeAllowed table exclude (some ty) side).toList)
    | none =>
      let (targets, origin) := st.planTargets env table exclude eps ty source
      table.applyRouteSelection B exclude targets origin

section Destinations

/-- A route of the cache that `expected_end_to_end_destinations_locked` looks into. -/
def leadsToDestinations (st : RouterInner S) (table : RoutingTable S) (now : UInt64)
    (restrictLinkLocal : Bool) (ty : S.DataType) (side : Nat) (route : DiscoverySideState S) :
    Bool :=
  decide (saturatingSub now route.lastSeenMs ≤ discoveryRouteTtlMs) &&
    st.sides[side]?.join.any (fun s => !restrictLinkLocal || s.opts.linkLocalEnabled) &&
    st.routeAllowed table none (some ty) side

/-- The destinations a route announces for the endpoints, in the order of the scan. -/
def announcedBy (now : UInt64) (eps : List S.DataEndpoint) (side : Nat)
    (route : DiscoverySideState S) : List (UInt64 × Nat) :=
  ((route.announcers.toList.filter fun e => isFresh now e.2).flatMap fun e =>
    (e.2.topologyBoards.filter fun board =>
      RoutingTable.isEndToEndDestinationSender board.senderId &&
        eps.any fun ep => board.reachableEndpoints.contains ep).map fun board =>
    (senderHash (asBytes board.senderId), side))

/-- The destinations announced on the sides a packet may take. -/
def announcedDestinations (st : RouterInner S) (table : RoutingTable S) (now : UInt64)
    (eps : List S.DataEndpoint) (ty : S.DataType) : List (UInt64 × Nat) :=
  (st.discoveryRoutes.toList.filter fun e =>
    st.leadsToDestinations table now (RoutingTable.endpointsAreLinkLocalOnly eps) ty e.1 e.2).flatMap
      fun e => announcedBy now eps e.1 e.2

/-- The insertions of the scan, which returns once the map is full. -/
def collectDestinations (cap : Nat) : List (UInt64 × Nat) → OrdMap UInt64 Nat → OrdMap UInt64 Nat
  | [], out => out
  | (hash, side) :: rest, out =>
    let out := out.insert hash side
    if cap ≤ out.size then out else collectDestinations cap rest out

/-- `expected_end_to_end_destinations_locked`. -/
def expectedEndToEndDestinations (st : RouterInner S) (table : RoutingTable S) (now : UInt64)
    (data : RouterItem S) : Outcome (OrdMap UInt64 Nat) := do
  let (eps, ty) ← itemRouteInfo B data
  .ok (collectDestinations (max B.reliableMaxEndToEndPending 1)
    (st.announcedDestinations table now eps ty) ∅)

end Destinations

section Plans
variable {B : Build} {S : Schema} {env : RoutingEnv S} {st : RouterInner S}
  {table table' : RoutingTable S} {data : RouterItem S} {pkt : Packet S} {exclude : Option Nat}
  {chosen : List Nat}

theorem itemRouteInfo_of_carries (h : data.Carries B pkt) :
    itemRouteInfo B data = .ok (sortDedup pkt.endpoints, pkt.ty) := by
  have hinfo := RoutingTable.routeInfo_of_carries h
  cases data with
  | packet p =>
    obtain ⟨rfl, hvalid⟩ := h
    rw [itemRouteInfo, hvalid, ok_bind, hinfo]
  | serialized bytes => exact hinfo

theorem preferredTimesyncRouteSource_of_carries (h : data.Carries B pkt) (ty : S.DataType) :
    preferredTimesyncRouteSource B env data ty =
      .ok (if S.isTimeSyncType ty then packetTimesyncSource env ty pkt else none) := by
  unfold preferredTimesyncRouteSource
  split
  · cases data with
    | packet p =>
      obtain ⟨rfl, -⟩ := h
      rfl
    | serialized bytes => simp only [h.2, ok_bind]
  · rfl

/-- Every branch in front of the selection yields fit sides. -/
theorem planTargets_sound (eps : List S.DataEndpoint) (ty : S.DataType) (source : Option String) :
    RoutingTable.Sound st.sides (fun side => st.routeAllowed table exclude (some ty) side)
      (RoutingTable.endpointsAreLinkLocalOnly eps)
      (st.planTargets env table exclude eps ty source).1 := by
  have hflooded : RoutingTable.Sound st.sides
      (fun side => st.routeAllowed table exclude (some ty) side)
      (RoutingTable.endpointsAreLinkLocalOnly eps)
      (if RoutingTable.endpointsAreLinkLocalOnly eps = true then
        (RoutingTable.eligibleSideIds st.sides
          (fun side => st.routeAllowed table exclude (some ty) side) true,
            RouteSelectionOrigin.flood)
      else if (env.cfg.hasNonlocalEndpoint eps || S.isTimeSyncType ty) = true then
        (RoutingTable.eligibleSideIds st.sides
          (fun side => st.routeAllowed table exclude (some ty) side) false, .flood)
      else ([], .flood)).1 := by
    split
    · rename_i hrestrict
      rw [hrestrict]
      exact .eligible
    · rename_i hfree
      rw [Bool.not_eq_true] at hfree
      rw [hfree]
      split
      · exact .eligible
      · exact .nil
  unfold planTargets
  dsimp only
  split
  · exact hflooded
  · split
    · exact .exactTargets
    · split
      · exact .genericTargets
      · exact hflooded

/-- What the plan is for a packet that is neither discovery nor an end-to-end
acknowledgement. -/
theorem remoteSidePlan_of_carries (h : data.Carries B pkt)
    (hdiscovery : S.isDiscoveryType pkt.ty = false)
    (hack : ¬(pkt.ty = S.reliableAck ∧ isEndToEndAckSender pkt.sender = true)) :
    st.remoteSidePlan B env table data exclude =
      let source := if S.isTimeSyncType pkt.ty then packetTimesyncSource env pkt.ty pkt else none
      let targets := st.planTargets env table exclude (sortDedup pkt.endpoints) pkt.ty source
      table.applyRouteSelection B exclude targets.1 targets.2 := by
  unfold remoteSidePlan
  simp only [itemRouteInfo_of_carries h, RoutingTable.reliableControlTargetPacketId_of_carries h,
    RoutingTable.reliableControlTarget_eq_none hack, preferredTimesyncRouteSource_of_carries h,
    ok_bind, hdiscovery, Bool.false_eq_true, if_false]

theorem remoteSidePlan_sound (h : data.Carries B pkt)
    (hdiscovery : S.isDiscoveryType pkt.ty = false)
    (hack : ¬(pkt.ty = S.reliableAck ∧ isEndToEndAckSender pkt.sender = true))
    (hplan : st.remoteSidePlan B env table data exclude = .ok (table', chosen)) :
    RoutingTable.Sound st.sides (fun side => st.routeAllowed table exclude (some pkt.ty) side)
      (pkt.endpoints.all S.isLinkLocalOnly) chosen := by
  rw [remoteSidePlan_of_carries h hdiscovery hack] at hplan
  rw [← RoutingTable.endpointsAreLinkLocalOnly_sortDedup h.endpoints_ne_nil]
  exact (planTargets_sound _ _ _).select hplan

end Plans
end RouterInner
end Sedsprintf
