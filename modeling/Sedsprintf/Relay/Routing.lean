import Sedsprintf.Relay.Ops
import Sedsprintf.Routing

/-!
# The relay's routing

src/relay.rs:758-800, 1003-1049, 1351-1590, 1785-1800 and 1835-1854, as built with `discovery`. A
relay has no endpoints of its own, so it floods whatever discovery does not place, and it
leaves out sides whose destinations have all acknowledged a reliable packet.
-/
namespace Sedsprintf

open Lib

/-- The routing fields of `RelayInner`, with the destinations that acknowledged a packet
end to end. -/
structure RelayTable (S : Schema) extends RoutingTable S where
  endToEndAckedDestinations : OrdMap UInt64 (List UInt64)
  endToEndAckedDestinationOrder : List UInt64

namespace RelayInner
variable (B : Build) {S : Schema} (now : UInt64)

/-- `route_allowed_locked`; no rule lets a packet turn back. -/
def routeAllowed (st : RelayInner S) (table : RoutingTable S) (src : Option Nat)
    (ty : Option S.DataType) (dst : Nat) : Bool :=
  src != some dst && table.routeAllowedBy true st.sides src ty dst

/-- `preferred_timesync_route_source`. -/
def preferredTimesyncRouteSource (data : RouterItem S) (ty : S.DataType) :
    Outcome (Option String) :=
  if S.timeSync.any fun t => ty == t.announce || ty == t.response then
    match data with
    | .packet pkt => .ok (some pkt.sender)
    | .serialized bytes => do
      let pkt ← deserializePacket B S bytes
      .ok (some pkt.sender)
  else .ok none

/-- The boards of a route that are end-to-end destinations. -/
def destinationBoards (route : DiscoverySideState S) : List (TopologyBoardNode S) :=
  (route.announcers.toList.flatMap fun e => e.2.topologyBoards).filter fun board =>
    RoutingTable.isEndToEndDestinationSender board.senderId

/-- A side `filter_end_to_end_satisfied_sides_locked` keeps: one it knows no destination
behind, or one that has yet to acknowledge. -/
def stillPending (acked : List UInt64) (eps : List S.DataEndpoint)
    (route : DiscoverySideState S) : Bool :=
  (destinationBoards route).isEmpty || (destinationBoards route).any fun board =>
    (eps.any fun ep => board.reachableEndpoints.contains ep) &&
      !acked.contains (senderHash (asBytes board.senderId))

/-- The eviction loop of `note_end_to_end_acked_destination_locked`. -/
def forgetAckedDestinations (cap : Nat) : List UInt64 → OrdMap UInt64 (List UInt64) →
    List UInt64 × OrdMap UInt64 (List UInt64)
  | [], destinations => ([], destinations)
  | oldest :: rest, destinations =>
    if cap ≤ (oldest :: rest).length then
      forgetAckedDestinations cap rest (destinations.erase oldest)
    else (oldest :: rest, destinations)

/-- `note_end_to_end_acked_destination_locked`. A set of senders is a list without order. -/
def noteEndToEndAckedDestination (table : RelayTable S) (packetId senderHash : UInt64) :
    RelayTable S :=
  let order := table.endToEndAckedDestinationOrder.filter fun id =>
    table.endToEndAckedDestinations.contains id && id != packetId
  let (order, destinations) := forgetAckedDestinations (max B.reliableMaxEndToEndAckCache 1) order
    table.endToEndAckedDestinations
  let acked := destinations[packetId]?.getD []
  { table with
    endToEndAckedDestinations := destinations.insert packetId
      (if acked.length < max B.reliableMaxEndToEndPending 1 ∨ senderHash ∈ acked then
        acked.insert senderHash
      else acked)
    endToEndAckedDestinationOrder := order ++ [packetId] }

/-- `reconcile_end_to_end_acked_destinations_locked`. -/
def reconcileEndToEndAckedDestinations (table : RelayTable S) (routes : DiscoveryRoutes S) :
    RelayTable S :=
  let activeSenders := routes.toList.flatMap fun e =>
    (destinationBoards e.2).map fun board => senderHash (asBytes board.senderId)
  { table with
    endToEndAckedDestinations := table.endToEndAckedDestinations.filterMap fun _ acked =>
      let acked := acked.filter fun sender => activeSenders.contains sender
      if acked.isEmpty then none else some acked }

/-- The id a packet is acknowledged under. -/
def itemPacketId : RouterItem S → Outcome UInt64
  | .packet pkt => .ok (pkt.packetId B)
  | .serialized bytes => packetIdFromWire B S bytes

/-- `filter_end_to_end_satisfied_sides_locked`. -/
def filterEndToEndSatisfiedSides (st : RelayInner S) (table : RelayTable S) (data : RouterItem S)
    (sides : List Nat) (eps : List S.DataEndpoint) (ty : S.DataType) : Outcome (List Nat) :=
  if S.isReliableType ty then do
    match ← RoutingTable.reliableControlTargetPacketId B data with
    | some _ => .ok sides
    | none => do
      let packetId ← itemPacketId B data
      match table.endToEndAckedDestinations[packetId]? with
      | none => .ok sides
      | some acked =>
        .ok (sides.filter fun side => match st.discoveryRoutes[side]? with
          | none => true
          | some route => stillPending acked eps route)
  else .ok sides

/-- The sides of `remote_side_plan` before a selection is applied, with their origin,
for a packet that is neither discovery nor an end-to-end acknowledgement. -/
def planTargets (st : RelayInner S) (table : RelayTable S) (data : RouterItem S) (exclude : Nat)
    (eps : List S.DataEndpoint) (ty : S.DataType) (source : Option String) :
    Outcome (List Nat × RouteSelectionOrigin) :=
  let allowed := fun side => st.routeAllowed table.toRoutingTable (some exclude) (some ty) side
  let restrictLinkLocal := RoutingTable.endpointsAreLinkLocalOnly eps
  let flooded := (RoutingTable.eligibleSideIds st.sides allowed restrictLinkLocal,
    RouteSelectionOrigin.flood)
  if st.discoveryRoutes.isEmpty then .ok flooded
  else
    let candidate := RoutingTable.isCandidate st.sides allowed restrictLinkLocal now (some exclude)
    let exact := RoutingTable.exactTargets st.discoveryRoutes candidate source
    let generic := RoutingTable.genericTargets st.discoveryRoutes candidate source eps
    if !exact.isEmpty then do
      let targets ← st.filterEndToEndSatisfiedSides B table data exact eps ty
      .ok (targets, RoutingTable.discoveredOrigin ty)
    else if !generic.isEmpty then do
      let targets ← st.filterEndToEndSatisfiedSides B table data generic eps ty
      .ok (targets, RoutingTable.discoveredOrigin ty)
    else .ok flooded

/-- A selection applied to the routing fields. -/
def select (table : RelayTable S) (exclude : Nat) (sides : List Nat)
    (origin : RouteSelectionOrigin) : Outcome (RelayTable S × List Nat) := do
  let (routing, chosen) ← table.applyRouteSelection B (some exclude) sides origin
  .ok ({ table with toRoutingTable := routing }, chosen)

/-- `remote_side_plan`. -/
def remoteSidePlan (st : RelayInner S) (table : RelayTable S) (data : RouterItem S)
    (exclude : Nat) : Outcome (RelayTable S × List Nat) := do
  let (eps, ty) ← RoutingTable.routeInfo B data
  let preferred ← RoutingTable.reliableControlTargetPacketId B data
  let allowed := fun side => st.routeAllowed table.toRoutingTable (some exclude) (some ty) side
  if S.isDiscoveryType ty then
    select B table exclude (RoutingTable.eligibleSideIds st.sides allowed false) .flood
  else do
    let source ← preferredTimesyncRouteSource B data ty
    match preferred with
    | some packetId =>
      .ok (table, (table.reliableReturnRoutes[packetId]?.filter allowed).toList)
    | none => do
      let (targets, origin) ← st.planTargets B now table data exclude eps ty source
      select B table exclude targets origin

section Plans
variable {B : Build} {S : Schema} {now : UInt64} {st : RelayInner S} {table table' : RelayTable S}
  {data : RouterItem S} {pkt : Packet S} {exclude : Nat} {chosen : List Nat}

theorem preferredTimesyncRouteSource_of_carries (h : data.Carries B pkt) (ty : S.DataType) :
    preferredTimesyncRouteSource B data ty =
      .ok (if S.timeSync.any fun t => ty == t.announce || ty == t.response then some pkt.sender
        else none) := by
  unfold preferredTimesyncRouteSource
  split
  · cases data with
    | packet p =>
      obtain ⟨rfl, -⟩ := h
      rfl
    | serialized bytes => simp only [h.2, ok_bind]
  · rfl

/-- The filter only leaves sides out. -/
theorem filterEndToEndSatisfiedSides_eq {sides filtered : List Nat} {eps : List S.DataEndpoint}
    {ty : S.DataType}
    (h : st.filterEndToEndSatisfiedSides B table data sides eps ty = .ok filtered) :
    ∃ keep : Nat → Bool, filtered = sides.filter keep := by
  have hall : ∃ keep : Nat → Bool, sides = sides.filter keep :=
    ⟨fun _ => true, (List.filter_true sides).symm⟩
  unfold filterEndToEndSatisfiedSides at h
  split at h
  · obtain ⟨target, -, h⟩ := bind_eq_ok.mp h
    split at h
    · obtain rfl := Except.ok.inj h
      exact hall
    · obtain ⟨packetId, -, h⟩ := bind_eq_ok.mp h
      split at h
      · obtain rfl := Except.ok.inj h
        exact hall
      · obtain rfl := Except.ok.inj h
        exact ⟨_, rfl⟩
  · obtain rfl := Except.ok.inj h
    exact hall

/-- Every branch in front of the selection yields fit sides. -/
theorem planTargets_sound {eps : List S.DataEndpoint} {ty : S.DataType} {source : Option String}
    {targets : List Nat × RouteSelectionOrigin}
    (h : st.planTargets B now table data exclude eps ty source = .ok targets) :
    RoutingTable.Sound st.sides
      (fun side => st.routeAllowed table.toRoutingTable (some exclude) (some ty) side)
      (RoutingTable.endpointsAreLinkLocalOnly eps) targets.1 := by
  unfold planTargets at h
  dsimp only at h
  split at h
  · obtain rfl := Except.ok.inj h
    exact .eligible
  · split at h
    · obtain ⟨filtered, hfilter, h⟩ := bind_eq_ok.mp h
      obtain rfl := Except.ok.inj h
      obtain ⟨keep, rfl⟩ := filterEndToEndSatisfiedSides_eq hfilter
      exact RoutingTable.Sound.exactTargets.filter keep
    · split at h
      · obtain ⟨filtered, hfilter, h⟩ := bind_eq_ok.mp h
        obtain rfl := Except.ok.inj h
        obtain ⟨keep, rfl⟩ := filterEndToEndSatisfiedSides_eq hfilter
        exact RoutingTable.Sound.genericTargets.filter keep
      · obtain rfl := Except.ok.inj h
        exact .eligible

theorem remoteSidePlan_sound (h : data.Carries B pkt)
    (hdiscovery : S.isDiscoveryType pkt.ty = false)
    (hack : ¬(pkt.ty = S.reliableAck ∧ isEndToEndAckSender pkt.sender = true))
    (hplan : st.remoteSidePlan B now table data exclude = .ok (table', chosen)) :
    RoutingTable.Sound st.sides
      (fun side => st.routeAllowed table.toRoutingTable (some exclude) (some pkt.ty) side)
      (pkt.endpoints.all S.isLinkLocalOnly) chosen := by
  unfold remoteSidePlan at hplan
  simp only [RoutingTable.routeInfo_of_carries h,
    RoutingTable.reliableControlTargetPacketId_of_carries h,
    RoutingTable.reliableControlTarget_eq_none hack, preferredTimesyncRouteSource_of_carries h,
    ok_bind, hdiscovery, Bool.false_eq_true, if_false] at hplan
  obtain ⟨targets, htargets, hplan⟩ := bind_eq_ok.mp hplan
  obtain ⟨selected, hselect, hplan⟩ := bind_eq_ok.mp hplan
  obtain ⟨rfl, rfl⟩ := Prod.mk.inj (Except.ok.inj hplan)
  rw [← RoutingTable.endpointsAreLinkLocalOnly_sortDedup h.endpoints_ne_nil]
  exact (planTargets_sound htargets).select hselect

end Plans
end RelayInner
end Sedsprintf
