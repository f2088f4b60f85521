import Sedsprintf.Discovery
import Sedsprintf.Receive
import Sedsprintf.Lib.Weighted

/-!
# Routing

Route rules, route selection and the cache of return routes, which `Router` and `Relay`
keep in the same fields and use with the same code but for the default rule
(src/router.rs:205-245, 1232-1425, 1493-1514, 3864-4060; src/relay.rs:758-930,
990-1020). Which sides a packet goes to is their own `remote_side_plan`.
-/
namespace Sedsprintf

open Lib

inductive RouteSelectionMode where
  | fanout
  | weighted
  | failover
  deriving DecidableEq, Repr

/-- How the candidates of a selection were found. -/
inductive RouteSelectionOrigin where
  | flood
  | discovered
  deriving DecidableEq, Repr

/-- `(Option<RouterSideId>, RouterSideId)`. -/
structure RouteKey where
  src : Option Nat
  dst : Nat
  deriving DecidableEq

namespace RouteKey

instance : Ord RouteKey := ⟨compareLex (compareOn fun k => k.src) (compareOn fun k => k.dst)⟩

instance : Std.TransOrd RouteKey :=
  inferInstanceAs (Std.TransCmp (compareLex (compareOn fun k : RouteKey => k.src)
    (compareOn fun k => k.dst)))

instance : Std.LawfulEqOrd RouteKey where
  eq_of_compare {k k'} h := by
    cases k with
    | mk src dst =>
      cases k' with
      | mk src' dst' =>
        simp only [compare, compareLex, compareOn, Ordering.then_eq_eq] at h
        obtain ⟨hsrc, hdst⟩ := h
        obtain rfl := Std.LawfulEqOrd.eq_of_compare (a := src) (b := src') hsrc
        obtain rfl := Nat.compare_eq_eq.mp hdst
        rfl

end RouteKey

/-- `(Option<RouterSideId>, u32, RouterSideId)`. -/
structure TypedRouteKey (S : Schema) where
  src : Option Nat
  ty : S.DataType
  dst : Nat
  deriving DecidableEq

namespace TypedRouteKey
variable {S : Schema}

/-- The key without its type. -/
def route (k : TypedRouteKey S) : RouteKey := ⟨k.src, k.dst⟩

instance : Ord (TypedRouteKey S) :=
  ⟨compareLex (compareOn fun k => k.src)
    (compareLex (compareOn fun k => k.ty.val) (compareOn fun k => k.dst))⟩

instance : Std.TransOrd (TypedRouteKey S) :=
  inferInstanceAs (Std.TransCmp (compareLex (compareOn fun k : TypedRouteKey S => k.src)
    (compareLex (compareOn fun k => k.ty.val) (compareOn fun k => k.dst))))

instance : Std.LawfulEqOrd (TypedRouteKey S) where
  eq_of_compare {k k'} h := by
    cases k with
    | mk src ty dst =>
      cases k' with
      | mk src' ty' dst' =>
        simp only [compare, compareLex, compareOn, Ordering.then_eq_eq] at h
        obtain ⟨hsrc, hty, hdst⟩ := h
        obtain rfl := Std.LawfulEqOrd.eq_of_compare (a := src) (b := src') hsrc
        obtain rfl := Fin.ext (Nat.compare_eq_eq.mp hty)
        obtain rfl := Nat.compare_eq_eq.mp hdst
        rfl

end TypedRouteKey

structure AdaptiveRouteStats where
  estimatedBandwidthBps : UInt64
  lastObservedMs : UInt64
  deriving DecidableEq, Repr

namespace AdaptiveRouteStats

/-- `AdaptiveRouteStats::default()`. -/
def empty : AdaptiveRouteStats := ⟨0, 0⟩

/-- `saturating_mul` and `saturating_add` on `u64`. -/
def saturated (n : Nat) : Nat := min n (2 ^ 64 - 1)

def observe (stats : AdaptiveRouteStats) (sampleBps nowMs : UInt64) : AdaptiveRouteStats where
  estimatedBandwidthBps :=
    let old := stats.estimatedBandwidthBps.toNat
    let sample := sampleBps.toNat
    if old = 0 then sampleBps
    else if old ≤ sample then
      UInt64.ofNat (saturated (saturated (old * 3) + saturated (sample * 5)) / 8)
    else UInt64.ofNat (saturated (saturated (old * 7) + sample) / 8)
  lastObservedMs := nowMs

def weight (stats : AdaptiveRouteStats) : Nat := max stats.estimatedBandwidthBps.toNat 1

end AdaptiveRouteStats

/-- The routing fields of `RouterInner` and `RelayInner`. A return route is its side. -/
structure RoutingTable (S : Schema) where
  routeOverrides : OrdMap RouteKey Bool
  typedRouteOverrides : OrdMap (TypedRouteKey S) Bool
  routeWeights : OrdMap RouteKey UInt32
  routePriorities : OrdMap RouteKey UInt32
  sourceRouteModes : OrdMap (Option Nat) RouteSelectionMode
  routeSelectionCursors : OrdMap (Option Nat) UInt64
  adaptiveRouteStats : OrdMap Nat AdaptiveRouteStats
  reliableReturnRoutes : OrdMap UInt64 Nat
  reliableReturnRouteOrder : List UInt64

namespace RoutingTable
variable {S : Schema}

/-- A node without rules. -/
def empty : RoutingTable S := ⟨∅, ∅, ∅, ∅, ∅, ∅, ∅, ∅, []⟩

section Rules
variable (table : RoutingTable S)

/-- The part of `route_allowed_locked` about the sides: the target is registered with
egress on, the source with ingress on. -/
def sidesOpen (sides : List (Option Side)) (src : Option Nat) (dst : Nat) : Bool :=
  sides[dst]?.join.any (fun s => s.opts.egressEnabled) &&
    match src with
    | none => true
    | some side => sides[side]?.join.any fun s => s.opts.ingressEnabled

/-- The part about the type: any typed rule of the source makes an allowlist. -/
def typedRouteAllowed (src : Option Nat) (ty : Option S.DataType) (dst : Nat) : Bool :=
  match ty with
  | none => true
  | some ty =>
    if table.typedRouteOverrides.keys.any fun k => k.src == src && k.ty == ty then
      table.typedRouteOverrides[(⟨src, ty, dst⟩ : TypedRouteKey S)]?.getD false
    else true

/-- `route_allowed_locked` behind the rule for a packet that would turn back; `base` is
what holds where no rule is set. -/
def routeAllowedBy (base : Bool) (sides : List (Option Side)) (src : Option Nat)
    (ty : Option S.DataType) (dst : Nat) : Bool :=
  sidesOpen sides src dst && (table.routeOverrides[(⟨src, dst⟩ : RouteKey)]?).getD base &&
    table.typedRouteAllowed src ty dst

end Rules

section Selection
variable (B : Build)

/-- `eligible_side_ids_locked`. -/
def eligibleSideIds (sides : List (Option Side)) (allowed : Nat → Bool) (restrictLinkLocal : Bool) :
    List Nat :=
  (List.range sides.length).filter fun side =>
    sides[side]?.join.any (fun s => !restrictLinkLocal || s.opts.linkLocalEnabled) && allowed side

/-- The fold of weights into `total_weight`. -/
def sumWeights (weight : Nat → Nat) (sides : List Nat) : Outcome Nat :=
  sides.foldlM (fun acc side => B.u64Add acc (weight side)) 0

def routeWeight (table : RoutingTable S) (src : Option Nat) (side : Nat) : Nat :=
  ((table.routeWeights[(⟨src, side⟩ : RouteKey)]?).getD 1).toNat

def routePriority (table : RoutingTable S) (src : Option Nat) (side : Nat) : Nat :=
  ((table.routePriorities[(⟨src, side⟩ : RouteKey)]?).getD 0).toNat

def cursor (table : RoutingTable S) (src : Option Nat) : UInt64 :=
  (table.routeSelectionCursors[src]?).getD 0

/-- `cursor.wrapping_add(1)`, in place. -/
def advance (table : RoutingTable S) (src : Option Nat) : RoutingTable S :=
  { table with
    routeSelectionCursors := table.routeSelectionCursors.insert src (table.cursor src + 1) }

/-- The side the cursor falls on, and the cursor moved on. -/
def takeTurn (weight : Nat → Nat) (total : Nat) (table : RoutingTable S) (src : Option Nat)
    (sides : List Nat) : RoutingTable S × List Nat :=
  (table.advance src, (pickWeighted weight sides ((table.cursor src).toNat % total)).toList)

/-- `apply_adaptive_discovery_selection_locked`. -/
def applyAdaptiveDiscoverySelection (table : RoutingTable S) (src : Option Nat)
    (sides : List Nat) : Outcome (RoutingTable S × List Nat) :=
  let sides := sides.insertionSort (· ≤ ·)
  let unmeasured := sides.filter fun side => !table.adaptiveRouteStats.contains side
  if unmeasured.isEmpty then do
    let weight := fun side => (table.adaptiveRouteStats[side]?.map AdaptiveRouteStats.weight).getD 1
    let total ← sumWeights B weight sides
    if total = 0 then .ok (table, sides.take 1) else .ok (table.takeTurn weight total src sides)
  else
    .ok (table.advance src,
      (unmeasured[B.asUsize (table.cursor src) % unmeasured.length]?).toList)

/-- `apply_route_selection_locked`. -/
def applyRouteSelection (table : RoutingTable S) (src : Option Nat) (sides : List Nat)
    (origin : RouteSelectionOrigin) : Outcome (RoutingTable S × List Nat) :=
  if sides.length ≤ 1 then .ok (table, sides)
  else
    match table.sourceRouteModes[src]?, origin with
    | none, .discovered => table.applyAdaptiveDiscoverySelection B src sides
    | none, .flood => .ok (table, sides)
    | some .fanout, _ => .ok (table, sides)
    | some .weighted, _ => do
      let sides := sides.insertionSort (· ≤ ·)
      let total ← sumWeights B (table.routeWeight src) sides
      if total = 0 then .ok (table, [])
      else .ok (table.takeTurn (table.routeWeight src) total src sides)
    | some .failover, _ =>
      .ok (table, (sides.insertionSort fun a b =>
        table.routePriority src a < table.routePriority src b ∨
          table.routePriority src a = table.routePriority src b ∧ a ≤ b).take 1)

end Selection

section Discovered

/-- One entry of the scan of `remote_side_plan` over the route cache that is not passed
over. -/
def isCandidate (sides : List (Option Side)) (allowed : Nat → Bool) (restrictLinkLocal : Bool)
    (now : UInt64) (exclude : Option Nat) (side : Nat) (route : DiscoverySideState S) : Bool :=
  exclude != some side && decide (saturatingSub now route.lastSeenMs ≤ discoveryRouteTtlMs) &&
    (!restrictLinkLocal || sides[side]?.join.any fun s => s.opts.linkLocalEnabled) && allowed side

/-- The route leads to the time source asked for. -/
def reachesSource (source : Option String) (route : DiscoverySideState S) : Bool :=
  source.any fun name => route.reachableTimesyncSources.contains name

/-- The route leads to one of the endpoints. -/
def reachesEndpoints (eps : List S.DataEndpoint) (route : DiscoverySideState S) : Bool :=
  eps.any fun ep => route.reachable.contains ep

/-- `exact_targets` of the scan; `had_exact` says that there is one. -/
def exactTargets (routes : DiscoveryRoutes S) (candidate : Nat → DiscoverySideState S → Bool)
    (source : Option String) : List Nat :=
  (routes.toList.filter fun e => candidate e.1 e.2 && reachesSource source e.2).map Prod.fst

/-- `generic_targets` of the scan. -/
def genericTargets (routes : DiscoveryRoutes S) (candidate : Nat → DiscoverySideState S → Bool)
    (source : Option String) (eps : List S.DataEndpoint) : List Nat :=
  (routes.toList.filter fun e =>
    candidate e.1 e.2 && !reachesSource source e.2 && reachesEndpoints eps e.2).map Prod.fst

/-- `endpoints_are_link_local_only`. -/
def endpointsAreLinkLocalOnly (eps : List S.DataEndpoint) : Bool :=
  !eps.isEmpty && eps.all S.isLinkLocalOnly

/-- `discovered_origin`: reliable types are not put on a single path. -/
def discoveredOrigin (ty : S.DataType) : RouteSelectionOrigin :=
  if S.isReliableType ty then .flood else .discovered

end Discovered

section ReturnRoutes
variable (B : Build)

/-- The eviction loop of `remember_reliable_return_route_locked`. -/
def forgetReturnRoutes (cap : Nat) : List UInt64 → OrdMap UInt64 Nat →
    List UInt64 × OrdMap UInt64 Nat
  | [], routes => ([], routes)
  | oldest :: rest, routes =>
    if cap ≤ (oldest :: rest).length then forgetReturnRoutes cap rest (routes.erase oldest)
    else (oldest :: rest, routes)

/-- `note_reliable_return_route`. -/
def noteReliableReturnRoute (table : RoutingTable S) (side : Nat) (packetId : UInt64) :
    RoutingTable S :=
  let order := table.reliableReturnRouteOrder.filter fun id =>
    table.reliableReturnRoutes.contains id && id != packetId
  let (order, routes) := forgetReturnRoutes (max B.reliableMaxReturnRoutes 1) order
    table.reliableReturnRoutes
  { table with
    reliableReturnRoutes := routes.insert packetId side
    reliableReturnRouteOrder := order ++ [packetId] }

end ReturnRoutes

section Items
variable (B : Build)

/-- `item_route_info` but for the validation: the endpoints in order, each once, and the
type. -/
def routeInfo : RouterItem S → Outcome (List S.DataEndpoint × S.DataType)
  | .packet pkt => .ok (sortDedup pkt.endpoints, pkt.ty)
  | .serialized bytes => do
    let env ← peekEnvelope B S bytes
    .ok (sortDedup env.endpoints, env.ty)

/-- The id an end-to-end acknowledgement names; a bad one is an error here. -/
def reliableControlTarget (pkt : Packet S) : Outcome (Option UInt64) :=
  if pkt.ty = S.reliableAck ∧ isEndToEndAckSender pkt.sender then
    (decodeEndToEndReliableAck pkt.payload.asSlice).map some
  else .ok none

/-- `reliable_control_target_packet_id`. -/
def reliableControlTargetPacketId : RouterItem S → Outcome (Option UInt64)
  | .packet pkt => reliableControlTarget pkt
  | .serialized bytes => do
    let pkt ← deserializePacket B S bytes
    reliableControlTarget pkt

/-- `is_end_to_end_destination_sender`. -/
def isEndToEndDestinationSender (sender : String) : Bool :=
  sender != "RELAY" && !isEndToEndAckSender sender

end Items

section Samples

/-- `record_side_tx_sample`. -/
def recordSideTxSample (table : RoutingTable S) (side bytes : Nat) (startedMs endedMs : UInt64) :
    RoutingTable S :=
  let sampleMs := max (saturatingSub endedMs startedMs).toNat 1
  let sampleBps := UInt64.ofNat (min (min (bytes * 1000) (2 ^ 128 - 1) / sampleMs) (2 ^ 64 - 1))
  { table with
    adaptiveRouteStats := table.adaptiveRouteStats.insert side
      (((table.adaptiveRouteStats[side]?).getD .empty).observe sampleBps endedMs) }

end Samples

section Setters
variable (table : RoutingTable S)

/-- The checks of the setters: both sides are registered. -/
def checkRoute (sides : List (Option Side)) (src : Option Nat) (dst : Option Nat) : Outcome Unit := do
  match dst with
  | none => .ok ()
  | some dst => ensure (sides[dst]?.join.isSome) .badArg
  match src with
  | none => .ok ()
  | some src => ensure (sides[src]?.join.isSome) .badArg

/-- `set_source_route_mode` behind its checks. -/
def setSourceRouteMode (src : Option Nat) (mode : RouteSelectionMode) : RoutingTable S :=
  { table with
    sourceRouteModes :=
      if mode = .fanout then table.sourceRouteModes.erase src
      else table.sourceRouteModes.insert src mode
    routeSelectionCursors := table.routeSelectionCursors.erase src }

/-- `set_route_weight`, and `clear_route_weight` where there is no weight. -/
def setRouteWeight (key : RouteKey) (weight : Option UInt32) : RoutingTable S :=
  { table with
    routeWeights := table.routeWeights.alter key fun _ => weight
    routeSelectionCursors := table.routeSelectionCursors.erase key.src }

/-- `set_route_priority` and `clear_route_priority`. -/
def setRoutePriority (key : RouteKey) (priority : Option UInt32) : RoutingTable S :=
  { table with routePriorities := table.routePriorities.alter key fun _ => priority }

/-- `set_route` and `clear_route`. -/
def setRoute (key : RouteKey) (enabled : Option Bool) : RoutingTable S :=
  { table with routeOverrides := table.routeOverrides.alter key fun _ => enabled }

/-- `set_typed_route` and `clear_typed_route`. -/
def setTypedRoute (key : TypedRouteKey S) (enabled : Option Bool) : RoutingTable S :=
  { table with typedRouteOverrides := table.typedRouteOverrides.alter key fun _ => enabled }

/-- What `remove_side` drops. -/
def removeSide (side : Nat) : RoutingTable S :=
  let keeps : RouteKey → Bool := fun k => k.src != some side && k.dst != side
  { table with
    routeOverrides := table.routeOverrides.filter fun k _ => keeps k
    typedRouteOverrides := table.typedRouteOverrides.filter fun k _ => keeps k.route
    routeWeights := table.routeWeights.filter fun k _ => keeps k
    routePriorities := table.routePriorities.filter fun k _ => keeps k
    sourceRouteModes := table.sourceRouteModes.erase (some side)
    routeSelectionCursors := table.routeSelectionCursors.erase (some side)
    adaptiveRouteStats := table.adaptiveRouteStats.erase side
    reliableReturnRoutes := table.reliableReturnRoutes.filter fun _ s => s != side }

end Setters
section Chosen
variable {B : Build} {table table' : RoutingTable S} {src : Option Nat} {sides chosen : List Nat}
  {origin : RouteSelectionOrigin}

/-- A selection: some of the candidates, each once, and at most a step of the source's
cursor. -/
structure Selects (table : RoutingTable S) (src : Option Nat) (sides : List Nat)
    (table' : RoutingTable S) (chosen : List Nat) : Prop where
  subset : ∀ side ∈ chosen, side ∈ sides
  nodup : sides.Nodup → chosen.Nodup
  table_eq : table' = table ∨ table' = table.advance src

theorem Selects.all (table : RoutingTable S) (src : Option Nat) (sides : List Nat) :
    Selects table src sides table sides :=
  ⟨fun _ h => h, fun h => h, .inl rfl⟩

/-- At most one side is chosen. -/
theorem Selects.single {pick : Option Nat} (hpick : ∀ side, pick = some side → side ∈ sides)
    (htable : table' = table ∨ table' = table.advance src) :
    Selects table src sides table' pick.toList where
  subset side h := hpick side (Option.mem_toList.mp h)
  nodup _ := by cases pick with
    | none => simp
    | some side => simp
  table_eq := htable

/-- The first of the candidates in some order. -/
theorem Selects.first {ordered : List Nat} (hperm : ordered.Perm sides) :
    Selects table src sides table (ordered.take 1) where
  subset _ h := hperm.subset (List.mem_of_mem_take h)
  nodup h := (hperm.nodup_iff.mpr h).sublist (List.take_sublist 1 ordered)
  table_eq := .inl rfl

theorem Selects.turn {ordered : List Nat} (hperm : ordered.Perm sides) (weight : Nat → Nat)
    (total : Nat) :
    Selects table src sides (table.takeTurn weight total src ordered).1
      (table.takeTurn weight total src ordered).2 :=
  .single (fun _ h => hperm.subset (pickWeighted_mem h)) (.inr rfl)

theorem applyAdaptiveDiscoverySelection_selects
    (h : table.applyAdaptiveDiscoverySelection B src sides = .ok (table', chosen)) :
    Selects table src sides table' chosen := by
  have hperm := List.perm_insertionSort (· ≤ ·) sides
  unfold applyAdaptiveDiscoverySelection at h
  dsimp only at h
  split at h
  · obtain ⟨total, -, h⟩ := bind_eq_ok.mp h
    split at h
    · obtain ⟨rfl, rfl⟩ := Prod.mk.inj (Except.ok.inj h)
      exact .first hperm
    · obtain ⟨rfl, rfl⟩ := Prod.mk.inj (Except.ok.inj h)
      exact .turn hperm _ total
  · obtain ⟨rfl, rfl⟩ := Prod.mk.inj (Except.ok.inj h)
    refine .single (fun side hside => ?_) (.inr rfl)
    exact hperm.subset (List.mem_filter.mp (List.mem_of_getElem? hside)).1

/-- The adaptive choice is a single path. -/
theorem length_applyAdaptiveDiscoverySelection
    (h : table.applyAdaptiveDiscoverySelection B src sides = .ok (table', chosen)) :
    chosen.length ≤ 1 := by
  have hoption : ∀ pick : Option Nat, pick.toList.length ≤ 1 := fun pick => by
    cases pick with
    | none => simp
    | some side => simp
  unfold applyAdaptiveDiscoverySelection at h
  dsimp only at h
  split at h
  · obtain ⟨total, -, h⟩ := bind_eq_ok.mp h
    split at h
    · obtain ⟨rfl, rfl⟩ := Prod.mk.inj (Except.ok.inj h)
      exact List.length_take_le 1 _
    · obtain ⟨rfl, rfl⟩ := Prod.mk.inj (Except.ok.inj h)
      exact hoption _
  · obtain ⟨rfl, rfl⟩ := Prod.mk.inj (Except.ok.inj h)
    exact hoption _

theorem applyRouteSelection_selects
    (h : table.applyRouteSelection B src sides origin = .ok (table', chosen)) :
    Selects table src sides table' chosen := by
  unfold applyRouteSelection at h
  split at h
  · obtain ⟨rfl, rfl⟩ := Prod.mk.inj (Except.ok.inj h)
    exact .all _ _ _
  · split at h
    · exact applyAdaptiveDiscoverySelection_selects h
    · obtain ⟨rfl, rfl⟩ := Prod.mk.inj (Except.ok.inj h)
      exact .all _ _ _
    · obtain ⟨rfl, rfl⟩ := Prod.mk.inj (Except.ok.inj h)
      exact .all _ _ _
    · obtain ⟨total, -, h⟩ := bind_eq_ok.mp h
      split at h
      · obtain ⟨rfl, rfl⟩ := Prod.mk.inj (Except.ok.inj h)
        exact @Selects.single S table table src sides none (fun _ h => by cases h) (.inl rfl)
      · obtain ⟨rfl, rfl⟩ := Prod.mk.inj (Except.ok.inj h)
        exact .turn (List.perm_insertionSort _ sides) _ total
    · obtain ⟨rfl, rfl⟩ := Prod.mk.inj (Except.ok.inj h)
      exact .first (List.perm_insertionSort _ sides)

theorem cursor_advance : (table.advance src).cursor src = table.cursor src + 1 := by
  simp [RoutingTable.cursor, RoutingTable.advance]

/-- Weights whose sum fits are added up without an overflow. -/
theorem sumWeights_eq_ok {weight : Nat → Nat} (h : totalWeight weight sides < 2 ^ 64) :
    sumWeights B weight sides = .ok (totalWeight weight sides) := by
  have hfold : ∀ (sides : List Nat) (acc : Nat), acc + totalWeight weight sides < 2 ^ 64 →
      sides.foldlM (fun acc side => B.u64Add acc (weight side)) acc =
        (.ok (acc + totalWeight weight sides) : Outcome Nat) := by
    intro sides
    induction sides with
    | nil =>
      intro acc _
      simp [totalWeight]
      rfl
    | cons side rest ih =>
      intro acc hacc
      have htotal : totalWeight weight (side :: rest) = weight side + totalWeight weight rest := by
        simp [totalWeight]
      rw [htotal] at hacc ⊢
      rw [List.foldlM_cons, Build.u64Add, if_pos (by omega), ok_bind, ih _ (by omega), Nat.add_assoc]
  have hsum := hfold sides 0 (by omega)
  rw [Nat.zero_add] at hsum
  exact hsum

end Chosen

section Candidates
variable {sides : List (Option Side)} {allowed : Nat → Bool} {restrict : Bool}
  {routes : DiscoveryRoutes S} {candidate : Nat → DiscoverySideState S → Bool}
  {source : Option String} {eps : List S.DataEndpoint} {side : Nat}

theorem mem_eligibleSideIds : side ∈ eligibleSideIds sides allowed restrict ↔
    (sides[side]?.join.any fun s => !restrict || s.opts.linkLocalEnabled) = true ∧
      allowed side = true := by
  simp only [eligibleSideIds, List.mem_filter, List.mem_range, Bool.and_eq_true,
    and_iff_right_iff_imp]
  rintro ⟨hany, -⟩
  by_contra hlt
  rw [List.getElem?_eq_none (by omega)] at hany
  simp at hany

theorem nodup_eligibleSideIds : (eligibleSideIds sides allowed restrict).Nodup :=
  List.nodup_range.filter _

/-- The keys of some routes, each once. -/
theorem nodup_filtered (keep : Nat × DiscoverySideState S → Bool) :
    ((routes.toList.filter keep).map Prod.fst).Nodup := by
  have hkeys : (routes.toList.map Prod.fst).Nodup := by
    rw [Std.ExtTreeMap.map_fst_toList_eq_keys]
    exact Std.ExtTreeMap.nodup_keys
  exact hkeys.sublist (List.filter_sublist.map _)

theorem mem_genericTargets : side ∈ genericTargets routes candidate source eps ↔
    ∃ route, routes[side]? = some route ∧ (candidate side route = true ∧
      reachesSource source route = false) ∧ reachesEndpoints eps route = true := by
  simp [genericTargets, Std.ExtTreeMap.mem_toList_iff_getElem?_eq_some]

/-- Candidates that are fit to be sent to. -/
structure Sound (sides : List (Option Side)) (allowed : Nat → Bool) (restrict : Bool)
    (targets : List Nat) : Prop where
  nodup : targets.Nodup
  allowed : ∀ side ∈ targets, allowed side = true
  linkLocal : restrict = true → ∀ side ∈ targets,
    (sides[side]?.join.any fun s => s.opts.linkLocalEnabled) = true

theorem Sound.nil : Sound sides allowed restrict [] := ⟨List.nodup_nil, by simp, by simp⟩

theorem Sound.eligible : Sound sides allowed restrict (eligibleSideIds sides allowed restrict) where
  nodup := nodup_eligibleSideIds
  allowed _ h := (mem_eligibleSideIds.mp h).2
  linkLocal hrestrict side h := by
    simpa [hrestrict] using (mem_eligibleSideIds.mp h).1

/-- Some of the routes that pass the scan. -/
theorem Sound.ofRoutes (now : UInt64) (exclude : Option Nat)
    {keep : Nat × DiscoverySideState S → Bool}
    (hkeep : ∀ e, keep e = true →
      isCandidate sides allowed restrict now exclude e.1 e.2 = true) :
    Sound sides allowed restrict ((routes.toList.filter keep).map Prod.fst) := by
  have hpass : ∀ side ∈ (routes.toList.filter keep).map Prod.fst,
      (restrict = true → (sides[side]?.join.any fun s => s.opts.linkLocalEnabled) = true) ∧
        allowed side = true := by
    intro side hside
    obtain ⟨e, he, rfl⟩ := List.mem_map.mp hside
    have hcandidate := hkeep e (List.mem_filter.mp he).2
    simp only [isCandidate, Bool.and_eq_true, Bool.or_eq_true, Bool.not_eq_true'] at hcandidate
    exact ⟨fun hrestrict => hcandidate.1.2.resolve_left (by simp [hrestrict]), hcandidate.2⟩
  exact ⟨nodup_filtered keep, fun side h => (hpass side h).2, fun hr side h => (hpass side h).1 hr⟩

theorem Sound.exactTargets {now : UInt64} {exclude : Option Nat} : Sound sides allowed restrict
    (exactTargets routes (isCandidate sides allowed restrict now exclude) source) :=
  .ofRoutes now exclude fun e he => by
    simp only [Bool.and_eq_true] at he
    exact he.1

theorem Sound.genericTargets {now : UInt64} {exclude : Option Nat} : Sound sides allowed restrict
    (genericTargets routes (isCandidate sides allowed restrict now exclude) source eps) :=
  .ofRoutes now exclude fun e he => by
    simp only [Bool.and_eq_true] at he
    exact he.1.1

theorem Sound.filter {targets : List Nat} (h : Sound sides allowed restrict targets)
    (keep : Nat → Bool) : Sound sides allowed restrict (targets.filter keep) where
  nodup := h.nodup.filter _
  allowed side hside := h.allowed side (List.mem_filter.mp hside).1
  linkLocal hrestrict side hside := h.linkLocal hrestrict side (List.mem_filter.mp hside).1

/-- What is chosen from sound candidates is sound. -/
theorem Sound.select {B : Build} {table table' : RoutingTable S} {src : Option Nat}
    {targets chosen : List Nat} {origin : RouteSelectionOrigin}
    (h : Sound sides allowed restrict targets)
    (hselect : table.applyRouteSelection B src targets origin = .ok (table', chosen)) :
    Sound sides allowed restrict chosen := by
  have hchosen := applyRouteSelection_selects hselect
  exact ⟨hchosen.nodup h.nodup, fun side hside => h.allowed side (hchosen.subset side hside),
    fun hrestrict side hside => h.linkLocal hrestrict side (hchosen.subset side hside)⟩

end Candidates

section Carried
variable {B : Build} {data : RouterItem S} {pkt : Packet S}

theorem routeInfo_of_carries (h : data.Carries B pkt) :
    routeInfo B data = .ok (sortDedup pkt.endpoints, pkt.ty) := by
  cases data with
  | packet p =>
    obtain ⟨rfl, -⟩ := h
    rfl
  | serialized bytes =>
    rw [routeInfo, h.peekEnvelope_eq]
    rfl

theorem reliableControlTargetPacketId_of_carries (h : data.Carries B pkt) :
    reliableControlTargetPacketId B data = reliableControlTarget pkt := by
  cases data with
  | packet p =>
    obtain ⟨rfl, -⟩ := h
    rfl
  | serialized bytes => rw [reliableControlTargetPacketId, h.2, ok_bind]

/-- A packet that is no end-to-end acknowledgement names no packet. -/
theorem reliableControlTarget_eq_none
    (h : ¬(pkt.ty = S.reliableAck ∧ isEndToEndAckSender pkt.sender = true)) :
    reliableControlTarget pkt = .ok none :=
  if_neg h

theorem endpointsAreLinkLocalOnly_sortDedup {eps : List S.DataEndpoint} (hne : eps ≠ []) :
    endpointsAreLinkLocalOnly (sortDedup eps) = eps.all S.isLinkLocalOnly := by
  obtain ⟨ep, hep⟩ := List.exists_mem_of_ne_nil _ hne
  have hsome : (sortDedup eps).isEmpty = false := by
    simp only [List.isEmpty_eq_false_iff]
    exact List.ne_nil_of_mem (mem_sortDedup.mpr hep)
  simp only [endpointsAreLinkLocalOnly, hsome, Bool.not_false, Bool.true_and]
  rw [Bool.eq_iff_iff, List.all_eq_true, List.all_eq_true]
  simp only [mem_sortDedup]

end Carried
end RoutingTable
end Sedsprintf
