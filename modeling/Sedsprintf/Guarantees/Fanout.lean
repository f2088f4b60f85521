import Sedsprintf.Router.Routing
import Sedsprintf.Router.System
import Sedsprintf.Wire.RoundTrip

/-!
# Explicit fan-out

`set_source_route_mode` stores `Fanout` as the absence of a mode, and a source without a
mode gets the adaptive choice of one path among discovered sides. Asking for fan-out
therefore never brings it.
-/
namespace Sedsprintf

open Lib

namespace RouterInner
variable {S : Schema}

/-- Discovery knows `side` as a way to one of the packet's endpoints: its route is fresh,
allowed from `src`, and not where the packet came from. -/
structure KnownSide (env : RoutingEnv S) (st : RouterInner S) (table : RoutingTable S)
    (pkt : Packet S) (src : Option Nat) (side : Nat) : Prop where
  reaches : ∃ route, st.discoveryRoutes[side]? = some route ∧
    saturatingSub env.now route.lastSeenMs ≤ discoveryRouteTtlMs ∧
    ∃ ep ∈ pkt.endpoints, ep ∈ route.reachable
  allowed : st.routeAllowed table src (some pkt.ty) side = true
  linkLocal : pkt.endpoints.all S.isLinkLocalOnly = true →
    (st.sides[side]?.join.any fun s => s.opts.linkLocalEnabled) = true
  other : src ≠ some side

/-- After `set_source_route_mode(src, Fanout)` the packet is planned for all the sides
discovery knows. -/
def HonoursFanout (B : Build) (env : RoutingEnv S) (st : RouterInner S) (table : RoutingTable S)
    (data : RouterItem S) (pkt : Packet S) (src : Option Nat) : Prop :=
  ∃ table' sides,
    st.remoteSidePlan B env (table.setSourceRouteMode src .fanout) data src = .ok (table', sides) ∧
      ∀ side, KnownSide env st table pkt src side → side ∈ sides

/-- The sides discovery knows are the generic targets of the scan. -/
theorem mem_genericTargets_iff {B : Build} {env : RoutingEnv S} {st : RouterInner S}
    {table : RoutingTable S} {data : RouterItem S} {pkt : Packet S} {src : Option Nat} {side : Nat}
    (hcarries : data.Carries B pkt) :
    side ∈ RoutingTable.genericTargets st.discoveryRoutes
        (RoutingTable.isCandidate st.sides
          (fun side => st.routeAllowed table src (some pkt.ty) side)
          (RoutingTable.endpointsAreLinkLocalOnly (sortDedup pkt.endpoints)) env.now src)
        none (sortDedup pkt.endpoints) ↔
      KnownSide env st table pkt src side := by
  rw [RoutingTable.mem_genericTargets,
    RoutingTable.endpointsAreLinkLocalOnly_sortDedup hcarries.endpoints_ne_nil]
  have hreaches : ∀ route : DiscoverySideState S,
      RoutingTable.reachesEndpoints (sortDedup pkt.endpoints) route = true ↔
        ∃ ep ∈ pkt.endpoints, ep ∈ route.reachable := fun route => by
    simp [RoutingTable.reachesEndpoints, List.any_eq_true]
  constructor
  · rintro ⟨route, hroute, ⟨hcandidate, -⟩, hends⟩
    simp only [RoutingTable.isCandidate, Bool.and_eq_true, Bool.or_eq_true, Bool.not_eq_true',
      decide_eq_true_eq, bne_iff_ne, ne_eq] at hcandidate
    obtain ⟨⟨⟨hother, hfresh⟩, hlocal⟩, hallowed⟩ := hcandidate
    exact ⟨⟨route, hroute, hfresh, (hreaches route).mp hends⟩, hallowed,
      fun hall => hlocal.resolve_left (by simp [hall]), hother⟩
  · rintro ⟨⟨route, hroute, hfresh, hends⟩, hallowed, hlocal, hother⟩
    refine ⟨route, hroute, ⟨?_, rfl⟩, (hreaches route).mpr hends⟩
    simp only [RoutingTable.isCandidate, Bool.and_eq_true, Bool.or_eq_true, Bool.not_eq_true',
      decide_eq_true_eq, bne_iff_ne, ne_eq]
    refine ⟨⟨⟨hother, hfresh⟩, ?_⟩, hallowed⟩
    cases hall : pkt.endpoints.all S.isLinkLocalOnly with
    | true => exact .inr (hlocal hall)
    | false => exact .inl rfl

/-- With no mode stored, sides that discovery found are cut down to one. -/
theorem length_plan_of_discovered {B : Build} {env : RoutingEnv S} {st : RouterInner S}
    {table table' : RoutingTable S} {data : RouterItem S} {pkt : Packet S} {src : Option Nat}
    {a b : Nat} {sides : List Nat} (hcarries : data.Carries B pkt)
    (hreliable : S.isReliableType pkt.ty = false)
    (hinternal : S.isInternalControlType pkt.ty = false)
    (hmode : table.sourceRouteModes[src]? = none) (ha : KnownSide env st table pkt src a)
    (hb : KnownSide env st table pkt src b) (hne : a ≠ b)
    (hplan : st.remoteSidePlan B env table data src = .ok (table', sides)) : sides.length ≤ 1 := by
  simp only [Schema.isInternalControlType, Bool.or_eq_false_iff] at hinternal
  obtain ⟨⟨hcontrol, htimesync⟩, hdiscovery⟩ := hinternal
  have hack : ¬(pkt.ty = S.reliableAck ∧ isEndToEndAckSender pkt.sender = true) := by
    rintro ⟨hty, -⟩
    simp [Schema.isReliableControlType, hty] at hcontrol
  have hma := (mem_genericTargets_iff hcarries).mpr ha
  have hmb := (mem_genericTargets_iff hcarries).mpr hb
  obtain ⟨route, hroute, -, -⟩ := ha.reaches
  have hroutes : st.discoveryRoutes.isEmpty = false := by
    by_contra hempty
    rw [Bool.not_eq_false, Std.ExtTreeMap.isEmpty_iff] at hempty
    rw [hempty] at hroute
    simp at hroute
  have hexact : ∀ candidate, RoutingTable.exactTargets st.discoveryRoutes candidate none = [] :=
    fun candidate => by simp [RoutingTable.exactTargets, RoutingTable.reachesSource]
  rw [remoteSidePlan_of_carries hcarries hdiscovery hack] at hplan
  simp only [htimesync, Bool.false_eq_true, if_false, planTargets, hroutes, hexact,
    List.isEmpty_nil, Bool.not_true] at hplan
  generalize hgeneric : RoutingTable.genericTargets st.discoveryRoutes _ none
    (sortDedup pkt.endpoints) = generic at hplan hma hmb
  -- two sides are known, so there is something to choose from
  have hlong : 1 < generic.length := by
    rcases generic with _ | ⟨c, _ | ⟨d, rest⟩⟩
    · cases hma
    · rw [List.mem_singleton] at hma hmb
      exact absurd (hma.trans hmb.symm) hne
    · simp
  have hsome : generic.isEmpty = false := by
    cases generic with
    | nil => simp at hlong
    | cons => rfl
  simp only [hsome, Bool.not_false, if_true, RoutingTable.discoveredOrigin, hreliable,
    Bool.false_eq_true, if_false, RoutingTable.applyRouteSelection, hmode,
    if_neg (Nat.not_le.mpr hlong)] at hplan
  exact RoutingTable.length_applyAdaptiveDiscoverySelection hplan

end RouterInner

/-- However the statistics stand, fan-out asked for is not given. -/
theorem fanout_never_honoured {B : Build} {S : Schema} (env : RoutingEnv S) (st : RouterInner S)
    (table : RoutingTable S) (data : RouterItem S) (pkt : Packet S) (src : Option Nat) (a b : Nat)
    (hcarries : data.Carries B pkt) (hreliable : S.isReliableType pkt.ty = false)
    (hinternal : S.isInternalControlType pkt.ty = false)
    (ha : RouterInner.KnownSide env st table pkt src a)
    (hb : RouterInner.KnownSide env st table pkt src b) (hne : a ≠ b) :
    ¬RouterInner.HonoursFanout B env st table data pkt src := by
  rintro ⟨table', sides, hplan, hall⟩
  have hmode : (table.setSourceRouteMode src .fanout).sourceRouteModes[src]? = none := by
    simp [RoutingTable.setSourceRouteMode]
  -- the mode is not read by the rules, so the same sides are known
  have hsame : ∀ side, RouterInner.KnownSide env st table pkt src side →
      RouterInner.KnownSide env st (table.setSourceRouteMode src .fanout) pkt src side :=
    fun side h => ⟨h.reaches, h.allowed, h.linkLocal, h.other⟩
  have hlength := RouterInner.length_plan_of_discovered hcarries hreliable hinternal hmode
    (hsame a ha) (hsame b hb) hne hplan
  have hma := hall a ha
  have hmb := hall b hb
  rcases sides with _ | ⟨c, _ | ⟨d, rest⟩⟩
  · cases hma
  · rw [List.mem_singleton] at hma hmb
    exact hne (hma.trans hmb.symm)
  · simp at hlength

/-- A battery reading for the radio and the card. -/
def batteryPacket : Packet defaultSchema where
  ty := 2
  dataSize := 8
  sender := "fc"
  endpoints := [0, 1]
  timestamp := 300
  payload := .inline 8 [0, 0, 32, 65, 0, 0, 160, 65]

/-- A board that announces the radio. -/
def radioAnnounce (sender : String) : Packet defaultSchema where
  ty := 10
  dataSize := 4
  sender := sender
  endpoints := [3]
  timestamp := 0
  payload := .inline 4 [1, 0, 0, 0]

/-- Two boards behind two sides, both of which lead to the radio. -/
def twoRadios : List (RouterSystem.Action hostBuild defaultSchema) :=
  [.addSide .reliable, .addSide .reliable,
    .learnDiscovery "fc" (radioAnnounce "ground") (some 0) (fun _ => .ok ∅) 0,
    .learnDiscovery "fc" (radioAnnounce "tower") (some 1) (fun _ => .ok ∅) 0]

/-- A router of the name `fc` that only forwards. -/
def fcRouting : RoutingEnv defaultSchema := ⟨.bare "fc", 0, none⟩

/-- What makes a side known, as a computation. -/
def RouterInner.knows (st : RouterInner defaultSchema) (side : Nat) : Bool :=
  (st.discoveryRoutes[side]?.any fun route =>
    decide (saturatingSub 0 route.lastSeenMs ≤ discoveryRouteTtlMs) &&
      route.reachable.contains 1) &&
    st.routeAllowed .empty none (some batteryPacket.ty) side

theorem RouterInner.knownSide_of_knows {st : RouterInner defaultSchema} {side : Nat}
    (h : st.knows side = true) :
    RouterInner.KnownSide fcRouting st .empty batteryPacket none side := by
  simp only [RouterInner.knows, Bool.and_eq_true] at h
  obtain ⟨hreaches, hallowed⟩ := h
  obtain ⟨route, hroute, hknown⟩ := (Option.any_eq_true _ _).mp hreaches
  simp only [Bool.and_eq_true, decide_eq_true_eq, List.contains_iff_mem] at hknown
  refine ⟨⟨route, hroute, hknown.1, 1, by decide, hknown.2⟩, hallowed, fun hall => ?_, by simp⟩
  exact absurd hall (by decide)

/-- Both sides lead to the radio, and one of them is chosen. -/
theorem fanout_never_honoured_radio :
    ∃ (inner : RouterInner defaultSchema) (s : RouterSystem defaultSchema),
      RouterInner.new hostBuild = .ok inner ∧
      Run (RouterSystem.step hostBuild true) anyStep (.initial inner) twoRadios s ∧
      ¬RouterInner.HonoursFanout hostBuild fcRouting s.inner .empty (.packet batteryPacket)
        batteryPacket none := by
  obtain ⟨inner, s, hnew, hrun, hview⟩ := @System.run_of_execute defaultSchema _ _
    (RouterSystem.step hostBuild true) twoRadios _
    (fun s : RouterSystem defaultSchema => (s.inner.knows 0, s.inner.knows 1)) (true, true)
    (RouterInner.new hostBuild) (by decide +kernel)
  obtain ⟨hfirst, hsecond⟩ := Prod.mk.inj hview
  exact ⟨inner, s, hnew, hrun, fanout_never_honoured fcRouting s.inner .empty _ _ none 0 1
    ⟨rfl, by decide +kernel⟩ (by decide) (by decide) (RouterInner.knownSide_of_knows hfirst)
    (RouterInner.knownSide_of_knows hsecond) (by decide)⟩

/-- The plan behind `Fanout` holds one of the two sides only. -/
theorem fanout_dropped :
    ∃ (inner : RouterInner defaultSchema) (s : RouterSystem defaultSchema),
      RouterInner.new hostBuild = .ok inner ∧
      Run (RouterSystem.step hostBuild true) anyStep (.initial inner) twoRadios s ∧
      RoutingTable.checkRoute s.inner.sides none none = .ok () ∧
      RouterInner.KnownSide fcRouting s.inner .empty batteryPacket none 0 ∧
      RouterInner.KnownSide fcRouting s.inner .empty batteryPacket none 1 ∧
      (∃ table', s.inner.remoteSidePlan hostBuild fcRouting
        (RoutingTable.empty.setSourceRouteMode none .fanout) (.packet batteryPacket) none =
          .ok (table', [0])) ∧
      ¬RouterInner.HonoursFanout hostBuild fcRouting s.inner .empty (.packet batteryPacket)
        batteryPacket none := by
  obtain ⟨inner, s, hnew, hrun, hview⟩ := @System.run_of_execute defaultSchema _ _
    (RouterSystem.step hostBuild true) twoRadios _
    (fun s : RouterSystem defaultSchema => (s.inner.knows 0, s.inner.knows 1,
      (s.inner.remoteSidePlan hostBuild fcRouting
        (RoutingTable.empty.setSourceRouteMode none .fanout) (.packet batteryPacket)
        none).toOption.map Prod.snd)) (true, true, some [0])
    (RouterInner.new hostBuild) (by decide +kernel)
  obtain ⟨hfirst, hview⟩ := Prod.mk.inj hview
  obtain ⟨hsecond, hplan⟩ := Prod.mk.inj hview
  obtain ⟨plan, hplan, hsides⟩ := Option.map_eq_some_iff.mp hplan
  obtain ⟨table', sides⟩ := plan
  obtain rfl : sides = [0] := hsides
  have hplan := toOption_eq_some.mp hplan
  refine ⟨inner, s, hnew, hrun, rfl, RouterInner.knownSide_of_knows hfirst,
    RouterInner.knownSide_of_knows hsecond, ⟨table', hplan⟩, ?_⟩
  rintro ⟨table₂, sides, hplan₂, hall⟩
  rw [hplan] at hplan₂
  obtain ⟨-, rfl⟩ := Prod.mk.inj (Except.ok.inj hplan₂)
  have hmem := hall 1 (RouterInner.knownSide_of_knows hsecond)
  simp at hmem

end Sedsprintf
