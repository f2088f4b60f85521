import Sedsprintf.Router.Routing
import Sedsprintf.Relay.Routing
import Sedsprintf.Wire.RoundTrip

/-!
# Routing plans

Whatever branch of `remote_side_plan` finds the sides and whatever mode chooses among
them, a packet goes only where it may go.
-/
namespace Sedsprintf

open Lib

/-- A side a plan may hold for a packet from `src`. -/
structure FitSide {S : Schema} (sides : List (Option Side)) (table : RoutingTable S)
    (pkt : Packet S) (src : Option Nat) (side : Nat) : Prop where
  target : ∃ s, sides[side]?.join = some s ∧ s.opts.egressEnabled = true ∧
    (pkt.endpoints.all S.isLinkLocalOnly = true → s.opts.linkLocalEnabled = true)
  source : ∀ ingress, src = some ingress →
    ∃ s, sides[ingress]?.join = some s ∧ s.opts.ingressEnabled = true
  base : table.routeOverrides[(⟨src, side⟩ : RouteKey)]? ≠ some false
  typed : table.typedRouteAllowed src (some pkt.ty) side = true

section Fit
variable {S : Schema} {sides : List (Option Side)} {table : RoutingTable S} {pkt : Packet S}
  {src : Option Nat} {side : Nat}

/-- What the rules say of an allowed route, whatever holds without one. -/
theorem FitSide.of_allowed {base : Bool}
    (hallowed : table.routeAllowedBy base sides src (some pkt.ty) side = true)
    (hlocal : pkt.endpoints.all S.isLinkLocalOnly = true →
      (sides[side]?.join.any fun s => s.opts.linkLocalEnabled) = true) :
    FitSide sides table pkt src side := by
  simp only [RoutingTable.routeAllowedBy, RoutingTable.sidesOpen, Bool.and_eq_true] at hallowed
  obtain ⟨⟨⟨hegress, hingress⟩, hbase⟩, htyped⟩ := hallowed
  obtain ⟨s, hs, hopen⟩ := (Option.any_eq_true _ _).mp hegress
  refine ⟨⟨s, hs, hopen, fun hall => ?_⟩, fun ingress hsrc => ?_, fun hfalse => ?_, htyped⟩
  · have := hlocal hall
    rw [hs] at this
    exact this
  · rw [hsrc] at hingress
    exact (Option.any_eq_true _ _).mp hingress
  · rw [hfalse] at hbase
    cases hbase

end Fit

/-- Every plan holds fit sides only, each once, and never turns a packet back: a router
unless a rule for the side itself says so, a relay never. -/
theorem routing_plans_sound {B : Build} {S : Schema} :
    (∀ (env : RoutingEnv S) (st : RouterInner S) (table table' : RoutingTable S)
        (data : RouterItem S) (pkt : Packet S) (src : Option Nat) (sides : List Nat),
      data.Carries B pkt → S.isDiscoveryType pkt.ty = false →
      ¬(pkt.ty = S.reliableAck ∧ isEndToEndAckSender pkt.sender = true) →
      st.remoteSidePlan B env table data src = .ok (table', sides) →
      sides.Nodup ∧ ∀ side ∈ sides, FitSide st.sides table pkt src side ∧
        st.routeAllowed table src (some pkt.ty) side = true ∧
        (src = some side → table.routeOverrides[(⟨src, side⟩ : RouteKey)]? = some true)) ∧
    (∀ (now : UInt64) (st : RelayInner S) (table table' : RelayTable S) (data : RouterItem S)
        (pkt : Packet S) (src : Nat) (sides : List Nat),
      data.Carries B pkt → S.isDiscoveryType pkt.ty = false →
      ¬(pkt.ty = S.reliableAck ∧ isEndToEndAckSender pkt.sender = true) →
      st.remoteSidePlan B now table data src = .ok (table', sides) →
      sides.Nodup ∧ ∀ side ∈ sides, FitSide st.sides table.toRoutingTable pkt (some src) side ∧
        st.routeAllowed table.toRoutingTable (some src) (some pkt.ty) side = true ∧ src ≠ side) := by
  constructor
  · intro env st table table' data pkt src sides hcarries hdiscovery hack hplan
    have hsound := RouterInner.remoteSidePlan_sound hcarries hdiscovery hack hplan
    refine ⟨hsound.nodup, fun side hside => ?_⟩
    have hallowed := hsound.allowed side hside
    refine ⟨.of_allowed hallowed fun hall => hsound.linkLocal hall side hside, hallowed, ?_⟩
    intro hsrc
    -- the default refuses, so a rule must allow
    simp only [RouterInner.routeAllowed, RoutingTable.routeAllowedBy, Bool.and_eq_true] at hallowed
    have hbase := hallowed.1.2
    cases hrule : table.routeOverrides[(⟨src, side⟩ : RouteKey)]? with
    | none =>
      rw [hrule, hsrc] at hbase
      simp at hbase
    | some enabled =>
      rw [hrule] at hbase
      exact congrArg some hbase
  · intro now st table table' data pkt src sides hcarries hdiscovery hack hplan
    have hsound := RelayInner.remoteSidePlan_sound hcarries hdiscovery hack hplan
    refine ⟨hsound.nodup, fun side hside => ?_⟩
    have hallowed := hsound.allowed side hside
    have hsplit := hallowed
    simp only [RelayInner.routeAllowed, Bool.and_eq_true, bne_iff_ne, ne_eq, Option.some.injEq]
      at hsplit
    exact ⟨.of_allowed hsplit.2 fun hall => hsound.linkLocal hall side hside, hallowed, hsplit.1⟩

def RouterInner.twoSided {S : Schema} (st : RouterInner S) : RouterInner S :=
  { st with sides := [some .reliable, some .reliable] }

def RelayInner.twoSided {S : Schema} (st : RelayInner S) : RelayInner S :=
  { st with sides := [some .reliable, some .reliable] }

/-- A fix from side 0 of two goes to side 1. -/
theorem routing_plans_sound_gps :
    (∃ (inner : RouterInner defaultSchema) (table : RoutingTable defaultSchema),
      RouterInner.new hostBuild = .ok inner ∧
      inner.twoSided.remoteSidePlan hostBuild ⟨.bare "fc", 0, none⟩ .empty (.packet gpsPacket)
        (some 0) = .ok (table, [1]) ∧
      FitSide [some .reliable, some .reliable] RoutingTable.empty gpsPacket (some 0) 1) ∧
    (∃ (inner : RelayInner defaultSchema) (table : RelayTable defaultSchema),
      RelayInner.new hostBuild = .ok inner ∧
      inner.twoSided.remoteSidePlan hostBuild 0 ⟨.empty, ∅, []⟩ (.packet gpsPacket) 0 =
        .ok (table, [1]) ∧
      FitSide [some .reliable, some .reliable] RoutingTable.empty gpsPacket (some 0) 1) := by
  have hcarries : RouterItem.Carries hostBuild (.packet gpsPacket) gpsPacket :=
    ⟨rfl, by decide +kernel⟩
  constructor
  · obtain ⟨inner, hnew, hview⟩ := Option.bind_eq_some_iff.mp (show
      ((RouterInner.new hostBuild : Outcome (RouterInner defaultSchema)).toOption.bind fun inner =>
        (inner.twoSided.remoteSidePlan hostBuild ⟨.bare "fc", 0, none⟩ .empty (.packet gpsPacket)
          (some 0)).toOption.map Prod.snd) = some [1] from by decide +kernel)
    obtain ⟨plan, hplan, hsides⟩ := Option.map_eq_some_iff.mp hview
    obtain ⟨table, sides⟩ := plan
    obtain rfl : sides = [1] := hsides
    have hplan := toOption_eq_some.mp hplan
    have hsound := routing_plans_sound.1 _ _ _ _ _ _ _ _ hcarries (by decide) (by decide) hplan
    exact ⟨inner, table, toOption_eq_some.mp hnew, hplan, (hsound.2 1 (by simp)).1⟩
  · obtain ⟨inner, hnew, hview⟩ := Option.bind_eq_some_iff.mp (show
      ((RelayInner.new hostBuild : Outcome (RelayInner defaultSchema)).toOption.bind fun inner =>
        (inner.twoSided.remoteSidePlan hostBuild 0 ⟨.empty, ∅, []⟩ (.packet gpsPacket) 0).toOption.map
            Prod.snd) = some [1] from by decide +kernel)
    obtain ⟨plan, hplan, hsides⟩ := Option.map_eq_some_iff.mp hview
    obtain ⟨table, sides⟩ := plan
    obtain rfl : sides = [1] := hsides
    have hplan := toOption_eq_some.mp hplan
    have hsound := routing_plans_sound.2 _ _ _ _ _ _ _ _ hcarries (by decide) (by decide) hplan
    exact ⟨inner, table, toOption_eq_some.mp hnew, hplan, (hsound.2 1 (by simp)).1⟩

end Sedsprintf
