import Sedsprintf.Router.Effects
import Sedsprintf.Stores.Routes

/-!
# What stays for the packets of one source

Handlers, sends and error packets leave the sides, the route rules and the return routes as
they are; routes of the cache may be evicted on the way, none is learned. The cursor of a
source moves only when a plan is made for it.
-/
namespace Sedsprintf

open Lib

section Routes
variable {S : Schema}

namespace RouterInner
variable {B : Build}

theorem pushTransmit_routesShrink (st : RouterInner S) (queued : TxQueued S) :
    RoutesShrink st.discoveryRoutes (st.pushTransmit B queued).1.discoveryRoutes := by
  have hroom := @Stores.makeSharedQueueRoom_routesShrink S _ _ B B.wordSize (RouterQueues.set B)
    st.stores (queued.byteCost B) (.queue .transmit)
  unfold pushTransmit makeSharedQueueRoom
  generalize Stores.makeSharedQueueRoom B B.wordSize (RouterQueues.set B) st.stores
    (queued.byteCost B) (.queue .transmit) = r at hroom
  obtain ⟨st', _ | ⟨⟨⟩⟩⟩ := r
  · exact hroom
  · exact hroom

theorem isDuplicatePkt_routesShrink (st : RouterInner S) (data : RouterItem S) :
    RoutesShrink st.discoveryRoutes (st.isDuplicatePkt B data).1.discoveryRoutes := by
  rcases @isDuplicatePkt_cases B S st data with heq | ⟨id, -, -, heq⟩
  · rw [heq]
    exact .refl _
  · rw [heq]
    exact Stores.pushRecentRx_routesShrink st.stores id

end RouterInner
end Routes

namespace RouterState
variable {S : Schema}

/-- The plans followed for packets from `src`. -/
def forwardsFrom (src : Option Nat) (s : RouterState S) : List (RouterItem S × List Nat) :=
  s.events.filterMap fun
    | .forwarded from' data sides => if from' = src then some (data, sides) else none
    | _ => none

theorem forwardsFrom_congr {src : Option Nat} {s s' : RouterState S} (h : s'.events = s.events) :
    s'.forwardsFrom src = s.forwardsFrom src := by
  rw [forwardsFrom, forwardsFrom, h]

/-- The ids acknowledged end to end. -/
def acks (s : RouterState S) : List UInt64 :=
  s.events.filterMap fun
    | .acknowledged packetId => some packetId
    | _ => none

/-- The rules, weights and return routes of a table. -/
structure SameRules (table table' : RoutingTable S) : Prop where
  routeOverrides : table'.routeOverrides = table.routeOverrides
  typedRouteOverrides : table'.typedRouteOverrides = table.typedRouteOverrides
  routeWeights : table'.routeWeights = table.routeWeights
  sourceRouteModes : table'.sourceRouteModes = table.sourceRouteModes
  reliableReturnRoutes : table'.reliableReturnRoutes = table.reliableReturnRoutes

/-- What routing a packet from `src` reads is as it was, but for routes that left the
cache, and nothing was routed for `src`. -/
structure Unrouted (src : Option Nat) (s s' : RouterState S) : Prop where
  sides : s'.inner.sides = s.inner.sides
  routes : RoutesShrink s.inner.discoveryRoutes s'.inner.discoveryRoutes
  rules : SameRules s.table s'.table
  cursor : s'.table.cursor src = s.table.cursor src
  forwards : s'.forwardsFrom src = s.forwardsFrom src

/-- What stays when error packets go out while a packet from `src` is handled: what its routing
reads, but for routes that left the cache and the router's own cursor, and the acknowledgements. -/
structure Aside (src : Option Nat) (s s' : RouterState S) : Prop where
  sides : s'.inner.sides = s.inner.sides
  routes : RoutesShrink s.inner.discoveryRoutes s'.inner.discoveryRoutes
  rules : SameRules s.table s'.table
  priorities : s'.table.routePriorities = s.table.routePriorities
  cursor : src ≠ none → s'.table.cursor src = s.table.cursor src
  acks : s'.acks = s.acks

/-- Nothing was acknowledged either. -/
structure Settled (src : Option Nat) (s s' : RouterState S) : Prop extends Unrouted src s s' where
  acks : s'.acks = s.acks

section Settled
variable {src : Option Nat} {s s' s'' : RouterState S}

theorem SameRules.refl (table : RoutingTable S) : SameRules table table := ⟨rfl, rfl, rfl, rfl, rfl⟩

theorem SameRules.trans {table table' table'' : RoutingTable S} (h : SameRules table table')
    (h' : SameRules table' table'') : SameRules table table'' :=
  ⟨h'.1.trans h.1, h'.2.trans h.2, h'.3.trans h.3, h'.4.trans h.4, h'.5.trans h.5⟩

theorem SameRules.routeAllowed_eq {table table' : RoutingTable S} (h : SameRules table table')
    (st : RouterInner S) (from' : Option Nat) (ty : Option S.DataType) (dst : Nat) :
    st.routeAllowed table' from' ty dst = st.routeAllowed table from' ty dst := by
  simp only [RouterInner.routeAllowed, RoutingTable.routeAllowedBy, RoutingTable.typedRouteAllowed,
    h.routeOverrides, h.typedRouteOverrides]

theorem SameRules.routeWeight_eq {table table' : RoutingTable S} (h : SameRules table table') :
    table'.routeWeight src = table.routeWeight src := by
  funext side
  rw [RoutingTable.routeWeight, RoutingTable.routeWeight, h.routeWeights]

theorem Unrouted.refl (s : RouterState S) : Unrouted src s s :=
  ⟨rfl, .refl _, .refl _, rfl, rfl⟩

theorem Unrouted.trans (h : Unrouted src s s') (h' : Unrouted src s' s'') : Unrouted src s s'' :=
  ⟨h'.sides.trans h.sides, h.routes.trans h'.routes, h.rules.trans h'.rules,
    h'.cursor.trans h.cursor, h'.forwards.trans h.forwards⟩

theorem Settled.refl (s : RouterState S) : Settled src s s := ⟨.refl s, rfl⟩

theorem Settled.trans (h : Settled src s s') (h' : Settled src s' s'') : Settled src s s'' :=
  ⟨h.toUnrouted.trans h'.toUnrouted, h'.acks.trans h.acks⟩

theorem cursor_advance_of_ne {table : RoutingTable S} {other : Option Nat} (hne : other ≠ src) :
    (table.advance other).cursor src = table.cursor src := by
  simp only [RoutingTable.cursor, RoutingTable.advance]
  rw [Std.ExtTreeMap.getElem?_insert, if_neg]
  exact fun heq => hne (Std.LawfulEqOrd.eq_of_compare heq)

/-- A push leaves it alone. -/
theorem Unrouted.push {B : Build} (s : RouterState S) (queued : TxQueued S) :
    Unrouted src s { s with inner := (s.inner.pushTransmit B queued).1 } :=
  ⟨(RouterInner.pushTransmit_pushes (B := B) s.inner queued).toKeeps.sides,
    RouterInner.pushTransmit_routesShrink _ _, .refl _, rfl, rfl⟩

/-- Where callbacks leave it alone, so does every effect but a plan for `src`. -/
theorem Unrouted.effect {B : Build} {w : RouterWorld S}
    (hreact : ∀ callback s, Unrouted src s (w.react callback s))
    (heffect : Effect B w (· ≠ src) s s') : Unrouted src s s' := by
  cases heffect with
  | handled handler data hok => exact ⟨rfl, .refl _, .refl _, rfl, by simp [forwardsFrom]⟩
  | advance hsrc =>
    exact ⟨rfl, .refl _, ⟨rfl, rfl, rfl, rfl, rfl⟩, cursor_advance_of_ne hsrc, rfl⟩
  | forwarded hsrc data sides =>
    exact ⟨rfl, .refl _, .refl _, rfl, by simp [forwardsFrom, hsrc]⟩
  | push queued => exact .push s queued
  | note data =>
    have hkeeps := (RouterInner.isDuplicatePkt_keeps (B := B) s.inner data).1
    exact ⟨hkeeps.sides, RouterInner.isDuplicatePkt_routesShrink _ _, .refl _, rfl, rfl⟩
  | remembered packetId => exact ⟨rfl, .refl _, .refl _, rfl, by simp [forwardsFrom]⟩
  | forget data =>
    rcases @RouterInner.removePktId_cases B S s.inner data with heq | ⟨id, -, heq⟩
    · rw [heq]
      exact .refl s
    · rw [heq]
      exact ⟨rfl, .refl _, .refl _, rfl, rfl⟩
  | track hid hexpected => exact ⟨rfl, .refl _, .refl _, rfl, by simp [forwardsFrom]⟩
  | transmit hlive streams stats =>
    exact ⟨rfl, .refl _, ⟨rfl, rfl, rfl, rfl, rfl⟩, rfl, by simp [forwardsFrom]⟩
  | react callback => exact hreact callback s

theorem Settled.effect {B : Build} {w : RouterWorld S}
    (hreact : ∀ callback s, Settled src s (w.react callback s))
    (heffect : Effect B w (· ≠ src) s s') : Settled src s s' := by
  refine ⟨.effect (fun callback s => (hreact callback s).toUnrouted) heffect, ?_⟩
  cases heffect with
  | handled handler data hok => simp [RouterState.acks]
  | remembered packetId => simp [RouterState.acks]
  | forwarded hsrc data sides => simp [RouterState.acks]
  | track hid hexpected => simp [RouterState.acks]
  | transmit hlive streams stats => simp [RouterState.acks]
  | react callback => exact (hreact callback s).acks
  | _ => rfl

section Aside

theorem Aside.refl (s : RouterState S) : Aside src s s :=
  ⟨rfl, .refl _, .refl _, rfl, fun _ => rfl, rfl⟩

theorem Aside.trans (h : Aside src s s') (h' : Aside src s' s'') : Aside src s s'' :=
  ⟨h'.sides.trans h.sides, h.routes.trans h'.routes, h.rules.trans h'.rules,
    h'.priorities.trans h.priorities, fun hsrc => (h'.cursor hsrc).trans (h.cursor hsrc),
    h'.acks.trans h.acks⟩

theorem Aside.effect {B : Build} {w : RouterWorld S}
    (hreact : ∀ callback s, Aside src s (w.react callback s))
    (heffect : Effect B w (fun other => src = none ∨ other ≠ src) s s') : Aside src s s' := by
  cases heffect with
  | handled handler data hok =>
    exact ⟨rfl, .refl _, .refl _, rfl, fun _ => rfl, by simp [RouterState.acks]⟩
  | advance hsrc =>
    refine ⟨rfl, .refl _, ⟨rfl, rfl, rfl, rfl, rfl⟩, rfl, fun hsome => ?_, rfl⟩
    exact cursor_advance_of_ne (hsrc.resolve_left hsome)
  | forwarded hsrc data sides =>
    exact ⟨rfl, .refl _, .refl _, rfl, fun _ => rfl, by simp [RouterState.acks]⟩
  | push queued =>
    have hsides := (RouterInner.pushTransmit_pushes (B := B) s.inner queued).toKeeps.sides
    exact ⟨hsides, RouterInner.pushTransmit_routesShrink _ _, .refl _, rfl, fun _ => rfl, rfl⟩
  | note data =>
    have hsides := (RouterInner.isDuplicatePkt_keeps (B := B) s.inner data).1.sides
    exact ⟨hsides, RouterInner.isDuplicatePkt_routesShrink _ _, .refl _, rfl, fun _ => rfl, rfl⟩
  | remembered packetId =>
    exact ⟨rfl, .refl _, .refl _, rfl, fun _ => rfl, by simp [RouterState.acks]⟩
  | forget data =>
    rcases @RouterInner.removePktId_cases B S s.inner data with heq | ⟨id, -, heq⟩
    · rw [heq]
      exact .refl s
    · rw [heq]
      exact ⟨rfl, .refl _, .refl _, rfl, fun _ => rfl, rfl⟩
  | track hid hexpected =>
    exact ⟨rfl, .refl _, .refl _, rfl, fun _ => rfl, by simp [RouterState.acks]⟩
  | transmit hlive streams stats =>
    exact ⟨rfl, .refl _, ⟨rfl, rfl, rfl, rfl, rfl⟩, rfl, fun _ => rfl, by simp [RouterState.acks]⟩
  | react callback => exact hreact callback s

/-- What picks among flooded sides. -/
theorem Aside.applyRouteSelection_eq {B : Build} {side : Nat} (h : Aside (some side) s s')
    (targets : List Nat) :
    (s'.table.applyRouteSelection B (some side) targets .flood).map Prod.snd =
      (s.table.applyRouteSelection B (some side) targets .flood).map Prod.snd := by
  have hpriority : s'.table.routePriority (some side) = s.table.routePriority (some side) := by
    funext target
    rw [RoutingTable.routePriority, RoutingTable.routePriority, h.priorities]
  simp only [RoutingTable.applyRouteSelection, h.rules.sourceRouteModes, h.rules.routeWeight_eq,
    RoutingTable.takeTurn, h.cursor nofun, hpriority]
  split
  · rfl
  · split
    · contradiction
    · rfl
    · rfl
    · cases RoutingTable.sumWeights B (s.table.routeWeight (some side))
          (targets.insertionSort (· ≤ ·)) with
      | error e => rfl
      | ok total =>
        simp only [ok_bind]
        split
        · rfl
        · rfl
    · rfl

/-- Without discovered routes the routing of a packet from a side reads nothing else. -/
theorem Aside.remoteSidePlan_eq {B : Build} {w : RouterWorld S} {side : Nat} {p : Packet S}
    {data : RouterItem S} (h : Aside (some side) s s')
    (hroutes : s.inner.discoveryRoutes.isEmpty = true) (hcarries : data.Carries B p)
    (hdiscovery : S.isDiscoveryType p.ty = false)
    (hack : ¬(p.ty = S.reliableAck ∧ isEndToEndAckSender p.sender = true)) :
    (RouterProgram.remoteSidePlan B w data (some side) s').2 =
      (RouterProgram.remoteSidePlan B w data (some side) s).2 := by
  have hplan (t : RouterState S) : (RouterProgram.remoteSidePlan B w data (some side) t).2 =
      (t.inner.remoteSidePlan B w.routing t.table data (some side)).map Prod.snd := by
    unfold RouterProgram.remoteSidePlan
    cases t.inner.remoteSidePlan B w.routing t.table data (some side) with
    | error e => rfl
    | ok planned => rfl
  have hempty : s.inner.discoveryRoutes = ∅ := Std.ExtTreeMap.isEmpty_iff.mp hroutes
  have hempty' : s'.inner.discoveryRoutes = ∅ := by
    refine Std.ExtTreeMap.ext_getElem? fun other => Option.eq_none_iff_forall_not_mem.mpr ?_
    intro route hroute
    have hgone := h.routes other route hroute
    simp [hempty] at hgone
  have hallowed : s'.inner.routeAllowed s'.table = s.inner.routeAllowed s.table := by
    funext from' ty dst
    rw [RouterInner.routeAllowed, h.sides, ← RouterInner.routeAllowed, h.rules.routeAllowed_eq]
  rw [hplan, hplan, RouterInner.remoteSidePlan_of_carries hcarries hdiscovery hack,
    RouterInner.remoteSidePlan_of_carries hcarries hdiscovery hack]
  simp only [RouterInner.planTargets, hempty, hempty', hallowed, h.sides,
    Std.ExtTreeMap.isEmpty_empty, if_true]
  split
  · exact h.applyRouteSelection_eq _
  · split
    · exact h.applyRouteSelection_eq _
    · exact h.applyRouteSelection_eq _

end Aside
end Settled
end RouterState

/-- A relation that every effect is in is what handlers, sends and error packets are in. -/
theorem Guards.of_relation {S : Schema} {B : Build} {w : RouterWorld S}
    {plans : Option Nat → Prop} {rel : RouterState S → RouterState S → Prop}
    (htrans : ∀ {s s' s''}, rel s s' → rel s' s'' → rel s s'')
    (heffect : ∀ {s s'}, Effect B w plans s s' → rel s s') (hsides : w.KeepsSides)
    (hnone : plans none) (depth : Nat) (s₀ : RouterState S) :
    Guards B w (RouterProgram.reportError B w depth) plans (rel s₀) (rel s₀) where
  keeps h hs := htrans hs (heffect h)
  fails h hs := htrans hs (heffect h)
  le _ hs := hs
  report := RouterProgram.keeps_reportError (fun h hs => htrans hs (heffect h)) hsides hnone depth
  sides := hsides

/-- Error packets plan for the router itself only, so that handlers and sends settle the
packets of a side. -/
theorem Guards.settled {S : Schema} {B : Build} {w : RouterWorld S} {src : Nat}
    (hreact : ∀ callback s, RouterState.Settled (some src) s (w.react callback s)) (depth : Nat)
    (s₀ : RouterState S) :
    Guards B w (RouterProgram.reportError B w depth) (· ≠ some src)
      (RouterState.Settled (some src) s₀) (RouterState.Settled (some src) s₀) :=
  .of_relation .trans (.effect hreact) (fun _ _ s => (hreact _ s).sides) (by simp) depth s₀

/-- They leave aside what becomes of the packets of any one source. -/
theorem Guards.aside {S : Schema} {B : Build} {w : RouterWorld S} {src : Option Nat}
    (hreact : ∀ callback s, RouterState.Aside src s (w.react callback s)) (depth : Nat)
    (s₀ : RouterState S) :
    Guards B w (RouterProgram.reportError B w depth) (fun other => src = none ∨ other ≠ src)
      (RouterState.Aside src s₀) (RouterState.Aside src s₀) := by
  refine .of_relation .trans (.effect hreact) (fun _ _ s => (hreact _ s).sides) ?_ depth s₀
  cases src with
  | none => exact .inl rfl
  | some side => exact .inr nofun

theorem Guards.unrouted {S : Schema} {B : Build} {w : RouterWorld S} {src : Nat}
    (hreact : ∀ callback s, RouterState.Unrouted (some src) s (w.react callback s)) (depth : Nat)
    (s₀ : RouterState S) :
    Guards B w (RouterProgram.reportError B w depth) (· ≠ some src)
      (RouterState.Unrouted (some src) s₀) (RouterState.Unrouted (some src) s₀) :=
  .of_relation .trans (.effect hreact) (fun _ _ s => (hreact _ s).sides) (by simp) depth s₀

/-- The router's own packets are settled by what succeeds: an error packet means that the
call fails. -/
theorem Guards.unrouted_none {S : Schema} {B : Build} {w : RouterWorld S}
    (hreact : ∀ callback s, RouterState.Unrouted none s (w.react callback s))
    (report : Packet S → RouterProgram S Unit) (s₀ : RouterState S) :
    Guards B w report (· ≠ none) (RouterState.Unrouted none s₀) fun _ => True where
  keeps h hs := hs.trans (.effect hreact h)
  fails _ _ := trivial
  le _ _ := trivial
  report _ _ _ := trivial
  sides _ _ s := (hreact _ s).sides

/-- What is relayed for a side is its plan; the sends behind it plan for no packet from
there. -/
theorem RouterProgram.unrouted_relaySend {S : Schema} {B : Build} {w : RouterWorld S}
    {report : Packet S → RouterProgram S Unit} {src : Nat} {data : RouterItem S}
    {s s' : RouterState S} {targets : List Nat}
    (hguards : ∀ s₀, Guards B w report (· ≠ some src) (RouterState.Unrouted (some src) s₀)
      (RouterState.Unrouted (some src) s₀))
    (hplan : remoteSidePlan B w data (some src) s = (s', .ok targets)) (calledFromQueue : Bool) :
    RouterState.Unrouted (some src)
      { s' with events := s'.events ++ [.forwarded (some src) data targets] }
      (relaySend B w report data (some src) calledFromQueue s).1 := by
  unfold relaySend
  split
  · unfold enqueueToSides
    rw [Program.bind_apply_of_ok hplan, record, Program.modify_bind_apply]
    refine Program.Keeps.bind (.of _) (fun _ => ?_) _ (.refl _)
    exact .forEach fun _ _ => keeps_pushTransmit (hguards _).keeps _
  · rw [Program.bind_apply_of_ok hplan, record, Program.modify_bind_apply]
    refine Program.Keeps.forEach (fun side _ => ?_) _ (.refl _)
    exact (txToSide_triple (hguards _) (some src) side data true).keeps

end Sedsprintf
