import Sedsprintf.Guarantees.Fanout
import Sedsprintf.Router.Moves
import Sedsprintf.Stores.Routes
import Mathlib.Order.Bounds.Basic

/-!
# The route cache

Whatever a router is told, and in whatever order, each route of its cache is the summary of
what its announcers said.
-/
namespace Sedsprintf

open Lib

section Summaries
variable {S : Schema} {linkLocal : Bool} {route : DiscoverySideState S}

/-- The boards that the announcers of a route told of. -/
def DiscoverySideState.boards (route : DiscoverySideState S) : Set (TopologyBoardNode S) :=
  {board | ∃ (name : String) (sender : DiscoverySenderState S),
    route.announcers[name]? = some sender ∧ board ∈ sender.topologyBoards}

/-- A route lists what its announcers' boards list, once and in order, it was heard of when its
latest announcer was, and it names nothing that is not to be heard of from its side. -/
structure DiscoverySideState.Consistent (linkLocal : Bool) (route : DiscoverySideState S) :
    Prop where
  reachable : Enumerates route.reachable
    {ep | ∃ board ∈ route.boards, ep ∈ board.reachableEndpoints}
  timesyncSources : Enumerates route.reachableTimesyncSources
    {name | ∃ board ∈ route.boards, name ∈ board.reachableTimesyncSources}
  lastSeen : IsGreatest {t | ∃ (name : String) (sender : DiscoverySenderState S),
    route.announcers[name]? = some sender ∧ sender.lastSeenMs = t} route.lastSeenMs
  notDiscovery : ∀ ep ∈ route.reachable, S.isDiscoveryEndpoint ep = false
  notLinkLocal : linkLocal = false → ∀ ep ∈ route.reachable, S.isLinkLocalOnly ep = false

/-- `max` on `u64`. -/
theorem max_cases (a b : UInt64) : (a ≤ b ∧ max a b = b) ∨ (b ≤ a ∧ max a b = a) := by
  have hmax : max a b = if a ≤ b then b else a := rfl
  rw [hmax]
  split
  · rename_i hle
    exact .inl ⟨hle, rfl⟩
  · rename_i hlt
    exact .inr ⟨UInt64.le_of_lt (UInt64.not_le.mp hlt), rfl⟩

/-- The latest of some times, from the first on. -/
theorem foldl_max_isGreatest {α : Type} (time : α → UInt64) (first : UInt64) (l : List α) :
    IsGreatest {t | t = first ∨ ∃ a ∈ l, time a = t}
      (l.foldl (fun seen a => max seen (time a)) first) := by
  induction l generalizing first with
  | nil => simp [IsGreatest, upperBounds]
  | cons a rest ih =>
    rw [List.foldl_cons]
    specialize ih (max first (time a))
    rcases max_cases first (time a) with ⟨hlater, hmax⟩ | ⟨hearlier, hmax⟩
    · rw [hmax] at ih ⊢
      obtain ⟨hmem, hbound⟩ := ih
      have hle := hbound (.inl rfl)
      constructor
      · rcases hmem with heq | ⟨b, hb, htime⟩
        · exact .inr ⟨a, List.mem_cons_self, heq.symm⟩
        · exact .inr ⟨b, List.mem_cons_of_mem _ hb, htime⟩
      · rintro t (rfl | ⟨b, hb, rfl⟩)
        · exact UInt64.le_trans hlater hle
        · rcases List.mem_cons.mp hb with rfl | hb
          · exact hle
          · exact hbound (.inr ⟨b, hb, rfl⟩)
    · rw [hmax] at ih ⊢
      obtain ⟨hmem, hbound⟩ := ih
      have hle := hbound (.inl rfl)
      constructor
      · rcases hmem with heq | ⟨b, hb, htime⟩
        · exact .inl heq
        · exact .inr ⟨b, List.mem_cons_of_mem _ hb, htime⟩
      · rintro t (rfl | ⟨b, hb, rfl⟩)
        · exact hle
        · rcases List.mem_cons.mp hb with rfl | hb
          · exact UInt64.le_trans hearlier hle
          · exact hbound (.inr ⟨b, hb, rfl⟩)

/-- The announcers of a route, one by one. -/
theorem mem_senders {sender : DiscoverySenderState S} :
    sender ∈ route.announcers.toList.map (fun e => e.2) ↔
      ∃ name : String, route.announcers[name]? = some sender := by
  rw [List.mem_map]
  constructor
  · rintro ⟨e, he, rfl⟩
    exact ⟨e.1, Std.ExtTreeMap.mem_toList_iff_getElem?_eq_some.mp he⟩
  · rintro ⟨name, hname⟩
    exact ⟨(name, sender), Std.ExtTreeMap.mem_toList_iff_getElem?_eq_some.mpr hname, rfl⟩

theorem DiscoverySenderState.Sound.mem_reachable {sender : DiscoverySenderState S}
    (h : sender.Sound linkLocal) (ep : S.DataEndpoint) : ep ∈ sender.reachable ↔
      ∃ board ∈ sender.topologyBoards, ep ∈ board.reachableEndpoints := by
  have hreachable : (summarizeTopologyBoards sender.topologyBoards).1 = sender.reachable :=
    congrArg Prod.fst h.summarized
  rw [← hreachable, summarizeTopologyBoards, mem_sortDedup, List.mem_flatMap]

theorem DiscoverySenderState.Sound.mem_timesyncSources {sender : DiscoverySenderState S}
    (h : sender.Sound linkLocal) (source : String) : source ∈ sender.reachableTimesyncSources ↔
      ∃ board ∈ sender.topologyBoards, source ∈ board.reachableTimesyncSources := by
  have hsources : (summarizeTopologyBoards sender.topologyBoards).2 =
      sender.reachableTimesyncSources := congrArg Prod.snd h.summarized
  rw [← hsources, summarizeTopologyBoards, mem_sortDedup, List.mem_flatMap]

/-- What the announcers list is what their boards list. -/
theorem mem_flatMap_senders {α : Type} {a : α} {ofSender : DiscoverySenderState S → List α}
    {ofBoard : TopologyBoardNode S → List α}
    (h : ∀ (name : String) (sender : DiscoverySenderState S),
      route.announcers[name]? = some sender →
        (a ∈ ofSender sender ↔ ∃ board ∈ sender.topologyBoards, a ∈ ofBoard board)) :
    a ∈ (route.announcers.toList.map fun e => e.2).flatMap ofSender ↔
      ∃ board ∈ route.boards, a ∈ ofBoard board := by
  rw [List.mem_flatMap]
  constructor
  · rintro ⟨sender, hsender, ha⟩
    obtain ⟨name, hname⟩ := mem_senders.mp hsender
    obtain ⟨board, hboard, ha⟩ := (h name sender hname).mp ha
    exact ⟨board, ⟨name, sender, hname, hboard⟩, ha⟩
  · rintro ⟨board, ⟨name, sender, hname, hboard⟩, ha⟩
    exact ⟨sender, mem_senders.mpr ⟨name, hname⟩, (h name sender hname).mpr ⟨board, hboard, ha⟩⟩

theorem DiscoverySideState.Sound.lastSeen (h : route.Sound linkLocal) :
    IsGreatest {t | ∃ (name : String) (sender : DiscoverySenderState S),
      route.announcers[name]? = some sender ∧ sender.lastSeenMs = t} route.lastSeenMs := by
  have hgreatest := foldl_max_isGreatest (fun sender : DiscoverySenderState S => sender.lastSeenMs)
    0 (route.announcers.toList.map fun e => e.2)
  have hseen : (route.announcers.toList.map fun e => e.2).foldl
      (fun seen sender => max seen sender.lastSeenMs) 0 = route.lastSeenMs :=
    congrArg DiscoverySideState.lastSeenMs h.recomputed
  rw [hseen] at hgreatest
  constructor
  · rcases hgreatest.1 with hzero | ⟨sender, hsender, htime⟩
    · -- nobody was heard of later than at zero, and somebody was heard of
      obtain ⟨name, hmem⟩ := h.announced
      obtain ⟨sender, hname⟩ := OrdMap.mem_iff_get?.mp hmem
      refine ⟨name, sender, hname, ?_⟩
      have hle := hgreatest.2 (.inr ⟨sender, mem_senders.mpr ⟨name, hname⟩, rfl⟩)
      rw [hzero] at hle ⊢
      exact UInt64.le_antisymm hle (UInt64.zero_le)
    · obtain ⟨name, hname⟩ := mem_senders.mp hsender
      exact ⟨name, sender, hname, htime⟩
  · rintro t ⟨name, sender, hname, rfl⟩
    exact hgreatest.2 (.inr ⟨sender, mem_senders.mpr ⟨name, hname⟩, rfl⟩)

theorem DiscoverySideState.Sound.consistent (h : route.Sound linkLocal) :
    route.Consistent linkLocal := by
  have hreachable := congrArg DiscoverySideState.reachable h.recomputed
  have hsources := congrArg DiscoverySideState.reachableTimesyncSources h.recomputed
  have hlists : Enumerates route.reachable
      {ep | ∃ board ∈ route.boards, ep ∈ board.reachableEndpoints} := by
    rw [← hreachable]
    apply sortDedup_enumerates
    intro ep
    exact mem_flatMap_senders fun name sender hname => (h.senders name sender hname).mem_reachable ep
  have hhear : ∀ ep ∈ route.reachable, S.Hearable linkLocal ep := by
    intro ep hep
    obtain ⟨board, ⟨name, sender, hname, hboard⟩, hep⟩ := (hlists.mem_iff ep).mp hep
    exact (h.senders name sender hname).hearable board hboard ep hep
  constructor
  · exact hlists
  · rw [← hsources]
    apply sortDedup_enumerates
    intro source
    exact mem_flatMap_senders fun name sender hname =>
      (h.senders name sender hname).mem_timesyncSources source
  · exact h.lastSeen
  · intro ep hep
    exact (hhear ep hep).notDiscovery
  · intro hlocal ep hep
    exact (hhear ep hep).notLinkLocal hlocal

end Summaries

namespace NodeState
variable {S : Schema} {st st' : NodeState S} {side other : Nat} {s s' : Side}

/-- A new side changes nothing for the others. -/
theorem sideLinkLocalEnabled_append (hsides : st'.sides = st.sides ++ [some s])
    (h : st.sideLinkLocalEnabled side = true) : st'.sideLinkLocalEnabled side = true := by
  unfold sideLinkLocalEnabled at h ⊢
  have hlt : side < st.sides.length := by
    by_contra hge
    rw [List.getElem?_eq_none (by omega)] at h
    cases h
  rw [hsides, List.getElem?_append_left hlt]
  exact h

/-- A side that is replaced by one with the same link-local traffic. -/
theorem sideLinkLocalEnabled_set (hside : st.sides[other]?.join = some s)
    (hsides : st'.sides = st.sides.set other (some s'))
    (hopts : s'.opts.linkLocalEnabled = s.opts.linkLocalEnabled)
    (h : st.sideLinkLocalEnabled side = true) : st'.sideLinkLocalEnabled side = true := by
  unfold sideLinkLocalEnabled at h ⊢
  rw [hsides, List.getElem?_set]
  split
  · rename_i heq
    subst heq
    have hlt : other < st.sides.length := by
      by_contra hge
      rw [List.getElem?_eq_none (by omega)] at hside
      cases hside
    rw [hside] at h
    rw [if_pos hlt]
    simpa [hopts] using h
  · exact h

theorem sideLinkLocalEnabled_removed (hne : side ≠ other)
    (hsides : st'.sides = st.sides.set other none) :
    st'.sideLinkLocalEnabled side = st.sideLinkLocalEnabled side := by
  unfold sideLinkLocalEnabled
  rw [hsides, List.getElem?_set_ne hne.symm]

end NodeState

namespace RouterInner
variable {B : Build} {S : Schema} {st st' : RouterInner S}

theorem fitDiscoveryBudget_routesSound (h : st.toNodeState.RoutesSound) :
    (st.fitDiscoveryBudget B).toNodeState.RoutesSound := by
  have hkeeps := (fitDiscoveryBudget_keeps (B := B) st).1
  exact h.stay ⟨hkeeps.sides, Stores.fitDiscoveryLoop_routesShrink _ st.stores⟩

theorem isDuplicatePkt_routesSound (h : st.toNodeState.RoutesSound) (data : RouterItem S) :
    (st.isDuplicatePkt B data).1.toNodeState.RoutesSound := by
  rcases st.isDuplicatePkt_cases (B := B) data with heq | ⟨id, -, -, heq⟩
  · rw [heq]
    exact h
  · rw [heq]
    have hkeeps := (pushRecentRx_keeps (B := B) st id).1
    exact h.stay ⟨hkeeps.sides, Stores.pushRecentRx_routesShrink st.stores id⟩

theorem learnDiscoveryPacket_routesSound (h : st.toNodeState.RoutesSound) (sender : String)
    (expected : UInt64 → Outcome (OrdMap UInt64 Nat)) (now : UInt64) (pkt : Packet S)
    (src : Option Nat) :
    (st.learnDiscoveryPacket B sender expected now pkt src).1.toNodeState.RoutesSound := by
  rcases st.learnDiscoveryPacket_cases (B := B) sender expected now pkt src with
    heq | ⟨d, side, routes, hlearn, heq⟩
  · rw [heq]
    exact h
  · have hlearned : ({ st with discoveryRoutes := routes } : RouterInner S).toNodeState.RoutesSound :=
      h.learn hlearn
    have hnode := congrArg Prod.snd (reconcileEndToEnd_frame (B := B)
      (({ st with discoveryRoutes := routes } : RouterInner S).fitDiscoveryBudget B) expected).2.1
    rw [heq]
    have hnode' : ((({ st with discoveryRoutes := routes } : RouterInner S).fitDiscoveryBudget
        B).reconcileEndToEnd expected).1.toNodeState =
        (({ st with discoveryRoutes := routes } : RouterInner S).fitDiscoveryBudget B).toNodeState :=
      hnode
    rw [hnode']
    exact fitDiscoveryBudget_routesSound hlearned

/-- A removed side takes its route along. -/
theorem removeSide_routesSound (h : st.toNodeState.RoutesSound) {side : Nat}
    (hremoved : st.removeSide B side = .ok st') : st'.toNodeState.RoutesSound := by
  obtain ⟨_, -, hremoved⟩ := bind_eq_ok.mp hremoved
  obtain rfl := Except.ok.inj hremoved
  apply h.shrink
  · exact RoutesShrink.erase _ side
  · intro other hother hlocal
    have hne : other ≠ side := by
      rintro rfl
      simp at hother
    exact (NodeState.sideLinkLocalEnabled_removed hne rfl).trans hlocal

theorem setSideEgressEnabled_routesSound (h : st.toNodeState.RoutesSound) {side : Nat}
    {enabled : Bool} (hset : st.setSideEgressEnabled B side enabled = .ok st') :
    st'.toNodeState.RoutesSound := by
  obtain ⟨s, hside, hset⟩ := bind_eq_ok.mp hset
  obtain rfl := Except.ok.inj hset
  apply h.of_sides
  · rfl
  · intro other
    exact NodeState.sideLinkLocalEnabled_set (okOr_eq_ok.mp hside) rfl rfl

theorem setSideIngressEnabled_routesSound (h : st.toNodeState.RoutesSound) {side : Nat}
    {enabled : Bool} (hset : st.setSideIngressEnabled side enabled = .ok st') :
    st'.toNodeState.RoutesSound := by
  obtain ⟨s, hside, hset⟩ := bind_eq_ok.mp hset
  obtain rfl := Except.ok.inj hset
  apply h.of_sides
  · rfl
  · intro other
    exact NodeState.sideLinkLocalEnabled_set (okOr_eq_ok.mp hside) rfl rfl

theorem new_routesSound (hnew : RouterInner.new B = .ok st) : st.toNodeState.RoutesSound := by
  obtain ⟨_, -, hnew⟩ := bind_eq_ok.mp hnew
  obtain ⟨_, -, hnew⟩ := bind_eq_ok.mp hnew
  obtain ⟨_, -, hnew⟩ := bind_eq_ok.mp hnew
  obtain rfl := Except.ok.inj hnew
  intro side route hroute
  simp at hroute

end RouterInner

namespace RouterSystem
variable {B : Build} {S : Schema} {reliable : Bool} {s s' : RouterSystem S} {a : Action B S}

theorem routesSound_of_step (h : s.inner.toNodeState.RoutesSound)
    (hstep : s.step B reliable a = some s') : s'.inner.toNodeState.RoutesSound := by
  by_cases hqueues : a.OnQueues
  · exact h.stay (work_of_step (.routesStay B B.wordSize (RouterQueues.bank B)) hstep hqueues)
  · cases a with
    | addSide side =>
      obtain rfl := Option.some.inj hstep
      apply h.of_sides
      · rfl
      · intro other
        exact NodeState.sideLinkLocalEnabled_append rfl
    | removeSide side =>
      rcases System.sideRemoved_eq_some hstep with rfl | hremoved
      · exact h
      · exact RouterInner.removeSide_routesSound h hremoved
    | setSideEgressEnabled side enabled =>
      rcases System.changed_eq_some hstep with rfl | ⟨inner, hset, rfl⟩
      · exact h
      · exact RouterInner.setSideEgressEnabled_routesSound h hset
    | setSideIngressEnabled side enabled =>
      rcases System.changed_eq_some hstep with rfl | ⟨inner, hset, rfl⟩
      · exact h
      · exact RouterInner.setSideIngressEnabled_routesSound h hset
    | isDuplicatePkt data =>
      obtain rfl := System.returned_eq_some hstep
      exact RouterInner.isDuplicatePkt_routesSound h data
    | removePktId data =>
      obtain rfl := System.returned_eq_some hstep
      rcases s.inner.removePktId_cases (B := B) data with heq | ⟨id, -, heq⟩
      · rw [heq]
        exact h
      · rw [heq]
        exact h
    | learnDiscovery sender pkt src expected now =>
      obtain rfl := System.returned_eq_some hstep
      exact RouterInner.learnDiscoveryPacket_routesSound h sender expected now pkt src
    | pruneDiscovery now =>
      obtain rfl := Option.some.inj hstep
      exact (h.prune now).1
    | fitDiscovery =>
      obtain rfl := Option.some.inj hstep
      exact RouterInner.fitDiscoveryBudget_routesSound h
    | _ => exact absurd trivial hqueues

end RouterSystem

/-- In every reachable router each route is consistent, and right after pruning every announcer
is fresh and every route has one. -/
theorem discovery_cache_consistent {B : Build} {S : Schema} {reliable : Bool}
    {inner : RouterInner S} {s : RouterSystem S}
    {ok : RouterSystem S → RouterSystem.Action B S → Prop}
    {actions : List (RouterSystem.Action B S)} (hnew : RouterInner.new B = .ok inner)
    (hrun : Run (RouterSystem.step B reliable) ok (.initial inner) actions s) :
    (∀ (side : Nat) (route : DiscoverySideState S), s.inner.discoveryRoutes[side]? = some route →
      route.Consistent (s.inner.sideLinkLocalEnabled side)) ∧
    ∀ (now : UInt64) (side : Nat) (route : DiscoverySideState S),
      (s.inner.pruneDiscovery now).discoveryRoutes[side]? = some route → route.Pruned now := by
  have hsound : s.inner.toNodeState.RoutesSound := by
    apply hrun.invariant (fun s => s.inner.toNodeState.RoutesSound)
    · intro s a s' h _ hstep
      exact RouterSystem.routesSound_of_step h hstep
    · exact RouterInner.new_routesSound hnew
  constructor
  · intro side route hroute
    exact (hsound side route hroute).consistent
  · intro now
    exact (hsound.prune now).2

/-- Two sides that lead to the radio. -/
theorem discovery_cache_consistent_radio :
    ∃ (inner : RouterInner defaultSchema) (s : RouterSystem defaultSchema),
      RouterInner.new hostBuild = .ok inner ∧
      Run (RouterSystem.step hostBuild true) anyStep (.initial inner) twoRadios s ∧
      s.inner.discoveryRoutes[1]?.map (fun route => route.reachable) = some [1] ∧
      (∀ (side : Nat) (route : DiscoverySideState defaultSchema),
        s.inner.discoveryRoutes[side]? = some route →
          route.Consistent (s.inner.sideLinkLocalEnabled side)) ∧
      ∀ (now : UInt64) (side : Nat) (route : DiscoverySideState defaultSchema),
        (s.inner.pruneDiscovery now).discoveryRoutes[side]? = some route → route.Pruned now := by
  obtain ⟨inner, s, hnew, hrun, hview⟩ := @System.run_of_execute defaultSchema _ _
    (RouterSystem.step hostBuild true) twoRadios _
    (fun s : RouterSystem defaultSchema =>
      s.inner.discoveryRoutes[1]?.map fun route => route.reachable) (some [1])
    (RouterInner.new hostBuild) (by decide +kernel)
  exact ⟨inner, s, hnew, hrun, hview, discovery_cache_consistent hnew hrun⟩

end Sedsprintf
