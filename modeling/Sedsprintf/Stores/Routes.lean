import Sedsprintf.Stores.Recent
import Sedsprintf.Discovery.Learned

/-!
# Routes leave the cache

Nothing but learning writes a route: making room for anything else only takes routes out.
-/
namespace Sedsprintf

open Lib

section Shrinking
variable {S : Schema}

/-- Routes only leave the cache. -/
def RoutesShrink (routes routes' : DiscoveryRoutes S) : Prop :=
  ∀ (side : Nat) route, routes'[side]? = some route → routes[side]? = some route

theorem RoutesShrink.refl (routes : DiscoveryRoutes S) : RoutesShrink routes routes :=
  fun _ _ h => h

theorem RoutesShrink.trans {routes routes' routes'' : DiscoveryRoutes S}
    (h : RoutesShrink routes routes') (h' : RoutesShrink routes' routes'') :
    RoutesShrink routes routes'' :=
  fun side route hroute => h side route (h' side route hroute)

/-- Routes that shrink and come back never changed. -/
theorem RoutesShrink.antisymm {routes routes' : DiscoveryRoutes S}
    (h : RoutesShrink routes routes') (h' : RoutesShrink routes' routes) : routes' = routes := by
  refine Std.ExtTreeMap.ext_getElem? fun side => Option.ext fun route => ?_
  exact ⟨h side route, h' side route⟩

theorem RoutesShrink.erase (routes : DiscoveryRoutes S) (side : Nat) :
    RoutesShrink routes (routes.erase side) := by
  intro other route hroute
  rw [Std.ExtTreeMap.getElem?_erase] at hroute
  split at hroute
  · cases hroute
  · exact hroute

namespace Stores
variable {κ Q : Type} {B : Build} {keySize : Nat} {set : QueueSet κ Q}

theorem routesShrink_of_pop {st st' : Stores Q S} {kind : StoreKind κ}
    (h : popSharedQueueItem set st kind = some st') :
    RoutesShrink st.2.discoveryRoutes st'.2.discoveryRoutes := by
  cases kind with
  | queue kind =>
    obtain ⟨queues, -, rfl⟩ := Option.map_eq_some_iff.mp h
    exact .refl _
  | recent =>
    obtain ⟨popped, -, rfl⟩ := Option.map_eq_some_iff.mp h
    exact .refl _
  | reliableRxBuffer =>
    obtain ⟨streams, -, rfl⟩ := Option.map_eq_some_iff.mp h
    exact .refl _
  | discovery =>
    obtain ⟨routes, hpop, rfl⟩ := Option.map_eq_some_iff.mp h
    obtain ⟨side, rfl⟩ := popDiscoveryRoute_erases hpop
    exact .erase _ side

theorem makeSharedQueueRoom_routesShrink (st : Stores Q S) (cost : Nat)
    (preferred : StoreKind κ) : RoutesShrink st.2.discoveryRoutes
      (makeSharedQueueRoom B keySize set st cost preferred).1.2.discoveryRoutes := by
  have hroom := @Budget.makeRoom_relation _ _ (budget B keySize set) B.maxQueueBudget cost
    (sharedItems set st + 1) preferred st
    (fun st st' : Stores Q S => RoutesShrink st.2.discoveryRoutes st'.2.discoveryRoutes)
    (fun _ => .refl _) (fun h h' => h.trans h') routesShrink_of_pop
  rcases @makeSharedQueueRoom_state κ Q S B keySize set st cost preferred with heq | heq
  · rw [heq]
    exact .refl _
  · rw [heq]
    exact hroom

theorem pushRecentRx_routesShrink (st : Stores Q S) (id : UInt64) :
    RoutesShrink st.2.discoveryRoutes (pushRecentRx B keySize set st id).1.2.discoveryRoutes := by
  have hroom := @makeSharedQueueRoom_routesShrink S κ Q B keySize set (trimRecent B st) 0 .recent
  unfold pushRecentRx
  split
  · exact .refl _
  · generalize makeSharedQueueRoom B keySize set (trimRecent B st) 0 .recent = r at hroom
    obtain ⟨st', _ | ⟨⟨⟩⟩⟩ := r
    · exact hroom
    · exact hroom

theorem fitDiscoveryLoop_routesShrink (fuel : Nat) (st : Stores Q S) :
    RoutesShrink st.2.discoveryRoutes
      (fitDiscoveryLoop B keySize set fuel st).2.discoveryRoutes := by
  induction fuel generalizing st with
  | zero => exact .refl _
  | succ fuel ih =>
    unfold fitDiscoveryLoop
    split
    · split
      · exact .refl _
      · rename_i routes hpop
        obtain ⟨side, rfl⟩ := popDiscoveryRoute_erases hpop
        exact (RoutesShrink.erase _ side).trans (ih _)
    · exact .refl _

theorem bufferReliableRx_routesShrink (st : Stores Q S) (key : StreamKey S) (seq : UInt32)
    (bytes : List UInt8) : RoutesShrink st.2.discoveryRoutes
      (bufferReliableRx B keySize set st key seq bytes).1.2.discoveryRoutes := by
  have hroom := @makeSharedQueueRoom_routesShrink S κ Q B keySize set st (B.arcSize + bytes.length)
    .reliableRxBuffer
  unfold bufferReliableRx
  split
  · exact .refl _
  · generalize makeSharedQueueRoom B keySize set st (B.arcSize + bytes.length)
      .reliableRxBuffer = r at hroom
    obtain ⟨st', _ | ⟨⟨⟩⟩⟩ := r
    · exact hroom
    · exact hroom

theorem acceptOrdered_routesShrink (st : Stores Q S) (key : StreamKey S) (seq : UInt32)
    (bytes : List UInt8) : RoutesShrink st.2.discoveryRoutes
      (acceptOrdered B keySize set st key seq bytes).1.2.discoveryRoutes := by
  unfold acceptOrdered
  dsimp only
  split
  · exact bufferReliableRx_routesShrink _ _ _ _
  · exact .refl _

theorem push_routesShrink [DecidableEq κ] (bank : QueueBank set) (st : Stores Q S) (k : κ)
    (item : bank.Item k) : RoutesShrink st.2.discoveryRoutes
      (push B keySize bank st k item).1.2.discoveryRoutes := by
  rw [push_shared]
  exact makeSharedQueueRoom_routesShrink st _ _

end Stores
end Shrinking

section Soundness
variable {S : Schema}

/-- Every route of the cache is sound for its side. -/
def NodeState.RoutesSound (st : NodeState S) : Prop :=
  ∀ side (route : DiscoverySideState S), st.discoveryRoutes[side]? = some route →
    route.Sound (st.sideLinkLocalEnabled side)

/-- The sides are as they were, and no route is new. -/
structure NodeState.RoutesStay (st st' : NodeState S) : Prop where
  sides : st'.sides = st.sides
  routes : RoutesShrink st.discoveryRoutes st'.discoveryRoutes

namespace NodeState.RoutesSound
variable {st st' : NodeState S}

/-- No route is new, and a side that had link-local traffic has it still, or its route is
gone. -/
theorem shrink (h : st.RoutesSound)
    (hroutes : RoutesShrink st.discoveryRoutes st'.discoveryRoutes)
    (hsides : ∀ side ∈ st'.discoveryRoutes, st.sideLinkLocalEnabled side = true →
      st'.sideLinkLocalEnabled side = true) : st'.RoutesSound := by
  intro side route hroute
  apply (h side route (hroutes side route hroute)).mono
  exact hsides side (OrdMap.mem_iff_get?.mpr ⟨route, hroute⟩)

/-- Only the sides changed. -/
theorem of_sides (h : st.RoutesSound) (hroutes : st'.discoveryRoutes = st.discoveryRoutes)
    (hsides : ∀ side, st.sideLinkLocalEnabled side = true →
      st'.sideLinkLocalEnabled side = true) : st'.RoutesSound := by
  apply h.shrink
  · rw [hroutes]
    exact .refl _
  · intro side _
    exact hsides side

theorem stay (h : st.RoutesSound) (hstay : st.RoutesStay st') : st'.RoutesSound := by
  apply h.shrink hstay.routes
  intro side _ hlocal
  rw [sideLinkLocalEnabled, hstay.sides]
  exact hlocal

theorem learn {B : Build} {d : DiscoveryTypes S.DataType} {now : UInt64} {side : Nat}
    {pkt : Packet S} {routes : DiscoveryRoutes S} (h : st.RoutesSound)
    (hlearn : learnDiscoveryRoute B d (st.sideLinkLocalEnabled side) now side pkt
      st.discoveryRoutes = .ok routes) :
    ({ st with discoveryRoutes := routes } : NodeState S).RoutesSound := by
  obtain ⟨learned, rfl, hsound⟩ := learnDiscoveryRoute_sound (h side) hlearn
  intro other route hroute
  rw [OrdMap.get?_insert] at hroute
  split at hroute
  · rename_i heq
    obtain rfl := Option.some.inj hroute
    obtain rfl := heq
    exact hsound
  · exact h other route hroute

theorem prune (h : st.RoutesSound) (now : UInt64) :
    ({ st with discoveryRoutes := pruneDiscoveryRoutes now st.discoveryRoutes } :
      NodeState S).RoutesSound ∧
    ∀ (side : Nat) (route : DiscoverySideState S),
      (pruneDiscoveryRoutes now st.discoveryRoutes)[side]? = some route → route.Pruned now := by
  have hprune : ∀ (side : Nat) (route : DiscoverySideState S),
      (pruneDiscoveryRoutes now st.discoveryRoutes)[side]? = some route →
      route.Sound (st.sideLinkLocalEnabled side) ∧ route.Pruned now := by
    intro side route hroute
    rw [pruneDiscoveryRoutes, Std.ExtTreeMap.getElem?_filterMap'] at hroute
    obtain ⟨old, hold, hpruned⟩ := Option.bind_eq_some_iff.mp hroute
    exact pruneDiscoveryRoute_sound (h side old hold) hpruned
  constructor
  · intro side route hroute
    exact (hprune side route hroute).1
  · intro side route hroute
    exact (hprune side route hroute).2

end NodeState.RoutesSound

/-- Making room for anything leaves the sides alone. -/
theorem Stores.makeSharedQueueRoom_sides {κ Q : Type} {B : Build} {keySize : Nat}
    {set : QueueSet κ Q} (st : Stores Q S) (cost : Nat) (preferred : StoreKind κ) :
    (makeSharedQueueRoom B keySize set st cost preferred).1.2.sides = st.2.sides := by
  have hany : PopRelation set fun _ _ => True := ⟨by simp, by simp, by simp⟩
  exact (makeSharedQueueRoom_evicts B keySize hany st cost preferred).sides

/-- Work on the queues and streams leaves the sides and takes routes out at most. -/
theorem Stores.WorkRelation.routesStay {κ Q : Type} [DecidableEq κ] (B : Build) (keySize : Nat)
    {set : QueueSet κ Q} (bank : QueueBank set) :
    WorkRelation B keySize bank (S := S) fun st st' => st.2.RoutesStay st'.2 where
  refl st := ⟨rfl, .refl _⟩
  trans h h' := ⟨h'.sides.trans h.sides, h.routes.trans h'.routes⟩
  setStreams st streams := ⟨rfl, .refl _⟩
  push st k item := by
    refine ⟨?_, push_routesShrink bank st k item⟩
    rw [push_shared]
    exact makeSharedQueueRoom_sides st _ _
  lose st k _ _ := ⟨rfl, .refl _⟩
  accept st key seq bytes := by
    have hany : PopRelation set fun _ _ => True := ⟨by simp, by simp, by simp⟩
    exact ⟨(acceptOrdered_frame B keySize hany st key seq bytes).1.sides,
      acceptOrdered_routesShrink st key seq bytes⟩

end Soundness
end Sedsprintf
