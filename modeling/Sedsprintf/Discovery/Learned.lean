import Sedsprintf.Discovery
import Mathlib.Order.Bounds.Basic

/-!
# What a learned route holds

Announcements come from outside and in any order; what the cache keeps of them is normalized,
names no `Discovery` endpoint, and nothing that is link-local where the side is not. The unions
over the announcers are recomputed with every change.
-/
namespace Sedsprintf

open Lib

section Decoders
variable {B : Build} {S : Schema}

/-- An endpoint that may be heard of over a side with or without link-local traffic. -/
structure Schema.Hearable (S : Schema) (linkLocal : Bool) (ep : S.DataEndpoint) : Prop where
  notDiscovery : S.isDiscoveryEndpoint ep = false
  notLinkLocal : linkLocal = false → S.isLinkLocalOnly ep = false

/-- Both decoders of endpoints leave `Discovery` out. -/
theorem not_discovery_cons {ep : S.DataEndpoint} {eps : List S.DataEndpoint}
    (h : ∀ e ∈ eps, S.isDiscoveryEndpoint e = false) :
    ∀ e ∈ if S.isDiscoveryEndpoint ep then eps else ep :: eps,
      S.isDiscoveryEndpoint e = false := by
  intro e he
  split at he
  · exact h e he
  · rename_i hep
    rcases List.mem_cons.mp he with rfl | he
    · simpa using hep
    · exact h e he

theorem decodeEndpointWords_not_discovery {payload : List UInt8} {eps : List S.DataEndpoint}
    (h : decodeEndpointWords S payload = .ok eps) :
    ∀ ep ∈ eps, S.isDiscoveryEndpoint ep = false := by
  induction payload using decodeEndpointWords.induct generalizing eps with
  | case1 b₀ b₁ b₂ b₃ rest ih =>
    obtain ⟨ep, -, h⟩ := bind_eq_ok.mp h
    obtain ⟨others, hrest, h⟩ := bind_eq_ok.mp h
    obtain rfl := Except.ok.inj h
    exact not_discovery_cons (ih hrest)
  | case2 payload hshort =>
    rw [decodeEndpointWords] at h
    · obtain rfl := Except.ok.inj h
      simp
    · exact hshort

theorem decodeDiscoveryPayload_not_discovery {payload : List UInt8} {eps : List S.DataEndpoint}
    (h : decodeDiscoveryPayload S payload = .ok eps) :
    ∀ ep ∈ eps, S.isDiscoveryEndpoint ep = false := by
  obtain ⟨-, -, h⟩ := bind_eq_ok.mp h
  obtain ⟨words, hwords, h⟩ := bind_eq_ok.mp h
  obtain rfl := Except.ok.inj h
  intro ep hep
  exact decodeEndpointWords_not_discovery hwords ep (mem_sortDedup.mp hep)

theorem takeEndpoints_not_discovery {count : Nat} {r r' : ByteReader} {eps : List S.DataEndpoint}
    (h : takeEndpoints S count r = .ok (eps, r')) :
    ∀ ep ∈ eps, S.isDiscoveryEndpoint ep = false := by
  induction count generalizing r eps r' with
  | zero =>
    obtain ⟨rfl, -⟩ := Prod.mk.inj (Except.ok.inj h)
    simp
  | succ count ih =>
    obtain ⟨word, -, h⟩ := bind_eq_ok.mp h
    obtain ⟨ep, -, h⟩ := bind_eq_ok.mp h
    obtain ⟨others, hrest, h⟩ := bind_eq_ok.mp h
    obtain ⟨rfl, -⟩ := Prod.mk.inj (Except.ok.inj h)
    exact not_discovery_cons (ih hrest)

theorem takeBoard_not_discovery {r r' : ByteReader} {board : TopologyBoardNode S}
    (h : takeBoard B S r = .ok (board, r')) :
    ∀ ep ∈ board.reachableEndpoints, S.isDiscoveryEndpoint ep = false := by
  obtain ⟨sender, -, h⟩ := bind_eq_ok.mp h
  obtain ⟨count, -, h⟩ := bind_eq_ok.mp h
  obtain ⟨-, -, h⟩ := bind_eq_ok.mp h
  obtain ⟨reachable, hreachable, h⟩ := bind_eq_ok.mp h
  obtain ⟨sources, -, h⟩ := bind_eq_ok.mp h
  obtain ⟨connections, -, h⟩ := bind_eq_ok.mp h
  obtain ⟨rfl, -⟩ := Prod.mk.inj (Except.ok.inj h)
  exact takeEndpoints_not_discovery hreachable

theorem takeBoards_not_discovery {count : Nat} {r r' : ByteReader}
    {boards : List (TopologyBoardNode S)} (h : takeBoards B S count r = .ok (boards, r')) :
    ∀ board ∈ boards, ∀ ep ∈ board.reachableEndpoints, S.isDiscoveryEndpoint ep = false := by
  induction count generalizing r boards r' with
  | zero =>
    obtain ⟨rfl, -⟩ := Prod.mk.inj (Except.ok.inj h)
    simp
  | succ count ih =>
    obtain ⟨first, hfirst, h⟩ := bind_eq_ok.mp h
    obtain ⟨others, hrest, h⟩ := bind_eq_ok.mp h
    obtain ⟨rfl, -⟩ := Prod.mk.inj (Except.ok.inj h)
    intro board hboard
    rcases List.mem_cons.mp hboard with rfl | hboard
    · exact takeBoard_not_discovery hfirst
    · exact ih hrest board hboard

end Decoders

section Boards
variable {S : Schema} {linkLocal : Bool}

/-- Boards that name only what may be heard of. -/
def HearableBoards (linkLocal : Bool) (boards : List (TopologyBoardNode S)) : Prop :=
  ∀ board ∈ boards, ∀ ep ∈ board.reachableEndpoints, S.Hearable linkLocal ep

/-- Normalizing keeps some of the boards, each with the endpoints it had. -/
theorem exists_of_mem_normalizeTopologyBoards {boards : List (TopologyBoardNode S)}
    {board : TopologyBoardNode S} (h : board ∈ normalizeTopologyBoards boards) :
    ∃ old ∈ boards, normalizeBoard old = board := by
  have hmem := (List.destutter_sublist _ _).subset h
  rw [List.mem_insertionSort] at hmem
  exact List.mem_map.mp hmem

theorem HearableBoards.normalize {boards : List (TopologyBoardNode S)}
    (h : HearableBoards linkLocal boards) :
    HearableBoards linkLocal (normalizeTopologyBoards boards) := by
  intro board hboard ep hep
  obtain ⟨old, hold, rfl⟩ := exists_of_mem_normalizeTopologyBoards hboard
  exact h old hold ep (mem_sortDedup.mp hep)

/-- Writing a board that names only what may be heard of. -/
theorem HearableBoards.update {boards : List (TopologyBoardNode S)}
    (h : HearableBoards linkLocal boards) (sender : String)
    {f : TopologyBoardNode S → TopologyBoardNode S}
    (hf : ∀ board : TopologyBoardNode S, (∀ ep ∈ board.reachableEndpoints, S.Hearable linkLocal ep) →
      ∀ ep ∈ (f board).reachableEndpoints, S.Hearable linkLocal ep) :
    HearableBoards linkLocal (updateSenderBoard sender f boards) := by
  induction boards with
  | nil =>
    intro board hboard
    obtain rfl := List.mem_singleton.mp hboard
    apply hf
    simp
  | cons first rest ih =>
    have hrest : HearableBoards linkLocal rest :=
      fun board hboard => h board (List.mem_cons_of_mem _ hboard)
    have hfirst := h first List.mem_cons_self
    intro board hboard
    rw [updateSenderBoard] at hboard
    split at hboard
    · rcases List.mem_cons.mp hboard with rfl | hboard
      · exact hf first hfirst
      · exact hrest board hboard
    · rcases List.mem_cons.mp hboard with rfl | hboard
      · exact hfirst
      · exact ih hrest board hboard

/-- What is not `Discovery` may be heard of once the link-local endpoints are taken out. -/
theorem hearable_withoutLinkLocal {eps : List S.DataEndpoint}
    (h : ∀ ep ∈ eps, S.isDiscoveryEndpoint ep = false) :
    ∀ ep ∈ withoutLinkLocal linkLocal eps, S.Hearable linkLocal ep := by
  intro ep hep
  unfold withoutLinkLocal at hep
  split at hep
  · rename_i hlocal
    refine ⟨h ep hep, ?_⟩
    simp [hlocal]
  · obtain ⟨hmem, hnot⟩ := List.mem_filter.mp hep
    refine ⟨h ep hmem, fun _ => ?_⟩
    simpa using hnot

end Boards

section Senders
variable {B : Build} {S : Schema} {linkLocal : Bool}

/-- What is kept of an announcer: the unions over its boards. -/
structure DiscoverySenderState.Sound (linkLocal : Bool) (sender : DiscoverySenderState S) :
    Prop where
  summarized : summarizeTopologyBoards sender.topologyBoards =
    (sender.reachable, sender.reachableTimesyncSources)
  hearable : HearableBoards linkLocal sender.topologyBoards

theorem DiscoverySenderState.Sound.empty :
    (DiscoverySenderState.empty : DiscoverySenderState S).Sound linkLocal where
  summarized := rfl
  hearable := by simp [HearableBoards, DiscoverySenderState.empty]

theorem refreshSenderTopologyState_sound {state : DiscoverySenderState S}
    (h : HearableBoards linkLocal state.topologyBoards) :
    (refreshSenderTopologyState state).Sound linkLocal :=
  ⟨rfl, h.normalize⟩

/-- Each kind of announcement leaves the sender with the unions over what may be heard of. -/
theorem learnSenderState_sound {d : DiscoveryTypes S.DataType} {pkt : Packet S}
    {state state' : DiscoverySenderState S} (hsound : state.Sound linkLocal)
    (h : learnSenderState B d linkLocal pkt state = .ok state') : state'.Sound linkLocal := by
  unfold learnSenderState at h
  split at h
  · obtain ⟨reachable, hdecode, h⟩ := bind_eq_ok.mp h
    obtain rfl := Except.ok.inj h
    apply refreshSenderTopologyState_sound
    apply hsound.hearable.update
    intro _ _
    exact hearable_withoutLinkLocal (decodeDiscoveryPayload_not_discovery hdecode)
  · split at h
    · obtain ⟨sources, -, h⟩ := bind_eq_ok.mp h
      obtain rfl := Except.ok.inj h
      apply refreshSenderTopologyState_sound
      apply hsound.hearable.update
      intro board hboard
      exact hboard
    · split at h
      · obtain ⟨boards, hdecode, h⟩ := bind_eq_ok.mp h
        obtain rfl := Except.ok.inj h
        apply refreshSenderTopologyState_sound
        obtain ⟨count, -, hdecode⟩ := bind_eq_ok.mp hdecode
        obtain ⟨-, -, hdecode⟩ := bind_eq_ok.mp hdecode
        obtain ⟨decoded, htake, hdecode⟩ := bind_eq_ok.mp hdecode
        obtain ⟨-, -, hdecode⟩ := bind_eq_ok.mp hdecode
        obtain rfl := Except.ok.inj hdecode
        intro board hboard
        obtain ⟨normal, hnormal, rfl⟩ := List.mem_map.mp hboard
        obtain ⟨old, hold, rfl⟩ := exists_of_mem_normalizeTopologyBoards hnormal
        apply hearable_withoutLinkLocal
        intro ep hep
        exact takeBoards_not_discovery htake old hold ep (mem_sortDedup.mp hep)
      · obtain rfl := Except.ok.inj h
        exact hsound

end Senders

section Routes
variable {B : Build} {S : Schema} {linkLocal : Bool}

/-- What every route of the cache is. -/
structure DiscoverySideState.Sound (linkLocal : Bool) (route : DiscoverySideState S) : Prop where
  recomputed : recomputeDiscoverySideState route = route
  announced : ∃ name : String, name ∈ route.announcers
  senders : ∀ (name : String) (sender : DiscoverySenderState S), route.announcers[name]? = some sender →
    sender.Sound linkLocal

/-- A side that gets link-local traffic may hear of more. -/
theorem DiscoverySideState.Sound.mono {linkLocal' : Bool} {route : DiscoverySideState S}
    (h : route.Sound linkLocal) (hle : linkLocal = true → linkLocal' = true) :
    route.Sound linkLocal' := by
  refine ⟨h.recomputed, h.announced, ?_⟩
  intro name sender hsender
  refine ⟨(h.senders name sender hsender).summarized, ?_⟩
  intro board hboard ep hep
  have hear := (h.senders name sender hsender).hearable board hboard ep hep
  refine ⟨hear.notDiscovery, fun hlocal => hear.notLinkLocal ?_⟩
  by_contra htrue
  rw [hle (by simpa using htrue)] at hlocal
  cases hlocal

theorem learnDiscoveryRoute_sound {d : DiscoveryTypes S.DataType} {now : UInt64} {side : Nat}
    {pkt : Packet S} {routes routes' : DiscoveryRoutes S}
    (hsound : ∀ route, routes[side]? = some route → route.Sound linkLocal)
    (h : learnDiscoveryRoute B d linkLocal now side pkt routes = .ok routes') :
    ∃ route, routes' = routes.insert side route ∧ route.Sound linkLocal := by
  have hsenders : ∀ (name : String) (sender : DiscoverySenderState S),
      (routes[side]?.getD .empty).announcers[name]? = some sender → sender.Sound linkLocal := by
    intro name sender hsender
    cases hroute : routes[side]? with
    | none => simp [hroute, DiscoverySideState.empty] at hsender
    | some route =>
      rw [hroute] at hsender
      exact (hsound route hroute).senders name sender hsender
  obtain ⟨state, hstate, h⟩ := bind_eq_ok.mp h
  obtain rfl := Except.ok.inj h
  have hlearned : state.Sound linkLocal := by
    refine learnSenderState_sound ?_ hstate
    cases hold : (routes[side]?.getD .empty).announcers[pkt.sender]? with
    | none => exact .empty
    | some sender => exact hsenders _ sender hold
  refine ⟨_, rfl, recompute_idem _, ⟨pkt.sender, ?_⟩, ?_⟩
  · simp [recomputeDiscoverySideState]
  · intro name sender hsender
    dsimp only [recomputeDiscoverySideState] at hsender
    rw [OrdMap.get?_insert] at hsender
    split at hsender
    · obtain rfl := Option.some.inj hsender
      exact ⟨hlearned.summarized, hlearned.hearable⟩
    · exact hsenders name sender hsender

/-- Right after pruning every announcer was heard of within the TTL, and each route has one. -/
structure DiscoverySideState.Pruned (now : UInt64) (route : DiscoverySideState S) : Prop where
  announced : ∃ name : String, name ∈ route.announcers
  fresh : ∀ (name : String) (sender : DiscoverySenderState S), route.announcers[name]? = some sender →
    now.toNat ≤ sender.lastSeenMs.toNat + discoveryRouteTtlMs.toNat

theorem isFresh_iff {now : UInt64} {sender : DiscoverySenderState S} :
    isFresh now sender = true ↔
      now.toNat ≤ sender.lastSeenMs.toNat + discoveryRouteTtlMs.toNat := by
  unfold isFresh saturatingSub
  rw [decide_eq_true_iff, UInt64.le_iff_toNat_le]
  split
  · rename_i hle
    rw [UInt64.toNat_sub_of_le _ _ hle]
    omega
  · rename_i hlt
    rw [UInt64.le_iff_toNat_le] at hlt
    simp only [UInt64.toNat_zero]
    omega

/-- A route that nobody announces any more is gone. -/
theorem announced_of_pruneDiscoveryRoute {now : UInt64} {route pruned : DiscoverySideState S}
    (h : pruneDiscoveryRoute now route = some pruned) :
    ∃ name : String, name ∈ pruned.announcers := by
  unfold pruneDiscoveryRoute at h
  dsimp only at h
  split at h
  · cases h
  · rename_i hsome
    obtain rfl := Option.some.inj h
    rw [Std.ExtTreeMap.isEmpty_iff, Std.ExtTreeMap.eq_empty_iff_forall_not_mem] at hsome
    exact not_forall_not.mp hsome

theorem pruneDiscoveryRoute_sound {now : UInt64} {route pruned : DiscoverySideState S}
    (hsound : route.Sound linkLocal) (h : pruneDiscoveryRoute now route = some pruned) :
    pruned.Sound linkLocal ∧ pruned.Pruned now := by
  have hkept := announced_of_pruneDiscoveryRoute h
  obtain rfl := pruneDiscoveryRoute_eq_some h
  have hold : ∀ (name : String) (sender : DiscoverySenderState S),
      (route.announcers.filter fun _ sender => isFresh now sender)[name]? = some sender →
      route.announcers[name]? = some sender ∧ isFresh now sender = true := by
    intro name sender hsender
    rw [Std.ExtTreeMap.getElem?_filter'] at hsender
    exact Option.filter_eq_some_iff.mp hsender
  refine ⟨⟨recompute_idem _, hkept, ?_⟩, ⟨hkept, ?_⟩⟩
  · intro name sender hsender
    exact hsound.senders name sender (hold name sender hsender).1
  · intro name sender hsender
    exact isFresh_iff.mp (hold name sender hsender).2

end Routes
end Sedsprintf
