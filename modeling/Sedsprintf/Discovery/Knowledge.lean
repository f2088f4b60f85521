import Sedsprintf.Discovery.Messages
import Sedsprintf.TimeSync.NetworkTime

/-!
# What a node knows

A node knows what its announcers told it, in whatever order their packets came. Learning and
advertising are bounded by what is said: nothing is known or passed on that no packet said. In the
other direction an endpoint that every packet of an announcer names stays known.
-/
namespace Sedsprintf

open Lib

section Bounds
variable {S : Schema} {V : TopologyView S} {boards : List (TopologyBoardNode S)}

/-- A board says no more than `V`. -/
structure TopologyBoardNode.Within (V : TopologyView S) (board : TopologyBoardNode S) : Prop where
  sender : board.senderId ∈ V.1
  endpoints : ∀ ep ∈ board.reachableEndpoints, (board.senderId, ep) ∈ V.2.1
  sources : ∀ source ∈ board.reachableTimesyncSources, (board.senderId, source) ∈ V.2.2.1
  connections : ∀ peer ∈ board.connections, peer ≠ board.senderId →
    (board.senderId, peer) ∈ V.2.2.2

theorem viewOf_le_iff : viewOf boards ≤ V ↔ ∀ board ∈ boards, board.Within V := by
  constructor
  · rintro ⟨hsenders, hendpoints, hsources, hconnections⟩ board hboard
    exact ⟨hsenders ⟨board, hboard, rfl⟩, fun ep hep => hendpoints ⟨board, hboard, rfl, hep⟩,
      fun source hsource => hsources ⟨board, hboard, rfl, hsource⟩,
      fun peer hpeer hne => hconnections ⟨hne, board, hboard, rfl, hpeer⟩⟩
  · intro h
    refine ⟨?_, ?_, ?_, ?_⟩
    · rintro _ ⟨board, hboard, rfl⟩
      exact (h board hboard).sender
    · rintro ⟨_, ep⟩ ⟨board, hboard, rfl, hep⟩
      exact (h board hboard).endpoints ep hep
    · rintro ⟨_, source⟩ ⟨board, hboard, rfl, hsource⟩
      exact (h board hboard).sources source hsource
    · rintro ⟨_, peer⟩ ⟨hne, board, hboard, rfl, hpeer⟩
      exact (h board hboard).connections peer hpeer hne

theorem TopologyBoardNode.Within.normalize {board : TopologyBoardNode S} (h : board.Within V) :
    (normalizeBoard board).Within V where
  sender := h.sender
  endpoints ep hep := h.endpoints ep (mem_sortDedup.mp hep)
  sources source hsource := h.sources source (mem_sortDedup.mp hsource)
  connections peer hpeer := h.connections peer (List.mem_filter.mp (mem_sortDedup.mp hpeer)).1

theorem within_normalizeTopologyBoards (h : ∀ board ∈ boards, board.Within V) :
    ∀ board ∈ normalizeTopologyBoards boards, board.Within V := by
  intro board hboard
  obtain ⟨old, hold, rfl⟩ := exists_of_mem_normalizeTopologyBoards hboard
  exact (h old hold).normalize

theorem withoutLinkLocal_subset {linkLocal : Bool} {eps : List S.DataEndpoint} :
    withoutLinkLocal linkLocal eps ⊆ eps := by
  unfold withoutLinkLocal
  split
  · exact fun _ h => h
  · exact List.filter_subset_self _

theorem mem_withoutLinkLocal {linkLocal : Bool} {eps : List S.DataEndpoint} {ep : S.DataEndpoint} :
    ep ∈ withoutLinkLocal linkLocal eps ↔
      ep ∈ eps ∧ (linkLocal = true ∨ S.isLinkLocalOnly ep = false) := by
  unfold withoutLinkLocal
  cases linkLocal with
  | true => simp
  | false => simp [List.mem_filter]

theorem TopologyBoardNode.Within.withoutLinkLocal {board : TopologyBoardNode S} (h : board.Within V)
    (linkLocal : Bool) : TopologyBoardNode.Within V { board with
      reachableEndpoints := Sedsprintf.withoutLinkLocal linkLocal board.reachableEndpoints } where
  sender := h.sender
  endpoints ep hep := h.endpoints ep (withoutLinkLocal_subset hep)
  sources := h.sources
  connections := h.connections

theorem TopologyBoardNode.Within.kept {board : TopologyBoardNode S} (h : board.Within V) :
    (keptBoard board).Within V where
  sender := h.sender
  endpoints ep hep := h.endpoints ep (List.mem_filter.mp hep).1
  sources source hsource := h.sources source (List.mem_filter.mp hsource).1
  connections peer hpeer := h.connections peer (List.mem_filter.mp hpeer).1

/-- Writing a board that says no more. -/
theorem within_updateSenderBoard {sender : String}
    {f : TopologyBoardNode S → TopologyBoardNode S} (hsender : sender ∈ V.1)
    (hf : ∀ board : TopologyBoardNode S, board.senderId = sender → board.Within V →
      (f board).Within V) (h : ∀ board ∈ boards, board.Within V) :
    ∀ board ∈ updateSenderBoard sender f boards, board.Within V := by
  induction boards with
  | nil =>
    rw [updateSenderBoard, List.forall_mem_singleton]
    exact hf _ rfl ⟨hsender, by simp, by simp, by simp⟩
  | cons first rest ih =>
    rw [List.forall_mem_cons] at h
    rw [updateSenderBoard]
    split
    · rename_i heq
      exact List.forall_mem_cons.mpr ⟨hf first heq h.1, h.2⟩
    · exact List.forall_mem_cons.mpr ⟨h.1, ih h.2⟩

end Bounds

section Packets
variable {B : Build} {S : Schema} {d : DiscoveryTypes S.DataType} {V : TopologyView S}
  {pkt : Packet S} {linkLocal : Bool} {state state' : DiscoverySenderState S}

/-- Whoever reads the packet is told no more than `V`. -/
structure Packet.Within (d : DiscoveryTypes S.DataType) (V : TopologyView S) (pkt : Packet S) :
    Prop where
  sender : pkt.sender ∈ V.1
  announce : pkt.ty = d.announce → ∀ eps, decodeDiscoveryPayload S pkt.payload.asSlice = .ok eps →
    ∀ ep ∈ eps, (pkt.sender, ep) ∈ V.2.1
  sources : pkt.ty = d.timeSyncSources → ∀ (B : Build) sources,
    decodeDiscoveryTimesyncSourcesPayload B pkt.payload.asSlice = .ok sources →
      ∀ source ∈ sources, (pkt.sender, source) ∈ V.2.2.1
  topology : pkt.ty = d.topology → ∀ (B : Build) boards,
    decodeDiscoveryTopologyPayload B S pkt.payload.asSlice = .ok boards →
      ∀ board ∈ boards, board.Within V

/-- What the match on the packet's type comes to. -/
theorem learnSenderState_cases (h : learnSenderState B d linkLocal pkt state = .ok state') :
    (pkt.ty = d.announce ∧ ∃ eps, decodeDiscoveryPayload S pkt.payload.asSlice = .ok eps ∧
      state' = refreshSenderTopologyState { state with
        topologyBoards := updateSenderBoard pkt.sender (fun board => { board with
          reachableEndpoints := withoutLinkLocal linkLocal eps }) state.topologyBoards }) ∨
    ((pkt.ty ≠ d.announce ∧ pkt.ty = d.timeSyncSources) ∧ ∃ sources,
      decodeDiscoveryTimesyncSourcesPayload B pkt.payload.asSlice = .ok sources ∧
      state' = refreshSenderTopologyState { state with
        topologyBoards := updateSenderBoard pkt.sender (fun board => { board with
          reachableTimesyncSources := sources }) state.topologyBoards }) ∨
    (pkt.ty = d.topology ∧ ∃ boards,
      decodeDiscoveryTopologyPayload B S pkt.payload.asSlice = .ok boards ∧
      state' = refreshSenderTopologyState { state with
        topologyBoards := boards.map fun board => { board with
          reachableEndpoints := withoutLinkLocal linkLocal board.reachableEndpoints } }) ∨
    (pkt.ty ≠ d.announce ∧ state' = state) := by
  unfold learnSenderState at h
  split at h
  · rename_i hty
    obtain ⟨eps, hdecode, h⟩ := bind_eq_ok.mp h
    exact .inl ⟨hty, eps, hdecode, (Except.ok.inj h).symm⟩
  · rename_i hann
    split at h
    · rename_i hty
      obtain ⟨sources, hdecode, h⟩ := bind_eq_ok.mp h
      exact .inr (.inl ⟨⟨hann, hty⟩, sources, hdecode, (Except.ok.inj h).symm⟩)
    · split at h
      · rename_i hty
        obtain ⟨boards, hdecode, h⟩ := bind_eq_ok.mp h
        exact .inr (.inr (.inl ⟨hty, boards, hdecode, (Except.ok.inj h).symm⟩))
      · exact .inr (.inr (.inr ⟨hann, (Except.ok.inj h).symm⟩))

/-- A packet tells the node no more than it says. -/
theorem learnSenderState_within (hpkt : pkt.Within d V)
    (hstate : ∀ board ∈ state.topologyBoards, board.Within V)
    (h : learnSenderState B d linkLocal pkt state = .ok state') :
    ∀ board ∈ state'.topologyBoards, board.Within V := by
  rcases learnSenderState_cases h with ⟨hty, eps, hdecode, rfl⟩ |
    ⟨⟨-, hty⟩, sources, hdecode, rfl⟩ | ⟨hty, boards, hdecode, rfl⟩ | ⟨-, rfl⟩
  · apply within_normalizeTopologyBoards
    refine within_updateSenderBoard hpkt.sender (fun board heq hboard => ?_) hstate
    refine ⟨hboard.sender, fun ep hep => ?_, hboard.sources, hboard.connections⟩
    show (board.senderId, ep) ∈ V.2.1
    rw [heq]
    exact hpkt.announce hty eps hdecode ep (withoutLinkLocal_subset hep)
  · apply within_normalizeTopologyBoards
    refine within_updateSenderBoard hpkt.sender (fun board heq hboard => ?_) hstate
    refine ⟨hboard.sender, hboard.endpoints, fun source hsource => ?_, hboard.connections⟩
    show (board.senderId, source) ∈ V.2.2.1
    rw [heq]
    exact hpkt.sources hty B sources hdecode source hsource
  · apply within_normalizeTopologyBoards
    rw [List.forall_mem_map]
    intro board hboard
    exact (hpkt.topology hty B boards hdecode board hboard).withoutLinkLocal linkLocal
  · exact hstate

end Packets

section Keeping
variable {B : Build} {S : Schema} {d : DiscoveryTypes S.DataType} {pkt : Packet S}
  {linkLocal : Bool} {state state' : DiscoverySenderState S} {ep : S.DataEndpoint}

/-- The boards of an announcer are normalized, and it reaches what they reach. -/
structure DiscoverySenderState.Refreshed (state : DiscoverySenderState S) : Prop where
  normalized : Normalized state.topologyBoards
  summarized : summarizeTopologyBoards state.topologyBoards =
    (state.reachable, state.reachableTimesyncSources)

theorem DiscoverySenderState.Refreshed.empty :
    (DiscoverySenderState.empty : DiscoverySenderState S).Refreshed :=
  ⟨⟨List.Pairwise.nil, by simp [DiscoverySenderState.empty]⟩, rfl⟩

theorem refreshSenderTopologyState_refreshed (state : DiscoverySenderState S) :
    (refreshSenderTopologyState state).Refreshed :=
  ⟨(normalizeTopologyBoards_normalizesTo _).normalized, rfl⟩

theorem learnSenderState_refreshed (hstate : state.Refreshed)
    (h : learnSenderState B d linkLocal pkt state = .ok state') : state'.Refreshed := by
  rcases learnSenderState_cases h with ⟨-, eps, -, rfl⟩ | ⟨-, sources, -, rfl⟩ |
    ⟨-, boards, -, rfl⟩ | ⟨-, rfl⟩
  · exact refreshSenderTopologyState_refreshed _
  · exact refreshSenderTopologyState_refreshed _
  · exact refreshSenderTopologyState_refreshed _
  · exact hstate

theorem mem_summarizeTopologyBoards {boards : List (TopologyBoardNode S)} :
    ep ∈ (summarizeTopologyBoards boards).1 ↔ ∃ board ∈ boards, ep ∈ board.reachableEndpoints := by
  rw [summarizeTopologyBoards, mem_sortDedup, List.mem_flatMap]

theorem DiscoverySenderState.Refreshed.mem_reachable (h : state.Refreshed) :
    ep ∈ state.reachable ↔ ∃ board ∈ state.topologyBoards, ep ∈ board.reachableEndpoints := by
  rw [← mem_summarizeTopologyBoards, h.summarized]

/-- Normalizing boards of different senders drops none of them. -/
theorem mem_reachable_refresh
    (hsenders : (state.topologyBoards.map TopologyBoardNode.senderId).Nodup) :
    ep ∈ (refreshSenderTopologyState state).reachable ↔
      ∃ board ∈ state.topologyBoards, ep ∈ board.reachableEndpoints := by
  have hone : OneBoardPerSender state.topologyBoards :=
    .of_eq fun a ha b hb heq => List.inj_on_of_nodup_map hsenders ha hb heq
  rw [(refreshSenderTopologyState_refreshed state).mem_reachable]
  constructor
  · rintro ⟨board, hboard, hep⟩
    obtain ⟨old, hold, rfl⟩ := exists_of_mem_normalizeTopologyBoards hboard
    exact ⟨old, hold, mem_sortDedup.mp hep⟩
  · rintro ⟨board, hboard, hep⟩
    exact ⟨normalizeBoard board, ((normalizeTopologyBoards_normalizesTo _).mem_iff hone _).mpr
      ⟨board, hboard, rfl⟩, mem_sortDedup.mpr hep⟩

section Updates
variable {sender : String} {f : TopologyBoardNode S → TopologyBoardNode S}
  {boards : List (TopologyBoardNode S)}

theorem updateSenderBoard_nodup (hf : ∀ board, (f board).senderId = board.senderId)
    (h : (boards.map TopologyBoardNode.senderId).Nodup) :
    ((updateSenderBoard sender f boards).map TopologyBoardNode.senderId).Nodup := by
  have hsenders : (updateSenderBoard sender f boards).map TopologyBoardNode.senderId =
      boards.map TopologyBoardNode.senderId ∨
      sender ∉ boards.map TopologyBoardNode.senderId ∧
        (updateSenderBoard sender f boards).map TopologyBoardNode.senderId =
          boards.map TopologyBoardNode.senderId ++ [sender] := by
    clear h
    induction boards with
    | nil => exact .inr ⟨by simp, by simp [updateSenderBoard, hf]⟩
    | cons first rest ih =>
      rw [updateSenderBoard]
      split
      · exact .inl (by simp [hf])
      · rename_i hne
        rcases ih with hsame | ⟨hnot, hmore⟩
        · exact .inl (by simp [hsame])
        · refine .inr ⟨?_, by simp [hmore]⟩
          rw [List.map_cons, List.mem_cons, not_or]
          exact ⟨Ne.symm hne, hnot⟩
  rcases hsenders with hsame | ⟨hnot, hmore⟩
  · rwa [hsame]
  · rw [hmore, List.nodup_append]
    refine ⟨h, List.nodup_singleton _, ?_⟩
    rintro a ha _ hb rfl
    obtain rfl := List.mem_singleton.mp hb
    exact hnot ha

/-- The board that is written. -/
theorem exists_mem_updateSenderBoard (sender : String)
    (f : TopologyBoardNode S → TopologyBoardNode S) (boards : List (TopologyBoardNode S)) :
    ∃ board, f board ∈ updateSenderBoard sender f boards := by
  induction boards with
  | nil => exact ⟨_, List.mem_singleton.mpr rfl⟩
  | cons first rest ih =>
    rw [updateSenderBoard]
    split
    · exact ⟨first, List.mem_cons_self⟩
    · exact ih.imp fun board hboard => List.mem_cons_of_mem _ hboard

/-- A board that is there stays, or is the one that is written. -/
theorem mem_updateSenderBoard_of_mem {board : TopologyBoardNode S} (h : board ∈ boards) :
    board ∈ updateSenderBoard sender f boards ∨ f board ∈ updateSenderBoard sender f boards := by
  induction boards with
  | nil => cases h
  | cons first rest ih =>
    rw [updateSenderBoard]
    rcases List.mem_cons.mp h with rfl | h
    · split
      · exact .inr List.mem_cons_self
      · exact .inl List.mem_cons_self
    · split
      · exact .inl (List.mem_cons_of_mem _ h)
      · exact (ih h).imp (List.mem_cons_of_mem _) (List.mem_cons_of_mem _)

end Updates

/-- Whoever accepts the packet is told of the endpoint, unless the packet is of time sources. -/
structure Packet.Tells (d : DiscoveryTypes S.DataType) (ep : S.DataEndpoint) (pkt : Packet S) :
    Prop where
  announce : pkt.ty = d.announce → ∃ eps,
    decodeDiscoveryPayload S pkt.payload.asSlice = .ok eps ∧ ep ∈ eps
  topology : pkt.ty = d.topology → ∀ (B : Build) boards,
    decodeDiscoveryTopologyPayload B S pkt.payload.asSlice = .ok boards →
      ∃ board ∈ boards, ep ∈ board.reachableEndpoints

theorem decodeDiscoveryTopologyPayload_nodup {payload : List UInt8}
    {boards : List (TopologyBoardNode S)}
    (h : decodeDiscoveryTopologyPayload B S payload = .ok boards) :
    (boards.map TopologyBoardNode.senderId).Nodup := by
  obtain ⟨raws, -, -, -, rfl⟩ := decodeDiscoveryTopologyPayload_eq_ok.mp h
  exact List.pairwise_map.mpr
    ((normalizeTopologyBoards_normalizesTo _).normalized.ascending.imp fun hlt => hlt.ne)

/-- What an announcer names in all it says stays known of it. -/
theorem learnSenderState_tells (hstate : state.Refreshed)
    (hallowed : linkLocal = true ∨ S.isLinkLocalOnly ep = false) (htells : pkt.Tells d ep)
    (hknown : ep ∈ state.reachable ∨ pkt.ty = d.announce)
    (h : learnSenderState B d linkLocal pkt state = .ok state') : ep ∈ state'.reachable := by
  have hnodup : (state.topologyBoards.map TopologyBoardNode.senderId).Nodup :=
    List.pairwise_map.mpr (hstate.normalized.ascending.imp fun hlt => hlt.ne)
  rcases learnSenderState_cases h with ⟨hty, eps, hdecode, rfl⟩ |
    ⟨⟨hann, -⟩, sources, -, rfl⟩ | ⟨hty, boards, hdecode, rfl⟩ | ⟨hann, rfl⟩
  · obtain ⟨eps', hdecode', hep⟩ := htells.announce hty
    rw [hdecode] at hdecode'
    obtain rfl := Except.ok.inj hdecode'
    obtain ⟨board, hboard⟩ := exists_mem_updateSenderBoard pkt.sender (fun board =>
      { board with reachableEndpoints := withoutLinkLocal linkLocal eps }) state.topologyBoards
    refine (mem_reachable_refresh (updateSenderBoard_nodup (fun board => ?_) hnodup)).mpr
      ⟨_, hboard, mem_withoutLinkLocal.mpr ⟨hep, hallowed⟩⟩
    rfl
  · obtain ⟨board, hboard, hep⟩ := hstate.mem_reachable.mp (hknown.resolve_right hann)
    refine (mem_reachable_refresh (updateSenderBoard_nodup (fun board => ?_) hnodup)).mpr ?_
    · rfl
    · rcases mem_updateSenderBoard_of_mem hboard with hstays | hwritten
      · exact ⟨_, hstays, hep⟩
      · exact ⟨_, hwritten, hep⟩
  · obtain ⟨board, hboard, hep⟩ := htells.topology hty B boards hdecode
    have hsenders : ((boards.map fun board => { board with
        reachableEndpoints := withoutLinkLocal linkLocal board.reachableEndpoints }).map
        TopologyBoardNode.senderId).Nodup := by
      rw [List.map_map]
      exact decodeDiscoveryTopologyPayload_nodup hdecode
    rw [mem_reachable_refresh hsenders]
    exact ⟨_, List.mem_map_of_mem hboard, mem_withoutLinkLocal.mpr ⟨hep, hallowed⟩⟩
  · exact hknown.resolve_right hann

/-- An announce whose words can be read is never refused. -/
theorem learnDiscoveryRoute_announce {eps : List S.DataEndpoint} (hty : pkt.ty = d.announce)
    (hdecode : decodeDiscoveryPayload S pkt.payload.asSlice = .ok eps) (linkLocal : Bool)
    (now : UInt64) (side : Nat) (routes : DiscoveryRoutes S) :
    ∃ routes', learnDiscoveryRoute B d linkLocal now side pkt routes = .ok routes' := by
  have hlearn : ∀ state : DiscoverySenderState S,
      ∃ state', learnSenderState B d linkLocal pkt state = .ok state' := by
    intro state
    rw [learnSenderState, if_pos hty, hdecode]
    exact ⟨_, rfl⟩
  obtain ⟨state', hstate⟩ := hlearn
    ((routes[side]?.getD .empty).announcers[pkt.sender]?.getD .empty)
  simp only [learnDiscoveryRoute, hstate, ok_bind]
  exact ⟨_, rfl⟩

end Keeping

section Routes
variable {B : Build} {S : Schema} {d : DiscoveryTypes S.DataType} {linkLocal : Bool} {now : UInt64}
  {side : Nat} {pkt : Packet S} {routes routes' : DiscoveryRoutes S}
  {P : String → DiscoverySenderState S → Prop}

namespace DiscoveryRoutes

/-- The announcer of that name on that side. -/
def announcer (routes : DiscoveryRoutes S) (side : Nat) (name : String) :
    Option (DiscoverySenderState S) :=
  (routes[side]?).bind fun route => route.announcers[name]?

/-- What holds of every announcer on every side. -/
def Announcers (P : String → DiscoverySenderState S → Prop) (routes : DiscoveryRoutes S) : Prop :=
  ∀ (side : Nat) (name : String) (state : DiscoverySenderState S),
    announcer routes side name = some state → P name state

theorem announcer_eq_some {name : String} {state : DiscoverySenderState S} :
    announcer routes side name = some state ↔
      ∃ route, routes[side]? = some route ∧ route.announcers[name]? = some state :=
  Option.bind_eq_some_iff

theorem announcer_empty (side : Nat) (name : String) :
    announcer (∅ : DiscoveryRoutes S) side name = none := by
  simp [announcer]

/-- One packet changes what is known of its sender on the side it came from. -/
theorem announcer_learn (h : learnDiscoveryRoute B d linkLocal now side pkt routes = .ok routes') :
    ∃ state, learnSenderState B d linkLocal pkt
        ((announcer routes side pkt.sender).getD .empty) = .ok state ∧
      ∀ (other : Nat) (name : String), announcer routes' other name =
        if side = other ∧ pkt.sender = name then some { state with lastSeenMs := now }
        else announcer routes other name := by
  obtain ⟨state, hstate, h⟩ := bind_eq_ok.mp h
  obtain rfl := Except.ok.inj h
  refine ⟨state, ?_, fun other name => ?_⟩
  · rw [← hstate, announcer]
    cases routes[side]? with
    | none => simp [DiscoverySideState.empty]
    | some route => rfl
  · rw [announcer, OrdMap.get?_insert]
    by_cases hside : side = other
    · subst hside
      simp only [if_true, Option.bind_some, recomputeDiscoverySideState, OrdMap.get?_insert,
        true_and]
      split
      · rfl
      · rw [announcer]
        cases routes[side]? with
        | none => simp [DiscoverySideState.empty]
        | some route => rfl
    · rw [if_neg hside, if_neg (fun h => hside h.1)]
      rfl

theorem announcer_prune (now : UInt64) (routes : DiscoveryRoutes S) (side : Nat) (name : String) :
    announcer (pruneDiscoveryRoutes now routes) side name =
      (announcer routes side name).filter fun state => isFresh now state := by
  rw [announcer, announcer, pruneDiscoveryRoutes, Std.ExtTreeMap.getElem?_filterMap']
  cases routes[side]? with
  | none => rfl
  | some route =>
    simp only [Option.bind_some]
    rw [← Std.ExtTreeMap.getElem?_filter' (f := fun _ sender => isFresh now sender)]
    unfold pruneDiscoveryRoute
    dsimp only
    split
    · rename_i hempty
      rw [Std.ExtTreeMap.isEmpty_iff] at hempty
      simp [hempty]
    · rfl

theorem announcer_erase (routes : DiscoveryRoutes S) (erased side : Nat) (name : String) :
    announcer (routes.erase erased) side name =
      if erased = side then none else announcer routes side name := by
  rw [announcer, OrdMap.get?_erase]
  split
  · rfl
  · rfl

theorem Announcers.empty : Announcers P (∅ : DiscoveryRoutes S) := by
  intro side name state h
  rw [announcer_empty] at h
  cases h

theorem Announcers.learn (hroutes : Announcers P routes)
    (h : learnDiscoveryRoute B d linkLocal now side pkt routes = .ok routes')
    (hlearn : ∀ state state', (state = .empty ∨ P pkt.sender state) →
      learnSenderState B d linkLocal pkt state = .ok state' →
      P pkt.sender { state' with lastSeenMs := now }) : Announcers P routes' := by
  obtain ⟨learned, hstate, hannouncer⟩ := announcer_learn h
  intro other name state hother
  rw [hannouncer] at hother
  split at hother
  · rename_i heq
    obtain rfl := Option.some.inj hother
    rw [← heq.2]
    refine hlearn _ learned ?_ hstate
    cases hold : announcer routes side pkt.sender with
    | none => exact .inl rfl
    | some old => exact .inr (hroutes side pkt.sender old hold)
  · exact hroutes other name state hother

theorem Announcers.prune (h : Announcers P routes) (now : UInt64) :
    Announcers P (pruneDiscoveryRoutes now routes) := by
  intro side name state hstate
  rw [announcer_prune] at hstate
  exact h side name state (Option.filter_eq_some_iff.mp hstate).1

theorem Announcers.erase (h : Announcers P routes) (erased : Nat) :
    Announcers P (routes.erase erased) := by
  intro side name state hstate
  rw [announcer_erase] at hstate
  split at hstate
  · cases hstate
  · exact h side name state hstate

/-- Those that are advertised. -/
theorem exists_of_mem_freshAnnouncers {name : String} {state : DiscoverySenderState S}
    (h : (name, state) ∈ freshAnnouncers now routes) :
    ∃ side, announcer routes side name = some state ∧ isFresh now state = true := by
  obtain ⟨⟨side, route⟩, hroute, h⟩ := List.mem_flatMap.mp h
  split at h
  · obtain ⟨hmem, hfresh⟩ := List.mem_filter.mp h
    refine ⟨side, announcer_eq_some.mpr ⟨route, ?_, ?_⟩, hfresh⟩
    · exact Std.ExtTreeMap.mem_toList_iff_getElem?_eq_some.mp hroute
    · exact Std.ExtTreeMap.mem_toList_iff_getElem?_eq_some.mp hmem
  · cases h

theorem foldl_lastSeenMs (senders : List (DiscoverySenderState S)) (seen : UInt64) :
    seen.toNat ≤ (senders.foldl (fun seen sender => max seen sender.lastSeenMs) seen).toNat ∧
      ∀ sender ∈ senders, sender.lastSeenMs.toNat ≤
        (senders.foldl (fun seen sender => max seen sender.lastSeenMs) seen).toNat := by
  induction senders generalizing seen with
  | nil => exact ⟨Nat.le_refl _, by simp⟩
  | cons first rest ih =>
    obtain ⟨hseen, hrest⟩ := ih (max seen first.lastSeenMs)
    rw [UInt64.toNat_max] at hseen
    refine ⟨(Nat.le_max_left _ _).trans hseen, List.forall_mem_cons.mpr ⟨?_, hrest⟩⟩
    exact (Nat.le_max_right _ _).trans hseen

/-- A side was heard of no earlier than any of its announcers. -/
theorem lastSeenMs_le {route : DiscoverySideState S} {name : String}
    {state : DiscoverySenderState S} (h : recomputeDiscoverySideState route = route)
    (hstate : route.announcers[name]? = some state) :
    state.lastSeenMs.toNat ≤ route.lastSeenMs.toNat := by
  rw [← h]
  refine (foldl_lastSeenMs _ 0).2 state (List.mem_map.mpr ⟨(name, state), ?_, rfl⟩)
  exact Std.ExtTreeMap.mem_toList_iff_getElem?_eq_some.mpr hstate

theorem mem_freshAnnouncers (hroutes : Recomputed routes) {name : String}
    {state : DiscoverySenderState S} (hstate : announcer routes side name = some state)
    (hfresh : isFresh now state = true) : (name, state) ∈ freshAnnouncers now routes := by
  obtain ⟨route, hroute, hget⟩ := announcer_eq_some.mp hstate
  refine List.mem_flatMap.mpr
    ⟨(side, route), Std.ExtTreeMap.mem_toList_iff_getElem?_eq_some.mpr hroute, ?_⟩
  have hseen := lastSeenMs_le (hroutes side route hroute) hget
  have hroute : saturatingSub now route.lastSeenMs ≤ discoveryRouteTtlMs := by
    have hstate := isFresh_iff.mp hfresh
    rw [UInt64.le_iff_toNat_le, toNat_saturatingSub]
    omega
  rw [if_pos hroute, List.mem_filter]
  exact ⟨Std.ExtTreeMap.mem_toList_iff_getElem?_eq_some.mpr hget, hfresh⟩

end DiscoveryRoutes
end Routes
end Sedsprintf
