import Sedsprintf.Discovery.Boards
import Sedsprintf.Discovery.Learned

/-!
# What a node tells its neighbours

src/router.rs:2067-2101, 2186-2302 and src/relay.rs:1704-1822. A node advertises its own board
and, merged into it, the boards of every announcer it has heard of within the TTL. `Router` and
`Relay` differ in what they say of themselves.
-/
namespace Sedsprintf

open Lib

/-- What a node says of itself: `Router` its name, its endpoints and itself as a time source;
`Relay` that it is `RELAY`. -/
structure DiscoveryIdentity (S : Schema) where
  sender : String
  endpoints : List S.DataEndpoint
  timesyncSources : List String

def DiscoveryIdentity.relay (S : Schema) : DiscoveryIdentity S := ⟨"RELAY", [], []⟩

section Advertising
variable {S : Schema} (me : DiscoveryIdentity S) (now : UInt64) (linkLocal : Bool)

/-- The announcers that the two loops over the routes go on with, each with what it announced. -/
def freshAnnouncers (routes : DiscoveryRoutes S) : List (String × DiscoverySenderState S) :=
  routes.toList.flatMap fun e =>
    if saturatingSub now e.2.lastSeenMs ≤ discoveryRouteTtlMs then
      e.2.announcers.toList.filter fun sender => isFresh now sender.2
    else []

def localDiscoveryTopologyBoard (routes : DiscoveryRoutes S) : TopologyBoardNode S where
  senderId := me.sender
  reachableEndpoints := withoutLinkLocal linkLocal me.endpoints
  reachableTimesyncSources := me.timesyncSources
  connections := sortDedup ((freshAnnouncers now routes).map Prod.fst)

/-- The first board of the announcer is connected to this node. -/
def connectAnnouncer (announcer : String) : List (TopologyBoardNode S) → List (TopologyBoardNode S)
  | [] => []
  | board :: rest =>
    if board.senderId = announcer then
      { board with connections := board.connections ++ [me.sender] } :: rest
    else board :: connectAnnouncer announcer rest

/-- `sender_boards`: what is passed on of one announcer. -/
def senderBoards (announcer : String × DiscoverySenderState S) : List (TopologyBoardNode S) :=
  let boards := if announcer.2.topologyBoards.isEmpty then
      [⟨announcer.1, announcer.2.reachable, announcer.2.reachableTimesyncSources, [me.sender]⟩]
    else connectAnnouncer me announcer.1 announcer.2.topologyBoards
  boards.map fun board => { board with
    reachableEndpoints := withoutLinkLocal linkLocal board.reachableEndpoints }

/-- `advertised_discovery_topology_for_link_locked`. -/
def advertisedDiscoveryTopologyForLink (routes : DiscoveryRoutes S) : List (TopologyBoardNode S) :=
  normalizeTopologyBoards ((freshAnnouncers now routes).foldl
    (fun boards announcer => mergeTopologyBoards boards (senderBoards me linkLocal announcer))
    [localDiscoveryTopologyBoard me now linkLocal routes])

/-- `advertised_discovery_endpoints_for_link_locked`. -/
def advertisedDiscoveryEndpointsForLink (routes : DiscoveryRoutes S) : List S.DataEndpoint :=
  (summarizeTopologyBoards (advertisedDiscoveryTopologyForLink me now linkLocal routes)).1.filter
    fun ep => !S.isDiscoveryEndpoint ep && (linkLocal || !S.isLinkLocalOnly ep)

/-- `advertised_discovery_timesync_sources_for_link_locked`. -/
def advertisedDiscoveryTimesyncSourcesForLink (routes : DiscoveryRoutes S) : List String :=
  (summarizeTopologyBoards (advertisedDiscoveryTopologyForLink me now true routes)).2

end Advertising

section Views
variable {S : Schema} {me : DiscoveryIdentity S} {now : UInt64} {linkLocal : Bool}
  {boards boards' : List (TopologyBoardNode S)} {routes : DiscoveryRoutes S}

theorem viewOf_append (boards boards' : List (TopologyBoardNode S)) :
    viewOf (boards ++ boards') = viewOf boards ⊔ viewOf boards' := by
  induction boards with
  | nil => rw [List.nil_append, viewOf_nil, bot_sup_eq]
  | cons board rest ih => rw [List.cons_append, viewOf_cons, ih, viewOf_cons board rest, sup_assoc]

theorem mergeTopologyBoards_foldl_view (sources : List (List (TopologyBoardNode S)))
    (hsenders : (boards.map TopologyBoardNode.senderId).Nodup) :
    ((sources.foldl mergeTopologyBoards boards).map TopologyBoardNode.senderId).Nodup ∧
      viewOf (sources.foldl mergeTopologyBoards boards) = viewOf boards ⊔ viewOf sources.flatten := by
  induction sources generalizing boards with
  | nil =>
    rw [List.flatten_nil, viewOf_nil, sup_bot_eq]
    exact ⟨hsenders, rfl⟩
  | cons source rest ih =>
    obtain ⟨hnormalized, hview⟩ := mergeTopologyBoards_view hsenders source
    have hnodup : ((mergeTopologyBoards boards source).map TopologyBoardNode.senderId).Nodup :=
      List.pairwise_map.mpr (hnormalized.ascending.imp fun hlt => hlt.ne)
    obtain ⟨hsenders', hrest⟩ := ih hnodup
    refine ⟨hsenders', ?_⟩
    rw [List.foldl_cons, hrest, hview, List.flatten_cons, viewOf_append, sup_assoc]

/-- What is advertised is what the node says of itself and what it passes on of every announcer
it has heard of within the TTL. -/
theorem advertised_view (me : DiscoveryIdentity S) (now : UInt64) (linkLocal : Bool)
    (routes : DiscoveryRoutes S) :
    Normalized (advertisedDiscoveryTopologyForLink me now linkLocal routes) ∧
      viewOf (advertisedDiscoveryTopologyForLink me now linkLocal routes) =
        viewOf [localDiscoveryTopologyBoard me now linkLocal routes] ⊔
          viewOf ((freshAnnouncers now routes).flatMap (senderBoards me linkLocal)) := by
  have hlocal : ([localDiscoveryTopologyBoard me now linkLocal routes].map
      TopologyBoardNode.senderId).Nodup := List.nodup_singleton _
  obtain ⟨hnodup, hview⟩ := mergeTopologyBoards_foldl_view
    ((freshAnnouncers now routes).map (senderBoards me linkLocal)) hlocal
  rw [List.foldl_map] at hnodup hview
  have hnormalizes := normalizeTopologyBoards_normalizesTo ((freshAnnouncers now routes).foldl
    (fun boards announcer => mergeTopologyBoards boards (senderBoards me linkLocal announcer))
    [localDiscoveryTopologyBoard me now linkLocal routes])
  refine ⟨hnormalizes.normalized, ?_⟩
  have hone : OneBoardPerSender ((freshAnnouncers now routes).foldl
      (fun boards announcer => mergeTopologyBoards boards (senderBoards me linkLocal announcer))
      [localDiscoveryTopologyBoard me now linkLocal routes]) :=
    .of_eq fun a ha b hb heq => List.inj_on_of_nodup_map hnodup ha hb heq
  rw [advertisedDiscoveryTopologyForLink, hnormalizes.viewOf_eq hone, hview, List.flatMap_def]

end Views
end Sedsprintf
