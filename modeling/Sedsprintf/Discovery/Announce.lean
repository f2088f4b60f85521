import Sedsprintf.Discovery.Knowledge

/-!
# The packets of an announcement

src/router.rs:2348-2386 and src/relay.rs:1898-1940. For every side a node builds up to three
packets of what it advertises there. They say what the node says of itself and what it was told by
announcers it has heard of within the TTL, and every endpoint among that is in what announces
endpoints and in what describes the topology.
-/
namespace Sedsprintf

open Lib

/-- The packets for one side, in the order they are built in. -/
def linkAnnouncements (B : Build) {S : Schema} (d : DiscoveryTypes S.DataType)
    (discovery : S.DataEndpoint) (me : DiscoveryIdentity S) (now : UInt64) (linkLocal : Bool)
    (routes : DiscoveryRoutes S) : List (Outcome (Packet S)) :=
  let endpoints := advertisedDiscoveryEndpointsForLink me now linkLocal routes
  let sources := advertisedDiscoveryTimesyncSourcesForLink me now routes
  let topology := advertisedDiscoveryTopologyForLink me now linkLocal routes
  (if endpoints.isEmpty then []
    else [buildDiscoveryAnnounce B d discovery me.sender now endpoints]) ++
  (if sources.isEmpty then []
    else [buildDiscoveryTimesyncSources B d discovery me.sender now sources]) ++
  (if topology.isEmpty then []
    else [buildDiscoveryTopology B d discovery me.sender now topology])

section Advertised
variable {S : Schema} {me : DiscoveryIdentity S} {now : UInt64} {linkLocal : Bool}
  {routes : DiscoveryRoutes S} {V : TopologyView S}

/-- What a node says of itself is in `V`. -/
structure DiscoveryIdentity.Within (V : TopologyView S) (me : DiscoveryIdentity S) : Prop where
  sender : me.sender ∈ V.1
  endpoints : ∀ ep ∈ me.endpoints, (me.sender, ep) ∈ V.2.1
  sources : ∀ source ∈ me.timesyncSources, (me.sender, source) ∈ V.2.2.1

/-- What was heard of an announcer is in `V`, and so is the connection to it. -/
structure Heard (V : TopologyView S) (me : String) (name : String)
    (state : DiscoverySenderState S) : Prop where
  refreshed : state.Refreshed
  sender : name ∈ V.1
  boards : ∀ board ∈ state.topologyBoards, board.Within V
  outward : name ≠ me → (me, name) ∈ V.2.2.2
  inward : me ≠ name → (name, me) ∈ V.2.2.2

theorem localDiscoveryTopologyBoard_within (hme : me.Within V)
    (hheard : DiscoveryRoutes.Announcers (Heard V me.sender) routes) :
    (localDiscoveryTopologyBoard me now linkLocal routes).Within V where
  sender := hme.sender
  endpoints ep hep := hme.endpoints ep (withoutLinkLocal_subset hep)
  sources := hme.sources
  connections peer hpeer hne := by
    obtain ⟨⟨name, state⟩, hfresh, rfl⟩ := List.mem_map.mp (mem_sortDedup.mp hpeer)
    obtain ⟨side, hstate, -⟩ := DiscoveryRoutes.exists_of_mem_freshAnnouncers hfresh
    exact (hheard side name state hstate).outward hne

theorem connectAnnouncer_within {announcer : String} {boards : List (TopologyBoardNode S)}
    (hinward : me.sender ≠ announcer → (announcer, me.sender) ∈ V.2.2.2)
    (h : ∀ board ∈ boards, board.Within V) :
    ∀ board ∈ connectAnnouncer me announcer boards, board.Within V := by
  induction boards with
  | nil => simp [connectAnnouncer]
  | cons first rest ih =>
    rw [List.forall_mem_cons] at h
    rw [connectAnnouncer]
    split
    · rename_i heq
      refine List.forall_mem_cons.mpr
        ⟨⟨h.1.sender, h.1.endpoints, h.1.sources, fun peer hpeer hne => ?_⟩, h.2⟩
      rcases List.mem_append.mp hpeer with hold | hnew
      · exact h.1.connections peer hold hne
      · obtain rfl := List.mem_singleton.mp hnew
        show (first.senderId, me.sender) ∈ V.2.2.2
        rw [heq]
        exact hinward (heq ▸ hne)
    · exact List.forall_mem_cons.mpr ⟨h.1, ih h.2⟩

/-- An announcer without boards reaches nothing. -/
theorem DiscoverySenderState.Refreshed.of_isEmpty {state : DiscoverySenderState S}
    (h : state.Refreshed) (hempty : state.topologyBoards.isEmpty = true) :
    state.reachable = [] ∧ state.reachableTimesyncSources = [] := by
  have hsummary := h.summarized
  rw [List.isEmpty_iff.mp hempty] at hsummary
  exact ⟨(congrArg Prod.fst hsummary).symm, (congrArg Prod.snd hsummary).symm⟩

theorem senderBoards_within {name : String} {state : DiscoverySenderState S}
    (hheard : Heard V me.sender name state) :
    ∀ board ∈ senderBoards me linkLocal (name, state), board.Within V := by
  rw [senderBoards, List.forall_mem_map]
  intro board hboard
  refine TopologyBoardNode.Within.withoutLinkLocal ?_ linkLocal
  split at hboard
  · rename_i hempty
    obtain ⟨hreachable, hsources⟩ := hheard.refreshed.of_isEmpty hempty
    obtain rfl := List.mem_singleton.mp hboard
    refine ⟨hheard.sender, by simp [hreachable], by simp [hsources], fun peer hpeer hne => ?_⟩
    obtain rfl := List.mem_singleton.mp hpeer
    exact hheard.inward hne
  · exact connectAnnouncer_within hheard.inward hheard.boards board hboard

/-- Nothing is advertised that was neither the node's own nor told to it. -/
theorem advertised_within (hme : me.Within V)
    (hheard : DiscoveryRoutes.Announcers (Heard V me.sender) routes) :
    ∀ board ∈ advertisedDiscoveryTopologyForLink me now linkLocal routes, board.Within V := by
  rw [← viewOf_le_iff, (advertised_view me now linkLocal routes).2]
  refine sup_le (viewOf_le_iff.mpr ?_) (viewOf_le_iff.mpr ?_)
  · rw [List.forall_mem_singleton]
    exact localDiscoveryTopologyBoard_within hme hheard
  · intro board hboard
    obtain ⟨⟨name, state⟩, hfresh, hboard⟩ := List.mem_flatMap.mp hboard
    obtain ⟨side, hstate, -⟩ := DiscoveryRoutes.exists_of_mem_freshAnnouncers hfresh
    exact senderBoards_within (hheard side name state hstate) board hboard

end Advertised

section Said
variable {B : Build} {S : Schema} {d : DiscoveryTypes S.DataType} {discovery : S.DataEndpoint}
  {me : DiscoveryIdentity S} {now : UInt64} {linkLocal : Bool} {routes : DiscoveryRoutes S}
  {V : TopologyView S} {pkt : Packet S}

/-- The types of discovery are three. -/
structure DiscoveryTypes.Distinct (d : DiscoveryTypes S.DataType) : Prop where
  sources : d.timeSyncSources ≠ d.announce
  topology : d.topology ≠ d.announce
  sources_topology : d.timeSyncSources ≠ d.topology

/-- Who passes something on may say that it reaches it. -/
structure SpokenFor (V : TopologyView S) (me : String) : Prop where
  endpoints : ∀ sender ep, (sender, ep) ∈ V.2.1 → (me, ep) ∈ V.2.1
  sources : ∀ sender source, (sender, source) ∈ V.2.2.1 → (me, source) ∈ V.2.2.1

/-- The counts in what the node advertises fit a `u32`. -/
structure CountedAdvertisement (me : DiscoveryIdentity S) (now : UInt64) (linkLocal : Bool)
    (routes : DiscoveryRoutes S) : Prop where
  topology : CountedBoards (advertisedDiscoveryTopologyForLink me now linkLocal routes)
  sources : (advertisedDiscoveryTimesyncSourcesForLink me now routes).length < 2 ^ 32

theorem mem_linkAnnouncements (h : .ok pkt ∈ linkAnnouncements B d discovery me now linkLocal routes) :
    buildDiscoveryAnnounce B d discovery me.sender now
        (advertisedDiscoveryEndpointsForLink me now linkLocal routes) = .ok pkt ∨
      buildDiscoveryTimesyncSources B d discovery me.sender now
        (advertisedDiscoveryTimesyncSourcesForLink me now routes) = .ok pkt ∨
      buildDiscoveryTopology B d discovery me.sender now
        (advertisedDiscoveryTopologyForLink me now linkLocal routes) = .ok pkt := by
  have hif : ∀ {c : Bool} {built : Outcome (Packet S)},
      .ok pkt ∈ (if c then [] else [built]) → built = .ok pkt := by
    intro c built hmem
    split at hmem
    · cases hmem
    · exact (List.mem_singleton.mp hmem).symm
  unfold linkAnnouncements at h
  rcases List.mem_append.mp h with h | h
  · rcases List.mem_append.mp h with h | h
    · exact .inl (hif h)
    · exact .inr (.inl (hif h))
  · exact .inr (.inr (hif h))

theorem linkAnnouncements_sender
    (h : .ok pkt ∈ linkAnnouncements B d discovery me now linkLocal routes) :
    pkt.sender = me.sender := by
  rcases mem_linkAnnouncements h with hbuild | hbuild | hbuild
  · exact (Packet.payload_of_new hbuild).2.1
  · obtain ⟨bytes, -, hnew⟩ := bind_eq_ok.mp hbuild
    exact (Packet.payload_of_new hnew).2.1
  · obtain ⟨bytes, -, hnew⟩ := bind_eq_ok.mp hbuild
    exact (Packet.payload_of_new hnew).2.1

theorem normalizeTopologyBoards_idem (boards : List (TopologyBoardNode S)) :
    normalizeTopologyBoards (normalizeTopologyBoards boards) = normalizeTopologyBoards boards :=
  (normalizeTopologyBoards_normalizesTo boards).idem (normalizeTopologyBoards_normalizesTo _)

/-- A topology packet of a node read by any receiver. -/
theorem decodeTopology_of_advertised {B' : Build} {boards : List (TopologyBoardNode S)}
    (hcounted : CountedAdvertisement me now linkLocal routes)
    (hbuild : buildDiscoveryTopology B d discovery me.sender now
      (advertisedDiscoveryTopologyForLink me now linkLocal routes) = .ok pkt)
    (hdecode : decodeDiscoveryTopologyPayload B' S pkt.payload.asSlice = .ok boards) :
    boards = normalizeTopologyBoards
      ((advertisedDiscoveryTopologyForLink me now linkLocal routes).map keptBoard) := by
  have hnormal : normalizeTopologyBoards (advertisedDiscoveryTopologyForLink me now linkLocal
      routes) = advertisedDiscoveryTopologyForLink me now linkLocal routes :=
    normalizeTopologyBoards_idem _
  have hdecoded := decodeTopology_of_build hbuild (by rw [hnormal]; exact hcounted.topology) hdecode
  rwa [hnormal] at hdecoded

/-- An announcement says no more than the node knows. -/
theorem linkAnnouncements_within (hd : d.Distinct) (hspoken : SpokenFor V me.sender)
    (hme : me.Within V) (hheard : DiscoveryRoutes.Announcers (Heard V me.sender) routes)
    (hcounted : CountedAdvertisement me now linkLocal routes)
    (h : .ok pkt ∈ linkAnnouncements B d discovery me now linkLocal routes) : pkt.Within d V := by
  have hadvertised (linkLocal : Bool) := @advertised_within S me now linkLocal routes V hme hheard
  rcases mem_linkAnnouncements h with hbuild | hbuild | hbuild
  · obtain ⟨hty, hsender, -⟩ := Packet.payload_of_new hbuild
    refine ⟨hsender ▸ hme.sender, fun _ eps hdecode ep hep => ?_,
      fun hother => absurd (hother.symm.trans hty) hd.sources,
      fun hother => absurd (hother.symm.trans hty) hd.topology⟩
    rw [decodeAnnounce_of_build hbuild] at hdecode
    obtain rfl := Except.ok.inj hdecode
    have hmem := (List.mem_filter.mp (mem_sortDedup.mp hep)).1
    obtain ⟨board, hboard, hep⟩ := mem_summarizeTopologyBoards.mp (List.mem_filter.mp hmem).1
    rw [hsender]
    exact hspoken.endpoints _ ep ((hadvertised linkLocal board hboard).endpoints ep hep)
  · obtain ⟨bytes, -, hnew⟩ := bind_eq_ok.mp hbuild
    obtain ⟨hty, hsender, -⟩ := Packet.payload_of_new hnew
    refine ⟨hsender ▸ hme.sender, fun hother => absurd (hty.symm.trans hother) hd.sources,
      fun _ B' sources hdecode source hsource => ?_,
      fun hother => absurd (hty.symm.trans hother) hd.sources_topology⟩
    have hcount : (sortDedup (advertisedDiscoveryTimesyncSourcesForLink me now routes)).length <
        2 ^ 32 := by
      rw [advertisedDiscoveryTimesyncSourcesForLink, summarizeTopologyBoards,
        sortDedup_of_ascending (sortDedup_ascending _)]
      exact hcounted.sources
    have hmem := decodeSources_of_build hbuild hcount hdecode source hsource
    obtain ⟨board, hboard, hsource⟩ := List.mem_flatMap.mp (mem_sortDedup.mp hmem)
    rw [hsender]
    exact hspoken.sources _ source ((hadvertised true board hboard).sources source hsource)
  · obtain ⟨bytes, -, hnew⟩ := bind_eq_ok.mp hbuild
    obtain ⟨hty, hsender, -⟩ := Packet.payload_of_new hnew
    refine ⟨hsender ▸ hme.sender, fun hother => absurd (hty.symm.trans hother) hd.topology,
      fun hother => absurd (hother.symm.trans hty) hd.sources_topology,
      fun _ B' boards hdecode => ?_⟩
    rw [decodeTopology_of_advertised hcounted hbuild hdecode]
    apply within_normalizeTopologyBoards
    rw [List.forall_mem_map]
    exact fun board hboard => (hadvertised linkLocal board hboard).kept

variable {ep : S.DataEndpoint}

/-- Connecting an announcer leaves what the boards reach. -/
theorem exists_mem_connectAnnouncer (me : DiscoveryIdentity S) (announcer : String)
    {boards : List (TopologyBoardNode S)} {board : TopologyBoardNode S} (h : board ∈ boards) :
    ∃ connected ∈ connectAnnouncer me announcer boards,
      connected.reachableEndpoints = board.reachableEndpoints := by
  induction boards with
  | nil => cases h
  | cons first rest ih =>
    rw [connectAnnouncer]
    rcases List.mem_cons.mp h with rfl | h
    · split
      · exact ⟨_, List.mem_cons_self, rfl⟩
      · exact ⟨_, List.mem_cons_self, rfl⟩
    · split
      · exact ⟨board, List.mem_cons_of_mem _ h, rfl⟩
      · obtain ⟨connected, hmem, hsame⟩ := ih h
        exact ⟨connected, List.mem_cons_of_mem _ hmem, hsame⟩

/-- A node always has its own board to announce. -/
theorem linkAnnouncements_isEmpty :
    (linkAnnouncements B d discovery me now linkLocal routes).isEmpty = false := by
  have hown : me.sender ∈
      (viewOf (advertisedDiscoveryTopologyForLink me now linkLocal routes)).1 := by
    rw [(advertised_view me now linkLocal routes).2]
    exact .inl ⟨_, List.mem_singleton_self _, rfl⟩
  obtain ⟨board, hboard, -⟩ := hown
  have hboards : (advertisedDiscoveryTopologyForLink me now linkLocal routes).isEmpty = false := by
    rw [List.isEmpty_eq_false_iff]
    exact List.ne_nil_of_mem hboard
  simp [linkAnnouncements, hboards]

/-- What a node has or has heard of reaches its boards, but for what the link may not see. -/
theorem exists_advertised (hallowed : linkLocal = true ∨ S.isLinkLocalOnly ep = false)
    (hrefreshed : DiscoveryRoutes.Announcers (fun _ state => state.Refreshed) routes)
    (h : ep ∈ me.endpoints ∨ ∃ name state, (name, state) ∈ freshAnnouncers now routes ∧
      ep ∈ state.reachable) :
    ∃ board ∈ advertisedDiscoveryTopologyForLink me now linkLocal routes,
      ep ∈ board.reachableEndpoints := by
  suffices hview : ∃ sender,
      (sender, ep) ∈ (viewOf (advertisedDiscoveryTopologyForLink me now linkLocal routes)).2.1 by
    obtain ⟨sender, board, hboard, -, hep⟩ := hview
    exact ⟨board, hboard, hep⟩
  rw [(advertised_view me now linkLocal routes).2]
  rcases h with hown | ⟨name, state, hfresh, hreach⟩
  · exact ⟨me.sender, .inl ⟨_, List.mem_singleton_self _, rfl,
      mem_withoutLinkLocal.mpr ⟨hown, hallowed⟩⟩⟩
  · obtain ⟨side, hstate, -⟩ := DiscoveryRoutes.exists_of_mem_freshAnnouncers hfresh
    obtain ⟨board, hboard, hep⟩ := (hrefreshed side name state hstate).mem_reachable.mp hreach
    have hne : ¬state.topologyBoards.isEmpty = true := by
      rw [List.isEmpty_iff]
      exact List.ne_nil_of_mem hboard
    obtain ⟨connected, hconnected, hsame⟩ := exists_mem_connectAnnouncer me name hboard
    have hsent : { connected with
        reachableEndpoints := withoutLinkLocal linkLocal connected.reachableEndpoints } ∈
        senderBoards me linkLocal (name, state) := by
      rw [senderBoards, if_neg hne]
      exact List.mem_map.mpr ⟨connected, hconnected, rfl⟩
    refine ⟨connected.senderId, .inr ⟨_, List.mem_flatMap.mpr ⟨_, hfresh, hsent⟩, rfl, ?_⟩⟩
    exact mem_withoutLinkLocal.mpr ⟨hsame ▸ hep, hallowed⟩

/-- Every packet of an announcement tells of what the node has or has heard of. -/
theorem linkAnnouncements_tells (hd : d.Distinct) (hdiscovery : S.isDiscoveryEndpoint ep = false)
    (hallowed : linkLocal = true ∨ S.isLinkLocalOnly ep = false)
    (hrefreshed : DiscoveryRoutes.Announcers (fun _ state => state.Refreshed) routes)
    (hcounted : CountedAdvertisement me now linkLocal routes)
    (hknown : ep ∈ me.endpoints ∨ ∃ name state, (name, state) ∈ freshAnnouncers now routes ∧
      ep ∈ state.reachable)
    (h : .ok pkt ∈ linkAnnouncements B d discovery me now linkLocal routes) : pkt.Tells d ep := by
  obtain ⟨board, hboard, hep⟩ : ∃ board ∈ advertisedDiscoveryTopologyForLink me now linkLocal
      routes, ep ∈ board.reachableEndpoints := exists_advertised hallowed hrefreshed hknown
  rcases mem_linkAnnouncements h with hbuild | hbuild | hbuild
  · obtain ⟨hty, -, -⟩ := Packet.payload_of_new hbuild
    refine ⟨fun _ => ⟨_, decodeAnnounce_of_build hbuild, ?_⟩,
      fun hother => absurd (hother.symm.trans hty) hd.topology⟩
    rw [mem_sortDedup, List.mem_filter, advertisedDiscoveryEndpointsForLink, List.mem_filter]
    refine ⟨⟨mem_summarizeTopologyBoards.mpr ⟨board, hboard, hep⟩, ?_⟩, ?_⟩
    · rcases hallowed with hlocal | hlocal <;> simp [hdiscovery, hlocal]
    · simp [hdiscovery]
  · obtain ⟨bytes, -, hnew⟩ := bind_eq_ok.mp hbuild
    obtain ⟨hty, -, -⟩ := Packet.payload_of_new hnew
    exact ⟨fun hother => absurd (hty.symm.trans hother) hd.sources,
      fun hother => absurd (hty.symm.trans hother) hd.sources_topology⟩
  · obtain ⟨bytes, -, hnew⟩ := bind_eq_ok.mp hbuild
    obtain ⟨hty, -, -⟩ := Packet.payload_of_new hnew
    refine ⟨fun hother => absurd (hty.symm.trans hother) hd.topology,
      fun _ B' boards hdecode => ?_⟩
    rw [decodeTopology_of_advertised hcounted hbuild hdecode]
    have hnormalized := (advertised_view me now linkLocal routes).1
    have hone : OneBoardPerSender
        ((advertisedDiscoveryTopologyForLink me now linkLocal routes).map keptBoard) := by
      refine .of_eq fun a ha b hb heq => ?_
      obtain ⟨a, hamem, rfl⟩ := List.mem_map.mp ha
      obtain ⟨b, hbmem, rfl⟩ := List.mem_map.mp hb
      rw [hnormalized.ascending.eq_of_key hamem hbmem heq]
    refine ⟨normalizeBoard (keptBoard board), ((normalizeTopologyBoards_normalizesTo _).mem_iff
      hone _).mpr ⟨_, List.mem_map.mpr ⟨board, hboard, rfl⟩, rfl⟩, mem_sortDedup.mpr ?_⟩
    exact List.mem_filter.mpr ⟨hep, by simp [hdiscovery]⟩

end Said
end Sedsprintf
