import Sedsprintf.Discovery.Rounds

/-!
# Routes lead where they say

What a node knows, and what it announces, is true of nodes that it can hear, however the packets of
discovery were lost, repeated or reordered. Once the network has announced for as many rounds as it
is wide, a node knows just what the nodes have that it can hear.
-/
namespace Sedsprintf

open Lib

/-- `i` hears `k` over at most so many links. -/
inductive Hops {ι : Type} {S : Schema} (nodes : DiscoveryNodes ι S) (k : ι) : Nat → ι → Prop
  | here (r : Nat) : Hops nodes k r k
  | hop {r : Nat} {i j : ι} (h : Hops nodes k r j) (hne : j ≠ i) (hears : nodes.hears i j = true) :
    Hops nodes k (r + 1) i

theorem Hops.succ {ι : Type} {S : Schema} {nodes : DiscoveryNodes ι S} {k i : ι} {r : Nat}
    (h : Hops nodes k r i) : Hops nodes k (r + 1) i := by
  induction h with
  | here r => exact .here _
  | hop _ hne hears ih => exact .hop ih hne hears

namespace DiscoveryNetwork
variable {ι : Type} {S : Schema} {nodes : DiscoveryNodes ι S} {n n' : DiscoveryNetwork ι S} {i : ι}

theorem mem_announced {α : Type} {route : DiscoverySideState S}
    {f : DiscoverySenderState S → List α} {a : α} :
    a ∈ (route.announcers.toList.map fun e => e.2).flatMap f ↔
      ∃ (name : String) (state : DiscoverySenderState S),
        route.announcers[name]? = some state ∧ a ∈ f state := by
  rw [List.mem_flatMap]
  constructor
  · rintro ⟨_, hstates, ha⟩
    obtain ⟨⟨name, state⟩, hmem, rfl⟩ := List.mem_map.mp hstates
    exact ⟨name, state, Std.ExtTreeMap.mem_toList_iff_getElem?_eq_some.mp hmem, ha⟩
  · rintro ⟨name, state, hget, ha⟩
    exact ⟨state, List.mem_map.mpr
      ⟨(name, state), Std.ExtTreeMap.mem_toList_iff_getElem?_eq_some.mpr hget, rfl⟩, ha⟩

theorem mem_route_reachable {route : DiscoverySideState S}
    (h : recomputeDiscoverySideState route = route) {ep : S.DataEndpoint} :
    ep ∈ route.reachable ↔ ∃ (name : String) (state : DiscoverySenderState S),
      route.announcers[name]? = some state ∧ ep ∈ state.reachable := by
  have hreachable := congrArg DiscoverySideState.reachable h
  rw [← hreachable, recomputeDiscoverySideState, mem_sortDedup, mem_announced]

theorem mem_route_sources {route : DiscoverySideState S}
    (h : recomputeDiscoverySideState route = route) {source : String} :
    source ∈ route.reachableTimesyncSources ↔
      ∃ (name : String) (state : DiscoverySenderState S),
        route.announcers[name]? = some state ∧ source ∈ state.reachableTimesyncSources := by
  have hsources := congrArg DiscoverySideState.reachableTimesyncSources h
  rw [← hsources, recomputeDiscoverySideState, mem_sortDedup, mem_announced]

/-- What a side reaches, some node has that can be heard. -/
theorem Sound.reachable (h : Sound nodes n) {side : Nat} {route : DiscoverySideState S}
    (hroute : (n.routes i)[side]? = some route) {ep : S.DataEndpoint} (hep : ep ∈ route.reachable) :
    ∃ k, nodes.Carries k i ∧ ep ∈ (nodes.identities k).endpoints := by
  obtain ⟨name, state, hstate, hep⟩ :=
    (mem_route_reachable (h.recomputed i side route hroute)).mp hep
  have hheard := h.heard i side name state
    (DiscoveryRoutes.announcer_eq_some.mpr ⟨route, hroute, hstate⟩)
  obtain ⟨board, hboard, hep⟩ := hheard.refreshed.mem_reachable.mp hep
  obtain ⟨m, k, hm, hk, -, hep⟩ := (hheard.boards board hboard).endpoints ep hep
  exact ⟨k, hk.trans hm, hep⟩

theorem Sound.sources (h : Sound nodes n) {side : Nat} {route : DiscoverySideState S}
    (hroute : (n.routes i)[side]? = some route) {source : String}
    (hsource : source ∈ route.reachableTimesyncSources) :
    ∃ k, nodes.Carries k i ∧ source ∈ (nodes.identities k).timesyncSources := by
  obtain ⟨name, state, hstate, hsource⟩ :=
    (mem_route_sources (h.recomputed i side route hroute)).mp hsource
  have hheard := h.heard i side name state
    (DiscoveryRoutes.announcer_eq_some.mpr ⟨route, hroute, hstate⟩)
  have hsummary : (summarizeTopologyBoards state.topologyBoards).2 =
      state.reachableTimesyncSources := congrArg Prod.snd hheard.refreshed.summarized
  rw [← hsummary, summarizeTopologyBoards, mem_sortDedup, List.mem_flatMap] at hsource
  obtain ⟨board, hboard, hsource⟩ := hsource
  obtain ⟨m, k, hm, hk, -, hsource⟩ := (hheard.boards board hboard).sources source hsource
  exact ⟨k, hk.trans hm, hsource⟩

variable [DecidableEq ι]

omit [DecidableEq ι] in
/-- What a fresh announcer reaches, its side reaches over a fresh route. -/
theorem exists_fresh_route (h : Tidy n) {ep : S.DataEndpoint} {now : UInt64}
    (hknown : ∃ name state, (name, state) ∈ freshAnnouncers now (n.routes i) ∧
      ep ∈ state.reachable) :
    ∃ (side : Nat) (route : DiscoverySideState S), (n.routes i)[side]? = some route ∧
      saturatingSub now route.lastSeenMs ≤ discoveryRouteTtlMs ∧ ep ∈ route.reachable := by
  obtain ⟨name, state, hfresh, hreach⟩ := hknown
  obtain ⟨⟨side, route⟩, hroute, hmem⟩ := List.mem_flatMap.mp hfresh
  have hroute := Std.ExtTreeMap.mem_toList_iff_getElem?_eq_some.mp hroute
  split at hmem
  · rename_i hfresh
    refine ⟨side, route, hroute, hfresh, ?_⟩
    rw [mem_route_reachable (h.recomputed i side route hroute)]
    exact ⟨name, state, Std.ExtTreeMap.mem_toList_iff_getElem?_eq_some.mp
      (List.mem_filter.mp hmem).1, hreach⟩
  · cases hmem

/-- Whatever became of the packets, the endpoints and time sources a side reaches are those of nodes
that can be heard, and nothing is advertised on any link that is not true of such nodes. -/
theorem known_is_true (hd : nodes.types.Distinct) {actions : List (DiscoveryAction ι S)}
    (hrun : Run (DiscoveryNetwork.step nodes) (Counted nodes) .initial actions n) (i : ι) :
    (∀ (side : Nat) (route : DiscoverySideState S), (n.routes i)[side]? = some route →
      (∀ ep ∈ route.reachable, ∃ k, nodes.Carries k i ∧ ep ∈ (nodes.identities k).endpoints) ∧
      ∀ source ∈ route.reachableTimesyncSources,
        ∃ k, nodes.Carries k i ∧ source ∈ (nodes.identities k).timesyncSources) ∧
    ∀ now linkLocal serves, viewOf (advertisedDiscoveryTopologyForLink
      ((nodes.identities i).serving serves) now linkLocal (n.routes i)) ≤ nodes.ground i := by
  have hsound := Sound.run hd hrun
  refine ⟨fun side route hroute => ⟨fun ep => hsound.reachable hroute,
    fun source => hsound.sources hroute⟩, fun now linkLocal serves => ?_⟩
  rw [viewOf_le_iff]
  exact advertised_within (nodes.identity_within i serves) (hsound.heard i)

/-- A round leaves what is known true. -/
theorem Sound.rounds (hd : nodes.types.Distinct) {opens : Nat → ι → Nat} {r : Nat}
    (h : Sound nodes n) (hrounds : Rounds nodes opens r n n') : Sound nodes n' := by
  induction hrounds with
  | nil => exact h
  | snoc _ hround ih =>
    have hcleared := ih h
    refine hround.run.invariant (Sound nodes) (fun h hok hstep => h.step hd hok.counted hstep)
      ⟨hcleared.heard, hcleared.recomputed, fun _ _ hmem => ?_⟩
    cases hmem

/-- From whatever state a run has led to, after as many rounds as there are links to the farthest
node that can be heard, a node has or reaches an endpoint over a fresh route exactly if one of those
nodes has it. -/
theorem routes_converge (hsenders : Function.Injective fun i => (nodes.identities i).sender)
    (hdiscovers : S.Discovers nodes.types nodes.discovery)
    (hinline : ∀ i, (nodes.builds i).maxStackPayload ≤ 255) {opens : Nat → ι → Nat}
    (htimed : Timed opens) {actions : List (DiscoveryAction ι S)}
    (hrun : Run (DiscoveryNetwork.step nodes) (Counted nodes) .initial actions n) {r : Nat}
    (hrounds : Rounds nodes opens r n n') (hwide : ∀ k, nodes.Carries k i → Hops nodes k r i)
    {ep : S.DataEndpoint} (hdiscovery : S.isDiscoveryEndpoint ep = false)
    (hlocal : S.isLinkLocalOnly ep = false) {now : UInt64} (hnow : now.toNat ≤ opens (r + 1) i) :
    (ep ∈ (nodes.identities i).endpoints ∨
        ∃ (side : Nat) (route : DiscoverySideState S), (n'.routes i)[side]? = some route ∧
          saturatingSub now route.lastSeenMs ≤ discoveryRouteTtlMs ∧ ep ∈ route.reachable) ↔
      ∃ k, nodes.Carries k i ∧ ep ∈ (nodes.identities k).endpoints := by
  have hsound := Sound.run hdiscovers.distinct hrun
  have hsound' := hsound.rounds hdiscovers.distinct hrounds
  constructor
  · rintro (hown | ⟨side, route, hroute, -, hep⟩)
    · exact ⟨i, .refl, hown⟩
    · exact hsound'.reachable hroute hep
  · rintro ⟨k, hk, hep⟩
    have hstart : Informed nodes opens ep (Hops nodes k 0) 0 n := by
      refine ⟨hsound.tidy, fun i hi => .inl ?_⟩
      cases hi
      exact hep
    have hinformed := hstart.rounds hsenders hdiscovers hinline htimed hdiscovery hlocal
      (fun r i => Hops.succ) (fun r i hi => ?_) hrounds
    · exact ((hinformed.aware i (hwide k hk)).known hinformed.tidy hnow).imp_right
        (exists_fresh_route hinformed.tidy)
    · cases hi with
      | here => exact .inl hep
      | @hop _ _ j hj hne hears => exact .inr ⟨j, hne, hj, hears⟩

/-- Two nodes that hear each other, and have each heard from the other of an endpoint, go on telling
each other of it for as many rounds as there are, though no node has it any more. -/
theorem gone_endpoint_stays (hsenders : Function.Injective fun i => (nodes.identities i).sender)
    (hdiscovers : S.Discovers nodes.types nodes.discovery)
    (hinline : ∀ i, (nodes.builds i).maxStackPayload ≤ 255) {opens : Nat → ι → Nat}
    (htimed : Timed opens) {nodes₀ : DiscoveryNodes ι S} (hd₀ : nodes₀.types.Distinct)
    {actions : List (DiscoveryAction ι S)}
    (hrun : Run (DiscoveryNetwork.step nodes₀) (Counted nodes₀) .initial actions n) {a b : ι}
    (hne : a ≠ b) (hab : nodes.hears a b = true) (hba : nodes.hears b a = true)
    {ep : S.DataEndpoint} (hdiscovery : S.isDiscoveryEndpoint ep = false)
    (hlocal : S.isLinkLocalOnly ep = false) {since : Nat}
    (hopens : ∀ i, since ≤ opens 0 i ∧ opens 1 i ≤ since + discoveryRouteTtlMs.toNat)
    (hknown : (∃ side, Names nodes ep n a b side since) ∧ ∃ side, Names nodes ep n b a side since)
    (hgone : ∀ k, ep ∉ (nodes.identities k).endpoints) {r : Nat}
    (hrounds : Rounds nodes opens r n n') {now : UInt64} (hnow : now.toNat ≤ opens (r + 1) a) :
    ∃ (side : Nat) (route : DiscoverySideState S), (n'.routes a)[side]? = some route ∧
      saturatingSub now route.lastSeenMs ≤ discoveryRouteTtlMs ∧ ep ∈ route.reachable := by
  have hstart : Informed nodes opens ep (fun i => i = a ∨ i = b) 0 n := by
    obtain ⟨⟨side, hnames⟩, side', hnames'⟩ := hknown
    refine ⟨(Sound.run hd₀ hrun).tidy, fun i hi => .inr ?_⟩
    rcases hi with rfl | rfl
    · exact ⟨b, side, since, ⟨hne.symm, .inr rfl⟩, hopens i, hnames⟩
    · exact ⟨a, side', since, ⟨hne, .inl rfl⟩, hopens i, hnames'⟩
  have hinformed := Informed.rounds (K := fun _ i => i = a ∨ i = b) hsenders hdiscovers hinline htimed
    hdiscovery hlocal hstart (fun r i h => h) (fun r i hi => .inr ?_) hrounds
  · have hreach := (hinformed.aware a (.inl rfl)).known hinformed.tidy hnow
    exact exists_fresh_route hinformed.tidy (hreach.resolve_left (hgone a))
  · rcases hi with rfl | rfl
    · exact ⟨b, hne.symm, .inr rfl, hab⟩
    · exact ⟨a, hne, .inl rfl, hba⟩

section Pair

/-- Two routers that hear each other. -/
def pairOfRouters (eps : Bool → List defaultSchema.DataEndpoint) :
    DiscoveryNodes Bool defaultSchema where
  builds _ := hostBuild
  identities node := ⟨if node then "B" else "A", eps node, []⟩
  relays _ := false
  hears i j := i != j
  types := defaultDiscovery
  discovery := discoveryEndpoint

def everyQuarterMinute (r : Nat) (_ : Bool) : Nat := 15000 * r

theorem everyQuarterMinute_timed : Timed everyQuarterMinute where
  forward r _ := by simp [everyQuarterMinute]
  within r _ := by
    have httl : discoveryRouteTtlMs.toNat = 30000 := rfl
    simp only [everyQuarterMinute]
    omega

theorem pair_inline (eps : Bool → List defaultSchema.DataEndpoint) (node : Bool) :
    ((pairOfRouters eps).builds node).maxStackPayload ≤ 255 :=
  show hostBuild.maxStackPayload ≤ 255 by decide

theorem pair_senders (eps : Bool → List defaultSchema.DataEndpoint) :
    Function.Injective fun i => ((pairOfRouters eps).identities i).sender := by
  intro i j h
  cases i <;> cases j <;> simp [pairOfRouters] at h ⊢

/-- What a router announces to the other about its endpoints. -/
def said (nodes : DiscoveryNodes Bool defaultSchema) (n : DiscoveryNetwork Bool defaultSchema)
    (now : UInt64) (node : Bool) : Option (Packet defaultSchema) :=
  (n.announcement nodes node now true false).head?

/-- Both announce at `now`, and each hears the other's endpoints. -/
def talk (nodes : DiscoveryNodes Bool defaultSchema) (now : UInt64)
    (n : DiscoveryNetwork Bool defaultSchema) : DiscoveryNetwork Bool defaultSchema :=
  { routes := fun node => match said nodes n now !node with
      | some pkt => n.learned nodes node 0 true now pkt
      | none => n.routes node
    sent := (n.announcement nodes true now true false).map (fun pkt => (true, pkt)) ++
      (n.announcement nodes false now true false).map (fun pkt => (false, pkt)) }

instance (boards : List (TopologyBoardNode defaultSchema)) : Decidable (CountedBoards boards) :=
  decidable_of_iff (boards.length < 2 ^ 32 ∧ ∀ board ∈ boards,
      board.reachableEndpoints.length < 2 ^ 32 ∧ board.reachableTimesyncSources.length < 2 ^ 32 ∧
        board.connections.length < 2 ^ 32)
    ⟨fun ⟨hcount, h⟩ => ⟨hcount, fun board hmem => (h board hmem).1,
      fun board hmem => (h board hmem).2.1, fun board hmem => (h board hmem).2.2⟩,
    fun h => ⟨h.count, fun board hmem =>
      ⟨h.endpoints board hmem, h.sources board hmem, h.connections board hmem⟩⟩⟩

/-- What a round of talking needs, computed. -/
def talks (eps : Bool → List defaultSchema.DataEndpoint) (r : Nat) (now : UInt64)
    (n : DiscoveryNetwork Bool defaultSchema) : Bool :=
  let nodes := pairOfRouters eps
  decide (15000 * r ≤ now.toNat ∧ now.toNat ≤ 15000 * (r + 1)) && [false, true].all fun node =>
    decide (CountedBoards (advertisedDiscoveryTopologyForLink
        ((nodes.identities node).serving false) now true (n.routes node)) ∧
      (advertisedDiscoveryTimesyncSourcesForLink
        ((nodes.identities node).serving false) now (n.routes node)).length < 2 ^ 32) &&
    (said nodes n now node).any fun pkt =>
      decide (pkt.ty = nodes.types.announce ∧ pkt.sender = (nodes.identities node).sender)

theorem talk_round {eps : Bool → List defaultSchema.DataEndpoint} {r : Nat} {now : UInt64}
    {n : DiscoveryNetwork Bool defaultSchema} (h : talks eps r now n = true) :
    ∃ actions, Round (pairOfRouters eps) everyQuarterMinute r n (talk (pairOfRouters eps) now n)
      actions := by
  simp only [talks, List.all_cons, List.all_nil, Bool.and_true, Bool.and_eq_true, decide_eq_true_eq,
    Option.any_eq_true] at h
  obtain ⟨hwindow, ⟨⟨htopology, hsources⟩, pktA, hpktA, htyA, hsenderA⟩,
    ⟨htopology', hsources'⟩, pktB, hpktB, htyB, hsenderB⟩ := h
  have hopen (node : Bool) : everyQuarterMinute r node ≤ now.toNat ∧
      now.toNat ≤ everyQuarterMinute (r + 1) node := hwindow
  have hmemA : pktA ∈ n.announcement (pairOfRouters eps) false now true false :=
    List.mem_of_mem_head? hpktA
  have hmemB : pktB ∈ n.announcement (pairOfRouters eps) true now true false :=
    List.mem_of_mem_head? hpktB
  let packets (node : Bool) : List (Bool × Packet defaultSchema) :=
    (n.announcement (pairOfRouters eps) node now true false).map fun pkt => (node, pkt)
  let heard (node : Bool) (pkt : Packet defaultSchema) : DiscoveryRoutes defaultSchema :=
    n.learned (pairOfRouters eps) node 0 true now pkt
  let both : DiscoveryNetwork Bool defaultSchema := ⟨n.routes, packets true ++ packets false⟩
  let half : DiscoveryNetwork Bool defaultSchema :=
    { both with routes := Function.update n.routes true (heard true pktA) }
  have hannounce : ({ n with sent := packets false } : DiscoveryNetwork Bool defaultSchema).step
      (pairOfRouters eps) (.announce true now true false) = some both := rfl
  have hannounced : ({ n with sent := [] } : DiscoveryNetwork Bool defaultSchema).step
      (pairOfRouters eps) (.announce false now true false) = some { n with sent := packets false } := by
    simp [step, packets, announcement]
  have hheardA : both.step (pairOfRouters eps) (.receive true false 0 true now pktA) = some half := by
    refine step_receive.mpr ⟨⟨List.mem_append_right _ (List.mem_map.mpr ⟨pktA, hmemA, rfl⟩), rfl⟩, ?_⟩
    rfl
  have htalk : { half with routes := Function.update half.routes false (heard false pktB) } =
      talk (pairOfRouters eps) now n := by
    simp only [talk, half, both, heard, packets, DiscoveryNetwork.mk.injEq, and_true]
    funext node
    cases node
    · simp [hpktB]
    · simp [hpktA]
  have hheardB : half.step (pairOfRouters eps) (.receive false true 0 true now pktB) =
      some (talk (pairOfRouters eps) now n) := by
    rw [← htalk]
    exact step_receive.mpr ⟨⟨List.mem_append_left _ (List.mem_map.mpr ⟨pktB, hmemB, rfl⟩), rfl⟩, rfl⟩
  have hrun : Run (DiscoveryNetwork.step (pairOfRouters eps))
      (InRound (pairOfRouters eps) everyQuarterMinute r) { n with sent := [] }
      [.announce false now true false, .announce true now true false,
        .receive true false 0 true now pktA, .receive false true 0 true now pktB]
      (talk (pairOfRouters eps) now n) :=
    .cons ⟨hopen false, htopology, hsources⟩ hannounced <|
      .cons ⟨hopen true, htopology', hsources'⟩ hannounce <|
      .cons (hopen true) hheardA <| .cons (hopen false) hheardB <| .nil _
  refine ⟨_, hrun, fun i => ?_, fun i j hne _ _ => ?_⟩
  · cases i <;> exact ⟨now, true, false, by simp⟩
  · cases i <;> cases j
    · exact absurd rfl hne
    · exact ⟨0, true, now, pktB, by simp, htyB, hsenderB⟩
    · exact ⟨0, true, now, pktA, by simp, htyA, hsenderA⟩
    · exact absurd rfl hne

/-- Each has an endpoint of its own. -/
def ownEndpoint (node : Bool) : List defaultSchema.DataEndpoint := if node then [1] else [0]

theorem known_is_true_pair : ∃ (n : DiscoveryNetwork Bool defaultSchema)
    (actions : List (DiscoveryAction Bool defaultSchema)),
    Round (pairOfRouters ownEndpoint) everyQuarterMinute 0 .initial n actions ∧
    (∀ (side : Nat) (route : DiscoverySideState defaultSchema), (n.routes true)[side]? = some route →
      (∀ ep ∈ route.reachable, ∃ k, (pairOfRouters ownEndpoint).Carries k true ∧
        ep ∈ ((pairOfRouters ownEndpoint).identities k).endpoints) ∧
      ∀ source ∈ route.reachableTimesyncSources, ∃ k, (pairOfRouters ownEndpoint).Carries k true ∧
        source ∈ ((pairOfRouters ownEndpoint).identities k).timesyncSources) ∧
    ∀ now linkLocal serves, viewOf (advertisedDiscoveryTopologyForLink
      (((pairOfRouters ownEndpoint).identities true).serving serves) now linkLocal (n.routes true)) ≤
        (pairOfRouters ownEndpoint).ground true := by
  obtain ⟨actions, hround⟩ : ∃ actions, Round (pairOfRouters ownEndpoint) everyQuarterMinute 0
      .initial (talk (pairOfRouters ownEndpoint) 0 .initial) actions :=
    talk_round (by decide +kernel)
  exact ⟨_, actions, hround, known_is_true defaultSchema_discovers.distinct
    (hround.run.imp fun _ _ _ h => h.counted) true⟩

theorem routes_converge_pair : ∃ (n : DiscoveryNetwork Bool defaultSchema),
    Rounds (pairOfRouters ownEndpoint) everyQuarterMinute 1 .initial n ∧
    ((0 ∈ ((pairOfRouters ownEndpoint).identities true).endpoints ∨
        ∃ (side : Nat) (route : DiscoverySideState defaultSchema),
          (n.routes true)[side]? = some route ∧
          saturatingSub 20000 route.lastSeenMs ≤ discoveryRouteTtlMs ∧ 0 ∈ route.reachable) ↔
      ∃ k, (pairOfRouters ownEndpoint).Carries k true ∧
        0 ∈ ((pairOfRouters ownEndpoint).identities k).endpoints) := by
  obtain ⟨actions, hround⟩ : ∃ actions, Round (pairOfRouters ownEndpoint) everyQuarterMinute 0
      .initial (talk (pairOfRouters ownEndpoint) 0 .initial) actions :=
    talk_round (by decide +kernel)
  refine ⟨_, .snoc (.nil _) hround, routes_converge (pair_senders _) defaultSchema_discovers
    (pair_inline _) everyQuarterMinute_timed (.nil _) (.snoc (.nil _) hround) (fun k _ => ?_)
    (by decide) (by decide) (by decide)⟩
  cases k
  · exact .hop (.here 0) (by decide) rfl
  · exact .here 1

/-- Both had the endpoint, and told each other of it, before neither has it any more. Two rounds
later, and longer than a route lives, each still reaches it. -/
theorem gone_endpoint_stays_pair :
    ∃ (n n' : DiscoveryNetwork Bool defaultSchema) (actions : List (DiscoveryAction Bool defaultSchema)),
      Round (pairOfRouters fun _ => [0]) everyQuarterMinute 0 .initial n actions ∧
      Rounds (pairOfRouters fun _ => []) everyQuarterMinute 2 n n' ∧
      ∃ (side : Nat) (route : DiscoverySideState defaultSchema), (n'.routes true)[side]? = some route ∧
        saturatingSub 45000 route.lastSeenMs ≤ discoveryRouteTtlMs ∧ 0 ∈ route.reachable := by
  let had : DiscoveryNodes Bool defaultSchema := pairOfRouters fun _ => [0]
  let has : DiscoveryNodes Bool defaultSchema := pairOfRouters fun _ => []
  let n := talk had 0 .initial
  obtain ⟨actions, hround⟩ : ∃ actions, Round had everyQuarterMinute 0 .initial n actions :=
    talk_round (by decide +kernel)
  obtain ⟨_, hfirst⟩ : ∃ actions, Round has everyQuarterMinute 0 n (talk has 10000 n) actions :=
    talk_round (by decide +kernel)
  obtain ⟨_, hsecond⟩ : ∃ actions, Round has everyQuarterMinute 1 (talk has 10000 n)
      (talk has 25000 (talk has 10000 n)) actions :=
    talk_round (by decide +kernel)
  have hrounds := Rounds.snoc (.snoc (.nil n) hfirst) hsecond
  have hknown (i : Bool) : Names has 0 n i (!i) 0 0 := by
    have hannouncer : ((DiscoveryRoutes.announcer (n.routes i) 0 (has.identities !i).sender).any
        fun state => decide (0 ∈ state.reachable)) = true := by
      cases i <;> decide +kernel
    obtain ⟨state, hstate, hreach⟩ := (Option.any_eq_true _ _).mp hannouncer
    exact ⟨state, hstate, of_decide_eq_true hreach, Nat.zero_le _⟩
  have hopens (i : Bool) : 0 ≤ everyQuarterMinute 0 i ∧
      everyQuarterMinute 1 i ≤ 0 + discoveryRouteTtlMs.toNat := by
    decide +revert
  exact ⟨n, _, actions, hround, hrounds, gone_endpoint_stays (pair_senders _) defaultSchema_discovers
    (pair_inline _) everyQuarterMinute_timed defaultSchema_discovers.distinct
    (hround.run.imp fun _ _ _ h => h.counted) (a := true) (b := false) (by decide) rfl rfl (by decide)
    (by decide) hopens ⟨⟨0, hknown true⟩, 0, hknown false⟩ (by simp [pairOfRouters]) hrounds
    (by decide)⟩

end Pair
end DiscoveryNetwork
end Sedsprintf
