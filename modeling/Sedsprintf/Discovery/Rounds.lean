import Sedsprintf.Discovery.Network
import Sedsprintf.Guarantees.DiscoveryCodec

/-!
# Announcing in rounds

In a round every node announces, its neighbours hear of it, in any order and amid any number of
other packets of the round, and nothing is heard of that is older than the round. Two rounds take no
longer than the TTL. What some nodes know in one round, all that hear one of them know in the next.
-/
namespace Sedsprintf

open Lib

theorem Schema.Discovers.distinct {S : Schema} {d : DiscoveryTypes S.DataType}
    {discovery : S.DataEndpoint} (h : S.Discovers d discovery) : d.Distinct := by
  have hannounce := congrArg MessageMeta.name h.announce
  have hsources := congrArg MessageMeta.name h.timeSyncSources
  have htopology := congrArg MessageMeta.name h.topology
  refine ⟨fun heq => ?_, fun heq => ?_, fun heq => ?_⟩
  · simp [heq, hannounce] at hsources
  · simp [heq, hannounce] at htopology
  · simp [heq, htopology] at hsources

namespace DiscoveryNetwork
variable {ι : Type} [DecidableEq ι] {S : Schema}

/-- A step of the round that is open at a node from `opens r` to `opens (r + 1)` by its clock: no
node loses routes to anything but time. -/
def InRound (nodes : DiscoveryNodes ι S) (opens : Nat → ι → Nat) (r : Nat)
    (n : DiscoveryNetwork ι S) : DiscoveryAction ι S → Prop
  | .announce node now linkLocal serves =>
    (opens r node ≤ now.toNat ∧ now.toNat ≤ opens (r + 1) node) ∧
      n.Counted nodes (.announce node now linkLocal serves)
  | .receive node _ _ _ now _ => opens r node ≤ now.toNat ∧ now.toNat ≤ opens (r + 1) node
  | .forward _ _ _ => True
  | .prune node now => opens r node ≤ now.toNat ∧ now.toNat ≤ opens (r + 1) node
  | .forget _ _ => False

/-- An announcement of the endpoints of `j`. -/
def Announces (nodes : DiscoveryNodes ι S) (j : ι) (pkt : Packet S) : Prop :=
  pkt.ty = nodes.types.announce ∧ pkt.sender = (nodes.identities j).sender

/-- One round, before which the links were cleared. -/
structure Round (nodes : DiscoveryNodes ι S) (opens : Nat → ι → Nat) (r : Nat)
    (n n' : DiscoveryNetwork ι S) (actions : List (DiscoveryAction ι S)) : Prop where
  run : Run (step nodes) (InRound nodes opens r) { n with sent := [] } actions n'
  announces : ∀ i, ∃ now linkLocal serves, .announce i now linkLocal serves ∈ actions
  delivers : ∀ i j, j ≠ i → nodes.hears i j = true →
    (∃ pkt, (j, pkt) ∈ n'.sent ∧ Announces nodes j pkt) →
    ∃ side linkLocal now pkt, .receive i j side linkLocal now pkt ∈ actions ∧
      Announces nodes j pkt

inductive Rounds (nodes : DiscoveryNodes ι S) (opens : Nat → ι → Nat) :
    Nat → DiscoveryNetwork ι S → DiscoveryNetwork ι S → Prop
  | nil (n : DiscoveryNetwork ι S) : Rounds nodes opens 0 n n
  | snoc {r : Nat} {n n' n'' : DiscoveryNetwork ι S} {actions : List (DiscoveryAction ι S)}
    (h : Rounds nodes opens r n n') (hround : Round nodes opens r n' n'' actions) :
    Rounds nodes opens (r + 1) n n''

/-- Clocks do not go back, and two rounds are over within the TTL. -/
structure Timed (opens : Nat → ι → Nat) : Prop where
  forward : ∀ r i, opens r i ≤ opens (r + 1) i
  within : ∀ r i, opens (r + 2) i ≤ opens r i + discoveryRouteTtlMs.toNat

section Spreading
variable {nodes : DiscoveryNodes ι S} {opens : Nat → ι → Nat} {n n' : DiscoveryNetwork ι S}
  {a : DiscoveryAction ι S} {ep : S.DataEndpoint} {i j : ι} {r side since : Nat}
  {K K' : ι → Prop}

/-- The boards of every announcer are normalized, and every route holds the unions. -/
structure Tidy (n : DiscoveryNetwork ι S) : Prop where
  refreshed : ∀ i, DiscoveryRoutes.Announcers (fun _ state => state.Refreshed) (n.routes i)
  recomputed : ∀ i, DiscoveryRoutes.Recomputed (n.routes i)

omit [DecidableEq ι] in
theorem Sound.tidy (h : Sound nodes n) : Tidy n :=
  ⟨fun i side name state hstate => (h.heard i side name state hstate).refreshed, h.recomputed⟩

theorem Tidy.update (h : Tidy n) {routes : DiscoveryRoutes S}
    (hrefreshed : DiscoveryRoutes.Announcers (fun _ state => state.Refreshed) routes)
    (hrecomputed : DiscoveryRoutes.Recomputed routes) :
    Tidy { n with routes := Function.update n.routes i routes } where
  refreshed j := by
    by_cases heq : j = i
    · subst heq
      simpa using hrefreshed
    · simpa [Function.update_of_ne heq] using h.refreshed j
  recomputed j := by
    by_cases heq : j = i
    · subst heq
      simpa using hrecomputed
    · simpa [Function.update_of_ne heq] using h.recomputed j

theorem Tidy.step (h : Tidy n) (hstep : n.step nodes a = some n') : Tidy n' := by
  cases a with
  | announce node now linkLocal serves =>
    obtain rfl := Option.some.inj hstep
    exact ⟨h.refreshed, h.recomputed⟩
  | forward node via pkt =>
    obtain ⟨-, rfl⟩ := step_forward.mp hstep
    exact ⟨h.refreshed, h.recomputed⟩
  | prune node now =>
    obtain rfl := Option.some.inj hstep
    exact h.update ((h.refreshed node).prune now) (.prune now _)
  | forget node side =>
    obtain rfl := Option.some.inj hstep
    exact h.update ((h.refreshed node).erase side) ((h.recomputed node).erase side)
  | receive node via side linkLocal now pkt =>
    obtain ⟨-, rfl⟩ := step_receive.mp hstep
    suffices hlearned : DiscoveryRoutes.Announcers (fun _ state => state.Refreshed)
          (n.learned nodes node side linkLocal now pkt) ∧
        DiscoveryRoutes.Recomputed (n.learned nodes node side linkLocal now pkt) by
      exact h.update hlearned.1 hlearned.2
    unfold learned
    split
    · exact ⟨h.refreshed node, h.recomputed node⟩
    · split
      · rename_i routes hlearn
        refine ⟨(h.refreshed node).learn hlearn fun state state' hstate hlearn => ?_,
          (h.recomputed node).learn hlearn⟩
        have hrefreshed : state.Refreshed := by
          rcases hstate with rfl | hstate
          · exact .empty
          · exact hstate
        have hlearned := learnSenderState_refreshed hrefreshed hlearn
        exact ⟨hlearned.normalized, hlearned.summarized⟩
      · exact ⟨h.refreshed node, h.recomputed node⟩

omit [DecidableEq ι] in
theorem InRound.counted (h : InRound nodes opens r n a) : n.Counted nodes a := by
  cases a with
  | announce node now linkLocal serves => exact h.2
  | receive | forward | prune | forget => trivial

/-- `i` heard on that side, no earlier than `since`, that `j` reaches the endpoint. -/
def Names (nodes : DiscoveryNodes ι S) (ep : S.DataEndpoint) (n : DiscoveryNetwork ι S) (i j : ι)
    (side since : Nat) : Prop :=
  ∃ state, DiscoveryRoutes.announcer (n.routes i) side (nodes.identities j).sender = some state ∧
    ep ∈ state.reachable ∧ since ≤ state.lastSeenMs.toNat

/-- A packet that tells of the endpoint leaves it known, and makes it known if it announces. -/
theorem Names.receive {via : ι} {linkLocal : Bool} {now : UInt64} {pkt : Packet S}
    (htidy : Tidy n) (hlocal : S.isLinkLocalOnly ep = false)
    (htells : pkt.Tells nodes.types ep) (hsender : pkt.sender = (nodes.identities j).sender)
    (hother : (nodes.identities j).sender ≠ (nodes.identities i).sender)
    (hsince : since ≤ now.toNat)
    (hknown : Names nodes ep n i j side since ∨ pkt.ty = nodes.types.announce)
    (hstep : n.step nodes (.receive i via side linkLocal now pkt) = some n') :
    Names nodes ep n' i j side since := by
  obtain ⟨-, rfl⟩ := step_receive.mp hstep
  have hrefreshed : ((DiscoveryRoutes.announcer (n.routes i) side pkt.sender).getD .empty).Refreshed := by
    cases hold : DiscoveryRoutes.announcer (n.routes i) side pkt.sender with
    | none => exact .empty
    | some state => exact htidy.refreshed i side pkt.sender state hold
  unfold Names
  simp only [Function.update_self, learned]
  rw [if_neg (fun h => hother (hsender.symm.trans h.2))]
  cases hlearn : learnDiscoveryRoute (nodes.builds i) nodes.types linkLocal now side pkt
      (n.routes i) with
  | error e =>
    rcases hknown with hknown | hann
    · exact hknown
    · obtain ⟨eps, hdecode, -⟩ := htells.announce hann
      obtain ⟨routes, hlearned⟩ := learnDiscoveryRoute_announce hann hdecode linkLocal now side
        (n.routes i)
      rw [hlearn] at hlearned
      cases hlearned
  | ok routes =>
    obtain ⟨state, hstate, hannouncer⟩ := DiscoveryRoutes.announcer_learn hlearn
    have hep : ep ∈ state.reachable := by
      refine learnSenderState_tells hrefreshed (.inr hlocal) htells ?_ hstate
      refine hknown.imp_left fun ⟨old, hold, hep, _⟩ => ?_
      rw [hsender, hold]
      exact hep
    refine ⟨{ state with lastSeenMs := now }, ?_, hep, hsince⟩
    dsimp only
    rw [hannouncer, if_pos ⟨rfl, hsender⟩]

/-- What a neighbour keeps saying stays known through a round that ends within the TTL. -/
theorem Names.step (hsenders : Function.Injective fun i => (nodes.identities i).sender)
    (htidy : Tidy n) (hlocal : S.isLinkLocalOnly ep = false) (hne : j ≠ i)
    (htells : ∀ via pkt, (via, pkt) ∈ n.sent → pkt.sender = (nodes.identities j).sender →
      pkt.Tells nodes.types ep)
    (hsince : since ≤ opens r i) (hends : opens (r + 1) i ≤ since + discoveryRouteTtlMs.toNat)
    (hok : InRound nodes opens r n a) (h : Names nodes ep n i j side since)
    (hstep : n.step nodes a = some n') : Names nodes ep n' i j side since := by
  cases a with
  | announce node now linkLocal serves =>
    obtain rfl := Option.some.inj hstep
    exact h
  | forward node via pkt =>
    obtain ⟨-, rfl⟩ := step_forward.mp hstep
    exact h
  | forget node other => exact hok.elim
  | prune node now =>
    obtain rfl := Option.some.inj hstep
    by_cases heq : node = i
    · subst heq
      obtain ⟨state, hstate, hep, hseen⟩ := h
      refine ⟨state, ?_, hep, hseen⟩
      have hfresh : isFresh now state = true := by
        rw [isFresh_iff]
        exact hok.2.trans (hends.trans (Nat.add_le_add_right hseen _))
      simp only [Function.update_self]
      rw [DiscoveryRoutes.announcer_prune, hstate, Option.filter_some_pos hfresh]
    · simpa [Names, Function.update_of_ne (Ne.symm heq)] using h
  | receive node via other linkLocal now pkt =>
    have hheard := (step_receive.mp hstep).1
    by_cases heq : node = i ∧ other = side ∧ pkt.sender = (nodes.identities j).sender
    · obtain ⟨rfl, rfl, hsender⟩ := heq
      exact Names.receive htidy hlocal (htells via pkt hheard.1 hsender) hsender
        (fun heq => hne (hsenders heq)) (hsince.trans hok.1) (.inl h) hstep
    · obtain ⟨-, rfl⟩ := step_receive.mp hstep
      by_cases hnode : node = i
      · subst hnode
        obtain ⟨state, hstate, hep, hseen⟩ := h
        refine ⟨state, ?_, hep, hseen⟩
        simp only [Function.update_self, learned]
        split
        · exact hstate
        · split
          · rename_i routes hlearn
            obtain ⟨learnedState, -, hannouncer⟩ := DiscoveryRoutes.announcer_learn hlearn
            rw [hannouncer, if_neg (fun h => heq ⟨rfl, h⟩)]
            exact hstate
          · exact hstate
      · simpa [Names, Function.update_of_ne (Ne.symm hnode)] using h

/-- The node has the endpoint, or was told of it by one of `K` in time for the end of the round. -/
def Aware (nodes : DiscoveryNodes ι S) (opens : Nat → ι → Nat) (ep : S.DataEndpoint) (K : ι → Prop)
    (r : Nat) (n : DiscoveryNetwork ι S) (i : ι) : Prop :=
  ep ∈ (nodes.identities i).endpoints ∨ ∃ j side since, (j ≠ i ∧ K j) ∧
    (since ≤ opens r i ∧ opens (r + 1) i ≤ since + discoveryRouteTtlMs.toNat) ∧
      Names nodes ep n i j side since

/-- All of `K` are aware of the endpoint. -/
structure Informed (nodes : DiscoveryNodes ι S) (opens : Nat → ι → Nat) (ep : S.DataEndpoint)
    (K : ι → Prop) (r : Nat) (n : DiscoveryNetwork ι S) : Prop where
  tidy : Tidy n
  aware : ∀ i, K i → Aware nodes opens ep K r n i

/-- And they say so. -/
structure Spread (nodes : DiscoveryNodes ι S) (opens : Nat → ι → Nat) (ep : S.DataEndpoint)
    (K : ι → Prop) (r : Nat) (n : DiscoveryNetwork ι S) : Prop
    extends Informed nodes opens ep K r n where
  tells : ∀ j, K j → ∀ via pkt, (via, pkt) ∈ n.sent →
    pkt.sender = (nodes.identities j).sender → pkt.Tells nodes.types ep

omit [DecidableEq ι] in
/-- Who is aware of an endpoint has it or has a fresh announcer that reaches it. -/
theorem Aware.known {now : UInt64} (htidy : Tidy n) (h : Aware nodes opens ep K r n i)
    (hends : now.toNat ≤ opens (r + 1) i) :
    ep ∈ (nodes.identities i).endpoints ∨ ∃ name state,
      (name, state) ∈ freshAnnouncers now (n.routes i) ∧ ep ∈ state.reachable := by
  refine h.imp_right ?_
  rintro ⟨j, side, since, -, ⟨-, hwithin⟩, state, hstate, hreach, hseen⟩
  refine ⟨_, state, DiscoveryRoutes.mem_freshAnnouncers (htidy.recomputed i) hstate ?_, hreach⟩
  rw [isFresh_iff]
  exact hends.trans (hwithin.trans (Nat.add_le_add_right hseen _))

section Steps
variable (hsenders : Function.Injective fun i => (nodes.identities i).sender)
  (hd : nodes.types.Distinct) (hdiscovery : S.isDiscoveryEndpoint ep = false)
  (hlocal : S.isLinkLocalOnly ep = false)
include hsenders hd hdiscovery hlocal

theorem Spread.step (h : Spread nodes opens ep K r n) (hok : InRound nodes opens r n a)
    (hstep : n.step nodes a = some n') : Spread nodes opens ep K r n' where
  tidy := h.tidy.step hstep
  aware i hi := by
    refine (h.aware i hi).imp_right ?_
    rintro ⟨j, side, since, ⟨hne, hj⟩, ⟨hopens, hwithin⟩, hnames⟩
    refine ⟨j, side, since, ⟨hne, hj⟩, ⟨hopens, hwithin⟩, ?_⟩
    exact hnames.step hsenders h.tidy hlocal hne (h.tells j hj) hopens hwithin hok hstep
  tells j hj via pkt hpkt hsender := by
    cases a with
    | announce node now linkLocal serves =>
      obtain rfl := Option.some.inj hstep
      rcases List.mem_append.mp hpkt with hnew | hold
      · obtain ⟨built, hbuilt, heq⟩ := List.mem_map.mp hnew
        obtain ⟨rfl, rfl⟩ := Prod.mk.inj heq
        have hmem := mem_of_mem_builtPackets hbuilt
        have hown : (nodes.identities node).sender = (nodes.identities j).sender := by
          rw [← hsender, linkAnnouncements_sender hmem]
          rfl
        obtain rfl := hsenders hown
        exact linkAnnouncements_tells hd hdiscovery (.inr hlocal) (h.tidy.refreshed node) hok.2
          ((h.aware node hj).known h.tidy hok.1.2) hmem
      · exact h.tells j hj via pkt hold hsender
    | forward node from_ other =>
      obtain ⟨hheard, rfl⟩ := step_forward.mp hstep
      rcases List.mem_cons.mp hpkt with heq | hold
      · obtain ⟨rfl, rfl⟩ := Prod.mk.inj heq
        exact h.tells j hj from_ pkt hheard.1 hsender
      · exact h.tells j hj via pkt hold hsender
    | receive node from_ side linkLocal now other =>
      obtain ⟨-, rfl⟩ := step_receive.mp hstep
      exact h.tells j hj via pkt hpkt hsender
    | prune node now =>
      obtain rfl := Option.some.inj hstep
      exact h.tells j hj via pkt hpkt hsender
    | forget node side => exact hok.elim

theorem Spread.run {actions : List (DiscoveryAction ι S)} (h : Spread nodes opens ep K r n)
    (hrun : Run (DiscoveryNetwork.step nodes) (InRound nodes opens r) n actions n') :
    Spread nodes opens ep K r n' :=
  hrun.invariant (Spread nodes opens ep K r)
    (fun h hok hstep => h.step hsenders hd hdiscovery hlocal hok hstep) h

/-- What is heard in a round is still known at its end. -/
theorem Names.run {actions : List (DiscoveryAction ι S)} (hspread : Spread nodes opens ep K r n)
    (hj : K j) (hne : j ≠ i) (hsince : since ≤ opens r i)
    (hends : opens (r + 1) i ≤ since + discoveryRouteTtlMs.toNat)
    (hrun : Run (DiscoveryNetwork.step nodes) (InRound nodes opens r) n actions n')
    (h : Names nodes ep n i j side since) : Names nodes ep n' i j side since := by
  refine (hrun.invariant (fun n => Spread nodes opens ep K r n ∧ Names nodes ep n i j side since)
    (fun h hok hstep => ?_) ⟨hspread, h⟩).2
  exact ⟨h.1.step hsenders hd hdiscovery hlocal hok hstep,
    h.2.step hsenders h.1.tidy hlocal hne (h.1.tells j hj) hsince hends hok hstep⟩

end Steps
omit [DecidableEq ι] in
/-- A node that has an endpoint to announce gets a packet of it built. -/
theorem exists_announces (hdiscovers : S.Discovers nodes.types nodes.discovery)
    (hinline : ∀ i, (nodes.builds i).maxStackPayload ≤ 255) {now : UInt64}
    {linkLocal serves : Bool} (hadvertised : ep ∈ advertisedDiscoveryEndpointsForLink
      ((nodes.identities j).serving serves) now linkLocal (n.routes j)) :
    ∃ pkt ∈ n.announcement nodes j now linkLocal serves, Announces nodes j pkt := by
  obtain ⟨pkt, hbuild, -⟩ := announceRoundTrips (B := nodes.builds j) hdiscovers (hinline j)
    ((nodes.identities j).serving serves).sender now
    (advertisedDiscoveryEndpointsForLink ((nodes.identities j).serving serves) now linkLocal
      (n.routes j))
  have hne : ¬(advertisedDiscoveryEndpointsForLink ((nodes.identities j).serving serves) now
      linkLocal (n.routes j)).isEmpty = true := by
    rw [List.isEmpty_iff]
    exact List.ne_nil_of_mem hadvertised
  obtain ⟨hty, hsender, -⟩ := Packet.payload_of_new hbuild
  refine ⟨pkt, ?_, hty, hsender⟩
  rw [announcement, linkAnnouncements, if_neg hne, hbuild]
  exact List.mem_cons_self

/-- What is on the links stays there for the round. -/
theorem sent_subset (hok : InRound nodes opens r n a) (hstep : n.step nodes a = some n') :
    n.sent ⊆ n'.sent := by
  cases a with
  | announce node now linkLocal serves =>
    obtain rfl := Option.some.inj hstep
    exact List.subset_append_right _ _
  | receive node via side linkLocal now pkt =>
    obtain ⟨-, rfl⟩ := step_receive.mp hstep
    exact List.Subset.refl _
  | forward node via pkt =>
    obtain ⟨-, rfl⟩ := step_forward.mp hstep
    exact List.subset_cons_self _ _
  | prune node now =>
    obtain rfl := Option.some.inj hstep
    exact List.Subset.refl _
  | forget node side => exact hok.elim

section Rounds
variable (hsenders : Function.Injective fun i => (nodes.identities i).sender)
  (hdiscovers : S.Discovers nodes.types nodes.discovery)
  (hinline : ∀ i, (nodes.builds i).maxStackPayload ≤ 255) (htimed : Timed opens)
  (hdiscovery : S.isDiscoveryEndpoint ep = false) (hlocal : S.isLinkLocalOnly ep = false)
include hsenders hdiscovers hinline htimed hdiscovery hlocal

/-- In a round, what is known spreads over one more link. -/
theorem Informed.round {actions : List (DiscoveryAction ι S)} (h : Informed nodes opens ep K r n)
    (hround : Round nodes opens r n n' actions) (hmore : ∀ i, K i → K' i)
    (hhear : ∀ i, K' i → ep ∈ (nodes.identities i).endpoints ∨
      ∃ j, j ≠ i ∧ K j ∧ nodes.hears i j = true) : Informed nodes opens ep K' (r + 1) n' := by
  have hd := hdiscovers.distinct
  have hstart : Spread nodes opens ep K r { n with sent := [] } :=
    ⟨⟨⟨h.tidy.refreshed, h.tidy.recomputed⟩, h.aware⟩, fun _ _ _ _ hmem => by cases hmem⟩
  have hspread {m : DiscoveryNetwork ι S} {before : List (DiscoveryAction ι S)}
      (hrun : Run (DiscoveryNetwork.step nodes) (InRound nodes opens r) { n with sent := [] }
        before m) : Spread nodes opens ep K r m :=
    hstart.run hsenders hd hdiscovery hlocal hrun
  refine ⟨(hspread hround.run).tidy, fun i hi => ?_⟩
  rcases hhear i hi with hown | ⟨j, hne, hj, hears⟩
  · exact .inl hown
  · -- the neighbour announced the endpoint in this round,
    obtain ⟨now, linkLocal, serves, hannounced⟩ := hround.announces j
    obtain ⟨n₁, n₂, before, behind, hbefore, hok, hstep, hbehind⟩ := hround.run.of_mem hannounced
    have hsaid : ∃ pkt, (j, pkt) ∈ n'.sent ∧ Announces nodes j pkt := by
      have hknown := ((hspread hbefore).aware j hj).known (hspread hbefore).tidy hok.1.2
      obtain ⟨board, hboard, hreach⟩ : ∃ board ∈ advertisedDiscoveryTopologyForLink
          ((nodes.identities j).serving serves) now linkLocal (n₁.routes j),
          ep ∈ board.reachableEndpoints :=
        exists_advertised (.inr hlocal) ((hspread hbefore).tidy.refreshed j) hknown
      have hadvertised : ep ∈ advertisedDiscoveryEndpointsForLink
          ((nodes.identities j).serving serves) now linkLocal (n₁.routes j) := by
        rw [advertisedDiscoveryEndpointsForLink, List.mem_filter]
        exact ⟨mem_summarizeTopologyBoards.mpr ⟨board, hboard, hreach⟩, by simp [hdiscovery, hlocal]⟩
      obtain ⟨pkt, hpkt, hannounces⟩ := exists_announces hdiscovers hinline hadvertised
      obtain rfl := Option.some.inj hstep
      refine ⟨pkt, ?_, hannounces⟩
      refine hbehind.invariant (fun m => (j, pkt) ∈ m.sent)
        (fun hmem hok hstep => sent_subset hok hstep hmem) ?_
      exact List.mem_append_left _ (List.mem_map.mpr ⟨pkt, hpkt, rfl⟩)
    -- and this node heard of it
    obtain ⟨side, linkLocal', now', pkt, hreceived, hty, hsender⟩ :=
      hround.delivers i j hne hears hsaid
    obtain ⟨m₁, m₂, before', behind', hbefore', hok', hstep', hbehind'⟩ :=
      hround.run.of_mem hreceived
    have htells := (hspread hbefore').tells j hj j pkt (step_receive.mp hstep').1.1 hsender
    have hnames : Names nodes ep m₂ i j side (opens r i) :=
      Names.receive (hspread hbefore').tidy hlocal htells hsender (fun heq => hne (hsenders heq))
        hok'.1 (.inr hty) hstep'
    have hnext := (hspread hbefore').step hsenders hd hdiscovery hlocal hok' hstep'
    have hends : opens (r + 1) i ≤ opens r i + discoveryRouteTtlMs.toNat :=
      (htimed.forward (r + 1) i).trans (htimed.within r i)
    exact .inr ⟨j, side, opens r i, ⟨hne, hmore j hj⟩, ⟨htimed.forward r i, htimed.within r i⟩,
      Names.run hsenders hd hdiscovery hlocal hnext hj hne (Nat.le_refl _) hends hbehind' hnames⟩

/-- Round after round. -/
theorem Informed.rounds {K : Nat → ι → Prop} (h : Informed nodes opens ep (K 0) 0 n)
    (hmore : ∀ r i, K r i → K (r + 1) i)
    (hhear : ∀ r i, K (r + 1) i → ep ∈ (nodes.identities i).endpoints ∨
      ∃ j, j ≠ i ∧ K r j ∧ nodes.hears i j = true)
    (hrounds : Rounds nodes opens r n n') : Informed nodes opens ep (K r) r n' := by
  induction hrounds with
  | nil => exact h
  | snoc _ hround ih =>
    exact (ih h).round hsenders hdiscovers hinline htimed hdiscovery hlocal hround (hmore _) (hhear _)

end Rounds
end Spreading
end DiscoveryNetwork
end Sedsprintf
