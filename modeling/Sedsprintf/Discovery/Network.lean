import Sedsprintf.Discovery.Announce
import Sedsprintf.Lib.Runs
import Mathlib.Logic.Relation

/-!
# Nodes that tell each other what they reach

Any number of routers and relays. A node announces on its links what it advertises there, and a
packet that is on the links of one node may be heard by its neighbours, any number of times, in any
order or not at all; whoever hears a packet may also put it on its own links. In between nodes prune
their routes and lose some of them to make room or with a side.
-/
namespace Sedsprintf

open Lib

structure DiscoveryNodes (ι : Type) (S : Schema) where
  builds : ι → Build
  /-- What each node may say of itself; whether it serves time varies. -/
  identities : ι → DiscoveryIdentity S
  /-- `Relay` learns from packets in its own name, `Router` does not. -/
  relays : ι → Bool
  /-- `hears i j`: what `j` has on its links may get to `i`. -/
  hears : ι → ι → Bool
  types : DiscoveryTypes S.DataType
  discovery : S.DataEndpoint

/-- What a node says of itself while it serves time or does not. -/
def DiscoveryIdentity.serving {S : Schema} (me : DiscoveryIdentity S) (serves : Bool) :
    DiscoveryIdentity S :=
  { me with timesyncSources := if serves then me.timesyncSources else [] }

structure DiscoveryNetwork (ι : Type) (S : Schema) where
  routes : ι → DiscoveryRoutes S
  /-- The packets on the links of each node. -/
  sent : List (ι × Packet S)

inductive DiscoveryAction (ι : Type) (S : Schema) where
  /-- The packets for one side. -/
  | announce (node : ι) (now : UInt64) (linkLocal serves : Bool)
  | receive (node via : ι) (side : Nat) (linkLocal : Bool) (now : UInt64) (pkt : Packet S)
  | forward (node via : ι) (pkt : Packet S)
  | prune (node : ι) (now : UInt64)
  | forget (node : ι) (side : Nat)

/-- What is built before a packet cannot be. -/
def builtPackets {S : Schema} : List (Outcome (Packet S)) → List (Packet S)
  | .ok pkt :: rest => pkt :: builtPackets rest
  | _ => []

theorem mem_of_mem_builtPackets {S : Schema} {pkt : Packet S} {l : List (Outcome (Packet S))}
    (h : pkt ∈ builtPackets l) : .ok pkt ∈ l := by
  induction l using builtPackets.induct with
  | case1 first rest ih =>
    rcases List.mem_cons.mp h with rfl | h
    · exact List.mem_cons_self
    · exact List.mem_cons_of_mem _ (ih h)
  | case2 l hnone =>
    rw [builtPackets] at h
    · cases h
    · exact hnone

namespace DiscoveryNetwork
variable {ι : Type} [DecidableEq ι] {S : Schema} (nodes : DiscoveryNodes ι S)

/-- Nothing is known, and nothing was said. -/
def initial : DiscoveryNetwork ι S := ⟨fun _ => ∅, []⟩

/-- The packets of an announcement for one side. -/
def announcement (n : DiscoveryNetwork ι S) (node : ι) (now : UInt64) (linkLocal serves : Bool) :
    List (Packet S) :=
  builtPackets (linkAnnouncements (nodes.builds node) nodes.types nodes.discovery
    ((nodes.identities node).serving serves) now linkLocal (n.routes node))

/-- `learn_discovery_packet` and `learn_discovery_item`; a packet that is refused changes
nothing. -/
def learned (n : DiscoveryNetwork ι S) (node : ι) (side : Nat) (linkLocal : Bool) (now : UInt64)
    (pkt : Packet S) : DiscoveryRoutes S :=
  if nodes.relays node = false ∧ pkt.sender = (nodes.identities node).sender then n.routes node
  else match learnDiscoveryRoute (nodes.builds node) nodes.types linkLocal now side pkt
      (n.routes node) with
    | .ok routes => routes
    | .error _ => n.routes node

def step (n : DiscoveryNetwork ι S) : DiscoveryAction ι S → Option (DiscoveryNetwork ι S)
  | .announce node now linkLocal serves => some { n with
      sent := (n.announcement nodes node now linkLocal serves).map (fun pkt => (node, pkt)) ++ n.sent }
  | .receive node via side linkLocal now pkt =>
    if (via, pkt) ∈ n.sent ∧ nodes.hears node via = true then
      some { n with routes :=
        Function.update n.routes node (n.learned nodes node side linkLocal now pkt) }
    else none
  | .forward node via pkt =>
    if (via, pkt) ∈ n.sent ∧ nodes.hears node via = true then
      some { n with sent := (node, pkt) :: n.sent }
    else none
  | .prune node now => some { n with
      routes := Function.update n.routes node (pruneDiscoveryRoutes now (n.routes node)) }
  | .forget node side => some { n with
      routes := Function.update n.routes node ((n.routes node).erase side) }

variable {nodes} in
theorem step_receive {n n' : DiscoveryNetwork ι S} {node via : ι} {side : Nat} {linkLocal : Bool}
    {now : UInt64} {pkt : Packet S} :
    n.step nodes (.receive node via side linkLocal now pkt) = some n' ↔
      ((via, pkt) ∈ n.sent ∧ nodes.hears node via = true) ∧
        { n with routes :=
          Function.update n.routes node (n.learned nodes node side linkLocal now pkt) } = n' := by
  rw [step, Option.ite_none_right_eq_some, Option.some.injEq]

variable {nodes} in
theorem step_forward {n n' : DiscoveryNetwork ι S} {node via : ι} {pkt : Packet S} :
    n.step nodes (.forward node via pkt) = some n' ↔
      ((via, pkt) ∈ n.sent ∧ nodes.hears node via = true) ∧
        { n with sent := (node, pkt) :: n.sent } = n' := by
  rw [step, Option.ite_none_right_eq_some, Option.some.injEq]

/-- Announcements whose counts fit the `u32` they are cast to. -/
def Counted (n : DiscoveryNetwork ι S) : DiscoveryAction ι S → Prop
  | .announce node now linkLocal serves => CountedAdvertisement
      ((nodes.identities node).serving serves) now linkLocal (n.routes node)
  | _ => True

end DiscoveryNetwork

namespace DiscoveryNodes
variable {ι : Type} {S : Schema} (nodes : DiscoveryNodes ι S)

/-- What is on the links of `j` can come to be on those of `i`. -/
def Carries (j i : ι) : Prop := Relation.ReflTransGen (fun a b => nodes.hears b a = true) j i

/-- What is true of the nodes that can be heard at `i`, each by its name. -/
def ground (i : ι) : TopologyView S :=
  ({name | ∃ m, nodes.Carries m i ∧ (nodes.identities m).sender = name},
    {e | ∃ m k, nodes.Carries m i ∧ nodes.Carries k m ∧ (nodes.identities m).sender = e.1 ∧
      e.2 ∈ (nodes.identities k).endpoints},
    {e | ∃ m k, nodes.Carries m i ∧ nodes.Carries k m ∧ (nodes.identities m).sender = e.1 ∧
      e.2 ∈ (nodes.identities k).timesyncSources},
    {e | ∃ m k, nodes.Carries m i ∧ nodes.Carries k i ∧
      (nodes.Carries k m ∨ nodes.Carries m k) ∧ (nodes.identities m).sender = e.1 ∧
      (nodes.identities k).sender = e.2})

variable {nodes} {i j : ι}

theorem ground_mono (h : nodes.Carries j i) : nodes.ground j ≤ nodes.ground i := by
  refine ⟨?_, ?_, ?_, ?_⟩
  · rintro _ ⟨m, hm, rfl⟩
    exact ⟨m, hm.trans h, rfl⟩
  · rintro ⟨_, ep⟩ ⟨m, k, hm, hk, rfl, hep⟩
    exact ⟨m, k, hm.trans h, hk, rfl, hep⟩
  · rintro ⟨_, source⟩ ⟨m, k, hm, hk, rfl, hsource⟩
    exact ⟨m, k, hm.trans h, hk, rfl, hsource⟩
  · rintro ⟨_, _⟩ ⟨m, k, hm, hk, hlink, rfl, rfl⟩
    exact ⟨m, k, hm.trans h, hk.trans h, hlink, rfl, rfl⟩

/-- A node may say of itself that it reaches whatever it hears of. -/
theorem ground_spokenFor (nodes : DiscoveryNodes ι S) (i : ι) :
    SpokenFor (nodes.ground i) (nodes.identities i).sender where
  endpoints := by
    rintro _ ep ⟨m, k, hm, hk, rfl, hep⟩
    exact ⟨i, k, .refl, hk.trans hm, rfl, hep⟩
  sources := by
    rintro _ source ⟨m, k, hm, hk, rfl, hsource⟩
    exact ⟨i, k, .refl, hk.trans hm, rfl, hsource⟩

theorem identity_within (nodes : DiscoveryNodes ι S) (i : ι) (serves : Bool) :
    ((nodes.identities i).serving serves).Within (nodes.ground i) where
  sender := ⟨i, .refl, rfl⟩
  endpoints ep hep := ⟨i, i, .refl, .refl, rfl, hep⟩
  sources source hsource := by
    refine ⟨i, i, .refl, .refl, rfl, ?_⟩
    rw [DiscoveryIdentity.serving] at hsource
    split at hsource
    · exact hsource
    · cases hsource

end DiscoveryNodes

section Soundness
variable {ι : Type} {S : Schema} {nodes : DiscoveryNodes ι S} {V V' : TopologyView S}

theorem TopologyBoardNode.Within.mono {board : TopologyBoardNode S} (h : board.Within V)
    (hle : V ≤ V') : board.Within V' where
  sender := hle.1 h.sender
  endpoints ep hep := hle.2.1 (h.endpoints ep hep)
  sources source hsource := hle.2.2.1 (h.sources source hsource)
  connections peer hpeer hne := hle.2.2.2 (h.connections peer hpeer hne)

theorem Packet.Within.mono {d : DiscoveryTypes S.DataType} {pkt : Packet S} (h : pkt.Within d V)
    (hle : V ≤ V') : pkt.Within d V' where
  sender := hle.1 h.sender
  announce hty eps hdecode ep hep := hle.2.1 (h.announce hty eps hdecode ep hep)
  sources hty B sources hdecode source hsource :=
    hle.2.2.1 (h.sources hty B sources hdecode source hsource)
  topology hty B boards hdecode board hboard :=
    (h.topology hty B boards hdecode board hboard).mono hle

namespace DiscoveryNetwork

/-- Every node has heard what is true of the nodes it can hear, and its links carry no more. -/
structure Sound (nodes : DiscoveryNodes ι S) (n : DiscoveryNetwork ι S) : Prop where
  heard : ∀ i, DiscoveryRoutes.Announcers
    (Heard (nodes.ground i) (nodes.identities i).sender) (n.routes i)
  recomputed : ∀ i, DiscoveryRoutes.Recomputed (n.routes i)
  sent : ∀ i pkt, (i, pkt) ∈ n.sent → pkt.Within nodes.types (nodes.ground i)

theorem Sound.initial : Sound nodes DiscoveryNetwork.initial where
  heard _ := .empty
  recomputed _ := .empty
  sent _ _ h := by cases h

/-- A packet adds what it says about its sender. -/
theorem Heard.learn {B : Build} {linkLocal : Bool} {now : UInt64} {i : ι} {pkt : Packet S}
    {state state' : DiscoverySenderState S} (hpkt : pkt.Within nodes.types (nodes.ground i))
    (hstate : state = .empty ∨ Heard (nodes.ground i) (nodes.identities i).sender pkt.sender state)
    (h : learnSenderState B nodes.types linkLocal pkt state = .ok state') :
    Heard (nodes.ground i) (nodes.identities i).sender pkt.sender
      { state' with lastSeenMs := now } := by
  have hrefreshed : state.Refreshed := by
    rcases hstate with rfl | hstate
    · exact .empty
    · exact hstate.refreshed
  have hboards : ∀ board ∈ state.topologyBoards, board.Within (nodes.ground i) := by
    rcases hstate with rfl | hstate
    · simp [DiscoverySenderState.empty]
    · exact hstate.boards
  have hlearned := learnSenderState_refreshed hrefreshed h
  have hwithin := learnSenderState_within hpkt hboards h
  obtain ⟨m, hm, hname⟩ := hpkt.sender
  exact {
    refreshed := ⟨hlearned.normalized, hlearned.summarized⟩
    sender := hpkt.sender
    boards := hwithin
    outward := fun _ => ⟨i, m, .refl, hm, .inl hm, rfl, hname⟩
    inward := fun _ => ⟨m, i, hm, .refl, .inr hm, hname, rfl⟩ }

variable {n n' : DiscoveryNetwork ι S}

/-- A node that hears a packet is told no more than what is true there. -/
theorem Sound.within (h : Sound nodes n) {i via : ι} {pkt : Packet S}
    (hheard : (via, pkt) ∈ n.sent ∧ nodes.hears i via = true) :
    pkt.Within nodes.types (nodes.ground i) :=
  (h.sent via pkt hheard.1).mono (DiscoveryNodes.ground_mono (.single hheard.2))

variable [DecidableEq ι]

/-- New routes of one node. -/
theorem Sound.update (h : Sound nodes n) {i : ι} {routes : DiscoveryRoutes S}
    (hheard : DiscoveryRoutes.Announcers
      (Heard (nodes.ground i) (nodes.identities i).sender) routes)
    (hrecomputed : DiscoveryRoutes.Recomputed routes) :
    Sound nodes { n with routes := Function.update n.routes i routes } where
  heard j := by
    by_cases heq : j = i
    · subst heq
      simpa using hheard
    · simpa [Function.update_of_ne heq] using h.heard j
  recomputed j := by
    by_cases heq : j = i
    · subst heq
      simpa using hrecomputed
    · simpa [Function.update_of_ne heq] using h.recomputed j
  sent := h.sent

theorem Sound.step (hd : nodes.types.Distinct) {a : DiscoveryAction ι S} (h : Sound nodes n)
    (hcounted : n.Counted nodes a) (hstep : n.step nodes a = some n') : Sound nodes n' := by
  cases a with
  | announce node now linkLocal serves =>
    obtain rfl := Option.some.inj hstep
    refine ⟨h.heard, h.recomputed, fun i pkt hpkt => ?_⟩
    rcases List.mem_append.mp hpkt with hnew | hold
    · obtain ⟨pkt', hbuilt, heq⟩ := List.mem_map.mp hnew
      obtain ⟨rfl, rfl⟩ := Prod.mk.inj heq
      have hspoken : SpokenFor (nodes.ground node)
          ((nodes.identities node).serving serves).sender := nodes.ground_spokenFor node
      have hknown : DiscoveryRoutes.Announcers (Heard (nodes.ground node)
          ((nodes.identities node).serving serves).sender) (n.routes node) := h.heard node
      exact linkAnnouncements_within hd hspoken (nodes.identity_within node serves) hknown hcounted
        (mem_of_mem_builtPackets hbuilt)
    · exact h.sent i pkt hold
  | receive node via side linkLocal now pkt =>
    obtain ⟨hheard, rfl⟩ := step_receive.mp hstep
    have hpkt := h.within hheard
    suffices hlearned : DiscoveryRoutes.Announcers
        (Heard (nodes.ground node) (nodes.identities node).sender)
          (n.learned nodes node side linkLocal now pkt) ∧
        DiscoveryRoutes.Recomputed (n.learned nodes node side linkLocal now pkt) by
      exact h.update hlearned.1 hlearned.2
    unfold learned
    split
    · exact ⟨h.heard node, h.recomputed node⟩
    · split
      · rename_i routes hlearn
        exact ⟨(h.heard node).learn hlearn fun _ _ hstate => Heard.learn hpkt hstate,
          (h.recomputed node).learn hlearn⟩
      · exact ⟨h.heard node, h.recomputed node⟩
  | forward node via pkt =>
    obtain ⟨hheard, rfl⟩ := step_forward.mp hstep
    refine ⟨h.heard, h.recomputed, fun i other hother => ?_⟩
    rcases List.mem_cons.mp hother with heq | hold
    · obtain ⟨rfl, rfl⟩ := Prod.mk.inj heq
      exact h.within hheard
    · exact h.sent i other hold
  | prune node now =>
    obtain rfl := Option.some.inj hstep
    exact h.update ((h.heard node).prune now) (.prune now _)
  | forget node side =>
    obtain rfl := Option.some.inj hstep
    exact h.update ((h.heard node).erase side) ((h.recomputed node).erase side)

theorem Sound.run (hd : nodes.types.Distinct) {actions : List (DiscoveryAction ι S)}
    (hrun : Run (DiscoveryNetwork.step nodes) (Counted nodes) .initial actions n) : Sound nodes n :=
  hrun.invariant (Sound nodes) (fun h hok hstep => h.step hd hok hstep) .initial

end DiscoveryNetwork
end Soundness
end Sedsprintf
