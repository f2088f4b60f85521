import Sedsprintf.Discovery.Cadence
import Sedsprintf.Discovery.Announce
import Sedsprintf.Lib.Program

/-!
# Nodes that announce themselves

src/router.rs:2304-2437 and src/relay.rs:1857-1994. `Router` and `Relay` prune what they know,
ask the cadence and queue the packets of an announcement by the same statements; `AnnouncerNode` is
what these use of a node and what a node owes them.
-/
namespace Sedsprintf

open Lib

deriving instance DecidableEq for TopologyBoardNode
deriving instance DecidableEq for DiscoverySenderState
deriving instance DecidableEq for DiscoverySideState

/-- What an announcement finds due, and what of it is found in the transmit queue behind the call
that queues it; `finished` when no error cut it short. -/
structure Announcement (S : Schema) where
  time : Nat
  due : List (Nat × List (Outcome (Packet S)))
  queued : List (Nat × Packet S)
  finished : Bool

/-- The packets for a side, whether they could be built or not. -/
def Announcement.owed {S : Schema} (link : Nat × List (Outcome (Packet S))) :
    List (Outcome (Nat × Packet S)) :=
  link.2.map fun built => built.map fun pkt => (link.1, pkt)

/-- All that was due could be built and was queued. -/
def Announcement.Complete {S : Schema} (a : Announcement S) : Prop :=
  a.due.flatMap owed = a.queued.map .ok

/-- A node with its cadence; `history` is what the cadence met, and the last announcement comes
first. -/
structure Announcing (S : Schema) (σ : Type) where
  node : σ
  cadence : DiscoveryCadenceState
  history : List BackoffEvent
  announcements : List (Announcement S)

/-- When announcements were sent. -/
def Announcing.announcedAt {S : Schema} {σ : Type} (s : Announcing S σ) : List Nat :=
  (s.announcements.map Announcement.time).reverse

/-- More is known of the last announcement. -/
def Announcing.note {S : Schema} {σ : Type} (s : Announcing S σ)
    (more : Announcement S → Announcement S) : Announcing S σ :=
  { s with announcements := s.announcements.modifyHead more }

/-- What one call finds of a node. -/
structure AnnouncerNode (S : Schema) (σ : Type) where
  build : Build
  types : DiscoveryTypes S.DataType
  discovery : S.DataEndpoint
  identity : DiscoveryIdentity S
  now : UInt64
  sides : σ → List (Option Side)
  routes : σ → DiscoveryRoutes S
  /-- `route_allowed_locked` for a `DiscoveryAnnounce` of the node's own. -/
  allowed : σ → Nat → Bool
  /-- The first check of `poll_discovery_announce`. -/
  unlinked : σ → Bool
  prune : σ → σ
  reconcile : Program σ Stop Unit
  fitDiscoveryBudget : σ → σ
  queue : Nat → Packet S → Program σ Stop Unit
  /-- The packets for a side that are in the transmit queue. -/
  waiting : σ → List (Nat × Packet S)
  routes_prune : ∀ st, routes (prune st) = pruneDiscoveryRoutes now (routes st)
  sides_prune : ∀ st, sides (prune st) = sides st ∧ allowed (prune st) = allowed st
  sides_reconcile : ∀ st, sides (reconcile st).1 = sides st ∧ allowed (reconcile st).1 = allowed st
  sides_fit : ∀ st, sides (fitDiscoveryBudget st) = sides st ∧
    allowed (fitDiscoveryBudget st) = allowed st
  unlinked_sides : ∀ st, unlinked st = true → (sides st).all Option.isNone = true
  waiting_queue : ∀ side pkt st st', queue side pkt st = (st', .ok ()) → (side, pkt) ∈ waiting st'

namespace AnnouncerNode
variable {S : Schema} {σ : Type} (n : AnnouncerNode S σ)

/-- The sides an announcement goes to, and whether they take link-local traffic. -/
def links (st : σ) : List (Nat × Bool) :=
  (n.sides st).zipIdx.filterMap fun e => e.1.bind fun side =>
    if n.allowed st e.2 then some (e.2, side.opts.linkLocalEnabled) else none

/-- `per_side`. -/
def perSide (st : σ) : List (Nat × List (Outcome (Packet S))) :=
  (n.links st).map fun link => (link.1, linkAnnouncements n.build n.types n.discovery n.identity
    n.now link.2 (n.routes st))

/-- `has_any`. -/
def hasAny (st : σ) : Bool := (n.perSide st).any fun link => !link.2.isEmpty

def onNode {α : Type} (p : Program σ Stop α) : Program (Announcing S σ) Stop α := fun s =>
  let r := p s.node
  ({ s with node := r.1 }, r.2)

/-- `note_discovery_topology_change_locked`. -/
def noteDiscoveryTopologyChange : Program (Announcing S σ) Stop Unit :=
  Program.modify fun s => { s with
    cadence := s.cadence.onTopologyChange n.now
    history := s.history ++ [.reset n.now.toNat] }

/-- A route or an announcer that is pruned changes the topology. -/
def pruneRoutes : Program (Announcing S σ) Stop Unit := do
  let s ← Program.read
  onNode (Program.modify n.prune)
  if n.routes (n.prune s.node) = n.routes s.node then pure ()
  else do
    onNode n.reconcile
    n.noteDiscoveryTopologyChange

/-- What both functions do first. -/
def refreshRoutes : Program (Announcing S σ) Stop Unit := do
  n.pruneRoutes
  onNode (Program.modify n.fitDiscoveryBudget)

/-- `on_announce_sent`, before anything is queued. -/
def announceSent (event : BackoffEvent) (due : List (Nat × List (Outcome (Packet S)))) :
    Program (Announcing S σ) Stop Unit :=
  Program.modify fun s => { s with
    cadence := s.cadence.onAnnounceSent n.now
    history := s.history ++ [event]
    announcements := ⟨n.now.toNat, due, [], false⟩ :: s.announcements }

/-- A packet for a side. -/
def queuePacket (side : Nat) (pkt : Packet S) : Program (Announcing S σ) Stop Unit := do
  onNode (n.queue side pkt)
  Program.modify fun s => s.note fun a => { a with
    queued := a.queued ++ if (side, pkt) ∈ n.waiting s.node then [(side, pkt)] else [] }

/-- The packets for one side. -/
def queueLink (link : Nat × List (Outcome (Packet S))) : Program (Announcing S σ) Stop Unit :=
  Program.forEach (fun built => do
    let pkt ← Program.of built
    n.queuePacket link.1 pkt) link.2

/-- `queue_discovery_announce`; `event` is how the history shows it. -/
def queueDiscoveryAnnounce (event : BackoffEvent) : Program (Announcing S σ) Stop Unit := do
  n.refreshRoutes
  let s ← Program.read
  if (n.sides s.node).all Option.isNone then pure ()
  else do
    n.announceSent event (n.perSide s.node)
    Program.forEach n.queueLink (n.perSide s.node)
    Program.modify fun s => s.note fun a => { a with finished := true }

/-- `poll_discovery_announce`. -/
def pollDiscoveryAnnounce : Program (Announcing S σ) Stop Bool := do
  n.refreshRoutes
  let s ← Program.read
  if n.unlinked s.node || !n.hasAny s.node then pure false
  else if s.cadence.due n.now then do
    n.queueDiscoveryAnnounce (.poll n.now.toNat)
    pure true
  else do
    Program.modify fun s => { s with history := s.history ++ [.poll n.now.toNat] }
    pure false

end AnnouncerNode

/-- What happens to announcing while another call is under way, wherever that has the node:
changes are noted, and callbacks announce and poll. -/
inductive Announcing.Meanwhile {S : Schema} {σ : Type} (nodes : AnnouncerNode S σ → Prop) :
    Announcing S σ → Announcing S σ → Prop
  | moved (s : Announcing S σ) (node : σ) : Meanwhile nodes s { s with node := node }
  | changed (s : Announcing S σ) {n : AnnouncerNode S σ} (hn : nodes n) :
    Meanwhile nodes s (n.noteDiscoveryTopologyChange s).1
  | announce (s : Announcing S σ) {n : AnnouncerNode S σ} (hn : nodes n) :
    Meanwhile nodes s (n.queueDiscoveryAnnounce (.force n.now.toNat) s).1
  | poll (s : Announcing S σ) {n : AnnouncerNode S σ} (hn : nodes n) :
    Meanwhile nodes s (n.pollDiscoveryAnnounce s).1

/-- What happens to an announcing node: calls to it, of which those that are not about announcing
may have announcing go on meanwhile. -/
inductive Announcing.Step {S : Schema} {σ : Type} (nodes : AnnouncerNode S σ → Prop)
    (others : σ → σ → Prop) : Announcing S σ → Announcing S σ → Prop
  | announce (s : Announcing S σ) {n : AnnouncerNode S σ} (hn : nodes n) :
    Step nodes others s (n.queueDiscoveryAnnounce (.force n.now.toNat) s).1
  | poll (s : Announcing S σ) {n : AnnouncerNode S σ} (hn : nodes n) :
    Step nodes others s (n.pollDiscoveryAnnounce s).1
  | other {s s' : Announcing S σ} (hnode : others s.node s'.node)
    (hmeanwhile : Relation.ReflTransGen (Meanwhile nodes) s s') : Step nodes others s s'

namespace Announcing
variable {S : Schema} {σ : Type} {s s' : Announcing S σ}

/-- A node that was just made. -/
def initial (node : σ) : Announcing S σ := ⟨node, .initial, [], []⟩

/-- The timer behind a history, and when it fired. -/
def timerAfter (history : List BackoffEvent) : Backoff :=
  DiscoveryCadenceState.initial.timer.after discoveryFastIntervalMs.toNat
    discoverySlowIntervalMs.toNat DiscoveryCadenceState.lastMs history

def firingsOf (history : List BackoffEvent) : List Nat :=
  DiscoveryCadenceState.initial.timer.firings discoveryFastIntervalMs.toNat
    discoverySlowIntervalMs.toNat DiscoveryCadenceState.lastMs history

/-- The cadence is the timer that backs off, announcements are sent when it fires, and one that
finished is complete. -/
structure Sound (s : Announcing S σ) : Prop where
  timer : s.cadence.timer = timerAfter s.history
  announced : s.announcedAt = firingsOf s.history
  complete : ∀ a ∈ s.announcements, a.finished = true → a.Complete

theorem Sound.initial (node : σ) : (Announcing.initial node : Announcing S σ).Sound where
  timer := rfl
  announced := rfl
  complete := nofun

theorem Sound.extend (h : s.Sound) (more : List BackoffEvent) {node : σ}
    {cadence : DiscoveryCadenceState} {news : List (Announcement S)}
    (hcadence : cadence.timer = s.cadence.timer.after discoveryFastIntervalMs.toNat
      discoverySlowIntervalMs.toNat DiscoveryCadenceState.lastMs more)
    (hnews : (news.map Announcement.time).reverse = s.cadence.timer.firings
      discoveryFastIntervalMs.toNat discoverySlowIntervalMs.toNat DiscoveryCadenceState.lastMs more)
    (hcomplete : ∀ a ∈ news, a.finished = true → a.Complete) :
    (⟨node, cadence, s.history ++ more, news ++ s.announcements⟩ : Announcing S σ).Sound where
  timer := by
    rw [hcadence, h.timer, timerAfter, timerAfter, Backoff.after_append]
  announced := by
    have hbefore := h.announced
    rw [announcedAt] at hbefore ⊢
    rw [List.map_append, List.reverse_append, hbefore, hnews, h.timer, firingsOf, firingsOf,
      Backoff.firings_append, timerAfter]
  complete := by
    intro a ha
    rcases List.mem_append.mp ha with hnew | hold
    · exact hcomplete a hnew
    · exact h.complete a hold

end Announcing

namespace AnnouncerNode
variable {S : Schema} {σ : Type} {n : AnnouncerNode S σ} {links : List (Nat × Bool)}

section Cadence

theorem keeps_onNode {α : Type} (p : Program σ Stop α) :
    Program.Keeps (Announcing.Sound (S := S)) (onNode p) :=
  fun _ h => ⟨h.timer, h.announced, h.complete⟩

theorem keeps_noteDiscoveryTopologyChange :
    Program.Keeps Announcing.Sound n.noteDiscoveryTopologyChange := by
  intro s h
  exact h.extend [.reset n.now.toNat] rfl rfl fun a ha => absurd ha List.not_mem_nil

/-- The timer fires now. -/
def Fires (n : AnnouncerNode S σ) (event : BackoffEvent) (s : Announcing S σ) : Prop :=
  s.cadence.timer.step discoveryFastIntervalMs.toNat discoverySlowIntervalMs.toNat
    DiscoveryCadenceState.lastMs event =
      ((s.cadence.onAnnounceSent n.now).timer, some n.now.toNat)

/-- An announcement that is forced. -/
theorem fires_force (s : Announcing S σ) : n.Fires (.force n.now.toNat) s := by
  rw [Fires, Backoff.step, s.cadence.timer_onAnnounceSent]

/-- An announcement that is due. -/
theorem fires_poll {s : Announcing S σ} (hdue : s.cadence.timer.next ≤ n.now.toNat) :
    n.Fires (.poll n.now.toNat) s := by
  rw [Fires, Backoff.step, if_pos hdue, s.cadence.timer_onAnnounceSent]

theorem sound_announceSent {s : Announcing S σ} {event : BackoffEvent} (h : s.Sound)
    (hfires : n.Fires event s) (due : List (Nat × List (Outcome (Packet S)))) :
    (n.announceSent event due s).1.Sound := by
  have hsent : (⟨s.node, s.cadence.onAnnounceSent n.now, s.history ++ [event],
      [⟨n.now.toNat, due, [], false⟩] ++ s.announcements⟩ : Announcing S σ).Sound := by
    refine h.extend [event] ?_ ?_ (by simp)
    · rw [Backoff.after, List.foldl_cons, hfires, List.foldl_nil]
    · rw [Backoff.firings, hfires]
      rfl
  exact hsent

/-- A poll that finds nothing due. -/
theorem poll_idle {s : Announcing S σ} (h : s.Sound)
    (hidle : ¬s.cadence.timer.next ≤ n.now.toNat) :
    ({ s with history := s.history ++ [.poll n.now.toNat] } : Announcing S σ).Sound := by
  have hwaits : s.cadence.timer.step discoveryFastIntervalMs.toNat discoverySlowIntervalMs.toNat
      DiscoveryCadenceState.lastMs (.poll n.now.toNat) = (s.cadence.timer, none) := by
    rw [Backoff.step, if_neg hidle]
  have hpolled : (⟨s.node, s.cadence, s.history ++ [.poll n.now.toNat], [] ++ s.announcements⟩ :
      Announcing S σ).Sound := by
    refine h.extend [.poll n.now.toNat] ?_ ?_ (by simp)
    · rw [Backoff.after, List.foldl_cons, hwaits, List.foldl_nil]
    · rw [Backoff.firings, hwaits]
      rfl
  exact hpolled

end Cadence

section Queueing
variable {due : List (Nat × List (Outcome (Packet S)))} {event : BackoffEvent}
  {before : List (Announcement S)}

theorem sound_note {s : Announcing S σ} {a : Announcement S} (h : s.Sound)
    {more : Announcement S → Announcement S} (hlast : s.announcements = a :: before)
    (htime : (more a).time = a.time)
    (hcomplete : (more a).finished = true → (more a).Complete) : (s.note more).Sound where
  timer := h.timer
  announced := by
    have hannounced := h.announced
    rw [Announcing.announcedAt, hlast] at hannounced
    simpa [Announcing.announcedAt, Announcing.note, hlast, htime] using hannounced
  complete := by
    have hbefore := h.complete
    rw [hlast, List.forall_mem_cons] at hbefore
    simpa [Announcing.note, hlast] using ⟨hcomplete, hbefore.2⟩

/-- The announcement of `due` is under way, and has `queued` of it behind it. -/
structure Underway (n : AnnouncerNode S σ) (due : List (Nat × List (Outcome (Packet S))))
    (event : BackoffEvent) (before : List (Announcement S))
    (queued : List (Outcome (Nat × Packet S))) (s : Announcing S σ) : Prop where
  sound : s.Sound
  noted : event ∈ s.history
  last : ∃ pkts : List (Nat × Packet S), queued = pkts.map .ok ∧
    s.announcements = ⟨n.now.toNat, due, pkts, false⟩ :: before

/-- A packet that is queued is found in the queue. -/
theorem queuePacket_triple (side : Nat) (pkt : Packet S) (queued : List (Outcome (Nat × Packet S))) :
    Program.Triple (n.Underway due event before queued) (n.queuePacket side pkt)
      (fun _ => n.Underway due event before (queued ++ [.ok (side, pkt)])) Announcing.Sound := by
  have hqueue : Program.Triple (n.Underway due event before queued) (onNode (n.queue side pkt))
      (fun _ s => n.Underway due event before queued s ∧ (side, pkt) ∈ n.waiting s.node)
      Announcing.Sound := by
    intro s h
    have hsound := keeps_onNode (n.queue side pkt) s h.sound
    refine ⟨fun _ hresult => ⟨⟨hsound, h.noted, h.last⟩, ?_⟩, fun _ _ => hsound⟩
    exact n.waiting_queue side pkt s.node _ (Prod.ext rfl hresult)
  refine hqueue.bind fun _ => Program.Triple.of_outcome ?_
  rintro s ⟨⟨hsound, hnoted, pkts, rfl, hlast⟩, hwaits⟩
  refine .inl ⟨(), _, rfl, ?_, hnoted, pkts ++ [(side, pkt)], by simp, ?_⟩
  · exact sound_note hsound hlast rfl (by simp)
  · simp [Announcing.note, hlast, hwaits]

theorem queueLinks_triple (per : List (Nat × List (Outcome (Packet S))))
    (queued : List (Outcome (Nat × Packet S))) :
    Program.Triple (n.Underway due event before queued) (Program.forEach n.queueLink per)
      (fun _ => n.Underway due event before (queued ++ per.flatMap Announcement.owed))
      Announcing.Sound := by
  refine Program.Triple.forEach_flatMap (fun link _ l => ?_) queued
  rw [Announcement.owed, List.map_eq_flatMap]
  refine Program.Triple.forEach_flatMap (fun built _ l => ?_) l
  cases built with
  | error e => exact Program.Triple.of_outcome fun s h => .inr ⟨e, s, rfl, h.sound⟩
  | ok pkt => exact queuePacket_triple link.1 pkt l

end Queueing

section Calls
variable {before : List (Announcement S)} {due : Prop}

/-- What the calls keep in front of an announcement: the announcements so far, the sides the next
one goes to, and, once it is due, that it is. -/
structure Ready (n : AnnouncerNode S σ) (links : List (Nat × Bool)) (due : Prop)
    (before : List (Announcement S)) (s : Announcing S σ) : Prop where
  sound : s.Sound
  links_eq : n.links s.node = links
  due_of : due → s.cadence.timer.next ≤ n.now.toNat
  announcements_eq : s.announcements = before

theorem links_congr {st st' : σ} (h : n.sides st' = n.sides st ∧ n.allowed st' = n.allowed st) :
    n.links st' = n.links st := by
  rw [links, links, h.1, h.2]

theorem keeps_refreshRoutes : Program.Keeps (n.Ready links due before) n.refreshRoutes := by
  have hchange {f : σ → σ} (hf : ∀ st, n.sides (f st) = n.sides st ∧ n.allowed (f st) = n.allowed st) :
      Program.Keeps (n.Ready links due before) (onNode (Program.modify f)) := fun s h =>
    ⟨keeps_onNode _ s h.sound, (links_congr (hf s.node)).trans h.links_eq, h.due_of,
      h.announcements_eq⟩
  refine Program.Keeps.bind ?_ fun _ => hchange n.sides_fit
  refine Program.Keeps.bind .read fun s => ?_
  refine Program.Keeps.bind (hchange n.sides_prune) fun _ => ?_
  refine .ite (.pure ()) (.bind ?_ fun _ => ?_)
  · intro s h
    exact ⟨keeps_onNode _ s h.sound, (links_congr (n.sides_reconcile s.node)).trans h.links_eq,
      h.due_of, h.announcements_eq⟩
  · intro s h
    exact ⟨keeps_noteDiscoveryTopologyChange s h.sound, h.links_eq, fun _ => Nat.le_refl _,
      h.announcements_eq⟩

theorem hasAny_eq (st : σ) : n.hasAny st = !(n.links st).isEmpty := by
  rw [hasAny, perSide, List.any_map]
  have hall : ((fun link : Nat × List (Outcome (Packet S)) => !link.2.isEmpty) ∘
      fun link : Nat × Bool => (link.1, linkAnnouncements n.build n.types n.discovery n.identity
        n.now link.2 (n.routes st))) = fun _ => true := by
    funext link
    simp only [Function.comp_apply, linkAnnouncements_isEmpty, Bool.not_false]
  rw [hall]
  cases n.links st with
  | nil => rfl
  | cons link rest => rfl

theorem links_of_allNone {st : σ} (h : (n.sides st).all Option.isNone = true) :
    n.links st = [] := by
  rw [links, List.filterMap_eq_nil_iff]
  intro e he
  have hside := List.all_eq_true.mp h e.1 (List.fst_mem_of_mem_zipIdx he)
  rw [Option.isNone_iff_eq_none.mp hside]
  rfl

/-- What a call leaves: if there is a side to announce to, `event` is in the history, and if an
announcement is new, it finished. -/
structure Polled (links : List (Nat × Bool)) (event : BackoffEvent)
    (before : List (Announcement S)) (s : Announcing S σ) : Prop where
  sound : s.Sound
  noted : links ≠ [] → event ∈ s.history
  finished : ∀ a ∈ s.announcements, a ∈ before ∨ a.finished = true

/-- An announcement that comes back finished. -/
theorem queueDiscoveryAnnounce_triple {event : BackoffEvent}
    (hfires : ∀ s, n.Ready links due before s → n.Fires event s) :
    Program.Triple (n.Ready links due before) (n.queueDiscoveryAnnounce event)
      (fun _ => Polled links event before) Announcing.Sound := by
  refine (keeps_refreshRoutes.triple_of_le fun _ h => h.sound).bind fun _ => ?_
  intro s hready
  rw [Program.read_bind_apply]
  by_cases hnone : (n.sides s.node).all Option.isNone = true
  · rw [if_pos hnone]
    have hquiet : Polled links event before s := by
      refine ⟨hready.sound, fun hlinks => absurd ?_ hlinks, fun a ha => ?_⟩
      · exact hready.links_eq.symm.trans (links_of_allNone hnone)
      · exact .inl (hready.announcements_eq ▸ ha)
    exact ⟨fun _ _ => hquiet, fun _ _ => hready.sound⟩
  · rw [if_neg hnone]
    have hsent : n.Underway (n.perSide s.node) event before []
        (n.announceSent event (n.perSide s.node) s).1 :=
      ⟨sound_announceSent hready.sound (hfires s hready) _, List.mem_append_right _
        (List.mem_singleton_self _), [], rfl, by rw [← hready.announcements_eq]; rfl⟩
    refine ((queueLinks_triple (n.perSide s.node) []).bind fun _ => ?_) _ hsent
    refine Program.Triple.of_outcome ?_
    rintro s' ⟨hsound, hnoted, pkts, howed, hlast⟩
    refine .inl ⟨(), _, rfl, ?_, fun _ => hnoted, ?_⟩
    · exact sound_note hsound hlast rfl fun _ => howed
    · simp +contextual [Announcing.note, hlast]

/-- A poll that goes through. -/
theorem pollDiscoveryAnnounce_triple :
    Program.Triple (n.Ready links False before) n.pollDiscoveryAnnounce
      (fun _ => Polled links (.poll n.now.toNat) before) Announcing.Sound := by
  refine (keeps_refreshRoutes.triple_of_le fun _ h => h.sound).bind fun _ => ?_
  intro s hready
  rw [Program.read_bind_apply]
  have hold : ∀ a ∈ s.announcements, a ∈ before ∨ a.finished = true := fun a ha =>
    .inl (hready.announcements_eq ▸ ha)
  by_cases hquiet : (n.unlinked s.node || !n.hasAny s.node) = true
  · rw [if_pos hquiet]
    refine ⟨fun _ _ => ⟨hready.sound, fun hlinks => absurd ?_ hlinks, hold⟩, fun _ _ => hready.sound⟩
    rw [← hready.links_eq]
    rcases Bool.or_eq_true_iff.mp hquiet with hunlinked | hnone
    · exact links_of_allNone (n.unlinked_sides s.node hunlinked)
    · simpa [hasAny_eq] using hnone
  · rw [if_neg hquiet]
    by_cases hdue : s.cadence.due n.now = true
    · rw [if_pos hdue]
      have hnext := (s.cadence.due_iff n.now).mp hdue
      have hqueue : Program.Triple (n.Ready links True before)
          (n.queueDiscoveryAnnounce (.poll n.now.toNat) >>= fun _ => pure true)
          (fun _ => Polled links (.poll n.now.toNat) before) Announcing.Sound :=
        (queueDiscoveryAnnounce_triple fun s h => fires_poll (h.due_of trivial)).bind fun _ =>
          .pure fun _ h => h
      exact hqueue s ⟨hready.sound, hready.links_eq, fun _ => hnext, hready.announcements_eq⟩
    · rw [if_neg hdue]
      have hidle := poll_idle hready.sound fun hnext => hdue ((s.cadence.due_iff n.now).mpr hnext)
      exact ⟨fun _ _ => ⟨hidle, fun _ => List.mem_append_right _ (List.mem_singleton_self _), hold⟩,
        fun _ _ => hidle⟩

theorem sound_queueDiscoveryAnnounce {s : Announcing S σ} (h : s.Sound) :
    (n.queueDiscoveryAnnounce (.force n.now.toNat) s).1.Sound := by
  have hqueue : Program.Triple (n.Ready (n.links s.node) False s.announcements)
      (n.queueDiscoveryAnnounce (.force n.now.toNat)) (fun _ => Announcing.Sound) Announcing.Sound :=
    (queueDiscoveryAnnounce_triple fun s _ => fires_force s).imp (fun _ h => h)
      (fun _ _ h => h.sound) fun _ h => h
  exact hqueue.run ⟨h, rfl, fun h => h.elim, rfl⟩

theorem sound_pollDiscoveryAnnounce {s : Announcing S σ} (h : s.Sound) :
    (n.pollDiscoveryAnnounce s).1.Sound := by
  have hpoll : Program.Triple (n.Ready (n.links s.node) False s.announcements)
      n.pollDiscoveryAnnounce (fun _ => Announcing.Sound) Announcing.Sound :=
    pollDiscoveryAnnounce_triple.imp (fun _ h => h) (fun _ _ h => h.sound) fun _ h => h
  exact hpoll.run ⟨h, rfl, fun h => h.elim, rfl⟩

end Calls

section Parts
variable {r : σ → σ → Prop}

/-- What announcing does to a node, step by step. -/
structure MadeOf (n : AnnouncerNode S σ) (r : σ → σ → Prop) : Prop where
  prune : ∀ st, r st (n.prune st)
  reconcile : ∀ st, r st (n.reconcile st).1
  fitDiscoveryBudget : ∀ st, r st (n.fitDiscoveryBudget st)
  queue : ∀ side pkt st, r st (n.queue side pkt st).1

variable (h : n.MadeOf r) {start : σ}
include h

omit h in
theorem moves_onNode {α : Type} {p : Program σ Stop α} (hp : ∀ st, r st (p st).1) :
    Program.Keeps (fun s : Announcing S σ => Relation.ReflTransGen r start s.node) (onNode p) :=
  fun s hs => hs.tail (hp s.node)

theorem moves_refreshRoutes :
    Program.Keeps (fun s => Relation.ReflTransGen r start s.node) n.refreshRoutes := by
  refine Program.Keeps.bind ?_ fun _ => moves_onNode h.fitDiscoveryBudget
  refine Program.Keeps.bind .read fun s => .bind (moves_onNode h.prune) fun _ => ?_
  exact .ite (.pure ()) (.bind (moves_onNode h.reconcile) fun _ => .modify fun _ h => h)

theorem moves_queueDiscoveryAnnounce (event : BackoffEvent) :
    Program.Keeps (fun s => Relation.ReflTransGen r start s.node)
      (n.queueDiscoveryAnnounce event) := by
  refine Program.Keeps.bind (moves_refreshRoutes h) fun _ => .bind .read fun s => ?_
  refine .ite (.pure ()) (.bind (.modify fun _ h => h) fun _ => .bind ?_ fun _ => .modify fun _ h => h)
  exact .forEach fun link _ => .forEach fun built _ => .bind (.of _) fun pkt =>
    .bind (moves_onNode (h.queue link.1 pkt)) fun _ => .modify fun _ h => h

theorem moves_pollDiscoveryAnnounce :
    Program.Keeps (fun s => Relation.ReflTransGen r start s.node) n.pollDiscoveryAnnounce := by
  refine Program.Keeps.bind (moves_refreshRoutes h) fun _ => .bind .read fun s => ?_
  refine .ite (.pure false) (.ite ?_ ?_)
  · exact .bind (moves_queueDiscoveryAnnounce h _) fun _ => .pure true
  · exact .bind (.modify fun _ h => h) fun _ => .pure false

end Parts
end AnnouncerNode

namespace Announcing
variable {S : Schema} {σ : Type} {nodes : AnnouncerNode S σ → Prop} {others : σ → σ → Prop}
  {s s' : Announcing S σ}

theorem Sound.meanwhile (h : s.Sound) (hrun : Relation.ReflTransGen (Meanwhile nodes) s s') :
    s'.Sound := by
  induction hrun with
  | refl => exact h
  | tail _ hlast ih =>
    cases hlast with
    | moved => exact ⟨ih.timer, ih.announced, ih.complete⟩
    | changed hn => exact AnnouncerNode.keeps_noteDiscoveryTopologyChange _ ih
    | announce hn => exact AnnouncerNode.sound_queueDiscoveryAnnounce ih
    | poll hn => exact AnnouncerNode.sound_pollDiscoveryAnnounce ih

theorem Sound.step (h : s.Sound) (hstep : Step nodes others s s') : s'.Sound := by
  cases hstep with
  | announce hn => exact AnnouncerNode.sound_queueDiscoveryAnnounce h
  | poll hn => exact AnnouncerNode.sound_pollDiscoveryAnnounce h
  | other _ hmeanwhile => exact h.meanwhile hmeanwhile

theorem Sound.run (h : s.Sound) (hrun : Relation.ReflTransGen (Step nodes others) s s') :
    s'.Sound := by
  induction hrun with
  | refl => exact h
  | tail _ hstep ih => exact ih.step hstep

/-- Announcing is made of the calls of a node. -/
theorem moves {r : σ → σ → Prop} (hnodes : ∀ n, nodes n → n.MadeOf r)
    (hothers : ∀ st st', others st st' → r st st')
    (hrun : Relation.ReflTransGen (Step nodes others) s s') :
    Relation.ReflTransGen r s.node s'.node := by
  induction hrun with
  | refl => exact Relation.ReflTransGen.refl
  | tail _ hstep ih =>
    cases hstep with
    | announce hn => exact AnnouncerNode.moves_queueDiscoveryAnnounce (hnodes _ hn) _ _ ih
    | poll hn => exact AnnouncerNode.moves_pollDiscoveryAnnounce (hnodes _ hn) _ ih
    | other hnode _ => exact ih.tail (hothers _ _ hnode)

end Announcing
end Sedsprintf
