import Sedsprintf.Guarantees.Fanout
import Sedsprintf.Guarantees.Representation

/-!
# Weighted routing

Every packet that is routed has its plan made twice, by `should_route_remote` and where the
plan is followed, and each time a weighted choice moves the cursor of the source. The packets
of a source therefore take every other turn: over one round of `W` packets the sides get their
weights exactly if `W` is odd or all weights are even.
-/
namespace Sedsprintf

open Lib

namespace RoutingTable
variable {B : Build} {S : Schema} {table : RoutingTable S} {src : Option Nat}
  {targets eligible : List Nat} {origin : RouteSelectionOrigin}

/-- The table behind a weighted choice among the sides: the cursor moves where there is a
choice. -/
def turned (table : RoutingTable S) (src : Option Nat) (sides : List Nat) : RoutingTable S :=
  if sides.length ≤ 1 then table else table.advance src

theorem insertionSort_eq (hascending : eligible.Pairwise (· < ·))
    (hmem : ∀ side, side ∈ targets ↔ side ∈ eligible) (hnodup : targets.Nodup) :
    targets.insertionSort (· ≤ ·) = eligible := by
  have hperm : (targets.insertionSort (· ≤ ·)).Perm eligible :=
    (List.perm_insertionSort _ targets).trans
      ((List.perm_ext_iff_of_nodup hnodup (hascending.imp Nat.ne_of_lt)).mpr hmem)
  exact hperm.eq_of_pairwise (fun a b _ _ hab hba => Nat.le_antisymm hab hba)
    (List.pairwise_insertionSort (· ≤ ·) targets) (hascending.imp Nat.le_of_lt)

/-- A weighted choice takes the side the cursor falls on. -/
theorem applyRouteSelection_weighted (hmode : table.sourceRouteModes[src]? = some .weighted)
    (hascending : eligible.Pairwise (· < ·)) (hmem : ∀ side, side ∈ targets ↔ side ∈ eligible)
    (hnodup : targets.Nodup) (hpos : ∀ side ∈ eligible, 0 < table.routeWeight src side)
    (hsum : totalWeight (table.routeWeight src) eligible < 2 ^ 64) :
    table.applyRouteSelection B src targets origin = .ok (table.turned src eligible,
      (pickWeighted (table.routeWeight src) eligible
        ((table.cursor src).toNat % totalWeight (table.routeWeight src) eligible)).toList) := by
  have hsorted := insertionSort_eq hascending hmem hnodup
  have hlength : targets.length = eligible.length := by
    rw [← hsorted, List.length_insertionSort]
  unfold applyRouteSelection turned
  rw [hlength]
  match eligible, hsorted, hascending, hmem, hpos, hsum, hlength with
  | [], _, _, _, _, _, hlength =>
    obtain rfl := List.length_eq_zero_iff.mp hlength
    rfl
  | [side], _, _, hmem, hpos, _, hlength =>
    obtain ⟨only, rfl⟩ := List.length_eq_one_iff.mp hlength
    obtain rfl : only = side := by simpa using hmem only
    have hweight := hpos only (by simp)
    have htotal : totalWeight (table.routeWeight src) [only] = table.routeWeight src only := by
      simp [totalWeight]
    rw [htotal, pickWeighted, if_pos (Nat.mod_lt _ hweight)]
    rfl
  | first :: second :: rest, hsorted, _, _, hpos, hsum, _ =>
    have hlarge : ¬(first :: second :: rest).length ≤ 1 := by simp
    have hfirst := hpos first (by simp)
    have htotal : totalWeight (table.routeWeight src) (first :: second :: rest) ≠ 0 := by
      simp only [totalWeight, List.map_cons, List.sum_cons]
      omega
    simp only [if_neg hlarge, hmode, hsorted, sumWeights_eq_ok hsum, ok_bind, if_neg htotal]
    rfl

theorem sameRules_turned (sides : List Nat) :
    RouterState.SameRules table (table.turned src sides) := by
  unfold turned
  split
  · exact .refl _
  · exact ⟨rfl, rfl, rfl, rfl, rfl⟩

end RoutingTable

namespace RouterState
variable {B : Build} {S : Schema} {w : RouterWorld S} {s s' : RouterState S} {p : Packet S}
  {data : RouterItem S} {src : Option Nat} {eligible : List Nat}

/-- The sides an application packet from `src` may go to, in front of the selection. -/
def eligibleFor (w : RouterWorld S) (s : RouterState S) (p : Packet S) (src : Option Nat) :
    List Nat :=
  (s.inner.planTargets w.routing s.table src (sortDedup p.endpoints) p.ty none).1

/-- The choice among the sides that the cursor of `src` stands for. -/
def turn (s : RouterState S) (src : Option Nat) (sides : List Nat) (ahead : Nat) : List Nat :=
  (pickWeighted (s.table.routeWeight src) sides
    (((s.table.cursor src).toNat + ahead) % totalWeight (s.table.routeWeight src) sides)).toList

/-- Packets from `src` are distributed by weight over the sides. -/
structure Distributes (s : RouterState S) (src : Option Nat) (sides : List Nat) : Prop where
  mode : s.table.sourceRouteModes[src]? = some .weighted
  ascending : sides.Pairwise (· < ·)
  positive : ∀ side ∈ sides, 0 < s.table.routeWeight src side
  total_lt : totalWeight (s.table.routeWeight src) sides < 2 ^ 64

theorem Distributes.of_rules (h : s.Distributes src eligible) (hrules : SameRules s.table s'.table) :
    s'.Distributes src eligible where
  mode := by
    rw [hrules.sourceRouteModes]
    exact h.mode
  ascending := h.ascending
  positive := by
    rw [hrules.routeWeight_eq]
    exact h.positive
  total_lt := by
    rw [hrules.routeWeight_eq]
    exact h.total_lt

theorem eligibleFor_congr (hsides : s'.inner.sides = s.inner.sides)
    (hroutes : s'.inner.discoveryRoutes = s.inner.discoveryRoutes)
    (hrules : SameRules s.table s'.table) : s'.eligibleFor w p src = s.eligibleFor w p src := by
  have hallowed : ∀ ty side, s'.inner.routeAllowed s'.table src ty side =
      s.inner.routeAllowed s.table src ty side := by
    intro ty side
    rw [hrules.routeAllowed_eq, RouterInner.routeAllowed, hsides]
    rfl
  simp only [eligibleFor, RouterInner.planTargets, hallowed, hsides, hroutes]

/-- The plan of a packet under a weighted mode. -/
theorem Distributes.plan (h : s.Distributes src eligible) (hcarries : data.Carries B p)
    (hinternal : S.isInternalControlType p.ty = false)
    (heligible : ∀ side, side ∈ s.eligibleFor w p src ↔ side ∈ eligible) :
    RouterProgram.remoteSidePlan B w data src s =
      ({ s with table := s.table.turned src eligible }, .ok (s.turn src eligible 0)) := by
  simp only [Schema.isInternalControlType, Bool.or_eq_false_iff] at hinternal
  have hack : ¬(p.ty = S.reliableAck ∧ isEndToEndAckSender p.sender = true) := by
    rintro ⟨hty, -⟩
    simp [Schema.isReliableControlType, hty] at hinternal
  have hselect := @RoutingTable.applyRouteSelection_weighted B S s.table src
    (s.eligibleFor w p src) eligible
    (s.inner.planTargets w.routing s.table src (sortDedup p.endpoints) p.ty none).2 h.mode
    h.ascending heligible (RouterInner.planTargets_sound _ _ _).nodup h.positive h.total_lt
  rw [RouterProgram.remoteSidePlan, RouterInner.remoteSidePlan_of_carries hcarries hinternal.2 hack]
  simp only [hinternal.1.2, Bool.false_eq_true, if_false]
  simp only [eligibleFor] at hselect
  rw [hselect]
  rfl

end RouterState

section Received
variable {B : Build} {S : Schema} {w : RouterWorld S} {depth : Nat} {s s' t : RouterState S}
  {p : Packet S} {data : RouterItem S} {src : Nat} {relay : Option (RouterItem S)}

/-- An acknowledgement is queued and not routed yet. -/
theorem RouterProgram.keeps_queueEndToEndReliableAck (t : RouterState S) :
    Program.Keeps (RouterState.Unrouted (some src) t) (queueEndToEndReliableAck B w p) := by
  refine Program.Keeps.bind (fun s hs => ?_) fun _ s hs => ?_
  · exact hs.trans ⟨rfl, .refl _, .refl _, rfl, by simp [RouterState.forwardsFrom, record]⟩
  · unfold onInner RouterInner.queueEndToEndReliableAck
    dsimp only
    split
    · exact hs
    · unfold RouterInner.txQueueItemWithFlags
      dsimp only
      split
      · exact hs
      · exact hs.trans (.push s _)

variable (hreact : ∀ callback s, RouterState.Unrouted (some src) s (w.react callback s))
  (hinternal : S.isInternalControlType p.ty = false)
include hreact hinternal

/-- A packet that has a side to go to is relayed, behind handlers that route nothing from
its side. -/
theorem relays_packet (hcarries : RouterItem.Carries B (.packet p) p)
    (hremote : RouterProgram.shouldRouteRemote B w (.packet p) (some src) s = (t, .ok true))
    (hrun : RouterProgram.dispatchLocal B w (RouterProgram.reportError B w depth) (.packet p)
      (some src) s = (s', .ok relay)) :
    RouterState.Unrouted (some src) t s' ∧ ∃ item, relay = some item ∧ item.Carries B p := by
  have hguards := Guards.unrouted (B := B) hreact depth t
  rw [dispatchLocal_packet hcarries hinternal, RouterProgram.deliverPacket,
    Program.bind_apply_of_ok hremote] at hrun
  obtain ⟨_, bytes, hencode, hcalling⟩ := Program.bind_apply_eq_ok.mp hrun
  rw [(Program.of_apply_eq_ok.mp hencode).1] at hcalling
  obtain ⟨t₁, ⟨⟩, hcalls, hanswering⟩ := Program.bind_apply_eq_ok.mp hcalling
  have hkeeps : Program.Keeps (RouterState.Unrouted (some src) t) (Program.forEach (fun h =>
      RouterProgram.discard (RouterProgram.callOnPacket B w (RouterProgram.reportError B w depth)
        p bytes h)) (w.cfg.localHandlers (sortDedup p.endpoints))) :=
    .forEach fun h _ => (RouterProgram.callOnPacket_triple hguards.locals p bytes h).keeps.attempt
  have hcalled := hkeeps t (.refl t)
  rw [hcalls] at hcalled
  dsimp only at hanswering
  split at hanswering
  · obtain ⟨t₂, ⟨⟩, hack, hend⟩ := Program.bind_apply_eq_ok.mp hanswering
    have hacked := @RouterProgram.keeps_queueEndToEndReliableAck B S w p src t t₁ hcalled
    rw [hack] at hacked
    obtain ⟨rfl, hrelay⟩ := Prod.mk.inj hend
    exact ⟨hacked, _, (Except.ok.inj hrelay).symm, hcarries⟩
  · obtain ⟨rfl, hrelay⟩ := Prod.mk.inj hanswering
    exact ⟨hcalled, _, (Except.ok.inj hrelay).symm, hcarries⟩

omit hreact hinternal in
/-- What the branch for bytes decodes is the packet. -/
theorem decoded_of_callAllOnBytes {guarded : RouterProgram S Unit → RouterProgram S Unit}
    {report : Packet S → RouterProgram S Unit} {bytes : List UInt8} {env : TelemetryEnvelope S}
    (hdecode : RouterProgram.decodeItem B bytes = .ok p)
    {handlers : List (EndpointHandler S × Nat)} {pkt result : Option (Packet S)}
    (hpkt : pkt = none ∨ pkt = some p)
    (h : RouterProgram.callAllOnBytes B w report guarded bytes env handlers pkt t =
      (s', .ok result)) : result = none ∨ result = some p := by
  induction handlers generalizing pkt t with
  | nil =>
    obtain ⟨-, hresult⟩ := Prod.mk.inj h
    obtain rfl := Except.ok.inj hresult
    exact hpkt
  | cons first rest ih =>
    obtain ⟨t₁, next, hdemand, hguarded⟩ := Program.bind_apply_eq_ok.mp h
    obtain ⟨t₂, ⟨⟩, -, hrest⟩ := Program.bind_apply_eq_ok.mp hguarded
    refine ih ?_ hrest
    have hnext := (Program.of_apply_eq_ok.mp hdemand).2
    unfold RouterProgram.decodeOnDemand at hnext
    split at hnext
    · obtain rfl := Except.ok.inj hnext
      exact hpkt
    · obtain rfl := Except.ok.inj hnext
      exact hpkt
    · rw [hdecode] at hnext
      exact .inr (Except.ok.inj hnext).symm

theorem relays_serialized {bytes : List UInt8}
    (hcarries : RouterItem.Carries B (.serialized bytes) p)
    (hremote : RouterProgram.shouldRouteRemote B w (.serialized bytes) (some src) s = (t, .ok true))
    (hrun : RouterProgram.dispatchLocal B w (RouterProgram.reportError B w depth)
      (.serialized bytes) (some src) s = (s', .ok relay)) :
    RouterState.Unrouted (some src) t s' ∧ ∃ item, relay = some item ∧ item.Carries B p := by
  have hguards := Guards.unrouted (B := B) hreact depth t
  have hdecode : RouterProgram.decodeItem B bytes = .ok p := by
    simp only [RouterProgram.decodeItem, hcarries.2, hcarries.validate_eq_ok, ok_bind]
  rw [dispatchLocal_serialized hcarries hinternal] at hrun
  obtain ⟨_, pkt, hdecoding, hrouting⟩ := Program.bind_apply_eq_ok.mp hrun
  obtain ⟨rfl, hfirst⟩ := Program.of_apply_eq_ok.mp hdecoding
  have hpkt : pkt = none ∨ pkt = some p := by
    unfold RouterProgram.decodeFor at hfirst
    split at hfirst
    · rw [hdecode] at hfirst
      exact .inr (Except.ok.inj hfirst).symm
    · exact .inl (Except.ok.inj hfirst).symm
  rw [Program.bind_apply_of_ok hremote] at hrouting
  obtain ⟨t₁, decoded, hcalls, hanswering⟩ := Program.bind_apply_eq_ok.mp hrouting
  have hcalled := RouterProgram.keeps_callAllOnBytes hguards.locals bytes p.envelope
    (w.cfg.localHandlers (sortDedup p.envelope.endpoints)) pkt t (.refl t)
  rw [hcalls] at hcalled
  obtain ⟨t₂, ⟨⟩, hack, hend⟩ := Program.bind_apply_eq_ok.mp hanswering
  have hacks : Program.Keeps (RouterState.Unrouted (some src) t)
      (RouterProgram.acknowledgeDecoded B w p.envelope (some src) decoded) := by
    unfold RouterProgram.acknowledgeDecoded
    split
    · exact .pure ()
    · exact .ite (RouterProgram.keeps_queueEndToEndReliableAck t) (.pure ())
  have hacked := hacks t₁ hcalled
  rw [hack] at hacked
  obtain ⟨rfl, hrelay⟩ := Prod.mk.inj hend
  refine ⟨hacked, _, (Except.ok.inj hrelay).symm, ?_⟩
  rcases decoded_of_callAllOnBytes hdecode hpkt hcalls with rfl | rfl
  · exact hcarries
  · exact ⟨rfl, hcarries.validate_eq_ok⟩

omit hreact hinternal in
theorem RouterProgram.events_remoteSidePlan (data : RouterItem S) (from' : Option Nat)
    (s : RouterState S) : (remoteSidePlan B w data from' s).1.events = s.events := by
  unfold remoteSidePlan
  split
  · rfl
  · rfl

/-- Nothing is forwarded for the side in front of the relay. -/
theorem forwardsFrom_dispatchLocal (hcarries : data.Carries B p) (s : RouterState S) :
    (RouterProgram.dispatchLocal B w (RouterProgram.reportError B w depth) data (some src)
      s).1.forwardsFrom (some src) = s.forwardsFrom (some src) := by
  have hguards : Guards B w (RouterProgram.reportError B w depth) (· ≠ some src)
      (fun t => t.forwardsFrom (some src) = s.forwardsFrom (some src))
      (fun t => t.forwardsFrom (some src) = s.forwardsFrom (some src)) :=
    @Guards.of_relation S B w _ (fun t t' => t'.forwardsFrom (some src) = t.forwardsFrom (some src))
      (fun h h' => h'.trans h) (fun heffect => (RouterState.Unrouted.effect hreact heffect).forwards)
      (fun _ _ t => (hreact _ t).sides) (by simp) depth s
  have hremote : ∀ data : RouterItem S, Program.Keeps
      (fun t => t.forwardsFrom (some src) = s.forwardsFrom (some src))
      (RouterProgram.shouldRouteRemote B w data (some src)) := by
    intro data
    refine Program.Keeps.bind (fun t ht => ?_) fun _ => .pure _
    exact (RouterState.forwardsFrom_congr (RouterProgram.events_remoteSidePlan data _ t)).trans ht
  have hack : ∀ q, Program.Keeps (fun t => t.forwardsFrom (some src) = s.forwardsFrom (some src))
      (RouterProgram.queueEndToEndReliableAck B w q) := by
    intro q t ht
    exact (@RouterProgram.keeps_queueEndToEndReliableAck B S w q src t t (.refl t)).forwards.trans ht
  cases data with
  | packet pkt =>
    obtain rfl := hcarries.1
    rw [dispatchLocal_packet hcarries hinternal]
    have hdeliver : Program.Keeps (fun t => t.forwardsFrom (some src) = s.forwardsFrom (some src))
        (RouterProgram.deliverPacket B w (RouterProgram.reportError B w depth) pkt (some src)) := by
      refine (hremote _).bind fun remote => (Program.Keeps.of _).bind fun bytes => ?_
      refine Program.Keeps.bind (.forEach fun h _ => ?_) fun _ => ?_
      · exact (RouterProgram.callOnPacket_triple hguards.locals _ bytes h).keeps.attempt
      · exact .ite ((hack pkt).bind fun _ => .pure _) (.pure _)
    exact hdeliver s rfl
  | serialized bytes =>
    rw [dispatchLocal_serialized hcarries hinternal]
    have hdeliver : Program.Keeps (fun t => t.forwardsFrom (some src) = s.forwardsFrom (some src))
        (RouterProgram.deliverSerialized B w (RouterProgram.reportError B w depth) bytes p.envelope
          (some src)) := by
      refine (Program.Keeps.of _).bind fun pkt => (hremote _).bind fun remote => ?_
      refine (RouterProgram.keeps_callAllOnBytes hguards.locals bytes _ _ pkt).bind fun decoded => ?_
      refine Program.Keeps.bind ?_ fun _ => .pure _
      cases decoded with
      | none => exact .pure ()
      | some q => exact .ite (hack q) (.pure ())
    exact hdeliver s rfl

end Received

/-- A call that routes a packet: a broadcast of the router's own, or the dispatch of one
received on a side. -/
inductive RouteCall (S : Schema) where
  | broadcast (data : RouterItem S) (ignoreLocal : Bool)
  | received (side : Nat) (data : RouterItem S) (calledFromQueue : Bool)

namespace RouteCall
variable {S : Schema}

def src : RouteCall S → Option Nat
  | .broadcast _ _ => none
  | .received side _ _ => some side

def data : RouteCall S → RouterItem S
  | .broadcast data _ => data
  | .received _ data _ => data

def run (B : Build) (w : RouterWorld S) (depth : Nat) : RouteCall S → RouterProgram S Unit
  | .broadcast data ignoreLocal =>
    RouterProgram.txItemImpl B w (RouterProgram.reportError B w depth) (.broadcast data) ignoreLocal
  | .received side data calledFromQueue =>
    RouterProgram.dispatchRxData B w (RouterProgram.reportError B w depth) data (some side)
      calledFromQueue

/-- The call routes an application packet from `src` while `eligible` are the sides it may
go to; meanwhile nothing else from `src` is routed and no route leaves the cache. A broadcast
that fails is followed by an error packet, which is a broadcast again. -/
structure Routes (B : Build) (w : RouterWorld S) (depth : Nat) (call : RouteCall S) (p : Packet S)
    (src : Option Nat) (eligible : List Nat) (s s' : RouterState S) : Prop where
  source : call.src = src
  carries : call.data.Carries B p
  application : S.isInternalControlType p.ty = false
  runs : (call.run B w depth s).1 = s'
  succeeds : call.src = none → (call.run B w depth s).2 = .ok ()
  routed : s'.forwardsFrom src ≠ s.forwardsFrom src
  eligible : ∀ side, side ∈ s.eligibleFor w p src ↔ side ∈ eligible
  routes : s'.inner.discoveryRoutes = s.inner.discoveryRoutes
  callbacks : ∀ callback t, RouterState.Unrouted src t (w.react callback t)

end RouteCall

section Steps
variable {B : Build} {S : Schema} {w : RouterWorld S} {depth : Nat} {s s' t t' : RouterState S}
  {p : Packet S} {data item : RouterItem S} {src : Option Nat} {eligible : List Nat}

/-- Among at most one side the cursor makes no difference. -/
theorem RouterState.Distributes.pick_eq (h : s.Distributes src eligible)
    (hfew : eligible.length ≤ 1) (n m : Nat) :
    pickWeighted (s.table.routeWeight src) eligible
        (n % totalWeight (s.table.routeWeight src) eligible) =
      pickWeighted (s.table.routeWeight src) eligible
        (m % totalWeight (s.table.routeWeight src) eligible) := by
  match eligible, hfew, h.positive with
  | [], _, _ => rfl
  | [side], _, hpositive =>
    have hweight := hpositive side (by simp)
    have htotal : totalWeight (s.table.routeWeight src) [side] = s.table.routeWeight src side := by
      simp [totalWeight]
    have hpick : ∀ n, pickWeighted (s.table.routeWeight src) [side]
        (n % s.table.routeWeight src side) = some side := by
      intro n
      rw [pickWeighted, if_pos (Nat.mod_lt n hweight)]
    rw [htotal, hpick, hpick]

/-- One packet: its plan is made, things happen that route nothing from its source, and its
plan is made again and followed. -/
theorem RouterState.Distributes.step (h : s.Distributes src eligible)
    (hbetween : RouterState.Unrouted src { s with table := s.table.turned src eligible } t)
    (hbehind : RouterState.Unrouted src
      { t with
        table := t.table.turned src eligible
        events := t.events ++ [.forwarded src item (t.turn src eligible 0)] } s')
    (hwrap : 1 < eligible.length → (s.table.cursor src).toNat + 1 < 2 ^ 64) :
    s'.forwardsFrom src = s.forwardsFrom src ++ [(item, s.turn src eligible 1)] ∧
      (1 < eligible.length → s'.table.cursor src = s.table.cursor src + 2) ∧
      SameRules s.table s'.table := by
  have hrules : SameRules s.table t.table :=
    (RoutingTable.sameRules_turned eligible).trans hbetween.rules
  have hturn : t.turn src eligible 0 = s.turn src eligible 1 := by
    by_cases hfew : eligible.length ≤ 1
    · rw [turn, turn, hrules.routeWeight_eq, h.pick_eq hfew]
    · have hcursor : (t.table.cursor src).toNat = (s.table.cursor src).toNat + 1 := by
        rw [hbetween.cursor, RoutingTable.turned, if_neg hfew, RoutingTable.cursor_advance,
          UInt64.toNat_add, UInt64.toNat_one, Nat.mod_eq_of_lt (hwrap (by omega))]
      rw [turn, turn, hrules.routeWeight_eq, hcursor, Nat.add_zero]
  refine ⟨?_, fun hmany => ?_, ?_⟩
  · have hforwards : t.forwardsFrom src = s.forwardsFrom src := hbetween.forwards
    rw [hbehind.forwards, ← hforwards, ← hturn]
    simp [forwardsFrom]
  · rw [hbehind.cursor, RoutingTable.turned, if_neg (by omega), RoutingTable.cursor_advance,
      hbetween.cursor, RoutingTable.turned, if_neg (by omega), RoutingTable.cursor_advance]
    exact UInt64.add_assoc _ 1 1
  · exact hrules.trans ((RoutingTable.sameRules_turned eligible).trans hbehind.rules)

theorem RouterProgram.remoteSidePlan_frame {sides : List Nat}
    (h : remoteSidePlan B w data src s = (t, .ok sides)) :
    t.inner = s.inner ∧ t.events = s.events ∧
      ∀ side ∈ sides, t.inner.sideLive side = true := by
  unfold remoteSidePlan at h
  split at h
  · cases (Prod.mk.inj h).2
  · rename_i hplan
    obtain ⟨rfl, hsides⟩ := Prod.mk.inj h
    obtain rfl := Except.ok.inj hsides
    exact ⟨rfl, rfl, (RouterInner.remoteSidePlan_live hplan).1⟩

/-- Where something was forwarded, the plan was made. -/
theorem RouterProgram.plan_of_relaySend {calledFromQueue : Bool}
    (h : (relaySend B w (reportError B w depth) data src calledFromQueue s).1.forwardsFrom src ≠
      s.forwardsFrom src) :
    ∃ t targets, remoteSidePlan B w data src s = (t, .ok targets) := by
  have hevents := events_remoteSidePlan (B := B) (w := w) data src s
  generalize hplan : remoteSidePlan B w data src s = r at hevents
  obtain ⟨t, e | targets⟩ := r
  · refine absurd (RouterState.forwardsFrom_congr ?_) h
    unfold relaySend enqueueToSides
    split
    · rw [Program.bind_apply_of_error hplan]
      exact hevents
    · rw [Program.bind_apply_of_error hplan]
      exact hevents
  · exact ⟨t, targets, rfl⟩

/-- While there are sides to go to, the cursor is on one of them. -/
theorem RouterState.shouldRouteRemote_of_plan
    (hplan : RouterProgram.remoteSidePlan B w data src s = (t, .ok (s.turn src eligible 0)))
    (hpos : 0 < totalWeight (s.table.routeWeight src) eligible) :
    RouterProgram.shouldRouteRemote B w data src s = (t, .ok true) := by
  obtain ⟨side, hside⟩ := pickWeighted_isSome (Nat.mod_lt ((s.table.cursor src).toNat + 0) hpos)
  unfold RouterProgram.shouldRouteRemote
  rw [Program.bind_apply_of_ok hplan, turn, hside]
  rfl

theorem RouterState.Unrouted.turn_eq (h : RouterState.Unrouted src s t) (ahead : Nat) :
    t.turn src eligible ahead = s.turn src eligible ahead := by
  rw [turn, turn, h.rules.routeWeight_eq, h.cursor]

namespace RouteCall
variable {calledFromQueue ignoreLocal : Bool} {side : Nat}

/-- What one packet does to the plans followed for its source, to the cursor and to the
rules. -/
structure Advances (src : Option Nat) (eligible : List Nat) (s s' : RouterState S) : Prop where
  forwards : ∃ item, s'.forwardsFrom src = s.forwardsFrom src ++ [(item, s.turn src eligible 1)]
  cursor : 1 < eligible.length → s'.table.cursor src = s.table.cursor src + 2
  rules : RouterState.SameRules s.table s'.table
  sides : s'.inner.sides = s.inner.sides

/-- A packet received on a side. -/
theorem advances_received
    (h : (received side data calledFromQueue).Routes B w depth p src eligible s s')
    (hdist : s.Distributes src eligible)
    (hpos : 0 < totalWeight (s.table.routeWeight src) eligible)
    (hwrap : 1 < eligible.length → (s.table.cursor src).toNat + 1 < 2 ^ 64) :
    Advances src eligible s s' := by
  obtain rfl : some side = src := h.source
  have hreceiving : (RouterProgram.receiving data (some side) s).forwardsFrom (some side) =
      s.forwardsFrom (some side) := by simp [RouterState.forwardsFrom]
  have hruns : ((RouterProgram.dispatchLocal B w (RouterProgram.reportError B w depth) data
      (some side) >>= RouterProgram.relayBehind B w (RouterProgram.reportError B w depth)
        (some side) calledFromQueue) (RouterProgram.receiving data (some side) s)).1 = s' := h.runs
  obtain ⟨t, relay, hlocal, hrelay⟩ : ∃ t relay,
      RouterProgram.dispatchLocal B w (RouterProgram.reportError B w depth) data (some side)
        (RouterProgram.receiving data (some side) s) = (t, .ok relay) ∧
      (RouterProgram.relayBehind B w (RouterProgram.reportError B w depth)
          (some side) calledFromQueue relay t).1 = s' := by
    have hforwards := (@forwardsFrom_dispatchLocal B S w depth p data side h.callbacks h.application
      h.carries (RouterProgram.receiving data (some side) s)).trans hreceiving
    generalize hlocal : RouterProgram.dispatchLocal B w (RouterProgram.reportError B w depth) data
      (some side) (RouterProgram.receiving data (some side) s) = r at hforwards
    obtain ⟨t, e | relay⟩ := r
    · rw [Program.bind_apply_of_error hlocal] at hruns
      obtain rfl : t = s' := hruns
      exact absurd hforwards h.routed
    · rw [Program.bind_apply_of_ok hlocal] at hruns
      exact ⟨t, relay, rfl, hruns⟩
  have hdist' : (RouterProgram.receiving data (some side) s).Distributes (some side) eligible :=
    hdist.of_rules (.refl _)
  have hremote := RouterState.shouldRouteRemote_of_plan
    (hdist'.plan h.carries h.application h.eligible) hpos
  have hrelays : RouterState.Unrouted (some side)
      { RouterProgram.receiving data (some side) s with
        table := s.table.turned (some side) eligible } t ∧
      ∃ item, relay = some item ∧ item.Carries B p := by
    cases data with
    | packet pkt =>
      obtain rfl := h.carries.1
      exact relays_packet h.callbacks h.application h.carries hremote hlocal
    | serialized bytes => exact relays_serialized h.callbacks h.application h.carries hremote hlocal
  obtain ⟨hbetween, item, rfl, hitem⟩ := hrelays
  have hrelay' : (RouterProgram.relaySend B w (RouterProgram.reportError B w depth) item (some side)
      calledFromQueue t).1 = s' := hrelay
  have hforwards : t.forwardsFrom (some side) = s.forwardsFrom (some side) :=
    hbetween.forwards.trans hreceiving
  obtain ⟨t', targets, hplan'⟩ := RouterProgram.plan_of_relaySend (by
    rw [hrelay', hforwards]
    exact h.routed)
  have hbehind := RouterProgram.unrouted_relaySend
    (fun s₀ => Guards.unrouted (B := B) h.callbacks depth s₀) hplan' calledFromQueue
  rw [hrelay'] at hbehind
  -- no route left the cache for good, so that none left at all
  have hroutes : t.inner.discoveryRoutes = s.inner.discoveryRoutes := by
    refine RoutesShrink.antisymm hbetween.routes ?_
    have hshrink := hbehind.routes
    dsimp only at hshrink
    rw [(RouterProgram.remoteSidePlan_frame hplan').1, h.routes] at hshrink
    exact hshrink
  have hrules : RouterState.SameRules s.table t.table :=
    (RoutingTable.sameRules_turned eligible).trans hbetween.rules
  have heligible : ∀ side', side' ∈ t.eligibleFor w p (some side) ↔ side' ∈ eligible := by
    rw [RouterState.eligibleFor_congr (s := s) hbetween.sides hroutes hrules]
    exact h.eligible
  have hthen := (hdist.of_rules hrules).plan hitem h.application heligible
  rw [hthen] at hplan'
  obtain ⟨rfl, htargets⟩ := Prod.mk.inj hplan'
  obtain rfl := Except.ok.inj htargets
  obtain ⟨hforwards, hcursor, hsame⟩ := hdist'.step hbetween hbehind hwrap
  rw [hreceiving] at hforwards
  exact ⟨⟨item, hforwards⟩, hcursor, hsame, hbehind.sides.trans hbetween.sides⟩

/-- A broadcast of the router's own. -/
theorem advances_broadcast
    (h : (broadcast data ignoreLocal).Routes B w depth p src eligible s s')
    (hdist : s.Distributes src eligible)
    (hpos : 0 < totalWeight (s.table.routeWeight src) eligible)
    (hwrap : 1 < eligible.length → (s.table.cursor src).toNat + 1 < 2 ^ 64) :
    Advances src eligible s s' := by
  obtain rfl : none = src := h.source
  have hguards := Guards.unrouted_none (B := B) h.callbacks (RouterProgram.reportError B w depth)
  have hreturns : RouterProgram.txBroadcast B w (RouterProgram.reportError B w depth) data
      ignoreLocal s = (s', .ok ()) := Prod.ext h.runs (h.succeeds rfl)
  obtain ⟨t, fresh, hlocal, hrest⟩ := Program.bind_apply_eq_ok.mp hreturns
  have hfirst : RouterState.Unrouted none s t := by
    have hpass := (RouterProgram.localPass_triple (hguards s).locals data ignoreLocal s (.refl s)).1
    rw [hlocal] at hpass
    exact hpass fresh rfl
  have hfresh : fresh = true := by
    by_contra hknown
    rw [if_neg hknown] at hrest
    obtain ⟨rfl, -⟩ := Prod.mk.inj hrest
    exact h.routed hfirst.forwards
  rw [if_pos hfresh] at hrest
  obtain ⟨_, ⟨⟩, hcheck, hrouting⟩ := Program.bind_apply_eq_ok.mp hrest
  rw [(Program.of_apply_eq_ok.mp hcheck).1] at hrouting
  obtain ⟨t₁, remote, hremote, hsending⟩ := Program.bind_apply_eq_ok.mp hrouting
  obtain ⟨_, targets₁, hplan₁, hends⟩ := Program.bind_apply_eq_ok.mp hremote
  obtain ⟨rfl, -⟩ := Prod.mk.inj hends
  obtain ⟨hinner₁, hevents₁, -⟩ := RouterProgram.remoteSidePlan_frame hplan₁
  have htaken : remote = true := by
    by_contra hidle
    rw [if_neg hidle] at hsending
    obtain ⟨rfl, -⟩ := Prod.mk.inj hsending
    exact h.routed ((RouterState.forwardsFrom_congr hevents₁).trans hfirst.forwards)
  rw [if_pos htaken] at hsending
  obtain ⟨_, ty, htype, hplanning⟩ := Program.bind_apply_eq_ok.mp hsending
  rw [(Program.of_apply_eq_ok.mp htype).1] at hplanning
  obtain ⟨t₂, targets, hplan₂, hfollowing⟩ := Program.bind_apply_eq_ok.mp hplanning
  obtain ⟨hinner₂, -, hlive⟩ := RouterProgram.remoteSidePlan_frame hplan₂
  rw [RouterProgram.record, Program.modify_bind_apply] at hfollowing
  have hbehind : RouterState.Unrouted none
      { t₂ with events := t₂.events ++ [.forwarded none data targets] } s' := by
    have hsends := (RouterProgram.sendTracked_triple (hguards _) data ty targets ignoreLocal
      { t₂ with events := t₂.events ++ [.forwarded none data targets] } ⟨.refl _, hlive⟩).1
    rw [hfollowing] at hsends
    exact hsends () rfl
  have hroutes : t.inner.discoveryRoutes = s.inner.discoveryRoutes := by
    refine RoutesShrink.antisymm hfirst.routes ?_
    have hshrink := hbehind.routes
    dsimp only at hshrink
    rw [hinner₂, hinner₁, h.routes] at hshrink
    exact hshrink
  have heligible : ∀ side, side ∈ t.eligibleFor w p none ↔ side ∈ eligible := by
    rw [RouterState.eligibleFor_congr hfirst.sides hroutes hfirst.rules]
    exact h.eligible
  have hcarries : data.Carries B p := h.carries
  have hdist' := hdist.of_rules hfirst.rules
  rw [hdist'.plan hcarries h.application heligible] at hplan₁
  obtain ⟨rfl, -⟩ := Prod.mk.inj hplan₁
  have hrules : RouterState.SameRules t.table (t.table.turned none eligible) :=
    RoutingTable.sameRules_turned eligible
  have hturned : RouterState.Distributes { t with table := t.table.turned none eligible } none
      eligible := hdist'.of_rules hrules
  have hsame : RouterState.eligibleFor w { t with table := t.table.turned none eligible } p none =
      t.eligibleFor w p none := RouterState.eligibleFor_congr rfl rfl hrules
  rw [← hsame] at heligible
  rw [hturned.plan hcarries h.application heligible] at hplan₂
  obtain ⟨rfl, htargets⟩ := Prod.mk.inj hplan₂
  obtain rfl := Except.ok.inj htargets
  rw [← hfirst.cursor] at hwrap
  obtain ⟨hforwards, hcursor, hrules'⟩ := hdist'.step (.refl _) hbehind hwrap
  refine ⟨⟨data, ?_⟩, fun hmany => ?_, hfirst.rules.trans hrules',
    hbehind.sides.trans hfirst.sides⟩
  · rw [hforwards, hfirst.forwards, hfirst.turn_eq]
  · rw [hcursor hmany, hfirst.cursor]

theorem Routes.advances {call : RouteCall S} (h : call.Routes B w depth p src eligible s s')
    (hdist : s.Distributes src eligible)
    (hpos : 0 < totalWeight (s.table.routeWeight src) eligible)
    (hwrap : 1 < eligible.length → (s.table.cursor src).toNat + 1 < 2 ^ 64) :
    Advances src eligible s s' := by
  cases call with
  | broadcast data ignoreLocal => exact advances_broadcast h hdist hpos hwrap
  | received side data calledFromQueue => exact advances_received h hdist hpos hwrap

end RouteCall
end Steps

section Round
variable {B : Build} {S : Schema} {src : Option Nat} {eligible : List Nat}
  {states : Nat → RouterState S} {n : Nat}

/-- How many packets from `src` had the side in their plan. -/
def RouterState.sentTo (src : Option Nat) (side : Nat) (s : RouterState S) : Nat :=
  (s.forwardsFrom src).countP fun forward => side ∈ forward.2

/-- `n` packets from `src` are routed one after the other. What happens in between routes
nothing from there. -/
def RoutesInTurn (B : Build) (src : Option Nat) (eligible : List Nat) (n : Nat)
    (states : Nat → RouterState S) : Prop :=
  ∀ i < n, ∃ (w : RouterWorld S) (depth : Nat) (call : RouteCall S) (p : Packet S)
    (t : RouterState S), RouterState.Unrouted src (states i) t ∧
      call.Routes B w depth p src eligible t (states (i + 1))

/-- Every side got as many packets as its weight. -/
def DealtByWeight (src : Option Nat) (eligible : List Nat) (s s' : RouterState S) : Prop :=
  ∀ side ∈ eligible, s'.sentTo src side = s.sentTo src side + s.table.routeWeight src side

theorem RouterState.sentTo_congr {s t : RouterState S} (h : t.forwardsFrom src = s.forwardsFrom src)
    (side : Nat) : t.sentTo src side = s.sentTo src side := by
  rw [sentTo, sentTo, h]

/-- The `i`-th packet takes the turn `2 * i + 1` behind the first cursor. -/
theorem RoutesInTurn.state (hround : RoutesInTurn B src eligible n states)
    (hdist : (states 0).Distributes src eligible)
    (hpos : 0 < totalWeight ((states 0).table.routeWeight src) eligible)
    (hwrap : ((states 0).table.cursor src).toNat + 2 * n ≤ 2 ^ 64) {i : Nat} (hi : i ≤ n) :
    RouterState.SameRules (states 0).table (states i).table ∧
      (1 < eligible.length → i < n →
        ((states i).table.cursor src).toNat = ((states 0).table.cursor src).toNat + 2 * i) ∧
      ∀ side, (states i).sentTo src side = (states 0).sentTo src side +
        drawn ((states 0).table.routeWeight src) eligible
          (((states 0).table.cursor src).toNat + 1) 2 i side := by
  induction i with
  | zero => exact ⟨.refl _, fun _ _ => rfl, fun side => by simp [drawn]⟩
  | succ i ih =>
    obtain ⟨hrules, hcursor, hsent⟩ := ih (by omega)
    obtain ⟨w, depth, call, p, t, hbetween, hroutes⟩ := hround i (by omega)
    have hrules' : RouterState.SameRules (states 0).table t.table := hrules.trans hbetween.rules
    have hcursor' : 1 < eligible.length → (t.table.cursor src).toNat =
        ((states 0).table.cursor src).toNat + 2 * i := by
      intro hmany
      rw [hbetween.cursor]
      exact hcursor hmany (by omega)
    have hadvances := hroutes.advances (hdist.of_rules hrules') (by
      rw [hrules'.routeWeight_eq]
      exact hpos) (fun hmany => by
        rw [hcursor' hmany]
        omega)
    refine ⟨hrules'.trans hadvances.rules, fun hmany hlt => ?_, fun side => ?_⟩
    · rw [hadvances.cursor hmany, UInt64.toNat_add, hcursor' hmany,
        Nat.mod_eq_of_lt (by simp; omega)]
      simp
      omega
    · have hpick : t.turn src eligible 1 =
          (pickWeighted ((states 0).table.routeWeight src) eligible
            ((((states 0).table.cursor src).toNat + 1 + 2 * i) %
              totalWeight ((states 0).table.routeWeight src) eligible)).toList := by
        rw [RouterState.turn, hrules'.routeWeight_eq]
        by_cases hmany : 1 < eligible.length
        · rw [hcursor' hmany]
          congr 3
          omega
        · rw [hdist.pick_eq (by omega)]
      obtain ⟨item, hforwards⟩ := hadvances.forwards
      have hcount : (states (i + 1)).sentTo src side = t.sentTo src side +
          if side ∈ t.turn src eligible 1 then 1 else 0 := by
        simp [RouterState.sentTo, hforwards, List.countP_append, List.countP_cons]
      rw [hcount, RouterState.sentTo_congr hbetween.forwards, hsent, hpick, drawn, drawn,
        Nat.count_succ, Nat.add_assoc]
      simp only [Option.mem_toList]

end Round

/-- One round of packets of a source under the weighted mode is dealt out by weight exactly
if the total is odd or all the weights are even. -/
theorem round_fair_iff {B : Build} {S : Schema} {src : Option Nat} {eligible : List Nat}
    {states : Nat → RouterState S} (hdist : (states 0).Distributes src eligible)
    (hround : RoutesInTurn B src eligible
      (totalWeight ((states 0).table.routeWeight src) eligible) states)
    (hwrap : ((states 0).table.cursor src).toNat +
      2 * totalWeight ((states 0).table.routeWeight src) eligible ≤ 2 ^ 64) :
    DealtByWeight src eligible (states 0)
        (states (totalWeight ((states 0).table.routeWeight src) eligible)) ↔
      Odd (totalWeight ((states 0).table.routeWeight src) eligible) ∨
        ∀ side ∈ eligible, Even ((states 0).table.routeWeight src side) := by
  have hnodup : eligible.Nodup := hdist.ascending.imp Nat.ne_of_lt
  rw [← drawn_two_fair_iff _ hnodup (((states 0).table.cursor src).toNat + 1)]
  refine forall₂_congr fun side hside => ?_
  have hpos : 0 < totalWeight ((states 0).table.routeWeight src) eligible :=
    lt_of_lt_of_le (hdist.positive side hside)
      (List.le_sum_of_mem (List.mem_map_of_mem hside))
  rw [(hround.state hdist hpos hwrap (Nat.le_refl _)).2.2 side]
  omega

section Readings

/-- The battery is read again and again. -/
def batteryReading (i : Nat) : Packet defaultSchema :=
  { batteryPacket with timestamp := UInt64.ofNat i }

/-- A weighted choice between two links, the second of them with the given weight. -/
def RoutingTable.weightedLinks (weight : UInt32) : RoutingTable defaultSchema :=
  (RoutingTable.empty.setSourceRouteMode none .weighted).setRouteWeight ⟨none, 1⟩ (some weight)

def RouterState.weightedLinks (inner : RouterInner defaultSchema) (weight : UInt32) :
    RouterState defaultSchema := ⟨inner.twoSided, .weightedLinks weight, []⟩

def RouterProgram.txReading (i : Nat) : RouterProgram defaultSchema Unit :=
  (RouteCall.broadcast (.packet (batteryReading i)) false).run hostBuild .gateway 0

/-- The router behind the first readings. -/
def RouterState.behindReadings (s : RouterState defaultSchema) : Nat → RouterState defaultSchema
  | 0 => s
  | i + 1 => (RouterProgram.txReading i (s.behindReadings i)).1

/-- The next reading is sent, and may go to both links. -/
def RouterState.sendsReading (s : RouterState defaultSchema) (i : Nat) : Bool :=
  let sent := RouterProgram.txReading i s
  sent.2.toOption.isSome && sent.1.inner.discoveryRoutes.isEmpty &&
    s.inner.discoveryRoutes.isEmpty && s.eligibleFor .gateway (batteryReading i) none == [0, 1] &&
    (s.forwardsFrom none).length != (sent.1.forwardsFrom none).length

theorem batteryReading_carries (i : Nat) :
    RouterItem.Carries hostBuild (.packet (batteryReading i)) (batteryReading i) := by
  have hvalid : batteryPacket.validate hostBuild = .ok () := by decide +kernel
  exact ⟨rfl, hvalid⟩

theorem RouterState.routes_of_sendsReading {s : RouterState defaultSchema} {i : Nat}
    (h : s.sendsReading i = true) :
    (RouteCall.broadcast (.packet (batteryReading i)) false).Routes hostBuild .gateway 0
      (batteryReading i) none [0, 1] s (RouterProgram.txReading i s).1 := by
  simp only [sendsReading, Bool.and_eq_true, Std.ExtTreeMap.isEmpty_iff, beq_iff_eq,
    bne_iff_ne] at h
  obtain ⟨⟨⟨⟨hok, hbehind⟩, hbefore⟩, heligible⟩, hlength⟩ := h
  have happlication : defaultSchema.isInternalControlType batteryPacket.ty = false := by decide
  refine ⟨rfl, batteryReading_carries i, happlication, rfl, fun _ => ?_,
    fun hforwards => hlength ?_, ?_, ?_, ?_⟩
  · obtain ⟨⟨⟩, hunit⟩ := Option.isSome_iff_exists.mp hok
    exact toOption_eq_some.mp hunit
  · rw [hforwards]
  · rw [heligible]
    exact fun side => Iff.rfl
  · rw [hbehind, hbefore]
  · exact fun _ t => .refl t

/-- The readings are sent one after the other. -/
def RouterState.sendsReadings (s : RouterState defaultSchema) (n : Nat) : Bool :=
  (List.range n).all fun i => (s.behindReadings i).sendsReading i

theorem RouterState.routesInTurn_of_sendsReadings {s : RouterState defaultSchema} {n : Nat}
    (h : s.sendsReadings n = true) : RoutesInTurn hostBuild none [0, 1] n s.behindReadings := by
  intro i hi
  have hsends := List.all_eq_true.mp h i (List.mem_range.mpr hi)
  exact ⟨.gateway, 0, _, batteryReading i, _, .refl _, routes_of_sendsReading hsends⟩

theorem RouterState.weightedLinks_distributes (inner : RouterInner defaultSchema) :
    (weightedLinks inner 1).Distributes none [0, 1] ∧
      (weightedLinks inner 2).Distributes none [0, 1] := by
  have hmode : ∀ weight, (RoutingTable.weightedLinks weight).sourceRouteModes[(none : Option Nat)]? =
      some .weighted := by
    intro weight
    simp [RoutingTable.weightedLinks, RoutingTable.setRouteWeight, RoutingTable.setSourceRouteMode]
  have hequal : (∀ side ∈ [0, 1], 0 < (RoutingTable.weightedLinks 1).routeWeight none side) ∧
      totalWeight ((RoutingTable.weightedLinks 1).routeWeight none) [0, 1] < 2 ^ 64 := by
    decide +kernel
  have hdouble : (∀ side ∈ [0, 1], 0 < (RoutingTable.weightedLinks 2).routeWeight none side) ∧
      totalWeight ((RoutingTable.weightedLinks 2).routeWeight none) [0, 1] < 2 ^ 64 := by
    decide +kernel
  exact ⟨⟨hmode 1, by decide, hequal.1, hequal.2⟩, ⟨hmode 2, by decide, hdouble.1, hdouble.2⟩⟩

/-- With weights 1 and 2 a round is three readings long and fair. -/
theorem round_fair_iff_battery : ∃ inner : RouterInner defaultSchema,
    RouterInner.new hostBuild = .ok inner ∧
    DealtByWeight none [0, 1] (RouterState.weightedLinks inner 2)
      ((RouterState.weightedLinks inner 2).behindReadings 3) := by
  obtain ⟨inner, hnew, hsends⟩ := Option.map_eq_some_iff.mp (show
    ((RouterInner.new hostBuild : Outcome (RouterInner defaultSchema)).toOption.map fun inner =>
      (RouterState.weightedLinks inner 2).sendsReadings 3) = some true from by decide +kernel)
  have htable : totalWeight ((RoutingTable.weightedLinks 2).routeWeight none) [0, 1] = 3 ∧
      ((RoutingTable.weightedLinks 2).cursor none).toNat = 0 := by decide +kernel
  have htotal : totalWeight (((RouterState.weightedLinks inner 2).behindReadings
      0).table.routeWeight none) [0, 1] = 3 := htable.1
  have hcursor : (((RouterState.weightedLinks inner 2).behindReadings 0).table.cursor none).toNat =
      0 := htable.2
  have hiff := @round_fair_iff hostBuild defaultSchema none [0, 1]
    (RouterState.weightedLinks inner 2).behindReadings
    (RouterState.weightedLinks_distributes inner).2 (by
      rw [htotal]
      exact RouterState.routesInTurn_of_sendsReadings hsends) (by
      rw [htotal, hcursor]
      decide)
  rw [htotal] at hiff
  exact ⟨inner, toOption_eq_some.mp hnew, hiff.mpr (.inl (by decide))⟩

/-- With weights 1 and 1 both readings of a round go to the same link. -/
theorem round_unfair : ∃ inner : RouterInner defaultSchema,
    RouterInner.new hostBuild = .ok inner ∧
    (RouterState.weightedLinks inner 1).Distributes none [0, 1] ∧
    totalWeight ((RouterState.weightedLinks inner 1).table.routeWeight none) [0, 1] = 2 ∧
    RoutesInTurn hostBuild none [0, 1] 2 (RouterState.weightedLinks inner 1).behindReadings ∧
    ((RouterState.weightedLinks inner 1).table.cursor none).toNat + 2 * 2 ≤ 2 ^ 64 ∧
    ¬DealtByWeight none [0, 1] (RouterState.weightedLinks inner 1)
      ((RouterState.weightedLinks inner 1).behindReadings 2) := by
  obtain ⟨inner, hnew, hview⟩ := Option.map_eq_some_iff.mp (show
    ((RouterInner.new hostBuild : Outcome (RouterInner defaultSchema)).toOption.map fun inner =>
      let s := RouterState.weightedLinks inner 1
      (s.sendsReadings 2, s.sentTo none 0, (s.behindReadings 2).sentTo none 0)) =
      some (true, 0, 0) from by decide +kernel)
  obtain ⟨hsends, hcounts⟩ := Prod.mk.inj hview
  obtain ⟨hbefore, hafter⟩ := Prod.mk.inj hcounts
  have htable : totalWeight ((RoutingTable.weightedLinks 1).routeWeight none) [0, 1] = 2 ∧
      ((RoutingTable.weightedLinks 1).cursor none).toNat + 2 * 2 ≤ 2 ^ 64 ∧
      (RoutingTable.weightedLinks 1).routeWeight none 0 = 1 := by decide +kernel
  refine ⟨inner, toOption_eq_some.mp hnew, (RouterState.weightedLinks_distributes inner).1,
    htable.1, RouterState.routesInTurn_of_sendsReadings hsends, htable.2.1, fun h => ?_⟩
  have hfirst := h 0 (by simp)
  rw [hbefore, hafter, show (RouterState.weightedLinks inner 1).table.routeWeight none 0 = 1 from
    htable.2.2] at hfirst
  omega

end Readings
end Sedsprintf
