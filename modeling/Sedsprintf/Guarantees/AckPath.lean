import Sedsprintf.Router.Settled
import Sedsprintf.Guarantees.Retransmission

/-!
# End-to-end acknowledgements on their way back

`handle_internal_reliable_packet` leaves an acknowledgement for a packet of another router
to routing by answering `false`. The branch of `dispatch_rx_data` for packets goes on then;
the branch for bytes drops the answer and returns, so an acknowledgement that comes over a
serialized link ends at the first router.
-/
namespace Sedsprintf

open Lib

/-- An end-to-end acknowledgement of packet `k` that reaches a router on its way back: it
comes from side `src` and is new, the packet is not the router's own, and its return route
is `r`, which is live and allowed. -/
structure AckInTransit {S : Schema} (B : Build) (s : RouterState S) (data : RouterItem S)
    (p : Packet S) (src r : Nat) (k : UInt64) : Prop where
  carries : data.Carries B p
  ack : endToEndAck p = some k
  route : s.table.reliableReturnRoutes[k]? = some r
  allowed : s.inner.routeAllowed s.table (some src) (some p.ty) r = true
  foreign : s.inner.endToEndReliableTx[k]? = none
  fresh : (s.inner.isDuplicatePkt B data).2 = .ok false
  /-- The generated enum gives `ReliableAck` no second role. -/
  role : S.isTimeSyncType p.ty = false ∧ S.isDiscoveryType p.ty = false

/-- Between the two states the packet was forwarded once, and to side `r` only. -/
def ForwardedExactly {S : Schema} (B : Build) (s s' : RouterState S) (p : Packet S) (src r : Nat) :
    Prop :=
  ∃ data : RouterItem S, data.Carries B p ∧
    s'.forwardsFrom (some src) = s.forwardsFrom (some src) ++ [(data, [r])]

section Ack
variable {B : Build} {S : Schema} {w : RouterWorld S} {report : Packet S → RouterProgram S Unit}
  {s s' : RouterState S} {data : RouterItem S} {p : Packet S} {src r : Nat} {k : UInt64}

theorem ty_of_endToEndAck (h : endToEndAck p = some k) :
    p.ty = S.reliableAck ∧ isEndToEndAckSender p.sender = true ∧
      decodeEndToEndReliableAck p.payload.asSlice = .ok k := by
  unfold endToEndAck at h
  split at h
  · rename_i hack
    exact ⟨hack.1, hack.2, toOption_eq_some.mp h⟩
  · cases h

namespace AckInTransit

theorem control (h : AckInTransit B s data p src r k) : S.isReliableControlType p.ty = true := by
  simp [Schema.isReliableControlType, (ty_of_endToEndAck h.ack).1]

theorem not_reliable (h : AckInTransit B s data p src r k) : S.isReliableType p.ty = false :=
  S.control_not_reliable h.control

/-- The side it comes from is open. -/
theorem ingress (h : AckInTransit B s data p src r k) :
    ∃ side, s.inner.sides[src]?.join = some side ∧ side.opts.ingressEnabled = true := by
  have hallowed := h.allowed
  simp only [RouterInner.routeAllowed, RoutingTable.routeAllowedBy, RoutingTable.sidesOpen,
    Bool.and_eq_true] at hallowed
  exact (Option.any_eq_true _ _).mp hallowed.1.1.2

end AckInTransit

/-- It is planned for the return route, and no cursor moves. -/
theorem remoteSidePlan_of_ack {st : RouterInner S} {table : RoutingTable S}
    {env : RoutingEnv S} (hcarries : data.Carries B p) (hack : endToEndAck p = some k)
    (hdiscovery : S.isDiscoveryType p.ty = false)
    (hroute : table.reliableReturnRoutes[k]? = some r)
    (hallowed : st.routeAllowed table (some src) (some p.ty) r = true) :
    st.remoteSidePlan B env table data (some src) = .ok (table, [r]) := by
  obtain ⟨hty, hsender, hdecode⟩ := ty_of_endToEndAck hack
  have htarget : RoutingTable.reliableControlTarget p = .ok (some k) := by
    rw [RoutingTable.reliableControlTarget, if_pos ⟨hty, hsender⟩, hdecode]
    rfl
  unfold RouterInner.remoteSidePlan
  simp only [RouterInner.itemRouteInfo_of_carries hcarries,
    RoutingTable.reliableControlTargetPacketId_of_carries hcarries, htarget,
    RouterInner.preferredTimesyncRouteSource_of_carries hcarries, ok_bind, hdiscovery,
    Bool.false_eq_true, if_false, hroute, Option.filter_some, hallowed, if_true,
    Option.toList_some]

theorem remoteSidePlan_apply_of_ack (hcarries : data.Carries B p) (hack : endToEndAck p = some k)
    (hdiscovery : S.isDiscoveryType p.ty = false)
    (hroute : s.table.reliableReturnRoutes[k]? = some r)
    (hallowed : s.inner.routeAllowed s.table (some src) (some p.ty) r = true) :
    RouterProgram.remoteSidePlan B w data (some src) s = (s, .ok [r]) := by
  rw [RouterProgram.remoteSidePlan,
    remoteSidePlan_of_ack hcarries hack hdiscovery hroute hallowed]

/-- The router behind the check for duplicates, which remembers the packet. -/
def RouterState.noted (B : Build) (s : RouterState S) (data : RouterItem S) : RouterState S :=
  { s with
    inner := (s.inner.isDuplicatePkt B data).1
    events := s.events ++ ((RouterInner.getHash B data).toOption.map .remembered).toList }

/-- The same router as it dispatches the packet. -/
abbrev RouterState.handed (B : Build) (s : RouterState S) (data : RouterItem S) (src : Option Nat) :
    RouterState S :=
  RouterProgram.receiving data src (s.noted B data)

theorem RouterProgram.isDuplicatePkt_of_fresh
    (hfresh : (s.inner.isDuplicatePkt B data).2 = .ok false) :
    isDuplicatePkt B data s = (s.noted B data, .ok false) := by
  obtain ⟨packetId, hid⟩ : ∃ packetId, RouterInner.getHash B data = .ok packetId := by
    simp only [RouterInner.isDuplicatePkt] at hfresh
    split at hfresh
    · cases hfresh
    · rename_i packetId hid
      exact ⟨packetId, hid⟩
  have hcheck : onInner (fun st => st.isDuplicatePkt B data) s =
      ({ s with inner := (s.inner.isDuplicatePkt B data).1 }, .ok false) := by
    rw [onInner, hfresh]
  rw [isDuplicatePkt, Program.bind_apply_of_ok hcheck, if_neg (by simp), RouterState.noted, hid]
  rfl

theorem RouterState.settled_noted {src : Option Nat}
    (hreact : ∀ callback t, RouterState.Settled src t (w.react callback t)) (data : RouterItem S) :
    RouterState.Settled src s (s.noted B data) := by
  have hnote : RouterState.Settled src s { s with inner := (s.inner.isDuplicatePkt B data).1 } :=
    .effect hreact (.note s data)
  unfold RouterState.noted
  cases RouterInner.getHash B data with
  | error e => simpa [Except.toOption] using hnote
  | ok packetId => exact hnote.trans (.effect (B := B) hreact (.remembered _ packetId))

theorem RouterState.settled_handed {src from' : Option Nat}
    (hreact : ∀ callback t, RouterState.Settled src t (w.react callback t)) (data : RouterItem S) :
    RouterState.Settled src s (s.handed B data from') := by
  have hnoted : RouterState.Settled src s (s.noted B data) := settled_noted hreact data
  refine hnoted.trans ⟨⟨rfl, .refl _, .refl _, rfl, ?_⟩, ?_⟩
  · simp [RouterState.forwardsFrom]
  · simp [RouterState.acks]

namespace AckInTransit

/-- The call comes down to the dispatch. -/
theorem rxItem_eq (h : AckInTransit B s data p src r k) (priority : UInt8)
    (calledFromQueue : Bool) :
    RouterProgram.rxItem B w report ⟨some src, data, priority⟩ calledFromQueue s =
      RouterProgram.dispatchRxData B w report data (some src) calledFromQueue (s.noted B data) := by
  obtain ⟨side, hside, hingress⟩ := h.ingress
  have hopen : s.inner.ensureSideIngressEnabled src = .ok () := by
    simp only [RouterInner.ensureSideIngressEnabled, sideRef, hside, okOr, ok_bind, hingress, if_true]
  have hadmit : RouterProgram.admitItem B data (some src) s = (s, .ok ()) := by
    simp only [RouterProgram.admitItem, Program.read_bind_apply, hopen, Program.of_ok_bind_apply,
      h.carries.returnRouteId_eq_none h.not_reliable, Program.modify_apply]
  have hhop := @RouterInner.receiveHop_of_not_reliable B S w.receiving s.inner data p src priority
    h.carries h.not_reliable side hside
  have hreceived : RouterProgram.onInner
      (fun st => st.receiveHop B w.receiving ⟨some src, data, priority⟩) s = (s, .ok (some [])) := by
    rw [RouterProgram.onInner, hhop]
  have hnew : RouterProgram.isDuplicatePkt B data s = (s.noted B data, .ok false) :=
    RouterProgram.isDuplicatePkt_of_fresh h.fresh
  rw [RouterProgram.rxItem, Program.bind_apply_of_ok hadmit, Program.bind_apply_of_ok hreceived]
  dsimp only
  rw [RouterProgram.handOver, Program.bind_apply_of_ok hnew, if_neg (by simp)]
  exact Program.bind_pure_unit_apply _ _

/-- `handle_internal_reliable_packet` has nothing to do with it. -/
theorem handleInternalReliablePacket_eq (h : AckInTransit B s data p src r k) :
    RouterProgram.onInner (fun st => st.handleInternalReliablePacket B p (some src))
      (s.handed B data (some src)) = (s.handed B data (some src), .ok false) := by
  have hforeign : (s.handed B data (some src)).inner.endToEndReliableTx[k]? = none := by
    rw [RouterProgram.receiving_inner, RouterState.noted, (s.inner.isDuplicatePkt_keeps data).1.endToEndReliableTx]
    exact h.foreign
  have habsent : k ∉ (s.handed B data (some src)).inner.endToEndReliableTx := by
    rw [Std.ExtTreeMap.mem_iff_isSome_getElem?, hforeign]
    simp
  have hhandled : (s.handed B data (some src)).inner.handleInternalReliablePacket B p (some src) =
      ((s.handed B data (some src)).inner, .ok false) := by
    rw [RouterInner.handleInternalReliablePacket, if_pos h.control]
    simp only [h.ack, RouterInner.handleEndToEndAck, hforeign, habsent, decide_false]
  rw [RouterProgram.onInner, hhandled]

theorem allowed_handed (h : AckInTransit B s data p src r k) :
    (s.handed B data (some src)).inner.routeAllowed (s.handed B data (some src)).table (some src) (some p.ty) r = true := by
  have hsides : (s.handed B data (some src)).inner.sides = s.inner.sides :=
    (s.inner.isDuplicatePkt_keeps data).1.sides
  rw [RouterInner.routeAllowed, hsides]
  exact h.allowed

/-- As bytes it ends there. -/
theorem dispatch_serialized {bytes : List UInt8}
    (h : AckInTransit B s (.serialized bytes) p src r k) (calledFromQueue : Bool) :
    RouterProgram.dispatchRxData B w report (.serialized bytes) (some src) calledFromQueue
      (s.noted B (.serialized bytes)) = (s.handed B (.serialized bytes) (some src), .ok ()) := by
  have hcontrol : S.isReliableControlType p.envelope.ty = true := h.control
  have hdecode : RouterProgram.decodeItem B bytes = .ok p := by
    simp only [RouterProgram.decodeItem, h.carries.2, h.carries.validate_eq_ok, ok_bind]
  have hlocal : RouterProgram.dispatchLocal B w report (.serialized bytes) (some src)
      (s.handed B (.serialized bytes) (some src)) =
        (s.handed B (.serialized bytes) (some src), .ok none) := by
    simp only [RouterProgram.dispatchLocal, h.carries.peekEnvelope_eq, Program.of_ok_bind_apply,
      hcontrol, if_true, hdecode]
    rw [Program.bind_apply_of_ok h.handleInternalReliablePacket_eq, Program.pure_apply]
  rw [RouterProgram.dispatchRxData_apply, Program.bind_apply_of_ok hlocal]
  rfl

/-- As a packet it comes to the handlers for its endpoints, with a side to be relayed to. -/
theorem dispatch_packet {p' : Packet S} (h : AckInTransit B s (.packet p') p src r k) :
    RouterProgram.dispatchLocal B w report (.packet p') (some src) (s.handed B (.packet p') (some src)) =
      (do
        let bytes ← Program.of (RouterProgram.encodeFor B w (sortDedup p.endpoints) p)
        Program.forEach (fun handler =>
          RouterProgram.discard (RouterProgram.callOnPacket B w report p bytes handler))
          (w.cfg.localHandlers (sortDedup p.endpoints))
        pure (some (.packet p)) : RouterProgram S (Option (RouterItem S)))
        (s.handed B (.packet p') (some src)) := by
  obtain ⟨rfl, hvalid⟩ := h.carries
  have hplan : RouterProgram.remoteSidePlan B w (.packet p') (some src) (s.handed B (.packet p') (some src)) =
      (s.handed B (.packet p') (some src), .ok [r]) :=
    remoteSidePlan_apply_of_ack h.carries h.ack h.role.2 h.route h.allowed_handed
  have hremote : RouterProgram.shouldRouteRemote B w (.packet p') (some src)
      (s.handed B (.packet p') (some src)) = (s.handed B (.packet p') (some src), .ok true) := by
    rw [RouterProgram.shouldRouteRemote, Program.bind_apply_of_ok hplan]
    rfl
  have hlearn : RouterProgram.learnDiscoveryPacket B w p' (some src) (s.handed B (.packet p') (some src)) =
      (s.handed B (.packet p') (some src), .ok false) := by
    unfold RouterProgram.learnDiscoveryPacket
    split
    · rfl
    · rw [if_neg (by simp [h.role.2])]
  simp only [RouterProgram.dispatchLocal, hvalid, Program.of_ok_bind_apply]
  rw [Program.bind_apply_of_ok h.handleInternalReliablePacket_eq, if_neg (by simp),
    if_neg (by simp [h.role.1]), Program.bind_apply_of_ok hlearn, if_neg (by simp),
    RouterProgram.deliverPacket, Program.bind_apply_of_ok hremote]
  refine Program.bind_congr_apply rfl fun bytes => ?_
  simp only [h.not_reliable, Bool.and_false, Bool.false_eq_true, if_false, if_true]

end AckInTransit

end Ack

/-- The calls of the local handlers for `p`, with the error packets of those that fail, come
back without a panic. -/
def LocalCallsReturn {S : Schema} (B : Build) (w : RouterWorld S)
    (report : Packet S → RouterProgram S Unit) (p : Packet S) : Prop :=
  ∀ bytes, RouterProgram.encodeFor B w (sortDedup p.endpoints) p = .ok bytes → ∀ s what,
    (Program.forEach (fun handler =>
      RouterProgram.discard (RouterProgram.callOnPacket B w report p bytes handler))
      (w.cfg.localHandlers (sortDedup p.endpoints)) s).2 ≠ .error (.panic what)

section Relay
variable {B : Build} {S : Schema} {w : RouterWorld S} {report : Packet S → RouterProgram S Unit}
  {s : RouterState S} {data : RouterItem S} {p : Packet S} {src r : Nat} {k : UInt64}

/-- Where the calls of the handlers come back, they do so without an error. -/
theorem LocalCallsReturn.run {s₀ t : RouterState S} {bytes : Option (List UInt8)}
    (hcalls : LocalCallsReturn B w report p)
    (hguards : Guards B w report (· ≠ some src) (RouterState.Settled (some src) s₀)
      (RouterState.Settled (some src) s₀))
    (hencode : RouterProgram.encodeFor B w (sortDedup p.endpoints) p = .ok bytes)
    (ht : RouterState.Settled (some src) s₀ t) :
    ∃ t', Program.forEach (fun handler =>
        RouterProgram.discard (RouterProgram.callOnPacket B w report p bytes handler))
        (w.cfg.localHandlers (sortDedup p.endpoints)) t = (t', .ok ()) ∧
      RouterState.Settled (some src) s₀ t' := by
  have hpanic := hcalls bytes hencode t
  have herr := RouterProgram.forEach_discard_ne_err
    (RouterProgram.callOnPacket B w report p bytes) (w.cfg.localHandlers (sortDedup p.endpoints)) t
  have hkept : RouterState.Settled (some src) s₀ (Program.forEach (fun handler =>
      RouterProgram.discard (RouterProgram.callOnPacket B w report p bytes handler))
      (w.cfg.localHandlers (sortDedup p.endpoints)) t).1 :=
    Program.Keeps.forEach (fun handler _ =>
      (RouterProgram.callOnPacket_triple hguards.locals p bytes handler).keeps.attempt) _ ht
  generalize Program.forEach (fun handler =>
      RouterProgram.discard (RouterProgram.callOnPacket B w report p bytes handler))
      (w.cfg.localHandlers (sortDedup p.endpoints)) t = run at hpanic herr hkept
  obtain ⟨t', (e | what) | ⟨⟨⟩⟩⟩ := run
  · exact absurd rfl (herr e)
  · exact absurd rfl (hpanic what)
  · exact ⟨t', rfl, hkept⟩

end Relay

/-- An acknowledgement in transit goes to its return route, and nowhere else, exactly when
it is received as a packet that can be handed to the local handlers for its endpoints. -/
theorem ack_forwarded_iff {B : Build} {S : Schema} {w : RouterWorld S} {depth : Nat}
    {s : RouterState S} {data : RouterItem S} {p : Packet S} {src r : Nat} {k : UInt64}
    (h : AckInTransit B s data p src r k)
    (hreact : ∀ callback t, RouterState.Settled (some src) t (w.react callback t))
    (hcalls : LocalCallsReturn B w (RouterProgram.reportError B w depth) p) (priority : UInt8)
    (calledFromQueue : Bool) :
    ForwardedExactly B s (RouterProgram.rxItem B w (RouterProgram.reportError B w depth)
        ⟨some src, data, priority⟩ calledFromQueue s).1 p src r ↔
      (∃ pkt, data = .packet pkt) ∧
        ∃ bytes, RouterProgram.encodeFor B w (sortDedup p.endpoints) p = .ok bytes := by
  have hguards : ∀ s₀, Guards B w (RouterProgram.reportError B w depth) (· ≠ some src)
      (RouterState.Settled (some src) s₀) (RouterState.Settled (some src) s₀) :=
    .settled hreact depth
  have hhanded : RouterState.Settled (some src) s (s.handed B data (some src)) :=
    RouterState.settled_handed hreact data
  -- where nothing is forwarded from the side, the acknowledgement is not
  have hlost : ∀ s', s'.forwardsFrom (some src) = s.forwardsFrom (some src) →
      ¬ForwardedExactly B s s' p src r := by
    rintro s' heq ⟨data', -, hforwards⟩
    rw [heq] at hforwards
    have := congrArg List.length hforwards
    simp at this
  rw [h.rxItem_eq]
  cases data with
  | serialized bytes =>
    rw [h.dispatch_serialized]
    refine iff_of_false (hlost _ hhanded.forwards) ?_
    rintro ⟨⟨pkt, hpkt⟩, -⟩
    cases hpkt
  | packet p' =>
    rw [RouterProgram.dispatchRxData_apply]
    have hdispatch := @AckInTransit.dispatch_packet B S w (RouterProgram.reportError B w depth) s p
      src r k p' h
    cases hencode : RouterProgram.encodeFor B w (sortDedup p.endpoints) p with
    | error e =>
      rw [hencode, Program.of_error_bind_apply] at hdispatch
      rw [Program.bind_apply_of_error hdispatch]
      refine iff_of_false (hlost _ hhanded.forwards) ?_
      rintro ⟨-, bytes, hbytes⟩
      cases hbytes
    | ok bytes =>
      rw [hencode, Program.of_ok_bind_apply] at hdispatch
      obtain ⟨s', hrun, hkept⟩ := hcalls.run (hguards s) hencode hhanded
      rw [Program.bind_apply_of_ok hrun, Program.pure_apply] at hdispatch
      rw [Program.bind_apply_of_ok hdispatch]
      refine iff_of_true ⟨.packet p, ⟨rfl, h.carries.validate_eq_ok⟩, ?_⟩ ⟨⟨p', rfl⟩, bytes, rfl⟩
      have hroute : s'.table.reliableReturnRoutes[k]? = some r := by
        rw [hkept.rules.reliableReturnRoutes]
        exact h.route
      have hallowed : s'.inner.routeAllowed s'.table (some src) (some p.ty) r = true := by
        rw [hkept.rules.routeAllowed_eq, RouterInner.routeAllowed, hkept.sides]
        exact h.allowed
      have hplan := @remoteSidePlan_apply_of_ack B S w s' (.packet p) p src r k
        ⟨rfl, h.carries.validate_eq_ok⟩ h.ack h.role.2 hroute hallowed
      have hrelayed := RouterProgram.unrouted_relaySend
        (.unrouted (fun callback t => (hreact callback t).toUnrouted) depth) hplan calledFromQueue
      refine hrelayed.forwards.trans ?_
      rw [← hkept.forwards]
      simp [RouterState.forwardsFrom]

/-- The acknowledgement that `sink` sends for the fix. -/
def fixAck : Packet defaultSchema where
  ty := 13
  dataSize := 8
  sender := "E2EACK:sink"
  endpoints := [4]
  timestamp := 0
  payload := .inline 8 (encodeEndToEndReliableAck (gpsDecoded.packetId hostBuild))

/-- Its two forms. -/
def fixAckForms : List (RouterItem defaultSchema) :=
  [.packet fixAck, .serialized (((serializePacket hostBuild fixAck).toOption).getD [])]

/-- What a router that forwarded the fix from side 0 to side 1 looks like to the
acknowledgement. -/
def RouterState.awaitsFixAck (s : RouterState defaultSchema) (data : RouterItem defaultSchema) :
    Bool :=
  s.table.reliableReturnRoutes[gpsDecoded.packetId hostBuild]? == some 0 &&
    s.inner.routeAllowed s.table (some 1) (some fixAck.ty) 0 &&
    !s.inner.endToEndReliableTx.contains (gpsDecoded.packetId hostBuild) &&
    (s.inner.isDuplicatePkt hostBuild data).2.toOption == some false

/-- Both forms carry the acknowledgement. -/
theorem fixAck_carries : ∀ data ∈ fixAckForms, data.Carries hostBuild fixAck := by
  have hbytes : (deserializePacket hostBuild defaultSchema
      (((serializePacket hostBuild fixAck).toOption).getD [])).toOption = some fixAck := by
    decide +kernel
  simp only [fixAckForms, List.forall_mem_cons, List.not_mem_nil, false_implies, implies_true,
    and_true]
  exact ⟨⟨rfl, by decide +kernel⟩, by decide +kernel, toOption_eq_some.mp hbytes⟩

theorem ackInTransit_of_awaits {s : RouterState defaultSchema} {data : RouterItem defaultSchema}
    (hdata : data ∈ fixAckForms) (h : s.awaitsFixAck data = true) :
    AckInTransit hostBuild s data fixAck 1 0 (gpsDecoded.packetId hostBuild) := by
  simp only [RouterState.awaitsFixAck, Bool.and_eq_true, beq_iff_eq, Bool.not_eq_true'] at h
  obtain ⟨⟨⟨hroute, hallowed⟩, hforeign⟩, hfresh⟩ := h
  have habsent : s.inner.endToEndReliableTx[gpsDecoded.packetId hostBuild]? = none := by
    rw [Std.ExtTreeMap.contains_eq_isSome_getElem?] at hforeign
    exact Option.not_isSome_iff_eq_none.mp (by simp [hforeign])
  exact ⟨fixAck_carries data hdata, by decide +kernel, hroute, hallowed, habsent,
    toOption_eq_some.mp hfresh, by decide⟩

def RouterProgram.rxAck (data : RouterItem defaultSchema) : RouterProgram defaultSchema Unit :=
  rxItem hostBuild .gateway (reportError hostBuild .gateway 0) ⟨some 1, data, 0⟩ false

/-- The router is in that state behind the fix, and nothing is forwarded when the bytes of
the acknowledgement come in. -/
theorem behindFix_awaits : ∃ inner : RouterInner defaultSchema,
    RouterInner.new hostBuild = .ok inner ∧
    (∀ data ∈ fixAckForms, (RouterState.behindFix inner).awaitsFixAck data = true) ∧
    ((RouterState.behindFix inner).forwardsFrom (some 1)).length = 0 ∧
    ∀ bytes, (.serialized bytes : RouterItem defaultSchema) ∈ fixAckForms →
      ((RouterProgram.rxAck (.serialized bytes) (RouterState.behindFix inner)).1.forwardsFrom
        (some 1)).length = 0 := by
  obtain ⟨inner, hnew, hview⟩ := Option.map_eq_some_iff.mp (show
    ((RouterInner.new hostBuild : Outcome (RouterInner defaultSchema)).toOption.map fun inner =>
      let s := RouterState.behindFix inner
      (fixAckForms.all s.awaitsFixAck, (s.forwardsFrom (some 1)).length,
        fixAckForms.map fun data => ((RouterProgram.rxAck data s).1.forwardsFrom (some 1)).length)) =
      some (true, 0, [1, 0]) from by decide +kernel)
  simp only [Prod.mk.injEq] at hview
  obtain ⟨hawaits, hbefore, hafter⟩ := hview
  refine ⟨inner, toOption_eq_some.mp hnew, List.all_eq_true.mp hawaits, hbefore, ?_⟩
  intro bytes hbytes
  simp only [fixAckForms, List.mem_cons, List.not_mem_nil, or_false, reduceCtorEq, false_or] at hbytes
  simp only [fixAckForms, List.map_cons, List.map_nil, List.cons.injEq, and_true] at hafter
  rw [hbytes]
  exact hafter.2

/-- Received as a packet the acknowledgement goes to side 0, as bytes it does not. -/
theorem ack_forwarded_iff_fix : ∃ inner : RouterInner defaultSchema,
    RouterInner.new hostBuild = .ok inner ∧
    (∀ data ∈ fixAckForms, ForwardedExactly hostBuild (RouterState.behindFix inner)
      (RouterProgram.rxAck data (RouterState.behindFix inner)).1 fixAck 1 0 ↔
        data = .packet fixAck) := by
  obtain ⟨inner, hnew, hawaits, -⟩ := behindFix_awaits
  refine ⟨inner, hnew, fun data hdata => ?_⟩
  have hcalls : LocalCallsReturn hostBuild .gateway
      (RouterProgram.reportError hostBuild .gateway 0) fixAck := by
    intro bytes _ s what
    have hnone : RouterWorld.gateway.cfg.localHandlers (sortDedup fixAck.endpoints) = [] := by
      decide
    rw [hnone]
    simp [Program.forEach]
  have hiff := ack_forwarded_iff (ackInTransit_of_awaits hdata (hawaits data hdata))
    (fun _ t => .refl t) hcalls 0 false
  refine hiff.trans ⟨fun h => ?_, fun h => ⟨⟨_, h⟩, none, rfl⟩⟩
  obtain ⟨⟨pkt, rfl⟩, -⟩ := h
  simpa [fixAckForms] using hdata

/-- As bytes it is in transit like any other and is not forwarded. -/
theorem ack_dropped : ∃ (inner : RouterInner defaultSchema) (bytes : List UInt8),
    RouterInner.new hostBuild = .ok inner ∧
    AckInTransit hostBuild (RouterState.behindFix inner) (.serialized bytes) fixAck 1 0
      (gpsDecoded.packetId hostBuild) ∧
    ¬ForwardedExactly hostBuild (RouterState.behindFix inner)
      (RouterProgram.rxAck (.serialized bytes) (RouterState.behindFix inner)).1 fixAck 1 0 := by
  obtain ⟨inner, hnew, hawaits, hbefore, hafter⟩ := behindFix_awaits
  have hbytes : (.serialized (((serializePacket hostBuild fixAck).toOption).getD []) :
      RouterItem defaultSchema) ∈ fixAckForms := by simp [fixAckForms]
  refine ⟨inner, _, hnew, ackInTransit_of_awaits hbytes (hawaits _ hbytes), ?_⟩
  rintro ⟨data, -, hforwards⟩
  have hlength := congrArg List.length hforwards
  rw [hafter _ hbytes, List.length_append, hbefore] at hlength
  simp at hlength

end Sedsprintf
