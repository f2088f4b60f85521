import Sedsprintf.Guarantees.AckPath
import Sedsprintf.Guarantees.Fanout
import Sedsprintf.Router.ErrorPackets

/-!
# One packet in two forms at a router

`dispatch_rx_data` handles a packet and its bytes in two branches. The branch for bytes
decodes them only for a handler that takes packets, and acknowledges only what it decoded:
where all handlers take bytes, a reliable packet is delivered and not acknowledged. Where no
acknowledgement is due the branches differ in the error packets for handlers that fail, and in
nothing that becomes of the packet itself: it is handed to the same handlers and goes to the same
sides, as long as routing it does not depend on what error packets leave behind.
-/
namespace Sedsprintf

open Lib

section Forms
variable {B : Build} {S : Schema} {p : Packet S} {bytes : List UInt8}

/-- The bytes of a packet carry it. -/
theorem carries_of_serializePacket (hwf : p.WellFormed B) (hmem : p.InMemory B)
    (hsorted : p.endpoints.Pairwise (· < ·)) (hbytes : serializePacket B p = .ok bytes) :
    RouterItem.Carries B (.serialized bytes) p := by
  rw [serializePacket_eq_inner] at hbytes
  obtain ⟨rfl, hfew, hlen⟩ := serializePacketInner_eq_ok B hbytes
  have hdec := deserializePacket_frameBody B hwf hmem hfew (dataHeader_defaultHeader p.ty)
  rw [bitmapEndpoints_build_of_sorted hsorted] at hdec
  exact ⟨hlen, hdec⟩

end Forms

/-- The calls of local handlers so far: which, with what, and how they ended. -/
def RouterState.calls {S : Schema} (s : RouterState S) : List (Nat × RouterItem S × Bool) :=
  s.events.filterMap fun
    | .handled handler data ok => some (handler, data, ok)
    | _ => none

/-- The sides that `relay_send` follows behind a dispatch. -/
def relayedSides {S : Schema} (B : Build) (w : RouterWorld S) (src : Option Nat)
    (run : RouterState S × Outcome (Option (RouterItem S))) : Outcome (List Nat) :=
  match run with
  | (_, .error e) => .error e
  | (_, .ok none) => .ok []
  | (s, .ok (some data)) => (RouterProgram.remoteSidePlan B w data src s).2

/-- Two receptions of a packet that cannot be told apart by the handlers they called with it and
what they called them with, the acknowledgements they queued and the sides they forward it to. -/
structure SameReception {S : Schema} (B : Build) (w : RouterWorld S) (p : Packet S)
    (bytes : List UInt8) (src : Option Nat)
    (run run' : RouterState S × Outcome (Option (RouterItem S))) : Prop where
  calls : run.1.callsWith p bytes = run'.1.callsWith p bytes
  acks : run.1.acks = run'.1.acks
  sides : relayedSides B w src run = relayedSides B w src run'

/-- Callbacks leave the routing of packets from `src` alone, acknowledge nothing and hand the
packet to no handler. -/
structure RouterWorld.LeavesAlone {S : Schema} (w : RouterWorld S) (p : Packet S)
    (bytes : List UInt8) (src : Option Nat) : Prop where
  aside : ∀ callback s, RouterState.Aside src s (w.react callback s)
  calls : ∀ callback s, (w.react callback s).callsWith p bytes = s.callsWith p bytes

/-- Routing the packet comes to one plan, whatever error packets have left behind. -/
def RouterState.Rests {S : Schema} (B : Build) (w : RouterWorld S) (p : Packet S)
    (src : Option Nat) (s : RouterState S) : Prop :=
  ∀ s', RouterState.Aside src s s' →
    (RouterProgram.remoteSidePlan B w (.packet p) src s').2 =
      (RouterProgram.remoteSidePlan B w (.packet p) src s).2

/-- `dispatch_rx_data` owes the sender an end-to-end acknowledgement. -/
def RouterWorld.AckDue {S : Schema} (w : RouterWorld S) (p : Packet S) (src : Option Nat) : Prop :=
  src ≠ none ∧ w.cfg.localHandlers (sortDedup p.endpoints) ≠ [] ∧ S.isReliableType p.ty = true

section Branches
variable {B : Build} {S : Schema} {w : RouterWorld S} {report : Packet S → RouterProgram S Unit}
  {s : RouterState S} {p : Packet S} {bytes : List UInt8} {src : Option Nat}

/-- An application packet is neither discovery nor an acknowledgement. -/
theorem ordinary_of_application (hinternal : S.isInternalControlType p.ty = false) :
    S.isDiscoveryType p.ty = false ∧
      ¬(p.ty = S.reliableAck ∧ isEndToEndAckSender p.sender = true) := by
  simp only [Schema.isInternalControlType, Bool.or_eq_false_iff] at hinternal
  refine ⟨hinternal.2, ?_⟩
  rintro ⟨hty, -⟩
  simp [Schema.isReliableControlType, hty] at hinternal

/-- Both forms are routed alike. -/
theorem remoteSidePlan_eq_of_carries {data data' : RouterItem S} (h : data.Carries B p)
    (h' : data'.Carries B p) (hinternal : S.isInternalControlType p.ty = false) :
    RouterProgram.remoteSidePlan B w data src s = RouterProgram.remoteSidePlan B w data' src s := by
  obtain ⟨hdiscovery, hack⟩ := ordinary_of_application hinternal
  rw [RouterProgram.remoteSidePlan, RouterProgram.remoteSidePlan,
    RouterInner.remoteSidePlan_of_carries h hdiscovery hack,
    RouterInner.remoteSidePlan_of_carries h' hdiscovery hack]

/-- Without discovered routes the plan for a packet from a side stands. -/
theorem rests_of_noRoutes {side : Nat} (hroutes : s.inner.discoveryRoutes.isEmpty = true)
    (h : RouterItem.Carries B (.packet p) p) (hinternal : S.isInternalControlType p.ty = false) :
    (RouterProgram.remoteSidePlan B w (.packet p) (some side) s).1.Rests B w p (some side) := by
  obtain ⟨hdiscovery, hack⟩ := ordinary_of_application hinternal
  have hinner : (RouterProgram.remoteSidePlan B w (.packet p) (some side) s).1.inner = s.inner := by
    unfold RouterProgram.remoteSidePlan
    split
    · rfl
    · rfl
  exact fun s' haside => haside.remoteSidePlan_eq (by rwa [hinner]) h hdiscovery hack

theorem shouldRouteRemote_eq_of_carries {data data' : RouterItem S} (h : data.Carries B p)
    (h' : data'.Carries B p) (hinternal : S.isInternalControlType p.ty = false) :
    RouterProgram.shouldRouteRemote B w data src s =
      RouterProgram.shouldRouteRemote B w data' src s :=
  Program.bind_congr_apply (remoteSidePlan_eq_of_carries h h' hinternal) fun _ => rfl

/-- An application packet goes to the handlers. -/
theorem dispatchLocal_packet (h : RouterItem.Carries B (.packet p) p)
    (hinternal : S.isInternalControlType p.ty = false) :
    RouterProgram.dispatchLocal B w report (.packet p) src s =
      RouterProgram.deliverPacket B w report p src s := by
  simp only [Schema.isInternalControlType, Bool.or_eq_false_iff] at hinternal
  have hinner : s.inner.handleInternalReliablePacket B p src = (s.inner, .ok false) := by
    unfold RouterInner.handleInternalReliablePacket
    rw [if_neg (by simp [hinternal.1.1])]
  have hhandled : RouterProgram.onInner (fun st => st.handleInternalReliablePacket B p src) s =
      (s, .ok false) := by
    rw [RouterProgram.onInner, hinner]
  have hlearn : RouterProgram.learnDiscoveryPacket B w p src s = (s, .ok false) := by
    unfold RouterProgram.learnDiscoveryPacket
    split
    · rfl
    · rw [if_neg (by simp [hinternal.2])]
  simp only [RouterProgram.dispatchLocal, h.2, Program.of_ok_bind_apply]
  rw [Program.bind_apply_of_ok hhandled, if_neg (by simp), if_neg (by simp [hinternal.1.2]),
    Program.bind_apply_of_ok hlearn, if_neg (by simp)]

theorem dispatchLocal_serialized (h : RouterItem.Carries B (.serialized bytes) p)
    (hinternal : S.isInternalControlType p.ty = false) :
    RouterProgram.dispatchLocal B w report (.serialized bytes) src s =
      RouterProgram.deliverSerialized B w report bytes p.envelope src s := by
  simp only [Schema.isInternalControlType, Bool.or_eq_false_iff] at hinternal
  simp only [RouterProgram.dispatchLocal, h.peekEnvelope_eq, Program.of_ok_bind_apply,
    Packet.envelope, hinternal, Bool.false_eq_true, if_false]

section Decoded

/-- Bytes that are missing in front of the loop are made for the handler. -/
theorem callOnPacket_encoded {encoded : Option (List UInt8)}
    (hbytes : serializePacket B p = .ok bytes) (hencoded : ∀ d, encoded = some d → d = bytes)
    (h : EndpointHandler S × Nat) :
    RouterProgram.callOnPacket B w report p encoded h =
      RouterProgram.callOnPacket B w report p (some bytes) h := by
  obtain ⟨⟨endpoint, kind⟩, index⟩ := h
  cases encoded with
  | some d => rw [hencoded d rfl]
  | none =>
    cases kind with
    | packet => rfl
    | serialized =>
      simp only [RouterProgram.callOnPacket, hbytes]
      rfl

/-- Handed the packet, a handler is called alike from both branches. -/
theorem callOnBytes_some (env : TelemetryEnvelope S) (h : EndpointHandler S × Nat) :
    RouterProgram.callOnBytes B w report bytes env (some p) h =
      RouterProgram.callOnPacket B w report p (some bytes) h := by
  obtain ⟨⟨endpoint, kind⟩, index⟩ := h
  cases kind with
  | packet => rfl
  | serialized => rfl

theorem callAllOnBytes_some (env : TelemetryEnvelope S) (handlers : List (EndpointHandler S × Nat)) :
    RouterProgram.callAllOnBytes B w report RouterProgram.discard bytes env handlers (some p) =
      (do
        Program.forEach (fun h =>
          RouterProgram.discard (RouterProgram.callOnPacket B w report p (some bytes) h)) handlers
        pure (some p)) := by
  induction handlers with
  | nil => rfl
  | cons h rest ih =>
    have hdemand : RouterProgram.decodeOnDemand B bytes (some p) h = .ok (some p) := by
      unfold RouterProgram.decodeOnDemand
      split
      · rfl
      · rename_i hsome
        rw [hsome]
      · rename_i hnone
        cases hnone
    rw [RouterProgram.callAllOnBytes, hdemand, Program.forEach, Program.bind_assoc, ← ih,
      ← callOnBytes_some env]
    rfl

theorem acknowledgeDecoded_some :
    RouterProgram.acknowledgeDecoded B w p.envelope src (some p) =
      if src.isSome && !(w.cfg.localHandlers (sortDedup p.endpoints)).isEmpty &&
        S.isReliableType p.ty then RouterProgram.queueEndToEndReliableAck B w p
      else pure () := rfl

theorem exists_encodeFor (hbytes : serializePacket B p = .ok bytes) : ∃ encoded,
    RouterProgram.encodeFor B w (sortDedup p.endpoints) p = .ok encoded ∧
      ∀ d, encoded = some d → d = bytes := by
  unfold RouterProgram.encodeFor
  split
  · rw [hbytes]
    exact ⟨some bytes, rfl, fun d hd => (Option.some.inj hd).symm⟩
  · exact ⟨none, rfl, by simp⟩

/-- The branch for packets, whose handlers are called with the packet and its bytes. -/
theorem deliverPacket_eq (hbytes : serializePacket B p = .ok bytes) :
    RouterProgram.deliverPacket B w report p src =
      (do
        let remote ← RouterProgram.shouldRouteRemote B w (.packet p) src
        Program.forEach (fun h =>
          RouterProgram.discard (RouterProgram.callOnPacket B w report p (some bytes) h))
          (w.cfg.localHandlers (sortDedup p.endpoints))
        RouterProgram.acknowledgeDecoded B w p.envelope src (some p)
        pure (if remote then some (.packet p) else none)) := by
  obtain ⟨encoded, hencode, hencoded⟩ := exists_encodeFor (w := w) hbytes
  unfold RouterProgram.deliverPacket
  dsimp only
  rw [hencode]
  refine congrArg (RouterProgram.shouldRouteRemote B w (.packet p) src >>= ·)
    (funext fun remote => ?_)
  rw [Program.of_ok_bind, funext (callOnPacket_encoded hbytes hencoded)]
  refine congrArg (Program.forEach (fun h =>
    RouterProgram.discard (RouterProgram.callOnPacket B w report p (some bytes) h))
    (w.cfg.localHandlers (sortDedup p.endpoints)) >>= ·) (funext fun _ => ?_)
  rw [acknowledgeDecoded_some]
  split
  · rfl
  · rfl

/-- Where a handler takes packets the two branches run the same program. -/
theorem deliverSerialized_eq (h : RouterItem.Carries B (.packet p) p)
    (h' : RouterItem.Carries B (.serialized bytes) p)
    (hinternal : S.isInternalControlType p.ty = false)
    (hbytes : serializePacket B p = .ok bytes)
    (hhandler : p.endpoints.any w.cfg.endpointHasPacketHandler = true) :
    RouterProgram.deliverSerialized B w report bytes p.envelope src s =
      RouterProgram.deliverPacket B w report p src s := by
  have hdecode : RouterProgram.decodeFor B w p.envelope.endpoints bytes = .ok (some p) := by
    simp only [RouterProgram.decodeFor, Packet.envelope, hhandler, if_true,
      RouterProgram.decodeItem, h'.2, ok_bind, h.2, Except.map]
  rw [deliverPacket_eq hbytes, RouterProgram.deliverSerialized, hdecode, Program.of_ok_bind]
  refine Program.bind_congr_apply (shouldRouteRemote_eq_of_carries h' h hinternal) fun remote => ?_
  rw [callAllOnBytes_some, Program.bind_assoc]
  rfl

end Decoded

section Raw

/-- A handler that comes back with `Ok` is not told apart by what an error packet would have
been made from. -/
theorem withRetries_of_success {handler : Nat} {dest : S.DataEndpoint} {data input : RouterItem S}
    {t : RouterState S}
    (hok : (RouterProgram.retryHandler w handler input B.maxHandlerRetries 0 none t).2 =
      .ok (.ok ()))
    (pkt : Option (Packet S)) (env : Option (TelemetryEnvelope S)) :
    RouterProgram.withRetries B w report handler dest data input pkt env t =
      RouterProgram.record (.handled handler input true)
        (RouterProgram.retryHandler w handler input B.maxHandlerRetries 0 none t).1 := by
  have hrun : RouterProgram.retryHandler w handler input B.maxHandlerRetries 0 none t =
      ((RouterProgram.retryHandler w handler input B.maxHandlerRetries 0 none t).1, .ok (.ok ())) :=
    Prod.ext rfl hok
  rw [RouterProgram.withRetries, Program.bind_apply_of_ok hrun]

/-- Every handler for the packet takes bytes and returns `Ok` within its retries. -/
def RawHandlersSucceed (B : Build) (w : RouterWorld S) (bytes : List UInt8)
    (handlers : List (EndpointHandler S × Nat)) : Prop :=
  ∀ h ∈ handlers, h.1.handler = .serialized ∧
    ∀ t, (RouterProgram.retryHandler w h.2 (.serialized bytes) B.maxHandlerRetries 0 none t).2 =
      .ok (.ok ())

/-- Where all handlers take bytes, nothing is decoded on the way. -/
theorem callAllOnBytes_raw (env : TelemetryEnvelope S) {handlers : List (EndpointHandler S × Nat)}
    (hraw : ∀ h ∈ handlers, h.1.handler = .serialized) :
    RouterProgram.callAllOnBytes B w report RouterProgram.discard bytes env handlers none =
      (do
        Program.forEach (fun h =>
          RouterProgram.discard (RouterProgram.callOnBytes B w report bytes env none h)) handlers
        pure none) := by
  induction handlers with
  | nil => rfl
  | cons h rest ih =>
    have hdemand : RouterProgram.decodeOnDemand B bytes (none : Option (Packet S)) h = .ok none := by
      unfold RouterProgram.decodeOnDemand
      rw [hraw h List.mem_cons_self]
    rw [RouterProgram.callAllOnBytes, hdemand, Program.forEach, Program.bind_assoc,
      ← ih fun h hmem => hraw h (List.mem_cons_of_mem _ hmem)]
    rfl

theorem callAllOnBytes_of_success (env : TelemetryEnvelope S)
    {handlers : List (EndpointHandler S × Nat)} (hok : RawHandlersSucceed B w bytes handlers) :
    RouterProgram.callAllOnBytes B w report RouterProgram.discard bytes env handlers none =
      (do
        Program.forEach (fun h =>
          RouterProgram.discard (RouterProgram.callOnPacket B w report p (some bytes) h)) handlers
        pure none) := by
  rw [callAllOnBytes_raw env fun h hmem => (hok h hmem).1]
  refine congrArg (· >>= _) (Program.forEach_congr fun h hmem => ?_)
  obtain ⟨hkind, hanswer⟩ := hok h hmem
  obtain ⟨⟨endpoint, kind⟩, index⟩ := h
  obtain rfl : kind = .serialized := hkind
  refine congrArg RouterProgram.discard (funext fun t => ?_)
  exact (withRetries_of_success (hanswer t) none (some env)).trans
    (withRetries_of_success (hanswer t) (some p) none).symm

theorem ackDue_iff : w.AckDue p src ↔
    (src.isSome && !(w.cfg.localHandlers (sortDedup p.endpoints)).isEmpty &&
      S.isReliableType p.ty) = true := by
  simp [RouterWorld.AckDue, Option.isSome_iff_ne_none, and_assoc]

/-- The branches differ in the form of what they relay where no handler takes packets, all
succeed, and nothing is acknowledged. -/
theorem sameReception_of_raw (h : RouterItem.Carries B (.packet p) p)
    (h' : RouterItem.Carries B (.serialized bytes) p)
    (hinternal : S.isInternalControlType p.ty = false) (hbytes : serializePacket B p = .ok bytes)
    (hraw : p.endpoints.any w.cfg.endpointHasPacketHandler = false)
    (hok : RawHandlersSucceed B w bytes (w.cfg.localHandlers (sortDedup p.endpoints)))
    (hquiet : ¬w.AckDue p src) :
    SameReception B w p bytes src (RouterProgram.deliverPacket B w report p src s)
      (RouterProgram.deliverSerialized B w report bytes p.envelope src s) := by
  have hdecode : RouterProgram.decodeFor B w p.envelope.endpoints bytes = .ok none := by
    simp only [RouterProgram.decodeFor, Packet.envelope, hraw, Bool.false_eq_true, if_false]
  have hendpoints : p.envelope.endpoints = p.endpoints := rfl
  rw [deliverPacket_eq hbytes, RouterProgram.deliverSerialized, hdecode, Program.of_ok_bind,
    hendpoints]
  have hsame : RouterProgram.shouldRouteRemote B w (.serialized bytes) src s = _ :=
    shouldRouteRemote_eq_of_carries h' h hinternal
  cases hremote : RouterProgram.shouldRouteRemote B w (.packet p) src s with
  | mk t remote =>
    rw [hremote] at hsame
    cases remote with
    | error e =>
      rw [Program.bind_apply_of_error hremote, Program.bind_apply_of_error hsame]
      exact ⟨rfl, rfl, rfl⟩
    | ok remote =>
      rw [Program.bind_apply_of_ok hremote, Program.bind_apply_of_ok hsame]
      have hcalls := congrFun (@callAllOnBytes_of_success B S w report p bytes p.envelope _ hok) t
      cases hrun : Program.forEach (fun h =>
          RouterProgram.discard (RouterProgram.callOnPacket B w report p (some bytes) h))
          (w.cfg.localHandlers (sortDedup p.endpoints)) t with
      | mk t' result =>
        cases result with
        | error e =>
          rw [Program.bind_apply_of_error hrun] at hcalls
          rw [Program.bind_apply_of_error hrun, Program.bind_apply_of_error hcalls]
          exact ⟨rfl, rfl, rfl⟩
        | ok u =>
          rw [Program.bind_apply_of_ok hrun, Program.pure_apply] at hcalls
          rw [Program.bind_apply_of_ok hrun, Program.bind_apply_of_ok hcalls,
            acknowledgeDecoded_some, if_neg (mt ackDue_iff.mpr hquiet)]
          refine ⟨rfl, rfl, ?_⟩
          cases remote with
          | false => rfl
          | true => exact congrArg Prod.snd (remoteSidePlan_eq_of_carries h h' hinternal)

end Raw

section Unacknowledged

/-- Without a handler that takes packets every handler takes bytes. -/
theorem handler_of_raw (hraw : p.endpoints.any w.cfg.endpointHasPacketHandler = false)
    {h : EndpointHandler S × Nat} (hmem : h ∈ w.cfg.localHandlers (sortDedup p.endpoints)) :
    h.1.handler = .serialized := by
  simp only [RouterConfig.localHandlers, List.mem_flatMap, mem_sortDedup, List.mem_filter,
    beq_iff_eq] at hmem
  obtain ⟨dest, hdest, hhandler, rfl⟩ := hmem
  cases hkind : h.1.handler with
  | serialized => rfl
  | packet =>
    have hnone := List.any_eq_false.mp hraw _ hdest
    refine absurd ?_ hnone
    rw [RouterConfig.endpointHasPacketHandler, List.any_eq_true]
    exact ⟨h.1, (List.mem_zipIdx hhandler).2.2 ▸ List.getElem_mem _, by simp [hkind]⟩

theorem endpoint_of_localHandlers {h : EndpointHandler S × Nat}
    (hmem : h ∈ w.cfg.localHandlers (sortDedup p.endpoints)) : h.1.endpoint ∈ p.endpoints := by
  simp only [RouterConfig.localHandlers, List.mem_flatMap, mem_sortDedup, List.mem_filter,
    beq_iff_eq] at hmem
  obtain ⟨dest, hdest, -, rfl⟩ := hmem
  exact hdest

theorem acks_queueEndToEndReliableAck (t : RouterState S) :
    (RouterProgram.queueEndToEndReliableAck B w p t).1.acks = t.acks ++ [p.packetId B] := by
  rw [RouterProgram.queueEndToEndReliableAck, RouterProgram.record, Program.modify_bind_apply]
  simp [RouterProgram.onInner, RouterState.acks]

/-- The branch for packets over handlers that all take bytes. -/
theorem deliverPacket_raw (hbytes : serializePacket B p = .ok bytes)
    (hraw : p.endpoints.any w.cfg.endpointHasPacketHandler = false) :
    RouterProgram.deliverPacket B w report p src =
      (do
        let remote ← RouterProgram.shouldRouteRemote B w (.packet p) src
        RouterProgram.callAllRaw B w report bytes (some p) none
          (w.cfg.localHandlers (sortDedup p.endpoints))
        RouterProgram.acknowledgeDecoded B w p.envelope src (some p)
        pure (if remote then some (.packet p) else none)) := by
  rw [deliverPacket_eq hbytes]
  refine congrArg (RouterProgram.shouldRouteRemote B w (.packet p) src >>= ·)
    (funext fun remote => ?_)
  refine congrArg (· >>= _) (Program.forEach_congr fun h hmem => ?_)
  have hkind := handler_of_raw hraw hmem
  obtain ⟨⟨endpoint, kind⟩, index⟩ := h
  obtain rfl : kind = .serialized := hkind
  rfl

/-- The branch for bytes, which knows no packet. -/
theorem deliverSerialized_raw (hraw : p.endpoints.any w.cfg.endpointHasPacketHandler = false) :
    RouterProgram.deliverSerialized B w report bytes p.envelope src =
      (do
        let remote ← RouterProgram.shouldRouteRemote B w (.serialized bytes) src
        RouterProgram.callAllRaw B w report bytes none (some p.envelope)
          (w.cfg.localHandlers (sortDedup p.endpoints))
        pure (if remote then some (.serialized bytes) else none)) := by
  have hdecode : RouterProgram.decodeFor B w p.envelope.endpoints bytes = .ok none := by
    simp only [RouterProgram.decodeFor, Packet.envelope, hraw, Bool.false_eq_true, if_false]
  have hendpoints : p.envelope.endpoints = p.endpoints := rfl
  rw [RouterProgram.deliverSerialized, hdecode, Program.of_ok_bind, hendpoints,
    callAllOnBytes_raw p.envelope fun h hmem => handler_of_raw hraw hmem]
  refine congrArg (RouterProgram.shouldRouteRemote B w (.serialized bytes) src >>= ·)
    (funext fun remote => ?_)
  rw [Program.bind_assoc]
  refine congrArg (· >>= _) (Program.forEach_congr fun h hmem => ?_)
  have hkind := handler_of_raw hraw hmem
  obtain ⟨⟨endpoint, kind⟩, index⟩ := h
  obtain rfl : kind = .serialized := hkind
  rfl

/-- A packet that cannot be routed goes no further in either form. -/
theorem sameReception_of_unrouted {t : RouterState S} {e : Stop}
    (h : RouterItem.Carries B (.packet p) p) (h' : RouterItem.Carries B (.serialized bytes) p)
    (hinternal : S.isInternalControlType p.ty = false) (hbytes : serializePacket B p = .ok bytes)
    (hraw : p.endpoints.any w.cfg.endpointHasPacketHandler = false)
    (hplan : RouterProgram.remoteSidePlan B w (.packet p) src s = (t, .error e)) :
    SameReception B w p bytes src (RouterProgram.deliverPacket B w report p src s)
      (RouterProgram.deliverSerialized B w report bytes p.envelope src s) := by
  have hremote : RouterProgram.shouldRouteRemote B w (.packet p) src s = (t, .error e) := by
    rw [RouterProgram.shouldRouteRemote, Program.bind_apply_of_error hplan]
  have hremote' := (shouldRouteRemote_eq_of_carries h' h hinternal).trans hremote
  rw [deliverPacket_raw hbytes hraw, deliverSerialized_raw hraw, Program.bind_apply_of_error hremote,
    Program.bind_apply_of_error hremote']
  exact ⟨rfl, rfl, rfl⟩

variable {depth : Nat} (halone : w.LeavesAlone p bytes src)
  (hbytes : serializePacket B p = .ok bytes)
include halone hbytes

/-- The handlers that come back have been called once each, and left the rest aside. -/
theorem run_callAllRaw (pkt : Option (Packet S)) (env : Option (TelemetryEnvelope S))
    {t : RouterState S}
    (hpanic : ∀ what, (RouterProgram.callAllRaw B w (RouterProgram.reportError B w depth) bytes pkt
      env (w.cfg.localHandlers (sortDedup p.endpoints)) t).2 ≠ .error (.panic what)) :
    ∃ t', RouterProgram.callAllRaw B w (RouterProgram.reportError B w depth) bytes pkt env
        (w.cfg.localHandlers (sortDedup p.endpoints)) t = (t', .ok ()) ∧
      RouterState.Aside src t t' ∧
      t'.callsWith p bytes = t.callsWith p bytes ++
        (w.cfg.localHandlers (sortDedup p.endpoints)).map fun h => (h.2, .serialized bytes) := by
  have haside : RouterState.Aside src t (RouterProgram.callAllRaw B w
      (RouterProgram.reportError B w depth) bytes pkt env
      (w.cfg.localHandlers (sortDedup p.endpoints)) t).1 := by
    have hguards := (Guards.aside (B := B) halone.aside depth t).locals
    refine Program.Keeps.forEach (fun h _ => ?_) t (.refl t)
    exact (RouterProgram.withRetries_triple hguards _ _ _ _ _ _).keeps.attempt
  have hcalls := (RouterProgram.callsWith_callAllRaw halone.calls hbytes
    (fun h (hmem : h ∈ w.cfg.localHandlers (sortDedup p.endpoints)) => endpoint_of_localHandlers hmem)
    depth pkt env _ t rfl).1
  cases hrun : RouterProgram.callAllRaw B w (RouterProgram.reportError B w depth) bytes pkt env
      (w.cfg.localHandlers (sortDedup p.endpoints)) t with
  | mk t' result =>
    rw [hrun] at hpanic haside hcalls
    cases result with
    | error stop =>
      cases stop with
      | err e =>
        exact absurd (congrArg Prod.snd hrun) (RouterProgram.callAllRaw_ne_err pkt env _ t e)
      | panic what => exact absurd rfl (hpanic what)
    | ok a => exact ⟨t', rfl, haside, hcalls () rfl⟩

/-- Where all handlers take bytes the acknowledgement makes the difference. -/
theorem sameReception_iff_of_raw {t : RouterState S} {sides : List Nat}
    (h : RouterItem.Carries B (.packet p) p) (h' : RouterItem.Carries B (.serialized bytes) p)
    (hinternal : S.isInternalControlType p.ty = false)
    (hraw : p.endpoints.any w.cfg.endpointHasPacketHandler = false)
    (hplan : RouterProgram.remoteSidePlan B w (.packet p) src s = (t, .ok sides))
    (hrests : t.Rests B w p src)
    (hreturns : ∀ what, (RouterProgram.deliverPacket B w (RouterProgram.reportError B w depth) p src
      s).2 ≠ .error (.panic what))
    (hreturns' : ∀ what, (RouterProgram.deliverSerialized B w (RouterProgram.reportError B w depth)
      bytes p.envelope src s).2 ≠ .error (.panic what)) :
    SameReception B w p bytes src
        (RouterProgram.deliverPacket B w (RouterProgram.reportError B w depth) p src s)
        (RouterProgram.deliverSerialized B w (RouterProgram.reportError B w depth) bytes p.envelope
          src s) ↔
      ¬w.AckDue p src := by
  have hremote : RouterProgram.shouldRouteRemote B w (.packet p) src s = (t, .ok !sides.isEmpty) := by
    rw [RouterProgram.shouldRouteRemote, Program.bind_apply_of_ok hplan]
    rfl
  have hremote' := (shouldRouteRemote_eq_of_carries h' h hinternal).trans hremote
  rw [deliverPacket_raw hbytes hraw, Program.bind_apply_of_ok hremote] at hreturns ⊢
  rw [deliverSerialized_raw hraw, Program.bind_apply_of_ok hremote'] at hreturns' ⊢
  obtain ⟨t₁, hrun₁, haside₁, hcalls₁⟩ := run_callAllRaw halone hbytes (some p) none
    fun what hpanic => hreturns what (Program.snd_bind_of_error hpanic)
  obtain ⟨t₂, hrun₂, haside₂, hcalls₂⟩ := run_callAllRaw halone hbytes none (some p.envelope)
    fun what hpanic => hreturns' what (Program.snd_bind_of_error hpanic)
  rw [Program.bind_apply_of_ok hrun₁, Program.bind_apply_of_ok hrun₂, acknowledgeDecoded_some,
    Program.pure_apply, ackDue_iff]
  split
  · rename_i hdue
    refine iff_of_false (fun hsame => ?_) (not_not_intro hdue)
    have hacks := hsame.acks
    rw [Program.fst_bind_pure, acks_queueEndToEndReliableAck, haside₁.acks, haside₂.acks] at hacks
    simp at hacks
  · rename_i hdue
    refine iff_of_true ⟨hcalls₁.trans hcalls₂.symm, haside₁.acks.trans haside₂.acks.symm, ?_⟩ hdue
    cases sides with
    | nil => rfl
    | cons side rest =>
      have hboth := (hrests t₁ haside₁).trans (hrests t₂ haside₂).symm
      rw [remoteSidePlan_eq_of_carries (s := t₂) h h' hinternal] at hboth
      exact hboth

end Unacknowledged

end Branches

/-- A gateway with one handler of its own, for the radio. -/
def RouterConfig.radio (kind : EndpointHandlerFn) : RouterConfig defaultSchema where
  handlers := [⟨1, kind⟩]
  reliableEnabled := true
  sender := "gw"
  external := by
    cases kind with
    | packet => decide
    | serialized => decide

def RouterWorld.radio (kind : EndpointHandlerFn) : RouterWorld defaultSchema :=
  .quiet (.radio kind) 0 16

/-- The handler takes bytes, and none of them. -/
def RouterWorld.radioFull : RouterWorld defaultSchema :=
  { RouterWorld.radio .serialized with answer := fun _ _ _ _ => .error (.handlerError "full") }

/-- A packet on side 0 of two; an error packet may be one call deep. -/
def RouterProgram.rxRadio (w : RouterWorld defaultSchema) (data : RouterItem defaultSchema)
    (inner : RouterInner defaultSchema) :
    RouterState defaultSchema × Outcome (Option (RouterItem defaultSchema)) :=
  dispatchLocal hostBuild w (reportError hostBuild w 1) data (some 0) ⟨inner.twoSided, .empty, []⟩

def gpsBytes : List UInt8 := ((serializePacket hostBuild gpsDecoded).toOption).getD []

def batteryBytes : List UInt8 := ((serializePacket hostBuild batteryPacket).toOption).getD []

theorem serializePacket_gps : serializePacket hostBuild gpsDecoded = .ok gpsBytes := by
  refine toOption_eq_some.mp ?_
  decide +kernel

theorem serializePacket_battery : serializePacket hostBuild batteryPacket = .ok batteryBytes := by
  refine toOption_eq_some.mp ?_
  decide +kernel

theorem wellFormed_gps : gpsDecoded.WellFormed hostBuild := by
  have hnew : Packet.new hostBuild gpsDecoded.ty gpsDecoded.endpoints gpsDecoded.sender
      gpsDecoded.timestamp gpsDecoded.payload.asSlice = .ok gpsDecoded := by decide
  exact Packet.wellFormed_of_new hostBuild hnew

theorem wellFormed_battery : batteryPacket.WellFormed hostBuild := by
  have hnew : Packet.new hostBuild batteryPacket.ty batteryPacket.endpoints batteryPacket.sender
      batteryPacket.timestamp batteryPacket.payload.asSlice = .ok batteryPacket := by decide
  exact Packet.wellFormed_of_new hostBuild hnew

end Sedsprintf
