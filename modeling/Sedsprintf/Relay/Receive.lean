import Sedsprintf.Relay.System
import Sedsprintf.Receive

/-!
# The relay's receive path

src/relay.rs:1113-1184, 2189-2208, 2627-2638 and 2675-2912. It peeks every serialized
item, computes a released frame's priority before it looks for a duplicate, and may
dispatch a duplicate all the same. Learning and forwarding are one function of the
environment, and so is the routing question behind a duplicate.
-/
namespace Sedsprintf

open Lib

/-- What a receive call reads besides the state. The clock is read once. -/
structure RelayEnv (S : Schema) where
  now : UInt64
  /-- Whether a side chosen for the item has several live announcers. -/
  multipleAnnouncersAhead : RelayInner S → RelayRxItem S → Outcome Bool
  /-- `dispatch_relay_rx_item` behind the reliable control. -/
  deliver : RelayInner S → RelayRxItem S → RelayInner S × Outcome Unit

/-- A dispatch that takes everything. -/
def RelayEnv.still {S : Schema} : RelayEnv S := ⟨0, fun _ _ => .ok false, fun st _ => (st, .ok ())⟩

namespace RelayInner
variable (B : Build) {S : Schema} (env : RelayEnv S)

def ensureSideIngressEnabled (st : RelayInner S) (side : Nat) : Outcome Unit := do
  let s ← sideRef "relay: invalid side id" st.sides side
  if s.opts.ingressEnabled then .ok ()
  else fail (.handlerError "relay: ingress disabled for side id")

/-- `queue_reliable_ack`, `queue_reliable_partial_ack` and
`queue_reliable_packet_request`; every relay signs as `RELAY`. -/
def queueReliableControl (st : RelayInner S) (control : S.DataType) (key : StreamKey S)
    (seq : UInt32) : RelayInner S × Outcome Unit :=
  match reliableControlPacket B "RELAY" env.now control key.ty seq with
  | .error e => (st, .error e)
  | .ok pkt =>
    match itemPriority B (.packet pkt) with
    | .error e => (st, .error e)
    | .ok priority => st.pushTx B ⟨none, key.side, .packet pkt, priority⟩

section Dispatch

/-- A reliable control packet at `dispatch_relay_rx_item`. An end-to-end
acknowledgement is forwarded like data; the ids it completes are left out. -/
def dispatchControl (st : RelayInner S) (item : RelayRxItem S) (pkt : Packet S) :
    RelayInner S × Outcome Unit :=
  match endToEndAck pkt with
  | some _ => env.deliver st { item with data := .packet pkt }
  | none =>
    match reliableControl B pkt with
    | .error e => (st, .error e)
    | .ok (ty, seq) =>
      let key : StreamKey S := ⟨item.src, ty⟩
      if pkt.ty = S.reliableAck then
        ({ st with reliableTx := st.reliableTx.handleReliableAck key seq }, .ok ())
      else if pkt.ty = S.reliablePartialAck then
        ({ st with reliableTx := st.reliableTx.handleReliablePartialAck key seq }, .ok ())
      else st.queueReliableRetransmit B key seq

/-- `dispatch_relay_rx_item`. -/
def dispatchRelayRxItem (st : RelayInner S) (item : RelayRxItem S) : RelayInner S × Outcome Unit :=
  match item.data with
  | .packet pkt =>
    if S.isReliableControlType pkt.ty then st.dispatchControl B env item pkt
    else env.deliver st item
  | .serialized bytes =>
    match peekEnvelope B S bytes with
    | .error e => (st, .error e)
    | .ok envelope =>
      if S.isReliableControlType envelope.ty then
        match deserializePacket B S bytes with
        | .error e => (st, .error e)
        | .ok pkt =>
          if S.isReliableControlType pkt.ty then st.dispatchControl B env item pkt
          else env.deliver st { item with data := .packet pkt }
      else env.deliver st item

/-- The type in `item_route_info`. -/
def itemType : RouterItem S → Outcome S.DataType
  | .packet pkt => .ok pkt.ty
  | .serialized bytes => do
    let envelope ← peekEnvelope B S bytes
    .ok envelope.ty

/-- `should_forward_duplicate_reliable_item`. -/
def shouldForwardDuplicateReliableItem (st : RelayInner S) (item : RelayRxItem S) : Outcome Bool := do
  let ty ← itemType B item.data
  if S.isReliableType ty && !S.isReliableControlType ty then env.multipleAnnouncersAhead st item
  else .ok false

/-- Deduplication with that exception: whether the item is to be skipped. -/
def skipsItem (st : RelayInner S) (item : RelayRxItem S) : RelayInner S × Outcome Bool :=
  match st.isDuplicatePkt B item.data with
  | (st, .error e) => (st, .error e)
  | (st, .ok false) => (st, .ok false)
  | (st, .ok true) => (st, (st.shouldForwardDuplicateReliableItem B env item).map fun forward => !forward)

end Dispatch

section Receive

def receiver : HopReceiver S (RelayInner S) where
  expectedSeq st key := (st.reliableRx.at key).expectedSeq
  openRx st key := { st with reliableRx := st.reliableRx.insert key (st.reliableRx.at key) }
  acceptOrdered := acceptOrdered B
  queueControl := queueReliableControl B env

/-- Whether hop reliability is on for a side. -/
def hopReliable (st : RelayInner S) (side : Nat) (s : Side) : Bool :=
  s.opts.reliableEnabled && !sideHasMultipleAnnouncers st.discoveryRoutes side env.now

/-- The hop part of `process_rx_queue_item`: the buffered frames released behind the
item, or `none` where the call ends there. -/
def receiveHop (st : RelayInner S) (item : RelayRxItem S) :
    RelayInner S × Outcome (Option (List (List UInt8))) :=
  match item.data with
  | .packet _ => (st, .ok (some []))
  | .serialized bytes =>
    match sideRef "relay: invalid side id" st.sides item.src with
    | .error e => (st, .error e)
    | .ok s =>
      let hop := st.hopReliable env item.src s && s.txHandler == .serialized
      match peekFrameInfo B S bytes with
      | .ok frame =>
        if hop then (receiver B env).acceptFrame st item.src frame bytes else (st, .ok (some []))
      | .error e =>
        if e = .err (.deserialize "crc32 mismatch") ∧ hop = true then
          match peekFrameInfoUnchecked B S bytes with
          | .error (.panic what) => (st, panics what)
          | .error (.err _) => (st, .error e)
          | .ok frame =>
            let (st, result) := (receiver B env).requestCorrupted st item.src frame
            (st, result.map fun _ => none)
        else (st, .error e)

/-- The loop of `process_rx_queue_item` over the released frames. -/
def dispatchReleased (src : Nat) : RelayInner S → List (List UInt8) → Received S (RelayInner S)
  | st, [] => .stopped st (.ok ())
  | st, bytes :: rest =>
    let data : RouterItem S := .serialized bytes
    match itemPriority B data with
    | .error e => .stopped st (.error e)
    | .ok priority =>
      let item : RelayRxItem S := ⟨src, data, priority⟩
      match st.skipsItem B env item with
      | (st, .error e) => .stopped st (.error e)
      | (st, .ok true) => (dispatchReleased src st rest).behind data .known
      | (st, .ok false) =>
        match st.dispatchRelayRxItem B env item with
        | (st, .error e) => (Received.stopped st (.error e)).behind data .dispatched
        | (st, .ok ()) => (dispatchReleased src st rest).behind data .dispatched

/-- `process_rx_queue_item` from the deduplication on. -/
def handOver (st : RelayInner S) (item : RelayRxItem S) (released : List (List UInt8)) :
    Received S (RelayInner S) :=
  match st.skipsItem B env item with
  | (st, .error e) => .stopped st (.error e)
  | (st, .ok true) => (Received.stopped st (.ok ())).behind item.data .known
  | (st, .ok false) =>
    match st.dispatchRelayRxItem B env item with
    | (st, .error e) => (Received.stopped st (.error e)).behind item.data .dispatched
    | (st, .ok ()) => (st.dispatchReleased B env item.src released).behind item.data .dispatched

/-- The checks in front of the hop part. -/
def admitItem (st : RelayInner S) (item : RelayRxItem S) : Outcome Unit := do
  st.ensureSideIngressEnabled item.src
  let _ ← returnRouteId B item.data
  .ok ()

def processRxQueueItem (st : RelayInner S) (item : RelayRxItem S) : Received S (RelayInner S) :=
  match st.admitItem B item with
  | .error e => .stopped st (.error e)
  | .ok () =>
    match st.receiveHop B env item with
    | (st, .error e) => .stopped st (.error e)
    | (st, .ok none) => .stopped st (.ok ())
    | (st, .ok (some released)) => st.handOver B env item released

def rxSerializedFromSide (st : RelayInner S) (src : Nat) (bytes : List UInt8) :
    RelayInner S × Outcome Unit :=
  match st.ensureSideIngressEnabled src with
  | .error e => (st, .error e)
  | .ok () =>
    let data : RouterItem S := .serialized bytes
    match itemPriority B data with
    | .error e => (st, .error e)
    | .ok priority => st.pushRx B ⟨src, data, priority⟩

/-- The loop of `process_rx_queue`, for as many turns as `fuel`. -/
def processRxQueue : (fuel : Nat) → RelayInner S → RelayInner S × Outcome Unit
  | 0, st => (st, .ok ())
  | fuel + 1, st =>
    match st.rxQueue.popFront (RelayRxItem.byteCost B) with
    | none => (st, .ok ())
    | some (item, rest) =>
      match ({ st with rxQueue := rest } : RelayInner S).processRxQueueItem B env item with
      | ⟨inner, _, .error e⟩ => (inner, .error e)
      | ⟨inner, _, .ok ()⟩ => processRxQueue fuel inner

end Receive

section Dedupe
variable {B : Build} {S : Schema} {st : RelayInner S} {data : RouterItem S}

theorem isDuplicatePkt_of_mem {id : UInt64} (hhash : getHash B data = .ok id)
    (hmem : id ∈ st.recentRx.q) : st.isDuplicatePkt B data = (st, .ok true) := by
  simp only [isDuplicatePkt, hhash, if_pos hmem]

theorem isDuplicatePkt_of_not_mem {id : UInt64} (hb : st.Budgeted B)
    (hhash : getHash B data = .ok id) (hnew : id ∉ st.recentRx.q) :
    (st.isDuplicatePkt B data).2 = .ok false ↔ B.RecordsIds := by
  have hok := @Stores.pushRecentRx_eq_ok_iff _ _ S B 0 (RelayQueues.set B) st.stores hb id
  rw [← hok]
  simp only [isDuplicatePkt, hhash, if_neg hnew, pushRecentRx]
  generalize Stores.pushRecentRx B 0 (RelayQueues.set B) st.stores id = r
  obtain ⟨stores, e | ⟨⟨⟩⟩⟩ := r
  · simp
  · simp

/-- What the check answers when it is not "known". -/
theorem isDuplicatePkt_ne_true {id : UInt64} (hhash : getHash B data = .ok id)
    (hnew : id ∉ st.recentRx.q) : (st.isDuplicatePkt B data).2 ≠ .ok true := by
  simp only [isDuplicatePkt, hhash, if_neg hnew]
  generalize st.pushRecentRx B id = r
  obtain ⟨st', e | ⟨⟨⟩⟩⟩ := r
  · simp
  · simp

/-- The check comes back with an answer. -/
theorem isDuplicatePkt_answers_iff (hb : st.Budgeted B) :
    (∃ known, (st.isDuplicatePkt B data).2 = .ok known) ↔
      ∃ id, getHash B data = .ok id ∧ (id ∈ st.recentRx.q ∨ B.RecordsIds) := by
  constructor
  · rintro ⟨known, hanswer⟩
    cases hhash : getHash B data with
    | error e =>
      simp only [isDuplicatePkt, hhash] at hanswer
      cases hanswer
    | ok id =>
      refine ⟨id, rfl, ?_⟩
      by_cases hmem : id ∈ st.recentRx.q
      · exact .inl hmem
      · cases known with
        | true => exact absurd hanswer (isDuplicatePkt_ne_true hhash hmem)
        | false => exact .inr ((isDuplicatePkt_of_not_mem hb hhash hmem).mp hanswer)
  · rintro ⟨id, hhash, hknown⟩
    by_cases hmem : id ∈ st.recentRx.q
    · exact ⟨true, by rw [isDuplicatePkt_of_mem hhash hmem]⟩
    · exact ⟨false, (isDuplicatePkt_of_not_mem hb hhash hmem).mpr (hknown.resolve_left hmem)⟩

end Dedupe

section HopControls
variable {B : Build} {S : Schema} {env : RelayEnv S} {st : RelayInner S} {data : RouterItem S}
  {pkt : Packet S} {ty : S.DataType} {seq : UInt32} {src : Nat} {priority : UInt8}

theorem getHash_of_control (h : HopControl B data pkt ty seq) : ∃ id, getHash B data = .ok id := by
  cases data with
  | packet p => exact ⟨_, rfl⟩
  | serialized bytes =>
    refine ⟨pkt.identity 8, ?_⟩
    simp only [getHash, reliableSeq, h.peekFrameInfo_eq, ok_bind, h.packetIdFromWire_eq]

/-- Control frames pass the hop part untouched. -/
theorem receiveHop_of_control (h : HopControl B data pkt ty seq) {s : Side}
    (hside : st.sides[src]?.join = some s) :
    st.receiveHop B env ⟨src, data, priority⟩ = (st, .ok (some [])) := by
  cases data with
  | packet p => rfl
  | serialized bytes =>
    simp only [receiveHop, sideRef, hside, okOr, h.peekFrameInfo_eq, HopReceiver.acceptFrame]
    split
    · rfl
    · rfl

/-- A known control packet is never forwarded. -/
theorem shouldForwardDuplicate_of_control (h : HopControl B data pkt ty seq) :
    st.shouldForwardDuplicateReliableItem B env ⟨src, data, priority⟩ = .ok false := by
  cases data with
  | packet p =>
    obtain ⟨rfl, -⟩ := h.carries
    simp [shouldForwardDuplicateReliableItem, itemType, h.not_reliable]
  | serialized bytes =>
    have hty : S.isReliableType pkt.envelope.ty = false := h.not_reliable
    simp [shouldForwardDuplicateReliableItem, itemType, h.peekEnvelope_eq, hty]

theorem dispatchControl_of_control (h : HopControl B data pkt ty seq) (item : RelayRxItem S) :
    (st.dispatchControl B env item pkt).1.reliableTx =
        st.reliableTx.update ⟨item.src, ty⟩ (controlUpdate S pkt.ty ty seq) ∧
      (st.Budgeted B → (st.dispatchControl B env item pkt).1.Budgeted B) := by
  simp only [dispatchControl, h.hop, h.content]
  split
  · rename_i hack
    rw [controlUpdate_of_ack hack]
    exact ⟨rfl, fun hb => hb.congr rfl rfl⟩
  · rename_i hnack
    split
    · rename_i hpart
      rw [controlUpdate_of_partialAck hnack hpart]
      exact ⟨rfl, fun hb => hb.congr rfl rfl⟩
    · rename_i hnpart
      rw [controlUpdate_of_request hnack hnpart]
      exact ⟨@HopNode.queueReliableRetransmit_streams S _ (hop B) st ⟨item.src, ty⟩ seq,
        (@HopNode.closed_sane S _ (hop B)).queueReliableRetransmit ⟨item.src, ty⟩ seq⟩

theorem dispatchRelayRxItem_of_control (h : HopControl B data pkt ty seq) :
    st.dispatchRelayRxItem B env ⟨src, data, priority⟩ =
      st.dispatchControl B env ⟨src, data, priority⟩ pkt := by
  cases data with
  | packet p =>
    obtain ⟨rfl, -⟩ := h.carries
    simp only [dispatchRelayRxItem, h.control, if_true]
  | serialized bytes =>
    obtain ⟨-, hdec⟩ := h.carries
    have hcontrol : S.isReliableControlType pkt.envelope.ty = true := h.control
    simp only [dispatchRelayRxItem, h.peekEnvelope_eq, hcontrol, if_true, hdec, h.control]

/-- A fresh item with nothing released behind it leaves what its dispatch leaves. -/
theorem handOver_inner_of_fresh {st' : RelayInner S} {item : RelayRxItem S}
    (h : st.isDuplicatePkt B item.data = (st', .ok false)) :
    (st.handOver B env item []).inner = (st'.dispatchRelayRxItem B env item).1 := by
  simp only [handOver, skipsItem, h]
  generalize st'.dispatchRelayRxItem B env item = r
  obtain ⟨st'', e | ⟨⟨⟩⟩⟩ := r
  · rfl
  · rfl

/-- A control packet from an open side takes effect unless its id is known, or there is
nothing to update. -/
theorem processRxQueueItem_of_control (h : HopControl B data pkt ty seq) (hb : st.Budgeted B)
    (hopen : st.ensureSideIngressEnabled src = .ok ()) {id : UInt64}
    (hhash : getHash B data = .ok id) :
    (st.processRxQueueItem B env ⟨src, data, priority⟩).inner.Budgeted B ∧
      (st.reliableTx.TookEffect (st.processRxQueueItem B env ⟨src, data, priority⟩).inner.reliableTx
          pkt.ty ⟨src, ty⟩ seq ↔
        (id ∉ st.recentRx.q ∧ B.RecordsIds) ∨
          controlUpdate S pkt.ty ty seq (st.reliableTx.at ⟨src, ty⟩) = st.reliableTx.at ⟨src, ty⟩) := by
  obtain ⟨s, hside, -⟩ := bind_eq_ok.mp hopen
  have hentry : st.admitItem B ⟨src, data, priority⟩ = .ok () := by
    simp only [admitItem, hopen, h.returnRouteId_eq, ok_bind]
  have hhop := @receiveHop_of_control B S env st data pkt ty seq src priority h s
    (okOr_eq_ok.mp hside)
  simp only [processRxQueueItem, hentry, hhop]
  by_cases hmem : id ∈ st.recentRx.q
  · simp only [handOver, skipsItem, isDuplicatePkt_of_mem hhash hmem,
      shouldForwardDuplicate_of_control h, Except.map, Bool.not_false, Received.stopped,
      Received.behind]
    refine ⟨hb, TxStreams.tookEffect_self.trans ?_⟩
    simp [hmem]
  · have hfresh := isDuplicatePkt_of_not_mem hb hhash hmem
    have hnot := @isDuplicatePkt_ne_true B S st data id hhash hmem
    have hkeeps := (st.isDuplicatePkt_keeps (B := B) data).1
    cases hdup : st.isDuplicatePkt B data with
    | mk st' answer =>
      rw [hdup] at hfresh hnot hkeeps
      cases answer with
      | error e =>
        simp only [handOver, skipsItem, hdup, Received.stopped]
        refine ⟨hkeeps.budgeted hb, ?_⟩
        have hunfit : ¬B.RecordsIds := fun hfit => by
          cases hfresh.mpr hfit
        rw [hkeeps.reliableTx, TxStreams.tookEffect_self]
        tauto
      | ok known =>
        cases known with
        | true => exact absurd rfl hnot
        | false =>
          have heffect := @dispatchControl_of_control B S env st' data pkt ty seq h
            ⟨src, data, priority⟩
          rw [handOver_inner_of_fresh hdup, dispatchRelayRxItem_of_control h]
          refine ⟨heffect.2 (hkeeps.budgeted hb), iff_of_true ?_ (.inl ⟨hmem, hfresh.mp rfl⟩)⟩
          rw [heffect.1, hkeeps.reliableTx]
          exact TxStreams.tookEffect_update

end HopControls
end RelayInner
end Sedsprintf
