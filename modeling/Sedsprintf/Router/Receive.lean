import Sedsprintf.Router.System
import Sedsprintf.Receive

/-!
# The router's receive path

src/router.rs:1215-1226, 1684-1694, 2572-2639, 4337-4359, 4626-4662, 4805-5077 and
5687-5699, with the branches of `dispatch_rx_data` for reliable control. What else it
does with an item (time sync, discovery, local handlers, forwarding) is one function
of the environment.
-/
namespace Sedsprintf

open Lib

/-- What a receive call reads besides the state. The clock is read once. -/
structure RouterEnv (S : Schema) where
  sender : String
  /-- `cfg.reliable_enabled()`. -/
  reliable : Bool
  now : UInt64
  /-- `packet_timestamp_ms`. -/
  timestamp : UInt64
  packetHasLocalHandler : Packet S → Bool
  /-- The rest of `dispatch_rx_data`. -/
  deliver : RouterInner S → RouterRxItem S → RouterInner S × Outcome Unit

/-- No handler of its own, and a dispatch that takes everything. -/
def RouterEnv.named {S : Schema} (sender : String) : RouterEnv S :=
  ⟨sender, true, 0, 0, fun _ => false, fun st _ => (st, .ok ())⟩

/-- The router with its interrupt queue. -/
structure Router (S : Schema) where
  inner : RouterInner S
  isrRxQueue : BoundedDeque (RouterRxItem S)

namespace RouterInner
variable (B : Build) {S : Schema} (env : RouterEnv S)

def ensureSideIngressEnabled (st : RouterInner S) (side : Nat) : Outcome Unit := do
  let s ← sideRef "router: invalid side id" st.sides side
  if s.opts.ingressEnabled then .ok ()
  else fail (.handlerError "router: ingress disabled for side id")

section Control

/-- `queue_reliable_ack`, `queue_reliable_partial_ack` and
`queue_reliable_packet_request`. -/
def queueReliableControl (st : RouterInner S) (control : S.DataType) (key : StreamKey S)
    (seq : UInt32) : RouterInner S × Outcome Unit :=
  match reliableControlPacket B env.sender env.timestamp control key.ty seq with
  | .error e => (st, .error e)
  | .ok pkt => st.pushTransmit B ⟨.toSide none key.side (.packet pkt), true, S.messagePriority control⟩

def queueEndToEndReliableAck (st : RouterInner S) (pkt : Packet S) : RouterInner S × Outcome Unit :=
  match Packet.new B S.reliableAck (S.getMessageMeta S.reliableAck).endpoints
      (endToEndAckPrefix ++ env.sender) env.timestamp
      (encodeEndToEndReliableAck (pkt.packetId B)) with
  | .error e => (st, .error e)
  | .ok ack => st.txQueueItemWithFlags B (.broadcast (.packet ack)) true

/-- `handle_internal_reliable_packet`. -/
def handleInternalReliablePacket (st : RouterInner S) (pkt : Packet S) (src : Option Nat) :
    RouterInner S × Outcome Bool :=
  if S.isReliableControlType pkt.ty then
    match src with
    | none => (st, .ok false)
    | some side =>
      match endToEndAck pkt with
      | some packetId =>
        (st.handleEndToEndAck packetId (decodeEndToEndAckSenderHash pkt.sender),
          .ok (decide (packetId ∈ st.endToEndReliableTx)))
      | none =>
        match reliableControl B pkt with
        | .error e => (st, .error e)
        | .ok (ty, seq) =>
          let key : StreamKey S := ⟨side, ty⟩
          if pkt.ty = S.reliableAck then
            ({ st with reliableTx := st.reliableTx.handleReliableAck key seq }, .ok true)
          else if pkt.ty = S.reliablePartialAck then
            ({ st with reliableTx := st.reliableTx.handleReliablePartialAck key seq }, .ok true)
          else
            let (st, result) := st.queueReliableRetransmit B key seq
            (st, result.map fun _ => true)
  else (st, .ok false)

end Control

section Receive

/-- `dispatch_rx_data`. -/
def dispatchRxData (st : RouterInner S) (item : RouterRxItem S) : RouterInner S × Outcome Unit :=
  match item.data with
  | .packet pkt =>
    match pkt.validate B with
    | .error e => (st, .error e)
    | .ok () =>
      match st.handleInternalReliablePacket B pkt item.src with
      | (st, .error e) => (st, .error e)
      | (st, .ok true) => (st, .ok ())
      | (st, .ok false) => env.deliver st item
  | .serialized bytes =>
    match peekEnvelope B S bytes with
    | .error e => (st, .error e)
    | .ok envelope =>
      if S.isReliableControlType envelope.ty then
        match deserializePacket B S bytes with
        | .error e => (st, .error e)
        | .ok pkt =>
          match pkt.validate B with
          | .error e => (st, .error e)
          | .ok () =>
            let (st, result) := st.handleInternalReliablePacket B pkt item.src
            (st, result.map fun _ => ())
      else env.deliver st item

def receiver : HopReceiver S (RouterInner S) where
  expectedSeq st key := (st.reliableRx.at key).expectedSeq
  openRx st key := { st with reliableRx := st.reliableRx.insert key (st.reliableRx.at key) }
  acceptOrdered := acceptOrdered B
  queueControl := queueReliableControl B env

/-- Whether hop reliability is on for a side. -/
def hopReliable (st : RouterInner S) (side : Nat) (s : Side) : Bool :=
  s.opts.reliableEnabled && env.reliable &&
    !sideHasMultipleAnnouncers st.discoveryRoutes side env.now

/-- The hop part of `rx_item`: the buffered frames released behind the item, or `none`
where the call ends there. -/
def receiveHop (st : RouterInner S) (item : RouterRxItem S) :
    RouterInner S × Outcome (Option (List (List UInt8))) :=
  match item.src, item.data with
  | some src, .serialized bytes =>
    match sideRef "router: invalid side id" st.sides src with
    | .error e => (st, .error e)
    | .ok s =>
      if st.hopReliable env src s && s.txHandler == .serialized then
        match peekFrameInfo B S bytes with
        | .ok frame => (receiver B env).acceptFrame st src frame bytes
        | .error e =>
          if e = .err (.deserialize "crc32 mismatch") then
            match peekFrameInfoUnchecked B S bytes with
            | .error (.panic what) => (st, panics what)
            | .error (.err _) => (st, .ok none)
            | .ok frame =>
              let (st, result) := (receiver B env).requestCorrupted st src frame
              (st, result.map fun _ => none)
          else (st, .error e)
      else
        match peekFrameInfo B S bytes with
        | .ok frame => (st, .ok (if frame.ackOnly then none else some []))
        | .error e =>
          if e = .err (.deserialize "crc32 mismatch") then (st, .ok none) else (st, .error e)
  | _, _ => (st, .ok (some []))

/-- Whether a duplicate is acknowledged end to end again. -/
def acksDuplicate (pkt : Packet S) : Bool :=
  S.isReliableType pkt.ty && pkt.sender != env.sender && env.packetHasLocalHandler pkt

/-- The answer to a duplicate. -/
def ackDuplicate (st : RouterInner S) (item : RouterRxItem S) : RouterInner S × Outcome Unit :=
  match item.src, item.data with
  | none, _ => (st, .ok ())
  | some _, .packet pkt =>
    if acksDuplicate env pkt then st.queueEndToEndReliableAck B env pkt else (st, .ok ())
  | some _, .serialized bytes =>
    match deserializePacket B S bytes with
    | .error (.panic what) => (st, panics what)
    | .error (.err _) => (st, .ok ())
    | .ok pkt =>
      if acksDuplicate env pkt then st.queueEndToEndReliableAck B env pkt else (st, .ok ())

/-- The loop of `rx_item` over the released frames. -/
def dispatchReleased (src : Option Nat) :
    RouterInner S → List (List UInt8) → Received S (RouterInner S)
  | st, [] => .stopped st (.ok ())
  | st, bytes :: rest =>
    let data : RouterItem S := .serialized bytes
    match st.isDuplicatePkt B data with
    | (st, .error e) => .stopped st (.error e)
    | (st, .ok true) => (dispatchReleased src st rest).behind data .known
    | (st, .ok false) =>
      match itemPriority B data with
      | .error e => .stopped st (.error e)
      | .ok priority =>
        match st.dispatchRxData B env ⟨src, data, priority⟩ with
        | (st, .error e) => (Received.stopped st (.error e)).behind data .dispatched
        | (st, .ok ()) => (dispatchReleased src st rest).behind data .dispatched

/-- `rx_item` from the deduplication on. -/
def handOver (st : RouterInner S) (item : RouterRxItem S) (released : List (List UInt8)) :
    Received S (RouterInner S) :=
  match st.isDuplicatePkt B item.data with
  | (st, .error e) => .stopped st (.error e)
  | (st, .ok true) =>
    let (st, result) := st.ackDuplicate B env item
    (Received.stopped st result).behind item.data .known
  | (st, .ok false) =>
    match st.dispatchRxData B env item with
    | (st, .error e) => (Received.stopped st (.error e)).behind item.data .dispatched
    | (st, .ok ()) => (st.dispatchReleased B env item.src released).behind item.data .dispatched

/-- The checks in front of `rx_item`'s hop part, for an item from a side. -/
def admitItem (st : RouterInner S) (item : RouterRxItem S) : Outcome Unit :=
  match item.src with
  | none => .ok ()
  | some src => do
    st.ensureSideIngressEnabled src
    let _ ← returnRouteId B item.data
    .ok ()

def rxItem (st : RouterInner S) (item : RouterRxItem S) : Received S (RouterInner S) :=
  match st.admitItem B item with
  | .error e => .stopped st (.error e)
  | .ok () =>
    match st.receiveHop B env item with
    | (st, .error e) => .stopped st (.error e)
    | (st, .ok none) => .stopped st (.ok ())
    | (st, .ok (some released)) => st.handOver B env item released

end Receive

section Dedupe
variable {B : Build} {S : Schema} {st : RouterInner S} {data : RouterItem S}

theorem isDuplicatePkt_of_mem {id : UInt64} (hhash : getHash B data = .ok id)
    (hmem : id ∈ st.recentRx.q) : st.isDuplicatePkt B data = (st, .ok true) := by
  simp only [isDuplicatePkt, hhash, if_pos hmem]

theorem isDuplicatePkt_of_not_mem {id : UInt64} (hb : st.Budgeted B)
    (hhash : getHash B data = .ok id) (hnew : id ∉ st.recentRx.q) :
    (st.isDuplicatePkt B data).2 = .ok false ↔ B.RecordsIds := by
  have hok := @Stores.pushRecentRx_eq_ok_iff _ _ S B B.wordSize (RouterQueues.set B) st.stores hb id
  rw [← hok]
  simp only [isDuplicatePkt, hhash, if_neg hnew, pushRecentRx]
  generalize Stores.pushRecentRx B B.wordSize (RouterQueues.set B) st.stores id = r
  obtain ⟨stores, e | ⟨⟨⟩⟩⟩ := r
  · simp
  · simp

/-- What the check answers when it is not "known". -/
theorem isDuplicatePkt_ne_true {id : UInt64} (hhash : getHash B data = .ok id)
    (hnew : id ∉ st.recentRx.q) : (st.isDuplicatePkt B data).2 ≠ .ok true := by
  simp only [isDuplicatePkt, hhash, if_neg hnew]
  generalize st.pushRecentRx B id = r
  obtain ⟨st', e | ⟨⟨⟩⟩⟩ := r
  · simp
  · simp

/-- The check comes back with an answer. -/
theorem isDuplicatePkt_answers_iff (hb : st.Budgeted B) :
    (∃ known, (st.isDuplicatePkt B data).2 = .ok known) ↔
      ∃ id, getHash B data = .ok id ∧ (id ∈ st.recentRx.q ∨ B.RecordsIds) := by
  constructor
  · rintro ⟨known, hanswer⟩
    cases hhash : getHash B data with
    | error e =>
      simp only [isDuplicatePkt, hhash] at hanswer
      cases hanswer
    | ok id =>
      refine ⟨id, rfl, ?_⟩
      by_cases hmem : id ∈ st.recentRx.q
      · exact .inl hmem
      · cases known with
        | true => exact absurd hanswer (isDuplicatePkt_ne_true hhash hmem)
        | false => exact .inr ((isDuplicatePkt_of_not_mem hb hhash hmem).mp hanswer)
  · rintro ⟨id, hhash, hknown⟩
    by_cases hmem : id ∈ st.recentRx.q
    · exact ⟨true, by rw [isDuplicatePkt_of_mem hhash hmem]⟩
    · exact ⟨false, (isDuplicatePkt_of_not_mem hb hhash hmem).mpr (hknown.resolve_left hmem)⟩

end Dedupe

section HopControls
variable {B : Build} {S : Schema} {env : RouterEnv S} {st : RouterInner S} {data : RouterItem S}
  {pkt : Packet S} {ty : S.DataType} {seq : UInt32} {src : Nat} {priority : UInt8}

theorem getHash_of_control (h : HopControl B data pkt ty seq) : ∃ id, getHash B data = .ok id := by
  cases data with
  | packet p => exact ⟨_, rfl⟩
  | serialized bytes => exact ⟨pkt.identity 8, by simp only [getHash, h.packetIdFromWire_eq]⟩

/-- What is of an unreliable type passes the hop part untouched. -/
theorem receiveHop_of_not_reliable (h : data.Carries B pkt) (hty : S.isReliableType pkt.ty = false)
    {s : Side} (hside : st.sides[src]?.join = some s) :
    st.receiveHop B env ⟨some src, data, priority⟩ = (st, .ok (some [])) := by
  cases data with
  | packet p => rfl
  | serialized bytes =>
    have hpeek := h.peekFrameInfo_eq_of_not_reliable hty
    have hackOnly : TelemetryFrameInfo.ackOnly ⟨pkt.envelope, none⟩ = false := rfl
    simp only [receiveHop, sideRef, hside, okOr, hpeek, HopReceiver.acceptFrame, hackOnly]
    split
    · rfl
    · rfl

/-- A duplicate control packet is not answered. -/
theorem ackDuplicate_of_control (h : HopControl B data pkt ty seq) :
    st.ackDuplicate B env ⟨some src, data, priority⟩ = (st, .ok ()) := by
  have hquiet : acksDuplicate env pkt = false := by simp [acksDuplicate, h.not_reliable]
  cases data with
  | packet p =>
    obtain ⟨rfl, -⟩ := h.carries
    simp [ackDuplicate, hquiet]
  | serialized bytes =>
    obtain ⟨-, hdec⟩ := h.carries
    simp [ackDuplicate, hdec, hquiet]

theorem handleInternalReliablePacket_of_control (h : HopControl B data pkt ty seq) :
    (st.handleInternalReliablePacket B pkt (some src)).1.reliableTx =
        st.reliableTx.update ⟨src, ty⟩ (controlUpdate S pkt.ty ty seq) ∧
      (st.Budgeted B → (st.handleInternalReliablePacket B pkt (some src)).1.Budgeted B) ∧
      (st.handleInternalReliablePacket B pkt (some src)).2 ≠ .ok false := by
  have hstreams := @HopNode.queueReliableRetransmit_streams S _ (hop B) st ⟨src, ty⟩ seq
  have hsane : st.Budgeted B → ((hop B).queueReliableRetransmit st ⟨src, ty⟩ seq).1.Budgeted B :=
    (@HopNode.closed_sane S _ (hop B)).queueReliableRetransmit ⟨src, ty⟩ seq
  simp only [handleInternalReliablePacket, h.control, if_true, h.hop, h.content]
  split
  · rename_i hack
    rw [controlUpdate_of_ack hack]
    exact ⟨rfl, fun hb => hb.congr rfl rfl, by simp⟩
  · rename_i hnack
    split
    · rename_i hpart
      rw [controlUpdate_of_partialAck hnack hpart]
      exact ⟨rfl, fun hb => hb.congr rfl rfl, by simp⟩
    · rename_i hnpart
      rw [controlUpdate_of_request hnack hnpart]
      unfold queueReliableRetransmit
      generalize (hop B).queueReliableRetransmit st ⟨src, ty⟩ seq = r at hstreams hsane
      obtain ⟨st', e | ⟨⟨⟩⟩⟩ := r
      · exact ⟨hstreams, hsane, by simp [Except.map]⟩
      · exact ⟨hstreams, hsane, by simp [Except.map]⟩

theorem dispatchRxData_of_control (h : HopControl B data pkt ty seq) :
    (st.dispatchRxData B env ⟨some src, data, priority⟩).1 =
      (st.handleInternalReliablePacket B pkt (some src)).1 := by
  have hhandled := (@handleInternalReliablePacket_of_control B S st data pkt ty seq src h).2.2
  cases data with
  | packet p =>
    obtain ⟨rfl, hvalid⟩ := h.carries
    simp only [dispatchRxData, hvalid]
    generalize st.handleInternalReliablePacket B p (some src) = r at hhandled
    obtain ⟨st', e | _ | _⟩ := r
    · rfl
    · exact absurd rfl hhandled
    · rfl
  | serialized bytes =>
    obtain ⟨-, hdec⟩ := h.carries
    have hcontrol : S.isReliableControlType pkt.envelope.ty = true := h.control
    simp only [dispatchRxData, h.peekEnvelope_eq, hcontrol, if_true, hdec, h.validate_eq_ok]

/-- A fresh item with nothing released behind it leaves what its dispatch leaves. -/
theorem handOver_inner_of_fresh {st' : RouterInner S} {item : RouterRxItem S}
    (h : st.isDuplicatePkt B item.data = (st', .ok false)) :
    (st.handOver B env item []).inner = (st'.dispatchRxData B env item).1 := by
  simp only [handOver, h]
  generalize st'.dispatchRxData B env item = r
  obtain ⟨st'', e | ⟨⟨⟩⟩⟩ := r
  · rfl
  · rfl

/-- A control packet from an open side takes effect unless its id is known, or there is
nothing to update. -/
theorem rxItem_of_control (h : HopControl B data pkt ty seq) (hb : st.Budgeted B)
    (hopen : st.ensureSideIngressEnabled src = .ok ()) {id : UInt64}
    (hhash : getHash B data = .ok id) :
    (st.rxItem B env ⟨some src, data, priority⟩).inner.Budgeted B ∧
      (st.reliableTx.TookEffect (st.rxItem B env ⟨some src, data, priority⟩).inner.reliableTx pkt.ty
          ⟨src, ty⟩ seq ↔
        (id ∉ st.recentRx.q ∧ B.RecordsIds) ∨
          controlUpdate S pkt.ty ty seq (st.reliableTx.at ⟨src, ty⟩) = st.reliableTx.at ⟨src, ty⟩) := by
  obtain ⟨s, hside, -⟩ := bind_eq_ok.mp hopen
  have hentry : st.admitItem B ⟨some src, data, priority⟩ = .ok () := by
    simp only [admitItem, hopen, h.returnRouteId_eq, ok_bind]
  have hhop := @receiveHop_of_not_reliable B S env st data pkt src priority h.carries h.not_reliable s
    (okOr_eq_ok.mp hside)
  simp only [rxItem, hentry, hhop]
  by_cases hmem : id ∈ st.recentRx.q
  · simp only [handOver, isDuplicatePkt_of_mem hhash hmem, ackDuplicate_of_control h,
      Received.stopped, Received.behind]
    refine ⟨hb, TxStreams.tookEffect_self.trans ?_⟩
    simp [hmem]
  · have hfresh := isDuplicatePkt_of_not_mem hb hhash hmem
    have hnot := @isDuplicatePkt_ne_true B S st data id hhash hmem
    have hkeeps := (st.isDuplicatePkt_keeps (B := B) data).1
    cases hdup : st.isDuplicatePkt B data with
    | mk st' answer =>
      rw [hdup] at hfresh hnot hkeeps
      cases answer with
      | error e =>
        simp only [handOver, hdup, Received.stopped]
        refine ⟨hkeeps.budgeted hb, ?_⟩
        have hunfit : ¬B.RecordsIds := fun hfit => by
          cases hfresh.mpr hfit
        rw [hkeeps.reliableTx, TxStreams.tookEffect_self]
        tauto
      | ok known =>
        cases known with
        | true => exact absurd rfl hnot
        | false =>
          have heffect := @handleInternalReliablePacket_of_control B S st' data pkt ty seq src h
          rw [handOver_inner_of_fresh hdup, dispatchRxData_of_control h]
          refine ⟨heffect.2.1 (hkeeps.budgeted hb), iff_of_true ?_ (.inl ⟨hmem, hfresh.mp rfl⟩)⟩
          rw [heffect.1, hkeeps.reliableTx]
          exact TxStreams.tookEffect_update

end HopControls

section Hop
variable {B : Build} {S : Schema} {env : RouterEnv S} {P : RouterInner S → Prop}

/-- What the hop header's effects keep, the hop part keeps. -/
theorem receiveHop_closed (h : (receiver B env).Closed P) {st : RouterInner S} (hst : P st)
    (item : RouterRxItem S) : P (st.receiveHop B env item).1 := by
  unfold receiveHop
  split
  · split
    · exact hst
    · split
      · split
        · exact h.acceptFrame hst _ _ _
        · split
          · split
            · exact hst
            · exact hst
            · exact h.requestCorrupted hst _ _
          · exact hst
      · split
        · exact hst
        · split
          · exact hst
          · exact hst
  · exact hst

end Hop
end RouterInner

namespace Router
variable (B : Build) {S : Schema} (env : RouterEnv S)

/-- The item of a serialized ingress call, behind its checks. -/
def ingressItem (r : Router S) (bytes : List UInt8) (side : Nat) : Outcome (RouterRxItem S) := do
  r.inner.ensureSideIngressEnabled side
  let data : RouterItem S := .serialized bytes
  let priority ← itemPriority B data
  .ok ⟨some side, data, priority⟩

def rxSerializedQueueFromSide (r : Router S) (bytes : List UInt8) (side : Nat) :
    Router S × Outcome Unit :=
  match r.ingressItem B bytes side with
  | .error e => (r, .error e)
  | .ok item =>
    let (inner, result) := r.inner.pushReceived B item
    ({ r with inner := inner }, result)

/-- `busy` where another context holds the interrupt queue. -/
def rxSerializedQueueFromSideIsr (busy : Bool) (r : Router S) (bytes : List UInt8) (side : Nat) :
    Router S × Outcome Unit :=
  match r.ingressItem B bytes side with
  | .error e => (r, .error e)
  | .ok item =>
    if busy then (r, fail (.io "rx queue busy"))
    else
      let pushed := r.isrRxQueue.pushBackPrioritized (RouterRxItem.byteCost B)
        (fun queued => queued.priority) item
      ({ r with isrRxQueue := pushed.1 }, pushed.2)

/-- `sideTxActive` inside a side's TX callback. -/
def rxSerializedFromSide (sideTxActive : Bool) (r : Router S) (bytes : List UInt8) (side : Nat) :
    Router S × Outcome Unit :=
  if sideTxActive then r.rxSerializedQueueFromSide B bytes side
  else
    match r.ingressItem B bytes side with
    | .error e => (r, .error e)
    | .ok item =>
      let received := r.inner.rxItem B env item
      ({ r with inner := received.inner }, received.result)

/-- The next item of `process_rx_queue`, the interrupt queue first. -/
def popRx (busy : Bool) (r : Router S) : Option (RouterRxItem S × Router S) :=
  match if busy then none else r.isrRxQueue.popFront (RouterRxItem.byteCost B) with
  | some (item, rest) => some (item, { r with isrRxQueue := rest })
  | none => (r.inner.receivedQueue.popFront (RouterRxItem.byteCost B)).map fun popped =>
      (popped.1, { r with inner := { r.inner with receivedQueue := popped.2 } })

/-- The loop of `process_rx_queue`, for as many turns as `fuel`; dispatch may queue more
as it goes. `busy` answers for the interrupt queue at each turn. -/
def processRxQueue (busy : Nat → Bool) : (fuel : Nat) → Router S → Router S × Outcome Unit
  | 0, r => (r, .ok ())
  | fuel + 1, r =>
    match r.popRx B (busy fuel) with
    | none => (r, .ok ())
    | some (item, r) =>
      match r.inner.rxItem B env item with
      | ⟨inner, _, .error e⟩ => ({ r with inner := inner }, .error e)
      | ⟨inner, _, .ok ()⟩ => processRxQueue busy fuel { r with inner := inner }

end Router
end Sedsprintf
