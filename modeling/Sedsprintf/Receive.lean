import Sedsprintf.Hop
import Sedsprintf.Wire.Agreement

/-!
# Receiving over a hop

What `Router::rx_item` and `Relay::process_rx_queue_item` do alike with a received
item (src/router.rs:1453-1477, 4886-5034; src/relay.rs:952-974, 2674-2824): the
return route it would note, the hop header, the control packet it may carry. The
rest of the handling is theirs.
-/
namespace Sedsprintf

open Lib

section Control
variable {S : Schema} (B : Build)

/-- `chunks_exact(4)`, little-endian. -/
def leWords : List UInt8 → List UInt32
  | a :: b :: c :: d :: rest => u32FromLeBytes [a, b, c, d] :: leWords rest
  | _ => []

/-- `data_as_u32`. -/
def Packet.dataAsU32 (pkt : Packet S) : Outcome (List UInt32) := do
  let kind := S.getDataType pkt.ty
  ensure (kind = .uint32) (.typeMismatch (dataTypeSize B .uint32) (dataTypeSize B kind))
  let bytes := pkt.payload.asSlice
  ensure (bytes.length % 4 = 0) (.sizeMismatch (bytes.length / 4 * 4) bytes.length)
  .ok (leWords bytes)

/-- The type and number a hop control packet carries. -/
def reliableControl (pkt : Packet S) : Outcome (S.DataType × UInt32) := do
  match ← pkt.dataAsU32 B with
  | [raw, seq] => do
    let ty ← okOr .invalidType (S.dataTypeFromU32 raw.toNat)
    .ok (ty, seq)
  | _ => fail (.deserialize "bad reliable control payload")

def endToEndAckSender : String := "E2EACK"

def endToEndAckPrefix : String := "E2EACK:"

def isEndToEndAckSender (sender : String) : Bool :=
  asBytes sender == asBytes endToEndAckSender ||
    (asBytes endToEndAckPrefix).isPrefixOf (asBytes sender)

def decodeEndToEndReliableAck (payload : List UInt8) : Outcome UInt64 :=
  if payload.length ≠ 8 then fail (.deserialize "bad reliable e2e ack payload")
  else .ok (UInt64.ofNat (decodeLE payload))

def encodeEndToEndReliableAck (packetId : UInt64) : List UInt8 := encodeLE 8 packetId.toNat

/-- `sender_hash` of a name given by its bytes. -/
def senderHash (sender : List UInt8) : UInt64 := hashBytesU64 0x517CC1B727220A95 sender

def decodeEndToEndAckSenderHash (sender : String) : Option UInt64 :=
  match (asBytes endToEndAckPrefix).isPrefixOf? (asBytes sender) with
  | some (b :: rest) => some (senderHash (b :: rest))
  | _ => none

/-- The packet an end-to-end acknowledgement is about; every other control packet
belongs to the hop. -/
def endToEndAck (pkt : Packet S) : Option UInt64 :=
  if pkt.ty = S.reliableAck ∧ isEndToEndAckSender pkt.sender then
    (decodeEndToEndReliableAck pkt.payload.asSlice).toOption
  else none

/-- What a hop control packet of type `control` does to the stream it names. -/
def controlUpdate (S : Schema) (control ty : S.DataType) (seq : UInt32) (tx : ReliableTxState) :
    ReliableTxState :=
  if control = S.reliableAck then tx.handleReliableAck S ty seq
  else if control = S.reliablePartialAck then tx.handleReliablePartialAck seq
  else (tx.queueReliableRetransmit seq).1

theorem controlUpdate_of_ack {control ty : S.DataType} {seq : UInt32}
    (h : control = S.reliableAck) :
    controlUpdate S control ty seq = fun tx => tx.handleReliableAck S ty seq :=
  funext fun _ => if_pos h

theorem controlUpdate_of_partialAck {control ty : S.DataType} {seq : UInt32}
    (hnack : control ≠ S.reliableAck) (h : control = S.reliablePartialAck) :
    controlUpdate S control ty seq = fun tx => tx.handleReliablePartialAck seq :=
  funext fun _ => (if_neg hnack).trans (if_pos h)

theorem controlUpdate_of_request {control ty : S.DataType} {seq : UInt32}
    (hnack : control ≠ S.reliableAck) (hnpart : control ≠ S.reliablePartialAck) :
    controlUpdate S control ty seq = fun tx => (tx.queueReliableRetransmit seq).1 :=
  funext fun _ => (if_neg hnack).trans (if_neg hnpart)

/-- `reliable_control_packet`. -/
def reliableControlPacket (sender : String) (timestamp : UInt64) (control ty : S.DataType)
    (seq : UInt32) : Outcome (Packet S) :=
  Packet.new B control (S.getMessageMeta control).endpoints sender timestamp
    (u32LeBytes (UInt32.ofNat ty.val) ++ u32LeBytes seq)

/-- The id `note_reliable_return_route` is called with. The routes are left out; a
panic on the way to the id is not. -/
def returnRouteId : RouterItem S → Outcome (Option UInt64)
  | .packet pkt =>
    .ok (if S.isReliableType pkt.ty && !S.isInternalControlType pkt.ty then some (pkt.packetId B)
      else none)
  | .serialized bytes =>
    match peekEnvelope B S bytes with
    | .error (.err _) => .ok none
    | .error (.panic what) => panics what
    | .ok env =>
      if S.isReliableType env.ty && !S.isInternalControlType env.ty then
        match packetIdFromWire B S bytes with
        | .ok id => .ok (some id)
        | .error (.err _) => .ok none
        | .error (.panic what) => panics what
      else .ok none

/-- A packet as it arrives: by value, or as the bytes it decodes from. -/
def RouterItem.Carries : RouterItem S → Packet S → Prop
  | .packet p, pkt => p = pkt ∧ pkt.validate B = .ok ()
  | .serialized bytes, pkt => bytes.length ≤ B.isizeMax ∧ deserializePacket B S bytes = .ok pkt

/-- The item is a hop control packet for the number `seq` of type `ty`. -/
structure HopControl (data : RouterItem S) (pkt : Packet S) (ty : S.DataType) (seq : UInt32) :
    Prop where
  carries : data.Carries B pkt
  control : S.isReliableControlType pkt.ty = true
  hop : endToEndAck pkt = none
  content : reliableControl B pkt = .ok (ty, seq)

end Control

namespace RouterItem.Carries
variable {S : Schema} {B : Build} {data : RouterItem S} {bytes : List UInt8} {pkt : Packet S}

theorem validate_eq_ok (h : data.Carries B pkt) : pkt.validate B = .ok () := by
  cases data with
  | packet p => exact h.2
  | serialized bytes =>
    obtain ⟨d⟩ := Decoded.exists_of_ok h.2
    exact (Packet.wellFormed_of_new B d.new_ok).validate_eq_ok B

theorem peekEnvelope_eq (h : RouterItem.Carries B (.serialized bytes) pkt) :
    peekEnvelope B S bytes = .ok pkt.envelope := by
  obtain ⟨hslice, hdec⟩ := h
  obtain ⟨d⟩ := Decoded.exists_of_ok hdec
  simp only [peekEnvelope, d.crc_ok, ok_bind, ensure_of d.data_ne_nil, d.readEnvelope_eq hslice]

theorem endpoints_ne_nil (h : data.Carries B pkt) : pkt.endpoints ≠ [] := by
  intro hnil
  have hvalid := h.validate_eq_ok
  simp [Packet.validate, hnil] at hvalid

/-- A frame of an unreliable type has no hop header. -/
theorem peekFrameInfo_eq_of_not_reliable (h : RouterItem.Carries B (.serialized bytes) pkt)
    (hty : S.isReliableType pkt.ty = false) :
    peekFrameInfo B S bytes = .ok ⟨pkt.envelope, none⟩ := by
  obtain ⟨hslice, hdec⟩ := h
  obtain ⟨d⟩ := Decoded.exists_of_ok hdec
  have hhdr : d.hdr = none := by
    have hsome := d.hdr_isSome
    rw [hty] at hsome
    exact Option.not_isSome_iff_eq_none.mp (by simp [hsome])
  simp only [peekFrameInfo, d.crc_ok, ok_bind, d.peekFrameInfoInner_eq hslice, hhdr]

/-- No return route is kept for it. -/
theorem returnRouteId_eq_none (h : data.Carries B pkt) (hty : S.isReliableType pkt.ty = false) :
    returnRouteId B data = .ok none := by
  cases data with
  | packet p =>
    obtain ⟨rfl, -⟩ := h
    simp [returnRouteId, hty]
  | serialized bytes =>
    have hty : S.isReliableType pkt.envelope.ty = false := hty
    simp [returnRouteId, h.peekEnvelope_eq, hty]

end RouterItem.Carries

namespace HopControl
variable {S : Schema} {B : Build} {data : RouterItem S} {bytes : List UInt8} {pkt : Packet S}
  {ty : S.DataType} {seq : UInt32}

theorem not_reliable (h : HopControl B data pkt ty seq) : S.isReliableType pkt.ty = false :=
  S.control_not_reliable h.control

theorem validate_eq_ok (h : HopControl B data pkt ty seq) : pkt.validate B = .ok () :=
  h.carries.validate_eq_ok

theorem peekEnvelope_eq (h : HopControl B (.serialized bytes) pkt ty seq) :
    peekEnvelope B S bytes = .ok pkt.envelope :=
  h.carries.peekEnvelope_eq

/-- A control frame has no hop header. -/
theorem peekFrameInfo_eq (h : HopControl B (.serialized bytes) pkt ty seq) :
    peekFrameInfo B S bytes = .ok ⟨pkt.envelope, none⟩ :=
  h.carries.peekFrameInfo_eq_of_not_reliable h.not_reliable

/-- No return route is kept for control. -/
theorem returnRouteId_eq (h : HopControl B data pkt ty seq) : returnRouteId B data = .ok none :=
  h.carries.returnRouteId_eq_none h.not_reliable

theorem packetIdFromWire_eq (h : HopControl B (.serialized bytes) pkt ty seq) :
    packetIdFromWire B S bytes = .ok (pkt.identity 8) := by
  obtain ⟨hslice, hdec⟩ := h.carries
  obtain ⟨d⟩ := Decoded.exists_of_ok hdec
  exact d.packetIdFromWire_eq_identity hslice

end HopControl

/-- The packet took effect on the stream at `key`, and on no other. -/
def TxStreams.TookEffect {S : Schema} (before after : TxStreams S) (control : S.DataType)
    (key : StreamKey S) (seq : UInt32) : Prop :=
  ∀ k, after.at k = if key = k then controlUpdate S control key.ty seq (before.at k) else before.at k

/-- Left alone, the streams are as updated only where there is nothing to update. -/
theorem TxStreams.tookEffect_self {S : Schema} {streams : TxStreams S} {control : S.DataType}
    {key : StreamKey S} {seq : UInt32} :
    streams.TookEffect streams control key seq ↔
      controlUpdate S control key.ty seq (streams.at key) = streams.at key := by
  constructor
  · intro h
    have hkey := h key
    rw [if_pos rfl] at hkey
    exact hkey.symm
  · intro h k
    split
    · rename_i heq
      rw [← heq, h]
    · rfl

theorem TxStreams.tookEffect_update {S : Schema} {streams : TxStreams S} {control : S.DataType}
    {key : StreamKey S} {seq : UInt32} :
    streams.TookEffect (streams.update key (controlUpdate S control key.ty seq)) control key seq :=
  fun k => TxStreams.at_update key k _

/-- What became of an item the receive path came to: handed on to dispatch, or skipped
because its id was in `recent_rx`. -/
inductive Fate where
  | dispatched
  | known
  deriving DecidableEq, Repr

/-- One call of the receive path, with the items in the order it came to them. -/
structure Received (S : Schema) (σ : Type) where
  inner : σ
  log : List (RouterItem S × Fate)
  result : Outcome Unit

namespace Received
variable {S : Schema} {σ : Type}

def stopped (inner : σ) (result : Outcome Unit) : Received S σ := ⟨inner, [], result⟩

def behind (data : RouterItem S) (fate : Fate) (r : Received S σ) : Received S σ :=
  { r with log := (data, fate) :: r.log }

end Received

def ReliableHeader.unordered (hdr : ReliableHeader) : Bool :=
  hdr.flags &&& reliableFlagUnordered != 0

def ReliableHeader.unsequenced (hdr : ReliableHeader) : Bool :=
  hdr.flags &&& reliableFlagUnsequenced != 0

/-- What the hop header of a received frame uses of a node. -/
structure HopReceiver (S : Schema) (σ : Type) where
  expectedSeq : σ → StreamKey S → UInt32
  /-- `reliable_rx_state_mut`. -/
  openRx : σ → StreamKey S → σ
  acceptOrdered : σ → StreamKey S → UInt32 → List UInt8 → σ × Arrival × Outcome Unit
  /-- `queue_reliable_ack`, `queue_reliable_partial_ack` and
  `queue_reliable_packet_request`, by the type of control packet. -/
  queueControl : σ → (control : S.DataType) → (key : StreamKey S) → (seq : UInt32) →
    σ × Outcome Unit

namespace HopReceiver
variable {S : Schema} {σ : Type} (n : HopReceiver S σ)

/-- A frame on a stream: the buffered frames to dispatch behind it, or `none` where the
call ends with the answer to the peer. -/
def acceptSequenced (st : σ) (key : StreamKey S) (hdr : ReliableHeader) (bytes : List UInt8) :
    σ × Outcome (Option (List (List UInt8))) :=
  if hdr.unordered then
    let (st, result) := n.queueControl st S.reliableAck key hdr.seq
    (st, result.map fun _ => some [])
  else
    match n.acceptOrdered st key hdr.seq bytes with
    | (st, _, .error e) => (st, .error e)
    | (st, .old ack, .ok ()) =>
      let (st, result) := n.queueControl st S.reliableAck key ack
      (st, result.map fun _ => none)
    | (st, .early partialAck request, .ok ()) =>
      match n.queueControl st S.reliablePartialAck key partialAck with
      | (st, .error e) => (st, .error e)
      | (st, .ok ()) =>
        let (st, result) := n.queueControl st S.reliablePacketRequest key request
        (st, result.map fun _ => none)
    | (st, .released frames ack, .ok ()) =>
      let (st, result) := n.queueControl st S.reliableAck key ack
      (st, result.map fun _ => some frames.tail)

/-- A frame whose checksum held. -/
def acceptFrame (st : σ) (src : Nat) (frame : TelemetryFrameInfo S) (bytes : List UInt8) :
    σ × Outcome (Option (List (List UInt8))) :=
  match frame.reliable with
  | none => (st, .ok (some []))
  | some hdr =>
    if S.isReliableType frame.envelope.ty && !hdr.unsequenced then
      n.acceptSequenced st ⟨src, frame.envelope.ty⟩ hdr bytes
    else (st, .ok (some []))

/-- A frame whose checksum failed, as far as it can be read. -/
def requestCorrupted (st : σ) (src : Nat) (frame : TelemetryFrameInfo S) : σ × Outcome Unit :=
  match frame.reliable with
  | none => (st, .ok ())
  | some hdr =>
    if S.isReliableType frame.envelope.ty && !hdr.unsequenced then
      let key : StreamKey S := ⟨src, frame.envelope.ty⟩
      if hdr.unordered then n.queueControl st S.reliablePacketRequest key hdr.seq
      else
        let st := n.openRx st key
        n.queueControl st S.reliablePacketRequest key (min (n.expectedSeq st key) hdr.seq)
    else (st, .ok ())

/-- `P` survives what the hop header of a frame does to a node. -/
structure Closed (P : σ → Prop) : Prop where
  openRx : ∀ {st key}, P st → P (n.openRx st key)
  acceptOrdered : ∀ {st key seq bytes}, P st → P (n.acceptOrdered st key seq bytes).1
  queueControl : ∀ {st control key seq}, P st → P (n.queueControl st control key seq).1

namespace Closed
variable {n} {P : σ → Prop} {st : σ}

theorem acceptSequenced (h : n.Closed P) (hst : P st) (key : StreamKey S) (hdr : ReliableHeader)
    (bytes : List UInt8) : P (n.acceptSequenced st key hdr bytes).1 := by
  unfold HopReceiver.acceptSequenced
  split
  · exact h.queueControl hst
  · have haccept := @acceptOrdered _ _ _ _ h _ key hdr.seq bytes hst
    generalize n.acceptOrdered st key hdr.seq bytes = accepted at haccept
    obtain ⟨st', arrival, e | ⟨⟨⟩⟩⟩ := accepted
    · exact haccept
    · cases arrival with
      | old ack => exact h.queueControl haccept
      | early partialAck request =>
        have hpartial : P (n.queueControl st' S.reliablePartialAck key partialAck).1 :=
          h.queueControl haccept
        dsimp only
        generalize n.queueControl st' S.reliablePartialAck key partialAck = queued at hpartial
        obtain ⟨st'', e | ⟨⟨⟩⟩⟩ := queued
        · exact hpartial
        · exact h.queueControl hpartial
      | released frames ack => exact h.queueControl haccept

theorem acceptFrame (h : n.Closed P) (hst : P st) (src : Nat) (frame : TelemetryFrameInfo S)
    (bytes : List UInt8) : P (n.acceptFrame st src frame bytes).1 := by
  unfold HopReceiver.acceptFrame
  split
  · exact hst
  · split
    · exact h.acceptSequenced hst _ _ bytes
    · exact hst

theorem requestCorrupted (h : n.Closed P) (hst : P st) (src : Nat) (frame : TelemetryFrameInfo S) :
    P (n.requestCorrupted st src frame).1 := by
  unfold HopReceiver.requestCorrupted
  split
  · exact hst
  · split
    · split
      · exact h.queueControl hst
      · exact h.queueControl (h.openRx hst)
    · exact hst

end Closed
end HopReceiver
end Sedsprintf
