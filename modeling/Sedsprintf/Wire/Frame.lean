import Sedsprintf.Wire.Reader

/-!
# Frame encoder and parsers

src/serialize.rs:282-1090. The encoder, the five parsers of the same grammar
(`deserialize_packet`, `peek_envelope`, `peek_frame_info` with and without CRC,
`reliable_header_offset`, `packet_id_from_wire`), the in-place header rewrite
and the size helpers. The parsers share the block that reads the prelude, which
the source repeats word for word; the order of the checks after it is each
parser's own.
-/
namespace Sedsprintf

open Lib

def flagCompressedPayload : UInt8 := 0x01
def flagCompressedSender : UInt8 := 0x02

section Bitmap
variable (S : Schema)

/-- `EP_BITMAP_BITS`. -/
def Schema.epBitmapBits : Nat := S.maxValueDataEndpoint + 1

/-- `EP_BITMAP_BYTES`. -/
def Schema.epBitmapBytes : Nat := (S.epBitmapBits + 7) / 8

/-- The discriminants of a generated enum are always below `EP_BITMAP_BITS`, so
the `debug_assert!` and its guard never fire. -/
def buildEndpointBitmap (eps : List S.DataEndpoint) : List UInt8 :=
  eps.foldl (fun bm ep => if ep.val < S.epBitmapBits then setBitAt bm ep.val else bm)
    (List.replicate S.epBitmapBytes 0)

def expandBits (bm : List UInt8) : List Nat → Outcome (List S.DataEndpoint)
  | [] => .ok []
  | idx :: rest =>
    match bm[idx / 8]? with
    | none => panics "index out of bounds"
    | some byte =>
      if (byte >>> UInt8.ofNat (idx % 8)) &&& 1 ≠ 0 then do
        let ep ← okOr (.deserialize "bad endpoint bit set") (S.endpointFromU32 idx)
        let eps ← expandBits bm rest
        .ok (ep :: eps)
      else expandBits bm rest

/-- The used part `arr[..len]` of the returned array. -/
def expandEndpointBitmap (bm : List UInt8) : Outcome (List S.DataEndpoint) := do
  ensure (bm.length = S.epBitmapBytes) (.deserialize "bad endpoint bitmap size")
  expandBits S bm (List.range S.epBitmapBits)

end Bitmap

section Compression
variable (B : Build)

/-- The result of `compress_if_beneficial`. -/
structure WireForm where
  compressed : Bool
  wire : List UInt8
  deriving DecidableEq, Repr

def compressToVecBounded (z : Zstd) (input : List UInt8) (maxOutput : Nat) :
    Option (List UInt8) :=
  if input = [] ∨ maxOutput = 0 then none else z.compress maxOutput input

def compressIfBeneficial (payload : List UInt8) : WireForm :=
  match B.compression with
  | none => ⟨false, payload⟩
  | some z =>
    if payload.length < B.payloadCompressThreshold then ⟨false, payload⟩
    else
      match compressToVecBounded z payload (payload.length - 2) with
      | none => ⟨false, payload⟩
      | some compressed =>
        if compressed.length + 1 ≥ payload.length then ⟨false, payload⟩ else ⟨true, compressed⟩

def decompress (compressed : List UInt8) (expectedLen : Nat) : Outcome (List UInt8) :=
  match B.compression with
  | none => reject "compressed payloads not supported (compression feature disabled)"
  | some z => do
    B.allocate expectedLen
    let out ← okOr (.deserialize "decompression failed") (z.decompress expectedLen compressed)
    ensure (out.length = expectedLen) (.deserialize "decompressed size mismatch")
    .ok out

end Compression

section Encoder
variable (B : Build) {S : Schema}

/-- FLAGS, NEP and the varints; the sender's wire length only when compressed. -/
def preludeBytes (flags nep : UInt8) (ty : S.DataType) (dsz : Nat) (ts : UInt64) (slen : Nat)
    (sender : WireForm) : List UInt8 :=
  [flags, nep] ++ writeUleb128 (UInt64.ofNat ty.val) ++ writeUleb128 (UInt64.ofNat dsz) ++
    writeUleb128 ts ++ writeUleb128 (UInt64.ofNat slen) ++
    (if sender.compressed then writeUleb128 (UInt64.ofNat sender.wire.length) else [])

def frameFlags (payload sender : WireForm) : UInt8 :=
  (if payload.compressed then flagCompressedPayload else 0) |||
    (if sender.compressed then flagCompressedSender else 0)

/-- The frame up to its CRC. -/
def frameBody (pkt : Packet S) (reliable : Option ReliableHeader) : List UInt8 :=
  let bm := buildEndpointBitmap S pkt.endpoints
  let sender := compressIfBeneficial B (asBytes pkt.sender)
  let payload := compressIfBeneficial B pkt.payload.asSlice
  preludeBytes (frameFlags payload sender) (UInt8.ofNat (popcount bm)) pkt.ty pkt.dataSize
      pkt.timestamp (asBytes pkt.sender).length sender ++
    (bm ++ (sender.wire ++ ((reliable.map writeReliableHeader).getD [] ++ payload.wire)))

/-- `Vec::with_capacity` and the final `Arc` allocation abort on a size beyond
`isize::MAX`; NEP is asserted to fit its byte. -/
def serializePacketInner (pkt : Packet S) (reliable : Option ReliableHeader) :
    Outcome (List UInt8) := do
  let bm := buildEndpointBitmap S pkt.endpoints
  let sender := compressIfBeneficial B (asBytes pkt.sender)
  let payload := compressIfBeneficial B pkt.payload.asSlice
  let reliableLen := if reliable.isSome then reliableHeaderBytes else 0
  let capacity ← B.usizeSum
    [16, S.epBitmapBytes, sender.wire.length, reliableLen, payload.wire.length, crc32Bytes]
  B.allocate capacity
  if 255 < popcount bm then panics "too many endpoints selected to fit in NEP u8"
  else
    let out := appendCrc32 B (frameBody B pkt reliable)
    B.allocate out.length
    .ok out

def serializePacketWithReliable (pkt : Packet S) (header : ReliableHeader) :
    Outcome (List UInt8) :=
  serializePacketInner B pkt (some header)

def serializePacket (pkt : Packet S) : Outcome (List UInt8) :=
  if S.isReliableType pkt.ty then
    serializePacketWithReliable B pkt ⟨reliableFlagUnsequenced, 0, 0⟩
  else serializePacketInner B pkt none

def headerSizeBytes (pkt : Packet S) : Nat :=
  let senderBytes := asBytes pkt.sender
  let sender := compressIfBeneficial B senderBytes
  2 + uleb128Size (UInt64.ofNat pkt.ty.val) + uleb128Size (UInt64.ofNat pkt.dataSize) +
    uleb128Size pkt.timestamp + uleb128Size (UInt64.ofNat senderBytes.length) +
    (if sender.compressed then uleb128Size (UInt64.ofNat sender.wire.length) else 0)

def packetWireSize (pkt : Packet S) : Nat :=
  let sender := compressIfBeneficial B (asBytes pkt.sender)
  let payload := compressIfBeneficial B pkt.payload.asSlice
  let reliableLen := if S.isReliableType pkt.ty then reliableHeaderBytes else 0
  headerSizeBytes B pkt + S.epBitmapBytes + sender.wire.length + reliableLen +
    payload.wire.length + crc32Bytes

end Encoder

structure TelemetryEnvelope (S : Schema) where
  ty : S.DataType
  endpoints : List S.DataEndpoint
  sender : String
  timestampMs : UInt64
  deriving DecidableEq

structure TelemetryFrameInfo (S : Schema) where
  envelope : TelemetryEnvelope S
  reliable : Option ReliableHeader
  deriving DecidableEq

def TelemetryFrameInfo.ackOnly {S : Schema} (info : TelemetryFrameInfo S) : Bool :=
  info.reliable.any fun h => h.flags &&& reliableFlagAckOnly ≠ 0

/-- The fields every parser reads before the endpoint bitmap. -/
structure Prelude where
  payloadIsCompressed : Bool
  senderIsCompressed : Bool
  nep : Nat
  tyV : UInt64
  dsz : Nat
  tsV : UInt64
  slen : Nat
  senderWireLen : Nat
  deriving DecidableEq, Repr

section Parsers
variable (B : Build) (S : Schema)

/-- A compressed sender has its wire length on the wire; else it is the logical one. -/
def readSenderWireLen (senderIsCompressed : Bool) (slen : UInt64) (r : ByteReader) :
    Outcome (UInt64 × ByteReader) :=
  if senderIsCompressed then readUleb128 r else .ok (slen, r)

def readPrelude (r : ByteReader) : Outcome (Prelude × ByteReader) := do
  let (flags, r) ← r.readByte
  let senderIsCompressed := decide (flags &&& flagCompressedSender ≠ 0)
  let (nep, r) ← r.readByte
  let (tyV, r) ← readUleb128 r
  let (dsz, r) ← readUleb128 r
  let (tsV, r) ← readUleb128 r
  let (slen, r) ← readUleb128 r
  let (senderWireLen, r) ← readSenderWireLen senderIsCompressed slen r
  .ok ({ payloadIsCompressed := decide (flags &&& flagCompressedPayload ≠ 0),
         senderIsCompressed := senderIsCompressed, nep := nep.toNat, tyV := tyV,
         dsz := B.asUsize dsz, tsV := tsV, slen := B.asUsize slen,
         senderWireLen := B.asUsize senderWireLen }, r)

def decodeSenderName (senderWireBytes : List UInt8) (senderIsCompressed : Bool)
    (senderLen : Nat) : Outcome String :=
  if senderIsCompressed then do
    let bytes ← decompress B senderWireBytes senderLen
    okOr (.deserialize "sender not UTF-8 after decompress") (fromUtf8 bytes)
  else okOr (.deserialize "sender not UTF-8") (fromUtf8 senderWireBytes)

/-- `u32::try_from`, the range check and `DataType::try_from_u32`. -/
def dataTypeFromRaw (tyV : UInt64) : Outcome S.DataType := do
  ensure (tyV.toNat < 2 ^ 32) (.deserialize "type too large")
  ensure (tyV.toNat ≤ S.maxValueDataType) .invalidType
  okOr .invalidType (S.dataTypeFromU32 tyV.toNat)

def isReliableTypeFromRaw (tyV : UInt64) : Outcome Bool := do
  let ty ← dataTypeFromRaw S tyV
  .ok (S.isReliableType ty)

/-- The optional header of a data frame; an ACK-only header is refused. -/
def readDataHeader (ty : S.DataType) (r : ByteReader) :
    Outcome (Option ReliableHeader × ByteReader) :=
  if S.isReliableType ty then do
    let (hdr, r) ← readReliableHeader r
    ensure (hdr.flags &&& reliableFlagAckOnly = 0) (.deserialize "reliable control frame")
    .ok (some hdr, r)
  else .ok (none, r)

/-- A compressed payload takes the rest of the frame. -/
def readPayload (pre : Prelude) (r : ByteReader) : Outcome (List UInt8) :=
  if pre.payloadIsCompressed then do
    let (comp, _) ← r.readBytes r.remaining
    decompress B comp pre.dsz
  else do
    let (payload, _) ← r.readBytes pre.dsz
    .ok payload

def deserializePacket (buf : List UInt8) : Outcome (Packet S) := do
  let data ← verifyCrc32 B buf
  ensure (data ≠ []) (.deserialize "short prelude")
  let (pre, r) ← readPrelude B (ByteReader.new data)
  let reliable ← isReliableTypeFromRaw S pre.tyV
  let reliableLen := if reliable then reliableHeaderBytes else 0
  let payloadLen := if pre.payloadIsCompressed then 1 else pre.dsz
  let need ← B.usizeSum [S.epBitmapBytes, pre.senderWireLen, reliableLen, payloadLen]
  ensure (need ≤ r.remaining) (.deserialize "short buffer")
  let (bm, r) ← r.readBytes S.epBitmapBytes
  let eps ← expandEndpointBitmap S bm
  ensure (eps.length = pre.nep) (.deserialize "endpoint count mismatch")
  let (senderWire, r) ← r.readBytes pre.senderWireLen
  let sender ← decodeSenderName B senderWire pre.senderIsCompressed pre.slen
  let ty ← dataTypeFromRaw S pre.tyV
  let (_, r) ← readDataHeader S ty r
  let payload ← readPayload B pre r
  Packet.new B ty eps sender pre.tsV payload

/-- The part `peek_envelope` and `peek_frame_info_inner` have in common: from
the prelude to the data type. -/
def readEnvelope (r : ByteReader) : Outcome (TelemetryEnvelope S × ByteReader) := do
  let (pre, r) ← readPrelude B r
  let need ← B.usizeSum [S.epBitmapBytes, pre.senderWireLen]
  ensure (need ≤ r.remaining) (.deserialize "short buffer")
  let (bm, r) ← r.readBytes S.epBitmapBytes
  let eps ← expandEndpointBitmap S bm
  ensure (eps.length = pre.nep) (.deserialize "endpoint count mismatch")
  let (senderWire, r) ← r.readBytes pre.senderWireLen
  let sender ← decodeSenderName B senderWire pre.senderIsCompressed pre.slen
  let ty ← dataTypeFromRaw S pre.tyV
  .ok (⟨ty, eps, sender, pre.tsV⟩, r)

def peekEnvelope (buf : List UInt8) : Outcome (TelemetryEnvelope S) := do
  let data ← verifyCrc32 B buf
  ensure (data ≠ []) (.deserialize "short prelude")
  let (envelope, _) ← readEnvelope B S (ByteReader.new data)
  .ok envelope

def peekFrameInfoInner (buf : List UInt8) : Outcome (TelemetryFrameInfo S) := do
  ensure (buf ≠ []) (.deserialize "short prelude")
  let (envelope, r) ← readEnvelope B S (ByteReader.new buf)
  if S.isReliableType envelope.ty then do
    ensure (reliableHeaderBytes ≤ r.remaining) (.deserialize "short buffer")
    let (hdr, _) ← readReliableHeader r
    .ok ⟨envelope, some hdr⟩
  else .ok ⟨envelope, none⟩

def peekFrameInfo (buf : List UInt8) : Outcome (TelemetryFrameInfo S) := do
  let data ← verifyCrc32 B buf
  peekFrameInfoInner B S data

def peekFrameInfoUnchecked (buf : List UInt8) : Outcome (TelemetryFrameInfo S) := do
  let (data, _) ← splitCrc32 buf
  peekFrameInfoInner B S data

def reliableHeaderOffset (buf : List UInt8) : Outcome (Option Nat) := do
  ensure (crc32Bytes + 1 ≤ buf.length) (.deserialize "short prelude")
  let (pre, r) ← readPrelude B (ByteReader.new (buf.take (buf.length - crc32Bytes)))
  let need ← B.usizeSum [S.epBitmapBytes, pre.senderWireLen]
  ensure (need ≤ r.remaining) (.deserialize "short buffer")
  let (_, r) ← r.readBytes S.epBitmapBytes
  let (_, r) ← r.readBytes pre.senderWireLen
  let ty ← dataTypeFromRaw S pre.tyV
  .ok (if S.isReliableType ty then some r.off else none)

/-- `buf[at..at + bytes.len()].copy_from_slice(bytes)`. -/
def overwrite (buf : List UInt8) (start : Nat) (bytes : List UInt8) : List UInt8 :=
  buf.take start ++ bytes ++ buf.drop (start + bytes.length)

/-- The buffer after the call, and the call's result. -/
def rewriteReliableHeader (buf : List UInt8) (hdr : ReliableHeader) :
    List UInt8 × Outcome Bool :=
  match reliableHeaderOffset B S buf with
  | .error e => (buf, .error e)
  | .ok none => (buf, .ok false)
  | .ok (some off) =>
    let dataLen := buf.length - crc32Bytes
    if dataLen - off < reliableHeaderBytes then (buf, reject "short buffer")
    else
      let buf := overwrite buf off (writeReliableHeader hdr)
      if buf.length < crc32Bytes then (buf, reject "short buffer")
      else (overwrite buf dataLen (u32LeBytes (B.crc32 (buf.take dataLen))), .ok true)

/-- The endpoint loop of `packet_id_from_wire`. -/
def hashBits (bm : List UInt8) : UInt64 → List Nat → Outcome UInt64
  | h, [] => .ok h
  | h, idx :: rest =>
    match bm[idx / 8]? with
    | none => panics "index out of bounds"
    | some byte =>
      if (byte >>> UInt8.ofNat (idx % 8)) &&& 1 ≠ 0 then do
        ensure (idx ≤ S.maxValueDataEndpoint) (.deserialize "bad endpoint bit set")
        let ep ← okOr (.deserialize "bad endpoint bit set") (S.endpointFromU32 idx)
        hashBits bm (hashBytesU64 h (asBytes (S.getEndpointMeta ep).name)) rest
      else hashBits bm h rest

/-- The logical sender bytes, not checked to be UTF-8. -/
def senderHashBytes (pre : Prelude) (senderWire : List UInt8) : Outcome (List UInt8) :=
  if pre.senderIsCompressed then decompress B senderWire pre.slen else .ok senderWire

/-- The logical payload bytes, behind length checks `deserialize_packet` makes earlier. -/
def payloadHashBytes (pre : Prelude) (r : ByteReader) : Outcome (List UInt8) :=
  if pre.payloadIsCompressed then do
    ensure (1 ≤ r.remaining) (.deserialize "short buffer")
    let (comp, _) ← r.readBytes r.remaining
    decompress B comp pre.dsz
  else do
    ensure (pre.dsz ≤ r.remaining) (.deserialize "short buffer")
    let (payload, _) ← r.readBytes pre.dsz
    .ok payload

def packetIdFromWire (buf : List UInt8) : Outcome UInt64 := do
  let data ← verifyCrc32 B buf
  ensure (2 ≤ data.length) (.deserialize "short prelude")
  let (pre, r) ← readPrelude B (ByteReader.new data)
  let need ← B.usizeSum [S.epBitmapBytes, pre.senderWireLen]
  ensure (need ≤ r.remaining) (.deserialize "short buffer")
  let (bm, r) ← r.readBytes S.epBitmapBytes
  let ty ← dataTypeFromRaw S pre.tyV
  let (senderWire, r) ← r.readBytes pre.senderWireLen
  let senderBytes ← senderHashBytes B pre senderWire
  let (_, r) ← readDataHeader S ty r
  let payload ← payloadHashBytes B pre r
  let h := hashBytesU64 packetIdSeed senderBytes
  let h := hashBytesU64 h (asBytes (S.getMessageName ty))
  let h ← hashBits S bm h (List.range S.epBitmapBits)
  let h := hashBytesU64 h (encodeLE 8 pre.tsV.toNat)
  let h := hashBytesU64 h (encodeLE 8 pre.dsz)
  .ok (hashBytesU64 h payload)

end Parsers
end Sedsprintf
