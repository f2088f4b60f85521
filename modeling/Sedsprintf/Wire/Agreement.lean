import Sedsprintf.Wire.RoundTrip

/-!
# The frame parsers agree

One inversion of `deserialize_packet` names every intermediate value of a
successful decode. Each of the other parsers is then run on those values; where
a parser checks something at another place, the check follows from a read that
already succeeded.
-/
namespace Sedsprintf

open Lib

section Readers
variable (B : Build)

theorem readUleb128Loop_reader {fuel : Nat} {acc v : UInt64} {shift : Nat} {r r' : ByteReader}
    (h : readUleb128Loop fuel acc shift r = .ok (v, r')) :
    r'.buf = r.buf ∧ r'.remaining ≤ r.remaining := by
  induction fuel generalizing acc shift r with
  | zero => simp [readUleb128Loop] at h
  | succ fuel ih =>
    obtain ⟨⟨b, r₁⟩, hbyte, hrest⟩ := bind_eq_ok.mp h
    obtain ⟨hbuf, hrem, -⟩ := ByteReader.readBytes_remaining (ByteReader.readByte_eq_ok hbyte)
    dsimp only at hrest
    split at hrest
    · simp only [Except.ok.injEq, Prod.mk.injEq] at hrest
      obtain ⟨-, rfl⟩ := hrest
      exact ⟨hbuf, by omega⟩
    · obtain ⟨hbuf', hrem'⟩ := ih hrest
      exact ⟨hbuf'.trans hbuf, by omega⟩

/-- The prelude is at least its two fixed bytes long. -/
theorem readPrelude_reader {r r' : ByteReader} {pre : Prelude}
    (h : readPrelude B r = .ok (pre, r')) :
    r'.buf = r.buf ∧ r'.remaining + 2 ≤ r.remaining := by
  obtain ⟨⟨flags, r₁⟩, hflags, h⟩ := bind_eq_ok.mp h
  obtain ⟨⟨nep, r₂⟩, hnep, h⟩ := bind_eq_ok.mp h
  obtain ⟨⟨tyV, r₃⟩, hty, h⟩ := bind_eq_ok.mp h
  obtain ⟨⟨dsz, r₄⟩, hdsz, h⟩ := bind_eq_ok.mp h
  obtain ⟨⟨tsV, r₅⟩, hts, h⟩ := bind_eq_ok.mp h
  obtain ⟨⟨slen, r₆⟩, hslen, h⟩ := bind_eq_ok.mp h
  obtain ⟨⟨wireLen, r₇⟩, hwire, h⟩ := bind_eq_ok.mp h
  simp only [Except.ok.injEq, Prod.mk.injEq] at h
  obtain ⟨-, rfl⟩ := h
  have h₁ := ByteReader.readBytes_remaining (ByteReader.readByte_eq_ok hflags)
  have h₂ := ByteReader.readBytes_remaining (ByteReader.readByte_eq_ok hnep)
  have h₃ := readUleb128Loop_reader hty
  have h₄ := readUleb128Loop_reader hdsz
  have h₅ := readUleb128Loop_reader hts
  have h₆ := readUleb128Loop_reader hslen
  have h₇ : r₇.buf = r₆.buf ∧ r₇.remaining ≤ r₆.remaining := by
    unfold readSenderWireLen at hwire
    split at hwire
    · exact readUleb128Loop_reader hwire
    · simp only [Except.ok.injEq, Prod.mk.injEq] at hwire
      obtain ⟨-, rfl⟩ := hwire
      exact ⟨rfl, le_rfl⟩
  refine ⟨?_, by omega⟩
  rw [h₇.1, h₆.1, h₅.1, h₄.1, h₃.1, h₂.1, h₁.1]

theorem decompress_length {compressed out : List UInt8} {n : Nat}
    (h : decompress B compressed n = .ok out) : out.length = n := by
  unfold decompress at h
  split at h
  · simp at h
  · obtain ⟨_, -, h⟩ := bind_eq_ok.mp h
    obtain ⟨out', -, h⟩ := bind_eq_ok.mp h
    obtain ⟨_, hlen, h⟩ := bind_eq_ok.mp h
    obtain rfl := Except.ok.inj h
    exact ensure_eq_ok.mp hlen

/-- The name hashed for the packet identity is the decoded sender. -/
theorem senderHashBytes_of_decode {pre : Prelude} {wire : List UInt8} {sender : String}
    (h : decodeSenderName B wire pre.senderIsCompressed pre.slen = .ok sender) :
    senderHashBytes B pre wire = .ok (asBytes sender) := by
  unfold decodeSenderName at h
  unfold senderHashBytes
  split at h
  · rename_i hc
    obtain ⟨bytes, hdec, hutf⟩ := bind_eq_ok.mp h
    rw [if_pos hc, hdec, fromUtf8_eq_some.mp (okOr_eq_ok.mp hutf)]
  · rename_i hc
    rw [if_neg hc, fromUtf8_eq_some.mp (okOr_eq_ok.mp h)]

theorem readPayload_length {pre : Prelude} {r : ByteReader} {payload : List UInt8}
    (h : readPayload B pre r = .ok payload) : payload.length = pre.dsz := by
  unfold readPayload at h
  split at h
  · obtain ⟨⟨comp, r'⟩, -, hdec⟩ := bind_eq_ok.mp h
    exact decompress_length B hdec
  · obtain ⟨⟨bytes, r'⟩, hread, hval⟩ := bind_eq_ok.mp h
    obtain rfl := Except.ok.inj hval
    exact (ByteReader.readBytes_remaining hread).2.2

/-- The identity's own length checks repeat what the decoder established. -/
theorem payloadHashBytes_of_read {pre : Prelude} {r : ByteReader} {payload : List UInt8}
    (h : readPayload B pre r = .ok payload)
    (hroom : pre.payloadIsCompressed = true → 1 ≤ r.remaining) :
    payloadHashBytes B pre r = .ok payload := by
  unfold readPayload at h
  unfold payloadHashBytes
  split at h
  · rename_i hc
    rw [if_pos hc, ensure_of (hroom hc), ok_bind]
    exact h
  · rename_i hc
    obtain ⟨⟨bytes, r'⟩, hread, -⟩ := bind_eq_ok.mp h
    rw [if_neg hc, ensure_of (ByteReader.readBytes_eq_ok.mp hread).1, ok_bind]
    exact h

end Readers

section Identity
variable {S : Schema}

private theorem hashBits_eq {bm : List UInt8} (hlen : bm.length = S.epBitmapBytes)
    (eps : List S.DataEndpoint) (h : UInt64) :
    hashBits S bm h (eps.map Fin.val) =
      .ok (hashEndpoints h (eps.filter fun ep => testBitAt bm ep.val)) := by
  induction eps generalizing h with
  | nil => rfl
  | cons ep rest ih =>
    obtain ⟨byte, hget, hbit⟩ := bit_read hlen ep.isLt
    have hep : S.endpointFromU32 ep.val = some ep := by simp [Schema.endpointFromU32]
    have hmax : ep.val ≤ S.maxValueDataEndpoint := by
      have := ep.isLt
      simp only [Schema.maxValueDataEndpoint]
      omega
    rw [List.map_cons, hashBits, hget]
    by_cases hset : testBitAt bm ep.val = true
    · simp only [if_pos (hbit.mpr hset), ensure_of hmax, hep, okOr, ok_bind, ih, List.filter_cons,
        if_pos hset]
      rfl
    · simp only [if_neg (mt hbit.mp hset), ih, List.filter_cons, if_neg hset]

/-- Hashing the bits in place hashes the endpoints they expand to. -/
theorem hashBits_eq_hashEndpoints {bm : List UInt8} (hlen : bm.length = S.epBitmapBytes)
    (h : UInt64) :
    hashBits S bm h (List.range S.epBitmapBits) = .ok (hashEndpoints h (bitmapEndpoints S bm)) := by
  rw [range_epBitmapBits, hashBits_eq hlen]
  rfl

end Identity

theorem take_eq_of_appendCrc32 {B : Build} {buf data : List UInt8}
    (h : buf = appendCrc32 B data) : buf.take (buf.length - crc32Bytes) = data := by
  subst h
  simp [appendCrc32, crc32Bytes]

theorem readDataHeader_eq_ok {S : Schema} {ty : S.DataType} {r r' : ByteReader}
    {hdr : Option ReliableHeader} (h : readDataHeader S ty r = .ok (hdr, r')) :
    (S.isReliableType ty = true ∧ ∃ hd, hdr = some hd ∧ readReliableHeader r = .ok (hd, r')) ∨
      (S.isReliableType ty = false ∧ hdr = none ∧ r' = r) := by
  unfold readDataHeader at h
  split at h
  · rename_i hty
    obtain ⟨⟨hd, r₁⟩, hread, h⟩ := bind_eq_ok.mp h
    obtain ⟨_, -, h⟩ := bind_eq_ok.mp h
    simp only [Except.ok.injEq, Prod.mk.injEq] at h
    obtain ⟨rfl, rfl⟩ := h
    exact .inl ⟨hty, hd, rfl, hread⟩
  · rename_i hty
    simp only [Except.ok.injEq, Prod.mk.injEq] at h
    obtain ⟨rfl, rfl⟩ := h
    exact .inr ⟨by simpa using hty, rfl, rfl⟩

section Decoded
variable (B : Build) (S : Schema)

/-- Every value `deserialize_packet` computes on its way to `p`. -/
structure Decoded (buf : List UInt8) (p : Packet S) where
  data : List UInt8
  pre : Prelude
  afterPrelude : ByteReader
  need : Nat
  bm : List UInt8
  afterBitmap : ByteReader
  senderWire : List UInt8
  afterSender : ByteReader
  hdr : Option ReliableHeader
  afterHeader : ByteReader
  payload : List UInt8
  crc_ok : verifyCrc32 B buf = .ok data
  data_ne_nil : data ≠ []
  prelude_ok : readPrelude B (.new data) = .ok (pre, afterPrelude)
  type_ok : dataTypeFromRaw S pre.tyV = .ok p.ty
  need_ok : B.usizeSum [S.epBitmapBytes, pre.senderWireLen,
    if S.isReliableType p.ty then reliableHeaderBytes else 0,
    if pre.payloadIsCompressed then 1 else pre.dsz] = .ok need
  need_le : need ≤ afterPrelude.remaining
  bitmap_ok : afterPrelude.readBytes S.epBitmapBytes = .ok (bm, afterBitmap)
  expand_ok : expandEndpointBitmap S bm = .ok p.endpoints
  count_ok : p.endpoints.length = pre.nep
  sender_read : afterBitmap.readBytes pre.senderWireLen = .ok (senderWire, afterSender)
  sender_ok : decodeSenderName B senderWire pre.senderIsCompressed pre.slen = .ok p.sender
  header_ok : readDataHeader S p.ty afterSender = .ok (hdr, afterHeader)
  payload_ok : readPayload B pre afterHeader = .ok payload
  new_ok : Packet.new B p.ty p.endpoints p.sender pre.tsV payload = .ok p

variable {B S}

theorem Decoded.exists_of_ok {buf : List UInt8} {p : Packet S}
    (h : deserializePacket B S buf = .ok p) : Nonempty (Decoded B S buf p) := by
  obtain ⟨data, hcrc, h⟩ := bind_eq_ok.mp h
  obtain ⟨_, hne, h⟩ := bind_eq_ok.mp h
  obtain ⟨⟨pre, r₁⟩, hpre, h⟩ := bind_eq_ok.mp h
  obtain ⟨reliable, hrel, h⟩ := bind_eq_ok.mp h
  obtain ⟨need, hneed, h⟩ := bind_eq_ok.mp h
  obtain ⟨_, hle, h⟩ := bind_eq_ok.mp h
  obtain ⟨⟨bm, r₂⟩, hbm, h⟩ := bind_eq_ok.mp h
  obtain ⟨eps, heps, h⟩ := bind_eq_ok.mp h
  obtain ⟨_, hcount, h⟩ := bind_eq_ok.mp h
  obtain ⟨⟨wire, r₃⟩, hwire, h⟩ := bind_eq_ok.mp h
  obtain ⟨sender, hsender, h⟩ := bind_eq_ok.mp h
  obtain ⟨ty, hty, h⟩ := bind_eq_ok.mp h
  obtain ⟨⟨hdr, r₄⟩, hhdr, h⟩ := bind_eq_ok.mp h
  obtain ⟨payload, hpayload, hnew⟩ := bind_eq_ok.mp h
  obtain ⟨ty', hty', hrel⟩ := bind_eq_ok.mp hrel
  obtain rfl := Except.ok.inj (hty.symm.trans hty')
  obtain rfl := Except.ok.inj hrel
  have hfields := hnew
  obtain ⟨-, -, stored, -, rfl⟩ := (Packet.new_eq_ok B).mp hfields
  exact ⟨{ data := data, pre := pre, afterPrelude := r₁, need := need, bm := bm,
           afterBitmap := r₂, senderWire := wire, afterSender := r₃, hdr := hdr,
           afterHeader := r₄, payload := payload, crc_ok := hcrc,
           data_ne_nil := ensure_eq_ok.mp hne, prelude_ok := hpre, type_ok := hty,
           need_ok := hneed, need_le := ensure_eq_ok.mp hle, bitmap_ok := hbm, expand_ok := heps,
           count_ok := ensure_eq_ok.mp hcount, sender_read := hwire, sender_ok := hsender,
           header_ok := hhdr, payload_ok := hpayload, new_ok := hnew }⟩

/-- The envelope of a packet. -/
def Packet.envelope (p : Packet S) : TelemetryEnvelope S :=
  ⟨p.ty, p.endpoints, p.sender, p.timestamp⟩

namespace Decoded
variable {buf : List UInt8} {p : Packet S} (d : Decoded B S buf p)
include d

theorem buf_eq : buf = appendCrc32 B d.data := (verifyCrc32_eq_ok B).mp d.crc_ok

theorem data_length : d.data.length + crc32Bytes = buf.length := by
  have h := congrArg List.length d.buf_eq
  simpa [appendCrc32, crc32Bytes] using h.symm

theorem afterSender_buf : d.afterSender.buf = d.data := by
  have h₁ := (readPrelude_reader B d.prelude_ok).1
  have h₂ := (ByteReader.readBytes_remaining d.bitmap_ok).1
  have h₃ := (ByteReader.readBytes_remaining d.sender_read).1
  rw [h₃, h₂, h₁]
  rfl

theorem remaining_le : d.afterPrelude.remaining + 2 ≤ d.data.length := by
  have h := (readPrelude_reader B d.prelude_ok).2
  simpa [ByteReader.new, ByteReader.remaining] using h

/-- The bitmap and the sender were both read, so both fit. -/
theorem room : S.epBitmapBytes + d.pre.senderWireLen + d.afterSender.remaining =
    d.afterPrelude.remaining := by
  have h₂ := (ByteReader.readBytes_remaining d.bitmap_ok).2.1
  have h₃ := (ByteReader.readBytes_remaining d.sender_read).2.1
  omega

theorem short_sum (hslice : buf.length ≤ B.isizeMax) :
    B.usizeSum [S.epBitmapBytes, d.pre.senderWireLen] =
      .ok (S.epBitmapBytes + d.pre.senderWireLen) := by
  have hlen := d.data_length
  have hrem := d.remaining_le
  have hroom := d.room
  have hmodulus := B.isizeMax_lt
  exact B.usizeSum_of_lt _ (by simp only [List.sum_cons, List.sum_nil]; omega)

theorem timestamp_eq : d.pre.tsV = p.timestamp := by
  obtain ⟨-, -, stored, -, hp⟩ := (Packet.new_eq_ok B).mp d.new_ok
  exact (congrArg Packet.timestamp hp).symm

theorem payload_eq : p.payload.asSlice = d.payload ∧ p.dataSize = d.pre.dsz := by
  obtain ⟨-, -, stored, hstored, hp⟩ := (Packet.new_eq_ok B).mp d.new_ok
  have hpayload : p.payload = stored := congrArg Packet.payload hp
  have hsize : p.dataSize = d.payload.length := congrArg Packet.dataSize hp
  rw [hpayload, hsize]
  exact ⟨SmallPayload.asSlice_of_new hstored, readPayload_length B d.payload_ok⟩

theorem readEnvelope_eq (hslice : buf.length ≤ B.isizeMax) :
    readEnvelope B S (.new d.data) = .ok (p.envelope, d.afterSender) := by
  have hfits : S.epBitmapBytes + d.pre.senderWireLen ≤ d.afterPrelude.remaining := by
    have := d.room
    omega
  simp only [readEnvelope, d.prelude_ok, ok_bind, d.short_sum hslice, ensure_of hfits, d.bitmap_ok,
    d.expand_ok, ensure_of d.count_ok, d.sender_read, d.sender_ok, d.type_ok, d.timestamp_eq]
  rfl

theorem peekFrameInfoInner_eq (hslice : buf.length ≤ B.isizeMax) :
    peekFrameInfoInner B S d.data = .ok ⟨p.envelope, d.hdr⟩ := by
  simp only [peekFrameInfoInner, ensure_of d.data_ne_nil, ok_bind, d.readEnvelope_eq hslice]
  rcases readDataHeader_eq_ok d.header_ok with ⟨hty, hd, hhdr, hread⟩ | ⟨hty, hhdr, -⟩
  · have hroom := (ByteReader.readBytes_eq_ok.mp (readReliableHeader_eq_ok hread)).1
    rw [if_pos (show S.isReliableType p.envelope.ty = true from hty), ensure_of hroom, ok_bind,
      hread, ok_bind, hhdr]
  · rw [if_neg (by simp [Packet.envelope, hty]), hhdr]

theorem hdr_isSome : d.hdr.isSome = S.isReliableType p.ty := by
  rcases readDataHeader_eq_ok d.header_ok with ⟨hty, hd, hhdr, -⟩ | ⟨hty, hhdr, -⟩
  · simp [hhdr, hty]
  · simp [hhdr, hty]

theorem reliableHeaderOffset_eq (hslice : buf.length ≤ B.isizeMax) :
    reliableHeaderOffset B S buf =
      .ok (if S.isReliableType p.ty then some d.afterSender.off else none) := by
  have hlen := d.data_length
  have hrem := d.remaining_le
  have hdata : buf.take (buf.length - crc32Bytes) = d.data := take_eq_of_appendCrc32 d.buf_eq
  have hfits : S.epBitmapBytes + d.pre.senderWireLen ≤ d.afterPrelude.remaining := by
    have := d.room
    omega
  simp only [reliableHeaderOffset, ensure_of (show crc32Bytes + 1 ≤ buf.length by omega), ok_bind,
    hdata, d.prelude_ok, d.short_sum hslice, ensure_of hfits, d.bitmap_ok, d.sender_read,
    d.type_ok]

/-- The header parsed is the nine bytes of the buffer under the cursor. -/
theorem header_bytes {hd : ReliableHeader} (hhdr : d.hdr = some hd) :
    (buf.drop d.afterSender.off).take reliableHeaderBytes = writeReliableHeader hd := by
  rcases readDataHeader_eq_ok d.header_ok with ⟨-, hd', hhdr', hread⟩ | ⟨-, hnone, -⟩
  · obtain rfl := Option.some.inj (hhdr'.symm.trans hhdr)
    obtain ⟨hroom, hbytes, -⟩ := ByteReader.readBytes_eq_ok.mp (readReliableHeader_eq_ok hread)
    rw [ByteReader.remaining, d.afterSender_buf] at hroom
    have hinside : reliableHeaderBytes ≤ (d.data.drop d.afterSender.off).length := by
      simpa using hroom
    have hoff : d.afterSender.off ≤ d.data.length := by
      simp only [reliableHeaderBytes] at hroom
      omega
    have hdrop : buf.drop d.afterSender.off =
        d.data.drop d.afterSender.off ++ u32LeBytes (B.crc32 d.data) := by
      rw [← List.drop_append_of_le_length hoff]
      exact congrArg (List.drop d.afterSender.off) d.buf_eq
    rw [hbytes, d.afterSender_buf, hdrop, List.take_append_of_le_length hinside]
  · simp [hnone] at hhdr

theorem compressed_room (hslice : buf.length ≤ B.isizeMax)
    (hcomp : d.pre.payloadIsCompressed = true) : 1 ≤ d.afterHeader.remaining := by
  have hlen := d.data_length
  have hrem := d.remaining_le
  have hroom := d.room
  have hmodulus : B.isizeMax + 10 ≤ B.usizeModulus := by
    rcases B.usizeBits_eq with h | h <;> simp [Build.usizeModulus, Build.isizeMax, h]
  have hneed := d.need_ok
  have hle := d.need_le
  simp only [hcomp, if_true] at hneed
  rcases readDataHeader_eq_ok d.header_ok with ⟨hty, hd, -, hread⟩ | ⟨hty, -, hafter⟩
  · have hhdr := (ByteReader.readBytes_remaining (readReliableHeader_eq_ok hread)).2.1
    rw [B.usizeSum_of_lt _ (by simp [hty, reliableHeaderBytes]; omega)] at hneed
    have hsum := Except.ok.inj hneed
    simp only [hty, if_true, List.sum_cons, List.sum_nil] at hsum
    omega
  · rw [B.usizeSum_of_lt _ (by simp [hty]; omega)] at hneed
    have hsum := Except.ok.inj hneed
    simp only [hty, List.sum_cons, List.sum_nil, Bool.false_eq_true, if_false] at hsum
    rw [hafter]
    omega

/-- The wire identity absorbs the payload size as eight bytes on every target. -/
theorem packetIdFromWire_eq_identity (hslice : buf.length ≤ B.isizeMax) :
    packetIdFromWire B S buf = .ok (p.identity 8) := by
  have hrem := d.remaining_le
  have hfits : S.epBitmapBytes + d.pre.senderWireLen ≤ d.afterPrelude.remaining := by
    have := d.room
    omega
  have hbm := (ByteReader.readBytes_remaining d.bitmap_ok).2.2
  have heps : p.endpoints = bitmapEndpoints S d.bm :=
    Except.ok.inj (d.expand_ok.symm.trans (expandEndpointBitmap_eq hbm))
  have hpayload := payloadHashBytes_of_read B d.payload_ok (d.compressed_room hslice)
  simp only [packetIdFromWire, d.crc_ok, ok_bind,
    ensure_of (show 2 ≤ d.data.length by omega), d.prelude_ok, d.short_sum hslice, ensure_of hfits,
    d.bitmap_ok, d.type_ok, d.sender_read, senderHashBytes_of_decode B d.sender_ok, d.header_ok,
    hpayload, hashBits_eq_hashEndpoints hbm]
  simp only [Packet.identity, heps, d.timestamp_eq, d.payload_eq.1, d.payload_eq.2]

theorem packetIdFromWire_eq (hslice : buf.length ≤ B.isizeMax) (hbits : B.usizeBits = 64) :
    packetIdFromWire B S buf = .ok (p.packetId B) := by
  rw [d.packetIdFromWire_eq_identity hslice, Packet.packetId_eq_identity, hbits]

end Decoded

/-- **The parsers agree.** On every buffer the decoder accepts, the peeks
succeed with the decoded packet's envelope; a reliable header is found exactly
for a reliable type, at the offset the locator returns; and on a 64-bit target
the identity computed from the wire is the packet's. -/
theorem parsers_agree_with_deserialize {buf : List UInt8} {p : Packet S}
    (hslice : buf.length ≤ B.isizeMax) (hdec : deserializePacket B S buf = .ok p) :
    peekEnvelope B S buf = .ok p.envelope ∧
    (∃ hdr, peekFrameInfo B S buf = .ok ⟨p.envelope, hdr⟩ ∧
      peekFrameInfoUnchecked B S buf = .ok ⟨p.envelope, hdr⟩ ∧
      (hdr.isSome = true ↔ S.isReliableType p.ty = true) ∧
      ∃ off, reliableHeaderOffset B S buf = .ok off ∧
        (off.isSome = true ↔ S.isReliableType p.ty = true) ∧
        ∀ o ∈ off, ∀ h ∈ hdr, (buf.drop o).take reliableHeaderBytes = writeReliableHeader h) ∧
    (B.usizeBits = 64 → packetIdFromWire B S buf = .ok (p.packetId B)) := by
  obtain ⟨d⟩ := Decoded.exists_of_ok hdec
  refine ⟨?_, ⟨d.hdr, ?_, ?_, by rw [d.hdr_isSome], _, d.reliableHeaderOffset_eq hslice, ?_, ?_⟩,
    d.packetIdFromWire_eq hslice⟩
  · simp only [peekEnvelope, d.crc_ok, ok_bind, ensure_of d.data_ne_nil, d.readEnvelope_eq hslice]
  · simp only [peekFrameInfo, d.crc_ok, ok_bind, d.peekFrameInfoInner_eq hslice]
  · have hsplit : splitCrc32 buf = .ok (d.data, B.crc32 d.data) :=
      (congrArg splitCrc32 d.buf_eq).trans (splitCrc32_append _ _)
    simp only [peekFrameInfoUnchecked, hsplit, ok_bind, d.peekFrameInfoInner_eq hslice]
  · cases S.isReliableType p.ty <;> simp
  · intro o ho h hh
    rw [Option.mem_def, ite_eq_iff] at ho
    rcases ho with ⟨-, ho⟩ | ⟨-, ho⟩
    · obtain rfl := Option.some.inj ho
      exact d.header_bytes hh
    · simp at ho

/-- `gpsPacket` as the decoder returns it. -/
def gpsDecoded : Packet defaultSchema :=
  { gpsPacket with endpoints := [0, 1] }

/-- `gpsPacket` on the wire with sequence number 7. -/
def gpsFrame : List UInt8 :=
  [0, 2, 0, 12, 172, 2, 2, 3, 102, 99, 0, 7, 0, 0, 0, 0, 0, 0, 0,
    0, 0, 32, 65, 0, 0, 160, 65, 0, 0, 240, 65, 21, 48, 202, 217]

theorem parsers_agree_on_gpsFrame :
    deserializePacket hostBuild defaultSchema gpsFrame = .ok gpsDecoded ∧
      peekEnvelope hostBuild defaultSchema gpsFrame = .ok gpsDecoded.envelope ∧
      packetIdFromWire hostBuild defaultSchema gpsFrame = .ok (gpsDecoded.packetId hostBuild) := by
  have hdec : deserializePacket hostBuild defaultSchema gpsFrame = .ok gpsDecoded := by
    decide +kernel
  have h := parsers_agree_with_deserialize (by decide) hdec
  exact ⟨hdec, h.1, h.2.2 rfl⟩

end Decoded
end Sedsprintf
