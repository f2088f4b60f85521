import Sedsprintf.Wire.Header
import Sedsprintf.Wire.Identity
import Sedsprintf.Wire.Numbers
import Sedsprintf.Wire.Panics

/-!
# Frames from strangers

The lengths that a frame declares are added up before any of them is compared with the bytes at
hand, and a compressed field is given a buffer of its declared length. The readers of numbers
drop what their integers cannot hold.
-/
namespace Sedsprintf

open Lib

/-- The bytes in front of the checksum. -/
def frameData (buf : List UInt8) : List UInt8 := buf.take (buf.length - crc32Bytes)

/-- What a parser finds up to the sender. -/
structure Scanned (B : Build) (S : Schema) (data : List UInt8) where
  pre : Prelude
  afterPrelude : ByteReader
  bm : List UInt8
  afterBitmap : ByteReader
  senderWire : List UInt8
  afterSender : ByteReader
  prelude_ok : readPrelude B (.new data) = .ok (pre, afterPrelude)
  bitmap_ok : afterPrelude.readBytes S.epBitmapBytes = .ok (bm, afterBitmap)
  sender_read : afterBitmap.readBytes pre.senderWireLen = .ok (senderWire, afterSender)

/-- A frame with a good checksum and of a known type. -/
def Genuine (B : Build) (S : Schema) (buf : List UInt8) (pre : Prelude) (ty : S.DataType) : Prop :=
  verifyCrc32 B buf = .ok (frameData buf) ∧ dataTypeFromRaw S pre.tyV = .ok ty

/-- The lengths that a frame declares can be added up where the parsers add them, and
decompressed to where a compressed field is. -/
structure LengthsFit (B : Build) (S : Schema) (buf : List UInt8) : Prop where
  sender : ∀ pre r, readPrelude B (.new (frameData buf)) = .ok (pre, r) →
    S.epBitmapBytes + pre.senderWireLen < B.usizeModulus
  frame : ∀ pre r ty, readPrelude B (.new (frameData buf)) = .ok (pre, r) →
    Genuine B S buf pre ty →
    S.epBitmapBytes + pre.senderWireLen + (if S.isReliableType ty then reliableHeaderBytes else 0) +
      (if pre.payloadIsCompressed then 1 else pre.dsz) < B.usizeModulus
  senderBuffer : ∀ s : Scanned B S (frameData buf), s.pre.senderIsCompressed = true →
    B.compression.isSome = true →
    (bitmapEndpoints S s.bm).length = s.pre.nep ∨ (∃ ty, Genuine B S buf s.pre ty) →
    s.pre.slen ≤ B.isizeMax
  payloadBuffer : ∀ (s : Scanned B S (frameData buf)) ty name hdr r, Genuine B S buf s.pre ty →
    senderHashBytes B s.pre s.senderWire = .ok name →
    readDataHeader S ty s.afterSender = .ok (hdr, r) → s.pre.payloadIsCompressed = true →
    1 ≤ r.remaining → B.compression.isSome = true → s.pre.dsz ≤ B.isizeMax

/-- The seven decoders return on the buffer. -/
structure AlwaysReturns (B : Build) (S : Schema) (buf : List UInt8) : Prop where
  deserialize : NeverPanics (deserializePacket B S buf)
  envelope : NeverPanics (peekEnvelope B S buf)
  info : NeverPanics (peekFrameInfo B S buf)
  unchecked : NeverPanics (peekFrameInfoUnchecked B S buf)
  offset : NeverPanics (reliableHeaderOffset B S buf)
  rewrite : ∀ hdr, NeverPanics (rewriteReliableHeader B S buf hdr).2
  identity : NeverPanics (packetIdFromWire B S buf)

/-- What a packet needs to be stored in a build: inline buffers whose length fits their byte, and
static sizes that fit an address. -/
structure Build.Stores (B : Build) (S : Schema) : Prop where
  inline : B.maxStackPayload ≤ 255
  static : ∀ ty count dt cls, (S.getMessageMeta ty).element = .static count dt cls →
    count * dataTypeSize B (S.getDataType ty) < B.usizeModulus

section Storing
variable {B : Build} {S : Schema}

theorem Build.Stores.new_neverPanics (h : B.Stores S) (ty : S.DataType)
    (endpoints : List S.DataEndpoint) (sender : String) (timestamp : UInt64) (payload : List UInt8) :
    NeverPanics (Packet.new B ty endpoints sender timestamp payload) := by
  have helement : NeverPanics (checkElement B ty payload) := by
    unfold checkElement
    split
    · rename_i count dt cls helement
      have hmul := h.static ty count dt cls helement
      rw [Build.usizeMul, if_pos hmul, ok_bind]
      split
      · exact .fail _
      · exact .ok _
    · unfold validateDynamicLenAndContent
      split
      · dsimp only
        split
        · split
          · exact .ok _
          · exact .fail _
        · exact .ok _
      · exact .ok _
      · dsimp only
        split
        · exact .fail _
        · exact .ok _
  have hstored : NeverPanics (SmallPayload.new B.maxStackPayload payload) := by
    have hinline := h.inline
    unfold SmallPayload.new
    split
    · rw [if_pos (by omega)]
      exact .ok _
    · exact .ok _
  unfold Packet.new
  split
  · exact .fail _
  · exact helement.bind fun _ _ => hstored.bind fun stored _ => .ok _

end Storing

section Parsers
variable {B : Build} {S : Schema} {buf data : List UInt8}

theorem readPrelude_ne_nil {pre : Prelude} {r : ByteReader}
    (h : readPrelude B (.new data) = .ok (pre, r)) : data ≠ [] := by
  have hlen := (readPrelude_reader B h).2
  rintro rfl
  simp [ByteReader.new, ByteReader.remaining] at hlen

theorem Scanned.room (s : Scanned B S data) :
    S.epBitmapBytes + s.pre.senderWireLen + s.afterSender.remaining = s.afterPrelude.remaining := by
  have hbitmap := (ByteReader.readBytes_remaining s.bitmap_ok).2.1
  have hsender := (ByteReader.readBytes_remaining s.sender_read).2.1
  omega

theorem Scanned.bm_length (s : Scanned B S data) : s.bm.length = S.epBitmapBytes :=
  (ByteReader.readBytes_remaining s.bitmap_ok).2.2

theorem frameData_of_splitCrc32 {crc : UInt32} (h : splitCrc32 buf = .ok (data, crc)) :
    data = frameData buf := by
  unfold splitCrc32 at h
  split at h
  · simp at h
  · exact (Prod.mk.inj (Except.ok.inj h)).1.symm

theorem frameData_of_verifyCrc32 (h : verifyCrc32 B buf = .ok data) : data = frameData buf := by
  obtain ⟨split, hsplit, h⟩ := bind_eq_ok.mp h
  dsimp only at h
  split at h
  · simp at h
  · rw [← Except.ok.inj h]
    exact frameData_of_splitCrc32 hsplit

theorem length_of_frameData (h : frameData buf ≠ []) : crc32Bytes + 1 ≤ buf.length := by
  have hpos := List.length_pos_iff.mpr h
  rw [frameData, List.length_take] at hpos
  omega

section Returning
variable (hchecks : B.overflowChecks = true)
include hchecks

theorem usizeSum_two_neverPanics_iff (a b : Nat) :
    NeverPanics (B.usizeSum [a, b]) ↔ a + b < B.usizeModulus := by
  rw [usizeSum_neverPanics_iff B hchecks]
  simp

theorem readEnvelope_neverPanics_iff : NeverPanics (readEnvelope B S (.new data)) ↔
    (∀ pre r, readPrelude B (.new data) = .ok (pre, r) →
      S.epBitmapBytes + pre.senderWireLen < B.usizeModulus) ∧
    ∀ s : Scanned B S data, (bitmapEndpoints S s.bm).length = s.pre.nep →
      s.pre.senderIsCompressed = true → B.compression.isSome = true → s.pre.slen ≤ B.isizeMax := by
  rw [readEnvelope, NeverPanics.bind_iff_of (readPrelude_neverPanics B _)]
  constructor
  · intro h
    refine ⟨fun pre r hpre => ?_, fun s hcount => ?_⟩
    · exact (usizeSum_two_neverPanics_iff hchecks _ _).mp (NeverPanics.bind_iff.mp (h _ hpre)).1
    · obtain ⟨hsum, h⟩ := NeverPanics.bind_iff.mp (h _ s.prelude_ok)
      have hsum := (usizeSum_two_neverPanics_iff hchecks _ _).mp hsum
      have h := h _ (B.usizeSum_of_lt _ (by simpa using hsum))
      have hroom := s.room
      have h := NeverPanics.ensure_bind_iff.mp h
        (by simp only [List.sum_cons, List.sum_nil]; omega)
      have h := (NeverPanics.bind_iff.mp h).2 _ s.bitmap_ok
      have h := (NeverPanics.bind_iff.mp h).2 _ (expandEndpointBitmap_eq s.bm_length)
      have h := NeverPanics.ensure_bind_iff.mp h hcount
      have h := (NeverPanics.bind_iff.mp h).2 _ s.sender_read
      exact (decodeSenderName_neverPanics_iff B _ _ _).mp (NeverPanics.bind_iff.mp h).1
  · rintro ⟨hsum, hbuffer⟩ ⟨pre, r⟩ hpre
    refine NeverPanics.bind ((usizeSum_two_neverPanics_iff hchecks _ _).mpr (hsum _ _ hpre))
      fun need _ => NeverPanics.ensure_bind_iff.mpr fun _ => ?_
    refine (ByteReader.readBytes_neverPanics _ _).bind fun bitmap hbitmap => ?_
    have hexpand := @expandEndpointBitmap_eq S bitmap.1 (ByteReader.readBytes_remaining hbitmap).2.2
    dsimp only
    rw [hexpand, ok_bind]
    refine NeverPanics.ensure_bind_iff.mpr fun hcount => ?_
    refine (ByteReader.readBytes_neverPanics _ _).bind fun sender hsender => ?_
    refine NeverPanics.bind ?_ fun name _ => (dataTypeFromRaw_neverPanics _).bind fun ty _ => .ok _
    exact (decodeSenderName_neverPanics_iff B _ _ _).mpr
      (hbuffer ⟨pre, r, bitmap.1, bitmap.2, sender.1, sender.2, hpre, hbitmap, hsender⟩ hcount)

namespace LengthsFit
variable (h : LengthsFit B S buf)
include h

theorem readEnvelope : NeverPanics (readEnvelope B S (.new (frameData buf))) :=
  (readEnvelope_neverPanics_iff hchecks).mpr
    ⟨h.sender, fun s hcount hc hz => h.senderBuffer s hc hz (.inl hcount)⟩

theorem peekFrameInfoInner : NeverPanics (peekFrameInfoInner B S (frameData buf)) := by
  refine NeverPanics.ensure_bind_iff.mpr fun _ => (h.readEnvelope hchecks).bind fun env _ => ?_
  dsimp only
  split
  · refine NeverPanics.ensure_bind_iff.mpr fun _ => ?_
    exact (readReliableHeader_neverPanics _).bind fun hdr _ => .ok _
  · exact .ok _

theorem reliableHeaderOffset : NeverPanics (reliableHeaderOffset B S buf) := by
  refine NeverPanics.ensure_bind_iff.mpr fun _ => (readPrelude_neverPanics B _).bind fun read hpre => ?_
  refine NeverPanics.bind ((usizeSum_two_neverPanics_iff hchecks _ _).mpr (h.sender _ _ hpre))
    fun need _ => NeverPanics.ensure_bind_iff.mpr fun _ => ?_
  refine (ByteReader.readBytes_neverPanics _ _).bind fun bitmap _ => ?_
  refine (ByteReader.readBytes_neverPanics _ _).bind fun sender _ => ?_
  exact (dataTypeFromRaw_neverPanics _).bind fun ty _ => .ok _

theorem rewriteReliableHeader (hdr : ReliableHeader) :
    NeverPanics (rewriteReliableHeader B S buf hdr).2 := by
  have hoff := h.reliableHeaderOffset hchecks
  unfold Sedsprintf.rewriteReliableHeader
  split
  · rename_i e herror
    rw [herror] at hoff
    intro what heq
    exact hoff what (by rw [Except.error.inj heq]; rfl)
  · exact .ok _
  · dsimp only
    split
    · exact .fail _
    · split
      · exact .fail _
      · exact .ok _

theorem packetIdFromWire : NeverPanics (packetIdFromWire B S buf) := by
  refine (verifyCrc32_neverPanics B buf).bind fun data hcrc => ?_
  obtain rfl := frameData_of_verifyCrc32 hcrc
  refine NeverPanics.ensure_bind_iff.mpr fun _ => (readPrelude_neverPanics B _).bind fun read hpre => ?_
  refine NeverPanics.bind ((usizeSum_two_neverPanics_iff hchecks _ _).mpr (h.sender _ _ hpre))
    fun need _ => NeverPanics.ensure_bind_iff.mpr fun _ => ?_
  refine (ByteReader.readBytes_neverPanics _ _).bind fun bitmap hbitmap => ?_
  refine (dataTypeFromRaw_neverPanics _).bind fun ty hty => ?_
  refine (ByteReader.readBytes_neverPanics _ _).bind fun sender hsender => ?_
  have hlen := (ByteReader.readBytes_remaining hbitmap).2.2
  let scanned : Scanned B S (frameData buf) :=
    ⟨read.1, read.2, bitmap.1, bitmap.2, sender.1, sender.2, hpre, hbitmap, hsender⟩
  have hgenuine : Genuine B S buf scanned.pre ty := ⟨hcrc, hty⟩
  refine NeverPanics.bind ?_ fun name hname => ?_
  · exact (senderHashBytes_neverPanics_iff B _ _).mpr
      fun hc hz => h.senderBuffer scanned hc hz (.inr ⟨ty, hgenuine⟩)
  · refine (readDataHeader_neverPanics ty _).bind fun header hheader => ?_
    refine NeverPanics.bind ?_ fun payload _ => ?_
    · exact (payloadHashBytes_neverPanics_iff B _ _).mpr
        (h.payloadBuffer scanned ty name header.1 header.2 hgenuine hname hheader)
    · dsimp only
      rw [hashBits_eq_hashEndpoints hlen]
      exact .ok _

theorem deserializePacket (hstore : B.Stores S) : NeverPanics (deserializePacket B S buf) := by
  refine (verifyCrc32_neverPanics B buf).bind fun data hcrc => ?_
  obtain rfl := frameData_of_verifyCrc32 hcrc
  refine NeverPanics.ensure_bind_iff.mpr fun _ => (readPrelude_neverPanics B _).bind fun read hpre => ?_
  refine NeverPanics.bind ?_ fun reliable hreliable => ?_
  · exact (dataTypeFromRaw_neverPanics _).bind fun ty _ => .ok _
  obtain ⟨ty, hty, hreliable⟩ := bind_eq_ok.mp hreliable
  obtain rfl := Except.ok.inj hreliable
  have hgenuine : Genuine B S buf read.1 ty := ⟨hcrc, hty⟩
  have hfits := h.frame _ _ ty hpre hgenuine
  have hsum : ∀ need, B.usizeSum [S.epBitmapBytes, read.1.senderWireLen,
      if S.isReliableType ty then reliableHeaderBytes else 0,
      if read.1.payloadIsCompressed then 1 else read.1.dsz] = .ok need →
      need = S.epBitmapBytes + read.1.senderWireLen +
        (if S.isReliableType ty then reliableHeaderBytes else 0) +
        (if read.1.payloadIsCompressed then 1 else read.1.dsz) := by
    intro need hneed
    rw [B.usizeSum_of_lt _ (by simp only [List.sum_cons, List.sum_nil]; omega)] at hneed
    rw [← Except.ok.inj hneed]
    simp only [List.sum_cons, List.sum_nil]
    omega
  refine NeverPanics.bind ?_ fun need hneed => NeverPanics.ensure_bind_iff.mpr fun hroom => ?_
  · rw [usizeSum_neverPanics_iff B hchecks]
    simp only [List.sum_cons, List.sum_nil]
    omega
  obtain rfl := hsum need hneed
  refine (ByteReader.readBytes_neverPanics _ _).bind fun bitmap hbitmap => ?_
  have hexpand := @expandEndpointBitmap_eq S bitmap.1 (ByteReader.readBytes_remaining hbitmap).2.2
  dsimp only
  rw [hexpand, ok_bind]
  refine NeverPanics.ensure_bind_iff.mpr fun hcount => ?_
  refine (ByteReader.readBytes_neverPanics _ _).bind fun sender hsender => ?_
  let scanned : Scanned B S (frameData buf) :=
    ⟨read.1, read.2, bitmap.1, bitmap.2, sender.1, sender.2, hpre, hbitmap, hsender⟩
  have hscanned : S.epBitmapBytes + read.1.senderWireLen + sender.2.remaining =
    read.2.remaining := scanned.room
  refine NeverPanics.bind ?_ fun name hname => (dataTypeFromRaw_neverPanics _).bind fun ty' hty' => ?_
  · exact (decodeSenderName_neverPanics_iff B _ _ _).mpr
      fun hc hz => h.senderBuffer scanned hc hz (.inl hcount)
  obtain rfl := Except.ok.inj (hty.symm.trans hty')
  refine (readDataHeader_neverPanics ty _).bind fun header hheader => ?_
  refine NeverPanics.bind ?_ fun payload _ => hstore.new_neverPanics _ _ _ _ _
  refine (readPayload_neverPanics_iff B _ _).mpr fun hc hz => ?_
  -- the decoder has made sure of one byte behind the header
  refine h.payloadBuffer scanned ty (asBytes name) header.1 header.2 hgenuine
    (senderHashBytes_of_decode B hname) hheader hc ?_ hz
  rw [if_pos hc] at hroom
  rcases readDataHeader_eq_ok hheader with ⟨hreliable, hd, -, hread⟩ | ⟨-, -, heq⟩
  · have hlen := (ByteReader.readBytes_remaining (readReliableHeader_eq_ok hread)).2.1
    rw [if_pos hreliable] at hroom
    omega
  · rw [heq]
    omega

theorem alwaysReturns (hstore : B.Stores S) : AlwaysReturns B S buf where
  deserialize := h.deserializePacket hchecks hstore
  envelope := by
    refine (verifyCrc32_neverPanics B buf).bind fun data hcrc => ?_
    obtain rfl := frameData_of_verifyCrc32 hcrc
    exact NeverPanics.ensure_bind_iff.mpr fun _ => (h.readEnvelope hchecks).bind fun env _ => .ok _
  info := by
    refine (verifyCrc32_neverPanics B buf).bind fun data hcrc => ?_
    obtain rfl := frameData_of_verifyCrc32 hcrc
    exact h.peekFrameInfoInner hchecks
  unchecked := by
    refine (splitCrc32_neverPanics buf).bind fun split hsplit => ?_
    obtain ⟨data, crc⟩ := split
    obtain rfl := frameData_of_splitCrc32 hsplit
    exact h.peekFrameInfoInner hchecks
  offset := h.reliableHeaderOffset hchecks
  rewrite := h.rewriteReliableHeader hchecks
  identity := h.packetIdFromWire hchecks

end LengthsFit

/-- The identity of a genuine frame, from its sender on. -/
def identityRest (B : Build) (S : Schema) {data : List UInt8} (s : Scanned B S data) (ty : S.DataType) :
    Outcome UInt64 := do
  let senderBytes ← senderHashBytes B s.pre s.senderWire
  let (_, r) ← readDataHeader S ty s.afterSender
  let payload ← payloadHashBytes B s.pre r
  let h := hashBytesU64 packetIdSeed senderBytes
  let h := hashBytesU64 h (asBytes (S.getMessageName ty))
  let h ← hashBits S s.bm h (List.range S.epBitmapBits)
  let h := hashBytesU64 h (encodeLE 8 s.pre.tsV.toNat)
  let h := hashBytesU64 h (encodeLE 8 s.pre.dsz)
  .ok (hashBytesU64 h payload)

theorem AlwaysReturns.identity_afterSender (h : AlwaysReturns B S buf)
    (s : Scanned B S (frameData buf)) {ty : S.DataType} (hgenuine : Genuine B S buf s.pre ty) :
    NeverPanics (identityRest B S s ty) := by
  have hlen := (readPrelude_reader B s.prelude_ok).2
  have hroom := s.room
  have hbody := (NeverPanics.bind_iff.mp h.identity).2 _ hgenuine.1
  have hbody := NeverPanics.ensure_bind_iff.mp hbody
    (by simp only [ByteReader.new, ByteReader.remaining] at hlen; omega)
  obtain ⟨hsum, hbody⟩ := NeverPanics.bind_iff.mp ((NeverPanics.bind_iff.mp hbody).2 _ s.prelude_ok)
  have hsum := (usizeSum_two_neverPanics_iff hchecks _ _).mp hsum
  have hbody := hbody _ (B.usizeSum_of_lt _ (by simpa using hsum))
  have hbody := NeverPanics.ensure_bind_iff.mp hbody
    (by simp only [List.sum_cons, List.sum_nil]; omega)
  have hbody := (NeverPanics.bind_iff.mp hbody).2 _ s.bitmap_ok
  have hbody := (NeverPanics.bind_iff.mp hbody).2 _ hgenuine.2
  exact (NeverPanics.bind_iff.mp hbody).2 _ s.sender_read

/-- What each field of `LengthsFit` asks for is where one of the decoders would panic. -/
theorem AlwaysReturns.lengthsFit (h : AlwaysReturns B S buf) : LengthsFit B S buf where
  sender pre r hpre := by
    have hne := readPrelude_ne_nil hpre
    have hoff := NeverPanics.ensure_bind_iff.mp h.offset (length_of_frameData hne)
    exact (usizeSum_two_neverPanics_iff hchecks _ _).mp
      (NeverPanics.bind_iff.mp ((NeverPanics.bind_iff.mp hoff).2 _ hpre)).1
  frame pre r ty hpre hgenuine := by
    have hne := readPrelude_ne_nil hpre
    have hreliable : isReliableTypeFromRaw S pre.tyV = .ok (S.isReliableType ty) := by
      rw [isReliableTypeFromRaw, hgenuine.2, ok_bind]
    have hbody := (NeverPanics.bind_iff.mp h.deserialize).2 _ hgenuine.1
    have hbody := (NeverPanics.bind_iff.mp (NeverPanics.ensure_bind_iff.mp hbody hne)).2 _ hpre
    have hbody := (NeverPanics.bind_iff.mp hbody).2 _ hreliable
    have hsum := (usizeSum_neverPanics_iff B hchecks _).mp (NeverPanics.bind_iff.mp hbody).1
    simp only [List.sum_cons, List.sum_nil] at hsum
    omega
  senderBuffer s hc hz hused := by
    have hne := readPrelude_ne_nil s.prelude_ok
    rcases hused with hcount | ⟨ty, hgenuine⟩
    · have hsplit : ∃ crc, splitCrc32 buf = .ok (frameData buf, crc) := by
        have hlen := length_of_frameData hne
        exact ⟨_, if_neg (by omega)⟩
      obtain ⟨crc, hsplit⟩ := hsplit
      have hinner := (NeverPanics.bind_iff.mp h.unchecked).2 _ hsplit
      have henv := (NeverPanics.bind_iff.mp (NeverPanics.ensure_bind_iff.mp hinner hne)).1
      exact ((readEnvelope_neverPanics_iff hchecks).mp henv).2 s hcount hc hz
    · exact (senderHashBytes_neverPanics_iff B _ _).mp
        (NeverPanics.bind_iff.mp (h.identity_afterSender hchecks s hgenuine)).1 hc hz
  payloadBuffer s ty name hdr r hgenuine hname hheader hc hroom hz := by
    have hbody := (NeverPanics.bind_iff.mp (h.identity_afterSender hchecks s hgenuine)).2 _ hname
    have hbody := (NeverPanics.bind_iff.mp hbody).2 _ hheader
    exact (payloadHashBytes_neverPanics_iff B _ _).mp (NeverPanics.bind_iff.mp hbody).1 hc hroom hz

end Returning
end Parsers
/-- No decoder overflows an addition or panics on a buffer, exactly when the lengths that the
buffer declares fit. -/
theorem decoders_return_iff {B : Build} {S : Schema} (hstore : B.Stores S) (buf : List UInt8) :
    AlwaysReturns B.checked S buf ↔ LengthsFit B.checked S buf := by
  have hstore' : B.checked.Stores S := ⟨hstore.inline, hstore.static⟩
  exact ⟨fun h => h.lengthsFit rfl, fun h => h.alwaysReturns rfl hstore'⟩

/-- The elements of a static type. -/
def staticCount : MessageElement → Nat
  | .static count _ _ => count
  | .dynamic _ _ => 0

theorem stores_hostBuild : hostBuild.Stores defaultSchema where
  inline := by decide
  static ty count dt cls h := by
    have hall : ∀ ty : defaultSchema.DataType,
        staticCount (defaultSchema.getMessageMeta ty).element *
          dataTypeSize hostBuild (defaultSchema.getDataType ty) < hostBuild.usizeModulus := by
      decide +kernel
    have hcount := hall ty
    rw [h] at hcount
    exact hcount

/-- The GPS fix declares lengths that fit, so all decoders return on it. -/
theorem decoders_return_gps : AlwaysReturns hostBuild.checked defaultSchema gpsFrame := by
  have hpre : (readPrelude hostBuild.checked (.new (frameData gpsFrame))).toOption.map Prod.fst =
      some ⟨false, false, 2, 0, 12, 300, 2, 2⟩ := by decide +kernel
  have hfields : ∀ pre r, readPrelude hostBuild.checked (.new (frameData gpsFrame)) = .ok (pre, r) →
      pre = ⟨false, false, 2, 0, 12, 300, 2, 2⟩ := by
    intro pre r h
    rw [h] at hpre
    exact Option.some.inj hpre
  refine (decoders_return_iff stores_hostBuild gpsFrame).mpr ⟨?_, ?_, ?_, ?_⟩
  · intro pre r h
    obtain rfl := hfields pre r h
    decide
  · intro pre r ty h _
    obtain rfl := hfields pre r h
    cases defaultSchema.isReliableType ty <;> decide
  · intro s hc
    rw [hfields _ _ s.prelude_ok] at hc
    cases hc
  · intro s ty name hdr r _ _ _ hc
    rw [hfields _ _ s.prelude_ok] at hc
    cases hc

/-- A frame that declares a sender of 2⁶⁴ - 1 bytes, with a good checksum. -/
def longSenderFrame : List UInt8 :=
  [0, 0, 0, 0, 0, 255, 255, 255, 255, 255, 255, 255, 255, 255, 1, 214, 7, 184, 97]

/-- Each of the seven decoders stops at an addition. -/
structure Overflows (B : Build) (S : Schema) (buf : List UInt8) : Prop where
  deserialize : deserializePacket B S buf = panics "attempt to add with overflow"
  envelope : peekEnvelope B S buf = panics "attempt to add with overflow"
  info : peekFrameInfo B S buf = panics "attempt to add with overflow"
  unchecked : peekFrameInfoUnchecked B S buf = panics "attempt to add with overflow"
  offset : reliableHeaderOffset B S buf = panics "attempt to add with overflow"
  rewrite : (rewriteReliableHeader B S buf ⟨0, 0, 0⟩).2 = panics "attempt to add with overflow"
  identity : packetIdFromWire B S buf = panics "attempt to add with overflow"

/-- Each decoder adds the length of the bitmap to it, on either width. -/
theorem decoders_overflow : Overflows hostBuild defaultSchema longSenderFrame ∧
    Overflows hostBuild.narrow defaultSchema longSenderFrame := by
  constructor <;> constructor <;> decide +kernel

/-- A frame that is accepted gives the numbers of its packet exactly when none of them is too
large for its integer. -/
theorem decoded_numbers_iff {B : Build} {S : Schema} {buf : List UInt8} {p : Packet S}
    (h : deserializePacket B S buf = .ok p) :
    ∃ n, wireNumbers (frameData buf) = some n ∧
      ((n.ty = p.ty.val ∧ n.payloadSize = p.payload.asSlice.length ∧
          n.timestamp = p.timestamp.toNat ∧ n.senderLen = (asBytes p.sender).length) ↔
        n.Fits B) := by
  obtain ⟨d⟩ := Decoded.exists_of_ok h
  obtain ⟨n, hnumbers, hty, hsize, hts, hslen, hplain⟩ := readPrelude_exact B d.prelude_ok
  refine ⟨n, by rw [frameData, take_eq_of_appendCrc32 d.buf_eq]; exact hnumbers, ?_⟩
  have htype : p.ty.val = n.ty % 2 ^ 64 := by rw [← hty, dataTypeFromRaw_val d.type_ok]
  have hpayload : p.payload.asSlice.length = n.payloadSize % B.usizeModulus := by
    rw [d.payload_eq.1, readPayload_length B d.payload_ok, hsize]
  have htime : p.timestamp.toNat = n.timestamp % 2 ^ 64 := by rw [← hts, d.timestamp_eq]
  have hsender : (asBytes p.sender).length = n.senderLen % B.usizeModulus := by
    rw [d.sender_length hplain, hslen]
  have hwide : 0 < 2 ^ 64 := by decide
  have hmodulus : 0 < B.usizeModulus := Nat.two_pow_pos _
  rw [htype, hpayload, htime, hsender, eq_mod_iff_lt hwide, eq_mod_iff_lt hmodulus,
    eq_mod_iff_lt hwide, eq_mod_iff_lt hmodulus]
  exact ⟨fun h => ⟨h.1, h.2.1, h.2.2.1, h.2.2.2⟩, fun h => ⟨h.1, h.2, h.3, h.4⟩⟩

theorem decoded_numbers_gps : ∃ n, wireNumbers (frameData gpsFrame) = some n ∧
    n.ty = gpsDecoded.ty.val ∧ n.payloadSize = gpsDecoded.payload.asSlice.length ∧
    n.timestamp = gpsDecoded.timestamp.toNat ∧ n.senderLen = (asBytes gpsDecoded.sender).length := by
  have hdec : deserializePacket hostBuild defaultSchema gpsFrame = .ok gpsDecoded := by
    decide +kernel
  have hshown : wireNumbers (frameData gpsFrame) = some ⟨0, 12, 300, 2⟩ := by decide
  obtain ⟨n, hnumbers, hiff⟩ := decoded_numbers_iff hdec
  obtain rfl := Option.some.inj (hshown.symm.trans hnumbers)
  exact ⟨_, hnumbers, hiff.mpr ⟨by decide, by decide, by decide, by decide⟩⟩

/-- The GPS fix at the time 2⁶⁴. -/
def lateGpsFrame : List UInt8 :=
  [0, 2, 0, 12, 128, 128, 128, 128, 128, 128, 128, 128, 128, 2, 2, 3, 102, 99, 0, 7, 0, 0, 0, 0,
    0, 0, 0, 0, 0, 32, 65, 0, 0, 160, 65, 0, 0, 240, 65, 55, 181, 187, 186]

/-- The GPS fix with a payload said to be of 2³² + 12 bytes. -/
def largeGpsFrame : List UInt8 :=
  [0, 2, 0, 140, 128, 128, 128, 16, 172, 2, 2, 3, 102, 99, 0, 7, 0, 0, 0, 0, 0, 0, 0,
    0, 0, 32, 65, 0, 0, 160, 65, 0, 0, 240, 65, 44, 219, 93, 34]

/-- On either width the timestamp is decoded as zero, and on 32 bits the payload as twelve
bytes. -/
theorem decoded_numbers_truncated :
    (∀ B ∈ [hostBuild, hostBuild.narrow], deserializePacket B defaultSchema lateGpsFrame =
      .ok { gpsDecoded with timestamp := 0 }) ∧
    (wireNumbers (frameData lateGpsFrame)).map WireNumbers.timestamp = some (2 ^ 64) ∧
    deserializePacket hostBuild.narrow defaultSchema largeGpsFrame = .ok gpsDecoded ∧
    (wireNumbers (frameData largeGpsFrame)).map WireNumbers.payloadSize = some (2 ^ 32 + 12) := by
  decide +kernel

end Sedsprintf
