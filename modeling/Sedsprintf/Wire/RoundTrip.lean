import Sedsprintf.Wire.Frame
import Mathlib.Data.List.FinRange

/-!
# What the encoder writes, the decoder reads

One lemma per field of the frame (bitmap, compressed forms, prelude), then the
whole frame. The endpoint list comes back as the ascending list of the set, the
only normalisation the format makes.
-/
namespace Sedsprintf

open Lib

section Bitmap
variable {S : Schema}

theorem Schema.epBitmapBits_eq (S : Schema) : S.epBitmapBits = S.endpointCount := by
  have := S.endpointCount_pos
  simp only [epBitmapBits, maxValueDataEndpoint]
  omega

theorem Schema.epBitmap_covers (S : Schema) : S.endpointCount ≤ 8 * S.epBitmapBytes := by
  simp only [epBitmapBytes, S.epBitmapBits_eq]
  omega

/-- The endpoints of a bitmap, ascending. -/
def bitmapEndpoints (S : Schema) (bm : List UInt8) : List S.DataEndpoint :=
  (List.finRange S.endpointCount).filter fun ep => testBitAt bm ep.val

private theorem foldl_setBit (eps : List S.DataEndpoint) (bm : List UInt8)
    (hlen : bm.length = S.epBitmapBytes) :
    (eps.foldl (fun bm ep => if ep.val < S.epBitmapBits then setBitAt bm ep.val else bm)
        bm).length = S.epBitmapBytes ∧
    ∀ i, testBitAt
        (eps.foldl (fun bm ep => if ep.val < S.epBitmapBits then setBitAt bm ep.val else bm) bm)
        i = (decide (∃ ep ∈ eps, ep.val = i) || testBitAt bm i) := by
  induction eps generalizing bm with
  | nil => simp [hlen]
  | cons ep rest ih =>
    have hbound : ep.val < S.epBitmapBits := by
      rw [S.epBitmapBits_eq]
      exact ep.isLt
    have hbyte : ep.val / 8 < bm.length := by
      have := S.epBitmap_covers
      rw [hlen]
      omega
    obtain ⟨hlen', hbits⟩ := ih (setBitAt bm ep.val) (by simp [hlen])
    simp only [List.foldl_cons, hbound, if_true]
    refine ⟨hlen', fun i => ?_⟩
    rw [hbits i, testBitAt_setBitAt hbyte]
    by_cases hi : ep.val = i <;> simp [hi]

@[simp] theorem buildEndpointBitmap_length (eps : List S.DataEndpoint) :
    (buildEndpointBitmap S eps).length = S.epBitmapBytes :=
  (foldl_setBit eps _ (by simp)).1

theorem testBitAt_buildEndpointBitmap (eps : List S.DataEndpoint) (i : Nat) :
    testBitAt (buildEndpointBitmap S eps) i = decide (∃ ep ∈ eps, ep.val = i) := by
  rw [buildEndpointBitmap, (foldl_setBit eps _ (by simp)).2 i, testBitAt_replicate, Bool.or_false]

theorem bitmapEndpoints_build (eps : List S.DataEndpoint) :
    bitmapEndpoints S (buildEndpointBitmap S eps) =
      (List.finRange S.endpointCount).filter (· ∈ eps) := by
  unfold bitmapEndpoints
  refine List.filter_congr fun ep _ => ?_
  rw [testBitAt_buildEndpointBitmap, decide_eq_decide]
  constructor
  · rintro ⟨ep', hmem, hval⟩
    exact Fin.ext hval ▸ hmem
  · exact fun hmem => ⟨ep, hmem, rfl⟩

theorem mem_bitmapEndpoints_build {eps : List S.DataEndpoint} {ep : S.DataEndpoint} :
    ep ∈ bitmapEndpoints S (buildEndpointBitmap S eps) ↔ ep ∈ eps := by
  simp [bitmapEndpoints_build]

theorem bitmapEndpoints_ne_nil {eps : List S.DataEndpoint} (h : eps ≠ []) :
    bitmapEndpoints S (buildEndpointBitmap S eps) ≠ [] := by
  obtain ⟨ep, hmem⟩ := List.exists_mem_of_ne_nil eps h
  exact List.ne_nil_of_mem (mem_bitmapEndpoints_build.mpr hmem)

theorem bitmapEndpoints_sorted (bm : List UInt8) : (bitmapEndpoints S bm).Pairwise (· < ·) :=
  (List.pairwise_lt_finRange _).filter _

/-- A strictly ascending list is the one its own bitmap expands to. -/
theorem bitmapEndpoints_build_of_sorted {eps : List S.DataEndpoint}
    (h : eps.Pairwise (· < ·)) : bitmapEndpoints S (buildEndpointBitmap S eps) = eps := by
  refine List.Perm.eq_of_pairwise (fun a b _ _ hab hba => absurd hba (lt_asymm hab))
    (bitmapEndpoints_sorted _) h ?_
  refine (List.perm_ext_iff_of_nodup ?_ h.nodup).mpr fun ep => mem_bitmapEndpoints_build
  exact (bitmapEndpoints_sorted _).nodup

/-- Reading one bit of an in-range byte, as both expansion loops do. -/
theorem bit_read {bm : List UInt8} {idx : Nat} (hlen : bm.length = S.epBitmapBytes)
    (hidx : idx < S.endpointCount) :
    ∃ byte, bm[idx / 8]? = some byte ∧
      ((byte >>> UInt8.ofNat (idx % 8)) &&& 1 ≠ 0 ↔ testBitAt bm idx = true) := by
  have hcovers := S.epBitmap_covers
  have hbyte : idx / 8 < bm.length := by omega
  refine ⟨bm[idx / 8], List.getElem?_eq_getElem hbyte, ?_⟩
  rw [shiftRight_and_one_ne_zero _ (Nat.mod_lt _ (by decide)), testBitAt,
    List.getD_eq_getElem?_getD, List.getElem?_eq_getElem hbyte, Option.getD_some]

private theorem expandBits_eq {bm : List UInt8} (hlen : bm.length = S.epBitmapBytes)
    (eps : List S.DataEndpoint) :
    expandBits S bm (eps.map Fin.val) = .ok (eps.filter fun ep => testBitAt bm ep.val) := by
  induction eps with
  | nil => rfl
  | cons ep rest ih =>
    obtain ⟨byte, hget, hbit⟩ := bit_read hlen ep.isLt
    have hep : S.endpointFromU32 ep.val = some ep := by simp [Schema.endpointFromU32]
    rw [List.map_cons, expandBits, hget]
    by_cases hset : testBitAt bm ep.val = true
    · simp only [if_pos (hbit.mpr hset), hep, okOr, ok_bind, ih, List.filter_cons, if_pos hset]
    · simp only [if_neg (mt hbit.mp hset), ih, List.filter_cons, if_neg hset]

theorem range_epBitmapBits (S : Schema) :
    List.range S.epBitmapBits = (List.finRange S.endpointCount).map Fin.val := by
  rw [S.epBitmapBits_eq, List.map_coe_finRange_eq_range]

theorem expandEndpointBitmap_eq {bm : List UInt8} (hlen : bm.length = S.epBitmapBytes) :
    expandEndpointBitmap S bm = .ok (bitmapEndpoints S bm) := by
  rw [expandEndpointBitmap, ensure_of hlen, ok_bind, range_epBitmapBits, expandBits_eq hlen]
  rfl

/-- NEP is the number of endpoints the bitmap expands to. -/
theorem popcount_build (eps : List S.DataEndpoint) :
    popcount (buildEndpointBitmap S eps) =
      (bitmapEndpoints S (buildEndpointBitmap S eps)).length := by
  have hclear : ∀ i, S.endpointCount ≤ i → testBitAt (buildEndpointBitmap S eps) i = false := by
    intro i hi
    rw [testBitAt_buildEndpointBitmap]
    simp only [decide_eq_false_iff_not, not_exists, not_and]
    intro ep _ hval
    have := ep.isLt
    omega
  rw [popcount_eq_countP_range (by simpa using S.epBitmap_covers) hclear, bitmapEndpoints,
    ← List.countP_eq_length_filter, ← List.map_coe_finRange_eq_range, List.countP_map]
  rfl

theorem popcount_build_le (eps : List S.DataEndpoint) :
    popcount (buildEndpointBitmap S eps) ≤ S.endpointCount := by
  rw [popcount_build, bitmapEndpoints]
  exact (List.length_filter_le _ _).trans (by simp)

/-- Up to 255 endpoints fit the byte that counts them. -/
theorem length_bitmapEndpoints_of_few {eps : List S.DataEndpoint}
    (hfew : popcount (buildEndpointBitmap S eps) ≤ 255) :
    (bitmapEndpoints S (buildEndpointBitmap S eps)).length =
      (UInt8.ofNat (popcount (buildEndpointBitmap S eps))).toNat := by
  rw [UInt8.toNat_ofNat', ← popcount_build]
  omega

end Bitmap

section Compression
variable (B : Build)

/-- A byte string is either sent as it is, or as a shorter nonempty string that
decompresses to it. -/
theorem compressIfBeneficial_spec (bytes : List UInt8) (hmem : bytes.length ≤ B.isizeMax) :
    compressIfBeneficial B bytes = ⟨false, bytes⟩ ∨
      ∃ wire, compressIfBeneficial B bytes = ⟨true, wire⟩ ∧ wire ≠ [] ∧
        wire.length + 1 < bytes.length ∧ decompress B wire bytes.length = .ok bytes := by
  cases hz : B.compression with
  | none => exact .inl (by simp [compressIfBeneficial, hz])
  | some z =>
    by_cases hshort : bytes.length < B.payloadCompressThreshold
    · exact .inl (by simp [compressIfBeneficial, hz, hshort])
    cases hc : compressToVecBounded z bytes (bytes.length - 2) with
    | none => exact .inl (by simp [compressIfBeneficial, hz, hshort, hc])
    | some wire =>
      by_cases hbig : wire.length + 1 ≥ bytes.length
      · exact .inl (by simp [compressIfBeneficial, hz, hshort, hc, hbig])
      · have hcompress : z.compress (bytes.length - 2) bytes = some wire := by
          unfold compressToVecBounded at hc
          split at hc
          · simp at hc
          · exact hc
        refine .inr ⟨wire, ?_, z.compress_ne_nil hcompress, by omega, ?_⟩
        · simp [compressIfBeneficial, hz, hshort, hc, hbig]
        · simp [decompress, hz, B.allocate_of_le hmem, z.decompress_compress hcompress, okOr]

theorem compressIfBeneficial_length_le (bytes : List UInt8) (hmem : bytes.length ≤ B.isizeMax) :
    (compressIfBeneficial B bytes).wire.length ≤ bytes.length := by
  rcases compressIfBeneficial_spec B bytes hmem with h | ⟨wire, h, -, hlt, -⟩
  · simp [h]
  · rw [h]
    dsimp only
    omega

theorem compressIfBeneficial_plain {bytes : List UInt8} (hmem : bytes.length ≤ B.isizeMax)
    (hplain : (compressIfBeneficial B bytes).compressed = false) :
    (compressIfBeneficial B bytes).wire.length = bytes.length := by
  rcases compressIfBeneficial_spec B bytes hmem with h | ⟨wire, h, -⟩
  · rw [h]
  · rw [h] at hplain
    cases hplain

end Compression

section Fields
variable (B : Build) {S : Schema}

theorem uleb128Size_eq_length (v : UInt64) : uleb128Size v = (writeUleb128 v).length := by
  have hloop (fuel : Nat) (v : UInt64) :
      uleb128SizeLoop fuel v = (encodeLeb fuel v.toNat).length := by
    induction fuel generalizing v with
    | zero => rfl
    | succ fuel ih =>
      have hshift : (v >>> 7).toNat = v.toNat / 128 := by
        rw [UInt64.toNat_shiftRight]
        exact Nat.shiftRight_eq_div_pow _ _
      have hge : 0x80 ≤ v ↔ ¬ v.toNat / 128 = 0 := by
        rw [UInt64.le_iff_toNat_le]
        show 128 ≤ v.toNat ↔ _
        omega
      by_cases hmore : 0x80 ≤ v
      · rw [uleb128SizeLoop, if_pos hmore, encodeLeb, if_neg (hge.mp hmore), ih, hshift,
          List.length_cons, Nat.add_comm]
      · rw [uleb128SizeLoop, if_neg hmore, encodeLeb, if_pos (not_not.mp (mt hge.mpr hmore))]
        rfl
  rw [uleb128Size, hloop, writeUleb128_eq]

theorem dataTypeFromRaw_ofNat (ty : S.DataType) :
    dataTypeFromRaw S (UInt64.ofNat ty.val) = .ok ty := by
  have hcount := S.dataTypeCount_le
  have hlt := ty.isLt
  have hval : (UInt64.ofNat ty.val).toNat = ty.val := by
    rw [UInt64.toNat_ofNat']
    omega
  have hmax : ty.val ≤ S.maxValueDataType := by
    simp only [Schema.maxValueDataType]
    omega
  rw [dataTypeFromRaw, hval, ensure_of (show ty.val < 2 ^ 32 by omega), ok_bind, ensure_of hmax,
    ok_bind, Schema.dataTypeFromU32_val]
  rfl

theorem flags_sender (payload sender : WireForm) :
    decide (frameFlags payload sender &&& flagCompressedSender ≠ 0) = sender.compressed := by
  unfold frameFlags
  cases payload.compressed <;> cases sender.compressed <;> rfl

theorem flags_payload (payload sender : WireForm) :
    decide (frameFlags payload sender &&& flagCompressedPayload ≠ 0) = payload.compressed := by
  unfold frameFlags
  cases payload.compressed <;> cases sender.compressed <;> rfl

/-- The prelude is read back, whatever follows it. -/
theorem readPrelude_preludeBytes (flags nep : UInt8) (ty : S.DataType) (dsz : Nat) (ts : UInt64)
    (slen : Nat) (sender : WireForm) {payloadCompressed : Bool}
    (hpayload : decide (flags &&& flagCompressedPayload ≠ 0) = payloadCompressed)
    (hsender : decide (flags &&& flagCompressedSender ≠ 0) = sender.compressed)
    (hdsz : dsz < B.usizeModulus) (hslen : slen < B.usizeModulus)
    (hwire : sender.wire.length < B.usizeModulus)
    (hplain : sender.compressed = false → sender.wire.length = slen) (rest : List UInt8) :
    readPrelude B (.new (preludeBytes flags nep ty dsz ts slen sender ++ rest)) =
      .ok (⟨payloadCompressed, sender.compressed, nep.toNat, UInt64.ofNat ty.val, dsz, ts, slen,
          sender.wire.length⟩,
        .between (preludeBytes flags nep ty dsz ts slen sender) rest) := by
  have hread : ∀ (v : UInt64) (done rest : List UInt8), readUleb128 (.between done
      (writeUleb128 v ++ rest)) = .ok (v, .between (done ++ writeUleb128 v) rest) :=
    readUleb128_write
  cases hc : sender.compressed with
  | true =>
    simp only [readPrelude, preludeBytes, ByteReader.new_eq_between, List.cons_append,
      List.nil_append, List.append_assoc, ByteReader.readByte_between, ok_bind, hread, hsender,
      hpayload, hc, readSenderWireLen, if_true, B.asUsize_ofNat hdsz, B.asUsize_ofNat hslen, B.asUsize_ofNat hwire]
  | false =>
    simp only [readPrelude, preludeBytes, ByteReader.new_eq_between, List.cons_append,
      List.nil_append, List.append_assoc, ByteReader.readByte_between, ok_bind, hread, hsender,
      hpayload, hc, readSenderWireLen, if_false, Bool.false_eq_true, B.asUsize_ofNat hdsz,
      B.asUsize_ofNat hslen, hplain hc, List.append_nil]

theorem decodeSenderName_compress (s : String) (hmem : (asBytes s).length ≤ B.isizeMax) :
    decodeSenderName B (compressIfBeneficial B (asBytes s)).wire
      (compressIfBeneficial B (asBytes s)).compressed (asBytes s).length = .ok s := by
  rcases compressIfBeneficial_spec B (asBytes s) hmem with h | ⟨wire, h, -, -, hdec⟩
  · simp [h, decodeSenderName, okOr]
  · simp [h, decodeSenderName, hdec, okOr]

end Fields

section Frame
variable (B : Build) {S : Schema}

/-- The sizes a packet has in memory: every Rust slice is at most `isize::MAX`
bytes long, and so is the frame that `packet_wire_size` predicts together with
the sixteen header bytes the encoder reserves. Beyond that `Vec` panics. -/
structure Packet.InMemory (p : Packet S) : Prop where
  sender_le : (asBytes p.sender).length ≤ B.isizeMax
  payload_le : p.payload.asSlice.length ≤ B.isizeMax
  frame_le : 16 + packetWireSize B p ≤ B.isizeMax

theorem frameBody_length {p : Packet S} {hdr : Option ReliableHeader}
    (hhdr : hdr.isSome = S.isReliableType p.ty) :
    (appendCrc32 B (frameBody B p hdr)).length = packetWireSize B p := by
  have hrel : ((hdr.map writeReliableHeader).getD []).length =
      if S.isReliableType p.ty then reliableHeaderBytes else 0 := by
    rw [← hhdr]
    cases hdr <;> simp
  simp only [appendCrc32, frameBody, preludeBytes, packetWireSize, headerSizeBytes,
    uleb128Size_eq_length, List.length_append, List.length_cons, List.length_nil, hrel,
    buildEndpointBitmap_length, u32LeBytes_length, crc32Bytes]
  cases (compressIfBeneficial B (asBytes p.sender)).compressed <;> simp <;> omega

/-- The header an encoder call writes fits the type and is no ACK-only header. -/
structure DataHeader (ty : S.DataType) (hdr : Option ReliableHeader) : Prop where
  isSome_eq : hdr.isSome = S.isReliableType ty
  not_ackOnly : ∀ h ∈ hdr, h.flags &&& reliableFlagAckOnly = 0

theorem readDataHeader_between {ty : S.DataType} {hdr : Option ReliableHeader}
    (hhdr : DataHeader ty hdr) (done rest : List UInt8) :
    readDataHeader S ty (.between done ((hdr.map writeReliableHeader).getD [] ++ rest)) =
      .ok (hdr, .between (done ++ (hdr.map writeReliableHeader).getD []) rest) := by
  cases hdr with
  | none =>
    have hty : S.isReliableType ty = false := hhdr.isSome_eq.symm
    simp [readDataHeader, hty]
  | some h =>
    have hty : S.isReliableType ty = true := hhdr.isSome_eq.symm
    simp [readDataHeader, hty, readReliableHeader_between, hhdr.not_ackOnly h rfl]

/-- The payload is read back from the rest of the frame. -/
theorem readPayload_between {bytes : List UInt8} (hmem : bytes.length ≤ B.isizeMax)
    {pre : Prelude} (hcomp : pre.payloadIsCompressed = (compressIfBeneficial B bytes).compressed)
    (hdsz : pre.dsz = bytes.length) (done : List UInt8) :
    readPayload B pre (.between done (compressIfBeneficial B bytes).wire) = .ok bytes := by
  have hread (wire : List UInt8) : (ByteReader.between done wire).readBytes wire.length =
      .ok (wire, .between (done ++ wire) []) := by
    have hall := ByteReader.readBytes_between (Eq.refl wire.length) done []
    rwa [List.append_nil] at hall
  rcases compressIfBeneficial_spec B bytes hmem with h | ⟨wire, h, -, -, hdec⟩
  · simp [readPayload, hcomp, hdsz, h, hread]
  · simp [readPayload, hcomp, hdsz, h, hread, hdec]

theorem deserializePacket_frameBody {p : Packet S} (hwf : p.WellFormed B)
    (hmem : p.InMemory B) (hfew : popcount (buildEndpointBitmap S p.endpoints) ≤ 255)
    {hdr : Option ReliableHeader} (hhdr : DataHeader p.ty hdr) :
    deserializePacket B S (appendCrc32 B (frameBody B p hdr)) =
      .ok { p with endpoints := bitmapEndpoints S (buildEndpointBitmap S p.endpoints) } := by
  have hframe := frameBody_length B hhdr.isSome_eq
  have hmodulus := B.isizeMax_lt
  have hsize := hmem.frame_le
  have hsenderLen := hmem.sender_le
  have hpayloadLen := hmem.payload_le
  have hsenderWire := compressIfBeneficial_length_le B _ hsenderLen
  have hnep := length_bitmapEndpoints_of_few hfew
  have hplain := compressIfBeneficial_plain B hsenderLen
  have hpayloadWire :
      (if (compressIfBeneficial B p.payload.asSlice).compressed then 1 else p.dataSize) ≤
        (compressIfBeneficial B p.payload.asSlice).wire.length := by
    rcases compressIfBeneficial_spec B _ hpayloadLen with h | ⟨wire, h, hne, -⟩
    · simp [h, hwf.dataSize_eq]
    · simp [h, Nat.one_le_iff_ne_zero, hne]
  have hhdrLen : ((hdr.map writeReliableHeader).getD []).length =
      if S.isReliableType p.ty then reliableHeaderBytes else 0 := by
    rw [← hhdr.isSome_eq]
    cases hdr <;> simp
  have hnonempty : frameBody B p hdr ≠ [] := by simp [frameBody, preludeBytes]
  have hprelude := readPrelude_preludeBytes B _
    (UInt8.ofNat (popcount (buildEndpointBitmap S p.endpoints))) p.ty p.dataSize p.timestamp
    (asBytes p.sender).length (compressIfBeneficial B (asBytes p.sender))
    (flags_payload (compressIfBeneficial B p.payload.asSlice) _) (flags_sender _ _)
    (by rw [hwf.dataSize_eq]; omega) (by omega) (by omega) hplain
  have htotal : S.epBitmapBytes + (compressIfBeneficial B (asBytes p.sender)).wire.length +
      (if S.isReliableType p.ty then reliableHeaderBytes else 0) +
      (compressIfBeneficial B p.payload.asSlice).wire.length ≤ B.isizeMax := by
    simp only [appendCrc32, frameBody, List.length_append, buildEndpointBitmap_length, hhdrLen]
      at hframe
    omega
  have hsum := B.usizeSum_of_lt [S.epBitmapBytes,
    (compressIfBeneficial B (asBytes p.sender)).wire.length,
    if S.isReliableType p.ty then reliableHeaderBytes else 0,
    if (compressIfBeneficial B p.payload.asSlice).compressed then 1 else p.dataSize]
    (by simp only [List.sum_cons, List.sum_nil]; omega)
  have hfits : [S.epBitmapBytes, (compressIfBeneficial B (asBytes p.sender)).wire.length,
      if S.isReliableType p.ty then reliableHeaderBytes else 0,
      if (compressIfBeneficial B p.payload.asSlice).compressed then 1 else p.dataSize].sum ≤
      (buildEndpointBitmap S p.endpoints ++ ((compressIfBeneficial B (asBytes p.sender)).wire ++
        ((hdr.map writeReliableHeader).getD [] ++
          (compressIfBeneficial B p.payload.asSlice).wire))).length := by
    simp only [List.sum_cons, List.sum_nil, List.length_append, buildEndpointBitmap_length, hhdrLen]
    omega
  have hmany := bitmapEndpoints_ne_nil hwf.endpoints_ne_nil
  simp only [deserializePacket, verifyCrc32_appendCrc32, ok_bind, ensure_of hnonempty]
  simp only [frameBody, hprelude, ok_bind, isReliableTypeFromRaw, dataTypeFromRaw_ofNat, hsum,
    ByteReader.between_remaining, ensure_of hfits,
    ByteReader.readBytes_between (buildEndpointBitmap_length p.endpoints).symm,
    expandEndpointBitmap_eq (buildEndpointBitmap_length p.endpoints), ensure_of hnep,
    ByteReader.readBytes_between rfl, decodeSenderName_compress B _ hsenderLen,
    readDataHeader_between hhdr]
  rw [readPayload_between B hpayloadLen rfl hwf.dataSize_eq, ok_bind]
  exact hwf.new_eq B hmany

theorem serializePacketInner_eq {p : Packet S} (hmem : p.InMemory B)
    (hfew : popcount (buildEndpointBitmap S p.endpoints) ≤ 255) {hdr : Option ReliableHeader}
    (hhdr : hdr.isSome = S.isReliableType p.ty) :
    serializePacketInner B p hdr = .ok (appendCrc32 B (frameBody B p hdr)) := by
  have hframe := frameBody_length B hhdr
  have hmodulus := B.isizeMax_lt
  have hsize := hmem.frame_le
  have hcap : [16, S.epBitmapBytes, (compressIfBeneficial B (asBytes p.sender)).wire.length,
      if hdr.isSome then reliableHeaderBytes else 0,
      (compressIfBeneficial B p.payload.asSlice).wire.length, crc32Bytes].sum ≤ B.isizeMax := by
    simp only [packetWireSize] at hsize
    simp only [List.sum_cons, List.sum_nil, hhdr]
    omega
  simp only [serializePacketInner]
  rw [B.usizeSum_of_lt _ (by omega), ok_bind, B.allocate_of_le hcap, ok_bind,
    if_neg (by omega), B.allocate_of_le (by omega), ok_bind]

/-- `encoded` decodes to `p` up to the order and repetition of its endpoints. -/
def RoundTrips (p : Packet S) (encoded : Outcome (List UInt8)) : Prop :=
  ∃ bytes p', encoded = .ok bytes ∧ deserializePacket B S bytes = .ok p' ∧
    p'.ty = p.ty ∧ p'.sender = p.sender ∧ p'.timestamp = p.timestamp ∧
    p'.payload.asSlice = p.payload.asSlice ∧
    p'.endpoints.Pairwise (· < ·) ∧ (∀ ep, ep ∈ p'.endpoints ↔ ep ∈ p.endpoints) ∧
    (p' = p ↔ p.endpoints.Pairwise (· < ·))

theorem roundTrips_frameBody {p : Packet S} (hwf : p.WellFormed B) (hmem : p.InMemory B)
    (hfew : popcount (buildEndpointBitmap S p.endpoints) ≤ 255) {hdr : Option ReliableHeader}
    (hhdr : DataHeader p.ty hdr) :
    RoundTrips B p (serializePacketInner B p hdr) := by
  refine ⟨_, _, serializePacketInner_eq B hmem hfew hhdr.isSome_eq,
    deserializePacket_frameBody B hwf hmem hfew hhdr, rfl, rfl, rfl, rfl,
    bitmapEndpoints_sorted _, fun ep => mem_bitmapEndpoints_build, ?_⟩
  constructor
  · intro heq
    have hlist : bitmapEndpoints S (buildEndpointBitmap S p.endpoints) = p.endpoints :=
      congrArg Packet.endpoints heq
    exact hlist ▸ bitmapEndpoints_sorted _
  · intro hsorted
    rw [bitmapEndpoints_build_of_sorted hsorted]

/-- **Wire round trip.** Every packet the constructor accepts comes back from
its frame, with its endpoint set in ascending order, whichever of the two
encoders wrote it. -/
theorem deserializePacket_serializePacket {ty : S.DataType} {endpoints : List S.DataEndpoint}
    {sender : String} {timestamp : UInt64} {payload : List UInt8} {p : Packet S}
    (hnew : Packet.new B ty endpoints sender timestamp payload = .ok p) (hmem : p.InMemory B)
    (hcount : S.endpointCount ≤ 255) :
    RoundTrips B p (serializePacket B p) ∧
      (S.isReliableType p.ty = true → ∀ h : ReliableHeader, h.flags &&& reliableFlagAckOnly = 0 →
        RoundTrips B p (serializePacketWithReliable B p h)) := by
  have hwf := Packet.wellFormed_of_new B hnew
  have hfew := (popcount_build_le p.endpoints).trans hcount
  have hreliable (hty : S.isReliableType p.ty = true) (h : ReliableHeader)
      (hflags : h.flags &&& reliableFlagAckOnly = 0) :
      RoundTrips B p (serializePacketWithReliable B p h) :=
    roundTrips_frameBody B hwf hmem hfew
      ⟨hty.symm, fun h' hmem => Option.mem_some.mp hmem ▸ hflags⟩
  refine ⟨?_, hreliable⟩
  by_cases hty : S.isReliableType p.ty = true
  · rw [serializePacket, if_pos hty]
    exact hreliable hty _ rfl
  · rw [serializePacket, if_neg hty]
    exact roundTrips_frameBody B hwf hmem hfew ⟨by simpa using hty, by simp⟩

/-- A GPS fix from `fc`, addressed with a repetition and out of order. -/
def gpsPacket : Packet defaultSchema where
  ty := 0
  dataSize := 12
  sender := "fc"
  endpoints := [1, 0, 1]
  timestamp := 300
  payload := .inline 12 [0, 0, 32, 65, 0, 0, 160, 65, 0, 0, 240, 65]

theorem deserializePacket_serializePacket_gps :
    RoundTrips hostBuild gpsPacket (serializePacket hostBuild gpsPacket) ∧
      RoundTrips hostBuild gpsPacket
        (serializePacketWithReliable hostBuild gpsPacket ⟨0, 4294967295, 7⟩) := by
  have hnew : Packet.new hostBuild gpsPacket.ty gpsPacket.endpoints gpsPacket.sender
      gpsPacket.timestamp gpsPacket.payload.asSlice = .ok gpsPacket := by decide
  have hmem : gpsPacket.InMemory hostBuild := ⟨by decide, by decide, by decide⟩
  have h := deserializePacket_serializePacket hostBuild hnew hmem (by decide)
  exact ⟨h.1, h.2 (by decide) _ (by decide)⟩

end Frame
end Sedsprintf
