import Sedsprintf.Wire.Agreement

/-!
# The reliable header of a frame

What a peek finds after the two ways a sender puts a header on a frame:
encoding a packet with it, or rewriting it in place in received bytes. A parser
that has read up to some offset depends only on the bytes before it
(`PrefixOnly`), so overwriting the header leaves the envelope as it was.
-/
namespace Sedsprintf

open Lib

/-- A read that advances inside its buffer and sees only what it passes over,
apart from the buffer's length. -/
structure PrefixOnly {α : Type} (f : ByteReader → Outcome (α × ByteReader)) : Prop where
  advances : ∀ {r r' : ByteReader} {a : α}, f r = .ok (a, r') →
    r'.buf = r.buf ∧ r.off ≤ r'.off ∧ (r.off ≤ r.buf.length → r'.off ≤ r.buf.length)
  same : ∀ {r r' : ByteReader} {a : α} {buf : List UInt8}, f r = .ok (a, r') →
    buf.length = r.buf.length → buf.take r'.off = r.buf.take r'.off →
    f ⟨buf, r.off⟩ = .ok (a, ⟨buf, r'.off⟩)

namespace PrefixOnly
variable {α β : Type}

theorem pure (a : α) : PrefixOnly fun r => .ok (a, r) where
  advances h := by
    simp only [Except.ok.injEq, Prod.mk.injEq] at h
    obtain ⟨-, rfl⟩ := h
    exact ⟨rfl, le_rfl, id⟩
  same h _ _ := by
    simp only [Except.ok.injEq, Prod.mk.injEq] at h
    obtain ⟨rfl, rfl⟩ := h
    rfl

theorem bind {f : ByteReader → Outcome (α × ByteReader)}
    {g : α × ByteReader → Outcome (β × ByteReader)} (hf : PrefixOnly f)
    (hg : ∀ a, PrefixOnly fun r => g (a, r)) : PrefixOnly fun r => f r >>= g where
  advances h := by
    obtain ⟨⟨a, r₁⟩, h₁, h₂⟩ := bind_eq_ok.mp h
    obtain ⟨hbuf, hoff, hin⟩ := hf.advances h₁
    obtain ⟨hbuf', hoff', hin'⟩ := (hg a).advances h₂
    refine ⟨hbuf'.trans hbuf, hoff.trans hoff', fun hr => ?_⟩
    rw [hbuf] at hin'
    exact hin' (hin hr)
  same {r r' b buf} h hlen htake := by
    obtain ⟨⟨a, r₁⟩, h₁, h₂⟩ := bind_eq_ok.mp h
    obtain ⟨hbuf, -, -⟩ := hf.advances h₁
    obtain ⟨-, hoff', -⟩ := (hg a).advances h₂
    have htake₁ : buf.take r₁.off = r.buf.take r₁.off := by
      have := congrArg (List.take r₁.off) htake
      rwa [List.take_take, List.take_take, Nat.min_eq_left hoff'] at this
    rw [hf.same h₁ hlen htake₁, ok_bind]
    rw [← hbuf] at hlen htake
    exact (hg a).same h₂ hlen htake

/-- A step that does not read, which may look at the buffer's length. -/
theorem guard {f : ByteReader → Outcome Unit} {g : ByteReader → Outcome (β × ByteReader)}
    (hf : ∀ {r : ByteReader} {buf : List UInt8}, buf.length = r.buf.length →
      f ⟨buf, r.off⟩ = f r) (hg : PrefixOnly g) : PrefixOnly fun r => f r >>= fun _ => g r where
  advances h := by
    obtain ⟨_, -, h₂⟩ := bind_eq_ok.mp h
    exact hg.advances h₂
  same h hlen htake := by
    obtain ⟨_, h₁, h₂⟩ := bind_eq_ok.mp h
    rw [hf hlen, h₁, ok_bind]
    exact hg.same h₂ hlen htake

/-- A computation on values already read. -/
theorem value {x : Outcome α} {g : α → ByteReader → Outcome (β × ByteReader)}
    (hg : ∀ a, PrefixOnly (g a)) : PrefixOnly fun r => x >>= fun a => g a r where
  advances h := by
    obtain ⟨a, -, h₂⟩ := bind_eq_ok.mp h
    exact (hg a).advances h₂
  same h hlen htake := by
    obtain ⟨a, h₁, h₂⟩ := bind_eq_ok.mp h
    rw [h₁, ok_bind]
    exact (hg a).same h₂ hlen htake

theorem readBytes (n : Nat) : PrefixOnly fun r => r.readBytes n where
  advances h := by
    obtain ⟨hle, -, rfl⟩ := ByteReader.readBytes_eq_ok.mp h
    simp only [ByteReader.remaining] at hle
    exact ⟨rfl, by dsimp only; omega, fun hr => by dsimp only; omega⟩
  same {r r' a buf} h hlen htake := by
    obtain ⟨hle, rfl, rfl⟩ := ByteReader.readBytes_eq_ok.mp h
    refine ByteReader.readBytes_eq_ok.mpr ⟨?_, ?_, rfl⟩
    · simpa [ByteReader.remaining, hlen] using hle
    · have := congrArg (List.drop r.off) htake
      simpa [List.drop_take] using this.symm

/-- Every byte read is a one-byte slice, and conversely. -/
theorem readByte : PrefixOnly fun r => r.readByte where
  advances h := (readBytes 1).advances (ByteReader.readByte_eq_ok h)
  same h hlen htake := by
    have hbytes := (readBytes 1).same (ByteReader.readByte_eq_ok h) hlen htake
    rw [ByteReader.readByte, hbytes]
    rfl

theorem readUleb128Loop (fuel : Nat) (acc : UInt64) (shift : Nat) :
    PrefixOnly fun r => Sedsprintf.readUleb128Loop fuel acc shift r := by
  induction fuel generalizing acc shift with
  | zero => exact ⟨fun h => by simp [Sedsprintf.readUleb128Loop] at h,
      fun h => by simp [Sedsprintf.readUleb128Loop] at h⟩
  | succ fuel ih =>
    unfold Sedsprintf.readUleb128Loop
    refine readByte.bind fun b => ?_
    by_cases hend : b &&& 0x80 = 0
    · simp only [hend, if_true]
      exact pure _
    · simp only [hend, if_false]
      exact ih _ _

theorem readPrelude (B : Build) : PrefixOnly fun r => Sedsprintf.readPrelude B r := by
  unfold Sedsprintf.readPrelude
  refine readByte.bind fun flags => ?_
  refine readByte.bind fun nep => ?_
  refine (readUleb128Loop 10 0 0).bind fun tyV => ?_
  refine (readUleb128Loop 10 0 0).bind fun dsz => ?_
  refine (readUleb128Loop 10 0 0).bind fun tsV => ?_
  refine (readUleb128Loop 10 0 0).bind fun slen => ?_
  refine PrefixOnly.bind ?_ fun wireLen => pure _
  unfold readSenderWireLen
  split
  · exact readUleb128Loop 10 0 0
  · exact pure _

theorem readEnvelope (B : Build) (S : Schema) :
    PrefixOnly fun r => Sedsprintf.readEnvelope B S r := by
  unfold Sedsprintf.readEnvelope
  refine (readPrelude B).bind fun pre => ?_
  refine PrefixOnly.value fun need => ?_
  refine PrefixOnly.guard (fun {r buf} hlen => ?_) ?_
  · rw [show (⟨buf, r.off⟩ : ByteReader).remaining = r.remaining by
      simp only [ByteReader.remaining, hlen]]
  refine (readBytes _).bind fun bm => ?_
  refine PrefixOnly.value fun eps => ?_
  refine PrefixOnly.value fun _ => ?_
  refine (readBytes _).bind fun wire => ?_
  refine PrefixOnly.value fun sender => ?_
  exact PrefixOnly.value fun ty => pure _

end PrefixOnly

section Rewrite
variable {B : Build} {S : Schema}

/-- The locator makes the reads of the envelope, so it stops where they stop. -/
theorem reliableHeaderOffset_of_readEnvelope {buf data : List UInt8} {env : TelemetryEnvelope S}
    {r : ByteReader} (hbuf : buf = appendCrc32 B data) (hne : data ≠ [])
    (henv : readEnvelope B S (.new data) = .ok (env, r)) :
    reliableHeaderOffset B S buf =
      .ok (if S.isReliableType env.ty then some r.off else none) := by
  have hlen : crc32Bytes + 1 ≤ buf.length := by
    have := List.length_pos_iff.mpr hne
    simp only [hbuf, appendCrc32, List.length_append, u32LeBytes_length, crc32Bytes]
    omega
  obtain ⟨⟨pre, r₁⟩, hpre, h⟩ := bind_eq_ok.mp henv
  obtain ⟨need, hneed, h⟩ := bind_eq_ok.mp h
  obtain ⟨_, hroom, h⟩ := bind_eq_ok.mp h
  obtain ⟨⟨bm, r₂⟩, hbm, h⟩ := bind_eq_ok.mp h
  obtain ⟨eps, -, h⟩ := bind_eq_ok.mp h
  obtain ⟨_, -, h⟩ := bind_eq_ok.mp h
  obtain ⟨⟨wire, r₃⟩, hwire, h⟩ := bind_eq_ok.mp h
  obtain ⟨sender, -, h⟩ := bind_eq_ok.mp h
  obtain ⟨ty, hty, h⟩ := bind_eq_ok.mp h
  simp only [Except.ok.injEq, Prod.mk.injEq] at h
  obtain ⟨rfl, rfl⟩ := h
  simp only [reliableHeaderOffset, ensure_of hlen, ok_bind, take_eq_of_appendCrc32 hbuf, hpre,
    hneed, hroom, hbm, hwire, hty]

theorem peekFrameInfo_eq_ok {buf : List UInt8} {info : TelemetryFrameInfo S}
    (h : peekFrameInfo B S buf = .ok info) :
    ∃ data r, buf = appendCrc32 B data ∧ data ≠ [] ∧
      readEnvelope B S (.new data) = .ok (info.envelope, r) ∧
      ((S.isReliableType info.envelope.ty = true ∧ reliableHeaderBytes ≤ r.remaining ∧
          ∃ hdr r', info.reliable = some hdr ∧ readReliableHeader r = .ok (hdr, r')) ∨
        (S.isReliableType info.envelope.ty = false ∧ info.reliable = none)) := by
  obtain ⟨data, hcrc, h⟩ := bind_eq_ok.mp h
  obtain ⟨_, hne, h⟩ := bind_eq_ok.mp h
  obtain ⟨⟨env, r⟩, henv, h⟩ := bind_eq_ok.mp h
  dsimp only at h
  split at h
  · rename_i hty
    obtain ⟨_, hroom, h⟩ := bind_eq_ok.mp h
    obtain ⟨⟨hdr, r'⟩, hread, h⟩ := bind_eq_ok.mp h
    obtain rfl := Except.ok.inj h
    exact ⟨data, r, (verifyCrc32_eq_ok B).mp hcrc, ensure_eq_ok.mp hne, henv,
      .inl ⟨hty, ensure_eq_ok.mp hroom, hdr, r', rfl, hread⟩⟩
  · rename_i hty
    obtain rfl := Except.ok.inj h
    exact ⟨data, r, (verifyCrc32_eq_ok B).mp hcrc, ensure_eq_ok.mp hne, henv,
      .inr ⟨by simpa using hty, rfl⟩⟩

/-- A peeked header is there exactly for a reliable type. -/
theorem peekFrameInfo_reliable_isSome {buf : List UInt8} {info : TelemetryFrameInfo S}
    (h : peekFrameInfo B S buf = .ok info) :
    info.reliable.isSome = S.isReliableType info.envelope.ty := by
  obtain ⟨_, _, -, -, -, ⟨hty, -, hdr, -, hhdr, -⟩ | ⟨hty, hhdr⟩⟩ := peekFrameInfo_eq_ok h
  · simp [hhdr, hty]
  · simp [hhdr, hty]

/-- A frame whose checksum holds has the envelope of its frame info. -/
theorem peekEnvelope_of_peekFrameInfo {buf : List UInt8} {info : TelemetryFrameInfo S}
    (h : peekFrameInfo B S buf = .ok info) : peekEnvelope B S buf = .ok info.envelope := by
  obtain ⟨data, r, hbuf, hne, henv, -⟩ := peekFrameInfo_eq_ok h
  simp only [peekEnvelope, (verifyCrc32_eq_ok B).mpr hbuf, ok_bind, ensure_of hne, henv]

theorem overwrite_length {buf bytes : List UInt8} {start : Nat}
    (h : start + bytes.length ≤ buf.length) : (overwrite buf start bytes).length = buf.length := by
  simp only [overwrite, List.length_append, List.length_take, List.length_drop]
  omega

theorem overwrite_append {data bytes : List UInt8} {start : Nat} (tail : List UInt8)
    (h : start + bytes.length ≤ data.length) :
    overwrite (data ++ tail) start bytes = overwrite data start bytes ++ tail := by
  simp only [overwrite, List.take_append_of_le_length (show start ≤ data.length by omega),
    List.drop_append_of_le_length h, List.append_assoc]

theorem overwrite_tail {data tail bytes : List UInt8} (h : tail.length = bytes.length) :
    overwrite (data ++ tail) data.length bytes = data ++ bytes := by
  simp [overwrite, ← h]

theorem overwrite_take {data bytes : List UInt8} {start : Nat} (h : start ≤ data.length) :
    (overwrite data start bytes).take start = data.take start := by
  simp [overwrite, h]

/-- The frame after a rewrite is the new body with its own checksum. -/
theorem rewriteReliableHeader_eq {data : List UInt8} {env : TelemetryEnvelope S} {r : ByteReader}
    (hne : data ≠ []) (henv : readEnvelope B S (.new data) = .ok (env, r))
    (hty : S.isReliableType env.ty = true) (hroom : r.off + reliableHeaderBytes ≤ data.length)
    (hdr : ReliableHeader) :
    rewriteReliableHeader B S (appendCrc32 B data) hdr =
      (appendCrc32 B (overwrite data r.off (writeReliableHeader hdr)), .ok true) := by
  have hfit : r.off + (writeReliableHeader hdr).length ≤ data.length := by
    rwa [writeReliableHeader_length]
  have hlen := overwrite_length hfit
  have hdataLen : (appendCrc32 B data).length - crc32Bytes = data.length := by
    simp [appendCrc32, crc32Bytes]
  have hbody : overwrite (appendCrc32 B data) r.off (writeReliableHeader hdr) =
      overwrite data r.off (writeReliableHeader hdr) ++ u32LeBytes (B.crc32 data) := by
    rw [appendCrc32, overwrite_append _ hfit]
  have htail : ¬ (overwrite data r.off (writeReliableHeader hdr) ++
      u32LeBytes (B.crc32 data)).length < crc32Bytes := by
    simp [crc32Bytes]
  simp only [rewriteReliableHeader, reliableHeaderOffset_of_readEnvelope rfl hne henv, hty,
    if_true, hdataLen, hbody]
  rw [if_neg (by omega), if_neg htail, ← hlen, List.take_left,
    overwrite_tail (by simp), appendCrc32]

/-- Rewriting a header in place succeeds on every frame that peeks as reliable,
and a peek then finds the new header in the old envelope. -/
theorem rewriteReliableHeader_of_peek {buf : List UInt8} {info : TelemetryFrameInfo S}
    (hpeek : peekFrameInfo B S buf = .ok info)
    (hty : S.isReliableType info.envelope.ty = true) (hdr : ReliableHeader) :
    ∃ buf', rewriteReliableHeader B S buf hdr = (buf', .ok true) ∧
      buf'.length = buf.length ∧
      peekFrameInfo B S buf' = .ok ⟨info.envelope, some hdr⟩ := by
  obtain ⟨data, r, hbuf, hne, henv, hhdr⟩ := peekFrameInfo_eq_ok hpeek
  have hroom : reliableHeaderBytes ≤ r.remaining := by
    rcases hhdr with ⟨-, hroom, -⟩ | ⟨hno, -⟩
    · exact hroom
    · simp [hno] at hty
  obtain ⟨hrbuf, -, -⟩ := (PrefixOnly.readEnvelope B S).advances henv
  have hoff : r.off + reliableHeaderBytes ≤ data.length := by
    have hlen : r.buf.length = data.length := congrArg List.length hrbuf
    have hpos : 0 < reliableHeaderBytes := by decide
    simp only [ByteReader.remaining] at hroom
    omega
  have hfit : r.off + (writeReliableHeader hdr).length ≤ data.length := by
    rwa [writeReliableHeader_length]
  have hlen := overwrite_length hfit
  have hrewrite := rewriteReliableHeader_eq hne henv hty hoff hdr
  rw [← hbuf] at hrewrite
  refine ⟨_, hrewrite, ?_, ?_⟩
  · simp [hbuf, appendCrc32, hlen]
  · have hsame := (PrefixOnly.readEnvelope B S).same henv (hlen.trans rfl)
      (by rw [overwrite_take (by omega)]; rfl)
    have hread : readReliableHeader ⟨overwrite data r.off (writeReliableHeader hdr), r.off⟩ =
        .ok (hdr, .between (data.take r.off ++ writeReliableHeader hdr)
          (data.drop (r.off + (writeReliableHeader hdr).length))) := by
      have hbetween : (⟨overwrite data r.off (writeReliableHeader hdr), r.off⟩ : ByteReader) =
          .between (data.take r.off) (writeReliableHeader hdr ++
            data.drop (r.off + (writeReliableHeader hdr).length)) := by
        simp [ByteReader.between, overwrite, Nat.min_eq_left (show r.off ≤ data.length by omega)]
      rw [hbetween, readReliableHeader_between]
    have hne' : overwrite data r.off (writeReliableHeader hdr) ≠ [] := by
      rw [← List.length_pos_iff, hlen]
      exact List.length_pos_iff.mpr hne
    have hroom' : reliableHeaderBytes ≤
        (⟨overwrite data r.off (writeReliableHeader hdr), r.off⟩ : ByteReader).remaining := by
      simp only [ByteReader.remaining, hlen]
      omega
    simp only [peekFrameInfo, verifyCrc32_appendCrc32, ok_bind, peekFrameInfoInner,
      ensure_of hne']
    simp only [ByteReader.new] at hsame ⊢
    simp only [hsame, ok_bind, hty, if_true, ensure_of hroom', hread]

end Rewrite

section Encode
variable (B : Build) {S : Schema}

/-- What holds of any packet value of the running program: its strings are
slices and its `data_size` is a `usize`. -/
structure Packet.Resident (p : Packet S) : Prop where
  sender_le : (asBytes p.sender).length ≤ B.isizeMax
  payload_le : p.payload.asSlice.length ≤ B.isizeMax
  dataSize_lt : p.dataSize < B.usizeModulus

instance (p : Packet S) : Decidable (p.Resident B) :=
  decidable_of_iff
    ((asBytes p.sender).length ≤ B.isizeMax ∧ p.payload.asSlice.length ≤ B.isizeMax ∧
      p.dataSize < B.usizeModulus)
    ⟨fun h => ⟨h.1, h.2.1, h.2.2⟩, fun h => ⟨h.sender_le, h.payload_le, h.dataSize_lt⟩⟩

/-- The envelope a frame of `p` carries. -/
def Packet.wireEnvelope (p : Packet S) : TelemetryEnvelope S :=
  ⟨p.ty, bitmapEndpoints S (buildEndpointBitmap S p.endpoints), p.sender, p.timestamp⟩

theorem serializePacketInner_eq_ok {p : Packet S} {hdr : Option ReliableHeader}
    {frame : List UInt8} (h : serializePacketInner B p hdr = .ok frame) :
    frame = appendCrc32 B (frameBody B p hdr) ∧
      popcount (buildEndpointBitmap S p.endpoints) ≤ 255 ∧ frame.length ≤ B.isizeMax := by
  simp only [serializePacketInner] at h
  obtain ⟨_, -, h⟩ := bind_eq_ok.mp h
  obtain ⟨_, -, h⟩ := bind_eq_ok.mp h
  split at h
  · simp at h
  · rename_i hnep
    obtain ⟨_, halloc, h⟩ := bind_eq_ok.mp h
    obtain rfl := Except.ok.inj h
    exact ⟨rfl, by omega, B.allocate_eq_ok.mp halloc⟩

/-- `serialize_packet_inner` returns bytes, not a `Result`. -/
theorem serializePacketInner_neverErrs (p : Packet S) (hdr : Option ReliableHeader) :
    NeverErrs (serializePacketInner B p hdr) := by
  unfold serializePacketInner
  refine (B.usizeSum_neverErrs _).bind fun capacity => ?_
  refine (B.allocate_neverErrs _).bind fun _ => ?_
  split
  · exact .panics _
  · exact (B.allocate_neverErrs _).bind fun _ => .ok _

/-- The bytes of a frame in front of its header. -/
def frameFront (p : Packet S) : List UInt8 :=
  preludeBytes (frameFlags (compressIfBeneficial B p.payload.asSlice)
      (compressIfBeneficial B (asBytes p.sender)))
      (UInt8.ofNat (popcount (buildEndpointBitmap S p.endpoints))) p.ty p.dataSize p.timestamp
      (asBytes p.sender).length (compressIfBeneficial B (asBytes p.sender)) ++
    buildEndpointBitmap S p.endpoints ++ (compressIfBeneficial B (asBytes p.sender)).wire

theorem frameBody_eq (p : Packet S) (hdr : Option ReliableHeader) :
    frameBody B p hdr = frameFront B p ++ ((hdr.map writeReliableHeader).getD [] ++
      (compressIfBeneficial B p.payload.asSlice).wire) := by
  simp only [frameBody, frameFront, List.append_assoc]

theorem frameBody_ne_nil (p : Packet S) (hdr : Option ReliableHeader) : frameBody B p hdr ≠ [] := by
  simp [frameBody, preludeBytes]

/-- The envelope of a frame is read up to its header, whichever header that is. -/
theorem readEnvelope_frameBody {p : Packet S} {hdr : Option ReliableHeader} (hres : p.Resident B)
    (hnep : popcount (buildEndpointBitmap S p.endpoints) ≤ 255)
    (hlen : (appendCrc32 B (frameBody B p hdr)).length ≤ B.isizeMax) :
    readEnvelope B S (.new (frameBody B p hdr)) = .ok (p.wireEnvelope,
      .between (frameFront B p) ((hdr.map writeReliableHeader).getD [] ++
        (compressIfBeneficial B p.payload.asSlice).wire)) := by
  have hmodulus := B.isizeMax_lt
  have hsenderLen := hres.sender_le
  have hsenderWire := compressIfBeneficial_length_le B _ hsenderLen
  have hcount := length_bitmapEndpoints_of_few hnep
  have hplain := compressIfBeneficial_plain B hsenderLen
  have hprelude := readPrelude_preludeBytes B _
    (UInt8.ofNat (popcount (buildEndpointBitmap S p.endpoints))) p.ty p.dataSize p.timestamp
    (asBytes p.sender).length (compressIfBeneficial B (asBytes p.sender))
    (flags_payload (compressIfBeneficial B p.payload.asSlice) _) (flags_sender _ _)
    hres.dataSize_lt (by omega) (by omega) hplain
  have htotal : S.epBitmapBytes + (compressIfBeneficial B (asBytes p.sender)).wire.length ≤
      B.isizeMax := by
    simp only [appendCrc32, frameBody, List.length_append, buildEndpointBitmap_length] at hlen
    omega
  have hsum := B.usizeSum_of_lt
    [S.epBitmapBytes, (compressIfBeneficial B (asBytes p.sender)).wire.length]
    (by simp only [List.sum_cons, List.sum_nil]; omega)
  have hfits : [S.epBitmapBytes, (compressIfBeneficial B (asBytes p.sender)).wire.length].sum ≤
      (buildEndpointBitmap S p.endpoints ++ ((compressIfBeneficial B (asBytes p.sender)).wire ++
        ((hdr.map writeReliableHeader).getD [] ++
          (compressIfBeneficial B p.payload.asSlice).wire))).length := by
    simp only [List.sum_cons, List.sum_nil, List.length_append, buildEndpointBitmap_length]
    omega
  simp only [frameBody, readEnvelope, hprelude, ok_bind, hsum, ByteReader.between_remaining,
    ensure_of hfits, ByteReader.readBytes_between (buildEndpointBitmap_length p.endpoints).symm,
    expandEndpointBitmap_eq (buildEndpointBitmap_length p.endpoints), ensure_of hcount,
    ByteReader.readBytes_between rfl, decodeSenderName_compress B _ hsenderLen,
    dataTypeFromRaw_ofNat]
  rfl

theorem peekFrameInfo_of_serialize {p : Packet S} {hdr : ReliableHeader} {frame : List UInt8}
    (hres : p.Resident B) (hty : S.isReliableType p.ty = true)
    (h : serializePacketWithReliable B p hdr = .ok frame) :
    peekFrameInfo B S frame = .ok ⟨p.wireEnvelope, some hdr⟩ := by
  obtain ⟨rfl, hnep, hlen⟩ := serializePacketInner_eq_ok B h
  have hroom : reliableHeaderBytes ≤ (writeReliableHeader hdr ++
      (compressIfBeneficial B p.payload.asSlice).wire).length := by
    simp
  have hty' : S.isReliableType p.wireEnvelope.ty = true := hty
  simp only [peekFrameInfo, verifyCrc32_appendCrc32, ok_bind, peekFrameInfoInner,
    ensure_of (frameBody_ne_nil B p _), readEnvelope_frameBody B hres hnep hlen, hty', if_true,
    Option.map_some, Option.getD_some, ByteReader.between_remaining, ensure_of hroom,
    readReliableHeader_between]

end Encode
end Sedsprintf
