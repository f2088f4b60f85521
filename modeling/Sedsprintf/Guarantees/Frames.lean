import Sedsprintf.Wire.Header

/-!
# Frames patched and measured

A header rewritten in place leaves the frame that the encoder would have written with it, and
the length of a frame is known before it is written.
-/
namespace Sedsprintf

open Lib

section Rewriting
variable (B : Build) {S : Schema}

/-- The encoder does as well with any header as with another. -/
theorem serializePacketWithReliable_any {p : Packet S} {hdr : ReliableHeader} {frame : List UInt8}
    (h : serializePacketWithReliable B p hdr = .ok frame) (hdr' : ReliableHeader) :
    serializePacketWithReliable B p hdr' = .ok (appendCrc32 B (frameBody B p (some hdr'))) := by
  have hlen : ∀ hdr : ReliableHeader, (appendCrc32 B (frameBody B p (some hdr))).length =
      (frameFront B p).length + (reliableHeaderBytes +
        (compressIfBeneficial B p.payload.asSlice).wire.length) + 4 := by
    intro hdr
    rw [appendCrc32, frameBody_eq, Option.map_some, Option.getD_some, List.length_append,
      List.length_append, List.length_append, writeReliableHeader_length, u32LeBytes_length]
  simp only [serializePacketWithReliable, serializePacketInner, Option.isSome_some, if_true] at h ⊢
  obtain ⟨capacity, hsum, h⟩ := bind_eq_ok.mp h
  obtain ⟨_, hroom, h⟩ := bind_eq_ok.mp h
  rw [hsum, ok_bind, hroom, ok_bind]
  split at h
  · simp at h
  · rename_i hnep
    obtain ⟨_, hframe, -⟩ := bind_eq_ok.mp h
    rw [if_neg hnep]
    rw [hlen, ← hlen hdr'] at hframe
    rw [hframe]
    rfl

theorem overwrite_between {front bytes bytes' tail : List UInt8} (h : bytes.length = bytes'.length) :
    overwrite (front ++ (bytes ++ tail)) front.length bytes' = front ++ (bytes' ++ tail) := by
  have hdrop : (front ++ (bytes ++ tail)).drop (front.length + bytes'.length) = tail := by
    rw [← h, ← List.append_assoc, ← List.length_append, List.drop_left]
  rw [overwrite, hdrop, List.take_left, List.append_assoc]

/-- The frame of one header, rewritten with another. -/
theorem rewriteReliableHeader_frame {p : Packet S} (hres : p.Resident B)
    (hty : S.isReliableType p.ty = true) {hdr : ReliableHeader} {frame : List UInt8}
    (h : serializePacketWithReliable B p hdr = .ok frame) (hdr' : ReliableHeader) :
    rewriteReliableHeader B S frame hdr' =
      (appendCrc32 B (frameBody B p (some hdr')), .ok true) := by
  obtain ⟨rfl, hnep, hlen⟩ := serializePacketInner_eq_ok B h
  have henv := readEnvelope_frameBody B hres hnep hlen
  have hroom : (frameFront B p).length + reliableHeaderBytes ≤ (frameBody B p (some hdr)).length := by
    rw [frameBody_eq, Option.map_some, Option.getD_some, List.length_append, List.length_append,
      writeReliableHeader_length]
    omega
  rw [rewriteReliableHeader_eq (frameBody_ne_nil B p _) henv hty hroom, ByteReader.between_off,
    frameBody_eq, frameBody_eq, Option.map_some, Option.map_some, Option.getD_some, Option.getD_some,
    overwrite_between]
  rw [writeReliableHeader_length, writeReliableHeader_length]

/-- A frame of an unreliable type has no header to rewrite. -/
theorem rewriteReliableHeader_unreliable {p : Packet S} (hres : p.Resident B)
    (hty : S.isReliableType p.ty = false) {hdr : Option ReliableHeader} {frame : List UInt8}
    (h : serializePacketInner B p hdr = .ok frame) (hdr' : ReliableHeader) :
    rewriteReliableHeader B S frame hdr' = (frame, .ok false) := by
  obtain ⟨rfl, hnep, hlen⟩ := serializePacketInner_eq_ok B h
  have henv := readEnvelope_frameBody B hres hnep hlen
  have hoff := reliableHeaderOffset_of_readEnvelope rfl (frameBody_ne_nil B p hdr) henv
  rw [show p.wireEnvelope.ty = p.ty from rfl, hty] at hoff
  rw [rewriteReliableHeader, hoff]
  rfl

/-- A rewrite that does not succeed writes nothing: a frame with an offset is long enough for
its checksum. -/
theorem rewriteReliableHeader_unchanged (buf : List UInt8) (hdr : ReliableHeader)
    (h : (rewriteReliableHeader B S buf hdr).2 ≠ .ok true) :
    (rewriteReliableHeader B S buf hdr).1 = buf := by
  cases hoff : reliableHeaderOffset B S buf with
  | error e => rw [rewriteReliableHeader, hoff]
  | ok found =>
    cases found with
    | none => rw [rewriteReliableHeader, hoff]
    | some off =>
      obtain ⟨_, hlong, -⟩ := bind_eq_ok.mp hoff
      have hlong := ensure_eq_ok.mp hlong
      rw [rewriteReliableHeader, hoff] at h ⊢
      dsimp only at h ⊢
      split at h
      · rename_i hshort
        rw [if_pos hshort]
      · rename_i hroom
        have hpos : 0 < reliableHeaderBytes := by decide
        have hlen : (overwrite buf off (writeReliableHeader hdr)).length = buf.length := by
          refine overwrite_length ?_
          rw [writeReliableHeader_length]
          omega
        rw [hlen, if_neg (by omega)] at h
        exact absurd rfl h

/-- A rewrite equals an encoding with the new header; it says so where there is no header to
rewrite, and what it does not rewrite it leaves as it was. -/
theorem rewrite_eq_reencode {p : Packet S} (hres : p.Resident B) :
    (S.isReliableType p.ty = true → ∀ hdr hdr' : ReliableHeader, ∀ frame,
      serializePacketWithReliable B p hdr = .ok frame →
      ∃ frame', serializePacketWithReliable B p hdr' = .ok frame' ∧
        rewriteReliableHeader B S frame hdr' = (frame', .ok true)) ∧
    (S.isReliableType p.ty = false → ∀ (hdr : Option ReliableHeader) (hdr' : ReliableHeader) frame,
      serializePacketInner B p hdr = .ok frame →
      rewriteReliableHeader B S frame hdr' = (frame, .ok false)) ∧
    ∀ (buf : List UInt8) (hdr : ReliableHeader), (rewriteReliableHeader B S buf hdr).2 ≠ .ok true →
      (rewriteReliableHeader B S buf hdr).1 = buf := by
  refine ⟨fun hty hdr hdr' frame h => ?_, fun hty hdr hdr' frame h => ?_, fun buf hdr h => ?_⟩
  · exact ⟨_, serializePacketWithReliable_any B h hdr', rewriteReliableHeader_frame B hres hty h hdr'⟩
  · exact rewriteReliableHeader_unreliable B hres hty h hdr'
  · exact rewriteReliableHeader_unchanged B buf hdr h

/-- The GPS fix, sent again under another number. -/
theorem rewrite_eq_reencode_gps : gpsPacket.Resident hostBuild ∧
    ∃ frame frame', serializePacketWithReliable hostBuild gpsPacket ⟨0, 1, 0⟩ = .ok frame ∧
      serializePacketWithReliable hostBuild gpsPacket ⟨2, 7, 3⟩ = .ok frame' ∧
      rewriteReliableHeader hostBuild defaultSchema frame ⟨2, 7, 3⟩ = (frame', .ok true) := by
  have hres : gpsPacket.Resident hostBuild := by decide
  have hmem : gpsPacket.InMemory hostBuild := ⟨by decide, by decide, by decide⟩
  have hframe := serializePacketInner_eq hostBuild hmem (by decide)
    (show (some (⟨0, 1, 0⟩ : ReliableHeader)).isSome = _ from by decide)
  obtain ⟨frame', hnew, hrewrite⟩ := (rewrite_eq_reencode hostBuild hres).1 (by decide) ⟨0, 1, 0⟩
    ⟨2, 7, 3⟩ _ hframe
  exact ⟨hres, _, frame', hframe, hnew, hrewrite⟩

end Rewriting

section Measuring
variable (B : Build) {S : Schema}

/-- `header_size_bytes` with the additions it makes. -/
def headerSizeOnUsize (pkt : Packet S) : Outcome Nat :=
  let senderBytes := asBytes pkt.sender
  let sender := compressIfBeneficial B senderBytes
  B.usizeSum [2, uleb128Size (UInt64.ofNat pkt.ty.val), uleb128Size (UInt64.ofNat pkt.dataSize),
    uleb128Size pkt.timestamp, uleb128Size (UInt64.ofNat senderBytes.length),
    if sender.compressed then uleb128Size (UInt64.ofNat sender.wire.length) else 0]

/-- `packet_wire_size` with the additions it makes. -/
def packetWireSizeOnUsize (pkt : Packet S) : Outcome Nat := do
  let header ← headerSizeOnUsize B pkt
  let sender := compressIfBeneficial B (asBytes pkt.sender)
  let payload := compressIfBeneficial B pkt.payload.asSlice
  let reliableLen := if S.isReliableType pkt.ty then reliableHeaderBytes else 0
  B.usizeSum [header, S.epBitmapBytes, sender.wire.length, reliableLen, payload.wire.length,
    crc32Bytes]

/-- The additions are exact where the size fits. -/
theorem packetWireSizeOnUsize_of_lt {pkt : Packet S} (h : packetWireSize B pkt < B.usizeModulus) :
    packetWireSizeOnUsize B pkt = .ok (packetWireSize B pkt) := by
  have hheader : headerSizeOnUsize B pkt = .ok (headerSizeBytes B pkt) := by
    rw [headerSizeOnUsize, B.usizeSum_of_lt]
    · simp only [List.sum_cons, List.sum_nil, headerSizeBytes, Nat.add_zero, Nat.add_assoc]
    · simp only [packetWireSize, headerSizeBytes] at h
      simp only [List.sum_cons, List.sum_nil]
      omega
  rw [packetWireSizeOnUsize, hheader, ok_bind, B.usizeSum_of_lt]
  · simp only [List.sum_cons, List.sum_nil, packetWireSize, Nat.add_zero, Nat.add_assoc]
  · simp only [packetWireSize] at h
    simp only [List.sum_cons, List.sum_nil]
    omega

theorem serializePacket_length {p : Packet S} {frame : List UInt8}
    (h : serializePacket B p = .ok frame) :
    frame.length = packetWireSize B p ∧ frame.length ≤ B.isizeMax := by
  unfold serializePacket at h
  split at h
  · rename_i hty
    obtain ⟨rfl, -, hlen⟩ := serializePacketInner_eq_ok B h
    exact ⟨frameBody_length B hty.symm, hlen⟩
  · rename_i hty
    obtain ⟨rfl, -, hlen⟩ := serializePacketInner_eq_ok B h
    exact ⟨frameBody_length B (Bool.eq_false_iff.mpr hty).symm, hlen⟩

/-- The size predicted for a packet is the length of its frame. -/
theorem packetWireSize_exact {p : Packet S} {frame : List UInt8} (h : serializePacket B p = .ok frame) :
    packetWireSizeOnUsize B p = .ok frame.length := by
  obtain ⟨hlen, hle⟩ := serializePacket_length B h
  have hlt := B.isizeMax_lt
  rw [hlen]
  exact packetWireSizeOnUsize_of_lt B (by omega)

theorem packetWireSize_exact_gps : ∃ frame, serializePacket hostBuild gpsPacket = .ok frame ∧
    packetWireSizeOnUsize hostBuild gpsPacket = .ok frame.length := by
  have hmem : gpsPacket.InMemory hostBuild := ⟨by decide, by decide, by decide⟩
  have hframe : serializePacket hostBuild gpsPacket = .ok _ :=
    (if_pos (by decide)).trans (serializePacketInner_eq hostBuild hmem (by decide) (by decide))
  exact ⟨_, hframe, packetWireSize_exact hostBuild hframe⟩

end Measuring
end Sedsprintf
