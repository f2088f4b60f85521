import Sedsprintf.Wire.Agreement

/-!
# The numbers of a frame

The reader of a ULEB128 field keeps what falls below bit 64; the exact number is that of
`decodeLeb`, which has no bound. A field ends at the same byte for both.
-/
namespace Sedsprintf

open Lib

/-- The bytes in front of the cursor. -/
def ByteReader.unread (r : ByteReader) : List UInt8 := r.buf.drop r.off

theorem ByteReader.unread_of_readByte {r r' : ByteReader} {b : UInt8} (h : r.readByte = .ok (b, r')) :
    r.unread = b :: r'.unread := by
  obtain ⟨hle, hbytes, rfl⟩ := readBytes_eq_ok.mp (readByte_eq_ok h)
  have hdrop : r.unread.drop 1 = ByteReader.unread { r with off := r.off + 1 } := List.drop_drop
  have htake : [b] = r.unread.take 1 := hbytes
  rw [← List.take_append_drop 1 r.unread, ← htake, hdrop]
  rfl

/-- A digit read at a shift adds what of it falls below bit 64. -/
theorem or_uleb_digit (b : UInt8) (acc : UInt64) {shift : Nat} (hshift : shift < 64)
    (hacc : acc.toNat < 2 ^ shift) :
    (acc ||| ((b &&& 0x7F).toUInt64 <<< UInt64.ofNat shift)).toNat =
      (acc.toNat + b.toNat % 128 * 2 ^ shift) % 2 ^ 64 := by
  have hmod : (UInt64.ofNat shift).toNat % 64 = shift := by
    rw [UInt64.toNat_ofNat']
    omega
  have hpow : (2 : Nat) ^ 64 = 2 ^ (64 - shift) * 2 ^ shift := by
    rw [← Nat.pow_add]
    congr 1
    omega
  have hlow : b.toNat % 128 * 2 ^ shift % 2 ^ 64 =
      (b.toNat % 128 % 2 ^ (64 - shift)) * 2 ^ shift := by
    rw [hpow, Nat.mul_mod_mul_right]
  have hfits : acc.toNat + (b.toNat % 128 % 2 ^ (64 - shift)) * 2 ^ shift < 2 ^ 64 := by
    have hdigit : b.toNat % 128 % 2 ^ (64 - shift) + 1 ≤ 2 ^ (64 - shift) :=
      Nat.mod_lt _ (Nat.two_pow_pos _)
    have hscaled := Nat.mul_le_mul_right (2 ^ shift) hdigit
    rw [← hpow, Nat.add_mul, Nat.one_mul] at hscaled
    omega
  rw [UInt64.toNat_or, UInt64.toNat_shiftLeft, hmod, UInt8.toNat_toUInt64, toNat_and_7F,
    Nat.shiftLeft_eq, hlow, ← Nat.shiftLeft_eq, or_shiftLeft_eq_add hacc, Nat.add_mod, hlow,
    Nat.mod_eq_of_lt acc.toNat_lt, Nat.mod_eq_of_lt hfits]

-- Induction on the digits that may still come; `acc` holds those below `2 ^ shift`, and the
-- tenth stands at shift 63.
theorem readUleb128Loop_exact {fuel : Nat} {acc v : UInt64} {shift : Nat} {r r' : ByteReader}
    (hpos : shift + 7 * fuel = 70) (hacc : fuel ≠ 0 → acc.toNat < 2 ^ shift)
    (h : readUleb128Loop fuel acc shift r = .ok (v, r')) :
    ∃ exact, decodeLeb r.unread = some (exact, r'.unread) ∧
      v.toNat = (acc.toNat + exact * 2 ^ shift) % 2 ^ 64 := by
  induction fuel generalizing acc shift r with
  | zero => simp [readUleb128Loop] at h
  | succ fuel ih =>
    obtain ⟨⟨b, r₁⟩, hbyte, h⟩ := bind_eq_ok.mp h
    have hunread := ByteReader.unread_of_readByte hbyte
    have hacc := hacc (Nat.succ_ne_zero fuel)
    have hdigit := or_uleb_digit b acc (by omega) hacc
    dsimp only at h
    split at h
    · rename_i hlast
      have hsmall := (and_80_eq_zero_iff b).mp hlast
      obtain ⟨rfl, rfl⟩ := Prod.mk.inj (Except.ok.inj h)
      refine ⟨b.toNat, ?_, ?_⟩
      · rw [hunread, decodeLeb, if_pos hsmall]
      · rw [hdigit, Nat.mod_eq_of_lt hsmall]
    · rename_i hmore
      have hlarge := mt (and_80_eq_zero_iff b).mpr hmore
      -- below the tenth digit nothing is lost
      have hkept (hfuel : fuel ≠ 0) : (acc ||| ((b &&& 0x7F).toUInt64 <<< UInt64.ofNat shift)).toNat =
          acc.toNat + b.toNat % 128 * 2 ^ shift ∧
          acc.toNat + b.toNat % 128 * 2 ^ shift < 2 ^ (shift + 7) := by
        have hcarry : (b.toNat % 128 + 1) * 2 ^ shift ≤ 128 * 2 ^ shift :=
          Nat.mul_le_mul_right _ (by omega)
        have hpow : (2 : Nat) ^ (shift + 7) = 128 * 2 ^ shift := by ring
        have hbound : (2 : Nat) ^ (shift + 7) ≤ 2 ^ 63 :=
          Nat.pow_le_pow_right (by omega) (by omega)
        rw [Nat.add_mul, Nat.one_mul] at hcarry
        rw [hdigit]
        exact ⟨Nat.mod_eq_of_lt (by omega), by omega⟩
      obtain ⟨more, hdecode, hvalue⟩ := ih (by omega) (fun hfuel => by
        rw [(hkept hfuel).1]
        exact (hkept hfuel).2) h
      refine ⟨b.toNat % 128 + 128 * more, ?_, ?_⟩
      · rw [hunread, decodeLeb, if_neg hlarge, hdecode]
        rfl
      · rw [hvalue, hdigit, Nat.mod_add_mod]
        congr 1
        ring

/-- What is read is the exact number modulo 2⁶⁴. -/
theorem readUleb128_exact {r r' : ByteReader} {v : UInt64} (h : readUleb128 r = .ok (v, r')) :
    ∃ exact, decodeLeb r.unread = some (exact, r'.unread) ∧ v.toNat = exact % 2 ^ 64 := by
  obtain ⟨exact, hdecode, hvalue⟩ := readUleb128Loop_exact (by rfl) (fun _ => by decide) h
  refine ⟨exact, hdecode, ?_⟩
  rw [hvalue]
  simp

/-- The numbers that a frame gives for its type, its payload size, its timestamp and the length
of its sender. -/
structure WireNumbers where
  ty : Nat
  payloadSize : Nat
  timestamp : Nat
  senderLen : Nat
  deriving DecidableEq, Repr

/-- The four fields behind FLAGS and NEP. -/
def wireNumbers (data : List UInt8) : Option WireNumbers := do
  let (ty, rest) ← decodeLeb (data.drop 2)
  let (payloadSize, rest) ← decodeLeb rest
  let (timestamp, rest) ← decodeLeb rest
  let (senderLen, _) ← decodeLeb rest
  some ⟨ty, payloadSize, timestamp, senderLen⟩

/-- No number is too large for the integer it is read into. -/
structure WireNumbers.Fits (B : Build) (n : WireNumbers) : Prop where
  ty : n.ty < 2 ^ 64
  payloadSize : n.payloadSize < B.usizeModulus
  timestamp : n.timestamp < 2 ^ 64
  senderLen : n.senderLen < B.usizeModulus

/-- `as usize` keeps of a number what falls below the width of an address. -/
theorem Build.asUsize_of_exact (B : Build) {v : UInt64} {exact : Nat}
    (h : v.toNat = exact % 2 ^ 64) : B.asUsize v = exact % B.usizeModulus := by
  rw [Build.asUsize, h]
  refine Nat.mod_mod_of_dvd _ ?_
  rcases B.usizeBits_eq with hbits | hbits
  · rw [Build.usizeModulus, hbits]
    exact Nat.pow_dvd_pow 2 (by omega)
  · rw [Build.usizeModulus, hbits]

/-- What a prelude holds of the numbers. -/
theorem readPrelude_exact (B : Build) {data : List UInt8} {pre : Prelude} {r : ByteReader}
    (h : readPrelude B (.new data) = .ok (pre, r)) :
    ∃ n, wireNumbers data = some n ∧ pre.tyV.toNat = n.ty % 2 ^ 64 ∧
      pre.dsz = n.payloadSize % B.usizeModulus ∧ pre.tsV.toNat = n.timestamp % 2 ^ 64 ∧
      pre.slen = n.senderLen % B.usizeModulus ∧
      (pre.senderIsCompressed = false → pre.senderWireLen = pre.slen) := by
  obtain ⟨⟨flags, r₁⟩, hflags, h⟩ := bind_eq_ok.mp h
  obtain ⟨⟨nep, r₂⟩, hnep, h⟩ := bind_eq_ok.mp h
  obtain ⟨⟨tyV, r₃⟩, hty, h⟩ := bind_eq_ok.mp h
  obtain ⟨⟨dsz, r₄⟩, hdsz, h⟩ := bind_eq_ok.mp h
  obtain ⟨⟨tsV, r₅⟩, hts, h⟩ := bind_eq_ok.mp h
  obtain ⟨⟨slen, r₆⟩, hslen, h⟩ := bind_eq_ok.mp h
  obtain ⟨⟨wireLen, r₇⟩, hwire, h⟩ := bind_eq_ok.mp h
  obtain ⟨rfl, rfl⟩ := Prod.mk.inj (Except.ok.inj h)
  have hstart : data.drop 2 = r₂.unread := by
    have hfirst := ByteReader.unread_of_readByte hflags
    have hsecond := ByteReader.unread_of_readByte hnep
    have hdata : data = (ByteReader.new data).unread := rfl
    rw [hdata, hfirst, hsecond]
    rfl
  obtain ⟨ty, htyDecode, htyValue⟩ := readUleb128_exact hty
  obtain ⟨size, hsizeDecode, hsizeValue⟩ := readUleb128_exact hdsz
  obtain ⟨timestamp, htsDecode, htsValue⟩ := readUleb128_exact hts
  obtain ⟨senderLen, hslenDecode, hslenValue⟩ := readUleb128_exact hslen
  refine ⟨⟨ty, size, timestamp, senderLen⟩, ?_, htyValue, B.asUsize_of_exact hsizeValue, htsValue,
    B.asUsize_of_exact hslenValue, fun hplain => ?_⟩
  · simp only [wireNumbers, hstart, htyDecode, hsizeDecode, htsDecode, hslenDecode,
      Option.bind_eq_bind, Option.bind_some]
  · have hplain : decide (flags &&& flagCompressedSender ≠ 0) = false := hplain
    rw [readSenderWireLen, hplain] at hwire
    obtain ⟨rfl, -⟩ := Prod.mk.inj (Except.ok.inj hwire)
    rfl

theorem dataTypeFromRaw_val {S : Schema} {tyV : UInt64} {ty : S.DataType}
    (h : dataTypeFromRaw S tyV = .ok ty) : tyV.toNat = ty.val := by
  obtain ⟨_, -, h⟩ := bind_eq_ok.mp h
  obtain ⟨_, -, h⟩ := bind_eq_ok.mp h
  have h := okOr_eq_ok.mp h
  unfold Schema.dataTypeFromU32 at h
  split at h
  · exact congrArg Fin.val (Option.some.inj h)
  · cases h

namespace Decoded
variable {B : Build} {S : Schema} {buf : List UInt8} {p : Packet S}

/-- The sender has the length that the prelude gives for it. -/
theorem sender_length (d : Decoded B S buf p)
    (hplain : d.pre.senderIsCompressed = false → d.pre.senderWireLen = d.pre.slen) :
    (asBytes p.sender).length = d.pre.slen := by
  have hsender := d.sender_ok
  unfold decodeSenderName at hsender
  split at hsender
  · obtain ⟨bytes, hdec, hutf⟩ := bind_eq_ok.mp hsender
    rw [fromUtf8_eq_some.mp (okOr_eq_ok.mp hutf)]
    exact decompress_length B hdec
  · rename_i hcompressed
    rw [fromUtf8_eq_some.mp (okOr_eq_ok.mp hsender), (ByteReader.readBytes_remaining d.sender_read).2.2]
    exact hplain (Bool.eq_false_iff.mpr hcompressed)

end Decoded

theorem eq_mod_iff_lt {n m : Nat} (h : 0 < m) : n = n % m ↔ n < m :=
  ⟨fun heq => heq ▸ Nat.mod_lt _ h, fun hlt => (Nat.mod_eq_of_lt hlt).symm⟩

end Sedsprintf
