import Sedsprintf.Packet
import Sedsprintf.Lib.BitSet

/-!
# Byte cursor and field codecs

src/serialize.rs:88-240: `ByteReader`, ULEB128, little-endian words, the CRC32
trailer and the reliable header. The cursor is passed explicitly. The encoder
facts are stated at a reader that stands between the bytes already consumed and
the bytes still to come (`ByteReader.between`).
-/
namespace Sedsprintf

open Lib

def reject {α : Type} (msg : String) : Outcome α := fail (.deserialize msg)

@[simp] theorem reject_ne_ok {α : Type} (msg : String) (a : α) : reject msg ≠ .ok a := by
  simp [reject]

structure ByteReader where
  buf : List UInt8
  off : Nat
  deriving DecidableEq, Repr

namespace ByteReader

def new (buf : List UInt8) : ByteReader := ⟨buf, 0⟩

def remaining (r : ByteReader) : Nat := r.buf.length - r.off

def readBytes (r : ByteReader) (n : Nat) : Outcome (List UInt8 × ByteReader) :=
  if r.remaining < n then reject "short read"
  else .ok ((r.buf.drop r.off).take n, { r with off := r.off + n })

/-- `r.read_bytes(1)?[0]`. -/
def readByte (r : ByteReader) : Outcome (UInt8 × ByteReader) := do
  let (bytes, r) ← r.readBytes 1
  match bytes with
  | b :: _ => .ok (b, r)
  | [] => panics "index out of bounds"

/-- `done` has been read and `rest` has not. -/
def between (done rest : List UInt8) : ByteReader := ⟨done ++ rest, done.length⟩

theorem new_eq_between (buf : List UInt8) : new buf = between [] buf := rfl

@[simp] theorem between_remaining (done rest : List UInt8) :
    (between done rest).remaining = rest.length := by
  simp [between, remaining]

@[simp] theorem between_off (done rest : List UInt8) : (between done rest).off = done.length := rfl

theorem readBytes_between {field : List UInt8} {n : Nat} (hn : n = field.length)
    (done rest : List UInt8) :
    (between done (field ++ rest)).readBytes n = .ok (field, between (done ++ field) rest) := by
  subst hn
  simp [readBytes, between, remaining]

theorem readByte_between (b : UInt8) (done rest : List UInt8) :
    (between done (b :: rest)).readByte = .ok (b, between (done ++ [b]) rest) := by
  have hread : (between done ([b] ++ rest)).readBytes 1 = .ok ([b], between (done ++ [b]) rest) :=
    readBytes_between rfl done rest
  rw [readByte, show b :: rest = [b] ++ rest from rfl, hread]
  rfl

theorem readBytes_eq_ok {r r' : ByteReader} {n : Nat} {bytes : List UInt8} :
    r.readBytes n = .ok (bytes, r') ↔
      n ≤ r.remaining ∧ bytes = (r.buf.drop r.off).take n ∧ r' = { r with off := r.off + n } := by
  unfold readBytes
  split
  · rename_i hshort
    simp only [reject_ne_ok, false_iff]
    rintro ⟨hle, -⟩
    omega
  · rename_i henough
    simp only [Except.ok.injEq, Prod.mk.injEq]
    constructor
    · rintro ⟨rfl, rfl⟩
      exact ⟨by omega, rfl, rfl⟩
    · rintro ⟨-, rfl, rfl⟩
      exact ⟨rfl, rfl⟩

/-- Reading moves the cursor inside the same buffer. -/
theorem readBytes_remaining {r r' : ByteReader} {n : Nat} {bytes : List UInt8}
    (h : r.readBytes n = .ok (bytes, r')) :
    r'.buf = r.buf ∧ r'.remaining + n = r.remaining ∧ bytes.length = n := by
  obtain ⟨hle, rfl, rfl⟩ := readBytes_eq_ok.mp h
  refine ⟨rfl, ?_, ?_⟩
  · simp only [remaining] at hle ⊢
    omega
  · simp only [remaining] at hle
    simp [hle]

theorem readByte_eq_ok {r r' : ByteReader} {b : UInt8} (h : r.readByte = .ok (b, r')) :
    r.readBytes 1 = .ok ([b], r') := by
  obtain ⟨⟨bytes, r₁⟩, hread, hmatch⟩ := bind_eq_ok.mp h
  obtain ⟨-, -, hlen⟩ := readBytes_remaining hread
  cases bytes with
  | nil => simp at hlen
  | cons b₀ tail =>
    simp only [List.length_cons, Nat.add_eq_right, List.length_eq_zero_iff] at hlen
    simp only [Except.ok.injEq, Prod.mk.injEq] at hmatch
    obtain ⟨rfl, rfl⟩ := hmatch
    rw [hread, hlen]

end ByteReader

/-- The `loop` of `write_uleb128`; a `u64` has at most ten base-128 digits. -/
def writeUleb128Loop : Nat → UInt64 → List UInt8
  | 0, _ => []
  | fuel + 1, v =>
    let byte := (v &&& 0x7F).toUInt8
    let v := v >>> 7
    if v ≠ 0 then (byte ||| 0x80) :: writeUleb128Loop fuel v else [byte]

def writeUleb128 (v : UInt64) : List UInt8 := writeUleb128Loop 10 v

/-- One run of the ten-step `for` of `read_uleb128`. The shift never passes 63. -/
def readUleb128Loop : Nat → UInt64 → Nat → ByteReader → Outcome (UInt64 × ByteReader)
  | 0, _, _, _ => reject "uleb128 too long"
  | fuel + 1, result, shift, r => do
    let (b, r) ← r.readByte
    let result := result ||| ((b &&& 0x7F).toUInt64 <<< UInt64.ofNat shift)
    if b &&& 0x80 = 0 then .ok (result, r) else readUleb128Loop fuel result (shift + 7) r

def readUleb128 (r : ByteReader) : Outcome (UInt64 × ByteReader) := readUleb128Loop 10 0 0 r

def uleb128SizeLoop : Nat → UInt64 → Nat
  | 0, _ => 0
  | fuel + 1, v => if 0x80 ≤ v then 1 + uleb128SizeLoop fuel (v >>> 7) else 1

def uleb128Size (v : UInt64) : Nat := uleb128SizeLoop 10 v

theorem writeUleb128Loop_eq (fuel : Nat) (v : UInt64) :
    writeUleb128Loop fuel v = encodeLeb fuel v.toNat := by
  induction fuel generalizing v with
  | zero => rfl
  | succ fuel ih =>
    have hshift : (v >>> 7).toNat = v.toNat / 128 := by
      rw [UInt64.toNat_shiftRight]
      exact Nat.shiftRight_eq_div_pow _ _
    have hdigit : (v &&& 0x7F).toUInt8.toNat = v.toNat % 128 := by
      have hmask : v.toNat &&& 127 = v.toNat % 128 := Nat.and_two_pow_sub_one_eq_mod v.toNat 7
      rw [UInt64.toNat_toUInt8, UInt64.toNat_and]
      show (v.toNat &&& 127) % 256 = _
      omega
    have hlast : (v &&& 0x7F).toUInt8 = UInt8.ofNat (v.toNat % 128) := by
      rw [← UInt8.toNat_inj, hdigit, UInt8.toNat_ofNat']
      omega
    have hmore : (v &&& 0x7F).toUInt8 ||| 0x80 = UInt8.ofNat (v.toNat % 128 + 128) := by
      rw [← UInt8.toNat_inj, UInt8.toNat_or, hdigit, UInt8.toNat_ofNat']
      have hor : v.toNat % 128 ||| 1 <<< 7 = v.toNat % 128 + 1 * 2 ^ 7 :=
        or_shiftLeft_eq_add (by omega)
      simp only [Nat.one_shiftLeft, Nat.reducePow, Nat.one_mul] at hor
      show v.toNat % 128 ||| 128 = _
      omega
    have hzero : (v >>> 7) ≠ 0 ↔ ¬ v.toNat / 128 = 0 := by
      rw [← hshift, Ne, ← UInt64.toNat_inj]
      rfl
    rw [hlast] at hmore
    simp only [writeUleb128Loop, encodeLeb, hzero, hlast, hmore, ih, hshift, ite_not]

theorem writeUleb128_eq (v : UInt64) : writeUleb128 v = encodeLeb 10 v.toNat :=
  writeUleb128Loop_eq 10 v

private theorem uleb_digit_toNat (b : UInt8) (acc : UInt64) {shift : Nat} (hshift : shift < 64)
    (hacc : acc.toNat < 2 ^ shift) (hfit : b.toNat % 128 * 2 ^ shift < 2 ^ 64) :
    (acc ||| ((b &&& 0x7F).toUInt64 <<< UInt64.ofNat shift)).toNat =
      acc.toNat + b.toNat % 128 * 2 ^ shift := by
  have hmod : (UInt64.ofNat shift).toNat % 64 = shift := by
    rw [UInt64.toNat_ofNat']
    omega
  rw [UInt64.toNat_or, UInt64.toNat_shiftLeft, hmod, UInt8.toNat_toUInt64, toNat_and_7F,
    Nat.shiftLeft_eq, Nat.mod_eq_of_lt hfit, ← Nat.shiftLeft_eq, or_shiftLeft_eq_add hacc,
    Nat.shiftLeft_eq]

private theorem readUleb128Loop_last (fuel : Nat) (acc : UInt64) {shift v : Nat}
    (done rest : List UInt8) (hshift : shift < 64) (hacc : acc.toNat < 2 ^ shift)
    (hv : acc.toNat + v * 2 ^ shift < 2 ^ 64) (hlast : v < 128) :
    readUleb128Loop (fuel + 1) acc shift (.between done (UInt8.ofNat v :: rest)) =
      .ok (UInt64.ofNat (acc.toNat + v * 2 ^ shift), .between (done ++ [UInt8.ofNat v]) rest) := by
  have hbyte : (UInt8.ofNat v).toNat = v := by
    rw [UInt8.toNat_ofNat']
    omega
  have hend : UInt8.ofNat v &&& 0x80 = 0 := (and_80_eq_zero_iff _).mpr (by omega)
  have hdigit := uleb_digit_toNat (UInt8.ofNat v) acc hshift hacc
    (by rw [hbyte, Nat.mod_eq_of_lt hlast]; omega)
  rw [hbyte, Nat.mod_eq_of_lt hlast] at hdigit
  simp only [readUleb128Loop, ByteReader.readByte_between, ok_bind, hend, if_true]
  rw [← hdigit, UInt64.ofNat_toNat]

-- Induction on the digits still to read. `acc` holds the digits read so far, all
-- of them below `2 ^ shift`; the tenth digit is the one at shift 63.
private theorem readUleb128Loop_encodeLeb (fuel : Nat) (acc : UInt64) (shift v : Nat)
    (done rest : List UInt8) (hpos : shift + 7 * fuel = 63) (hacc : acc.toNat < 2 ^ shift)
    (hv : acc.toNat + v * 2 ^ shift < 2 ^ 64) :
    readUleb128Loop (fuel + 1) acc shift (.between done (encodeLeb (fuel + 1) v ++ rest)) =
      .ok (UInt64.ofNat (acc.toNat + v * 2 ^ shift),
        .between (done ++ encodeLeb (fuel + 1) v) rest) := by
  induction fuel generalizing acc shift v done with
  | zero =>
    obtain rfl : shift = 63 := by omega
    have hsmall : v < 128 := by omega
    simp only [encodeLeb, Nat.div_eq_of_lt hsmall, Nat.mod_eq_of_lt hsmall, if_true,
      List.singleton_append]
    exact readUleb128Loop_last 0 acc done rest (by omega) hacc hv hsmall
  | succ fuel ih =>
    by_cases hlast : v / 128 = 0
    · have hsmall : v < 128 := by omega
      rw [encodeLeb]
      simp only [hlast, Nat.mod_eq_of_lt hsmall, if_true, List.singleton_append]
      exact readUleb128Loop_last (fuel + 1) acc done rest (by omega) hacc hv hsmall
    · have hpow : (2 : Nat) ^ (shift + 7) = 128 * 2 ^ shift := by ring
      have hsplit : v * 2 ^ shift = v % 128 * 2 ^ shift + v / 128 * 2 ^ (shift + 7) := by
        conv => lhs; rw [← Nat.mod_add_div v 128]
        rw [hpow]
        ring
      have hbyte : (UInt8.ofNat (v % 128 + 128)).toNat = v % 128 + 128 := by
        rw [UInt8.toNat_ofNat']
        omega
      have hmod : (v % 128 + 128) % 128 = v % 128 := by omega
      have hcont : ¬ UInt8.ofNat (v % 128 + 128) &&& 0x80 = 0 := by
        rw [and_80_eq_zero_iff, hbyte]
        omega
      have hshift : shift < 64 := by omega
      have hdigit := uleb_digit_toNat (UInt8.ofNat (v % 128 + 128)) acc hshift hacc
        (by rw [hbyte, hmod]; omega)
      rw [hbyte, hmod] at hdigit
      have hcarry : v % 128 * 2 ^ shift ≤ 127 * 2 ^ shift := Nat.mul_le_mul_right _ (by omega)
      rw [encodeLeb, if_neg hlast, List.cons_append, readUleb128Loop]
      simp only [ByteReader.readByte_between, ok_bind, hcont, if_false]
      rw [ih _ (shift + 7) (v / 128) _ (by omega) (by rw [hdigit]; omega)
        (by rw [hdigit]; omega), hdigit, hsplit]
      simp [Nat.add_assoc]

theorem readUleb128_write (v : UInt64) (done rest : List UInt8) :
    readUleb128 (.between done (writeUleb128 v ++ rest)) =
      .ok (v, .between (done ++ writeUleb128 v) rest) := by
  have hlt := v.toNat_lt
  rw [writeUleb128_eq, readUleb128, readUleb128Loop_encodeLeb 9 0 0 v.toNat done rest rfl
    (by decide) (by simpa using hlt)]
  simp

/-- `to_le_bytes` of a `u32`. -/
def u32LeBytes (v : UInt32) : List UInt8 := encodeLE 4 v.toNat

/-- `u32::from_le_bytes` of a four-byte slice. -/
def u32FromLeBytes (bytes : List UInt8) : UInt32 := UInt32.ofNat (decodeLE bytes)

def readU32Le (r : ByteReader) : Outcome (UInt32 × ByteReader) := do
  let (b, r) ← r.readBytes 4
  .ok (u32FromLeBytes b, r)

@[simp] theorem u32LeBytes_length (v : UInt32) : (u32LeBytes v).length = 4 := by
  simp [u32LeBytes]

@[simp] theorem u32FromLeBytes_u32LeBytes (v : UInt32) : u32FromLeBytes (u32LeBytes v) = v := by
  have hlt : v.toNat < 256 ^ 4 := v.toNat_lt
  rw [u32FromLeBytes, u32LeBytes, decodeLE_encodeLE_of_lt hlt, UInt32.ofNat_toNat]

theorem u32LeBytes_u32FromLeBytes {bytes : List UInt8} (h : bytes.length = 4) :
    u32LeBytes (u32FromLeBytes bytes) = bytes := by
  have hlt : decodeLE bytes < UInt32.size := by
    have := decodeLE_lt bytes
    rwa [h] at this
  rw [u32LeBytes, u32FromLeBytes, UInt32.toNat_ofNat_of_lt' hlt, ← h, encodeLE_decodeLE]

theorem readU32Le_between (v : UInt32) (done rest : List UInt8) :
    readU32Le (.between done (u32LeBytes v ++ rest)) =
      .ok (v, .between (done ++ u32LeBytes v) rest) := by
  simp [readU32Le, ByteReader.readBytes_between (u32LeBytes_length v).symm]

theorem readU32Le_eq_ok {r r' : ByteReader} {v : UInt32} (h : readU32Le r = .ok (v, r')) :
    r.readBytes 4 = .ok (u32LeBytes v, r') := by
  obtain ⟨⟨bytes, r₁⟩, hread, hval⟩ := bind_eq_ok.mp h
  obtain ⟨-, -, hlen⟩ := ByteReader.readBytes_remaining hread
  simp only [Except.ok.injEq, Prod.mk.injEq] at hval
  obtain ⟨rfl, rfl⟩ := hval
  rw [hread, u32LeBytes_u32FromLeBytes hlen]

structure ReliableHeader where
  flags : UInt8
  seq : UInt32
  ack : UInt32
  deriving DecidableEq, Repr

def reliableFlagAckOnly : UInt8 := 0x01
def reliableFlagUnordered : UInt8 := 0x02
def reliableFlagUnsequenced : UInt8 := 0x80
def reliableHeaderBytes : Nat := 1 + 4 + 4
def crc32Bytes : Nat := 4

def writeReliableHeader (h : ReliableHeader) : List UInt8 :=
  h.flags :: (u32LeBytes h.seq ++ u32LeBytes h.ack)

def readReliableHeader (r : ByteReader) : Outcome (ReliableHeader × ByteReader) := do
  let (flags, r) ← r.readByte
  let (seq, r) ← readU32Le r
  let (ack, r) ← readU32Le r
  .ok (⟨flags, seq, ack⟩, r)

@[simp] theorem writeReliableHeader_length (h : ReliableHeader) :
    (writeReliableHeader h).length = reliableHeaderBytes := by
  simp [writeReliableHeader, reliableHeaderBytes]

theorem readReliableHeader_between (h : ReliableHeader) (done rest : List UInt8) :
    readReliableHeader (.between done (writeReliableHeader h ++ rest)) =
      .ok (h, .between (done ++ writeReliableHeader h) rest) := by
  simp [readReliableHeader, writeReliableHeader, ByteReader.readByte_between, readU32Le_between]

/-- The header read is the nine bytes under the cursor. -/
theorem readReliableHeader_eq_ok {r r' : ByteReader} {h : ReliableHeader}
    (hread : readReliableHeader r = .ok (h, r')) :
    r.readBytes reliableHeaderBytes = .ok (writeReliableHeader h, r') := by
  obtain ⟨⟨flags, r₁⟩, hflags, hread⟩ := bind_eq_ok.mp hread
  obtain ⟨⟨seq, r₂⟩, hseq, hread⟩ := bind_eq_ok.mp hread
  obtain ⟨⟨ack, r₃⟩, hack, hread⟩ := bind_eq_ok.mp hread
  simp only [Except.ok.injEq, Prod.mk.injEq] at hread
  obtain ⟨rfl, rfl⟩ := hread
  obtain ⟨hle₁, hb₁, rfl⟩ := ByteReader.readBytes_eq_ok.mp (ByteReader.readByte_eq_ok hflags)
  obtain ⟨hle₂, hb₂, rfl⟩ := ByteReader.readBytes_eq_ok.mp (readU32Le_eq_ok hseq)
  obtain ⟨hle₃, hb₃, rfl⟩ := ByteReader.readBytes_eq_ok.mp (readU32Le_eq_ok hack)
  simp only [ByteReader.remaining] at hle₁ hle₂ hle₃
  refine ByteReader.readBytes_eq_ok.mpr ⟨?_, ?_, rfl⟩
  · simp only [ByteReader.remaining, reliableHeaderBytes]
    omega
  · simp only at hb₂ hb₃
    rw [writeReliableHeader, ← List.singleton_append, hb₁, hb₂, hb₃, reliableHeaderBytes,
      List.take_add, List.take_add, List.drop_drop, List.drop_drop, List.append_assoc]

section
variable (B : Build)

def appendCrc32 (out : List UInt8) : List UInt8 := out ++ u32LeBytes (B.crc32 out)

def splitCrc32 (buf : List UInt8) : Outcome (List UInt8 × UInt32) :=
  if buf.length < crc32Bytes then reject "short buffer"
  else
    let dataLen := buf.length - crc32Bytes
    .ok (buf.take dataLen, u32FromLeBytes (buf.drop dataLen))

def verifyCrc32 (buf : List UInt8) : Outcome (List UInt8) := do
  let (data, expected) ← splitCrc32 buf
  if B.crc32 data ≠ expected then reject "crc32 mismatch" else .ok data

theorem splitCrc32_append (data : List UInt8) (crc : UInt32) :
    splitCrc32 (data ++ u32LeBytes crc) = .ok (data, crc) := by
  simp [splitCrc32, crc32Bytes]

theorem verifyCrc32_appendCrc32 (data : List UInt8) :
    verifyCrc32 B (appendCrc32 B data) = .ok data := by
  simp [verifyCrc32, appendCrc32, splitCrc32_append]

/-- Exactly the buffers `append_crc32` makes are accepted. -/
theorem verifyCrc32_eq_ok {buf data : List UInt8} :
    verifyCrc32 B buf = .ok data ↔ buf = appendCrc32 B data := by
  constructor
  · intro h
    obtain ⟨⟨data', crc⟩, hsplit, hcheck⟩ := bind_eq_ok.mp h
    unfold splitCrc32 at hsplit
    split at hsplit
    · simp at hsplit
    rename_i hlen
    simp only [Except.ok.injEq, Prod.mk.injEq] at hsplit
    obtain ⟨rfl, rfl⟩ := hsplit
    dsimp only at hcheck
    split at hcheck
    · simp at hcheck
    rename_i hcrc
    obtain rfl := Except.ok.inj hcheck
    have htail : (buf.drop (buf.length - crc32Bytes)).length = 4 := by
      simp only [List.length_drop, crc32Bytes] at hlen ⊢
      omega
    rw [appendCrc32, not_not.mp hcrc, u32LeBytes_u32FromLeBytes htail, List.take_append_drop]
  · rintro rfl
    exact verifyCrc32_appendCrc32 B data

end
end Sedsprintf
