import Mathlib.Data.Nat.Bitwise
import Mathlib.Tactic.Ring

/-!
# Numbers as byte strings

Two positional codecs over `List UInt8`: fixed-width little-endian words and
base-128 numerals with a continuation bit (unsigned LEB128). Both are stated on
`Nat`; a machine word enters through its `toNat`.
-/
namespace Sedsprintf.Lib

/-- The low `width` octets of `n`, least significant first. -/
def encodeLE : Nat → Nat → List UInt8
  | 0, _ => []
  | width + 1, n => UInt8.ofNat n :: encodeLE width (n / 256)

def decodeLE : List UInt8 → Nat
  | [] => 0
  | b :: rest => b.toNat + 256 * decodeLE rest

@[simp] theorem encodeLE_length (width n : Nat) : (encodeLE width n).length = width := by
  induction width generalizing n with
  | zero => rfl
  | succ width ih => simp [encodeLE, ih]

theorem decodeLE_encodeLE (width n : Nat) :
    decodeLE (encodeLE width n) = n % 256 ^ width := by
  induction width generalizing n with
  | zero => simp [encodeLE, decodeLE, Nat.mod_one]
  | succ width ih =>
    simp only [encodeLE, decodeLE, ih, UInt8.toNat_ofNat']
    conv => rhs; rw [Nat.pow_succ, Nat.mul_comm, Nat.mod_mul]

theorem decodeLE_encodeLE_of_lt {width n : Nat} (h : n < 256 ^ width) :
    decodeLE (encodeLE width n) = n := by
  rw [decodeLE_encodeLE, Nat.mod_eq_of_lt h]

theorem encodeLE_add (a b n : Nat) :
    encodeLE (a + b) n = encodeLE a n ++ encodeLE b (n / 256 ^ a) := by
  induction a generalizing n with
  | zero => simp [encodeLE]
  | succ a ih =>
    rw [Nat.succ_add, encodeLE, encodeLE, ih, Nat.div_div_eq_div_mul, Nat.pow_succ,
      Nat.mul_comm (256 ^ a), List.cons_append]

theorem encodeLE_decodeLE (bytes : List UInt8) :
    encodeLE bytes.length (decodeLE bytes) = bytes := by
  induction bytes with
  | nil => rfl
  | cons b rest ih =>
    have hlow : UInt8.ofNat (b.toNat + 256 * decodeLE rest) = b := by
      rw [← UInt8.toNat_inj, UInt8.toNat_ofNat', Nat.add_mul_mod_self_left]
      exact Nat.mod_eq_of_lt b.toNat_lt
    have hhigh : (b.toNat + 256 * decodeLE rest) / 256 = decodeLE rest := by
      have := b.toNat_lt
      omega
    simp only [List.length_cons, encodeLE, decodeLE, hlow, hhigh, ih]

theorem decodeLE_lt (bytes : List UInt8) : decodeLE bytes < 256 ^ bytes.length := by
  induction bytes with
  | nil => simp [decodeLE]
  | cons b rest ih =>
    have := b.toNat_lt
    rw [decodeLE, List.length_cons, Nat.pow_succ]
    omega

/-- Base-128 digits, least significant first; every byte but the last carries
the continuation bit. `fuel` bounds the number of digits. -/
def encodeLeb : Nat → Nat → List UInt8
  | 0, _ => []
  | fuel + 1, v =>
    if v / 128 = 0 then [UInt8.ofNat (v % 128)]
    else UInt8.ofNat (v % 128 + 128) :: encodeLeb fuel (v / 128)

/-- A numeral of any length, up to its first byte without the continuation bit, and what
follows it. -/
def decodeLeb : List UInt8 → Option (Nat × List UInt8)
  | [] => none
  | b :: rest =>
    if b.toNat < 128 then some (b.toNat, rest)
    else (decodeLeb rest).map fun more => (b.toNat % 128 + 128 * more.1, more.2)

/-- The low seven bits of a byte are its remainder modulo 128. -/
theorem toNat_and_7F (b : UInt8) : (b &&& 0x7F).toNat = b.toNat % 128 := by
  have h : (0x7F : UInt8).toNat = 2 ^ 7 - 1 := rfl
  rw [UInt8.toNat_and, h, Nat.and_two_pow_sub_one_eq_mod]

/-- The high bit of a byte is set exactly from 128 on. -/
theorem and_80_eq_zero_iff (b : UInt8) : b &&& 0x80 = 0 ↔ b.toNat < 128 := by
  have hlt := b.toNat_lt
  have hmask : (b &&& 0x80).toNat = (b.toNat.testBit 7).toNat * 2 ^ 7 := by
    rw [UInt8.toNat_and, ← Nat.and_two_pow]
    rfl
  rw [← UInt8.toNat_inj, hmask, Nat.testBit_eq_decide_div_mod_eq, UInt8.toNat_zero]
  by_cases hb : b.toNat < 128
  · simp [hb]
    omega
  · simp [hb]
    omega

/-- Adding a digit above the bits already read is the reader's bitwise or. -/
theorem or_shiftLeft_eq_add {acc digit shift : Nat} (h : acc < 2 ^ shift) :
    acc ||| digit <<< shift = acc + digit * 2 ^ shift := by
  rw [Nat.or_comm, ← Nat.shiftLeft_add_eq_or_of_lt h, Nat.shiftLeft_eq, Nat.add_comm]

end Sedsprintf.Lib
