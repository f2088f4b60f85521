import Mathlib.Data.Nat.Bitwise
import Mathlib.Data.List.Count
import Mathlib.Tactic.IntervalCases

/-!
# Bit sets packed into bytes

A set of small numbers stored as one bit each, eight to a byte, least
significant bit first. `testBitAt` reads a bit, `setBitAt` sets one, and
`popcount` counts the bits set in the whole string.
-/
namespace Sedsprintf.Lib

def testBitAt (bm : List UInt8) (i : Nat) : Bool :=
  (bm.getD (i / 8) 0).toNat.testBit (i % 8)

def setBitAt (bm : List UInt8) (i : Nat) : List UInt8 :=
  bm.modify (i / 8) fun byte => byte ||| ((1 : UInt8) <<< UInt8.ofNat (i % 8))

/-- `u8::count_ones`. -/
def countOnes (b : UInt8) : Nat :=
  (List.range 8).countP fun i => b.toNat.testBit i

def popcount (bm : List UInt8) : Nat :=
  (bm.map countOnes).sum

@[simp] theorem setBitAt_length (bm : List UInt8) (i : Nat) :
    (setBitAt bm i).length = bm.length := by
  simp [setBitAt]

theorem testBitAt_replicate (n i : Nat) : testBitAt (List.replicate n 0) i = false := by
  have hzero : (List.replicate n (0 : UInt8)).getD (i / 8) 0 = 0 := by
    simp only [List.getD_eq_getElem?_getD, List.getElem?_replicate]
    split <;> rfl
  rw [testBitAt, hzero]
  simp

private theorem toNat_one_shiftLeft {k : Nat} (h : k < 8) :
    ((1 : UInt8) <<< UInt8.ofNat k).toNat = 2 ^ k := by
  interval_cases k <;> rfl

theorem testBitAt_setBitAt {bm : List UInt8} {i : Nat} (h : i / 8 < bm.length) (j : Nat) :
    testBitAt (setBitAt bm i) j = (decide (i = j) || testBitAt bm j) := by
  have hshift : ((1 : UInt8) <<< UInt8.ofNat (i % 8)).toNat = 2 ^ (i % 8) :=
    toNat_one_shiftLeft (Nat.mod_lt _ (by decide))
  unfold testBitAt setBitAt
  by_cases hbyte : i / 8 = j / 8
  · have hj : j / 8 < bm.length := hbyte ▸ h
    simp only [List.getD_eq_getElem?_getD, List.getElem?_modify, hbyte, if_pos,
      List.getElem?_eq_getElem hj, Option.map_eq_map, Option.map_some, Option.getD_some,
      UInt8.toNat_or, hshift, Nat.testBit_or, Nat.testBit_two_pow]
    have hbit : decide (i % 8 = j % 8) = decide (i = j) := by
      apply decide_eq_decide.mpr
      omega
    rw [hbit, Bool.or_comm]
  · have hne : i ≠ j := fun he => hbyte (by rw [he])
    simp [List.getD_eq_getElem?_getD, hbyte, hne]

/-- A shift and a mask read the same bit. -/
theorem shiftRight_and_one_ne_zero (b : UInt8) {k : Nat} (h : k < 8) :
    (b >>> UInt8.ofNat k) &&& 1 ≠ 0 ↔ b.toNat.testBit k = true := by
  have hk : (UInt8.ofNat k).toNat % 8 = k := by
    rw [UInt8.toNat_ofNat']
    omega
  have hval : ((b >>> UInt8.ofNat k) &&& 1).toNat = b.toNat / 2 ^ k % 2 := by
    rw [UInt8.toNat_and, UInt8.toNat_shiftRight, hk, Nat.shiftRight_eq_div_pow]
    exact Nat.and_one_is_mod _
  rw [Ne, ← UInt8.toNat_inj, hval, Nat.testBit_eq_decide_div_mod_eq, UInt8.toNat_zero]
  simp

/-- Counting byte by byte counts every bit position once. -/
theorem popcount_eq_countP (bm : List UInt8) :
    popcount bm = (List.range (8 * bm.length)).countP (testBitAt bm) := by
  induction bm with
  | nil => rfl
  | cons byte rest ih =>
    have hsplit : 8 * (byte :: rest).length = 8 + 8 * rest.length := by
      rw [List.length_cons]
      omega
    have hhead : (List.range 8).countP (testBitAt (byte :: rest)) = countOnes byte := by
      refine List.countP_congr fun i hi => ?_
      have hlt := List.mem_range.mp hi
      simp [testBitAt, Nat.div_eq_of_lt hlt, Nat.mod_eq_of_lt hlt]
    have htail : ((testBitAt (byte :: rest)) ∘ (8 + ·)) = testBitAt rest := by
      funext i
      have hdiv : (8 + i) / 8 = i / 8 + 1 := by omega
      have hmod : (8 + i) % 8 = i % 8 := by omega
      simp [testBitAt, hdiv, hmod]
    rw [hsplit, List.range_add, List.countP_append, List.countP_map, hhead, htail, ← ih]
    simp [popcount]

/-- Bits beyond the first `n` positions being clear, the count is over those `n`. -/
theorem popcount_eq_countP_range {bm : List UInt8} {n : Nat} (hn : n ≤ 8 * bm.length)
    (hclear : ∀ i, n ≤ i → testBitAt bm i = false) :
    popcount bm = (List.range n).countP (testBitAt bm) := by
  obtain ⟨extra, hextra⟩ := Nat.exists_eq_add_of_le hn
  have hzero : (List.range extra).countP (testBitAt bm ∘ (n + ·)) = 0 := by
    refine List.countP_eq_zero.mpr fun i _ => ?_
    simp [hclear (n + i) (by omega)]
  rw [popcount_eq_countP, hextra, List.range_add, List.countP_append, List.countP_map, hzero,
    Nat.add_zero]

end Sedsprintf.Lib
