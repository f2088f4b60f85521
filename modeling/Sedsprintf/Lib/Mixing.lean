import Mathlib.Data.Nat.Bitwise
import Mathlib.Logic.Function.Basic

/-!
# Streaming hashes with invertible rounds

A hash that absorbs its input one symbol at a time, by a round that is
injective in the state for every symbol, forgets nothing of the state it
started from: two runs over the same input agree exactly when they started
alike. The two round ingredients used here on 64-bit words, a multiplication by
an invertible constant and a right xor-shift, are injective.
-/
namespace Sedsprintf.Lib

section Absorb
variable {σ α : Type} {round : σ → α → σ}

theorem foldl_injective_of_round (hround : ∀ a, Function.Injective fun s => round s a)
    (input : List α) : Function.Injective fun s => input.foldl round s := by
  induction input with
  | nil => exact Function.injective_id
  | cons a rest ih => exact ih.comp (hround a)

end Absorb

section Words

theorem mul_right_injective_of_inverse {c d : UInt64} (h : c * d = 1) :
    Function.Injective fun x : UInt64 => x * c := by
  apply Function.LeftInverse.injective (g := fun x => x * d)
  intro x
  show x * c * d = x
  rw [UInt64.mul_assoc, h, UInt64.mul_one]

theorem xor_right_injective (b : UInt64) : Function.Injective fun x : UInt64 => x ^^^ b := by
  intro x y h
  exact (UInt64.xor_left_inj b).mp h

/-- A shift by a third of the word or more is undone by repeating it twice. -/
theorem xor_shiftRight_cancel {n m : Nat} (h : m < 2 ^ (n + n + n)) :
    (m ^^^ (m >>> n)) ^^^ ((m ^^^ (m >>> n)) >>> n) ^^^ ((m ^^^ (m >>> n)) >>> n >>> n) = m := by
  have hout : m >>> (n + n + n) = 0 := by
    rw [Nat.shiftRight_eq_div_pow]
    exact Nat.div_eq_of_lt h
  apply Nat.eq_of_testBit_eq
  intro i
  have hbit := congrArg (fun k => k.testBit i) hout
  simp only [Nat.testBit_shiftRight, Nat.zero_testBit, Nat.testBit_xor] at hbit ⊢
  grind

theorem xorShiftRight_injective {n : Nat} (hn : n < 64) (h : 64 ≤ n + n + n) :
    Function.Injective fun x : UInt64 => x ^^^ (x >>> UInt64.ofNat n) := by
  intro x y hxy
  have hshift : (UInt64.ofNat n).toNat = n := by
    rw [UInt64.toNat_ofNat']
    omega
  have hnat : x.toNat ^^^ (x.toNat >>> n) = y.toNat ^^^ (y.toNat >>> n) := by
    simpa [UInt64.toNat_shiftRight, hshift, Nat.mod_eq_of_lt hn] using
      congrArg UInt64.toNat hxy
  have hwidth (z : UInt64) : z.toNat < 2 ^ (n + n + n) :=
    z.toNat_lt.trans_le (Nat.pow_le_pow_right (by decide) h)
  apply UInt64.toNat_inj.mp
  rw [← xor_shiftRight_cancel (hwidth x), ← xor_shiftRight_cancel (hwidth y), hnat]

end Words
end Sedsprintf.Lib
