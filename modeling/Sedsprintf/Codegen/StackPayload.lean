import Sedsprintf.Codegen.BuildScript
import Sedsprintf.Node

/-!
# Stack payloads

`define_stack_payload!` (sedsprintf_macros/src/lib.rs:66-230) and the storage its variants
share (src/small_payload.rs:14-155): bytes up to a variant's capacity stand in the value
itself, with their number in one byte, and longer ones in an `Arc`. `Packet` sees all of it
as one payload with the largest of the capacities.
-/
namespace Sedsprintf.Codegen

open BuildScript (isWhitespace)

section Macro
variable (hostBits : Nat)

/-- `s.trim()` -/
def trim (s : List Char) : List Char :=
  ((s.dropWhile isWhitespace).reverse.dropWhile isWhitespace).reverse

/-- `s.parse::<usize>()` on the machine that builds. -/
def parseUsize (s : List Char) : Option Nat :=
  let digits := match s with
    | '+' :: rest => rest
    | _ => s
  if digits.isEmpty then none
  else digits.foldlM (fun n c =>
    let next := n * 10 + (c.toNat - 48)
    if c.isDigit ∧ next < 2 ^ hostBits then some next else none) 0

/-- `read_max_from_env`, where the variable is set to text or not. -/
def readMaxFromEnv (env : Option String) (default : Nat) : Nat :=
  match env with
  | some v =>
    match parseUsize hostBits (trim v.toList) with
    | some n => if 0 < n then n else default
    | none => default
  | none => default

/-- The loop over the powers of two, for at most `fuel` turns. Where `cap *= 2` overflows
there is no build: with checks the macro panics, without them `cap` stays 0 and the loop
never ends. -/
def pushCaps (max : Nat) : Nat → Nat → Option (List Nat)
  | 0, _ => none
  | fuel + 1, cap =>
    if cap ≤ max then
      if cap * 2 < 2 ^ hostBits then (pushCaps max fuel (cap * 2)).map (cap :: ·) else none
    else some []

/-- The capacities of the variants. -/
def stackCaps (max : Nat) : Option (List Nat) := pushCaps hostBits max (hostBits + 1) 1

/-- `define_stack_payload!(env = "MAX_STACK_PAYLOAD", default = 64)`. -/
def defineStackPayload (env : Option String) : Option (List Nat) :=
  stackCaps hostBits (readMaxFromEnv hostBits env 64)

variable {hostBits}

theorem readMaxFromEnv_pos {env : Option String} {default : Nat} (h : 0 < default) :
    0 < readMaxFromEnv hostBits env default := by
  unfold readMaxFromEnv
  split
  · split
    · split
      · assumption
      · exact h
    · exact h
  · exact h

/-- The loop goes on to the largest power of two that is not past the limit. -/
theorem pushCaps_eq {max fuel k : Nat} {caps : List Nat} (hmax : 0 < max) (hk : k ≤ max.log2 + 1)
    (h : pushCaps hostBits max fuel (2 ^ k) = some caps) :
    caps = (List.range' k (max.log2 + 1 - k)).map fun i => 2 ^ i := by
  induction fuel generalizing k caps with
  | zero => cases h
  | succ fuel ih =>
    rw [pushCaps] at h
    by_cases hle : 2 ^ k ≤ max
    · have hlog : k ≤ max.log2 := (Nat.le_log2 hmax.ne').mpr hle
      have hcount : max.log2 + 1 - k = max.log2 + 1 - (k + 1) + 1 := by omega
      rw [if_pos hle, ← Nat.pow_succ] at h
      split at h
      · obtain ⟨rest, hrest, rfl⟩ := Option.map_eq_some_iff.mp h
        rw [ih (by omega) hrest, hcount, List.range'_succ, List.map_cons]
      · cases h
    · have hlog : max.log2 < k := by
        by_contra hlog
        exact hle ((Nat.le_log2 hmax.ne').mp (by omega))
      rw [if_neg hle] at h
      obtain rfl := Option.some.inj h
      rw [show max.log2 + 1 - k = 0 by omega]
      rfl

/-- A capacity fits some bytes exactly if the largest one does. -/
theorem exists_cap_iff {env : Option String} {caps : List Nat}
    (h : defineStackPayload hostBits env = some caps) (len : Nat) :
    (∃ cap ∈ caps, len ≤ cap) ↔ len ≤ 2 ^ (readMaxFromEnv hostBits env 64).log2 := by
  have hmax : 0 < readMaxFromEnv hostBits env 64 := readMaxFromEnv_pos (by decide)
  obtain rfl := pushCaps_eq (k := 0) hmax (by omega) h
  simp only [List.mem_map, List.mem_range', Nat.sub_zero]
  constructor
  · rintro ⟨-, ⟨-, ⟨i, hi, rfl⟩, rfl⟩, hlen⟩
    exact hlen.trans (Nat.pow_le_pow_right (by decide) (by omega))
  · intro hlen
    exact ⟨_, ⟨_, ⟨_, Nat.lt_succ_self _, rfl⟩, rfl⟩, by simpa using hlen⟩

/-- The loop ends unless it has to double past the host's `usize`. -/
theorem pushCaps_isSome_iff {max fuel k : Nat} (hmax : 0 < max) (hk : k < hostBits)
    (hfuel : fuel + k = hostBits + 1) :
    (pushCaps hostBits max fuel (2 ^ k)).isSome ↔ max.log2 < hostBits - 1 ∨ max.log2 < k := by
  induction fuel generalizing k with
  | zero => omega
  | succ fuel ih =>
    rw [pushCaps]
    by_cases hle : 2 ^ k ≤ max
    · have hlog : k ≤ max.log2 := (Nat.le_log2 hmax.ne').mpr hle
      rw [if_pos hle, ← Nat.pow_succ]
      by_cases hnext : k + 1 < hostBits
      · rw [if_pos (Nat.pow_lt_pow_right (by decide) hnext), Option.isSome_map,
          ih hnext (by omega)]
        omega
      · rw [if_neg fun hlt => hnext ((Nat.pow_lt_pow_iff_right (by decide)).mp hlt)]
        simp only [Option.isSome_none, Bool.false_eq_true, false_iff]
        omega
    · have hlog : max.log2 < k := by
        by_contra hlog
        exact hle ((Nat.le_log2 hmax.ne').mp (by omega))
      rw [if_neg hle]
      simp only [Option.isSome_some, true_iff]
      exact .inr hlog

/-- The limits with a build: those below the top bit of the host. -/
theorem defineStackPayload_isSome_iff {env : Option String} (hbits : 0 < hostBits) :
    (defineStackPayload hostBits env).isSome ↔
      readMaxFromEnv hostBits env 64 < 2 ^ (hostBits - 1) := by
  have hmax : 0 < readMaxFromEnv hostBits env 64 := readMaxFromEnv_pos (by decide)
  rw [← Nat.log2_lt hmax.ne']
  have hloop := @pushCaps_isSome_iff hostBits _ (hostBits + 1) 0 hmax hbits rfl
  rw [Nat.pow_zero] at hloop
  rw [defineStackPayload, stackCaps, hloop]
  omega

end Macro

section Arcs
variable (B : Build)

/-- Behind its two counters, rounded up to a word, the slice stays below `isize::MAX`. -/
def ArcFits (len : Nat) : Prop := 2 * B.wordSize + len + (B.wordSize - 1) ≤ B.isizeMax

instance (len : Nat) : Decidable (ArcFits B len) := inferInstanceAs (Decidable (_ ≤ _))

/-- `Arc::from(data)`, which unwraps the layout. -/
def arcFrom (data : List UInt8) : Outcome (List UInt8) :=
  if ArcFits B data.length then .ok data
  else panics "called `Result::unwrap()` on an `Err` value: LayoutError"

/-- What stood in the value finds its place in an `Arc`. -/
theorem arcFits_of_le {len : Nat} (h : len ≤ 255) : ArcFits B len := by
  unfold ArcFits Build.wordSize Build.isizeMax
  rcases B.usizeBits_eq with hbits | hbits
  · rw [hbits]
    omega
  · rw [hbits]
    omega

theorem arcFrom_of_fits {data : List UInt8} (h : ArcFits B data.length) :
    arcFrom B data = .ok data := if_pos h

end Arcs

/-- `none` is a byte that was never written. -/
structure InlineBuf (N : Nat) where
  buf : Vector (Option UInt8) N

namespace InlineBuf
variable {N : Nat}

/-- The first `len` bytes are there and written. -/
def Init (b : InlineBuf N) (len : UInt8) : Prop := ∀ i < len.toNat, (b.buf[i]?.join).isSome

/-- `copy_nonoverlapping` into the buffer, which is left as it is behind the data. -/
def copied (N : Nat) (data : List UInt8) : InlineBuf N := ⟨.ofFn fun i => data[i.val]?⟩

theorem join_copied {data : List UInt8} {i : Nat} (h : i < N) :
    (copied N data).buf[i]?.join = data[i]? := by
  simp [copied, h]

theorem init_copied {data : List UInt8} (hcap : data.length ≤ N) (hbyte : data.length ≤ 255) :
    (copied N data).Init (UInt8.ofNat data.length) := by
  intro i hi
  rw [UInt8.toNat_ofNat_of_lt' (Nat.lt_succ_of_le hbyte)] at hi
  rw [join_copied (by omega), List.getElem?_eq_getElem hi]
  rfl

/-- `from_slice`, the buffer with the length it is initialised to. -/
def fromSlice (N : Nat) (data : List UInt8) :
    Outcome {made : InlineBuf N × UInt8 // made.1.Init made.2} :=
  if hcap : data.length ≤ N then
    if hbyte : data.length ≤ 255 then
      .ok ⟨(copied N data, UInt8.ofNat data.length), init_copied hcap hbyte⟩
    else panics s!"InlineBuf len does not fit in u8: {data.length}"
  else panics s!"InlineBuf capacity exceeded: data.len()={data.length}, capacity={N}"

/-- `as_slice`: reading needs the bytes to be written. -/
def asSlice (b : InlineBuf N) (len : UInt8) (h : b.Init len) : List UInt8 :=
  List.ofFn fun i : Fin len.toNat => (b.buf[i.val]?.join).get (h i i.isLt)

theorem asSlice_copied {data : List UInt8} (hcap : data.length ≤ N) (hbyte : data.length ≤ 255) :
    (copied N data).asSlice (UInt8.ofNat data.length) (init_copied hcap hbyte) = data := by
  have hlen : (UInt8.ofNat data.length).toNat = data.length :=
    UInt8.toNat_ofNat_of_lt' (Nat.lt_succ_of_le hbyte)
  apply List.ext_getElem
  · rw [asSlice, List.length_ofFn, hlen]
  · intro i hi hdata
    simp only [asSlice, List.getElem_ofFn]
    apply Option.get_of_eq_some
    rw [join_copied (by omega), List.getElem?_eq_getElem hdata]

end InlineBuf

/-- `SmallPayload<INLINE>`. -/
inductive SmallPayload (INLINE : Nat) where
  | inline (len : UInt8) (buf : InlineBuf INLINE) (init : buf.Init len)
  | heap (arc : List UInt8)

namespace SmallPayload
variable (B : Build) {INLINE : Nat}

def new (INLINE : Nat) (data : List UInt8) : Outcome (SmallPayload INLINE) :=
  if data.length ≤ INLINE then do
    let made ← InlineBuf.fromSlice INLINE data
    .ok (inline made.val.2 made.val.1 made.property)
  else do
    let arc ← arcFrom B data
    .ok (heap arc)

def byteCost : SmallPayload INLINE → Nat
  | inline len _ _ => len.toNat
  | heap arc => arc.length + B.arcSize

def asSlice : SmallPayload INLINE → List UInt8
  | inline len buf init => buf.asSlice len init
  | heap arc => arc

def toArc : SmallPayload INLINE → Outcome (List UInt8)
  | inline len buf init => arcFrom B (buf.asSlice len init)
  | heap arc => .ok arc

def len : SmallPayload INLINE → Nat
  | inline len _ _ => len.toNat
  | heap arc => arc.length

variable {B}

/-- Bytes within the capacity are stored where their number fits a byte. -/
theorem new_of_le {data : List UInt8} (hcap : data.length ≤ INLINE) (hbyte : data.length ≤ 255) :
    new B INLINE data = .ok (inline (UInt8.ofNat data.length) (.copied INLINE data)
      (InlineBuf.init_copied hcap hbyte)) := by
  rw [new, if_pos hcap, InlineBuf.fromSlice, dif_pos hcap, dif_pos hbyte]
  rfl

theorem new_of_gt {data : List UInt8} (hcap : data.length ≤ INLINE) (hbyte : 255 < data.length) :
    new B INLINE data = panics s!"InlineBuf len does not fit in u8: {data.length}" := by
  rw [new, if_pos hcap, InlineBuf.fromSlice, dif_pos hcap, dif_neg (by omega)]
  rfl

end SmallPayload

/-- The enum of the macro: one variant for each capacity, and the heap. -/
inductive StandardSmallPayload (caps : List Nat) where
  | inline (cap : Nat) (listed : cap ∈ caps) (inner : SmallPayload cap)
  | heap (arc : List UInt8)

namespace StandardSmallPayload
variable (B : Build) {caps : List Nat}

/-- The arms of `new` from some capacity on, and what follows the last one. -/
def newArms (data : List UInt8) : (arms : List Nat) → arms ⊆ caps →
    Outcome (StandardSmallPayload caps)
  | [], _ => do
    let arc ← arcFrom B data
    .ok (heap arc)
  | cap :: rest, hsub =>
    if data.length ≤ cap then do
      let inner ← SmallPayload.new B cap data
      .ok (inline cap (hsub List.mem_cons_self) inner)
    else newArms data rest (List.subset_of_cons_subset hsub)

def new (caps : List Nat) (data : List UInt8) : Outcome (StandardSmallPayload caps) :=
  newArms B data caps (List.Subset.refl caps)

def asSlice : StandardSmallPayload caps → List UInt8
  | inline _ _ inner => inner.asSlice
  | heap arc => arc

def len : StandardSmallPayload caps → Nat
  | inline _ _ inner => inner.len
  | heap arc => arc.length

def toArc : StandardSmallPayload caps → Outcome (List UInt8)
  | inline _ _ inner => inner.toArc B
  | heap arc => .ok arc

def byteCost : StandardSmallPayload caps → Nat
  | inline _ _ inner => inner.byteCost B
  | heap arc => B.smallPayloadSize + arc.length

end StandardSmallPayload
end Sedsprintf.Codegen
