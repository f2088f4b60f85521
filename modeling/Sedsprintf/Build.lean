import Sedsprintf.Schema

/-!
# Build configuration

What a build of the crate fixes: the pointer width and overflow checks of the
target, the environment constants of src/config.rs:27-150, and the two
third-party functions the wire format calls, zstd (feature `compression`) and
crc32fast. zstd enters through its documented behaviour only.
-/
namespace Sedsprintf

/-- `zstd_safe::compress` at level 1 and `zstd_safe::decompress`, as functions of
the destination capacity and the source bytes; `none` is their error code. -/
structure Zstd where
  compress : (cap : Nat) → List UInt8 → Option (List UInt8)
  decompress : (cap : Nat) → List UInt8 → Option (List UInt8)
  compress_length_le : ∀ {cap src out}, compress cap src = some out → out.length ≤ cap
  decompress_length_le : ∀ {cap src out}, decompress cap src = some out → out.length ≤ cap
  /-- A zstd frame starts with its magic number. -/
  compress_ne_nil : ∀ {cap src out}, compress cap src = some out → out ≠ []
  decompress_compress : ∀ {cap src out}, compress cap src = some out →
    decompress src.length out = some src

structure Build where
  usizeBits : Nat
  usizeBits_eq : usizeBits = 32 ∨ usizeBits = 64
  /-- `-C overflow-checks`: an overflowing `+` panics instead of wrapping. -/
  overflowChecks : Bool
  compression : Option Zstd
  /-- `crc32fast::Hasher` over one slice. -/
  crc32 : List UInt8 → UInt32
  payloadCompressThreshold : Nat := 128
  staticStringLength : Nat := 1024
  staticHexLength : Nat := 1024
  /-- `INLINE` of `StandardSmallPayload`. -/
  maxStackPayload : Nat := 64
  maxHandlerRetries : Nat := 3
  reliableRetransmitMs : UInt64 := 200
  reliableMaxRetries : UInt32 := 8
  reliableMaxPending : Nat := 16
  /-- `RELIABLE_MAX_END_TO_END_PENDING`. -/
  reliableMaxEndToEndPending : Nat := 16
  maxRecentRxIds : Nat := 128
  startingQueueSize : Nat := 128
  maxQueueBudget : Nat := 102400
  /-- The numerator of `float_to_ratio(QUEUE_GROW_STEP)`; its denominator is 1024. -/
  queueGrowNum : Nat := 3276
  /-- `size_of` of the structs whose layout the compiler chooses. -/
  packetSize : Nat := 128
  smallPayloadSize : Nat := 72
  rxItemSize : Nat := 152
  txItemSize : Nat := 160
  relayRxItemSize : Nat := 32
  relayTxItemSize : Nat := 48
  relayReplayItemSize : Nat := 32
  discoverySideStateSize : Nat := 80
  discoverySenderStateSize : Nat := 80
  reliableMaxReturnRoutes : Nat := 128
  reliableMaxEndToEndAckCache : Nat := 128
  deviceIdentifier : String := "TEST_PLATFORM"

namespace Build
variable (B : Build)

def usizeModulus : Nat := 2 ^ B.usizeBits

/-- The same build with overflow checks. -/
def checked : Build := { B with overflowChecks := true }

/-- `isize::MAX`, the largest size of an allocation or a slice. -/
def isizeMax : Nat := 2 ^ (B.usizeBits - 1) - 1

/-- `size_of::<usize>()`. -/
def wordSize : Nat := B.usizeBits / 8

/-- `size_of::<Arc<[u8]>>()`, a fat pointer. -/
def arcSize : Nat := 2 * B.wordSize

theorem arcSize_pos : 0 < B.arcSize := by
  rcases B.usizeBits_eq with h | h
  · rw [arcSize, wordSize, h]
    omega
  · rw [arcSize, wordSize, h]
    omega

/-- `RECENT_RX_QUEUE_BYTES`. -/
def recentRxQueueBytes : Nat := min (B.maxRecentRxIds * 8) B.maxQueueBudget

/-- The build keeps recent ids at all: the count allows one, and the budget holds one. -/
def RecordsIds : Prop := B.maxRecentRxIds ≠ 0 ∧ 8 ≤ B.maxQueueBudget

/-- `as usize` of a `u64`. -/
def asUsize (x : UInt64) : Nat := x.toNat % B.usizeModulus

/-- `+` on `usize`. -/
def usizeAdd (a b : Nat) : Outcome Nat :=
  if a + b < B.usizeModulus then .ok (a + b)
  else if B.overflowChecks then panics "attempt to add with overflow"
  else .ok ((a + b) % B.usizeModulus)

/-- `a + b + …` on `usize`, from the left. -/
def usizeSum (terms : List Nat) : Outcome Nat := terms.foldlM B.usizeAdd 0

/-- `*` on `usize`. -/
def usizeMul (a b : Nat) : Outcome Nat :=
  if a * b < B.usizeModulus then .ok (a * b)
  else if B.overflowChecks then panics "attempt to multiply with overflow"
  else .ok ((a * b) % B.usizeModulus)

/-- `+` on `u64`. -/
def u64Add (a b : Nat) : Outcome Nat :=
  if a + b < 2 ^ 64 then .ok (a + b)
  else if B.overflowChecks then panics "attempt to add with overflow"
  else .ok ((a + b) % 2 ^ 64)

/-- Allocating a buffer of `n` bytes. -/
def allocate (n : Nat) : Outcome Unit :=
  if n ≤ B.isizeMax then .ok () else panics "capacity overflow"

theorem usizeModulus_le : B.usizeModulus ≤ 2 ^ 64 := by
  rcases B.usizeBits_eq with h | h <;> simp [usizeModulus, h]

theorem isizeMax_lt : B.isizeMax < B.usizeModulus := by
  rcases B.usizeBits_eq with h | h <;> simp [usizeModulus, isizeMax, h]

theorem usizeAdd_of_lt {a b : Nat} (h : a + b < B.usizeModulus) :
    B.usizeAdd a b = .ok (a + b) := by
  simp [usizeAdd, h]

theorem usizeSum_of_lt (terms : List Nat) (h : terms.sum < B.usizeModulus) :
    B.usizeSum terms = .ok terms.sum := by
  have hfrom (acc : Nat) (hacc : acc + terms.sum < B.usizeModulus) :
      terms.foldlM B.usizeAdd acc = .ok (acc + terms.sum) := by
    clear h
    induction terms generalizing acc with
    | nil => simp [pure, Except.pure]
    | cons t rest ih =>
      rw [List.sum_cons] at hacc ⊢
      rw [List.foldlM_cons, B.usizeAdd_of_lt (by omega), ok_bind, ih _ (by omega), Nat.add_assoc]
  simpa [usizeSum] using hfrom 0 (by simpa using h)

theorem usizeSum_neverErrs (terms : List Nat) : NeverErrs (B.usizeSum terms) := by
  have hadd : ∀ a b, NeverErrs (B.usizeAdd a b) := by
    intro a b
    unfold usizeAdd
    split
    · exact .ok _
    · split
      · exact .panics _
      · exact .ok _
  have hfrom (acc : Nat) : NeverErrs (terms.foldlM B.usizeAdd acc) := by
    induction terms generalizing acc with
    | nil => exact .ok _
    | cons t rest ih =>
      rw [List.foldlM_cons]
      exact (hadd acc t).bind fun a => ih a
  exact hfrom 0

theorem allocate_neverErrs (n : Nat) : NeverErrs (B.allocate n) := by
  unfold allocate
  split
  · exact .ok _
  · exact .panics _

/-- A size that fits the address space survives `as u64` and `as usize`. -/
theorem asUsize_ofNat {n : Nat} (h : n < B.usizeModulus) : B.asUsize (UInt64.ofNat n) = n := by
  have hsize : n < UInt64.size := Nat.lt_of_lt_of_le h B.usizeModulus_le
  rw [asUsize, UInt64.toNat_ofNat_of_lt' hsize, Nat.mod_eq_of_lt h]

theorem allocate_of_le {n : Nat} (h : n ≤ B.isizeMax) : B.allocate n = .ok () := by
  simp [allocate, h]

theorem allocate_eq_ok {n : Nat} : B.allocate n = .ok () ↔ n ≤ B.isizeMax := by
  unfold allocate
  split <;> simp_all

end Build

/-- One bit of the reflected CRC-32 (IEEE 802.3) register. -/
def crc32Bit (crc : UInt32) : UInt32 :=
  if crc &&& 1 = 0 then crc >>> 1 else (crc >>> 1) ^^^ 0xEDB88320

def crc32Byte (crc : UInt32) (byte : UInt8) : UInt32 :=
  (List.range 8).foldl (fun crc _ => crc32Bit crc) (crc ^^^ byte.toUInt32)

/-- The checksum `crc32fast` computes. -/
def crc32Ieee (data : List UInt8) : UInt32 :=
  data.foldl crc32Byte 0xFFFFFFFF ^^^ 0xFFFFFFFF

/-- The check value of CRC-32/ISO-HDLC. -/
example : crc32Ieee [0x31, 0x32, 0x33, 0x34, 0x35, 0x36, 0x37, 0x38, 0x39] = 0xCBF43926 := by
  decide +kernel

/-- A 64-bit debug build without the `compression` feature and with the default
constants. -/
def hostBuild : Build where
  usizeBits := 64
  usizeBits_eq := .inr rfl
  overflowChecks := true
  compression := none
  crc32 := crc32Ieee

end Sedsprintf
