import Sedsprintf.Build
import Sedsprintf.Lib.ByteNumerals

/-!
# Packets

src/packet.rs:44-340 (`Packet`, its constructor, validation and 64-bit
identity) and src/small_payload.rs:14-155 (payload storage). Text is a Lean
`String`; its bytes are those of `str::as_bytes`.
-/
namespace Sedsprintf

open Lib (encodeLE)

/-- `str::as_bytes`. -/
def asBytes (s : String) : List UInt8 := s.toUTF8.data.toList

/-- `core::str::from_utf8`. -/
def fromUtf8 (bytes : List UInt8) : Option String := String.fromUTF8? ⟨bytes.toArray⟩

theorem fromUtf8_eq_some {bytes : List UInt8} {s : String} :
    fromUtf8 bytes = some s ↔ asBytes s = bytes := by
  constructor
  · intro h
    simp only [fromUtf8, String.fromUTF8?] at h
    split at h
    · rw [Option.some.injEq] at h
      subst h
      rfl
    · contradiction
  · rintro rfl
    exact dif_pos s.isValidUTF8

@[simp] theorem fromUtf8_asBytes (s : String) : fromUtf8 (asBytes s) = some s :=
  fromUtf8_eq_some.mpr rfl

/-- Inline storage keeps its length in one byte; the heap variant is an `Arc`. -/
inductive SmallPayload where
  | inline (len : UInt8) (buf : List UInt8)
  | heap (data : List UInt8)
  deriving DecidableEq, Repr

namespace SmallPayload

def asSlice : SmallPayload → List UInt8
  | inline len buf => buf.take len.toNat
  | heap data => data

/-- `SmallPayload::<INLINE>::new`; `InlineBuf::from_slice` asserts that the
length fits its `u8`. -/
def new (inlineCap : Nat) (data : List UInt8) : Outcome SmallPayload :=
  if data.length ≤ inlineCap then
    if data.length ≤ 255 then .ok (inline (UInt8.ofNat data.length) data)
    else panics "InlineBuf len does not fit in u8"
  else .ok (heap data)

theorem asSlice_of_new {inlineCap : Nat} {data : List UInt8} {sp : SmallPayload}
    (h : new inlineCap data = .ok sp) : sp.asSlice = data := by
  unfold new at h
  split at h
  · split at h
    · rename_i hlen
      obtain rfl := (Except.ok.inj h).symm
      have hmod : (UInt8.ofNat data.length).toNat = data.length := by
        rw [UInt8.toNat_ofNat']
        omega
      simp [asSlice, hmod]
    · simp at h
  · obtain rfl := (Except.ok.inj h).symm
    rfl

end SmallPayload

structure Packet (S : Schema) where
  ty : S.DataType
  dataSize : Nat
  sender : String
  endpoints : List S.DataEndpoint
  timestamp : UInt64
  payload : SmallPayload
  deriving DecidableEq

instance {S : Schema} : LawfulBEq (Packet S) := inferInstance

def elementWidth : MessageDataType → Nat
  | .uint8 | .int8 | .bool => 1
  | .uint16 | .int16 => 2
  | .uint32 | .int32 | .float32 => 4
  | .uint64 | .int64 | .float64 => 8
  | .uint128 | .int128 => 16
  | .string | .binary => 1
  | .noData => 0

/-- src/lib.rs:604-623. -/
def dataTypeSize (B : Build) : MessageDataType → Nat
  | .float64 | .uint64 | .int64 => 8
  | .float32 | .uint32 | .int32 => 4
  | .uint8 | .int8 | .bool => 1
  | .uint16 | .int16 => 2
  | .uint128 | .int128 => 16
  | .string => B.staticStringLength
  | .binary => B.staticHexLength
  | .noData => 0

section
variable {S : Schema} (B : Build)

def validateDynamicLenAndContent (ty : S.DataType) (bytes : List UInt8) : Outcome Unit :=
  match S.getDataType ty with
  | .string =>
    -- everything up to the last nonzero byte
    let trimmed := (bytes.reverse.dropWhile (· == 0)).reverse
    if trimmed ≠ [] then
      match fromUtf8 trimmed with
      | some _ => .ok ()
      | none => fail .invalidUtf8
    else .ok ()
  | .binary => .ok ()
  | dt =>
    let w := elementWidth dt
    if w = 0 ∨ bytes.length % w ≠ 0 then fail (.sizeMismatch w bytes.length) else .ok ()

/-- The element check shared by `Packet::new` and `Packet::validate`. -/
def checkElement (ty : S.DataType) (bytes : List UInt8) : Outcome Unit :=
  match (S.getMessageMeta ty).element with
  | .static need _ _ => do
    let need ← B.usizeMul need (dataTypeSize B (S.getDataType ty))
    if bytes.length ≠ need then fail (.sizeMismatch need bytes.length) else .ok ()
  | .dynamic _ _ => validateDynamicLenAndContent ty bytes

namespace Packet

def new (ty : S.DataType) (endpoints : List S.DataEndpoint) (sender : String)
    (timestamp : UInt64) (payload : List UInt8) : Outcome (Packet S) := do
  if endpoints.isEmpty then fail .emptyEndpoints
  else
    checkElement B ty payload
    let stored ← SmallPayload.new B.maxStackPayload payload
    .ok { ty := ty, dataSize := payload.length, sender := sender, endpoints := endpoints,
          timestamp := timestamp, payload := stored }

def validate (p : Packet S) : Outcome Unit := do
  if p.endpoints.isEmpty then fail .emptyEndpoints
  else if p.payload.asSlice.length ≠ p.dataSize then
    fail (.sizeMismatch p.dataSize p.payload.asSlice.length)
  else checkElement B p.ty p.payload.asSlice

/-- What the constructor establishes. -/
structure WellFormed (p : Packet S) : Prop where
  endpoints_ne_nil : p.endpoints ≠ []
  dataSize_eq : p.dataSize = p.payload.asSlice.length
  element_ok : checkElement B p.ty p.payload.asSlice = .ok ()
  stored : SmallPayload.new B.maxStackPayload p.payload.asSlice = .ok p.payload

theorem new_eq_ok {ty : S.DataType} {endpoints : List S.DataEndpoint} {sender : String}
    {timestamp : UInt64} {payload : List UInt8} {p : Packet S} :
    new B ty endpoints sender timestamp payload = .ok p ↔
      endpoints ≠ [] ∧ checkElement B ty payload = .ok () ∧
      ∃ stored, SmallPayload.new B.maxStackPayload payload = .ok stored ∧
        p = ⟨ty, payload.length, sender, endpoints, timestamp, stored⟩ := by
  unfold new
  split
  · rename_i hnil
    simp [List.isEmpty_iff.mp hnil]
  · rename_i hne
    rw [List.isEmpty_iff] at hne
    simp only [bind_eq_ok]
    constructor
    · rintro ⟨_, helem, stored, hstored, hp⟩
      exact ⟨hne, helem, stored, hstored, (Except.ok.inj hp).symm⟩
    · rintro ⟨_, helem, stored, hstored, rfl⟩
      exact ⟨(), helem, stored, hstored, rfl⟩

theorem wellFormed_of_new {ty : S.DataType} {endpoints : List S.DataEndpoint} {sender : String}
    {timestamp : UInt64} {payload : List UInt8} {p : Packet S}
    (h : new B ty endpoints sender timestamp payload = .ok p) : p.WellFormed B := by
  obtain ⟨hne, helem, stored, hstored, rfl⟩ := (new_eq_ok B).mp h
  have hslice := SmallPayload.asSlice_of_new hstored
  exact ⟨hne, by simp [hslice], by simpa [hslice] using helem, by simpa [hslice] using hstored⟩

/-- A well-formed packet is rebuilt, up to its endpoint list, from its fields. -/
theorem WellFormed.new_eq {p : Packet S} (h : p.WellFormed B) {endpoints : List S.DataEndpoint}
    (hne : endpoints ≠ []) :
    new B p.ty endpoints p.sender p.timestamp p.payload.asSlice =
      .ok { p with endpoints := endpoints } := by
  refine (new_eq_ok B).mpr ⟨hne, h.element_ok, p.payload, h.stored, ?_⟩
  rw [← h.dataSize_eq]

/-- The constructor's packets pass the validation the queues run on them. -/
theorem WellFormed.validate_eq_ok {p : Packet S} (h : p.WellFormed B) :
    p.validate B = .ok () := by
  unfold validate
  rw [if_neg (by simpa [List.isEmpty_iff] using h.endpoints_ne_nil), h.dataSize_eq, if_neg (by simp)]
  exact h.element_ok

end Packet

/-- src/packet.rs:98-110. -/
def hashBytesU64 (h : UInt64) (bytes : List UInt8) : UInt64 :=
  bytes.foldl
    (fun h b =>
      let h := (h ^^^ b.toUInt64) * 0x9E3779B1
      h ^^^ (h >>> 27))
    h

/-- The initial state of every packet identity. -/
def packetIdSeed : UInt64 := 0x9E3779B97F4A7C15

def hashEndpoints (h : UInt64) (endpoints : List S.DataEndpoint) : UInt64 :=
  endpoints.foldl (fun h ep => hashBytesU64 h (asBytes (S.getEndpointMeta ep).name)) h

/-- `data_size.to_le_bytes()` is as wide as `usize`. -/
def Packet.packetId (p : Packet S) : UInt64 :=
  let h := hashBytesU64 packetIdSeed (asBytes p.sender)
  let h := hashBytesU64 h (asBytes (S.getMessageName p.ty))
  let h := hashEndpoints h p.endpoints
  let h := hashBytesU64 h (encodeLE 8 p.timestamp.toNat)
  let h := hashBytesU64 h (encodeLE (B.usizeBits / 8) p.dataSize)
  hashBytesU64 h p.payload.asSlice

/-- The identity hash with the payload size absorbed as `sizeBytes` bytes; the
two widths of `usize` and the wire format differ in nothing else. -/
def Packet.identity (sizeBytes : Nat) (p : Packet S) : UInt64 :=
  let h := hashBytesU64 packetIdSeed (asBytes p.sender)
  let h := hashBytesU64 h (asBytes (S.getMessageName p.ty))
  let h := hashEndpoints h p.endpoints
  let h := hashBytesU64 h (encodeLE 8 p.timestamp.toNat)
  let h := hashBytesU64 h (encodeLE sizeBytes p.dataSize)
  hashBytesU64 h p.payload.asSlice

theorem Packet.packetId_eq_identity (p : Packet S) :
    p.packetId B = p.identity (B.usizeBits / 8) := rfl

end
end Sedsprintf
