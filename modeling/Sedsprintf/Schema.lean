import Mathlib.Algebra.Ring.Nat
import Mathlib.Data.List.Nodup

/-!
# Telemetry schema, errors and outcomes

src/lib.rs:310-640 (metadata and `TelemetryError`) and the enums that
`define_telemetry_schema!` generates (sedsprintf_macros/src/lib.rs:659-1067).
The generated enums are contiguous from zero, so a data type or an endpoint is
a `Fin` of the generated count; the schema itself is a parameter of everything
that follows. `defaultSchema` is the repository's own telemetry_config.json
with the default features.
-/
namespace Sedsprintf

inductive TelemetryError where
  | genericError (msg : Option String)
  | invalidType
  | sizeMismatch (expected got : Nat)
  | sizeMismatchError
  | emptyEndpoints
  | timestampInvalid
  | missingPayload
  | handlerError (msg : String)
  | badArg
  | serialize (msg : String)
  | deserialize (msg : String)
  | io (msg : String)
  | invalidUtf8
  | typeMismatch (expected got : Nat)
  | invalidLinkId (msg : String)
  | packetTooLarge (msg : String)
  deriving DecidableEq, Repr

/-- How a call can leave without a value: `Err`, or a panic of the language
(overflow check, slice bound, `expect`, `assert`). -/
inductive Stop where
  | err (e : TelemetryError)
  | panic (what : String)
  deriving DecidableEq, Repr

abbrev Outcome := Except Stop

def fail {α : Type} (e : TelemetryError) : Outcome α := .error (.err e)

def panics {α : Type} (what : String) : Outcome α := .error (.panic what)

/-- `Option::ok_or`. -/
def okOr {α : Type} (e : TelemetryError) : Option α → Outcome α
  | some a => .ok a
  | none => fail e

theorem bind_eq_ok {α β : Type} {x : Outcome α} {f : α → Outcome β} {b : β} :
    x >>= f = .ok b ↔ ∃ a, x = .ok a ∧ f a = .ok b := by
  cases x with
  | error e => simp [bind, Except.bind]
  | ok a => simp [bind, Except.bind]

@[simp] theorem ok_bind {α β : Type} (a : α) (f : α → Outcome β) :
    (Except.ok a : Outcome α) >>= f = f a := rfl

@[simp] theorem error_bind {α β : Type} (e : Stop) (f : α → Outcome β) :
    (Except.error e : Outcome α) >>= f = .error e := rfl

@[simp] theorem fail_ne_ok {α : Type} (e : TelemetryError) (a : α) : fail e ≠ .ok a := by
  simp [fail]

@[simp] theorem panics_ne_ok {α : Type} (what : String) (a : α) : panics what ≠ .ok a := by
  simp [panics]

/-- An early `return Err(e)` taken unless `p` holds. -/
def ensure (p : Prop) [Decidable p] (e : TelemetryError) : Outcome Unit :=
  if p then .ok () else fail e

@[simp] theorem ensure_of {p : Prop} [Decidable p] (h : p) (e : TelemetryError) :
    ensure p e = .ok () := by
  simp [ensure, h]

theorem ensure_eq_ok {p : Prop} [Decidable p] {e : TelemetryError} {u : Unit} :
    ensure p e = .ok u ↔ p := by
  unfold ensure
  split <;> simp_all

theorem toOption_eq_some {α : Type} {x : Outcome α} {a : α} : x.toOption = some a ↔ x = .ok a := by
  cases x with
  | error e => simp [Except.toOption]
  | ok b => simp [Except.toOption]

theorem okOr_eq_ok {α : Type} {e : TelemetryError} {o : Option α} {a : α} :
    okOr e o = .ok a ↔ o = some a := by
  cases o <;> simp [okOr]

/-- A call that has no `Err`: it returns or it panics. -/
def NeverErrs {α : Type} (x : Outcome α) : Prop := ∀ e, x ≠ fail e

theorem NeverErrs.ok {α : Type} (a : α) : NeverErrs (Except.ok a) := fun _ h => by
  simp [fail] at h

theorem NeverErrs.panics {α : Type} (what : String) :
    NeverErrs (Sedsprintf.panics what : Outcome α) := fun _ h => by
  simp [fail, Sedsprintf.panics] at h

theorem NeverErrs.bind {α β : Type} {x : Outcome α} {f : α → Outcome β} (hx : NeverErrs x)
    (hf : ∀ a, NeverErrs (f a)) : NeverErrs (x >>= f) := by
  intro e h
  cases x with
  | ok a => exact hf a e h
  | error stop =>
    rw [error_bind] at h
    exact hx e (congrArg Except.error (Except.error.inj h))

/-- A call that returns: `Ok` or `Err`. -/
def NeverPanics {α : Type} (x : Outcome α) : Prop := ∀ what, x ≠ panics what

namespace NeverPanics
variable {α β : Type}

theorem ok (a : α) : NeverPanics (.ok a : Outcome α) := fun what h => by
  cases h

theorem fail (e : TelemetryError) : NeverPanics (Sedsprintf.fail e : Outcome α) := fun what h => by
  simp [Sedsprintf.fail, Sedsprintf.panics] at h

theorem not_panics {what : String} : ¬NeverPanics (Sedsprintf.panics what : Outcome α) :=
  fun h => h what rfl

/-- A sequence returns when its first part does, and its rest on what the first comes back
with. -/
theorem bind_iff {x : Outcome α} {f : α → Outcome β} :
    NeverPanics (x >>= f) ↔ NeverPanics x ∧ ∀ a, x = .ok a → NeverPanics (f a) := by
  cases x with
  | error stop =>
    refine ⟨fun h => ⟨fun what heq => ?_, fun a ha => ?_⟩, fun h what heq => ?_⟩
    · obtain rfl := Except.error.inj heq
      exact h what rfl
    · cases ha
    · obtain rfl := Except.error.inj heq
      exact h.1 what rfl
  | ok a =>
    refine ⟨fun h => ⟨.ok a, fun b hb => ?_⟩, fun h => h.2 a rfl⟩
    obtain rfl := Except.ok.inj hb
    exact h

theorem bind {x : Outcome α} {f : α → Outcome β} (hx : NeverPanics x)
    (hf : ∀ a, x = .ok a → NeverPanics (f a)) : NeverPanics (x >>= f) :=
  bind_iff.mpr ⟨hx, hf⟩

/-- Behind a part that always returns. -/
theorem bind_iff_of {x : Outcome α} {f : α → Outcome β} (hx : NeverPanics x) :
    NeverPanics (x >>= f) ↔ ∀ a, x = .ok a → NeverPanics (f a) := by
  rw [bind_iff, and_iff_right hx]

theorem ensure (p : Prop) [Decidable p] (e : TelemetryError) : NeverPanics (Sedsprintf.ensure p e) := by
  unfold Sedsprintf.ensure
  split
  · exact .ok _
  · exact .fail e

theorem okOr (e : TelemetryError) (o : Option α) : NeverPanics (Sedsprintf.okOr e o) := by
  cases o with
  | none => exact .fail e
  | some a => exact .ok a

/-- An early return guards what follows it. -/
theorem ensure_bind_iff {p : Prop} [Decidable p] {e : TelemetryError} {f : Unit → Outcome β} :
    NeverPanics (Sedsprintf.ensure p e >>= f) ↔ (p → NeverPanics (f ())) := by
  rw [bind_iff_of (.ensure p e)]
  exact ⟨fun h hp => h () (ensure_of hp e), fun h _ hp => h (ensure_eq_ok.mp hp)⟩

end NeverPanics

inductive MessageDataType where
  | float64 | float32
  | uint8 | uint16 | uint32 | uint64 | uint128
  | int8 | int16 | int32 | int64 | int128
  | bool | string | binary | noData
  deriving DecidableEq, Repr

inductive MessageClass where
  | data | error | warning
  deriving DecidableEq, Repr

inductive MessageElement where
  | static (count : Nat) (dt : MessageDataType) (cls : MessageClass)
  | dynamic (dt : MessageDataType) (cls : MessageClass)
  deriving DecidableEq, Repr

def MessageElement.dataType : MessageElement → MessageDataType
  | .static _ dt _ => dt
  | .dynamic dt _ => dt

inductive ReliableMode where
  | none | ordered | unordered
  deriving DecidableEq, Repr

structure EndpointMeta where
  name : String
  linkLocalOnly : Bool
  deriving DecidableEq, Repr

structure MessageMeta (Endpoint : Type) where
  name : String
  element : MessageElement
  endpoints : List Endpoint
  reliable : ReliableMode
  priority : UInt8
  deriving DecidableEq, Repr

/-- The built-in reliable control types share one shape: two `u32` elements
for the `TelemetryError` endpoint, unreliable, priority 250. -/
def controlMeta {Endpoint : Type} (name : String) (ep : Endpoint) : MessageMeta Endpoint where
  name := name
  element := .static 2 .uint32 .data
  endpoints := [ep]
  reliable := .none
  priority := 250

/-- Data types present only with the `timesync` feature. -/
structure TimeSyncTypes (DataType : Type) where
  announce : DataType
  request : DataType
  response : DataType
  deriving DecidableEq, Repr

/-- Data types present only with the `discovery` feature. -/
structure DiscoveryTypes (DataType : Type) where
  announce : DataType
  timeSyncSources : DataType
  topology : DataType
  deriving DecidableEq, Repr

structure Schema where
  endpointCount : Nat
  dataTypeCount : Nat
  endpointCount_pos : 0 < endpointCount
  /-- Both enums are `#[repr(u32)]`. -/
  endpointCount_le : endpointCount ≤ 2 ^ 32
  dataTypeCount_le : dataTypeCount ≤ 2 ^ 32
  getEndpointMeta : Fin endpointCount → EndpointMeta
  getMessageMeta : Fin dataTypeCount → MessageMeta (Fin endpointCount)
  telemetryErrorEndpoint : Fin endpointCount
  reliableAck : Fin dataTypeCount
  reliablePartialAck : Fin dataTypeCount
  reliablePacketRequest : Fin dataTypeCount
  timeSync : Option (TimeSyncTypes (Fin dataTypeCount))
  discovery : Option (DiscoveryTypes (Fin dataTypeCount))
  control_nodup : [reliableAck, reliablePartialAck, reliablePacketRequest].Nodup
  reliableAck_meta :
    getMessageMeta reliableAck = controlMeta "RELIABLE_ACK" telemetryErrorEndpoint
  reliablePartialAck_meta :
    getMessageMeta reliablePartialAck = controlMeta "RELIABLE_PARTIAL_ACK" telemetryErrorEndpoint
  reliablePacketRequest_meta :
    getMessageMeta reliablePacketRequest =
      controlMeta "RELIABLE_PACKET_REQUEST" telemetryErrorEndpoint

namespace Schema
variable (S : Schema)

abbrev DataType := Fin S.dataTypeCount
abbrev DataEndpoint := Fin S.endpointCount

instance : NeZero S.dataTypeCount := ⟨Nat.ne_of_gt (Fin.pos S.reliableAck)⟩
instance : NeZero S.endpointCount := ⟨Nat.ne_of_gt S.endpointCount_pos⟩

def maxValueDataType : Nat := S.dataTypeCount - 1
def maxValueDataEndpoint : Nat := S.endpointCount - 1

/-- `DataType::try_from_u32`: `None` above `MAX`. -/
def dataTypeFromU32 (x : Nat) : Option S.DataType :=
  if h : x < S.dataTypeCount then some ⟨x, h⟩ else none

/-- `DataEndpoint::try_from_u32`. -/
def endpointFromU32 (x : Nat) : Option S.DataEndpoint :=
  if h : x < S.endpointCount then some ⟨x, h⟩ else none

def getDataType (ty : S.DataType) : MessageDataType := (S.getMessageMeta ty).element.dataType

def getMessageName (ty : S.DataType) : String := (S.getMessageMeta ty).name

def reliableMode (ty : S.DataType) : ReliableMode := (S.getMessageMeta ty).reliable

def isReliableType (ty : S.DataType) : Bool := S.reliableMode ty != .none

def messagePriority (ty : S.DataType) : UInt8 := (S.getMessageMeta ty).priority

def isReliableControlType (ty : S.DataType) : Bool :=
  ty == S.reliableAck || ty == S.reliablePartialAck || ty == S.reliablePacketRequest

def isTimeSyncType (ty : S.DataType) : Bool :=
  S.timeSync.any fun t => ty == t.announce || ty == t.request || ty == t.response

def isDiscoveryType (ty : S.DataType) : Bool :=
  S.discovery.any fun d => ty == d.announce || ty == d.timeSyncSources || ty == d.topology

/-- src/router.rs:1147-1173, src/relay.rs:171-198. -/
def isInternalControlType (ty : S.DataType) : Bool :=
  S.isReliableControlType ty || S.isTimeSyncType ty || S.isDiscoveryType ty

@[simp] theorem dataTypeFromU32_val (ty : S.DataType) : S.dataTypeFromU32 ty.val = some ty := by
  simp [dataTypeFromU32]

/-- Control frames never enter a reliable stream of their own. -/
theorem control_not_reliable {ty : S.DataType} (h : S.isReliableControlType ty = true) :
    S.isReliableType ty = false := by
  simp only [isReliableControlType, Bool.or_eq_true, beq_iff_eq] at h
  rcases h with (rfl | rfl) | rfl
  · simp [isReliableType, reliableMode, S.reliableAck_meta, controlMeta]
  · simp [isReliableType, reliableMode, S.reliablePartialAck_meta, controlMeta]
  · simp [isReliableType, reliableMode, S.reliablePacketRequest_meta, controlMeta]

end Schema

/-- The endpoints of telemetry_config.json followed by the built-in ones. -/
def defaultEndpoints : List EndpointMeta :=
  [⟨"SD_CARD", false⟩, ⟨"RADIO", false⟩, ⟨"TIME_SYNC", false⟩, ⟨"DISCOVERY", false⟩,
    ⟨"TELEMETRY_ERROR", false⟩]

/-- The types of telemetry_config.json followed by the built-in ones, in the
order of the generated enum. -/
def defaultTypes : List (MessageMeta (Fin 5)) :=
  [⟨"GPS_DATA", .static 3 .float32 .data, [1, 0], .ordered, 0⟩,
    ⟨"IMU_DATA", .static 6 .float32 .data, [1, 0], .none, 0⟩,
    ⟨"BATTERY_STATUS", .static 2 .float32 .data, [1, 0], .none, 0⟩,
    ⟨"SYSTEM_STATUS", .static 1 .bool .data, [0], .none, 0⟩,
    ⟨"BAROMETER_DATA", .static 3 .float32 .data, [1, 0], .none, 0⟩,
    ⟨"MESSAGE_DATA", .dynamic .string .data, [0, 1], .none, 0⟩,
    ⟨"HEARTBEAT", .static 0 .noData .data, [0, 1], .none, 0⟩,
    ⟨"TIME_SYNC_ANNOUNCE", .static 2 .uint64 .data, [2], .none, 255⟩,
    ⟨"TIME_SYNC_REQUEST", .static 2 .uint64 .data, [2], .none, 255⟩,
    ⟨"TIME_SYNC_RESPONSE", .static 4 .uint64 .data, [2], .none, 255⟩,
    ⟨"DISCOVERY_ANNOUNCE", .dynamic .uint32 .data, [3], .none, 240⟩,
    ⟨"DISCOVERY_TIMESYNC_SOURCES", .dynamic .uint8 .data, [3], .none, 240⟩,
    ⟨"DISCOVERY_TOPOLOGY", .dynamic .uint8 .data, [3], .none, 240⟩,
    controlMeta "RELIABLE_ACK" 4,
    controlMeta "RELIABLE_PARTIAL_ACK" 4,
    controlMeta "RELIABLE_PACKET_REQUEST" 4,
    ⟨"TELEMETRY_ERROR", .dynamic .string .error, [4], .ordered, 200⟩]

def defaultSchema : Schema where
  endpointCount := 5
  dataTypeCount := 17
  endpointCount_pos := by decide
  endpointCount_le := by decide
  dataTypeCount_le := by decide
  getEndpointMeta := defaultEndpoints.get
  getMessageMeta := defaultTypes.get
  telemetryErrorEndpoint := 4
  reliableAck := 13
  reliablePartialAck := 14
  reliablePacketRequest := 15
  timeSync := some ⟨7, 8, 9⟩
  discovery := some ⟨10, 11, 12⟩
  control_nodup := by decide
  reliableAck_meta := rfl
  reliablePartialAck_meta := rfl
  reliablePacketRequest_meta := rfl

end Sedsprintf
