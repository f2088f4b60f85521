import Sedsprintf.Codegen.Config

/-!
# The schema macro

`define_telemetry_schema!` (sedsprintf_macros/src/lib.rs:659-1067): the checks
it makes on the merged configuration and the two enums with their metadata. A
variant's discriminant is its position, since the macro writes none. `syn` is
third-party: its two ways to make an identifier are parameters.
-/
namespace Sedsprintf.Codegen

/-- What the macro uses of `syn`. -/
structure Syn where
  /-- `syn::parse_str::<syn::Ident>` succeeds. -/
  parseIdent : String → Bool
  /-- `syn::Ident::new` does not panic. -/
  newIdent : String → Bool

/-- One variant of `DataEndpoint`, with its arm of `get_endpoint_meta`. -/
structure EndpointVariant where
  rust : String
  doc : String
  name : String
  linkLocalOnly : Bool
  deriving DecidableEq, Repr

/-- One variant of `DataType`, with its arm of `get_message_meta`. -/
structure TypeVariant where
  rust : String
  doc : String
  name : String
  element : JsonElement
  cls : String
  endpoints : List String
  reliable : ReliableMode
  priority : UInt8
  deriving DecidableEq, Repr

structure GeneratedSchema where
  maxValueDataEndpoint : Nat
  maxValueDataType : Nat
  endpoints : List EndpointVariant
  types : List TypeVariant
  deriving DecidableEq, Repr

namespace GeneratedSchema
variable (g : GeneratedSchema)

def endpointIdents : List String := g.endpoints.map EndpointVariant.rust

def typeIdents : List String := g.types.map TypeVariant.rust

/-- `DataEndpoint::<rust> as u32`. -/
def endpointValue (rust : String) : Option Nat := discriminant g.endpointIdents rust

/-- `DataType::<rust> as u32`. -/
def typeValue (rust : String) : Option Nat := discriminant g.typeIdents rust

end GeneratedSchema

section BuiltIns

def telemetryErrorDoc : String :=
  "Encoded telemetry error text (string payload) (CRITICAL FOR SYSTEM FUNCTIONALITY, DO NOT REMOVE)"

def timesyncEndpoint : EndpointVariant :=
  ⟨"TimeSync", "Time sync routing endpoint (always forwarded).", "TIME_SYNC", false⟩

def discoveryEndpoint : EndpointVariant :=
  ⟨"Discovery", "Discovery control endpoint for internal route advertisements.", "DISCOVERY", false⟩

def telemetryErrorEndpoint : EndpointVariant :=
  ⟨"TelemetryError", telemetryErrorDoc, "TELEMETRY_ERROR", false⟩

def timesyncType (rust doc name : String) (count : Nat) : TypeVariant where
  rust := rust
  doc := doc
  name := name
  element := .static count "UInt64"
  cls := "Data"
  endpoints := ["TimeSync"]
  reliable := .none
  priority := 255

def timesyncTypes : List TypeVariant :=
  [timesyncType "TimeSyncAnnounce" "Time source announce (priority, time_ms)."
     "TIME_SYNC_ANNOUNCE" 2,
   timesyncType "TimeSyncRequest" "Time sync request (seq, t1_ms)." "TIME_SYNC_REQUEST" 2,
   timesyncType "TimeSyncResponse" "Time sync response (seq, t1_ms, t2_ms, t3_ms)."
     "TIME_SYNC_RESPONSE" 4]

def discoveryType (rust doc name dataType : String) : TypeVariant where
  rust := rust
  doc := doc
  name := name
  element := .dynamic dataType
  cls := "Data"
  endpoints := ["Discovery"]
  reliable := .none
  priority := 240

def discoveryTypes : List TypeVariant :=
  [discoveryType "DiscoveryAnnounce"
     "Endpoint discovery advertisement (dynamic list of endpoint IDs)."
     "DISCOVERY_ANNOUNCE" "UInt32",
   discoveryType "DiscoveryTimeSyncSources"
     "Time sync source discovery advertisement (dynamic list of sender IDs)."
     "DISCOVERY_TIMESYNC_SOURCES" "UInt8",
   discoveryType "DiscoveryTopology"
     "Full board-topology discovery advertisement (boards, endpoints, and connections)."
     "DISCOVERY_TOPOLOGY" "UInt8"]

def reliableControlType (rust doc name : String) : TypeVariant where
  rust := rust
  doc := doc
  name := name
  element := .static 2 "UInt32"
  cls := "Data"
  endpoints := ["TelemetryError"]
  reliable := .none
  priority := 250

def reliableControlTypes : List TypeVariant :=
  [reliableControlType "ReliableAck" "Internal reliable-delivery acknowledgement (type, seq)."
     "RELIABLE_ACK",
   reliableControlType "ReliablePartialAck"
     "Internal reliable-delivery selective acknowledgement (type, seq)." "RELIABLE_PARTIAL_ACK",
   reliableControlType "ReliablePacketRequest"
     "Internal reliable-delivery retransmit request (type, seq)." "RELIABLE_PACKET_REQUEST"]

def telemetryErrorType : TypeVariant where
  rust := "TelemetryError"
  doc := telemetryErrorDoc
  name := "TELEMETRY_ERROR"
  element := .dynamic "String"
  cls := "Error"
  endpoints := ["TelemetryError"]
  reliable := .ordered
  priority := 200

/-- What follows the configured endpoints. -/
def builtinEndpoints (f : Features) : List EndpointVariant :=
  (if f.timesync then [timesyncEndpoint] else []) ++
    (if f.discovery then [discoveryEndpoint] else []) ++ [telemetryErrorEndpoint]

/-- What follows the configured types. -/
def builtinTypes (f : Features) : List TypeVariant :=
  (if f.timesync then timesyncTypes else []) ++ (if f.discovery then discoveryTypes else []) ++
    reliableControlTypes ++ [telemetryErrorType]

end BuiltIns

section Generate
variable (syn : Syn)

def ensureCapsName (kind : EntryKind) (s : String) : Generate Unit :=
  if s = "" then .error (.nameEmpty kind)
  else if isCapsName s then .ok ()
  else .error (.nameNotCaps kind s)

def ensureValidIdent (s : String) : Generate Unit :=
  if syn.parseIdent s then .ok () else .error (.badIdent s)

def checkNewIdent (s : String) : Generate Unit :=
  if syn.newIdent s then .ok () else .error (.badIdent s)

/-- The endpoint loop. -/
def endpointVariants : List JsonEndpoint → Generate (List EndpointVariant)
  | [] => .ok []
  | ep :: rest => do
    ensureCapsName .endpoint ep.name
    ensureValidIdent syn ep.rust
    let variants ← endpointVariants rest
    .ok (⟨ep.rust, ep.doc.getD "", ep.name, ep.linkLocalOnly.getD false⟩ :: variants)

def reliableModeToken (mode : String) : Generate ReliableMode :=
  let lowered := mode.toLower
  if lowered = "none" then .ok .none
  else if lowered = "ordered" then .ok .ordered
  else if lowered = "unordered" then .ok .unordered
  else .error (.badReliableMode mode)

def typeReliableMode (ty : JsonType) : Generate ReliableMode :=
  match ty.reliableMode with
  | some mode => reliableModeToken mode
  | none => .ok (if ty.reliable.getD false then .ordered else .none)

/-- The type loop. -/
def checkTypes (endpoints : List JsonEndpoint) : List JsonType → Generate Unit
  | [] => .ok ()
  | ty :: rest => do
    ensureCapsName .type ty.name
    if mixesLinkLocal endpoints ty.endpoints then .error (.mixesLinkLocal ty.rust ty.name)
    else
      ensureValidIdent syn ty.rust
      checkTypes endpoints rest

/-- The variants with their metadata arms; `syn::Ident::new` panics on a word
that is no identifier. -/
def typeVariants : List JsonType → Generate (List TypeVariant)
  | [] => .ok []
  | ty :: rest => do
    let reliable ← typeReliableMode ty
    checkNewIdent syn ty.cls
    ty.endpoints.forM (checkNewIdent syn)
    checkNewIdent syn ty.element.dataType
    let variants ← typeVariants rest
    .ok ({ rust := ty.rust, doc := ty.doc.getD "", name := ty.name, element := ty.element,
           cls := ty.cls, endpoints := ty.endpoints, reliable := reliable,
           priority := ty.priority.getD 0 } :: variants)

/-- The macro on the merged configuration. -/
def defineTelemetrySchema (f : Features) (cfg : TelemetryConfig) : Generate GeneratedSchema := do
  rejectReserved (cfg.types.map fun ty => (ty.rust, ty.name))
    (cfg.endpoints.map fun ep => (ep.rust, ep.name))
  let endpoints ← endpointVariants syn cfg.endpoints
  checkTypes syn cfg.endpoints cfg.types
  let types ← typeVariants syn cfg.types
  .ok { maxValueDataEndpoint :=
          cfg.endpoints.length + (if f.timesync then 1 else 0) + (if f.discovery then 1 else 0)
        maxValueDataType :=
          cfg.types.length + (if f.timesync then 3 else 0) + (if f.discovery then 3 else 0) + 3
        endpoints := endpoints ++ builtinEndpoints f
        types := types ++ builtinTypes f }

variable {syn}

theorem endpointVariants_idents {endpoints : List JsonEndpoint} {variants : List EndpointVariant}
    (h : endpointVariants syn endpoints = .ok variants) :
    variants.map EndpointVariant.rust = endpoints.map JsonEndpoint.rust := by
  induction endpoints generalizing variants with
  | nil =>
    obtain rfl := Except.ok.inj h
    rfl
  | cons ep rest ih =>
    obtain ⟨_, -, h⟩ := except_bind_eq_ok.mp h
    obtain ⟨_, -, h⟩ := except_bind_eq_ok.mp h
    obtain ⟨tail, htail, h⟩ := except_bind_eq_ok.mp h
    obtain rfl := Except.ok.inj h
    rw [List.map_cons, List.map_cons, ih htail]

theorem typeVariants_idents {types : List JsonType} {variants : List TypeVariant}
    (h : typeVariants syn types = .ok variants) :
    variants.map TypeVariant.rust = types.map JsonType.rust := by
  induction types generalizing variants with
  | nil =>
    obtain rfl := Except.ok.inj h
    rfl
  | cons ty rest ih =>
    obtain ⟨_, -, h⟩ := except_bind_eq_ok.mp h
    obtain ⟨_, -, h⟩ := except_bind_eq_ok.mp h
    obtain ⟨_, -, h⟩ := except_bind_eq_ok.mp h
    obtain ⟨_, -, h⟩ := except_bind_eq_ok.mp h
    obtain ⟨tail, htail, h⟩ := except_bind_eq_ok.mp h
    obtain rfl := Except.ok.inj h
    rw [List.map_cons, List.map_cons, ih htail]

/-- What a successful expansion consists of. -/
structure Expansion (f : Features) (cfg : TelemetryConfig) (g : GeneratedSchema) : Prop where
  endpoints_eq : g.endpointIdents =
    cfg.endpoints.map JsonEndpoint.rust ++ (builtinEndpoints f).map EndpointVariant.rust
  types_eq : g.typeIdents =
    cfg.types.map JsonType.rust ++ (builtinTypes f).map TypeVariant.rust
  /-- `TelemetryError` is defined by the macro only. -/
  telemetryError_endpoint : "TelemetryError" ∉ cfg.endpoints.map JsonEndpoint.rust
  telemetryError_type : "TelemetryError" ∉ cfg.types.map JsonType.rust
  /-- `MAX_VALUE_DATA_ENDPOINT` and `MAX_VALUE_DATA_TYPE` are the last discriminants. -/
  maxEndpoint_eq : g.maxValueDataEndpoint + 1 = g.endpoints.length
  maxType_eq : g.maxValueDataType + 1 = g.types.length

theorem expansion_of_ok {f : Features} {cfg : TelemetryConfig} {g : GeneratedSchema}
    (h : defineTelemetrySchema syn f cfg = .ok g) : Expansion f cfg g := by
  obtain ⟨_, hreserved, h⟩ := except_bind_eq_ok.mp h
  obtain ⟨endpoints, hendpoints, h⟩ := except_bind_eq_ok.mp h
  obtain ⟨_, -, h⟩ := except_bind_eq_ok.mp h
  obtain ⟨types, htypes, h⟩ := except_bind_eq_ok.mp h
  obtain rfl := Except.ok.inj h
  obtain ⟨_, hty, hep⟩ := except_bind_eq_ok.mp hreserved
  have hepIdents := endpointVariants_idents hendpoints
  have htyIdents := typeVariants_idents htypes
  have hepLen := congrArg List.length hepIdents
  have htyLen := congrArg List.length htyIdents
  rw [List.length_map, List.length_map] at hepLen htyLen
  constructor
  · rw [GeneratedSchema.endpointIdents, List.map_append, hepIdents]
  · rw [GeneratedSchema.typeIdents, List.map_append, htyIdents]
  · intro hmem
    obtain ⟨ep, hep', hrust⟩ := List.mem_map.mp hmem
    exact (rejectBuiltIns_eq_ok hep _ (List.mem_map_of_mem hep')).1 hrust
  · intro hmem
    obtain ⟨ty, hty', hrust⟩ := List.mem_map.mp hmem
    exact (rejectBuiltIns_eq_ok hty _ (List.mem_map_of_mem hty')).1 hrust
  · rw [List.length_append, hepLen, builtinEndpoints]
    rcases f with ⟨_ | _, _ | _⟩ <;> rfl
  · rw [List.length_append, htyLen, builtinTypes]
    rcases f with ⟨_ | _, _ | _⟩ <;> rfl

end Generate

namespace Expansion
variable {f : Features} {cfg : TelemetryConfig} {g : GeneratedSchema}

theorem endpointValue_of_mem (h : Expansion f cfg g) {rust : String}
    (hmem : rust ∈ cfg.endpoints.map JsonEndpoint.rust) :
    g.endpointValue rust = discriminant (cfg.endpoints.map JsonEndpoint.rust) rust := by
  rw [GeneratedSchema.endpointValue, h.endpoints_eq, discriminant_append_of_mem hmem]

theorem typeValue_of_mem (h : Expansion f cfg g) {rust : String}
    (hmem : rust ∈ cfg.types.map JsonType.rust) :
    g.typeValue rust = discriminant (cfg.types.map JsonType.rust) rust := by
  rw [GeneratedSchema.typeValue, h.types_eq, discriminant_append_of_mem hmem]

theorem endpointValue_telemetryError (h : Expansion f cfg g) :
    g.endpointValue "TelemetryError" = some (cfg.endpoints.length + f.timesync.toNat +
      f.discovery.toNat) := by
  rw [GeneratedSchema.endpointValue, h.endpoints_eq,
    discriminant_append_of_not_mem h.telemetryError_endpoint, List.length_map]
  rcases f with ⟨_ | _, _ | _⟩ <;>
    simp [discriminant, builtinEndpoints, timesyncEndpoint, discoveryEndpoint,
      telemetryErrorEndpoint, List.findIdx?_cons] <;> omega

theorem typeValue_telemetryError (h : Expansion f cfg g) :
    g.typeValue "TelemetryError" = some (cfg.types.length + 3 * f.timesync.toNat +
      3 * f.discovery.toNat + 3) := by
  rw [GeneratedSchema.typeValue, h.types_eq,
    discriminant_append_of_not_mem h.telemetryError_type, List.length_map]
  rcases f with ⟨_ | _, _ | _⟩ <;>
    simp [discriminant, builtinTypes, timesyncTypes, timesyncType, discoveryTypes, discoveryType,
      reliableControlTypes, reliableControlType, telemetryErrorType, List.findIdx?_cons] <;> omega

end Expansion
end Sedsprintf.Codegen
