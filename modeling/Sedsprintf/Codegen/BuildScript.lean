import Sedsprintf.Codegen.Macro

/-!
# The build script's enums

build.rs:94-211 and 318-660 on the same two configuration files: it normalises
and merges them as the macro does, validates, appends the built-in entries of
the enabled features, and numbers what it has then for the C header
(build.rs:778-833) and the Python stub (build.rs:855-905). The doc comments of
the generated text are left out.
-/
namespace Sedsprintf.Codegen

namespace BuildScript

/-- The fields of a type that the build script reads; serde skips the others. -/
structure JsonType where
  rust : String
  name : String
  reliable : Option Bool
  dataType : String
  cls : String
  endpoints : List String
  deriving DecidableEq, Repr

structure TelemetryConfig where
  endpoints : List JsonEndpoint
  types : List JsonType
  deriving DecidableEq, Repr

/-- The build script's reading of a configuration. -/
def read (cfg : Codegen.TelemetryConfig) : TelemetryConfig where
  endpoints := cfg.endpoints
  types := cfg.types.map fun ty =>
    { rust := ty.rust, name := ty.name, reliable := ty.reliable, dataType := ty.element.dataType,
      cls := ty.cls, endpoints := ty.endpoints }

/-- `^[A-Za-z_][A-Za-z0-9_]*$` -/
def isRustIdent (s : String) : Bool :=
  match s.toList with
  | [] => false
  | c :: rest => (c.isAlpha || c == '_') && rest.all fun c => c.isAlphanum || c == '_'

def ensureRustIdent (s : String) : Generate Unit :=
  if isRustIdent s then .ok () else .error (.badIdent s)

def ensureAllCaps (kind : EntryKind) (s : String) : Generate Unit :=
  if isCapsName s then .ok () else .error (.nameNotCaps kind s)

def validateEndpoints : List JsonEndpoint → Generate Unit
  | [] => .ok ()
  | ep :: rest => do
    ensureRustIdent ep.rust
    ensureAllCaps .endpoint ep.name
    validateEndpoints rest

def endpointSet (f : Features) (cfg : TelemetryConfig) : List String :=
  cfg.endpoints.map (·.rust) ++ (if f.timesync then ["TimeSync"] else []) ++
    (if f.discovery then ["Discovery"] else []) ++ ["TelemetryError"]

/-- `char::is_whitespace`, the Unicode property `White_Space`. -/
def isWhitespace (c : Char) : Bool :=
  let n := c.toNat
  (0x9 ≤ n && n ≤ 0xD) || (0x2000 ≤ n && n ≤ 0x200A) ||
    [0x20, 0x85, 0xA0, 0x1680, 0x2028, 0x2029, 0x202F, 0x205F, 0x3000].contains n

/-- `s.trim().is_empty()` -/
def isBlank (s : String) : Bool := s.toList.all isWhitespace

def validateTypes (f : Features) (cfg : TelemetryConfig) : List JsonType → Generate Unit
  | [] => .ok ()
  | ty :: rest => do
    ensureRustIdent ty.rust
    ensureAllCaps .type ty.name
    match ty.endpoints.find? (· ∉ endpointSet f cfg) with
    | some ep => .error (.unknownEndpoint ty.rust ty.name ep)
    | none =>
      if mixesLinkLocal cfg.endpoints ty.endpoints then .error (.mixesLinkLocal ty.rust ty.name)
      else if isBlank ty.dataType then .error (.dataTypeEmpty ty.rust)
      else if isBlank ty.cls then .error (.classEmpty ty.rust)
      else validateTypes f cfg rest

def validateSchema (f : Features) (cfg : TelemetryConfig) : Generate Unit := do
  rejectReserved (cfg.types.map fun ty => (ty.rust, ty.name))
    (cfg.endpoints.map fun ep => (ep.rust, ep.name))
  validateEndpoints cfg.endpoints
  validateTypes f cfg cfg.types

/-- A built-in type as the two append functions push it. -/
def builtinType (rust name dataType endpoint : String) : JsonType :=
  ⟨rust, name, some false, dataType, "Data", [endpoint]⟩

def appendTimesyncBuiltins (cfg : TelemetryConfig) : TelemetryConfig where
  endpoints := cfg.endpoints ++ [{ rust := "TimeSync", name := "TIME_SYNC",
                                   linkLocalOnly := some false }]
  types := cfg.types ++
    [builtinType "TimeSyncAnnounce" "TIME_SYNC_ANNOUNCE" "UInt64" "TimeSync",
     builtinType "TimeSyncRequest" "TIME_SYNC_REQUEST" "UInt64" "TimeSync",
     builtinType "TimeSyncResponse" "TIME_SYNC_RESPONSE" "UInt64" "TimeSync"]

def appendDiscoveryBuiltins (cfg : TelemetryConfig) : TelemetryConfig where
  endpoints := cfg.endpoints ++ [{ rust := "Discovery", name := "DISCOVERY",
                                   linkLocalOnly := some false }]
  types := cfg.types ++
    [builtinType "DiscoveryAnnounce" "DISCOVERY_ANNOUNCE" "UInt32" "Discovery",
     builtinType "DiscoveryTimeSyncSources" "DISCOVERY_TIMESYNC_SOURCES" "UInt8" "Discovery",
     builtinType "DiscoveryTopology" "DISCOVERY_TOPOLOGY" "UInt8" "Discovery"]

/-- An emitted constant: its name, its value, and the Rust variant of the
schema entry it stands for. -/
structure Member where
  name : String
  value : Nat
  rust : String
  deriving DecidableEq, Repr

/-- Sequential values from zero, then the built-in `TelemetryError`. -/
def numbered (label : String → String) (entries : List (String × String)) : List Member :=
  entries.zipIdx.map (fun e => ⟨label e.1.2, e.2, e.1.1⟩) ++
    [⟨label "TELEMETRY_ERROR", entries.length, "TelemetryError"⟩]

def typeEntries (cfg : TelemetryConfig) : List (String × String) :=
  cfg.types.map fun ty => (ty.rust, ty.name)

def endpointEntries (cfg : TelemetryConfig) : List (String × String) :=
  cfg.endpoints.map fun ep => (ep.rust, ep.name)

def renderCEnumDatatype (cfg : TelemetryConfig) : List Member :=
  numbered (fun name => "SEDS_DT_" ++ name) (typeEntries cfg)

def renderCEnumEndpoint (cfg : TelemetryConfig) : List Member :=
  numbered (fun name => "SEDS_EP_" ++ name) (endpointEntries cfg)

/-- `render_pyi_enums`: the `DataType` and `DataEndpoint` classes. -/
def renderPyiDatatype (cfg : TelemetryConfig) : List Member := numbered id (typeEntries cfg)

def renderPyiEndpoint (cfg : TelemetryConfig) : List Member := numbered id (endpointEntries cfg)

/-- The four enums of the two generated files. -/
structure Headers where
  cDatatype : List Member
  cEndpoint : List Member
  pyDatatype : List Member
  pyEndpoint : List Member
  deriving DecidableEq, Repr

/-- The configuration the enums are rendered from. -/
def finalConfig (f : Features) (cfg : TelemetryConfig) : TelemetryConfig :=
  let cfg := if f.timesync then appendTimesyncBuiltins cfg else cfg
  if f.discovery then appendDiscoveryBuiltins cfg else cfg

def main (f : Features) (base : Codegen.TelemetryConfig) (overlay : Option Overlay) :
    Generate Headers := do
  let cfg ← loadMergedSchema base overlay
  let cfg := read cfg
  validateSchema f cfg
  let cfg := finalConfig f cfg
  .ok { cDatatype := renderCEnumDatatype cfg, cEndpoint := renderCEnumEndpoint cfg,
        pyDatatype := renderPyiDatatype cfg, pyEndpoint := renderPyiEndpoint cfg }

/-- The entries of the features come in the macro's order. -/
theorem finalConfig_endpoints (f : Features) (cfg : TelemetryConfig) :
    (finalConfig f cfg).endpoints.map JsonEndpoint.rust ++ ["TelemetryError"] =
      cfg.endpoints.map JsonEndpoint.rust ++ (builtinEndpoints f).map EndpointVariant.rust := by
  rcases f with ⟨_ | _, _ | _⟩ <;>
    simp [finalConfig, appendTimesyncBuiltins, appendDiscoveryBuiltins, builtinEndpoints,
      timesyncEndpoint, discoveryEndpoint, telemetryErrorEndpoint]

/-- The idents of the entries before the reliable control types. -/
theorem finalConfig_types (f : Features) (cfg : TelemetryConfig) :
    (finalConfig f cfg).types.map JsonType.rust ++
        (reliableControlTypes ++ [telemetryErrorType]).map TypeVariant.rust =
      cfg.types.map JsonType.rust ++ (builtinTypes f).map TypeVariant.rust := by
  rcases f with ⟨_ | _, _ | _⟩ <;>
    simp [finalConfig, appendTimesyncBuiltins, appendDiscoveryBuiltins, builtinTypes, builtinType,
      timesyncTypes, timesyncType, discoveryTypes, discoveryType]

theorem main_eq_ok {f : Features} {base : Codegen.TelemetryConfig} {overlay : Option Overlay}
    {h : Headers} (hmain : main f base overlay = .ok h) :
    ∃ cfg, loadMergedSchema base overlay = .ok cfg ∧
      h = { cDatatype := renderCEnumDatatype (finalConfig f (read cfg))
            cEndpoint := renderCEnumEndpoint (finalConfig f (read cfg))
            pyDatatype := renderPyiDatatype (finalConfig f (read cfg))
            pyEndpoint := renderPyiEndpoint (finalConfig f (read cfg)) } := by
  obtain ⟨cfg, hload, hmain⟩ := except_bind_eq_ok.mp hmain
  obtain ⟨_, -, hmain⟩ := except_bind_eq_ok.mp hmain
  exact ⟨cfg, hload, (Except.ok.inj hmain).symm⟩

end BuildScript

section Agreement
open BuildScript

/-- Every emitted constant has the discriminant of its Rust variant. -/
def ValuesAgree (emitted : List Member) (idents : List String) : Prop :=
  ∀ m ∈ emitted, discriminant idents m.rust = some m.value

instance (emitted : List Member) (idents : List String) :
    Decidable (ValuesAgree emitted idents) :=
  inferInstanceAs (Decidable (∀ m ∈ emitted, _))

/-- Among distinct idents the value of a member is its position. -/
theorem discriminant_of_getElem? {idents : List String} (hnodup : idents.Nodup) {rust : String}
    {i : Nat} (h : idents[i]? = some rust) : discriminant idents rust = some i := by
  obtain ⟨hi, hget⟩ := List.getElem?_eq_some_iff.mp h
  rw [discriminant, List.findIdx?_eq_some_iff_getElem]
  refine ⟨hi, by simp [hget], fun j hj => ?_⟩
  have hne : idents[j] ≠ idents[i] := fun heq => by
    have := (hnodup.getElem_inj_iff).mp heq
    omega
  simpa [← hget] using hne

theorem mem_numbered {label : String → String} {entries : List (String × String)} {m : Member} :
    m ∈ numbered label entries ↔
      (entries[m.value]?.map Prod.fst = some m.rust ∧
        entries[m.value]?.map (label ∘ Prod.snd) = some m.name) ∨
      m = ⟨label "TELEMETRY_ERROR", entries.length, "TelemetryError"⟩ := by
  simp only [numbered, List.mem_append, List.mem_map, List.mem_singleton]
  refine or_congr ?_ Iff.rfl
  constructor
  · rintro ⟨⟨⟨rust, name⟩, i⟩, hmem, rfl⟩
    rw [List.mk_mem_zipIdx_iff_getElem?] at hmem
    simp [hmem]
  · rintro ⟨hrust, hname⟩
    obtain ⟨e, he, hrust⟩ := Option.map_eq_some_iff.mp hrust
    rw [he] at hname
    refine ⟨(e, m.value), List.mk_mem_zipIdx_iff_getElem?.mpr he, ?_⟩
    simp only [Option.map_some, Option.some.injEq, Function.comp_apply] at hname
    rw [hname, hrust]

/-- Where the Rust enum starts with the numbered entries, every constant but
`TelemetryError` has its variant's value. -/
theorem discriminant_of_numbered {label : String → String} {entries : List (String × String)}
    {rest : List String} (hnodup : (entries.map Prod.fst ++ rest).Nodup) {m : Member}
    (hm : m ∈ numbered label entries) (hne : m.rust ≠ "TelemetryError") :
    discriminant (entries.map Prod.fst ++ rest) m.rust = some m.value := by
  rcases mem_numbered.mp hm with ⟨hrust, -⟩ | rfl
  · apply discriminant_of_getElem? hnodup
    rw [← List.getElem?_map] at hrust
    obtain ⟨hlt, -⟩ := List.getElem?_eq_some_iff.mp hrust
    rw [List.getElem?_append_left hlt]
    exact hrust
  · exact absurd rfl hne

end Agreement
end Sedsprintf.Codegen
