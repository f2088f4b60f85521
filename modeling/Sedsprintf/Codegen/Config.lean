import Sedsprintf.Schema

/-!
# Telemetry configuration files

The JSON configuration that both code generators read: the proc macro
`define_telemetry_schema!` (sedsprintf_macros/src/lib.rs:311-629) and the build
script (build.rs:45-92, 318-405). A value here is a configuration after serde;
where the two generators repeat a function, it is stated once and each keeps
its own name for it. Messages are the constructors of `SchemaError`, with the
values they quote.
-/
namespace Sedsprintf.Codegen

structure JsonEndpoint where
  rust : String
  name : String
  doc : Option String := none
  deprecatedBroadcastMode : Option String := none
  linkLocalOnly : Option Bool := none
  deriving DecidableEq, Repr

inductive JsonElement where
  | static (count : Nat) (dataType : String)
  | dynamic (dataType : String)
  deriving DecidableEq, Repr

def JsonElement.dataType : JsonElement → String
  | .static _ dataType => dataType
  | .dynamic dataType => dataType

structure JsonType where
  rust : String
  name : String
  doc : Option String := none
  reliable : Option Bool := none
  reliableMode : Option String := none
  priority : Option UInt8 := none
  element : JsonElement
  cls : String
  endpoints : List String
  deriving DecidableEq, Repr

structure TelemetryConfig where
  endpoints : List JsonEndpoint
  types : List JsonType
  deriving DecidableEq, Repr

inductive EntryKind where
  | endpoint | type
  deriving DecidableEq, Repr

inductive NameField where
  | rust | name
  deriving DecidableEq, Repr

inductive BuiltIn where
  | telemetryError | timeSync | discovery
  deriving DecidableEq, Repr

/-- What a generator can report. -/
inductive SchemaError where
  /-- `<path>: IPC overlay <kind> <field> <value> collides with the base schema` -/
  | collision (path : String) (kind : EntryKind) (field : NameField) (value : String)
  /-- `telemetry_config.json: <built-in> is built-in and must not be defined in the schema` -/
  | builtIn (which : BuiltIn) (kind : EntryKind)
  | nameEmpty (kind : EntryKind)
  | nameNotCaps (kind : EntryKind) (value : String)
  | badIdent (value : String)
  | unknownEndpoint (rust name endpoint : String)
  | mixesLinkLocal (rust name : String)
  | badReliableMode (mode : String)
  | dataTypeEmpty (rust : String)
  | classEmpty (rust : String)
  deriving DecidableEq, Repr

abbrev Generate := Except SchemaError

/-- Cargo features that add built-in entries. -/
structure Features where
  timesync : Bool
  discovery : Bool
  deriving DecidableEq, Repr

/-- The overlay file: its path and its contents. -/
structure Overlay where
  path : String
  cfg : TelemetryConfig
  deriving DecidableEq, Repr

section Base

def normalizeEndpointLegacyFields (ep : JsonEndpoint) : JsonEndpoint :=
  if ep.deprecatedBroadcastMode = some "Never" then { ep with linkLocalOnly := some true } else ep

def normalizeBaseSchema (cfg : TelemetryConfig) : TelemetryConfig :=
  { cfg with
    endpoints := cfg.endpoints.map fun ep =>
      let ep := normalizeEndpointLegacyFields ep
      if ep.deprecatedBroadcastMode ≠ some "Never" then { ep with linkLocalOnly := some false }
      else ep }

@[simp] theorem normalizeBaseSchema_types (cfg : TelemetryConfig) :
    (normalizeBaseSchema cfg).types = cfg.types := rfl

/-- Normalisation touches the link-local flag only. -/
theorem normalizeBaseSchema_idents (cfg : TelemetryConfig) :
    (normalizeBaseSchema cfg).endpoints.map JsonEndpoint.rust =
      cfg.endpoints.map JsonEndpoint.rust := by
  rw [normalizeBaseSchema, List.map_map]
  apply List.map_congr_left
  intro ep _
  simp only [Function.comp_apply, normalizeEndpointLegacyFields]
  split
  · split <;> rfl
  · rfl

end Base

section Overlay

/-- Both `insert` loops of `merge_ipc_overlay` over one kind of entry. -/
def insertNames (path : String) (kind : EntryKind) :
    List String → List String → List (String × String) → Generate Unit
  | _, _, [] => .ok ()
  | rusts, names, (rust, name) :: rest =>
    if rust ∈ rusts then .error (.collision path kind .rust rust)
    else if name ∈ names then .error (.collision path kind .name name)
    else insertNames path kind (rust :: rusts) (name :: names) rest

def mergeIpcOverlay (base : TelemetryConfig) (overlay : Overlay) : Generate TelemetryConfig := do
  let endpoints := overlay.cfg.endpoints.map fun ep => { ep with linkLocalOnly := some true }
  insertNames overlay.path .endpoint (base.endpoints.map (·.rust)) (base.endpoints.map (·.name))
    (endpoints.map fun ep => (ep.rust, ep.name))
  insertNames overlay.path .type (base.types.map (·.rust)) (base.types.map (·.name))
    (overlay.cfg.types.map fun ty => (ty.rust, ty.name))
  .ok { endpoints := base.endpoints ++ endpoints, types := base.types ++ overlay.cfg.types }

/-- `load_merged_schema` from the two files on. -/
def loadMergedSchema (base : TelemetryConfig) (overlay : Option Overlay) :
    Generate TelemetryConfig :=
  match overlay with
  | none => .ok (normalizeBaseSchema base)
  | some overlay => mergeIpcOverlay (normalizeBaseSchema base) overlay

theorem except_bind_eq_ok {α β : Type} {x : Generate α} {f : α → Generate β} {b : β} :
    x >>= f = .ok b ↔ ∃ a, x = .ok a ∧ f a = .ok b := by
  cases x with
  | error e => simp [bind, Except.bind]
  | ok a => simp [bind, Except.bind]

theorem except_toOption_eq_some {α : Type} {x : Generate α} {a : α} :
    x.toOption = some a ↔ x = .ok a := by
  cases x with
  | error e => simp [Except.toOption]
  | ok b => simp [Except.toOption]

/-- An accepted overlay stands behind the base schema, entry by entry. -/
theorem mergeIpcOverlay_eq_ok {base merged : TelemetryConfig} {overlay : Overlay}
    (h : mergeIpcOverlay base overlay = .ok merged) :
    merged.endpoints.map JsonEndpoint.rust =
        base.endpoints.map JsonEndpoint.rust ++ overlay.cfg.endpoints.map JsonEndpoint.rust ∧
      merged.types = base.types ++ overlay.cfg.types := by
  obtain ⟨_, -, h⟩ := except_bind_eq_ok.mp h
  obtain ⟨_, -, h⟩ := except_bind_eq_ok.mp h
  obtain rfl := Except.ok.inj h
  refine ⟨?_, rfl⟩
  rw [List.map_append, List.map_map]
  rfl

end Overlay

section Reserved

def isTimesyncEndpoint (rust name : String) : Bool := rust == "TimeSync" || name == "TIME_SYNC"

def isDiscoveryEndpoint (rust name : String) : Bool := rust == "Discovery" || name == "DISCOVERY"

def isTimesyncType (rust name : String) : Bool :=
  rust == "TimeSyncAnnounce" || rust == "TimeSyncRequest" || rust == "TimeSyncResponse" ||
    name == "TIME_SYNC_ANNOUNCE" || name == "TIME_SYNC_REQUEST" || name == "TIME_SYNC_RESPONSE"

def isDiscoveryType (rust name : String) : Bool :=
  rust == "DiscoveryAnnounce" || name == "DISCOVERY_ANNOUNCE" ||
    rust == "DiscoveryTimeSyncSources" || name == "DISCOVERY_TIMESYNC_SOURCES" ||
    rust == "DiscoveryTopology" || name == "DISCOVERY_TOPOLOGY"

/-- The checks on the names of one entry, in the order both generators make them. -/
def rejectBuiltIns (kind : EntryKind) (isTimesync isDiscovery : String → String → Bool) :
    List (String × String) → Generate Unit
  | [] => .ok ()
  | (rust, name) :: rest =>
    if rust = "TelemetryError" ∨ name = "TELEMETRY_ERROR" then
      .error (.builtIn .telemetryError kind)
    else if isTimesync rust name then .error (.builtIn .timeSync kind)
    else if isDiscovery rust name then .error (.builtIn .discovery kind)
    else rejectBuiltIns kind isTimesync isDiscovery rest

/-- The first two loops of both generators: types, then endpoints. -/
def rejectReserved (types endpoints : List (String × String)) : Generate Unit := do
  rejectBuiltIns .type isTimesyncType isDiscoveryType types
  rejectBuiltIns .endpoint isTimesyncEndpoint isDiscoveryEndpoint endpoints

theorem rejectBuiltIns_eq_ok {kind : EntryKind} {isTimesync isDiscovery : String → String → Bool}
    {entries : List (String × String)} {u : Unit}
    (h : rejectBuiltIns kind isTimesync isDiscovery entries = .ok u) :
    ∀ e ∈ entries, e.1 ≠ "TelemetryError" ∧ isTimesync e.1 e.2 = false ∧
      isDiscovery e.1 e.2 = false := by
  induction entries with
  | nil => simp
  | cons e rest ih =>
    obtain ⟨rust, name⟩ := e
    rw [rejectBuiltIns] at h
    split at h
    · cases h
    · split at h
      · cases h
      · split at h
        · cases h
        · rename_i htelemetry htimesync hdiscovery
          intro e he
          rcases List.mem_cons.mp he with rfl | he
          · exact ⟨fun hr => htelemetry (.inl hr), by simpa using htimesync,
              by simpa using hdiscovery⟩
          · exact ih h e he

end Reserved

/-- `ensure_caps_name` and `ensure_all_caps` allow the same characters. -/
def isCapsName (s : String) : Bool := s.toList.all fun c => c.isUpper || c.isDigit || c == '_'

/-- Whether a type refers to link-local-only endpoints and to other ones. -/
def mixesLinkLocal (endpoints : List JsonEndpoint) (referenced : List String) : Bool :=
  let found := referenced.filterMap fun rust => endpoints.find? (·.rust == rust)
  let linkLocal := found.map fun ep => ep.linkLocalOnly.getD false
  linkLocal.any (· == true) && linkLocal.any (· == false)

/-- The value of a variant of a generated enum: its position. -/
def discriminant (idents : List String) (rust : String) : Option Nat :=
  idents.findIdx? (· == rust)

theorem discriminant_append_of_mem {idents rest : List String} {rust : String}
    (h : rust ∈ idents) : discriminant (idents ++ rest) rust = discriminant idents rust := by
  have hsome : (idents.findIdx? (· == rust)).isSome = true := by
    rw [List.findIdx?_isSome, List.any_eq_true]
    exact ⟨rust, h, by simp⟩
  rw [discriminant, discriminant, List.findIdx?_append, Option.or_of_isSome hsome]

theorem discriminant_append_of_not_mem {idents rest : List String} {rust : String}
    (h : rust ∉ idents) :
    discriminant (idents ++ rest) rust = (discriminant rest rust).map (· + idents.length) := by
  have hnone : idents.findIdx? (· == rust) = none := by
    rw [List.findIdx?_eq_none_iff]
    intro s hs
    have hne : s ≠ rust := fun heq => h (heq ▸ hs)
    simpa using hne
  rw [discriminant, discriminant, List.findIdx?_append, hnone, Option.none_or]

end Sedsprintf.Codegen
