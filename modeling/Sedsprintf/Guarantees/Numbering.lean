import Sedsprintf.Codegen.BuildScript

/-!
# The numbers of generated enums

Two questions about every schema: does a board-local overlay leave the numbers
of the shared schema alone, and do the C header and the Python stub repeat the
numbers of the Rust enums. Both come down to what stands before the built-in
entries of each list.
-/
namespace Sedsprintf.Codegen

open BuildScript (Headers Member)

/-- telemetry_config.json, without its doc strings. -/
def defaultConfig : TelemetryConfig where
  endpoints := [{ rust := "SdCard", name := "SD_CARD" }, { rust := "Radio", name := "RADIO" }]
  types :=
    [{ rust := "GpsData", name := "GPS_DATA", reliableMode := some "Ordered", cls := "Data",
       element := .static 3 "Float32", endpoints := ["Radio", "SdCard"] },
     { rust := "ImuData", name := "IMU_DATA", cls := "Data", element := .static 6 "Float32",
       endpoints := ["Radio", "SdCard"] },
     { rust := "BatteryStatus", name := "BATTERY_STATUS", cls := "Data",
       element := .static 2 "Float32", endpoints := ["Radio", "SdCard"] },
     { rust := "SystemStatus", name := "SYSTEM_STATUS", cls := "Data",
       element := .static 1 "Bool", endpoints := ["SdCard"] },
     { rust := "BarometerData", name := "BAROMETER_DATA", cls := "Data",
       element := .static 3 "Float32", endpoints := ["Radio", "SdCard"] },
     { rust := "MessageData", name := "MESSAGE_DATA", cls := "Data",
       element := .dynamic "String", endpoints := ["SdCard", "Radio"] },
     { rust := "Heartbeat", name := "HEARTBEAT", cls := "Data", element := .static 0 "NoData",
       endpoints := ["SdCard", "Radio"] }]

/-- The overlay of the macro's own test, one endpoint and one type. -/
def ipcOverlay : Overlay where
  path := "ipc.json"
  cfg :=
    { endpoints := [{ rust := "SoftwareBus", name := "SOFTWARE_BUS", linkLocalOnly := some true }]
      types := [{ rust := "IpcMessage", name := "IPC_MESSAGE", cls := "Data",
                  element := .dynamic "String", endpoints := ["SoftwareBus"] }] }

/-- `syn` on ASCII identifiers that are no keyword. -/
def asciiSyn : Syn := ⟨BuildScript.isRustIdent, BuildScript.isRustIdent⟩

def allFeatures : Features := ⟨true, true⟩

/-- The macro turns the repository's configuration into the schema the rest of
the development uses. -/
example :
    ((loadMergedSchema defaultConfig none >>= defineTelemetrySchema asciiSyn allFeatures).toOption.map
      fun g => (g.endpoints.map fun ep => (⟨ep.name, ep.linkLocalOnly⟩ : EndpointMeta),
        g.types.map fun ty => (ty.name, ty.reliable, ty.priority))) =
    some (defaultEndpoints, defaultTypes.map fun ty => (ty.name, ty.reliable, ty.priority)) := by
  decide +kernel

section Overlay
variable {syn : Syn} {f : Features} {base merged : TelemetryConfig} {overlay : Overlay}
variable {plain overlaid : GeneratedSchema}

/-- Every variant of the enums without the overlay has its value in those with it. -/
def NumberingKept (plain overlaid : GeneratedSchema) : Prop :=
  (∀ v ∈ plain.endpoints, overlaid.endpointValue v.rust = plain.endpointValue v.rust) ∧
    ∀ v ∈ plain.types, overlaid.typeValue v.rust = plain.typeValue v.rust

instance (plain overlaid : GeneratedSchema) : Decidable (NumberingKept plain overlaid) :=
  inferInstanceAs (Decidable (_ ∧ _))

/-- The entries of the base schema come first, with or without an overlay. -/
theorem base_values_kept (hplain : Expansion f base plain)
    (hmerged : mergeIpcOverlay base overlay = .ok merged)
    (hoverlaid : Expansion f merged overlaid) :
    (∀ ep ∈ base.endpoints, overlaid.endpointValue ep.rust = plain.endpointValue ep.rust) ∧
      ∀ ty ∈ base.types, overlaid.typeValue ty.rust = plain.typeValue ty.rust := by
  obtain ⟨hendpoints, htypes⟩ := mergeIpcOverlay_eq_ok hmerged
  constructor
  · intro ep hep
    have hmem : ep.rust ∈ base.endpoints.map JsonEndpoint.rust := List.mem_map_of_mem hep
    rw [hplain.endpointValue_of_mem hmem,
      hoverlaid.endpointValue_of_mem (hendpoints ▸ List.mem_append_left _ hmem), hendpoints,
      discriminant_append_of_mem hmem]
  · intro ty hty
    have hmem : ty.rust ∈ base.types.map JsonType.rust := List.mem_map_of_mem hty
    have hsplit : merged.types.map JsonType.rust =
        base.types.map JsonType.rust ++ overlay.cfg.types.map JsonType.rust := by
      rw [htypes, List.map_append]
    rw [hplain.typeValue_of_mem hmem,
      hoverlaid.typeValue_of_mem (hsplit ▸ List.mem_append_left _ hmem), hsplit,
      discriminant_append_of_mem hmem]

/-- The built-in `TelemetryError` moves by the number of entries the overlay adds. -/
theorem telemetryError_shifted (hplain : Expansion f base plain)
    (hmerged : mergeIpcOverlay base overlay = .ok merged)
    (hoverlaid : Expansion f merged overlaid) :
    overlaid.endpointValue "TelemetryError" =
        (plain.endpointValue "TelemetryError").map (· + overlay.cfg.endpoints.length) ∧
      overlaid.typeValue "TelemetryError" =
        (plain.typeValue "TelemetryError").map (· + overlay.cfg.types.length) := by
  obtain ⟨hendpoints, htypes⟩ := mergeIpcOverlay_eq_ok hmerged
  have hepLen := congrArg List.length hendpoints
  have htyLen := congrArg List.length htypes
  rw [List.length_append, List.length_map, List.length_map, List.length_map] at hepLen
  rw [List.length_append] at htyLen
  rw [hplain.endpointValue_telemetryError, hoverlaid.endpointValue_telemetryError,
    hplain.typeValue_telemetryError, hoverlaid.typeValue_telemetryError, hepLen, htyLen,
    Option.map_some, Option.map_some, Option.some.injEq, Option.some.injEq]
  omega

/-- **Overlays and numbering.** Every entry of the base schema keeps its value
under every accepted overlay; all variants, the built-in ones included, keep
theirs exactly when the overlay adds nothing. -/
theorem overlay_keeps_numbering_iff
    (hplain : defineTelemetrySchema syn f (normalizeBaseSchema base) = .ok plain)
    (hmerged : loadMergedSchema base (some overlay) = .ok merged)
    (hoverlaid : defineTelemetrySchema syn f merged = .ok overlaid) :
    (NumberingKept plain overlaid ↔
      overlay.cfg.endpoints = [] ∧ overlay.cfg.types = []) ∧
    (∀ ep ∈ base.endpoints, overlaid.endpointValue ep.rust = plain.endpointValue ep.rust) ∧
      ∀ ty ∈ base.types, overlaid.typeValue ty.rust = plain.typeValue ty.rust := by
  have hp := expansion_of_ok hplain
  have ho := expansion_of_ok hoverlaid
  have hmerge : mergeIpcOverlay (normalizeBaseSchema base) overlay = .ok merged := hmerged
  obtain ⟨hshiftEp, hshiftTy⟩ := telemetryError_shifted hp hmerge ho
  obtain ⟨hkeepEp, hkeepTy⟩ := base_values_kept hp hmerge ho
  refine ⟨?_, ?_, hkeepTy⟩
  · constructor
    · rintro ⟨hep, hty⟩
      have hepMem : "TelemetryError" ∈ plain.endpointIdents := by
        rw [hp.endpoints_eq]
        simp [builtinEndpoints, telemetryErrorEndpoint]
      have htyMem : "TelemetryError" ∈ plain.typeIdents := by
        rw [hp.types_eq]
        simp [builtinTypes, telemetryErrorType]
      obtain ⟨vep, hvep, hnameEp⟩ := List.mem_map.mp hepMem
      obtain ⟨vty, hvty, hnameTy⟩ := List.mem_map.mp htyMem
      have hsameEp := hep vep hvep
      have hsameTy := hty vty hvty
      rw [hnameEp, hshiftEp, hp.endpointValue_telemetryError] at hsameEp
      rw [hnameTy, hshiftTy, hp.typeValue_telemetryError] at hsameTy
      simpa using And.intro hsameEp hsameTy
    · rintro ⟨hep, hty⟩
      have hsame : merged = normalizeBaseSchema base := by
        obtain ⟨_, -, hmerge⟩ := except_bind_eq_ok.mp hmerge
        obtain ⟨_, -, hmerge⟩ := except_bind_eq_ok.mp hmerge
        rw [← Except.ok.inj hmerge, hep, hty, List.map_nil, List.append_nil, List.append_nil]
      rw [hsame, hplain] at hoverlaid
      obtain rfl := Except.ok.inj hoverlaid
      exact ⟨fun _ _ => rfl, fun _ _ => rfl⟩
  · intro ep hep
    have hmem : ep.rust ∈ (normalizeBaseSchema base).endpoints.map JsonEndpoint.rust := by
      rw [normalizeBaseSchema_idents]
      exact List.mem_map_of_mem hep
    obtain ⟨ep', hep', hrust⟩ := List.mem_map.mp hmem
    rw [← hrust]
    exact hkeepEp ep' hep'

/-- The three expansions of the repository's schema with the test overlay. -/
theorem exists_ipc_expansions :
    ∃ plain merged overlaid,
      defineTelemetrySchema asciiSyn allFeatures (normalizeBaseSchema defaultConfig) = .ok plain ∧
      loadMergedSchema defaultConfig (some ipcOverlay) = .ok merged ∧
      defineTelemetrySchema asciiSyn allFeatures merged = .ok overlaid := by
  have hrun : ((do
      let plain ← defineTelemetrySchema asciiSyn allFeatures (normalizeBaseSchema defaultConfig)
      let merged ← loadMergedSchema defaultConfig (some ipcOverlay)
      let overlaid ← defineTelemetrySchema asciiSyn allFeatures merged
      .ok (plain, merged, overlaid) : Generate _)).toOption.isSome = true := by
    decide +kernel
  obtain ⟨r, hr⟩ := Option.isSome_iff_exists.mp hrun
  obtain ⟨plain, hplain, hr⟩ := except_bind_eq_ok.mp (except_toOption_eq_some.mp hr)
  obtain ⟨merged, hmerged, hr⟩ := except_bind_eq_ok.mp hr
  obtain ⟨overlaid, hoverlaid, -⟩ := except_bind_eq_ok.mp hr
  exact ⟨plain, merged, overlaid, hplain, hmerged, hoverlaid⟩

theorem overlay_keeps_numbering_ipc :
    ∃ plain merged overlaid,
      defineTelemetrySchema asciiSyn allFeatures (normalizeBaseSchema defaultConfig) = .ok plain ∧
      loadMergedSchema defaultConfig (some ipcOverlay) = .ok merged ∧
      defineTelemetrySchema asciiSyn allFeatures merged = .ok overlaid ∧
      (∀ ty ∈ defaultConfig.types, overlaid.typeValue ty.rust = plain.typeValue ty.rust) ∧
      ¬ NumberingKept plain overlaid := by
  obtain ⟨plain, merged, overlaid, hplain, hmerged, hoverlaid⟩ := exists_ipc_expansions
  obtain ⟨hiff, -, hkeep⟩ := overlay_keeps_numbering_iff hplain hmerged hoverlaid
  exact ⟨plain, merged, overlaid, hplain, hmerged, hoverlaid, hkeep, mt hiff.mp (by decide)⟩

/-- With the overlay a frame of type 16 is an IPC board's packet request, without
it a telemetry error. -/
theorem overlay_moves_telemetryError :
    ∃ plain merged overlaid,
      defineTelemetrySchema asciiSyn allFeatures (normalizeBaseSchema defaultConfig) = .ok plain ∧
      loadMergedSchema defaultConfig (some ipcOverlay) = .ok merged ∧
      defineTelemetrySchema asciiSyn allFeatures merged = .ok overlaid ∧
      plain.typeValue "TelemetryError" = some 16 ∧
      overlaid.typeValue "ReliablePacketRequest" = some 16 ∧
      ¬ NumberingKept plain overlaid := by
  have hrun : ((do
      let plain ← defineTelemetrySchema asciiSyn allFeatures (normalizeBaseSchema defaultConfig)
      let merged ← loadMergedSchema defaultConfig (some ipcOverlay)
      let overlaid ← defineTelemetrySchema asciiSyn allFeatures merged
      .ok (plain.typeValue "TelemetryError", overlaid.typeValue "ReliablePacketRequest",
        decide (NumberingKept plain overlaid)) : Generate _)) =
      .ok (some 16, some 16, false) := by
    decide +kernel
  obtain ⟨plain, hplain, hr⟩ := except_bind_eq_ok.mp hrun
  obtain ⟨merged, hmerged, hr⟩ := except_bind_eq_ok.mp hr
  obtain ⟨overlaid, hoverlaid, hr⟩ := except_bind_eq_ok.mp hr
  simp only [Except.ok.injEq, Prod.mk.injEq, decide_eq_false_iff_not] at hr
  exact ⟨plain, merged, overlaid, hplain, hmerged, hoverlaid, hr⟩

end Overlay

section Headers
variable {syn : Syn} {f : Features} {base cfg : TelemetryConfig} {overlay : Option Overlay}
variable {g : GeneratedSchema} {headers : Headers}

/-- The constants of both generated files have the values of the Rust enums. -/
def HeadersAgree (headers : Headers) (g : GeneratedSchema) : Prop :=
  (ValuesAgree headers.cDatatype g.typeIdents ∧ ValuesAgree headers.pyDatatype g.typeIdents) ∧
    ValuesAgree headers.cEndpoint g.endpointIdents ∧ ValuesAgree headers.pyEndpoint g.endpointIdents

/-- The endpoint enum is the numbered list with `TelemetryError` behind it. -/
theorem endpointIdents_eq (hg : Expansion f cfg g) :
    g.endpointIdents = (BuildScript.endpointEntries
      (BuildScript.finalConfig f (BuildScript.read cfg))).map Prod.fst ++ ["TelemetryError"] := by
  rw [hg.endpoints_eq, BuildScript.endpointEntries, List.map_map]
  exact (BuildScript.finalConfig_endpoints f (BuildScript.read cfg)).symm

/-- The type enum has the three reliable control types in between. -/
theorem typeIdents_eq (hg : Expansion f cfg g) :
    g.typeIdents = (BuildScript.typeEntries
      (BuildScript.finalConfig f (BuildScript.read cfg))).map Prod.fst ++
        (reliableControlTypes ++ [telemetryErrorType]).map TypeVariant.rust := by
  have hread : (BuildScript.read cfg).types.map BuildScript.JsonType.rust =
      cfg.types.map JsonType.rust := by
    rw [BuildScript.read, List.map_map]
    rfl
  rw [hg.types_eq, BuildScript.typeEntries, List.map_map, ← hread]
  exact (BuildScript.finalConfig_types f (BuildScript.read cfg)).symm

theorem endpoint_values_agree (hg : Expansion f cfg g) (hnodup : g.endpointIdents.Nodup)
    (label : String → String) :
    ValuesAgree (BuildScript.numbered label (BuildScript.endpointEntries
      (BuildScript.finalConfig f (BuildScript.read cfg)))) g.endpointIdents := by
  intro m hm
  have hsplit := endpointIdents_eq hg
  by_cases hne : m.rust = "TelemetryError"
  · rcases mem_numbered.mp hm with ⟨hrust, -⟩ | rfl
    · -- an entry of that name would repeat the built-in variant
      rw [hne, ← List.getElem?_map] at hrust
      rw [hsplit] at hnodup
      exact absurd (List.mem_singleton_self _)
        (List.disjoint_of_nodup_append hnodup (List.mem_of_getElem? hrust))
    · apply discriminant_of_getElem? hnodup
      rw [hsplit, List.getElem?_append_right (by simp)]
      simp
  · rw [hsplit] at hnodup ⊢
    exact discriminant_of_numbered hnodup hm hne

theorem type_values_agree (hg : Expansion f cfg g) (hnodup : g.typeIdents.Nodup)
    {label : String → String} {m : Member} (hm : m ∈ BuildScript.numbered label
      (BuildScript.typeEntries (BuildScript.finalConfig f (BuildScript.read cfg))))
    (hne : m.rust ≠ "TelemetryError") : g.typeValue m.rust = some m.value := by
  rw [GeneratedSchema.typeValue]
  rw [typeIdents_eq hg] at hnodup ⊢
  exact discriminant_of_numbered hnodup hm hne

/-- `TelemetryError` stands three places further in the Rust enum. -/
theorem telemetryError_value (hg : Expansion f cfg g) :
    g.typeValue "TelemetryError" = some ((BuildScript.typeEntries
      (BuildScript.finalConfig f (BuildScript.read cfg))).length + 3) := by
  rw [hg.typeValue_telemetryError]
  rcases f with ⟨_ | _, _ | _⟩ <;>
    simp [BuildScript.typeEntries, BuildScript.finalConfig, BuildScript.read,
      BuildScript.appendTimesyncBuiltins, BuildScript.appendDiscoveryBuiltins]

/-- **C and Python values.** For no schema do both generated files repeat the
Rust numbering: `TELEMETRY_ERROR` is emitted three below its discriminant.
Every other data type and every endpoint is right. -/
theorem header_values_never_agree
    (hexpands : loadMergedSchema base overlay >>= defineTelemetrySchema syn f = .ok g)
    (hbuild : BuildScript.main f base overlay = .ok headers) :
    ¬ HeadersAgree headers g ∧
    (∃ value, ⟨"SEDS_DT_TELEMETRY_ERROR", value, "TelemetryError"⟩ ∈ headers.cDatatype ∧
      ⟨"TELEMETRY_ERROR", value, "TelemetryError"⟩ ∈ headers.pyDatatype ∧
      g.typeValue "TelemetryError" = some (value + 3)) ∧
    (g.typeIdents.Nodup → ∀ m ∈ headers.cDatatype ++ headers.pyDatatype,
      m.rust ≠ "TelemetryError" → g.typeValue m.rust = some m.value) ∧
    (g.endpointIdents.Nodup → ValuesAgree headers.cEndpoint g.endpointIdents ∧
      ValuesAgree headers.pyEndpoint g.endpointIdents) := by
  obtain ⟨cfg, hload, hdefine⟩ := except_bind_eq_ok.mp hexpands
  obtain ⟨cfg', hload', rfl⟩ := BuildScript.main_eq_ok hbuild
  obtain rfl := Except.ok.inj (hload'.symm.trans hload)
  have hg := expansion_of_ok hdefine
  have hvalue := telemetryError_value hg
  refine ⟨?_, ⟨_, mem_numbered.mpr (.inr rfl), mem_numbered.mpr (.inr rfl), hvalue⟩, ?_, ?_⟩
  · rintro ⟨⟨hc, -⟩, -⟩
    have hsame : g.typeValue "TelemetryError" = _ := hc _ (mem_numbered.mpr (.inr rfl))
    rw [hvalue] at hsame
    simp at hsame
  · intro hnodup m hm hne
    rcases List.mem_append.mp hm with hm | hm
    · exact type_values_agree hg hnodup hm hne
    · exact type_values_agree hg hnodup hm hne
  · intro hnodup
    exact ⟨endpoint_values_agree hg hnodup _, endpoint_values_agree hg hnodup _⟩

theorem header_values_default :
    ∃ g headers,
      loadMergedSchema defaultConfig none >>= defineTelemetrySchema asciiSyn allFeatures = .ok g ∧
      BuildScript.main allFeatures defaultConfig none = .ok headers ∧ ¬ HeadersAgree headers g := by
  have hexpands : (loadMergedSchema defaultConfig none >>=
      defineTelemetrySchema asciiSyn allFeatures).toOption.isSome = true := by decide +kernel
  have hbuild : (BuildScript.main allFeatures defaultConfig none).toOption.isSome = true := by
    decide +kernel
  obtain ⟨g, hg⟩ := Option.isSome_iff_exists.mp hexpands
  obtain ⟨headers, hheaders⟩ := Option.isSome_iff_exists.mp hbuild
  rw [except_toOption_eq_some] at hg hheaders
  exact ⟨g, headers, hg, hheaders, (header_values_never_agree hg hheaders).1⟩

/-- In the repository's own schema a C caller that logs `SEDS_DT_TELEMETRY_ERROR`
logs a reliable acknowledgement. -/
theorem header_telemetryError_is_reliableAck :
    ∃ g headers,
      loadMergedSchema defaultConfig none >>= defineTelemetrySchema asciiSyn allFeatures = .ok g ∧
      BuildScript.main allFeatures defaultConfig none = .ok headers ∧
      ⟨"SEDS_DT_TELEMETRY_ERROR", 13, "TelemetryError"⟩ ∈ headers.cDatatype ∧
      g.typeValue "ReliableAck" = some 13 ∧ g.typeValue "TelemetryError" = some 16 ∧
      ¬ HeadersAgree headers g := by
  have hrun : ((do
      let g ← loadMergedSchema defaultConfig none >>= defineTelemetrySchema asciiSyn allFeatures
      let headers ← BuildScript.main allFeatures defaultConfig none
      .ok (decide (⟨"SEDS_DT_TELEMETRY_ERROR", 13, "TelemetryError"⟩ ∈ headers.cDatatype),
        g.typeValue "ReliableAck", g.typeValue "TelemetryError") : Generate _)) =
      .ok (true, some 13, some 16) := by
    decide +kernel
  obtain ⟨g, hg, hr⟩ := except_bind_eq_ok.mp hrun
  obtain ⟨headers, hheaders, hr⟩ := except_bind_eq_ok.mp hr
  simp only [Except.ok.injEq, Prod.mk.injEq, decide_eq_true_eq] at hr
  obtain ⟨hmem, hack, herror⟩ := hr
  refine ⟨g, headers, hg, hheaders, hmem, hack, herror, ?_⟩
  rintro ⟨⟨hc, -⟩, -⟩
  have hsame : g.typeValue "TelemetryError" = some 13 := hc _ hmem
  rw [herror] at hsame
  simp at hsame

end Headers
end Sedsprintf.Codegen
