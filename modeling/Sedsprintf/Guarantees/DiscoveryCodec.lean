import Sedsprintf.Discovery.Boards
import Sedsprintf.Discovery.Codec

/-!
# Discovery packets there and back

src/discovery.rs:169-475. The decoders give back what the encoders were given, in canonical form. The
time-source encoder checks the length of every name, and casts their number.
-/
namespace Sedsprintf

open Lib

/-- The discovery types as every schema is generated with them. -/
structure Schema.Discovers (S : Schema) (d : DiscoveryTypes S.DataType)
    (discovery : S.DataEndpoint) : Prop where
  types : S.discovery = some d
  announce : S.getMessageMeta d.announce =
    ⟨"DISCOVERY_ANNOUNCE", .dynamic .uint32 .data, [discovery], .none, 240⟩
  timeSyncSources : S.getMessageMeta d.timeSyncSources =
    ⟨"DISCOVERY_TIMESYNC_SOURCES", .dynamic .uint8 .data, [discovery], .none, 240⟩
  topology : S.getMessageMeta d.topology =
    ⟨"DISCOVERY_TOPOLOGY", .dynamic .uint8 .data, [discovery], .none, 240⟩

section Packets
variable {B : Build} {S : Schema} {d : DiscoveryTypes S.DataType} {discovery : S.DataEndpoint}

theorem Schema.Discovers.isDiscoveryEndpoint_iff (h : S.Discovers d discovery)
    (ep : S.DataEndpoint) : S.isDiscoveryEndpoint ep = true ↔ ep = discovery := by
  rw [Schema.isDiscoveryEndpoint, h.types]
  simp [h.announce]

/-- A packet of numbers is built if it holds whole numbers. -/
theorem Packet.exists_new (discovery : S.DataEndpoint) (payload : List UInt8) {ty : S.DataType}
    {dt : MessageDataType} {cls : MessageClass}
    (helement : (S.getMessageMeta ty).element = .dynamic dt cls)
    (hdt : dt = .uint8 ∨ dt = .uint32) (hwidth : payload.length % elementWidth dt = 0)
    (hinline : B.maxStackPayload ≤ 255) (sender : String) (timestampMs : UInt64) :
    ∃ pkt, Packet.new B ty [discovery] sender timestampMs payload = .ok pkt ∧ pkt.ty = ty ∧
      pkt.payload.asSlice = payload := by
  have hchecked : checkElement B ty payload = .ok () := by
    have hty : S.getDataType ty = dt := by rw [Schema.getDataType, helement]; rfl
    rw [checkElement, helement]
    simp only [validateDynamicLenAndContent, hty]
    rcases hdt with rfl | rfl
    · simp [elementWidth] at hwidth ⊢
      omega
    · simp [elementWidth] at hwidth ⊢
      omega
  obtain ⟨stored, hstored⟩ : ∃ stored, SmallPayload.new B.maxStackPayload payload = .ok stored := by
    unfold SmallPayload.new
    split
    · rw [if_pos (by omega)]
      exact ⟨_, rfl⟩
    · exact ⟨_, rfl⟩
  exact ⟨_, (new_eq_ok B).mpr ⟨by simp, hchecked, stored, hstored, rfl⟩, rfl,
    SmallPayload.asSlice_of_new hstored⟩

end Packets

section Topology
variable {B : Build} {S : Schema} {d : DiscoveryTypes S.DataType} {discovery : S.DataEndpoint}
  {boards : List (TopologyBoardNode S)}

/-- Boards of different senders, without the discovery endpoint and empty names, whose lists are no
longer than a `u32` counts and a vector holds, and whose names are no longer than a `u32` counts. -/
structure Encodable (B : Build) (discovery : S.DataEndpoint) (boards : List (TopologyBoardNode S)) :
    Prop where
  senders : (boards.map TopologyBoardNode.senderId).Nodup
  noDiscovery : ∀ board ∈ boards, discovery ∉ board.reachableEndpoints
  sourcesNonempty : ∀ board ∈ boards, "" ∉ board.reachableTimesyncSources
  connectionsNonempty : ∀ board ∈ boards, "" ∉ board.connections
  count : CountFits B boards.length (topologyBoardSize B)
  short : ∀ board ∈ boards, ShortBoard B board

theorem CountFits.mono {count count' size : Nat} (h : CountFits B count size)
    (hle : count' ≤ count) : CountFits B count' size :=
  ⟨by have hlt := h.1; omega, (Nat.mul_le_mul_right size hle).trans h.2⟩

theorem length_sortDedup_le_length {α : Type} [LinearOrder α] (l : List α) :
    (sortDedup l).length ≤ l.length := by
  have hsorted := (List.perm_insertionSort (· ≤ ·) l).length_eq
  rw [← hsorted]
  exact (List.destutter_sublist _ _).length_le

theorem length_normalizeTopologyBoards_le (boards : List (TopologyBoardNode S)) :
    (normalizeTopologyBoards boards).length ≤ boards.length := by
  have hsorted := (List.perm_insertionSort
    (fun a b : TopologyBoardNode S => a.senderId ≤ b.senderId) (boards.map normalizeBoard)).length_eq
  rw [List.length_map] at hsorted
  rw [← hsorted]
  exact (List.destutter_sublist _ _).length_le

theorem ShortBoard.normalizeBoard {board : TopologyBoardNode S} (h : ShortBoard B board) :
    ShortBoard B (normalizeBoard board) where
  sender := h.sender
  endpoints := h.endpoints.mono (length_sortDedup_le_length _)
  sources := h.sources.mono (length_sortDedup_le_length _)
  connections := h.connections.mono
    ((length_sortDedup_le_length _).trans (List.length_filter_le _ _))
  sourceNames := fun name hname => h.sourceNames name (mem_sortDedup.mp hname)
  connectionNames := fun name hname =>
    h.connectionNames name (List.mem_filter.mp (mem_sortDedup.mp hname)).1

theorem filter_nonempty_eq_self {names : List String} (h : "" ∉ names) :
    names.filter (fun name => !name.isEmpty) = names := by
  refine List.filter_eq_self.mpr fun name hname => ?_
  cases hempty : name.isEmpty with
  | false => rfl
  | true =>
    rw [String.isEmpty_iff] at hempty
    exact absurd (hempty ▸ hname) h

/-- Nothing of a normal form is dropped on the way. -/
theorem Encodable.keptBoard_eq (hd : S.Discovers d discovery) (h : Encodable B discovery boards) :
    ∀ board ∈ normalizeTopologyBoards boards, keptBoard board = board := by
  intro board hboard
  obtain ⟨old, hold, rfl⟩ := (normalizeTopologyBoards_normalizesTo boards).exists_of_mem hboard
  have hendpoints : (sortDedup old.reachableEndpoints).filter
      (fun ep => !S.isDiscoveryEndpoint ep) = sortDedup old.reachableEndpoints := by
    refine List.filter_eq_self.mpr fun ep hep => ?_
    cases hdiscovery : S.isDiscoveryEndpoint ep with
    | false => rfl
    | true =>
      rw [hd.isDiscoveryEndpoint_iff] at hdiscovery
      exact absurd (hdiscovery ▸ mem_sortDedup.mp hep) (h.noDiscovery old hold)
  have hsources : "" ∉ sortDedup old.reachableTimesyncSources := fun hname =>
    h.sourcesNonempty old hold (mem_sortDedup.mp hname)
  have hconnections : "" ∉ sortDedup (old.connections.filter fun peer => peer != old.senderId) :=
    fun hname => h.connectionsNonempty old hold (List.mem_filter.mp (mem_sortDedup.mp hname)).1
  simp only [keptBoard, normalizeBoard, hendpoints, filter_nonempty_eq_self hsources,
    filter_nonempty_eq_self hconnections]

/-- A topology comes back normalized. -/
def TopologyRoundTrips (B : Build) (d : DiscoveryTypes S.DataType) (discovery : S.DataEndpoint)
    (sender : String) (timestampMs : UInt64) (boards : List (TopologyBoardNode S)) : Prop :=
  ∃ pkt, buildDiscoveryTopology B d discovery sender timestampMs boards = .ok pkt ∧
    decodeDiscoveryTopology B pkt d = .ok (normalizeTopologyBoards boards)

theorem Encodable.roundTrips (hd : S.Discovers d discovery) (hinline : B.maxStackPayload ≤ 255)
    (h : Encodable B discovery boards) (sender : String) (timestampMs : UInt64) :
    TopologyRoundTrips B d discovery sender timestampMs boards := by
  have hnormalizes := normalizeTopologyBoards_normalizesTo boards
  have hshort : ∀ board ∈ normalizeTopologyBoards boards, ShortBoard B board := by
    intro board hboard
    obtain ⟨old, hold, rfl⟩ := hnormalizes.exists_of_mem hboard
    exact (h.short old hold).normalizeBoard
  have hnames : ∀ board ∈ normalizeTopologyBoards boards, ShortNames board := fun board hboard =>
    ⟨(hshort board hboard).sender, (hshort board hboard).sourceNames,
      (hshort board hboard).connectionNames⟩
  obtain ⟨pkt, hpkt, hty, hpayload⟩ := Packet.exists_new discovery
    (encodeLE 4 (normalizeTopologyBoards boards).length ++
      (normalizeTopologyBoards boards).flatMap boardBytes)
    (congrArg MessageMeta.element hd.topology) (.inl rfl) (Nat.mod_one _) hinline sender timestampMs
  refine ⟨pkt, ?_, ?_⟩
  · rw [buildDiscoveryTopology, writeBoards_eq hnames, ok_bind, hpkt]
  · rw [decodeDiscoveryTopology, ensure_of hty, ok_bind, hpayload,
      decodeDiscoveryTopologyPayload_eq_ok]
    refine ⟨_, h.count.mono (length_normalizeTopologyBoards_le boards), hshort, rfl, ?_⟩
    rw [List.map_congr_left (h.keptBoard_eq hd), List.map_id']
    exact (hnormalizes.idem (normalizeTopologyBoards_normalizesTo _)).symm

end Topology

section Lists
variable {B : Build} {S : Schema} {d : DiscoveryTypes S.DataType} {discovery : S.DataEndpoint}

/-- An announce comes back as the set of its endpoints, without the one for discovery. -/
def AnnounceRoundTrips (B : Build) (d : DiscoveryTypes S.DataType) (discovery : S.DataEndpoint)
    (sender : String) (timestampMs : UInt64) (endpoints : List S.DataEndpoint) : Prop :=
  ∃ pkt, buildDiscoveryAnnounce B d discovery sender timestampMs endpoints = .ok pkt ∧
    decodeDiscoveryAnnounce pkt d = .ok (sortDedup (endpoints.filter fun ep => ep ≠ discovery))

theorem announceRoundTrips (hd : S.Discovers d discovery) (hinline : B.maxStackPayload ≤ 255)
    (sender : String) (timestampMs : UInt64) (endpoints : List S.DataEndpoint) :
    AnnounceRoundTrips B d discovery sender timestampMs endpoints := by
  have hwidth : (endpoints.flatMap endpointBytes).length % elementWidth .uint32 = 0 := by
    rw [length_flatMap_endpointBytes, elementWidth]
    omega
  obtain ⟨pkt, hpkt, hty, hpayload⟩ := Packet.exists_new discovery _
    (congrArg MessageMeta.element hd.announce) (.inr rfl) hwidth hinline sender timestampMs
  refine ⟨pkt, hpkt, ?_⟩
  rw [decodeDiscoveryAnnounce, ensure_of hty, ok_bind, hpayload, decodeDiscoveryPayload_flatMap]
  have hsame : (fun ep => !S.isDiscoveryEndpoint ep) = fun ep => decide (ep ≠ discovery) := by
    funext ep
    have hiff := hd.isDiscoveryEndpoint_iff ep
    by_cases hep : ep = discovery
    · rw [hiff.mpr hep]
      simp [hep]
    · have hother : S.isDiscoveryEndpoint ep = false :=
        Bool.eq_false_iff.mpr fun h => hep (hiff.mp h)
      simp [hep, hother]
  rw [hsame]

/-- Short names make a packet of time sources, and every such packet comes back as the set of its
names, without the empty one. -/
def SourcesRoundTrip (B : Build) (d : DiscoveryTypes S.DataType) (discovery : S.DataEndpoint)
    (sender : String) (timestampMs : UInt64) (sources : List String) : Prop :=
  ((∀ name ∈ sources, ShortName name) →
    ∃ pkt, buildDiscoveryTimesyncSources B d discovery sender timestampMs sources = .ok pkt) ∧
  ∀ pkt, buildDiscoveryTimesyncSources B d discovery sender timestampMs sources = .ok pkt →
    decodeDiscoveryTimesyncSources B pkt d =
      .ok (sortDedup (sources.filter fun name => !name.isEmpty))

/-- The number of names is written without a check, and read back where it fits. -/
theorem sourcesRoundTrip_iff (hd : S.Discovers d discovery) (hinline : B.maxStackPayload ≤ 255)
    (sender : String) (timestampMs : UInt64) (sources : List String) :
    SourcesRoundTrip B d discovery sender timestampMs sources ↔
      ((∀ name ∈ sources, ShortName name) →
        CountFits B (sortDedup sources).length (stringSize B)) := by
  have hbuild : ∀ pkt, buildDiscoveryTimesyncSources B d discovery sender timestampMs sources =
      .ok pkt → (∀ name ∈ sortDedup sources, ShortName name) ∧
        Packet.new B d.timeSyncSources [discovery] sender timestampMs
          (namesBytes (sortDedup sources)) = .ok pkt := by
    intro pkt hpkt
    obtain ⟨bytes, hbytes, hnew⟩ := bind_eq_ok.mp hpkt
    obtain ⟨hshort, rfl⟩ := writeNames_eq_ok.mp hbytes
    exact ⟨hshort, hnew⟩
  obtain ⟨pkt, hpkt, hty, hpayload⟩ := Packet.exists_new discovery
    (namesBytes (sortDedup sources)) (congrArg MessageMeta.element hd.timeSyncSources) (.inl rfl)
    (Nat.mod_one _) hinline sender timestampMs
  have hbuilt : (∀ name ∈ sources, ShortName name) →
      buildDiscoveryTimesyncSources B d discovery sender timestampMs sources = .ok pkt := by
    intro hshort
    have hshort' : ∀ name ∈ sortDedup sources, ShortName name := fun name hname =>
      hshort name (mem_sortDedup.mp hname)
    rw [buildDiscoveryTimesyncSources, writeNames_eq_ok.mpr ⟨hshort', rfl⟩, ok_bind]
    exact hpkt
  have hdecode : ∀ out, decodeDiscoveryTimesyncSources B pkt d = .ok out ↔
      ∃ all : List String, CountFits B all.length (stringSize B) ∧ (∀ name ∈ all, ShortName name) ∧
        namesBytes (sortDedup sources) = namesBytes all ∧
        out = sortDedup (all.filter fun name => !name.isEmpty) := by
    intro out
    rw [decodeDiscoveryTimesyncSources, ensure_of hty, ok_bind, hpayload,
      decodeDiscoveryTimesyncSourcesPayload_eq_ok]
  constructor
  · intro hround hshort
    have hshort' : ∀ name ∈ sortDedup sources, ShortName name := fun name hname =>
      hshort name (mem_sortDedup.mp hname)
    obtain ⟨all, hfits, hall, hbytes, -⟩ := (hdecode _).mp (hround.2 pkt (hbuilt hshort))
    obtain ⟨-, hnames⟩ := List.append_inj hbytes (by simp)
    rw [flatMap_nameBytes_injective hshort' hall hnames]
    exact hfits
  · refine fun hfits => ⟨fun hshort => ⟨pkt, hbuilt hshort⟩, fun pkt' hbuilt' => ?_⟩
    obtain ⟨hshort, hnew⟩ := hbuild pkt' hbuilt'
    rw [hpkt] at hnew
    cases hnew
    refine (hdecode _).mpr ⟨sortDedup sources,
      hfits fun name hname => hshort name (mem_sortDedup.mpr hname), hshort, rfl, ?_⟩
    refine sortDedup_congr fun name => ?_
    rw [List.mem_filter, List.mem_filter, mem_sortDedup]

/-- All three come back, but for names of sources that are more than a `u32` counts or a vector
holds. -/
theorem discovery_codecs_round_trip_iff (hd : S.Discovers d discovery)
    (hinline : B.maxStackPayload ≤ 255) (sender : String) (timestampMs : UInt64)
    (boards : List (TopologyBoardNode S)) (endpoints : List S.DataEndpoint)
    (sources : List String) :
    ((Encodable B discovery boards →
          TopologyRoundTrips B d discovery sender timestampMs boards) ∧
        AnnounceRoundTrips B d discovery sender timestampMs endpoints ∧
        SourcesRoundTrip B d discovery sender timestampMs sources) ↔
      ((∀ name ∈ sources, ShortName name) →
        CountFits B (sortDedup sources).length (stringSize B)) := by
  rw [sourcesRoundTrip_iff hd hinline]
  constructor
  · exact fun h => h.2.2
  · exact fun h => ⟨fun hboards => hboards.roundTrips hd hinline sender timestampMs,
      announceRoundTrips hd hinline sender timestampMs endpoints, h⟩

end Lists

section Many

def defaultDiscovery : DiscoveryTypes defaultSchema.DataType := ⟨10, 11, 12⟩

def discoveryEndpoint : defaultSchema.DataEndpoint := 3

theorem defaultSchema_discovers : defaultSchema.Discovers defaultDiscovery discoveryEndpoint :=
  ⟨rfl, rfl, rfl, rfl⟩

theorem discovery_codecs_round_trip_iff_default :
    ((Encodable hostBuild discoveryEndpoint [⟨"A", [0, 1], ["gps"], ["B"]⟩] →
          TopologyRoundTrips hostBuild defaultDiscovery discoveryEndpoint "A" 5
            [⟨"A", [0, 1], ["gps"], ["B"]⟩]) ∧
        AnnounceRoundTrips hostBuild defaultDiscovery discoveryEndpoint "A" 5 [1, 3, 0] ∧
        SourcesRoundTrip hostBuild defaultDiscovery discoveryEndpoint "A" 5 ["gps", "", "gps"]) ↔
      ((∀ name ∈ ["gps", "", "gps"], ShortName name) →
        CountFits hostBuild (sortDedup ["gps", "", "gps"]).length (stringSize hostBuild)) :=
  discovery_codecs_round_trip_iff defaultSchema_discovers (by decide) _ _ _ _ _

/-- A number in 32 binary digits. -/
def binaryName (i : Nat) : String :=
  String.ofList ((List.range 32).map fun k => if i.testBit k then '1' else '0')

/-- That many names. -/
def manyNames (count : Nat) : List String := (List.range count).map binaryName

theorem binaryName_injective {i j : Nat} (hi : i < 2 ^ 32) (hj : j < 2 ^ 32)
    (h : binaryName i = binaryName j) : i = j := by
  have hdigits := String.ofList_injective h
  refine Nat.eq_of_testBit_eq fun k => ?_
  by_cases hk : k < 32
  · have hdigit := List.map_inj_left.mp hdigits k (List.mem_range.mpr hk)
    cases hik : i.testBit k <;> cases hjk : j.testBit k <;> simp_all
  · have hlarge : 2 ^ 32 ≤ 2 ^ k := Nat.pow_le_pow_right (by decide) (by omega)
    rw [Nat.testBit_lt_two_pow (by omega), Nat.testBit_lt_two_pow (by omega)]

theorem manyNames_nodup {count : Nat} (hcount : count ≤ 2 ^ 32) : (manyNames count).Nodup := by
  refine List.Nodup.map_on (fun i hi j hj h => ?_) List.nodup_range
  have hi := List.mem_range.mp hi
  have hj := List.mem_range.mp hj
  exact binaryName_injective (by omega) (by omega) h

theorem utf8Len_le (cs : List Char) : String.utf8Len cs ≤ 4 * cs.length := by
  induction cs with
  | nil => simp [String.utf8Len]
  | cons c rest ih =>
    have hsize := c.utf8Size_le_four
    simp only [String.utf8Len, List.length_cons]
    omega

theorem shortName_binaryName (i : Nat) : ShortName (binaryName i) := by
  have hsize : (asBytes (binaryName i)).length = (binaryName i).utf8ByteSize := by
    simp [asBytes]
  have hlength := utf8Len_le ((List.range 32).map fun k => if i.testBit k then '1' else '0')
  rw [ShortName, hsize, binaryName, String.utf8ByteSize_ofList]
  simp only [List.length_map, List.length_range] at hlength
  omega

theorem length_sortDedup_manyNames {count : Nat} (hcount : count ≤ 2 ^ 32) :
    (sortDedup (manyNames count)).length = count := by
  have hperm : (sortDedup (manyNames count)).Perm (manyNames count) :=
    (List.perm_ext_iff_of_nodup (nodup_sortDedup _) (manyNames_nodup hcount)).mpr fun _ =>
      mem_sortDedup
  rw [hperm.length_eq, manyNames, List.length_map, List.length_range]

theorem length_le_flatMap_nameBytes (names : List String) :
    names.length ≤ (names.flatMap nameBytes).length := by
  induction names with
  | nil => simp
  | cons name rest ih =>
    simp only [List.flatMap_cons, nameBytes, List.length_append, encodeLE_length, List.length_cons]
    omega

theorem manyNames_rejected {count : Nat} (hcount : count = 2 ^ 32) :
    ∃ pkt, buildDiscoveryTimesyncSources hostBuild defaultDiscovery discoveryEndpoint "A" 5
        (manyNames count) = .ok pkt ∧
      decodeDiscoveryTimesyncSources hostBuild pkt defaultDiscovery =
        reject "discovery timesync trailing bytes" := by
  have hlength := length_sortDedup_manyNames hcount.le
  have hshort : ∀ name ∈ sortDedup (manyNames count), ShortName name := by
    intro name hname
    rw [mem_sortDedup, manyNames] at hname
    obtain ⟨i, -, rfl⟩ := List.mem_map.mp hname
    exact shortName_binaryName i
  have hword : encodeLE 4 count = encodeLE 4 0 := by
    rw [hcount]
    rfl
  generalize hnames : sortDedup (manyNames count) = names at hlength hshort
  obtain ⟨pkt, hpkt, hty, hpayload⟩ := Packet.exists_new discoveryEndpoint
    (encodeLE 4 names.length ++ names.flatMap nameBytes)
    (congrArg MessageMeta.element defaultSchema_discovers.timeSyncSources) (.inl rfl)
    (Nat.mod_one _) (show hostBuild.maxStackPayload ≤ 255 by decide) "A" 5
  refine ⟨pkt, ?_, ?_⟩
  · rw [buildDiscoveryTimesyncSources, hnames, writeNames_eq_ok.mpr ⟨hshort, rfl⟩, ok_bind, hpkt]
  · have hread : takeWord "discovery timesync source count"
        (.new (encodeLE 4 0 ++ names.flatMap nameBytes)) =
          .ok (0, ⟨encodeLE 4 0 ++ names.flatMap nameBytes, 4⟩) :=
      takeWord_eq_ok.mpr ⟨by decide, rfl, rfl⟩
    have hrest := length_le_flatMap_nameBytes names
    rw [decodeDiscoveryTimesyncSources, ensure_of hty, ok_bind, hpayload, hlength, hword,
      decodeDiscoveryTimesyncSourcesPayload, hread]
    simp only [ok_bind, takeNames, Nat.zero_mul]
    rw [Build.allocate_of_le _ (Nat.zero_le _), ok_bind, ensure, if_neg]
    · rfl
    · rw [List.length_append, encodeLE_length]
      omega

/-- 2^32 names are written behind the count 0. -/
theorem many_time_sources_rejected :
    ∃ pkt, buildDiscoveryTimesyncSources hostBuild defaultDiscovery discoveryEndpoint "A" 5
        (manyNames (2 ^ 32)) = .ok pkt ∧
      decodeDiscoveryTimesyncSources hostBuild pkt defaultDiscovery =
        reject "discovery timesync trailing bytes" :=
  manyNames_rejected rfl

end Many
end Sedsprintf
