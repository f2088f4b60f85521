import Sedsprintf.Discovery

/-!
# Discovery payloads

The encoders of src/discovery.rs:169-344, and what their decoders read. A name is its length and its
bytes, a list is its count and its items; a decoder of a list accepts exactly what is written so.
-/
namespace Sedsprintf

open Lib

section Reading

/-- The reader has read the bytes and stands behind them. -/
def ByteReader.Reads (r : ByteReader) (bytes : List UInt8) (r' : ByteReader) : Prop :=
  r.buf.drop r.off = bytes ++ r'.buf.drop r'.off ∧ r' = { r with off := r.off + bytes.length }

variable {r r' r'' : ByteReader} {label : String}

theorem ByteReader.reads_nil : r.Reads [] r' ↔ r' = r := by
  constructor
  · rintro ⟨-, rfl⟩
    rfl
  · rintro rfl
    exact ⟨rfl, rfl⟩

theorem ByteReader.reads_append {bytes bytes' : List UInt8} :
    r.Reads (bytes ++ bytes') r'' ↔ ∃ r', r.Reads bytes r' ∧ r'.Reads bytes' r'' := by
  constructor
  · rintro ⟨hrest, hoff⟩
    have hmiddle : r.buf.drop (r.off + bytes.length) = bytes' ++ r''.buf.drop r''.off := by
      rw [← List.drop_drop, hrest, List.append_assoc, List.drop_left]
    refine ⟨{ r with off := r.off + bytes.length }, ⟨?_, rfl⟩, hmiddle, ?_⟩
    · rw [hmiddle, hrest, List.append_assoc]
    · rw [hoff, List.length_append, Nat.add_assoc]
  · rintro ⟨r', ⟨hrest, hoff⟩, hrest', hoff'⟩
    refine ⟨?_, ?_⟩
    · rw [hrest, hrest', List.append_assoc]
    · rw [hoff', hoff, List.length_append, Nat.add_assoc]

/-- The whole buffer. -/
theorem ByteReader.reads_all {payload bytes : List UInt8} :
    (∃ r', (ByteReader.new payload).Reads bytes r' ∧ r'.off = payload.length) ↔
      payload = bytes := by
  constructor
  · rintro ⟨r', ⟨hrest, rfl⟩, hoff⟩
    simp only [ByteReader.new, Nat.zero_add, List.drop_zero] at hrest hoff
    rw [hoff, List.drop_length, List.append_nil] at hrest
    exact hrest
  · rintro rfl
    exact ⟨⟨payload, payload.length⟩, ⟨by simp [ByteReader.new], by simp [ByteReader.new]⟩, rfl⟩

theorem takeBytes_eq_ok {n : Nat} {bytes : List UInt8} :
    takeBytes label r n = .ok (bytes, r') ↔ bytes.length = n ∧ r.Reads bytes r' := by
  unfold takeBytes ByteReader.Reads ByteReader.remaining
  split
  · rename_i hshort
    simp only [reject_ne_ok, false_iff]
    rintro ⟨hlength, hrest, -⟩
    have hdrop := congrArg List.length hrest
    rw [List.length_append, List.length_drop] at hdrop
    omega
  · rename_i henough
    simp only [Except.ok.injEq, Prod.mk.injEq]
    constructor
    · rintro ⟨rfl, rfl⟩
      have hlength : ((r.buf.drop r.off).take n).length = n := by
        rw [List.length_take, List.length_drop]
        omega
      refine ⟨hlength, ?_, by rw [hlength]⟩
      rw [← List.drop_drop, List.take_append_drop]
    · rintro ⟨rfl, hrest, hoff⟩
      exact ⟨by rw [hrest, List.take_left], hoff.symm⟩

theorem encodeLE_inj {n m : Nat} (hn : n < 2 ^ 32) (hm : m < 2 ^ 32)
    (h : encodeLE 4 n = encodeLE 4 m) : n = m := by
  have hdecode := congrArg decodeLE h
  rwa [decodeLE_encodeLE_of_lt hn, decodeLE_encodeLE_of_lt hm] at hdecode

theorem takeWord_eq_ok {n : Nat} :
    takeWord label r = .ok (n, r') ↔ n < 2 ^ 32 ∧ r.Reads (encodeLE 4 n) r' := by
  have hword : ∀ bytes : List UInt8, bytes.length = 4 →
      ((u32FromLeBytes bytes).toNat = n ↔ n < 2 ^ 32 ∧ bytes = encodeLE 4 n) := by
    intro bytes hlength
    constructor
    · rintro rfl
      exact ⟨UInt32.toNat_lt _, (u32LeBytes_u32FromLeBytes hlength).symm⟩
    · rintro ⟨hn, rfl⟩
      rw [u32FromLeBytes, decodeLE_encodeLE_of_lt hn, UInt32.toNat_ofNat_of_lt' hn]
  unfold takeWord
  simp only [bind_eq_ok, Prod.exists, takeBytes_eq_ok, Except.ok.injEq, Prod.mk.injEq]
  constructor
  · rintro ⟨bytes, r', ⟨hlength, hreads⟩, hn, rfl⟩
    obtain ⟨hlt, rfl⟩ := (hword bytes hlength).mp hn
    exact ⟨hlt, hreads⟩
  · rintro ⟨hlt, hreads⟩
    exact ⟨_, r', ⟨encodeLE_length 4 n, hreads⟩,
      (hword _ (encodeLE_length 4 n)).mpr ⟨hlt, rfl⟩, rfl⟩

end Reading

section Names
variable {r r' : ByteReader} {len bytes utf8 : String}

/-- A name on the wire. -/
def nameBytes (name : String) : List UInt8 := encodeLE 4 (asBytes name).length ++ asBytes name

/-- What `u32::try_from` has a length for. -/
def ShortName (name : String) : Prop := (asBytes name).length < 2 ^ 32

instance (name : String) : Decidable (ShortName name) := inferInstanceAs (Decidable (_ < _))

theorem takeString_eq_ok {name : String} :
    takeString len bytes utf8 r = .ok (name, r') ↔
      ShortName name ∧ r.Reads (nameBytes name) r' := by
  unfold takeString
  simp only [bind_eq_ok, Prod.exists, takeWord_eq_ok, takeBytes_eq_ok, okOr_eq_ok, fromUtf8_eq_some,
    Except.ok.injEq, Prod.mk.injEq, nameBytes, ByteReader.reads_append]
  constructor
  · rintro ⟨n, r₁, ⟨hn, hword⟩, raw, r₂, ⟨rfl, hraw⟩, s, rfl, rfl, rfl⟩
    exact ⟨hn, r₁, hword, hraw⟩
  · rintro ⟨hn, r₁, hword, hraw⟩
    exact ⟨_, r₁, ⟨hn, hword⟩, _, r', ⟨rfl, hraw⟩, name, rfl, rfl, rfl⟩

theorem takeNames_eq_ok {count : Nat} {names : List String} :
    takeNames len bytes utf8 count r = .ok (names, r') ↔
      ∃ all : List String, all.length = count ∧ (∀ name ∈ all, ShortName name) ∧
        names = all.filter (fun name => !name.isEmpty) ∧ r.Reads (all.flatMap nameBytes) r' := by
  induction count generalizing r r' names with
  | zero =>
    simp only [takeNames, Except.ok.injEq, Prod.mk.injEq, List.length_eq_zero_iff]
    constructor
    · rintro ⟨rfl, rfl⟩
      exact ⟨[], rfl, by simp, rfl, ByteReader.reads_nil.mpr rfl⟩
    · rintro ⟨all, rfl, -, rfl, hreads⟩
      exact ⟨rfl, (ByteReader.reads_nil.mp hreads).symm⟩
  | succ count ih =>
    simp only [takeNames, bind_eq_ok, Prod.exists, takeString_eq_ok, ih, Except.ok.injEq,
      Prod.mk.injEq]
    constructor
    · rintro ⟨name, r₁, ⟨hshort, hname⟩, _, r₂, ⟨all, rfl, hall, rfl, hrest⟩, rfl, rfl⟩
      refine ⟨name :: all, rfl, ?_, ?_, ByteReader.reads_append.mpr ⟨r₁, hname, hrest⟩⟩
      · simpa using ⟨hshort, hall⟩
      · cases hempty : name.isEmpty <;> simp [hempty]
    · rintro ⟨all, hcount, hall, rfl, hreads⟩
      obtain ⟨name, rest, rfl⟩ := List.exists_cons_of_length_eq_add_one hcount
      obtain ⟨r₁, hname, hrest⟩ := ByteReader.reads_append.mp hreads
      refine ⟨name, r₁, ⟨hall name List.mem_cons_self, hname⟩, _, r',
        ⟨rest, by simpa using hcount, fun other hother => hall other (List.mem_cons_of_mem _ hother),
          rfl, hrest⟩, ?_, rfl⟩
      cases hempty : name.isEmpty <;> simp [hempty]

/-- A list of short names is read in one way. -/
theorem flatMap_nameBytes_injective {names names' : List String}
    (hshort : ∀ name ∈ names, ShortName name) (hshort' : ∀ name ∈ names', ShortName name)
    (h : names.flatMap nameBytes = names'.flatMap nameBytes) : names = names' := by
  induction names generalizing names' with
  | nil =>
    cases names' with
    | nil => rfl
    | cons name' rest' =>
      have hlength := congrArg List.length h
      simp [nameBytes] at hlength
      omega
  | cons name rest ih =>
    cases names' with
    | nil =>
      have hlength := congrArg List.length h
      simp [nameBytes] at hlength
    | cons name' rest' =>
      simp only [List.flatMap_cons, nameBytes, List.append_assoc] at h
      obtain ⟨hcount, h⟩ := List.append_inj h (by simp)
      have hlength := encodeLE_inj (hshort name List.mem_cons_self)
        (hshort' name' List.mem_cons_self) hcount
      obtain ⟨hbytes, hrest⟩ := List.append_inj h hlength
      have hname : name = name' := by
        have hsome := fromUtf8_asBytes name
        rw [hbytes, fromUtf8_asBytes] at hsome
        exact (Option.some.inj hsome).symm
      rw [hname, ih (fun other hother => hshort other (List.mem_cons_of_mem _ hother))
        (fun other hother => hshort' other (List.mem_cons_of_mem _ hother)) hrest]

end Names

section Boards
variable {B : Build} {S : Schema} {r r' : ByteReader}

def endpointBytes (ep : S.DataEndpoint) : List UInt8 := encodeLE 4 ep.val

theorem endpointFromU32_eq_some {n : Nat} {ep : S.DataEndpoint} :
    S.endpointFromU32 n = some ep ↔ ep.val = n := by
  unfold Schema.endpointFromU32
  split
  · rw [Option.some.injEq, Fin.ext_iff]
    exact eq_comm
  · rename_i hlarge
    have hlt := ep.isLt
    simp only [reduceCtorEq, false_iff]
    omega

theorem endpoint_lt (ep : S.DataEndpoint) : ep.val < 2 ^ 32 :=
  Nat.lt_of_lt_of_le ep.isLt S.endpointCount_le

theorem takeEndpoints_eq_ok {count : Nat} {eps : List S.DataEndpoint} :
    takeEndpoints S count r = .ok (eps, r') ↔
      ∃ all : List S.DataEndpoint, all.length = count ∧
        eps = all.filter (fun ep => !S.isDiscoveryEndpoint ep) ∧
        r.Reads (all.flatMap endpointBytes) r' := by
  induction count generalizing r r' eps with
  | zero =>
    simp only [takeEndpoints, Except.ok.injEq, Prod.mk.injEq, List.length_eq_zero_iff]
    constructor
    · rintro ⟨rfl, rfl⟩
      exact ⟨[], rfl, rfl, ByteReader.reads_nil.mpr rfl⟩
    · rintro ⟨all, rfl, rfl, hreads⟩
      exact ⟨rfl, (ByteReader.reads_nil.mp hreads).symm⟩
  | succ count ih =>
    simp only [takeEndpoints, bind_eq_ok, Prod.exists, takeWord_eq_ok, okOr_eq_ok,
      endpointFromU32_eq_some, ih, Except.ok.injEq, Prod.mk.injEq]
    constructor
    · rintro ⟨_, r₁, ⟨hlt, hep⟩, ep, rfl, _, r₂, ⟨all, rfl, rfl, hrest⟩, rfl, rfl⟩
      refine ⟨ep :: all, rfl, ?_, ByteReader.reads_append.mpr ⟨r₁, hep, hrest⟩⟩
      cases hdiscovery : S.isDiscoveryEndpoint ep <;> simp [hdiscovery]
    · rintro ⟨all, hcount, rfl, hreads⟩
      obtain ⟨ep, rest, rfl⟩ := List.exists_cons_of_length_eq_add_one hcount
      obtain ⟨r₁, hep, hrest⟩ := ByteReader.reads_append.mp hreads
      refine ⟨_, r₁, ⟨endpoint_lt ep, hep⟩, ep, rfl, _, r', ⟨rest, by simpa using hcount, rfl,
        hrest⟩, ?_, rfl⟩
      cases hdiscovery : S.isDiscoveryEndpoint ep <;> simp [hdiscovery]

/-- A list of names on the wire. -/
def namesBytes (names : List String) : List UInt8 :=
  encodeLE 4 names.length ++ names.flatMap nameBytes

def endpointsBytes (eps : List S.DataEndpoint) : List UInt8 :=
  encodeLE 4 eps.length ++ eps.flatMap endpointBytes

/-- A board on the wire. -/
def boardBytes (board : TopologyBoardNode S) : List UInt8 :=
  nameBytes board.senderId ++ (endpointsBytes board.reachableEndpoints ++
    (namesBytes board.reachableTimesyncSources ++ namesBytes board.connections))

/-- A list that has a `u32` for its count, and a vector of that capacity. -/
def CountFits (B : Build) (count size : Nat) : Prop := count < 2 ^ 32 ∧ count * size ≤ B.isizeMax

/-- What has lengths and counts, and is read into vectors of these. -/
structure ShortBoard (B : Build) (board : TopologyBoardNode S) : Prop where
  sender : ShortName board.senderId
  endpoints : CountFits B board.reachableEndpoints.length endpointSize
  sources : CountFits B board.reachableTimesyncSources.length (stringSize B)
  connections : CountFits B board.connections.length (stringSize B)
  sourceNames : ∀ name ∈ board.reachableTimesyncSources, ShortName name
  connectionNames : ∀ name ∈ board.connections, ShortName name

/-- A board without what its decoder drops. -/
def keptBoard (board : TopologyBoardNode S) : TopologyBoardNode S where
  senderId := board.senderId
  reachableEndpoints := board.reachableEndpoints.filter fun ep => !S.isDiscoveryEndpoint ep
  reachableTimesyncSources := board.reachableTimesyncSources.filter fun name => !name.isEmpty
  connections := board.connections.filter fun name => !name.isEmpty

theorem allocate_returns_iff {n : Nat} {u : Unit} : B.allocate n = .ok u ↔ n ≤ B.isizeMax :=
  Build.allocate_eq_ok B

theorem takeBoardNames_eq_ok {count label : String} {names : List String} :
    takeBoardNames B count label r = .ok (names, r') ↔
      ∃ all : List String, CountFits B all.length (stringSize B) ∧ (∀ name ∈ all, ShortName name) ∧
        names = all.filter (fun name => !name.isEmpty) ∧ r.Reads (namesBytes all) r' := by
  unfold takeBoardNames namesBytes
  simp only [bind_eq_ok, Prod.exists, takeWord_eq_ok, allocate_returns_iff, takeNames_eq_ok,
    ByteReader.reads_append]
  constructor
  · rintro ⟨_, r₁, ⟨hlt, hword⟩, ⟨⟩, hsize, all, rfl, hshort, rfl, hrest⟩
    exact ⟨all, ⟨hlt, hsize⟩, hshort, rfl, r₁, hword, hrest⟩
  · rintro ⟨all, ⟨hlt, hsize⟩, hshort, rfl, r₁, hword, hrest⟩
    exact ⟨_, r₁, ⟨hlt, hword⟩, (), hsize, all, rfl, hshort, rfl, hrest⟩

theorem takeBoard_eq_ok {board : TopologyBoardNode S} :
    takeBoard B S r = .ok (board, r') ↔
      ∃ raw, ShortBoard B raw ∧ board = keptBoard raw ∧ r.Reads (boardBytes raw) r' := by
  unfold takeBoard decodeString boardBytes endpointsBytes
  simp only [bind_eq_ok, Prod.exists, takeString_eq_ok, takeWord_eq_ok, allocate_returns_iff,
    takeEndpoints_eq_ok, takeBoardNames_eq_ok, Except.ok.injEq, Prod.mk.injEq,
    ByteReader.reads_append]
  constructor
  · rintro ⟨sender, r₁, ⟨hsender, hname⟩, _, r₂, ⟨hlt, hcount⟩, ⟨⟩, hsize, _, r₃,
      ⟨eps, rfl, rfl, heps⟩, _, r₄, ⟨sources, hsources, hsourceNames, rfl, hsourceBytes⟩, _, r₅,
      ⟨connections, hconnections, hconnectionNames, rfl, hconnectionBytes⟩, rfl, rfl⟩
    exact ⟨⟨sender, eps, sources, connections⟩, ⟨hsender, ⟨hlt, hsize⟩, hsources, hconnections,
      hsourceNames, hconnectionNames⟩, rfl, r₁, hname, r₃, ⟨r₂, hcount, heps⟩, r₄, hsourceBytes,
      hconnectionBytes⟩
  · rintro ⟨⟨sender, eps, sources, connections⟩, ⟨hsender, ⟨hlt, hsize⟩, hsources, hconnections,
      hsourceNames, hconnectionNames⟩, rfl, r₁, hname, r₃, ⟨r₂, hcount, heps⟩, r₄, hsourceBytes,
      hconnectionBytes⟩
    exact ⟨sender, r₁, ⟨hsender, hname⟩, _, r₂, ⟨hlt, hcount⟩, (), hsize, _, r₃,
      ⟨eps, rfl, rfl, heps⟩, _, r₄, ⟨sources, hsources, hsourceNames, rfl, hsourceBytes⟩, _, r',
      ⟨connections, hconnections, hconnectionNames, rfl, hconnectionBytes⟩, rfl, rfl⟩

theorem takeBoards_eq_ok {count : Nat} {boards : List (TopologyBoardNode S)} :
    takeBoards B S count r = .ok (boards, r') ↔
      ∃ raws : List (TopologyBoardNode S), raws.length = count ∧ (∀ raw ∈ raws, ShortBoard B raw) ∧
        boards = raws.map keptBoard ∧ r.Reads (raws.flatMap boardBytes) r' := by
  induction count generalizing r r' boards with
  | zero =>
    simp only [takeBoards, Except.ok.injEq, Prod.mk.injEq, List.length_eq_zero_iff]
    constructor
    · rintro ⟨rfl, rfl⟩
      exact ⟨[], rfl, by simp, rfl, ByteReader.reads_nil.mpr rfl⟩
    · rintro ⟨raws, rfl, -, rfl, hreads⟩
      exact ⟨rfl, (ByteReader.reads_nil.mp hreads).symm⟩
  | succ count ih =>
    simp only [takeBoards, bind_eq_ok, Prod.exists, takeBoard_eq_ok, ih, Except.ok.injEq,
      Prod.mk.injEq]
    constructor
    · rintro ⟨_, r₁, ⟨raw, hshort, rfl, hraw⟩, _, r₂, ⟨raws, rfl, hraws, rfl, hrest⟩, rfl, rfl⟩
      exact ⟨raw :: raws, rfl, by simpa using ⟨hshort, hraws⟩, rfl,
        ByteReader.reads_append.mpr ⟨r₁, hraw, hrest⟩⟩
    · rintro ⟨raws, hcount, hraws, rfl, hreads⟩
      obtain ⟨raw, rest, rfl⟩ := List.exists_cons_of_length_eq_add_one hcount
      obtain ⟨r₁, hraw, hrest⟩ := ByteReader.reads_append.mp hreads
      exact ⟨_, r₁, ⟨raw, hraws raw List.mem_cons_self, rfl, hraw⟩, _, r', ⟨rest,
        by simpa using hcount, fun other hother => hraws other (List.mem_cons_of_mem _ hother), rfl,
        hrest⟩, rfl, rfl⟩

end Boards

section Payloads
variable {B : Build} {S : Schema} {payload : List UInt8}

/-- The time-source decoder accepts the lists of names. -/
theorem decodeDiscoveryTimesyncSourcesPayload_eq_ok {out : List String} :
    decodeDiscoveryTimesyncSourcesPayload B payload = .ok out ↔
      ∃ all : List String, CountFits B all.length (stringSize B) ∧ (∀ name ∈ all, ShortName name) ∧
        payload = namesBytes all ∧ out = sortDedup (all.filter fun name => !name.isEmpty) := by
  unfold decodeDiscoveryTimesyncSourcesPayload
  simp only [bind_eq_ok, Prod.exists, takeWord_eq_ok, allocate_returns_iff, takeNames_eq_ok,
    ensure_eq_ok, Except.ok.injEq]
  constructor
  · rintro ⟨_, r₁, ⟨hlt, hword⟩, _, hsize, _, r₂, ⟨all, rfl, hshort, rfl, hnames⟩, _, hend, rfl⟩
    exact ⟨all, ⟨hlt, hsize⟩, hshort,
      ByteReader.reads_all.mp ⟨r₂, ByteReader.reads_append.mpr ⟨r₁, hword, hnames⟩, hend⟩, rfl⟩
  · rintro ⟨all, ⟨hlt, hsize⟩, hshort, hpayload, rfl⟩
    obtain ⟨r₂, hreads, hend⟩ := ByteReader.reads_all.mpr hpayload
    obtain ⟨r₁, hword, hnames⟩ := ByteReader.reads_append.mp hreads
    exact ⟨_, r₁, ⟨hlt, hword⟩, (), hsize, _, r₂, ⟨all, rfl, hshort, rfl, hnames⟩, (), hend, rfl⟩

/-- The topology decoder accepts the lists of boards. -/
theorem decodeDiscoveryTopologyPayload_eq_ok {out : List (TopologyBoardNode S)} :
    decodeDiscoveryTopologyPayload B S payload = .ok out ↔
      ∃ raws : List (TopologyBoardNode S), CountFits B raws.length (topologyBoardSize B) ∧
        (∀ raw ∈ raws, ShortBoard B raw) ∧
        payload = encodeLE 4 raws.length ++ raws.flatMap boardBytes ∧
        out = normalizeTopologyBoards (raws.map keptBoard) := by
  unfold decodeDiscoveryTopologyPayload
  simp only [bind_eq_ok, Prod.exists, takeWord_eq_ok, allocate_returns_iff, takeBoards_eq_ok,
    ensure_eq_ok, Except.ok.injEq]
  constructor
  · rintro ⟨_, r₁, ⟨hlt, hword⟩, _, hsize, _, r₂, ⟨raws, rfl, hshort, rfl, hboards⟩, _, hend, rfl⟩
    exact ⟨raws, ⟨hlt, hsize⟩, hshort,
      ByteReader.reads_all.mp ⟨r₂, ByteReader.reads_append.mpr ⟨r₁, hword, hboards⟩, hend⟩, rfl⟩
  · rintro ⟨raws, ⟨hlt, hsize⟩, hshort, hpayload, rfl⟩
    obtain ⟨r₂, hreads, hend⟩ := ByteReader.reads_all.mpr hpayload
    obtain ⟨r₁, hword, hboards⟩ := ByteReader.reads_append.mp hreads
    exact ⟨_, r₁, ⟨hlt, hword⟩, (), hsize, _, r₂, ⟨raws, rfl, hshort, rfl, hboards⟩, (), hend, rfl⟩

theorem decodeEndpointWords_flatMap (eps : List S.DataEndpoint) :
    decodeEndpointWords S (eps.flatMap endpointBytes) =
      .ok (eps.filter fun ep => !S.isDiscoveryEndpoint ep) := by
  induction eps with
  | nil => rfl
  | cons ep rest ih =>
    obtain ⟨b₀, b₁, b₂, b₃, hbytes⟩ : ∃ b₀ b₁ b₂ b₃, endpointBytes ep = [b₀, b₁, b₂, b₃] :=
      ⟨_, _, _, _, rfl⟩
    have hword : (u32FromLeBytes [b₀, b₁, b₂, b₃]).toNat = ep.val := by
      rw [← hbytes, endpointBytes, u32FromLeBytes, decodeLE_encodeLE_of_lt (endpoint_lt ep),
        UInt32.toNat_ofNat_of_lt' (endpoint_lt ep)]
    rw [List.flatMap_cons, hbytes]
    simp only [List.cons_append, List.nil_append, decodeEndpointWords]
    rw [hword, endpointFromU32_eq_some.mpr rfl, ih]
    cases hdiscovery : S.isDiscoveryEndpoint ep <;> simp [okOr, hdiscovery]

theorem length_flatMap_endpointBytes (eps : List S.DataEndpoint) :
    (eps.flatMap endpointBytes).length = 4 * eps.length := by
  induction eps with
  | nil => rfl
  | cons ep rest ih =>
    rw [List.flatMap_cons, List.length_append, ih, endpointBytes, encodeLE_length, List.length_cons]
    omega

theorem decodeDiscoveryPayload_flatMap (eps : List S.DataEndpoint) :
    decodeDiscoveryPayload S (eps.flatMap endpointBytes) =
      .ok (sortDedup (eps.filter fun ep => !S.isDiscoveryEndpoint ep)) := by
  unfold decodeDiscoveryPayload
  rw [ensure_of (by rw [length_flatMap_endpointBytes]; omega), ok_bind, decodeEndpointWords_flatMap,
    ok_bind]

end Payloads

section Building
variable (B : Build) {S : Schema} (d : DiscoveryTypes S.DataType) (discovery : S.DataEndpoint)
  (sender : String) (timestampMs : UInt64)

/-- `build_discovery_announce`. The words of a slice of endpoints are no larger than the slice. -/
def buildDiscoveryAnnounce (endpoints : List S.DataEndpoint) : Outcome (Packet S) :=
  Packet.new B d.announce [discovery] sender timestampMs (endpoints.flatMap endpointBytes)

/-- The length of a name as `u32`, and its bytes. -/
def writeName (label name : String) : Outcome (List UInt8) := do
  ensure ((asBytes name).length < 2 ^ 32) (.serialize label)
  .ok (encodeLE 4 (asBytes name).length ++ asBytes name)

def writeNames (label : String) : List String → Outcome (List UInt8)
  | [] => .ok []
  | name :: rest => do
    let bytes ← writeName label name
    let more ← writeNames label rest
    .ok (bytes ++ more)

/-- `build_discovery_timesync_sources`. The count is cast to `u32`. -/
def buildDiscoveryTimesyncSources (sources : List String) : Outcome (Packet S) := do
  let deduped := sortDedup sources
  let names ← writeNames "discovery source id too long" deduped
  Packet.new B d.timeSyncSources [discovery] sender timestampMs (encodeLE 4 deduped.length ++ names)

/-- The loop body of `build_discovery_topology`. -/
def writeBoard (board : TopologyBoardNode S) : Outcome (List UInt8) := do
  let id ← writeName "discovery topology sender id too long" board.senderId
  let sources ← writeNames "discovery topology source id too long" board.reachableTimesyncSources
  let connections ← writeNames "discovery topology connection id too long" board.connections
  .ok (id ++ (encodeLE 4 board.reachableEndpoints.length ++
      board.reachableEndpoints.flatMap fun ep => encodeLE 4 ep.val) ++
    (encodeLE 4 board.reachableTimesyncSources.length ++ sources) ++
    (encodeLE 4 board.connections.length ++ connections))

def writeBoards : List (TopologyBoardNode S) → Outcome (List UInt8)
  | [] => .ok []
  | board :: rest => do
    let bytes ← writeBoard board
    let more ← writeBoards rest
    .ok (bytes ++ more)

/-- `build_discovery_topology`. -/
def buildDiscoveryTopology (boards : List (TopologyBoardNode S)) : Outcome (Packet S) := do
  let normalized := normalizeTopologyBoards boards
  let bytes ← writeBoards normalized
  Packet.new B d.topology [discovery] sender timestampMs (encodeLE 4 normalized.length ++ bytes)

variable {d} (pkt : Packet S)

def decodeDiscoveryAnnounce (d : DiscoveryTypes S.DataType) : Outcome (List S.DataEndpoint) := do
  ensure (pkt.ty = d.announce) .invalidType
  decodeDiscoveryPayload S pkt.payload.asSlice

def decodeDiscoveryTimesyncSources (d : DiscoveryTypes S.DataType) : Outcome (List String) := do
  ensure (pkt.ty = d.timeSyncSources) .invalidType
  decodeDiscoveryTimesyncSourcesPayload B pkt.payload.asSlice

def decodeDiscoveryTopology (d : DiscoveryTypes S.DataType) :
    Outcome (List (TopologyBoardNode S)) := do
  ensure (pkt.ty = d.topology) .invalidType
  decodeDiscoveryTopologyPayload B S pkt.payload.asSlice

end Building

section Written
variable {S : Schema} {label : String} {bytes : List UInt8}

theorem writeNames_eq_ok {names : List String} :
    writeNames label names = .ok bytes ↔
      (∀ name ∈ names, ShortName name) ∧ bytes = names.flatMap nameBytes := by
  induction names generalizing bytes with
  | nil => simp [writeNames, eq_comm]
  | cons name rest ih =>
    simp only [writeNames, writeName, bind_eq_ok, ensure_eq_ok, ih, Except.ok.injEq,
      List.forall_mem_cons]
    constructor
    · rintro ⟨_, ⟨_, hshort, rfl⟩, _, ⟨hrest, rfl⟩, rfl⟩
      exact ⟨⟨hshort, hrest⟩, rfl⟩
    · rintro ⟨⟨hshort, hrest⟩, rfl⟩
      exact ⟨_, ⟨(), hshort, rfl⟩, _, ⟨hrest, rfl⟩, rfl⟩

/-- The names of a board have lengths. -/
structure ShortNames (board : TopologyBoardNode S) : Prop where
  sender : ShortName board.senderId
  sources : ∀ name ∈ board.reachableTimesyncSources, ShortName name
  connections : ∀ name ∈ board.connections, ShortName name

theorem writeBoard_eq {board : TopologyBoardNode S} (h : ShortNames board) :
    writeBoard board = .ok (boardBytes board) := by
  have hsender : ∀ label, writeName label board.senderId = .ok (nameBytes board.senderId) :=
    fun label => by
      have hlength : (asBytes board.senderId).length < 2 ^ 32 := h.sender
      rw [writeName, ensure_of hlength]
      rfl
  unfold writeBoard
  rw [hsender, writeNames_eq_ok.mpr ⟨h.sources, rfl⟩, writeNames_eq_ok.mpr ⟨h.connections, rfl⟩]
  simp only [ok_bind, boardBytes, namesBytes, endpointsBytes, List.append_assoc]
  rfl

theorem writeBoards_eq {boards : List (TopologyBoardNode S)} (h : ∀ board ∈ boards, ShortNames board) :
    writeBoards boards = .ok (boards.flatMap boardBytes) := by
  induction boards with
  | nil => rfl
  | cons board rest ih =>
    rw [writeBoards, writeBoard_eq (h board List.mem_cons_self),
      ih fun other hother => h other (List.mem_cons_of_mem _ hother)]
    rfl

end Written
end Sedsprintf
