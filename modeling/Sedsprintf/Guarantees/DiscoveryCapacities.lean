import Sedsprintf.Discovery.Capacities
import Sedsprintf.Wire.Identity

/-!
# Discovery payloads from strangers

The decoders never leave the payload, and no addition of theirs overflows. What they trust are the
counts: every count that they come to is a capacity before anything that it counts has been read.
-/
namespace Sedsprintf

open Lib

section Counts
variable (B : Build) {S : Schema}

/-- A board whose lengths and counts are numbers of 32 bits. -/
structure CountedBoard (board : TopologyBoardNode S) : Prop extends ShortNames board where
  endpoints : board.reachableEndpoints.length < 2 ^ 32
  sourceCount : board.reachableTimesyncSources.length < 2 ^ 32
  connectionCount : board.connections.length < 2 ^ 32

/-- Bytes that start with a count, of elements of a size. -/
inductive CountAhead (size : Nat) : List UInt8 → Nat × Nat → Prop where
  | count {n : Nat} {rest : List UInt8} (short : n < 2 ^ 32) :
    CountAhead size (encodeLE 4 n ++ rest) (n, size)

/-- Bytes that start with a board up to one of its three counts. -/
inductive BoardCount (S : Schema) : List UInt8 → Nat × Nat → Prop where
  | endpoints {sender : String} {rest : List UInt8} {ask : Nat × Nat} (short : ShortName sender)
      (count : CountAhead endpointSize rest ask) : BoardCount S (nameBytes sender ++ rest) ask
  | sources {sender : String} {eps : List S.DataEndpoint} {rest : List UInt8} {ask : Nat × Nat}
      (short : ShortName sender) (shortEndpoints : eps.length < 2 ^ 32)
      (count : CountAhead (stringSize B) rest ask) :
    BoardCount S (nameBytes sender ++ (endpointsBytes eps ++ rest)) ask
  | connections {sender : String} {eps : List S.DataEndpoint} {sources : List String}
      {rest : List UInt8} {ask : Nat × Nat} (short : ShortName sender)
      (shortEndpoints : eps.length < 2 ^ 32) (shortSources : sources.length < 2 ^ 32)
      (shortNames : ∀ name ∈ sources, ShortName name)
      (count : CountAhead (stringSize B) rest ask) :
    BoardCount S (nameBytes sender ++ (endpointsBytes eps ++ (namesBytes sources ++ rest))) ask

/-- Bytes that start with so many boards, up to a count of one of them. -/
inductive BoardsCount (S : Schema) : (boards : Nat) → List UInt8 → Nat × Nat → Prop where
  | here {boards : Nat} {ahead : List UInt8} {ask : Nat × Nat} (board : BoardCount B S ahead ask) :
    BoardsCount S (boards + 1) ahead ask
  | behind {boards : Nat} {board : TopologyBoardNode S} {rest : List UInt8} {ask : Nat × Nat}
      (counted : CountedBoard board) (further : BoardsCount S boards rest ask) :
    BoardsCount S (boards + 1) (boardBytes board ++ rest) ask

/-- The counts of a topology payload: of its boards, and of those in a board that is reached. -/
inductive TopologyCount (S : Schema) : List UInt8 → Nat × Nat → Prop where
  | boards {payload : List UInt8} {ask : Nat × Nat}
      (count : CountAhead (topologyBoardSize B) payload ask) : TopologyCount S payload ask
  | board {n : Nat} {rest : List UInt8} {ask : Nat × Nat} (short : n < 2 ^ 32)
      (reached : BoardsCount B S n rest ask) : TopologyCount S (encodeLE 4 n ++ rest) ask

/-- The one count of a time-source payload. -/
abbrev SourceCount (payload : List UInt8) (ask : Nat × Nat) : Prop :=
  CountAhead (stringSize B) payload ask

end Counts

section Modest
variable {B : Build} {S : Schema} {α β : Type} {P : Nat × Nat → Prop} {r : ByteReader}

/-- A decoder that does not panic, and asks only for what is as `P` says. -/
structure Modest (P : Nat × Nat → Prop) (x : Asking α) : Prop where
  returns : NeverPanics x.result
  asks : x.Notes P

theorem modest_bind_iff {x : Asking α} {f : α → Asking β} :
    Modest P (x >>= f) ↔ Modest P x ∧ ∀ a, x.result = .ok a → Modest P (f a) := by
  constructor
  · rintro ⟨hreturns, hasks⟩
    rw [Traced.bind_result, NeverPanics.bind_iff] at hreturns
    rw [Traced.notes_bind_iff] at hasks
    exact ⟨⟨hreturns.1, hasks.1⟩, fun a ha => ⟨hreturns.2 a ha, hasks.2 a ha⟩⟩
  · rintro ⟨⟨hreturns, hasks⟩, hrest⟩
    constructor
    · rw [Traced.bind_result]
      exact hreturns.bind fun a ha => (hrest a ha).returns
    · rw [Traced.notes_bind_iff]
      exact ⟨hasks, fun a ha => (hrest a ha).asks⟩

theorem modest_of_iff {x : Outcome α} : Modest P (.of x) ↔ NeverPanics x :=
  ⟨fun h => h.returns, fun h => ⟨h, fun w hw => by cases hw⟩⟩

theorem modest_pure (a : α) : Modest P (pure a : Asking α) :=
  ⟨.ok a, fun w hw => by cases hw⟩

/-- As `P` says, and what an allocator can give. -/
structure Affords (B : Build) (P : Nat × Nat → Prop) (ask : Nat × Nat) : Prop where
  allowed : P ask
  given : ask.1 * ask.2 ≤ B.isizeMax

theorem allocate_returns {n : Nat} : NeverPanics (B.allocate n) ↔ n ≤ B.isizeMax := by
  unfold Build.allocate
  split
  · rename_i hfits
    exact ⟨fun _ => hfits, fun _ => .ok _⟩
  · rename_i hlarge
    exact ⟨fun h => absurd h NeverPanics.not_panics, fun h => absurd h hlarge⟩

theorem modest_withCapacity_bind_iff {n size : Nat} {f : Unit → Asking β} :
    Modest P (withCapacity B n size >>= f) ↔ Affords B P (n, size) ∧ Modest P (f ()) := by
  rw [modest_bind_iff]
  constructor
  · rintro ⟨⟨hreturns, hasks⟩, hrest⟩
    have hgiven : n * size ≤ B.isizeMax := allocate_returns.mp hreturns
    exact ⟨⟨hasks _ List.mem_cons_self, hgiven⟩, hrest () ((Build.allocate_eq_ok B).mpr hgiven)⟩
  · rintro ⟨⟨hallowed, hgiven⟩, hrest⟩
    refine ⟨⟨allocate_returns.mpr hgiven, fun w hw => ?_⟩, fun _ _ => hrest⟩
    rwa [List.mem_singleton.mp hw]

end Modest

section Reads
variable {B : Build} {S : Schema} {β : Type} {P : Nat × Nat → Prop} {r r' : ByteReader}
  {label len bytes utf8 : String}

/-- What has not been read. -/
def ByteReader.rest (r : ByteReader) : List UInt8 := r.buf.drop r.off

theorem ByteReader.Reads.rest_eq {read : List UInt8} (h : r.Reads read r') :
    r.rest = read ++ r'.rest := h.1

/-- Bytes in front of a reader can be read. -/
theorem ByteReader.exists_reads {read rest : List UInt8} (h : r.rest = read ++ rest) :
    ∃ r', r.Reads read r' ∧ r'.rest = rest := by
  have hrest : r.buf.drop (r.off + read.length) = rest := by
    rw [← List.drop_drop]
    show (r.rest).drop read.length = rest
    rw [h, List.drop_left]
  exact ⟨{ r with off := r.off + read.length }, ⟨by rw [hrest]; exact h, rfl⟩, hrest⟩

theorem takeBytes_returns (n : Nat) : NeverPanics (takeBytes label r n) := by
  unfold takeBytes
  split
  · exact .fail _
  · exact .ok _

theorem takeWord_returns : NeverPanics (takeWord label r) :=
  (takeBytes_returns 4).bind fun _ _ => .ok _

theorem takeString_returns : NeverPanics (takeString len bytes utf8 r) :=
  takeWord_returns.bind fun _ _ => (takeBytes_returns _).bind fun _ _ =>
    (NeverPanics.okOr _ _).bind fun _ _ => .ok _

theorem takeNames_returns (count : Nat) : NeverPanics (takeNames len bytes utf8 count r) := by
  induction count generalizing r with
  | zero => exact .ok _
  | succ count ih => exact takeString_returns.bind fun _ _ => ih.bind fun _ _ => .ok _

theorem takeEndpoints_returns (count : Nat) : NeverPanics (takeEndpoints S count r) := by
  induction count generalizing r with
  | zero => exact .ok _
  | succ count ih =>
    exact takeWord_returns.bind fun _ _ => (NeverPanics.okOr _ _).bind fun _ _ =>
      ih.bind fun _ _ => .ok _

/-- Behind a part that asks for nothing. -/
theorem modest_of_bind_iff {α : Type} {x : Outcome α} {f : α → Asking β} (hx : NeverPanics x) :
    Modest P (.of x >>= f) ↔ ∀ a, x = .ok a → Modest P (f a) := by
  rw [modest_bind_iff, modest_of_iff, and_iff_right hx, Traced.of_result]

theorem modest_word_iff (h : r.Within B) {f : Nat × ByteReader → Asking β} :
    Modest P (.of (sliceWord B label r) >>= f) ↔
      ∀ n r', n < 2 ^ 32 → r.Reads (encodeLE 4 n) r' → Modest P (f (n, r')) := by
  rw [sliceWord_eq h, modest_of_bind_iff takeWord_returns]
  simp only [Prod.forall, takeWord_eq_ok, and_imp]

theorem modest_string_iff (h : r.Within B) {f : String × ByteReader → Asking β} :
    Modest P (.of (sliceString B len bytes utf8 r) >>= f) ↔
      ∀ name r', ShortName name → r.Reads (nameBytes name) r' → Modest P (f (name, r')) := by
  rw [sliceString_eq h, modest_of_bind_iff takeString_returns]
  simp only [Prod.forall, takeString_eq_ok, and_imp]

theorem modest_endpoints_iff (h : r.Within B) {count : Nat}
    {f : List S.DataEndpoint × ByteReader → Asking β} :
    Modest P (.of (sliceEndpoints B S count r) >>= f) ↔
      ∀ (all : List S.DataEndpoint) r', all.length = count → r.Reads (all.flatMap endpointBytes) r' →
        Modest P (f (all.filter (fun ep => !S.isDiscoveryEndpoint ep), r')) := by
  rw [sliceEndpoints_eq count h, modest_of_bind_iff (takeEndpoints_returns count)]
  simp only [Prod.forall, takeEndpoints_eq_ok]
  exact ⟨fun hall all r' hlength hreads => hall _ r' ⟨all, hlength, rfl, hreads⟩,
    fun hall _ r' ⟨all, hlength, heps, hreads⟩ => heps ▸ hall all r' hlength hreads⟩

/-- A count, and the vector for it. -/
theorem modest_count_iff (h : r.Within B) {size : Nat}
    {f : Nat → ByteReader → Asking β} :
    Modest P (.of (sliceWord B label r) >>= fun read =>
        withCapacity B read.1 size >>= fun _ => f read.1 read.2) ↔
      (∀ ask, CountAhead size r.rest ask → Affords B P ask) ∧
        ∀ n r', CountFits B n size → r.Reads (encodeLE 4 n) r' → Modest P (f n r') := by
  rw [modest_word_iff h]
  simp only [modest_withCapacity_bind_iff]
  constructor
  · intro hword
    constructor
    · intro ask hask
      generalize hrest : r.rest = bytes at hask
      obtain ⟨hn⟩ := hask
      obtain ⟨r', hreads, -⟩ := ByteReader.exists_reads hrest
      exact (hword _ r' hn hreads).1
    · intro n r' hfits hreads
      exact (hword n r' hfits.1 hreads).2
  · rintro ⟨hasks, hafter⟩ n r' hn hreads
    have hask : Affords B P (n, size) := hasks _ (hreads.rest_eq ▸ .count hn)
    exact ⟨hask, hafter n r' ⟨hn, hask.given⟩ hreads⟩

theorem modest_boardEndpoints_iff (h : r.Within B)
    {f : List S.DataEndpoint × ByteReader → Asking β} :
    Modest P (.of (sliceWord B label r) >>= fun read =>
        withCapacity B read.1 endpointSize >>= fun _ =>
          .of (sliceEndpoints B S read.1 read.2) >>= f) ↔
      (∀ ask, CountAhead endpointSize r.rest ask → Affords B P ask) ∧
        ∀ (eps : List S.DataEndpoint) r', CountFits B eps.length endpointSize →
          r.Reads (endpointsBytes eps) r' →
          Modest P (f (eps.filter (fun ep => !S.isDiscoveryEndpoint ep), r')) := by
  rw [modest_count_iff h (f := fun n r => .of (sliceEndpoints B S n r) >>= f)]
  refine and_congr_right fun _ => ?_
  constructor
  · intro hafter eps r' hfits hreads
    obtain ⟨r₁, hword, heps⟩ := ByteReader.reads_append.mp hreads
    exact (modest_endpoints_iff (hword.within h)).mp (hafter _ r₁ hfits hword) eps r' rfl heps
  · intro hafter n r₁ hfits hword
    refine (modest_endpoints_iff (hword.within h)).mpr ?_
    rintro eps r' rfl heps
    exact hafter eps r' hfits (ByteReader.reads_append.mpr ⟨r₁, hword, heps⟩)

theorem modest_boardNames_iff (h : r.Within B) :
    Modest P (askingBoardNames B len label r) ↔
      ∀ ask, CountAhead (stringSize B) r.rest ask → Affords B P ask := by
  unfold askingBoardNames
  rw [modest_count_iff h (f := fun n r => .of (sliceNames B label label label n r))]
  refine and_iff_left_of_imp fun _ n r' _ hreads => ?_
  rw [modest_of_iff, sliceNames_eq _ _ _ _ (hreads.within h)]
  exact takeNames_returns n

theorem modest_boardNames_bind_iff (h : r.Within B)
    {f : List String × ByteReader → Asking β} :
    Modest P (askingBoardNames B len label r >>= f) ↔
      (∀ ask, CountAhead (stringSize B) r.rest ask → Affords B P ask) ∧
        ∀ (names : List String) r', CountFits B names.length (stringSize B) →
          (∀ name ∈ names, ShortName name) → r.Reads (namesBytes names) r' →
          Modest P (f (names.filter (fun name => !name.isEmpty), r')) := by
  rw [modest_bind_iff, modest_boardNames_iff h, askingBoardNames_result _ _ h]
  refine and_congr_right fun _ => ?_
  simp only [Prod.forall, takeBoardNames_eq_ok]
  exact ⟨fun hall names r' hfits hshort hreads => hall _ r' ⟨names, hfits, hshort, rfl, hreads⟩,
    fun hall _ r' ⟨names, hfits, hshort, hnames, hreads⟩ =>
      hnames ▸ hall names r' hfits hshort hreads⟩

end Reads

section Payloads
variable {B : Build} {S : Schema} {P : Nat × Nat → Prop} {r : ByteReader}

theorem CountAhead.endpoints {ahead rest : List UInt8} {eps : List S.DataEndpoint}
    (hahead : ahead = endpointsBytes eps ++ rest) (h : eps.length < 2 ^ 32) :
    CountAhead endpointSize ahead (eps.length, endpointSize) := by
  rw [hahead, endpointsBytes, List.append_assoc]
  exact .count h

theorem CountAhead.names {ahead rest : List UInt8} {names : List String}
    (hahead : ahead = namesBytes names ++ rest) (h : names.length < 2 ^ 32) :
    CountAhead (stringSize B) ahead (names.length, stringSize B) := by
  rw [hahead, namesBytes, List.append_assoc]
  exact .count h

/-- The counts of a board are what its decoder asks for. -/
theorem modest_board_iff (h : r.Within B) :
    Modest P (askingBoard B S r) ↔ ∀ ask, BoardCount B S r.rest ask → Affords B P ask := by
  unfold askingBoard
  rw [modest_string_iff h]
  constructor
  · intro hboard ask hask
    generalize hrest : r.rest = bytes at hask
    cases hask with
    | endpoints hsender hcount =>
      obtain ⟨r₁, hname, rfl⟩ := ByteReader.exists_reads hrest
      have hafter := (modest_boardEndpoints_iff (hname.within h)).mp (hboard _ r₁ hsender hname)
      exact hafter.1 ask hcount
    | sources hsender hendpoints hcount =>
      obtain ⟨r₁, hname, hrest₁⟩ := ByteReader.exists_reads hrest
      have hafter := (modest_boardEndpoints_iff (hname.within h)).mp (hboard _ r₁ hsender hname)
      have hepsFit := (hafter.1 _ (.endpoints hrest₁ hendpoints)).given
      obtain ⟨r₂, heps, rfl⟩ := ByteReader.exists_reads hrest₁
      have hafter := (modest_boardNames_bind_iff (heps.within (hname.within h))).mp
        (hafter.2 _ r₂ ⟨hendpoints, hepsFit⟩ heps)
      exact hafter.1 ask hcount
    | connections hsender hendpoints hsources hnames hcount =>
      obtain ⟨r₁, hname, hrest₁⟩ := ByteReader.exists_reads hrest
      have hafter := (modest_boardEndpoints_iff (hname.within h)).mp (hboard _ r₁ hsender hname)
      have hepsFit := (hafter.1 _ (.endpoints hrest₁ hendpoints)).given
      obtain ⟨r₂, heps, hrest₂⟩ := ByteReader.exists_reads hrest₁
      have hwithin := heps.within (hname.within h)
      have hafter := (modest_boardNames_bind_iff hwithin).mp
        (hafter.2 _ r₂ ⟨hendpoints, hepsFit⟩ heps)
      have hsourcesFit := (hafter.1 _ (.names hrest₂ hsources)).given
      obtain ⟨r₃, hread, rfl⟩ := ByteReader.exists_reads hrest₂
      have hafter := (modest_boardNames_bind_iff (hread.within hwithin)).mp
        (hafter.2 _ r₃ ⟨hsources, hsourcesFit⟩ hnames hread)
      exact hafter.1 ask hcount
  · intro hasks sender r₁ hsender hname
    have hrest₁ := hname.rest_eq
    refine (modest_boardEndpoints_iff (hname.within h)).mpr ⟨fun ask hask => ?_, ?_⟩
    · exact hasks ask (hrest₁ ▸ .endpoints hsender hask)
    · intro eps r₂ hepsFit heps
      have hrest₂ := heps.rest_eq
      refine (modest_boardNames_bind_iff (heps.within (hname.within h))).mpr
        ⟨fun ask hask => ?_, ?_⟩
      · exact hasks ask (hrest₁ ▸ hrest₂ ▸ .sources hsender hepsFit.1 hask)
      · intro sources r₃ hsourcesFit hshort hsources
        refine (modest_boardNames_bind_iff
          (hsources.within (heps.within (hname.within h)))).mpr ⟨fun ask hask => ?_, ?_⟩
        · exact hasks ask (hrest₁ ▸ hrest₂ ▸ hsources.rest_eq ▸
            .connections hsender hepsFit.1 hsourcesFit.1 hshort hask)
        · intro connections r₄ _ _ _
          exact modest_pure _

/-- A board whose counts are asked for can be read. -/
theorem CountedBoard.short {board : TopologyBoardNode S}
    (hboard : CountedBoard board) {rest : List UInt8}
    (hasks : ∀ ask, BoardCount B S (boardBytes board ++ rest) ask → Affords B P ask) :
    ShortBoard B board := by
  obtain ⟨⟨hsender, hsources, hconnections⟩, hendpointCount, hsourceCount, hconnectionCount⟩ := hboard
  simp only [boardBytes, List.append_assoc] at hasks
  have hendpoints := hasks _ (.endpoints hsender (.endpoints rfl hendpointCount))
  have hsourcesAsk := hasks _ (.sources hsender hendpointCount (.names rfl hsourceCount))
  have hconnectionsAsk := hasks _ (.connections hsender hendpointCount hsourceCount hsources
    (.names rfl hconnectionCount))
  exact ⟨hsender, ⟨hendpointCount, hendpoints.given⟩, ⟨hsourceCount, hsourcesAsk.given⟩,
    ⟨hconnectionCount, hconnectionsAsk.given⟩, hsources, hconnections⟩

/-- Board after board. -/
theorem modest_boards_iff (count : Nat)
    (h : r.Within B) :
    Modest P (askingBoards B S count r) ↔ ∀ ask, BoardsCount B S count r.rest ask → Affords B P ask := by
  induction count generalizing r with
  | zero => exact ⟨fun _ _ hask => (nomatch hask), fun _ => modest_pure _⟩
  | succ count ih =>
    unfold askingBoards
    rw [modest_bind_iff, modest_board_iff h, askingBoard_result h]
    constructor
    · rintro ⟨hfirst, hafter⟩ ask hask
      generalize hrest : r.rest = bytes at hask
      cases hask with
      | here hboard => exact hfirst ask (hrest ▸ hboard)
      | behind hcounted hfurther =>
        have hshort := hcounted.short fun ask hask => hfirst ask (hrest ▸ hask)
        obtain ⟨r', hreads, rfl⟩ := ByteReader.exists_reads hrest
        have hothers := hafter _ (takeBoard_eq_ok.mpr ⟨_, hshort, rfl, hreads⟩)
        exact (ih (hreads.within h)).mp (modest_bind_iff.mp hothers).1 ask hfurther
    · intro hasks
      refine ⟨fun ask hask => hasks ask (.here hask), ?_⟩
      rintro ⟨_, r'⟩ hread
      obtain ⟨board, hshort, -, hreads⟩ := takeBoard_eq_ok.mp hread
      have hcounted : CountedBoard board := ⟨⟨hshort.sender, hshort.sourceNames,
        hshort.connectionNames⟩, hshort.endpoints.1, hshort.sources.1, hshort.connections.1⟩
      refine modest_bind_iff.mpr ⟨(ih (hreads.within h)).mpr fun ask hask => ?_,
        fun _ _ => modest_pure _⟩
      exact hasks ask (hreads.rest_eq ▸ .behind hcounted hask)

variable {payload : List UInt8}

theorem modest_sources_iff (h : payload.length < B.usizeModulus) :
    Modest P (askingTimesyncSources B payload) ↔
      ∀ ask, SourceCount B payload ask → Affords B P ask := by
  have hwithin := within_new h
  unfold askingTimesyncSources
  refine (modest_count_iff hwithin (f := fun count r =>
    .of (sliceNames B "discovery timesync source len" "discovery timesync source bytes"
        "discovery timesync source utf8" count r) >>= fun read =>
      .of (ensure (read.2.off = payload.length)
        (.deserialize "discovery timesync trailing bytes")) >>= fun _ =>
      pure (sortDedup read.1))).trans (and_iff_left_of_imp fun _ n r' _ hreads => ?_)
  rw [sliceNames_eq _ _ _ _ (hreads.within hwithin), modest_of_bind_iff (takeNames_returns n)]
  intro read _
  exact (modest_of_bind_iff (.ensure _ _)).mpr fun _ _ => modest_pure _

theorem modest_topology_iff (h : payload.length < B.usizeModulus) :
    Modest P (askingTopology B S payload) ↔
      ∀ ask, TopologyCount B S payload ask → Affords B P ask := by
  have hwithin := within_new h
  unfold askingTopology
  refine (modest_count_iff hwithin (f := fun count r =>
    askingBoards B S count r >>= fun read =>
      .of (ensure (read.2.off = payload.length)
        (.deserialize "discovery topology trailing bytes")) >>= fun _ =>
      pure (normalizeTopologyBoards read.1))).trans ?_
  constructor
  · rintro ⟨hcount, hafter⟩ ask hask
    cases hask with
    | boards hask => exact hcount ask hask
    | @board n rest _ hn hreached =>
      have hpayload : (ByteReader.new (encodeLE 4 n ++ rest)).rest = encodeLE 4 n ++ rest := rfl
      obtain ⟨r', hreads, rfl⟩ := ByteReader.exists_reads hpayload
      have hfits := (hcount _ (.count hn)).given
      have hboards := (modest_bind_iff.mp (hafter _ r' ⟨hn, hfits⟩ hreads)).1
      exact (modest_boards_iff _ (hreads.within hwithin)).mp hboards ask hreached
  · intro hasks
    refine ⟨fun ask hask => hasks ask (.boards hask), fun n r' hfits hreads => ?_⟩
    refine modest_bind_iff.mpr ⟨(modest_boards_iff n (hreads.within hwithin)).mpr
      fun ask hask => hasks ask ?_, fun _ _ => ?_⟩
    · have hpayload : payload = encodeLE 4 n ++ r'.rest := hreads.rest_eq
      rw [hpayload]
      exact .board hfits.1 hask
    · exact (modest_of_bind_iff (.ensure _ _)).mpr fun _ _ => modest_pure _

end Payloads

section Safety
variable (B : Build) (S : Schema)

/-- A capacity that is no larger than the payload. -/
abbrev WithinPayload (payload : List UInt8) (ask : Nat × Nat) : Prop := ask.1 ≤ payload.length

/-- Both decoders come back, and every vector is asked for with a capacity within the payload. -/
structure DecodesSafely (payload : List UInt8) : Prop where
  sources : Modest (WithinPayload payload) (askingTimesyncSources B payload)
  topology : Modest (WithinPayload payload) (askingTopology B S payload)

/-- Every count that a decoder comes to is within the payload, and has a vector. -/
structure CountsWithin (payload : List UInt8) : Prop where
  sources : ∀ ask, SourceCount B payload ask → Affords B (WithinPayload payload) ask
  topology : ∀ ask, TopologyCount B S payload ask → Affords B (WithinPayload payload) ask

variable {B S}

/-- The decoders are safe on the payloads whose counts are within them: no slice and no addition
is in the way. -/
theorem discovery_decoders_safe_iff {payload : List UInt8} (h : payload.length ≤ B.isizeMax) :
    DecodesSafely B S payload ↔ CountsWithin B S payload := by
  have haddressable : payload.length < B.usizeModulus := Nat.lt_of_le_of_lt h B.isizeMax_lt
  constructor
  · rintro ⟨hsources, htopology⟩
    exact ⟨(modest_sources_iff haddressable).mp hsources,
      (modest_topology_iff haddressable).mp htopology⟩
  · rintro ⟨hsources, htopology⟩
    exact ⟨(modest_sources_iff haddressable).mpr hsources,
      (modest_topology_iff haddressable).mpr htopology⟩

theorem discovery_decoders_safe_iff_one_name :
    [1, 0, 0, 0, 1, 0, 0, 0, 97].length ≤ hostBuild.isizeMax ∧
      (DecodesSafely hostBuild defaultSchema [1, 0, 0, 0, 1, 0, 0, 0, 97] ↔
        CountsWithin hostBuild defaultSchema [1, 0, 0, 0, 1, 0, 0, 0, 97]) :=
  ⟨by decide, discovery_decoders_safe_iff (by decide)⟩

/-- Four bytes that promise 2^32 - 1 names ask for a vector of that capacity, and panic where a
`usize` has 32 bits. -/
theorem four_bytes_ask_for_everything :
    ∃ payload : List UInt8, payload.length ≤ hostBuild.narrow.isizeMax ∧
      ¬DecodesSafely hostBuild defaultSchema payload ∧
      (askingTimesyncSources hostBuild payload).log = [(4294967295, 24)] ∧
      (askingTimesyncSources hostBuild.narrow payload).result = panics "capacity overflow" := by
  refine ⟨[255, 255, 255, 255], by decide, ?_, by decide, rfl⟩
  rintro ⟨⟨-, hasks⟩, -⟩
  exact absurd (hasks (4294967295, 24) (by decide)) (by decide)

end Safety

end Sedsprintf
