import Sedsprintf.Discovery.Advertise
import Sedsprintf.Discovery.Codec
import Sedsprintf.Lib.PrefixCode

/-!
# What is heard is what was said

A receiver may be of another build than the sender: it may refuse a packet that the sender could
write. What it accepts it reads as the sender meant it, as long as the counts of the boards fit the
`u32` they are cast to.
-/
namespace Sedsprintf

open Lib

section Codes
variable {S : Schema}

theorem asBytes_injective : Function.Injective asBytes := by
  intro a b h
  have hsome := fromUtf8_asBytes a
  rw [h, fromUtf8_asBytes] at hsome
  exact (Option.some.inj hsome).symm

theorem countCode : SelfDelimiting (fun n => n < 2 ^ 32) (encodeLE 4) :=
  .fixed (encodeLE_length 4) fun _ _ => encodeLE_inj

theorem nameCode : SelfDelimiting ShortName nameBytes := countCode.measured asBytes_injective

theorem namesCode : SelfDelimiting
    (fun names : List String => names.length < 2 ^ 32 ∧ ∀ name ∈ names, ShortName name)
    namesBytes :=
  nameCode.counted countCode

theorem endpointsCode : SelfDelimiting
    (fun eps : List S.DataEndpoint => eps.length < 2 ^ 32 ∧ ∀ ep ∈ eps, True) endpointsBytes := by
  have hcode : SelfDelimiting (fun _ : S.DataEndpoint => True) endpointBytes := by
    refine .fixed (fun ep => encodeLE_length 4 ep.val) ?_
    intro a b _ _ heq
    exact Fin.ext (encodeLE_inj (endpoint_lt a) (endpoint_lt b) heq)
  exact hcode.counted countCode

/-- A board whose names and counts fit their `u32`. -/
structure WritableBoard (board : TopologyBoardNode S) : Prop extends ShortNames board where
  endpointCount : board.reachableEndpoints.length < 2 ^ 32
  sourceCount : board.reachableTimesyncSources.length < 2 ^ 32
  connectionCount : board.connections.length < 2 ^ 32

theorem ShortBoard.writable {B : Build} {board : TopologyBoardNode S} (h : ShortBoard B board) :
    WritableBoard board where
  sender := h.sender
  sources := h.sourceNames
  connections := h.connectionNames
  endpointCount := h.endpoints.1
  sourceCount := h.sources.1
  connectionCount := h.connections.1

theorem boardCode : SelfDelimiting WritableBoard (boardBytes : TopologyBoardNode S → List UInt8) := by
  have hparts : Function.Injective fun board : TopologyBoardNode S =>
      (board.senderId, board.reachableEndpoints, board.reachableTimesyncSources,
        board.connections) := by
    rintro ⟨_, _, _, _⟩ ⟨_, _, _, _⟩ heq
    simpa using heq
  refine ((nameCode.append (endpointsCode.append (namesCode.append namesCode))).record hparts).mono
    fun board h => ?_
  exact ⟨h.sender, ⟨h.endpointCount, by simp⟩, ⟨h.sourceCount, h.sources⟩,
    h.connectionCount, h.connections⟩

end Codes

section Reading
variable {B B' : Build} {S : Schema} {d : DiscoveryTypes S.DataType} {discovery : S.DataEndpoint}
  {sender : String} {timestampMs : UInt64} {pkt : Packet S}

theorem Packet.payload_of_new {ty : S.DataType} {endpoints : List S.DataEndpoint}
    {payload : List UInt8} (h : Packet.new B ty endpoints sender timestampMs payload = .ok pkt) :
    pkt.ty = ty ∧ pkt.sender = sender ∧ pkt.payload.asSlice = payload := by
  obtain ⟨-, -, stored, hstored, rfl⟩ := (new_eq_ok B).mp h
  exact ⟨rfl, rfl, SmallPayload.asSlice_of_new hstored⟩

/-- Counts are cast to `u32`. -/
structure CountedBoards (boards : List (TopologyBoardNode S)) : Prop where
  count : boards.length < 2 ^ 32
  endpoints : ∀ board ∈ boards, board.reachableEndpoints.length < 2 ^ 32
  sources : ∀ board ∈ boards, board.reachableTimesyncSources.length < 2 ^ 32
  connections : ∀ board ∈ boards, board.connections.length < 2 ^ 32

theorem writeBoards_names {boards : List (TopologyBoardNode S)} {bytes : List UInt8}
    (h : writeBoards boards = .ok bytes) : ∀ board ∈ boards, ShortNames board := by
  induction boards generalizing bytes with
  | nil => simp
  | cons board rest ih =>
    obtain ⟨first, hfirst, h⟩ := bind_eq_ok.mp h
    obtain ⟨more, hmore, -⟩ := bind_eq_ok.mp h
    obtain ⟨id, hid, hfirst⟩ := bind_eq_ok.mp hfirst
    obtain ⟨sources, hsources, hfirst⟩ := bind_eq_ok.mp hfirst
    obtain ⟨connections, hconnections, -⟩ := bind_eq_ok.mp hfirst
    obtain ⟨⟨⟩, hlength, hid⟩ := bind_eq_ok.mp hid
    rw [List.forall_mem_cons]
    refine ⟨⟨ensure_eq_ok.mp hlength, (writeNames_eq_ok.mp hsources).1,
      (writeNames_eq_ok.mp hconnections).1⟩, ih hmore⟩

/-- A receiver that accepts a topology packet has the boards that were written, without what
decoders drop. -/
theorem decodeTopology_of_build {boards out : List (TopologyBoardNode S)}
    (hbuild : buildDiscoveryTopology B d discovery sender timestampMs boards = .ok pkt)
    (hcounts : CountedBoards (normalizeTopologyBoards boards))
    (hdecode : decodeDiscoveryTopologyPayload B' S pkt.payload.asSlice = .ok out) :
    out = normalizeTopologyBoards ((normalizeTopologyBoards boards).map keptBoard) := by
  obtain ⟨bytes, hbytes, hnew⟩ := bind_eq_ok.mp hbuild
  have hnames := writeBoards_names hbytes
  rw [writeBoards_eq hnames] at hbytes
  obtain rfl := Except.ok.inj hbytes
  obtain ⟨raws, hcount, hshort, hpayload, rfl⟩ := decodeDiscoveryTopologyPayload_eq_ok.mp hdecode
  rw [(Packet.payload_of_new hnew).2.2] at hpayload
  have hwritable : ∀ board ∈ normalizeTopologyBoards boards, WritableBoard board :=
    fun board hboard => ⟨hnames board hboard, hcounts.endpoints board hboard,
      hcounts.sources board hboard, hcounts.connections board hboard⟩
  rw [(boardCode.counted countCode).injective ⟨hcounts.count, hwritable⟩
    ⟨hcount.1, fun raw hraw => (hshort raw hraw).writable⟩ hpayload]

/-- The same for the time sources. -/
theorem decodeSources_of_build {sources out : List String}
    (hbuild : buildDiscoveryTimesyncSources B d discovery sender timestampMs sources = .ok pkt)
    (hcount : (sortDedup sources).length < 2 ^ 32)
    (hdecode : decodeDiscoveryTimesyncSourcesPayload B' pkt.payload.asSlice = .ok out) :
    ∀ source ∈ out, source ∈ sources := by
  obtain ⟨bytes, hbytes, hnew⟩ := bind_eq_ok.mp hbuild
  obtain ⟨hshort, rfl⟩ := writeNames_eq_ok.mp hbytes
  obtain ⟨all, hfits, hall, hpayload, rfl⟩ :=
    decodeDiscoveryTimesyncSourcesPayload_eq_ok.mp hdecode
  rw [(Packet.payload_of_new hnew).2.2] at hpayload
  have hsame := namesCode.injective ⟨hcount, hshort⟩ ⟨hfits.1, hall⟩ hpayload
  intro source hsource
  have hwritten := (List.mem_filter.mp (mem_sortDedup.mp hsource)).1
  rw [← hsame] at hwritten
  exact mem_sortDedup.mp hwritten

/-- An announce is accepted by every build. -/
theorem decodeAnnounce_of_build {endpoints : List S.DataEndpoint}
    (hbuild : buildDiscoveryAnnounce B d discovery sender timestampMs endpoints = .ok pkt) :
    decodeDiscoveryPayload S pkt.payload.asSlice =
      .ok (sortDedup (endpoints.filter fun ep => !S.isDiscoveryEndpoint ep)) := by
  rw [(Packet.payload_of_new hbuild).2.2, decodeDiscoveryPayload_flatMap]

end Reading
end Sedsprintf
