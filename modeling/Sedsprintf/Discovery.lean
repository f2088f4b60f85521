import Sedsprintf.Node
import Sedsprintf.Lib.SortDedup
import Mathlib.Data.String.Basic
import Mathlib.Data.List.Flatten

/-!
# Discovery

The payload decoders of src/discovery.rs and the route cache that `Router` and
`Relay` keep of what they decode (src/router.rs:2131-2184, 2260-2270, 2439-2510;
src/relay.rs:1640-1700, 1772-1782, 1998-2078). A route holds, per announcer, the boards it
announced, and the unions over all announcers.
-/
namespace Sedsprintf

open Lib

namespace Schema
variable (S : Schema)

/-- `is_discovery_endpoint`. `Discovery` is the endpoint of the generated announce
type. -/
def isDiscoveryEndpoint (ep : S.DataEndpoint) : Bool :=
  S.discovery.any fun d => decide (ep ∈ (S.getMessageMeta d.announce).endpoints)

/-- `DataEndpoint::is_link_local_only`. -/
def isLinkLocalOnly (ep : S.DataEndpoint) : Bool := (S.getEndpointMeta ep).linkLocalOnly

end Schema

section Boards
variable {S : Schema}

/-- One board of `normalize_topology_boards`. -/
def normalizeBoard (board : TopologyBoardNode S) : TopologyBoardNode S where
  senderId := board.senderId
  reachableEndpoints := sortDedup board.reachableEndpoints
  reachableTimesyncSources := sortDedup board.reachableTimesyncSources
  connections := sortDedup (board.connections.filter fun peer => peer != board.senderId)

/-- `normalize_topology_boards`. The order in which `sort_unstable_by` leaves boards of
one sender is not specified; here it is the one they came in. -/
def normalizeTopologyBoards (boards : List (TopologyBoardNode S)) : List (TopologyBoardNode S) :=
  ((boards.map normalizeBoard).insertionSort fun a b => a.senderId ≤ b.senderId).destutter
    fun a b => a.senderId ≠ b.senderId

/-- `summarize_topology_boards`. -/
def summarizeTopologyBoards (boards : List (TopologyBoardNode S)) :
    List S.DataEndpoint × List String :=
  (sortDedup (boards.flatMap fun board => board.reachableEndpoints),
    sortDedup (boards.flatMap fun board => board.reachableTimesyncSources))

end Boards

section Decoders
variable (B : Build) (S : Schema)

/-- The loop of `decode_discovery_payload` over its four-byte chunks. -/
def decodeEndpointWords : List UInt8 → Outcome (List S.DataEndpoint)
  | b₀ :: b₁ :: b₂ :: b₃ :: rest => do
    let ep ← okOr (.deserialize "bad discovery endpoint")
      (S.endpointFromU32 (u32FromLeBytes [b₀, b₁, b₂, b₃]).toNat)
    let eps ← decodeEndpointWords rest
    .ok (if S.isDiscoveryEndpoint ep then eps else ep :: eps)
  | _ => .ok []

def decodeDiscoveryPayload (payload : List UInt8) : Outcome (List S.DataEndpoint) := do
  ensure (payload.length % 4 = 0) (.deserialize "discovery payload width")
  let endpoints ← decodeEndpointWords S payload
  .ok (sortDedup endpoints)

/-- `size_of::<String>()`, three words. -/
def stringSize : Nat := 3 * B.wordSize

/-- `size_of::<TopologyBoardNode>()`: a string and three vectors. -/
def topologyBoardSize : Nat := 12 * B.wordSize

/-- The next `n` bytes of the payload, or `label` where they are missing. -/
def takeBytes (label : String) (r : ByteReader) (n : Nat) : Outcome (List UInt8 × ByteReader) :=
  if r.remaining < n then reject label
  else .ok ((r.buf.drop r.off).take n, { r with off := r.off + n })

/-- A little-endian `u32` as `usize`. -/
def takeWord (label : String) (r : ByteReader) : Outcome (Nat × ByteReader) := do
  let (bytes, r) ← takeBytes label r 4
  .ok ((u32FromLeBytes bytes).toNat, r)

/-- A length and that many bytes of text; each way to fail has its label. -/
def takeString (len bytes utf8 : String) (r : ByteReader) : Outcome (String × ByteReader) := do
  let (n, r) ← takeWord len r
  let (raw, r) ← takeBytes bytes r n
  let s ← okOr (.deserialize utf8) (fromUtf8 raw)
  .ok (s, r)

/-- `count` names, of which the empty ones are dropped. -/
def takeNames (len bytes utf8 : String) :
    (count : Nat) → ByteReader → Outcome (List String × ByteReader)
  | 0, r => .ok ([], r)
  | count + 1, r => do
    let (name, r) ← takeString len bytes utf8 r
    let (names, r) ← takeNames len bytes utf8 count r
    .ok (if name.isEmpty then names else name :: names, r)

/-- `decode_discovery_timesync_sources_payload`. -/
def decodeDiscoveryTimesyncSourcesPayload (payload : List UInt8) : Outcome (List String) := do
  let (count, r) ← takeWord "discovery timesync source count" (.new payload)
  B.allocate (count * stringSize B)
  let (sources, r) ← takeNames "discovery timesync source len" "discovery timesync source bytes"
    "discovery timesync source utf8" count r
  ensure (r.off = payload.length) (.deserialize "discovery timesync trailing bytes")
  .ok (sortDedup sources)

/-- `decode_string`. -/
def decodeString (label : String) (r : ByteReader) : Outcome (String × ByteReader) :=
  takeString label label label r

/-- The endpoint loop of `decode_discovery_topology_payload`. -/
def takeEndpoints : (count : Nat) → ByteReader → Outcome (List S.DataEndpoint × ByteReader)
  | 0, r => .ok ([], r)
  | count + 1, r => do
    let (raw, r) ← takeWord "discovery topology endpoint" r
    let ep ← okOr (.deserialize "bad discovery endpoint") (S.endpointFromU32 raw)
    let (eps, r) ← takeEndpoints count r
    .ok (if S.isDiscoveryEndpoint ep then eps else ep :: eps, r)

/-- A counted list of names in a board. -/
def takeBoardNames (count label : String) (r : ByteReader) : Outcome (List String × ByteReader) := do
  let (n, r) ← takeWord count r
  B.allocate (n * stringSize B)
  takeNames label label label n r

def takeBoard (r : ByteReader) : Outcome (TopologyBoardNode S × ByteReader) := do
  let (senderId, r) ← decodeString "discovery topology sender id" r
  let (endpointCount, r) ← takeWord "discovery topology endpoint count" r
  B.allocate (endpointCount * endpointSize)
  let (reachable, r) ← takeEndpoints S endpointCount r
  let (sources, r) ← takeBoardNames B "discovery topology timesync source count"
    "discovery topology timesync source" r
  let (connections, r) ← takeBoardNames B "discovery topology connection count"
    "discovery topology connection" r
  .ok (⟨senderId, reachable, sources, connections⟩, r)

def takeBoards : (count : Nat) → ByteReader → Outcome (List (TopologyBoardNode S) × ByteReader)
  | 0, r => .ok ([], r)
  | count + 1, r => do
    let (board, r) ← takeBoard B S r
    let (boards, r) ← takeBoards count r
    .ok (board :: boards, r)

/-- `decode_discovery_topology_payload`. -/
def decodeDiscoveryTopologyPayload (payload : List UInt8) :
    Outcome (List (TopologyBoardNode S)) := do
  let (count, r) ← takeWord "discovery topology board count" (.new payload)
  B.allocate (count * topologyBoardSize B)
  let (boards, r) ← takeBoards B S count r
  ensure (r.off = payload.length) (.deserialize "discovery topology trailing bytes")
  .ok (normalizeTopologyBoards boards)

end Decoders

section Routes
variable (B : Build) {S : Schema}

/-- `DiscoverySenderState::default()`. -/
def DiscoverySenderState.empty : DiscoverySenderState S := ⟨[], [], [], 0⟩

/-- `DiscoverySideState::default()`. -/
def DiscoverySideState.empty : DiscoverySideState S := ⟨[], [], 0, ∅⟩

/-- Writing through `sender_topology_board_mut`: the first board of the sender, or a new
one at the end. -/
def updateSenderBoard (senderId : String) (f : TopologyBoardNode S → TopologyBoardNode S) :
    List (TopologyBoardNode S) → List (TopologyBoardNode S)
  | [] => [f ⟨senderId, [], [], []⟩]
  | board :: rest =>
    if board.senderId = senderId then f board :: rest
    else board :: updateSenderBoard senderId f rest

/-- `refresh_sender_topology_state`. -/
def refreshSenderTopologyState (state : DiscoverySenderState S) : DiscoverySenderState S :=
  let boards := normalizeTopologyBoards state.topologyBoards
  let (reachable, sources) := summarizeTopologyBoards boards
  { state with
    topologyBoards := boards
    reachable := reachable
    reachableTimesyncSources := sources }

/-- `recompute_discovery_side_state`. -/
def recomputeDiscoverySideState (route : DiscoverySideState S) : DiscoverySideState S :=
  let senders := route.announcers.toList.map fun e => e.2
  { route with
    reachable := sortDedup (senders.flatMap fun sender => sender.reachable)
    reachableTimesyncSources := sortDedup (senders.flatMap fun sender =>
      sender.reachableTimesyncSources)
    lastSeenMs := senders.foldl (fun seen sender => max seen sender.lastSeenMs) 0 }

/-- What a side without link-local traffic is told of. -/
def withoutLinkLocal (linkLocal : Bool) (reachable : List S.DataEndpoint) : List S.DataEndpoint :=
  if linkLocal then reachable else reachable.filter fun ep => !S.isLinkLocalOnly ep

/-- The `match` of `learn_discovery_packet` on the packet's type. Whether the sender's
boards changed matters to the cadence only and is left out. -/
def learnSenderState (d : DiscoveryTypes S.DataType) (linkLocal : Bool) (pkt : Packet S)
    (state : DiscoverySenderState S) : Outcome (DiscoverySenderState S) :=
  if pkt.ty = d.announce then do
    let reachable ← decodeDiscoveryPayload S pkt.payload.asSlice
    .ok (refreshSenderTopologyState { state with
      topologyBoards := updateSenderBoard pkt.sender (fun board => { board with
        reachableEndpoints := withoutLinkLocal linkLocal reachable }) state.topologyBoards })
  else if pkt.ty = d.timeSyncSources then do
    let sources ← decodeDiscoveryTimesyncSourcesPayload B pkt.payload.asSlice
    .ok (refreshSenderTopologyState { state with
      topologyBoards := updateSenderBoard pkt.sender (fun board => { board with
        reachableTimesyncSources := sources }) state.topologyBoards })
  else if pkt.ty = d.topology then do
    let boards ← decodeDiscoveryTopologyPayload B S pkt.payload.asSlice
    .ok (refreshSenderTopologyState { state with
      topologyBoards := boards.map fun board => { board with
        reachableEndpoints := withoutLinkLocal linkLocal board.reachableEndpoints } })
  else .ok state

/-- The learning of `learn_discovery_packet` and `learn_discovery_item`, up to the
insertion of the route. -/
def learnDiscoveryRoute (d : DiscoveryTypes S.DataType) (linkLocal : Bool) (now : UInt64)
    (side : Nat) (pkt : Packet S) (routes : DiscoveryRoutes S) : Outcome (DiscoveryRoutes S) := do
  let route := routes[side]?.getD .empty
  let state ← learnSenderState B d linkLocal pkt (route.announcers[pkt.sender]?.getD .empty)
  .ok (routes.insert side (recomputeDiscoverySideState { route with
    announcers := route.announcers.insert pkt.sender { state with lastSeenMs := now } }))

/-- An announcer heard of within the TTL. -/
def isFresh (now : UInt64) (sender : DiscoverySenderState S) : Bool :=
  saturatingSub now sender.lastSeenMs ≤ discoveryRouteTtlMs

/-- The closure of `prune_discovery_routes_locked`. -/
def pruneDiscoveryRoute (now : UInt64) (route : DiscoverySideState S) :
    Option (DiscoverySideState S) :=
  let announcers := route.announcers.filter fun _ sender => isFresh now sender
  if announcers.isEmpty then none
  else some (recomputeDiscoverySideState { route with announcers := announcers })

/-- `prune_discovery_routes_locked`. -/
def pruneDiscoveryRoutes (now : UInt64) (routes : DiscoveryRoutes S) : DiscoveryRoutes S :=
  routes.filterMap fun _ route => pruneDiscoveryRoute now route

end Routes

section Costs
variable {B : Build} {S : Schema} {routes : DiscoveryRoutes S}

/-- Every route holds the unions over its announcers. -/
def DiscoveryRoutes.Recomputed (routes : DiscoveryRoutes S) : Prop :=
  ∀ (side : Nat) (route : DiscoverySideState S), routes[side]? = some route →
    recomputeDiscoverySideState route = route

theorem recompute_idem (route : DiscoverySideState S) :
    recomputeDiscoverySideState (recomputeDiscoverySideState route) =
      recomputeDiscoverySideState route := rfl

theorem DiscoveryRoutes.Recomputed.empty : DiscoveryRoutes.Recomputed (∅ : DiscoveryRoutes S) := by
  intro side route h
  simp at h

theorem DiscoveryRoutes.Recomputed.erase (h : DiscoveryRoutes.Recomputed routes) (side : Nat) :
    DiscoveryRoutes.Recomputed (routes.erase side) := by
  intro s route hget
  rw [OrdMap.get?_erase] at hget
  split at hget
  · cases hget
  · exact h s route hget

theorem DiscoveryRoutes.Recomputed.learn {d : DiscoveryTypes S.DataType} {linkLocal : Bool}
    {now : UInt64} {side : Nat} {pkt : Packet S} {routes' : DiscoveryRoutes S}
    (h : DiscoveryRoutes.Recomputed routes)
    (hlearn : learnDiscoveryRoute B d linkLocal now side pkt routes = .ok routes') :
    DiscoveryRoutes.Recomputed routes' := by
  obtain ⟨state, -, hlearn⟩ := bind_eq_ok.mp hlearn
  obtain rfl := Except.ok.inj hlearn
  intro s route hget
  rw [OrdMap.get?_insert] at hget
  split at hget
  · obtain rfl := Option.some.inj hget
    exact recompute_idem _
  · exact h s route hget

theorem pruneDiscoveryRoute_eq_some {now : UInt64} {route pruned : DiscoverySideState S}
    (h : pruneDiscoveryRoute now route = some pruned) :
    pruned = recomputeDiscoverySideState { route with
      announcers := route.announcers.filter fun _ sender => isFresh now sender } := by
  unfold pruneDiscoveryRoute at h
  dsimp only at h
  split at h
  · cases h
  · exact (Option.some.inj h).symm

theorem DiscoveryRoutes.Recomputed.prune (now : UInt64) (routes : DiscoveryRoutes S) :
    DiscoveryRoutes.Recomputed (pruneDiscoveryRoutes now routes) := by
  intro side route hget
  rw [pruneDiscoveryRoutes, Std.ExtTreeMap.getElem?_filterMap'] at hget
  obtain ⟨old, -, hprune⟩ := Option.bind_eq_some_iff.mp hget
  rw [pruneDiscoveryRoute_eq_some hprune]
  exact recompute_idem _

/-- Fewer announcers cost less. -/
theorem discoveryRouteByteCost_filter_le (keySize : Nat) {route : DiscoverySideState S}
    (h : recomputeDiscoverySideState route = route)
    (keep : String → DiscoverySenderState S → Bool) :
    discoveryRouteByteCost B keySize (recomputeDiscoverySideState
        { route with announcers := route.announcers.filter keep }) ≤
      discoveryRouteByteCost B keySize route := by
  have hsenders := @OrdMap.sum_filter_le _ _ _ _ route.announcers
    (fun e => discoverySenderByteCost B e.1 e.2) keep
  have hsub : ((route.announcers.filter keep).toList.map fun e => e.2).Sublist
      (route.announcers.toList.map fun e => e.2) := by
    rw [Std.ExtTreeMap.toList_filter]
    exact List.filter_sublist.map _
  have hreachable := length_sortDedup_le
    (hsub.flatMap fun sender => sender.reachable).subset
  have hnames := sum_sortDedup_le (fun s => (asBytes s).length)
    (hsub.flatMap fun sender => sender.reachableTimesyncSources).subset
  rw [← h]
  simp only [discoveryRouteByteCost, recomputeDiscoverySideState, namesLen]
  have := Nat.mul_le_mul_right endpointSize hreachable
  omega

/-- Pruning frees bytes. -/
theorem pruneDiscoveryRoutes_bytes_le (keySize : Nat) (h : DiscoveryRoutes.Recomputed routes)
    (now : UInt64) :
    discoveryBytesUsed B keySize (pruneDiscoveryRoutes now routes) ≤
      discoveryBytesUsed B keySize routes := by
  refine OrdMap.sum_filterMap_le _ fun side route pruned hget hprune => ?_
  rw [pruneDiscoveryRoute_eq_some hprune]
  exact discoveryRouteByteCost_filter_le keySize (h side route hget) _

end Costs
end Sedsprintf
