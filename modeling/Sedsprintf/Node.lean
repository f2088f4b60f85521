import Sedsprintf.Reliable.Reorder
import Sedsprintf.Queue

/-!
# What `Router` and `Relay` share

The two are separate code (src/router.rs, src/relay.rs) with the same records
and, statement by statement, the same helpers: sides, reliable streams by side
and type, the discovery cache with its byte costs, and the view they have of a
side's TX callback during one call.
-/
namespace Sedsprintf

open Lib

/-- `(RouterSideId, ty as u32)`. -/
structure StreamKey (S : Schema) where
  side : Nat
  ty : S.DataType
  deriving DecidableEq

namespace StreamKey
variable {S : Schema}

/-- Tuples compare by side, then by type. -/
instance : Ord (StreamKey S) :=
  ⟨compareLex (compareOn fun k => k.side) (compareOn fun k => k.ty.val)⟩

instance : Std.TransOrd (StreamKey S) :=
  inferInstanceAs (Std.TransCmp (compareLex (compareOn fun k : StreamKey S => k.side)
    (compareOn fun k => k.ty.val)))

instance : Std.LawfulEqOrd (StreamKey S) where
  eq_of_compare {k k'} h := by
    cases k with
    | mk side ty =>
      cases k' with
      | mk side' ty' =>
        simp only [compare, compareLex, compareOn, Ordering.then_eq_eq] at h
        obtain ⟨hside, hty⟩ := h
        obtain rfl := Nat.compare_eq_eq.mp hside
        obtain rfl := Fin.ext (Nat.compare_eq_eq.mp hty)
        rfl

end StreamKey

/-- `reliable_tx` and `reliable_rx`. -/
abbrev TxStreams (S : Schema) := OrdMap (StreamKey S) ReliableTxState
abbrev RxStreams (S : Schema) := OrdMap (StreamKey S) ReliableRxState

section Streams
variable {S : Schema}

/-- The stream at `key`, fresh where none was opened. -/
def TxStreams.at (streams : TxStreams S) (key : StreamKey S) : ReliableTxState :=
  streams[key]?.getD .fresh

def RxStreams.at (streams : RxStreams S) (key : StreamKey S) : ReliableRxState :=
  streams[key]?.getD .fresh

theorem TxStreams.at_insert (streams : TxStreams S) (key k : StreamKey S) (tx : ReliableTxState) :
    TxStreams.at (streams.insert key tx) k = if key = k then tx else TxStreams.at streams k := by
  unfold TxStreams.at
  rw [OrdMap.get?_insert]
  split <;> rfl

theorem RxStreams.at_insert (streams : RxStreams S) (key k : StreamKey S) (rx : ReliableRxState) :
    RxStreams.at (streams.insert key rx) k = if key = k then rx else RxStreams.at streams k := by
  unfold RxStreams.at
  rw [OrdMap.get?_insert]
  split <;> rfl

end Streams

/-- `RouterSideOptions` and `RelaySideOptions`. -/
structure SideOptions where
  reliableEnabled : Bool
  linkLocalEnabled : Bool
  ingressEnabled : Bool
  egressEnabled : Bool
  deriving DecidableEq, Repr

/-- Which of the two TX handler variants a side has. -/
inductive TxHandlerFn where
  | serialized
  | packet
  deriving DecidableEq, Repr

/-- `RouterSide` and `RelaySide`. -/
structure Side where
  txHandler : TxHandlerFn
  opts : SideOptions
  deriving DecidableEq, Repr

/-- What a side's TX path answers during one call: whether `try_enter_side_tx` gets
the gate, what the `n`-th call of the callback on these bytes or this packet
returns, and the clock when the call is over. -/
structure SideTx (S : Schema) where
  gateFree : Bool
  onBytes : List UInt8 → Nat → Except TelemetryError Unit
  onPacket : Packet S → Nat → Except TelemetryError Unit
  doneMs : UInt64

/-- A free gate and a callback that takes everything. -/
def SideTx.accepting {S : Schema} (doneMs : UInt64) : SideTx S :=
  ⟨true, fun _ _ => .ok (), fun _ _ => .ok (), doneMs⟩

/-- A free gate and a callback that fails. -/
def SideTx.failing {S : Schema} (doneMs : UInt64) : SideTx S :=
  ⟨true, fun _ _ => .error (.io "link down"), fun _ _ => .error (.io "link down"), doneMs⟩

/-- A serialized side with hop reliability. -/
def Side.reliable : Side := ⟨.serialized, ⟨true, false, true, true⟩⟩

structure TopologyBoardNode (S : Schema) where
  senderId : String
  reachableEndpoints : List S.DataEndpoint
  reachableTimesyncSources : List String
  connections : List String

structure DiscoverySenderState (S : Schema) where
  reachable : List S.DataEndpoint
  reachableTimesyncSources : List String
  topologyBoards : List (TopologyBoardNode S)
  lastSeenMs : UInt64

structure DiscoverySideState (S : Schema) where
  reachable : List S.DataEndpoint
  reachableTimesyncSources : List String
  lastSeenMs : UInt64
  announcers : OrdMap String (DiscoverySenderState S)

abbrev DiscoveryRoutes (S : Schema) := OrdMap Nat (DiscoverySideState S)

section Discovery
variable (B : Build) {S : Schema}

/-- src/discovery.rs:10. -/
def discoveryRouteTtlMs : UInt64 := 30000

/-- `size_of::<DataEndpoint>()`: the enum is `#[repr(u32)]`. -/
def endpointSize : Nat := 4

/-- `saturating_sub` on `u64`. -/
def saturatingSub (a b : UInt64) : UInt64 := if b ≤ a then a - b else 0

def namesLen (names : List String) : Nat := (names.map fun s => (asBytes s).length).sum

def topologyBoardByteCost (board : TopologyBoardNode S) : Nat :=
  (asBytes board.senderId).length + board.reachableEndpoints.length * endpointSize +
    namesLen board.reachableTimesyncSources + namesLen board.connections

def discoverySenderByteCost (sender : String) (state : DiscoverySenderState S) : Nat :=
  (asBytes sender).length + state.reachable.length * endpointSize +
    namesLen state.reachableTimesyncSources + (state.topologyBoards.map topologyBoardByteCost).sum +
    B.discoverySenderStateSize

/-- `Router` also counts the side id, `keySize` bytes, and adds
`side.saturating_sub(side)`, which is zero. -/
def discoveryRouteByteCost (keySize : Nat) (route : DiscoverySideState S) : Nat :=
  keySize + B.discoverySideStateSize + route.reachable.length * endpointSize +
    namesLen route.reachableTimesyncSources +
    (route.announcers.toList.map fun e => discoverySenderByteCost B e.1 e.2).sum

def discoveryBytesUsed (keySize : Nat) (routes : DiscoveryRoutes S) : Nat :=
  (routes.toList.map fun e => discoveryRouteByteCost B keySize e.2).sum

/-- `min_by_key` over the sides in order: the first of the oldest. -/
def oldestRoute : List (Nat × DiscoverySideState S) → Option Nat
  | [] => none
  | e :: rest =>
    some (rest.foldl (fun best e => if e.2.lastSeenMs < best.2.lastSeenMs then e else best) e).1

/-- `pop_discovery_route`; `none` where it returns false. -/
def popDiscoveryRoute (routes : DiscoveryRoutes S) : Option (DiscoveryRoutes S) :=
  (oldestRoute routes.toList).map fun side => routes.erase side

/-- `side_has_multiple_announcers_locked`. -/
def sideHasMultipleAnnouncers (routes : DiscoveryRoutes S) (side : Nat) (now : UInt64) : Bool :=
  match routes[side]? with
  | none => false
  | some route =>
    1 < ((route.announcers.toList.filter fun e =>
      saturatingSub now e.2.lastSeenMs ≤ discoveryRouteTtlMs).take 2).length

/-- A route leaves the cache. -/
theorem popDiscoveryRoute_erases {routes routes' : DiscoveryRoutes S}
    (h : popDiscoveryRoute routes = some routes') : ∃ side, routes' = routes.erase side := by
  obtain ⟨side, -, rfl⟩ := Option.map_eq_some_iff.mp h
  exact ⟨side, rfl⟩

theorem popDiscoveryRoute_eq_some {routes routes' : DiscoveryRoutes S}
    (h : popDiscoveryRoute routes = some routes') : routes'.size < routes.size := by
  obtain ⟨side, hside, rfl⟩ := Option.map_eq_some_iff.mp h
  unfold oldestRoute at hside
  split at hside
  · cases hside
  · rename_i e rest hlist
    obtain rfl := Option.some.inj hside
    -- the fold only ever holds an entry of the list
    have hfold : ∀ (rest : List (Nat × DiscoverySideState S)) (e : Nat × DiscoverySideState S),
        rest.foldl (fun best e => if e.2.lastSeenMs < best.2.lastSeenMs then e else best) e ∈
          e :: rest := by
      intro rest
      induction rest with
      | nil => exact fun e => List.mem_singleton_self e
      | cons head rest ih =>
        intro e
        rw [List.foldl_cons]
        split
        · exact List.mem_cons_of_mem _ (ih head)
        · rcases List.mem_cons.mp (ih e) with heq | hmem
          · rw [heq]
            exact List.mem_cons_self
          · exact List.mem_cons_of_mem _ (List.mem_cons_of_mem _ hmem)
    have hmem := hfold rest e
    rw [← hlist] at hmem
    have hin := Std.ExtTreeMap.mem_toList_iff_getElem?_eq_some.mp hmem
    have := OrdMap.size_erase_of_mem (OrdMap.mem_iff_get?.mpr ⟨_, hin⟩)
    omega

/-- A cache that takes bytes has a route to give. -/
theorem popDiscoveryRoute_isSome {routes : DiscoveryRoutes S} (h : 0 < routes.size) :
    ∃ routes', popDiscoveryRoute routes = some routes' := by
  unfold popDiscoveryRoute oldestRoute
  split
  · rename_i hnil
    rw [← Std.ExtTreeMap.length_toList, hnil] at h
    cases h
  · exact ⟨_, rfl⟩

theorem size_pos_of_discoveryBytesUsed {keySize : Nat} {routes : DiscoveryRoutes S}
    (h : 0 < discoveryBytesUsed B keySize routes) : 0 < routes.size := by
  rw [← Std.ExtTreeMap.length_toList]
  unfold discoveryBytesUsed at h
  cases hlist : routes.toList with
  | nil => simp [hlist] at h
  | cons => simp

end Discovery

section Costs
variable (B : Build) {S : Schema}

/-- `StandardSmallPayload` counts its own size with heap bytes. -/
def SmallPayload.byteCost : SmallPayload → Nat
  | .inline len _ => len.toNat
  | .heap data => B.smallPayloadSize + data.length

def Packet.byteCost (p : Packet S) : Nat :=
  B.packetSize + (asBytes p.sender).length + p.endpoints.length * endpointSize +
    p.payload.byteCost B

/-- `Router` counts `size_of::<Arc<[u8]>>()` with serialized bytes, `Relay` does
not. -/
def RouterItem.byteCost (arc : Nat) : RouterItem S → Nat
  | .packet pkt => pkt.byteCost B
  | .serialized bytes => arc + bytes.length

/-- `router_item_priority` and `relay_item_priority`. -/
def itemPriority : RouterItem S → Outcome UInt8
  | .packet pkt => .ok (S.messagePriority pkt.ty)
  | .serialized bytes => do
    let env ← peekEnvelope B S bytes
    .ok (S.messagePriority env.ty)

/-- `message_priority(ty).saturating_add(16)`. -/
def bumpedPriority (ty : S.DataType) : UInt8 :=
  UInt8.ofNat (min ((S.messagePriority ty).toNat + 16) 255)

end Costs

section ReorderBuffers
variable (B : Build) {S : Schema}

def reliableRxBufferedBytes (streams : RxStreams S) : Nat :=
  (streams.toList.map fun e =>
    (e.2.buffered.toList.map fun f => B.arcSize + f.2.length).sum).sum

def reliableRxBufferLen (streams : RxStreams S) : Nat :=
  (streams.toList.map fun e => e.2.buffered.size).sum

/-- `pop_reliable_rx_buffered`: the first frame of the first stream that holds one. -/
def popReliableRxBuffered (streams : RxStreams S) : Option (RxStreams S) :=
  match streams.toList.find? fun e => !e.2.buffered.isEmpty with
  | none => none
  | some (key, rx) =>
    some (streams.insert key { rx with buffered := OrdMap.dropFirst rx.buffered })

theorem popReliableRxBuffered_eq_some {streams streams' : RxStreams S}
    (h : popReliableRxBuffered streams = some streams') :
    ∃ key rx, streams[key]? = some rx ∧ rx.buffered ≠ ∅ ∧
      streams' = streams.insert key { rx with buffered := OrdMap.dropFirst rx.buffered } := by
  unfold popReliableRxBuffered at h
  split at h
  · cases h
  · rename_i key rx hfind
    obtain rfl := Option.some.inj h
    refine ⟨key, rx, ?_, ?_, rfl⟩
    · exact Std.ExtTreeMap.mem_toList_iff_getElem?_eq_some.mp (List.mem_of_find?_eq_some hfind)
    · intro hempty
      have := List.find?_some hfind
      simp [hempty] at this

theorem popReliableRxBuffered_len {streams streams' : RxStreams S}
    (h : popReliableRxBuffered streams = some streams') :
    reliableRxBufferLen streams' < reliableRxBufferLen streams := by
  obtain ⟨key, rx, hrx, hne, rfl⟩ := popReliableRxBuffered_eq_some h
  have hsum := @OrdMap.sum_insert _ _ _ _ _ _ streams key rx
    { rx with buffered := OrdMap.dropFirst rx.buffered } (fun e => e.2.buffered.size) hrx
  have hdrop : (OrdMap.dropFirst rx.buffered).size < rx.buffered.size := by
    rcases OrdMap.dropFirst_cases rx.buffered with ⟨hempty, -⟩ | ⟨k, hk, herase⟩
    · exact absurd hempty hne
    · have := OrdMap.size_erase_of_mem hk
      rw [herase]
      omega
  unfold reliableRxBufferLen
  dsimp only at hsum
  omega

theorem popReliableRxBuffered_isSome {streams : RxStreams S}
    (h : 0 < reliableRxBufferLen streams) :
    ∃ streams', popReliableRxBuffered streams = some streams' := by
  unfold popReliableRxBuffered
  split
  · rename_i hnone
    -- no stream holds a frame, so the sum is zero
    rw [List.find?_eq_none] at hnone
    have hzero : ∀ n ∈ streams.toList.map fun e => e.2.buffered.size, n = 0 := by
      intro n hn
      obtain ⟨e, he, rfl⟩ := List.mem_map.mp hn
      have := hnone e he
      simp only [Bool.not_eq_true', Bool.not_eq_false, Std.ExtTreeMap.isEmpty_iff] at this
      simp [this]
    rw [reliableRxBufferLen, List.sum_eq_zero_iff_forall_eq_nat.mpr hzero] at h
    cases h
  · exact ⟨_, rfl⟩

/-- The bytes one stream buffers. -/
def ReliableRxState.bufferedBytes (rx : ReliableRxState) : Nat :=
  (rx.buffered.toList.map fun f => B.arcSize + f.2.length).sum

theorem dropFirst_bytes_le (rx : ReliableRxState) :
    ({ rx with buffered := OrdMap.dropFirst rx.buffered } : ReliableRxState).bufferedBytes B ≤
      rx.bufferedBytes B := by
  unfold ReliableRxState.bufferedBytes
  dsimp only
  rcases OrdMap.dropFirst_cases rx.buffered with ⟨-, hsame⟩ | ⟨k, -, herase⟩
  · rw [hsame]
  · rw [herase]
    exact OrdMap.sum_erase_le _

/-- Released frames take their bytes along. -/
theorem releaseBuffered_bytes_le (fuel : Nat) (last next expected : UInt32)
    (buffered : OrdMap UInt32 (List UInt8)) :
    (releaseBuffered fuel last next buffered).2.2.bufferedBytes B ≤
      ReliableRxState.bufferedBytes B ⟨expected, buffered⟩ := by
  induction fuel generalizing last next buffered with
  | zero => exact le_rfl
  | succ fuel ih =>
    unfold releaseBuffered
    split
    · exact le_rfl
    · exact (ih _ _ _).trans (OrdMap.sum_erase_le _)

theorem arrive_bytes_le (rx : ReliableRxState) (seq : UInt32) (bytes : List UInt8) :
    (rx.arrive seq bytes).1.bufferedBytes B ≤ rx.bufferedBytes B := by
  rcases rx.arrive_cases seq bytes with ⟨-, heq⟩ | ⟨-, heq⟩ | ⟨-, heq⟩
  · rw [heq]
  · rw [heq]
  · rw [heq]
    exact releaseBuffered_bytes_le B _ _ _ rx.expectedSeq _

theorem bufferFrame_bytes_le (rx : ReliableRxState) (seq : UInt32) (bytes : List UInt8) :
    (rx.bufferFrame B seq bytes).bufferedBytes B ≤
      rx.bufferedBytes B + (B.arcSize + bytes.length) := by
  unfold ReliableRxState.bufferFrame
  dsimp only
  split
  · have hdrop := dropFirst_bytes_le B rx
    exact (OrdMap.sum_insert_le _).trans (Nat.add_le_add_right hdrop _)
  · exact OrdMap.sum_insert_le _

/-- The bytes buffered in all, when one stream changes. -/
theorem reliableRxBufferedBytes_insert (streams : RxStreams S) (key : StreamKey S)
    (rx : ReliableRxState) :
    reliableRxBufferedBytes B (streams.insert key rx) + (streams.at key).bufferedBytes B =
      reliableRxBufferedBytes B streams + rx.bufferedBytes B := by
  unfold reliableRxBufferedBytes RxStreams.at
  cases hget : streams[key]? with
  | none =>
    have hsum := @OrdMap.sum_insert_of_get?_none _ _ _ _ _ _ streams key rx
      (fun e => e.2.bufferedBytes B) hget
    have hfresh : ReliableRxState.fresh.bufferedBytes B = 0 := by
      rw [ReliableRxState.bufferedBytes, ReliableRxState.fresh,
        Std.ExtTreeMap.toList_eq_nil_iff.mpr rfl, List.map_nil, List.sum_nil]
    dsimp only at hsum
    rw [Option.getD_none, hfresh]
    exact hsum
  | some old =>
    exact @OrdMap.sum_insert _ _ _ _ _ _ streams key old rx (fun e => e.2.bufferedBytes B) hget

/-- A popped frame takes its bytes along. -/
theorem popReliableRxBuffered_bytes_le {streams streams' : RxStreams S}
    (h : popReliableRxBuffered streams = some streams') :
    reliableRxBufferedBytes B streams' ≤ reliableRxBufferedBytes B streams := by
  obtain ⟨key, rx, hrx, -, rfl⟩ := popReliableRxBuffered_eq_some h
  have hsum := reliableRxBufferedBytes_insert B streams key
    { rx with buffered := OrdMap.dropFirst rx.buffered }
  have hat : streams.at key = rx := by
    rw [RxStreams.at, hrx, Option.getD_some]
  have hdrop := dropFirst_bytes_le B rx
  rw [hat] at hsum
  omega

theorem reliableRxBufferLen_pos {streams : RxStreams S}
    (h : 0 < reliableRxBufferedBytes B streams) : 0 < reliableRxBufferLen streams := by
  by_contra hzero
  have hlen : reliableRxBufferLen streams = 0 := by omega
  unfold reliableRxBufferLen at hlen
  unfold reliableRxBufferedBytes at h
  rw [List.sum_eq_zero_iff_forall_eq_nat] at hlen
  rw [List.sum_eq_zero_iff_forall_eq_nat.mpr] at h
  · cases h
  · intro n hn
    obtain ⟨e, he, rfl⟩ := List.mem_map.mp hn
    have hsize := hlen _ (List.mem_map.mpr ⟨e, he, rfl⟩)
    have hnil : e.2.buffered.toList = [] :=
      Std.ExtTreeMap.toList_eq_nil_iff.mpr (Std.ExtTreeMap.eq_empty_iff_size_eq_zero.mpr hsize)
    simp [hnil]

/-- A buffered frame counts with its pointer, so buffers without bytes are empty. -/
theorem reliableRxBufferedBytes_pos_of_pop {streams streams' : RxStreams S}
    (h : popReliableRxBuffered streams = some streams') :
    0 < reliableRxBufferedBytes B streams := by
  obtain ⟨key, rx, hrx, hne, -⟩ := popReliableRxBuffered_eq_some h
  have hmem := Std.ExtTreeMap.mem_toList_iff_getElem?_eq_some.mpr hrx
  by_contra hzero
  have hsum : reliableRxBufferedBytes B streams = 0 := by omega
  unfold reliableRxBufferedBytes at hsum
  rw [List.sum_eq_zero_iff_forall_eq_nat] at hsum
  have hbytes := hsum _ (List.mem_map.mpr ⟨(key, rx), hmem, rfl⟩)
  rw [List.sum_eq_zero_iff_forall_eq_nat] at hbytes
  obtain ⟨frame, hframe⟩ := List.exists_mem_of_ne_nil _
    (fun hnil => hne (Std.ExtTreeMap.toList_eq_nil_iff.mp hnil))
  have hcost := hbytes _ (List.mem_map.mpr ⟨frame, hframe, rfl⟩)
  have hpos := B.arcSize_pos
  omega

end ReorderBuffers

section Retry

/-- A callback's own answer as the result of a call. -/
def answered : Except TelemetryError Unit → Outcome Unit
  | .ok () => .ok ()
  | .error e => fail e

/-- `Router::retry`: the first success, else the last error; no attempt at all
panics. -/
def retryFrom (attempt : Nat → Outcome Unit) :
    (times call : Nat) → Option TelemetryError → Outcome Unit
  | 0, _, none => panics "times > 0"
  | 0, _, some e => fail e
  | times + 1, call, _ =>
    match attempt call with
    | .ok () => .ok ()
    | .error (.err e) => retryFrom attempt times (call + 1) (some e)
    | .error (.panic what) => panics what

def retry (times : Nat) (attempt : Nat → Outcome Unit) : Outcome Unit :=
  retryFrom attempt times 0 none

/-- `Relay` calls a handler once. -/
def callOnce (attempt : Nat → Outcome Unit) : Outcome Unit := attempt 0

end Retry

section SideTransmit
variable (B : Build) {S : Schema}

/-- `is_side_tx_busy`. -/
def isSideTxBusy : Stop → Bool
  | .err (.io msg) => msg == "side tx busy"
  | _ => false

/-- `side_ref`; `invalid` is the caller's message. -/
def sideRef (invalid : String) (sides : List (Option Side)) (side : Nat) : Outcome Side :=
  okOr (.handlerError invalid) (sides[side]?.join)

/-- One call of a side's callback with the representation it takes. -/
def callHandler (tx : SideTx S) (handler : TxHandlerFn) (data : RouterItem S) (call : Nat) :
    Outcome Unit :=
  match handler, data with
  | .serialized, .serialized bytes => answered (tx.onBytes bytes call)
  | .packet, .packet pkt => answered (tx.onPacket pkt call)
  | .serialized, .packet pkt => do
    let owned ← serializePacket B pkt
    answered (tx.onBytes owned call)
  | .packet, .serialized bytes => do
    let pkt ← deserializePacket B S bytes
    answered (tx.onPacket pkt call)

/-- `call_side_tx_handler` and `call_tx_handler`; `attempts` is `retry` or
`callOnce`. The bandwidth sample of a success is left out. -/
def callSideTxHandler (attempts : (Nat → Outcome Unit) → Outcome Unit) (tx : SideTx S)
    (handler : TxHandlerFn) (data : RouterItem S) : Outcome Unit :=
  throughGate tx.gateFree (attempts (callHandler B tx handler data))

/-- The header surgery of `adjust_reliable_for_side` on a peeked frame. -/
def stripReliable (bytes : List UInt8) (frame : TelemetryFrameInfo S) :
    Outcome (Option (RouterItem S)) :=
  match frame.reliable with
  | some hdr =>
    if S.isReliableType frame.envelope.ty then
      if hdr.flags &&& reliableFlagAckOnly ≠ 0 then .ok none
      else if hdr.flags &&& reliableFlagUnsequenced = 0 then
        match rewriteReliableHeader B S bytes ⟨reliableFlagUnsequenced, hdr.seq, 0⟩ with
        | (_, .error e) => .error e
        | (v, .ok _) => .ok (some (.serialized v))
      else .ok (some (.serialized bytes))
    else .ok (some (.serialized bytes))
  | none => .ok (some (.serialized bytes))

/-- The type a send is for; bytes are peeked. -/
def sendType : RouterItem S → Outcome S.DataType
  | .packet pkt => .ok pkt.ty
  | .serialized bytes => do
    let frame ← peekFrameInfo B S bytes
    .ok frame.envelope.ty

/-- What `send_reliable_to_side` decides before it numbers a frame. -/
inductive SendPlan (S : Schema) where
  | done
  | direct (data : RouterItem S)
  | number (ty : S.DataType)

/-- An adjusted item goes out as it is, a dropped one not at all. -/
def SendPlan.ofAdjusted : Option (RouterItem S) → SendPlan S
  | none => .done
  | some data => .direct data

/-- What a call of `send_reliable_to_side` leaves: the streams, the stream and
number it took with the frame built for it, and its result. -/
structure SideSend (S : Schema) where
  streams : TxStreams S
  numbered : Option (StreamKey S × UInt32 × Option (List UInt8))
  result : Outcome Unit

/-- `send_reliable_to_side` behind its plan. -/
def SendPlan.execute (full : String) (attempts : (Nat → Outcome Unit) → Outcome Unit)
    (tx : SideTx S) (handler : TxHandlerFn) (side : Nat) (data : RouterItem S)
    (streams : TxStreams S) : SendPlan S → SideSend S
  | .done => ⟨streams, none, .ok ()⟩
  | .direct adjusted => ⟨streams, none, callSideTxHandler B attempts tx handler adjusted⟩
  | .number ty =>
    let key : StreamKey S := ⟨side, ty⟩
    let stream := streams.at key
    let sent := sendNumbered B S full ty data tx.gateFree
      (fun bytes => attempts fun call => answered (tx.onBytes bytes call)) tx.doneMs stream
    ⟨streams.insert key sent.tx,
      (stream.allocate B).map fun taken => (key, taken.1, sent.frame), sent.result⟩

end SideTransmit
end Sedsprintf
