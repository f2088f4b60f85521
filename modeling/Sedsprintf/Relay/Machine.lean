import Sedsprintf.Relay.Drain
import Sedsprintf.Lib.Program

/-!
# The relay's programs

src/relay.rs:602-684, 1003-1050, 1944-2080, 2177-2208, 2623-2650, 2675-2938 and 3047-3160: the
parts of receiving and sending that go through the routing fields or call a side. A program works
on the whole state of the relay and on a record of what it did. What a TX callback answers, and
what it does to the relay when it calls it in turn, is the environment's (`RelayWorld`).
-/
namespace Sedsprintf

open Lib

/-- What the proofs say something about happens here. -/
inductive RelayEvent (S : Schema) where
  /-- An item is handed to the relay. -/
  | received (src : Nat) (data : RouterItem S)
  /-- `is_duplicate_pkt` adds an id to the recent ones. -/
  | remembered (packetId : UInt64)
  /-- A routing plan is followed. -/
  | forwarded (src : Nat) (data : RouterItem S) (sides : List Nat)
  /-- A queued item has reached a TX callback, which was called with `wire` and has taken it or
  not. -/
  | sent (src : Option Nat) (side : Nat) (data wire : RouterItem S) (taken : Bool)
  /-- A TX callback was called with a frame that the hop sends again. -/
  | replayed (side : Nat) (wire : RouterItem S) (taken : Bool)

/-- `RelayInner`, its routing fields included, and what happened so far. -/
structure RelayState (S : Schema) where
  inner : RelayInner S
  table : RelayTable S
  events : List (RelayEvent S)

/-- A relay as `new` makes it. -/
def RelayState.initial {S : Schema} (inner : RelayInner S) : RelayState S :=
  ⟨inner, ⟨.empty, ∅, []⟩, []⟩

/-- What one call into the relay meets. The clock is read once; a callback's answer may depend on
how much has happened before (`moment`), and one that calls the relay does so behind the send. -/
structure RelayWorld (S : Schema) where
  now : UInt64
  sideTx : (moment side : Nat) → SideTx S
  react : (side : Nat) → RouterItem S → RelayState S → RelayState S

abbrev RelayProgram (S : Schema) := Program (RelayState S) Stop

namespace RelayInner
variable (B : Build) {S : Schema}

/-- Registered with egress on. -/
def sideLive (st : RelayInner S) (side : Nat) : Bool :=
  st.sides[side]?.join.any fun s => s.opts.egressEnabled

/-- What a callback is called with. -/
def wireForm : TxHandlerFn → RouterItem S → Option (RouterItem S)
  | .serialized, .packet pkt => (serializePacket B pkt).toOption.map .serialized
  | .packet, .serialized bytes => (deserializePacket B S bytes).toOption.map .packet
  | _, data => some data

/-- The check in front of a send. -/
def sendable (st : RelayInner S) (table : RoutingTable S) (item : RelayTxItem S) : Bool :=
  match itemType B item.data with
  | .error _ => false
  | .ok ty => st.routeAllowed table item.src (some ty) item.dst

/-- What a plan has for the handler, in front of the conversion to the form the handler takes. -/
def planOffer (streams : TxStreams S) (side : Nat) (data : RouterItem S) (handler : TxHandlerFn) :
    SendPlan S → Option (TxHandlerFn × RouterItem S)
  | .done => none
  | .direct adjusted => some (handler, adjusted)
  | .number ty =>
    ((streams.at ⟨side, ty⟩).allocate B).bind fun taken =>
      match numberedFrame B S data ⟨reliableFlags S ty, taken.1, 0⟩ with
      | .ok (.numbered bytes) => some (.serialized, .serialized bytes)
      | .ok (.untouched bytes) => some (.serialized, .serialized bytes)
      | .error _ => none

/-- The handler a queued item is for and what it is to be called with. -/
def offered (now : UInt64) (st : RelayInner S) (item : RelayTxItem S) (s : Side) :
    Option (TxHandlerFn × RouterItem S) :=
  if s.opts.reliableEnabled && s.txHandler == .serialized then
    match st.sendPlan B now item.dst item.data with
    | .error _ => none
    | .ok (handler, plan) => planOffer B st.reliableTx item.dst item.data handler plan
  else
    match adjustReliableForSide B s.opts item.data with
    | .ok (some adjusted) => some (s.txHandler, adjusted)
    | _ => none

/-- What a send of an item, once it may go, calls a callback with: the item adjusted for the side,
and the form of it that the handler takes. -/
def reached (now : UInt64) (tx : SideTx S) (table : RoutingTable S) (st : RelayInner S)
    (item : RelayTxItem S) (s : Side) : Option (RouterItem S × RouterItem S) :=
  if st.sendable B table item && tx.gateFree then
    (st.offered B now item s).bind fun offer =>
      (wireForm B offer.1 offer.2).map fun wire => (offer.2, wire)
  else none

/-- `relay_item_wire_len`. -/
def relayItemWireLen : RouterItem S → Outcome Nat
  | .packet pkt => do
    let bytes ← serializePacket B pkt
    .ok bytes.length
  | .serialized bytes => .ok bytes.length

/-- The front of the replay queue will reach the callback of its side. -/
def replayReaches (tx : SideTx S) (st : RelayInner S) (item : RelayReplayItem) : Bool :=
  match peekFrameInfo B S item.bytes with
  | .ok ⟨env, some hdr⟩ =>
    (st.reliableTx.at ⟨item.dst, env.ty⟩).sent.contains hdr.seq && st.sideLive item.dst &&
      tx.gateFree
  | _ => false

end RelayInner

namespace RelayWorld
variable {S : Schema} (w : RelayWorld S)

/-- The same for the functions of the inner state. -/
def turn (table : RoutingTable S) (tx : SideTx S) : RelayTurn S where
  scanNow := w.now
  rx := { RelayEnv.still with now := w.now }
  afterRx := w.now
  replayTx := tx
  table := table
  sendNow := w.now
  sendTx := tx
  afterTx := tx.doneMs

/-- What the receive path reads in front of the dispatch. -/
def receiving : RelayEnv S := { RelayEnv.still with now := w.now }

end RelayWorld

namespace RelayProgram
variable {S : Schema}

/-- A function of the inner state as a program. -/
def onInner {α : Type} (f : RelayInner S → RelayInner S × Outcome α) : RelayProgram S α :=
  fun s =>
  let r := f s.inner
  ({ s with inner := r.1 }, r.2)

def record (event : RelayEvent S) : RelayProgram S Unit :=
  Program.modify fun s => { s with events := s.events ++ [event] }

def changeTable (change : RelayTable S → RelayTable S) : RelayProgram S Unit :=
  Program.modify fun s => { s with table := change s.table }

variable (B : Build) (w : RelayWorld S)

section Routes

def remoteSidePlan (data : RouterItem S) (src : Nat) : RelayProgram S (List Nat) := fun s =>
  match s.inner.remoteSidePlan B w.now s.table data src with
  | .error e => (s, .error e)
  | .ok (table, sides) => ({ s with table := table }, .ok sides)

/-- `learn_discovery_item`; a learned packet may leave acknowledgements without a sender. -/
def learnDiscoveryItem (src : Nat) (data : RouterItem S) : RelayProgram S Unit :=
  match S.discovery with
  | none => pure ()
  | some _ => do
    let learned ← Program.of (RelayInner.discoveryPacket B data)
    onInner fun st => st.learnDiscoveryItem B w.now src data
    if learned.isSome then
      Program.modify fun s => { s with
        table := RelayInner.reconcileEndToEndAckedDestinations s.table s.inner.discoveryRoutes }
    else pure ()

end Routes

section Dispatch

/-- One copy of `dispatch_relay_rx_item`. -/
def pushCopy (src : Nat) (data : RouterItem S) (dst : Nat) : RelayProgram S Unit := do
  let priority ← Program.of (itemPriority B data)
  onInner fun st => st.pushTx B ⟨some src, dst, data, priority⟩

/-- The end of `dispatch_relay_rx_item`. -/
def forward (src : Nat) (data : RouterItem S) : RelayProgram S Unit := do
  learnDiscoveryItem B w src data
  let sides ← remoteSidePlan B w data src
  record (.forwarded src data sides)
  Program.forEach (pushCopy B src data) sides

/-- The sender of an end-to-end acknowledgement has the packet. -/
def noteAcked (packetId : UInt64) (pkt : Packet S) : RelayProgram S Unit :=
  match decodeEndToEndAckSenderHash pkt.sender with
  | none => pure ()
  | some sender => changeTable fun table =>
      RelayInner.noteEndToEndAckedDestination B table packetId sender

/-- A packet at `dispatch_relay_rx_item`. An end-to-end acknowledgement is noted and forwarded
like data, the other control packets end here. -/
def dispatchPacket (src : Nat) (pkt : Packet S) : RelayProgram S Unit :=
  if S.isReliableControlType pkt.ty then
    match endToEndAck pkt with
    | some packetId => do
      noteAcked B packetId pkt
      forward B w src (.packet pkt)
    | none => onInner fun st => st.dispatchControl B w.receiving ⟨src, .packet pkt, 0⟩ pkt
  else forward B w src (.packet pkt)

/-- `dispatch_relay_rx_item`. -/
def dispatchRelayRxItem (src : Nat) : RouterItem S → RelayProgram S Unit
  | .packet pkt => dispatchPacket B w src pkt
  | .serialized bytes => do
    let envelope ← Program.of (peekEnvelope B S bytes)
    if S.isReliableControlType envelope.ty then do
      let pkt ← Program.of (deserializePacket B S bytes)
      dispatchPacket B w src pkt
    else forward B w src (.serialized bytes)

end Dispatch

section Receive

/-- `is_duplicate_pkt`. -/
def isDuplicatePkt (data : RouterItem S) : RelayProgram S Bool := do
  let known ← onInner fun st => st.isDuplicatePkt B data
  if known then pure true
  else do
    let packetId ← Program.of (RelayInner.getHash B data)
    record (.remembered packetId)
    pure false

/-- `should_forward_duplicate_reliable_item`, which may move a routing cursor on. -/
def shouldForwardDuplicateReliableItem (src : Nat) (data : RouterItem S) : RelayProgram S Bool := do
  let ty ← Program.of (RelayInner.itemType B data)
  if S.isReliableType ty && !S.isReliableControlType ty then do
    let sides ← remoteSidePlan B w data src
    let s ← Program.read
    pure (sides.any fun side => sideHasMultipleAnnouncers s.inner.discoveryRoutes side w.now)
  else pure false

/-- Deduplication with that exception: whether the item is to be skipped. -/
def skipsItem (src : Nat) (data : RouterItem S) : RelayProgram S Bool := do
  let known ← isDuplicatePkt B data
  if known then do
    let again ← shouldForwardDuplicateReliableItem B w src data
    pure !again
  else pure false

/-- One frame of the loop of `process_rx_queue_item` over the released ones. -/
def dispatchReleased (src : Nat) (bytes : List UInt8) : RelayProgram S Unit := do
  let _ ← Program.of (itemPriority B (.serialized bytes : RouterItem S))
  let skips ← skipsItem B w src (.serialized bytes)
  if skips then pure () else dispatchRelayRxItem B w src (.serialized bytes)

/-- `process_rx_queue_item` from the deduplication on. -/
def handOver (src : Nat) (data : RouterItem S) (released : List (List UInt8)) :
    RelayProgram S Unit := do
  let skips ← skipsItem B w src data
  if skips then pure ()
  else do
    dispatchRelayRxItem B w src data
    Program.forEach (dispatchReleased B w src) released

/-- The check in front of the hop part, and the return route. -/
def admitItem (src : Nat) (data : RouterItem S) : RelayProgram S Unit := do
  let s ← Program.read
  Program.of (s.inner.ensureSideIngressEnabled src)
  let id ← Program.of (returnRouteId B data)
  match id with
  | none => pure ()
  | some packetId => changeTable fun table =>
      { table with toRoutingTable := table.noteReliableReturnRoute B src packetId }

def processRxQueueItem (item : RelayRxItem S) : RelayProgram S Unit := do
  admitItem B item.src item.data
  let released ← onInner fun st => st.receiveHop B w.receiving item
  match released with
  | none => pure ()
  | some released => handOver B w item.src item.data released

/-- The front of the receive queue, if there is one. -/
def receiveOne : RelayProgram S Unit := fun s =>
  match s.inner.rxQueue.popFront (RelayRxItem.byteCost B) with
  | none => (s, .ok ())
  | some (item, rest) =>
    processRxQueueItem B w item { s with inner := { s.inner with rxQueue := rest } }

/-- `rx_from_side` and `rx_serialized_from_side`. -/
def rxFromSide (src : Nat) (data : RouterItem S) : RelayProgram S Unit := do
  record (.received src data)
  let s ← Program.read
  Program.of (s.inner.ensureSideIngressEnabled src)
  let priority ← Program.of (itemPriority B data)
  onInner fun st => st.pushRx B ⟨src, data, priority⟩

end Receive

section Send

/-- `record_side_tx_sample` behind a call that was taken; a length that cannot be had is an
encoder that does not return. -/
def sampled (tx : SideTx S) (side : Nat) (data : RouterItem S) (table : RelayTable S) :
    Outcome (RelayTable S) := do
  let bytes ← RelayInner.relayItemWireLen B data
  .ok { table with toRoutingTable := table.recordSideTxSample side bytes w.now tx.doneMs }

/-- `send_tx_item`, with its sample and whatever the TX callback does. -/
def sendTxItem (item : RelayTxItem S) (s : Side) : RelayProgram S Bool := fun st =>
  let tx := w.sideTx st.events.length item.dst
  let r := RelayInner.sendTxItem B (w.turn st.table.toRoutingTable tx) item s st.inner
  match r.2, st.inner.reached B w.now tx st.table.toRoutingTable item s with
  | .ok true, some (data, wire) =>
    let events := st.events ++ [.sent item.src item.dst item.data wire true]
    match sampled B w tx item.dst data st.table with
    | .error e => (⟨r.1, st.table, events⟩, .error e)
    | .ok table => (w.react item.dst wire ⟨r.1, table, events⟩, .ok true)
  | .error e, some (_, wire) =>
    (w.react item.dst wire
      ⟨r.1, st.table, st.events ++ [.sent item.src item.dst item.data wire false]⟩, .error e)
  | result, _ => ({ st with inner := r.1 }, result)

/-- A send of `process_tx_queue_with_timeout`. -/
def sendOrPutBack (item : RelayTxItem S) (s : Side) : RelayProgram S Unit := fun st =>
  match sendTxItem B w item s st with
  | (st, .ok _) => (st, .ok ())
  | (st, .error e) =>
    if isSideTxBusy e then onInner (RelayInner.putBack B item) st else (st, .error e)

/-- `process_replay_queue_item`, with its sample and whatever the TX callback does. -/
def processReplayQueueItem : RelayProgram S Bool := fun s =>
  match s.inner.replayQueue.q.head? with
  | none => (s, .ok false)
  | some item =>
    let tx := w.sideTx s.events.length item.dst
    let r := s.inner.processReplayQueueItem B tx
    if s.inner.replayReaches B tx item then
      let taken := r.2.toOption == some true
      let sample := s.table.recordSideTxSample item.dst item.bytes.length w.now tx.doneMs
      let table := if taken then { s.table with toRoutingTable := sample } else s.table
      let events := s.events ++ [.replayed item.dst (.serialized item.bytes) taken]
      (w.react item.dst (.serialized item.bytes) ⟨r.1, table, events⟩, r.2)
    else ({ s with inner := r.1 }, r.2)

def processReliableTimeouts : RelayProgram S Unit :=
  onInner fun st => st.processReliableTimeouts B w.now

/-- A turn of `process_tx_queue_with_timeout`. -/
def txTurn : RelayProgram S Unit := do
  processReliableTimeouts B w
  let replayed ← processReplayQueueItem B w
  if replayed then pure ()
  else do
    let popped ← onInner (RelayInner.popReadyTxItem B)
    match popped with
    | none => pure ()
    | some (item, s) => sendOrPutBack B w item s

/-- The send of `process_all_queues_with_timeout`. -/
def sendOne : RelayProgram S Unit := do
  let popped ← onInner (RelayInner.popReadyTxItem B)
  match popped with
  | none => pure ()
  | some (item, s) => do
    let _ ← sendTxItem B w item s
    pure ()

/-- A turn of `process_all_queues_with_timeout`, which may find the time up behind the received
item. -/
def allTurn (timeUp : Bool) : RelayProgram S Unit := do
  processReliableTimeouts B w
  receiveOne B w
  if timeUp then pure ()
  else do
    let _ ← processReplayQueueItem B w
    sendOne B w

end Send
end RelayProgram
end Sedsprintf
