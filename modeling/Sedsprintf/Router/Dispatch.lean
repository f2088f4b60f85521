import Sedsprintf.Router.Machine

/-!
# Sending and receiving

src/router.rs:1576-1641, 1785-1835, 2961-3003, 4310-4420, 4840-5622: `tx_item_impl`,
`dispatch_rx_data` and `rx_item` with all they do to the router, and one turn of each of the
loops that drain the queues. An error packet is sent by a `tx_item` of its own, which may
fail in turn; the depth of that is the stack's.
-/
namespace Sedsprintf

open Lib

namespace RouterInner
variable (B : Build) {S : Schema}

/-- `expected_end_to_end_destinations_locked` of the packet of an entry. -/
def expectedOf (st : RouterInner S) (table : RoutingTable S) (now : UInt64) (packetId : UInt64) :
    Outcome (OrdMap UInt64 Nat) :=
  match st.endToEndReliableTx[packetId]? with
  | none => .ok ∅
  | some sent => st.expectedEndToEndDestinations B table now sent.data

/-- `side_supports_end_to_end_reliable_locked`. -/
def sideSupportsEndToEndReliable (st : RouterInner S) (side : Nat) : Bool :=
  st.sides[side]?.join.any fun s => s.opts.reliableEnabled && s.txHandler == .serialized

/-- Registered with egress on. -/
def sideLive (st : RouterInner S) (side : Nat) : Bool :=
  st.sides[side]?.join.any fun s => s.opts.egressEnabled

/-- What `end_to_end_retransmit_sides` returns: the packet and the sides of its pending
destinations. -/
def retransmitTargets (st : RouterInner S) (packetId : UInt64) :
    Option (RouterItem S × List Nat) :=
  (st.endToEndReliableTx[packetId]?).bind fun sent =>
    if sent.trackedDestinations && sent.pendingDestinations.isEmpty then none
    else some (sent.data, sortDedup (sent.pendingDestinations.toList.map Prod.snd))

end RouterInner

namespace RouterProgram
variable {S : Schema} (B : Build) (w : RouterWorld S) (report : Packet S → RouterProgram S Unit)

section Sending

/-- `router_item_wire_len`. -/
def routerItemWireLen : RouterItem S → Outcome Nat
  | .packet pkt => do
    let bytes ← serializePacket B pkt
    .ok bytes.length
  | .serialized bytes => .ok bytes.length

/-- The length the bandwidth sample of a successful send is made with, if one is made. -/
def sampleLength (st : RouterInner S) (side : Nat) (data : RouterItem S) (sent : SideSend S) :
    Outcome (Option Nat) :=
  match st.sendPlan B w.cfg.reliableEnabled w.now side data with
  | .ok (_, .direct adjusted) => (routerItemWireLen B adjusted).map some
  | .ok (_, .number _) => .ok (sent.numbered.bind fun taken => taken.2.2.map List.length)
  | _ => .ok none

/-- `record_side_tx_sample` behind a send. -/
def sampled (tx : SideTx S) (side : Nat) (length : Option Nat) (table : RoutingTable S) :
    RoutingTable S :=
  match length with
  | none => table
  | some bytes => table.recordSideTxSample side bytes w.now tx.doneMs

/-- `send_reliable_to_side`, with its sample and whatever the TX callback does. -/
def sendReliableToSide (side : Nat) (data : RouterItem S) : RouterProgram S Unit := fun s =>
  let tx := w.sideTx s.events.length side
  let sent := s.inner.sendReliableToSide B w.cfg.reliableEnabled w.now tx side data
  let events := s.events ++ [.transmitted side (s.inner.sideLive side)]
  let inner := { s.inner with reliableTx := sent.streams }
  match sent.result with
  | .error e => (w.react (.side side data) ⟨inner, s.table, events⟩, .error e)
  | .ok () =>
    match sampleLength B w s.inner side data sent with
    | .error e => (⟨inner, s.table, events⟩, .error e)
    | .ok length =>
      (w.react (.side side data) ⟨inner, sampled w tx side length s.table, events⟩, .ok ())

/-- The error packet for a failed send; bytes that cannot be read report nothing. -/
def reportSend (data : RouterItem S) (e : TelemetryError) : RouterProgram S Unit :=
  match data with
  | .packet pkt => handleCallbackError B w report pkt none e
  | .serialized bytes =>
    match peekEnvelope B S bytes with
    | .ok env => handleCallbackErrorFromEnv B w report env none e
    | .error (.err _) => pure ()
    | .error (.panic what) => Program.of (panics what)

/-- What follows a send: whether it went out, or found a TX callback on the stack. -/
def settleSend (data : RouterItem S) : Outcome Unit → RouterProgram S Bool
  | .ok () => pure true
  | .error (.panic what) => Program.of (panics what)
  | .error (.err e) =>
    if isSideTxBusy (.err e) then pure false
    else do
      discard (reportSend B w report data e)
      stops (.handlerError "tx handler failed")

/-- One send of `tx_item_impl`. -/
def trySend (data : RouterItem S) (side : Nat) : RouterProgram S Bool := fun s =>
  let sent := sendReliableToSide B w side data s
  settleSend B w report data sent.2 sent.1

/-- The loop over the sides; behind a busy one the rest is queued. -/
def sendToSides (data : RouterItem S) : List Nat → RouterProgram S Unit
  | [] => pure ()
  | side :: rest => do
    let sent ← trySend B w report data side
    if sent then sendToSides data rest
    else
      Program.forEach (fun side => txQueueItemWithFlags B (.toSide none side data) true)
        (side :: rest)

end Sending

section Transmit

/-- `is_duplicate_pkt`. -/
def isDuplicatePkt (data : RouterItem S) : RouterProgram S Bool := do
  let known ← onInner fun st => st.isDuplicatePkt B data
  if known then pure true
  else do
    let packetId ← Program.of (RouterInner.getHash B data)
    record (.remembered packetId)
    pure false

/-- The local part of `tx_item_impl` on an item for the network; `false` for a duplicate. -/
def localPass (data : RouterItem S) (ignoreLocal : Bool) : RouterProgram S Bool :=
  if ignoreLocal then pure true
  else do
    let known ← isDuplicatePkt B data
    if known then pure false
    else do
      let internal ← Program.of (itemHasType B S.isInternalControlType data)
      if internal then pure true
      else do
        dispatchLocalForItem B w report data
        pure true

/-- `register_end_to_end_reliable_tx`. -/
def registerEndToEndReliableTx (data : RouterItem S) : RouterProgram S Unit := fun s =>
  match RouterInner.getHash B data, s.inner.expectedEndToEndDestinations B s.table w.now data with
  | .error e, _ => (s, .error e)
  | _, .error e => (s, .error e)
  | .ok packetId, .ok destinations =>
    ({ s with
      inner := s.inner.registerEndToEndReliableTx B packetId data destinations w.now
      events := s.events ++ [.tracked packetId data destinations (s.view w)] }, .ok ())

/-- A reliable packet of the application is tracked when a side it goes to can carry it. -/
def trackEndToEnd (data : RouterItem S) (ty : S.DataType) (sides : List Nat) (ignoreLocal : Bool) :
    RouterProgram S Unit := do
  let s ← Program.read
  if !ignoreLocal && S.isReliableType ty && !S.isInternalControlType ty &&
      sides.any s.inner.sideSupportsEndToEndReliable then registerEndToEndReliableTx B w data
  else pure ()

/-- The check in front of routing. -/
def checkItem : RouterItem S → Outcome Unit
  | .packet pkt => pkt.validate B
  | .serialized bytes => (peekEnvelope B S bytes).map fun _ => ()

/-- `tx_item_impl` on `Broadcast`. -/
def txBroadcast (data : RouterItem S) (ignoreLocal : Bool) : RouterProgram S Unit := do
  let fresh ← localPass B w report data ignoreLocal
  if fresh then do
    Program.of (checkItem B data)
    let sendRemote ← shouldRouteRemote B w data none
    if sendRemote then do
      let ty ← Program.of (itemType B data)
      let sides ← remoteSidePlan B w data none
      record (.forwarded none data sides)
      trackEndToEnd B w data ty sides ignoreLocal
      sendToSides B w report data sides
    else pure ()
  else pure ()

/-- `tx_item_impl` on `ToSide` behind its local part. -/
def sendAllowed (src : Option Nat) (dst : Nat) (data : RouterItem S) : RouterProgram S Unit := do
  let ty ← Program.of (itemType B data)
  let s ← Program.read
  if s.inner.routeAllowed s.table src (some ty) dst then do
    let sent ← trySend B w report data dst
    if sent then pure () else txQueueItemWithFlags B (.toSide src dst data) true
  else pure ()

/-- `tx_item_impl` on `ToSide`. -/
def txToSide (src : Option Nat) (dst : Nat) (data : RouterItem S) (ignoreLocal : Bool) :
    RouterProgram S Unit := do
  let fresh ← localPass B w report data ignoreLocal
  if fresh then sendAllowed B w report src dst data else pure ()

/-- `end_to_end_retransmit_sides`. -/
def endToEndRetransmitSides (packetId : UInt64) :
    RouterProgram S (Option (RouterItem S × List Nat)) := fun s =>
  ({ s with inner := s.inner.endToEndRetransmitSides packetId w.now },
    .ok (s.inner.retransmitTargets packetId))

/-- The sides of a retransmission; without tracked destinations it is routed. -/
def retransmitSides (data : RouterItem S) (sides : List Nat) : RouterProgram S (List Nat) :=
  if sides.isEmpty then remoteSidePlan B w data none else pure sides

/-- `tx_item_impl` on `EndToEndReplay`. -/
def txEndToEndReplay (packetId : UInt64) : RouterProgram S Unit := do
  let found ← endToEndRetransmitSides w packetId
  match found with
  | none => pure ()
  | some (data, sides) => do
    let sides ← retransmitSides B w data sides
    sendToSides B w report data sides

/-- `tx_item_impl` on `ReliableReplay`. The callback is reached only on a live side, and a
replay that went out makes a sample. -/
def txReliableReplay (dst : Nat) (bytes : List UInt8) : RouterProgram S Unit := fun s =>
  let tx := w.sideTx s.events.length dst
  let r := s.inner.txReliableReplay B tx dst bytes
  if s.inner.sideLive dst then
    let table := match r.2 with
      | .ok true => s.table.recordSideTxSample dst bytes.length w.now tx.doneMs
      | _ => s.table
    (w.react (.side dst (.serialized bytes))
      ⟨r.1, table, s.events ++ [.transmitted dst true]⟩, r.2.map fun _ => ())
  else ({ s with inner := r.1 }, r.2.map fun _ => ())

def txItemImpl (item : RouterTxItem S) (ignoreLocal : Bool) : RouterProgram S Unit :=
  match item with
  | .broadcast data => txBroadcast B w report data ignoreLocal
  | .toSide src dst data => txToSide B w report src dst data ignoreLocal
  | .endToEndReplay packetId => txEndToEndReplay B w report packetId
  | .reliableReplay dst bytes => txReliableReplay B w dst bytes

end Transmit

/-- `tx_item` on the error packet of a failed callback, `depth` calls deep. -/
def reportError : (depth : Nat) → Packet S → RouterProgram S Unit
  | 0, _ => Program.of (panics "stack overflow")
  | depth + 1, pkt => txItemImpl B w (reportError depth) (.broadcast (.packet pkt)) false

section Relaying

/-- `enqueue_to_sides`. -/
def enqueueToSides (data : RouterItem S) (exclude : Option Nat) (ignoreLocal : Bool) :
    RouterProgram S Unit := do
  let sides ← remoteSidePlan B w data exclude
  record (.forwarded exclude data sides)
  let priority ← Program.of (itemPriority B data)
  Program.forEach (fun dst => onInner fun st =>
    st.pushTransmit B ⟨.toSide exclude dst data, ignoreLocal, priority⟩) sides

def relaySend (data : RouterItem S) (src : Option Nat) (calledFromQueue : Bool) :
    RouterProgram S Unit :=
  if calledFromQueue then enqueueToSides B w data src true
  else do
    let sides ← remoteSidePlan B w data src
    record (.forwarded src data sides)
    Program.forEach (fun side => txItemImpl B w report (.toSide src side data) true) sides

/-- The item to relay, where routing `asked` finds a side. -/
def routed (asked data : RouterItem S) (src : Option Nat) :
    RouterProgram S (Option (RouterItem S)) := do
  let remote ← shouldRouteRemote B w asked src
  pure (if remote then some data else none)

end Relaying

section Receiving

/-- `queue_end_to_end_reliable_ack`. -/
def queueEndToEndReliableAck (pkt : Packet S) : RouterProgram S Unit := do
  record (.acknowledged (pkt.packetId B))
  onInner fun st => st.queueEndToEndReliableAck B w.receiving pkt

/-- `reconcile_end_to_end_reliable_destinations_locked`. -/
def reconcileEndToEnd : RouterProgram S Unit := fun s =>
  let r := s.inner.reconcileEndToEnd (s.inner.expectedOf B s.table w.now)
  ({ s with inner := r.1, events := s.events ++ [.reconciled (s.view w)] }, r.2)

/-- `learn_discovery_packet`; what it reconciles with is the topology it just learned. -/
def learnDiscoveryPacket (pkt : Packet S) (src : Option Nat) : RouterProgram S Bool := fun s =>
  match S.discovery, src with
  | none, _ => (s, .ok false)
  | some d, src =>
    if S.isDiscoveryType pkt.ty then
      match src with
      | none => (s, .ok true)
      | some side =>
        if pkt.sender = w.cfg.sender then (s, .ok true)
        else
          match learnDiscoveryRoute B d (s.inner.sideLinkLocalEnabled side) w.now side pkt
              s.inner.discoveryRoutes with
          | .error e => (s, .error e)
          | .ok routes =>
            let st : RouterInner S := { s.inner with discoveryRoutes := routes }
            let r := reconcileEndToEnd B w { s with inner := st.fitDiscoveryBudget B }
            (r.1, r.2.map fun _ => true)
    else (s, .ok false)

/-- `handle_internal_timesync_packet` up to its relay. -/
def handleInternalTimesyncPacket (pkt : Packet S) (src : Option Nat) :
    RouterProgram S (Option (RouterItem S)) := do
  let reply := w.timesync pkt src
  Program.forEach (fun queued => txQueueItemWithFlags B queued.1 queued.2) reply.queued
  let goesOn ← Program.of reply.goesOn
  if goesOn then routed B w (.packet pkt) (.packet pkt) src else pure none

/-- An application packet: its handlers, its acknowledgement, and whether it is relayed. -/
def deliverPacket (pkt : Packet S) (src : Option Nat) :
    RouterProgram S (Option (RouterItem S)) := do
  let eps := sortDedup pkt.endpoints
  let remote ← shouldRouteRemote B w (.packet pkt) src
  let bytes ← Program.of (encodeFor B w eps pkt)
  Program.forEach (fun h => discard (callOnPacket B w report pkt bytes h)) (w.cfg.localHandlers eps)
  if src.isSome && !(w.cfg.localHandlers eps).isEmpty && S.isReliableType pkt.ty then
    queueEndToEndReliableAck B w pkt
  else pure ()
  pure (if remote then some (.packet pkt) else none)

/-- The acknowledgement of a serialized item, whose packet has to be at hand. -/
def acknowledgeDecoded (env : TelemetryEnvelope S) (src : Option Nat) (pkt : Option (Packet S)) :
    RouterProgram S Unit :=
  match pkt with
  | none => pure ()
  | some pkt =>
    if src.isSome && !(w.cfg.localHandlers (sortDedup env.endpoints)).isEmpty &&
        S.isReliableType env.ty then queueEndToEndReliableAck B w pkt
    else pure ()

/-- The same for bytes, decoded only for a handler that takes packets. -/
def deliverSerialized (bytes : List UInt8) (env : TelemetryEnvelope S) (src : Option Nat) :
    RouterProgram S (Option (RouterItem S)) := do
  let pkt ← Program.of (decodeFor B w env.endpoints bytes)
  let remote ← shouldRouteRemote B w (.serialized bytes) src
  let pkt ← callAllOnBytes B w report discard bytes env
    (w.cfg.localHandlers (sortDedup env.endpoints)) pkt
  acknowledgeDecoded B w env src pkt
  pure (if remote then some ((pkt.map .packet).getD (.serialized bytes)) else none)

/-- `dispatch_rx_data` in front of the `relay_send` that every branch of it ends in: the
item to be relayed, if there is one. -/
def dispatchLocal (data : RouterItem S) (src : Option Nat) :
    RouterProgram S (Option (RouterItem S)) :=
  match data with
  | .packet pkt => do
    Program.of (pkt.validate B)
    let handled ← onInner fun st => st.handleInternalReliablePacket B pkt src
    if handled then pure none
    else if S.isTimeSyncType pkt.ty then handleInternalTimesyncPacket B w pkt src
    else do
      let learned ← learnDiscoveryPacket B w pkt src
      if learned then routed B w (.packet pkt) (.packet pkt) src
      else deliverPacket B w report pkt src
  | .serialized bytes => do
    let env ← Program.of (peekEnvelope B S bytes)
    if S.isReliableControlType env.ty then do
      let pkt ← Program.of (decodeItem B bytes)
      let _ ← onInner fun st => st.handleInternalReliablePacket B pkt src
      pure none
    else if S.isTimeSyncType env.ty then do
      let pkt ← Program.of (decodeItem B bytes)
      handleInternalTimesyncPacket B w pkt src
    else if S.isDiscoveryType env.ty then do
      let pkt ← Program.of (decodeItem B bytes)
      let _ ← learnDiscoveryPacket B w pkt src
      routed B w (.serialized bytes) (.packet pkt) src
    else deliverSerialized B w report bytes env src

/-- The `relay_send` behind. -/
def relayBehind (src : Option Nat) (calledFromQueue : Bool) (data : Option (RouterItem S)) :
    RouterProgram S Unit :=
  match data with
  | none => pure ()
  | some data => relaySend B w report data src calledFromQueue

def dispatchRxData (data : RouterItem S) (src : Option Nat) (calledFromQueue : Bool) :
    RouterProgram S Unit := do
  record (.received data src)
  let relay ← dispatchLocal B w report data src
  relayBehind B w report src calledFromQueue relay

/-- The router that dispatches what it received. -/
def receiving (data : RouterItem S) (src : Option Nat) (s : RouterState S) : RouterState S :=
  { s with events := s.events ++ [.received data src] }

@[simp] theorem receiving_inner (data : RouterItem S) (src : Option Nat) (s : RouterState S) :
    (receiving data src s).inner = s.inner := rfl

@[simp] theorem receiving_events (data : RouterItem S) (src : Option Nat) (s : RouterState S) :
    (receiving data src s).events = s.events ++ [.received data src] := rfl

theorem dispatchRxData_apply (data : RouterItem S) (src : Option Nat) (calledFromQueue : Bool)
    (s : RouterState S) :
    dispatchRxData B w report data src calledFromQueue s =
      (dispatchLocal B w report data src >>= relayBehind B w report src calledFromQueue)
        (receiving data src s) := rfl

/-- The answer to a duplicate. -/
def ackDuplicate (data : RouterItem S) (src : Option Nat) : RouterProgram S Unit :=
  match src, data with
  | none, _ => pure ()
  | some _, .packet pkt =>
    if RouterInner.acksDuplicate w.receiving pkt then queueEndToEndReliableAck B w pkt else pure ()
  | some _, .serialized bytes =>
    match deserializePacket B S bytes with
    | .error (.panic what) => Program.of (panics what)
    | .error (.err _) => pure ()
    | .ok pkt =>
      if RouterInner.acksDuplicate w.receiving pkt then queueEndToEndReliableAck B w pkt
      else pure ()

/-- One frame of the loop of `rx_item` over the released ones. -/
def dispatchReleased (src : Option Nat) (calledFromQueue : Bool) (bytes : List UInt8) :
    RouterProgram S Unit := do
  let known ← isDuplicatePkt B (.serialized bytes)
  if known then pure ()
  else do
    let _ ← Program.of (itemPriority B (.serialized bytes : RouterItem S))
    dispatchRxData B w report (.serialized bytes) src calledFromQueue

/-- `rx_item` from the deduplication on. -/
def handOver (data : RouterItem S) (src : Option Nat) (calledFromQueue : Bool)
    (released : List (List UInt8)) : RouterProgram S Unit := do
  let known ← isDuplicatePkt B data
  if known then ackDuplicate B w data src
  else do
    dispatchRxData B w report data src calledFromQueue
    Program.forEach (dispatchReleased B w report src calledFromQueue) released

/-- The checks in front of the hop part, and the return route. -/
def admitItem (data : RouterItem S) (src : Option Nat) : RouterProgram S Unit :=
  match src with
  | none => pure ()
  | some side => do
    let s ← Program.read
    Program.of (s.inner.ensureSideIngressEnabled side)
    let id ← Program.of (returnRouteId B data)
    Program.modify fun s => { s with table := match id with
      | none => s.table
      | some packetId => s.table.noteReliableReturnRoute B side packetId }

def rxItem (item : RouterRxItem S) (calledFromQueue : Bool) : RouterProgram S Unit := do
  admitItem B item.data item.src
  let released ← onInner fun st => st.receiveHop B w.receiving item
  match released with
  | none => pure ()
  | some released => handOver B w report item.data item.src calledFromQueue released

end Receiving

section Draining

/-- The scan of `process_end_to_end_reliable_timeouts` behind the reconciliation. -/
def scanEndToEndTimeouts : RouterProgram S Unit := do
  let s ← Program.read
  record (.scanned (s.view w))
  onInner fun st => st.scanEndToEndTimeouts B w.now

/-- `process_end_to_end_reliable_timeouts`. -/
def processEndToEndReliableTimeouts : RouterProgram S Unit := do
  onInner fun st => (st.pruneDiscovery w.now, .ok ())
  reconcileEndToEnd B w
  scanEndToEndTimeouts B w

/-- The front of the transmit queue, if there is one, is sent. -/
def sendFront : RouterProgram S Unit := fun s =>
  match s.inner.transmitQueue.popFront (TxQueued.byteCost B) with
  | none => (s, .ok ())
  | some (queued, rest) =>
    txItemImpl B w report queued.item queued.ignoreLocal
      { s with inner := { s.inner with transmitQueue := rest } }

/-- One turn of the loops over the transmit queue. -/
def processTx : RouterProgram S Unit := do
  onInner fun st => st.processReliableTimeouts B w.now
  processEndToEndReliableTimeouts B w
  sendFront B w report

/-- One turn of the loops over the receive queues; an item of the interrupt queue, if there
is one, comes first. -/
def processRx (isr : Option (RouterRxItem S)) : RouterProgram S Unit :=
  match isr with
  | some item => rxItem B w report item true
  | none => fun s =>
    match s.inner.receivedQueue.popFront (RouterRxItem.byteCost B) with
    | none => (s, .ok ())
    | some (item, rest) =>
      rxItem B w report item true { s with inner := { s.inner with receivedQueue := rest } }

end Draining
end RouterProgram
end Sedsprintf
