import Sedsprintf.Router.State

/-!
# Router operations

The functions of src/router.rs that work on the reliable state: the send path
(2697-2915), retransmission (2667-2695, 2917-2959, 5584-5613), end-to-end
tracking (1515-1735, 2961-3003, 4805-4840), deduplication (4164-4202), discovery
learning (2439-2515) and the calls that clear or drop queued work (3771-3863,
4281-4305). A call is a function of the state, the side's
answers (`SideTx`) and the clock; routing decides only which of them is made.
-/
namespace Sedsprintf

open Lib

namespace RouterInner
variable (B : Build) {S : Schema}

section Send

/-- `adjust_reliable_for_side`. -/
def adjustReliableForSide (opts : SideOptions) (data : RouterItem S) :
    Outcome (Option (RouterItem S)) :=
  if opts.reliableEnabled then .ok (some data)
  else
    match data with
    | .serialized bytes => do
      let frame ← peekFrameInfo B S bytes
      stripReliable B bytes frame
    | .packet pkt =>
      if S.isReliableControlType pkt.ty then .ok none else .ok (some (.packet pkt))

/-- `send_reliable_to_side` up to the numbering; `reliable` is
`cfg.reliable_enabled()`. -/
def sendPlan (reliable : Bool) (now : UInt64) (st : RouterInner S) (side : Nat)
    (data : RouterItem S) : Outcome (TxHandlerFn × SendPlan S) := do
  let s ← sideRef "router: invalid side id" st.sides side
  let hopReliable := s.opts.reliableEnabled && reliable &&
    !sideHasMultipleAnnouncers st.discoveryRoutes side now
  match s.txHandler with
  | .packet => .ok (.packet, .direct data)
  | .serialized =>
    if hopReliable then do
      let ty ← sendType B data
      if S.isReliableType ty then .ok (.serialized, .number ty)
      else do
        let adjusted ← adjustReliableForSide B s.opts data
        .ok (.serialized, .ofAdjusted adjusted)
    else do
      let adjusted ← adjustReliableForSide B { s.opts with reliableEnabled := false } data
      .ok (.serialized, .ofAdjusted adjusted)

def sendReliableToSide (reliable : Bool) (now : UInt64) (tx : SideTx S) (st : RouterInner S)
    (side : Nat) (data : RouterItem S) : SideSend S :=
  match st.sendPlan B reliable now side data with
  | .error e => ⟨st.reliableTx, none, .error e⟩
  | .ok (handler, plan) =>
    plan.execute B "router reliable history full" (retry B.maxHandlerRetries) tx handler side data
      st.reliableTx

/-- `map_err(|_| Io("reliable retransmit failed"))`. -/
def retransmitFailed : Outcome Unit → Outcome Unit
  | .error (.err _) => fail (.io "reliable retransmit failed")
  | result => result

def sendReliableRawToSide (tx : SideTx S) (st : RouterInner S) (side : Nat)
    (bytes : List UInt8) : Outcome Unit := do
  let s ← sideRef "router: invalid side id" st.sides side
  if s.opts.egressEnabled then
    throughGate tx.gateFree (match s.txHandler with
      | .serialized => retransmitFailed
          (retry B.maxHandlerRetries fun call => answered (tx.onBytes bytes call))
      | .packet => do
        let pkt ← deserializePacket B S bytes
        retransmitFailed (retry B.maxHandlerRetries fun call => answered (tx.onPacket pkt call)))
  else .ok ()

end Send

section Retransmit

/-- `tx_queue_item_with_flags`. -/
def txQueueItemWithFlags (st : RouterInner S) (item : RouterTxItem S) (ignoreLocal : Bool) :
    RouterInner S × Outcome Unit :=
  let priority := match item with
    | .broadcast data => itemPriority B data
    | .endToEndReplay _ => .ok (bumpedPriority S.reliableAck)
    | .toSide _ _ data => itemPriority B data
    | .reliableReplay _ bytes => do
      let env ← peekEnvelope B S bytes
      .ok (bumpedPriority env.ty)
  match priority with
  | .error e => (st, .error e)
  | .ok priority => st.pushTransmit B ⟨item, ignoreLocal, priority⟩

/-- The replay an item of the transmit queue is. -/
def TxQueued.replay? (queued : TxQueued S) : Option (Nat × List UInt8) :=
  match queued.item with
  | .reliableReplay dst bytes => some (dst, bytes)
  | _ => none

/-- Replays go through the transmit queue. -/
def hop : HopNode S (RouterInner S) where
  streams st := st.reliableTx
  setStreams st streams := { st with reliableTx := streams }
  replays st := st.transmitQueue.q.filterMap TxQueued.replay?
  pushReplay st dst bytes priority := st.pushTransmit B ⟨.reliableReplay dst bytes, true, priority⟩
  Sane := Budgeted B
  streams_setStreams _ _ := rfl
  replays_setStreams _ _ := rfl
  sane_setStreams hb := hb.congr rfl rfl
  streams_pushReplay st dst bytes priority := (pushTransmit_pushes st _).reliableTx
  replays_pushReplay st dst bytes priority := by
    rcases (pushTransmit_pushes (B := B) st ⟨.reliableReplay dst bytes, true, priority⟩).contents with
      ⟨kept, hkept, hperm, hok⟩ | ⟨hsub, herr⟩
    · exact .inl ⟨kept.filterMap TxQueued.replay?, hkept.filterMap _,
        hperm.filterMap TxQueued.replay?, hok⟩
    · exact .inr ⟨hsub.filterMap _, herr⟩
  sane_pushReplay hb := (pushTransmit_pushes _ _).budgeted hb

def queueReliableRetransmit (st : RouterInner S) (key : StreamKey S) (seq : UInt32) :
    RouterInner S × Outcome Unit :=
  (hop B).queueReliableRetransmit st key seq

def processReliableTimeouts (now : UInt64) (st : RouterInner S) : RouterInner S × Outcome Unit :=
  (hop B).processReliableTimeouts B now st

/-- `tx_item_impl` on `ReliableReplay`. -/
def txReliableReplay (tx : SideTx S) (st : RouterInner S) (dst : Nat) (bytes : List UInt8) :
    RouterInner S × Outcome Bool :=
  (hop B).processReplay B (fun st => st.sendReliableRawToSide B tx dst bytes)
    (fun st => st.txQueueItemWithFlags B (.reliableReplay dst bytes) true) tx.doneMs st dst bytes

end Retransmit

section EndToEnd

/-- The eviction loop of `remember_end_to_end_reliable_tx_locked`. -/
def forgetOldest (cap : Nat) : List UInt64 → OrdMap UInt64 (EndToEndReliableSent S) →
    List UInt64 × OrdMap UInt64 (EndToEndReliableSent S)
  | [], sent => ([], sent)
  | oldest :: rest, sent =>
    if cap ≤ (oldest :: rest).length then forgetOldest cap rest (sent.erase oldest)
    else (oldest :: rest, sent)

/-- `register_end_to_end_reliable_tx`, given the destinations
`expected_end_to_end_destinations_locked` found. -/
def registerEndToEndReliableTx (st : RouterInner S) (packetId : UInt64) (data : RouterItem S)
    (destinations : OrdMap UInt64 Nat) (now : UInt64) : RouterInner S :=
  let order := st.endToEndReliableTxOrder.filter fun id =>
    decide (id ∈ st.endToEndReliableTx) && id != packetId
  let (order, sent) := forgetOldest (max B.reliableMaxEndToEndPending 1) order st.endToEndReliableTx
  { st with
    endToEndReliableTx := sent.insert packetId
      ⟨data, destinations, !destinations.isEmpty, now, 0, false⟩
    endToEndReliableTxOrder := order ++ [packetId] }

/-- The end-to-end branch of `handle_internal_reliable_packet`; `sender` is the hash
in the acknowledging sender's name, where it has one. -/
def handleEndToEndAck (st : RouterInner S) (packetId : UInt64) (sender : Option UInt64) :
    RouterInner S :=
  match st.endToEndReliableTx[packetId]? with
  | none => st
  | some sent =>
    match sender with
    | none => { st with endToEndReliableTx := st.endToEndReliableTx.erase packetId }
    | some hash =>
      let pending := sent.pendingDestinations.erase hash
      if pending.isEmpty then
        { st with endToEndReliableTx := st.endToEndReliableTx.erase packetId }
      else
        { st with
          endToEndReliableTx :=
            st.endToEndReliableTx.insert packetId { sent with pendingDestinations := pending } }

def queueEndToEndReliableRetransmit (st : RouterInner S) (packetId : UInt64) :
    RouterInner S × Outcome Unit :=
  match st.endToEndReliableTx[packetId]? with
  | none => (st, .ok ())
  | some sent =>
    if sent.queued then (st, .ok ())
    else
      ({ st with endToEndReliableTx :=
          st.endToEndReliableTx.insert packetId { sent with queued := true } }).pushTransmit B
        ⟨.endToEndReplay packetId, true, bumpedPriority S.reliableAck⟩

/-- `end_to_end_retransmit_sides`, without the list it returns. -/
def endToEndRetransmitSides (st : RouterInner S) (packetId : UInt64) (now : UInt64) :
    RouterInner S :=
  match st.endToEndReliableTx[packetId]? with
  | none => st
  | some sent =>
    if sent.trackedDestinations && sent.pendingDestinations.isEmpty then
      { st with endToEndReliableTx := st.endToEndReliableTx.erase packetId }
    else
      { st with
        endToEndReliableTx := st.endToEndReliableTx.insert packetId
          { sent with queued := false, lastSendMs := now } }

/-- The loop of `reconcile_end_to_end_reliable_destinations_locked` over the packet
ids, and the ids it completes. `expected` answers for
`expected_end_to_end_destinations_locked`; its failure leaves the loop. -/
def reconcileLoop (expected : UInt64 → Outcome (OrdMap UInt64 Nat)) :
    OrdMap UInt64 (EndToEndReliableSent S) → List UInt64 →
      OrdMap UInt64 (EndToEndReliableSent S) × Outcome (List UInt64)
  | sent, [] => (sent, .ok [])
  | sent, id :: rest =>
    match sent[id]? with
    | none => reconcileLoop expected sent rest
    | some entry =>
      match expected id with
      | .error e => (sent, .error e)
      | .ok destinations =>
        if entry.trackedDestinations then
          let pending := entry.pendingDestinations.filterMap fun hash _ => destinations[hash]?
          let sent := sent.insert id { entry with pendingDestinations := pending }
          match reconcileLoop expected sent rest with
          | (sent, .error e) => (sent, .error e)
          | (sent, .ok completed) =>
            (sent, .ok (if pending.isEmpty then id :: completed else completed))
        else reconcileLoop expected sent rest

/-- One entry of the scan of `process_end_to_end_reliable_timeouts`, and whether it
is to be queued again. -/
def endToEndTimeoutEntry (now : UInt64) (sent : OrdMap UInt64 (EndToEndReliableSent S))
    (id : UInt64) : OrdMap UInt64 (EndToEndReliableSent S) × Bool :=
  match sent[id]? with
  | none => (sent, false)
  | some entry =>
    if entry.queued = true ∨ now - entry.lastSendMs < B.reliableRetransmitMs then (sent, false)
    else if B.reliableMaxRetries ≤ entry.retries then (sent.erase id, false)
    else (sent.insert id { entry with retries := entry.retries + 1 }, true)

def endToEndTimeoutScan (now : UInt64) :
    OrdMap UInt64 (EndToEndReliableSent S) → List UInt64 →
      OrdMap UInt64 (EndToEndReliableSent S) × List UInt64
  | sent, [] => (sent, [])
  | sent, id :: rest =>
    let (sent, again) := endToEndTimeoutEntry B now sent id
    let (sent, requeue) := endToEndTimeoutScan now sent rest
    (sent, if again then id :: requeue else requeue)

def requeueEndToEnd : RouterInner S → List UInt64 → RouterInner S × Outcome Unit
  | st, [] => (st, .ok ())
  | st, id :: rest =>
    match st.queueEndToEndReliableRetransmit B id with
    | (st, .error e) => (st, .error e)
    | (st, .ok ()) => requeueEndToEnd st rest

/-- What `process_end_to_end_reliable_timeouts` does behind the reconciliation. -/
def scanEndToEndTimeouts (now : UInt64) (st : RouterInner S) : RouterInner S × Outcome Unit :=
  let (sent, again) := endToEndTimeoutScan B now st.endToEndReliableTx st.endToEndReliableTx.keys
  requeueEndToEnd B { st with endToEndReliableTx := sent } again

/-- `process_end_to_end_reliable_timeouts` behind the pruning of old routes. -/
def processEndToEndReliableTimeouts (expected : UInt64 → Outcome (OrdMap UInt64 Nat))
    (now : UInt64) (st : RouterInner S) : RouterInner S × Outcome Unit :=
  match reconcileLoop expected st.endToEndReliableTx st.endToEndReliableTx.keys with
  | (sent, .error e) => ({ st with endToEndReliableTx := sent }, .error e)
  | (sent, .ok completed) =>
    let sent := completed.foldl (fun sent id => sent.erase id) sent
    scanEndToEndTimeouts B now { st with endToEndReliableTx := sent }

end EndToEnd

section Dedupe

/-- `get_hash`. -/
def getHash : RouterItem S → Outcome UInt64
  | .packet pkt => .ok (pkt.packetId B)
  | .serialized bytes =>
    match packetIdFromWire B S bytes with
    | .ok id => .ok id
    | .error (.err _) => .ok (hashBytesU64 packetIdSeed bytes)
    | .error (.panic what) => panics what

/-- `remove_pkt_id`. -/
def removePktId (st : RouterInner S) (data : RouterItem S) : RouterInner S × Outcome Unit :=
  match getHash B data with
  | .error e => (st, .error e)
  | .ok id => ({ st with recentRx := st.recentRx.removeValue idCost id }, .ok ())

/-- `is_duplicate_pkt`. -/
def isDuplicatePkt (st : RouterInner S) (data : RouterItem S) : RouterInner S × Outcome Bool :=
  match getHash B data with
  | .error e => (st, .error e)
  | .ok id =>
    if id ∈ st.recentRx.q then (st, .ok true)
    else
      match st.pushRecentRx B id with
      | (st, .error e) => (st, .error e)
      | (st, .ok ()) => (st, .ok false)

end Dedupe

section Learning

/-- `reconcile_end_to_end_reliable_destinations_locked`. -/
def reconcileEndToEnd (expected : UInt64 → Outcome (OrdMap UInt64 Nat)) (st : RouterInner S) :
    RouterInner S × Outcome Unit :=
  match reconcileLoop expected st.endToEndReliableTx st.endToEndReliableTx.keys with
  | (sent, .error e) => ({ st with endToEndReliableTx := sent }, .error e)
  | (sent, .ok completed) =>
    ({ st with endToEndReliableTx := completed.foldl (fun sent id => sent.erase id) sent }, .ok ())

/-- `learn_discovery_packet`; `sender` is the router's own name. -/
def learnDiscoveryPacket (sender : String) (expected : UInt64 → Outcome (OrdMap UInt64 Nat))
    (now : UInt64) (st : RouterInner S) (pkt : Packet S) (src : Option Nat) :
    RouterInner S × Outcome Bool :=
  match S.discovery with
  | none => (st, .ok false)
  | some d =>
    if S.isDiscoveryType pkt.ty then
      match src with
      | none => (st, .ok true)
      | some side =>
        if pkt.sender = sender then (st, .ok true)
        else
          match learnDiscoveryRoute B d (st.sideLinkLocalEnabled side) now side pkt
              st.discoveryRoutes with
          | .error e => (st, .error e)
          | .ok routes =>
            let st := ({ st with discoveryRoutes := routes } : RouterInner S).fitDiscoveryBudget B
            let (st, result) := reconcileEndToEnd expected st
            (st, result.map fun _ => true)
    else (st, .ok false)

/-- `prune_discovery_routes_locked`. -/
def pruneDiscovery (now : UInt64) (st : RouterInner S) : RouterInner S :=
  { st with discoveryRoutes := pruneDiscoveryRoutes now st.discoveryRoutes }

end Learning

section Maintenance

/-- `clear_queues`. -/
def clearQueues (st : RouterInner S) : RouterInner S :=
  { st with transmitQueue := st.transmitQueue.clear, receivedQueue := st.receivedQueue.clear }

/-- `clear_rx_queue`. -/
def clearRxQueue (st : RouterInner S) : RouterInner S :=
  { st with receivedQueue := st.receivedQueue.clear }

/-- `clear_tx_queue`. -/
def clearTxQueue (st : RouterInner S) : RouterInner S :=
  { st with transmitQueue := st.transmitQueue.clear }

/-- Whether an item goes to `side`. -/
def targets (side : Nat) (queued : TxQueued S) : Bool :=
  match queued.item with
  | .toSide _ dst _ => dst == side
  | .reliableReplay dst _ => dst == side
  | _ => false

/-- `remove_side`. -/
def removeSide (st : RouterInner S) (side : Nat) : Outcome (RouterInner S) := do
  let _ ← okOr .badArg (st.sides[side]?.join)
  .ok { st with
    sides := st.sides.set side none
    transmitQueue := st.transmitQueue.retain (TxQueued.byteCost B) fun queued => !targets side queued
    receivedQueue := st.receivedQueue.retain (RouterRxItem.byteCost B)
      fun queued => queued.src != some side
    reliableTx := st.reliableTx.removeSide side
    reliableRx := st.reliableRx.filter fun key _ => key.side ≠ side
    discoveryRoutes := st.discoveryRoutes.erase side }

/-- `set_side_egress_enabled`. -/
def setSideEgressEnabled (st : RouterInner S) (side : Nat) (enabled : Bool) :
    Outcome (RouterInner S) := do
  let s ← okOr .badArg (st.sides[side]?.join)
  .ok { st with
    sides := st.sides.set side (some { s with opts := { s.opts with egressEnabled := enabled } })
    transmitQueue :=
      if enabled then st.transmitQueue
      else st.transmitQueue.retain (TxQueued.byteCost B) fun queued => !targets side queued }

/-- `set_side_ingress_enabled`. -/
def setSideIngressEnabled (st : RouterInner S) (side : Nat) (enabled : Bool) :
    Outcome (RouterInner S) := do
  let s ← okOr .badArg (st.sides[side]?.join)
  .ok { st with
    sides := st.sides.set side (some { s with opts := { s.opts with ingressEnabled := enabled } }) }

end Maintenance
end RouterInner
end Sedsprintf
