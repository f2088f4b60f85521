import Sedsprintf.Relay.State

/-!
# Relay operations

The counterparts of the router's in src/relay.rs: the send path (1206-1348,
2941-3020), retransmission (602-638, 1181-1204, 2091-2135), deduplication
(2137-2187), discovery learning (1998-2078) and the calls that clear or drop queued
work (2264-2355, 2653-2670).
-/
namespace Sedsprintf

open Lib

namespace RelayInner
variable (B : Build) {S : Schema}

section Send

/-- `adjust_reliable_for_side`; what cannot be peeked passes as it is. -/
def adjustReliableForSide (opts : SideOptions) (data : RouterItem S) :
    Outcome (Option (RouterItem S)) :=
  if opts.reliableEnabled then .ok (some data)
  else
    match data with
    | .serialized bytes =>
      match peekFrameInfo B S bytes with
      | .error (.err _) => .ok (some (.serialized bytes))
      | .error (.panic what) => panics what
      | .ok frame => stripReliable B bytes frame
    | .packet pkt =>
      if S.isReliableControlType pkt.ty then .ok none else .ok (some (.packet pkt))

/-- `send_reliable_to_side` up to the numbering. Bytes that cannot be peeked go out
as they are. -/
def sendPlan (now : UInt64) (st : RelayInner S) (side : Nat) (data : RouterItem S) :
    Outcome (TxHandlerFn × SendPlan S) := do
  let s ← sideRef "relay: invalid side id" st.sides side
  let hopReliable := s.opts.reliableEnabled &&
    !sideHasMultipleAnnouncers st.discoveryRoutes side now
  match s.txHandler with
  | .packet => .ok (.packet, .direct data)
  | .serialized =>
    if hopReliable then
      match sendType B data with
      | .error (.err _) => .ok (.serialized, .direct data)
      | .error (.panic what) => panics what
      | .ok ty =>
        if S.isReliableType ty then .ok (.serialized, .number ty)
        else do
          let adjusted ← adjustReliableForSide B s.opts data
          .ok (.serialized, .ofAdjusted adjusted)
    else do
      let adjusted ← adjustReliableForSide B { s.opts with reliableEnabled := false } data
      .ok (.serialized, .ofAdjusted adjusted)

def sendReliableToSide (now : UInt64) (tx : SideTx S) (st : RelayInner S) (side : Nat)
    (data : RouterItem S) : SideSend S :=
  match st.sendPlan B now side data with
  | .error e => ⟨st.reliableTx, none, .error e⟩
  | .ok (handler, plan) =>
    plan.execute B "relay reliable history full" callOnce tx handler side data st.reliableTx

/-- The handler's own error is the result. -/
def sendReliableRawToSide (tx : SideTx S) (st : RelayInner S) (side : Nat)
    (bytes : List UInt8) : Outcome Unit := do
  let s ← sideRef "relay: invalid side id" st.sides side
  if s.opts.egressEnabled then
    throughGate tx.gateFree (match s.txHandler with
      | .serialized => answered (tx.onBytes bytes 0)
      | .packet => do
        let pkt ← deserializePacket B S bytes
        answered (tx.onPacket pkt 0))
  else .ok ()

end Send

section Retransmit

/-- Replays have a queue of their own. -/
def hop : HopNode S (RelayInner S) where
  streams st := st.reliableTx
  setStreams st streams := { st with reliableTx := streams }
  replays st := st.replayQueue.q.map fun item => (item.dst, item.bytes)
  pushReplay st dst bytes priority := st.pushReplay B ⟨dst, bytes, priority⟩
  Sane := Budgeted B
  streams_setStreams _ _ := rfl
  replays_setStreams _ _ := rfl
  sane_setStreams hb := hb.congr rfl rfl
  streams_pushReplay st dst bytes priority := (pushReplay_keeps st _).reliableTx
  replays_pushReplay st dst bytes priority := by
    rcases pushReplay_contents (B := B) st ⟨dst, bytes, priority⟩ with
      ⟨kept, hkept, hperm, hok⟩ | ⟨hsub, herr⟩
    · exact .inl ⟨kept.map fun item => (item.dst, item.bytes), hkept.map _,
        hperm.map fun item => (item.dst, item.bytes), hok⟩
    · exact .inr ⟨hsub.map _, herr⟩
  sane_pushReplay hb := (pushReplay_keeps _ _).budgeted hb

def queueReliableRetransmit (st : RelayInner S) (key : StreamKey S) (seq : UInt32) :
    RelayInner S × Outcome Unit :=
  (hop B).queueReliableRetransmit st key seq

def processReliableTimeouts (now : UInt64) (st : RelayInner S) : RelayInner S × Outcome Unit :=
  (hop B).processReliableTimeouts B now st

/-- `process_replay_queue_item`; a replay the gate turned away is pushed again as it
was. -/
def processReplayQueueItem (tx : SideTx S) (st : RelayInner S) : RelayInner S × Outcome Bool :=
  match st.replayQueue.popFront RelayReplayItem.byteCost with
  | none => (st, .ok false)
  | some (item, rest) =>
    (hop B).processReplay B (fun st => st.sendReliableRawToSide B tx item.dst item.bytes)
      (fun st => st.pushReplay B item) tx.doneMs { st with replayQueue := rest } item.dst item.bytes

end Retransmit

section Dedupe

/-- The hop number `get_hash` mixes in. -/
def reliableSeq (bytes : List UInt8) : Outcome (Option UInt32) :=
  match peekFrameInfo B S bytes with
  | .ok ⟨_, some hdr⟩ =>
    .ok (if hdr.flags &&& reliableFlagAckOnly ≠ 0 then none else some hdr.seq)
  | .ok ⟨_, none⟩ => .ok none
  | .error (.err _) => .ok none
  | .error (.panic what) => panics what

/-- `get_hash`. -/
def getHash : RouterItem S → Outcome UInt64
  | .packet pkt => .ok (pkt.packetId B)
  | .serialized bytes => do
    let seq ← reliableSeq B (S := S) bytes
    match packetIdFromWire B S bytes with
    | .ok id =>
      match seq with
      | some seq => .ok (hashBytesU64 id (u32LeBytes seq))
      | none => .ok id
    | .error (.err _) => .ok (hashBytesU64 packetIdSeed bytes)
    | .error (.panic what) => panics what

/-- `is_duplicate_pkt`. -/
def isDuplicatePkt (st : RelayInner S) (data : RouterItem S) : RelayInner S × Outcome Bool :=
  match getHash B data with
  | .error e => (st, .error e)
  | .ok id =>
    if id ∈ st.recentRx.q then (st, .ok true)
    else
      match st.pushRecentRx B id with
      | (st, .error e) => (st, .error e)
      | (st, .ok ()) => (st, .ok false)

end Dedupe

section Learning

/-- The packet `learn_discovery_item` learns from, if it is one of discovery's. -/
def discoveryPacket : RouterItem S → Outcome (Option (Packet S))
  | .packet pkt => .ok (if S.isDiscoveryType pkt.ty then some pkt else none)
  | .serialized bytes => do
    let env ← peekEnvelope B S bytes
    if S.isDiscoveryType env.ty then do
      let pkt ← deserializePacket B S bytes
      .ok (some pkt)
    else .ok none

/-- `prune_discovery_routes_locked`. -/
def pruneDiscovery (now : UInt64) (st : RelayInner S) : RelayInner S :=
  { st with discoveryRoutes := pruneDiscoveryRoutes now st.discoveryRoutes }

/-- `learn_discovery_item`, which prunes what it has learned. The ids of packets
acknowledged end to end are left out. -/
def learnDiscoveryItem (now : UInt64) (st : RelayInner S) (src : Nat) (data : RouterItem S) :
    RelayInner S × Outcome Unit :=
  match S.discovery with
  | none => (st, .ok ())
  | some d =>
    match discoveryPacket B data with
    | .error e => (st, .error e)
    | .ok none => (st, .ok ())
    | .ok (some pkt) =>
      match learnDiscoveryRoute B d (st.sideLinkLocalEnabled src) now src pkt
          st.discoveryRoutes with
      | .error e => (st, .error e)
      | .ok routes =>
        let st := ({ st with discoveryRoutes := routes } : RelayInner S).fitDiscoveryBudget B
        (st.pruneDiscovery now, .ok ())

end Learning

section Maintenance

/-- `clear_queues`. The replay queue keeps its items. -/
def clearQueues (st : RelayInner S) : RelayInner S :=
  { st with rxQueue := st.rxQueue.clear, txQueue := st.txQueue.clear }

/-- `clear_rx_queue`. -/
def clearRxQueue (st : RelayInner S) : RelayInner S := { st with rxQueue := st.rxQueue.clear }

/-- `clear_tx_queue`. -/
def clearTxQueue (st : RelayInner S) : RelayInner S :=
  { st with txQueue := st.txQueue.clear, replayQueue := st.replayQueue.clear }

/-- `remove_side`. -/
def removeSide (st : RelayInner S) (side : Nat) : Outcome (RelayInner S) := do
  let _ ← okOr .badArg (st.sides[side]?.join)
  .ok { st with
    sides := st.sides.set side none
    rxQueue := st.rxQueue.retain (RelayRxItem.byteCost B) fun queued => queued.src != side
    txQueue := st.txQueue.retain (RelayTxItem.byteCost B)
      fun queued => queued.dst != side && queued.src != some side
    replayQueue := st.replayQueue.retain RelayReplayItem.byteCost fun queued => queued.dst != side
    reliableTx := st.reliableTx.removeSide side
    reliableRx := st.reliableRx.filter fun key _ => key.side ≠ side
    discoveryRoutes := st.discoveryRoutes.erase side }

/-- `set_side_egress_enabled`. -/
def setSideEgressEnabled (st : RelayInner S) (side : Nat) (enabled : Bool) :
    Outcome (RelayInner S) := do
  let s ← okOr .badArg (st.sides[side]?.join)
  let sides := st.sides.set side (some { s with opts := { s.opts with egressEnabled := enabled } })
  if enabled then .ok { st with sides := sides }
  else .ok { st with
    sides := sides
    txQueue := st.txQueue.retain (RelayTxItem.byteCost B) fun queued => queued.dst != side
    replayQueue := st.replayQueue.retain RelayReplayItem.byteCost fun queued => queued.dst != side }

/-- `set_side_ingress_enabled`. -/
def setSideIngressEnabled (st : RelayInner S) (side : Nat) (enabled : Bool) :
    Outcome (RelayInner S) := do
  let s ← okOr .badArg (st.sides[side]?.join)
  .ok { st with
    sides := st.sides.set side (some { s with opts := { s.opts with ingressEnabled := enabled } }) }

end Maintenance
end RelayInner
end Sedsprintf
