import Sedsprintf.Wire.Header
import Sedsprintf.Lib.OrdMap

/-!
# Reliable streams

The per-stream state of hop reliability and the operations on it, one stream
being one data type on one side. `Router` and `Relay` hold the same two records
and run the same statements on them (src/router.rs:155-190, 2641-2695,
2769-2841, 2928-2951, 4960-4988; src/relay.rs:1087-1210, 1286-1348, 2094-2135,
2772-2794), so the operations stand here once.
-/
namespace Sedsprintf

open Lib

structure ReliableSent where
  bytes : List UInt8
  lastSendMs : UInt64
  retries : UInt32
  queued : Bool
  partialAcked : Bool
  deriving DecidableEq, Repr

structure ReliableTxState where
  nextSeq : UInt32
  sentOrder : List UInt32
  sent : OrdMap UInt32 ReliableSent

structure ReliableRxState where
  expectedSeq : UInt32
  buffered : OrdMap UInt32 (List UInt8)

/-- `or_insert_with` of `reliable_tx_state_mut`. -/
def ReliableTxState.fresh : ReliableTxState := ⟨1, [], ∅⟩

/-- `or_insert_with` of `reliable_rx_state_mut`. -/
def ReliableRxState.fresh : ReliableRxState := ⟨1, ∅⟩

/-- `wrapping_add(1)` that skips zero. -/
def nextSeqAfter (seq : UInt32) : UInt32 := if seq + 1 = 0 then 1 else seq + 1

/-- `RouterItem` and `RelayItem`. -/
inductive RouterItem (S : Schema) where
  | packet (pkt : Packet S)
  | serialized (bytes : List UInt8)
  deriving DecidableEq

section Sender
variable (B : Build) (S : Schema)

def reliableFlags (ty : S.DataType) : UInt8 :=
  match S.reliableMode ty with
  | .unordered => reliableFlagUnordered
  | _ => 0

namespace ReliableTxState

/-- Number the next frame; `none` when the history is full. -/
def allocate (tx : ReliableTxState) : Option (UInt32 × ReliableTxState) :=
  if B.reliableMaxPending ≤ tx.sent.size then none
  else some (tx.nextSeq, { tx with nextSeq := nextSeqAfter tx.nextSeq })

/-- History entry of a frame the handler took. -/
def record (tx : ReliableTxState) (seq : UInt32) (bytes : List UInt8) (now : UInt64) :
    ReliableTxState :=
  { tx with
    sentOrder := tx.sentOrder ++ [seq]
    sent := tx.sent.insert seq ⟨bytes, now, 0, false, false⟩ }

/-- The cumulative loop of `handle_reliable_ack`. -/
def popAcked (ack : UInt32) : List UInt32 → OrdMap UInt32 ReliableSent →
    List UInt32 × OrdMap UInt32 ReliableSent
  | [], sent => ([], sent)
  | seq :: rest, sent =>
    if ack < seq then (seq :: rest, sent) else popAcked ack rest (sent.erase seq)

def handleReliableAck (tx : ReliableTxState) (ty : S.DataType) (ack : UInt32) :
    ReliableTxState :=
  match S.reliableMode ty with
  | .unordered =>
    { tx with sent := tx.sent.erase ack, sentOrder := tx.sentOrder.filter (· ≠ ack) }
  | _ =>
    let (order, sent) := popAcked ack tx.sentOrder tx.sent
    { tx with sentOrder := order, sent := sent }

def handleReliablePartialAck (tx : ReliableTxState) (seq : UInt32) : ReliableTxState :=
  { tx with sent := tx.sent.modify seq fun s => { s with partialAcked := true } }

/-- The locked part of `queue_reliable_retransmit`: what it marks and the bytes
it will push. -/
def queueReliableRetransmit (tx : ReliableTxState) (seq : UInt32) :
    ReliableTxState × Option (List UInt8) :=
  match tx.sent[seq]? with
  | none => (tx, none)
  | some s =>
    if s.queued then (tx, none)
    else ({ tx with
      sent := tx.sent.modify seq fun s => { s with queued := true, partialAcked := false } },
      some s.bytes)

/-- Whether the timeout scan leaves an entry alone. -/
def Idle (now : UInt64) (s : ReliableSent) : Prop :=
  s.queued = true ∨ now - s.lastSendMs < B.reliableRetransmitMs ∨ s.partialAcked = true

instance (now : UInt64) (s : ReliableSent) : Decidable (Idle B now s) :=
  inferInstanceAs (Decidable (_ ∨ _ ∨ _))

/-- One entry of the scan of `process_reliable_timeouts`, and whether it is to be
queued again. -/
def timeoutEntry (now : UInt64) (tx : ReliableTxState) (seq : UInt32) :
    ReliableTxState × Bool :=
  match tx.sent[seq]? with
  | none => (tx, false)
  | some s =>
    if Idle B now s then (tx, false)
    else if B.reliableMaxRetries ≤ s.retries then
      ({ tx with sent := tx.sent.erase seq, sentOrder := tx.sentOrder.filter (· ≠ seq) }, false)
    else
      ({ tx with sent := tx.sent.modify seq fun s => { s with retries := s.retries + 1 } }, true)

/-- The scan over a copy of `sent_order`. -/
def timeoutScan (now : UInt64) (tx : ReliableTxState) :
    List UInt32 → ReliableTxState × List UInt32
  | [] => (tx, [])
  | seq :: rest =>
    let (tx, again) := timeoutEntry B now tx seq
    let (tx, requeue) := timeoutScan now tx rest
    (tx, if again then seq :: requeue else requeue)

/-- The second loop of `process_reliable_timeouts`: the bytes pushed when the
transmit queue takes `room` replays. A refused push leaves the loop through `?`
with the flag of its frame set. -/
def requeue (tx : ReliableTxState) : (room : Nat) → List UInt32 →
    ReliableTxState × List (List UInt8)
  | _, [] => (tx, [])
  | room, seq :: rest =>
    match tx.queueReliableRetransmit seq with
    | (tx, none) => requeue tx room rest
    | (tx, some bytes) =>
      match room with
      | 0 => (tx, [])
      | room + 1 =>
        let (tx, more) := requeue tx room rest
        (tx, bytes :: more)

/-- After a replay went out. -/
def markReplayed (tx : ReliableTxState) (seq : UInt32) (now : UInt64) : ReliableTxState :=
  { tx with sent := tx.sent.modify seq fun s => { s with lastSendMs := now, queued := false } }

end ReliableTxState

/-- The frame of a numbered send. -/
inductive NumberedFrame where
  | numbered (bytes : List UInt8)
  /-- `rewrite_reliable_header` found no header; the bytes go out as they came. -/
  | untouched (bytes : List UInt8)

def numberedFrame (data : RouterItem S) (hdr : ReliableHeader) : Outcome NumberedFrame :=
  match data with
  | .packet pkt => do
    let bytes ← serializePacketWithReliable B pkt hdr
    .ok (.numbered bytes)
  | .serialized bytes =>
    match rewriteReliableHeader B S bytes hdr with
    | (_, .error e) => .error e
    | (_, .ok false) => .ok (.untouched bytes)
    | (v, .ok true) => .ok (.numbered v)

/-- A handler call behind `try_enter_side_tx`. -/
def throughGate (gateFree : Bool) (result : Outcome Unit) : Outcome Unit :=
  if gateFree then result else fail (.io "side tx busy")

/-- What a numbered send leaves: the stream, the frame if it was built, and the
result of the call. -/
structure NumberedSend where
  tx : ReliableTxState
  frame : Option (List UInt8)
  result : Outcome Unit

/-- `send_reliable_to_side` from the numbering on. `full` is the caller's message
for a full history and `transmit` its way to call the handler: `retry` in
`Router`, one call in `Relay`. -/
def sendNumbered (full : String) (ty : S.DataType) (data : RouterItem S) (gateFree : Bool)
    (transmit : List UInt8 → Outcome Unit) (now : UInt64) (tx : ReliableTxState) :
    NumberedSend :=
  match tx.allocate B with
  | none => ⟨tx, none, fail (.packetTooLarge full)⟩
  | some (seq, tx) =>
    match numberedFrame B S data ⟨reliableFlags S ty, seq, 0⟩ with
    | .error e => ⟨tx, none, .error e⟩
    | .ok (.untouched bytes) => ⟨tx, none, throughGate gateFree (transmit bytes)⟩
    | .ok (.numbered bytes) =>
      match throughGate gateFree (transmit bytes) with
      | .error e => ⟨tx, some bytes, .error e⟩
      | .ok () => ⟨tx.record seq bytes now, some bytes, .ok ()⟩

end Sender

section Receiver
variable (B : Build)

/-- What an ordered frame does at the receiver. -/
inductive Arrival where
  /-- Below `expected_seq`: acknowledged again. -/
  | old (ack : UInt32)
  /-- Above: to be buffered, partially acknowledged, the missing one requested. -/
  | early (partialAck request : UInt32)
  /-- In order: the released frames and the acknowledged number. -/
  | released (frames : List (List UInt8)) (ack : UInt32)

/-- The `while let` of the release path. One buffered entry leaves per turn, so
`fuel` is their number. -/
def releaseBuffered : (fuel : Nat) → (last next : UInt32) → OrdMap UInt32 (List UInt8) →
    List (List UInt8) × UInt32 × ReliableRxState
  | 0, last, next, buffered => ([], last, ⟨next, buffered⟩)
  | fuel + 1, last, next, buffered =>
    match buffered[next]? with
    | none => ([], last, ⟨next, buffered⟩)
    | some bytes =>
      let (frames, ack, rx) := releaseBuffered fuel next (nextSeqAfter next) (buffered.erase next)
      (bytes :: frames, ack, rx)

/-- The ordered path of `rx_item` up to the buffering of an early frame. The first
increment is a plain `wrapping_add(1)`. -/
def ReliableRxState.arrive (rx : ReliableRxState) (seq : UInt32) (bytes : List UInt8) :
    ReliableRxState × Arrival :=
  if seq < rx.expectedSeq then
    (rx, .old (if rx.expectedSeq = 0 then 0 else rx.expectedSeq - 1))
  else if rx.expectedSeq < seq then (rx, .early seq rx.expectedSeq)
  else
    let (frames, ack, rx) := releaseBuffered rx.buffered.size seq (seq + 1) rx.buffered
    (rx, .released (bytes :: frames) ack)

/-- The end of `buffer_reliable_rx`, after the shared budget made room. -/
def ReliableRxState.bufferFrame (rx : ReliableRxState) (seq : UInt32) (bytes : List UInt8) :
    ReliableRxState :=
  let buffered :=
    if B.reliableMaxPending ≤ rx.buffered.size then OrdMap.dropFirst rx.buffered
    else rx.buffered
  { rx with buffered := buffered.insert seq bytes }

/-- `buffer_reliable_rx` where the shared budget has room. -/
def ReliableRxState.bufferReliableRx (rx : ReliableRxState) (seq : UInt32)
    (bytes : List UInt8) : ReliableRxState :=
  if seq ∈ rx.buffered then rx else rx.bufferFrame B seq bytes

end Receiver
end Sedsprintf
