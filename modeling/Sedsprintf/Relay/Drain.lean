import Sedsprintf.Lib.Loops
import Sedsprintf.Relay.Moves
import Sedsprintf.Relay.Receive
import Sedsprintf.Relay.Routing

/-!
# The relay's drains

src/relay.rs:589-684 and 3047-3160. Both drains take turns until one finds nothing to do, or
the time is up. An item whose turn comes is out of its queue before it is known whether it
can go.
-/
namespace Sedsprintf

open Lib

/-- What one turn of a drain meets. -/
structure RelayTurn (S : Schema) where
  /-- The clock in `process_reliable_timeouts`. -/
  scanNow : UInt64
  rx : RelayEnv S
  /-- The clock behind the received item, which `process_all_queues_with_timeout` reads. -/
  afterRx : UInt64
  replayTx : SideTx S
  /-- The routing fields when the item is sent. -/
  table : RoutingTable S
  sendNow : UInt64
  sendTx : SideTx S
  afterTx : UInt64

/-- The timeout of a drain, with the clock when it began. -/
structure DrainLimit where
  timeoutMs : UInt32
  start : UInt64

/-- A drain that only its queues end. -/
def DrainLimit.none : DrainLimit := ⟨0, 0⟩

/-- `timeout_ms != 0 && now.wrapping_sub(start) >= timeout_ms`. -/
def DrainLimit.over (limit : DrainLimit) (now : UInt64) : Bool :=
  limit.timeoutMs != 0 && limit.timeoutMs.toUInt64 ≤ now - limit.start

@[simp] theorem DrainLimit.over_none (now : UInt64) : DrainLimit.none.over now = false := rfl

namespace RelayInner
variable (B : Build) {S : Schema} (turn : RelayTurn S)

/-- `pop_ready_tx_item`. An item for a side that is gone leaves the queue, and `none` comes
back as for an empty queue. -/
def popReadyTxItem : Program (RelayInner S) Stop (Option (RelayTxItem S × Side)) := fun st =>
  match st.txQueue.popFront (RelayTxItem.byteCost B) with
  | none => (st, .ok none)
  | some (item, rest) =>
    ({ st with txQueue := rest }, .ok ((st.sides[item.dst]?.join).map fun s => (item, s)))

/-- `send_tx_item`; whether the item was sent. -/
def sendTxItem (item : RelayTxItem S) (s : Side) : Program (RelayInner S) Stop Bool := fun st =>
  match itemType B item.data with
  | .error e => (st, .error e)
  | .ok ty =>
    if st.routeAllowed turn.table item.src (some ty) item.dst then
      if s.opts.reliableEnabled && s.txHandler == .serialized then
        let sent := st.sendReliableToSide B turn.sendNow turn.sendTx item.dst item.data
        ({ st with reliableTx := sent.streams }, sent.result.map fun _ => true)
      else
        match adjustReliableForSide B s.opts item.data with
        | .error e => (st, .error e)
        | .ok none => (st, .ok false)
        | .ok (some adjusted) =>
          (st, (callSideTxHandler B callOnce turn.sendTx s.txHandler adjusted).map fun _ => true)
    else (st, .ok false)

/-- The first received item, if there is one. -/
def receiveOne : Program (RelayInner S) Stop Bool := fun st =>
  match st.rxQueue.popFront (RelayRxItem.byteCost B) with
  | none => (st, .ok false)
  | some (item, rest) =>
    let received := ({ st with rxQueue := rest } : RelayInner S).processRxQueueItem B turn.rx item
    (received.inner, received.result.map fun _ => true)

/-- A popped item that finds its side busy is pushed again, with the priority of its type. -/
def putBack (item : RelayTxItem S) : Program (RelayInner S) Stop Unit := fun st =>
  match itemPriority B item.data with
  | .error e => (st, .error e)
  | .ok priority => st.pushTx B { item with priority := priority }

/-- A send of `process_tx_queue_with_timeout`: whether the drain goes on. -/
def sendOrPutBack (limit : DrainLimit) (item : RelayTxItem S) (s : Side) :
    Program (RelayInner S) Stop Bool := fun st =>
  match sendTxItem B turn item s st with
  | (st, .ok sent) => (st, .ok !(sent && limit.over turn.afterTx))
  | (st, .error e) =>
    if isSideTxBusy e then (do putBack B item; pure false) st else (st, .error e)

/-- A turn of `process_tx_queue_with_timeout`. -/
def txTurn (limit : DrainLimit) : Program (RelayInner S) Stop Bool := do
  (fun st => st.processReliableTimeouts B turn.scanNow)
  let replayed ← (fun st => st.processReplayQueueItem B turn.replayTx)
  if replayed then pure !limit.over turn.afterTx
  else do
    let popped ← popReadyTxItem B
    match popped with
    | none => pure false
    | some (item, s) => sendOrPutBack B turn limit item s

/-- The send of `process_all_queues_with_timeout`. -/
def sendOne : Program (RelayInner S) Stop Bool := do
  let popped ← popReadyTxItem B
  match popped with
  | none => pure false
  | some (item, s) => sendTxItem B turn item s

/-- A turn of `process_all_queues_with_timeout`. -/
def allTurn (limit : DrainLimit) : Program (RelayInner S) Stop Bool := do
  (fun st => st.processReliableTimeouts B turn.scanNow)
  let received ← receiveOne B turn
  if limit.over turn.afterRx then pure false
  else do
    let replayed ← (fun st => st.processReplayQueueItem B turn.replayTx)
    let sent ← sendOne B turn
    pure (!limit.over turn.afterTx && (received || replayed || sent))

end RelayInner

/-- The two drains that send. -/
inductive RelayDrain where
  /-- `process_tx_queue_with_timeout`. -/
  | tx
  /-- `process_all_queues_with_timeout`. -/
  | all
  deriving DecidableEq, Repr

namespace RelayDrain
variable (B : Build) {S : Schema}

def takeTurn (limit : DrainLimit) (turn : RelayTurn S) :
    RelayDrain → Program (RelayInner S) Stop Bool
  | .tx => RelayInner.txTurn B turn limit
  | .all => RelayInner.allTurn B turn limit

/-- A drain for as many turns as there are; `sideTxActive` is `side_tx_active()` at its
start. -/
def run (drain : RelayDrain) (limit : DrainLimit) (sideTxActive : Bool)
    (turns : List (RelayTurn S)) : Program (RelayInner S) Stop Bool :=
  if sideTxActive then pure true else Program.loop (fun turn => drain.takeTurn B limit turn) turns

end RelayDrain
end Sedsprintf
