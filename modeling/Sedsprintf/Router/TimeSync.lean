import Sedsprintf.Router.Dispatch
import Sedsprintf.TimeSync.Runtime

/-!
# A router and its time-sync runtime

src/router.rs:3313-3625: `set_timesync_config`, the readings of the clock, `poll_timesync` and
`handle_internal_timesync_packet` with the items they queue and the relay behind. The runtime
keeps a configuration of its own beside the one the router was built with.
-/
namespace Sedsprintf

open Lib

structure TimeSyncRouter (S : Schema) where
  router : RouterState S
  runtime : TimeSyncRuntime

abbrev TimeSyncRouterProgram (S : Schema) := Program (TimeSyncRouter S) Stop

/-- What the application asks for, and the packets the router is given. -/
inductive TimeSyncCall (S : Schema) where
  | networkTime
  | packetTimestamp
  | pollTimesync
  | setTimesyncConfig (cfg : Option TimeSyncConfig)
  | handle (pkt : Packet S) (src : Option Nat) (calledFromQueue : Bool)

inductive TimeSyncAnswer where
  | reading (time : Option NetworkTimeReading)
  | timestamp (ms : UInt64)
  | polled (queued : Bool)
  | done
  deriving DecidableEq, Repr

namespace TimeSyncRouter
variable {S : Schema}

def onRuntime {α : Type} (p : TimeSyncProgram α) : TimeSyncRouterProgram S α := fun s =>
  let r := p s.runtime
  ({ s with runtime := r.1 }, r.2)

def onRouter {α : Type} (p : RouterProgram S α) : TimeSyncRouterProgram S α := fun s =>
  let r := p s.router
  ({ s with router := r.1 }, r.2)

variable (B : Build) (t : TimeSyncTypes S.DataType) (w : RouterWorld S) (now : MonotonicTime)

/-- `log_queue_ts` behind its packet. -/
def queueOwn (pkt : Packet S) : TimeSyncRouterProgram S Unit :=
  onRouter (RouterProgram.txQueueItemWithFlags B (.broadcast (.packet pkt)) false)

def queueAnnounce (priority : Option UInt64) : TimeSyncRouterProgram S Bool :=
  match priority with
  | none => pure false
  | some priority => do
    let pkt ← onRuntime (TimeSyncRuntime.announcePacket B now t w.cfg.sender priority)
    queueOwn B pkt
    pure true

/-- `queue_internal_timesync_request`. -/
def queueRequest (request : Option (UInt64 × UInt64)) : TimeSyncRouterProgram S Bool :=
  match request with
  | none => pure false
  | some request => do
    let pkt ← onRuntime (TimeSyncRuntime.requestPacket B now t w.cfg.sender request)
    queueOwn B pkt
    pure true

def queueDue (due : Option TimeSyncRuntime.Due) : TimeSyncRouterProgram S Bool :=
  match due with
  | none => pure false
  | some due => do
    let announced ← queueAnnounce B t w now due.announce
    let requested ← queueRequest B t w now due.request
    pure (announced || requested)

def pollTimesync : TimeSyncRouterProgram S Bool := do
  let due ← onRuntime (TimeSyncRuntime.pollLocked B now)
  queueDue B t w now due

/-- Where a response goes: back to the side the request came from. -/
def responseItem (src : Option Nat) (pkt : Packet S) : RouterTxItem S :=
  match src with
  | some dst => .toSide none dst (.packet pkt)
  | none => .broadcast (.packet pkt)

/-- `queue_internal_timesync_response`. -/
def queueResponse (src : Option Nat) (response : Option (TimeSyncRequestFields × UInt64)) :
    TimeSyncRouterProgram S Unit :=
  match response with
  | none => pure ()
  | some (request, time) => do
    let pkt ← onRuntime (TimeSyncRuntime.responsePacket B now t w.cfg.sender request time)
    onRouter (RouterProgram.txQueueItemWithFlags B (responseItem src pkt) true)

variable (report : Packet S → RouterProgram S Unit)

/-- The relay of the packet, where routing finds a side. -/
def relayPacket (pkt : Packet S) (src : Option Nat) (calledFromQueue : Bool) :
    TimeSyncRouterProgram S Unit :=
  onRouter do
    let relay ← RouterProgram.routed B w (.packet pkt) (.packet pkt) src
    RouterProgram.relayBehind B w report src calledFromQueue relay

def pollAfter (poll : Bool) : TimeSyncRouterProgram S Unit :=
  if poll then do
    let _ ← pollTimesync B t w now
    pure ()
  else pure ()

/-- What follows the locked part. -/
def settleHandled (pkt : Packet S) (src : Option Nat) (calledFromQueue : Bool) :
    TimeSyncRuntime.Handled → TimeSyncRouterProgram S Unit
  | .dropped => pure ()
  | .goesOn response poll => do
    queueResponse B t w now src response
    pollAfter B t w now poll
    relayPacket B w report pkt src calledFromQueue

/-- `built` is the configuration the router was built with. -/
def handleInternalTimesyncPacket (built : Option TimeSyncConfig) (pkt : Packet S)
    (src : Option Nat) (calledFromQueue : Bool) : TimeSyncRouterProgram S Unit :=
  match built with
  | none => relayPacket B w report pkt src calledFromQueue
  | some cfg => do
    let handled ← onRuntime (TimeSyncRuntime.handleLocked B now t cfg pkt)
    settleHandled B t w now report pkt src calledFromQueue handled

/-- A call at one instant, on a router built with that configuration. -/
def call (built : Option TimeSyncConfig) : TimeSyncCall S → TimeSyncRouterProgram S TimeSyncAnswer
  | .networkTime => do
    let reading ← onRuntime (TimeSyncRuntime.networkTime B now)
    pure (.reading reading)
  | .packetTimestamp => do
    let ms ← onRuntime (TimeSyncRuntime.packetTimestampMs B now)
    pure (.timestamp ms)
  | .pollTimesync => do
    let queued ← pollTimesync B t w now
    pure (.polled queued)
  | .setTimesyncConfig cfg => do
    onRuntime (Program.modify fun rt => rt.setTimesyncConfig B cfg)
    pure .done
  | .handle pkt src calledFromQueue => do
    handleInternalTimesyncPacket B t w now report built pkt src calledFromQueue
    pure .done

end TimeSyncRouter

/-- A call with what it meets: the environment, the time, and the depth of the stack. -/
structure TimeSyncInput (S : Schema) where
  world : RouterWorld S
  now : MonotonicTime
  depth : Nat
  call : TimeSyncCall S

namespace TimeSyncRouter
variable {S : Schema} (B : Build) (t : TimeSyncTypes S.DataType) (built : Option TimeSyncConfig)

def perform (s : TimeSyncRouter S) (input : TimeSyncInput S) :
    TimeSyncRouter S × Outcome TimeSyncAnswer :=
  call B t input.world input.now (RouterProgram.reportError B input.world input.depth) built
    input.call s

/-- Call after call. -/
def after (s : TimeSyncRouter S) (inputs : List (TimeSyncInput S)) : TimeSyncRouter S :=
  inputs.foldl (fun s input => (perform B t built s input).1) s

theorem after_cons (s : TimeSyncRouter S) (input : TimeSyncInput S)
    (rest : List (TimeSyncInput S)) :
    after B t built s (input :: rest) = after B t built (perform B t built s input).1 rest := by
  rw [after, List.foldl_cons, ← after]

/-- What each call answered. -/
def answers (s : TimeSyncRouter S) : List (TimeSyncInput S) → List (Outcome TimeSyncAnswer)
  | [] => []
  | input :: rest =>
    (perform B t built s input).2 :: answers (perform B t built s input).1 rest

end TimeSyncRouter
end Sedsprintf
