import Sedsprintf.Router.Routing
import Sedsprintf.Router.Receive
import Sedsprintf.Lib.Program

/-!
# The router's programs

src/router.rs:584-599, 1176-1200, 1529-1735, 1785-1870, 2439-2515, 2697-2996, 4204-4265 and
4626-4803: the parts of sending and receiving that call user code. A program works on the
whole state of the router and on a record of what it did. Callbacks are the environment's
(`RouterWorld`): what they answer, and what they do to the router when they call it in turn.
The error packet that a failed callback gives rise to is sent by `report`.
-/
namespace Sedsprintf

open Lib

/-- What the router decides on about the destinations of the packets it tracks. -/
structure EndToEndView (S : Schema) where
  inner : RouterInner S
  table : RoutingTable S
  now : UInt64

/-- What the proofs say something about happens here. -/
inductive RouterEvent (S : Schema) where
  /-- `dispatch_rx_data` is called. -/
  | received (data : RouterItem S) (src : Option Nat)
  /-- `register_end_to_end_reliable_tx`. -/
  | tracked (packetId : UInt64) (data : RouterItem S) (destinations : OrdMap UInt64 Nat)
    (view : EndToEndView S)
  /-- `reconcile_end_to_end_reliable_destinations_locked`. -/
  | reconciled (view : EndToEndView S)
  /-- The scan of `process_end_to_end_reliable_timeouts` begins. -/
  | scanned (view : EndToEndView S)
  /-- A local handler has answered for good: it returned `Ok`, or all its attempts failed. -/
  | handled (handler : Nat) (data : RouterItem S) (ok : Bool)
  /-- `queue_end_to_end_reliable_ack`. -/
  | acknowledged (packetId : UInt64)
  /-- A routing plan is followed. -/
  | forwarded (src : Option Nat) (data : RouterItem S) (sides : List Nat)
  /-- A side's TX callback is about to be called; `live` says that the side is registered
  with egress on. -/
  | transmitted (side : Nat) (live : Bool)
  /-- `is_duplicate_pkt` adds an id to the recent ones. -/
  | remembered (packetId : UInt64)

/-- `RouterInner`, its routing fields included, and what happened so far. -/
structure RouterState (S : Schema) where
  inner : RouterInner S
  table : RoutingTable S
  events : List (RouterEvent S)

inductive Callback (S : Schema) where
  | endpoint (handler : Nat) (data : RouterItem S) (call : Nat)
  | side (side : Nat) (data : RouterItem S)

/-- What `handle_internal_timesync_packet` does with the time-sync runtime, which is left
out: the items it queues, and whether it then goes on to route the packet. -/
structure TimesyncReply (S : Schema) where
  queued : List (RouterTxItem S × Bool)
  goesOn : Outcome Bool

/-- What one call into the router meets. The clock is read once; a callback's answer may
depend on how much has happened before (`moment`), and a TX callback that calls the router
does so behind the send. -/
structure RouterWorld (S : Schema) where
  cfg : RouterConfig S
  now : UInt64
  /-- `packet_timestamp_ms`. -/
  timestamp : UInt64
  timesyncSource : Option String
  answer : (moment handler : Nat) → RouterItem S → (call : Nat) → Except TelemetryError Unit
  sideTx : (moment side : Nat) → SideTx S
  timesync : Packet S → Option Nat → TimesyncReply S
  react : Callback S → RouterState S → RouterState S
  /-- `DataType::TelemetryError`. -/
  telemetryError : S.DataType
  /-- The derived `Debug` texts. -/
  debugEndpoint : S.DataEndpoint → String
  debugError : TelemetryError → String

/-- Everything is taken at once, and nothing calls back. -/
def RouterWorld.quiet {S : Schema} (cfg : RouterConfig S) (now : UInt64)
    (telemetryError : S.DataType) : RouterWorld S where
  cfg := cfg
  now := now
  timestamp := now
  timesyncSource := none
  answer _ _ _ _ := .ok ()
  sideTx _ _ := .accepting now
  timesync _ _ := ⟨[], .ok true⟩
  react _ s := s
  telemetryError := telemetryError
  debugEndpoint ep := (S.getEndpointMeta ep).name
  debugError _ := "error"

abbrev RouterProgram (S : Schema) := Program (RouterState S) Stop

/-- What a call in the world sees. -/
def RouterState.view {S : Schema} (w : RouterWorld S) (s : RouterState S) : EndToEndView S :=
  ⟨s.inner, s.table, w.now⟩

namespace RouterWorld
variable {S : Schema} (w : RouterWorld S)

def routing : RoutingEnv S := ⟨w.cfg, w.now, w.timesyncSource⟩

/-- The parts of `rx_item` in front of the dispatch see this much. -/
def receiving : RouterEnv S where
  sender := w.cfg.sender
  reliable := w.cfg.reliableEnabled
  now := w.now
  timestamp := w.timestamp
  packetHasLocalHandler pkt :=
    pkt.endpoints.any fun ep => w.cfg.handlers.any fun h => h.endpoint == ep
  deliver st _ := (st, .ok ())

end RouterWorld

namespace RouterConfig
variable {S : Schema} (cfg : RouterConfig S)

def endpointHasPacketHandler (ep : S.DataEndpoint) : Bool :=
  cfg.handlers.any fun h => h.endpoint == ep && h.handler == .packet

def endpointHasSerializedHandler (ep : S.DataEndpoint) : Bool :=
  cfg.handlers.any fun h => h.endpoint == ep && h.handler == .serialized

/-- The handlers for the endpoints, in the order they are called in, with their places in
the configuration. -/
def localHandlers (eps : List S.DataEndpoint) : List (EndpointHandler S × Nat) :=
  eps.flatMap fun dest => cfg.handlers.zipIdx.filter fun h => h.1.endpoint == dest

end RouterConfig

namespace RouterProgram
variable {S : Schema}

/-- A function of the inner state as a program. -/
def onInner {α : Type} (f : RouterInner S → RouterInner S × Outcome α) : RouterProgram S α :=
  fun s =>
  let r := f s.inner
  ({ s with inner := r.1 }, r.2)

def record (event : RouterEvent S) : RouterProgram S Unit :=
  Program.modify fun s => { s with events := s.events ++ [event] }

def stops {α : Type} (e : TelemetryError) : RouterProgram S α := Program.of (fail e)

/-- `let _ = …`: an `Err` is dropped, a panic is not. -/
def discard (p : RouterProgram S Unit) : RouterProgram S Unit :=
  p.attempt fun
    | .err _ => true
    | .panic _ => false

section Routes
variable (B : Build) (w : RouterWorld S)

def remoteSidePlan (data : RouterItem S) (exclude : Option Nat) : RouterProgram S (List Nat) :=
  fun s =>
  match s.inner.remoteSidePlan B w.routing s.table data exclude with
  | .error e => (s, .error e)
  | .ok (table, sides) => ({ s with table := table }, .ok sides)

def shouldRouteRemote (data : RouterItem S) (exclude : Option Nat) : RouterProgram S Bool := do
  let sides ← remoteSidePlan B w data exclude
  pure !sides.isEmpty

/-- The type of an item, its bytes peeked. -/
def itemType : RouterItem S → Outcome S.DataType
  | .packet pkt => .ok pkt.ty
  | .serialized bytes => do
    let envelope ← peekEnvelope B S bytes
    .ok envelope.ty

/-- `matches!` on the type; bytes that cannot be read match nothing. -/
def itemHasType (pred : S.DataType → Bool) (data : RouterItem S) : Outcome Bool :=
  match itemType B data with
  | .ok ty => .ok (pred ty)
  | .error (.err _) => .ok false
  | .error (.panic what) => panics what

def txQueueItemWithFlags (item : RouterTxItem S) (ignoreLocal : Bool) : RouterProgram S Unit :=
  onInner fun st => st.txQueueItemWithFlags B item ignoreLocal

end Routes

section Handlers
variable (B : Build) (w : RouterWorld S) (report : Packet S → RouterProgram S Unit)

/-- `make_error_payload`. -/
def makeErrorPayload (msg : String) : List UInt8 :=
  match (S.getMessageMeta w.telemetryError).element with
  | .static count dt _ =>
    let size := count * dataTypeSize B dt
    let bytes := (asBytes msg).take size
    bytes ++ List.replicate (size - bytes.length) 0
  | .dynamic _ _ => asBytes msg

/-- The local endpoints but for the failed one, else all but for it. -/
def errorRecipients (endpoints : List S.DataEndpoint) (dest : Option S.DataEndpoint) :
    List S.DataEndpoint :=
  let without := fun eps : List S.DataEndpoint => eps.filter fun ep => dest != some ep
  let recipients := without (sortDedup (endpoints.filter w.cfg.isLocalEndpoint))
  if recipients.isEmpty then without (sortDedup endpoints) else recipients

/-- The tail of the two error helpers; a message nobody receives goes to the standard
error stream. -/
def emitError (msg : String) (recipients : List S.DataEndpoint) (sender : String)
    (timestamp : UInt64) : RouterProgram S Unit :=
  if recipients.isEmpty then pure ()
  else do
    let pkt ← Program.of (Packet.new B w.telemetryError recipients sender timestamp
      (makeErrorPayload B w msg))
    report pkt

/-- The message of both. -/
def failedOnDevice (what : String) (e : TelemetryError) : String :=
  what ++ " failed on device \"" ++ B.deviceIdentifier ++ "\": " ++ w.debugError e

def handleCallbackError (pkt : Packet S) (dest : Option S.DataEndpoint) (e : TelemetryError) :
    RouterProgram S Unit :=
  let what := match dest with
    | some ep => "Handler for endpoint " ++ w.debugEndpoint ep
    | none => "TX Handler"
  emitError B w report (failedOnDevice B w what e) (errorRecipients w pkt.endpoints dest)
    w.cfg.sender w.timestamp

/-- Its message shows `dest` with the `Option` around it, and the packet goes out in the
name of the sender whose packet failed. -/
def handleCallbackErrorFromEnv (env : TelemetryEnvelope S) (dest : Option S.DataEndpoint)
    (e : TelemetryError) : RouterProgram S Unit :=
  let shown := match dest with
    | some ep => "Some(" ++ w.debugEndpoint ep ++ ")"
    | none => "None"
  emitError B w report (failedOnDevice B w ("Handler for endpoint " ++ shown) e)
    (errorRecipients w env.endpoints dest) env.sender env.timestampMs

/-- `retry` around a local handler, which may call the router. -/
def retryHandler (handler : Nat) (data : RouterItem S) : (times call : Nat) →
    Option TelemetryError → RouterProgram S (Except TelemetryError Unit)
  | 0, _, none => Program.of (panics "times > 0")
  | 0, _, some e => pure (.error e)
  | times + 1, call, _ => do
    let s ← Program.read
    Program.modify (w.react (.endpoint handler data call))
    match w.answer s.events.length handler data call with
    | .ok () => pure (.ok ())
    | .error e => retryHandler handler data times (call + 1) (some e)

/-- The error packet for a failed handler, by the packet where there is one. -/
def reportHandler (pkt : Option (Packet S)) (env : Option (TelemetryEnvelope S))
    (dest : S.DataEndpoint) (e : TelemetryError) : RouterProgram S Unit :=
  match pkt, env with
  | some pkt, _ => handleCallbackError B w report pkt (some dest) e
  | none, some env => handleCallbackErrorFromEnv B w report env (some dest) e
  | none, none => pure ()

/-- `with_retries`; `input` is what the handler is called with. -/
def withRetries (handler : Nat) (dest : S.DataEndpoint) (data input : RouterItem S)
    (pkt : Option (Packet S)) (env : Option (TelemetryEnvelope S)) : RouterProgram S Unit := do
  let result ← retryHandler w handler input B.maxHandlerRetries 0 none
  match result with
  | .ok () => record (.handled handler input true)
  | .error e => do
    record (.handled handler input false)
    onInner fun st => st.removePktId B data
    discard (reportHandler B w report pkt env dest e)
    stops (.handlerError "local handler failed")

/-- `call_handler_with_retries`; the `debug_assert!` on a call without any context is the
empty case. -/
def callHandlerWithRetries (h : EndpointHandler S × Nat) (bytes : Option (List UInt8))
    (pkt : Option (Packet S)) (env : Option (TelemetryEnvelope S)) : RouterProgram S Unit :=
  match h.1.handler, bytes, pkt with
  | _, none, none => pure ()
  | .packet, some d, some p =>
    withRetries B w report h.2 h.1.endpoint (.serialized d) (.packet p) pkt env
  | .packet, none, some p => withRetries B w report h.2 h.1.endpoint (.packet p) (.packet p) pkt env
  | .packet, some _, none => Program.of (panics "Packet handler requires Packet context")
  | .serialized, some d, _ =>
    withRetries B w report h.2 h.1.endpoint (.serialized d) (.serialized d) pkt env
  | .serialized, none, some _ => pure ()

/-- `deserialize_packet` and `validate`. -/
def decodeItem (bytes : List UInt8) : Outcome (Packet S) := do
  let pkt ← deserializePacket B S bytes
  pkt.validate B
  .ok pkt

/-- The packet of an item. -/
def packetOf : RouterItem S → Outcome (Packet S)
  | .packet pkt => .ok pkt
  | .serialized bytes => decodeItem B bytes

/-- The packet in front of the loop over the handlers, where one of them takes packets. -/
def decodeFor (eps : List S.DataEndpoint) (bytes : List UInt8) : Outcome (Option (Packet S)) :=
  if eps.any w.cfg.endpointHasPacketHandler then (decodeItem B bytes).map some else .ok none

/-- The bytes in front of the loop over the handlers, where one of them takes bytes. -/
def encodeFor (eps : List S.DataEndpoint) (pkt : Packet S) : Outcome (Option (List UInt8)) :=
  if eps.any w.cfg.endpointHasSerializedHandler then (serializePacket B pkt).map some else .ok none

/-- One handler on a packet; bytes missing in front of the loop are made here. -/
def callOnPacket (pkt : Packet S) (bytes : Option (List UInt8)) (h : EndpointHandler S × Nat) :
    RouterProgram S Unit :=
  match h.1.handler, bytes with
  | .serialized, some d => callHandlerWithRetries B w report h (some d) (some pkt) none
  | .serialized, none => do
    let d ← Program.of (serializePacket B pkt)
    callHandlerWithRetries B w report h (some d) (some pkt) none
  | .packet, _ => callHandlerWithRetries B w report h none (some pkt) none

/-- The packet a handler on bytes needs, if it needs one and none is there yet. -/
def decodeOnDemand (bytes : List UInt8) (pkt : Option (Packet S)) (h : EndpointHandler S × Nat) :
    Outcome (Option (Packet S)) :=
  match h.1.handler, pkt with
  | .serialized, pkt => .ok pkt
  | .packet, some p => .ok (some p)
  | .packet, none => (decodeItem B bytes).map some

/-- One handler on bytes. -/
def callOnBytes (bytes : List UInt8) (env : TelemetryEnvelope S) (pkt : Option (Packet S))
    (h : EndpointHandler S × Nat) : RouterProgram S Unit :=
  match h.1.handler with
  | .serialized => callHandlerWithRetries B w report h (some bytes) pkt (some env)
  | .packet => callHandlerWithRetries B w report h none pkt (some env)

/-- The loop over the handlers of a serialized item, and the packet if it was decoded;
`guarded` says what a failed handler means to the loop. -/
def callAllOnBytes (guarded : RouterProgram S Unit → RouterProgram S Unit) (bytes : List UInt8)
    (env : TelemetryEnvelope S) :
    List (EndpointHandler S × Nat) → Option (Packet S) → RouterProgram S (Option (Packet S))
  | [], pkt => pure pkt
  | h :: rest, pkt => do
    let pkt ← Program.of (decodeOnDemand B bytes pkt h)
    guarded (callOnBytes B w report bytes env pkt h)
    callAllOnBytes guarded bytes env rest pkt

/-- `dispatch_local_for_item`; the first handler that fails ends it. -/
def dispatchLocalForItem (data : RouterItem S) : RouterProgram S Unit :=
  match data with
  | .packet pkt => do
    Program.of (pkt.validate B)
    if S.isInternalControlType pkt.ty then pure ()
    else do
      let eps := sortDedup pkt.endpoints
      let bytes ← Program.of (encodeFor B w eps pkt)
      Program.forEach (callOnPacket B w report pkt bytes) (w.cfg.localHandlers eps)
  | .serialized bytes => do
    let env ← Program.of (peekEnvelope B S bytes)
    if S.isInternalControlType env.ty then pure ()
    else do
      let pkt ← Program.of (decodeFor B w env.endpoints bytes)
      let _ ← callAllOnBytes B w report (fun p => p) bytes env
        (w.cfg.localHandlers (sortDedup env.endpoints)) pkt
      pure ()

end Handlers
end RouterProgram
end Sedsprintf
