import Sedsprintf.Lib.PrefixCode
import Sedsprintf.Router.Effects
import Sedsprintf.Wire.Identity

/-!
# What error packets are not

The error packet of a failed callback lacks the endpoint whose handler failed, and so do the error
packets it gives rise to in turn. Whatever handlers they reach, none of them is called with a packet
that is for that endpoint. A handler is therefore called with a packet once, whether it fails or
not.
-/
namespace Sedsprintf

open Lib

section Frames
variable {B : Build} {S : Schema} {p q : Packet S} {bytes : List UInt8}

theorem writeUleb128_selfDelimiting : SelfDelimiting (fun _ : UInt64 => True) writeUleb128 := by
  intro v v' rest rest' _ _ heq
  have hread := readUleb128_write v [] rest
  rw [heq, readUleb128_write v' [] rest'] at hread
  obtain ⟨rfl, -⟩ := Prod.mk.inj (Except.ok.inj hread)
  exact ⟨rfl, List.append_cancel_left heq⟩

theorem compressed_eq_of_frameFlags {payload payload' sender sender' : WireForm}
    (h : frameFlags payload sender = frameFlags payload' sender') :
    sender.compressed = sender'.compressed := by
  simp only [frameFlags] at h
  revert h
  generalize payload.compressed = a
  generalize payload'.compressed = a'
  generalize sender.compressed = c
  generalize sender'.compressed = c'
  revert a a' c c'
  decide

/-- One frame is for one set of endpoints. -/
theorem mem_endpoints_of_serializePacket (hp : serializePacket B p = .ok bytes)
    (hq : serializePacket B q = .ok bytes) (ep : S.DataEndpoint) :
    ep ∈ p.endpoints ↔ ep ∈ q.endpoints := by
  rw [serializePacket_eq_inner] at hp hq
  have heq := (serializePacketInner_eq_ok B hp).1.symm.trans (serializePacketInner_eq_ok B hq).1
  simp only [appendCrc32, frameBody, preludeBytes, List.append_assoc, List.cons_append,
    List.nil_append, List.cons.injEq] at heq
  obtain ⟨hflags, -, heq⟩ := heq
  obtain ⟨-, heq⟩ := writeUleb128_selfDelimiting trivial trivial heq
  obtain ⟨-, heq⟩ := writeUleb128_selfDelimiting trivial trivial heq
  obtain ⟨-, heq⟩ := writeUleb128_selfDelimiting trivial trivial heq
  obtain ⟨-, heq⟩ := writeUleb128_selfDelimiting trivial trivial heq
  rw [compressed_eq_of_frameFlags hflags] at heq
  have hbitmaps : buildEndpointBitmap S p.endpoints = buildEndpointBitmap S q.endpoints := by
    have hlength := (buildEndpointBitmap_length p.endpoints).trans
      (buildEndpointBitmap_length q.endpoints).symm
    cases hsender : (compressIfBeneficial B (asBytes q.sender)).compressed with
    | true =>
      simp only [hsender, if_true] at heq
      obtain ⟨-, heq⟩ := writeUleb128_selfDelimiting trivial trivial heq
      exact (List.append_inj heq hlength).1
    | false =>
      simp only [hsender, Bool.false_eq_true, if_false, List.nil_append] at heq
      exact (List.append_inj heq hlength).1
  rw [← mem_bitmapEndpoints_build, hbitmaps, mem_bitmapEndpoints_build]

end Frames

namespace RouterState
variable {S : Schema}

/-- The calls of local handlers with a packet, in either of its forms. -/
def callsWith (p : Packet S) (bytes : List UInt8) (s : RouterState S) : List (Nat × RouterItem S) :=
  s.events.filterMap fun
    | .handled handler data _ =>
      if data = .packet p ∨ data = .serialized bytes then some (handler, data) else none
    | _ => none

end RouterState

namespace RouterProgram
variable {S : Schema} {B : Build} {w : RouterWorld S} {report : Packet S → RouterProgram S Unit}
  {p q : Packet S} {bytes : List UInt8} {ep : S.DataEndpoint} {calls : List (Nat × RouterItem S)}

/-- The calls with the packet are what they were. -/
abbrev KeepsCalls {α : Type} (p : Packet S) (bytes : List UInt8) (program : RouterProgram S α) :
    Prop :=
  ∀ calls, Program.Keeps (fun s => s.callsWith p bytes = calls) program

theorem keepsCalls_onInner {α : Type} (f : RouterInner S → RouterInner S × Outcome α) :
    KeepsCalls p bytes (onInner f) := fun _ _ h => h

theorem keepsCalls_record {event : RouterEvent S}
    (hevent : ∀ handler data ok, event = .handled handler data ok →
      data ≠ .packet p ∧ data ≠ .serialized bytes) : KeepsCalls p bytes (record event) := by
  intro calls s h
  rw [← h]
  cases event with
  | handled handler data ok =>
    obtain ⟨hpacket, hbytes⟩ := hevent handler data ok rfl
    simp [record, RouterState.callsWith, hpacket, hbytes]
  | _ => simp [record, RouterState.callsWith]

theorem keepsCalls_isDuplicatePkt (data : RouterItem S) :
    KeepsCalls p bytes (isDuplicatePkt B data) := fun calls =>
  .bind (keepsCalls_onInner _ calls) fun _ => .ite (.pure true) <|
    .bind (.of _) fun _ => .bind (keepsCalls_record (fun _ _ _ h => by cases h) calls) fun _ => .pure false

theorem keepsCalls_remoteSidePlan (data : RouterItem S) (src : Option Nat) :
    KeepsCalls p bytes (remoteSidePlan B w data src) := by
  intro calls s h
  unfold remoteSidePlan
  split
  · exact h
  · exact h

theorem keepsCalls_trackEndToEnd (data : RouterItem S) (ty : S.DataType) (sides : List Nat)
    (ignoreLocal : Bool) : KeepsCalls p bytes (trackEndToEnd B w data ty sides ignoreLocal) := by
  intro calls
  refine .bind .read fun _ => .ite (fun s h => ?_) (.pure ())
  unfold registerEndToEndReliableTx
  split
  · exact h
  · exact h
  · simpa [RouterState.callsWith] using h

section Callbacks
variable (hreact : ∀ callback s, (w.react callback s).callsWith p bytes = s.callsWith p bytes)
include hreact

theorem keepsCalls_retryHandler (handler : Nat) (data : RouterItem S) (times call : Nat)
    (last : Option TelemetryError) :
    KeepsCalls p bytes (retryHandler w handler data times call last) := by
  intro calls
  induction times generalizing call last with
  | zero =>
    cases last with
    | none => exact .of _
    | some e => exact .pure _
  | succ times ih =>
    refine .bind .read fun s => .bind (fun s h => (hreact _ s).trans h) fun _ => ?_
    cases w.answer s.events.length handler data call with
    | ok a => exact .pure _
    | error e => exact ih (call + 1) (some e)

theorem keepsCalls_sendReliableToSide (side : Nat) (data : RouterItem S) :
    KeepsCalls p bytes (sendReliableToSide B w side data) := by
  intro calls s h
  have hsent : ∀ (inner : RouterInner S) (table : RoutingTable S) (live : Bool),
      (⟨inner, table, s.events ++ [.transmitted side live]⟩ : RouterState S).callsWith p bytes =
        calls := by
    intro inner table live
    simpa [RouterState.callsWith] using h
  unfold sendReliableToSide
  dsimp only
  split
  · exact (hreact _ _).trans (hsent _ _ _)
  · split
    · exact hsent _ _ _
    · exact (hreact _ _).trans (hsent _ _ _)

theorem keepsCalls_trySend {data : RouterItem S}
    (hreport : ∀ e, KeepsCalls p bytes (reportSend B w report data e)) (side : Nat) :
    KeepsCalls p bytes (trySend B w report data side) := by
  intro calls s h
  have hsent := keepsCalls_sendReliableToSide (B := B) hreact side data calls s h
  unfold trySend
  dsimp only
  generalize sendReliableToSide B w side data s = sent at hsent
  obtain ⟨s', (e | what) | ⟨⟨⟩⟩⟩ := sent
  · have hsettled : Program.Keeps (fun s => s.callsWith p bytes = calls)
        (settleSend B w report data (.error (.err e))) :=
      .ite (.pure false) (.bind (.attempt (hreport e calls)) fun _ => .of _)
    exact hsettled s' hsent
  · exact hsent
  · exact hsent

end Callbacks

section Lacking
variable (hreport : ∀ q, ep ∉ q.endpoints → KeepsCalls p bytes (report q))

/-- An error packet is for endpoints of the packet that failed, but for the one it failed at. -/
theorem mem_errorRecipients {endpoints : List S.DataEndpoint} {dest : Option S.DataEndpoint}
    (h : ep ∈ errorRecipients w endpoints dest) : ep ∈ endpoints ∧ dest ≠ some ep := by
  unfold errorRecipients at h
  dsimp only at h
  split at h
  · simpa using h
  · simp only [List.mem_filter, mem_sortDedup, bne_iff_ne] at h
    exact ⟨h.1.1, h.2⟩

include hreport

theorem keepsCalls_emitError {recipients : List S.DataEndpoint} (hlacks : ep ∉ recipients)
    (msg sender : String) (timestamp : UInt64) :
    KeepsCalls p bytes (emitError B w report msg recipients sender timestamp) := by
  intro calls
  refine .ite (.pure ()) ?_
  cases hnew : Packet.new B w.telemetryError recipients sender timestamp
      (makeErrorPayload B w msg) with
  | error e => exact .of _
  | ok pkt =>
    obtain ⟨-, -, stored, -, rfl⟩ := (Packet.new_eq_ok B).mp hnew
    exact hreport _ hlacks calls

theorem keepsCalls_handleCallbackError {dest : Option S.DataEndpoint}
    (hlacks : ep ∈ q.endpoints → dest = some ep) (e : TelemetryError) :
    KeepsCalls p bytes (handleCallbackError B w report q dest e) := by
  refine keepsCalls_emitError hreport (fun h => ?_) _ _ _
  obtain ⟨hmem, hne⟩ := mem_errorRecipients h
  exact hne (hlacks hmem)

theorem keepsCalls_handleCallbackErrorFromEnv {env : TelemetryEnvelope S}
    {dest : Option S.DataEndpoint} (hlacks : ep ∈ env.endpoints → dest = some ep)
    (e : TelemetryError) : KeepsCalls p bytes (handleCallbackErrorFromEnv B w report env dest e) := by
  refine keepsCalls_emitError hreport (fun h => ?_) _ _ _
  obtain ⟨hmem, hne⟩ := mem_errorRecipients h
  exact hne (hlacks hmem)

theorem keepsCalls_reportHandler (pkt : Option (Packet S)) (env : Option (TelemetryEnvelope S))
    (e : TelemetryError) : KeepsCalls p bytes (reportHandler B w report pkt env ep e) := by
  unfold reportHandler
  split
  · exact keepsCalls_handleCallbackError hreport (fun _ => rfl) e
  · exact keepsCalls_handleCallbackErrorFromEnv hreport (fun _ => rfl) e
  · exact fun _ => .pure ()

variable (hreact : ∀ callback s, (w.react callback s).callsWith p bytes = s.callsWith p bytes)
include hreact

/-- A handler that is called with something else. -/
theorem keepsCalls_withRetries (hlacks : ep ∉ q.endpoints) (handler : Nat) (dest : S.DataEndpoint)
    {data input : RouterItem S} (hinput : input ≠ .packet p ∧ input ≠ .serialized bytes) :
    KeepsCalls p bytes (withRetries B w report handler dest data input (some q) none) := by
  have hrecord (ok : Bool) : KeepsCalls p bytes (record (.handled handler input ok)) :=
    keepsCalls_record fun _ _ _ h => by
      obtain ⟨-, rfl, -⟩ := RouterEvent.handled.inj h
      exact hinput
  intro calls
  refine .bind (keepsCalls_retryHandler hreact _ _ _ _ _ calls) fun result => ?_
  cases result with
  | ok a => exact hrecord true calls
  | error e =>
    refine .bind (hrecord false calls) fun _ => .bind (keepsCalls_onInner _ calls) fun _ => ?_
    refine .bind (.attempt ?_) fun _ => .of _
    exact keepsCalls_handleCallbackError hreport (fun h => absurd h hlacks) e calls

variable (hep : ep ∈ p.endpoints) (hbytes : serializePacket B p = .ok bytes)
include hep hbytes

/-- A handler for a packet that lacks the endpoint. -/
theorem keepsCalls_callOnPacket (hlacks : ep ∉ q.endpoints) {encoded : Option (List UInt8)}
    (hencoded : ∀ d ∈ encoded, serializePacket B q = .ok d) (h : EndpointHandler S × Nat) :
    KeepsCalls p bytes (callOnPacket B w report q encoded h) := by
  have hpacket : (.packet q : RouterItem S) ≠ .packet p ∧ (.packet q : RouterItem S) ≠ .serialized bytes := by
    refine ⟨fun heq => hlacks ?_, nofun⟩
    obtain rfl := RouterItem.packet.inj heq
    exact hep
  have hframe {d : List UInt8} (hd : serializePacket B q = .ok d) :
      (.serialized d : RouterItem S) ≠ .packet p ∧ (.serialized d : RouterItem S) ≠ .serialized bytes := by
    refine ⟨nofun, fun heq => hlacks ?_⟩
    obtain rfl := RouterItem.serialized.inj heq
    exact (mem_endpoints_of_serializePacket hbytes hd ep).mp hep
  intro calls
  unfold callOnPacket
  split
  · rename_i hkind
    simp only [callHandlerWithRetries, hkind]
    exact keepsCalls_withRetries hreport hreact hlacks _ _ (hframe (hencoded _ rfl)) calls
  · rename_i hkind
    cases hd : serializePacket B q with
    | error e => exact .of _
    | ok d =>
      rw [Program.of_ok_bind]
      simp only [callHandlerWithRetries, hkind]
      exact keepsCalls_withRetries hreport hreact hlacks _ _ (hframe hd) calls
  · rename_i hkind
    simp only [callHandlerWithRetries, hkind]
    exact keepsCalls_withRetries hreport hreact hlacks _ _ hpacket calls

theorem keepsCalls_localPass (hlacks : ep ∉ q.endpoints) (ignoreLocal : Bool) :
    KeepsCalls p bytes (localPass B w report (.packet q) ignoreLocal) := by
  intro calls
  refine .ite (.pure true) (.bind (keepsCalls_isDuplicatePkt _ calls) fun known => ?_)
  refine .ite (.pure false) (.bind (.of _) fun internal => .ite (.pure true) ?_)
  refine .bind (.bind (.of _) fun _ => .ite (.pure ()) ?_) fun _ => .pure true
  dsimp only
  cases hencode : encodeFor B w (sortDedup q.endpoints) q with
  | error e => exact fun _ h => h
  | ok encoded =>
    rw [Program.of_ok_bind]
    refine .forEach fun h _ => keepsCalls_callOnPacket hreport hreact hep hbytes hlacks ?_ h calls
    intro d hd
    unfold encodeFor at hencode
    split at hencode
    · cases hframe : serializePacket B q with
      | error e => simp [hframe, Except.map] at hencode
      | ok frame =>
        rw [hframe] at hencode
        obtain rfl := Except.ok.inj hencode
        rw [Option.mem_some_iff.mp hd]
    · obtain rfl := Except.ok.inj hencode
      cases hd

/-- So is sending it on. -/
theorem keepsCalls_txBroadcast (hlacks : ep ∉ q.endpoints) (ignoreLocal : Bool) :
    KeepsCalls p bytes (txBroadcast B w report (.packet q) ignoreLocal) := by
  have hfailed (e : TelemetryError) : KeepsCalls p bytes (reportSend B w report (.packet q) e) :=
    keepsCalls_handleCallbackError hreport (fun h => absurd h hlacks) e
  have hplan := @keepsCalls_remoteSidePlan S B w p bytes (.packet q) none
  have hsends (targets : List Nat) : KeepsCalls p bytes (sendToSides B w report (.packet q) targets) := by
    intro calls
    induction targets with
    | nil => exact .pure ()
    | cons side rest ih =>
      refine .bind (keepsCalls_trySend hreact hfailed side calls) fun sent => .ite ih ?_
      exact .forEach fun _ _ => keepsCalls_onInner _ calls
  intro calls
  refine .bind (keepsCalls_localPass hreport hreact hep hbytes hlacks ignoreLocal calls) fun fresh => ?_
  refine .ite (.bind (.of _) fun _ => .bind ?_ fun remote => .ite ?_ (.pure ())) (.pure ())
  · exact .bind (hplan calls) fun _ => .pure _
  · refine .bind (.of _) fun ty => .bind (hplan calls) fun targets => ?_
    refine .bind (keepsCalls_record (fun _ _ _ h => by cases h) calls) fun _ => ?_
    exact .bind (keepsCalls_trackEndToEnd _ _ _ _ calls) fun _ => hsends targets calls

end Lacking

/-- However deep error packets give rise to error packets. -/
theorem keepsCalls_reportError
    (hreact : ∀ callback s, (w.react callback s).callsWith p bytes = s.callsWith p bytes)
    (hep : ep ∈ p.endpoints) (hbytes : serializePacket B p = .ok bytes) (depth : Nat)
    (hlacks : ep ∉ q.endpoints) : KeepsCalls p bytes (reportError B w depth q) := by
  induction depth generalizing q with
  | zero => exact fun calls => .of _
  | succ depth ih =>
    exact keepsCalls_txBroadcast (fun q hq => ih hq) hreact hep hbytes hlacks false

section Bytes

/-- Attempts end in an answer or a panic. -/
theorem retryHandler_ne_err (handler : Nat) (data : RouterItem S) (times call : Nat)
    (last : Option TelemetryError) (s : RouterState S) (e : TelemetryError) :
    (retryHandler w handler data times call last s).2 ≠ .error (.err e) := by
  induction times generalizing call last s with
  | zero =>
    cases last with
    | none => simp [retryHandler, panics]
    | some e' => simp [retryHandler]
  | succ times ih =>
    simp only [retryHandler, Program.read_bind_apply, Program.modify_bind_apply]
    cases w.answer s.events.length handler data call with
    | ok a => simp
    | error e' => exact ih _ _ _

/-- The loop over handlers that all take bytes, `pkt` and `env` for their error packets. -/
def callAllRaw (B : Build) (w : RouterWorld S) (report : Packet S → RouterProgram S Unit)
    (bytes : List UInt8) (pkt : Option (Packet S)) (env : Option (TelemetryEnvelope S))
    (handlers : List (EndpointHandler S × Nat)) : RouterProgram S Unit :=
  Program.forEach (fun h => discard (withRetries B w report h.2 h.1.endpoint (.serialized bytes)
    (.serialized bytes) pkt env)) handlers

theorem callAllRaw_ne_err (pkt : Option (Packet S)) (env : Option (TelemetryEnvelope S))
    (handlers : List (EndpointHandler S × Nat)) (s : RouterState S) (e : TelemetryError) :
    (callAllRaw B w report bytes pkt env handlers s).2 ≠ .error (.err e) :=
  forEach_discard_ne_err _ handlers s e

variable (hreact : ∀ callback s, (w.react callback s).callsWith p bytes = s.callsWith p bytes)
  (hbytes : serializePacket B p = .ok bytes)
include hreact hbytes

/-- One of them, called for an endpoint of the packet. -/
theorem callsWith_withRetries (hep : ep ∈ p.endpoints) (depth handler : Nat)
    (pkt : Option (Packet S)) (env : Option (TelemetryEnvelope S))
    (calls : List (Nat × RouterItem S)) :
    Program.Triple (fun s => s.callsWith p bytes = calls)
      (discard (withRetries B w (reportError B w depth) handler ep (.serialized bytes)
        (.serialized bytes) pkt env))
      (fun _ s => s.callsWith p bytes = calls ++ [(handler, .serialized bytes)]) fun _ => True := by
  have hreport (q : Packet S) (hlacks : ep ∉ q.endpoints) :
      KeepsCalls p bytes (reportError B w depth q) :=
    keepsCalls_reportError hreact hep hbytes depth hlacks
  have hrecord (ok : Bool) (s : RouterState S) (h : s.callsWith p bytes = calls) :
      (record (.handled handler (.serialized bytes) ok) s).1.callsWith p bytes =
        calls ++ [(handler, .serialized bytes)] := by
    simpa [record, RouterState.callsWith] using h
  refine .attempt fun s h => ?_
  have hasked : (retryHandler w handler (.serialized bytes) B.maxHandlerRetries 0 none
      s).1.callsWith p bytes = calls := keepsCalls_retryHandler hreact _ _ _ _ _ calls s h
  have hend := retryHandler_ne_err (w := w) handler (.serialized bytes) B.maxHandlerRetries 0 none s
  cases hrun : retryHandler w handler (.serialized bytes) B.maxHandlerRetries 0 none s with
  | mk t result =>
    rw [hrun] at hasked hend
    rw [withRetries]
    cases result with
    | error stop =>
      rw [Program.bind_apply_of_error hrun]
      cases stop with
      | err e => exact absurd rfl (hend e)
      | panic what => exact .inr ⟨_, rfl, rfl⟩
    | ok answer =>
      rw [Program.bind_apply_of_ok hrun]
      left
      cases answer with
      | ok a => exact hrecord true t hasked
      | error e =>
        have hfails : KeepsCalls p bytes (do
            onInner fun st => st.removePktId B (.serialized bytes)
            discard (reportHandler B w (reportError B w depth) pkt env ep e)
            stops (.handlerError "local handler failed") : RouterProgram S Unit) := by
          refine fun calls => .bind (keepsCalls_onInner _ calls) fun _ => ?_
          refine .bind (.attempt ?_) fun _ => .of _
          exact keepsCalls_reportHandler hreport pkt env e calls
        exact hfails _ _ (hrecord false t hasked)

/-- However they answer, each is called once, in order. -/
theorem callsWith_callAllRaw {handlers : List (EndpointHandler S × Nat)}
    (hmem : ∀ h ∈ handlers, h.1.endpoint ∈ p.endpoints) (depth : Nat) (pkt : Option (Packet S))
    (env : Option (TelemetryEnvelope S)) (calls : List (Nat × RouterItem S)) :
    Program.Triple (fun s => s.callsWith p bytes = calls)
      (callAllRaw B w (reportError B w depth) bytes pkt env handlers)
      (fun _ s => s.callsWith p bytes = calls ++ handlers.map fun h => (h.2, .serialized bytes))
      fun _ => True := by
  rw [List.map_eq_flatMap]
  exact .forEach_flatMap
    (fun h hh calls => callsWith_withRetries hreact hbytes (hmem h hh) depth h.2 pkt env calls) calls

end Bytes

end RouterProgram
end Sedsprintf
