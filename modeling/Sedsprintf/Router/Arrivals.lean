import Sedsprintf.Router.Effects

/-!
# What arrives at a router

`rx_item` is made of a few parts: the hop layer, internal control packets, discovery,
acknowledgements, and the handlers and sends of what is left. What these parts keep, it keeps.
-/
namespace Sedsprintf

open Lib

/-- What `data` holds, valid or not. -/
def RouterItem.Contains {S : Schema} (B : Build) : RouterItem S → Packet S → Prop
  | .packet p, pkt => p = pkt
  | .serialized bytes, pkt => deserializePacket B S bytes = .ok pkt

theorem RouterItem.contains_of_packetOf {S : Schema} {B : Build} {data : RouterItem S} {pkt : Packet S}
    (h : RouterProgram.packetOf B data = .ok pkt) : data.Contains B pkt := by
  cases data with
  | packet p => exact Except.ok.inj h
  | serialized bytes =>
    obtain ⟨p, hdecode, h⟩ := bind_eq_ok.mp h
    obtain ⟨-, -, h⟩ := bind_eq_ok.mp h
    obtain rfl := Except.ok.inj h
    exact hdecode

/-- `inv` is kept by the parts of `rx_item` on the items that `comes` admits. -/
structure Arrivals {S : Schema} (B : Build) (w : RouterWorld S)
    (report : Packet S → RouterProgram S Unit) (comes : RouterItem S → Prop)
    (inv : RouterState S → Prop) : Prop where
  guards : Guards B w report (fun _ => True) inv inv
  hop : ∀ item, Program.Keeps inv
    (RouterProgram.onInner fun st => st.receiveHop B w.receiving item)
  received : ∀ data src, Program.Keeps inv (RouterProgram.record (.received data src))
  /-- The packet is that of the item received last. -/
  internal : ∀ {data src pkt}, RouterProgram.packetOf B data = .ok pkt →
    Program.Triple (fun s => ∃ s₀, inv s₀ ∧ s = RouterProgram.receiving data src s₀)
      (RouterProgram.onInner fun st => st.handleInternalReliablePacket B pkt src) (fun _ => inv) inv
  learn : ∀ pkt src, Program.Keeps inv (RouterProgram.learnDiscoveryPacket B w pkt src)
  acknowledge : ∀ {data pkt}, comes data → data.Contains B pkt →
    Program.Keeps inv (RouterProgram.queueEndToEndReliableAck B w pkt)
  admits : ∀ data src, Program.Keeps inv (RouterProgram.admitItem B data src)

section Decoding
variable {B : Build} {S : Schema} {w : RouterWorld S} {bytes : List UInt8}

theorem contains_of_map {pkt : Option (Packet S)}
    (h : (RouterProgram.decodeItem B bytes).map some = .ok pkt) :
    ∀ q ∈ pkt, (RouterItem.serialized bytes).Contains B q := by
  cases hdecode : RouterProgram.decodeItem B bytes with
  | error e =>
    rw [hdecode] at h
    cases h
  | ok q =>
    rw [hdecode] at h
    obtain rfl := Except.ok.inj h
    rintro _ ⟨⟩
    exact RouterItem.contains_of_packetOf hdecode

theorem contains_of_decodeOnDemand {pkt next : Option (Packet S)} {handler : EndpointHandler S × Nat}
    (h : RouterProgram.decodeOnDemand B bytes pkt handler = .ok next)
    (hpkt : ∀ q ∈ pkt, (RouterItem.serialized bytes).Contains B q) :
    ∀ q ∈ next, (RouterItem.serialized bytes).Contains B q := by
  unfold RouterProgram.decodeOnDemand at h
  split at h
  · obtain rfl := Except.ok.inj h
    exact hpkt
  · obtain rfl := Except.ok.inj h
    exact hpkt
  · exact contains_of_map h

theorem contains_of_decodeFor {eps : List S.DataEndpoint} {pkt : Option (Packet S)}
    (h : RouterProgram.decodeFor B w eps bytes = .ok pkt) :
    ∀ q ∈ pkt, (RouterItem.serialized bytes).Contains B q := by
  unfold RouterProgram.decodeFor at h
  split at h
  · exact contains_of_map h
  · obtain rfl := Except.ok.inj h
    rintro _ ⟨⟩

end Decoding

namespace Arrivals
variable {B : Build} {S : Schema} {w : RouterWorld S} {report : Packet S → RouterProgram S Unit}
  {comes : RouterItem S → Prop} {inv : RouterState S → Prop} (h : Arrivals B w report comes inv)
include h

theorem keeps_txQueueItemWithFlags (item : RouterTxItem S) (ignoreLocal : Bool) :
    Program.Keeps inv (RouterProgram.txQueueItemWithFlags B item ignoreLocal) :=
  RouterProgram.keeps_txQueueItemWithFlags h.guards.keeps item ignoreLocal

theorem keeps_shouldRouteRemote (data : RouterItem S) (src : Option Nat) :
    Program.Keeps inv (RouterProgram.shouldRouteRemote B w data src) :=
  RouterProgram.keeps_shouldRouteRemote h.guards.locals.keeps trivial data

theorem keeps_routed (asked data : RouterItem S) (src : Option Nat) :
    Program.Keeps inv (RouterProgram.routed B w asked data src) :=
  (h.keeps_shouldRouteRemote asked src).bind fun _ => .pure _

theorem keeps_handleInternalTimesyncPacket (pkt : Packet S) (src : Option Nat) :
    Program.Keeps inv (RouterProgram.handleInternalTimesyncPacket B w pkt src) := by
  refine Program.Keeps.bind (.forEach fun queued _ => ?_) fun _ => ?_
  · exact h.keeps_txQueueItemWithFlags queued.1 queued.2
  · exact (Program.Keeps.of _).bind fun _ => .ite (h.keeps_routed _ _ src) (.pure _)

theorem keeps_deliverPacket {pkt : Packet S} (hcomes : comes (.packet pkt)) (src : Option Nat) :
    Program.Keeps inv (RouterProgram.deliverPacket B w report pkt src) := by
  refine (h.keeps_shouldRouteRemote _ src).bind fun remote => (Program.Keeps.of _).bind fun bytes => ?_
  refine Program.Keeps.bind (.forEach fun handler _ => ?_) fun _ => ?_
  · exact (RouterProgram.callOnPacket_triple h.guards.locals pkt bytes handler).keeps.attempt
  · exact .ite ((h.acknowledge hcomes rfl).bind fun _ => .pure _) (.pure _)

/-- The loop over the handlers of a frame ends with the packet of the frame or with none. -/
theorem callAllOnBytes_contains (bytes : List UInt8) (env : TelemetryEnvelope S)
    (handlers : List (EndpointHandler S × Nat)) {pkt : Option (Packet S)}
    (hpkt : ∀ q ∈ pkt, (RouterItem.serialized bytes).Contains B q) :
    Program.Triple inv (RouterProgram.callAllOnBytes B w report RouterProgram.discard bytes env
      handlers pkt) (fun decoded s => inv s ∧ ∀ q ∈ decoded, (RouterItem.serialized bytes).Contains B q)
      inv := by
  induction handlers generalizing pkt with
  | nil => exact .pure fun _ hs => ⟨hs, hpkt⟩
  | cons handler rest ih =>
    cases hnext : RouterProgram.decodeOnDemand B bytes pkt handler with
    | error e =>
      simp only [RouterProgram.callAllOnBytes, hnext]
      exact .error fun _ hs => hs
    | ok next =>
      simp only [RouterProgram.callAllOnBytes, hnext, Program.of_ok_bind]
      refine Program.Triple.bind ?_ fun _ => ih ?_
      · exact (RouterProgram.callOnBytes_triple h.guards.locals bytes env next handler).keeps.attempt.triple
      · exact contains_of_decodeOnDemand hnext hpkt

theorem acknowledgeDecoded_triple {bytes : List UInt8} (hcomes : comes (.serialized bytes))
    (env : TelemetryEnvelope S) (src : Option Nat) (decoded : Option (Packet S)) :
    Program.Triple (fun s => inv s ∧ ∀ q ∈ decoded, (RouterItem.serialized bytes).Contains B q)
      (RouterProgram.acknowledgeDecoded B w env src decoded) (fun _ => inv) inv := by
  rintro s ⟨hs, hcontains⟩
  cases decoded with
  | none => exact (Program.Keeps.pure ()).triple s hs
  | some pkt =>
    exact (Program.Keeps.ite (h.acknowledge hcomes (hcontains pkt rfl)) (.pure ())).triple s hs

theorem keeps_deliverSerialized {bytes : List UInt8} (hcomes : comes (.serialized bytes))
    (env : TelemetryEnvelope S) (src : Option Nat) :
    Program.Keeps inv (RouterProgram.deliverSerialized B w report bytes env src) := by
  cases hfirst : RouterProgram.decodeFor B w env.endpoints bytes with
  | error e =>
    simp only [RouterProgram.deliverSerialized, hfirst]
    exact (Program.Triple.error fun _ hs => hs).keeps
  | ok pkt =>
    simp only [RouterProgram.deliverSerialized, hfirst, Program.of_ok_bind]
    refine (h.keeps_shouldRouteRemote _ src).bind fun remote => ?_
    refine ((h.callAllOnBytes_contains bytes env _ (contains_of_decodeFor hfirst)).bind
      fun decoded => ?_).keeps
    exact (h.acknowledgeDecoded_triple hcomes env src decoded).bind fun _ => .pure fun _ hs => hs

theorem dispatchLocal_triple {data : RouterItem S} (hcomes : comes data) (src : Option Nat) :
    Program.Triple (fun s => ∃ s₀, inv s₀ ∧ s = RouterProgram.receiving data src s₀)
      (RouterProgram.dispatchLocal B w report data src) (fun _ => inv) inv := by
  have hreceived : ∀ s, (∃ s₀, inv s₀ ∧ s = RouterProgram.receiving data src s₀) → inv s := by
    rintro _ ⟨s₀, hs, rfl⟩
    exact h.received data src s₀ hs
  have hkeeps {α : Type} {p : RouterProgram S α} (hp : Program.Keeps inv p) : Program.Triple
      (fun s => ∃ s₀, inv s₀ ∧ s = RouterProgram.receiving data src s₀) p (fun _ => inv) inv :=
    hp.triple.imp hreceived (fun _ _ hs => hs) fun _ hs => hs
  cases data with
  | packet pkt =>
    refine (Program.Triple.of _ hreceived).bind fun _ => (h.internal rfl).bind fun handled => ?_
    refine Program.Keeps.triple (.ite (.pure _) (.ite ?_ ?_))
    · exact h.keeps_handleInternalTimesyncPacket pkt src
    · exact (h.learn pkt src).bind fun learned =>
        .ite (h.keeps_routed _ _ src) (h.keeps_deliverPacket hcomes src)
  | serialized bytes =>
    refine (Program.Triple.of _ hreceived).bind fun env =>
      .ite ?_ (.ite (hkeeps ?_) (.ite (hkeeps ?_) (hkeeps ?_)))
    · refine ((Program.Triple.of_value _).imp (fun _ hs => hs) (fun _ _ hs => hs)
        hreceived).bind fun pkt s hs => ?_
      have hpacket : RouterProgram.packetOf B (.serialized bytes) = .ok pkt := hs.2
      exact ((h.internal hpacket).bind fun _ => .pure fun _ hs => hs) s hs.1
    · exact (Program.Keeps.of _).bind fun pkt => h.keeps_handleInternalTimesyncPacket pkt src
    · exact (Program.Keeps.of _).bind fun pkt =>
        (h.learn pkt src).bind fun _ => h.keeps_routed _ _ src
    · exact h.keeps_deliverSerialized hcomes env src

theorem keeps_dispatchRxData {data : RouterItem S} (hcomes : comes data) (src : Option Nat)
    (calledFromQueue : Bool) :
    Program.Keeps inv (RouterProgram.dispatchRxData B w report data src calledFromQueue) := by
  have hreceived : Program.Triple inv (RouterProgram.record (.received data src))
      (fun _ s => ∃ s₀, inv s₀ ∧ s = RouterProgram.receiving data src s₀) inv := by
    intro s hs
    exact ⟨fun _ _ => ⟨s, hs, rfl⟩, fun _ _ => h.received data src s hs⟩
  refine (hreceived.bind fun _ => (h.dispatchLocal_triple hcomes src).bind fun relay => ?_).keeps
  cases relay with
  | none => exact .pure fun _ hs => hs
  | some item => exact (RouterProgram.keeps_relaySend h.guards item trivial calledFromQueue).triple

theorem keeps_isDuplicatePkt (data : RouterItem S) :
    Program.Keeps inv (RouterProgram.isDuplicatePkt B data) :=
  RouterProgram.keeps_isDuplicatePkt h.guards.locals.keeps data

theorem keeps_ackDuplicate {data : RouterItem S} (hcomes : comes data) (src : Option Nat) :
    Program.Keeps inv (RouterProgram.ackDuplicate B w data src) := by
  unfold RouterProgram.ackDuplicate
  split
  · exact .pure ()
  · exact .ite (h.acknowledge hcomes rfl) (.pure ())
  · split
    · exact .of _
    · exact .pure ()
    · rename_i hdecode
      exact .ite (h.acknowledge hcomes hdecode) (.pure ())

theorem keeps_dispatchReleased {bytes : List UInt8} (hcomes : comes (.serialized bytes))
    (src : Option Nat) (calledFromQueue : Bool) :
    Program.Keeps inv (RouterProgram.dispatchReleased B w report src calledFromQueue bytes) := by
  refine (h.keeps_isDuplicatePkt _).bind fun again => .ite (.pure ()) ?_
  exact (Program.Keeps.of _).bind fun _ => h.keeps_dispatchRxData hcomes src calledFromQueue

theorem keeps_handOver {data : RouterItem S} (hcomes : comes data) (src : Option Nat)
    (calledFromQueue : Bool) {released : List (List UInt8)}
    (hreleased : ∀ bytes ∈ released, comes (.serialized bytes)) :
    Program.Keeps inv
      (RouterProgram.handOver B w report data src calledFromQueue released) := by
  refine (h.keeps_isDuplicatePkt data).bind fun known => .ite (h.keeps_ackDuplicate hcomes src) ?_
  refine (h.keeps_dispatchRxData hcomes src calledFromQueue).bind fun _ => .forEach fun bytes hmem => ?_
  exact h.keeps_dispatchReleased (hreleased bytes hmem) src calledFromQueue

theorem keeps_rxItem (hcomes : ∀ data, comes data) (item : RouterRxItem S) (calledFromQueue : Bool) :
    Program.Keeps inv (RouterProgram.rxItem B w report item calledFromQueue) := by
  refine (h.admits item.data item.src).bind fun _ => ?_
  refine (h.hop item).bind fun released => ?_
  cases released with
  | none => exact .pure ()
  | some released => exact h.keeps_handOver (hcomes _) item.src calledFromQueue fun _ _ => hcomes _

end Arrivals
end Sedsprintf
