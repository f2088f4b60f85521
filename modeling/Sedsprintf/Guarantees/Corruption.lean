import Sedsprintf.Router.Receive
import Sedsprintf.Router.System
import Sedsprintf.Relay.Receive
import Sedsprintf.Relay.System
import Sedsprintf.Wire.Agreement

/-!
# Corrupted frames at the ingress

Both receive paths have a branch that asks for a corrupted frame again. In front of
it every ingress call computes the priority of the item, which needs the envelope,
which needs the checksum.
-/
namespace Sedsprintf

open Lib

/-- The number asked for in place of a corrupted frame. -/
def requestedSeq (expected : UInt32) (hdr : ReliableHeader) : UInt32 :=
  if hdr.unordered then hdr.seq else min expected hdr.seq

/-- A sequenced reliable frame whose checksum fails and whose header still reads. -/
structure Corrupted (B : Build) (S : Schema) (bytes : List UInt8) (ty : S.DataType)
    (hdr : ReliableHeader) : Prop where
  crc : ∃ e, verifyCrc32 B bytes = .error e
  readable : ∃ envelope, peekFrameInfoUnchecked B S bytes = .ok ⟨envelope, some hdr⟩ ∧
    envelope.ty = ty
  reliable : S.isReliableType ty = true
  sequenced : hdr.unsequenced = false

/-- Without its checksum an item has no priority. -/
theorem itemPriority_of_corrupted {B : Build} {S : Schema} {bytes : List UInt8} {e : Stop}
    (h : verifyCrc32 B bytes = .error e) :
    itemPriority B (.serialized bytes : RouterItem S) = .error e := by
  simp only [itemPriority, peekEnvelope, h, bind, Except.bind]

section Router
variable {B : Build} {S : Schema}

/-- A request to the peer waits in the queue. -/
def RouterInner.Asks (B : Build) (st : RouterInner S) (key : StreamKey S) (seq : UInt32) : Prop :=
  ∃ queued ∈ st.transmitQueue.q, ∃ pkt : Packet S,
    queued.item = .toSide none key.side (.packet pkt) ∧ pkt.ty = S.reliablePacketRequest ∧
      reliableControl B pkt = .ok (key.ty, seq)

namespace Router

/-- The serialized ingress calls for a side. -/
inductive IngressCall where
  | immediate (sideTxActive : Bool)
  | queued
  | isr (busy : Bool)

def ingress (B : Build) (env : RouterEnv S) (r : Router S) (bytes : List UInt8) (side : Nat) :
    IngressCall → Router S × Outcome Unit
  | .immediate sideTxActive => r.rxSerializedFromSide B env sideTxActive bytes side
  | .queued => r.rxSerializedQueueFromSide B bytes side
  | .isr busy => r.rxSerializedQueueFromSideIsr B busy bytes side

/-- The call returns `Ok` and a request waits, behind some turns of `process_rx_queue`
where the call only queues the frame. -/
def AsksAgain (B : Build) (env : RouterEnv S) (r : Router S) (call : IngressCall)
    (bytes : List UInt8) (key : StreamKey S) (seq : UInt32) : Prop :=
  (r.ingress B env bytes key.side call).2 = .ok () ∧
    ∃ busy fuel,
      ((r.ingress B env bytes key.side call).1.processRxQueue B env busy fuel).2 = .ok () ∧
      ((r.ingress B env bytes key.side call).1.processRxQueue B env busy fuel).1.inner.Asks B key seq

theorem ingressItem_of_corrupted {r : Router S} {bytes : List UInt8} {e : Stop}
    (h : verifyCrc32 B bytes = .error e) (side : Nat) :
    ∃ e', r.ingressItem B bytes side = .error e' := by
  unfold ingressItem
  cases r.inner.ensureSideIngressEnabled side with
  | error e' => exact ⟨e', rfl⟩
  | ok =>
    refine ⟨e, ?_⟩
    simp only [ok_bind, itemPriority_of_corrupted h]
    rfl

/-- Every ingress call refuses the frame and changes nothing. -/
theorem ingress_of_corrupted (env : RouterEnv S) (r : Router S) {bytes : List UInt8} {e : Stop}
    (h : verifyCrc32 B bytes = .error e) (side : Nat) (call : IngressCall) :
    ∃ e', r.ingress B env bytes side call = (r, .error e') := by
  obtain ⟨e', hitem⟩ := @ingressItem_of_corrupted B S r bytes e h side
  refine ⟨e', ?_⟩
  cases call with
  | immediate sideTxActive =>
    cases sideTxActive with
    | true => simp only [ingress, rxSerializedFromSide, if_true, rxSerializedQueueFromSide, hitem]
    | false => simp only [ingress, rxSerializedFromSide, Bool.false_eq_true, if_false, hitem]
  | queued => simp only [ingress, rxSerializedQueueFromSide, hitem]
  | isr busy => simp only [ingress, rxSerializedQueueFromSideIsr, hitem]

theorem not_asksAgain (env : RouterEnv S) (r : Router S) {bytes : List UInt8} {e : Stop}
    (h : verifyCrc32 B bytes = .error e) (call : IngressCall) (key : StreamKey S) (seq : UInt32) :
    ¬r.AsksAgain B env call bytes key seq := by
  rintro ⟨hok, -⟩
  obtain ⟨e', heq⟩ := r.ingress_of_corrupted env h key.side call
  rw [heq] at hok
  cases hok

end Router
end Router

section Relay
variable {B : Build} {S : Schema}

namespace RelayInner

/-- A request to the peer waits in the queue. -/
def Asks (B : Build) (st : RelayInner S) (key : StreamKey S) (seq : UInt32) : Prop :=
  ∃ item ∈ st.txQueue.q, ∃ pkt : Packet S,
    item.src = none ∧ item.dst = key.side ∧ item.data = .packet pkt ∧
      pkt.ty = S.reliablePacketRequest ∧ reliableControl B pkt = .ok (key.ty, seq)

def AsksAgain (B : Build) (env : RelayEnv S) (st : RelayInner S) (bytes : List UInt8)
    (key : StreamKey S) (seq : UInt32) : Prop :=
  (st.rxSerializedFromSide B key.side bytes).2 = .ok () ∧
    ∃ fuel, ((st.rxSerializedFromSide B key.side bytes).1.processRxQueue B env fuel).2 = .ok () ∧
      ((st.rxSerializedFromSide B key.side bytes).1.processRxQueue B env fuel).1.Asks B key seq

theorem rxSerializedFromSide_of_corrupted (st : RelayInner S) {bytes : List UInt8} {e : Stop}
    (h : verifyCrc32 B bytes = .error e) (side : Nat) :
    ∃ e', st.rxSerializedFromSide B side bytes = (st, .error e') := by
  unfold rxSerializedFromSide
  cases st.ensureSideIngressEnabled side with
  | error e' => exact ⟨e', rfl⟩
  | ok =>
    refine ⟨e, ?_⟩
    simp only [itemPriority_of_corrupted h]

theorem not_asksAgain (env : RelayEnv S) (st : RelayInner S) {bytes : List UInt8} {e : Stop}
    (h : verifyCrc32 B bytes = .error e) (key : StreamKey S) (seq : UInt32) :
    ¬st.AsksAgain B env bytes key seq := by
  rintro ⟨hok, -⟩
  obtain ⟨e', heq⟩ := st.rxSerializedFromSide_of_corrupted h key.side
  rw [heq] at hok
  cases hok

end RelayInner
end Relay

/-- A corrupted frame is never asked for again, whatever the router, the relay and the
ingress call. -/
theorem corrupted_frame_not_requested {B : Build} {S : Schema} {bytes : List UInt8}
    {ty : S.DataType} {hdr : ReliableHeader} (h : Corrupted B S bytes ty hdr) :
    (∀ (env : RouterEnv S) (r : Router S) (call : Router.IngressCall) (side : Nat),
      ¬r.AsksAgain B env call bytes ⟨side, ty⟩
        (requestedSeq (r.inner.reliableRx.at ⟨side, ty⟩).expectedSeq hdr)) ∧
    (∀ (env : RelayEnv S) (st : RelayInner S) (side : Nat),
      ¬st.AsksAgain B env bytes ⟨side, ty⟩
        (requestedSeq (st.reliableRx.at ⟨side, ty⟩).expectedSeq hdr)) := by
  obtain ⟨e, hcrc⟩ := h.crc
  constructor
  · intro env r call side
    exact r.not_asksAgain env hcrc call _ _
  · intro env st side
    exact st.not_asksAgain env hcrc _ _

/-- The fix with one bit of its payload turned. -/
def gpsCorrupted : List UInt8 := gpsFrame.set 21 33

theorem corrupted_gpsCorrupted :
    Corrupted hostBuild defaultSchema gpsCorrupted gpsPacket.ty ⟨0, 7, 0⟩ where
  crc := ⟨.err (.deserialize "crc32 mismatch"), by decide +kernel⟩
  readable := ⟨gpsDecoded.envelope, by decide +kernel, rfl⟩
  reliable := by decide
  sequenced := by decide

/-- The corrupted fix on a new router with one reliable side, through each call, and on
such a relay. -/
theorem corrupted_frame_not_requested_gps :
    (∃ (inner : RouterInner defaultSchema) (s : RouterSystem defaultSchema),
      RouterInner.new hostBuild = .ok inner ∧
      Run (RouterSystem.step hostBuild true) anyStep (.initial inner) [.addSide .reliable] s ∧
      ∀ (isrRxQueue : BoundedDeque (RouterRxItem defaultSchema)) (call : Router.IngressCall),
        ¬(⟨s.inner, isrRxQueue⟩ : Router defaultSchema).AsksAgain hostBuild (.named "gs") call gpsCorrupted
          ⟨0, gpsPacket.ty⟩ (requestedSeq (s.inner.reliableRx.at ⟨0, gpsPacket.ty⟩).expectedSeq
            ⟨0, 7, 0⟩)) ∧
    (∃ (inner : RelayInner defaultSchema) (s : RelaySystem defaultSchema),
      RelayInner.new hostBuild = .ok inner ∧
      Run (RelaySystem.step hostBuild) anyStep (.initial inner) [.addSide .reliable] s ∧
      ¬s.inner.AsksAgain hostBuild .still gpsCorrupted ⟨0, gpsPacket.ty⟩
        (requestedSeq (s.inner.reliableRx.at ⟨0, gpsPacket.ty⟩).expectedSeq ⟨0, 7, 0⟩)) := by
  obtain ⟨hrouter, hrelay⟩ := corrupted_frame_not_requested corrupted_gpsCorrupted
  constructor
  · obtain ⟨inner, s, hnew, hrun, -⟩ := @System.run_of_execute defaultSchema _ _
      (RouterSystem.step hostBuild true) [.addSide .reliable] _
      (fun _ : RouterSystem defaultSchema => ()) () (RouterInner.new hostBuild) (by decide +kernel)
    exact ⟨inner, s, hnew, hrun, fun isrRxQueue call => hrouter (.named "gs") ⟨s.inner, isrRxQueue⟩ call 0⟩
  · obtain ⟨inner, s, hnew, hrun, -⟩ := @System.run_of_execute defaultSchema _ _
      (RelaySystem.step hostBuild) [.addSide .reliable] _
      (fun _ : RelaySystem defaultSchema => ()) () (RelayInner.new hostBuild) (by decide +kernel)
    exact ⟨inner, s, hnew, hrun, hrelay .still s.inner 0⟩

/-- On a side with everything the recovery needs, and room for a request, the corrupted
fix is refused and nothing is queued. -/
theorem corrupted_gps_lost :
    ∃ (inner : RouterInner defaultSchema) (s : RouterSystem defaultSchema),
      RouterInner.new hostBuild = .ok inner ∧
      Run (RouterSystem.step hostBuild true) anyStep (.initial inner) [.addSide .reliable] s ∧
      s.inner.sides[0]?.join = some .reliable ∧ s.inner.hopReliable (.named "gs") 0 .reliable = true ∧
      (s.inner.queueReliableControl hostBuild (.named "gs") defaultSchema.reliablePacketRequest
        ⟨0, gpsPacket.ty⟩ 1).2 = .ok () ∧
      Corrupted hostBuild defaultSchema gpsCorrupted gpsPacket.ty ⟨0, 7, 0⟩ ∧
      requestedSeq (s.inner.reliableRx.at ⟨0, gpsPacket.ty⟩).expectedSeq ⟨0, 7, 0⟩ = 1 ∧
      ∀ isrRxQueue : BoundedDeque (RouterRxItem defaultSchema),
        ((⟨s.inner, isrRxQueue⟩ : Router defaultSchema).rxSerializedFromSide hostBuild (.named "gs") false
          gpsCorrupted 0).2 = fail (.deserialize "crc32 mismatch") ∧
        ¬(⟨s.inner, isrRxQueue⟩ : Router defaultSchema).AsksAgain hostBuild (.named "gs") (.immediate false)
          gpsCorrupted ⟨0, gpsPacket.ty⟩ 1 := by
  obtain ⟨inner, s, hnew, hrun, hview⟩ := @System.run_of_execute defaultSchema _ _
    (RouterSystem.step hostBuild true) [.addSide .reliable] _
    (fun s : RouterSystem defaultSchema =>
      (s.inner.sides[0]?.join, s.inner.hopReliable (.named "gs") 0 .reliable,
        (s.inner.queueReliableControl hostBuild (.named "gs") defaultSchema.reliablePacketRequest
          ⟨0, gpsPacket.ty⟩ 1).2.toOption,
        requestedSeq (s.inner.reliableRx.at ⟨0, gpsPacket.ty⟩).expectedSeq ⟨0, 7, 0⟩,
        (s.inner.ensureSideIngressEnabled 0).toOption))
    (some .reliable, true, some (), 1, some ()) (RouterInner.new hostBuild) (by decide +kernel)
  obtain ⟨hside, hview⟩ := Prod.mk.inj hview
  obtain ⟨hhop, hview⟩ := Prod.mk.inj hview
  obtain ⟨hroom, hview⟩ := Prod.mk.inj hview
  obtain ⟨hseq, hingress⟩ := Prod.mk.inj hview
  obtain ⟨e, hcrc⟩ := corrupted_gpsCorrupted.crc
  have hingress := toOption_eq_some.mp hingress
  refine ⟨inner, s, hnew, hrun, hside, hhop, toOption_eq_some.mp hroom, corrupted_gpsCorrupted, hseq,
    fun isrRxQueue => ⟨?_, Router.not_asksAgain (.named "gs") _ hcrc _ _ _⟩⟩
  have hcrc : verifyCrc32 hostBuild gpsCorrupted = fail (.deserialize "crc32 mismatch") := by
    decide +kernel
  simp only [Router.rxSerializedFromSide, Bool.false_eq_true, if_false, Router.ingressItem, hingress,
    ok_bind, itemPriority_of_corrupted hcrc]
  rfl

end Sedsprintf
