import Sedsprintf.Relay.Machine
import Sedsprintf.Wire.Rewriting

/-!
# What a TX callback of a relay is called with

src/relay.rs:1206-1348 and 2941-3020: an item is adjusted for its side, numbered or converted
between its two forms on the way to the callback. None of that touches the packet.
-/
namespace Sedsprintf

open Lib

/-- The same packet, apart from the order and repetition of its endpoints. -/
structure Packet.Alike {S : Schema} (p p' : Packet S) : Prop where
  fields : p' = { p with endpoints := p'.endpoints }
  endpoints : ∀ ep, ep ∈ p'.endpoints ↔ ep ∈ p.endpoints

namespace Packet.Alike
variable {B : Build} {S : Schema} {p p' p'' : Packet S}

theorem refl (p : Packet S) : p.Alike p := ⟨rfl, fun _ => Iff.rfl⟩

theorem trans (h : p.Alike p') (h' : p'.Alike p'') : p.Alike p'' := by
  refine ⟨?_, fun ep => (h'.endpoints ep).trans (h.endpoints ep)⟩
  rw [h'.fields, h.fields]

theorem inMemory (h : p.Alike p') (hmem : p.InMemory B) : p'.InMemory B := by
  rw [h.fields]
  exact ⟨hmem.sender_le, hmem.payload_le, hmem.frame_le⟩

end Packet.Alike

section Conveying
variable (B : Build) {S : Schema}

/-- An item is a packet, or the bytes it decodes from. -/
def RouterItem.Holds : RouterItem S → Packet S → Prop
  | .packet p, pkt => p = pkt ∧ pkt.WellFormed B
  | .serialized bytes, pkt => bytes.length ≤ B.isizeMax ∧ deserializePacket B S bytes = .ok pkt

/-- The packet in `data` is in `wire`, too. -/
def RouterItem.Conveys (data wire : RouterItem S) : Prop :=
  ∀ pkt, data.Holds B pkt → pkt.InMemory B → ∃ pkt', wire.Holds B pkt' ∧ pkt.Alike pkt'

/-- A plan that sends the packet of its item, if any. -/
def SendPlan.Conveys (data : RouterItem S) : SendPlan S → Prop
  | .done => True
  | .direct adjusted => data.Conveys B adjusted
  | .number ty => sendType B data = .ok ty ∧ S.isReliableType ty = true

end Conveying

namespace RouterItem.Conveys
variable {B : Build} {S : Schema} {data data' data'' : RouterItem S} {bytes bytes' : List UInt8}
  {pkt : Packet S}

theorem refl (data : RouterItem S) : data.Conveys B data := fun pkt hpkt _ => ⟨pkt, hpkt, .refl pkt⟩

theorem trans (h : data.Conveys B data') (h' : data'.Conveys B data'') : data.Conveys B data'' := by
  intro pkt hpkt hmem
  obtain ⟨pkt', hpkt', halike⟩ := h pkt hpkt hmem
  obtain ⟨pkt'', hpkt'', halike'⟩ := h' pkt' hpkt' (halike.inMemory hmem)
  exact ⟨pkt'', hpkt'', halike.trans halike'⟩

/-- A frame of a reliable type comes with a header of data. -/
theorem dataHeader {ty : S.DataType} (hty : S.isReliableType ty = true) {hdr : ReliableHeader}
    (hflags : hdr.flags &&& reliableFlagAckOnly = 0) : DataHeader ty (some hdr) where
  isSome_eq := hty.symm
  not_ackOnly h hmem := by
    obtain rfl := Option.mem_some.mp hmem
    exact hflags

/-- An encoded packet decodes to itself. -/
theorem serialized {hdr : Option ReliableHeader} (hhdr : DataHeader pkt.ty hdr)
    (h : serializePacketInner B pkt hdr = .ok bytes) :
    (RouterItem.packet pkt).Conveys B (.serialized bytes) := by
  rintro p ⟨rfl, hwf⟩ hmem
  obtain ⟨rfl, hfew, hlen⟩ := serializePacketInner_eq_ok B h
  refine ⟨_, ⟨hlen, deserializePacket_frameBody B hwf hmem hfew hhdr⟩, rfl, fun ep => ?_⟩
  exact mem_bitmapEndpoints_build

theorem encoded (h : serializePacket B pkt = .ok bytes) :
    (RouterItem.packet pkt).Conveys B (.serialized bytes) := by
  unfold serializePacket at h
  split at h
  · rename_i hty
    exact serialized (dataHeader hty (by decide)) h
  · rename_i hty
    exact serialized ⟨by simpa using hty, by simp⟩ h

theorem decoded (h : deserializePacket B S bytes = .ok pkt) :
    (RouterItem.serialized bytes : RouterItem S).Conveys B (.packet pkt) := by
  rintro p ⟨-, hp⟩ -
  obtain rfl := Except.ok.inj (hp.symm.trans h)
  obtain ⟨d⟩ := Decoded.exists_of_ok h
  exact ⟨p, ⟨rfl, Packet.wellFormed_of_new B d.new_ok⟩, .refl p⟩

/-- A frame with another header holds the same packet. -/
theorem rewritten {hdr : ReliableHeader} (hflags : hdr.flags &&& reliableFlagAckOnly = 0)
    {found : Bool} (h : rewriteReliableHeader B S bytes hdr = (bytes', .ok found)) :
    (RouterItem.serialized bytes : RouterItem S).Conveys B (.serialized bytes') := by
  rintro p ⟨hslice, hp⟩ -
  obtain ⟨d⟩ := Decoded.exists_of_ok hp
  cases hty : S.isReliableType p.ty with
  | true =>
    obtain ⟨out, hout, hlen, hdec⟩ := d.rewritten hslice hty hflags
    obtain ⟨rfl, -⟩ := Prod.mk.inj (hout.symm.trans h)
    exact ⟨p, ⟨hlen ▸ hslice, hdec⟩, .refl p⟩
  | false =>
    have hoffset := d.reliableHeaderOffset_eq hslice
    rw [hty] at hoffset
    simp only [rewriteReliableHeader, hoffset] at h
    obtain ⟨rfl, -⟩ := Prod.mk.inj h
    exact ⟨p, ⟨hslice, hp⟩, .refl p⟩

theorem stripped {frame : TelemetryFrameInfo S}
    (h : stripReliable B bytes frame = .ok (some data')) :
    (RouterItem.serialized bytes).Conveys B data' := by
  have hsame : ∀ {x : RouterItem S}, (.ok (some (.serialized bytes)) : Outcome _) = .ok (some x) →
      (RouterItem.serialized bytes).Conveys B x := by
    intro x hx
    obtain rfl := Option.some.inj (Except.ok.inj hx)
    exact .refl _
  have hflags : reliableFlagUnsequenced &&& reliableFlagAckOnly = 0 := by decide
  unfold stripReliable at h
  split at h
  · split at h
    · split at h
      · cases h
      · split at h
        · split at h
          · cases h
          · rename_i hrewrite
            obtain rfl := Option.some.inj (Except.ok.inj h)
            exact rewritten hflags hrewrite
        · exact hsame h
    · exact hsame h
  · exact hsame h

theorem numbered {ty : S.DataType} {seq : UInt32} {frame : NumberedFrame}
    (hty : sendType B data = .ok ty) (hreliable : S.isReliableType ty = true)
    (h : numberedFrame B S data ⟨reliableFlags S ty, seq, 0⟩ = .ok frame) :
    match frame with
    | .numbered bytes => data.Conveys B (.serialized bytes)
    | .untouched bytes => data.Conveys B (.serialized bytes) := by
  have hflags : reliableFlags S ty &&& reliableFlagAckOnly = 0 := by
    unfold reliableFlags
    split
    · rfl
    · rfl
  cases data with
  | packet pkt =>
    obtain ⟨bytes, hbytes, h⟩ := bind_eq_ok.mp h
    obtain rfl := Except.ok.inj h
    obtain rfl := Except.ok.inj hty
    exact serialized (dataHeader hreliable hflags) hbytes
  | serialized bytes =>
    unfold numberedFrame at h
    dsimp only at h
    split at h
    · cases h
    · obtain rfl := Except.ok.inj h
      exact .refl _
    · rename_i hrewrite
      obtain rfl := Except.ok.inj h
      exact rewritten hflags hrewrite

end RouterItem.Conveys

namespace RelayInner
variable {B : Build} {S : Schema} {st : RelayInner S} {data adjusted : RouterItem S}

open RouterItem

theorem adjustReliableForSide_conveys {opts : SideOptions}
    (h : adjustReliableForSide B opts data = .ok (some adjusted)) : data.Conveys B adjusted := by
  unfold adjustReliableForSide at h
  split at h
  · obtain rfl := Option.some.inj (Except.ok.inj h)
    exact .refl _
  · split at h
    · split at h
      · obtain rfl := Option.some.inj (Except.ok.inj h)
        exact .refl _
      · cases h
      · exact .stripped h
    · split at h
      · cases h
      · obtain rfl := Option.some.inj (Except.ok.inj h)
        exact .refl _

theorem ofAdjusted_conveys {opts : SideOptions} {adjusted : Option (RouterItem S)}
    (h : adjustReliableForSide B opts data = .ok adjusted) :
    (SendPlan.ofAdjusted adjusted).Conveys B data := by
  cases adjusted with
  | none => trivial
  | some adjusted => exact adjustReliableForSide_conveys h

theorem sendPlan_conveys {now : UInt64} {side : Nat} {handler : TxHandlerFn} {plan : SendPlan S}
    (h : st.sendPlan B now side data = .ok (handler, plan)) : plan.Conveys B data := by
  obtain ⟨s, -, h⟩ := bind_eq_ok.mp h
  dsimp only at h
  split at h
  · obtain ⟨-, rfl⟩ := Prod.mk.inj (Except.ok.inj h)
    exact Conveys.refl data
  · split at h
    · split at h
      · obtain ⟨-, rfl⟩ := Prod.mk.inj (Except.ok.inj h)
        exact Conveys.refl data
      · cases h
      · rename_i ty hty
        split at h
        · rename_i hreliable
          obtain ⟨-, rfl⟩ := Prod.mk.inj (Except.ok.inj h)
          exact ⟨hty, hreliable⟩
        · obtain ⟨adjusted, hadjust, h⟩ := bind_eq_ok.mp h
          obtain ⟨-, rfl⟩ := Prod.mk.inj (Except.ok.inj h)
          exact ofAdjusted_conveys hadjust
    · obtain ⟨adjusted, hadjust, h⟩ := bind_eq_ok.mp h
      obtain ⟨-, rfl⟩ := Prod.mk.inj (Except.ok.inj h)
      exact ofAdjusted_conveys hadjust

theorem wireForm_conveys {handler : TxHandlerFn} {wire : RouterItem S}
    (h : wireForm B handler data = some wire) : data.Conveys B wire := by
  unfold wireForm at h
  split at h
  · rename_i pkt
    obtain ⟨bytes, hbytes, rfl⟩ := Option.map_eq_some_iff.mp h
    exact .encoded (toOption_eq_some.mp hbytes)
  · rename_i bytes
    obtain ⟨pkt, hpkt, rfl⟩ := Option.map_eq_some_iff.mp h
    exact .decoded (toOption_eq_some.mp hpkt)
  · obtain rfl := Option.some.inj h
    exact .refl _

theorem planOffer_conveys {streams : TxStreams S} {side : Nat} {handler : TxHandlerFn}
    {plan : SendPlan S} {offer : TxHandlerFn × RouterItem S} (hplan : plan.Conveys B data)
    (h : planOffer B streams side data handler plan = some offer) : data.Conveys B offer.2 := by
  cases plan with
  | done => cases h
  | direct adjusted =>
    obtain rfl := Option.some.inj h
    exact hplan
  | number ty =>
    obtain ⟨taken, -, h⟩ := Option.bind_eq_some_iff.mp h
    split at h
    · rename_i hframe
      obtain rfl := Option.some.inj h
      exact Conveys.numbered hplan.1 hplan.2 hframe
    · rename_i hframe
      obtain rfl := Option.some.inj h
      exact Conveys.numbered hplan.1 hplan.2 hframe
    · cases h

theorem offered_conveys {now : UInt64} {item : RelayTxItem S} {s : Side}
    {offer : TxHandlerFn × RouterItem S} (h : st.offered B now item s = some offer) :
    item.data.Conveys B offer.2 := by
  unfold offered at h
  split at h
  · split at h
    · cases h
    · rename_i hplan
      exact planOffer_conveys (sendPlan_conveys hplan) h
  · split at h
    · rename_i hadjust
      obtain rfl := Option.some.inj h
      exact adjustReliableForSide_conveys hadjust
    · cases h

/-- A callback is called with the packet of the item. -/
theorem reached_conveys {now : UInt64} {tx : SideTx S} {table : RoutingTable S}
    {item : RelayTxItem S} {s : Side} {reached : RouterItem S × RouterItem S}
    (h : st.reached B now tx table item s = some reached) : item.data.Conveys B reached.2 := by
  unfold RelayInner.reached at h
  split at h
  · obtain ⟨offer, hoffer, h⟩ := Option.bind_eq_some_iff.mp h
    obtain ⟨wire, hwire, rfl⟩ := Option.map_eq_some_iff.mp h
    exact (offered_conveys hoffer).trans (wireForm_conveys hwire)
  · cases h

/-- No item turns back at its source. -/
theorem reached_turned {now : UInt64} {tx : SideTx S} {table : RoutingTable S}
    {item : RelayTxItem S} {s : Side} {reached : RouterItem S × RouterItem S}
    (h : st.reached B now tx table item s = some reached) : item.src ≠ some item.dst := by
  unfold RelayInner.reached at h
  split at h
  · rename_i hsendable
    have hallowed := (Bool.and_eq_true_iff.mp hsendable).1
    unfold sendable at hallowed
    split at hallowed
    · cases hallowed
    · unfold routeAllowed at hallowed
      simpa using (Bool.and_eq_true_iff.mp hallowed).1
  · cases h

/-- What the callback of a side answers to a call with `wire`. -/
def answerTo (tx : SideTx S) : RouterItem S → Outcome Unit
  | .serialized bytes => answered (tx.onBytes bytes 0)
  | .packet pkt => answered (tx.onPacket pkt 0)

/-- A callback is called with the form its handler takes. -/
theorem callHandler_of_wireForm {tx : SideTx S} {handler : TxHandlerFn} {wire : RouterItem S}
    (h : wireForm B handler data = some wire) : callHandler B tx handler data 0 = answerTo tx wire := by
  unfold wireForm at h
  unfold callHandler
  split at h
  · obtain ⟨bytes, hbytes, rfl⟩ := Option.map_eq_some_iff.mp h
    simp only [toOption_eq_some.mp hbytes, ok_bind, answerTo]
  · obtain ⟨pkt, hpkt, rfl⟩ := Option.map_eq_some_iff.mp h
    simp only [toOption_eq_some.mp hpkt, ok_bind, answerTo]
  · obtain rfl := Option.some.inj h
    cases handler <;> cases data <;> first | rfl | simp_all

/-- A numbered send through a free gate comes back with what the transmission says of its
frame. -/
theorem sendNumbered_result {full : String} {ty : S.DataType} {transmit : List UInt8 → Outcome Unit}
    {now : UInt64} {tx : ReliableTxState} {taken : UInt32 × ReliableTxState} {bytes : List UInt8}
    (halloc : tx.allocate B = some taken)
    (hframe : numberedFrame B S data ⟨reliableFlags S ty, taken.1, 0⟩ = .ok (.numbered bytes) ∨
      numberedFrame B S data ⟨reliableFlags S ty, taken.1, 0⟩ = .ok (.untouched bytes)) :
    (sendNumbered B S full ty data true transmit now tx).result = transmit bytes := by
  rcases hframe with hframe | hframe
  · simp only [sendNumbered, halloc, hframe, throughGate, if_true]
    cases transmit bytes with
    | error e => rfl
    | ok done => rfl
  · simp only [sendNumbered, halloc, hframe, throughGate, if_true]

/-- A plan that has something for the handler comes back with what the handler says of it. -/
theorem execute_result {tx : SideTx S} {handler : TxHandlerFn} {plan : SendPlan S} {side : Nat}
    {streams : TxStreams S} {full : String} {offer : TxHandlerFn × RouterItem S}
    (hgate : tx.gateFree = true)
    (hoffer : planOffer B streams side data handler plan = some offer) :
    (plan.execute B full callOnce tx handler side data streams).result =
      callHandler B tx offer.1 offer.2 0 := by
  cases plan with
  | done => cases hoffer
  | direct adjusted =>
    obtain rfl := Option.some.inj hoffer
    simp [SendPlan.execute, callSideTxHandler, throughGate, hgate, callOnce]
  | number ty =>
    obtain ⟨taken, halloc, hoffer⟩ := Option.bind_eq_some_iff.mp hoffer
    simp only [SendPlan.execute, hgate]
    split at hoffer
    · rename_i bytes hbytes
      obtain rfl := Option.some.inj hoffer
      exact sendNumbered_result halloc (.inl hbytes)
    · rename_i bytes hbytes
      obtain rfl := Option.some.inj hoffer
      exact sendNumbered_result halloc (.inr hbytes)
    · cases hoffer

/-- A send that reaches the callback comes back with its answer. -/
theorem sendTxItem_reached {turn : RelayTurn S} {item : RelayTxItem S} {s : Side}
    {reached : RouterItem S × RouterItem S}
    (h : st.reached B turn.sendNow turn.sendTx turn.table item s = some reached) :
    (sendTxItem B turn item s st).2 = (answerTo turn.sendTx reached.2).map fun _ => true := by
  unfold RelayInner.reached at h
  split at h
  · rename_i hsendable
    obtain ⟨hsendable, hgate⟩ := Bool.and_eq_true_iff.mp hsendable
    obtain ⟨offer, hoffer, h⟩ := Option.bind_eq_some_iff.mp h
    obtain ⟨wire, hwire, rfl⟩ := Option.map_eq_some_iff.mp h
    have hcall := @callHandler_of_wireForm B S offer.2 turn.sendTx offer.1 wire hwire
    unfold sendable at hsendable
    cases hty : itemType B item.data with
    | error e => simp [hty] at hsendable
    | ok ty =>
      rw [hty] at hsendable
      dsimp only at hsendable
      unfold sendTxItem
      simp only [hty, hsendable, if_true]
      unfold offered at hoffer
      split at hoffer
      · rename_i hhop
        rw [if_pos hhop]
        unfold sendReliableToSide
        cases hplan : st.sendPlan B turn.sendNow item.dst item.data with
        | error e => simp [hplan] at hoffer
        | ok planned =>
          obtain ⟨handler, plan⟩ := planned
          rw [hplan] at hoffer
          dsimp only at hoffer ⊢
          rw [execute_result hgate hoffer, hcall]
      · rename_i hhop
        rw [if_neg hhop]
        split at hoffer
        · rename_i hadjust
          obtain rfl := Option.some.inj hoffer
          simp only [hadjust, callSideTxHandler, throughGate, if_pos hgate, callOnce, hcall]
        · cases hoffer
  · cases h

end RelayInner
end Sedsprintf
