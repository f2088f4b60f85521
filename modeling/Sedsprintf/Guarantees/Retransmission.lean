import Sedsprintf.Router.Settled
import Sedsprintf.Guarantees.Routing
import Sedsprintf.Guarantees.RelayDedupe

/-!
# A second copy at an intermediate router

The duplicate branch of `Router::rx_item` ends the call: it acknowledges what has a local
handler and forwards nothing. `Relay` has `should_forward_duplicate_reliable_item` there. A
retransmission of the source that passes a router on its way is dropped as long as the router
remembers the first copy.
-/
namespace Sedsprintf

open Lib

namespace RouterInner
variable {B : Build} {S : Schema} {env : RouterEnv S}

/-- The hop part leaves the recorded ids alone. -/
theorem receiveHop_recentRx (st : RouterInner S) (item : RouterRxItem S) :
    (st.receiveHop B env item).1.recentRx = st.recentRx := by
  refine receiveHop_closed (P := fun st' => st'.recentRx = st.recentRx) ?_ rfl item
  refine ⟨fun h => h, fun {st' key seq bytes} h => ?_, fun {st' control key seq} h => ?_⟩
  · have hmove : StoreMoves B st' (st'.acceptOrdered B key seq bytes).1 :=
      .one (.accept st'.stores key seq bytes)
    exact (Stores.Move.recentRx_of_moves hmove).trans h
  · dsimp only [receiver]
    unfold queueReliableControl
    split
    · exact h
    · exact (Stores.Move.recentRx_of_moves (StoreMoves.pushTransmit st' _)).trans h

end RouterInner

section Known
variable {B : Build} {S : Schema} {w : RouterWorld S} {report : Packet S → RouterProgram S Unit}
  {s : RouterState S} {item : RouterRxItem S} {p : Packet S} {id : UInt64}

theorem RouterProgram.isDuplicatePkt_of_known {data : RouterItem S}
    (hid : RouterInner.getHash B data = .ok id) (hknown : id ∈ s.inner.recentRx.q) :
    isDuplicatePkt B data s = (s, .ok true) := by
  have hcheck : onInner (fun st => st.isDuplicatePkt B data) s = (s, .ok true) := by
    rw [onInner, RouterInner.isDuplicatePkt_of_mem hid hknown]
  rw [isDuplicatePkt, Program.bind_apply_of_ok hcheck, if_pos rfl, Program.pure_apply]

/-- A known packet without a local handler is not answered. -/
theorem RouterProgram.ackDuplicate_of_not_local (hcarries : item.data.Carries B p)
    (hlocal : w.receiving.packetHasLocalHandler p = false) :
    ackDuplicate B w item.data item.src s = (s, .ok ()) := by
  have hquiet : RouterInner.acksDuplicate w.receiving p = false := by
    simp [RouterInner.acksDuplicate, hlocal]
  cases hsrc : item.src with
  | none => rfl
  | some src =>
    cases hdata : item.data with
    | packet pkt =>
      rw [hdata] at hcarries
      obtain ⟨rfl, -⟩ := hcarries
      simp [ackDuplicate, hquiet]
    | serialized bytes =>
      rw [hdata] at hcarries
      simp [ackDuplicate, hcarries.2, hquiet]

/-- Nothing happens to it. -/
theorem RouterProgram.events_rxItem_of_known (hcarries : item.data.Carries B p)
    (hlocal : w.receiving.packetHasLocalHandler p = false)
    (hid : RouterInner.getHash B item.data = .ok id) (hknown : id ∈ s.inner.recentRx.q)
    (calledFromQueue : Bool) :
    (rxItem B w report item calledFromQueue s).1.events = s.events := by
  have hadmit : Program.Keeps (fun s' => s'.events = s.events ∧ s'.inner = s.inner)
      (admitItem B item.data item.src : RouterProgram S Unit) := by
    unfold admitItem
    split
    · exact .pure ()
    · exact Program.Keeps.read.bind fun _ => (Program.Keeps.of _).bind fun _ =>
        (Program.Keeps.of _).bind fun _ => .modify fun _ h => h
  have hfirst := hadmit s ⟨rfl, rfl⟩
  unfold rxItem
  generalize hrun : admitItem B item.data item.src s = r at hfirst
  obtain ⟨s', e | ⟨⟨⟩⟩⟩ := r
  · rw [Program.bind_apply_of_error hrun]
    exact hfirst.1
  · rw [Program.bind_apply_of_ok hrun]
    obtain ⟨hevents, hinner⟩ := hfirst
    have hrecent : id ∈ (s'.inner.receiveHop B w.receiving item).1.recentRx.q := by
      rw [RouterInner.receiveHop_recentRx, hinner]
      exact hknown
    generalize hhop : s'.inner.receiveHop B w.receiving item = r at hrecent
    have hreceived : onInner (fun st => st.receiveHop B w.receiving item) s' =
        ({ s' with inner := r.1 }, r.2) := by rw [onInner, hhop]
    obtain ⟨st, e | _ | released⟩ := r
    · rw [Program.bind_apply_of_error hreceived]
      exact hevents
    · rw [Program.bind_apply_of_ok hreceived]
      exact hevents
    · rw [Program.bind_apply_of_ok hreceived]
      have hdup : isDuplicatePkt B item.data { s' with inner := st } =
          ({ s' with inner := st }, .ok true) := isDuplicatePkt_of_known hid hrecent
      dsimp only
      rw [handOver, Program.bind_apply_of_ok hdup, if_pos rfl,
        ackDuplicate_of_not_local hcarries hlocal]
      exact hevents

end Known

/-- The call forwards the item to every side of the plan that routing makes for it. -/
def ForwardedToPlan {S : Schema} (B : Build) (w : RouterWorld S)
    (report : Packet S → RouterProgram S Unit) (s : RouterState S) (item : RouterRxItem S)
    (calledFromQueue : Bool) : Prop :=
  ∀ table plan, s.inner.remoteSidePlan B w.routing s.table item.data item.src = .ok (table, plan) →
    ∀ side ∈ plan, ∃ sent ∈ ((RouterProgram.rxItem B w report item calledFromQueue s).1.forwardsFrom
      item.src).drop (s.forwardsFrom item.src).length, side ∈ sent.2

/-- A copy of a packet whose id is remembered reaches the sides of its plan exactly where
the plan has none. -/
theorem replay_forwarded_iff {B : Build} {S : Schema} {w : RouterWorld S}
    {report : Packet S → RouterProgram S Unit} {s : RouterState S} {item : RouterRxItem S}
    {p : Packet S} {id : UInt64} (hcarries : item.data.Carries B p)
    (hlocal : w.receiving.packetHasLocalHandler p = false)
    (hid : RouterInner.getHash B item.data = .ok id) (hknown : id ∈ s.inner.recentRx.q)
    (calledFromQueue : Bool) :
    ForwardedToPlan B w report s item calledFromQueue ↔
      ∀ table plan, s.inner.remoteSidePlan B w.routing s.table item.data item.src =
        .ok (table, plan) → plan = [] := by
  have hnothing : ((RouterProgram.rxItem B w report item calledFromQueue s).1.forwardsFrom
      item.src).drop (s.forwardsFrom item.src).length = [] := by
    rw [RouterState.forwardsFrom_congr
      (RouterProgram.events_rxItem_of_known hcarries hlocal hid hknown calledFromQueue)]
    exact List.drop_length
  constructor
  · intro h table plan hplan
    refine List.eq_nil_iff_forall_not_mem.mpr fun side hside => ?_
    obtain ⟨sent, hsent, -⟩ := h table plan hplan side hside
    rw [hnothing] at hsent
    cases hsent
  · intro h table plan hplan side hside
    rw [h table plan hplan] at hside
    cases hside

/-- A router that only forwards, between callbacks that take everything. -/
def RouterWorld.gateway : RouterWorld defaultSchema := .quiet (.bare "gw") 0 16

def RouterProgram.rxGateway (data : RouterItem defaultSchema) :
    RouterProgram defaultSchema Unit :=
  rxItem hostBuild .gateway (reportError hostBuild .gateway 0) ⟨some 0, data, 0⟩ false

/-- Two links and the first copy of the fix, under the number 1. -/
def RouterState.behindFix (inner : RouterInner defaultSchema) : RouterState defaultSchema :=
  (RouterProgram.rxGateway (.serialized (gpsFrameAs 1)) ⟨inner.twoSided, .empty, []⟩).1

/-- The packet of a frame, the id a router knows it by, and where it would go. -/
theorem behindFix_view : ∃ (inner : RouterInner defaultSchema) (id : UInt64) (table : _),
    RouterInner.new hostBuild = .ok inner ∧
    RouterInner.getHash hostBuild (.serialized (gpsFrameAs 2) : RouterItem defaultSchema) = .ok id ∧
    id ∈ (RouterState.behindFix inner).inner.recentRx.q ∧
    (RouterState.behindFix inner).table.reliableReturnRoutes[id]? = some 0 ∧
    (RouterState.behindFix inner).inner.remoteSidePlan hostBuild RouterWorld.gateway.routing
      (RouterState.behindFix inner).table (.serialized (gpsFrameAs 2)) (some 0) = .ok (table, [1]) ∧
    ((RouterState.behindFix inner).forwardsFrom (some 0)).length = 1 ∧
    ((RouterProgram.rxGateway (.serialized (gpsFrameAs 2))
      (RouterState.behindFix inner)).1.forwardsFrom (some 0)).length = 1 := by
  obtain ⟨inner, hnew, hview⟩ := Option.map_eq_some_iff.mp (show
    ((RouterInner.new hostBuild : Outcome (RouterInner defaultSchema)).toOption.map fun inner =>
      let s := RouterState.behindFix inner
      let id := RouterInner.getHash hostBuild (.serialized (gpsFrameAs 2) : RouterItem defaultSchema)
      (id.toOption.map fun id => (decide (id ∈ s.inner.recentRx.q),
          s.table.reliableReturnRoutes[id]?),
        (s.inner.remoteSidePlan hostBuild RouterWorld.gateway.routing s.table
          (.serialized (gpsFrameAs 2)) (some 0)).toOption.map Prod.snd,
        (s.forwardsFrom (some 0)).length,
        ((RouterProgram.rxGateway (.serialized (gpsFrameAs 2)) s).1.forwardsFrom (some 0)).length)) =
      some (some (true, some 0), some [1], 1, 1) from by decide +kernel)
  simp only [Prod.mk.injEq] at hview
  obtain ⟨hid, hplan, hbefore, hafter⟩ := hview
  obtain ⟨id, hid, hknown⟩ := Option.map_eq_some_iff.mp hid
  obtain ⟨⟨table, sides⟩, hplan, rfl⟩ := Option.map_eq_some_iff.mp hplan
  obtain ⟨hmem, hroute⟩ := Prod.mk.inj hknown
  exact ⟨inner, id, table, toOption_eq_some.mp hnew, toOption_eq_some.mp hid, of_decide_eq_true hmem,
    hroute, toOption_eq_some.mp hplan, hbefore, hafter⟩

/-- The second copy decodes to the fix. -/
theorem gpsFrame_carries :
    RouterItem.Carries hostBuild (.serialized (gpsFrameAs 2)) gpsDecoded := by
  refine ⟨by decide +kernel, toOption_eq_some.mp ?_⟩
  decide +kernel

/-- The fix comes again under the number 2 from the side it came from first: it has a plan
and does not reach it. -/
theorem replay_forwarded_iff_gps : ∃ inner : RouterInner defaultSchema,
    RouterInner.new hostBuild = .ok inner ∧
    ¬ForwardedToPlan hostBuild .gateway (RouterProgram.reportError hostBuild .gateway 0)
      (RouterState.behindFix inner) ⟨some 0, .serialized (gpsFrameAs 2), 0⟩ false := by
  obtain ⟨inner, id, table, hnew, hid, hknown, -, hplan, -⟩ := behindFix_view
  refine ⟨inner, hnew, fun h => ?_⟩
  have hiff := @replay_forwarded_iff hostBuild defaultSchema .gateway
    (RouterProgram.reportError hostBuild .gateway 0) (RouterState.behindFix inner)
    ⟨some 0, .serialized (gpsFrameAs 2), 0⟩ gpsDecoded id gpsFrame_carries rfl hid hknown false
  cases hiff.mp h _ _ hplan

/-- The same call by itself. The packet is reliable, has no local handler, and its return
route is the side it comes from. -/
theorem replay_dropped : ∃ (inner : RouterInner defaultSchema) (id : UInt64),
    RouterInner.new hostBuild = .ok inner ∧
    defaultSchema.isReliableType gpsDecoded.ty = true ∧
    RouterItem.Carries hostBuild (.serialized (gpsFrameAs 2)) gpsDecoded ∧
    RouterWorld.gateway.receiving.packetHasLocalHandler gpsDecoded = false ∧
    id ∈ (RouterState.behindFix inner).inner.recentRx.q ∧
    (RouterState.behindFix inner).table.reliableReturnRoutes[id]? = some 0 ∧
    ¬ForwardedToPlan hostBuild .gateway (RouterProgram.reportError hostBuild .gateway 0)
      (RouterState.behindFix inner) ⟨some 0, .serialized (gpsFrameAs 2), 0⟩ false := by
  obtain ⟨inner, id, table, hnew, hid, hknown, hroute, hplan, hbefore, hafter⟩ := behindFix_view
  refine ⟨inner, id, hnew, by decide, gpsFrame_carries, rfl, hknown, hroute, fun h => ?_⟩
  obtain ⟨sent, hsent, -⟩ := h table [1] hplan 1 (by simp)
  have hnone : (((RouterProgram.rxGateway (.serialized (gpsFrameAs 2))
      (RouterState.behindFix inner)).1.forwardsFrom (some 0)).drop
        ((RouterState.behindFix inner).forwardsFrom (some 0)).length).length = 0 := by
    rw [List.length_drop, hbefore, hafter]
  have hsome : 0 < (((RouterProgram.rxGateway (.serialized (gpsFrameAs 2))
      (RouterState.behindFix inner)).1.forwardsFrom (some 0)).drop
        ((RouterState.behindFix inner).forwardsFrom (some 0)).length).length :=
    List.length_pos_of_mem hsent
  omega

end Sedsprintf
