import Sedsprintf.Guarantees.Fanout
import Sedsprintf.Guarantees.Retransmission
import Sedsprintf.Router.Workload

/-!
# Drains from inside a callback

While a side's callback is under way the side-TX gate is held. A drain that is called from
there ends where no item has anything for a TX callback: every turn that goes on leaves less
to do. An item that has is put back on the queue that is being drained.
-/
namespace Sedsprintf

open Lib

/-- The gate is held, and callbacks do not call the router. -/
structure RouterWorld.Held {S : Schema} (w : RouterWorld S) : Prop where
  gate : ∀ moment side, (w.sideTx moment side).gateFree = false
  quiet : ∀ callback s, w.react callback s = s

/-- The plan for the side sends it nothing of the item. -/
def RouterInner.NeedsNothing {S : Schema} (B : Build) (w : RouterWorld S) (data : RouterItem S)
    (st : RouterInner S) (side : Nat) : Prop :=
  ∃ handler, st.sendPlan B w.cfg.reliableEnabled w.now side data = .ok (handler, .done)

/-- A hop replay of a frame that was acknowledged, or for a side that takes nothing. -/
def RouterInner.ReplayIdle {S : Schema} (B : Build) (st : RouterInner S) (dst : Nat)
    (bytes : List UInt8) : Prop :=
  ∃ frame, peekFrameInfo B S bytes = .ok frame ∧ ∀ hdr, frame.reliable = some hdr →
    hdr.seq ∈ (st.reliableTx.at ⟨dst, frame.envelope.ty⟩).sent →
      ∃ side, st.sides[dst]?.join = some side ∧ side.opts.egressEnabled = false

/-- The item, popped from the queue of `s`, has nothing for a TX callback: its handlers take it,
and the sides it is to go to need nothing of it. -/
def RouterProgram.Passes {S : Schema} (B : Build) (w : RouterWorld S)
    (report : Packet S → RouterProgram S Unit) (queued : TxQueued S) (s : RouterState S) : Prop :=
  match queued.item with
  | .reliableReplay dst bytes => s.inner.ReplayIdle B dst bytes
  | _ => ∃ t plan, plannedSides B w report queued s = (t, .ok plan) ∧
      ∀ src data sides, plan = some (src, data, sides) →
        ∀ side ∈ sides, t.inner.NeedsNothing B w data side

/-- A drain that is called from inside a callback: what its turns meet, and the interrupt
queue. -/
structure NestedCall (S : Schema) where
  world : Nat → RouterWorld S
  interrupts : List (RouterRxItem S)
  held : ∀ n, (world n).Held

namespace NestedCall
variable {S : Schema} (call : NestedCall S)

def turn (n : Nat) : RouterTurn S := ⟨call.world n, call.interrupts[n]?⟩

/-- The first `n` turns of a drain. -/
def run (B : Build) (depth : Nat) (drain : RouterDrain) (n : Nat) : RouterProgram S Bool :=
  drain.run B depth (Program.upTo call.turn n)

end NestedCall

namespace RouterProgram
variable {B : Build} {S : Schema} {w : RouterWorld S} {report : Packet S → RouterProgram S Unit}
  {inv : RouterState S → Prop} {s s' : RouterState S} {data : RouterItem S} {sides : List Nat}

section Sends
variable {side : Nat}

theorem sendNumbered_of_held {full : String} {ty : S.DataType}
    {transmit : List UInt8 → Outcome Unit} {now : UInt64} {tx : ReliableTxState} :
    (sendNumbered B S full ty data false transmit now tx).result ≠ .ok () := by
  unfold sendNumbered
  split
  · simp [fail]
  · split
    · simp
    · simp [throughGate, fail]
    · simp [throughGate, fail]

/-- A send that goes well while the gate is held had nothing to send. -/
theorem needsNothing_of_sent (hw : w.Held) (h : sendReliableToSide B w side data s = (s', .ok ())) :
    s.inner.NeedsNothing B w data side ∧ s'.inner = s.inner := by
  unfold sendReliableToSide RouterInner.sendReliableToSide at h
  cases hplan : s.inner.sendPlan B w.cfg.reliableEnabled w.now side data with
  | error e =>
    simp only [hplan] at h
    cases (Prod.mk.inj h).2
  | ok planned =>
    obtain ⟨handler, plan⟩ := planned
    simp only [hplan] at h
    cases plan with
    | done =>
      simp only [SendPlan.execute, sampleLength, hplan, hw.quiet] at h
      obtain ⟨rfl, -⟩ := Prod.mk.inj h
      exact ⟨⟨handler, hplan⟩, rfl⟩
    | direct adjusted =>
      simp only [SendPlan.execute, callSideTxHandler, hw.gate, throughGate, Bool.false_eq_true,
        if_false, fail] at h
      cases (Prod.mk.inj h).2
    | number ty =>
      simp only [SendPlan.execute, hw.gate] at h
      split at h
      · cases (Prod.mk.inj h).2
      · rename_i hresult
        exact absurd hresult sendNumbered_of_held

/-- And one that has nothing to send goes well. -/
theorem sent_of_needsNothing (hw : w.Held) (h : s.inner.NeedsNothing B w data side) :
    ∃ s', sendReliableToSide B w side data s = (s', .ok ()) := by
  obtain ⟨handler, hplan⟩ := h
  unfold sendReliableToSide RouterInner.sendReliableToSide
  simp only [hplan, SendPlan.execute, sampleLength, hw.quiet]
  exact ⟨_, rfl⟩

theorem SendsAll.inner_eq (hw : w.Held) (h : SendsAll B w data sides s s') :
    s'.inner = s.inner := by
  induction h with
  | nil => rfl
  | cons hsent _ ih => exact ih.trans (needsNothing_of_sent hw hsent).2

theorem sendsAll_iff (hw : w.Held) :
    (∃ s', SendsAll B w data sides s s') ↔ ∀ side ∈ sides, s.inner.NeedsNothing B w data side := by
  induction sides generalizing s with
  | nil => exact ⟨by simp, fun _ => ⟨s, .nil s⟩⟩
  | cons first rest ih =>
    rw [List.forall_mem_cons]
    constructor
    · rintro ⟨s', hsends⟩
      cases hsends with
      | cons hsent hrest =>
        obtain ⟨hfirst, hinner⟩ := needsNothing_of_sent hw hsent
        exact ⟨hfirst, hinner ▸ ih.mp ⟨s', hrest⟩⟩
    · rintro ⟨hfirst, hothers⟩
      obtain ⟨t, hsent⟩ := sent_of_needsNothing hw hfirst
      rw [← (needsNothing_of_sent hw hsent).2] at hothers
      obtain ⟨s', hrest⟩ := ih.mpr hothers
      exact ⟨s', .cons hsent hrest⟩

/-- While the gate is held, a hop replay is taken where it is idle. -/
theorem replayTaken_iff (hw : w.Held) {dst : Nat} {bytes : List UInt8} :
    ReplayTaken B w dst bytes s ↔ s.inner.ReplayIdle B dst bytes := by
  have hraw : s.inner.sendReliableRawToSide B (w.sideTx s.events.length dst) dst bytes = .ok () ↔
      ∃ side, s.inner.sides[dst]?.join = some side ∧ side.opts.egressEnabled = false := by
    unfold RouterInner.sendReliableRawToSide sideRef
    cases hside : s.inner.sides[dst]?.join with
    | none => simp [okOr, fail, bind, Except.bind]
    | some side => cases hegress : side.opts.egressEnabled <;>
        simp [okOr, bind, Except.bind, hegress, hw.gate, throughGate, fail]
  unfold ReplayTaken RouterInner.ReplayIdle
  simp only [hraw]

/-- While the gate is held, an item is taken by all where it has nothing for a callback. -/
theorem takenByAll_iff (hw : w.Held) {queued : TxQueued S} :
    TakenByAll B w report queued s ↔ Passes B w report queued s := by
  obtain ⟨item, ignoreLocal, priority⟩ := queued
  cases item with
  | reliableReplay dst bytes => exact replayTaken_iff hw
  | _ => simp only [TakenByAll, Passes, sendsAll_iff hw]

end Sends

section Items

/-- At most so much is received, and nothing joins the transmit queue. -/
def QueuesWithin (received : Nat) (waiting : List (TxQueued S)) (s : RouterState S) : Prop :=
  s.inner.receivedQueue.q.length ≤ received ∧ s.inner.transmitQueue.q.Sublist waiting

variable {received : Nat} {waiting : List (TxQueued S)} {queued : TxQueued S}

/-- Handlers and routing queue nothing. -/
theorem queuesWithin_guards (hw : w.Held) :
    LocalGuards B w report (fun _ => True) (QueuesWithin received waiting) fun _ => True where
  keeps {s _} heffect hs := by
    cases heffect with
    | handled handler data hok => exact hs
    | advance hsrc => exact hs
    | forwarded hsrc data sides => exact hs
    | note data =>
      have hreceived := RouterInner.isDuplicatePkt_received (B := B) s.inner data
      have hqueue := (RouterInner.isDuplicatePkt_keeps (B := B) s.inner data).2
      exact ⟨hreceived.trans hs.1, hqueue.trans hs.2⟩
    | remembered packetId => exact hs
    | forget data =>
      rcases RouterInner.removePktId_cases (B := B) s.inner data with heq | ⟨id, -, heq⟩
      · rw [QueuesWithin, heq]
        exact hs
      · rw [QueuesWithin, heq]
        exact hs
    | track hid hexpected => exact hs
    | react callback =>
      rw [hw.quiet]
      exact hs
  fails _ _ := trivial
  le _ _ := trivial
  report _ _ _ := trivial

/-- An ordinary item that passes queues nothing. -/
theorem ordinary_of_passes (hw : w.Held) (hkind : queued.kind = .ordinary)
    (h : Passes B w report queued s) (hs : QueuesWithin received waiting s) :
    ∃ s', txItemImpl B w report queued.item queued.ignoreLocal s = (s', .ok ()) ∧
      QueuesWithin received waiting s' := by
  have hguards := @queuesWithin_guards B S w report received waiting hw
  have hplanned : ∀ t src data sides,
      plannedSides B w report queued s = (t, .ok (some (src, data, sides))) →
      QueuesWithin received waiting t → (∀ side ∈ sides, t.inner.NeedsNothing B w data side) →
      ∃ s', txItemImpl B w report queued.item queued.ignoreLocal s = (s', .ok ()) ∧
        QueuesWithin received waiting s' := by
    intro t src data sides hplan ht hnothing
    obtain ⟨s', hsends⟩ := (sendsAll_iff hw).mpr hnothing
    refine ⟨s', txItemImpl_of_sendsAll hplan hsends, ?_⟩
    rw [QueuesWithin, hsends.inner_eq hw]
    exact ht
  obtain ⟨item, ignoreLocal, priority⟩ := queued
  cases item with
  | broadcast data =>
    obtain ⟨t, plan, hplan, hnothing⟩ := h
    obtain ⟨u, sides, hsides, hrest⟩ := Program.bind_apply_eq_ok.mp hplan
    obtain ⟨rfl, heq⟩ := Prod.mk.inj hrest
    obtain rfl := Except.ok.inj heq
    have hu := (broadcastSides_triple hguards trivial data ignoreLocal s hs).1 sides
    rw [hsides] at hu
    exact hplanned u none data sides hplan (hu rfl) (hnothing none data sides rfl)
  | toSide src dst data =>
    obtain ⟨t, plan, hplan, hnothing⟩ := h
    obtain ⟨u, sides, hsides, hrest⟩ := Program.bind_apply_eq_ok.mp hplan
    obtain ⟨rfl, heq⟩ := Prod.mk.inj hrest
    obtain rfl := Except.ok.inj heq
    have hu := (allowedSides_triple hguards src dst data ignoreLocal s hs).1 sides
    rw [hsides] at hu
    exact hplanned u src data sides hplan (hu rfl) (hnothing src data sides rfl)
  | endToEndReplay packetId => cases hkind
  | reliableReplay dst bytes => cases hkind

/-- Nor does a replay of a tracked packet, and it uses up none of its retries. -/
theorem endToEnd_of_passes (hw : w.Held) (hkind : queued.kind = .endToEnd)
    (h : Passes B w report queued s) {work : Nat}
    (hs : QueuesWithin received waiting s ∧ s.inner.endToEndWork B ≤ work) :
    ∃ s', txItemImpl B w report queued.item queued.ignoreLocal s = (s', .ok ()) ∧
      QueuesWithin received waiting s' ∧ s'.inner.endToEndWork B ≤ work := by
  obtain ⟨item, ignoreLocal, priority⟩ := queued
  cases item with
  | broadcast data => cases hkind
  | toSide src dst data => cases hkind
  | reliableReplay dst bytes => cases hkind
  | endToEndReplay packetId =>
    obtain ⟨t, plan, hplan, hnothing⟩ := h
    obtain ⟨u, found, hfound, hrest⟩ := Program.bind_apply_eq_ok.mp hplan
    obtain ⟨rfl, heq⟩ := Prod.mk.inj hrest
    obtain rfl := Except.ok.inj heq
    have hfind : Program.Keeps (fun s : RouterState S =>
        QueuesWithin received waiting s ∧ s.inner.endToEndWork B ≤ work)
        (replaySides B w packetId) := by
      refine Program.Keeps.bind (fun s hs => ?_) fun found => ?_
      · have hadds := s.inner.endToEndRetransmitSides_adds (B := B) packetId w.now
        have hqueue : (s.inner.endToEndRetransmitSides packetId w.now).transmitQueue =
            s.inner.transmitQueue := by
          unfold RouterInner.endToEndRetransmitSides
          split
          · rfl
          · split
            · rfl
            · rfl
        exact ⟨⟨hadds.received.trans hs.1.1, hqueue ▸ hs.1.2⟩, hadds.endToEnd.trans hs.2⟩
      · cases found with
        | none => exact .pure none
        | some found =>
          refine Program.Keeps.bind (.ite (fun s hs => ?_) (.pure _)) fun _ => .pure _
          unfold remoteSidePlan
          split
          · exact hs
          · exact hs
    have hu := hfind s hs
    rw [hfound] at hu
    cases found with
    | none => exact ⟨u, txItemImpl_of_none (by simp) hplan, hu⟩
    | some found =>
      obtain ⟨data, sides⟩ := found
      obtain ⟨s', hsends⟩ := (sendsAll_iff hw).mpr (hnothing none data sides rfl)
      refine ⟨s', txItemImpl_of_sendsAll hplan hsends, ?_⟩
      rw [QueuesWithin, hsends.inner_eq hw]
      exact hu

/-- A hop replay that is idle. -/
theorem hop_of_passes (hw : w.Held) (hkind : queued.kind = .hop)
    (h : Passes B w report queued s) :
    ∃ s', txItemImpl B w report queued.item queued.ignoreLocal s = (s', .ok ()) ∧
      s.inner.Adds B 0 0 s'.inner ∧ s'.inner.transmitQueue = s.inner.transmitQueue := by
  obtain ⟨item, ignoreLocal, priority⟩ := queued
  cases item with
  | broadcast data => cases hkind
  | toSide src dst data => cases hkind
  | endToEndReplay packetId => cases hkind
  | reliableReplay dst bytes =>
    have htaken : ReplayTaken B w dst bytes s := (replayTaken_iff hw).mpr h
    obtain ⟨sent, streams, hreplay, hretries⟩ : ∃ sent streams,
        s.inner.txReliableReplay B (w.sideTx s.events.length dst) dst bytes =
          ({ s.inner with reliableTx := streams }, .ok sent) ∧
        TxStreams.retriesLeft B streams ≤ s.inner.reliableTx.retriesLeft B := by
      obtain ⟨frame, hpeek, hraw⟩ := htaken
      obtain ⟨env, reliable⟩ := frame
      unfold RouterInner.txReliableReplay HopNode.processReplay
      simp only [hpeek]
      cases reliable with
      | none => exact ⟨false, s.inner.reliableTx, rfl, le_refl _⟩
      | some hdr =>
        have hopen : TxStreams.retriesLeft B (s.inner.reliableTx.update ⟨dst, env.ty⟩ id) ≤
            s.inner.reliableTx.retriesLeft B := TxStreams.retriesLeft_update (le_refl _)
        dsimp only
        split
        · rename_i hmem
          rw [(RouterInner.hop B).streams_setStreams, TxStreams.at_update, if_pos rfl] at hmem
          have hsent : RouterInner.sendReliableRawToSide B (w.sideTx s.events.length dst)
              ((RouterInner.hop B).setStreams s.inner
                (((RouterInner.hop B).streams s.inner).update ⟨dst, env.ty⟩ id)) dst bytes = .ok () :=
            hraw hdr rfl hmem
          rw [hsent]
          exact ⟨true, _, rfl, (TxStreams.retriesLeft_update
            (ReliableTxState.retriesLeft_markReplayed _).le).trans hopen⟩
        · exact ⟨false, _, rfl, hopen⟩
    have hrun : ∃ s', txReliableReplay B w dst bytes s = (s', .ok ()) ∧
        s'.inner = { s.inner with reliableTx := streams } := by
      unfold txReliableReplay
      simp only [hreplay, hw.quiet]
      split
      · exact ⟨_, rfl, rfl⟩
      · exact ⟨_, rfl, rfl⟩
    obtain ⟨s', hrun, hinner⟩ := hrun
    refine ⟨s', hrun, ?_⟩
    rw [hinner]
    exact ⟨.setStreams hretries, rfl⟩

/-- An item that passes is done, and queues nothing. -/
theorem Passes.done (hw : w.Held) (h : Passes B w report queued s) :
    ∃ s', txItemImpl B w report queued.item queued.ignoreLocal s = (s', .ok ()) ∧
      s'.inner.transmitQueue.q.Sublist s.inner.transmitQueue.q := by
  have hstart : QueuesWithin s.inner.receivedQueue.q.length s.inner.transmitQueue.q s :=
    ⟨le_refl _, .refl _⟩
  cases hkind : queued.kind with
  | ordinary =>
    obtain ⟨s', hdone, hwithin⟩ := ordinary_of_passes hw hkind h hstart
    exact ⟨s', hdone, hwithin.2⟩
  | endToEnd =>
    obtain ⟨s', hdone, hwithin, -⟩ := endToEnd_of_passes hw hkind h ⟨hstart, le_refl _⟩
    exact ⟨s', hdone, hwithin.2⟩
  | hop =>
    obtain ⟨s', hdone, -, hqueue⟩ := hop_of_passes hw hkind h
    exact ⟨s', hdone, hqueue ▸ .refl _⟩

end Items

section Received
variable {received : Nat}

/-- At most so much is received. -/
def ReceivedWithin (received : Nat) (s : RouterState S) : Prop :=
  s.inner.receivedQueue.q.length ≤ received

theorem receivedWithin_effect (hw : w.Held) {plans : Option Nat → Prop} {s s' : RouterState S}
    (h : Effect B w plans s s') (hs : ReceivedWithin received s) : ReceivedWithin received s' := by
  cases h with
  | handled handler data hok => exact hs
  | advance hsrc => exact hs
  | forwarded hsrc data sides => exact hs
  | push queued => exact (s.inner.pushTransmit_received (B := B) queued).trans hs
  | note data => exact (s.inner.isDuplicatePkt_received (B := B) data).trans hs
  | remembered packetId => exact hs
  | forget data =>
    rcases RouterInner.removePktId_cases (B := B) s.inner data with heq | ⟨id, -, heq⟩
    · rw [ReceivedWithin, heq]
      exact hs
    · rw [ReceivedWithin, heq]
      exact hs
  | track hid hexpected => exact hs
  | transmit hlive streams stats => exact hs
  | react callback =>
    rw [hw.quiet]
    exact hs

/-- Behind what was learned, too, only received items are lost. -/
theorem receivedWithin_learnDiscoveryPacket (pkt : Packet S) (src : Option Nat) :
    Program.Keeps (ReceivedWithin received) (learnDiscoveryPacket B w pkt src) := by
  intro s hs
  unfold learnDiscoveryPacket
  split
  · exact hs
  · split
    · split
      · exact hs
      · split
        · exact hs
        · split
          · exact hs
          · rename_i routes _
            obtain ⟨fitted, heq, -⟩ := @Stores.fitDiscoveryLoop_cases _ _ S (RouterQueues.set B) B
              B.wordSize routes.size ({ s.inner with discoveryRoutes := routes } : RouterInner S).stores
            have hfit : ({ s.inner with discoveryRoutes := routes } : RouterInner S).fitDiscoveryBudget
                B = { s.inner with discoveryRoutes := fitted } := by
              exact congrArg s.inner.setStores heq
            dsimp only [reconcileEndToEnd]
            rw [hfit]
            have hstores := (({ s.inner with discoveryRoutes := fitted } :
              RouterInner S).reconcileEndToEnd_frame (B := B) (RouterInner.expectedOf B
                { s.inner with discoveryRoutes := fitted } s.table w.now)).2.1
            have hqueue := congrArg (fun stores => stores.1.receivedQueue.q.length) hstores
            exact hqueue.le.trans hs
    · exact hs

theorem receivedWithin_arrivals (hw : w.Held) (depth : Nat) :
    Arrivals B w (reportError B w depth) (fun _ => True) (ReceivedWithin received) where
  guards := by
    have hsides : w.KeepsSides := fun side data s => by rw [hw.quiet]
    have heffect : ∀ {s s' : RouterState S}, Effect B w (fun _ => True) s s' →
        ReceivedWithin received s → ReceivedWithin received s' := receivedWithin_effect hw
    exact ⟨heffect, heffect, fun _ hs => hs, keeps_reportError heffect hsides trivial depth, hsides⟩
  hop item s hs := (s.inner.receiveHop_received w.receiving item).trans hs
  received data src s hs := hs
  internal {data src pkt} hpacket := by
    rintro _ ⟨s, hs, rfl⟩
    have hkept := (s.inner.handleInternalReliablePacket_received (B := B) pkt src).trans hs
    exact ⟨fun _ _ => hkept, fun _ _ => hkept⟩
  learn := receivedWithin_learnDiscoveryPacket
  acknowledge {data pkt} _ _ := by
    refine Program.Keeps.bind (fun s hs => hs) fun _ s hs => ?_
    exact (s.inner.queueEndToEndReliableAck_received w.receiving pkt).trans hs
  admits data src := by
    cases src with
    | none => exact .pure ()
    | some side =>
      refine Program.Keeps.read.bind fun _ => (Program.Keeps.of _).bind fun _ => ?_
      exact (Program.Keeps.of _).bind fun id s hs => hs

end Received

section Turns

theorem processTimeouts_adds (h : processTimeouts B w s = (s', .ok ())) :
    s.inner.Adds B 0 0 s'.inner := by
  obtain ⟨t, _, hhop, hend⟩ := Program.bind_apply_eq_ok.mp h
  obtain ⟨u, _, hprune, hrest⟩ := Program.bind_apply_eq_ok.mp hend
  obtain ⟨v, _, hreconcile, hscan⟩ := Program.bind_apply_eq_ok.mp hrest
  have hfirst : s.inner.Adds B 0 0 t.inner := by
    rw [← (Prod.mk.inj hhop).1]
    exact s.inner.processReliableTimeouts_adds w.now
  have hpruned : t.inner.Adds B 0 0 u.inner := by
    rw [← (Prod.mk.inj hprune).1]
    exact ⟨le_refl _, le_refl _, le_refl _, le_refl _⟩
  have hreconciled : u.inner.Adds B 0 0 v.inner := by
    rw [← (Prod.mk.inj hreconcile).1]
    exact u.inner.reconcileEndToEnd_adds _
  have hscanned : v.inner.Adds B 0 0 s'.inner := by
    rw [← (Prod.mk.inj hscan).1]
    exact v.inner.scanEndToEndTimeouts_adds w.now
  exact hfirst.trans (hpruned.trans (hreconciled.trans hscanned))

theorem sendOne_false (h : sendOne B w report s = (s', .ok false)) :
    s' = s ∧ s.inner.transmitQueue.q = [] := by
  unfold sendOne at h
  split at h
  · rename_i hempty
    exact ⟨(Prod.mk.inj h).1.symm, BoundedDeque.popFront_eq_none hempty⟩
  · obtain ⟨_, _, -, hdone⟩ := Program.bind_apply_eq_ok.mp h
    cases (Prod.mk.inj hdone).2

theorem receiveOne_false {isr : Option (RouterRxItem S)}
    (h : receiveOne B w report isr s = (s', .ok false)) : s' = s := by
  unfold receiveOne at h
  split at h
  · obtain ⟨_, _, -, hdone⟩ := Program.bind_apply_eq_ok.mp h
    cases (Prod.mk.inj hdone).2
  · split at h
    · exact (Prod.mk.inj h).1.symm
    · obtain ⟨_, _, -, hdone⟩ := Program.bind_apply_eq_ok.mp h
      cases (Prod.mk.inj hdone).2

/-- A turn that sends an item which passes leaves less to send. -/
theorem sendOne_cases (hw : w.Held) {sent : Bool} (h : sendOne B w report s = (s', .ok sent))
    (hpasses : ∀ queued rest, s.inner.transmitQueue.popFront (TxQueued.byteCost B) =
      some (queued, rest) →
        Passes B w report queued { s with inner := { s.inner with transmitQueue := rest } }) :
    (sent = false ∧ s' = s) ∨
      (sent = true ∧ ReceivedWithin s.inner.receivedQueue.q.length s' ∧
        s'.inner.sendsLeft B < s.inner.sendsLeft B) := by
  unfold sendOne at h
  split at h
  · obtain ⟨rfl, hsent⟩ := Prod.mk.inj h
    exact .inl ⟨(Except.ok.inj hsent).symm, rfl⟩
  · rename_i queued rest hpop
    obtain ⟨t, _, himpl, hdone⟩ := Program.bind_apply_eq_ok.mp h
    obtain ⟨rfl, hsent⟩ := Prod.mk.inj hdone
    obtain rfl := Except.ok.inj hsent
    have hpass := hpasses queued rest hpop
    have hordinary := RouterInner.queuedOf_popped hpop .ordinary
    have hendToEnd := RouterInner.endToEndWork_popped hpop
    have hhop := RouterInner.hopWork_popped hpop
    have hstart : QueuesWithin s.inner.receivedQueue.q.length rest.q
        { s with inner := { s.inner with transmitQueue := rest } } := ⟨le_refl _, .refl _⟩
    have hcount : ∀ {t : RouterState S}, t.inner.transmitQueue.q.Sublist rest.q →
        t.inner.queuedOf .ordinary ≤
          ({ s.inner with transmitQueue := rest } : RouterInner S).queuedOf .ordinary :=
      fun hsub => hsub.countP_le
    refine .inr ⟨rfl, ?_⟩
    cases hkind : queued.kind with
    | ordinary =>
      obtain ⟨u, hdone, hwithin⟩ := ordinary_of_passes hw hkind hpass hstart
      obtain ⟨rfl, -⟩ := Prod.mk.inj (himpl.symm.trans hdone)
      rw [hkind, if_pos rfl] at hordinary
      exact ⟨hwithin.1, Prod.Lex.toLex_lt_toLex.mpr
        (.inl (hordinary ▸ Nat.lt_succ_of_le (hcount hwithin.2)))⟩
    | endToEnd =>
      obtain ⟨u, hdone, hwithin, hwork⟩ := endToEnd_of_passes hw hkind hpass ⟨hstart, le_refl _⟩
      obtain ⟨rfl, -⟩ := Prod.mk.inj (himpl.symm.trans hdone)
      rw [hkind, if_neg (by simp), Nat.add_zero] at hordinary
      rw [hkind, if_pos rfl] at hendToEnd
      have hreplays : toLex (t.inner.endToEndWork B, t.inner.hopWork B) <
          toLex (s.inner.endToEndWork B, s.inner.hopWork B) :=
        Prod.Lex.toLex_lt_toLex.mpr (.inl (hendToEnd ▸ Nat.lt_succ_of_le hwork))
      exact ⟨hwithin.1, Prod.Lex.toLex_strictMono (Prod.mk_lt_mk.mpr (.inr
        ⟨hordinary ▸ hcount hwithin.2, hreplays⟩))⟩
    | hop =>
      obtain ⟨u, hdone, hadds, -⟩ := hop_of_passes hw hkind hpass
      obtain ⟨rfl, -⟩ := Prod.mk.inj (himpl.symm.trans hdone)
      rw [hkind, if_neg (by simp), Nat.add_zero] at hordinary hendToEnd
      rw [hkind, if_pos rfl] at hhop
      have hreplays : toLex (t.inner.endToEndWork B, t.inner.hopWork B) <
          toLex (s.inner.endToEndWork B, s.inner.hopWork B) :=
        Prod.Lex.toLex_strictMono (Prod.mk_lt_mk.mpr (.inr
          ⟨hendToEnd ▸ hadds.endToEnd, hhop ▸ Nat.lt_succ_of_le hadds.hop⟩))
      exact ⟨hadds.received, Prod.Lex.toLex_strictMono (Prod.mk_lt_mk.mpr (.inr
        ⟨hordinary ▸ hadds.ordinary, hreplays⟩))⟩

/-- Receiving takes from what was received. -/
theorem receiveOne_cases (hw : w.Held) {depth : Nat} {isr : Option (RouterRxItem S)} {got : Bool}
    (h : receiveOne B w (reportError B w depth) isr s = (s', .ok got)) :
    (got = false ∧ s' = s ∧ isr = none) ∨
      (got = true ∧ isr.isSome = true ∧ ReceivedWithin s.inner.receivedQueue.q.length s') ∨
      (got = true ∧ s'.inner.receivedQueue.q.length < s.inner.receivedQueue.q.length) := by
  have hkeeps : ∀ (received : Nat) (item : RouterRxItem S),
      Program.Keeps (ReceivedWithin received) (do
        rxItem B w (reportError B w depth) item true
        pure true) := fun received item =>
    ((receivedWithin_arrivals hw depth).keeps_rxItem (fun _ => trivial) item true).bind fun _ => .pure true
  have hgot : ∀ {item : RouterRxItem S} {s : RouterState S}, (do
        rxItem B w (reportError B w depth) item true
        pure true) s = (s', Except.ok got) → got = true := by
    intro item s hrun
    obtain ⟨t, _, -, hdone⟩ := Program.bind_apply_eq_ok.mp hrun
    exact (Except.ok.inj (Prod.mk.inj hdone).2).symm
  unfold receiveOne at h
  split at h
  · rename_i item
    have hs := hkeeps s.inner.receivedQueue.q.length item s (le_refl _)
    rw [h] at hs
    exact .inr (.inl ⟨hgot h, rfl, hs⟩)
  · split at h
    · obtain ⟨rfl, hnone⟩ := Prod.mk.inj h
      exact .inl ⟨(Except.ok.inj hnone).symm, rfl, rfl⟩
    · rename_i item rest hpop
      have hs := hkeeps rest.q.length item
        { s with inner := { s.inner with receivedQueue := rest } } (le_refl _)
      rw [h] at hs
      refine .inr (.inr ⟨hgot h, ?_⟩)
      rw [BoundedDeque.popFront_eq_some hpop]
      exact Nat.lt_succ_of_le hs

/-- A turn whose only send is put back. -/
theorem txTurn_of_putBack {s₁ t t' : RouterState S} {src : Option Nat} {dst : Nat} {priority : UInt8}
    {rest : BoundedDeque (TxQueued S)}
    (htimeouts : processTimeouts B w s = (s₁, .ok ()))
    (hpop : s₁.inner.transmitQueue.popFront (TxQueued.byteCost B) =
      some (⟨.toSide src dst data, true, priority⟩, rest))
    (hallowed : allowedSides B w report src dst data true
      { s₁ with inner := { s₁.inner with transmitQueue := rest } } = (t, .ok [dst]))
    (hbusy : trySend B w report data dst t = (t', .ok false))
    (hback : txQueueItemWithFlags B (.toSide src dst data) true t' = (s', .ok ())) :
    txTurn B w report s = (s', .ok true) := by
  have hsends : Program.forEach (sendOrPutBack B w report src data) [dst] t = (s', .ok ()) := by
    rw [Program.forEach, sendOrPutBack, Program.bind_assoc, Program.bind_apply_of_ok hbusy,
      if_neg (by simp), Program.bind_apply_of_ok hback]
    rfl
  have hitem : txToSide B w report src dst data true
      { s₁ with inner := { s₁.inner with transmitQueue := rest } } = (s', .ok ()) := by
    rw [txToSide_apply, Program.bind_apply_of_ok hallowed, hsends]
  unfold txTurn
  rw [Program.bind_apply_of_ok htimeouts]
  unfold sendOne
  rw [hpop]
  exact Program.bind_apply_of_ok hitem

end Turns
end RouterProgram

namespace NestedCall
variable {S : Schema} (call : NestedCall S) (B : Build) (depth : Nat) (drain : RouterDrain)
  {s s' : RouterState S}

/-- What is left to do when turn `n` begins. -/
def work (n : Nat) (s : RouterState S) : Nat ×ₗ Nat ×ₗ Nat ×ₗ Nat :=
  toLex (call.interrupts.length - n + s.inner.receivedQueue.q.length, s.inner.sendsLeft B)

/-- `tx_item` in turn `n`. -/
def report (n : Nat) : Packet S → RouterProgram S Unit :=
  RouterProgram.reportError B (call.world n) depth

/-- Turn `n` pops the item, which leaves the router in `t`. -/
def Pops (s : RouterState S) (n : Nat) (queued : TxQueued S) (t : RouterState S) : Prop :=
  ∃ u v rest, call.run B depth drain n s = (u, .ok false) ∧
    RouterProgram.processTimeouts B (call.world n) u = (v, .ok ()) ∧
    v.inner.transmitQueue.popFront (TxQueued.byteCost B) = some (queued, rest) ∧
    t = { v with inner := { v.inner with transmitQueue := rest } }

/-- The call returns, with an error or without. -/
def Returns (s s' : RouterState S) : Prop :=
  ∃ n, call.run B depth drain n s = (s', .ok true) ∨
    ∃ e, call.run B depth drain n s = (s', .error (.err e))

/-- The item popped in turn `n` is taken by all it is for, and is not queued again. -/
structure Sent (n : Nat) (queued : TxQueued S) (t : RouterState S) : Prop where
  taken : RouterProgram.TakenByAll B (call.world n) (call.report B depth n) queued t
  once : (RouterProgram.txItemImpl B (call.world n) (call.report B depth n) queued.item
    queued.ignoreLocal t).1.inner.transmitQueue.q.Sublist t.inner.transmitQueue.q

/-- It is done with for now, and waits for those that did not take it. -/
structure Kept (n : Nat) (queued : TxQueued S) (t s' : RouterState S) : Prop where
  succeeds : (RouterProgram.txItemImpl B (call.world n) (call.report B depth n) queued.item
    queued.ignoreLocal t).2 = .ok ()
  waits : RouterProgram.WaitsIn B (call.world n) (call.report B depth n) s'.inner.transmitQueue.q
    queued t

/-- The call returns, and every item it pops is sent or waits in the queue it leaves. -/
structure Settles (s : RouterState S) : Prop where
  returns : ∃ s', call.Returns B depth drain s s'
  accounted : ∀ s' n queued t, call.Returns B depth drain s s' →
    call.Pops B depth drain s n queued t →
      call.Sent B depth n queued t ∨ call.Kept B depth n queued t s'

/-- No turn the call comes to panics, and no item it pops has anything for a TX callback, or
fails at its handlers. -/
structure Clear (s : RouterState S) : Prop where
  sound : ∀ n s' what, call.run B depth drain n s ≠ (s', .error (.panic what))
  passes : ∀ n queued t, call.Pops B depth drain s n queued t →
    RouterProgram.Passes B (call.world n) (call.report B depth n) queued t

/-- What else its turns do does not end the call: no timeout fails, and no received item. -/
structure Unhindered (s : RouterState S) : Prop where
  timeouts : ∀ n u v e, call.run B depth drain n s = (u, .ok false) →
    RouterProgram.processTimeouts B (call.world n) u ≠ (v, .error (.err e))
  received : ∀ n u v u' sent v' e, call.run B depth drain n s = (u, .ok false) →
    RouterProgram.processTimeouts B (call.world n) u = (v, .ok ()) →
    RouterProgram.sendOne B (call.world n) (call.report B depth n) v = (u', .ok sent) →
    RouterProgram.receiveOne B (call.world n) (call.report B depth n) call.interrupts[n]? u' ≠
      (v', .error (.err e))

variable {call B depth drain} {t t' : RouterState S} {n : Nat}

theorem work_lt_of_sends
    (hreceived : s'.inner.receivedQueue.q.length ≤ s.inner.receivedQueue.q.length)
    (hsends : s'.inner.sendsLeft B < s.inner.sendsLeft B) :
    call.work B (n + 1) s' < call.work B n s := by
  refine Prod.Lex.toLex_strictMono (Prod.mk_lt_mk.mpr (.inr ⟨?_, hsends⟩))
  omega

theorem work_lt_of_received (hreceived : call.interrupts.length - (n + 1) +
      s'.inner.receivedQueue.q.length <
      call.interrupts.length - n + s.inner.receivedQueue.q.length) :
    call.work B (n + 1) s' < call.work B n s :=
  Prod.Lex.toLex_lt_toLex.mpr (.inl hreceived)

/-- A turn that goes on, with an item that passes, leaves less to do. -/
theorem work_lt (hgoing : call.run B depth drain n s = (t, .ok false))
    (hpasses : ∀ n queued t, call.Pops B depth drain s n queued t →
      RouterProgram.Passes B (call.world n) (call.report B depth n) queued t)
    (hmore : drain.takeTurn B depth (call.turn n) t = (t', .ok true)) :
    call.work B (n + 1) t' < call.work B n t := by
  have hheld := call.held n
  have hfront : ∀ u, RouterProgram.processTimeouts B (call.world n) t = (u, .ok ()) →
      ∀ queued rest, u.inner.transmitQueue.popFront (TxQueued.byteCost B) = some (queued, rest) →
        RouterProgram.Passes B (call.world n) (call.report B depth n) queued
          { u with inner := { u.inner with transmitQueue := rest } } :=
    fun u htimeouts queued rest hpop =>
      hpasses n queued _ ⟨t, u, rest, hgoing, htimeouts, hpop, rfl⟩
  cases drain with
  | tx =>
    obtain ⟨u, _, htimeouts, hsend⟩ := Program.bind_apply_eq_ok.mp hmore
    have hadds := RouterProgram.processTimeouts_adds htimeouts
    rcases RouterProgram.sendOne_cases hheld hsend (hfront u htimeouts) with
      ⟨hnone, -⟩ | ⟨-, hreceived, hsends⟩
    · cases hnone
    · exact work_lt_of_sends (hreceived.trans hadds.received)
        (lt_of_lt_of_le hsends hadds.sendsLeft_le)
  | all =>
    obtain ⟨u, _, htimeouts, hrest⟩ := Program.bind_apply_eq_ok.mp hmore
    obtain ⟨v, sent, hsend, hrest⟩ := Program.bind_apply_eq_ok.mp hrest
    obtain ⟨v', got, hreceive, hdone⟩ := Program.bind_apply_eq_ok.mp hrest
    have hadds := RouterProgram.processTimeouts_adds htimeouts
    have hv : v.inner.receivedQueue.q.length ≤ t.inner.receivedQueue.q.length := by
      rcases RouterProgram.sendOne_cases hheld hsend (hfront u htimeouts) with
        ⟨-, rfl⟩ | ⟨-, hreceived, -⟩
      · exact hadds.received
      · exact hreceived.trans hadds.received
    obtain ⟨rfl, hgoes⟩ := Prod.mk.inj hdone
    rcases RouterProgram.receiveOne_cases hheld hreceive with
      ⟨rfl, rfl, -⟩ | ⟨-, hisr, hreceived⟩ | ⟨-, hreceived⟩
    · rcases RouterProgram.sendOne_cases hheld hsend (hfront u htimeouts) with
        ⟨rfl, -⟩ | ⟨-, hreceived, hsends⟩
      · cases hgoes
      · exact work_lt_of_sends hv (lt_of_lt_of_le hsends hadds.sendsLeft_le)
    · have hlt : n < call.interrupts.length := by
        obtain ⟨item, hitem⟩ := Option.isSome_iff_exists.mp hisr
        exact (List.getElem?_eq_some_iff.mp hitem).1
      apply work_lt_of_received
      have hv' : v'.inner.receivedQueue.q.length ≤ v.inner.receivedQueue.q.length := hreceived
      omega
    · apply work_lt_of_received
      omega

/-- A drain that comes to its end has emptied the transmit queue. -/
theorem transmitQueue_of_ok (h : call.run B depth drain n s = (s', .ok true)) :
    s'.inner.transmitQueue.q = [] := by
  obtain ⟨turn, t, -, hlast⟩ := Program.exists_turn_of_done h
  cases drain with
  | tx =>
    obtain ⟨u, _, -, hsend⟩ := Program.bind_apply_eq_ok.mp hlast
    obtain ⟨rfl, hempty⟩ := RouterProgram.sendOne_false hsend
    exact hempty
  | all =>
    obtain ⟨u, _, -, hrest⟩ := Program.bind_apply_eq_ok.mp hlast
    obtain ⟨v, sent, hsend, hrest⟩ := Program.bind_apply_eq_ok.mp hrest
    obtain ⟨v', got, hreceive, hdone⟩ := Program.bind_apply_eq_ok.mp hrest
    obtain ⟨rfl, hidle⟩ := Prod.mk.inj hdone
    obtain ⟨rfl, rfl⟩ := Bool.or_eq_false_iff.mp (Except.ok.inj hidle)
    obtain rfl := RouterProgram.receiveOne_false hreceive
    obtain ⟨rfl, hempty⟩ := RouterProgram.sendOne_false hsend
    exact hempty

/-- A call that panics or fails does nothing else. -/
theorem run_eq_of_over {m : Nat} {result result' : Outcome Bool}
    (h : call.run B depth drain n s = (t, result)) (h' : call.run B depth drain m s = (t', result'))
    (hover : result ≠ .ok false) (hover' : result' ≠ .ok false) : result = result' := by
  have hn : (call.run B depth drain n s).2 ≠ .ok false := by rwa [h]
  have hm : (call.run B depth drain m s).2 ≠ .ok false := by rwa [h']
  rcases Nat.le_total n m with hle | hle
  · have heq := Program.loop_upTo_of_over hn hle
    change call.run B depth drain m s = call.run B depth drain n s at heq
    rw [h, h'] at heq
    exact (Prod.mk.inj heq).2.symm
  · have heq := Program.loop_upTo_of_over hm hle
    change call.run B depth drain n s = call.run B depth drain m s at heq
    rw [h, h'] at heq
    exact (Prod.mk.inj heq).2

/-- A call that comes clear of the gate ends. -/
theorem Clear.over (h : call.Clear B depth drain s) :
    ∃ n, (call.run B depth drain n s).2 ≠ .ok false :=
  Program.loop_ends (fun n s => call.work B n s) fun _ _ _ hgoing hmore =>
    work_lt hgoing h.passes hmore

theorem Clear.returns (h : call.Clear B depth drain s) :
    ∃ s', call.Returns B depth drain s s' := by
  obtain ⟨n, hover⟩ := h.over
  cases hrun : call.run B depth drain n s with
  | mk s' result =>
    rw [hrun] at hover
    refine ⟨s', n, ?_⟩
    cases result with
    | ok ended =>
      cases ended with
      | true => exact .inl hrun
      | false => exact absurd rfl hover
    | error e =>
      cases e with
      | err e => exact .inr ⟨e, hrun⟩
      | panic what => exact absurd hrun (h.sound n s' what)

/-- Nothing else waits behind a call that comes to its end. -/
theorem Sent.of_accounted (hempty : s'.inner.transmitQueue.q = []) {queued : TxQueued S}
    (h : call.Sent B depth n queued t ∨ call.Kept B depth n queued t s') :
    call.Sent B depth n queued t := by
  rcases h with hsent | ⟨-, hwaits⟩
  · exact hsent
  · exfalso
    rw [hempty] at hwaits
    obtain ⟨item, ignoreLocal, priority⟩ := queued
    cases item with
    | reliableReplay dst bytes =>
      obtain ⟨again, hagain, -⟩ := hwaits
      cases hagain
    | _ =>
      obtain ⟨_, _, _, _, side, rest, _, -, -, hlater⟩ := hwaits
      obtain ⟨again, hagain, -⟩ := hlater side List.mem_cons_self
      cases hagain

/-- The turn that ends a call with an error fails at the item it pops. -/
theorem Unhindered.pops_of_error (h : call.Unhindered B depth drain s) {e : TelemetryError}
    (hgoing : call.run B depth drain n s = (t, .ok false))
    (herror : drain.takeTurn B depth (call.turn n) t = (s', .error (.err e))) :
    ∃ queued u, call.Pops B depth drain s n queued u ∧
      (RouterProgram.txItemImpl B (call.world n) (call.report B depth n) queued.item
        queued.ignoreLocal u).2 ≠ .ok () := by
  have hsend : ∀ u v, RouterProgram.processTimeouts B (call.world n) t = (u, .ok ()) →
      RouterProgram.sendOne B (call.world n) (call.report B depth n) u = (v, .error (.err e)) →
      ∃ queued u, call.Pops B depth drain s n queued u ∧
        (RouterProgram.txItemImpl B (call.world n) (call.report B depth n) queued.item
          queued.ignoreLocal u).2 ≠ .ok () := by
    intro u v htimeouts hfails
    unfold RouterProgram.sendOne at hfails
    split at hfails
    · cases (Prod.mk.inj hfails).2
    · rename_i queued rest hpop
      refine ⟨queued, _, ⟨t, u, rest, hgoing, htimeouts, hpop, rfl⟩, fun hok => ?_⟩
      rcases Program.bind_apply_eq_error.mp hfails with himpl | ⟨_, _, -, hdone⟩
      · have herr := congrArg Prod.snd himpl
        cases hok.symm.trans herr
      · cases (Prod.mk.inj hdone).2
  cases drain with
  | tx =>
    rcases Program.bind_apply_eq_error.mp herror with htimeouts | ⟨u, _, htimeouts, hfails⟩
    · exact absurd htimeouts (h.timeouts n t s' e hgoing)
    · exact hsend u s' htimeouts hfails
  | all =>
    rcases Program.bind_apply_eq_error.mp herror with htimeouts | ⟨u, _, htimeouts, hrest⟩
    · exact absurd htimeouts (h.timeouts n t s' e hgoing)
    · rcases Program.bind_apply_eq_error.mp hrest with hfails | ⟨v, sent, hsent, hrest⟩
      · exact hsend u s' htimeouts hfails
      · rcases Program.bind_apply_eq_error.mp hrest with hfails | ⟨_, _, -, hdone⟩
        · exact absurd hfails (h.received n t u v sent s' e hgoing htimeouts hsent)
        · cases (Prod.mk.inj hdone).2

end NestedCall

section Hanging

/-- A link that takes packets. -/
def RouterInner.packetLink (inner : RouterInner defaultSchema) : RouterInner defaultSchema :=
  { inner with sides := [some ⟨.packet, ⟨false, false, true, true⟩⟩] }

/-- A callback has sent a reading and found the link busy. -/
def RouterInner.heldUp (inner : RouterInner defaultSchema) : RouterInner defaultSchema :=
  (inner.packetLink.txQueueItemWithFlags hostBuild (.toSide none 0 (.packet batteryPacket)) true).1

def RouterWorld.inCallback : RouterWorld defaultSchema :=
  { RouterWorld.gateway with
    sideTx := fun _ _ => ⟨false, fun _ _ => .ok (), fun _ _ => .ok (), 0⟩ }

def NestedCall.inCallback : NestedCall defaultSchema :=
  ⟨fun _ => .inCallback, [], fun _ => ⟨fun _ _ => rfl, fun _ _ => rfl⟩⟩

theorem RouterProgram.txTurn_again : ∃ inner, RouterInner.new hostBuild = .ok inner ∧ ∀ events,
    ∃ events', RouterProgram.txTurn hostBuild .inCallback
      (RouterProgram.reportError hostBuild .inCallback 0) ⟨inner.heldUp, .empty, events⟩ =
      (⟨inner.heldUp, .empty, events'⟩, .ok true) := by
  have hsteps : ∃ inner : RouterInner defaultSchema, RouterInner.new hostBuild = .ok inner ∧
      ∀ events, ∃ scanned busy,
        RouterProgram.processTimeouts hostBuild .inCallback ⟨inner.heldUp, .empty, events⟩ =
          (⟨inner.heldUp, .empty, scanned⟩, .ok ()) ∧
        inner.heldUp.transmitQueue.popFront (TxQueued.byteCost hostBuild) =
          some (⟨.toSide none 0 (.packet batteryPacket), true, 0⟩,
            inner.packetLink.transmitQueue) ∧
        RouterProgram.allowedSides hostBuild .inCallback
          (RouterProgram.reportError hostBuild .inCallback 0) none 0 (.packet batteryPacket) true
          ⟨{ inner.heldUp with transmitQueue := inner.packetLink.transmitQueue }, .empty, scanned⟩ =
          (⟨inner.packetLink, .empty, scanned⟩, .ok [0]) ∧
        RouterProgram.trySend hostBuild .inCallback
          (RouterProgram.reportError hostBuild .inCallback 0) (.packet batteryPacket) 0
          ⟨inner.packetLink, .empty, scanned⟩ = (⟨inner.packetLink, .empty, busy⟩, .ok false) ∧
        (inner.packetLink.txQueueItemWithFlags hostBuild (.toSide none 0 (.packet batteryPacket))
          true).2 = .ok () :=
    ⟨_, rfl, fun events => ⟨_, _, rfl, rfl, rfl, rfl, rfl⟩⟩
  obtain ⟨inner, hnew, hsteps⟩ := hsteps
  refine ⟨inner, hnew, fun events => ?_⟩
  obtain ⟨scanned, busy, htimeouts, hpop, hallowed, hbusy, hback⟩ := hsteps events
  exact ⟨busy, RouterProgram.txTurn_of_putBack htimeouts hpop hallowed hbusy (Prod.ext rfl hback)⟩

end Hanging

section CutOff
variable {S : Schema} (call : NestedCall S) (B : Build) (depth : Nat) (drain : RouterDrain)
  {s : RouterState S}

/-- The item turn `n` pops, if there is one, is a replay with nothing pending or goes to no
side. -/
def NestedCall.passesAt (s : RouterState S) (n : Nat) : Bool :=
  let v := (RouterProgram.processTimeouts B (call.world n) (call.run B depth drain n s).1).1
  match v.inner.transmitQueue.popFront (TxQueued.byteCost B) with
  | none => true
  | some (queued, rest) =>
    match queued.item with
    | .reliableReplay dst bytes =>
      match peekFrameInfo B S bytes with
      | .ok frame => frame.reliable.all fun hdr =>
        !decide (hdr.seq ∈ (v.inner.reliableTx.at ⟨dst, frame.envelope.ty⟩).sent)
      | .error _ => false
    | _ =>
      match (RouterProgram.plannedSides B (call.world n) (call.report B depth n) queued
        { v with inner := { v.inner with transmitQueue := rest } }).2 with
      | .ok plan => plan.all fun planned => planned.2.2.isEmpty
      | .error _ => false

variable {call B depth drain}

theorem NestedCall.passes_of_passesAt {n : Nat} (h : call.passesAt B depth drain s n = true)
    {queued : TxQueued S} {t : RouterState S} (hpops : call.Pops B depth drain s n queued t) :
    RouterProgram.Passes B (call.world n) (call.report B depth n) queued t := by
  obtain ⟨u, v, rest, hgoing, htimeouts, hpop, rfl⟩ := hpops
  simp only [passesAt, hgoing, htimeouts, hpop] at h
  obtain ⟨item, ignoreLocal, priority⟩ := queued
  cases item with
  | reliableReplay dst bytes =>
    dsimp only at h
    split at h
    · rename_i frame hpeek
      refine ⟨frame, hpeek, fun hdr hhdr hmem => ?_⟩
      rw [hhdr] at h
      simp only [Option.all_some, Bool.not_eq_true', decide_eq_false_iff_not] at h
      exact absurd hmem h
    · cases h
  | _ =>
    dsimp only at h
    split at h
    · rename_i plan hplan
      refine ⟨_, plan, Prod.ext rfl hplan, fun src data sides hsome side hmem => ?_⟩
      rw [hsome] at h
      simp only [Option.all_some, List.isEmpty_iff] at h
      rw [h] at hmem
      cases hmem
    · cases h

/-- A call that comes to its end over such items is clear. -/
theorem NestedCall.clear_of_passesAt {m : Nat} (hend : (call.run B depth drain m s).2 = .ok true)
    (hpasses : ∀ n < m, call.passesAt B depth drain s n = true) : call.Clear B depth drain s := by
  have hover : (call.run B depth drain m s).2 ≠ .ok false := by simp [hend]
  have hrun : call.run B depth drain m s = ((call.run B depth drain m s).1, .ok true) :=
    Prod.ext rfl hend
  constructor
  · intro n s' what hpanic
    cases run_eq_of_over hrun hpanic (by simp) (by simp)
  · intro n queued t hpops
    refine passes_of_passesAt (hpasses n ?_) hpops
    obtain ⟨u, -, -, hgoing, -, -, -⟩ := hpops
    by_contra hle
    have heq := Program.loop_upTo_of_over hover (Nat.le_of_not_lt hle)
    change call.run B depth drain n s = call.run B depth drain m s at heq
    rw [← heq, hgoing] at hover
    exact hover rfl

/-- A callback has disabled its own link; a reading and a replay wait in the queue. -/
def RouterInner.cutOff (inner : RouterInner defaultSchema) : RouterInner defaultSchema :=
  let st : RouterInner defaultSchema :=
    { inner with sides := [some ⟨.serialized, ⟨true, false, true, false⟩⟩] }
  let st := (st.txQueueItemWithFlags hostBuild (.broadcast (.packet batteryPacket)) false).1
  (st.txQueueItemWithFlags hostBuild (.reliableReplay 0 (gpsFrameAs 1)) true).1

/-- The router has a handler for the readings. -/
def NestedCall.withHandler : NestedCall defaultSchema where
  world _ := { RouterWorld.inCallback with cfg := ⟨[⟨0, .packet⟩], true, "gw", by decide⟩ }
  interrupts := []
  held _ := ⟨fun _ _ => rfl, fun _ _ => rfl⟩

end CutOff

end Sedsprintf
