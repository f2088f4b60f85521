import Sedsprintf.Router.Ops
import Sedsprintf.System

/-!
# The router as a machine

Processing the transmit queue pops items (`process`); the sends of an ordinary or
end-to-end item are `send` actions of their own.
-/
namespace Sedsprintf

open Lib

abbrev RouterSystem (S : Schema) := System S (RouterInner S)

namespace RouterInner
variable (B : Build) {S : Schema}

/-- The front of the transmit queue, as far as it is replay bookkeeping; the sends of
an ordinary or end-to-end item are `send` actions of their own. -/
def processFront (tx : SideTx S) (st : RouterInner S) : RouterInner S × Outcome Unit :=
  match st.transmitQueue.popFront (TxQueued.byteCost B) with
  | none => (st, .ok ())
  | some (queued, rest) =>
    let st := { st with transmitQueue := rest }
    match queued.item with
    | .reliableReplay dst bytes =>
      let (st, result) := st.txReliableReplay B tx dst bytes
      (st, result.map fun _ => ())
    | .endToEndReplay packetId => (st.endToEndRetransmitSides packetId tx.doneMs, .ok ())
    | _ => (st, .ok ())

end RouterInner

namespace RouterSystem
variable (B : Build) {S : Schema}

inductive Action (B : Build) (S : Schema) where
  | addSide (side : Side)
  | removeSide (side : Nat)
  | setSideEgressEnabled (side : Nat) (enabled : Bool)
  | setSideIngressEnabled (side : Nat) (enabled : Bool)
  /-- `send_reliable_to_side`. -/
  | send (side : Nat) (data : RouterItem S) (resident : data.Resident B) (tx : SideTx S)
      (now : UInt64)
  /-- `handle_reliable_ack`, `handle_reliable_partial_ack` and
  `queue_reliable_retransmit` with whatever numbers the peer sent. -/
  | ack (key : StreamKey S) (ack : UInt32)
  | partialAck (key : StreamKey S) (seq : UInt32)
  | request (key : StreamKey S) (seq : UInt32)
  /-- `process_reliable_timeouts`. -/
  | timeouts (now : UInt64)
  | process (tx : SideTx S)
  | register (packetId : UInt64) (data : RouterItem S) (destinations : OrdMap UInt64 Nat)
      (now : UInt64)
  | endToEndAck (packetId : UInt64) (sender : Option UInt64)
  | endToEndTimeouts (expected : UInt64 → Outcome (OrdMap UInt64 Nat)) (now : UInt64)
  /-- Ordinary traffic and control packets enter the transmit queue. -/
  | queueBroadcast (data : RouterItem S) (ignoreLocal : Bool) (priority : UInt8)
  | queueToSide (src : Option Nat) (dst : Nat) (data : RouterItem S) (ignoreLocal : Bool)
      (priority : UInt8)
  | pushReceived (item : RouterRxItem S)
  | popReceived
  | isDuplicatePkt (data : RouterItem S)
  | removePktId (data : RouterItem S)
  | accept (key : StreamKey S) (seq : UInt32) (bytes : List UInt8)
  | clearQueues
  | clearRxQueue
  | clearTxQueue
  /-- `learn_discovery_packet`, with the router's own name. -/
  | learnDiscovery (sender : String) (pkt : Packet S) (src : Option Nat)
      (expected : UInt64 → Outcome (OrdMap UInt64 Nat)) (now : UInt64)
  | pruneDiscovery (now : UInt64)
  | fitDiscovery
  | reconcileEndToEnd (expected : UInt64 → Outcome (OrdMap UInt64 Nat))

def history (s : RouterSystem S) : TxHistory S := ⟨s.inner.reliableTx, s.numbered, s.handed⟩

def step (reliable : Bool) (s : RouterSystem S) : Action B S → Option (RouterSystem S)
  | .addSide side => some { s with inner := { s.inner with sides := s.inner.sides ++ [some side] } }
  | .removeSide side => s.sideRemoved side (s.inner.removeSide B side)
  | .setSideEgressEnabled side enabled => s.changed (s.inner.setSideEgressEnabled B side enabled)
  | .setSideIngressEnabled side enabled => s.changed (s.inner.setSideIngressEnabled side enabled)
  | .send side data _ tx now =>
    s.sent (RouterInner.hop B) (s.inner.sendReliableToSide B reliable now tx side data)
  | .ack key ack => some { s with
      inner := { s.inner with reliableTx := s.inner.reliableTx.handleReliableAck key ack } }
  | .partialAck key seq => some { s with
      inner := { s.inner with reliableTx := s.inner.reliableTx.handleReliablePartialAck key seq } }
  | .request key seq =>
    let r := s.inner.queueReliableRetransmit B key seq
    s.returned r.1 r.2
  | .timeouts now =>
    let r := s.inner.processReliableTimeouts B now
    s.returned r.1 r.2
  | .process tx =>
    let r := s.inner.processFront B tx
    s.returned r.1 r.2
  | .register packetId data destinations now =>
    some { s with inner := s.inner.registerEndToEndReliableTx B packetId data destinations now }
  | .endToEndAck packetId sender =>
    some { s with inner := s.inner.handleEndToEndAck packetId sender }
  | .endToEndTimeouts expected now =>
    let r := s.inner.processEndToEndReliableTimeouts B expected now
    s.returned r.1 r.2
  | .queueBroadcast data ignoreLocal priority =>
    let r := s.inner.pushTransmit B ⟨.broadcast data, ignoreLocal, priority⟩
    s.returned r.1 r.2
  | .queueToSide src dst data ignoreLocal priority =>
    let r := s.inner.pushTransmit B ⟨.toSide src dst data, ignoreLocal, priority⟩
    s.returned r.1 r.2
  | .pushReceived item =>
    let r := s.inner.pushReceived B item
    s.returned r.1 r.2
  | .popReceived =>
    match s.inner.receivedQueue.popFront (RouterRxItem.byteCost B) with
    | none => some s
    | some (_, rest) => some { s with inner := { s.inner with receivedQueue := rest } }
  | .isDuplicatePkt data =>
    let r := s.inner.isDuplicatePkt B data
    s.returned r.1 (r.2.map fun _ => ())
  | .removePktId data =>
    let r := s.inner.removePktId B data
    s.returned r.1 r.2
  | .accept key seq bytes =>
    let r := s.inner.acceptOrdered B key seq bytes
    s.returned r.1 r.2.2
  | .clearQueues => some { s with inner := s.inner.clearQueues }
  | .clearRxQueue => some { s with inner := s.inner.clearRxQueue }
  | .clearTxQueue => some { s with inner := s.inner.clearTxQueue }
  | .learnDiscovery sender pkt src expected now =>
    let r := s.inner.learnDiscoveryPacket B sender expected now pkt src
    s.returned r.1 (r.2.map fun _ => ())
  | .pruneDiscovery now => some { s with inner := s.inner.pruneDiscovery now }
  | .fitDiscovery => some { s with inner := s.inner.fitDiscoveryBudget B }
  | .reconcileEndToEnd expected =>
    let r := s.inner.reconcileEndToEnd expected
    s.returned r.1 r.2

end RouterSystem

namespace RouterInner
variable {B : Build} {S : Schema}

/-- A plan numbers only what it peeked. -/
theorem sendPlan_fits {reliable : Bool} {now : UInt64} {st : RouterInner S} {side : Nat}
    {data : RouterItem S} {handler : TxHandlerFn} {plan : SendPlan S}
    (hresident : data.Resident B)
    (h : st.sendPlan B reliable now side data = .ok (handler, plan)) : plan.Fits B data := by
  obtain ⟨s, -, h⟩ := bind_eq_ok.mp h
  split at h
  · obtain ⟨-, rfl⟩ := Prod.mk.inj (Except.ok.inj h)
    trivial
  · dsimp only at h
    split at h
    · obtain ⟨ty, hty, h⟩ := bind_eq_ok.mp h
      split at h
      · rename_i hreliable
        obtain ⟨-, rfl⟩ := Prod.mk.inj (Except.ok.inj h)
        exact ⟨hreliable, sendType_ofType hresident hty⟩
      · obtain ⟨adjusted, -, h⟩ := bind_eq_ok.mp h
        obtain ⟨-, rfl⟩ := Prod.mk.inj (Except.ok.inj h)
        exact SendPlan.fits_ofAdjusted adjusted
    · obtain ⟨adjusted, -, h⟩ := bind_eq_ok.mp h
      obtain ⟨-, rfl⟩ := Prod.mk.inj (Except.ok.inj h)
      exact SendPlan.fits_ofAdjusted adjusted

/-- The plan numbers exactly what `Numbers` says. -/
theorem sendPlan_number_iff {reliable : Bool} {now : UInt64} {st : RouterInner S} {side : Nat}
    {data : RouterItem S} {ty : S.DataType} :
    (∃ handler, st.sendPlan B reliable now side data = .ok (handler, .number ty)) ↔
      st.Numbers B reliable now side data ty := by
  constructor
  · rintro ⟨handler, h⟩
    obtain ⟨s, hs, h⟩ := bind_eq_ok.mp h
    split at h
    · cases (Prod.mk.inj (Except.ok.inj h)).2
    · rename_i hhandler
      dsimp only at h
      split at h
      · rename_i hhop
        simp only [Bool.and_eq_true, Bool.not_eq_true'] at hhop
        obtain ⟨ty', hty, h⟩ := bind_eq_ok.mp h
        split at h
        · rename_i hreliable
          obtain rfl := SendPlan.number.inj (Prod.mk.inj (Except.ok.inj h)).2
          exact ⟨hhop.1.2, ⟨s, okOr_eq_ok.mp hs, hhandler, hhop.1.1⟩, hhop.2, hty, hreliable⟩
        · obtain ⟨adjusted, -, h⟩ := bind_eq_ok.mp h
          exact absurd (Prod.mk.inj (Except.ok.inj h)).2 (SendPlan.ofAdjusted_ne_number adjusted)
      · obtain ⟨adjusted, -, h⟩ := bind_eq_ok.mp h
        exact absurd (Prod.mk.inj (Except.ok.inj h)).2 (SendPlan.ofAdjusted_ne_number adjusted)
  · rintro ⟨rfl, ⟨s, hs, hhandler, henabled⟩, hannouncers, hty, hreliable⟩
    refine ⟨.serialized, ?_⟩
    simp [sendPlan, sideRef, okOr, hs, hhandler, henabled, hannouncers, hty, hreliable, bind,
      Except.bind]

/-- The call takes a number, builds its frame, and then finds the gate busy or every
attempt of the handler refused. -/
def SendFailsNumbered (B : Build) (reliable : Bool) (now : UInt64) (tx : SideTx S)
    (st : RouterInner S) (side : Nat) (data : RouterItem S) : Prop :=
  st.toNodeState.SendFailsNumbered B reliable B.maxHandlerRetries now tx side data

theorem sendFailsNumbered_of_plan {reliable : Bool} {now : UInt64} {tx : SideTx S}
    {st : RouterInner S} {side : Nat} {data : RouterItem S} {handler : TxHandlerFn}
    {plan : SendPlan S} (hplan : st.sendPlan B reliable now side data = .ok (handler, plan)) :
    plan.FailsNumbered B (retry B.maxHandlerRetries) tx side data st.reliableTx ↔
      st.SendFailsNumbered B reliable now tx side data := by
  refine NodeState.sendFailsNumbered_iff (fun f => retry_eq_fail_iff f _) fun ty => ?_
  rw [← sendPlan_number_iff]
  constructor
  · rintro rfl
    exact ⟨handler, hplan⟩
  · rintro ⟨handler', h⟩
    rw [hplan] at h
    exact (Prod.mk.inj (Except.ok.inj h)).2

/-- A call that returns `Err` leaves every stream as it was exactly when it does not
fail behind the numbering. -/
theorem sendReliableToSide_unchanged_iff {reliable : Bool} {now : UInt64} {tx : SideTx S}
    {st : RouterInner S} {side : Nat} {data : RouterItem S} (hresident : data.Resident B) :
    ((∃ e, (st.sendReliableToSide B reliable now tx side data).result = fail e) →
        ∀ key, (st.sendReliableToSide B reliable now tx side data).streams.at key =
          st.reliableTx.at key) ↔
      ¬st.SendFailsNumbered B reliable now tx side data := by
  cases hplan : st.sendPlan B reliable now side data with
  | error e =>
    refine iff_of_true (fun _ key => ?_) ?_
    · simp only [sendReliableToSide, hplan]
    · rintro ⟨ty, -, hnumbers, -⟩
      obtain ⟨handler, h⟩ := sendPlan_number_iff.mpr hnumbers
      rw [hplan] at h
      cases h
  | ok planned =>
    obtain ⟨handler, plan⟩ := planned
    simp only [sendReliableToSide, hplan]
    rw [← sendFailsNumbered_of_plan hplan]
    exact SendPlan.execute_unchanged_iff (sendPlan_fits hresident hplan)

theorem txQueueItemWithFlags_keeps (st : RouterInner S) (item : RouterTxItem S)
    (ignoreLocal : Bool) : Keeps B st (st.txQueueItemWithFlags B item ignoreLocal).1 := by
  unfold txQueueItemWithFlags
  dsimp only
  split
  · exact ⟨rfl, rfl, rfl, rfl, id⟩
  · exact (pushTransmit_pushes st _).toKeeps

section Processing
variable (st : RouterInner S)

theorem endToEndRetransmitSides_frame (packetId : UInt64) (now : UInt64) :
    (st.endToEndRetransmitSides packetId now).reliableTx = st.reliableTx ∧
      (st.Budgeted B → (st.endToEndRetransmitSides packetId now).Budgeted B) := by
  unfold endToEndRetransmitSides
  split
  · exact ⟨rfl, id⟩
  · split
    · exact ⟨rfl, fun hb => hb.congr rfl rfl⟩
    · exact ⟨rfl, fun hb => hb.congr rfl rfl⟩

theorem processFront_moves (tx : SideTx S) : (hop B).Moves B st (st.processFront B tx).1 := by
  unfold processFront
  split
  · exact .of_eq rfl
  · rename_i queued rest _
    have hpop : (hop B).Moves B st { st with transmitQueue := rest } := .of_eq rfl
    dsimp only
    split
    · exact hpop.trans (HopNode.processReplay_moves
        (fun st => (txQueueItemWithFlags_keeps st _ true).reliableTx) _ _ _)
    · exact .of_eq (endToEndRetransmitSides_frame (B := B) _ _ _).1
    · exact hpop

theorem processFront_budgeted (tx : SideTx S) (hb : st.Budgeted B) :
    (st.processFront B tx).1.Budgeted B := by
  unfold processFront
  split
  · exact hb
  · rename_i queued rest hpop
    have hpopped : ({ st with transmitQueue := rest } : RouterInner S).Budgeted B :=
      ⟨⟨hb.accounted.1, hb.accounted.2.popFront hpop⟩, hb.recentMax⟩
    dsimp only
    split
    · exact (HopNode.closed_sane (n := hop B)).processReplay
        (fun {st} => (txQueueItemWithFlags_keeps st _ true).budgeted) _ _ _ hpopped
    · exact (endToEndRetransmitSides_frame _ _ _).2 hpopped
    · exact hpopped

end Processing

section EndToEnd
variable (st : RouterInner S)

theorem queueEndToEndReliableRetransmit_frame (packetId : UInt64) :
    (st.queueEndToEndReliableRetransmit B packetId).1.reliableTx = st.reliableTx ∧
      (st.Budgeted B → (st.queueEndToEndReliableRetransmit B packetId).1.Budgeted B) := by
  unfold queueEndToEndReliableRetransmit
  split
  · exact ⟨rfl, id⟩
  · split
    · exact ⟨rfl, id⟩
    · exact ⟨(pushTransmit_pushes _ _).reliableTx, fun hb =>
        (pushTransmit_pushes _ _).budgeted (hb.congr rfl rfl)⟩

theorem requeueEndToEnd_frame (again : List UInt64) :
    (st.requeueEndToEnd B again).1.reliableTx = st.reliableTx ∧
      (st.Budgeted B → (st.requeueEndToEnd B again).1.Budgeted B) := by
  induction again generalizing st with
  | nil => exact ⟨rfl, id⟩
  | cons id rest ih =>
    have hnext := st.queueEndToEndReliableRetransmit_frame (B := B) id
    unfold requeueEndToEnd
    generalize st.queueEndToEndReliableRetransmit B id = r at hnext
    obtain ⟨st', e | ⟨⟨⟩⟩⟩ := r
    · exact hnext
    · exact ⟨(ih st').1.trans hnext.1, fun hb => (ih st').2 (hnext.2 hb)⟩

theorem processEndToEndReliableTimeouts_frame
    (expected : UInt64 → Outcome (OrdMap UInt64 Nat)) (now : UInt64) :
    (st.processEndToEndReliableTimeouts B expected now).1.reliableTx = st.reliableTx ∧
      (st.Budgeted B → (st.processEndToEndReliableTimeouts B expected now).1.Budgeted B) := by
  unfold processEndToEndReliableTimeouts
  split
  · exact ⟨rfl, fun hb => hb.congr rfl rfl⟩
  · dsimp only
    obtain ⟨htx, hbudget⟩ := requeueEndToEnd_frame (B := B) { st with endToEndReliableTx :=
      (endToEndTimeoutScan B now _ _).1 } (endToEndTimeoutScan B now _ _).2
    exact ⟨htx, fun hb => hbudget (hb.congr rfl rfl)⟩

theorem handleEndToEndAck_frame (packetId : UInt64) (sender : Option UInt64) :
    (st.handleEndToEndAck packetId sender).reliableTx = st.reliableTx ∧
      (st.Budgeted B → (st.handleEndToEndAck packetId sender).Budgeted B) := by
  unfold handleEndToEndAck
  split
  · exact ⟨rfl, id⟩
  · split
    · exact ⟨rfl, fun hb => hb.congr rfl rfl⟩
    · dsimp only
      split
      · exact ⟨rfl, fun hb => hb.congr rfl rfl⟩
      · exact ⟨rfl, fun hb => hb.congr rfl rfl⟩

end EndToEnd

section Dedupe
variable (st : RouterInner S)

theorem isDuplicatePkt_keeps (data : RouterItem S) :
    Keeps B st (st.isDuplicatePkt B data).1 ∧
      (st.isDuplicatePkt B data).1.transmitQueue.q.Sublist st.transmitQueue.q := by
  have hrefl : Keeps B st st ∧ st.transmitQueue.q.Sublist st.transmitQueue.q :=
    ⟨⟨rfl, rfl, rfl, rfl, id⟩, .refl _⟩
  unfold isDuplicatePkt
  split
  · exact hrefl
  · rename_i id _
    split
    · exact hrefl
    · have hpush := st.pushRecentRx_keeps (B := B) id
      generalize st.pushRecentRx B id = r at hpush
      obtain ⟨st', e | ⟨⟨⟩⟩⟩ := r
      · exact hpush
      · exact hpush

theorem removePktId_keeps (data : RouterItem S) :
    Keeps B st (st.removePktId B data).1 ∧
      (st.removePktId B data).1.transmitQueue = st.transmitQueue := by
  unfold removePktId
  split
  · exact ⟨⟨rfl, rfl, rfl, rfl, id⟩, rfl⟩
  · rename_i id _
    exact ⟨⟨rfl, rfl, rfl, rfl, fun hb => hb.congr rfl (BoundedDeque.removeValue_maxBytes id)⟩, rfl⟩

end Dedupe

section Learning
variable (st : RouterInner S)

theorem reconcileEndToEnd_frame (expected : UInt64 → Outcome (OrdMap UInt64 Nat)) :
    (st.reconcileEndToEnd expected).1.reliableTx = st.reliableTx ∧
      (st.reconcileEndToEnd expected).1.stores = st.stores ∧
      (st.Budgeted B → (st.reconcileEndToEnd expected).1.Budgeted B) := by
  unfold reconcileEndToEnd
  split
  · exact ⟨rfl, rfl, fun hb => hb.congr rfl rfl⟩
  · exact ⟨rfl, rfl, fun hb => hb.congr rfl rfl⟩

/-- A packet is learned into a route of the cache, or nothing happens. -/
theorem learnDiscoveryPacket_cases (sender : String)
    (expected : UInt64 → Outcome (OrdMap UInt64 Nat)) (now : UInt64) (pkt : Packet S)
    (src : Option Nat) :
    (st.learnDiscoveryPacket B sender expected now pkt src).1 = st ∨
      ∃ d side routes, learnDiscoveryRoute B d (st.sideLinkLocalEnabled side) now side pkt
          st.discoveryRoutes = .ok routes ∧
        (st.learnDiscoveryPacket B sender expected now pkt src).1 =
          ((({ st with discoveryRoutes := routes } : RouterInner S).fitDiscoveryBudget
            B).reconcileEndToEnd expected).1 := by
  unfold learnDiscoveryPacket
  split
  · exact .inl rfl
  · split
    · split
      · exact .inl rfl
      · split
        · exact .inl rfl
        · split
          · exact .inl rfl
          · rename_i routes hlearn
            exact .inr ⟨_, _, routes, hlearn, rfl⟩
    · exact .inl rfl

theorem learnDiscoveryPacket_frame (sender : String)
    (expected : UInt64 → Outcome (OrdMap UInt64 Nat)) (now : UInt64) (pkt : Packet S)
    (src : Option Nat) :
    (st.learnDiscoveryPacket B sender expected now pkt src).1.reliableTx = st.reliableTx ∧
      (st.learnDiscoveryPacket B sender expected now pkt src).1.transmitQueue = st.transmitQueue ∧
      (st.Budgeted B → (st.learnDiscoveryPacket B sender expected now pkt src).1.Budgeted B) := by
  rcases st.learnDiscoveryPacket_cases (B := B) sender expected now pkt src with
    heq | ⟨_, _, routes, -, heq⟩
  · rw [heq]
    exact ⟨rfl, rfl, id⟩
  · obtain ⟨hkeeps, hqueue⟩ := fitDiscoveryBudget_keeps (B := B)
      ({ st with discoveryRoutes := routes } : RouterInner S)
    obtain ⟨htx, hstores, hb⟩ := reconcileEndToEnd_frame (B := B)
      (({ st with discoveryRoutes := routes } : RouterInner S).fitDiscoveryBudget B) expected
    rw [heq]
    refine ⟨htx.trans hkeeps.reliableTx, ?_, fun hst => hb (hkeeps.budgeted (hst.congr rfl rfl))⟩
    exact (congrArg (fun stores => stores.1.transmitQueue) hstores).trans hqueue

end Learning
end RouterInner

namespace RouterSystem
variable {B : Build} {S : Schema} {reliable : Bool} {s s' : RouterSystem S} {a : Action B S}

/-- The sends that keep the numbers of a stream gapless. -/
def SendsWhole (B : Build) (reliable : Bool) (s : RouterSystem S) : Action B S → Prop
  | .send side data _ tx now => ¬s.inner.SendFailsNumbered B reliable now tx side data
  | _ => True

/-- What `System.Refines` says of a step of the router. -/
abbrev Refines (B : Build) (reliable : Bool) (a : Action B S) (s s' : RouterSystem S) : Prop :=
  System.Refines (RouterInner.hop B) B (s.SendsWhole B reliable a) s s'

theorem popReceived_eq_some (h : s.step B reliable .popReceived = some s') :
    s' = s ∨ ∃ item rest,
      s.inner.receivedQueue.popFront (RouterRxItem.byteCost B) = some (item, rest) ∧
        s' = { s with inner := { s.inner with receivedQueue := rest } } := by
  simp only [step] at h
  split at h
  · exact .inl (Option.some.inj h).symm
  · rename_i item rest hpop
    exact .inr ⟨item, rest, hpop, (Option.some.inj h).symm⟩

theorem refines_send {side : Nat} {data : RouterItem S} {resident : data.Resident B}
    {tx : SideTx S} {now : UInt64} (h : s.step B reliable (.send side data resident tx now) = some s') :
    Refines B reliable (.send side data resident tx now) s s' := by
  simp only [step, RouterInner.sendReliableToSide] at h
  cases hplan : s.inner.sendPlan B reliable now side data with
  | error e =>
    rw [hplan] at h
    exact .of_unsent h
  | ok planned =>
    obtain ⟨handler, plan⟩ := planned
    rw [hplan] at h
    refine .of_sent (RouterInner.sendPlan_fits resident hplan) (fun hwhole hfails => ?_) h
    exact hwhole ((RouterInner.sendFailsNumbered_of_plan hplan).mp hfails)

theorem refines_removeSide {side : Nat} (h : s.step B reliable (.removeSide side) = some s') :
    Refines B reliable (.removeSide side) s s' := by
  refine .of_sideRemoved h (fun inner hremoved => ?_) (fun inner hremoved hb => ?_)
  · obtain ⟨_, -, hremoved⟩ := bind_eq_ok.mp hremoved
    obtain rfl := Except.ok.inj hremoved
    rfl
  · obtain ⟨_, -, hremoved⟩ := bind_eq_ok.mp hremoved
    obtain rfl := Except.ok.inj hremoved
    exact ⟨⟨hb.accounted.1.retain _, hb.accounted.2.retain _⟩, hb.recentMax⟩

theorem refines_of_step (h : s.step B reliable a = some s') : Refines B reliable a s s' := by
  cases a with
  | addSide side =>
    obtain rfl := Option.some.inj h
    exact .of_frame rfl fun hb => hb.congr rfl rfl
  | removeSide side => exact refines_removeSide h
  | setSideEgressEnabled side enabled =>
    refine .of_changed h fun inner hset => ?_
    obtain ⟨_, -, hset⟩ := bind_eq_ok.mp hset
    obtain rfl := Except.ok.inj hset
    refine .of_frame rfl fun hb => ⟨⟨hb.accounted.1, ?_⟩, hb.recentMax⟩
    dsimp only [RouterInner.stores]
    split
    · exact hb.accounted.2
    · exact hb.accounted.2.retain _
  | setSideIngressEnabled side enabled =>
    refine .of_changed h fun inner hset => ?_
    obtain ⟨_, -, hset⟩ := bind_eq_ok.mp hset
    obtain rfl := Except.ok.inj hset
    exact .of_frame rfl fun hb => hb.congr rfl rfl
  | send side data resident tx now => exact refines_send h
  | ack key n =>
    obtain rfl := Option.some.inj h
    exact .of_streams (.ack key n) (fun h hstreams => by rw [TxHistory.step, hstreams]; rfl)
      (fun _ => trivial) trivial
  | partialAck key seq =>
    obtain rfl := Option.some.inj h
    exact .of_streams (.partialAck key seq) (fun h hstreams => by rw [TxHistory.step, hstreams]; rfl)
      (fun _ => trivial) trivial
  | request key seq =>
    obtain rfl := System.returned_eq_some h
    exact .of_moves (HopNode.queueReliableRetransmit_moves (n := RouterInner.hop B) key seq)
      ((HopNode.closed_sane (n := RouterInner.hop B)).queueReliableRetransmit key seq)
  | timeouts now =>
    obtain rfl := System.returned_eq_some h
    exact .of_moves (HopNode.processReliableTimeouts_moves (n := RouterInner.hop B) now s.inner)
      ((HopNode.closed_sane (n := RouterInner.hop B)).processReliableTimeouts now s.inner)
  | process tx =>
    obtain rfl := System.returned_eq_some h
    exact .of_moves (s.inner.processFront_moves tx) (s.inner.processFront_budgeted tx)
  | register packetId data destinations now =>
    obtain rfl := Option.some.inj h
    exact .of_frame rfl fun hb => hb.congr rfl rfl
  | endToEndAck packetId sender =>
    obtain rfl := Option.some.inj h
    obtain ⟨htx, hb⟩ := s.inner.handleEndToEndAck_frame (B := B) packetId sender
    exact .of_frame htx hb
  | endToEndTimeouts expected now =>
    obtain rfl := System.returned_eq_some h
    obtain ⟨htx, hb⟩ := s.inner.processEndToEndReliableTimeouts_frame (B := B) expected now
    exact .of_frame htx hb
  | queueBroadcast data ignoreLocal priority =>
    obtain rfl := System.returned_eq_some h
    have hpush := s.inner.pushTransmit_pushes (B := B) ⟨.broadcast data, ignoreLocal, priority⟩
    exact .of_frame hpush.reliableTx hpush.budgeted
  | queueToSide src dst data ignoreLocal priority =>
    obtain rfl := System.returned_eq_some h
    have hpush := s.inner.pushTransmit_pushes (B := B) ⟨.toSide src dst data, ignoreLocal, priority⟩
    exact .of_frame hpush.reliableTx hpush.budgeted
  | pushReceived item =>
    obtain rfl := System.returned_eq_some h
    have hpush := (s.inner.pushReceived_keeps (B := B) item).1
    exact .of_frame hpush.reliableTx hpush.budgeted
  | popReceived =>
    rcases popReceived_eq_some h with rfl | ⟨item, rest, hpop, rfl⟩
    · exact .refl _
    · exact .of_frame rfl fun hb =>
        ⟨⟨hb.accounted.1.popFront hpop, hb.accounted.2⟩, hb.recentMax⟩
  | isDuplicatePkt data =>
    obtain rfl := System.returned_eq_some h
    have hkeeps := (s.inner.isDuplicatePkt_keeps (B := B) data).1
    exact .of_frame hkeeps.reliableTx hkeeps.budgeted
  | removePktId data =>
    obtain rfl := System.returned_eq_some h
    have hkeeps := (s.inner.removePktId_keeps (B := B) data).1
    exact .of_frame hkeeps.reliableTx hkeeps.budgeted
  | accept key seq bytes =>
    obtain rfl := System.returned_eq_some h
    have hkeeps := (s.inner.acceptOrdered_keeps (B := B) key seq bytes).1
    exact .of_frame hkeeps.reliableTx hkeeps.budgeted
  | clearQueues =>
    obtain rfl := Option.some.inj h
    exact .of_frame rfl fun hb => ⟨⟨.clear, .clear⟩, hb.recentMax⟩
  | clearRxQueue =>
    obtain rfl := Option.some.inj h
    exact .of_frame rfl fun hb => ⟨⟨.clear, hb.accounted.2⟩, hb.recentMax⟩
  | clearTxQueue =>
    obtain rfl := Option.some.inj h
    exact .of_frame rfl fun hb => ⟨⟨hb.accounted.1, .clear⟩, hb.recentMax⟩
  | learnDiscovery sender pkt src expected now =>
    obtain rfl := System.returned_eq_some h
    obtain ⟨htx, -, hb⟩ := s.inner.learnDiscoveryPacket_frame (B := B) sender expected now pkt src
    exact .of_frame htx hb
  | pruneDiscovery now =>
    obtain rfl := Option.some.inj h
    exact .of_frame rfl fun hb => hb.congr rfl rfl
  | fitDiscovery =>
    obtain rfl := Option.some.inj h
    have hkeeps := (s.inner.fitDiscoveryBudget_keeps (B := B)).1
    exact .of_frame hkeeps.reliableTx hkeeps.budgeted
  | reconcileEndToEnd expected =>
    obtain rfl := System.returned_eq_some h
    obtain ⟨htx, -, hb⟩ := s.inner.reconcileEndToEnd_frame (B := B) expected
    exact .of_frame htx hb

theorem history_initial {inner : RouterInner S} (hnew : RouterInner.new B = .ok inner) :
    history (.initial inner) = TxHistory.initial := by
  obtain ⟨_, -, hnew⟩ := bind_eq_ok.mp hnew
  obtain ⟨_, -, hnew⟩ := bind_eq_ok.mp hnew
  obtain ⟨_, -, hnew⟩ := bind_eq_ok.mp hnew
  obtain rfl := Except.ok.inj hnew
  rfl

/-- The streams of a reachable router. -/
theorem sound_of_run {inner : RouterInner S} {ok : RouterSystem S → Action B S → Prop}
    {actions : List (Action B S)} (hnew : RouterInner.new B = .ok inner)
    (hrun : Run (step B reliable) ok (.initial inner) actions s) :
    s.history.Sound B ∧
      ((∀ s a, ok s a → s.SendsWhole B reliable a) → s.history.Contiguous) :=
  System.sound_of_run refines_of_step (history_initial hnew) hrun

/-- The accounts of a reachable router. -/
theorem budgeted_of_run {inner : RouterInner S} {ok : RouterSystem S → Action B S → Prop}
    {actions : List (Action B S)} (hnew : RouterInner.new B = .ok inner)
    (hrun : Run (step B reliable) ok (.initial inner) actions s) : s.inner.Budgeted B :=
  (System.refines_of_run refines_of_step hrun).2 (.new hnew)

end RouterSystem
end Sedsprintf
