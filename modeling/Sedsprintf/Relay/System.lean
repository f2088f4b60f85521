import Sedsprintf.Relay.Ops
import Sedsprintf.System

/-!
# The relay as a machine

Processing the transmit queue is `popTx` and, where routing lets the item pass, a
`send`; processing the replay queue is one call.
-/
namespace Sedsprintf

open Lib

abbrev RelaySystem (S : Schema) := System S (RelayInner S)

namespace RelaySystem
variable (B : Build) {S : Schema}

inductive Action (B : Build) (S : Schema) where
  | addSide (side : Side)
  | removeSide (side : Nat)
  | setSideEgressEnabled (side : Nat) (enabled : Bool)
  | setSideIngressEnabled (side : Nat) (enabled : Bool)
  /-- `send_reliable_to_side`. -/
  | send (side : Nat) (data : RouterItem S) (resident : data.Resident B) (tx : SideTx S)
      (now : UInt64)
  /-- `handle_reliable_ack`, `handle_reliable_partial_ack` and
  `queue_reliable_retransmit` with whatever numbers the peer sent. -/
  | ack (key : StreamKey S) (ack : UInt32)
  | partialAck (key : StreamKey S) (seq : UInt32)
  | request (key : StreamKey S) (seq : UInt32)
  /-- `process_reliable_timeouts`. -/
  | timeouts (now : UInt64)
  | processReplay (tx : SideTx S)
  | pushTx (item : RelayTxItem S)
  | popTx
  | pushRx (item : RelayRxItem S)
  | popRx
  | isDuplicatePkt (data : RouterItem S)
  | accept (key : StreamKey S) (seq : UInt32) (bytes : List UInt8)
  | clearQueues
  | clearRxQueue
  | clearTxQueue
  | learnDiscovery (src : Nat) (data : RouterItem S) (now : UInt64)
  | pruneDiscovery (now : UInt64)
  | fitDiscovery

def history (s : RelaySystem S) : TxHistory S := ⟨s.inner.reliableTx, s.numbered, s.handed⟩

def step (s : RelaySystem S) : Action B S → Option (RelaySystem S)
  | .addSide side => some { s with inner := { s.inner with sides := s.inner.sides ++ [some side] } }
  | .removeSide side => s.sideRemoved side (s.inner.removeSide B side)
  | .setSideEgressEnabled side enabled => s.changed (s.inner.setSideEgressEnabled B side enabled)
  | .setSideIngressEnabled side enabled => s.changed (s.inner.setSideIngressEnabled side enabled)
  | .send side data _ tx now =>
    s.sent (RelayInner.hop B) (s.inner.sendReliableToSide B now tx side data)
  | .ack key ack => some { s with
      inner := { s.inner with reliableTx := s.inner.reliableTx.handleReliableAck key ack } }
  | .partialAck key seq => some { s with
      inner := { s.inner with reliableTx := s.inner.reliableTx.handleReliablePartialAck key seq } }
  | .request key seq =>
    let r := s.inner.queueReliableRetransmit B key seq
    s.returned r.1 r.2
  | .timeouts now =>
    let r := s.inner.processReliableTimeouts B now
    s.returned r.1 r.2
  | .processReplay tx =>
    let r := s.inner.processReplayQueueItem B tx
    s.returned r.1 (r.2.map fun _ => ())
  | .pushTx item =>
    let r := s.inner.pushTx B item
    s.returned r.1 r.2
  | .popTx =>
    match s.inner.txQueue.popFront (RelayTxItem.byteCost B) with
    | none => some s
    | some (_, rest) => some { s with inner := { s.inner with txQueue := rest } }
  | .pushRx item =>
    let r := s.inner.pushRx B item
    s.returned r.1 r.2
  | .popRx =>
    match s.inner.rxQueue.popFront (RelayRxItem.byteCost B) with
    | none => some s
    | some (_, rest) => some { s with inner := { s.inner with rxQueue := rest } }
  | .isDuplicatePkt data =>
    let r := s.inner.isDuplicatePkt B data
    s.returned r.1 (r.2.map fun _ => ())
  | .accept key seq bytes =>
    let r := s.inner.acceptOrdered B key seq bytes
    s.returned r.1 r.2.2
  | .clearQueues => some { s with inner := s.inner.clearQueues }
  | .clearRxQueue => some { s with inner := s.inner.clearRxQueue }
  | .clearTxQueue => some { s with inner := s.inner.clearTxQueue }
  | .learnDiscovery src data now =>
    let r := s.inner.learnDiscoveryItem B now src data
    s.returned r.1 r.2
  | .pruneDiscovery now => some { s with inner := s.inner.pruneDiscovery now }
  | .fitDiscovery => some { s with inner := s.inner.fitDiscoveryBudget B }

end RelaySystem

namespace RelayInner
variable {B : Build} {S : Schema}

/-- A plan numbers only what it peeked. -/
theorem sendPlan_fits {now : UInt64} {st : RelayInner S} {side : Nat} {data : RouterItem S}
    {handler : TxHandlerFn} {plan : SendPlan S} (hresident : data.Resident B)
    (h : st.sendPlan B now side data = .ok (handler, plan)) : plan.Fits B data := by
  obtain ⟨s, -, h⟩ := bind_eq_ok.mp h
  split at h
  · obtain ⟨-, rfl⟩ := Prod.mk.inj (Except.ok.inj h)
    trivial
  · dsimp only at h
    split at h
    · split at h
      · obtain ⟨-, rfl⟩ := Prod.mk.inj (Except.ok.inj h)
        trivial
      · cases h
      · rename_i ty hty
        split at h
        · rename_i hreliable
          obtain ⟨-, rfl⟩ := Prod.mk.inj (Except.ok.inj h)
          exact ⟨hreliable, sendType_ofType hresident hty⟩
        · obtain ⟨adjusted, -, h⟩ := bind_eq_ok.mp h
          obtain ⟨-, rfl⟩ := Prod.mk.inj (Except.ok.inj h)
          exact SendPlan.fits_ofAdjusted adjusted
    · obtain ⟨adjusted, -, h⟩ := bind_eq_ok.mp h
      obtain ⟨-, rfl⟩ := Prod.mk.inj (Except.ok.inj h)
      exact SendPlan.fits_ofAdjusted adjusted

/-- The plan numbers exactly what `Numbers` says. -/
theorem sendPlan_number_iff {now : UInt64} {st : RelayInner S} {side : Nat} {data : RouterItem S}
    {ty : S.DataType} :
    (∃ handler, st.sendPlan B now side data = .ok (handler, .number ty)) ↔
      st.Numbers B true now side data ty := by
  constructor
  · rintro ⟨handler, h⟩
    obtain ⟨s, hs, h⟩ := bind_eq_ok.mp h
    split at h
    · cases (Prod.mk.inj (Except.ok.inj h)).2
    · rename_i hhandler
      dsimp only at h
      split at h
      · rename_i hhop
        simp only [Bool.and_eq_true, Bool.not_eq_true'] at hhop
        split at h
        · cases (Prod.mk.inj (Except.ok.inj h)).2
        · cases h
        · rename_i ty' hty
          split at h
          · rename_i hreliable
            obtain rfl := SendPlan.number.inj (Prod.mk.inj (Except.ok.inj h)).2
            exact ⟨rfl, ⟨s, okOr_eq_ok.mp hs, hhandler, hhop.1⟩, hhop.2, hty, hreliable⟩
          · obtain ⟨adjusted, -, h⟩ := bind_eq_ok.mp h
            exact absurd (Prod.mk.inj (Except.ok.inj h)).2 (SendPlan.ofAdjusted_ne_number adjusted)
      · obtain ⟨adjusted, -, h⟩ := bind_eq_ok.mp h
        exact absurd (Prod.mk.inj (Except.ok.inj h)).2 (SendPlan.ofAdjusted_ne_number adjusted)
  · rintro ⟨-, ⟨s, hs, hhandler, henabled⟩, hannouncers, hty, hreliable⟩
    refine ⟨.serialized, ?_⟩
    simp [sendPlan, sideRef, okOr, hs, hhandler, henabled, hannouncers, hty, hreliable, bind,
      Except.bind]

/-- The call takes a number, builds its frame, and then finds the gate busy or the
handler refuses. -/
def SendFailsNumbered (B : Build) (now : UInt64) (tx : SideTx S) (st : RelayInner S) (side : Nat)
    (data : RouterItem S) : Prop :=
  st.toNodeState.SendFailsNumbered B true 1 now tx side data

theorem sendFailsNumbered_of_plan {now : UInt64} {tx : SideTx S} {st : RelayInner S} {side : Nat}
    {data : RouterItem S} {handler : TxHandlerFn} {plan : SendPlan S}
    (hplan : st.sendPlan B now side data = .ok (handler, plan)) :
    plan.FailsNumbered B callOnce tx side data st.reliableTx ↔
      st.SendFailsNumbered B now tx side data := by
  refine NodeState.sendFailsNumbered_iff (fun f => ?_) fun ty => ?_
  · rw [callOnce_eq_fail_iff]
    simp
  · rw [← sendPlan_number_iff]
    constructor
    · rintro rfl
      exact ⟨handler, hplan⟩
    · rintro ⟨handler', h⟩
      rw [hplan] at h
      exact (Prod.mk.inj (Except.ok.inj h)).2

/-- A call that returns `Err` leaves every stream as it was exactly when it does not
fail behind the numbering. -/
theorem sendReliableToSide_unchanged_iff {now : UInt64} {tx : SideTx S} {st : RelayInner S}
    {side : Nat} {data : RouterItem S} (hresident : data.Resident B) :
    ((∃ e, (st.sendReliableToSide B now tx side data).result = fail e) →
        ∀ key, (st.sendReliableToSide B now tx side data).streams.at key =
          st.reliableTx.at key) ↔
      ¬st.SendFailsNumbered B now tx side data := by
  cases hplan : st.sendPlan B now side data with
  | error e =>
    refine iff_of_true (fun _ key => ?_) ?_
    · simp only [sendReliableToSide, hplan]
    · rintro ⟨ty, -, hnumbers, -⟩
      obtain ⟨handler, h⟩ := sendPlan_number_iff.mpr hnumbers
      rw [hplan] at h
      cases h
  | ok planned =>
    obtain ⟨handler, plan⟩ := planned
    simp only [sendReliableToSide, hplan]
    rw [← sendFailsNumbered_of_plan hplan]
    exact SendPlan.execute_unchanged_iff (sendPlan_fits hresident hplan)

section Processing
variable (st : RelayInner S) (tx : SideTx S)

theorem processReplayQueueItem_moves :
    (hop B).Moves B st (st.processReplayQueueItem B tx).1 := by
  unfold processReplayQueueItem
  split
  · exact .of_eq rfl
  · rename_i item rest _
    have hpop : (hop B).Moves B st { st with replayQueue := rest } := .of_eq rfl
    exact hpop.trans (HopNode.processReplay_moves
      (fun st => (pushReplay_keeps st item).reliableTx) _ _ _)

theorem processReplayQueueItem_budgeted (hb : st.Budgeted B) :
    (st.processReplayQueueItem B tx).1.Budgeted B := by
  unfold processReplayQueueItem
  split
  · exact hb
  · rename_i item rest hpop
    have hpopped : ({ st with replayQueue := rest } : RelayInner S).Budgeted B :=
      ⟨⟨hb.accounted.rx, hb.accounted.tx, hb.accounted.replay.popFront hpop⟩, hb.recentMax⟩
    exact (HopNode.closed_sane (n := hop B)).processReplay
      (fun {st} => (pushReplay_keeps st item).budgeted) _ _ _ hpopped

end Processing
section Dedupe
variable (st : RelayInner S)

theorem isDuplicatePkt_keeps (data : RouterItem S) :
    Keeps B st (st.isDuplicatePkt B data).1 ∧
      (st.isDuplicatePkt B data).1.replayQueue.q.Sublist st.replayQueue.q := by
  have hrefl : Keeps B st st ∧ st.replayQueue.q.Sublist st.replayQueue.q :=
    ⟨⟨rfl, rfl, id⟩, .refl _⟩
  unfold isDuplicatePkt
  split
  · exact hrefl
  · rename_i id _
    split
    · exact hrefl
    · have hpush := st.pushRecentRx_keeps (B := B) id
      generalize st.pushRecentRx B id = r at hpush
      obtain ⟨st', e | ⟨⟨⟩⟩⟩ := r
      · exact hpush
      · exact hpush

/-- An item is learned into a route of the cache and the cache pruned, or nothing
happens. -/
theorem learnDiscoveryItem_cases (now : UInt64) (src : Nat) (data : RouterItem S) :
    (st.learnDiscoveryItem B now src data).1 = st ∨
      ∃ d linkLocal pkt routes,
        learnDiscoveryRoute B d linkLocal now src pkt st.discoveryRoutes = .ok routes ∧
        (st.learnDiscoveryItem B now src data).1 =
          (({ st with discoveryRoutes := routes } : RelayInner S).fitDiscoveryBudget
            B).pruneDiscovery now := by
  unfold learnDiscoveryItem
  split
  · exact .inl rfl
  · split
    · exact .inl rfl
    · exact .inl rfl
    · split
      · exact .inl rfl
      · rename_i routes hlearn
        exact .inr ⟨_, _, _, routes, hlearn, rfl⟩

theorem learnDiscoveryItem_keeps (now : UInt64) (src : Nat) (data : RouterItem S) :
    Keeps B st (st.learnDiscoveryItem B now src data).1 ∧
      (st.learnDiscoveryItem B now src data).1.replayQueue = st.replayQueue := by
  rcases st.learnDiscoveryItem_cases (B := B) now src data with heq | ⟨_, _, _, routes, -, heq⟩
  · rw [heq]
    exact ⟨⟨rfl, rfl, id⟩, rfl⟩
  · obtain ⟨hkeeps, hqueue⟩ := fitDiscoveryBudget_keeps (B := B)
      ({ st with discoveryRoutes := routes } : RelayInner S)
    rw [heq]
    exact ⟨⟨hkeeps.sides, hkeeps.reliableTx, fun hb =>
      (hkeeps.budgeted (hb.congr rfl rfl)).congr rfl rfl⟩, hqueue⟩

end Dedupe

end RelayInner

namespace RelaySystem
variable {B : Build} {S : Schema} {s s' : RelaySystem S} {a : Action B S}

/-- The sends that keep the numbers of a stream gapless. -/
def SendsWhole (B : Build) (s : RelaySystem S) : Action B S → Prop
  | .send side data _ tx now => ¬s.inner.SendFailsNumbered B now tx side data
  | _ => True

/-- What `System.Refines` says of a step of the relay. -/
abbrev Refines (B : Build) (a : Action B S) (s s' : RelaySystem S) : Prop :=
  System.Refines (RelayInner.hop B) B (s.SendsWhole B a) s s'

theorem popTx_eq_some (h : s.step B .popTx = some s') :
    s' = s ∨ ∃ item rest, s.inner.txQueue.popFront (RelayTxItem.byteCost B) = some (item, rest) ∧
      s' = { s with inner := { s.inner with txQueue := rest } } := by
  simp only [step] at h
  split at h
  · exact .inl (Option.some.inj h).symm
  · rename_i item rest hpop
    exact .inr ⟨item, rest, hpop, (Option.some.inj h).symm⟩

theorem popRx_eq_some (h : s.step B .popRx = some s') :
    s' = s ∨ ∃ item rest, s.inner.rxQueue.popFront (RelayRxItem.byteCost B) = some (item, rest) ∧
      s' = { s with inner := { s.inner with rxQueue := rest } } := by
  simp only [step] at h
  split at h
  · exact .inl (Option.some.inj h).symm
  · rename_i item rest hpop
    exact .inr ⟨item, rest, hpop, (Option.some.inj h).symm⟩

theorem refines_send {side : Nat} {data : RouterItem S} {resident : data.Resident B}
    {tx : SideTx S} {now : UInt64} (h : s.step B (.send side data resident tx now) = some s') :
    Refines B (.send side data resident tx now) s s' := by
  simp only [step, RelayInner.sendReliableToSide] at h
  cases hplan : s.inner.sendPlan B now side data with
  | error e =>
    rw [hplan] at h
    exact .of_unsent h
  | ok planned =>
    obtain ⟨handler, plan⟩ := planned
    rw [hplan] at h
    refine .of_sent (RelayInner.sendPlan_fits resident hplan) (fun hwhole hfails => ?_) h
    exact hwhole ((RelayInner.sendFailsNumbered_of_plan hplan).mp hfails)

theorem refines_removeSide {side : Nat} (h : s.step B (.removeSide side) = some s') :
    Refines B (.removeSide side) s s' := by
  refine .of_sideRemoved h (fun inner hremoved => ?_) (fun inner hremoved hb => ?_)
  · obtain ⟨_, -, hremoved⟩ := bind_eq_ok.mp hremoved
    obtain rfl := Except.ok.inj hremoved
    rfl
  · obtain ⟨_, -, hremoved⟩ := bind_eq_ok.mp hremoved
    obtain rfl := Except.ok.inj hremoved
    exact ⟨⟨hb.accounted.rx.retain _, hb.accounted.tx.retain _, hb.accounted.replay.retain _⟩,
      hb.recentMax⟩

theorem refines_setSideEgressEnabled {side : Nat} {enabled : Bool}
    (h : s.step B (.setSideEgressEnabled side enabled) = some s') :
    Refines B (.setSideEgressEnabled side enabled) s s' := by
  refine .of_changed h fun inner hset => ?_
  obtain ⟨_, -, hset⟩ := bind_eq_ok.mp hset
  dsimp only at hset
  split at hset
  · obtain rfl := Except.ok.inj hset
    exact .of_frame rfl fun hb => hb.congr rfl rfl
  · obtain rfl := Except.ok.inj hset
    exact .of_frame rfl fun hb =>
      ⟨⟨hb.accounted.rx, hb.accounted.tx.retain _, hb.accounted.replay.retain _⟩, hb.recentMax⟩

theorem refines_of_step (h : s.step B a = some s') : Refines B a s s' := by
  cases a with
  | addSide side =>
    obtain rfl := Option.some.inj h
    exact .of_frame rfl fun hb => hb.congr rfl rfl
  | removeSide side => exact refines_removeSide h
  | setSideEgressEnabled side enabled => exact refines_setSideEgressEnabled h
  | setSideIngressEnabled side enabled =>
    refine .of_changed h fun inner hset => ?_
    obtain ⟨_, -, hset⟩ := bind_eq_ok.mp hset
    obtain rfl := Except.ok.inj hset
    exact .of_frame rfl fun hb => hb.congr rfl rfl
  | send side data resident tx now => exact refines_send h
  | ack key n =>
    obtain rfl := Option.some.inj h
    exact .of_streams (.ack key n) (fun h hstreams => by rw [TxHistory.step, hstreams]; rfl)
      (fun _ => trivial) trivial
  | partialAck key seq =>
    obtain rfl := Option.some.inj h
    exact .of_streams (.partialAck key seq) (fun h hstreams => by rw [TxHistory.step, hstreams]; rfl)
      (fun _ => trivial) trivial
  | request key seq =>
    obtain rfl := System.returned_eq_some h
    exact .of_moves (HopNode.queueReliableRetransmit_moves (n := RelayInner.hop B) key seq)
      ((HopNode.closed_sane (n := RelayInner.hop B)).queueReliableRetransmit key seq)
  | timeouts now =>
    obtain rfl := System.returned_eq_some h
    exact .of_moves (HopNode.processReliableTimeouts_moves (n := RelayInner.hop B) now s.inner)
      ((HopNode.closed_sane (n := RelayInner.hop B)).processReliableTimeouts now s.inner)
  | processReplay tx =>
    obtain rfl := System.returned_eq_some h
    exact .of_moves (s.inner.processReplayQueueItem_moves tx)
      (s.inner.processReplayQueueItem_budgeted tx)
  | pushTx item =>
    obtain rfl := System.returned_eq_some h
    have hpush := (s.inner.pushTx_keeps (B := B) item).1
    exact .of_frame hpush.reliableTx hpush.budgeted
  | popTx =>
    rcases popTx_eq_some h with rfl | ⟨item, rest, hpop, rfl⟩
    · exact .refl _
    · exact .of_frame rfl fun hb =>
        ⟨⟨hb.accounted.rx, hb.accounted.tx.popFront hpop, hb.accounted.replay⟩, hb.recentMax⟩
  | pushRx item =>
    obtain rfl := System.returned_eq_some h
    have hpush := (s.inner.pushRx_keeps (B := B) item).1
    exact .of_frame hpush.reliableTx hpush.budgeted
  | popRx =>
    rcases popRx_eq_some h with rfl | ⟨item, rest, hpop, rfl⟩
    · exact .refl _
    · exact .of_frame rfl fun hb =>
        ⟨⟨hb.accounted.rx.popFront hpop, hb.accounted.tx, hb.accounted.replay⟩, hb.recentMax⟩
  | isDuplicatePkt data =>
    obtain rfl := System.returned_eq_some h
    have hkeeps := (s.inner.isDuplicatePkt_keeps (B := B) data).1
    exact .of_frame hkeeps.reliableTx hkeeps.budgeted
  | accept key seq bytes =>
    obtain rfl := System.returned_eq_some h
    have hkeeps := (s.inner.acceptOrdered_keeps (B := B) key seq bytes).1
    exact .of_frame hkeeps.reliableTx hkeeps.budgeted
  | clearQueues =>
    obtain rfl := Option.some.inj h
    exact .of_frame rfl fun hb => ⟨⟨.clear, .clear, hb.accounted.replay⟩, hb.recentMax⟩
  | clearRxQueue =>
    obtain rfl := Option.some.inj h
    exact .of_frame rfl fun hb => ⟨⟨.clear, hb.accounted.tx, hb.accounted.replay⟩, hb.recentMax⟩
  | clearTxQueue =>
    obtain rfl := Option.some.inj h
    exact .of_frame rfl fun hb => ⟨⟨hb.accounted.rx, .clear, .clear⟩, hb.recentMax⟩
  | learnDiscovery src data now =>
    obtain rfl := System.returned_eq_some h
    have hkeeps := (s.inner.learnDiscoveryItem_keeps (B := B) now src data).1
    exact .of_frame hkeeps.reliableTx hkeeps.budgeted
  | pruneDiscovery now =>
    obtain rfl := Option.some.inj h
    exact .of_frame rfl fun hb => hb.congr rfl rfl
  | fitDiscovery =>
    obtain rfl := Option.some.inj h
    have hkeeps := (s.inner.fitDiscoveryBudget_keeps (B := B)).1
    exact .of_frame hkeeps.reliableTx hkeeps.budgeted

theorem history_initial {inner : RelayInner S} (hnew : RelayInner.new B = .ok inner) :
    history (.initial inner) = TxHistory.initial := by
  obtain ⟨_, -, hnew⟩ := bind_eq_ok.mp hnew
  obtain ⟨_, -, hnew⟩ := bind_eq_ok.mp hnew
  obtain ⟨_, -, hnew⟩ := bind_eq_ok.mp hnew
  obtain ⟨_, -, hnew⟩ := bind_eq_ok.mp hnew
  obtain rfl := Except.ok.inj hnew
  rfl

/-- The streams of a reachable relay. -/
theorem sound_of_run {inner : RelayInner S} {ok : RelaySystem S → Action B S → Prop}
    {actions : List (Action B S)} (hnew : RelayInner.new B = .ok inner)
    (hrun : Run (step B) ok (.initial inner) actions s) :
    s.history.Sound B ∧ ((∀ s a, ok s a → s.SendsWhole B a) → s.history.Contiguous) :=
  System.sound_of_run refines_of_step (history_initial hnew) hrun

/-- The accounts of a reachable relay. -/
theorem budgeted_of_run {inner : RelayInner S} {ok : RelaySystem S → Action B S → Prop}
    {actions : List (Action B S)} (hnew : RelayInner.new B = .ok inner)
    (hrun : Run (step B) ok (.initial inner) actions s) : s.inner.Budgeted B :=
  (System.refines_of_run refines_of_step hrun).2 (.new hnew)

end RelaySystem
end Sedsprintf
