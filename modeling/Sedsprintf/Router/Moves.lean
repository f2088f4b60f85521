import Sedsprintf.Router.System

/-!
# The stores of a running router

Every step but the recording and forgetting of an id is a list of store moves, so
what moves keep holds in every reachable state.
-/
namespace Sedsprintf

open Lib

namespace RouterInner
variable {B : Build} {S : Schema}

section Work
variable {r : Stores (RouterQueues S) S → Stores (RouterQueues S) S → Prop}
  (hr : Stores.WorkRelation B B.wordSize (RouterQueues.bank B) r) {st st' st'' : RouterInner S}
include hr

omit hr in
/-- From another state with the same stores. -/
theorem work_of_start (h : r st'.stores st''.stores) (heq : st'.stores = st.stores) :
    r st.stores st''.stores := by
  rw [← heq]
  exact h

theorem work_pushTransmit (st : RouterInner S) (queued : TxQueued S) :
    r st.stores (st.pushTransmit B queued).1.stores := by
  rw [pushTransmit_eq]
  exact hr.push st.stores .transmit queued

theorem work_pushReceived (st : RouterInner S) (item : RouterRxItem S) :
    r st.stores (st.pushReceived B item).1.stores := by
  rw [pushReceived_eq]
  exact hr.push st.stores .received item

theorem work_loseTransmit (st : RouterInner S) {d : BoundedDeque (TxQueued S)}
    (h : st.transmitQueue.Loses (TxQueued.byteCost B) d) :
    r st.stores { st with transmitQueue := d }.stores :=
  hr.lose st.stores .transmit h

theorem work_loseReceived (st : RouterInner S) {d : BoundedDeque (RouterRxItem S)}
    (h : st.receivedQueue.Loses (RouterRxItem.byteCost B) d) :
    r st.stores { st with receivedQueue := d }.stores :=
  hr.lose st.stores .received h

theorem work_txQueueItemWithFlags (st : RouterInner S) (item : RouterTxItem S)
    (ignoreLocal : Bool) : r st.stores (st.txQueueItemWithFlags B item ignoreLocal).1.stores := by
  unfold RouterInner.txQueueItemWithFlags
  dsimp only
  split
  · exact hr.refl _
  · exact work_pushTransmit hr _ _

theorem work_closed (start : Stores (RouterQueues S) S) :
    (hop B).Closed fun st : RouterInner S => r start st.stores where
  setStreams h := hr.trans h (hr.setStreams _ _)
  pushReplay h := hr.trans h (work_pushTransmit hr _ _)

theorem work_endToEndRetransmitSides (st : RouterInner S) (packetId : UInt64) (now : UInt64) :
    r st.stores (st.endToEndRetransmitSides packetId now).stores := by
  unfold RouterInner.endToEndRetransmitSides
  split
  · exact hr.refl _
  · split
    · exact hr.refl _
    · exact hr.refl _

theorem work_processFront (tx : SideTx S) : r st.stores (st.processFront B tx).1.stores := by
  unfold RouterInner.processFront
  split
  · exact hr.refl _
  · rename_i queued rest hpop
    have hpopped : r st.stores { st with transmitQueue := rest }.stores :=
      work_loseTransmit hr st (.popFront hpop)
    dsimp only
    split
    · exact (work_closed hr st.stores).processReplay
        (fun h => hr.trans h (work_txQueueItemWithFlags hr _ _ _)) _ _ _ hpopped
    · exact hr.trans hpopped (work_endToEndRetransmitSides hr _ _ _)
    · exact hpopped

theorem work_handleEndToEndAck (packetId : UInt64) (sender : Option UInt64) :
    r st.stores (st.handleEndToEndAck packetId sender).stores := by
  unfold RouterInner.handleEndToEndAck
  split
  · exact hr.refl _
  · split
    · exact hr.refl _
    · dsimp only
      split
      · exact hr.refl _
      · exact hr.refl _

theorem work_queueEndToEndReliableRetransmit (st : RouterInner S) (packetId : UInt64) :
    r st.stores (st.queueEndToEndReliableRetransmit B packetId).1.stores := by
  unfold RouterInner.queueEndToEndReliableRetransmit
  split
  · exact hr.refl _
  · split
    · exact hr.refl _
    · exact work_of_start (work_pushTransmit hr _ _) rfl

theorem work_requeueEndToEnd (st : RouterInner S) (again : List UInt64) :
    r st.stores (st.requeueEndToEnd B again).1.stores := by
  induction again generalizing st with
  | nil => exact hr.refl _
  | cons id rest ih =>
    have hnext := work_queueEndToEndReliableRetransmit hr st id
    unfold RouterInner.requeueEndToEnd
    generalize st.queueEndToEndReliableRetransmit B id = result at hnext
    obtain ⟨st', _ | ⟨⟨⟩⟩⟩ := result
    · exact hnext
    · exact hr.trans hnext (ih st')

theorem work_processEndToEndReliableTimeouts (expected : UInt64 → Outcome (OrdMap UInt64 Nat))
    (now : UInt64) :
    r st.stores (st.processEndToEndReliableTimeouts B expected now).1.stores := by
  unfold RouterInner.processEndToEndReliableTimeouts
  split
  · exact hr.refl _
  · dsimp only
    exact work_of_start (work_requeueEndToEnd hr _ _) rfl

end Work

def StoreMoves (B : Build) (st st' : RouterInner S) : Prop :=
  Relation.ReflTransGen (Stores.Move B B.wordSize (RouterQueues.bank B)) st.stores st'.stores

namespace StoreMoves
variable {st st' st'' : RouterInner S}

theorem of_eq (h : st'.stores = st.stores) : StoreMoves B st st' := by
  unfold StoreMoves
  rw [h]

theorem one (h : Stores.Move B B.wordSize (RouterQueues.bank B) st.stores st'.stores) :
    StoreMoves B st st' :=
  .single h

theorem trans (h : StoreMoves B st st') (h' : StoreMoves B st' st'') : StoreMoves B st st'' :=
  Relation.ReflTransGen.trans h h'

/-- Sides and TX streams are no store. -/
theorem other (queues : st'.toRouterQueues = st.toRouterQueues)
    (recentRx : st'.recentRx = st.recentRx) (reliableRx : st'.reliableRx = st.reliableRx)
    (discoveryRoutes : st'.discoveryRoutes = st.discoveryRoutes) : StoreMoves B st st' :=
  .one (.other queues recentRx reliableRx discoveryRoutes)

theorem pushTransmit (st : RouterInner S) (queued : TxQueued S) :
    StoreMoves B st (st.pushTransmit B queued).1 :=
  work_pushTransmit (.moves B B.wordSize (RouterQueues.bank B)) st queued

theorem loseTransmit (st : RouterInner S) {d : BoundedDeque (TxQueued S)}
    (h : st.transmitQueue.Loses (TxQueued.byteCost B) d) :
    StoreMoves B st { st with transmitQueue := d } :=
  work_loseTransmit (.moves B B.wordSize (RouterQueues.bank B)) st h

theorem loseReceived (st : RouterInner S) {d : BoundedDeque (RouterRxItem S)}
    (h : st.receivedQueue.Loses (RouterRxItem.byteCost B) d) :
    StoreMoves B st { st with receivedQueue := d } :=
  work_loseReceived (.moves B B.wordSize (RouterQueues.bank B)) st h

theorem learnDiscoveryPacket (sender : String) (expected : UInt64 → Outcome (OrdMap UInt64 Nat))
    (now : UInt64) (pkt : Packet S) (src : Option Nat) :
    StoreMoves B st (st.learnDiscoveryPacket B sender expected now pkt src).1 := by
  rcases st.learnDiscoveryPacket_cases (B := B) sender expected now pkt src with
    heq | ⟨d, side, routes, hlearn, heq⟩
  · rw [heq]
    exact .of_eq rfl
  · rw [heq]
    have hlearned : StoreMoves B st
        (({ st with discoveryRoutes := routes } : RouterInner S).fitDiscoveryBudget B) :=
      .one (.learn st.stores hlearn)
    exact hlearned.trans (.of_eq (reconcileEndToEnd_frame (B := B) _ expected).2.1)

/-- What a removed side takes along, store by store. -/
theorem removeSide {side : Nat} (h : st.removeSide B side = .ok st') : StoreMoves B st st' := by
  obtain ⟨_, -, h⟩ := bind_eq_ok.mp h
  obtain rfl := Except.ok.inj h
  have htransmit := loseTransmit (B := B) st
    (.retain fun queued => !targets side queued)
  have hreceived := loseReceived (B := B)
    { st with
      transmitQueue := st.transmitQueue.retain (TxQueued.byteCost B) fun queued =>
        !targets side queued }
    (.retain fun queued => queued.src != some side)
  refine htransmit.trans (hreceived.trans ?_)
  refine .tail (.tail (.single (.dropStreams _ fun key _ => key.side ≠ side)) (.dropRoute _ side))
    (.other rfl rfl rfl rfl)

end StoreMoves

section Dedupe
variable (st : RouterInner S)

/-- An id is recorded, or nothing happens. -/
theorem isDuplicatePkt_cases (data : RouterItem S) :
    (st.isDuplicatePkt B data).1 = st ∨
      ∃ id, getHash B data = .ok id ∧ id ∉ st.recentRx.q ∧
        (st.isDuplicatePkt B data).1 = (st.pushRecentRx B id).1 := by
  unfold isDuplicatePkt
  split
  · exact .inl rfl
  · rename_i id hhash
    split
    · exact .inl rfl
    · rename_i hnew
      refine .inr ⟨id, hhash, hnew, ?_⟩
      generalize st.pushRecentRx B id = r
      obtain ⟨st', _ | ⟨⟨⟩⟩⟩ := r
      · rfl
      · rfl

theorem removePktId_cases (data : RouterItem S) :
    (st.removePktId B data).1 = st ∨
      ∃ id, getHash B data = .ok id ∧
        (st.removePktId B data).1 = { st with recentRx := st.recentRx.removeValue idCost id } := by
  unfold removePktId
  split
  · exact .inl rfl
  · rename_i id hhash
    exact .inr ⟨id, hhash, rfl⟩

end Dedupe

/-- What the stores of a reachable router keep. -/
abbrev Kept (B : Build) (st : RouterInner S) : Prop :=
  Stores.Kept B B.wordSize (RouterQueues.bank B) st.stores

theorem kept_new {st : RouterInner S} (hnew : RouterInner.new B = .ok st) :
    st.Kept B ∧ RecentKept B st.recentRx ∧ st.recentRx.q = [] := by
  obtain ⟨received, hreceived, hnew⟩ := bind_eq_ok.mp hnew
  obtain ⟨transmit, htransmit, hnew⟩ := bind_eq_ok.mp hnew
  obtain ⟨recent, hrecent, hnew⟩ := bind_eq_ok.mp hnew
  obtain rfl := Except.ok.inj hnew
  refine ⟨.new .received (fun k => ?_) (RecentKept.new hrecent).maxBytes, .new hrecent,
    (BoundedDeque.new_eq_ok hrecent).1⟩
  cases k with
  | received => exact ⟨_, _, _, hreceived⟩
  | transmit => exact ⟨_, _, _, htransmit⟩

end RouterInner

namespace RouterSystem
variable {B : Build} {S : Schema} {reliable : Bool} {s s' : RouterSystem S} {a : Action B S}

/-- Recording and forgetting an id: the steps that are no store moves. -/
def Action.OnRecent : Action B S → Prop
  | .isDuplicatePkt _ => True
  | .removePktId _ => True
  | _ => False

/-- Work on the queues, the streams and the end-to-end entries. -/
def Action.OnQueues : Action B S → Prop
  | .send _ _ _ _ _ => True
  | .ack _ _ => True
  | .partialAck _ _ => True
  | .request _ _ => True
  | .timeouts _ => True
  | .process _ => True
  | .register _ _ _ _ => True
  | .endToEndAck _ _ => True
  | .endToEndTimeouts _ _ => True
  | .queueBroadcast _ _ _ => True
  | .queueToSide _ _ _ _ _ => True
  | .pushReceived _ => True
  | .popReceived => True
  | .accept _ _ _ => True
  | .clearQueues => True
  | .clearRxQueue => True
  | .clearTxQueue => True
  | .reconcileEndToEnd _ => True
  | _ => False

open RouterInner in
theorem work_of_step {r : Stores (RouterQueues S) S → Stores (RouterQueues S) S → Prop}
    (hr : Stores.WorkRelation B B.wordSize (RouterQueues.bank B) r)
    (h : s.step B reliable a = some s') (ha : a.OnQueues) : r s.inner.stores s'.inner.stores := by
  cases a with
  | send side data resident tx now =>
    rw [System.sent_inner h]
    exact hr.setStreams _ _
  | ack key n =>
    obtain rfl := Option.some.inj h
    exact hr.setStreams _ _
  | partialAck key seq =>
    obtain rfl := Option.some.inj h
    exact hr.setStreams _ _
  | request key seq =>
    obtain rfl := System.returned_eq_some h
    exact (work_closed hr _).queueReliableRetransmit key seq (hr.refl _)
  | timeouts now =>
    obtain rfl := System.returned_eq_some h
    exact (work_closed hr _).processReliableTimeouts now s.inner (hr.refl _)
  | process tx =>
    obtain rfl := System.returned_eq_some h
    exact work_processFront hr tx
  | register packetId data destinations now =>
    obtain rfl := Option.some.inj h
    exact hr.refl _
  | endToEndAck packetId sender =>
    obtain rfl := Option.some.inj h
    exact work_handleEndToEndAck hr packetId sender
  | endToEndTimeouts expected now =>
    obtain rfl := System.returned_eq_some h
    exact work_processEndToEndReliableTimeouts hr expected now
  | queueBroadcast data ignoreLocal priority =>
    obtain rfl := System.returned_eq_some h
    exact work_pushTransmit hr _ _
  | queueToSide src dst data ignoreLocal priority =>
    obtain rfl := System.returned_eq_some h
    exact work_pushTransmit hr _ _
  | pushReceived item =>
    obtain rfl := System.returned_eq_some h
    exact work_pushReceived hr _ _
  | popReceived =>
    rcases popReceived_eq_some h with rfl | ⟨item, rest, hpop, rfl⟩
    · exact hr.refl _
    · exact work_loseReceived hr _ (.popFront hpop)
  | accept key seq bytes =>
    obtain rfl := System.returned_eq_some h
    exact hr.accept s.inner.stores key seq bytes
  | clearQueues =>
    obtain rfl := Option.some.inj h
    exact hr.trans (work_loseTransmit hr _ .clear) (work_loseReceived hr _ .clear)
  | clearRxQueue =>
    obtain rfl := Option.some.inj h
    exact work_loseReceived hr _ .clear
  | clearTxQueue =>
    obtain rfl := Option.some.inj h
    exact work_loseTransmit hr _ .clear
  | reconcileEndToEnd expected =>
    obtain rfl := System.returned_eq_some h
    rw [(reconcileEndToEnd_frame (B := B) _ expected).2.1]
    exact hr.refl _
  | _ => cases ha

open RouterInner in
theorem storeMoves_of_step (h : s.step B reliable a = some s') (ha : ¬a.OnRecent) :
    StoreMoves B s.inner s'.inner := by
  by_cases hqueues : a.OnQueues
  · exact work_of_step (.moves B B.wordSize (RouterQueues.bank B)) h hqueues
  · cases a with
    | addSide side =>
      obtain rfl := Option.some.inj h
      exact .other rfl rfl rfl rfl
    | removeSide side =>
      rcases System.sideRemoved_eq_some h with rfl | hremoved
      · exact .of_eq rfl
      · exact .removeSide hremoved
    | setSideEgressEnabled side enabled =>
      rcases System.changed_eq_some h with rfl | ⟨inner, hset, rfl⟩
      · exact .of_eq rfl
      · obtain ⟨_, -, hset⟩ := bind_eq_ok.mp hset
        obtain rfl := Except.ok.inj hset
        have hkept : s.inner.transmitQueue.Loses (TxQueued.byteCost B)
            (if enabled then s.inner.transmitQueue
            else s.inner.transmitQueue.retain (TxQueued.byteCost B) fun queued =>
              !targets side queued) := by
          split
          · exact .refl _
          · exact .retain _
        exact (StoreMoves.loseTransmit _ hkept).trans (.other rfl rfl rfl rfl)
    | setSideIngressEnabled side enabled =>
      rcases System.changed_eq_some h with rfl | ⟨inner, hset, rfl⟩
      · exact .of_eq rfl
      · obtain ⟨_, -, hset⟩ := bind_eq_ok.mp hset
        obtain rfl := Except.ok.inj hset
        exact .other rfl rfl rfl rfl
    | isDuplicatePkt data => exact absurd trivial ha
    | removePktId data => exact absurd trivial ha
    | learnDiscovery sender pkt src expected now =>
      obtain rfl := System.returned_eq_some h
      exact .learnDiscoveryPacket sender expected now pkt src
    | pruneDiscovery now =>
      obtain rfl := Option.some.inj h
      exact .one (.prune s.inner.stores now)
    | fitDiscovery =>
      obtain rfl := Option.some.inj h
      exact .one (.fit s.inner.stores)
    | _ => exact absurd trivial hqueues

theorem kept_of_step (hkept : s.inner.Kept B) (h : s.step B reliable a = some s') :
    s'.inner.Kept B := by
  by_cases ha : a.OnRecent
  · cases a with
    | isDuplicatePkt data =>
      obtain rfl := System.returned_eq_some h
      rcases s.inner.isDuplicatePkt_cases (B := B) data with heq | ⟨id, -, -, heq⟩
      · rw [heq]
        exact hkept
      · rw [heq]
        exact hkept.pushRecentRx id
    | removePktId data =>
      obtain rfl := System.returned_eq_some h
      rcases s.inner.removePktId_cases (B := B) data with heq | ⟨id, -, heq⟩
      · rw [heq]
        exact hkept
      · rw [heq]
        exact hkept.removeValue id
    | _ => cases ha
  · exact hkept.moves (storeMoves_of_step h ha)

/-- Every reachable router keeps its budget, its accounts and the order of its queues. -/
theorem kept_of_run {inner : RouterInner S} {ok : RouterSystem S → Action B S → Prop}
    {actions : List (Action B S)} (hnew : RouterInner.new B = .ok inner)
    (hrun : Run (step B reliable) ok (.initial inner) actions s) : s.inner.Kept B :=
  hrun.invariant (fun s => s.inner.Kept B) (fun hkept _ hstep => kept_of_step hkept hstep)
    (RouterInner.kept_new hnew).1

end RouterSystem
end Sedsprintf
