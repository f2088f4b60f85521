import Sedsprintf.Relay.System
import Sedsprintf.Stores.Eviction

/-!
# The stores of a running relay

As for the router: every step but the recording of an id is a list of store moves.
-/
namespace Sedsprintf

open Lib

namespace RelayInner
variable {B : Build} {S : Schema}

def StoreMoves (B : Build) (st st' : RelayInner S) : Prop :=
  Relation.ReflTransGen (Stores.Move B 0 (RelayQueues.bank B)) st.stores st'.stores

namespace StoreMoves
variable {st st' st'' : RelayInner S}

theorem refl (st : RelayInner S) : StoreMoves B st st := Relation.ReflTransGen.refl

theorem one (h : Stores.Move B 0 (RelayQueues.bank B) st.stores st'.stores) :
    StoreMoves B st st' :=
  .single h

theorem trans (h : StoreMoves B st st') (h' : StoreMoves B st' st'') : StoreMoves B st st'' :=
  Relation.ReflTransGen.trans h h'

/-- Sides and TX streams are no store. -/
theorem other (queues : st'.toRelayQueues = st.toRelayQueues)
    (recentRx : st'.recentRx = st.recentRx) (reliableRx : st'.reliableRx = st.reliableRx)
    (discoveryRoutes : st'.discoveryRoutes = st.discoveryRoutes) : StoreMoves B st st' :=
  .one (.other queues recentRx reliableRx discoveryRoutes)

theorem pushRx (st : RelayInner S) (item : RelayRxItem S) :
    StoreMoves B st (st.pushRx B item).1 := by
  rw [pushRx_eq]
  exact .one (@Stores.Move.push _ _ S B 0 _ (RelayQueues.bank B) st.stores .rx item)

theorem pushTx (st : RelayInner S) (item : RelayTxItem S) :
    StoreMoves B st (st.pushTx B item).1 := by
  rw [pushTx_eq]
  exact .one (@Stores.Move.push _ _ S B 0 _ (RelayQueues.bank B) st.stores .tx item)

theorem pushReplay (st : RelayInner S) (item : RelayReplayItem) :
    StoreMoves B st (st.pushReplay B item).1 := by
  rw [pushReplay_eq]
  exact .one (@Stores.Move.push _ _ S B 0 _ (RelayQueues.bank B) st.stores .replay item)

theorem loseRx (st : RelayInner S) {d : BoundedDeque (RelayRxItem S)}
    (h : st.rxQueue.Loses (RelayRxItem.byteCost B) d) : StoreMoves B st { st with rxQueue := d } :=
  .one (@Stores.Move.lose _ _ S B 0 _ (RelayQueues.bank B) st.stores .rx d h)

theorem loseTx (st : RelayInner S) {d : BoundedDeque (RelayTxItem S)}
    (h : st.txQueue.Loses (RelayTxItem.byteCost B) d) : StoreMoves B st { st with txQueue := d } :=
  .one (@Stores.Move.lose _ _ S B 0 _ (RelayQueues.bank B) st.stores .tx d h)

theorem loseReplay (st : RelayInner S) {d : BoundedDeque RelayReplayItem}
    (h : st.replayQueue.Loses RelayReplayItem.byteCost d) :
    StoreMoves B st { st with replayQueue := d } :=
  .one (@Stores.Move.lose _ _ S B 0 _ (RelayQueues.bank B) st.stores .replay d h)

theorem closed (st : RelayInner S) : (hop B).Closed (StoreMoves B st) where
  setStreams h := h.trans (.other rfl rfl rfl rfl)
  pushReplay h := h.trans (.pushReplay _ _)

theorem processReplayQueueItem (tx : SideTx S) :
    StoreMoves B st (st.processReplayQueueItem B tx).1 := by
  unfold RelayInner.processReplayQueueItem
  split
  · exact .refl st
  · rename_i item rest hpop
    exact (closed st).processReplay (fun h => h.trans (.pushReplay _ _)) _ _ _
      (.loseReplay st (.popFront hpop))

theorem learnDiscoveryItem (now : UInt64) (src : Nat) (data : RouterItem S) :
    StoreMoves B st (st.learnDiscoveryItem B now src data).1 := by
  rcases st.learnDiscoveryItem_cases (B := B) now src data with
    heq | ⟨d, linkLocal, pkt, routes, hlearn, heq⟩
  · rw [heq]
    exact .refl st
  · rw [heq]
    exact .tail (.single (.learn st.stores hlearn)) (.prune _ now)

/-- What a removed side takes along, store by store. -/
theorem removeSide {side : Nat} (h : st.removeSide B side = .ok st') : StoreMoves B st st' := by
  obtain ⟨_, -, h⟩ := bind_eq_ok.mp h
  obtain rfl := Except.ok.inj h
  have hrx := loseRx (B := B) st (.retain fun queued => queued.src != side)
  have htx := loseTx (B := B)
    { st with
      rxQueue := st.rxQueue.retain (RelayRxItem.byteCost B) fun queued => queued.src != side }
    (.retain fun queued => queued.dst != side && queued.src != some side)
  have hreplay := loseReplay (B := B)
    { st with
      rxQueue := st.rxQueue.retain (RelayRxItem.byteCost B) fun queued => queued.src != side
      txQueue := st.txQueue.retain (RelayTxItem.byteCost B)
        fun queued => queued.dst != side && queued.src != some side }
    (.retain fun queued => queued.dst != side)
  refine (hrx.trans (htx.trans hreplay)).trans ?_
  exact .tail (.tail (.single (.dropStreams _ fun key _ => key.side ≠ side)) (.dropRoute _ side))
    (.other rfl rfl rfl rfl)

theorem setSideEgressEnabled {side : Nat} {enabled : Bool}
    (h : st.setSideEgressEnabled B side enabled = .ok st') : StoreMoves B st st' := by
  obtain ⟨_, -, h⟩ := bind_eq_ok.mp h
  dsimp only at h
  split at h
  · obtain rfl := Except.ok.inj h
    exact .other rfl rfl rfl rfl
  · obtain rfl := Except.ok.inj h
    have htx := loseTx (B := B) st (.retain fun queued => queued.dst != side)
    have hreplay := loseReplay (B := B)
      { st with
        txQueue := st.txQueue.retain (RelayTxItem.byteCost B) fun queued => queued.dst != side }
      (.retain fun queued => queued.dst != side)
    exact (htx.trans hreplay).trans (.other rfl rfl rfl rfl)

end StoreMoves

/-- An id is recorded, or nothing happens. -/
theorem isDuplicatePkt_cases (st : RelayInner S) (data : RouterItem S) :
    (st.isDuplicatePkt B data).1 = st ∨
      ∃ id, getHash B data = .ok id ∧ id ∉ st.recentRx.q ∧
        (st.isDuplicatePkt B data).1 = (st.pushRecentRx B id).1 := by
  unfold isDuplicatePkt
  split
  · exact .inl rfl
  · rename_i id hhash
    split
    · exact .inl rfl
    · rename_i hnew
      refine .inr ⟨id, hhash, hnew, ?_⟩
      generalize st.pushRecentRx B id = r
      obtain ⟨st', _ | ⟨⟨⟩⟩⟩ := r
      · rfl
      · rfl

/-- What the stores of a reachable relay keep. -/
abbrev Kept (B : Build) (st : RelayInner S) : Prop :=
  Stores.Kept B 0 (RelayQueues.bank B) st.stores

theorem kept_new {st : RelayInner S} (hnew : RelayInner.new B = .ok st) : st.Kept B := by
  obtain ⟨rx, hrx, hnew⟩ := bind_eq_ok.mp hnew
  obtain ⟨tx, htx, hnew⟩ := bind_eq_ok.mp hnew
  obtain ⟨replay, hreplay, hnew⟩ := bind_eq_ok.mp hnew
  obtain ⟨recent, hrecent, hnew⟩ := bind_eq_ok.mp hnew
  obtain rfl := Except.ok.inj hnew
  refine .new .rx (fun k => ?_) (RecentKept.new hrecent).maxBytes
  cases k with
  | rx => exact ⟨_, _, _, hrx⟩
  | tx => exact ⟨_, _, _, htx⟩
  | replay => exact ⟨_, _, _, hreplay⟩

theorem recentRx_new {st : RelayInner S} (hnew : RelayInner.new B = .ok st) : st.recentRx.q = [] := by
  obtain ⟨_, -, hnew⟩ := bind_eq_ok.mp hnew
  obtain ⟨_, -, hnew⟩ := bind_eq_ok.mp hnew
  obtain ⟨_, -, hnew⟩ := bind_eq_ok.mp hnew
  obtain ⟨recent, hrecent, hnew⟩ := bind_eq_ok.mp hnew
  obtain rfl := Except.ok.inj hnew
  exact (BoundedDeque.new_eq_ok hrecent).1

end RelayInner

namespace RelaySystem
variable {B : Build} {S : Schema} {s s' : RelaySystem S} {a : Action B S}

/-- Recording an id: the step that is no store move. -/
def Action.OnRecent : Action B S → Prop
  | .isDuplicatePkt _ => True
  | _ => False

open RelayInner in
theorem storeMoves_of_step (h : s.step B a = some s') (ha : ¬a.OnRecent) :
    StoreMoves B s.inner s'.inner := by
  cases a with
  | addSide side =>
    obtain rfl := Option.some.inj h
    exact .other rfl rfl rfl rfl
  | removeSide side =>
    rcases System.sideRemoved_eq_some h with rfl | hremoved
    · exact .refl _
    · exact .removeSide hremoved
  | setSideEgressEnabled side enabled =>
    rcases System.changed_eq_some h with rfl | ⟨inner, hset, rfl⟩
    · exact .refl _
    · exact .setSideEgressEnabled hset
  | setSideIngressEnabled side enabled =>
    rcases System.changed_eq_some h with rfl | ⟨inner, hset, rfl⟩
    · exact .refl _
    · obtain ⟨_, -, hset⟩ := bind_eq_ok.mp hset
      obtain rfl := Except.ok.inj hset
      exact .other rfl rfl rfl rfl
  | send side data resident tx now =>
    rw [System.sent_inner h]
    exact .other rfl rfl rfl rfl
  | ack key n =>
    obtain rfl := Option.some.inj h
    exact .other rfl rfl rfl rfl
  | partialAck key seq =>
    obtain rfl := Option.some.inj h
    exact .other rfl rfl rfl rfl
  | request key seq =>
    obtain rfl := System.returned_eq_some h
    exact (StoreMoves.closed s.inner).queueReliableRetransmit key seq (.refl _)
  | timeouts now =>
    obtain rfl := System.returned_eq_some h
    exact (StoreMoves.closed s.inner).processReliableTimeouts now s.inner (.refl _)
  | processReplay tx =>
    obtain rfl := System.returned_eq_some h
    exact .processReplayQueueItem tx
  | pushTx item =>
    obtain rfl := System.returned_eq_some h
    exact .pushTx _ _
  | popTx =>
    rcases popTx_eq_some h with rfl | ⟨item, rest, hpop, rfl⟩
    · exact .refl _
    · exact .loseTx _ (.popFront hpop)
  | pushRx item =>
    obtain rfl := System.returned_eq_some h
    exact .pushRx _ _
  | popRx =>
    rcases popRx_eq_some h with rfl | ⟨item, rest, hpop, rfl⟩
    · exact .refl _
    · exact .loseRx _ (.popFront hpop)
  | isDuplicatePkt data => exact absurd trivial ha
  | accept key seq bytes =>
    obtain rfl := System.returned_eq_some h
    exact .one (.accept s.inner.stores key seq bytes)
  | clearQueues =>
    obtain rfl := Option.some.inj h
    exact StoreMoves.trans (.loseRx _ .clear) (.loseTx _ .clear)
  | clearRxQueue =>
    obtain rfl := Option.some.inj h
    exact .loseRx _ .clear
  | clearTxQueue =>
    obtain rfl := Option.some.inj h
    exact StoreMoves.trans (.loseTx _ .clear) (.loseReplay _ .clear)
  | learnDiscovery src data now =>
    obtain rfl := System.returned_eq_some h
    exact .learnDiscoveryItem now src data
  | pruneDiscovery now =>
    obtain rfl := Option.some.inj h
    exact .one (.prune s.inner.stores now)
  | fitDiscovery =>
    obtain rfl := Option.some.inj h
    exact .one (.fit s.inner.stores)

theorem kept_of_step (hkept : s.inner.Kept B) (h : s.step B a = some s') :
    s'.inner.Kept B := by
  by_cases ha : a.OnRecent
  · cases a with
    | isDuplicatePkt data =>
      obtain rfl := System.returned_eq_some h
      rcases s.inner.isDuplicatePkt_cases (B := B) data with heq | ⟨id, -, -, heq⟩
      · rw [heq]
        exact hkept
      · rw [heq]
        exact hkept.pushRecentRx id
    | _ => cases ha
  · exact hkept.moves (storeMoves_of_step h ha)

/-- Every reachable relay keeps its budget, its accounts and the order of its queues. -/
theorem kept_of_run {inner : RelayInner S} {ok : RelaySystem S → Action B S → Prop}
    {actions : List (Action B S)} (hnew : RelayInner.new B = .ok inner)
    (hrun : Run (step B) ok (.initial inner) actions s) : s.inner.Kept B :=
  hrun.invariant (fun s => s.inner.Kept B) (fun hkept _ hstep => kept_of_step hkept hstep)
    (RelayInner.kept_new hnew)

end RelaySystem

/-! ## The items in the transmit queue -/

namespace RelayInner
variable {B : Build} {S : Schema} {st st' st'' : RelayInner S}

/-- Transmit items only leave. -/
def TxSpared (st st' : RelayInner S) : Prop := st'.txQueue.q.Sublist st.txQueue.q

namespace TxSpared

theorem of_eq (h : st'.txQueue = st.txQueue) : TxSpared st st' := by
  rw [TxSpared, h]

theorem trans (h : TxSpared st st') (h' : TxSpared st' st'') : TxSpared st st'' :=
  List.Sublist.trans h' h

theorem makeSharedQueueRoom (st : RelayInner S) (cost : Nat)
    (preferred : StoreKind RelayQueueKind) :
    TxSpared st (st.makeSharedQueueRoom B cost preferred).1 :=
  (Stores.makeSharedQueueRoom_evicts B 0 (Stores.loses_popRelation (RelayQueues.bank B) .tx)
    st.stores cost preferred).queues.sublist

theorem pushRx (st : RelayInner S) (item : RelayRxItem S) : TxSpared st (st.pushRx B item).1 := by
  have hroom := makeSharedQueueRoom (B := B) st (item.byteCost B) (.queue .rx)
  unfold RelayInner.pushRx
  generalize st.makeSharedQueueRoom B (item.byteCost B) (.queue .rx) = r at hroom
  obtain ⟨st', _ | ⟨⟨⟩⟩⟩ := r
  · exact hroom
  · exact hroom

theorem pushReplay (st : RelayInner S) (item : RelayReplayItem) :
    TxSpared st (st.pushReplay B item).1 := by
  have hroom := makeSharedQueueRoom (B := B) st item.byteCost (.queue .replay)
  unfold RelayInner.pushReplay
  generalize st.makeSharedQueueRoom B item.byteCost (.queue .replay) = r at hroom
  obtain ⟨st', _ | ⟨⟨⟩⟩⟩ := r
  · exact hroom
  · exact hroom

theorem closed (st : RelayInner S) : (hop B).Closed (TxSpared st) where
  setStreams h := h
  pushReplay h := h.trans (.pushReplay _ _)

theorem processReplayQueueItem (tx : SideTx S) :
    TxSpared st (st.processReplayQueueItem B tx).1 := by
  unfold RelayInner.processReplayQueueItem
  split
  · exact .of_eq rfl
  · exact (closed st).processReplay (fun h => h.trans (.pushReplay _ _)) _ _ _ (.of_eq rfl)

theorem isDuplicatePkt (st : RelayInner S) (data : RouterItem S) :
    TxSpared st (st.isDuplicatePkt B data).1 := by
  rcases st.isDuplicatePkt_cases (B := B) data with heq | ⟨id, -, -, heq⟩
  · rw [heq]
    exact .of_eq rfl
  · rw [heq]
    exact (Stores.pushRecentRx_evicts B 0 (Stores.loses_popRelation (RelayQueues.bank B) .tx)
      st.stores id).queues.sublist

theorem fitDiscoveryBudget (st : RelayInner S) : TxSpared st (st.fitDiscoveryBudget B) := by
  obtain ⟨routes, heq, -⟩ := @Stores.fitDiscoveryLoop_cases _ _ S (RelayQueues.set B) B 0
    st.discoveryRoutes.size st.stores
  have hstores : st.fitDiscoveryBudget B = { st with discoveryRoutes := routes } :=
    congrArg st.setStores heq
  exact .of_eq (congrArg (fun st => st.txQueue) hstores)

theorem learnDiscoveryItem (now : UInt64) (src : Nat) (data : RouterItem S) :
    TxSpared st (st.learnDiscoveryItem B now src data).1 := by
  rcases st.learnDiscoveryItem_cases (B := B) now src data with heq | ⟨_, _, _, routes, -, heq⟩
  · rw [heq]
    exact .of_eq rfl
  · rw [heq]
    exact fitDiscoveryBudget (B := B) { st with discoveryRoutes := routes }

end TxSpared

/-- A pushed item is among what is left of the others, or nowhere. -/
theorem mem_pushTx {item queued : RelayTxItem S} (h : queued ∈ (st.pushTx B item).1.txQueue.q) :
    queued = item ∨ queued ∈ st.txQueue.q := by
  have hroom := TxSpared.makeSharedQueueRoom (B := B) st (item.byteCost B) (.queue .tx)
  unfold pushTx at h
  generalize st.makeSharedQueueRoom B (item.byteCost B) (.queue .tx) = r at hroom h
  obtain ⟨st', _ | ⟨⟨⟩⟩⟩ := r
  · exact .inr (hroom.subset h)
  · rcases @BoundedDeque.pushBackPrioritized_contents _ (RelayTxItem.byteCost B) st'.txQueue
      (fun queued => queued.priority) item with ⟨kept, hkept, hperm, -⟩ | ⟨hsub, -⟩
    · rcases List.mem_cons.mp (hperm.subset h) with heq | hmem
      · exact .inl heq
      · exact .inr (hroom.subset (hkept.subset hmem))
    · exact .inr (hroom.subset (hsub.subset h))

/-- Every transmit item has the priority of its type. -/
def TxRanked (B : Build) (st : RelayInner S) : Prop :=
  ∀ item ∈ st.txQueue.q, itemPriority B item.data = .ok item.priority

theorem TxRanked.spared (h : st.TxRanked B) (hspared : TxSpared st st') : st'.TxRanked B :=
  fun item hmem => h item (hspared.subset hmem)

end RelayInner

namespace RelaySystem
variable {B : Build} {S : Schema} {s s' : RelaySystem S} {a : Action B S}

/-- Items are pushed as `push_tx` is called everywhere: with the priority of their type. -/
def PushesRanked (B : Build) (_ : RelaySystem S) : Action B S → Prop
  | .pushTx item => itemPriority B item.data = .ok item.priority
  | _ => True

open RelayInner in
theorem txRanked_of_step (hranked : s.inner.TxRanked B) (ha : s.PushesRanked B a)
    (h : s.step B a = some s') : s'.inner.TxRanked B := by
  cases a with
  | pushTx item =>
    obtain rfl := System.returned_eq_some h
    intro queued hmem
    rcases mem_pushTx hmem with rfl | hold
    · exact ha
    · exact hranked queued hold
  | addSide side =>
    obtain rfl := Option.some.inj h
    exact hranked
  | removeSide side =>
    rcases System.sideRemoved_eq_some h with rfl | hremoved
    · exact hranked
    · obtain ⟨_, -, hremoved⟩ := bind_eq_ok.mp hremoved
      apply hranked.spared
      rw [← Except.ok.inj hremoved]
      exact List.filter_sublist
  | setSideEgressEnabled side enabled =>
    rcases System.changed_eq_some h with rfl | ⟨inner, hset, rfl⟩
    · exact hranked
    · obtain ⟨_, -, hset⟩ := bind_eq_ok.mp hset
      apply hranked.spared
      dsimp only at hset
      split at hset
      · rw [← Except.ok.inj hset]
        exact .of_eq rfl
      · rw [← Except.ok.inj hset]
        exact List.filter_sublist
  | setSideIngressEnabled side enabled =>
    rcases System.changed_eq_some h with rfl | ⟨inner, hset, rfl⟩
    · exact hranked
    · obtain ⟨_, -, hset⟩ := bind_eq_ok.mp hset
      apply hranked.spared
      rw [← Except.ok.inj hset]
      exact .of_eq rfl
  | send side data resident tx now =>
    rw [System.sent_inner h]
    exact hranked
  | ack key n =>
    obtain rfl := Option.some.inj h
    exact hranked
  | partialAck key seq =>
    obtain rfl := Option.some.inj h
    exact hranked
  | request key seq =>
    obtain rfl := System.returned_eq_some h
    exact hranked.spared ((TxSpared.closed s.inner).queueReliableRetransmit key seq (.of_eq rfl))
  | timeouts now =>
    obtain rfl := System.returned_eq_some h
    exact hranked.spared ((TxSpared.closed s.inner).processReliableTimeouts now s.inner (.of_eq rfl))
  | processReplay tx =>
    obtain rfl := System.returned_eq_some h
    exact hranked.spared (.processReplayQueueItem tx)
  | popTx =>
    rcases popTx_eq_some h with rfl | ⟨item, rest, hpop, rfl⟩
    · exact hranked
    · exact hranked.spared (BoundedDeque.Loses.popFront hpop).sublist
  | pushRx item =>
    obtain rfl := System.returned_eq_some h
    exact hranked.spared (.pushRx _ _)
  | popRx =>
    rcases popRx_eq_some h with rfl | ⟨item, rest, hpop, rfl⟩
    · exact hranked
    · exact hranked
  | isDuplicatePkt data =>
    obtain rfl := System.returned_eq_some h
    exact hranked.spared (.isDuplicatePkt _ _)
  | accept key seq bytes =>
    obtain rfl := System.returned_eq_some h
    exact hranked.spared (Stores.acceptOrdered_frame B 0
      (Stores.loses_popRelation (RelayQueues.bank B) .tx) s.inner.stores key seq bytes).2.sublist
  | clearQueues =>
    obtain rfl := Option.some.inj h
    exact hranked.spared (List.nil_sublist _)
  | clearRxQueue =>
    obtain rfl := Option.some.inj h
    exact hranked
  | clearTxQueue =>
    obtain rfl := Option.some.inj h
    exact hranked.spared (List.nil_sublist _)
  | learnDiscovery src data now =>
    obtain rfl := System.returned_eq_some h
    exact hranked.spared (.learnDiscoveryItem now src data)
  | pruneDiscovery now =>
    obtain rfl := Option.some.inj h
    exact hranked
  | fitDiscovery =>
    obtain rfl := Option.some.inj h
    exact hranked.spared (.fitDiscoveryBudget _)

theorem txRanked_of_run {inner : RelayInner S} {actions : List (Action B S)}
    (hnew : RelayInner.new B = .ok inner)
    (hrun : Run (step B) (PushesRanked B) (.initial inner) actions s) : s.inner.TxRanked B := by
  apply hrun.invariant (fun s => s.inner.TxRanked B) txRanked_of_step
  obtain ⟨rx, -, hnew⟩ := bind_eq_ok.mp hnew
  obtain ⟨tx, htx, hnew⟩ := bind_eq_ok.mp hnew
  obtain ⟨replay, -, hnew⟩ := bind_eq_ok.mp hnew
  obtain ⟨recent, -, hnew⟩ := bind_eq_ok.mp hnew
  obtain rfl := Except.ok.inj hnew
  intro item hmem
  rw [System.initial, (BoundedDeque.new_eq_ok htx).1] at hmem
  cases hmem

end RelaySystem
end Sedsprintf
