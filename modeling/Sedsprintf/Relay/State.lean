import Sedsprintf.Hop
import Sedsprintf.Stores.Recent

/-!
# Relay state

src/relay.rs:62-131 and 242-575. Unlike the router's, its items carry no
`Arc` in their cost, its route cache does not count its keys, and replays have a
queue of their own.
-/
namespace Sedsprintf

open Lib

structure RelayRxItem (S : Schema) where
  src : Nat
  data : RouterItem S
  priority : UInt8

structure RelayTxItem (S : Schema) where
  src : Option Nat
  dst : Nat
  data : RouterItem S
  priority : UInt8

structure RelayReplayItem where
  dst : Nat
  bytes : List UInt8
  priority : UInt8
  deriving DecidableEq, Repr

structure RelayQueues (S : Schema) where
  rxQueue : BoundedDeque (RelayRxItem S)
  txQueue : BoundedDeque (RelayTxItem S)
  replayQueue : BoundedDeque RelayReplayItem

structure RelayInner (S : Schema) extends RelayQueues S, NodeState S

/-- The queues among `RelayQueueKind`. -/
inductive RelayQueueKind where
  | rx
  | tx
  | replay
  deriving DecidableEq, Repr

section Costs
variable (B : Build) {S : Schema}

def RelayRxItem.byteCost (item : RelayRxItem S) : Nat := item.data.byteCost B 0

def RelayTxItem.byteCost (item : RelayTxItem S) : Nat := item.data.byteCost B 0

def RelayReplayItem.byteCost (item : RelayReplayItem) : Nat := item.bytes.length

end Costs

namespace RelayQueues
variable (B : Build) {S : Schema}

def popQueue (queues : RelayQueues S) : RelayQueueKind → Option (RelayQueues S)
  | .rx => (queues.rxQueue.popFront (RelayRxItem.byteCost B)).map fun popped =>
      { queues with rxQueue := popped.2 }
  | .tx => (queues.txQueue.popFront (RelayTxItem.byteCost B)).map fun popped =>
      { queues with txQueue := popped.2 }
  | .replay => (queues.replayQueue.popFront RelayReplayItem.byteCost).map fun popped =>
      { queues with replayQueue := popped.2 }

def len (queues : RelayQueues S) : RelayQueueKind → Nat
  | .rx => queues.rxQueue.q.length
  | .tx => queues.txQueue.q.length
  | .replay => queues.replayQueue.q.length

def bytes (queues : RelayQueues S) : RelayQueueKind → Nat
  | .rx => queues.rxQueue.curBytes
  | .tx => queues.txQueue.curBytes
  | .replay => queues.replayQueue.curBytes

structure Accounted (queues : RelayQueues S) : Prop where
  rx : queues.rxQueue.Accounted (RelayRxItem.byteCost B)
  tx : queues.txQueue.Accounted (RelayTxItem.byteCost B)
  replay : queues.replayQueue.Accounted RelayReplayItem.byteCost

def set : QueueSet RelayQueueKind (RelayQueues S) where
  kinds := [.rx, .tx, .replay]
  bytes := bytes
  len := len
  pop := popQueue B
  Accounted := Accounted B
  len_of_pop {q q' k} h := by
    cases k with
    | rx =>
      obtain ⟨popped, hpop, rfl⟩ := Option.map_eq_some_iff.mp h
      simp [len, BoundedDeque.popFront_eq_some hpop]
    | tx =>
      obtain ⟨popped, hpop, rfl⟩ := Option.map_eq_some_iff.mp h
      simp [len, BoundedDeque.popFront_eq_some hpop]
    | replay =>
      obtain ⟨popped, hpop, rfl⟩ := Option.map_eq_some_iff.mp h
      simp [len, BoundedDeque.popFront_eq_some hpop]
  pop_of_len {q k} _ hlen := by
    cases k with
    | rx =>
      obtain ⟨popped, hpop⟩ := BoundedDeque.popFront_isSome (RelayRxItem.byteCost B) hlen
      exact ⟨_, congrArg (Option.map _) hpop⟩
    | tx =>
      obtain ⟨popped, hpop⟩ := BoundedDeque.popFront_isSome (RelayTxItem.byteCost B) hlen
      exact ⟨_, congrArg (Option.map _) hpop⟩
    | replay =>
      obtain ⟨popped, hpop⟩ := BoundedDeque.popFront_isSome RelayReplayItem.byteCost hlen
      exact ⟨_, congrArg (Option.map _) hpop⟩
  accounted_pop {q q' k} h ha := by
    cases k with
    | rx =>
      obtain ⟨popped, hpop, rfl⟩ := Option.map_eq_some_iff.mp h
      exact ⟨ha.rx.popFront hpop, ha.tx, ha.replay⟩
    | tx =>
      obtain ⟨popped, hpop, rfl⟩ := Option.map_eq_some_iff.mp h
      exact ⟨ha.rx, ha.tx.popFront hpop, ha.replay⟩
    | replay =>
      obtain ⟨popped, hpop, rfl⟩ := Option.map_eq_some_iff.mp h
      exact ⟨ha.rx, ha.tx, ha.replay.popFront hpop⟩
  len_of_bytes {q k} ha _ hpos := by
    cases k with
    | rx => exact ha.rx.length_pos hpos
    | tx => exact ha.tx.length_pos hpos
    | replay => exact ha.replay.length_pos hpos

/-- The three queues in the order `largest_shared_queue` looks at them. -/
def bank : QueueBank (set B (S := S)) where
  Item
    | .rx => RelayRxItem S
    | .tx => RelayTxItem S
    | .replay => RelayReplayItem
  cost
    | .rx => RelayRxItem.byteCost B
    | .tx => RelayTxItem.byteCost B
    | .replay => RelayReplayItem.byteCost
  priorityOf
    | .rx => fun queued => queued.priority
    | .tx => fun queued => queued.priority
    | .replay => fun queued => queued.priority
  get queues
    | .rx => queues.rxQueue
    | .tx => queues.txQueue
    | .replay => queues.replayQueue
  put queues
    | .rx => fun d => { queues with rxQueue := d }
    | .tx => fun d => { queues with txQueue := d }
    | .replay => fun d => { queues with replayQueue := d }
  mem_kinds k := by cases k <;> simp [set]
  nodup_kinds := by simp [set]
  get_put q k d := by cases k <;> rfl
  put_get q k := by cases k <;> rfl
  get_put_of_ne q {k k'} d h := by
    cases k <;> cases k' <;> first | rfl | exact absurd rfl h
  bytes_eq q k := by cases k <;> rfl
  len_eq q k := by cases k <;> rfl
  pop_eq q k := by cases k <;> rfl
  accounted_iff q := by
    constructor
    · intro h k
      cases k with
      | rx => exact h.rx
      | tx => exact h.tx
      | replay => exact h.replay
    · exact fun h => ⟨h .rx, h .tx, h .replay⟩

/-- Replays only ever leave. -/
theorem replay_popRelation : Stores.PopRelation (set B (S := S)) fun queues queues' =>
    queues'.replayQueue.q.Sublist queues.replayQueue.q where
  refl _ := .refl _
  trans h h' := h'.trans h
  pop {q q' k} h := by
    cases k with
    | rx =>
      obtain ⟨popped, hpop, rfl⟩ := Option.map_eq_some_iff.mp h
      exact .refl _
    | tx =>
      obtain ⟨popped, hpop, rfl⟩ := Option.map_eq_some_iff.mp h
      exact .refl _
    | replay =>
      obtain ⟨popped, hpop, rfl⟩ := Option.map_eq_some_iff.mp h
      rw [BoundedDeque.popFront_eq_some hpop]
      exact List.sublist_cons_self _ _

end RelayQueues

namespace RelayInner
variable (B : Build) {S : Schema}

/-- `new`. -/
def new : Outcome (RelayInner S) := do
  let rx ← BoundedDeque.new B.maxQueueBudget B.startingQueueSize B.relayRxItemSize B.queueGrowNum
  let tx ← BoundedDeque.new B.maxQueueBudget B.startingQueueSize B.relayTxItemSize B.queueGrowNum
  let replay ← BoundedDeque.new B.maxQueueBudget B.startingQueueSize B.relayReplayItemSize
    B.queueGrowNum
  let recent ← BoundedDeque.new (max B.recentRxQueueBytes 1) (max B.recentRxQueueBytes 1) 8
    B.queueGrowNum
  .ok ⟨⟨rx, tx, replay⟩, ⟨[], recent, ∅, ∅, ∅⟩⟩

def stores (st : RelayInner S) : Stores (RelayQueues S) S := (st.toRelayQueues, st.toNodeState)

def setStores (st : RelayInner S) (stores : Stores (RelayQueues S) S) : RelayInner S :=
  { st with toRelayQueues := stores.1, toNodeState := stores.2 }

def sharedQueueBytesUsed (st : RelayInner S) : Nat :=
  Stores.sharedQueueBytesUsed B 0 (RelayQueues.set B) st.stores

def makeSharedQueueRoom (st : RelayInner S) (cost : Nat) (preferred : StoreKind RelayQueueKind) :
    RelayInner S × Outcome Unit :=
  let (stores, result) := Stores.makeSharedQueueRoom B 0 (RelayQueues.set B) st.stores cost
    preferred
  (st.setStores stores, result)

def pushRx (st : RelayInner S) (item : RelayRxItem S) : RelayInner S × Outcome Unit :=
  match st.makeSharedQueueRoom B (item.byteCost B) (.queue .rx) with
  | (st, .error e) => (st, .error e)
  | (st, .ok ()) =>
    let pushed := st.rxQueue.pushBackPrioritized (RelayRxItem.byteCost B)
      (fun queued => queued.priority) item
    ({ st with rxQueue := pushed.1 }, pushed.2)

def pushTx (st : RelayInner S) (item : RelayTxItem S) : RelayInner S × Outcome Unit :=
  match st.makeSharedQueueRoom B (item.byteCost B) (.queue .tx) with
  | (st, .error e) => (st, .error e)
  | (st, .ok ()) =>
    let pushed := st.txQueue.pushBackPrioritized (RelayTxItem.byteCost B)
      (fun queued => queued.priority) item
    ({ st with txQueue := pushed.1 }, pushed.2)

def pushReplay (st : RelayInner S) (item : RelayReplayItem) : RelayInner S × Outcome Unit :=
  match st.makeSharedQueueRoom B item.byteCost (.queue .replay) with
  | (st, .error e) => (st, .error e)
  | (st, .ok ()) =>
    let pushed := st.replayQueue.pushBackPrioritized RelayReplayItem.byteCost
      (fun queued => queued.priority) item
    ({ st with replayQueue := pushed.1 }, pushed.2)

def pushRecentRx (st : RelayInner S) (id : UInt64) : RelayInner S × Outcome Unit :=
  let (stores, result) := Stores.pushRecentRx B 0 (RelayQueues.set B) st.stores id
  (st.setStores stores, result)

def bufferReliableRx (st : RelayInner S) (key : StreamKey S) (seq : UInt32) (bytes : List UInt8) :
    RelayInner S × Outcome Unit :=
  let (stores, result) := Stores.bufferReliableRx B 0 (RelayQueues.set B) st.stores key seq bytes
  (st.setStores stores, result)

def acceptOrdered (st : RelayInner S) (key : StreamKey S) (seq : UInt32) (bytes : List UInt8) :
    RelayInner S × Arrival × Outcome Unit :=
  let (stores, arrival, result) := Stores.acceptOrdered B 0 (RelayQueues.set B) st.stores key seq
    bytes
  (st.setStores stores, arrival, result)

def fitDiscoveryBudget (st : RelayInner S) : RelayInner S :=
  st.setStores (Stores.fitDiscoveryBudget B 0 (RelayQueues.set B) st.stores)

/-! `push_rx`, `push_tx` and `push_replay` are the shared push. -/

theorem pushRx_eq (st : RelayInner S) (item : RelayRxItem S) :
    st.pushRx B item =
      (st.setStores (Stores.push B 0 (RelayQueues.bank B) st.stores .rx item).1,
        (Stores.push B 0 (RelayQueues.bank B) st.stores .rx item).2) := by
  unfold pushRx makeSharedQueueRoom Stores.push
  generalize hroom : Stores.makeSharedQueueRoom B 0 (RelayQueues.set B) st.stores
    (item.byteCost B) (.queue .rx) = r
  have hroom' : Stores.makeSharedQueueRoom B 0 (RelayQueues.set B) st.stores
    ((RelayQueues.bank B).cost .rx item) (.queue .rx) = r := hroom
  rw [hroom']
  obtain ⟨st', e | ⟨⟨⟩⟩⟩ := r
  · rfl
  · rfl

theorem pushTx_eq (st : RelayInner S) (item : RelayTxItem S) :
    st.pushTx B item =
      (st.setStores (Stores.push B 0 (RelayQueues.bank B) st.stores .tx item).1,
        (Stores.push B 0 (RelayQueues.bank B) st.stores .tx item).2) := by
  unfold pushTx makeSharedQueueRoom Stores.push
  generalize hroom : Stores.makeSharedQueueRoom B 0 (RelayQueues.set B) st.stores
    (item.byteCost B) (.queue .tx) = r
  have hroom' : Stores.makeSharedQueueRoom B 0 (RelayQueues.set B) st.stores
    ((RelayQueues.bank B).cost .tx item) (.queue .tx) = r := hroom
  rw [hroom']
  obtain ⟨st', e | ⟨⟨⟩⟩⟩ := r
  · rfl
  · rfl

theorem pushReplay_eq (st : RelayInner S) (item : RelayReplayItem) :
    st.pushReplay B item =
      (st.setStores (Stores.push B 0 (RelayQueues.bank B) st.stores .replay item).1,
        (Stores.push B 0 (RelayQueues.bank B) st.stores .replay item).2) := by
  unfold pushReplay makeSharedQueueRoom Stores.push
  generalize hroom : Stores.makeSharedQueueRoom B 0 (RelayQueues.set B) st.stores
    (item.byteCost) (.queue .replay) = r
  have hroom' : Stores.makeSharedQueueRoom B 0 (RelayQueues.set B) st.stores
    ((RelayQueues.bank B (S := S)).cost .replay item) (.queue .replay) = r := hroom
  rw [hroom']
  obtain ⟨st', e | ⟨⟨⟩⟩⟩ := r
  · rfl
  · rfl

section Pushes
variable {B}

def Budgeted (B : Build) (st : RelayInner S) : Prop :=
  Stores.Budgeted B (RelayQueues.set B) st.stores

/-- What no push touches, and the accounts it keeps. -/
structure Keeps (B : Build) (st st' : RelayInner S) : Prop where
  sides : st'.sides = st.sides
  reliableTx : st'.reliableTx = st.reliableTx
  budgeted : st.Budgeted B → st'.Budgeted B

theorem Budgeted.new {st : RelayInner S} (h : RelayInner.new B = .ok st) : st.Budgeted B := by
  obtain ⟨rx, hrx, h⟩ := bind_eq_ok.mp h
  obtain ⟨tx, htx, h⟩ := bind_eq_ok.mp h
  obtain ⟨replay, hreplay, h⟩ := bind_eq_ok.mp h
  obtain ⟨recent, hrecent, h⟩ := bind_eq_ok.mp h
  obtain rfl := Except.ok.inj h
  exact ⟨⟨(BoundedDeque.Accounted.new hrx).1, (BoundedDeque.Accounted.new htx).1,
    (BoundedDeque.Accounted.new hreplay).1⟩,
    (@BoundedDeque.Accounted.new _ idCost _ _ _ _ _ hrecent).2⟩

/-- The same queues and reservation. -/
theorem Budgeted.congr {st st' : RelayInner S} (hb : st.Budgeted B)
    (hqueues : st'.toRelayQueues = st.toRelayQueues)
    (hmax : st'.recentRx.maxBytes = st.recentRx.maxBytes) : st'.Budgeted B :=
  ⟨by
    show RelayQueues.Accounted B st'.toRelayQueues
    rw [hqueues]
    exact hb.accounted, hmax.trans hb.recentMax⟩

theorem makeSharedQueueRoom_keeps (st : RelayInner S) (cost : Nat)
    (preferred : StoreKind RelayQueueKind) :
    Keeps B st (st.makeSharedQueueRoom B cost preferred).1 ∧
      (st.makeSharedQueueRoom B cost preferred).1.replayQueue.q.Sublist st.replayQueue.q := by
  have hlost := Stores.makeSharedQueueRoom_evicts B 0 (RelayQueues.replay_popRelation B)
    st.stores cost preferred
  have haccounts := Stores.makeSharedQueueRoom_evicts B 0
    (Stores.accounted_popRelation (RelayQueues.set B)) st.stores cost preferred
  exact ⟨⟨hlost.sides, hlost.reliableTx, haccounts.budgeted⟩, hlost.queues⟩

theorem pushRx_keeps (st : RelayInner S) (item : RelayRxItem S) :
    Keeps B st (st.pushRx B item).1 ∧
      (st.pushRx B item).1.replayQueue.q.Sublist st.replayQueue.q := by
  have hroom := makeSharedQueueRoom_keeps (B := B) st (item.byteCost B) (.queue .rx)
  unfold pushRx
  generalize st.makeSharedQueueRoom B (item.byteCost B) (.queue .rx) = r at hroom
  obtain ⟨st', _ | ⟨⟨⟩⟩⟩ := r
  · exact hroom
  · refine ⟨⟨hroom.1.sides, hroom.1.reliableTx, fun hb => ?_⟩, hroom.2⟩
    have ha := (hroom.1.budgeted hb).accounted
    exact ⟨⟨ha.rx.pushBackPrioritized _ _, ha.tx, ha.replay⟩, (hroom.1.budgeted hb).recentMax⟩

theorem pushTx_queued {st : RelayInner S} {item : RelayTxItem S}
    (h : (st.pushTx B item).2 = .ok ()) : item ∈ (st.pushTx B item).1.txQueue.q := by
  unfold pushTx at h ⊢
  generalize st.makeSharedQueueRoom B (item.byteCost B) (.queue .tx) = r at h
  obtain ⟨st', e | ⟨⟨⟩⟩⟩ := r
  · cases h
  · exact BoundedDeque.mem_pushBackPrioritized h

theorem pushTx_keeps (st : RelayInner S) (item : RelayTxItem S) :
    Keeps B st (st.pushTx B item).1 ∧
      (st.pushTx B item).1.replayQueue.q.Sublist st.replayQueue.q := by
  have hroom := makeSharedQueueRoom_keeps (B := B) st (item.byteCost B) (.queue .tx)
  unfold pushTx
  generalize st.makeSharedQueueRoom B (item.byteCost B) (.queue .tx) = r at hroom
  obtain ⟨st', _ | ⟨⟨⟩⟩⟩ := r
  · exact hroom
  · refine ⟨⟨hroom.1.sides, hroom.1.reliableTx, fun hb => ?_⟩, hroom.2⟩
    have ha := (hroom.1.budgeted hb).accounted
    exact ⟨⟨ha.rx, ha.tx.pushBackPrioritized _ _, ha.replay⟩, (hroom.1.budgeted hb).recentMax⟩

theorem pushReplay_keeps (st : RelayInner S) (item : RelayReplayItem) :
    Keeps B st (st.pushReplay B item).1 := by
  have hroom := (makeSharedQueueRoom_keeps (B := B) st item.byteCost (.queue .replay)).1
  unfold pushReplay
  generalize st.makeSharedQueueRoom B item.byteCost (.queue .replay) = r at hroom
  obtain ⟨st', _ | ⟨⟨⟩⟩⟩ := r
  · exact hroom
  · refine ⟨hroom.sides, hroom.reliableTx, fun hb => ?_⟩
    have ha := (hroom.budgeted hb).accounted
    exact ⟨⟨ha.rx, ha.tx, ha.replay.pushBackPrioritized _ _⟩, (hroom.budgeted hb).recentMax⟩

/-- A replay is inserted among what is kept of the others, or some of them only
leave. -/
theorem pushReplay_contents (st : RelayInner S) (item : RelayReplayItem) :
    (∃ kept, kept.Sublist st.replayQueue.q ∧
      (st.pushReplay B item).1.replayQueue.q.Perm (item :: kept) ∧
      (st.pushReplay B item).2 = .ok ()) ∨
    ((st.pushReplay B item).1.replayQueue.q.Sublist st.replayQueue.q ∧
      ∃ e, (st.pushReplay B item).2 = .error e) := by
  have hroom := (makeSharedQueueRoom_keeps (B := B) st item.byteCost (.queue .replay)).2
  unfold pushReplay
  generalize st.makeSharedQueueRoom B item.byteCost (.queue .replay) = r at hroom
  obtain ⟨st', e | ⟨⟨⟩⟩⟩ := r
  · exact .inr ⟨hroom, e, rfl⟩
  · rcases @BoundedDeque.pushBackPrioritized_contents _ RelayReplayItem.byteCost st'.replayQueue
      (fun queued => queued.priority) item with ⟨kept, hkept, hperm, hok⟩ | ⟨hsub, e, herr⟩
    · exact .inl ⟨kept, hkept.trans hroom, hperm, hok⟩
    · exact .inr ⟨hsub.trans hroom, e, herr⟩

theorem pushRecentRx_keeps (st : RelayInner S) (id : UInt64) :
    Keeps B st (st.pushRecentRx B id).1 ∧
      (st.pushRecentRx B id).1.replayQueue.q.Sublist st.replayQueue.q := by
  have hlost := Stores.pushRecentRx_evicts B 0 (RelayQueues.replay_popRelation B) st.stores id
  have haccounts := Stores.pushRecentRx_evicts B 0
    (Stores.accounted_popRelation (RelayQueues.set B)) st.stores id
  exact ⟨⟨hlost.sides, hlost.reliableTx, haccounts.budgeted⟩, hlost.queues⟩

theorem acceptOrdered_keeps (st : RelayInner S) (key : StreamKey S) (seq : UInt32)
    (bytes : List UInt8) :
    Keeps B st (st.acceptOrdered B key seq bytes).1 ∧
      (st.acceptOrdered B key seq bytes).1.replayQueue.q.Sublist st.replayQueue.q := by
  have hlost := Stores.acceptOrdered_frame B 0 (RelayQueues.replay_popRelation B) st.stores key seq
    bytes
  have haccounts := Stores.acceptOrdered_frame B 0
    (Stores.accounted_popRelation (RelayQueues.set B)) st.stores key seq bytes
  exact ⟨⟨hlost.1.sides, hlost.1.reliableTx, fun hb =>
    ⟨haccounts.2 hb.accounted, hlost.1.recentMax.trans hb.recentMax⟩⟩, hlost.2⟩

theorem fitDiscoveryBudget_keeps (st : RelayInner S) :
    Keeps B st (st.fitDiscoveryBudget B) ∧
      (st.fitDiscoveryBudget B).replayQueue = st.replayQueue := by
  obtain ⟨routes, heq, -⟩ := @Stores.fitDiscoveryLoop_cases _ _ S (RelayQueues.set B) B 0
    st.discoveryRoutes.size st.stores
  have hstores : st.fitDiscoveryBudget B = { st with discoveryRoutes := routes } :=
    congrArg st.setStores heq
  rw [hstores]
  exact ⟨⟨rfl, rfl, fun hb => hb.congr rfl rfl⟩, rfl⟩

end Pushes
end RelayInner
end Sedsprintf
