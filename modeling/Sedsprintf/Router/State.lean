import Sedsprintf.Hop
import Sedsprintf.Stores.Recent

/-!
# Router state

src/router.rs:60-190 and 660-975. The interrupt queue has a budget of its own and
is left out.
-/
namespace Sedsprintf

open Lib

structure RouterRxItem (S : Schema) where
  src : Option Nat
  data : RouterItem S
  priority : UInt8

inductive RouterTxItem (S : Schema) where
  | broadcast (data : RouterItem S)
  | endToEndReplay (packetId : UInt64)
  | toSide (src : Option Nat) (dst : Nat) (data : RouterItem S)
  | reliableReplay (dst : Nat) (bytes : List UInt8)

structure TxQueued (S : Schema) where
  item : RouterTxItem S
  ignoreLocal : Bool
  priority : UInt8

structure EndToEndReliableSent (S : Schema) where
  data : RouterItem S
  pendingDestinations : OrdMap UInt64 Nat
  trackedDestinations : Bool
  lastSendMs : UInt64
  retries : UInt32
  queued : Bool

structure RouterQueues (S : Schema) where
  receivedQueue : BoundedDeque (RouterRxItem S)
  transmitQueue : BoundedDeque (TxQueued S)

structure RouterInner (S : Schema) extends RouterQueues S, NodeState S where
  endToEndReliableTx : OrdMap UInt64 (EndToEndReliableSent S)
  endToEndReliableTxOrder : List UInt64

/-- The queues among `RouterQueueKind`. -/
inductive RouterQueueKind where
  | received
  | transmit
  deriving DecidableEq, Repr

section Costs
variable (B : Build) {S : Schema}

def RouterRxItem.byteCost (item : RouterRxItem S) : Nat := item.data.byteCost B B.arcSize

def RouterTxItem.byteCost : RouterTxItem S → Nat
  | .broadcast data => data.byteCost B B.arcSize
  | .endToEndReplay _ => 8
  | .toSide _ _ data => data.byteCost B B.arcSize
  | .reliableReplay _ bytes => B.arcSize + bytes.length

/-- The item, one `bool` and one `u8`. -/
def TxQueued.byteCost (queued : TxQueued S) : Nat := queued.item.byteCost B + 1 + 1

end Costs

namespace RouterQueues
variable (B : Build) {S : Schema}

def popQueue (queues : RouterQueues S) : RouterQueueKind → Option (RouterQueues S)
  | .received => (queues.receivedQueue.popFront (RouterRxItem.byteCost B)).map fun popped =>
      { queues with receivedQueue := popped.2 }
  | .transmit => (queues.transmitQueue.popFront (TxQueued.byteCost B)).map fun popped =>
      { queues with transmitQueue := popped.2 }

def len (queues : RouterQueues S) : RouterQueueKind → Nat
  | .received => queues.receivedQueue.q.length
  | .transmit => queues.transmitQueue.q.length

def bytes (queues : RouterQueues S) : RouterQueueKind → Nat
  | .received => queues.receivedQueue.curBytes
  | .transmit => queues.transmitQueue.curBytes

def Accounted (queues : RouterQueues S) : Prop :=
  queues.receivedQueue.Accounted (RouterRxItem.byteCost B) ∧
    queues.transmitQueue.Accounted (TxQueued.byteCost B)

def set : QueueSet RouterQueueKind (RouterQueues S) where
  kinds := [.received, .transmit]
  bytes := bytes
  len := len
  pop := popQueue B
  Accounted := Accounted B
  len_of_pop {q q' k} h := by
    cases k with
    | received =>
      obtain ⟨popped, hpop, rfl⟩ := Option.map_eq_some_iff.mp h
      simp [len, BoundedDeque.popFront_eq_some hpop]
    | transmit =>
      obtain ⟨popped, hpop, rfl⟩ := Option.map_eq_some_iff.mp h
      simp [len, BoundedDeque.popFront_eq_some hpop]
  pop_of_len {q k} _ hlen := by
    cases k with
    | received =>
      obtain ⟨popped, hpop⟩ := BoundedDeque.popFront_isSome (RouterRxItem.byteCost B) hlen
      exact ⟨_, congrArg (Option.map _) hpop⟩
    | transmit =>
      obtain ⟨popped, hpop⟩ := BoundedDeque.popFront_isSome (TxQueued.byteCost B) hlen
      exact ⟨_, congrArg (Option.map _) hpop⟩
  accounted_pop {q q' k} h ha := by
    cases k with
    | received =>
      obtain ⟨popped, hpop, rfl⟩ := Option.map_eq_some_iff.mp h
      exact ⟨ha.1.popFront hpop, ha.2⟩
    | transmit =>
      obtain ⟨popped, hpop, rfl⟩ := Option.map_eq_some_iff.mp h
      exact ⟨ha.1, ha.2.popFront hpop⟩
  len_of_bytes {q k} ha _ hpos := by
    cases k with
    | received => exact ha.1.length_pos hpos
    | transmit => exact ha.2.length_pos hpos

/-- The two queues, received first. -/
def bank : QueueBank (set B (S := S)) where
  Item
    | .received => RouterRxItem S
    | .transmit => TxQueued S
  cost
    | .received => RouterRxItem.byteCost B
    | .transmit => TxQueued.byteCost B
  priorityOf
    | .received => fun queued => queued.priority
    | .transmit => fun queued => queued.priority
  get queues
    | .received => queues.receivedQueue
    | .transmit => queues.transmitQueue
  put queues
    | .received => fun d => { queues with receivedQueue := d }
    | .transmit => fun d => { queues with transmitQueue := d }
  mem_kinds k := by cases k <;> simp [set]
  nodup_kinds := by simp [set]
  get_put q k d := by cases k <;> rfl
  put_get q k := by cases k <;> rfl
  get_put_of_ne q {k k'} d h := by
    cases k with
    | received =>
      cases k' with
      | received => exact absurd rfl h
      | transmit => rfl
    | transmit =>
      cases k' with
      | received => rfl
      | transmit => exact absurd rfl h
  bytes_eq q k := by cases k <;> rfl
  len_eq q k := by cases k <;> rfl
  pop_eq q k := by cases k <;> rfl
  accounted_iff q := by
    constructor
    · intro h k
      cases k with
      | received => exact h.1
      | transmit => exact h.2
    · exact fun h => ⟨h .received, h .transmit⟩

/-- Transmit items only ever leave. -/
theorem transmit_popRelation : Stores.PopRelation (set B (S := S)) fun queues queues' =>
    queues'.transmitQueue.q.Sublist queues.transmitQueue.q where
  refl _ := .refl _
  trans h h' := h'.trans h
  pop {q q' k} h := by
    cases k with
    | received =>
      obtain ⟨popped, hpop, rfl⟩ := Option.map_eq_some_iff.mp h
      exact .refl _
    | transmit =>
      obtain ⟨popped, hpop, rfl⟩ := Option.map_eq_some_iff.mp h
      rw [BoundedDeque.popFront_eq_some hpop]
      exact List.sublist_cons_self _ _

end RouterQueues

namespace RouterInner
variable (B : Build) {S : Schema}

/-- `new_with_clock`. -/
def new : Outcome (RouterInner S) := do
  let received ← BoundedDeque.new B.maxQueueBudget B.startingQueueSize B.rxItemSize B.queueGrowNum
  let transmit ← BoundedDeque.new B.maxQueueBudget B.startingQueueSize B.txItemSize B.queueGrowNum
  let recent ← BoundedDeque.new (max B.recentRxQueueBytes 1) (max B.recentRxQueueBytes 1) 8
    B.queueGrowNum
  .ok ⟨⟨received, transmit⟩, ⟨[], recent, ∅, ∅, ∅⟩, ∅, []⟩

def stores (st : RouterInner S) : Stores (RouterQueues S) S := (st.toRouterQueues, st.toNodeState)

def setStores (st : RouterInner S) (stores : Stores (RouterQueues S) S) : RouterInner S :=
  { st with toRouterQueues := stores.1, toNodeState := stores.2 }

/-- The route cache counts its keys, which are side ids. -/
def sharedQueueBytesUsed (st : RouterInner S) : Nat :=
  Stores.sharedQueueBytesUsed B B.wordSize (RouterQueues.set B) st.stores

def makeSharedQueueRoom (st : RouterInner S) (cost : Nat) (preferred : StoreKind RouterQueueKind) :
    RouterInner S × Outcome Unit :=
  let (stores, result) := Stores.makeSharedQueueRoom B B.wordSize (RouterQueues.set B) st.stores
    cost preferred
  (st.setStores stores, result)

def pushReceived (st : RouterInner S) (item : RouterRxItem S) : RouterInner S × Outcome Unit :=
  match st.makeSharedQueueRoom B (item.byteCost B) (.queue .received) with
  | (st, .error e) => (st, .error e)
  | (st, .ok ()) =>
    let pushed := st.receivedQueue.pushBackPrioritized (RouterRxItem.byteCost B)
      (fun queued => queued.priority) item
    ({ st with receivedQueue := pushed.1 }, pushed.2)

def pushTransmit (st : RouterInner S) (queued : TxQueued S) : RouterInner S × Outcome Unit :=
  match st.makeSharedQueueRoom B (queued.byteCost B) (.queue .transmit) with
  | (st, .error e) => (st, .error e)
  | (st, .ok ()) =>
    let pushed := st.transmitQueue.pushBackPrioritized (TxQueued.byteCost B)
      (fun queued => queued.priority) queued
    ({ st with transmitQueue := pushed.1 }, pushed.2)

def pushRecentRx (st : RouterInner S) (id : UInt64) : RouterInner S × Outcome Unit :=
  let (stores, result) := Stores.pushRecentRx B B.wordSize (RouterQueues.set B) st.stores id
  (st.setStores stores, result)

def bufferReliableRx (st : RouterInner S) (key : StreamKey S) (seq : UInt32) (bytes : List UInt8) :
    RouterInner S × Outcome Unit :=
  let (stores, result) := Stores.bufferReliableRx B B.wordSize (RouterQueues.set B) st.stores key seq bytes
  (st.setStores stores, result)

def acceptOrdered (st : RouterInner S) (key : StreamKey S) (seq : UInt32) (bytes : List UInt8) :
    RouterInner S × Arrival × Outcome Unit :=
  let (stores, arrival, result) := Stores.acceptOrdered B B.wordSize (RouterQueues.set B) st.stores
    key seq bytes
  (st.setStores stores, arrival, result)

def fitDiscoveryBudget (st : RouterInner S) : RouterInner S :=
  st.setStores (Stores.fitDiscoveryBudget B B.wordSize (RouterQueues.set B) st.stores)

/-- `push_received` and `push_transmit` are the shared push. -/
theorem pushReceived_eq (st : RouterInner S) (item : RouterRxItem S) :
    st.pushReceived B item =
      (st.setStores (Stores.push B B.wordSize (RouterQueues.bank B) st.stores .received item).1,
        (Stores.push B B.wordSize (RouterQueues.bank B) st.stores .received item).2) := by
  unfold pushReceived makeSharedQueueRoom Stores.push
  generalize hroom : Stores.makeSharedQueueRoom B B.wordSize (RouterQueues.set B) st.stores
    (item.byteCost B) (.queue .received) = r
  have hroom' : Stores.makeSharedQueueRoom B B.wordSize (RouterQueues.set B) st.stores
    ((RouterQueues.bank B).cost .received item) (.queue .received) = r := hroom
  rw [hroom']
  obtain ⟨st', e | ⟨⟨⟩⟩⟩ := r
  · rfl
  · rfl

theorem pushTransmit_eq (st : RouterInner S) (queued : TxQueued S) :
    st.pushTransmit B queued =
      (st.setStores (Stores.push B B.wordSize (RouterQueues.bank B) st.stores .transmit queued).1,
        (Stores.push B B.wordSize (RouterQueues.bank B) st.stores .transmit queued).2) := by
  unfold pushTransmit makeSharedQueueRoom Stores.push
  generalize hroom : Stores.makeSharedQueueRoom B B.wordSize (RouterQueues.set B) st.stores
    (queued.byteCost B) (.queue .transmit) = r
  have hroom' : Stores.makeSharedQueueRoom B B.wordSize (RouterQueues.set B) st.stores
    ((RouterQueues.bank B).cost .transmit queued) (.queue .transmit) = r := hroom
  rw [hroom']
  obtain ⟨st', e | ⟨⟨⟩⟩⟩ := r
  · rfl
  · rfl

section Pushes
variable {B}

def Budgeted (B : Build) (st : RouterInner S) : Prop :=
  Stores.Budgeted B (RouterQueues.set B) st.stores

/-- What no push touches, and the accounts it keeps. -/
structure Keeps (B : Build) (st st' : RouterInner S) : Prop where
  sides : st'.sides = st.sides
  reliableTx : st'.reliableTx = st.reliableTx
  endToEndReliableTx : st'.endToEndReliableTx = st.endToEndReliableTx
  endToEndReliableTxOrder : st'.endToEndReliableTxOrder = st.endToEndReliableTxOrder
  budgeted : st.Budgeted B → st'.Budgeted B

theorem Budgeted.new {st : RouterInner S} (h : RouterInner.new B = .ok st) : st.Budgeted B := by
  obtain ⟨received, hreceived, h⟩ := bind_eq_ok.mp h
  obtain ⟨transmit, htransmit, h⟩ := bind_eq_ok.mp h
  obtain ⟨recent, hrecent, h⟩ := bind_eq_ok.mp h
  obtain rfl := Except.ok.inj h
  exact ⟨⟨(BoundedDeque.Accounted.new hreceived).1, (BoundedDeque.Accounted.new htransmit).1⟩,
    (@BoundedDeque.Accounted.new _ idCost _ _ _ _ _ hrecent).2⟩

/-- The same queues and reservation. -/
theorem Budgeted.congr {st st' : RouterInner S} (hb : st.Budgeted B)
    (hqueues : st'.toRouterQueues = st.toRouterQueues)
    (hmax : st'.recentRx.maxBytes = st.recentRx.maxBytes) : st'.Budgeted B :=
  ⟨by
    show RouterQueues.Accounted B st'.toRouterQueues
    rw [hqueues]
    exact hb.accounted, hmax.trans hb.recentMax⟩

/-- A push inserts its item among what it keeps of the transmit queue, or only
evicts. -/
structure PushesTransmit (B : Build) (st : RouterInner S) (queued : TxQueued S)
    (st' : RouterInner S) (result : Outcome Unit) : Prop extends Keeps B st st' where
  contents : (∃ kept, kept.Sublist st.transmitQueue.q ∧
      st'.transmitQueue.q.Perm (queued :: kept) ∧ result = .ok ()) ∨
    (st'.transmitQueue.q.Sublist st.transmitQueue.q ∧ ∃ e, result = .error e)

theorem makeSharedQueueRoom_keeps (st : RouterInner S) (cost : Nat)
    (preferred : StoreKind RouterQueueKind) :
    Keeps B st (st.makeSharedQueueRoom B cost preferred).1 ∧
      (st.makeSharedQueueRoom B cost preferred).1.transmitQueue.q.Sublist st.transmitQueue.q := by
  have hlost := Stores.makeSharedQueueRoom_evicts B B.wordSize (RouterQueues.transmit_popRelation B)
    st.stores cost preferred
  have haccounts := Stores.makeSharedQueueRoom_evicts B B.wordSize
    (Stores.accounted_popRelation (RouterQueues.set B)) st.stores cost preferred
  exact ⟨⟨hlost.sides, hlost.reliableTx, rfl, rfl, haccounts.budgeted⟩, hlost.queues⟩

theorem pushReceived_keeps (st : RouterInner S) (item : RouterRxItem S) :
    Keeps B st (st.pushReceived B item).1 ∧
      (st.pushReceived B item).1.transmitQueue.q.Sublist st.transmitQueue.q := by
  have hroom := makeSharedQueueRoom_keeps (B := B) st (item.byteCost B) (.queue .received)
  unfold pushReceived
  generalize st.makeSharedQueueRoom B (item.byteCost B) (.queue .received) = r at hroom
  obtain ⟨st', _ | ⟨⟨⟩⟩⟩ := r
  · exact hroom
  · refine ⟨⟨hroom.1.sides, hroom.1.reliableTx, hroom.1.endToEndReliableTx,
      hroom.1.endToEndReliableTxOrder, fun hb => ?_⟩, hroom.2⟩
    have ha := (hroom.1.budgeted hb).accounted
    exact ⟨⟨ha.1.pushBackPrioritized _ _, ha.2⟩, (hroom.1.budgeted hb).recentMax⟩

theorem pushTransmit_pushes (st : RouterInner S) (queued : TxQueued S) :
    PushesTransmit B st queued (st.pushTransmit B queued).1 (st.pushTransmit B queued).2 := by
  have hroom := makeSharedQueueRoom_keeps (B := B) st (queued.byteCost B) (.queue .transmit)
  unfold pushTransmit
  generalize st.makeSharedQueueRoom B (queued.byteCost B) (.queue .transmit) = r at hroom
  obtain ⟨st', e | ⟨⟨⟩⟩⟩ := r
  · exact ⟨hroom.1, .inr ⟨hroom.2, e, rfl⟩⟩
  · refine ⟨⟨hroom.1.sides, hroom.1.reliableTx, hroom.1.endToEndReliableTx,
      hroom.1.endToEndReliableTxOrder, fun hb => ?_⟩, ?_⟩
    · have ha := (hroom.1.budgeted hb).accounted
      exact ⟨⟨ha.1, ha.2.pushBackPrioritized _ _⟩, (hroom.1.budgeted hb).recentMax⟩
    · rcases @BoundedDeque.pushBackPrioritized_contents _ (TxQueued.byteCost B) st'.transmitQueue
        (fun queued => queued.priority) queued with ⟨kept, hkept, hperm, hok⟩ | ⟨hsub, e, herr⟩
      · exact .inl ⟨kept, hkept.trans hroom.2, hperm, hok⟩
      · exact .inr ⟨hsub.trans hroom.2, e, herr⟩

theorem pushTransmit_queued {st : RouterInner S} {queued : TxQueued S}
    (h : (st.pushTransmit B queued).2 = .ok ()) : queued ∈ (st.pushTransmit B queued).1.transmitQueue.q := by
  obtain ⟨kept, -, hperm, -⟩ | ⟨-, e, herror⟩ := (pushTransmit_pushes st queued).contents
  · exact hperm.mem_iff.mpr List.mem_cons_self
  · rw [herror] at h
    cases h

theorem pushRecentRx_keeps (st : RouterInner S) (id : UInt64) :
    Keeps B st (st.pushRecentRx B id).1 ∧
      (st.pushRecentRx B id).1.transmitQueue.q.Sublist st.transmitQueue.q := by
  have hlost := Stores.pushRecentRx_evicts B B.wordSize (RouterQueues.transmit_popRelation B)
    st.stores id
  have haccounts := Stores.pushRecentRx_evicts B B.wordSize
    (Stores.accounted_popRelation (RouterQueues.set B)) st.stores id
  exact ⟨⟨hlost.sides, hlost.reliableTx, rfl, rfl, haccounts.budgeted⟩, hlost.queues⟩

theorem acceptOrdered_keeps (st : RouterInner S) (key : StreamKey S) (seq : UInt32)
    (bytes : List UInt8) :
    Keeps B st (st.acceptOrdered B key seq bytes).1 ∧
      (st.acceptOrdered B key seq bytes).1.transmitQueue.q.Sublist st.transmitQueue.q := by
  have hlost := Stores.acceptOrdered_frame B B.wordSize (RouterQueues.transmit_popRelation B)
    st.stores key seq bytes
  have haccounts := Stores.acceptOrdered_frame B B.wordSize
    (Stores.accounted_popRelation (RouterQueues.set B)) st.stores key seq bytes
  exact ⟨⟨hlost.1.sides, hlost.1.reliableTx, rfl, rfl, fun hb =>
    ⟨haccounts.2 hb.accounted, hlost.1.recentMax.trans hb.recentMax⟩⟩, hlost.2⟩

theorem fitDiscoveryBudget_keeps (st : RouterInner S) :
    Keeps B st (st.fitDiscoveryBudget B) ∧
      (st.fitDiscoveryBudget B).transmitQueue = st.transmitQueue := by
  obtain ⟨routes, heq, -⟩ := @Stores.fitDiscoveryLoop_cases _ _ S (RouterQueues.set B) B B.wordSize
    st.discoveryRoutes.size st.stores
  have hstores : st.fitDiscoveryBudget B = { st with discoveryRoutes := routes } :=
    congrArg st.setStores heq
  rw [hstores]
  exact ⟨⟨rfl, rfl, rfl, rfl, fun hb => hb.congr rfl rfl⟩, rfl⟩

end Pushes
end RouterInner
end Sedsprintf
