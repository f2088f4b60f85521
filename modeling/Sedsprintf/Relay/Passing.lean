import Sedsprintf.Relay.Calls
import Sedsprintf.Stores.Contents

/-!
# What waits in a relay and what is about to leave it

Received items wait in the receive queue and, early frames, in the reorder buffers; copies of
forwarded ones wait in the transmit queue. Whatever else a relay does to its stores only takes
from them.
-/
namespace Sedsprintf

open Lib

/-- An item in the form it is dispatched in: reliable control is decoded. -/
def RouterItem.relayed (B : Build) {S : Schema} : RouterItem S → RouterItem S
  | .packet pkt => .packet pkt
  | .serialized bytes =>
    match peekEnvelope B S bytes, deserializePacket B S bytes with
    | .ok envelope, .ok pkt =>
      if S.isReliableControlType envelope.ty then .packet pkt else .serialized bytes
    | _, _ => .serialized bytes

namespace RelayInner
variable (B : Build) {S : Schema}

/-- A buffered frame as an item of its side. -/
def frameItem (side : Nat) (bytes : List UInt8) : Nat × RouterItem S :=
  (side, (RouterItem.serialized bytes).relayed B)

/-- Frames of a side as its items. -/
def frameItems (side : Nat) (frames : List (List UInt8)) : Multiset (Nat × RouterItem S) :=
  ↑(frames.map fun bytes => (frameItem B side bytes : Nat × RouterItem S))

/-- The received items that wait. -/
def waiting (st : Stores (RelayQueues S) S) : Multiset (Nat × RouterItem S) :=
  ↑(st.1.rxQueue.q.map fun item => (item.src, item.data.relayed B)) +
    st.2.reliableRx.frames (frameItem B)

/-- A queued copy of a received item for the side `port`. -/
def copyFor (port : Nat) (item : RelayTxItem S) : Option (Nat × RouterItem S) :=
  if item.dst = port then item.src.map fun src => (src, item.data) else none

/-- The copies that wait for the side `port`. -/
def leaving (st : Stores (RelayQueues S) S) (port : Nat) : Multiset (Nat × RouterItem S) :=
  ↑(st.1.txQueue.q.filterMap (copyFor port))

/-- Both only lose. -/
def Sheds (st st' : Stores (RelayQueues S) S) : Prop :=
  waiting B st' ≤ waiting B st ∧ ∀ port, leaving st' port ≤ leaving st port

namespace Sheds
variable {B} {st st' st'' : Stores (RelayQueues S) S}

theorem refl (st : Stores (RelayQueues S) S) : Sheds B st st := ⟨le_refl _, fun _ => le_refl _⟩

theorem trans (h : Sheds B st st') (h' : Sheds B st' st'') : Sheds B st st'' :=
  ⟨h'.1.trans h.1, fun port => (h'.2 port).trans (h.2 port)⟩

/-- Sublists of the queues and fewer frames. -/
theorem of_parts (hrx : st'.1.rxQueue.q.Sublist st.1.rxQueue.q)
    (hframes : st'.2.reliableRx.frames (@frameItem B S) ≤
      st.2.reliableRx.frames (frameItem B))
    (htx : st'.1.txQueue.q.Sublist st.1.txQueue.q) : Sheds B st st' :=
  ⟨add_le_add (Multiset.coe_le.mpr (hrx.map _).subperm) hframes,
    fun _ => Multiset.coe_le.mpr (htx.filterMap _).subperm⟩

theorem shrinking : Stores.Shrinking (RelayQueues.set B) (Sheds B (S := S)) where
  refl := refl
  trans := trans
  pop {st st' kind} h := by
    cases kind with
    | queue k =>
      obtain ⟨queues, hpop, rfl⟩ := Option.map_eq_some_iff.mp h
      cases k with
      | rx =>
        obtain ⟨popped, hfront, rfl⟩ := Option.map_eq_some_iff.mp hpop
        exact of_parts (BoundedDeque.Loses.popFront hfront).sublist le_rfl (.refl _)
      | tx =>
        obtain ⟨popped, hfront, rfl⟩ := Option.map_eq_some_iff.mp hpop
        exact of_parts (.refl _) le_rfl (BoundedDeque.Loses.popFront hfront).sublist
      | replay =>
        obtain ⟨popped, hfront, rfl⟩ := Option.map_eq_some_iff.mp hpop
        exact refl st
    | recent =>
      obtain ⟨popped, -, rfl⟩ := Option.map_eq_some_iff.mp h
      exact refl st
    | reliableRxBuffer =>
      obtain ⟨streams, hpop, rfl⟩ := Option.map_eq_some_iff.mp h
      exact of_parts (.refl _) (popReliableRxBuffered_frames_le hpop) (.refl _)
    | discovery =>
      obtain ⟨routes, -, rfl⟩ := Option.map_eq_some_iff.mp h
      exact refl st

theorem makeSharedQueueRoom (st : Stores (RelayQueues S) S) (cost : Nat)
    (preferred : StoreKind RelayQueueKind) :
    Sheds B st (Stores.makeSharedQueueRoom B 0 (RelayQueues.set B) st cost preferred).1 :=
  shrinking.makeSharedQueueRoom st cost preferred

end Sheds

/-- The budget is kept, and no id comes or goes. -/
structure Tends (B : Build) (st st' : RelayInner S) : Prop where
  kept : st.Kept B → st'.Kept B
  recentRx : st'.recentRx = st.recentRx

theorem Tends.of_moves {B : Build} {st st' : RelayInner S} (h : StoreMoves B st st') :
    Tends B st st' :=
  ⟨fun hkept => hkept.moves h, Stores.Move.recentRx_of_moves h⟩

theorem Tends.trans {B : Build} {st st' st'' : RelayInner S} (h : Tends B st st')
    (h' : Tends B st' st'') : Tends B st st'' :=
  ⟨fun hkept => h'.kept (h.kept hkept), h'.recentRx.trans h.recentRx⟩

/-- Work on the stores that only takes from what waits and what is to leave. -/
structure Quiet (B : Build) (st st' : RelayInner S) : Prop extends Tends B st st' where
  sheds : Sheds B st.stores st'.stores

namespace Quiet
variable {B} {st st' st'' : RelayInner S}

theorem of_moves (h : StoreMoves B st st') (hsheds : Sheds B st.stores st'.stores) :
    Quiet B st st' :=
  ⟨.of_moves h, hsheds⟩

theorem refl (st : RelayInner S) : Quiet B st st := of_moves (.refl st) (.refl _)

theorem trans (h : Quiet B st st') (h' : Quiet B st' st'') : Quiet B st st'' :=
  ⟨h.toTends.trans h'.toTends, h.sheds.trans h'.sheds⟩

/-- Sides, TX streams and routes are neither. -/
theorem other (queues : st'.toRelayQueues = st.toRelayQueues) (recentRx : st'.recentRx = st.recentRx)
    (reliableRx : st'.reliableRx = st.reliableRx)
    (discoveryRoutes : st'.discoveryRoutes = st.discoveryRoutes) : Quiet B st st' := by
  refine of_moves (.other queues recentRx reliableRx discoveryRoutes) ?_
  apply Sheds.of_parts
  · rw [stores, stores, queues]
  · exact le_of_eq (congrArg _ reliableRx)
  · rw [stores, stores, queues]

theorem pushReplay (st : RelayInner S) (item : RelayReplayItem) :
    Quiet B st (st.pushReplay B item).1 := by
  refine of_moves (.pushReplay st item) ?_
  have hroom := Sheds.makeSharedQueueRoom (B := B) st.stores item.byteCost (.queue .replay)
  unfold RelayInner.pushReplay RelayInner.makeSharedQueueRoom
  generalize Stores.makeSharedQueueRoom B 0 (RelayQueues.set B) st.stores item.byteCost
    (.queue .replay) = r at hroom
  obtain ⟨st', _ | ⟨⟨⟩⟩⟩ := r
  · exact hroom
  · exact hroom

theorem closed (st : RelayInner S) : (hop B).Closed (Quiet B st) where
  setStreams h := h.trans (.other rfl rfl rfl rfl)
  pushReplay h := h.trans (.pushReplay _ _)

theorem processReliableTimeouts (now : UInt64) (st : RelayInner S) :
    Quiet B st (st.processReliableTimeouts B now).1 :=
  (closed st).processReliableTimeouts now st (.refl st)

theorem processReplayQueueItem (tx : SideTx S) (st : RelayInner S) :
    Quiet B st (st.processReplayQueueItem B tx).1 := by
  unfold RelayInner.processReplayQueueItem
  split
  · exact .refl st
  · rename_i item rest hpop
    refine (closed st).processReplay (fun h => h.trans (.pushReplay _ _)) _ _ _ ?_
    exact of_moves (.loseReplay st (.popFront hpop)) (.refl _)

theorem learnDiscoveryItem (now : UInt64) (st : RelayInner S) (src : Nat) (data : RouterItem S) :
    Quiet B st (st.learnDiscoveryItem B now src data).1 := by
  refine of_moves (.learnDiscoveryItem now src data) ?_
  rcases st.learnDiscoveryItem_cases (B := B) now src data with
    heq | ⟨d, linkLocal, pkt, routes, -, heq⟩
  · rw [heq]
    exact .refl _
  · obtain ⟨rest, hfit, -⟩ := @Stores.fitDiscoveryLoop_cases _ _ S (RelayQueues.set B) B 0
      routes.size ({ st with discoveryRoutes := routes } : RelayInner S).stores
    have hstores : ({ st with discoveryRoutes := routes } : RelayInner S).fitDiscoveryBudget B =
        { st with discoveryRoutes := rest } := congrArg st.setStores hfit
    rw [heq, hstores]
    exact .refl _

theorem dispatchControl {env : RelayEnv S} (hdeliver : ∀ st item, (env.deliver st item).1 = st)
    (st : RelayInner S) (item : RelayRxItem S) (pkt : Packet S) :
    Quiet B st (st.dispatchControl B env item pkt).1 := by
  unfold RelayInner.dispatchControl
  split
  · rw [hdeliver]
    exact .refl st
  · split
    · exact .refl st
    · dsimp only
      split
      · exact .other rfl rfl rfl rfl
      · split
        · exact .other rfl rfl rfl rfl
        · exact (closed st).queueReliableRetransmit _ _ (.refl st)

end Quiet

section Pushes
variable {B} {st : RelayInner S}

/-- A received item comes in, or is lost. -/
theorem pushRx_waiting_le (st : RelayInner S) (item : RelayRxItem S) :
    waiting B (st.pushRx B item).1.stores ≤
      (item.src, item.data.relayed B) ::ₘ waiting B st.stores := by
  have hroom := Sheds.makeSharedQueueRoom (B := B) st.stores (item.byteCost B) (.queue .rx)
  unfold pushRx RelayInner.makeSharedQueueRoom
  generalize Stores.makeSharedQueueRoom B 0 (RelayQueues.set B) st.stores (item.byteCost B)
    (.queue .rx) = r at hroom
  obtain ⟨st', _ | ⟨⟨⟩⟩⟩ := r
  · exact hroom.1.trans (Multiset.le_cons_self _ _)
  · refine le_trans ?_ (Multiset.cons_le_cons _ hroom.1)
    have hq := @BoundedDeque.pushBackPrioritized_subperm _ (RelayRxItem.byteCost B) st'.1.rxQueue
      (fun queued => queued.priority) item
    have hmap := Multiset.map_le_map (f := fun item : RelayRxItem S => (item.src, item.data.relayed B))
      (Multiset.coe_le.mpr hq)
    rw [waiting, waiting, ← Multiset.cons_add]
    exact add_le_add hmap le_rfl

theorem pushRx_leaving_le (st : RelayInner S) (item : RelayRxItem S) (port : Nat) :
    leaving (st.pushRx B item).1.stores port ≤ leaving st.stores port := by
  have hroom := Sheds.makeSharedQueueRoom (B := B) st.stores (item.byteCost B) (.queue .rx)
  unfold pushRx RelayInner.makeSharedQueueRoom
  generalize Stores.makeSharedQueueRoom B 0 (RelayQueues.set B) st.stores (item.byteCost B)
    (.queue .rx) = r at hroom
  obtain ⟨st', _ | ⟨⟨⟩⟩⟩ := r
  · exact hroom.2 port
  · exact hroom.2 port

theorem pushTx_waiting_le (st : RelayInner S) (item : RelayTxItem S) :
    waiting B (st.pushTx B item).1.stores ≤ waiting B st.stores := by
  have hroom := Sheds.makeSharedQueueRoom (B := B) st.stores (item.byteCost B) (.queue .tx)
  unfold pushTx RelayInner.makeSharedQueueRoom
  generalize Stores.makeSharedQueueRoom B 0 (RelayQueues.set B) st.stores (item.byteCost B)
    (.queue .tx) = r at hroom
  obtain ⟨st', _ | ⟨⟨⟩⟩⟩ := r
  · exact hroom.1
  · exact hroom.1

/-- A copy comes in, or is lost. -/
theorem pushTx_leaving_le (st : RelayInner S) (item : RelayTxItem S) (port : Nat) :
    leaving (st.pushTx B item).1.stores port ≤
      ↑(copyFor port item).toList + leaving st.stores port := by
  have hroom := Sheds.makeSharedQueueRoom (B := B) st.stores (item.byteCost B) (.queue .tx)
  unfold pushTx RelayInner.makeSharedQueueRoom
  generalize Stores.makeSharedQueueRoom B 0 (RelayQueues.set B) st.stores (item.byteCost B)
    (.queue .tx) = r at hroom
  obtain ⟨st', _ | ⟨⟨⟩⟩⟩ := r
  · exact (hroom.2 port).trans (Multiset.le_add_left _ _)
  · refine le_trans ?_ (add_le_add le_rfl (hroom.2 port))
    have hq := @BoundedDeque.pushBackPrioritized_subperm _ (RelayTxItem.byteCost B) st'.1.txQueue
      (fun queued => queued.priority) item
    refine (Multiset.filterMap_le_filterMap (copyFor port) (Multiset.coe_le.mpr hq)).trans
      (le_of_eq ?_)
    cases hcopy : copyFor port item with
    | none => simp [hcopy, leaving]
    | some copy => simp [hcopy, leaving]

/-- An item without a source is no copy. -/
theorem Quiet.pushTx (st : RelayInner S) {item : RelayTxItem S} (hsrc : item.src = none) :
    Quiet B st (st.pushTx B item).1 := by
  refine .of_moves (.pushTx st item) ⟨pushTx_waiting_le st item, fun port => ?_⟩
  have hle := pushTx_leaving_le (B := B) st item port
  simpa [copyFor, hsrc] using hle

theorem Quiet.queueReliableControl (env : RelayEnv S) (st : RelayInner S) (control : S.DataType)
    (key : StreamKey S) (seq : UInt32) :
    Quiet B st (st.queueReliableControl B env control key seq).1 := by
  unfold RelayInner.queueReliableControl
  split
  · exact .refl st
  · split
    · exact .refl st
    · exact .pushTx st rfl

/-- A recorded id may take others from the stores. -/
theorem Sheds.pushRecentRx (st : RelayInner S) (id : UInt64) :
    Sheds B st.stores (st.pushRecentRx B id).1.stores := by
  have hroom := Sheds.makeSharedQueueRoom (B := B) (Stores.trimRecent B st.stores) 0 .recent
  have hrecent : Sheds B st.stores (Stores.pushRecentRx B 0 (RelayQueues.set B) st.stores id).1 := by
    unfold Stores.pushRecentRx
    split
    · exact .refl _
    · generalize Stores.makeSharedQueueRoom B 0 (RelayQueues.set B) (Stores.trimRecent B st.stores)
        0 .recent = r at hroom
      obtain ⟨st', _ | ⟨⟨⟩⟩⟩ := r
      · exact hroom
      · exact hroom
  exact hrecent

end Pushes

section Pops
variable {B} {st : RelayInner S}

theorem popRx_waiting {item : RelayRxItem S} {rest : BoundedDeque (RelayRxItem S)}
    (hpop : st.rxQueue.popFront (RelayRxItem.byteCost B) = some (item, rest)) :
    waiting B st.stores = (item.src, item.data.relayed B) ::ₘ
      waiting B ({ st with rxQueue := rest } : RelayInner S).stores := by
  have hq := BoundedDeque.popFront_eq_some hpop
  simp only [waiting, stores, hq, List.map_cons, ← Multiset.cons_coe, Multiset.cons_add]

theorem popTx_leaving {item : RelayTxItem S} {rest : BoundedDeque (RelayTxItem S)}
    (hpop : st.txQueue.popFront (RelayTxItem.byteCost B) = some (item, rest)) (port : Nat) :
    leaving st.stores port = ↑(copyFor port item).toList +
      leaving ({ st with txQueue := rest } : RelayInner S).stores port := by
  have hq := BoundedDeque.popFront_eq_some hpop
  cases hcopy : copyFor port item with
  | none => simp [leaving, stores, hq, hcopy]
  | some copy => simp [leaving, stores, hq, hcopy]

end Pops

section Maintenance
variable {B} {st st' : RelayInner S}

/-- Only the routes change. -/
theorem Quiet.routes {routes : DiscoveryRoutes S}
    (hmoves : StoreMoves B st { st with discoveryRoutes := routes }) :
    Quiet B st { st with discoveryRoutes := routes } :=
  .of_moves hmoves (.refl _)

theorem Quiet.fitDiscoveryBudget (st : RelayInner S) : Quiet B st (st.fitDiscoveryBudget B) := by
  have hmoves : StoreMoves B st (st.fitDiscoveryBudget B) := .one (.fit st.stores)
  obtain ⟨rest, hfit, -⟩ := @Stores.fitDiscoveryLoop_cases _ _ S (RelayQueues.set B) B 0
    st.discoveryRoutes.size st.stores
  have hstores : st.fitDiscoveryBudget B = { st with discoveryRoutes := rest } :=
    congrArg st.setStores hfit
  rw [hstores] at hmoves ⊢
  exact .routes hmoves

theorem Quiet.clearQueues (st : RelayInner S) : Quiet B st st.clearQueues := by
  refine .of_moves (StoreMoves.trans (.loseRx _ .clear) (.loseTx _ .clear)) (.of_parts ?_ le_rfl ?_)
  · exact List.nil_sublist _
  · exact List.nil_sublist _

theorem Quiet.clearRxQueue (st : RelayInner S) : Quiet B st st.clearRxQueue :=
  .of_moves (.loseRx _ .clear) (.of_parts (List.nil_sublist _) le_rfl (.refl _))

theorem Quiet.clearTxQueue (st : RelayInner S) : Quiet B st st.clearTxQueue :=
  .of_moves (StoreMoves.trans (.loseTx _ .clear) (.loseReplay _ .clear))
    (.of_parts (.refl _) le_rfl (List.nil_sublist _))

theorem Quiet.removeSide {side : Nat} (h : st.removeSide B side = .ok st') : Quiet B st st' := by
  refine .of_moves (.removeSide h) ?_
  obtain ⟨_, -, h⟩ := bind_eq_ok.mp h
  obtain rfl := Except.ok.inj h
  exact .of_parts List.filter_sublist (RxStreams.frames_filter_le _) List.filter_sublist

theorem Quiet.setSideEgressEnabled {side : Nat} {enabled : Bool}
    (h : st.setSideEgressEnabled B side enabled = .ok st') : Quiet B st st' := by
  refine .of_moves (.setSideEgressEnabled h) ?_
  obtain ⟨_, -, h⟩ := bind_eq_ok.mp h
  dsimp only at h
  split at h
  · obtain rfl := Except.ok.inj h
    exact .refl _
  · obtain rfl := Except.ok.inj h
    exact .of_parts (.refl _) le_rfl List.filter_sublist

theorem Quiet.setSideIngressEnabled {side : Nat} {enabled : Bool}
    (h : st.setSideIngressEnabled side enabled = .ok st') : Quiet B st st' := by
  obtain ⟨_, -, h⟩ := bind_eq_ok.mp h
  obtain rfl := Except.ok.inj h
  exact .other rfl rfl rfl rfl

end Maintenance

section Hop
variable {B} {env : RelayEnv S}

/-- A stream is opened without a frame. -/
theorem Quiet.openRx (st : RelayInner S) (key : StreamKey S) :
    Quiet B st ((receiver B env).openRx st key) := by
  refine ⟨⟨fun hkept => ?_, rfl⟩, ?_⟩
  · have hinsert := reliableRxBufferedBytes_insert B st.reliableRx key (st.reliableRx.at key)
    refine hkept.of_node rfl (Nat.add_le_add_right ?_ _) hkept.recomputed
    exact (Nat.add_right_cancel hinsert).le
  · apply Sheds.of_parts
    · exact .refl _
    · have hinsert := @RxStreams.frames_insert_le _ S (@frameItem B S) st.reliableRx key
        (st.reliableRx.at key) 0 0 le_rfl
      rw [zero_add, zero_add] at hinsert
      exact hinsert
    · exact .refl _

/-- A buffered frame comes in, or is lost. -/
theorem bufferReliableRx_le (st : Stores (RelayQueues S) S) (key : StreamKey S) (seq : UInt32)
    (bytes : List UInt8) :
    waiting B (Stores.bufferReliableRx B 0 (RelayQueues.set B) st key seq bytes).1 ≤
        frameItem B key.side bytes ::ₘ waiting B st ∧
      ∀ port, leaving (Stores.bufferReliableRx B 0 (RelayQueues.set B) st key seq bytes).1 port ≤
        leaving st port := by
  have hroom := Sheds.makeSharedQueueRoom (B := B) st (B.arcSize + bytes.length) .reliableRxBuffer
  unfold Stores.bufferReliableRx
  split
  · exact ⟨Multiset.le_cons_self _ _, fun _ => le_rfl⟩
  · generalize Stores.makeSharedQueueRoom B 0 (RelayQueues.set B) st (B.arcSize + bytes.length)
      .reliableRxBuffer = r at hroom
    obtain ⟨st', _ | ⟨⟨⟩⟩⟩ := r
    · exact ⟨hroom.1.trans (Multiset.le_cons_self _ _), hroom.2⟩
    · refine ⟨le_trans ?_ (Multiset.cons_le_cons _ hroom.1), hroom.2⟩
      have hbuffer := @ReliableRxState.bufferFrame_frames_le _ (@frameItem B S key.side) B
        (st'.2.reliableRx.at key) seq bytes
      rw [← zero_add (ReliableRxState.frames _ _), ← Multiset.singleton_add] at hbuffer
      have hinsert := RxStreams.frames_insert_le hbuffer
      rw [zero_add, Multiset.singleton_add] at hinsert
      dsimp only [waiting]
      rw [← Multiset.add_cons]
      exact add_le_add le_rfl hinsert

/-- An early frame is buffered; otherwise the frames behind the arriving one come out. -/
theorem acceptOrdered_waiting_le (st : RelayInner S) (key : StreamKey S) (seq : UInt32)
    (bytes : List UInt8) :
    (∃ partialAck request, (st.acceptOrdered B key seq bytes).2.1 = .early partialAck request ∧
      waiting B (st.acceptOrdered B key seq bytes).1.stores ≤
        frameItem B key.side bytes ::ₘ waiting B st.stores) ∨
    frameItems B key.side (st.acceptOrdered B key seq bytes).2.1.behind +
      waiting B (st.acceptOrdered B key seq bytes).1.stores ≤ waiting B st.stores := by
  have harrive := @ReliableRxState.arrive_frames _ (@frameItem B S key.side) (st.reliableRx.at key)
    seq bytes
  unfold RelayInner.acceptOrdered Stores.acceptOrdered
  dsimp only [stores] at harrive ⊢
  generalize harrival : (st.reliableRx.at key).arrive seq bytes = r at harrive
  obtain ⟨rx, arrival⟩ := r
  have hinsert := RxStreams.frames_insert_le (le_of_eq (harrive.trans (zero_add _).symm))
  have hnext : frameItems B key.side arrival.behind + waiting B
      (st.toRelayQueues, { st.toNodeState with reliableRx := st.reliableRx.insert key rx }) ≤
      waiting B st.stores := by
    rw [zero_add] at hinsert
    rw [waiting, add_left_comm]
    exact add_le_add le_rfl hinsert
  cases arrival with
  | old ack => exact .inr hnext
  | early partialAck request =>
    refine .inl ⟨partialAck, request, rfl, ?_⟩
    refine (bufferReliableRx_le _ key seq bytes).1.trans (Multiset.cons_le_cons _ ?_)
    exact (Multiset.le_add_left _ _).trans hnext
  | released frames ack => exact .inr hnext

theorem acceptOrdered_tends (st : RelayInner S) (key : StreamKey S) (seq : UInt32)
    (bytes : List UInt8) : Tends B st (st.acceptOrdered B key seq bytes).1 :=
  .of_moves (.one (.accept st.stores key seq bytes))

theorem acceptOrdered_leaving_le (st : RelayInner S) (key : StreamKey S) (seq : UInt32)
    (bytes : List UInt8) (port : Nat) :
    leaving (st.acceptOrdered B key seq bytes).1.stores port ≤ leaving st.stores port := by
  have hsub := (Stores.acceptOrdered_frame B 0 (Stores.loses_popRelation (RelayQueues.bank B) .tx)
    st.stores key seq bytes).2.sublist
  exact Multiset.coe_le.mpr (hsub.filterMap (copyFor port)).subperm

/-- The hop part for the item `x` of the side `src`: it stays at hand, with the frames released
behind it, or it is buffered or dropped. -/
structure Hopped (B : Build) (st st' : RelayInner S) (src : Nat) (x : Nat × RouterItem S)
    (result : Outcome (Option (List (List UInt8)))) : Prop extends Tends B st st' where
  waiting : waiting B st'.stores ≤ x ::ₘ waiting B st.stores
  released : ∀ released, result = .ok (some released) →
    frameItems B src released + RelayInner.waiting B st'.stores ≤ RelayInner.waiting B st.stores
  leaving : ∀ port, leaving st'.stores port ≤ leaving st.stores port

namespace Hopped
variable {st st' st'' : RelayInner S} {src : Nat} {x : Nat × RouterItem S}
  {result result' : Outcome (Option (List (List UInt8)))}

/-- Nothing is released. -/
theorem of_quiet (h : Quiet B st st')
    (hnone : ∀ released, result = .ok (some released) → released = []) :
    Hopped B st st' src x result where
  toTends := h.toTends
  waiting := h.sheds.1.trans (Multiset.le_cons_self _ _)
  released released hresult := by
    rw [hnone released hresult]
    simpa [frameItems] using h.sheds.1
  leaving := h.sheds.2

/-- An answer to the peer behind it. -/
theorem trans (h : Hopped B st st' src x result) (h' : Quiet B st' st'')
    (hsame : ∀ released, result' = .ok (some released) → result = .ok (some released)) :
    Hopped B st st'' src x result' where
  toTends := h.toTends.trans h'.toTends
  waiting := h'.sheds.1.trans h.waiting
  released released hresult :=
    (add_le_add le_rfl h'.sheds.1).trans (h.released released (hsame released hresult))
  leaving port := (h'.sheds.2 port).trans (h.leaving port)

/-- The answer to the peer decides whether the call goes on, not how. -/
theorem value_of_map {α β : Type} {answer : Outcome α} {value value' : β}
    (h : (answer.map fun _ => value) = .ok value') : value = value' := by
  cases answer with
  | error e => cases h
  | ok a => exact Except.ok.inj h

theorem acceptSequenced (st : RelayInner S) (key : StreamKey S) (hdr : ReliableHeader)
    (bytes : List UInt8) :
    Hopped B st ((receiver B env).acceptSequenced st key hdr bytes).1 key.side
      (frameItem B key.side bytes) ((receiver B env).acceptSequenced st key hdr bytes).2 := by
  have hanswer := Quiet.queueReliableControl (B := B) env (S := S)
  unfold HopReceiver.acceptSequenced
  split
  · refine .of_quiet (hanswer st S.reliableAck key hdr.seq) fun released hresult => ?_
    exact (Option.some.inj (value_of_map hresult)).symm
  · have htends := acceptOrdered_tends (B := B) st key hdr.seq bytes
    have hleaving := acceptOrdered_leaving_le (B := B) st key hdr.seq bytes
    have hwaiting := acceptOrdered_waiting_le (B := B) st key hdr.seq bytes
    dsimp only [receiver]
    generalize st.acceptOrdered B key hdr.seq bytes = accepted at htends hleaving hwaiting
    obtain ⟨st', arrival, result⟩ := accepted
    dsimp only at htends hleaving hwaiting ⊢
    have hheld : RelayInner.waiting B st'.stores ≤
        frameItem B key.side bytes ::ₘ RelayInner.waiting B st.stores := by
      rcases hwaiting with ⟨_, _, -, hearly⟩ | hbehind
      · exact hearly
      · exact ((Multiset.le_add_left _ _).trans hbehind).trans (Multiset.le_cons_self _ _)
    have hended : Hopped B st st' key.side (frameItem B key.side bytes) (.ok none) :=
      ⟨htends, hheld, (fun _ h => nomatch h), hleaving⟩
    cases result with
    | error e => exact ⟨htends, hheld, (fun _ h => nomatch h), hleaving⟩
    | ok answer =>
      cases arrival with
      | old ack =>
        exact hended.trans (hanswer st' _ _ _) fun _ hresult => nomatch value_of_map hresult
      | early partialAck request =>
        have hnoted := hanswer st' S.reliablePartialAck key partialAck
        dsimp only
        generalize st'.queueReliableControl B env S.reliablePartialAck key partialAck = queued
          at hnoted
        obtain ⟨st'', e | ⟨⟨⟩⟩⟩ := queued
        · exact hended.trans hnoted fun _ hresult => nomatch hresult
        · exact hended.trans (hnoted.trans (hanswer st'' _ _ _)) fun _ hresult =>
            nomatch value_of_map hresult
      | released frames ack =>
        have hbehind := hwaiting.resolve_left fun ⟨_, _, h, _⟩ => nomatch h
        have hreleased : Hopped B st st' key.side (frameItem B key.side bytes)
            (.ok (some frames.tail)) := by
          refine ⟨htends, hheld, fun released hresult => ?_, hleaving⟩
          obtain rfl := Option.some.inj (Except.ok.inj hresult)
          exact hbehind
        exact hreleased.trans (hanswer st' _ _ _) fun released hresult =>
          congrArg Except.ok (value_of_map hresult)

theorem acceptFrame (st : RelayInner S) (src : Nat) (frame : TelemetryFrameInfo S)
    (bytes : List UInt8) :
    Hopped B st ((receiver B env).acceptFrame st src frame bytes).1 src (frameItem B src bytes)
      ((receiver B env).acceptFrame st src frame bytes).2 := by
  have hnothing : ∀ released, (.ok (some []) : Outcome (Option (List (List UInt8)))) =
      .ok (some released) → released = [] := by
    intro released h
    exact (Option.some.inj (Except.ok.inj h)).symm
  unfold HopReceiver.acceptFrame
  split
  · exact .of_quiet (.refl st) hnothing
  · split
    · exact acceptSequenced st ⟨src, frame.envelope.ty⟩ _ bytes
    · exact .of_quiet (.refl st) hnothing

end Hopped

theorem Quiet.requestCorrupted (st : RelayInner S) (src : Nat) (frame : TelemetryFrameInfo S) :
    Quiet B st ((receiver B env).requestCorrupted st src frame).1 := by
  have hanswer := Quiet.queueReliableControl (B := B) env (S := S)
  unfold HopReceiver.requestCorrupted
  split
  · exact .refl st
  · split
    · split
      · exact hanswer st _ _ _
      · exact (Quiet.openRx st _).trans (hanswer _ _ _ _)
    · exact .refl st

theorem receiveHop_hopped (st : RelayInner S) (item : RelayRxItem S) :
    Hopped B st (st.receiveHop B env item).1 item.src (item.src, item.data.relayed B)
      (st.receiveHop B env item).2 := by
  have hnothing : ∀ released, (.ok (some []) : Outcome (Option (List (List UInt8)))) =
      .ok (some released) → released = [] := by
    intro released h
    exact (Option.some.inj (Except.ok.inj h)).symm
  obtain ⟨src, data, priority⟩ := item
  cases data with
  | packet pkt => exact .of_quiet (.refl st) hnothing
  | serialized bytes =>
    unfold receiveHop
    dsimp only
    split
    · exact .of_quiet (.refl st) fun _ h => nomatch h
    · split
      · split
        · exact .acceptFrame st src _ bytes
        · exact .of_quiet (.refl st) hnothing
      · split
        · split
          · exact .of_quiet (.refl st) fun _ h => nomatch h
          · exact .of_quiet (.refl st) fun _ h => nomatch h
          · exact .of_quiet (.requestCorrupted st src _) fun _ h => nomatch Hopped.value_of_map h
        · exact .of_quiet (.refl st) fun _ h => nomatch h

end Hop
end RelayInner
end Sedsprintf
