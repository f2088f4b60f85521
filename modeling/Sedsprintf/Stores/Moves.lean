import Sedsprintf.Stores.Push
import Sedsprintf.Discovery
import Mathlib.Logic.Relation

/-!
# What happens to the stores of a node

Every operation of a node is, on its stores, a list of the moves below; the ids in
`recent_rx` change only by recording and forgetting one. What a move keeps, every
run keeps.
-/
namespace Sedsprintf

open Lib

namespace Stores
variable {κ Q : Type} [DecidableEq κ] {S : Schema} (B : Build) (keySize : Nat)
  {set : QueueSet κ Q} (bank : QueueBank set)

inductive Move : Stores Q S → Stores Q S → Prop
  /-- Sides and TX streams change. -/
  | other {st st' : Stores Q S} (queues : st'.1 = st.1)
      (recentRx : st'.2.recentRx = st.2.recentRx) (reliableRx : st'.2.reliableRx = st.2.reliableRx)
      (discoveryRoutes : st'.2.discoveryRoutes = st.2.discoveryRoutes) : Move st st'
  | push (st : Stores Q S) (k : κ) (item : bank.Item k) :
      Move st (Stores.push B keySize bank st k item).1
  /-- A pop, a `retain` or a `clear`. -/
  | lose (st : Stores Q S) (k : κ) {d : BoundedDeque (bank.Item k)}
      (h : (bank.get st.1 k).Loses (bank.cost k) d) : Move st (bank.put st.1 k d, st.2)
  | accept (st : Stores Q S) (key : StreamKey S) (seq : UInt32) (bytes : List UInt8) :
      Move st (acceptOrdered B keySize set st key seq bytes).1
  | dropStreams (st : Stores Q S) (keep : StreamKey S → ReliableRxState → Bool) :
      Move st (st.1, { st.2 with reliableRx := st.2.reliableRx.filter keep })
  | learn (st : Stores Q S) {d : DiscoveryTypes S.DataType} {linkLocal : Bool} {now : UInt64}
      {side : Nat} {pkt : Packet S} {routes : DiscoveryRoutes S}
      (h : learnDiscoveryRoute B d linkLocal now side pkt st.2.discoveryRoutes = .ok routes) :
      Move st (fitDiscoveryBudget B keySize set (st.1, { st.2 with discoveryRoutes := routes }))
  | prune (st : Stores Q S) (now : UInt64) :
      Move st (st.1, { st.2 with discoveryRoutes := pruneDiscoveryRoutes now st.2.discoveryRoutes })
  | fit (st : Stores Q S) : Move st (fitDiscoveryBudget B keySize set st)
  | dropRoute (st : Stores Q S) (side : Nat) :
      Move st (st.1, { st.2 with discoveryRoutes := st.2.discoveryRoutes.erase side })

/-- A relation that the work of a node on its queues and streams is in. -/
structure WorkRelation (r : Stores Q S → Stores Q S → Prop) : Prop where
  refl : ∀ st, r st st
  trans : ∀ {st st' st''}, r st st' → r st' st'' → r st st''
  setStreams : ∀ (st : Stores Q S) (streams : TxStreams S),
    r st (st.1, { st.2 with reliableTx := streams })
  push : ∀ (st : Stores Q S) k (item : bank.Item k), r st (Stores.push B keySize bank st k item).1
  lose : ∀ (st : Stores Q S) k {d : BoundedDeque (bank.Item k)},
    (bank.get st.1 k).Loses (bank.cost k) d → r st (bank.put st.1 k d, st.2)
  accept : ∀ (st : Stores Q S) (key : StreamKey S) (seq : UInt32) (bytes : List UInt8),
    r st (acceptOrdered B keySize set st key seq bytes).1

omit [DecidableEq κ] in
theorem WorkRelation.moves :
    WorkRelation B keySize bank (S := S) (Relation.ReflTransGen (Move B keySize bank)) where
  refl _ := .refl
  trans := .trans
  setStreams _ _ := .single (.other rfl rfl rfl rfl)
  push st k item := .single (.push st k item)
  lose st k _ h := .single (.lose st k h)
  accept st key seq bytes := .single (.accept st key seq bytes)

/-- What every move keeps: the accounts, the budget, the unions in the route cache, and
the order and caps of the queues. -/
structure Kept (st : Stores Q S) : Prop extends Budgeted B set st where
  within : sharedQueueBytesUsed B keySize set st ≤ B.maxQueueBudget
  recomputed : DiscoveryRoutes.Recomputed st.2.discoveryRoutes
  orderly : ∀ k, (bank.get st.1 k).Orderly (bank.priorityOf k)
  maxBytes : ∀ k, (bank.get st.1 k).maxBytes = B.maxQueueBudget

omit [DecidableEq κ] in
/-- Fitting pops routes until the budget holds or none is left. -/
theorem fitDiscoveryLoop_cases {B : Build} {keySize : Nat} (fuel : Nat) (st : Stores Q S) :
    ∃ routes, fitDiscoveryLoop B keySize set fuel st = (st.1, { st.2 with discoveryRoutes := routes }) ∧
      (DiscoveryRoutes.Recomputed st.2.discoveryRoutes → DiscoveryRoutes.Recomputed routes) ∧
      (st.2.discoveryRoutes.size ≤ fuel → sharedQueueBytesUsed B keySize set
        (st.1, { st.2 with discoveryRoutes := routes }) ≤ B.maxQueueBudget ∨ routes = ∅) := by
  induction fuel generalizing st with
  | zero =>
    refine ⟨st.2.discoveryRoutes, rfl, id, fun hsize => .inr ?_⟩
    exact Std.ExtTreeMap.eq_empty_iff_size_eq_zero.mpr (Nat.le_zero.mp hsize)
  | succ fuel ih =>
    unfold fitDiscoveryLoop
    split
    · split
      · rename_i hnone
        refine ⟨st.2.discoveryRoutes, rfl, id, fun _ => .inr ?_⟩
        by_contra hne
        have hpos : 0 < st.2.discoveryRoutes.size := by
          refine Nat.pos_of_ne_zero fun hzero => hne ?_
          exact Std.ExtTreeMap.eq_empty_iff_size_eq_zero.mpr hzero
        obtain ⟨routes, hsome⟩ := popDiscoveryRoute_isSome hpos
        rw [hnone] at hsome
        cases hsome
      · rename_i routes hpop
        have hsize := popDiscoveryRoute_eq_some hpop
        obtain ⟨side, rfl⟩ := popDiscoveryRoute_erases hpop
        obtain ⟨rest, heq, hrecomputed, hfits⟩ :=
          ih (st.1, { st.2 with discoveryRoutes := st.2.discoveryRoutes.erase side })
        refine ⟨rest, heq, fun h => hrecomputed (h.erase side), fun hle => hfits ?_⟩
        dsimp only
        omega
    · rename_i hwithin
      exact ⟨st.2.discoveryRoutes, rfl, id, fun _ => .inl (Nat.not_lt.mp hwithin)⟩

namespace Kept
variable {B keySize bank} {st st' : Stores Q S}

omit [DecidableEq κ] in
/-- A node with new queues and nothing else. The budget holds the reservation of the
ids, since `BoundedDeque::new` refuses an empty one. -/
theorem new {queues : Q} {recent : BoundedDeque UInt64} (k : κ)
    (hqueues : ∀ k, ∃ start size grow,
      BoundedDeque.new B.maxQueueBudget start size grow = .ok (bank.get queues k))
    (hrecent : recent.maxBytes = max B.recentRxQueueBytes 1) :
    Kept B keySize bank ((queues, ⟨[], recent, ∅, ∅, ∅⟩) : Stores Q S) := by
  have hempty : ∀ k, (bank.get queues k).q = [] ∧ (bank.get queues k).curBytes = 0 ∧
      (bank.get queues k).maxBytes = B.maxQueueBudget := by
    intro k
    obtain ⟨start, size, grow, hnew⟩ := hqueues k
    exact BoundedDeque.new_eq_ok hnew
  have hbudget : 0 < B.maxQueueBudget := by
    obtain ⟨start, size, grow, hnew⟩ := hqueues k
    exact BoundedDeque.new_maxBytes_pos hnew
  refine ⟨⟨(bank.accounted_iff queues).mpr fun k => ?_, hrecent⟩, ?_, .empty, fun k => ?_,
    fun k => (hempty k).2.2⟩
  · obtain ⟨start, size, grow, hnew⟩ := hqueues k
    exact (BoundedDeque.Accounted.new hnew).1
  · have hbytes : (set.kinds.map (set.bytes queues)).sum = 0 := by
      refine List.sum_eq_zero fun n hn => ?_
      obtain ⟨k, -, rfl⟩ := List.mem_map.mp hn
      rw [bank.bytes_eq]
      exact (hempty k).2.1
    have hroutes : discoveryBytesUsed B keySize (∅ : DiscoveryRoutes S) = 0 := by
      rw [discoveryBytesUsed, Std.ExtTreeMap.toList_eq_nil_iff.mpr rfl, List.map_nil, List.sum_nil]
    have hrx : reliableRxBufferedBytes B (∅ : RxStreams S) = 0 := by
      rw [reliableRxBufferedBytes, Std.ExtTreeMap.toList_eq_nil_iff.mpr rfl, List.map_nil,
        List.sum_nil]
    unfold sharedQueueBytesUsed
    dsimp only
    rw [hbytes, hrecent, hroutes, hrx, Build.recentRxQueueBytes]
    omega
  · obtain ⟨start, size, grow, hnew⟩ := hqueues k
    exact .new hnew

omit [DecidableEq κ] in
/-- Only the queues changed, each with its caps and accounts. -/
theorem of_queues {queues : Q} (h : Kept B keySize bank st)
    (hacc : ∀ k, (bank.get queues k).Accounted (bank.cost k))
    (hwithin : sharedQueueBytesUsed B keySize set (queues, st.2) ≤ B.maxQueueBudget)
    (horder : ∀ k, (bank.get queues k).Orderly (bank.priorityOf k))
    (hmax : ∀ k, (bank.get queues k).maxBytes = B.maxQueueBudget) :
    Kept B keySize bank (queues, st.2) :=
  ⟨⟨(bank.accounted_iff queues).mpr hacc, h.recentMax⟩, hwithin, h.recomputed, horder, hmax⟩

omit [DecidableEq κ] in
/-- The rest changed, and no bytes were added. -/
theorem of_node {node : NodeState S} (h : Kept B keySize bank st)
    (hrecent : node.recentRx.maxBytes = st.2.recentRx.maxBytes)
    (hused : reliableRxBufferedBytes B node.reliableRx +
        discoveryBytesUsed B keySize node.discoveryRoutes ≤
      reliableRxBufferedBytes B st.2.reliableRx +
        discoveryBytesUsed B keySize st.2.discoveryRoutes)
    (hroutes : DiscoveryRoutes.Recomputed node.discoveryRoutes) :
    Kept B keySize bank (st.1, node) := by
  refine ⟨⟨h.accounted, hrecent.trans h.recentMax⟩, ?_, hroutes, h.orderly, h.maxBytes⟩
  have := h.within
  unfold sharedQueueBytesUsed at this ⊢
  dsimp only
  omega

/-- One queue loses items. -/
theorem lose {k : κ} {d : BoundedDeque (bank.Item k)} (h : Kept B keySize bank st)
    (hlose : (bank.get st.1 k).Loses (bank.cost k) d) :
    Kept B keySize bank (bank.put st.1 k d, st.2) := by
  have hput := @used_put κ Q _ S B keySize set bank st k d
  have hbytes := hlose.curBytes_le
  have hwithin := h.within
  have hacc := (bank.accounted_iff st.1).mp h.accounted
  apply h.of_queues
  · exact bank.forall_put (P := fun k d => d.Accounted (bank.cost k)) (hlose.accounted (hacc k)) hacc
  · omega
  · exact bank.forall_put (P := fun k d => d.Orderly (bank.priorityOf k))
      ((h.orderly k).of_sublist hlose.sublist hlose.maxElems) h.orderly
  · exact bank.forall_put (P := fun _ d => d.maxBytes = B.maxQueueBudget)
      (hlose.maxBytes.trans (h.maxBytes k)) h.maxBytes

omit [DecidableEq κ] in
theorem dropRoute (h : Kept B keySize bank st) (side : Nat) :
    Kept B keySize bank
      (st.1, { st.2 with discoveryRoutes := st.2.discoveryRoutes.erase side }) := by
  have hbytes := @OrdMap.sum_erase_le _ _ _ _ _ _ st.2.discoveryRoutes side
    (fun e => discoveryRouteByteCost B keySize e.2)
  exact h.of_node rfl (Nat.add_le_add_left hbytes _) (h.recomputed.erase side)

/-- What one turn of the room loop takes. -/
theorem pop {kind : StoreKind κ} (h : Kept B keySize bank st)
    (hpop : popSharedQueueItem set st kind = some st') : Kept B keySize bank st' := by
  cases kind with
  | queue k =>
    obtain ⟨q', hq, rfl⟩ := Option.map_eq_some_iff.mp hpop
    obtain ⟨v, d, hd, rfl⟩ := bank.pop_eq_some hq
    exact h.lose (.popFront hd)
  | recent =>
    obtain ⟨popped, hrecent, rfl⟩ := Option.map_eq_some_iff.mp hpop
    exact h.of_node (BoundedDeque.popFront_maxBytes hrecent) (Nat.le_refl _) h.recomputed
  | reliableRxBuffer =>
    obtain ⟨streams, hstreams, rfl⟩ := Option.map_eq_some_iff.mp hpop
    exact h.of_node rfl (Nat.add_le_add_right (popReliableRxBuffered_bytes_le B hstreams) _)
      h.recomputed
  | discovery =>
    obtain ⟨routes, hroutes, rfl⟩ := Option.map_eq_some_iff.mp hpop
    obtain ⟨side, rfl⟩ := popDiscoveryRoute_erases hroutes
    exact h.dropRoute side

theorem makeSharedQueueRoom (h : Kept B keySize bank st) (cost : Nat) (preferred : StoreKind κ) :
    Kept B keySize bank (makeSharedQueueRoom B keySize set st cost preferred).1 := by
  have hroom := @Budget.makeRoom_relation _ _ (budget B keySize set) B.maxQueueBudget cost
    (sharedItems set st + 1) preferred st
    (fun st st' => Kept B keySize bank st → Kept B keySize bank st')
    (fun _ => id) (fun h h' hk => h' (h hk)) (fun hpop hk => hk.pop hpop)
  unfold Stores.makeSharedQueueRoom
  split
  · exact h
  · generalize (budget B keySize set).makeRoom B.maxQueueBudget cost preferred
      (sharedItems set st + 1) st = r at hroom
    obtain ⟨st', _ | _ | _⟩ := r
    · exact hroom h
    · exact hroom h
    · exact hroom h

theorem push (h : Kept B keySize bank st) (k : κ) (item : bank.Item k) :
    Kept B keySize bank (push B keySize bank st k item).1 := by
  have hused := push_used_le bank h.within k item
  have hroom := h.makeSharedQueueRoom (bank.cost k item) (.queue k)
  unfold Stores.push at hused ⊢
  generalize Stores.makeSharedQueueRoom B keySize set st (bank.cost k item) (.queue k) = r
    at hroom hused
  obtain ⟨st', _ | ⟨⟨⟩⟩⟩ := r
  · exact hroom
  · dsimp only at hroom hused ⊢
    have hacc := (bank.accounted_iff st'.1).mp hroom.accounted
    apply hroom.of_queues
    · exact bank.forall_put (P := fun k d => d.Accounted (bank.cost k))
        ((hacc k).pushBackPrioritized _ _) hacc
    · exact hused
    · exact bank.forall_put (P := fun k d => d.Orderly (bank.priorityOf k))
        ((hroom.orderly k).pushBackPrioritized _) hroom.orderly
    · exact bank.forall_put (P := fun _ d => d.maxBytes = B.maxQueueBudget)
        ((BoundedDeque.pushBackPrioritized_caps _).2.trans (hroom.maxBytes k)) hroom.maxBytes

theorem bufferReliableRx (h : Kept B keySize bank st) (key : StreamKey S) (seq : UInt32)
    (bytes : List UInt8) :
    Kept B keySize bank (bufferReliableRx B keySize set st key seq bytes).1 := by
  have hroom := h.makeSharedQueueRoom (B.arcSize + bytes.length) .reliableRxBuffer
  have hused := @makeSharedQueueRoom_used κ Q _ S B keySize set bank st (B.arcSize + bytes.length)
    .reliableRxBuffer
  unfold Stores.bufferReliableRx
  split
  · exact h
  · generalize Stores.makeSharedQueueRoom B keySize set st (B.arcSize + bytes.length)
      .reliableRxBuffer = r at hroom hused
    obtain ⟨st', _ | ⟨⟨⟩⟩⟩ := r
    · exact hroom
    · have hfits := hused.2 rfl
      have hinsert := reliableRxBufferedBytes_insert B st'.2.reliableRx key
        ((st'.2.reliableRx.at key).bufferFrame B seq bytes)
      have hframe := bufferFrame_bytes_le B (st'.2.reliableRx.at key) seq bytes
      refine ⟨⟨hroom.accounted, hroom.recentMax⟩, ?_, hroom.recomputed, hroom.orderly,
        hroom.maxBytes⟩
      unfold sharedQueueBytesUsed at hfits ⊢
      dsimp only at hfits ⊢
      omega

theorem acceptOrdered (h : Kept B keySize bank st) (key : StreamKey S) (seq : UInt32)
    (bytes : List UInt8) : Kept B keySize bank (acceptOrdered B keySize set st key seq bytes).1 := by
  have harrive := arrive_bytes_le B (st.2.reliableRx.at key) seq bytes
  unfold Stores.acceptOrdered
  generalize (st.2.reliableRx.at key).arrive seq bytes = r at harrive
  obtain ⟨rx, arrival⟩ := r
  have hinsert := reliableRxBufferedBytes_insert B st.2.reliableRx key rx
  have hnext : Kept B keySize bank
      (st.1, { st.2 with reliableRx := st.2.reliableRx.insert key rx }) := by
    refine h.of_node rfl (Nat.add_le_add_right ?_ _) h.recomputed
    dsimp only at harrive ⊢
    omega
  cases arrival with
  | old ack => exact hnext
  | early partialAck request => exact hnext.bufferReliableRx key seq bytes
  | released frames ack => exact hnext

omit [DecidableEq κ] in
/-- Fitting ends within the budget, whatever the routes were: without any route the
state was within it. -/
theorem fitDiscoveryBudget {routes : DiscoveryRoutes S} (h : Kept B keySize bank st)
    (hroutes : DiscoveryRoutes.Recomputed routes) :
    Kept B keySize bank
      (fitDiscoveryBudget B keySize set (st.1, { st.2 with discoveryRoutes := routes })) := by
  obtain ⟨rest, heq, hrecomputed, hfits⟩ := @fitDiscoveryLoop_cases κ Q S set B keySize routes.size
    (st.1, { st.2 with discoveryRoutes := routes })
  rw [Stores.fitDiscoveryBudget, heq]
  refine ⟨⟨h.accounted, h.recentMax⟩, ?_, hrecomputed hroutes, h.orderly, h.maxBytes⟩
  rcases hfits (Nat.le_refl _) with hwithin | rfl
  · exact hwithin
  · have hold := h.within
    have hnone : discoveryBytesUsed B keySize (∅ : DiscoveryRoutes S) = 0 := by
      rw [discoveryBytesUsed, Std.ExtTreeMap.toList_eq_nil_iff.mpr rfl, List.map_nil, List.sum_nil]
    unfold sharedQueueBytesUsed at hold ⊢
    dsimp only
    omega

/-- Every move keeps them. -/
theorem move (h : Kept B keySize bank st) (hmove : Move B keySize bank st st') :
    Kept B keySize bank st' := by
  cases hmove with
  | other queues recentRx reliableRx discoveryRoutes =>
    obtain ⟨queues', node⟩ := st'
    dsimp only at queues recentRx reliableRx discoveryRoutes
    subst queues
    refine h.of_node (congrArg _ recentRx) ?_ ?_
    · rw [reliableRx, discoveryRoutes]
    · rw [discoveryRoutes]
      exact h.recomputed
  | push k item => exact h.push k item
  | lose k hlose => exact h.lose hlose
  | accept key seq bytes => exact h.acceptOrdered key seq bytes
  | dropStreams keep =>
    have hbytes := @OrdMap.sum_filter_le _ _ _ _ st.2.reliableRx
      (fun e => e.2.bufferedBytes B) keep
    exact h.of_node rfl (Nat.add_le_add_right hbytes _) h.recomputed
  | learn hlearn => exact h.fitDiscoveryBudget (h.recomputed.learn hlearn)
  | prune now =>
    exact h.of_node rfl (Nat.add_le_add_left (pruneDiscoveryRoutes_bytes_le keySize h.recomputed now) _)
      (.prune now _)
  | fit => exact h.fitDiscoveryBudget h.recomputed
  | dropRoute side => exact h.dropRoute side

theorem moves (h : Kept B keySize bank st)
    (hmoves : Relation.ReflTransGen (Move B keySize bank) st st') : Kept B keySize bank st' := by
  induction hmoves with
  | refl => exact h
  | tail _ hmove ih => exact ih.move hmove

/-- Recording an id changes no byte count. -/
theorem pushRecentRx (h : Kept B keySize bank st) (id : UInt64) :
    Kept B keySize bank (pushRecentRx B keySize set st id).1 := by
  have htrim : Kept B keySize bank (trimRecent B st) :=
    h.of_node (BoundedDeque.iterate_dropFront_maxBytes _ _) (Nat.le_refl _) h.recomputed
  have hroom := htrim.makeSharedQueueRoom 0 .recent
  unfold Stores.pushRecentRx
  split
  · exact h
  · generalize Stores.makeSharedQueueRoom B keySize set (trimRecent B st) 0 .recent = r at hroom
    obtain ⟨st', _ | ⟨⟨⟩⟩⟩ := r
    · exact hroom
    · exact hroom.of_node (BoundedDeque.pushBack_maxBytes id) (Nat.le_refl _) hroom.recomputed

omit [DecidableEq κ] in
theorem removeValue (h : Kept B keySize bank st) (id : UInt64) :
    Kept B keySize bank (st.1, { st.2 with recentRx := st.2.recentRx.removeValue idCost id }) :=
  h.of_node (BoundedDeque.removeValue_maxBytes id) (Nat.le_refl _) h.recomputed

end Kept
end Stores
end Sedsprintf
