import Sedsprintf.Stores

/-!
# Pushing into a store of the shared budget

`push_received`, `push_transmit`, `push_rx`, `push_tx` and `push_replay` are one
function over the queues of a `QueueBank`: make room in the shared budget, then
push by priority. What making room takes is the same for all of them.
-/
namespace Sedsprintf

open Lib

/-- The queues of a `QueueSet` one by one, with the items, costs and priorities of
each. -/
structure QueueBank {κ Q : Type} (set : QueueSet κ Q) where
  Item : κ → Type
  cost : (k : κ) → Item k → Nat
  priorityOf : (k : κ) → Item k → UInt8
  get : Q → (k : κ) → BoundedDeque (Item k)
  put : Q → (k : κ) → BoundedDeque (Item k) → Q
  mem_kinds : ∀ k, k ∈ set.kinds
  nodup_kinds : set.kinds.Nodup
  get_put : ∀ q k d, get (put q k d) k = d
  put_get : ∀ q k, put q k (get q k) = q
  get_put_of_ne : ∀ q {k k'} d, k' ≠ k → get (put q k d) k' = get q k'
  bytes_eq : ∀ q k, set.bytes q k = (get q k).curBytes
  len_eq : ∀ q k, set.len q k = (get q k).q.length
  pop_eq : ∀ q k, set.pop q k = ((get q k).popFront (cost k)).map fun popped => put q k popped.2
  accounted_iff : ∀ q, set.Accounted q ↔ ∀ k, (get q k).Accounted (cost k)

namespace QueueBank
variable {κ Q : Type} {set : QueueSet κ Q} (bank : QueueBank set)

/-- The bytes of all queues, when one of them changes. -/
theorem sum_put [DecidableEq κ] (q : Q) (k : κ) (d : BoundedDeque (bank.Item k)) :
    (set.kinds.map (set.bytes (bank.put q k d))).sum + (bank.get q k).curBytes =
      (set.kinds.map (set.bytes q)).sum + d.curBytes := by
  have hperm := List.perm_cons_erase (bank.mem_kinds k)
  have hothers : ∀ k' ∈ set.kinds.erase k, set.bytes (bank.put q k d) k' = set.bytes q k' := by
    intro k' hk'
    have hne : k' ≠ k := (bank.nodup_kinds.mem_erase_iff.mp hk').1
    rw [bank.bytes_eq, bank.bytes_eq, bank.get_put_of_ne q d hne]
  rw [(hperm.map _).sum_nat, (hperm.map _).sum_nat, List.map_cons, List.map_cons, List.sum_cons,
    List.sum_cons, List.map_congr_left hothers, bank.bytes_eq, bank.bytes_eq, bank.get_put]
  omega

/-- A property of every queue, when one of them changes. -/
theorem forall_put [DecidableEq κ] {P : (k : κ) → BoundedDeque (bank.Item k) → Prop} {q : Q}
    {k : κ} {d : BoundedDeque (bank.Item k)} (h : P k d) (hothers : ∀ k', P k' (bank.get q k')) :
    ∀ k', P k' (bank.get (bank.put q k d) k') := by
  intro k'
  by_cases heq : k' = k
  · subst heq
    rw [bank.get_put]
    exact h
  · rw [bank.get_put_of_ne q d heq]
    exact hothers k'

/-- A popped queue is the one before it without its first item; the others stay. -/
theorem pop_eq_some {q q' : Q} {k : κ} (h : set.pop q k = some q') :
    ∃ v d, (bank.get q k).popFront (bank.cost k) = some (v, d) ∧ q' = bank.put q k d := by
  rw [bank.pop_eq] at h
  obtain ⟨popped, hpop, rfl⟩ := Option.map_eq_some_iff.mp h
  exact ⟨popped.1, popped.2, hpop, rfl⟩

/-- A relation between the queues of one kind that popping its front keeps. -/
theorem popRelation [DecidableEq κ] (k : κ)
    (rel : BoundedDeque (bank.Item k) → BoundedDeque (bank.Item k) → Prop)
    (hrefl : ∀ d, rel d d) (htrans : ∀ {d d' d''}, rel d d' → rel d' d'' → rel d d'')
    (hpop : ∀ {d v d'}, d.popFront (bank.cost k) = some (v, d') → rel d d') :
    Stores.PopRelation set fun q q' => rel (bank.get q k) (bank.get q' k) where
  refl _ := hrefl _
  trans := htrans
  pop {q q' k'} h := by
    obtain ⟨v, d, hd, rfl⟩ := bank.pop_eq_some h
    by_cases heq : k = k'
    · subst heq
      rw [bank.get_put]
      exact hpop hd
    · rw [bank.get_put_of_ne q d heq]
      exact hrefl _

end QueueBank

namespace Stores
variable {κ Q : Type} [DecidableEq κ] {S : Schema} (B : Build) (keySize : Nat)
  {set : QueueSet κ Q} (bank : QueueBank set)

def push (st : Stores Q S) (k : κ) (item : bank.Item k) : Stores Q S × Outcome Unit :=
  match makeSharedQueueRoom B keySize set st (bank.cost k item) (.queue k) with
  | (st, .error e) => (st, .error e)
  | (st, .ok ()) =>
    let pushed := (bank.get st.1 k).pushBackPrioritized (bank.cost k) (bank.priorityOf k) item
    ((bank.put st.1 k pushed.1, st.2), pushed.2)

omit [DecidableEq κ] in
/-- What the stores share besides the queues is as making room left it. -/
theorem push_shared (st : Stores Q S) (k : κ) (item : bank.Item k) :
    (push B keySize bank st k item).1.2 =
      (makeSharedQueueRoom B keySize set st (bank.cost k item) (.queue k)).1.2 := by
  unfold push
  generalize makeSharedQueueRoom B keySize set st (bank.cost k item) (.queue k) = r
  obtain ⟨st', _ | ⟨⟨⟩⟩⟩ := r
  · rfl
  · rfl

section Bytes
variable {B keySize} {st st' : Stores Q S}

/-- Bytes in use, when only the queues change. -/
theorem used_put (st : Stores Q S) (k : κ) (d : BoundedDeque (bank.Item k)) :
    sharedQueueBytesUsed B keySize set (bank.put st.1 k d, st.2) + (bank.get st.1 k).curBytes =
      sharedQueueBytesUsed B keySize set st + d.curBytes := by
  have := bank.sum_put st.1 k d
  unfold sharedQueueBytesUsed
  dsimp only
  omega

include bank in
/-- An item that leaves takes its bytes along; the ids keep their reservation. -/
theorem used_of_pop {kind : StoreKind κ} (h : popSharedQueueItem set st kind = some st') :
    sharedQueueBytesUsed B keySize set st' ≤ sharedQueueBytesUsed B keySize set st := by
  cases kind with
  | queue k =>
    obtain ⟨q', hpop, rfl⟩ := Option.map_eq_some_iff.mp h
    obtain ⟨v, d, hd, rfl⟩ := bank.pop_eq_some hpop
    have hput := @used_put κ Q _ S B keySize set bank st k d
    have := (BoundedDeque.Loses.popFront hd).curBytes_le
    omega
  | recent =>
    obtain ⟨popped, hpop, rfl⟩ := Option.map_eq_some_iff.mp h
    have := BoundedDeque.popFront_maxBytes hpop
    unfold sharedQueueBytesUsed
    dsimp only
    omega
  | reliableRxBuffer =>
    obtain ⟨streams, hpop, rfl⟩ := Option.map_eq_some_iff.mp h
    have := popReliableRxBuffered_bytes_le B hpop
    unfold sharedQueueBytesUsed
    dsimp only
    omega
  | discovery =>
    obtain ⟨routes, hpop, rfl⟩ := Option.map_eq_some_iff.mp h
    obtain ⟨side, rfl⟩ := popDiscoveryRoute_erases hpop
    have := @OrdMap.sum_erase_le _ _ _ _ _ _ st.2.discoveryRoutes side
      (fun e => discoveryRouteByteCost B keySize e.2)
    unfold sharedQueueBytesUsed discoveryBytesUsed
    dsimp only at this ⊢
    omega

include bank in
/-- Making room frees bytes, and where it succeeds the item fits. -/
theorem makeSharedQueueRoom_used (st : Stores Q S) (cost : Nat) (preferred : StoreKind κ) :
    sharedQueueBytesUsed B keySize set (makeSharedQueueRoom B keySize set st cost preferred).1 ≤
        sharedQueueBytesUsed B keySize set st ∧
      ((makeSharedQueueRoom B keySize set st cost preferred).2 = .ok () →
        sharedQueueBytesUsed B keySize set
          (makeSharedQueueRoom B keySize set st cost preferred).1 + cost ≤ B.maxQueueBudget) := by
  have hless := @Budget.makeRoom_relation _ _ (budget B keySize set) B.maxQueueBudget cost
    (sharedItems set st + 1) preferred st
    (fun st st' => sharedQueueBytesUsed B keySize set st' ≤ sharedQueueBytesUsed B keySize set st)
    (fun _ => Nat.le_refl _) (fun h h' => Nat.le_trans h' h) (fun h => used_of_pop bank h)
  have hmade := @Budget.makeRoom_used_le _ _ (budget B keySize set) B.maxQueueBudget cost
    (sharedItems set st + 1) preferred st
  unfold makeSharedQueueRoom
  split
  · exact ⟨Nat.le_refl _, fun h => absurd h (fail_ne_ok _ _)⟩
  · generalize (budget B keySize set).makeRoom B.maxQueueBudget cost preferred
      (sharedItems set st + 1) st = r at hless hmade
    obtain ⟨st', _ | _ | _⟩ := r
    · exact ⟨hless, fun _ => hmade rfl⟩
    · exact ⟨hless, fun h => absurd h (fail_ne_ok _ _)⟩
    · exact ⟨hless, fun h => absurd h (fail_ne_ok _ _)⟩

/-- A push stays within the budget. -/
theorem push_used_le (hused : sharedQueueBytesUsed B keySize set st ≤ B.maxQueueBudget) (k : κ)
    (item : bank.Item k) :
    sharedQueueBytesUsed B keySize set (push B keySize bank st k item).1 ≤ B.maxQueueBudget := by
  have hroom := @makeSharedQueueRoom_used κ Q _ S B keySize set bank st (bank.cost k item)
    (.queue k)
  unfold push
  generalize makeSharedQueueRoom B keySize set st (bank.cost k item) (.queue k) = r at hroom
  obtain ⟨st', _ | ⟨⟨⟩⟩⟩ := r
  · exact Nat.le_trans hroom.1 hused
  · have hfits := hroom.2 rfl
    have hput := @used_put κ Q _ S B keySize set bank st' k
      ((bank.get st'.1 k).pushBackPrioritized (bank.cost k) (bank.priorityOf k) item).1
    have hadded := @BoundedDeque.pushBackPrioritized_curBytes_le _ (bank.cost k) (bank.get st'.1 k)
      (bank.priorityOf k) item
    dsimp only at hfits ⊢
    omega

end Bytes
end Stores
end Sedsprintf
