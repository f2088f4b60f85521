import Sedsprintf.Stores.Eviction

/-!
# What a push leaves in its queue

Which items go is settled by the stores before the push: the room loop takes from the
front of a queue, and the element cap takes the last item for one that comes in.
-/
namespace Sedsprintf

open Lib

namespace Stores
variable {κ Q : Type} [DecidableEq κ] {S : Schema}

section Leaving
variable (B : Build) (keySize : Nat) {set : QueueSet κ Q}

/-- How many items of queue `k` go for `cost` bytes of room. -/
def taken (set : QueueSet κ Q) (st : Stores Q S) (cost : Nat) (preferred : StoreKind κ) (k : κ) :
    Nat :=
  if B.maxQueueBudget < cost then 0
  else (budget B keySize set).taken (.queue k) B.maxQueueBudget cost preferred
    (sharedItems set st + 1) st

/-- How many items of queue `k` go for a frame that arrives in an ordered stream. -/
def takenByFrame (set : QueueSet κ Q) (st : Stores Q S) (key : StreamKey S) (seq : UInt32)
    (bytes : List UInt8) (k : κ) : Nat :=
  match (st.2.reliableRx.at key).arrive seq bytes with
  | (rx, .early _ _) =>
    if seq ∈ rx.buffered then 0
    else
      taken B keySize set (st.1, { st.2 with reliableRx := st.2.reliableRx.insert key rx })
        (B.arcSize + bytes.length) .reliableRxBuffer k
  | _ => 0

variable (bank : QueueBank set)

/-- The item fits beside the reservation of the ids, and its queue is not full of higher
priorities that the other stores pay for. -/
def Admits (st : Stores Q S) (k : κ) (item : bank.Item k) : Prop :=
  st.2.recentRx.maxBytes + bank.cost k item ≤ B.maxQueueBudget ∧
    ¬((bank.get st.1 k).Saturated (bank.priorityOf k) (bank.priorityOf k item) ∧
      sharedQueueBytesUsed B keySize set (spared B keySize set (.queue k) st) +
        bank.cost k item ≤ B.maxQueueBudget)

instance decidableAdmits (st : Stores Q S) (k : κ) (item : bank.Item k) :
    Decidable (Admits B keySize bank st k item) :=
  inferInstanceAs (Decidable (_ ∧ ¬(_ ∧ _)))

/-- What a push of `item` leaves of what its queue held. -/
def leaves (st : Stores Q S) (k : κ) (item : bank.Item k) : List (bank.Item k) :=
  let queue := bank.get st.1 k
  let gone := taken B keySize set st (bank.cost k item) (.queue k) k
  if gone = 0 ∧ queue.maxElems ≤ queue.q.length ∧ Admits B keySize bank st k item then
    queue.q.dropLast
  else queue.q.drop gone

end Leaving

variable {B : Build} {keySize : Nat} {set : QueueSet κ Q} {st st' : Stores Q S} {cost : Nat}
  {preferred : StoreKind κ}

/-- A turn that takes from queue `k` takes its first item. -/
theorem queue_of_pop (bank : QueueBank set) (k : κ) {kind : StoreKind κ}
    (h : popSharedQueueItem set st kind = some st') :
    (bank.get st'.1 k).q = (bank.get st.1 k).q.drop (if kind = .queue k then 1 else 0) := by
  split
  · rename_i hkind
    subst hkind
    obtain ⟨q', hpop, rfl⟩ := Option.map_eq_some_iff.mp h
    obtain ⟨v, d, hd, rfl⟩ := bank.pop_eq_some hpop
    rw [bank.get_put, BoundedDeque.popFront_eq_some hd]
    rfl
  · rename_i hkind
    rw [get_of_pop bank hkind h]
    rfl

theorem queue_makeSharedQueueRoom (bank : QueueBank set) (st : Stores Q S) (cost : Nat)
    (preferred : StoreKind κ) (k : κ) :
    (bank.get (makeSharedQueueRoom B keySize set st cost preferred).1.1 k).q =
      (bank.get st.1 k).q.drop (taken B keySize set st cost preferred k) := by
  have hroom := @Budget.items_makeRoom _ _ (budget B keySize set) B.maxQueueBudget cost
    (sharedItems set st + 1) preferred st _ (.queue k) _ (fun st => (bank.get st.1 k).q)
    fun h => queue_of_pop bank k h
  unfold makeSharedQueueRoom taken
  split
  · rfl
  · generalize (budget B keySize set).makeRoom B.maxQueueBudget cost preferred
      (sharedItems set st + 1) st = r at hroom
    obtain ⟨st', _ | _ | _⟩ := r
    · exact hroom
    · exact hroom
    · exact hroom

theorem queue_bufferReliableRx (bank : QueueBank set) (st : Stores Q S) (key : StreamKey S)
    (seq : UInt32) (bytes : List UInt8) (k : κ) :
    (bank.get (bufferReliableRx B keySize set st key seq bytes).1.1 k).q =
      (bank.get st.1 k).q.drop (if seq ∈ (st.2.reliableRx.at key).buffered then 0
        else taken B keySize set st (B.arcSize + bytes.length) .reliableRxBuffer k) := by
  have hroom := @queue_makeSharedQueueRoom κ Q _ S B keySize set bank st
    (B.arcSize + bytes.length) .reliableRxBuffer k
  unfold bufferReliableRx
  split
  · rfl
  · generalize makeSharedQueueRoom B keySize set st (B.arcSize + bytes.length) .reliableRxBuffer = r
      at hroom
    obtain ⟨st', _ | ⟨⟨⟩⟩⟩ := r
    · exact hroom
    · exact hroom

theorem queue_acceptOrdered (bank : QueueBank set) (st : Stores Q S) (key : StreamKey S)
    (seq : UInt32) (bytes : List UInt8) (k : κ) :
    (bank.get (acceptOrdered B keySize set st key seq bytes).1.1 k).q =
      (bank.get st.1 k).q.drop (takenByFrame B keySize set st key seq bytes k) := by
  unfold acceptOrdered takenByFrame
  generalize (st.2.reliableRx.at key).arrive seq bytes = r
  obtain ⟨rx, arrival⟩ := r
  cases arrival with
  | old ack => rfl
  | released frames ack => rfl
  | early partialAck request =>
    have hbuffer := @queue_bufferReliableRx κ Q _ S B keySize set bank
      (st.1, { st.2 with reliableRx := st.2.reliableRx.insert key rx }) key seq bytes k
    dsimp only at hbuffer ⊢
    rw [RxStreams.at_insert, if_pos rfl] at hbuffer
    exact hbuffer

omit [DecidableEq κ] in
/-- Recording an id takes nothing from the queues. -/
theorem queues_pushRecentRx (hwithin : sharedQueueBytesUsed B keySize set st ≤ B.maxQueueBudget)
    (id : UInt64) : (pushRecentRx B keySize set st id).1.1 = st.1 := by
  have hused : (budget B keySize set).used (trimRecent B st) + 0 ≤ B.maxQueueBudget := by
    have hmax : (trimRecent B st).2.recentRx.maxBytes = st.2.recentRx.maxBytes :=
      BoundedDeque.iterate_dropFront_maxBytes _ _
    have htrimmed : sharedQueueBytesUsed B keySize set (trimRecent B st) =
        sharedQueueBytesUsed B keySize set st := by
      unfold sharedQueueBytesUsed
      rw [hmax]
      rfl
    have heq : (budget B keySize set).used (trimRecent B st) =
        sharedQueueBytesUsed B keySize set (trimRecent B st) := rfl
    omega
  unfold pushRecentRx makeSharedQueueRoom
  rw [Budget.makeRoom_of_fits hused, if_neg (Nat.not_lt_zero _)]
  split
  · rfl
  · rfl

section Pushes
variable {bank : QueueBank set} {k : κ} {item : bank.Item k}

/-- A push takes from the other queues what making room takes. -/
theorem queue_push_of_ne (st : Stores Q S) {k' : κ} (hne : k' ≠ k) (item : bank.Item k) :
    (bank.get (push B keySize bank st k item).1.1 k').q =
      (bank.get st.1 k').q.drop
        (taken B keySize set st (bank.cost k item) (.queue k) k') := by
  have hroom := @queue_makeSharedQueueRoom κ Q _ S B keySize set bank st (bank.cost k item)
    (.queue k) k'
  unfold push
  generalize makeSharedQueueRoom B keySize set st (bank.cost k item) (.queue k) = r at hroom
  obtain ⟨st', _ | ⟨⟨⟩⟩⟩ := r
  · exact hroom
  · dsimp only
    rw [bank.get_put_of_ne _ _ hne]
    exact hroom

/-- A push that is accepted, or refused, leaves `leaves` of its queue. -/
theorem push_leaves (hkept : Kept B keySize bank st) (k : κ) (item : bank.Item k) :
    (Admits B keySize bank st k item → (push B keySize bank st k item).2 = .ok () ∧
      (bank.get (push B keySize bank st k item).1.1 k).q.Perm
        (item :: leaves B keySize bank st k item)) ∧
    (¬Admits B keySize bank st k item →
      (bank.get (push B keySize bank st k item).1.1 k).q = leaves B keySize bank st k item) := by
  have hadmits := push_ok_iff hkept k item
  have hqueue := @queue_makeSharedQueueRoom κ Q _ S B keySize set bank st (bank.cost k item)
    (.queue k) k
  have hcap := (makeSharedQueueRoom_evicts B keySize (loses_popRelation bank k) st
    (bank.cost k item) (.queue k)).queues.maxElems
  have hlen := (hkept.orderly k).length_le
  have hpos := (hkept.orderly k).maxElems_pos
  have hrefused {e : TelemetryError} (hpush : push B keySize bank st k item =
      ((makeSharedQueueRoom B keySize set st (bank.cost k item) (.queue k)).1, fail e)) :
      ¬Admits B keySize bank st k item ∧
        (bank.get (push B keySize bank st k item).1.1 k).q = leaves B keySize bank st k item := by
    have hnot : ¬Admits B keySize bank st k item := by
      intro h
      have hok := hadmits.mpr h
      rw [hpush] at hok
      exact fail_ne_ok _ _ hok
    refine ⟨hnot, ?_⟩
    rw [hpush, hqueue, leaves, if_neg fun h => hnot h.2.2]
  rcases push_cases hkept k item with ⟨e, -, hpush⟩ | ⟨-, -, hpush⟩ | ⟨hroom, hfull, hok, hperm⟩
  · obtain ⟨hnot, hleaves⟩ := hrefused hpush
    exact ⟨fun h => absurd h hnot, fun _ => hleaves⟩
  · obtain ⟨hnot, hleaves⟩ := hrefused hpush
    exact ⟨fun h => absurd h hnot, fun _ => hleaves⟩
  · have hin : Admits B keySize bank st k item := hadmits.mp hok
    refine ⟨fun _ => ⟨hok, ?_⟩, fun h => absurd hin h⟩
    -- a queue that gave an item is not full any more
    have hcapped : (bank.get (makeSharedQueueRoom B keySize set st (bank.cost k item)
        (.queue k)).1.1 k).capped = leaves B keySize bank st k item := by
      unfold BoundedDeque.capped leaves
      rw [hqueue, hcap]
      generalize taken B keySize set st (bank.cost k item) (.queue k) k = gone
      dsimp only
      rw [List.length_drop]
      by_cases hgone : gone = 0
      · subst hgone
        simp [hin]
      · rw [if_neg (by omega), if_neg fun h => hgone h.1]
    rw [← hcapped]
    exact hperm

end Pushes
end Stores
end Sedsprintf
