import Sedsprintf.Stores.Moves
import Sedsprintf.Lib.Window

/-!
# The recent ids

`recent_rx` is a bounded deque with a byte cap, an element cap and a count loop of its
own, inside a budget whose eviction may take from any store. With a reservation that
holds `MAX_RECENT_RX_IDS` ids it is a `Window`: the three caps agree, and eviction
never takes an id.
-/
namespace Sedsprintf

open Lib

/-- `recent_rx` with its caps. -/
structure RecentKept (B : Build) (recent : BoundedDeque UInt64) : Prop where
  nodup : recent.q.Nodup
  length_le : recent.q.length ≤ B.maxRecentRxIds
  accounted : recent.Accounted idCost
  maxBytes : recent.maxBytes = max B.recentRxQueueBytes 1
  maxElems : recent.maxElems = max (recent.maxBytes / 8) 1

namespace RecentKept
variable {B : Build} {recent : BoundedDeque UInt64}

theorem new (h : BoundedDeque.new (max B.recentRxQueueBytes 1) (max B.recentRxQueueBytes 1) 8
    B.queueGrowNum = .ok recent) : RecentKept B recent := by
  obtain ⟨hq, -, hmax⟩ := BoundedDeque.new_eq_ok h
  refine ⟨by simp [hq], by simp [hq], (BoundedDeque.Accounted.new h).1, hmax, ?_⟩
  unfold BoundedDeque.new at h
  rw [if_neg (by omega), if_neg (by omega)] at h
  obtain rfl := Except.ok.inj h
  rfl

theorem removeValue (h : RecentKept B recent) (id : UInt64) :
    RecentKept B (recent.removeValue idCost id) where
  nodup := by
    rw [BoundedDeque.removeValue_q]
    exact h.nodup.sublist List.erase_sublist
  length_le := by
    rw [BoundedDeque.removeValue_q]
    exact List.erase_sublist.length_le.trans h.length_le
  accounted := h.accounted.removeValue id
  maxBytes := (BoundedDeque.removeValue_maxBytes id).trans h.maxBytes
  maxElems := by
    rw [BoundedDeque.removeValue_maxBytes, ← h.maxElems]
    unfold BoundedDeque.removeValue
    split <;> rfl

/-- Trimming and pushing are one step of the window: neither cap of the deque is
reached before the count. -/
theorem note (h : RecentKept B recent) (hids : B.maxRecentRxIds ≠ 0)
    (hbudget : B.maxRecentRxIds * 8 ≤ B.maxQueueBudget) {id : UInt64} (hnew : id ∉ recent.q) :
    let trimmed := (BoundedDeque.dropFront idCost)^[recent.q.length + 1 - B.maxRecentRxIds] recent
    (trimmed.pushBack idCost id).2 = .ok () ∧
      (trimmed.pushBack idCost id).1.q = Window.note B.maxRecentRxIds recent.q id ∧
      RecentKept B (trimmed.pushBack idCost id).1 := by
  intro trimmed
  have hq : trimmed.q = recent.q.drop (recent.q.length + 1 - B.maxRecentRxIds) :=
    BoundedDeque.iterate_dropFront_q _ _
  have hacc : trimmed.Accounted idCost := h.accounted.iterate_dropFront _
  have hmax : trimmed.maxBytes = B.maxRecentRxIds * 8 := by
    rw [BoundedDeque.iterate_dropFront_maxBytes, h.maxBytes, Build.recentRxQueueBytes]
    omega
  have helems : trimmed.maxElems = B.maxRecentRxIds := by
    rw [BoundedDeque.iterate_dropFront_maxElems, h.maxElems, h.maxBytes, Build.recentRxQueueBytes]
    omega
  have hlen : trimmed.q.length < B.maxRecentRxIds := by
    rw [hq, List.length_drop]
    omega
  have hcur : trimmed.curBytes = 8 * trimmed.q.length := by
    have hcost : idCost = fun _ => 8 := rfl
    rw [hacc, hcost, List.map_const', List.sum_replicate_nat, Nat.mul_comm]
  have hcost : idCost id = 8 := rfl
  obtain ⟨hok, hpushed, helems', hacc'⟩ := BoundedDeque.pushBack_of_room hacc
    (v := id) (by omega) (by omega)
  have hnote : (trimmed.pushBack idCost id).1.q = Window.note B.maxRecentRxIds recent.q id := by
    rw [hpushed, hq, Window.note]
  refine ⟨hok, hnote, ?_, ?_, hacc', ?_, ?_⟩
  · rw [hnote]
    exact Window.nodup_note h.nodup hnew
  · rw [hnote]
    exact Window.length_note_le (Nat.pos_of_ne_zero hids)
  · rw [BoundedDeque.pushBack_maxBytes, BoundedDeque.iterate_dropFront_maxBytes, h.maxBytes]
  · rw [helems', BoundedDeque.pushBack_maxBytes, helems, hmax]
    omega

end RecentKept

namespace Stores
variable {κ Q : Type} {S : Schema} {B : Build} {keySize : Nat} {set : QueueSet κ Q}
  {st st' : Stores Q S}

/-- The ids never count as the largest store. -/
theorem largest_ne_recent {kind : StoreKind κ} (h : (budget B keySize set).largest st = some kind) :
    kind ≠ .recent := by
  obtain ⟨top, hmem, rfl, hbytes, -⟩ := Budget.largest_eq_some h
  simp only [budget, List.mem_append, List.mem_map, List.mem_cons, List.not_mem_nil,
    or_false] at hmem
  rcases hmem with ⟨k, -, rfl⟩ | rfl | rfl | rfl
  · simp
  · cases hbytes
  · simp
  · simp

theorem recentRx_of_pop {kind : StoreKind κ} (hkind : kind ≠ .recent)
    (h : popSharedQueueItem set st kind = some st') : st'.2.recentRx = st.2.recentRx := by
  cases kind with
  | queue k =>
    obtain ⟨q', -, rfl⟩ := Option.map_eq_some_iff.mp h
    rfl
  | recent => exact absurd rfl hkind
  | reliableRxBuffer =>
    obtain ⟨streams, -, rfl⟩ := Option.map_eq_some_iff.mp h
    rfl
  | discovery =>
    obtain ⟨routes, -, rfl⟩ := Option.map_eq_some_iff.mp h
    rfl

/-- The state after `make_shared_queue_room` is the state its loop leaves. -/
theorem makeSharedQueueRoom_state (st : Stores Q S) (cost : Nat) (preferred : StoreKind κ) :
    (makeSharedQueueRoom B keySize set st cost preferred).1 = st ∨
      (makeSharedQueueRoom B keySize set st cost preferred).1 =
        ((budget B keySize set).makeRoom B.maxQueueBudget cost preferred
          (sharedItems set st + 1) st).1 := by
  unfold makeSharedQueueRoom
  split
  · exact .inl rfl
  · generalize (budget B keySize set).makeRoom B.maxQueueBudget cost preferred
      (sharedItems set st + 1) st = r
    obtain ⟨st', _ | _ | _⟩ := r
    · exact .inr rfl
    · exact .inr rfl
    · exact .inr rfl

/-- Room for anything else leaves the ids alone. -/
theorem makeSharedQueueRoom_recentRx (st : Stores Q S) (cost : Nat) {preferred : StoreKind κ}
    (hpreferred : preferred ≠ .recent) :
    (makeSharedQueueRoom B keySize set st cost preferred).1.2.recentRx = st.2.recentRx := by
  have hroom := @Budget.makeRoom_of_turns _ _ (budget B keySize set) B.maxQueueBudget cost
    (sharedItems set st + 1) preferred st (fun st st' => st'.2.recentRx = st.2.recentRx)
    (fun _ => rfl) (fun h h' => h'.trans h) fun {s s'} _ hone => by
      have hvictim : ((budget B keySize set).largest s).getD preferred ≠ .recent := by
        cases hlargest : (budget B keySize set).largest s with
        | none => exact hpreferred
        | some kind => exact largest_ne_recent hlargest
      unfold Budget.popOne at hone
      split at hone
      · rename_i s₁ hpop
        obtain rfl := Option.some.inj hone
        exact recentRx_of_pop hvictim hpop
      · exact recentRx_of_pop hpreferred hone
  rcases @makeSharedQueueRoom_state κ Q S B keySize set st cost preferred with heq | heq
  · rw [heq]
  · rw [heq]
    exact hroom

/-- So does room for an id: an overfull state has another store to take from. -/
theorem makeSharedQueueRoom_recentRx_of_budgeted (hb : Budgeted B set st)
    (hbudget : 0 < B.maxQueueBudget) :
    (makeSharedQueueRoom B keySize set st 0 .recent).1.2.recentRx = st.2.recentRx := by
  have hroom := @Budget.makeRoom_of_turns _ _ (budget B keySize set) B.maxQueueBudget 0
    (sharedItems set st + 1) .recent st
    (fun st st' => Budgeted B set st → Budgeted B set st' ∧ st'.2.recentRx = st.2.recentRx)
    (fun _ hs => ⟨hs, rfl⟩)
    (fun h h' hs => ⟨(h' (h hs).1).1, (h' (h hs).1).2.trans (h hs).2⟩) fun {s s'} hover hone hs => by
      have hreserve := hs.reserve_le hbudget
      obtain ⟨kind, s₁, hlargest, hpop, hone'⟩ :=
        popOne_of_used keySize hs (Nat.lt_of_le_of_lt hreserve hover) .recent
      obtain rfl := Option.some.inj (hone.symm.trans hone')
      exact ⟨(evicts_of_pop (accounted_popRelation set) hpop).budgeted hs,
        recentRx_of_pop (largest_ne_recent hlargest) hpop⟩
  rcases @makeSharedQueueRoom_state κ Q S B keySize set st 0 .recent with heq | heq
  · rw [heq]
  · rw [heq]
    exact (hroom hb).2

/-- Recording a new id is one step of the window. -/
theorem pushRecentRx_spec (hb : Budgeted B set st) (hrecent : RecentKept B st.2.recentRx)
    (hids : B.maxRecentRxIds ≠ 0) (hbudget : B.maxRecentRxIds * 8 ≤ B.maxQueueBudget)
    {id : UInt64} (hnew : id ∉ st.2.recentRx.q) :
    (pushRecentRx B keySize set st id).2 = .ok () ∧
      (pushRecentRx B keySize set st id).1.2.recentRx.q =
        Window.note B.maxRecentRxIds st.2.recentRx.q id ∧
      RecentKept B (pushRecentRx B keySize set st id).1.2.recentRx := by
  have htrimmed := (trimRecent_evicts B (accounted_popRelation set) st).budgeted hb
  have hroom := makeSharedQueueRoom_zero keySize htrimmed (by omega) .recent
  have hsame := @makeSharedQueueRoom_recentRx_of_budgeted κ Q S B keySize set (trimRecent B st)
    htrimmed (by omega)
  have hnote := hrecent.note hids hbudget hnew
  unfold pushRecentRx
  rw [if_neg hids]
  generalize makeSharedQueueRoom B keySize set (trimRecent B st) 0 .recent = r at hroom hsame
  obtain ⟨st', _ | ⟨⟨⟩⟩⟩ := r
  · cases hroom
  · dsimp only at hsame ⊢
    rw [hsame]
    exact hnote

/-- Recording an id succeeds exactly in a build that holds one. -/
theorem pushRecentRx_eq_ok_iff (hb : Budgeted B set st) (id : UInt64) :
    (pushRecentRx B keySize set st id).2 = .ok () ↔ B.RecordsIds := by
  constructor
  · intro h
    have htrimmed := (trimRecent_evicts B (accounted_popRelation set) st).budgeted hb
    have hevicts := makeSharedQueueRoom_evicts B keySize (accounted_popRelation set)
      (trimRecent B st) 0 .recent
    unfold pushRecentRx at h
    split at h
    · cases h
    · rename_i hids
      refine ⟨hids, ?_⟩
      generalize makeSharedQueueRoom B keySize set (trimRecent B st) 0 .recent = r at h hevicts
      obtain ⟨st', _ | ⟨⟨⟩⟩⟩ := r
      · cases h
      · have hmax := (hevicts.budgeted htrimmed).recentMax
        dsimp only [BoundedDeque.pushBack] at hmax h
        rw [hmax, idCost, Build.recentRxQueueBytes] at h
        split at h
        · cases h
        · omega
  · rintro ⟨hids, hbudget⟩
    exact pushRecentRx_eq_ok keySize hb hids hbudget id

theorem recentRx_sublist_of_pop {kind : StoreKind κ} (h : popSharedQueueItem set st kind = some st') :
    st'.2.recentRx.q.Sublist st.2.recentRx.q := by
  by_cases hkind : kind = .recent
  · subst hkind
    obtain ⟨⟨id, rest⟩, hpop, rfl⟩ := Option.map_eq_some_iff.mp h
    rw [BoundedDeque.popFront_eq_some hpop]
    exact List.sublist_cons_self id rest.q
  · rw [recentRx_of_pop hkind h]

/-- Making room forgets ids at most. -/
theorem makeSharedQueueRoom_recentRx_sublist (st : Stores Q S) (cost : Nat) (preferred : StoreKind κ) :
    (makeSharedQueueRoom B keySize set st cost preferred).1.2.recentRx.q.Sublist
      st.2.recentRx.q := by
  have hroom := @Budget.makeRoom_of_turns _ _ (budget B keySize set) B.maxQueueBudget cost
    (sharedItems set st + 1) preferred st (fun st st' => st'.2.recentRx.q.Sublist st.2.recentRx.q)
    (fun _ => .refl _) (fun h h' => h'.trans h) fun {s s'} _ hone => by
      unfold Budget.popOne at hone
      split at hone
      · rename_i s₁ hpop
        obtain rfl := Option.some.inj hone
        exact recentRx_sublist_of_pop hpop
      · exact recentRx_sublist_of_pop hone
  rcases @makeSharedQueueRoom_state κ Q S B keySize set st cost preferred with heq | heq
  · rw [heq]
  · rw [heq]
    exact hroom

/-- Only a build that holds an id records one. -/
theorem mem_pushRecentRx (hb : Budgeted B set st) {id x : UInt64}
    (h : x ∈ (pushRecentRx B keySize set st id).1.2.recentRx.q) :
    x ∈ st.2.recentRx.q ∨ x = id ∧ B.RecordsIds := by
  have hok := @pushRecentRx_eq_ok_iff κ Q S B keySize set st hb id
  have htrim : (trimRecent B st).2.recentRx.q.Sublist st.2.recentRx.q := by
    simp only [trimRecent, BoundedDeque.iterate_dropFront_q]
    exact List.drop_sublist _ _
  have hroom := (@makeSharedQueueRoom_recentRx_sublist κ Q S B keySize set (trimRecent B st) 0
    .recent).trans htrim
  unfold pushRecentRx at h hok
  split at h
  · exact .inl h
  · rename_i hids
    rw [if_neg hids] at hok
    generalize makeSharedQueueRoom B keySize set (trimRecent B st) 0 .recent = r at h hok hroom
    obtain ⟨st', e | ⟨⟨⟩⟩⟩ := r
    · exact .inl (hroom.subset h)
    · dsimp only at h hok hroom
      by_cases hfits : idCost id ≤ st'.2.recentRx.maxBytes
      · rcases BoundedDeque.mem_pushBack h with hold | rfl
        · exact .inl (hroom.subset hold)
        · exact .inr ⟨rfl, hok.mp (BoundedDeque.pushBack_eq_ok hfits)⟩
      · rw [BoundedDeque.pushBack, if_pos (Nat.not_le.mp hfits)] at h
        exact .inl (hroom.subset h)

section Moves
variable {bank : QueueBank set}

/-- No move touches the ids. -/
theorem Move.recentRx_eq (h : Move B keySize bank st st') : st'.2.recentRx = st.2.recentRx := by
  cases h with
  | other queues recentRx reliableRx discoveryRoutes => exact recentRx
  | push k item =>
    rw [push_shared]
    exact makeSharedQueueRoom_recentRx st _ (by simp)
  | lose k hlose => rfl
  | accept key seq bytes =>
    unfold acceptOrdered
    generalize (st.2.reliableRx.at key).arrive seq bytes = r
    obtain ⟨rx, _ | ⟨partialAck, request⟩ | _⟩ := r
    · rfl
    · dsimp only
      unfold bufferReliableRx
      split
      · rfl
      · have hroom := @makeSharedQueueRoom_recentRx κ Q S B keySize set
          (st.1, { st.2 with reliableRx := st.2.reliableRx.insert key rx })
          (B.arcSize + bytes.length) .reliableRxBuffer (by simp)
        generalize makeSharedQueueRoom B keySize set
          (st.1, { st.2 with reliableRx := st.2.reliableRx.insert key rx })
          (B.arcSize + bytes.length) .reliableRxBuffer = r at hroom
        obtain ⟨st', _ | ⟨⟨⟩⟩⟩ := r
        · exact hroom
        · exact hroom
    · rfl
  | dropStreams keep => rfl
  | learn hlearn =>
    rename_i routes
    obtain ⟨rest, heq, -⟩ := @fitDiscoveryLoop_cases κ Q S set B keySize routes.size
      (st.1, { st.2 with discoveryRoutes := routes })
    rw [fitDiscoveryBudget, heq]
  | prune now => rfl
  | fit =>
    obtain ⟨rest, heq, -⟩ := @fitDiscoveryLoop_cases κ Q S set B keySize
      st.2.discoveryRoutes.size st
    rw [fitDiscoveryBudget, heq]
  | dropRoute side => rfl

theorem Move.recentRx_of_moves (h : Relation.ReflTransGen (Move B keySize bank) st st') :
    st'.2.recentRx = st.2.recentRx := by
  induction h with
  | refl => rfl
  | tail _ hmove ih => exact hmove.recentRx_eq.trans ih

end Moves
end Stores
end Sedsprintf
