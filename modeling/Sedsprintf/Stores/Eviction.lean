import Sedsprintf.Stores.Recent

/-!
# What making room takes

A push pays for its room with items of other stores and of its own queue, from the
front, before the queue itself decides by priority from the back. `spared` is where
the room loop stands when it first looks at the pushed queue.
-/
namespace Sedsprintf

open Lib

/-- `v` went in, and what left for it is of no higher priority. -/
def RespectsPriority {α : Type} (priorityOf : α → UInt8) (v : α) (before after : List α) : Prop :=
  ∃ removed kept, before.Perm (removed ++ kept) ∧ after.Perm (v :: kept) ∧
    ∀ w ∈ removed, priorityOf w ≤ priorityOf v

namespace RespectsPriority
variable {α : Type} {priorityOf : α → UInt8} {v : α} {before after kept : List α}

theorem of_sublist (hafter : after.Perm (v :: kept)) (hsub : kept.Sublist before)
    (hlow : ∀ w ∈ before, priorityOf w ≤ priorityOf v) :
    RespectsPriority priorityOf v before after := by
  obtain ⟨removed, hperm⟩ := hsub.exists_perm_append
  refine ⟨removed, kept, hperm.trans List.perm_append_comm, hafter, fun w hw => hlow w ?_⟩
  exact hperm.mem_iff.mpr (List.mem_append_right _ hw)

/-- What is of higher priority than `v` is there before and after. -/
theorem countP_eq (h : RespectsPriority priorityOf v before after) :
    after.countP (fun w => priorityOf v < priorityOf w) =
      before.countP fun w => priorityOf v < priorityOf w := by
  obtain ⟨removed, kept, hbefore, hafter, hlow⟩ := h
  have hremoved : removed.countP (fun w => priorityOf v < priorityOf w) = 0 := by
    rw [List.countP_eq_zero]
    intro w hw
    simpa using hlow w hw
  rw [hafter.countP_eq, hbefore.countP_eq, List.countP_append, hremoved,
    List.countP_cons_of_neg (by simp), Nat.zero_add]

end RespectsPriority

namespace Stores
variable {κ Q : Type} {S : Schema} {B : Build} {keySize : Nat} {set : QueueSet κ Q}
  {st st' : Stores Q S} {cost : Nat} {preferred : StoreKind κ}

/-- The five stores are as they were. -/
structure Same (st st' : Stores Q S) : Prop where
  queues : st'.1 = st.1
  recentRx : st'.2.recentRx = st.2.recentRx
  reliableRx : st'.2.reliableRx = st.2.reliableRx
  discoveryRoutes : st'.2.discoveryRoutes = st.2.discoveryRoutes

theorem Same.refl (st : Stores Q S) : Same st st := ⟨rfl, rfl, rfl, rfl⟩

theorem Same.sharedItems_eq (h : Same st st') : sharedItems set st' = sharedItems set st := by
  rw [sharedItems, sharedItems, h.queues, h.recentRx, h.reliableRx, h.discoveryRoutes]

theorem reserve_le_used (st : Stores Q S) :
    st.2.recentRx.maxBytes ≤ sharedQueueBytesUsed B keySize set st := by
  unfold sharedQueueBytesUsed
  omega

/-- A turn of the room loop finds nothing exactly when only the reservation is in use and
the preferred store is empty. -/
theorem popOne_eq_none_iff (hb : Budgeted B set st) :
    (budget B keySize set).popOne preferred st = none ↔
      sharedQueueBytesUsed B keySize set st = st.2.recentRx.maxBytes ∧
        popSharedQueueItem set st preferred = none := by
  have hreserve := @reserve_le_used κ Q S B keySize set st
  constructor
  · intro hnone
    constructor
    · by_contra hne
      obtain ⟨_, _, -, -, hone⟩ := popOne_of_used keySize hb (by omega) preferred
      rw [hnone] at hone
      cases hone
    · unfold Budget.popOne at hnone
      split at hnone
      · cases hnone
      · exact hnone
  · rintro ⟨hused, hpop⟩
    cases hlargest : (budget B keySize set).largest st with
    | none =>
      have hpop' : (budget B keySize set).pop preferred st = none := hpop
      simp only [Budget.popOne, hlargest, Option.getD_none, hpop']
    | some kind =>
      -- a largest store has bytes, and they would count
      exfalso
      obtain ⟨top, hmem, -, hbytes, -⟩ := Budget.largest_eq_some hlargest
      unfold sharedQueueBytesUsed at hused
      simp only [budget, List.mem_append, List.mem_map, List.mem_cons, List.not_mem_nil,
        or_false] at hmem
      rcases hmem with ⟨k, hk, rfl⟩ | rfl | rfl | rfl
      · have hsum : (set.kinds.map (set.bytes st.1)).sum = 0 := by omega
        rw [List.sum_eq_zero_iff_forall_eq_nat] at hsum
        have := hsum _ (List.mem_map.mpr ⟨k, hk, rfl⟩)
        dsimp only at hbytes
        omega
      · cases hbytes
      · dsimp only at hbytes
        omega
      · dsimp only at hbytes
        omega

/-- Room is made exactly for what fits beside the reservation. -/
theorem makeSharedQueueRoom_ok_iff [DecidableEq κ] (bank : QueueBank set) (hb : Budgeted B set st) :
    (makeSharedQueueRoom B keySize set st cost preferred).2 = .ok () ↔
      st.2.recentRx.maxBytes + cost ≤ B.maxQueueBudget := by
  constructor
  · intro hok
    have hused := (makeSharedQueueRoom_used bank st cost preferred).2 hok
    have hmax := (makeSharedQueueRoom_evicts B keySize (accounted_popRelation set) st cost
      preferred).recentMax
    have hreserve := @reserve_le_used κ Q S B keySize set
      (makeSharedQueueRoom B keySize set st cost preferred).1
    omega
  · intro hfits
    exact makeSharedQueueRoom_of_fits keySize hb hfits preferred

/-- A refusal is an `Err`. -/
theorem makeSharedQueueRoom_error (e : Stop)
    (h : (makeSharedQueueRoom B keySize set st cost preferred).2 = .error e) :
    ∃ e', (.error e : Outcome Unit) = fail e' := by
  unfold makeSharedQueueRoom at h
  split at h
  · exact ⟨_, h.symm⟩
  · split at h
    · cases h
    · exact ⟨_, h.symm⟩

/-- Making room leaves the stores alone exactly when it is refused at once, is not needed,
or finds nothing to take. -/
theorem makeSharedQueueRoom_same_iff (hb : Budgeted B set st) :
    Same st (makeSharedQueueRoom B keySize set st cost preferred).1 ↔
      B.maxQueueBudget < cost ∨ sharedQueueBytesUsed B keySize set st + cost ≤ B.maxQueueBudget ∨
        (sharedQueueBytesUsed B keySize set st = st.2.recentRx.maxBytes ∧
          popSharedQueueItem set st preferred = none) := by
  rw [← @popOne_eq_none_iff κ Q S B keySize set st preferred hb]
  have hused : (budget B keySize set).used st = sharedQueueBytesUsed B keySize set st := rfl
  by_cases hlarge : B.maxQueueBudget < cost
  · rw [makeSharedQueueRoom, if_pos hlarge]
    exact iff_of_true (.refl st) (.inl hlarge)
  · have hroom : (makeSharedQueueRoom B keySize set st cost preferred).1 =
        ((budget B keySize set).makeRoom B.maxQueueBudget cost preferred
          (sharedItems set st + 1) st).1 := by
      rw [makeSharedQueueRoom, if_neg hlarge]
      generalize (budget B keySize set).makeRoom B.maxQueueBudget cost preferred
        (sharedItems set st + 1) st = r
      obtain ⟨st', _ | _ | _⟩ := r
      · rfl
      · rfl
      · rfl
    rw [hroom]
    by_cases hfits : sharedQueueBytesUsed B keySize set st + cost ≤ B.maxQueueBudget
    · rw [Budget.makeRoom_of_fits hfits]
      exact iff_of_true (.refl st) (.inr (.inl hfits))
    · have hover : B.maxQueueBudget < (budget B keySize set).used st + cost := by omega
      cases hone : (budget B keySize set).popOne preferred st with
      | none =>
        rw [Budget.makeRoom_of_stuck hover hone]
        exact iff_of_true (.refl st) (.inr (.inr rfl))
      | some one =>
        have hless := @Budget.makeRoom_items_lt _ _ (budget B keySize set) B.maxQueueBudget cost
          (sharedItems set st) preferred st one (sharedItems set) items_of_pop hover hone
        refine iff_of_false (fun hsame => ?_) ?_
        · rw [hsame.sharedItems_eq] at hless
          omega
        · rintro (h | h | h)
          · exact hlarge h
          · exact hfits h
          · cases h

section Pushes
variable [DecidableEq κ] {bank : QueueBank set} {k : κ} {item : bank.Item k}

/-- The stores other than `x` cut down, largest first, as long as one of them is the
largest store of all. -/
def spared (B : Build) (keySize : Nat) (set : QueueSet κ Q) (x : StoreKind κ) (st : Stores Q S) :
    Stores Q S :=
  (budget B keySize set).cutDown x (sharedItems set st + 1) st

omit [DecidableEq κ] in
/-- Taking from another store leaves a queue alone. -/
theorem get_of_pop {kind : StoreKind κ} (bank : QueueBank set) (hkind : kind ≠ .queue k)
    (h : popSharedQueueItem set st kind = some st') : bank.get st'.1 k = bank.get st.1 k := by
  cases kind with
  | queue k' =>
    obtain ⟨q', hpop, rfl⟩ := Option.map_eq_some_iff.mp h
    obtain ⟨v, d, -, rfl⟩ := bank.pop_eq_some hpop
    exact bank.get_put_of_ne st.1 d fun heq => hkind (by rw [heq])
  | recent =>
    obtain ⟨popped, -, rfl⟩ := Option.map_eq_some_iff.mp h
    rfl
  | reliableRxBuffer =>
    obtain ⟨streams, -, rfl⟩ := Option.map_eq_some_iff.mp h
    rfl
  | discovery =>
    obtain ⟨routes, -, rfl⟩ := Option.map_eq_some_iff.mp h
    rfl

omit [DecidableEq κ] in
theorem popSharedQueueItem_queue_eq_none_iff (bank : QueueBank set) :
    popSharedQueueItem set st (.queue k) = none ↔ (bank.get st.1 k).q = [] := by
  rw [popSharedQueueItem, Option.map_eq_none_iff, bank.pop_eq, Option.map_eq_none_iff]
  unfold BoundedDeque.popFront
  cases (bank.get st.1 k).q <;> simp

theorem get_spared (bank : QueueBank set) (k : κ) (st : Stores Q S) :
    bank.get (spared B keySize set (.queue k) st).1 k = bank.get st.1 k :=
  Budget.cutDown_relation (fun st st' : Stores Q S => bank.get st'.1 k = bank.get st.1 k)
    (fun _ => rfl) (fun h h' => h'.trans h) fun hne hpop => get_of_pop bank hne hpop

/-- A queue that the others can pay for is not touched. -/
theorem get_of_spared (bank : QueueBank set)
    (hfits : sharedQueueBytesUsed B keySize set (spared B keySize set (.queue k) st) + cost ≤
      B.maxQueueBudget) :
    bank.get (makeSharedQueueRoom B keySize set st cost (.queue k)).1.1 k = bank.get st.1 k := by
  have hroom := (@Budget.makeRoom_spares _ _ (budget B keySize set) B.maxQueueBudget cost
    (sharedItems set st + 1) st _ (.queue k) (fun st st' => bank.get st'.1 k = bank.get st.1 k)
    (fun _ => rfl) (fun h h' => h'.trans h) (fun hne hpop => get_of_pop bank hne hpop) hfits).1
  rcases @makeSharedQueueRoom_state κ Q S B keySize set st cost (.queue k) with heq | heq
  · rw [heq]
  · rw [heq]
    exact hroom

/-- A queue only loses items. -/
theorem loses_popRelation (bank : QueueBank set) (k : κ) :
    PopRelation set fun q q' => (bank.get q k).Loses (bank.cost k) (bank.get q' k) :=
  bank.popRelation k (fun d d' => d.Loses (bank.cost k) d') .refl .trans .popFront

/-- And one that they cannot pay for loses its front. -/
theorem get_of_reached (bank : QueueBank set)
    (hover : B.maxQueueBudget <
      sharedQueueBytesUsed B keySize set (spared B keySize set (.queue k) st) + cost)
    (hok : (makeSharedQueueRoom B keySize set st cost (.queue k)).2 = .ok ()) :
    ∃ front rest, (bank.get st.1 k).q = front :: rest ∧
      (bank.get (makeSharedQueueRoom B keySize set st cost (.queue k)).1.1 k).q.Sublist rest := by
  have hcost : ¬B.maxQueueBudget < cost := by
    intro hlarge
    rw [makeSharedQueueRoom, if_pos hlarge] at hok
    exact absurd hok (fail_ne_ok _ _)
  have htakes := @Budget.makeRoom_takes _ _ (budget B keySize set) B.maxQueueBudget cost
    (sharedItems set st + 1) st _ (.queue k) (sharedItems set) items_of_pop
    (fun h => used_of_pop bank h) (Nat.lt_succ_self _) hover
  have hsame := @get_spared κ Q S B keySize set _ bank k st
  unfold spared at hsame
  unfold makeSharedQueueRoom at hok ⊢
  rw [if_neg hcost] at hok ⊢
  rcases htakes with ⟨fuel, st₁, hpop, heq⟩ | hrefused
  · obtain ⟨q', hq, rfl⟩ := Option.map_eq_some_iff.mp hpop
    obtain ⟨front, d, hd, rfl⟩ := bank.pop_eq_some hq
    have hfront := BoundedDeque.popFront_eq_some hd
    rw [hsame] at hfront
    refine ⟨front, d.q, hfront, ?_⟩
    have hrest := @Budget.makeRoom_relation _ _ (budget B keySize set) B.maxQueueBudget cost fuel
      (.queue k) (bank.put ((budget B keySize set).cutDown (.queue k) (sharedItems set st + 1) st).1
        k d, ((budget B keySize set).cutDown (.queue k) (sharedItems set st + 1) st).2)
      (fun st st' => (bank.get st.1 k).Loses (bank.cost k) (bank.get st'.1 k)) (fun _ => .refl _)
      (fun h h' => h.trans h') fun hpop' => (evicts_of_pop (loses_popRelation bank k) hpop').queues
    rw [bank.get_put] at hrest
    rw [heq]
    generalize (budget B keySize set).makeRoom B.maxQueueBudget cost (.queue k) fuel _ = r at hrest
    obtain ⟨st₂, _ | _ | _⟩ := r
    · exact hrest.sublist
    · exact hrest.sublist
    · exact hrest.sublist
  · generalize (budget B keySize set).makeRoom B.maxQueueBudget cost (.queue k)
      (sharedItems set st + 1) st = r at hok hrefused
    obtain ⟨st₂, result⟩ := r
    dsimp only at hrefused
    subst hrefused
    exact absurd hok (fail_ne_ok _ _)

/-- After room was made, the bytes of the item fit its queue. -/
theorem fits_of_room (hkept : Kept B keySize bank st)
    (hok : (makeSharedQueueRoom B keySize set st (bank.cost k item) (.queue k)).2 = .ok ()) :
    let room := makeSharedQueueRoom B keySize set st (bank.cost k item) (.queue k)
    (bank.get room.1.1 k).curBytes + bank.cost k item ≤ (bank.get room.1.1 k).maxBytes := by
  intro room
  have hused := (makeSharedQueueRoom_used bank st (bank.cost k item) (.queue k)).2 hok
  have hmax := (hkept.makeSharedQueueRoom (bank.cost k item) (.queue k)).maxBytes k
  have hqueue : (bank.get room.1.1 k).curBytes ≤ sharedQueueBytesUsed B keySize set room.1 := by
    have hmem : (bank.get room.1.1 k).curBytes ∈ set.kinds.map (set.bytes room.1.1) :=
      List.mem_map.mpr ⟨k, bank.mem_kinds k, bank.bytes_eq _ k⟩
    have hle := List.single_le_sum (fun n _ => Nat.zero_le n) _ hmem
    unfold sharedQueueBytesUsed
    omega
  change (bank.get room.1.1 k).maxBytes = B.maxQueueBudget at hmax
  change sharedQueueBytesUsed B keySize set room.1 + _ ≤ _ at hused
  omega

/-- A push that was refused room, or was made room for and then judged by its queue. -/
theorem push_cases (hkept : Kept B keySize bank st) (k : κ) (item : bank.Item k) :
    let room := makeSharedQueueRoom B keySize set st (bank.cost k item) (.queue k)
    (∃ e, room.2 = fail e ∧ push B keySize bank st k item = (room.1, fail e)) ∨
    (room.2 = .ok () ∧ (bank.get room.1.1 k).Saturated (bank.priorityOf k) (bank.priorityOf k item) ∧
      push B keySize bank st k item = (room.1, fail (.io "priority queue saturated"))) ∨
    (room.2 = .ok () ∧
      ¬(bank.get room.1.1 k).Saturated (bank.priorityOf k) (bank.priorityOf k item) ∧
      (push B keySize bank st k item).2 = .ok () ∧
      (bank.get (push B keySize bank st k item).1.1 k).q.Perm
        (item :: (bank.get room.1.1 k).capped)) := by
  intro room
  have hkept' : Kept B keySize bank room.1 := hkept.makeSharedQueueRoom _ _
  have hfits := @fits_of_room κ Q S B keySize set st _ bank k item hkept
  have hroom : makeSharedQueueRoom B keySize set st (bank.cost k item) (.queue k) = room := rfl
  have herror := @makeSharedQueueRoom_error κ Q S B keySize set st (bank.cost k item) (.queue k)
  unfold push
  dsimp only at hfits
  rw [hroom] at hfits herror ⊢
  clear hroom
  generalize room = r at hkept' hfits herror
  obtain ⟨st₁, e | ⟨⟨⟩⟩⟩ := r
  · obtain ⟨e', he⟩ := herror e rfl
    obtain rfl := Except.error.inj he
    exact .inl ⟨e', rfl, rfl⟩
  · dsimp only at hkept' hfits ⊢
    by_cases hfull : (bank.get st₁.1 k).Saturated (bank.priorityOf k) (bank.priorityOf k item)
    · refine .inr (.inl ⟨rfl, hfull, ?_⟩)
      rw [BoundedDeque.pushBackPrioritized_saturated (hfits rfl) hfull, bank.put_get]
    · obtain ⟨hok, hperm⟩ :=
        BoundedDeque.pushBackPrioritized_of_fits (hkept'.orderly k) (hfits rfl) hfull
      refine .inr (.inr ⟨rfl, hfull, hok, ?_⟩)
      rw [bank.get_put]
      exact hperm

/-- A queue that is full after room was made did not give any. -/
theorem spared_of_saturated (hkept : Kept B keySize bank st) {newPriority : UInt8}
    (hok : (makeSharedQueueRoom B keySize set st cost (.queue k)).2 = .ok ())
    (hfull : (bank.get (makeSharedQueueRoom B keySize set st cost (.queue k)).1.1 k).Saturated
      (bank.priorityOf k) newPriority) :
    sharedQueueBytesUsed B keySize set (spared B keySize set (.queue k) st) + cost ≤
      B.maxQueueBudget := by
  by_contra hover
  obtain ⟨front, rest, hq, hsub⟩ := get_of_reached bank (Nat.not_le.mp hover) hok
  have hcap := (makeSharedQueueRoom_evicts B keySize (loses_popRelation bank k) st cost
    (.queue k)).queues.maxElems
  have hlen := (hkept.orderly k).length_le
  have hshort := hsub.length_le
  have hlong := hfull.1
  rw [hq, List.length_cons] at hlen
  omega

theorem push_result (hkept : Kept B keySize bank st) (k : κ) (item : bank.Item k) :
    (push B keySize bank st k item).2 = .ok () ∨
      ∃ e, (push B keySize bank st k item).2 = fail e := by
  rcases push_cases hkept k item with ⟨e, -, hpush⟩ | ⟨-, -, hpush⟩ | ⟨-, -, hok, -⟩
  · exact .inr ⟨e, congrArg Prod.snd hpush⟩
  · exact .inr ⟨_, congrArg Prod.snd hpush⟩
  · exact .inl hok

/-- An item goes in exactly when it fits beside the reservation and its queue is not full of
higher priorities that the other stores pay for. -/
theorem push_ok_iff (hkept : Kept B keySize bank st) (k : κ) (item : bank.Item k) :
    (push B keySize bank st k item).2 = .ok () ↔
      st.2.recentRx.maxBytes + bank.cost k item ≤ B.maxQueueBudget ∧
        ¬((bank.get st.1 k).Saturated (bank.priorityOf k) (bank.priorityOf k item) ∧
          sharedQueueBytesUsed B keySize set (spared B keySize set (.queue k) st) +
            bank.cost k item ≤ B.maxQueueBudget) := by
  have hmade := @makeSharedQueueRoom_ok_iff κ Q S B keySize set st (bank.cost k item) (.queue k) _
    bank hkept.toBudgeted
  rcases push_cases hkept k item with ⟨e, hroom, hpush⟩ | ⟨hroom, hfull, hpush⟩ |
    ⟨hroom, hfull, hok, -⟩
  · rw [hpush, ← hmade, hroom]
    exact iff_of_false (fail_ne_ok _ _) fun h => fail_ne_ok _ _ h.1
  · -- room was made and the element cap refuses: then the queue was not touched
    have hspared := spared_of_saturated hkept hroom hfull
    rw [get_of_spared bank hspared] at hfull
    rw [hpush]
    exact iff_of_false (fail_ne_ok _ _) fun h => h.2 ⟨hfull, hspared⟩
  · refine iff_of_true hok ⟨hmade.mp hroom, ?_⟩
    rintro ⟨hbefore, hspared⟩
    rw [get_of_spared bank hspared] at hfull
    exact hfull hbefore

/-- It joins what is left of its queue. -/
theorem push_perm (hkept : Kept B keySize bank st) {item : bank.Item k}
    (hok : (push B keySize bank st k item).2 = .ok ()) :
    ∃ kept, kept.Sublist (bank.get st.1 k).q ∧
      (bank.get (push B keySize bank st k item).1.1 k).q.Perm (item :: kept) := by
  rcases push_cases hkept k item with ⟨e, -, hpush⟩ | ⟨-, -, hpush⟩ | ⟨-, hfull, -, hperm⟩
  · rw [hpush] at hok
    exact absurd hok (fail_ne_ok _ _)
  · rw [hpush] at hok
    exact absurd hok (fail_ne_ok _ _)
  · obtain ⟨dropped, hq, -⟩ :=
      BoundedDeque.capped_append ((hkept.makeSharedQueueRoom _ _).orderly k) hfull
    have hloses := (makeSharedQueueRoom_evicts B keySize (loses_popRelation bank k) st
      (bank.cost k item) (.queue k)).queues.sublist
    rw [hq] at hloses
    exact ⟨_, (List.sublist_append_left _ _).trans hloses, hperm⟩

/-- Nothing is taken for the item where the push is refused: it is larger than the budget,
fits at once, finds nothing to take, or fits beside the reservation and its queue is not
full of higher priorities that the other stores pay for. -/
def RejectsSafely (B : Build) (keySize : Nat) (bank : QueueBank set) (k : κ) (item : bank.Item k)
    (st : Stores Q S) : Prop :=
  B.maxQueueBudget < bank.cost k item ∨
  sharedQueueBytesUsed B keySize set st + bank.cost k item ≤ B.maxQueueBudget ∨
  (sharedQueueBytesUsed B keySize set st = st.2.recentRx.maxBytes ∧ (bank.get st.1 k).q = []) ∨
  (st.2.recentRx.maxBytes + bank.cost k item ≤ B.maxQueueBudget ∧
    ¬((bank.get st.1 k).Saturated (bank.priorityOf k) (bank.priorityOf k item) ∧
      sharedQueueBytesUsed B keySize set (spared B keySize set (.queue k) st) +
        bank.cost k item ≤ B.maxQueueBudget))

theorem push_same_iff (hkept : Kept B keySize bank st) (k : κ) (item : bank.Item k) :
    ((∃ e, (push B keySize bank st k item).2 = fail e) →
        Same st (push B keySize bank st k item).1) ↔
      RejectsSafely B keySize bank k item st := by
  unfold RejectsSafely
  have hsame := @makeSharedQueueRoom_same_iff κ Q S B keySize set st (bank.cost k item) (.queue k)
    hkept.toBudgeted
  rw [popSharedQueueItem_queue_eq_none_iff bank] at hsame
  rw [← push_ok_iff hkept]
  -- a refused push leaves what making room left
  have hrefused : ∀ e, (push B keySize bank st k item).2 = fail e →
      (push B keySize bank st k item).1 =
        (makeSharedQueueRoom B keySize set st (bank.cost k item) (.queue k)).1 := by
    intro e herr
    rcases push_cases hkept k item with ⟨e', -, hpush⟩ | ⟨-, -, hpush⟩ | ⟨-, -, hok, -⟩
    · rw [hpush]
    · rw [hpush]
    · exact absurd (herr.symm.trans hok) (fail_ne_ok _ _)
  constructor
  · intro h
    rcases push_result hkept k item with hok | ⟨e, herr⟩
    · exact .inr (.inr (.inr hok))
    · have hroom := h ⟨e, herr⟩
      rw [hrefused e herr, hsame] at hroom
      rcases hroom with hlarge | hnow | hempty
      · exact .inl hlarge
      · exact .inr (.inl hnow)
      · exact .inr (.inr (.inl hempty))
  · rintro h ⟨e, herr⟩
    rw [hrefused e herr, hsame]
    rcases h with hlarge | hnow | hempty | hok
    · exact .inl hlarge
    · exact .inr (.inl hnow)
    · exact .inr (.inr hempty)
    · exact absurd (herr.symm.trans hok) (fail_ne_ok _ _)

/-- A push that returns `Ok` respects priorities exactly when nothing queued is of higher
priority or the other stores pay for its room. -/
theorem push_respects_iff (hkept : Kept B keySize bank st) {item : bank.Item k}
    (hok : (push B keySize bank st k item).2 = .ok ()) :
    RespectsPriority (bank.priorityOf k) item (bank.get st.1 k).q
        (bank.get (push B keySize bank st k item).1.1 k).q ↔
      (∀ w ∈ (bank.get st.1 k).q, bank.priorityOf k w ≤ bank.priorityOf k item) ∨
      sharedQueueBytesUsed B keySize set (spared B keySize set (.queue k) st) + bank.cost k item ≤
        B.maxQueueBudget := by
  rcases push_cases hkept k item with ⟨e, -, hpush⟩ | ⟨-, -, hpush⟩ | ⟨hroom, hfull, -, hperm⟩
  · rw [hpush] at hok
    exact absurd hok (fail_ne_ok _ _)
  · rw [hpush] at hok
    exact absurd hok (fail_ne_ok _ _)
  · obtain ⟨dropped, hq, hlow⟩ :=
      BoundedDeque.capped_append ((hkept.makeSharedQueueRoom _ _).orderly k) hfull
    generalize (bank.get (makeSharedQueueRoom B keySize set st (bank.cost k item)
      (.queue k)).1.1 k).capped = kept at hq hperm
    constructor
    · intro hrespects
      by_contra hnot
      rw [not_or] at hnot
      obtain ⟨hhigh, hover⟩ := hnot
      obtain ⟨front, rest, hfront, hsub⟩ := get_of_reached bank (Nat.not_le.mp hover) hroom
      -- the front is of the highest priority, and it is gone
      have hgone : bank.priorityOf k item < bank.priorityOf k front := by
        by_contra hle
        refine hhigh fun w hw => ?_
        have horder := (hkept.orderly k).descending
        rw [hfront] at hw horder
        rcases List.mem_cons.mp hw with rfl | hw
        · exact UInt8.not_lt.mp hle
        · exact UInt8.le_trans ((List.pairwise_cons.mp horder).1 w hw) (UInt8.not_lt.mp hle)
      have hcount := hrespects.countP_eq
      have hkeptSub : kept.Sublist rest := by
        rw [hq] at hsub
        exact (List.sublist_append_left _ _).trans hsub
      have hfewer := hkeptSub.countP_le (p := fun w =>
        decide (bank.priorityOf k item < bank.priorityOf k w))
      rw [hfront, hperm.countP_eq, List.countP_cons_of_neg (by simp),
        List.countP_cons_of_pos (by simpa using hgone)] at hcount
      omega
    · rintro (hall | hspared)
      · have hloses := (makeSharedQueueRoom_evicts B keySize (loses_popRelation bank k) st
          (bank.cost k item) (.queue k)).queues.sublist
        rw [hq] at hloses
        exact .of_sublist hperm ((List.sublist_append_left _ _).trans hloses) hall
      · rw [get_of_spared bank hspared] at hq
        exact ⟨dropped, kept, hq ▸ List.perm_append_comm, hperm, hlow⟩

end Pushes

/-- Nothing is taken for a frame that is refused: it is buffered already, larger than the
budget, fits beside the reservation, or finds nothing to take. -/
def BuffersSafely (B : Build) (keySize : Nat) (set : QueueSet κ Q) (key : StreamKey S)
    (seq : UInt32) (bytes : List UInt8) (st : Stores Q S) : Prop :=
  seq ∈ (st.2.reliableRx.at key).buffered ∨ B.maxQueueBudget < B.arcSize + bytes.length ∨
  st.2.recentRx.maxBytes + (B.arcSize + bytes.length) ≤ B.maxQueueBudget ∨
  sharedQueueBytesUsed B keySize set st = st.2.recentRx.maxBytes

theorem bufferReliableRx_same_iff [DecidableEq κ] (bank : QueueBank set)
    (hb : Budgeted B set st) (key : StreamKey S) (seq : UInt32) (bytes : List UInt8) :
    ((∃ e, (bufferReliableRx B keySize set st key seq bytes).2 = fail e) →
        Same st (bufferReliableRx B keySize set st key seq bytes).1) ↔
      BuffersSafely B keySize set key seq bytes st := by
  unfold BuffersSafely
  have hsame := @makeSharedQueueRoom_same_iff κ Q S B keySize set st (B.arcSize + bytes.length)
    .reliableRxBuffer hb
  have hmade := @makeSharedQueueRoom_ok_iff κ Q S B keySize set st (B.arcSize + bytes.length)
    .reliableRxBuffer _ bank hb
  have herror := @makeSharedQueueRoom_error κ Q S B keySize set st (B.arcSize + bytes.length)
    .reliableRxBuffer
  have hreserve := @reserve_le_used κ Q S B keySize set st
  have hnone : sharedQueueBytesUsed B keySize set st = st.2.recentRx.maxBytes →
      popSharedQueueItem set st .reliableRxBuffer = none := by
    intro hused
    rw [popSharedQueueItem, Option.map_eq_none_iff]
    by_contra hsome
    obtain ⟨streams, hpop⟩ := Option.ne_none_iff_exists'.mp hsome
    have hbytes := reliableRxBufferedBytes_pos_of_pop B hpop
    unfold sharedQueueBytesUsed at hused
    omega
  unfold bufferReliableRx
  by_cases hmem : seq ∈ (st.2.reliableRx.at key).buffered
  · rw [if_pos hmem]
    exact iff_of_true (fun _ => .refl st) (.inl hmem)
  · rw [if_neg hmem]
    generalize makeSharedQueueRoom B keySize set st (B.arcSize + bytes.length) .reliableRxBuffer = r
      at hsame hmade herror
    obtain ⟨st', e | ⟨⟨⟩⟩⟩ := r
    · obtain ⟨e', he⟩ := herror e rfl
      obtain rfl := Except.error.inj he
      have hnot : ¬st.2.recentRx.maxBytes + (B.arcSize + bytes.length) ≤ B.maxQueueBudget := by
        rw [← hmade]
        exact fail_ne_ok _ _
      dsimp only at hsame ⊢
      constructor
      · intro h
        rcases hsame.mp (h ⟨e', rfl⟩) with hlarge | hnow | ⟨hused, -⟩
        · exact .inr (.inl hlarge)
        · omega
        · exact .inr (.inr (.inr hused))
      · rintro (hin | hlarge | hfits | hused) -
        · exact absurd hin hmem
        · exact hsame.mpr (.inl hlarge)
        · exact absurd hfits hnot
        · exact hsame.mpr (.inr (.inr ⟨hused, hnone hused⟩))
    · refine iff_of_true ?_ (.inr (.inr (.inl (hmade.mp rfl))))
      rintro ⟨e, herr⟩
      cases herr

end Stores
end Sedsprintf
