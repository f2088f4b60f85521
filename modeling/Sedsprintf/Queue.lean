import Sedsprintf.Schema
import Mathlib.Data.List.InsertIdx
import Mathlib.Data.List.Sort
import Mathlib.Logic.Function.Iterate

/-!
# Bounded queues

src/queue.rs. Byte counts are natural numbers: the sums of the source
stay far below `usize::MAX` for every budget a board can hold, and its
`saturating_add`s never saturate there. A push that is refused keeps what it
has already evicted, so the operations return the queue next to their result.
-/
namespace Sedsprintf

/-- `cap` is `VecDeque::capacity`. -/
structure BoundedDeque (α : Type) where
  q : List α
  maxBytes : Nat
  curBytes : Nat
  maxElems : Nat
  cap : Nat
  growNum : Nat
  growDen : Nat

namespace BoundedDeque
variable {α : Type} (cost : α → Nat) (d : BoundedDeque α)

/-- `BoundedDeque::new` for items of `itemSize` bytes; `float_to_ratio` gives
`growNum / 1024`. -/
def new (maxBytes startingBytes itemSize growNum : Nat) : Outcome (BoundedDeque α) :=
  if maxBytes < startingBytes then panics "starting_bytes must be less than max_bytes"
  else if maxBytes = 0 then panics "max_bytes must be greater than 0"
  else
    let minCost := max itemSize 1
    let maxElems := max (maxBytes / minCost) 1
    .ok ⟨[], maxBytes, 0, maxElems, min (max (startingBytes / minCost) 1) maxElems, growNum, 1024⟩

def clear : BoundedDeque α := { d with q := [], curBytes := 0 }

def popFront : Option (α × BoundedDeque α) :=
  match d.q with
  | [] => none
  | v :: rest => some (v, { d with q := rest, curBytes := d.curBytes - cost v })

/-- `let _ = self.pop_front()`. -/
def dropFront : BoundedDeque α :=
  { d with q := d.q.tail, curBytes := d.curBytes - (d.q.head?.map cost).getD 0 }

/-- `let _ = self.pop_back()`. -/
def dropBack : BoundedDeque α :=
  { d with q := d.q.dropLast, curBytes := d.curBytes - (d.q.getLast?.map cost).getD 0 }

/-- `remove_pos` with its result dropped. -/
def removePos (idx : Nat) : BoundedDeque α :=
  { d with q := d.q.eraseIdx idx, curBytes := d.curBytes - (d.q[idx]?.map cost).getD 0 }

/-- `remove_value`: the first occurrence. -/
def removeValue [DecidableEq α] (needle : α) : BoundedDeque α :=
  if needle ∈ d.q then d.removePos cost (d.q.idxOf needle) else d

/-- The byte count after removing `vs` one by one. -/
def bytesWithout (cur : Nat) (vs : List α) : Nat := vs.foldl (fun cur v => cur - cost v) cur

def retain (keep : α → Bool) : BoundedDeque α :=
  { d with
    q := d.q.filter keep
    curBytes := bytesWithout cost d.curBytes (d.q.filter fun v => !keep v) }

/-- Growth is multiplicative, at least by one and at most to `max_elems`; a full
ring loses its front instead. -/
def ensureRoomForOne : BoundedDeque α :=
  if d.q.length < d.cap then d
  else if d.maxElems ≤ d.q.length then d.dropFront cost
  else if d.maxElems ≤ d.cap then d.dropFront cost
  else
    let target := min (max ((d.cap * d.growNum + (d.growDen - 1)) / d.growDen) (d.cap + 1)) d.maxElems
    if 0 < target - d.cap then { d with cap := d.q.length + (target - d.cap) }
    else d.dropFront cost

/-- The byte loop of `prepare_push_fifo`; `fuel` is the length. -/
def evictFront (incoming : Nat) : (fuel : Nat) → BoundedDeque α → BoundedDeque α
  | 0, d => d
  | fuel + 1, d =>
    if d.q ≠ [] ∧ d.maxBytes < d.curBytes + incoming then evictFront incoming fuel (d.dropFront cost)
    else d

def pushBack (v : α) : BoundedDeque α × Outcome Unit :=
  if d.maxBytes < cost v then (d, fail (.packetTooLarge "Item exceeds maximum byte budget"))
  else
    let d := evictFront cost (cost v) d.q.length d
    let d := if d.maxElems ≤ d.q.length then d.dropFront cost else d
    let d := d.ensureRoomForOne cost
    ({ d with q := d.q ++ [v], curBytes := d.curBytes + cost v }, .ok ())

/-- The byte loop of `push_back_prioritized`; `fuel` is the length. -/
def evictBack (priorityOf : α → UInt8) (incoming : Nat) (newPriority : UInt8) :
    (fuel : Nat) → BoundedDeque α → BoundedDeque α × Outcome Unit
  | 0, d => (d, .ok ())
  | fuel + 1, d =>
    if d.q ≠ [] ∧ d.maxBytes < d.curBytes + incoming then
      if newPriority < (d.q.getLast?.map priorityOf).getD 0 then
        (d, fail (.io "priority queue saturated"))
      else evictBack priorityOf incoming newPriority fuel (d.dropBack cost)
    else (d, .ok ())

/-- The element cap of `push_back_prioritized`. -/
def evictBackOne (priorityOf : α → UInt8) (newPriority : UInt8) :
    BoundedDeque α × Outcome Unit :=
  if d.maxElems ≤ d.q.length then
    if newPriority < (d.q.getLast?.map priorityOf).getD 0 then
      (d, fail (.io "priority queue saturated"))
    else (d.dropBack cost, .ok ())
  else (d, .ok ())

/-- Before the first queued item of lower priority, else at the end. -/
def insertPrioritized (priorityOf : α → UInt8) (v : α) : BoundedDeque α :=
  { d with
    q := d.q.insertIdx (d.q.findIdx fun existing => priorityOf existing < priorityOf v) v
    curBytes := d.curBytes + cost v }

def pushBackPrioritized (priorityOf : α → UInt8) (v : α) : BoundedDeque α × Outcome Unit :=
  if d.maxBytes < cost v then (d, fail (.packetTooLarge "Item exceeds maximum byte budget"))
  else
    match evictBack cost priorityOf (cost v) (priorityOf v) d.q.length d with
    | (d, .error e) => (d, .error e)
    | (d, .ok ()) =>
      match d.evictBackOne cost priorityOf (priorityOf v) with
      | (d, .error e) => (d, .error e)
      | (d, .ok ()) => ((d.ensureRoomForOne cost).insertPrioritized cost priorityOf v, .ok ())

section Contents
variable {cost} {d}

theorem popFront_eq_some {v : α} {d' : BoundedDeque α} (h : d.popFront cost = some (v, d')) :
    d.q = v :: d'.q := by
  unfold popFront at h
  split at h
  · cases h
  · rename_i head rest hq
    obtain ⟨rfl, rfl⟩ := Prod.mk.inj (Option.some.inj h)
    exact hq

theorem popFront_eq_none (h : d.popFront cost = none) : d.q = [] := by
  unfold popFront at h
  split at h
  · assumption
  · cases h

theorem popFront_isSome (cost : α → Nat) (h : 0 < d.q.length) :
    ∃ popped, d.popFront cost = some popped := by
  cases hpop : d.popFront cost with
  | none => simp [popFront_eq_none hpop] at h
  | some popped => exact ⟨popped, rfl⟩

theorem ensureRoomForOne_sublist : (d.ensureRoomForOne cost).q.Sublist d.q := by
  unfold ensureRoomForOne
  dsimp only
  split
  · exact .refl _
  · split
    · exact List.tail_sublist _
    · split
      · exact List.tail_sublist _
      · split
        · exact .refl _
        · exact List.tail_sublist _

theorem evictFront_sublist (incoming fuel : Nat) (d : BoundedDeque α) :
    (evictFront cost incoming fuel d).q.Sublist d.q := by
  induction fuel generalizing d with
  | zero => exact .refl _
  | succ fuel ih =>
    unfold evictFront
    split
    · exact (ih _).trans (List.tail_sublist _)
    · exact .refl _

theorem mem_pushBack {v x : α} (h : x ∈ (d.pushBack cost v).1.q) : x ∈ d.q ∨ x = v := by
  unfold pushBack at h
  split at h
  · exact .inl h
  · rcases List.mem_append.mp h with hold | hnew
    · have hkept := ensureRoomForOne_sublist.subset hold
      split at hkept
      · exact .inl ((evictFront_sublist _ _ d).subset (List.mem_of_mem_tail hkept))
      · exact .inl ((evictFront_sublist _ _ d).subset hkept)
    · exact .inr (List.mem_singleton.mp hnew)

theorem evictBack_sublist (priorityOf : α → UInt8) (incoming : Nat) (newPriority : UInt8)
    (fuel : Nat) (d : BoundedDeque α) :
    (evictBack cost priorityOf incoming newPriority fuel d).1.q.Sublist d.q := by
  induction fuel generalizing d with
  | zero => exact .refl _
  | succ fuel ih =>
    unfold evictBack
    split
    · split
      · exact .refl _
      · exact (ih _).trans (List.dropLast_sublist _)
    · exact .refl _

theorem evictBackOne_sublist (priorityOf : α → UInt8) (newPriority : UInt8) :
    (d.evictBackOne cost priorityOf newPriority).1.q.Sublist d.q := by
  unfold evictBackOne
  split
  · split
    · exact .refl _
    · exact List.dropLast_sublist _
  · exact .refl _

/-- A prioritized push inserts its item among what it keeps, or only evicts. -/
theorem pushBackPrioritized_contents (priorityOf : α → UInt8) (v : α) :
    (∃ kept, kept.Sublist d.q ∧ (d.pushBackPrioritized cost priorityOf v).1.q.Perm (v :: kept) ∧
      (d.pushBackPrioritized cost priorityOf v).2 = .ok ()) ∨
    ((d.pushBackPrioritized cost priorityOf v).1.q.Sublist d.q ∧
      ∃ e, (d.pushBackPrioritized cost priorityOf v).2 = .error e) := by
  have hback := @evictBack_sublist α cost priorityOf (cost v) (priorityOf v) d.q.length d
  unfold pushBackPrioritized
  split
  · exact .inr ⟨.refl _, _, rfl⟩
  · generalize evictBack cost priorityOf (cost v) (priorityOf v) d.q.length d = r at hback
    obtain ⟨d₁, _ | ⟨⟨⟩⟩⟩ := r
    · exact .inr ⟨hback, _, rfl⟩
    · have hone := @evictBackOne_sublist α cost d₁ priorityOf (priorityOf v)
      dsimp only at hback ⊢
      generalize d₁.evictBackOne cost priorityOf (priorityOf v) = r at hone
      obtain ⟨d₂, _ | ⟨⟨⟩⟩⟩ := r
      · exact .inr ⟨hone.trans hback, _, rfl⟩
      · refine .inl ⟨(d₂.ensureRoomForOne cost).q,
          ensureRoomForOne_sublist.trans (hone.trans hback), ?_, rfl⟩
        exact List.perm_insertIdx _ _ List.findIdx_le_length

theorem mem_pushBackPrioritized {priorityOf : α → UInt8} {v : α}
    (h : (d.pushBackPrioritized cost priorityOf v).2 = .ok ()) :
    v ∈ (d.pushBackPrioritized cost priorityOf v).1.q := by
  obtain ⟨kept, -, hperm, -⟩ | ⟨-, e, herror⟩ := @pushBackPrioritized_contents α cost d priorityOf v
  · exact hperm.mem_iff.mpr List.mem_cons_self
  · rw [herror] at h
    cases h

end Contents

section Accounting
variable {cost} {d}

/-- The byte count is that of the items. -/
def Accounted (cost : α → Nat) (d : BoundedDeque α) : Prop := d.curBytes = (d.q.map cost).sum

theorem new_eq_ok {maxBytes startingBytes itemSize growNum : Nat}
    (h : BoundedDeque.new maxBytes startingBytes itemSize growNum = .ok d) :
    d.q = [] ∧ d.curBytes = 0 ∧ d.maxBytes = maxBytes := by
  unfold BoundedDeque.new at h
  split at h
  · simp at h
  · split at h
    · simp at h
    · obtain rfl := Except.ok.inj h
      exact ⟨rfl, rfl, rfl⟩

theorem new_maxBytes_pos {maxBytes startingBytes itemSize growNum : Nat}
    (h : BoundedDeque.new maxBytes startingBytes itemSize growNum = .ok d) : 0 < maxBytes := by
  unfold BoundedDeque.new at h
  split at h
  · simp at h
  · split at h
    · simp at h
    · omega

theorem Accounted.new {maxBytes startingBytes itemSize growNum : Nat}
    (h : BoundedDeque.new maxBytes startingBytes itemSize growNum = .ok d) :
    d.Accounted cost ∧ d.maxBytes = maxBytes := by
  obtain ⟨hq, hbytes, hmax⟩ := new_eq_ok h
  refine ⟨?_, hmax⟩
  simp [Accounted, hq, hbytes]

theorem Accounted.length_pos (h : d.Accounted cost) (hpos : 0 < d.curBytes) : 0 < d.q.length := by
  rw [h] at hpos
  cases hq : d.q with
  | nil => simp [hq] at hpos
  | cons => simp

theorem Accounted.clear : d.clear.Accounted cost := rfl

theorem Accounted.popFront {v : α} {d' : BoundedDeque α} (h : d.Accounted cost)
    (hpop : d.popFront cost = some (v, d')) : d'.Accounted cost := by
  unfold BoundedDeque.popFront at hpop
  split at hpop
  · cases hpop
  · rename_i head rest hq
    obtain ⟨rfl, rfl⟩ := Prod.mk.inj (Option.some.inj hpop)
    unfold Accounted at h ⊢
    dsimp only
    rw [h, hq, List.map_cons, List.sum_cons]
    omega

theorem Accounted.dropFront (h : d.Accounted cost) : (d.dropFront cost).Accounted cost := by
  unfold Accounted BoundedDeque.dropFront at *
  dsimp only
  cases hq : d.q with
  | nil => simp [h, hq]
  | cons head rest =>
    rw [h, hq, List.map_cons, List.sum_cons]
    simp

theorem Accounted.dropBack (h : d.Accounted cost) : (d.dropBack cost).Accounted cost := by
  unfold Accounted BoundedDeque.dropBack at *
  dsimp only
  rcases List.eq_nil_or_concat d.q with hq | ⟨front, last, hq⟩
  · simp [h, hq]
  · rw [h, hq]
    simp

theorem bytesWithout_eq (vs : List α) (cur : Nat) :
    bytesWithout cost cur vs = cur - (vs.map cost).sum := by
  induction vs generalizing cur with
  | nil => rfl
  | cons v rest ih =>
    have := ih (cur - cost v)
    unfold bytesWithout at this ⊢
    rw [List.foldl_cons, this, List.map_cons, List.sum_cons]
    omega

theorem Accounted.retain (h : d.Accounted cost) (keep : α → Bool) :
    (d.retain cost keep).Accounted cost := by
  have hsplit : ((d.q.filter keep).map cost).sum + ((d.q.filter fun v => !keep v).map cost).sum =
      (d.q.map cost).sum := by
    induction d.q with
    | nil => rfl
    | cons v rest ih =>
      cases hkeep : keep v with
      | true =>
        simp only [hkeep, List.filter_cons, if_true, Bool.not_true, Bool.false_eq_true, if_false,
          List.map_cons, List.sum_cons]
        omega
      | false =>
        simp only [hkeep, List.filter_cons, if_true, Bool.not_false, Bool.false_eq_true, if_false,
          List.map_cons, List.sum_cons]
        omega
  unfold Accounted BoundedDeque.retain at *
  dsimp only
  rw [bytesWithout_eq]
  omega

theorem Accounted.ensureRoomForOne (h : d.Accounted cost) :
    (d.ensureRoomForOne cost).Accounted cost := by
  unfold BoundedDeque.ensureRoomForOne
  dsimp only
  split
  · exact h
  · split
    · exact h.dropFront
    · split
      · exact h.dropFront
      · split
        · exact h
        · exact h.dropFront

theorem Accounted.evictBack (h : d.Accounted cost) (priorityOf : α → UInt8) (incoming : Nat)
    (newPriority : UInt8) (fuel : Nat) :
    (evictBack cost priorityOf incoming newPriority fuel d).1.Accounted cost := by
  induction fuel generalizing d with
  | zero => exact h
  | succ fuel ih =>
    unfold BoundedDeque.evictBack
    split
    · split
      · exact h
      · exact ih h.dropBack
    · exact h

theorem Accounted.evictBackOne (h : d.Accounted cost) (priorityOf : α → UInt8)
    (newPriority : UInt8) : (d.evictBackOne cost priorityOf newPriority).1.Accounted cost := by
  unfold BoundedDeque.evictBackOne
  split
  · split
    · exact h
    · exact h.dropBack
  · exact h

theorem Accounted.pushBackPrioritized (h : d.Accounted cost) (priorityOf : α → UInt8) (v : α) :
    (d.pushBackPrioritized cost priorityOf v).1.Accounted cost := by
  have hback := h.evictBack priorityOf (cost v) (priorityOf v) d.q.length
  unfold BoundedDeque.pushBackPrioritized
  split
  · exact h
  · generalize BoundedDeque.evictBack cost priorityOf (cost v) (priorityOf v) d.q.length d = r
      at hback
    obtain ⟨d₁, _ | ⟨⟨⟩⟩⟩ := r
    · exact hback
    · have hone := hback.evictBackOne priorityOf (priorityOf v)
      dsimp only at hback ⊢
      generalize d₁.evictBackOne cost priorityOf (priorityOf v) = r at hone
      obtain ⟨d₂, _ | ⟨⟨⟩⟩⟩ := r
      · exact hone
      · have hroom := hone.ensureRoomForOne
        dsimp only at hroom ⊢
        unfold Accounted insertPrioritized at *
        have hperm := (List.perm_insertIdx v (d₂.ensureRoomForOne cost).q (@List.findIdx_le_length _
          (fun existing => priorityOf existing < priorityOf v) (d₂.ensureRoomForOne cost).q)).map cost
        dsimp only
        rw [hperm.sum_nat, List.map_cons, List.sum_cons, hroom]
        omega

theorem popFront_maxBytes {v : α} {d' : BoundedDeque α} (h : d.popFront cost = some (v, d')) :
    d'.maxBytes = d.maxBytes := by
  unfold popFront at h
  split at h
  · cases h
  · obtain ⟨-, rfl⟩ := Prod.mk.inj (Option.some.inj h)
    rfl

@[simp] theorem dropFront_maxBytes : (d.dropFront cost).maxBytes = d.maxBytes := rfl

@[simp] theorem ensureRoomForOne_maxBytes : (d.ensureRoomForOne cost).maxBytes = d.maxBytes := by
  unfold ensureRoomForOne
  dsimp only
  split
  · rfl
  · split
    · rfl
    · split
      · rfl
      · split <;> rfl

@[simp] theorem evictFront_maxBytes (incoming fuel : Nat) (d : BoundedDeque α) :
    (evictFront cost incoming fuel d).maxBytes = d.maxBytes := by
  induction fuel generalizing d with
  | zero => rfl
  | succ fuel ih =>
    unfold evictFront
    split
    · rw [ih, dropFront_maxBytes]
    · rfl

@[simp] theorem pushBack_maxBytes (v : α) : (d.pushBack cost v).1.maxBytes = d.maxBytes := by
  unfold pushBack
  split
  · rfl
  · dsimp only
    rw [ensureRoomForOne_maxBytes]
    split
    · rw [dropFront_maxBytes, evictFront_maxBytes]
    · rw [evictFront_maxBytes]

@[simp] theorem iterate_dropFront_maxBytes (n : Nat) (d : BoundedDeque α) :
    ((dropFront cost)^[n] d).maxBytes = d.maxBytes := by
  induction n generalizing d with
  | zero => rfl
  | succ n ih => rw [Function.iterate_succ_apply, ih, dropFront_maxBytes]

@[simp] theorem removeValue_maxBytes [DecidableEq α] (needle : α) :
    (d.removeValue cost needle).maxBytes = d.maxBytes := by
  unfold removeValue
  split <;> rfl

theorem pushBack_eq_ok {v : α} (h : cost v ≤ d.maxBytes) : (d.pushBack cost v).2 = .ok () := by
  unfold pushBack
  rw [if_neg (Nat.not_lt.mpr h)]

end Accounting
/-! Bytes only ever leave, but for the item a push adds. -/
section Bytes
variable {cost} {d}

theorem ensureRoomForOne_curBytes_le : (d.ensureRoomForOne cost).curBytes ≤ d.curBytes := by
  unfold ensureRoomForOne
  dsimp only
  split
  · exact Nat.le_refl _
  · split
    · exact Nat.sub_le _ _
    · split
      · exact Nat.sub_le _ _
      · split
        · exact Nat.le_refl _
        · exact Nat.sub_le _ _

theorem evictBack_curBytes_le (priorityOf : α → UInt8) (incoming : Nat) (newPriority : UInt8)
    (fuel : Nat) (d : BoundedDeque α) :
    (evictBack cost priorityOf incoming newPriority fuel d).1.curBytes ≤ d.curBytes := by
  induction fuel generalizing d with
  | zero => exact Nat.le_refl _
  | succ fuel ih =>
    unfold evictBack
    split
    · split
      · exact Nat.le_refl _
      · exact Nat.le_trans (ih _) (Nat.sub_le _ _)
    · exact Nat.le_refl _

theorem evictBackOne_curBytes_le (priorityOf : α → UInt8) (newPriority : UInt8) :
    (d.evictBackOne cost priorityOf newPriority).1.curBytes ≤ d.curBytes := by
  unfold evictBackOne
  split
  · split
    · exact Nat.le_refl _
    · exact Nat.sub_le _ _
  · exact Nat.le_refl _

theorem pushBackPrioritized_curBytes_le (priorityOf : α → UInt8) (v : α) :
    (d.pushBackPrioritized cost priorityOf v).1.curBytes ≤ d.curBytes + cost v := by
  have hback := @evictBack_curBytes_le α cost priorityOf (cost v) (priorityOf v) d.q.length d
  unfold pushBackPrioritized
  split
  · exact Nat.le_add_right _ _
  · generalize evictBack cost priorityOf (cost v) (priorityOf v) d.q.length d = r at hback
    obtain ⟨d₁, _ | ⟨⟨⟩⟩⟩ := r
    · dsimp only at hback ⊢
      omega
    · have hone := @evictBackOne_curBytes_le α cost d₁ priorityOf (priorityOf v)
      dsimp only at hback ⊢
      generalize d₁.evictBackOne cost priorityOf (priorityOf v) = r at hone
      obtain ⟨d₂, _ | ⟨⟨⟩⟩⟩ := r
      · dsimp only at hone ⊢
        omega
      · have hroom := @ensureRoomForOne_curBytes_le α cost d₂
        dsimp only [insertPrioritized] at hone ⊢
        omega

end Bytes

section Insertion
variable {priorityOf : α → UInt8}

/-- `v` behind everything of at least its priority. -/
def stableInsert (priorityOf : α → UInt8) (v : α) (items : List α) : List α :=
  items.orderedInsert (fun a b => priorityOf b < priorityOf a) v

theorem insertIdx_findIdx (v : α) (items : List α) :
    items.insertIdx (items.findIdx fun existing => priorityOf existing < priorityOf v) v =
      stableInsert priorityOf v items := by
  unfold stableInsert
  induction items with
  | nil => rfl
  | cons head rest ih =>
    rw [List.findIdx_cons, List.orderedInsert_cons]
    by_cases hlower : priorityOf head < priorityOf v
    · rw [decide_eq_true hlower, cond_true, List.insertIdx_zero, if_pos hlower]
    · rw [decide_eq_false hlower, cond_false, List.insertIdx_succ_cons, if_neg hlower, ih]

theorem pairwise_stableInsert (v : α) (items : List α)
    (hsorted : items.Pairwise fun a b => priorityOf b ≤ priorityOf a) :
    (stableInsert priorityOf v items).Pairwise fun a b => priorityOf b ≤ priorityOf a := by
  unfold stableInsert
  induction items with
  | nil => simp
  | cons head rest ih =>
    obtain ⟨hhead, hrest⟩ := List.pairwise_cons.mp hsorted
    rw [List.orderedInsert_cons]
    by_cases hlower : priorityOf head < priorityOf v
    · rw [if_pos hlower, List.pairwise_cons]
      refine ⟨fun b hb => ?_, hsorted⟩
      rcases List.mem_cons.mp hb with rfl | hb
      · exact UInt8.le_of_lt hlower
      · exact UInt8.le_trans (hhead b hb) (UInt8.le_of_lt hlower)
    · rw [if_neg hlower, List.pairwise_cons]
      refine ⟨fun b hb => ?_, ih hrest⟩
      rcases (List.mem_orderedInsert _).mp hb with rfl | hb
      · exact UInt8.not_lt.mp hlower
      · exact hhead b hb

/-- In a queue in order, the item comes last among those of its priority. -/
theorem filter_stableInsert (v : α) (items : List α) (p : UInt8)
    (hsorted : items.Pairwise fun a b => priorityOf b ≤ priorityOf a) :
    (stableInsert priorityOf v items).filter (fun a => priorityOf a == p) =
      items.filter (fun a => priorityOf a == p) ++ [v].filter (fun a => priorityOf a == p) := by
  unfold stableInsert
  induction items with
  | nil => rfl
  | cons head rest ih =>
    obtain ⟨hhead, hrest⟩ := List.pairwise_cons.mp hsorted
    rw [List.orderedInsert_cons]
    by_cases hlower : priorityOf head < priorityOf v
    · rw [if_pos hlower, List.filter_cons (x := v), List.filter_cons (x := v), List.filter_nil]
      by_cases hp : priorityOf v = p
      · -- Everything from `head` on is of lower priority.
        have hnone : (head :: rest).filter (fun a => priorityOf a == p) = [] := by
          refine List.filter_eq_nil_iff.mpr fun w hw => ?_
          have hle : priorityOf w ≤ priorityOf head := by
            rcases List.mem_cons.mp hw with rfl | hw
            · exact UInt8.le_refl _
            · exact hhead w hw
          have hlt := UInt8.lt_of_le_of_lt hle hlower
          rw [hp] at hlt
          simpa using UInt8.ne_of_lt hlt
        rw [if_pos (by simpa using hp), if_pos (by simpa using hp), hnone, List.nil_append]
      · rw [if_neg (by simpa using hp), if_neg (by simpa using hp), List.append_nil]
    · rw [if_neg hlower, List.filter_cons, ih hrest, List.filter_cons (x := head)]
      split
      · rfl
      · rfl

end Insertion

section Order
variable {cost} {d}

/-- What every push of a prioritized queue keeps: higher priorities stand in front, and
the cap holds. -/
structure Orderly (priorityOf : α → UInt8) (d : BoundedDeque α) : Prop where
  descending : d.q.Pairwise fun a b => priorityOf b ≤ priorityOf a
  length_le : d.q.length ≤ d.maxElems
  maxElems_pos : 0 < d.maxElems

variable {priorityOf : α → UInt8}

@[simp] theorem popFront_maxElems {v : α} {d' : BoundedDeque α}
    (h : d.popFront cost = some (v, d')) : d'.maxElems = d.maxElems := by
  unfold popFront at h
  split at h
  · cases h
  · obtain ⟨-, rfl⟩ := Prod.mk.inj (Option.some.inj h)
    rfl

theorem ensureRoomForOne_maxElems : (d.ensureRoomForOne cost).maxElems = d.maxElems := by
  unfold ensureRoomForOne
  dsimp only
  split
  · rfl
  · split
    · rfl
    · split
      · rfl
      · split <;> rfl

theorem evictBack_caps (incoming : Nat) (newPriority : UInt8) (fuel : Nat) (d : BoundedDeque α) :
    (evictBack cost priorityOf incoming newPriority fuel d).1.maxElems = d.maxElems ∧
      (evictBack cost priorityOf incoming newPriority fuel d).1.maxBytes = d.maxBytes := by
  induction fuel generalizing d with
  | zero => exact ⟨rfl, rfl⟩
  | succ fuel ih =>
    unfold evictBack
    split
    · split
      · exact ⟨rfl, rfl⟩
      · exact ih (d.dropBack cost)
    · exact ⟨rfl, rfl⟩

theorem evictBackOne_caps (newPriority : UInt8) :
    (d.evictBackOne cost priorityOf newPriority).1.maxElems = d.maxElems ∧
      (d.evictBackOne cost priorityOf newPriority).1.maxBytes = d.maxBytes := by
  unfold evictBackOne
  split
  · split <;> exact ⟨rfl, rfl⟩
  · exact ⟨rfl, rfl⟩

theorem pushBackPrioritized_caps (v : α) :
    (d.pushBackPrioritized cost priorityOf v).1.maxElems = d.maxElems ∧
      (d.pushBackPrioritized cost priorityOf v).1.maxBytes = d.maxBytes := by
  have hback := @evictBack_caps α cost priorityOf (cost v) (priorityOf v) d.q.length d
  unfold pushBackPrioritized
  split
  · exact ⟨rfl, rfl⟩
  · generalize evictBack cost priorityOf (cost v) (priorityOf v) d.q.length d = r at hback
    obtain ⟨d₁, _ | ⟨⟨⟩⟩⟩ := r
    · exact hback
    · have hone := @evictBackOne_caps α cost d₁ priorityOf (priorityOf v)
      dsimp only at hback ⊢
      generalize d₁.evictBackOne cost priorityOf (priorityOf v) = r at hone
      obtain ⟨d₂, _ | ⟨⟨⟩⟩⟩ := r
      · exact ⟨hone.1.trans hback.1, hone.2.trans hback.2⟩
      · exact ⟨ensureRoomForOne_maxElems.trans (hone.1.trans hback.1),
          ensureRoomForOne_maxBytes.trans (hone.2.trans hback.2)⟩

/-- Below the cap the ring grows instead of losing its front. -/
theorem ensureRoomForOne_q (h : d.q.length < d.maxElems) :
    (d.ensureRoomForOne cost).q = d.q := by
  unfold ensureRoomForOne
  dsimp only
  split
  · rfl
  · rw [if_neg (by omega), if_neg (by omega), if_pos (by omega)]

/-- The element cap leaves room for one item. -/
theorem evictBackOne_length {newPriority : UInt8} {d' : BoundedDeque α}
    (hle : d.q.length ≤ d.maxElems) (hpos : 0 < d.maxElems)
    (hone : d.evictBackOne cost priorityOf newPriority = (d', .ok ())) :
    d'.q.length < d'.maxElems := by
  unfold evictBackOne at hone
  split at hone
  · split at hone
    · cases (Prod.mk.inj hone).2
    · obtain ⟨rfl, -⟩ := Prod.mk.inj hone
      simp only [dropBack, List.length_dropLast]
      omega
  · obtain ⟨rfl, -⟩ := Prod.mk.inj hone
    omega

namespace Orderly

theorem of_sublist {d' : BoundedDeque α} (h : d.Orderly priorityOf) (hsub : d'.q.Sublist d.q)
    (hcap : d'.maxElems = d.maxElems) : d'.Orderly priorityOf :=
  ⟨h.descending.sublist hsub, hcap ▸ Nat.le_trans hsub.length_le h.length_le, hcap ▸ h.maxElems_pos⟩

theorem new {maxBytes startingBytes itemSize growNum : Nat}
    (h : BoundedDeque.new maxBytes startingBytes itemSize growNum = .ok d) :
    d.Orderly priorityOf := by
  unfold BoundedDeque.new at h
  split at h
  · simp at h
  · split at h
    · simp at h
    · obtain rfl := Except.ok.inj h
      exact ⟨.nil, Nat.zero_le _, by dsimp only; omega⟩

theorem evictBackOne_length {newPriority : UInt8} {d' : BoundedDeque α}
    (h : d.Orderly priorityOf) (hone : d.evictBackOne cost priorityOf newPriority = (d', .ok ())) :
    d'.q.length < d'.maxElems :=
  BoundedDeque.evictBackOne_length h.length_le h.maxElems_pos hone

/-- Insertion before the first lower priority keeps the order. -/
theorem insertPrioritized (h : d.Orderly priorityOf) (hroom : d.q.length < d.maxElems) (v : α) :
    (d.insertPrioritized cost priorityOf v).Orderly priorityOf := by
  refine ⟨?_, ?_, h.maxElems_pos⟩
  · dsimp only [BoundedDeque.insertPrioritized]
    rw [insertIdx_findIdx]
    exact pairwise_stableInsert v d.q h.descending
  · dsimp only [BoundedDeque.insertPrioritized]
    rw [List.length_insertIdx_of_le_length List.findIdx_le_length]
    omega

theorem pushBackPrioritized (h : d.Orderly priorityOf) (v : α) :
    (d.pushBackPrioritized cost priorityOf v).1.Orderly priorityOf := by
  have hback := h.of_sublist (evictBack_sublist priorityOf (cost v) (priorityOf v) d.q.length d)
    (@evictBack_caps α cost priorityOf (cost v) (priorityOf v) d.q.length d).1
  unfold BoundedDeque.pushBackPrioritized
  split
  · exact h
  · generalize evictBack cost priorityOf (cost v) (priorityOf v) d.q.length d = r at hback
    obtain ⟨d₁, _ | ⟨⟨⟩⟩⟩ := r
    · exact hback
    · have hsub := @evictBackOne_sublist α cost d₁ priorityOf (priorityOf v)
      have hcap := (@evictBackOne_caps α cost d₁ priorityOf (priorityOf v)).1
      dsimp only at hback ⊢
      cases hone : d₁.evictBackOne cost priorityOf (priorityOf v) with
      | mk d₂ result =>
        rw [hone] at hsub hcap
        have horder := hback.of_sublist hsub hcap
        cases result with
        | error e => exact horder
        | ok u =>
          have hlen := hback.evictBackOne_length hone
          refine Orderly.insertPrioritized ?_ ?_ v
          · exact horder.of_sublist ensureRoomForOne_sublist ensureRoomForOne_maxElems
          · rw [ensureRoomForOne_q hlen, ensureRoomForOne_maxElems]
            exact hlen

end Orderly
/-- Full, and every queued item is of higher priority. -/
def Saturated (priorityOf : α → UInt8) (newPriority : UInt8) (d : BoundedDeque α) : Prop :=
  d.maxElems ≤ d.q.length ∧ newPriority < (d.q.getLast?.map priorityOf).getD 0

instance (newPriority : UInt8) : Decidable (d.Saturated priorityOf newPriority) :=
  inferInstanceAs (Decidable (_ ∧ _))

theorem evictBack_of_fits {incoming : Nat} (newPriority : UInt8) (fuel : Nat)
    (hfits : d.curBytes + incoming ≤ d.maxBytes) :
    evictBack cost priorityOf incoming newPriority fuel d = (d, .ok ()) := by
  cases fuel with
  | zero => rfl
  | succ fuel => rw [evictBack, if_neg fun h => absurd h.2 (Nat.not_lt.mpr hfits)]

/-- Where the bytes fit, only the element cap can refuse. -/
theorem pushBackPrioritized_saturated {v : α} (hfits : d.curBytes + cost v ≤ d.maxBytes)
    (hfull : d.Saturated priorityOf (priorityOf v)) :
    d.pushBackPrioritized cost priorityOf v = (d, fail (.io "priority queue saturated")) := by
  have hback := @evictBack_of_fits α cost d priorityOf (cost v) (priorityOf v) d.q.length hfits
  rw [pushBackPrioritized, if_neg (by omega), hback]
  simp only [evictBackOne, if_pos hfull.1, if_pos hfull.2, fail]

/-- What the element cap leaves for one more item. -/
def capped (d : BoundedDeque α) : List α :=
  if d.maxElems ≤ d.q.length then d.q.dropLast else d.q

/-- Where the cap does not refuse, it takes at most a last item of no higher priority. -/
theorem capped_append {newPriority : UInt8} (horder : d.Orderly priorityOf)
    (hfull : ¬d.Saturated priorityOf newPriority) :
    ∃ dropped, d.q = d.capped ++ dropped ∧ ∀ w ∈ dropped, priorityOf w ≤ newPriority := by
  unfold capped
  split
  · rename_i hcap
    rcases List.eq_nil_or_concat d.q with hnil | ⟨front, last, hq⟩
    · have := horder.maxElems_pos
      simp only [hnil, List.length_nil] at hcap
      omega
    · refine ⟨[last], by simp [hq], fun w hw => ?_⟩
      rw [List.mem_singleton.mp hw]
      have hlast : ¬newPriority < (d.q.getLast?.map priorityOf).getD 0 := fun h => hfull ⟨hcap, h⟩
      simpa [hq] using hlast
  · exact ⟨[], (List.append_nil _).symm, by simp⟩

/-- What a push does where the bytes fit and the cap does not refuse. -/
theorem pushBackPrioritized_of_fits {v : α} (horder : d.Orderly priorityOf)
    (hfits : d.curBytes + cost v ≤ d.maxBytes)
    (hfull : ¬d.Saturated priorityOf (priorityOf v)) :
    (d.pushBackPrioritized cost priorityOf v).2 = .ok () ∧
      (d.pushBackPrioritized cost priorityOf v).1.q.Perm (v :: d.capped) := by
  have hback := @evictBack_of_fits α cost d priorityOf (cost v) (priorityOf v) d.q.length hfits
  cases hone : d.evictBackOne cost priorityOf (priorityOf v) with
  | mk d₂ result =>
    have hcases := hone
    unfold evictBackOne at hcases
    cases result with
    | error e =>
      split at hcases
      · rename_i hlen
        split at hcases
        · rename_i hlast
          exact absurd ⟨hlen, hlast⟩ hfull
        · cases (Prod.mk.inj hcases).2
      · cases (Prod.mk.inj hcases).2
    | ok u =>
      have hlen := horder.evictBackOne_length hone
      rw [pushBackPrioritized, if_neg (by omega), hback]
      dsimp only
      rw [hone]
      refine ⟨rfl, ?_⟩
      have hperm : ((d₂.ensureRoomForOne cost).insertPrioritized cost priorityOf v).q.Perm
          (v :: d₂.q) := by
        dsimp only [insertPrioritized]
        rw [ensureRoomForOne_q hlen]
        exact List.perm_insertIdx _ _ List.findIdx_le_length
      split at hcases
      · rename_i hcap
        split at hcases
        · cases (Prod.mk.inj hcases).2
        · obtain ⟨rfl, -⟩ := Prod.mk.inj hcases
          rw [capped, if_pos hcap]
          exact hperm
      · rename_i hcap
        obtain ⟨rfl, -⟩ := Prod.mk.inj hcases
        rw [capped, if_neg hcap]
        exact hperm

/-- Where there is room, a push in order of priority takes nothing away either. -/
theorem pushBackPrioritized_of_room {v : α} (hbytes : d.curBytes + cost v ≤ d.maxBytes)
    (hlen : d.q.length < d.maxElems) :
    (d.pushBackPrioritized cost priorityOf v).2 = .ok () ∧
      (d.pushBackPrioritized cost priorityOf v).1.q.Perm (v :: d.q) := by
  have hone : d.evictBackOne cost priorityOf (priorityOf v) = (d, .ok ()) := by
    rw [evictBackOne, if_neg (by omega)]
  rw [pushBackPrioritized, if_neg (by omega), evictBack_of_fits _ _ hbytes]
  dsimp only
  rw [hone]
  refine ⟨rfl, ?_⟩
  dsimp only [insertPrioritized]
  rw [ensureRoomForOne_q hlen]
  exact List.perm_insertIdx _ _ List.findIdx_le_length

end Order
section Append
variable {cost} {d}

theorem iterate_dropFront_q (n : Nat) (d : BoundedDeque α) :
    ((dropFront cost)^[n] d).q = d.q.drop n := by
  induction n generalizing d with
  | zero => rfl
  | succ n ih =>
    rw [Function.iterate_succ_apply, ih]
    exact List.drop_tail

theorem iterate_dropFront_maxElems (n : Nat) (d : BoundedDeque α) :
    ((dropFront cost)^[n] d).maxElems = d.maxElems := by
  induction n generalizing d with
  | zero => rfl
  | succ n ih =>
    rw [Function.iterate_succ_apply, ih]
    rfl

theorem Accounted.iterate_dropFront (h : d.Accounted cost) (n : Nat) :
    ((BoundedDeque.dropFront cost)^[n] d).Accounted cost := by
  induction n generalizing d with
  | zero => exact h
  | succ n ih =>
    rw [Function.iterate_succ_apply]
    exact ih h.dropFront

/-- Where there is room, a push in order of arrival takes nothing away. -/
theorem pushBack_of_room {v : α} (hacc : d.Accounted cost)
    (hbytes : d.curBytes + cost v ≤ d.maxBytes) (hlen : d.q.length < d.maxElems) :
    (d.pushBack cost v).2 = .ok () ∧ (d.pushBack cost v).1.q = d.q ++ [v] ∧
      (d.pushBack cost v).1.maxElems = d.maxElems ∧ (d.pushBack cost v).1.Accounted cost := by
  have hevict : evictFront cost (cost v) d.q.length d = d := by
    cases d.q.length with
    | zero => rfl
    | succ n => rw [evictFront, if_neg fun h => absurd h.2 (Nat.not_lt.mpr hbytes)]
  rw [pushBack, if_neg (by omega), hevict]
  dsimp only
  rw [if_neg (by omega)]
  refine ⟨rfl, by rw [ensureRoomForOne_q hlen], ensureRoomForOne_maxElems, ?_⟩
  have hroom := hacc.ensureRoomForOne
  unfold Accounted at hroom ⊢
  dsimp only
  rw [hroom, List.map_append, List.sum_append, List.map_singleton, List.sum_singleton]

theorem removeValue_q [DecidableEq α] (needle : α) :
    (d.removeValue cost needle).q = d.q.erase needle := by
  unfold removeValue
  split
  · exact (List.erase_eq_eraseIdx_of_idxOf rfl).symm
  · rename_i hnot
    exact (List.erase_of_not_mem hnot).symm

theorem Accounted.removeValue [DecidableEq α] (h : d.Accounted cost) (needle : α) :
    (d.removeValue cost needle).Accounted cost := by
  have hq := @removeValue_q α cost d _ needle
  unfold Accounted at h ⊢
  rw [hq]
  unfold BoundedDeque.removeValue
  split
  · rename_i hmem
    have hsum := ((List.perm_cons_erase hmem).map cost).sum_nat
    rw [List.map_cons, List.sum_cons] at hsum
    have hget : d.q[d.q.idxOf needle]? = some needle := List.getElem?_idxOf hmem
    dsimp only [removePos]
    rw [hget, Option.map_some, Option.getD_some]
    omega
  · rename_i hnot
    rw [List.erase_of_not_mem hnot]
    exact h

end Append

section Losses
variable {cost} {d}

/-- Items leave, each with its bytes. -/
structure Loses (cost : α → Nat) (d d' : BoundedDeque α) : Prop where
  sublist : d'.q.Sublist d.q
  accounted : d.Accounted cost → d'.Accounted cost
  curBytes_le : d'.curBytes ≤ d.curBytes
  maxBytes : d'.maxBytes = d.maxBytes
  maxElems : d'.maxElems = d.maxElems

theorem Loses.refl (d : BoundedDeque α) : Loses cost d d :=
  ⟨.refl _, id, Nat.le_refl _, rfl, rfl⟩

theorem Loses.trans {d' d'' : BoundedDeque α} (h : Loses cost d d') (h' : Loses cost d' d'') :
    Loses cost d d'' :=
  ⟨h'.sublist.trans h.sublist, fun ha => h'.accounted (h.accounted ha),
    Nat.le_trans h'.curBytes_le h.curBytes_le, h'.maxBytes.trans h.maxBytes, h'.maxElems.trans h.maxElems⟩

theorem Loses.popFront {v : α} {d' : BoundedDeque α} (h : d.popFront cost = some (v, d')) :
    Loses cost d d' where
  sublist := by
    rw [popFront_eq_some h]
    exact List.sublist_cons_self _ _
  accounted ha := ha.popFront h
  curBytes_le := by
    unfold BoundedDeque.popFront at h
    split at h
    · cases h
    · obtain ⟨-, rfl⟩ := Prod.mk.inj (Option.some.inj h)
      exact Nat.sub_le _ _
  maxBytes := popFront_maxBytes h
  maxElems := popFront_maxElems h

theorem Loses.retain (keep : α → Bool) : Loses cost d (d.retain cost keep) where
  sublist := List.filter_sublist
  accounted ha := ha.retain keep
  curBytes_le := by
    dsimp only [BoundedDeque.retain]
    rw [bytesWithout_eq]
    exact Nat.sub_le _ _
  maxBytes := rfl
  maxElems := rfl

theorem Loses.clear : Loses cost d d.clear :=
  ⟨List.nil_sublist _, fun _ => .clear, Nat.zero_le _, rfl, rfl⟩

end Losses
end BoundedDeque
end Sedsprintf
