import Sedsprintf.Build
import Sedsprintf.Queue
import Sedsprintf.Lib.Program
import Sedsprintf.Lib.Runs
import Mathlib.Data.List.Perm.Basic

/-!
# Calls of a bounded queue

The methods of src/queue.rs as programs on the queue, with the additions of the
source on `usize`: what a push has evicted before it is refused, or before a sum
overflows, stays evicted. Allocations succeed, and `VecDeque` may hold more room
than it was asked for. Where the sum a push forms fits `usize`, it does what the
pushes on natural numbers do, up to the capacity.
-/
namespace Sedsprintf
open Lib

namespace Build
variable (B : Build)

/-- `saturating_add` on `usize`. -/
def saturatingAdd (a b : Nat) : Nat := min (a + b) (B.usizeModulus - 1)

/-- `saturating_mul` on `usize`. -/
def saturatingMul (a b : Nat) : Nat := min (a * b) (B.usizeModulus - 1)

theorem usizeModulus_pos : 0 < B.usizeModulus := Nat.two_pow_pos _

theorem saturatingAdd_of_lt {a b : Nat} (h : a + b < B.usizeModulus) :
    B.saturatingAdd a b = a + b := Nat.min_eq_left (by omega)

theorem saturatingAdd_lt (a b : Nat) : B.saturatingAdd a b < B.usizeModulus := by
  have := B.usizeModulus_pos
  unfold saturatingAdd
  omega

end Build

/-- A method of the queue. -/
abbrev QueueM (α β : Type) := Program (BoundedDeque α) Stop β

/-- What `ensure_room_for_one` finds: a free slot, a full ring, or room to reserve. -/
inductive Room where
  | enough
  | evict
  | grow (add : Nat)
  deriving DecidableEq, Repr

namespace BoundedDeque
variable {α : Type} (B : Build) (cost : α → Nat)

/-- The byte loop of `prepare_push_fifo`; `fuel` is the length. -/
def evictFrontOn (incoming : Nat) : (fuel : Nat) → QueueM α Unit
  | 0 => pure ()
  | fuel + 1 => do
    let d ← Program.read
    if d.q = [] then pure ()
    else
      let total ← Program.of (B.usizeAdd d.curBytes incoming)
      if d.maxBytes < total then
        Program.modify (dropFront cost)
        evictFrontOn incoming fuel
      else pure ()

/-- `if self.q.len() >= self.max_elems { let _ = self.pop_front(); }`. -/
def capFront (d : BoundedDeque α) : BoundedDeque α :=
  if d.maxElems ≤ d.q.length then d.dropFront cost else d

/-- `prepare_push_fifo` before it calls `ensure_room_for_one`. -/
def makeRoomFifo (incoming : Nat) : QueueM α Unit := do
  let d ← Program.read
  if d.maxBytes < incoming then
    Program.of (fail (.packetTooLarge "Item exceeds maximum byte budget"))
  else
    evictFrontOn B cost incoming d.q.length
    Program.modify (capFront cost)

/-- The tests of `ensure_room_for_one`, in their order. -/
def roomOn (d : BoundedDeque α) : Outcome Room :=
  if d.q.length < d.cap then .ok .enough
  else if d.maxElems ≤ d.q.length then .ok .evict
  else if d.maxElems ≤ d.cap then .ok .evict
  else do
    let scaled := B.saturatingAdd (B.saturatingMul d.cap d.growNum) (d.growDen - 1)
    let next ← B.usizeAdd d.cap 1
    let target := min (max (scaled / d.growDen) next) d.maxElems
    if 0 < target - d.cap then .ok (.grow (target - d.cap)) else .ok .evict

/-- `pop_front`, or `reserve_exact`. -/
def enterRoom (d : BoundedDeque α) : Room → BoundedDeque α
  | .enough => d
  | .evict => d.dropFront cost
  | .grow add => { d with cap := d.q.length + add }

/-- Its `debug_assert!` always holds: `reserve_exact` has added at least one. -/
def ensureRoomForOneOn : QueueM α Unit := do
  let d ← Program.read
  let room ← Program.of (d.roomOn B)
  Program.modify fun d => d.enterRoom cost room

/-- How both pushes end: `ensure_room_for_one`, then the item. -/
def pushOn (makeRoom : QueueM α Unit) (add : BoundedDeque α → BoundedDeque α) : QueueM α Unit := do
  makeRoom
  ensureRoomForOneOn B cost
  Program.modify add

/-- `self.q.push_back(v)` and its bytes. -/
def append (v : α) (d : BoundedDeque α) : BoundedDeque α :=
  { d with q := d.q ++ [v], curBytes := B.saturatingAdd d.curBytes (cost v) }

def pushBackOn (v : α) : QueueM α Unit :=
  pushOn B cost (makeRoomFifo B cost (cost v)) (append B cost v)

/-- The byte loop of `push_back_prioritized`; `fuel` is the length. -/
def evictBackOn (priorityOf : α → UInt8) (incoming : Nat) (newPriority : UInt8) :
    (fuel : Nat) → QueueM α Unit
  | 0 => pure ()
  | fuel + 1 => do
    let d ← Program.read
    if d.q = [] then pure ()
    else
      let total ← Program.of (B.usizeAdd d.curBytes incoming)
      if d.maxBytes < total then
        if newPriority < (d.q.getLast?.map priorityOf).getD 0 then
          Program.of (fail (.io "priority queue saturated"))
        else
          Program.modify (dropBack cost)
          evictBackOn priorityOf incoming newPriority fuel
      else pure ()

/-- The element cap of `push_back_prioritized`, as a program. -/
def capBack (priorityOf : α → UInt8) (newPriority : UInt8) : QueueM α Unit :=
  fun d => d.evictBackOne cost priorityOf newPriority

/-- `push_back_prioritized` before it calls `ensure_room_for_one`. -/
def makeRoomPrioritized (priorityOf : α → UInt8) (v : α) : QueueM α Unit := do
  let d ← Program.read
  if d.maxBytes < cost v then
    Program.of (fail (.packetTooLarge "Item exceeds maximum byte budget"))
  else
    evictBackOn B cost priorityOf (cost v) (priorityOf v) d.q.length
    capBack cost priorityOf (priorityOf v)

/-- `self.q.insert(idx, v)` and its bytes. -/
def insertOn (priorityOf : α → UInt8) (v : α) (d : BoundedDeque α) : BoundedDeque α :=
  { d.insertPrioritized cost priorityOf v with curBytes := B.saturatingAdd d.curBytes (cost v) }

def pushBackPrioritizedOn (priorityOf : α → UInt8) (v : α) : QueueM α Unit :=
  pushOn B cost (makeRoomPrioritized B cost priorityOf v) (insertOn B cost priorityOf v)

/-- The loop of `retain` from position `idx` on; `fuel` bounds what is left. -/
def retainFrom (keep : α → Bool) : (fuel idx : Nat) → BoundedDeque α → BoundedDeque α
  | 0, _, d => d
  | fuel + 1, idx, d =>
    match d.q[idx]? with
    | none => d
    | some v =>
      if keep v then retainFrom keep fuel (idx + 1) d
      else retainFrom keep fuel idx (d.removePos cost idx)

end BoundedDeque

inductive QueueCall (α : Type) where
  | pushBack (v : α)
  | pushBackPrioritized (priorityOf : α → UInt8) (v : α)
  | popFront
  | popBack
  | removePos (idx : Nat)
  | removeValue (needle : α)
  | retain (keep : α → Bool)
  | clear
  /-- `VecDeque` turns out to hold more than it was asked for. -/
  | overallocate (slack : Nat)

namespace BoundedDeque
variable {α : Type} [DecidableEq α] (B : Build) (cost : α → Nat)

/-- A call, with what it returns besides its success dropped. -/
def perform : QueueCall α → QueueM α Unit
  | .pushBack v => pushBackOn B cost v
  | .pushBackPrioritized priorityOf v => pushBackPrioritizedOn B cost priorityOf v
  | .popFront => Program.modify (dropFront cost)
  | .popBack => Program.modify (dropBack cost)
  | .removePos idx => Program.modify fun d => d.removePos cost idx
  | .removeValue needle => Program.modify fun d => d.removeValue cost needle
  | .retain keep => Program.modify fun d => retainFrom cost keep d.q.length 0 d
  | .clear => Program.modify clear
  | .overallocate slack => Program.modify fun d => { d with cap := d.cap + slack }

/-- A call that fails, or panics, leaves the queue to the next one. -/
def step (d : BoundedDeque α) (call : QueueCall α) : Option (BoundedDeque α) :=
  some (perform B cost call d).1

section Retain
variable {α : Type} {cost : α → Nat}

@[simp] theorem removePos_q (d : BoundedDeque α) (idx : Nat) :
    (d.removePos cost idx).q = d.q.eraseIdx idx := rfl

/-- The loop of `retain` filters what it has not seen yet. -/
theorem retainFrom_eq (keep : α → Bool) (fuel idx : Nat) (d : BoundedDeque α)
    (hfuel : d.q.length ≤ idx + fuel) :
    retainFrom cost keep fuel idx d =
      { d with
        q := d.q.take idx ++ (d.q.drop idx).filter keep
        curBytes := bytesWithout cost d.curBytes ((d.q.drop idx).filter fun v => !keep v) } := by
  induction fuel generalizing idx d with
  | zero =>
    have hle : d.q.length ≤ idx := hfuel
    rw [List.drop_eq_nil_of_le hle, List.take_of_length_le hle]
    simp [retainFrom, bytesWithout]
  | succ fuel ih =>
    unfold retainFrom
    cases hget : d.q[idx]? with
    | none =>
      have hle := List.getElem?_eq_none_iff.mp hget
      rw [List.drop_eq_nil_of_le hle, List.take_of_length_le hle]
      simp [bytesWithout]
    | some v =>
      obtain ⟨hlt, hv⟩ := List.getElem?_eq_some_iff.mp hget
      have hdrop : d.q.drop idx = v :: d.q.drop (idx + 1) := by
        rw [List.drop_eq_getElem_cons hlt, hv]
      dsimp only
      cases hkeep : keep v with
      | true =>
        have htake : d.q.take (idx + 1) = d.q.take idx ++ [v] := by
          rw [List.take_succ_eq_append_getElem hlt, hv]
        rw [if_pos rfl, ih (idx + 1) d (by omega), hdrop, htake]
        simp [hkeep]
      | false =>
        have herase : (d.q.eraseIdx idx).drop idx = d.q.drop (idx + 1) := by
          rw [List.eraseIdx_eq_take_drop_succ, List.drop_append, List.length_take]
          simp [Nat.min_eq_left (Nat.le_of_lt hlt)]
        have hfront : (d.q.eraseIdx idx).take idx = d.q.take idx := by
          rw [List.eraseIdx_eq_take_drop_succ, List.take_append, List.length_take, List.take_take]
          simp [Nat.min_eq_left (Nat.le_of_lt hlt)]
        have hlen := List.length_eraseIdx_of_lt hlt
        rw [if_neg Bool.false_ne_true, ih idx (d.removePos cost idx) (by rw [removePos_q]; omega),
          removePos_q, herase, hfront, hdrop]
        simp [removePos, hget, hkeep, bytesWithout]

theorem retainFrom_zero (keep : α → Bool) (d : BoundedDeque α) :
    retainFrom cost keep d.q.length 0 d = d.retain cost keep := by
  rw [retainFrom_eq keep d.q.length 0 d (by omega)]
  rfl

end Retain

section Sums
variable {α : Type} {B : Build} {cost : α → Nat} {priorityOf : α → UInt8} {d : BoundedDeque α}

/-- The sum a push of `incoming` bytes forms, if it forms one, fits `usize`. -/
def SumFits (B : Build) (incoming : Nat) (d : BoundedDeque α) : Prop :=
  d.q = [] ∨ d.curBytes + incoming < B.usizeModulus

/-- A push of `v` does not go on with a sum that overflowed: the build checks it, `v` exceeds
the budget on its own, or the sum fits. -/
def PushFits (B : Build) (cost : α → Nat) (v : α) (d : BoundedDeque α) : Prop :=
  B.overflowChecks = true ∨ d.maxBytes < cost v ∨ SumFits B (cost v) d

theorem PushFits.overflowChecks {v : α} (h : PushFits B cost v d) (hincoming : cost v ≤ d.maxBytes)
    (hsum : ¬SumFits B (cost v) d) : B.overflowChecks = true := by
  rcases h with hchecks | hbig | hsum'
  · exact hchecks
  · exact absurd hbig (Nat.not_lt.mpr hincoming)
  · exact absurd hsum' hsum

theorem SumFits.of_loses {d' : BoundedDeque α} {incoming : Nat} (h : SumFits B incoming d)
    (hlost : Loses cost d d') : SumFits B incoming d' := by
  have hle := hlost.curBytes_le
  rcases h with hnil | hlt
  · refine .inl (List.eq_nil_of_sublist_nil ?_)
    rw [← hnil]
    exact hlost.sublist
  · exact .inr (by omega)

theorem Loses.dropFront (d : BoundedDeque α) : Loses cost d (d.dropFront cost) :=
  ⟨List.tail_sublist _, fun h => h.dropFront, Nat.sub_le _ _, rfl, rfl⟩

theorem Loses.dropBack (d : BoundedDeque α) : Loses cost d (d.dropBack cost) :=
  ⟨List.dropLast_sublist _, fun h => h.dropBack, Nat.sub_le _ _, rfl, rfl⟩

theorem Loses.capFront (d : BoundedDeque α) : Loses cost d (d.capFront cost) := by
  unfold BoundedDeque.capFront
  split
  · exact .dropFront d
  · exact .refl d

theorem Loses.evictBack (incoming : Nat) (newPriority : UInt8) (fuel : Nat) (d : BoundedDeque α) :
    Loses cost d (BoundedDeque.evictBack cost priorityOf incoming newPriority fuel d).1 := by
  induction fuel generalizing d with
  | zero => exact .refl d
  | succ fuel ih =>
    unfold BoundedDeque.evictBack
    split
    · split
      · exact .refl d
      · exact (Loses.dropBack d).trans (ih _)
    · exact .refl d

theorem Loses.evictBackOne (newPriority : UInt8) (d : BoundedDeque α) :
    Loses cost d (d.evictBackOne cost priorityOf newPriority).1 := by
  unfold BoundedDeque.evictBackOne
  split
  · split
    · exact .refl d
    · exact .dropBack d
  · exact .refl d

theorem evictFrontOn_of_fits {incoming : Nat} (fuel : Nat) (d : BoundedDeque α)
    (hfits : SumFits B incoming d) :
    evictFrontOn B cost incoming fuel d = (evictFront cost incoming fuel d, .ok ()) := by
  induction fuel generalizing d with
  | zero => rfl
  | succ fuel ih =>
    rw [evictFrontOn, evictFront, Program.read_bind_apply]
    by_cases hnil : d.q = []
    · rw [if_pos hnil, if_neg fun h => h.1 hnil, Program.pure_apply]
    · have hlt := hfits.resolve_left hnil
      rw [if_neg hnil, B.usizeAdd_of_lt hlt, Program.of_ok_bind_apply]
      by_cases hmax : d.maxBytes < d.curBytes + incoming
      · rw [if_pos hmax, if_pos ⟨hnil, hmax⟩, Program.modify_bind_apply]
        exact ih _ (hfits.of_loses (.dropFront d))
      · rw [if_neg hmax, if_neg fun h => hmax h.2, Program.pure_apply]

theorem evictBackOn_of_fits {incoming : Nat} (newPriority : UInt8) (fuel : Nat)
    (d : BoundedDeque α) (hfits : SumFits B incoming d) :
    evictBackOn B cost priorityOf incoming newPriority fuel d =
      evictBack cost priorityOf incoming newPriority fuel d := by
  induction fuel generalizing d with
  | zero => rfl
  | succ fuel ih =>
    rw [evictBackOn, evictBack, Program.read_bind_apply]
    by_cases hnil : d.q = []
    · rw [if_pos hnil, if_neg fun h => h.1 hnil, Program.pure_apply]
    · have hlt := hfits.resolve_left hnil
      rw [if_neg hnil, B.usizeAdd_of_lt hlt, Program.of_ok_bind_apply]
      by_cases hmax : d.maxBytes < d.curBytes + incoming
      · have hboth : d.q ≠ [] ∧ d.maxBytes < d.curBytes + incoming := ⟨hnil, hmax⟩
        rw [if_pos hmax, if_pos hboth]
        split
        · rfl
        · rw [Program.modify_bind_apply]
          exact ih _ (hfits.of_loses (.dropBack d))
      · rw [if_neg hmax, if_neg fun h => hmax h.2, Program.pure_apply]

/-- What the first test of a byte loop does where the sum overflows: it panics, or it takes
the wrapped sum for one that fits the budget. -/
def overflowed (B : Build) : Outcome Unit :=
  if B.overflowChecks then panics "attempt to add with overflow" else .ok ()

theorem not_sumFits {incoming : Nat} :
    ¬SumFits B incoming d ↔ d.q ≠ [] ∧ B.usizeModulus ≤ d.curBytes + incoming := by
  rw [SumFits, not_or, Nat.not_lt]

/-- An overflowing sum is at least one modulus and leaves less than `incoming`. -/
theorem overflow_wraps {cur incoming modulus : Nat} (hcur : cur < modulus)
    (hincoming : incoming < modulus) (hover : modulus ≤ cur + incoming) :
    (cur + incoming) % modulus < incoming := by
  rw [Nat.mod_eq_sub_mod hover, Nat.mod_eq_of_lt (by omega)]
  omega

/-- Where the sum does not fit, the loop evicts nothing. -/
theorem evictBackOn_of_overflow {incoming : Nat} (newPriority : UInt8)
    (hcur : d.curBytes < B.usizeModulus) (hincoming : incoming ≤ d.maxBytes)
    (hmax : d.maxBytes < B.usizeModulus) (hover : ¬SumFits B incoming d) :
    evictBackOn B cost priorityOf incoming newPriority d.q.length d = (d, overflowed B) := by
  obtain ⟨hnil, hover⟩ := not_sumFits.mp hover
  have hwrap := overflow_wraps hcur (by omega) hover
  obtain ⟨n, hn⟩ := Nat.exists_eq_succ_of_ne_zero (mt List.length_eq_zero_iff.mp hnil)
  rw [hn, evictBackOn, Program.read_bind_apply, if_neg hnil, Build.usizeAdd,
    if_neg (Nat.not_lt.mpr hover), overflowed]
  split
  · rfl
  · rw [Program.of_ok_bind_apply, if_neg (by omega), Program.pure_apply]

/-- The same for the loop of `prepare_push_fifo`. -/
theorem evictFrontOn_of_overflow {incoming : Nat} (hcur : d.curBytes < B.usizeModulus)
    (hincoming : incoming ≤ d.maxBytes) (hmax : d.maxBytes < B.usizeModulus)
    (hover : ¬SumFits B incoming d) :
    evictFrontOn B cost incoming d.q.length d = (d, overflowed B) := by
  obtain ⟨hnil, hover⟩ := not_sumFits.mp hover
  have hwrap := overflow_wraps hcur (by omega) hover
  obtain ⟨n, hn⟩ := Nat.exists_eq_succ_of_ne_zero (mt List.length_eq_zero_iff.mp hnil)
  rw [hn, evictFrontOn, Program.read_bind_apply, if_neg hnil, Build.usizeAdd,
    if_neg (Nat.not_lt.mpr hover), overflowed]
  split
  · rfl
  · rw [Program.of_ok_bind_apply, if_neg (by omega), Program.pure_apply]

end Sums

section Room
variable {α : Type} {B : Build} {cost : α → Nat} {d : BoundedDeque α}

/-- Below the element cap the ring has a free slot or grows by one at least. -/
theorem roomOn_of_room (hroom : d.q.length < d.maxElems) (hcap : d.q.length ≤ d.cap)
    (hmax : d.maxElems < B.usizeModulus) :
    ∃ room, d.roomOn B = .ok room ∧ room ≠ .evict ∧
      (d.enterRoom cost room).q.length < (d.enterRoom cost room).cap := by
  unfold roomOn
  by_cases hfree : d.q.length < d.cap
  · exact ⟨.enough, if_pos hfree, by decide, hfree⟩
  · rw [if_neg hfree, if_neg (by omega), if_neg (by omega), B.usizeAdd_of_lt (by omega)]
    simp only [ok_bind]
    rw [if_pos (by omega)]
    refine ⟨_, rfl, by simp, ?_⟩
    dsimp only [enterRoom]
    omega

theorem enterRoom_of_ne_evict {room : Room} (h : room ≠ .evict) :
    ∃ cap, d.enterRoom cost room = { d with cap := cap } := by
  cases room with
  | enough => exact ⟨d.cap, rfl⟩
  | evict => exact absurd rfl h
  | grow add => exact ⟨d.q.length + add, rfl⟩

/-- `ensure_room_for_one` below the element cap changes the capacity alone. -/
theorem ensureRoomForOneOn_of_room (cost : α → Nat) (hroom : d.q.length < d.maxElems)
    (hcap : d.q.length ≤ d.cap) (hmax : d.maxElems < B.usizeModulus) :
    ∃ cap, d.q.length < cap ∧ ensureRoomForOneOn B cost d = ({ d with cap := cap }, .ok ()) := by
  obtain ⟨room, hok, hevict, hlt⟩ := @roomOn_of_room α B cost d hroom hcap hmax
  obtain ⟨cap, hcap⟩ := @enterRoom_of_ne_evict α cost d room hevict
  rw [hcap] at hlt
  refine ⟨cap, hlt, ?_⟩
  rw [ensureRoomForOneOn, Program.read_bind_apply, hok, Program.of_ok_bind_apply,
    Program.modify_apply, hcap]

/-- What holds of every queue, whatever its items cost: the caps, and that the fields are
`usize`s. -/
structure Shaped (B : Build) (d : BoundedDeque α) : Prop where
  length_le : d.q.length ≤ d.maxElems
  length_le_cap : d.q.length ≤ d.cap
  maxElems_pos : 0 < d.maxElems
  maxElems_le : d.maxElems ≤ d.maxBytes
  maxBytes_lt : d.maxBytes < B.usizeModulus
  curBytes_lt : d.curBytes < B.usizeModulus

/-- And where no sum has overflowed: the bytes are those of the items, in the budget. -/
structure Kept (B : Build) (cost : α → Nat) (d : BoundedDeque α) : Prop extends Shaped B d where
  accounted : d.Accounted cost
  curBytes_le : d.curBytes ≤ d.maxBytes

theorem Shaped.maxElems_lt (h : Shaped B d) : d.maxElems < B.usizeModulus :=
  Nat.lt_of_le_of_lt h.maxElems_le h.maxBytes_lt

theorem Shaped.new {maxBytes startingBytes itemSize growNum : Nat}
    (h : BoundedDeque.new maxBytes startingBytes itemSize growNum = .ok d)
    (hmax : maxBytes < B.usizeModulus) : Shaped B d := by
  have hpos := new_maxBytes_pos h
  unfold BoundedDeque.new at h
  split at h
  · simp at h
  · split at h
    · simp at h
    · obtain rfl := Except.ok.inj h
      have hdiv := Nat.div_le_self maxBytes (max itemSize 1)
      refine ⟨Nat.zero_le _, Nat.zero_le _, ?_, ?_, hmax, B.usizeModulus_pos⟩
      · dsimp only
        omega
      · dsimp only
        omega

theorem Kept.new {maxBytes startingBytes itemSize growNum : Nat}
    (h : BoundedDeque.new maxBytes startingBytes itemSize growNum = .ok d)
    (hmax : maxBytes < B.usizeModulus) : Kept B cost d := by
  obtain ⟨-, hcur, -⟩ := new_eq_ok h
  exact ⟨.new h hmax, (Accounted.new h).1, by omega⟩

theorem Shaped.of_loses {d' : BoundedDeque α} (h : Shaped B d) (hlost : Loses cost d d')
    (hcap : d'.cap = d.cap) : Shaped B d' := by
  have hlen := hlost.sublist.length_le
  have hcur := hlost.curBytes_le
  obtain ⟨hl, hc, hp, he, hm, hb⟩ := h
  rw [← hlost.maxElems] at hl hp he
  rw [← hlost.maxBytes] at he hm
  rw [← hcap] at hc
  exact ⟨by omega, by omega, hp, he, hm, by omega⟩

theorem Kept.of_loses {d' : BoundedDeque α} (h : Kept B cost d) (hlost : Loses cost d d')
    (hcap : d'.cap = d.cap) : Kept B cost d' := by
  have hle := hlost.curBytes_le
  have hmax := hlost.maxBytes
  refine ⟨h.toShaped.of_loses hlost hcap, hlost.accounted h.accounted, ?_⟩
  rw [hmax]
  exact Nat.le_trans hle h.curBytes_le

/-- Room for one item: in the ring and in the budget. -/
theorem Shaped.reserve (h : Shaped B d) {cap : Nat} (hcap : d.q.length < cap) :
    Shaped B { d with cap := cap } :=
  ⟨h.length_le, Nat.le_of_lt hcap, h.maxElems_pos, h.maxElems_le, h.maxBytes_lt, h.curBytes_lt⟩

@[simp] theorem evictFront_cap (incoming fuel : Nat) (d : BoundedDeque α) :
    (evictFront cost incoming fuel d).cap = d.cap := by
  induction fuel generalizing d with
  | zero => rfl
  | succ fuel ih =>
    unfold evictFront
    split
    · exact ih _
    · rfl

@[simp] theorem capFront_cap (d : BoundedDeque α) : (d.capFront cost).cap = d.cap := by
  unfold capFront
  split <;> rfl

@[simp] theorem evictBack_cap (priorityOf : α → UInt8) (incoming : Nat) (newPriority : UInt8)
    (fuel : Nat) (d : BoundedDeque α) :
    (evictBack cost priorityOf incoming newPriority fuel d).1.cap = d.cap := by
  induction fuel generalizing d with
  | zero => rfl
  | succ fuel ih =>
    unfold evictBack
    split
    · split
      · rfl
      · exact ih _
    · rfl

@[simp] theorem evictBackOne_cap (priorityOf : α → UInt8) (newPriority : UInt8)
    (d : BoundedDeque α) : (d.evictBackOne cost priorityOf newPriority).1.cap = d.cap := by
  unfold evictBackOne
  split
  · split <;> rfl
  · rfl

end Room

section Pushes
variable {α : Type} {B : Build} {cost : α → Nat} {priorityOf : α → UInt8} {d : BoundedDeque α}

/-- Items have left `d`, and its ring is as it was. -/
structure Lost (cost : α → Nat) (d d' : BoundedDeque α) : Prop extends Loses cost d d' where
  cap : d'.cap = d.cap

theorem Lost.refl (d : BoundedDeque α) : Lost cost d d := ⟨.refl d, rfl⟩

theorem Lost.trans {d' d'' : BoundedDeque α} (h : Lost cost d d') (h' : Lost cost d' d'') :
    Lost cost d d'' := ⟨h.toLoses.trans h'.toLoses, h'.cap.trans h.cap⟩

theorem Lost.dropFront (d : BoundedDeque α) : Lost cost d (d.dropFront cost) :=
  ⟨.dropFront d, rfl⟩

theorem Lost.dropBack (d : BoundedDeque α) : Lost cost d (d.dropBack cost) :=
  ⟨.dropBack d, rfl⟩

theorem Lost.capFront (d : BoundedDeque α) : Lost cost d (d.capFront cost) :=
  ⟨.capFront d, capFront_cap d⟩

theorem Lost.evictBackOne (newPriority : UInt8) (d : BoundedDeque α) :
    Lost cost d (d.evictBackOne cost priorityOf newPriority).1 :=
  ⟨.evictBackOne newPriority d, evictBackOne_cap priorityOf newPriority d⟩

theorem evictFrontOn_lost (incoming fuel : Nat) (start : BoundedDeque α) :
    Program.Keeps (Lost cost start) (evictFrontOn B cost incoming fuel) := by
  induction fuel with
  | zero => exact .pure ()
  | succ fuel ih =>
    refine .bind .read fun d => .ite (.pure ()) (.bind (.of _) fun total => .ite ?_ (.pure ()))
    exact .bind (.modify fun s hs => hs.trans (.dropFront s)) fun _ => ih

theorem evictBackOn_lost (incoming : Nat) (newPriority : UInt8) (fuel : Nat)
    (start : BoundedDeque α) :
    Program.Keeps (Lost cost start)
      (evictBackOn B cost priorityOf incoming newPriority fuel) := by
  induction fuel with
  | zero => exact .pure ()
  | succ fuel ih =>
    refine .bind .read fun d => .ite (.pure ()) (.bind (.of _) fun total => .ite ?_ (.pure ()))
    refine .ite (.of _) ?_
    exact .bind (.modify fun s hs => hs.trans (.dropBack s)) fun _ => ih

/-- Before `ensure_room_for_one`, a push only takes items out. -/
theorem makeRoomFifo_lost (incoming : Nat) (d : BoundedDeque α) :
    Lost cost d (makeRoomFifo B cost incoming d).1 := by
  have hkeeps : Program.Keeps (Lost cost d) (makeRoomFifo B cost incoming) := by
    refine .bind .read fun s => .ite (.of _) (.bind (evictFrontOn_lost incoming _ d) fun _ => ?_)
    exact .modify fun s hs => hs.trans (.capFront s)
  exact hkeeps d (.refl d)

theorem makeRoomPrioritized_lost (v : α) (d : BoundedDeque α) :
    Lost cost d (makeRoomPrioritized B cost priorityOf v d).1 := by
  have hkeeps : Program.Keeps (Lost cost d) (makeRoomPrioritized B cost priorityOf v) := by
    refine .bind .read fun s => .ite (.of _) (.bind (evictBackOn_lost (cost v) _ _ d) fun _ => ?_)
    exact fun s hs => hs.trans (.evictBackOne _ s)
  exact hkeeps d (.refl d)

theorem Shaped.of_lost {d' : BoundedDeque α} (h : Shaped B d) (hlost : Lost cost d d') :
    Shaped B d' := h.of_loses hlost.toLoses hlost.cap

theorem Kept.of_lost {d' : BoundedDeque α} (h : Kept B cost d) (hlost : Lost cost d d') :
    Kept B cost d' := h.of_loses hlost.toLoses hlost.cap

/-- The element cap has left a place. -/
theorem capFront_length (h : Shaped B d) : (d.capFront cost).q.length < d.maxElems := by
  have hpos := h.maxElems_pos
  have hle := h.length_le
  unfold capFront
  split
  · simp only [dropFront, List.length_tail]
    omega
  · omega

theorem makeRoomFifo_length {incoming : Nat} {d' : BoundedDeque α} (h : Shaped B d)
    (hrun : makeRoomFifo B cost incoming d = (d', .ok ())) : d'.q.length < d'.maxElems := by
  rw [makeRoomFifo, Program.read_bind_apply] at hrun
  split at hrun
  · cases (Prod.mk.inj hrun).2
  · obtain ⟨d₁, _, hloop, hcap⟩ := Program.bind_apply_eq_ok.mp hrun
    obtain ⟨rfl, -⟩ := Prod.mk.inj hcap
    have hlost := @evictFrontOn_lost α B cost incoming d.q.length d d (.refl d)
    rw [hloop] at hlost
    have hlen := @capFront_length α B cost d₁ (h.of_lost hlost)
    rwa [(@Loses.capFront α cost d₁).maxElems]

theorem makeRoomPrioritized_length {v : α} {d' : BoundedDeque α} (h : Shaped B d)
    (hrun : makeRoomPrioritized B cost priorityOf v d = (d', .ok ())) :
    d'.q.length < d'.maxElems := by
  rw [makeRoomPrioritized, Program.read_bind_apply] at hrun
  split at hrun
  · cases (Prod.mk.inj hrun).2
  · obtain ⟨d₁, _, hloop, hcap⟩ := Program.bind_apply_eq_ok.mp hrun
    have hlost :=
      @evictBackOn_lost α B cost priorityOf (cost v) (priorityOf v) d.q.length d d (.refl d)
    rw [hloop] at hlost
    have hshape := h.of_lost hlost
    exact evictBackOne_length hshape.length_le hshape.maxElems_pos hcap

/-- A push fails where it makes room, or adds its item to what that leaves. -/
theorem pushOn_cases {makeRoom : QueueM α Unit} (add : BoundedDeque α → BoundedDeque α)
    (h : Shaped B d) (hlost : Lost cost d (makeRoom d).1)
    (hlen : ∀ d', makeRoom d = (d', .ok ()) → d'.q.length < d'.maxElems) :
    (∃ d' stop, makeRoom d = (d', .error stop) ∧
      pushOn B cost makeRoom add d = (d', .error stop)) ∨
    ∃ d' cap, makeRoom d = (d', .ok ()) ∧ d'.q.length < cap ∧
      pushOn B cost makeRoom add d = (add { d' with cap := cap }, .ok ()) := by
  cases hrun : makeRoom d with
  | mk d' result =>
    cases result with
    | error stop =>
      exact .inl ⟨d', stop, rfl, Program.bind_apply_of_error hrun⟩
    | ok u =>
      rw [hrun] at hlost
      have hshape := h.of_lost hlost
      obtain ⟨cap, hcap, hroom⟩ :=
        ensureRoomForOneOn_of_room cost (hlen d' hrun) hshape.length_le_cap hshape.maxElems_lt
      refine .inr ⟨d', cap, rfl, hcap, ?_⟩
      rw [pushOn, Program.bind_apply_of_ok hrun, Program.bind_apply_of_ok hroom,
        Program.modify_apply]

/-- `d'` is `d` with `v` and its bytes. -/
structure Adds (B : Build) (cost : α → Nat) (v : α) (d d' : BoundedDeque α) : Prop where
  perm : d'.q.Perm (v :: d.q)
  curBytes : d'.curBytes = B.saturatingAdd d.curBytes (cost v)
  maxBytes : d'.maxBytes = d.maxBytes
  maxElems : d'.maxElems = d.maxElems
  cap : d'.cap = d.cap

theorem Adds.append (v : α) (d : BoundedDeque α) : Adds B cost v d (append B cost v d) :=
  ⟨List.perm_append_singleton v d.q, rfl, rfl, rfl, rfl⟩

theorem Adds.insertOn (v : α) (d : BoundedDeque α) :
    Adds B cost v d (insertOn B cost priorityOf v d) :=
  ⟨List.perm_insertIdx _ _ List.findIdx_le_length, rfl, rfl, rfl, rfl⟩

theorem Shaped.add {d' : BoundedDeque α} {v : α} (h : Shaped B d) (hlen : d.q.length < d.maxElems)
    (hcap : d.q.length < d.cap) (hadds : Adds B cost v d d') : Shaped B d' := by
  obtain ⟨hperm, hcur, hmax, helems, hcap'⟩ := hadds
  have hlength : d'.q.length = d.q.length + 1 := hperm.length_eq
  have hlt := B.saturatingAdd_lt d.curBytes (cost v)
  obtain ⟨-, -, hpos, hle, hbytes, -⟩ := h
  refine ⟨by omega, by omega, by omega, by omega, by omega, ?_⟩
  rw [hcur]
  exact hlt

theorem Kept.add {d' : BoundedDeque α} {v : α} (h : Kept B cost d)
    (hlen : d.q.length < d.maxElems) (hcap : d.q.length < d.cap)
    (hfits : d.curBytes + cost v ≤ d.maxBytes) (hadds : Adds B cost v d d') : Kept B cost d' := by
  have hshape := h.toShaped.add hlen hcap hadds
  have hlt := h.maxBytes_lt
  have hacc := h.accounted
  have hcur := hadds.curBytes
  have hmax := hadds.maxBytes
  rw [B.saturatingAdd_of_lt (by omega)] at hcur
  refine ⟨hshape, ?_, by omega⟩
  rw [Accounted, hcur, (hadds.perm.map cost).sum_nat, List.map_cons, List.sum_cons, ← hacc,
    Nat.add_comm]

/-- An empty queue counts no bytes. -/
theorem Accounted.curBytes_of_nil (h : d.Accounted cost) (hnil : d.q = []) : d.curBytes = 0 := by
  rw [h, hnil, List.map_nil, List.sum_nil]

/-- The byte loop goes on until the item fits. -/
theorem evictFront_fits {incoming : Nat} (fuel : Nat) (d : BoundedDeque α)
    (hacc : d.Accounted cost) (hincoming : incoming ≤ d.maxBytes) (hfuel : d.q.length ≤ fuel) :
    (evictFront cost incoming fuel d).curBytes + incoming ≤ d.maxBytes := by
  induction fuel generalizing d with
  | zero =>
    have hcur := hacc.curBytes_of_nil (List.length_eq_zero_iff.mp (by omega))
    rw [evictFront]
    omega
  | succ fuel ih =>
    unfold evictFront
    split
    · rename_i hgo
      have hlength : (d.dropFront cost).q.length ≤ fuel := by
        simp only [dropFront, List.length_tail]
        omega
      exact ih (d.dropFront cost) hacc.dropFront hincoming hlength
    · rename_i hstop
      by_cases hnil : d.q = []
      · have hcur := hacc.curBytes_of_nil hnil
        omega
      · exact Nat.le_of_not_lt fun hmax => hstop ⟨hnil, hmax⟩

theorem evictBack_fits {incoming : Nat} (newPriority : UInt8) (fuel : Nat)
    (d d' : BoundedDeque α) (hacc : d.Accounted cost) (hincoming : incoming ≤ d.maxBytes)
    (hfuel : d.q.length ≤ fuel)
    (hrun : evictBack cost priorityOf incoming newPriority fuel d = (d', .ok ())) :
    d'.curBytes + incoming ≤ d.maxBytes := by
  induction fuel generalizing d with
  | zero =>
    have hcur := hacc.curBytes_of_nil (List.length_eq_zero_iff.mp (by omega))
    obtain ⟨rfl, -⟩ := Prod.mk.inj hrun
    omega
  | succ fuel ih =>
    unfold evictBack at hrun
    split at hrun
    · split at hrun
      · cases (Prod.mk.inj hrun).2
      · have hlength : (d.dropBack cost).q.length ≤ fuel := by
          simp only [dropBack, List.length_dropLast]
          omega
        exact ih (d.dropBack cost) hacc.dropBack hincoming hlength hrun
    · rename_i hstop
      obtain ⟨rfl, -⟩ := Prod.mk.inj hrun
      by_cases hnil : d.q = []
      · have hcur := hacc.curBytes_of_nil hnil
        omega
      · exact Nat.le_of_not_lt fun hmax => hstop ⟨hnil, hmax⟩

/-- Where the sum fits, `makeRoomFifo` needs no word arithmetic. -/
theorem makeRoomFifo_of_fits {incoming : Nat} (hincoming : incoming ≤ d.maxBytes)
    (hfits : SumFits B incoming d) :
    makeRoomFifo B cost incoming d =
      ((evictFront cost incoming d.q.length d).capFront cost, .ok ()) := by
  rw [makeRoomFifo, Program.read_bind_apply, if_neg (Nat.not_lt.mpr hincoming),
    Program.bind_apply_of_ok (evictFrontOn_of_fits d.q.length d hfits), Program.modify_apply]

theorem makeRoomPrioritized_of_fits {v : α} (hincoming : cost v ≤ d.maxBytes)
    (hfits : SumFits B (cost v) d) :
    makeRoomPrioritized B cost priorityOf v d =
      ((evictBack cost priorityOf (cost v) (priorityOf v) d.q.length : QueueM α Unit) >>=
        fun _ => capBack cost priorityOf (priorityOf v)) d := by
  have hloop := @evictBackOn_of_fits α B cost priorityOf (cost v) (priorityOf v) d.q.length d hfits
  rw [makeRoomPrioritized, Program.read_bind_apply, if_neg (Nat.not_lt.mpr hincoming)]
  exact Program.bind_congr_apply hloop fun _ => rfl

end Pushes

section Checked
variable {α : Type} {B : Build} {cost : α → Nat} {priorityOf : α → UInt8} {d : BoundedDeque α}

/-- A sum that fits `usize` fits it with overflow checks too. -/
theorem roomOn_checked (hroom : d.q.length < d.maxElems) (hmax : d.maxElems < B.usizeModulus) :
    d.roomOn B.checked = d.roomOn B := by
  unfold roomOn
  by_cases hfree : d.q.length < d.cap
  · rw [if_pos hfree, if_pos hfree]
  · rw [if_neg hfree, if_neg hfree]
    have hlen : ¬d.maxElems ≤ d.q.length := Nat.not_le.mpr hroom
    rw [if_neg hlen, if_neg hlen]
    by_cases hcap : d.maxElems ≤ d.cap
    · rw [if_pos hcap, if_pos hcap]
    · rw [if_neg hcap, if_neg hcap]
      have hlt : d.cap + 1 < B.usizeModulus := by omega
      have hchecked : B.checked.usizeAdd d.cap 1 = .ok (d.cap + 1) := B.checked.usizeAdd_of_lt hlt
      rw [hchecked, B.usizeAdd_of_lt hlt]
      rfl

theorem evictBack_neverPanics (incoming : Nat) (newPriority : UInt8) (fuel : Nat)
    (d : BoundedDeque α) :
    NeverPanics (evictBack cost priorityOf incoming newPriority fuel d).2 := by
  induction fuel generalizing d with
  | zero => exact .ok ()
  | succ fuel ih =>
    unfold evictBack
    split
    · split
      · exact .fail _
      · exact ih _
    · exact .ok ()

theorem evictBackOne_neverPanics (newPriority : UInt8) (d : BoundedDeque α) :
    NeverPanics (d.evictBackOne cost priorityOf newPriority).2 := by
  unfold evictBackOne
  split
  · split
    · exact .fail _
    · exact .ok ()
  · exact .ok ()

theorem makeRoomFifo_checked {incoming : Nat}
    (hfits : incoming ≤ d.maxBytes → SumFits B incoming d) :
    makeRoomFifo B.checked cost incoming d = makeRoomFifo B cost incoming d ∧
      NeverPanics (makeRoomFifo B cost incoming d).2 := by
  by_cases hincoming : incoming ≤ d.maxBytes
  · have hchecked : SumFits B.checked incoming d := hfits hincoming
    rw [makeRoomFifo_of_fits hincoming (hfits hincoming), makeRoomFifo_of_fits hincoming hchecked]
    exact ⟨rfl, .ok ()⟩
  · rw [makeRoomFifo, makeRoomFifo, Program.read_bind_apply, Program.read_bind_apply,
      if_pos (by omega), if_pos (by omega)]
    exact ⟨rfl, .fail _⟩

theorem makeRoomPrioritized_checked {v : α}
    (hfits : cost v ≤ d.maxBytes → SumFits B (cost v) d) :
    makeRoomPrioritized B.checked cost priorityOf v d = makeRoomPrioritized B cost priorityOf v d ∧
      NeverPanics (makeRoomPrioritized B cost priorityOf v d).2 := by
  by_cases hincoming : cost v ≤ d.maxBytes
  · have hchecked : SumFits B.checked (cost v) d := hfits hincoming
    rw [makeRoomPrioritized_of_fits hincoming (hfits hincoming),
      makeRoomPrioritized_of_fits hincoming hchecked]
    refine ⟨rfl, ?_⟩
    have hloop := @evictBack_neverPanics α cost priorityOf (cost v) (priorityOf v) d.q.length d
    cases hrun : evictBack cost priorityOf (cost v) (priorityOf v) d.q.length d with
    | mk d₁ result =>
      rw [hrun] at hloop
      cases result with
      | error stop =>
        rw [Program.bind_apply_of_error hrun]
        exact fun what heq => hloop what heq
      | ok u =>
        rw [Program.bind_apply_of_ok hrun]
        exact evictBackOne_neverPanics (priorityOf v) d₁
  · rw [makeRoomPrioritized, makeRoomPrioritized, Program.read_bind_apply, Program.read_bind_apply,
      if_pos (by omega), if_pos (by omega)]
    exact ⟨rfl, .fail _⟩

/-- A push whose parts do the same with overflow checks, and do not panic. -/
theorem pushOn_checked {makeRoom makeRoom' : QueueM α Unit}
    {add : BoundedDeque α → BoundedDeque α} (h : Shaped B d)
    (hlost : Lost cost d (makeRoom d).1)
    (hlen : ∀ d', makeRoom d = (d', .ok ()) → d'.q.length < d'.maxElems)
    (hsame : makeRoom' d = makeRoom d) (hquiet : NeverPanics (makeRoom d).2) :
    pushOn B.checked cost makeRoom' add d = pushOn B cost makeRoom add d ∧
      NeverPanics (pushOn B cost makeRoom add d).2 := by
  constructor
  · cases hmake : makeRoom d with
    | mk d' result =>
      rw [hmake] at hsame hlost
      cases result with
      | error stop =>
        rw [pushOn, pushOn, Program.bind_apply_of_error hsame, Program.bind_apply_of_error hmake]
      | ok u =>
        have hshape := h.of_lost hlost
        have hroom := roomOn_checked (hlen d' hmake) hshape.maxElems_lt
        have hensure : ensureRoomForOneOn B.checked cost d' = ensureRoomForOneOn B cost d' := by
          rw [ensureRoomForOneOn, ensureRoomForOneOn, Program.read_bind_apply,
            Program.read_bind_apply, hroom]
        rw [pushOn, pushOn, Program.bind_apply_of_ok hsame, Program.bind_apply_of_ok hmake]
        exact Program.bind_congr_apply hensure fun _ => rfl
  · rcases pushOn_cases add h hlost hlen with ⟨d', stop, hmake, hrun⟩ | ⟨d', cap, _, _, hrun⟩
    · rw [hmake] at hquiet
      rw [hrun]
      exact fun what heq => hquiet what heq
    · rw [hrun]
      exact .ok ()

end Checked

section Fitting
variable {α : Type} {B : Build} {cost : α → Nat} {priorityOf : α → UInt8} {d : BoundedDeque α}

/-- What each of the two ways to make room leaves where the sum fits, or is checked. -/
theorem makeRoomFifo_fits {v : α} {d' : BoundedDeque α} (h : Kept B cost d)
    (hfits : PushFits B cost v d)
    (hrun : makeRoomFifo B cost (cost v) d = (d', .ok ())) :
    d'.curBytes + cost v ≤ d'.maxBytes := by
  have hincoming : cost v ≤ d.maxBytes := by
    rw [makeRoomFifo, Program.read_bind_apply] at hrun
    split at hrun
    · cases (Prod.mk.inj hrun).2
    · omega
  by_cases hsum : SumFits B (cost v) d
  · rw [makeRoomFifo_of_fits hincoming hsum] at hrun
    obtain ⟨rfl, -⟩ := Prod.mk.inj hrun
    have hfront := evictFront_fits d.q.length d h.accounted hincoming (Nat.le_refl _)
    have hcap := @Loses.capFront α cost (evictFront cost (cost v) d.q.length d)
    have hle := hcap.curBytes_le
    rw [hcap.maxBytes, evictFront_maxBytes]
    omega
  · have hchecks := hfits.overflowChecks hincoming hsum
    have hloop := @evictFrontOn_of_overflow α B cost d (cost v) h.curBytes_lt hincoming
      h.maxBytes_lt hsum
    rw [overflowed, if_pos hchecks] at hloop
    rw [makeRoomFifo, Program.read_bind_apply, if_neg (Nat.not_lt.mpr hincoming),
      Program.bind_apply_of_error hloop] at hrun
    cases (Prod.mk.inj hrun).2

/-- A prioritized push that makes room has gone through both its evictions. -/
theorem makeRoomPrioritized_eq_ok {v : α} {d' : BoundedDeque α} (h : Shaped B d)
    (hfits : PushFits B cost v d)
    (hrun : makeRoomPrioritized B cost priorityOf v d = (d', .ok ())) :
    cost v ≤ d.maxBytes ∧ ∃ d₁,
      evictBack cost priorityOf (cost v) (priorityOf v) d.q.length d = (d₁, .ok ()) ∧
      d₁.evictBackOne cost priorityOf (priorityOf v) = (d', .ok ()) := by
  have hincoming : cost v ≤ d.maxBytes := by
    rw [makeRoomPrioritized, Program.read_bind_apply] at hrun
    split at hrun
    · cases (Prod.mk.inj hrun).2
    · omega
  refine ⟨hincoming, ?_⟩
  by_cases hsum : SumFits B (cost v) d
  · rw [makeRoomPrioritized_of_fits hincoming hsum] at hrun
    obtain ⟨d₁, _, hloop, hone⟩ := Program.bind_apply_eq_ok.mp hrun
    exact ⟨d₁, hloop, hone⟩
  · have hchecks := hfits.overflowChecks hincoming hsum
    have hloop := @evictBackOn_of_overflow α B cost priorityOf d (cost v) (priorityOf v)
      h.curBytes_lt hincoming h.maxBytes_lt hsum
    rw [overflowed, if_pos hchecks] at hloop
    rw [makeRoomPrioritized, Program.read_bind_apply, if_neg (Nat.not_lt.mpr hincoming),
      Program.bind_apply_of_error hloop] at hrun
    cases (Prod.mk.inj hrun).2

theorem makeRoomPrioritized_fits {v : α} {d' : BoundedDeque α} (h : Kept B cost d)
    (hfits : PushFits B cost v d)
    (hrun : makeRoomPrioritized B cost priorityOf v d = (d', .ok ())) :
    d'.curBytes + cost v ≤ d'.maxBytes := by
  obtain ⟨hincoming, d₁, hloop, hone⟩ := makeRoomPrioritized_eq_ok h.toShaped hfits hrun
  have hback := evictBack_fits (priorityOf v) d.q.length d d₁ h.accounted hincoming
    (Nat.le_refl _) hloop
  have hlost := @Loses.evictBack α cost priorityOf (cost v) (priorityOf v) d.q.length d
  have hcap := @Loses.evictBackOne α cost priorityOf (priorityOf v) d₁
  rw [hloop] at hlost
  rw [hone] at hcap
  have hle := hcap.curBytes_le
  rw [hcap.maxBytes, hlost.maxBytes]
  dsimp only at hle
  omega

end Fitting

section Agreement
variable {α : Type} {B : Build} {cost : α → Nat} {priorityOf : α → UInt8} {d : BoundedDeque α}

/-- Two queues with the same items, bytes and caps. -/
structure Agree (d d' : BoundedDeque α) : Prop where
  q : d.q = d'.q
  curBytes : d.curBytes = d'.curBytes
  maxBytes : d.maxBytes = d'.maxBytes
  maxElems : d.maxElems = d'.maxElems

theorem Agree.refl (d : BoundedDeque α) : Agree d d := ⟨rfl, rfl, rfl, rfl⟩

theorem ensureRoomForOne_of_room (h : d.q.length < d.maxElems) :
    ∃ cap, d.ensureRoomForOne cost = { d with cap := cap } := by
  unfold ensureRoomForOne
  dsimp only
  split
  · exact ⟨d.cap, rfl⟩
  · rw [if_neg (by omega), if_neg (by omega), if_pos (by omega)]
    exact ⟨_, rfl⟩

/-- Where its sum fits, a prioritized push is the one on natural numbers. -/
theorem pushBackPrioritizedOn_agrees (h : Kept B cost d) (v : α)
    (hfits : cost v ≤ d.maxBytes → SumFits B (cost v) d) :
    (pushBackPrioritizedOn B cost priorityOf v d).2 = (d.pushBackPrioritized cost priorityOf v).2 ∧
      Agree (pushBackPrioritizedOn B cost priorityOf v d).1
        (d.pushBackPrioritized cost priorityOf v).1 := by
  have hlost := @makeRoomPrioritized_lost α B cost priorityOf v d
  unfold pushBackPrioritizedOn BoundedDeque.pushBackPrioritized
  by_cases hincoming : d.maxBytes < cost v
  · have hmake : makeRoomPrioritized B cost priorityOf v d =
        (d, fail (.packetTooLarge "Item exceeds maximum byte budget")) := by
      rw [makeRoomPrioritized, Program.read_bind_apply, if_pos hincoming, Program.of_apply]
    rw [if_pos hincoming, pushOn, Program.bind_apply_of_error hmake]
    exact ⟨rfl, .refl d⟩
  · have hle := Nat.not_lt.mp hincoming
    have hmake := @makeRoomPrioritized_of_fits α B cost priorityOf d v hle (hfits hle)
    rw [if_neg hincoming]
    cases hloop : evictBack cost priorityOf (cost v) (priorityOf v) d.q.length d with
    | mk d₁ result =>
      cases result with
      | error stop =>
        rw [Program.bind_apply_of_error hloop] at hmake
        rw [pushOn, Program.bind_apply_of_error hmake]
        exact ⟨rfl, .refl d₁⟩
      | ok u =>
        rw [Program.bind_apply_of_ok hloop] at hmake
        have hone : capBack cost priorityOf (priorityOf v) d₁ =
          d₁.evictBackOne cost priorityOf (priorityOf v) := rfl
        rw [hone] at hmake
        dsimp only
        cases hcap : d₁.evictBackOne cost priorityOf (priorityOf v) with
        | mk d₂ result =>
          rw [hcap] at hmake
          cases result with
          | error stop =>
            rw [pushOn, Program.bind_apply_of_error hmake]
            exact ⟨rfl, .refl d₂⟩
          | ok u =>
            rw [hmake] at hlost
            have hshape := h.toShaped.of_lost hlost
            have hlen := makeRoomPrioritized_length h.toShaped hmake
            have hroom := makeRoomPrioritized_fits h (.inr (.inr (hfits hle))) hmake
            obtain ⟨cap, -, hword⟩ :=
              ensureRoomForOneOn_of_room cost hlen hshape.length_le_cap hshape.maxElems_lt
            obtain ⟨cap', hnat⟩ := @ensureRoomForOne_of_room α cost d₂ hlen
            have hlt := hshape.maxBytes_lt
            have hsum := B.saturatingAdd_of_lt (Nat.lt_of_le_of_lt hroom hlt)
            rw [pushOn, Program.bind_apply_of_ok hmake, Program.bind_apply_of_ok hword,
              Program.modify_apply]
            dsimp only
            rw [hnat]
            exact ⟨rfl, rfl, hsum, rfl, rfl⟩

end Agreement

section Calls
variable {α : Type} {B : Build} {cost : α → Nat} {priorityOf : α → UInt8} {d : BoundedDeque α}

theorem Kept.reserve (h : Kept B cost d) {cap : Nat} (hcap : d.q.length < cap) :
    Kept B cost { d with cap := cap } :=
  ⟨h.toShaped.reserve hcap, h.accounted, h.curBytes_le⟩

section
variable {makeRoom : QueueM α Unit} {add : BoundedDeque α → BoundedDeque α} {v : α}

theorem Shaped.pushOn (h : Shaped B d) (hlost : Lost cost d (makeRoom d).1)
    (hlen : ∀ d', makeRoom d = (d', .ok ()) → d'.q.length < d'.maxElems)
    (hadds : ∀ s, Adds B cost v s (add s)) : Shaped B (pushOn B cost makeRoom add d).1 := by
  rcases pushOn_cases add h hlost hlen with ⟨d', stop, hmake, hpush⟩ | ⟨d', cap, hmake, hcap, hpush⟩
  · rw [hmake] at hlost
    rw [hpush]
    exact h.of_lost hlost
  · rw [hmake] at hlost
    rw [hpush]
    exact ((h.of_lost hlost).reserve hcap).add (hlen d' hmake) hcap (hadds _)

theorem Kept.pushOn (h : Kept B cost d) (hlost : Lost cost d (makeRoom d).1)
    (hlen : ∀ d', makeRoom d = (d', .ok ()) → d'.q.length < d'.maxElems)
    (hfits : ∀ d', makeRoom d = (d', .ok ()) → d'.curBytes + cost v ≤ d'.maxBytes)
    (hadds : ∀ s, Adds B cost v s (add s)) : Kept B cost (pushOn B cost makeRoom add d).1 := by
  rcases pushOn_cases add h.toShaped hlost hlen with
    ⟨d', stop, hmake, hpush⟩ | ⟨d', cap, hmake, hcap, hpush⟩
  · rw [hmake] at hlost
    rw [hpush]
    exact h.of_lost hlost
  · rw [hmake] at hlost
    rw [hpush]
    exact ((h.of_lost hlost).reserve hcap).add (hlen d' hmake) hcap (hfits d' hmake) (hadds _)

end

/-- Calls that only take items out. -/
theorem Lost.removePos (idx : Nat) (d : BoundedDeque α) : Lost cost d (d.removePos cost idx) := by
  refine ⟨⟨List.eraseIdx_sublist _ _, fun hacc => ?_, Nat.sub_le _ _, rfl, rfl⟩, rfl⟩
  unfold Accounted at hacc ⊢
  dsimp only [BoundedDeque.removePos]
  cases hget : d.q[idx]? with
  | none =>
    rw [List.eraseIdx_of_length_le (List.getElem?_eq_none_iff.mp hget), hacc]
    rfl
  | some v =>
    obtain ⟨hlt, hv⟩ := List.getElem?_eq_some_iff.mp hget
    have hsum := ((List.getElem_cons_eraseIdx_perm hlt).map cost).sum_nat
    rw [List.map_cons, List.sum_cons, hv] at hsum
    rw [Option.map_some, Option.getD_some]
    omega

theorem Lost.removeValue [DecidableEq α] (needle : α) (d : BoundedDeque α) :
    Lost cost d (d.removeValue cost needle) := by
  unfold BoundedDeque.removeValue
  split
  · exact .removePos _ d
  · exact .refl d

theorem Lost.retain (keep : α → Bool) (d : BoundedDeque α) :
    Lost cost d (retainFrom cost keep d.q.length 0 d) := by
  rw [retainFrom_zero]
  exact ⟨.retain keep, rfl⟩

theorem Lost.clear (d : BoundedDeque α) : Lost cost d d.clear := ⟨.clear, rfl⟩

variable [DecidableEq α]

def CallFits (B : Build) (cost : α → Nat) (d : BoundedDeque α) : QueueCall α → Prop
  | .pushBack v => PushFits B cost v d
  | .pushBackPrioritized _ v => PushFits B cost v d
  | _ => True

/-- Every call keeps the caps. -/
theorem Shaped.perform (h : Shaped B d) (call : QueueCall α) :
    Shaped B (perform B cost call d).1 := by
  cases call with
  | pushBack v =>
    exact h.pushOn (makeRoomFifo_lost _ d) (fun _ => makeRoomFifo_length h) (.append v)
  | pushBackPrioritized priorityOf v =>
    exact h.pushOn (makeRoomPrioritized_lost v d) (fun _ => makeRoomPrioritized_length h)
      (.insertOn v)
  | popFront => exact h.of_lost (@Lost.dropFront α cost d)
  | popBack => exact h.of_lost (@Lost.dropBack α cost d)
  | removePos idx => exact h.of_lost (@Lost.removePos α cost idx d)
  | removeValue needle => exact h.of_lost (@Lost.removeValue α cost _ needle d)
  | retain keep => exact h.of_lost (@Lost.retain α cost keep d)
  | clear => exact h.of_lost (@Lost.clear α cost d)
  | overallocate slack =>
    exact ⟨h.length_le, Nat.le_add_right_of_le h.length_le_cap, h.maxElems_pos, h.maxElems_le,
      h.maxBytes_lt, h.curBytes_lt⟩

/-- Every call whose sum does not overflow keeps the account. -/
theorem Kept.perform {call : QueueCall α} (h : Kept B cost d) (hfits : CallFits B cost d call) :
    Kept B cost (perform B cost call d).1 := by
  cases call with
  | pushBack v =>
    exact h.pushOn (makeRoomFifo_lost _ d) (fun _ => makeRoomFifo_length h.toShaped)
      (fun _ => makeRoomFifo_fits h hfits) (.append v)
  | pushBackPrioritized priorityOf v =>
    exact h.pushOn (makeRoomPrioritized_lost v d) (fun _ => makeRoomPrioritized_length h.toShaped)
      (fun _ => makeRoomPrioritized_fits h hfits) (.insertOn v)
  | popFront => exact h.of_lost (.dropFront d)
  | popBack => exact h.of_lost (.dropBack d)
  | removePos idx => exact h.of_lost (.removePos idx d)
  | removeValue needle => exact h.of_lost (.removeValue needle d)
  | retain keep => exact h.of_lost (.retain keep d)
  | clear => exact h.of_lost (.clear d)
  | overallocate slack =>
    exact ⟨h.toShaped.perform (.overallocate slack), h.accounted, h.curBytes_le⟩

/-- The caps are fixed. -/
theorem perform_caps (call : QueueCall α) (h : Shaped B d) :
    (perform B cost call d).1.maxBytes = d.maxBytes ∧
      (perform B cost call d).1.maxElems = d.maxElems := by
  have hpush {makeRoom : QueueM α Unit} {add : BoundedDeque α → BoundedDeque α} {v : α}
      (hlost : Lost cost d (makeRoom d).1)
      (hlen : ∀ d', makeRoom d = (d', .ok ()) → d'.q.length < d'.maxElems)
      (hadds : ∀ s, Adds B cost v s (add s)) :
      (pushOn B cost makeRoom add d).1.maxBytes = d.maxBytes ∧
        (pushOn B cost makeRoom add d).1.maxElems = d.maxElems := by
    rcases pushOn_cases add h hlost hlen with ⟨d', stop, hmake, hrun⟩ | ⟨d', cap, hmake, _, hrun⟩
    · rw [hmake] at hlost
      rw [hrun]
      exact ⟨hlost.maxBytes, hlost.maxElems⟩
    · rw [hmake] at hlost
      rw [hrun]
      exact ⟨(hadds _).maxBytes.trans hlost.maxBytes, (hadds _).maxElems.trans hlost.maxElems⟩
  cases call with
  | pushBack v => exact hpush (makeRoomFifo_lost _ d) (fun _ => makeRoomFifo_length h) (.append v)
  | pushBackPrioritized priorityOf v =>
    exact hpush (makeRoomPrioritized_lost v d) (fun _ => makeRoomPrioritized_length h) (.insertOn v)
  | removeValue needle =>
    have hlost := @Lost.removeValue α cost _ needle d
    exact ⟨hlost.maxBytes, hlost.maxElems⟩
  | retain keep =>
    have hlost := @Lost.retain α cost keep d
    exact ⟨hlost.maxBytes, hlost.maxElems⟩
  | popFront => exact ⟨rfl, rfl⟩
  | popBack => exact ⟨rfl, rfl⟩
  | removePos idx => exact ⟨rfl, rfl⟩
  | clear => exact ⟨rfl, rfl⟩
  | overallocate slack => exact ⟨rfl, rfl⟩
/-- A call whose sum, if it forms one, fits does the same with overflow checks, and does not
panic. -/
theorem perform_checked (call : QueueCall α) (h : Shaped B d)
    (hsum : ∀ v, cost v ≤ d.maxBytes → SumFits B (cost v) d) :
    perform B.checked cost call d = perform B cost call d ∧
      NeverPanics (perform B cost call d).2 := by
  cases call with
  | pushBack v =>
    obtain ⟨hsame, hquiet⟩ := @makeRoomFifo_checked α B cost d (cost v) (hsum v)
    exact pushOn_checked h (makeRoomFifo_lost _ d) (fun _ => makeRoomFifo_length h) hsame hquiet
  | pushBackPrioritized priorityOf v =>
    obtain ⟨hsame, hquiet⟩ := @makeRoomPrioritized_checked α B cost priorityOf d v (hsum v)
    exact pushOn_checked h (makeRoomPrioritized_lost v d) (fun _ => makeRoomPrioritized_length h)
      hsame hquiet
  | popFront => exact ⟨rfl, .ok ()⟩
  | popBack => exact ⟨rfl, .ok ()⟩
  | removePos idx => exact ⟨rfl, .ok ()⟩
  | removeValue needle => exact ⟨rfl, .ok ()⟩
  | retain keep => exact ⟨rfl, .ok ()⟩
  | clear => exact ⟨rfl, .ok ()⟩
  | overallocate slack => exact ⟨rfl, .ok ()⟩

end Calls

end BoundedDeque
end Sedsprintf
