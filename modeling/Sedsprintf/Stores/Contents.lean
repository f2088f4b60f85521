import Sedsprintf.Stores.Moves
import Mathlib.Algebra.Order.Group.Multiset

/-!
# What the reorder buffers hold

The frames in the reorder buffers as a multiset, each as the reading `tag` has it, and what
becomes of them: an early frame comes in, a released one goes out, and making room only takes
some away.
-/
namespace Sedsprintf

open Lib

section Frames
variable {β : Type}

/-- The frames one stream buffers. -/
def ReliableRxState.frames (tag : List UInt8 → β) (rx : ReliableRxState) : Multiset β :=
  ↑(rx.buffered.toList.map fun f => tag f.2)

variable {tag : List UInt8 → β} {rx : ReliableRxState} {buffered : OrdMap UInt32 (List UInt8)}

theorem ReliableRxState.frames_fresh : ReliableRxState.fresh.frames tag = 0 := by
  have hnil : (∅ : OrdMap UInt32 (List UInt8)).toList = [] := Std.ExtTreeMap.toList_eq_nil_iff.mpr rfl
  simp [frames, ReliableRxState.fresh, hnil]

/-- A buffered frame beside the others. -/
theorem ReliableRxState.frames_erase {seq expected : UInt32} {bytes : List UInt8}
    (h : buffered[seq]? = some bytes) :
    ReliableRxState.frames tag ⟨expected, buffered⟩ =
      tag bytes ::ₘ ReliableRxState.frames tag ⟨expected, buffered.erase seq⟩ := by
  have hperm := (OrdMap.toList_perm_erase h).map fun f => tag f.2
  exact (Multiset.coe_eq_coe.mpr hperm).trans (by simp [frames])

theorem ReliableRxState.frames_dropFirst_le :
    ReliableRxState.frames tag { rx with buffered := OrdMap.dropFirst rx.buffered } ≤
      rx.frames tag := by
  rcases OrdMap.dropFirst_cases rx.buffered with ⟨-, hsame⟩ | ⟨seq, hmem, herase⟩
  · rw [hsame]
  · obtain ⟨bytes, hget⟩ := OrdMap.mem_iff_get?.mp hmem
    have hsplit := @ReliableRxState.frames_erase β tag rx.buffered seq rx.expectedSeq bytes hget
    rw [herase]
    calc ReliableRxState.frames tag ⟨rx.expectedSeq, rx.buffered.erase seq⟩
      _ ≤ tag bytes ::ₘ ReliableRxState.frames tag ⟨rx.expectedSeq, rx.buffered.erase seq⟩ :=
        Multiset.le_cons_self _ _
      _ = rx.frames tag := hsplit.symm

/-- A released frame leaves the buffer. -/
theorem releaseBuffered_frames (fuel : Nat) (last next expected : UInt32)
    (buffered : OrdMap UInt32 (List UInt8)) :
    ↑((releaseBuffered fuel last next buffered).1.map tag) +
        (releaseBuffered fuel last next buffered).2.2.frames tag =
      ReliableRxState.frames tag ⟨expected, buffered⟩ := by
  induction fuel generalizing last next buffered with
  | zero => simp [releaseBuffered, ReliableRxState.frames]
  | succ fuel ih =>
    unfold releaseBuffered
    split
    · simp [ReliableRxState.frames]
    · rename_i bytes hget
      have hrest := ih next (nextSeqAfter next) (buffered.erase next)
      rw [ReliableRxState.frames_erase hget, ← hrest, List.map_cons, ← Multiset.cons_coe,
        Multiset.cons_add]

/-- The frames released behind the arriving one. -/
def Arrival.behind : Arrival → List (List UInt8)
  | .released frames _ => frames.tail
  | _ => []

theorem ReliableRxState.arrive_frames (rx : ReliableRxState) (seq : UInt32) (bytes : List UInt8) :
    ↑((rx.arrive seq bytes).2.behind.map tag) + (rx.arrive seq bytes).1.frames tag =
      rx.frames tag := by
  rcases rx.arrive_cases seq bytes with ⟨-, heq⟩ | ⟨-, heq⟩ | ⟨-, heq⟩
  · simp [heq, Arrival.behind]
  · simp [heq, Arrival.behind]
  · rw [heq]
    exact releaseBuffered_frames _ _ _ rx.expectedSeq rx.buffered

theorem ReliableRxState.bufferFrame_frames_le (B : Build) (rx : ReliableRxState) (seq : UInt32)
    (bytes : List UInt8) :
    (rx.bufferFrame B seq bytes).frames tag ≤ tag bytes ::ₘ rx.frames tag := by
  have hinsert : ∀ buffered : OrdMap UInt32 (List UInt8),
      ReliableRxState.frames tag ⟨rx.expectedSeq, buffered.insert seq bytes⟩ ≤
        tag bytes ::ₘ ReliableRxState.frames tag ⟨rx.expectedSeq, buffered⟩ := by
    intro buffered
    have hperm := (OrdMap.toList_perm_insert buffered seq bytes).map fun f => tag f.2
    have hnew : ReliableRxState.frames tag ⟨rx.expectedSeq, buffered.insert seq bytes⟩ =
        tag bytes ::ₘ ReliableRxState.frames tag ⟨rx.expectedSeq, buffered.erase seq⟩ :=
      (Multiset.coe_eq_coe.mpr hperm).trans (by simp [frames])
    rw [hnew, Multiset.cons_le_cons_iff]
    cases hget : buffered[seq]? with
    | none => rw [OrdMap.erase_of_get?_none hget]
    | some old =>
      rw [ReliableRxState.frames_erase hget]
      exact Multiset.le_cons_self _ _
  unfold ReliableRxState.bufferFrame
  dsimp only
  split
  · exact (hinsert _).trans (Multiset.cons_le_cons _ frames_dropFirst_le)
  · exact hinsert _

end Frames

section Streams
variable {β : Type} {S : Schema} {tag : Nat → List UInt8 → β} {streams streams' : RxStreams S}

/-- The frames all streams buffer, with their sides. -/
def RxStreams.frames (tag : Nat → List UInt8 → β) (streams : RxStreams S) : Multiset β :=
  (streams.toList.map fun e => e.2.frames (tag e.1.side)).sum

theorem RxStreams.frames_empty : RxStreams.frames tag (∅ : RxStreams S) = 0 := by
  have hnil : (∅ : RxStreams S).toList = [] := Std.ExtTreeMap.toList_eq_nil_iff.mpr rfl
  simp [frames, hnil]

/-- One stream changes. -/
theorem RxStreams.frames_insert (streams : RxStreams S) (key : StreamKey S) (rx : ReliableRxState) :
    RxStreams.frames tag (streams.insert key rx) + (streams.at key).frames (tag key.side) =
      rx.frames (tag key.side) + streams.frames tag := by
  have hperm := (OrdMap.toList_perm_insert streams key rx).map fun e => e.2.frames (tag e.1.side)
  have hnew : RxStreams.frames tag (streams.insert key rx) =
      rx.frames (tag key.side) + RxStreams.frames tag (streams.erase key) := by
    exact hperm.sum_eq.trans (by simp [frames])
  rw [hnew, add_assoc]
  congr 1
  cases hget : streams[key]? with
  | none =>
    rw [OrdMap.erase_of_get?_none hget, RxStreams.at, hget, Option.getD_none,
      ReliableRxState.frames_fresh, add_zero]
  | some old =>
    have hold := (OrdMap.toList_perm_erase hget).map fun e => e.2.frames (tag e.1.side)
    rw [RxStreams.at, hget, Option.getD_some]
    exact (hold.sum_eq.trans (by simp [frames, add_comm])).symm

/-- A stream that grows by `grown` at most, and gives up `given`. -/
theorem RxStreams.frames_insert_le {key : StreamKey S} {rx : ReliableRxState}
    {given grown : Multiset β}
    (h : given + rx.frames (tag key.side) ≤ grown + (streams.at key).frames (tag key.side)) :
    given + RxStreams.frames tag (streams.insert key rx) ≤ grown + streams.frames tag := by
  have hinsert := @RxStreams.frames_insert β S tag streams key rx
  refine le_of_add_le_add_right (a := (streams.at key).frames (tag key.side)) ?_
  calc given + RxStreams.frames tag (streams.insert key rx) + (streams.at key).frames (tag key.side)
    _ = given + rx.frames (tag key.side) + streams.frames tag := by
      rw [add_assoc, hinsert, ← add_assoc]
    _ ≤ grown + (streams.at key).frames (tag key.side) + streams.frames tag :=
      add_le_add h le_rfl
    _ = grown + streams.frames tag + (streams.at key).frames (tag key.side) := by
      rw [add_assoc, add_assoc, add_comm (streams.frames tag)]

theorem RxStreams.frames_filter_le (keep : StreamKey S → ReliableRxState → Bool) :
    RxStreams.frames tag (streams.filter keep) ≤ streams.frames tag := by
  unfold frames
  rw [Std.ExtTreeMap.toList_filter]
  exact (List.Sublist.map _ List.filter_sublist).sum_le_sum fun _ _ => Multiset.zero_le _

theorem popReliableRxBuffered_frames_le (h : popReliableRxBuffered streams = some streams') :
    streams'.frames tag ≤ streams.frames tag := by
  obtain ⟨key, rx, hrx, -, rfl⟩ := popReliableRxBuffered_eq_some h
  have hat : streams.at key = rx := by
    rw [RxStreams.at, hrx, Option.getD_some]
  have hdrop := @ReliableRxState.frames_dropFirst_le β (tag key.side) rx
  have hinsert := @RxStreams.frames_insert_le β S tag streams key
    { rx with buffered := OrdMap.dropFirst rx.buffered } 0 0 (by simpa [hat] using hdrop)
  simpa using hinsert

end Streams

/-- A pushed item comes in, or is lost, and so may others be. -/
theorem BoundedDeque.pushBackPrioritized_subperm {α : Type} {cost : α → Nat} (d : BoundedDeque α)
    (priorityOf : α → UInt8) (v : α) :
    (d.pushBackPrioritized cost priorityOf v).1.q.Subperm (v :: d.q) := by
  rcases @BoundedDeque.pushBackPrioritized_contents α cost d priorityOf v with
    ⟨kept, hkept, hperm, -⟩ | ⟨hsub, -⟩
  · exact hperm.subperm.trans (hkept.cons_cons v).subperm
  · exact (hsub.trans (List.sublist_cons_self v d.q)).subperm

namespace Stores
variable {κ Q β : Type} {S : Schema} {B : Build} {keySize : Nat} {set : QueueSet κ Q}
  {tag : Nat → List UInt8 → β}

/-- A relation that taking from any store is in. -/
structure Shrinking (set : QueueSet κ Q) (rel : Stores Q S → Stores Q S → Prop) : Prop where
  refl : ∀ st, rel st st
  trans : ∀ {st st' st''}, rel st st' → rel st' st'' → rel st st''
  pop : ∀ {st st' kind}, popSharedQueueItem set st kind = some st' → rel st st'

theorem Shrinking.makeSharedQueueRoom {rel : Stores Q S → Stores Q S → Prop}
    (h : Shrinking set rel) (st : Stores Q S) (cost : Nat) (preferred : StoreKind κ) :
    rel st (makeSharedQueueRoom B keySize set st cost preferred).1 := by
  have hroom := @Budget.makeRoom_relation _ _ (budget B keySize set) B.maxQueueBudget cost
    (sharedItems set st + 1) preferred st rel h.refl h.trans h.pop
  unfold Stores.makeSharedQueueRoom
  split
  · exact h.refl st
  · generalize (budget B keySize set).makeRoom B.maxQueueBudget cost preferred
      (sharedItems set st + 1) st = r at hroom
    obtain ⟨st', _ | _ | _⟩ := r
    · exact hroom
    · exact hroom
    · exact hroom

end Stores
end Sedsprintf
