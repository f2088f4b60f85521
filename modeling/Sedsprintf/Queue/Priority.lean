import Sedsprintf.Queue.Calls

/-!
# Priority order of a bounded queue

What the byte loop of `push_back_prioritized` takes away is a tail of the queue, the
shortest one that helps; where it meets an item of higher priority it stops. The item goes
behind everything of at least its priority.
-/
namespace Sedsprintf
open Lib

namespace BoundedDeque
variable {α : Type} {B : Build} {cost : α → Nat} {priorityOf : α → UInt8} {d : BoundedDeque α}

section Eviction

/-- The byte loop, for an item of `incoming` bytes, leaves `kept` and has reason to evict each
item of `evicted`. -/
structure Evicts (cost : α → Nat) (priorityOf : α → UInt8) (incoming : Nat)
    (newPriority : UInt8) (d : BoundedDeque α) (kept evicted : List α) : Prop where
  split : d.q = kept ++ evicted
  lower : ∀ w ∈ evicted, priorityOf w ≤ newPriority
  needed : ∀ kept' evicted', d.q = kept' ++ evicted' → evicted'.length < evicted.length →
    d.maxBytes < d.curBytes - (evicted'.map cost).sum + incoming

/-- `d` without the tail `evicted`. -/
def without (cost : α → Nat) (kept evicted : List α) (d : BoundedDeque α) : BoundedDeque α :=
  { d with q := kept, curBytes := d.curBytes - (evicted.map cost).sum }

theorem without_nil (d : BoundedDeque α) : d.without cost d.q [] = d := rfl

theorem dropBack_eq_without {front : List α} {last : α} (hq : d.q = front ++ [last]) :
    d.dropBack cost = d.without cost front [last] := by
  simp [dropBack, without, hq]

theorem without_without (front kept evicted : List α) (last : α) (d : BoundedDeque α) :
    (d.without cost front [last]).without cost kept evicted =
      d.without cost kept (evicted ++ [last]) := by
  simp only [without, List.map_append, List.sum_append, List.map_singleton, List.sum_singleton]
  rw [Nat.sub_sub, Nat.add_comm]

/-- One round of the loop, before the rest of it. -/
theorem Evicts.snoc {incoming : Nat} {newPriority : UInt8} {front kept evicted : List α} {last : α}
    (hq : d.q = front ++ [last]) (hmax : d.maxBytes < d.curBytes + incoming)
    (hlast : priorityOf last ≤ newPriority)
    (h : Evicts cost priorityOf incoming newPriority (d.without cost front [last]) kept evicted) :
    Evicts cost priorityOf incoming newPriority d kept (evicted ++ [last]) := by
  have hfront : front = kept ++ evicted := h.split
  refine ⟨by rw [hq, hfront, List.append_assoc], fun w hw => ?_, fun kept' evicted' hsplit hlt => ?_⟩
  · rcases List.mem_append.mp hw with hw | hw
    · exact h.lower w hw
    · rw [List.mem_singleton.mp hw]
      exact hlast
  · rcases List.eq_nil_or_concat evicted' with rfl | ⟨shorter, last', rfl⟩
    · rw [List.map_nil, List.sum_nil, Nat.sub_zero]
      exact hmax
    · rw [List.concat_eq_append, hq, ← List.append_assoc] at hsplit
      obtain ⟨hshorter, heq⟩ := List.append_inj' hsplit rfl
      obtain rfl := List.singleton_inj.mp heq
      rw [List.concat_eq_append, List.length_append, List.length_append] at hlt
      have hneeded := h.needed kept' shorter hshorter (by simpa using hlt)
      simp only [without, List.map_singleton, List.sum_singleton] at hneeded
      rw [List.concat_eq_append, List.map_append, List.sum_append, List.map_singleton,
        List.sum_singleton, Nat.add_comm (shorter.map cost).sum, ← Nat.sub_sub]
      exact hneeded

/-- What the byte loop does: it evicts a tail until the item fits, or until an item of higher
priority is in the way. -/
theorem evictBack_evicts (incoming : Nat) (newPriority : UInt8) (fuel : Nat) (d : BoundedDeque α)
    (hfuel : d.q.length ≤ fuel) :
    ∃ kept evicted, Evicts cost priorityOf incoming newPriority d kept evicted ∧
      ((evictBack cost priorityOf incoming newPriority fuel d =
          (d.without cost kept evicted, .ok ()) ∧
        (kept = [] ∨ d.curBytes - (evicted.map cost).sum + incoming ≤ d.maxBytes)) ∨
      (evictBack cost priorityOf incoming newPriority fuel d =
          (d.without cost kept evicted, fail (.io "priority queue saturated")) ∧
        d.maxBytes < d.curBytes - (evicted.map cost).sum + incoming ∧
        ∃ front last, kept = front ++ [last] ∧ newPriority < priorityOf last)) := by
  induction fuel generalizing d with
  | zero =>
    have hnil : d.q = [] := List.length_eq_zero_iff.mp (by omega)
    refine ⟨d.q, [], ⟨(List.append_nil _).symm, by simp, by simp⟩, .inl ⟨?_, .inl hnil⟩⟩
    rw [without_nil, evictBack]
  | succ fuel ih =>
    have hnone : Evicts cost priorityOf incoming newPriority d d.q [] :=
      ⟨(List.append_nil _).symm, by simp, by simp⟩
    rcases List.eq_nil_or_concat d.q with hnil | ⟨front, last, hq⟩
    · refine ⟨d.q, [], hnone, .inl ⟨?_, .inl hnil⟩⟩
      rw [without_nil, evictBack, if_neg fun h => h.1 hnil]
    · rw [List.concat_eq_append] at hq
      have hne : d.q ≠ [] := by simp [hq]
      have hpriority : (d.q.getLast?.map priorityOf).getD 0 = priorityOf last := by simp [hq]
      by_cases hmax : d.maxBytes < d.curBytes + incoming
      · have hgo : d.q ≠ [] ∧ d.maxBytes < d.curBytes + incoming := ⟨hne, hmax⟩
        by_cases hhigher : newPriority < priorityOf last
        · refine ⟨d.q, [], hnone, .inr ⟨?_, by simpa using hmax, front, last, hq, hhigher⟩⟩
          rw [without_nil, evictBack, if_pos hgo, hpriority, if_pos hhigher]
        · have hstep : evictBack cost priorityOf incoming newPriority (fuel + 1) d =
              evictBack cost priorityOf incoming newPriority fuel (d.without cost front [last]) := by
            rw [evictBack, if_pos hgo, hpriority, if_neg hhigher, dropBack_eq_without hq]
          have hshorter : (d.without cost front [last]).q.length ≤ fuel := by
            rw [hq, List.length_append, List.length_singleton] at hfuel
            exact Nat.le_of_succ_le_succ hfuel
          obtain ⟨kept, evicted, hevicts, hresult⟩ := ih (d.without cost front [last]) hshorter
          have hbytes : d.curBytes - ((evicted ++ [last]).map cost).sum =
              d.curBytes - cost last - (evicted.map cost).sum := by
            rw [List.map_append, List.sum_append, List.map_singleton, List.sum_singleton,
              Nat.sub_sub, Nat.add_comm]
          refine ⟨kept, evicted ++ [last], hevicts.snoc hq hmax (UInt8.not_lt.mp hhigher), ?_⟩
          rw [hstep, hbytes, ← without_without front]
          simpa [without] using hresult
      · refine ⟨d.q, [], hnone, .inl ⟨?_, .inr (by simpa using hmax)⟩⟩
        rw [without_nil, evictBack, if_neg fun h => hmax h.2]

/-- The element cap is passed, or refuses, or evicts the last item. -/
theorem evictBackOne_cases (newPriority : UInt8) (h : Shaped B d) :
    (d.q.length < d.maxElems ∧ d.evictBackOne cost priorityOf newPriority = (d, .ok ())) ∨
    d.maxElems ≤ d.q.length ∧ ∃ front last, d.q = front ++ [last] ∧
      (newPriority < priorityOf last ∧ d.evictBackOne cost priorityOf newPriority =
          (d, fail (.io "priority queue saturated")) ∨
        priorityOf last ≤ newPriority ∧ d.evictBackOne cost priorityOf newPriority =
          (d.without cost front [last], .ok ())) := by
  have hpos := h.maxElems_pos
  unfold evictBackOne
  by_cases hfull : d.maxElems ≤ d.q.length
  · rcases List.eq_nil_or_concat d.q with hnil | ⟨front, last, hq⟩
    · rw [hnil, List.length_nil] at hfull
      omega
    · rw [List.concat_eq_append] at hq
      have hpriority : (d.q.getLast?.map priorityOf).getD 0 = priorityOf last := by simp [hq]
      refine .inr ⟨hfull, front, last, hq, ?_⟩
      rw [if_pos hfull, hpriority]
      by_cases hhigher : newPriority < priorityOf last
      · rw [if_pos hhigher]
        exact .inl ⟨hhigher, rfl⟩
      · rw [if_neg hhigher, dropBack_eq_without hq]
        exact .inr ⟨UInt8.not_lt.mp hhigher, rfl⟩
  · rw [if_neg hfull]
    exact .inl ⟨Nat.not_le.mp hfull, rfl⟩

end Eviction

theorem insertOn_q (v : α) (d : BoundedDeque α) :
    (insertOn B cost priorityOf v d).q = stableInsert priorityOf v d.q :=
  insertIdx_findIdx v d.q

end BoundedDeque
end Sedsprintf
