import Sedsprintf.Reliable.History

/-!
# The receiver's reorder buffer

What the release loop, the buffering of an early frame and an eviction do to one
`ReliableRxState`.
-/
namespace Sedsprintf

open Lib

section Release
variable {fuel : Nat} {last next : UInt32} {buffered : OrdMap UInt32 (List UInt8)}

/-- A buffered frame stays buffered or is released, whatever the numbers. -/
theorem releaseBuffered_keeps {seq : UInt32} {bytes : List UInt8}
    (h : buffered[seq]? = some bytes) :
    (releaseBuffered fuel last next buffered).2.2.buffered[seq]? = some bytes ∨
      bytes ∈ (releaseBuffered fuel last next buffered).1 := by
  induction fuel generalizing last next buffered with
  | zero => exact .inl h
  | succ fuel ih =>
    unfold releaseBuffered
    split
    · exact .inl h
    · rename_i head hhead
      by_cases heq : next = seq
      · subst heq
        obtain rfl := Option.some.inj (hhead.symm.trans h)
        exact .inr List.mem_cons_self
      · have hkept : (buffered.erase next)[seq]? = some bytes := by
          rw [OrdMap.get?_erase, if_neg heq]
          exact h
        rcases @ih next (nextSeqAfter next) _ hkept with hkept | hreleased
        · exact .inl hkept
        · exact .inr (List.mem_cons_of_mem _ hreleased)

/-- Nothing enters the buffer. -/
theorem releaseBuffered_sub {seq : UInt32} {bytes : List UInt8}
    (h : (releaseBuffered fuel last next buffered).2.2.buffered[seq]? = some bytes) :
    buffered[seq]? = some bytes := by
  induction fuel generalizing last next buffered with
  | zero => exact h
  | succ fuel ih =>
    unfold releaseBuffered at h
    split at h
    · exact h
    · have hrest := ih h
      rw [OrdMap.get?_erase] at hrest
      split at hrest
      · cases hrest
      · exact hrest

theorem releaseBuffered_size_le :
    (releaseBuffered fuel last next buffered).2.2.buffered.size ≤ buffered.size := by
  induction fuel generalizing last next buffered with
  | zero => exact le_rfl
  | succ fuel ih =>
    unfold releaseBuffered
    split
    · exact le_rfl
    · exact ih.trans Std.ExtTreeMap.size_erase_le

/-- The loop below the wrap: it releases the numbers from `next` on and stops at
the first one missing. -/
structure Releases (last next : UInt32) (buffered : OrdMap UInt32 (List UInt8))
    (frames : List (List UInt8)) (ack : UInt32) (rx : ReliableRxState) : Prop where
  expected : rx.expectedSeq.toNat = next.toNat + frames.length
  ack : ack.toNat = last.toNat + frames.length
  frames : ∀ {j : Nat} {bytes : List UInt8}, frames[j]? = some bytes →
    ∃ seq : UInt32, seq.toNat = next.toNat + j ∧ buffered[seq]? = some bytes
  above : ∀ seq ∈ rx.buffered, rx.expectedSeq < seq
  passed : ∀ seq ∈ buffered, seq ∈ rx.buffered ∨ seq < rx.expectedSeq

theorem releaseBuffered_spec (hfuel : buffered.size ≤ fuel)
    (hlast : next.toNat = last.toNat + 1) (habove : ∀ seq ∈ buffered, next ≤ seq)
    (hwrap : ∀ seq ∈ buffered, seq.toNat + 1 < 2 ^ 32) :
    Releases last next buffered (releaseBuffered fuel last next buffered).1
      (releaseBuffered fuel last next buffered).2.1
      (releaseBuffered fuel last next buffered).2.2 := by
  induction fuel generalizing last next buffered with
  | zero =>
    have hempty : buffered = ∅ :=
      Std.ExtTreeMap.eq_empty_iff_size_eq_zero.mpr (Nat.le_zero.mp hfuel)
    subst hempty
    exact ⟨rfl, rfl, fun h => by simp [releaseBuffered] at h, fun seq h => by
      simp [releaseBuffered] at h, fun seq h => by simp at h⟩
  | succ fuel ih =>
    unfold releaseBuffered
    split
    · rename_i hnone
      refine ⟨rfl, rfl, fun h => by simp at h, fun seq hmem => ?_, fun seq hmem => .inl hmem⟩
      have hne : next ≠ seq := by
        rintro rfl
        obtain ⟨bytes, hsome⟩ := OrdMap.mem_iff_get?.mp hmem
        simp [hnone] at hsome
      exact UInt32.lt_of_le_of_ne (habove seq hmem) hne
    · rename_i head hhead
      have hmem : next ∈ buffered := OrdMap.mem_iff_get?.mpr ⟨head, hhead⟩
      have hnext := nextSeqAfter_toNat (hwrap next hmem)
      have herase : ∀ {seq}, seq ∈ buffered.erase next → seq ∈ buffered ∧ next ≠ seq := by
        intro seq h
        rw [Std.ExtTreeMap.mem_erase] at h
        exact ⟨h.2, by simpa using h.1⟩
      have hrest := @ih next (nextSeqAfter next) (buffered.erase next)
        (by have := OrdMap.size_erase_of_mem hmem; omega) hnext
        (fun seq h => by
          have hlt := UInt32.lt_of_le_of_ne (habove seq (herase h).1) (herase h).2
          rw [UInt32.lt_iff_toNat_lt] at hlt
          rw [UInt32.le_iff_toNat_le, hnext]
          exact hlt)
        (fun seq h => hwrap seq (herase h).1)
      generalize releaseBuffered fuel next (nextSeqAfter next) (buffered.erase next) = r at hrest
      obtain ⟨frames, ack, rx⟩ := r
      have hexpected := hrest.expected
      have hack := hrest.ack
      dsimp only at hexpected hack ⊢
      refine ⟨?_, ?_, ?_, hrest.above, ?_⟩
      · rw [hexpected, hnext, List.length_cons]
        omega
      · rw [hack, hlast, List.length_cons]
        omega
      · intro j bytes h
        cases j with
        | zero =>
          obtain rfl := Option.some.inj h
          exact ⟨next, rfl, hhead⟩
        | succ j =>
          obtain ⟨seq, hseq, hget⟩ := hrest.frames h
          rw [OrdMap.get?_erase] at hget
          split at hget
          · cases hget
          · exact ⟨seq, by omega, hget⟩
      · intro seq h
        by_cases heq : next = seq
        · subst heq
          refine .inr (UInt32.lt_iff_toNat_lt.mpr ?_)
          omega
        · refine hrest.passed seq ?_
          rw [Std.ExtTreeMap.mem_erase]
          exact ⟨by simpa using heq, h⟩

/-- The three ways a frame arrives. -/
theorem ReliableRxState.arrive_cases (rx : ReliableRxState) (seq : UInt32) (bytes : List UInt8) :
    (seq < rx.expectedSeq ∧
      rx.arrive seq bytes = (rx, .old (if rx.expectedSeq = 0 then 0 else rx.expectedSeq - 1))) ∨
    (rx.expectedSeq < seq ∧ rx.arrive seq bytes = (rx, .early seq rx.expectedSeq)) ∨
    (seq = rx.expectedSeq ∧ rx.arrive seq bytes =
      ((releaseBuffered rx.buffered.size seq (seq + 1) rx.buffered).2.2,
        .released (bytes :: (releaseBuffered rx.buffered.size seq (seq + 1) rx.buffered).1)
          (releaseBuffered rx.buffered.size seq (seq + 1) rx.buffered).2.1)) := by
  unfold ReliableRxState.arrive
  by_cases hold : seq < rx.expectedSeq
  · exact .inl ⟨hold, if_pos hold⟩
  · by_cases hearly : rx.expectedSeq < seq
    · exact .inr (.inl ⟨hearly, by rw [if_neg hold, if_pos hearly]⟩)
    · refine .inr (.inr ⟨?_, by rw [if_neg hold, if_neg hearly]⟩)
      exact UInt32.le_antisymm (UInt32.not_lt.mp hearly) (UInt32.not_lt.mp hold)

end Release

section Buffer
variable {B : Build} {rx : ReliableRxState} {seq : UInt32} {bytes : List UInt8}

/-- The number the per-stream cap drops, if it drops one. -/
def ReliableRxState.capVictim (B : Build) (rx : ReliableRxState) (seq : UInt32) : Option UInt32 :=
  if seq ∈ rx.buffered then none
  else if B.reliableMaxPending ≤ rx.buffered.size then
    (OrdMap.popFirst rx.buffered).map fun popped => popped.1.1
  else none

theorem mem_dropFirst {buffered : OrdMap UInt32 (List UInt8)} {q : UInt32} {b : List UInt8} :
    (OrdMap.dropFirst buffered)[q]? = some b ↔
      buffered[q]? = some b ∧ (OrdMap.popFirst buffered).map (fun popped => popped.1.1) ≠ some q := by
  unfold OrdMap.dropFirst
  cases hpop : OrdMap.popFirst buffered with
  | none => simp
  | some popped =>
    obtain ⟨e, rest⟩ := popped
    obtain ⟨-, rfl⟩ := OrdMap.popFirst_eq_some hpop
    simp only [Option.map_some, OrdMap.get?_erase, ne_eq, Option.some.injEq]
    by_cases heq : e.1 = q
    · simp [heq]
    · simp [heq]

/-- The buffer after an early frame, entry by entry. -/
theorem ReliableRxState.bufferReliableRx_get {q : UInt32} {b : List UInt8} :
    (rx.bufferReliableRx B seq bytes).buffered[q]? = some b ↔
      (q = seq ∧ seq ∉ rx.buffered ∧ b = bytes) ∨
        (rx.buffered[q]? = some b ∧ (q = seq → seq ∈ rx.buffered) ∧
          rx.capVictim B seq ≠ some q) := by
  unfold ReliableRxState.bufferReliableRx ReliableRxState.capVictim
  by_cases hmem : seq ∈ rx.buffered
  · simp [hmem]
  · simp only [hmem, if_false, ReliableRxState.bufferFrame, OrdMap.get?_insert, not_false_eq_true,
      true_and, imp_false]
    by_cases heq : q = seq
    · subst heq
      simp [eq_comm]
    · have hne : seq ≠ q := fun h => heq h.symm
      by_cases hfull : B.reliableMaxPending ≤ rx.buffered.size
      · simp [heq, hne, hfull, mem_dropFirst]
      · simp [heq, hne, hfull]

@[simp] theorem ReliableRxState.bufferReliableRx_expectedSeq :
    (rx.bufferReliableRx B seq bytes).expectedSeq = rx.expectedSeq := by
  unfold ReliableRxState.bufferReliableRx
  split <;> rfl

/-- The cap holds after an insertion, as long as it is not zero. -/
theorem ReliableRxState.bufferReliableRx_size_le (hpos : 0 < B.reliableMaxPending)
    (hsize : rx.buffered.size ≤ B.reliableMaxPending) :
    (rx.bufferReliableRx B seq bytes).buffered.size ≤ B.reliableMaxPending := by
  unfold ReliableRxState.bufferReliableRx
  split
  · exact hsize
  · unfold ReliableRxState.bufferFrame
    dsimp only
    split
    · rename_i hfull
      have hdrop : (OrdMap.dropFirst rx.buffered).size + 1 ≤ B.reliableMaxPending := by
        rcases OrdMap.dropFirst_cases rx.buffered with ⟨hempty, hsame⟩ | ⟨k, hk, herase⟩
        · rw [hsame, hempty, Std.ExtTreeMap.size_empty]
          omega
        · rw [herase, OrdMap.size_erase_of_mem hk]
          exact hsize
      exact (Std.ExtTreeMap.size_insert_le).trans hdrop
    · rename_i hroom
      exact (Std.ExtTreeMap.size_insert_le).trans (Nat.not_le.mp hroom)

end Buffer
end Sedsprintf
