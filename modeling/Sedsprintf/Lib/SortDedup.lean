import Mathlib.Data.List.Sort
import Mathlib.Data.List.Destutter
import Mathlib.Algebra.Order.BigOperators.Group.List
import Mathlib.Algebra.Order.Group.Nat
import Mathlib.Data.Nat.Cast.Basic

/-!
# Sorted lists without repeats

Sorting followed by dropping equal neighbours: the canonical list of a set. Equal
elements of a linear order cannot be told apart, so every sort gives this one.
-/
namespace Sedsprintf.Lib

variable {α : Type} [LinearOrder α] {l l' : List α}

/-- `sort_unstable` and `dedup`. -/
def sortDedup (l : List α) : List α := (l.insertionSort (· ≤ ·)).destutter (· ≠ ·)

/-- Dropping equal neighbours of a sorted list leaves it strictly ascending. -/
theorem destutter'_ascending (a : α) (rest : List α) (h : (a :: rest).Pairwise (· ≤ ·)) :
    (rest.destutter' (· ≠ ·) a).Pairwise (· < ·) ∧
      ∀ b, b ∈ rest.destutter' (· ≠ ·) a ↔ b = a ∨ b ∈ rest := by
  induction rest generalizing a with
  | nil => simp
  | cons b rest ih =>
    rw [List.pairwise_cons] at h
    by_cases hne : a ≠ b
    · obtain ⟨hsorted, hmem⟩ := ih b h.2
      rw [List.destutter'_cons_pos _ hne]
      refine ⟨List.pairwise_cons.mpr ⟨fun c hc => ?_, hsorted⟩, fun c => ?_⟩
      · have hlt : a < b := lt_of_le_of_ne (h.1 b List.mem_cons_self) hne
        rcases (hmem c).mp hc with rfl | hc
        · exact hlt
        · exact lt_of_lt_of_le hlt ((List.pairwise_cons.mp h.2).1 c hc)
      · rw [List.mem_cons, hmem, List.mem_cons]
    · have heq : a = b := not_not.mp hne
      subst heq
      obtain ⟨hsorted, hmem⟩ := ih a h.2
      rw [List.destutter'_cons_neg _ hne]
      refine ⟨hsorted, fun c => ?_⟩
      rw [hmem, List.mem_cons]
      tauto

theorem sortDedup_ascending (l : List α) : (sortDedup l).Pairwise (· < ·) := by
  have hsorted := List.pairwise_insertionSort (· ≤ ·) l
  unfold sortDedup
  cases hl : l.insertionSort (· ≤ ·) with
  | nil => simp
  | cons a rest =>
    rw [hl] at hsorted
    exact (destutter'_ascending a rest hsorted).1

@[simp] theorem mem_sortDedup {a : α} : a ∈ sortDedup l ↔ a ∈ l := by
  have hsorted := List.pairwise_insertionSort (· ≤ ·) l
  have hperm := List.mem_insertionSort (· ≤ ·) (l := l) (x := a)
  unfold sortDedup
  cases hl : l.insertionSort (· ≤ ·) with
  | nil =>
    rw [hl] at hperm
    simpa using hperm
  | cons b rest =>
    rw [hl] at hsorted hperm
    rw [← hperm, List.mem_cons]
    exact (destutter'_ascending b rest hsorted).2 a

theorem nodup_sortDedup (l : List α) : (sortDedup l).Nodup :=
  (sortDedup_ascending l).imp fun h => h.ne

theorem eq_of_ascending (h : l.Pairwise (· < ·)) (h' : l'.Pairwise (· < ·))
    (hmem : ∀ a, a ∈ l ↔ a ∈ l') : l = l' :=
  ((List.perm_ext_iff_of_nodup (h.imp fun hlt => hlt.ne) (h'.imp fun hlt => hlt.ne)).mpr
    hmem).eq_of_pairwise (fun _ _ _ _ hab hba => absurd hab hba.asymm) h h'

theorem sortDedup_of_ascending (h : l.Pairwise (· < ·)) : sortDedup l = l :=
  eq_of_ascending (sortDedup_ascending l) h fun _ => mem_sortDedup

theorem sortDedup_congr (h : ∀ a, a ∈ l ↔ a ∈ l') : sortDedup l = sortDedup l' := by
  refine eq_of_ascending (sortDedup_ascending l) (sortDedup_ascending l') fun a => ?_
  rw [mem_sortDedup, mem_sortDedup, h]

/-- `l` is the ascending list, without repeats, of a set. -/
structure Enumerates (l : List α) (s : Set α) : Prop where
  ascending : l.Pairwise (· < ·)
  mem_iff : ∀ a, a ∈ l ↔ a ∈ s

theorem sortDedup_enumerates {s : Set α} (h : ∀ a, a ∈ l ↔ a ∈ s) :
    Enumerates (sortDedup l) s := by
  refine ⟨sortDedup_ascending l, ?_⟩
  intro a
  rw [mem_sortDedup, h]

/-- A smaller set weighs less. -/
theorem sum_sortDedup_le (weight : α → Nat) (h : l ⊆ l') :
    ((sortDedup l).map weight).sum ≤ ((sortDedup l').map weight).sum := by
  have hsub : sortDedup l ⊆ sortDedup l' := fun a ha => mem_sortDedup.mpr (h (mem_sortDedup.mp ha))
  obtain ⟨m, hperm, hm⟩ := List.subperm_of_subset (nodup_sortDedup l) hsub
  rw [← (hperm.map weight).sum_nat]
  exact (hm.map weight).sum_le_sum fun _ _ => Nat.zero_le _

theorem length_sortDedup_le (h : l ⊆ l') : (sortDedup l).length ≤ (sortDedup l').length := by
  simpa using sum_sortDedup_le (fun _ => 1) h

end Sedsprintf.Lib
