import Mathlib.Data.List.Dedup
import Mathlib.Data.List.Nodup
import Mathlib.Data.List.Perm.Subperm

/-!
# A window of recent items

A list without repeats that takes a new item at its end and, once it holds `cap` of
them, lets the oldest go. An item stays until `cap` others came behind it.
-/
namespace Sedsprintf.Lib.Window

variable {α : Type} {cap : Nat} {w later : List α} {a b : α}

/-- The window after a new item. -/
def note (cap : Nat) (w : List α) (a : α) : List α := w.drop (w.length + 1 - cap) ++ [a]

theorem length_note_le (hcap : 0 < cap) : (note cap w a).length ≤ cap := by
  rw [note, List.length_append, List.length_drop, List.length_singleton]
  omega

theorem nodup_note (h : w.Nodup) (hnew : a ∉ w) : (note cap w a).Nodup := by
  rw [note, List.nodup_append]
  refine ⟨h.sublist (List.drop_sublist _ _), List.nodup_singleton a, ?_⟩
  intro x hx y hy heq
  rw [List.mem_singleton.mp hy] at heq
  subst heq
  exact hnew (List.mem_of_mem_drop hx)

/-- `a` stands in the window, and all that came behind it is among `later`. -/
def Behind (a : α) (later w : List α) : Prop := ∃ older newer, w = older ++ a :: newer ∧ newer ⊆ later

theorem Behind.mem (h : Behind a later w) : a ∈ w := by
  obtain ⟨older, newer, rfl, -⟩ := h
  simp

theorem Behind.mono {later' : List α} (h : Behind a later w) (hsub : later ⊆ later') :
    Behind a later' w := by
  obtain ⟨older, newer, rfl, hnewer⟩ := h
  exact ⟨older, newer, rfl, fun x hx => hsub (hnewer hx)⟩

theorem Behind.note_self (w : List α) (a : α) : Behind a [] (note cap w a) :=
  ⟨_, [], rfl, List.nil_subset _⟩

variable [DecidableEq α]

/-- Another item lets `a` go only when it is the `cap`-th one behind it. -/
theorem Behind.note (h : Behind a later w) (hnodup : w.Nodup) (hlen : w.length ≤ cap)
    (hnew : b ∉ w) (hfew : (b :: later).dedup.length < cap) :
    Behind a (b :: later) (note cap w b) := by
  obtain ⟨older, newer, rfl, hnewer⟩ := h
  have hsub : b :: newer ⊆ b :: later := List.cons_subset_cons _ hnewer
  have hbehind : newer.length + 1 < cap := by
    have hdistinct : (b :: newer).Nodup := by
      refine List.nodup_cons.mpr ⟨fun hb => hnew ?_, ?_⟩
      · exact List.mem_append_right _ (List.mem_cons_of_mem _ hb)
      · exact (List.nodup_cons.mp (hnodup.of_append_right)).2
    have hle := (List.subperm_of_subset hdistinct
      (fun x hx => List.mem_dedup.mpr (hsub hx))).length_le
    rw [List.length_cons] at hle
    omega
  have hdrop : (older ++ a :: newer).length + 1 - cap ≤ older.length := by
    simp only [List.length_append, List.length_cons] at hlen ⊢
    omega
  refine ⟨older.drop ((older ++ a :: newer).length + 1 - cap), newer ++ [b], ?_, ?_⟩
  · rw [Window.note, List.drop_append_of_le_length hdrop, List.append_assoc, List.cons_append]
  · intro x hx
    rcases List.mem_append.mp hx with hx | hx
    · exact List.mem_cons_of_mem _ (hnewer hx)
    · rw [List.mem_singleton.mp hx]
      exact List.mem_cons_self

/-- Removing another item leaves `a`. -/
theorem Behind.erase (h : Behind a later w) (hne : a ≠ b) : Behind a later (w.erase b) := by
  obtain ⟨older, newer, rfl, hnewer⟩ := h
  by_cases hb : b ∈ older
  · exact ⟨older.erase b, newer, List.erase_append_left _ hb, hnewer⟩
  · refine ⟨older, newer.erase b, ?_, fun x hx => hnewer (List.mem_of_mem_erase hx)⟩
    rw [List.erase_append_right _ hb, List.erase_cons_tail (by simpa using hne)]

end Sedsprintf.Lib.Window
