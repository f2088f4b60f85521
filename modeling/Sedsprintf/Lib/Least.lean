import Mathlib.Order.Defs.Unbundled
import Mathlib.Data.List.Induction

/-!
# The first least element of a list

A scan that keeps the element it holds until one comes that the held one is not before. For a
total and transitive order the element kept is before all others.
-/
namespace Sedsprintf.Lib

variable {α : Type} (before : α → α → Prop) [DecidableRel before]

/-- One step of the scan. -/
def keepBefore (held : Option α) (a : α) : Option α :=
  match held with
  | none => some a
  | some b => if before b a then some b else some a

def firstLeast (l : List α) : Option α := l.foldl (keepBefore before) none

variable {before}

theorem foldl_keepBefore_isSome (l : List α) (b : α) :
    (l.foldl (keepBefore before) (some b)).isSome = true := by
  induction l generalizing b with
  | nil => rfl
  | cons a rest ih =>
    rw [List.foldl_cons, keepBefore]
    split
    · exact ih b
    · exact ih a

theorem firstLeast_eq_none {l : List α} : firstLeast before l = none ↔ l = [] := by
  cases l with
  | nil => exact iff_of_true rfl rfl
  | cons a rest =>
    have hsome := @foldl_keepBefore_isSome α before _ rest a
    refine iff_of_false (fun hnone => ?_) (by simp)
    rw [firstLeast, List.foldl_cons] at hnone
    rw [show keepBefore before none a = some a from rfl] at hnone
    rw [hnone] at hsome
    cases hsome

theorem foldl_keepBefore_mem {l : List α} {b c : α}
    (h : l.foldl (keepBefore before) (some b) = some c) : c = b ∨ c ∈ l := by
  induction l generalizing b with
  | nil => exact .inl (Option.some.inj h).symm
  | cons a rest ih =>
    rw [List.foldl_cons, keepBefore] at h
    split at h
    · exact (ih h).imp_right (List.mem_cons_of_mem a)
    · rcases ih h with rfl | hmem
      · exact .inr List.mem_cons_self
      · exact .inr (List.mem_cons_of_mem a hmem)

theorem mem_of_firstLeast {l : List α} {c : α} (h : firstLeast before l = some c) : c ∈ l := by
  cases l with
  | nil => cases h
  | cons a rest =>
    rcases (foldl_keepBefore_mem h : c = a ∨ c ∈ rest) with rfl | hmem
    · exact List.mem_cons_self
    · exact List.mem_cons_of_mem a hmem

section Order
variable (htrans : ∀ a b c, before a b → before b c → before a c)
  (htotal : ∀ a b, before a b ∨ before b a)
include htrans htotal

theorem before_of_foldl_keepBefore {l : List α} {b c : α}
    (h : l.foldl (keepBefore before) (some b) = some c) : before c b ∧ ∀ a ∈ l, before c a := by
  have hrefl (a : α) : before a a := (htotal a a).elim id id
  induction l generalizing b with
  | nil =>
    obtain rfl := Option.some.inj h
    exact ⟨hrefl b, by simp⟩
  | cons a rest ih =>
    rw [List.foldl_cons, keepBefore] at h
    by_cases hkept : before b a
    · rw [if_pos hkept] at h
      obtain ⟨hb, hrest⟩ := ih h
      exact ⟨hb, List.forall_mem_cons.mpr ⟨htrans c b a hb hkept, hrest⟩⟩
    · rw [if_neg hkept] at h
      obtain ⟨ha, hrest⟩ := ih h
      have hab := (htotal a b).resolve_right hkept
      exact ⟨htrans c a b ha hab, List.forall_mem_cons.mpr ⟨ha, hrest⟩⟩

theorem before_of_firstLeast {l : List α} {c : α} (h : firstLeast before l = some c) :
    ∀ a ∈ l, before c a := by
  cases l with
  | nil => simp
  | cons a rest =>
    obtain ⟨ha, hrest⟩ := before_of_foldl_keepBefore htrans htotal h
    exact List.forall_mem_cons.mpr ⟨ha, hrest⟩

/-- What is kept is before all behind it, and none in front of it is before it. -/
theorem firstLeast_eq_some_iff {l : List α} {c : α} : firstLeast before l = some c ↔
    ∃ front rear, l = front ++ c :: rear ∧ (∀ a ∈ front, ¬before a c) ∧ ∀ a ∈ rear, before c a := by
  constructor
  · intro h
    induction l using List.reverseRecOn generalizing c with
    | nil => cases h
    | append_singleton l a ih =>
      rw [firstLeast, List.foldl_append, ← firstLeast] at h
      change keepBefore before (firstLeast before l) a = some c at h
      cases hheld : firstLeast before l with
      | none =>
        rw [hheld] at h
        obtain rfl := Option.some.inj h
        exact ⟨[], [], by simp [firstLeast_eq_none.mp hheld]⟩
      | some b =>
        rw [hheld, keepBefore] at h
        split at h
        · rename_i hkept
          obtain rfl := Option.some.inj h
          obtain ⟨front, rear, rfl, hfront, hrear⟩ := ih hheld
          refine ⟨front, rear ++ [a], by simp, hfront, fun x hx => ?_⟩
          rcases List.mem_append.mp hx with hx | hx
          · exact hrear x hx
          · exact List.mem_singleton.mp hx ▸ hkept
        · rename_i hdropped
          obtain rfl := Option.some.inj h
          have hleast := before_of_firstLeast htrans htotal hheld
          exact ⟨l, [], rfl, fun x hx hxa => hdropped (htrans b x a (hleast x hx) hxa), by simp⟩
  · rintro ⟨front, rear, rfl, hfront, hrear⟩
    have htaken : keepBefore before (firstLeast before front) c = some c := by
      cases hheld : firstLeast before front with
      | none => rfl
      | some b => exact if_neg (hfront b (mem_of_firstLeast hheld))
    rw [firstLeast, List.foldl_append, List.foldl_cons, ← firstLeast, htaken]
    clear hfront htaken
    induction rear with
    | nil => rfl
    | cons a rest ih =>
      obtain ⟨ha, hrest⟩ := List.forall_mem_cons.mp hrear
      rw [List.foldl_cons, keepBefore, if_pos ha]
      exact ih hrest

/-- Leaving out others changes nothing. -/
theorem firstLeast_filter {l : List α} {c : α} (h : firstLeast before l = some c)
    {keep : α → Bool} (hkeep : keep c = true) : firstLeast before (l.filter keep) = some c := by
  obtain ⟨front, rear, rfl, hfront, hrear⟩ := (firstLeast_eq_some_iff htrans htotal).mp h
  refine (firstLeast_eq_some_iff htrans htotal).mpr ⟨front.filter keep, rear.filter keep, ?_, ?_, ?_⟩
  · rw [List.filter_append, List.filter_cons_of_pos hkeep]
  · exact fun a ha => hfront a (List.mem_filter.mp ha).1
  · exact fun a ha => hrear a (List.mem_filter.mp ha).1

end Order
end Sedsprintf.Lib
