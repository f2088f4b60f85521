import Mathlib.Tactic.Linarith
import Mathlib.Algebra.Order.BigOperators.Group.List

/-!
# Ordered maps

`Std.ExtTreeMap` at the canonical order of its keys, with the lookup lemmas
stated by equality of keys, and removal of the first entry.
-/
namespace Sedsprintf.Lib

abbrev OrdMap (κ : Type) [Ord κ] (α : Type) := Std.ExtTreeMap κ α compare

namespace OrdMap
variable {κ α : Type} [Ord κ] [Std.TransOrd κ]

/-- `BTreeMap::pop_first`. -/
def popFirst (m : OrdMap κ α) : Option ((κ × α) × OrdMap κ α) :=
  match m.toList with
  | [] => none
  | e :: _ => some (e, m.erase e.1)

/-- The map after `pop_first`. -/
def dropFirst (m : OrdMap κ α) : OrdMap κ α :=
  match popFirst m with
  | none => m
  | some (_, rest) => rest

@[simp] theorem get?_empty (a : κ) : (∅ : OrdMap κ α)[a]? = none :=
  Std.ExtTreeMap.getElem?_empty

@[simp] theorem filter_empty (keep : κ → α → Bool) : (∅ : OrdMap κ α).filter keep = ∅ :=
  Std.ExtTreeMap.filter_eq_empty_iff.mpr fun _ h => absurd h Std.ExtTreeMap.not_mem_empty

theorem mem_iff_get? {m : OrdMap κ α} {a : κ} : a ∈ m ↔ ∃ v, m[a]? = some v := by
  rw [Std.ExtTreeMap.mem_iff_isSome_getElem?, Option.isSome_iff_exists]

theorem size_insert_of_not_mem {m : OrdMap κ α} {k : κ} (h : k ∉ m) (v : α) :
    (m.insert k v).size = m.size + 1 := by
  simp [Std.ExtTreeMap.size_insert, h]

theorem size_erase_of_mem {m : OrdMap κ α} {k : κ} (h : k ∈ m) :
    (m.erase k).size + 1 = m.size := by
  have hpos : m.size ≠ 0 := by
    intro hzero
    rw [← Std.ExtTreeMap.eq_empty_iff_size_eq_zero] at hzero
    simp [hzero] at h
  rw [Std.ExtTreeMap.size_erase, Std.ExtTreeMap.mem_iff_contains.mp h, if_pos rfl]
  omega

theorem popFirst_eq_none {m : OrdMap κ α} (h : popFirst m = none) : m = ∅ := by
  unfold popFirst at h
  split at h
  · rename_i hlist
    exact Std.ExtTreeMap.toList_eq_nil_iff.mp hlist
  · simp at h

theorem sum_filter_le {m : OrdMap κ α} (f : κ × α → Nat) (keep : κ → α → Bool) :
    ((m.filter keep).toList.map f).sum ≤ (m.toList.map f).sum := by
  rw [Std.ExtTreeMap.toList_filter]
  exact (List.Sublist.map f List.filter_sublist).sum_le_sum fun _ _ => Nat.zero_le _

variable [Std.LawfulEqOrd κ]

theorem popFirst_eq_some {m rest : OrdMap κ α} {e : κ × α} (h : popFirst m = some (e, rest)) :
    m[e.1]? = some e.2 ∧ rest = m.erase e.1 := by
  unfold popFirst at h
  split at h
  · simp at h
  · rename_i e' tail hlist
    simp only [Option.some.injEq, Prod.mk.injEq] at h
    obtain ⟨rfl, rfl⟩ := h
    refine ⟨Std.ExtTreeMap.mem_toList_iff_getElem?_eq_some.mp ?_, rfl⟩
    simp [hlist]

theorem nodup_toList (m : OrdMap κ α) : m.toList.Nodup :=
  Std.ExtTreeMap.distinct_keys_toList.imp fun hne heq => hne (by simp [heq])

theorem size_eq_length {m : OrdMap κ α} {keys : List κ} (hnodup : keys.Nodup)
    (hmem : ∀ k, k ∈ keys ↔ k ∈ m) : m.size = keys.length := by
  have hperm : keys.Perm m.keys :=
    (List.perm_ext_iff_of_nodup hnodup Std.ExtTreeMap.nodup_keys).mpr fun k => by
      rw [hmem, Std.ExtTreeMap.mem_keys]
  rw [← Std.ExtTreeMap.length_keys, hperm.length_eq]

/-- Dropping the first entry leaves a map alone or erases one of its keys. -/
theorem dropFirst_cases (m : OrdMap κ α) :
    (m = ∅ ∧ dropFirst m = m) ∨ ∃ k ∈ m, dropFirst m = m.erase k := by
  unfold dropFirst
  split
  · rename_i hnone
    exact .inl ⟨popFirst_eq_none hnone, rfl⟩
  · rename_i e rest hsome
    obtain ⟨hget, hrest⟩ := popFirst_eq_some hsome
    exact .inr ⟨e.1, mem_iff_get?.mpr ⟨e.2, hget⟩, hrest⟩

/-- Entries dropped or replaced by lighter ones. -/
theorem sum_filterMap_le {β : Type} {m : OrdMap κ α} (f : κ × α → Nat) {g : κ → α → Option β}
    {f' : κ × β → Nat}
    (h : ∀ k v w, m[k]? = some v → g k v = some w → f' (k, w) ≤ f (k, v)) :
    ((m.filterMap g).toList.map f').sum ≤ (m.toList.map f).sum := by
  have hlist : ∀ e ∈ m.toList, ∀ w, g e.1 e.2 = some w → f' (e.1, w) ≤ f e := fun e he w hw =>
    h e.1 e.2 w (Std.ExtTreeMap.mem_toList_iff_getElem?_eq_some.mp he) hw
  rw [Std.ExtTreeMap.toList_filterMap]
  generalize m.toList = entries at hlist
  induction entries with
  | nil => simp
  | cons e rest ih =>
    have hrest := ih fun e' he' => hlist e' (List.mem_cons_of_mem _ he')
    rw [List.filterMap_cons, List.map_cons, List.sum_cons]
    cases hg : g e.1 e.2 with
    | none =>
      simp only [Option.map_none]
      omega
    | some w =>
      have hhead := hlist e List.mem_cons_self w hg
      simp only [Option.map_some, List.map_cons, List.sum_cons]
      omega

variable [DecidableEq κ]

theorem get?_insert (m : OrdMap κ α) (k a : κ) (v : α) :
    (m.insert k v)[a]? = if k = a then some v else m[a]? := by
  simp [Std.ExtTreeMap.getElem?_insert]

omit [DecidableEq κ] in
/-- What a second filter keeps the first may be asked to keep. -/
theorem filter_filter_of_imp (m : OrdMap κ α) {first second : κ → α → Bool}
    (h : ∀ k v, second k v = true → first k v = true) :
    (m.filter first).filter second = m.filter second := by
  refine Std.ExtTreeMap.ext_getElem? fun k => ?_
  rw [Std.ExtTreeMap.getElem?_filter', Std.ExtTreeMap.getElem?_filter',
    Std.ExtTreeMap.getElem?_filter', Option.filter_filter]
  refine congrArg (fun keep => m[k]?.filter keep) (funext fun v => ?_)
  cases hsecond : second k v with
  | false => exact Bool.and_false _
  | true => rw [h k v hsecond, Bool.and_self]

theorem get?_erase (m : OrdMap κ α) (k a : κ) :
    (m.erase k)[a]? = if k = a then none else m[a]? := by
  simp [Std.ExtTreeMap.getElem?_erase]

theorem get?_modify (m : OrdMap κ α) (k a : κ) (f : α → α) :
    (m.modify k f)[a]? = if k = a then m[a]?.map f else m[a]? := by
  rw [Std.ExtTreeMap.getElem?_modify]
  by_cases h : k = a
  · simp [h]
  · simp [h]

theorem modify_of_get?_none {m : OrdMap κ α} {k : κ} {f : α → α} (h : m[k]? = none) :
    m.modify k f = m := by
  refine Std.ExtTreeMap.ext_getElem? fun a => ?_
  rw [get?_modify]
  split
  · rename_i heq
    rw [← heq, h, Option.map_none]
  · rfl

theorem modify_of_get?_some {m : OrdMap κ α} {k : κ} {v : α} {f : α → α} (h : m[k]? = some v) :
    m.modify k f = m.insert k (f v) := by
  refine Std.ExtTreeMap.ext_getElem? fun a => ?_
  rw [get?_modify, get?_insert]
  split
  · rename_i heq
    rw [← heq, h, Option.map_some]
  · rfl

/-- An entry stands beside the rest of the map. -/
theorem toList_perm_erase {m : OrdMap κ α} {k : κ} {v : α} (h : m[k]? = some v) :
    m.toList.Perm ((k, v) :: (m.erase k).toList) := by
  have hnodup : ((k, v) :: (m.erase k).toList).Nodup := by
    refine List.nodup_cons.mpr ⟨fun hmem => ?_, nodup_toList _⟩
    have := Std.ExtTreeMap.mem_toList_iff_getElem?_eq_some.mp hmem
    simp at this
  refine (List.perm_ext_iff_of_nodup (nodup_toList m) hnodup).mpr fun e => ?_
  obtain ⟨k', v'⟩ := e
  rw [List.mem_cons, Std.ExtTreeMap.mem_toList_iff_getElem?_eq_some,
    Std.ExtTreeMap.mem_toList_iff_getElem?_eq_some, get?_erase]
  by_cases heq : k = k'
  · subst heq
    simp [h, eq_comm]
  · simp [heq, Ne.symm heq]

/-- The entries of a map in which one key is set anew. -/
theorem toList_perm_insert (m : OrdMap κ α) (k : κ) (v : α) :
    (m.insert k v).toList.Perm ((k, v) :: (m.erase k).toList) := by
  have herase : (m.insert k v).erase k = m.erase k := by
    refine Std.ExtTreeMap.ext_getElem? fun a => ?_
    simp only [get?_erase, get?_insert]
    split <;> rfl
  rw [← herase]
  exact toList_perm_erase (by simp)

section Sums
variable {m : OrdMap κ α} {k : κ} {old v : α} (f : κ × α → Nat)

/-- A sum over the entries, when one of them is replaced. -/
theorem sum_insert (h : m[k]? = some old) :
    ((m.insert k v).toList.map f).sum + f (k, old) = (m.toList.map f).sum + f (k, v) := by
  have hnew := toList_perm_insert m k v
  have hold := toList_perm_erase h
  rw [(hnew.map f).sum_nat, (hold.map f).sum_nat, List.map_cons, List.map_cons, List.sum_cons,
    List.sum_cons]
  omega

theorem erase_of_get?_none (h : m[k]? = none) : m.erase k = m := by
  refine Std.ExtTreeMap.ext_getElem? fun a => ?_
  rw [get?_erase]
  split
  · rename_i heq
    rw [← heq, h]
  · rfl

theorem sum_insert_of_get?_none (h : m[k]? = none) :
    ((m.insert k v).toList.map f).sum = (m.toList.map f).sum + f (k, v) := by
  rw [((toList_perm_insert m k v).map f).sum_nat, List.map_cons, List.sum_cons,
    erase_of_get?_none h, Nat.add_comm]

theorem sum_erase_le : ((m.erase k).toList.map f).sum ≤ (m.toList.map f).sum := by
  cases h : m[k]? with
  | none => rw [erase_of_get?_none h]
  | some old =>
    rw [((toList_perm_erase h).map f).sum_nat, List.map_cons, List.sum_cons]
    omega

theorem sum_insert_le :
    ((m.insert k v).toList.map f).sum ≤ (m.toList.map f).sum + f (k, v) := by
  have herase := @sum_erase_le κ α _ _ _ _ m k f
  rw [((toList_perm_insert m k v).map f).sum_nat, List.map_cons, List.sum_cons]
  omega

end Sums
end OrdMap
end Sedsprintf.Lib
