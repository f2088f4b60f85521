import Mathlib.Data.List.Sort
import Mathlib.Data.List.Destutter
import Mathlib.Data.List.TakeWhile

/-!
# Lists sorted by a key

A list sorted by a key, of which one element is kept for every key: the first in the list. Which
one that is depends on how the sort leaves equal keys.
-/
namespace Sedsprintf.Lib

variable {α κ : Type} [LinearOrder κ] {key : α → κ} {l l' : List α}

/-- The keys go up strictly. -/
def KeysAscend (key : α → κ) (l : List α) : Prop := l.Pairwise fun a b => key a < key b

theorem KeysAscend.eq_of_key {a b : α} (h : KeysAscend key l) (ha : a ∈ l) (hb : b ∈ l)
    (heq : key a = key b) : a = b := by
  induction l with
  | nil => simp at ha
  | cons head rest ih =>
    obtain ⟨hhead, hrest⟩ := List.pairwise_cons.mp h
    rcases List.mem_cons.mp ha with hahead | ha
    · rcases List.mem_cons.mp hb with hbhead | hb
      · rw [hahead, hbhead]
      · exact absurd (hahead ▸ heq) (hhead b hb).ne
    · rcases List.mem_cons.mp hb with hbhead | hb
      · exact absurd (hbhead ▸ heq.symm) (hhead a ha).ne
      · exact ih hrest ha hb

/-- A list whose keys go up is determined by what is in it. -/
theorem KeysAscend.ext (h : KeysAscend key l) (h' : KeysAscend key l')
    (hmem : ∀ a, a ∈ l ↔ a ∈ l') : l = l' := by
  have hnodup : ∀ {l : List α}, KeysAscend key l → l.Nodup := fun h =>
    h.imp fun hlt heq => (heq ▸ hlt).false
  have hperm := (List.perm_ext_iff_of_nodup (hnodup h) (hnodup h')).mpr hmem
  exact hperm.eq_of_pairwise (fun a b _ _ hab hba => absurd hab hba.asymm) h h'

/-- The first of every key. -/
def firstOfKey (key : α → κ) (l : List α) : List α := l.destutter fun a b => key a ≠ key b

theorem firstOfKey_sublist (key : α → κ) (l : List α) : (firstOfKey key l).Sublist l :=
  List.destutter_sublist _ l

theorem destutter'_of_key_ne {a b : α} (rest : List α) (h : key a ≠ key b) :
    (b :: rest).destutter' (fun a b => key a ≠ key b) a =
      a :: rest.destutter' (fun a b => key a ≠ key b) b := by
  rw [List.destutter'_cons, if_pos h]

theorem destutter'_of_key_eq {a b : α} (rest : List α) (h : key a = key b) :
    (b :: rest).destutter' (fun a b => key a ≠ key b) a =
      rest.destutter' (fun a b => key a ≠ key b) a := by
  rw [List.destutter'_cons, if_neg (not_not.mpr h)]

theorem destutter'_keysAscend (a : α) (rest : List α)
    (h : (a :: rest).Pairwise fun a b => key a ≤ key b) :
    KeysAscend key (rest.destutter' (fun a b => key a ≠ key b) a) ∧
      ∀ b ∈ rest, ∃ c ∈ rest.destutter' (fun a b => key a ≠ key b) a, key c = key b := by
  induction rest generalizing a with
  | nil => simp [KeysAscend]
  | cons b rest ih =>
    obtain ⟨hfirst, hrest⟩ := List.pairwise_cons.mp h
    by_cases hne : key a = key b
    · have hskip : (a :: rest).Pairwise fun a b => key a ≤ key b :=
        List.pairwise_cons.mpr ⟨fun c hc => hfirst c (List.mem_cons_of_mem _ hc),
          (List.pairwise_cons.mp hrest).2⟩
      obtain ⟨hascend, hcover⟩ := ih a hskip
      rw [destutter'_of_key_eq rest hne]
      refine ⟨hascend, fun c hc => ?_⟩
      rcases List.mem_cons.mp hc with rfl | hc
      · exact ⟨a, List.mem_destutter' _ _ a, hne⟩
      · exact hcover c hc
    · obtain ⟨hascend, hcover⟩ := ih b hrest
      rw [destutter'_of_key_ne rest hne]
      have hlt : key a < key b := lt_of_le_of_ne (hfirst b List.mem_cons_self) hne
      refine ⟨List.pairwise_cons.mpr ⟨fun c hc => ?_, hascend⟩, fun c hc => ?_⟩
      · rcases List.mem_cons.mp ((List.destutter'_sublist _ _ b).subset hc) with rfl | hc
        · exact hlt
        · exact lt_of_lt_of_le hlt ((List.pairwise_cons.mp hrest).1 c hc)
      · rcases List.mem_cons.mp hc with rfl | hc
        · exact ⟨c, List.mem_cons_of_mem _ (List.mem_destutter' _ _ c), rfl⟩
        · obtain ⟨d, hd, hkey⟩ := hcover c hc
          exact ⟨d, List.mem_cons_of_mem _ hd, hkey⟩

/-- Of a sorted list one element of every key is left, and the keys go up. -/
theorem firstOfKey_keysAscend (h : l.Pairwise fun a b => key a ≤ key b) :
    KeysAscend key (firstOfKey key l) := by
  cases l with
  | nil => exact List.Pairwise.nil
  | cons a rest => exact (destutter'_keysAscend a rest h).1

theorem exists_firstOfKey (h : l.Pairwise fun a b => key a ≤ key b) {b : α} (hb : b ∈ l) :
    ∃ c ∈ firstOfKey key l, key c = key b := by
  cases l with
  | nil => simp at hb
  | cons a rest =>
    rcases List.mem_cons.mp hb with rfl | hb
    · exact ⟨b, List.mem_destutter' _ _ b, rfl⟩
    · exact (destutter'_keysAscend a rest h).2 b hb

theorem mem_destutter'_of_first {a x : α} {front back : List α}
    (h : ∀ y ∈ a :: front, key y ≠ key x) :
    x ∈ (front ++ x :: back).destutter' (fun a b => key a ≠ key b) a := by
  induction front generalizing a with
  | nil =>
    rw [List.nil_append, destutter'_of_key_ne back (h a List.mem_cons_self)]
    exact List.mem_cons_of_mem _ (List.mem_destutter' _ _ x)
  | cons b front ih =>
    rw [List.cons_append]
    by_cases heq : key a = key b
    · rw [destutter'_of_key_eq _ heq]
      refine ih fun y hy => h y ?_
      rcases List.mem_cons.mp hy with rfl | hy
      · exact List.mem_cons_self
      · exact List.mem_cons_of_mem _ (List.mem_cons_of_mem _ hy)
    · rw [destutter'_of_key_ne _ heq]
      exact List.mem_cons_of_mem _ (ih fun y hy => h y (List.mem_cons_of_mem _ hy))

theorem mem_firstOfKey_of_first {x : α} {front back : List α} (h : ∀ y ∈ front, key y ≠ key x) :
    x ∈ firstOfKey key (front ++ x :: back) := by
  cases front with
  | nil => exact List.mem_destutter' _ _ x
  | cons a front => exact mem_destutter'_of_first h

/-- `out` is what sorting by the key and keeping the first of every key can give, whatever order
the sort leaves equal keys in. -/
def SortsTo (key : α → κ) (l out : List α) : Prop :=
  ∃ sorted : List α, sorted.Perm l ∧ (sorted.Pairwise fun a b => key a ≤ key b) ∧
    out = firstOfKey key sorted

section Sorting
variable {out : List α}

theorem insertionSort_sortsTo (key : α → κ) (l : List α) :
    SortsTo key l (firstOfKey key (l.insertionSort fun a b => key a ≤ key b)) := by
  have : Std.Total fun a b : α => key a ≤ key b := ⟨fun a b => le_total (key a) (key b)⟩
  have : IsTrans α fun a b => key a ≤ key b := ⟨fun a b c => le_trans⟩
  exact ⟨_, List.perm_insertionSort _ l, List.pairwise_insertionSort _ l, rfl⟩

theorem SortsTo.keysAscend (h : SortsTo key l out) : KeysAscend key out := by
  obtain ⟨sorted, -, hsorted, rfl⟩ := h
  exact firstOfKey_keysAscend hsorted

theorem SortsTo.subset (h : SortsTo key l out) {a : α} (ha : a ∈ out) : a ∈ l := by
  obtain ⟨sorted, hperm, -, rfl⟩ := h
  exact hperm.mem_iff.mp ((firstOfKey_sublist key sorted).subset ha)

theorem SortsTo.exists_of_mem (h : SortsTo key l out) {b : α} (hb : b ∈ l) :
    ∃ c ∈ out, key c = key b := by
  obtain ⟨sorted, hperm, hsorted, rfl⟩ := h
  exact exists_firstOfKey hsorted (hperm.mem_iff.mpr hb)

theorem SortsTo.perm (h : SortsTo key l out) (hperm : l.Perm l') : SortsTo key l' out := by
  obtain ⟨sorted, hsorted, hrest⟩ := h
  exact ⟨sorted, hsorted.trans hperm, hrest⟩

/-- Where one key has one element, nothing is lost. -/
theorem SortsTo.mem_iff (h : SortsTo key l out)
    (hone : ∀ a ∈ l, ∀ b ∈ l, key a = key b → a = b) (a : α) : a ∈ out ↔ a ∈ l := by
  constructor
  · exact h.subset
  · intro ha
    obtain ⟨c, hc, hkey⟩ := h.exists_of_mem ha
    rw [hone a ha c (h.subset hc) hkey.symm]
    exact hc

theorem SortsTo.eq (h : SortsTo key l out) {out' : List α} (h' : SortsTo key l out')
    (hone : ∀ a ∈ l, ∀ b ∈ l, key a = key b → a = b) : out = out' := by
  refine h.keysAscend.ext h'.keysAscend fun a => ?_
  rw [h.mem_iff hone, h'.mem_iff hone]

/-- Any element can be the one that is kept of its key. -/
theorem exists_sortsTo_mem {a : α} (ha : a ∈ l) : ∃ out, SortsTo key l out ∧ a ∈ out := by
  obtain ⟨front, back, rfl⟩ := List.append_of_mem ha
  have : Std.Total fun a b : α => key a ≤ key b := ⟨fun a b => le_total (key a) (key b)⟩
  have : IsTrans α fun a b => key a ≤ key b := ⟨fun a b c => le_trans⟩
  -- the stable sort of the list with `a` in front
  refine ⟨_, (insertionSort_sortsTo key (a :: (front ++ back))).perm
    List.perm_middle.symm, ?_⟩
  rw [List.insertionSort_cons, List.orderedInsert_eq_take_drop]
  refine mem_firstOfKey_of_first fun y hy => ?_
  have hbefore := List.mem_takeWhile_imp hy
  intro heq
  simp [heq] at hbefore

end Sorting
end Sedsprintf.Lib
