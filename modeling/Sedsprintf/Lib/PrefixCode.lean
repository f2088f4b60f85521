import Mathlib.Data.List.Basic

/-!
# Codes that end by themselves

What is written by a self-delimiting code can be read off the front of any longer text: no two
values are written so that one could be taken for the other with more behind it. Counts, counted
lists and records of such codes are self-delimiting.
-/
namespace Sedsprintf.Lib

variable {α β γ σ : Type}

/-- Valid values are told apart, whatever follows. -/
def SelfDelimiting (valid : α → Prop) (write : α → List σ) : Prop :=
  ∀ ⦃a b : α⦄ ⦃rest rest' : List σ⦄, valid a → valid b → write a ++ rest = write b ++ rest' →
    a = b ∧ rest = rest'

namespace SelfDelimiting
variable {valid : α → Prop} {write : α → List σ}

/-- What is written by itself is told apart too. -/
theorem injective (h : SelfDelimiting valid write) {a b : α} (ha : valid a) (hb : valid b)
    (heq : write a = write b) : a = b :=
  (h ha hb (congrArg (· ++ []) heq)).1

/-- Words of one width. -/
theorem fixed {width : Nat} (hwidth : ∀ a, (write a).length = width)
    (hinj : ∀ ⦃a b⦄, valid a → valid b → write a = write b → a = b) :
    SelfDelimiting valid write := by
  intro a b rest rest' ha hb heq
  obtain ⟨hwrite, hrest⟩ := List.append_inj heq ((hwidth a).trans (hwidth b).symm)
  exact ⟨hinj ha hb hwrite, hrest⟩

/-- A part of a record, and a code for the rest of it behind. -/
theorem append {valid' : β → Prop} {write' : β → List σ} (h : SelfDelimiting valid write)
    (h' : SelfDelimiting valid' write') :
    SelfDelimiting (fun p : α × β => valid p.1 ∧ valid' p.2) fun p => write p.1 ++ write' p.2 := by
  rintro ⟨a, b⟩ ⟨a', b'⟩ rest rest' ⟨ha, hb⟩ ⟨ha', hb'⟩ heq
  rw [List.append_assoc, List.append_assoc] at heq
  obtain ⟨rfl, hbehind⟩ := h ha ha' heq
  obtain ⟨rfl, hrest⟩ := h' hb hb' hbehind
  exact ⟨rfl, hrest⟩

/-- A record by its parts. -/
theorem record {parts : γ → α} (h : SelfDelimiting valid write)
    (hparts : Function.Injective parts) :
    SelfDelimiting (fun c => valid (parts c)) fun c => write (parts c) := by
  intro c c' rest rest' hc hc' heq
  obtain ⟨hsame, hrest⟩ := h hc hc' heq
  exact ⟨hparts hsame, hrest⟩

theorem mono {valid' : α → Prop} (h : SelfDelimiting valid write)
    (hvalid : ∀ a, valid' a → valid a) : SelfDelimiting valid' write :=
  fun _ _ _ _ ha hb heq => h (hvalid _ ha) (hvalid _ hb) heq

/-- Lists of one length. -/
theorem flatMap (h : SelfDelimiting valid write) {l l' : List α} {rest rest' : List σ}
    (hlength : l.length = l'.length) (hl : ∀ a ∈ l, valid a) (hl' : ∀ a ∈ l', valid a)
    (heq : l.flatMap write ++ rest = l'.flatMap write ++ rest') : l = l' ∧ rest = rest' := by
  induction l generalizing l' with
  | nil =>
    obtain rfl := List.length_eq_zero_iff.mp hlength.symm
    exact ⟨rfl, heq⟩
  | cons a tail ih =>
    obtain ⟨b, tail', rfl⟩ := List.exists_cons_of_length_eq_add_one hlength.symm
    rw [List.flatMap_cons, List.flatMap_cons, List.append_assoc, List.append_assoc] at heq
    obtain ⟨rfl, hbehind⟩ := h (hl a List.mem_cons_self) (hl' b List.mem_cons_self) heq
    obtain ⟨rfl, hrest⟩ := ih (by simpa using hlength)
      (fun c hc => hl c (List.mem_cons_of_mem _ hc))
      (fun c hc => hl' c (List.mem_cons_of_mem _ hc)) hbehind
    exact ⟨rfl, hrest⟩

variable {counts : Nat → Prop} {count : Nat → List σ}

/-- A count and that many values. -/
theorem counted (h : SelfDelimiting valid write) (hcount : SelfDelimiting counts count) :
    SelfDelimiting (fun l : List α => counts l.length ∧ ∀ a ∈ l, valid a)
      fun l => count l.length ++ l.flatMap write := by
  rintro l l' rest rest' ⟨hl, hvalid⟩ ⟨hl', hvalid'⟩ heq
  rw [List.append_assoc, List.append_assoc] at heq
  obtain ⟨hlength, hbehind⟩ := hcount hl hl' heq
  exact h.flatMap hlength hvalid hvalid' hbehind

/-- A length and a text of that length. -/
theorem measured {text : α → List σ} (hcount : SelfDelimiting counts count)
    (hinj : Function.Injective text) :
    SelfDelimiting (fun a => counts (text a).length) fun a => count (text a).length ++ text a := by
  intro a b rest rest' ha hb heq
  rw [List.append_assoc, List.append_assoc] at heq
  obtain ⟨hlength, hbehind⟩ := hcount ha hb heq
  obtain ⟨htext, hrest⟩ := List.append_inj hbehind hlength
  exact ⟨hinj htext, hrest⟩

end SelfDelimiting
end Sedsprintf.Lib
