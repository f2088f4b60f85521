import Mathlib.Data.Nat.Count
import Mathlib.Data.Nat.Periodic
import Mathlib.Algebra.BigOperators.Group.List.Basic
import Mathlib.Tactic.Ring
import Mathlib.Tactic.Linarith

/-!
# Weighted choice by a running ticket

Items own consecutive intervals of tickets, each as long as its weight, and a ticket
picks the item whose interval it falls into. Tickets that advance by one deal the items
out by weight in every full turn; tickets that advance by two do so exactly when the
turn is odd or every weight is even.
-/
namespace Sedsprintf.Lib

variable {α : Type}

/-- The item whose interval holds the ticket. -/
def pickWeighted (weight : α → Nat) : List α → Nat → Option α
  | [], _ => none
  | item :: rest, ticket =>
    if ticket < weight item then some item else pickWeighted weight rest (ticket - weight item)

/-- The tickets of one turn. -/
def totalWeight (weight : α → Nat) (items : List α) : Nat := (items.map weight).sum

theorem totalWeight_perm {weight : α → Nat} {items items' : List α} (h : items.Perm items') :
    totalWeight weight items = totalWeight weight items' := (h.map weight).sum_eq

theorem pickWeighted_mem {weight : α → Nat} {items : List α} {ticket : Nat} {a : α}
    (h : pickWeighted weight items ticket = some a) : a ∈ items := by
  induction items generalizing ticket with
  | nil => cases h
  | cons item rest ih =>
    rw [pickWeighted] at h
    split at h
    · obtain rfl := Option.some.inj h
      exact List.mem_cons_self
    · exact List.mem_cons_of_mem _ (ih h)

/-- Every ticket of the turn picks an item. -/
theorem pickWeighted_isSome {weight : α → Nat} {items : List α} {ticket : Nat}
    (h : ticket < totalWeight weight items) : ∃ a, pickWeighted weight items ticket = some a := by
  induction items generalizing ticket with
  | nil => cases h
  | cons item rest ih =>
    rw [pickWeighted]
    split
    · exact ⟨item, rfl⟩
    · apply ih
      simp only [totalWeight, List.map_cons, List.sum_cons] at h ⊢
      omega

/-- Half the weights, half the tickets. -/
theorem pickWeighted_double {weight : α → Nat} {items : List α} (heven : ∀ a ∈ items, Even (weight a))
    {p : Nat} (hp : p < 2) (ticket : Nat) :
    pickWeighted weight items (2 * ticket + p) =
      pickWeighted (fun a => weight a / 2) items ticket := by
  induction items generalizing ticket with
  | nil => rfl
  | cons item rest ih =>
    have hrest := ih fun a ha => heven a (List.mem_cons_of_mem _ ha)
    obtain ⟨half, hhalf⟩ := heven item List.mem_cons_self
    have hdiv : weight item / 2 = half := by omega
    simp only [pickWeighted, hdiv]
    by_cases hlt : ticket < half
    · rw [if_pos (by omega), if_pos hlt]
    · have hsub : 2 * ticket + p - weight item = 2 * (ticket - half) + p := by omega
      rw [if_neg (by omega), if_neg hlt, hsub, hrest]

section Turns
variable [DecidableEq α] (weight : α → Nat) (items : List α)

/-- How many of the tickets `start`, `start + stride`, … in `n` draws pick `a`; tickets
count round the turn. -/
def drawn (start stride n : Nat) (a : α) : Nat :=
  Nat.count (fun i => pickWeighted weight items ((start + stride * i) % totalWeight weight items) =
    some a) n

/-- In one turn of tickets, each occurrence of an item is picked as often as its weight. -/
theorem count_pickWeighted (items : List α) (a : α) :
    Nat.count (fun ticket => pickWeighted weight items ticket = some a) (totalWeight weight items) =
      items.count a * weight a := by
  induction items with
  | nil => simp [totalWeight]
  | cons item rest ih =>
    have htotal : totalWeight weight (item :: rest) = weight item + totalWeight weight rest := by
      simp [totalWeight]
    have hfirst : ∀ ticket < weight item,
        pickWeighted weight (item :: rest) ticket = some item := fun ticket hlt => by
      rw [pickWeighted, if_pos hlt]
    have hthen : ∀ ticket, pickWeighted weight (item :: rest) (weight item + ticket) =
        pickWeighted weight rest ticket := fun ticket => by
      rw [pickWeighted, if_neg (by omega), Nat.add_sub_cancel_left]
    simp only [htotal, Nat.count_add, hthen, ih]
    by_cases heq : item = a
    · subst heq
      have hhead : Nat.count (fun ticket => pickWeighted weight (item :: rest) ticket = some item)
          (weight item) = weight item := Nat.count_iff_forall.mpr hfirst
      rw [hhead, List.count_cons_self]
      ring
    · have hhead : Nat.count (fun ticket => pickWeighted weight (item :: rest) ticket = some a)
          (weight item) = 0 := by
        apply Nat.count_iff_forall_not.mpr
        intro ticket hlt hpick
        rw [hfirst ticket hlt] at hpick
        exact heq (Option.some.inj hpick)
      rw [hhead, Nat.zero_add, List.count_cons_of_ne heq]

/-- A shift of a periodic property is counted alike over a period. -/
theorem count_shift_of_periodic {p : Nat → Prop} [DecidablePred p] {n : Nat}
    (hp : Function.Periodic p n) (start : Nat) :
    Nat.count (fun i => p (start + i)) n = Nat.count p n := by
  have hadd := Nat.count_add p start n
  have hcard := Nat.filter_Ico_card_eq_of_periodic start n p hp
  have hsplit : Nat.count p (start + n) = Nat.count p start + Nat.count p n := by
    rw [Nat.count_eq_card_filter_range, Nat.count_eq_card_filter_range, ← hcard,
      Finset.range_eq_Ico, Finset.range_eq_Ico, ← Finset.card_union_of_disjoint
        (Finset.disjoint_filter_filter (Finset.Ico_disjoint_Ico_consecutive 0 start (start + n))),
      ← Finset.filter_union, Finset.Ico_union_Ico_eq_Ico (Nat.zero_le _) (Nat.le_add_right _ _)]
  omega

/-- Tickets that advance by one deal a turn out by occurrence and weight. -/
theorem drawn_one_mul (items : List α) (start : Nat) (a : α) :
    drawn weight items start 1 (totalWeight weight items) a = items.count a * weight a := by
  unfold drawn
  rw [← count_pickWeighted weight items a]
  have hperiodic : Function.Periodic (fun i =>
      pickWeighted weight items (i % totalWeight weight items) = some a)
      (totalWeight weight items) := fun i => by simp
  simp only [Nat.one_mul]
  rw [count_shift_of_periodic hperiodic start]
  simp only [Nat.count_eq_card_filter_range]
  congr 1
  refine Finset.filter_congr fun i hi => ?_
  rw [Nat.mod_eq_of_lt (Finset.mem_range.mp hi)]

theorem drawn_one {items : List α} (hnodup : items.Nodup) {a : α} (ha : a ∈ items) (start : Nat) :
    drawn weight items start 1 (totalWeight weight items) a = weight a := by
  rw [drawn_one_mul, List.count_eq_one_of_mem hnodup ha, Nat.one_mul]

/-- The first draw and the ones behind it. -/
theorem drawn_one_succ (start n : Nat) (a : α) :
    drawn weight items start 1 (n + 1) a = drawn weight items (start + 1) 1 n a +
      if pickWeighted weight items (start % totalWeight weight items) = some a then 1 else 0 := by
  unfold drawn
  rw [Nat.count_succ']
  simp only [Nat.one_mul, Nat.mul_zero, Nat.add_zero]
  congr 2
  funext i
  rw [Nat.add_right_comm, Nat.add_assoc]

/-- Two turns in place of one. -/
theorem count_double_of_periodic {p : Nat → Prop} [DecidablePred p] {n : Nat}
    (hp : Function.Periodic p n) : Nat.count p (2 * n) = 2 * Nat.count p n := by
  have hshift : (fun i => p (n + i)) = p := funext fun i => by rw [Nat.add_comm, hp]
  rw [Nat.two_mul, Nat.count_add]
  simp only [hshift]
  omega

/-- An odd turn, gone through by twos, meets every ticket once. -/
theorem drawn_two_of_odd {items : List α} (hnodup : items.Nodup) {a : α} (ha : a ∈ items)
    (hodd : Odd (totalWeight weight items)) (start : Nat) :
    drawn weight items start 2 (totalWeight weight items) a = weight a := by
  rw [← drawn_one weight hnodup ha start]
  unfold drawn
  generalize hW : totalWeight weight items = W at hodd
  obtain ⟨half, rfl⟩ := hodd
  -- the first half and the second half take the even and the odd offsets
  simp only [Nat.count_eq_card_filter_range, Nat.one_mul]
  refine Finset.card_bij (fun i _ => 2 * i % (2 * half + 1)) ?_ ?_ ?_
  · intro i hi
    simp only [Finset.mem_filter, Finset.mem_range] at hi ⊢
    refine ⟨Nat.mod_lt _ (by omega), ?_⟩
    rw [Nat.add_mod_mod]
    exact hi.2
  · intro i hi j hj hij
    simp only [Finset.mem_filter, Finset.mem_range] at hi hj
    have hi' := hi.1
    have hj' := hj.1
    clear hi hj
    have hcases : ∀ k < 2 * half + 1, 2 * k % (2 * half + 1) =
        if k ≤ half then 2 * k else 2 * k - (2 * half + 1) := by
      intro k hk
      split
      · exact Nat.mod_eq_of_lt (by omega)
      · rw [Nat.mod_eq_sub_mod (by omega)]
        exact Nat.mod_eq_of_lt (by omega)
    rw [hcases i hi', hcases j hj'] at hij
    split at hij <;> split at hij <;> omega
  · intro k hk
    simp only [Finset.mem_filter, Finset.mem_range] at hk
    obtain ⟨hk', hpick⟩ := hk
    by_cases hpar : k % 2 = 0
    · have heq : 2 * (k / 2) % (2 * half + 1) = k := by
        have hdiv : 2 * (k / 2) = k := by omega
        rw [hdiv, Nat.mod_eq_of_lt hk']
      refine ⟨k / 2, ?_, heq⟩
      simp only [Finset.mem_filter, Finset.mem_range]
      refine ⟨by omega, ?_⟩
      rw [← Nat.add_mod_mod, heq]
      exact hpick
    · have heq : 2 * ((k + (2 * half + 1)) / 2) % (2 * half + 1) = k := by
        have hdiv : 2 * ((k + (2 * half + 1)) / 2) = k + (2 * half + 1) := by omega
        rw [hdiv, Nat.add_mod_right, Nat.mod_eq_of_lt hk']
      refine ⟨(k + (2 * half + 1)) / 2, ?_, heq⟩
      simp only [Finset.mem_filter, Finset.mem_range]
      refine ⟨by omega, ?_⟩
      rw [← Nat.add_mod_mod, heq]
      exact hpick

/-- In an even turn the twos come round to each of their tickets twice. -/
theorem drawn_two_of_even {items : List α} {half : Nat}
    (hW : totalWeight weight items = 2 * half) (start : Nat) (a : α) :
    drawn weight items start 2 (totalWeight weight items) a =
      2 * drawn weight items start 2 half a := by
  unfold drawn
  rw [hW]
  apply count_double_of_periodic
  intro i
  have hstep : start + 2 * (i + half) = start + 2 * i + 2 * half := by omega
  simp only [hstep, Nat.add_mod_right]

/-- Even weights are dealt out by half of the turn. -/
theorem drawn_two_of_even_weights {items : List α} (hnodup : items.Nodup) {a : α} (ha : a ∈ items)
    (heven : ∀ a ∈ items, Even (weight a)) (start : Nat) :
    drawn weight items start 2 (totalWeight weight items) a = weight a := by
  have htotal : totalWeight weight items = 2 * totalWeight (fun a => weight a / 2) items := by
    clear hnodup ha
    induction items with
    | nil => rfl
    | cons item rest ih =>
      have hrest := ih fun a ha => heven a (List.mem_cons_of_mem _ ha)
      obtain ⟨half, hhalf⟩ := heven item List.mem_cons_self
      simp only [totalWeight, List.map_cons, List.sum_cons] at hrest ⊢
      omega
  have hhalf := drawn_one (fun a => weight a / 2) hnodup ha (start / 2)
  rw [drawn_two_of_even weight htotal]
  have hsame : drawn weight items start 2 (totalWeight (fun a => weight a / 2) items) a =
      weight a / 2 := by
    rw [← hhalf]
    unfold drawn
    rw [htotal]
    congr 1
    funext i
    -- a ticket keeps the parity of the first one
    have hticket : (start + 2 * i) % (2 * totalWeight (fun a => weight a / 2) items) =
        2 * ((start / 2 + 1 * i) % totalWeight (fun a => weight a / 2) items) + start % 2 := by
      generalize totalWeight (fun a => weight a / 2) items = half
      have hsplit : start + 2 * i = 2 * (start / 2 + 1 * i) + start % 2 := by omega
      have hlt : start % 2 < 2 := Nat.mod_lt _ (by decide)
      rw [hsplit, Nat.mod_mul, Nat.mul_add_mod, Nat.mod_mod, Nat.mul_add_div (by decide),
        Nat.div_eq_of_lt hlt, Nat.add_zero, Nat.add_comm]
    rw [hticket, pickWeighted_double heven (Nat.mod_lt _ (by decide))]
  obtain ⟨k, hk⟩ := heven a ha
  omega

/-- By twos, a turn is dealt out by weight exactly when it is odd or all weights are
even. -/
theorem drawn_two_fair_iff {items : List α} (hnodup : items.Nodup) (start : Nat) :
    (∀ a ∈ items, drawn weight items start 2 (totalWeight weight items) a = weight a) ↔
      Odd (totalWeight weight items) ∨ ∀ a ∈ items, Even (weight a) := by
  constructor
  · intro hfair
    rcases Nat.even_or_odd (totalWeight weight items) with ⟨half, hhalf⟩ | hodd
    · right
      intro a ha
      have hdouble := @drawn_two_of_even α _ weight items half (by omega) start a
      rw [hfair a ha] at hdouble
      rw [hdouble]
      exact even_two_mul _
    · exact .inl hodd
  · rintro (hodd | heven) a ha
    · exact drawn_two_of_odd weight hnodup ha hodd start
    · exact drawn_two_of_even_weights weight hnodup ha heven start

end Turns
end Sedsprintf.Lib
