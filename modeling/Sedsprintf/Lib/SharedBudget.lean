import Mathlib.Data.List.Basic

/-!
# A byte budget shared by several stores

Room is made by popping one item at a time from the store that holds the most
bytes, and from a preferred store where that one has nothing to give.
-/
namespace Sedsprintf.Lib

structure Budget (σ κ : Type) where
  used : σ → Nat
  /-- Each store with its bytes and its number of items. -/
  shares : σ → List (κ × Nat × Nat)
  /-- Decides between stores of equal bytes. -/
  weight : κ → Nat
  pop : κ → σ → Option σ

inductive Room where
  | made
  | refused
  | unfinished
  deriving DecidableEq

namespace Budget
variable {σ κ : Type} (b : Budget σ κ)

/-- The later share unless the earlier one is larger by bytes, then weight. -/
def larger (best : Option (κ × Nat × Nat)) (share : κ × Nat × Nat) : Option (κ × Nat × Nat) :=
  match best with
  | none => some share
  | some top =>
    if share.2.1 < top.2.1 ∨ (share.2.1 = top.2.1 ∧ b.weight share.1 < b.weight top.1) then some top
    else some share

/-- The store with the most bytes, the last one on a tie. -/
def largest (s : σ) : Option κ :=
  (((b.shares s).filter fun share => 0 < share.2.1 ∧ 0 < share.2.2).foldl b.larger none).map
    fun share => share.1

/-- One turn of the loop: the largest store or the preferred one gives an item. -/
def popOne (preferred : κ) (s : σ) : Option σ :=
  match b.pop ((b.largest s).getD preferred) s with
  | some s' => some s'
  | none => b.pop preferred s

def makeRoom (limit cost : Nat) (preferred : κ) : (fuel : Nat) → σ → σ × Room
  | 0, s => (s, if limit < b.used s + cost then .unfinished else .made)
  | fuel + 1, s =>
    if limit < b.used s + cost then
      match b.popOne preferred s with
      | none => (s, .refused)
      | some s' => makeRoom limit cost preferred fuel s'
    else (s, .made)

variable {b} {limit cost fuel : Nat} {preferred : κ} {s s' : σ}

theorem popOne_eq_some (h : b.popOne preferred s = some s') : ∃ k, b.pop k s = some s' := by
  unfold popOne at h
  split at h
  · rename_i s₁ hpop
    obtain rfl := Option.some.inj h
    exact ⟨_, hpop⟩
  · exact ⟨preferred, h⟩

/-- What every turn of the loop keeps between two states, making room keeps. -/
theorem makeRoom_of_turns (rel : σ → σ → Prop) (hrefl : ∀ s, rel s s)
    (htrans : ∀ {s s' s'' : σ}, rel s s' → rel s' s'' → rel s s'')
    (hturn : ∀ {s s' : σ}, limit < b.used s + cost → b.popOne preferred s = some s' → rel s s') :
    rel s (b.makeRoom limit cost preferred fuel s).1 := by
  induction fuel generalizing s with
  | zero => exact hrefl s
  | succ fuel ih =>
    unfold makeRoom
    split
    · rename_i hover
      split
      · exact hrefl s
      · rename_i s₁ hone
        exact htrans (hturn hover hone) ih
    · exact hrefl s

/-- What every pop keeps between two states, making room keeps. -/
theorem makeRoom_relation (rel : σ → σ → Prop) (hrefl : ∀ s, rel s s)
    (htrans : ∀ {s s' s'' : σ}, rel s s' → rel s' s'' → rel s s'')
    (hpop : ∀ {k : κ} {s s' : σ}, b.pop k s = some s' → rel s s') :
    rel s (b.makeRoom limit cost preferred fuel s).1 := by
  refine makeRoom_of_turns rel hrefl htrans fun _ hone => ?_
  obtain ⟨k, hk⟩ := popOne_eq_some hone
  exact hpop hk

/-- The loop ends where each pop takes an item away. -/
theorem makeRoom_ne_unfinished (items : σ → Nat)
    (hpop : ∀ {k : κ} {s s' : σ}, b.pop k s = some s' → items s' < items s)
    (hfuel : items s < fuel) : (b.makeRoom limit cost preferred fuel s).2 ≠ .unfinished := by
  induction fuel generalizing s with
  | zero => omega
  | succ fuel ih =>
    unfold makeRoom
    split
    · split
      · exact fun h => by cases h
      · rename_i s₁ hone
        obtain ⟨k, hk⟩ := popOne_eq_some hone
        have := hpop hk
        exact ih (by omega)
    · exact fun h => by cases h

/-- Nothing is refused where an overfull state always has an item to give. -/
theorem makeRoom_ne_refused (ok : σ → Prop)
    (hgive : ∀ {s : σ}, ok s → limit < b.used s + cost →
      ∃ s', b.popOne preferred s = some s' ∧ ok s') (hok : ok s) :
    (b.makeRoom limit cost preferred fuel s).2 ≠ .refused := by
  induction fuel generalizing s with
  | zero =>
    unfold makeRoom
    dsimp only
    split
    · exact fun h => by cases h
    · exact fun h => by cases h
  | succ fuel ih =>
    unfold makeRoom
    split
    · rename_i hover
      obtain ⟨s', hone, hok'⟩ := hgive hok hover
      rw [hone]
      exact ih hok'
    · exact fun h => by cases h

theorem makeRoom_used_le (h : (b.makeRoom limit cost preferred fuel s).2 = .made) :
    b.used (b.makeRoom limit cost preferred fuel s).1 + cost ≤ limit := by
  induction fuel generalizing s with
  | zero =>
    unfold makeRoom at h ⊢
    dsimp only at h ⊢
    split at h
    · cases h
    · omega
  | succ fuel ih =>
    unfold makeRoom at h ⊢
    by_cases hover : limit < b.used s + cost
    · simp only [hover, if_true] at h ⊢
      cases hone : b.popOne preferred s with
      | none => simp [hone] at h
      | some s' =>
        simp only [hone] at h ⊢
        exact ih h
    · simp only [hover, if_false] at h ⊢
      omega

theorem makeRoom_of_fits (h : b.used s + cost ≤ limit) :
    b.makeRoom limit cost preferred fuel s = (s, .made) := by
  cases fuel with
  | zero => simp [makeRoom, Nat.not_lt.mpr h]
  | succ fuel => simp [makeRoom, Nat.not_lt.mpr h]

/-- An item is taken where the state is overfull and has one to give. -/
theorem makeRoom_items_lt {one : σ} (items : σ → Nat)
    (hpop : ∀ {k : κ} {s s' : σ}, b.pop k s = some s' → items s' < items s)
    (hover : limit < b.used s + cost) (hone : b.popOne preferred s = some one) :
    items (b.makeRoom limit cost preferred (fuel + 1) s).1 < items s := by
  have hrest : items (b.makeRoom limit cost preferred fuel one).1 ≤ items one :=
    makeRoom_relation (fun s s' => items s' ≤ items s) (fun _ => Nat.le_refl _)
      (fun h h' => Nat.le_trans h' h) fun h => Nat.le_of_lt (hpop h)
  obtain ⟨k, hk⟩ := popOne_eq_some hone
  have := hpop hk
  unfold makeRoom
  rw [if_pos hover, hone]
  dsimp only
  omega

theorem makeRoom_of_stuck (hover : limit < b.used s + cost)
    (hstuck : b.popOne preferred s = none) :
    b.makeRoom limit cost preferred (fuel + 1) s = (s, .refused) := by
  unfold makeRoom
  rw [if_pos hover, hstuck]

/-- The store that gives an item in the next turn. -/
def giver (preferred : κ) (s : σ) : κ :=
  let first := (b.largest s).getD preferred
  if (b.pop first s).isSome then first else preferred

theorem popOne_eq (b : Budget σ κ) (preferred : κ) (s : σ) :
    b.popOne preferred s = b.pop (b.giver preferred s) s := by
  unfold popOne giver
  cases hpop : b.pop ((b.largest s).getD preferred) s with
  | none => simp [hpop]
  | some s' => simp [hpop]

section Taken
variable [DecidableEq κ]

/-- How often making room takes from `x`. -/
def taken (b : Budget σ κ) (x : κ) (limit cost : Nat) (preferred : κ) : (fuel : Nat) → σ → Nat
  | 0, _ => 0
  | fuel + 1, s =>
    if limit < b.used s + cost then
      match b.popOne preferred s with
      | none => 0
      | some s' =>
        (if b.giver preferred s = x then 1 else 0) + taken b x limit cost preferred fuel s'
    else 0

variable {x : κ}

/-- The items of `x` that stay are those behind what it gives. -/
theorem items_makeRoom {α : Type} (items : σ → List α)
    (hpop : ∀ {k : κ} {s s' : σ}, b.pop k s = some s' →
      items s' = (items s).drop (if k = x then 1 else 0)) :
    items (b.makeRoom limit cost preferred fuel s).1 =
      (items s).drop (b.taken x limit cost preferred fuel s) := by
  induction fuel generalizing s with
  | zero => rfl
  | succ fuel ih =>
    unfold makeRoom taken
    split
    · cases hone : b.popOne preferred s with
      | none => rfl
      | some s' =>
        dsimp only
        rw [ih, hpop ((b.popOne_eq preferred s).symm.trans hone), List.drop_drop]
    · rfl

end Taken

section CutDown
variable [DecidableEq κ]

/-- The other stores cut down, the largest first, until none of them is larger than
`x`: no limit enters. -/
def cutDown (b : Budget σ κ) (x : κ) : (fuel : Nat) → σ → σ
  | 0, s => s
  | fuel + 1, s =>
    match b.largest s with
    | none => s
    | some y =>
      if y = x then s
      else
        match b.pop y s with
        | none => s
        | some s' => cutDown b x fuel s'

variable {x : κ}

/-- One turn: the state stays and the next pop is of `x`, or another store gives. -/
theorem cutDown_cases (b : Budget σ κ) (x : κ) (fuel : Nat) (s : σ) :
    (b.cutDown x (fuel + 1) s = s ∧ b.popOne x s = b.pop x s) ∨
      ∃ y s', y ≠ x ∧ b.pop y s = some s' ∧ b.popOne x s = some s' ∧
        b.cutDown x (fuel + 1) s = b.cutDown x fuel s' := by
  cases hlargest : b.largest s with
  | none =>
    refine .inl ⟨by simp only [cutDown, hlargest], ?_⟩
    simp only [popOne, hlargest, Option.getD_none]
    cases b.pop x s <;> rfl
  | some y =>
    by_cases hy : y = x
    · subst hy
      refine .inl ⟨by simp only [cutDown, hlargest, if_true], ?_⟩
      simp only [popOne, hlargest, Option.getD_some]
      cases b.pop y s <;> rfl
    · cases hpop : b.pop y s with
      | none =>
        refine .inl ⟨by simp only [cutDown, hlargest, hy, if_false, hpop], ?_⟩
        simp only [popOne, hlargest, Option.getD_some, hpop]
      | some s' =>
        refine .inr ⟨y, s', hy, hpop, ?_, ?_⟩
        · simp only [popOne, hlargest, Option.getD_some, hpop]
        · simp only [cutDown, hlargest, hy, if_false, hpop]

/-- What the pops of other stores keep, cutting them down keeps. -/
theorem cutDown_relation (rel : σ → σ → Prop) (hrefl : ∀ s, rel s s)
    (htrans : ∀ {s s' s'' : σ}, rel s s' → rel s' s'' → rel s s'')
    (hpop : ∀ {k : κ} {s s' : σ}, k ≠ x → b.pop k s = some s' → rel s s') :
    rel s (b.cutDown x fuel s) := by
  induction fuel generalizing s with
  | zero => exact hrefl s
  | succ fuel ih =>
    rcases b.cutDown_cases x fuel s with ⟨hstay, -⟩ | ⟨y, s', hy, hpopped, -, hnext⟩
    · rw [hstay]
      exact hrefl s
    · rw [hnext]
      exact htrans (hpop hy hpopped) ih

/-- Room is found before `x` is reached where the others cut down leave enough. -/
theorem makeRoom_spares (rel : σ → σ → Prop) (hrefl : ∀ s, rel s s)
    (htrans : ∀ {s s' s'' : σ}, rel s s' → rel s' s'' → rel s s'')
    (hpop : ∀ {k : κ} {s s' : σ}, k ≠ x → b.pop k s = some s' → rel s s')
    (hfits : b.used (b.cutDown x fuel s) + cost ≤ limit) :
    rel s (b.makeRoom limit cost x fuel s).1 ∧ (b.makeRoom limit cost x fuel s).2 = .made := by
  induction fuel generalizing s with
  | zero =>
    have hnow : b.used s + cost ≤ limit := hfits
    rw [makeRoom_of_fits hnow]
    exact ⟨hrefl s, rfl⟩
  | succ fuel ih =>
    by_cases hnow : b.used s + cost ≤ limit
    · rw [makeRoom_of_fits hnow]
      exact ⟨hrefl s, rfl⟩
    · rcases b.cutDown_cases x fuel s with ⟨hstay, -⟩ | ⟨y, s', hy, hpopped, hone, hnext⟩
      · rw [hstay] at hfits
        exact absurd hfits hnow
      · rw [hnext] at hfits
        obtain ⟨hrel, hmade⟩ := ih hfits
        unfold makeRoom
        rw [if_pos (Nat.not_le.mp hnow), hone]
        exact ⟨htrans (hpop hy hpopped) hrel, hmade⟩

/-- And otherwise the loop arrives where the others are cut down, to take from `x`. -/
theorem makeRoom_reaches (items : σ → Nat)
    (hpop : ∀ {k : κ} {s s' : σ}, b.pop k s = some s' → items s' < items s)
    (hlight : ∀ {k : κ} {s s' : σ}, b.pop k s = some s' → b.used s' ≤ b.used s)
    (hfuel : items s < fuel) (hover : limit < b.used (b.cutDown x fuel s) + cost) :
    (∃ fuel', b.makeRoom limit cost x fuel s =
      b.makeRoom limit cost x (fuel' + 1) (b.cutDown x fuel s)) ∧
      b.popOne x (b.cutDown x fuel s) = b.pop x (b.cutDown x fuel s) := by
  induction fuel generalizing s with
  | zero => omega
  | succ fuel ih =>
    rcases b.cutDown_cases x fuel s with ⟨hstay, hone⟩ | ⟨y, s', -, hpopped, hone, hnext⟩
    · rw [hstay]
      exact ⟨⟨fuel, rfl⟩, hone⟩
    · rw [hnext] at hover ⊢
      have hitems := hpop hpopped
      have hcut : b.used (b.cutDown x fuel s') ≤ b.used s' :=
        cutDown_relation (fun s s' => b.used s' ≤ b.used s) (fun _ => Nat.le_refl _)
          (fun h h' => Nat.le_trans h' h) fun _ h => hlight h
      have hused := hlight hpopped
      obtain ⟨⟨fuel', heq⟩, hpopOne⟩ := ih (by omega) hover
      refine ⟨⟨fuel', ?_⟩, hpopOne⟩
      rw [← heq, makeRoom, if_pos (by omega), hone]

/-- There `x` gives its first item, or the loop ends without room. -/
theorem makeRoom_takes (items : σ → Nat)
    (hpop : ∀ {k : κ} {s s' : σ}, b.pop k s = some s' → items s' < items s)
    (hlight : ∀ {k : κ} {s s' : σ}, b.pop k s = some s' → b.used s' ≤ b.used s)
    (hfuel : items s < fuel) (hover : limit < b.used (b.cutDown x fuel s) + cost) :
    (∃ fuel' s', b.pop x (b.cutDown x fuel s) = some s' ∧
      b.makeRoom limit cost x fuel s = b.makeRoom limit cost x fuel' s') ∨
      (b.makeRoom limit cost x fuel s).2 = .refused := by
  obtain ⟨⟨fuel', hreach⟩, hpopOne⟩ := makeRoom_reaches items hpop hlight hfuel hover
  rw [hreach]
  cases hfront : b.pop x (b.cutDown x fuel s) with
  | none =>
    rw [makeRoom_of_stuck hover (hpopOne.trans hfront)]
    exact .inr rfl
  | some s' =>
    refine .inl ⟨fuel', s', rfl, ?_⟩
    rw [makeRoom, if_pos hover, hpopOne, hfront]

end CutDown

theorem larger_cases (best : Option (κ × Nat × Nat)) (share : κ × Nat × Nat) :
    b.larger best share = some share ∨ (b.larger best share = best ∧ best.isSome = true) := by
  unfold larger
  cases best with
  | none => exact .inl rfl
  | some top =>
    dsimp only
    split
    · exact .inr ⟨rfl, rfl⟩
    · exact .inl rfl

theorem foldl_larger (best : Option (κ × Nat × Nat)) (rest : List (κ × Nat × Nat))
    (h : best.isSome = true ∨ rest ≠ []) :
    ∃ top, rest.foldl b.larger best = some top ∧ (best = some top ∨ top ∈ rest) := by
  induction rest generalizing best with
  | nil =>
    obtain ⟨top, rfl⟩ := Option.isSome_iff_exists.mp (h.resolve_right (by simp))
    exact ⟨top, rfl, .inl rfl⟩
  | cons head rest ih =>
    rw [List.foldl_cons]
    rcases b.larger_cases best head with heq | ⟨heq, hsome⟩
    · obtain ⟨top, hfold, htop⟩ := ih (b.larger best head) (.inl (by rw [heq]; rfl))
      refine ⟨top, hfold, .inr ?_⟩
      rw [heq, Option.some.injEq] at htop
      rcases htop with rfl | hin
      · exact List.mem_cons_self
      · exact List.mem_cons_of_mem _ hin
    · rw [heq]
      obtain ⟨top, hfold, htop⟩ := ih best (.inl hsome)
      exact ⟨top, hfold, htop.imp_right (List.mem_cons_of_mem _)⟩

/-- The largest store is one with bytes and items. -/
theorem largest_eq_some {k : κ} (h : b.largest s = some k) :
    ∃ top ∈ b.shares s, top.1 = k ∧ 0 < top.2.1 ∧ 0 < top.2.2 := by
  obtain ⟨top, hfold, rfl⟩ := Option.map_eq_some_iff.mp h
  have hne : ((b.shares s).filter fun share => 0 < share.2.1 ∧ 0 < share.2.2) ≠ [] := by
    intro hnil
    rw [hnil] at hfold
    cases hfold
  obtain ⟨top', hfold', hmem⟩ := foldl_larger (b := b) none _ (.inr hne)
  obtain rfl := Option.some.inj (hfold.symm.trans hfold')
  have hmem := hmem.resolve_left (by simp)
  simp only [List.mem_filter, decide_eq_true_eq] at hmem
  exact ⟨top, hmem.1, rfl, hmem.2⟩

/-- Some store with bytes and items makes the largest one exist, with both. -/
theorem largest_spec {share : κ × Nat × Nat} (hmem : share ∈ b.shares s)
    (hbytes : 0 < share.2.1) (hitems : 0 < share.2.2) :
    ∃ top ∈ b.shares s, b.largest s = some top.1 ∧ 0 < top.2.1 ∧ 0 < top.2.2 := by
  have hin : share ∈ (b.shares s).filter fun share => 0 < share.2.1 ∧ 0 < share.2.2 := by
    simp [hmem, hbytes, hitems]
  obtain ⟨top, htop, hmem'⟩ := foldl_larger (b := b) none _ (.inr (List.ne_nil_of_mem hin))
  have hmem' := hmem'.resolve_left (by simp)
  simp only [List.mem_filter, decide_eq_true_eq] at hmem'
  exact ⟨top, hmem'.1, by rw [largest, htop]; rfl, hmem'.2⟩

end Budget
end Sedsprintf.Lib
