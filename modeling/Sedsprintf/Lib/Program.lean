import Mathlib.Logic.Relation

/-!
# Programs that may stop

A program changes a state and comes back with a value or stops; what it did before it
stopped stays done. `Triple pre p post stop` says what holds after it, either way, and
every construct has one rule. Programs that call back into the system they are part of are
run in layers: a step of one layer sees the runs of the layer below as its callbacks.
-/
namespace Sedsprintf.Lib

/-- A computation on a state of type `σ`. -/
def Program (σ ε α : Type) := σ → σ × Except ε α

namespace Program
variable {σ ε α β : Type}

instance : Monad (Program σ ε) where
  pure a := fun s => (s, .ok a)
  bind p f := fun s =>
    match p s with
    | (s', .ok a) => f a s'
    | (s', .error e) => (s', .error e)

/-- A result that does not touch the state. -/
def of (x : Except ε α) : Program σ ε α := fun s => (s, x)

def read : Program σ ε σ := fun s => (s, .ok s)

def modify (f : σ → σ) : Program σ ε Unit := fun s => (f s, .ok ())

/-- The program for each item in turn, up to the first that stops. -/
def forEach (f : α → Program σ ε Unit) : List α → Program σ ε Unit
  | [] => pure ()
  | a :: rest => do
    f a
    forEach f rest

/-- Goes on behind `p` when it stopped for a reason that is let pass. -/
def attempt (passes : ε → Bool) (p : Program σ ε Unit) : Program σ ε Unit := fun s =>
  match p s with
  | (s', .ok ()) => (s', .ok ())
  | (s', .error e) => if passes e then (s', .ok ()) else (s', .error e)

section Equations

@[simp] theorem pure_apply (a : α) (s : σ) : (pure a : Program σ ε α) s = (s, .ok a) := rfl

@[simp] theorem of_apply (x : Except ε α) (s : σ) : (of x : Program σ ε α) s = (s, x) := rfl

@[simp] theorem read_apply (s : σ) : (read : Program σ ε σ) s = (s, .ok s) := rfl

@[simp] theorem modify_apply (f : σ → σ) (s : σ) :
    (modify f : Program σ ε Unit) s = (f s, .ok ()) := rfl

theorem bind_apply_of_ok {p : Program σ ε α} {f : α → Program σ ε β} {s s' : σ} {a : α}
    (h : p s = (s', .ok a)) : (p >>= f) s = f a s' := by
  show (match p s with
    | (s', .ok a) => f a s'
    | (s', .error e) => (s', .error e)) = f a s'
  rw [h]

theorem bind_apply_of_error {p : Program σ ε α} {f : α → Program σ ε β} {s s' : σ} {e : ε}
    (h : p s = (s', .error e)) : (p >>= f) s = (s', .error e) := by
  show (match p s with
    | (s', .ok a) => f a s'
    | (s', .error e) => (s', .error e)) = (s', .error e)
  rw [h]

theorem snd_bind_of_error {p : Program σ ε α} {f : α → Program σ ε β} {s : σ} {e : ε}
    (h : (p s).2 = .error e) : ((p >>= f) s).2 = .error e := by
  rw [bind_apply_of_error (Prod.ext rfl h : p s = ((p s).1, .error e))]

/-- A sequence comes back with a value when both its parts do. -/
theorem bind_apply_eq_ok {p : Program σ ε α} {f : α → Program σ ε β} {s s' : σ} {b : β} :
    (p >>= f) s = (s', .ok b) ↔ ∃ t a, p s = (t, .ok a) ∧ f a t = (s', .ok b) := by
  constructor
  · intro h
    cases hrun : p s with
    | mk t result =>
      cases result with
      | error e =>
        rw [bind_apply_of_error hrun] at h
        cases h
      | ok a => exact ⟨t, a, rfl, (bind_apply_of_ok hrun).symm.trans h⟩
  · rintro ⟨t, a, hrun, hrest⟩
    exact (bind_apply_of_ok hrun).trans hrest

theorem of_apply_eq_ok {x : Except ε α} {s s' : σ} {a : α} :
    (of x : Program σ ε α) s = (s', .ok a) ↔ s' = s ∧ x = .ok a := by
  rw [of_apply, Prod.mk.injEq]
  exact and_congr_left' eq_comm

theorem bind_apply_eq_error {p : Program σ ε α} {f : α → Program σ ε β} {s s' : σ} {e : ε} :
    (p >>= f) s = (s', .error e) ↔
      p s = (s', .error e) ∨ ∃ t a, p s = (t, .ok a) ∧ f a t = (s', .error e) := by
  cases hrun : p s with
  | mk t result =>
    cases result with
    | error e' => simp [bind_apply_of_error hrun]
    | ok a =>
      rw [bind_apply_of_ok hrun]
      constructor
      · exact fun h => .inr ⟨t, a, rfl, h⟩
      · rintro (h | ⟨_, _, hsame, h⟩)
        · cases h
        · obtain ⟨rfl, ha⟩ := Prod.mk.inj hsame
          rwa [Except.ok.inj ha]

@[simp] theorem pure_bind_apply (a : α) (f : α → Program σ ε β) (s : σ) :
    ((pure a : Program σ ε α) >>= f) s = f a s := rfl

@[simp] theorem read_bind_apply (f : σ → Program σ ε β) (s : σ) :
    ((read : Program σ ε σ) >>= f) s = f s s := rfl

@[simp] theorem modify_bind_apply (g : σ → σ) (f : Unit → Program σ ε β) (s : σ) :
    ((modify g : Program σ ε Unit) >>= f) s = f () (g s) := rfl

@[simp] theorem of_ok_bind_apply (a : α) (f : α → Program σ ε β) (s : σ) :
    ((of (.ok a) : Program σ ε α) >>= f) s = f a s := rfl

theorem of_ok_bind (a : α) (f : α → Program σ ε β) :
    (of (.ok a) : Program σ ε α) >>= f = f a := rfl

@[simp] theorem of_error_bind_apply (e : ε) (f : α → Program σ ε β) (s : σ) :
    ((of (.error e) : Program σ ε α) >>= f) s = (s, .error e) := rfl

theorem bind_assoc {γ : Type} (p : Program σ ε α) (f : α → Program σ ε β)
    (g : β → Program σ ε γ) : (p >>= f) >>= g = p >>= fun a => f a >>= g := by
  funext s
  cases hrun : p s with
  | mk s' result =>
    cases result with
    | error e => rw [bind_apply_of_error hrun, bind_apply_of_error (bind_apply_of_error hrun)]
    | ok a =>
      rw [bind_apply_of_ok hrun]
      cases hnext : f a s' with
      | mk s'' result =>
        have hboth := bind_apply_of_ok (f := f) hrun
        rw [hnext] at hboth
        cases result with
        | error e => rw [bind_apply_of_error hboth, bind_apply_of_error hnext]
        | ok b => rw [bind_apply_of_ok hboth, bind_apply_of_ok hnext]

/-- A program with nothing behind it. -/
@[simp] theorem bind_pure_unit_apply (p : Program σ ε Unit) (s : σ) :
    (p >>= fun _ => pure ()) s = p s := by
  cases hrun : p s with
  | mk s' result =>
    cases result with
    | ok a => rw [bind_apply_of_ok hrun, pure_apply]
    | error e => rw [bind_apply_of_error hrun]

/-- A value behind a program leaves its state alone. -/
theorem fst_bind_pure (p : Program σ ε α) (f : α → β) (s : σ) :
    ((p >>= fun a => pure (f a)) s).1 = (p s).1 := by
  cases hrun : p s with
  | mk s' result =>
    cases result with
    | ok a => rw [bind_apply_of_ok hrun, pure_apply]
    | error e => rw [bind_apply_of_error hrun]

/-- Two sequences agree where their first parts do and their rests do. -/
theorem bind_congr_apply {p q : Program σ ε α} {f g : α → Program σ ε β} {s : σ}
    (hfirst : p s = q s) (hrest : ∀ a, f a = g a) : (p >>= f) s = (q >>= g) s := by
  have hfg : f = g := funext hrest
  show (match p s with
    | (s', .ok a) => f a s'
    | (s', .error e) => (s', .error e)) = _
  rw [hfirst, hfg]
  rfl

/-- A program goes on alike from two states that its first part cannot tell apart. -/
theorem bind_apply_congr {p : Program σ ε α} (f : α → Program σ ε β) {s s' : σ}
    (h : p s = p s') : (p >>= f) s = (p >>= f) s' := by
  cases hrun : p s with
  | mk t result =>
    have hrun' := h.symm.trans hrun
    cases result with
    | error e => rw [bind_apply_of_error hrun, bind_apply_of_error hrun']
    | ok a => rw [bind_apply_of_ok hrun, bind_apply_of_ok hrun']

end Equations

/-- From `pre`, a value of `p` comes with `post`, and `stop` holds where it stops. -/
def Triple (pre : σ → Prop) (p : Program σ ε α) (post : α → σ → Prop) (stop : σ → Prop) : Prop :=
  ∀ s, pre s → (∀ a, (p s).2 = .ok a → post a (p s).1) ∧ (∀ e, (p s).2 = .error e → stop (p s).1)

/-- `p` keeps `inv`, whether it stops or not. -/
def Keeps (inv : σ → Prop) (p : Program σ ε α) : Prop := ∀ s, inv s → inv (p s).1

section Rules
variable {pre inv stop : σ → Prop} {mid : α → σ → Prop} {post : β → σ → Prop}

theorem Triple.pure {a : α} (h : ∀ s, pre s → mid a s) :
    Triple pre (Pure.pure a : Program σ ε α) mid stop := by
  intro s hs
  refine ⟨fun b hb => ?_, fun e he => ?_⟩
  · obtain rfl := Except.ok.inj hb
    exact h s hs
  · cases he

theorem Triple.bind {p : Program σ ε α} {f : α → Program σ ε β} (hp : Triple pre p mid stop)
    (hf : ∀ a, Triple (mid a) (f a) post stop) : Triple pre (p >>= f) post stop := fun s hs => by
  obtain ⟨hok, herr⟩ := hp s hs
  generalize hrun : p s = r at hok herr
  obtain ⟨s', e | a⟩ := r
  · rw [bind_apply_of_error hrun]
    refine ⟨fun b hb => ?_, fun _ _ => herr e rfl⟩
    cases hb
  · rw [bind_apply_of_ok hrun]
    exact hf a s' (hok a rfl)

theorem Triple.imp {pre' : σ → Prop} {mid' : α → σ → Prop} {stop' : σ → Prop} {p : Program σ ε α}
    (h : Triple pre p mid stop) (hpre : ∀ s, pre' s → pre s) (hpost : ∀ a s, mid a s → mid' a s)
    (hstop : ∀ s, stop s → stop' s) : Triple pre' p mid' stop' := fun s hs =>
  ⟨fun a ha => hpost a _ ((h s (hpre s hs)).1 a ha),
    fun e he => hstop _ ((h s (hpre s hs)).2 e he)⟩

theorem Keeps.triple {p : Program σ ε α} (h : Keeps inv p) : Triple inv p (fun _ => inv) inv :=
  fun s hs => ⟨fun _ _ => h s hs, fun _ _ => h s hs⟩

/-- What holds after it either way holds after it. -/
theorem Triple.run {goal : σ → Prop} {p : Program σ ε α} (h : Triple pre p (fun _ => goal) goal)
    {s : σ} (hs : pre s) : goal (p s).1 := by
  obtain ⟨hok, herr⟩ := h s hs
  cases hresult : (p s).2 with
  | ok a => exact hok a hresult
  | error e => exact herr e hresult

theorem Triple.keeps {p : Program σ ε α} (h : Triple inv p (fun _ => inv) inv) : Keeps inv p :=
  fun _ hs => h.run hs

/-- By how each run comes out. -/
theorem Triple.of_outcome {p : Program σ ε α}
    (h : ∀ s, pre s → (∃ a s', p s = (s', .ok a) ∧ mid a s') ∨
      ∃ e s', p s = (s', .error e) ∧ stop s') : Triple pre p mid stop := by
  intro s hs
  obtain ⟨a, s', hrun, hmid⟩ | ⟨e, s', hrun, hstop⟩ := h s hs
  · rw [hrun]
    refine ⟨fun b hb => ?_, fun e he => ?_⟩
    · obtain rfl := Except.ok.inj hb
      exact hmid
    · cases he
  · rw [hrun]
    refine ⟨fun b hb => ?_, fun _ _ => hstop⟩
    cases hb

/-- What keeps `inv` may also stop in it. -/
theorem Keeps.triple_of_le {p : Program σ ε α} (h : Keeps inv p) (hle : ∀ s, inv s → stop s) :
    Triple inv p (fun _ => inv) stop :=
  h.triple.imp (fun _ hs => hs) (fun _ _ hs => hs) hle

theorem Triple.of (x : Except ε α) (hle : ∀ s, inv s → stop s) :
    Triple inv (Program.of x : Program σ ε α) (fun _ => inv) stop :=
  fun s hs => ⟨fun _ _ => hs, fun _ _ => hle s hs⟩

/-- A result, with where it comes from. -/
theorem Triple.of_value (x : Except ε α) :
    Triple inv (Program.of x : Program σ ε α) (fun a s => inv s ∧ x = .ok a) inv :=
  fun _ hs => ⟨fun _ ha => ⟨hs, ha⟩, fun _ _ => hs⟩

/-- A program that stops promises anything of its value. -/
theorem Triple.error {e : ε} (hle : ∀ s, pre s → stop s) :
    Triple pre (Program.of (.error e) : Program σ ε α) mid stop := by
  intro s hs
  refine ⟨fun a ha => ?_, fun _ _ => hle s hs⟩
  cases ha

/-- Behind an attempt, what holds behind the program wherever its end is let pass. -/
theorem Triple.attempt {goal : σ → Prop} {passes : ε → Bool} {p : Program σ ε Unit}
    (h : ∀ s, pre s → goal (p s).1 ∨ ∃ e, (p s).2 = .error e ∧ passes e = false) :
    Triple pre (Program.attempt passes p) (fun _ => goal) fun _ => True := by
  intro s hs
  refine ⟨fun _ hresult => ?_, fun _ _ => trivial⟩
  have hend := h s hs
  unfold Program.attempt at hresult ⊢
  generalize p s = r at hend hresult
  obtain ⟨s', e | ⟨⟨⟩⟩⟩ := r
  · dsimp only at hend hresult ⊢
    split at hresult
    · rename_i hpass
      rw [if_pos hpass]
      refine hend.resolve_right ?_
      rintro ⟨e', heq, hstops⟩
      obtain rfl := Except.error.inj heq
      rw [hpass] at hstops
      cases hstops
    · cases hresult
  · refine hend.resolve_right ?_
    rintro ⟨e', heq, -⟩
    cases heq

theorem forEach_congr {f g : α → Program σ ε Unit} {items : List α} (h : ∀ a ∈ items, f a = g a) :
    Program.forEach f items = Program.forEach g items := by
  induction items with
  | nil => rfl
  | cons a rest ih =>
    rw [Program.forEach, Program.forEach, h a List.mem_cons_self,
      ih fun b hb => h b (List.mem_cons_of_mem _ hb)]

theorem Triple.ite {c : Prop} [Decidable c] {p q : Program σ ε α} (hp : Triple pre p mid stop)
    (hq : Triple pre q mid stop) : Triple pre (if c then p else q) mid stop := by
  split
  · exact hp
  · exact hq

theorem Triple.forEach {f : α → Program σ ε Unit} {items : List α}
    (h : ∀ a ∈ items, Triple inv (f a) (fun _ => inv) stop) :
    Triple inv (Program.forEach f items) (fun _ => inv) stop := by
  induction items with
  | nil => exact .pure fun _ hs => hs
  | cons a rest ih =>
    exact (h a List.mem_cons_self).bind fun _ => ih fun b hb => h b (List.mem_cons_of_mem _ hb)

/-- A loop adds to what it keeps whatever its items add to it. -/
theorem Triple.forEach_flatMap {γ : Type} {kept : List γ → σ → Prop} {f : α → Program σ ε Unit}
    {adds : α → List γ} {items : List α}
    (h : ∀ a ∈ items, ∀ l, Triple (kept l) (f a) (fun _ => kept (l ++ adds a)) stop) (l : List γ) :
    Triple (kept l) (Program.forEach f items) (fun _ => kept (l ++ items.flatMap adds)) stop := by
  induction items generalizing l with
  | nil =>
    rw [List.flatMap_nil, List.append_nil]
    exact .pure fun _ hs => hs
  | cons a rest ih =>
    have hrest := ih (fun b hb => h b (List.mem_cons_of_mem _ hb)) (l ++ adds a)
    rw [List.append_assoc, ← List.flatMap_cons] at hrest
    exact (h a List.mem_cons_self l).bind fun _ => hrest

/-- What one of the items brings about and all of them keep holds behind the loop. -/
theorem Triple.forEach_of_mem {goal : σ → Prop} {f : α → Program σ ε Unit} {items : List α} {a : α}
    (ha : a ∈ items) (hkeeps : ∀ b ∈ items, Triple inv (f b) (fun _ => inv) stop)
    (hbrings : Triple inv (f a) (fun _ => goal) stop)
    (hgoal : ∀ b ∈ items, Triple goal (f b) (fun _ => goal) stop) :
    Triple inv (Program.forEach f items) (fun _ => goal) stop := by
  induction items with
  | nil => cases ha
  | cons b rest ih =>
    by_cases heq : a = b
    · subst heq
      exact hbrings.bind fun _ => .forEach fun c hc => hgoal c (List.mem_cons_of_mem _ hc)
    · have hrest := (List.mem_cons.mp ha).resolve_left heq
      exact (hkeeps b List.mem_cons_self).bind fun _ => ih hrest
        (fun c hc => hkeeps c (List.mem_cons_of_mem _ hc))
        fun c hc => hgoal c (List.mem_cons_of_mem _ hc)

theorem Keeps.pure (a : α) : Keeps inv (Pure.pure a : Program σ ε α) := fun _ h => h

theorem Keeps.of (x : Except ε α) : Keeps inv (Program.of x : Program σ ε α) := fun _ h => h

theorem Keeps.read : Keeps inv (Program.read : Program σ ε σ) := fun _ h => h

/-- What does not speak of the state is kept by all programs. -/
theorem Keeps.and_const {p : Program σ ε α} {fact : Prop} (h : Keeps inv p) :
    Keeps (fun s => inv s ∧ fact) p := fun s hs => ⟨h s hs.1, hs.2⟩

theorem Keeps.modify {f : σ → σ} (h : ∀ s, inv s → inv (f s)) :
    Keeps inv (Program.modify f : Program σ ε Unit) := h

theorem Keeps.bind {p : Program σ ε α} {f : α → Program σ ε β} (hp : Keeps inv p)
    (hf : ∀ a, Keeps inv (f a)) : Keeps inv (p >>= f) :=
  (hp.triple.bind fun a => (hf a).triple).keeps

/-- What holds behind the first of two programs still holds behind both. -/
theorem Keeps.behind {p : Program σ ε α} {f : α → Program σ ε β} {s : σ}
    (hf : ∀ a, Keeps inv (f a)) (h : inv (p s).1) : inv ((p >>= f) s).1 := by
  cases hrun : p s with
  | mk s' result =>
    rw [hrun] at h
    cases result with
    | error e => rwa [bind_apply_of_error hrun]
    | ok a =>
      rw [bind_apply_of_ok hrun]
      exact hf a s' h

theorem Keeps.forEach {f : α → Program σ ε Unit} {items : List α}
    (h : ∀ a ∈ items, Keeps inv (f a)) : Keeps inv (Program.forEach f items) := by
  induction items with
  | nil => exact .pure ()
  | cons a rest ih =>
    exact (h a List.mem_cons_self).bind fun _ => ih fun b hb => h b (List.mem_cons_of_mem _ hb)

theorem Keeps.attempt {passes : ε → Bool} {p : Program σ ε Unit} (h : Keeps inv p) :
    Keeps inv (Program.attempt passes p) := by
  intro s hs
  have hrun := h s hs
  unfold Program.attempt
  generalize p s = r at hrun
  obtain ⟨s', e | ⟨⟨⟩⟩⟩ := r
  · dsimp only
    split
    · exact hrun
    · exact hrun
  · exact hrun

theorem Keeps.ite {c : Prop} [Decidable c] {p q : Program σ ε α} (hp : Keeps inv p)
    (hq : Keeps inv q) : Keeps inv (if c then p else q) := by
  split
  · exact hp
  · exact hq

end Rules
end Program

section Layers
variable {σ : Type}

/-- Runs in which callbacks may start runs of their own, to a depth of `n`; `step r` is a
step whose callbacks do what `r` relates. -/
def Layered (step : (σ → σ → Prop) → σ → σ → Prop) : Nat → σ → σ → Prop
  | 0 => Eq
  | n + 1 => Relation.ReflTransGen (step (Layered step n))

/-- A run is a run of another kind of steps, where every step is whose callbacks are, from the
states of an invariant on. -/
theorem Layered.refines {step step' : (σ → σ → Prop) → σ → σ → Prop} {inv : σ → Prop}
    (hstep : ∀ {r r' : σ → σ → Prop} {s s' : σ}, (∀ t t', r t t' → inv t → inv t' ∧ r' t t') →
      step r s s' → inv s → inv s' ∧ step' r' s s') {n : Nat} {s s' : σ}
    (hrun : Layered step n s s') (hinit : inv s) : inv s' ∧ Layered step' n s s' := by
  induction n generalizing s s' with
  | zero =>
    obtain rfl := hrun
    exact ⟨hinit, rfl⟩
  | succ n ih =>
    induction hrun with
    | refl => exact ⟨hinit, Relation.ReflTransGen.refl⟩
    | tail _ hlast ihrun =>
      obtain ⟨hinv, hprev⟩ := ihrun
      obtain ⟨hinv', hstep'⟩ := hstep (fun t t' h ht => ih h ht) hlast hinv
      exact ⟨hinv', Relation.ReflTransGen.tail hprev hstep'⟩

/-- What every step keeps whose callbacks keep it, all runs keep. -/
theorem Layered.invariant {step : (σ → σ → Prop) → σ → σ → Prop} {inv : σ → Prop}
    (hstep : ∀ {r : σ → σ → Prop} {s s' : σ}, (∀ t t', r t t' → inv t → inv t') →
      step r s s' → inv s → inv s') {n : Nat} {s s' : σ} (hrun : Layered step n s s')
    (hinit : inv s) : inv s' := by
  have hrefines := @Layered.refines σ step (fun _ _ _ => True) inv
    (fun hr h hs => ⟨hstep (fun t t' h ht => (hr t t' h ht).1) h hs, trivial⟩) n s s' hrun hinit
  exact hrefines.1

/-- What every step brings about whose callbacks bring it about, all runs bring about. -/
theorem Layered.relates {step : (σ → σ → Prop) → σ → σ → Prop} {rel : σ → σ → Prop}
    (hrefl : ∀ s, rel s s) (htrans : ∀ {s s' s''}, rel s s' → rel s' s'' → rel s s'')
    (hstep : ∀ {r : σ → σ → Prop} {s s' : σ}, (∀ t t', r t t' → rel t t') → step r s s' → rel s s')
    {n : Nat} {s s' : σ} (hrun : Layered step n s s') : rel s s' := by
  induction n generalizing s s' with
  | zero =>
    obtain rfl := hrun
    exact hrefl s
  | succ n ih =>
    induction hrun with
    | refl => exact hrefl s
    | tail _ hlast ihrun => exact htrans ihrun (hstep (fun t t' h => ih h) hlast)

end Layers
end Sedsprintf.Lib
