import Mathlib.Data.List.Basic

/-!
# Runs of a step function

A machine is a partial step function on states. `Run step ok s as s'` says that
the actions `as` lead from `s` to `s'` and that every step taken meets the
condition `ok` on the state it starts from.
-/
namespace Sedsprintf.Lib

variable {σ α : Type}

inductive Run (step : σ → α → Option σ) (ok : σ → α → Prop) : σ → List α → σ → Prop
  | nil (s : σ) : Run step ok s [] s
  | cons {s s' s'' : σ} {a : α} {as : List α} (hok : ok s a) (hstep : step s a = some s')
      (rest : Run step ok s' as s'') : Run step ok s (a :: as) s''

/-- No condition on the steps. -/
def anyStep (_ : σ) (_ : α) : Prop := True

variable {step : σ → α → Option σ} {ok : σ → α → Prop} {s s' : σ} {as : List α}

/-- What every permitted step preserves, every run preserves. -/
theorem Run.invariant (inv : σ → Prop)
    (hstep : ∀ {s s' : σ} {a : α}, inv s → ok s a → step s a = some s' → inv s')
    (hrun : Run step ok s as s') (hinit : inv s) : inv s' := by
  induction hrun with
  | nil => exact hinit
  | cons hok hs _ ih => exact ih (hstep hinit hok hs)

theorem Run.append {s'' : σ} {bs : List α} (hrun : Run step ok s as s')
    (hmore : Run step ok s' bs s'') : Run step ok s (as ++ bs) s'' := by
  induction hrun with
  | nil => exact hmore
  | cons hok hs _ ih => exact .cons hok hs (ih hmore)

/-- Where in a run an action is taken. -/
theorem Run.of_mem {a : α} (hrun : Run step ok s as s') (ha : a ∈ as) :
    ∃ s₁ s₂ before behind, Run step ok s before s₁ ∧ ok s₁ a ∧ step s₁ a = some s₂ ∧
      Run step ok s₂ behind s' := by
  induction hrun with
  | nil => cases ha
  | cons hok hs rest ih =>
    rcases List.mem_cons.mp ha with rfl | ha
    · exact ⟨_, _, [], _, .nil _, hok, hs, rest⟩
    · obtain ⟨s₁, s₂, before, behind, hbefore, htaken⟩ := ih ha
      exact ⟨s₁, s₂, _ :: before, behind, .cons hok hs hbefore, htaken⟩

/-- A run under one condition is a run under another that its actions imply. -/
theorem Run.imp {ok' : σ → α → Prop} (hrun : Run step ok s as s')
    (h : ∀ s, ∀ a ∈ as, ok s a → ok' s a) : Run step ok' s as s' := by
  induction hrun with
  | nil s => exact .nil s
  | cons hok hs _ ih =>
    exact .cons (h _ _ List.mem_cons_self hok) hs
      (ih fun s a ha => h s a (List.mem_cons_of_mem _ ha))

/-- An executed action list is a run. -/
theorem Run.of_foldlM (hok : ∀ s a, ok s a) (h : as.foldlM step s = some s') :
    Run step ok s as s' := by
  induction as generalizing s with
  | nil =>
    obtain rfl := Option.some.inj h
    exact .nil _
  | cons a rest ih =>
    rw [List.foldlM_cons, Option.bind_eq_bind, Option.bind_eq_some_iff] at h
    obtain ⟨s₁, hs, hrest⟩ := h
    exact .cons (hok s a) hs (ih hrest)

/-- An executed action list whose steps pass a check is a run under what the check
says. -/
theorem Run.of_checked {check : σ → α → Bool} (hcheck : ∀ s a, check s a = true → ok s a)
    (h : as.foldlM (fun s a => if check s a then step s a else none) s = some s') :
    Run step ok s as s' := by
  induction as generalizing s with
  | nil =>
    obtain rfl := Option.some.inj h
    exact .nil _
  | cons a rest ih =>
    rw [List.foldlM_cons, Option.bind_eq_bind, Option.bind_eq_some_iff] at h
    obtain ⟨s₁, hs, hrest⟩ := h
    split at hs
    · rename_i hpass
      exact .cons (hcheck s a hpass) hs (ih hrest)
    · cases hs

end Sedsprintf.Lib
