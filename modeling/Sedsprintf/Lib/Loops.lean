import Sedsprintf.Lib.Program
import Mathlib.Order.WellFounded

/-!
# Loops

A loop runs its body turn after turn, each in an environment of its own, until the body says
that it is done or stops. A loop is cut off where its environments are used up, so that one
that nothing ends has a meaning too.
-/
namespace Sedsprintf.Lib.Program
variable {σ ε ι : Type}

/-- Turns of `body`, which says whether to go on. The result says whether the loop came to
its end. -/
def loop (body : ι → Program σ ε Bool) : List ι → Program σ ε Bool
  | [] => pure false
  | env :: rest => do
    let more ← body env
    if more then loop body rest else pure true

/-- A turn that a loop comes to, with the state it starts from. -/
inductive Turn (body : ι → Program σ ε Bool) : List ι → σ → ι → σ → Prop
  | first (env : ι) (rest : List ι) (s : σ) : Turn body (env :: rest) s env s
  | later {env env' : ι} {rest : List ι} {s s' t : σ} (hmore : body env s = (s', .ok true))
      (h : Turn body rest s' env' t) : Turn body (env :: rest) s env' t

variable {body : ι → Program σ ε Bool} {env : ι} {envs rest : List ι} {s s' t : σ}

theorem loop_of_more (h : body env s = (s', .ok true)) :
    loop body (env :: rest) s = loop body rest s' := by
  rw [loop, bind_apply_of_ok h, if_pos rfl]

theorem loop_of_done (h : body env s = (s', .ok false)) :
    loop body (env :: rest) s = (s', .ok true) := by
  rw [loop, bind_apply_of_ok h, if_neg (by simp), pure_apply]

theorem loop_of_error {e : ε} (h : body env s = (s', .error e)) :
    loop body (env :: rest) s = (s', .error e) := by
  rw [loop, bind_apply_of_error h]

namespace Turn

theorem mem (h : Turn body envs s env t) : env ∈ envs := by
  induction h with
  | first => exact List.mem_cons_self
  | later _ _ ih => exact List.mem_cons_of_mem _ ih

/-- What every turn that goes on keeps holds where a turn starts. -/
theorem invariant {inv : σ → Prop} (h : Turn body envs s env t)
    (hkeeps : ∀ env ∈ envs, ∀ s s', inv s → body env s = (s', .ok true) → inv s') (hinit : inv s) :
    inv t := by
  induction h with
  | first => exact hinit
  | later hmore _ ih =>
    apply ih
    · intro env hmem
      exact hkeeps env (List.mem_cons_of_mem _ hmem)
    · exact hkeeps _ List.mem_cons_self _ _ hinit hmore

/-- A loop ends with its last turn. -/
theorem loop_done (h : Turn body envs s env t) (hdone : body env t = (s', .ok false)) :
    loop body envs s = (s', .ok true) := by
  induction h with
  | first => exact loop_of_done hdone
  | later hmore _ ih => rw [loop_of_more hmore, ih hdone]

theorem loop_error {e : ε} (h : Turn body envs s env t) (herror : body env t = (s', .error e)) :
    loop body envs s = (s', .error e) := by
  induction h with
  | first => exact loop_of_error herror
  | later hmore _ ih => rw [loop_of_more hmore, ih herror]

end Turn

/-- A loop that came to its end did so in a turn. -/
theorem exists_turn_of_done (h : loop body envs s = (s', .ok true)) :
    ∃ env t, Turn body envs s env t ∧ body env t = (s', .ok false) := by
  induction envs generalizing s with
  | nil => cases h
  | cons env rest ih =>
    cases hbody : body env s with
    | mk next result =>
      cases result with
      | error e =>
        rw [loop_of_error hbody] at h
        cases h
      | ok more =>
        cases more with
        | false =>
          rw [loop_of_done hbody] at h
          obtain ⟨rfl, -⟩ := Prod.mk.inj h
          exact ⟨env, s, .first env rest s, hbody⟩
        | true =>
          rw [loop_of_more hbody] at h
          obtain ⟨env', t, hturn, hdone⟩ := ih h
          exact ⟨env', t, .later hbody hturn, hdone⟩

section Streams
variable {more : List ι}

/-- Only a loop that is still going sees further environments. -/
theorem loop_append (h : loop body envs s = (t, .ok false)) :
    loop body (envs ++ more) s = loop body more t := by
  induction envs generalizing s with
  | nil =>
    obtain ⟨rfl, -⟩ := Prod.mk.inj h
    rfl
  | cons env rest ih =>
    cases hbody : body env s with
    | mk next result =>
      rw [List.cons_append]
      cases result with
      | error e =>
        rw [loop_of_error hbody] at h
        cases h
      | ok goesOn =>
        cases goesOn with
        | false =>
          rw [loop_of_done hbody] at h
          cases h
        | true =>
          rw [loop_of_more hbody] at h ⊢
          exact ih h

theorem loop_append_of_over (h : (loop body envs s).2 ≠ .ok false) :
    loop body (envs ++ more) s = loop body envs s := by
  induction envs generalizing s with
  | nil => exact absurd rfl h
  | cons env rest ih =>
    cases hbody : body env s with
    | mk next result =>
      rw [List.cons_append]
      cases result with
      | error e => rw [loop_of_error hbody, loop_of_error hbody]
      | ok goesOn =>
        cases goesOn with
        | false => rw [loop_of_done hbody, loop_of_done hbody]
        | true =>
          rw [loop_of_more hbody] at h ⊢
          rw [loop_of_more hbody]
          exact ih h

/-- The first `n` environments of a stream. -/
def upTo (env : Nat → ι) (n : Nat) : List ι := (List.range n).map env

variable {env : Nat → ι} {n m : Nat}

theorem upTo_succ (env : Nat → ι) (n : Nat) : upTo env (n + 1) = upTo env n ++ [env n] := by
  simp [upTo, List.range_succ]

theorem exists_upTo_append (env : Nat → ι) (h : n ≤ m) : ∃ rest, upTo env m = upTo env n ++ rest := by
  induction h with
  | refl => exact ⟨[], (List.append_nil _).symm⟩
  | step _ ih =>
    obtain ⟨rest, hrest⟩ := ih
    exact ⟨rest ++ [_], by rw [upTo_succ, hrest, List.append_assoc]⟩

/-- A loop that is over stays over. -/
theorem loop_upTo_of_over (h : (loop body (upTo env n) s).2 ≠ .ok false) (hle : n ≤ m) :
    loop body (upTo env m) s = loop body (upTo env n) s := by
  obtain ⟨rest, hrest⟩ := exists_upTo_append env hle
  rw [hrest, loop_append_of_over h]

/-- One more turn of a loop that is still going. -/
theorem loop_upTo_succ (h : loop body (upTo env n) s = (t, .ok false)) :
    loop body (upTo env (n + 1)) s = loop body [env n] t := by
  rw [upTo_succ, loop_append h]

/-- A loop that stops does so in a turn. -/
theorem exists_upTo_of_error {e : ε} (h : loop body (upTo env n) s = (s', .error e)) :
    ∃ m t, loop body (upTo env m) s = (t, .ok false) ∧ body (env m) t = (s', .error e) := by
  induction n with
  | zero => cases h
  | succ n ih =>
    by_cases hover : (loop body (upTo env n) s).2 = .ok false
    · have hgoing : loop body (upTo env n) s = ((loop body (upTo env n) s).1, .ok false) :=
        Prod.ext rfl hover
      refine ⟨n, _, hgoing, ?_⟩
      rw [loop_upTo_succ hgoing] at h
      cases hbody : body (env n) (loop body (upTo env n) s).1 with
      | mk t result =>
        cases result with
        | error e' => rwa [loop_of_error hbody] at h
        | ok more =>
          cases more with
          | false =>
            rw [loop_of_done hbody] at h
            cases h
          | true =>
            rw [loop_of_more hbody] at h
            cases h
    · rw [loop_upTo_of_over hover (Nat.le_succ n)] at h
      exact ih h

/-- A loop ends where every turn that goes on lowers a measure. -/
theorem loop_ends {β : Type} [LT β] [WellFoundedLT β] (measure : Nat → σ → β)
    (hlower : ∀ n t t', loop body (upTo env n) s = (t, .ok false) →
      body (env n) t = (t', .ok true) → measure (n + 1) t' < measure n t) :
    ∃ n, (loop body (upTo env n) s).2 ≠ .ok false := by
  by_contra hgoing
  push Not at hgoing
  obtain ⟨n, hn⟩ := WellFounded.not_rel_apply_succ (r := (· < ·))
    fun n => measure n (loop body (upTo env n) s).1
  have hnow : loop body (upTo env n) s = ((loop body (upTo env n) s).1, .ok false) :=
    Prod.ext rfl (hgoing n)
  have hnext := loop_upTo_succ hnow
  cases hbody : body (env n) (loop body (upTo env n) s).1 with
  | mk t result =>
    have hgoes := hgoing (n + 1)
    cases result with
    | error e =>
      rw [hnext, loop_of_error hbody] at hgoes
      cases hgoes
    | ok goesOn =>
      cases goesOn with
      | false =>
        rw [hnext, loop_of_done hbody] at hgoes
        cases hgoes
      | true =>
        rw [loop_of_more hbody] at hnext
        apply hn
        rw [hnext]
        exact hlower n _ t hnow hbody

end Streams
end Sedsprintf.Lib.Program
