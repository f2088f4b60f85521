import Mathlib.Data.List.Perm.Subperm

/-!
# Flags and the tokens they stand for

A ledger keeps a flag for each live key and a queue of tokens, one key each. It is
truthful when a live key is flagged exactly while its token is queued. Tokens of
keys that are no longer live may linger.
-/
namespace Sedsprintf.Lib

variable {κ : Type}

structure Truthful (flag : κ → Option Bool) (tokens : List κ) : Prop where
  nodup : tokens.Nodup
  flagged : ∀ {k b}, flag k = some b → (b = true ↔ k ∈ tokens)

/-- Between two queues no token of a live key is lost. -/
def KeepsLive (flag : κ → Option Bool) (tokens tokens' : List κ) : Prop :=
  ∀ k ∈ tokens, (flag k).isSome = true → k ∈ tokens'

namespace Truthful
variable {flag flag' : κ → Option Bool} {tokens tokens' : List κ} {k : κ}

theorem empty (flag : κ → Option Bool) (h : ∀ k, flag k ≠ some true) : Truthful flag [] :=
  ⟨.nil, fun {k b} hk => by
    constructor
    · rintro rfl
      exact absurd hk (h k)
    · intro hmem
      cases hmem⟩

/-- Keys are forgotten and tokens go, but none of a key still live. -/
theorem lose (h : Truthful flag tokens) (hflag : ∀ {k b}, flag' k = some b → flag k = some b)
    (hsub : tokens'.Subperm tokens) (hlive : KeepsLive flag' tokens tokens') :
    Truthful flag' tokens' := by
  have hnodup : tokens'.Nodup := by
    obtain ⟨kept, hperm, hkept⟩ := hsub
    exact hperm.nodup_iff.mp (h.nodup.sublist hkept)
  refine ⟨hnodup, fun {k b} hk => ?_⟩
  rw [h.flagged (hflag hk)]
  exact ⟨fun hmem => hlive k hmem (by rw [hk]; rfl), fun hmem => hsub.subset hmem⟩

/-- A new key is unflagged, and no token of it lingers. -/
theorem insert (h : Truthful flag tokens) (hk : k ∉ tokens)
    (hflag : ∀ {k' b}, flag' k' = some b → (k' = k ∧ b = false) ∨ flag k' = some b) :
    Truthful flag' tokens := by
  refine ⟨h.nodup, fun {k' b} hk' => ?_⟩
  rcases hflag hk' with ⟨rfl, rfl⟩ | hold
  · simp [hk]
  · exact h.flagged hold

/-- An unflagged live key is flagged and its token queued. -/
theorem mark (h : Truthful flag tokens) (hk : flag k = some false)
    (hflag : ∀ {k' b}, flag' k' = some b → (k' = k ∧ b = true) ∨ (k' ≠ k ∧ flag k' = some b))
    {kept : List κ} (hsub : kept.Sublist tokens) (hperm : tokens'.Perm (k :: kept))
    (hlive : KeepsLive flag' tokens tokens') : Truthful flag' tokens' := by
  have hfresh : k ∉ tokens := fun hmem => Bool.false_ne_true ((h.flagged hk).mpr hmem)
  refine ⟨hperm.nodup_iff.mpr (List.nodup_cons.mpr
    ⟨fun hmem => hfresh (hsub.subset hmem), h.nodup.sublist hsub⟩), fun {k' b} hk' => ?_⟩
  rcases hflag hk' with ⟨rfl, rfl⟩ | ⟨hne, hold⟩
  · simp [hperm.mem_iff]
  · rw [h.flagged hold]
    constructor
    · intro hmem
      exact hlive k' hmem (by rw [hk']; rfl)
    · intro hmem
      rcases List.mem_cons.mp (hperm.mem_iff.mp hmem) with heq | hmem
      · exact absurd heq hne
      · exact hsub.subset hmem

/-- The front token is used up: its key is unflagged or forgotten. -/
theorem settle {rest : List κ} (h : Truthful flag (k :: rest))
    (hflag : ∀ {k' b}, flag' k' = some b → (k' = k ∧ b = false) ∨ (k' ≠ k ∧ flag k' = some b)) :
    Truthful flag' rest := by
  have hnodup := List.nodup_cons.mp h.nodup
  refine ⟨hnodup.2, fun {k' b} hk' => ?_⟩
  rcases hflag hk' with ⟨rfl, rfl⟩ | ⟨hne, hold⟩
  · simp [hnodup.1]
  · rw [h.flagged hold]
    simp [hne]

end Truthful
end Sedsprintf.Lib
