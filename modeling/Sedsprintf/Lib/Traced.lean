import Mathlib.Logic.Basic

/-!
# Computations that leave a trace

A computation notes things on its way, and comes back with a value or stops. What it noted before it
stopped stays noted.
-/
namespace Sedsprintf.Lib

/-- What was noted, in order, and how it ended. -/
structure Traced (ω ε α : Type) where
  log : List ω
  result : Except ε α

namespace Traced
variable {ω ε α β : Type}

instance : Monad (Traced ω ε) where
  pure a := ⟨[], .ok a⟩
  bind x f :=
    match x.result with
    | .ok a => ⟨x.log ++ (f a).log, (f a).result⟩
    | .error e => ⟨x.log, .error e⟩

/-- Nothing to note. -/
def of (x : Except ε α) : Traced ω ε α := ⟨[], x⟩

/-- `w` is noted, whatever comes of it. -/
def note (w : ω) (x : Except ε α) : Traced ω ε α := ⟨[w], x⟩

@[simp] theorem of_log (x : Except ε α) : (of x : Traced ω ε α).log = [] := rfl

@[simp] theorem of_result (x : Except ε α) : (of x : Traced ω ε α).result = x := rfl

@[simp] theorem note_log (w : ω) (x : Except ε α) : (note w x).log = [w] := rfl

@[simp] theorem note_result (w : ω) (x : Except ε α) : (note w x).result = x := rfl

@[simp] theorem pure_log (a : α) : (pure a : Traced ω ε α).log = [] := rfl

@[simp] theorem pure_result (a : α) : (pure a : Traced ω ε α).result = .ok a := rfl

/-- A sequence ends as its results do. -/
@[simp] theorem bind_result (x : Traced ω ε α) (f : α → Traced ω ε β) :
    (x >>= f).result = x.result >>= fun a => (f a).result := by
  obtain ⟨log, result⟩ := x
  cases result with
  | ok a => rfl
  | error e => rfl

/-- The second part notes what it notes where the first comes back. -/
theorem mem_bind_log {x : Traced ω ε α} {f : α → Traced ω ε β} {w : ω} :
    w ∈ (x >>= f).log ↔ w ∈ x.log ∨ ∃ a, x.result = .ok a ∧ w ∈ (f a).log := by
  obtain ⟨log, result⟩ := x
  cases result with
  | ok a =>
    show w ∈ log ++ (f a).log ↔ _
    simp
  | error e =>
    show w ∈ log ↔ _
    simp

/-- Everything that is noted is as `P` says. -/
def Notes (P : ω → Prop) (x : Traced ω ε α) : Prop := ∀ w ∈ x.log, P w

theorem notes_bind_iff {P : ω → Prop} {x : Traced ω ε α} {f : α → Traced ω ε β} :
    (x >>= f).Notes P ↔ x.Notes P ∧ ∀ a, x.result = .ok a → (f a).Notes P := by
  constructor
  · intro h
    exact ⟨fun w hw => h w (mem_bind_log.mpr (.inl hw)),
      fun a ha w hw => h w (mem_bind_log.mpr (.inr ⟨a, ha, hw⟩))⟩
  · rintro ⟨hfirst, hrest⟩ w hw
    rcases mem_bind_log.mp hw with hw | ⟨a, ha, hw⟩
    · exact hfirst w hw
    · exact hrest a ha w hw

end Traced
end Sedsprintf.Lib
