import Sedsprintf.Lib.Window
import Mathlib.Algebra.Order.Group.Multiset
import Mathlib.Logic.Relation

/-!
# A node that passes on what it takes in

Items come in at a port and wait. A waiting item is passed on to some of the ports, and a copy
of it then leaves at each. Anything may be lost on the way. An item that has a key is passed on
only behind a recording of that key, and a window of the recent keys says which keys are new.
-/
namespace Sedsprintf.Lib

/-- What a forwarder has done. -/
inductive Passage (π α ι : Type) where
  | accepted (src : π) (item : α)
  | noted (key : ι)
  | passedOn (src : π) (item : α) (ports : List π)
  | given (src port : π) (item : α)
  /-- What concerns no item. -/
  | aside

namespace Passage
variable {π α ι : Type}

def accepted? : Passage π α ι → Option (π × α)
  | .accepted src item => some (src, item)
  | _ => none

def noted? : Passage π α ι → Option ι
  | .noted key => some key
  | _ => none

def passedOn? : Passage π α ι → Option (π × α)
  | .passedOn src item _ => some (src, item)
  | _ => none

/-- Passed on to the port `p` among others. -/
def passedTo? [DecidableEq π] (p : π) : Passage π α ι → Option (π × α)
  | .passedOn src item ports => if p ∈ ports then some (src, item) else none
  | _ => none

def givenTo? [DecidableEq π] (p : π) : Passage π α ι → Option (π × α)
  | .given src port item => if port = p then some (src, item) else none
  | _ => none

/-- The key of a passed item. -/
def key? (keyOf : α → Option ι) : Passage π α ι → Option ι
  | .passedOn _ item _ => keyOf item
  | _ => none

end Passage

/-- `fresh` are the recorded keys whose items have not been passed on yet. -/
structure Forwarder (π α ι : Type) where
  waiting : Multiset (π × α)
  leaving : π → Multiset (π × α)
  window : List ι
  fresh : Multiset ι
  log : List (Passage π α ι)

namespace Forwarder
variable {π α ι : Type}

/-- Nothing taken in yet. -/
def initial : Forwarder π α ι := ⟨0, fun _ => 0, [], 0, []⟩

/-- What a log says of one kind, as often as it says it. -/
def tally {β : Type} (f : Passage π α ι → Option β) (log : List (Passage π α ι)) : Multiset β :=
  ↑(log.filterMap f)

@[simp] theorem tally_snoc {β : Type} (f : Passage π α ι → Option β) (log : List (Passage π α ι))
    (e : Passage π α ι) : tally f (log ++ [e]) = ↑(f e).toList + tally f log := by
  rw [tally, List.filterMap_append, ← Multiset.coe_add, add_comm]
  cases he : f e with
  | none => simp [he, tally]
  | some b => simp [he, tally]

/-- What one kind says another says too. -/
theorem tally_le_tally {β : Type} {f g : Passage π α ι → Option β}
    (h : ∀ e b, f e = some b → g e = some b) (log : List (Passage π α ι)) :
    tally f log ≤ tally g log := by
  induction log with
  | nil => exact le_refl _
  | cons e rest ih =>
    have hrest : tally f rest ≤ tally g rest := ih
    simp only [tally, List.filterMap_cons] at hrest ⊢
    cases hf : f e with
    | some b => simpa [h e b hf, List.subperm_cons] using hrest
    | none =>
      cases g e with
      | none => exact hrest
      | some b => exact hrest.trans (Multiset.le_cons_self _ _)

section Recency
variable {keyOf : α → Option ι} {cap : Nat} {base since : List (Passage π α ι)}
  {n n' : Forwarder π α ι} [DecidableEq ι]

/-- Fewer keys than the window holds. -/
def Few (cap : Nat) (log : List (Passage π α ι)) : Prop :=
  (log.filterMap Passage.noted?).dedup.length < cap

theorem Few.of_append {later : List (Passage π α ι)} (h : Few cap (since ++ later)) :
    Few cap since := by
  unfold Few at h ⊢
  rw [List.filterMap_append] at h
  have hsub : (since.filterMap Passage.noted?).dedup ⊆
      (since.filterMap Passage.noted? ++ later.filterMap Passage.noted?).dedup := by
    intro k hk
    rw [List.mem_dedup] at hk ⊢
    exact List.mem_append_left _ hk
  exact lt_of_le_of_lt (List.subperm_of_subset (List.nodup_dedup _) hsub).length_le h

/-- Behind the log `base`: the passed keys and the fresh ones were recorded, and as long as
those are few, each was recorded once and the window still holds it. -/
structure Since (keyOf : α → Option ι) (cap : Nat) (base since : List (Passage π α ι))
    (n : Forwarder π α ι) : Prop where
  log : n.log = base ++ since
  keys : tally (Passage.key? keyOf) since + n.fresh ≤ tally Passage.noted? since
  nodup : n.window.Nodup
  length : n.window.length ≤ cap
  once : Few cap since → (since.filterMap Passage.noted?).Nodup
  held : Few cap since → ∀ k ∈ since.filterMap Passage.noted?,
    Window.Behind k (since.filterMap Passage.noted?) n.window

theorem Since.here (hfresh : n.fresh = 0) (hnodup : n.window.Nodup) (hlength : n.window.length ≤ cap) :
    Since keyOf cap n.log [] n := by
  refine ⟨by simp, by simp [hfresh, tally], hnodup, hlength, fun _ => List.nodup_nil, ?_⟩
  simp

theorem Since.key_not_mem (h : Since keyOf cap base since n) (hfew : Few cap since) {key : ι}
    (hnew : key ∉ n.window) : key ∉ since.filterMap Passage.noted? := fun hkey =>
  hnew (h.held hfew key hkey).mem

/-- A step that records nothing. -/
theorem Since.quiet (h : Since keyOf cap base since n) {e : Passage π α ι}
    (hnoted : e.noted? = none) (hlog : n'.log = n.log ++ [e])
    (hkeys : ↑(e.key? keyOf).toList + n'.fresh = n.fresh) (hwindow : n'.window = n.window) :
    Since keyOf cap base (since ++ [e]) n' := by
  have hsame : (since ++ [e]).filterMap Passage.noted? = since.filterMap Passage.noted? := by
    simp [List.filterMap_append, hnoted]
  refine ⟨?_, ?_, ?_, ?_, fun hfew => ?_, fun hfew => ?_⟩
  · rw [hlog, h.log, List.append_assoc]
  · rw [tally_snoc, add_comm _ (tally _ since), add_assoc, hkeys, tally_snoc, hnoted]
    simpa using h.keys
  · rw [hwindow]
    exact h.nodup
  · rw [hwindow]
    exact h.length
  · rw [hsame]
    exact h.once hfew.of_append
  · rw [hsame, hwindow]
    exact h.held hfew.of_append

/-- A new key is recorded. -/
theorem Since.note (h : Since keyOf cap base since n) (hcap : 0 < cap) {key : ι}
    (hnew : key ∉ n.window) (hlog : n'.log = n.log ++ [Passage.noted key])
    (hfresh : n'.fresh = key ::ₘ n.fresh) (hwindow : n'.window = Window.note cap n.window key) :
    Since keyOf cap base (since ++ [.noted key]) n' := by
  have hnoted : (since ++ [Passage.noted key]).filterMap Passage.noted? =
      since.filterMap Passage.noted? ++ [key] := by
    simp [List.filterMap_append, Passage.noted?]
  refine ⟨?_, ?_, ?_, ?_, fun hfew => ?_, fun hfew k hk => ?_⟩
  · rw [hlog, h.log, List.append_assoc]
  · simpa [hfresh, Passage.key?, Passage.noted?] using h.keys
  · rw [hwindow]
    exact Window.nodup_note h.nodup hnew
  · rw [hwindow]
    exact Window.length_note_le hcap
  · have hold := h.once hfew.of_append
    have hkey := h.key_not_mem hfew.of_append hnew
    rw [hnoted, List.nodup_append]
    refine ⟨hold, List.nodup_singleton key, fun x hx y hy heq => ?_⟩
    rw [List.mem_singleton.mp hy] at heq
    exact hkey (heq ▸ hx)
  · rw [hnoted] at hk ⊢
    rw [hwindow]
    rcases List.mem_append.mp hk with hold | hself
    · have hcount : (key :: since.filterMap Passage.noted?).dedup.length < cap := by
        have hperm := (List.perm_append_singleton key (since.filterMap Passage.noted?)).dedup
        unfold Few at hfew
        rwa [hnoted, hperm.length_eq] at hfew
      have hbehind := (h.held hfew.of_append k hold).note h.nodup h.length hnew hcount
      exact hbehind.mono (List.perm_append_singleton key _).symm.subset
    · rw [List.mem_singleton.mp hself]
      exact (Window.Behind.note_self n.window key).mono (List.nil_subset _)

end Recency

section Steps
variable [DecidableEq π] (keyOf : α → Option ι) (cap : Nat) (windowed : Prop)

/-- The window is only minded where `windowed` holds. -/
inductive Step : Forwarder π α ι → Forwarder π α ι → Prop
  | accept (n : Forwarder π α ι) (src : π) (item : α) :
      Step n { n with
        waiting := (src, item) ::ₘ n.waiting
        log := n.log ++ [.accepted src item] }
  | lose (n : Forwarder π α ι) {waiting : Multiset (π × α)} {leaving : π → Multiset (π × α)}
      {fresh : Multiset ι} (hwaiting : waiting ≤ n.waiting) (hleaving : ∀ p, leaving p ≤ n.leaving p)
      (hfresh : fresh ≤ n.fresh) :
      Step n { n with waiting := waiting, leaving := leaving, fresh := fresh }
  | note (n : Forwarder π α ι) {key : ι} (hnew : windowed → key ∉ n.window) :
      Step n { n with
        window := Window.note cap n.window key
        fresh := key ::ₘ n.fresh
        log := n.log ++ [.noted key] }
  | pass (n : Forwarder π α ι) {src : π} {item : α} {ports : List π}
      {waiting : Multiset (π × α)} {fresh : Multiset ι} (hwaiting : n.waiting = (src, item) ::ₘ waiting)
      (hfresh : n.fresh = ↑(keyOf item).toList + fresh) :
      Step n { n with
        waiting := waiting
        leaving := fun p => if p ∈ ports then (src, item) ::ₘ n.leaving p else n.leaving p
        fresh := fresh
        log := n.log ++ [.passedOn src item ports] }
  | give (n : Forwarder π α ι) {src port : π} {item : α} {leaving : Multiset (π × α)}
      (hleaving : n.leaving port = (src, item) ::ₘ leaving) :
      Step n { n with
        leaving := Function.update n.leaving port leaving
        log := n.log ++ [.given src port item] }
  | skip (n : Forwarder π α ι) : Step n { n with log := n.log ++ [.aside] }

/-- Step after step. -/
abbrev Run : Forwarder π α ι → Forwarder π α ι → Prop :=
  Relation.ReflTransGen (Step keyOf cap windowed)

end Steps

section Conservation
variable [DecidableEq π] {keyOf : α → Option ι} {cap : Nat} {windowed : Prop} {n n' : Forwarder π α ι}

/-- What was taken in waits, or was passed on, or is lost; what was passed on to a port is to
leave there, or was given away, or is lost. -/
structure Accounted (n : Forwarder π α ι) : Prop where
  waiting : tally Passage.passedOn? n.log + n.waiting ≤ tally Passage.accepted? n.log
  leaving : ∀ p, tally (Passage.givenTo? p) n.log + n.leaving p ≤ tally (Passage.passedTo? p) n.log

theorem Accounted.initial : Accounted (initial : Forwarder π α ι) :=
  ⟨le_refl _, fun _ => le_refl _⟩

theorem Accounted.step (h : Accounted n) (hstep : Step keyOf cap windowed n n') : Accounted n' := by
  cases hstep with
  | accept src item =>
    refine ⟨?_, fun p => ?_⟩
    · simpa [Passage.passedOn?, Passage.accepted?] using h.waiting
    · simpa [Passage.givenTo?, Passage.passedTo?] using h.leaving p
  | lose hwaiting hleaving hfresh =>
    refine ⟨?_, fun p => ?_⟩
    · exact (add_le_add le_rfl hwaiting).trans h.waiting
    · exact (add_le_add le_rfl (hleaving p)).trans (h.leaving p)
  | note hnew =>
    refine ⟨?_, fun p => ?_⟩
    · simpa [Passage.passedOn?, Passage.accepted?] using h.waiting
    · simpa [Passage.givenTo?, Passage.passedTo?] using h.leaving p
  | @pass src item ports waiting fresh hwaiting hfresh =>
    refine ⟨?_, fun p => ?_⟩
    · have := h.waiting
      rw [hwaiting] at this
      simpa [Passage.passedOn?, Passage.accepted?] using this
    · by_cases hp : p ∈ ports
      · simpa [Passage.givenTo?, Passage.passedTo?, hp] using h.leaving p
      · simpa [Passage.givenTo?, Passage.passedTo?, hp] using h.leaving p
  | @give src port item leaving hleaving =>
    refine ⟨?_, fun p => ?_⟩
    · simpa [Passage.passedOn?, Passage.accepted?] using h.waiting
    · have := h.leaving p
      by_cases hp : port = p
      · subst hp
        rw [hleaving] at this
        simpa [Passage.givenTo?, Passage.passedTo?] using this
      · simpa [Passage.givenTo?, Passage.passedTo?, hp, Function.update_of_ne (Ne.symm hp)] using this
  | skip =>
    refine ⟨?_, fun p => ?_⟩
    · simpa [Passage.passedOn?, Passage.accepted?] using h.waiting
    · simpa [Passage.givenTo?, Passage.passedTo?] using h.leaving p

theorem Accounted.run (h : Accounted n) (hrun : Run keyOf cap windowed n n') : Accounted n' := by
  induction hrun with
  | refl => exact h
  | tail _ hstep ih => exact ih.step hstep

/-- A port is given no more copies of an item than were taken in of it. -/
theorem given_le_accepted (hrun : Run keyOf cap windowed initial n) (p : π) :
    tally (Passage.givenTo? p) n.log ≤ tally Passage.accepted? n.log := by
  have haccounted := Accounted.initial.run hrun
  calc tally (Passage.givenTo? p) n.log
    _ ≤ tally (Passage.givenTo? p) n.log + n.leaving p := Multiset.le_add_right _ _
    _ ≤ tally (Passage.passedTo? p) n.log := haccounted.leaving p
    _ ≤ tally Passage.passedOn? n.log := tally_le_tally (fun e b he => by
        cases e with
        | passedOn src item ports =>
          simp only [Passage.passedTo?] at he
          split at he
          · exact he
          · cases he
        | _ => cases he) _
    _ ≤ tally Passage.passedOn? n.log + n.waiting := Multiset.le_add_right _ _
    _ ≤ tally Passage.accepted? n.log := haccounted.waiting

end Conservation

section Windowed
variable [DecidableEq π] [DecidableEq ι] {keyOf : α → Option ι} {cap : Nat}
  {base since : List (Passage π α ι)} {n n' : Forwarder π α ι}

theorem Since.step (h : Since keyOf cap base since n) (hcap : 0 < cap)
    (hstep : Step keyOf cap True n n') : ∃ since', Since keyOf cap base since' n' := by
  cases hstep with
  | accept src item => exact ⟨_, h.quiet rfl rfl (by simp [Passage.key?]) rfl⟩
  | lose hwaiting hleaving hfresh =>
    exact ⟨since, h.log, (add_le_add le_rfl hfresh).trans h.keys, h.nodup, h.length, h.once, h.held⟩
  | note hnew => exact ⟨_, h.note hcap (hnew trivial) rfl rfl rfl⟩
  | pass hwaiting hfresh => exact ⟨_, h.quiet rfl rfl hfresh.symm rfl⟩
  | give hleaving => exact ⟨_, h.quiet rfl rfl (by simp [Passage.key?]) rfl⟩
  | skip => exact ⟨_, h.quiet rfl rfl (by simp [Passage.key?]) rfl⟩

theorem Since.run (h : Since keyOf cap base since n) (hcap : 0 < cap)
    (hrun : Run keyOf cap True n n') : ∃ since', Since keyOf cap base since' n' := by
  induction hrun with
  | refl => exact ⟨since, h⟩
  | tail _ hstep ih =>
    obtain ⟨since', hsince⟩ := ih
    exact hsince.step hcap hstep

/-- While fewer keys are recorded than the window holds, no key is passed on twice. -/
theorem passed_once (hcap : 0 < cap) (hfresh : n.fresh = 0) (hnodup : n.window.Nodup)
    (hlength : n.window.length ≤ cap) (hrun : Run keyOf cap True n n') :
    ∃ since, n'.log = n.log ++ since ∧
      (Few cap since → (since.filterMap (Passage.key? keyOf)).Nodup) := by
  obtain ⟨since, hsince⟩ := (@Since.here _ _ _ keyOf cap n _ hfresh hnodup hlength).run hcap hrun
  refine ⟨since, hsince.log, fun hfew => ?_⟩
  have hkeys : tally (Passage.key? keyOf) since ≤ tally Passage.noted? since :=
    (Multiset.le_add_right _ _).trans hsince.keys
  exact Multiset.coe_nodup.mp (Multiset.nodup_of_le hkeys (Multiset.coe_nodup.mpr (hsince.once hfew)))

end Windowed
end Forwarder
end Sedsprintf.Lib
