import Mathlib.Algebra.Group.Nat.Defs
import Mathlib.Data.List.Basic
import Mathlib.Order.MinMax

/-!
# Timers that back off

A timer fires at the first poll that finds it due, and whenever it is forced to. Each firing
doubles the interval up to a cap; a reset makes the timer due at once, with its shortest interval.
Between firings of a timer that is only polled there is never less than the interval, and at no poll
has any timer been silent for the cap or longer. Time ends at `horizon`.
-/
namespace Sedsprintf.Lib

structure Backoff where
  interval : Nat
  next : Nat
  deriving DecidableEq, Repr

/-- What a timer meets, with the time it meets it at. -/
inductive BackoffEvent where
  | reset (now : Nat)
  | poll (now : Nat)
  | force (now : Nat)
  deriving DecidableEq, Repr

def BackoffEvent.time : BackoffEvent → Nat
  | .reset now => now
  | .poll now => now
  | .force now => now

namespace Backoff
variable (shortest cap horizon : Nat)

def reset (now : Nat) : Backoff := ⟨shortest, now⟩

/-- The timer after it fired. -/
def fire (t : Backoff) (now : Nat) : Backoff :=
  ⟨min (t.interval * 2) cap, min (now + t.interval) horizon⟩

def step (t : Backoff) : BackoffEvent → Backoff × Option Nat
  | .reset now => (reset shortest now, none)
  | .poll now => if t.next ≤ now then (t.fire cap horizon now, some now) else (t, none)
  | .force now => (t.fire cap horizon now, some now)

/-- The times the timer fires at. -/
def firings (t : Backoff) : List BackoffEvent → List Nat
  | [] => []
  | event :: rest =>
    let r := t.step shortest cap horizon event
    r.2.toList ++ firings r.1 rest

/-- The timer behind what it met. -/
def after (t : Backoff) (events : List BackoffEvent) : Backoff :=
  events.foldl (fun t event => (t.step shortest cap horizon event).1) t

/-- Times that do not go back, from `start` on. -/
def Ordered (start : Nat) (events : List BackoffEvent) : Prop :=
  List.IsChain (· ≤ ·) (start :: events.map BackoffEvent.time)

instance (start : Nat) (events : List BackoffEvent) : Decidable (Ordered start events) :=
  inferInstanceAs (Decidable (List.IsChain _ _))

section Polls
variable {shortest cap horizon : Nat} {t : Backoff} {events : List BackoffEvent} {now : Nat}

theorem firings_due (hdue : t.next ≤ now) :
    t.firings shortest cap horizon (.poll now :: events) =
      now :: (t.fire cap horizon now).firings shortest cap horizon events := by
  simp only [firings, step, if_pos hdue, Option.toList_some, List.singleton_append]

theorem firings_force :
    t.firings shortest cap horizon (.force now :: events) =
      now :: (t.fire cap horizon now).firings shortest cap horizon events := by
  simp only [firings, step, Option.toList_some, List.singleton_append]

theorem firings_idle (hidle : ¬t.next ≤ now) :
    t.firings shortest cap horizon (.poll now :: events) = t.firings shortest cap horizon events := by
  simp only [firings, step, if_neg hidle, Option.toList_none, List.nil_append]

/-- A timer goes on from where the events so far have left it. -/
theorem firings_append (more : List BackoffEvent) :
    t.firings shortest cap horizon (events ++ more) =
      t.firings shortest cap horizon events ++
        (t.after shortest cap horizon events).firings shortest cap horizon more := by
  induction events generalizing t with
  | nil => rfl
  | cons event rest ih => simp only [List.cons_append, firings, ih, after, List.foldl_cons,
      List.append_assoc]

theorem after_append (more : List BackoffEvent) :
    t.after shortest cap horizon (events ++ more) =
      (t.after shortest cap horizon events).after shortest cap horizon more :=
  List.foldl_append

end Polls

section Silence
variable {shortest cap horizon : Nat} {t : Backoff} {events : List BackoffEvent} {start f p : Nat}

theorem Ordered.le (h : Ordered start events) (hp : .poll p ∈ events) : start ≤ p := by
  have hpairwise := List.isChain_iff_pairwise.mp h
  exact List.rel_of_pairwise_cons hpairwise (List.mem_map.mpr ⟨_, hp, rfl⟩)

theorem Ordered.tail {event : BackoffEvent} (h : Ordered start (event :: events)) :
    start ≤ event.time ∧ Ordered event.time events :=
  List.isChain_cons_cons.mp h

/-- The timer is due, or fired no longer than the cap before it will be. -/
def Near (t : Backoff) (cap start : Nat) (past : List Nat) : Prop :=
  t.next ≤ start ∨ ∃ f ∈ past, f ≤ start ∧ t.next ≤ f + cap

theorem Near.later {past : List Nat} {now : Nat} (h : t.Near cap start past) (hle : start ≤ now) :
    t.Near cap now past := by
  rcases h with hdue | ⟨f, hf, hstart, hnext⟩
  · exact .inl (hdue.trans hle)
  · exact .inr ⟨f, hf, hstart.trans hle, hnext⟩

/-- A timer that has just fired. -/
theorem near_fire (past : List Nat) (now : Nat) (hinterval : t.interval ≤ cap) :
    (t.fire cap horizon now).Near cap now (past ++ [now]) := by
  refine .inr ⟨now, by simp, Nat.le_refl now, ?_⟩
  exact (Nat.min_le_left _ _).trans (Nat.add_le_add_left hinterval now)

/-- At every poll a timer that is due or fired not long ago has fired within the cap. -/
theorem exists_firing {past : List Nat} (hshortest : shortest ≤ cap) (hcap : 0 < cap)
    (hinterval : t.interval ≤ cap) (hnear : t.Near cap start past)
    (hordered : Ordered start events) (hp : .poll p ∈ events) :
    ∃ g ∈ past ++ t.firings shortest cap horizon events, g ≤ p ∧ p < g + cap := by
  induction events generalizing t start past with
  | nil => cases hp
  | cons event rest ih =>
    obtain ⟨hle, hrest⟩ := hordered.tail
    -- a firing joins those of the past
    have hfired : ∀ now, Ordered now rest → .poll p ∈ rest →
        ∃ g ∈ past ++ now :: (t.fire cap horizon now).firings shortest cap horizon rest,
          g ≤ p ∧ p < g + cap := by
      intro now hrest hp
      have := ih (t := t.fire cap horizon now) (Nat.min_le_right _ _)
        (near_fire past now hinterval) hrest hp
      rwa [List.append_assoc, List.singleton_append] at this
    cases event with
    | reset now =>
      have hp : .poll p ∈ rest := (List.mem_cons.mp hp).resolve_left (by simp)
      exact ih (t := reset shortest now) hshortest (.inl (Nat.le_refl _)) hrest hp
    | force now =>
      have hp : .poll p ∈ rest := (List.mem_cons.mp hp).resolve_left (by simp)
      rw [firings_force]
      exact hfired now hrest hp
    | poll now =>
      by_cases hdue : t.next ≤ now
      · rw [firings_due hdue]
        rcases List.mem_cons.mp hp with heq | hp
        · obtain rfl := BackoffEvent.poll.inj heq
          exact ⟨p, by simp, Nat.le_refl p, by omega⟩
        · exact hfired now hrest hp
      · rw [firings_idle hdue]
        rcases List.mem_cons.mp hp with heq | hp
        · obtain rfl := BackoffEvent.poll.inj heq
          obtain ⟨f, hf, hstart, hnext⟩ := (hnear.later hle).resolve_left hdue
          exact ⟨f, List.mem_append_left _ hf, hstart, by omega⟩
        · exact ih hinterval (hnear.later hle) hrest hp

end Silence

section Spacing
variable {shortest cap horizon : Nat} {t : Backoff} {polls : List Nat} {start : Nat}

/-- Polls and nothing else. -/
def quiet (polls : List Nat) : List BackoffEvent := polls.map .poll

/-- The intervals of the firings that follow one another undisturbed. -/
def spacing (cap interval : Nat) : Nat → Nat
  | 0 => interval
  | n + 1 => spacing cap (min (interval * 2) cap) n

theorem spacing_eq (hshortest : shortest ≤ cap) (n : Nat) :
    spacing cap shortest n = min (shortest * 2 ^ n) cap := by
  induction n generalizing shortest with
  | zero => simp [spacing, hshortest]
  | succ n ih =>
    rw [spacing, ih (Nat.min_le_right _ _), Nat.pow_succ]
    by_cases hle : shortest * 2 ≤ cap
    · rw [Nat.min_eq_left hle, Nat.mul_assoc, Nat.mul_comm 2]
    · have hone : 1 ≤ 2 ^ n := Nat.one_le_two_pow
      have hpow : cap ≤ cap * 2 ^ n := Nat.le_mul_of_pos_right cap hone
      have hmul : cap ≤ shortest * (2 ^ n * 2) := by
        calc cap ≤ shortest * 2 := by omega
          _ ≤ shortest * (2 ^ n * 2) := Nat.mul_le_mul_left _ (by omega)
      have hmin : min (shortest * 2) cap = cap := Nat.min_eq_right (by omega)
      rw [hmin, Nat.min_eq_right hpow, Nat.min_eq_right hmul]

/-- No firing comes before the timer is due, nor before the polls begin. -/
theorem le_of_mem_firings {g : Nat} (hordered : Ordered start (quiet polls))
    (hg : g ∈ t.firings shortest cap horizon (quiet polls)) : t.next ≤ g ∧ start ≤ g := by
  induction polls generalizing t start with
  | nil => cases hg
  | cons now rest ih =>
    obtain ⟨hle, hrest⟩ := hordered.tail
    by_cases hdue : t.next ≤ now
    · rw [quiet, List.map_cons, firings_due hdue] at hg
      rcases List.mem_cons.mp hg with rfl | hg
      · exact ⟨hdue, hle⟩
      · have hlater : now ≤ g := (ih hrest hg).2
        exact ⟨hdue.trans hlater, hle.trans hlater⟩
    · rw [quiet, List.map_cons, firings_idle hdue] at hg
      exact (ih hrest hg).imp_right hle.trans

/-- The `n`-th firing of a timer that is only polled and the next are at least the `n`-th
interval apart, as long as there is that much time left. -/
theorem firings_spaced {n f g : Nat} (hordered : Ordered start (quiet polls))
    (hf : (t.firings shortest cap horizon (quiet polls))[n]? = some f)
    (hg : (t.firings shortest cap horizon (quiet polls))[n + 1]? = some g) :
    min (f + spacing cap t.interval n) horizon ≤ g := by
  induction polls generalizing t n start with
  | nil => simp [firings, quiet] at hf
  | cons now rest ih =>
    obtain ⟨-, hrest⟩ := hordered.tail
    by_cases hdue : t.next ≤ now
    · simp only [quiet, List.map_cons, firings_due hdue, List.getElem?_cons_succ] at hf hg
      cases n with
      | zero =>
        obtain rfl : now = f := by simpa using hf
        exact (le_of_mem_firings hrest (List.mem_of_getElem? hg)).1
      | succ n => exact ih (t := t.fire cap horizon now) hrest hf hg
    · simp only [quiet, List.map_cons, firings_idle hdue] at hf hg
      exact ih hrest hf hg

end Spacing
end Backoff
end Sedsprintf.Lib
