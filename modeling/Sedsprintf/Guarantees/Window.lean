import Sedsprintf.Router.Moves

/-!
# The window of recent ids

`recent_rx` decides what counts as a duplicate. With a reservation that holds
`MAX_RECENT_RX_IDS` ids it is a window of that many, whatever happens in the other
stores of the shared budget.
-/
namespace Sedsprintf

open Lib

namespace RouterSystem
variable {B : Build} {S : Schema} {reliable : Bool} {s s' s'' : RouterSystem S} {a : Action B S}
  {actions : List (Action B S)} {id : UInt64} {later : List UInt64}

/-- The id that a step records. -/
def recordedBy (B : Build) (s : RouterSystem S) : Action B S → Option UInt64
  | .isDuplicatePkt data =>
    match RouterInner.getHash B data with
    | .ok id => if id ∈ s.inner.recentRx.q then none else some id
    | .error _ => none
  | _ => none

/-- The ids that are recorded along a run, the last one first. -/
def recorded (B : Build) (reliable : Bool) : RouterSystem S → List (Action B S) → List UInt64
  | _, [] => []
  | s, a :: rest =>
    match s.step B reliable a with
    | none => []
    | some s' => recorded B reliable s' rest ++ (s.recordedBy B a).toList

/-- The step removes `id`. -/
def Removes (B : Build) (id : UInt64) : Action B S → Prop
  | .removePktId data => RouterInner.getHash B data = .ok id
  | _ => False

/-- The window after a step: as it was, without an id, or with one more. -/
inductive RecentStep (B : Build) (s : RouterSystem S) (a : Action B S) (recent : List UInt64) : Prop
  | same (heq : recent = s.inner.recentRx.q) (hnone : s.recordedBy B a = none)
  | removed (id : UInt64) (hremoves : Removes B id a) (heq : recent = s.inner.recentRx.q.erase id)
      (hnone : s.recordedBy B a = none)
  | noted (id : UInt64) (hnew : id ∉ s.inner.recentRx.q) (hsome : s.recordedBy B a = some id)
      (heq : recent = Window.note B.maxRecentRxIds s.inner.recentRx.q id)

theorem recordedBy_of_not_onRecent (ha : ¬a.OnRecent) : s.recordedBy B a = none := by
  cases a with
  | isDuplicatePkt data => exact absurd trivial ha
  | _ => rfl

theorem recent_of_isDuplicatePkt {data : RouterItem S} (hkept : s.inner.Kept B)
    (hrecent : RecentKept B s.inner.recentRx) (hbudget : B.maxRecentRxIds * 8 ≤ B.maxQueueBudget)
    (h : s.step B reliable (.isDuplicatePkt data) = some s') :
    RecentKept B s'.inner.recentRx ∧
      RecentStep B s (.isDuplicatePkt data) s'.inner.recentRx.q := by
  simp only [step] at h
  have hs' := System.returned_eq_some h
  subst hs'
  simp only [RouterInner.isDuplicatePkt] at h ⊢
  cases hhash : RouterInner.getHash B data with
  | error e => exact ⟨hrecent, .same rfl (by simp only [recordedBy, hhash])⟩
  | ok id =>
    rw [hhash] at h
    dsimp only at h ⊢
    by_cases hmem : id ∈ s.inner.recentRx.q
    · rw [if_pos hmem]
      exact ⟨hrecent, .same rfl (by simp only [recordedBy, hhash, if_pos hmem])⟩
    · rw [if_neg hmem] at h ⊢
      -- an empty window would not have returned
      have hids : B.maxRecentRxIds ≠ 0 := by
        intro hzero
        simp [RouterInner.pushRecentRx, Stores.pushRecentRx, hzero, panics, System.returned,
          Except.map] at h
      obtain ⟨hok, hnote, hrecent'⟩ := @Stores.pushRecentRx_spec _ _ S B B.wordSize
        (RouterQueues.set B) s.inner.stores hkept.toBudgeted hrecent hids hbudget id hmem
      unfold RouterInner.pushRecentRx
      generalize Stores.pushRecentRx B B.wordSize (RouterQueues.set B) s.inner.stores id = r
        at hok hnote hrecent'
      obtain ⟨stores, result⟩ := r
      dsimp only at hok hnote hrecent'
      subst hok
      exact ⟨hrecent', .noted id hmem (by simp only [recordedBy, hhash, if_neg hmem]) hnote⟩

theorem recent_of_step (hkept : s.inner.Kept B) (hrecent : RecentKept B s.inner.recentRx)
    (hbudget : B.maxRecentRxIds * 8 ≤ B.maxQueueBudget) (h : s.step B reliable a = some s') :
    RecentKept B s'.inner.recentRx ∧ RecentStep B s a s'.inner.recentRx.q := by
  by_cases ha : a.OnRecent
  · cases a with
    | isDuplicatePkt data => exact recent_of_isDuplicatePkt hkept hrecent hbudget h
    | removePktId data =>
      obtain rfl := System.returned_eq_some h
      rcases s.inner.removePktId_cases (B := B) data with heq | ⟨id, hhash, heq⟩
      · rw [heq]
        exact ⟨hrecent, .same rfl rfl⟩
      · rw [heq]
        exact ⟨hrecent.removeValue id,
          .removed id hhash (BoundedDeque.removeValue_q id) rfl⟩
    | _ => cases ha
  · have heq := Stores.Move.recentRx_of_moves (storeMoves_of_step h ha)
    have heq' : s'.inner.recentRx = s.inner.recentRx := heq
    rw [heq']
    exact ⟨hrecent, .same rfl (recordedBy_of_not_onRecent ha)⟩

/-- The window of a reachable router. -/
theorem recentKept_of_run {inner : RouterInner S} (hnew : RouterInner.new B = .ok inner)
    (hbudget : B.maxRecentRxIds * 8 ≤ B.maxQueueBudget)
    (hrun : Run (step B reliable) anyStep (.initial inner) actions s) :
    RecentKept B s.inner.recentRx := by
  have hinit := RouterInner.kept_new hnew
  refine (hrun.invariant (fun s => s.inner.Kept B ∧ RecentKept B s.inner.recentRx)
    (fun hs _ hstep => ?_) ⟨hinit.1, hinit.2.1⟩).2
  exact ⟨kept_of_step hs.1 hstep, (recent_of_step hs.1 hs.2 hbudget hstep).1⟩

/-- An id stays in the window along every run that does not remove it and records too
few others. -/
theorem behind_of_run (hbudget : B.maxRecentRxIds * 8 ≤ B.maxQueueBudget)
    (hkept : s.inner.Kept B) (hrecent : RecentKept B s.inner.recentRx)
    (hbehind : Window.Behind id later s.inner.recentRx.q)
    (hrun : Run (step B reliable) anyStep s actions s')
    (hfew : (recorded B reliable s actions ++ later).dedup.length < B.maxRecentRxIds)
    (hstays : ∀ a ∈ actions, ¬Removes B id a) :
    Window.Behind id (recorded B reliable s actions ++ later) s'.inner.recentRx.q := by
  induction hrun generalizing later with
  | nil s => exact hbehind
  | @cons s s₁ s' a rest _ hstep hrest ih =>
    obtain ⟨hrecent', hwindow⟩ := recent_of_step hkept hrecent hbudget hstep
    have hrecorded : recorded B reliable s (a :: rest) ++ later =
        recorded B reliable s₁ rest ++ ((s.recordedBy B a).toList ++ later) := by
      rw [recorded, hstep]
      exact List.append_assoc _ _ _
    rw [hrecorded] at hfew ⊢
    refine ih (kept_of_step hkept hstep) hrecent' ?_ hfew
      fun a ha => hstays a (List.mem_cons_of_mem _ ha)
    cases hwindow with
    | same heq hnone =>
      rw [heq, hnone]
      exact hbehind
    | removed id' hremoves heq hnone =>
      have hne : id ≠ id' := by
        rintro rfl
        exact hstays a List.mem_cons_self hremoves
      rw [heq, hnone]
      exact hbehind.erase hne
    | noted id' hnew hsome heq =>
      rw [heq, hsome]
      refine hbehind.note hrecent.nodup hrecent.length_le hnew ?_
      refine Nat.lt_of_le_of_lt ?_ hfew
      rw [hsome]
      refine (List.subperm_of_subset (List.nodup_dedup _) ?_).length_le
      intro x hx
      exact List.mem_dedup.mpr (List.mem_append_right _ (List.mem_dedup.mp hx))

/-- What an answered `is_duplicate_pkt` says about the window. -/
theorem isDuplicatePkt_eq_true {st : RouterInner S} {data : RouterItem S}
    (hhash : RouterInner.getHash B data = .ok id) (hmem : id ∈ st.recentRx.q) :
    (st.isDuplicatePkt B data).2 = .ok true := by
  simp only [RouterInner.isDuplicatePkt, hhash, if_pos hmem]

end RouterSystem

open RouterSystem in
/-- No id twice, at most `MAX_RECENT_RX_IDS` of them, and an id that was recorded is known
until it is removed or that many others were recorded behind it. -/
theorem duplicate_window_holds {B : Build} {S : Schema} {reliable : Bool} {inner : RouterInner S}
    {before : List (Action B S)} {s : RouterSystem S}
    (hbudget : B.maxRecentRxIds * 8 ≤ B.maxQueueBudget) (hnew : RouterInner.new B = .ok inner)
    (hrun : Run (step B reliable) anyStep (.initial inner) before s) :
    s.inner.recentRx.q.Nodup ∧ s.inner.recentRx.q.length ≤ B.maxRecentRxIds ∧
    ∀ (data : RouterItem S) (id : UInt64) (s₁ s₂ : RouterSystem S) (after : List (Action B S)),
      RouterInner.getHash B data = .ok id → (s.inner.isDuplicatePkt B data).2 = .ok false →
      s.step B reliable (.isDuplicatePkt data) = some s₁ →
      Run (step B reliable) anyStep s₁ after s₂ →
      (recorded B reliable s₁ after).dedup.length < B.maxRecentRxIds →
      (∀ a ∈ after, ¬Removes B id a) →
      ∀ again, RouterInner.getHash B again = .ok id →
        (s₂.inner.isDuplicatePkt B again).2 = .ok true := by
  have hkept := kept_of_run hnew hrun
  have hrecent := recentKept_of_run hnew hbudget hrun
  refine ⟨hrecent.nodup, hrecent.length_le, ?_⟩
  intro data id s₁ s₂ after hhash hfirst hstep hrun' hfew hstays again hagain
  have hnew : id ∉ s.inner.recentRx.q := by
    intro hmem
    rw [isDuplicatePkt_eq_true hhash hmem] at hfirst
    cases hfirst
  have hrecorded : s.recordedBy B (.isDuplicatePkt data) = some id := by
    simp only [recordedBy, hhash, if_neg hnew]
  obtain ⟨hrecent₁, hwindow⟩ := recent_of_step hkept hrecent hbudget hstep
  have hbehind : Window.Behind id [] s₁.inner.recentRx.q := by
    cases hwindow with
    | same heq hnone => cases hrecorded.symm.trans hnone
    | removed id' hremoves heq hnone => cases hremoves
    | noted id' hnew' hsome heq =>
      obtain rfl := Option.some.inj (hrecorded.symm.trans hsome)
      rw [heq]
      exact .note_self _ _
  have hlast := behind_of_run hbudget (kept_of_step hkept hstep) hrecent₁ hbehind hrun'
    (by rw [List.append_nil]; exact hfew) hstays
  exact isDuplicatePkt_eq_true hagain hlast.mem

/-- A fix is known again after the queues were cleared. -/
theorem duplicate_window_holds_gps :
    hostBuild.maxRecentRxIds * 8 ≤ hostBuild.maxQueueBudget ∧
    ∃ (inner : RouterInner defaultSchema) (s₁ s₂ : RouterSystem defaultSchema),
      RouterInner.new hostBuild = .ok inner ∧
      (inner.isDuplicatePkt hostBuild (.packet gpsPacket)).2 = .ok false ∧
      Run (RouterSystem.step hostBuild true) anyStep (.initial inner)
        [.isDuplicatePkt (.packet gpsPacket)] s₁ ∧
      Run (RouterSystem.step hostBuild true) anyStep s₁ [.clearQueues] s₂ ∧
      (s₂.inner.isDuplicatePkt hostBuild (.packet gpsPacket)).2 = .ok true := by
  obtain ⟨inner, s₂, hnew, hrun, hview⟩ := @System.run_of_execute defaultSchema _ _
    (RouterSystem.step hostBuild true) [.isDuplicatePkt (.packet gpsPacket), .clearQueues] _
    (fun s : RouterSystem defaultSchema => s.inner.recentRx.q) [gpsPacket.packetId hostBuild]
    (RouterInner.new hostBuild) (by decide +kernel)
  have hfirst : (inner.isDuplicatePkt hostBuild (.packet gpsPacket)).2 = .ok false := by
    have hexec : (RouterInner.new (S := defaultSchema) hostBuild).toOption.map (fun inner =>
        (inner.isDuplicatePkt hostBuild (.packet gpsPacket)).2.toOption) = some (some false) := by
      decide +kernel
    rw [hnew] at hexec
    exact toOption_eq_some.mp (Option.some.inj hexec)
  cases hrun with
  | @cons _ s₁ _ _ _ _ hstep hrest =>
    refine ⟨by decide, inner, s₁, s₂, hnew, hfirst, .cons trivial hstep (.nil _), hrest, ?_⟩
    have hnothing : RouterSystem.recorded hostBuild true s₁ [.clearQueues] = [] := rfl
    exact (duplicate_window_holds (by decide) hnew (.nil _)).2.2 (.packet gpsPacket)
      (gpsPacket.packetId hostBuild) s₁ s₂ _ rfl hfirst hstep hrest (by rw [hnothing]; decide)
      (by simp [RouterSystem.Removes]) (.packet gpsPacket) rfl

end Sedsprintf
