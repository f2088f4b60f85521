import Sedsprintf.TimeSync.Election
import Sedsprintf.TimeSync.Runtime

/-!
# Sources that follow each other

A leader announces a priority one better than its own for as long as it knows of an equal one,
and loses that lead to any equal source of an earlier name. Those it has announced to by then
keep the better priority, and follow it.
-/
namespace Sedsprintf

open Lib

namespace Electorate
variable {ι : Type} {el : Electorate ι}

/-- Of two nodes that are as good as each other, the later does not undercut; nor does the
earlier where it is one worse. -/
def Steady (el : Electorate ι) : Prop :=
  ∀ a b, el.senders b < el.senders a →
    ((el.cfgs a).priority = (el.cfgs b).priority → (el.cfgs a).priority ≠ 0 → ¬el.Undercuts a) ∧
    ((el.cfgs b).priority.toNat = (el.cfgs a).priority.toNat + 1 → ¬el.Undercuts b)

/-- Where the later of two nodes would lose to what the earlier can announce, the earlier does
not lose to what the later can announce. -/
theorem Steady.not_crossed (h : el.Steady) {a b : ι} (hname : el.senders b < el.senders a)
    {pa pb : UInt64} (ha : el.MayAnnounce a pa) (hb : el.MayAnnounce b pb)
    (hlead : ¬(el.cfgs a).priority < pb) : ¬pa < (el.cfgs b).priority := by
  obtain ⟨hequal, hworse⟩ := h a b hname
  simp only [UInt64.lt_iff_toNat_lt, ← UInt64.toNat_inj, ne_eq] at hequal hlead ⊢
  have hzero : (0 : UInt64).toNat = 0 := rfl
  have hone : (1 : UInt64).toNat = 1 := rfl
  intro hlt
  have hpb : (el.cfgs b).priority.toNat ≤ (el.cfgs a).priority.toNat + 1 ∧
      ((el.cfgs b).priority.toNat = (el.cfgs a).priority.toNat + 1 → el.Undercuts b) := by
    rcases hb.cases with rfl | ⟨rfl, hunder⟩
    · omega
    · rw [toNat_saturatingSub] at hlead
      exact ⟨by omega, fun _ => hunder⟩
  have hpa : (el.cfgs a).priority.toNat ≤ (el.cfgs b).priority.toNat ∧
      ((el.cfgs a).priority.toNat = (el.cfgs b).priority.toNat →
        (el.cfgs a).priority.toNat ≠ 0 ∧ el.Undercuts a) := by
    rcases ha.cases with rfl | ⟨rfl, hunder⟩
    · omega
    · rw [toNat_saturatingSub] at hlt
      exact ⟨by omega, fun _ => ⟨by omega, hunder⟩⟩
  by_cases hnext : (el.cfgs b).priority.toNat = (el.cfgs a).priority.toNat + 1
  · exact hworse hnext (hpb.2 hnext)
  · have heq : (el.cfgs a).priority.toNat = (el.cfgs b).priority.toNat := by omega
    obtain ⟨hpos, hunder⟩ := hpa.2 heq
    exact hequal heq (by omega) hunder

end Electorate

namespace Election
variable {ι : Type} {S : Schema}

/-- Some reading of the clock finds node `a` following the sender named. -/
def Follows (e : Election ι S) (a : ι) (sender : String) : Prop :=
  ∃ now usable src, (e.trackers a).leader now usable = some (.remote src) ∧ src.sender = sender

/-- What a source follows was announced, and the source does not lead it. -/
theorem Inv.follows {t : TimeSyncTypes S.DataType} {el : Electorate ι}
    {e : Election ι S} (h : Inv t el e) (hrole : ∀ i, (el.cfgs i).role = .source) {a : ι}
    {sender : String} (hfollows : e.Follows a sender) : ∃ j priority, el.senders j = sender ∧
      el.MayAnnounce j priority ∧ ¬(el.cfgs a).priority < priority ∧
      ((el.cfgs a).priority = priority → ¬el.localIds a < sender) := by
  obtain ⟨now, usable, src, hleader, hsender⟩ := hfollows
  have hsound := h.trackers a
  have hsource : (e.trackers a).cfg.role = .source := by rw [hsound.cfg, hrole]
  obtain ⟨hbest, hleads⟩ := (TimeSyncTracker.leader_eq_remote_iff hsource).mp hleader
  have hmem := TimeSyncTracker.bestActiveSource_mem hbest
  obtain ⟨⟨key, hkey⟩, -⟩ := TimeSyncTracker.mem_activeSources.mp hmem
  have hheard := hsound.heard key src hkey
  obtain ⟨j, hj, hmay⟩ := hheard.announced
  have hname : el.senders j = sender := by rw [hj, ← hheard.sender, hsender]
  rw [TimeSyncTracker.Leads, hsound.cfg, hsound.localId, hsender] at hleads
  exact ⟨j, src.priority, hname, hmay, fun hlt => hleads (.inl hlt),
    fun heq hlt => hleads (.inr ⟨heq, hlt⟩)⟩

end Election

/-- Of two steady nodes that follow each other, the earlier by name is as good as what the later
announced, and would lead. -/
theorem Election.Inv.not_follows_later {S : Schema} {t : TimeSyncTypes S.DataType}
    {ι : Type} {names : ι → String} {cfgs : ι → TimeSyncConfig} {e : Election ι S}
    (hinv : Inv t (.named names cfgs) e) (hnames : Function.Injective names)
    (hrole : ∀ i, (cfgs i).role = .source) (hsteady : (Electorate.named names cfgs).Steady)
    {a b : ι} (hname : names b < names a) (hab : e.Follows a (names b)) :
    ¬e.Follows b (names a) := by
  intro hba
  obtain ⟨j, pb, hj, hpb, hlead, -⟩ := hinv.follows hrole hab
  obtain ⟨k, pa, hk, hpa, hlead', htie⟩ := hinv.follows hrole hba
  obtain rfl : j = b := hnames hj
  obtain rfl : k = a := hnames hk
  have hnot := hsteady.not_crossed hname hpa hpb hlead
  have heq : (cfgs j).priority = pa := by
    simp only [Electorate.named, UInt64.lt_iff_toNat_lt, ← UInt64.toNat_inj] at hnot hlead' ⊢
    omega
  exact htie heq hname

def boardNames (i : Fin 3) : String := ["alpha", "bravo", "charlie"].get i

theorem boardNames_injective : Function.Injective boardNames := by
  have hdecided : ∀ a b : Fin 3, boardNames a = boardNames b → a = b := by decide
  exact fun a b => hdecided a b

/-- Sources of the default priority. -/
def equalSources (_ : Fin 3) : TimeSyncConfig := { role := .source }

/-- Each node reads its clock at zero, and follows. -/
def Election.followedBy (e : Election (Fin 3) defaultSchema) (a : Fin 3) : Option String :=
  TimeSyncRuntime.remoteName ((e.trackers a).leader 0 true)

theorem Election.follows_of_followedBy {e : Election (Fin 3) defaultSchema} {a : Fin 3}
    {sender : String} (h : e.followedBy a = some sender) : e.Follows a sender := by
  unfold followedBy TimeSyncRuntime.remoteName at h
  split at h
  · rename_i src hleader
    exact ⟨0, true, src, hleader, Option.some.inj h⟩
  · cases h

/-- Sources of distinct names that are steady never follow each other. -/
theorem sources_never_follow_each_other {B : Build} {S : Schema} (t : TimeSyncTypes S.DataType)
    {ι : Type} [DecidableEq ι] (names : ι → String) (cfgs : ι → TimeSyncConfig)
    (hnames : Function.Injective names) (hrole : ∀ i, (cfgs i).role = .source)
    (hsteady : (Electorate.named names cfgs).Steady) {actions : List (ElectionAction ι S)}
    {e : Election ι S}
    (hrun : Run (Election.step B t (.named names cfgs)) anyStep
      (.initial (.named names cfgs)) actions e) (a b : ι) (hne : a ≠ b) :
    ¬(e.Follows a (names b) ∧ e.Follows b (names a)) := by
  have hinv := Election.Inv.run hrole hrun
  rintro ⟨hab, hba⟩
  rcases lt_or_gt_of_ne (hnames.ne hne) with hlt | hgt
  · exact hinv.not_follows_later hnames hrole hsteady hlt hba hab
  · exact hinv.not_follows_later hnames hrole hsteady hgt hab hba

/-- Two equal sources, and a third that is better by more than one. -/
def bestLast (i : Fin 3) : TimeSyncConfig :=
  { role := .source, priority := if i = 2 then 50 else 100 }

theorem steady_bestLast : (Electorate.named boardNames bestLast).Steady := by
  have hnever : ∀ i j : Fin 3, boardNames i < boardNames j → i ≠ 0 →
      ¬(Electorate.named boardNames bestLast).MayAnnounce j (bestLast i).priority := by
    intro i j hname hi hmay
    have hpriority : (bestLast i).priority = (bestLast j).priority ∨
        (bestLast i).priority = saturatingSub (bestLast j).priority 1 :=
      hmay.cases.imp_right And.left
    clear hmay
    revert i j
    decide +kernel
  have hapart : ∀ a b : Fin 3, boardNames b < boardNames a → a ≠ 0 ∧
      (bestLast b).priority.toNat ≠ (bestLast a).priority.toNat + 1 := by decide +kernel
  intro a b hname
  obtain ⟨hlater, hworse⟩ := hapart a b hname
  refine ⟨fun _ _ hunder => ?_, fun hnext => absurd hnext hworse⟩
  obtain ⟨j, -, hj, hmay⟩ := hunder
  exact hnever a j hj hlater hmay

/-- The first two announce at once, and the second hears of the first. -/
def tiedAnnouncements : List (ElectionAction (Fin 3) defaultSchema) :=
  [.announce 0 0 true 0, .announce 1 0 true 0, .receive 1 (sourceAnnounce "alpha" 100 0) 0,
    .receive 0 (sourceAnnounce "bravo" 100 0) 0]

theorem sources_never_follow_each_other_tied :
    ∃ e : Election (Fin 3) defaultSchema,
      Run (Election.step hostBuild defaultTimeSync (.named boardNames bestLast)) anyStep
        (.initial (.named boardNames bestLast)) tiedAnnouncements e ∧
      e.Follows 1 (boardNames 0) ∧ ¬e.Follows 0 (boardNames 1) := by
  have hrun : ((tiedAnnouncements.foldlM
      (Election.step hostBuild defaultTimeSync (.named boardNames bestLast))
      (.initial (.named boardNames bestLast))).map fun e => e.followedBy 1) =
        some (some (boardNames 0)) := by
    decide +kernel
  obtain ⟨e, hexecuted, hview⟩ := Option.map_eq_some_iff.mp hrun
  have hrun : Run (Election.step hostBuild defaultTimeSync (.named boardNames bestLast)) anyStep
      (.initial (.named boardNames bestLast)) tiedAnnouncements e :=
    .of_foldlM (fun _ _ => trivial) hexecuted
  have hfollows := Election.follows_of_followedBy hview
  refine ⟨e, hrun, hfollows, fun hback => ?_⟩
  exact sources_never_follow_each_other defaultTimeSync boardNames bestLast boardNames_injective
    (fun _ => rfl) steady_bestLast hrun 0 1 (by decide) ⟨hback, hfollows⟩

/-- The second hears of the third and undercuts it; then it hears of the first. -/
def crossedAnnouncements : List (ElectionAction (Fin 3) defaultSchema) :=
  [.announce 2 0 true 0, .receive 1 (sourceAnnounce "charlie" 100 0) 0, .announce 1 0 true 0,
    .announce 0 0 true 0, .receive 1 (sourceAnnounce "alpha" 100 0) 0,
    .receive 0 (sourceAnnounce "bravo" 99 0) 0]

/-- The first board follows the second, and the second the first. -/
theorem sources_follow_each_other :
    Function.Injective boardNames ∧ (∀ i, (equalSources i).role = .source) ∧
    ∃ e : Election (Fin 3) defaultSchema,
      Run (Election.step hostBuild defaultTimeSync (.named boardNames equalSources)) anyStep
        (.initial (.named boardNames equalSources)) crossedAnnouncements e ∧
      e.Follows 0 (boardNames 1) ∧ e.Follows 1 (boardNames 0) := by
  refine ⟨boardNames_injective, fun _ => rfl, ?_⟩
  have hrun : ((crossedAnnouncements.foldlM
      (Election.step hostBuild defaultTimeSync (.named boardNames equalSources))
      (.initial (.named boardNames equalSources))).map fun e =>
        (e.followedBy 0, e.followedBy 1)) = some (some (boardNames 1), some (boardNames 0)) := by
    decide +kernel
  obtain ⟨e, hrun, hview⟩ := Option.map_eq_some_iff.mp hrun
  obtain ⟨hfirst, hsecond⟩ := Prod.mk.inj hview
  exact ⟨e, .of_foldlM (fun _ _ => trivial) hrun, Election.follows_of_followedBy hfirst,
    Election.follows_of_followedBy hsecond⟩

end Sedsprintf
