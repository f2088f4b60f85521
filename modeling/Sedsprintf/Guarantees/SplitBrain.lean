import Sedsprintf.TimeSync.Network

/-!
# Two sources that hear each other

A tracker compares the name of the other router with the device identifier of its build, which
is not the name its own router announces. Two routers of equal priority may therefore each find
itself the earlier, and lead, or each the later.
-/
namespace Sedsprintf

open Lib

namespace Electorate
variable {el : Electorate Bool} {i : Bool}

/-- A node finds itself earlier than the other. -/
def Earlier (el : Electorate Bool) (i : Bool) : Prop := el.localIds i < el.senders !i

/-- The priorities differ, or one node alone finds itself earlier, or one takes the other for
itself, and hears nothing of it. -/
def Decided (el : Electorate Bool) : Prop :=
  (el.cfgs true).priority ≠ (el.cfgs false).priority ∨ ¬(el.Earlier true ↔ el.Earlier false) ∨
    ∃ i, el.senders (!i) = el.localIds i

/-- A node that comes before the other. -/
def Before (el : Electorate Bool) (i : Bool) : Prop :=
  (el.cfgs i).priority < (el.cfgs !i).priority ∨
    (el.cfgs i).priority = (el.cfgs !i).priority ∧ el.Earlier i ∧ ¬el.Earlier !i

theorem Decided.before (h : el.Decided) (hforeign : ∀ i, el.senders (!i) ≠ el.localIds i) :
    ∃ i, el.Before i := by
  have hcases : (el.cfgs true).priority < (el.cfgs false).priority ∨
      (el.cfgs false).priority < (el.cfgs true).priority ∨
      (el.cfgs true).priority = (el.cfgs false).priority := by
    simp only [UInt64.lt_iff_toNat_lt, ← UInt64.toNat_inj]
    omega
  rcases hcases with hlt | hgt | heq
  · exact ⟨true, .inl hlt⟩
  · exact ⟨false, .inl hgt⟩
  · rcases h with hne | hdiffer | ⟨i, hsame⟩
    · exact absurd heq hne
    · by_cases hearlier : el.Earlier true
      · exact ⟨true, .inr ⟨heq, hearlier, fun hother => hdiffer (by simp_all)⟩⟩
      · have hother : el.Earlier false := by
          by_contra hnone
          exact hdiffer ⟨fun h => absurd h hearlier, fun h => absurd h hnone⟩
        exact ⟨false, .inr ⟨heq.symm, hother, hearlier⟩⟩
    · exact absurd hsame (hforeign i)

/-- The node that comes second announces its own priority only. -/
theorem Before.mayAnnounce_other (h : el.Before i) {priority : UInt64}
    (hmay : el.MayAnnounce (!i) priority) : priority = (el.cfgs !i).priority := by
  rcases hmay.cases with rfl | ⟨-, j, hj, hearlier, hmay⟩
  · rfl
  · obtain rfl : j = i := by
      cases i <;> cases j <;> simp_all
    -- it would have to hear its own priority from the first
    rcases h with hlt | ⟨-, -, hlater⟩
    · simp only [UInt64.lt_iff_toNat_lt] at hlt
      rcases hmay.cases with hown | ⟨hbelow, -⟩
      · rw [hown] at hlt
        omega
      · rw [hbelow, toNat_saturatingSub] at hlt
        omega
    · rw [Earlier, Bool.not_not] at hlater
      exact absurd hearlier hlater

theorem MayAnnounce.le {priority : UInt64} (h : el.MayAnnounce i priority) :
    priority.toNat ≤ (el.cfgs i).priority.toNat := by
  rcases h.cases with rfl | ⟨rfl, -⟩
  · exact le_refl _
  · rw [toNat_saturatingSub]
    omega

end Electorate

namespace TimeSyncRuntime

/-- The runtime holds an announcement of the sender for active. -/
def Holds (rt : TimeSyncRuntime) (now : MonotonicTime) (sender : String) : Prop :=
  ∃ tracker src, rt.tracker = some tracker ∧ tracker.sources[sender]? = some src ∧
    tracker.isActive now.ms src = true

/-- The router takes itself for the leader. -/
def LeadsAt (rt : TimeSyncRuntime) (now : MonotonicTime) (usable : Bool) : Prop :=
  ∃ priority, rt.leader now usable = some (.local priority)

variable {el : Electorate Bool} {i : Bool} {rt : TimeSyncRuntime} {now : MonotonicTime}
  {usable : Bool}

/-- A node that holds the other leads it, or does not lead. -/
theorem Tracks.leadsAt_iff (h : rt.Tracks el i) (hrole : (el.cfgs i).role = .source)
    (hheld : rt.Holds now (el.senders !i)) : el.senders (!i) ≠ el.localIds i ∧
      ∃ heard, el.MayAnnounce (!i) heard ∧ (rt.LeadsAt now usable ↔
        (el.cfgs i).priority < heard ∨ (el.cfgs i).priority = heard ∧ el.Earlier i) := by
  obtain ⟨tracker, htracker, hsound⟩ := h
  obtain ⟨tracker', src, htracker', hsrc, hactive⟩ := hheld
  obtain rfl := Option.some.inj (htracker.symm.trans htracker')
  refine ⟨(hsound.heard _ src hsrc).foreign, ?_⟩
  have hmem : src ∈ tracker.activeSources now.ms :=
    TimeSyncTracker.mem_activeSources.mpr ⟨⟨_, hsrc⟩, hactive⟩
  cases hbest : tracker.bestActiveSource now.ms with
  | none =>
    rw [TimeSyncTracker.bestActiveSource_eq_none.mp hbest] at hmem
    cases hmem
  | some best =>
    -- the node hears of the other only
    obtain ⟨⟨key, hkey⟩, -⟩ :=
      TimeSyncTracker.mem_activeSources.mp (TimeSyncTracker.bestActiveSource_mem hbest)
    have hheard := hsound.heard key best hkey
    obtain ⟨j, hj, hmay⟩ := hheard.announced
    obtain rfl : j = !i := by
      refine Bool.eq_not_of_ne fun heq => hheard.other ?_
      rw [← hj, heq]
    have hsender : best.sender = el.senders !i := hheard.sender.trans hj.symm
    have hsource : tracker.cfg.role = .source := by rw [hsound.cfg, hrole]
    refine ⟨best.priority, hmay, ?_⟩
    have hleads : rt.LeadsAt now usable ↔ tracker.Leads tracker.cfg.priority best := by
      simp only [LeadsAt, leader, htracker, Option.bind_some,
        TimeSyncTracker.leader_eq_local_iff hsource, hbest, Option.some.injEq, forall_eq',
        exists_eq_left]
    rw [hleads, TimeSyncTracker.Leads, hsound.cfg, hsound.localId, hsender, Electorate.Earlier]

end TimeSyncRuntime

/-- Two sources that are told apart: whenever each holds the other's announcement, one leads and
the other does not. -/
theorem one_source_leads {S : Schema} (t : TimeSyncTypes S.DataType) (nodes : TimeSyncNodes Bool)
    (hrole : ∀ i, (nodes.cfgs i).role = .source)
    (hdecided : nodes.electorate.Decided) {actions : List (TimeSyncNetworkAction Bool S)}
    {n : TimeSyncNetwork Bool S}
    (hrun : Run (TimeSyncNetwork.step t nodes) anyStep (.initial nodes) actions n)
    (now : Bool → MonotonicTime) (usable : Bool → Bool)
    (hheld : ∀ i, (n.runtimes i).Holds (now i) (nodes.senders !i)) :
    ∃ i, (n.runtimes i).LeadsAt (now i) (usable i) ∧
      ¬(n.runtimes !i).LeadsAt (now !i) (usable !i) := by
  have hinv := TimeSyncNetwork.Inv.run hrole hrun
  have hnode (i : Bool) := @TimeSyncRuntime.Tracks.leadsAt_iff nodes.electorate i (n.runtimes i)
    (now i) (usable i) (hinv.runtimes i) (hrole i) (hheld i)
  obtain ⟨i, hbefore⟩ := hdecided.before fun i => (hnode i).1
  obtain ⟨-, second, hsecond, hfirst⟩ := hnode i
  obtain ⟨-, first, hmay, hother⟩ := hnode !i
  rw [Bool.not_not] at hmay
  obtain rfl := hbefore.mayAnnounce_other hsecond
  refine ⟨i, hfirst.mpr ?_, fun hleads => ?_⟩
  · rcases hbefore with hlt | ⟨heq, hearlier, -⟩
    · exact .inl hlt
    · exact .inr ⟨heq, hearlier⟩
  · have hle := hmay.le
    have hworse := hother.mp hleads
    rcases hbefore with hlt | ⟨heq, -, hlater⟩
    · simp only [UInt64.lt_iff_toNat_lt, ← UInt64.toNat_inj] at hlt hworse
      omega
    · rcases hworse with hlt | ⟨-, hearlier⟩
      · simp only [UInt64.lt_iff_toNat_lt, ← UInt64.toNat_inj] at hlt heq
        omega
      · exact hlater hearlier

/-- Two boards of the host build, which names its device in capitals. -/
def pairedNames (i : Bool) : String := if i then "alpha" else "bravo"

def pairedNodes (priorities : Bool → UInt64) : TimeSyncNodes Bool :=
  ⟨fun _ => hostBuild, pairedNames, fun i => { role := .source, priority := priorities i }⟩

/-- Each announces at the start, and then hears the other. -/
def exchangedAnnouncements (priorities : Bool → UInt64) :
    List (TimeSyncNetworkAction Bool defaultSchema) :=
  [.poll true ⟨0, 0⟩, .poll false ⟨0, 0⟩,
    .receive true (sourceAnnounce "bravo" (priorities false) 0) ⟨0, 0⟩,
    .receive false (sourceAnnounce "alpha" (priorities true) 0) ⟨0, 0⟩]

namespace TimeSyncRuntime

/-- What the runtime knows of the sender at the start, and whom it follows or that it leads. -/
def view (rt : TimeSyncRuntime) (sender : String) : Option (Bool × Option TimeSyncLeader) :=
  rt.tracker.map fun tracker =>
    ((tracker.sources[sender]?.map (tracker.isActive 0)).getD false, tracker.leader 0 true)

theorem holds_of_view {rt : TimeSyncRuntime} {sender : String} {leader : Option TimeSyncLeader}
    (h : rt.view sender = some (true, leader)) :
    rt.Holds ⟨0, 0⟩ sender ∧ rt.leader ⟨0, 0⟩ true = leader := by
  obtain ⟨tracker, htracker, hview⟩ := Option.map_eq_some_iff.mp h
  obtain ⟨hheld, hleader⟩ := Prod.mk.inj hview
  refine ⟨?_, by rw [TimeSyncRuntime.leader, htracker]; exact hleader⟩
  cases hsrc : tracker.sources[sender]? with
  | none => simp [hsrc] at hheld
  | some src => exact ⟨tracker, src, htracker, hsrc, by simpa [hsrc] using hheld⟩

end TimeSyncRuntime

/-- What each of two boards knows of the other at the start. -/
def TimeSyncNetwork.views (n : TimeSyncNetwork Bool defaultSchema) :
    Option (Bool × Option TimeSyncLeader) × Option (Bool × Option TimeSyncLeader) :=
  ((n.runtimes true).view "bravo", (n.runtimes false).view "alpha")

def betterFirst (i : Bool) : UInt64 := if i then 50 else 100

/-- A source of a better priority leads, and the other does not. -/
theorem one_source_leads_better :
    ∃ n : TimeSyncNetwork Bool defaultSchema,
      Run (TimeSyncNetwork.step defaultTimeSync (pairedNodes betterFirst)) anyStep
        (.initial (pairedNodes betterFirst)) (exchangedAnnouncements betterFirst) n ∧
      ∃ i, (n.runtimes i).LeadsAt ⟨0, 0⟩ true ∧ ¬(n.runtimes !i).LeadsAt ⟨0, 0⟩ true := by
  have hrun : (((exchangedAnnouncements betterFirst).foldlM
      (TimeSyncNetwork.step defaultTimeSync (pairedNodes betterFirst))
      (.initial (pairedNodes betterFirst))).map TimeSyncNetwork.views) =
        some (some (true, some (.local 50)), some (true, some (.remote ⟨"alpha", 50, 0, 0⟩))) := by
    decide +kernel
  obtain ⟨n, hexecuted, hviews⟩ := Option.map_eq_some_iff.mp hrun
  obtain ⟨htrue, hfalse⟩ := Prod.mk.inj hviews
  have hrun : Run (TimeSyncNetwork.step defaultTimeSync (pairedNodes betterFirst)) anyStep
      (.initial (pairedNodes betterFirst)) (exchangedAnnouncements betterFirst) n :=
    .of_foldlM (fun _ _ => trivial) hexecuted
  refine ⟨n, hrun, ?_⟩
  refine one_source_leads defaultTimeSync _ (fun _ => rfl) (.inl (by decide)) hrun
    (fun _ => ⟨0, 0⟩) (fun _ => true) fun i => ?_
  cases i with
  | true => exact (TimeSyncRuntime.holds_of_view htrue).1
  | false => exact (TimeSyncRuntime.holds_of_view hfalse).1

/-- Two sources of the default priority both lead: each finds `TEST_PLATFORM`, which it takes for
its own name, earlier than the other's. -/
theorem both_sources_lead :
    ∃ n : TimeSyncNetwork Bool defaultSchema,
      Run (TimeSyncNetwork.step defaultTimeSync (pairedNodes fun _ => 100)) anyStep
        (.initial (pairedNodes fun _ => 100)) (exchangedAnnouncements fun _ => 100) n ∧
      n.sent = [sourceAnnounce "bravo" 100 0, sourceAnnounce "alpha" 100 0] ∧
      ∀ i, (n.runtimes i).Holds ⟨0, 0⟩ (pairedNames !i) ∧
        (n.runtimes i).LeadsAt ⟨0, 0⟩ true := by
  have hrun : (((exchangedAnnouncements fun _ => 100).foldlM
      (TimeSyncNetwork.step defaultTimeSync (pairedNodes fun _ => 100))
      (.initial (pairedNodes fun _ => 100))).map fun n => (n.views, n.sent)) =
        some ((some (true, some (.local 100)), some (true, some (.local 100))),
          [sourceAnnounce "bravo" 100 0, sourceAnnounce "alpha" 100 0]) := by
    decide +kernel
  obtain ⟨n, hexecuted, hview⟩ := Option.map_eq_some_iff.mp hrun
  obtain ⟨hviews, hsent⟩ := Prod.mk.inj hview
  obtain ⟨htrue, hfalse⟩ := Prod.mk.inj hviews
  refine ⟨n, .of_foldlM (fun _ _ => trivial) hexecuted, hsent, fun i => ?_⟩
  cases i with
  | true => exact (TimeSyncRuntime.holds_of_view htrue).imp_right fun hleads => ⟨100, hleads⟩
  | false => exact (TimeSyncRuntime.holds_of_view hfalse).imp_right fun hleads => ⟨100, hleads⟩

end Sedsprintf
