import Sedsprintf.TimeSync.Tracker
import Sedsprintf.Lib.Runs
import Mathlib.Logic.Function.Basic

/-!
# Elections among sources

Any number of trackers that announce and receive in any order. An announcement may be received
late, more than once or never, and every node reads a clock of its own. What a node can come
to announce depends on the configurations alone, and bounds what the others hold of it.
-/
namespace Sedsprintf

open Lib

/-- What the nodes are: the name each announces itself by, the one its tracker takes for its
own, and its configuration. -/
structure Electorate (ι : Type) where
  senders : ι → String
  localIds : ι → String
  cfgs : ι → TimeSyncConfig

namespace Electorate
variable {ι : Type}

/-- Nodes whose trackers know them by the name they announce. -/
def named (names : ι → String) (cfgs : ι → TimeSyncConfig) : Electorate ι := ⟨names, names, cfgs⟩

/-- The priorities a node can come to announce: its own, and the one below while it leads a
tie. -/
inductive MayAnnounce (el : Electorate ι) : ι → UInt64 → Prop
  | own (i : ι) : MayAnnounce el i (el.cfgs i).priority
  | tied {i j : ι} (h : MayAnnounce el j (el.cfgs i).priority)
      (hother : el.senders j ≠ el.senders i) (hname : el.localIds i < el.senders j) :
      MayAnnounce el i (saturatingSub (el.cfgs i).priority 1)

/-- The node can come to lead a tie, and to announce one better than its own priority. -/
def Undercuts (el : Electorate ι) (i : ι) : Prop :=
  ∃ j, el.senders j ≠ el.senders i ∧ el.localIds i < el.senders j ∧
    el.MayAnnounce j (el.cfgs i).priority

theorem MayAnnounce.cases {el : Electorate ι} {i : ι} {priority : UInt64} (h : el.MayAnnounce i priority) :
    priority = (el.cfgs i).priority ∨
      priority = saturatingSub (el.cfgs i).priority 1 ∧ el.Undercuts i := by
  cases h with
  | own => exact .inl rfl
  | tied hmay hother hname => exact .inr ⟨rfl, _, hother, hname, hmay⟩

end Electorate

/-- The trackers, and every announcement made so far. -/
structure Election (ι : Type) (S : Schema) where
  trackers : ι → TimeSyncTracker
  sent : List (Packet S)

inductive ElectionAction (ι : Type) (S : Schema) where
  | announce (node : ι) (now : UInt64) (usable : Bool) (timeMs : UInt64)
  | receive (node : ι) (pkt : Packet S) (now : UInt64)
  | refresh (node : ι) (now : UInt64)

namespace Election
variable {ι : Type} [DecidableEq ι] {S : Schema}

def initial (el : Electorate ι) : Election ι S :=
  ⟨fun i => .new (el.localIds i) (el.cfgs i), []⟩

def update (e : Election ι S) (node : ι) (tracker : TimeSyncTracker) : Election ι S :=
  { e with trackers := Function.update e.trackers node tracker }

/-- A node announces when it leads, and takes what others announced. -/
def step (B : Build) (t : TimeSyncTypes S.DataType) (el : Electorate ι) (e : Election ι S) :
    ElectionAction ι S → Option (Election ι S)
  | .announce node now usable timeMs => do
    let priority ← (e.trackers node).localAnnouncePriority now usable
    let pkt ← (logRaw B (el.senders node) t.announce [priority, timeMs] timeMs).toOption
    some { e with sent := pkt :: e.sent }
  | .receive node pkt now =>
    if pkt ∈ e.sent ∧ pkt.sender ≠ el.senders node then do
      let tracker ← (TimeSyncTracker.handleAnnounce B t (e.trackers node) pkt now).toOption
      some (e.update node tracker)
    else none
  | .refresh node now => some (e.update node ((e.trackers node).refresh now))

section Invariant
variable {B : Build} {t : TimeSyncTypes S.DataType} {el : Electorate ι} {e e' : Election ι S}

/-- A source announced within its means, and is neither the node nor what it takes itself
for. -/
structure Heard (el : Electorate ι) (i : ι) (key : String) (src : TimeSyncSource) : Prop where
  sender : src.sender = key
  other : key ≠ el.senders i
  foreign : key ≠ el.localIds i
  announced : ∃ j, el.senders j = key ∧ el.MayAnnounce j src.priority

/-- A tracker of the node, whose sources announced within their means. -/
structure Sound (el : Electorate ι) (i : ι) (tracker : TimeSyncTracker) : Prop where
  cfg : tracker.cfg = el.cfgs i
  localId : tracker.localId = el.localIds i
  heard : ∀ (key : String) (src : TimeSyncSource), tracker.sources[key]? = some src →
    Heard el i key src

/-- An announcement of one of the nodes. -/
def Announced (t : TimeSyncTypes S.DataType) (el : Electorate ι) (pkt : Packet S) : Prop :=
  ∀ B ann, decodeTimesyncAnnounce B t pkt = .ok ann →
    ∃ j, el.senders j = pkt.sender ∧ el.MayAnnounce j ann.priority

omit [DecidableEq ι] in
theorem announced_of_logRaw {i : ι} {priority time timestamp : UInt64} {pkt : Packet S}
    (hmay : el.MayAnnounce i priority)
    (hpkt : logRaw B (el.senders i) t.announce [priority, time] timestamp = .ok pkt) :
    Announced t el pkt := by
  intro B' ann hdecode
  refine ⟨i, (logRaw_eq_ok B hpkt).2.1.symm, ?_⟩
  rw [decodeTimesyncAnnounce_logRaw B hpkt hdecode]
  exact hmay

structure Inv (t : TimeSyncTypes S.DataType) (el : Electorate ι) (e : Election ι S) : Prop where
  trackers : ∀ i, Sound el i (e.trackers i)
  sent : ∀ pkt ∈ e.sent, Announced t el pkt

omit [DecidableEq ι] in
theorem Inv.initial : Inv t el (Election.initial el : Election ι S) where
  trackers _ := ⟨rfl, rfl, fun key src h => by simp [Election.initial, TimeSyncTracker.new] at h⟩
  sent pkt h := by cases h

omit [DecidableEq ι] in
theorem Sound.refresh {i : ι} {tracker : TimeSyncTracker} (h : Sound el i tracker) (now : UInt64) :
    Sound el i (tracker.refresh now) where
  cfg := h.cfg
  localId := h.localId
  heard key src hsrc := h.heard key src (TimeSyncTracker.sources_of_refresh hsrc)

omit [DecidableEq ι] in
theorem Sound.noteAnnounce {i : ι} {tracker : TimeSyncTracker} (h : Sound el i tracker)
    {pkt : Packet S} {ann : TimeSyncAnnounceFields} (hpkt : Announced t el pkt)
    (hother : pkt.sender ≠ el.senders i) (hann : decodeTimesyncAnnounce B t pkt = .ok ann)
    (now : UInt64) :
    Sound el i (tracker.noteAnnounce pkt.sender ann now) where
  cfg := TimeSyncTracker.noteAnnounce_cfg.trans h.cfg
  localId := TimeSyncTracker.noteAnnounce_localId.trans h.localId
  heard key src hsrc := by
    rcases TimeSyncTracker.sources_of_noteAnnounce hsrc with hold | ⟨rfl, hforeign, rfl⟩
    · exact h.heard key src hold
    · exact ⟨rfl, hother, h.localId ▸ hforeign, hpkt B ann hann⟩

omit [DecidableEq ι] in
/-- A source announces within its means. -/
theorem Sound.mayAnnounce {i : ι} {tracker : TimeSyncTracker} (h : Sound el i tracker)
    (hrole : (el.cfgs i).role = .source) {now : UInt64} {usable : Bool} {priority : UInt64}
    (hann : tracker.localAnnouncePriority now usable = some priority) :
    el.MayAnnounce i priority := by
  have hsource : tracker.cfg.role = .source := by rw [h.cfg, hrole]
  have hcases := TimeSyncTracker.localAnnouncePriority_cases hsource hann
  rw [h.cfg, h.localId] at hcases
  rcases hcases with rfl | ⟨rfl, src, hsrc, hprio, hname⟩
  · exact .own i
  · obtain ⟨⟨key, hkey⟩, -⟩ := TimeSyncTracker.mem_activeSources.mp hsrc
    have hheard := h.heard key src hkey
    obtain ⟨j, hj, hmay⟩ := hheard.announced
    have hother := hheard.other
    rw [hprio] at hmay
    rw [hheard.sender, ← hj] at hname
    rw [← hj] at hother
    exact .tied hmay hother hname

theorem Inv.update (h : Inv t el e) {i : ι} {tracker : TimeSyncTracker}
    (hsound : Sound el i tracker) : Inv t el (e.update i tracker) where
  trackers j := by
    rw [Election.update]
    by_cases heq : j = i
    · subst heq
      simpa using hsound
    · simpa [Function.update_of_ne heq] using h.trackers j
  sent := h.sent

theorem Inv.step (hrole : ∀ i, (el.cfgs i).role = .source) {a : ElectionAction ι S}
    (h : Inv t el e) (hstep : e.step B t el a = some e') : Inv t el e' := by
  cases a with
  | announce node now usable timeMs =>
    obtain ⟨priority, hann, hstep⟩ := Option.bind_eq_some_iff.mp hstep
    obtain ⟨pkt, hpkt, hstep⟩ := Option.bind_eq_some_iff.mp hstep
    obtain rfl := Option.some.inj hstep
    have hpkt := toOption_eq_some.mp hpkt
    have hmay := (h.trackers node).mayAnnounce (hrole node) hann
    exact ⟨h.trackers, List.forall_mem_cons.mpr ⟨announced_of_logRaw hmay hpkt, h.sent⟩⟩
  | receive node pkt now =>
    simp only [Election.step] at hstep
    split at hstep
    · rename_i hmem
      obtain ⟨hmem, hother⟩ := hmem
      obtain ⟨tracker, hhandled, hstep⟩ := Option.bind_eq_some_iff.mp hstep
      obtain rfl := Option.some.inj hstep
      obtain ⟨ann, hann, hhandled⟩ := bind_eq_ok.mp (toOption_eq_some.mp hhandled)
      obtain rfl := Except.ok.inj hhandled
      exact h.update ((h.trackers node).noteAnnounce (h.sent pkt hmem) hother hann now)
    · cases hstep
  | refresh node now =>
    obtain rfl := Option.some.inj hstep
    exact h.update ((h.trackers node).refresh now)

/-- In every run. -/
theorem Inv.run (hrole : ∀ i, (el.cfgs i).role = .source) {actions : List (ElectionAction ι S)}
    (hrun : Run (Election.step B t el) anyStep (Election.initial el) actions e) : Inv t el e :=
  hrun.invariant (Inv t el) (fun hinv _ hstep => hinv.step hrole hstep) .initial

end Invariant
end Election
end Sedsprintf
