import Sedsprintf.Router.Announce
import Sedsprintf.Relay.Announce
import Sedsprintf.Guarantees.Silence
import Sedsprintf.Guarantees.DiscoveryCodec

/-!
# Announcements are neither late nor many

However calls, announcements and changes of the topology follow each other, a node that is polled
and has a side to announce to has announced itself within the slow interval, and queued what it had
to say, unless an error cut that short. From a change of the topology on, polls alone make it
announce itself at intervals that double up to the slow one.
-/
namespace Sedsprintf

open Lib

namespace Announcing
variable {S : Schema} {σ : Type} {nodes : AnnouncerNode S σ → Prop} {others : σ → σ → Prop}
  {n : AnnouncerNode S σ} {s s' : Announcing S σ} {node : σ}

/-- A poll that goes through finds, or makes, an announcement less than the slow interval old, all
of whose packets were built and queued, if no announcement of that time was cut short. -/
theorem announced_recently (hrun : Relation.ReflTransGen (Step nodes others) (.initial node) s)
    (hlinks : n.links s.node ≠ []) {announced : Bool}
    (hpoll : n.pollDiscoveryAnnounce s = (s', .ok announced))
    (hclock : Backoff.Ordered 0 s'.history)
    (hwhole : ∀ a ∈ s.announcements, n.now.toNat < a.time + discoverySlowIntervalMs.toNat →
      a.finished = true) :
    ∃ a ∈ s'.announcements, a.time ≤ n.now.toNat ∧
      n.now.toNat < a.time + discoverySlowIntervalMs.toNat ∧ a.Complete := by
  have hsound := (Sound.initial node).run hrun
  have hready : n.Ready (n.links s.node) False s.announcements s :=
    ⟨hsound, rfl, fun h => h.elim, rfl⟩
  have hpolled := (AnnouncerNode.pollDiscoveryAnnounce_triple s hready).1 announced (by rw [hpoll])
  rw [hpoll] at hpolled
  have hnear : DiscoveryCadenceState.initial.timer.Near discoverySlowIntervalMs.toNat 0 [] :=
    .inl (Nat.zero_le _)
  have hfiring : ∃ sent ∈ firingsOf s'.history, sent ≤ n.now.toNat ∧
      n.now.toNat < sent + discoverySlowIntervalMs.toNat :=
    Backoff.exists_firing (by decide) (by decide) (by decide) hnear hclock (hpolled.noted hlinks)
  rw [← hpolled.sound.announced] at hfiring
  obtain ⟨sent, hsent, hle, hlt⟩ := hfiring
  obtain ⟨a, ha, rfl⟩ := List.mem_map.mp (List.mem_reverse.mp hsent)
  refine ⟨a, ha, hle, hlt, hpolled.sound.complete a ha ?_⟩
  rcases hpolled.finished a ha with hbefore | hfinished
  · exact hwhole a hbefore hlt
  · exact hfinished

/-- While only polls happen to a node whose interval is the fast one, as it is behind every change,
the first announcements are at least 250 ms, 500 ms, 1 s, 2 s, 4 s and from then on 5 s apart. -/
theorem announcements_back_off (hrun : Relation.ReflTransGen (Step nodes others) (.initial node) s)
    (hfast : s.cadence.currentIntervalMs = discoveryFastIntervalMs)
    (hmore : Relation.ReflTransGen (Step nodes others) s s') {start : Nat} {polls : List Nat}
    (hquiet : s'.history = s.history ++ Backoff.quiet polls)
    (hclock : Backoff.Ordered start (Backoff.quiet polls)) :
    ∃ later, s'.announcedAt = s.announcedAt ++ later ∧
      ∀ k f g, later[k]? = some f → later[k + 1]? = some g →
        min (f + min (discoveryFastIntervalMs.toNat * 2 ^ k) discoverySlowIntervalMs.toNat)
          DiscoveryCadenceState.lastMs ≤ g := by
  have hsound := (Sound.initial node).run hrun
  have hsound' := hsound.run hmore
  have hlater : s'.announcedAt = s.announcedAt ++ s.cadence.timer.firings
      discoveryFastIntervalMs.toNat discoverySlowIntervalMs.toNat DiscoveryCadenceState.lastMs
        (Backoff.quiet polls) := by
    rw [hsound'.announced, hquiet, firingsOf, Backoff.firings_append, ← firingsOf, ← timerAfter,
      ← hsound.announced, ← hsound.timer]
  refine ⟨_, hlater, fun k f g hf hg => ?_⟩
  have hspaced := Backoff.firings_spaced hclock hf hg
  have hinterval : s.cadence.timer.interval = discoveryFastIntervalMs.toNat :=
    congrArg UInt64.toNat hfast
  rwa [hinterval, Backoff.spacing_eq (by decide)] at hspaced

end Announcing

section Gateway

/-- A gateway without time sync, at some time. -/
def gatewayDiscovery (now : UInt64) : RouterDiscovery defaultSchema where
  types := defaultDiscovery
  discovery := discoveryEndpoint
  timeSync := none
  runtime := .new hostBuild none
  now := .ofMs now

def gatewayWorld (now : UInt64) : RouterWorld defaultSchema := { RouterWorld.gateway with now := now }

def gatewayAnnouncer (now : UInt64) : AnnouncerNode defaultSchema (RouterState defaultSchema) :=
  RouterState.announcer hostBuild (gatewayWorld now) (gatewayDiscovery now)
    ⟨(gatewayWorld now).cfg.sender, (gatewayWorld now).cfg.localDiscoveryEndpoints none, []⟩

theorem gatewayAnnouncer_announcers (now : UInt64) :
    RouterState.Announcers hostBuild (gatewayAnnouncer now) :=
  ⟨_, gatewayDiscovery now, _, rfl, rfl⟩

/-- A relay, at some time. -/
def announcingRelay (now : UInt64) : AnnouncerNode defaultSchema (RelayState defaultSchema) :=
  RelayState.announcer hostBuild ⟨now, fun _ _ => .accepting 0, fun _ _ s => s⟩
    ⟨defaultDiscovery, discoveryEndpoint⟩

theorem announcingRelay_announcers (now : UInt64) :
    RelayState.Announcers hostBuild (announcingRelay now) :=
  ⟨⟨now, _, _⟩, _, rfl⟩

/-- Polled at the times. -/
def Announcing.polledAt {S : Schema} {σ : Type} (node : UInt64 → AnnouncerNode S σ)
    (times : List UInt64) (s : Announcing S σ) : Announcing S σ :=
  times.foldl (fun s now => ((node now).pollDiscoveryAnnounce s).1) s

theorem Announcing.run_polledAt {S : Schema} {σ : Type} {nodes : AnnouncerNode S σ → Prop}
    {others : σ → σ → Prop} {node : UInt64 → AnnouncerNode S σ} (hnode : ∀ now, nodes (node now))
    (times : List UInt64) (s : Announcing S σ) :
    Relation.ReflTransGen (Step nodes others) s (s.polledAt node times) := by
  induction times generalizing s with
  | nil => exact Relation.ReflTransGen.refl
  | cons now rest ih => exact Relation.ReflTransGen.head (.poll s (hnode now)) (ih _)

/-- A gateway that was just made, with one link. -/
def linkedGateway (inner : RouterInner defaultSchema) : RouterState defaultSchema :=
  (RouterState.initial inner).behindCalls [.addSide .reliable]

/-- A relay that was just made, with one link. -/
def linkedRelay (inner : RelayInner defaultSchema) : RelayState defaultSchema :=
  (RelayState.initial inner).after hostBuild ⟨0, fun _ _ => .accepting 0, fun _ _ s => s⟩
    [.addSide .reliable]

/-- Of every announcement, when it was sent, how many packets were due and whether it finished. -/
def Announcing.tally {S : Schema} {σ : Type} (s : Announcing S σ) : List (Nat × Nat × Bool) :=
  s.announcements.map fun a => (a.time, (a.due.flatMap Announcement.owed).length, a.finished)

/-- That a poll finds links and whole announcements, and time never goes back; its result, and what
it leaves. -/
def Announcing.pollView {S : Schema} {σ : Type} (n : AnnouncerNode S σ) (s : Announcing S σ) :
    Bool × Option Bool × List (Nat × Nat × Bool) :=
  let r := n.pollDiscoveryAnnounce s
  (decide (n.links s.node ≠ [] ∧ (∀ a ∈ s.announcements, a.finished = true) ∧
    Backoff.Ordered 0 r.1.history), r.2.toOption, r.1.tally)

/-- Polled at 0, 100 and 250 ms a node has announced itself twice; a poll at 600 ms finds that. -/
theorem announced_recently_gateway :
    (∃ (inner : RouterInner defaultSchema) (s s' : Announcing defaultSchema (RouterState defaultSchema)),
      RouterInner.new hostBuild = .ok inner ∧
      AnnouncingRouterRun hostBuild 0 (.initial (linkedGateway inner)) s ∧
      (gatewayAnnouncer 600).pollDiscoveryAnnounce s = (s', .ok false) ∧
      s'.tally = [(250, 1, true), (0, 1, true)] ∧
      ∃ a ∈ s'.announcements, a.time ≤ 600 ∧ 600 < a.time + 5000 ∧ a.Complete) ∧
    ∃ (inner : RelayInner defaultSchema) (s s' : Announcing defaultSchema (RelayState defaultSchema)),
      RelayInner.new hostBuild = .ok inner ∧
      AnnouncingRelayRun hostBuild 0 (.initial (linkedRelay inner)) s ∧
      (announcingRelay 600).pollDiscoveryAnnounce s = (s', .ok false) ∧
      s'.tally = [(250, 1, true), (0, 1, true)] ∧
      ∃ a ∈ s'.announcements, a.time ≤ 600 ∧ 600 < a.time + 5000 ∧ a.Complete := by
  constructor
  · obtain ⟨inner, hnew, hview⟩ := Option.map_eq_some_iff.mp (show
      ((RouterInner.new hostBuild : Outcome (RouterInner defaultSchema)).toOption.map fun inner =>
        ((Announcing.initial (linkedGateway inner)).polledAt gatewayAnnouncer [0, 100, 250]).pollView
          (gatewayAnnouncer 600)) =
      some (true, some false, [(250, 1, true), (0, 1, true)]) from by decide +kernel)
    simp only [Announcing.pollView, Prod.mk.injEq, decide_eq_true_eq] at hview
    obtain ⟨⟨hlinks, hfinished, hclock⟩, hresult, htally⟩ := hview
    have hrun : AnnouncingRouterRun hostBuild 0 (.initial (linkedGateway inner)) _ :=
      Announcing.run_polledAt gatewayAnnouncer_announcers [0, 100, 250] _
    have hpoll : (gatewayAnnouncer 600).pollDiscoveryAnnounce ((Announcing.initial
        (linkedGateway inner)).polledAt gatewayAnnouncer [0, 100, 250]) = (_, .ok false) :=
      Prod.ext rfl (toOption_eq_some.mp hresult)
    exact ⟨inner, _, _, toOption_eq_some.mp hnew, hrun, hpoll, htally,
      Announcing.announced_recently hrun hlinks hpoll hclock fun a ha _ => hfinished a ha⟩
  · obtain ⟨inner, hnew, hview⟩ := Option.map_eq_some_iff.mp (show
      ((RelayInner.new hostBuild : Outcome (RelayInner defaultSchema)).toOption.map fun inner =>
        ((Announcing.initial (linkedRelay inner)).polledAt announcingRelay [0, 100, 250]).pollView
          (announcingRelay 600)) =
      some (true, some false, [(250, 1, true), (0, 1, true)]) from by decide +kernel)
    simp only [Announcing.pollView, Prod.mk.injEq, decide_eq_true_eq] at hview
    obtain ⟨⟨hlinks, hfinished, hclock⟩, hresult, htally⟩ := hview
    have hrun : AnnouncingRelayRun hostBuild 0 (.initial (linkedRelay inner)) _ :=
      Announcing.run_polledAt announcingRelay_announcers [0, 100, 250] _
    have hpoll : (announcingRelay 600).pollDiscoveryAnnounce ((Announcing.initial
        (linkedRelay inner)).polledAt announcingRelay [0, 100, 250]) = (_, .ok false) :=
      Prod.ext rfl (toOption_eq_some.mp hresult)
    exact ⟨inner, _, _, toOption_eq_some.mp hnew, hrun, hpoll, htally,
      Announcing.announced_recently hrun hlinks hpoll hclock fun a ha _ => hfinished a ha⟩

theorem announcements_back_off_gateway : ∃ (inner : RouterInner defaultSchema)
    (s s' : Announcing defaultSchema (RouterState defaultSchema)),
    RouterInner.new hostBuild = .ok inner ∧
    AnnouncingRouterRun hostBuild 0 s s' ∧ s'.announcedAt = [0, 250] ∧
    ∃ later, s'.announcedAt = s.announcedAt ++ later ∧
      ∀ k f g, later[k]? = some f → later[k + 1]? = some g →
        min (f + min (250 * 2 ^ k) 5000) (2 ^ 64 - 1) ≤ g := by
  obtain ⟨inner, hnew, hview⟩ := Option.map_eq_some_iff.mp (show
    ((RouterInner.new hostBuild : Outcome (RouterInner defaultSchema)).toOption.map fun inner =>
      let s := (Announcing.initial (linkedGateway inner)).polledAt gatewayAnnouncer [0, 100, 250]
      (s.history, s.announcedAt)) = some (Backoff.quiet [0, 100, 250], [0, 250])
    from by decide +kernel)
  obtain ⟨hhistory, hannounced⟩ := Prod.mk.inj hview
  have hrun : AnnouncingRouterRun hostBuild 0 (.initial (linkedGateway inner)) _ :=
    Announcing.run_polledAt gatewayAnnouncer_announcers [0, 100, 250] _
  have hquiet : ((Announcing.initial (linkedGateway inner)).polledAt gatewayAnnouncer
      [0, 100, 250]).history = (Announcing.initial (S := defaultSchema)
        (linkedGateway inner)).history ++ Backoff.quiet [0, 100, 250] := hhistory
  have hclock : Backoff.Ordered 0 (Backoff.quiet [0, 100, 250]) := by decide
  exact ⟨inner, _, _, toOption_eq_some.mp hnew, hrun, hannounced,
    Announcing.announcements_back_off .refl rfl hrun hquiet hclock⟩

end Gateway
end Sedsprintf
