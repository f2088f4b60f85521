import Sedsprintf.Relay.Forwarding

/-!
# What a relay makes of what it receives

Over whole runs, with any order of calls and callbacks that call the relay in turn: what a relay
sends on its own account, frames that a hop sends again apart, is no more of anything than it was
given, never goes back to where it came from, and is nothing but what it was given. Within the
reach of its window the id of an unreliable item is forwarded once.
-/
namespace Sedsprintf

open Lib

namespace RelayEvent
variable (B : Build) {S : Schema}

/-- A received item with its side, in the form it is dispatched in. -/
def received? : RelayEvent S → Option (Nat × RouterItem S)
  | .received src data => some (src, data.relayed B)
  | _ => none

/-- A received item that the callback of `side` has taken from the queue. -/
def takenAt? (side : Nat) : RelayEvent S → Option (Nat × RouterItem S)
  | .sent (some src) dst data _ true => if dst = side then some (src, data) else none
  | _ => none

def remembered? : RelayEvent S → Option UInt64
  | .remembered packetId => some packetId
  | _ => none

/-- The id of a forwarded unreliable item. -/
def forwardedId? : RelayEvent S → Option UInt64
  | .forwarded _ data _ => data.key B
  | _ => none

variable {B} (e : RelayEvent S)

theorem accepted?_passage : (e.passage B).accepted? = e.received? B := by
  cases e with
  | sent src dst data wire taken => cases src <;> cases taken <;> rfl
  | _ => rfl

theorem givenTo?_passage (side : Nat) : (e.passage B).givenTo? side = e.takenAt? side := by
  cases e with
  | sent src dst data wire taken => cases src <;> cases taken <;> rfl
  | _ => rfl

theorem noted?_passage : (e.passage B).noted? = e.remembered? := by
  cases e with
  | sent src dst data wire taken => cases src <;> cases taken <;> rfl
  | _ => rfl

theorem key?_passage : (e.passage B).key? (RouterItem.key B) = e.forwardedId? B := by
  cases e with
  | sent src dst data wire taken => cases src <;> cases taken <;> rfl
  | _ => rfl

end RelayEvent

/-- What holds of the events of a relay, frames that a hop sends again apart: no callback takes
more of an item than was received of it; no callback is that of the item's source; every callback
is called with the item's packet. -/
structure RelaysFaithfully (B : Build) {S : Schema} (events : List (RelayEvent S)) : Prop where
  no_more : ∀ side, (events.filterMap (RelayEvent.takenAt? side)).Subperm
    (events.filterMap (RelayEvent.received? B))
  not_back : ∀ src dst data wire taken, .sent src dst data wire taken ∈ events → src ≠ some dst
  unaltered : ∀ src dst data wire taken, .sent src dst data wire taken ∈ events →
    data.Conveys B wire

section Relaying
variable {B : Build} {S : Schema} {inner : RelayInner S} {n m : Nat} {s s' : RelayState S}

/-- What a forwarder has done of what the relay shows. -/
theorem RelayState.Shows.filterMap {hand : Multiset (Nat × RouterItem S)}
    {out : Nat → Multiset (Nat × RouterItem S)} {fresh : Multiset UInt64} {f : RelayForwarder S}
    (h : s.Shows B hand out fresh f) {β : Type} {g : Passage Nat (RouterItem S) UInt64 → Option β}
    {g' : RelayEvent S → Option β} (hg : ∀ e, g (e.passage B) = g' e) :
    f.log.filterMap g = s.events.filterMap g' := by
  rw [h.log, List.filterMap_map]
  exact List.filterMap_congr fun e _ => hg e

/-- **A relay only hands on.** -/
theorem relays_faithfully (hnew : RelayInner.new B = .ok inner)
    (hrun : RelayRun B n (.initial inner) s) : RelaysFaithfully B s.events := by
  obtain ⟨f, hforward, hshows⟩ := hrun.forwards _ _
    ⟨_, Relation.ReflTransGen.refl, RelayState.shows_initial hnew⟩
  refine ⟨fun side => ?_, fun src dst data wire taken he => ?_, fun src dst data wire taken he => ?_⟩
  · have hgiven := Forwarder.given_le_accepted hforward side
    rw [Forwarder.tally, Forwarder.tally, hshows.filterMap (RelayEvent.givenTo?_passage · side),
      hshows.filterMap RelayEvent.accepted?_passage] at hgiven
    exact Multiset.coe_le.mp hgiven
  · exact (hshows.faithful _ he).1
  · exact (hshows.faithful _ he).2

/-- A battery status from `fc`. -/
def batteryStatus : Packet defaultSchema where
  ty := 2
  dataSize := 8
  sender := "fc"
  endpoints := [1, 0]
  timestamp := 7
  payload := .inline 8 [0, 0, 64, 65, 0, 0, 0, 64]

/-- Callbacks that take everything. -/
def RelayWorld.accepting {S : Schema} : RelayWorld S := ⟨0, fun _ _ => .accepting 0, fun _ _ s => s⟩

/-- Two sides of a relay. -/
def addTwoSides : List (RelayCall defaultSchema) :=
  [.addSide ⟨.packet, ⟨false, false, true, true⟩⟩, .addSide ⟨.packet, ⟨false, false, true, true⟩⟩]

theorem relays_faithfully_battery :
    ∃ (inner : RelayInner defaultSchema) (s : RelayState defaultSchema),
      RelayInner.new hostBuild = .ok inner ∧ RelayRun hostBuild 1 (.initial inner) s ∧
      s.events.filterMap (RelayEvent.takenAt? 1) = [(0, .packet batteryStatus)] ∧
      RelaysFaithfully hostBuild s.events := by
  obtain ⟨inner, hnew⟩ : ∃ inner, RelayInner.new (S := defaultSchema) hostBuild = .ok inner :=
    ⟨_, rfl⟩
  have hrun : RelayRun hostBuild 1 (.initial inner) ((RelayState.initial inner).after hostBuild
      .accepting (addTwoSides ++ [.rxFromSide 0 (.packet batteryStatus), .processRx, .processTx])) :=
    .after (fun _ _ _ => rfl) _ _
  refine ⟨inner, _, hnew, hrun, ?_, relays_faithfully hnew hrun⟩
  obtain rfl := Except.ok.inj hnew
  decide +kernel

/-- **No loops within the window.** While fewer ids are recorded than the window of recent ids
holds, no packet id is forwarded twice by unreliable items. -/
theorem forwards_once (hwindow : B.Windowed) (hnew : RelayInner.new B = .ok inner)
    (hrun : RelayRun B n (.initial inner) s) (hlater : RelayRun B m s s')
    (hfew : ((s'.events.drop s.events.length).filterMap RelayEvent.remembered?).dedup.length <
      B.maxRecentRxIds) :
    ((s'.events.drop s.events.length).filterMap (RelayEvent.forwardedId? B)).Nodup := by
  obtain ⟨f, hforward, hshows⟩ := hrun.forwards _ _
    ⟨_, Relation.ReflTransGen.refl, RelayState.shows_initial hnew⟩
  obtain ⟨f', hforward', hshows'⟩ := hlater.forwards f _ ⟨f, Relation.ReflTransGen.refl, hshows⟩
  have hrecent := hshows.recent hwindow
  have hrun' : Forwarder.Run (RouterItem.key B) B.maxRecentRxIds True f f' := by
    have htrue : B.Windowed = True := eq_true hwindow
    rwa [RelayForwarder.Run, htrue] at hforward'
  obtain ⟨since, hlog, honce⟩ := Forwarder.passed_once (Nat.pos_of_ne_zero hwindow.1) hshows.fresh
    (hshows.window hwindow ▸ hrecent.nodup) (hshows.window hwindow ▸ hrecent.length_le) hrun'
  have hsince : (s'.events.drop s.events.length).map (RelayEvent.passage B) = since := by
    rw [List.map_drop, ← hshows'.log, hlog, hshows.log]
    exact List.drop_left' (List.length_map _)
  have hkinds : ∀ {β : Type} {g : Passage Nat (RouterItem S) UInt64 → Option β}
      {g' : RelayEvent S → Option β}, (∀ e, g (e.passage B) = g' e) →
      since.filterMap g = (s'.events.drop s.events.length).filterMap g' := by
    intro β g g' hg
    rw [← hsince, List.filterMap_map]
    exact List.filterMap_congr fun e _ => hg e
  have hlength : Forwarder.Few B.maxRecentRxIds since := by
    unfold Forwarder.Few
    rwa [hkinds RelayEvent.noted?_passage]
  rw [← hkinds RelayEvent.key?_passage]
  exact honce hlength

set_option maxRecDepth 4000 in
/-- The same packet from both sides. -/
theorem forwards_once_battery :
    ∃ (inner : RelayInner defaultSchema) (s s' : RelayState defaultSchema),
      RelayInner.new hostBuild = .ok inner ∧ RelayRun hostBuild 1 (.initial inner) s ∧
      RelayRun hostBuild 1 s s' ∧
      (s'.events.drop s.events.length).filterMap (RelayEvent.received? hostBuild) =
        [(0, .packet batteryStatus), (1, .packet batteryStatus)] ∧
      ((s'.events.drop s.events.length).filterMap (RelayEvent.forwardedId? hostBuild)).Nodup := by
  obtain ⟨inner, hnew⟩ : ∃ inner, RelayInner.new (S := defaultSchema) hostBuild = .ok inner :=
    ⟨_, rfl⟩
  have hrun : RelayRun hostBuild 1 (.initial inner) ((RelayState.initial inner).after hostBuild
      .accepting addTwoSides) := .after (fun _ _ _ => rfl) _ _
  have hlater : RelayRun hostBuild 1 ((RelayState.initial inner).after hostBuild .accepting
      addTwoSides) (((RelayState.initial inner).after hostBuild .accepting addTwoSides).after hostBuild
        .accepting [.rxFromSide 0 (.packet batteryStatus), .rxFromSide 1 (.packet batteryStatus),
          .processRx, .processRx]) := .after (fun _ _ _ => rfl) _ _
  refine ⟨inner, _, _, hnew, hrun, hlater, ?_, forwards_once ⟨by decide, by decide⟩ hnew hrun hlater ?_⟩
  · obtain rfl := Except.ok.inj hnew
    decide +kernel
  · obtain rfl := Except.ok.inj hnew
    decide +kernel

end Relaying
end Sedsprintf
