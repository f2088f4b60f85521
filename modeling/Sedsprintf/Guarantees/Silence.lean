import Sedsprintf.Guarantees.Fanout
import Sedsprintf.Guarantees.Retransmission
import Sedsprintf.Router.Steps

/-!
# Disabled and removed sides are silent

Sends follow a plan or check the route, hop replays check the side, and end-to-end replays go
to the sides the reconciliation in front of them found allowed.
-/
namespace Sedsprintf

open Lib

section Silence
variable {B : Build} {S : Schema} {w : RouterWorld S} {note : Option CacheNote}
  {s s' : RouterState S}

/-- No TX callback was reached on a side that was removed or had egress off. -/
def RouterState.Silent (s : RouterState S) : Prop := ∀ side, .transmitted side false ∉ s.events

/-- Only one kind of step records that TX callbacks are reached. -/
theorem CallStep.silent (h : CallStep B w note s s') (hs : s.Silent) : s'.Silent := by
  intro side hmem
  cases h with
  | other new hsame hevents hordinary =>
    rw [hevents] at hmem
    rcases List.mem_append.mp hmem with hold | hnew
    · exact hs side hold
    · cases hordinary _ hnew
  | track _ hid hexpected => exact hs side (by simpa using hmem)
  | endToEndAck _ hpacket hack => exact hs side (by simpa using hmem)
  | reconcile => exact hs side (by simpa [RouterProgram.reconcileEndToEnd] using hmem)
  | timeouts => exact hs side (by simpa using hmem)
  | _ => exact hs side hmem

end Silence

/-- In every single-threaded run, whatever was queued, numbered or tracked before. -/
theorem sides_silent {B : Build} {S : Schema} {inner : RouterInner S} {n : Nat} {s : RouterState S}
    (hnew : RouterInner.new B = .ok inner) (hrun : RouterRun B n (.initial inner) s) (side : Nat) :
    .transmitted side false ∉ s.events := by
  have hstart : (RouterState.initial inner).Silent := fun _ hmem => by cases hmem
  have hinv := @RouterRun.invariant S B (fun s => s.Silent ∧ s.inner.EntriesSound)
    (fun hstep hs => ⟨hstep.silent hs.1, hstep.sound hs.2⟩) (fun _ hs => hs.2) n _ s hrun
    ⟨hstart, RouterInner.entriesSound_new hnew⟩
  exact hinv.1 side

section Links

/-- The calls one after the other, with callbacks that take everything. -/
def RouterState.behindCalls (s : RouterState defaultSchema)
    (calls : List (RouterCall defaultSchema)) : RouterState defaultSchema :=
  calls.foldl (fun s call => (call.run hostBuild .gateway 0 s).1) s

theorem RouterState.run_behindCalls (s : RouterState defaultSchema)
    (calls : List (RouterCall defaultSchema)) : RouterRun hostBuild 1 s (s.behindCalls calls) := by
  have hreacts : RouterWorld.gateway.Reacts (Layered (RouterCall.Step hostBuild) 0) :=
    ⟨fun _ _ => rfl, fun _ _ _ => rfl⟩
  induction calls generalizing s with
  | nil => exact Relation.ReflTransGen.refl
  | cons call rest ih =>
    exact Relation.ReflTransGen.head ⟨.gateway, 0, call, hreacts, rfl⟩ (ih _)

/-- A link is added, two readings are queued, and the link is disabled behind the first. -/
def disabledBetween : List (RouterCall defaultSchema) :=
  [.addSide .reliable, .txQueue (.packet batteryPacket),
    .txQueue (.packet { batteryPacket with timestamp := 301 }), .processTx,
    .setSideEgressEnabled 0 false, .processTx]

/-- The first reading goes out, the second one does not. -/
theorem sides_silent_battery : ∃ (inner : RouterInner defaultSchema) (s : _),
    RouterInner.new hostBuild = .ok inner ∧ RouterRun hostBuild 1 (.initial inner) s ∧
    s.events.countP (fun event => event matches .transmitted 0 true) = 1 ∧
    s.inner.transmitQueue.q.length = 0 ∧ .transmitted 0 false ∉ s.events := by
  obtain ⟨inner, hnew, hview⟩ := Option.map_eq_some_iff.mp (show
    ((RouterInner.new hostBuild : Outcome (RouterInner defaultSchema)).toOption.map fun inner =>
      let s := (RouterState.initial inner).behindCalls disabledBetween
      (s.events.countP (fun event => event matches .transmitted 0 true),
        s.inner.transmitQueue.q.length)) = some (1, 0) from by decide +kernel)
  obtain ⟨hsent, hqueue⟩ := Prod.mk.inj hview
  have hnew := toOption_eq_some.mp hnew
  have hrun := RouterState.run_behindCalls (.initial inner) disabledBetween
  exact ⟨inner, _, hnew, hrun, hsent, hqueue, sides_silent hnew hrun 0⟩

end Links
end Sedsprintf
