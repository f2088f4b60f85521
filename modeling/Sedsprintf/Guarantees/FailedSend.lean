import Sedsprintf.Router.System
import Sedsprintf.Relay.System
import Sedsprintf.Wire.RoundTrip

/-!
# Failed reliable sends

`send_reliable_to_side` takes its number under one lock and records the frame
under another; between them a busy gate or a failing callback leaves with an
error and without the number.
-/
namespace Sedsprintf

open Lib

/-- A call that returns `Err` leaves every stream alone exactly when it does not take
a number that the link then refuses, and along runs without such a call the numbers
handed out with success on a stream are contiguous from one. The same for a relay. -/
theorem failed_send_leaves_no_gap {B : Build} {S : Schema} :
    (∀ (reliable : Bool) (now : UInt64) (tx : SideTx S) (st : RouterInner S) (side : Nat)
        (data : RouterItem S), data.Resident B →
      (((∃ e, (st.sendReliableToSide B reliable now tx side data).result = fail e) →
          ∀ key, (st.sendReliableToSide B reliable now tx side data).streams.at key =
            st.reliableTx.at key) ↔
        ¬st.SendFailsNumbered B reliable now tx side data)) ∧
    (∀ (reliable : Bool) (inner : RouterInner S) (s : RouterSystem S)
        (actions : List (RouterSystem.Action B S)), RouterInner.new B = .ok inner →
      Run (RouterSystem.step B reliable) (RouterSystem.SendsWhole B reliable) (.initial inner)
        actions s →
      ∀ key, s.history.handedOn key = (List.range (s.history.frames key)).map seqAt) ∧
    (∀ (now : UInt64) (tx : SideTx S) (st : RelayInner S) (side : Nat) (data : RouterItem S),
      data.Resident B →
      (((∃ e, (st.sendReliableToSide B now tx side data).result = fail e) →
          ∀ key, (st.sendReliableToSide B now tx side data).streams.at key =
            st.reliableTx.at key) ↔
        ¬st.SendFailsNumbered B now tx side data)) ∧
    (∀ (inner : RelayInner S) (s : RelaySystem S) (actions : List (RelaySystem.Action B S)),
      RelayInner.new B = .ok inner →
      Run (RelaySystem.step B) (RelaySystem.SendsWhole B) (.initial inner) actions s →
      ∀ key, s.history.handedOn key = (List.range (s.history.frames key)).map seqAt) := by
  refine ⟨?_, ?_, ?_, ?_⟩
  · intro reliable now tx st side data hresident
    exact RouterInner.sendReliableToSide_unchanged_iff hresident
  · intro reliable inner s actions hnew hrun
    exact (RouterSystem.sound_of_run hnew hrun).2 fun _ _ h => h
  · intro now tx st side data hresident
    exact RelayInner.sendReliableToSide_unchanged_iff hresident
  · intro inner s actions hnew hrun
    exact (RelaySystem.sound_of_run hnew hrun).2 fun _ _ h => h

/-- Two fixes go out through a router and through a relay under the numbers one and
two. -/
theorem failed_send_leaves_no_gap_gps :
    (∃ (inner : RouterInner defaultSchema) (s : RouterSystem defaultSchema),
      RouterInner.new hostBuild = .ok inner ∧
      Run (RouterSystem.step hostBuild true) (RouterSystem.SendsWhole hostBuild true)
        (.initial inner)
        [.addSide .reliable, .send 0 (.packet gpsPacket) (by decide) (.accepting 0) 0,
          .send 0 (.packet gpsPacket) (by decide) (.accepting 10) 10] s ∧
      s.history.handedOn ⟨0, gpsPacket.ty⟩ = [1, 2]) ∧
    (∃ (inner : RelayInner defaultSchema) (s : RelaySystem defaultSchema),
      RelayInner.new hostBuild = .ok inner ∧
      Run (RelaySystem.step hostBuild) (RelaySystem.SendsWhole hostBuild) (.initial inner)
        [.addSide .reliable, .send 0 (.packet gpsPacket) (by decide) (.accepting 0) 0,
          .send 0 (.packet gpsPacket) (by decide) (.accepting 10) 10] s ∧
      s.history.handedOn ⟨0, gpsPacket.ty⟩ = [1, 2]) := by
  obtain ⟨-, hrouter, -, hrelay⟩ := @failed_send_leaves_no_gap hostBuild defaultSchema
  constructor
  · obtain ⟨inner, s, hnew, hrun, hframes⟩ := @System.run_of_execute defaultSchema _ _
      (RouterSystem.step hostBuild true)
      [.addSide .reliable, .send 0 (.packet gpsPacket) (by decide) (.accepting 0) 0,
        .send 0 (.packet gpsPacket) (by decide) (.accepting 10) 10] _
      (fun s : RouterSystem defaultSchema => s.history.frames ⟨0, gpsPacket.ty⟩) 2
      (RouterInner.new hostBuild) (by decide +kernel)
    have hwhole := @Run.imp _ _ _ _ _ _ _ (RouterSystem.SendsWhole hostBuild true) hrun fun s a ha _ => by
      simp only [List.mem_cons, List.not_mem_nil, or_false] at ha
      rcases ha with rfl | rfl | rfl
      · trivial
      · rintro ⟨_, _, -, -, -, hrefused⟩
        exact SideTx.not_accepting_refuses _ _ _ hrefused
      · rintro ⟨_, _, -, -, -, hrefused⟩
        exact SideTx.not_accepting_refuses _ _ _ hrefused
    refine ⟨inner, s, hnew, hwhole, ?_⟩
    rw [hrouter true inner s _ hnew hwhole, hframes]
    decide
  · obtain ⟨inner, s, hnew, hrun, hframes⟩ := @System.run_of_execute defaultSchema _ _
      (RelaySystem.step hostBuild)
      [.addSide .reliable, .send 0 (.packet gpsPacket) (by decide) (.accepting 0) 0,
        .send 0 (.packet gpsPacket) (by decide) (.accepting 10) 10] _
      (fun s : RelaySystem defaultSchema => s.history.frames ⟨0, gpsPacket.ty⟩) 2
      (RelayInner.new hostBuild) (by decide +kernel)
    have hwhole := @Run.imp _ _ _ _ _ _ _ (RelaySystem.SendsWhole hostBuild) hrun fun s a ha _ => by
      simp only [List.mem_cons, List.not_mem_nil, or_false] at ha
      rcases ha with rfl | rfl | rfl
      · trivial
      · rintro ⟨_, _, -, -, -, hrefused⟩
        exact SideTx.not_accepting_refuses _ _ _ hrefused
      · rintro ⟨_, _, -, -, -, hrefused⟩
        exact SideTx.not_accepting_refuses _ _ _ hrefused
    refine ⟨inner, s, hnew, hwhole, ?_⟩
    rw [hrelay inner s _ hnew hwhole, hframes]
    decide

/-- A callback that fails: the call returns `Err` and has taken number one, so the
next fix, the first to go out, is number two. -/
theorem failed_send_takes_number :
    ∃ (inner : RouterInner defaultSchema) (s s' : RouterSystem defaultSchema),
      RouterInner.new hostBuild = .ok inner ∧
      Run (RouterSystem.step hostBuild true) anyStep (.initial inner) [.addSide .reliable] s ∧
      (s.inner.sendReliableToSide hostBuild true 0 (.failing 0) 0 (.packet gpsPacket)).result =
        fail (.io "link down") ∧
      (s.inner.reliableTx.at ⟨0, gpsPacket.ty⟩).nextSeq = 1 ∧
      ((s.inner.sendReliableToSide hostBuild true 0 (.failing 0) 0
        (.packet gpsPacket)).streams.at ⟨0, gpsPacket.ty⟩).nextSeq = 2 ∧
      Run (RouterSystem.step hostBuild true) anyStep (.initial inner)
        [.addSide .reliable, .send 0 (.packet gpsPacket) (by decide) (.failing 0) 0,
          .send 0 (.packet gpsPacket) (by decide) (.accepting 10) 10] s' ∧
      s'.history.handedOn ⟨0, gpsPacket.ty⟩ = [2] := by
  obtain ⟨inner, s, hnew, hrun, hview⟩ := @System.run_of_execute defaultSchema _ _
    (RouterSystem.step hostBuild true) [.addSide .reliable] _
    (fun s : RouterSystem defaultSchema =>
      ((s.inner.sendReliableToSide hostBuild true 0 (.failing 0) 0 (.packet gpsPacket)).result,
        (s.inner.reliableTx.at ⟨0, gpsPacket.ty⟩).nextSeq,
        ((s.inner.sendReliableToSide hostBuild true 0 (.failing 0) 0
          (.packet gpsPacket)).streams.at ⟨0, gpsPacket.ty⟩).nextSeq))
    (fail (.io "link down"), 1, 2) (RouterInner.new hostBuild) (by decide +kernel)
  obtain ⟨inner', s', hnew', hrun', hhanded⟩ := @System.run_of_execute defaultSchema _ _
    (RouterSystem.step hostBuild true)
    [.addSide .reliable, .send 0 (.packet gpsPacket) (by decide) (.failing 0) 0,
      .send 0 (.packet gpsPacket) (by decide) (.accepting 10) 10] _
    (fun s : RouterSystem defaultSchema => s.history.handedOn ⟨0, gpsPacket.ty⟩) [2]
    (RouterInner.new hostBuild) (by decide +kernel)
  obtain ⟨hresult, hview⟩ := Prod.mk.inj hview
  obtain ⟨hbefore, hafter⟩ := Prod.mk.inj hview
  obtain rfl := Except.ok.inj (hnew.symm.trans hnew')
  exact ⟨inner, s, s', hnew, hrun, hresult, hbefore, hafter, hrun', hhanded⟩

end Sedsprintf
