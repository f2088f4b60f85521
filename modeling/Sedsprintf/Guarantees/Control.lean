import Sedsprintf.Router.Receive
import Sedsprintf.Relay.Receive
import Sedsprintf.Wire.RoundTrip

/-!
# Hop control of several sides

A hop control packet is about the link it arrived on, but it goes through the
deduplication of data first, which knows nothing of links: two peers that
acknowledge one number under one name in one millisecond send one id.
-/
namespace Sedsprintf

open Lib

namespace RouterSystem
variable {B : Build} {S : Schema}

/-- `rx_item` on a hop control packet from a side that is open. -/
structure ControlArrives (B : Build) (env : RouterEnv S) (s : RouterSystem S) (side : Nat)
    (data : RouterItem S) (pkt : Packet S) (ty : S.DataType) (seq : UInt32)
    (s' : RouterSystem S) : Prop where
  control : HopControl B data pkt ty seq
  ingress : s.inner.ensureSideIngressEnabled side = .ok ()
  received : ∃ priority,
    s' = { s with inner := (s.inner.rxItem B env ⟨some side, data, priority⟩).inner }

/-- The id of the packet is new to the window, or the stream is as the packet would
leave it. -/
def Unhindered (B : Build) (s : RouterSystem S) (side : Nat) (data : RouterItem S) (pkt : Packet S)
    (ty : S.DataType) (seq : UInt32) : Prop :=
  (∃ id, RouterInner.getHash B data = .ok id ∧ id ∉ s.inner.recentRx.q ∧ B.RecordsIds) ∨
    controlUpdate S pkt.ty ty seq (s.inner.reliableTx.at ⟨side, ty⟩) =
      s.inner.reliableTx.at ⟨side, ty⟩

theorem ControlArrives.tookEffect_iff {env : RouterEnv S} {s s' : RouterSystem S} {side : Nat}
    {data : RouterItem S} {pkt : Packet S} {ty : S.DataType} {seq : UInt32}
    (h : ControlArrives B env s side data pkt ty seq s') (hb : s.inner.Budgeted B) :
    s'.inner.Budgeted B ∧
      (s.inner.reliableTx.TookEffect s'.inner.reliableTx pkt.ty ⟨side, ty⟩ seq ↔
        s.Unhindered B side data pkt ty seq) := by
  obtain ⟨priority, rfl⟩ := h.received
  obtain ⟨id, hhash⟩ := RouterInner.getHash_of_control h.control
  have hsame : ∀ id', RouterInner.getHash B data = .ok id' ↔ id' = id := by
    intro id'
    rw [hhash, Except.ok.injEq, eq_comm]
  have hrx := @RouterInner.rxItem_of_control B S env s.inner data pkt ty seq side priority h.control
    hb h.ingress id hhash
  refine ⟨hrx.1, hrx.2.trans ?_⟩
  simp only [Unhindered, hsame, exists_eq_left]

end RouterSystem

namespace RelaySystem
variable {B : Build} {S : Schema}

/-- `process_rx_queue_item` on a hop control packet from a side that is open. -/
structure ControlArrives (B : Build) (env : RelayEnv S) (s : RelaySystem S) (side : Nat)
    (data : RouterItem S) (pkt : Packet S) (ty : S.DataType) (seq : UInt32)
    (s' : RelaySystem S) : Prop where
  control : HopControl B data pkt ty seq
  ingress : s.inner.ensureSideIngressEnabled side = .ok ()
  received : ∃ priority,
    s' = { s with inner := (s.inner.processRxQueueItem B env ⟨side, data, priority⟩).inner }

def Unhindered (B : Build) (s : RelaySystem S) (side : Nat) (data : RouterItem S) (pkt : Packet S)
    (ty : S.DataType) (seq : UInt32) : Prop :=
  (∃ id, RelayInner.getHash B data = .ok id ∧ id ∉ s.inner.recentRx.q ∧ B.RecordsIds) ∨
    controlUpdate S pkt.ty ty seq (s.inner.reliableTx.at ⟨side, ty⟩) =
      s.inner.reliableTx.at ⟨side, ty⟩

theorem ControlArrives.tookEffect_iff {env : RelayEnv S} {s s' : RelaySystem S} {side : Nat}
    {data : RouterItem S} {pkt : Packet S} {ty : S.DataType} {seq : UInt32}
    (h : ControlArrives B env s side data pkt ty seq s') (hb : s.inner.Budgeted B) :
    s'.inner.Budgeted B ∧
      (s.inner.reliableTx.TookEffect s'.inner.reliableTx pkt.ty ⟨side, ty⟩ seq ↔
        s.Unhindered B side data pkt ty seq) := by
  obtain ⟨priority, rfl⟩ := h.received
  obtain ⟨id, hhash⟩ := RelayInner.getHash_of_control h.control
  have hsame : ∀ id', RelayInner.getHash B data = .ok id' ↔ id' = id := by
    intro id'
    rw [hhash, Except.ok.injEq, eq_comm]
  have hrx := @RelayInner.processRxQueueItem_of_control B S env s.inner data pkt ty seq side priority
    h.control hb h.ingress id hhash
  refine ⟨hrx.1, hrx.2.trans ?_⟩
  simp only [Unhindered, hsame, exists_eq_left]

end RelaySystem

/-- Two hop control packets with any traffic between them both take effect, each on the
stream of its own side and on no other, exactly when neither id is in the window when its
packet arrives (or there is nothing to update). -/
theorem hop_control_independent {B : Build} {S : Schema} :
    (∀ (reliable : Bool) (inner : RouterInner S) (s₀ s₁ s₂ s₃ : RouterSystem S)
        (before between : List (RouterSystem.Action B S)) (env env' : RouterEnv S)
        (side side' : Nat) (data data' : RouterItem S) (pkt pkt' : Packet S) (ty ty' : S.DataType)
        (seq seq' : UInt32), RouterInner.new B = .ok inner →
      Run (RouterSystem.step B reliable) anyStep (.initial inner) before s₀ →
      RouterSystem.ControlArrives B env s₀ side data pkt ty seq s₁ →
      Run (RouterSystem.step B reliable) anyStep s₁ between s₂ →
      RouterSystem.ControlArrives B env' s₂ side' data' pkt' ty' seq' s₃ →
      (s₀.inner.reliableTx.TookEffect s₁.inner.reliableTx pkt.ty ⟨side, ty⟩ seq ∧
          s₂.inner.reliableTx.TookEffect s₃.inner.reliableTx pkt'.ty ⟨side', ty'⟩ seq' ↔
        s₀.Unhindered B side data pkt ty seq ∧ s₂.Unhindered B side' data' pkt' ty' seq')) ∧
    (∀ (inner : RelayInner S) (s₀ s₁ s₂ s₃ : RelaySystem S)
        (before between : List (RelaySystem.Action B S)) (env env' : RelayEnv S)
        (side side' : Nat) (data data' : RouterItem S) (pkt pkt' : Packet S) (ty ty' : S.DataType)
        (seq seq' : UInt32), RelayInner.new B = .ok inner →
      Run (RelaySystem.step B) anyStep (.initial inner) before s₀ →
      RelaySystem.ControlArrives B env s₀ side data pkt ty seq s₁ →
      Run (RelaySystem.step B) anyStep s₁ between s₂ →
      RelaySystem.ControlArrives B env' s₂ side' data' pkt' ty' seq' s₃ →
      (s₀.inner.reliableTx.TookEffect s₁.inner.reliableTx pkt.ty ⟨side, ty⟩ seq ∧
          s₂.inner.reliableTx.TookEffect s₃.inner.reliableTx pkt'.ty ⟨side', ty'⟩ seq' ↔
        s₀.Unhindered B side data pkt ty seq ∧ s₂.Unhindered B side' data' pkt' ty' seq')) := by
  constructor
  · intro reliable inner s₀ s₁ s₂ s₃ before between env env' side side' data data' pkt pkt' ty ty' seq
      seq' hnew hbefore hfirst hbetween hsecond
    obtain ⟨hb₁, hfirst⟩ := hfirst.tookEffect_iff (RouterSystem.budgeted_of_run hnew hbefore)
    have hb₂ := (System.refines_of_run RouterSystem.refines_of_step hbetween).2 hb₁
    rw [hfirst, (hsecond.tookEffect_iff hb₂).2]
  · intro inner s₀ s₁ s₂ s₃ before between env env' side side' data data' pkt pkt' ty ty' seq seq' hnew
      hbefore hfirst hbetween hsecond
    obtain ⟨hb₁, hfirst⟩ := hfirst.tookEffect_iff (RelaySystem.budgeted_of_run hnew hbefore)
    have hb₂ := (System.refines_of_run RelaySystem.refines_of_step hbetween).2 hb₁
    rw [hfirst, (hsecond.tookEffect_iff hb₂).2]

/-- Number one of the fixes, acknowledged by `gs`. -/
def gpsAck (timestamp : UInt64) : Packet defaultSchema where
  ty := 13
  dataSize := 8
  sender := "gs"
  endpoints := [4]
  timestamp := timestamp
  payload := .inline 8 [0, 0, 0, 0, 1, 0, 0, 0]

theorem hopControl_gpsAck (timestamp : UInt64) :
    HopControl hostBuild (.packet (gpsAck timestamp)) (gpsAck timestamp) gpsPacket.ty 1 where
  carries := ⟨rfl, rfl⟩
  control := rfl
  hop := rfl
  content :=
    have hsame : reliableControl hostBuild (gpsAck timestamp) = reliableControl hostBuild (gpsAck 0) := rfl
    hsame.trans (by decide +kernel)

/-- A fix goes out on two sides of a router, and of a relay. -/
def fixOnTwoSides : List (RouterSystem.Action hostBuild defaultSchema) :=
  [.addSide .reliable, .addSide .reliable,
    .send 0 (.packet gpsPacket) (by decide) (.accepting 0) 0,
    .send 1 (.packet gpsPacket) (by decide) (.accepting 0) 0]

def relayedFix : List (RelaySystem.Action hostBuild defaultSchema) :=
  [.addSide .reliable, .addSide .reliable,
    .send 0 (.packet gpsPacket) (by decide) (.accepting 0) 0,
    .send 1 (.packet gpsPacket) (by decide) (.accepting 0) 0]

def RouterSystem.afterAck (s : RouterSystem defaultSchema) (side : Nat) (timestamp : UInt64) :
    RouterSystem defaultSchema :=
  { s with inner :=
      (s.inner.rxItem hostBuild (.named "fc") ⟨some side, .packet (gpsAck timestamp), 250⟩).inner }

def RelaySystem.afterAck (s : RelaySystem defaultSchema) (side : Nat) (timestamp : UInt64) :
    RelaySystem defaultSchema :=
  { s with inner :=
      (s.inner.processRxQueueItem hostBuild .still ⟨side, .packet (gpsAck timestamp), 250⟩).inner }

theorem RouterSystem.arrives_afterAck {s : RouterSystem defaultSchema} {side : Nat}
    (hopen : (s.inner.ensureSideIngressEnabled side).toOption = some ()) (timestamp : UInt64) :
    ControlArrives hostBuild (.named "fc") s side (.packet (gpsAck timestamp)) (gpsAck timestamp)
      gpsPacket.ty 1 (s.afterAck side timestamp) :=
  ⟨hopControl_gpsAck timestamp, toOption_eq_some.mp hopen, 250, rfl⟩

theorem RelaySystem.arrives_afterAck {s : RelaySystem defaultSchema} {side : Nat}
    (hopen : (s.inner.ensureSideIngressEnabled side).toOption = some ()) (timestamp : UInt64) :
    ControlArrives hostBuild .still s side (.packet (gpsAck timestamp)) (gpsAck timestamp)
      gpsPacket.ty 1 (s.afterAck side timestamp) :=
  ⟨hopControl_gpsAck timestamp, toOption_eq_some.mp hopen, 250, rfl⟩

/-- A millisecond apart, both sides acknowledge the fix to the router. -/
theorem hop_control_independent_gps :
    (∃ (inner : RouterInner defaultSchema) (s : RouterSystem defaultSchema),
      RouterInner.new hostBuild = .ok inner ∧
      Run (RouterSystem.step hostBuild true) anyStep (.initial inner) fixOnTwoSides s ∧
      s.inner.reliableTx.TookEffect (s.afterAck 0 5).inner.reliableTx (gpsAck 5).ty
        ⟨0, gpsPacket.ty⟩ 1 ∧
      (s.afterAck 0 5).inner.reliableTx.TookEffect ((s.afterAck 0 5).afterAck 1 6).inner.reliableTx
        (gpsAck 6).ty ⟨1, gpsPacket.ty⟩ 1) ∧
    (∃ (inner : RelayInner defaultSchema) (s : RelaySystem defaultSchema),
      RelayInner.new hostBuild = .ok inner ∧
      Run (RelaySystem.step hostBuild) anyStep (.initial inner) relayedFix s ∧
      s.inner.reliableTx.TookEffect (s.afterAck 0 5).inner.reliableTx (gpsAck 5).ty
        ⟨0, gpsPacket.ty⟩ 1 ∧
      (s.afterAck 0 5).inner.reliableTx.TookEffect ((s.afterAck 0 5).afterAck 1 6).inner.reliableTx
        (gpsAck 6).ty ⟨1, gpsPacket.ty⟩ 1) := by
  have hrecords : hostBuild.RecordsIds := ⟨by decide, by decide⟩
  constructor
  · obtain ⟨inner, s, hnew, hrun, hview⟩ := @System.run_of_execute defaultSchema _ _
      (RouterSystem.step hostBuild true) fixOnTwoSides _
      (fun s : RouterSystem defaultSchema =>
        ((s.inner.ensureSideIngressEnabled 0).toOption,
          ((s.afterAck 0 5).inner.ensureSideIngressEnabled 1).toOption,
          decide ((gpsAck 5).packetId hostBuild ∉ s.inner.recentRx.q),
          decide ((gpsAck 6).packetId hostBuild ∉ (s.afterAck 0 5).inner.recentRx.q)))
      (some (), some (), true, true) (RouterInner.new hostBuild) (by decide +kernel)
    obtain ⟨hopen, hview⟩ := Prod.mk.inj hview
    obtain ⟨hopen', hview⟩ := Prod.mk.inj hview
    obtain ⟨hfresh, hfresh'⟩ := Prod.mk.inj hview
    refine ⟨inner, s, hnew, hrun, ?_⟩
    exact (hop_control_independent.1 true inner s _ _ _ _ [] _ _ 0 1 _ _ _ _ _ _ _ _ hnew hrun
      (RouterSystem.arrives_afterAck hopen 5) (.nil _)
      (RouterSystem.arrives_afterAck hopen' 6)).mpr
      ⟨.inl ⟨_, rfl, of_decide_eq_true hfresh, hrecords⟩,
        .inl ⟨_, rfl, of_decide_eq_true hfresh', hrecords⟩⟩
  · obtain ⟨inner, s, hnew, hrun, hview⟩ := @System.run_of_execute defaultSchema _ _
      (RelaySystem.step hostBuild) relayedFix _
      (fun s : RelaySystem defaultSchema =>
        ((s.inner.ensureSideIngressEnabled 0).toOption,
          ((s.afterAck 0 5).inner.ensureSideIngressEnabled 1).toOption,
          decide ((gpsAck 5).packetId hostBuild ∉ s.inner.recentRx.q),
          decide ((gpsAck 6).packetId hostBuild ∉ (s.afterAck 0 5).inner.recentRx.q)))
      (some (), some (), true, true) (RelayInner.new hostBuild) (by decide +kernel)
    obtain ⟨hopen, hview⟩ := Prod.mk.inj hview
    obtain ⟨hopen', hview⟩ := Prod.mk.inj hview
    obtain ⟨hfresh, hfresh'⟩ := Prod.mk.inj hview
    refine ⟨inner, s, hnew, hrun, ?_⟩
    exact (hop_control_independent.2 inner s _ _ _ _ [] _ _ 0 1 _ _ _ _ _ _ _ _ hnew hrun
      (RelaySystem.arrives_afterAck hopen 5) (.nil _)
      (RelaySystem.arrives_afterAck hopen' 6)).mpr
      ⟨.inl ⟨_, rfl, of_decide_eq_true hfresh, hrecords⟩,
        .inl ⟨_, rfl, of_decide_eq_true hfresh', hrecords⟩⟩

/-- Within one millisecond, the second acknowledgement is dropped as a duplicate of the
first: the fix stays unacknowledged on its side. -/
theorem hop_control_interferes :
    (∃ (inner : RouterInner defaultSchema) (s : RouterSystem defaultSchema),
      RouterInner.new hostBuild = .ok inner ∧
      Run (RouterSystem.step hostBuild true) anyStep (.initial inner) fixOnTwoSides s ∧
      RouterSystem.ControlArrives hostBuild (.named "fc") s 0 (.packet (gpsAck 5)) (gpsAck 5)
        gpsPacket.ty 1 (s.afterAck 0 5) ∧
      RouterSystem.ControlArrives hostBuild (.named "fc") (s.afterAck 0 5) 1 (.packet (gpsAck 5))
        (gpsAck 5) gpsPacket.ty 1 ((s.afterAck 0 5).afterAck 1 5) ∧
      ¬(s.afterAck 0 5).inner.reliableTx.TookEffect
        ((s.afterAck 0 5).afterAck 1 5).inner.reliableTx (gpsAck 5).ty ⟨1, gpsPacket.ty⟩ 1) ∧
    (∃ (inner : RelayInner defaultSchema) (s : RelaySystem defaultSchema),
      RelayInner.new hostBuild = .ok inner ∧
      Run (RelaySystem.step hostBuild) anyStep (.initial inner) relayedFix s ∧
      RelaySystem.ControlArrives hostBuild .still s 0 (.packet (gpsAck 5)) (gpsAck 5)
        gpsPacket.ty 1 (s.afterAck 0 5) ∧
      RelaySystem.ControlArrives hostBuild .still (s.afterAck 0 5) 1 (.packet (gpsAck 5))
        (gpsAck 5) gpsPacket.ty 1 ((s.afterAck 0 5).afterAck 1 5) ∧
      ¬(s.afterAck 0 5).inner.reliableTx.TookEffect
        ((s.afterAck 0 5).afterAck 1 5).inner.reliableTx (gpsAck 5).ty ⟨1, gpsPacket.ty⟩ 1) := by
  constructor
  · obtain ⟨inner, s, hnew, hrun, hview⟩ := @System.run_of_execute defaultSchema _ _
      (RouterSystem.step hostBuild true) fixOnTwoSides _
      (fun s : RouterSystem defaultSchema =>
        ((s.inner.ensureSideIngressEnabled 0).toOption,
          ((s.afterAck 0 5).inner.ensureSideIngressEnabled 1).toOption,
          (((s.afterAck 0 5).afterAck 1 5).inner.reliableTx.at ⟨1, gpsPacket.ty⟩).sent.size,
          (controlUpdate defaultSchema (gpsAck 5).ty gpsPacket.ty 1
            ((s.afterAck 0 5).inner.reliableTx.at ⟨1, gpsPacket.ty⟩)).sent.size))
      (some (), some (), 1, 0) (RouterInner.new hostBuild) (by decide +kernel)
    obtain ⟨hopen, hview⟩ := Prod.mk.inj hview
    obtain ⟨hopen', hview⟩ := Prod.mk.inj hview
    obtain ⟨hstays, hexpected⟩ := Prod.mk.inj hview
    refine ⟨inner, s, hnew, hrun, RouterSystem.arrives_afterAck hopen 5,
      RouterSystem.arrives_afterAck hopen' 5, fun heffect => ?_⟩
    have hkey := heffect ⟨1, gpsPacket.ty⟩
    rw [if_pos rfl] at hkey
    rw [hkey, hexpected] at hstays
    cases hstays
  · obtain ⟨inner, s, hnew, hrun, hview⟩ := @System.run_of_execute defaultSchema _ _
      (RelaySystem.step hostBuild) relayedFix _
      (fun s : RelaySystem defaultSchema =>
        ((s.inner.ensureSideIngressEnabled 0).toOption,
          ((s.afterAck 0 5).inner.ensureSideIngressEnabled 1).toOption,
          (((s.afterAck 0 5).afterAck 1 5).inner.reliableTx.at ⟨1, gpsPacket.ty⟩).sent.size,
          (controlUpdate defaultSchema (gpsAck 5).ty gpsPacket.ty 1
            ((s.afterAck 0 5).inner.reliableTx.at ⟨1, gpsPacket.ty⟩)).sent.size))
      (some (), some (), 1, 0) (RelayInner.new hostBuild) (by decide +kernel)
    obtain ⟨hopen, hview⟩ := Prod.mk.inj hview
    obtain ⟨hopen', hview⟩ := Prod.mk.inj hview
    obtain ⟨hstays, hexpected⟩ := Prod.mk.inj hview
    refine ⟨inner, s, hnew, hrun, RelaySystem.arrives_afterAck hopen 5,
      RelaySystem.arrives_afterAck hopen' 5, fun heffect => ?_⟩
    have hkey := heffect ⟨1, gpsPacket.ty⟩
    rw [if_pos rfl] at hkey
    rw [hkey, hexpected] at hstays
    cases hstays

end Sedsprintf
