import Sedsprintf.Relay.Drain
import Sedsprintf.Wire.Refusals

/-!
# What a relay's drain leaves behind

A drain of all queues ends with the first turn that receives nothing and sends nothing. Such
a turn can have dropped a replay and an item, and then leaves what was queued behind them.
-/
namespace Sedsprintf

open Lib

/-- A free gate, and callbacks that take everything. -/
def SideTx.Accepts {S : Schema} (tx : SideTx S) : Prop := tx = .accepting tx.doneMs

namespace RelayInner
variable {B : Build} {S : Schema} {st st' : RelayInner S}

/-- The three queues are empty. -/
structure Drained (st : RelayInner S) : Prop where
  rx : st.rxQueue.q = []
  tx : st.txQueue.q = []
  replay : st.replayQueue.q = []

/-- A replay that is dropped in its turn: no frame under a number, or one that has been
acknowledged. -/
def StaleReplay (B : Build) (st : RelayInner S) (item : RelayReplayItem) : Prop :=
  ∃ frame, peekFrameInfo B S item.bytes = .ok frame ∧ ∀ hdr, frame.reliable = some hdr →
    hdr.seq ∉ (st.reliableTx.at ⟨item.dst, frame.envelope.ty⟩).sent

/-- An item that is dropped in its turn: its side is gone, no rule lets it through, or the
side does not take reliable control. -/
def DropsItem (B : Build) (table : RoutingTable S) (st : RelayInner S) (item : RelayTxItem S) :
    Prop :=
  st.sides[item.dst]?.join = none ∨
    ∃ s ty, st.sides[item.dst]?.join = some s ∧ itemType B item.data = .ok ty ∧
      (st.routeAllowed table item.src (some ty) item.dst = false ∨
        (s.opts.reliableEnabled && s.txHandler == .serialized) = false ∧
          adjustReliableForSide B s.opts item.data = .ok none)

/-- Nothing is received, and what is next in the other queues is dropped. -/
structure Unproductive (B : Build) (table : RoutingTable S) (st : RelayInner S) : Prop where
  rx : st.rxQueue.q = []
  replay : ∀ item ∈ st.replayQueue.q.head?, st.StaleReplay B item
  tx : ∀ item ∈ st.txQueue.q.head?, st.DropsItem B table item

section Replay
variable {tx : SideTx S}

/-- A free gate and callbacks that succeed leave only errors that no busy side gives. -/
theorem sendReliableRawToSide_not_busy (htx : tx.Accepts) (side : Nat) (bytes : List UInt8)
    {e : Stop} (h : st.sendReliableRawToSide B tx side bytes = .error e) : isSideTxBusy e = false := by
  rw [SideTx.Accepts] at htx
  rw [htx] at h
  have hio : NeverIo (st.sendReliableRawToSide B (.accepting tx.doneMs) side bytes) := by
    apply NeverIo.bind
    · exact .okOr (by simp) _
    · intro s
      apply NeverIo.ite
      · simp only [SideTx.accepting, throughGate, if_true]
        split
        · exact .ok _
        · exact (deserializePacket_neverIo B bytes).bind fun _ => .ok _
      · exact .ok _
  rw [h] at hio
  cases e with
  | panic what => rfl
  | err e =>
    cases e with
    | io msg => exact absurd rfl (hio msg)
    | _ => rfl

/-- The first replay is gone and its stream open. -/
structure ReplayDropped (st st' : RelayInner S) : Prop where
  sides : st'.sides = st.sides
  rx : st'.rxQueue = st.rxQueue
  tx : st'.txQueue = st.txQueue
  replay : st'.replayQueue.q = st.replayQueue.q.tail

theorem processReplayQueueItem_of_stale
    (hstale : ∀ item ∈ st.replayQueue.q.head?, st.StaleReplay B item) :
    ∃ st', st.processReplayQueueItem B tx = (st', .ok false) ∧ st.ReplayDropped st' := by
  unfold processReplayQueueItem
  split
  · rename_i hpop
    refine ⟨st, rfl, rfl, rfl, rfl, ?_⟩
    cases hq : st.replayQueue.q with
    | nil => rfl
    | cons item rest => simp [BoundedDeque.popFront, hq] at hpop
  · rename_i item rest hpop
    have hq := BoundedDeque.popFront_eq_some hpop
    obtain ⟨frame, hframe, hgone⟩ := hstale item (by simp [hq])
    have hdropped := @HopNode.processReplay_of_stale S _ (hop B) B
      (fun st => st.sendReliableRawToSide B tx item.dst item.bytes) (fun st => st.pushReplay B item)
      tx.doneMs { st with replayQueue := rest } item.dst item.bytes frame hframe hgone
    have htail : rest.q = st.replayQueue.q.tail := by rw [hq, List.tail_cons]
    rcases hdropped with heq | ⟨streams, heq⟩
    · exact ⟨_, heq, rfl, rfl, rfl, htail⟩
    · exact ⟨_, heq, rfl, rfl, rfl, htail⟩

/-- Through a free gate, only what is stale does not go out. -/
theorem stale_of_processReplayQueueItem (htx : tx.Accepts)
    (h : st.processReplayQueueItem B tx = (st', .ok false)) :
    ∀ item ∈ st.replayQueue.q.head?, st.StaleReplay B item := by
  intro item hhead
  unfold processReplayQueueItem at h
  split at h
  · rename_i hpop
    cases hq : st.replayQueue.q with
    | nil => simp [hq] at hhead
    | cons first rest => simp [BoundedDeque.popFront, hq] at hpop
  · rename_i first rest hpop
    obtain rfl : first = item := by
      simpa [BoundedDeque.popFront_eq_some hpop] using hhead
    have hraw : ∀ (t : RelayInner S) e, t.sendReliableRawToSide B tx first.dst first.bytes =
        .error e → isSideTxBusy e = false := by
      intro t e
      exact sendReliableRawToSide_not_busy htx _ _
    exact HopNode.stale_of_processReplay hraw h

end Replay

section Send
variable {turn : RelayTurn S}

/-- The queue is empty, or its first item is out of it. -/
theorem popReadyTxItem_cases (B : Build) (st : RelayInner S) :
    (st.txQueue.q = [] ∧ popReadyTxItem B st = (st, .ok none)) ∨
      ∃ item rest, st.txQueue.q = item :: rest.q ∧
        st.txQueue.dropFront (RelayTxItem.byteCost B) = rest ∧
        popReadyTxItem B st = ({ st with txQueue := rest },
          .ok ((st.sides[item.dst]?.join).map fun s => (item, s))) := by
  unfold popReadyTxItem BoundedDeque.popFront
  cases hq : st.txQueue.q with
  | nil => exact .inl ⟨rfl, rfl⟩
  | cons item rest =>
    refine .inr ⟨item, _, rfl, ?_, rfl⟩
    simp [BoundedDeque.dropFront, hq]

/-- A send that is not made leaves everything as it was. -/
theorem sendTxItem_eq_false_iff {item : RelayTxItem S} {s : Side} :
    sendTxItem B turn item s st = (st', .ok false) ↔
      st = st' ∧ ∃ ty, itemType B item.data = .ok ty ∧
        (st.routeAllowed turn.table item.src (some ty) item.dst = false ∨
          (s.opts.reliableEnabled && s.txHandler == .serialized) = false ∧
            adjustReliableForSide B s.opts item.data = .ok none) := by
  have hsent (x : Outcome Unit) : (x.map fun _ => true) ≠ .ok false := by
    cases x <;> simp [Except.map]
  unfold sendTxItem
  cases hty : itemType B item.data with
  | error e => simp
  | ok ty =>
    dsimp only
    cases hallowed : st.routeAllowed turn.table item.src (some ty) item.dst with
    | false => simp [hallowed]
    | true =>
      cases hhop : s.opts.reliableEnabled && s.txHandler == .serialized with
      | true => simp [hallowed, hsent]
      | false =>
        cases hadjusted : adjustReliableForSide B s.opts item.data with
        | error e => simp [hallowed]
        | ok adjusted =>
          cases adjusted with
          | none => simp
          | some data => simp [hallowed, hsent]

/-- A turn sends nothing exactly when the first item, if there is one, is dropped. -/
theorem sendOne_eq_false_iff : sendOne B turn st = (st', .ok false) ↔
    { st with txQueue := st.txQueue.dropFront (RelayTxItem.byteCost B) } = st' ∧
      ∀ item ∈ st.txQueue.q.head?, st.DropsItem B turn.table item := by
  obtain ⟨hq, hready⟩ | ⟨item, rest, hq, hdrop, hready⟩ := popReadyTxItem_cases B st
  · rw [sendOne, Program.bind_apply_of_ok hready]
    have hsame : st.txQueue.dropFront (RelayTxItem.byteCost B) = st.txQueue := by
      simp only [BoundedDeque.dropFront, hq, List.tail_nil, List.head?_nil, Option.map_none,
        Option.getD_none, Nat.sub_zero]
      rw [← hq]
    simp [hq, hsame]
  · rw [sendOne, Program.bind_apply_of_ok hready]
    cases hside : st.sides[item.dst]?.join with
    | none => simp [hq, DropsItem, hside, hdrop]
    | some s =>
      have hsame : ∀ ty, ({ st with txQueue := rest } : RelayInner S).routeAllowed turn.table item.src
          (some ty) item.dst = st.routeAllowed turn.table item.src (some ty) item.dst := fun _ => rfl
      simp [sendTxItem_eq_false_iff, hsame, hq, DropsItem, hside, hdrop]

theorem receiveOne_eq_false_iff : receiveOne B turn st = (st', .ok false) ↔
    st = st' ∧ st.rxQueue.q = [] := by
  have hreceived (x : Outcome Unit) : (x.map fun _ => true) ≠ .ok false := by
    cases x <;> simp [Except.map]
  unfold receiveOne BoundedDeque.popFront
  cases hq : st.rxQueue.q with
  | nil => simp
  | cons item rest => simp [hreceived]

/-- A drain of all queues that has no timeout ends with an unproductive turn, which takes the
first replay and the first item away. -/
theorem allTurn_eq_false_iff (htx : turn.replayTx.Accepts) :
    allTurn B turn .none st = (st', .ok false) ↔ ∃ scanned passed,
      st.processReliableTimeouts B turn.scanNow = (scanned, .ok ()) ∧
      scanned.Unproductive B turn.table ∧
      scanned.processReplayQueueItem B turn.replayTx = (passed, .ok false) ∧
      { passed with txQueue := passed.txQueue.dropFront (RelayTxItem.byteCost B) } = st' := by
  constructor
  · intro h
    obtain ⟨scanned, _, hscan, h⟩ := Program.bind_apply_eq_ok.mp h
    obtain ⟨after, received, hreceive, h⟩ := Program.bind_apply_eq_ok.mp h
    rw [DrainLimit.over_none, if_neg (by simp)] at h
    obtain ⟨passed, replayed, hreplay, h⟩ := Program.bind_apply_eq_ok.mp h
    obtain ⟨left, sent, hsend, h⟩ := Program.bind_apply_eq_ok.mp h
    obtain ⟨rfl, hnone⟩ := Prod.mk.inj h
    obtain ⟨⟨rfl, rfl⟩, rfl⟩ : (received = false ∧ replayed = false) ∧ sent = false := by
      simpa using hnone
    obtain ⟨rfl, hrx⟩ := receiveOne_eq_false_iff.mp hreceive
    obtain ⟨rfl, htx'⟩ := sendOne_eq_false_iff.mp hsend
    have hstale := stale_of_processReplayQueueItem htx hreplay
    obtain ⟨dropped, heq, hdropped⟩ := @processReplayQueueItem_of_stale B S scanned turn.replayTx hstale
    obtain rfl : dropped = passed := (Prod.mk.inj (heq.symm.trans hreplay)).1
    refine ⟨scanned, dropped, hscan, ⟨hrx, hstale, ?_⟩, hreplay, rfl⟩
    rw [hdropped.tx] at htx'
    simpa only [DropsItem, hdropped.sides, routeAllowed] using htx'
  · rintro ⟨scanned, passed, hscan, hidle, hreplay, rfl⟩
    obtain ⟨dropped, heq, hdropped⟩ :=
      @processReplayQueueItem_of_stale B S scanned turn.replayTx hidle.replay
    obtain rfl : dropped = passed := (Prod.mk.inj (heq.symm.trans hreplay)).1
    have hsend : sendOne B turn dropped = ({ dropped with
        txQueue := dropped.txQueue.dropFront (RelayTxItem.byteCost B) }, .ok false) := by
      refine sendOne_eq_false_iff.mpr ⟨rfl, ?_⟩
      rw [hdropped.tx]
      simpa only [DropsItem, hdropped.sides, routeAllowed] using hidle.tx
    have hreceive := (@receiveOne_eq_false_iff B S scanned scanned turn).mpr ⟨rfl, hidle.rx⟩
    rw [allTurn, Program.bind_apply_of_ok hscan, Program.bind_apply_of_ok hreceive,
      DrainLimit.over_none, if_neg (by simp), Program.bind_apply_of_ok hreplay,
      Program.bind_apply_of_ok hsend]
    rfl

/-- What an unproductive turn leaves is empty exactly when nothing was behind what it took. -/
theorem drained_of_allTurn (htx : turn.replayTx.Accepts) {scanned : RelayInner S}
    (hscan : st.processReliableTimeouts B turn.scanNow = (scanned, .ok ()))
    (h : allTurn B turn .none st = (st', .ok false)) :
    st'.Drained ↔ scanned.replayQueue.q.length ≤ 1 ∧ scanned.txQueue.q.length ≤ 1 := by
  obtain ⟨scanned', passed, hscan', hidle, hreplay, rfl⟩ := (allTurn_eq_false_iff htx).mp h
  obtain rfl : scanned' = scanned := (Prod.mk.inj (hscan'.symm.trans hscan)).1
  obtain ⟨dropped, heq, hdropped⟩ :=
    @processReplayQueueItem_of_stale B S scanned' turn.replayTx hidle.replay
  obtain rfl : dropped = passed := (Prod.mk.inj (heq.symm.trans hreplay)).1
  have hempty {α : Type} (l : List α) : l.tail = [] ↔ l.length ≤ 1 := by
    rw [← List.length_eq_zero_iff, List.length_tail]
    omega
  rw [← hempty, ← hempty]
  constructor
  · intro hdrained
    exact ⟨hdropped.replay.symm.trans hdrained.replay,
      by simpa [BoundedDeque.dropFront, hdropped.tx] using hdrained.tx⟩
  · rintro ⟨hreplays, hitems⟩
    refine ⟨?_, ?_, hdropped.replay.trans hreplays⟩
    · show dropped.rxQueue.q = []
      rw [hdropped.rx, hidle.rx]
    · show (dropped.txQueue.dropFront (RelayTxItem.byteCost B)).q = []
      rw [hdropped.tx]
      exact hitems

/-- The turn is unproductive, and there is something behind what it drops. -/
def CutsShort (B : Build) (turn : RelayTurn S) (st : RelayInner S) : Prop :=
  ∃ scanned, st.processReliableTimeouts B turn.scanNow = (scanned, .ok ()) ∧
    scanned.Unproductive B turn.table ∧
    (2 ≤ scanned.replayQueue.q.length ∨ 2 ≤ scanned.txQueue.q.length)

end Send
end RelayInner

/-- The side-TX gate is free during the turn and the callbacks succeed. -/
def RelayTurn.Undisturbed {S : Schema} (turn : RelayTurn S) : Prop :=
  turn.replayTx.Accepts ∧ turn.sendTx.Accepts

/-- **A drain empties the queues.** A drain of all queues that returns has emptied them exactly
when none of its turns is one that receives nothing, drops what is next, and has more behind
it. -/
theorem drain_empties_iff {B : Build} {S : Schema} {turns : List (RelayTurn S)}
    {st st' : RelayInner S} (hfree : ∀ turn ∈ turns, turn.Undisturbed)
    (h : RelayDrain.all.run B .none false turns st = (st', .ok true)) :
    st'.Drained ↔ ∀ turn t, Program.Turn (RelayDrain.all.takeTurn B .none) turns st turn t →
      ¬t.CutsShort B turn := by
  constructor
  · rintro hdrained turn t hturn ⟨scanned, hscan, hidle, hmore⟩
    have htx := (hfree turn hturn.mem).1
    obtain ⟨passed, hpassed, -⟩ :=
      @RelayInner.processReplayQueueItem_of_stale B S scanned turn.replayTx hidle.replay
    have hdone := (RelayInner.allTurn_eq_false_iff htx).mpr
      ⟨scanned, passed, hscan, hidle, hpassed, rfl⟩
    have hend := hturn.loop_done hdone
    obtain rfl := (Prod.mk.inj (hend.symm.trans h)).1
    have hfew := (RelayInner.drained_of_allTurn htx hscan hdone).mp hdrained
    omega
  · intro hall
    obtain ⟨turn, t, hturn, hdone⟩ := Program.exists_turn_of_done h
    have htx := (hfree turn hturn.mem).1
    obtain ⟨scanned, _, hscan, hidle, -⟩ := (RelayInner.allTurn_eq_false_iff htx).mp hdone
    rw [RelayInner.drained_of_allTurn htx hscan hdone]
    by_contra hmany
    exact hall turn t hturn ⟨scanned, hscan, hidle, by omega⟩

/-- A side that takes packets as they are. -/
def Side.plain : Side := ⟨.packet, ⟨false, false, true, true⟩⟩

/-- A turn in which everything goes through. -/
def smoothTurn (table : RoutingTable defaultSchema) : RelayTurn defaultSchema :=
  ⟨0, .still, 0, .accepting 0, table, 0, .accepting 0, 0⟩

/-- A fix from the third side for the two others. -/
def forwardedFix : List (RelaySystem.Action hostBuild defaultSchema) :=
  [.addSide .plain, .addSide .plain, .addSide .plain,
    .pushTx ⟨some 2, 0, .packet gpsPacket, defaultSchema.messagePriority gpsPacket.ty⟩,
    .pushTx ⟨some 2, 1, .packet gpsPacket, defaultSchema.messagePriority gpsPacket.ty⟩]

/-- A drain that nothing disturbs. -/
def RelaySystem.drained (s : RelaySystem defaultSchema) (table : RoutingTable defaultSchema)
    (turns : Nat) : RelayInner defaultSchema × Outcome Bool :=
  RelayDrain.all.run hostBuild .none false (List.replicate turns (smoothTurn table)) s.inner

theorem drain_empties_gps :
    ∃ (inner : RelayInner defaultSchema) (s : RelaySystem defaultSchema),
      RelayInner.new hostBuild = .ok inner ∧
      Run (RelaySystem.step hostBuild) anyStep (.initial inner) forwardedFix s ∧
      (s.drained .empty 3).1.Drained ∧
      ∀ turn t, Program.Turn (RelayDrain.all.takeTurn hostBuild .none)
        (List.replicate 3 (smoothTurn .empty)) s.inner turn t → ¬t.CutsShort hostBuild turn := by
  obtain ⟨inner, s, hnew, hrun, hview⟩ := @System.run_of_execute defaultSchema _ _
    (RelaySystem.step hostBuild) forwardedFix _
    (fun s : RelaySystem defaultSchema => ((s.drained .empty 3).2.toOption,
      (s.drained .empty 3).1.rxQueue.q.length, (s.drained .empty 3).1.txQueue.q.length,
      (s.drained .empty 3).1.replayQueue.q.length))
    (some true, 0, 0, 0) (RelayInner.new hostBuild) (by decide +kernel)
  simp only [Prod.mk.injEq, List.length_eq_zero_iff] at hview
  obtain ⟨hresult, hrx, htx, hreplay⟩ := hview
  have hfree : ∀ turn ∈ List.replicate 3 (smoothTurn .empty), turn.Undisturbed := by
    intro turn hmem
    rw [List.eq_of_mem_replicate hmem]
    exact ⟨rfl, rfl⟩
  have hdone : RelayDrain.all.run hostBuild .none false (List.replicate 3 (smoothTurn .empty))
      s.inner = ((RelaySystem.drained s .empty 3).1, .ok true) :=
    Prod.ext rfl (toOption_eq_some.mp hresult)
  have hdrained : (RelaySystem.drained s .empty 3).1.Drained := ⟨hrx, htx, hreplay⟩
  exact ⟨inner, s, hnew, hrun, hdrained, (drain_empties_iff hfree hdone).mp hdrained⟩

/-- The rule comes when both items are queued. -/
def stopped : RoutingTable defaultSchema := RoutingTable.empty.setRoute ⟨some 2, 0⟩ (some false)

/-- A rule stops the first of two items. The drain drops it, returns `Ok`, and leaves the
second, which nothing holds up. -/
theorem drain_stops_early :
    ∃ (inner : RelayInner defaultSchema) (s : RelaySystem defaultSchema),
      RelayInner.new hostBuild = .ok inner ∧
      Run (RelaySystem.step hostBuild) anyStep (.initial inner) forwardedFix s ∧
      (smoothTurn stopped).Undisturbed ∧ (s.drained stopped 1).2 = .ok true ∧
      ¬(s.drained stopped 1).1.Drained := by
  obtain ⟨inner, s, hnew, hrun, hview⟩ := @System.run_of_execute defaultSchema _ _
    (RelaySystem.step hostBuild) forwardedFix _
    (fun s : RelaySystem defaultSchema =>
      ((s.drained stopped 1).2.toOption, (s.drained stopped 1).1.txQueue.q.length))
    (some true, 1) (RelayInner.new hostBuild) (by decide +kernel)
  obtain ⟨hresult, hleft⟩ := Prod.mk.inj hview
  refine ⟨inner, s, hnew, hrun, ⟨rfl, rfl⟩, toOption_eq_some.mp hresult, fun hdrained => ?_⟩
  rw [hdrained.tx] at hleft
  cases hleft

end Sedsprintf
