import Sedsprintf.Guarantees.Drains

/-!
# Items that find their side busy

Both drains of a relay pop an item before they send it. One of them pushes an item back that a
busy side turned away, the other passes the error on.
-/
namespace Sedsprintf

open Lib

namespace RelayInner
variable {B : Build} {S : Schema} {turn : RelayTurn S} {st st' left : RelayInner S}
  {item : RelayTxItem S}

/-- The item whose turn it is finds its side busy. -/
def TurnedAway (B : Build) (turn : RelayTurn S) (st : RelayInner S) (item : RelayTxItem S) : Prop :=
  ∃ popped side left e, popReadyTxItem B st = (popped, .ok (some (item, side))) ∧
    sendTxItem B turn item side popped = (left, .error e) ∧ isSideTxBusy e = true

/-- What is queued in `st` is queued in `st'`: in the transmit queue the same items, in the
others the same queues. -/
structure KeepsQueued (st st' : RelayInner S) : Prop where
  tx : st'.txQueue.q.Perm st.txQueue.q
  rx : st'.rxQueue = st.rxQueue
  replay : st'.replayQueue = st.replayQueue
  reliableRx : st'.reliableRx = st.reliableRx

/-- A send touches nothing but the streams. -/
theorem sendTxItem_frame {side : Side} :
    ∃ streams, (sendTxItem B turn item side st).1 = { st with reliableTx := streams } := by
  unfold sendTxItem
  split
  · exact ⟨_, rfl⟩
  · split
    · split
      · exact ⟨_, rfl⟩
      · split
        · exact ⟨_, rfl⟩
        · exact ⟨_, rfl⟩
        · exact ⟨_, rfl⟩
    · exact ⟨_, rfl⟩

/-- What an item needs to get into the transmit queue without a loss. -/
structure HasRoomFor (B : Build) (st : RelayInner S) (item : RelayTxItem S) : Prop where
  shared : st.sharedQueueBytesUsed B + item.byteCost B ≤ B.maxQueueBudget
  bytes : st.txQueue.curBytes + item.byteCost B ≤ st.txQueue.maxBytes
  length : st.txQueue.q.length < st.txQueue.maxElems

theorem HasRoomFor.pushTx (h : st.HasRoomFor B item) :
    ∃ d, st.pushTx B item = ({ st with txQueue := d }, .ok ()) ∧
      d.q.Perm (item :: st.txQueue.q) := by
  have hroom : st.makeSharedQueueRoom B (item.byteCost B) (.queue .tx) = (st, .ok ()) := by
    rw [makeSharedQueueRoom, Stores.makeSharedQueueRoom_of_room 0 h.shared]
    rfl
  obtain ⟨hok, hperm⟩ := @BoundedDeque.pushBackPrioritized_of_room _ (RelayTxItem.byteCost B)
    st.txQueue (fun queued => queued.priority) item h.bytes h.length
  rw [RelayInner.pushTx, hroom]
  exact ⟨_, Prod.ext rfl hok, hperm⟩

/-- A popped item leaves the room it took. -/
theorem Kept.hasRoomFor (hkept : st.Kept B) {rest : BoundedDeque (RelayTxItem S)}
    (hpop : st.txQueue.popFront (RelayTxItem.byteCost B) = some (item, rest)) :
    ({ st with txQueue := rest } : RelayInner S).HasRoomFor B item := by
  have hq := BoundedDeque.popFront_eq_some hpop
  have hlose := BoundedDeque.Loses.popFront hpop
  have hbytes : rest.curBytes + item.byteCost B = st.txQueue.curBytes := by
    have hbefore : st.txQueue.curBytes = (st.txQueue.q.map (RelayTxItem.byteCost B)).sum :=
      hkept.accounted.tx
    have hafter : rest.curBytes = (rest.q.map (RelayTxItem.byteCost B)).sum :=
      hlose.accounted hkept.accounted.tx
    rw [hbefore, hafter, hq, List.map_cons, List.sum_cons, Nat.add_comm]
  have hput := @Stores.used_put _ _ _ S B 0 _ (RelayQueues.bank B) st.stores .tx rest
  have hshared : ({ st with txQueue := rest } : RelayInner S).sharedQueueBytesUsed B +
      item.byteCost B ≤ B.maxQueueBudget := by
    have hwithin := hkept.within
    change ({ st with txQueue := rest } : RelayInner S).sharedQueueBytesUsed B +
      st.txQueue.curBytes = st.sharedQueueBytesUsed B + rest.curBytes at hput
    change st.sharedQueueBytesUsed B ≤ B.maxQueueBudget at hwithin
    omega
  have horder : st.txQueue.Orderly fun queued => queued.priority := hkept.orderly .tx
  have hmax : st.txQueue.maxBytes = B.maxQueueBudget := hkept.maxBytes .tx
  refine ⟨hshared, ?_, ?_⟩
  · show rest.curBytes + item.byteCost B ≤ rest.maxBytes
    rw [hlose.maxBytes, hmax]
    have hqueue : rest.curBytes ≤
        ({ st with txQueue := rest } : RelayInner S).sharedQueueBytesUsed B := by
      simp only [sharedQueueBytesUsed, Stores.sharedQueueBytesUsed, RelayQueues.set, stores,
        RelayQueues.bytes, List.map_cons, List.sum_cons]
      omega
    omega
  · show rest.q.length < rest.maxElems
    have hlen := horder.length_le
    rw [hq, List.length_cons] at hlen
    rw [hlose.maxElems]
    omega

/-- The item is put back among those it was popped from. -/
theorem Kept.putBack (hkept : st.Kept B) (hranked : st.TxRanked B)
    {rest : BoundedDeque (RelayTxItem S)} {streams : TxStreams S}
    (hpop : st.txQueue.popFront (RelayTxItem.byteCost B) = some (item, rest)) :
    ∃ st', putBack B item { st with txQueue := rest, reliableTx := streams } = (st', .ok ()) ∧
      st.KeepsQueued st' := by
  have hq := BoundedDeque.popFront_eq_some hpop
  have hpriority := hranked item (by rw [hq]; exact List.mem_cons_self)
  have hroom := hkept.hasRoomFor hpop
  have hroom' : ({ st with txQueue := rest, reliableTx := streams } : RelayInner S).HasRoomFor B
      item := ⟨hroom.shared, hroom.bytes, hroom.length⟩
  obtain ⟨d, hpush, hperm⟩ := hroom'.pushTx
  have hback : RelayInner.putBack B item { st with txQueue := rest, reliableTx := streams } =
      ({ st with txQueue := d, reliableTx := streams }, .ok ()) := by
    simp only [RelayInner.putBack, hpriority]
    exact hpush
  refine ⟨_, hback, ?_, rfl, rfl, rfl⟩
  rw [hq]
  exact hperm

end RelayInner

namespace RelayDrain
variable {B : Build} {S : Schema}

/-- A turn from `t` comes to its send in `st`. -/
def SendsFrom (B : Build) (limit : DrainLimit) (turn : RelayTurn S) (t st : RelayInner S) :
    RelayDrain → Prop
  | .tx => ∃ scanned, t.processReliableTimeouts B turn.scanNow = (scanned, .ok ()) ∧
      scanned.processReplayQueueItem B turn.replayTx = (st, .ok false)
  | .all => ∃ scanned received got replayed,
      t.processReliableTimeouts B turn.scanNow = (scanned, .ok ()) ∧
      RelayInner.receiveOne B turn scanned = (received, .ok got) ∧
      limit.over turn.afterRx = false ∧
      received.processReplayQueueItem B turn.replayTx = (st, .ok replayed)

end RelayDrain

namespace RelayInner
variable {B : Build} {S : Schema} {turn : RelayTurn S} {limit : DrainLimit}
  {t t' st popped : RelayInner S} {item : RelayTxItem S}

/-- The stores keep their accounts, and the transmit items the priorities of their types. -/
def Sound (B : Build) (st : RelayInner S) : Prop := st.Kept B ∧ st.TxRanked B

theorem Sound.of_moves (h : t.Sound B) (hmoves : StoreMoves B t t') (hspared : TxSpared t t') :
    t'.Sound B := ⟨h.1.moves hmoves, h.2.spared hspared⟩

theorem Sound.scan (h : t.Sound B) (now : UInt64) : (t.processReliableTimeouts B now).1.Sound B :=
  h.of_moves ((StoreMoves.closed t).processReliableTimeouts now t (.refl t))
    ((TxSpared.closed t).processReliableTimeouts now t (.of_eq rfl))

theorem Sound.replay (h : t.Sound B) (tx : SideTx S) : (t.processReplayQueueItem B tx).1.Sound B :=
  h.of_moves (.processReplayQueueItem tx) (.processReplayQueueItem tx)

/-- A popped item is the first, and its side is there. -/
theorem popReadyTxItem_eq_some {side : Side}
    (h : popReadyTxItem B st = (popped, .ok (some (item, side)))) :
    ∃ rest, st.txQueue.popFront (RelayTxItem.byteCost B) = some (item, rest) ∧
      popped = { st with txQueue := rest } := by
  unfold popReadyTxItem at h
  split at h
  · cases h
  · rename_i first rest hpop
    obtain ⟨rfl, hready⟩ := Prod.mk.inj h
    obtain ⟨s, -, heq⟩ := Option.map_eq_some_iff.mp (Except.ok.inj hready)
    obtain rfl := (Prod.mk.inj heq).1
    exact ⟨rest, hpop, rfl⟩

/-- A turn that goes on keeps what is sound. -/
theorem Sound.txTurn (h : t.Sound B) (hturn : txTurn B turn limit t = (t', .ok true)) :
    t'.Sound B := by
  obtain ⟨scanned, _, hscan, hturn⟩ := Program.bind_apply_eq_ok.mp hturn
  obtain ⟨passed, replayed, hreplay, hturn⟩ := Program.bind_apply_eq_ok.mp hturn
  have hscanned := h.scan turn.scanNow
  rw [hscan] at hscanned
  have hpassed := hscanned.replay turn.replayTx
  rw [hreplay] at hpassed
  cases replayed with
  | true =>
    obtain ⟨rfl, -⟩ := Prod.mk.inj hturn
    exact hpassed
  | false =>
    obtain ⟨popped, ready, hpop, hturn⟩ := Program.bind_apply_eq_ok.mp hturn
    cases ready with
    | none => cases hturn
    | some ready =>
      obtain ⟨item, side⟩ := ready
      obtain ⟨rest, hfront, rfl⟩ := popReadyTxItem_eq_some hpop
      obtain ⟨streams, hframe⟩ := @sendTxItem_frame B S turn
        { passed with txQueue := rest } item side
      have hlose := BoundedDeque.Loses.popFront hfront
      have hleft : ({ passed with txQueue := rest, reliableTx := streams } : RelayInner S).Sound B :=
        hpassed.of_moves ((StoreMoves.loseTx passed hlose).trans (.other rfl rfl rfl rfl))
          hlose.sublist
      simp only [sendOrPutBack] at hturn
      cases hsend : sendTxItem B turn item side { passed with txQueue := rest } with
      | mk left result =>
        rw [hsend] at hturn hframe
        cases result with
        | ok sent =>
          obtain ⟨rfl, -⟩ := Prod.mk.inj hturn
          rw [show left = _ from hframe]
          exact hleft
        | error e =>
          dsimp only at hturn
          split at hturn
          · obtain ⟨_, _, -, hend⟩ := Program.bind_apply_eq_ok.mp hturn
            cases hend
          · cases hturn

/-- `process_tx_queue_with_timeout` puts the item back and ends. -/
theorem txTurn_of_turnedAway (h : t.Sound B) (hsends : RelayDrain.tx.SendsFrom B limit turn t st)
    (haway : st.TurnedAway B turn item) :
    ∃ st', txTurn B turn limit t = (st', .ok false) ∧ st.KeepsQueued st' := by
  obtain ⟨scanned, hscan, hreplay⟩ := hsends
  obtain ⟨popped, side, left, e, hpop, hsend, hbusy⟩ := haway
  have hsound := (h.scan turn.scanNow)
  rw [hscan] at hsound
  have hst := hsound.replay turn.replayTx
  rw [hreplay] at hst
  obtain ⟨rest, hfront, rfl⟩ := popReadyTxItem_eq_some hpop
  obtain ⟨streams, hframe⟩ := @sendTxItem_frame B S turn { st with txQueue := rest } item side
  rw [hsend] at hframe
  obtain rfl : left = { st with txQueue := rest, reliableTx := streams } := hframe
  obtain ⟨st', hback, hkeeps⟩ := @Kept.putBack B S st item hst.1 hst.2 rest streams hfront
  refine ⟨st', ?_, hkeeps⟩
  rw [txTurn, Program.bind_apply_of_ok hscan, Program.bind_apply_of_ok hreplay,
    if_neg (by simp), Program.bind_apply_of_ok hpop]
  simp only [sendOrPutBack, hsend, hbusy, if_true]
  rw [Program.bind_apply_of_ok hback, Program.pure_apply]

/-- `process_all_queues_with_timeout` comes back with the error and without the item. -/
theorem allTurn_of_turnedAway (hsends : RelayDrain.all.SendsFrom B limit turn t st)
    (haway : st.TurnedAway B turn item) :
    ∃ st' e, allTurn B turn limit t = (st', .error e) ∧ ¬st.KeepsQueued st' := by
  obtain ⟨scanned, received, got, replayed, hscan, hreceive, hover, hreplay⟩ := hsends
  obtain ⟨popped, side, left, e, hpop, hsend, -⟩ := haway
  have hone : sendOne B turn st = (left, .error e) := by
    rw [sendOne, Program.bind_apply_of_ok hpop]
    exact hsend
  refine ⟨left, e, ?_, fun hkeeps => ?_⟩
  · rw [allTurn, Program.bind_apply_of_ok hscan, Program.bind_apply_of_ok hreceive, hover,
      if_neg (by simp), Program.bind_apply_of_ok hreplay, Program.bind_apply_of_error hone]
  · obtain ⟨rest, hfront, rfl⟩ := popReadyTxItem_eq_some hpop
    obtain ⟨streams, hframe⟩ := @sendTxItem_frame B S turn { st with txQueue := rest } item side
    rw [hsend] at hframe
    obtain rfl : left = { st with txQueue := rest, reliableTx := streams } := hframe
    have hlength := hkeeps.tx.length_eq
    rw [BoundedDeque.popFront_eq_some hfront, List.length_cons] at hlength
    change rest.q.length = rest.q.length + 1 at hlength
    omega

end RelayInner

/-- **A busy side does not cost a packet.** Where a drain of a reachable relay comes to an item
that finds its side busy, everything that was queued stays queued exactly if the drain is that
of the transmit queue. -/
theorem busy_item_kept_iff {B : Build} {S : Schema} {inner : RelayInner S} {s : RelaySystem S}
    {actions : List (RelaySystem.Action B S)} (hnew : RelayInner.new B = .ok inner)
    (hrun : Run (RelaySystem.step B) (RelaySystem.PushesRanked B) (.initial inner) actions s)
    {drain : RelayDrain} {limit : DrainLimit} {turns : List (RelayTurn S)} {turn : RelayTurn S}
    {t st : RelayInner S} {item : RelayTxItem S}
    (hturn : Program.Turn (drain.takeTurn B limit) turns s.inner turn t)
    (hsends : drain.SendsFrom B limit turn t st) (haway : st.TurnedAway B turn item) :
    st.KeepsQueued (drain.run B limit false turns s.inner).1 ↔ drain = .tx := by
  cases drain with
  | tx =>
    have hsound : s.inner.Sound B :=
      ⟨RelaySystem.kept_of_run hnew hrun, RelaySystem.txRanked_of_run hnew hrun⟩
    have hkeeps : ∀ turn ∈ turns, ∀ st st', RelayInner.Sound B st →
        RelayDrain.tx.takeTurn B limit turn st = (st', .ok true) → RelayInner.Sound B st' := by
      intro _ _ _ _ h hmore
      exact h.txTurn hmore
    have ht : t.Sound B := hturn.invariant hkeeps hsound
    obtain ⟨st', hdone, hkeeps⟩ := RelayInner.txTurn_of_turnedAway ht hsends haway
    have hend : RelayDrain.tx.run B limit false turns s.inner = (st', .ok true) :=
      hturn.loop_done hdone
    rw [hend]
    exact iff_of_true hkeeps rfl
  | all =>
    obtain ⟨st', e, herror, hlost⟩ := RelayInner.allTurn_of_turnedAway hsends haway
    have hend : RelayDrain.all.run B limit false turns s.inner = (st', .error e) :=
      hturn.loop_error herror
    rw [hend]
    refine iff_of_false hlost ?_
    rintro ⟨⟩

/-- A turn in which another thread is in a side's callback when the item is sent. -/
def busyTurn : RelayTurn defaultSchema :=
  { smoothTurn .empty with sendTx := { SideTx.accepting 0 with gateFree := false } }

/-- The state that the first turn sends from. -/
def RelaySystem.beforeSend (s : RelaySystem defaultSchema) : RelayInner defaultSchema :=
  ((s.inner.processReliableTimeouts hostBuild 0).1.processReplayQueueItem hostBuild
    (.accepting 0)).1

/-- `TurnedAway`, for some item. -/
def RelayInner.turnsAway (turn : RelayTurn defaultSchema) (st : RelayInner defaultSchema) : Bool :=
  match RelayInner.popReadyTxItem hostBuild st with
  | (popped, .ok (some (item, side))) =>
    match RelayInner.sendTxItem hostBuild turn item side popped with
    | (_, .error e) => isSideTxBusy e
    | (_, .ok _) => false
  | _ => false

theorem RelayInner.turnedAway_of_turnsAway {turn : RelayTurn defaultSchema}
    {st : RelayInner defaultSchema} (h : st.turnsAway turn = true) :
    ∃ item, st.TurnedAway hostBuild turn item := by
  unfold RelayInner.turnsAway at h
  split at h
  · rename_i popped item side hpop
    split at h
    · rename_i left e hsend
      exact ⟨item, popped, side, left, e, hpop, hsend, h⟩
    · cases h
  · cases h

/-- The drain of the transmit queue finds the first of the two items turned away, and leaves
both. -/
theorem busy_item_kept_gps :
    ∃ (inner : RelayInner defaultSchema) (s : RelaySystem defaultSchema),
      RelayInner.new hostBuild = .ok inner ∧
      Run (RelaySystem.step hostBuild) (RelaySystem.PushesRanked hostBuild) (.initial inner)
        forwardedFix s ∧
      (∃ item, (RelaySystem.beforeSend s).TurnedAway hostBuild busyTurn item) ∧
      (RelaySystem.beforeSend s).KeepsQueued
        (RelayDrain.tx.run hostBuild .none false [busyTurn] s.inner).1 := by
  obtain ⟨inner, s, hnew, hrun, hview⟩ := @System.run_of_execute defaultSchema _ _
    (RelaySystem.step hostBuild) forwardedFix _
    (fun s : RelaySystem defaultSchema =>
      ((s.inner.processReliableTimeouts hostBuild 0).2.toOption,
        ((s.inner.processReliableTimeouts hostBuild 0).1.processReplayQueueItem hostBuild
          (.accepting 0)).2.toOption, (RelaySystem.beforeSend s).turnsAway busyTurn))
    (some (), some false, true) (RelayInner.new hostBuild) (by decide +kernel)
  simp only [Prod.mk.injEq] at hview
  obtain ⟨hscan, hreplay, haway⟩ := hview
  have hranked : Run (RelaySystem.step hostBuild) (RelaySystem.PushesRanked hostBuild)
      (.initial inner) forwardedFix s := by
    refine hrun.imp fun _ a ha _ => ?_
    simp only [forwardedFix, List.mem_cons, List.not_mem_nil, or_false] at ha
    rcases ha with rfl | rfl | rfl | rfl | rfl
    · trivial
    · trivial
    · trivial
    · rfl
    · rfl
  have hsends : RelayDrain.tx.SendsFrom hostBuild .none busyTurn s.inner
      (RelaySystem.beforeSend s) :=
    ⟨_, Prod.ext rfl (toOption_eq_some.mp hscan), Prod.ext rfl (toOption_eq_some.mp hreplay)⟩
  obtain ⟨item, hturned⟩ := RelayInner.turnedAway_of_turnsAway haway
  exact ⟨inner, s, hnew, hranked, ⟨item, hturned⟩,
    (busy_item_kept_iff hnew hranked (.first busyTurn [] s.inner) hsends hturned).mpr rfl⟩

/-- The drain of all queues passes the error on. One of the two items is gone. -/
theorem busy_item_lost :
    ∃ (inner : RelayInner defaultSchema) (s : RelaySystem defaultSchema),
      RelayInner.new hostBuild = .ok inner ∧
      Run (RelaySystem.step hostBuild) anyStep (.initial inner) forwardedFix s ∧
      s.inner.txQueue.q.length = 2 ∧
      (RelayDrain.all.run hostBuild .none false [busyTurn] s.inner).2 =
        fail (.io "side tx busy") ∧
      (RelayDrain.all.run hostBuild .none false [busyTurn] s.inner).1.txQueue.q.length = 1 := by
  obtain ⟨inner, s, hnew, hrun, hview⟩ := @System.run_of_execute defaultSchema _ _
    (RelaySystem.step hostBuild) forwardedFix _
    (fun s : RelaySystem defaultSchema => (s.inner.txQueue.q.length,
      decide ((RelayDrain.all.run hostBuild .none false [busyTurn] s.inner).2 =
        fail (.io "side tx busy")),
      (RelayDrain.all.run hostBuild .none false [busyTurn] s.inner).1.txQueue.q.length))
    (2, true, 1) (RelayInner.new hostBuild) (by decide +kernel)
  simp only [Prod.mk.injEq, decide_eq_true_eq] at hview
  exact ⟨inner, s, hnew, hrun, hview⟩

end Sedsprintf
