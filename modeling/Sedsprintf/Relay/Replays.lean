import Sedsprintf.Relay.Moves
import Sedsprintf.Stores.Leaving
import Sedsprintf.Replays

/-!
# The ledger of a relay

A relay has hop replays only, in a queue of their own: pushes to the other queues
concern it through the shared budget alone.
-/
namespace Sedsprintf

open Lib

namespace RelayInner
variable {B : Build} {S : Schema} {st st' : RelayInner S}

/-- Between two states no replay is lost that a history entry still waits for. -/
abbrev LosesNoReplay (B : Build) (st st' : RelayInner S) : Prop := (hop B).KeepsReplays B st st'

abbrev Ledger (B : Build) (st : RelayInner S) : Prop := (hop B).FlagLedger B st

/-- The queued replays that are waited for are all among `left`. -/
def AwaitedIn (B : Build) (st : RelayInner S) (left : List RelayReplayItem) : Prop :=
  ∀ r ∈ (hop B).replays st, st.reliableTx.Awaits B r → r ∈ left.map fun item => (item.dst, item.bytes)

/-- Room for `cost` bytes costs no replay that is waited for. -/
def RoomSpares (B : Build) (st : RelayInner S) (cost : Nat) (preferred : StoreKind RelayQueueKind) :
    Prop :=
  st.AwaitedIn B (st.replayQueue.q.drop
    (Stores.taken B 0 (RelayQueues.set B) st.stores cost preferred .replay))

/-- The replay queue takes a replay, and it costs none that is waited for. -/
def TakesReplay (B : Build) (st : RelayInner S) (dst : Nat) (bytes : List UInt8)
    (priority : UInt8) : Prop :=
  Stores.Admits B 0 (RelayQueues.bank B) st.stores .replay ⟨dst, bytes, priority⟩ ∧
    st.AwaitedIn B
      (Stores.leaves B 0 (RelayQueues.bank B) st.stores .replay ⟨dst, bytes, priority⟩)

/-- The replay at the front goes out, or finds the gate busy and is taken back. -/
def ProcessSafe (B : Build) (tx : SideTx S) (st : RelayInner S) : Prop :=
  ∀ item rest, st.replayQueue.popFront RelayReplayItem.byteCost = some (item, rest) →
    (hop B).ReplaySafe B (TakesReplay B)
      (fun st => st.sendReliableRawToSide B tx item.dst item.bytes) (fun _ => item.priority)
      { st with replayQueue := rest } (item.dst, item.bytes)

/-- No queued replay is waited for. -/
def NoneAwaited (B : Build) (st : RelayInner S) : Prop :=
  ∀ r ∈ (hop B).replays st, ¬st.reliableTx.Awaits B r

theorem ledger_new (h : RelayInner.new B = .ok st) : st.Ledger B := by
  obtain ⟨rx, -, h⟩ := bind_eq_ok.mp h
  obtain ⟨tx, -, h⟩ := bind_eq_ok.mp h
  obtain ⟨replay, hreplay, h⟩ := bind_eq_ok.mp h
  obtain ⟨recent, -, h⟩ := bind_eq_ok.mp h
  obtain rfl := Except.ok.inj h
  refine .empty rfl ?_
  simp [hop, (BoundedDeque.new_eq_ok hreplay).1]

theorem AwaitedIn.losesNoReplay {left : List RelayReplayItem} (h : st.AwaitedIn B left)
    (hstreams : st'.reliableTx = st.reliableTx) (hqueue : left ⊆ st'.replayQueue.q) :
    LosesNoReplay B st st' := by
  intro r hr hawaits
  exact List.map_subset _ hqueue (h r hr (by rwa [← hstreams]))

/-- The queues make room for something else. -/
theorem ledger_evicted {gone : Nat} (h : st.Ledger B)
    (hstreams : st'.reliableTx = st.reliableTx)
    (hqueue : st'.replayQueue.q = st.replayQueue.q.drop gone)
    (hspares : st.AwaitedIn B (st.replayQueue.q.drop gone)) : st'.Ledger B := by
  refine h.lose (.of_eq hstreams) ?_ (hspares.losesNoReplay hstreams (hqueue ▸ List.Subset.refl _))
  simp only [hop, hqueue]
  exact ((List.drop_sublist _ _).map _).subperm

theorem closed_kept : (hop B).Closed (Kept (S := S) B) where
  setStreams hkept := hkept.moves (.single (.other rfl rfl rfl rfl))
  pushReplay hkept := hkept.moves (StoreMoves.pushReplay _ _)

theorem taking : (hop B).Taking (S := S) B (TakesReplay B) (Kept B) where
  toClosed := closed_kept
  accepted {st dst bytes priority} hkept htakes := by
    obtain ⟨hok, hperm⟩ := (Stores.push_leaves hkept .replay ⟨dst, bytes, priority⟩).1 htakes.1
    change (st.pushReplay B ⟨dst, bytes, priority⟩).2 = .ok () ∧ _
    have hqueue : (st.pushReplay B ⟨dst, bytes, priority⟩).1.replayQueue.q =
        (Stores.push B 0 (RelayQueues.bank B) st.stores .replay
          ⟨dst, bytes, priority⟩).1.1.replayQueue.q := by
      rw [pushReplay_eq]
      rfl
    refine ⟨by rw [pushReplay_eq]; exact hok, htakes.2.losesNoReplay
      (st.pushReplay_keeps (B := B) _).reliableTx fun item hitem => ?_⟩
    change item ∈ (st.pushReplay B ⟨dst, bytes, priority⟩).1.replayQueue.q
    rw [hqueue]
    exact hperm.symm.subset (List.mem_cons_of_mem _ hitem)

theorem processReplayQueueItem_ledger {tx : SideTx S} (hkept : st.Kept B) (h : st.Ledger B)
    (hsafe : st.ProcessSafe B tx) : (st.processReplayQueueItem B tx).1.Ledger B := by
  unfold processReplayQueueItem
  split
  · exact h
  · rename_i item rest hpop
    refine HopNode.processReplay_ledger taking (fun _ _ => rfl)
      (hkept.moves (StoreMoves.loseReplay st (.popFront hpop))) h ?_ rfl (hsafe item rest hpop)
    simp only [hop, BoundedDeque.popFront_eq_some hpop, List.map_cons]

/-- Dropping what goes to one side. -/
theorem losesNoReplay_of_retain {side : Nat}
    (hqueue : st'.replayQueue.q = st.replayQueue.q.filter fun queued => queued.dst != side)
    (hgone : ∀ r ∈ (hop B).replays st, r.1 = side → ¬st'.reliableTx.Awaits B r) :
    LosesNoReplay B st st' := by
  intro r hr hawaits
  obtain ⟨item, hmem, rfl⟩ := List.mem_map.mp hr
  refine List.mem_map.mpr ⟨item, ?_, rfl⟩
  rw [hqueue]
  refine List.mem_filter.mpr ⟨hmem, ?_⟩
  have hne : item.dst ≠ side := fun heq => hgone _ hr heq hawaits
  simpa using hne

/-- A removed side takes its entries with it. -/
theorem removeSide_ledger {side : Nat} (h : st.Ledger B)
    (hremoved : st.removeSide B side = .ok st') : st'.Ledger B := by
  obtain ⟨_, -, hremoved⟩ := bind_eq_ok.mp hremoved
  obtain rfl := Except.ok.inj hremoved
  refine h.lose (TxStreams.removeSide_fewer side) (List.filter_sublist.map _).subperm
    (losesNoReplay_of_retain rfl ?_)
  rintro r - hside ⟨key, seq, hkey, hmem⟩
  rw [replayKey_side hkey] at hside
  dsimp only at hmem
  rw [TxStreams.at_removeSide, if_pos hside] at hmem
  simp [ReliableTxState.fresh] at hmem

theorem setSideEgressEnabled_ledger {side : Nat} {enabled : Bool} (h : st.Ledger B)
    (hset : st.setSideEgressEnabled B side enabled = .ok st')
    (hsafe : enabled = false → ∀ r ∈ (hop B).replays st, r.1 = side → ¬st.reliableTx.Awaits B r) :
    st'.Ledger B := by
  obtain ⟨_, -, hset⟩ := bind_eq_ok.mp hset
  cases enabled with
  | true =>
    obtain rfl := Except.ok.inj hset
    exact h.forget (.of_eq rfl) rfl
  | false =>
    obtain rfl := Except.ok.inj hset
    exact h.lose (.of_eq rfl) (List.filter_sublist.map _).subperm
      (losesNoReplay_of_retain rfl (hsafe rfl))

theorem replays_congr {st st' : RelayInner S} (h : st'.replayQueue = st.replayQueue) :
    (hop B).replays st' = (hop B).replays st :=
  congrArg (fun queue => queue.q.map fun item => (item.dst, item.bytes)) h

end RelayInner

namespace RelaySystem
variable {B : Build} {S : Schema} {s s' : RelaySystem S} {a : Action B S}

/-- What an action must not do to a queued replay that is waited for. -/
def FlagSafe (B : Build) (s : RelaySystem S) : Action B S → Prop
  -- a new entry finds no replay of an earlier frame under its number
  | .send side data _ _ now => ∀ ty, s.inner.Numbers B true now side data ty →
      ∀ r ∈ (RelayInner.hop B).replays s.inner,
        replayKey B S r ≠ some (⟨side, ty⟩, (s.inner.reliableTx.at ⟨side, ty⟩).nextSeq)
  -- a flag is set only with an accepted push
  | .request key seq => (RelayInner.hop B).RequestSafe (RelayInner.TakesReplay B) s.inner key seq
  | .timeouts now => (RelayInner.hop B).TimeoutsSafe B (RelayInner.TakesReplay B) now s.inner
  | .processReplay tx => s.inner.ProcessSafe B tx
  -- no push evicts a replay that is waited for
  | .pushTx item => s.inner.RoomSpares B (item.byteCost B) (.queue .tx)
  | .pushRx item => s.inner.RoomSpares B (item.byteCost B) (.queue .rx)
  | .accept key seq bytes => s.inner.AwaitedIn B (s.inner.replayQueue.q.drop
      (Stores.takenByFrame B 0 (RelayQueues.set B) s.inner.stores key seq bytes .replay))
  -- nothing that is waited for is cleared away
  | .setSideEgressEnabled side enabled => enabled = false →
      ∀ r ∈ (RelayInner.hop B).replays s.inner, r.1 = side → ¬s.inner.reliableTx.Awaits B r
  | .clearTxQueue => s.inner.NoneAwaited B
  | _ => True

theorem ledger_send {side : Nat} {data : RouterItem S} {resident : data.Resident B}
    {tx : SideTx S} {now : UInt64} (h : s.inner.Ledger B)
    (hsafe : s.FlagSafe B (.send side data resident tx now))
    (hstep : s.step B (.send side data resident tx now) = some s') : s'.inner.Ledger B := by
  rw [System.sent_inner hstep]
  cases hplan : s.inner.sendPlan B now side data with
  | error e =>
    refine h.forget (.of_eq ?_) rfl
    simp only [RelayInner.hop, RelayInner.sendReliableToSide, hplan]
  | ok planned =>
    obtain ⟨handler, plan⟩ := planned
    simp only [RelayInner.sendReliableToSide, hplan]
    refine HopNode.execute_ledger (n := RelayInner.hop B)
      (RelayInner.sendPlan_fits resident hplan) h ?_
    rintro ty rfl
    exact hsafe ty (RelayInner.sendPlan_number_iff.mp ⟨handler, hplan⟩)

theorem ledger_of_step (hkept : s.inner.Kept B) (h : s.inner.Ledger B) (hsafe : s.FlagSafe B a)
    (hstep : s.step B a = some s') : s'.inner.Ledger B := by
  cases a with
  | addSide side =>
    obtain rfl := Option.some.inj hstep
    exact h.forget (.of_eq rfl) rfl
  | removeSide side =>
    rcases System.sideRemoved_eq_some hstep with rfl | hremoved
    · exact h
    · exact RelayInner.removeSide_ledger h hremoved
  | setSideEgressEnabled side enabled =>
    rcases System.changed_eq_some hstep with rfl | ⟨inner, hset, rfl⟩
    · exact h
    · exact RelayInner.setSideEgressEnabled_ledger h hset hsafe
  | setSideIngressEnabled side enabled =>
    rcases System.changed_eq_some hstep with rfl | ⟨inner, hset, rfl⟩
    · exact h
    · obtain ⟨_, -, hset⟩ := bind_eq_ok.mp hset
      obtain rfl := Except.ok.inj hset
      exact h.forget (.of_eq rfl) rfl
  | send side data resident tx now => exact ledger_send h hsafe hstep
  | ack key n =>
    obtain rfl := Option.some.inj hstep
    exact h.forget (TxStreams.update_fewer key fun tx => tx.handleReliableAck_fewer key.ty n) rfl
  | partialAck key seq =>
    obtain rfl := Option.some.inj hstep
    exact h.forget (TxStreams.update_fewer key fun tx => tx.handleReliablePartialAck_fewer seq) rfl
  | request key seq =>
    obtain rfl := System.returned_eq_some hstep
    exact HopNode.queueReliableRetransmit_ledger RelayInner.taking hkept h hsafe
  | timeouts now =>
    obtain rfl := System.returned_eq_some hstep
    exact HopNode.processReliableTimeouts_ledger RelayInner.taking hkept h hsafe
  | processReplay tx =>
    obtain rfl := System.returned_eq_some hstep
    exact RelayInner.processReplayQueueItem_ledger hkept h hsafe
  | pushTx item =>
    obtain rfl := System.returned_eq_some hstep
    refine RelayInner.ledger_evicted h (s.inner.pushTx_keeps item).1.reliableTx ?_ hsafe
    rw [RelayInner.pushTx_eq]
    exact @Stores.queue_push_of_ne _ _ _ S B 0 _ (RelayQueues.bank B) .tx s.inner.stores .replay
      nofun item
  | pushRx item =>
    obtain rfl := System.returned_eq_some hstep
    refine RelayInner.ledger_evicted h (s.inner.pushRx_keeps item).1.reliableTx ?_ hsafe
    rw [RelayInner.pushRx_eq]
    exact @Stores.queue_push_of_ne _ _ _ S B 0 _ (RelayQueues.bank B) .rx s.inner.stores .replay
      nofun item
  | isDuplicatePkt data =>
    obtain rfl := System.returned_eq_some hstep
    refine h.forget (.of_eq (s.inner.isDuplicatePkt_keeps data).1.reliableTx) ?_
    rcases s.inner.isDuplicatePkt_cases (B := B) data with heq | ⟨id, -, -, heq⟩
    · rw [heq]
    · rw [heq]
      exact RelayInner.replays_congr (congrArg (fun queues => queues.replayQueue)
        (Stores.queues_pushRecentRx hkept.within id))
  | accept key seq bytes =>
    obtain rfl := System.returned_eq_some hstep
    refine RelayInner.ledger_evicted h (s.inner.acceptOrdered_keeps key seq bytes).1.reliableTx ?_
      hsafe
    exact Stores.queue_acceptOrdered (RelayQueues.bank B) s.inner.stores key seq bytes .replay
  | popTx =>
    rcases popTx_eq_some hstep with rfl | ⟨item, rest, -, rfl⟩
    · exact h
    · exact h.forget (.of_eq rfl) rfl
  | popRx =>
    rcases popRx_eq_some hstep with rfl | ⟨item, rest, -, rfl⟩
    · exact h
    · exact h.forget (.of_eq rfl) rfl
  | clearQueues =>
    obtain rfl := Option.some.inj hstep
    exact h.forget (.of_eq rfl) rfl
  | clearRxQueue =>
    obtain rfl := Option.some.inj hstep
    exact h.forget (.of_eq rfl) rfl
  | clearTxQueue =>
    obtain rfl := Option.some.inj hstep
    refine h.lose (.of_eq rfl) ?_ fun r hr hawaits => absurd hawaits (hsafe r hr)
    exact (List.nil_sublist _).subperm
  | learnDiscovery src data now =>
    obtain rfl := System.returned_eq_some hstep
    obtain ⟨hkeeps, hqueue⟩ := s.inner.learnDiscoveryItem_keeps (B := B) now src data
    exact h.forget (.of_eq hkeeps.reliableTx) (RelayInner.replays_congr hqueue)
  | pruneDiscovery now =>
    obtain rfl := Option.some.inj hstep
    exact h.forget (.of_eq rfl) rfl
  | fitDiscovery =>
    obtain rfl := Option.some.inj hstep
    obtain ⟨hkeeps, hqueue⟩ := s.inner.fitDiscoveryBudget_keeps (B := B)
    exact h.forget (.of_eq hkeeps.reliableTx) (RelayInner.replays_congr hqueue)

/-- The flags of a relay whose every step was safe. -/
theorem ledger_of_run {inner : RelayInner S} {actions : List (Action B S)}
    (hnew : RelayInner.new B = .ok inner)
    (hrun : Run (step B) (FlagSafe B) (.initial inner) actions s) : s.inner.Ledger B :=
  (hrun.invariant (fun s => s.inner.Kept B ∧ s.inner.Ledger B)
    (fun h hsafe hstep => ⟨kept_of_step h.1 hstep, ledger_of_step h.1 h.2 hsafe hstep⟩)
    ⟨RelayInner.kept_new hnew, RelayInner.ledger_new hnew⟩).2

end RelaySystem
end Sedsprintf
