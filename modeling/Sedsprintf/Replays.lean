import Sedsprintf.System

/-!
# Replays and their flags

`queued` of a history entry stands for a replay of its frame in the queue. It is
set before the replay is pushed and cleared once the replay went out. `FlagLedger`
is what keeps the two together, `*Safe` what a step must not do to it.
-/
namespace Sedsprintf

open Lib

namespace ReliableTxState
variable {B : Build} {S : Schema} {tx tx' : ReliableTxState}

/-- Every entry of `tx'` was one of `tx`, with its bytes and its flag. -/
structure Fewer (tx' tx : ReliableTxState) : Prop where
  entry : ∀ {seq : UInt32} {s' : ReliableSent}, tx'.sent[seq]? = some s' →
    ∃ s : ReliableSent, tx.sent[seq]? = some s ∧ s.bytes = s'.bytes ∧ s.queued = s'.queued

theorem Fewer.refl (tx : ReliableTxState) : tx.Fewer tx := ⟨fun h => ⟨_, h, rfl, rfl⟩⟩

theorem Fewer.trans {tx'' : ReliableTxState} (h' : tx''.Fewer tx') (h : tx'.Fewer tx) :
    tx''.Fewer tx where
  entry hs := by
    obtain ⟨s', hs', hbytes', hqueued'⟩ := h'.entry hs
    obtain ⟨s, hs, hbytes, hqueued⟩ := h.entry hs'
    exact ⟨s, hs, hbytes.trans hbytes', hqueued.trans hqueued'⟩

theorem handleReliableAck_fewer (tx : ReliableTxState) (ty : S.DataType) (ack : UInt32) :
    (tx.handleReliableAck S ty ack).Fewer tx where
  entry {seq s'} hs := by
    unfold handleReliableAck at hs
    split at hs
    · rw [OrdMap.get?_erase] at hs
      split at hs
      · cases hs
      · exact ⟨s', hs, rfl, rfl⟩
    · dsimp only at hs
      rcases popAcked_lookup ack tx.sentOrder tx.sent seq with hsame | ⟨hnone, -, -⟩
      · exact ⟨s', hsame ▸ hs, rfl, rfl⟩
      · rw [hnone] at hs
        cases hs

theorem handleReliablePartialAck_fewer (tx : ReliableTxState) (seq : UInt32) :
    (tx.handleReliablePartialAck seq).Fewer tx where
  entry {q s'} hs := by
    simp only [handleReliablePartialAck, OrdMap.get?_modify] at hs
    split at hs
    · obtain ⟨s, hold, rfl⟩ := Option.map_eq_some_iff.mp hs
      exact ⟨s, hold, rfl, rfl⟩
    · exact ⟨s', hs, rfl, rfl⟩

theorem timeoutEntry_fewer (now : UInt64) (tx : ReliableTxState) (seq : UInt32) :
    (timeoutEntry B now tx seq).1.Fewer tx where
  entry {q s'} hs := by
    rw [timeoutEntry_get] at hs
    split at hs
    · obtain ⟨s, hs, hout⟩ := Option.bind_eq_some_iff.mp hs
      obtain ⟨hbytes, -, hqueued⟩ := timedOut_eq_some hout
      exact ⟨s, hs, hbytes.symm, hqueued.symm⟩
    · exact ⟨s', hs, rfl, rfl⟩

theorem timeoutScan_fewer (now : UInt64) (tx : ReliableTxState) (seqs : List UInt32) :
    (timeoutScan B now tx seqs).1.Fewer tx := by
  induction seqs generalizing tx with
  | nil => exact .refl tx
  | cons seq rest ih => exact (ih _).trans (timeoutEntry_fewer now tx seq)

theorem queueReliableRetransmit_none {seq : UInt32}
    (h : (tx.queueReliableRetransmit seq).2 = none) : (tx.queueReliableRetransmit seq).1 = tx := by
  unfold queueReliableRetransmit at h ⊢
  split
  · rfl
  · split
    · rfl
    · rename_i s hs hq
      simp [hs, hq] at h

theorem queueReliableRetransmit_get {seq : UInt32} {s : ReliableSent} (hs : tx.sent[seq]? = some s)
    (hq : s.queued = false) (q : UInt32) :
    (tx.queueReliableRetransmit seq).1.sent[q]? =
      if seq = q then some { s with queued := true, partialAcked := false } else tx.sent[q]? := by
  simp only [queueReliableRetransmit, hs, hq, Bool.false_eq_true, if_false, OrdMap.get?_modify]
  split
  · rename_i heq
    rw [← heq, hs]
    rfl
  · rfl

end ReliableTxState

namespace TxStreams
variable {B : Build} {S : Schema} {streams streams' : TxStreams S}

def Fewer (streams' streams : TxStreams S) : Prop :=
  ∀ key, (streams'.at key).Fewer (streams.at key)

theorem Fewer.of_eq (h : streams' = streams) : Fewer streams' streams := by
  intro key
  rw [h]
  exact .refl _

theorem update_fewer (key : StreamKey S) {f : ReliableTxState → ReliableTxState}
    (hf : ∀ tx, (f tx).Fewer tx) : Fewer (streams.update key f) streams := by
  intro k
  rw [at_update]
  split
  · exact hf _
  · exact .refl _

theorem timeoutScan_fewer (now : UInt64) : Fewer (streams.timeoutScan B now).1 streams := by
  intro k
  rw [at_timeoutScan]
  exact ReliableTxState.timeoutScan_fewer now _ _

theorem removeSide_fewer (side : Nat) : Fewer (streams.removeSide side) streams := by
  intro k
  rw [at_removeSide]
  split
  · exact ⟨fun h => by simp [ReliableTxState.fresh] at h⟩
  · exact .refl _

/-- The flag of an entry, where there is one. -/
def queuedFlag (streams : TxStreams S) (e : StreamKey S × UInt32) : Option Bool :=
  (streams.at e.1).sent[e.2]?.map fun s => s.queued

end TxStreams

section ReplayKeys
variable (B : Build) (S : Schema)

/-- The stream and number of the frame a replay carries. -/
def replayKey (replay : Nat × List UInt8) : Option (StreamKey S × UInt32) :=
  match peekFrameInfo B S replay.2 with
  | .ok ⟨env, some hdr⟩ => some (⟨replay.1, env.ty⟩, hdr.seq)
  | _ => none

variable {B S}

theorem replayKey_of_carries {key : StreamKey S} {hdr : ReliableHeader} {bytes : List UInt8}
    (h : Carries B S key.ty hdr bytes) : replayKey B S (key.side, bytes) = some (key, hdr.seq) := by
  obtain ⟨⟨env, reliable⟩, hpeek, hty, hreliable⟩ := h
  dsimp only at hty hreliable
  simp only [replayKey, hpeek, hty, hreliable]

theorem replayKey_side {replay : Nat × List UInt8} {key : StreamKey S} {seq : UInt32}
    (h : replayKey B S replay = some (key, seq)) : replay.1 = key.side := by
  unfold replayKey at h
  split at h
  · obtain ⟨rfl, -⟩ := Prod.mk.inj (Option.some.inj h)
    rfl
  · cases h

/-- The frame of the replay is still in the history. -/
def TxStreams.Awaits (B : Build) (streams : TxStreams S) (replay : Nat × List UInt8) : Prop :=
  ∃ key seq, replayKey B S replay = some (key, seq) ∧ seq ∈ (streams.at key).sent

end ReplayKeys

namespace HopNode
variable {S : Schema} {σ : Type}

/-- No replay whose frame is still in the history leaves the queue. -/
def KeepsReplays (n : HopNode S σ) (B : Build) (st st' : σ) : Prop :=
  ∀ r ∈ n.replays st, (n.streams st').Awaits B r → r ∈ n.replays st'

/-- Flags and replays agree, entries hold the frames of their numbers, and a replay
of an entry carries that entry's bytes. -/
structure FlagLedger (n : HopNode S σ) (B : Build) (st : σ) : Prop where
  flags : Truthful (n.streams st).queuedFlag ((n.replays st).filterMap (replayKey B S))
  carried : ∀ {key : StreamKey S} {seq : UInt32} {s : ReliableSent},
    ((n.streams st).at key).sent[seq]? = some s →
      replayKey B S (key.side, s.bytes) = some (key, seq)
  own : ∀ {r : Nat × List UInt8} {key : StreamKey S} {seq : UInt32} {s : ReliableSent},
    r ∈ n.replays st → replayKey B S r = some (key, seq) →
      ((n.streams st).at key).sent[seq]? = some s → r.2 = s.bytes

namespace FlagLedger
variable {n : HopNode S σ} {B : Build} {st st' : σ}

theorem empty (hstreams : n.streams st = ∅) (hreplays : n.replays st = []) :
    n.FlagLedger B st := by
  have hnone : ∀ (key : StreamKey S) (seq : UInt32), ((n.streams st).at key).sent[seq]? = none := by
    intro key seq
    rw [hstreams]
    simp [TxStreams.at, ReliableTxState.fresh]
  refine ⟨?_, fun hs => ?_, fun hr => ?_⟩
  · rw [hreplays]
    exact .empty _ fun k => by simp [TxStreams.queuedFlag, hnone]
  · rw [hnone] at hs
    cases hs
  · rw [hreplays] at hr
    cases hr

/-- The flag of an entry says whether its frame waits for its side. -/
theorem queued_iff (h : n.FlagLedger B st) {key : StreamKey S} {seq : UInt32} {s : ReliableSent}
    (hs : ((n.streams st).at key).sent[seq]? = some s) :
    s.queued = true ↔ (key.side, s.bytes) ∈ n.replays st := by
  have hflag : (n.streams st).queuedFlag (key, seq) = some s.queued := by
    simp [TxStreams.queuedFlag, hs]
  rw [h.flags.flagged hflag, List.mem_filterMap]
  constructor
  · rintro ⟨r, hr, hkey⟩
    have hbytes := h.own hr hkey hs
    have hside := replayKey_side hkey
    rw [← hbytes, ← hside]
    exact hr
  · intro hr
    exact ⟨_, hr, h.carried hs⟩

theorem keepsLive (hkeep : n.KeepsReplays B st st') :
    KeepsLive (n.streams st').queuedFlag ((n.replays st).filterMap (replayKey B S))
      ((n.replays st').filterMap (replayKey B S)) := by
  intro k hk hlive
  obtain ⟨r, hr, hkey⟩ := List.mem_filterMap.mp hk
  refine List.mem_filterMap.mpr ⟨r, hkeep r hr ⟨k.1, k.2, hkey, ?_⟩, hkey⟩
  obtain ⟨b, hb⟩ := Option.isSome_iff_exists.mp hlive
  obtain ⟨s, hs, -⟩ := Option.map_eq_some_iff.mp hb
  exact OrdMap.mem_iff_get?.mpr ⟨s, hs⟩

theorem queuedFlag_of_fewer (hstreams : TxStreams.Fewer (n.streams st') (n.streams st))
    {k : StreamKey S × UInt32} {b : Bool} (hk : (n.streams st').queuedFlag k = some b) :
    (n.streams st).queuedFlag k = some b := by
  obtain ⟨s', hs', rfl⟩ := Option.map_eq_some_iff.mp hk
  obtain ⟨s, hs, -, hqueued⟩ := (hstreams k.1).entry hs'
  simp [TxStreams.queuedFlag, hs, hqueued]

/-- Entries and replays go, but no replay of an entry that stays. -/
theorem lose (h : n.FlagLedger B st)
    (hstreams : TxStreams.Fewer (n.streams st') (n.streams st))
    (hsub : (n.replays st').Subperm (n.replays st)) (hkeep : n.KeepsReplays B st st') :
    n.FlagLedger B st' := by
  refine ⟨h.flags.lose (queuedFlag_of_fewer hstreams) ?_ (keepsLive hkeep), fun hs' => ?_,
    fun hr hkey hs' => ?_⟩
  · obtain ⟨kept, hperm, hkept⟩ := hsub
    exact ⟨kept.filterMap (replayKey B S), hperm.filterMap _, hkept.filterMap _⟩
  · obtain ⟨s, hs, hbytes, -⟩ := (hstreams _).entry hs'
    rw [← hbytes]
    exact h.carried hs
  · obtain ⟨s, hs, hbytes, -⟩ := (hstreams _).entry hs'
    rw [← hbytes]
    exact h.own (hsub.subset hr) hkey hs

/-- Entries go; the queue stands. -/
theorem forget (h : n.FlagLedger B st)
    (hstreams : TxStreams.Fewer (n.streams st') (n.streams st))
    (hreplays : n.replays st' = n.replays st) : n.FlagLedger B st' := by
  refine h.lose hstreams (by rw [hreplays]) fun r hr _ => ?_
  rw [hreplays]
  exact hr

/-- A frame enters the history under a number no queued replay carries. -/
theorem send (h : n.FlagLedger B st) {key : StreamKey S} {seq : UInt32}
    (hentry : ∀ {k : StreamKey S} {q : UInt32} {s' : ReliableSent},
      ((n.streams st').at k).sent[q]? = some s' →
        (k = key ∧ q = seq ∧ s'.queued = false ∧
          replayKey B S (key.side, s'.bytes) = some (key, seq)) ∨
        ((n.streams st).at k).sent[q]? = some s')
    (hreplays : n.replays st' = n.replays st)
    (hfresh : ∀ r ∈ n.replays st, replayKey B S r ≠ some (key, seq)) : n.FlagLedger B st' := by
  refine ⟨?_, fun hs' => ?_, fun hr hkey hs' => ?_⟩
  · rw [hreplays]
    refine h.flags.insert (k := (key, seq)) (fun hmem => ?_) fun {k' b} hk' => ?_
    · obtain ⟨r, hr, hkey⟩ := List.mem_filterMap.mp hmem
      exact hfresh r hr hkey
    · obtain ⟨s', hs', rfl⟩ := Option.map_eq_some_iff.mp hk'
      rcases hentry hs' with ⟨hk, hq, hqueued, -⟩ | hold
      · exact .inl ⟨Prod.ext hk hq, hqueued⟩
      · exact .inr (by simp [TxStreams.queuedFlag, hold])
  · rcases hentry hs' with ⟨rfl, rfl, -, hkey⟩ | hold
    · exact hkey
    · exact h.carried hold
  · rw [hreplays] at hr
    rcases hentry hs' with ⟨rfl, rfl, -, -⟩ | hold
    · exact absurd hkey (hfresh _ hr)
    · exact h.own hr hkey hold

/-- An entry is flagged and its replay pushed. -/
theorem mark (h : n.FlagLedger B st) {key : StreamKey S} {seq : UInt32} {s : ReliableSent}
    (hs : ((n.streams st).at key).sent[seq]? = some s) (hq : s.queued = false)
    (hstreams : n.streams st' = ((n.streams st).queueReliableRetransmit key seq).1)
    {kept : List (Nat × List UInt8)} (hkept : kept.Sublist (n.replays st))
    (hperm : (n.replays st').Perm ((key.side, s.bytes) :: kept))
    (hkeep : n.KeepsReplays B st st') : n.FlagLedger B st' := by
  have hkey := h.carried hs
  -- every entry has its bytes, and all but the marked one their flag
  have hentry : ∀ {k : StreamKey S} {q : UInt32} {s' : ReliableSent},
      ((n.streams st').at k).sent[q]? = some s' →
        ∃ s₀ : ReliableSent, ((n.streams st).at k).sent[q]? = some s₀ ∧ s₀.bytes = s'.bytes ∧
          (((k, q) = (key, seq) ∧ s'.queued = true) ∨
            ((k, q) ≠ (key, seq) ∧ s₀.queued = s'.queued)) := by
    intro k q s' hs'
    rw [hstreams, TxStreams.queueReliableRetransmit, TxStreams.at_update] at hs'
    split at hs'
    · rename_i heq
      subst heq
      rw [ReliableTxState.queueReliableRetransmit_get hs hq] at hs'
      split at hs'
      · rename_i hseq
        subst hseq
        obtain rfl := Option.some.inj hs'
        exact ⟨s, hs, rfl, .inl ⟨rfl, rfl⟩⟩
      · rename_i hseq
        exact ⟨s', hs', rfl, .inr ⟨fun heq => hseq (Prod.mk.inj heq).2.symm, rfl⟩⟩
    · rename_i hne
      exact ⟨s', hs', rfl, .inr ⟨fun heq => hne (Prod.mk.inj heq).1.symm, rfl⟩⟩
  refine ⟨?_, fun hs' => ?_, fun hr hkey' hs' => ?_⟩
  · have htokens := hperm.filterMap (replayKey B S)
    rw [List.filterMap_cons, hkey] at htokens
    refine h.flags.mark (k := (key, seq)) (by simp [TxStreams.queuedFlag, hs, hq])
      (fun {k b} hk => ?_) (hkept.filterMap _) htokens (keepsLive hkeep)
    obtain ⟨s', hs', rfl⟩ := Option.map_eq_some_iff.mp hk
    obtain ⟨s₀, hs₀, -, ⟨heq, hset⟩ | ⟨hne, hsame⟩⟩ := hentry hs'
    · exact .inl ⟨heq, hset⟩
    · exact .inr ⟨hne, by simp [TxStreams.queuedFlag, hs₀, hsame]⟩
  · obtain ⟨s₀, hs₀, hbytes, -⟩ := hentry hs'
    rw [← hbytes]
    exact h.carried hs₀
  · obtain ⟨s₀, hs₀, hbytes, -⟩ := hentry hs'
    rw [← hbytes]
    rcases List.mem_cons.mp (hperm.mem_iff.mp hr) with rfl | hr
    · obtain ⟨rfl, rfl⟩ := Prod.mk.inj (Option.some.inj (hkey.symm.trans hkey'))
      obtain rfl := Option.some.inj (hs.symm.trans hs₀)
      rfl
    · exact h.own (hkept.subset hr) hkey' hs₀

/-- The front replay went out and its entry is unflagged. -/
theorem settle (h : n.FlagLedger B st) {r : Nat × List UInt8} {key : StreamKey S} {seq : UInt32}
    (now : UInt64) (hpop : n.replays st = r :: n.replays st')
    (hkey : replayKey B S r = some (key, seq))
    (hstreams : ∀ k, (n.streams st').at k =
      if key = k then ((n.streams st).at k).markReplayed seq now else (n.streams st).at k) :
    n.FlagLedger B st' := by
  have hentry : ∀ {k : StreamKey S} {q : UInt32} {s' : ReliableSent},
      ((n.streams st').at k).sent[q]? = some s' →
        ∃ s : ReliableSent, ((n.streams st).at k).sent[q]? = some s ∧ s.bytes = s'.bytes ∧
          (((k, q) = (key, seq) ∧ s'.queued = false) ∨
            ((k, q) ≠ (key, seq) ∧ s.queued = s'.queued)) := by
    intro k q s' hs'
    rw [hstreams] at hs'
    split at hs'
    · rename_i heq
      subst heq
      simp only [ReliableTxState.markReplayed, OrdMap.get?_modify] at hs'
      split at hs'
      · rename_i hseq
        subst hseq
        obtain ⟨s, hs, rfl⟩ := Option.map_eq_some_iff.mp hs'
        exact ⟨s, hs, rfl, .inl ⟨rfl, rfl⟩⟩
      · rename_i hseq
        exact ⟨s', hs', rfl, .inr ⟨fun heq => hseq (Prod.mk.inj heq).2.symm, rfl⟩⟩
    · rename_i hne
      exact ⟨s', hs', rfl, .inr ⟨fun heq => hne (Prod.mk.inj heq).1.symm, rfl⟩⟩
  refine ⟨?_, fun hs' => ?_, fun hr hkey' hs' => ?_⟩
  · have hflags := h.flags
    rw [hpop, List.filterMap_cons, hkey] at hflags
    refine hflags.settle fun {k b} hk => ?_
    obtain ⟨s', hs', rfl⟩ := Option.map_eq_some_iff.mp hk
    obtain ⟨s, hs, -, ⟨heq, hclear⟩ | ⟨hne, hsame⟩⟩ := hentry hs'
    · exact .inl ⟨heq, hclear⟩
    · exact .inr ⟨hne, by simp [TxStreams.queuedFlag, hs, hsame]⟩
  · obtain ⟨s, hs, hbytes, -⟩ := hentry hs'
    rw [← hbytes]
    exact h.carried hs
  · obtain ⟨s, hs, hbytes, -⟩ := hentry hs'
    rw [← hbytes]
    exact h.own (by rw [hpop]; exact List.mem_cons_of_mem _ hr) hkey' hs

end FlagLedger

section Safety
variable (n : HopNode S σ) (B : Build) (takes : σ → Nat → List UInt8 → UInt8 → Prop)

/-- Where `queue_reliable_retransmit` pushes a replay, the queue takes it as `takes`
demands. -/
def RequestSafe (st : σ) (key : StreamKey S) (seq : UInt32) : Prop :=
  match (n.streams st).queueReliableRetransmit key seq with
  | (_, none) => True
  | (streams, some bytes) =>
    takes (n.setStreams st streams) key.side bytes (bumpedPriority key.ty)

def RequeueSafe : σ → List (StreamKey S × UInt32) → Prop
  | _, [] => True
  | st, (key, seq) :: rest =>
    n.RequestSafe takes st key seq ∧ RequeueSafe (n.queueReliableRetransmit st key seq).1 rest

/-- The pushes of `process_reliable_timeouts`. -/
def TimeoutsSafe (now : UInt64) (st : σ) : Prop :=
  n.RequeueSafe takes (n.setStreams st ((n.streams st).timeoutScan B now).1)
    ((n.streams st).timeoutScan B now).2

/-- A popped replay whose frame is still in the history goes out, or finds the gate
busy and is taken back. -/
def ReplaySafe (raw : σ → Outcome Unit) (priorityOf : S.DataType → UInt8) (st : σ)
    (replay : Nat × List UInt8) : Prop :=
  ∀ key seq, replayKey B S replay = some (key, seq) → seq ∈ ((n.streams st).at key).sent →
    let opened := n.setStreams st ((n.streams st).update key id)
    raw opened = .ok () ∨
      raw opened = fail (.io "side tx busy") ∧
        takes opened replay.1 replay.2 (priorityOf key.ty)

/-- In the states of `ok`, a replay that `takes` admits is pushed and evicts none that is
waited for. -/
structure Taking (ok : σ → Prop) : Prop extends n.Closed ok where
  accepted : ∀ {st dst bytes priority}, ok st → takes st dst bytes priority →
    (n.pushReplay st dst bytes priority).2 = .ok () ∧
      n.KeepsReplays B st (n.pushReplay st dst bytes priority).1

end Safety

section Preservation
variable {n : HopNode S σ} {B : Build} {takes : σ → Nat → List UInt8 → UInt8 → Prop} {ok : σ → Prop}
  {st : σ}

theorem queueReliableRetransmit_ledger (htaking : n.Taking B takes ok) (hok : ok st)
    (h : n.FlagLedger B st) {key : StreamKey S} {seq : UInt32}
    (hsafe : n.RequestSafe takes st key seq) :
    n.FlagLedger B (n.queueReliableRetransmit st key seq).1 := by
  unfold queueReliableRetransmit
  unfold RequestSafe at hsafe
  generalize hmark : (n.streams st).queueReliableRetransmit key seq = r at hsafe ⊢
  obtain ⟨streams, _ | bytes⟩ := r
  · -- nothing was marked
    obtain ⟨hstreams, hnone⟩ := Prod.mk.inj hmark
    refine h.forget ?_ (n.replays_setStreams _ _)
    rw [n.streams_setStreams, ← hstreams]
    intro k
    rw [TxStreams.at_update]
    split
    · rename_i heq
      subst heq
      rw [ReliableTxState.queueReliableRetransmit_none hnone]
      exact .refl _
    · exact .refl _
  · obtain ⟨s, hs, rfl, hq⟩ := ReliableTxState.queueReliableRetransmit_bytes (Prod.mk.inj hmark).2
    obtain ⟨hpushed, hkept⟩ := htaking.accepted (htaking.setStreams hok) hsafe
    rcases n.replays_pushReplay (n.setStreams st streams) key.side s.bytes (bumpedPriority key.ty)
      with ⟨kept, hsub, hperm, -⟩ | ⟨-, e, he⟩
    · rw [n.replays_setStreams] at hsub
      refine h.mark hs hq ?_ hsub hperm fun r hr hawaits => ?_
      · rw [n.streams_pushReplay, n.streams_setStreams, hmark]
      · exact hkept r (by rwa [n.replays_setStreams]) hawaits
    · rw [he] at hpushed
      cases hpushed

theorem requeueReliable_ledger (htaking : n.Taking B takes ok) (again : List (StreamKey S × UInt32))
    (hok : ok st) (h : n.FlagLedger B st) (hsafe : n.RequeueSafe takes st again) :
    n.FlagLedger B (n.requeueReliable st again).1 := by
  induction again generalizing st with
  | nil => exact h
  | cons e rest ih =>
    obtain ⟨hfirst, hrest⟩ := hsafe
    have hmark := queueReliableRetransmit_ledger htaking hok h hfirst
    have hok' := htaking.queueReliableRetransmit e.1 e.2 hok
    unfold requeueReliable
    generalize n.queueReliableRetransmit st e.1 e.2 = r at hmark hrest hok'
    obtain ⟨st', _ | ⟨⟨⟩⟩⟩ := r
    · exact hmark
    · exact ih hok' hmark hrest

theorem processReliableTimeouts_ledger (htaking : n.Taking B takes ok) {now : UInt64} (hok : ok st)
    (h : n.FlagLedger B st) (hsafe : n.TimeoutsSafe B takes now st) :
    n.FlagLedger B (n.processReliableTimeouts B now st).1 := by
  unfold processReliableTimeouts
  split
  · exact h
  · refine requeueReliable_ledger htaking _ (htaking.setStreams hok)
      (h.forget ?_ (n.replays_setStreams _ _)) hsafe
    rw [n.streams_setStreams]
    exact TxStreams.timeoutScan_fewer now

variable {raw : σ → Outcome Unit} {putBack : σ → σ × Outcome Unit} {doneMs : UInt64} {dst : Nat}
  {bytes : List UInt8} {popped : σ}

/-- A popped replay that has no entry left is dropped. -/
theorem FlagLedger.drop {opened : σ} (h : n.FlagLedger B st)
    (hpop : n.replays st = (dst, bytes) :: n.replays popped)
    (hat : ∀ k, (n.streams opened).at k = (n.streams st).at k)
    (hreplays : n.replays opened = n.replays popped)
    (hgone : ¬(n.streams st).Awaits B (dst, bytes)) : n.FlagLedger B opened := by
  refine h.lose (fun k => ?_) ?_ fun r hr hawaits => ?_
  · rw [hat]
    exact .refl _
  · rw [hreplays, hpop]
    exact .cons_self
  · obtain ⟨key, seq, hkey, hmem⟩ := hawaits
    rw [hat] at hmem
    rw [hpop] at hr
    rw [hreplays]
    rcases List.mem_cons.mp hr with rfl | hr
    · exact absurd ⟨key, seq, hkey, hmem⟩ hgone
    · exact hr

/-- A popped replay is taken back into the queue. -/
theorem FlagLedger.takeBack {opened : σ} {priority : UInt8} (h : n.FlagLedger B st)
    (hpop : n.replays st = (dst, bytes) :: n.replays popped)
    (hat : ∀ k, (n.streams opened).at k = (n.streams st).at k)
    (hreplays : n.replays opened = n.replays popped)
    (hpushed : (n.pushReplay opened dst bytes priority).2 = .ok ())
    (hkept : n.KeepsReplays B opened (n.pushReplay opened dst bytes priority).1) :
    n.FlagLedger B (n.pushReplay opened dst bytes priority).1 := by
  rcases n.replays_pushReplay opened dst bytes priority with ⟨kept, hsub, hperm, -⟩ | ⟨-, e, he⟩
  · rw [hreplays] at hsub
    refine h.lose (fun k => ?_) ?_ fun r hr hawaits => ?_
    · rw [n.streams_pushReplay, hat]
      exact .refl _
    · rw [hpop]
      exact hperm.subperm.trans (hsub.cons_cons _).subperm
    · rw [hpop] at hr
      rcases List.mem_cons.mp hr with rfl | hr
      · exact hperm.mem_iff.mpr List.mem_cons_self
      · exact hkept r (by rwa [hreplays]) hawaits
  · rw [he] at hpushed
    cases hpushed

theorem isSideTxBusy_busy : isSideTxBusy (.err (.io "side tx busy")) = true := by decide

/-- Processing the front replay, which `putBack` pushes again. -/
theorem processReplay_ledger {priorityOf : S.DataType → UInt8} (htaking : n.Taking B takes ok)
    (hback : ∀ {key seq}, replayKey B S (dst, bytes) = some (key, seq) →
      ∀ st, putBack st = n.pushReplay st dst bytes (priorityOf key.ty))
    (hok : ok popped) (h : n.FlagLedger B st)
    (hpop : n.replays st = (dst, bytes) :: n.replays popped)
    (hstreams : n.streams popped = n.streams st)
    (hsafe : n.ReplaySafe B takes raw priorityOf popped (dst, bytes)) :
    n.FlagLedger B (n.processReplay B raw putBack doneMs popped dst bytes).1 := by
  unfold processReplay
  have hdropped (hnone : replayKey B S (dst, bytes) = none) : n.FlagLedger B popped := by
    refine h.drop hpop (fun k => by rw [hstreams]) rfl ?_
    rintro ⟨key, seq, hkey, -⟩
    rw [hnone] at hkey
    cases hkey
  split
  · rename_i hpeek
    exact hdropped (by simp [replayKey, hpeek])
  · rename_i hpeek
    exact hdropped (by simp [replayKey, hpeek])
  · rename_i env hdr hpeek
    have hkey : replayKey B S (dst, bytes) = some (⟨dst, env.ty⟩, hdr.seq) := by
      simp [replayKey, hpeek]
    have hopened : ∀ k, (n.streams (n.setStreams popped
        ((n.streams popped).update ⟨dst, env.ty⟩ id))).at k = (n.streams st).at k := by
      intro k
      rw [n.streams_setStreams, TxStreams.at_update, hstreams]
      split <;> rfl
    have hreplays := n.replays_setStreams popped ((n.streams popped).update ⟨dst, env.ty⟩ id)
    dsimp only
    split
    · rename_i hmem
      rw [hopened] at hmem
      rcases hsafe _ _ hkey (by rwa [hstreams]) with hsent | ⟨hbusy, htakes⟩
      · rw [hsent]
        refine h.settle doneMs ?_ hkey fun k => ?_
        · rw [n.replays_setStreams, hreplays]
          exact hpop
        · rw [n.streams_setStreams, TxStreams.markReplayed, TxStreams.at_update, hopened]
      · obtain ⟨hpushed, hkept⟩ := htaking.accepted (htaking.setStreams hok) htakes
        have hledger := h.takeBack hpop hopened hreplays hpushed hkept
        rw [← hback hkey] at hledger
        rw [hbusy, fail]
        dsimp only
        rw [if_pos isSideTxBusy_busy]
        split <;> rename_i heq <;> rw [heq] at hledger <;> exact hledger
    · rename_i hmem
      rw [hopened] at hmem
      refine h.drop hpop hopened hreplays ?_
      rintro ⟨key, seq, hkey', hmem'⟩
      obtain ⟨rfl, rfl⟩ := Prod.mk.inj (Option.some.inj (hkey.symm.trans hkey'))
      exact hmem hmem'

/-- A send, where no queued replay carries the number it takes. -/
theorem execute_ledger {full : String} {attempts : (Nat → Outcome Unit) → Outcome Unit}
    {tx : SideTx S} {handler : TxHandlerFn} {side : Nat} {data : RouterItem S} {plan : SendPlan S}
    (hfits : plan.Fits B data) (h : n.FlagLedger B st)
    (hfresh : ∀ ty, plan = .number ty → ∀ r ∈ n.replays st,
      replayKey B S r ≠ some (⟨side, ty⟩, ((n.streams st).at ⟨side, ty⟩).nextSeq)) :
    n.FlagLedger B (n.setStreams st
      (plan.execute B full attempts tx handler side data (n.streams st)).streams) := by
  have hkeep {streams : TxStreams S} (hstreams : TxStreams.Fewer streams (n.streams st)) :
      n.FlagLedger B (n.setStreams st streams) :=
    h.forget (by rwa [n.streams_setStreams]) (n.replays_setStreams _ _)
  -- a number taken without a record leaves every entry as it was
  have htaken (key : StreamKey S) (seq : UInt32) : n.FlagLedger B (n.setStreams st
      ((n.streams st).insert key { (n.streams st).at key with nextSeq := seq })) := by
    refine hkeep fun k => ?_
    rw [TxStreams.at_insert]
    split
    · rename_i heq
      subst heq
      exact ⟨fun hs => ⟨_, hs, rfl, rfl⟩⟩
    · exact .refl _
  cases plan with
  | done => exact hkeep (.of_eq rfl)
  | direct adjusted => exact hkeep (.of_eq rfl)
  | number ty =>
    have hout := @SendPlan.execute_number B S full attempts tx handler side data (n.streams st) ty
      hfits
    generalize (SendPlan.number ty).execute B full attempts tx handler side data (n.streams st) = r
      at hout
    cases hout with
    | full _ => exact hkeep (TxStreams.update_fewer _ .refl)
    | panicked halloc _ =>
      obtain ⟨-, rfl, rfl⟩ := ReliableTxState.allocate_eq_some halloc
      exact htaken _ _
    | refused halloc _ _ =>
      obtain ⟨-, rfl, rfl⟩ := ReliableTxState.allocate_eq_some halloc
      exact htaken _ _
    | @sent seq taken bytes halloc _ hcarries _ =>
      obtain ⟨-, rfl, rfl⟩ := ReliableTxState.allocate_eq_some halloc
      have hnew := hfresh ty rfl
      refine h.send (fun {k q s'} hs' => ?_) (n.replays_setStreams _ _) hnew
      rw [n.streams_setStreams, TxStreams.at_insert] at hs'
      split at hs'
      · rename_i heq
        subst heq
        simp only [ReliableTxState.record, OrdMap.get?_insert] at hs'
        split at hs'
        · rename_i hq
          obtain rfl := Option.some.inj hs'
          exact .inl ⟨rfl, hq.symm, rfl, replayKey_of_carries hcarries⟩
        · exact .inr hs'
      · exact .inr hs'

end Preservation

section Relations

/-- A relation that the operations on a node keep as long as their pushes are
safe. -/
structure Admits (n : HopNode S σ) (takes : σ → Nat → List UInt8 → UInt8 → Prop) (ok : σ → Prop)
    (rel : σ → σ → Prop) : Prop extends n.Closed ok where
  refl : ∀ st, rel st st
  trans : ∀ {st st' st''}, rel st st' → rel st' st'' → rel st st''
  streams : ∀ st streams, rel st (n.setStreams st streams)
  replay : ∀ {st dst bytes priority}, ok st → takes st dst bytes priority →
    rel st (n.pushReplay st dst bytes priority).1

namespace Admits
variable {n : HopNode S σ} {B : Build} {takes : σ → Nat → List UInt8 → UInt8 → Prop} {ok : σ → Prop}
  {rel : σ → σ → Prop} {st : σ}

theorem queueReliableRetransmit (hrel : n.Admits takes ok rel) (hok : ok st) {key : StreamKey S}
    {seq : UInt32} (hsafe : n.RequestSafe takes st key seq) :
    rel st (n.queueReliableRetransmit st key seq).1 := by
  unfold HopNode.queueReliableRetransmit
  unfold RequestSafe at hsafe
  generalize (n.streams st).queueReliableRetransmit key seq = r at hsafe ⊢
  obtain ⟨streams, _ | bytes⟩ := r
  · exact hrel.streams _ _
  · exact hrel.trans (hrel.streams _ _) (hrel.replay (hrel.setStreams hok) hsafe)

theorem requeueReliable (hrel : n.Admits takes ok rel) (again : List (StreamKey S × UInt32))
    (hok : ok st) (hsafe : n.RequeueSafe takes st again) : rel st (n.requeueReliable st again).1 := by
  induction again generalizing st with
  | nil => exact hrel.refl st
  | cons e rest ih =>
    obtain ⟨hfirst, hrest⟩ := hsafe
    have hmark := hrel.queueReliableRetransmit hok hfirst
    have hok' := hrel.toClosed.queueReliableRetransmit e.1 e.2 hok
    unfold HopNode.requeueReliable
    generalize n.queueReliableRetransmit st e.1 e.2 = r at hmark hrest hok'
    obtain ⟨st', _ | ⟨⟨⟩⟩⟩ := r
    · exact hmark
    · exact hrel.trans hmark (ih hok' hrest)

theorem processReliableTimeouts (hrel : n.Admits takes ok rel) {now : UInt64} (hok : ok st)
    (hsafe : n.TimeoutsSafe B takes now st) : rel st (n.processReliableTimeouts B now st).1 := by
  unfold HopNode.processReliableTimeouts
  split
  · exact hrel.refl st
  · exact hrel.trans (hrel.streams _ _) (hrel.requeueReliable _ (hrel.setStreams hok) hsafe)

theorem processReplay (hrel : n.Admits takes ok rel) {raw : σ → Outcome Unit}
    {putBack : σ → σ × Outcome Unit} {priorityOf : S.DataType → UInt8} {doneMs : UInt64} {dst : Nat}
    {bytes : List UInt8}
    (hback : ∀ {key seq}, replayKey B S (dst, bytes) = some (key, seq) →
      ∀ st, putBack st = n.pushReplay st dst bytes (priorityOf key.ty))
    (hok : ok st) (hsafe : n.ReplaySafe B takes raw priorityOf st (dst, bytes)) :
    rel st (n.processReplay B raw putBack doneMs st dst bytes).1 := by
  unfold HopNode.processReplay
  split
  · exact hrel.refl st
  · exact hrel.refl st
  · rename_i env hdr hpeek
    have hkey : replayKey B S (dst, bytes) = some (⟨dst, env.ty⟩, hdr.seq) := by
      simp [replayKey, hpeek]
    have hopen := hrel.streams st ((n.streams st).update ⟨dst, env.ty⟩ id)
    dsimp only
    split
    · rename_i hmem
      have hlive : hdr.seq ∈ ((n.streams st).at ⟨dst, env.ty⟩).sent := by
        rw [n.streams_setStreams, TxStreams.at_update, if_pos rfl] at hmem
        exact hmem
      rcases hsafe ⟨dst, env.ty⟩ hdr.seq hkey hlive with hsent | ⟨hbusy, htakes⟩
      · rw [hsent]
        exact hrel.trans hopen (hrel.streams _ _)
      · have hpushed := hrel.trans hopen (hrel.replay (hrel.setStreams hok) htakes)
        rw [← hback hkey] at hpushed
        rw [hbusy, fail]
        dsimp only
        rw [if_pos isSideTxBusy_busy]
        split <;> rename_i heq <;> rw [heq] at hpushed <;> exact hpushed
    · exact hopen

end Admits
end Relations

end HopNode
end Sedsprintf
