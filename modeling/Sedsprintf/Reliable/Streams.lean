import Sedsprintf.Node
import Sedsprintf.Lib.Runs

/-!
# All the reliable streams of a node

The locked parts of the reliable operations on `reliable_tx`, and what any of
them can do to it, as one list of stream operations (`TxOp`). `TxHistory` adds
two history variables, the numbers taken and the numbers handed to a TX handler
with success, which nothing reads.
-/
namespace Sedsprintf

open Lib

/-- The `n`-th number of a stream: counted from one, stepping over zero. -/
def seqAt (n : Nat) : UInt32 := nextSeqAfter^[n] 1

theorem seqAt_succ (n : Nat) : seqAt (n + 1) = nextSeqAfter (seqAt n) :=
  Function.iterate_succ_apply' _ _ _

theorem seqAt_toNat {n : Nat} (h : n + 1 < 2 ^ 32) : (seqAt n).toNat = n + 1 := by
  induction n with
  | zero => rfl
  | succ n ih =>
    have hn := ih (by omega)
    rw [seqAt_succ, nextSeqAfter_toNat (by omega), hn]

namespace TxStreams
variable {S : Schema} (B : Build) (streams : TxStreams S)

/-- Work on the stream `reliable_tx_state_mut` opens. -/
def update (key : StreamKey S) (f : ReliableTxState → ReliableTxState) : TxStreams S :=
  streams.insert key (f (streams.at key))

def handleReliableAck (key : StreamKey S) (ack : UInt32) : TxStreams S :=
  streams.update key fun tx => tx.handleReliableAck S key.ty ack

def handleReliablePartialAck (key : StreamKey S) (seq : UInt32) : TxStreams S :=
  streams.update key fun tx => tx.handleReliablePartialAck seq

/-- The locked part of `queue_reliable_retransmit`. -/
def queueReliableRetransmit (key : StreamKey S) (seq : UInt32) :
    TxStreams S × Option (List UInt8) :=
  (streams.update key fun tx => (tx.queueReliableRetransmit seq).1,
    ((streams.at key).queueReliableRetransmit seq).2)

/-- The locked part of `process_reliable_timeouts`, and what it is to queue again. -/
def timeoutScan (now : UInt64) : TxStreams S × List (StreamKey S × UInt32) :=
  (streams.map fun _ tx => (ReliableTxState.timeoutScan B now tx tx.sentOrder).1,
    streams.toList.flatMap fun e =>
      (ReliableTxState.timeoutScan B now e.2 e.2.sentOrder).2.map fun seq => (e.1, seq))

def markReplayed (key : StreamKey S) (seq : UInt32) (now : UInt64) : TxStreams S :=
  streams.update key fun tx => tx.markReplayed seq now

/-- `reliable_tx.retain` of `remove_side`. -/
def removeSide (side : Nat) : TxStreams S := streams.filter fun key _ => key.side ≠ side

variable {streams}

theorem at_update (key k : StreamKey S) (f : ReliableTxState → ReliableTxState) :
    TxStreams.at (streams.update key f) k = if key = k then f (streams.at k) else streams.at k := by
  unfold update
  rw [TxStreams.at_insert]
  split
  · rename_i heq
    rw [heq]
  · rfl

theorem at_timeoutScan (now : UInt64) (k : StreamKey S) :
    TxStreams.at (streams.timeoutScan B now).1 k =
      (ReliableTxState.timeoutScan B now (streams.at k) (streams.at k).sentOrder).1 := by
  unfold TxStreams.at timeoutScan
  rw [Std.ExtTreeMap.getElem?_map]
  cases streams[k]? with
  | none => rfl
  | some tx => rfl

theorem at_removeSide (side : Nat) (k : StreamKey S) :
    TxStreams.at (streams.removeSide side) k = if k.side = side then .fresh else streams.at k := by
  unfold TxStreams.at removeSide
  rw [Std.ExtTreeMap.getElem?_filter']
  by_cases heq : k.side = side
  · cases streams[k]? with
    | none => simp
    | some tx => simp [heq, Option.filter]
  · cases streams[k]? with
    | none => simp [heq]
    | some tx => simp [heq, Option.filter]

end TxStreams

/-- What can happen to the streams of a node. -/
inductive TxOp (S : Schema) where
  /-- A number is taken; `handed` is the frame a handler then took, and when. -/
  | send (key : StreamKey S) (handed : Option (List UInt8 × UInt64))
  /-- `reliable_tx_state_mut` alone. -/
  | touch (key : StreamKey S)
  | ack (key : StreamKey S) (ack : UInt32)
  | partialAck (key : StreamKey S) (seq : UInt32)
  | mark (key : StreamKey S) (seq : UInt32)
  | scan (now : UInt64)
  | replayed (key : StreamKey S) (seq : UInt32) (now : UInt64)
  | removeSide (side : Nat)

structure TxHistory (S : Schema) where
  streams : TxStreams S
  numbered : List (StreamKey S)
  handed : List (StreamKey S × UInt32)

namespace TxHistory
variable {B : Build} {S : Schema}

def initial : TxHistory S := ⟨∅, [], []⟩

/-- Frames numbered on a stream. -/
def frames (h : TxHistory S) (key : StreamKey S) : Nat := h.numbered.count key

/-- Numbers handed out on a stream, in order. -/
def handedOn (h : TxHistory S) (key : StreamKey S) : List UInt32 :=
  (h.handed.filter fun e => e.1 = key).map fun e => e.2

def sendOp (B : Build) (h : TxHistory S) (key : StreamKey S)
    (handed : Option (List UInt8 × UInt64)) : Option (TxHistory S) :=
  match (h.streams.at key).allocate B with
  | none => none
  | some (seq, tx) =>
    match handed with
    | none => some ⟨h.streams.insert key tx, h.numbered ++ [key], h.handed⟩
    | some (bytes, now) =>
      some ⟨h.streams.insert key (tx.record seq bytes now), h.numbered ++ [key],
        h.handed ++ [(key, seq)]⟩

def step (B : Build) (h : TxHistory S) : TxOp S → Option (TxHistory S)
  | .send key handed => h.sendOp B key handed
  | .touch key => some { h with streams := h.streams.update key id }
  | .ack key ack => some { h with streams := h.streams.handleReliableAck key ack }
  | .partialAck key seq => some { h with streams := h.streams.handleReliablePartialAck key seq }
  | .mark key seq => some { h with streams := (h.streams.queueReliableRetransmit key seq).1 }
  | .scan now => some { h with streams := (h.streams.timeoutScan B now).1 }
  | .replayed key seq now => some { h with streams := h.streams.markReplayed key seq now }
  | .removeSide side =>
    some ⟨h.streams.removeSide side, h.numbered.filter fun key => key.side ≠ side,
      h.handed.filter fun e => e.1.side ≠ side⟩

/-- A frame goes out under the number it was built for, on a reliable type. -/
def Genuine (B : Build) (h : TxHistory S) : TxOp S → Prop
  | .send key handed => S.isReliableType key.ty = true ∧ ∀ bytes now, handed = some (bytes, now) →
      Carries B S key.ty ⟨reliableFlags S key.ty, (h.streams.at key).nextSeq, 0⟩ bytes
  | _ => True

/-- The history of every stream counts its numbers, and is consistent as long as
they have not wrapped. -/
structure Sound (B : Build) (h : TxHistory S) : Prop where
  nextSeq : ∀ key, (h.streams.at key).nextSeq = seqAt (h.frames key)
  consistent : ∀ key, h.frames key < 2 ^ 32 - 1 →
    (h.streams.at key).Consistent B S key.ty

namespace Sound
variable {h h' : TxHistory S}

theorem initial : Sound B (TxHistory.initial : TxHistory S) where
  nextSeq key := by simp [TxHistory.initial, TxStreams.at, frames, seqAt, ReliableTxState.fresh]
  consistent key _ := by
    simp only [TxHistory.initial, TxStreams.at, OrdMap.get?_empty, Option.getD_none]
    exact .fresh

/-- Operations that take no number. -/
theorem keep (hsound : Sound B h) (hnumbered : h'.numbered = h.numbered)
    (hnext : ∀ key, (h'.streams.at key).nextSeq = (h.streams.at key).nextSeq)
    (hkeep : ∀ key, (h.streams.at key).Consistent B S key.ty →
      (h'.streams.at key).Consistent B S key.ty) : Sound B h' := by
  have hframes : ∀ key, h'.frames key = h.frames key := fun key => by
    rw [frames, hnumbered]
    rfl
  refine ⟨fun key => ?_, fun key hbound => ?_⟩
  · rw [hnext, hframes]
    exact hsound.nextSeq key
  · rw [hframes] at hbound
    exact hkeep key (hsound.consistent key hbound)

/-- The same for an operation on one stream. -/
theorem update (hsound : Sound B h) (key : StreamKey S) {f : ReliableTxState → ReliableTxState}
    (hnext : ∀ tx, (f tx).nextSeq = tx.nextSeq)
    (hkeep : ∀ tx, tx.Consistent B S key.ty → (f tx).Consistent B S key.ty) :
    Sound B { h with streams := h.streams.update key f } := by
  refine hsound.keep rfl (fun k => ?_) fun k hc => ?_
  · dsimp only
    rw [TxStreams.at_update]
    split
    · exact hnext _
    · rfl
  · dsimp only
    rw [TxStreams.at_update]
    split
    · rename_i heq
      subst heq
      exact hkeep _ hc
    · exact hc

theorem send (hsound : Sound B h) {key : StreamKey S} {handed : Option (List UInt8 × UInt64)}
    (hgenuine : Genuine B h (.send key handed)) (hstep : h.sendOp B key handed = some h') :
    Sound B h' := by
  obtain ⟨-, hcarries⟩ := hgenuine
  unfold sendOp at hstep
  split at hstep
  · cases hstep
  · rename_i seq tx halloc
    have hframes : ∀ k, (h.numbered ++ [key]).count k = h.frames k + if key = k then 1 else 0 := by
      intro k
      rw [List.count_append, List.count_singleton, frames]
      simp only [beq_iff_eq]
    have hnext : tx.nextSeq = nextSeqAfter (h.streams.at key).nextSeq := by
      obtain ⟨-, -, rfl⟩ := ReliableTxState.allocate_eq_some halloc
      rfl
    -- the stream that took the number, whether or not it was recorded
    have hstream : ∀ tx', tx'.nextSeq = tx.nextSeq →
        (h.frames key + 1 < 2 ^ 32 - 1 → tx'.Consistent B S key.ty) → ∀ log,
        Sound B ⟨h.streams.insert key tx', h.numbered ++ [key], log⟩ := by
      intro tx' htx' hc log
      refine ⟨fun k => ?_, fun k hbound => ?_⟩
      · dsimp only [frames] at hframes ⊢
        rw [TxStreams.at_insert, hframes]
        split
        · rename_i heq
          subst heq
          rw [htx', hnext, hsound.nextSeq, ← seqAt_succ]
          rfl
        · exact hsound.nextSeq k
      · dsimp only [frames] at hframes hbound ⊢
        rw [hframes] at hbound
        rw [TxStreams.at_insert]
        split
        · rename_i heq
          subst heq
          exact hc (by simpa [frames] using hbound)
        · rename_i hne
          exact hsound.consistent k (by simpa [hne, frames] using hbound)
    have htaken : h.frames key + 1 < 2 ^ 32 - 1 → tx.Consistent B S key.ty ∧
        seq = (h.streams.at key).nextSeq ∧ seq < tx.nextSeq ∧
        tx.sent.size < B.reliableMaxPending ∧ ∀ q ∈ tx.sent, q < seq := by
      intro hbound
      refine (hsound.consistent key (by omega)).allocate ?_ halloc
      rw [hsound.nextSeq, seqAt_toNat (by omega)]
      omega
    cases handed with
    | none =>
      obtain rfl := Option.some.inj hstep
      exact hstream tx rfl (fun hbound => (htaken hbound).1) _
    | some frame =>
      obtain ⟨bytes, now⟩ := frame
      obtain rfl := Option.some.inj hstep
      refine hstream (tx.record seq bytes now) rfl (fun hbound => ?_) _
      obtain ⟨hc, hseq, hlt, hroom, hbelow⟩ := htaken hbound
      exact hc.record hbelow hlt hroom (hcarries bytes now rfl) hseq.symm now

theorem removeSide (hsound : Sound B h) (side : Nat) :
    Sound B ⟨h.streams.removeSide side, h.numbered.filter fun key => key.side ≠ side,
      h.handed.filter fun e => e.1.side ≠ side⟩ := by
  have hframes : ∀ key : StreamKey S, (h.numbered.filter fun key => key.side ≠ side).count key =
      if key.side = side then 0 else h.frames key := by
    intro key
    split
    · rename_i heq
      exact List.count_eq_zero.mpr fun hmem => by simp [heq] at hmem
    · rename_i hne
      exact List.count_filter (by simpa using hne)
  refine ⟨fun key => ?_, fun key hbound => ?_⟩
  · dsimp only [frames] at hframes ⊢
    rw [TxStreams.at_removeSide, hframes]
    split
    · rfl
    · exact hsound.nextSeq key
  · dsimp only [frames] at hframes hbound ⊢
    rw [hframes] at hbound
    rw [TxStreams.at_removeSide]
    split
    · exact .fresh
    · rename_i hne
      exact hsound.consistent key (by simpa [hne, frames] using hbound)

theorem step {op : TxOp S} (hsound : Sound B h) (hgenuine : Genuine B h op)
    (hstep : h.step B op = some h') : Sound B h' := by
  cases op with
  | send key handed => exact hsound.send hgenuine hstep
  | touch key =>
    obtain rfl := Option.some.inj hstep
    exact hsound.update key (fun _ => rfl) fun _ hc => hc
  | ack key n =>
    obtain rfl := Option.some.inj hstep
    exact hsound.update key (fun tx => (tx.handleReliableAck_inherits key.ty n).nextSeq)
      fun _ hc => hc.handleReliableAck n
  | partialAck key seq =>
    obtain rfl := Option.some.inj hstep
    exact hsound.update key (fun _ => rfl) fun _ hc => hc.handleReliablePartialAck seq
  | mark key seq =>
    obtain rfl := Option.some.inj hstep
    exact hsound.update key (fun tx => (tx.queueReliableRetransmit_inherits seq).nextSeq)
      fun _ hc => hc.queueReliableRetransmit seq
  | scan now =>
    obtain rfl := Option.some.inj hstep
    refine hsound.keep rfl (fun key => ?_) fun key hc => ?_
    · dsimp only
      rw [TxStreams.at_timeoutScan]
      exact (ReliableTxState.timeoutScan_inherits now _ _).nextSeq
    · dsimp only
      rw [TxStreams.at_timeoutScan]
      exact hc.timeoutScan now _
  | replayed key seq now =>
    obtain rfl := Option.some.inj hstep
    exact hsound.update key (fun _ => rfl) fun _ hc => hc.markReplayed seq now
  | removeSide side =>
    obtain rfl := Option.some.inj hstep
    exact hsound.removeSide side

end Sound

/-- The numbers handed out on each stream are contiguous from one, and no other
number was taken. -/
def Contiguous (h : TxHistory S) : Prop :=
  ∀ key, h.handedOn key = (List.range (h.frames key)).map seqAt

/-- Every number taken goes out. -/
def SendsOut : TxOp S → Prop
  | .send _ handed => handed.isSome = true
  | _ => True

theorem Contiguous.initial : (TxHistory.initial : TxHistory S).Contiguous := fun _ => rfl

theorem Contiguous.send {h h' : TxHistory S} (hcont : h.Contiguous) (hsound : Sound B h)
    {key : StreamKey S} {handed : Option (List UInt8 × UInt64)} (hout : handed.isSome = true)
    (hstep : h.sendOp B key handed = some h') : h'.Contiguous := by
  unfold sendOp at hstep
  split at hstep
  · cases hstep
  · rename_i seq tx halloc
    obtain ⟨-, rfl, -⟩ := ReliableTxState.allocate_eq_some halloc
    obtain ⟨⟨bytes, now⟩, rfl⟩ := Option.isSome_iff_exists.mp hout
    obtain rfl := Option.some.inj hstep
    intro k
    have hk := hcont k
    simp only [handedOn, frames] at hk ⊢
    rw [List.filter_append, List.map_append, hk, List.count_append, List.count_singleton]
    by_cases heq : key = k
    · subst heq
      simp only [BEq.rfl, if_true, List.range_succ, List.map_append, hsound.nextSeq, frames]
      simp
    · simp [heq]

theorem Contiguous.step {h h' : TxHistory S} {op : TxOp S} (hcont : h.Contiguous)
    (hsound : Sound B h) (hout : SendsOut op) (hstep : h.step B op = some h') :
    h'.Contiguous := by
  cases op with
  | send key handed => exact hcont.send hsound hout hstep
  | removeSide side =>
    obtain rfl := Option.some.inj hstep
    intro key
    have hkey := hcont key
    simp only [handedOn, frames, List.filter_filter] at hkey ⊢
    by_cases heq : key.side = side
    · have hgone : ∀ e ∈ h.handed, ¬(e.1 = key ∧ e.1.side ≠ side) := by
        rintro e - ⟨rfl, hne⟩
        exact hne heq
      rw [List.filter_eq_nil_iff.mpr fun e he => by simpa using hgone e he,
        List.count_eq_zero.mpr fun hmem => by simp [heq] at hmem]
      rfl
    · rw [List.count_filter (by simpa using heq), ← hkey]
      congr 1
      refine List.filter_congr fun e _ => ?_
      by_cases hsame : e.1 = key
      · simp [hsame, heq]
      · simp [hsame]
  | _ =>
    obtain rfl := Option.some.inj hstep
    exact hcont

end TxHistory
end Sedsprintf
