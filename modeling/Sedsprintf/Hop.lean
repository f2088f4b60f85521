import Sedsprintf.Stores
import Sedsprintf.Lib.Ledger

/-!
# Hop reliability over a node

`queue_reliable_retransmit`, `process_reliable_timeouts` and the processing of a
replay are the same statements in `Router` and `Relay` over two ways to queue a
replay (src/router.rs:2667-2695, 2917-2959, 5584-5613; src/relay.rs:602-638,
1186-1211, 2094-2135). `HopNode` is what they use of a node and what a node owes
them.
-/
namespace Sedsprintf

open Lib

structure HopNode (S : Schema) (σ : Type) where
  streams : σ → TxStreams S
  setStreams : σ → TxStreams S → σ
  /-- The replays in the queue, with their sides. -/
  replays : σ → List (Nat × List UInt8)
  pushReplay : σ → (dst : Nat) → List UInt8 → (priority : UInt8) → σ × Outcome Unit
  /-- The accounts of the shared budget. -/
  Sane : σ → Prop
  streams_setStreams : ∀ st streams', streams (setStreams st streams') = streams'
  replays_setStreams : ∀ st streams', replays (setStreams st streams') = replays st
  sane_setStreams : ∀ {st streams'}, Sane st → Sane (setStreams st streams')
  streams_pushReplay : ∀ st dst bytes priority,
    streams (pushReplay st dst bytes priority).1 = streams st
  replays_pushReplay : ∀ st dst bytes priority,
    (∃ kept, kept.Sublist (replays st) ∧
      (replays (pushReplay st dst bytes priority).1).Perm ((dst, bytes) :: kept) ∧
      (pushReplay st dst bytes priority).2 = .ok ()) ∨
    ((replays (pushReplay st dst bytes priority).1).Sublist (replays st) ∧
      ∃ e, (pushReplay st dst bytes priority).2 = .error e)
  sane_pushReplay : ∀ {st dst bytes priority}, Sane st →
    Sane (pushReplay st dst bytes priority).1

namespace HopNode
variable {S : Schema} {σ : Type} (n : HopNode S σ) (B : Build)

def queueReliableRetransmit (st : σ) (key : StreamKey S) (seq : UInt32) : σ × Outcome Unit :=
  match (n.streams st).queueReliableRetransmit key seq with
  | (streams, none) => (n.setStreams st streams, .ok ())
  | (streams, some bytes) =>
    n.pushReplay (n.setStreams st streams) key.side bytes (bumpedPriority key.ty)

/-- The second loop of `process_reliable_timeouts`, left at the first refused push. -/
def requeueReliable : σ → List (StreamKey S × UInt32) → σ × Outcome Unit
  | st, [] => (st, .ok ())
  | st, (key, seq) :: rest =>
    match n.queueReliableRetransmit st key seq with
    | (st, .error e) => (st, .error e)
    | (st, .ok ()) => requeueReliable st rest

def processReliableTimeouts (now : UInt64) (st : σ) : σ × Outcome Unit :=
  if (n.streams st).isEmpty then (st, .ok ())
  else
    let (streams, again) := (n.streams st).timeoutScan B now
    n.requeueReliable (n.setStreams st streams) again

/-- A popped replay: `raw` is `send_reliable_raw_to_side` on it, `putBack` the push
after `side tx busy`. The result says whether it went out. -/
def processReplay (raw : σ → Outcome Unit) (putBack : σ → σ × Outcome Unit) (doneMs : UInt64)
    (st : σ) (dst : Nat) (bytes : List UInt8) : σ × Outcome Bool :=
  match peekFrameInfo B S bytes with
  | .error e => (st, .error e)
  | .ok ⟨_, none⟩ => (st, .ok false)
  | .ok ⟨env, some hdr⟩ =>
    let key : StreamKey S := ⟨dst, env.ty⟩
    let st := n.setStreams st ((n.streams st).update key id)
    if hdr.seq ∈ ((n.streams st).at key).sent then
      match raw st with
      | .ok () => (n.setStreams st ((n.streams st).markReplayed key hdr.seq doneMs), .ok true)
      | .error e =>
        if isSideTxBusy e then
          match putBack st with
          | (st, .ok ()) => (st, .ok false)
          | (st, .error e) => (st, .error e)
        else (st, .error e)
    else (st, .ok false)

section Histories
variable {n B} {st : σ}

theorem queueReliableRetransmit_streams (key : StreamKey S) (seq : UInt32) :
    n.streams (n.queueReliableRetransmit st key seq).1 =
      ((n.streams st).queueReliableRetransmit key seq).1 := by
  unfold queueReliableRetransmit
  generalize (n.streams st).queueReliableRetransmit key seq = r
  obtain ⟨streams, _ | bytes⟩ := r
  · exact n.streams_setStreams _ _
  · rw [n.streams_pushReplay, n.streams_setStreams]

/-- A property of the node that setting the streams and queueing a replay keep. -/
structure Closed (n : HopNode S σ) (P : σ → Prop) : Prop where
  setStreams : ∀ {st streams}, P st → P (n.setStreams st streams)
  pushReplay : ∀ {st dst bytes priority}, P st → P (n.pushReplay st dst bytes priority).1

theorem closed_sane : n.Closed n.Sane := ⟨n.sane_setStreams, n.sane_pushReplay⟩

variable {P : σ → Prop}

theorem Closed.queueReliableRetransmit (hclosed : n.Closed P) (key : StreamKey S) (seq : UInt32)
    (h : P st) : P (n.queueReliableRetransmit st key seq).1 := by
  unfold HopNode.queueReliableRetransmit
  split
  · exact hclosed.setStreams h
  · exact hclosed.pushReplay (hclosed.setStreams h)

/-- Stream operations that lead from the streams of one state to those of another and
take no number. -/
def Moves (n : HopNode S σ) (B : Build) (st st' : σ) : Prop :=
  ∀ h : TxHistory S, h.streams = n.streams st →
    ∃ ops, Run (TxHistory.step B) (TxHistory.Genuine B) h ops
        { h with streams := n.streams st' } ∧
      ∀ op ∈ ops, TxHistory.SendsOut op

theorem Moves.of_eq {st' : σ} (heq : n.streams st' = n.streams st) : n.Moves B st st' := by
  intro h hstreams
  refine ⟨[], ?_, by simp⟩
  rw [heq, ← hstreams]
  exact .nil h

theorem Moves.of_op {st' : σ} (op : TxOp S)
    (hstep : ∀ h : TxHistory S, h.streams = n.streams st →
      TxHistory.step B h op = some { h with streams := n.streams st' })
    (hgenuine : ∀ h, TxHistory.Genuine B h op) (hout : TxHistory.SendsOut op) :
    n.Moves B st st' := by
  intro h hstreams
  refine ⟨[op], .cons (hgenuine h) (hstep h hstreams) (.nil _), fun op' hop => ?_⟩
  rw [List.mem_singleton.mp hop]
  exact hout

theorem Moves.trans {st' st'' : σ} (hmoves : n.Moves B st st') (hmore : n.Moves B st' st'') :
    n.Moves B st st'' := by
  intro h hstreams
  obtain ⟨ops, hrun, hout⟩ := hmoves h hstreams
  obtain ⟨more, hrun', hout'⟩ := hmore { h with streams := n.streams st' } rfl
  refine ⟨ops ++ more, hrun.append hrun', fun op hop => ?_⟩
  rcases List.mem_append.mp hop with hop | hop
  · exact hout op hop
  · exact hout' op hop

theorem queueReliableRetransmit_moves (key : StreamKey S) (seq : UInt32) :
    n.Moves B st (n.queueReliableRetransmit st key seq).1 := by
  refine .of_op (.mark key seq) (fun h hstreams => ?_) (fun _ => trivial) trivial
  rw [TxHistory.step, hstreams, queueReliableRetransmit_streams]

theorem requeueReliable_moves (st : σ) (again : List (StreamKey S × UInt32)) :
    n.Moves B st (n.requeueReliable st again).1 := by
  induction again generalizing st with
  | nil => exact .of_eq rfl
  | cons e rest ih =>
    have hmark := @queueReliableRetransmit_moves S σ n B st e.1 e.2
    unfold requeueReliable
    generalize n.queueReliableRetransmit st e.1 e.2 = r at hmark
    obtain ⟨st', _ | ⟨⟨⟩⟩⟩ := r
    · exact hmark
    · exact hmark.trans (ih st')

theorem Closed.requeueReliable (hclosed : n.Closed P) (st : σ)
    (again : List (StreamKey S × UInt32)) (h : P st) : P (n.requeueReliable st again).1 := by
  induction again generalizing st with
  | nil => exact h
  | cons e rest ih =>
    have hmark := hclosed.queueReliableRetransmit e.1 e.2 h
    unfold HopNode.requeueReliable
    generalize n.queueReliableRetransmit st e.1 e.2 = r at hmark
    obtain ⟨st', _ | ⟨⟨⟩⟩⟩ := r
    · exact hmark
    · exact ih st' hmark

theorem processReliableTimeouts_moves (now : UInt64) (st : σ) :
    n.Moves B st (n.processReliableTimeouts B now st).1 := by
  unfold processReliableTimeouts
  split
  · exact .of_eq rfl
  · refine Moves.trans (.of_op (.scan now) (fun h hstreams => ?_) (fun _ => trivial) trivial)
      (requeueReliable_moves _ _)
    rw [TxHistory.step, hstreams]
    exact congrArg (fun streams => some { h with streams := streams })
      (n.streams_setStreams _ _).symm

theorem Closed.processReliableTimeouts (hclosed : n.Closed P) (now : UInt64) (st : σ) (h : P st) :
    P (n.processReliableTimeouts B now st).1 := by
  unfold HopNode.processReliableTimeouts
  split
  · exact h
  · exact hclosed.requeueReliable _ _ (hclosed.setStreams h)

variable {raw : σ → Outcome Unit} {putBack : σ → σ × Outcome Unit} {doneMs : UInt64}

/-- A replay opens its stream and, where it goes out, marks its entry. -/
theorem processReplay_moves (hback : ∀ st, n.streams (putBack st).1 = n.streams st) (st : σ)
    (dst : Nat) (bytes : List UInt8) :
    n.Moves B st (n.processReplay B raw putBack doneMs st dst bytes).1 := by
  unfold processReplay
  split
  · exact .of_eq rfl
  · exact .of_eq rfl
  · rename_i env hdr _
    have hopen : n.Moves B st (n.setStreams st ((n.streams st).update ⟨dst, env.ty⟩ id)) := by
      refine .of_op (.touch ⟨dst, env.ty⟩) (fun h hstreams => ?_) (fun _ => trivial) trivial
      rw [TxHistory.step, hstreams, n.streams_setStreams]
    dsimp only
    split
    · split
      · refine hopen.trans (.of_op (.replayed ⟨dst, env.ty⟩ hdr.seq doneMs) (fun h hstreams => ?_)
          (fun _ => trivial) trivial)
        rw [TxHistory.step, hstreams, n.streams_setStreams, n.streams_setStreams]
      · split
        · have hsame := hback (n.setStreams st ((n.streams st).update ⟨dst, env.ty⟩ id))
          split <;> rename_i heq <;> rw [heq] at hsame <;> exact hopen.trans (.of_eq hsame)
        · exact hopen
    · exact hopen

/-- A replay that carries no number, or one that is not waited for, is dropped. -/
theorem processReplay_of_stale {st : σ} {dst : Nat} {bytes : List UInt8}
    {frame : TelemetryFrameInfo S} (hframe : peekFrameInfo B S bytes = .ok frame)
    (hgone : ∀ hdr, frame.reliable = some hdr →
      hdr.seq ∉ ((n.streams st).at ⟨dst, frame.envelope.ty⟩).sent) :
    n.processReplay B raw putBack doneMs st dst bytes = (st, .ok false) ∨
      ∃ streams, n.processReplay B raw putBack doneMs st dst bytes =
        (n.setStreams st streams, .ok false) := by
  unfold processReplay
  split
  · rename_i hpeek
    rw [hframe] at hpeek
    cases hpeek
  · exact .inl rfl
  · rename_i env hdr hpeek
    rw [hframe] at hpeek
    obtain rfl := Except.ok.inj hpeek
    have hunsent := hgone hdr rfl
    dsimp only at hunsent ⊢
    split
    · rename_i hmem
      rw [n.streams_setStreams, TxStreams.at_update, if_pos rfl] at hmem
      exact absurd hmem hunsent
    · exact .inr ⟨_, rfl⟩

/-- Where no side is busy, only such a replay is dropped. -/
theorem stale_of_processReplay {st st' : σ} {dst : Nat} {bytes : List UInt8}
    (hraw : ∀ st e, raw st = .error e → isSideTxBusy e = false)
    (h : n.processReplay B raw putBack doneMs st dst bytes = (st', .ok false)) :
    ∃ frame, peekFrameInfo B S bytes = .ok frame ∧ ∀ hdr, frame.reliable = some hdr →
      hdr.seq ∉ ((n.streams st).at ⟨dst, frame.envelope.ty⟩).sent := by
  unfold processReplay at h
  split at h
  · cases h
  · rename_i hpeek
    exact ⟨_, hpeek, by simp⟩
  · rename_i env hdr hpeek
    refine ⟨_, hpeek, ?_⟩
    rintro _ ⟨⟩
    dsimp only at h
    split at h
    · split at h
      · cases h
      · rename_i e hfailed
        rw [hraw _ e hfailed, if_neg (by simp)] at h
        cases h
    · rename_i hmem
      rw [n.streams_setStreams, TxStreams.at_update, if_pos rfl] at hmem
      exact hmem

theorem Closed.processReplay (hclosed : n.Closed P) (hback : ∀ {st}, P st → P (putBack st).1)
    (st : σ) (dst : Nat) (bytes : List UInt8) (h : P st) :
    P (n.processReplay B raw putBack doneMs st dst bytes).1 := by
  unfold HopNode.processReplay
  split
  · exact h
  · exact h
  · rename_i env hdr _
    dsimp only
    split
    · split
      · exact hclosed.setStreams (hclosed.setStreams h)
      · split
        · have hkept := @hback (n.setStreams st ((n.streams st).update ⟨dst, env.ty⟩ id))
            (hclosed.setStreams h)
          split <;> rename_i heq <;> rw [heq] at hkept <;> exact hkept
        · exact hclosed.setStreams h
    · exact hclosed.setStreams h

end Histories
end HopNode
end Sedsprintf
