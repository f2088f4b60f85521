import Sedsprintf.Router.Drain
import Sedsprintf.Router.EndToEnd
import Mathlib.Data.Prod.Lex

/-!
# How much work a router has

What drains take from: the received items, the ordinary items of the transmit queue, and its
replays, which timeouts can queue again as often as there are retries left.
-/
namespace Sedsprintf

open Lib

section Retries
variable (B : Build)

/-- The retries left of one that was made `retries` times. -/
def retriesLeft (retries : UInt32) : Nat := B.reliableMaxRetries.toNat - retries.toNat

variable {B}

theorem retriesLeft_succ {retries : UInt32} (h : ¬B.reliableMaxRetries ≤ retries) :
    retriesLeft B (retries + 1) + 1 = retriesLeft B retries := by
  have hlt : retries.toNat < B.reliableMaxRetries.toNat := by
    rw [← UInt32.lt_iff_toNat_lt]
    exact UInt32.not_le.mp h
  have hmax := B.reliableMaxRetries.toNat_lt
  have hsucc : (retries + 1).toNat = retries.toNat + 1 := by
    rw [UInt32.toNat_add, UInt32.toNat_one]
    exact Nat.mod_eq_of_lt (by omega)
  rw [retriesLeft, retriesLeft, hsucc]
  omega

end Retries

namespace ReliableTxState
variable {B : Build} {tx : ReliableTxState} {seq : UInt32}

/-- The retries left of all frames of a history. -/
def retriesLeft (B : Build) (tx : ReliableTxState) : Nat :=
  (tx.sent.toList.map fun e => Sedsprintf.retriesLeft B e.2.retries).sum

@[simp] theorem retriesLeft_fresh : fresh.retriesLeft B = 0 := by
  rw [retriesLeft, fresh, Std.ExtTreeMap.toList_eq_nil_iff.mpr rfl, List.map_nil, List.sum_nil]

/-- A change of an entry that leaves its retries alone. -/
theorem retriesLeft_modify (f : ReliableSent → ReliableSent) (hf : ∀ s, (f s).retries = s.retries) :
    ({ tx with sent := tx.sent.modify seq f } : ReliableTxState).retriesLeft B =
      tx.retriesLeft B := by
  cases hs : tx.sent[seq]? with
  | none =>
    rw [OrdMap.modify_of_get?_none hs]
  | some s =>
    have hsum := @OrdMap.sum_insert _ _ _ _ _ _ tx.sent seq s (f s)
      (fun e => Sedsprintf.retriesLeft B e.2.retries) hs
    simp only [hf] at hsum
    rw [OrdMap.modify_of_get?_some hs]
    exact Nat.add_right_cancel hsum

theorem retriesLeft_queueReliableRetransmit :
    (tx.queueReliableRetransmit seq).1.retriesLeft B = tx.retriesLeft B := by
  unfold queueReliableRetransmit
  split
  · rfl
  · split
    · rfl
    · exact retriesLeft_modify _ fun _ => rfl

theorem retriesLeft_markReplayed (now : UInt64) :
    (tx.markReplayed seq now).retriesLeft B = tx.retriesLeft B :=
  retriesLeft_modify _ fun _ => rfl

/-- An entry that is to be queued again has one retry less. -/
theorem retriesLeft_timeoutEntry (now : UInt64) :
    (timeoutEntry B now tx seq).1.retriesLeft B + (timeoutEntry B now tx seq).2.toNat ≤
      tx.retriesLeft B := by
  unfold timeoutEntry
  split
  · simp
  · rename_i s hs
    split
    · simp
    · split
      · exact OrdMap.sum_erase_le _
      · rename_i hmore
        have hsum := @OrdMap.sum_insert _ _ _ _ _ _ tx.sent seq s { s with retries := s.retries + 1 }
          (fun e => Sedsprintf.retriesLeft B e.2.retries) hs
        have hone := retriesLeft_succ hmore
        dsimp only at hsum ⊢
        rw [retriesLeft, OrdMap.modify_of_get?_some hs, retriesLeft]
        simp only [Bool.toNat_true]
        omega

theorem retriesLeft_timeoutScan (now : UInt64) (seqs : List UInt32) :
    (timeoutScan B now tx seqs).1.retriesLeft B + (timeoutScan B now tx seqs).2.length ≤
      tx.retriesLeft B := by
  induction seqs generalizing tx with
  | nil => simp [timeoutScan]
  | cons seq rest ih =>
    have hentry := @retriesLeft_timeoutEntry B tx seq now
    have hrest := @ih (timeoutEntry B now tx seq).1
    simp only [timeoutScan]
    cases hagain : (timeoutEntry B now tx seq).2 with
    | false =>
      simp only [hagain, Bool.toNat_false] at hentry
      simp only [Bool.false_eq_true, if_false]
      omega
    | true =>
      simp only [hagain, Bool.toNat_true] at hentry
      simp only [if_true, List.length_cons]
      omega

end ReliableTxState

namespace TxStreams
variable {B : Build} {S : Schema} {streams : TxStreams S}

/-- The retries left of all streams. -/
def retriesLeft (B : Build) (streams : TxStreams S) : Nat :=
  (streams.toList.map fun e => e.2.retriesLeft B).sum

theorem retriesLeft_update {key : StreamKey S} {f : ReliableTxState → ReliableTxState}
    (h : (f (streams.at key)).retriesLeft B ≤ (streams.at key).retriesLeft B) :
    TxStreams.retriesLeft B (streams.update key f) ≤ TxStreams.retriesLeft B streams := by
  unfold update TxStreams.retriesLeft
  cases hs : streams[key]? with
  | none =>
    have hat : TxStreams.at streams key = .fresh := by simp [TxStreams.at, hs]
    rw [hat, ReliableTxState.retriesLeft_fresh] at h
    rw [OrdMap.sum_insert_of_get?_none _ hs, hat]
    dsimp only
    omega
  | some tx =>
    have hat : TxStreams.at streams key = tx := by simp [TxStreams.at, hs]
    have hsum := @OrdMap.sum_insert _ _ _ _ _ _ streams key tx (f tx)
      (fun e => e.2.retriesLeft B) hs
    rw [hat] at h ⊢
    dsimp only at hsum
    omega

theorem retriesLeft_timeoutScan (now : UInt64) :
    TxStreams.retriesLeft B (streams.timeoutScan B now).1 + (streams.timeoutScan B now).2.length ≤
      TxStreams.retriesLeft B streams := by
  unfold timeoutScan TxStreams.retriesLeft
  rw [Std.ExtTreeMap.toList_map]
  generalize streams.toList = entries
  induction entries with
  | nil => simp
  | cons e rest ih =>
    have hentry := @ReliableTxState.retriesLeft_timeoutScan B e.2 now e.2.sentOrder
    simp only [List.map_cons, List.sum_cons, List.flatMap_cons, List.length_append, List.length_map,
      List.map_map] at ih ⊢
    omega

end TxStreams

/-- Received items only ever leave. -/
theorem RouterQueues.received_popRelation (B : Build) {S : Schema} :
    Stores.PopRelation (RouterQueues.set B (S := S)) fun queues queues' =>
      queues'.receivedQueue.q.Sublist queues.receivedQueue.q where
  refl _ := .refl _
  trans h h' := h'.trans h
  pop {q q' k} h := by
    cases k with
    | received =>
      obtain ⟨popped, hpop, rfl⟩ := Option.map_eq_some_iff.mp h
      rw [BoundedDeque.popFront_eq_some hpop]
      exact List.sublist_cons_self _ _
    | transmit =>
      obtain ⟨popped, hpop, rfl⟩ := Option.map_eq_some_iff.mp h
      exact .refl _

/-- The kinds of transmit items. -/
inductive TxKind where
  | ordinary
  | endToEnd
  | hop
  deriving DecidableEq, Repr

def TxQueued.kind {S : Schema} (queued : TxQueued S) : TxKind :=
  match queued.item with
  | .broadcast _ => .ordinary
  | .toSide _ _ _ => .ordinary
  | .endToEndReplay _ => .endToEnd
  | .reliableReplay _ _ => .hop

namespace RouterInner
variable {B : Build} {S : Schema} {st st' st'' : RouterInner S}

/-- The items of a kind in the transmit queue. -/
def queuedOf (kind : TxKind) (st : RouterInner S) : Nat :=
  st.transmitQueue.q.countP fun queued => queued.kind = kind

/-- The retries left of all tracked packets. -/
def endToEndRetriesLeft (B : Build) (entries : EndToEndEntries S) : Nat :=
  (entries.toList.map fun e => retriesLeft B e.2.retries).sum

/-- The replays that are queued, and those that can be. -/
def endToEndWork (B : Build) (st : RouterInner S) : Nat :=
  endToEndRetriesLeft B st.endToEndReliableTx + st.queuedOf .endToEnd

def hopWork (B : Build) (st : RouterInner S) : Nat :=
  st.reliableTx.retriesLeft B + st.queuedOf .hop

section Popped
variable {queued : TxQueued S} {rest : BoundedDeque (TxQueued S)}
  (h : st.transmitQueue.popFront (TxQueued.byteCost B) = some (queued, rest))
include h

theorem queuedOf_popped (kind : TxKind) :
    ({ st with transmitQueue := rest } : RouterInner S).queuedOf kind +
      (if queued.kind = kind then 1 else 0) = st.queuedOf kind := by
  rw [queuedOf, queuedOf, BoundedDeque.popFront_eq_some h, List.countP_cons]
  simp only [decide_eq_true_eq]

theorem endToEndWork_popped :
    ({ st with transmitQueue := rest } : RouterInner S).endToEndWork B +
      (if queued.kind = .endToEnd then 1 else 0) = st.endToEndWork B := by
  rw [endToEndWork, endToEndWork, ← queuedOf_popped h .endToEnd]
  exact Nat.add_assoc _ _ _

theorem hopWork_popped :
    ({ st with transmitQueue := rest } : RouterInner S).hopWork B +
      (if queued.kind = .hop then 1 else 0) = st.hopWork B := by
  rw [hopWork, hopWork, ← queuedOf_popped h .hop]
  exact Nat.add_assoc _ _ _

end Popped

/-- What there is to send, in the order in which it can grow. -/
def sendsLeft (B : Build) (st : RouterInner S) : Nat ×ₗ Nat ×ₗ Nat :=
  toLex (st.queuedOf .ordinary, toLex (st.endToEndWork B, st.hopWork B))

/-- At most so many replays more, and no more of anything else. -/
structure Adds (B : Build) (hops endToEnds : Nat) (st st' : RouterInner S) : Prop where
  received : st'.receivedQueue.q.length ≤ st.receivedQueue.q.length
  ordinary : st'.queuedOf .ordinary ≤ st.queuedOf .ordinary
  endToEnd : st'.endToEndWork B ≤ st.endToEndWork B + endToEnds
  hop : st'.hopWork B ≤ st.hopWork B + hops

namespace Adds
variable {hops hops' endToEnds endToEnds' : Nat}

theorem refl (st : RouterInner S) : Adds B 0 0 st st :=
  ⟨le_refl _, le_refl _, le_refl _, le_refl _⟩

theorem trans (h : Adds B hops endToEnds st st') (h' : Adds B hops' endToEnds' st' st'') :
    Adds B (hops + hops') (endToEnds + endToEnds') st st'' where
  received := h'.received.trans h.received
  ordinary := h'.ordinary.trans h.ordinary
  endToEnd := by
    have hfirst := h.endToEnd
    have hnext := h'.endToEnd
    omega
  hop := by
    have hfirst := h.hop
    have hnext := h'.hop
    omega

theorem sendsLeft_le (h : Adds B 0 0 st st') : st'.sendsLeft B ≤ st.sendsLeft B := by
  have hreplays : toLex (st'.endToEndWork B, st'.hopWork B) ≤
      toLex (st.endToEndWork B, st.hopWork B) := Prod.Lex.toLex_mono ⟨h.endToEnd, h.hop⟩
  exact Prod.Lex.toLex_mono ⟨h.ordinary, hreplays⟩

/-- Retries that are used up make up for replays. -/
theorem of_queues (hqueues : st'.toRouterQueues = st.toRouterQueues)
    (hretries : st'.reliableTx.retriesLeft B + hops ≤ st.reliableTx.retriesLeft B)
    (hends : endToEndRetriesLeft B st'.endToEndReliableTx + endToEnds ≤
      endToEndRetriesLeft B st.endToEndReliableTx)
    (h : Adds B hops endToEnds st' st'') : Adds B 0 0 st st'' where
  received := by
    have hreceived := h.received
    rwa [congrArg RouterQueues.receivedQueue hqueues] at hreceived
  ordinary := by
    have hordinary := h.ordinary
    rwa [queuedOf, queuedOf, congrArg RouterQueues.transmitQueue hqueues] at hordinary
  endToEnd := by
    have hend := h.endToEnd
    have hsame : st'.queuedOf .endToEnd = st.queuedOf .endToEnd := by
      rw [queuedOf, queuedOf, congrArg RouterQueues.transmitQueue hqueues]
    unfold endToEndWork at hend ⊢
    omega
  hop := by
    have hhop := h.hop
    have hsame : st'.queuedOf .hop = st.queuedOf .hop := by
      rw [queuedOf, queuedOf, congrArg RouterQueues.transmitQueue hqueues]
    unfold hopWork at hhop ⊢
    omega

theorem setStreams {streams : TxStreams S}
    (h : streams.retriesLeft B ≤ st.reliableTx.retriesLeft B) :
    Adds B 0 0 st { st with reliableTx := streams } :=
  @of_queues B S st { st with reliableTx := streams } _ 0 0 rfl h (le_refl _) (.refl _)

theorem setEntries {entries : EndToEndEntries S}
    (h : endToEndRetriesLeft B entries ≤ endToEndRetriesLeft B st.endToEndReliableTx) :
    Adds B 0 0 st { st with endToEndReliableTx := entries } :=
  @of_queues B S st { st with endToEndReliableTx := entries } _ 0 0 rfl (le_refl _) h (.refl _)

end Adds

section Push

theorem pushTransmit_received (st : RouterInner S) (queued : TxQueued S) :
    (st.pushTransmit B queued).1.receivedQueue.q.length ≤ st.receivedQueue.q.length := by
  have hlost := Stores.makeSharedQueueRoom_evicts B B.wordSize (RouterQueues.received_popRelation B)
    st.stores (queued.byteCost B) (.queue .transmit)
  have hroom : (st.makeSharedQueueRoom B (queued.byteCost B)
      (.queue .transmit)).1.receivedQueue.q.Sublist st.receivedQueue.q := hlost.queues
  unfold pushTransmit
  generalize st.makeSharedQueueRoom B (queued.byteCost B) (.queue .transmit) = r at hroom
  obtain ⟨st', _ | ⟨⟨⟩⟩⟩ := r
  · exact hroom.length_le
  · exact hroom.length_le

/-- A push adds at most its item. -/
theorem pushTransmit_queuedOf (st : RouterInner S) (queued : TxQueued S) (kind : TxKind) :
    (st.pushTransmit B queued).1.queuedOf kind ≤
      st.queuedOf kind + if queued.kind = kind then 1 else 0 := by
  unfold queuedOf
  rcases (pushTransmit_pushes (B := B) st queued).contents with ⟨kept, hkept, hperm, -⟩ | ⟨hsub, -⟩
  · rw [hperm.countP_eq, List.countP_cons]
    have hle := hkept.countP_le (p := fun queued => decide (queued.kind = kind))
    simp only [decide_eq_true_eq]
    omega
  · exact (hsub.countP_le).trans (Nat.le_add_right _ _)

/-- A replay that is pushed. -/
theorem pushTransmit_adds (st : RouterInner S) {queued : TxQueued S}
    (hkind : queued.kind ≠ .ordinary) :
    Adds B (if queued.kind = .hop then 1 else 0) (if queued.kind = .endToEnd then 1 else 0) st
      (st.pushTransmit B queued).1 where
  received := pushTransmit_received st queued
  ordinary := by
    have hordinary := pushTransmit_queuedOf (B := B) st queued .ordinary
    rwa [if_neg hkind] at hordinary
  endToEnd := by
    have hend := pushTransmit_queuedOf (B := B) st queued .endToEnd
    unfold endToEndWork
    rw [(pushTransmit_pushes (B := B) st queued).endToEndReliableTx]
    omega
  hop := by
    have hhop := pushTransmit_queuedOf (B := B) st queued .hop
    unfold hopWork
    rw [(pushTransmit_pushes (B := B) st queued).reliableTx]
    omega

theorem pushTransmit_hop (st : RouterInner S) {queued : TxQueued S} (hkind : queued.kind = .hop) :
    Adds B 1 0 st (st.pushTransmit B queued).1 := by
  have hadds := @pushTransmit_adds B S st queued (by simp [hkind])
  simpa only [hkind, if_true, reduceCtorEq, if_false] using hadds

theorem pushTransmit_endToEnd (st : RouterInner S) {queued : TxQueued S}
    (hkind : queued.kind = .endToEnd) : Adds B 0 1 st (st.pushTransmit B queued).1 := by
  have hadds := @pushTransmit_adds B S st queued (by simp [hkind])
  simpa only [hkind, if_true, reduceCtorEq, if_false] using hadds

end Push

section Timeouts

theorem queueReliableRetransmit_adds (st : RouterInner S) (key : StreamKey S) (seq : UInt32) :
    Adds B 1 0 st (st.queueReliableRetransmit B key seq).1 := by
  have hstreams : TxStreams.retriesLeft B (st.reliableTx.queueReliableRetransmit key seq).1 ≤
      st.reliableTx.retriesLeft B :=
    TxStreams.retriesLeft_update ReliableTxState.retriesLeft_queueReliableRetransmit.le
  have heq : st.queueReliableRetransmit B key seq =
      HopNode.queueReliableRetransmit (hop B) st key seq := rfl
  rw [heq]
  unfold HopNode.queueReliableRetransmit
  change TxStreams.retriesLeft B (((hop B).streams st).queueReliableRetransmit key seq).1 ≤
    st.reliableTx.retriesLeft B at hstreams
  generalize ((hop B).streams st).queueReliableRetransmit key seq = r at hstreams
  obtain ⟨streams, _ | bytes⟩ := r
  · have hset : Adds B 0 0 st { st with reliableTx := streams } := .setStreams hstreams
    exact ⟨hset.received, hset.ordinary, hset.endToEnd, hset.hop.trans (Nat.le_succ _)⟩
  · have hset : Adds B 0 0 st { st with reliableTx := streams } := .setStreams hstreams
    have hpush := @pushTransmit_hop B S { st with reliableTx := streams }
      ⟨.reliableReplay key.side bytes, true, bumpedPriority key.ty⟩ rfl
    exact hset.trans hpush

theorem requeueReliable_adds (st : RouterInner S) (again : List (StreamKey S × UInt32)) :
    Adds B again.length 0 st (HopNode.requeueReliable (hop B) st again).1 := by
  induction again generalizing st with
  | nil => exact .refl st
  | cons e rest ih =>
    have hfirst := st.queueReliableRetransmit_adds (B := B) e.1 e.2
    have heq : st.queueReliableRetransmit B e.1 e.2 =
      HopNode.queueReliableRetransmit (hop B) st e.1 e.2 := rfl
    rw [heq] at hfirst
    unfold HopNode.requeueReliable
    generalize HopNode.queueReliableRetransmit (hop B) st e.1 e.2 = r at hfirst
    obtain ⟨st', _ | ⟨⟨⟩⟩⟩ := r
    · exact ⟨hfirst.received, hfirst.ordinary, hfirst.endToEnd,
        hfirst.hop.trans (by simp [List.length_cons])⟩
    · have hboth := hfirst.trans (ih st')
      rwa [Nat.add_comm] at hboth

/-- A timeout uses up a retry for each replay it queues. -/
theorem processReliableTimeouts_adds (st : RouterInner S) (now : UInt64) :
    Adds B 0 0 st (st.processReliableTimeouts B now).1 := by
  unfold processReliableTimeouts HopNode.processReliableTimeouts
  split
  · exact .refl st
  · have hscan := @TxStreams.retriesLeft_timeoutScan B S st.reliableTx now
    have hrequeue := requeueReliable_adds (B := B)
      { st with reliableTx := (st.reliableTx.timeoutScan B now).1 } (st.reliableTx.timeoutScan B now).2
    exact @Adds.of_queues B S st { st with reliableTx := (st.reliableTx.timeoutScan B now).1 } _ _ 0
      rfl hscan (le_refl _) hrequeue

end Timeouts

section EndToEnd
variable {entries : EndToEndEntries S} {id : UInt64} {entry entry' : EndToEndReliableSent S}

/-- A change of an entry that leaves its retries alone. -/
theorem endToEndRetriesLeft_insert (hentry : entries[id]? = some entry)
    (hretries : entry'.retries = entry.retries) :
    endToEndRetriesLeft B (entries.insert id entry') = endToEndRetriesLeft B entries := by
  have hsum := @OrdMap.sum_insert _ _ _ _ _ _ entries id entry entry'
    (fun e => retriesLeft B e.2.retries) hentry
  simp only [hretries] at hsum
  exact Nat.add_right_cancel hsum

theorem endToEndRetriesLeft_erase (entries : EndToEndEntries S) (id : UInt64) :
    endToEndRetriesLeft B (entries.erase id) ≤ endToEndRetriesLeft B entries :=
  OrdMap.sum_erase_le _

theorem endToEndRetriesLeft_foldl_erase (entries : EndToEndEntries S) (ids : List UInt64) :
    endToEndRetriesLeft B (ids.foldl (fun sent id => sent.erase id) entries) ≤
      endToEndRetriesLeft B entries := by
  induction ids generalizing entries with
  | nil => exact le_refl _
  | cons id rest ih => exact (ih _).trans (endToEndRetriesLeft_erase entries id)

theorem endToEndRetriesLeft_reconcileLoop (expected : UInt64 → Outcome (OrdMap UInt64 Nat))
    (entries : EndToEndEntries S) (ids : List UInt64) :
    endToEndRetriesLeft B (reconcileLoop expected entries ids).1 ≤ endToEndRetriesLeft B entries := by
  induction ids generalizing entries with
  | nil => exact le_refl _
  | cons id rest ih =>
    cases hentry : entries[id]? with
    | none =>
      simp only [reconcileLoop, hentry]
      exact ih entries
    | some entry =>
      cases hexpected : expected id with
      | error e => simp only [reconcileLoop, hentry, hexpected, le_refl]
      | ok d =>
        have hretries : (entry.reconciled d).retries = entry.retries := by
          unfold EndToEndReliableSent.reconciled
          split
          · rfl
          · rfl
        rw [reconcileLoop_cons hentry hexpected]
        exact (ih _).trans (endToEndRetriesLeft_insert hentry hretries).le

/-- An entry that is to be queued again has one retry less. -/
theorem endToEndRetriesLeft_timeoutEntry (now : UInt64) :
    endToEndRetriesLeft B (endToEndTimeoutEntry B now entries id).1 +
        (endToEndTimeoutEntry B now entries id).2.toNat ≤ endToEndRetriesLeft B entries := by
  unfold endToEndTimeoutEntry
  split
  · simp
  · rename_i entry hentry
    split
    · simp
    · split
      · exact endToEndRetriesLeft_erase entries id
      · rename_i hmore
        have hsum := @OrdMap.sum_insert _ _ _ _ _ _ entries id entry
          { entry with retries := entry.retries + 1 } (fun e => retriesLeft B e.2.retries) hentry
        have hone := retriesLeft_succ hmore
        unfold endToEndRetriesLeft
        dsimp only at hsum
        simp only [Bool.toNat_true]
        omega

theorem endToEndRetriesLeft_timeoutScan (now : UInt64) (ids : List UInt64) :
    endToEndRetriesLeft B (endToEndTimeoutScan B now entries ids).1 +
        (endToEndTimeoutScan B now entries ids).2.length ≤ endToEndRetriesLeft B entries := by
  induction ids generalizing entries with
  | nil => simp [endToEndTimeoutScan]
  | cons id rest ih =>
    have hentry := @endToEndRetriesLeft_timeoutEntry B S entries id now
    have hrest := @ih (endToEndTimeoutEntry B now entries id).1
    simp only [endToEndTimeoutScan]
    cases hagain : (endToEndTimeoutEntry B now entries id).2 with
    | false =>
      simp only [hagain, Bool.toNat_false] at hentry
      simp only [Bool.false_eq_true, if_false]
      omega
    | true =>
      simp only [hagain, Bool.toNat_true] at hentry
      simp only [if_true, List.length_cons]
      omega

theorem queueEndToEndReliableRetransmit_adds (st : RouterInner S) (packetId : UInt64) :
    Adds B 0 1 st (st.queueEndToEndReliableRetransmit B packetId).1 := by
  have hnone : Adds B 0 1 st st := ⟨le_refl _, le_refl _, Nat.le_succ _, le_refl _⟩
  unfold queueEndToEndReliableRetransmit
  split
  · exact hnone
  · rename_i entry hentry
    split
    · exact hnone
    · have hretries : endToEndRetriesLeft B
          (st.endToEndReliableTx.insert packetId { entry with queued := true }) =
            endToEndRetriesLeft B st.endToEndReliableTx := endToEndRetriesLeft_insert hentry rfl
      exact (Adds.setEntries hretries.le).trans (pushTransmit_endToEnd _ rfl)

theorem requeueEndToEnd_adds (st : RouterInner S) (again : List UInt64) :
    Adds B 0 again.length st (st.requeueEndToEnd B again).1 := by
  induction again generalizing st with
  | nil => exact .refl st
  | cons id rest ih =>
    have hfirst := st.queueEndToEndReliableRetransmit_adds (B := B) id
    unfold requeueEndToEnd
    generalize st.queueEndToEndReliableRetransmit B id = r at hfirst
    obtain ⟨st', _ | ⟨⟨⟩⟩⟩ := r
    · exact ⟨hfirst.received, hfirst.ordinary,
        hfirst.endToEnd.trans (by simp [List.length_cons]), hfirst.hop⟩
    · have hboth := hfirst.trans (ih st')
      rwa [Nat.add_comm 1] at hboth

theorem reconcileEndToEnd_adds (st : RouterInner S)
    (expected : UInt64 → Outcome (OrdMap UInt64 Nat)) :
    Adds B 0 0 st (st.reconcileEndToEnd expected).1 := by
  have hloop := endToEndRetriesLeft_reconcileLoop (B := B) expected st.endToEndReliableTx
    st.endToEndReliableTx.keys
  unfold reconcileEndToEnd
  generalize reconcileLoop expected st.endToEndReliableTx st.endToEndReliableTx.keys = r at hloop
  obtain ⟨sent, e | completed⟩ := r
  · exact .setEntries hloop
  · exact .setEntries ((endToEndRetriesLeft_foldl_erase (B := B) sent completed).trans hloop)

theorem scanEndToEndTimeouts_adds (st : RouterInner S) (now : UInt64) :
    Adds B 0 0 st (st.scanEndToEndTimeouts B now).1 := by
  have hscan := @endToEndRetriesLeft_timeoutScan B S st.endToEndReliableTx now
    st.endToEndReliableTx.keys
  exact @Adds.of_queues B S st
    { st with endToEndReliableTx := (endToEndTimeoutScan B now st.endToEndReliableTx
      st.endToEndReliableTx.keys).1 }
    _ 0 _ rfl (le_refl _) hscan (requeueEndToEnd_adds _ _)

/-- A replay that is sent uses up none of its retries. -/
theorem endToEndRetransmitSides_adds (st : RouterInner S) (packetId : UInt64) (now : UInt64) :
    Adds B 0 0 st (st.endToEndRetransmitSides packetId now) := by
  unfold endToEndRetransmitSides
  split
  · exact .refl st
  · rename_i entry hentry
    split
    · exact .setEntries (endToEndRetriesLeft_erase _ _)
    · have hretries : endToEndRetriesLeft B (st.endToEndReliableTx.insert packetId
          { entry with queued := false, lastSendMs := now }) =
            endToEndRetriesLeft B st.endToEndReliableTx := endToEndRetriesLeft_insert hentry rfl
      exact .setEntries hretries.le

end EndToEnd

section Received

theorem pushRecentRx_received (st : RouterInner S) (id : UInt64) :
    (st.pushRecentRx B id).1.receivedQueue.q.length ≤ st.receivedQueue.q.length := by
  have hlost := Stores.pushRecentRx_evicts B B.wordSize (RouterQueues.received_popRelation B)
    st.stores id
  exact hlost.queues.length_le

theorem isDuplicatePkt_received (st : RouterInner S) (data : RouterItem S) :
    (st.isDuplicatePkt B data).1.receivedQueue.q.length ≤ st.receivedQueue.q.length := by
  rcases st.isDuplicatePkt_cases (B := B) data with heq | ⟨id, -, -, heq⟩
  · rw [heq]
  · rw [heq]
    exact pushRecentRx_received st id

theorem acceptOrdered_received (st : RouterInner S) (key : StreamKey S) (seq : UInt32)
    (bytes : List UInt8) :
    (st.acceptOrdered B key seq bytes).1.receivedQueue.q.length ≤ st.receivedQueue.q.length := by
  have hlost := Stores.acceptOrdered_frame B B.wordSize (RouterQueues.received_popRelation B)
    st.stores key seq bytes
  exact hlost.2.length_le

theorem txQueueItemWithFlags_received (st : RouterInner S) (item : RouterTxItem S)
    (ignoreLocal : Bool) :
    (st.txQueueItemWithFlags B item ignoreLocal).1.receivedQueue.q.length ≤
      st.receivedQueue.q.length := by
  unfold txQueueItemWithFlags
  dsimp only
  split
  · exact le_refl _
  · exact pushTransmit_received st _

theorem queueReliableControl_received (st : RouterInner S) (env : RouterEnv S)
    (control : S.DataType) (key : StreamKey S) (seq : UInt32) :
    (st.queueReliableControl B env control key seq).1.receivedQueue.q.length ≤
      st.receivedQueue.q.length := by
  unfold queueReliableControl
  split
  · exact le_refl _
  · exact pushTransmit_received st _

theorem queueEndToEndReliableAck_received (st : RouterInner S) (env : RouterEnv S)
    (pkt : Packet S) :
    (st.queueEndToEndReliableAck B env pkt).1.receivedQueue.q.length ≤
      st.receivedQueue.q.length := by
  unfold queueEndToEndReliableAck
  split
  · exact le_refl _
  · exact txQueueItemWithFlags_received st _ _

theorem receiveHop_received (st : RouterInner S) (env : RouterEnv S) (item : RouterRxItem S) :
    (st.receiveHop B env item).1.receivedQueue.q.length ≤ st.receivedQueue.q.length := by
  have hclosed : (receiver B env).Closed fun st' : RouterInner S =>
      st'.receivedQueue.q.length ≤ st.receivedQueue.q.length :=
    ⟨fun hst => hst, fun hst => (acceptOrdered_received _ _ _ _).trans hst,
      fun hst => (queueReliableControl_received _ _ _ _ _).trans hst⟩
  exact receiveHop_closed hclosed (le_refl _) item

theorem handleInternalReliablePacket_received (st : RouterInner S) (pkt : Packet S)
    (src : Option Nat) :
    (st.handleInternalReliablePacket B pkt src).1.receivedQueue.q.length ≤
      st.receivedQueue.q.length := by
  unfold handleInternalReliablePacket
  split
  · split
    · exact le_refl _
    · split
      · unfold handleEndToEndAck
        split
        · exact le_refl _
        · split
          · exact le_refl _
          · dsimp only
            split <;> exact le_refl _
      · split
        · exact le_refl _
        · split
          · exact le_refl _
          · split
            · exact le_refl _
            · exact (queueReliableRetransmit_adds st _ _).received
  · exact le_refl _

end Received
end RouterInner
end Sedsprintf
