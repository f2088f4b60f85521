import Sedsprintf.Reliable.Stream

/-!
# The sender's history

The representation invariant of one `ReliableTxState`, preserved by every
operation on it, and the weaker fact that carries the protocol proofs: apart
from a fresh send, an operation only drops entries or changes their bookkeeping
(`Inherits`).
-/
namespace Sedsprintf

open Lib

/-- `bytes` is a frame of `ty` whose reliable header holds `hdr`. -/
def Carries (B : Build) (S : Schema) (ty : S.DataType) (hdr : ReliableHeader)
    (bytes : List UInt8) : Prop :=
  ∃ info, peekFrameInfo B S bytes = .ok info ∧ info.envelope.ty = ty ∧ info.reliable = some hdr

/-- An item that can stand on the stream of `ty`: a packet of the running program
or received bytes that peek. -/
def RouterItem.OfType (B : Build) {S : Schema} (ty : S.DataType) : RouterItem S → Prop
  | .packet pkt => pkt.Resident B ∧ pkt.ty = ty
  | .serialized bytes => ∃ info, peekFrameInfo B S bytes = .ok info ∧ info.envelope.ty = ty

instance (B : Build) {S : Schema} (ty : S.DataType) (data : RouterItem S) :
    Decidable (data.OfType B ty) :=
  match data with
  | .packet pkt => inferInstanceAs (Decidable (pkt.Resident B ∧ pkt.ty = ty))
  | .serialized bytes =>
    match h : peekFrameInfo B S bytes with
    | .ok info => decidable_of_iff (info.envelope.ty = ty)
        ⟨fun hty => ⟨info, h, hty⟩, fun ⟨info', h', hty⟩ => by
          obtain rfl := Except.ok.inj (h.symm.trans h')
          exact hty⟩
    | .error _ => isFalse fun ⟨_, h', _⟩ => by simp [h] at h'

section Frame
variable {B : Build} {S : Schema} {ty : S.DataType}

/-- A frame that could be built carries the header it was numbered with: received
bytes that peek always have one to rewrite. -/
theorem numberedFrame_carries {data : RouterItem S} {hdr : ReliableHeader}
    {frame : NumberedFrame} (hdata : data.OfType B ty)
    (hty : S.isReliableType ty = true) (h : numberedFrame B S data hdr = .ok frame) :
    ∃ bytes, frame = .numbered bytes ∧ Carries B S ty hdr bytes := by
  cases data with
  | packet pkt =>
    obtain ⟨hres, rfl⟩ := hdata
    obtain ⟨bytes, hser, h⟩ := bind_eq_ok.mp h
    obtain rfl := Except.ok.inj h
    exact ⟨bytes, rfl, _, peekFrameInfo_of_serialize B hres hty hser, rfl, rfl⟩
  | serialized bytes =>
    obtain ⟨info, hpeek, rfl⟩ := hdata
    obtain ⟨buf, hrewrite, -, hpeek'⟩ := rewriteReliableHeader_of_peek hpeek hty hdr
    simp only [numberedFrame, hrewrite] at h
    obtain rfl := Except.ok.inj h
    exact ⟨buf, rfl, _, hpeek', rfl, rfl⟩

/-- Numbering has no `Err` either: received bytes that peek are rewritten, and the
encoder can only panic. -/
theorem numberedFrame_neverErrs {data : RouterItem S} (hdr : ReliableHeader)
    (hdata : data.OfType B ty) (hty : S.isReliableType ty = true) :
    NeverErrs (numberedFrame B S data hdr) := by
  cases data with
  | packet pkt => exact (serializePacketInner_neverErrs B pkt _).bind fun _ => .ok _
  | serialized bytes =>
    obtain ⟨info, hpeek, rfl⟩ := hdata
    obtain ⟨buf, hrewrite, -, -⟩ := rewriteReliableHeader_of_peek hpeek hty hdr
    simp only [numberedFrame, hrewrite]
    exact .ok _

/-- The outcomes of a numbered send: refused by a full history; no frame, the
encoder having panicked; a frame that the gate or the handler refused; a frame
that went out and was recorded. -/
theorem sendNumbered_cases {full : String} {data : RouterItem S} {gateFree : Bool}
    {transmit : List UInt8 → Outcome Unit} {now : UInt64} {tx : ReliableTxState}
    (hdata : data.OfType B ty) (hty : S.isReliableType ty = true) :
    (tx.allocate B = none ∧
      sendNumbered B S full ty data gateFree transmit now tx =
        ⟨tx, none, fail (.packetTooLarge full)⟩) ∨
    ∃ seq tx', tx.allocate B = some (seq, tx') ∧
      ((∃ e, numberedFrame B S data ⟨reliableFlags S ty, seq, 0⟩ = .error e ∧
          sendNumbered B S full ty data gateFree transmit now tx = ⟨tx', none, .error e⟩) ∨
        ∃ bytes, numberedFrame B S data ⟨reliableFlags S ty, seq, 0⟩ = .ok (.numbered bytes) ∧
          Carries B S ty ⟨reliableFlags S ty, seq, 0⟩ bytes ∧
          ((∃ e, throughGate gateFree (transmit bytes) = .error e ∧
              sendNumbered B S full ty data gateFree transmit now tx =
                ⟨tx', some bytes, .error e⟩) ∨
            (throughGate gateFree (transmit bytes) = .ok () ∧
              sendNumbered B S full ty data gateFree transmit now tx =
                ⟨tx'.record seq bytes now, some bytes, .ok ()⟩))) := by
  cases halloc : tx.allocate B with
  | none => exact .inl ⟨rfl, by simp only [sendNumbered, halloc]⟩
  | some taken =>
    obtain ⟨seq, tx'⟩ := taken
    refine .inr ⟨seq, tx', rfl, ?_⟩
    cases hframe : numberedFrame B S data ⟨reliableFlags S ty, seq, 0⟩ with
    | error e => exact .inl ⟨e, rfl, by simp only [sendNumbered, halloc, hframe]⟩
    | ok frame =>
      obtain ⟨bytes, rfl, hcarries⟩ := numberedFrame_carries hdata hty hframe
      refine .inr ⟨bytes, rfl, hcarries, ?_⟩
      cases hout : throughGate gateFree (transmit bytes) with
      | error e => exact .inl ⟨e, rfl, by simp only [sendNumbered, halloc, hframe, hout]⟩
      | ok u => exact .inr ⟨rfl, by simp only [sendNumbered, halloc, hframe, hout]⟩

end Frame

theorem nextSeqAfter_toNat {seq : UInt32} (h : seq.toNat + 1 < 2 ^ 32) :
    (nextSeqAfter seq).toNat = seq.toNat + 1 := by
  have hadd : (seq + 1).toNat = seq.toNat + 1 := by
    rw [UInt32.toNat_add, UInt32.toNat_one]
    exact Nat.mod_eq_of_lt h
  have hne : seq + 1 ≠ 0 := by
    intro hzero
    rw [hzero] at hadd
    simp at hadd
  rw [nextSeqAfter, if_neg hne, hadd]

namespace ReliableTxState
variable {B : Build} {S : Schema} {tx tx' : ReliableTxState}

theorem allocate_eq_some {seq : UInt32} (h : tx.allocate B = some (seq, tx')) :
    tx.sent.size < B.reliableMaxPending ∧ seq = tx.nextSeq ∧
      tx' = { tx with nextSeq := nextSeqAfter tx.nextSeq } := by
  unfold allocate at h
  split at h
  · cases h
  · rename_i hroom
    obtain ⟨rfl, rfl⟩ := Prod.mk.inj (Option.some.inj h)
    exact ⟨Nat.not_le.mp hroom, rfl, rfl⟩

/-- Every entry of `tx'` was one of `tx`, with the same bytes, `next_seq` is the
same, and only the numbers in `flagged` can have become partially acknowledged. -/
structure Inherits (flagged : List UInt32) (tx' tx : ReliableTxState) : Prop where
  nextSeq : tx'.nextSeq = tx.nextSeq
  entry : ∀ {seq : UInt32} {s' : ReliableSent}, tx'.sent[seq]? = some s' →
    ∃ s : ReliableSent, tx.sent[seq]? = some s ∧ s'.bytes = s.bytes ∧
      (s'.partialAcked = true → s.partialAcked = true ∨ seq ∈ flagged)

namespace Inherits
variable {flagged : List UInt32}

theorem refl (tx : ReliableTxState) : tx.Inherits flagged tx := ⟨rfl, fun h => ⟨_, h, rfl, .inl⟩⟩

theorem trans {tx'' : ReliableTxState} (h' : tx''.Inherits flagged tx')
    (h : tx'.Inherits flagged tx) : tx''.Inherits flagged tx where
  nextSeq := h'.nextSeq.trans h.nextSeq
  entry hs := by
    obtain ⟨s', hs', hbytes', hflag'⟩ := h'.entry hs
    obtain ⟨s, hs, hbytes, hflag⟩ := h.entry hs'
    refine ⟨s, hs, hbytes'.trans hbytes, fun hset => ?_⟩
    rcases hflag' hset with hset | hnew
    · exact hflag hset
    · exact .inr hnew

/-- Entries change only in their bookkeeping. -/
theorem modify (tx : ReliableTxState) (seq : UInt32) {f : ReliableSent → ReliableSent}
    (hf : ∀ s, (f s).bytes = s.bytes)
    (hflag : ∀ s, (f s).partialAcked = true → s.partialAcked = true ∨ seq ∈ flagged) :
    ({ tx with sent := tx.sent.modify seq f }).Inherits flagged tx where
  nextSeq := rfl
  entry {q s'} h := by
    rw [OrdMap.get?_modify] at h
    split at h
    · rename_i heq
      subst heq
      obtain ⟨s, hs, rfl⟩ := Option.map_eq_some_iff.mp h
      exact ⟨s, hs, hf s, hflag s⟩
    · exact ⟨s', h, rfl, .inl⟩

theorem of_lookup {order : List UInt32} {sent : OrdMap UInt32 ReliableSent}
    (h : ∀ q : UInt32, sent[q]? = none ∨ sent[q]? = tx.sent[q]?) :
    ({ tx with sentOrder := order, sent := sent }).Inherits flagged tx where
  nextSeq := rfl
  entry {q s'} hs := by
    rcases h q with hnone | hsame
    · rw [hnone] at hs
      cases hs
    · exact ⟨s', hsame ▸ hs, rfl, .inl⟩

end Inherits

section Ack

theorem popAcked_lookup (ack : UInt32) (order : List UInt32) (sent : OrdMap UInt32 ReliableSent)
    (q : UInt32) :
    (popAcked ack order sent).2[q]? = sent[q]? ∨
      ((popAcked ack order sent).2[q]? = none ∧ q ∈ order ∧ q ≤ ack) := by
  induction order generalizing sent with
  | nil => exact .inl rfl
  | cons seq rest ih =>
    unfold popAcked
    by_cases hlt : ack < seq
    · rw [if_pos hlt]
      exact .inl rfl
    · rw [if_neg hlt]
      have hle : seq ≤ ack := UInt32.not_lt.mp hlt
      rcases ih (sent.erase seq) with hsame | ⟨hnone, hmem, hq⟩
      · rw [hsame, OrdMap.get?_erase]
        by_cases heq : seq = q
        · subst heq
          exact .inr ⟨by simp, List.mem_cons_self, hle⟩
        · exact .inl (by simp [heq])
      · exact .inr ⟨hnone, List.mem_cons_of_mem _ hmem, hq⟩

/-- On a sorted history the loop removes exactly the numbers up to `ack`. -/
theorem popAcked_sorted (ack : UInt32) {order : List UInt32}
    (sent : OrdMap UInt32 ReliableSent) (hsorted : order.Pairwise (· < ·)) :
    (popAcked ack order sent).1 = order.filter (fun q => ack < q) ∧
      ∀ q, (popAcked ack order sent).2[q]? =
        if q ∈ order ∧ q ≤ ack then none else sent[q]? := by
  induction order generalizing sent with
  | nil => simp [popAcked]
  | cons seq rest ih =>
    rw [List.pairwise_cons] at hsorted
    obtain ⟨hhead, hrest⟩ := hsorted
    unfold popAcked
    by_cases hlt : ack < seq
    · -- everything behind the head is above it, hence above `ack`
      have hall : ∀ q ∈ rest, ack < q := fun q hq => UInt32.lt_trans hlt (hhead q hq)
      rw [if_pos hlt]
      refine ⟨?_, fun q => ?_⟩
      · rw [List.filter_cons_of_pos (by simpa using hlt)]
        rw [List.filter_eq_self.mpr fun q hq => by simpa using hall q hq]
      · rw [if_neg]
        rintro ⟨hmem, hle⟩
        rcases List.mem_cons.mp hmem with rfl | hmem
        · exact UInt32.not_lt.mpr hle hlt
        · exact UInt32.not_lt.mpr hle (hall q hmem)
    · have hle : seq ≤ ack := UInt32.not_lt.mp hlt
      obtain ⟨horder, hlookup⟩ := ih (sent.erase seq) hrest
      rw [if_neg hlt]
      refine ⟨?_, fun q => ?_⟩
      · rw [horder, List.filter_cons_of_neg (by simpa using hle)]
      · rw [hlookup, OrdMap.get?_erase]
        by_cases heq : seq = q
        · subst heq
          simp [hle]
        · have hne : q ≠ seq := fun h => heq h.symm
          simp [heq, hne]

/-- What an acknowledgement removes from an ordered stream is at most `ack`. -/
theorem handleReliableAck_removed {ty : S.DataType} {ack q : UInt32}
    (hmode : S.reliableMode ty = .ordered) (hmem : q ∈ tx.sent)
    (hgone : q ∉ (tx.handleReliableAck S ty ack).sent) : q ≤ ack := by
  have hq := popAcked_lookup ack tx.sentOrder tx.sent q
  simp only [handleReliableAck, hmode] at hgone
  rcases hq with hsame | ⟨-, -, hle⟩
  · refine absurd ?_ hgone
    rw [OrdMap.mem_iff_get?] at hmem ⊢
    rwa [hsame]
  · exact hle

theorem handleReliableAck_inherits (tx : ReliableTxState) (ty : S.DataType) (ack : UInt32) :
    (tx.handleReliableAck S ty ack).Inherits [] tx := by
  unfold handleReliableAck
  split
  · refine .of_lookup fun q => ?_
    rw [OrdMap.get?_erase]
    by_cases h : ack = q
    · exact .inl (by simp [h])
    · exact .inr (by simp [h])
  · refine .of_lookup fun q => ?_
    rcases popAcked_lookup ack tx.sentOrder tx.sent q with hsame | ⟨hnone, -, -⟩
    · exact .inr hsame
    · exact .inl hnone

end Ack

theorem handleReliablePartialAck_inherits (tx : ReliableTxState) (seq : UInt32) :
    (tx.handleReliablePartialAck seq).Inherits [seq] tx :=
  .modify tx seq (fun _ => rfl) fun _ _ => .inr (List.mem_singleton_self seq)

theorem markReplayed_inherits (tx : ReliableTxState) (seq : UInt32) (now : UInt64) :
    (tx.markReplayed seq now).Inherits [] tx :=
  .modify tx seq (fun _ => rfl) fun _ => .inl

theorem queueReliableRetransmit_inherits (tx : ReliableTxState) (seq : UInt32) :
    (tx.queueReliableRetransmit seq).1.Inherits [] tx := by
  unfold queueReliableRetransmit
  split
  · exact .refl tx
  · split
    · exact .refl tx
    · exact .modify tx seq (fun _ => rfl) fun _ h => by cases h

theorem queueReliableRetransmit_mem (tx : ReliableTxState) (seq q : UInt32) :
    q ∈ (tx.queueReliableRetransmit seq).1.sent ↔ q ∈ tx.sent := by
  unfold queueReliableRetransmit
  split
  · rfl
  · split
    · rfl
    · exact Std.ExtTreeMap.mem_modify

/-- What is queued for replay is an entry of the history. -/
theorem queueReliableRetransmit_bytes {seq : UInt32} {bytes : List UInt8}
    (h : (tx.queueReliableRetransmit seq).2 = some bytes) :
    ∃ s, tx.sent[seq]? = some s ∧ s.bytes = bytes ∧ s.queued = false := by
  unfold queueReliableRetransmit at h
  split at h
  · cases h
  · rename_i s hs
    split at h
    · cases h
    · rename_i hq
      exact ⟨s, hs, Option.some.inj h, by simpa using hq⟩

/-- What the scan makes of one entry; `none` gives the frame up. -/
def timedOut (B : Build) (now : UInt64) (s : ReliableSent) : Option ReliableSent :=
  if Idle B now s then some s
  else if B.reliableMaxRetries ≤ s.retries then none
  else some { s with retries := s.retries + 1 }

theorem timeoutEntry_get (now : UInt64) (tx : ReliableTxState) (seq q : UInt32) :
    (timeoutEntry B now tx seq).1.sent[q]? =
      if seq = q then tx.sent[q]?.bind (timedOut B now) else tx.sent[q]? := by
  unfold timeoutEntry timedOut
  by_cases heq : seq = q
  · subst heq
    cases hs : tx.sent[seq]? with
    | none => simp [hs]
    | some s =>
      simp only [if_true, Option.bind_some]
      by_cases hidle : Idle B now s
      · simp [hidle, hs]
      · by_cases hmax : B.reliableMaxRetries ≤ s.retries
        · simp [hidle, hmax]
        · simp [hidle, hmax, hs]
  · cases hs : tx.sent[seq]? with
    | none => simp [heq]
    | some s =>
      simp only [heq, if_false]
      by_cases hidle : Idle B now s
      · simp [hidle]
      · by_cases hmax : B.reliableMaxRetries ≤ s.retries
        · simp [hidle, hmax, OrdMap.get?_erase, heq]
        · simp [hidle, hmax, OrdMap.get?_modify, heq]

@[simp] theorem timeoutEntry_nextSeq (now : UInt64) (tx : ReliableTxState) (seq : UInt32) :
    (timeoutEntry B now tx seq).1.nextSeq = tx.nextSeq := by
  unfold timeoutEntry
  split
  · rfl
  · split
    · rfl
    · split <;> rfl

theorem timedOut_eq_some {now : UInt64} {s s' : ReliableSent} (h : timedOut B now s = some s') :
    s'.bytes = s.bytes ∧ s'.partialAcked = s.partialAcked ∧ s'.queued = s.queued := by
  unfold timedOut at h
  split at h
  · obtain rfl := Option.some.inj h
    exact ⟨rfl, rfl, rfl⟩
  · split at h
    · cases h
    · obtain rfl := Option.some.inj h
      exact ⟨rfl, rfl, rfl⟩

theorem timeoutEntry_inherits (now : UInt64) (tx : ReliableTxState) (seq : UInt32) :
    (timeoutEntry B now tx seq).1.Inherits [] tx where
  nextSeq := timeoutEntry_nextSeq now tx seq
  entry {q s'} h := by
    rw [timeoutEntry_get] at h
    split at h
    · obtain ⟨s, hs, hout⟩ := Option.bind_eq_some_iff.mp h
      obtain ⟨hbytes, hflag, -⟩ := timedOut_eq_some hout
      exact ⟨s, hs, hbytes, fun hset => .inl (hflag ▸ hset)⟩
    · exact ⟨s', h, rfl, .inl⟩

theorem timeoutScan_inherits (now : UInt64) (tx : ReliableTxState) (seqs : List UInt32) :
    (timeoutScan B now tx seqs).1.Inherits [] tx := by
  induction seqs generalizing tx with
  | nil => exact .refl tx
  | cons seq rest ih => exact (ih _).trans (timeoutEntry_inherits now tx seq)

/-- The scan meets every number of its list once. -/
theorem timeoutScan_get (now : UInt64) (tx : ReliableTxState) {seqs : List UInt32}
    (hnodup : seqs.Nodup) (q : UInt32) :
    (timeoutScan B now tx seqs).1.sent[q]? =
      if q ∈ seqs then tx.sent[q]?.bind (timedOut B now) else tx.sent[q]? := by
  induction seqs generalizing tx with
  | nil => simp [timeoutScan]
  | cons seq rest ih =>
    obtain ⟨hnotin, hrest⟩ := List.nodup_cons.mp hnodup
    show (timeoutScan B now (timeoutEntry B now tx seq).1 rest).1.sent[q]? = _
    rw [ih _ hrest, timeoutEntry_get]
    by_cases heq : seq = q
    · subst heq
      simp [hnotin]
    · have hne : q ≠ seq := fun h => heq h.symm
      simp [heq, hne]

/-- The representation invariant of a history. -/
structure Consistent (B : Build) (S : Schema) (ty : S.DataType) (tx : ReliableTxState) :
    Prop where
  sorted : tx.sentOrder.Pairwise (· < ·)
  mem_iff : ∀ seq, seq ∈ tx.sentOrder ↔ seq ∈ tx.sent
  size_le : tx.sent.size ≤ B.reliableMaxPending
  lt_next : ∀ seq ∈ tx.sent, seq < tx.nextSeq
  carries : ∀ {seq : UInt32} {s : ReliableSent}, tx.sent[seq]? = some s →
    ∃ hdr, Carries B S ty hdr s.bytes ∧ hdr.seq = seq
  retries_le : ∀ {seq : UInt32} {s : ReliableSent}, tx.sent[seq]? = some s →
    s.retries ≤ B.reliableMaxRetries

namespace Consistent
variable {ty : S.DataType}

theorem fresh : Consistent B S ty .fresh where
  sorted := .nil
  mem_iff seq := by simp [ReliableTxState.fresh]
  size_le := by simp [ReliableTxState.fresh]
  lt_next seq h := by simp [ReliableTxState.fresh] at h
  carries h := by simp [ReliableTxState.fresh] at h
  retries_le h := by simp [ReliableTxState.fresh] at h

theorem size_eq (h : Consistent B S ty tx) : tx.sent.size = tx.sentOrder.length :=
  OrdMap.size_eq_length (h.sorted.imp UInt32.ne_of_lt) h.mem_iff

/-- Bookkeeping of one entry. -/
theorem modify (h : Consistent B S ty tx) (seq : UInt32) {f : ReliableSent → ReliableSent}
    (hbytes : ∀ s, (f s).bytes = s.bytes)
    (hretries : ∀ s, tx.sent[seq]? = some s → (f s).retries ≤ B.reliableMaxRetries) :
    Consistent B S ty { tx with sent := tx.sent.modify seq f } where
  sorted := h.sorted
  mem_iff q := by rw [h.mem_iff, Std.ExtTreeMap.mem_modify]
  size_le := by
    rw [Std.ExtTreeMap.size_modify]
    exact h.size_le
  lt_next q hq := h.lt_next q (Std.ExtTreeMap.mem_modify.mp hq)
  carries hs := by
    rw [OrdMap.get?_modify] at hs
    split at hs
    · obtain ⟨s, hentry, rfl⟩ := Option.map_eq_some_iff.mp hs
      rw [hbytes]
      exact h.carries hentry
    · exact h.carries hs
  retries_le {q s'} hs := by
    rw [OrdMap.get?_modify] at hs
    split at hs
    · rename_i heq
      subst heq
      obtain ⟨s, hentry, rfl⟩ := Option.map_eq_some_iff.mp hs
      exact hretries s hentry
    · exact h.retries_le hs

/-- Removal of the same numbers from both containers. -/
theorem remove (h : Consistent B S ty tx) (keep : UInt32 → Bool)
    {sent : OrdMap UInt32 ReliableSent}
    (hsent : ∀ q : UInt32, sent[q]? = if keep q then tx.sent[q]? else none) :
    Consistent B S ty { tx with sentOrder := tx.sentOrder.filter keep, sent := sent } := by
  have hsorted := h.sorted.filter keep
  have hsub : ∀ {q : UInt32} {s : ReliableSent}, sent[q]? = some s → tx.sent[q]? = some s := by
    intro q s hs
    rw [hsent] at hs
    split at hs
    · exact hs
    · cases hs
  have hmem : ∀ q, q ∈ tx.sentOrder.filter keep ↔ q ∈ sent := by
    intro q
    rw [List.mem_filter, h.mem_iff, OrdMap.mem_iff_get?, OrdMap.mem_iff_get?, hsent]
    by_cases hkeep : keep q <;> simp [hkeep]
  refine ⟨hsorted, hmem, ?_, ?_, fun hs => h.carries (hsub hs), fun hs => h.retries_le (hsub hs)⟩
  · calc sent.size = (tx.sentOrder.filter keep).length :=
          OrdMap.size_eq_length (hsorted.imp UInt32.ne_of_lt) hmem
      _ ≤ tx.sentOrder.length := List.length_filter_le _ _
      _ = tx.sent.size := h.size_eq.symm
      _ ≤ B.reliableMaxPending := h.size_le
  · intro q hq
    obtain ⟨s, hs⟩ := OrdMap.mem_iff_get?.mp hq
    exact h.lt_next q (OrdMap.mem_iff_get?.mpr ⟨s, hsub hs⟩)

theorem handleReliableAck (h : Consistent B S ty tx) (ack : UInt32) :
    Consistent B S ty (tx.handleReliableAck S ty ack) := by
  unfold ReliableTxState.handleReliableAck
  split
  · refine h.remove (· ≠ ack) fun q => ?_
    rw [OrdMap.get?_erase]
    by_cases heq : ack = q
    · simp [heq]
    · simp [heq, Ne.symm heq]
  · obtain ⟨horder, hlookup⟩ := popAcked_sorted ack tx.sent h.sorted
    show Consistent B S ty { tx with sentOrder := _, sent := _ }
    rw [horder]
    refine h.remove (fun q => ack < q) fun q => ?_
    rw [hlookup]
    by_cases hmem : q ∈ tx.sentOrder
    · by_cases hle : q ≤ ack
      · simp [hmem, hle, UInt32.not_lt.mpr hle]
      · simp [hle, UInt32.not_le.mp hle]
    · have hnone : tx.sent[q]? = none := by
        rw [h.mem_iff, OrdMap.mem_iff_get?] at hmem
        exact Option.eq_none_iff_forall_not_mem.mpr fun s hs => hmem ⟨s, hs⟩
      simp [hmem, hnone]

/-- A cumulative acknowledgement leaves exactly the numbers above it. -/
theorem mem_handleReliableAck (h : Consistent B S ty tx) (hmode : S.reliableMode ty = .ordered)
    {ack seq : UInt32} : seq ∈ (tx.handleReliableAck S ty ack).sent ↔ seq ∈ tx.sent ∧ ack < seq := by
  obtain ⟨horder, -⟩ := popAcked_sorted ack tx.sent h.sorted
  rw [← (h.handleReliableAck ack).mem_iff, ← h.mem_iff]
  simp only [ReliableTxState.handleReliableAck, hmode, horder, List.mem_filter, decide_eq_true_eq]

theorem handleReliablePartialAck (h : Consistent B S ty tx) (seq : UInt32) :
    Consistent B S ty (tx.handleReliablePartialAck seq) :=
  h.modify seq (fun _ => rfl) fun s hs => show s.retries ≤ _ from h.retries_le hs

theorem markReplayed (h : Consistent B S ty tx) (seq : UInt32) (now : UInt64) :
    Consistent B S ty (tx.markReplayed seq now) :=
  h.modify seq (fun _ => rfl) fun s hs => show s.retries ≤ _ from h.retries_le hs

theorem queueReliableRetransmit (h : Consistent B S ty tx) (seq : UInt32) :
    Consistent B S ty (tx.queueReliableRetransmit seq).1 := by
  unfold ReliableTxState.queueReliableRetransmit
  split
  · exact h
  · split
    · exact h
    · exact h.modify seq (fun _ => rfl) fun s hs => show s.retries ≤ _ from h.retries_le hs

theorem timeoutEntry (h : Consistent B S ty tx) (now : UInt64) (seq : UInt32) :
    Consistent B S ty (ReliableTxState.timeoutEntry B now tx seq).1 := by
  unfold ReliableTxState.timeoutEntry
  split
  · exact h
  · rename_i s hs
    split
    · exact h
    · split
      · refine h.remove (· ≠ seq) fun q => ?_
        rw [OrdMap.get?_erase]
        by_cases heq : seq = q
        · simp [heq]
        · simp [heq, Ne.symm heq]
      · rename_i hretries
        refine h.modify seq (fun _ => rfl) fun s' hs' => ?_
        obtain rfl := Option.some.inj (hs.symm.trans hs')
        -- an increment below the maximum does not overflow
        rw [UInt32.not_le, UInt32.lt_iff_toNat_lt] at hretries
        have := B.reliableMaxRetries.toNat_lt
        rw [UInt32.le_iff_toNat_le, UInt32.toNat_add, UInt32.toNat_one, Nat.mod_eq_of_lt]
        · omega
        · omega

theorem timeoutScan (h : Consistent B S ty tx) (now : UInt64) (seqs : List UInt32) :
    Consistent B S ty (ReliableTxState.timeoutScan B now tx seqs).1 := by
  induction seqs generalizing tx with
  | nil => exact h
  | cons seq rest ih => exact ih (h.timeoutEntry now seq)

/-- A number taken from a history that has not wrapped is above all of its own. -/
theorem allocate (h : Consistent B S ty tx) {seq : UInt32}
    (hwrap : tx.nextSeq.toNat + 1 < 2 ^ 32) (halloc : tx.allocate B = some (seq, tx')) :
    Consistent B S ty tx' ∧ seq = tx.nextSeq ∧ seq < tx'.nextSeq ∧
      tx'.sent.size < B.reliableMaxPending ∧ ∀ q ∈ tx'.sent, q < seq := by
  obtain ⟨hroom, rfl, rfl⟩ := allocate_eq_some halloc
  have hnext : tx.nextSeq < nextSeqAfter tx.nextSeq := by
    rw [UInt32.lt_iff_toNat_lt, nextSeqAfter_toNat hwrap]
    omega
  refine ⟨⟨h.sorted, h.mem_iff, h.size_le, ?_, h.carries, h.retries_le⟩, rfl, hnext, hroom,
    h.lt_next⟩
  intro q hq
  exact UInt32.lt_trans (h.lt_next q hq) hnext

theorem record (h : Consistent B S ty tx) {seq : UInt32} {bytes : List UInt8} {hdr : ReliableHeader}
    (hbelow : ∀ q ∈ tx.sent, q < seq) (hnext : seq < tx.nextSeq)
    (hroom : tx.sent.size < B.reliableMaxPending) (hcarries : Carries B S ty hdr bytes)
    (hseq : hdr.seq = seq) (now : UInt64) : Consistent B S ty (tx.record seq bytes now) := by
  have hfresh : seq ∉ tx.sent := fun hmem => UInt32.lt_irrefl seq (hbelow seq hmem)
  have hentry : ∀ {q : UInt32} {s : ReliableSent}, (tx.record seq bytes now).sent[q]? = some s →
      (q = seq ∧ s = ⟨bytes, now, 0, false, false⟩) ∨ tx.sent[q]? = some s := by
    intro q s hs
    rw [ReliableTxState.record, OrdMap.get?_insert] at hs
    split at hs
    · rename_i heq
      exact .inl ⟨heq.symm, (Option.some.inj hs).symm⟩
    · exact .inr hs
  constructor
  · refine List.pairwise_append.mpr ⟨h.sorted, List.pairwise_singleton _ _, ?_⟩
    intro q hq q' hq'
    rw [List.mem_singleton.mp hq']
    exact hbelow q ((h.mem_iff q).mp hq)
  · intro q
    simp only [ReliableTxState.record, List.mem_append, List.mem_singleton, h.mem_iff,
      Std.ExtTreeMap.mem_insert, Std.compare_eq_iff_eq]
    constructor
    · rintro (hq | rfl)
      · exact .inr hq
      · exact .inl rfl
    · rintro (rfl | hq)
      · exact .inr rfl
      · exact .inl hq
  · rw [ReliableTxState.record, OrdMap.size_insert_of_not_mem hfresh]
    exact hroom
  · intro q hq
    obtain ⟨s, hs⟩ := OrdMap.mem_iff_get?.mp hq
    rcases hentry hs with ⟨rfl, -⟩ | hs
    · exact hnext
    · exact h.lt_next q (OrdMap.mem_iff_get?.mpr ⟨s, hs⟩)
  · intro q s hs
    rcases hentry hs with ⟨rfl, rfl⟩ | hs
    · exact ⟨hdr, hcarries, hseq⟩
    · exact h.carries hs
  · intro q s hs
    rcases hentry hs with ⟨rfl, rfl⟩ | hs
    · exact UInt32.zero_le
    · exact h.retries_le hs

end Consistent

/-- The requeue loop keeps every entry and pushes bytes of the history. -/
structure Requeued (B : Build) (S : Schema) (ty : S.DataType) (tx tx' : ReliableTxState)
    (pushed : List (List UInt8)) : Prop where
  inherits : tx'.Inherits [] tx
  mem : ∀ seq, seq ∈ tx'.sent ↔ seq ∈ tx.sent
  consistent : tx.Consistent B S ty → tx'.Consistent B S ty
  bytes : ∀ b ∈ pushed, ∃ (seq : UInt32) (s : ReliableSent), tx.sent[seq]? = some s ∧ s.bytes = b

theorem requeue_spec {ty : S.DataType} (tx : ReliableTxState) (room : Nat) (seqs : List UInt32) :
    Requeued B S ty tx (tx.requeue room seqs).1 (tx.requeue room seqs).2 := by
  induction seqs generalizing tx room with
  | nil => exact ⟨.refl tx, fun _ => .rfl, id, by simp [requeue]⟩
  | cons seq rest ih =>
    have hin := tx.queueReliableRetransmit_inherits seq
    have hmem := tx.queueReliableRetransmit_mem seq
    have hcon : tx.Consistent B S ty → (tx.queueReliableRetransmit seq).1.Consistent B S ty :=
      fun hc => hc.queueReliableRetransmit seq
    have hbytes := @queueReliableRetransmit_bytes tx seq
    unfold requeue
    generalize tx.queueReliableRetransmit seq = r at hin hmem hcon hbytes
    obtain ⟨tx', pushed⟩ := r
    have hrest (room : Nat) : Requeued B S ty tx (tx'.requeue room rest).1
        (tx'.requeue room rest).2 := by
      refine ⟨(ih tx' room).inherits.trans hin, fun q => ((ih tx' room).mem q).trans (hmem q),
        fun hc => (ih tx' room).consistent (hcon hc), fun b hb => ?_⟩
      obtain ⟨q, s', hs', hb'⟩ := (ih tx' room).bytes b hb
      obtain ⟨s, hs, hsame, -⟩ := hin.entry hs'
      exact ⟨q, s, hs, hsame ▸ hb'⟩
    cases pushed with
    | none => exact hrest room
    | some bytes =>
      cases room with
      | zero => exact ⟨hin, hmem, hcon, by simp⟩
      | succ room =>
        refine ⟨(hrest room).inherits, (hrest room).mem, (hrest room).consistent, fun b hb => ?_⟩
        rcases List.mem_cons.mp hb with rfl | hb
        · obtain ⟨s, hs, hsame, -⟩ := hbytes rfl
          exact ⟨seq, s, hs, hsame⟩
        · exact (hrest room).bytes b hb

end ReliableTxState
end Sedsprintf
