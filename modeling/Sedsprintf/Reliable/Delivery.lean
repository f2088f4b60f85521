import Sedsprintf.Reliable.Link

/-!
# Safety of ordered delivery

The invariant of a link whose stream has not wrapped: every copy of a frame,
in the history, in flight or buffered, is the frame assigned to its number, and
the receiver has released a prefix of what was assigned.
-/
namespace Sedsprintf.Link

open Lib

/-- The frame the sender built for number `seq`. -/
def Assigned (l : Link) (seq : UInt32) (bytes : List UInt8) : Prop :=
  ∃ i, seq.toNat = i + 1 ∧ l.assigned[i]? = some bytes

/-- Fewer frames than sequence numbers. -/
def Unwrapped (l : Link) : Prop := l.assigned.length < 2 ^ 32 - 1

structure InOrder (B : Build) (S : Schema) (ty : S.DataType) (l : Link) : Prop where
  next : l.tx.nextSeq.toNat = l.assigned.length + 1
  consistent : l.tx.Consistent B S ty
  headers : ∀ {i : Nat} {bytes : List UInt8}, l.assigned[i]? = some bytes →
    ∃ seq : UInt32, Carries B S ty ⟨0, seq, 0⟩ bytes ∧ seq.toNat = i + 1
  sent : ∀ {seq : UInt32} {s : ReliableSent}, l.tx.sent[seq]? = some s → l.Assigned seq s.bytes
  replays : ∀ bytes ∈ l.replays, bytes ∈ l.assigned
  data : ∀ bytes ∈ l.data, bytes ∈ l.assigned
  expected : l.rx.expectedSeq.toNat = l.released.length + 1
  released : ∀ {i : Nat} {bytes : List UInt8}, l.released[i]? = some bytes →
    l.assigned[i]? = some bytes
  buffered : ∀ {seq : UInt32} {bytes : List UInt8}, l.rx.buffered[seq]? = some bytes →
    l.Assigned seq bytes ∧ l.rx.expectedSeq < seq
  size_le : l.rx.buffered.size ≤ B.reliableMaxPending
  /-- With a cap of zero the sender never numbers a frame. -/
  pending_pos : l.assigned ≠ [] → 0 < B.reliableMaxPending
  acks : ∀ ack ∈ l.acksQueued, ack.toNat ≤ l.released.length
  control : ∀ {ack : UInt32}, .ack ack ∈ l.control → ack ∈ l.acksQueued

theorem getElem?_of_prefix {frames more : List (List UInt8)} {i : Nat} {bytes : List UInt8}
    (hpre : frames <+: more) (h : frames[i]? = some bytes) : more[i]? = some bytes := by
  obtain ⟨hi, rfl⟩ := List.getElem?_eq_some_iff.mp h
  exact List.prefix_iff_getElem?.mp hpre i hi

section Assigned
variable {l l' : Link} {seq : UInt32} {bytes : List UInt8}

theorem Assigned.mem (h : l.Assigned seq bytes) : bytes ∈ l.assigned := by
  obtain ⟨i, -, hget⟩ := h
  exact List.mem_of_getElem? hget

theorem Assigned.le (h : l.Assigned seq bytes) : 1 ≤ seq.toNat ∧ seq.toNat ≤ l.assigned.length := by
  obtain ⟨i, hseq, hget⟩ := h
  have hlt := (List.getElem?_eq_some_iff.mp hget).1
  omega

theorem Assigned.mono (hpre : l.assigned <+: l'.assigned) (h : l.Assigned seq bytes) :
    l'.Assigned seq bytes := by
  obtain ⟨i, hseq, hget⟩ := h
  exact ⟨i, hseq, getElem?_of_prefix hpre hget⟩

end Assigned

namespace InOrder
variable {B : Build} {S : Schema} {ty : S.DataType} {l l' : Link} {a : Action S}

theorem initial : InOrder B S ty .initial where
  next := rfl
  consistent := .fresh
  headers h := by simp [Link.initial] at h
  sent h := by simp [Link.initial, ReliableTxState.fresh] at h
  replays _ h := by simp [Link.initial] at h
  data _ h := by simp [Link.initial] at h
  expected := rfl
  released h := by simp [Link.initial] at h
  buffered h := by simp [Link.initial, ReliableRxState.fresh] at h
  size_le := by simp [Link.initial, ReliableRxState.fresh]
  pending_pos h := by simp [Link.initial] at h
  acks _ h := by simp [Link.initial] at h
  control h := by simp [Link.initial] at h

theorem sender_move (h : InOrder B S ty l) (move : SenderMove B S ty a l l') :
    InOrder B S ty l' := by
  obtain ⟨flagged, htx, -⟩ := move.tx
  have hassigned {seq : UInt32} {bytes : List UInt8} (h : l.Assigned seq bytes) :
      l'.Assigned seq bytes := h.mono (by simp [move.assigned])
  constructor
  · rw [htx.nextSeq, move.assigned]
    exact h.next
  · exact move.consistent h.consistent
  · rw [move.assigned]
    exact h.headers
  · intro seq s' hs'
    obtain ⟨s, hs, hbytes, -⟩ := htx.entry hs'
    rw [hbytes]
    exact hassigned (h.sent hs)
  · intro bytes hb
    rw [move.assigned]
    rcases move.replays bytes hb with hb | ⟨seq, s, hs, rfl⟩
    · exact h.replays bytes hb
    · exact (h.sent hs).mem
  · intro bytes hb
    rw [move.assigned]
    rcases move.data bytes hb with hb | hb
    · exact h.data bytes hb
    · exact h.replays bytes hb
  · rw [move.rx, move.released]
    exact h.expected
  · rw [move.released, move.assigned]
    exact h.released
  · rw [move.rx]
    intro seq bytes hb
    exact ⟨hassigned (h.buffered hb).1, (h.buffered hb).2⟩
  · rw [move.rx]
    exact h.size_le
  · rw [move.assigned]
    exact h.pending_pos
  · rw [move.acksQueued, move.released]
    exact h.acks
  · intro ack hack
    rw [move.acksQueued]
    exact h.control (move.control _ hack)

/-- A frame is numbered, whether or not it then goes out. -/
theorem numbered (h : InOrder B S ty l) (hmode : S.reliableMode ty = .ordered)
    {gateFree : Bool} {transmit : Outcome Unit} {now : UInt64} {seq : UInt32}
    {tx' tx'' : ReliableTxState} {bytes : List UInt8} {flight : List (List UInt8)}
    (halloc : l.tx.allocate B = some (seq, tx'))
    (hcarries : Carries B S ty ⟨reliableFlags S ty, seq, 0⟩ bytes)
    (htx : ((∃ e, throughGate gateFree transmit = .error e) ∧ tx'' = tx') ∨
      (throughGate gateFree transmit = .ok () ∧ tx'' = tx'.record seq bytes now))
    (hflight : ∀ b ∈ flight, b ∈ l.data ∨ b = bytes)
    (hbound : l.assigned.length + 1 < 2 ^ 32 - 1) :
    InOrder B S ty
      { l with tx := tx'', data := flight, assigned := l.assigned ++ [bytes] } := by
  have hwrap : l.tx.nextSeq.toNat + 1 < 2 ^ 32 := by
    rw [h.next]
    omega
  obtain ⟨hcon, hseq, hlt, hroom, hbelow⟩ := h.consistent.allocate hwrap halloc
  have hnumber : seq.toNat = l.assigned.length + 1 := by
    rw [hseq, h.next]
  have hflags : reliableFlags S ty = 0 := by simp [reliableFlags, hmode]
  rw [hflags] at hcarries
  have hpre : l.assigned <+: l.assigned ++ [bytes] := List.prefix_append _ _
  have hassigned {q : UInt32} {b : List UInt8} (h : l.Assigned q b) :
      Assigned { l with tx := tx'', data := flight, assigned := l.assigned ++ [bytes] } q b :=
    h.mono hpre
  obtain ⟨-, -, htaken⟩ := ReliableTxState.allocate_eq_some halloc
  have hnext : tx'.nextSeq.toNat = l.assigned.length + 2 := by
    rw [htaken, nextSeqAfter_toNat hwrap, h.next]
  have hsent : tx'.sent = l.tx.sent := by rw [htaken]
  constructor
  · simp only [List.length_append, List.length_singleton]
    rcases htx with ⟨-, rfl⟩ | ⟨-, rfl⟩
    · exact hnext
    · exact hnext
  · rcases htx with ⟨-, rfl⟩ | ⟨-, rfl⟩
    · exact hcon
    · exact hcon.record hbelow hlt hroom hcarries rfl now
  · intro i b hget
    rw [List.getElem?_append] at hget
    split at hget
    · exact h.headers hget
    · obtain ⟨hi, rfl⟩ := List.getElem?_eq_some_iff.mp hget
      simp only [List.length_singleton] at hi
      refine ⟨seq, by simpa using hcarries, by omega⟩
  · intro q s hs
    rcases htx with ⟨-, rfl⟩ | ⟨-, rfl⟩
    · rw [hsent] at hs
      exact hassigned (h.sent hs)
    · simp only [ReliableTxState.record, OrdMap.get?_insert, hsent] at hs
      split at hs
      · rename_i heq
        subst heq
        obtain rfl := Option.some.inj hs
        exact ⟨l.assigned.length, hnumber, by simp⟩
      · exact hassigned (h.sent hs)
  · exact fun b hb => hpre.subset (h.replays b hb)
  · intro b hb
    rcases hflight b hb with hb | rfl
    · exact hpre.subset (h.data b hb)
    · simp
  · exact h.expected
  · exact fun hget => getElem?_of_prefix hpre (h.released hget)
  · exact fun hb => ⟨hassigned (h.buffered hb).1, (h.buffered hb).2⟩
  · exact h.size_le
  · exact fun _ => Nat.zero_lt_of_lt hroom
  · exact h.acks
  · exact h.control

theorem evict (h : InOrder B S ty l) : InOrder B S ty l.evictBuffered := by
  unfold evictBuffered
  split
  · exact h
  · rename_i seq bytes rest hpop
    obtain ⟨-, rfl⟩ := OrdMap.popFirst_eq_some hpop
    refine { h with
      buffered := fun {q b} hb => ?_
      size_le := Std.ExtTreeMap.size_erase_le.trans h.size_le }
    rw [OrdMap.get?_erase] at hb
    split at hb
    · cases hb
    · exact h.buffered hb

/-- A frame taken from the channel names the number it was assigned. -/
theorem number_of_peek (h : InOrder B S ty l) {bytes : List UInt8} {env : TelemetryEnvelope S}
    {hdr : ReliableHeader} (hmem : bytes ∈ l.data)
    (hpeek : peekFrameInfo B S bytes = .ok ⟨env, some hdr⟩) :
    hdr.flags = 0 ∧ l.Assigned hdr.seq bytes := by
  obtain ⟨i, hi⟩ := List.mem_iff_getElem?.mp (h.data bytes hmem)
  obtain ⟨seq, ⟨info, hpeek', -, hhdr⟩, hseq⟩ := h.headers hi
  obtain rfl := Except.ok.inj (hpeek.symm.trans hpeek')
  obtain rfl := Option.some.inj hhdr
  exact ⟨rfl, i, hseq, hi⟩

/-- The release loop below the wrap, started by the frame in order. -/
theorem releases (h : InOrder B S ty l) (hbound : l.Unwrapped) {seq : UInt32}
    {bytes : List UInt8} (hassigned : l.Assigned seq bytes) (hseq : seq = l.rx.expectedSeq) :
    (seq + 1).toNat = seq.toNat + 1 ∧
      Releases seq (seq + 1) l.rx.buffered
        (releaseBuffered l.rx.buffered.size seq (seq + 1) l.rx.buffered).1
        (releaseBuffered l.rx.buffered.size seq (seq + 1) l.rx.buffered).2.1
        (releaseBuffered l.rx.buffered.size seq (seq + 1) l.rx.buffered).2.2 := by
  have hbelow {q : UInt32} {b : List UInt8} (hq : l.Assigned q b) : q.toNat + 1 < 2 ^ 32 := by
    have := hq.le.2
    unfold Unwrapped at hbound
    omega
  have hsucc : (seq + 1).toNat = seq.toNat + 1 := by
    rw [UInt32.toNat_add, UInt32.toNat_one]
    exact Nat.mod_eq_of_lt (hbelow hassigned)
  refine ⟨hsucc, releaseBuffered_spec le_rfl hsucc ?_ ?_⟩
  · intro q hq
    obtain ⟨b, hb⟩ := OrdMap.mem_iff_get?.mp hq
    have hlt := (h.buffered hb).2
    rw [← hseq, UInt32.lt_iff_toNat_lt] at hlt
    rw [UInt32.le_iff_toNat_le, hsucc]
    exact hlt
  · intro q hq
    obtain ⟨b, hb⟩ := OrdMap.mem_iff_get?.mp hq
    exact hbelow (h.buffered hb).1

/-- The release path: the in-order frame and the run buffered behind it. -/
theorem release (h : InOrder B S ty l) (hbound : l.Unwrapped) {seq : UInt32} {bytes : List UInt8}
    (hassigned : l.Assigned seq bytes) (hseq : seq = l.rx.expectedSeq) :
    InOrder B S ty { l with
      rx := (releaseBuffered l.rx.buffered.size seq (seq + 1) l.rx.buffered).2.2
      control := l.control ++
        [.ack (releaseBuffered l.rx.buffered.size seq (seq + 1) l.rx.buffered).2.1]
      released := l.released ++
        bytes :: (releaseBuffered l.rx.buffered.size seq (seq + 1) l.rx.buffered).1
      acksQueued := l.acksQueued ++
        [(releaseBuffered l.rx.buffered.size seq (seq + 1) l.rx.buffered).2.1] } := by
  obtain ⟨hsucc, hspec⟩ := h.releases hbound hassigned hseq
  have hsub := @releaseBuffered_sub l.rx.buffered.size seq (seq + 1) l.rx.buffered
  have hsize := @releaseBuffered_size_le l.rx.buffered.size seq (seq + 1) l.rx.buffered
  generalize releaseBuffered l.rx.buffered.size seq (seq + 1) l.rx.buffered = r
    at hspec hsub hsize ⊢
  obtain ⟨frames, ack, rx⟩ := r
  have hexpected := hspec.expected
  have hack := hspec.ack
  have hnumber : seq.toNat = l.released.length + 1 := by rw [hseq, h.expected]
  dsimp only at *
  refine { h with
    expected := ?_
    released := fun {i b} hget => ?_
    buffered := fun {q b} hb => ⟨(h.buffered (hsub hb)).1, hspec.above q
      (OrdMap.mem_iff_get?.mpr ⟨b, hb⟩)⟩
    size_le := hsize.trans h.size_le
    acks := fun n hn => ?_
    control := fun {n} hn => ?_ }
  · simp only [List.length_append, List.length_cons]
    omega
  · rw [List.getElem?_append] at hget
    split at hget
    · exact h.released hget
    · rename_i hi
      obtain ⟨j, hj⟩ : ∃ j, i = l.released.length + j := ⟨i - l.released.length, by omega⟩
      rw [hj, Nat.add_sub_cancel_left] at hget
      cases j with
      | zero =>
        obtain rfl := Option.some.inj hget
        obtain ⟨k, hk, hb⟩ := hassigned
        rw [hj]
        rwa [show l.released.length + 0 = k by omega]
      | succ j =>
        obtain ⟨q, hq, hb⟩ := hspec.frames hget
        obtain ⟨⟨k, hk, hb⟩, -⟩ := h.buffered hb
        rw [hj]
        rwa [show l.released.length + (j + 1) = k by omega]
  · simp only [List.length_append, List.length_cons]
    rcases List.mem_append.mp hn with hn | hn
    · have := h.acks n hn
      omega
    · rw [List.mem_singleton.mp hn]
      omega
  · rcases List.mem_append.mp hn with hn | hn
    · exact List.mem_append_left _ (h.control hn)
    · rw [List.mem_singleton, Control.ack.injEq] at hn
      exact List.mem_append_right _ (List.mem_singleton.mpr hn)

/-- Any frame the channel hands over. -/
theorem receive (h : InOrder B S ty l) (hbound : l.Unwrapped) {hdr : ReliableHeader}
    {bytes : List UInt8} (hflags : hdr.flags = 0) (hassigned : l.Assigned hdr.seq bytes) :
    InOrder B S ty (l.receive B hdr bytes) := by
  have hctrl {n m : UInt32} (hn : Control.ack n ∈ l.control ++ [.ack m]) :
      n ∈ l.acksQueued ++ [m] := by
    rcases List.mem_append.mp hn with hn | hn
    · exact List.mem_append_left _ (h.control hn)
    · rw [List.mem_singleton, Control.ack.injEq] at hn
      exact List.mem_append_right _ (List.mem_singleton.mpr hn)
  unfold Link.receive
  rw [if_neg (by simp [hflags]), if_neg (by simp [hflags])]
  rcases l.rx.arrive_cases hdr.seq bytes with ⟨hold, heq⟩ | ⟨hearly, heq⟩ | ⟨hseq, heq⟩
  · -- an old frame is acknowledged with everything below `expected_seq`
    rw [heq]
    refine { h with acks := fun n hn => ?_, control := fun hn => hctrl hn }
    rcases List.mem_append.mp hn with hn | hn
    · exact h.acks n hn
    · have hexpected := h.expected
      have hne : l.rx.expectedSeq ≠ 0 := by
        intro hzero
        simp [hzero] at hexpected
      rw [List.mem_singleton.mp hn, if_neg hne, UInt32.toNat_sub_of_le _ _
        (UInt32.le_iff_toNat_le.mpr (by rw [UInt32.toNat_one]; omega)), UInt32.toNat_one]
      show l.rx.expectedSeq.toNat - 1 ≤ l.released.length
      omega
  · rw [heq]
    refine { h with
      expected := by rw [ReliableRxState.bufferReliableRx_expectedSeq]; exact h.expected
      buffered := fun {q b} hb => ?_
      size_le := ReliableRxState.bufferReliableRx_size_le
        (h.pending_pos (List.ne_nil_of_mem hassigned.mem)) h.size_le
      control := fun hn => h.control (by simpa using hn) }
    rw [ReliableRxState.bufferReliableRx_expectedSeq]
    rcases ReliableRxState.bufferReliableRx_get.mp hb with ⟨rfl, -, rfl⟩ | ⟨hb, -, -⟩
    · exact ⟨hassigned, hearly⟩
    · exact h.buffered hb
  · rw [heq]
    exact h.release hbound hassigned hseq

theorem step (hmode : S.reliableMode ty = .ordered) (h : InOrder B S ty l)
    (hstep : l.step B S ty a = some l') (hbound : l'.Unwrapped) : InOrder B S ty l' := by
  cases effect_of_step hmode hstep with
  | numbered halloc hcarries htx hflight =>
    refine h.numbered hmode halloc hcarries htx hflight ?_
    simpa [Unwrapped] using hbound
  | @received i keep bytes env hdr flight hget hpeek hflight =>
    obtain ⟨hflags, hassigned⟩ := h.number_of_peek (List.mem_of_getElem? hget) hpeek
    have hflown : InOrder B S ty { l with data := flight } :=
      { h with data := fun b hb => h.data b (hflight b hb) }
    simp only [Unwrapped, receive_assigned] at hbound
    exact hflown.receive hbound hflags hassigned
  | evicted => exact h.evict
  | sender move => exact h.sender_move move

end InOrder

section Run
variable {B : Build} {S : Schema} {ty : S.DataType} {l : Link} {actions : List (Action S)}
  {ok : Link → Action S → Prop}

/-- Every state of a run that has not wrapped satisfies the invariant. -/
theorem inOrder_of_run (hmode : S.reliableMode ty = .ordered)
    (hrun : Run (Link.step B S ty) ok .initial actions l) (hbound : l.Unwrapped) :
    InOrder B S ty l := by
  refine hrun.invariant (fun l => l.Unwrapped → InOrder B S ty l) ?_ (fun _ => .initial) hbound
  intro l l' a hinv _ hstep hbound
  have hpre := (effect_of_step hmode hstep).assigned_grows
  exact (hinv (Nat.lt_of_le_of_lt hpre.length_le hbound)).step hmode hstep hbound

/-- Ordered hop delivery is safe in every run. -/
theorem ordered_delivery_safe (hmode : S.reliableMode ty = .ordered)
    (hrun : Run (Link.step B S ty) anyStep .initial actions l)
    (hbound : l.assigned.length < 2 ^ 32 - 1) :
    l.released <+: l.assigned ∧
    (∀ i bytes, l.released[i]? = some bytes →
      ∃ hdr, Carries B S ty hdr bytes ∧ hdr.seq.toNat = i + 1) ∧
    (∀ ack ∈ l.acksQueued, ack.toNat ≤ l.released.length) ∧
    (∀ i keep ack l', l.control[i]? = some (.ack ack) →
      l.step B S ty (.deliverControl i keep) = some l' →
      ∀ seq ∈ l.tx.sent, seq ∉ l'.tx.sent →
        ∃ bytes, l.Assigned seq bytes ∧ l.released[seq.toNat - 1]? = some bytes) ∧
    (∀ seq ∈ l.rx.buffered, l.rx.expectedSeq < seq) ∧
    l.rx.buffered.size ≤ B.reliableMaxPending := by
  have h := inOrder_of_run hmode hrun hbound
  have hpre : l.released <+: l.assigned :=
    List.prefix_iff_getElem?.mpr fun i hi => h.released (List.getElem?_eq_getElem hi)
  refine ⟨hpre, fun i bytes hget => ?_, h.acks, fun i keep ack l' hack hstep seq hmem hgone => ?_,
    fun seq hmem => ?_, h.size_le⟩
  · obtain ⟨seq, hcarries, hseq⟩ := h.headers (h.released hget)
    exact ⟨_, hcarries, hseq⟩
  · simp only [Link.step, deliverControl, hack, handleControl, Option.some.injEq] at hstep
    obtain rfl := hstep
    -- the loop removes up to `ack`, and `ack` was queued after those releases
    have hle := ReliableTxState.handleReliableAck_removed hmode hmem hgone
    have hacked := h.acks ack (h.control (List.mem_of_getElem? hack))
    obtain ⟨s, hs⟩ := OrdMap.mem_iff_get?.mp hmem
    have hassigned := h.sent hs
    refine ⟨s.bytes, hassigned, ?_⟩
    obtain ⟨k, hk, hget⟩ := hassigned
    rw [UInt32.le_iff_toNat_le] at hle
    have hin : k < l.released.length := by omega
    rw [hk, Nat.add_sub_cancel, List.getElem?_eq_getElem hin]
    rw [← h.released (List.getElem?_eq_getElem hin), hget]
  · obtain ⟨bytes, hb⟩ := OrdMap.mem_iff_get?.mp hmem
    exact (h.buffered hb).2

/-- Two fixes; the second overtakes the first, and one acknowledgement clears
both. -/
def gpsReordered : List (Action defaultSchema) :=
  [.send (.packet gpsPacket) true (.ok ()) 0 1, .send (.packet gpsPacket) true (.ok ()) 1 1,
    .deliverData 1 false, .deliverData 0 true, .deliverControl 2 false]

theorem ordered_delivery_safe_gps :
    ∃ l, Run (Link.step hostBuild defaultSchema gpsPacket.ty) anyStep .initial gpsReordered l ∧
      l.released.length = 2 ∧ l.released <+: l.assigned := by
  have hrun : (gpsReordered.foldlM (Link.step hostBuild defaultSchema gpsPacket.ty) .initial).map
      (fun l => (l.assigned.length, l.released.length)) = some (2, 2) := by
    decide +kernel
  obtain ⟨l, hl, hlength⟩ := Option.map_eq_some_iff.mp hrun
  obtain ⟨hassigned, hreleased⟩ := Prod.mk.inj hlength
  have hrun := Run.of_foldlM (fun _ _ => trivial) hl
  exact ⟨l, hrun, hreleased, (ordered_delivery_safe (by decide) hrun (by omega)).1⟩

end Run
end Sedsprintf.Link
