import Sedsprintf.Reliable.Delivery

/-!
# What a partial acknowledgement promises

The receiver partially acknowledges a frame when it has buffered it. After that
the frame leaves the buffer by release or by eviction, so a promise is kept,
redeemed or broken, and only an eviction breaks it.
-/
namespace Sedsprintf.Link

open Lib

variable {B : Build} {S : Schema} {ty : S.DataType} {l l' : Link} {a : Action S}

/-- `bytes` is a frame with number `seq`. -/
def Numbered (B : Build) (S : Schema) (seq : UInt32) (bytes : List UInt8) : Prop :=
  ∃ env hdr, peekFrameInfo B S bytes = .ok ⟨env, some hdr⟩ ∧ hdr.seq = seq

/-- Frame `seq` has been in the reorder buffer. -/
def Received (B : Build) (S : Schema) (l : Link) (seq : UInt32) : Prop :=
  seq ∈ l.rx.buffered ∨ (∃ bytes ∈ l.released, Numbered B S seq bytes) ∨ seq ∈ l.evicted

structure Backed (B : Build) (S : Schema) (l : Link) : Prop where
  buffered : ∀ {seq : UInt32} {bytes : List UInt8}, l.rx.buffered[seq]? = some bytes →
    Numbered B S seq bytes
  control : ∀ {seq : UInt32}, .partialAck seq ∈ l.control → l.Received B S seq
  sent : ∀ {seq : UInt32} {s : ReliableSent}, l.tx.sent[seq]? = some s → s.partialAcked = true →
    l.Received B S seq

theorem Backed.initial : Backed B S .initial where
  buffered h := by simp [Link.initial, ReliableRxState.fresh] at h
  control h := by simp [Link.initial] at h
  sent h := by simp [Link.initial, ReliableTxState.fresh] at h

/-- The receiver's side of a step: what it had received stays so, and it promises
nothing else. -/
theorem Backed.of_rx (h : Backed B S l) (htx : l'.tx = l.tx)
    (hbuffered : ∀ {seq : UInt32} {bytes : List UInt8}, l'.rx.buffered[seq]? = some bytes →
      Numbered B S seq bytes)
    (hreceived : ∀ seq, l.Received B S seq → l'.Received B S seq)
    (hcontrol : ∀ seq, .partialAck seq ∈ l'.control →
      .partialAck seq ∈ l.control ∨ l'.Received B S seq) : Backed B S l' where
  buffered := hbuffered
  control {seq} hmem := by
    rcases hcontrol seq hmem with hmem | hnew
    · exact hreceived seq (h.control hmem)
    · exact hnew
  sent {seq s} hs hmarked := by
    rw [htx] at hs
    exact hreceived seq (h.sent hs hmarked)

theorem Backed.receive (h : Backed B S l) {env : TelemetryEnvelope S} {hdr : ReliableHeader}
    {bytes : List UInt8} (hpeek : peekFrameInfo B S bytes = .ok ⟨env, some hdr⟩) :
    Backed B S (l.receive B hdr bytes) := by
  unfold Link.receive
  split
  · exact h
  split
  · exact h.of_rx rfl h.buffered (fun _ h => h) fun seq hmem => .inl (by simpa using hmem)
  rcases l.rx.arrive_cases hdr.seq bytes with ⟨-, heq⟩ | ⟨-, heq⟩ | ⟨-, heq⟩
  · rw [heq]
    exact h.of_rx rfl h.buffered (fun _ h => h) fun seq hmem => .inl (by simpa using hmem)
  · rw [heq]
    refine h.of_rx rfl (fun {seq b} hb => ?_) (fun seq hrecv => ?_) fun seq hmem => ?_
    · rcases ReliableRxState.bufferReliableRx_get.mp hb with ⟨rfl, -, rfl⟩ | ⟨hb, -, -⟩
      · exact ⟨env, hdr, hpeek, rfl⟩
      · exact h.buffered hb
    · rcases hrecv with hbuf | hrel | hev
      · by_cases hvictim : l.rx.capVictim B hdr.seq = some seq
        · refine .inr (.inr (List.mem_append_right _ ?_))
          rw [hvictim]
          exact List.mem_singleton_self seq
        · obtain ⟨b, hb⟩ := OrdMap.mem_iff_get?.mp hbuf
          refine .inl (OrdMap.mem_iff_get?.mpr ⟨b, ReliableRxState.bufferReliableRx_get.mpr ?_⟩)
          exact .inr ⟨hb, fun heq => heq ▸ hbuf, hvictim⟩
      · exact .inr (.inl hrel)
      · exact .inr (.inr (List.mem_append_left _ hev))
    · rcases List.mem_append.mp hmem with hmem | hmem
      · exact .inl hmem
      · -- the frame just buffered
        simp only [List.mem_cons, Control.partialAck.injEq, reduceCtorEq, List.not_mem_nil,
          or_false] at hmem
        subst hmem
        refine .inr (.inl ?_)
        by_cases hin : hdr.seq ∈ l.rx.buffered
        · show hdr.seq ∈ (l.rx.bufferReliableRx B hdr.seq bytes).buffered
          rwa [ReliableRxState.bufferReliableRx, if_pos hin]
        · exact OrdMap.mem_iff_get?.mpr
            ⟨bytes, ReliableRxState.bufferReliableRx_get.mpr (.inl ⟨rfl, hin, rfl⟩)⟩
  · rw [heq]
    refine h.of_rx rfl (fun hb => h.buffered (releaseBuffered_sub hb)) (fun seq hrecv => ?_)
      fun seq hmem => .inl (by simpa using hmem)
    rcases hrecv with hbuf | ⟨b, hb, hnum⟩ | hev
    · obtain ⟨b, hb⟩ := OrdMap.mem_iff_get?.mp hbuf
      rcases @releaseBuffered_keeps l.rx.buffered.size hdr.seq (hdr.seq + 1) _ _ _ hb with
        hkept | hreleased
      · exact .inl (OrdMap.mem_iff_get?.mpr ⟨b, hkept⟩)
      · exact .inr (.inl ⟨b, List.mem_append_right _ (List.mem_cons_of_mem _ hreleased),
          h.buffered hb⟩)
    · exact .inr (.inl ⟨b, List.mem_append_left _ hb, hnum⟩)
    · exact .inr (.inr hev)

theorem Backed.evict (h : Backed B S l) : Backed B S l.evictBuffered := by
  unfold evictBuffered
  split
  · exact h
  · rename_i victim bytes rest hpop
    obtain ⟨-, rfl⟩ := OrdMap.popFirst_eq_some hpop
    refine h.of_rx rfl (fun {seq b} hb => ?_) (fun seq hrecv => ?_) fun seq hmem => .inl hmem
    · rw [OrdMap.get?_erase] at hb
      split at hb
      · cases hb
      · exact h.buffered hb
    · rcases hrecv with hbuf | hrel | hev
      · by_cases heq : victim = seq
        · exact .inr (.inr (List.mem_append_right _ (List.mem_singleton.mpr heq.symm)))
        · refine .inl ?_
          rw [Std.ExtTreeMap.mem_erase]
          exact ⟨by simpa using heq, hbuf⟩
      · exact .inr (.inl hrel)
      · exact .inr (.inr (List.mem_append_left _ hev))

theorem Backed.step (hmode : S.reliableMode ty = .ordered) (h : Backed B S l)
    (hstep : l.step B S ty a = some l') : Backed B S l' := by
  cases effect_of_step hmode hstep with
  | numbered halloc _ htx _ =>
    refine ⟨h.buffered, h.control, fun {seq s} hs hmarked => ?_⟩
    obtain ⟨-, rfl, rfl⟩ := ReliableTxState.allocate_eq_some halloc
    rcases htx with ⟨-, rfl⟩ | ⟨-, rfl⟩
    · exact h.sent hs hmarked
    · simp only [ReliableTxState.record, OrdMap.get?_insert] at hs
      split at hs
      · obtain rfl := Option.some.inj hs
        cases hmarked
      · exact h.sent hs hmarked
  | @received _ _ _ _ _ flight _ hpeek _ =>
    have hflown : Backed B S { l with data := flight } := ⟨h.buffered, h.control, h.sent⟩
    exact hflown.receive hpeek
  | evicted => exact h.evict
  | sender move =>
    obtain ⟨flagged, htx, hflagged⟩ := move.tx
    have hreceived : ∀ seq, l.Received B S seq → l'.Received B S seq := by
      intro seq hrecv
      unfold Received
      rw [move.rx, move.released, move.evicted]
      exact hrecv
    refine ⟨fun hb => h.buffered (by rwa [move.rx] at hb), fun hmem => ?_, fun hs' hmarked => ?_⟩
    · exact hreceived _ (h.control (move.control _ hmem))
    · obtain ⟨s, hs, -, hflag⟩ := htx.entry hs'
      rcases hflag hmarked with hset | hnew
      · exact hreceived _ (h.sent hs hset)
      · exact hreceived _ (h.control (hflagged _ hnew))

/-- A frame the sender holds as partially acknowledged is buffered at the receiver,
was released by it, or was evicted from its buffer; as long as the stream has not
wrapped, released means below `expected_seq`. -/
theorem partialAcked_backed (hmode : S.reliableMode ty = .ordered) {actions : List (Action S)}
    (hrun : Run (Link.step B S ty) anyStep .initial actions l) {seq : UInt32} {s : ReliableSent}
    (hs : l.tx.sent[seq]? = some s) (hmarked : s.partialAcked = true) :
    (seq ∈ l.rx.buffered ∨ (∃ bytes ∈ l.released, Numbered B S seq bytes) ∨ seq ∈ l.evicted) ∧
      (l.assigned.length < 2 ^ 32 - 1 →
        seq ∈ l.rx.buffered ∨ seq < l.rx.expectedSeq ∨ seq ∈ l.evicted) := by
  have hbacked : Backed B S l :=
    hrun.invariant (Backed B S) (fun h _ hstep => h.step hmode hstep) .initial
  refine ⟨hbacked.sent hs hmarked, fun hbound => ?_⟩
  have hinv := inOrder_of_run hmode hrun hbound
  rcases hbacked.sent hs hmarked with hbuf | ⟨bytes, hmem, env, hdr, hpeek, rfl⟩ | hev
  · exact .inl hbuf
  · refine .inr (.inl ?_)
    -- position `i` of the release list holds number `i + 1`
    obtain ⟨i, hi⟩ := List.mem_iff_getElem?.mp hmem
    obtain ⟨number, ⟨info, hpeek', -, hhdr⟩, hnumber⟩ := hinv.headers (hinv.released hi)
    obtain rfl := Except.ok.inj (hpeek.symm.trans hpeek')
    obtain rfl := Option.some.inj hhdr
    have hlt := (List.getElem?_eq_some_iff.mp hi).1
    have hexpected := hinv.expected
    rw [UInt32.lt_iff_toNat_lt, hexpected]
    show number.toNat < _
    omega
  · exact .inr (.inr hev)

/-- The second fix arrives alone and its partial acknowledgement gets through. -/
theorem partialAcked_backed_gps :
    ∃ l, Run (Link.step hostBuild defaultSchema gpsPacket.ty) anyStep .initial
        [.send (.packet gpsPacket) true (.ok ()) 0 1, .send (.packet gpsPacket) true (.ok ()) 0 1,
          .deliverData 1 false, .deliverControl 0 false] l ∧
      (∃ s, l.tx.sent[(2 : UInt32)]? = some s ∧ s.partialAcked = true) ∧
      (2 ∈ l.rx.buffered ∨ 2 < l.rx.expectedSeq ∨ 2 ∈ l.evicted) := by
  have hrun : (([.send (.packet gpsPacket) true (.ok ()) 0 1,
        .send (.packet gpsPacket) true (.ok ()) 0 1, .deliverData 1 false,
        .deliverControl 0 false] : List (Action defaultSchema)).foldlM
      (Link.step hostBuild defaultSchema gpsPacket.ty) .initial).map
      (fun l => (l.assigned.length, l.tx.sent[(2 : UInt32)]?.map (·.partialAcked))) =
        some (2, some true) := by
    decide +kernel
  obtain ⟨l, hl, hfacts⟩ := Option.map_eq_some_iff.mp hrun
  simp only [Prod.mk.injEq, Option.map_eq_some_iff] at hfacts
  obtain ⟨hlength, s, hs, hmarked⟩ := hfacts
  have hrun := Run.of_foldlM (fun _ _ => trivial) hl
  exact ⟨l, hrun, ⟨s, hs, hmarked⟩,
    (partialAcked_backed (by decide) hrun hs hmarked).2 (by omega)⟩

/-- The same partial acknowledgement, its packet request lost, and then other
traffic evicts the frame: nothing is in flight, the mark stands, and the receiver
neither holds the frame nor has passed it. -/
theorem partialAcked_evicted :
    ∃ l, Run (Link.step hostBuild defaultSchema gpsPacket.ty) anyStep .initial
        [.send (.packet gpsPacket) true (.ok ()) 0 1, .send (.packet gpsPacket) true (.ok ()) 0 1,
          .deliverData 1 false, .deliverControl 0 false, .loseControl 0, .evict] l ∧
      l.control = [] ∧ (∃ s, l.tx.sent[(2 : UInt32)]? = some s ∧ s.partialAcked = true) ∧
      ¬(2 ∈ l.rx.buffered ∨ 2 < l.rx.expectedSeq) := by
  have hrun : (([.send (.packet gpsPacket) true (.ok ()) 0 1,
        .send (.packet gpsPacket) true (.ok ()) 0 1, .deliverData 1 false,
        .deliverControl 0 false, .loseControl 0, .evict] : List (Action defaultSchema)).foldlM
      (Link.step hostBuild defaultSchema gpsPacket.ty) .initial).map
      (fun l => (decide (l.control.length = 0), l.tx.sent[(2 : UInt32)]?.map (·.partialAcked),
        decide (2 ∈ l.rx.buffered ∨ 2 < l.rx.expectedSeq))) = some (true, some true, false) := by
    decide +kernel
  obtain ⟨l, hl, hfacts⟩ := Option.map_eq_some_iff.mp hrun
  simp only [Prod.mk.injEq, Option.map_eq_some_iff, decide_eq_true_eq, decide_eq_false_iff_not]
    at hfacts
  obtain ⟨hcontrol, hmarked, hgone⟩ := hfacts
  exact ⟨l, Run.of_foldlM (fun _ _ => trivial) hl, List.eq_nil_of_length_eq_zero hcontrol, hmarked,
    hgone⟩

end Sedsprintf.Link
