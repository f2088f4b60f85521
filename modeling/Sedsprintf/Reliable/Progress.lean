import Sedsprintf.Reliable.Delivery

/-!
# The head of an ordered stream

The receiver waits for `expected_seq`, so the stream goes on only while the
sender can still produce that frame. The sender forgets a frame on three
occasions: an acknowledgement, a send that fails after it took a number, and a
retry count that runs out. The first is harmless; in runs without the other two
on a frame the receiver still lacks, the head stays available.
-/
namespace Sedsprintf.Link

open Lib

variable {B : Build} {S : Schema} {ty : S.DataType} {l l' : Link} {a : Action S}

/-- The step forgets no frame that the receiver may still need: a numbered frame
goes out, only frames released or buffered at the receiver run out of retries,
and only frames still in the history leave the reorder buffer unreleased. -/
def KeepsNeeded (B : Build) (S : Schema) (l : Link) : Action S → Prop
  | .send _ gateFree transmit _ _ =>
    (l.tx.allocate B).isSome = true → throughGate gateFree transmit = .ok ()
  | .timeouts now _ =>
    ∀ (seq : UInt32) (s : ReliableSent), l.tx.sent[seq]? = some s →
      ¬ ReliableTxState.Idle B now s → B.reliableMaxRetries ≤ s.retries →
      seq < l.rx.expectedSeq ∨ seq ∈ l.rx.buffered
  | .deliverData i _ =>
    ∀ bytes env hdr victim, l.data[i]? = some bytes →
      peekFrameInfo B S bytes = .ok ⟨env, some hdr⟩ →
      l.rx.capVictim B hdr.seq = some victim → victim ∈ l.tx.sent
  | .evict => ∀ victim rest, OrdMap.popFirst l.rx.buffered = some (victim, rest) →
    victim.1 ∈ l.tx.sent
  | _ => True

/-- Every number the receiver has still to release is held by one of the two. -/
def Held (l : Link) : Prop :=
  ∀ seq : UInt32, l.rx.expectedSeq ≤ seq → seq < l.tx.nextSeq →
    seq ∈ l.tx.sent ∨ seq ∈ l.rx.buffered

theorem timedOut_eq_none {now : UInt64} {s : ReliableSent}
    (h : ReliableTxState.timedOut B now s = none) :
    ¬ ReliableTxState.Idle B now s ∧ B.reliableMaxRetries ≤ s.retries := by
  unfold ReliableTxState.timedOut at h
  split at h
  · cases h
  · rename_i hidle
    split at h
    · rename_i hmax
      exact ⟨hidle, hmax⟩
    · cases h

theorem Held.receive (h : l.Held) (hinv : InOrder B S ty l) (hbound : l.Unwrapped)
    {hdr : ReliableHeader} {bytes : List UInt8} (hflags : hdr.flags = 0)
    (hassigned : l.Assigned hdr.seq bytes)
    (hcap : ∀ victim, l.rx.capVictim B hdr.seq = some victim → victim ∈ l.tx.sent) :
    (l.receive B hdr bytes).Held := by
  intro seq
  rw [receive_tx]
  unfold Link.receive
  rw [if_neg (by simp [hflags]), if_neg (by simp [hflags])]
  rcases l.rx.arrive_cases hdr.seq bytes with ⟨-, heq⟩ | ⟨-, heq⟩ | ⟨hseq, heq⟩
  · rw [heq]
    exact h seq
  · rw [heq]
    intro hlow hhigh
    rw [ReliableRxState.bufferReliableRx_expectedSeq] at hlow
    rcases h seq hlow hhigh with hsent | hbuffered
    · exact .inl hsent
    · -- the cap may have dropped it, but then the history still has it
      by_cases hvictim : l.rx.capVictim B hdr.seq = some seq
      · exact .inl (hcap seq hvictim)
      · obtain ⟨b, hb⟩ := OrdMap.mem_iff_get?.mp hbuffered
        refine .inr (OrdMap.mem_iff_get?.mpr ⟨b, ReliableRxState.bufferReliableRx_get.mpr ?_⟩)
        exact .inr ⟨hb, fun heq => heq ▸ hbuffered, hvictim⟩
  · rw [heq]
    intro hlow hhigh
    obtain ⟨hsucc, hspec⟩ := hinv.releases hbound hassigned hseq
    have hexpected := hspec.expected
    have hold : l.rx.expectedSeq ≤ seq := by
      rw [← hseq, UInt32.le_iff_toNat_le]
      rw [UInt32.le_iff_toNat_le] at hlow
      dsimp only at hlow
      omega
    rcases h seq hold hhigh with hsent | hbuffered
    · exact .inl hsent
    · rcases hspec.passed seq hbuffered with hkept | hpassed
      · exact .inr hkept
      · exact absurd hlow (UInt32.not_le.mpr hpassed)

theorem Held.sender_move (h : l.Held) (hinv : InOrder B S ty l)
    (hok : KeepsNeeded B S l a) (move : SenderMove B S ty a l l') : l'.Held := by
  obtain ⟨flagged, htx, -⟩ := move.tx
  intro seq hlow hhigh
  rw [move.rx] at hlow ⊢
  rw [htx.nextSeq] at hhigh
  rcases h seq hlow hhigh with hsent | hbuffered
  · by_cases hgone : seq ∈ l'.tx.sent
    · exact .inl hgone
    · -- acknowledged frames are below `expected_seq`
      rcases move.removed (hinv.consistent.sorted.imp UInt32.ne_of_lt) seq hsent hgone with
        ⟨ack, hack, hle⟩ | ⟨now, room, s, rfl, hs, hout⟩
      · have hacked := hinv.acks ack (hinv.control hack)
        have hexpected := hinv.expected
        rw [UInt32.le_iff_toNat_le] at hle hlow
        omega
      · obtain ⟨hidle, hmax⟩ := timedOut_eq_none hout
        rcases hok seq s hs hidle hmax with hpassed | hbuffered
        · exact absurd hlow (UInt32.not_le.mpr hpassed)
        · exact .inr hbuffered
  · exact .inr hbuffered

theorem Held.numbered (h : l.Held) {now : UInt64} {seq : UInt32} {tx' : ReliableTxState}
    {bytes : List UInt8} {flight : List (List UInt8)}
    (hwrap : l.tx.nextSeq.toNat + 1 < 2 ^ 32)
    (halloc : l.tx.allocate B = some (seq, tx')) :
    Held { l with
      tx := tx'.record seq bytes now, data := flight, assigned := l.assigned ++ [bytes] } := by
  obtain ⟨-, rfl, rfl⟩ := ReliableTxState.allocate_eq_some halloc
  intro q hlow hhigh
  simp only [ReliableTxState.record, Std.ExtTreeMap.mem_insert, Std.compare_eq_iff_eq] at hhigh ⊢
  by_cases heq : l.tx.nextSeq = q
  · exact .inl (.inl heq)
  · have hold : q < l.tx.nextSeq := by
      refine UInt32.lt_of_le_of_ne ?_ (Ne.symm heq)
      rw [UInt32.lt_iff_toNat_lt, nextSeqAfter_toNat hwrap] at hhigh
      rw [UInt32.le_iff_toNat_le]
      omega
    rcases h q hlow hold with hsent | hbuffered
    · exact .inl (.inr hsent)
    · exact .inr hbuffered

theorem Held.evict (h : l.Held) (hok : KeepsNeeded B S l .evict) : l.evictBuffered.Held := by
  intro seq
  rw [evictBuffered_tx]
  unfold evictBuffered
  split
  · exact h seq
  · rename_i victim bytes rest hpop
    obtain ⟨-, rfl⟩ := OrdMap.popFirst_eq_some hpop
    intro hlow hhigh
    rcases h seq hlow hhigh with hsent | hbuffered
    · exact .inl hsent
    · by_cases heq : victim = seq
      · exact .inl (heq ▸ hok _ _ hpop)
      · refine .inr ?_
        rw [Std.ExtTreeMap.mem_erase]
        exact ⟨by simpa using heq, hbuffered⟩

theorem Held.step (hmode : S.reliableMode ty = .ordered) (hinv : InOrder B S ty l) (h : l.Held)
    (hok : KeepsNeeded B S l a) (hstep : l.step B S ty a = some l') (hbound : l'.Unwrapped) :
    l'.Held := by
  cases effect_of_step hmode hstep with
  | @numbered data gateFree transmit now copies seq tx' tx'' bytes flight halloc _ htx _ =>
    have hout : throughGate gateFree transmit = .ok () := hok (by rw [halloc]; rfl)
    rcases htx with ⟨⟨e, hfailed⟩, -⟩ | ⟨-, rfl⟩
    · rw [hout] at hfailed
      cases hfailed
    · refine h.numbered ?_ halloc
      simp only [Unwrapped, List.length_append, List.length_singleton] at hbound
      rw [hinv.next]
      omega
  | @received i keep bytes env hdr flight hget hpeek hflight =>
    obtain ⟨hflags, hassigned⟩ := hinv.number_of_peek (List.mem_of_getElem? hget) hpeek
    have hflown : InOrder B S ty { l with data := flight } :=
      { hinv with data := fun b hb => hinv.data b (hflight b hb) }
    simp only [Unwrapped, receive_assigned] at hbound
    exact @Held.receive B S ty { l with data := flight } h hflown hbound hdr bytes hflags hassigned
      fun victim hvictim => hok bytes env hdr victim hget hpeek hvictim
  | evicted => exact h.evict hok
  | sender move => exact h.sender_move hinv hok move

theorem held_of_run (hmode : S.reliableMode ty = .ordered) {actions : List (Action S)}
    (hrun : Run (Link.step B S ty) (KeepsNeeded B S) .initial actions l) (hbound : l.Unwrapped) :
    InOrder B S ty l ∧ l.Held := by
  refine hrun.invariant (fun l => l.Unwrapped → InOrder B S ty l ∧ l.Held) ?_ (fun _ => ?_) hbound
  · intro l l' a hinv hok hstep hbound
    have hpre := (effect_of_step hmode hstep).assigned_grows
    obtain ⟨hinv, hheld⟩ := hinv (Nat.lt_of_le_of_lt hpre.length_le hbound)
    exact ⟨hinv.step hmode hstep hbound, hheld.step hmode hinv hok hstep hbound⟩
  · refine ⟨.initial, fun seq hlow hhigh => ?_⟩
    exact absurd hhigh (UInt32.not_lt.mpr hlow)

/-- In every run that forgets no needed frame, the frame the receiver waits for is
the next one to be numbered or is still in the sender's history. -/
theorem head_available (hmode : S.reliableMode ty = .ordered) {actions : List (Action S)}
    (hrun : Run (Link.step B S ty) (KeepsNeeded B S) .initial actions l)
    (hbound : l.assigned.length < 2 ^ 32 - 1) :
    l.rx.expectedSeq = l.tx.nextSeq ∨ l.rx.expectedSeq ∈ l.tx.sent := by
  obtain ⟨hinv, hheld⟩ := held_of_run hmode hrun hbound
  have hpre : l.released <+: l.assigned :=
    List.prefix_iff_getElem?.mpr fun i hi => hinv.released (List.getElem?_eq_getElem hi)
  have hle : l.rx.expectedSeq ≤ l.tx.nextSeq := by
    rw [UInt32.le_iff_toNat_le, hinv.expected, hinv.next]
    exact Nat.succ_le_succ hpre.length_le
  by_cases heq : l.rx.expectedSeq = l.tx.nextSeq
  · exact .inl heq
  · refine .inr ?_
    rcases hheld _ (UInt32.le_refl _) (UInt32.lt_of_le_of_ne hle heq) with hsent | hbuffered
    · exact hsent
    · -- nothing buffered is at the head
      obtain ⟨bytes, hb⟩ := OrdMap.mem_iff_get?.mp hbuffered
      exact absurd (hinv.buffered hb).2 (UInt32.lt_irrefl _)

/-- A fix that got lost on the way is still in the history. -/
theorem head_available_gps :
    ∃ l, Run (Link.step hostBuild defaultSchema gpsPacket.ty) (KeepsNeeded hostBuild defaultSchema)
        .initial [.send (.packet gpsPacket) true (.ok ()) 0 1, .loseData 0] l ∧
      (l.rx.expectedSeq = l.tx.nextSeq ∨ l.rx.expectedSeq ∈ l.tx.sent) := by
  have hsent : ((Link.step hostBuild defaultSchema gpsPacket.ty .initial
      (.send (.packet gpsPacket) true (.ok ()) 0 1)).map fun l => l.assigned.length) = some 1 := by
    decide +kernel
  obtain ⟨l, hl, hlength⟩ := Option.map_eq_some_iff.mp hsent
  have hrun : Run (Link.step hostBuild defaultSchema gpsPacket.ty)
      (KeepsNeeded hostBuild defaultSchema) .initial
      [.send (.packet gpsPacket) true (.ok ()) 0 1, .loseData 0]
      { l with data := l.data.eraseIdx 0 } :=
    .cons (fun _ => rfl) hl (.cons trivial rfl (.nil _))
  refine ⟨_, hrun, head_available (by decide) hrun ?_⟩
  show l.assigned.length < 2 ^ 32 - 1
  omega

/-- The first of two fixes is lost, with every retry of it; the second is
partially acknowledged. -/
def gpsGivenUp : List (Action defaultSchema) :=
  [.send (.packet gpsPacket) true (.ok ()) 0 1, .send (.packet gpsPacket) true (.ok ()) 0 1,
    .loseData 0, .deliverData 0 false, .deliverControl 0 false, .loseControl 0] ++
  (List.range 8).flatMap (fun k =>
    [.timeouts (200 * (UInt64.ofNat k + 1)) 1,
      .replay 0 .sent (200 * (UInt64.ofNat k + 1)) 0]) ++
  [.timeouts 1800 1]

/-- Frame 1 exhausts its retries while frame 2 waits behind it: the sender has
forgotten the head, and no copy of it is left anywhere. -/
theorem head_wedged_after_give_up :
    ∃ l, Run (Link.step hostBuild defaultSchema gpsPacket.ty) anyStep .initial gpsGivenUp l ∧
      l.assigned.length < 2 ^ 32 - 1 ∧ l.data = [] ∧ l.replays = [] ∧
      ¬ (l.rx.expectedSeq = l.tx.nextSeq ∨ l.rx.expectedSeq ∈ l.tx.sent) := by
  have hrun : (gpsGivenUp.foldlM (Link.step hostBuild defaultSchema gpsPacket.ty) .initial).map
      (fun l => (l.assigned.length, l.data, l.replays, decide (l.rx.expectedSeq = l.tx.nextSeq),
        decide (l.rx.expectedSeq ∈ l.tx.sent))) = some (2, [], [], false, false) := by
    decide +kernel
  obtain ⟨l, hl, hfacts⟩ := Option.map_eq_some_iff.mp hrun
  simp only [Prod.mk.injEq, decide_eq_false_iff_not] at hfacts
  obtain ⟨hlength, hdata, hreplays, hnext, hsent⟩ := hfacts
  exact ⟨l, .of_foldlM (fun _ _ => trivial) hl, by omega, hdata, hreplays,
    fun h => h.elim hnext hsent⟩

end Sedsprintf.Link
