import Sedsprintf.Reliable.Delivery

/-!
# Wrap-around of the sequence numbers

A loss-free stream in order: every frame reaches the receiver at once and the
acknowledgements come back in turn. The sender steps over zero, the receiver's
first increment does not, so the two part at frame number `u32::MAX`.
-/
namespace Sedsprintf.Link

open Lib

variable {B : Build} {S : Schema} {ty : S.DataType} {l l' : Link}

/-- A frame that goes straight to the receiver, or the oldest control frame on its
way back. -/
inductive Turn (S : Schema) where
  | frame (data : RouterItem S) (now : UInt64)
  | ack

def turn (B : Build) (S : Schema) (ty : S.DataType) (l : Link) : Turn S → Option Link
  | .frame data now =>
    (l.step B S ty (.send data true (.ok ()) now 1)).bind fun l =>
      l.step B S ty (.deliverData 0 false)
  | .ack => l.step B S ty (.deliverControl 0 false)

/-- The frame is released and acknowledged and the two sides agree on the next
number; an acknowledgement removes its frame and the older ones, and no other. -/
def TurnOk (B : Build) (S : Schema) (ty : S.DataType) (l : Link) : Turn S → Prop
  | .frame data now => ∀ l', l.turn B S ty (.frame data now) = some l' →
    l'.rx.expectedSeq = l'.tx.nextSeq ∧
      ∃ bytes, l'.assigned = l.assigned ++ [bytes] ∧ l'.released = l.released ++ [bytes] ∧
        l'.control = l.control ++ [.ack l.tx.nextSeq]
  | .ack => ∀ l', l.turn B S ty .ack = some l' →
    ∃ ack rest, l.control = .ack ack :: rest ∧ l'.control = rest ∧
      ∀ seq, seq ∈ l'.tx.sent ↔ seq ∈ l.tx.sent ∧ ack < seq

def frames (turns : List (Turn S)) : Nat :=
  (turns.filter fun t => match t with
    | .frame _ _ => true
    | .ack => false).length

/-- Nothing is in flight to the receiver between two turns, so a frame turn numbers
one frame and hands it over. -/
theorem turn_frame {data : RouterItem S} {now : UInt64} (hmode : S.reliableMode ty = .ordered)
    (hdata : l.data = []) (h : l.turn B S ty (.frame data now) = some l') :
    ∃ seq tx bytes, l.tx.allocate B = some (seq, tx) ∧ Carries B S ty ⟨0, seq, 0⟩ bytes ∧
      l' = ({ l with
        tx := tx.record seq bytes now
        assigned := l.assigned ++ [bytes] }).receive B ⟨0, seq, 0⟩ bytes := by
  have hty : S.isReliableType ty = true := by simp [Schema.isReliableType, hmode]
  have hflags : reliableFlags S ty = 0 := by simp [reliableFlags, hmode]
  obtain ⟨l₁, hsend, hdeliver⟩ := Option.bind_eq_some_iff.mp h
  simp only [Link.step] at hsend hdeliver
  split at hsend
  · rename_i hof
    unfold send at hsend
    rcases @sendNumbered_cases B S ty "router reliable history full" data true
        (fun _ => .ok ()) now l.tx hof hty with
      ⟨halloc, hnumbered⟩ | ⟨seq, tx, halloc, ⟨e, -, hnumbered⟩ | ⟨bytes, -, hcarries, hout⟩⟩
    · -- a refused frame leaves nothing to deliver
      simp only [hnumbered, halloc, Option.isNone_none, if_true, Option.some.injEq] at hsend
      subst hsend
      simp [deliverData, hdata] at hdeliver
    · simp [hnumbered, halloc] at hsend
    · rcases hout with ⟨e, hgate, -⟩ | ⟨-, hnumbered⟩
      · simp [throughGate] at hgate
      · simp only [hnumbered, Option.some.injEq] at hsend
        subst hsend
        rw [hflags] at hcarries
        refine ⟨seq, tx, bytes, halloc, hcarries, ?_⟩
        obtain ⟨⟨env, hdr⟩, hpeek, -, hhdr⟩ := hcarries
        dsimp only at hhdr
        subst hhdr
        simp only [deliverData, hdata, List.nil_append, if_true, List.replicate_one,
          List.getElem?_cons_zero, hpeek, Option.some.injEq, Bool.false_eq_true, if_false,
          List.eraseIdx_cons_zero] at hdeliver
        rw [← hdeliver, hdata]
  · cases hsend

/-- In step: nothing buffered, both sides at the same number, only acknowledgements
on the way back. -/
structure InStep (B : Build) (S : Schema) (ty : S.DataType) (l : Link) : Prop where
  inOrder : InOrder B S ty l
  unwrapped : l.Unwrapped
  data : l.data = []
  buffered : l.rx.buffered = ∅
  expected : l.rx.expectedSeq = l.tx.nextSeq
  control : ∀ frame ∈ l.control, ∃ ack, frame = .ack ack

theorem InStep.initial : InStep B S ty .initial :=
  ⟨.initial, by simp [Unwrapped, Link.initial], rfl, rfl, rfl, by simp [Link.initial]⟩

/-- The receiver on a frame in order with an empty buffer. -/
theorem receive_in_step (hbuffered : l.rx.buffered = ∅) {seq : UInt32}
    (hseq : seq = l.rx.expectedSeq) (bytes : List UInt8) :
    l.receive B ⟨0, seq, 0⟩ bytes = { l with
      rx := ⟨seq + 1, ∅⟩
      control := l.control ++ [.ack seq]
      released := l.released ++ [bytes]
      acksQueued := l.acksQueued ++ [seq] } := by
  have harrive : l.rx.arrive seq bytes = (⟨seq + 1, ∅⟩, .released [bytes] seq) := by
    rw [ReliableRxState.arrive, if_neg (by rw [hseq]; exact UInt32.lt_irrefl _),
      if_neg (by rw [hseq]; exact UInt32.lt_irrefl _), hbuffered]
    rfl
  simp [Link.receive, harrive]

/-- A frame turn from a state in step. -/
theorem InStep.turn_frame (h : InStep B S ty l) (hmode : S.reliableMode ty = .ordered)
    {data : RouterItem S} {now : UInt64} (hturn : l.turn B S ty (.frame data now) = some l') :
    ∃ bytes, l'.assigned = l.assigned ++ [bytes] ∧ l'.released = l.released ++ [bytes] ∧
      l'.control = l.control ++ [.ack l.tx.nextSeq] ∧ l'.data = [] ∧ l'.rx.buffered = ∅ ∧
      l'.rx.expectedSeq = l.tx.nextSeq + 1 ∧ l'.tx.nextSeq = nextSeqAfter l.tx.nextSeq := by
  obtain ⟨seq, tx, bytes, halloc, -, rfl⟩ := Link.turn_frame hmode h.data hturn
  obtain ⟨-, rfl, rfl⟩ := ReliableTxState.allocate_eq_some halloc
  refine ⟨bytes, ?_⟩
  rw [receive_in_step]
  · exact ⟨rfl, rfl, rfl, h.data, rfl, rfl, rfl⟩
  · exact h.buffered
  · exact h.expected.symm

/-- The two increments agree exactly below `u32::MAX`. -/
theorem nextSeqAfter_eq_add_one {seq : UInt32} : seq + 1 = nextSeqAfter seq ↔ seq + 1 ≠ 0 := by
  unfold nextSeqAfter
  by_cases h : seq + 1 = 0
  · simp [h]
  · simp [h]

theorem add_one_eq_zero_iff {seq : UInt32} : seq + 1 = 0 ↔ seq.toNat = 2 ^ 32 - 1 := by
  have := seq.toNat_lt
  rw [← UInt32.toNat_inj, UInt32.toNat_add, UInt32.toNat_one, UInt32.toNat_zero]
  omega

/-- From a state in step a frame turn is as it should be unless it is the one that
uses the last number. -/
theorem InStep.turnOk_frame_iff (h : InStep B S ty l) (hmode : S.reliableMode ty = .ordered)
    {data : RouterItem S} {now : UInt64} (hturn : l.turn B S ty (.frame data now) = some l') :
    l.TurnOk B S ty (.frame data now) ↔ l.assigned.length + 1 < 2 ^ 32 - 1 := by
  obtain ⟨bytes, hassigned, hreleased, hcontrol, -, -, hexpected, hnext⟩ := h.turn_frame hmode hturn
  have hwrap : l.tx.nextSeq + 1 ≠ 0 ↔ l.assigned.length + 1 < 2 ^ 32 - 1 := by
    have hbound := h.unwrapped
    unfold Unwrapped at hbound
    rw [Ne, add_one_eq_zero_iff, h.inOrder.next]
    omega
  rw [← hwrap, ← nextSeqAfter_eq_add_one, ← hexpected, ← hnext]
  constructor
  · intro hok
    exact (hok l' hturn).1
  · intro hsame l'' hturn'
    obtain rfl := Option.some.inj (hturn.symm.trans hturn')
    exact ⟨hsame, bytes, hassigned, hreleased, hcontrol⟩

theorem InStep.frame (h : InStep B S ty l) (hmode : S.reliableMode ty = .ordered)
    {data : RouterItem S} {now : UInt64} (hturn : l.turn B S ty (.frame data now) = some l')
    (hbound : l.assigned.length + 1 < 2 ^ 32 - 1) : InStep B S ty l' := by
  obtain ⟨bytes, hassigned, -, hcontrol, hdata, hbuffered, -, -⟩ := h.turn_frame hmode hturn
  obtain ⟨hsame, -⟩ := (h.turnOk_frame_iff hmode hturn).mpr hbound l' hturn
  have hunwrapped : l'.Unwrapped := by
    rw [Unwrapped, hassigned, List.length_append, List.length_singleton]
    exact hbound
  obtain ⟨l₁, hsend, hdeliver⟩ := Option.bind_eq_some_iff.mp hturn
  have hpre := (effect_of_step hmode hdeliver).assigned_grows
  have hinv := (h.inOrder.step hmode hsend
    (Nat.lt_of_le_of_lt hpre.length_le hunwrapped)).step hmode hdeliver hunwrapped
  refine ⟨hinv, hunwrapped, hdata, hbuffered, hsame, fun frame hmem => ?_⟩
  rw [hcontrol] at hmem
  rcases List.mem_append.mp hmem with hmem | hmem
  · exact h.control frame hmem
  · exact ⟨_, List.mem_singleton.mp hmem⟩

/-- An acknowledgement turn from a state in step. -/
theorem InStep.turn_ack (h : InStep B S ty l) (hmode : S.reliableMode ty = .ordered)
    (hturn : l.turn B S ty .ack = some l') :
    ∃ ack rest, l.control = .ack ack :: rest ∧
      l' = { l with tx := l.tx.handleReliableAck S ty ack, control := rest } ∧
      ∀ seq, seq ∈ l'.tx.sent ↔ seq ∈ l.tx.sent ∧ ack < seq := by
  simp only [turn, Link.step, deliverControl] at hturn
  split at hturn
  · cases hturn
  · rename_i frame hget
    obtain ⟨ack, rfl⟩ := h.control frame (List.mem_of_getElem? hget)
    cases hcontrol : l.control with
    | nil => simp [hcontrol] at hget
    | cons head rest =>
      rw [hcontrol, List.getElem?_cons_zero, Option.some.injEq] at hget
      subst hget
      simp only [hcontrol, Bool.false_eq_true, if_false, List.eraseIdx_cons_zero, handleControl,
        Option.some.injEq] at hturn
      subst hturn
      exact ⟨ack, rest, rfl, rfl, fun seq => h.inOrder.consistent.mem_handleReliableAck hmode⟩

theorem InStep.ack (h : InStep B S ty l) (hmode : S.reliableMode ty = .ordered)
    (hturn : l.turn B S ty .ack = some l') : InStep B S ty l' := by
  have hstep : l.step B S ty (.deliverControl 0 false) = some l' := hturn
  obtain ⟨ack, rest, hcontrol, rfl, -⟩ := h.turn_ack hmode hturn
  refine ⟨h.inOrder.step hmode hstep h.unwrapped, h.unwrapped, h.data, h.buffered, ?_,
    fun frame hmem => h.control frame ?_⟩
  · rw [(l.tx.handleReliableAck_inherits ty ack).nextSeq]
    exact h.expected
  · rw [hcontrol]
    exact List.mem_cons_of_mem _ hmem

theorem InStep.turnOk_ack (h : InStep B S ty l) (hmode : S.reliableMode ty = .ordered) :
    l.TurnOk B S ty .ack := by
  intro l' hturn
  obtain ⟨ack, rest, hcontrol, rfl, hmem⟩ := h.turn_ack hmode hturn
  exact ⟨ack, rest, hcontrol, rfl, hmem⟩

section Run
variable {turns : List (Turn S)}

/-- From a state in step every turn is as it should be exactly while the numbers
last. -/
theorem InStep.run_iff (hmode : S.reliableMode ty = .ordered) (h : InStep B S ty l)
    (hrun : Run (Link.turn B S ty) anyStep l turns l') :
    Run (Link.turn B S ty) (Link.TurnOk B S ty) l turns l' ↔
      l.assigned.length + frames turns < 2 ^ 32 - 1 := by
  induction hrun with
  | nil l => exact ⟨fun _ => h.unwrapped, fun _ => .nil l⟩
  | @cons l l₁ l' t rest _ hturn hrest ih =>
    cases t with
    | frame data now =>
      have hcount : frames (.frame data now :: rest) = frames rest + 1 := rfl
      obtain ⟨bytes, hassigned, -⟩ := h.turn_frame hmode hturn
      have hlength : l₁.assigned.length = l.assigned.length + 1 := by simp [hassigned]
      rw [hcount]
      constructor
      · intro hgood
        cases hgood with
        | cons hok hturn' hgood =>
          obtain rfl := Option.some.inj (hturn.symm.trans hturn')
          have hbound := (h.turnOk_frame_iff hmode hturn).mp hok
          have := (ih (h.frame hmode hturn hbound)).mp hgood
          omega
      · intro hbound
        have hok : l.assigned.length + 1 < 2 ^ 32 - 1 := by omega
        refine .cons ((h.turnOk_frame_iff hmode hturn).mpr hok) hturn ?_
        exact (ih (h.frame hmode hturn hok)).mpr (by omega)
    | ack =>
      have hcount : frames (.ack :: rest) = frames rest := rfl
      obtain ⟨ack, tail, -, hafter, -⟩ := h.turn_ack hmode hturn
      have hlength : l₁.assigned.length = l.assigned.length := by rw [hafter]
      rw [hcount, ← hlength]
      constructor
      · intro hgood
        cases hgood with
        | cons _ hturn' hgood =>
          obtain rfl := Option.some.inj (hturn.symm.trans hturn')
          exact (ih (h.ack hmode hturn)).mp hgood
      · intro hbound
        exact .cons (h.turnOk_ack hmode) hturn ((ih (h.ack hmode hturn)).mpr hbound)

/-- A loss-free stream in order keeps the two sides in step exactly as long as it
has fewer than `2 ^ 32 - 1` frames. -/
theorem in_step_iff_unwrapped (hmode : S.reliableMode ty = .ordered)
    (hrun : Run (Link.turn B S ty) anyStep .initial turns l) :
    Run (Link.turn B S ty) (Link.TurnOk B S ty) .initial turns l ↔ frames turns < 2 ^ 32 - 1 := by
  rw [InStep.initial.run_iff hmode hrun]
  simp [Link.initial]

theorem in_step_gps :
    ∃ l, Run (Link.turn hostBuild defaultSchema gpsPacket.ty) anyStep .initial
        [.frame (.packet gpsPacket) 0, .frame (.packet gpsPacket) 1, .ack, .ack] l ∧
      Run (Link.turn hostBuild defaultSchema gpsPacket.ty)
        (Link.TurnOk hostBuild defaultSchema gpsPacket.ty) .initial
        [.frame (.packet gpsPacket) 0, .frame (.packet gpsPacket) 1, .ack, .ack] l := by
  have hrun : (([.frame (.packet gpsPacket) 0, .frame (.packet gpsPacket) 1, .ack, .ack] :
      List (Turn defaultSchema)).foldlM (Link.turn hostBuild defaultSchema gpsPacket.ty)
        .initial).isSome = true := by
    decide +kernel
  obtain ⟨l, hl⟩ := Option.isSome_iff_exists.mp hrun
  have hrun := Run.of_foldlM (fun _ _ => trivial) hl
  exact ⟨l, hrun, (in_step_iff_unwrapped (by decide) hrun).mpr (by decide)⟩

/-- A frame turn goes through when the history has room and the frame can be built. -/
theorem exists_turn_frame (hmode : S.reliableMode ty = .ordered) {data : RouterItem S}
    (hof : data.OfType B ty) (hdata : l.data = []) (hroom : l.tx.sent.size < B.reliableMaxPending)
    (hbuilds : ∀ hdr, ∃ bytes, numberedFrame B S data hdr = .ok (.numbered bytes)) (now : UInt64) :
    ∃ l', l.turn B S ty (.frame data now) = some l' := by
  have hty : S.isReliableType ty = true := by simp [Schema.isReliableType, hmode]
  have halloc : l.tx.allocate B =
      some (l.tx.nextSeq, { l.tx with nextSeq := nextSeqAfter l.tx.nextSeq }) := by
    rw [ReliableTxState.allocate, if_neg (by omega)]
  obtain ⟨bytes, hframe⟩ := hbuilds ⟨reliableFlags S ty, l.tx.nextSeq, 0⟩
  obtain ⟨_, heq, ⟨env, hdr⟩, hpeek, -, hhdr⟩ := numberedFrame_carries hof hty hframe
  obtain rfl := NumberedFrame.numbered.inj heq
  dsimp only at hhdr
  subst hhdr
  simp [turn, Link.step, hof, send, sendNumbered, halloc, hframe, throughGate, deliverData, hdata,
    hpeek]

/-- Rounds of one frame and its acknowledgement can go on to the last number but
one, and end with an empty history. -/
theorem exists_rounds (hmode : S.reliableMode ty = .ordered) {data : RouterItem S}
    (hof : data.OfType B ty) (hpending : 0 < B.reliableMaxPending)
    (hbuilds : ∀ hdr, ∃ bytes, numberedFrame B S data hdr = .ok (.numbered bytes))
    (n : Nat) (hn : n < 2 ^ 32 - 1) :
    ∃ l, Run (Link.turn B S ty) anyStep .initial
        (List.replicate n [Turn.frame data 0, .ack]).flatten l ∧
      InStep B S ty l ∧ l.tx.sent.size = 0 ∧ l.control = [] ∧ l.assigned.length = n := by
  induction n with
  | zero => exact ⟨.initial, .nil _, .initial, rfl, rfl, rfl⟩
  | succ n ih =>
    obtain ⟨l, hrun, h, hsent, hcontrol, hlength⟩ := ih (by omega)
    obtain ⟨l₁, hturn₁⟩ := exists_turn_frame hmode hof h.data (by omega) hbuilds 0
    have h₁ := h.frame hmode hturn₁ (by omega)
    obtain ⟨bytes, hassigned, -, hcontrol₁, -, -, -, hnext⟩ := h.turn_frame hmode hturn₁
    rw [hcontrol, List.nil_append] at hcontrol₁
    obtain ⟨l₂, hturn₂⟩ : ∃ l₂, l₁.turn B S ty .ack = some l₂ := by
      simp [turn, Link.step, deliverControl, hcontrol₁]
    obtain ⟨ack, rest, hack, hafter, hmem⟩ := h₁.turn_ack hmode hturn₂
    rw [hcontrol₁, List.cons.injEq, Control.ack.injEq] at hack
    obtain ⟨rfl, rfl⟩ := hack
    refine ⟨l₂, ?_, h₁.ack hmode hturn₂, ?_, by rw [hafter], ?_⟩
    · rw [List.replicate_succ', List.flatten_append]
      exact hrun.append (.cons trivial hturn₁ (.cons trivial hturn₂ (.nil _)))
    · -- every number handed out so far is at most the acknowledged one
      rw [← Std.ExtTreeMap.eq_empty_iff_size_eq_zero, Std.ExtTreeMap.eq_empty_iff_forall_not_mem]
      intro seq hseq
      obtain ⟨hold, habove⟩ := (hmem seq).mp hseq
      have hbelow := h₁.inOrder.consistent.lt_next seq hold
      have hnumber := h.inOrder.next
      rw [hnext, UInt32.lt_iff_toNat_lt, nextSeqAfter_toNat (by omega)] at hbelow
      rw [UInt32.lt_iff_toNat_lt] at habove
      omega
    · rw [hafter, hassigned, List.length_append, hlength]
      rfl

/-- After `2 ^ 32 - 2` acknowledged fixes the next one leaves the receiver waiting
for zero and the sender at one. -/
theorem out_of_step_at_wrap :
    ∃ l l', Run (Link.turn hostBuild defaultSchema gpsPacket.ty) anyStep .initial
        (List.replicate (2 ^ 32 - 2) [Turn.frame (.packet gpsPacket) 0, .ack]).flatten l ∧
      l.turn hostBuild defaultSchema gpsPacket.ty (.frame (.packet gpsPacket) 0) = some l' ∧
      l'.rx.expectedSeq = 0 ∧ l'.tx.nextSeq = 1 ∧
      ¬ l.TurnOk hostBuild defaultSchema gpsPacket.ty (.frame (.packet gpsPacket) 0) := by
  have hbuilds (hdr : ReliableHeader) : ∃ bytes,
      numberedFrame hostBuild defaultSchema (.packet gpsPacket) hdr = .ok (.numbered bytes) := by
    have hser := serializePacketInner_eq (p := gpsPacket) hostBuild
      ⟨by decide, by decide, by decide⟩ (by decide) (show (some hdr).isSome = true from rfl)
    exact ⟨_, by rw [numberedFrame, serializePacketWithReliable, hser, ok_bind]⟩
  have hmode : defaultSchema.reliableMode gpsPacket.ty = .ordered := by decide
  have hof : (RouterItem.packet gpsPacket).OfType hostBuild gpsPacket.ty := by decide
  obtain ⟨l, hrun, h, hsent, -, hlength⟩ := exists_rounds hmode hof (by decide) hbuilds
    (2 ^ 32 - 2) (by decide)
  obtain ⟨l', hturn⟩ := exists_turn_frame hmode hof h.data (by rw [hsent]; decide) hbuilds 0
  obtain ⟨bytes, -, -, -, -, -, hexpected, hnext⟩ := h.turn_frame hmode hturn
  have hlast : l.tx.nextSeq + 1 = 0 := by
    rw [add_one_eq_zero_iff, h.inOrder.next]
    omega
  refine ⟨l, l', hrun, hturn, hexpected.trans hlast, ?_, fun hok => ?_⟩
  · rw [hnext, nextSeqAfter, if_pos hlast]
  · have := (h.turnOk_frame_iff hmode hturn).mp hok
    omega

end Run
end Sedsprintf.Link
