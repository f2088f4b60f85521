import Sedsprintf.Reliable.Streams

/-!
# A send through a side

What `send_reliable_to_side` leaves once its plan is made, for any way to call
the handler, and exactly when a failed call leaves the streams alone.
-/
namespace Sedsprintf

open Lib

section Retry

/-- Attempts that only answer fail together exactly when there is one and none
succeeds. -/
theorem retryFrom_eq_fail_iff (f : Nat → Except TelemetryError Unit) (times call : Nat)
    (last : Option TelemetryError) :
    (∃ e, retryFrom (fun i => answered (f i)) times call last = fail e) ↔
      (0 < times ∨ last.isSome = true) ∧ ∀ i < times, f (call + i) ≠ .ok () := by
  induction times generalizing call last with
  | zero =>
    cases last with
    | none => simp [retryFrom, panics, fail]
    | some e => simp [retryFrom, fail]
  | succ times ih =>
    have hshift : (∀ i < times + 1, f (call + i) ≠ .ok ()) ↔
        f call ≠ .ok () ∧ ∀ i < times, f (call + 1 + i) ≠ .ok () := by
      constructor
      · intro h
        refine ⟨h 0 (by omega), fun i hi => ?_⟩
        have := h (i + 1) (by omega)
        rwa [show call + (i + 1) = call + 1 + i by omega] at this
      · rintro ⟨hhead, hrest⟩ i hi
        cases i with
        | zero => exact hhead
        | succ i =>
          have := hrest i (by omega)
          rwa [show call + 1 + i = call + (i + 1) by omega] at this
    rw [hshift]
    cases hcall : f call with
    | ok u => simp [retryFrom, hcall, answered, fail]
    | error e =>
      have hnext : retryFrom (fun i => answered (f i)) (times + 1) call last =
          retryFrom (fun i => answered (f i)) times (call + 1) (some e) := by
        simp only [retryFrom, hcall]
        rfl
      rw [hnext, ih]
      simp

theorem retry_eq_fail_iff (f : Nat → Except TelemetryError Unit) (times : Nat) :
    (∃ e, retry times (fun i => answered (f i)) = fail e) ↔
      0 < times ∧ ∀ i < times, f i ≠ .ok () := by
  have h := retryFrom_eq_fail_iff f times 0 none
  simp only [Option.isSome_none, Bool.false_eq_true, or_false, Nat.zero_add] at h
  exact h

theorem callOnce_eq_fail_iff (f : Nat → Except TelemetryError Unit) :
    (∃ e, callOnce (fun i => answered (f i)) = fail e) ↔ f 0 ≠ .ok () := by
  have hcall : callOnce (fun i => answered (f i)) = answered (f 0) := rfl
  rw [hcall]
  cases f 0 with
  | ok u => simp [answered, fail]
  | error e => simp [answered, fail]

end Retry

theorem nextSeqAfter_ne (seq : UInt32) : nextSeqAfter seq ≠ seq := by
  unfold nextSeqAfter
  split
  · rintro rfl
    contradiction
  · intro h
    have := congrArg UInt32.toNat h
    rw [UInt32.toNat_add, UInt32.toNat_one] at this
    have := seq.toNat_lt
    omega

section Execute
variable {B : Build} {S : Schema} {full : String}
  {attempts : (Nat → Outcome Unit) → Outcome Unit} {tx : SideTx S} {handler : TxHandlerFn}
  {side : Nat} {data : RouterItem S} {streams : TxStreams S} {plan : SendPlan S}

/-- A plan that numbers does so on the reliable type of its item. -/
def SendPlan.Fits (B : Build) (data : RouterItem S) : SendPlan S → Prop
  | .number ty => S.isReliableType ty = true ∧ data.OfType B ty
  | _ => True

theorem SendPlan.fits_ofAdjusted (adjusted : Option (RouterItem S)) :
    (SendPlan.ofAdjusted adjusted).Fits B data := by
  cases adjusted <;> trivial

theorem SendPlan.ofAdjusted_ne_number (adjusted : Option (RouterItem S)) {ty : S.DataType} :
    SendPlan.ofAdjusted adjusted ≠ .number ty := by
  cases adjusted <;> simp [ofAdjusted]

/-- The call takes a number, builds the frame, and then the gate is busy or the
handler refuses every attempt. -/
def SendPlan.FailsNumbered (B : Build) (attempts : (Nat → Outcome Unit) → Outcome Unit)
    (tx : SideTx S) (side : Nat) (data : RouterItem S) (streams : TxStreams S) :
    SendPlan S → Prop
  | .number ty =>
    (streams.at ⟨side, ty⟩).sent.size < B.reliableMaxPending ∧
      ∃ bytes, numberedFrame B S data
          ⟨reliableFlags S ty, (streams.at ⟨side, ty⟩).nextSeq, 0⟩ = .ok (.numbered bytes) ∧
        (tx.gateFree = false ∨
          ∃ e, attempts (fun call => answered (tx.onBytes bytes call)) = fail e)
  | _ => False

theorem throughGate_eq_fail_iff {gateFree : Bool} {result : Outcome Unit} :
    (∃ e, throughGate gateFree result = fail e) ↔ gateFree = false ∨ ∃ e, result = fail e := by
  cases gateFree with
  | false => simp [throughGate, fail]
  | true => simp [throughGate]

/-- What a numbering call can do. -/
inductive SendPlan.Outcomes (B : Build) (S : Schema) (full : String)
    (attempts : (Nat → Outcome Unit) → Outcome Unit) (tx : SideTx S) (data : RouterItem S)
    (streams : TxStreams S) (key : StreamKey S) : SideSend S → Prop
  | full (halloc : (streams.at key).allocate B = none) :
      Outcomes B S full attempts tx data streams key
        ⟨streams.update key id, none, fail (.packetTooLarge full)⟩
  | panicked {seq : UInt32} {taken : ReliableTxState} {what : String}
      (halloc : (streams.at key).allocate B = some (seq, taken))
      (hframe : numberedFrame B S data ⟨reliableFlags S key.ty, seq, 0⟩ = panics what) :
      Outcomes B S full attempts tx data streams key
        ⟨streams.insert key taken, some (key, seq, none), panics what⟩
  | refused {seq : UInt32} {taken : ReliableTxState} {bytes : List UInt8} {e : Stop}
      (halloc : (streams.at key).allocate B = some (seq, taken))
      (hframe : numberedFrame B S data ⟨reliableFlags S key.ty, seq, 0⟩ = .ok (.numbered bytes))
      (hgate : throughGate tx.gateFree
        (attempts fun call => answered (tx.onBytes bytes call)) = .error e) :
      Outcomes B S full attempts tx data streams key
        ⟨streams.insert key taken, some (key, seq, some bytes), .error e⟩
  | sent {seq : UInt32} {taken : ReliableTxState} {bytes : List UInt8}
      (halloc : (streams.at key).allocate B = some (seq, taken))
      (hframe : numberedFrame B S data ⟨reliableFlags S key.ty, seq, 0⟩ = .ok (.numbered bytes))
      (hcarries : Carries B S key.ty ⟨reliableFlags S key.ty, seq, 0⟩ bytes)
      (hgate : throughGate tx.gateFree
        (attempts fun call => answered (tx.onBytes bytes call)) = .ok ()) :
      Outcomes B S full attempts tx data streams key
        ⟨streams.insert key (taken.record seq bytes tx.doneMs), some (key, seq, some bytes), .ok ()⟩

theorem SendPlan.execute_number {ty : S.DataType} (hfits : (SendPlan.number ty).Fits B data) :
    Outcomes B S full attempts tx data streams ⟨side, ty⟩
      ((SendPlan.number ty).execute B full attempts tx handler side data streams) := by
  obtain ⟨hty, hdata⟩ := hfits
  have hcases := @sendNumbered_cases B S ty full data tx.gateFree
    (fun bytes => attempts fun call => answered (tx.onBytes bytes call)) tx.doneMs
    (streams.at ⟨side, ty⟩) hdata hty
  unfold execute
  rcases hcases with ⟨halloc, hsend⟩ | ⟨seq, taken, halloc, ⟨e, hframe, hsend⟩ | ⟨bytes, hframe,
    hcarries, ⟨e, hgate, hsend⟩ | ⟨hgate, hsend⟩⟩⟩
  · simp only [hsend, halloc, Option.map_none]
    exact .full halloc
  · simp only [hsend, halloc, Option.map_some]
    -- the encoder can only panic
    cases e with
    | err e => exact absurd hframe (numberedFrame_neverErrs _ hdata hty e)
    | panic what => exact .panicked halloc hframe
  · simp only [hsend, halloc, Option.map_some]
    exact .refused halloc hframe hgate
  · simp only [hsend, halloc, Option.map_some]
    exact .sent halloc hframe hcarries hgate

/-- A call that returns `Err` leaves every stream as it was exactly when it does not
fail behind the numbering. -/
theorem SendPlan.execute_unchanged_iff (hfits : plan.Fits B data) :
    ((∃ e, (plan.execute B full attempts tx handler side data streams).result = fail e) →
        ∀ key, TxStreams.at (plan.execute B full attempts tx handler side data streams).streams key =
          streams.at key) ↔
      ¬plan.FailsNumbered B attempts tx side data streams := by
  cases plan with
  | done => simp [execute, FailsNumbered]
  | direct adjusted => simp [execute, FailsNumbered]
  | number ty =>
    have hout := @execute_number B S full attempts tx handler side data streams ty hfits
    generalize (SendPlan.number ty).execute B full attempts tx handler side data streams = r at hout
    unfold FailsNumbered
    cases hout with
    | full halloc =>
      refine iff_of_true (fun _ key => ?_) ?_
      · rw [TxStreams.at_update]
        split <;> rfl
      · rintro ⟨hroom, -⟩
        simp [ReliableTxState.allocate, Nat.not_le.mpr hroom] at halloc
    | panicked halloc hframe =>
      obtain ⟨-, rfl, -⟩ := ReliableTxState.allocate_eq_some halloc
      refine iff_of_true (fun herr => ?_) ?_
      · obtain ⟨e, he⟩ := herr
        simp [fail, panics] at he
      · rintro ⟨-, bytes, hbytes, -⟩
        simp [hframe] at hbytes
    | @refused seq taken bytes e halloc hframe hgate =>
      obtain ⟨hroom, rfl, rfl⟩ := ReliableTxState.allocate_eq_some halloc
      have hfails : (∃ e', (Except.error e : Outcome Unit) = fail e') ↔ tx.gateFree = false ∨
          ∃ e, attempts (fun call => answered (tx.onBytes bytes call)) = fail e := by
        rw [← throughGate_eq_fail_iff, hgate]
      have hmoved : ¬∀ key, TxStreams.at (streams.insert (⟨side, ty⟩ : StreamKey S)
          { streams.at ⟨side, ty⟩ with
            nextSeq := nextSeqAfter (streams.at ⟨side, ty⟩).nextSeq }) key = streams.at key := by
        intro hsame
        have := congrArg (fun stream => stream.nextSeq) (hsame ⟨side, ty⟩)
        rw [TxStreams.at_insert, if_pos rfl] at this
        exact nextSeqAfter_ne _ this
      constructor
      · rintro hlaw ⟨-, bytes', hbytes', hrefused⟩
        rw [hframe] at hbytes'
        obtain rfl := NumberedFrame.numbered.inj (Except.ok.inj hbytes')
        exact hmoved (hlaw (hfails.mpr hrefused))
      · intro hnot herr
        exact absurd ⟨hroom, bytes, hframe, hfails.mp herr⟩ hnot
    | @sent seq taken bytes halloc hframe _ hgate =>
      obtain ⟨-, rfl, -⟩ := ReliableTxState.allocate_eq_some halloc
      refine iff_of_true (fun herr => ?_) ?_
      · obtain ⟨e, he⟩ := herr
        simp [fail] at he
      · rintro ⟨-, bytes', hbytes', hrefused⟩
        rw [hframe] at hbytes'
        obtain rfl := NumberedFrame.numbered.inj (Except.ok.inj hbytes')
        obtain ⟨e, he⟩ := throughGate_eq_fail_iff.mpr hrefused
        simp [hgate, fail] at he

/-- The history after a call. -/
def TxHistory.afterSend (h : TxHistory S) (r : SideSend S) : TxHistory S where
  streams := r.streams
  numbered := h.numbered ++ (r.numbered.map fun n => n.1).toList
  handed := h.handed ++
    match r.numbered, r.result with
    | some (key, seq, some _), .ok () => [(key, seq)]
    | _, _ => []

/-- A call is at most one number taken; where it returns and does not fail behind
the numbering, the number went out. -/
theorem TxHistory.afterSend_run (h : TxHistory S) (hfits : plan.Fits B data) :
    ∃ ops, Run (TxHistory.step B) (TxHistory.Genuine B) h ops
        (h.afterSend (plan.execute B full attempts tx handler side data h.streams)) ∧
      ((∀ what, (plan.execute B full attempts tx handler side data h.streams).result ≠
          panics what) →
        ¬plan.FailsNumbered B attempts tx side data h.streams →
        ∀ op ∈ ops, TxHistory.SendsOut op) := by
  cases plan with
  | done =>
    refine ⟨[], ?_, fun _ _ => by simp⟩
    simp only [SendPlan.execute, afterSend, Option.map_none, Option.toList_none, List.append_nil]
    exact .nil h
  | direct adjusted =>
    refine ⟨[], ?_, fun _ _ => by simp⟩
    simp only [SendPlan.execute, afterSend, Option.map_none, Option.toList_none, List.append_nil]
    exact .nil h
  | number ty =>
    have hout := @SendPlan.execute_number B S full attempts tx handler side data h.streams ty hfits
    generalize (SendPlan.number ty).execute B full attempts tx handler side data h.streams = r
      at hout
    cases hout with
    | full halloc =>
      refine ⟨[.touch ⟨side, ty⟩], .cons trivial ?_ (.nil _), fun _ _ => by simp [SendsOut]⟩
      simp [step, afterSend]
    | panicked halloc _ =>
      refine ⟨[.send ⟨side, ty⟩ none], .cons ⟨hfits.1, by simp⟩ ?_ (.nil _), fun hreturns => ?_⟩
      · simp [step, sendOp, halloc, afterSend]
      · exact absurd rfl (hreturns _)
    | @refused seq taken bytes e halloc hframe hgate =>
      refine ⟨[.send ⟨side, ty⟩ none], .cons ⟨hfits.1, by simp⟩ ?_ (.nil _), fun hreturns hnot => ?_⟩
      · simp [step, sendOp, halloc, afterSend]
      · obtain ⟨hroom, rfl, -⟩ := ReliableTxState.allocate_eq_some halloc
        cases e with
        | panic what => exact absurd rfl (hreturns what)
        | err e =>
          have hfail := throughGate_eq_fail_iff.mp ⟨e, hgate⟩
          exact absurd ⟨hroom, bytes, hframe, hfail⟩ hnot
    | @sent seq taken bytes halloc hframe hcarries hgate =>
      refine ⟨[.send ⟨side, ty⟩ (some (bytes, tx.doneMs))], .cons ⟨hfits.1, ?_⟩ ?_ (.nil _),
        fun _ _ => by simp [SendsOut]⟩
      · intro bytes' now heq
        obtain ⟨rfl, rfl⟩ := Prod.mk.inj (Option.some.inj heq)
        obtain ⟨-, rfl, -⟩ := ReliableTxState.allocate_eq_some halloc
        exact hcarries
      · simp [step, sendOp, halloc, afterSend]

end Execute

end Sedsprintf
