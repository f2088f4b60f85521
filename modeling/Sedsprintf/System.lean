import Sedsprintf.Hop

/-!
# A node as a machine

Every call of the source that changes the modelled state is one action, so a
public operation is a list of them: a received frame is an `accept` and the
pushes, control calls and sends that follow from it. Routing chooses the list and
is not modelled. A call that panics ends the run. `System` adds to a node the two
history variables of its streams.
-/
namespace Sedsprintf

open Lib

/-- A value of the running program. -/
def RouterItem.Resident (B : Build) {S : Schema} : RouterItem S → Prop
  | .packet pkt => pkt.Resident B
  | .serialized _ => True

instance (B : Build) {S : Schema} (data : RouterItem S) : Decidable (data.Resident B) :=
  match data with
  | .packet pkt => inferInstanceAs (Decidable (pkt.Resident B))
  | .serialized _ => inferInstanceAs (Decidable True)

theorem sendType_ofType {B : Build} {S : Schema} {data : RouterItem S} {ty : S.DataType}
    (hresident : data.Resident B) (h : sendType B data = .ok ty) : data.OfType B ty := by
  cases data with
  | packet pkt => exact ⟨hresident, Except.ok.inj h⟩
  | serialized bytes =>
    obtain ⟨frame, hpeek, h⟩ := bind_eq_ok.mp h
    exact ⟨frame, hpeek, Except.ok.inj h⟩

section Numbering
variable {S : Schema}

/-- `send_reliable_to_side` numbers the item on the stream of `ty`: the side is
registered, takes bytes, is hop-reliable with at most one live announcer, and the
item is of the reliable type `ty`. `enabled` is the router's
`cfg.reliable_enabled()`; a relay has no such setting. -/
structure NodeState.Numbers (B : Build) (enabled : Bool) (st : NodeState S) (now : UInt64)
    (side : Nat) (data : RouterItem S) (ty : S.DataType) : Prop where
  enabled : enabled = true
  registered : ∃ s : Side, st.sides[side]?.join = some s ∧ s.txHandler = .serialized ∧
    s.opts.reliableEnabled = true
  announcers : sideHasMultipleAnnouncers st.discoveryRoutes side now = false
  type : sendType B data = .ok ty
  reliable : S.isReliableType ty = true

/-- The gate is busy, or the handler refuses the bytes on each of its `attempts`
calls. -/
def SideTx.Refuses (tx : SideTx S) (attempts : Nat) (bytes : List UInt8) : Prop :=
  tx.gateFree = false ∨ (0 < attempts ∧ ∀ call < attempts, tx.onBytes bytes call ≠ .ok ())

theorem SideTx.not_accepting_refuses (doneMs : UInt64) (attempts : Nat) (bytes : List UInt8) :
    ¬(SideTx.accepting doneMs : SideTx S).Refuses attempts bytes := by
  rintro (hbusy | ⟨hpos, hall⟩)
  · cases hbusy
  · exact hall 0 hpos rfl

/-- The item is numbered, there is room in the history, and the link refuses the
frame built for the number. -/
def NodeState.SendFailsNumbered (B : Build) (enabled : Bool) (attempts : Nat) (st : NodeState S)
    (now : UInt64) (tx : SideTx S) (side : Nat) (data : RouterItem S) : Prop :=
  ∃ ty bytes, st.Numbers B enabled now side data ty ∧
    (st.reliableTx.at ⟨side, ty⟩).sent.size < B.reliableMaxPending ∧
    numberedFrame B S data ⟨reliableFlags S ty, (st.reliableTx.at ⟨side, ty⟩).nextSeq, 0⟩ =
      .ok (.numbered bytes) ∧
    tx.Refuses attempts bytes

/-- For a plan that numbers exactly what `Numbers` says. -/
theorem NodeState.sendFailsNumbered_iff {B : Build} {enabled : Bool} {attempts : Nat}
    {st : NodeState S} {now : UInt64} {tx : SideTx S} {side : Nat} {data : RouterItem S} {plan : SendPlan S}
    {call : (Nat → Outcome Unit) → Outcome Unit}
    (hcall : ∀ f : Nat → Except TelemetryError Unit, (∃ e, call (fun i => answered (f i)) = fail e) ↔
      0 < attempts ∧ ∀ i < attempts, f i ≠ .ok ())
    (hplan : ∀ ty, plan = .number ty ↔ st.Numbers B enabled now side data ty) :
    plan.FailsNumbered B call tx side data st.reliableTx ↔
      st.SendFailsNumbered B enabled attempts now tx side data := by
  constructor
  · intro hfails
    cases plan with
    | done => cases hfails
    | direct adjusted => cases hfails
    | number ty =>
      obtain ⟨hroom, bytes, hframe, hrefused⟩ := hfails
      exact ⟨ty, bytes, (hplan ty).mp rfl, hroom, hframe, hrefused.imp_right (hcall _).mp⟩
  · rintro ⟨ty, bytes, hnumbers, hroom, hframe, hrefused⟩
    obtain rfl := (hplan ty).mpr hnumbers
    exact ⟨hroom, bytes, hframe, hrefused.imp_right (hcall _).mpr⟩

end Numbering

structure System (S : Schema) (σ : Type) where
  inner : σ
  /-- Numbers taken, and numbers handed out with success. -/
  numbered : List (StreamKey S)
  handed : List (StreamKey S × UInt32)

namespace System
variable {S : Schema} {σ : Type}

def initial (inner : σ) : System S σ := ⟨inner, [], []⟩

/-- A call that changes only the node. -/
def returned (s : System S σ) (inner : σ) (result : Outcome Unit) : Option (System S σ) :=
  match result with
  | .error (.panic _) => none
  | _ => some { s with inner := inner }

/-- A call that changes nothing where it fails. -/
def changed (s : System S σ) : Outcome σ → Option (System S σ)
  | .ok inner => some { s with inner := inner }
  | .error _ => some s

variable (n : HopNode S σ)

def history (s : System S σ) : TxHistory S := ⟨n.streams s.inner, s.numbered, s.handed⟩

/-- After a call of `send_reliable_to_side`. -/
def sent (s : System S σ) (r : SideSend S) : Option (System S σ) :=
  match r.result with
  | .error (.panic _) => none
  | _ =>
    let history := (s.history n).afterSend r
    some ⟨n.setStreams s.inner history.streams, history.numbered, history.handed⟩

/-- After `remove_side`: the streams of a removed side end with it. -/
def sideRemoved (s : System S σ) (side : Nat) : Outcome σ → Option (System S σ)
  | .ok inner => some ⟨inner, s.numbered.filter fun key => key.side ≠ side,
      s.handed.filter fun e => e.1.side ≠ side⟩
  | .error _ => some s

variable {n} {B : Build} {s s' : System S σ} {whole : Prop}

theorem history_setStreams (inner : σ) (h : TxHistory S) :
    history n ⟨n.setStreams inner h.streams, h.numbered, h.handed⟩ = h := by
  simp only [history, n.streams_setStreams]

theorem returned_eq_some {inner : σ} {result : Outcome Unit}
    (h : s.returned inner result = some s') : s' = { s with inner := inner } := by
  unfold returned at h
  split at h
  · cases h
  · exact (Option.some.inj h).symm

theorem sent_inner {r : SideSend S} (h : s.sent n r = some s') :
    s'.inner = n.setStreams s.inner r.streams := by
  unfold sent at h
  split at h
  · cases h
  · obtain rfl := Option.some.inj h
    rfl

theorem changed_eq_some {r : Outcome σ} (h : s.changed r = some s') :
    s' = s ∨ ∃ inner, r = .ok inner ∧ s' = { s with inner := inner } := by
  unfold changed at h
  split at h
  · rename_i inner
    exact .inr ⟨inner, rfl, (Option.some.inj h).symm⟩
  · exact .inl (Option.some.inj h).symm

theorem sideRemoved_eq_some {side : Nat} {r : Outcome σ} (h : s.sideRemoved side r = some s') :
    s' = s ∨ r = .ok s'.inner := by
  unfold sideRemoved at h
  split at h
  · obtain rfl := Option.some.inj h
    exact .inr rfl
  · exact .inl (Option.some.inj h).symm

/-- A step is a list of stream operations, which all go out where the step sends
`whole`, and keeps the accounts. -/
structure Refines (n : HopNode S σ) (B : Build) (whole : Prop) (s s' : System S σ) : Prop where
  run : ∃ ops, Run (TxHistory.step B) (TxHistory.Genuine B) (s.history n) ops (s'.history n) ∧
    (whole → ∀ op ∈ ops, TxHistory.SendsOut op)
  sane : n.Sane s.inner → n.Sane s'.inner

namespace Refines

theorem refl (s : System S σ) : Refines n B whole s s := ⟨⟨[], .nil _, fun _ => by simp⟩, id⟩

theorem of_moves {inner : σ} (hmoves : n.Moves B s.inner inner)
    (hsane : n.Sane s.inner → n.Sane inner) : Refines n B whole s { s with inner := inner } := by
  obtain ⟨ops, hrun, hout⟩ := hmoves (s.history n) rfl
  exact ⟨⟨ops, hrun, fun _ => hout⟩, hsane⟩

theorem of_frame {inner : σ} (htx : n.streams inner = n.streams s.inner)
    (hsane : n.Sane s.inner → n.Sane inner) : Refines n B whole s { s with inner := inner } :=
  .of_moves (.of_eq htx) hsane

/-- One operation on the streams. -/
theorem of_streams {streams : TxStreams S} (op : TxOp S)
    (hstep : ∀ h : TxHistory S, h.streams = n.streams s.inner →
      TxHistory.step B h op = some { h with streams := streams })
    (hgenuine : ∀ h, TxHistory.Genuine B h op) (hout : TxHistory.SendsOut op) :
    Refines n B whole s { s with inner := n.setStreams s.inner streams } := by
  refine .of_moves (.of_op op (fun h hstreams => ?_) hgenuine hout) n.sane_setStreams
  rw [hstep h hstreams, n.streams_setStreams]

theorem of_changed {r : Outcome σ} (h : s.changed r = some s')
    (hok : ∀ inner, r = .ok inner → Refines n B whole s { s with inner := inner }) :
    Refines n B whole s s' := by
  rcases changed_eq_some h with rfl | ⟨inner, hr, rfl⟩
  · exact .refl _
  · exact hok inner hr

theorem of_sideRemoved {side : Nat} {r : Outcome σ} (h : s.sideRemoved side r = some s')
    (htx : ∀ inner, r = .ok inner → n.streams inner = (n.streams s.inner).removeSide side)
    (hsane : ∀ inner, r = .ok inner → n.Sane s.inner → n.Sane inner) : Refines n B whole s s' := by
  unfold sideRemoved at h
  split at h
  · rename_i inner
    obtain rfl := Option.some.inj h
    refine ⟨⟨[.removeSide side], .cons trivial ?_ (.nil _), fun _ => by simp [TxHistory.SendsOut]⟩,
      hsane inner rfl⟩
    rw [TxHistory.step, history, history, htx inner rfl]
  · obtain rfl := Option.some.inj h
    exact .refl _

/-- A call of `send_reliable_to_side` that made its plan. -/
theorem of_sent {full : String} {attempts : (Nat → Outcome Unit) → Outcome Unit} {tx : SideTx S}
    {handler : TxHandlerFn} {side : Nat} {data : RouterItem S} {plan : SendPlan S}
    (hfits : plan.Fits B data)
    (hwhole : whole → ¬plan.FailsNumbered B attempts tx side data (n.streams s.inner))
    (h : s.sent n (plan.execute B full attempts tx handler side data (n.streams s.inner)) =
      some s') : Refines n B whole s s' := by
  unfold sent at h
  split at h
  · cases h
  · rename_i hreturns
    obtain rfl := Option.some.inj h
    obtain ⟨ops, hrun, hout⟩ := @TxHistory.afterSend_run B S full attempts tx handler side data plan
      (s.history n) hfits
    refine ⟨⟨ops, ?_, fun hw => hout (fun what heq => hreturns what heq) (hwhole hw)⟩,
      n.sane_setStreams⟩
    rw [history_setStreams]
    exact hrun

/-- A call of `send_reliable_to_side` that made none. -/
theorem of_unsent {e : Stop} (h : s.sent n ⟨n.streams s.inner, none, .error e⟩ = some s') :
    Refines n B whole s s' := by
  unfold sent at h
  split at h
  · cases h
  · obtain rfl := Option.some.inj h
    simp only [TxHistory.afterSend, Option.map_none, Option.toList_none, List.append_nil]
    exact .of_frame (n.streams_setStreams _ _) n.sane_setStreams

end Refines

section Runs
variable {α : Type} {step : System S σ → α → Option (System S σ)}
  {sendsWhole : System S σ → α → Prop} {ok : System S σ → α → Prop} {actions : List α}

/-- A run is a run of stream operations, and keeps the accounts. -/
theorem refines_of_run
    (hstep : ∀ {s s' a}, step s a = some s' → Refines n B (sendsWhole s a) s s')
    (hrun : Run step ok s actions s') :
    (∃ ops, Run (TxHistory.step B) (TxHistory.Genuine B) (s.history n) ops (s'.history n) ∧
      ((∀ s a, ok s a → sendsWhole s a) → ∀ op ∈ ops, TxHistory.SendsOut op)) ∧
      (n.Sane s.inner → n.Sane s'.inner) := by
  induction hrun with
  | nil s => exact ⟨⟨[], .nil _, fun _ => by simp⟩, id⟩
  | cons hok hs _ ih =>
    have hfirst := hstep hs
    obtain ⟨ops, hrun, hout⟩ := hfirst.run
    obtain ⟨⟨more, hmore, hout'⟩, hsane⟩ := ih
    refine ⟨⟨ops ++ more, hrun.append hmore, fun hwhole op hop => ?_⟩,
      fun h => hsane (hfirst.sane h)⟩
    rcases List.mem_append.mp hop with hop | hop
    · exact hout (hwhole _ _ hok) op hop
    · exact hout' hwhole op hop

/-- From a node with no streams, every stream counts its numbers; where every step
sends whole, the numbers that went out have no gap. -/
theorem sound_of_run
    (hstep : ∀ {s s' a}, step s a = some s' → Refines n B (sendsWhole s a) s s')
    (hinit : s.history n = TxHistory.initial) (hrun : Run step ok s actions s') :
    (s'.history n).Sound B ∧
      ((∀ s a, ok s a → sendsWhole s a) → (s'.history n).Contiguous) := by
  obtain ⟨⟨ops, hops, hout⟩, -⟩ := refines_of_run hstep hrun
  rw [hinit] at hops
  refine ⟨hops.invariant (TxHistory.Sound B) (fun hs hg hst => hs.step hg hst) .initial,
    fun hwhole => ?_⟩
  have hops' := hops.imp fun _ op hop hg => And.intro hg (hout hwhole op hop)
  exact (hops'.invariant (fun h => h.Sound B ∧ h.Contiguous)
    (fun h hg hst => ⟨h.1.step hg.1 hst, h.2.step h.1 hg.2 hst⟩) ⟨.initial, .initial⟩).2

/-- What an executed list of actions on a new node shows is a run. -/
theorem run_of_execute {β : Type} {view : System S σ → β} {result : β} {new : Outcome σ}
    (h : (new.toOption.bind fun inner =>
      (actions.foldlM step (initial inner)).map view) = some result) :
    ∃ inner s, new = .ok inner ∧ Run step anyStep (.initial inner) actions s ∧ view s = result := by
  obtain ⟨inner, hnew, h⟩ := Option.bind_eq_some_iff.mp h
  obtain ⟨s, hs, hview⟩ := Option.map_eq_some_iff.mp h
  exact ⟨inner, s, toOption_eq_some.mp hnew, .of_foldlM (fun _ _ => trivial) hs, hview⟩

/-- The same with a check of every step. -/
theorem run_of_checked {β : Type} {view : System S σ → β} {result : β} {new : Outcome σ}
    {check : System S σ → α → Bool} (hcheck : ∀ s a, check s a = true → ok s a)
    (h : (new.toOption.bind fun inner =>
      (actions.foldlM (fun s a => if check s a then step s a else none)
        (initial inner)).map view) = some result) :
    ∃ inner s, new = .ok inner ∧ Run step ok (.initial inner) actions s ∧ view s = result := by
  obtain ⟨inner, hnew, h⟩ := Option.bind_eq_some_iff.mp h
  obtain ⟨s, hs, hview⟩ := Option.map_eq_some_iff.mp h
  exact ⟨inner, s, toOption_eq_some.mp hnew, .of_checked hcheck hs, hview⟩

end Runs
end System
end Sedsprintf
