import Sedsprintf.Lib.Loops
import Sedsprintf.Router.Arrivals

/-!
# The router's drains

src/router.rs:4271-4279, 4307-4325, 4369-4397 and 4445-4455. A drain with no timeout takes turns
until one finds nothing to do; `periodic` drains all queues behind its polls. Where a relay
looks at its gate first and returns while a side's callback is under way
(src/relay.rs:3047-3160), these drains begin, and an item that finds the gate held is put back
on the queue that is being drained.
-/
namespace Sedsprintf

open Lib

/-- What one turn of a drain meets: its world, and the front of the interrupt queue. -/
structure RouterTurn (S : Schema) where
  world : RouterWorld S
  isr : Option (RouterRxItem S)

namespace RouterProgram
variable {S : Schema} (B : Build) (w : RouterWorld S) (report : Packet S → RouterProgram S Unit)

section Turns

/-- What every turn begins with. -/
def processTimeouts : RouterProgram S Unit := do
  onInner fun st => st.processReliableTimeouts B w.now
  processEndToEndReliableTimeouts B w

/-- The front of the transmit queue; whether there was one. -/
def sendOne : RouterProgram S Bool := fun s =>
  match s.inner.transmitQueue.popFront (TxQueued.byteCost B) with
  | none => (s, .ok false)
  | some (queued, rest) =>
    (do txItemImpl B w report queued.item queued.ignoreLocal; pure true)
      { s with inner := { s.inner with transmitQueue := rest } }

/-- One received item, of the interrupt queue first; whether there was one. -/
def receiveOne (isr : Option (RouterRxItem S)) : RouterProgram S Bool := fun s =>
  match isr with
  | some item => (do rxItem B w report item true; pure true) s
  | none =>
    match s.inner.receivedQueue.popFront (RouterRxItem.byteCost B) with
    | none => (s, .ok false)
    | some (item, rest) =>
      (do rxItem B w report item true; pure true)
        { s with inner := { s.inner with receivedQueue := rest } }

/-- A turn of `process_tx_queue_with_timeout_impl`. -/
def txTurn : RouterProgram S Bool := do
  processTimeouts B w
  sendOne B w report

/-- A turn of `process_all_queues_with_timeout_impl`. -/
def allTurn (isr : Option (RouterRxItem S)) : RouterProgram S Bool := do
  processTimeouts B w
  let sent ← sendOne B w report
  let received ← receiveOne B w report isr
  pure (sent || received)

end Turns

section Sends

/-- `txBroadcast` up to its sends. -/
def broadcastSides (data : RouterItem S) (ignoreLocal : Bool) : RouterProgram S (List Nat) := do
  let fresh ← localPass B w report data ignoreLocal
  if fresh then do
    Program.of (checkItem B data)
    let sendRemote ← shouldRouteRemote B w data none
    if sendRemote then do
      let ty ← Program.of (itemType B data)
      let sides ← remoteSidePlan B w data none
      record (.forwarded none data sides)
      trackEndToEnd B w data ty sides ignoreLocal
      pure sides
    else pure []
  else pure []

/-- `txToSide` up to its send. -/
def allowedSides (src : Option Nat) (dst : Nat) (data : RouterItem S) (ignoreLocal : Bool) :
    RouterProgram S (List Nat) := do
  let fresh ← localPass B w report data ignoreLocal
  if fresh then do
    let ty ← Program.of (itemType B data)
    let s ← Program.read
    pure (if s.inner.routeAllowed s.table src (some ty) dst then [dst] else [])
  else pure []

/-- `txEndToEndReplay` up to its sends. -/
def replaySides (packetId : UInt64) : RouterProgram S (Option (RouterItem S × List Nat)) := do
  let found ← endToEndRetransmitSides w packetId
  match found with
  | none => pure none
  | some (data, sides) => do
    let sides ← retransmitSides B w data sides
    pure (some (data, sides))

/-- The sends of a replay, if there is something to replay. -/
def sendFound : Option (RouterItem S × List Nat) → RouterProgram S Unit
  | none => pure ()
  | some (data, sides) => sendToSides B w report data sides

/-- A send, and the item back on the queue where the side was busy. -/
def sendOrPutBack (src : Option Nat) (data : RouterItem S) (dst : Nat) : RouterProgram S Unit := do
  let sent ← trySend B w report data dst
  if sent then pure () else txQueueItemWithFlags B (.toSide src dst data) true

theorem txBroadcast_eq (data : RouterItem S) (ignoreLocal : Bool) :
    txBroadcast B w report data ignoreLocal =
      (broadcastSides B w report data ignoreLocal >>= sendToSides B w report data) := by
  unfold txBroadcast broadcastSides
  rw [Program.bind_assoc]
  congr 1
  funext fresh
  cases fresh with
  | false => rfl
  | true =>
    simp only [if_true, Program.bind_assoc]
    congr 1
    funext _
    congr 1
    funext sendRemote
    cases sendRemote with
    | false => rfl
    | true =>
      simp only [if_true, Program.bind_assoc]
      rfl

theorem txToSide_apply (src : Option Nat) (dst : Nat) (data : RouterItem S) (ignoreLocal : Bool)
    (s : RouterState S) :
    txToSide B w report src dst data ignoreLocal s =
      (allowedSides B w report src dst data ignoreLocal >>= fun sides =>
        Program.forEach (sendOrPutBack B w report src data) sides) s := by
  unfold txToSide allowedSides
  rw [Program.bind_assoc]
  refine Program.bind_congr_apply rfl fun fresh => ?_
  cases fresh with
  | false => rfl
  | true =>
    simp only [if_true, Program.bind_assoc]
    refine congrArg _ (funext fun ty => ?_)
    funext t
    rw [Program.read_bind_apply, Program.read_bind_apply, Program.pure_bind_apply]
    split
    · exact (Program.bind_pure_unit_apply _ t).symm
    · rfl

theorem txEndToEndReplay_eq (packetId : UInt64) :
    txEndToEndReplay B w report packetId =
      (replaySides B w packetId >>= sendFound B w report) := by
  unfold txEndToEndReplay replaySides
  rw [Program.bind_assoc]
  congr 1
  funext found
  cases found with
  | none => rfl
  | some found =>
    obtain ⟨data, sides⟩ := found
    simp only [Program.bind_assoc]
    rfl

variable {B w report} {plans : Option Nat → Prop} {inv stop : RouterState S → Prop}
  (h : LocalGuards B w report plans inv stop)
include h

/-- Up to its sends, an item is handled and routed. -/
theorem broadcastSides_triple (hnone : plans none) (data : RouterItem S) (ignoreLocal : Bool) :
    Program.Triple inv (broadcastSides B w report data ignoreLocal) (fun _ => inv) stop := by
  refine (localPass_triple h data ignoreLocal).bind fun fresh => .ite ?_ (.pure fun _ hs => hs)
  refine (Program.Triple.of _ h.le).bind fun _ => ?_
  refine ((keeps_shouldRouteRemote h.keeps hnone data).triple_of_le h.le).bind fun remote => ?_
  refine .ite ((Program.Triple.of _ h.le).bind fun ty => ?_) (.pure fun _ hs => hs)
  have hplan := keeps_remoteSidePlan h.keeps hnone data
  have hrest : ∀ sides, Program.Keeps inv (do
      record (.forwarded none data sides)
      trackEndToEnd B w data ty sides ignoreLocal
      pure sides) := fun sides =>
    (keeps_forwarded h.keeps hnone data sides).bind fun _ =>
      (keeps_trackEndToEnd h.keeps data ty sides ignoreLocal).bind fun _ => .pure _
  exact (hplan.bind hrest).triple_of_le h.le

theorem allowedSides_triple (src : Option Nat) (dst : Nat) (data : RouterItem S)
    (ignoreLocal : Bool) :
    Program.Triple inv (allowedSides B w report src dst data ignoreLocal) (fun _ => inv) stop := by
  refine (localPass_triple h data ignoreLocal).bind fun fresh => .ite ?_ (.pure fun _ hs => hs)
  refine (Program.Triple.of _ h.le).bind fun ty => ?_
  exact (Program.Keeps.read.bind fun _ => Program.Keeps.pure _).triple_of_le h.le

end Sends

section Popped

/-- `tx_item_impl` up to its sends: the source, the packet and the sides it goes to. Hop
replays have none of these. -/
def plannedSides (queued : TxQueued S) :
    RouterProgram S (Option (Option Nat × RouterItem S × List Nat)) :=
  match queued.item with
  | .broadcast data => do
    let sides ← broadcastSides B w report data queued.ignoreLocal
    pure (some (none, data, sides))
  | .toSide src dst data => do
    let sides ← allowedSides B w report src dst data queued.ignoreLocal
    pure (some (src, data, sides))
  | .endToEndReplay packetId => do
    let found ← replaySides B w packetId
    pure (found.map fun (data, sides) => (none, data, sides))
  | .reliableReplay _ _ => pure none

/-- The sends of a packet, one after the other: every side takes it. -/
inductive SendsAll (data : RouterItem S) : List Nat → RouterState S → RouterState S → Prop
  | nil (s : RouterState S) : SendsAll data [] s s
  | cons {side : Nat} {rest : List Nat} {s s' s'' : RouterState S}
      (hsent : sendReliableToSide B w side data s = (s', .ok ()))
      (hrest : SendsAll data rest s' s'') : SendsAll data (side :: rest) s s''

/-- A hop replay that its side takes, or that has nothing to replay any more. -/
def ReplayTaken (dst : Nat) (bytes : List UInt8) (s : RouterState S) : Prop :=
  ∃ frame, peekFrameInfo B S bytes = .ok frame ∧ ∀ hdr, frame.reliable = some hdr →
    hdr.seq ∈ (s.inner.reliableTx.at ⟨dst, frame.envelope.ty⟩).sent →
      s.inner.sendReliableRawToSide B (w.sideTx s.events.length dst) dst bytes = .ok ()

/-- The item, popped from the queue of `s`, is taken by its handlers and by every side it is
to go to. -/
def TakenByAll (queued : TxQueued S) (s : RouterState S) : Prop :=
  match queued.item with
  | .reliableReplay dst bytes => ReplayTaken B w dst bytes s
  | _ => ∃ t plan, plannedSides B w report queued s = (t, .ok plan) ∧
      ∀ src data sides, plan = some (src, data, sides) → ∃ s', SendsAll B w data sides t s'

/-- It is taken by the first of its sides, and waits in the queue for the others. -/
def WaitsIn (waiting : List (TxQueued S)) (queued : TxQueued S) (s : RouterState S) : Prop :=
  match queued.item with
  | .reliableReplay dst bytes => ∃ again ∈ waiting, again.item = .reliableReplay dst bytes
  | _ => ∃ t src data taken side rest s',
      plannedSides B w report queued s = (t, .ok (some (src, data, taken ++ side :: rest))) ∧
      SendsAll B w data taken t s' ∧
      ∀ later ∈ side :: rest, ∃ again ∈ waiting, again.item = .toSide src later data

variable {B w report} {data : RouterItem S} {sides : List Nat} {queued : TxQueued S}
  {s s' t : RouterState S}

theorem trySend_of_taken {side : Nat} (h : sendReliableToSide B w side data s = (s', .ok ())) :
    trySend B w report data side s = (s', .ok true) := by
  unfold trySend
  rw [h]
  rfl

theorem SendsAll.sendToSides (h : SendsAll B w data sides s s') :
    sendToSides B w report data sides s = (s', .ok ()) := by
  induction h with
  | nil => rfl
  | cons hsent _ ih =>
    rw [RouterProgram.sendToSides, Program.bind_apply_of_ok (trySend_of_taken hsent), if_pos rfl]
    exact ih

theorem SendsAll.forEach_sendOrPutBack (h : SendsAll B w data sides s s') (src : Option Nat) :
    Program.forEach (sendOrPutBack B w report src data) sides s = (s', .ok ()) := by
  induction h with
  | nil => rfl
  | @cons side rest s s' s'' hsent _ ih =>
    have hfirst : sendOrPutBack B w report src data side s = (s', .ok ()) := by
      rw [sendOrPutBack, Program.bind_apply_of_ok (trySend_of_taken hsent), if_pos rfl]
      rfl
    rw [Program.forEach, Program.bind_apply_of_ok hfirst]
    exact ih

/-- What all sides take is done. -/
theorem txItemImpl_of_sendsAll {src : Option Nat}
    (hplan : plannedSides B w report queued s = (t, .ok (some (src, data, sides))))
    (hsends : SendsAll B w data sides t s') :
    txItemImpl B w report queued.item queued.ignoreLocal s = (s', .ok ()) := by
  obtain ⟨item, ignoreLocal, priority⟩ := queued
  cases item with
  | broadcast data' =>
    obtain ⟨u, sides', hsides, hrest⟩ := Program.bind_apply_eq_ok.mp hplan
    obtain ⟨rfl, heq⟩ := Prod.mk.inj hrest
    cases heq
    show txBroadcast B w report data ignoreLocal s = (s', .ok ())
    rw [txBroadcast_eq, Program.bind_apply_of_ok hsides]
    exact hsends.sendToSides
  | toSide src' dst data' =>
    obtain ⟨u, sides', hsides, hrest⟩ := Program.bind_apply_eq_ok.mp hplan
    obtain ⟨rfl, heq⟩ := Prod.mk.inj hrest
    cases heq
    show txToSide B w report src dst data ignoreLocal s = (s', .ok ())
    rw [txToSide_apply, Program.bind_apply_of_ok hsides]
    exact hsends.forEach_sendOrPutBack src
  | endToEndReplay packetId =>
    obtain ⟨u, found, hfound, hrest⟩ := Program.bind_apply_eq_ok.mp hplan
    obtain ⟨rfl, heq⟩ := Prod.mk.inj hrest
    obtain ⟨⟨data', sides'⟩, rfl, heq⟩ := Option.map_eq_some_iff.mp (Except.ok.inj heq)
    cases heq
    show txEndToEndReplay B w report packetId s = (s', .ok ())
    rw [txEndToEndReplay_eq, Program.bind_apply_of_ok hfound]
    exact hsends.sendToSides
  | reliableReplay dst bytes => cases (Prod.mk.inj hplan).2

/-- A replay of a packet that is tracked no more sends nothing. -/
theorem txItemImpl_of_none (hkind : ∀ dst bytes, queued.item ≠ .reliableReplay dst bytes)
    (hplan : plannedSides B w report queued s = (t, .ok none)) :
    txItemImpl B w report queued.item queued.ignoreLocal s = (t, .ok ()) := by
  obtain ⟨item, ignoreLocal, priority⟩ := queued
  cases item with
  | broadcast data' =>
    obtain ⟨u, sides', hsides, hrest⟩ := Program.bind_apply_eq_ok.mp hplan
    cases (Prod.mk.inj hrest).2
  | toSide src' dst data' =>
    obtain ⟨u, sides', hsides, hrest⟩ := Program.bind_apply_eq_ok.mp hplan
    cases (Prod.mk.inj hrest).2
  | endToEndReplay packetId =>
    obtain ⟨u, found, hfound, hrest⟩ := Program.bind_apply_eq_ok.mp hplan
    obtain ⟨rfl, heq⟩ := Prod.mk.inj hrest
    have hnone : found = none := Option.map_eq_none_iff.mp (Except.ok.inj heq)
    subst hnone
    show txEndToEndReplay B w report packetId s = (u, .ok ())
    rw [txEndToEndReplay_eq, Program.bind_apply_of_ok hfound]
    rfl
  | reliableReplay dst bytes => exact absurd rfl (hkind dst bytes)

end Popped
end RouterProgram

/-- The drains. -/
inductive RouterDrain where
  /-- `process_tx_queue`. -/
  | tx
  /-- `process_all_queues`, and `periodic` behind its polls. -/
  | all
  deriving DecidableEq, Repr

namespace RouterDrain
variable (B : Build) {S : Schema} (depth : Nat)

def takeTurn (turn : RouterTurn S) : RouterDrain → RouterProgram S Bool
  | .tx => RouterProgram.txTurn B turn.world (RouterProgram.reportError B turn.world depth)
  | .all =>
    RouterProgram.allTurn B turn.world (RouterProgram.reportError B turn.world depth) turn.isr

/-- A drain for as many turns as there are. -/
def run (drain : RouterDrain) (turns : List (RouterTurn S)) : RouterProgram S Bool :=
  Program.loop (fun turn => drain.takeTurn B depth turn) turns

end RouterDrain
end Sedsprintf
