import Sedsprintf.Reliable.Reorder
import Sedsprintf.Lib.Runs

/-!
# One ordered stream between two parties

A sender and a receiver of one reliable type over a channel that may lose,
duplicate, delay and reorder frames of either direction. Each action is one call
of the source on the stream, or one thing the channel or the shared queue budget
does. The last four fields of the state are history variables: nothing reads
them.
-/
namespace Sedsprintf

open Lib

/-- `ReliableAck`, `ReliablePartialAck` and `ReliablePacketRequest` frames. -/
inductive Control where
  | ack (seq : UInt32)
  | partialAck (seq : UInt32)
  | request (seq : UInt32)
  deriving DecidableEq, Repr

structure Link where
  tx : ReliableTxState
  /-- `ReliableReplay` items of the stream in the transmit queue. -/
  replays : List (List UInt8)
  rx : ReliableRxState
  /-- Frames in flight to the receiver, and control frames in flight back. -/
  data : List (List UInt8)
  control : List Control
  /-- The frame built for each number, from 1 on. -/
  assigned : List (List UInt8)
  /-- What went into the release list, in order. -/
  released : List (List UInt8)
  acksQueued : List UInt32
  /-- Numbers whose buffered frame the budget or the cap dropped. -/
  evicted : List UInt32

namespace Link

def initial : Link := ⟨.fresh, [], .fresh, [], [], [], [], [], []⟩

/-- What `send_reliable_raw_to_side` answers to a replay. -/
inductive ReplayOutcome where
  | sent
  | busy
  | failed
  deriving DecidableEq, Repr

inductive Action (S : Schema) where
  /-- `send_reliable_to_side`; `copies` of the frame reach the channel if the gate
  was free, also when the handler reports a failure. -/
  | send (data : RouterItem S) (gateFree : Bool) (transmit : Outcome Unit) (now : UInt64)
      (copies : Nat)
  /-- The channel hands over its `i`-th frame, and may keep a duplicate. -/
  | deliverData (i : Nat) (keep : Bool)
  | loseData (i : Nat)
  | deliverControl (i : Nat) (keep : Bool)
  | loseControl (i : Nat)
  /-- `process_reliable_timeouts`; the transmit queue takes `room` replays before
  it refuses one. -/
  | timeouts (now : UInt64) (room : Nat)
  /-- A `ReliableReplay` item is processed. -/
  | replay (i : Nat) (outcome : ReplayOutcome) (now : UInt64) (copies : Nat)
  /-- A queued replay is refused, evicted or cleared. -/
  | dropReplay (i : Nat)
  /-- `pop_reliable_rx_buffered` hits this stream. -/
  | evict

section Steps
variable (B : Build) (S : Schema) (ty : S.DataType)

def send (l : Link) (data : RouterItem S) (gateFree : Bool) (transmit : Outcome Unit)
    (now : UInt64) (copies : Nat) : Option Link :=
  let sent := sendNumbered B S "router reliable history full" ty data gateFree
    (fun _ => transmit) now l.tx
  match sent.frame with
  | some bytes =>
    some { l with
      tx := sent.tx
      data := l.data ++ (if gateFree then List.replicate copies bytes else [])
      assigned := l.assigned ++ [bytes] }
  | none =>
    -- a full history changes nothing; otherwise the encoder panicked
    if (l.tx.allocate B).isNone then some l else none

/-- `rx_item` on a frame with a reliable header, up to the release list. -/
def receive (l : Link) (hdr : ReliableHeader) (bytes : List UInt8) : Link :=
  if hdr.flags &&& reliableFlagUnsequenced ≠ 0 then l
  else if hdr.flags &&& reliableFlagUnordered ≠ 0 then
    { l with control := l.control ++ [.ack hdr.seq], acksQueued := l.acksQueued ++ [hdr.seq] }
  else
    match l.rx.arrive hdr.seq bytes with
    | (rx, .old ack) =>
      { l with
        rx := rx
        control := l.control ++ [.ack ack]
        acksQueued := l.acksQueued ++ [ack] }
    | (rx, .early partialAck request) =>
      { l with
        rx := rx.bufferReliableRx B hdr.seq bytes
        control := l.control ++ [.partialAck partialAck, .request request]
        evicted := l.evicted ++ (rx.capVictim B hdr.seq).toList }
    | (rx, .released frames ack) =>
      { l with
        rx := rx
        control := l.control ++ [.ack ack]
        released := l.released ++ frames
        acksQueued := l.acksQueued ++ [ack] }

def deliverData (l : Link) (i : Nat) (keep : Bool) : Option Link :=
  match l.data[i]? with
  | none => none
  | some bytes =>
    match peekFrameInfo B S bytes with
    | .ok ⟨_, some hdr⟩ =>
      some (({ l with data := if keep then l.data else l.data.eraseIdx i }).receive B hdr bytes)
    | _ => none

/-- `queue_reliable_retransmit`. -/
def retransmit (l : Link) (seq : UInt32) : Link :=
  let (tx, bytes) := l.tx.queueReliableRetransmit seq
  { l with tx := tx, replays := l.replays ++ bytes.toList }

def handleControl (l : Link) : Control → Link
  | .ack seq => { l with tx := l.tx.handleReliableAck S ty seq }
  | .partialAck seq => { l with tx := l.tx.handleReliablePartialAck seq }
  | .request seq => l.retransmit seq

def deliverControl (l : Link) (i : Nat) (keep : Bool) : Option Link :=
  match l.control[i]? with
  | none => none
  | some frame =>
    some (({ l with control := if keep then l.control else l.control.eraseIdx i }).handleControl
      S ty frame)

def timeouts (l : Link) (now : UInt64) (room : Nat) : Link :=
  let (tx, again) := ReliableTxState.timeoutScan B now l.tx l.tx.sentOrder
  let (tx, bytes) := tx.requeue room again
  { l with tx := tx, replays := l.replays ++ bytes }

/-- `tx_item_impl` on `ReliableReplay`. -/
def replay (l : Link) (i : Nat) (outcome : ReplayOutcome) (now : UInt64) (copies : Nat) :
    Option Link :=
  match l.replays[i]? with
  | none => none
  | some bytes =>
    let l := { l with replays := l.replays.eraseIdx i }
    match peekFrameInfo B S bytes with
    | .ok ⟨_, some hdr⟩ =>
      if hdr.seq ∈ l.tx.sent then
        match outcome with
        | .sent => some { l with
            tx := l.tx.markReplayed hdr.seq now
            data := l.data ++ List.replicate copies bytes }
        | .busy => some { l with replays := l.replays ++ [bytes] }
        | .failed => some { l with data := l.data ++ List.replicate copies bytes }
      else some l
    | _ => some l

def evictBuffered (l : Link) : Link :=
  match OrdMap.popFirst l.rx.buffered with
  | none => l
  | some ((seq, _), rest) =>
    { l with rx := { l.rx with buffered := rest }, evicted := l.evicted ++ [seq] }

def step (l : Link) : Action S → Option Link
  | .send data gateFree transmit now copies =>
    if data.OfType B ty then l.send B S ty data gateFree transmit now copies else none
  | .deliverData i keep => l.deliverData B S i keep
  | .loseData i => some { l with data := l.data.eraseIdx i }
  | .deliverControl i keep => l.deliverControl S ty i keep
  | .loseControl i => some { l with control := l.control.eraseIdx i }
  | .timeouts now room => some (l.timeouts B now room)
  | .replay i outcome now copies => l.replay B S i outcome now copies
  | .dropReplay i => some { l with replays := l.replays.eraseIdx i }
  | .evict => some l.evictBuffered

end Steps

section Effects
variable {B : Build} {S : Schema} {ty : S.DataType} {l l' : Link} {a : Action S}

/-- The timeout scan of this action gives up frame `seq`. -/
def GivesUp (B : Build) (l : Link) (a : Action S) (seq : UInt32) : Prop :=
  ∃ now room s, a = .timeouts now room ∧ l.tx.sent[seq]? = some s ∧
    ReliableTxState.timedOut B now s = none

/-- A step of the sender or the channel that numbers no frame and reaches no
receiver. -/
structure SenderMove (B : Build) (S : Schema) (ty : S.DataType) (a : Action S) (l l' : Link) :
    Prop where
  tx : ∃ flagged, l'.tx.Inherits flagged l.tx ∧ ∀ seq ∈ flagged, .partialAck seq ∈ l.control
  removed : l.tx.sentOrder.Nodup → ∀ seq ∈ l.tx.sent, seq ∉ l'.tx.sent →
    (∃ ack, .ack ack ∈ l.control ∧ seq ≤ ack) ∨ GivesUp B l a seq
  consistent : l.tx.Consistent B S ty → l'.tx.Consistent B S ty
  replays : ∀ bytes ∈ l'.replays, bytes ∈ l.replays ∨
    ∃ (seq : UInt32) (s : ReliableSent), l.tx.sent[seq]? = some s ∧ s.bytes = bytes
  data : ∀ bytes ∈ l'.data, bytes ∈ l.data ∨ bytes ∈ l.replays
  control : ∀ frame ∈ l'.control, frame ∈ l.control
  rx : l'.rx = l.rx
  assigned : l'.assigned = l.assigned
  released : l'.released = l.released
  acksQueued : l'.acksQueued = l.acksQueued
  evicted : l'.evicted = l.evicted

/-- Everything a step can do. -/
inductive Effect (B : Build) (S : Schema) (ty : S.DataType) (l : Link) : Action S → Link → Prop
  | numbered {data : RouterItem S} {gateFree : Bool} {transmit : Outcome Unit} {now : UInt64}
      {copies : Nat} {seq : UInt32} {tx' tx'' : ReliableTxState} {bytes : List UInt8}
      {flight : List (List UInt8)} (halloc : l.tx.allocate B = some (seq, tx'))
      (hcarries : Carries B S ty ⟨reliableFlags S ty, seq, 0⟩ bytes)
      (htx : ((∃ e, throughGate gateFree transmit = .error e) ∧ tx'' = tx') ∨
        (throughGate gateFree transmit = .ok () ∧ tx'' = tx'.record seq bytes now))
      (hflight : ∀ b ∈ flight, b ∈ l.data ∨ b = bytes) :
      Effect B S ty l (.send data gateFree transmit now copies)
        { l with tx := tx'', data := flight, assigned := l.assigned ++ [bytes] }
  | received {i : Nat} {keep : Bool} {bytes : List UInt8} {env : TelemetryEnvelope S}
      {hdr : ReliableHeader} {flight : List (List UInt8)} (hget : l.data[i]? = some bytes)
      (hpeek : peekFrameInfo B S bytes = .ok ⟨env, some hdr⟩)
      (hflight : ∀ b ∈ flight, b ∈ l.data) :
      Effect B S ty l (.deliverData i keep) (({ l with data := flight }).receive B hdr bytes)
  | evicted : Effect B S ty l .evict l.evictBuffered
  | sender {a : Action S} {l' : Link} (move : SenderMove B S ty a l l') : Effect B S ty l a l'

theorem SenderMove.refl (l : Link) : SenderMove B S ty a l l :=
  ⟨⟨[], .refl _, by simp⟩, fun _ _ hmem hgone => absurd hmem hgone, id, fun _ h => .inl h,
    fun _ h => .inl h, fun _ h => h, rfl, rfl, rfl, rfl, rfl⟩

theorem effect_send {data : RouterItem S} {gateFree : Bool} {transmit : Outcome Unit}
    {now : UInt64} {copies : Nat} (hty : S.isReliableType ty = true) (hdata : data.OfType B ty)
    (h : l.send B S ty data gateFree transmit now copies = some l') :
    Effect B S ty l (.send data gateFree transmit now copies) l' := by
  have hflight (bytes : List UInt8) :
      ∀ b ∈ l.data ++ (if gateFree then List.replicate copies bytes else []),
        b ∈ l.data ∨ b = bytes := by
    intro b hb
    rcases List.mem_append.mp hb with hb | hb
    · exact .inl hb
    · split at hb
      · exact .inr (List.eq_of_mem_replicate hb)
      · cases hb
  unfold send at h
  rcases @sendNumbered_cases B S ty "router reliable history full" data gateFree
      (fun _ => transmit) now l.tx hdata hty with
    ⟨halloc, hsend⟩ | ⟨seq, tx', halloc, ⟨e, -, hsend⟩ | ⟨bytes, -, hcarries, hout⟩⟩
  · simp only [hsend, halloc, Option.isNone_none, if_true, Option.some.injEq] at h
    subst h
    exact .sender (.refl l)
  · simp [hsend, halloc] at h
  · rcases hout with ⟨e, hgate, hsend⟩ | ⟨hgate, hsend⟩
    · simp only [hsend, Option.some.injEq] at h
      subst h
      exact .numbered halloc hcarries (.inl ⟨⟨e, hgate⟩, rfl⟩) (hflight bytes)
    · simp only [hsend, Option.some.injEq] at h
      subst h
      exact .numbered halloc hcarries (.inr ⟨hgate, rfl⟩) (hflight bytes)

theorem effect_deliverData {i : Nat} {keep : Bool} (h : l.deliverData B S i keep = some l') :
    Effect B S ty l (.deliverData i keep) l' := by
  unfold deliverData at h
  split at h
  · cases h
  · rename_i bytes hget
    split at h
    · rename_i env hdr hpeek
      obtain rfl := Option.some.inj h
      refine .received hget hpeek fun b hb => ?_
      split at hb
      · exact hb
      · exact List.mem_of_mem_eraseIdx hb
    · cases h

theorem effect_deliverControl {i : Nat} {keep : Bool} (hmode : S.reliableMode ty = .ordered)
    (h : l.deliverControl S ty i keep = some l') :
    Effect B S ty l (.deliverControl i keep) l' := by
  unfold deliverControl at h
  split at h
  · cases h
  · rename_i frame hget
    obtain rfl := Option.some.inj h
    have hmem : frame ∈ l.control := List.mem_of_getElem? hget
    have hcontrol : ∀ c ∈ (if keep then l.control else l.control.eraseIdx i), c ∈ l.control := by
      intro c hc
      split at hc
      · exact hc
      · exact List.mem_of_mem_eraseIdx hc
    refine .sender ?_
    cases frame with
    | ack seq =>
      exact {
        tx := ⟨[], l.tx.handleReliableAck_inherits ty seq, by simp⟩
        removed := fun _ q hq hgone =>
          .inl ⟨seq, hmem, ReliableTxState.handleReliableAck_removed hmode hq hgone⟩
        consistent := fun hc => hc.handleReliableAck seq
        replays := fun _ hb => .inl hb
        data := fun _ hb => .inl hb
        control := hcontrol
        rx := rfl, assigned := rfl, released := rfl, acksQueued := rfl, evicted := rfl }
    | partialAck seq =>
      exact {
        tx := ⟨[seq], l.tx.handleReliablePartialAck_inherits seq, fun q hq => by
          rwa [List.mem_singleton.mp hq]⟩
        removed := fun _ q hq hgone => absurd (Std.ExtTreeMap.mem_modify.mpr hq) hgone
        consistent := fun hc => hc.handleReliablePartialAck seq
        replays := fun _ hb => .inl hb
        data := fun _ hb => .inl hb
        control := hcontrol
        rx := rfl, assigned := rfl, released := rfl, acksQueued := rfl, evicted := rfl }
    | request seq =>
      exact {
        tx := ⟨[], l.tx.queueReliableRetransmit_inherits seq, by simp⟩
        removed := fun _ q hq hgone =>
          absurd ((l.tx.queueReliableRetransmit_mem seq q).mpr hq) hgone
        consistent := fun hc => hc.queueReliableRetransmit seq
        replays := fun b hb => by
          rcases List.mem_append.mp hb with hb | hb
          · exact .inl hb
          · obtain ⟨s, hs, hbytes, -⟩ :=
              ReliableTxState.queueReliableRetransmit_bytes (Option.mem_toList.mp hb)
            exact .inr ⟨seq, s, hs, hbytes⟩
        data := fun _ hb => .inl hb
        control := hcontrol
        rx := rfl, assigned := rfl, released := rfl, acksQueued := rfl, evicted := rfl }

theorem effect_timeouts (l : Link) (now : UInt64) (room : Nat) :
    SenderMove B S ty (.timeouts now room) l (l.timeouts B now room) := by
  have hscan := l.tx.timeoutScan_inherits (B := B) now l.tx.sentOrder
  have hqueue := @ReliableTxState.requeue_spec B S ty
    (ReliableTxState.timeoutScan B now l.tx l.tx.sentOrder).1 room
    (ReliableTxState.timeoutScan B now l.tx l.tx.sentOrder).2
  refine {
    tx := ⟨[], hqueue.inherits.trans hscan, by simp⟩
    removed := fun hnodup q hq hgone => .inr ?_
    consistent := fun hc => hqueue.consistent (hc.timeoutScan now l.tx.sentOrder)
    replays := fun b hb => ?_
    data := fun _ hb => .inl hb
    control := fun _ hc => hc
    rx := rfl, assigned := rfl, released := rfl, acksQueued := rfl, evicted := rfl }
  · -- the requeue loop drops nothing, so the scan did
    obtain ⟨s, hs⟩ := OrdMap.mem_iff_get?.mp hq
    have hscanned : q ∉ (ReliableTxState.timeoutScan B now l.tx l.tx.sentOrder).1.sent :=
      fun hmem => hgone ((hqueue.mem q).mpr hmem)
    rw [OrdMap.mem_iff_get?, l.tx.timeoutScan_get now hnodup, hs] at hscanned
    refine ⟨now, room, s, rfl, hs, ?_⟩
    split at hscanned
    · rw [Option.bind_some] at hscanned
      exact Option.eq_none_iff_forall_not_mem.mpr fun s' hs' => hscanned ⟨s', hs'⟩
    · exact absurd ⟨s, rfl⟩ hscanned
  · rcases List.mem_append.mp hb with hb | hb
    · exact .inl hb
    · obtain ⟨q, s', hs', hbytes'⟩ := hqueue.bytes b hb
      obtain ⟨s, hs, hbytes, -⟩ := hscan.entry hs'
      exact .inr ⟨q, s, hs, hbytes ▸ hbytes'⟩

theorem effect_replay {i : Nat} {outcome : ReplayOutcome} {now : UInt64} {copies : Nat}
    (h : l.replay B S i outcome now copies = some l') :
    SenderMove B S ty (.replay i outcome now copies) l l' := by
  unfold replay at h
  split at h
  · cases h
  · rename_i bytes hget
    have hbytes : bytes ∈ l.replays := List.mem_of_getElem? hget
    have hrest : ∀ b ∈ l.replays.eraseIdx i, b ∈ l.replays := fun b hb =>
      List.mem_of_mem_eraseIdx hb
    have hflight : ∀ b ∈ l.data ++ List.replicate copies bytes, b ∈ l.data ∨ b ∈ l.replays := by
      intro b hb
      rcases List.mem_append.mp hb with hb | hb
      · exact .inl hb
      · rw [List.eq_of_mem_replicate hb]
        exact .inr hbytes
    have hdropped : SenderMove B S ty (.replay i outcome now copies) l
        { l with replays := l.replays.eraseIdx i } :=
      { SenderMove.refl l with replays := fun b hb => .inl (hrest b hb) }
    dsimp only at h
    split at h
    · rename_i env hdr hpeek
      split at h
      · cases outcome with
        | sent =>
          obtain rfl := Option.some.inj h
          exact { hdropped with
            tx := ⟨[], l.tx.markReplayed_inherits hdr.seq now, by simp⟩
            removed := fun _ q hq hgone => absurd (Std.ExtTreeMap.mem_modify.mpr hq) hgone
            consistent := fun hc => hc.markReplayed hdr.seq now
            data := hflight }
        | busy =>
          obtain rfl := Option.some.inj h
          refine { hdropped with replays := fun b hb => .inl ?_ }
          rcases List.mem_append.mp hb with hb | hb
          · exact hrest b hb
          · rwa [List.mem_singleton.mp hb]
        | failed =>
          obtain rfl := Option.some.inj h
          exact { hdropped with data := hflight }
      · obtain rfl := Option.some.inj h
        exact hdropped
    · obtain rfl := Option.some.inj h
      exact hdropped

section Receive
variable (l : Link) (hdr : ReliableHeader) (bytes : List UInt8)

@[simp] theorem receive_assigned : (l.receive B hdr bytes).assigned = l.assigned := by
  unfold receive
  split
  · rfl
  · split
    · rfl
    · split <;> rfl

@[simp] theorem receive_tx : (l.receive B hdr bytes).tx = l.tx := by
  unfold receive
  split
  · rfl
  · split
    · rfl
    · split <;> rfl

end Receive

@[simp] theorem evictBuffered_assigned (l : Link) : l.evictBuffered.assigned = l.assigned := by
  unfold evictBuffered
  split <;> rfl

@[simp] theorem evictBuffered_tx (l : Link) : l.evictBuffered.tx = l.tx := by
  unfold evictBuffered
  split <;> rfl

/-- Numbers are only ever added. -/
theorem Effect.assigned_grows (h : Effect B S ty l a l') : l.assigned <+: l'.assigned := by
  cases h with
  | numbered => exact List.prefix_append _ _
  | received => simp
  | evicted => simp
  | sender move => simp [move.assigned]

/-- A step has one of the four effects. -/
theorem effect_of_step (hmode : S.reliableMode ty = .ordered)
    (h : l.step B S ty a = some l') : Effect B S ty l a l' := by
  have hty : S.isReliableType ty = true := by simp [Schema.isReliableType, hmode]
  cases a with
  | send data gateFree transmit now copies =>
    simp only [step] at h
    split at h
    · rename_i hdata
      exact effect_send hty hdata h
    · cases h
  | deliverData i keep => exact effect_deliverData h
  | loseData i =>
    obtain rfl := Option.some.inj h
    exact .sender { SenderMove.refl l with
      data := fun b hb => .inl (List.mem_of_mem_eraseIdx hb) }
  | deliverControl i keep => exact effect_deliverControl hmode h
  | loseControl i =>
    obtain rfl := Option.some.inj h
    exact .sender { SenderMove.refl l with control := fun c hc => List.mem_of_mem_eraseIdx hc }
  | timeouts now room =>
    obtain rfl := Option.some.inj h
    exact .sender (effect_timeouts l now room)
  | replay i outcome now copies => exact .sender (effect_replay h)
  | dropReplay i =>
    obtain rfl := Option.some.inj h
    exact .sender { SenderMove.refl l with
      replays := fun b hb => .inl (List.mem_of_mem_eraseIdx hb) }
  | evict =>
    obtain rfl := Option.some.inj h
    exact .evicted

end Effects
end Link
end Sedsprintf
