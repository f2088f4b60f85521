import Sedsprintf.Router.Receive
import Sedsprintf.Router.Moves
import Sedsprintf.Relay.Receive
import Sedsprintf.Relay.Moves
import Sedsprintf.Wire.RoundTrip
import Sedsprintf.Reliable.HandOver

/-!
# Released frames behind their acknowledgement

An in-order frame is acknowledged together with the buffered frames it releases, and
the buffer is emptied, before the frame itself is looked up in `recent_rx` and
dispatched. Either can leave the call, and the frames behind it with it.
-/
namespace Sedsprintf

open Lib

/-- The frame reads as data of a reliable type. -/
def IsData (B : Build) (S : Schema) (bytes : List UInt8) : Prop :=
  ∃ envelope, peekEnvelope B S bytes = .ok envelope ∧ S.isReliableType envelope.ty = true ∧
    S.isReliableControlType envelope.ty = false

theorem IsData.itemPriority_eq {B : Build} {S : Schema} {bytes : List UInt8} (h : IsData B S bytes) :
    ∃ priority, itemPriority B (.serialized bytes : RouterItem S) = .ok priority := by
  obtain ⟨envelope, hpeek, -, -⟩ := h
  simp [itemPriority, hpeek]

theorem IsData.of_reliable {B : Build} {S : Schema} {bytes : List UInt8}
    {info : TelemetryFrameInfo S} (hpeek : peekFrameInfo B S bytes = .ok info)
    (hreliable : S.isReliableType info.envelope.ty = true) : IsData B S bytes := by
  refine ⟨info.envelope, peekEnvelope_of_peekFrameInfo hpeek, hreliable, ?_⟩
  by_contra hcontrol
  rw [Bool.not_eq_false] at hcontrol
  rw [S.control_not_reliable hcontrol] at hreliable
  cases hreliable

namespace RouterInner
variable {B : Build} {S : Schema}

/-- The id of the item is in `recent_rx`. -/
def Knows (B : Build) (st : RouterInner S) (data : RouterItem S) : Prop :=
  ∃ id, getHash B data = .ok id ∧ id ∈ st.recentRx.q

/-- `rx_item` takes the frame in order on its stream, releases `rest` from the buffer and
queues the acknowledgement for them all, which leaves `st'`. The released frames were read
as frames of the stream before they were buffered. -/
structure TakesInOrder (B : Build) (env : RouterEnv S) (st : RouterInner S) (src : Nat)
    (bytes : List UInt8) (priority : UInt8) (rest : List (List UInt8)) (st' : RouterInner S) :
    Prop where
  admitted : st.admitItem B ⟨some src, .serialized bytes, priority⟩ = .ok ()
  hop : ∃ s : Side, st.sides[src]?.join = some s ∧ s.txHandler = .serialized ∧
    st.hopReliable env src s = true
  taken : ∃ envelope hdr accepted ack,
    peekFrameInfo B S bytes = .ok ⟨envelope, some hdr⟩ ∧ S.isReliableType envelope.ty = true ∧
    hdr.unsequenced = false ∧ hdr.unordered = false ∧
    st.acceptOrdered B ⟨src, envelope.ty⟩ hdr.seq bytes =
      (accepted, .released (bytes :: rest) ack, .ok ()) ∧
    accepted.queueReliableControl B env S.reliableAck ⟨src, envelope.ty⟩ ack = (st', .ok ())
  read : ∀ frame ∈ rest, ∃ info, peekFrameInfo B S frame = .ok info ∧
    S.isReliableType info.envelope.ty = true

section Release
variable {env : RouterEnv S} {st st' : RouterInner S} {src : Nat} {bytes : List UInt8}
  {rest frames : List (List UInt8)} {priority : UInt8} {data : RouterItem S}

theorem TakesInOrder.rxItem_eq (h : TakesInOrder B env st src bytes priority rest st')
    (deliver : RouterInner S → RouterRxItem S → RouterInner S × Outcome Unit) :
    st.rxItem B { env with deliver := deliver } ⟨some src, .serialized bytes, priority⟩ =
      st'.handOver B { env with deliver := deliver } ⟨some src, .serialized bytes, priority⟩ rest := by
  obtain ⟨s, hside, hhandler, hhop⟩ := h.hop
  obtain ⟨envelope, hdr, accepted, ack, hpeek, hreliable, hsequenced, hordered, haccept, hack⟩ :=
    h.taken
  have hhop' : st.hopReliable { env with deliver := deliver } src s = true := hhop
  have hack' : accepted.queueReliableControl B { env with deliver := deliver } S.reliableAck
    ⟨src, envelope.ty⟩ ack = (st', .ok ()) := hack
  simp only [rxItem, h.admitted, receiveHop, sideRef, hside, okOr, hhop', hhandler, hpeek,
    HopReceiver.acceptFrame, HopReceiver.acceptSequenced, receiver, hreliable, hsequenced, hordered,
    haccept, hack', beq_self_eq_true, Bool.and_self, Bool.not_false, if_true, Bool.false_eq_true,
    if_false, Except.map, List.tail_cons]

theorem TakesInOrder.storeMoves (h : TakesInOrder B env st src bytes priority rest st') :
    StoreMoves B st st' := by
  obtain ⟨envelope, hdr, accepted, ack, -, -, -, -, haccept, hack⟩ := h.taken
  have haccepted : StoreMoves B st (st.acceptOrdered B ⟨src, envelope.ty⟩ hdr.seq bytes).1 :=
    .one (.accept st.stores ⟨src, envelope.ty⟩ hdr.seq bytes)
  rw [haccept] at haccepted
  refine haccepted.trans ?_
  unfold queueReliableControl at hack
  split at hack
  · cases (Prod.mk.inj hack).2
  · have hpushed := StoreMoves.pushTransmit (B := B) accepted
      ⟨.toSide none src (.packet ‹_›), true, S.messagePriority S.reliableAck⟩
    rw [hack] at hpushed
    exact hpushed

theorem TakesInOrder.recent_eq (h : TakesInOrder B env st src bytes priority rest st') :
    st'.recentRx.q = st.recentRx.q := by
  have hsame : st'.recentRx = st.recentRx := Stores.Move.recentRx_of_moves h.storeMoves
  rw [hsame]

/-- The covered frames are data. -/
theorem TakesInOrder.isData (h : TakesInOrder B env st src bytes priority rest st') :
    ∀ frame ∈ bytes :: rest, IsData B S frame := by
  intro frame hmem
  have hread : ∃ info, peekFrameInfo B S frame = .ok info ∧
      S.isReliableType info.envelope.ty = true := by
    rcases List.mem_cons.mp hmem with rfl | hrest
    · obtain ⟨envelope, hdr, -, -, hpeek, hreliable, -⟩ := h.taken
      exact ⟨_, hpeek, hreliable⟩
    · exact h.read frame hrest
  obtain ⟨info, hpeek, hreliable⟩ := hread
  exact .of_reliable hpeek hreliable

theorem isDuplicatePkt_eq_true_iff : (st.isDuplicatePkt B data).2 = .ok true ↔ st.Knows B data := by
  constructor
  · intro h
    cases hhash : getHash B data with
    | error e => simp [isDuplicatePkt, hhash] at h
    | ok id =>
      by_contra hnew
      exact isDuplicatePkt_ne_true hhash (fun hmem => hnew ⟨id, hhash, hmem⟩) h
  · rintro ⟨id, hhash, hmem⟩
    rw [isDuplicatePkt_of_mem hhash hmem]

theorem getHash_of_isDuplicatePkt {known : Bool} (h : (st.isDuplicatePkt B data).2 = .ok known) :
    ∃ id, getHash B data = .ok id := by
  cases hhash : getHash B data with
  | error e => simp [isDuplicatePkt, hhash] at h
  | ok id => exact ⟨id, rfl⟩

theorem recorded_of_isDuplicatePkt {id : UInt64} (hb : st.Budgeted B)
    (hmem : id ∈ (st.isDuplicatePkt B data).1.recentRx.q) :
    id ∈ st.recentRx.q ∨ getHash B data = .ok id := by
  rcases st.isDuplicatePkt_cases (B := B) data with heq | ⟨noted, hnoted, -, heq⟩
  · rw [heq] at hmem
    exact .inl hmem
  · rw [heq] at hmem
    rcases Stores.mem_pushRecentRx hb hmem with hold | ⟨rfl, -⟩
    · exact .inl hold
    · exact .inr hnoted

/-- The router's deduplication, and its items. -/
def frameReceiver (B : Build) (S : Schema) : FrameReceiver B S (RouterInner S) (RouterRxItem S) where
  hash bytes := getHash B (.serialized bytes : RouterItem S)
  recent st := st.recentRx.q
  isDuplicate st bytes := st.isDuplicatePkt B (.serialized bytes)
  data item := item.data
  sound st := st.Budgeted B
  forget st := { st with recentRx := { st.recentRx with q := [], curBytes := 0 } }
  isDuplicate_eq_true_iff _ _ := isDuplicatePkt_eq_true_iff
  answers_iff _ _ hb := isDuplicatePkt_answers_iff hb
  hash_of_answer _ _ _ h := getHash_of_isDuplicatePkt h
  recorded _ _ _ hb hmem := recorded_of_isDuplicatePkt hb hmem
  sound_isDuplicate st bytes hb := (st.isDuplicatePkt_keeps (.serialized bytes)).1.budgeted hb
  sound_forget _ hb := ⟨hb.accounted, hb.recentMax⟩
  recent_forget _ := rfl

/-- A router skips every duplicate. -/
theorem skips_eq :
    (frameReceiver B S).skips (fun _ => false) st bytes = st.isDuplicatePkt B (.serialized bytes) := by
  unfold FrameReceiver.skips frameReceiver
  dsimp only
  generalize st.isDuplicatePkt B (.serialized bytes) = checked
  obtain ⟨st', e | _ | _⟩ := checked
  · rfl
  · rfl
  · rfl

theorem dispatchRxData_of_isData (h : IsData B S bytes) (source : Option Nat) :
    st.dispatchRxData B env ⟨source, .serialized bytes, priority⟩ =
      env.deliver st ⟨source, .serialized bytes, priority⟩ := by
  obtain ⟨envelope, hpeek, -, hcontrol⟩ := h
  simp [dispatchRxData, hpeek, hcontrol]

theorem dispatchReleased_turns (hdata : ∀ frame ∈ frames, IsData B S frame) (source : Option Nat) :
    Turns ((frameReceiver B S).skips fun _ => false)
      (fun st frame priority => env.deliver st ⟨source, .serialized frame, priority⟩) st frames
      (st.dispatchReleased B env source frames).log := by
  induction frames generalizing st with
  | nil => exact .done
  | cons bytes rest ih =>
    have hbytes := hdata bytes List.mem_cons_self
    have ih' := fun st => @ih st fun frame hmem => hdata frame (List.mem_cons_of_mem _ hmem)
    obtain ⟨priority, hpriority⟩ := hbytes.itemPriority_eq
    unfold dispatchReleased
    dsimp only
    cases hcheck : st.isDuplicatePkt B (.serialized bytes) with
    | mk st' answer =>
      have hskips := @skips_eq B S st bytes
      rw [hcheck] at hskips
      rcases answer with e | _ | _
      · exact .refused (congrArg Prod.snd hskips)
      · simp only [hpriority, dispatchRxData_of_isData hbytes]
        cases hdeliver : env.deliver st' ⟨source, .serialized bytes, priority⟩ with
        | mk st'' result =>
          rcases result with e | ⟨⟨⟩⟩
          · exact .failed priority hskips (congrArg Prod.snd hdeliver)
          · exact .passed hskips hdeliver (ih' st'')
      · exact .known hskips (ih' st')

theorem handOver_logs (hdata : ∀ frame ∈ bytes :: rest, IsData B S frame) (source : Option Nat) :
    (frameReceiver B S).Logs (fun _ => false) (fun frame priority => ⟨source, .serialized frame, priority⟩)
      env.deliver st bytes rest
      (st.handOver B env ⟨source, .serialized bytes, priority⟩ rest).log := by
  rw [FrameReceiver.Logs, skips_eq]
  unfold handOver
  dsimp only
  cases hcheck : st.isDuplicatePkt B (.serialized bytes) with
  | mk st' answer =>
    have hskips := @skips_eq B S st bytes
    rw [hcheck] at hskips
    rcases answer with e | _ | _
    · exact ⟨nofun, fun _ => .refused (congrArg Prod.snd hskips)⟩
    · refine ⟨nofun, fun _ => ?_⟩
      simp only [dispatchRxData_of_isData (hdata bytes List.mem_cons_self)]
      cases hdeliver : env.deliver st' ⟨source, .serialized bytes, priority⟩ with
      | mk st'' result =>
        rcases result with e | ⟨⟨⟩⟩
        · exact .failed priority hskips (congrArg Prod.snd hdeliver)
        · exact .passed hskips hdeliver (dispatchReleased_turns (fun frame hmem =>
            hdata frame (List.mem_cons_of_mem _ hmem)) source)
    · exact ⟨fun _ => rfl, fun h => absurd rfl h⟩

variable (hkept : st.Kept B) (hrecords : st.recentRx.q ≠ [] → B.RecordsIds)
  (h : TakesInOrder B env st src bytes priority rest st')
include hkept hrecords h

theorem covers_iff (answer : List UInt8 → Outcome Unit) :
    (∀ deliver, (frameReceiver B S).Answers deliver answer →
        (st.rxItem B { env with deliver := deliver } ⟨some src, .serialized bytes, priority⟩).Covers
          (st.Knows B) (bytes :: rest)) ↔
      (frameReceiver B S).HandsOn st bytes rest (fun _ => false) answer := by
  simp only [h.rxItem_eq]
  exact FrameReceiver.covers_iff (hkept.moves h.storeMoves).toBudgeted h.recent_eq hrecords
    (fun _ _ => rfl) (fun deliver => @handOver_logs B S { env with deliver := deliver } st' bytes
      rest priority h.isData (some src)) answer

theorem covers_iff_of_failsNew {deliver : RouterInner S → RouterRxItem S → RouterInner S × Outcome Unit}
    {answer : List UInt8 → Outcome Unit} (hanswers : (frameReceiver B S).Answers deliver answer)
    (hleaves : ∀ (st : RouterInner S) item, (deliver st item).1.recentRx = st.recentRx)
    (hfails : (frameReceiver B S).FailsNew st (fun _ => false) answer (bytes :: rest)) :
    (st.rxItem B { env with deliver := deliver } ⟨some src, .serialized bytes, priority⟩).Covers
        (st.Knows B) (bytes :: rest) ↔
      (frameReceiver B S).HandsOn st bytes rest (fun _ => false) answer := by
  rw [h.rxItem_eq]
  exact FrameReceiver.covers_iff_of_failsNew (hkept.moves h.storeMoves).toBudgeted h.recent_eq hrecords
    (fun _ _ => rfl) (fun deliver => @handOver_logs B S { env with deliver := deliver } st' bytes
      rest priority h.isData (some src)) hanswers
    (fun st item => congrArg BoundedDeque.q (hleaves st item)) hfails

end Release
end RouterInner

namespace RelayInner
variable {B : Build} {S : Schema}

/-- The id of the item is in `recent_rx`. -/
def Knows (B : Build) (st : RelayInner S) (data : RouterItem S) : Prop :=
  ∃ id, getHash B data = .ok id ∧ id ∈ st.recentRx.q

/-- `process_rx_queue_item` takes the frame in order on its stream, releases `rest` from
the buffer and queues the acknowledgement for them all, which leaves `st'`. The released
frames were read as frames of the stream before they were buffered. -/
structure TakesInOrder (B : Build) (env : RelayEnv S) (st : RelayInner S) (src : Nat)
    (bytes : List UInt8) (priority : UInt8) (rest : List (List UInt8)) (st' : RelayInner S) :
    Prop where
  admitted : st.admitItem B ⟨src, .serialized bytes, priority⟩ = .ok ()
  hop : ∃ s : Side, st.sides[src]?.join = some s ∧ s.txHandler = .serialized ∧
    st.hopReliable env src s = true
  taken : ∃ envelope hdr accepted ack,
    peekFrameInfo B S bytes = .ok ⟨envelope, some hdr⟩ ∧ S.isReliableType envelope.ty = true ∧
    hdr.unsequenced = false ∧ hdr.unordered = false ∧
    st.acceptOrdered B ⟨src, envelope.ty⟩ hdr.seq bytes =
      (accepted, .released (bytes :: rest) ack, .ok ()) ∧
    accepted.queueReliableControl B env S.reliableAck ⟨src, envelope.ty⟩ ack = (st', .ok ())
  read : ∀ frame ∈ rest, ∃ info, peekFrameInfo B S frame = .ok info ∧
    S.isReliableType info.envelope.ty = true

/-- Whether a duplicate of a frame has several announcers ahead, so that it is forwarded. -/
def Routes (env : RelayEnv S) (ahead : List UInt8 → Bool) : Prop :=
  ∀ (st : RelayInner S) src bytes priority,
    env.multipleAnnouncersAhead st ⟨src, .serialized bytes, priority⟩ = .ok (ahead bytes)

section Release
variable {env : RelayEnv S} {st st' : RelayInner S} {src : Nat} {bytes : List UInt8}
  {rest frames : List (List UInt8)} {priority : UInt8} {data : RouterItem S}
  {ahead : List UInt8 → Bool}

theorem TakesInOrder.processRxQueueItem_eq (h : TakesInOrder B env st src bytes priority rest st')
    (deliver : RelayInner S → RelayRxItem S → RelayInner S × Outcome Unit) :
    st.processRxQueueItem B { env with deliver := deliver } ⟨src, .serialized bytes, priority⟩ =
      st'.handOver B { env with deliver := deliver } ⟨src, .serialized bytes, priority⟩ rest := by
  obtain ⟨s, hside, hhandler, hhop⟩ := h.hop
  obtain ⟨envelope, hdr, accepted, ack, hpeek, hreliable, hsequenced, hordered, haccept, hack⟩ :=
    h.taken
  have hhop' : st.hopReliable { env with deliver := deliver } src s = true := hhop
  have hack' : accepted.queueReliableControl B { env with deliver := deliver } S.reliableAck
    ⟨src, envelope.ty⟩ ack = (st', .ok ()) := hack
  simp only [processRxQueueItem, h.admitted, receiveHop, sideRef, hside, okOr, hhop', hhandler, hpeek,
    HopReceiver.acceptFrame, HopReceiver.acceptSequenced, receiver, hreliable, hsequenced, hordered,
    haccept, hack', beq_self_eq_true, Bool.and_self, Bool.not_false, if_true, Bool.false_eq_true,
    if_false, Except.map, List.tail_cons]

theorem TakesInOrder.storeMoves (h : TakesInOrder B env st src bytes priority rest st') :
    StoreMoves B st st' := by
  obtain ⟨envelope, hdr, accepted, ack, -, -, -, -, haccept, hack⟩ := h.taken
  have haccepted : StoreMoves B st (st.acceptOrdered B ⟨src, envelope.ty⟩ hdr.seq bytes).1 :=
    .one (.accept st.stores ⟨src, envelope.ty⟩ hdr.seq bytes)
  rw [haccept] at haccepted
  refine haccepted.trans ?_
  unfold queueReliableControl at hack
  split at hack
  · cases (Prod.mk.inj hack).2
  · rename_i pkt _
    dsimp only [itemPriority] at hack
    have hpushed := StoreMoves.pushTx (B := B) accepted
      ⟨none, src, .packet pkt, S.messagePriority pkt.ty⟩
    rw [hack] at hpushed
    exact hpushed

theorem TakesInOrder.recent_eq (h : TakesInOrder B env st src bytes priority rest st') :
    st'.recentRx.q = st.recentRx.q := by
  have hsame : st'.recentRx = st.recentRx := Stores.Move.recentRx_of_moves h.storeMoves
  rw [hsame]

/-- The covered frames are data. -/
theorem TakesInOrder.isData (h : TakesInOrder B env st src bytes priority rest st') :
    ∀ frame ∈ bytes :: rest, IsData B S frame := by
  intro frame hmem
  have hread : ∃ info, peekFrameInfo B S frame = .ok info ∧
      S.isReliableType info.envelope.ty = true := by
    rcases List.mem_cons.mp hmem with rfl | hrest
    · obtain ⟨envelope, hdr, -, -, hpeek, hreliable, -⟩ := h.taken
      exact ⟨_, hpeek, hreliable⟩
    · exact h.read frame hrest
  obtain ⟨info, hpeek, hreliable⟩ := hread
  exact .of_reliable hpeek hreliable

theorem isDuplicatePkt_eq_true_iff : (st.isDuplicatePkt B data).2 = .ok true ↔ st.Knows B data := by
  constructor
  · intro h
    cases hhash : getHash B data with
    | error e => simp [isDuplicatePkt, hhash] at h
    | ok id =>
      by_contra hnew
      exact isDuplicatePkt_ne_true hhash (fun hmem => hnew ⟨id, hhash, hmem⟩) h
  · rintro ⟨id, hhash, hmem⟩
    rw [isDuplicatePkt_of_mem hhash hmem]

theorem getHash_of_isDuplicatePkt {known : Bool} (h : (st.isDuplicatePkt B data).2 = .ok known) :
    ∃ id, getHash B data = .ok id := by
  cases hhash : getHash B data with
  | error e => simp [isDuplicatePkt, hhash] at h
  | ok id => exact ⟨id, rfl⟩

theorem recorded_of_isDuplicatePkt {id : UInt64} (hb : st.Budgeted B)
    (hmem : id ∈ (st.isDuplicatePkt B data).1.recentRx.q) :
    id ∈ st.recentRx.q ∨ getHash B data = .ok id := by
  rcases isDuplicatePkt_cases (B := B) st data with heq | ⟨noted, hnoted, -, heq⟩
  · rw [heq] at hmem
    exact .inl hmem
  · rw [heq] at hmem
    rcases Stores.mem_pushRecentRx hb hmem with hold | ⟨rfl, -⟩
    · exact .inl hold
    · exact .inr hnoted

/-- The relay's deduplication, and its items. -/
def frameReceiver (B : Build) (S : Schema) : FrameReceiver B S (RelayInner S) (RelayRxItem S) where
  hash bytes := getHash B (.serialized bytes : RouterItem S)
  recent st := st.recentRx.q
  isDuplicate st bytes := st.isDuplicatePkt B (.serialized bytes)
  data item := item.data
  sound st := st.Budgeted B
  forget st := { st with recentRx := { st.recentRx with q := [], curBytes := 0 } }
  isDuplicate_eq_true_iff _ _ := isDuplicatePkt_eq_true_iff
  answers_iff _ _ hb := isDuplicatePkt_answers_iff hb
  hash_of_answer _ _ _ h := getHash_of_isDuplicatePkt h
  recorded _ _ _ hb hmem := recorded_of_isDuplicatePkt hb hmem
  sound_isDuplicate st bytes hb := (st.isDuplicatePkt_keeps (.serialized bytes)).1.budgeted hb
  sound_forget _ hb := ⟨hb.accounted, hb.recentMax⟩
  recent_forget _ := rfl

/-- A relay skips the duplicates that it does not forward. -/
theorem skipsItem_eq (hroutes : Routes env ahead) (hdata : IsData B S bytes) :
    st.skipsItem B env ⟨src, .serialized bytes, priority⟩ =
      (frameReceiver B S).skips ahead st bytes := by
  obtain ⟨envelope, hpeek, hreliable, hcontrol⟩ := hdata
  unfold skipsItem FrameReceiver.skips frameReceiver
  dsimp only
  cases hcheck : st.isDuplicatePkt B (.serialized bytes) with
  | mk st' result =>
    rcases result with e | _ | _
    · rfl
    · rfl
    · have hforward : st'.shouldForwardDuplicateReliableItem B env
          ⟨src, .serialized bytes, priority⟩ = .ok (ahead bytes) := by
        simp [shouldForwardDuplicateReliableItem, itemType, hpeek, hreliable, hcontrol,
          hroutes st' src bytes priority]
      simp [hforward, Except.map]

theorem dispatchRelayRxItem_of_isData (h : IsData B S bytes) :
    st.dispatchRelayRxItem B env ⟨src, .serialized bytes, priority⟩ =
      env.deliver st ⟨src, .serialized bytes, priority⟩ := by
  obtain ⟨envelope, hpeek, -, hcontrol⟩ := h
  simp [dispatchRelayRxItem, hpeek, hcontrol]

theorem dispatchReleased_turns (hroutes : Routes env ahead)
    (hdata : ∀ frame ∈ frames, IsData B S frame) (src : Nat) :
    Turns ((frameReceiver B S).skips ahead)
      (fun st frame priority => env.deliver st ⟨src, .serialized frame, priority⟩) st frames
      (st.dispatchReleased B env src frames).log := by
  induction frames generalizing st with
  | nil => exact .done
  | cons bytes rest ih =>
    have hbytes := hdata bytes List.mem_cons_self
    have ih' := fun st => @ih st fun frame hmem => hdata frame (List.mem_cons_of_mem _ hmem)
    obtain ⟨priority, hpriority⟩ := hbytes.itemPriority_eq
    unfold dispatchReleased
    simp only [hpriority, skipsItem_eq hroutes hbytes]
    cases hskips : (frameReceiver B S).skips ahead st bytes with
    | mk st' result =>
      rcases result with e | _ | _
      · exact .refused (congrArg Prod.snd hskips)
      · simp only [dispatchRelayRxItem_of_isData hbytes]
        cases hdeliver : env.deliver st' ⟨src, .serialized bytes, priority⟩ with
        | mk st'' result =>
          rcases result with e | ⟨⟨⟩⟩
          · exact .failed priority hskips (congrArg Prod.snd hdeliver)
          · exact .passed hskips hdeliver (ih' st'')
      · exact .known hskips (ih' st')

theorem handOver_logs (hroutes : Routes env ahead) (hdata : ∀ frame ∈ bytes :: rest, IsData B S frame)
    (src : Nat) :
    (frameReceiver B S).Logs ahead (fun frame priority => ⟨src, .serialized frame, priority⟩)
      env.deliver st bytes rest (st.handOver B env ⟨src, .serialized bytes, priority⟩ rest).log := by
  have hbytes := hdata bytes List.mem_cons_self
  unfold handOver
  simp only [skipsItem_eq hroutes hbytes, FrameReceiver.Logs]
  cases hskips : (frameReceiver B S).skips ahead st bytes with
  | mk st' result =>
    rcases result with e | _ | _
    · exact ⟨nofun, fun _ => .refused (congrArg Prod.snd hskips)⟩
    · refine ⟨nofun, fun _ => ?_⟩
      simp only [dispatchRelayRxItem_of_isData hbytes]
      cases hdeliver : env.deliver st' ⟨src, .serialized bytes, priority⟩ with
      | mk st'' result =>
        rcases result with e | ⟨⟨⟩⟩
        · exact .failed priority hskips (congrArg Prod.snd hdeliver)
        · exact .passed hskips hdeliver (dispatchReleased_turns hroutes (fun frame hmem =>
            hdata frame (List.mem_cons_of_mem _ hmem)) src)
    · exact ⟨fun _ => rfl, fun h => absurd rfl h⟩

variable (hkept : st.Kept B) (hrecords : st.recentRx.q ≠ [] → B.RecordsIds)
  (hroutes : Routes env ahead) (h : TakesInOrder B env st src bytes priority rest st')
include hkept hrecords hroutes h

theorem covers_iff (answer : List UInt8 → Outcome Unit) :
    (∀ deliver, (frameReceiver B S).Answers deliver answer →
        (st.processRxQueueItem B { env with deliver := deliver }
          ⟨src, .serialized bytes, priority⟩).Covers (st.Knows B) (bytes :: rest)) ↔
      (frameReceiver B S).HandsOn st bytes rest ahead answer := by
  simp only [h.processRxQueueItem_eq]
  exact FrameReceiver.covers_iff (hkept.moves h.storeMoves).toBudgeted h.recent_eq hrecords
    (fun _ _ => rfl) (fun deliver => @handOver_logs B S { env with deliver := deliver } st' bytes
      rest priority ahead hroutes h.isData src) answer

theorem covers_iff_of_failsNew {deliver : RelayInner S → RelayRxItem S → RelayInner S × Outcome Unit}
    {answer : List UInt8 → Outcome Unit} (hanswers : (frameReceiver B S).Answers deliver answer)
    (hleaves : ∀ (st : RelayInner S) item, (deliver st item).1.recentRx = st.recentRx)
    (hfails : (frameReceiver B S).FailsNew st ahead answer (bytes :: rest)) :
    (st.processRxQueueItem B { env with deliver := deliver }
        ⟨src, .serialized bytes, priority⟩).Covers (st.Knows B) (bytes :: rest) ↔
      (frameReceiver B S).HandsOn st bytes rest ahead answer := by
  rw [h.processRxQueueItem_eq]
  exact FrameReceiver.covers_iff_of_failsNew (hkept.moves h.storeMoves).toBudgeted h.recent_eq hrecords
    (fun _ _ => rfl) (fun deliver => @handOver_logs B S { env with deliver := deliver } st' bytes
      rest priority ahead hroutes h.isData src) hanswers
    (fun st item => congrArg BoundedDeque.q (hleaves st item)) hfails

end Release
end RelayInner

/-- A reachable router knows ids only in a build that holds one. -/
theorem RouterSystem.records_of_run {B : Build} {S : Schema} {reliable : Bool}
    {inner : RouterInner S} {s : RouterSystem S} {actions : List (RouterSystem.Action B S)}
    (hnew : RouterInner.new B = .ok inner)
    (hrun : Run (RouterSystem.step B reliable) anyStep (.initial inner) actions s) :
    s.inner.recentRx.q ≠ [] → B.RecordsIds := by
  refine (hrun.invariant (fun s => s.inner.Kept B ∧ (s.inner.recentRx.q ≠ [] → B.RecordsIds))
    (fun {s s' a} hs _ hstep => ⟨kept_of_step hs.1 hstep, fun hne => ?_⟩)
    ⟨(RouterInner.kept_new hnew).1, fun hne => absurd (RouterInner.kept_new hnew).2.2 hne⟩).2
  by_cases ha : a.OnRecent
  · cases a with
    | isDuplicatePkt data =>
      obtain rfl := System.returned_eq_some hstep
      obtain ⟨id, hmem⟩ := List.exists_mem_of_ne_nil _ hne
      rcases s.inner.isDuplicatePkt_cases (B := B) data with heq | ⟨noted, -, -, heq⟩
      · dsimp only at hmem
        rw [heq] at hmem
        exact hs.2 (List.ne_nil_of_mem hmem)
      · dsimp only at hmem
        rw [heq] at hmem
        rcases Stores.mem_pushRecentRx hs.1.toBudgeted hmem with hold | ⟨-, hrec⟩
        · exact hs.2 (List.ne_nil_of_mem hold)
        · exact hrec
    | removePktId data =>
      obtain rfl := System.returned_eq_some hstep
      dsimp only at hne
      rcases s.inner.removePktId_cases (B := B) data with heq | ⟨id, -, heq⟩
      · rw [heq] at hne
        exact hs.2 hne
      · rw [heq] at hne
        dsimp only at hne
        rw [BoundedDeque.removeValue_q] at hne
        exact hs.2 fun hnil => hne (by rw [hnil, List.erase_nil])
    | _ => cases ha
  · have heq : s'.inner.recentRx = s.inner.recentRx :=
      Stores.Move.recentRx_of_moves (storeMoves_of_step hstep ha)
    rw [heq] at hne
    exact hs.2 hne

/-- The same of a relay. -/
theorem RelaySystem.records_of_run {B : Build} {S : Schema} {inner : RelayInner S}
    {s : RelaySystem S} {actions : List (RelaySystem.Action B S)}
    (hnew : RelayInner.new B = .ok inner)
    (hrun : Run (RelaySystem.step B) anyStep (.initial inner) actions s) :
    s.inner.recentRx.q ≠ [] → B.RecordsIds := by
  refine (hrun.invariant (fun s => s.inner.Kept B ∧ (s.inner.recentRx.q ≠ [] → B.RecordsIds))
    (fun {s s' a} hs _ hstep => ⟨kept_of_step hs.1 hstep, fun hne => ?_⟩)
    ⟨RelayInner.kept_new hnew, fun hne => absurd (RelayInner.recentRx_new hnew) hne⟩).2
  by_cases ha : a.OnRecent
  · cases a with
    | isDuplicatePkt data =>
      obtain rfl := System.returned_eq_some hstep
      obtain ⟨id, hmem⟩ := List.exists_mem_of_ne_nil _ hne
      rcases RelayInner.isDuplicatePkt_cases (B := B) s.inner data with heq | ⟨noted, -, -, heq⟩
      · dsimp only at hmem
        rw [heq] at hmem
        exact hs.2 (List.ne_nil_of_mem hmem)
      · dsimp only at hmem
        rw [heq] at hmem
        rcases Stores.mem_pushRecentRx hs.1.toBudgeted hmem with hold | ⟨-, hrec⟩
        · exact hs.2 (List.ne_nil_of_mem hold)
        · exact hrec
    | _ => cases ha
  · have heq : s'.inner.recentRx = s.inner.recentRx :=
      Stores.Move.recentRx_of_moves (storeMoves_of_step hstep ha)
    rw [heq] at hne
    exact hs.2 hne

/-- The frames covered by the acknowledgement of an in-order frame and dispatch with given
results: each frame gets its turn in the same call or was known, exactly when the frames
in front of the last one that is not known have ids and an `Ok` of dispatch, and the frame
in order is no duplicate. Nothing else that dispatch may do counts; where it leaves the
recent ids alone and refuses no duplicate, the same holds of each call. -/
theorem acked_frames_handed_on_iff {B : Build} {S : Schema} :
    (∀ (reliable : Bool) (inner : RouterInner S) (s : RouterSystem S)
        (actions : List (RouterSystem.Action B S)), RouterInner.new B = .ok inner →
      Run (RouterSystem.step B reliable) anyStep (.initial inner) actions s →
      ∀ (env : RouterEnv S) (src : Nat) (bytes : List UInt8) (priority : UInt8)
        (rest : List (List UInt8)) (acked : RouterInner S) (answer : List UInt8 → Outcome Unit),
      s.inner.TakesInOrder B env src bytes priority rest acked →
      ((∀ deliver, (RouterInner.frameReceiver B S).Answers deliver answer →
          (s.inner.rxItem B { env with deliver := deliver }
            ⟨some src, .serialized bytes, priority⟩).Covers (s.inner.Knows B) (bytes :: rest)) ↔
        (RouterInner.frameReceiver B S).HandsOn s.inner bytes rest (fun _ => false) answer) ∧
      ∀ deliver, (RouterInner.frameReceiver B S).Answers deliver answer →
        (∀ (st : RouterInner S) item, (deliver st item).1.recentRx = st.recentRx) →
        (RouterInner.frameReceiver B S).FailsNew s.inner (fun _ => false) answer (bytes :: rest) →
        ((s.inner.rxItem B { env with deliver := deliver }
            ⟨some src, .serialized bytes, priority⟩).Covers (s.inner.Knows B) (bytes :: rest) ↔
          (RouterInner.frameReceiver B S).HandsOn s.inner bytes rest (fun _ => false) answer)) ∧
    (∀ (inner : RelayInner S) (s : RelaySystem S) (actions : List (RelaySystem.Action B S)),
      RelayInner.new B = .ok inner → Run (RelaySystem.step B) anyStep (.initial inner) actions s →
      ∀ (env : RelayEnv S) (src : Nat) (bytes : List UInt8) (priority : UInt8)
        (rest : List (List UInt8)) (acked : RelayInner S) (ahead : List UInt8 → Bool)
        (answer : List UInt8 → Outcome Unit), RelayInner.Routes env ahead →
      s.inner.TakesInOrder B env src bytes priority rest acked →
      ((∀ deliver, (RelayInner.frameReceiver B S).Answers deliver answer →
          (s.inner.processRxQueueItem B { env with deliver := deliver }
            ⟨src, .serialized bytes, priority⟩).Covers (s.inner.Knows B) (bytes :: rest)) ↔
        (RelayInner.frameReceiver B S).HandsOn s.inner bytes rest ahead answer) ∧
      ∀ deliver, (RelayInner.frameReceiver B S).Answers deliver answer →
        (∀ (st : RelayInner S) item, (deliver st item).1.recentRx = st.recentRx) →
        (RelayInner.frameReceiver B S).FailsNew s.inner ahead answer (bytes :: rest) →
        ((s.inner.processRxQueueItem B { env with deliver := deliver }
            ⟨src, .serialized bytes, priority⟩).Covers (s.inner.Knows B) (bytes :: rest) ↔
          (RelayInner.frameReceiver B S).HandsOn s.inner bytes rest ahead answer)) := by
  constructor
  · intro reliable inner s actions hnew hrun env src bytes priority rest acked answer htaken
    have hkept := RouterSystem.kept_of_run hnew hrun
    have hrecords := RouterSystem.records_of_run hnew hrun
    exact ⟨RouterInner.covers_iff hkept hrecords htaken answer, fun deliver hanswers hleaves hfails =>
      RouterInner.covers_iff_of_failsNew hkept hrecords htaken hanswers hleaves hfails⟩
  · intro inner s actions hnew hrun env src bytes priority rest acked ahead answer hroutes htaken
    have hkept := RelaySystem.kept_of_run hnew hrun
    have hrecords := RelaySystem.records_of_run hnew hrun
    exact ⟨RelayInner.covers_iff hkept hrecords hroutes htaken answer,
      fun deliver hanswers hleaves hfails =>
        RelayInner.covers_iff_of_failsNew hkept hrecords hroutes htaken hanswers hleaves hfails⟩

/-- A fix as frame number `seq` of its stream. -/
def gpsNumbered (seq : UInt32) (timestamp : UInt64) : List UInt8 :=
  ((serializePacketWithReliable hostBuild { gpsPacket with timestamp := timestamp }
    ⟨0, seq, 0⟩).toOption).getD []

deriving instance DecidableEq for Arrival

/-- What `TakesInOrder` asks of a router, computed. -/
def RouterInner.takenHere (st : RouterInner defaultSchema) (bytes : List UInt8) (seq : UInt32)
    (rest : List (List UInt8)) (ack : UInt32) : Bool :=
  decide (st.admitItem hostBuild ⟨some 0, .serialized bytes, 0⟩ = .ok () ∧
    st.sides[0]?.join = some .reliable ∧ st.hopReliable (.named "gs") 0 .reliable = true ∧
    (st.acceptOrdered hostBuild ⟨0, gpsPacket.ty⟩ seq bytes).2 =
      (.released (bytes :: rest) ack, .ok ()) ∧
    ((st.acceptOrdered hostBuild ⟨0, gpsPacket.ty⟩ seq bytes).1.queueReliableControl hostBuild
      (.named "gs") defaultSchema.reliableAck ⟨0, gpsPacket.ty⟩ ack).2 = .ok ())

theorem RouterInner.takesInOrder_of_takenHere {st : RouterInner defaultSchema} {bytes : List UInt8}
    {rest : List (List UInt8)} {seq ack : UInt32} {envelope : TelemetryEnvelope defaultSchema}
    (hpeek : peekFrameInfo hostBuild defaultSchema bytes = .ok ⟨envelope, some ⟨0, seq, 0⟩⟩)
    (hty : envelope.ty = gpsPacket.ty)
    (hread : ∀ frame ∈ rest, ∃ info, peekFrameInfo hostBuild defaultSchema frame = .ok info ∧
      defaultSchema.isReliableType info.envelope.ty = true)
    (hview : st.takenHere bytes seq rest ack = true) :
    ∃ acked, st.TakesInOrder hostBuild (.named "gs") 0 bytes 0 rest acked := by
  obtain ⟨hentry, hside, hhop, harrival, hack⟩ := of_decide_eq_true hview
  rw [← hty] at harrival hack
  have hreliable : defaultSchema.isReliableType envelope.ty = true := by
    rw [hty]
    decide
  have hsequenced : (⟨0, seq, 0⟩ : ReliableHeader).unsequenced = false := by
    simp [ReliableHeader.unsequenced]
  have hordered : (⟨0, seq, 0⟩ : ReliableHeader).unordered = false := by
    simp [ReliableHeader.unordered]
  exact ⟨_, hentry, ⟨.reliable, hside, rfl, hhop⟩, ⟨envelope, ⟨0, seq, 0⟩, _, ack, hpeek, hreliable,
    hsequenced, hordered, Prod.snd_eq_iff.mp harrival, Prod.snd_eq_iff.mp hack⟩, hread⟩

/-- What `TakesInOrder` asks of a relay, computed. -/
def RelayInner.takenHere (st : RelayInner defaultSchema) (bytes : List UInt8) (seq : UInt32)
    (rest : List (List UInt8)) (ack : UInt32) : Bool :=
  decide (st.admitItem hostBuild ⟨0, .serialized bytes, 0⟩ = .ok () ∧
    st.sides[0]?.join = some .reliable ∧ st.hopReliable .still 0 .reliable = true ∧
    (st.acceptOrdered hostBuild ⟨0, gpsPacket.ty⟩ seq bytes).2 =
      (.released (bytes :: rest) ack, .ok ()) ∧
    ((st.acceptOrdered hostBuild ⟨0, gpsPacket.ty⟩ seq bytes).1.queueReliableControl hostBuild
      .still defaultSchema.reliableAck ⟨0, gpsPacket.ty⟩ ack).2 = .ok ())

theorem RelayInner.takesInOrder_of_takenHere {st : RelayInner defaultSchema} {bytes : List UInt8}
    {rest : List (List UInt8)} {seq ack : UInt32} {envelope : TelemetryEnvelope defaultSchema}
    (hpeek : peekFrameInfo hostBuild defaultSchema bytes = .ok ⟨envelope, some ⟨0, seq, 0⟩⟩)
    (hty : envelope.ty = gpsPacket.ty)
    (hread : ∀ frame ∈ rest, ∃ info, peekFrameInfo hostBuild defaultSchema frame = .ok info ∧
      defaultSchema.isReliableType info.envelope.ty = true)
    (hview : st.takenHere bytes seq rest ack = true) :
    ∃ acked, st.TakesInOrder hostBuild .still 0 bytes 0 rest acked := by
  obtain ⟨hentry, hside, hhop, harrival, hack⟩ := of_decide_eq_true hview
  rw [← hty] at harrival hack
  have hreliable : defaultSchema.isReliableType envelope.ty = true := by
    rw [hty]
    decide
  have hsequenced : (⟨0, seq, 0⟩ : ReliableHeader).unsequenced = false := by
    simp [ReliableHeader.unsequenced]
  have hordered : (⟨0, seq, 0⟩ : ReliableHeader).unordered = false := by
    simp [ReliableHeader.unordered]
  exact ⟨_, hentry, ⟨.reliable, hside, rfl, hhop⟩, ⟨envelope, ⟨0, seq, 0⟩, _, ack, hpeek, hreliable,
    hsequenced, hordered, Prod.snd_eq_iff.mp harrival, Prod.snd_eq_iff.mp hack⟩, hread⟩

theorem peekFrameInfo_gpsNumbered :
    ∃ envelope, peekFrameInfo hostBuild defaultSchema (gpsNumbered 1 300) =
      .ok ⟨envelope, some ⟨0, 1, 0⟩⟩ ∧ envelope.ty = gpsPacket.ty :=
  ⟨⟨gpsPacket.ty, [0, 1], "fc", 300⟩, by decide +kernel, rfl⟩

/-- The second fix reads as a frame of the stream. -/
theorem read_gpsNumbered :
    ∀ frame ∈ [gpsNumbered 2 400], ∃ info, peekFrameInfo hostBuild defaultSchema frame = .ok info ∧
      defaultSchema.isReliableType info.envelope.ty = true := by
  intro frame hmem
  obtain rfl := List.mem_singleton.mp hmem
  exact ⟨⟨⟨gpsPacket.ty, [0, 1], "fc", 400⟩, some ⟨0, 2, 0⟩⟩, by decide +kernel, by decide⟩

/-- The second fix waits in the buffer, and the first is new: both are handed on by every
dispatch that takes them; one that refuses the first leaves the second behind. -/
theorem acked_frames_handed_on_gps :
    (∃ (inner : RouterInner defaultSchema) (s : RouterSystem defaultSchema),
      RouterInner.new hostBuild = .ok inner ∧
      Run (RouterSystem.step hostBuild true) anyStep (.initial inner)
        [.addSide .reliable, .accept ⟨0, gpsPacket.ty⟩ 2 (gpsNumbered 2 400)] s ∧
      (∀ deliver, (RouterInner.frameReceiver hostBuild defaultSchema).Answers deliver (fun _ => .ok ()) →
        (s.inner.rxItem hostBuild { RouterEnv.named "gs" with deliver := deliver }
          ⟨some 0, .serialized (gpsNumbered 1 300), 0⟩).Covers (s.inner.Knows hostBuild)
            [gpsNumbered 1 300, gpsNumbered 2 400]) ∧
      ¬(s.inner.rxItem hostBuild
          { RouterEnv.named "gs" with deliver := fun st _ => (st, fail .badArg) }
          ⟨some 0, .serialized (gpsNumbered 1 300), 0⟩).Covers (s.inner.Knows hostBuild)
            [gpsNumbered 1 300, gpsNumbered 2 400]) ∧
    (∃ (inner : RelayInner defaultSchema) (s : RelaySystem defaultSchema),
      RelayInner.new hostBuild = .ok inner ∧
      Run (RelaySystem.step hostBuild) anyStep (.initial inner)
        [.addSide .reliable, .accept ⟨0, gpsPacket.ty⟩ 2 (gpsNumbered 2 400)] s ∧
      (∀ deliver, (RelayInner.frameReceiver hostBuild defaultSchema).Answers deliver (fun _ => .ok ()) →
        (s.inner.processRxQueueItem hostBuild { RelayEnv.still with deliver := deliver }
          ⟨0, .serialized (gpsNumbered 1 300), 0⟩).Covers (s.inner.Knows hostBuild)
            [gpsNumbered 1 300, gpsNumbered 2 400]) ∧
      ¬(s.inner.processRxQueueItem hostBuild
          { RelayEnv.still with deliver := fun st _ => (st, fail .badArg) }
          ⟨0, .serialized (gpsNumbered 1 300), 0⟩).Covers (s.inner.Knows hostBuild)
            [gpsNumbered 1 300, gpsNumbered 2 400]) := by
  have hrecords : hostBuild.RecordsIds := ⟨by decide, by decide⟩
  obtain ⟨envelope, hpeek, hty⟩ := peekFrameInfo_gpsNumbered
  constructor
  · obtain ⟨inner, s, hnew, hrun, hview⟩ := @System.run_of_execute defaultSchema _ _
      (RouterSystem.step hostBuild true)
      [.addSide .reliable, .accept ⟨0, gpsPacket.ty⟩ 2 (gpsNumbered 2 400)] _
      (fun s : RouterSystem defaultSchema =>
        (s.inner.takenHere (gpsNumbered 1 300) 1 [gpsNumbered 2 400] 2, s.inner.recentRx.q))
      (true, []) (RouterInner.new hostBuild) (by decide +kernel)
    obtain ⟨htaken, hrecent⟩ := Prod.mk.inj hview
    obtain ⟨acked, htaken⟩ := RouterInner.takesInOrder_of_takenHere hpeek hty read_gpsNumbered htaken
    let hash := (RouterInner.frameReceiver hostBuild defaultSchema).hash
    have hids : ((hash (gpsNumbered 1 300)).toOption.isSome, (hash (gpsNumbered 2 400)).toOption.isSome,
        decide (hash (gpsNumbered 1 300) = hash (gpsNumbered 2 400))) = (true, true, false) := by
      decide +kernel
    simp only [Prod.mk.injEq, Option.isSome_iff_exists, toOption_eq_some, decide_eq_false_iff_not] at hids
    obtain ⟨hfirst, hsecond, hapart⟩ := hids
    have hunknown : ∀ frame, ¬(RouterInner.frameReceiver hostBuild defaultSchema).Knows s.inner frame := by
      rintro frame ⟨id, -, hmem⟩
      have hmem : id ∈ s.inner.recentRx.q := hmem
      rw [hrecent] at hmem
      exact List.not_mem_nil hmem
    refine ⟨inner, s, hnew, hrun, ?_, ?_⟩
    · exact (acked_frames_handed_on_iff.1 true inner s _ hnew hrun _ _ _ _ _ acked _ htaken).1.mpr
        ⟨hrecords, ⟨hfirst, .inr ⟨rfl, hsecond, .inl (by simp)⟩⟩, fun h => absurd h (hunknown _)⟩
    · intro hcovers
      have hhandsOn := ((acked_frames_handed_on_iff.1 true inner s _ hnew hrun _ _ _ _ _ acked
        (fun _ => fail .badArg) htaken).2 (fun st _ => (st, fail .badArg))
        ⟨fun _ _ hb => hb, fun _ _ _ _ => rfl⟩ (fun _ _ => rfl)
        ⟨fun frame _ _ => hunknown frame, List.pairwise_pair.mpr fun _ => hapart⟩).mp hcovers
      rcases hhandsOn.through.2 with hall | ⟨hok, -⟩
      · exact hunknown _ (hall _ (List.mem_singleton.mpr rfl))
      · cases hok
  · obtain ⟨inner, s, hnew, hrun, hview⟩ := @System.run_of_execute defaultSchema _ _
      (RelaySystem.step hostBuild)
      [.addSide .reliable, .accept ⟨0, gpsPacket.ty⟩ 2 (gpsNumbered 2 400)] _
      (fun s : RelaySystem defaultSchema =>
        (s.inner.takenHere (gpsNumbered 1 300) 1 [gpsNumbered 2 400] 2, s.inner.recentRx.q))
      (true, []) (RelayInner.new hostBuild) (by decide +kernel)
    obtain ⟨htaken, hrecent⟩ := Prod.mk.inj hview
    obtain ⟨acked, htaken⟩ := RelayInner.takesInOrder_of_takenHere hpeek hty read_gpsNumbered htaken
    let hash := (RelayInner.frameReceiver hostBuild defaultSchema).hash
    have hids : ((hash (gpsNumbered 1 300)).toOption.isSome, (hash (gpsNumbered 2 400)).toOption.isSome,
        decide (hash (gpsNumbered 1 300) = hash (gpsNumbered 2 400))) = (true, true, false) := by
      decide +kernel
    simp only [Prod.mk.injEq, Option.isSome_iff_exists, toOption_eq_some, decide_eq_false_iff_not] at hids
    obtain ⟨hfirst, hsecond, hapart⟩ := hids
    have hunknown : ∀ frame, ¬(RelayInner.frameReceiver hostBuild defaultSchema).Knows s.inner frame := by
      rintro frame ⟨id, -, hmem⟩
      have hmem : id ∈ s.inner.recentRx.q := hmem
      rw [hrecent] at hmem
      exact List.not_mem_nil hmem
    have hroutes : RelayInner.Routes (S := defaultSchema) .still fun _ => false := fun _ _ _ _ => rfl
    refine ⟨inner, s, hnew, hrun, ?_, ?_⟩
    · exact (acked_frames_handed_on_iff.2 inner s _ hnew hrun _ _ _ _ _ acked _ _ hroutes htaken).1.mpr
        ⟨hrecords, ⟨hfirst, .inr ⟨rfl, hsecond, .inl (by simp)⟩⟩, fun h => absurd h (hunknown _)⟩
    · intro hcovers
      have hhandsOn := ((acked_frames_handed_on_iff.2 inner s _ hnew hrun _ _ _ _ _ acked _
        (fun _ => fail .badArg) hroutes htaken).2 (fun st _ => (st, fail .badArg))
        ⟨fun _ _ hb => hb, fun _ _ _ _ => rfl⟩ (fun _ _ => rfl)
        ⟨fun frame _ _ => hunknown frame, List.pairwise_pair.mpr fun _ => hapart⟩).mp hcovers
      rcases hhandsOn.through.2 with hall | ⟨hok, -⟩
      · exact hunknown _ (hall _ (List.mem_singleton.mpr rfl))
      · cases hok

/-- The second fix arrives early and waits; the first is known from another link. When it
arrives in order, both are acknowledged, and the second is gone without a dispatch. -/
theorem acked_frame_dropped :
    (∃ (inner acked : RouterInner defaultSchema) (s : RouterSystem defaultSchema),
      RouterInner.new hostBuild = .ok inner ∧
      Run (RouterSystem.step hostBuild true) anyStep (.initial inner)
        [.addSide .reliable, .accept ⟨0, gpsPacket.ty⟩ 2 (gpsNumbered 2 400),
          .isDuplicatePkt (.serialized (gpsNumbered 1 300))] s ∧
      s.inner.TakesInOrder hostBuild (.named "gs") 0 (gpsNumbered 1 300) 0 [gpsNumbered 2 400] acked ∧
      ¬(s.inner.rxItem hostBuild (.named "gs") ⟨some 0, .serialized (gpsNumbered 1 300), 0⟩).Covers
        (s.inner.Knows hostBuild) [gpsNumbered 1 300, gpsNumbered 2 400]) ∧
    (∃ (inner acked : RelayInner defaultSchema) (s : RelaySystem defaultSchema),
      RelayInner.new hostBuild = .ok inner ∧
      Run (RelaySystem.step hostBuild) anyStep (.initial inner)
        [.addSide .reliable, .accept ⟨0, gpsPacket.ty⟩ 2 (gpsNumbered 2 400),
          .isDuplicatePkt (.serialized (gpsNumbered 1 300))] s ∧
      s.inner.TakesInOrder hostBuild .still 0 (gpsNumbered 1 300) 0 [gpsNumbered 2 400] acked ∧
      ¬(s.inner.processRxQueueItem hostBuild .still ⟨0, .serialized (gpsNumbered 1 300), 0⟩).Covers
        (s.inner.Knows hostBuild) [gpsNumbered 1 300, gpsNumbered 2 400]) := by
  obtain ⟨envelope, hpeek, hty⟩ := peekFrameInfo_gpsNumbered
  constructor
  · obtain ⟨inner, s, hnew, hrun, hview⟩ := @System.run_of_execute defaultSchema _ _
      (RouterSystem.step hostBuild true)
      [.addSide .reliable, .accept ⟨0, gpsPacket.ty⟩ 2 (gpsNumbered 2 400),
        .isDuplicatePkt (.serialized (gpsNumbered 1 300))] _
      (fun s : RouterSystem defaultSchema =>
        (s.inner.takenHere (gpsNumbered 1 300) 1 [gpsNumbered 2 400] 2,
          (s.inner.rxItem hostBuild (.named "gs")
            ⟨some 0, .serialized (gpsNumbered 1 300), 0⟩).log.length,
          (RouterInner.getHash (S := defaultSchema) hostBuild
            (.serialized (gpsNumbered 2 400))).toOption.all fun id => decide (id ∉ s.inner.recentRx.q)))
      (true, 1, true) (RouterInner.new hostBuild) (by decide +kernel)
    obtain ⟨htaken, hview⟩ := Prod.mk.inj hview
    obtain ⟨hlog, hnew'⟩ := Prod.mk.inj hview
    obtain ⟨acked, htaken⟩ := RouterInner.takesInOrder_of_takenHere hpeek hty read_gpsNumbered htaken
    refine ⟨inner, acked, s, hnew, hrun, htaken, fun hcovers => ?_⟩
    obtain ⟨id, hhash, hmem⟩ := Covered.second_known hcovers hlog.le
    rw [hhash] at hnew'
    exact of_decide_eq_true hnew' hmem
  · obtain ⟨inner, s, hnew, hrun, hview⟩ := @System.run_of_execute defaultSchema _ _
      (RelaySystem.step hostBuild)
      [.addSide .reliable, .accept ⟨0, gpsPacket.ty⟩ 2 (gpsNumbered 2 400),
        .isDuplicatePkt (.serialized (gpsNumbered 1 300))] _
      (fun s : RelaySystem defaultSchema =>
        (s.inner.takenHere (gpsNumbered 1 300) 1 [gpsNumbered 2 400] 2,
          (s.inner.processRxQueueItem hostBuild .still
            ⟨0, .serialized (gpsNumbered 1 300), 0⟩).log.length,
          (RelayInner.getHash (S := defaultSchema) hostBuild
            (.serialized (gpsNumbered 2 400))).toOption.all fun id => decide (id ∉ s.inner.recentRx.q)))
      (true, 1, true) (RelayInner.new hostBuild) (by decide +kernel)
    obtain ⟨htaken, hview⟩ := Prod.mk.inj hview
    obtain ⟨hlog, hnew'⟩ := Prod.mk.inj hview
    obtain ⟨acked, htaken⟩ := RelayInner.takesInOrder_of_takenHere hpeek hty read_gpsNumbered htaken
    refine ⟨inner, acked, s, hnew, hrun, htaken, fun hcovers => ?_⟩
    obtain ⟨id, hhash, hmem⟩ := Covered.second_known hcovers hlog.le
    rw [hhash] at hnew'
    exact of_decide_eq_true hnew' hmem

end Sedsprintf
