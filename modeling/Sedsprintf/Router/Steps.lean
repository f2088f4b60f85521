import Sedsprintf.Router.Calls
import Sedsprintf.Router.EndToEnd
import Sedsprintf.Router.Arrivals

/-!
# The steps of a call

Whatever a call does is made of a few kinds of steps: four kinds work on the end-to-end
entries, and all the others leave the entries alone and reach the TX callbacks of live sides
only. What every step keeps, every call keeps; so do runs, where callbacks call the router in
turn.
-/
namespace Sedsprintf

open Lib

/-- What a step notes: an id in the return routes, or in the end-to-end entries. -/
inductive CacheNote where
  | returnRoute (packetId : UInt64)
  | endToEnd (packetId : UInt64)
  deriving DecidableEq, Repr

/-- Nothing happens to the end-to-end entries or to their order. -/
structure RouterInner.SameEntries {S : Schema} (st st' : RouterInner S) : Prop where
  entries : st'.endToEndReliableTx = st.endToEndReliableTx
  order : st'.endToEndReliableTxOrder = st.endToEndReliableTxOrder

theorem RouterInner.Keeps.sameEntries {B : Build} {S : Schema} {st st' : RouterInner S}
    (h : RouterInner.Keeps B st st') : st.SameEntries st' :=
  ⟨h.endToEndReliableTx, h.endToEndReliableTxOrder⟩

theorem RouterInner.SameEntries.trans {S : Schema} {st st' st'' : RouterInner S}
    (h : st.SameEntries st') (h' : st'.SameEntries st'') : st.SameEntries st'' :=
  ⟨h'.entries.trans h.entries, h'.order.trans h.order⟩

/-- Nor to the return routes. -/
structure RouterState.SameCaches {S : Schema} (s s' : RouterState S) : Prop where
  inner : s.inner.SameEntries s'.inner
  routes : s'.table.reliableReturnRoutes = s.table.reliableReturnRoutes
  routeOrder : s'.table.reliableReturnRouteOrder = s.table.reliableReturnRouteOrder

/-- An event that tracks no packet and reaches no TX callback but that of a live side. -/
@[simp] def RouterEvent.Ordinary {S : Schema} : RouterEvent S → Prop
  | .transmitted _ live => live = true
  | .tracked _ _ _ _ => False
  | _ => True

/-- One step of a call, and what it notes. -/
inductive CallStep {S : Schema} (B : Build) (w : RouterWorld S) :
    Option CacheNote → RouterState S → RouterState S → Prop
  | other {s s' : RouterState S} (new : List (RouterEvent S)) (hsame : s.SameCaches s')
      (hevents : s'.events = s.events ++ new) (hordinary : ∀ event ∈ new, event.Ordinary) :
      CallStep B w none s s'
  | returnRoute (s : RouterState S) (side : Nat) (packetId : UInt64) :
      CallStep B w (some (.returnRoute packetId)) s
        { s with table := s.table.noteReliableReturnRoute B side packetId }
  | removeSide (s : RouterState S) (side : Nat) :
      CallStep B w none s { s with table := s.table.removeSide side }
  | queued (s : RouterState S) {id : UInt64} {entry : EndToEndReliableSent S}
      (hentry : s.inner.endToEndReliableTx[id]? = some entry) :
      CallStep B w none s { s with inner := { s.inner with
        endToEndReliableTx := s.inner.endToEndReliableTx.insert id { entry with queued := true } } }
  | replayed (s : RouterState S) (packetId : UInt64) :
      CallStep B w none s { s with inner := s.inner.endToEndRetransmitSides packetId w.now }
  | track (s : RouterState S) {packetId : UInt64} {data : RouterItem S}
      {destinations : OrdMap UInt64 Nat} (hid : RouterInner.getHash B data = .ok packetId)
      (hexpected : s.inner.expectedEndToEndDestinations B s.table w.now data = .ok destinations) :
      CallStep B w (some (.endToEnd packetId)) s { s with
        inner := s.inner.registerEndToEndReliableTx B packetId data destinations w.now
        events := s.events ++ [.tracked packetId data destinations (s.view w)] }
  /-- An acknowledgement is received. -/
  | endToEndAck (s : RouterState S) {data : RouterItem S} {side : Nat} {pkt : Packet S}
      {packetId : UInt64} (hpacket : RouterProgram.packetOf B data = .ok pkt)
      (hack : endToEndAck pkt = some packetId) :
      CallStep B w none s { s with
        inner := s.inner.handleEndToEndAck packetId (decodeEndToEndAckSenderHash pkt.sender)
        events := s.events ++ [.received data (some side)] }
  | reconcile (s : RouterState S) : CallStep B w none s (RouterProgram.reconcileEndToEnd B w s).1
  | timeouts (s : RouterState S) :
      CallStep B w none s { s with
        inner := { s.inner with
          endToEndReliableTx := (RouterInner.endToEndTimeoutScan B w.now s.inner.endToEndReliableTx
            s.inner.endToEndReliableTx.keys).1 }
        events := s.events ++ [.scanned (s.view w)] }

theorem CallStep.sound {B : Build} {S : Schema} {w : RouterWorld S} {note : Option CacheNote}
    {s s' : RouterState S} (h : CallStep B w note s s') (hs : s.inner.EntriesSound) :
    s'.inner.EntriesSound := by
  cases h with
  | other new hsame hevents hordinary => exact hs.congr hsame.inner.entries
  | returnRoute _ side packetId => exact hs
  | removeSide _ side => exact hs
  | @queued _ id entry hentry =>
    refine hs.insert ?_ id
    exact hs id entry hentry
  | replayed _ packetId => exact hs.endToEndRetransmitSides packetId w.now
  | track _ hid hexpected => exact hs.register
  | endToEndAck _ hpacket hack => exact hs.handleEndToEndAck _ _
  | reconcile => exact hs.reconcile _
  | timeouts => exact hs.timeoutScan w.now _

/-- `inv` is kept by the steps of a call in the world, and by its callbacks. -/
structure KeptByCallSteps {S : Schema} (B : Build) (w : RouterWorld S)
    (inv : RouterState S → Prop) : Prop where
  step : ∀ {note s s'}, CallStep B w note s s' → inv s → inv s'
  react : ∀ callback s, inv s → inv (w.react callback s)
  sides : w.KeepsSides
  sound : ∀ s, inv s → s.inner.EntriesSound

namespace KeptByCallSteps
variable {B : Build} {S : Schema} {w : RouterWorld S} {inv : RouterState S → Prop}
  (h : KeptByCallSteps B w inv)
include h

theorem other {s s' : RouterState S} (hs : inv s) (new : List (RouterEvent S))
    (hsame : s.SameCaches s') (hevents : s'.events = s.events ++ new)
    (hordinary : ∀ event ∈ new, event.Ordinary) : inv s' :=
  h.step (.other new hsame hevents hordinary) hs

/-- Steps that only work on the rest of the inner state and on the table. -/
theorem frame {s s' : RouterState S} (hs : inv s) (hsame : s.SameCaches s')
    (hevents : s'.events = s.events) : inv s' :=
  h.other hs [] hsame (by rw [hevents, List.append_nil]) (by simp)

/-- Steps that only work on the rest of the inner state. -/
theorem innerFrame {s : RouterState S} {st : RouterInner S} (hs : inv s)
    (hsame : s.inner.SameEntries st) : inv { s with inner := st } :=
  h.frame hs ⟨hsame, rfl, rfl⟩ rfl

/-- The effects of handlers, sends and error packets are steps. -/
theorem effect {plans : Option Nat → Prop} {s s' : RouterState S} (heffect : Effect B w plans s s')
    (hs : inv s) : inv s' := by
  cases heffect with
  | @handled handler data ok hok => 
    exact h.other hs [.handled handler data ok] ⟨⟨rfl, rfl⟩, rfl, rfl⟩ rfl (by simp)
  | advance hsrc => exact h.frame hs ⟨⟨rfl, rfl⟩, rfl, rfl⟩ rfl
  | @forwarded src hsrc data sides =>
    exact h.other hs [.forwarded src data sides] ⟨⟨rfl, rfl⟩, rfl, rfl⟩ rfl (by simp)
  | push queued =>
    exact h.innerFrame hs (RouterInner.pushTransmit_pushes (B := B) _ queued).sameEntries
  | note data =>
    exact h.innerFrame hs (RouterInner.isDuplicatePkt_keeps (B := B) _ data).1.sameEntries
  | remembered packetId => 
    exact h.other hs [.remembered packetId] ⟨⟨rfl, rfl⟩, rfl, rfl⟩ rfl (by simp)
  | forget data =>
    exact h.innerFrame hs (RouterInner.removePktId_keeps (B := B) _ data).1.sameEntries
  | track hid hexpected => exact h.step (.track s hid hexpected) hs
  | @transmit side hlive streams stats =>
    exact h.other hs [.transmitted side true] ⟨⟨rfl, rfl⟩, rfl, rfl⟩ rfl (by simp)
  | react callback => exact h.react callback s hs

theorem effects : ∀ {s s' : RouterState S}, Effect B w (fun _ => True) s s' → inv s → inv s' :=
  h.effect

theorem locals :
    ∀ {s s' : RouterState S}, LocalEffect B w (fun _ => True) s s' → inv s → inv s' :=
  fun heffect => h.effect heffect.effect

theorem guards (depth : Nat) :
    Guards B w (RouterProgram.reportError B w depth) (fun _ => True) inv inv where
  keeps := h.effect
  fails := h.effect
  le _ hs := hs
  report := RouterProgram.keeps_reportError h.effects h.sides trivial depth
  sides := h.sides

section Inner

/-- A part of the inner state's work that leaves the entries alone. -/
theorem keeps_onInner {α : Type} {f : RouterInner S → RouterInner S × Outcome α}
    (hsame : ∀ st, RouterInner.SameEntries st (f st).1) : Program.Keeps inv (RouterProgram.onInner f) :=
  fun s hs => h.innerFrame hs (hsame s.inner)

omit h in
theorem hop_closed (start : RouterInner S) :
    (RouterInner.hop B).Closed fun st => start.SameEntries st where
  setStreams hst := ⟨hst.entries, hst.order⟩
  pushReplay hst := hst.trans (RouterInner.pushTransmit_pushes (B := B) _ _).sameEntries

omit h in
theorem queueReliableControl_same {env : RouterEnv S} (st : RouterInner S) (control : S.DataType)
    (key : StreamKey S) (seq : UInt32) :
    st.SameEntries (st.queueReliableControl B env control key seq).1 := by
  unfold RouterInner.queueReliableControl
  split
  · exact ⟨rfl, rfl⟩
  · exact (RouterInner.pushTransmit_pushes (B := B) st _).sameEntries

omit h in
theorem receiveHop_same {env : RouterEnv S} (st : RouterInner S) (item : RouterRxItem S) :
    st.SameEntries (st.receiveHop B env item).1 := by
  have hclosed : (RouterInner.receiver B env).Closed fun st' : RouterInner S => st.SameEntries st' :=
    ⟨fun hst => ⟨hst.entries, hst.order⟩,
      fun hst => hst.trans (RouterInner.acceptOrdered_keeps (B := B) _ _ _ _).1.sameEntries,
      fun hst => hst.trans (queueReliableControl_same (B := B) _ _ _ _)⟩
  exact RouterInner.receiveHop_closed hclosed ⟨rfl, rfl⟩ item

theorem handleInternalReliablePacket_triple {data : RouterItem S} {src : Option Nat}
    {pkt : Packet S} (hpacket : RouterProgram.packetOf B data = .ok pkt) :
    Program.Triple (fun s => ∃ s₀, inv s₀ ∧ s = RouterProgram.receiving data src s₀)
      (RouterProgram.onInner fun st => st.handleInternalReliablePacket B pkt src)
      (fun _ => inv) inv := by
  rintro _ ⟨s, hs₀, rfl⟩
  have hs : inv (RouterProgram.receiving data src s) :=
    h.other hs₀ [.received data src] ⟨⟨rfl, rfl⟩, rfl, rfl⟩ rfl (by simp)
  have hkept : inv (RouterProgram.onInner (fun st => st.handleInternalReliablePacket B pkt src)
      (RouterProgram.receiving data src s)).1 := by
    unfold RouterProgram.onInner RouterInner.handleInternalReliablePacket
    dsimp only
    split
    · split
      · exact hs
      · split
        · rename_i packetId hack
          exact h.step (.endToEndAck s hpacket hack) hs₀
        · split
          · exact hs
          · split
            · exact h.innerFrame hs ⟨rfl, rfl⟩
            · split
              · exact h.innerFrame hs ⟨rfl, rfl⟩
              · refine h.innerFrame hs ?_
                exact (hop_closed (B := B) s.inner).queueReliableRetransmit _ _ ⟨rfl, rfl⟩
    · exact hs
  exact ⟨fun _ _ => hkept, fun _ _ => hkept⟩

theorem keeps_learnDiscoveryPacket (pkt : Packet S) (src : Option Nat) :
    Program.Keeps inv (RouterProgram.learnDiscoveryPacket B w pkt src) := by
  intro s hs
  unfold RouterProgram.learnDiscoveryPacket
  split
  · exact hs
  · split
    · split
      · exact hs
      · split
        · exact hs
        · split
          · exact hs
          · rename_i routes _
            refine h.step (.reconcile _) (h.innerFrame hs ?_)
            have hfit := (RouterInner.fitDiscoveryBudget_keeps (B := B)
              { s.inner with discoveryRoutes := routes }).1
            exact ⟨hfit.endToEndReliableTx, hfit.endToEndReliableTxOrder⟩
    · exact hs

theorem keeps_queueEndToEndReliableAck (pkt : Packet S) :
    Program.Keeps inv (RouterProgram.queueEndToEndReliableAck B w pkt) := by
  refine Program.Keeps.bind (fun s hs => ?_) fun _ => h.keeps_onInner fun st => ?_
  · exact h.other hs [.acknowledged (pkt.packetId B)] ⟨⟨rfl, rfl⟩, rfl, rfl⟩ rfl (by simp)
  · unfold RouterInner.queueEndToEndReliableAck
    split
    · exact ⟨rfl, rfl⟩
    · exact (RouterInner.txQueueItemWithFlags_keeps (B := B) st _ _).sameEntries

theorem keeps_admitItem (data : RouterItem S) (src : Option Nat) :
    Program.Keeps inv (RouterProgram.admitItem B data src) := by
  cases src with
  | none => exact .pure ()
  | some side =>
    refine Program.Keeps.read.bind fun _ => (Program.Keeps.of _).bind fun _ => ?_
    refine (Program.Keeps.of _).bind fun id s hs => ?_
    cases id with
    | none => exact hs
    | some packetId => exact h.step (.returnRoute s side packetId) hs

theorem arrivals (depth : Nat) :
    Arrivals B w (RouterProgram.reportError B w depth) (fun _ => True) inv where
  guards := h.guards depth
  hop item := h.keeps_onInner fun st => receiveHop_same st item
  received data src s hs :=
    h.other hs [.received data src] ⟨⟨rfl, rfl⟩, rfl, rfl⟩ rfl (by simp)
  internal := h.handleInternalReliablePacket_triple
  learn := h.keeps_learnDiscoveryPacket
  acknowledge _ _ := h.keeps_queueEndToEndReliableAck _
  admits := h.keeps_admitItem

end Inner
end KeptByCallSteps

section PendingLive
variable {B : Build} {S : Schema} {st st' : RouterInner S}

/-- Replays would go to live sides. -/
def RouterInner.PendingLive (st : RouterInner S) : Prop :=
  ∀ (id : UInt64) entry, st.endToEndReliableTx[id]? = some entry →
    ∀ (hash : UInt64) side, entry.pendingDestinations[hash]? = some side → st.sideLive side = true

theorem RouterInner.PendingLive.of_entries (h : st.PendingLive)
    (hentries : ∀ (id : UInt64) entry', st'.endToEndReliableTx[id]? = some entry' →
      ∃ entry, st.endToEndReliableTx[id]? = some entry ∧
        entry'.pendingDestinations = entry.pendingDestinations)
    (hsides : st'.sides = st.sides) : st'.PendingLive := by
  intro id entry' hentry' hash side hside
  obtain ⟨entry, hentry, hpending⟩ := hentries id entry' hentry'
  rw [RouterInner.sideLive, hsides]
  exact h id entry hentry hash side (hpending ▸ hside)

theorem RouterInner.PendingLive.congr (h : st.PendingLive)
    (hsent : st'.endToEndReliableTx = st.endToEndReliableTx) (hsides : st'.sides = st.sides) :
    st'.PendingLive :=
  h.of_entries (fun _ entry hentry => ⟨entry, hsent ▸ hentry, rfl⟩) hsides

theorem RouterInner.PendingLive.erase (h : st.PendingLive) (id : UInt64) :
    ({ st with endToEndReliableTx := st.endToEndReliableTx.erase id } : RouterInner S).PendingLive := by
  refine h.of_entries (fun other entry hentry => ⟨entry, ?_, rfl⟩) rfl
  dsimp only at hentry
  rw [OrdMap.get?_erase] at hentry
  split at hentry
  · cases hentry
  · exact hentry

theorem RouterInner.PendingLive.insert (h : st.PendingLive) {id : UInt64}
    {entry entry' : EndToEndReliableSent S} (hentry : st.endToEndReliableTx[id]? = some entry)
    (hpending : entry'.pendingDestinations = entry.pendingDestinations) :
    ({ st with endToEndReliableTx := st.endToEndReliableTx.insert id entry' } :
      RouterInner S).PendingLive := by
  refine h.of_entries (fun other found hfound => ?_) rfl
  dsimp only at hfound
  rw [OrdMap.get?_insert] at hfound
  split at hfound
  · rename_i heq
    obtain rfl := Option.some.inj hfound
    exact ⟨entry, heq ▸ hentry, hpending⟩
  · exact ⟨found, hfound, rfl⟩

/-- Behind a reconciliation with the topology, the pending destinations are where they are
expected. -/
theorem RouterInner.pendingLive_of_reconciled {table : RoutingTable S} {now : UInt64}
    (hsound : st.EntriesSound)
    (hok : (st.reconcileEndToEnd (st.expectedOf B table now)).2 = .ok ()) :
    (st.reconcileEndToEnd (st.expectedOf B table now)).1.PendingLive := by
  intro id entry hentry hash side hside
  obtain ⟨entry', d, hentry', hd, rfl⟩ := reconcileEndToEnd_of_ok st hok hentry
  have hexpected : d[hash]? = some side := (hsound id entry' hentry').side_of_reconciled hside
  rw [RouterInner.expectedOf, hentry'] at hd
  have hlive := sideLive_of_expected hd hexpected
  have hstores := congrArg (fun stores => stores.2.sides)
    (reconcileEndToEnd_frame (B := B) st (st.expectedOf B table now)).2.1
  rw [RouterInner.sideLive, show (st.reconcileEndToEnd (st.expectedOf B table now)).1.sides =
    st.sides from hstores]
  exact hlive

theorem RouterInner.PendingLive.timeoutScan (h : st.PendingLive) (now : UInt64)
    (ids : List UInt64) :
    ({ st with endToEndReliableTx :=
      (RouterInner.endToEndTimeoutScan B now st.endToEndReliableTx ids).1 } :
      RouterInner S).PendingLive := by
  induction ids generalizing st with
  | nil => exact h
  | cons id rest ih =>
    refine @ih { st with endToEndReliableTx :=
      (RouterInner.endToEndTimeoutEntry B now st.endToEndReliableTx id).1 } ?_
    unfold RouterInner.endToEndTimeoutEntry
    split
    · exact h
    · rename_i entry hentry
      split
      · exact h
      · split
        · exact h.erase id
        · exact h.insert hentry rfl

/-- The sides of a replay. -/
theorem RouterInner.PendingLive.targets (h : st.PendingLive) {packetId : UInt64}
    {data : RouterItem S} {sides : List Nat}
    (htargets : st.retransmitTargets packetId = some (data, sides)) :
    ∀ side ∈ sides, st.sideLive side = true := by
  intro side hside
  obtain ⟨entry, hentry, hfound⟩ := Option.bind_eq_some_iff.mp htargets
  split at hfound
  · cases hfound
  · obtain ⟨-, rfl⟩ := Prod.mk.inj (Option.some.inj hfound)
    obtain ⟨pending, hpending, rfl⟩ := List.mem_map.mp (mem_sortDedup.mp hside)
    exact h packetId entry hentry pending.1 pending.2
      (Std.ExtTreeMap.mem_toList_iff_getElem?_eq_some.mp hpending)

end PendingLive

namespace KeptByCallSteps
variable {B : Build} {S : Schema} {w : RouterWorld S} {inv : RouterState S → Prop}
  (h : KeptByCallSteps B w inv)
include h

section Timeouts

theorem requeue {s : RouterState S} (hs : inv s ∧ s.inner.PendingLive) (again : List UInt64) :
    inv { s with inner := (RouterInner.requeueEndToEnd B s.inner again).1 } ∧
      (RouterInner.requeueEndToEnd B s.inner again).1.PendingLive := by
  induction again generalizing s with
  | nil => exact hs
  | cons id rest ih =>
    have hnext : inv { s with inner := (s.inner.queueEndToEndReliableRetransmit B id).1 } ∧
        (s.inner.queueEndToEndReliableRetransmit B id).1.PendingLive := by
      unfold RouterInner.queueEndToEndReliableRetransmit
      split
      · exact hs
      · rename_i entry hentry
        split
        · exact hs
        · have hmarked := h.step (.queued s hentry) hs.1
          have hlive : RouterInner.PendingLive { s.inner with
              endToEndReliableTx :=
                s.inner.endToEndReliableTx.insert id { entry with queued := true } } :=
            hs.2.insert hentry rfl
          generalize ({ s.inner with
            endToEndReliableTx := s.inner.endToEndReliableTx.insert id { entry with queued := true } } :
            RouterInner S) = st at hmarked hlive
          have hkeeps := (RouterInner.pushTransmit_pushes (B := B) st
            ⟨.endToEndReplay id, true, bumpedPriority S.reliableAck⟩).toKeeps
          have hpushed := @innerFrame _ _ _ _ h { s with inner := st } _ hmarked hkeeps.sameEntries
          exact ⟨hpushed,
            hlive.congr hkeeps.endToEndReliableTx hkeeps.sides⟩
    unfold RouterInner.requeueEndToEnd
    generalize s.inner.queueEndToEndReliableRetransmit B id = r at hnext
    obtain ⟨st, e | ⟨⟨⟩⟩⟩ := r
    · exact hnext
    · exact @ih { s with inner := st } hnext

theorem reconcileEndToEnd_triple :
    Program.Triple inv (RouterProgram.reconcileEndToEnd B w)
      (fun _ s => inv s ∧ s.inner.PendingLive) inv := by
  intro s hs
  have hreconciled := h.step (.reconcile s) hs
  refine ⟨fun _ hok => ⟨hreconciled, ?_⟩, fun _ _ => hreconciled⟩
  exact RouterInner.pendingLive_of_reconciled (h.sound s hs) hok

theorem scanEndToEndTimeouts_triple :
    Program.Triple (fun s => inv s ∧ s.inner.PendingLive) (RouterProgram.scanEndToEndTimeouts B w)
      (fun _ s => inv s ∧ s.inner.PendingLive) inv := by
  rintro s ⟨hs, hlive⟩
  have hrequeue := h.requeue ⟨h.step (.timeouts s) hs, hlive.timeoutScan w.now _⟩
    (RouterInner.endToEndTimeoutScan B w.now s.inner.endToEndReliableTx
      s.inner.endToEndReliableTx.keys).2
  exact ⟨fun _ _ => hrequeue, fun _ _ => hrequeue.1⟩

theorem processEndToEndReliableTimeouts_triple :
    Program.Triple inv (RouterProgram.processEndToEndReliableTimeouts B w)
      (fun _ s => inv s ∧ s.inner.PendingLive) inv := by
  have hpruned : Program.Keeps inv
      (RouterProgram.onInner fun st => (st.pruneDiscovery w.now, .ok ())) :=
    h.keeps_onInner fun _ => ⟨rfl, rfl⟩
  exact hpruned.triple.bind fun _ =>
    h.reconcileEndToEnd_triple.bind fun _ => h.scanEndToEndTimeouts_triple

end Timeouts

section Draining
variable (depth : Nat)

theorem keeps_txReliableReplay (dst : Nat) (bytes : List UInt8) :
    Program.Keeps inv (RouterProgram.txReliableReplay B w dst bytes) := by
  intro s hs
  have hsame : s.inner.SameEntries
      (s.inner.txReliableReplay B (w.sideTx s.events.length dst) dst bytes).1 :=
    (hop_closed (B := B) s.inner).processReplay
      (fun hst => hst.trans (RouterInner.txQueueItemWithFlags_keeps (B := B) _ _ _).sameEntries)
      s.inner dst bytes ⟨rfl, rfl⟩
  unfold RouterProgram.txReliableReplay
  dsimp only
  split
  · refine h.react _ _ ?_
    -- The table takes a sample of the send, if there is one.
    refine h.other hs [.transmitted dst true] ⟨hsame, ?_, ?_⟩ rfl (by simp)
    · dsimp only
      split
      · rfl
      · rfl
    · dsimp only
      split
      · rfl
      · rfl
  · exact h.innerFrame hs hsame

/-- A replay goes to the sides it remembers, which are live. -/
theorem txEndToEndReplay_triple (packetId : UInt64) :
    Program.Triple (fun s => inv s ∧ s.inner.PendingLive)
      (RouterProgram.txEndToEndReplay B w (RouterProgram.reportError B w depth) packetId)
      (fun _ => inv) inv := by
  have hguards := h.guards depth
  have hfind : Program.Triple (fun s => inv s ∧ s.inner.PendingLive)
      (RouterProgram.endToEndRetransmitSides w packetId)
      (fun found s => inv s ∧ ∀ data sides, found = some (data, sides) →
        ∀ side ∈ sides, s.inner.sideLive side = true) inv := by
    rintro s ⟨hs, hlive⟩
    have hmarked := h.step (.replayed s packetId) hs
    refine ⟨fun found hfound => ⟨hmarked, fun data sides htargets side hside => ?_⟩, fun _ _ => hmarked⟩
    obtain rfl := Except.ok.inj hfound
    have hsides : (s.inner.endToEndRetransmitSides packetId w.now).sides = s.inner.sides := by
      unfold RouterInner.endToEndRetransmitSides
      split
      · rfl
      · split
        · rfl
        · rfl
    rw [RouterInner.sideLive]
    show ((s.inner.endToEndRetransmitSides packetId w.now).sides[side]?.join.any _) = true
    rw [hsides]
    exact hlive.targets htargets side hside
  refine hfind.bind fun found => ?_
  cases found with
  | none => exact .pure fun _ hs => hs.1
  | some target =>
    obtain ⟨data, sides⟩ := target
    have hsides : Program.Triple
        (fun s => inv s ∧ ∀ data' sides', some (data, sides) = some (data', sides') →
          ∀ side ∈ sides', s.inner.sideLive side = true)
        (RouterProgram.retransmitSides B w data sides)
        (fun targets s => inv s ∧ ∀ side ∈ targets, s.inner.sideLive side = true) inv := by
      refine .ite ?_ (.pure fun _ hs => ⟨hs.1, hs.2 data sides rfl⟩)
      exact (RouterProgram.remoteSidePlan_triple h.locals trivial data fun _ hs => hs).imp
        (fun _ hs => hs.1) (fun _ _ hs => hs) fun _ hs => hs
    exact hsides.bind fun targets => RouterProgram.sendPlanned_triple hguards data

theorem txItemImpl_triple (item : RouterTxItem S) (ignoreLocal : Bool) :
    Program.Triple (fun s => inv s ∧ s.inner.PendingLive)
      (RouterProgram.txItemImpl B w (RouterProgram.reportError B w depth) item ignoreLocal)
      (fun _ => inv) inv := by
  have hguards := h.guards depth
  cases item with
  | broadcast data =>
    exact (RouterProgram.txBroadcast_triple hguards trivial data ignoreLocal).imp
      (fun _ hs => hs.1) (fun _ _ hs => hs) fun _ hs => hs
  | toSide src dst data =>
    exact (RouterProgram.txToSide_triple hguards src dst data ignoreLocal).imp
      (fun _ hs => hs.1) (fun _ _ hs => hs) fun _ hs => hs
  | endToEndReplay packetId => exact h.txEndToEndReplay_triple depth packetId
  | reliableReplay dst bytes =>
    exact (h.keeps_txReliableReplay dst bytes).triple.imp
      (fun _ hs => hs.1) (fun _ _ hs => hs) fun _ hs => hs

theorem sendFront_triple :
    Program.Triple (fun s => inv s ∧ s.inner.PendingLive)
      (RouterProgram.sendFront B w (RouterProgram.reportError B w depth)) (fun _ => inv) inv := by
  rintro s ⟨hs, hlive⟩
  unfold RouterProgram.sendFront
  split
  · exact ⟨fun _ _ => hs, fun _ _ => hs⟩
  · rename_i queued rest _
    have hpopped : inv { s with inner := { s.inner with transmitQueue := rest } } :=
      h.innerFrame hs ⟨rfl, rfl⟩
    have hlive' : RouterInner.PendingLive { s.inner with transmitQueue := rest } :=
      hlive.congr rfl rfl
    exact h.txItemImpl_triple depth queued.item queued.ignoreLocal _ ⟨hpopped, hlive'⟩

theorem keeps_processTx :
    Program.Keeps inv (RouterProgram.processTx B w (RouterProgram.reportError B w depth)) := by
  refine Program.Keeps.bind (h.keeps_onInner fun st => ?_) fun _ => ?_
  · exact (hop_closed (B := B) st).processReliableTimeouts w.now st ⟨rfl, rfl⟩
  · exact (h.processEndToEndReliableTimeouts_triple.bind fun _ => h.sendFront_triple depth).keeps

theorem keeps_processRx (isr : Option (RouterRxItem S)) :
    Program.Keeps inv (RouterProgram.processRx B w (RouterProgram.reportError B w depth) isr) := by
  cases isr with
  | some item => exact (h.arrivals depth).keeps_rxItem (fun _ => trivial) item true
  | none =>
    intro s hs
    unfold RouterProgram.processRx
    dsimp only
    split
    · exact hs
    · exact (h.arrivals depth).keeps_rxItem (fun _ => trivial) _ true _ (h.innerFrame hs ⟨rfl, rfl⟩)

end Draining

section Configuration

theorem keeps_changeInner {change : RouterInner S → Outcome (RouterInner S)}
    (hsame : ∀ {st st'}, change st = .ok st' → st.SameEntries st') :
    Program.Keeps inv (RouterProgram.changeInner change) := by
  intro s hs
  unfold RouterProgram.changeInner
  split
  · exact hs
  · rename_i inner hchange
    exact h.innerFrame hs (hsame hchange)

theorem keeps_setRule (src dst : Option Nat) {set : RoutingTable S → RoutingTable S}
    (hset : ∀ table, (set table).reliableReturnRoutes = table.reliableReturnRoutes ∧
      (set table).reliableReturnRouteOrder = table.reliableReturnRouteOrder) :
    Program.Keeps inv (RouterProgram.setRule src dst set) := by
  refine Program.Keeps.read.bind fun _ => (Program.Keeps.of _).bind fun _ s hs => ?_
  exact h.frame hs ⟨⟨rfl, rfl⟩, (hset s.table).1, (hset s.table).2⟩ rfl

theorem keeps_removeSide (side : Nat) : Program.Keeps inv (RouterProgram.removeSide B side) := by
  refine (h.keeps_changeInner fun hremoved => ?_).bind fun _ s hs => ?_
  · obtain ⟨_, -, hremoved⟩ := bind_eq_ok.mp hremoved
    obtain rfl := Except.ok.inj hremoved
    exact ⟨rfl, rfl⟩
  · exact h.step (.removeSide s side) hs

end Configuration

/-- Whatever is asked of the router. -/
theorem keeps_call (depth : Nat) (call : RouterCall S) : Program.Keeps inv (call.run B w depth) := by
  cases call with
  | tx data => exact (RouterProgram.txBroadcast_triple (h.guards depth) trivial data false).keeps
  | txQueue data => exact RouterProgram.keeps_txQueueItemWithFlags h.effects _ _
  | rx item => exact (h.arrivals depth).keeps_rxItem (fun _ => trivial) item false
  | rxQueue item =>
    exact h.keeps_onInner fun st =>
      (RouterInner.pushReceived_keeps (B := B) st item).1.sameEntries
  | processTx => exact h.keeps_processTx depth
  | processRx isr => exact h.keeps_processRx depth isr
  | pollTimesync queued => exact .forEach fun data _ => RouterProgram.keeps_txQueueItemWithFlags h.effects _ _
  | pruneDiscoveryRoutes => exact h.keeps_onInner fun _ => ⟨rfl, rfl⟩
  | reconcileEndToEndReliableDestinations => exact fun s hs => h.step (.reconcile s) hs
  | fitDiscoveryBudget =>
    exact h.keeps_onInner fun st =>
      (RouterInner.fitDiscoveryBudget_keeps (B := B) st).1.sameEntries
  | queueDiscoveryAnnounce dst pkt => exact RouterProgram.keeps_txQueueItemWithFlags h.effects _ _
  | clearQueues => exact h.keeps_onInner fun _ => ⟨rfl, rfl⟩
  | clearRxQueue => exact h.keeps_onInner fun _ => ⟨rfl, rfl⟩
  | clearTxQueue => exact h.keeps_onInner fun _ => ⟨rfl, rfl⟩
  | addSide side => exact h.keeps_onInner fun _ => ⟨rfl, rfl⟩
  | removeSide side => exact h.keeps_removeSide side
  | setSideIngressEnabled side enabled =>
    refine h.keeps_changeInner fun hset => ?_
    obtain ⟨_, -, hset⟩ := bind_eq_ok.mp hset
    obtain rfl := Except.ok.inj hset
    exact ⟨rfl, rfl⟩
  | setSideEgressEnabled side enabled =>
    refine h.keeps_changeInner fun hset => ?_
    obtain ⟨_, -, hset⟩ := bind_eq_ok.mp hset
    obtain rfl := Except.ok.inj hset
    exact ⟨rfl, rfl⟩
  | setSourceRouteMode src mode => exact h.keeps_setRule _ _ fun _ => ⟨rfl, rfl⟩
  | setRouteWeight key weight => exact h.keeps_setRule _ _ fun _ => ⟨rfl, rfl⟩
  | setRoutePriority key priority => exact h.keeps_setRule _ _ fun _ => ⟨rfl, rfl⟩
  | setRoute key enabled => exact h.keeps_setRule _ _ fun _ => ⟨rfl, rfl⟩
  | setTypedRoute key enabled => exact h.keeps_setRule _ _ fun _ => ⟨rfl, rfl⟩

end KeptByCallSteps

/-- What every step keeps, every run keeps. -/
theorem RouterRun.invariant {S : Schema} {B : Build} {inv : RouterState S → Prop}
    (hstep : ∀ {w : RouterWorld S} {note s s'}, CallStep B w note s s' → inv s → inv s')
    (hsound : ∀ s, inv s → s.inner.EntriesSound) {n : Nat} {s s' : RouterState S}
    (hrun : RouterRun B n s s') (hs : inv s) : inv s' := by
  refine Layered.invariant (fun {r s s'} hr hcall hs => ?_) hrun hs
  obtain ⟨w, depth, call, hreacts, rfl⟩ := hcall
  have hkept : KeptByCallSteps B w inv :=
    ⟨hstep, fun callback s hs => hr _ _ (hreacts.callbacks callback s) hs, hreacts.sides, hsound⟩
  exact hkept.keeps_call depth call s hs

end Sedsprintf
