import Sedsprintf.Router.Moves
import Sedsprintf.Stores.Leaving
import Sedsprintf.Replays

/-!
# The two ledgers of a router

Hop replays and end-to-end replays share the transmit queue, so every push, clear
or eviction concerns both. `FlagSafe` is what an action must not do to a queued
replay that an entry still waits for.
-/
namespace Sedsprintf

open Lib

section EndToEndEntries
variable {S : Schema}

/-- Every entry of `sent'` was one of `sent`, with its flag. -/
structure EndToEndFewer (sent' sent : OrdMap UInt64 (EndToEndReliableSent S)) : Prop where
  entry : ∀ {id : UInt64} {e' : EndToEndReliableSent S}, sent'[id]? = some e' →
    ∃ e : EndToEndReliableSent S, sent[id]? = some e ∧ e.queued = e'.queued

namespace EndToEndFewer
variable {sent sent' sent'' : OrdMap UInt64 (EndToEndReliableSent S)}

theorem refl (sent : OrdMap UInt64 (EndToEndReliableSent S)) : EndToEndFewer sent sent :=
  ⟨fun h => ⟨_, h, rfl⟩⟩

theorem of_eq (h : sent' = sent) : EndToEndFewer sent' sent := h ▸ refl sent

theorem trans (h' : EndToEndFewer sent'' sent') (h : EndToEndFewer sent' sent) :
    EndToEndFewer sent'' sent where
  entry he := by
    obtain ⟨e', he', hqueued'⟩ := h'.entry he
    obtain ⟨e, he, hqueued⟩ := h.entry he'
    exact ⟨e, he, hqueued.trans hqueued'⟩

theorem erase (sent : OrdMap UInt64 (EndToEndReliableSent S)) (id : UInt64) :
    EndToEndFewer (sent.erase id) sent where
  entry {k e'} he := by
    rw [OrdMap.get?_erase] at he
    split at he
    · cases he
    · exact ⟨e', he, rfl⟩

/-- An entry is replaced by one with its flag. -/
theorem insert {id : UInt64} {e e' : EndToEndReliableSent S} (he : sent[id]? = some e)
    (hqueued : e.queued = e'.queued) : EndToEndFewer (sent.insert id e') sent where
  entry {k e''} hk := by
    rw [OrdMap.get?_insert] at hk
    split at hk
    · rename_i heq
      subst heq
      obtain rfl := Option.some.inj hk
      exact ⟨e, he, hqueued⟩
    · exact ⟨e'', hk, rfl⟩

theorem foldl_erase (ids : List UInt64) (sent : OrdMap UInt64 (EndToEndReliableSent S)) :
    EndToEndFewer (ids.foldl (fun sent id => sent.erase id) sent) sent := by
  induction ids generalizing sent with
  | nil => exact refl sent
  | cons id rest ih => exact (ih _).trans (erase sent id)

end EndToEndFewer

namespace RouterInner
variable (B : Build)

theorem forgetOldest_fewer (cap : Nat) (order : List UInt64)
    (sent : OrdMap UInt64 (EndToEndReliableSent S)) :
    EndToEndFewer (forgetOldest cap order sent).2 sent := by
  induction order generalizing sent with
  | nil => exact .refl sent
  | cons oldest rest ih =>
    unfold forgetOldest
    split
    · exact (ih _).trans (.erase sent oldest)
    · exact .refl sent

theorem reconcileLoop_fewer (expected : UInt64 → Outcome (OrdMap UInt64 Nat)) (ids : List UInt64)
    (sent : OrdMap UInt64 (EndToEndReliableSent S)) :
    EndToEndFewer (reconcileLoop expected sent ids).1 sent := by
  induction ids generalizing sent with
  | nil => exact .refl sent
  | cons id rest ih =>
    unfold reconcileLoop
    split
    · exact ih sent
    · rename_i entry hentry
      split
      · exact .refl sent
      · split
        · rename_i destinations _ _
          have hinsert : EndToEndFewer (sent.insert id { entry with
              pendingDestinations := entry.pendingDestinations.filterMap
                fun hash _ => destinations[hash]? }) sent := .insert hentry rfl
          have hnext := (ih _).trans hinsert
          dsimp only
          split <;> rename_i heq <;> rw [heq] at hnext <;> exact hnext
        · exact ih sent

theorem endToEndTimeoutEntry_fewer (now : UInt64) (id : UInt64)
    (sent : OrdMap UInt64 (EndToEndReliableSent S)) :
    EndToEndFewer (endToEndTimeoutEntry B now sent id).1 sent := by
  unfold endToEndTimeoutEntry
  split
  · exact .refl sent
  · rename_i entry hget
    split
    · exact .refl sent
    · split
      · exact .erase sent id
      · exact .insert hget rfl

theorem endToEndTimeoutScan_fewer (now : UInt64) (ids : List UInt64)
    (sent : OrdMap UInt64 (EndToEndReliableSent S)) :
    EndToEndFewer (endToEndTimeoutScan B now sent ids).1 sent := by
  induction ids generalizing sent with
  | nil => exact .refl sent
  | cons id rest ih => exact (ih _).trans (endToEndTimeoutEntry_fewer B now id sent)

theorem handleEndToEndAck_fewer (st : RouterInner S) (packetId : UInt64) (sender : Option UInt64) :
    EndToEndFewer (st.handleEndToEndAck packetId sender).endToEndReliableTx
      st.endToEndReliableTx := by
  unfold handleEndToEndAck
  split
  · exact .refl _
  · rename_i sent hsent
    split
    · exact .erase _ _
    · dsimp only
      split
      · exact .erase _ _
      · exact .insert hsent rfl

theorem handleEndToEndAck_queue (st : RouterInner S) (packetId : UInt64) (sender : Option UInt64) :
    (st.handleEndToEndAck packetId sender).transmitQueue = st.transmitQueue := by
  unfold handleEndToEndAck
  split
  · rfl
  · split
    · rfl
    · dsimp only
      split <;> rfl

end RouterInner
end EndToEndEntries

namespace RouterInner
variable {B : Build} {S : Schema}

/-- The packet an item of the transmit queue replays end to end. -/
def TxQueued.endToEnd? (queued : TxQueued S) : Option UInt64 :=
  match queued.item with
  | .endToEndReplay packetId => some packetId
  | _ => none

def endToEndReplays (st : RouterInner S) : List UInt64 :=
  st.transmitQueue.q.filterMap TxQueued.endToEnd?

theorem mem_replays_iff {st : RouterInner S} {dst : Nat} {bytes : List UInt8} :
    (dst, bytes) ∈ (hop B).replays st ↔
      ∃ queued ∈ st.transmitQueue.q, queued.item = .reliableReplay dst bytes := by
  refine List.mem_filterMap.trans (exists_congr fun queued => and_congr_right fun _ => ?_)
  unfold TxQueued.replay?
  split <;> simp_all

theorem mem_endToEndReplays_iff {st : RouterInner S} {packetId : UInt64} :
    packetId ∈ st.endToEndReplays ↔
      ∃ queued ∈ st.transmitQueue.q, queued.item = .endToEndReplay packetId := by
  refine List.mem_filterMap.trans (exists_congr fun queued => and_congr_right fun _ => ?_)
  unfold TxQueued.endToEnd?
  split <;> simp_all

def endToEndFlag (st : RouterInner S) (id : UInt64) : Option Bool :=
  st.endToEndReliableTx[id]?.map fun sent => sent.queued

/-- Between two states no replay is lost that a history entry or a pending packet
still waits for. -/
structure LosesNoReplay (B : Build) (st st' : RouterInner S) : Prop where
  hop : (hop B).KeepsReplays B st st'
  endToEnd : ∀ id ∈ st.endToEndReplays, id ∈ st'.endToEndReliableTx → id ∈ st'.endToEndReplays

/-- The flags of both kinds tell the truth about the transmit queue. -/
structure Ledgers (B : Build) (st : RouterInner S) : Prop where
  hop : (hop B).FlagLedger B st
  endToEnd : Truthful st.endToEndFlag st.endToEndReplays

namespace Ledgers
variable {st st' : RouterInner S}

theorem new (h : RouterInner.new B = .ok st) : st.Ledgers B := by
  obtain ⟨received, -, h⟩ := bind_eq_ok.mp h
  obtain ⟨transmit, htransmit, h⟩ := bind_eq_ok.mp h
  obtain ⟨recent, -, h⟩ := bind_eq_ok.mp h
  obtain rfl := Except.ok.inj h
  have hempty : transmit.q = [] := (BoundedDeque.new_eq_ok htransmit).1
  refine ⟨.empty rfl ?_, ?_⟩
  · simp [RouterInner.hop, hempty]
  · simp only [endToEndReplays, hempty, List.filterMap_nil]
    exact .empty _ fun id => by simp [endToEndFlag]

theorem keepsLive (h : LosesNoReplay B st st') :
    KeepsLive st'.endToEndFlag st.endToEndReplays st'.endToEndReplays := by
  intro id hid hlive
  obtain ⟨b, hb⟩ := Option.isSome_iff_exists.mp hlive
  obtain ⟨e, he, -⟩ := Option.map_eq_some_iff.mp hb
  exact h.endToEnd id hid (OrdMap.mem_iff_get?.mpr ⟨e, he⟩)

theorem endToEndFlag_of_fewer
    (hentries : EndToEndFewer st'.endToEndReliableTx st.endToEndReliableTx) {id : UInt64} {b : Bool}
    (h : st'.endToEndFlag id = some b) : st.endToEndFlag id = some b := by
  obtain ⟨e', he', rfl⟩ := Option.map_eq_some_iff.mp h
  obtain ⟨e, he, hqueued⟩ := hentries.entry he'
  simp [endToEndFlag, he, hqueued]

/-- Entries and queued items go, but no replay that is still waited for. -/
theorem lose (h : st.Ledgers B) (hstreams : TxStreams.Fewer st'.reliableTx st.reliableTx)
    (hentries : EndToEndFewer st'.endToEndReliableTx st.endToEndReliableTx)
    (hreplays : ((RouterInner.hop B).replays st').Subperm ((RouterInner.hop B).replays st))
    (hendToEnd : st'.endToEndReplays.Subperm st.endToEndReplays)
    (hkept : LosesNoReplay B st st') : st'.Ledgers B :=
  ⟨h.hop.lose hstreams hreplays hkept.hop,
    h.endToEnd.lose (endToEndFlag_of_fewer hentries) hendToEnd (keepsLive hkept)⟩

/-- The queue stands. -/
theorem forget (h : st.Ledgers B) (hstreams : TxStreams.Fewer st'.reliableTx st.reliableTx)
    (hentries : EndToEndFewer st'.endToEndReliableTx st.endToEndReliableTx)
    (hqueue : st'.transmitQueue = st.transmitQueue) : st'.Ledgers B := by
  have hreplays : (RouterInner.hop B).replays st' = (RouterInner.hop B).replays st :=
    congrArg (fun queue => queue.q.filterMap TxQueued.replay?) hqueue
  have hendToEnd : st'.endToEndReplays = st.endToEndReplays :=
    congrArg (fun queue => queue.q.filterMap TxQueued.endToEnd?) hqueue
  refine h.lose hstreams hentries (by rw [hreplays]) (by rw [hendToEnd]) ⟨fun r hr _ => ?_, ?_⟩
  · rw [hreplays]
    exact hr
  · intro id hid _
    rw [hendToEnd]
    exact hid

/-- Items leave the queue. -/
theorem evict (h : st.Ledgers B) (hstreams : TxStreams.Fewer st'.reliableTx st.reliableTx)
    (hentries : EndToEndFewer st'.endToEndReliableTx st.endToEndReliableTx)
    (hqueue : st'.transmitQueue.q.Sublist st.transmitQueue.q)
    (hkept : LosesNoReplay B st st') : st'.Ledgers B :=
  h.lose hstreams hentries (hqueue.filterMap _).subperm (hqueue.filterMap _).subperm hkept

/-- An ordinary item is pushed. -/
theorem push {queued : TxQueued S} {result : Outcome Unit} (h : st.Ledgers B)
    (hpush : PushesTransmit B st queued st' result) (hreplay : TxQueued.replay? queued = none)
    (hendToEnd : TxQueued.endToEnd? queued = none) (hkept : LosesNoReplay B st st') :
    st'.Ledgers B := by
  have hentries : EndToEndFewer st'.endToEndReliableTx st.endToEndReliableTx := by
    rw [hpush.endToEndReliableTx]
    exact .refl _
  rcases hpush.contents with ⟨kept, hsub, hperm, -⟩ | ⟨hsub, -⟩
  · refine h.lose (.of_eq hpush.reliableTx) hentries ?_ ?_ hkept
    · have hitems := hperm.filterMap TxQueued.replay?
      rw [List.filterMap_cons, hreplay] at hitems
      exact hitems.subperm.trans (hsub.filterMap _).subperm
    · have hitems := hperm.filterMap TxQueued.endToEnd?
      rw [List.filterMap_cons, hendToEnd] at hitems
      exact hitems.subperm.trans (hsub.filterMap _).subperm
  · exact h.evict (.of_eq hpush.reliableTx) hentries hsub hkept

end Ledgers

section Safety
variable (B)

/-- The queued replays that are waited for are all among `left`. -/
structure AwaitedIn (st : RouterInner S) (left : List (TxQueued S)) : Prop where
  hop : ∀ r ∈ (hop B).replays st, st.reliableTx.Awaits B r → r ∈ left.filterMap TxQueued.replay?
  endToEnd : ∀ id ∈ st.endToEndReplays, id ∈ st.endToEndReliableTx →
    id ∈ left.filterMap TxQueued.endToEnd?

/-- Room for `cost` bytes costs no replay that is waited for. -/
def RoomSpares (st : RouterInner S) (cost : Nat) (preferred : StoreKind RouterQueueKind) : Prop :=
  st.AwaitedIn B (st.transmitQueue.q.drop
    (Stores.taken B B.wordSize (RouterQueues.set B) st.stores cost preferred .transmit))

/-- A push into the transmit queue, accepted or not, costs none. -/
def PushSpares (st : RouterInner S) (queued : TxQueued S) : Prop :=
  st.AwaitedIn B (Stores.leaves B B.wordSize (RouterQueues.bank B) st.stores .transmit queued)

/-- `push_transmit` accepts the item. -/
def Admits (st : RouterInner S) (queued : TxQueued S) : Prop :=
  Stores.Admits B B.wordSize (RouterQueues.bank B) st.stores .transmit queued

instance (st : RouterInner S) (queued : TxQueued S) : Decidable (st.Admits B queued) :=
  Stores.decidableAdmits B B.wordSize (RouterQueues.bank B) st.stores .transmit queued

/-- The transmit queue takes the item, and it costs none. -/
def Takes (st : RouterInner S) (queued : TxQueued S) : Prop :=
  st.Admits B queued ∧ st.PushSpares B queued

def TakesReplay (st : RouterInner S) (dst : Nat) (bytes : List UInt8) (priority : UInt8) : Prop :=
  st.Takes B ⟨.reliableReplay dst bytes, true, priority⟩

/-- Where `queue_end_to_end_reliable_retransmit` pushes a replay, the queue takes it. -/
def EndToEndRequestSafe (st : RouterInner S) (packetId : UInt64) : Prop :=
  ∀ sent, st.endToEndReliableTx[packetId]? = some sent → sent.queued = false →
    Takes B { st with
        endToEndReliableTx := st.endToEndReliableTx.insert packetId { sent with queued := true } }
      ⟨.endToEndReplay packetId, true, bumpedPriority S.reliableAck⟩

def RequeueEndToEndSafe : RouterInner S → List UInt64 → Prop
  | _, [] => True
  | st, id :: rest =>
    st.EndToEndRequestSafe B id ∧
      RequeueEndToEndSafe (st.queueEndToEndReliableRetransmit B id).1 rest

/-- The pushes of `process_end_to_end_reliable_timeouts`. -/
def EndToEndTimeoutsSafe (expected : UInt64 → Outcome (OrdMap UInt64 Nat)) (now : UInt64)
    (st : RouterInner S) : Prop :=
  match reconcileLoop expected st.endToEndReliableTx st.endToEndReliableTx.keys with
  | (_, .error _) => True
  | (sent, .ok completed) =>
    let sent := completed.foldl (fun sent id => sent.erase id) sent
    let scanned := endToEndTimeoutScan B now sent sent.keys
    RequeueEndToEndSafe B { st with endToEndReliableTx := scanned.1 } scanned.2

/-- A hop replay at the front of the transmit queue goes out, or finds the gate busy
and is taken back. -/
def ProcessSafe (tx : SideTx S) (st : RouterInner S) : Prop :=
  ∀ queued rest dst bytes, st.transmitQueue.popFront (TxQueued.byteCost B) = some (queued, rest) →
    queued.item = .reliableReplay dst bytes →
    (hop B).ReplaySafe B (TakesReplay B) (fun st => st.sendReliableRawToSide B tx dst bytes)
      bumpedPriority { st with transmitQueue := rest } (dst, bytes)

/-- No queued replay is waited for. -/
def NoneAwaited (st : RouterInner S) : Prop :=
  (∀ r ∈ (hop B).replays st, ¬st.reliableTx.Awaits B r) ∧
    ∀ id ∈ st.endToEndReplays, id ∉ st.endToEndReliableTx

end Safety

section Sparing
variable {st st' : RouterInner S} {queued : TxQueued S}

theorem AwaitedIn.losesNoReplay {left : List (TxQueued S)} (h : st.AwaitedIn B left)
    (hkeeps : Keeps B st st') (hqueue : left ⊆ st'.transmitQueue.q) : LosesNoReplay B st st' where
  hop r hr hawaits := List.filterMap_subset _ hqueue (h.hop r hr (hkeeps.reliableTx ▸ hawaits))
  endToEnd id hid hlive :=
    List.filterMap_subset _ hqueue (h.endToEnd id hid (hkeeps.endToEndReliableTx ▸ hlive))

/-- The queues make room for something else. -/
theorem Ledgers.evicted {gone : Nat} (h : st.Ledgers B) (hkeeps : Keeps B st st')
    (hqueue : st'.transmitQueue.q = st.transmitQueue.q.drop gone)
    (hspares : st.AwaitedIn B (st.transmitQueue.q.drop gone)) : st'.Ledgers B := by
  refine h.evict (.of_eq hkeeps.reliableTx) (.of_eq hkeeps.endToEndReliableTx) ?_
    (hspares.losesNoReplay hkeeps (hqueue ▸ List.Subset.refl _))
  rw [hqueue]
  exact List.drop_sublist _ _

theorem pushTransmit_queue (st : RouterInner S) (queued : TxQueued S) :
    (st.pushTransmit B queued).1.transmitQueue.q = (Stores.push B B.wordSize (RouterQueues.bank B)
      st.stores .transmit queued).1.1.transmitQueue.q := by
  rw [pushTransmit_eq]
  rfl

theorem PushSpares.losesNoReplay (hkept : st.Kept B) (h : st.PushSpares B queued) :
    LosesNoReplay B st (st.pushTransmit B queued).1 := by
  obtain ⟨haccepted, hrefused⟩ := Stores.push_leaves hkept .transmit queued
  refine AwaitedIn.losesNoReplay h (pushTransmit_pushes st queued).toKeeps ?_
  rw [pushTransmit_queue]
  by_cases hadmits : st.Admits B queued
  · exact fun item hitem => (haccepted hadmits).2.symm.subset (List.mem_cons_of_mem _ hitem)
  · intro item hitem
    rw [← hrefused hadmits] at hitem
    exact hitem

theorem Takes.accepted (hkept : st.Kept B) (h : st.Takes B queued) :
    (st.pushTransmit B queued).2 = .ok () := by
  rw [pushTransmit_eq]
  exact ((Stores.push_leaves hkept .transmit queued).1 h.1).1

theorem closed_kept : (hop B).Closed (Kept (S := S) B) where
  setStreams hkept := hkept.moves (.single (.other rfl rfl rfl rfl))
  pushReplay hkept := hkept.moves (StoreMoves.pushTransmit _ _)

theorem taking : (hop B).Taking (S := S) B (TakesReplay B) (Kept B) where
  toClosed := closed_kept
  accepted hkept htakes := ⟨htakes.accepted hkept, (htakes.2.losesNoReplay hkept).hop⟩

end Sparing

section EndToEnd
variable {st st' : RouterInner S}

theorem queueEndToEndReliableRetransmit_ledgers (hkept : st.Kept B) (h : st.Ledgers B)
    {packetId : UInt64}
    (hsafe : st.EndToEndRequestSafe B packetId) :
    (st.queueEndToEndReliableRetransmit B packetId).1.Ledgers B := by
  unfold queueEndToEndReliableRetransmit
  split
  · exact h
  · rename_i sent hsent
    split
    · exact h
    · rename_i hq
      have hq : sent.queued = false := by simpa using hq
      have htakes := hsafe sent hsent hq
      have hok := htakes.accepted (by exact hkept)
      have hlost := htakes.2.losesNoReplay (by exact hkept)
      have hpush := pushTransmit_pushes (B := B) { st with
        endToEndReliableTx := st.endToEndReliableTx.insert packetId { sent with queued := true } }
        ⟨.endToEndReplay packetId, true, bumpedPriority S.reliableAck⟩
      rcases hpush.contents with ⟨kept, hsub, hperm, -⟩ | ⟨-, e, he⟩
      · have hitems := hperm.filterMap TxQueued.replay?
        rw [List.filterMap_cons, show TxQueued.replay? (⟨.endToEndReplay packetId, true,
          bumpedPriority S.reliableAck⟩ : TxQueued S) = none from rfl] at hitems
        have htokens := hperm.filterMap TxQueued.endToEnd?
        rw [List.filterMap_cons, show TxQueued.endToEnd? (⟨.endToEndReplay packetId, true,
          bumpedPriority S.reliableAck⟩ : TxQueued S) = some packetId from rfl] at htokens
        refine ⟨h.hop.lose (.of_eq hpush.reliableTx)
          (hitems.subperm.trans (hsub.filterMap _).subperm) hlost.hop, ?_⟩
        refine h.endToEnd.mark (k := packetId) (by simp [endToEndFlag, hsent, hq])
          (fun {k b} hk => ?_) (hsub.filterMap _) htokens
          (Ledgers.keepsLive ⟨hlost.hop, hlost.endToEnd⟩)
        obtain ⟨e, he, rfl⟩ := Option.map_eq_some_iff.mp hk
        rw [hpush.endToEndReliableTx, OrdMap.get?_insert] at he
        split at he
        · rename_i heq
          obtain rfl := Option.some.inj he
          exact .inl ⟨heq.symm, rfl⟩
        · rename_i hne
          exact .inr ⟨fun heq => hne heq.symm, by simp [endToEndFlag, he]⟩
      · rw [he] at hok
        cases hok

theorem requeueEndToEnd_ledgers (again : List UInt64) (hkept : st.Kept B) (h : st.Ledgers B)
    (hsafe : st.RequeueEndToEndSafe B again) : (st.requeueEndToEnd B again).1.Ledgers B := by
  induction again generalizing st with
  | nil => exact h
  | cons id rest ih =>
    obtain ⟨hfirst, hrest⟩ := hsafe
    have hmark := queueEndToEndReliableRetransmit_ledgers hkept h hfirst
    have hkept' := hkept.moves
      (work_queueEndToEndReliableRetransmit (.moves B B.wordSize (RouterQueues.bank B)) st id)
    unfold requeueEndToEnd
    generalize st.queueEndToEndReliableRetransmit B id = r at hmark hrest hkept'
    obtain ⟨st', _ | ⟨⟨⟩⟩⟩ := r
    · exact hmark
    · exact ih hkept' hmark hrest

theorem processEndToEndReliableTimeouts_ledgers {expected : UInt64 → Outcome (OrdMap UInt64 Nat)}
    {now : UInt64} (hkept : st.Kept B) (h : st.Ledgers B)
    (hsafe : st.EndToEndTimeoutsSafe B expected now) :
    (st.processEndToEndReliableTimeouts B expected now).1.Ledgers B := by
  have hreconciled := reconcileLoop_fewer expected st.endToEndReliableTx.keys st.endToEndReliableTx
  unfold processEndToEndReliableTimeouts
  unfold EndToEndTimeoutsSafe at hsafe
  generalize reconcileLoop expected st.endToEndReliableTx st.endToEndReliableTx.keys = r
    at hsafe hreconciled
  obtain ⟨sent, _ | completed⟩ := r
  · exact h.forget (.of_eq rfl) hreconciled rfl
  · refine requeueEndToEnd_ledgers _ (by exact hkept) (h.forget (.of_eq rfl) ?_ rfl) hsafe
    exact ((endToEndTimeoutScan_fewer B now _ _).trans (.foldl_erase completed sent)).trans
      hreconciled

theorem reconcileEndToEnd_fewer (st : RouterInner S)
    (expected : UInt64 → Outcome (OrdMap UInt64 Nat)) :
    EndToEndFewer (st.reconcileEndToEnd expected).1.endToEndReliableTx st.endToEndReliableTx := by
  have hreconciled := reconcileLoop_fewer expected st.endToEndReliableTx.keys st.endToEndReliableTx
  unfold reconcileEndToEnd
  generalize reconcileLoop expected st.endToEndReliableTx st.endToEndReliableTx.keys = r
    at hreconciled
  obtain ⟨sent, _ | completed⟩ := r
  · exact hreconciled
  · exact (EndToEndFewer.foldl_erase completed sent).trans hreconciled

theorem learnDiscoveryPacket_fewer (st : RouterInner S) (sender : String)
    (expected : UInt64 → Outcome (OrdMap UInt64 Nat)) (now : UInt64) (pkt : Packet S)
    (src : Option Nat) :
    EndToEndFewer (st.learnDiscoveryPacket B sender expected now pkt src).1.endToEndReliableTx
      st.endToEndReliableTx := by
  rcases st.learnDiscoveryPacket_cases (B := B) sender expected now pkt src with
    heq | ⟨_, _, routes, -, heq⟩
  · rw [heq]
    exact .refl _
  · rw [heq]
    have hkeeps := (fitDiscoveryBudget_keeps (B := B)
      ({ st with discoveryRoutes := routes } : RouterInner S)).1
    have hfewer := reconcileEndToEnd_fewer
      (({ st with discoveryRoutes := routes } : RouterInner S).fitDiscoveryBudget B) expected
    rw [hkeeps.endToEndReliableTx] at hfewer
    exact hfewer

/-- A new packet is tracked, and no replay of an older one under its id lingers. -/
theorem registerEndToEndReliableTx_ledgers (h : st.Ledgers B) {packetId : UInt64}
    {data : RouterItem S} {destinations : OrdMap UInt64 Nat} {now : UInt64}
    (hfresh : packetId ∉ st.endToEndReplays) :
    (st.registerEndToEndReliableTx B packetId data destinations now).Ledgers B := by
  refine ⟨h.hop.forget (.of_eq rfl) rfl, h.endToEnd.insert hfresh fun {k b} hk => ?_⟩
  obtain ⟨e, he, rfl⟩ := Option.map_eq_some_iff.mp hk
  simp only [registerEndToEndReliableTx, OrdMap.get?_insert] at he
  split at he
  · rename_i heq
    obtain rfl := Option.some.inj he
    exact .inl ⟨heq.symm, rfl⟩
  · obtain ⟨e', he', hqueued⟩ := (forgetOldest_fewer _ _ _).entry he
    exact .inr (by simp [endToEndFlag, he', hqueued])

/-- What hop operations do to the end-to-end ledger. -/
structure EndToEndStill (st st' : RouterInner S) : Prop where
  entries : st'.endToEndReliableTx = st.endToEndReliableTx
  replays : st'.endToEndReplays.Subperm st.endToEndReplays
  kept : ∀ id ∈ st.endToEndReplays, id ∈ st.endToEndReliableTx → id ∈ st'.endToEndReplays

theorem EndToEndStill.refl (st : RouterInner S) : EndToEndStill st st :=
  ⟨rfl, .refl _, fun _ hid _ => hid⟩

theorem EndToEndStill.trans {st'' : RouterInner S} (h : EndToEndStill st st')
    (h' : EndToEndStill st' st'') : EndToEndStill st st'' where
  entries := h'.entries.trans h.entries
  replays := h'.replays.trans h.replays
  kept id hid hlive := h'.kept id (h.kept id hid hlive) (by rwa [h.entries])

theorem EndToEndStill.truthful (hstill : EndToEndStill st st')
    (h : Truthful st.endToEndFlag st.endToEndReplays) :
    Truthful st'.endToEndFlag st'.endToEndReplays := by
  have hflag : st'.endToEndFlag = st.endToEndFlag := by
    unfold endToEndFlag
    rw [hstill.entries]
  refine h.lose (fun hk => by rwa [hflag] at hk) hstill.replays fun id hid hlive => ?_
  refine hstill.kept id hid ?_
  rw [hflag] at hlive
  obtain ⟨b, hb⟩ := Option.isSome_iff_exists.mp hlive
  obtain ⟨e, he, -⟩ := Option.map_eq_some_iff.mp hb
  exact OrdMap.mem_iff_get?.mpr ⟨e, he⟩

theorem pushTransmit_still {queued : TxQueued S} (hordinary : TxQueued.endToEnd? queued = none)
    (hkept : LosesNoReplay B st (st.pushTransmit B queued).1) :
    EndToEndStill st (st.pushTransmit B queued).1 := by
  have hpush := pushTransmit_pushes (B := B) st queued
  refine ⟨hpush.endToEndReliableTx, ?_, fun id hid hlive => ?_⟩
  · rcases hpush.contents with ⟨kept, hsub, hperm, -⟩ | ⟨hsub, -⟩
    · have hitems := hperm.filterMap TxQueued.endToEnd?
      rw [List.filterMap_cons, hordinary] at hitems
      exact hitems.subperm.trans (hsub.filterMap _).subperm
    · exact (hsub.filterMap _).subperm
  · exact hkept.endToEnd id hid (by rwa [hpush.endToEndReliableTx])

theorem endToEndStill_admits :
    (hop B).Admits (S := S) (TakesReplay B) (Kept B) EndToEndStill where
  toClosed := closed_kept
  refl := .refl
  trans := .trans
  streams _ _ := ⟨rfl, .refl _, fun _ hid _ => hid⟩
  replay hkept htakes := pushTransmit_still rfl (htakes.2.losesNoReplay hkept)

end EndToEnd

section Processing
variable {st : RouterInner S} {tx : SideTx S}

theorem endToEndRetransmitSides_ledgers {packetId now : UInt64} {popped : RouterInner S}
    (h : st.Ledgers B) (hstreams : popped.reliableTx = st.reliableTx)
    (hentries : popped.endToEndReliableTx = st.endToEndReliableTx)
    (hreplays : (hop B).replays popped = (hop B).replays st)
    (hpop : st.endToEndReplays = packetId :: popped.endToEndReplays) :
    (popped.endToEndRetransmitSides packetId now).Ledgers B := by
  have hqueue : (popped.endToEndRetransmitSides packetId now).transmitQueue =
      popped.transmitQueue := by
    unfold endToEndRetransmitSides
    split
    · rfl
    · split <;> rfl
  have hsame : (popped.endToEndRetransmitSides packetId now).reliableTx = st.reliableTx :=
    (endToEndRetransmitSides_frame (B := B) popped packetId now).1.trans hstreams
  refine ⟨h.hop.forget (.of_eq hsame) ?_, ?_⟩
  · exact (congrArg (fun queue => queue.q.filterMap TxQueued.replay?) hqueue).trans hreplays
  · have htokens : (popped.endToEndRetransmitSides packetId now).endToEndReplays =
        popped.endToEndReplays :=
      congrArg (fun queue => queue.q.filterMap TxQueued.endToEnd?) hqueue
    have hledger := h.endToEnd
    rw [hpop] at hledger
    rw [htokens]
    refine hledger.settle fun {k b} hk => ?_
    obtain ⟨e, he, rfl⟩ := Option.map_eq_some_iff.mp hk
    unfold endToEndRetransmitSides at he
    split at he
    · rename_i hnone
      rw [hentries] at he
      refine .inr ⟨fun heq => ?_, by simp [endToEndFlag, he]⟩
      rw [hentries, ← heq, he] at hnone
      cases hnone
    · split at he
      · simp only [OrdMap.get?_erase] at he
        split at he
        · cases he
        · rename_i hne
          rw [hentries] at he
          exact .inr ⟨fun heq => hne heq.symm, by simp [endToEndFlag, he]⟩
      · simp only [OrdMap.get?_insert] at he
        split at he
        · rename_i heq
          obtain rfl := Option.some.inj he
          exact .inl ⟨heq.symm, rfl⟩
        · rename_i hne
          rw [hentries] at he
          exact .inr ⟨fun heq => hne heq.symm, by simp [endToEndFlag, he]⟩

theorem txReliableReplay_ledgers {dst : Nat} {bytes : List UInt8} {popped : RouterInner S}
    (hkept : popped.Kept B) (h : st.Ledgers B) (hstreams : popped.reliableTx = st.reliableTx)
    (hentries : popped.endToEndReliableTx = st.endToEndReliableTx)
    (hpop : (hop B).replays st = (dst, bytes) :: (hop B).replays popped)
    (hreplays : popped.endToEndReplays = st.endToEndReplays)
    (hsafe : (hop B).ReplaySafe B (TakesReplay B) (fun st => st.sendReliableRawToSide B tx dst bytes)
      bumpedPriority popped (dst, bytes)) :
    (popped.txReliableReplay B tx dst bytes).1.Ledgers B := by
  -- the type of a replay that has a key can be peeked
  have hback {key : StreamKey S} {seq : UInt32} (hkey : replayKey B S (dst, bytes) = some (key, seq))
      (st : RouterInner S) : st.txQueueItemWithFlags B (.reliableReplay dst bytes) true =
        (hop B).pushReplay st dst bytes (bumpedPriority key.ty) := by
    unfold replayKey at hkey
    split at hkey
    · rename_i env hdr hpeek
      obtain ⟨rfl, -⟩ := Prod.mk.inj (Option.some.inj hkey)
      simp only [txQueueItemWithFlags, peekEnvelope_of_peekFrameInfo hpeek, ok_bind]
      rfl
    · cases hkey
  refine ⟨HopNode.processReplay_ledger taking hback hkept h.hop hpop hstreams hsafe, ?_⟩
  have hstill : EndToEndStill st popped :=
    ⟨hentries, by rw [hreplays], fun id hid _ => by rwa [hreplays]⟩
  exact (hstill.trans (endToEndStill_admits.processReplay hback hkept hsafe)).truthful h.endToEnd

theorem processFront_ledgers (hkept : st.Kept B) (h : st.Ledgers B) (hsafe : st.ProcessSafe B tx) :
    (st.processFront B tx).1.Ledgers B := by
  unfold processFront
  split
  · exact h
  · rename_i queued rest hpop
    have hq := BoundedDeque.popFront_eq_some hpop
    have hreplays : (hop B).replays st = (TxQueued.replay? queued).toList ++
        (hop B).replays { st with transmitQueue := rest } := by
      simp only [hop, hq, List.filterMap_cons]
      cases TxQueued.replay? queued <;> rfl
    have hendToEnd : st.endToEndReplays = (TxQueued.endToEnd? queued).toList ++
        ({ st with transmitQueue := rest } : RouterInner S).endToEndReplays := by
      simp only [endToEndReplays, hq, List.filterMap_cons]
      cases TxQueued.endToEnd? queued <;> rfl
    dsimp only
    split
    · rename_i dst bytes hitem
      refine txReliableReplay_ledgers (hkept.moves (StoreMoves.loseTransmit st (.popFront hpop))) h
        rfl rfl ?_ ?_ (hsafe queued rest dst bytes hpop hitem)
      · simpa [TxQueued.replay?, hitem] using hreplays
      · simpa [TxQueued.endToEnd?, hitem] using hendToEnd.symm
    · rename_i packetId hitem
      refine endToEndRetransmitSides_ledgers h rfl rfl ?_ ?_
      · simpa [TxQueued.replay?, hitem] using hreplays.symm
      · simpa [TxQueued.endToEnd?, hitem] using hendToEnd
    · rename_i hnotReplay hnotEndToEnd
      have hreplay : TxQueued.replay? queued = none := by
        unfold TxQueued.replay?
        split
        · rename_i dst bytes hitem
          exact absurd hitem (hnotReplay dst bytes)
        · rfl
      have hordinary : TxQueued.endToEnd? queued = none := by
        unfold TxQueued.endToEnd?
        split
        · rename_i packetId hitem
          exact absurd hitem (hnotEndToEnd packetId)
        · rfl
      rw [hreplay] at hreplays
      rw [hordinary] at hendToEnd
      refine ⟨h.hop.forget (.of_eq rfl) hreplays.symm, ?_⟩
      have hledger := h.endToEnd
      rw [hendToEnd] at hledger
      exact hledger

end Processing

section Maintenance
variable {st st' : RouterInner S}

/-- Dropping what goes to one side. -/
theorem losesNoReplay_of_retain {side : Nat}
    (hqueue : st'.transmitQueue.q = st.transmitQueue.q.filter fun queued => !targets side queued)
    (hgone : ∀ r ∈ (hop B).replays st, r.1 = side → ¬st'.reliableTx.Awaits B r) :
    LosesNoReplay B st st' := by
  refine ⟨fun r hr hawaits => ?_, fun id hid _ => ?_⟩
  · obtain ⟨queued, hmem, hreplay⟩ := List.mem_filterMap.mp hr
    refine List.mem_filterMap.mpr ⟨queued, ?_, hreplay⟩
    rw [hqueue]
    refine List.mem_filter.mpr ⟨hmem, ?_⟩
    unfold TxQueued.replay? at hreplay
    split at hreplay
    · rename_i dst bytes hitem
      obtain rfl := Option.some.inj hreplay
      have hne : dst ≠ side := fun heq => hgone _ hr heq hawaits
      simp [targets, hitem, hne]
    · cases hreplay
  · obtain ⟨queued, hmem, hreplay⟩ := List.mem_filterMap.mp hid
    refine List.mem_filterMap.mpr ⟨queued, ?_, hreplay⟩
    rw [hqueue]
    refine List.mem_filter.mpr ⟨hmem, ?_⟩
    unfold TxQueued.endToEnd? at hreplay
    split at hreplay
    · rename_i packetId hitem
      simp [targets, hitem]
    · cases hreplay

/-- A removed side takes its entries with it. -/
theorem removeSide_ledgers {side : Nat} (h : st.Ledgers B) (hremoved : st.removeSide B side = .ok st') :
    st'.Ledgers B := by
  obtain ⟨_, -, hremoved⟩ := bind_eq_ok.mp hremoved
  obtain rfl := Except.ok.inj hremoved
  refine h.evict (TxStreams.removeSide_fewer side) (.refl _) List.filter_sublist
    (losesNoReplay_of_retain rfl ?_)
  rintro r - hside ⟨key, seq, hkey, hmem⟩
  rw [replayKey_side hkey] at hside
  dsimp only at hmem
  rw [TxStreams.at_removeSide, if_pos hside] at hmem
  simp [ReliableTxState.fresh] at hmem

theorem setSideEgressEnabled_ledgers {side : Nat} {enabled : Bool} (h : st.Ledgers B)
    (hset : st.setSideEgressEnabled B side enabled = .ok st')
    (hsafe : enabled = false → ∀ r ∈ (hop B).replays st, r.1 = side → ¬st.reliableTx.Awaits B r) :
    st'.Ledgers B := by
  obtain ⟨_, -, hset⟩ := bind_eq_ok.mp hset
  obtain rfl := Except.ok.inj hset
  cases enabled with
  | true => exact h.forget (.of_eq rfl) (.refl _) rfl
  | false =>
    exact h.evict (.of_eq rfl) (.refl _) List.filter_sublist (losesNoReplay_of_retain rfl (hsafe rfl))

theorem clear_ledgers (h : st.Ledgers B) (hnone : st.NoneAwaited B)
    (hstreams : st'.reliableTx = st.reliableTx)
    (hentries : st'.endToEndReliableTx = st.endToEndReliableTx) (hqueue : st'.transmitQueue.q = []) :
    st'.Ledgers B := by
  refine h.evict (.of_eq hstreams) (by rw [hentries]; exact .refl _) (by simp [hqueue])
    ⟨fun r hr hawaits => ?_, fun id hid hlive => ?_⟩
  · exact absurd (by rwa [← hstreams]) (hnone.1 r hr)
  · exact absurd (by rwa [← hentries]) (hnone.2 id hid)

end Maintenance
end RouterInner

namespace RouterSystem
variable {B : Build} {S : Schema} {reliable : Bool} {s s' : RouterSystem S} {a : Action B S}

/-- What an action must not do to a queued replay that is waited for. -/
def FlagSafe (B : Build) (reliable : Bool) (s : RouterSystem S) : Action B S → Prop
  -- a new entry finds no replay of an earlier frame under its number or id
  | .send side data _ _ now => ∀ ty, s.inner.Numbers B reliable now side data ty →
      ∀ r ∈ (RouterInner.hop B).replays s.inner,
        replayKey B S r ≠ some (⟨side, ty⟩, (s.inner.reliableTx.at ⟨side, ty⟩).nextSeq)
  | .register packetId _ _ _ => packetId ∉ s.inner.endToEndReplays
  -- a flag is set only with an accepted push
  | .request key seq => (RouterInner.hop B).RequestSafe (RouterInner.TakesReplay B) s.inner key seq
  | .timeouts now => (RouterInner.hop B).TimeoutsSafe B (RouterInner.TakesReplay B) now s.inner
  | .endToEndTimeouts expected now => s.inner.EndToEndTimeoutsSafe B expected now
  | .process tx => s.inner.ProcessSafe B tx
  -- no push evicts a replay that is waited for
  | .queueBroadcast data ignoreLocal priority =>
    s.inner.PushSpares B ⟨.broadcast data, ignoreLocal, priority⟩
  | .queueToSide src dst data ignoreLocal priority =>
    s.inner.PushSpares B ⟨.toSide src dst data, ignoreLocal, priority⟩
  | .pushReceived item => s.inner.RoomSpares B (item.byteCost B) (.queue .received)
  | .accept key seq bytes => s.inner.AwaitedIn B (s.inner.transmitQueue.q.drop
      (Stores.takenByFrame B B.wordSize (RouterQueues.set B) s.inner.stores key seq bytes .transmit))
  -- nothing that is waited for is cleared away
  | .setSideEgressEnabled side enabled => enabled = false →
      ∀ r ∈ (RouterInner.hop B).replays s.inner, r.1 = side → ¬s.inner.reliableTx.Awaits B r
  | .clearQueues => s.inner.NoneAwaited B
  | .clearTxQueue => s.inner.NoneAwaited B
  | _ => True

theorem ledgers_send {side : Nat} {data : RouterItem S} {resident : data.Resident B}
    {tx : SideTx S} {now : UInt64} (h : s.inner.Ledgers B)
    (hsafe : s.FlagSafe B reliable (.send side data resident tx now))
    (hstep : s.step B reliable (.send side data resident tx now) = some s') :
    s'.inner.Ledgers B := by
  rw [System.sent_inner hstep]
  refine ⟨?_, h.endToEnd⟩
  cases hplan : s.inner.sendPlan B reliable now side data with
  | error e =>
    refine h.hop.forget (.of_eq ?_) rfl
    simp only [RouterInner.hop, RouterInner.sendReliableToSide, hplan]
  | ok planned =>
    obtain ⟨handler, plan⟩ := planned
    simp only [RouterInner.sendReliableToSide, hplan]
    refine HopNode.execute_ledger (n := RouterInner.hop B)
      (RouterInner.sendPlan_fits resident hplan) h.hop ?_
    rintro ty rfl
    exact hsafe ty (RouterInner.sendPlan_number_iff.mp ⟨handler, hplan⟩)

theorem ledgers_of_step (hkept : s.inner.Kept B) (h : s.inner.Ledgers B) (hsafe : s.FlagSafe B reliable a)
    (hstep : s.step B reliable a = some s') : s'.inner.Ledgers B := by
  cases a with
  | addSide side =>
    obtain rfl := Option.some.inj hstep
    exact h.forget (.of_eq rfl) (.refl _) rfl
  | removeSide side =>
    rcases System.sideRemoved_eq_some hstep with rfl | hremoved
    · exact h
    · exact RouterInner.removeSide_ledgers h hremoved
  | setSideEgressEnabled side enabled =>
    rcases System.changed_eq_some hstep with rfl | ⟨inner, hset, rfl⟩
    · exact h
    · exact RouterInner.setSideEgressEnabled_ledgers h hset hsafe
  | setSideIngressEnabled side enabled =>
    rcases System.changed_eq_some hstep with rfl | ⟨inner, hset, rfl⟩
    · exact h
    · obtain ⟨_, -, hset⟩ := bind_eq_ok.mp hset
      obtain rfl := Except.ok.inj hset
      exact h.forget (.of_eq rfl) (.refl _) rfl
  | send side data resident tx now => exact ledgers_send h hsafe hstep
  | ack key n =>
    obtain rfl := Option.some.inj hstep
    exact h.forget (TxStreams.update_fewer key fun tx => tx.handleReliableAck_fewer key.ty n)
      (.refl _) rfl
  | partialAck key seq =>
    obtain rfl := Option.some.inj hstep
    exact h.forget (TxStreams.update_fewer key fun tx => tx.handleReliablePartialAck_fewer seq)
      (.refl _) rfl
  | request key seq =>
    obtain rfl := System.returned_eq_some hstep
    exact ⟨HopNode.queueReliableRetransmit_ledger RouterInner.taking hkept h.hop hsafe,
      (RouterInner.endToEndStill_admits.queueReliableRetransmit hkept hsafe).truthful h.endToEnd⟩
  | timeouts now =>
    obtain rfl := System.returned_eq_some hstep
    exact ⟨HopNode.processReliableTimeouts_ledger RouterInner.taking hkept h.hop hsafe,
      (RouterInner.endToEndStill_admits.processReliableTimeouts hkept hsafe).truthful h.endToEnd⟩
  | process tx =>
    obtain rfl := System.returned_eq_some hstep
    exact RouterInner.processFront_ledgers hkept h hsafe
  | register packetId data destinations now =>
    obtain rfl := Option.some.inj hstep
    exact RouterInner.registerEndToEndReliableTx_ledgers h hsafe
  | endToEndAck packetId sender =>
    obtain rfl := Option.some.inj hstep
    exact h.forget (.of_eq (s.inner.handleEndToEndAck_frame (B := B) packetId sender).1)
      (s.inner.handleEndToEndAck_fewer packetId sender)
      (s.inner.handleEndToEndAck_queue packetId sender)
  | endToEndTimeouts expected now =>
    obtain rfl := System.returned_eq_some hstep
    exact RouterInner.processEndToEndReliableTimeouts_ledgers hkept h hsafe
  | queueBroadcast data ignoreLocal priority =>
    obtain rfl := System.returned_eq_some hstep
    exact h.push (RouterInner.pushTransmit_pushes _ _) rfl rfl (hsafe.losesNoReplay hkept)
  | queueToSide src dst data ignoreLocal priority =>
    obtain rfl := System.returned_eq_some hstep
    exact h.push (RouterInner.pushTransmit_pushes _ _) rfl rfl (hsafe.losesNoReplay hkept)
  | pushReceived item =>
    obtain rfl := System.returned_eq_some hstep
    refine h.evicted (s.inner.pushReceived_keeps item).1 ?_ hsafe
    rw [RouterInner.pushReceived_eq]
    exact @Stores.queue_push_of_ne _ _ _ S B B.wordSize _ (RouterQueues.bank B) .received
      s.inner.stores .transmit nofun item
  | popReceived =>
    rcases popReceived_eq_some hstep with rfl | ⟨item, rest, -, rfl⟩
    · exact h
    · exact h.forget (.of_eq rfl) (.refl _) rfl
  | isDuplicatePkt data =>
    obtain rfl := System.returned_eq_some hstep
    have hkeeps := (s.inner.isDuplicatePkt_keeps (B := B) data).1
    refine h.forget (.of_eq hkeeps.reliableTx) (.of_eq hkeeps.endToEndReliableTx) ?_
    rcases s.inner.isDuplicatePkt_cases (B := B) data with heq | ⟨id, -, -, heq⟩
    · rw [heq]
    · rw [heq]
      exact congrArg (fun queues => queues.transmitQueue)
        (Stores.queues_pushRecentRx hkept.within id)
  | removePktId data =>
    obtain rfl := System.returned_eq_some hstep
    obtain ⟨hkeeps, hqueue⟩ := s.inner.removePktId_keeps (B := B) data
    exact h.forget (.of_eq hkeeps.reliableTx) (.of_eq hkeeps.endToEndReliableTx) hqueue
  | accept key seq bytes =>
    obtain rfl := System.returned_eq_some hstep
    refine h.evicted (s.inner.acceptOrdered_keeps key seq bytes).1 ?_ hsafe
    exact Stores.queue_acceptOrdered (RouterQueues.bank B) s.inner.stores key seq bytes .transmit
  | clearQueues =>
    obtain rfl := Option.some.inj hstep
    exact RouterInner.clear_ledgers h hsafe rfl rfl rfl
  | clearRxQueue =>
    obtain rfl := Option.some.inj hstep
    exact h.forget (.of_eq rfl) (.refl _) rfl
  | clearTxQueue =>
    obtain rfl := Option.some.inj hstep
    exact RouterInner.clear_ledgers h hsafe rfl rfl rfl
  | learnDiscovery sender pkt src expected now =>
    obtain rfl := System.returned_eq_some hstep
    obtain ⟨htx, hqueue, -⟩ := s.inner.learnDiscoveryPacket_frame (B := B) sender expected now pkt src
    exact h.forget (.of_eq htx) (s.inner.learnDiscoveryPacket_fewer sender expected now pkt src) hqueue
  | pruneDiscovery now =>
    obtain rfl := Option.some.inj hstep
    exact h.forget (.of_eq rfl) (.refl _) rfl
  | fitDiscovery =>
    obtain rfl := Option.some.inj hstep
    obtain ⟨hkeeps, hqueue⟩ := s.inner.fitDiscoveryBudget_keeps (B := B)
    exact h.forget (.of_eq hkeeps.reliableTx) (.of_eq hkeeps.endToEndReliableTx) hqueue
  | reconcileEndToEnd expected =>
    obtain rfl := System.returned_eq_some hstep
    obtain ⟨htx, hstores, -⟩ := s.inner.reconcileEndToEnd_frame (B := B) expected
    exact h.forget (.of_eq htx) (s.inner.reconcileEndToEnd_fewer expected)
      (congrArg (fun stores => stores.1.transmitQueue) hstores)

/-- The flags of a router whose every step was safe. -/
theorem ledgers_of_run {inner : RouterInner S} {actions : List (Action B S)}
    (hnew : RouterInner.new B = .ok inner)
    (hrun : Run (step B reliable) (FlagSafe B reliable) (.initial inner) actions s) :
    s.inner.Ledgers B :=
  (hrun.invariant (fun s => s.inner.Kept B ∧ s.inner.Ledgers B)
    (fun h hsafe hstep => ⟨kept_of_step h.1 hstep, ledgers_of_step h.1 h.2 hsafe hstep⟩)
    ⟨(RouterInner.kept_new hnew).1, .new hnew⟩).2

end RouterSystem
end Sedsprintf
