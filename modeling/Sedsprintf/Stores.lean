import Sedsprintf.Reliable.SideSend
import Sedsprintf.Lib.SharedBudget

/-!
# The stores of a node and their shared budget

`RouterInner` and `RelayInner` differ in their bounded queues and agree in the
rest, down to the loops that make room (src/router.rs:763-975,
src/relay.rs:360-575). `NodeState` is that rest, `QueueSet` what the loops need of
the queues. The routing policy, the bandwidth samples, the return routes and the
announcement cadence are left out: no function modelled reads them.
-/
namespace Sedsprintf

open Lib

structure NodeState (S : Schema) where
  sides : List (Option Side)
  recentRx : BoundedDeque UInt64
  reliableTx : TxStreams S
  reliableRx : RxStreams S
  discoveryRoutes : DiscoveryRoutes S

/-- A record `Q` of bounded queues, by kind. -/
structure QueueSet (κ Q : Type) where
  kinds : List κ
  bytes : Q → κ → Nat
  len : Q → κ → Nat
  pop : Q → κ → Option Q
  /-- The byte counts are those of the items. -/
  Accounted : Q → Prop
  len_of_pop : ∀ {q q' k}, pop q k = some q' → (kinds.map (len q')).sum < (kinds.map (len q)).sum
  pop_of_len : ∀ {q k}, k ∈ kinds → 0 < len q k → ∃ q', pop q k = some q'
  accounted_pop : ∀ {q q' k}, pop q k = some q' → Accounted q → Accounted q'
  len_of_bytes : ∀ {q k}, Accounted q → k ∈ kinds → 0 < bytes q k → 0 < len q k

inductive StoreKind (κ : Type) where
  | queue (kind : κ)
  | recent
  | reliableRxBuffer
  | discovery
  deriving DecidableEq, Repr

/-- Whether link-local traffic goes over a side; an unknown one counts as without. -/
def NodeState.sideLinkLocalEnabled {S : Schema} (st : NodeState S) (side : Nat) : Bool :=
  (st.sides[side]?.join.map fun s => s.opts.linkLocalEnabled).getD false

abbrev Stores (Q : Type) (S : Schema) := Q × NodeState S

/-- `ByteCost` of the `u64` ids in `recent_rx`. -/
def idCost (_ : UInt64) : Nat := 8

namespace Stores
variable {κ Q : Type} {S : Schema} (B : Build) (keySize : Nat) (set : QueueSet κ Q)

/-- `shared_queue_bytes_used`: the ids count with their whole reservation. -/
def sharedQueueBytesUsed (st : Stores Q S) : Nat :=
  (set.kinds.map (set.bytes st.1)).sum + st.2.recentRx.maxBytes +
    reliableRxBufferedBytes B st.2.reliableRx + discoveryBytesUsed B keySize st.2.discoveryRoutes

/-- `pop_shared_queue_item`; `none` where it returns false. -/
def popSharedQueueItem (st : Stores Q S) : StoreKind κ → Option (Stores Q S)
  | .queue kind => (set.pop st.1 kind).map fun queues => (queues, st.2)
  | .recent => (st.2.recentRx.popFront idCost).map fun popped =>
      (st.1, { st.2 with recentRx := popped.2 })
  | .reliableRxBuffer => (popReliableRxBuffered st.2.reliableRx).map fun streams =>
      (st.1, { st.2 with reliableRx := streams })
  | .discovery => (popDiscoveryRoute st.2.discoveryRoutes).map fun routes =>
      (st.1, { st.2 with discoveryRoutes := routes })

/-- The candidates of `largest_shared_queue`, in order; on equal bytes the reorder
buffers rank below the rest. -/
def budget : Budget (Stores Q S) (StoreKind κ) where
  used := sharedQueueBytesUsed B keySize set
  shares st :=
    (set.kinds.map fun kind => (StoreKind.queue kind, set.bytes st.1 kind, set.len st.1 kind)) ++
      [(.recent, 0, 0),
        (.reliableRxBuffer, reliableRxBufferedBytes B st.2.reliableRx,
          reliableRxBufferLen st.2.reliableRx),
        (.discovery, discoveryBytesUsed B keySize st.2.discoveryRoutes, st.2.discoveryRoutes.size)]
  weight
    | .reliableRxBuffer => 0
    | _ => 1
  pop kind st := popSharedQueueItem set st kind

/-- Everything a pop can take. -/
def sharedItems (st : Stores Q S) : Nat :=
  (set.kinds.map (set.len st.1)).sum + st.2.recentRx.q.length +
    reliableRxBufferLen st.2.reliableRx + st.2.discoveryRoutes.size

/-- `make_shared_queue_room`. Each turn of its loop takes one item, so their number
is fuel enough (`makeRoom_finishes`). -/
def makeSharedQueueRoom (st : Stores Q S) (cost : Nat) (preferred : StoreKind κ) :
    Stores Q S × Outcome Unit :=
  if B.maxQueueBudget < cost then
    (st, fail (.packetTooLarge "Item exceeds maximum shared queue budget"))
  else
    match (budget B keySize set).makeRoom B.maxQueueBudget cost preferred
        (sharedItems set st + 1) st with
    | (st, .made) => (st, .ok ())
    | (st, _) => (st, fail (.packetTooLarge "Item exceeds maximum shared queue budget"))

/-- The first loop of `push_recent_rx`. -/
def trimRecent (st : Stores Q S) : Stores Q S :=
  (st.1, { st.2 with
    recentRx := (BoundedDeque.dropFront idCost)^[st.2.recentRx.q.length + 1 - B.maxRecentRxIds]
      st.2.recentRx })

/-- `push_recent_rx`. Its first loop never ends for a `MAX_RECENT_RX_IDS` of zero; here
it stops there. -/
def pushRecentRx (st : Stores Q S) (id : UInt64) : Stores Q S × Outcome Unit :=
  if B.maxRecentRxIds = 0 then (st, panics "push_recent_rx does not return")
  else
    match makeSharedQueueRoom B keySize set (trimRecent B st) 0 .recent with
    | (st, .error e) => (st, .error e)
    | (st, .ok ()) =>
      let pushed := st.2.recentRx.pushBack idCost id
      ((st.1, { st.2 with recentRx := pushed.1 }), pushed.2)

/-- `buffer_reliable_rx`. -/
def bufferReliableRx (st : Stores Q S) (key : StreamKey S) (seq : UInt32) (bytes : List UInt8) :
    Stores Q S × Outcome Unit :=
  if seq ∈ (st.2.reliableRx.at key).buffered then (st, .ok ())
  else
    match makeSharedQueueRoom B keySize set st (B.arcSize + bytes.length) .reliableRxBuffer with
    | (st, .error e) => (st, .error e)
    | (st, .ok ()) =>
      ((st.1, { st.2 with
        reliableRx := st.2.reliableRx.insert key
          ((st.2.reliableRx.at key).bufferFrame B seq bytes) }), .ok ())

/-- `fit_discovery_budget`; `fuel` is the number of routes. -/
def fitDiscoveryLoop : (fuel : Nat) → Stores Q S → Stores Q S
  | 0, st => st
  | fuel + 1, st =>
    if B.maxQueueBudget < sharedQueueBytesUsed B keySize set st then
      match popDiscoveryRoute st.2.discoveryRoutes with
      | none => st
      | some routes => fitDiscoveryLoop fuel (st.1, { st.2 with discoveryRoutes := routes })
    else st

def fitDiscoveryBudget (st : Stores Q S) : Stores Q S :=
  fitDiscoveryLoop B keySize set st.2.discoveryRoutes.size st

/-- The locked part of the receive path for an ordered frame. -/
def acceptOrdered (st : Stores Q S) (key : StreamKey S) (seq : UInt32) (bytes : List UInt8) :
    Stores Q S × Arrival × Outcome Unit :=
  let (rx, arrival) := (st.2.reliableRx.at key).arrive seq bytes
  let st := (st.1, { st.2 with reliableRx := st.2.reliableRx.insert key rx })
  match arrival with
  | .early partialAck request =>
    let (st, result) := bufferReliableRx B keySize set st key seq bytes
    (st, .early partialAck request, result)
  | arrival => (st, arrival, .ok ())

section Evictions
variable {set}

/-- What is left alone by everything above. -/
structure Frame (st st' : NodeState S) : Prop where
  sides : st'.sides = st.sides
  reliableTx : st'.reliableTx = st.reliableTx
  recentMax : st'.recentRx.maxBytes = st.recentRx.maxBytes

/-- What making room does: the queues lose items as `rel` says, and the reorder
buffers lose frames from their fronts. -/
structure Evicts (rel : Q → Q → Prop) (st st' : Stores Q S) : Prop extends Frame st.2 st'.2 where
  queues : rel st.1 st'.1
  rx : ∀ key, (st'.2.reliableRx.at key).expectedSeq = (st.2.reliableRx.at key).expectedSeq ∧
    ∃ n, (st'.2.reliableRx.at key).buffered =
      (OrdMap.dropFirst)^[n] (st.2.reliableRx.at key).buffered

theorem Frame.refl (st : NodeState S) : Frame st st := ⟨rfl, rfl, rfl⟩

theorem Frame.trans {st st' st'' : NodeState S} (h : Frame st st') (h' : Frame st' st'') :
    Frame st st'' :=
  ⟨h'.sides.trans h.sides, h'.reliableTx.trans h.reliableTx, h'.recentMax.trans h.recentMax⟩

/-- A relation between queue records that popping keeps. -/
structure PopRelation (set : QueueSet κ Q) (rel : Q → Q → Prop) : Prop where
  refl : ∀ q, rel q q
  trans : ∀ {q q' q''}, rel q q' → rel q' q'' → rel q q''
  pop : ∀ {q q' k}, set.pop q k = some q' → rel q q'

variable {rel : Q → Q → Prop}

theorem Evicts.refl (hrel : PopRelation set rel) (st : Stores Q S) : Evicts rel st st :=
  ⟨.refl st.2, hrel.refl _, fun _ => ⟨rfl, 0, rfl⟩⟩

theorem Evicts.trans (hrel : PopRelation set rel) {st st' st'' : Stores Q S}
    (h : Evicts rel st st') (h' : Evicts rel st' st'') : Evicts rel st st'' where
  toFrame := h.toFrame.trans h'.toFrame
  queues := hrel.trans h.queues h'.queues
  rx key := by
    obtain ⟨hexpected, n, hn⟩ := h.rx key
    obtain ⟨hexpected', n', hn'⟩ := h'.rx key
    refine ⟨hexpected'.trans hexpected, n' + n, ?_⟩
    rw [hn', hn, Function.iterate_add_apply]

theorem evicts_of_pop (hrel : PopRelation set rel) {st st' : Stores Q S} {kind : StoreKind κ}
    (h : popSharedQueueItem set st kind = some st') : Evicts rel st st' := by
  cases kind with
  | queue kind =>
    obtain ⟨queues, hpop, rfl⟩ := Option.map_eq_some_iff.mp h
    exact ⟨.refl st.2, hrel.pop hpop, fun _ => ⟨rfl, 0, rfl⟩⟩
  | recent =>
    obtain ⟨popped, hpop, rfl⟩ := Option.map_eq_some_iff.mp h
    exact ⟨⟨rfl, rfl, BoundedDeque.popFront_maxBytes hpop⟩, hrel.refl _, fun _ => ⟨rfl, 0, rfl⟩⟩
  | reliableRxBuffer =>
    obtain ⟨streams, hpop, rfl⟩ := Option.map_eq_some_iff.mp h
    refine ⟨⟨rfl, rfl, rfl⟩, hrel.refl _, fun k => ?_⟩
    obtain ⟨key, rx, hrx, -, rfl⟩ := popReliableRxBuffered_eq_some hpop
    dsimp only
    rw [RxStreams.at_insert]
    split
    · rename_i heq
      subst heq
      have hat : st.2.reliableRx.at key = rx := by
        rw [RxStreams.at, hrx]
        rfl
      rw [hat]
      exact ⟨rfl, 1, rfl⟩
    · exact ⟨rfl, 0, rfl⟩
  | discovery =>
    obtain ⟨routes, -, rfl⟩ := Option.map_eq_some_iff.mp h
    exact ⟨⟨rfl, rfl, rfl⟩, hrel.refl _, fun _ => ⟨rfl, 0, rfl⟩⟩

theorem items_of_pop {st st' : Stores Q S} {kind : StoreKind κ}
    (h : popSharedQueueItem set st kind = some st') :
    sharedItems set st' < sharedItems set st := by
  unfold sharedItems
  cases kind with
  | queue kind =>
    obtain ⟨queues, hpop, rfl⟩ := Option.map_eq_some_iff.mp h
    have := set.len_of_pop hpop
    dsimp only
    omega
  | recent =>
    obtain ⟨popped, hpop, rfl⟩ := Option.map_eq_some_iff.mp h
    have := congrArg List.length (BoundedDeque.popFront_eq_some hpop)
    rw [List.length_cons] at this
    dsimp only
    omega
  | reliableRxBuffer =>
    obtain ⟨streams, hpop, rfl⟩ := Option.map_eq_some_iff.mp h
    have := popReliableRxBuffered_len hpop
    dsimp only
    omega
  | discovery =>
    obtain ⟨routes, hpop, rfl⟩ := Option.map_eq_some_iff.mp h
    have := popDiscoveryRoute_eq_some hpop
    dsimp only
    omega

/-- The loop of `make_shared_queue_room` ends by making room or by finding nothing
left to pop. -/
theorem makeRoom_finishes (st : Stores Q S) (cost : Nat) (preferred : StoreKind κ) :
    ((budget B keySize set).makeRoom B.maxQueueBudget cost preferred (sharedItems set st + 1) st).2
      ≠ .unfinished :=
  Budget.makeRoom_ne_unfinished (sharedItems set) items_of_pop (Nat.lt_succ_self _)

theorem makeSharedQueueRoom_evicts (hrel : PopRelation set rel) (st : Stores Q S) (cost : Nat)
    (preferred : StoreKind κ) :
    Evicts rel st (makeSharedQueueRoom B keySize set st cost preferred).1 := by
  have hroom := @Budget.makeRoom_relation _ _ (budget B keySize set) B.maxQueueBudget cost
    (sharedItems set st + 1) preferred st (Evicts rel) (.refl hrel) (.trans hrel)
    (evicts_of_pop hrel)
  unfold makeSharedQueueRoom
  split
  · exact .refl hrel st
  · generalize (budget B keySize set).makeRoom B.maxQueueBudget cost preferred
      (sharedItems set st + 1) st = r at hroom
    obtain ⟨st', _ | _ | _⟩ := r
    · exact hroom
    · exact hroom
    · exact hroom

theorem trimRecent_evicts (hrel : PopRelation set rel) (st : Stores Q S) :
    Evicts rel st (trimRecent B st) :=
  ⟨⟨rfl, rfl, BoundedDeque.iterate_dropFront_maxBytes _ _⟩, hrel.refl _, fun _ => ⟨rfl, 0, rfl⟩⟩

theorem pushRecentRx_evicts (hrel : PopRelation set rel) (st : Stores Q S) (id : UInt64) :
    Evicts rel st (pushRecentRx B keySize set st id).1 := by
  have hroom := Evicts.trans hrel (trimRecent_evicts B hrel st)
    (makeSharedQueueRoom_evicts B keySize hrel (trimRecent B st) 0 .recent)
  unfold pushRecentRx
  split
  · exact .refl hrel st
  · generalize makeSharedQueueRoom B keySize set (trimRecent B st) 0 .recent = r at hroom
    obtain ⟨st', _ | ⟨⟨⟩⟩⟩ := r
    · exact hroom
    · exact ⟨⟨hroom.sides, hroom.reliableTx,
        (BoundedDeque.pushBack_maxBytes id).trans hroom.recentMax⟩, hroom.queues, hroom.rx⟩

theorem bufferReliableRx_frame (hrel : PopRelation set rel) (st : Stores Q S)
    (key : StreamKey S) (seq : UInt32) (bytes : List UInt8) :
    Frame st.2 (bufferReliableRx B keySize set st key seq bytes).1.2 ∧
      rel st.1 (bufferReliableRx B keySize set st key seq bytes).1.1 := by
  have hroom := makeSharedQueueRoom_evicts B keySize hrel st
    (B.arcSize + bytes.length) .reliableRxBuffer
  unfold bufferReliableRx
  split
  · exact ⟨.refl st.2, hrel.refl _⟩
  · generalize makeSharedQueueRoom B keySize set st (B.arcSize + bytes.length)
      .reliableRxBuffer = r at hroom
    obtain ⟨st', _ | ⟨⟨⟩⟩⟩ := r
    · exact ⟨hroom.toFrame, hroom.queues⟩
    · exact ⟨⟨hroom.sides, hroom.reliableTx, hroom.recentMax⟩, hroom.queues⟩

theorem acceptOrdered_frame (hrel : PopRelation set rel) (st : Stores Q S) (key : StreamKey S)
    (seq : UInt32) (bytes : List UInt8) :
    Frame st.2 (acceptOrdered B keySize set st key seq bytes).1.2 ∧
      rel st.1 (acceptOrdered B keySize set st key seq bytes).1.1 := by
  unfold acceptOrdered
  generalize (st.2.reliableRx.at key).arrive seq bytes = r
  obtain ⟨rx, arrival⟩ := r
  cases arrival with
  | old ack => exact ⟨⟨rfl, rfl, rfl⟩, hrel.refl _⟩
  | early partialAck request =>
    have hbuf := bufferReliableRx_frame B keySize hrel
      (st.1, { st.2 with reliableRx := st.2.reliableRx.insert key rx }) key seq bytes
    exact ⟨⟨hbuf.1.sides, hbuf.1.reliableTx, hbuf.1.recentMax⟩, hbuf.2⟩
  | released frames ack => exact ⟨⟨rfl, rfl, rfl⟩, hrel.refl _⟩

/-- The queues count their bytes and the reservation of the ids fits the budget:
then an overfull state always has an item to give. -/
structure Budgeted (set : QueueSet κ Q) (st : Stores Q S) : Prop where
  accounted : set.Accounted st.1
  recentMax : st.2.recentRx.maxBytes = max B.recentRxQueueBytes 1

theorem accounted_popRelation (set : QueueSet κ Q) :
    PopRelation set fun q q' => set.Accounted q → set.Accounted q' :=
  ⟨fun _ => id, fun h h' ha => h' (h ha), set.accounted_pop⟩

variable {B}

theorem Evicts.budgeted {st st' : Stores Q S}
    (h : Evicts (fun q q' => set.Accounted q → set.Accounted q') st st')
    (hb : Budgeted B set st) : Budgeted B set st' :=
  ⟨h.queues hb.accounted, h.recentMax.trans hb.recentMax⟩

/-- A share with items gives one. -/
theorem pop_of_share {st : Stores Q S} {top : StoreKind κ × Nat × Nat}
    (hmem : top ∈ (budget B keySize set).shares st) (hitems : 0 < top.2.2) :
    ∃ st', popSharedQueueItem set st top.1 = some st' := by
  simp only [budget, List.mem_append, List.mem_map, List.mem_cons, List.not_mem_nil,
    or_false] at hmem
  rcases hmem with ⟨kind, hkind, rfl⟩ | rfl | rfl | rfl
  · obtain ⟨queues, hpop⟩ := set.pop_of_len hkind hitems
    exact ⟨_, by rw [popSharedQueueItem, hpop]; rfl⟩
  · cases hitems
  · obtain ⟨streams, hpop⟩ := popReliableRxBuffered_isSome hitems
    exact ⟨_, by rw [popSharedQueueItem, hpop]; rfl⟩
  · obtain ⟨routes, hpop⟩ := popDiscoveryRoute_isSome hitems
    exact ⟨_, by rw [popSharedQueueItem, hpop]; rfl⟩

/-- Bytes beyond the reservation are those of a store, which then has items. -/
theorem exists_share_of_used {st : Stores Q S} (hb : Budgeted B set st)
    (hused : st.2.recentRx.maxBytes < sharedQueueBytesUsed B keySize set st) :
    ∃ share ∈ (budget B keySize set).shares st, 0 < share.2.1 ∧ 0 < share.2.2 := by
  simp only [budget, List.mem_append, List.mem_map, List.mem_cons, List.not_mem_nil, or_false]
  by_cases hf : 0 < reliableRxBufferedBytes B st.2.reliableRx
  · exact ⟨_, .inr (.inr (.inl rfl)), hf, reliableRxBufferLen_pos B hf⟩
  · by_cases hd : 0 < discoveryBytesUsed B keySize st.2.discoveryRoutes
    · exact ⟨_, .inr (.inr (.inr rfl)), hd, size_pos_of_discoveryBytesUsed B hd⟩
    · have hqueues : (set.kinds.map (set.bytes st.1)).sum ≠ 0 := by
        unfold sharedQueueBytesUsed at hused
        omega
      obtain ⟨kind, hkind, hpos⟩ : ∃ kind ∈ set.kinds, 0 < set.bytes st.1 kind := by
        by_contra hnone
        refine hqueues (List.sum_eq_zero_iff_forall_eq_nat.mpr fun n hn => ?_)
        obtain ⟨kind, hkind, rfl⟩ := List.mem_map.mp hn
        by_contra hne
        exact hnone ⟨kind, hkind, Nat.pos_of_ne_zero hne⟩
      exact ⟨_, .inl ⟨kind, hkind, rfl⟩, hpos, set.len_of_bytes hb.accounted hkind hpos⟩

/-- The next turn of the room loop then takes from the largest store. -/
theorem popOne_of_used {st : Stores Q S} (hb : Budgeted B set st)
    (hused : st.2.recentRx.maxBytes < sharedQueueBytesUsed B keySize set st)
    (preferred : StoreKind κ) :
    ∃ kind st', (budget B keySize set).largest st = some kind ∧
      popSharedQueueItem set st kind = some st' ∧
      (budget B keySize set).popOne preferred st = some st' := by
  obtain ⟨share, hmem, hbytes, hitems⟩ := exists_share_of_used keySize hb hused
  obtain ⟨top, htop, hlargest, -, htopItems⟩ := Budget.largest_spec hmem hbytes hitems
  obtain ⟨st', hpop⟩ := pop_of_share keySize htop htopItems
  have hpop' : (budget B keySize set).pop top.1 st = some st' := hpop
  exact ⟨top.1, st', hlargest, hpop, by simp only [Budget.popOne, hlargest, Option.getD_some, hpop']⟩

/-- Room is never refused to an item that fits beside the reservation. -/
theorem makeSharedQueueRoom_of_fits {st : Stores Q S} {cost : Nat} (hb : Budgeted B set st)
    (hfits : st.2.recentRx.maxBytes + cost ≤ B.maxQueueBudget) (preferred : StoreKind κ) :
    (makeSharedQueueRoom B keySize set st cost preferred).2 = .ok () := by
  have hgive : ∀ {s : Stores Q S},
      Budgeted B set s ∧ s.2.recentRx.maxBytes = st.2.recentRx.maxBytes →
      B.maxQueueBudget < (budget B keySize set).used s + cost →
      ∃ s', (budget B keySize set).popOne preferred s = some s' ∧
        Budgeted B set s' ∧ s'.2.recentRx.maxBytes = st.2.recentRx.maxBytes := by
    rintro s ⟨hs, hmax⟩ hover
    have hused : s.2.recentRx.maxBytes < sharedQueueBytesUsed B keySize set s := by
      change B.maxQueueBudget < sharedQueueBytesUsed B keySize set s + cost at hover
      omega
    obtain ⟨kind, s', -, hpop, hone⟩ := popOne_of_used keySize hs hused preferred
    have hevicts := evicts_of_pop (accounted_popRelation set) hpop
    exact ⟨s', hone, hevicts.budgeted hs, hevicts.recentMax.trans hmax⟩
  have hrefused := @Budget.makeRoom_ne_refused _ _ (budget B keySize set) B.maxQueueBudget cost
    (sharedItems set st + 1) preferred st _ hgive ⟨hb, rfl⟩
  have hends := @makeRoom_finishes κ Q S B keySize set st cost preferred
  unfold makeSharedQueueRoom
  rw [if_neg (by omega)]
  generalize (budget B keySize set).makeRoom B.maxQueueBudget cost preferred
    (sharedItems set st + 1) st = r at hrefused hends
  obtain ⟨st', _ | _ | _⟩ := r
  · rfl
  · exact absurd rfl hrefused
  · exact absurd rfl hends

/-- Where there is room, none is made. -/
theorem makeSharedQueueRoom_of_room {st : Stores Q S} {cost : Nat}
    (hroom : sharedQueueBytesUsed B keySize set st + cost ≤ B.maxQueueBudget)
    (preferred : StoreKind κ) :
    makeSharedQueueRoom B keySize set st cost preferred = (st, .ok ()) := by
  have hmade := @Budget.makeRoom_of_fits _ _ (budget B keySize set) B.maxQueueBudget cost
    (sharedItems set st + 1) preferred st hroom
  rw [makeSharedQueueRoom, if_neg (by omega), hmade]

theorem Budgeted.reserve_le {st : Stores Q S} (hb : Budgeted B set st)
    (hbudget : 0 < B.maxQueueBudget) : st.2.recentRx.maxBytes ≤ B.maxQueueBudget := by
  rw [hb.recentMax, Build.recentRxQueueBytes]
  omega

/-- Room for no bytes is always made. -/
theorem makeSharedQueueRoom_zero {st : Stores Q S} (hb : Budgeted B set st)
    (hbudget : 0 < B.maxQueueBudget) (preferred : StoreKind κ) :
    (makeSharedQueueRoom B keySize set st 0 preferred).2 = .ok () :=
  makeSharedQueueRoom_of_fits keySize hb (hb.reserve_le hbudget) preferred

/-- Recording an id never fails where the budget holds one. -/
theorem pushRecentRx_eq_ok {st : Stores Q S} (hb : Budgeted B set st) (hids : B.maxRecentRxIds ≠ 0)
    (hbudget : 8 ≤ B.maxQueueBudget) (id : UInt64) :
    (pushRecentRx B keySize set st id).2 = .ok () := by
  have htrimmed := (trimRecent_evicts B (accounted_popRelation set) st).budgeted hb
  have hroom := makeSharedQueueRoom_zero keySize htrimmed (by omega) .recent
  have hevicts := makeSharedQueueRoom_evicts B keySize (accounted_popRelation set)
    (trimRecent B st) 0 .recent
  unfold pushRecentRx
  rw [if_neg hids]
  generalize makeSharedQueueRoom B keySize set (trimRecent B st) 0 .recent = r at hroom hevicts
  obtain ⟨st', _ | ⟨⟨⟩⟩⟩ := r
  · cases hroom
  · refine BoundedDeque.pushBack_eq_ok ?_
    have hmax := (hevicts.budgeted htrimmed).recentMax
    dsimp only at hmax
    rw [hmax, idCost, Build.recentRxQueueBytes]
    omega

end Evictions
end Stores
end Sedsprintf
