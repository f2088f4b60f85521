import Sedsprintf.Lib.BoundedCache
import Sedsprintf.Relay.Calls
import Sedsprintf.Relay.Routing
import Sedsprintf.Router.Replays
import Sedsprintf.Router.Steps

/-!
# Caches of packet ids

src/router.rs:1494-1641 and src/relay.rs:1003-1049, 1785-1800. Return routes, the end-to-end entries
of a router and the acknowledgements that a relay has seen are kept by packet id, so many at a time.
Ids vanish from the maps with acknowledgements, timeouts, expired routes and removed sides; their
orders are cleaned when the next id is noted.
-/
namespace Sedsprintf

open Lib

def CacheNote.returnRoute? : CacheNote → Option UInt64
  | .returnRoute packetId => some packetId
  | .endToEnd _ => none

def CacheNote.endToEnd? : CacheNote → Option UInt64
  | .returnRoute _ => none
  | .endToEnd packetId => some packetId

section Caches
variable {B : Build} {S : Schema}

def RoutingTable.returnRoutes (table : RoutingTable S) : NotedCache UInt64 Nat :=
  ⟨table.reliableReturnRoutes, table.reliableReturnRouteOrder⟩

def RouterInner.endToEndEntries (st : RouterInner S) :
    NotedCache UInt64 (EndToEndReliableSent S) :=
  ⟨st.endToEndReliableTx, st.endToEndReliableTxOrder⟩

def RelayTable.ackedDestinations (table : RelayTable S) : NotedCache UInt64 (List UInt64) :=
  ⟨table.endToEndAckedDestinations, table.endToEndAckedDestinationOrder⟩

/-- `RELIABLE_MAX_RETURN_ROUTES.max(1)`. -/
def Build.returnRouteCap (B : Build) : Nat := max B.reliableMaxReturnRoutes 1

/-- `RELIABLE_MAX_END_TO_END_PENDING.max(1)`. -/
def Build.endToEndCap (B : Build) : Nat := max B.reliableMaxEndToEndPending 1

/-- `RELIABLE_MAX_END_TO_END_ACK_CACHE.max(1)`. -/
def Build.ackedDestinationCap (B : Build) : Nat := max B.reliableMaxEndToEndAckCache 1

theorem forgetReturnRoutes_eq (cap : Nat) (order : List UInt64) (routes : OrdMap UInt64 Nat) :
    RoutingTable.forgetReturnRoutes cap order routes = NotedCache.popOldest cap order routes := by
  induction order generalizing routes with
  | nil => rfl
  | cons oldest rest ih => rw [RoutingTable.forgetReturnRoutes, NotedCache.popOldest, ih]

theorem forgetOldest_eq (cap : Nat) (order : List UInt64)
    (sent : OrdMap UInt64 (EndToEndReliableSent S)) :
    RouterInner.forgetOldest cap order sent = NotedCache.popOldest cap order sent := by
  induction order generalizing sent with
  | nil => rfl
  | cons oldest rest ih => rw [RouterInner.forgetOldest, NotedCache.popOldest, ih]

theorem forgetAckedDestinations_eq (cap : Nat) (order : List UInt64)
    (destinations : OrdMap UInt64 (List UInt64)) :
    RelayInner.forgetAckedDestinations cap order destinations =
      NotedCache.popOldest cap order destinations := by
  induction order generalizing destinations with
  | nil => rfl
  | cons oldest rest ih => rw [RelayInner.forgetAckedDestinations, NotedCache.popOldest, ih]

/-- Noting a return route is a note in the cache. -/
theorem noteReliableReturnRoute_returnRoutes (table : RoutingTable S) (side : Nat)
    (packetId : UInt64) :
    (table.noteReliableReturnRoute B side packetId).returnRoutes =
      table.returnRoutes.note B.returnRouteCap packetId side := by
  unfold RoutingTable.noteReliableReturnRoute RoutingTable.returnRoutes NotedCache.note
  simp only [forgetReturnRoutes_eq, NotedCache.others_eq]
  rfl

theorem registerEndToEndReliableTx_endToEndEntries (st : RouterInner S) (packetId : UInt64)
    (data : RouterItem S) (destinations : OrdMap UInt64 Nat) (now : UInt64) :
    (st.registerEndToEndReliableTx B packetId data destinations now).endToEndEntries =
      st.endToEndEntries.note B.endToEndCap packetId
        ⟨data, destinations, !destinations.isEmpty, now, 0, false⟩ := by
  unfold RouterInner.registerEndToEndReliableTx RouterInner.endToEndEntries NotedCache.note
  simp only [forgetOldest_eq]
  rfl

/-- The senders of an id behind another one. -/
def RelayTable.ackedWith (B : Build) (table : RelayTable S) (packetId senderHash : UInt64) :
    List UInt64 :=
  let acked := (NotedCache.popOldest B.ackedDestinationCap (table.ackedDestinations.others packetId)
    table.endToEndAckedDestinations).2[packetId]?.getD []
  if acked.length < max B.reliableMaxEndToEndPending 1 ∨ senderHash ∈ acked then
    acked.insert senderHash
  else acked

theorem noteEndToEndAckedDestination_ackedDestinations (table : RelayTable S)
    (packetId senderHash : UInt64) :
    (RelayInner.noteEndToEndAckedDestination B table packetId senderHash).ackedDestinations =
      table.ackedDestinations.note B.ackedDestinationCap packetId
        (table.ackedWith B packetId senderHash) := by
  unfold RelayInner.noteEndToEndAckedDestination RelayTable.ackedDestinations NotedCache.note
    RelayTable.ackedWith RelayTable.ackedDestinations
  simp only [forgetAckedDestinations_eq, NotedCache.others_eq]
  rfl

theorem RelayTable.ackedWith_of_new {table : RelayTable S} {packetId : UInt64}
    (h : packetId ∉ table.endToEndAckedDestinations) (senderHash : UInt64) :
    table.ackedWith B packetId senderHash = [senderHash] := by
  have hnone : table.endToEndAckedDestinations[packetId]? = none :=
    Std.ExtTreeMap.getElem?_eq_none h
  unfold ackedWith
  rw [NotedCache.popOldest_get?_of_none hnone, Option.getD_none, if_pos (.inl (by simp))]
  rfl

end Caches

section Routers
variable {B : Build} {S : Schema}

/-- The steps of calls into a router, with what they note. -/
def RouterHistory (B : Build) : List CacheNote → RouterState S → RouterState S → Prop :=
  NotedRun fun note s s' => ∃ w : RouterWorld S, CallStep B w note s s'

/-- Both caches of a router under the notes there were. -/
structure RouterState.Tracks (B : Build) (notes : List CacheNote) (s : RouterState S) : Prop where
  returnRoutes : s.table.returnRoutes.Tracks B.returnRouteCap (notes.filterMap CacheNote.returnRoute?)
  endToEnd : s.inner.endToEndEntries.Tracks B.endToEndCap (notes.filterMap CacheNote.endToEnd?)

variable {w : RouterWorld S} {notes : List CacheNote} {note : Option CacheNote}
  {s s' : RouterState S}

theorem EndToEndFewer.keys {sent' sent : OrdMap UInt64 (EndToEndReliableSent S)}
    (h : EndToEndFewer sent' sent) : ∀ id ∈ sent', id ∈ sent := by
  intro id hid
  obtain ⟨entry, hentry⟩ := OrdMap.mem_iff_get?.mp hid
  obtain ⟨old, hold, -⟩ := h.entry hentry
  exact OrdMap.mem_iff_get?.mpr ⟨old, hold⟩

/-- A value is replaced. -/
theorem mem_of_mem_insert {α : Type} {entries : OrdMap UInt64 α} {id : UInt64} {entry entry' : α}
    (hentry : entries[id]? = some entry) : ∀ k ∈ entries.insert id entry', k ∈ entries := by
  intro k hk
  rcases Std.ExtTreeMap.mem_insert.mp hk with heq | hk
  · rw [← Std.LawfulEqOrd.eq_of_compare heq]
    exact OrdMap.mem_iff_get?.mpr ⟨entry, hentry⟩
  · exact hk

/-- A replay takes its entry away, or marks it. -/
theorem endToEndRetransmitSides_fewer (st : RouterInner S) (packetId now : UInt64) :
    (∀ id ∈ (st.endToEndRetransmitSides packetId now).endToEndReliableTx,
        id ∈ st.endToEndReliableTx) ∧
      (st.endToEndRetransmitSides packetId now).endToEndReliableTxOrder =
        st.endToEndReliableTxOrder := by
  unfold RouterInner.endToEndRetransmitSides
  split
  · exact ⟨fun _ hid => hid, rfl⟩
  · rename_i sent hsent
    split
    · exact ⟨(EndToEndFewer.erase _ packetId).keys, rfl⟩
    · exact ⟨mem_of_mem_insert hsent, rfl⟩

theorem handleEndToEndAck_order (st : RouterInner S) (packetId : UInt64) (sender : Option UInt64) :
    (st.handleEndToEndAck packetId sender).endToEndReliableTxOrder = st.endToEndReliableTxOrder := by
  unfold RouterInner.handleEndToEndAck
  split
  · rfl
  · split
    · rfl
    · dsimp only
      split <;> rfl

theorem reconcileEndToEnd_order (st : RouterInner S)
    (expected : UInt64 → Outcome (OrdMap UInt64 Nat)) :
    (st.reconcileEndToEnd expected).1.endToEndReliableTxOrder = st.endToEndReliableTxOrder := by
  unfold RouterInner.reconcileEndToEnd
  split <;> rfl

namespace RouterState.Tracks

/-- A step that notes nothing takes entries away, or changes them. -/
theorem fewer (h : s.Tracks B notes)
    (hroutes : ∀ id ∈ s'.table.reliableReturnRoutes, id ∈ s.table.reliableReturnRoutes)
    (hrouteOrder : s'.table.reliableReturnRouteOrder = s.table.reliableReturnRouteOrder)
    (hentries : ∀ id ∈ s'.inner.endToEndReliableTx, id ∈ s.inner.endToEndReliableTx)
    (horder : s'.inner.endToEndReliableTxOrder = s.inner.endToEndReliableTxOrder) :
    s'.Tracks B notes := by
  constructor
  · have hcache := h.returnRoutes.fewer hroutes
    rwa [show (⟨_, s.table.returnRoutes.order⟩ : NotedCache UInt64 Nat) = s'.table.returnRoutes from
      congrArg _ hrouteOrder.symm] at hcache
  · have hcache := h.endToEnd.fewer hentries
    rwa [show (⟨_, s.inner.endToEndEntries.order⟩ : NotedCache UInt64 (EndToEndReliableSent S)) =
      s'.inner.endToEndEntries from congrArg _ horder.symm] at hcache

/-- A step that only works on the end-to-end entries. -/
theorem entries (h : s.Tracks B notes) {st : RouterInner S}
    (hentries : ∀ id ∈ st.endToEndReliableTx, id ∈ s.inner.endToEndReliableTx)
    (horder : st.endToEndReliableTxOrder = s.inner.endToEndReliableTxOrder) :
    RouterState.Tracks B notes { s with inner := st } :=
  h.fewer (fun _ hid => hid) rfl hentries horder

theorem step (h : s.Tracks B notes) (hstep : CallStep B w note s s') :
    s'.Tracks B (notes ++ note.toList) := by
  cases hstep with
  | other new hsame hevents hordinary =>
    rw [Option.toList_none, List.append_nil]
    exact h.fewer (fun id hid => hsame.routes ▸ hid) hsame.routeOrder
      (fun id hid => hsame.inner.entries ▸ hid) hsame.inner.order
  | returnRoute _ side packetId =>
    have hnoted := h.returnRoutes.note (Nat.le_max_right _ _) packetId side
    rw [← noteReliableReturnRoute_returnRoutes] at hnoted
    constructor
    · rw [List.filterMap_append]
      exact hnoted
    · rw [List.filterMap_append]
      exact (List.append_nil _).symm ▸ h.endToEnd
  | removeSide _ side =>
    rw [Option.toList_none, List.append_nil]
    exact h.fewer (fun id hid => Std.ExtTreeMap.mem_of_mem_filter hid) rfl (fun _ hid => hid) rfl
  | @queued _ id entry hentry =>
    rw [Option.toList_none, List.append_nil]
    exact h.entries (mem_of_mem_insert hentry) rfl
  | replayed _ packetId =>
    rw [Option.toList_none, List.append_nil]
    obtain ⟨hkeys, horder⟩ := endToEndRetransmitSides_fewer s.inner packetId w.now
    exact h.entries hkeys horder
  | @track _ packetId data destinations hid hexpected =>
    have hnoted := h.endToEnd.note (Nat.le_max_right _ _) packetId
      ⟨data, destinations, !destinations.isEmpty, w.now, 0, false⟩
    rw [← registerEndToEndReliableTx_endToEndEntries] at hnoted
    constructor
    · rw [List.filterMap_append]
      exact (List.append_nil _).symm ▸ h.returnRoutes
    · rw [List.filterMap_append]
      exact hnoted
  | endToEndAck _ hpacket hack =>
    rw [Option.toList_none, List.append_nil]
    exact h.fewer (fun _ hid => hid) rfl (RouterInner.handleEndToEndAck_fewer _ _ _).keys
      (handleEndToEndAck_order _ _ _)
  | reconcile =>
    rw [Option.toList_none, List.append_nil]
    exact h.fewer (fun _ hid => hid) rfl (RouterInner.reconcileEndToEnd_fewer _ _).keys
      (reconcileEndToEnd_order _ _)
  | timeouts =>
    rw [Option.toList_none, List.append_nil]
    exact h.fewer (fun _ hid => hid) rfl (RouterInner.endToEndTimeoutScan_fewer B w.now _ _).keys rfl

end RouterState.Tracks

/-- Every call, and every call of its callbacks, is made of such steps. -/
theorem RouterRun.history {n : Nat} {start s : RouterState S} (hstart : start.inner.EntriesSound)
    (hrun : RouterRun B n start s) : ∃ notes, RouterHistory B notes start s := by
  let inv : RouterState S → Prop := fun s =>
    s.inner.EntriesSound ∧ ∃ notes, RouterHistory B notes start s
  have hstep : ∀ {w : RouterWorld S} {note s s'}, CallStep B w note s s' → inv s → inv s' := by
    rintro w note s s' hstep ⟨hsound, notes, hhistory⟩
    exact ⟨hstep.sound hsound, _, hhistory.tail ⟨w, hstep⟩⟩
  have hinv : inv s := by
    refine Layered.invariant (fun {r s s'} hr hcall hs => ?_) hrun ⟨hstart, [], .refl start⟩
    obtain ⟨w, depth, call, hreacts, rfl⟩ := hcall
    have hkept : KeptByCallSteps B w inv :=
      ⟨hstep, fun callback s hs => hr _ _ (hreacts.callbacks callback s) hs, hreacts.sides,
        fun _ hs => hs.1⟩
    exact hkept.keeps_call depth call s hs
  exact hinv.2

end Routers

section Relays
variable {B : Build} {S : Schema}

def RelayTable.empty : RelayTable S := ⟨.empty, ∅, []⟩

/-- What the parts of a call do to the caches of a relay, and what they note. -/
inductive RelayTable.Step (B : Build) : Option CacheNote → RelayTable S → RelayTable S → Prop
  | other {table table' : RelayTable S}
      (hroutes : table'.returnRoutes = table.returnRoutes)
      (hacked : table'.ackedDestinations = table.ackedDestinations) :
      RelayTable.Step B none table table'
  | returnRoute (table : RelayTable S) (side : Nat) (packetId : UInt64) :
      RelayTable.Step B (some (.returnRoute packetId)) table
        { table with toRoutingTable := table.noteReliableReturnRoute B side packetId }
  | acked (table : RelayTable S) (packetId senderHash : UInt64) :
      RelayTable.Step B (some (.endToEnd packetId)) table
        (RelayInner.noteEndToEndAckedDestination B table packetId senderHash)
  | reconcile (table : RelayTable S) (routes : DiscoveryRoutes S) :
      RelayTable.Step B none table (RelayInner.reconcileEndToEndAckedDestinations table routes)
  | removeSide (table : RelayTable S) (side : Nat) :
      RelayTable.Step B none table { table with toRoutingTable := table.removeSide side }

def RelayHistory (B : Build) : List CacheNote → RelayTable S → RelayTable S → Prop :=
  NotedRun (RelayTable.Step B)

/-- Both caches of a relay under the notes there were. -/
structure RelayTable.Tracks (B : Build) (notes : List CacheNote) (table : RelayTable S) : Prop where
  returnRoutes : table.returnRoutes.Tracks B.returnRouteCap (notes.filterMap CacheNote.returnRoute?)
  acked : table.ackedDestinations.Tracks B.ackedDestinationCap
    (notes.filterMap CacheNote.endToEnd?)

variable {notes : List CacheNote} {note : Option CacheNote} {table table' : RelayTable S}

theorem RelayTable.Tracks.step (h : table.Tracks B notes) (hstep : RelayTable.Step B note table table') :
    table'.Tracks B (notes ++ note.toList) := by
  cases hstep with
  | other hroutes hacked =>
    rw [Option.toList_none, List.append_nil]
    exact ⟨hroutes ▸ h.returnRoutes, hacked ▸ h.acked⟩
  | returnRoute _ side packetId =>
    have hnoted := h.returnRoutes.note (Nat.le_max_right _ _) packetId side
    rw [← noteReliableReturnRoute_returnRoutes] at hnoted
    constructor
    · rw [List.filterMap_append]
      exact hnoted
    · rw [List.filterMap_append]
      exact (List.append_nil _).symm ▸ h.acked
  | acked _ packetId senderHash =>
    have hnoted := h.acked.note (Nat.le_max_right _ _) packetId (table.ackedWith B packetId senderHash)
    rw [← noteEndToEndAckedDestination_ackedDestinations] at hnoted
    constructor
    · rw [List.filterMap_append]
      exact (List.append_nil _).symm ▸ h.returnRoutes
    · rw [List.filterMap_append]
      exact hnoted
  | reconcile _ routes =>
    rw [Option.toList_none, List.append_nil]
    exact ⟨h.returnRoutes, h.acked.fewer fun id hid => Std.ExtTreeMap.mem_of_mem_filterMap hid⟩
  | removeSide _ side =>
    rw [Option.toList_none, List.append_nil]
    exact ⟨h.returnRoutes.fewer fun id hid => Std.ExtTreeMap.mem_of_mem_filter hid, h.acked⟩

/-- A plan moves a cursor at most. -/
theorem RelayTable.step_remoteSidePlan {st : RelayInner S} {now : UInt64} {data : RouterItem S}
    {src : Nat} {sides : List Nat}
    (h : st.remoteSidePlan B now table data src = .ok (table', sides)) :
    RelayTable.Step B none table table' := by
  have hselect : ∀ {targets : List Nat} {origin : RouteSelectionOrigin},
      RelayInner.select B table src targets origin = .ok (table', sides) →
      RelayTable.Step B none table table' := by
    intro targets origin hchosen
    obtain ⟨⟨routing, chosen⟩, hrouting, hchosen⟩ := bind_eq_ok.mp hchosen
    obtain ⟨rfl, rfl⟩ := Prod.mk.inj (Except.ok.inj hchosen)
    rcases (RoutingTable.applyRouteSelection_selects hrouting).table_eq with rfl | rfl
    · exact .other rfl rfl
    · exact .other rfl rfl
  obtain ⟨⟨eps, ty⟩, -, h⟩ := bind_eq_ok.mp h
  obtain ⟨preferred, -, h⟩ := bind_eq_ok.mp h
  dsimp only at h
  split at h
  · exact hselect h
  · obtain ⟨source, -, h⟩ := bind_eq_ok.mp h
    cases preferred with
    | none =>
      obtain ⟨⟨targets, origin⟩, -, h⟩ := bind_eq_ok.mp h
      exact hselect h
    | some packetId =>
      obtain ⟨rfl, -⟩ := Prod.mk.inj (Except.ok.inj h)
      exact .other rfl rfl

/-- The caches of the relay are those of `start`, with a history. -/
def RelayState.Noted (B : Build) (start : RelayTable S) (s : RelayState S) : Prop :=
  ∃ notes, RelayHistory B notes start s.table

theorem RelayState.Noted.step {start : RelayTable S} {s s' : RelayState S} (h : s.Noted B start)
    (hstep : RelayTable.Step B note s.table s'.table) : s'.Noted B start := by
  obtain ⟨notes, hhistory⟩ := h
  exact ⟨_, hhistory.tail hstep⟩

end Relays

namespace RelayProgram
variable {B : Build} {S : Schema} {w : RelayWorld S} {start : RelayTable S}

theorem noted_onInner {α : Type} (f : RelayInner S → RelayInner S × Outcome α) :
    Program.Keeps (RelayState.Noted B start) (onInner f) := fun _ hs => hs

theorem noted_record (event : RelayEvent S) :
    Program.Keeps (RelayState.Noted B start) (record event) := fun _ hs => hs

theorem noted_changeTable {change : RelayTable S → RelayTable S}
    (hstep : ∀ table, ∃ note, RelayTable.Step B note table (change table)) :
    Program.Keeps (RelayState.Noted B start) (changeTable change) := by
  intro s hs
  obtain ⟨note, hstep⟩ := hstep s.table
  exact hs.step hstep

theorem noted_changeInner (change : RelayInner S → Outcome (RelayInner S)) :
    Program.Keeps (RelayState.Noted B start) (changeInner change) := by
  intro s hs
  unfold changeInner
  split
  · exact hs
  · exact hs

theorem noted_setRule (src dst : Option Nat) {set : RoutingTable S → RoutingTable S}
    (hset : ∀ table, (set table).returnRoutes = table.returnRoutes) :
    Program.Keeps (RelayState.Noted B start) (setRule src dst set) :=
  .bind .read fun _ => .bind (.of _) fun _ => noted_changeTable fun table =>
    ⟨none, .other (hset table.toRoutingTable) rfl⟩

section Receive

theorem noted_remoteSidePlan (data : RouterItem S) (src : Nat) :
    Program.Keeps (RelayState.Noted B start) (remoteSidePlan B w data src) := by
  intro s hs
  unfold remoteSidePlan
  split
  · exact hs
  · rename_i hplan
    exact hs.step (RelayTable.step_remoteSidePlan hplan)

theorem noted_learnDiscoveryItem (src : Nat) (data : RouterItem S) :
    Program.Keeps (RelayState.Noted B start) (learnDiscoveryItem B w src data) := by
  unfold learnDiscoveryItem
  split
  · exact .pure ()
  · refine (Program.Keeps.of _).bind fun learned => (noted_onInner _).bind fun _ => ?_
    exact .ite (fun s hs => hs.step (.reconcile s.table s.inner.discoveryRoutes)) (.pure ())

theorem noted_forward (src : Nat) (data : RouterItem S) :
    Program.Keeps (RelayState.Noted B start) (forward B w src data) := by
  refine (noted_learnDiscoveryItem src data).bind fun _ => ?_
  refine (noted_remoteSidePlan data src).bind fun sides => (noted_record _).bind fun _ => ?_
  exact .forEach fun _ _ => (Program.Keeps.of _).bind fun _ => noted_onInner _

theorem noted_dispatchPacket (src : Nat) (pkt : Packet S) :
    Program.Keeps (RelayState.Noted B start) (dispatchPacket B w src pkt) := by
  refine .ite ?_ (noted_forward src _)
  split
  · rename_i packetId _
    refine Program.Keeps.bind ?_ fun _ => noted_forward src _
    unfold noteAcked
    split
    · exact .pure ()
    · exact noted_changeTable fun table => ⟨_, .acked table packetId _⟩
  · exact noted_onInner _

theorem noted_dispatchRelayRxItem (src : Nat) (data : RouterItem S) :
    Program.Keeps (RelayState.Noted B start) (dispatchRelayRxItem B w src data) := by
  cases data with
  | packet pkt => exact noted_dispatchPacket src pkt
  | serialized bytes =>
    refine (Program.Keeps.of _).bind fun envelope => .ite ?_ (noted_forward src _)
    exact (Program.Keeps.of _).bind fun pkt => noted_dispatchPacket src pkt

theorem noted_skipsItem (src : Nat) (data : RouterItem S) :
    Program.Keeps (RelayState.Noted B start) (skipsItem B w src data) := by
  refine Program.Keeps.bind ?_ fun known => .ite ?_ (.pure _)
  · refine (noted_onInner _).bind fun known => .ite (.pure _) ?_
    exact (Program.Keeps.of _).bind fun _ => (noted_record _).bind fun _ => .pure _
  · refine Program.Keeps.bind ?_ fun _ => .pure _
    refine (Program.Keeps.of _).bind fun ty => .ite ?_ (.pure _)
    exact (noted_remoteSidePlan data src).bind fun _ => Program.Keeps.read.bind fun _ => .pure _

theorem noted_handOver (src : Nat) (data : RouterItem S) (released : List (List UInt8)) :
    Program.Keeps (RelayState.Noted B start) (handOver B w src data released) := by
  refine (noted_skipsItem src data).bind fun skips => .ite (.pure ()) ?_
  refine (noted_dispatchRelayRxItem src data).bind fun _ => .forEach fun bytes _ => ?_
  refine (Program.Keeps.of _).bind fun _ => (noted_skipsItem src _).bind fun skips => ?_
  exact .ite (.pure ()) (noted_dispatchRelayRxItem src _)

theorem noted_processRxQueueItem (item : RelayRxItem S) :
    Program.Keeps (RelayState.Noted B start) (processRxQueueItem B w item) := by
  refine Program.Keeps.bind ?_ fun _ => (noted_onInner _).bind fun released => ?_
  · refine Program.Keeps.read.bind fun _ => (Program.Keeps.of _).bind fun _ => ?_
    refine (Program.Keeps.of _).bind fun id => ?_
    cases id with
    | none => exact .pure ()
    | some packetId => exact noted_changeTable fun table => ⟨_, .returnRoute table item.src packetId⟩
  · cases released with
    | none => exact .pure ()
    | some released => exact noted_handOver item.src item.data released

theorem noted_receiveOne : Program.Keeps (RelayState.Noted B start) (receiveOne B w) := by
  intro s hs
  unfold receiveOne
  split
  · exact hs
  · exact noted_processRxQueueItem _ _ hs

end Receive

section Send
variable (hreact : ∀ side wire t, t.Noted B start → (w.react side wire t).Noted B start)
include hreact

theorem noted_sendTxItem (item : RelayTxItem S) (side : Side) :
    Program.Keeps (RelayState.Noted B start) (sendTxItem B w item side) := by
  intro s hs
  unfold sendTxItem
  dsimp only
  split
  · split
    · exact hs
    · rename_i hsampled
      obtain ⟨bytes, -, hsampled⟩ := bind_eq_ok.mp hsampled
      obtain rfl := Except.ok.inj hsampled
      exact hreact _ _ _ (hs.step (.other rfl rfl))
  · exact hreact _ _ _ hs
  · exact hs

theorem noted_sendOrPutBack (item : RelayTxItem S) (side : Side) :
    Program.Keeps (RelayState.Noted B start) (sendOrPutBack B w item side) := by
  intro s hs
  have hsent := noted_sendTxItem hreact item side s hs
  unfold sendOrPutBack
  split
  · rename_i heq
    rwa [heq] at hsent
  · rename_i heq
    rw [heq] at hsent
    split
    · exact hsent
    · exact hsent

theorem noted_processReplayQueueItem :
    Program.Keeps (RelayState.Noted B start) (processReplayQueueItem B w) := by
  intro s hs
  unfold processReplayQueueItem
  split
  · exact hs
  · dsimp only
    split
    · have hother : ∀ {table : RelayTable S}, table.returnRoutes = s.table.returnRoutes →
          table.ackedDestinations = s.table.ackedDestinations →
          RelayTable.Step B none s.table table := .other
      refine hreact _ _ _ (hs.step (hother ?_ ?_))
      · dsimp only
        split <;> rfl
      · dsimp only
        split <;> rfl
    · exact hs

theorem noted_txTurn : Program.Keeps (RelayState.Noted B start) (txTurn B w) := by
  refine (noted_onInner _).bind fun _ => (noted_processReplayQueueItem hreact).bind fun replayed => ?_
  refine .ite (.pure ()) ((noted_onInner _).bind fun popped => ?_)
  cases popped with
  | none => exact .pure ()
  | some popped => exact noted_sendOrPutBack hreact popped.1 popped.2

theorem noted_allTurn (timeUp : Bool) :
    Program.Keeps (RelayState.Noted B start) (allTurn B w timeUp) := by
  refine (noted_onInner _).bind fun _ => noted_receiveOne.bind fun _ => .ite (.pure ()) ?_
  refine (noted_processReplayQueueItem hreact).bind fun _ => (noted_onInner _).bind fun popped => ?_
  cases popped with
  | none => exact .pure ()
  | some popped => exact (noted_sendTxItem hreact popped.1 popped.2).bind fun _ => .pure ()

end Send
end RelayProgram

open RelayProgram in
/-- Every call into a relay is made of such steps. -/
theorem RelayCall.noted_run {B : Build} {S : Schema} {w : RelayWorld S} {start : RelayTable S}
    (hreact : ∀ side wire t, t.Noted B start → (w.react side wire t).Noted B start)
    (call : RelayCall S) : Program.Keeps (RelayState.Noted B start) (call.run B w) := by
  cases call with
  | rxFromSide src data =>
    refine (noted_record _).bind fun _ => Program.Keeps.read.bind fun _ => ?_
    exact (Program.Keeps.of _).bind fun _ => (Program.Keeps.of _).bind fun _ => noted_onInner _
  | processRx => exact noted_receiveOne
  | processTx => exact noted_txTurn hreact
  | processAll timeUp => exact noted_allTurn hreact timeUp
  | reconcileEndToEndAckedDestinations =>
    exact fun s hs => hs.step (.reconcile s.table s.inner.discoveryRoutes)
  | queueDiscoveryAnnounce dst pkt => exact (Program.Keeps.of _).bind fun _ => noted_onInner _
  | removeSide side =>
    exact (noted_changeInner _).bind fun _ =>
      noted_changeTable fun table => ⟨none, .removeSide table side⟩
  | setSideIngressEnabled side enabled => exact noted_changeInner _
  | setSideEgressEnabled side enabled => exact noted_changeInner _
  | setSourceRouteMode src mode => exact noted_setRule _ _ fun _ => rfl
  | setRouteWeight key weight => exact noted_setRule _ _ fun _ => rfl
  | setRoutePriority key priority => exact noted_setRule _ _ fun _ => rfl
  | setRoute key enabled => exact noted_setRule _ _ fun _ => rfl
  | setTypedRoute key enabled => exact noted_setRule _ _ fun _ => rfl
  | pruneDiscoveryRoutes | fitDiscoveryBudget | clearQueues | clearRxQueue | clearTxQueue
  | addSide side => exact noted_onInner _

/-- So is every run of a relay. -/
theorem RelayRun.history {B : Build} {S : Schema} {n : Nat} {start s : RelayState S}
    (hrun : RelayRun B n start s) : ∃ notes, RelayHistory B notes start.table s.table := by
  refine @Layered.invariant _ (RelayCall.Step B) (RelayState.Noted B start.table) ?_ n start s hrun
    ⟨[], .refl _⟩
  rintro r s s' hr ⟨w, call, hreact, rfl⟩ hs
  exact call.noted_run (fun side wire t ht => hr _ _ (hreact side wire t) ht) s hs

section Guarantee
variable {B : Build} {S : Schema}

/-- The caches of a router are within their bounds, and evict in the order of the notes. -/
structure RouterState.CachesConsistent (B : Build) (notes : List CacheNote) (s : RouterState S) :
    Prop where
  returnRoutes : s.table.returnRoutes.Consistent B.returnRouteCap
  endToEnd : s.inner.endToEndEntries.Consistent B.endToEndCap
  returnRouteEvicted : ∀ side packetId,
    NotedCache.EvictsOldest B.returnRouteCap (notes.filterMap CacheNote.returnRoute?)
      s.table.reliableReturnRoutes
      (s.table.noteReliableReturnRoute B side packetId).reliableReturnRoutes packetId side
  endToEndEvicted : ∀ packetId data destinations now,
    NotedCache.EvictsOldest B.endToEndCap (notes.filterMap CacheNote.endToEnd?)
      s.inner.endToEndReliableTx
      (s.inner.registerEndToEndReliableTx B packetId data destinations now).endToEndReliableTx
      packetId ⟨data, destinations, !destinations.isEmpty, now, 0, false⟩

/-- The caches of a relay are. -/
structure RelayTable.CachesConsistent (B : Build) (notes : List CacheNote) (table : RelayTable S) :
    Prop where
  returnRoutes : table.returnRoutes.Consistent B.returnRouteCap
  acked : table.ackedDestinations.Consistent B.ackedDestinationCap
  returnRouteEvicted : ∀ side packetId,
    NotedCache.EvictsOldest B.returnRouteCap (notes.filterMap CacheNote.returnRoute?)
      table.reliableReturnRoutes
      (table.noteReliableReturnRoute B side packetId).reliableReturnRoutes packetId side
  ackedEvicted : ∀ packetId senderHash,
    NotedCache.EvictsOldest B.ackedDestinationCap (notes.filterMap CacheNote.endToEnd?)
      table.endToEndAckedDestinations
      (RelayInner.noteEndToEndAckedDestination B table packetId
        senderHash).endToEndAckedDestinations packetId [senderHash]

theorem RoutingTable.evictsOldest {table : RoutingTable S} {notes : List UInt64}
    (h : table.returnRoutes.Tracks B.returnRouteCap notes) (side : Nat) (packetId : UInt64) :
    NotedCache.EvictsOldest B.returnRouteCap notes table.reliableReturnRoutes
      (table.noteReliableReturnRoute B side packetId).reliableReturnRoutes packetId side := by
  have hevicts := h.evictsOldest (Nat.le_max_right _ _) packetId side
  rwa [← noteReliableReturnRoute_returnRoutes] at hevicts

theorem RouterState.Tracks.consistent {notes : List CacheNote} {s : RouterState S}
    (h : s.Tracks B notes) : s.CachesConsistent B notes := by
  refine ⟨h.returnRoutes.consistent, h.endToEnd.consistent,
    fun side packetId => RoutingTable.evictsOldest h.returnRoutes side packetId,
    fun packetId data destinations now => ?_⟩
  have hevicts := h.endToEnd.evictsOldest (Nat.le_max_right _ _) packetId
    ⟨data, destinations, !destinations.isEmpty, now, 0, false⟩
  rwa [← registerEndToEndReliableTx_endToEndEntries] at hevicts

theorem RelayTable.Tracks.consistent {notes : List CacheNote} {table : RelayTable S}
    (h : table.Tracks B notes) : table.CachesConsistent B notes := by
  refine ⟨h.returnRoutes.consistent, h.acked.consistent,
    fun side packetId => RoutingTable.evictsOldest h.returnRoutes side packetId,
    fun packetId senderHash hnew => ?_⟩
  have hevicts := h.acked.evictsOldest (Nat.le_max_right _ _) packetId
    (table.ackedWith B packetId senderHash) hnew
  rw [← noteEndToEndAckedDestination_ackedDestinations, RelayTable.ackedWith_of_new hnew] at hevicts
  exact hevicts

end Guarantee

/-- Runs of routers and relays are made of steps that note ids; in every state behind such steps
their caches are consistent, and a new id in a full one evicts the one noted least recently. -/
theorem bounded_caches_consistent (B : Build) (S : Schema) :
    (∀ (inner : RouterInner S) (n : Nat) (s : RouterState S), RouterInner.new B = .ok inner →
      RouterRun B n (.initial inner) s → ∃ notes, RouterHistory B notes (.initial inner) s) ∧
    (∀ (inner : RouterInner S) (notes : List CacheNote) (s : RouterState S),
      RouterInner.new B = .ok inner → RouterHistory B notes (.initial inner) s →
      s.CachesConsistent B notes) ∧
    (∀ (inner : RelayInner S) (n : Nat) (s : RelayState S), RelayInner.new B = .ok inner →
      RelayRun B n (.initial inner) s → ∃ notes, RelayHistory B notes .empty s.table) ∧
    ∀ (notes : List CacheNote) (table : RelayTable S), RelayHistory B notes .empty table →
      table.CachesConsistent B notes := by
  refine ⟨fun inner n s hnew hrun => ?_, fun inner notes s hnew hrun => ?_,
    fun inner n s _ hrun => hrun.history, fun notes table hrun => ?_⟩
  · exact hrun.history (RouterInner.entriesSound_new hnew)
  · have hinit : (RouterState.initial inner).Tracks B [] := by
      obtain ⟨received, -, hnew⟩ := bind_eq_ok.mp hnew
      obtain ⟨transmit, -, hnew⟩ := bind_eq_ok.mp hnew
      obtain ⟨recent, -, hnew⟩ := bind_eq_ok.mp hnew
      obtain rfl := Except.ok.inj hnew
      exact ⟨.empty, .empty⟩
    exact (NotedRun.invariant (fun ⟨w, hstep⟩ hs => hs.step hstep) hrun hinit).consistent
  · have hinit : (RelayTable.empty : RelayTable S).Tracks B [] := ⟨.empty, .empty⟩
    exact (NotedRun.invariant (fun hstep hs => hs.step hstep) hrun hinit).consistent

/-- A build that keeps one id of each kind. -/
def singleBuild : Build :=
  { hostBuild with
    reliableMaxReturnRoutes := 1, reliableMaxEndToEndPending := 0, reliableMaxEndToEndAckCache := 1 }

/-- The acknowledgement of packet 5 by `ground`. -/
def fiveAck : Packet defaultSchema where
  ty := 13
  dataSize := 8
  sender := "E2EACK:ground"
  endpoints := [4]
  timestamp := 0
  payload := .inline 8 (encodeEndToEndReliableAck 5)

/-- A router that has received a fix. -/
def behindFix (inner : RouterInner defaultSchema) : RouterState defaultSchema :=
  ((RouterCall.rx ⟨some 0, .packet gpsPacket, 0⟩).run singleBuild (.quiet (.bare "gw") 0 16) 0
    ((RouterCall.addSide .reliable).run singleBuild (.quiet (.bare "gw") 0 16) 0
      (.initial inner)).1).1

theorem run_behindFix (inner : RouterInner defaultSchema) :
    RouterRun singleBuild 1 (.initial inner) (behindFix inner) := by
  have hreacts : (RouterWorld.quiet (.bare "gw") 0 16 : RouterWorld defaultSchema).Reacts
      (Layered (RouterCall.Step singleBuild) 0) := ⟨fun _ _ => rfl, fun _ _ _ => rfl⟩
  exact (Relation.ReflTransGen.single ⟨_, 0, _, hreacts, rfl⟩).tail ⟨_, 0, _, hreacts, rfl⟩

/-- A relay that has forwarded the acknowledgement. -/
def behindFive (inner : RelayInner defaultSchema) : RelayState defaultSchema :=
  (RelayState.initial inner).after singleBuild ⟨0, fun _ _ => .accepting 0, fun _ _ s => s⟩
    [.addSide .reliable, .addSide .reliable, .rxFromSide 0 (.packet fiveAck), .processRx]

/-- A return route of the router and an acknowledgement at the relay, each in a full cache, make
room for the next. -/
theorem bounded_caches_consistent_single :
    (∃ (inner : RouterInner defaultSchema) (notes : _),
      RouterInner.new singleBuild = .ok inner ∧
      RouterRun singleBuild 1 (.initial inner) (behindFix inner) ∧
      RouterHistory singleBuild notes (.initial inner) (behindFix inner) ∧
      (behindFix inner).CachesConsistent singleBuild notes ∧
      ∃ oldest ∈ (behindFix inner).table.reliableReturnRoutes,
        oldest ∉ ((behindFix inner).table.noteReliableReturnRoute singleBuild 0
          6).reliableReturnRoutes) ∧
    ∃ (inner : RelayInner defaultSchema) (notes : _),
      RelayInner.new singleBuild = .ok inner ∧
      RelayRun singleBuild 1 (.initial inner) (behindFive inner) ∧
      RelayHistory singleBuild notes .empty (behindFive inner).table ∧
      (behindFive inner).table.CachesConsistent singleBuild notes ∧
      ∃ oldest ∈ (behindFive inner).table.endToEndAckedDestinations,
        oldest ∉ (RelayInner.noteEndToEndAckedDestination singleBuild (behindFive inner).table 6
          7).endToEndAckedDestinations := by
  obtain ⟨hrouterRuns, hrouters, hrelayRuns, hrelays⟩ :=
    bounded_caches_consistent singleBuild defaultSchema
  constructor
  · obtain ⟨inner, hnew, hview⟩ := Option.map_eq_some_iff.mp (show
      ((RouterInner.new singleBuild : Outcome (RouterInner defaultSchema)).toOption.map fun inner =>
        ((behindFix inner).table.reliableReturnRoutes.contains 6,
          (behindFix inner).table.reliableReturnRoutes.size)) = some (false, 1) from by
        decide +kernel)
    obtain ⟨habsent, hfull⟩ := Prod.mk.inj hview
    have hnew := toOption_eq_some.mp hnew
    obtain ⟨notes, hhistory⟩ := hrouterRuns inner 1 _ hnew (run_behindFix inner)
    have hconsistent := hrouters inner notes _ hnew hhistory
    refine ⟨inner, notes, hnew, run_behindFix inner, hhistory, hconsistent, ?_⟩
    exact NotedCache.EvictsOldest.leaves (hconsistent.returnRouteEvicted 0 6)
      (Bool.eq_false_iff.mp habsent) hfull
  · obtain ⟨inner, hnew, hview⟩ := Option.map_eq_some_iff.mp (show
      ((RelayInner.new singleBuild : Outcome (RelayInner defaultSchema)).toOption.map fun inner =>
        ((behindFive inner).table.endToEndAckedDestinations.contains 6,
          (behindFive inner).table.endToEndAckedDestinations.size)) = some (false, 1) from by
        decide +kernel)
    obtain ⟨habsent, hfull⟩ := Prod.mk.inj hview
    have hnew := toOption_eq_some.mp hnew
    have hrun : RelayRun singleBuild 1 (.initial inner) (behindFive inner) :=
      .after (fun _ _ _ => rfl) _ _
    obtain ⟨notes, hhistory⟩ := hrelayRuns inner 1 _ hnew hrun
    have hconsistent := hrelays notes _ hhistory
    refine ⟨inner, notes, hnew, hrun, hhistory, hconsistent, ?_⟩
    exact NotedCache.EvictsOldest.leaves (hconsistent.ackedEvicted 6 7)
      (Bool.eq_false_iff.mp habsent) hfull

end Sedsprintf
