import Sedsprintf.Guarantees.Silence

/-!
# End-to-end completion

A destination leaves the pending set of a tracked packet when its acknowledgement arrives,
when no side announces it any more, when the retries are exhausted, or when the entry is
evicted. The scan for the announced destinations returns once it has as many as packets may
be tracked; a reconciliation drops the destinations behind that.
-/
namespace Sedsprintf

open Lib

section Destinations
variable {B : Build} {S : Schema} {view : EndToEndView S} {data : RouterItem S} {hash : UInt64}

/-- A fresh route on a side the packet may take announces a board with that hash as reaching
one of its endpoints. -/
def EndToEndView.Announced (B : Build) (view : EndToEndView S) (data : RouterItem S)
    (hash : UInt64) : Prop :=
  ∃ eps ty side route, ∃ sender : String, ∃ announcer board,
    RouterInner.itemRouteInfo B data = .ok (eps, ty) ∧
    view.inner.discoveryRoutes[side]? = some route ∧
    view.inner.leadsToDestinations view.table view.now
      (RoutingTable.endpointsAreLinkLocalOnly eps) ty side route = true ∧
    route.announcers[sender]? = some announcer ∧ isFresh view.now announcer = true ∧
    board ∈ announcer.topologyBoards ∧
    RoutingTable.isEndToEndDestinationSender board.senderId = true ∧
    (∃ ep ∈ eps, ep ∈ board.reachableEndpoints) ∧ senderHash (asBytes board.senderId) = hash

/-- No more destinations are announced for the packet than packets may be tracked. -/
def EndToEndView.DestinationsFit (B : Build) (view : EndToEndView S) (data : RouterItem S) : Prop :=
  ∀ eps ty, RouterInner.itemRouteInfo B data = .ok (eps, ty) →
    ((view.inner.announcedDestinations view.table view.now eps ty).map Prod.fst).dedup.length ≤
      max B.reliableMaxEndToEndPending 1

theorem EndToEndView.announced_iff {eps : List S.DataEndpoint} {ty : S.DataType}
    (hinfo : RouterInner.itemRouteInfo B data = .ok (eps, ty)) :
    view.Announced B data hash ↔
      hash ∈ (view.inner.announcedDestinations view.table view.now eps ty).map Prod.fst := by
  constructor
  · rintro ⟨eps', ty', side, route, sender, announcer, board, hinfo', hroute, hleads, hannouncer,
      hfresh, hboard, hdestination, ⟨ep, hep, hreach⟩, rfl⟩
    rw [hinfo] at hinfo'
    obtain ⟨rfl, rfl⟩ := Prod.mk.inj (Except.ok.inj hinfo')
    refine List.mem_map.mpr ⟨(senderHash (asBytes board.senderId), side), ?_, rfl⟩
    refine List.mem_flatMap.mpr ⟨(side, route), List.mem_filter.mpr ⟨?_, hleads⟩, ?_⟩
    · exact Std.ExtTreeMap.mem_toList_iff_getElem?_eq_some.mpr hroute
    · refine List.mem_flatMap.mpr ⟨(sender, announcer), List.mem_filter.mpr ⟨?_, hfresh⟩, ?_⟩
      · exact Std.ExtTreeMap.mem_toList_iff_getElem?_eq_some.mpr hannouncer
      · refine List.mem_map.mpr ⟨board, List.mem_filter.mpr ⟨hboard, ?_⟩, rfl⟩
        rw [hdestination, Bool.true_and, List.any_eq_true]
        exact ⟨ep, hep, List.contains_iff_mem.mpr hreach⟩
  · intro hhash
    obtain ⟨⟨_, side⟩, hmem, rfl⟩ := List.mem_map.mp hhash
    obtain ⟨⟨side', route⟩, hroute, hmem⟩ := List.mem_flatMap.mp hmem
    obtain ⟨hroute, hleads⟩ := List.mem_filter.mp hroute
    obtain ⟨⟨sender, announcer⟩, hannouncer, hmem⟩ := List.mem_flatMap.mp hmem
    obtain ⟨hannouncer, hfresh⟩ := List.mem_filter.mp hannouncer
    obtain ⟨board, hboard, heq⟩ := List.mem_map.mp hmem
    obtain ⟨hboard, hreach⟩ := List.mem_filter.mp hboard
    obtain ⟨hdestination, hreach⟩ := Bool.and_eq_true_iff.mp hreach
    obtain ⟨ep, hep, hcontains⟩ := List.any_eq_true.mp hreach
    exact ⟨eps, ty, side', route, sender, announcer, board, hinfo,
      Std.ExtTreeMap.mem_toList_iff_getElem?_eq_some.mp hroute, hleads,
      Std.ExtTreeMap.mem_toList_iff_getElem?_eq_some.mp hannouncer, hfresh, hboard, hdestination,
      ⟨ep, hep, List.contains_iff_mem.mp hcontains⟩, (Prod.mk.inj heq).1⟩

/-- While they fit, what is announced is expected. -/
theorem EndToEndView.Announced.expected {destinations : OrdMap UInt64 Nat}
    (h : view.Announced B data hash) (hfit : view.DestinationsFit B data)
    (hexpected : view.inner.expectedEndToEndDestinations B view.table view.now data =
      .ok destinations) :
    hash ∈ destinations := by
  obtain ⟨⟨eps, ty⟩, hinfo, hexpected⟩ := bind_eq_ok.mp hexpected
  obtain rfl := Except.ok.inj hexpected
  refine RouterInner.collectDestinations_complete (fun keys hnodup hkeys => ?_)
    ((EndToEndView.announced_iff hinfo).mp h)
  refine le_trans ?_ (hfit eps ty hinfo)
  refine (hnodup.subperm fun k hk => ?_).length_le
  rcases hkeys k hk with hempty | hmem
  · simp at hempty
  · exact List.mem_dedup.mpr hmem

end Destinations

namespace RouterInner
variable {B : Build} {S : Schema} {st : RouterInner S} {id hash : UInt64}

/-- The destination has still to acknowledge the packet. -/
def Pending (st : RouterInner S) (id hash : UInt64) : Prop :=
  ∃ entry, st.endToEndReliableTx[id]? = some entry ∧ entry.trackedDestinations = true ∧
    hash ∈ entry.pendingDestinations

theorem Pending.insert {id' : UInt64} {entry entry' : EndToEndReliableSent S}
    (h : st.Pending id hash) (hentry : st.endToEndReliableTx[id']? = some entry)
    (htracked : entry'.trackedDestinations = entry.trackedDestinations)
    (hpending : entry'.pendingDestinations = entry.pendingDestinations) :
    Pending { st with endToEndReliableTx := st.endToEndReliableTx.insert id' entry' } id hash := by
  obtain ⟨found, hfound, hkept, hmem⟩ := h
  by_cases heq : id' = id
  · subst heq
    rw [hentry] at hfound
    obtain rfl := Option.some.inj hfound
    refine ⟨entry', ?_, htracked.trans hkept, hpending ▸ hmem⟩
    dsimp only
    rw [OrdMap.get?_insert, if_pos rfl]
  · refine ⟨found, ?_, hkept, hmem⟩
    dsimp only
    rw [OrdMap.get?_insert, if_neg heq]
    exact hfound

theorem Pending.erase {id' : UInt64} (h : st.Pending id hash) (hne : id' ≠ id) :
    Pending { st with endToEndReliableTx := st.endToEndReliableTx.erase id' } id hash := by
  obtain ⟨found, hfound, hkept, hmem⟩ := h
  refine ⟨found, ?_, hkept, hmem⟩
  dsimp only
  rw [OrdMap.get?_erase, if_neg hne]
  exact hfound

/-- A reconciliation drops what is not expected. -/
theorem Pending.reconcile (h : st.Pending id hash)
    (expected : UInt64 → Outcome (OrdMap UInt64 Nat)) :
    (st.reconcileEndToEnd expected).1.Pending id hash ∨
      ∃ entry d, st.endToEndReliableTx[id]? = some entry ∧ expected id = .ok d ∧ hash ∉ d := by
  obtain ⟨entry, hentry, htracked, hmem⟩ := h
  obtain ⟨side, hside⟩ := OrdMap.mem_iff_get?.mp hmem
  have hdropped : ∀ d : OrdMap UInt64 Nat,
      (entry.reconciled d).pendingDestinations[hash]? = none → hash ∉ d := by
    intro d hnone hin
    obtain ⟨side', hside'⟩ := OrdMap.mem_iff_get?.mp hin
    rw [EndToEndReliableSent.pending_reconciled htracked, hside, Option.bind_some, hside'] at hnone
    cases hnone
  rcases @reconcileEndToEnd_entry S expected id entry st hentry with
    hsame | ⟨d, hd, hsame | ⟨-, -, hempty⟩⟩
  · exact .inl ⟨entry, hsame, htracked, hmem⟩
  · by_cases hin : hash ∈ (entry.reconciled d).pendingDestinations
    · refine .inl ⟨entry.reconciled d, hsame, ?_, hin⟩
      rw [EndToEndReliableSent.reconciled, if_pos htracked]
      exact htracked
    · exact .inr ⟨entry, d, hentry, hd, hdropped d (Std.ExtTreeMap.getElem?_eq_none hin)⟩
  · exact .inr ⟨entry, d, hentry, hd, hdropped d (by rw [hempty, OrdMap.get?_empty])⟩

/-- An acknowledgement of another packet. -/
theorem Pending.handleEndToEndAck_of_ne (h : st.Pending id hash) {packetId : UInt64}
    (hne : packetId ≠ id) (sender : Option UInt64) :
    (st.handleEndToEndAck packetId sender).Pending id hash := by
  have hpending := h
  obtain ⟨entry, hentry, htracked, hmem⟩ := h
  unfold RouterInner.handleEndToEndAck
  split
  · exact hpending
  · split
    · exact hpending.erase hne
    · dsimp only
      split
      · exact hpending.erase hne
      · refine ⟨entry, ?_, htracked, hmem⟩
        dsimp only
        rw [OrdMap.get?_insert, if_neg hne]
        exact hentry

/-- An acknowledgement by another destination. -/
theorem Pending.handleEndToEndAck_of_sender (h : st.Pending id hash) {sender : UInt64}
    (hne : sender ≠ hash) : (st.handleEndToEndAck id (some sender)).Pending id hash := by
  obtain ⟨entry, hentry, htracked, hmem⟩ := h
  have hstays : hash ∈ entry.pendingDestinations.erase sender :=
    Std.ExtTreeMap.mem_erase.mpr ⟨by simpa using hne, hmem⟩
  have hnonempty : ¬(entry.pendingDestinations.erase sender).isEmpty = true := by
    rw [Std.ExtTreeMap.isEmpty_iff]
    intro hempty
    rw [hempty] at hstays
    simp at hstays
  refine ⟨{ entry with pendingDestinations := entry.pendingDestinations.erase sender }, ?_,
    htracked, hstays⟩
  simp only [RouterInner.handleEndToEndAck, hentry, if_neg hnonempty]
  rw [OrdMap.get?_insert, if_pos rfl]

theorem endToEndTimeoutScan_of_not_mem {now : UInt64} {ids : List UInt64}
    {sent : EndToEndEntries S} (hnot : id ∉ ids) :
    (endToEndTimeoutScan B now sent ids).1[id]? = sent[id]? := by
  induction ids generalizing sent with
  | nil => rfl
  | cons first rest ih =>
    rw [List.mem_cons, not_or] at hnot
    exact (ih hnot.2).trans (endToEndTimeoutEntry_of_ne hnot.1)

/-- A scan drops the packets whose retries are used up. -/
theorem endToEndTimeoutScan_entry {now : UInt64} {ids : List UInt64} {sent : EndToEndEntries S}
    {entry : EndToEndReliableSent S} (hnodup : ids.Nodup) (hentry : sent[id]? = some entry)
    (hretries : ¬B.reliableMaxRetries ≤ entry.retries) :
    ∃ entry', (endToEndTimeoutScan B now sent ids).1[id]? = some entry' ∧
      entry'.trackedDestinations = entry.trackedDestinations ∧
      entry'.pendingDestinations = entry.pendingDestinations := by
  induction ids generalizing sent with
  | nil => exact ⟨entry, hentry, rfl, rfl⟩
  | cons first rest ih =>
    obtain ⟨hfirst, hrest⟩ := List.nodup_cons.mp hnodup
    have hthen : (endToEndTimeoutScan B now sent (first :: rest)).1 =
      (endToEndTimeoutScan B now (endToEndTimeoutEntry B now sent first).1 rest).1 := rfl
    rw [hthen]
    by_cases heq : first = id
    · -- Its own turn, and none after it.
      subst heq
      rw [endToEndTimeoutScan_of_not_mem hfirst]
      unfold endToEndTimeoutEntry
      simp only [hentry]
      split
      · exact ⟨entry, hentry, rfl, rfl⟩
      · refine ⟨{ entry with retries := entry.retries + 1 }, ?_, rfl, rfl⟩
        rw [OrdMap.get?_insert, if_pos rfl]
    · apply ih hrest
      rw [endToEndTimeoutEntry_of_ne (Ne.symm heq)]
      exact hentry

theorem Pending.timeouts (h : st.Pending id hash) (now : UInt64) :
    Pending { st with endToEndReliableTx :=
        (endToEndTimeoutScan B now st.endToEndReliableTx st.endToEndReliableTx.keys).1 } id hash ∨
      ∃ entry, st.endToEndReliableTx[id]? = some entry ∧ B.reliableMaxRetries ≤ entry.retries := by
  obtain ⟨entry, hentry, htracked, hmem⟩ := h
  by_cases hretries : B.reliableMaxRetries ≤ entry.retries
  · exact .inr ⟨entry, hentry, hretries⟩
  · have hnodup : st.endToEndReliableTx.keys.Nodup := Std.ExtTreeMap.nodup_keys
    obtain ⟨entry', hentry', hsame, hpending⟩ :=
      @endToEndTimeoutScan_entry B S id now _ _ entry hnodup hentry hretries
    exact .inl ⟨entry', hentry', hsame.trans htracked, hpending ▸ hmem⟩

/-- The ids in the order they were registered in, when another one is to follow. -/
def registeredBefore (st : RouterInner S) (packetId : UInt64) : List UInt64 :=
  st.endToEndReliableTxOrder.filter fun id =>
    decide (id ∈ st.endToEndReliableTx) && id != packetId

/-- What the eviction takes has as many behind it as may be tracked. -/
theorem forgetOldest_get?_or {cap : Nat} {order : List UInt64} {sent : EndToEndEntries S}
    {entry : EndToEndReliableSent S} (hentry : sent[id]? = some entry) :
    (forgetOldest cap order sent).2[id]? = some entry ∨
      ∃ before behind, order = before ++ id :: behind ∧ cap ≤ (id :: behind).length := by
  induction order generalizing sent with
  | nil => exact .inl hentry
  | cons oldest rest ih =>
    unfold forgetOldest
    split
    · rename_i hfull
      by_cases heq : oldest = id
      · subst heq
        exact .inr ⟨[], rest, rfl, hfull⟩
      · have hkept : (sent.erase oldest)[id]? = some entry := by
          rw [OrdMap.get?_erase, if_neg heq]
          exact hentry
        refine (ih hkept).imp_right ?_
        rintro ⟨before, behind, rfl, hcap⟩
        exact ⟨oldest :: before, behind, rfl, hcap⟩
    · exact .inl hentry

/-- A registration of another packet evicts when there are too many. -/
theorem Pending.register (h : st.Pending id hash) {packetId : UInt64} (hne : packetId ≠ id)
    (data : RouterItem S) (destinations : OrdMap UInt64 Nat) (now : UInt64) :
    (st.registerEndToEndReliableTx B packetId data destinations now).Pending id hash ∨
      ∃ before behind, st.registeredBefore packetId = before ++ id :: behind ∧
        max B.reliableMaxEndToEndPending 1 ≤ (id :: behind).length := by
  obtain ⟨entry, hentry, htracked, hmem⟩ := h
  refine (forgetOldest_get?_or hentry).imp_left fun hkept => ⟨entry, ?_, htracked, hmem⟩
  dsimp only [RouterInner.registerEndToEndReliableTx]
  rw [OrdMap.get?_insert, if_neg hne]
  exact hkept

/-- What is registered is pending. -/
theorem pending_register {packetId now : UInt64} {data : RouterItem S}
    {destinations : OrdMap UInt64 Nat} (hmem : hash ∈ destinations) :
    (st.registerEndToEndReliableTx B packetId data destinations now).Pending packetId hash := by
  have hnonempty : destinations.isEmpty = false := by
    rw [Std.ExtTreeMap.isEmpty_eq_false_iff]
    rintro rfl
    simp at hmem
  refine ⟨⟨data, destinations, !destinations.isEmpty, now, 0, false⟩, ?_, ?_, hmem⟩
  · dsimp only [RouterInner.registerEndToEndReliableTx]
    rw [OrdMap.get?_insert, if_pos rfl]
  · simp [hnonempty]

theorem Pending.endToEndRetransmitSides (h : st.Pending id hash) (packetId now : UInt64) :
    (st.endToEndRetransmitSides packetId now).Pending id hash := by
  have hpending := h
  obtain ⟨entry, hentry, htracked, hmem⟩ := h
  unfold RouterInner.endToEndRetransmitSides
  split
  · exact hpending
  · rename_i found hfound
    split
    · rename_i hempty
      rw [Bool.and_eq_true, Std.ExtTreeMap.isEmpty_iff] at hempty
      apply hpending.erase
      rintro rfl
      rw [hentry] at hfound
      obtain rfl := Option.some.inj hfound
      rw [hempty.2] at hmem
      simp at hmem
    · exact hpending.insert hfound rfl rfl

end RouterInner

section Events
variable {S : Schema}

/-- Why a destination of the packet may leave. -/
inductive RouterEvent.Justifies (B : Build) (id hash : UInt64) : RouterEvent S → Prop
  /-- Its acknowledgement is received. -/
  | acknowledged {data : RouterItem S} {side : Nat} {pkt : Packet S}
      (hpacket : RouterProgram.packetOf B data = .ok pkt) (hid : endToEndAck pkt = some id)
      (hsender : decodeEndToEndAckSenderHash pkt.sender = some hash) :
      Justifies B id hash (.received data (some side))
  /-- A reconciliation finds it announced no more. -/
  | unannounced {view : EndToEndView S} {entry : EndToEndReliableSent S}
      (hentry : view.inner.endToEndReliableTx[id]? = some entry)
      (hgone : ¬view.Announced B entry.data hash) : Justifies B id hash (.reconciled view)
  /-- So does another registration of the packet. -/
  | replaced {data : RouterItem S} {destinations : OrdMap UInt64 Nat} {view : EndToEndView S}
      (hgone : ¬view.Announced B data hash) :
      Justifies B id hash (.tracked id data destinations view)
  | exhausted {view : EndToEndView S} {entry : EndToEndReliableSent S}
      (hentry : view.inner.endToEndReliableTx[id]? = some entry)
      (hretries : B.reliableMaxRetries ≤ entry.retries) : Justifies B id hash (.scanned view)
  /-- As many packets as may be tracked were registered since. -/
  | evicted {packetId : UInt64} {data : RouterItem S} {destinations : OrdMap UInt64 Nat}
      {view : EndToEndView S} {before behind : List UInt64}
      (horder : view.inner.registeredBefore packetId = before ++ id :: behind)
      (hfull : max B.reliableMaxEndToEndPending 1 ≤ (id :: behind).length) :
      Justifies B id hash (.tracked packetId data destinations view)

/-- The scan for the destinations of the packet keeps clear of the cap, and an acknowledgement
of it names its sender. -/
def RouterEvent.Meets (B : Build) (id : UInt64) : RouterEvent S → Prop
  | .received data _ => ∀ pkt, RouterProgram.packetOf B data = .ok pkt →
      endToEndAck pkt = some id → (decodeEndToEndAckSenderHash pkt.sender).isSome = true
  | .reconciled view => ∀ entry, view.inner.endToEndReliableTx[id]? = some entry →
      view.DestinationsFit B entry.data
  | .tracked packetId data _ view => packetId = id → view.DestinationsFit B data
  | _ => True

/-- The destination is pending, unless one of the events is a reason for it to have left. -/
def RouterState.Accounts (B : Build) (s : RouterState S) (id hash : UInt64)
    (since : List (RouterEvent S)) : Prop :=
  (∀ event ∈ since, event.Meets B id) →
    s.inner.Pending id hash ∨ ∃ event ∈ since, event.Justifies B id hash

/-- What was pending at first, and what was tracked since, is pending yet or has left for a
reason that is behind it. -/
structure RouterState.JustifiedSince (B : Build) (s s' : RouterState S)
    (since : List (RouterEvent S)) : Prop where
  events : s'.events = s.events ++ since
  pending : ∀ id hash, s.inner.Pending id hash → s'.Accounts B id hash since
  tracked : ∀ before id data destinations view behind,
    since = before ++ .tracked id data destinations view :: behind →
      ∀ hash ∈ destinations, s'.Accounts B id hash behind

end Events

section Runs
variable {B : Build} {S : Schema} {w : RouterWorld S} {note : Option CacheNote}
  {s s' s'' : RouterState S} {since new : List (RouterEvent S)} {id hash : UInt64}

theorem RouterState.Accounts.of_justified (h : s.Accounts B id hash since)
    (hnew : s.JustifiedSince B s' new) : s'.Accounts B id hash (since ++ new) := by
  intro hmeets
  rcases h fun event hevent => hmeets event (List.mem_append_left _ hevent) with
    hpending | ⟨event, hevent, hjustifies⟩
  · have hthen := hnew.pending id hash hpending
    refine (hthen fun event hevent => hmeets event (List.mem_append_right _ hevent)).imp_right ?_
    rintro ⟨event, hevent, hjustifies⟩
    exact ⟨event, List.mem_append_right _ hevent, hjustifies⟩
  · exact .inr ⟨event, List.mem_append_left _ hevent, hjustifies⟩

theorem RouterState.JustifiedSince.refl (s : RouterState S) : s.JustifiedSince B s [] := by
  refine ⟨by simp, fun id hash hpending _ => .inl hpending, ?_⟩
  intro before id data destinations view behind hsplit
  simp at hsplit

theorem RouterState.JustifiedSince.trans (h : s.JustifiedSince B s' since)
    (hnew : s'.JustifiedSince B s'' new) : s.JustifiedSince B s'' (since ++ new) := by
  refine ⟨?_, fun id hash hpending => (h.pending id hash hpending).of_justified hnew, ?_⟩
  · rw [hnew.events, h.events, List.append_assoc]
  · intro before id data destinations view behind hsplit hash hhash
    rcases List.append_eq_append_iff.mp hsplit with ⟨front, rfl, hfront⟩ | ⟨front, rfl, hfront⟩
    · exact hnew.tracked front id data destinations view behind hfront hash hhash
    · cases front with
      | nil => exact hnew.tracked [] id data destinations view behind hfront.symm hash hhash
      | cons event rest =>
        obtain ⟨rfl, rfl⟩ := List.cons.inj hfront
        have hold := h.tracked before id data destinations view rest rfl hash hhash
        exact hold.of_justified hnew

/-- A step that records one event, and tracks nothing by it. -/
theorem RouterState.JustifiedSince.of_event {event : RouterEvent S}
    (hevents : s'.events = s.events ++ [event])
    (huntracked : ∀ id data destinations view, event ≠ .tracked id data destinations view)
    (hpending : ∀ id hash, s.inner.Pending id hash → event.Meets B id →
      s'.inner.Pending id hash ∨ event.Justifies B id hash) :
    s.JustifiedSince B s' [event] := by
  refine ⟨hevents, fun id hash hbefore hmeets => ?_, ?_⟩
  · simpa using hpending id hash hbefore (hmeets event (by simp))
  · intro before id data destinations view behind hsplit
    have hmem : RouterEvent.tracked id data destinations view ∈ [event] := by simp [hsplit]
    exact absurd (List.mem_singleton.mp hmem).symm (huntracked _ _ _ _)

/-- A step that leaves all that is pending, and tracks nothing. -/
theorem RouterState.JustifiedSince.of_pending
    (hevents : s'.events = s.events ++ new)
    (huntracked : ∀ id data destinations view, .tracked id data destinations view ∉ new)
    (hpending : ∀ id hash, s.inner.Pending id hash → s'.inner.Pending id hash) :
    s.JustifiedSince B s' new := by
  refine ⟨hevents, fun id hash hbefore _ => .inl (hpending id hash hbefore), ?_⟩
  rintro before id data destinations view behind rfl
  exact absurd (by simp) (huntracked id data destinations view)

/-- A destination that leaves in one step leaves for a reason. -/
theorem CallStep.justified (h : CallStep B w note s s') : ∃ new, s.JustifiedSince B s' new := by
  have hsilent {st : RouterInner S} {table : RoutingTable S}
      (hpending : ∀ id hash, s.inner.Pending id hash → st.Pending id hash) :
      s.JustifiedSince B ⟨st, table, s.events⟩ [] := by
    apply RouterState.JustifiedSince.of_pending (by simp) (by simp) hpending
  cases h with
  | other new hsame hevents hordinary =>
    refine ⟨new, .of_pending hevents (fun id data destinations view hmem => ?_) ?_⟩
    · exact hordinary _ hmem
    · intro id hash hpending
      rw [RouterInner.Pending, hsame.inner.entries]
      exact hpending
  | returnRoute => exact ⟨[], hsilent fun _ _ hpending => hpending⟩
  | removeSide => exact ⟨[], hsilent fun _ _ hpending => hpending⟩
  | queued _ hentry => exact ⟨[], hsilent fun _ _ hpending => hpending.insert hentry rfl rfl⟩
  | replayed _ packetId =>
    exact ⟨[], hsilent fun _ _ hpending => hpending.endToEndRetransmitSides packetId w.now⟩
  | @track _ packetId data destinations hid hexpected =>
    refine ⟨[.tracked packetId data destinations (s.view w)], rfl, ?_, ?_⟩
    · intro id hash hpending hmeets
      have hfit := hmeets _ (List.mem_singleton.mpr rfl)
      by_cases heq : packetId = id
      · subst heq
        by_cases hmem : hash ∈ destinations
        · exact .inl (RouterInner.pending_register hmem)
        · refine .inr ⟨_, List.mem_singleton.mpr rfl, .replaced fun hannounced => hmem ?_⟩
          exact hannounced.expected (hfit rfl) hexpected
      · rcases hpending.register heq data destinations w.now with hkept | ⟨before, behind, horder, hfull⟩
        · exact .inl hkept
        · exact .inr ⟨_, List.mem_singleton.mpr rfl, .evicted horder hfull⟩
    · -- What is tracked here is pending.
      intro before id data' destinations' view behind hsplit hash hhash _
      cases before with
      | nil =>
        obtain ⟨heq, -⟩ := List.cons.inj hsplit
        cases heq
        exact .inl (RouterInner.pending_register hhash)
      | cons event rest => simp at hsplit
  | @endToEndAck _ data side pkt packetId hpacket hack =>
    refine ⟨[.received data (some side)], .of_event rfl (by simp) fun id hash hpending hmeets => ?_⟩
    by_cases hid : packetId = id
    · subst hid
      obtain ⟨sender, hsender⟩ := Option.isSome_iff_exists.mp (hmeets pkt hpacket hack)
      by_cases heq : sender = hash
      · subst heq
        exact .inr (.acknowledged hpacket hack hsender)
      · rw [hsender]
        exact .inl (hpending.handleEndToEndAck_of_sender heq)
    · exact .inl (hpending.handleEndToEndAck_of_ne hid _)
  | reconcile =>
    refine ⟨[.reconciled (s.view w)], .of_event rfl (by simp) fun id hash hpending hmeets => ?_⟩
    refine (hpending.reconcile (s.inner.expectedOf B s.table w.now)).imp_right ?_
    rintro ⟨entry, d, hentry, hd, hdropped⟩
    rw [RouterInner.expectedOf, hentry] at hd
    exact .unannounced hentry fun hannounced => hdropped (hannounced.expected (hmeets entry hentry) hd)
  | timeouts =>
    refine ⟨[.scanned (s.view w)], .of_event rfl (by simp) fun id hash hpending _ => ?_⟩
    refine (hpending.timeouts w.now).imp_right ?_
    rintro ⟨entry, hentry, hretries⟩
    exact .exhausted hentry hretries

/-- From any state a router reaches, over every run. -/
theorem completion_justified {inner : RouterInner S} {n m : Nat}
    (hnew : RouterInner.new B = .ok inner) (hrun : RouterRun B n (.initial inner) s)
    (hthen : RouterRun B m s s') : ∃ since, s.JustifiedSince B s' since := by
  have hsound := @RouterRun.invariant S B (fun s => s.inner.EntriesSound)
    (fun hstep hs => hstep.sound hs) (fun _ hs => hs) n _ s hrun (RouterInner.entriesSound_new hnew)
  have hinv := @RouterRun.invariant S B
    (fun t => t.inner.EntriesSound ∧ ∃ since, s.JustifiedSince B t since)
    (fun hstep ⟨hentries, since, hsince⟩ => ?_) (fun _ ht => ht.1) m s s' hthen ⟨hsound, [], .refl s⟩
  · exact hinv.2
  · obtain ⟨new, hjustified⟩ := hstep.justified
    exact ⟨hstep.sound hentries, _, hsince.trans hjustified⟩

end Runs

section Boards

/-- Two links, a board that announces the radio behind the second, and a fix for it. -/
def fixForGround : List (RouterCall defaultSchema) :=
  [.addSide .reliable, .addSide .reliable, .rx ⟨some 1, .packet (radioAnnounce "ground"), 0⟩,
    .tx (.packet gpsDecoded)]

/-- Sixteen boards that reach the radio, named by one letter each. -/
def sixteenBoards : List UInt8 :=
  [16, 0, 0, 0] ++ (List.range 16).flatMap fun i =>
    [1, 0, 0, 0, 97 + i.toUInt8, 1, 0, 0, 0, 1, 0, 0, 0, 0, 0, 0, 0, 0, 0, 0, 0]

/-- The topology that a hub with these boards announces. -/
def hubTopology : Packet defaultSchema where
  ty := 12
  dataSize := 340
  sender := "hub"
  endpoints := [3]
  timestamp := 0
  payload := .heap sixteenBoards

/-- The router tracks the fix for the ground station, which acknowledged nothing, and has sent
it once. -/
def EndToEndReliableSent.awaitsGround (entry : EndToEndReliableSent defaultSchema) : Bool :=
  (match entry.data with
    | .packet pkt => pkt == gpsDecoded
    | .serialized _ => false) &&
  entry.trackedDestinations &&
  entry.pendingDestinations.contains (senderHash (asBytes "ground")) && entry.retries == 0

/-- What the router keeps about the fix, and whether the ground station is announced. -/
def EndToEndView.groundView (view : EndToEndView defaultSchema) : Option Bool × Bool :=
  (view.inner.endToEndReliableTx[gpsDecoded.packetId hostBuild]?.map
      EndToEndReliableSent.awaitsGround,
    ((view.inner.announcedDestinations view.table view.now gpsDecoded.endpoints
      gpsDecoded.ty).map Prod.fst).contains (senderHash (asBytes "ground")))

theorem EndToEndView.announced_of_groundView {view : EndToEndView defaultSchema}
    (h : view.groundView.2 = true) :
    view.Announced hostBuild (.packet gpsDecoded) (senderHash (asBytes "ground")) :=
  (EndToEndView.announced_iff rfl).mpr (List.contains_iff_mem.mp h)

theorem EndToEndView.entry_of_groundView {view : EndToEndView defaultSchema}
    (h : view.groundView.1 = some true) :
    ∃ entry, view.inner.endToEndReliableTx[gpsDecoded.packetId hostBuild]? = some entry ∧
      entry.data = .packet gpsDecoded ∧ entry.retries = 0 ∧
      view.inner.Pending (gpsDecoded.packetId hostBuild) (senderHash (asBytes "ground")) := by
  obtain ⟨entry, hentry, hview⟩ := Option.map_eq_some_iff.mp h
  simp only [EndToEndReliableSent.awaitsGround, Bool.and_eq_true, beq_iff_eq] at hview
  obtain ⟨⟨⟨hdata, htracked⟩, hmem⟩, hretries⟩ := hview
  refine ⟨entry, hentry, ?_, hretries, entry, hentry, htracked, hmem⟩
  split at hdata
  · rename_i pkt heq
    rw [heq, eq_of_beq hdata]
  · cases hdata

theorem RouterState.pending_of_groundView {w : RouterWorld defaultSchema}
    {s : RouterState defaultSchema} {announced : Bool}
    (h : (s.view w).groundView = (some true, announced)) :
    s.inner.Pending (gpsDecoded.packetId hostBuild) (senderHash (asBytes "ground")) := by
  obtain ⟨entry, -, -, -, hpending⟩ := EndToEndView.entry_of_groundView (congrArg Prod.fst h)
  exact hpending

theorem RouterState.not_pending_of_groundView {w : RouterWorld defaultSchema}
    {s : RouterState defaultSchema} {announced : Bool}
    (h : (s.view w).groundView = (none, announced)) (hash : UInt64) :
    ¬s.inner.Pending (gpsDecoded.packetId hostBuild) hash := by
  rintro ⟨entry, hentry, -, -⟩
  have hview := Option.map_eq_none_iff.mp (congrArg Prod.fst h)
  dsimp only [RouterState.view] at hview
  rw [hview] at hentry
  cases hentry

/-- The acknowledgement of the ground station. -/
def groundAck : Packet defaultSchema where
  ty := 13
  dataSize := 8
  sender := "E2EACK:ground"
  endpoints := [4]
  timestamp := 0
  payload := .inline 8 (encodeEndToEndReliableAck (gpsDecoded.packetId hostBuild))

/-- The events of a call that reconciles nothing and tracks nothing, with acknowledgements
that name their senders. -/
def RouterEvent.namesSenders : RouterEvent defaultSchema → Bool
  | .received data _ =>
    match RouterProgram.packetOf hostBuild data with
    | .ok pkt => (decodeEndToEndAckSenderHash pkt.sender).isSome
    | .error _ => true
  | .reconciled _ => false
  | .tracked _ _ _ _ => false
  | _ => true

theorem RouterEvent.meets_of_namesSenders {event : RouterEvent defaultSchema}
    (h : event.namesSenders = true) (id : UInt64) : event.Meets hostBuild id := by
  cases event with
  | received data src =>
    intro pkt hpacket hack
    simpa [namesSenders, hpacket] using h
  | reconciled view => cases h
  | tracked id' data destinations view => cases h
  | _ => trivial

/-- A fix that the ground station acknowledges. -/
theorem completion_justified_ground : ∃ (inner : RouterInner defaultSchema) (s s' : _) (since : _),
    RouterInner.new hostBuild = .ok inner ∧ RouterRun hostBuild 1 (.initial inner) s ∧
    s.inner.Pending (gpsDecoded.packetId hostBuild) (senderHash (asBytes "ground")) ∧
    s' = s.behindCalls [.rx ⟨some 1, .packet groundAck, 0⟩] ∧
    ¬s'.inner.Pending (gpsDecoded.packetId hostBuild) (senderHash (asBytes "ground")) ∧
    s.JustifiedSince hostBuild s' since ∧
    (∀ event ∈ since, event.Meets hostBuild (gpsDecoded.packetId hostBuild)) := by
  obtain ⟨inner, hnew, hview⟩ := Option.map_eq_some_iff.mp (show
    ((RouterInner.new hostBuild : Outcome (RouterInner defaultSchema)).toOption.map fun inner =>
      let s := (RouterState.initial inner).behindCalls fixForGround
      let s' := s.behindCalls [.rx ⟨some 1, .packet groundAck, 0⟩]
      ((s.view .gateway).groundView, (s'.view .gateway).groundView,
        (s'.events.drop s.events.length).all RouterEvent.namesSenders)) =
      some ((some true, true), (none, true), true) from by decide +kernel)
  obtain ⟨hbefore, hbehind⟩ := Prod.mk.inj hview
  obtain ⟨hbehind, hmeets⟩ := Prod.mk.inj hbehind
  have hnew := toOption_eq_some.mp hnew
  have hrun := RouterState.run_behindCalls (.initial inner) fixForGround
  have hthen := RouterState.run_behindCalls ((RouterState.initial inner).behindCalls fixForGround)
    [.rx ⟨some 1, .packet groundAck, 0⟩]
  obtain ⟨since, hsince⟩ := completion_justified hnew hrun hthen
  rw [hsince.events, List.drop_left] at hmeets
  exact ⟨inner, _, _, since, hnew, hrun, RouterState.pending_of_groundView hbefore, rfl,
    RouterState.not_pending_of_groundView hbehind _, hsince,
    fun event hevent => RouterEvent.meets_of_namesSenders (List.all_eq_true.mp hmeets event hevent) _⟩

/-- No acknowledgement, nothing tracked, no scan, and a reconciliation only where the ground
station is announced. -/
def RouterEvent.keepsGround : RouterEvent defaultSchema → Bool
  | .received data _ =>
    match RouterProgram.packetOf hostBuild data with
    | .ok pkt => (endToEndAck pkt).isNone
    | .error _ => true
  | .reconciled view => view.groundView == (some true, true)
  | .tracked _ _ _ _ => false
  | .scanned _ => false
  | _ => true

theorem RouterEvent.not_justifies_of_keepsGround {event : RouterEvent defaultSchema}
    (h : event.keepsGround = true) :
    ¬event.Justifies hostBuild (gpsDecoded.packetId hostBuild) (senderHash (asBytes "ground")) := by
  intro hjustifies
  cases hjustifies with
  | acknowledged hpacket hid hsender => simp [keepsGround, hpacket, hid] at h
  | @unannounced view entry hentry hgone =>
    have hview := eq_of_beq h
    obtain ⟨found, hfound, hdata, -, -⟩ :=
      @EndToEndView.entry_of_groundView view (congrArg Prod.fst hview)
    rw [hentry] at hfound
    obtain rfl := Option.some.inj hfound
    rw [hdata] at hgone
    exact hgone (EndToEndView.announced_of_groundView (congrArg Prod.snd hview))
  | replaced hgone => cases h
  | exhausted hentry hretries => cases h
  | evicted horder hfull => cases h

/-- The ground station leaves when the hub announces sixteen other boards, for none of the
reasons: it stays announced, and acknowledged nothing. -/
theorem announced_destination_dropped : ∃ (inner : RouterInner defaultSchema) (s s' : _),
    RouterInner.new hostBuild = .ok inner ∧ RouterRun hostBuild 1 (.initial inner) s ∧
    s' = s.behindCalls [.rx ⟨some 0, .packet hubTopology, 0⟩] ∧
    s.inner.Pending (gpsDecoded.packetId hostBuild) (senderHash (asBytes "ground")) ∧
    ¬s'.inner.Pending (gpsDecoded.packetId hostBuild) (senderHash (asBytes "ground")) ∧
    (s.view .gateway).Announced hostBuild (.packet gpsDecoded) (senderHash (asBytes "ground")) ∧
    (s'.view .gateway).Announced hostBuild (.packet gpsDecoded) (senderHash (asBytes "ground")) ∧
    ∀ event ∈ s'.events.drop s.events.length,
      ¬event.Justifies hostBuild (gpsDecoded.packetId hostBuild) (senderHash (asBytes "ground")) := by
  obtain ⟨inner, hnew, hview⟩ := Option.map_eq_some_iff.mp (show
    ((RouterInner.new hostBuild : Outcome (RouterInner defaultSchema)).toOption.map fun inner =>
      let s := (RouterState.initial inner).behindCalls fixForGround
      let s' := s.behindCalls [.rx ⟨some 0, .packet hubTopology, 0⟩]
      ((s.view .gateway).groundView, (s'.view .gateway).groundView,
        (s'.events.drop s.events.length).all RouterEvent.keepsGround)) =
      some ((some true, true), (none, true), true) from by decide +kernel)
  obtain ⟨hbefore, hbehind⟩ := Prod.mk.inj hview
  obtain ⟨hbehind, hkeeps⟩ := Prod.mk.inj hbehind
  exact ⟨inner, _, _, toOption_eq_some.mp hnew,
    RouterState.run_behindCalls (.initial inner) fixForGround, rfl,
    RouterState.pending_of_groundView hbefore, RouterState.not_pending_of_groundView hbehind _,
    EndToEndView.announced_of_groundView (congrArg Prod.snd hbefore),
    EndToEndView.announced_of_groundView (congrArg Prod.snd hbehind),
    fun event hevent =>
      RouterEvent.not_justifies_of_keepsGround (List.all_eq_true.mp hkeeps event hevent)⟩

end Boards
end Sedsprintf
