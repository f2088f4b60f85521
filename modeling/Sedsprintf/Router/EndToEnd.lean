import Sedsprintf.Router.Effects

/-!
# End-to-end entries

What the operations of a router do to the entries of the packets it tracks from end to end,
entry by entry.
-/
namespace Sedsprintf

open Lib

namespace EndToEndReliableSent
variable {S : Schema}

/-- An entry behind a reconciliation with the destinations it is expected to have. -/
def reconciled (entry : EndToEndReliableSent S) (destinations : OrdMap UInt64 Nat) :
    EndToEndReliableSent S :=
  if entry.trackedDestinations then
    { entry with pendingDestinations :=
        entry.pendingDestinations.filterMap fun hash _ => destinations[hash]? }
  else entry

/-- Nothing is pending where nothing is tracked. -/
def Sound (entry : EndToEndReliableSent S) : Prop :=
  entry.trackedDestinations = false → entry.pendingDestinations = ∅

variable {entry : EndToEndReliableSent S} {destinations : OrdMap UInt64 Nat} {hash : UInt64}
  {side : Nat}

theorem pending_reconciled (htracked : entry.trackedDestinations = true) :
    (entry.reconciled destinations).pendingDestinations[hash]? =
      entry.pendingDestinations[hash]?.bind fun _ => destinations[hash]? := by
  rw [reconciled, if_pos htracked, Std.ExtTreeMap.getElem?_filterMap']

theorem Sound.reconciled (h : entry.Sound) (destinations : OrdMap UInt64 Nat) :
    (entry.reconciled destinations).Sound := by
  unfold EndToEndReliableSent.reconciled
  split
  · rename_i htracked
    intro huntracked
    rw [htracked] at huntracked
    cases huntracked
  · exact h

/-- The sides behind a reconciliation are those of the expected destinations. -/
theorem Sound.side_of_reconciled (h : entry.Sound)
    (hpending : (entry.reconciled destinations).pendingDestinations[hash]? = some side) :
    destinations[hash]? = some side := by
  cases htracked : entry.trackedDestinations with
  | true =>
    rw [pending_reconciled htracked] at hpending
    obtain ⟨_, -, hside⟩ := Option.bind_eq_some_iff.mp hpending
    exact hside
  | false =>
    simp [EndToEndReliableSent.reconciled, htracked, h htracked] at hpending

end EndToEndReliableSent

namespace RouterInner
variable {B : Build} {S : Schema}

abbrev EndToEndEntries (S : Schema) := OrdMap UInt64 (EndToEndReliableSent S)

section Reconcile
variable {expected : UInt64 → Outcome (OrdMap UInt64 Nat)} {sent sent' : EndToEndEntries S}
  {ids completed : List UInt64} {id : UInt64} {entry : EndToEndReliableSent S}

/-- One turn of the loop. -/
theorem reconcileLoop_cons {d : OrdMap UInt64 Nat} (hentry : sent[id]? = some entry)
    (hexpected : expected id = .ok d) :
    reconcileLoop expected sent (id :: ids) =
      ((reconcileLoop expected (sent.insert id (entry.reconciled d)) ids).1,
        (reconcileLoop expected (sent.insert id (entry.reconciled d)) ids).2.map fun completed =>
          if entry.trackedDestinations && (entry.reconciled d).pendingDestinations.isEmpty
          then id :: completed else completed) := by
  cases htracked : entry.trackedDestinations with
  | true =>
    simp only [reconcileLoop, hentry, hexpected, htracked, if_true, EndToEndReliableSent.reconciled,
      Bool.true_and]
    generalize reconcileLoop expected _ ids = r
    obtain ⟨sent', e | completed⟩ := r
    · rfl
    · rfl
  | false =>
    have hsame : sent.insert id (entry.reconciled d) = sent := by
      refine Std.ExtTreeMap.ext_getElem? fun other => ?_
      rw [OrdMap.get?_insert]
      split
      · rename_i heq
        rw [← heq, hentry, EndToEndReliableSent.reconciled, htracked]
        rfl
      · rfl
    rw [hsame]
    simp only [reconcileLoop, hentry, hexpected, htracked, Bool.false_eq_true, if_false,
      Bool.false_and]
    generalize reconcileLoop expected sent ids = r
    obtain ⟨sent', e | completed⟩ := r
    · rfl
    · rfl

theorem reconcileLoop_of_not_mem (hid : id ∉ ids) :
    (reconcileLoop expected sent ids).1[id]? = sent[id]? := by
  induction ids generalizing sent with
  | nil => rfl
  | cons first rest ih =>
    obtain ⟨hne, hrest⟩ := List.ne_and_not_mem_of_not_mem_cons hid
    cases hentry : sent[first]? with
    | none =>
      simp only [reconcileLoop, hentry]
      exact ih hrest
    | some entry =>
      cases hexpected : expected first with
      | error e => simp only [reconcileLoop, hentry, hexpected]
      | ok d =>
        rw [reconcileLoop_cons hentry hexpected, ih hrest, OrdMap.get?_insert,
          if_neg fun heq => hne heq.symm]

/-- An id of the loop keeps its entry or has it reconciled. -/
theorem reconcileLoop_of_mem (hnodup : ids.Nodup) (hid : id ∈ ids)
    (hentry : sent[id]? = some entry) :
    (reconcileLoop expected sent ids).1[id]? = some entry ∨
      ∃ d, expected id = .ok d ∧
        (reconcileLoop expected sent ids).1[id]? = some (entry.reconciled d) := by
  induction ids generalizing sent with
  | nil => cases hid
  | cons first rest ih =>
    obtain ⟨hfirst, hrest⟩ := List.nodup_cons.mp hnodup
    cases hother : sent[first]? with
    | none =>
      have hne : id ≠ first := by
        rintro rfl
        rw [hentry] at hother
        cases hother
      simp only [reconcileLoop, hother]
      exact ih hrest ((List.mem_cons.mp hid).resolve_left hne) hentry
    | some other =>
      cases hexpected : expected first with
      | error e =>
        simp only [reconcileLoop, hother, hexpected]
        exact .inl hentry
      | ok d =>
        rw [reconcileLoop_cons hother hexpected]
        by_cases heq : id = first
        · subst heq
          rw [hentry] at hother
          obtain rfl := Option.some.inj hother
          refine .inr ⟨d, hexpected, ?_⟩
          rw [reconcileLoop_of_not_mem hfirst, OrdMap.get?_insert, if_pos rfl]
        · refine ih hrest ((List.mem_cons.mp hid).resolve_left heq) ?_
          rw [OrdMap.get?_insert, if_neg fun h => heq h.symm]
          exact hentry

/-- Where the loop comes to its end, every entry is reconciled, and the completed ones
wait for nobody. -/
theorem reconcileLoop_of_ok (hnodup : ids.Nodup)
    (hok : (reconcileLoop expected sent ids).2 = .ok completed) :
    (∀ id ∈ ids, ∀ entry, sent[id]? = some entry → ∃ d, expected id = .ok d ∧
        (reconcileLoop expected sent ids).1[id]? = some (entry.reconciled d)) ∧
      ∀ id ∈ completed, id ∈ ids ∧ ∃ entry d, sent[id]? = some entry ∧ expected id = .ok d ∧
        entry.trackedDestinations = true ∧ (entry.reconciled d).pendingDestinations = ∅ := by
  induction ids generalizing sent completed with
  | nil =>
    obtain rfl := Except.ok.inj hok
    simp
  | cons first rest ih =>
    obtain ⟨hfirst, hrest⟩ := List.nodup_cons.mp hnodup
    cases hother : sent[first]? with
    | none =>
      simp only [reconcileLoop, hother] at hok ⊢
      obtain ⟨hall, hcompleted⟩ := ih hrest hok
      refine ⟨fun id hid entry hentry => ?_, fun id hid => ?_⟩
      · rcases List.mem_cons.mp hid with rfl | hmem
        · rw [hentry] at hother
          cases hother
        · exact hall id hmem entry hentry
      · exact ⟨List.mem_cons_of_mem _ (hcompleted id hid).1, (hcompleted id hid).2⟩
    | some other =>
      cases hexpected : expected first with
      | error e =>
        simp only [reconcileLoop, hother, hexpected] at hok
        cases hok
      | ok d =>
        rw [reconcileLoop_cons hother hexpected] at hok ⊢
        have hfst : (sent.insert first (other.reconciled d))[first]? = some (other.reconciled d) := by
          rw [OrdMap.get?_insert, if_pos rfl]
        have hnext : ∀ id, id ≠ first →
            (sent.insert first (other.reconciled d))[id]? = sent[id]? := by
          intro id hne
          rw [OrdMap.get?_insert, if_neg fun h => hne h.symm]
        cases hloop : (reconcileLoop expected (sent.insert first (other.reconciled d)) rest).2 with
        | error e =>
          rw [hloop] at hok
          cases hok
        | ok later =>
          obtain ⟨hall, hcompleted⟩ := ih hrest hloop
          have hlater : ∀ id ∈ later, id ∈ first :: rest ∧ ∃ entry d, sent[id]? = some entry ∧
              expected id = .ok d ∧ entry.trackedDestinations = true ∧
                (entry.reconciled d).pendingDestinations = ∅ := by
            intro id hid
            obtain ⟨hmem, entry, d', hentry, hdone⟩ := hcompleted id hid
            rw [hnext id fun heq => hfirst (heq ▸ hmem)] at hentry
            exact ⟨List.mem_cons_of_mem _ hmem, entry, d', hentry, hdone⟩
          rw [hloop] at hok
          obtain rfl := Except.ok.inj hok
          refine ⟨fun id hid entry hentry => ?_, fun id hid => ?_⟩
          · by_cases heq : id = first
            · subst heq
              rw [hentry] at hother
              obtain rfl := Option.some.inj hother
              exact ⟨d, hexpected, (reconcileLoop_of_not_mem hfirst).trans hfst⟩
            · exact hall id ((List.mem_cons.mp hid).resolve_left heq) entry
                ((hnext id heq).trans hentry)
          · split at hid
            · rename_i hempty
              simp only [Bool.and_eq_true, Std.ExtTreeMap.isEmpty_iff] at hempty
              rcases List.mem_cons.mp hid with rfl | hmem
              · exact ⟨List.mem_cons_self, other, d, hother, hexpected, hempty.1, hempty.2⟩
              · exact hlater id hmem
            · exact hlater id hid

theorem get?_foldl_erase (sent : EndToEndEntries S) (ids : List UInt64) (id : UInt64) :
    (ids.foldl (fun sent id => sent.erase id) sent)[id]? = if id ∈ ids then none else sent[id]? := by
  induction ids generalizing sent with
  | nil => rfl
  | cons first rest ih =>
    rw [List.foldl_cons, ih, OrdMap.get?_erase]
    by_cases heq : first = id
    · simp [heq]
    · have hne : ¬id = first := fun h => heq h.symm
      simp [heq, hne]

variable (st : RouterInner S)

/-- What `reconcile_end_to_end_reliable_destinations_locked` does to an entry. -/
theorem reconcileEndToEnd_entry (hentry : st.endToEndReliableTx[id]? = some entry) :
    (st.reconcileEndToEnd expected).1.endToEndReliableTx[id]? = some entry ∨
      ∃ d, expected id = .ok d ∧
        ((st.reconcileEndToEnd expected).1.endToEndReliableTx[id]? = some (entry.reconciled d) ∨
          (st.reconcileEndToEnd expected).1.endToEndReliableTx[id]? = none ∧
            entry.trackedDestinations = true ∧ (entry.reconciled d).pendingDestinations = ∅) := by
  have hmem : id ∈ st.endToEndReliableTx.keys :=
    Std.ExtTreeMap.mem_keys.mpr (OrdMap.mem_iff_get?.mpr ⟨entry, hentry⟩)
  have hloop := @reconcileLoop_of_mem S expected _ _ id entry Std.ExtTreeMap.nodup_keys hmem hentry
  have hdone := @reconcileLoop_of_ok S expected st.endToEndReliableTx
    st.endToEndReliableTx.keys
  unfold reconcileEndToEnd
  generalize reconcileLoop expected st.endToEndReliableTx st.endToEndReliableTx.keys = r at hloop hdone
  obtain ⟨sent, e | completed⟩ := r
  · rcases hloop with hsame | ⟨d, hd, hsent⟩
    · exact .inl hsame
    · exact .inr ⟨d, hd, .inl hsent⟩
  · dsimp only at hloop ⊢
    rw [get?_foldl_erase]
    split
    · rename_i hcompleted
      obtain ⟨-, entry', d, hentry', hd, htracked, hempty⟩ :=
        (hdone Std.ExtTreeMap.nodup_keys rfl).2 id hcompleted
      rw [hentry] at hentry'
      obtain rfl := Option.some.inj hentry'
      exact .inr ⟨d, hd, .inr ⟨rfl, htracked, hempty⟩⟩
    · rcases hloop with hsame | ⟨d, hd, hsent⟩
      · exact .inl hsame
      · exact .inr ⟨d, hd, .inl hsent⟩

theorem reconcileEndToEnd_absent (hnone : st.endToEndReliableTx[id]? = none) :
    (st.reconcileEndToEnd expected).1.endToEndReliableTx[id]? = none := by
  have hmem : id ∉ st.endToEndReliableTx.keys := by
    rw [Std.ExtTreeMap.mem_keys, OrdMap.mem_iff_get?, hnone]
    simp
  have hloop := @reconcileLoop_of_not_mem S expected st.endToEndReliableTx _ id hmem
  rw [hnone] at hloop
  unfold reconcileEndToEnd
  generalize reconcileLoop expected st.endToEndReliableTx st.endToEndReliableTx.keys = r at hloop
  obtain ⟨sent, e | completed⟩ := r
  · exact hloop
  · dsimp only at hloop ⊢
    rw [get?_foldl_erase, hloop, ite_self]

/-- What is left by one that succeeds is reconciled. -/
theorem reconcileEndToEnd_of_ok (hok : (st.reconcileEndToEnd expected).2 = .ok ())
    (hentry : (st.reconcileEndToEnd expected).1.endToEndReliableTx[id]? = some entry) :
    ∃ entry' d, st.endToEndReliableTx[id]? = some entry' ∧ expected id = .ok d ∧
      entry = entry'.reconciled d := by
  cases hold : st.endToEndReliableTx[id]? with
  | none =>
    rw [reconcileEndToEnd_absent st hold] at hentry
    cases hentry
  | some entry' =>
    have hmem : id ∈ st.endToEndReliableTx.keys :=
      Std.ExtTreeMap.mem_keys.mpr (OrdMap.mem_iff_get?.mpr ⟨entry', hold⟩)
    have hdone := @reconcileLoop_of_ok S expected st.endToEndReliableTx st.endToEndReliableTx.keys
    unfold reconcileEndToEnd at hok hentry
    generalize reconcileLoop expected st.endToEndReliableTx st.endToEndReliableTx.keys = r
      at hok hentry hdone
    obtain ⟨sent, e | completed⟩ := r
    · cases hok
    · obtain ⟨d, hd, hsent⟩ := (hdone Std.ExtTreeMap.nodup_keys rfl).1 id hmem entry' hold
      dsimp only at hentry hsent
      rw [get?_foldl_erase, hsent] at hentry
      split at hentry
      · cases hentry
      · exact ⟨entry', d, rfl, hd, (Option.some.inj hentry).symm⟩

/-- The end-to-end timeouts are a reconciliation and a scan of what it leaves. -/
theorem processEndToEndReliableTimeouts_eq (now : UInt64) :
    st.processEndToEndReliableTimeouts B expected now =
      match st.reconcileEndToEnd expected with
      | (st', .error e) => (st', .error e)
      | (st', .ok ()) => st'.scanEndToEndTimeouts B now := by
  unfold processEndToEndReliableTimeouts reconcileEndToEnd
  generalize reconcileLoop expected st.endToEndReliableTx st.endToEndReliableTx.keys = r
  obtain ⟨sent, e | completed⟩ := r
  · rfl
  · rfl

end Reconcile

/-- A turn of the scan is about one entry. -/
theorem endToEndTimeoutEntry_of_ne {now : UInt64} {sent : EndToEndEntries S} {id other : UInt64}
    (hne : other ≠ id) : (endToEndTimeoutEntry B now sent id).1[other]? = sent[other]? := by
  unfold endToEndTimeoutEntry
  split
  · rfl
  · split
    · rfl
    · split
      · rw [OrdMap.get?_erase, if_neg (Ne.symm hne)]
      · rw [OrdMap.get?_insert, if_neg (Ne.symm hne)]

section Destinations
variable {cap : Nat} {announced : List (UInt64 × Nat)} {out : OrdMap UInt64 Nat} {hash : UInt64}
  {side : Nat}

/-- What the scan collects was announced. -/
theorem mem_of_collectDestinations
    (h : (collectDestinations cap announced out)[hash]? = some side) :
    (hash, side) ∈ announced ∨ out[hash]? = some side := by
  induction announced generalizing out with
  | nil => exact .inr h
  | cons first rest ih =>
    have hinsert : (out.insert first.1 first.2)[hash]? = some side →
        (hash, side) ∈ first :: rest ∨ out[hash]? = some side := by
      intro hget
      rw [OrdMap.get?_insert] at hget
      split at hget
      · rename_i heq
        left
        rw [← heq, ← Option.some.inj hget]
        exact List.mem_cons_self
      · exact .inr hget
    unfold collectDestinations at h
    dsimp only at h
    split at h
    · exact hinsert h
    · rcases ih h with hmem | hget
      · exact .inl (List.mem_cons_of_mem _ hmem)
      · exact hinsert hget

theorem collectDestinations_of_mem (h : hash ∈ out) : hash ∈ collectDestinations cap announced out := by
  induction announced generalizing out with
  | nil => exact h
  | cons first rest ih =>
    have hinsert : hash ∈ out.insert first.1 first.2 := Std.ExtTreeMap.mem_insert.mpr (.inr h)
    unfold collectDestinations
    dsimp only
    split
    · exact hinsert
    · exact ih hinsert

/-- With room for all of them, every announced destination is collected. -/
theorem collectDestinations_complete
    (hroom : ∀ keys : List UInt64, keys.Nodup →
      (∀ k ∈ keys, k ∈ out ∨ k ∈ announced.map Prod.fst) → keys.length ≤ cap)
    (hmem : hash ∈ announced.map Prod.fst) : hash ∈ collectDestinations cap announced out := by
  induction announced generalizing out with
  | nil => cases hmem
  | cons first rest ih =>
    have hroom' : ∀ keys : List UInt64, keys.Nodup →
        (∀ k ∈ keys, k ∈ out.insert first.1 first.2 ∨ k ∈ rest.map Prod.fst) →
        keys.length ≤ cap := by
      intro keys hnodup hkeys
      refine hroom keys hnodup fun k hk => ?_
      rcases hkeys k hk with hin | hin
      · rcases Std.ExtTreeMap.mem_insert.mp hin with heq | hold
        · right
          rw [List.map_cons, ← Std.LawfulEqOrd.eq_of_compare heq]
          exact List.mem_cons_self
        · exact .inl hold
      · exact .inr (List.mem_cons_of_mem _ hin)
    unfold collectDestinations
    dsimp only
    split
    · rename_i hfull
      -- one more key would not fit
      by_contra habsent
      have hkeys := hroom' (hash :: (out.insert first.1 first.2).keys)
        (List.nodup_cons.mpr ⟨by rwa [Std.ExtTreeMap.mem_keys], Std.ExtTreeMap.nodup_keys⟩)
        (fun k hk => ?_)
      · rw [List.length_cons, Std.ExtTreeMap.length_keys] at hkeys
        omega
      · rcases List.mem_cons.mp hk with rfl | hin
        · rcases List.mem_cons.mp hmem with heq | hin
          · exact absurd (Std.ExtTreeMap.mem_insert.mpr (.inl (by simp [heq]))) habsent
          · exact .inr hin
        · exact .inl (Std.ExtTreeMap.mem_keys.mp hin)
    · rcases List.mem_cons.mp hmem with heq | hin
      · apply collectDestinations_of_mem
        exact Std.ExtTreeMap.mem_insert.mpr (.inl (by simp [heq]))
      · exact ih hroom' hin

variable {st : RouterInner S} {table : RoutingTable S} {now : UInt64} {data : RouterItem S}
  {destinations : OrdMap UInt64 Nat}

/-- The expected destinations are on sides that may be sent to. -/
theorem sideLive_of_expected
    (h : st.expectedEndToEndDestinations B table now data = .ok destinations)
    (hside : destinations[hash]? = some side) : st.sideLive side = true := by
  obtain ⟨⟨eps, ty⟩, -, h⟩ := bind_eq_ok.mp h
  obtain rfl := Except.ok.inj h
  have hmem := (mem_of_collectDestinations hside).resolve_right (by simp)
  obtain ⟨route, hroute, hannounced⟩ := List.mem_flatMap.mp hmem
  obtain ⟨announcer, -, hboard⟩ := List.mem_flatMap.mp hannounced
  obtain ⟨board, -, heq⟩ := List.mem_map.mp hboard
  obtain rfl : route.1 = side := (Prod.mk.inj heq).2
  have hleads := (List.mem_filter.mp hroute).2
  simp only [leadsToDestinations, Bool.and_eq_true] at hleads
  exact sideLive_of_routeAllowed hleads.2

end Destinations

section Entries
variable {st : RouterInner S} {id packetId now : UInt64} {entry : EndToEndReliableSent S}
  {data : RouterItem S} {destinations : OrdMap UInt64 Nat}

/-- Nothing is pending where nothing is tracked. -/
def EntriesSound (st : RouterInner S) : Prop :=
  ∀ (id : UInt64) entry, st.endToEndReliableTx[id]? = some entry → entry.Sound

theorem entriesSound_new (hnew : RouterInner.new B = .ok st) : st.EntriesSound := by
  obtain ⟨_, -, hnew⟩ := bind_eq_ok.mp hnew
  obtain ⟨_, -, hnew⟩ := bind_eq_ok.mp hnew
  obtain ⟨_, -, hnew⟩ := bind_eq_ok.mp hnew
  obtain rfl := Except.ok.inj hnew
  intro id entry hentry
  simp at hentry

theorem EntriesSound.congr {st' : RouterInner S} (h : st.EntriesSound)
    (heq : st'.endToEndReliableTx = st.endToEndReliableTx) : st'.EntriesSound := by
  rw [EntriesSound, heq]
  exact h

theorem EntriesSound.erase (h : st.EntriesSound) (id : UInt64) :
    ({ st with endToEndReliableTx := st.endToEndReliableTx.erase id } : RouterInner S).EntriesSound := by
  intro other entry hentry
  dsimp only at hentry
  rw [OrdMap.get?_erase] at hentry
  split at hentry
  · cases hentry
  · exact h other entry hentry

theorem EntriesSound.insert (h : st.EntriesSound) (hentry : entry.Sound) (id : UInt64) :
    ({ st with endToEndReliableTx := st.endToEndReliableTx.insert id entry } :
      RouterInner S).EntriesSound := by
  intro other entry' hentry'
  dsimp only at hentry'
  rw [OrdMap.get?_insert] at hentry'
  split at hentry'
  · rw [← Option.some.inj hentry']
    exact hentry
  · exact h other entry' hentry'

theorem forgetOldest_get? {cap : Nat} {order : List UInt64} {sent : EndToEndEntries S}
    (h : (forgetOldest cap order sent).2[id]? = some entry) : sent[id]? = some entry := by
  induction order generalizing sent with
  | nil => exact h
  | cons oldest rest ih =>
    unfold forgetOldest at h
    split at h
    · have hget := ih h
      rw [OrdMap.get?_erase] at hget
      split at hget
      · cases hget
      · exact hget
    · exact h

/-- Registration puts one entry among those it keeps. -/
theorem registerEndToEndReliableTx_entry
    (h : (st.registerEndToEndReliableTx B packetId data destinations
      now).endToEndReliableTx[id]? = some entry) :
    id = packetId ∧ entry = ⟨data, destinations, !destinations.isEmpty, now, 0, false⟩ ∨
      st.endToEndReliableTx[id]? = some entry := by
  unfold registerEndToEndReliableTx at h
  dsimp only at h
  rw [OrdMap.get?_insert] at h
  split at h
  · rename_i heq
    exact .inl ⟨heq.symm, (Option.some.inj h).symm⟩
  · exact .inr (forgetOldest_get? h)

theorem EntriesSound.register (h : st.EntriesSound) :
    (st.registerEndToEndReliableTx B packetId data destinations now).EntriesSound := by
  intro id entry hentry
  rcases registerEndToEndReliableTx_entry hentry with ⟨-, rfl⟩ | hold
  · intro huntracked
    simpa using huntracked
  · exact h id entry hold

theorem EntriesSound.handleEndToEndAck (h : st.EntriesSound) (packetId : UInt64)
    (sender : Option UInt64) : (st.handleEndToEndAck packetId sender).EntriesSound := by
  unfold RouterInner.handleEndToEndAck
  split
  · exact h
  · rename_i entry hentry
    split
    · exact h.erase packetId
    · dsimp only
      split
      · exact h.erase packetId
      · rename_i hash hpending
        refine h.insert (fun huntracked => ?_) packetId
        have hempty : entry.pendingDestinations = ∅ := h packetId entry hentry huntracked
        rw [hempty] at hpending
        simp at hpending

theorem EntriesSound.reconcile (h : st.EntriesSound)
    (expected : UInt64 → Outcome (OrdMap UInt64 Nat)) :
    (st.reconcileEndToEnd expected).1.EntriesSound := by
  intro id entry hentry
  cases hold : st.endToEndReliableTx[id]? with
  | none =>
    rw [reconcileEndToEnd_absent st hold] at hentry
    cases hentry
  | some entry' =>
    rcases @reconcileEndToEnd_entry S expected id entry' st hold with
      heq | ⟨d, -, heq | ⟨hnone, -⟩⟩
    · rw [hentry] at heq
      rw [Option.some.inj heq]
      exact h id entry' hold
    · rw [hentry] at heq
      rw [Option.some.inj heq]
      exact (h id entry' hold).reconciled d
    · rw [hentry] at hnone
      cases hnone

theorem EntriesSound.timeoutEntry (h : st.EntriesSound) (now id : UInt64) :
    ({ st with endToEndReliableTx := (endToEndTimeoutEntry B now st.endToEndReliableTx id).1 } :
      RouterInner S).EntriesSound := by
  unfold endToEndTimeoutEntry
  split
  · exact h
  · rename_i entry hentry
    split
    · exact h
    · split
      · exact h.erase id
      · refine h.insert ?_ id
        exact h id entry hentry

theorem EntriesSound.timeoutScan (h : st.EntriesSound) (now : UInt64) (ids : List UInt64) :
    ({ st with endToEndReliableTx := (endToEndTimeoutScan B now st.endToEndReliableTx ids).1 } :
      RouterInner S).EntriesSound := by
  induction ids generalizing st with
  | nil => exact h
  | cons id rest ih => exact ih (h.timeoutEntry now id)

theorem EntriesSound.endToEndRetransmitSides (h : st.EntriesSound) (packetId now : UInt64) :
    (st.endToEndRetransmitSides packetId now).EntriesSound := by
  unfold RouterInner.endToEndRetransmitSides
  split
  · exact h
  · rename_i entry hentry
    split
    · exact h.erase packetId
    · refine h.insert ?_ packetId
      exact h packetId entry hentry

end Entries
end RouterInner
end Sedsprintf
