import Sedsprintf.Lib.Forwarder
import Sedsprintf.Relay.Calls
import Sedsprintf.Relay.Conveying
import Sedsprintf.Relay.Passing

/-!
# The relay as a forwarder

Every run of a relay is a run of the general forwarder: what it receives is taken in, a routing
plan passes an item on, and what a TX callback takes of it is given away. An item in the middle
of a call is in neither queue but at hand.
-/
namespace Sedsprintf

open Lib

section Keys
variable (B : Build) {S : Schema}

/-- The id an item is passed on behind. Reliable packets may be passed on again, for the next
hop that has not acknowledged them. -/
def RouterItem.key (data : RouterItem S) : Option UInt64 :=
  match RelayInner.itemType B data with
  | .error _ => none
  | .ok ty =>
    if S.isReliableType ty || S.isReliableControlType ty then none
    else (RelayInner.getHash B data).toOption

/-- What a forwarder says of an event. -/
def RelayEvent.passage : RelayEvent S → Passage Nat (RouterItem S) UInt64
  | .received src data => .accepted src (data.relayed B)
  | .remembered packetId => .noted packetId
  | .forwarded src data sides => .passedOn src data sides
  | .sent (some src) side data _ true => .given src side data
  | .sent _ _ _ _ _ => .aside
  | .replayed _ _ _ => .aside

/-- A callback is not that of the source, and what it is called with holds the packet. -/
def RelayEvent.Faithful : RelayEvent S → Prop
  | .sent src side data wire _ => src ≠ some side ∧ data.Conveys B wire
  | _ => True

variable {B}

/-- A frame that decodes has the type that a peek reads. -/
theorem type_of_peekEnvelope {bytes : List UInt8} {envelope : TelemetryEnvelope S} {pkt : Packet S}
    (hpeek : peekEnvelope B S bytes = .ok envelope) (hdec : deserializePacket B S bytes = .ok pkt) :
    pkt.ty = envelope.ty := by
  obtain ⟨d⟩ := Decoded.exists_of_ok hdec
  obtain ⟨data, hcrc, hpeek⟩ := bind_eq_ok.mp hpeek
  obtain rfl := Except.ok.inj (d.crc_ok.symm.trans hcrc)
  obtain ⟨_, -, hpeek⟩ := bind_eq_ok.mp hpeek
  obtain ⟨⟨env, r⟩, hread, hpeek⟩ := bind_eq_ok.mp hpeek
  obtain rfl := Except.ok.inj hpeek
  obtain ⟨⟨pre, r₁⟩, hpre, hread⟩ := bind_eq_ok.mp hread
  obtain ⟨rfl, -⟩ := Prod.mk.inj (Except.ok.inj (d.prelude_ok.symm.trans hpre))
  obtain ⟨need, -, hread⟩ := bind_eq_ok.mp hread
  obtain ⟨_, -, hread⟩ := bind_eq_ok.mp hread
  obtain ⟨⟨bm, r₂⟩, -, hread⟩ := bind_eq_ok.mp hread
  obtain ⟨eps, -, hread⟩ := bind_eq_ok.mp hread
  obtain ⟨_, -, hread⟩ := bind_eq_ok.mp hread
  obtain ⟨⟨wire, r₃⟩, -, hread⟩ := bind_eq_ok.mp hread
  obtain ⟨sender, -, hread⟩ := bind_eq_ok.mp hread
  obtain ⟨ty, hty, hread⟩ := bind_eq_ok.mp hread
  obtain ⟨rfl, -⟩ := Prod.mk.inj (Except.ok.inj hread)
  exact Except.ok.inj (d.type_ok.symm.trans hty)

theorem RouterItem.key_of_reliable {data : RouterItem S} {ty : S.DataType}
    (hty : RelayInner.itemType B data = .ok ty)
    (hreliable : (S.isReliableType ty || S.isReliableControlType ty) = true) :
    data.key B = none := by
  simp [RouterItem.key, hty, hreliable]

theorem RouterItem.getHash_of_key {data : RouterItem S} {id : UInt64} (h : data.key B = some id) :
    RelayInner.getHash B data = .ok id := by
  unfold RouterItem.key at h
  split at h
  · cases h
  · split at h
    · cases h
    · exact toOption_eq_some.mp h

/-- Only reliable control is decoded. -/
theorem RouterItem.relayed_cases (data : RouterItem S) :
    data.relayed B = data ∨ (data.relayed B).key B = none := by
  cases data with
  | packet pkt => exact .inl rfl
  | serialized bytes =>
    unfold RouterItem.relayed
    dsimp only
    split
    · rename_i envelope pkt hpeek hdec
      split
      · rename_i hcontrol
        refine .inr (@RouterItem.key_of_reliable B S (.packet pkt) pkt.ty rfl ?_)
        rw [type_of_peekEnvelope hpeek hdec, hcontrol, Bool.or_true]
      · exact .inl rfl
    · exact .inl rfl

theorem RouterItem.getHash_of_relayed_key {data : RouterItem S} {id : UInt64}
    (h : (data.relayed B).key B = some id) : RelayInner.getHash B data = .ok id := by
  rcases data.relayed_cases (B := B) with hsame | hnone
  · rw [hsame] at h
    exact RouterItem.getHash_of_key h
  · rw [hnone] at h
    cases h

end Keys

/-- The build's window holds as many ids as it says. -/
def Build.Windowed (B : Build) : Prop :=
  B.maxRecentRxIds ≠ 0 ∧ B.maxRecentRxIds * 8 ≤ B.maxQueueBudget

/-- The forwarder that a relay is. -/
abbrev RelayForwarder (S : Schema) := Forwarder Nat (RouterItem S) UInt64

abbrev RelayForwarder.Run (B : Build) {S : Schema} : RelayForwarder S → RelayForwarder S → Prop :=
  Forwarder.Run (RouterItem.key B) B.maxRecentRxIds B.Windowed

/-- The relay `s` as the forwarder `n`: `hand` is what it has received and not yet handled, `out`
what it has passed on and not yet queued or given away. -/
structure RelayState.Shows (B : Build) {S : Schema} (hand : Multiset (Nat × RouterItem S))
    (out : Nat → Multiset (Nat × RouterItem S)) (fresh : Multiset UInt64) (s : RelayState S)
    (n : RelayForwarder S) : Prop where
  log : n.log = s.events.map (RelayEvent.passage B)
  waiting : hand + RelayInner.waiting B s.inner.stores ≤ n.waiting
  leaving : ∀ port, out port + RelayInner.leaving s.inner.stores port ≤ n.leaving port
  fresh : n.fresh = fresh
  kept : s.inner.Kept B
  window : B.Windowed → n.window = s.inner.recentRx.q
  recent : B.Windowed → RecentKept B s.inner.recentRx
  faithful : ∀ e ∈ s.events, e.Faithful B

/-- A run of the forwarder from `base` on leads to what the relay shows. -/
def RelayState.Reaches (B : Build) {S : Schema} (base : RelayForwarder S)
    (hand : Multiset (Nat × RouterItem S)) (out : Nat → Multiset (Nat × RouterItem S))
    (fresh : Multiset UInt64) (s : RelayState S) : Prop :=
  ∃ n, RelayForwarder.Run B base n ∧ s.Shows B hand out fresh n

/-- Nothing is at hand but what an interrupted send holds. -/
abbrev RelayState.Settled (B : Build) {S : Schema} (base : RelayForwarder S)
    (out : Nat → Multiset (Nat × RouterItem S)) (s : RelayState S) : Prop :=
  s.Reaches B base 0 out 0

/-- A copy for each of the sides, besides `out`. -/
def withCopies {S : Schema} (copy : Nat × RouterItem S) (sides : List Nat)
    (out : Nat → Multiset (Nat × RouterItem S)) (port : Nat) : Multiset (Nat × RouterItem S) :=
  (if port ∈ sides then {copy} else 0) + out port

/-- A queued item, besides `out`. -/
def withItem {S : Schema} (item : RelayTxItem S) (out : Nat → Multiset (Nat × RouterItem S))
    (port : Nat) : Multiset (Nat × RouterItem S) :=
  ↑(RelayInner.copyFor port item).toList + out port

namespace RelayState.Reaches
variable {B : Build} {S : Schema} {base : RelayForwarder S} {hand hand' : Multiset (Nat × RouterItem S)}
  {out out' : Nat → Multiset (Nat × RouterItem S)} {fresh fresh' : Multiset UInt64}
  {s : RelayState S} {inner : RelayInner S}

/-- What is at hand may be lost. -/
theorem weaken (h : s.Reaches B base hand out fresh) (hhand : hand' ≤ hand)
    (hout : ∀ port, out' port ≤ out port) (hfresh : fresh' ≤ fresh) :
    s.Reaches B base hand' out' fresh' := by
  obtain ⟨n, hrun, hshows⟩ := h
  refine ⟨{ n with fresh := fresh' }, hrun.tail (.lose n le_rfl (fun _ => le_rfl) ?_), ?_⟩
  · rw [hshows.fresh]
    exact hfresh
  · exact { hshows with
      waiting := (add_le_add hhand le_rfl).trans hshows.waiting
      leaving := fun port => (add_le_add (hout port) le_rfl).trans (hshows.leaving port)
      fresh := rfl }

theorem settled (h : s.Reaches B base hand out fresh) : s.Settled B base out :=
  h.weaken (Multiset.zero_le _) (fun _ => le_rfl) (Multiset.zero_le _)

/-- The inner state changes, and with it what is at hand. -/
theorem moved (h : s.Reaches B base hand out fresh) (htends : RelayInner.Tends B s.inner inner)
    (hwaiting : hand' + RelayInner.waiting B inner.stores ≤
      hand + RelayInner.waiting B s.inner.stores)
    (hleaving : ∀ port, out' port + RelayInner.leaving inner.stores port ≤
      out port + RelayInner.leaving s.inner.stores port) (table : RelayTable S) :
    (⟨inner, table, s.events⟩ : RelayState S).Reaches B base hand' out' fresh := by
  obtain ⟨n, hrun, hshows⟩ := h
  refine ⟨n, hrun, hshows.log, hwaiting.trans hshows.waiting,
    fun port => (hleaving port).trans (hshows.leaving port), hshows.fresh,
    htends.kept hshows.kept, fun hw => ?_, fun hw => ?_, ?_⟩
  · exact (hshows.window hw).trans (congrArg BoundedDeque.q htends.recentRx.symm)
  · have hrecent : inner.recentRx = s.inner.recentRx := htends.recentRx
    show RecentKept B inner.recentRx
    rw [hrecent]
    exact hshows.recent hw
  · exact hshows.faithful

theorem quiet (h : s.Reaches B base hand out fresh) (hquiet : RelayInner.Quiet B s.inner inner)
    (table : RelayTable S) : (⟨inner, table, s.events⟩ : RelayState S).Reaches B base hand out fresh :=
  h.moved hquiet.toTends (add_le_add le_rfl hquiet.sheds.1)
    (fun port => add_le_add le_rfl (hquiet.sheds.2 port)) table

theorem retable (h : s.Reaches B base hand out fresh) (table : RelayTable S) :
    ({ s with table := table } : RelayState S).Reaches B base hand out fresh :=
  h.quiet (.refl s.inner) table

theorem faithful_snoc {events : List (RelayEvent S)} {event : RelayEvent S}
    (h : ∀ e ∈ events, e.Faithful B) (hevent : event.Faithful B) :
    ∀ e ∈ events ++ [event], e.Faithful B := by
  intro e he
  rcases List.mem_append.mp he with hold | hnew
  · exact h e hold
  · rw [List.mem_singleton.mp hnew]
    exact hevent

/-- An event that concerns no received item. -/
theorem skipped (h : s.Reaches B base hand out fresh) {event : RelayEvent S}
    (hevent : event.passage B = .aside) (hfaithful : event.Faithful B) :
    ({ s with events := s.events ++ [event] } : RelayState S).Reaches B base hand out fresh := by
  obtain ⟨n, hrun, hshows⟩ := h
  refine ⟨_, hrun.tail (.skip n),
    { hshows with log := ?_, faithful := faithful_snoc hshows.faithful hfaithful }⟩
  simp [hshows.log, hevent]

theorem received (h : s.Reaches B base hand out fresh) (src : Nat) (data : RouterItem S) :
    ({ s with events := s.events ++ [.received src data] } : RelayState S).Reaches B base
      ((src, data.relayed B) ::ₘ hand) out fresh := by
  obtain ⟨n, hrun, hshows⟩ := h
  refine ⟨_, hrun.tail (.accept n src (data.relayed B)),
    { hshows with log := ?_, waiting := ?_, faithful := faithful_snoc hshows.faithful trivial }⟩
  · simp [hshows.log, RelayEvent.passage]
  · dsimp only
    rw [Multiset.cons_add]
    exact Multiset.cons_le_cons _ hshows.waiting

/-- The item at hand is passed on to the ports `sides`. -/
theorem forwarded {src : Nat} {data : RouterItem S}
    (h : s.Reaches B base ((src, data) ::ₘ hand) out (↑(data.key B).toList + fresh))
    (sides : List Nat) :
    ({ s with events := s.events ++ [.forwarded src data sides] } : RelayState S).Reaches B base
      hand (withCopies (src, data) sides out) fresh := by
  obtain ⟨n, hrun, hshows⟩ := h
  have hwaiting := hshows.waiting
  rw [Multiset.cons_add] at hwaiting
  obtain ⟨rest, hrest⟩ := Multiset.exists_cons_of_mem
    (Multiset.mem_of_le hwaiting (Multiset.mem_cons_self _ _))
  rw [hrest, Multiset.cons_le_cons_iff] at hwaiting
  refine ⟨_, hrun.tail (@Forwarder.Step.pass _ _ _ _ _ _ _ n _ _ sides _ _ hrest hshows.fresh),
    { hshows with
      log := ?_
      waiting := hwaiting
      leaving := fun port => ?_
      fresh := rfl
      faithful := faithful_snoc hshows.faithful trivial }⟩
  · simp [hshows.log, RelayEvent.passage]
  · have hport := hshows.leaving port
    unfold withCopies
    dsimp only
    split
    · rw [Multiset.singleton_add, Multiset.cons_add]
      exact Multiset.cons_le_cons _ hport
    · rwa [zero_add]

/-- A copy is given away. -/
theorem gave {item : RelayTxItem S} {wire : RouterItem S}
    (h : s.Reaches B base hand (withItem item out) fresh)
    (hfaithful : item.src ≠ some item.dst ∧ item.data.Conveys B wire) :
    ({ s with events := s.events ++ [.sent item.src item.dst item.data wire true] } :
      RelayState S).Reaches B base hand out fresh := by
  cases hsrc : item.src with
  | none =>
    rw [hsrc] at hfaithful
    exact (h.weaken le_rfl (fun _ => Multiset.le_add_left _ _) le_rfl).skipped rfl hfaithful
  | some src =>
    obtain ⟨n, hrun, hshows⟩ := h
    have hport := hshows.leaving item.dst
    simp only [withItem, RelayInner.copyFor, hsrc, if_true, Option.map_some, Option.toList_some,
      Multiset.coe_singleton, Multiset.singleton_add, Multiset.cons_add] at hport
    obtain ⟨rest, hrest⟩ := Multiset.exists_cons_of_mem
      (Multiset.mem_of_le hport (Multiset.mem_cons_self _ _))
    rw [hrest, Multiset.cons_le_cons_iff] at hport
    rw [hsrc] at hfaithful
    refine ⟨_, hrun.tail (.give n hrest),
      { hshows with
        log := ?_
        leaving := fun p => ?_
        faithful := faithful_snoc hshows.faithful hfaithful }⟩
    · simp [hshows.log, RelayEvent.passage]
    · by_cases hp : item.dst = p
      · subst hp
        simpa using hport
      · have hother := hshows.leaving p
        simp only [withItem, RelayInner.copyFor, if_neg hp, Option.toList_none, Multiset.coe_nil,
          zero_add] at hother
        simpa [Function.update_of_ne (Ne.symm hp)] using hother

/-- An id that is not known is recorded. -/
theorem remembered (h : s.Reaches B base hand out 0) {id : UInt64} (hnew : id ∉ s.inner.recentRx.q)
    (table : RelayTable S) :
    (⟨(s.inner.pushRecentRx B id).1, table, s.events ++ [.remembered id]⟩ : RelayState S).Reaches B
      base hand out {id} := by
  obtain ⟨n, hrun, hshows⟩ := h
  have hsheds := RelayInner.Sheds.pushRecentRx (B := B) s.inner id
  have hspec : B.Windowed → _ := fun hw => @Stores.pushRecentRx_spec _ _ S B 0 (RelayQueues.set B)
    s.inner.stores hshows.kept.toBudgeted (hshows.recent hw) hw.1 hw.2 id hnew
  refine ⟨_, hrun.tail (@Forwarder.Step.note _ _ _ _ _ _ _ n id fun hw => ?_), ?_⟩
  · rw [hshows.window hw]
    exact hnew
  · refine ⟨?_, ?_, fun port => ?_, ?_, hshows.kept.pushRecentRx id, fun hw => ?_, fun hw => ?_,
      faithful_snoc hshows.faithful trivial⟩
    · simp [hshows.log, RelayEvent.passage]
    · exact (add_le_add le_rfl hsheds.1).trans hshows.waiting
    · exact (add_le_add le_rfl (hsheds.2 port)).trans (hshows.leaving port)
    · simp [hshows.fresh]
    · dsimp only
      rw [hshows.window hw]
      exact (hspec hw).2.1.symm
    · exact (hspec hw).2.2

/-- An id that could not be recorded: the window does not hold what the build says. -/
theorem unrecorded (h : s.Reaches B base hand out fresh) {id : UInt64}
    (hnew : id ∉ s.inner.recentRx.q) {e : Stop} (hpush : (s.inner.pushRecentRx B id).2 = .error e)
    (table : RelayTable S) :
    (⟨(s.inner.pushRecentRx B id).1, table, s.events⟩ : RelayState S).Reaches B base hand out
      fresh := by
  obtain ⟨n, hrun, hshows⟩ := h
  have hsheds := RelayInner.Sheds.pushRecentRx (B := B) s.inner id
  have hwindow : ¬B.Windowed := by
    intro hw
    have hspec := @Stores.pushRecentRx_spec _ _ S B 0 (RelayQueues.set B) s.inner.stores
      hshows.kept.toBudgeted (hshows.recent hw) hw.1 hw.2 id hnew
    have hok : (s.inner.pushRecentRx B id).2 = .ok () := hspec.1
    rw [hpush] at hok
    cases hok
  exact ⟨n, hrun, hshows.log, (add_le_add le_rfl hsheds.1).trans hshows.waiting,
    fun port => (add_le_add le_rfl (hsheds.2 port)).trans (hshows.leaving port), hshows.fresh,
    hshows.kept.pushRecentRx id, fun hw => absurd hw hwindow, fun hw => absurd hw hwindow,
    hshows.faithful⟩

end RelayState.Reaches

namespace RelayProgram
variable {B : Build} {S : Schema} {w : RelayWorld S} {base : RelayForwarder S}
  {hand hand' : Multiset (Nat × RouterItem S)} {out : Nat → Multiset (Nat × RouterItem S)}
  {fresh : Multiset UInt64}

open RelayState Program

theorem onInner_keeps {α : Type} {f : RelayInner S → RelayInner S × Outcome α}
    (hquiet : ∀ st, RelayInner.Quiet B st (f st).1) :
    Keeps (Reaches B base hand out fresh) (onInner f) :=
  fun s hs => hs.quiet (hquiet s.inner) s.table

theorem changeTable_keeps (change : RelayTable S → RelayTable S) :
    Keeps (Reaches B base hand out fresh) (changeTable change) :=
  fun s hs => hs.retable (change s.table)

/-- Where nothing more is said, a program may stop. -/
theorem stops {α : Type} {p : RelayProgram S α} (h : Keeps (Reaches B base hand out fresh) p) :
    Triple (Reaches B base hand out fresh) p (fun _ => Reaches B base hand out fresh)
      (Settled B base out) :=
  h.triple_of_le fun _ hs => hs.settled

theorem of_triple {α : Type} (x : Outcome α) :
    Triple (Reaches B base hand out fresh) (Program.of x : RelayProgram S α)
      (fun _ => Reaches B base hand out fresh) (Settled B base out) :=
  .of x fun _ hs => hs.settled

theorem of_value_triple {α : Type} (x : Outcome α) :
    Triple (Reaches B base hand out fresh) (Program.of x : RelayProgram S α)
      (fun a s => s.Reaches B base hand out fresh ∧ x = .ok a) (Settled B base out) :=
  (Triple.of_value x).imp (fun _ hs => hs) (fun _ _ hs => hs) fun _ hs => hs.settled

section Routes

theorem learnDiscoveryItem_keeps (src : Nat) (data : RouterItem S) :
    Keeps (Reaches B base hand out fresh) (learnDiscoveryItem B w src data) := by
  unfold learnDiscoveryItem
  split
  · exact .pure ()
  · refine .bind (.of _) fun learned => .bind (onInner_keeps fun st => ?_) fun _ => ?_
    · exact .learnDiscoveryItem w.now st src data
    · exact .ite (fun s hs => hs.retable _) (.pure ())

/-- The chosen sides are different ones. -/
theorem remoteSidePlan_nodup {st : RelayInner S} {table table' : RelayTable S} {data : RouterItem S}
    {now : UInt64} {src : Nat} {sides : List Nat}
    (hplan : st.remoteSidePlan B now table data src = .ok (table', sides)) : sides.Nodup := by
  unfold RelayInner.remoteSidePlan at hplan
  obtain ⟨⟨eps, ty⟩, -, hplan⟩ := bind_eq_ok.mp hplan
  obtain ⟨preferred, -, hplan⟩ := bind_eq_ok.mp hplan
  dsimp only at hplan
  split at hplan
  · obtain ⟨selected, hselect, hplan⟩ := bind_eq_ok.mp hplan
    obtain ⟨rfl, rfl⟩ := Prod.mk.inj (Except.ok.inj hplan)
    exact (RoutingTable.Sound.eligible.select hselect).nodup
  · obtain ⟨source, -, hplan⟩ := bind_eq_ok.mp hplan
    cases preferred with
    | some packetId =>
      obtain ⟨-, rfl⟩ := Prod.mk.inj (Except.ok.inj hplan)
      cases table.reliableReturnRoutes[packetId]?.filter _ with
      | none => exact List.nodup_nil
      | some side => exact List.nodup_singleton side
    | none =>
      obtain ⟨targets, htargets, hplan⟩ := bind_eq_ok.mp hplan
      obtain ⟨selected, hselect, hplan⟩ := bind_eq_ok.mp hplan
      obtain ⟨rfl, rfl⟩ := Prod.mk.inj (Except.ok.inj hplan)
      exact ((RelayInner.planTargets_sound htargets).select hselect).nodup

theorem remoteSidePlan_triple (data : RouterItem S) (src : Nat) :
    Triple (Reaches B base hand out fresh) (remoteSidePlan B w data src)
      (fun sides s => s.Reaches B base hand out fresh ∧ sides.Nodup) (Settled B base out) := by
  refine .of_outcome fun s hs => ?_
  cases hplan : s.inner.remoteSidePlan B w.now s.table data src with
  | error e =>
    have hrun : remoteSidePlan B w data src s = (s, .error e) := by
      simp only [remoteSidePlan, hplan]
    exact .inr ⟨e, s, hrun, hs.settled⟩
  | ok planned =>
    obtain ⟨table, sides⟩ := planned
    have hrun : remoteSidePlan B w data src s = ({ s with table }, .ok sides) := by
      simp only [remoteSidePlan, hplan]
    exact .inl ⟨sides, _, hrun, hs.retable table, remoteSidePlan_nodup hplan⟩

end Routes

section Dispatch

/-- A copy is queued, or lost. -/
theorem pushCopy_triple {src dst : Nat} {data : RouterItem S} {rest : List Nat}
    (hnew : dst ∉ rest) :
    Triple (Reaches B base hand (withCopies (src, data) (dst :: rest) out) fresh)
      (pushCopy B src data dst)
      (fun _ => Reaches B base hand (withCopies (src, data) rest out) fresh)
      (Settled B base out) := by
  have hlost : ∀ s : RelayState S,
      s.Reaches B base hand (withCopies (src, data) (dst :: rest) out) fresh →
      s.Settled B base out := by
    intro s hs
    exact hs.weaken (Multiset.zero_le _) (fun _ => Multiset.le_add_left _ _) (Multiset.zero_le _)
  refine Triple.bind (.of _ hlost) fun priority => ?_
  have hpushed : ∀ s : RelayState S,
      s.Reaches B base hand (withCopies (src, data) (dst :: rest) out) fresh →
      (⟨(s.inner.pushTx B ⟨some src, dst, data, priority⟩).1, s.table, s.events⟩ :
        RelayState S).Reaches B base hand (withCopies (src, data) rest out) fresh := by
    intro s hs
    refine hs.moved (.of_moves (.pushTx s.inner _)) ?_ (fun port => ?_) s.table
    · exact add_le_add le_rfl (RelayInner.pushTx_waiting_le s.inner _)
    · have hpush := RelayInner.pushTx_leaving_le (B := B) s.inner ⟨some src, dst, data, priority⟩ port
      unfold withCopies
      by_cases hport : dst = port
      · subst hport
        rw [if_neg hnew, if_pos List.mem_cons_self, zero_add, add_right_comm, add_comm _ (out dst)]
        refine add_le_add le_rfl ?_
        simpa [RelayInner.copyFor] using hpush
      · have hmem : port ∈ dst :: rest ↔ port ∈ rest := by simp [Ne.symm hport]
        simp only [hmem]
        refine add_le_add le_rfl ?_
        simpa [RelayInner.copyFor, hport] using hpush
  intro s hs
  refine ⟨fun _ _ => hpushed s hs, fun _ _ => ?_⟩
  exact (hpushed s hs).weaken (Multiset.zero_le _) (fun _ => Multiset.le_add_left _ _)
    (Multiset.zero_le _)

theorem pushCopies_triple {src : Nat} {data : RouterItem S} {sides : List Nat}
    (hnodup : sides.Nodup) :
    Triple (Reaches B base hand (withCopies (src, data) sides out) fresh)
      (Program.forEach (pushCopy B src data) sides)
      (fun _ => Reaches B base hand out fresh) (Settled B base out) := by
  induction sides with
  | nil => exact .pure fun s hs => hs.weaken le_rfl (fun _ => Multiset.le_add_left _ _) le_rfl
  | cons dst rest ih =>
    obtain ⟨hnew, hrest⟩ := List.nodup_cons.mp hnodup
    exact (pushCopy_triple hnew).bind fun _ => ih hrest

/-- A forwarded item is passed on behind its id. -/
theorem forward_triple (src : Nat) (data : RouterItem S) :
    Triple (Reaches B base ((src, data) ::ₘ hand) out (↑(data.key B).toList + fresh))
      (forward B w src data) (fun _ => Reaches B base hand out fresh) (Settled B base out) := by
  refine (stops (learnDiscoveryItem_keeps src data)).bind fun _ => ?_
  refine (remoteSidePlan_triple data src).bind fun sides => ?_
  intro s hs
  have hforwarded : Triple (fun s => s.Reaches B base ((src, data) ::ₘ hand) out
      (↑(data.key B).toList + fresh)) (record (.forwarded src data sides))
      (fun _ => Reaches B base hand (withCopies (src, data) sides out) fresh)
      (Settled B base out) :=
    .of_outcome fun _ hs => .inl ⟨_, _, rfl, hs.forwarded sides⟩
  exact (hforwarded.bind fun _ => pushCopies_triple hs.2) s hs.1

/-- A packet at the dispatch is forwarded, or it ends there. -/
theorem dispatchPacket_triple (src : Nat) (pkt : Packet S) :
    Triple (Reaches B base ((src, .packet pkt) ::ₘ hand) out
        (↑((RouterItem.packet pkt).key B).toList + fresh))
      (dispatchPacket B w src pkt) (fun _ => Reaches B base hand out fresh)
      (Settled B base out) := by
  have hforward := @forward_triple B S w base hand out fresh src (.packet pkt)
  unfold dispatchPacket
  split
  · cases endToEndAck pkt with
    | some packetId =>
      have hnote : Keeps (Reaches B base ((src, .packet pkt) ::ₘ hand) out
          (↑((RouterItem.packet pkt).key B).toList + fresh)) (noteAcked B packetId pkt) := by
        unfold noteAcked
        split
        · exact .pure ()
        · exact changeTable_keeps _
      exact (stops hnote).bind fun _ => hforward
    | none =>
      refine (stops (onInner_keeps fun st => ?_)).imp (fun _ hs => hs) (fun _ s hs => ?_)
        (fun _ hs => hs)
      · exact .dispatchControl (fun _ _ => rfl) st _ pkt
      · exact hs.weaken (Multiset.le_cons_self _ _) (fun _ => le_rfl) (Multiset.le_add_left _ _)
  · exact hforward

theorem dispatchRelayRxItem_triple (src : Nat) (data : RouterItem S) :
    Triple (Reaches B base ((src, data.relayed B) ::ₘ hand) out
        (↑((data.relayed B).key B).toList + fresh))
      (dispatchRelayRxItem B w src data) (fun _ => Reaches B base hand out fresh)
      (Settled B base out) := by
  cases data with
  | packet pkt => exact dispatchPacket_triple src pkt
  | serialized bytes =>
    refine (of_value_triple (peekEnvelope B S bytes)).bind fun envelope s hs => ?_
    obtain ⟨hs, hpeek⟩ := hs
    split
    · rename_i hcontrol
      have hdecoded : Triple (Reaches B base
          ((src, (RouterItem.serialized bytes).relayed B) ::ₘ hand) out
          (↑(((RouterItem.serialized bytes : RouterItem S).relayed B).key B).toList + fresh))
          (do
            let pkt ← Program.of (deserializePacket B S bytes)
            dispatchPacket B w src pkt)
          (fun _ => Reaches B base hand out fresh) (Settled B base out) := by
        refine (of_value_triple (deserializePacket B S bytes)).bind fun pkt s hs => ?_
        have hrelayed : (RouterItem.serialized bytes).relayed B = .packet pkt := by
          simp [RouterItem.relayed, hpeek, hs.2, hcontrol]
        rw [hrelayed] at hs
        exact dispatchPacket_triple src pkt s hs.1
      exact hdecoded s hs
    · rename_i hcontrol
      have hrelayed : (RouterItem.serialized bytes).relayed B = (.serialized bytes : RouterItem S) := by
        cases hdec : deserializePacket B S bytes with
        | error e => simp [RouterItem.relayed, hpeek, hdec]
        | ok pkt => simp [RouterItem.relayed, hpeek, hdec, hcontrol]
      rw [hrelayed] at hs
      exact forward_triple src _ s hs

end Dispatch

section Receive

/-- The id of an item that is not known is fresh. -/
theorem isDuplicatePkt_triple (data : RouterItem S) :
    Triple (Reaches B base hand out 0) (isDuplicatePkt B data)
      (fun known s => if known then s.Reaches B base hand out 0
        else ∃ id, RelayInner.getHash B data = .ok id ∧ s.Reaches B base hand out {id})
      (Settled B base out) := by
  refine .of_outcome fun s hs => ?_
  cases hhash : RelayInner.getHash B data with
  | error e =>
    have hrun : isDuplicatePkt B data s = (s, .error e) := by
      refine Program.bind_apply_of_error ?_
      simp only [onInner, RelayInner.isDuplicatePkt, hhash]
    exact .inr ⟨e, s, hrun, hs.settled⟩
  | ok id =>
    by_cases hknown : id ∈ s.inner.recentRx.q
    · have hfound : onInner (fun st => st.isDuplicatePkt B data) s = (s, .ok true) := by
        simp only [onInner, RelayInner.isDuplicatePkt, hhash, if_pos hknown]
      have hrun : isDuplicatePkt B data s = (s, .ok true) :=
        (Program.bind_apply_of_ok hfound).trans rfl
      exact .inl ⟨true, s, hrun, hs⟩
    · have hstep : ∀ result, (s.inner.pushRecentRx B id).2 = result →
          onInner (fun st => st.isDuplicatePkt B data) s =
            (⟨(s.inner.pushRecentRx B id).1, s.table, s.events⟩, result.map fun _ => false) := by
        intro result hresult
        simp only [onInner, RelayInner.isDuplicatePkt, hhash, if_neg hknown]
        generalize s.inner.pushRecentRx B id = r at hresult
        obtain ⟨st, e | ⟨⟨⟩⟩⟩ := r
        · subst hresult
          rfl
        · subst hresult
          rfl
      cases hpush : (s.inner.pushRecentRx B id).2 with
      | error e =>
        have hrun : isDuplicatePkt B data s =
            (⟨(s.inner.pushRecentRx B id).1, s.table, s.events⟩, .error e) :=
          Program.bind_apply_of_error (hstep _ hpush)
        exact .inr ⟨e, _, hrun, (hs.unrecorded hknown hpush s.table).settled⟩
      | ok done =>
        have hrun : isDuplicatePkt B data s = (⟨(s.inner.pushRecentRx B id).1, s.table,
            s.events ++ [.remembered id]⟩, .ok false) := by
          refine (Program.bind_apply_of_ok (hstep _ hpush)).trans ?_
          simp only [hhash]
          rfl
        exact .inl ⟨false, _, hrun, id, rfl, hs.remembered hknown s.table⟩

/-- Only reliable packets are passed on again. -/
theorem shouldForwardDuplicateReliableItem_triple (src : Nat) (data : RouterItem S) :
    Triple (Reaches B base hand out fresh) (shouldForwardDuplicateReliableItem B w src data)
      (fun again s => s.Reaches B base hand out fresh ∧
        (again = true → (data.relayed B).key B = none))
      (Settled B base out) := by
  unfold shouldForwardDuplicateReliableItem
  refine (of_value_triple (RelayInner.itemType B data)).bind fun ty => ?_
  split
  · rename_i hreliable
    have hplan : Triple (fun s => s.Reaches B base hand out fresh ∧
        RelayInner.itemType B data = .ok ty) (remoteSidePlan B w data src)
        (fun _ s => s.Reaches B base hand out fresh ∧ RelayInner.itemType B data = .ok ty)
        (Settled B base out) := by
      intro s hs
      obtain ⟨hok, herr⟩ := remoteSidePlan_triple (w := w) data src s hs.1
      exact ⟨fun sides h => ⟨(hok sides h).1, hs.2⟩, herr⟩
    refine hplan.bind fun sides => ?_
    intro s hs
    refine ⟨fun again h => ⟨hs.1, fun _ => ?_⟩, fun _ h => nomatch h⟩
    rcases data.relayed_cases (B := B) with hsame | hnone
    · rw [hsame]
      refine RouterItem.key_of_reliable hs.2 ?_
      rw [(Bool.and_eq_true_iff.mp hreliable).1, Bool.true_or]
    · exact hnone
  · exact .pure fun s hs => ⟨hs.1, fun h => nomatch h⟩

/-- An item that is not skipped has its id fresh, or needs none. -/
theorem skipsItem_triple (src : Nat) (data : RouterItem S) :
    Triple (Reaches B base hand out 0) (skipsItem B w src data)
      (fun skips s => if skips then s.Reaches B base hand out 0
        else s.Reaches B base hand out ↑((data.relayed B).key B).toList)
      (Settled B base out) := by
  refine (isDuplicatePkt_triple data).bind fun known => ?_
  cases known with
  | true =>
    refine (shouldForwardDuplicateReliableItem_triple src data).bind fun again => ?_
    refine .pure fun s hs => ?_
    cases again with
    | true =>
      have hnone := hs.2 rfl
      simpa [hnone] using hs.1
    | false => exact hs.1
  | false =>
    refine .pure fun s hs => ?_
    obtain ⟨id, hhash, hs⟩ := hs
    refine hs.weaken le_rfl (fun _ => le_rfl) ?_
    cases hkey : (data.relayed B).key B with
    | none => exact Multiset.zero_le _
    | some k =>
      have hk := RouterItem.getHash_of_relayed_key hkey
      obtain rfl := Except.ok.inj (hhash.symm.trans hk)
      exact le_rfl

/-- An item is skipped, or goes on with its id fresh. -/
theorem unlessSkipped_triple {src : Nat} {data : RouterItem S} {go : RelayProgram S Unit}
    (hgo : Triple (Reaches B base hand out ↑((data.relayed B).key B).toList) go
      (fun _ => Reaches B base hand' out 0) (Settled B base out)) (hle : hand' ≤ hand) :
    Triple (Reaches B base hand out 0)
      (do
        let skips ← skipsItem B w src data
        if skips then pure () else go)
      (fun _ => Reaches B base hand' out 0) (Settled B base out) := by
  refine (skipsItem_triple src data).bind fun skips => ?_
  cases skips with
  | true => exact .pure fun s hs => hs.weaken hle (fun _ => le_rfl) le_rfl
  | false => exact hgo

/-- A dispatched item takes its id along. -/
theorem dispatchFresh_triple (src : Nat) (data : RouterItem S) :
    Triple (Reaches B base ((src, data.relayed B) ::ₘ hand) out
        ↑((data.relayed B).key B).toList)
      (dispatchRelayRxItem B w src data) (fun _ => Reaches B base hand out 0)
      (Settled B base out) := by
  have hdispatch := @dispatchRelayRxItem_triple B S w base hand out 0 src data
  rwa [add_zero] at hdispatch

theorem dispatchReleased_triple (src : Nat) (bytes : List UInt8) :
    Triple (Reaches B base (RelayInner.frameItem B src bytes ::ₘ hand) out 0)
      (dispatchReleased B w src bytes) (fun _ => Reaches B base hand out 0)
      (Settled B base out) :=
  (of_triple _).bind fun _ =>
    unlessSkipped_triple (dispatchFresh_triple src _) (Multiset.le_cons_self _ _)

theorem handOver_triple (src : Nat) (data : RouterItem S) (released : List (List UInt8)) :
    Triple (Reaches B base
        ((src, data.relayed B) ::ₘ RelayInner.frameItems B src released) out 0)
      (handOver B w src data released) (fun _ => Settled B base out) (Settled B base out) := by
  refine unlessSkipped_triple ((dispatchFresh_triple src data).bind fun _ => ?_)
    (Multiset.zero_le _)
  induction released with
  | nil => exact .pure fun _ hs => hs
  | cons bytes rest ih => exact (dispatchReleased_triple src bytes).bind fun _ => ih

theorem admitItem_keeps (src : Nat) (data : RouterItem S) :
    Keeps (Reaches B base hand out fresh) (admitItem B src data) := by
  refine .bind .read fun s => .bind (.of _) fun _ => .bind (.of _) fun id => ?_
  cases id with
  | none => exact .pure ()
  | some packetId => exact changeTable_keeps _

/-- Behind the hop part the item and the frames it released are at hand. -/
theorem receiveHop_triple (item : RelayRxItem S) :
    Triple (Reaches B base {(item.src, item.data.relayed B)} out 0)
      (onInner fun st => st.receiveHop B w.receiving item)
      (fun released s => match released with
        | none => s.Settled B base out
        | some released => s.Reaches B base
            ((item.src, item.data.relayed B) ::ₘ RelayInner.frameItems B item.src released) out 0)
      (Settled B base out) := by
  intro s hs
  have hhop := @RelayInner.receiveHop_hopped B S w.receiving s.inner item
  have hsettled : (⟨(s.inner.receiveHop B w.receiving item).1, s.table, s.events⟩ :
      RelayState S).Settled B base out := by
    refine hs.moved hhop.toTends ?_ (fun port => add_le_add le_rfl (hhop.leaving port)) s.table
    rw [zero_add, Multiset.singleton_add]
    exact hhop.waiting
  refine ⟨fun released hresult => ?_, fun _ _ => hsettled⟩
  cases released with
  | none => exact hsettled
  | some released =>
    refine hs.moved hhop.toTends ?_ (fun port => add_le_add le_rfl (hhop.leaving port)) s.table
    rw [Multiset.cons_add, Multiset.singleton_add]
    exact Multiset.cons_le_cons _ (hhop.released released hresult)

theorem processRxQueueItem_triple (item : RelayRxItem S) :
    Triple (Reaches B base {(item.src, item.data.relayed B)} out 0)
      (processRxQueueItem B w item) (fun _ => Settled B base out) (Settled B base out) := by
  refine (stops (admitItem_keeps item.src item.data)).bind fun _ => ?_
  refine (receiveHop_triple item).bind fun released => ?_
  cases released with
  | none => exact .pure fun _ hs => hs
  | some released => exact handOver_triple item.src item.data released

theorem receiveOne_keeps : Keeps (Settled B base out) (receiveOne B w) := by
  intro s hs
  unfold receiveOne
  cases hpop : s.inner.rxQueue.popFront (RelayRxItem.byteCost B) with
  | none => exact hs
  | some popped =>
    obtain ⟨item, rest⟩ := popped
    refine (processRxQueueItem_triple item).run ?_
    refine hs.moved (.of_moves (.loseRx s.inner (.popFront hpop))) ?_ (fun _ => le_rfl) s.table
    rw [zero_add, Multiset.singleton_add, RelayInner.popRx_waiting hpop]

theorem rxFromSide_keeps (src : Nat) (data : RouterItem S) :
    Keeps (Settled B base out) (rxFromSide B src data) := by
  have hreceived : Triple (Settled B base out) (record (.received src data))
      (fun _ => Reaches B base {(src, data.relayed B)} out 0) (Settled B base out) :=
    .of_outcome fun _ hs => .inl ⟨_, _, rfl, hs.received src data⟩
  refine Triple.keeps (hreceived.bind fun _ => ?_)
  refine (stops .read).bind fun s => (of_triple _).bind fun _ => (of_triple _).bind fun priority => ?_
  have hpush : ∀ s : RelayState S, s.Reaches B base {(src, data.relayed B)} out 0 →
      (onInner (fun st => st.pushRx B ⟨src, data, priority⟩) s).1.Settled B base out := by
    intro s hs
    refine hs.moved (.of_moves (.pushRx s.inner _)) ?_ (fun port => ?_) s.table
    · rw [zero_add, Multiset.singleton_add]
      exact RelayInner.pushRx_waiting_le s.inner _
    · exact add_le_add le_rfl (RelayInner.pushRx_leaving_le s.inner _ port)
  exact fun s hs => ⟨fun _ _ => hpush s hs, fun _ _ => hpush s hs⟩

end Receive

section Send

/-- Whatever a forwarder may have shown before `s`, it may show `s'` next. -/
def Forwards (B : Build) (s s' : RelayState S) : Prop :=
  ∀ base out, s.Settled B base out → s'.Settled B base out

/-- A wire length that cannot be had is no busy side. -/
theorem sampled_not_busy {tx : SideTx S} {side : Nat} {data : RouterItem S} {table : RelayTable S}
    {e : Stop} (h : sampled B w tx side data table = .error e) : isSideTxBusy e = false := by
  cases data with
  | serialized bytes => cases h
  | packet pkt =>
    cases e with
    | panic what => rfl
    | err e =>
      exfalso
      refine NeverErrs.bind (NeverErrs.bind ?_ fun _ => .ok _) (fun _ => .ok _) e h
      unfold serializePacket
      split
      · exact serializePacketInner_neverErrs B pkt _
      · exact serializePacketInner_neverErrs B pkt _

theorem sendTxItem_quiet (turn : RelayTurn S) (item : RelayTxItem S) (side : Side)
    (st : RelayInner S) : RelayInner.Quiet B st (RelayInner.sendTxItem B turn item side st).1 := by
  unfold RelayInner.sendTxItem
  split
  · exact .refl st
  · split
    · split
      · exact .other rfl rfl rfl rfl
      · split
        · exact .refl st
        · exact .refl st
        · exact .refl st
    · exact .refl st

/-- A taken copy is gone; one that a busy side turned away is still at hand. -/
theorem sendTxItem_spec {item : RelayTxItem S} {side : Side} {s : RelayState S}
    (hreact : ∀ side wire t, Forwards B t (w.react side wire t))
    (hs : s.Settled B base (withItem item out)) :
    (sendTxItem B w item side s).1.Settled B base out ∧
      ∀ e, (sendTxItem B w item side s).2 = .error e → isSideTxBusy e = true →
        (sendTxItem B w item side s).1.Settled B base (withItem item out) := by
  have hdrop : ∀ t : RelayState S, t.Settled B base (withItem item out) → t.Settled B base out :=
    fun t ht => ht.weaken le_rfl (fun _ => Multiset.le_add_left _ _) le_rfl
  have hquiet := sendTxItem_quiet (B := B)
    (w.turn s.table.toRoutingTable (w.sideTx s.events.length item.dst)) item side s.inner
  have hafter := hs.quiet hquiet s.table
  unfold sendTxItem
  dsimp only
  generalize RelayInner.sendTxItem B
    (w.turn s.table.toRoutingTable (w.sideTx s.events.length item.dst)) item side s.inner = r
    at hafter
  obtain ⟨st, result⟩ := r
  have hfaithful : ∀ offer, s.inner.reached B w.now (w.sideTx s.events.length item.dst)
      s.table.toRoutingTable item side = some offer →
      item.src ≠ some item.dst ∧ item.data.Conveys B offer.2 :=
    fun offer hoffer => ⟨RelayInner.reached_turned hoffer, RelayInner.reached_conveys hoffer⟩
  generalize s.inner.reached B w.now (w.sideTx s.events.length item.dst) s.table.toRoutingTable
    item side = reached at hfaithful
  cases result with
  | error e =>
    cases reached with
    | none => exact ⟨hdrop _ hafter, fun _ _ _ => hafter⟩
    | some offer =>
      have haside : RelayEvent.passage B (.sent item.src item.dst item.data offer.2 false) =
          .aside := by
        cases item.src <;> rfl
      have hreacted := hreact item.dst offer.2 _ _ _ (hafter.skipped haside (hfaithful offer rfl))
      exact ⟨hdrop _ hreacted, fun _ _ _ => hreacted⟩
  | ok sent =>
    cases sent with
    | false => exact ⟨hdrop _ hafter, fun _ he => nomatch he⟩
    | true =>
      cases reached with
      | none => exact ⟨hdrop _ hafter, fun _ he => nomatch he⟩
      | some offer =>
        have hgave := hafter.gave (hfaithful offer rfl)
        dsimp only at hgave ⊢
        cases hsample : sampled B w (w.sideTx s.events.length item.dst) item.dst offer.1 s.table with
        | error e =>
          refine ⟨hgave, fun e' he hbusy => ?_⟩
          obtain rfl := Except.error.inj he
          rw [sampled_not_busy hsample] at hbusy
          cases hbusy
        | ok table =>
          exact ⟨hreact item.dst offer.2 _ _ _ (hgave.retable table), fun _ he => nomatch he⟩

/-- A send takes a copy or puts it back. -/
theorem sendOrPutBack_settled {item : RelayTxItem S} {side : Side} {s : RelayState S}
    (hreact : ∀ side wire t, Forwards B t (w.react side wire t))
    (hs : s.Settled B base (withItem item out)) :
    (sendOrPutBack B w item side s).1.Settled B base out := by
  obtain ⟨hsent, hbusy⟩ := @sendTxItem_spec B S w base out item side s hreact hs
  unfold sendOrPutBack
  generalize sendTxItem B w item side s = r at hsent hbusy
  obtain ⟨t, e | sent⟩ := r
  · dsimp only
    split
    · rename_i he
      have ht := hbusy e rfl he
      unfold onInner RelayInner.putBack
      cases itemPriority B item.data with
      | error e => exact hsent
      | ok priority =>
        refine ht.moved (.of_moves (.pushTx t.inner { item with priority := priority })) ?_
          (fun port => ?_) t.table
        · exact add_le_add le_rfl (RelayInner.pushTx_waiting_le t.inner _)
        · have hpush := RelayInner.pushTx_leaving_le (B := B) t.inner
            { item with priority := priority } port
          rw [withItem, add_right_comm, add_comm _ (out port)]
          exact add_le_add le_rfl hpush
    · exact hsent
  · exact hsent

/-- A popped item is at hand, or lost with its side. -/
theorem popReadyTxItem_triple :
    Triple (Settled B base out) (onInner (RelayInner.popReadyTxItem B))
      (fun popped s => match popped with
        | none => s.Settled B base out
        | some (item, _) => s.Settled B base (withItem item out)) (Settled B base out) := by
  refine .of_outcome fun s hs => ?_
  unfold onInner RelayInner.popReadyTxItem
  cases hpop : s.inner.txQueue.popFront (RelayTxItem.byteCost B) with
  | none => exact .inl ⟨none, _, rfl, hs⟩
  | some popped =>
    obtain ⟨item, rest⟩ := popped
    have hheld : (⟨{ s.inner with txQueue := rest }, s.table, s.events⟩ : RelayState S).Settled B
        base (withItem item out) := by
      refine hs.moved (.of_moves (.loseTx s.inner (.popFront hpop))) le_rfl (fun port => ?_) s.table
      rw [RelayInner.popTx_leaving hpop, withItem, add_right_comm, add_comm _ (out port)]
    refine .inl ⟨_, _, rfl, ?_⟩
    cases s.inner.sides[item.dst]?.join with
    | none => exact hheld.weaken le_rfl (fun _ => Multiset.le_add_left _ _) le_rfl
    | some side => exact hheld

theorem processReplayQueueItem_keeps (hreact : ∀ side wire t, Forwards B t (w.react side wire t)) :
    Keeps (Settled B base out) (processReplayQueueItem B w) := by
  intro s hs
  unfold processReplayQueueItem
  split
  · exact hs
  · rename_i item hitem
    dsimp only
    have hquiet := RelayInner.Quiet.processReplayQueueItem (B := B)
      (w.sideTx s.events.length item.dst) s.inner
    split
    · exact hreact _ _ _ _ _ ((hs.quiet hquiet _).skipped rfl trivial)
    · exact hs.quiet hquiet _

theorem txTurn_keeps (hreact : ∀ side wire t, Forwards B t (w.react side wire t)) :
    Keeps (Settled B base out) (txTurn B w) := by
  refine .bind (onInner_keeps fun st => .processReliableTimeouts w.now st) fun _ => ?_
  refine .bind (processReplayQueueItem_keeps hreact) fun replayed => .ite (.pure ()) ?_
  refine (popReadyTxItem_triple.bind fun popped => ?_).keeps
  cases popped with
  | none => exact .pure fun _ hs => hs
  | some popped =>
    exact fun s hs => ⟨fun _ _ => sendOrPutBack_settled hreact hs,
      fun _ _ => sendOrPutBack_settled hreact hs⟩

theorem sendOne_keeps (hreact : ∀ side wire t, Forwards B t (w.react side wire t)) :
    Keeps (Settled B base out) (sendOne B w) := by
  refine (popReadyTxItem_triple.bind fun popped => ?_).keeps
  cases popped with
  | none => exact .pure fun _ hs => hs
  | some popped =>
    intro s hs
    have hsent := (@sendTxItem_spec B S w base out popped.1 popped.2 s hreact hs).1
    rw [← Program.fst_bind_pure (sendTxItem B w popped.1 popped.2) (fun _ => ()) s] at hsent
    exact ⟨fun _ _ => hsent, fun _ _ => hsent⟩

theorem allTurn_keeps (hreact : ∀ side wire t, Forwards B t (w.react side wire t)) (timeUp : Bool) :
    Keeps (Settled B base out) (allTurn B w timeUp) := by
  refine .bind (onInner_keeps fun st => .processReliableTimeouts w.now st) fun _ => ?_
  refine .bind receiveOne_keeps fun _ => .ite (.pure ()) ?_
  exact .bind (processReplayQueueItem_keeps hreact) fun _ => sendOne_keeps hreact

end Send

section Calls

theorem changeInner_keeps {change : RelayInner S → Outcome (RelayInner S)}
    (hquiet : ∀ st st', change st = .ok st' → RelayInner.Quiet B st st') :
    Keeps (Reaches B base hand out fresh) (changeInner change) := by
  intro s hs
  unfold changeInner
  cases hchange : change s.inner with
  | error e => exact hs
  | ok inner => exact hs.quiet (hquiet s.inner inner hchange) s.table

theorem setRule_keeps (src dst : Option Nat) (set : RoutingTable S → RoutingTable S) :
    Keeps (Reaches B base hand out fresh) (setRule src dst set) :=
  .bind .read fun _ => .bind (.of _) fun _ => changeTable_keeps _

theorem queueDiscoveryAnnounce_keeps (dst : Nat) (pkt : Packet S) :
    Keeps (Reaches B base hand out fresh) (queueDiscoveryAnnounce B dst pkt) :=
  .bind (.of _) fun _ => onInner_keeps fun st => .pushTx st rfl

end Calls
end RelayProgram

open RelayProgram in
/-- Every call is steps of the forwarder. -/
theorem RelayCall.run_forwards {B : Build} {S : Schema} {w : RelayWorld S}
    (hreact : ∀ side wire t, Forwards B t (w.react side wire t)) (call : RelayCall S)
    (s : RelayState S) : Forwards B s (call.run B w s).1 := by
  intro base out
  cases call with
  | rxFromSide src data => exact rxFromSide_keeps src data s
  | processRx => exact receiveOne_keeps s
  | processTx => exact txTurn_keeps hreact s
  | processAll timeUp => exact allTurn_keeps hreact timeUp s
  | pruneDiscoveryRoutes =>
    exact onInner_keeps (fun st => .routes (.one (.prune st.stores w.now))) s
  | reconcileEndToEndAckedDestinations => exact fun hs => hs.retable _
  | fitDiscoveryBudget => exact onInner_keeps (fun st => .fitDiscoveryBudget st) s
  | queueDiscoveryAnnounce dst pkt => exact queueDiscoveryAnnounce_keeps dst pkt s
  | clearQueues => exact onInner_keeps (fun st => .clearQueues st) s
  | clearRxQueue => exact onInner_keeps (fun st => .clearRxQueue st) s
  | clearTxQueue => exact onInner_keeps (fun st => .clearTxQueue st) s
  | addSide side => exact onInner_keeps (fun st => .other rfl rfl rfl rfl) s
  | removeSide side =>
    exact Program.Keeps.bind (changeInner_keeps fun _ _ h => .removeSide h)
      (fun _ => changeTable_keeps _) s
  | setSideIngressEnabled side enabled =>
    exact changeInner_keeps (fun _ _ h => .setSideIngressEnabled h) s
  | setSideEgressEnabled side enabled =>
    exact changeInner_keeps (fun _ _ h => .setSideEgressEnabled h) s
  | setSourceRouteMode src mode => exact setRule_keeps _ _ _ s
  | setRouteWeight key weight => exact setRule_keeps _ _ _ s
  | setRoutePriority key priority => exact setRule_keeps _ _ _ s
  | setRoute key enabled => exact setRule_keeps _ _ _ s
  | setTypedRoute key enabled => exact setRule_keeps _ _ _ s

/-- So is every run. -/
theorem RelayRun.forwards {B : Build} {S : Schema} {n : Nat} {s s' : RelayState S}
    (hrun : RelayRun B n s s') : RelayProgram.Forwards B s s' := by
  refine Layered.relates (fun _ _ _ hs => hs) (fun h h' base out hs => h' base out (h base out hs))
    ?_ hrun
  rintro r s s' hr ⟨w, call, hreact, rfl⟩
  exact call.run_forwards (fun side wire t => hr _ _ (hreact side wire t)) s

/-- A relay as `new` makes it shows nothing. -/
theorem RelayState.shows_initial {B : Build} {S : Schema} {inner : RelayInner S}
    (hnew : RelayInner.new B = .ok inner) :
    (RelayState.initial inner).Shows B 0 (fun _ => 0) 0 Forwarder.initial := by
  have hkept := RelayInner.kept_new hnew
  obtain ⟨rx, hrx, hnew⟩ := bind_eq_ok.mp hnew
  obtain ⟨tx, htx, hnew⟩ := bind_eq_ok.mp hnew
  obtain ⟨replay, -, hnew⟩ := bind_eq_ok.mp hnew
  obtain ⟨recent, hrecent, hnew⟩ := bind_eq_ok.mp hnew
  obtain rfl := Except.ok.inj hnew
  have hrxq := (BoundedDeque.new_eq_ok hrx).1
  have htxq := (BoundedDeque.new_eq_ok htx).1
  have hrecentq := (BoundedDeque.new_eq_ok hrecent).1
  refine ⟨rfl, ?_, fun port => ?_, rfl, hkept, fun _ => hrecentq.symm, fun _ => .new hrecent,
    fun _ h => nomatch h⟩
  · simp [RelayInner.waiting, RelayInner.stores, initial, hrxq, RxStreams.frames_empty,
      Forwarder.initial]
  · simp [RelayInner.leaving, RelayInner.stores, initial, htxq, Forwarder.initial]

end Sedsprintf
