import Sedsprintf.Router.Dispatch
import Sedsprintf.Router.Moves

/-!
# What handlers, sends and error packets do to a router

Calling the local handlers of a packet, sending to sides and sending the error packet of a
failed callback are made of a few effects. What they all keep, these programs keep; where a
callback fails for good the program stops, and `stop` may ask for less there.
-/
namespace Sedsprintf

open Lib

section Plans
variable {B : Build} {S : Schema} {env : RoutingEnv S} {st : RouterInner S}
  {table table' : RoutingTable S} {data : RouterItem S} {exclude : Option Nat} {chosen : List Nat}

theorem RouterInner.sideLive_of_routeAllowed {src : Option Nat} {ty : Option S.DataType} {dst : Nat}
    (h : st.routeAllowed table src ty dst = true) : st.sideLive dst = true := by
  simp only [RouterInner.routeAllowed, RoutingTable.routeAllowedBy, RoutingTable.sidesOpen,
    Bool.and_eq_true] at h
  exact h.1.1.1

/-- Whatever is routed, a plan holds live sides only and moves at most the cursor of the
source. -/
theorem RouterInner.remoteSidePlan_live
    (h : st.remoteSidePlan B env table data exclude = .ok (table', chosen)) :
    (∀ side ∈ chosen, st.sideLive side = true) ∧
      (table' = table ∨ table' = table.advance exclude) := by
  have hselect : ∀ {targets : List Nat} {origin : RouteSelectionOrigin} {ty : S.DataType}
      {restrict : Bool}, RoutingTable.Sound st.sides
        (fun side => st.routeAllowed table exclude (some ty) side) restrict targets →
      table.applyRouteSelection B exclude targets origin = .ok (table', chosen) →
      (∀ side ∈ chosen, st.sideLive side = true) ∧
        (table' = table ∨ table' = table.advance exclude) := by
    intro targets origin ty restrict hsound hchosen
    refine ⟨fun side hside => ?_, (RoutingTable.applyRouteSelection_selects hchosen).table_eq⟩
    exact sideLive_of_routeAllowed ((hsound.select hchosen).allowed side hside)
  obtain ⟨⟨eps, ty⟩, -, h⟩ := bind_eq_ok.mp h
  obtain ⟨preferred, -, h⟩ := bind_eq_ok.mp h
  dsimp only at h
  split at h
  · exact hselect .eligible h
  · obtain ⟨source, -, h⟩ := bind_eq_ok.mp h
    cases preferred with
    | none => exact hselect (planTargets_sound eps ty source) h
    | some packetId =>
      obtain ⟨rfl, rfl⟩ := Prod.mk.inj (Except.ok.inj h)
      refine ⟨fun side hside => ?_, .inl rfl⟩
      have hfilter := Option.mem_toList.mp hside
      exact sideLive_of_routeAllowed (Option.filter_eq_some_iff.mp hfilter).2

end Plans

section Effects
variable {S : Schema}

/-- The handler returns `Ok` on the item within its retries, at some moment. -/
def RouterWorld.Answers (B : Build) (w : RouterWorld S) (handler : Nat) (data : RouterItem S) :
    Prop :=
  ∃ s, (RouterProgram.retryHandler w handler data B.maxHandlerRetries 0 none s).2 = .ok (.ok ())

/-- One such effect. `plans` says for which sources routing plans are made and followed. -/
inductive Effect (B : Build) (w : RouterWorld S) (plans : Option Nat → Prop) :
    RouterState S → RouterState S → Prop
  | handled (s : RouterState S) (handler : Nat) (data : RouterItem S) {ok : Bool}
      (hok : ok = true → w.Answers B handler data) :
      Effect B w plans s { s with events := s.events ++ [.handled handler data ok] }
  | advance (s : RouterState S) {src : Option Nat} (hsrc : plans src) :
      Effect B w plans s { s with table := s.table.advance src }
  | forwarded (s : RouterState S) {src : Option Nat} (hsrc : plans src) (data : RouterItem S)
      (sides : List Nat) :
      Effect B w plans s { s with events := s.events ++ [.forwarded src data sides] }
  | push (s : RouterState S) (queued : TxQueued S) :
      Effect B w plans s { s with inner := (s.inner.pushTransmit B queued).1 }
  | note (s : RouterState S) (data : RouterItem S) :
      Effect B w plans s { s with inner := (s.inner.isDuplicatePkt B data).1 }
  | remembered (s : RouterState S) (packetId : UInt64) :
      Effect B w plans s { s with events := s.events ++ [.remembered packetId] }
  | forget (s : RouterState S) (data : RouterItem S) :
      Effect B w plans s { s with inner := (s.inner.removePktId B data).1 }
  | track (s : RouterState S) {packetId : UInt64} {data : RouterItem S}
      {destinations : OrdMap UInt64 Nat} (hid : RouterInner.getHash B data = .ok packetId)
      (hexpected : s.inner.expectedEndToEndDestinations B s.table w.now data = .ok destinations) :
      Effect B w plans s { s with
        inner := s.inner.registerEndToEndReliableTx B packetId data destinations w.now
        events := s.events ++ [.tracked packetId data destinations (s.view w)] }
  | transmit (s : RouterState S) {side : Nat} (hlive : s.inner.sideLive side = true)
      (streams : TxStreams S) (stats : OrdMap Nat AdaptiveRouteStats) :
      Effect B w plans s ⟨{ s.inner with reliableTx := streams },
        { s.table with adaptiveRouteStats := stats }, s.events ++ [.transmitted side true]⟩
  | react (s : RouterState S) (callback : Callback S) :
      Effect B w plans s (w.react callback s)

/-- Those that neither queue nor send. -/
inductive LocalEffect (B : Build) (w : RouterWorld S) (plans : Option Nat → Prop) :
    RouterState S → RouterState S → Prop
  | handled (s : RouterState S) (handler : Nat) (data : RouterItem S) {ok : Bool}
      (hok : ok = true → w.Answers B handler data) :
      LocalEffect B w plans s { s with events := s.events ++ [.handled handler data ok] }
  | advance (s : RouterState S) {src : Option Nat} (hsrc : plans src) :
      LocalEffect B w plans s { s with table := s.table.advance src }
  | forwarded (s : RouterState S) {src : Option Nat} (hsrc : plans src) (data : RouterItem S)
      (sides : List Nat) :
      LocalEffect B w plans s { s with events := s.events ++ [.forwarded src data sides] }
  | note (s : RouterState S) (data : RouterItem S) :
      LocalEffect B w plans s { s with inner := (s.inner.isDuplicatePkt B data).1 }
  | remembered (s : RouterState S) (packetId : UInt64) :
      LocalEffect B w plans s { s with events := s.events ++ [.remembered packetId] }
  | forget (s : RouterState S) (data : RouterItem S) :
      LocalEffect B w plans s { s with inner := (s.inner.removePktId B data).1 }
  | track (s : RouterState S) {packetId : UInt64} {data : RouterItem S}
      {destinations : OrdMap UInt64 Nat} (hid : RouterInner.getHash B data = .ok packetId)
      (hexpected : s.inner.expectedEndToEndDestinations B s.table w.now data = .ok destinations) :
      LocalEffect B w plans s { s with
        inner := s.inner.registerEndToEndReliableTx B packetId data destinations w.now
        events := s.events ++ [.tracked packetId data destinations (s.view w)] }
  | react (s : RouterState S) (callback : Callback S) :
      LocalEffect B w plans s (w.react callback s)

theorem LocalEffect.effect {B : Build} {w : RouterWorld S} {plans : Option Nat → Prop}
    {s s' : RouterState S} (h : LocalEffect B w plans s s') : Effect B w plans s s' := by
  cases h with
  | handled handler data hok => exact .handled s handler data hok
  | advance hsrc => exact .advance s hsrc
  | forwarded hsrc data sides => exact .forwarded s hsrc data sides
  | note data => exact .note s data
  | remembered packetId => exact .remembered s packetId
  | forget data => exact .forget s data
  | track hid hexpected => exact .track s hid hexpected
  | react callback => exact .react s callback

/-- TX callbacks do not reconfigure sides. -/
def RouterWorld.KeepsSides (w : RouterWorld S) : Prop :=
  ∀ side data s, (w.react (.side side data) s).inner.sides = s.inner.sides

/-- `inv` holds while a program runs and `stop` where it stops; an error packet is sent on
the way to a stop. -/
structure Guards (B : Build) (w : RouterWorld S) (report : Packet S → RouterProgram S Unit)
    (plans : Option Nat → Prop) (inv stop : RouterState S → Prop) : Prop where
  keeps : ∀ {s s'}, Effect B w plans s s' → inv s → inv s'
  fails : ∀ {s s'}, Effect B w plans s s' → stop s → stop s'
  le : ∀ s, inv s → stop s
  report : ∀ pkt, Program.Keeps stop (report pkt)
  sides : w.KeepsSides

/-- What the local handlers need of `Guards`. -/
structure LocalGuards (B : Build) (w : RouterWorld S) (report : Packet S → RouterProgram S Unit)
    (plans : Option Nat → Prop) (inv stop : RouterState S → Prop) : Prop where
  keeps : ∀ {s s'}, LocalEffect B w plans s s' → inv s → inv s'
  fails : ∀ {s s'}, LocalEffect B w plans s s' → stop s → stop s'
  le : ∀ s, inv s → stop s
  report : ∀ pkt, Program.Keeps stop (report pkt)

theorem Guards.locals {B : Build} {w : RouterWorld S} {report : Packet S → RouterProgram S Unit}
    {plans : Option Nat → Prop} {inv stop : RouterState S → Prop}
    (h : Guards B w report plans inv stop) : LocalGuards B w report plans inv stop where
  keeps heffect := h.keeps heffect.effect
  fails heffect := h.fails heffect.effect
  le := h.le
  report := h.report

end Effects

namespace RouterProgram
variable {S : Schema} {B : Build} {w : RouterWorld S} {report : Packet S → RouterProgram S Unit}
  {plans : Option Nat → Prop} {inv stop : RouterState S → Prop}

section Steps
variable (h : ∀ {s s'}, LocalEffect B w plans s s' → inv s → inv s')
include h

theorem keeps_handled (handler : Nat) (data : RouterItem S) {ok : Bool}
    (hok : ok = true → w.Answers B handler data) :
    Program.Keeps inv (record (.handled handler data ok)) :=
  fun s hs => h (.handled s handler data hok) hs

theorem keeps_forwarded {src : Option Nat} (hsrc : plans src) (data : RouterItem S)
    (sides : List Nat) : Program.Keeps inv (record (.forwarded src data sides)) :=
  fun s hs => h (.forwarded s hsrc data sides) hs

theorem keeps_removePktId (data : RouterItem S) :
    Program.Keeps inv (onInner fun st => st.removePktId B data) :=
  fun s hs => h (.forget s data) hs

theorem keeps_isDuplicatePkt (data : RouterItem S) :
    Program.Keeps inv (isDuplicatePkt B data) := by
  refine Program.Keeps.bind (fun s hs => h (.note s data) hs) fun known => .ite (.pure true) ?_
  refine (Program.Keeps.of _).bind fun packetId => Program.Keeps.bind ?_ fun _ => .pure false
  exact fun s hs => h (.remembered s packetId) hs

theorem keeps_react (callback : Callback S) :
    Program.Keeps inv (Program.modify (w.react callback) : RouterProgram S Unit) :=
  fun s hs => h (.react s callback) hs

/-- A plan, with live sides. -/
theorem remoteSidePlan_triple {src : Option Nat} (hsrc : plans src) (data : RouterItem S)
    (hle : ∀ s, inv s → stop s) :
    Program.Triple inv (remoteSidePlan B w data src)
      (fun sides s => inv s ∧ ∀ side ∈ sides, s.inner.sideLive side = true) stop := by
  intro s hs
  unfold remoteSidePlan
  split
  · refine ⟨fun sides hsides => ?_, fun e he => hle s hs⟩
    cases hsides
  · rename_i table sides hplan
    obtain ⟨hlive, htable⟩ := RouterInner.remoteSidePlan_live hplan
    refine ⟨fun sides' hsides => ?_, fun e he => ?_⟩
    · obtain rfl := Except.ok.inj hsides
      refine ⟨?_, hlive⟩
      rcases htable with rfl | rfl
      · exact hs
      · exact h (.advance s hsrc) hs
    · cases he

theorem keeps_remoteSidePlan {src : Option Nat} (hsrc : plans src) (data : RouterItem S) :
    Program.Keeps inv (remoteSidePlan B w data src) :=
  ((remoteSidePlan_triple h hsrc data fun _ hs => hs).imp (fun _ hs => hs)
    (fun _ _ hs => hs.1) (fun _ hs => hs)).keeps

theorem keeps_shouldRouteRemote {src : Option Nat} (hsrc : plans src) (data : RouterItem S) :
    Program.Keeps inv (shouldRouteRemote B w data src) :=
  (keeps_remoteSidePlan h hsrc data).bind fun _ => .pure _

theorem keeps_registerEndToEndReliableTx (data : RouterItem S) :
    Program.Keeps inv (registerEndToEndReliableTx B w data) := by
  intro s hs
  unfold registerEndToEndReliableTx
  split
  · exact hs
  · exact hs
  · rename_i hid hexpected
    exact h (.track s hid hexpected) hs

theorem keeps_trackEndToEnd (data : RouterItem S) (ty : S.DataType) (sides : List Nat)
    (ignoreLocal : Bool) : Program.Keeps inv (trackEndToEnd B w data ty sides ignoreLocal) :=
  Program.Keeps.read.bind fun _ => .ite (keeps_registerEndToEndReliableTx h data) (.pure ())

theorem keeps_retryHandler (handler : Nat) (data : RouterItem S) (times call : Nat)
    (last : Option TelemetryError) :
    Program.Keeps inv (retryHandler w handler data times call last) := by
  induction times generalizing call last with
  | zero =>
    cases last with
    | none => exact .of _
    | some e => exact .pure _
  | succ times ih =>
    refine Program.Keeps.read.bind fun s => (keeps_react h _).bind fun _ => ?_
    cases w.answer s.events.length handler data call with
    | ok a => exact .pure _
    | error e => exact ih (call + 1) (some e)

end Steps

section Pushes
variable (h : ∀ {s s'}, Effect B w plans s s' → inv s → inv s')
include h

theorem keeps_pushTransmit (queued : TxQueued S) :
    Program.Keeps inv (onInner fun st => st.pushTransmit B queued) :=
  fun s hs => h (.push s queued) hs

theorem keeps_txQueueItemWithFlags (item : RouterTxItem S) (ignoreLocal : Bool) :
    Program.Keeps inv (txQueueItemWithFlags B item ignoreLocal) := by
  intro s hs
  unfold txQueueItemWithFlags onInner RouterInner.txQueueItemWithFlags
  dsimp only
  split
  · exact hs
  · exact h (.push s _) hs

end Pushes

section Handlers
variable (h : LocalGuards B w report plans inv stop)
include h

/-- The error packet goes out on the way to a stop. -/
theorem keeps_emitError (msg : String) (recipients : List S.DataEndpoint) (sender : String)
    (timestamp : UInt64) : Program.Keeps stop (emitError B w report msg recipients sender timestamp) :=
  .ite (.pure ()) ((Program.Keeps.of _).bind fun pkt => h.report pkt)

theorem keeps_reportHandler (pkt : Option (Packet S)) (env : Option (TelemetryEnvelope S))
    (dest : S.DataEndpoint) (e : TelemetryError) :
    Program.Keeps stop (reportHandler B w report pkt env dest e) := by
  unfold reportHandler
  split
  · exact keeps_emitError h _ _ _ _
  · exact keeps_emitError h _ _ _ _
  · exact .pure ()

/-- A handler that fails for good stops. -/
theorem withRetries_triple (handler : Nat) (dest : S.DataEndpoint) (data input : RouterItem S)
    (pkt : Option (Packet S)) (env : Option (TelemetryEnvelope S)) :
    Program.Triple inv (withRetries B w report handler dest data input pkt env) (fun _ => inv)
      stop := by
  have hretry : Program.Triple inv (retryHandler w handler input B.maxHandlerRetries 0 none)
      (fun result s => inv s ∧ (result = .ok () → w.Answers B handler input)) stop := by
    intro s hs
    have hkept := keeps_retryHandler h.keeps handler input B.maxHandlerRetries 0 none s hs
    refine ⟨fun result hresult => ⟨hkept, fun hanswer => ⟨s, ?_⟩⟩, fun _ _ => h.le _ hkept⟩
    rw [hresult, hanswer]
  refine hretry.bind fun result => ?_
  cases result with
  | ok a =>
    intro s hs
    exact ((keeps_handled h.keeps handler input fun _ => hs.2 rfl).triple_of_le h.le) s hs.1
  | error e =>
    have hreport : Program.Keeps stop (discard (reportHandler B w report pkt env dest e)) :=
      (keeps_reportHandler h pkt env dest e).attempt
    have hfailed : Program.Keeps stop (record (.handled handler input false)) :=
      keeps_handled h.fails handler input nofun
    refine Program.Triple.imp ?_ (fun s hs => h.le s hs.1) (fun _ _ hs => hs) fun _ hs => hs
    exact hfailed.triple.bind fun _ =>
      (keeps_removePktId h.fails data).triple.bind fun _ =>
      hreport.triple.bind fun _ => .error fun _ hs => hs

theorem callHandlerWithRetries_triple (handler : EndpointHandler S × Nat)
    (bytes : Option (List UInt8)) (pkt : Option (Packet S)) (env : Option (TelemetryEnvelope S)) :
    Program.Triple inv (callHandlerWithRetries B w report handler bytes pkt env) (fun _ => inv)
      stop := by
  unfold callHandlerWithRetries
  split
  · exact .pure fun _ hs => hs
  · exact withRetries_triple h _ _ _ _ _ _
  · exact withRetries_triple h _ _ _ _ _ _
  · exact .error h.le
  · exact withRetries_triple h _ _ _ _ _ _
  · exact .pure fun _ hs => hs

theorem callOnPacket_triple (pkt : Packet S) (bytes : Option (List UInt8))
    (handler : EndpointHandler S × Nat) :
    Program.Triple inv (callOnPacket B w report pkt bytes handler) (fun _ => inv) stop := by
  unfold callOnPacket
  split
  · exact callHandlerWithRetries_triple h _ _ _ _
  · exact (Program.Triple.of _ h.le).bind fun _ => callHandlerWithRetries_triple h _ _ _ _
  · exact callHandlerWithRetries_triple h _ _ _ _

theorem callOnBytes_triple (bytes : List UInt8) (env : TelemetryEnvelope S)
    (pkt : Option (Packet S)) (handler : EndpointHandler S × Nat) :
    Program.Triple inv (callOnBytes B w report bytes env pkt handler) (fun _ => inv) stop := by
  unfold callOnBytes
  split
  · exact callHandlerWithRetries_triple h _ _ _ _
  · exact callHandlerWithRetries_triple h _ _ _ _

theorem callAllOnBytes_triple {guarded : RouterProgram S Unit → RouterProgram S Unit}
    (hguarded : ∀ p, Program.Triple inv p (fun _ => inv) stop →
      Program.Triple inv (guarded p) (fun _ => inv) stop)
    (bytes : List UInt8) (env : TelemetryEnvelope S) (handlers : List (EndpointHandler S × Nat))
    (pkt : Option (Packet S)) :
    Program.Triple inv (callAllOnBytes B w report guarded bytes env handlers pkt) (fun _ => inv)
      stop := by
  induction handlers generalizing pkt with
  | nil => exact .pure fun _ hs => hs
  | cons handler rest ih =>
    exact (Program.Triple.of _ h.le).bind fun pkt =>
      (hguarded _ (callOnBytes_triple h bytes env pkt handler)).bind fun _ => ih pkt

omit h in
/-- The loop that drops its errors. -/
theorem keeps_callAllOnBytes (h : LocalGuards B w report plans inv inv) (bytes : List UInt8)
    (env : TelemetryEnvelope S) (handlers : List (EndpointHandler S × Nat))
    (pkt : Option (Packet S)) :
    Program.Keeps inv (callAllOnBytes B w report discard bytes env handlers pkt) :=
  (callAllOnBytes_triple h (fun _ hp => hp.keeps.attempt.triple) bytes env handlers pkt).keeps

theorem dispatchLocalForItem_triple (data : RouterItem S) :
    Program.Triple inv (dispatchLocalForItem B w report data) (fun _ => inv) stop := by
  cases data with
  | packet pkt =>
    refine (Program.Triple.of _ h.le).bind fun _ => .ite (.pure fun _ hs => hs) ?_
    exact (Program.Triple.of _ h.le).bind fun bytes =>
      .forEach fun handler _ => callOnPacket_triple h pkt bytes handler
  | serialized bytes =>
    refine (Program.Triple.of _ h.le).bind fun env => .ite (.pure fun _ hs => hs) ?_
    exact (Program.Triple.of _ h.le).bind fun pkt =>
      (callAllOnBytes_triple h (fun _ hp => hp) bytes env _ pkt).bind fun _ => .pure fun _ hs => hs

theorem localPass_triple (data : RouterItem S) (ignoreLocal : Bool) :
    Program.Triple inv (localPass B w report data ignoreLocal) (fun _ => inv) stop := by
  refine .ite (.pure fun _ hs => hs) ?_
  refine ((keeps_isDuplicatePkt h.keeps data).triple_of_le h.le).bind fun known => ?_
  refine .ite (.pure fun _ hs => hs) ((Program.Triple.of _ h.le).bind fun internal => ?_)
  exact .ite (.pure fun _ hs => hs)
    ((dispatchLocalForItem_triple h data).bind fun _ => .pure fun _ hs => hs)

end Handlers

section Sends
variable (h : Guards B w report plans inv stop)
include h

/-- A send to a live side; the sides stay as they are. -/
theorem keeps_sendReliableToSide (data : RouterItem S) {sides : List (Option Side)} {side : Nat}
    (hlive : (sides[side]?.join.any fun s => s.opts.egressEnabled) = true) :
    Program.Keeps (fun s => inv s ∧ s.inner.sides = sides) (sendReliableToSide B w side data) := by
  rintro s ⟨hs, hsides⟩
  have hopen : s.inner.sideLive side = true := by
    rw [RouterInner.sideLive, hsides]
    exact hlive
  have hsent : ∀ streams stats, inv ⟨{ s.inner with reliableTx := streams },
      { s.table with adaptiveRouteStats := stats },
      s.events ++ [.transmitted side (s.inner.sideLive side)]⟩ := by
    intro streams stats
    rw [hopen]
    exact h.keeps (.transmit s hopen streams stats) hs
  have hreact : ∀ s', inv s' → s'.inner.sides = s.inner.sides →
      inv (w.react (.side side data) s') ∧ (w.react (.side side data) s').inner.sides = sides :=
    fun s' hs' heq => ⟨h.keeps (.react s' _) hs', (h.sides side data s').trans (heq.trans hsides)⟩
  unfold sendReliableToSide
  dsimp only
  split
  · exact hreact _ (hsent _ _) rfl
  · split
    · exact ⟨hsent _ _, hsides⟩
    · rename_i length _
      cases length with
      | none => exact hreact _ (hsent _ _) rfl
      | some bytes => exact hreact _ (hsent _ _) rfl

theorem keeps_reportSend (data : RouterItem S) (e : TelemetryError) :
    Program.Keeps stop (reportSend B w report data e) := by
  unfold reportSend
  split
  · exact keeps_emitError h.locals _ _ _ _
  · split
    · exact keeps_emitError h.locals _ _ _ _
    · exact .pure ()
    · exact .of _

theorem trySend_triple (data : RouterItem S) {sides : List (Option Side)} {side : Nat}
    (hlive : (sides[side]?.join.any fun s => s.opts.egressEnabled) = true) :
    Program.Triple (fun s => inv s ∧ s.inner.sides = sides) (trySend B w report data side)
      (fun _ s => inv s ∧ s.inner.sides = sides) stop := by
  intro s hs
  have hsent := keeps_sendReliableToSide h data hlive s hs
  unfold trySend
  dsimp only
  generalize sendReliableToSide B w side data s = sent at hsent
  obtain ⟨s', (e | what) | ⟨⟨⟩⟩⟩ := sent
  · have hfailed : Program.Triple (fun s => inv s ∧ s.inner.sides = sides)
        (settleSend B w report data (.error (.err e)) : RouterProgram S Bool)
        (fun _ s => inv s ∧ s.inner.sides = sides) stop := by
      refine .ite (.pure fun _ hs => hs) ?_
      refine Program.Triple.imp ?_ (fun s hs => h.le s hs.1) (fun _ _ hs => hs) fun _ hs => hs
      have hreport : Program.Keeps stop (discard (reportSend B w report data e)) :=
        (keeps_reportSend h data e).attempt
      exact hreport.triple.bind fun _ => .error fun _ hs => hs
    exact hfailed s' hsent
  · refine ⟨fun a ha => ?_, fun _ _ => h.le _ hsent.1⟩
    cases ha
  · refine ⟨fun a ha => hsent, fun _ _ => h.le _ hsent.1⟩

theorem sendToSides_triple (data : RouterItem S) {sides : List (Option Side)} {targets : List Nat}
    (hlive : ∀ side ∈ targets, (sides[side]?.join.any fun s => s.opts.egressEnabled) = true) :
    Program.Triple (fun s => inv s ∧ s.inner.sides = sides) (sendToSides B w report data targets)
      (fun _ => inv) stop := by
  induction targets with
  | nil => exact .pure fun _ hs => hs.1
  | cons side rest ih =>
    refine (trySend_triple h data (hlive side List.mem_cons_self)).bind fun sent => .ite ?_ ?_
    · exact ih fun other hother => hlive other (List.mem_cons_of_mem _ hother)
    · have hqueued : Program.Keeps inv
          (Program.forEach (fun side => txQueueItemWithFlags B (.toSide none side data) true)
            (side :: rest)) := .forEach fun _ _ => keeps_txQueueItemWithFlags h.keeps _ _
      exact (hqueued.triple_of_le h.le).imp (fun _ hs => hs.1) (fun _ _ hs => hs) fun _ hs => hs

/-- The plan of a packet is followed while its sides are live. -/
theorem sendPlanned_triple (data : RouterItem S) {targets : List Nat} :
    Program.Triple (fun s => inv s ∧ ∀ side ∈ targets, s.inner.sideLive side = true)
      (sendToSides B w report data targets) (fun _ => inv) stop :=
  fun s hs => sendToSides_triple h data hs.2 s ⟨hs.1, rfl⟩

omit h in
theorem sides_registerEndToEndReliableTx (data : RouterItem S) (s : RouterState S) :
    (registerEndToEndReliableTx B w data s).1.inner.sides = s.inner.sides := by
  unfold registerEndToEndReliableTx
  split
  · rfl
  · rfl
  · rfl

omit h in
theorem sides_trackEndToEnd (data : RouterItem S) (ty : S.DataType) (targets : List Nat)
    (ignoreLocal : Bool) (s : RouterState S) :
    (trackEndToEnd B w data ty targets ignoreLocal s).1.inner.sides = s.inner.sides := by
  unfold trackEndToEnd
  rw [Program.read_bind_apply]
  split
  · exact sides_registerEndToEndReliableTx data s
  · rfl

/-- A packet is tracked and goes to the sides of its plan. -/
theorem sendTracked_triple (data : RouterItem S) (ty : S.DataType) (targets : List Nat)
    (ignoreLocal : Bool) :
    Program.Triple (fun s => inv s ∧ ∀ side ∈ targets, s.inner.sideLive side = true)
      (do
        trackEndToEnd B w data ty targets ignoreLocal
        sendToSides B w report data targets)
      (fun _ => inv) stop := by
  have hkeeps : Program.Keeps (fun s => inv s ∧ ∀ side ∈ targets, s.inner.sideLive side = true)
      (trackEndToEnd B w data ty targets ignoreLocal) := by
    intro s hs
    refine ⟨keeps_trackEndToEnd h.locals.keeps data ty targets ignoreLocal s hs.1, fun side hside => ?_⟩
    rw [RouterInner.sideLive, sides_trackEndToEnd]
    exact hs.2 side hside
  exact (hkeeps.triple_of_le fun s hs => h.le s hs.1).bind fun _ => sendPlanned_triple h data

theorem followPlan_triple (hnone : plans none) (data : RouterItem S) (ty : S.DataType)
    (targets : List Nat) (ignoreLocal : Bool) :
    Program.Triple (fun s => inv s ∧ ∀ side ∈ targets, s.inner.sideLive side = true)
      (do
        record (.forwarded none data targets)
        trackEndToEnd B w data ty targets ignoreLocal
        sendToSides B w report data targets)
      (fun _ => inv) stop := by
  have hkeeps : Program.Keeps (fun s => inv s ∧ ∀ side ∈ targets, s.inner.sideLive side = true)
      (record (.forwarded none data targets) : RouterProgram S Unit) :=
    fun s hs => ⟨keeps_forwarded h.locals.keeps hnone data targets s hs.1, hs.2⟩
  exact (hkeeps.triple_of_le fun s hs => h.le s hs.1).bind fun _ =>
    sendTracked_triple h data ty targets ignoreLocal

theorem txBroadcast_triple (hnone : plans none) (data : RouterItem S) (ignoreLocal : Bool) :
    Program.Triple inv (txBroadcast B w report data ignoreLocal) (fun _ => inv) stop := by
  refine (localPass_triple h.locals data ignoreLocal).bind fun fresh => .ite ?_ (.pure fun _ hs => hs)
  refine (Program.Triple.of _ h.le).bind fun _ => ?_
  refine ((keeps_shouldRouteRemote h.locals.keeps hnone data).triple_of_le h.le).bind fun remote => ?_
  refine .ite ((Program.Triple.of _ h.le).bind fun ty => ?_) (.pure fun _ hs => hs)
  exact (remoteSidePlan_triple h.locals.keeps hnone data h.le).bind fun targets =>
    followPlan_triple h hnone data ty targets ignoreLocal

theorem sendAllowed_triple (src : Option Nat) (dst : Nat) (data : RouterItem S) :
    Program.Triple inv (sendAllowed B w report src dst data) (fun _ => inv) stop := by
  refine (Program.Triple.of _ h.le).bind fun ty => ?_
  intro s hs
  rw [Program.read_bind_apply]
  split
  · rename_i hallowed
    have hlive := RouterInner.sideLive_of_routeAllowed hallowed
    refine Program.Triple.bind (trySend_triple h data hlive) (fun sent => ?_) s ⟨hs, rfl⟩
    refine .ite (.pure fun _ hs => hs.1) ?_
    exact ((keeps_txQueueItemWithFlags h.keeps _ _).triple_of_le h.le).imp (fun _ hs => hs.1)
      (fun _ _ hs => hs) fun _ hs => hs
  · exact Program.Triple.pure (fun _ hs => hs) s hs

theorem txToSide_triple (src : Option Nat) (dst : Nat) (data : RouterItem S) (ignoreLocal : Bool) :
    Program.Triple inv (txToSide B w report src dst data ignoreLocal) (fun _ => inv) stop :=
  (localPass_triple h.locals data ignoreLocal).bind fun _ =>
    .ite (sendAllowed_triple h src dst data) (.pure fun _ hs => hs)

end Sends

/-- An error packet does what a broadcast does, however deep the call. -/
theorem keeps_reportError (h : ∀ {s s'}, Effect B w plans s s' → inv s → inv s')
    (hsides : w.KeepsSides) (hnone : plans none) (depth : Nat) (pkt : Packet S) :
    Program.Keeps inv (reportError B w depth pkt) := by
  induction depth generalizing pkt with
  | zero => exact .of _
  | succ depth ih =>
    have hguards : Guards B w (reportError B w depth) plans inv inv :=
      ⟨h, h, fun _ hs => hs, ih, hsides⟩
    exact (txBroadcast_triple hguards hnone (.packet pkt) false).keeps

section Relaying
variable (h : Guards B w report plans inv inv)
include h

theorem keeps_enqueueToSides (data : RouterItem S) {exclude : Option Nat} (hsrc : plans exclude)
    (ignoreLocal : Bool) : Program.Keeps inv (enqueueToSides B w data exclude ignoreLocal) :=
  (keeps_remoteSidePlan h.locals.keeps hsrc data).bind fun sides =>
    (keeps_forwarded h.locals.keeps hsrc data sides).bind fun _ =>
    (Program.Keeps.of _).bind fun _ => .forEach fun _ _ => keeps_pushTransmit h.keeps _

theorem keeps_relaySend (data : RouterItem S) {src : Option Nat} (hsrc : plans src)
    (calledFromQueue : Bool) : Program.Keeps inv (relaySend B w report data src calledFromQueue) := by
  refine .ite (keeps_enqueueToSides h data hsrc true) ?_
  exact (keeps_remoteSidePlan h.locals.keeps hsrc data).bind fun sides =>
    (keeps_forwarded h.locals.keeps hsrc data sides).bind fun _ =>
    .forEach fun side _ => (txToSide_triple h src side data true).keeps

end Relaying

section Discards

/-- Behind `let _ = …` there is no `Err`. -/
theorem discard_ne_err (p : RouterProgram S Unit) (s : RouterState S) (e : TelemetryError) :
    (discard p s).2 ≠ .error (.err e) := by
  unfold discard Program.attempt
  generalize p s = r
  obtain ⟨s', (e' | what) | ⟨⟨⟩⟩⟩ := r
  · simp
  · simp
  · simp

theorem forEach_discard_ne_err {α : Type} (f : α → RouterProgram S Unit) (items : List α)
    (s : RouterState S) (e : TelemetryError) :
    (Program.forEach (fun a => discard (f a)) items s).2 ≠ .error (.err e) := by
  induction items generalizing s with
  | nil => simp [Program.forEach]
  | cons a rest ih =>
    have hfirst := discard_ne_err (f a) s e
    unfold Program.forEach
    generalize hrun : discard (f a) s = r at hfirst
    obtain ⟨s', e' | ⟨⟨⟩⟩⟩ := r
    · rw [Program.bind_apply_of_error hrun]
      exact hfirst
    · rw [Program.bind_apply_of_ok hrun]
      exact ih s'

end Discards
end RouterProgram
end Sedsprintf
