import Sedsprintf.Guarantees.Representation
import Sedsprintf.Router.Arrivals

/-!
# What an end-to-end acknowledgement says

A router acknowledges a reliable packet that has a local handler when the calls of its
handlers are over, whatever they returned, and once more for every duplicate. Whether a
handler took the packet is recorded nowhere; what is left of a failed call is that the id of
the packet is not remembered.
-/
namespace Sedsprintf

open Lib

section Answers
variable {B : Build} {S : Schema} {w : RouterWorld S} {handler : Nat} {input : RouterItem S}

/-- A handler succeeds or fails by what it is called with and by the number of the attempt. -/
def RouterWorld.Assigned (w : RouterWorld S) : Prop :=
  ∀ moment handler input call, w.answer moment handler input call = w.answer 0 handler input call

/-- One of the attempts succeeds. -/
def RouterWorld.Takes (B : Build) (w : RouterWorld S) (handler : Nat) (input : RouterItem S) :
    Prop :=
  ∃ call < B.maxHandlerRetries, w.answer 0 handler input call = .ok ()

theorem RouterProgram.retryHandler_eq_ok_iff (hassigned : w.Assigned) {times call : Nat}
    {last : Option TelemetryError} {t : RouterState S} :
    (retryHandler w handler input times call last t).2 = .ok (.ok ()) ↔
      ∃ n < times, w.answer 0 handler input (call + n) = .ok () := by
  induction times generalizing call last t with
  | zero =>
    refine iff_of_false ?_ (by simp)
    cases last with
    | none => exact nofun
    | some e => exact nofun
  | succ times ih =>
    simp only [retryHandler, Program.read_bind_apply, Program.modify_bind_apply,
      hassigned t.events.length]
    cases hanswer : w.answer 0 handler input call with
    | ok a => exact iff_of_true rfl ⟨0, by omega, hanswer⟩
    | error e =>
      refine ih.trans ⟨?_, ?_⟩
      · rintro ⟨n, hn, hok⟩
        exact ⟨n + 1, by omega, by rw [← hok]; congr 1; omega⟩
      · rintro ⟨n, hn, hok⟩
        cases n with
        | zero =>
          rw [Nat.add_zero, hanswer] at hok
          cases hok
        | succ n => exact ⟨n, by omega, by rw [← hok]; congr 1; omega⟩

theorem RouterWorld.Takes.answers (h : w.Takes B handler input) (hassigned : w.Assigned)
    (t : RouterState S) :
    (RouterProgram.retryHandler w handler input B.maxHandlerRetries 0 none t).2 = .ok (.ok ()) := by
  obtain ⟨call, hcall, hok⟩ := h
  exact (RouterProgram.retryHandler_eq_ok_iff hassigned).mpr ⟨call, hcall, by simpa using hok⟩

theorem RouterWorld.Answers.takes (h : w.Answers B handler input) (hassigned : w.Assigned) :
    w.Takes B handler input := by
  obtain ⟨t, hok⟩ := h
  obtain ⟨call, hcall, hok⟩ := (RouterProgram.retryHandler_eq_ok_iff hassigned).mp hok
  exact ⟨call, hcall, by simpa using hok⟩

end Answers

section Log
variable {B : Build} {S : Schema} {w : RouterWorld S} {p : Packet S} {bytes : List UInt8}
  {s s' s'' : RouterState S}

/-- What a handler for `p` is called with. -/
def handlerInput (p : Packet S) (bytes : List UInt8) : EndpointHandlerFn → RouterItem S
  | .packet => .packet p
  | .serialized => .serialized bytes

/-- A handler for one of the endpoints of `p` takes it. -/
def RouterWorld.TakesPacket (B : Build) (w : RouterWorld S) (p : Packet S) (bytes : List UInt8) :
    Prop :=
  ∃ h ∈ w.cfg.localHandlers (sortDedup p.endpoints),
    w.Takes B h.2 (handlerInput p bytes h.1.handler)

/-- A handler for one of the endpoints of `p` has returned `Ok` on it. -/
def Delivers (w : RouterWorld S) (p : Packet S) (bytes : List UInt8)
    (events : List (RouterEvent S)) : Prop :=
  ∃ h ∈ w.cfg.localHandlers (sortDedup p.endpoints),
    .handled h.2 (handlerInput p bytes h.1.handler) true ∈ events

theorem Delivers.append {events events' : List (RouterEvent S)} :
    Delivers w p bytes (events ++ events') ↔
      Delivers w p bytes events ∨ Delivers w p bytes events' := by
  constructor
  · rintro ⟨h, hmem, hevent⟩
    rcases List.mem_append.mp hevent with hevent | hevent
    · exact .inl ⟨h, hmem, hevent⟩
    · exact .inr ⟨h, hmem, hevent⟩
  · rintro (⟨h, hmem, hevent⟩ | ⟨h, hmem, hevent⟩)
    · exact ⟨h, hmem, List.mem_append_left _ hevent⟩
    · exact ⟨h, hmem, List.mem_append_right _ hevent⟩

/-- Between the two states `p` was not acknowledged, and delivered only if a handler takes it. -/
def RouterState.Unanswered (B : Build) (w : RouterWorld S) (p : Packet S) (bytes : List UInt8)
    (s s' : RouterState S) : Prop :=
  ∃ new, s'.events = s.events ++ new ∧ .acknowledged (p.packetId B) ∉ new ∧
    (Delivers w p bytes new → w.TakesPacket B p bytes)

namespace RouterState

theorem Unanswered.trans (h : Unanswered B w p bytes s s') (h' : Unanswered B w p bytes s' s'') :
    Unanswered B w p bytes s s'' := by
  obtain ⟨new, hevents, hack, hdelivers⟩ := h
  obtain ⟨new', hevents', hack', hdelivers'⟩ := h'
  refine ⟨new ++ new', by rw [hevents', hevents, List.append_assoc], by simp [hack, hack'], ?_⟩
  intro hboth
  rcases Delivers.append.mp hboth with hfirst | hlast
  · exact hdelivers hfirst
  · exact hdelivers' hlast

/-- One event that is neither an acknowledgement nor a success. -/
theorem Unanswered.event {event : RouterEvent S} (hevents : s'.events = s.events ++ [event])
    (hack : event ≠ .acknowledged (p.packetId B))
    (hhandled : ∀ handler data, event = .handled handler data true → w.Answers B handler data)
    (hassigned : w.Assigned) : Unanswered B w p bytes s s' := by
  refine ⟨[event], hevents, by simpa using hack.symm, ?_⟩
  rintro ⟨h, hmem, hevent⟩
  exact ⟨h, hmem, (hhandled _ _ (List.mem_singleton.mp hevent).symm).takes hassigned⟩

theorem Unanswered.quiet (hevents : s'.events = s.events) : Unanswered B w p bytes s s' := by
  refine ⟨[], by rw [hevents, List.append_nil], by simp, ?_⟩
  rintro ⟨h, -, hevent⟩
  cases hevent

theorem Unanswered.effect (hassigned : w.Assigned)
    (hreact : ∀ callback t, Unanswered B w p bytes t (w.react callback t))
    {plans : Option Nat → Prop} (heffect : Effect B w plans s s') :
    Unanswered B w p bytes s s' := by
  cases heffect with
  | handled handler data hok =>
    refine .event rfl nofun (fun handler' data' heq => ?_) hassigned
    obtain ⟨rfl, rfl, rfl⟩ := RouterEvent.handled.inj heq
    exact hok rfl
  | forwarded hsrc data sides => exact .event rfl nofun nofun hassigned
  | track hid hexpected => exact .event rfl nofun nofun hassigned
  | remembered packetId => exact .event rfl nofun nofun hassigned
  | transmit hlive streams stats => exact .event rfl nofun nofun hassigned
  | react callback => exact hreact callback s
  | _ => exact .quiet rfl

/-- `p` was delivered since, and not acknowledged before that. -/
def Answered (B : Build) (w : RouterWorld S) (p : Packet S) (bytes : List UInt8)
    (s s' : RouterState S) : Prop :=
  ∃ new more, s'.events = s.events ++ new ++ more ∧ .acknowledged (p.packetId B) ∉ new ∧
    Delivers w p bytes new

/-- `p` was acknowledged since, and not delivered before that. -/
def Vain (B : Build) (w : RouterWorld S) (p : Packet S) (bytes : List UInt8)
    (s s' : RouterState S) : Prop :=
  ∃ new more, s'.events = s.events ++ new ++ .acknowledged (p.packetId B) :: more ∧
    ¬Delivers w p bytes new

/-- Whatever happens then. -/
theorem Answered.grow (h : Answered B w p bytes s s') {more : List (RouterEvent S)}
    (hevents : s''.events = s'.events ++ more) : Answered B w p bytes s s'' := by
  obtain ⟨new, rest, heq, hack, hdelivers⟩ := h
  exact ⟨new, rest ++ more, by rw [hevents, heq]; simp, hack, hdelivers⟩

theorem Vain.grow (h : Vain B w p bytes s s') {more : List (RouterEvent S)}
    (hevents : s''.events = s'.events ++ more) : Vain B w p bytes s s'' := by
  obtain ⟨new, rest, heq, hdelivers⟩ := h
  exact ⟨new, rest ++ more, by rw [hevents, heq]; simp, hdelivers⟩

end RouterState

/-- The packet was delivered while its id was remembered, which it still is. -/
def RouterState.DeliveredInWindow (w : RouterWorld S) (p : Packet S) (bytes : List UInt8)
    (id : UInt64) (s : RouterState S) : Prop :=
  id ∈ s.inner.recentRx.q ∧ ∃ older newer, s.events = older ++ newer ∧ .remembered id ∉ newer ∧
    Delivers w p bytes newer

/-- Every acknowledgement of `p` that a reception queued has a delivery in front of it, in the
reception or earlier in the window. -/
def AckMeansDelivery (B : Build) (w : RouterWorld S) (p : Packet S) (bytes : List UInt8)
    (id : UInt64) (s s' : RouterState S) : Prop :=
  ∀ before after, s'.events = s.events ++ before ++ .acknowledged (p.packetId B) :: after →
    Delivers w p bytes before ∨ s.DeliveredInWindow w p bytes id

theorem AckMeansDelivery.of_unanswered {id : UInt64} (h : s.Unanswered B w p bytes s') :
    AckMeansDelivery B w p bytes id s s' := by
  intro before after hevents
  obtain ⟨new, hnew, hack, -⟩ := h
  rw [hnew, List.append_assoc] at hevents
  refine absurd ?_ hack
  rw [List.append_cancel_left hevents]
  simp

theorem AckMeansDelivery.of_answered {id : UInt64} (h : s.Answered B w p bytes s') :
    AckMeansDelivery B w p bytes id s s' := by
  intro before after hevents
  obtain ⟨new, more, hnew, hack, hdelivers⟩ := h
  rw [hnew, List.append_assoc, List.append_assoc] at hevents
  rcases List.append_eq_append_iff.mp (List.append_cancel_left hevents) with
    ⟨between, rfl, -⟩ | ⟨between, rfl, hrest⟩
  · exact .inl (Delivers.append.mpr (.inl hdelivers))
  · cases between with
    | nil => exact .inl (by simpa using hdelivers)
    | cons event between =>
      obtain ⟨rfl, -⟩ := List.cons.inj hrest
      simp at hack

theorem AckMeansDelivery.not_of_vain {id : UInt64} (h : s.Vain B w p bytes s')
    (hclosed : ¬s.DeliveredInWindow w p bytes id) : ¬AckMeansDelivery B w p bytes id s s' := by
  intro hmeans
  obtain ⟨new, more, hevents, hdelivers⟩ := h
  rcases hmeans new more hevents with hnew | hold
  · exact hdelivers hnew
  · exact hclosed hold

end Log

section Calls
variable {B : Build} {S : Schema} {w : RouterWorld S} {depth : Nat} {p : Packet S}
  {bytes : List UInt8} {s t : RouterState S}
  {call : EndpointHandler S × Nat → RouterProgram S Unit}

/-- The calls are those of the handlers, with the packet or its bytes. -/
def CallsHandlers (B : Build) (w : RouterWorld S) (report : Packet S → RouterProgram S Unit)
    (p : Packet S) (bytes : List UInt8) (call : EndpointHandler S × Nat → RouterProgram S Unit) :
    Prop :=
  ∀ h ∈ w.cfg.localHandlers (sortDedup p.endpoints), ∃ data pkt env,
    call h = RouterProgram.withRetries B w report h.2 h.1.endpoint data
      (handlerInput p bytes h.1.handler) pkt env

/-- The loop of `dispatch_rx_data` over them. -/
def callAll (w : RouterWorld S) (p : Packet S)
    (call : EndpointHandler S × Nat → RouterProgram S Unit) : RouterProgram S Unit :=
  Program.forEach (fun h => RouterProgram.discard (call h))
    (w.cfg.localHandlers (sortDedup p.endpoints))

theorem Guards.unanswered (hassigned : w.Assigned)
    (hreact : ∀ callback t, RouterState.Unanswered B w p bytes t (w.react callback t))
    (hsides : w.KeepsSides) (s : RouterState S) :
    Guards B w (RouterProgram.reportError B w depth) (fun _ => True)
      (RouterState.Unanswered B w p bytes s) (RouterState.Unanswered B w p bytes s) :=
  .of_relation .trans (.effect hassigned hreact) hsides trivial depth s

/-- What only grows with the log is kept. -/
theorem Guards.growing {inv : RouterState S → Prop}
    (hgrow : ∀ {t t' : RouterState S} {more}, inv t → t'.events = t.events ++ more → inv t')
    (hassigned : w.Assigned)
    (hreact : ∀ callback t, RouterState.Unanswered B w p bytes t (w.react callback t))
    (hsides : w.KeepsSides) :
    Guards B w (RouterProgram.reportError B w depth) (fun _ => True) inv inv := by
  have heffect : ∀ {t t'}, Effect B w (fun _ => True) t t' → inv t → inv t' := by
    intro t t' h ht
    obtain ⟨new, hevents, -, -⟩ := RouterState.Unanswered.effect hassigned hreact h
    exact hgrow ht hevents
  exact ⟨heffect, heffect, fun _ ht => ht,
    RouterProgram.keeps_reportError heffect hsides trivial depth, hsides⟩

theorem keeps_callAll {inv : RouterState S → Prop}
    (hguards : Guards B w (RouterProgram.reportError B w depth) (fun _ => True) inv inv)
    (hcalls : CallsHandlers B w (RouterProgram.reportError B w depth) p bytes call) :
    Program.Keeps inv (callAll w p call) := by
  refine .forEach fun h hmem => Program.Keeps.attempt ?_
  obtain ⟨data, pkt, env, heq⟩ := hcalls h hmem
  rw [heq]
  exact (RouterProgram.withRetries_triple hguards.locals h.2 h.1.endpoint data _ pkt env).keeps

/-- A call that a handler takes. -/
theorem discard_withRetries_of_takes {handler : Nat} {dest : S.DataEndpoint}
    {data input : RouterItem S} {pkt : Option (Packet S)} {env : Option (TelemetryEnvelope S)}
    {report : Packet S → RouterProgram S Unit} (htakes : w.Takes B handler input)
    (hassigned : w.Assigned) (t : RouterState S) :
    RouterProgram.discard (RouterProgram.withRetries B w report handler dest data input pkt env) t =
      RouterProgram.record (.handled handler input true)
        (RouterProgram.retryHandler w handler input B.maxHandlerRetries 0 none t).1 := by
  rw [RouterProgram.discard, Program.attempt,
    withRetries_of_success (htakes.answers hassigned t) pkt env]
  rfl

/-- Behind the loop a packet that a handler takes is delivered. -/
theorem callAll_answered (hassigned : w.Assigned)
    (hreact : ∀ callback t, RouterState.Unanswered B w p bytes t (w.react callback t))
    (hsides : w.KeepsSides) (htakes : w.TakesPacket B p bytes)
    (hcalls : CallsHandlers B w (RouterProgram.reportError B w depth) p bytes call) :
    Program.Triple (RouterState.Unanswered B w p bytes s) (callAll w p call)
      (fun _ => RouterState.Answered B w p bytes s) fun _ => True := by
  obtain ⟨h, hmem, htakes⟩ := htakes
  have hguards : Guards B w (RouterProgram.reportError B w depth) (fun _ => True)
      (RouterState.Unanswered B w p bytes s) (RouterState.Unanswered B w p bytes s) :=
    .unanswered hassigned hreact hsides s
  have hgrowing : Guards B w (RouterProgram.reportError B w depth) (fun _ => True)
      (RouterState.Answered B w p bytes s) (RouterState.Answered B w p bytes s) :=
    .growing (fun ht => ht.grow) hassigned hreact hsides
  have hkeeps : ∀ {inv : RouterState S → Prop},
      Guards B w (RouterProgram.reportError B w depth) (fun _ => True) inv inv →
      ∀ h ∈ w.cfg.localHandlers (sortDedup p.endpoints),
        Program.Triple inv (RouterProgram.discard (call h)) (fun _ => inv) fun _ => True := by
    intro inv hinv h hmem
    obtain ⟨data, pkt, env, heq⟩ := hcalls h hmem
    rw [heq]
    refine Program.Keeps.triple_of_le (Program.Keeps.attempt ?_) fun _ _ => trivial
    exact (RouterProgram.withRetries_triple hinv.locals h.2 h.1.endpoint data _ pkt env).keeps
  refine .forEach_of_mem hmem (hkeeps hguards) ?_ (hkeeps hgrowing)
  obtain ⟨data, pkt, env, heq⟩ := hcalls h hmem
  rw [heq]
  intro t ht
  rw [discard_withRetries_of_takes htakes hassigned t]
  obtain ⟨new, hnew, hack, -⟩ := RouterProgram.keeps_retryHandler hguards.locals.keeps h.2
    (handlerInput p bytes h.1.handler) B.maxHandlerRetries 0 none t ht
  refine ⟨fun _ _ => ⟨new ++ [.handled h.2 (handlerInput p bytes h.1.handler) true], [], ?_, ?_, ?_⟩,
    fun _ _ => trivial⟩
  · simp only [RouterProgram.record, Program.modify_apply, hnew]
    simp
  · simpa using hack
  · exact Delivers.append.mpr (.inr ⟨h, hmem, List.mem_singleton.mpr rfl⟩)

end Calls

section Dispatch
variable {B : Build} {S : Schema} {w : RouterWorld S} {report : Packet S → RouterProgram S Unit}
  {p : Packet S} {bytes : List UInt8} {data : RouterItem S} {side : Nat} {s t : RouterState S}

/-- The bytes that handlers of `p` are called with when it arrives as the item. -/
def RouterItem.HandsOver (B : Build) (p : Packet S) (bytes : List UInt8) : RouterItem S → Prop
  | .packet _ => serializePacket B p = .ok bytes
  | .serialized received => received = bytes

/-- Whether a new reliable packet from a side is acknowledged: it has a local handler and is
decoded. -/
def RouterWorld.acksNew (w : RouterWorld S) (p : Packet S) : RouterItem S → Bool
  | .packet _ => !(w.cfg.localHandlers (sortDedup p.endpoints)).isEmpty
  | .serialized _ => !(w.cfg.localHandlers (sortDedup p.endpoints)).isEmpty &&
      p.endpoints.any w.cfg.endpointHasPacketHandler

def acknowledgeNew (B : Build) (w : RouterWorld S) (p : Packet S) (data : RouterItem S) :
    RouterProgram S Unit :=
  if w.acksNew p data then RouterProgram.queueEndToEndReliableAck B w p else pure ()

/-- `dispatch_rx_data` on an application packet, up to its relay. -/
def deliverTo (B : Build) (w : RouterWorld S) (data : RouterItem S) (p : Packet S) (side : Nat)
    (call : EndpointHandler S × Nat → RouterProgram S Unit)
    (relay : Bool → Option (RouterItem S)) : RouterProgram S (Option (RouterItem S)) := do
  let remote ← RouterProgram.shouldRouteRemote B w data (some side)
  callAll w p call
  acknowledgeNew B w p data
  pure (relay remote)

theorem callsHandlers_callOnPacket :
    CallsHandlers B w report p bytes (RouterProgram.callOnPacket B w report p (some bytes)) := by
  intro h hmem
  obtain ⟨⟨endpoint, kind⟩, index⟩ := h
  cases kind with
  | packet => exact ⟨.packet p, some p, none, rfl⟩
  | serialized => exact ⟨.serialized bytes, some p, none, rfl⟩

theorem callsHandlers_callOnBytes (env : TelemetryEnvelope S)
    (hraw : p.endpoints.any w.cfg.endpointHasPacketHandler = false) :
    CallsHandlers B w report p bytes (RouterProgram.callOnBytes B w report bytes env none) := by
  intro h hmem
  have hkind := handler_of_raw hraw hmem
  obtain ⟨⟨endpoint, kind⟩, index⟩ := h
  obtain rfl : kind = .serialized := hkind
  exact ⟨.serialized bytes, none, some env, rfl⟩

/-- Both forms of a reliable packet from a side come down to it. -/
theorem dispatchLocal_eq_deliverTo (hcarries : data.Carries B p) (hbytes : data.HandsOver B p bytes)
    (hinternal : S.isInternalControlType p.ty = false) (hreliable : S.isReliableType p.ty = true) :
    ∃ call relay, CallsHandlers B w report p bytes call ∧
      ∀ t, RouterProgram.dispatchLocal B w report data (some side) t =
        deliverTo B w data p side call relay t := by
  cases data with
  | packet p' =>
    obtain ⟨rfl, hvalid⟩ := hcarries
    refine ⟨RouterProgram.callOnPacket B w report p' (some bytes),
      fun remote => if remote then some (.packet p') else none, callsHandlers_callOnPacket,
      fun t => ?_⟩
    rw [dispatchLocal_packet ⟨rfl, hvalid⟩ hinternal, deliverPacket_eq hbytes,
      acknowledgeDecoded_some]
    simp only [hreliable, Option.isSome_some, Bool.true_and, Bool.and_true]
    rfl
  | serialized received =>
    obtain rfl : received = bytes := hbytes
    by_cases hhandler : p.endpoints.any w.cfg.endpointHasPacketHandler = true
    · have hdecode : RouterProgram.decodeFor B w p.envelope.endpoints received = .ok (some p) := by
        simp only [RouterProgram.decodeFor, Packet.envelope, hhandler, if_true,
          RouterProgram.decodeItem, hcarries.2, ok_bind, hcarries.validate_eq_ok, Except.map]
      refine ⟨RouterProgram.callOnPacket B w report p (some received),
        fun remote => if remote then some (.packet p) else none, callsHandlers_callOnPacket,
        fun t => ?_⟩
      rw [dispatchLocal_serialized hcarries hinternal, RouterProgram.deliverSerialized, hdecode,
        Program.of_ok_bind, deliverTo]
      refine Program.bind_congr_apply rfl fun remote => ?_
      rw [callAllOnBytes_some, Program.bind_assoc]
      refine congrArg (callAll w p _ >>= ·) (funext fun _ => ?_)
      show (RouterProgram.acknowledgeDecoded B w p.envelope (some side) (some p) >>= _) = _
      rw [acknowledgeDecoded_some]
      simp only [hreliable, Option.isSome_some, Bool.true_and, Bool.and_true, acknowledgeNew,
        RouterWorld.acksNew, hhandler]
      rfl
    · have hraw : p.endpoints.any w.cfg.endpointHasPacketHandler = false := by simpa using hhandler
      have hdecode : RouterProgram.decodeFor B w p.envelope.endpoints received = .ok none := by
        simp only [RouterProgram.decodeFor, Packet.envelope, hraw, Bool.false_eq_true, if_false]
      refine ⟨RouterProgram.callOnBytes B w report received p.envelope none,
        fun remote => if remote then some (.serialized received) else none,
        callsHandlers_callOnBytes p.envelope hraw, fun t => ?_⟩
      rw [dispatchLocal_serialized hcarries hinternal, RouterProgram.deliverSerialized, hdecode,
        Program.of_ok_bind, deliverTo]
      refine Program.bind_congr_apply rfl fun remote => ?_
      rw [show p.envelope.endpoints = p.endpoints from rfl,
        callAllOnBytes_raw p.envelope fun h hmem => handler_of_raw hraw hmem, Program.bind_assoc]
      refine congrArg (callAll w p _ >>= ·) (funext fun _ => ?_)
      simp only [acknowledgeNew, RouterWorld.acksNew, hraw, Bool.and_false, Bool.false_eq_true,
        if_false]
      rfl

/-- The fold over the weights can overflow, and fails in no other way. -/
theorem sumWeights_ne_err (weight : Nat → Nat) (sides : List Nat) (e : TelemetryError) :
    RoutingTable.sumWeights B weight sides ≠ .error (.err e) := by
  have hadd : ∀ a b, B.u64Add a b ≠ .error (.err e) := by
    intro a b h
    unfold Build.u64Add at h
    split at h
    · cases h
    · split at h
      · cases h
      · cases h
  unfold RoutingTable.sumWeights
  generalize 0 = acc
  induction sides generalizing acc with
  | nil => exact nofun
  | cons side rest ih =>
    rw [List.foldlM_cons]
    cases htotal : B.u64Add acc (weight side) with
    | ok total => exact ih total
    | error stop =>
      intro h
      obtain rfl := Except.error.inj h
      exact hadd _ _ htotal

theorem applyRouteSelection_ne_err (table : RoutingTable S) (src : Option Nat) (sides : List Nat)
    (origin : RouteSelectionOrigin) (e : TelemetryError) :
    table.applyRouteSelection B src sides origin ≠ .error (.err e) := by
  have hbind : ∀ {weight : Nat → Nat} {sides : List Nat}
      {next : Nat → Outcome (RoutingTable S × List Nat)},
      (∀ total, next total ≠ .error (.err e)) →
      (RoutingTable.sumWeights B weight sides >>= next) ≠ .error (.err e) := by
    intro weight sides next hnext
    cases hsum : RoutingTable.sumWeights B weight sides with
    | ok total => exact hnext total
    | error stop =>
      intro h
      obtain rfl := Except.error.inj h
      exact sumWeights_ne_err weight sides e hsum
  unfold RoutingTable.applyRouteSelection
  split
  · exact nofun
  · split
    · unfold RoutingTable.applyAdaptiveDiscoverySelection
      dsimp only
      split
      · refine hbind fun total => ?_
        split
        · exact nofun
        · exact nofun
      · exact nofun
    · exact nofun
    · exact nofun
    · refine hbind fun total => ?_
      split
      · exact nofun
      · exact nofun
    · exact nofun

/-- Routing an application packet comes back, or it panics. -/
theorem shouldRouteRemote_ne_err (hcarries : data.Carries B p)
    (hinternal : S.isInternalControlType p.ty = false) (src : Option Nat) (e : TelemetryError) :
    (RouterProgram.shouldRouteRemote B w data src t).2 ≠ .error (.err e) := by
  simp only [Schema.isInternalControlType, Bool.or_eq_false_iff] at hinternal
  have hack : ¬(p.ty = S.reliableAck ∧ isEndToEndAckSender p.sender = true) := by
    rintro ⟨hty, -⟩
    have hcontrol := hinternal.1.1
    simp [Schema.isReliableControlType, hty] at hcontrol
  have hplan : t.inner.remoteSidePlan B w.routing t.table data src ≠ .error (.err e) := by
    rw [RouterInner.remoteSidePlan_of_carries hcarries hinternal.2 hack]
    exact applyRouteSelection_ne_err _ _ _ _ e
  intro h
  cases hselect : t.inner.remoteSidePlan B w.routing t.table data src with
  | error stop =>
    have hrun : RouterProgram.remoteSidePlan B w data src t = (t, .error stop) := by
      rw [RouterProgram.remoteSidePlan, hselect]
    rw [RouterProgram.shouldRouteRemote, Program.bind_apply_of_error hrun] at h
    obtain rfl := Except.error.inj h
    exact hplan hselect
  | ok plan =>
    have hrun : RouterProgram.remoteSidePlan B w data src t =
        ({ t with table := plan.1 }, .ok plan.2) := by
      rw [RouterProgram.remoteSidePlan, hselect]
    rw [RouterProgram.shouldRouteRemote, Program.bind_apply_of_ok hrun] at h
    cases h

/-- A dispatch that does not panic gets behind the calls of the handlers. -/
theorem dispatchRxData_behind_calls {call : EndpointHandler S × Nat → RouterProgram S Unit}
    {relay : Bool → Option (RouterItem S)} {calledFromQueue : Bool}
    (hcarries : data.Carries B p) (hinternal : S.isInternalControlType p.ty = false)
    (hdispatch : ∀ t, RouterProgram.dispatchLocal B w report data (some side) t =
      deliverTo B w data p side call relay t)
    (hreturns : ∀ what, (RouterProgram.dispatchRxData B w report data (some side) calledFromQueue
      t).2 ≠ .error (.panic what)) :
    ∃ remote t₁ t₂, RouterProgram.shouldRouteRemote B w data (some side)
        (RouterProgram.receiving data (some side) t) = (t₁, .ok remote) ∧
      callAll w p call t₁ = (t₂, .ok ()) ∧
      (RouterProgram.dispatchRxData B w report data (some side) calledFromQueue t).1 =
        ((do
          acknowledgeNew B w p data
          RouterProgram.relayBehind B w report (some side) calledFromQueue (relay remote) :
          RouterProgram S Unit) t₂).1 := by
  have heq : RouterProgram.dispatchRxData B w report data (some side) calledFromQueue t = (do
      let remote ← RouterProgram.shouldRouteRemote B w data (some side)
      callAll w p call
      acknowledgeNew B w p data
      RouterProgram.relayBehind B w report (some side) calledFromQueue (relay remote) :
      RouterProgram S Unit) (RouterProgram.receiving data (some side) t) := by
    rw [RouterProgram.dispatchRxData_apply]
    refine (Program.bind_congr_apply (hdispatch _) fun _ => rfl).trans ?_
    simp only [deliverTo, Program.bind_assoc]
    rfl
  rw [heq] at hreturns ⊢
  have hplan := @shouldRouteRemote_ne_err B S w p data (RouterProgram.receiving data (some side) t)
    hcarries hinternal (some side)
  cases hremote : RouterProgram.shouldRouteRemote B w data (some side)
      (RouterProgram.receiving data (some side) t) with
  | mk t₁ remote =>
    rw [hremote] at hplan
    cases remote with
    | error stop =>
      rw [Program.bind_apply_of_error hremote] at hreturns
      cases stop with
      | err e => exact absurd rfl (hplan e)
      | panic what => exact absurd rfl (hreturns what)
    | ok remote =>
      rw [Program.bind_apply_of_ok hremote] at hreturns ⊢
      have herr := RouterProgram.forEach_discard_ne_err call
        (w.cfg.localHandlers (sortDedup p.endpoints)) t₁
      cases hcalls : callAll w p call t₁ with
      | mk t₂ result =>
        rw [← callAll, hcalls] at herr
        cases result with
        | error stop =>
          rw [Program.bind_apply_of_error hcalls] at hreturns
          cases stop with
          | err e => exact absurd rfl (herr e)
          | panic what => exact absurd rfl (hreturns what)
        | ok u =>
          rw [Program.bind_apply_of_ok hcalls]
          exact ⟨remote, t₁, t₂, rfl, hcalls, rfl⟩

end Dispatch

/-- Handlers answer by an assignment. Callbacks may call the router, but do not have `p`
delivered or acknowledged by that, and TX callbacks reconfigure no sides. -/
structure RouterWorld.Answering {S : Schema} (B : Build) (w : RouterWorld S) (p : Packet S)
    (bytes : List UInt8) : Prop where
  assigned : w.Assigned
  react : ∀ callback t, RouterState.Unanswered B w p bytes t (w.react callback t)
  sides : w.KeepsSides

/-- A reliable packet of the application in one of its forms, and the id it is remembered by. -/
structure ReliableItem {S : Schema} (B : Build) (data : RouterItem S) (p : Packet S)
    (bytes : List UInt8) (id : UInt64) : Prop where
  carries : data.Carries B p
  handsOver : data.HandsOver B p bytes
  hash : RouterInner.getHash B data = .ok id
  reliable : S.isReliableType p.ty = true
  application : S.isInternalControlType p.ty = false

section Receptions
variable {B : Build} {S : Schema} {w : RouterWorld S} {depth : Nat} {p : Packet S}
  {bytes : List UInt8} {id : UInt64} {data : RouterItem S} {side : Nat} {s t : RouterState S}
  {calledFromQueue : Bool} {released : List (List UInt8)}

/-- The log behind `queue_end_to_end_reliable_ack`. -/
theorem events_queueEndToEndReliableAck (pkt : Packet S) (t : RouterState S) :
    (RouterProgram.queueEndToEndReliableAck B w pkt t).1.events =
      t.events ++ [.acknowledged (pkt.packetId B)] := by
  rw [RouterProgram.queueEndToEndReliableAck, RouterProgram.record, Program.modify_bind_apply]
  rfl

/-- The item holds no packet with the id of `p`. -/
def RouterItem.Other (B : Build) (p : Packet S) (data : RouterItem S) : Prop :=
  ∀ q, data.Contains B q → q.packetId B ≠ p.packetId B

theorem unanswered_learnDiscoveryPacket (hassigned : w.Assigned) (pkt : Packet S)
    (src : Option Nat) :
    Program.Keeps (RouterState.Unanswered B w p bytes s)
      (RouterProgram.learnDiscoveryPacket B w pkt src) := by
  intro t ht
  unfold RouterProgram.learnDiscoveryPacket
  split
  · exact ht
  · split
    · split
      · exact ht
      · split
        · exact ht
        · split
          · exact ht
          · exact ht.trans (.event rfl nofun nofun hassigned)
    · exact ht

/-- What arrives with other packets neither acknowledges `p` nor has it taken by a handler that
refuses it. -/
theorem unanswered_arrivals (hw : w.Answering B p bytes) (depth : Nat) (s : RouterState S) :
    Arrivals B w (RouterProgram.reportError B w depth) (RouterItem.Other B p)
      (RouterState.Unanswered B w p bytes s) where
  guards := .unanswered hw.assigned hw.react hw.sides s
  hop item t ht := ht.trans (.quiet rfl)
  received data src t ht := ht.trans (.event rfl nofun nofun hw.assigned)
  internal {data src pkt} _ := by
    rintro _ ⟨t, ht, rfl⟩
    have hreceived : s.Unanswered B w p bytes (RouterProgram.receiving data src t) :=
      ht.trans (.event rfl nofun nofun hw.assigned)
    exact ⟨fun _ _ => hreceived.trans (.quiet rfl), fun _ _ => hreceived.trans (.quiet rfl)⟩
  learn := unanswered_learnDiscoveryPacket hw.assigned
  acknowledge {data pkt} hother hcontains t ht := by
    refine ht.trans (.event (events_queueEndToEndReliableAck pkt t) ?_ nofun hw.assigned)
    intro heq
    exact hother pkt hcontains (RouterEvent.acknowledged.inj heq)
  admits data src := by
    cases src with
    | none => exact .pure ()
    | some side =>
      refine Program.Keeps.read.bind fun _ => (Program.Keeps.of _).bind fun _ => ?_
      exact (Program.Keeps.of _).bind fun id t ht => ht.trans (.quiet rfl)

theorem keeps_relayBehind {inv : RouterState S → Prop}
    (hguards : Guards B w (RouterProgram.reportError B w depth) (fun _ => True) inv inv)
    (relay : Option (RouterItem S)) :
    Program.Keeps inv (RouterProgram.relayBehind B w (RouterProgram.reportError B w depth)
      (some side) calledFromQueue relay) := by
  cases relay with
  | none => exact .pure ()
  | some data => exact RouterProgram.keeps_relaySend hguards data trivial calledFromQueue

/-- What a dispatch leaves in the log: a delivery, where a handler takes the packet; no
acknowledgement, where none is made; else one without a delivery. -/
theorem log_of_dispatchRxData (hitem : ReliableItem B data p bytes id)
    (hw : w.Answering B p bytes) (ht : s.Unanswered B w p bytes t)
    (hreturns : ∀ what, (RouterProgram.dispatchRxData B w (RouterProgram.reportError B w depth) data
      (some side) calledFromQueue t).2 ≠ .error (.panic what)) :
    (w.TakesPacket B p bytes → s.Answered B w p bytes (RouterProgram.dispatchRxData B w
      (RouterProgram.reportError B w depth) data (some side) calledFromQueue t).1) ∧
    (w.acksNew p data = false → s.Unanswered B w p bytes (RouterProgram.dispatchRxData B w
      (RouterProgram.reportError B w depth) data (some side) calledFromQueue t).1) ∧
    (w.acksNew p data = true → ¬w.TakesPacket B p bytes → s.Vain B w p bytes
      (RouterProgram.dispatchRxData B w (RouterProgram.reportError B w depth) data (some side)
        calledFromQueue t).1) := by
  obtain ⟨call, relay, hcalls, hdispatch⟩ := @dispatchLocal_eq_deliverTo B S w
    (RouterProgram.reportError B w depth) p bytes data side hitem.carries hitem.handsOver
    hitem.application hitem.reliable
  obtain ⟨remote, t₁, t₂, hremote, hrun, hrest⟩ :=
    dispatchRxData_behind_calls hitem.carries hitem.application hdispatch hreturns
  have hguards : Guards B w (RouterProgram.reportError B w depth) (fun _ => True)
      (RouterState.Unanswered B w p bytes s) (RouterState.Unanswered B w p bytes s) :=
    .unanswered hw.assigned hw.react hw.sides s
  have h₀ : s.Unanswered B w p bytes (RouterProgram.receiving data (some side) t) :=
    ht.trans (.event rfl nofun nofun hw.assigned)
  have h₁ : s.Unanswered B w p bytes t₁ := by
    have hkept : s.Unanswered B w p bytes (RouterProgram.shouldRouteRemote B w data (some side)
        (RouterProgram.receiving data (some side) t)).1 :=
      RouterProgram.keeps_shouldRouteRemote hguards.locals.keeps trivial data _ h₀
    rwa [hremote] at hkept
  have h₂ : s.Unanswered B w p bytes t₂ := by
    have hkept := keeps_callAll hguards hcalls t₁ h₁
    rwa [hrun] at hkept
  rw [hrest]
  refine ⟨fun htakes => ?_, fun hquiet => ?_, fun hacks hrefused => ?_⟩
  · have hanswered : s.Answered B w p bytes t₂ := by
      have hbrings := (callAll_answered hw.assigned hw.react hw.sides htakes hcalls t₁ h₁).1 ()
      rw [hrun] at hbrings
      exact hbrings rfl
    have hgrowing : Guards B w (RouterProgram.reportError B w depth) (fun _ => True)
        (RouterState.Answered B w p bytes s) (RouterState.Answered B w p bytes s) :=
      .growing (fun ht => ht.grow) hw.assigned hw.react hw.sides
    refine Program.Keeps.bind (.ite ?_ (.pure ())) (fun _ => keeps_relayBehind hgrowing _) t₂
      hanswered
    exact fun t ht => ht.grow (events_queueEndToEndReliableAck p t)
  · rw [acknowledgeNew, hquiet]
    exact keeps_relayBehind hguards _ t₂ h₂
  · have hgrowing : Guards B w (RouterProgram.reportError B w depth) (fun _ => True)
        (RouterState.Vain B w p bytes s) (RouterState.Vain B w p bytes s) :=
      .growing (fun ht => ht.grow) hw.assigned hw.react hw.sides
    have hvain : Program.Triple (RouterState.Unanswered B w p bytes s)
        (acknowledgeNew B w p data) (fun _ => RouterState.Vain B w p bytes s)
        (RouterState.Vain B w p bytes s) := by
      rw [acknowledgeNew, if_pos hacks]
      intro t ht
      obtain ⟨new, hevents, -, hdelivers⟩ := ht
      have hafter : s.Vain B w p bytes (RouterProgram.queueEndToEndReliableAck B w p t).1 := by
        refine ⟨new, [], ?_, fun h => hrefused (hdelivers h)⟩
        rw [events_queueEndToEndReliableAck p, hevents]
      exact ⟨fun _ _ => hafter, fun _ _ => hafter⟩
    exact (hvain.bind fun _ => (keeps_relayBehind hgrowing _).triple).run h₂

/-- The frames released behind an item hold no packet with the id of `p`. -/
def OthersBehind (B : Build) (p : Packet S) (released : List (List UInt8)) : Prop :=
  ∀ frame ∈ released, (RouterItem.serialized frame).Other B p

/-- What survives the other packets survives the frames behind. -/
theorem keeps_released {inv : RouterState S → Prop} (hw : w.Answering B p bytes)
    (hgrow : ∀ {t t' : RouterState S}, inv t → t.Unanswered B w p bytes t' → inv t')
    (hothers : OthersBehind B p released) :
    Program.Keeps inv (Program.forEach (RouterProgram.dispatchReleased B w
      (RouterProgram.reportError B w depth) (some side) calledFromQueue) released) := by
  intro t ht
  refine hgrow ht ?_
  have hkeeps := Program.Keeps.forEach fun frame hmem =>
    (unanswered_arrivals hw depth t).keeps_dispatchReleased (hothers frame hmem) (some side)
      calledFromQueue
  exact hkeeps t (.quiet rfl)

/-- A new item goes to the dispatch and the frames behind follow; its id is remembered. -/
theorem handOver_of_fresh {report : Packet S → RouterProgram S Unit}
    (hfresh : (s.inner.isDuplicatePkt B data).2 = .ok false) :
    RouterProgram.handOver B w report data (some side) calledFromQueue released s =
      (RouterProgram.dispatchRxData B w report data (some side) calledFromQueue >>= fun _ =>
        Program.forEach (RouterProgram.dispatchReleased B w report (some side) calledFromQueue)
          released) (s.noted B data) := by
  rw [RouterProgram.handOver, Program.bind_apply_of_ok
    (RouterProgram.isDuplicatePkt_of_fresh hfresh), if_neg (by simp)]

/-- A call that does not panic gets through its dispatch without one. -/
theorem dispatch_returns {report : Packet S → RouterProgram S Unit}
    (hfresh : (s.inner.isDuplicatePkt B data).2 = .ok false)
    (hreturns : ∀ what, (RouterProgram.handOver B w report data (some side) calledFromQueue released
      s).2 ≠ .error (.panic what)) (what : String) :
    (RouterProgram.dispatchRxData B w report data (some side) calledFromQueue
      (s.noted B data)).2 ≠ .error (.panic what) := by
  rw [handOver_of_fresh hfresh] at hreturns
  intro hpanic
  exact hreturns what (Program.snd_bind_of_error hpanic)

theorem unanswered_noted (hw : w.Answering B p bytes) (hhash : RouterInner.getHash B data = .ok id) :
    s.Unanswered B w p bytes (s.noted B data) := by
  have hevents : (s.noted B data).events = s.events ++ [.remembered id] := by
    rw [RouterState.noted, hhash]
    rfl
  exact .event hevents (by simp) (by simp) hw.assigned

/-- A known one is acknowledged once more, or nothing happens. -/
theorem events_handOver_of_known {report : Packet S → RouterProgram S Unit}
    (hitem : ReliableItem B data p bytes id) (hknown : id ∈ s.inner.recentRx.q) :
    (RouterProgram.handOver B w report data (some side) calledFromQueue released s).1.events =
      s.events ++ if RouterInner.acksDuplicate w.receiving p then
        [.acknowledged (p.packetId B)] else [] := by
  have hanswer : RouterProgram.ackDuplicate B w data (some side) s =
      (if RouterInner.acksDuplicate w.receiving p then RouterProgram.queueEndToEndReliableAck B w p
        else pure () : RouterProgram S Unit) s := by
    have hcarries := hitem.carries
    cases data with
    | packet p' =>
      obtain ⟨rfl, -⟩ := hcarries
      rfl
    | serialized received => simp only [RouterProgram.ackDuplicate, hcarries.2]
  rw [RouterProgram.handOver, Program.bind_apply_of_ok
    (RouterProgram.isDuplicatePkt_of_known hitem.hash hknown), if_pos rfl, hanswer]
  split
  · exact events_queueEndToEndReliableAck p s
  · rw [Program.pure_apply, List.append_nil]

/-- The log behind a new item: that of its dispatch, and what the frames behind leave of it. -/
theorem log_of_handOver (hitem : ReliableItem B data p bytes id) (hw : w.Answering B p bytes)
    (hfresh : (s.inner.isDuplicatePkt B data).2 = .ok false) (hothers : OthersBehind B p released)
    (hreturns : ∀ what, (RouterProgram.handOver B w (RouterProgram.reportError B w depth) data
      (some side) calledFromQueue released s).2 ≠ .error (.panic what)) :
    (w.TakesPacket B p bytes → s.Answered B w p bytes (RouterProgram.handOver B w
      (RouterProgram.reportError B w depth) data (some side) calledFromQueue released s).1) ∧
    (w.acksNew p data = false → s.Unanswered B w p bytes (RouterProgram.handOver B w
      (RouterProgram.reportError B w depth) data (some side) calledFromQueue released s).1) ∧
    (w.acksNew p data = true → ¬w.TakesPacket B p bytes → s.Vain B w p bytes
      (RouterProgram.handOver B w (RouterProgram.reportError B w depth) data (some side)
        calledFromQueue released s).1) := by
  obtain ⟨htaken, hquiet, hvain⟩ := log_of_dispatchRxData hitem hw
    (unanswered_noted hw hitem.hash) (dispatch_returns hfresh hreturns)
  rw [handOver_of_fresh hfresh]
  refine ⟨fun htakes => ?_, fun hquiets => ?_, fun hacks hrefused => ?_⟩
  · refine Program.Keeps.behind (fun _ => keeps_released hw ?_ hothers) (htaken htakes)
    rintro t t' ht ⟨new, hevents, -, -⟩
    exact ht.grow hevents
  · exact Program.Keeps.behind (fun _ => keeps_released hw .trans hothers) (hquiet hquiets)
  · refine Program.Keeps.behind (fun _ => keeps_released hw ?_ hothers) (hvain hacks hrefused)
    rintro t t' ht ⟨new, hevents, -, -⟩
    exact ht.grow hevents

end Receptions

/-- Whether the acknowledgements of a reliable packet mean that it was delivered: for a new one
exactly if none is made, or a handler takes it; for a known one exactly if none is made, or it
was delivered in the window it arrives in. Where a handler took a new one, everything that
arrives in its window arrives behind a delivery. Frames of other packets may be released behind
a new one. -/
theorem ack_means_delivery_iff {B : Build} {S : Schema} {w : RouterWorld S} {depth : Nat}
    {p : Packet S} {bytes : List UInt8} {id : UInt64} {data : RouterItem S} {side : Nat}
    {s : RouterState S} {calledFromQueue known : Bool} {released : List (List UInt8)}
    (hitem : ReliableItem B data p bytes id) (hw : w.Answering B p bytes)
    (hcheck : (s.inner.isDuplicatePkt B data).2 = .ok known) (hothers : OthersBehind B p released)
    (hreturns : ∀ what, (RouterProgram.handOver B w (RouterProgram.reportError B w depth) data
      (some side) calledFromQueue released s).2 ≠ .error (.panic what)) :
    (AckMeansDelivery B w p bytes id s (RouterProgram.handOver B w
        (RouterProgram.reportError B w depth) data (some side) calledFromQueue released s).1 ↔
      match known with
      | true => RouterInner.acksDuplicate w.receiving p = true → s.DeliveredInWindow w p bytes id
      | false => w.acksNew p data = true → w.TakesPacket B p bytes) ∧
    (known = false → w.TakesPacket B p bytes → ∀ (s' : RouterState S) (later : _),
      (RouterProgram.handOver B w (RouterProgram.reportError B w depth) data (some side)
        calledFromQueue released s).1.events <+: s'.events →
      s'.events = s.events ++ .remembered id :: later → .remembered id ∉ later →
      id ∈ s'.inner.recentRx.q → s'.DeliveredInWindow w p bytes id) := by
  by_cases hknown : id ∈ s.inner.recentRx.q
  · -- the duplicate branch
    obtain rfl : known = true := by
      rw [RouterInner.isDuplicatePkt_of_mem hitem.hash hknown] at hcheck
      exact (Except.ok.inj hcheck).symm
    refine ⟨?_, nofun⟩
    have hevents := @events_handOver_of_known B S w p bytes id data side s calledFromQueue released
      (RouterProgram.reportError B w depth) hitem hknown
    constructor
    · intro hmeans hacks
      rw [hacks, if_pos rfl] at hevents
      rcases hmeans [] [] (by rw [hevents, List.append_nil]) with hnone | hdelivered
      · obtain ⟨h, -, hevent⟩ := hnone
        cases hevent
      · exact hdelivered
    · intro hcondition before after hsplit
      rw [hevents, List.append_assoc] at hsplit
      have hsplit := List.append_cancel_left hsplit
      split at hsplit
      · rename_i hacks
        exact .inr (hcondition hacks)
      · cases before with
        | nil => cases hsplit
        | cons event before => cases hsplit
  · -- the dispatch
    obtain rfl : known = false := by
      cases known with
      | false => rfl
      | true => exact absurd hcheck (RouterInner.isDuplicatePkt_ne_true hitem.hash hknown)
    have hclosed : ¬s.DeliveredInWindow w p bytes id := fun h => hknown h.1
    obtain ⟨htaken, hquiet, hvain⟩ := log_of_handOver hitem hw hcheck hothers hreturns
    refine ⟨⟨fun hmeans hacks => ?_, fun hcondition => ?_⟩, fun _ htakes s' later hgrown hevents
      hlater hmem => ?_⟩
    · by_contra hrefused
      exact AckMeansDelivery.not_of_vain (hvain hacks hrefused) hclosed hmeans
    · cases hacks : w.acksNew p data with
      | true => exact .of_answered (htaken (hcondition hacks))
      | false => exact .of_unanswered (hquiet hacks)
    · obtain ⟨new, more, hnew, -, h, hhandler, hevent⟩ := htaken htakes
      obtain ⟨rest, hrest⟩ := hgrown
      refine ⟨hmem, s.events ++ [.remembered id], later, by simpa using hevents, hlater, h, hhandler,
        ?_⟩
      rw [hevents, hnew, List.append_assoc, List.append_assoc] at hrest
      have hall := List.append_cancel_left hrest
      have hin : .handled h.2 (handlerInput p bytes h.1.handler) true ∈
          RouterEvent.remembered id :: later := by
        rw [← hall]
        exact List.mem_append_left _ hevent
      exact (List.mem_cons.mp hin).resolve_left nofun

section Radio

theorem RouterState.acknowledged_of_mem_acks {s : RouterState defaultSchema} {packetId : UInt64}
    (h : packetId ∈ s.acks) : .acknowledged packetId ∈ s.events := by
  obtain ⟨event, hmem, hevent⟩ := List.mem_filterMap.mp h
  cases event with
  | acknowledged id =>
    obtain rfl := Option.some.inj hevent
    exact hmem
  | _ => cases hevent

theorem RouterState.mem_calls_of_handled {s : RouterState defaultSchema} {handler : Nat}
    {data : RouterItem defaultSchema} {ok : Bool} (h : .handled handler data ok ∈ s.events) :
    (handler, data, ok) ∈ s.calls :=
  List.mem_filterMap.mpr ⟨_, h, rfl⟩

/-- The gateway with a handler for the radio that takes packets, and that always fails or
always succeeds. -/
def RouterWorld.radioAnswering (ok : Bool) : RouterWorld defaultSchema :=
  { RouterWorld.radio .packet with
    answer := fun _ _ _ _ => if ok then .ok () else .error (.io "radio") }

/-- The fix arrives on side 0 of two at a new router. -/
def receiveFix (ok : Bool) (inner : RouterInner defaultSchema) :
    RouterState defaultSchema × Outcome Unit :=
  RouterProgram.handOver hostBuild (.radioAnswering ok)
    (RouterProgram.reportError hostBuild (.radioAnswering ok) 2) (.packet gpsDecoded) (some 0) false
    [] ⟨inner.twoSided, .empty, []⟩

theorem answering_radioAnswering (ok : Bool) :
    (RouterWorld.radioAnswering ok).Answering hostBuild gpsDecoded gpsBytes :=
  ⟨fun _ _ _ _ => rfl, fun _ _ => .quiet rfl, fun _ _ _ => rfl⟩

theorem reliableItem_gps : ReliableItem hostBuild (.packet gpsDecoded) gpsDecoded gpsBytes
    (gpsDecoded.packetId hostBuild) where
  carries := ⟨rfl, by decide⟩
  handsOver := serializePacket_gps
  hash := rfl
  reliable := by decide
  application := by decide

/-- A handler that takes the fix. -/
theorem ack_means_delivery_iff_gps : ∃ inner : RouterInner defaultSchema,
    RouterInner.new hostBuild = .ok inner ∧
    (receiveFix true inner).1.acks = [gpsDecoded.packetId hostBuild] ∧
    AckMeansDelivery hostBuild (.radioAnswering true) gpsDecoded gpsBytes
      (gpsDecoded.packetId hostBuild) ⟨inner.twoSided, .empty, []⟩ (receiveFix true inner).1 := by
  obtain ⟨inner, hnew, hview⟩ := Option.map_eq_some_iff.mp (show
    ((RouterInner.new hostBuild : Outcome (RouterInner defaultSchema)).toOption.map fun inner =>
      ((inner.twoSided.isDuplicatePkt hostBuild (.packet gpsDecoded)).2.toOption,
        (receiveFix true inner).1.acks, (receiveFix true inner).2.toOption)) =
      some (some false, [gpsDecoded.packetId hostBuild], some ()) from by decide +kernel)
  obtain ⟨hfresh, hview⟩ := Prod.mk.inj hview
  obtain ⟨hacks, hreturns⟩ := Prod.mk.inj hview
  refine ⟨inner, toOption_eq_some.mp hnew, hacks, ?_⟩
  refine (ack_means_delivery_iff reliableItem_gps (answering_radioAnswering true)
    (toOption_eq_some.mp hfresh) (show OthersBehind hostBuild gpsDecoded [] from nofun)
    fun what => ?_).1.mpr fun _ => ?_
  · have hok := toOption_eq_some.mp hreturns
    unfold receiveFix at hok
    rw [hok]
    exact nofun
  · exact ⟨(⟨1, .packet⟩, 0), by decide, 0, by decide, rfl⟩

/-- The only handler fails at every attempt, and the fix is acknowledged. -/
theorem ack_without_delivery : ∃ inner : RouterInner defaultSchema,
    RouterInner.new hostBuild = .ok inner ∧
    (receiveFix false inner).1.calls.map (fun call => (call.1, call.2.2)) = [(0, false)] ∧
    (receiveFix false inner).1.acks = [gpsDecoded.packetId hostBuild] ∧
    (receiveFix false inner).1.inner.transmitQueue.q.length = 1 ∧
    ¬AckMeansDelivery hostBuild (.radioAnswering false) gpsDecoded gpsBytes
      (gpsDecoded.packetId hostBuild) ⟨inner.twoSided, .empty, []⟩ (receiveFix false inner).1 := by
  obtain ⟨inner, hnew, hview⟩ := Option.map_eq_some_iff.mp (show
    ((RouterInner.new hostBuild : Outcome (RouterInner defaultSchema)).toOption.map fun inner =>
      ((receiveFix false inner).1.calls.map fun call => (call.1, call.2.2),
        (receiveFix false inner).1.acks,
        (receiveFix false inner).1.inner.transmitQueue.q.length,
        inner.recentRx.q.length)) =
      some ([(0, false)], [gpsDecoded.packetId hostBuild], 1, 0) from by decide +kernel)
  simp only [Prod.mk.injEq] at hview
  obtain ⟨hcalls, hacks, hqueue, hnone⟩ := hview
  refine ⟨inner, toOption_eq_some.mp hnew, hcalls, hacks, hqueue, fun hmeans => ?_⟩
  have hack : .acknowledged (gpsDecoded.packetId hostBuild) ∈ (receiveFix false inner).1.events := by
    have hmem : gpsDecoded.packetId hostBuild ∈ (receiveFix false inner).1.acks := by simp [hacks]
    exact RouterState.acknowledged_of_mem_acks hmem
  obtain ⟨before, after, hevents⟩ := List.append_of_mem hack
  rcases hmeans before after hevents with ⟨h, -, hevent⟩ | hdelivered
  · have hevent : .handled h.2 (handlerInput gpsDecoded gpsBytes h.1.handler) true ∈
        (receiveFix false inner).1.events := by
      rw [hevents]
      exact List.mem_append_left _ hevent
    have hcall : (h.2, true) ∈
        (receiveFix false inner).1.calls.map (fun call => (call.1, call.2.2)) :=
      List.mem_map.mpr ⟨_, RouterState.mem_calls_of_handled hevent, rfl⟩
    rw [hcalls] at hcall
    simp at hcall
  · have hid : gpsDecoded.packetId hostBuild ∈ inner.recentRx.q := hdelivered.1
    rw [List.eq_nil_of_length_eq_zero hnone] at hid
    cases hid

end Radio
end Sedsprintf
