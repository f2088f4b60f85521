import Sedsprintf.Router.Exchange
import Sedsprintf.Guarantees.LostResponse

/-!
# How good an estimate of network time is

src/timesync.rs:763-776 and src/router.rs:3476-3611. The number of a request keeps an old response
from being taken for a new one, however long it was on its way.
-/
namespace Sedsprintf

open Lib

namespace TimeExchange
variable {S : Schema} {t : TimeSyncTypes S.DataType} {who : TimeClient} {frame : TimeFrame}

theorem Inv.run {s : TimeExchange S} {actions : List (ExchangeAction S)}
    (hrun : Run (TimeExchange.step t who) (Proceeds t frame) (.initial who) actions s) :
    Inv frame s :=
  hrun.invariant (Inv frame) (fun h hok hstep => h.step hok hstep) .initial

/-- However requests and responses are lost, repeated and reordered, a response that ends a request
leaves an estimate that is off by half the measured round trip at most, and the clock is steered
to it. -/
theorem sample_within_half_round_trip {s s' : TimeExchange S} {actions : List (ExchangeAction S)}
    {time : Nat} {now : MonotonicTime} {pkt : Packet S} {pending : PendingTimeSyncRequest}
    (hrun : Run (step t who) (Proceeds t frame) (initial who) actions s)
    (hok : Proceeds t frame s (.handle time now pkt))
    (hstep : step t who s (.handle time now pkt) = some s')
    (hpending : s.client.pendingRequest = some pending) (hends : s'.client.pendingRequest = none) :
    ∃ priority sampleMs,
      s'.client.remoteSources[pkt.sender]? = some ⟨priority, now.ms, sampleMs⟩ ∧
      s'.client.disciplinedClock = s.client.disciplinedClock.steerUnixMs now.ns sampleMs ∧
      (sampleMs.toNat - (frame.networkMs time).toNat : Int).natAbs ≤
        (now.ms.toNat - pending.t1MonoMs.toNat + 1) / 2 := by
  have hinv := Inv.run hrun
  have hlater : s.clock ≤ time := hok.later
  have hlasts : time ≤ frame.horizon := hok.lasts
  have hnow : now.ms = frame.monoMs time := hok.shows
  simp only [TimeExchange.step] at hstep
  split at hstep
  · rename_i hpkt
    obtain rfl := Option.some.inj hstep
    obtain ⟨response, priority, hdecoded, hseq, hsource, hclock⟩ :=
      TimeSyncRuntime.handleLocked_ends hpending hends
    obtain ⟨hty, hwords⟩ := decodeTimesyncResponse_eq_ok hdecoded
    -- the response was made, and so after the request of its number
    obtain ⟨made, hmade, rfl⟩ := List.mem_map.mp (hpkt hty)
    obtain ⟨hbefore, seq, rest, hmadewords, -, hasked, hserved⟩ := hinv.made made hmade
    rw [hwords] at hmadewords
    obtain ⟨rfl, rfl⟩ := List.cons.inj hmadewords
    obtain ⟨asked, hle, ht1⟩ := hasked pending hpending hseq
    obtain ⟨t1, htimes⟩ := hserved rfl
    obtain ⟨-, htimes⟩ := List.cons.inj htimes
    obtain ⟨ht2, htimes⟩ := List.cons.inj htimes
    obtain ⟨ht3, -⟩ := List.cons.inj htimes
    refine ⟨priority, _, hsource, hclock, ?_⟩
    have hclose := frame.sample_close hle (hbefore.trans hlater) hlasts
    rw [hnow, ht1, ht2, ht3, frame.toNat_networkMs hlasts, frame.toNat_monoMs hlasts,
      frame.toNat_monoMs (hle.trans (hbefore.trans (hlater.trans hlasts))), Nat.add_sub_add_left]
    exact_mod_cast hclose
  · cases hstep

end TimeExchange

deriving instance DecidableEq for TimeSyncRuntime.Handled

/-- A consumer whose clock shows 5000 where network time is 1000000. -/
def consumerFrame : TimeFrame := ⟨5000, 1000000, 10000, by decide, by decide⟩

def consumer : TimeClient := ⟨hostBuild, "fc", {}⟩

def consumerRequest : Packet defaultSchema where
  ty := 8
  dataSize := 16
  sender := "fc"
  endpoints := [2]
  timestamp := 1000010
  payload := .inline 16 (encodeU64Words [1, 5010])

def leaderResponse : Packet defaultSchema where
  ty := 9
  dataSize := 32
  sender := "leader"
  endpoints := [2]
  timestamp := 1000040
  payload := .inline 32 (encodeU64Words [1, 5010, 1000040, 1000040])

theorem leader_answers :
    TimeExchange.Answers defaultTimeSync consumerFrame 40 consumerRequest leaderResponse := by
  refine ⟨⟨hostBuild, "leader", { role := .source }⟩, .ofMs 1000040,
    .new hostBuild (some { role := .source }), _, _, ⟨1, 5010⟩, false, Prod.ext rfl ?_,
    Prod.ext rfl ?_⟩
  · exact toOption_eq_some.mp (by decide +kernel)
  · exact toOption_eq_some.mp (by decide +kernel)

/-- Whether the consumer goes on so. -/
def consumerProceeds (s : TimeExchange defaultSchema) (a : ExchangeAction defaultSchema) : Bool :=
  decide (s.clock ≤ a.time) && decide (a.time ≤ consumerFrame.horizon) && match a with
    | .poll time now _ => decide (now.ms = consumerFrame.monoMs time ∧ s.polls + 2 < 2 ^ 64)
    | .read time now => decide (now.ms = consumerFrame.monoMs time)
    | .serve time request response =>
      decide (time = 40 ∧ request = consumerRequest ∧ response = leaderResponse)
    | .handle time now _ => decide (now.ms = consumerFrame.monoMs time)

theorem proceeds_of_consumerProceeds {s : TimeExchange defaultSchema} {a : ExchangeAction defaultSchema}
    (h : consumerProceeds s a = true) : TimeExchange.Proceeds defaultTimeSync consumerFrame s a := by
  simp only [consumerProceeds, Bool.and_eq_true, decide_eq_true_eq] at h
  refine ⟨h.1.1, h.1.2, ?_⟩
  cases a with
  | poll time now room =>
    have hshows : now.ms = consumerFrame.monoMs time ∧ s.polls + 2 < 2 ^ 64 := of_decide_eq_true h.2
    exact hshows
  | read time now =>
    have hshows : now.ms = consumerFrame.monoMs time := of_decide_eq_true h.2
    exact hshows
  | serve time request response =>
    obtain ⟨rfl, rfl, rfl⟩ := of_decide_eq_true h.2
    exact leader_answers
  | handle time now pkt =>
    have hshows : now.ms = consumerFrame.monoMs time := of_decide_eq_true h.2
    exact hshows

/-- The leader announces itself, the consumer asks it, and the leader answers. -/
def askedLeader : List (ExchangeAction defaultSchema) :=
  [.handle 0 (.ofMs 5000) (sourceAnnounce "leader" 100 1000000), .poll 10 (.ofMs 5010) true,
    .serve 40 consumerRequest leaderResponse]

/-- The round trip took 80 ms, of which the response took 50. -/
theorem sample_within_half_round_trip_consumer :
    ∃ (s s' : TimeExchange defaultSchema) (priority sampleMs : UInt64),
      Run (TimeExchange.step defaultTimeSync consumer)
        (TimeExchange.Proceeds defaultTimeSync consumerFrame) (.initial consumer) askedLeader s ∧
      TimeExchange.step defaultTimeSync consumer s (.handle 90 (.ofMs 5090) leaderResponse) =
        some s' ∧
      s'.client.remoteSources["leader"]? = some ⟨priority, 5090, sampleMs⟩ ∧
      (sampleMs.toNat - 1000090 : Int).natAbs ≤ 40 := by
  have hchecks : ((askedLeader.foldlM (fun s a => if consumerProceeds s a then
      TimeExchange.step defaultTimeSync consumer s a else none) (.initial consumer)).bind fun s =>
        (TimeExchange.step defaultTimeSync consumer s
          (.handle 90 (.ofMs 5090) leaderResponse)).map fun s' =>
            (decide (s.clock ≤ 90), s.client.pendingRequest, s'.client.pendingRequest)) =
      some (true, some ⟨1, 5010, "leader"⟩, none) := by
    decide +kernel
  obtain ⟨s, hrun, hchecks⟩ := Option.bind_eq_some_iff.mp hchecks
  obtain ⟨s', hstep, hchecks⟩ := Option.map_eq_some_iff.mp hchecks
  obtain ⟨hclock, hchecks⟩ := Prod.mk.inj hchecks
  obtain ⟨hpending, hends⟩ := Prod.mk.inj hchecks
  have hrun := Run.of_checked (fun s a => proceeds_of_consumerProceeds) hrun
  have hshows : TimeExchange.Shows defaultTimeSync consumerFrame s
      (.handle 90 (.ofMs 5090) leaderResponse) := show (5090 : UInt64) = _ by decide
  obtain ⟨priority, sampleMs, hsource, -, hclose⟩ := TimeExchange.sample_within_half_round_trip hrun
    ⟨of_decide_eq_true hclock, by decide, hshows⟩ hstep hpending hends
  exact ⟨s, s', priority, sampleMs, hrun, hstep, hsource, hclose⟩

end Sedsprintf
