import Sedsprintf.TimeSync.Requests
import Sedsprintf.Stores.Eviction
import Sedsprintf.Router.Calls

/-!
# A request whose response is lost

src/router.rs:3451-3473 asks a leader when it is time to and no request is pending. Only the
response, another leader or a new configuration ends a pending request, so one whose response is
lost keeps the router from asking for as long as its leader goes on announcing.
-/
namespace Sedsprintf

open Lib

/-- What nothing can be ahead of goes into the transmit queue when it fits beside the ids. -/
theorem RouterInner.pushTransmit_ok_iff {B : Build} {S : Schema} {st : RouterInner S}
    (hkept : st.Kept B) {queued : TxQueued S} (htop : queued.priority = 255) :
    (st.pushTransmit B queued).2 = .ok () ↔
      max B.recentRxQueueBytes 1 + queued.byteCost B ≤ B.maxQueueBudget := by
  have hpush := @Stores.push_ok_iff _ _ S B B.wordSize (RouterQueues.set B) st.stores _
    (RouterQueues.bank B) hkept .transmit queued
  have hmax : st.stores.2.recentRx.maxBytes = max B.recentRxQueueBytes 1 := hkept.recentMax
  have hunsaturated : ¬st.transmitQueue.Saturated (fun queued => queued.priority)
      queued.priority := by
    intro hfull
    have hlast := ((st.transmitQueue.q.getLast?.map TxQueued.priority).getD 0).toNat_lt
    have hhigher := UInt8.lt_iff_toNat_lt.mp hfull.2
    rw [htop] at hhigher
    exact absurd hhigher (Nat.not_lt.mpr (Nat.le_of_lt_succ hlast))
  rw [RouterInner.pushTransmit_eq, hpush, hmax]
  exact and_iff_left fun h => hunsaturated h.1

theorem RouterInner.pushTransmit_perm {B : Build} {S : Schema} {st : RouterInner S}
    (hkept : st.Kept B) {queued : TxQueued S} (hok : (st.pushTransmit B queued).2 = .ok ()) :
    ∃ kept, kept.Sublist st.transmitQueue.q ∧
      (st.pushTransmit B queued).1.transmitQueue.q.Perm (queued :: kept) := by
  rw [RouterInner.pushTransmit_eq] at hok ⊢
  exact @Stores.push_perm _ _ S B B.wordSize (RouterQueues.set B) st.stores _ (RouterQueues.bank B)
    .transmit hkept queued hok

namespace TimeSyncRouter
variable {S : Schema}

/-- A poll queues a request to the leader: the request of the next number at this instant joins
what stays of the transmit queue, and is pending from then on. -/
def QueuesRequest (B : Build) (t : TimeSyncTypes S.DataType) (w : RouterWorld S)
    (now : MonotonicTime) (leader : String) (s : TimeSyncRouter S) : Prop :=
  ∃ pkt kept, (pollTimesync B t w now s).2 = .ok true ∧
    pkt.sender = w.cfg.sender ∧
    decodeTimesyncRequest B t pkt = .ok ⟨s.runtime.nextSeq, now.ms⟩ ∧
    (pollTimesync B t w now s).1.router.inner.transmitQueue.q.Perm
      (⟨.broadcast (.packet pkt), false, S.messagePriority t.request⟩ :: kept) ∧
    kept.Sublist s.router.inner.transmitQueue.q ∧
    (pollTimesync B t w now s).1.runtime.pendingRequest =
      some ⟨s.runtime.nextSeq, now.ms, leader⟩

section Polls
variable {B : Build} {t : TimeSyncTypes S.DataType} {w : RouterWorld S} {now : MonotonicTime}
  {s : TimeSyncRouter S} {remote : TimeSyncSource}

theorem onRuntime_apply {α : Type} {p : TimeSyncProgram α} {rt : TimeSyncRuntime} {r : Outcome α}
    (h : p s.runtime = (rt, r)) : onRuntime p s = ({ s with runtime := rt }, r) := by
  rw [onRuntime, h]

/-- A request to the leader is pending: there is nothing to queue. -/
theorem pollTimesync_waits (h : (s.runtime.expire now).Following B now remote)
    {pending : PendingTimeSyncRequest} (hpending : s.runtime.pendingRequest = some pending)
    (hsource : pending.source = remote.sender) :
    (pollTimesync B t w now s).2 = .ok false := by
  obtain ⟨cfg, usable, hpoll⟩ := h.pollLocked_apply
  obtain ⟨hfollows, hsame⟩ := h.follow usable
  have hstill : ((s.runtime.expire now).follow now usable).pendingRequest = some pending := by
    rw [hsame.pending]
    exact Option.filter_eq_some_iff.mpr ⟨hpending, beq_iff_eq.mpr hsource⟩
  rw [Program.bind_apply_of_ok (hfollows.takeRequest_waits cfg usable hstill)] at hpoll
  rw [pollTimesync, Program.bind_apply_of_ok (onRuntime_apply hpoll)]
  rfl

/-- None is, and it is time to ask. -/
theorem pollTimesync_asks {timeSync : S.DataEndpoint} (hmeta : S.RequestsTime t timeSync)
    (h : (s.runtime.expire now).Following B now remote)
    (hdue : s.runtime.nextRequestMonoMs ≤ now.ms)
    (hfree : ∀ pending, s.runtime.pendingRequest = some pending → pending.source ≠ remote.sender) :
    ∃ rt pkt, pkt.ty = t.request ∧ pkt.sender = w.cfg.sender ∧
      (RouterItem.packet pkt).byteCost B B.arcSize + 1 + 1 = requestCost B w.cfg.sender ∧
      decodeTimesyncRequest B t pkt = .ok ⟨s.runtime.nextSeq, now.ms⟩ ∧
      rt.pendingRequest = some ⟨s.runtime.nextSeq, now.ms, remote.sender⟩ ∧
      pollTimesync B t w now s =
        (queueOwn B pkt >>= fun _ => pure true) { s with runtime := rt } := by
  obtain ⟨cfg, usable, hpoll⟩ := h.pollLocked_apply
  obtain ⟨hfollows, hsame⟩ := h.follow usable
  have hnone : ((s.runtime.expire now).follow now usable).pendingRequest = none := by
    rw [hsame.pending, Option.filter_eq_none_iff]
    intro pending hpending
    exact mt beq_iff_eq.mp (hfree pending hpending)
  obtain ⟨seq, due, hasks⟩ := hfollows.takeRequest_asks cfg usable (hsame.due hdue) hnone
  rw [Program.bind_apply_of_ok hasks, hsame.nextSeq] at hpoll
  have hasked := hfollows.asked seq due (some ⟨s.runtime.nextSeq, now.ms, remote.sender⟩)
  obtain ⟨rt, pkt, hpkt, hkept, hty, hsender, hcost, hdecoded⟩ :=
    hasked.requestPacket hmeta w.cfg.sender (s.runtime.nextSeq, now.ms)
  refine ⟨rt, pkt, hty, hsender, hcost, hdecoded, ?_, ?_⟩
  · rw [hkept.pending]
    exact Option.filter_eq_some_iff.mpr ⟨rfl, beq_self_eq_true _⟩
  · rw [pollTimesync, Program.bind_apply_of_ok (onRuntime_apply hpoll), queueDue, queueAnnounce,
      Program.pure_bind_apply, queueRequest, Program.bind_assoc,
      Program.bind_apply_of_ok (onRuntime_apply hpkt), Program.bind_assoc]
    rfl

section Queueing
variable {timeSync : S.DataEndpoint} {pkt : Packet S} (hmeta : S.RequestsTime t timeSync)
  (hkept : s.router.inner.Kept B) (hty : pkt.ty = t.request)

theorem queueOwn_apply (pkt : Packet S) : queueOwn B pkt s =
    ({ s with router := { s.router with inner := (s.router.inner.pushTransmit B
        ⟨.broadcast (.packet pkt), false, S.messagePriority pkt.ty⟩).1 } },
      (s.router.inner.pushTransmit B
        ⟨.broadcast (.packet pkt), false, S.messagePriority pkt.ty⟩).2) := rfl

include hmeta hkept hty in
theorem queueOwn_ok_iff {sender : String}
    (hcost : (RouterItem.packet pkt).byteCost B B.arcSize + 1 + 1 = requestCost B sender) :
    (queueOwn B pkt s).2 = .ok () ↔
      max B.recentRxQueueBytes 1 + requestCost B sender ≤ B.maxQueueBudget := by
  have htop : S.messagePriority pkt.ty = 255 := by
    rw [hty, Schema.messagePriority, hmeta]
  rw [queueOwn_apply, ← hcost]
  exact @RouterInner.pushTransmit_ok_iff B S s.router.inner hkept
    ⟨.broadcast (.packet pkt), false, S.messagePriority pkt.ty⟩ htop

include hkept hty in
theorem queueOwn_perm (hok : (queueOwn B pkt s).2 = .ok ()) :
    ∃ kept, kept.Sublist s.router.inner.transmitQueue.q ∧
      (queueOwn B pkt s).1.router.inner.transmitQueue.q.Perm
        (⟨.broadcast (.packet pkt), false, S.messagePriority t.request⟩ :: kept) := by
  rw [queueOwn_apply] at hok ⊢
  rw [← hty]
  exact RouterInner.pushTransmit_perm hkept hok

end Queueing
end Polls
end TimeSyncRouter

/-- In every reachable router a poll that is due queues a request to its leader exactly when none
to that leader is pending and one fits into the budget beside the ids. -/
theorem request_is_queued_iff {B : Build} {S : Schema} {reliable : Bool} {inner : RouterInner S}
    {sys : RouterSystem S} {actions : List (RouterSystem.Action B S)}
    {t : TimeSyncTypes S.DataType} {timeSync : S.DataEndpoint} {w : RouterWorld S}
    {now : MonotonicTime} {s : TimeSyncRouter S} {remote : TimeSyncSource} {usable : Bool}
    (hmeta : S.RequestsTime t timeSync) (hnew : RouterInner.new B = .ok inner)
    (hrun : Run (RouterSystem.step B reliable) anyStep (.initial inner) actions sys)
    (hreached : s.router.inner = sys.inner) (hconfigured : s.runtime.cfg.isSome = true)
    (husable : (s.runtime.expire now).hasUsableTime B now = .ok usable)
    (hleader : ((s.runtime.expire now).refreshTracker now).leader now usable =
      some (.remote remote))
    (hdue : s.runtime.nextRequestMonoMs ≤ now.ms) :
    s.QueuesRequest B t w now remote.sender ↔
      (∀ pending, s.runtime.pendingRequest = some pending → pending.source ≠ remote.sender) ∧
      max B.recentRxQueueBytes 1 + requestCost B w.cfg.sender ≤ B.maxQueueBudget := by
  have hfollowing := TimeSyncRuntime.Following.of_leader hconfigured husable hleader
  have hkept := RouterSystem.kept_of_run hnew hrun
  rw [← hreached] at hkept
  by_cases hfree : ∀ pending, s.runtime.pendingRequest = some pending →
      pending.source ≠ remote.sender
  · obtain ⟨rt, pkt, hty, hsender, hcost, hdecoded, hpending, hpoll⟩ :=
      TimeSyncRouter.pollTimesync_asks (w := w) hmeta hfollowing hdue hfree
    have hfits := TimeSyncRouter.queueOwn_ok_iff (s := { s with runtime := rt }) hmeta hkept hty hcost
    have hjoins := TimeSyncRouter.queueOwn_perm (s := { s with runtime := rt }) hkept hty
    rw [and_iff_right hfree, ← hfits]
    cases howned : TimeSyncRouter.queueOwn B pkt { s with runtime := rt } with
    | mk s' result =>
      rw [howned] at hjoins
      cases result with
      | error e =>
        rw [Program.bind_apply_of_error howned] at hpoll
        refine iff_of_false ?_ (fun h => nomatch h)
        rintro ⟨-, -, hpolled, -⟩
        rw [hpoll] at hpolled
        cases hpolled
      | ok =>
        rw [Program.bind_apply_of_ok howned, Program.pure_apply] at hpoll
        obtain ⟨kept, hsub, hperm⟩ := hjoins rfl
        refine iff_of_true ⟨pkt, kept, congrArg Prod.snd hpoll, hsender, hdecoded, ?_, hsub, ?_⟩ rfl
        · rw [hpoll]
          exact hperm
        · rw [hpoll, ← hpending]
          have hruntime := congrArg (fun r => r.1.runtime) howned
          exact congrArg TimeSyncRuntime.pendingRequest hruntime.symm
  · refine iff_of_false ?_ fun h => hfree h.1
    rw [not_forall₂] at hfree
    obtain ⟨pending, hpending, hsource⟩ := hfree
    rintro ⟨-, -, hpolled, -⟩
    rw [TimeSyncRouter.pollTimesync_waits hfollowing hpending (not_not.mp hsource)] at hpolled
    cases hpolled

/-- A consumer at the poll behind the first announcement of a leader. -/
def heardLeader : TimeSyncRuntime :=
  (TimeSyncRuntime.handleLocked hostBuild (.ofMs 0) defaultTimeSync {}
    (sourceAnnounce "leader" 100 1000000) (.new hostBuild (some {}))).1

/-- It asks that leader. -/
theorem request_is_queued_first :
    ∃ inner : RouterInner defaultSchema, RouterInner.new hostBuild = .ok inner ∧
      TimeSyncRouter.QueuesRequest hostBuild defaultTimeSync (.quiet (.bare "fc") 0 16) (.ofMs 0)
        "leader" ⟨.initial inner, heardLeader⟩ := by
  have hnew : ((RouterInner.new hostBuild : Outcome (RouterInner defaultSchema)).toOption.map
      fun _ => ()) = some () := by
    decide +kernel
  obtain ⟨inner, hnew, -⟩ := Option.map_eq_some_iff.mp hnew
  have hnew := toOption_eq_some.mp hnew
  have hchecks : (heardLeader.cfg.isSome,
      ((heardLeader.expire (.ofMs 0)).hasUsableTime hostBuild (.ofMs 0)).toOption,
      ((heardLeader.expire (.ofMs 0)).refreshTracker (.ofMs 0)).leader (.ofMs 0) true,
      decide (heardLeader.nextRequestMonoMs ≤ 0), heardLeader.pendingRequest) =
      (true, some true, some (.remote ⟨"leader", 100, 0, 1000000⟩), true, none) := by
    decide +kernel
  obtain ⟨hconfigured, hchecks⟩ := Prod.mk.inj hchecks
  obtain ⟨husable, hchecks⟩ := Prod.mk.inj hchecks
  obtain ⟨hleader, hchecks⟩ := Prod.mk.inj hchecks
  obtain ⟨hdue, hpending⟩ := Prod.mk.inj hchecks
  refine ⟨inner, hnew, (@request_is_queued_iff hostBuild defaultSchema true inner (.initial inner) []
    defaultTimeSync 2 (.quiet (.bare "fc") 0 16) (.ofMs 0) ⟨.initial inner, heardLeader⟩ _ true rfl
    hnew (.nil _) rfl hconfigured (toOption_eq_some.mp husable) hleader
    (of_decide_eq_true hdue)).mpr ⟨?_, by decide⟩⟩
  intro pending hsome
  rw [hpending] at hsome
  cases hsome

/-- An announcement of the leader, which goes on to poll. -/
def leaderAnnounceAt (ms : UInt64) : TimeSyncInput defaultSchema :=
  ⟨.quiet (.bare "fc") ms 16, .ofMs ms, 0,
    .handle (sourceAnnounce "leader" 100 (1000000 + ms)) none false⟩

/-- The leader announces itself at the start and after a second; the response to the request
behind the first announcement never comes. -/
def withoutResponse (inner : RouterInner defaultSchema) : TimeSyncRouter defaultSchema :=
  TimeSyncRouter.after hostBuild defaultTimeSync (some {})
    ⟨.initial inner, .new hostBuild (some {})⟩ [leaderAnnounceAt 0, leaderAnnounceAt 1000]

/-- The leader is still the leader and it is time to ask again, but nothing is queued. -/
theorem lost_response_ends_requests :
    ∃ (inner : RouterInner defaultSchema) (remote : TimeSyncSource),
      RouterInner.new hostBuild = .ok inner ∧
      ((withoutResponse inner).runtime.expire (.ofMs 1000)).hasUsableTime hostBuild (.ofMs 1000) =
        .ok true ∧
      (((withoutResponse inner).runtime.expire (.ofMs 1000)).refreshTracker (.ofMs 1000)).leader
        (.ofMs 1000) true = some (.remote remote) ∧
      (withoutResponse inner).runtime.nextRequestMonoMs ≤ 1000 ∧
      ¬(withoutResponse inner).QueuesRequest hostBuild defaultTimeSync
        (.quiet (.bare "fc") 1000 16) (.ofMs 1000) remote.sender := by
  have hchecks : ((RouterInner.new hostBuild : Outcome (RouterInner defaultSchema)).toOption.map
      fun inner => (
        (((withoutResponse inner).runtime.expire (.ofMs 1000)).hasUsableTime hostBuild
          (.ofMs 1000)).toOption,
        (((withoutResponse inner).runtime.expire (.ofMs 1000)).refreshTracker (.ofMs 1000)).leader
          (.ofMs 1000) true,
        decide ((withoutResponse inner).runtime.nextRequestMonoMs ≤ 1000),
        (TimeSyncRouter.pollTimesync hostBuild defaultTimeSync (.quiet (.bare "fc") 1000 16)
          (.ofMs 1000) (withoutResponse inner)).2.toOption)) =
      some (some true, some (.remote ⟨"leader", 100, 1000, 1001000⟩), true, some false) := by
    decide +kernel
  obtain ⟨inner, hnew, hchecks⟩ := Option.map_eq_some_iff.mp hchecks
  obtain ⟨husable, hchecks⟩ := Prod.mk.inj hchecks
  obtain ⟨hleader, hchecks⟩ := Prod.mk.inj hchecks
  obtain ⟨hdue, hpolled⟩ := Prod.mk.inj hchecks
  refine ⟨inner, _, toOption_eq_some.mp hnew, toOption_eq_some.mp husable, hleader,
    of_decide_eq_true hdue, ?_⟩
  rintro ⟨-, -, htrue, -⟩
  rw [toOption_eq_some.mp hpolled] at htrue
  cases htrue

end Sedsprintf
