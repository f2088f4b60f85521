import Sedsprintf.Discovery.Announcing
import Sedsprintf.Relay.Calls

/-!
# Relays that announce themselves

src/relay.rs:1700-1765, 1857-1994 and 2535-2545: every relay announces as `RELAY`, with no endpoint
and no time source of its own. `announce_discovery` and `poll_discovery` are made of calls that the
relay has anyway.
-/
namespace Sedsprintf

open Lib

/-- What a call that announces finds besides the relay. -/
structure RelayDiscovery (S : Schema) where
  types : DiscoveryTypes S.DataType
  discovery : S.DataEndpoint

/-- What any relay says of itself. -/
def RelayDiscovery.identity (S : Schema) : DiscoveryIdentity S := ⟨"RELAY", [], []⟩

namespace RelayState
variable {S : Schema} (B : Build) (w : RelayWorld S) (env : RelayDiscovery S)

/-- The packet for a side that an item is. -/
def sidePacket? (item : RelayTxItem S) : Option (Nat × Packet S) :=
  match item.data with
  | .packet pkt => some (item.dst, pkt)
  | .serialized _ => none

theorem waiting_queueDiscoveryAnnounce {side : Nat} {pkt : Packet S} {s s' : RelayState S}
    (h : RelayProgram.queueDiscoveryAnnounce B side pkt s = (s', .ok ())) :
    (side, pkt) ∈ s'.inner.txQueue.q.filterMap sidePacket? := by
  obtain ⟨rfl, hresult⟩ := Prod.mk.inj h
  exact List.mem_filterMap.mpr ⟨_, RelayInner.pushTx_queued hresult, rfl⟩

/-- A relay as a node that announces itself. -/
def announcer : AnnouncerNode S (RelayState S) where
  build := B
  types := env.types
  discovery := env.discovery
  identity := RelayDiscovery.identity S
  now := w.now
  sides s := s.inner.sides
  routes s := s.inner.discoveryRoutes
  allowed s side := s.inner.routeAllowed s.table.toRoutingTable none (some env.types.announce) side
  unlinked s := s.inner.sides.all Option.isNone
  prune s := { s with inner := s.inner.pruneDiscovery w.now }
  reconcile := Program.modify fun s => { s with
    table := RelayInner.reconcileEndToEndAckedDestinations s.table s.inner.discoveryRoutes }
  fitDiscoveryBudget s := { s with inner := s.inner.fitDiscoveryBudget B }
  queue side pkt := RelayProgram.queueDiscoveryAnnounce B side pkt
  waiting s := s.inner.txQueue.q.filterMap sidePacket?
  routes_prune s := rfl
  sides_prune s := ⟨rfl, rfl⟩
  sides_reconcile s := ⟨rfl, rfl⟩
  sides_fit s := by
    have hsides := (RelayInner.fitDiscoveryBudget_keeps (B := B) s.inner).1.sides
    refine ⟨hsides, ?_⟩
    funext side
    simp only [RelayInner.routeAllowed, hsides]
  unlinked_sides s h := h
  waiting_queue side pkt s s' h := waiting_queueDiscoveryAnnounce B h

/-- The calls that announce. -/
def Announcers (n : AnnouncerNode S (RelayState S)) : Prop := ∃ w env, n = announcer B w env

end RelayState

/-- A run of a relay in which announcing is among the calls. -/
def AnnouncingRelayRun {S : Schema} (B : Build) (depth : Nat) :
    Announcing S (RelayState S) → Announcing S (RelayState S) → Prop :=
  Relation.ReflTransGen
    (Announcing.Step (RelayState.Announcers B) (RelayCall.Step B (RelayRun B depth)))

section Refinement
variable {S : Schema} {B : Build}

theorem RelayRun.refl (depth : Nat) (s : RelayState S) : RelayRun B depth s s := by
  cases depth with
  | zero => rfl
  | succ depth => exact Relation.ReflTransGen.refl

/-- A call that reaches no callback. -/
theorem RelayCall.step_still (w : RelayWorld S) (depth : Nat) (call : RelayCall S)
    (s : RelayState S) : RelayCall.Step B (RelayRun B depth) s
      (call.run B { w with react := fun _ _ s => s } s).1 :=
  ⟨_, call, fun _ _ s => .refl depth s, rfl⟩

theorem RelayState.announcer_madeOf (w : RelayWorld S) (env : RelayDiscovery S) (depth : Nat) :
    (RelayState.announcer B w env).MadeOf (RelayCall.Step B (RelayRun B depth)) where
  prune s := RelayCall.step_still w depth .pruneDiscoveryRoutes s
  reconcile s := RelayCall.step_still w depth .reconcileEndToEndAckedDestinations s
  fitDiscoveryBudget s := RelayCall.step_still w depth .fitDiscoveryBudget s
  queue side pkt s := RelayCall.step_still w depth (.queueDiscoveryAnnounce side pkt) s

/-- A run with announcing is a run of the relay's calls. -/
theorem AnnouncingRelayRun.relayRun {depth : Nat} {s s' : Announcing S (RelayState S)}
    (hrun : AnnouncingRelayRun B depth s s') : RelayRun B (depth + 1) s.node s'.node := by
  refine Announcing.moves ?_ (fun _ _ h => h) hrun
  rintro n ⟨w, env, rfl⟩
  exact RelayState.announcer_madeOf w env depth

end Refinement
end Sedsprintf
