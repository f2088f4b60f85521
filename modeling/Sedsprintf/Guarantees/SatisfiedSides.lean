import Sedsprintf.Guarantees.Routing

/-!
# Sides that have acknowledged

src/relay.rs:1561-1612. A relay leaves a side out once every destination behind it has acknowledged
a packet. It raises `had_destination_board` for any destination it knows there, also for one that the
packet is not meant for.
-/
namespace Sedsprintf

open Lib

namespace RelayInner

section Scan
variable {S : Schema} (acked : List UInt64) (eps : List S.DataEndpoint)

/-- `eps.iter().copied().any(|ep| board.reachable_endpoints.contains(&ep))`. -/
def reachesAny (board : TopologyBoardNode S) : Bool :=
  eps.any fun ep => board.reachableEndpoints.contains ep

/-- The loop over the boards of an announcer, with `still_pending` and `had_destination_board`. -/
def scanBoards : List (TopologyBoardNode S) → (hadDestinationBoard : Bool) → Bool × Bool
  | [], had => (false, had)
  | board :: rest, had =>
    if RoutingTable.isEndToEndDestinationSender board.senderId then
      if reachesAny eps board && !acked.contains (senderHash (asBytes board.senderId)) then (true, true)
      else scanBoards rest true
    else scanBoards rest had

/-- The loop over the announcers of a route. -/
def scanAnnouncers : List (DiscoverySenderState S) → (hadDestinationBoard : Bool) → Bool × Bool
  | [], had => (false, had)
  | sender :: rest, had =>
    match scanBoards acked eps sender.topologyBoards had with
    | (true, had) => (true, had)
    | (false, had) => scanAnnouncers rest had

/-- A board that has not acknowledged what it is to get. -/
def pendingBoard (board : TopologyBoardNode S) : Bool :=
  RoutingTable.isEndToEndDestinationSender board.senderId &&
    (reachesAny eps board && !acked.contains (senderHash (asBytes board.senderId)))

def destinationBoard (board : TopologyBoardNode S) : Bool :=
  RoutingTable.isEndToEndDestinationSender board.senderId

theorem scanBoards_eq (boards : List (TopologyBoardNode S)) (had : Bool) :
    scanBoards acked eps boards had =
      if boards.any (pendingBoard acked eps) then (true, true)
      else (false, had || boards.any destinationBoard) := by
  induction boards generalizing had with
  | nil => simp [scanBoards]
  | cons board rest ih =>
    unfold scanBoards
    simp only [ih, List.any_cons, pendingBoard, destinationBoard]
    by_cases hdestination : RoutingTable.isEndToEndDestinationSender board.senderId = true
    · by_cases hpending : (reachesAny eps board &&
          !acked.contains (senderHash (asBytes board.senderId))) = true
      · simp only [hdestination, hpending, Bool.and_self, Bool.true_or, if_true]
      · rw [Bool.not_eq_true] at hpending
        simp only [hdestination, hpending, if_true, Bool.and_false, Bool.false_or, Bool.true_or,
          Bool.or_true, Bool.false_eq_true, if_false]
    · rw [Bool.not_eq_true] at hdestination
      simp [hdestination]

theorem scanAnnouncers_eq (senders : List (DiscoverySenderState S)) (had : Bool) :
    scanAnnouncers acked eps senders had =
      if (senders.flatMap fun sender => sender.topologyBoards).any (pendingBoard acked eps) then
        (true, true)
      else (false, had || (senders.flatMap fun sender => sender.topologyBoards).any destinationBoard) := by
  induction senders generalizing had with
  | nil => simp [scanAnnouncers]
  | cons sender rest ih =>
    unfold scanAnnouncers
    rw [scanBoards_eq, List.flatMap_cons, List.any_append, List.any_append]
    cases hfirst : sender.topologyBoards.any (pendingBoard acked eps) with
    | true => simp
    | false => simp [ih, Bool.or_assoc]

/-- The two flags decide as `stillPending` does. -/
theorem stillPending_of_scan {route : DiscoverySideState S} {pending had : Bool}
    (h : scanAnnouncers acked eps (route.announcers.toList.map Prod.snd) false = (pending, had)) :
    stillPending acked eps route = (pending || !had) := by
  have hempty (boards : List (TopologyBoardNode S)) :
      (boards.filter destinationBoard).isEmpty = !boards.any destinationBoard := by
    induction boards with
    | nil => rfl
    | cons board rest ih => cases hboard : destinationBoard board <;> simp [hboard, ih]
  have hpending (boards : List (TopologyBoardNode S)) :
      ((boards.filter destinationBoard).any fun board =>
        reachesAny eps board && !acked.contains (senderHash (asBytes board.senderId))) =
        boards.any (pendingBoard acked eps) := by
    rw [List.any_filter]
    rfl
  have hboards : destinationBoards route =
      (route.announcers.toList.flatMap fun e => e.2.topologyBoards).filter destinationBoard := rfl
  have hkeeps : stillPending acked eps route =
      ((destinationBoards route).isEmpty || (destinationBoards route).any fun board =>
        reachesAny eps board && !acked.contains (senderHash (asBytes board.senderId))) := rfl
  rw [scanAnnouncers_eq, List.flatMap_map] at h
  rw [hkeeps, hboards, hempty, hpending]
  split at h
  · rename_i hany
    obtain ⟨rfl, rfl⟩ := Prod.mk.inj h
    rw [hany, Bool.or_true, Bool.true_or]
  · rename_i hnone
    obtain ⟨rfl, rfl⟩ := Prod.mk.inj h
    rw [Bool.eq_false_of_not_eq_true hnone, Bool.or_false, Bool.false_or, Bool.false_or]

end Scan

section Filter
variable (B : Build) {S : Schema} (st : RelayInner S) (table : RelayTable S)
  (data : RouterItem S) (sides : List Nat) (eps : List S.DataEndpoint) (ty : S.DataType)

/-- The acknowledgements that the filter looks at: those of a reliable packet that is no
acknowledgement itself. -/
def AcknowledgedBy (acked : List UInt64) : Prop :=
  S.isReliableType ty = true ∧ RoutingTable.reliableControlTargetPacketId B data = .ok none ∧
    ∃ packetId, itemPacketId B data = .ok packetId ∧
      table.endToEndAckedDestinations[packetId]? = some acked

/-- A destination behind the side that the packet is meant for. -/
def MeantFor (side : Nat) (board : TopologyBoardNode S) : Prop :=
  ∃ route, st.discoveryRoutes[side]? = some route ∧ board ∈ destinationBoards route ∧
    reachesAny eps board = true

/-- Only sides are left out behind which there are destinations of the packet, and all of them have
acknowledged it; and none if nothing has. -/
structure LeavesOutSatisfied (filtered : List Nat) : Prop where
  satisfied : ∀ side ∈ sides, side ∉ filtered →
    (∃ board, MeantFor st eps side board) ∧
      ∃ acked, AcknowledgedBy B table data ty acked ∧
        ∀ board, MeantFor st eps side board → senderHash (asBytes board.senderId) ∈ acked
  unacknowledged : (∀ acked, AcknowledgedBy B table data ty acked → acked = []) → filtered = sides

/-- The sides with any destination have one of the packet. -/
def DestinationsMeant : Prop :=
  ∀ acked, AcknowledgedBy B table data ty acked → ∀ side ∈ sides, ∀ route,
    st.discoveryRoutes[side]? = some route → destinationBoards route ≠ [] →
    ∃ board, MeantFor st eps side board

variable {B st table data sides eps ty}

/-- A side that the filter keeps. -/
def keepsSide (st : RelayInner S) (acked : List UInt64) (eps : List S.DataEndpoint)
    (side : Nat) : Bool :=
  match st.discoveryRoutes[side]? with
  | none => true
  | some route => stillPending acked eps route

theorem keepsSide_eq_false {acked : List UInt64} {side : Nat} :
    keepsSide st acked eps side = false ↔
      ∃ route, st.discoveryRoutes[side]? = some route ∧ stillPending acked eps route = false := by
  unfold keepsSide
  cases st.discoveryRoutes[side]? <;> simp

theorem stillPending_eq_false {acked : List UInt64} {route : DiscoverySideState S} :
    stillPending acked eps route = false ↔
      destinationBoards route ≠ [] ∧ ∀ board ∈ destinationBoards route, reachesAny eps board = true →
        senderHash (asBytes board.senderId) ∈ acked := by
  simp [stillPending, reachesAny]

/-- The filter looks at one set of acknowledgements, or keeps everything. -/
theorem filterEndToEndSatisfiedSides_cases {filtered : List Nat}
    (h : st.filterEndToEndSatisfiedSides B table data sides eps ty = .ok filtered) :
    ((∀ acked, ¬AcknowledgedBy B table data ty acked) ∧ filtered = sides) ∨
      ∃ acked, AcknowledgedBy B table data ty acked ∧
        filtered = sides.filter (keepsSide st acked eps) := by
  unfold filterEndToEndSatisfiedSides at h
  split at h
  · rename_i hreliable
    obtain ⟨target, htarget, h⟩ := bind_eq_ok.mp h
    cases target with
    | some target =>
      refine .inl ⟨fun acked hacked => ?_, (Except.ok.inj h).symm⟩
      have hnone := hacked.2.1
      rw [htarget] at hnone
      cases hnone
    | none =>
      obtain ⟨packetId, hid, h⟩ := bind_eq_ok.mp h
      cases hentry : table.endToEndAckedDestinations[packetId]? with
      | none =>
        rw [hentry] at h
        refine .inl ⟨?_, (Except.ok.inj h).symm⟩
        rintro acked ⟨-, -, packetId', hid', hacked⟩
        obtain rfl := Except.ok.inj (hid.symm.trans hid')
        rw [hentry] at hacked
        cases hacked
      | some acked =>
        rw [hentry] at h
        exact .inr ⟨acked, ⟨hreliable, htarget, packetId, hid, hentry⟩, (Except.ok.inj h).symm⟩
  · rename_i hunreliable
    exact .inl ⟨fun acked hacked => hunreliable hacked.1, (Except.ok.inj h).symm⟩

theorem filterEndToEndSatisfiedSides_of_acked {acked : List UInt64}
    (h : AcknowledgedBy B table data ty acked) :
    st.filterEndToEndSatisfiedSides B table data sides eps ty =
      .ok (sides.filter (keepsSide st acked eps)) := by
  obtain ⟨hreliable, htarget, packetId, hid, hentry⟩ := h
  simp only [filterEndToEndSatisfiedSides, hreliable, if_true, htarget, ok_bind, hid, hentry]
  rfl

/-- A side that is not kept has destinations, and those of the packet have acknowledged it. -/
theorem satisfied_of_dropped {acked : List UInt64} {side : Nat}
    (h : DestinationsMeant B st table data sides eps ty) (hacked : AcknowledgedBy B table data ty acked)
    (hside : side ∈ sides) (hpending : keepsSide st acked eps side = false) :
    (∃ board, MeantFor st eps side board) ∧
      ∀ board, MeantFor st eps side board → senderHash (asBytes board.senderId) ∈ acked := by
  obtain ⟨route, hroute, hpending⟩ := keepsSide_eq_false.mp hpending
  obtain ⟨hknown, hall⟩ := stillPending_eq_false.mp hpending
  refine ⟨h acked hacked side hside route hroute hknown, ?_⟩
  rintro board ⟨route', hroute', hboard, hreaches⟩
  obtain rfl := Option.some.inj (hroute.symm.trans hroute')
  exact hall board hboard hreaches

/-- A relay leaves out satisfied sides only, if what it knows behind its candidates is what the
packet is meant for, or nothing. -/
theorem leaves_out_satisfied_iff :
    (∀ filtered, st.filterEndToEndSatisfiedSides B table data sides eps ty = .ok filtered →
        LeavesOutSatisfied B st table data sides eps ty filtered) ↔
      DestinationsMeant B st table data sides eps ty := by
  constructor
  · intro h acked hacked side hside route hroute hknown
    by_contra hunmeant
    have hdropped : stillPending acked eps route = false := by
      refine stillPending_eq_false.mpr ⟨hknown, fun board hboard hreaches => ?_⟩
      exact absurd ⟨board, route, hroute, hboard, hreaches⟩ hunmeant
    have hleft : keepsSide st acked eps side = false :=
      keepsSide_eq_false.mpr ⟨route, hroute, hdropped⟩
    apply hunmeant
    apply ((h _ (filterEndToEndSatisfiedSides_of_acked hacked)).satisfied side hside _).1
    simp [hleft]
  · intro h filtered hfiltered
    rcases filterEndToEndSatisfiedSides_cases hfiltered with ⟨-, rfl⟩ | ⟨acked, hacked, rfl⟩
    · exact ⟨fun side hside hdropped => absurd hside hdropped, fun _ => rfl⟩
    constructor
    · intro side hside hleft
      rw [List.mem_filter, not_and, Bool.not_eq_true] at hleft
      obtain ⟨hmeant, hall⟩ := satisfied_of_dropped h hacked hside (hleft hside)
      exact ⟨hmeant, acked, hacked, hall⟩
    · intro hnothing
      apply List.filter_eq_self.mpr
      intro side hside
      by_contra hleft
      obtain ⟨⟨board, hboard⟩, hall⟩ :=
        satisfied_of_dropped h hacked hside (Bool.eq_false_of_not_eq_true hleft)
      have hmem := hall board hboard
      rw [hnothing acked hacked] at hmem
      cases hmem

end Filter

/-- Behind side 0 a relay announces itself with the endpoints of a packet, and a board `B` with
another one. -/
def relayedRoute : DiscoverySideState defaultSchema where
  reachable := [0, 1, 4]
  reachableTimesyncSources := []
  lastSeenMs := 0
  announcers := (∅ : OrdMap String (DiscoverySenderState defaultSchema)).insert "RELAY"
    ⟨[0, 1, 4], [], [⟨"B", [4], [], ["RELAY"]⟩, ⟨"RELAY", [0, 1], [], ["B"]⟩], 0⟩

/-- Somewhere else a board `C` has acknowledged the packet. -/
def acknowledgedElsewhere : RelayTable defaultSchema where
  toRoutingTable := .empty
  endToEndAckedDestinations := (∅ : OrdMap UInt64 (List UInt64)).insert
    (gpsPacket.packetId hostBuild) [senderHash (asBytes "C")]
  endToEndAckedDestinationOrder := [gpsPacket.packetId hostBuild]

/-- A relay that knows this route. -/
def relayed (inner : RelayInner defaultSchema) : RelayInner defaultSchema :=
  { inner with discoveryRoutes := (∅ : DiscoveryRoutes defaultSchema).insert 0 relayedRoute }

/-- The side is left out for the sake of `B`, which the packet is not meant for. -/
theorem relayed_side_left_out :
    ∃ inner : RelayInner defaultSchema, RelayInner.new hostBuild = .ok inner ∧
      RoutingTable.routeInfo hostBuild (.packet gpsPacket) = .ok ([0, 1], gpsPacket.ty) ∧
      inner.relayed.filterEndToEndSatisfiedSides hostBuild acknowledgedElsewhere (.packet gpsPacket)
        [0] [0, 1] gpsPacket.ty = .ok [] ∧
      ¬LeavesOutSatisfied hostBuild inner.relayed acknowledgedElsewhere (.packet gpsPacket) [0] [0, 1]
        gpsPacket.ty [] := by
  obtain ⟨inner, hnew, hfilter⟩ := Option.map_eq_some_iff.mp (show
    ((RelayInner.new hostBuild : Outcome (RelayInner defaultSchema)).toOption.map fun inner =>
      inner.relayed.filterEndToEndSatisfiedSides hostBuild acknowledgedElsewhere
        (.packet gpsPacket) [0] [0, 1] gpsPacket.ty) = some (.ok []) from by decide +kernel)
  refine ⟨inner, toOption_eq_some.mp hnew, by decide, hfilter, fun h => ?_⟩
  have hunmeant : ∀ board ∈ destinationBoards relayedRoute, reachesAny [0, 1] board = false := by
    decide +kernel
  obtain ⟨⟨board, route, hroute, hboard, hreaches⟩, -⟩ := h.satisfied 0 (by simp) (by simp)
  obtain rfl : relayedRoute = route := by
    simpa [relayed] using hroute
  rw [hunmeant board hboard] at hreaches
  cases hreaches

end RelayInner
end Sedsprintf
