import Sedsprintf.Routing

/-!
# Weighted turns

Under the weighted mode, and in the adaptive selection where every side is measured, a call
picks the side the cursor of its source falls on and moves the cursor by one. Calls in a row
over the same sides and weights therefore deal one round out by weight.
-/
namespace Sedsprintf

open Lib

namespace RoutingTable
variable {B : Build} {S : Schema} {table : RoutingTable S} {src : Option Nat} {sides : List Nat}
  {select : RoutingTable S → Outcome (RoutingTable S × List Nat)} {weight : Nat → Nat}

/-- The weight of a side in the adaptive selection. -/
def measuredWeight (table : RoutingTable S) (side : Nat) : Nat :=
  (table.adaptiveRouteStats[side]?.map AdaptiveRouteStats.weight).getD 1

/-- The selections that go by weight, with the weights they go by. -/
inductive Weighs (B : Build) (src : Option Nat) (sides : List Nat) (table : RoutingTable S) :
    (RoutingTable S → Outcome (RoutingTable S × List Nat)) → (Nat → Nat) → Prop
  | weighted (origin : RouteSelectionOrigin)
      (hmode : table.sourceRouteModes[src]? = some .weighted) :
      Weighs B src sides table (fun table => table.applyRouteSelection B src sides origin)
        (table.routeWeight src)
  | adaptive (hmeasured : ∀ side ∈ sides, table.adaptiveRouteStats.contains side = true) :
      Weighs B src sides table (fun table => table.applyAdaptiveDiscoverySelection B src sides)
        table.measuredWeight

/-- `n` selections in a row, with the sides that each of them returns. -/
def selections (select : RoutingTable S → Outcome (RoutingTable S × List Nat)) :
    Nat → RoutingTable S → Outcome (RoutingTable S × List (List Nat))
  | 0, table => .ok (table, [])
  | n + 1, table => do
    let first ← select table
    let later ← selections select n first.1
    .ok (later.1, first.2 :: later.2)

/-- A selection leaves all but the cursor of its source as it is. -/
theorem Weighs.advance (h : table.Weighs B src sides select weight) :
    (table.advance src).Weighs B src sides select weight := by
  cases h with
  | weighted origin hmode => exact .weighted origin hmode
  | adaptive hmeasured => exact .adaptive hmeasured

/-- A choice by weight takes the turn of the cursor among the ordered sides. -/
theorem Weighs.select_eq (h : table.Weighs B src sides select weight) (hmany : 2 ≤ sides.length)
    (hpos : 0 < totalWeight weight sides) (hlt : totalWeight weight sides < 2 ^ 64) :
    select table = .ok (table.takeTurn weight (totalWeight weight sides) src
      (sides.insertionSort (· ≤ ·))) := by
  have hperm := List.perm_insertionSort (· ≤ ·) sides
  have htotal : totalWeight weight (sides.insertionSort (· ≤ ·)) = totalWeight weight sides :=
    totalWeight_perm hperm
  have hsum := @sumWeights_eq_ok B (sides.insertionSort (· ≤ ·)) weight (by omega)
  rw [htotal] at hsum
  cases h with
  | weighted origin hmode =>
    have hfew : ¬sides.length ≤ 1 := by omega
    simp only [applyRouteSelection, if_neg hfew, hmode]
    rw [hsum, ok_bind, if_neg hpos.ne']
  | adaptive hmeasured =>
    have hunmeasured : ((sides.insertionSort (· ≤ ·)).filter fun side =>
        !table.adaptiveRouteStats.contains side) = [] := by
      apply List.filter_eq_nil_iff.mpr
      intro side hside
      simp [hmeasured side (hperm.subset hside)]
    simp only [applyAdaptiveDiscoverySelection, hunmeasured, List.isEmpty_nil, if_true]
    change sumWeights B table.measuredWeight _ >>= _ = _
    rw [hsum, ok_bind, if_neg hpos.ne']
    rfl

/-- Selections in a row take the turns behind the first cursor. -/
theorem Weighs.selections_eq (h : table.Weighs B src sides select weight)
    (hmany : 2 ≤ sides.length) (hpos : 0 < totalWeight weight sides)
    (hlt : totalWeight weight sides < 2 ^ 64) {n : Nat}
    (hcursor : (table.cursor src).toNat + n ≤ 2 ^ 64) :
    ∃ (table' : RoutingTable S) (picks : List Nat),
      selections select n table = .ok (table', picks.map fun side => [side]) ∧
        picks.length = n ∧ ∀ side, picks.count side =
          drawn weight (sides.insertionSort (· ≤ ·)) (table.cursor src).toNat 1 n side := by
  induction n generalizing table with
  | zero => exact ⟨table, [], rfl, rfl, fun side => by simp [drawn]⟩
  | succ n ih =>
    have htotal : totalWeight weight (sides.insertionSort (· ≤ ·)) = totalWeight weight sides :=
      totalWeight_perm (List.perm_insertionSort (· ≤ ·) sides)
    obtain ⟨first, hfirst⟩ : ∃ side, pickWeighted weight (sides.insertionSort (· ≤ ·))
        ((table.cursor src).toNat % totalWeight weight sides) = some side := by
      apply pickWeighted_isSome
      rw [htotal]
      exact Nat.mod_lt _ hpos
    have hselect : select table = .ok (table.advance src, [first]) := by
      rw [h.select_eq hmany hpos hlt, takeTurn, hfirst]
      rfl
    have hturn : ((table.advance src).cursor src).toNat =
        ((table.cursor src).toNat + 1) % 2 ^ 64 := by
      rw [cursor_advance, UInt64.toNat_add]
      rfl
    have hbound : ((table.cursor src).toNat + 1) % 2 ^ 64 + n ≤ 2 ^ 64 := by omega
    rw [← hturn] at hbound
    obtain ⟨table', picks, hselections, hlength, hcount⟩ := ih h.advance hbound
    refine ⟨table', first :: picks, ?_, by rw [List.length_cons, hlength], fun side => ?_⟩
    · rw [selections, hselect, ok_bind, hselections, ok_bind]
      rfl
    · have hlater : drawn weight (sides.insertionSort (· ≤ ·))
          ((table.advance src).cursor src).toNat 1 n side =
          drawn weight (sides.insertionSort (· ≤ ·)) ((table.cursor src).toNat + 1) 1 n side := by
        -- the cursor may wrap behind the last turn only
        cases n with
        | zero => simp [drawn]
        | succ n => rw [hturn, Nat.mod_eq_of_lt (by omega)]
      rw [drawn_one_succ, htotal, hfirst, List.count_cons, hcount, hlater]
      simp only [Option.some.injEq, beq_iff_eq]

end RoutingTable

/-- A round of weighted selections: each of them returns one candidate, and every candidate is
returned as often as its weight says, once for each time it is listed. -/
theorem selections_deal_by_weight {B : Build} {S : Schema} {table : RoutingTable S}
    {src : Option Nat} {sides : List Nat}
    {select : RoutingTable S → Outcome (RoutingTable S × List Nat)} {weight : Nat → Nat}
    (hweighs : table.Weighs B src sides select weight) (hmany : 2 ≤ sides.length)
    (hpos : 0 < totalWeight weight sides) (hlt : totalWeight weight sides < 2 ^ 64)
    (hcursor : (table.cursor src).toNat + totalWeight weight sides ≤ 2 ^ 64) :
    ∃ (table' : RoutingTable S) (picks : List Nat),
      RoutingTable.selections select (totalWeight weight sides) table =
        .ok (table', picks.map fun side => [side]) ∧
      picks.length = totalWeight weight sides ∧ (∀ side ∈ picks, side ∈ sides) ∧
      (∀ side, picks.count side = sides.count side * weight side) ∧
      (sides.Nodup → ∀ side ∈ sides, picks.count side = weight side) := by
  obtain ⟨table', picks, hselections, hlength, hdrawn⟩ :=
    hweighs.selections_eq hmany hpos hlt hcursor
  have hperm := List.perm_insertionSort (· ≤ ·) sides
  have hcount : ∀ side, picks.count side = sides.count side * weight side := by
    intro side
    rw [hdrawn, ← totalWeight_perm hperm, drawn_one_mul, hperm.count_eq]
  refine ⟨table', picks, hselections, hlength, fun side hside => ?_, hcount,
    fun hnodup side hside => ?_⟩
  · have hpicked := List.count_pos_iff.mpr hside
    rw [hcount] at hpicked
    exact List.count_pos_iff.mp (Nat.pos_of_mul_pos_right hpicked)
  · rw [hcount, List.count_eq_one_of_mem hnodup hside, Nat.one_mul]

/-- Three links of weights 1, 2 and 0. -/
def RoutingTable.threeLinks : RoutingTable defaultSchema :=
  ((RoutingTable.empty.setSourceRouteMode none .weighted).setRouteWeight ⟨none, 1⟩
    (some 2)).setRouteWeight ⟨none, 2⟩ (some 0)

/-- Three calls return one link once and another twice. -/
theorem selections_deal_by_weight_links :
    ∃ (table' : RoutingTable defaultSchema) (picks : List Nat),
      RoutingTable.selections (fun table => table.applyRouteSelection hostBuild none [2, 0, 1] .flood)
        3 .threeLinks = .ok (table', picks.map fun side => [side]) ∧
      picks.count 0 = 1 ∧ picks.count 1 = 2 ∧ picks.count 2 = 0 := by
  have hmode : RoutingTable.threeLinks.sourceRouteModes[(none : Option Nat)]? = some .weighted := by
    decide +kernel
  have hweights : RoutingTable.threeLinks.routeWeight none 0 = 1 ∧
      RoutingTable.threeLinks.routeWeight none 1 = 2 ∧
      RoutingTable.threeLinks.routeWeight none 2 = 0 := by decide +kernel
  have hcursor : (RoutingTable.threeLinks.cursor none).toNat = 0 := by decide +kernel
  obtain ⟨hfirst, hsecond, hthird⟩ := hweights
  have htotal : totalWeight (RoutingTable.threeLinks.routeWeight none) [2, 0, 1] = 3 := by
    simp [totalWeight, hfirst, hsecond, hthird]
  have hweighs : RoutingTable.threeLinks.Weighs hostBuild none [2, 0, 1] _ _ :=
    .weighted .flood hmode
  obtain ⟨table', picks, hselections, -, -, -, hexact⟩ := selections_deal_by_weight hweighs
    (by simp) (by rw [htotal]; decide) (by rw [htotal]; decide) (by rw [htotal, hcursor]; decide)
  rw [htotal] at hselections
  have hdealt := hexact (by simp)
  refine ⟨table', picks, hselections, ?_, ?_, ?_⟩
  · rw [hdealt 0 (by simp), hfirst]
  · rw [hdealt 1 (by simp), hsecond]
  · rw [hdealt 2 (by simp), hthird]

end Sedsprintf
