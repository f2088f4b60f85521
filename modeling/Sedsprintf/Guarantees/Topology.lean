import Sedsprintf.Discovery.Boards

/-!
# Topologies

src/discovery.rs:107-166. Normalizing keeps one board of every sender, and which one depends on how
the boards came in. Merging loses nothing, and is the same in any order.
-/
namespace Sedsprintf

open Lib

section Normalizing
variable {S : Schema} {boards : List (TopologyBoardNode S)}

/-- The boards have one normal form, in any order and by any sort, which says what they say. -/
structure Canonical (boards : List (TopologyBoardNode S)) : Prop where
  unique : ∀ boards' out out', boards'.Perm boards → NormalizesTo boards out →
    NormalizesTo boards' out' → out = out'
  idempotent : ∀ out out', NormalizesTo boards out → NormalizesTo out out' → out' = out
  summary : ∀ out, NormalizesTo boards out →
    summarizeTopologyBoards out = summarizeTopologyBoards boards

/-- Exactly the boards of which those of one sender say the same have a canonical form. -/
theorem canonical_iff : Canonical boards ↔ OneBoardPerSender boards := by
  constructor
  · intro h a ha b hb heq
    have hkeeps : ∀ board ∈ boards, ∃ out, NormalizesTo boards out ∧ normalizeBoard board ∈ out :=
      fun board hboard => exists_sortsTo_mem (List.mem_map_of_mem hboard)
    obtain ⟨out, hout, hkept⟩ := hkeeps a ha
    obtain ⟨out', hout', hkept'⟩ := hkeeps b hb
    rw [← h.unique boards out out' (List.Perm.refl _) hout hout'] at hkept'
    exact (normalizeBoard_eq_iff heq).mp (hout.keysAscend.eq_of_key hkept hkept' heq)
  · intro hone
    refine ⟨fun boards' out out' hperm hout hout' => ?_, fun out out' hout => hout.idem,
      fun out hout => summarizeTopologyBoards_congr (hout.viewOf_eq hone)⟩
    exact hout.eq (SortsTo.perm hout' (hperm.map normalizeBoard)) hone

/-- Two boards of one sender that reach different endpoints. -/
def sharedSender : List (TopologyBoardNode defaultSchema) :=
  [⟨"A", [0], [], []⟩, ⟨"A", [1], [], []⟩]

/-- One of the endpoints is lost. -/
theorem normalizing_loses_an_endpoint :
    ¬Canonical sharedSender ∧ summarizeTopologyBoards sharedSender = ([0, 1], []) ∧
      summarizeTopologyBoards (normalizeTopologyBoards sharedSender) = ([0], []) := by
  have hlost : summarizeTopologyBoards sharedSender = ([0, 1], []) ∧
      summarizeTopologyBoards (normalizeTopologyBoards sharedSender) = ([0], []) := by
    decide +kernel
  refine ⟨fun h => ?_, hlost⟩
  have hsummary := h.summary _ (normalizeTopologyBoards_normalizesTo sharedSender)
  rw [hlost.1, hlost.2] at hsummary
  exact absurd hsummary (by decide)

end Normalizing

section Joining
variable {S : Schema} {a b c : List (TopologyBoardNode S)}

theorem Normalized.nodup (h : Normalized a) : (a.map TopologyBoardNode.senderId).Nodup :=
  List.pairwise_map.mpr (h.ascending.imp fun hlt => hlt.ne)

/-- Merging normalized boards is a join: the canonical list of what all of them say. -/
theorem merge_is_join (ha : Normalized a) (hb : Normalized b) :
    mergeTopologyBoards a b = mergeTopologyBoards b a ∧
      mergeTopologyBoards (mergeTopologyBoards a b) c =
        mergeTopologyBoards a (mergeTopologyBoards b c) ∧
      mergeTopologyBoards a a = a ∧ mergeTopologyBoards [] a = a ∧ mergeTopologyBoards a [] = a ∧
      Normalized (mergeTopologyBoards a b) ∧
      viewOf (mergeTopologyBoards a b) = viewOf a ⊔ viewOf b := by
  have hmerge : ∀ {dst : List (TopologyBoardNode S)}, Normalized dst → ∀ src,
      Normalized (mergeTopologyBoards dst src) ∧
        viewOf (mergeTopologyBoards dst src) = viewOf dst ⊔ viewOf src :=
    fun hdst src => mergeTopologyBoards_view hdst.nodup src
  have hempty : Normalized ([] : List (TopologyBoardNode S)) := ⟨List.Pairwise.nil, by simp⟩
  have hab := hmerge ha b
  refine ⟨hab.1.ext (hmerge hb a).1 ?_, (hmerge hab.1 c).1.ext (hmerge ha _).1 ?_,
    (hmerge ha a).1.ext ha ?_, (hmerge hempty a).1.ext ha ?_, (hmerge ha []).1.ext ha ?_, hab⟩
  · rw [hab.2, (hmerge hb a).2, sup_comm]
  · rw [(hmerge hab.1 c).2, hab.2, (hmerge ha (mergeTopologyBoards b c)).2, (hmerge hb c).2, sup_assoc]
  · rw [(hmerge ha a).2, sup_idem]
  · rw [(hmerge hempty a).2, viewOf_nil, bot_sup_eq]
  · rw [(hmerge ha []).2, viewOf_nil, sup_bot_eq]

theorem merge_is_join_pair :
    let a : List (TopologyBoardNode defaultSchema) := [⟨"A", [0], [], ["B"]⟩]
    let b : List (TopologyBoardNode defaultSchema) := [⟨"A", [1], [], ["C"]⟩, ⟨"B", [0], ["B"], []⟩]
    mergeTopologyBoards a b = mergeTopologyBoards b a ∧
      mergeTopologyBoards (mergeTopologyBoards a b) b =
        mergeTopologyBoards a (mergeTopologyBoards b b) ∧
      mergeTopologyBoards a a = a ∧ mergeTopologyBoards [] a = a ∧ mergeTopologyBoards a [] = a ∧
      Normalized (mergeTopologyBoards a b) ∧
      viewOf (mergeTopologyBoards a b) = viewOf a ⊔ viewOf b :=
  merge_is_join ⟨List.pairwise_singleton _ _, by simp [normalizeBoard, sortDedup]⟩
    ⟨List.pairwise_pair.mpr (by decide), by simp [normalizeBoard, sortDedup]⟩

/-- The order in which boards are merged into a normalized list does not matter. -/
theorem merge_order_irrelevant (ha : Normalized a)
    {inputs inputs' : List (List (TopologyBoardNode S))} (hperm : inputs.Perm inputs') :
    inputs.foldl mergeTopologyBoards a = inputs'.foldl mergeTopologyBoards a := by
  have hfold : ∀ inputs : List (List (TopologyBoardNode S)), ∀ {a}, Normalized a →
      Normalized (inputs.foldl mergeTopologyBoards a) ∧
        viewOf (inputs.foldl mergeTopologyBoards a) =
          (inputs.map viewOf).foldl (· ⊔ ·) (viewOf a) := by
    intro inputs
    induction inputs with
    | nil => exact fun ha => ⟨ha, rfl⟩
    | cons first rest ih =>
      intro a ha
      obtain ⟨hmerged, hview⟩ := mergeTopologyBoards_view ha.nodup first
      obtain ⟨hrest, hrest'⟩ := ih hmerged
      refine ⟨hrest, ?_⟩
      rw [List.foldl_cons, List.map_cons, List.foldl_cons, hrest', hview]
  refine (hfold inputs ha).1.ext (hfold inputs' ha).1 ?_
  rw [(hfold inputs ha).2, (hfold inputs' ha).2]
  exact (hperm.map viewOf).foldl_eq (viewOf a)

end Joining
end Sedsprintf
