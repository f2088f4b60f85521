import Sedsprintf.Discovery
import Sedsprintf.Lib.Keyed
import Mathlib.Data.Set.Lattice

/-!
# Boards

src/discovery.rs:112-166. A list of boards says which boards there are, what each of them reaches
and what it is connected to. Normalized lists are the canonical forms of what lists say, and merging
them is the union of what they say.
-/
namespace Sedsprintf

open Lib

section Normal
variable {S : Schema} {boards boards' out : List (TopologyBoardNode S)}

/-- `out` is what `normalize_topology_boards` can make of the boards, whatever order
`sort_unstable_by` leaves those of one sender in. -/
def NormalizesTo (boards out : List (TopologyBoardNode S)) : Prop :=
  SortsTo TopologyBoardNode.senderId (boards.map normalizeBoard) out

theorem normalizeTopologyBoards_normalizesTo (boards : List (TopologyBoardNode S)) :
    NormalizesTo boards (normalizeTopologyBoards boards) := insertionSort_sortsTo _ _

/-- The senders ascend and every board is normal. -/
structure Normalized (boards : List (TopologyBoardNode S)) : Prop where
  ascending : KeysAscend TopologyBoardNode.senderId boards
  normal : ∀ board ∈ boards, normalizeBoard board = board

theorem normalizeBoard_idem (board : TopologyBoardNode S) :
    normalizeBoard (normalizeBoard board) = normalizeBoard board := by
  have hconnections : ((sortDedup (board.connections.filter fun peer => peer != board.senderId)).filter
      fun peer => peer != board.senderId) =
        sortDedup (board.connections.filter fun peer => peer != board.senderId) := by
    refine List.filter_eq_self.mpr fun peer hpeer => ?_
    exact (List.mem_filter.mp (mem_sortDedup.mp hpeer)).2
  simp only [normalizeBoard, hconnections, sortDedup_of_ascending (sortDedup_ascending _)]

theorem NormalizesTo.exists_of_mem (h : NormalizesTo boards out) {board : TopologyBoardNode S}
    (hboard : board ∈ out) : ∃ old ∈ boards, normalizeBoard old = board :=
  List.mem_map.mp (h.subset hboard)

theorem NormalizesTo.normalized (h : NormalizesTo boards out) : Normalized out := by
  refine ⟨h.keysAscend, fun board hboard => ?_⟩
  obtain ⟨old, -, rfl⟩ := h.exists_of_mem hboard
  exact normalizeBoard_idem old

/-- Two boards reach the same, and are connected to the same others. -/
structure TopologyBoardNode.SaysSame (a b : TopologyBoardNode S) : Prop where
  endpoints : ∀ ep, ep ∈ a.reachableEndpoints ↔ ep ∈ b.reachableEndpoints
  sources : ∀ name, name ∈ a.reachableTimesyncSources ↔ name ∈ b.reachableTimesyncSources
  connections : ∀ peer, peer ≠ a.senderId → (peer ∈ a.connections ↔ peer ∈ b.connections)

theorem TopologyBoardNode.SaysSame.refl (a : TopologyBoardNode S) : a.SaysSame a :=
  ⟨fun _ => .rfl, fun _ => .rfl, fun _ _ => .rfl⟩

/-- Normalizing leaves of a board what it says. -/
theorem normalizeBoard_eq_iff {a b : TopologyBoardNode S} (h : a.senderId = b.senderId) :
    normalizeBoard a = normalizeBoard b ↔ a.SaysSame b := by
  have hpeers : ∀ peer, peer ∈ (normalizeBoard b).connections ↔
      peer ∈ b.connections ∧ peer ≠ a.senderId := by
    intro peer
    simp [normalizeBoard, h]
  constructor
  · intro heq
    refine ⟨fun ep => ?_, fun name => ?_, fun peer hpeer => ?_⟩
    · have hmem : ep ∈ (normalizeBoard a).reachableEndpoints ↔
          ep ∈ (normalizeBoard b).reachableEndpoints := by rw [heq]
      simpa [normalizeBoard] using hmem
    · have hmem : name ∈ (normalizeBoard a).reachableTimesyncSources ↔
          name ∈ (normalizeBoard b).reachableTimesyncSources := by rw [heq]
      simpa [normalizeBoard] using hmem
    · have hmem := hpeers peer
      rw [← heq] at hmem
      simpa [normalizeBoard, hpeer] using hmem
  · intro hsame
    have hconnections : ∀ peer, peer ∈ a.connections.filter (fun peer => peer != a.senderId) ↔
        peer ∈ b.connections.filter (fun peer => peer != b.senderId) := by
      intro peer
      by_cases hself : peer = a.senderId
      · simp [hself, ← h]
      · simpa [hself, h ▸ hself] using hsame.connections peer hself
    simp only [normalizeBoard, h, sortDedup_congr hsame.endpoints, sortDedup_congr hsame.sources]
    rw [← h, sortDedup_congr hconnections, h]

/-- The boards of one sender say the same. -/
def OneBoardPerSender (boards : List (TopologyBoardNode S)) : Prop :=
  ∀ a ∈ boards, ∀ b ∈ boards, a.senderId = b.senderId → a.SaysSame b

theorem OneBoardPerSender.of_eq
    (h : ∀ a ∈ boards, ∀ b ∈ boards, a.senderId = b.senderId → a = b) :
    OneBoardPerSender boards := by
  intro a ha b hb heq
  rw [h a ha b hb heq]
  exact .refl b

theorem OneBoardPerSender.map (h : OneBoardPerSender boards) :
    ∀ a ∈ boards.map normalizeBoard, ∀ b ∈ boards.map normalizeBoard, a.senderId = b.senderId →
      a = b := by
  intro a ha b hb heq
  obtain ⟨old, hold, rfl⟩ := List.mem_map.mp ha
  obtain ⟨old', hold', rfl⟩ := List.mem_map.mp hb
  have hsender : old.senderId = old'.senderId := heq
  exact (normalizeBoard_eq_iff hsender).mpr (h old hold old' hold' hsender)

theorem Normalized.oneBoardPerSender (h : Normalized boards) : OneBoardPerSender boards :=
  .of_eq fun _ ha _ hb heq => h.ascending.eq_of_key ha hb heq

theorem NormalizesTo.mem_iff (h : NormalizesTo boards out) (hone : OneBoardPerSender boards)
    (board : TopologyBoardNode S) : board ∈ out ↔ ∃ old ∈ boards, normalizeBoard old = board := by
  rw [SortsTo.mem_iff h hone.map, List.mem_map]

theorem NormalizesTo.eq (h : NormalizesTo boards out) {out' : List (TopologyBoardNode S)}
    (h' : NormalizesTo boards out') (hone : OneBoardPerSender boards) : out = out' :=
  SortsTo.eq h h' hone.map

end Normal

section Views
variable {S : Schema} {boards boards' out : List (TopologyBoardNode S)}

/-- The boards, and the endpoints, the time sources and the connections of each. -/
abbrev TopologyView (S : Schema) : Type :=
  Set String × Set (String × S.DataEndpoint) × Set (String × String) × Set (String × String)

/-- What a list of boards says. A board is not connected to itself. -/
def viewOf (boards : List (TopologyBoardNode S)) : TopologyView S :=
  ({sender | ∃ board ∈ boards, board.senderId = sender},
    {e | ∃ board ∈ boards, board.senderId = e.1 ∧ e.2 ∈ board.reachableEndpoints},
    {e | ∃ board ∈ boards, board.senderId = e.1 ∧ e.2 ∈ board.reachableTimesyncSources},
    {e | e.2 ≠ e.1 ∧ ∃ board ∈ boards, board.senderId = e.1 ∧ e.2 ∈ board.connections})

theorem viewOf_map_normalizeBoard (boards : List (TopologyBoardNode S)) :
    viewOf (boards.map normalizeBoard) = viewOf boards := by
  simp only [viewOf, List.mem_map, exists_exists_and_eq_and, normalizeBoard, mem_sortDedup,
    List.mem_filter, bne_iff_ne]
  refine Prod.ext rfl (Prod.ext rfl (Prod.ext rfl (Set.ext fun e => ?_)))
  constructor
  · rintro ⟨hself, board, hboard, hsender, hpeer, -⟩
    exact ⟨hself, board, hboard, hsender, hpeer⟩
  · rintro ⟨hself, board, hboard, hsender, hpeer⟩
    exact ⟨hself, board, hboard, hsender, hpeer, hsender ▸ hself⟩

theorem viewOf_congr (h : ∀ board, board ∈ boards ↔ board ∈ boards') :
    viewOf boards = viewOf boards' := by
  simp only [viewOf, h]

theorem NormalizesTo.viewOf_eq (h : NormalizesTo boards out) (hone : OneBoardPerSender boards) :
    viewOf out = viewOf boards := by
  rw [← viewOf_map_normalizeBoard boards]
  refine viewOf_congr fun board => ?_
  rw [h.mem_iff hone, List.mem_map]

/-- What a board of a normalized list has is what the list says of its sender. -/
theorem Normalized.mem_view (h : Normalized boards) {board : TopologyBoardNode S}
    (hboard : board ∈ boards) :
    (∀ ep, ep ∈ board.reachableEndpoints ↔ (board.senderId, ep) ∈ (viewOf boards).2.1) ∧
      (∀ source, source ∈ board.reachableTimesyncSources ↔
        (board.senderId, source) ∈ (viewOf boards).2.2.1) ∧
      ∀ peer, peer ∈ board.connections ↔ (board.senderId, peer) ∈ (viewOf boards).2.2.2 := by
  have hsame : ∀ other ∈ boards, other.senderId = board.senderId → other = board :=
    fun other hother heq => h.ascending.eq_of_key hother hboard heq
  refine ⟨fun ep => ⟨fun hep => ⟨board, hboard, rfl, hep⟩, ?_⟩,
    fun source => ⟨fun hsource => ⟨board, hboard, rfl, hsource⟩, ?_⟩,
    fun peer => ⟨fun hpeer => ⟨?_, board, hboard, rfl, hpeer⟩, ?_⟩⟩
  · rintro ⟨other, hother, heq, hep⟩
    exact hsame other hother heq ▸ hep
  · rintro ⟨other, hother, heq, hsource⟩
    exact hsame other hother heq ▸ hsource
  · rw [← h.normal board hboard, normalizeBoard] at hpeer
    exact bne_iff_ne.mp (List.mem_filter.mp (mem_sortDedup.mp hpeer)).2
  · rintro ⟨-, other, hother, heq, hpeer⟩
    exact hsame other hother heq ▸ hpeer

/-- Normalized lists that say the same are the same. -/
theorem Normalized.ext (h : Normalized boards) (h' : Normalized boards')
    (hview : viewOf boards = viewOf boards') : boards = boards' := by
  have hsub : ∀ {boards boards' : List (TopologyBoardNode S)}, Normalized boards →
      Normalized boards' → viewOf boards = viewOf boards' → ∀ board ∈ boards, board ∈ boards' := by
    intro boards boards' h h' hview board hboard
    have hknown : board.senderId ∈ (viewOf boards).1 := ⟨board, hboard, rfl⟩
    rw [hview] at hknown
    obtain ⟨other, hother, heq⟩ := hknown
    obtain ⟨hendpoints, hsources, hconnections⟩ := h.mem_view hboard
    obtain ⟨hendpoints', hsources', hconnections'⟩ := h'.mem_view hother
    rw [hview, ← heq] at hendpoints hsources hconnections
    suffices hsame : board = other by rwa [hsame]
    rw [← h.normal board hboard, ← h'.normal other hother, normalizeBoard, normalizeBoard,
      TopologyBoardNode.mk.injEq]
    refine ⟨heq.symm, sortDedup_congr fun ep => (hendpoints ep).trans (hendpoints' ep).symm,
      sortDedup_congr fun source => (hsources source).trans (hsources' source).symm,
      sortDedup_congr fun peer => ?_⟩
    rw [List.mem_filter, List.mem_filter, hconnections, hconnections', heq]
  exact h.ascending.ext h'.ascending fun board =>
    ⟨hsub h h' hview board, hsub h' h hview.symm board⟩

theorem NormalizesTo.idem {out' : List (TopologyBoardNode S)} (h : NormalizesTo boards out)
    (h' : NormalizesTo out out') : out' = out :=
  h'.normalized.ext h.normalized (h'.viewOf_eq h.normalized.oneBoardPerSender)

/-- The summary is of what is said. -/
theorem summarizeTopologyBoards_congr (h : viewOf boards = viewOf boards') :
    summarizeTopologyBoards boards = summarizeTopologyBoards boards' := by
  have hendpoints : ∀ (boards : List (TopologyBoardNode S)) (ep : S.DataEndpoint),
      ep ∈ boards.flatMap (fun board => board.reachableEndpoints) ↔
        ∃ sender, (sender, ep) ∈ (viewOf boards).2.1 := by
    intro boards ep
    simp [viewOf, List.mem_flatMap]
  have hsources : ∀ (boards : List (TopologyBoardNode S)) (source : String),
      source ∈ boards.flatMap (fun board => board.reachableTimesyncSources) ↔
        ∃ sender, (sender, source) ∈ (viewOf boards).2.2.1 := by
    intro boards source
    simp [viewOf, List.mem_flatMap]
  refine Prod.ext (sortDedup_congr fun ep => ?_) (sortDedup_congr fun source => ?_)
  · rw [hendpoints, hendpoints, h]
  · rw [hsources, hsources, h]

end Views

section Merging
variable {S : Schema} {dst src : List (TopologyBoardNode S)}

/-- What a board adds to the one of its sender. -/
def extendBoard (entry board : TopologyBoardNode S) : TopologyBoardNode S where
  senderId := entry.senderId
  reachableEndpoints := entry.reachableEndpoints ++ board.reachableEndpoints
  reachableTimesyncSources := entry.reachableTimesyncSources ++ board.reachableTimesyncSources
  connections := entry.connections ++ board.connections

/-- The boards of `dst` by sender; of several of one sender the last. -/
def boardsBySender (dst : List (TopologyBoardNode S)) : OrdMap String (TopologyBoardNode S) :=
  dst.foldl (fun merged board => merged.insert board.senderId board) ∅

/-- The loop of `merge_topology_boards`. -/
def extendBoards (merged : OrdMap String (TopologyBoardNode S)) (src : List (TopologyBoardNode S)) :
    OrdMap String (TopologyBoardNode S) :=
  src.foldl (fun merged board => merged.insert board.senderId
    (extendBoard (merged[board.senderId]?.getD ⟨board.senderId, [], [], []⟩) board)) merged

/-- `merge_topology_boards`. The boards in the map are of different senders, so that it does not
matter how its last step sorts. -/
def mergeTopologyBoards (dst src : List (TopologyBoardNode S)) : List (TopologyBoardNode S) :=
  normalizeTopologyBoards ((extendBoards (boardsBySender dst) src).toList.map Prod.snd)

/-- Every board is filed under its sender. -/
def Filed (merged : OrdMap String (TopologyBoardNode S)) : Prop :=
  ∀ (sender : String) (board : TopologyBoardNode S),
    merged[sender]? = some board → board.senderId = sender

theorem Filed.insert {merged : OrdMap String (TopologyBoardNode S)} (h : Filed merged)
    {sender : String} {board : TopologyBoardNode S} (hsender : board.senderId = sender) :
    Filed (merged.insert sender board) := by
  intro sender' board' hget
  rw [OrdMap.get?_insert] at hget
  split at hget
  · rename_i heq
    cases hget
    exact hsender.trans heq
  · exact h sender' board' hget

theorem mem_values {merged : OrdMap String (TopologyBoardNode S)} (h : Filed merged)
    (board : TopologyBoardNode S) :
    board ∈ merged.toList.map Prod.snd ↔ merged[board.senderId]? = some board := by
  rw [List.mem_map]
  constructor
  · rintro ⟨⟨sender, other⟩, hmem, rfl⟩
    have hget := Std.ExtTreeMap.mem_toList_iff_getElem?_eq_some.mp hmem
    rw [h sender other hget]
    exact hget
  · intro hget
    exact ⟨(board.senderId, board), Std.ExtTreeMap.mem_toList_iff_getElem?_eq_some.mpr hget, rfl⟩

theorem oneBoardPerSender_values {merged : OrdMap String (TopologyBoardNode S)} (h : Filed merged) :
    OneBoardPerSender (merged.toList.map Prod.snd) := by
  refine .of_eq fun a ha b hb heq => ?_
  rw [mem_values h] at ha hb
  rw [heq, hb] at ha
  exact (Option.some.inj ha).symm

/-- The last board of a sender is the one that is filed. -/
theorem get?_boardsBySender_aux {merged : OrdMap String (TopologyBoardNode S)}
    (hsenders : (dst.map TopologyBoardNode.senderId).Nodup) (board : TopologyBoardNode S) :
    (dst.foldl (fun merged board => merged.insert board.senderId board) merged)[board.senderId]? =
        some board ↔
      board ∈ dst ∨ board.senderId ∉ dst.map TopologyBoardNode.senderId ∧
        merged[board.senderId]? = some board := by
  induction dst generalizing merged with
  | nil => simp
  | cons first rest ih =>
    rw [List.map_cons, List.nodup_cons] at hsenders
    rw [List.foldl_cons, ih hsenders.2, OrdMap.get?_insert, List.mem_cons, List.map_cons,
      List.mem_cons]
    by_cases heq : first.senderId = board.senderId
    · have hrest : board.senderId ∉ rest.map TopologyBoardNode.senderId := heq ▸ hsenders.1
      rw [if_pos heq, Option.some.injEq]
      constructor
      · rintro (hboard | ⟨-, rfl⟩)
        · exact .inl (.inr hboard)
        · exact .inl (.inl rfl)
      · rintro ((rfl | hboard) | ⟨hnone, -⟩)
        · exact .inr ⟨hrest, rfl⟩
        · exact .inl hboard
        · exact absurd (.inl heq.symm) hnone
    · rw [if_neg heq]
      have hne : board ≠ first := fun h => heq (congrArg TopologyBoardNode.senderId h).symm
      have hsender : board.senderId ≠ first.senderId := fun h => heq h.symm
      simp only [hne, hsender, false_or]

theorem boardsBySender_filed (dst : List (TopologyBoardNode S)) : Filed (boardsBySender dst) := by
  have hfold : ∀ {merged : OrdMap String (TopologyBoardNode S)}, Filed merged →
      Filed (dst.foldl (fun merged board => merged.insert board.senderId board) merged) := by
    induction dst with
    | nil => exact fun h => h
    | cons first rest ih => exact fun h => ih (h.insert rfl)
  exact hfold fun sender board hget => by simp at hget

theorem boardsBySender_view (hsenders : (dst.map TopologyBoardNode.senderId).Nodup) :
    viewOf ((boardsBySender dst).toList.map Prod.snd) = viewOf dst := by
  refine viewOf_congr fun board => ?_
  rw [mem_values (boardsBySender_filed dst), boardsBySender, get?_boardsBySender_aux hsenders]
  simp

theorem viewOf_values {merged : OrdMap String (TopologyBoardNode S)} (h : Filed merged) :
    viewOf (merged.toList.map Prod.snd) =
      ({sender | ∃ board, merged[sender]? = some board},
        {e | ∃ board, merged[e.1]? = some board ∧ e.2 ∈ board.reachableEndpoints},
        {e | ∃ board, merged[e.1]? = some board ∧ e.2 ∈ board.reachableTimesyncSources},
        {e | e.2 ≠ e.1 ∧ ∃ board, merged[e.1]? = some board ∧ e.2 ∈ board.connections}) := by
  have hfiled : ∀ (sender : String) (has : TopologyBoardNode S → Prop),
      (∃ board ∈ merged.toList.map Prod.snd, board.senderId = sender ∧ has board) ↔
        ∃ board, merged[sender]? = some board ∧ has board := by
    intro sender has
    constructor
    · rintro ⟨board, hboard, rfl, hhas⟩
      exact ⟨board, (mem_values h board).mp hboard, hhas⟩
    · rintro ⟨board, hget, hhas⟩
      have hsender := h sender board hget
      exact ⟨board, (mem_values h board).mpr (hsender.symm ▸ hget), hsender, hhas⟩
  have hknown : ∀ sender, (∃ board ∈ merged.toList.map Prod.snd, board.senderId = sender) ↔
      ∃ board, merged[sender]? = some board := by
    intro sender
    simpa using hfiled sender fun _ => True
  simp only [viewOf, hfiled, hknown]

theorem viewOf_cons (board : TopologyBoardNode S) (rest : List (TopologyBoardNode S)) :
    viewOf (board :: rest) = viewOf [board] ⊔ viewOf rest := by
  simp only [viewOf, List.mem_cons, List.not_mem_nil, or_false, exists_eq_left, or_and_right,
    exists_or, and_or_left]
  rfl

theorem viewOf_nil : viewOf ([] : List (TopologyBoardNode S)) = ⊥ := by
  simp [viewOf]
  rfl

/-- A board adds what it says. -/
theorem extendBoard_view {merged : OrdMap String (TopologyBoardNode S)} (h : Filed merged)
    (board : TopologyBoardNode S) :
    Filed (merged.insert board.senderId
        (extendBoard (merged[board.senderId]?.getD ⟨board.senderId, [], [], []⟩) board)) ∧
      viewOf ((merged.insert board.senderId (extendBoard
          (merged[board.senderId]?.getD ⟨board.senderId, [], [], []⟩) board)).toList.map Prod.snd) =
        viewOf (merged.toList.map Prod.snd) ⊔ viewOf [board] := by
  have hsender : (extendBoard (merged[board.senderId]?.getD ⟨board.senderId, [], [], []⟩)
      board).senderId = board.senderId := by
    cases hget : merged[board.senderId]? with
    | none => rfl
    | some old => exact h _ old hget
  have hfiled := h.insert hsender
  refine ⟨hfiled, ?_⟩
  have hknown : ∀ sender, (∃ entry, (merged.insert board.senderId (extendBoard
      (merged[board.senderId]?.getD ⟨board.senderId, [], [], []⟩) board))[sender]? = some entry) ↔
        (∃ entry, merged[sender]? = some entry) ∨ board.senderId = sender := by
    intro sender
    rw [OrdMap.get?_insert]
    split <;> simp_all
  have hhas : ∀ (sender : String) (has : TopologyBoardNode S → Prop),
      (∀ x y, has (extendBoard x y) ↔ has x ∨ has y) → ¬has ⟨board.senderId, [], [], []⟩ →
      ((∃ entry, (merged.insert board.senderId (extendBoard
          (merged[board.senderId]?.getD ⟨board.senderId, [], [], []⟩) board))[sender]? = some entry ∧
            has entry) ↔
        (∃ entry, merged[sender]? = some entry ∧ has entry) ∨
          board.senderId = sender ∧ has board) := by
    intro sender has hextend hempty
    rw [OrdMap.get?_insert]
    by_cases heq : board.senderId = sender
    · rw [if_pos heq]
      cases hget : merged[board.senderId]? with
      | none => simp [← heq, hget, hextend, hempty]
      | some old => simp [← heq, hget, hextend]
    · simp [heq]
  rw [viewOf_values hfiled, viewOf_values h]
  simp only [viewOf, List.mem_singleton, exists_eq_left, hknown]
  refine Prod.ext rfl (Prod.ext ?_ (Prod.ext ?_ ?_))
  · refine Set.ext fun e => hhas e.1 (fun entry => e.2 ∈ entry.reachableEndpoints) ?_ ?_
    · simp [extendBoard]
    · simp
  · refine Set.ext fun e => hhas e.1 (fun entry => e.2 ∈ entry.reachableTimesyncSources) ?_ ?_
    · simp [extendBoard]
    · simp
  · refine Set.ext fun e => (and_congr_right fun _ =>
      hhas e.1 (fun entry => e.2 ∈ entry.connections) ?_ ?_).trans and_or_left
    · simp [extendBoard]
    · simp

theorem extendBoards_view {merged : OrdMap String (TopologyBoardNode S)} (h : Filed merged)
    (src : List (TopologyBoardNode S)) :
    Filed (extendBoards merged src) ∧ viewOf ((extendBoards merged src).toList.map Prod.snd) =
      viewOf (merged.toList.map Prod.snd) ⊔ viewOf src := by
  induction src generalizing merged with
  | nil =>
    refine ⟨h, ?_⟩
    rw [viewOf_nil, sup_bot_eq]
    rfl
  | cons board rest ih =>
    obtain ⟨hfiled, hview⟩ := extendBoard_view h board
    obtain ⟨hfiled', hview'⟩ := ih hfiled
    refine ⟨hfiled', ?_⟩
    rw [viewOf_cons, ← sup_assoc, ← hview]
    exact hview'

/-- Merging is the union of what both say. -/
theorem mergeTopologyBoards_view (hsenders : (dst.map TopologyBoardNode.senderId).Nodup)
    (src : List (TopologyBoardNode S)) :
    Normalized (mergeTopologyBoards dst src) ∧
      viewOf (mergeTopologyBoards dst src) = viewOf dst ⊔ viewOf src := by
  obtain ⟨hfiled, hview⟩ := extendBoards_view (boardsBySender_filed dst) src
  have hnormalizes := normalizeTopologyBoards_normalizesTo
    ((extendBoards (boardsBySender dst) src).toList.map Prod.snd)
  refine ⟨hnormalizes.normalized, ?_⟩
  rw [mergeTopologyBoards, hnormalizes.viewOf_eq (oneBoardPerSender_values hfiled), hview,
    boardsBySender_view hsenders]

end Merging
end Sedsprintf
