import Sedsprintf.Lib.OrdMap

/-!
# Bounded caches

A map of bounded size with the order in which its keys were noted. Keys leave the map on their own
ways; the order finds out when the next key is noted, and drops the oldest one where it is full.
-/
namespace Sedsprintf.Lib

section Notes
variable {κ : Type}

/-- `a` was noted for the last time before `b` was. -/
def NotedBefore (notes : List κ) (a b : κ) : Prop :=
  ∃ before after, notes = before ++ after ∧ a ∈ before ∧ a ∉ after ∧ b ∈ after

variable {notes : List κ} {a b k : κ}

theorem NotedBefore.ne (h : NotedBefore notes a b) : a ≠ b := by
  obtain ⟨before, after, -, -, ha, hb⟩ := h
  rintro rfl
  exact ha hb

/-- Another key is noted. -/
theorem NotedBefore.snoc (h : NotedBefore notes a b) (hk : a ≠ k) : NotedBefore (notes ++ [k]) a b := by
  obtain ⟨before, after, rfl, hbefore, ha, hb⟩ := h
  refine ⟨before, after ++ [k], List.append_assoc _ _ _, hbefore, ?_, List.mem_append_left _ hb⟩
  simpa using ⟨ha, hk⟩

theorem notedBefore_last (ha : a ∈ notes) (hk : a ≠ k) : NotedBefore (notes ++ [k]) a k :=
  ⟨notes, [k], rfl, ha, by simpa using hk, List.mem_singleton_self k⟩

end Notes

/-- A run whose steps note something or nothing, and its notes. -/
inductive NotedRun {σ ν : Type} (step : Option ν → σ → σ → Prop) : List ν → σ → σ → Prop
  | refl (s : σ) : NotedRun step [] s s
  | tail {notes : List ν} {note : Option ν} {s s' s'' : σ} (run : NotedRun step notes s s')
      (last : step note s' s'') : NotedRun step (notes ++ note.toList) s s''

/-- What the steps keep of the states and the notes there were. -/
theorem NotedRun.invariant {σ ν : Type} {step : Option ν → σ → σ → Prop} {inv : List ν → σ → Prop}
    (hstep : ∀ {note notes s s'}, step note s s' → inv notes s → inv (notes ++ note.toList) s')
    {notes : List ν} {s s' : σ} (hrun : NotedRun step notes s s') (hs : inv [] s) : inv notes s' := by
  induction hrun with
  | refl => exact hs
  | tail _ last ih => exact hstep last (ih hs)

/-- A map, and its keys in the order they were noted, with others that have left it. -/
structure NotedCache (κ α : Type) [Ord κ] where
  entries : OrdMap κ α
  order : List κ

namespace NotedCache
variable {κ α : Type} [Ord κ] [Std.TransOrd κ]

def empty : NotedCache κ α := ⟨∅, []⟩

/-- The oldest keys go while there are `cap` of them. -/
def popOldest (cap : Nat) : List κ → OrdMap κ α → List κ × OrdMap κ α
  | [], entries => ([], entries)
  | oldest :: rest, entries =>
    if cap ≤ (oldest :: rest).length then popOldest cap rest (entries.erase oldest)
    else (oldest :: rest, entries)

theorem popOldest_of_lt {cap : Nat} {order : List κ} (h : order.length < cap)
    (entries : OrdMap κ α) : popOldest cap order entries = (order, entries) := by
  cases order with
  | nil => rfl
  | cons oldest rest => rw [popOldest, if_neg (Nat.not_le.mpr h)]

theorem popOldest_of_eq {cap : Nat} {oldest : κ} {rest : List κ}
    (h : (oldest :: rest).length = cap) (entries : OrdMap κ α) :
    popOldest cap (oldest :: rest) entries = (rest, entries.erase oldest) := by
  rw [popOldest, if_pos (Nat.le_of_eq h.symm)]
  exact popOldest_of_lt (by rw [← h, List.length_cons]; omega) _

/-- No key comes in. -/
theorem popOldest_get?_of_none [Std.LawfulEqOrd κ] [DecidableEq κ] {cap : Nat} {order : List κ}
    {entries : OrdMap κ α} {k : κ} (h : entries[k]? = none) :
    (popOldest cap order entries).2[k]? = none := by
  induction order generalizing entries with
  | nil => exact h
  | cons oldest rest ih =>
    unfold popOldest
    split
    · refine ih ?_
      rw [OrdMap.get?_erase, h, ite_self]
    · exact h

/-- A cache within its bounds: what is in the map is in the order, and the order has every key once. -/
structure Consistent (cap : Nat) (c : NotedCache κ α) : Prop where
  size_le : c.entries.size ≤ cap
  keys : ∀ k ∈ c.entries, k ∈ c.order
  nodup : c.order.Nodup
  length_le : c.order.length ≤ cap

/-- The bounds of a cache, and the order of its keys under the notes there were. -/
structure Tracks (cap : Nat) (notes : List κ) (c : NotedCache κ α) : Prop where
  keys : ∀ k ∈ c.entries, k ∈ c.order
  noted : ∀ k ∈ c.order, k ∈ notes
  recent : c.order.Pairwise (NotedBefore notes)
  length_le : c.order.length ≤ cap

namespace Tracks
variable {cap : Nat} {notes : List κ} {c : NotedCache κ α} {k : κ} {entries : OrdMap κ α}

theorem empty : Tracks cap notes (NotedCache.empty : NotedCache κ α) :=
  ⟨fun _ hk => absurd hk Std.ExtTreeMap.not_mem_empty, fun _ hk => (nomatch hk), .nil,
    Nat.zero_le _⟩

/-- Keys leave the map, or change their values. -/
theorem fewer (h : Tracks cap notes c) (hentries : ∀ k ∈ entries, k ∈ c.entries) :
    Tracks cap notes ⟨entries, c.order⟩ :=
  ⟨fun k hk => h.keys k (hentries k hk), h.noted, h.recent, h.length_le⟩

theorem nodup (h : Tracks cap notes c) : c.order.Nodup := h.recent.imp NotedBefore.ne

/-- A key goes to the end of what is kept of the order. -/
theorem push (h : Tracks cap notes c) {kept : List κ} (hkept : kept.Sublist c.order)
    (hk : k ∉ kept) (hroom : kept.length < cap) (hentries : ∀ a ∈ entries, a = k ∨ a ∈ kept) :
    Tracks cap (notes ++ [k]) ⟨entries, kept ++ [k]⟩ := by
  have hne : ∀ a ∈ kept, a ≠ k := fun a ha heq => hk (heq ▸ ha)
  constructor
  · intro a ha
    rcases hentries a ha with rfl | hmem
    · exact List.mem_append_right _ (List.mem_singleton_self a)
    · exact List.mem_append_left _ hmem
  · intro a ha
    rcases List.mem_append.mp ha with hmem | hlast
    · exact List.mem_append_left _ (h.noted a (hkept.subset hmem))
    · exact List.mem_append_right _ hlast
  · refine List.pairwise_append.mpr ⟨?_, List.pairwise_singleton _ _, ?_⟩
    · refine (h.recent.sublist hkept).imp_of_mem fun ha _ hrecent => ?_
      exact hrecent.snoc (hne _ ha)
    · intro a ha b hb
      obtain rfl := List.mem_singleton.mp hb
      exact notedBefore_last (h.noted a (hkept.subset ha)) (hne a ha)
  · rw [List.length_append, List.length_singleton]
    exact hroom

variable [Std.LawfulEqOrd κ]

theorem size_le (h : Tracks cap notes c) : c.entries.size ≤ cap := by
  have hsub : c.entries.keys.Subperm c.order :=
    (List.subperm_of_subset Std.ExtTreeMap.nodup_keys fun k hk =>
      h.keys k (Std.ExtTreeMap.mem_keys.mp hk))
  have hlength := hsub.length_le
  rw [Std.ExtTreeMap.length_keys] at hlength
  exact hlength.trans h.length_le

theorem consistent (h : Tracks cap notes c) : c.Consistent cap :=
  ⟨h.size_le, h.keys, h.nodup, h.length_le⟩

end Tracks

section Note
variable [DecidableEq κ]

/-- The order without the keys that have left the map, and without `k`. -/
def others (c : NotedCache κ α) (k : κ) : List κ :=
  c.order.filter fun other => decide (other ∈ c.entries) && other != k

/-- Key `k` is noted with a value. -/
def note (cap : Nat) (c : NotedCache κ α) (k : κ) (v : α) : NotedCache κ α where
  entries := (popOldest cap (c.others k) c.entries).2.insert k v
  order := (popOldest cap (c.others k) c.entries).1 ++ [k]

variable {cap : Nat} {notes : List κ} {c : NotedCache κ α} {k : κ} {v : α}

theorem mem_others {a : κ} : a ∈ c.others k ↔ a ∈ c.order ∧ a ∈ c.entries ∧ a ≠ k := by
  simp [others]

theorem others_eq (c : NotedCache κ α) (k : κ) :
    c.others k = c.order.filter fun other => c.entries.contains other && other != k := by
  refine List.filter_congr fun other _ => ?_
  have hmem : decide (other ∈ c.entries) = c.entries.contains other := by
    rw [Bool.eq_iff_iff, decide_eq_true_iff, Std.ExtTreeMap.mem_iff_contains]
  rw [hmem]

/-- A note finds room, or makes it at the cost of the oldest key of the others. -/
theorem Tracks.note_cases (h : Tracks cap notes c) (hcap : 1 ≤ cap) :
    ((c.others k).length < cap ∧ c.note cap k v = ⟨c.entries.insert k v, c.others k ++ [k]⟩) ∨
      ∃ oldest rest, c.others k = oldest :: rest ∧ (c.others k).length = cap ∧
        c.note cap k v = ⟨(c.entries.erase oldest).insert k v, rest ++ [k]⟩ := by
  have hle : (c.others k).length ≤ cap := (List.length_filter_le _ _).trans h.length_le
  unfold NotedCache.note
  rcases Nat.lt_or_eq_of_le hle with hroom | hfull
  · left
    rw [popOldest_of_lt hroom]
    exact ⟨hroom, rfl⟩
  · right
    cases hothers : c.others k with
    | nil =>
      rw [hothers] at hfull
      simp at hfull
      omega
    | cons oldest rest =>
      rw [hothers] at hfull
      rw [popOldest_of_eq hfull]
      exact ⟨oldest, rest, rfl, hfull, rfl⟩

variable [Std.LawfulEqOrd κ]

theorem Tracks.note (h : Tracks cap notes c) (hcap : 1 ≤ cap) (k : κ) (v : α) :
    Tracks cap (notes ++ [k]) (c.note cap k v) := by
  have hkept : ∀ a ∈ c.entries, a ≠ k → a ∈ c.others k := fun a ha hne =>
    mem_others.mpr ⟨h.keys a ha, ha, hne⟩
  have hsub : (c.others k).Sublist c.order := List.filter_sublist
  have hk : k ∉ c.others k := fun hmem => (mem_others.mp hmem).2.2 rfl
  rcases h.note_cases (k := k) (v := v) hcap with ⟨hroom, heq⟩ | ⟨oldest, rest, hothers, hfull, heq⟩
  · rw [heq]
    refine h.push hsub hk hroom fun a ha => ?_
    by_cases hne : a = k
    · exact .inl hne
    · refine .inr (hkept a ?_ hne)
      simpa [Ne.symm hne] using ha
  · rw [heq]
    rw [hothers] at hsub hk hfull hkept
    refine h.push ((List.sublist_cons_self oldest rest).trans hsub)
      (fun hmem => hk (List.mem_cons_of_mem _ hmem)) (by rw [← hfull]; simp) fun a ha => ?_
    by_cases hne : a = k
    · exact .inl hne
    · have hleft : oldest ≠ a ∧ a ∈ c.entries := by simpa [Ne.symm hne] using ha
      rcases List.mem_cons.mp (hkept a hleft.2 hne) with heq | hmem
      · exact absurd heq.symm hleft.1
      · exact .inr hmem

/-- A new key that finds the cache full takes the place of the key that was noted least recently
of those in the map, and of no other. -/
def EvictsOldest (cap : Nat) (notes : List κ) (entries entries' : OrdMap κ α) (k : κ) (v : α) :
    Prop :=
  k ∉ entries → entries.size = cap →
    ∃ oldest ∈ entries, (∀ other ∈ entries, other ≠ oldest → NotedBefore notes oldest other) ∧
      ∀ a, entries'[a]? = if a = k then some v else if a = oldest then none else entries[a]?

omit [Std.LawfulEqOrd κ] in
theorem EvictsOldest.leaves {cap : Nat} {notes : List κ} {entries entries' : OrdMap κ α} {k : κ}
    {v : α} (h : EvictsOldest cap notes entries entries' k v) (hnew : k ∉ entries)
    (hfull : entries.size = cap) : ∃ oldest ∈ entries, oldest ∉ entries' := by
  obtain ⟨oldest, holdest, -, hafter⟩ := h hnew hfull
  refine ⟨oldest, holdest, fun hmem => ?_⟩
  obtain ⟨v', hv'⟩ := OrdMap.mem_iff_get?.mp hmem
  have hne : oldest ≠ k := fun heq => hnew (heq ▸ holdest)
  rw [hafter, if_neg hne, if_pos rfl] at hv'
  cases hv'

theorem Tracks.evictsOldest (h : Tracks cap notes c) (hcap : 1 ≤ cap) (k : κ) (v : α) :
    EvictsOldest cap notes c.entries (c.note cap k v).entries k v := by
  intro hnew hsize
  have hmem : ∀ a, a ∈ c.others k ↔ a ∈ c.entries := fun a => by
    rw [mem_others]
    exact ⟨fun ha => ha.2.1, fun ha => ⟨h.keys a ha, ha, fun heq => hnew (heq ▸ ha)⟩⟩
  have hlength : (c.others k).length = cap := by
    rw [← hsize]
    exact (OrdMap.size_eq_length (h.nodup.filter _) hmem).symm
  rcases h.note_cases (k := k) (v := v) hcap with ⟨hroom, -⟩ | ⟨oldest, rest, hothers, -, heq⟩
  · omega
  · rw [hothers] at hmem
    have hrecent : (c.others k).Pairwise (NotedBefore notes) := h.recent.filter _
    rw [hothers, List.pairwise_cons] at hrecent
    refine ⟨oldest, (hmem oldest).mp List.mem_cons_self, fun other hother hne => ?_, fun a => ?_⟩
    · rcases List.mem_cons.mp ((hmem other).mpr hother) with rfl | hrest
      · exact absurd rfl hne
      · exact hrecent.1 other hrest
    · rw [heq, OrdMap.get?_insert, OrdMap.get?_erase]
      simp only [eq_comm]

end Note
end NotedCache
end Sedsprintf.Lib
