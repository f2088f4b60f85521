import Sedsprintf.Queue.Priority

/-!
# What a bounded queue guarantees

Its account and its caps, in every run of its calls; what a prioritized push takes away
and where it puts its item; and when a push that is refused has left the queue alone.
-/
namespace Sedsprintf
open Lib BoundedDeque

section Accounting
variable {α : Type} {B : Build} {cost : α → Nat}

/-- After a push has made room, `ensure_room_for_one` takes none of its evicting branches: it
changes the capacity alone. -/
def LeavesQueue (B : Build) (cost : α → Nat) (makeRoom : QueueM α Unit) (d : BoundedDeque α) :
    Prop :=
  ∀ d', makeRoom d = (d', .ok ()) →
    (∃ room, d'.roomOn B = .ok room ∧ room ≠ .evict) ∧
      ∃ cap, d'.q.length < cap ∧ ensureRoomForOneOn B cost d' = ({ d' with cap := cap }, .ok ())

theorem leavesQueue_of_room {makeRoom : QueueM α Unit} {d : BoundedDeque α} (h : Shaped B d)
    (hlost : Lost cost d (makeRoom d).1)
    (hlen : ∀ d', makeRoom d = (d', .ok ()) → d'.q.length < d'.maxElems) :
    LeavesQueue B cost makeRoom d := by
  intro d' hmake
  rw [hmake] at hlost
  have hshape := h.of_lost hlost
  have hroom := hlen d' hmake
  constructor
  · obtain ⟨room, hok, hevict, -⟩ :=
      @roomOn_of_room α B cost d' hroom hshape.length_le_cap hshape.maxElems_lt
    exact ⟨room, hok, hevict⟩
  · exact ensureRoomForOneOn_of_room cost hroom hshape.length_le_cap hshape.maxElems_lt

/-- In the lower half of `usize`, no push overflows. -/
theorem sumFits_of_half {d : BoundedDeque α} (h : Kept B cost d)
    (hmax : 2 * d.maxBytes < B.usizeModulus) (v : α) (hv : cost v ≤ d.maxBytes) :
    SumFits B (cost v) d := by
  have hle := h.curBytes_le
  exact .inr (by omega)

theorem callFits_of_half {d : BoundedDeque α} (h : Kept B cost d)
    (hmax : 2 * d.maxBytes < B.usizeModulus) (call : QueueCall α) : CallFits B cost d call := by
  have hpush (v : α) : PushFits B cost v d := by
    by_cases hv : cost v ≤ d.maxBytes
    · exact .inr (.inr (sumFits_of_half h hmax v hv))
    · exact .inr (.inl (Nat.not_le.mp hv))
  cases call with
  | pushBack v => exact hpush v
  | pushBackPrioritized priorityOf v => exact hpush v
  | _ => trivial

variable [DecidableEq α]

/-- Every queue a run reaches from `new`, in a budget of at most half of `usize`: its bytes are
those of its items and within the budget, the element cap holds, no call overflows an addition,
and `ensure_room_for_one` leaves the items of every push alone. -/
theorem deque_accounted {maxBytes startingBytes itemSize growNum : Nat} {d d' : BoundedDeque α}
    {calls : List (QueueCall α)}
    (hnew : BoundedDeque.new maxBytes startingBytes itemSize growNum = .ok d)
    (hmax : maxBytes ≤ (B.usizeModulus - 1) / 2) (hrun : Run (step B cost) anyStep d calls d') :
    d'.curBytes = (d'.q.map cost).sum ∧ d'.curBytes ≤ maxBytes ∧ d'.q.length ≤ d.maxElems ∧
      (∀ call, NeverPanics (perform B.checked cost call d').2 ∧
        perform B.checked cost call d' = perform B cost call d') ∧
      (∀ v, LeavesQueue B cost (makeRoomFifo B cost (cost v)) d') ∧
      ∀ priorityOf v, LeavesQueue B cost (makeRoomPrioritized B cost priorityOf v) d' := by
  have hcaps := (new_eq_ok hnew).2.2
  have hpos := B.usizeModulus_pos
  have hinv : Kept B cost d' ∧ d'.maxBytes = maxBytes ∧ d'.maxElems = d.maxElems := by
    refine hrun.invariant (fun s => Kept B cost s ∧ s.maxBytes = maxBytes ∧ s.maxElems = d.maxElems)
      ?_ ⟨.new hnew (by omega), hcaps, rfl⟩
    intro s s' call hs _ hstep
    obtain ⟨hkept, hbytes, helems⟩ := hs
    obtain rfl := Option.some.inj hstep
    have hhalf : 2 * s.maxBytes < B.usizeModulus := by omega
    obtain ⟨hbytes', helems'⟩ := @perform_caps α B cost s _ call hkept.toShaped
    exact ⟨hkept.perform (callFits_of_half hkept hhalf call), hbytes'.trans hbytes,
      helems'.trans helems⟩
  obtain ⟨hkept, hbytes, helems⟩ := hinv
  have hhalf : 2 * d'.maxBytes < B.usizeModulus := by omega
  refine ⟨hkept.accounted, hbytes ▸ hkept.curBytes_le, helems ▸ hkept.length_le, fun call => ?_,
    fun v => ?_, fun priorityOf v => ?_⟩
  · obtain ⟨hsame, hquiet⟩ := perform_checked call hkept.toShaped (sumFits_of_half hkept hhalf)
    rw [hsame]
    exact ⟨hquiet, rfl⟩
  · exact leavesQueue_of_room hkept.toShaped (@makeRoomFifo_lost α B cost _ d') fun _ =>
      makeRoomFifo_length hkept.toShaped
  · exact leavesQueue_of_room hkept.toShaped (@makeRoomPrioritized_lost α B cost priorityOf v d')
      fun _ => makeRoomPrioritized_length hkept.toShaped

/-- Items that are their own cost, in a queue of a hundred bytes. -/
theorem deque_accounted_small :
    let d : BoundedDeque Nat := ⟨[50], 100, 50, 100, 10, 3276, 1024⟩
    d.curBytes = (d.q.map id).sum ∧ d.curBytes ≤ 100 ∧ d.q.length ≤ 100 ∧
      (∀ call, NeverPanics (perform hostBuild.checked id call d).2 ∧
        perform hostBuild.checked id call d = perform hostBuild id call d) ∧
      (∀ v, LeavesQueue hostBuild id (makeRoomFifo hostBuild id (id v)) d) ∧
      ∀ priorityOf v, LeavesQueue hostBuild id (makeRoomPrioritized hostBuild id priorityOf v) d :=
  @deque_accounted Nat hostBuild id _ 100 10 1 3276 ⟨[], 100, 0, 100, 10, 3276, 1024⟩ _
    [.pushBack 30, .pushBackPrioritized (fun _ => 0) 50, .popFront] rfl (by decide)
    (.of_foldlM (fun _ _ => trivial) rfl)

end Accounting

section Order
variable {α : Type} {B : Build} {cost : α → Nat} {priorityOf : α → UInt8}

/-- `v` fits behind `items`, in bytes and in number. -/
def Fits (cost : α → Nat) (d : BoundedDeque α) (v : α) (items : List α) : Prop :=
  (items.map cost).sum + cost v ≤ d.maxBytes ∧ items.length < d.maxElems

/-- `d'` is `d` less its shortest tail without which `v` fits, all of it of at most the
priority of `v`, and with `v` inserted in order. -/
def InsertedInto (cost : α → Nat) (priorityOf : α → UInt8) (d : BoundedDeque α) (v : α)
    (d' : BoundedDeque α) : Prop :=
  ∃ kept evicted, d.q = kept ++ evicted ∧ d'.q = stableInsert priorityOf v kept ∧
    Fits cost d v kept ∧ (∀ w ∈ evicted, priorityOf w ≤ priorityOf v) ∧
    ∀ kept' evicted', d.q = kept' ++ evicted' → evicted'.length < evicted.length →
      ¬Fits cost d v kept'

/-- The bytes of a queue without a tail of it. -/
theorem bytes_without {d : BoundedDeque α} {kept evicted : List α} (h : Kept B cost d)
    (hq : d.q = kept ++ evicted) : d.curBytes - (evicted.map cost).sum = (kept.map cost).sum := by
  rw [h.accounted, hq, List.map_append, List.sum_append, Nat.add_sub_cancel]

/-- A tail that has to go is followed by none that could stay. -/
theorem not_fits_of_needed {d : BoundedDeque α} {v : α} {kept evicted kept' evicted' : List α}
    (h : Kept B cost d)
    (hevicts : Evicts cost priorityOf (cost v) (priorityOf v) d kept evicted)
    (hsplit : d.q = kept' ++ evicted') (hlt : evicted'.length < evicted.length) :
    ¬Fits cost d v kept' := by
  have hneeded := hevicts.needed kept' evicted' hsplit hlt
  rw [bytes_without h hsplit] at hneeded
  exact fun hfits => Nat.not_lt.mpr hfits.1 hneeded

/-- What a prioritized push leaves before its item is inserted. -/
theorem makeRoomPrioritized_keeps {d d' : BoundedDeque α} {v : α} (h : Kept B cost d)
    (hfits : PushFits B cost v d) (hrun : makeRoomPrioritized B cost priorityOf v d = (d', .ok ())) :
    ∃ evicted, d.q = d'.q ++ evicted ∧ Fits cost d v d'.q ∧
      (∀ w ∈ evicted, priorityOf w ≤ priorityOf v) ∧
      ∀ kept' evicted', d.q = kept' ++ evicted' → evicted'.length < evicted.length →
        ¬Fits cost d v kept' := by
  have hlost := @makeRoomPrioritized_lost α B cost priorityOf v d
  have hroom := makeRoomPrioritized_fits h hfits hrun
  have hlength := makeRoomPrioritized_length h.toShaped hrun
  rw [hrun] at hlost
  have hfinal : Fits cost d v d'.q := by
    rw [(h.of_lost hlost).accounted, hlost.maxBytes] at hroom
    rw [hlost.maxElems] at hlength
    exact ⟨hroom, hlength⟩
  obtain ⟨-, d₁, hloop, hone⟩ := makeRoomPrioritized_eq_ok h.toShaped hfits hrun
  obtain ⟨kept, evicted, hevicts, hresult⟩ := @evictBack_evicts α cost priorityOf (cost v)
    (priorityOf v) d.q.length d (Nat.le_refl _)
  rw [hloop] at hresult
  rcases hresult with ⟨heq, -⟩ | ⟨heq, -⟩
  · obtain rfl := (Prod.mk.inj heq).1
    have hloses := @Loses.evictBack α cost priorityOf (cost v) (priorityOf v) d.q.length d
    rw [hloop] at hloses
    have hshape : Shaped B (d.without cost kept evicted) := h.toShaped.of_loses hloses rfl
    rcases @evictBackOne_cases α B cost priorityOf _ (priorityOf v) hshape with
      ⟨_, hone'⟩ | ⟨hfull, front, last, hq, ⟨_, hone'⟩ | ⟨hlast, hone'⟩⟩
    · rw [hone'] at hone
      obtain rfl := (Prod.mk.inj hone).1
      exact ⟨evicted, hevicts.split, hfinal, hevicts.lower, fun kept' evicted' hsplit hlt =>
        not_fits_of_needed h hevicts hsplit hlt⟩
    · rw [hone'] at hone
      cases (Prod.mk.inj hone).2
    · -- The cap is only reached where the byte loop evicted nothing.
      rw [hone'] at hone
      obtain rfl := (Prod.mk.inj hone).1
      have hkept : kept = front ++ [last] := hq
      have hle := h.length_le
      have hnone : evicted = [] := by
        refine List.length_eq_zero_iff.mp ?_
        have hcount := congrArg List.length hevicts.split
        have hfull : d.maxElems ≤ kept.length := hfull
        rw [List.length_append] at hcount
        omega
      have hsplit := hevicts.split
      rw [hnone, List.append_nil, hkept] at hsplit
      refine ⟨[last], hsplit, hfinal, fun w hw => ?_, fun kept' evicted' hsplit' hlt hfits' => ?_⟩
      · rw [List.mem_singleton.mp hw]
        exact hlast
      · have hnil : evicted' = [] := List.length_eq_zero_iff.mp (by simpa using hlt)
        have hfull : d.maxElems ≤ kept.length := hfull
        have hlen := hfits'.2
        rw [hnil, List.append_nil] at hsplit'
        rw [← hsplit', hsplit, ← hkept] at hlen
        omega
  · cases (Prod.mk.inj heq).2

theorem pushBackPrioritizedOn_inserts {d d' : BoundedDeque α} {v : α} (h : Kept B cost d)
    (hfits : PushFits B cost v d)
    (hrun : pushBackPrioritizedOn B cost priorityOf v d = (d', .ok ())) :
    InsertedInto cost priorityOf d v d' := by
  rcases pushOn_cases (insertOn B cost priorityOf v) h.toShaped
      (@makeRoomPrioritized_lost α B cost priorityOf v d)
      (fun _ => makeRoomPrioritized_length h.toShaped) with
    ⟨d₁, stop, _, hpush⟩ | ⟨d₁, cap, hmake, _, hpush⟩
  · cases (Prod.mk.inj (hpush.symm.trans hrun)).2
  · obtain rfl := (Prod.mk.inj (hpush.symm.trans hrun)).1
    obtain ⟨evicted, hsplit, hkept, hlower, hshortest⟩ := makeRoomPrioritized_keeps h hfits hmake
    exact ⟨d₁.q, evicted, hsplit, insertOn_q v _, hkept, hlower, hshortest⟩

/-- A queue, beside the items its prioritized pushes have accepted, in their order. -/
structure Logged (α : Type) where
  queue : BoundedDeque α
  arrivals : List α

/-- Higher priorities stand in front, and equal ones in the order of their arrival. -/
structure InOrder (priorityOf : α → UInt8) (s : Logged α) : Prop where
  descending : s.queue.q.Pairwise fun a b => priorityOf b ≤ priorityOf a
  arrived : ∀ p, (s.queue.q.filter fun a => priorityOf a == p).Sublist
    (s.arrivals.filter fun a => priorityOf a == p)

theorem InOrder.of_sublist {s : Logged α} {d : BoundedDeque α} (h : InOrder priorityOf s)
    (hsub : d.q.Sublist s.queue.q) : InOrder priorityOf ⟨d, s.arrivals⟩ :=
  ⟨h.descending.sublist hsub, fun p => (hsub.filter _).trans (h.arrived p)⟩

theorem InOrder.insert {s : Logged α} {d : BoundedDeque α} {kept : List α} {v : α}
    (h : InOrder priorityOf s) (hsub : kept.Sublist s.queue.q)
    (hq : d.q = stableInsert priorityOf v kept) :
    InOrder priorityOf ⟨d, s.arrivals ++ [v]⟩ := by
  have hkept := h.descending.sublist hsub
  refine ⟨?_, fun p => ?_⟩
  · dsimp only
    rw [hq]
    exact pairwise_stableInsert v kept hkept
  · dsimp only
    rw [hq, filter_stableInsert v kept p hkept, List.filter_append]
    exact ((hsub.filter _).trans (h.arrived p)).append (.refl _)

/-- The calls of a queue with one priority function. -/
def Uses (priorityOf : α → UInt8) : QueueCall α → Prop
  | .pushBack _ => False
  | .pushBackPrioritized priorityOf' _ => priorityOf' = priorityOf
  | _ => True

def accepted (B : Build) (cost : α → Nat) (d : BoundedDeque α) : QueueCall α → List α
  | .pushBackPrioritized priorityOf v =>
    if (pushBackPrioritizedOn B cost priorityOf v d).2.isOk then [v] else []
  | _ => []

theorem accepted_of_ok {d d' : BoundedDeque α} {v : α}
    (h : pushBackPrioritizedOn B cost priorityOf v d = (d', .ok ())) :
    accepted B cost d (.pushBackPrioritized priorityOf v) = [v] := by
  rw [accepted, h]
  rfl

theorem accepted_of_error {d d' : BoundedDeque α} {v : α} {stop : Stop}
    (h : pushBackPrioritizedOn B cost priorityOf v d = (d', .error stop)) :
    accepted B cost d (.pushBackPrioritized priorityOf v) = [] := by
  rw [accepted, h]
  rfl

/-- An insertion leaves the budget kept. -/
theorem InsertedInto.bytes_le {d d' : BoundedDeque α} {v : α}
    (h : InsertedInto cost priorityOf d v d') : (d'.q.map cost).sum ≤ d.maxBytes := by
  obtain ⟨kept, evicted, -, hq, hfits, -, -⟩ := h
  have hperm : (stableInsert priorityOf v kept).Perm (v :: kept) := List.perm_orderedInsert _ v kept
  rw [hq, (hperm.map cost).sum_nat, List.map_cons, List.sum_cons, Nat.add_comm]
  exact hfits.1

def loggedStep [DecidableEq α] (B : Build) (cost : α → Nat) (s : Logged α) (call : QueueCall α) :
    Option (Logged α) :=
  some ⟨(perform B cost call s.queue).1, s.arrivals ++ accepted B cost s.queue call⟩

/-- A prioritized push keeps the order, whether its sum overflows or not. -/
theorem InOrder.push {s : Logged α} (h : InOrder priorityOf s) (hshape : Shaped B s.queue) (v : α) :
    InOrder priorityOf ⟨(pushBackPrioritizedOn B cost priorityOf v s.queue).1,
      s.arrivals ++ accepted B cost s.queue (.pushBackPrioritized priorityOf v)⟩ := by
  have hlost := @makeRoomPrioritized_lost α B cost priorityOf v s.queue
  rcases pushOn_cases (insertOn B cost priorityOf v) hshape hlost
      (fun _ => makeRoomPrioritized_length hshape) with
    ⟨d', stop, hmake, hpush⟩ | ⟨d', cap, hmake, _, hpush⟩
  · have hrun : pushBackPrioritizedOn B cost priorityOf v s.queue = (d', .error stop) := hpush
    rw [hmake] at hlost
    rw [accepted_of_error hrun, hrun, List.append_nil]
    exact h.of_sublist hlost.sublist
  · have hrun : pushBackPrioritizedOn B cost priorityOf v s.queue =
      (insertOn B cost priorityOf v { d' with cap := cap }, .ok ()) := hpush
    rw [hmake] at hlost
    rw [accepted_of_ok hrun, hrun]
    exact h.insert hlost.sublist (insertOn_q v _)

variable [DecidableEq α]

theorem InOrder.step {s s' : Logged α} {call : QueueCall α} (h : InOrder priorityOf s)
    (hshape : Shaped B s.queue) (huses : Uses priorityOf call)
    (hstep : loggedStep B cost s call = some s') : InOrder priorityOf s' := by
  obtain rfl := Option.some.inj hstep
  have hlost {d : BoundedDeque α} (hsub : d.q.Sublist s.queue.q) :
      InOrder priorityOf ⟨d, s.arrivals ++ []⟩ := by
    rw [List.append_nil]
    exact h.of_sublist hsub
  cases call with
  | pushBack v => exact absurd huses id
  | pushBackPrioritized priorityOf' v =>
    obtain rfl : priorityOf' = priorityOf := huses
    exact h.push hshape v
  | popFront => exact hlost (List.tail_sublist _)
  | popBack => exact hlost (List.dropLast_sublist _)
  | removePos idx => exact hlost (List.eraseIdx_sublist _ _)
  | removeValue needle => exact hlost (@Lost.removeValue α cost _ needle s.queue).sublist
  | retain keep => exact hlost (@Lost.retain α cost keep s.queue).sublist
  | clear => exact hlost (List.nil_sublist _)
  | overallocate slack => exact hlost (.refl _)

/-- Every queue a run reaches from `new` by prioritized pushes, pops and removals is in order,
and a prioritized push that succeeds on it is the stable insertion behind the shortest tail
that has to go; in a run whose pushes do not go on with an overflowed sum. -/
theorem prioritized_queue_sorted {maxBytes startingBytes itemSize growNum : Nat}
    {d : BoundedDeque α} {s : Logged α} {calls : List (QueueCall α)}
    (hnew : BoundedDeque.new maxBytes startingBytes itemSize growNum = .ok d)
    (hmax : maxBytes < B.usizeModulus)
    (hrun : Run (loggedStep B cost)
      (fun s call => Uses priorityOf call ∧ CallFits B cost s.queue call) ⟨d, []⟩ calls s) :
    (s.queue.q.Pairwise fun a b => priorityOf b ≤ priorityOf a) ∧
      (∀ p, (s.queue.q.filter fun a => priorityOf a == p).Sublist
        (s.arrivals.filter fun a => priorityOf a == p)) ∧
      ∀ v d', PushFits B cost v s.queue →
        perform B cost (.pushBackPrioritized priorityOf v) s.queue = (d', .ok ()) →
        InsertedInto cost priorityOf s.queue v d' := by
  have hinv : Kept B cost s.queue ∧ InOrder priorityOf s := by
    refine hrun.invariant (fun s => Kept B cost s.queue ∧ InOrder priorityOf s) ?_
      ⟨.new hnew hmax, ?_⟩
    · intro s s' call hs hok hstep
      refine ⟨?_, hs.2.step hs.1.toShaped hok.1 hstep⟩
      obtain rfl := Option.some.inj hstep
      exact hs.1.perform hok.2
    · obtain ⟨hq, -, -⟩ := new_eq_ok hnew
      refine ⟨?_, fun p => ?_⟩
      · dsimp only
        rw [hq]
        exact .nil
      · dsimp only
        rw [hq]
  exact ⟨hinv.2.descending, hinv.2.arrived, fun v d' hfits hpush =>
    pushBackPrioritizedOn_inserts hinv.1 hfits hpush⟩

/-- Large items first, in a queue of a hundred bytes. -/
theorem prioritized_queue_sorted_small :
    let cost : Nat → Nat := id
    let priorityOf : Nat → UInt8 := fun a => if a < 40 then 1 else 5
    let s : Logged Nat := ⟨⟨[50, 30], 100, 80, 100, 10, 3276, 1024⟩, [30, 50]⟩
    (s.queue.q.Pairwise fun a b => priorityOf b ≤ priorityOf a) ∧
      (∀ p, (s.queue.q.filter fun a => priorityOf a == p).Sublist
        (s.arrivals.filter fun a => priorityOf a == p)) ∧
      ∀ v d', PushFits hostBuild cost v s.queue →
        perform hostBuild cost (.pushBackPrioritized priorityOf v) s.queue = (d', .ok ()) →
        InsertedInto cost priorityOf s.queue v d' :=
  @prioritized_queue_sorted Nat hostBuild id (fun a => if a < 40 then 1 else 5) _ 100 10 1 3276
    ⟨[], 100, 0, 100, 10, 3276, 1024⟩ _ [.pushBackPrioritized _ 30, .pushBackPrioritized _ 50] rfl
    (by decide) (.cons ⟨rfl, .inl rfl⟩ rfl (.cons ⟨rfl, .inl rfl⟩ rfl (.nil _)))

/-- A build without overflow checks, and a queue with all of its `usize` as budget. -/
def releaseBuild : Build := { hostBuild with overflowChecks := false }

def wholeBudget : BoundedDeque Nat :=
  ⟨[], 18446744073709551615, 0, 18446744073709551615, 1, 3276, 1024⟩

def halfFull : BoundedDeque Nat :=
  { wholeBudget with q := [9223372036854775808], curBytes := 9223372036854775808 }

def overfull : BoundedDeque Nat :=
  { wholeBudget with
    q := [9223372036854775808, 9223372036854775809]
    curBytes := 18446744073709551615
    cap := 4 }

theorem push_halfFull :
    pushBackPrioritizedOn releaseBuild id (fun _ => 0) 9223372036854775808 wholeBudget =
      (halfFull, .ok ()) := by
  have hmake : makeRoomPrioritized releaseBuild id (fun _ => 0) 9223372036854775808 wholeBudget =
    (wholeBudget, .ok ()) := rfl
  have hroom : ensureRoomForOneOn releaseBuild id wholeBudget = (wholeBudget, .ok ()) := rfl
  have hsum : releaseBuild.saturatingAdd 0 9223372036854775808 = 9223372036854775808 := rfl
  rw [pushBackPrioritizedOn, pushOn, Program.bind_apply_of_ok hmake,
    Program.bind_apply_of_ok hroom, Program.modify_apply]
  simp [insertOn, insertPrioritized, halfFull, wholeBudget, hsum]

/-- The sum wraps to one, so nothing is evicted. -/
theorem push_overfull :
    pushBackPrioritizedOn releaseBuild id (fun _ => 0) 9223372036854775809 halfFull =
      (overfull, .ok ()) := by
  have hmake : makeRoomPrioritized releaseBuild id (fun _ => 0) 9223372036854775809 halfFull =
    (halfFull, .ok ()) := rfl
  have hroom : ensureRoomForOneOn releaseBuild id halfFull = ({ halfFull with cap := 4 }, .ok ()) :=
    rfl
  have hsum : releaseBuild.saturatingAdd 9223372036854775808 9223372036854775809 =
    18446744073709551615 := rfl
  rw [pushBackPrioritizedOn, pushOn, Program.bind_apply_of_ok hmake,
    Program.bind_apply_of_ok hroom, Program.modify_apply]
  simp [insertOn, insertPrioritized, overfull, halfFull, wholeBudget, hsum]

/-- Without overflow checks, two items of half of `usize` each are both kept in a budget that
holds one of them. -/
theorem prioritized_queue_overflows :
    BoundedDeque.new 18446744073709551615 1 1 3276 = .ok wholeBudget ∧
      Run (loggedStep releaseBuild id) (fun _ call => Uses (fun _ => 0) call) ⟨wholeBudget, []⟩
        [.pushBackPrioritized (fun _ => 0) 9223372036854775808]
        ⟨halfFull, [9223372036854775808]⟩ ∧
      perform releaseBuild id (.pushBackPrioritized (fun _ => 0) 9223372036854775809) halfFull =
        (overfull, .ok ()) ∧
      ¬InsertedInto id (fun _ => 0) halfFull 9223372036854775809 overfull := by
  refine ⟨rfl, .cons rfl ?_ (.nil _), push_overfull, fun h => ?_⟩
  · rw [loggedStep, accepted_of_ok push_halfFull, perform, push_halfFull]
    rfl
  · exact absurd h.bytes_le (by decide)

end Order

section Refusal
variable {α : Type} {B : Build} {cost : α → Nat} {priorityOf : α → UInt8}

/-- A tail of at most the priority of `v` stands behind an item of higher priority, and `v`
would not even fit without that tail. -/
def Stranded (B : Build) (cost : α → Nat) (priorityOf : α → UInt8) (d : BoundedDeque α) (v : α) :
    Prop :=
  ∃ front last tail, d.q = front ++ last :: tail ∧ tail ≠ [] ∧ priorityOf v < priorityOf last ∧
    (∀ w ∈ tail, priorityOf w ≤ priorityOf v) ∧ cost v ≤ d.maxBytes ∧
    d.curBytes + cost v < B.usizeModulus ∧
    d.maxBytes < d.curBytes - (tail.map cost).sum + cost v

/-- A push is refused where it makes room, or not at all. -/
theorem pushBackPrioritizedOn_refused {d d' : BoundedDeque α} {v : α} {e : TelemetryError}
    (h : Shaped B d) : pushBackPrioritizedOn B cost priorityOf v d = (d', fail e) ↔
      makeRoomPrioritized B cost priorityOf v d = (d', fail e) := by
  rcases pushOn_cases (insertOn B cost priorityOf v) h
      (@makeRoomPrioritized_lost α B cost priorityOf v d)
      (fun _ => makeRoomPrioritized_length h) with
    ⟨d₁, stop, hmake, hpush⟩ | ⟨d₁, cap, hmake, _, hpush⟩
  · rw [hmake, pushBackPrioritizedOn, hpush]
  · rw [hmake, pushBackPrioritizedOn, hpush]
    constructor
    · intro heq
      cases (Prod.mk.inj heq).2
    · intro heq
      cases (Prod.mk.inj heq).2

/-- A tail that the element cap finds missing was not evicted by the byte loop. -/
theorem evicted_nil_of_full {d : BoundedDeque α} {kept evicted : List α} (h : Shaped B d)
    (hsplit : d.q = kept ++ evicted) (hfull : d.maxElems ≤ kept.length) : evicted = [] := by
  have hle := h.length_le
  rw [hsplit, List.length_append] at hle
  exact List.length_eq_zero_iff.mp (by omega)

/-- A refusal leaves the queue as it is, or it meets a stranded tail. -/
theorem stranded_of_refused {d d' : BoundedDeque α} {v : α} {e : TelemetryError} (h : Shaped B d)
    (hrun : makeRoomPrioritized B cost priorityOf v d = (d', fail e)) :
    d' = d ∨ Stranded B cost priorityOf d v := by
  by_cases hincoming : d.maxBytes < cost v
  · rw [makeRoomPrioritized, Program.read_bind_apply, if_pos hincoming] at hrun
    exact .inl (Prod.mk.inj hrun).1.symm
  have hincoming := Nat.not_lt.mp hincoming
  have hcapped : ∀ {d₁ : BoundedDeque α}, Shaped B d₁ →
      d₁.evictBackOne cost priorityOf (priorityOf v) = (d', fail e) →
      d' = d₁ ∧ d₁.maxElems ≤ d₁.q.length := by
    intro d₁ hshape hone
    rcases @evictBackOne_cases α B cost priorityOf d₁ (priorityOf v) hshape with
      ⟨_, hone'⟩ | ⟨hfull, _, _, _, ⟨_, hone'⟩ | ⟨_, hone'⟩⟩
    · cases (Prod.mk.inj (hone'.symm.trans hone)).2
    · exact ⟨(Prod.mk.inj (hone'.symm.trans hone)).1.symm, hfull⟩
    · cases (Prod.mk.inj (hone'.symm.trans hone)).2
  by_cases hsum : SumFits B (cost v) d
  · rw [makeRoomPrioritized_of_fits hincoming hsum] at hrun
    obtain ⟨kept, evicted, hevicts, ⟨hloop, -⟩ | ⟨hloop, hover, front, last, hkept, hhigher⟩⟩ :=
      @evictBack_evicts α cost priorityOf (cost v) (priorityOf v) d.q.length d (Nat.le_refl _)
    · have hloses := @Loses.evictBack α cost priorityOf (cost v) (priorityOf v) d.q.length d
      rw [hloop] at hloses
      rw [Program.bind_apply_of_ok hloop] at hrun
      obtain ⟨rfl, hfull⟩ := hcapped (h.of_loses hloses rfl) hrun
      obtain rfl := evicted_nil_of_full h hevicts.split hfull
      have hq : d.q = kept := by rw [hevicts.split, List.append_nil]
      rw [← hq, without_nil]
      exact .inl rfl
    · rw [Program.bind_apply_of_error hloop] at hrun
      obtain rfl := (Prod.mk.inj hrun).1
      by_cases hnil : evicted = []
      · subst hnil
        have hq : d.q = kept := by rw [hevicts.split, List.append_nil]
        rw [← hq, without_nil]
        exact .inl rfl
      · have hq : d.q = front ++ last :: evicted := by
          rw [hevicts.split, hkept, List.append_assoc, List.singleton_append]
        have hlt := hsum.resolve_left (by simp [hq])
        exact .inr ⟨front, last, evicted, hq, hnil, hhigher, hevicts.lower, hincoming, hlt, hover⟩
  · have hloop := @evictBackOn_of_overflow α B cost priorityOf d (cost v) (priorityOf v)
      h.curBytes_lt hincoming h.maxBytes_lt hsum
    rw [makeRoomPrioritized, Program.read_bind_apply, if_neg (Nat.not_lt.mpr hincoming)] at hrun
    unfold overflowed at hloop
    split at hloop
    · rw [Program.bind_apply_of_error hloop] at hrun
      cases (Prod.mk.inj hrun).2
    · rw [Program.bind_apply_of_ok hloop] at hrun
      exact .inl (hcapped h hrun).1

/-- With a stranded tail the push evicts it, and is refused. -/
theorem refused_of_stranded {d : BoundedDeque α} {v : α}
    (hstranded : Stranded B cost priorityOf d v) :
    ∃ d', makeRoomPrioritized B cost priorityOf v d =
      (d', fail (.io "priority queue saturated")) ∧ d'.q ≠ d.q := by
  obtain ⟨front, last, tail, hq, htail, hhigher, hlower, hincoming, hlt, hover⟩ := hstranded
  have hq' : d.q = (front ++ [last]) ++ tail := by rw [hq, List.append_assoc, List.singleton_append]
  obtain ⟨kept, evicted, hevicts, ⟨hloop, hstop⟩ | ⟨hloop, -, front', last', hkept, hhigher'⟩⟩ :=
    @evictBack_evicts α cost priorityOf (cost v) (priorityOf v) d.q.length d (Nat.le_refl _)
  · -- The loop cannot have ended before `last`, nor evicted it.
    exfalso
    have hsplit := hevicts.split
    rw [hq'] at hsplit
    have hbefore : ∃ middle, kept = front ++ [last] ++ middle ∧ tail = middle ++ evicted := by
      rcases List.append_eq_append_iff.mp hsplit with hbefore | ⟨middle, hfront, hevicted⟩
      · exact hbefore
      · rcases List.eq_nil_or_concat middle with rfl | ⟨shorter, last', rfl⟩
        · exact ⟨[], by simpa using hfront.symm, by simpa using hevicted.symm⟩
        · rw [List.concat_eq_append, ← List.append_assoc] at hfront
          obtain rfl := List.singleton_inj.mp (List.append_inj' hfront rfl).2
          have hle := hevicts.lower last (by simp [hevicted])
          exact absurd hhigher (UInt8.not_lt.mpr hle)
    obtain ⟨middle, hkept, htail'⟩ := hbefore
    have hne : kept ≠ [] := by simp [hkept]
    have hfits := hstop.resolve_left hne
    rw [htail', List.map_append, List.sum_append] at hover
    omega
  · refine ⟨d.without cost kept evicted, ?_, fun hsame => ?_⟩
    · rw [makeRoomPrioritized_of_fits hincoming (.inr hlt)]
      exact Program.bind_apply_of_error hloop
    · -- Were nothing evicted, the last item would be one of the tail's.
      have hkept' : kept = front ++ [last] ++ tail := by
        rw [← hq']
        exact hsame
      obtain ⟨shorter, last'', rfl⟩ := (List.eq_nil_or_concat tail).resolve_left htail
      rw [hkept, List.concat_eq_append, ← List.append_assoc] at hkept'
      obtain rfl := List.singleton_inj.mp (List.append_inj' hkept' rfl).2
      exact absurd hhigher' (UInt8.not_lt.mpr (hlower last' (by simp)))

variable [DecidableEq α]

theorem Shaped.of_run {maxBytes startingBytes itemSize growNum : Nat} {d d' : BoundedDeque α}
    {calls : List (QueueCall α)}
    (hnew : BoundedDeque.new maxBytes startingBytes itemSize growNum = .ok d)
    (hmax : maxBytes < B.usizeModulus) (hrun : Run (step B cost) anyStep d calls d') :
    Shaped B d' := by
  refine hrun.invariant (fun s => Shaped B s) ?_ (.new hnew hmax)
  intro s s' call hs _ hstep
  obtain rfl := Option.some.inj hstep
  exact hs.perform call

/-- In every queue that a run reaches from `new`, by any calls: a prioritized push that is
refused has changed nothing, exactly when no tail is stranded. -/
theorem refused_push_unchanged_iff {maxBytes startingBytes itemSize growNum : Nat}
    {d d' : BoundedDeque α} {calls : List (QueueCall α)}
    (hnew : BoundedDeque.new maxBytes startingBytes itemSize growNum = .ok d)
    (hmax : maxBytes < B.usizeModulus) (hrun : Run (step B cost) anyStep d calls d') (v : α) :
    (∀ d'' e, perform B cost (.pushBackPrioritized priorityOf v) d' = (d'', fail e) →
      d''.q = d'.q ∧ d''.curBytes = d'.curBytes) ↔ ¬Stranded B cost priorityOf d' v := by
  have hshape := Shaped.of_run hnew hmax hrun
  constructor
  · intro hunchanged hstranded
    obtain ⟨d'', hmake, hne⟩ := refused_of_stranded hstranded
    have hpush := (pushBackPrioritizedOn_refused hshape).mpr hmake
    exact hne (hunchanged d'' _ hpush).1
  · intro hstranded d'' e hpush
    have hmake := (pushBackPrioritizedOn_refused hshape).mp hpush
    obtain rfl := (stranded_of_refused hshape hmake).resolve_right hstranded
    exact ⟨rfl, rfl⟩

/-- Items as their priority and their cost: a push of 90 bytes into 100 that hold an item of
higher priority and 60 bytes before one of lower priority and 40. -/
theorem refused_push_unchanged_iff_small :
    let d : BoundedDeque (UInt8 × Nat) := ⟨[(9, 60), (1, 40)], 100, 100, 100, 10, 3276, 1024⟩
    (∀ d'' e, perform hostBuild Prod.snd (.pushBackPrioritized Prod.fst (5, 90)) d = (d'', fail e) →
      d''.q = d.q ∧ d''.curBytes = d.curBytes) ↔
    ¬Stranded hostBuild Prod.snd Prod.fst d (5, 90) :=
  @refused_push_unchanged_iff (UInt8 × Nat) hostBuild Prod.snd Prod.fst _ 100 10 1 3276
    ⟨[], 100, 0, 100, 10, 3276, 1024⟩ _
    [.pushBackPrioritized Prod.fst (9, 60), .pushBackPrioritized Prod.fst (1, 40)] rfl (by decide)
    (.of_foldlM (fun _ _ => trivial) rfl) (5, 90)

/-- The same push evicts the item of lower priority before it is refused. -/
theorem refused_push_evicts :
    let start : BoundedDeque (UInt8 × Nat) := ⟨[], 100, 0, 100, 10, 3276, 1024⟩
    let d : BoundedDeque (UInt8 × Nat) := ⟨[(9, 60), (1, 40)], 100, 100, 100, 10, 3276, 1024⟩
    BoundedDeque.new 100 10 1 3276 = .ok start ∧
      Run (step hostBuild Prod.snd) anyStep start
        [.pushBackPrioritized Prod.fst (9, 60), .pushBackPrioritized Prod.fst (1, 40)] d ∧
      ∃ d' e, perform hostBuild Prod.snd (.pushBackPrioritized Prod.fst (5, 90)) d = (d', fail e) ∧
        d'.q ≠ d.q ∧ d'.curBytes ≠ d.curBytes :=
  ⟨rfl, .of_foldlM (fun _ _ => trivial) rfl, _, _, rfl, by decide, by decide⟩

end Refusal
end Sedsprintf
