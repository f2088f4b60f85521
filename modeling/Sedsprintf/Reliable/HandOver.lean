import Sedsprintf.Receive

/-!
# Handing released frames on

The frames released behind an in-order frame take turns at the deduplication and at
dispatch, and a turn can end the call. What the call comes to is a question of the ids
known before it and of what dispatch answers.
-/
namespace Sedsprintf

open Lib

section Log
variable {S : Schema} {log : List (RouterItem S × Fate)} {Known : List UInt8 → Prop}
  {bytes : List UInt8} {rest frames : List (List UInt8)}

/-- Every covered frame got its turn in the call, or was known before. -/
def Covered (log : List (RouterItem S × Fate)) (Known : List UInt8 → Prop)
    (frames : List (List UInt8)) : Prop :=
  ∀ (i : Nat) (bytes : List UInt8), frames[i]? = some bytes →
    (∃ fate, log[i]? = some (.serialized bytes, fate)) ∨ Known bytes

theorem covered_nil :
    Covered ([] : List (RouterItem S × Fate)) Known frames ↔ ∀ frame ∈ frames, Known frame := by
  constructor
  · intro h frame hmem
    obtain ⟨i, hi⟩ := List.mem_iff_getElem?.mp hmem
    rcases h i frame hi with ⟨fate, hlog⟩ | hknown
    · simp at hlog
    · exact hknown
  · intro h i frame hi
    exact .inr (h frame (List.mem_of_getElem? hi))

theorem covered_cons {fate : Fate} :
    Covered ((.serialized bytes, fate) :: log) Known (bytes :: rest) ↔ Covered log Known rest := by
  constructor
  · intro h i frame hi
    have hsucc := h (i + 1) frame (by simpa using hi)
    simpa using hsucc
  · intro h i frame hi
    cases i with
    | zero =>
      obtain rfl := Option.some.inj hi
      exact .inl ⟨fate, rfl⟩
    | succ i => simpa using h i frame (by simpa using hi)

theorem Covered.of_known (h : ∀ frame ∈ frames, Known frame) : Covered log Known frames := by
  intro i frame hi
  exact .inr (h frame (List.mem_of_getElem? hi))

/-- A log of one entry at most covers a second frame only if it is known. -/
theorem Covered.second_known {first second : List UInt8} (h : Covered log Known [first, second])
    (hshort : log.length ≤ 1) : Known second := by
  rcases h 1 second rfl with ⟨fate, hlog⟩ | hknown
  · have hlt := (List.getElem?_eq_some_iff.mp hlog).1
    omega
  · exact hknown

/-- One frame after the other gets an id and an `Ok` of dispatch, up to the last one that
is not known. -/
def GoesThrough (HasId Known : List UInt8 → Prop) (answer : List UInt8 → Outcome Unit) :
    List (List UInt8) → Prop
  | [] => True
  | bytes :: rest => HasId bytes ∧
      ((∀ frame ∈ rest, Known frame) ∨ answer bytes = .ok () ∧ GoesThrough HasId Known answer rest)

/-- The frames of a kind are new, and no earlier frame has the id of one. -/
structure AreNew (hash : List UInt8 → Outcome UInt64) (Known Kind : List UInt8 → Prop)
    (frames : List (List UInt8)) : Prop where
  new : ∀ frame ∈ frames, Kind frame → ¬Known frame
  apart : frames.Pairwise fun earlier later => Kind later → hash earlier ≠ hash later

theorem AreNew.tail {hash : List UInt8 → Outcome UInt64} {Known Known' Kind : List UInt8 → Prop}
    (h : AreNew hash Known Kind (bytes :: rest))
    (hknown : ∀ frame, Known' frame → Known frame ∨ hash bytes = hash frame) :
    AreNew hash Known' Kind rest := by
  obtain ⟨hhead, hrest⟩ := List.pairwise_cons.mp h.apart
  refine ⟨fun frame hmem hkind hknown' => ?_, hrest⟩
  rcases hknown frame hknown' with hold | hsame
  · exact h.new frame (List.mem_cons_of_mem _ hmem) hkind hold
  · exact hhead frame hmem hkind hsame

end Log

def Received.Covers {S : Schema} {σ : Type} (r : Received S σ) (Knows : RouterItem S → Prop)
    (frames : List (List UInt8)) : Prop :=
  Covered r.log (fun frame => Knows (.serialized frame)) frames

section Turns
variable {S : Schema} {σ : Type} {check : σ → List UInt8 → σ × Outcome Bool}
  {dispatch : σ → List UInt8 → UInt8 → σ × Outcome Unit} {st : σ} {frames : List (List UInt8)}
  {log : List (RouterItem S × Fate)}

/-- Frames taking their turns: the check may refuse one or skip it, dispatch may fail. -/
inductive Turns (check : σ → List UInt8 → σ × Outcome Bool)
    (dispatch : σ → List UInt8 → UInt8 → σ × Outcome Unit) :
    σ → List (List UInt8) → List (RouterItem S × Fate) → Prop
  | done {st : σ} : Turns check dispatch st [] []
  | refused {st : σ} {bytes : List UInt8} {rest : List (List UInt8)} {e : Stop}
      (hcheck : (check st bytes).2 = .error e) :
      Turns check dispatch st (bytes :: rest) []
  | known {st st' : σ} {bytes : List UInt8} {rest : List (List UInt8)}
      {log : List (RouterItem S × Fate)} (hcheck : check st bytes = (st', .ok true))
      (hrest : Turns check dispatch st' rest log) :
      Turns check dispatch st (bytes :: rest) ((.serialized bytes, .known) :: log)
  | failed {st st' : σ} {bytes : List UInt8} {rest : List (List UInt8)} (priority : UInt8)
      {e : Stop} (hcheck : check st bytes = (st', .ok false))
      (hdispatch : (dispatch st' bytes priority).2 = .error e) :
      Turns check dispatch st (bytes :: rest) [(.serialized bytes, .dispatched)]
  | passed {st st' st'' : σ} {bytes : List UInt8} {rest : List (List UInt8)} {priority : UInt8}
      {log : List (RouterItem S × Fate)} (hcheck : check st bytes = (st', .ok false))
      (hdispatch : dispatch st' bytes priority = (st'', .ok ()))
      (hrest : Turns check dispatch st'' rest log) :
      Turns check dispatch st (bytes :: rest) ((.serialized bytes, .dispatched) :: log)

theorem Turns.head_answered {bytes : List UInt8} {rest : List (List UInt8)}
    (h : Turns check dispatch st (bytes :: rest) log) (hne : log ≠ []) :
    ∃ skipped, (check st bytes).2 = .ok skipped := by
  cases h with
  | refused => exact absurd rfl hne
  | known hcheck => exact ⟨true, by rw [hcheck]⟩
  | failed _ hcheck => exact ⟨false, by rw [hcheck]⟩
  | passed hcheck => exact ⟨false, by rw [hcheck]⟩

/-- Dispatch answers by frame, and the check answers for the frames that have an id. -/
structure Answering (check : σ → List UInt8 → σ × Outcome Bool)
    (dispatch : σ → List UInt8 → UInt8 → σ × Outcome Unit) (inv : σ → Prop)
    (HasId : List UInt8 → Prop) (answer : List UInt8 → Outcome Unit) : Prop where
  checked : ∀ {st bytes}, inv st → inv (check st bytes).1
  check_ok : ∀ {st bytes}, inv st → HasId bytes → ∃ known, (check st bytes).2 = .ok known
  dispatched : ∀ {st bytes priority}, inv st → inv (dispatch st bytes priority).1
  dispatch_eq : ∀ {st bytes priority}, (dispatch st bytes priority).2 = answer bytes

variable {inv : σ → Prop} {HasId Known : List UInt8 → Prop} {answer : List UInt8 → Outcome Unit}

/-- Induction on the turns: what ends them leaves only known frames behind. -/
theorem Turns.covered (h : Turns check dispatch st frames log)
    (hanswering : Answering check dispatch inv HasId answer) (hinv : inv st)
    (hgoes : GoesThrough HasId Known answer frames) : Covered log Known frames := by
  induction h with
  | done => simp [covered_nil]
  | refused hcheck =>
    obtain ⟨known, hknown⟩ := hanswering.check_ok hinv hgoes.1
    rw [hknown] at hcheck
    cases hcheck
  | @known st st' bytes rest log hcheck _ ih =>
    have hinv' := @Answering.checked _ _ _ _ _ _ hanswering st bytes hinv
    rw [hcheck] at hinv'
    rw [covered_cons]
    rcases hgoes.2 with hall | ⟨-, hrest⟩
    · exact .of_known hall
    · exact ih hinv' hrest
  | @failed st st' bytes rest priority e hcheck hdispatch =>
    rw [covered_cons]
    rcases hgoes.2 with hall | ⟨hok, -⟩
    · exact .of_known hall
    · rw [hanswering.dispatch_eq, hok] at hdispatch
      cases hdispatch
  | @passed st st' st'' bytes rest priority log hcheck hdispatch _ ih =>
    have hinv' := @Answering.checked _ _ _ _ _ _ hanswering st bytes hinv
    rw [hcheck] at hinv'
    have hinv'' := @Answering.dispatched _ _ _ _ _ _ hanswering st' bytes priority hinv'
    rw [hdispatch] at hinv''
    rw [covered_cons]
    rcases hgoes.2 with hall | ⟨-, hrest⟩
    · exact .of_known hall
    · exact ih hinv'' hrest

/-- Where only frames that dispatch takes are skipped, covered frames went through. -/
theorem Turns.goesThrough {fresh : σ → List (List UInt8) → Prop}
    (h : Turns check dispatch st frames log)
    (hanswering : Answering check dispatch inv HasId answer)
    (hid : ∀ {st bytes skipped}, (check st bytes).2 = .ok skipped → HasId bytes)
    (hknown : ∀ {bytes}, Known bytes → HasId bytes)
    (hskips : ∀ {st st' bytes rest}, fresh st (bytes :: rest) → check st bytes = (st', .ok true) →
      answer bytes = .ok () ∧ fresh st' rest)
    (hpasses : ∀ {st st' st'' bytes rest priority}, fresh st (bytes :: rest) →
      check st bytes = (st', .ok false) → dispatch st' bytes priority = (st'', .ok ()) →
      fresh st'' rest)
    (hfresh : fresh st frames) (hcovered : Covered log Known frames) :
    GoesThrough HasId Known answer frames := by
  induction h with
  | done => trivial
  | refused hcheck =>
    have hall := covered_nil.mp hcovered
    exact ⟨hknown (hall _ List.mem_cons_self), .inl fun frame hmem =>
      hall frame (List.mem_cons_of_mem _ hmem)⟩
  | @known st st' bytes rest log hcheck _ ih =>
    obtain ⟨hok, hfresh'⟩ := hskips hfresh hcheck
    refine ⟨@hid st bytes true (by rw [hcheck]), .inr ⟨hok, ?_⟩⟩
    exact ih hfresh' (covered_cons.mp hcovered)
  | @failed st st' bytes rest priority e hcheck hdispatch =>
    exact ⟨@hid st bytes false (by rw [hcheck]), .inl (covered_nil.mp (covered_cons.mp hcovered))⟩
  | @passed st st' st'' bytes rest priority log hcheck hdispatch _ ih =>
    have hok := @Answering.dispatch_eq _ _ _ _ _ _ hanswering st' bytes priority
    rw [hdispatch] at hok
    refine ⟨@hid st bytes false (by rw [hcheck]), .inr ⟨hok.symm, ?_⟩⟩
    exact ih (hpasses hfresh hcheck hdispatch) (covered_cons.mp hcovered)

end Turns

/-- What handing a frame on uses of a node: its deduplication, and its dispatch items. -/
structure FrameReceiver (B : Build) (S : Schema) (σ ι : Type) where
  hash : List UInt8 → Outcome UInt64
  recent : σ → List UInt64
  /-- `is_duplicate_pkt` of a frame. -/
  isDuplicate : σ → List UInt8 → σ × Outcome Bool
  data : ι → RouterItem S
  /-- The accounts are in order. -/
  sound : σ → Prop
  /-- The node without its recent ids. -/
  forget : σ → σ
  isDuplicate_eq_true_iff : ∀ st bytes,
    (isDuplicate st bytes).2 = .ok true ↔ ∃ id, hash bytes = .ok id ∧ id ∈ recent st
  answers_iff : ∀ st bytes, sound st → ((∃ known, (isDuplicate st bytes).2 = .ok known) ↔
    ∃ id, hash bytes = .ok id ∧ (id ∈ recent st ∨ B.RecordsIds))
  hash_of_answer : ∀ st bytes known, (isDuplicate st bytes).2 = .ok known → ∃ id, hash bytes = .ok id
  recorded : ∀ st bytes id, sound st → id ∈ recent (isDuplicate st bytes).1 →
    id ∈ recent st ∨ hash bytes = .ok id
  sound_isDuplicate : ∀ st bytes, sound st → sound (isDuplicate st bytes).1
  sound_forget : ∀ st, sound st → sound (forget st)
  recent_forget : ∀ st, recent (forget st) = []

namespace FrameReceiver
variable {B : Build} {S : Schema} {σ ι : Type} (n : FrameReceiver B S σ ι)

/-- The id of the frame is in `recent_rx`. -/
def Knows (st : σ) (bytes : List UInt8) : Prop :=
  ∃ id, n.hash bytes = .ok id ∧ id ∈ n.recent st

/-- Whether the frame is skipped: a duplicate is, unless it is to be forwarded `ahead`. -/
def skips (ahead : List UInt8 → Bool) (st : σ) (bytes : List UInt8) : σ × Outcome Bool :=
  ((n.isDuplicate st bytes).1, (n.isDuplicate st bytes).2.map fun known => known && !ahead bytes)

/-- The results of dispatch, by frame: a call dispatches each frame at most once. What
else dispatch does keeps the accounts. -/
structure Answers (deliver : σ → ι → σ × Outcome Unit) (answer : List UInt8 → Outcome Unit) :
    Prop where
  sound : ∀ st item, n.sound st → n.sound (deliver st item).1
  answers : ∀ st item bytes, n.data item = .serialized bytes → (deliver st item).2 = answer bytes

/-- Every frame that is not known gets past those in front of it: they have ids and
dispatch takes them, and the frame in order is itself no duplicate that is skipped. -/
structure HandsOn (st : σ) (bytes : List UInt8) (rest : List (List UInt8))
    (ahead : List UInt8 → Bool) (answer : List UInt8 → Outcome Unit) : Prop where
  records : B.RecordsIds
  through : GoesThrough (fun frame => ∃ id, n.hash frame = .ok id) (n.Knows st) answer (bytes :: rest)
  inOrder : n.Knows st bytes → ahead bytes = false → ∀ frame ∈ rest, n.Knows st frame

/-- The frames that dispatch refuses are new, or at least not skipped. -/
def FailsNew (st : σ) (ahead : List UInt8 → Bool) (answer : List UInt8 → Outcome Unit)
    (frames : List (List UInt8)) : Prop :=
  AreNew n.hash (n.Knows st) (fun frame => answer frame ≠ .ok () ∧ ahead frame = false) frames

/-- The log of a call from the deduplication of its in-order frame on. -/
def Logs (ahead : List UInt8 → Bool) (item : List UInt8 → UInt8 → ι)
    (deliver : σ → ι → σ × Outcome Unit) (st : σ) (bytes : List UInt8) (rest : List (List UInt8))
    (log : List (RouterItem S × Fate)) : Prop :=
  ((n.skips ahead st bytes).2 = .ok true → log = [(.serialized bytes, .known)]) ∧
    ((n.skips ahead st bytes).2 ≠ .ok true →
      Turns (n.skips ahead) (fun st frame priority => deliver st (item frame priority)) st
        (bytes :: rest) log)

variable {n} {st st' : σ} {bytes : List UInt8} {rest : List (List UInt8)}
  {ahead : List UInt8 → Bool} {answer : List UInt8 → Outcome Unit} {item : List UInt8 → UInt8 → ι}
  {deliver : σ → ι → σ × Outcome Unit} {log : List (RouterItem S × Fate)}

theorem skips_eq_true_iff :
    (n.skips ahead st bytes).2 = .ok true ↔ n.Knows st bytes ∧ ahead bytes = false := by
  rw [Knows, ← n.isDuplicate_eq_true_iff, skips]
  rcases (n.isDuplicate st bytes).2 with e | _ | _
  · simp [Except.map]
  · simp [Except.map]
  · simp [Except.map]

theorem skips_answers_iff (hst : n.sound st) :
    (∃ known, (n.skips ahead st bytes).2 = .ok known) ↔
      ∃ id, n.hash bytes = .ok id ∧ (id ∈ n.recent st ∨ B.RecordsIds) := by
  rw [← n.answers_iff st bytes hst, skips]
  rcases (n.isDuplicate st bytes).2 with e | known
  · simp [Except.map]
  · simp [Except.map]

theorem hash_of_skips {skipped : Bool} (h : (n.skips ahead st bytes).2 = .ok skipped) :
    ∃ id, n.hash bytes = .ok id := by
  cases hanswer : (n.isDuplicate st bytes).2 with
  | error e => simp [skips, hanswer, Except.map] at h
  | ok known => exact n.hash_of_answer st bytes known hanswer

/-- The check makes no frame known but those of its own id. -/
theorem knows_of_skips (hst : n.sound st) {other : List UInt8}
    (h : n.Knows (n.skips ahead st bytes).1 other) : n.Knows st other ∨ n.hash bytes = n.hash other := by
  obtain ⟨id, hhash, hmem⟩ := h
  rcases n.recorded st bytes id hst hmem with hold | hnew
  · exact .inl ⟨id, hhash, hold⟩
  · exact .inr (hnew.trans hhash.symm)

theorem Answers.answering (h : n.Answers deliver answer) (hrecords : B.RecordsIds)
    (hitem : ∀ bytes priority, n.data (item bytes priority) = .serialized bytes) :
    Answering (n.skips ahead) (fun st frame priority => deliver st (item frame priority)) n.sound
      (fun frame => ∃ id, n.hash frame = .ok id) answer where
  checked hst := n.sound_isDuplicate _ _ hst
  check_ok := by
    rintro st bytes hst ⟨id, hhash⟩
    exact (skips_answers_iff hst).mpr ⟨id, hhash, .inr hrecords⟩
  dispatched hst := h.sound _ _ hst
  dispatch_eq := h.answers _ _ _ (hitem _ _)

/-- Enough for every dispatch with these answers. -/
theorem HandsOn.covered (h : n.HandsOn st bytes rest ahead answer) (hanswers : n.Answers deliver answer)
    (hst : n.sound st) (hitem : ∀ bytes priority, n.data (item bytes priority) = .serialized bytes)
    (hlogs : n.Logs ahead item deliver st bytes rest log) :
    Covered log (n.Knows st) (bytes :: rest) := by
  by_cases hskip : (n.skips ahead st bytes).2 = .ok true
  · rw [hlogs.1 hskip, covered_cons]
    obtain ⟨hknown, hahead⟩ := skips_eq_true_iff.mp hskip
    exact .of_known (h.inOrder hknown hahead)
  · exact (hlogs.2 hskip).covered (hanswers.answering h.records hitem) hst h.through

/-- And needed for one that skips no frame which dispatch refuses. -/
theorem handsOn_of_covered (fresh : σ → List (List UInt8) → Prop) (hanswers : n.Answers deliver answer)
    (hst : n.sound st) (hitem : ∀ bytes priority, n.data (item bytes priority) = .serialized bytes)
    (hrecords : n.recent st ≠ [] → B.RecordsIds)
    (hskips : ∀ {st st' bytes rest}, fresh st (bytes :: rest) →
      n.skips ahead st bytes = (st', .ok true) → answer bytes = .ok () ∧ fresh st' rest)
    (hpasses : ∀ {st st' st'' bytes rest priority}, fresh st (bytes :: rest) →
      n.skips ahead st bytes = (st', .ok false) →
      deliver st' (item bytes priority) = (st'', .ok ()) → fresh st'' rest)
    (hfresh : ¬(n.Knows st bytes ∧ ahead bytes = false) → fresh st (bytes :: rest))
    (hlogs : n.Logs ahead item deliver st bytes rest log)
    (hcovered : Covered log (n.Knows st) (bytes :: rest)) :
    n.HandsOn st bytes rest ahead answer := by
  by_cases hskip : n.Knows st bytes ∧ ahead bytes = false
  · rw [hlogs.1 (skips_eq_true_iff.mpr hskip), covered_cons, covered_nil] at hcovered
    obtain ⟨⟨id, hhash, hmem⟩, -⟩ := hskip
    exact ⟨hrecords (List.ne_nil_of_mem hmem), ⟨⟨id, hhash⟩, .inl hcovered⟩, fun _ _ => hcovered⟩
  · have hturns := hlogs.2 fun h => hskip (skips_eq_true_iff.mp h)
    -- the frame in order has its entry unless it is known, so the build holds an id
    have hrecorded : B.RecordsIds := by
      by_cases hknown : n.Knows st bytes
      · obtain ⟨id, -, hmem⟩ := hknown
        exact hrecords (List.ne_nil_of_mem hmem)
      · obtain ⟨skipped, hanswer⟩ := hturns.head_answered fun hnil => by
          rw [hnil, covered_nil] at hcovered
          exact hknown (hcovered bytes List.mem_cons_self)
        obtain ⟨id, hhash, hmem | hrec⟩ := (skips_answers_iff hst).mp ⟨skipped, hanswer⟩
        · exact absurd ⟨id, hhash, hmem⟩ hknown
        · exact hrec
    refine ⟨hrecorded, ?_, fun hknown hahead => absurd ⟨hknown, hahead⟩ hskip⟩
    exact hturns.goesThrough (hanswers.answering hrecorded hitem) (fun h => hash_of_skips h)
      (fun ⟨id, hhash, _⟩ => ⟨id, hhash⟩) hskips hpasses (hfresh hskip) hcovered

theorem knows_congr (h : n.recent st' = n.recent st) : n.Knows st' = n.Knows st := by
  funext frame
  simp only [Knows, h]

theorem handsOn_congr (h : n.Knows st' = n.Knows st) :
    n.HandsOn st' bytes rest ahead answer ↔ n.HandsOn st bytes rest ahead answer := by
  constructor
  · rintro ⟨hrecords, hthrough, hinOrder⟩
    rw [h] at hinOrder hthrough
    exact ⟨hrecords, hthrough, hinOrder⟩
  · rintro ⟨hrecords, hthrough, hinOrder⟩
    rw [← h] at hinOrder hthrough
    exact ⟨hrecords, hthrough, hinOrder⟩

/-- Dispatch with the given answers that forgets the recent ids, so that no frame behind
a dispatched one is skipped. -/
def forgetful (n : FrameReceiver B S σ ι) (answer : List UInt8 → Outcome Unit) (st : σ) (item : ι) :
    σ × Outcome Unit :=
  (n.forget st,
    match n.data item with
    | .packet _ => .ok ()
    | .serialized bytes => answer bytes)

theorem forgetful_answers : n.Answers (n.forgetful answer) answer where
  sound st _ hst := n.sound_forget st hst
  answers st item bytes hdata := by simp only [forgetful, hdata]

section Calls
variable {logOf : (σ → ι → σ × Outcome Unit) → List (RouterItem S × Fate)} (hst : n.sound st')
  (hsame : n.recent st' = n.recent st) (hrecords : n.recent st ≠ [] → B.RecordsIds)
  (hitem : ∀ bytes priority, n.data (item bytes priority) = .serialized bytes)
  (hlogs : ∀ deliver, n.Logs ahead item deliver st' bytes rest (logOf deliver))
include hst hsame hrecords hitem hlogs

/-- All dispatches with the same answers at once. `st'` is the node behind the hop part. -/
theorem covers_iff (answer : List UInt8 → Outcome Unit) :
    (∀ deliver, n.Answers deliver answer → Covered (logOf deliver) (n.Knows st) (bytes :: rest)) ↔
      n.HandsOn st bytes rest ahead answer := by
  have hknows := knows_congr hsame
  rw [← hsame] at hrecords
  rw [← handsOn_congr hknows, ← hknows]
  constructor
  · intro hcovers
    refine handsOn_of_covered
      (fun st frames => ∀ frame ∈ frames.head?, ¬(n.Knows st frame ∧ ahead frame = false))
      forgetful_answers hst hitem hrecords ?_ ?_ ?_ (hlogs _) (hcovers _ forgetful_answers)
    · intro st st' bytes rest hfresh hcheck
      exact absurd (skips_eq_true_iff.mp (congrArg Prod.snd hcheck)) (hfresh bytes rfl)
    · intro st st' st'' bytes rest priority _ _ hdispatch frame _ hskip
      obtain ⟨⟨id, -, hmem⟩, -⟩ := hskip
      have hforgot : n.forget st' = st'' := congrArg Prod.fst hdispatch
      rw [← hforgot, n.recent_forget] at hmem
      exact absurd hmem List.not_mem_nil
    · intro hnew frame hframe
      obtain rfl := Option.some.inj hframe
      exact hnew
  · intro hhandsOn deliver hanswers
    exact hhandsOn.covered hanswers hst hitem (hlogs deliver)

/-- One call at a time, where dispatch leaves the recent ids alone. -/
theorem covers_iff_of_failsNew (hanswers : n.Answers deliver answer)
    (hleaves : ∀ st item, n.recent (deliver st item).1 = n.recent st)
    (hfails : n.FailsNew st ahead answer (bytes :: rest)) :
    Covered (logOf deliver) (n.Knows st) (bytes :: rest) ↔ n.HandsOn st bytes rest ahead answer := by
  have hknows := knows_congr hsame
  rw [← hsame] at hrecords
  rw [FailsNew, ← hknows] at hfails
  rw [← handsOn_congr hknows, ← hknows]
  constructor
  · refine handsOn_of_covered
      (fun st frames => n.sound st ∧ n.FailsNew st ahead answer frames)
      hanswers hst hitem hrecords ?_ ?_ (fun _ => ⟨hst, hfails⟩) (hlogs deliver)
    · rintro st st' bytes rest ⟨hst, hfails⟩ hcheck
      obtain ⟨hknown, hahead⟩ := skips_eq_true_iff.mp (congrArg Prod.snd hcheck)
      have hsound := n.sound_isDuplicate st bytes hst
      have htail := hfails.tail fun frame => @knows_of_skips B S σ ι n st bytes ahead hst frame
      rw [hcheck] at htail
      rw [show (n.isDuplicate st bytes).1 = st' from congrArg Prod.fst hcheck] at hsound
      refine ⟨by_contra fun hrefused => ?_, hsound, htail⟩
      exact hfails.new bytes List.mem_cons_self ⟨hrefused, hahead⟩ hknown
    · rintro st st' st'' bytes rest priority ⟨hst, hfails⟩ hcheck hdispatch
      have hsound := n.sound_isDuplicate st bytes hst
      rw [show (n.isDuplicate st bytes).1 = st' from congrArg Prod.fst hcheck] at hsound
      have hleft := hleaves st' (item bytes priority)
      have hsound' := hanswers.sound st' (item bytes priority) hsound
      rw [hdispatch] at hleft hsound'
      refine ⟨hsound', hfails.tail fun frame hknown => ?_⟩
      refine @knows_of_skips B S σ ι n st bytes ahead hst frame ?_
      obtain ⟨id, hhash, hmem⟩ := hknown
      rw [hcheck]
      exact ⟨id, hhash, hleft ▸ hmem⟩
  · intro hhandsOn
    exact hhandsOn.covered hanswers hst hitem (hlogs deliver)

end Calls
end FrameReceiver

end Sedsprintf
