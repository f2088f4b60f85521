import Sedsprintf.TimeSync.NetworkTime
import Sedsprintf.Lib.Least

/-!
# The time-sync tracker

src/timesync.rs:39-127, 575-744 and 746-903: roles, the sources heard of, who leads, and the
payloads of the three packets. The tracker tells itself apart by `local_id`, which is the
device identifier of the build; announces carry the sender name of the router.
-/
namespace Sedsprintf

open Lib

inductive TimeSyncRole where
  | consumer
  | source
  | auto
  deriving DecidableEq, Repr

structure TimeSyncConfig where
  role : TimeSyncRole := .consumer
  priority : UInt64 := 100
  sourceTimeoutMs : UInt64 := 5000
  announceIntervalMs : UInt64 := 1000
  requestIntervalMs : UInt64 := 1000
  consumerPromotionEnabled : Bool := true
  /-- A `u32`. -/
  maxSlewPpm : Nat := 50000
  deriving DecidableEq, Repr

structure TimeSyncSource where
  sender : String
  priority : UInt64
  lastAnnounceMs : UInt64
  lastTimeMs : UInt64
  deriving DecidableEq, Repr

inductive TimeSyncLeader where
  | local (priority : UInt64)
  | remote (source : TimeSyncSource)
  deriving DecidableEq, Repr

structure TimeSyncAnnounceFields where
  priority : UInt64
  timeMs : UInt64
  deriving DecidableEq, Repr

structure TimeSyncRequestFields where
  seq : UInt64
  t1Ms : UInt64
  deriving DecidableEq, Repr

structure TimeSyncResponseFields where
  seq : UInt64
  t1Ms : UInt64
  t2Ms : UInt64
  t3Ms : UInt64
  deriving DecidableEq, Repr

section Payloads
variable {S : Schema} (B : Build)

/-- `encode_slice_le` on `u64` words. -/
def encodeU64Words (words : List UInt64) : List UInt8 :=
  words.flatMap fun word => encodeLE 8 word.toNat

/-- `chunks_exact(8)`, little-endian. -/
def leWords64 : List UInt8 → List UInt64
  | a :: b :: c :: d :: e :: f :: g :: h :: rest =>
    UInt64.ofNat (decodeLE [a, b, c, d, e, f, g, h]) :: leWords64 rest
  | _ => []

/-- `data_as_u64`. -/
def Packet.dataAsU64 (pkt : Packet S) : Outcome (List UInt64) := do
  let kind := S.getDataType pkt.ty
  ensure (kind = .uint64) (.typeMismatch (dataTypeSize B .uint64) (dataTypeSize B kind))
  let bytes := pkt.payload.asSlice
  ensure (bytes.length % 8 = 0) (.sizeMismatch (bytes.length / 8 * 8) bytes.length)
  .ok (leWords64 bytes)

/-- `decode_u64_payload`. -/
def decodeU64Payload (pkt : Packet S) (expectedTy : S.DataType) (expectedWords : Nat) :
    Outcome (List UInt64) := do
  ensure (pkt.ty = expectedTy) .invalidType
  let vals ← pkt.dataAsU64 B
  ensure (vals.length = expectedWords) (.sizeMismatch (expectedWords * 8) (vals.length * 8))
  .ok vals

def decodeTimesyncAnnounce (t : TimeSyncTypes S.DataType) (pkt : Packet S) :
    Outcome TimeSyncAnnounceFields := do
  let vals ← decodeU64Payload B pkt t.announce 2
  .ok ⟨vals.getD 0 0, vals.getD 1 0⟩

def decodeTimesyncRequest (t : TimeSyncTypes S.DataType) (pkt : Packet S) :
    Outcome TimeSyncRequestFields := do
  let vals ← decodeU64Payload B pkt t.request 2
  .ok ⟨vals.getD 0 0, vals.getD 1 0⟩

def decodeTimesyncResponse (t : TimeSyncTypes S.DataType) (pkt : Packet S) :
    Outcome TimeSyncResponseFields := do
  let vals ← decodeU64Payload B pkt t.response 4
  .ok ⟨vals.getD 0 0, vals.getD 1 0, vals.getD 2 0, vals.getD 3 0⟩

/-- The check of `log_raw` on the size of `u64` words. -/
def checkLogSize (ty : S.DataType) (words : List UInt64) : Outcome Unit :=
  match (S.getMessageMeta ty).element with
  | .static count dt _ => do
    let needed ← B.usizeMul count (dataTypeSize B dt)
    ensure (words.length * 8 = needed) (.sizeMismatch needed (words.length * 8))
  | .dynamic _ _ => .ok ()

/-- The packet of `log_raw`. -/
def logRaw (sender : String) (ty : S.DataType) (words : List UInt64) (timestamp : UInt64) :
    Outcome (Packet S) := do
  checkLogSize B ty words
  Packet.new B ty (S.getMessageMeta ty).endpoints sender timestamp (encodeU64Words words)

theorem leWords64_encodeU64Words (words : List UInt64) : leWords64 (encodeU64Words words) = words := by
  induction words with
  | nil => rfl
  | cons word rest ih =>
    have hword : UInt64.ofNat (decodeLE (encodeLE 8 word.toNat)) = word := by
      rw [decodeLE_encodeLE_of_lt word.toNat_lt, UInt64.ofNat_toNat]
    rw [encodeU64Words, List.flatMap_cons]
    simp only [encodeLE, List.cons_append, List.nil_append, leWords64] at hword ⊢
    exact congrArg₂ List.cons hword ih

/-- The packet carries the words. -/
theorem logRaw_eq_ok {sender : String} {ty : S.DataType} {words : List UInt64} {timestamp : UInt64}
    {pkt : Packet S} (h : logRaw B sender ty words timestamp = .ok pkt) :
    pkt.ty = ty ∧ pkt.sender = sender ∧ pkt.payload.asSlice = encodeU64Words words := by
  obtain ⟨_, -, h⟩ := bind_eq_ok.mp h
  obtain ⟨-, -, stored, hstored, rfl⟩ := (Packet.new_eq_ok B).mp h
  exact ⟨rfl, rfl, SmallPayload.asSlice_of_new hstored⟩

theorem dataAsU64_eq_ok {pkt : Packet S} {vals : List UInt64} (h : pkt.dataAsU64 B = .ok vals) :
    vals = leWords64 pkt.payload.asSlice := by
  obtain ⟨_, -, h⟩ := bind_eq_ok.mp h
  obtain ⟨_, -, h⟩ := bind_eq_ok.mp h
  exact (Except.ok.inj h).symm

theorem decodeU64Payload_eq_ok {pkt : Packet S} {ty : S.DataType} {count : Nat}
    {vals : List UInt64} (h : decodeU64Payload B pkt ty count = .ok vals) :
    vals = leWords64 pkt.payload.asSlice := by
  obtain ⟨_, -, h⟩ := bind_eq_ok.mp h
  obtain ⟨words, hwords, h⟩ := bind_eq_ok.mp h
  obtain ⟨_, -, h⟩ := bind_eq_ok.mp h
  obtain rfl := Except.ok.inj h
  exact dataAsU64_eq_ok B hwords

/-- Where an announcement can be read, it says what was announced. -/
theorem decodeTimesyncAnnounce_logRaw {B' : Build} {t : TimeSyncTypes S.DataType}
    {sender : String} {priority time timestamp : UInt64} {pkt : Packet S}
    {ann : TimeSyncAnnounceFields}
    (hpkt : logRaw B sender t.announce [priority, time] timestamp = .ok pkt)
    (hann : decodeTimesyncAnnounce B' t pkt = .ok ann) : ann = ⟨priority, time⟩ := by
  obtain ⟨vals, hvals, hann⟩ := bind_eq_ok.mp hann
  obtain rfl := Except.ok.inj hann
  rw [decodeU64Payload_eq_ok B' hvals, (logRaw_eq_ok B hpkt).2.2, leWords64_encodeU64Words]
  rfl

end Payloads

structure TimeSyncTracker where
  cfg : TimeSyncConfig
  localId : String
  sources : OrdMap String TimeSyncSource
  currentSource : Option String

namespace TimeSyncTracker

def new (localId : String) (cfg : TimeSyncConfig) : TimeSyncTracker := ⟨cfg, localId, ∅, none⟩

/-- `source_is_active`. -/
def isActive (tracker : TimeSyncTracker) (now : UInt64) (src : TimeSyncSource) : Bool :=
  saturatingSub now src.lastAnnounceMs ≤ tracker.cfg.sourceTimeoutMs

def activeSources (tracker : TimeSyncTracker) (now : UInt64) : List TimeSyncSource :=
  (tracker.sources.toList.map Prod.snd).filter (tracker.isActive now)

/-- Ahead in the order of `best_active_source`. -/
def Ahead (a b : TimeSyncSource) : Prop :=
  a.priority < b.priority ∨ a.priority = b.priority ∧ a.sender ≤ b.sender

instance : DecidableRel Ahead := fun a b =>
  inferInstanceAs (Decidable (a.priority < b.priority ∨ a.priority = b.priority ∧ a.sender ≤ b.sender))

/-- `best_active_source`; `min_by` keeps the first of equals. -/
def bestActiveSource (tracker : TimeSyncTracker) (now : UInt64) : Option TimeSyncSource :=
  firstLeast Ahead (tracker.activeSources now)

/-- `current_source()`. -/
def current (tracker : TimeSyncTracker) : Option TimeSyncSource :=
  tracker.currentSource.bind fun sender => tracker.sources[sender]?

def reselectSource (tracker : TimeSyncTracker) (now : UInt64) : TimeSyncTracker :=
  { tracker with currentSource := (tracker.bestActiveSource now).map fun src => src.sender }

def refresh (tracker : TimeSyncTracker) (now : UInt64) : TimeSyncTracker :=
  reselectSource { tracker with
    sources := tracker.sources.filter fun _ src => tracker.isActive now src } now

def localCandidatePriority (tracker : TimeSyncTracker) (now : UInt64) (hasUsableTime : Bool) :
    Option UInt64 :=
  match tracker.cfg.role with
  | .consumer =>
    if hasUsableTime && tracker.cfg.consumerPromotionEnabled &&
        (tracker.bestActiveSource now).isNone then some tracker.cfg.priority
    else none
  | .source => some tracker.cfg.priority
  | .auto =>
    if hasUsableTime && (tracker.bestActiveSource now).isNone then some tracker.cfg.priority
    else none

/-- The tie-break of `leader` between the node itself and the best source. -/
def Leads (tracker : TimeSyncTracker) (priority : UInt64) (remote : TimeSyncSource) : Prop :=
  priority < remote.priority ∨ priority = remote.priority ∧ tracker.localId < remote.sender

instance (tracker : TimeSyncTracker) (priority : UInt64) (remote : TimeSyncSource) :
    Decidable (tracker.Leads priority remote) :=
  inferInstanceAs (Decidable (priority < remote.priority ∨
    priority = remote.priority ∧ tracker.localId < remote.sender))

def leader (tracker : TimeSyncTracker) (now : UInt64) (hasUsableTime : Bool) :
    Option TimeSyncLeader :=
  match tracker.localCandidatePriority now hasUsableTime, tracker.bestActiveSource now with
  | some priority, some remote =>
    if tracker.Leads priority remote then some (.local priority) else some (.remote remote)
  | some priority, none => some (.local priority)
  | none, some remote => some (.remote remote)
  | none, none => none

/-- What a leader announces: one better than its own priority while another source is as
good. -/
def localAnnouncePriority (tracker : TimeSyncTracker) (now : UInt64) (hasUsableTime : Bool) :
    Option UInt64 :=
  match tracker.leader now hasUsableTime with
  | some (.local priority) =>
    if (tracker.activeSources now).any fun src => src.priority == priority then
      some (saturatingSub priority 1)
    else some priority
  | _ => none

/-- `should_serve`, which is `should_announce`. -/
def shouldServe (tracker : TimeSyncTracker) (now : UInt64) (hasUsableTime : Bool) : Bool :=
  (tracker.localAnnouncePriority now hasUsableTime).isSome

variable {S : Schema}

/-- `handle_announce` on a decoded packet. -/
def noteAnnounce (tracker : TimeSyncTracker) (sender : String) (ann : TimeSyncAnnounceFields)
    (recv : UInt64) : TimeSyncTracker :=
  if sender = tracker.localId then tracker
  else reselectSource { tracker with
    sources := tracker.sources.insert sender ⟨sender, ann.priority, recv, ann.timeMs⟩ } recv

def handleAnnounce (B : Build) (t : TimeSyncTypes S.DataType) (tracker : TimeSyncTracker)
    (pkt : Packet S) (recv : UInt64) : Outcome TimeSyncTracker := do
  let ann ← decodeTimesyncAnnounce B t pkt
  .ok (tracker.noteAnnounce pkt.sender ann recv)

end TimeSyncTracker

namespace TimeSyncTracker
variable {tracker : TimeSyncTracker} {now : UInt64} {usable : Bool}

theorem ahead_trans (a b c : TimeSyncSource) (hab : Ahead a b) (hbc : Ahead b c) : Ahead a c := by
  rcases hab with hlt | ⟨heq, hle⟩
  · rcases hbc with hlt' | ⟨heq', -⟩
    · exact .inl (UInt64.lt_trans hlt hlt')
    · exact .inl (heq' ▸ hlt)
  · rcases hbc with hlt' | ⟨heq', hle'⟩
    · exact .inl (heq ▸ hlt')
    · exact .inr ⟨heq.trans heq', le_trans hle hle'⟩

theorem ahead_total (a b : TimeSyncSource) : Ahead a b ∨ Ahead b a := by
  have hcases : a.priority < b.priority ∨ a.priority = b.priority ∨ b.priority < a.priority := by
    simp only [UInt64.lt_iff_toNat_lt, ← UInt64.toNat_inj]
    omega
  rcases hcases with hlt | heq | hgt
  · exact .inl (.inl hlt)
  · rcases le_total a.sender b.sender with hle | hle
    · exact .inl (.inr ⟨heq, hle⟩)
    · exact .inr (.inr ⟨heq.symm, hle⟩)
  · exact .inr (.inl hgt)

theorem mem_activeSources {src : TimeSyncSource} : src ∈ tracker.activeSources now ↔
    (∃ sender : String, tracker.sources[sender]? = some src) ∧ tracker.isActive now src = true := by
  simp only [activeSources, List.mem_filter, List.mem_map, Prod.exists, exists_eq_right,
    Std.ExtTreeMap.mem_toList_iff_getElem?_eq_some]

theorem bestActiveSource_mem {best : TimeSyncSource} (h : tracker.bestActiveSource now = some best) :
    best ∈ tracker.activeSources now :=
  mem_of_firstLeast h

theorem bestActiveSource_ahead {best src : TimeSyncSource}
    (h : tracker.bestActiveSource now = some best) (hsrc : src ∈ tracker.activeSources now) :
    Ahead best src :=
  before_of_firstLeast ahead_trans ahead_total h src hsrc

theorem bestActiveSource_eq_none :
    tracker.bestActiveSource now = none ↔ tracker.activeSources now = [] :=
  firstLeast_eq_none

/-- The best active source is followed by all but a source that leads it. -/
theorem leader_eq_remote {remote : TimeSyncSource}
    (hbest : tracker.bestActiveSource now = some remote)
    (hleads : tracker.cfg.role = .source → ¬tracker.Leads tracker.cfg.priority remote) :
    tracker.leader now usable = some (.remote remote) := by
  unfold leader localCandidatePriority
  rw [hbest]
  cases hrole : tracker.cfg.role with
  | source => simp [hleads hrole]
  | consumer => simp
  | auto => simp

theorem of_leader_eq_remote {remote : TimeSyncSource}
    (h : tracker.leader now usable = some (.remote remote)) :
    tracker.bestActiveSource now = some remote ∧
      (tracker.cfg.role = .source → ¬tracker.Leads tracker.cfg.priority remote) := by
  unfold leader localCandidatePriority at h
  cases hbest : tracker.bestActiveSource now with
  | none =>
    rw [hbest] at h
    split at h <;> simp_all
  | some best =>
    rw [hbest] at h
    cases hrole : tracker.cfg.role with
    | source =>
      by_cases hleads : tracker.Leads tracker.cfg.priority best
      · simp [hrole, hleads] at h
      · simp only [hrole, if_neg hleads, Option.some.injEq, TimeSyncLeader.remote.injEq] at h
        exact ⟨congrArg some h, fun _ => h ▸ hleads⟩
    | consumer =>
      simp only [hrole, Option.isNone_some, Bool.and_false, Bool.false_eq_true, if_false,
        Option.some.injEq, TimeSyncLeader.remote.injEq] at h
      exact ⟨congrArg some h, by simp⟩
    | auto =>
      simp only [hrole, Option.isNone_some, Bool.and_false, Bool.false_eq_true, if_false,
        Option.some.injEq, TimeSyncLeader.remote.injEq] at h
      exact ⟨congrArg some h, by simp⟩

section Role
variable (hrole : tracker.cfg.role = .source)
include hrole

/-- A source follows the best active source when it does not lead that one. -/
theorem leader_eq_remote_iff {remote : TimeSyncSource} :
    tracker.leader now usable = some (.remote remote) ↔
      tracker.bestActiveSource now = some remote ∧ ¬tracker.Leads tracker.cfg.priority remote :=
  ⟨fun h => (of_leader_eq_remote h).imp_right fun hleads => hleads hrole,
    fun h => leader_eq_remote h.1 fun _ => h.2⟩

theorem leader_eq_local_iff {priority : UInt64} :
    tracker.leader now usable = some (.local priority) ↔ priority = tracker.cfg.priority ∧
      ∀ best, tracker.bestActiveSource now = some best →
        tracker.Leads tracker.cfg.priority best := by
  unfold leader localCandidatePriority
  rw [hrole]
  cases tracker.bestActiveSource now with
  | none => simp [eq_comm]
  | some best =>
    by_cases hleads : tracker.Leads tracker.cfg.priority best
    · simp [hleads, eq_comm]
    · simp [hleads]

/-- A leader announces its own priority, or undercuts a source it is tied with and comes
before. -/
theorem localAnnouncePriority_cases {x : UInt64}
    (h : tracker.localAnnouncePriority now usable = some x) :
    x = tracker.cfg.priority ∨ x = saturatingSub tracker.cfg.priority 1 ∧
      ∃ src ∈ tracker.activeSources now, src.priority = tracker.cfg.priority ∧
        tracker.localId < src.sender := by
  unfold localAnnouncePriority at h
  split at h
  · rename_i priority hleader
    obtain ⟨rfl, hbest⟩ := (leader_eq_local_iff hrole).mp hleader
    split at h
    · rename_i htie
      obtain ⟨src, hsrc, heq⟩ := List.any_eq_true.mp htie
      have heq := eq_of_beq heq
      refine .inr ⟨(Option.some.inj h).symm, src, hsrc, heq, ?_⟩
      cases hheld : tracker.bestActiveSource now with
      | none =>
        rw [bestActiveSource_eq_none.mp hheld] at hsrc
        cases hsrc
      | some best =>
        have hahead := bestActiveSource_ahead hheld hsrc
        -- a best source of a lower priority than the tied one would lead
        rcases hbest best hheld with hlt | ⟨hsame, hname⟩
        · rcases hahead with hbetter | ⟨hsame, -⟩
          · exact absurd (heq ▸ hbetter) (UInt64.lt_asymm hlt)
          · exact absurd (hsame.trans heq).symm (UInt64.ne_of_lt hlt)
        · rcases hahead with hbetter | ⟨-, hle⟩
          · rw [heq, ← hsame] at hbetter
            exact absurd hbetter (UInt64.lt_irrefl _)
          · exact lt_of_lt_of_le hname hle
    · exact .inl (Option.some.inj h).symm
  · cases h

end Role

section Sources

@[simp] theorem refresh_cfg : (tracker.refresh now).cfg = tracker.cfg := rfl

@[simp] theorem refresh_localId : (tracker.refresh now).localId = tracker.localId := rfl

theorem isActive_of_le {src : TimeSyncSource} {later : UInt64} (hle : now.toNat ≤ later.toNat)
    (h : tracker.isActive later src = true) : tracker.isActive now src = true := by
  simp only [isActive, decide_eq_true_eq, UInt64.le_iff_toNat_le, toNat_saturatingSub] at h ⊢
  omega

/-- Who is best stays best while it is active. -/
theorem bestActiveSource_later {src : TimeSyncSource} {later : UInt64}
    (h : tracker.bestActiveSource now = some src) (hle : now.toNat ≤ later.toNat)
    (hactive : tracker.isActive later src = true) : tracker.bestActiveSource later = some src := by
  have hsources : tracker.activeSources later =
      (tracker.activeSources now).filter (tracker.isActive later) := by
    rw [activeSources, activeSources, List.filter_filter]
    refine List.filter_congr fun src _ => ?_
    cases hlater : tracker.isActive later src with
    | false => rfl
    | true => rw [isActive_of_le hle hlater, Bool.and_self]
  rw [bestActiveSource, hsources]
  exact firstLeast_filter ahead_trans ahead_total h hactive

/-- Dropping the inactive changes nobody's place. -/
theorem bestActiveSource_refresh :
    (tracker.refresh now).bestActiveSource now = tracker.bestActiveSource now := by
  refine congrArg (firstLeast Ahead) ?_
  have hlist : (tracker.refresh now).sources.toList =
      tracker.sources.toList.filter fun entry => tracker.isActive now entry.2 :=
    Std.ExtTreeMap.toList_filter
  have hactive : (tracker.refresh now).isActive now = tracker.isActive now := rfl
  rw [activeSources, activeSources, hlist, hactive, List.filter_map, List.filter_map,
    List.filter_filter]
  refine congrArg (List.map Prod.snd) (List.filter_congr fun entry _ => ?_)
  exact Bool.and_self _

theorem sources_of_refresh {sender : String} {src : TimeSyncSource}
    (h : (tracker.refresh now).sources[sender]? = some src) :
    tracker.sources[sender]? = some src := by
  rw [refresh, reselectSource, Std.ExtTreeMap.getElem?_filter'] at h
  exact (Option.filter_eq_some_iff.mp h).1

variable {sender : String} {ann : TimeSyncAnnounceFields}

@[simp] theorem noteAnnounce_cfg : (tracker.noteAnnounce sender ann now).cfg = tracker.cfg := by
  unfold noteAnnounce
  split <;> rfl

@[simp] theorem noteAnnounce_localId :
    (tracker.noteAnnounce sender ann now).localId = tracker.localId := by
  unfold noteAnnounce
  split <;> rfl

theorem sources_of_noteAnnounce {key : String} {src : TimeSyncSource}
    (h : (tracker.noteAnnounce sender ann now).sources[key]? = some src) :
    tracker.sources[key]? = some src ∨ key = sender ∧ sender ≠ tracker.localId ∧
      src = ⟨sender, ann.priority, now, ann.timeMs⟩ := by
  unfold noteAnnounce at h
  split at h
  · exact .inl h
  · rename_i hforeign
    rw [reselectSource, OrdMap.get?_insert] at h
    split at h
    · rename_i heq
      exact .inr ⟨heq.symm, hforeign, (Option.some.inj h).symm⟩
    · exact .inl h

end Sources
end TimeSyncTracker

/-- `compute_network_time_sample`, the estimate. -/
def computeNetworkTimeSample (t1 t2 t3 t4 : UInt64) : UInt64 :=
  let roundTrip := saturatingSub t4 t1
  let serverProcessing := saturatingSub t3 t2
  saturatingAdd t3 (saturatingSub roundTrip serverProcessing / 2)

/-- An announcement of that priority and network time. -/
def sourceAnnounce (sender : String) (priority time : UInt64) : Packet defaultSchema where
  ty := 7
  dataSize := 16
  sender := sender
  endpoints := [2]
  timestamp := time
  payload := .inline 16 (encodeU64Words [priority, time])

/-- The time-sync types of the default schema. -/
def defaultTimeSync : TimeSyncTypes defaultSchema.DataType := ⟨7, 8, 9⟩

end Sedsprintf
