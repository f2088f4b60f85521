import Sedsprintf.Discovery.Codec
import Sedsprintf.Lib.Traced

/-!
# What discovery decoders ask for

src/discovery.rs:251-292 and 346-475 with every addition, slice and capacity of the source. The
counts in a payload become capacities before the items they count have been looked for.
-/
namespace Sedsprintf

open Lib

/-- A decoder with the vectors it asks for, each by its capacity and the size of an element. -/
abbrev Asking := Traced (Nat × Nat) Stop

section Decoders
variable (B : Build) (S : Schema)

/-- `&payload[start..stop]`. -/
def slice (payload : List UInt8) (start stop : Nat) : Outcome (List UInt8) :=
  if stop < start then panics "slice index starts behind its end"
  else if payload.length < stop then panics "range end index out of range for slice"
  else .ok ((payload.drop start).take (stop - start))

/-- The check, the slice and the step of the cursor that are repeated for everything that is read;
the additions are checked in any build. -/
def sliceBytes (label : String) (r : ByteReader) (n : Nat) : Outcome (List UInt8 × ByteReader) := do
  if r.buf.length - r.off < n then reject label
  else
    let stop ← B.checked.usizeAdd r.off n
    let bytes ← slice r.buf r.off stop
    let cursor ← B.checked.usizeAdd r.off n
    .ok (bytes, { r with off := cursor })

def sliceWord (label : String) (r : ByteReader) : Outcome (Nat × ByteReader) := do
  let (bytes, r) ← sliceBytes B label r 4
  .ok ((u32FromLeBytes bytes).toNat, r)

def sliceString (len bytes utf8 : String) (r : ByteReader) : Outcome (String × ByteReader) := do
  let (n, r) ← sliceWord B len r
  let (raw, r) ← sliceBytes B bytes r n
  let s ← okOr (.deserialize utf8) (fromUtf8 raw)
  .ok (s, r)

def sliceNames (len bytes utf8 : String) :
    (count : Nat) → ByteReader → Outcome (List String × ByteReader)
  | 0, r => .ok ([], r)
  | count + 1, r => do
    let (name, r) ← sliceString B len bytes utf8 r
    let (names, r) ← sliceNames len bytes utf8 count r
    .ok (if name.isEmpty then names else name :: names, r)

def sliceEndpoints : (count : Nat) → ByteReader → Outcome (List S.DataEndpoint × ByteReader)
  | 0, r => .ok ([], r)
  | count + 1, r => do
    let (raw, r) ← sliceWord B "discovery topology endpoint" r
    let ep ← okOr (.deserialize "bad discovery endpoint") (S.endpointFromU32 raw)
    let (eps, r) ← sliceEndpoints count r
    .ok (if S.isDiscoveryEndpoint ep then eps else ep :: eps, r)

/-- `Vec::with_capacity`. -/
def withCapacity (count size : Nat) : Asking Unit := .note (count, size) (B.allocate (count * size))

/-- `decode_discovery_timesync_sources_payload`. -/
def askingTimesyncSources (payload : List UInt8) : Asking (List String) := do
  let (count, r) ← .of (sliceWord B "discovery timesync source count" (.new payload))
  withCapacity B count (stringSize B)
  let (sources, r) ← .of (sliceNames B "discovery timesync source len"
    "discovery timesync source bytes" "discovery timesync source utf8" count r)
  .of (ensure (r.off = payload.length) (.deserialize "discovery timesync trailing bytes"))
  pure (sortDedup sources)

def askingBoardNames (count label : String) (r : ByteReader) :
    Asking (List String × ByteReader) := do
  let (n, r) ← .of (sliceWord B count r)
  withCapacity B n (stringSize B)
  .of (sliceNames B label label label n r)

def askingBoard (r : ByteReader) : Asking (TopologyBoardNode S × ByteReader) := do
  let (senderId, r) ← .of (sliceString B "discovery topology sender id"
    "discovery topology sender id" "discovery topology sender id" r)
  let (endpointCount, r) ← .of (sliceWord B "discovery topology endpoint count" r)
  withCapacity B endpointCount endpointSize
  let (reachable, r) ← .of (sliceEndpoints B S endpointCount r)
  let (sources, r) ← askingBoardNames B "discovery topology timesync source count"
    "discovery topology timesync source" r
  let (connections, r) ← askingBoardNames B "discovery topology connection count"
    "discovery topology connection" r
  pure (⟨senderId, reachable, sources, connections⟩, r)

def askingBoards : (count : Nat) → ByteReader → Asking (List (TopologyBoardNode S) × ByteReader)
  | 0, r => pure ([], r)
  | count + 1, r => do
    let (board, r) ← askingBoard B S r
    let (boards, r) ← askingBoards count r
    pure (board :: boards, r)

/-- `decode_discovery_topology_payload`. -/
def askingTopology (payload : List UInt8) : Asking (List (TopologyBoardNode S)) := do
  let (count, r) ← .of (sliceWord B "discovery topology board count" (.new payload))
  withCapacity B count (topologyBoardSize B)
  let (boards, r) ← askingBoards B S count r
  .of (ensure (r.off = payload.length) (.deserialize "discovery topology trailing bytes"))
  pure (normalizeTopologyBoards boards)

end Decoders

section Cursor
variable {B : Build} {S : Schema} {r r' : ByteReader} {label : String}

/-- The cursor is in the payload, which is addressable. -/
structure ByteReader.Within (B : Build) (r : ByteReader) : Prop where
  inside : r.off ≤ r.buf.length
  addressable : r.buf.length < B.usizeModulus

theorem ByteReader.Reads.within {bytes : List UInt8} (hreads : r.Reads bytes r')
    (h : r.Within B) : r'.Within B := by
  obtain ⟨hrest, rfl⟩ := hreads
  refine ⟨?_, h.addressable⟩
  have hlength := congrArg List.length hrest
  have hinside := h.inside
  simp only [List.length_append, List.length_drop] at hlength ⊢
  omega

theorem sliceBytes_eq (h : r.Within B) (label : String) (n : Nat) :
    sliceBytes B label r n = takeBytes label r n := by
  obtain ⟨hinside, haddressable⟩ := h
  unfold sliceBytes takeBytes ByteReader.remaining
  split
  · rfl
  · have hadd : B.checked.usizeAdd r.off n = .ok (r.off + n) :=
      Build.usizeAdd_of_lt _ (show r.off + n < B.usizeModulus by omega)
    rw [hadd, ok_bind, slice, if_neg (by omega), if_neg (by omega), ok_bind, ok_bind,
      Nat.add_sub_cancel_left]

theorem sliceWord_eq (h : r.Within B) (label : String) :
    sliceWord B label r = takeWord label r := by
  rw [sliceWord, sliceBytes_eq h]
  rfl

theorem takeWord_within (h : r.Within B) {n : Nat} (hword : takeWord label r = .ok (n, r')) :
    r'.Within B := (takeWord_eq_ok.mp hword).2.within h

theorem bind_congr_ok {α β : Type} {x : Outcome α} {f g : α → Outcome β}
    (h : ∀ a, x = .ok a → f a = g a) : x >>= f = x >>= g := by
  cases x with
  | ok a => exact h a rfl
  | error e => rfl

theorem sliceString_eq (h : r.Within B) (len bytes utf8 : String) :
    sliceString B len bytes utf8 r = takeString len bytes utf8 r := by
  unfold sliceString takeString
  rw [sliceWord_eq h]
  apply bind_congr_ok
  rintro ⟨read, r₁⟩ hread
  dsimp only
  rw [sliceBytes_eq (takeWord_within h hread)]

theorem sliceNames_eq (len bytes utf8 : String) (count : Nat) (h : r.Within B) :
    sliceNames B len bytes utf8 count r = takeNames len bytes utf8 count r := by
  induction count generalizing r with
  | zero => rfl
  | succ count ih =>
    unfold sliceNames takeNames
    rw [sliceString_eq h]
    apply bind_congr_ok
    rintro ⟨read, r₁⟩ hread
    dsimp only
    rw [ih ((takeString_eq_ok.mp hread).2.within h)]

theorem sliceEndpoints_eq (count : Nat) (h : r.Within B) :
    sliceEndpoints B S count r = takeEndpoints S count r := by
  induction count generalizing r with
  | zero => rfl
  | succ count ih =>
    unfold sliceEndpoints takeEndpoints
    rw [sliceWord_eq h]
    apply bind_congr_ok
    rintro ⟨read, r₁⟩ hread
    dsimp only
    rw [ih (takeWord_within h hread)]

theorem askingBoardNames_result (count label : String) (h : r.Within B) :
    (askingBoardNames B count label r).result = takeBoardNames B count label r := by
  unfold askingBoardNames takeBoardNames withCapacity
  simp only [Traced.bind_result, Traced.of_result, Traced.note_result]
  rw [sliceWord_eq h]
  apply bind_congr_ok
  rintro ⟨read, r₁⟩ hread
  refine bind_congr_ok fun _ _ => ?_
  dsimp only
  rw [sliceNames_eq _ _ _ _ (takeWord_within h hread)]

theorem askingBoard_result (h : r.Within B) :
    (askingBoard B S r).result = takeBoard B S r := by
  unfold askingBoard takeBoard decodeString withCapacity
  simp only [Traced.bind_result, Traced.of_result, Traced.note_result, Traced.pure_result]
  rw [sliceString_eq h]
  apply bind_congr_ok
  rintro ⟨name, r₁⟩ hname
  dsimp only
  have hname := (takeString_eq_ok.mp hname).2.within h
  rw [sliceWord_eq hname]
  apply bind_congr_ok
  rintro ⟨count, r₁⟩ hcount
  refine bind_congr_ok fun _ _ => ?_
  dsimp only
  have hcount := takeWord_within hname hcount
  rw [sliceEndpoints_eq _ hcount]
  apply bind_congr_ok
  rintro ⟨eps, r₁⟩ heps
  dsimp only
  obtain ⟨_, -, -, hreads⟩ := takeEndpoints_eq_ok.mp heps
  have heps := hreads.within hcount
  rw [askingBoardNames_result _ _ heps]
  apply bind_congr_ok
  rintro ⟨sources, r₁⟩ hsources
  dsimp only
  obtain ⟨_, -, -, -, hreads⟩ := takeBoardNames_eq_ok.mp hsources
  rw [askingBoardNames_result _ _ (hreads.within heps)]

theorem takeBoard_within (h : r.Within B) {board : TopologyBoardNode S}
    (hboard : takeBoard B S r = .ok (board, r')) : r'.Within B := by
  obtain ⟨_, -, -, hreads⟩ := takeBoard_eq_ok.mp hboard
  exact hreads.within h

theorem askingBoards_result (count : Nat) (h : r.Within B) :
    (askingBoards B S count r).result = takeBoards B S count r := by
  induction count generalizing r with
  | zero => rfl
  | succ count ih =>
    unfold askingBoards takeBoards
    simp only [Traced.bind_result, Traced.pure_result]
    rw [askingBoard_result h]
    apply bind_congr_ok
    rintro ⟨read, r₁⟩ hread
    dsimp only
    rw [ih (takeBoard_within h hread)]

variable {payload : List UInt8}

theorem within_new (h : payload.length < B.usizeModulus) : (ByteReader.new payload).Within B :=
  ⟨Nat.zero_le _, h⟩

/-- No slice and no addition of the decoders fails. -/
theorem askingTimesyncSources_result (h : payload.length < B.usizeModulus) :
    (askingTimesyncSources B payload).result = decodeDiscoveryTimesyncSourcesPayload B payload := by
  unfold askingTimesyncSources decodeDiscoveryTimesyncSourcesPayload withCapacity
  simp only [Traced.bind_result, Traced.of_result, Traced.note_result, Traced.pure_result]
  rw [sliceWord_eq (within_new h)]
  apply bind_congr_ok
  rintro ⟨read, r₁⟩ hread
  refine bind_congr_ok fun _ _ => ?_
  dsimp only
  rw [sliceNames_eq _ _ _ _ (takeWord_within (within_new h) hread)]

theorem askingTopology_result (h : payload.length < B.usizeModulus) :
    (askingTopology B S payload).result = decodeDiscoveryTopologyPayload B S payload := by
  unfold askingTopology decodeDiscoveryTopologyPayload withCapacity
  simp only [Traced.bind_result, Traced.of_result, Traced.note_result, Traced.pure_result]
  rw [sliceWord_eq (within_new h)]
  apply bind_congr_ok
  rintro ⟨read, r₁⟩ hread
  refine bind_congr_ok fun _ _ => ?_
  dsimp only
  rw [askingBoards_result _ (takeWord_within (within_new h) hread)]

end Cursor
end Sedsprintf
