import Sedsprintf.Wire.Agreement

/-!
# Where the frame parsers can panic

A parser panics where one of its parts does, on the values the parts before it came back with.
What is left are the sums of declared lengths, and the buffers that are allocated for declared
lengths. The checks on sums are those of a build with overflow checks.
-/
namespace Sedsprintf

open Lib

section Reading

theorem ByteReader.readBytes_neverPanics (r : ByteReader) (n : Nat) : NeverPanics (r.readBytes n) := by
  unfold readBytes
  split
  · exact .fail _
  · exact .ok _

theorem ByteReader.readByte_neverPanics (r : ByteReader) : NeverPanics r.readByte := by
  refine (r.readBytes_neverPanics 1).bind fun read hread => ?_
  obtain ⟨bytes, r'⟩ := read
  have hlen := (readBytes_remaining hread).2.2
  cases bytes with
  | nil => simp at hlen
  | cons b rest => exact .ok _

theorem readUleb128Loop_neverPanics (fuel : Nat) (acc : UInt64) (shift : Nat) (r : ByteReader) :
    NeverPanics (readUleb128Loop fuel acc shift r) := by
  induction fuel generalizing acc shift r with
  | zero => exact .fail _
  | succ fuel ih =>
    refine r.readByte_neverPanics.bind fun read _ => ?_
    dsimp only
    split
    · exact .ok _
    · exact ih _ _ _

theorem readPrelude_neverPanics (B : Build) (r : ByteReader) : NeverPanics (readPrelude B r) := by
  have huleb (r : ByteReader) : NeverPanics (readUleb128 r) := readUleb128Loop_neverPanics 10 0 0 r
  refine r.readByte_neverPanics.bind fun flags _ => ?_
  refine flags.2.readByte_neverPanics.bind fun nep _ => ?_
  refine (huleb _).bind fun ty _ => (huleb _).bind fun size _ => ?_
  refine (huleb _).bind fun timestamp _ => (huleb _).bind fun senderLen _ => ?_
  refine NeverPanics.bind ?_ fun wireLen _ => .ok _
  unfold readSenderWireLen
  split
  · exact huleb _
  · exact .ok _

theorem readReliableHeader_neverPanics (r : ByteReader) : NeverPanics (readReliableHeader r) := by
  have hword (r : ByteReader) : NeverPanics (readU32Le r) :=
    (r.readBytes_neverPanics 4).bind fun _ _ => .ok _
  exact r.readByte_neverPanics.bind fun flags _ => (hword _).bind fun seq _ =>
    (hword _).bind fun ack _ => .ok _

variable {S : Schema}

theorem dataTypeFromRaw_neverPanics (tyV : UInt64) : NeverPanics (dataTypeFromRaw S tyV) :=
  (NeverPanics.ensure _ _).bind fun _ _ => (NeverPanics.ensure _ _).bind fun _ _ => .okOr _ _

theorem readDataHeader_neverPanics (ty : S.DataType) (r : ByteReader) :
    NeverPanics (readDataHeader S ty r) := by
  unfold readDataHeader
  split
  · exact (readReliableHeader_neverPanics r).bind fun hdr _ =>
      (NeverPanics.ensure _ _).bind fun _ _ => .ok _
  · exact .ok _

theorem splitCrc32_neverPanics (buf : List UInt8) : NeverPanics (splitCrc32 buf) := by
  unfold splitCrc32
  split
  · exact .fail _
  · exact .ok _

theorem verifyCrc32_neverPanics (B : Build) (buf : List UInt8) : NeverPanics (verifyCrc32 B buf) := by
  refine (splitCrc32_neverPanics buf).bind fun split _ => ?_
  dsimp only
  split
  · exact .fail _
  · exact .ok _

end Reading

section Sizes
variable (B : Build)

/-- A sum of lengths overflows where its exact value does: partial sums are no larger. -/
theorem usizeSum_neverPanics_iff (hchecks : B.overflowChecks = true) (terms : List Nat) :
    NeverPanics (B.usizeSum terms) ↔ terms.sum < B.usizeModulus := by
  refine ⟨fun h => ?_, fun h => ?_⟩
  · by_contra hover
    have hfrom (acc : Nat) (hacc : acc < B.usizeModulus) (hsum : ¬acc + terms.sum < B.usizeModulus) :
        ¬NeverPanics (terms.foldlM B.usizeAdd acc) := by
      clear h hover
      induction terms generalizing acc with
      | nil => exact absurd hacc hsum
      | cons t rest ih =>
        rw [List.sum_cons] at hsum
        rw [List.foldlM_cons]
        by_cases hadd : acc + t < B.usizeModulus
        · rw [B.usizeAdd_of_lt hadd, ok_bind]
          exact ih (acc + t) hadd (by omega)
        · rw [Build.usizeAdd, if_neg hadd, if_pos hchecks]
          exact NeverPanics.not_panics
    exact hfrom 0 (Nat.two_pow_pos _) (by omega) h
  · rw [B.usizeSum_of_lt terms h]
    exact .ok _

theorem allocate_neverPanics_iff (n : Nat) : NeverPanics (B.allocate n) ↔ n ≤ B.isizeMax := by
  unfold Build.allocate
  split
  · rename_i h
    exact iff_of_true (.ok _) h
  · rename_i h
    exact iff_of_false NeverPanics.not_panics h

/-- Decompression allocates what it is told to expect. -/
theorem decompress_neverPanics_iff (compressed : List UInt8) (expectedLen : Nat) :
    NeverPanics (decompress B compressed expectedLen) ↔
      (B.compression.isSome = true → expectedLen ≤ B.isizeMax) := by
  cases hz : B.compression with
  | none =>
    refine iff_of_true ?_ (by simp)
    simp only [decompress, hz]
    exact .fail _
  | some z =>
    simp only [decompress, hz, Option.isSome_some, true_imp_iff]
    rw [NeverPanics.bind_iff, allocate_neverPanics_iff, and_iff_left]
    exact fun _ _ => (NeverPanics.okOr _ _).bind fun out _ => (NeverPanics.ensure _ _).bind
      fun _ _ => .ok _

theorem decodeSenderName_neverPanics_iff (wire : List UInt8) (compressed : Bool) (senderLen : Nat) :
    NeverPanics (decodeSenderName B wire compressed senderLen) ↔
      (compressed = true → B.compression.isSome = true → senderLen ≤ B.isizeMax) := by
  cases compressed with
  | false => exact iff_of_true (.okOr _ _) (by simp)
  | true =>
    have hdecode : NeverPanics (decodeSenderName B wire true senderLen) ↔
        NeverPanics (decompress B wire senderLen) := by
      rw [decodeSenderName, if_pos rfl, NeverPanics.bind_iff, and_iff_left]
      exact fun _ _ => .okOr _ _
    rw [hdecode, decompress_neverPanics_iff, imp_iff_right rfl]

theorem senderHashBytes_neverPanics_iff (pre : Prelude) (wire : List UInt8) :
    NeverPanics (senderHashBytes B pre wire) ↔
      (pre.senderIsCompressed = true → B.compression.isSome = true → pre.slen ≤ B.isizeMax) := by
  unfold senderHashBytes
  split
  · rename_i hc
    rw [decompress_neverPanics_iff, imp_iff_right hc]
  · rename_i hc
    exact iff_of_true (.ok _) fun h => absurd h hc

theorem readPayload_neverPanics_iff (pre : Prelude) (r : ByteReader) :
    NeverPanics (readPayload B pre r) ↔
      (pre.payloadIsCompressed = true → B.compression.isSome = true → pre.dsz ≤ B.isizeMax) := by
  unfold readPayload
  split
  · rename_i hc
    rw [NeverPanics.bind_iff_of (r.readBytes_neverPanics _)]
    simp only [decompress_neverPanics_iff, hc, true_imp_iff]
    have hread : ∃ read, r.readBytes r.remaining = .ok read :=
      ⟨_, if_neg (Nat.lt_irrefl _)⟩
    exact ⟨fun h => hread.elim fun read hread => h read hread, fun h _ _ => h⟩
  · rename_i hc
    exact iff_of_true ((r.readBytes_neverPanics _).bind fun _ _ => .ok _) fun h => absurd h hc

theorem payloadHashBytes_neverPanics_iff (pre : Prelude) (r : ByteReader) :
    NeverPanics (payloadHashBytes B pre r) ↔
      (pre.payloadIsCompressed = true → 1 ≤ r.remaining → B.compression.isSome = true →
        pre.dsz ≤ B.isizeMax) := by
  unfold payloadHashBytes
  split
  · rename_i hc
    rw [NeverPanics.ensure_bind_iff, imp_iff_right hc]
    refine forall_congr' fun hroom => ?_
    have hread : ∃ read, r.readBytes r.remaining = .ok read :=
      ⟨_, if_neg (Nat.lt_irrefl _)⟩
    rw [NeverPanics.bind_iff_of (r.readBytes_neverPanics _)]
    simp only [decompress_neverPanics_iff]
    exact ⟨fun h => hread.elim fun read hread => h read hread, fun h _ _ => h⟩
  · rename_i hc
    refine iff_of_true ?_ fun h => absurd h hc
    exact NeverPanics.ensure_bind_iff.mpr fun _ => (r.readBytes_neverPanics _).bind fun _ _ => .ok _

end Sizes
end Sedsprintf
