import Sedsprintf.Wire.Frame

/-!
# How the frame parsers refuse

What a parser answers about bytes that are no frame cannot be taken for the answer of a side.
-/
namespace Sedsprintf

open Lib

/-- A call whose `Err` is no `TelemetryError::Io`. -/
def NeverIo {α : Type} (x : Outcome α) : Prop := ∀ msg, x ≠ fail (.io msg)

namespace NeverIo
variable {α β : Type}

theorem ok (a : α) : NeverIo (.ok a : Outcome α) := by
  intro msg h
  cases h

theorem panics (what : String) : NeverIo (Sedsprintf.panics what : Outcome α) := by
  intro msg h
  simp [fail, Sedsprintf.panics] at h

theorem fail {e : TelemetryError} (h : ∀ msg, e ≠ .io msg) :
    NeverIo (Sedsprintf.fail e : Outcome α) := by
  intro msg heq
  simp only [Sedsprintf.fail, Except.error.injEq, Stop.err.injEq] at heq
  exact h msg heq

theorem bind {x : Outcome α} {f : α → Outcome β} (hx : NeverIo x) (hf : ∀ a, NeverIo (f a)) :
    NeverIo (x >>= f) := by
  intro msg h
  cases x with
  | error e =>
    apply hx msg
    obtain rfl := Except.error.inj h
    rfl
  | ok a => exact hf a msg h

theorem ensure (p : Prop) [Decidable p] {e : TelemetryError} (h : ∀ msg, e ≠ .io msg) :
    NeverIo (Sedsprintf.ensure p e) := by
  unfold Sedsprintf.ensure
  split
  · exact .ok _
  · exact .fail h

theorem okOr {e : TelemetryError} (h : ∀ msg, e ≠ .io msg) (o : Option α) :
    NeverIo (Sedsprintf.okOr e o) := by
  cases o with
  | none => exact .fail h
  | some a => exact .ok a

theorem ite {c : Prop} [Decidable c] {x y : Outcome α} (hx : NeverIo x) (hy : NeverIo y) :
    NeverIo (if c then x else y) := by
  split
  · exact hx
  · exact hy

end NeverIo

section Arithmetic
variable (B : Build)

theorem usizeSum_neverIo (terms : List Nat) : NeverIo (B.usizeSum terms) := by
  have hfrom (acc : Nat) : NeverIo (terms.foldlM B.usizeAdd acc) := by
    induction terms generalizing acc with
    | nil => exact .ok acc
    | cons t rest ih =>
      rw [List.foldlM_cons]
      apply NeverIo.bind
      · exact .ite (.ok _) (.ite (.panics _) (.ok _))
      · exact ih
  exact hfrom 0

theorem decompress_neverIo (compressed : List UInt8) (expectedLen : Nat) :
    NeverIo (decompress B compressed expectedLen) := by
  unfold decompress
  split
  · exact .fail (by simp)
  · apply NeverIo.bind
    · exact .ite (.ok _) (.panics _)
    · intro _
      apply NeverIo.bind
      · exact .okOr (by simp) _
      · intro out
        exact .bind (.ensure _ (by simp)) fun _ => .ok _

end Arithmetic

section Parsers
variable (B : Build) {S : Schema}

theorem ByteReader.readBytes_neverIo (r : ByteReader) (n : Nat) : NeverIo (r.readBytes n) :=
  .ite (.fail (by simp)) (.ok _)

theorem ByteReader.readByte_neverIo (r : ByteReader) : NeverIo r.readByte := by
  apply (r.readBytes_neverIo 1).bind
  intro read
  dsimp only
  split
  · exact .ok _
  · exact .panics _

theorem readUleb128_neverIo (r : ByteReader) : NeverIo (readUleb128 r) := by
  have hloop (fuel : Nat) (acc : UInt64) (shift : Nat) :
      NeverIo (readUleb128Loop fuel acc shift r) := by
    induction fuel generalizing acc shift r with
    | zero => exact .fail (by simp)
    | succ fuel ih => exact r.readByte_neverIo.bind fun read => .ite (.ok _) (ih _ _ _)
  exact hloop 10 0 0

theorem readPrelude_neverIo (r : ByteReader) : NeverIo (readPrelude B r) := by
  apply r.readByte_neverIo.bind
  intro flags
  apply flags.2.readByte_neverIo.bind
  intro nep
  apply (readUleb128_neverIo nep.2).bind
  intro ty
  apply (readUleb128_neverIo ty.2).bind
  intro size
  apply (readUleb128_neverIo size.2).bind
  intro timestamp
  apply (readUleb128_neverIo timestamp.2).bind
  intro senderLen
  exact .bind (.ite (readUleb128_neverIo _) (.ok _)) fun _ => .ok _

theorem verifyCrc32_neverIo (buf : List UInt8) : NeverIo (verifyCrc32 B buf) := by
  apply NeverIo.bind
  · exact .ite (.fail (by simp)) (.ok _)
  · intro read
    exact .ite (.fail (by simp)) (.ok _)

theorem expandEndpointBitmap_neverIo (bm : List UInt8) : NeverIo (expandEndpointBitmap S bm) := by
  apply NeverIo.bind
  · exact .ensure _ (by simp)
  · intro _
    induction List.range S.epBitmapBits with
    | nil => exact .ok _
    | cons bit rest ih =>
      unfold expandBits
      split
      · exact .panics _
      · exact .ite (.bind (.okOr (by simp) _) fun _ => ih.bind fun _ => .ok _) ih

theorem dataTypeFromRaw_neverIo (tyV : UInt64) : NeverIo (dataTypeFromRaw S tyV) :=
  .bind (.ensure _ (by simp)) fun _ => .bind (.ensure _ (by simp)) fun _ => .okOr (by simp) _

theorem decodeSenderName_neverIo (wire : List UInt8) (compressed : Bool) (senderLen : Nat) :
    NeverIo (decodeSenderName B wire compressed senderLen) := by
  apply NeverIo.ite
  · exact (decompress_neverIo B wire senderLen).bind fun _ => .okOr (by simp) _
  · exact .okOr (by simp) _

theorem readDataHeader_neverIo (ty : S.DataType) (r : ByteReader) :
    NeverIo (readDataHeader S ty r) := by
  have hword (r : ByteReader) : NeverIo (readU32Le r) :=
    (r.readBytes_neverIo 4).bind fun _ => .ok _
  apply NeverIo.ite
  · apply NeverIo.bind
    · exact r.readByte_neverIo.bind fun _ => (hword _).bind fun _ => (hword _).bind fun _ => .ok _
    · intro read
      exact .bind (.ensure _ (by simp)) fun _ => .ok _
  · exact .ok _

theorem readPayload_neverIo (pre : Prelude) (r : ByteReader) : NeverIo (readPayload B pre r) := by
  apply NeverIo.ite
  · exact (r.readBytes_neverIo _).bind fun _ => decompress_neverIo B _ _
  · exact (r.readBytes_neverIo _).bind fun _ => .ok _

theorem Packet.new_neverIo (ty : S.DataType) (endpoints : List S.DataEndpoint) (sender : String)
    (timestamp : UInt64) (payload : List UInt8) :
    NeverIo (Packet.new B ty endpoints sender timestamp payload) := by
  apply NeverIo.ite
  · exact .fail (by simp)
  · apply NeverIo.bind
    · unfold checkElement
      split
      · apply NeverIo.bind
        · exact .ite (.ok _) (.ite (.panics _) (.ok _))
        · intro need
          exact .ite (.fail (by simp)) (.ok _)
      · unfold validateDynamicLenAndContent
        split
        · apply NeverIo.ite
          · split
            · exact .ok _
            · exact .fail (by simp)
          · exact .ok _
        · exact .ok _
        · exact .ite (.fail (by simp)) (.ok _)
    · intro _
      apply NeverIo.bind
      · exact .ite (.ite (.ok _) (.panics _)) (.ok _)
      · exact fun _ => .ok _

theorem deserializePacket_neverIo (buf : List UInt8) : NeverIo (deserializePacket B S buf) := by
  apply (verifyCrc32_neverIo B buf).bind
  intro data
  apply (NeverIo.ensure _ (by simp)).bind
  intro _
  apply (readPrelude_neverIo B _).bind
  intro pre
  apply ((dataTypeFromRaw_neverIo _).bind fun _ => .ok _).bind
  intro reliable
  apply (usizeSum_neverIo B _).bind
  intro need
  apply (NeverIo.ensure _ (by simp)).bind
  intro _
  apply (ByteReader.readBytes_neverIo _ _).bind
  intro bm
  apply (expandEndpointBitmap_neverIo _).bind
  intro eps
  apply (NeverIo.ensure _ (by simp)).bind
  intro _
  apply (ByteReader.readBytes_neverIo _ _).bind
  intro senderWire
  apply (decodeSenderName_neverIo B _ _ _).bind
  intro sender
  apply (dataTypeFromRaw_neverIo _).bind
  intro ty
  apply (readDataHeader_neverIo ty _).bind
  intro hdr
  exact (readPayload_neverIo B _ _).bind fun payload => Packet.new_neverIo B _ _ _ _ _

end Parsers
end Sedsprintf
