import Sedsprintf.Codegen.StackPayload

/-!
# Payload storage

A payload comes back as it was stored unless an inline variant is chosen for more bytes than
its length byte can count. A build has such a variant as soon as its limit is 256 or more.
-/
namespace Sedsprintf.Codegen

namespace StandardSmallPayload
variable {B : Build} {caps : List Nat} {data : List UInt8}

/-- The payload is the data, in whichever way it is asked for it. -/
structure Holds (B : Build) (payload : StandardSmallPayload caps) (data : List UInt8) : Prop where
  asSlice : payload.asSlice = data
  len : payload.len = data.length
  toArc : payload.toArc B = .ok data

/-- Storing the data does not panic and loses nothing. -/
def Lossless (B : Build) (caps : List Nat) (data : List UInt8) : Prop :=
  ∃ payload, new B caps data = .ok payload ∧ payload.Holds B data

theorem holds_heap : (heap data : StandardSmallPayload caps).Holds B data := ⟨rfl, rfl, rfl⟩

theorem holds_inline {cap : Nat} (listed : cap ∈ caps) (hcap : data.length ≤ cap)
    (hbyte : data.length ≤ 255) :
    (inline cap listed (.inline (UInt8.ofNat data.length) (.copied cap data)
      (InlineBuf.init_copied hcap hbyte))).Holds B data where
  asSlice := InlineBuf.asSlice_copied hcap hbyte
  len := UInt8.toNat_ofNat_of_lt' (Nat.lt_succ_of_le hbyte)
  toArc := by
    simp only [StandardSmallPayload.toArc, SmallPayload.toArc,
      InlineBuf.asSlice_copied hcap hbyte]
    exact arcFrom_of_fits B (arcFits_of_le B hbyte)

/-- A capacity of more bytes than a length byte counts is chosen for data it cannot take. -/
theorem newArms_of_gt {arms : List Nat} (hsub : arms ⊆ caps)
    (hcap : ∃ cap ∈ arms, data.length ≤ cap) (hbyte : 255 < data.length) :
    newArms B data arms hsub = panics s!"InlineBuf len does not fit in u8: {data.length}" := by
  induction arms with
  | nil => simp at hcap
  | cons cap rest ih =>
    rw [newArms]
    by_cases hfirst : data.length ≤ cap
    · rw [if_pos hfirst, SmallPayload.new_of_gt hfirst hbyte]
      rfl
    · rw [if_neg hfirst]
      apply ih
      simpa [hfirst] using hcap

/-- Where no capacity is large enough, the data goes to the heap. -/
theorem newArms_of_none {arms : List Nat} (hsub : arms ⊆ caps)
    (hcap : ∀ cap ∈ arms, cap < data.length) :
    newArms B data arms hsub = (arcFrom B data).map StandardSmallPayload.heap := by
  induction arms with
  | nil =>
    rw [newArms]
    cases arcFrom B data with
    | ok arc => rfl
    | error stop => rfl
  | cons cap rest ih =>
    have hfirst := hcap cap List.mem_cons_self
    rw [newArms, if_neg (by omega)]
    exact ih _ fun cap' hmem => hcap cap' (List.mem_cons_of_mem _ hmem)

/-- The first capacity that is large enough takes data whose length a byte counts. -/
theorem newArms_of_le {arms : List Nat} (hsub : arms ⊆ caps)
    (hcap : ∃ cap ∈ arms, data.length ≤ cap) (hbyte : data.length ≤ 255) :
    ∃ (cap : Nat) (listed : cap ∈ caps) (hfits : data.length ≤ cap),
      newArms B data arms hsub = .ok (inline cap listed (.inline (UInt8.ofNat data.length)
        (.copied cap data) (InlineBuf.init_copied hfits hbyte))) := by
  induction arms with
  | nil => simp at hcap
  | cons cap rest ih =>
    rw [newArms]
    by_cases hfirst : data.length ≤ cap
    · refine ⟨cap, hsub List.mem_cons_self, hfirst, ?_⟩
      rw [if_pos hfirst, SmallPayload.new_of_le hfirst hbyte, ok_bind]
    · rw [if_neg hfirst]
      apply ih
      simpa [hfirst] using hcap

theorem lossless_iff : Lossless B caps data ↔
    data.length ≤ 255 ∨ (¬∃ cap ∈ caps, data.length ≤ cap) ∧ ArcFits B data.length := by
  unfold Lossless StandardSmallPayload.new
  by_cases hcap : ∃ cap ∈ caps, data.length ≤ cap
  · simp only [hcap, not_true, false_and, or_false]
    constructor
    · rintro ⟨payload, hnew, -⟩
      by_contra hbyte
      rw [newArms_of_gt _ hcap (by omega)] at hnew
      cases hnew
    · intro hbyte
      obtain ⟨cap, listed, hfits, hnew⟩ := @newArms_of_le B _ _ _ (List.Subset.refl caps) hcap hbyte
      exact ⟨_, hnew, holds_inline listed hfits hbyte⟩
  · have hnone : ∀ cap ∈ caps, cap < data.length := by
      intro cap hmem
      by_contra hle
      exact hcap ⟨cap, hmem, by omega⟩
    rw [newArms_of_none _ hnone]
    constructor
    · rintro ⟨payload, hnew, -⟩
      refine .inr ⟨hcap, ?_⟩
      by_contra hfits
      simp [arcFrom, hfits, panics, Except.map] at hnew
    · intro h
      have hfits : ArcFits B data.length := h.elim (arcFits_of_le B) And.right
      refine ⟨.heap data, ?_, holds_heap⟩
      rw [arcFrom_of_fits B hfits]
      rfl

/-- A payload that is stored is the one `Packet` keeps: the same bytes, as inline or on the heap
as the largest capacity has it, at the same cost. -/
theorem packet_payload {hostBits : Nat} {env : Option String} {payload : StandardSmallPayload caps}
    (hbuild : defineStackPayload hostBits env = some caps) (h : new B caps data = .ok payload) :
    ∃ stored : Sedsprintf.SmallPayload, Sedsprintf.SmallPayload.new
        (2 ^ (readMaxFromEnv hostBits env 64).log2) data = .ok stored ∧
      stored.asSlice = payload.asSlice ∧ stored.byteCost B = payload.byteCost B := by
  have hcaps := exists_cap_iff hbuild data.length
  unfold StandardSmallPayload.new at h
  by_cases hcap : ∃ cap ∈ caps, data.length ≤ cap
  · rcases Nat.lt_or_ge 255 data.length with hbyte | hbyte
    · rw [newArms_of_gt _ hcap hbyte] at h
      cases h
    · obtain ⟨cap, listed, hfits, hnew⟩ := @newArms_of_le B _ _ _ (List.Subset.refl caps) hcap hbyte
      rw [hnew] at h
      obtain rfl := Except.ok.inj h
      have hstored : Sedsprintf.SmallPayload.new (2 ^ (readMaxFromEnv hostBits env 64).log2) data =
          .ok (.inline (UInt8.ofNat data.length) data) := by
        rw [Sedsprintf.SmallPayload.new, if_pos (hcaps.mp hcap), if_pos hbyte]
      refine ⟨_, hstored, ?_, rfl⟩
      rw [Sedsprintf.SmallPayload.asSlice_of_new hstored]
      exact (InlineBuf.asSlice_copied hfits hbyte).symm
  · have hnone : ∀ cap ∈ caps, cap < data.length := by
      intro cap hmem
      by_contra hle
      exact hcap ⟨cap, hmem, by omega⟩
    have hstored : Sedsprintf.SmallPayload.new (2 ^ (readMaxFromEnv hostBits env 64).log2) data =
        .ok (.heap data) := by
      rw [Sedsprintf.SmallPayload.new, if_neg (hcap ∘ hcaps.mpr)]
    rw [newArms_of_none _ hnone, arcFrom] at h
    split at h
    · obtain rfl := Except.ok.inj h
      exact ⟨_, hstored, rfl, rfl⟩
    · cases h

end StandardSmallPayload

/-- In every build, exactly the payloads of up to 255 bytes and those past the largest inline
capacity that fit an `Arc` are stored and given back as they are. -/
theorem payload_lossless_iff {B : Build} {hostBits : Nat} {env : Option String} {caps : List Nat}
    (hbuild : defineStackPayload hostBits env = some caps) (data : List UInt8) :
    StandardSmallPayload.Lossless B caps data ↔
      data.length ≤ 255 ∨
        2 ^ (readMaxFromEnv hostBits env 64).log2 < data.length ∧ ArcFits B data.length := by
  have hcaps := exists_cap_iff hbuild data.length
  rw [StandardSmallPayload.lossless_iff, hcaps, Nat.not_le]

/-- The default capacities go up to 64 bytes. -/
theorem payload_lossless_iff_default : StandardSmallPayload.Lossless hostBuild
    [1, 2, 4, 8, 16, 32, 64] (List.replicate 300 7) := by
  have hbuild : defineStackPayload 64 none = some [1, 2, 4, 8, 16, 32, 64] := by decide +kernel
  apply (payload_lossless_iff hbuild (List.replicate 300 7)).mpr
  rw [List.length_replicate]
  decide +kernel

/-- The limit 256 of the README makes a variant that panics on 256 bytes. -/
theorem payload_of_256_bytes_panics :
    defineStackPayload 64 (some "256") = some [1, 2, 4, 8, 16, 32, 64, 128, 256] ∧
    ArcFits hostBuild 256 ∧
    StandardSmallPayload.new hostBuild [1, 2, 4, 8, 16, 32, 64, 128, 256] (List.replicate 256 7) =
      panics "InlineBuf len does not fit in u8: 256" ∧
    ¬StandardSmallPayload.Lossless hostBuild [1, 2, 4, 8, 16, 32, 64, 128, 256]
      (List.replicate 256 7) := by
  have hlength : (List.replicate 256 (7 : UInt8)).length = 256 := List.length_replicate
  have hcap : ∃ cap ∈ [1, 2, 4, 8, 16, 32, 64, 128, 256],
      (List.replicate 256 (7 : UInt8)).length ≤ cap := ⟨256, by simp, hlength.le⟩
  refine ⟨by decide +kernel, by decide +kernel, ?_, ?_⟩
  · have hnew := @StandardSmallPayload.newArms_of_gt hostBuild _ _ _ (List.Subset.refl _) hcap
      (by rw [hlength]; decide)
    rw [hlength] at hnew
    exact hnew
  · rw [StandardSmallPayload.lossless_iff]
    rintro (hbyte | ⟨hnone, -⟩)
    · rw [hlength] at hbyte
      omega
    · exact hnone hcap

end Sedsprintf.Codegen
