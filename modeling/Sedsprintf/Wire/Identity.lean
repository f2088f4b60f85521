import Sedsprintf.Wire.Header
import Sedsprintf.Lib.Mixing

/-!
# Packet identity across boards

`Packet::packet_id` hashes the endpoint list as given and the payload size as a
`usize`; `packet_id_from_wire` hashes the endpoint set in ascending order and
the size as a `u64`. One round of the hash is invertible in the state, so each
of the two differences can be isolated: whatever is hashed alike before and
after it neither hides nor creates a disagreement.
-/
namespace Sedsprintf

open Lib

section Rounds

theorem hashBytesU64_injective (bytes : List UInt8) :
    Function.Injective fun h => hashBytesU64 h bytes := by
  apply foldl_injective_of_round
  intro b
  have hmul : Function.Injective fun x : UInt64 => x * 0x9E3779B1 :=
    mul_right_injective_of_inverse (d := 0xCFA4A56B0E8B2F51) (by decide)
  have hshift := xorShiftRight_injective (n := 27) (by decide) (by decide)
  exact hshift.comp (hmul.comp (xor_right_injective b.toUInt64))

theorem hashBytesU64_append (h : UInt64) (xs ys : List UInt8) :
    hashBytesU64 h (xs ++ ys) = hashBytesU64 (hashBytesU64 h xs) ys :=
  List.foldl_append

variable {S : Schema}

/-- The endpoint names as one byte string. -/
def endpointNames (endpoints : List S.DataEndpoint) : List UInt8 :=
  endpoints.flatMap fun ep => asBytes (S.getEndpointMeta ep).name

theorem hashEndpoints_eq (h : UInt64) (endpoints : List S.DataEndpoint) :
    hashEndpoints h endpoints = hashBytesU64 h (endpointNames endpoints) := by
  induction endpoints generalizing h with
  | nil => rfl
  | cons ep rest ih =>
    rw [endpointNames, List.flatMap_cons, hashBytesU64_append]
    exact ih _

end Rounds

section Endpoints
variable {S : Schema}

/-- The endpoint set in ascending order, without repeats. -/
def ascendingEndpoints (endpoints : List S.DataEndpoint) : List S.DataEndpoint :=
  (List.finRange S.endpointCount).filter endpoints.contains

theorem bitmapEndpoints_build_eq (endpoints : List S.DataEndpoint) :
    bitmapEndpoints S (buildEndpointBitmap S endpoints) = ascendingEndpoints endpoints := by
  rw [bitmapEndpoints_build]
  exact List.filter_congr fun ep _ => by simp

theorem ascendingEndpoints_of_sorted {endpoints : List S.DataEndpoint}
    (h : endpoints.Pairwise (· < ·)) : ascendingEndpoints endpoints = endpoints := by
  rw [← bitmapEndpoints_build_eq]
  exact bitmapEndpoints_build_of_sorted h

theorem popcount_build_eq (endpoints : List S.DataEndpoint) :
    popcount (buildEndpointBitmap S endpoints) = (ascendingEndpoints endpoints).length := by
  rw [popcount_build, bitmapEndpoints_build_eq]

/-- The hash state before the endpoints: the sender and the type's name. -/
def Packet.originState (p : Packet S) : UInt64 :=
  hashBytesU64 (hashBytesU64 packetIdSeed (asBytes p.sender)) (asBytes (S.getMessageName p.ty))

/-- The names in list order and in ascending order take the hash from the
sender and type to the same state. -/
def Packet.NamesHashAlike (p : Packet S) : Prop :=
  hashBytesU64 p.originState (endpointNames p.endpoints) =
    hashBytesU64 p.originState (endpointNames (ascendingEndpoints p.endpoints))

instance (p : Packet S) : Decidable p.NamesHashAlike :=
  inferInstanceAs (Decidable (_ = _))

theorem Packet.namesHashAlike_of_sorted {p : Packet S} (h : p.endpoints.Pairwise (· < ·)) :
    p.NamesHashAlike := by
  rw [NamesHashAlike, ascendingEndpoints_of_sorted h]

/-- A different endpoint list gives the same identity exactly when the names
leave the hash in the same state. -/
theorem Packet.identity_endpoints_eq_iff (p : Packet S) (sizeBytes : Nat)
    (endpoints : List S.DataEndpoint) :
    ({ p with endpoints := endpoints } : Packet S).identity sizeBytes = p.identity sizeBytes ↔
      hashBytesU64 p.originState (endpointNames endpoints) =
        hashBytesU64 p.originState (endpointNames p.endpoints) := by
  rw [← hashEndpoints_eq, ← hashEndpoints_eq]
  constructor
  · intro h
    exact hashBytesU64_injective _ (hashBytesU64_injective _ (hashBytesU64_injective _ h))
  · intro h
    simp only [originState] at h
    simp only [identity, h]

end Endpoints

section Wire
variable {B : Build} {S : Schema} {p : Packet S}

theorem packetIdFromWire_frameBody (hwf : p.WellFormed B) (hmem : p.InMemory B)
    (hfew : popcount (buildEndpointBitmap S p.endpoints) ≤ 255) {hdr : Option ReliableHeader}
    (hhdr : DataHeader p.ty hdr) :
    packetIdFromWire B S (appendCrc32 B (frameBody B p hdr)) =
      .ok (({ p with endpoints := ascendingEndpoints p.endpoints } : Packet S).identity 8) := by
  have hlen : (appendCrc32 B (frameBody B p hdr)).length ≤ B.isizeMax := by
    have := hmem.frame_le
    rw [frameBody_length B hhdr.isSome_eq]
    omega
  have hdec := deserializePacket_frameBody B hwf hmem hfew hhdr
  rw [bitmapEndpoints_build_eq] at hdec
  obtain ⟨d⟩ := Decoded.exists_of_ok hdec
  exact d.packetIdFromWire_eq_identity hlen

variable (B) in
/-- A frame carries the identity of `p`: computed from its bytes and from the
packet decoded from them. -/
def IdentityAgrees (p : Packet S) (encoded : Outcome (List UInt8)) : Prop :=
  ∃ bytes p', encoded = .ok bytes ∧ packetIdFromWire B S bytes = .ok (p.packetId B) ∧
    deserializePacket B S bytes = .ok p' ∧ p'.packetId B = p.packetId B

theorem identityAgrees_inner_iff (hwf : p.WellFormed B) (hmem : p.InMemory B)
    (hbits : B.usizeBits = 64) {hdr : Option ReliableHeader} (hhdr : DataHeader p.ty hdr) :
    IdentityAgrees B p (serializePacketInner B p hdr) ↔
      (ascendingEndpoints p.endpoints).length ≤ 255 ∧ p.NamesHashAlike := by
  have hid (q : Packet S) : q.packetId B = q.identity 8 := by
    rw [Packet.packetId_eq_identity, hbits]
  rw [← popcount_build_eq]
  constructor
  · rintro ⟨bytes, p', hser, hwire, -, -⟩
    obtain ⟨rfl, hfew, -⟩ := serializePacketInner_eq_ok B hser
    rw [packetIdFromWire_frameBody hwf hmem hfew hhdr, hid] at hwire
    exact ⟨hfew, ((p.identity_endpoints_eq_iff 8 _).mp (Except.ok.inj hwire)).symm⟩
  · rintro ⟨hfew, halike⟩
    have hsame := (p.identity_endpoints_eq_iff 8 (ascendingEndpoints p.endpoints)).mpr halike.symm
    refine ⟨_, _, serializePacketInner_eq B hmem hfew hhdr.isSome_eq, ?_,
      deserializePacket_frameBody B hwf hmem hfew hhdr, ?_⟩
    · rw [packetIdFromWire_frameBody hwf hmem hfew hhdr, hsame, hid]
    · rw [hid, hid, bitmapEndpoints_build_eq]
      exact hsame

variable (B) in
/-- **Who agrees on a packet's identity.** On a 64-bit target both encoders
give every hop the identity its originator computes exactly when at most 255
endpoints are selected and the endpoint names hash alike in list order and in
ascending order; a strictly ascending list always does. -/
theorem packetId_agrees_iff {ty : S.DataType} {endpoints : List S.DataEndpoint} {sender : String}
    {timestamp : UInt64} {payload : List UInt8}
    (hnew : Packet.new B ty endpoints sender timestamp payload = .ok p) (hmem : p.InMemory B)
    (hbits : B.usizeBits = 64) :
    ((IdentityAgrees B p (serializePacket B p) ∧
      (S.isReliableType p.ty = true → ∀ h : ReliableHeader, h.flags &&& reliableFlagAckOnly = 0 →
        IdentityAgrees B p (serializePacketWithReliable B p h))) ↔
      (ascendingEndpoints p.endpoints).length ≤ 255 ∧ p.NamesHashAlike) ∧
    (p.endpoints.Pairwise (· < ·) → p.NamesHashAlike) := by
  refine ⟨?_, Packet.namesHashAlike_of_sorted⟩
  have hwf := Packet.wellFormed_of_new B hnew
  have hreliable (hty : S.isReliableType p.ty = true) (h : ReliableHeader)
      (hflags : h.flags &&& reliableFlagAckOnly = 0) :
      IdentityAgrees B p (serializePacketWithReliable B p h) ↔
        (ascendingEndpoints p.endpoints).length ≤ 255 ∧ p.NamesHashAlike :=
    identityAgrees_inner_iff hwf hmem hbits
      ⟨hty.symm, fun h' hmem => Option.mem_some.mp hmem ▸ hflags⟩
  have hplain : IdentityAgrees B p (serializePacket B p) ↔
      (ascendingEndpoints p.endpoints).length ≤ 255 ∧ p.NamesHashAlike := by
    by_cases hty : S.isReliableType p.ty = true
    · rw [serializePacket, if_pos hty]
      exact hreliable hty _ rfl
    · rw [serializePacket, if_neg hty]
      exact identityAgrees_inner_iff hwf hmem hbits ⟨by simpa using hty, by simp⟩
  constructor
  · rintro ⟨h, -⟩
    exact hplain.mp h
  · intro h
    exact ⟨hplain.mpr h, fun hty hdr hflags => (hreliable hty hdr hflags).mpr h⟩

theorem packetId_agrees_gps :
    IdentityAgrees hostBuild gpsDecoded (serializePacket hostBuild gpsDecoded) ∧
      IdentityAgrees hostBuild gpsDecoded
        (serializePacketWithReliable hostBuild gpsDecoded ⟨0, 7, 0⟩) := by
  have hnew : Packet.new hostBuild gpsDecoded.ty gpsDecoded.endpoints gpsDecoded.sender
      gpsDecoded.timestamp gpsDecoded.payload.asSlice = .ok gpsDecoded := by decide
  have hmem : gpsDecoded.InMemory hostBuild := ⟨by decide, by decide, by decide⟩
  obtain ⟨hiff, hsorted⟩ := packetId_agrees_iff hostBuild hnew hmem rfl
  obtain ⟨hplain, hreliable⟩ := hiff.mpr ⟨by decide, hsorted (by decide)⟩
  exact ⟨hplain, hreliable (by decide) _ (by decide)⟩

/-- The same fix addressed out of order and with a repetition: its originator
and the first hop compute different identities. -/
theorem packetId_differs_on_gpsPacket :
    Packet.new hostBuild gpsPacket.ty gpsPacket.endpoints gpsPacket.sender gpsPacket.timestamp
        gpsPacket.payload.asSlice = .ok gpsPacket ∧
      ¬ IdentityAgrees hostBuild gpsPacket (serializePacket hostBuild gpsPacket) := by
  refine ⟨by decide, ?_⟩
  rintro ⟨bytes, p', hser, hwire, -⟩
  have hbytes : (serializePacket hostBuild gpsPacket).toOption.bind
      (fun bytes => (packetIdFromWire hostBuild defaultSchema bytes).toOption) ≠
        some (gpsPacket.packetId hostBuild) := by decide +kernel
  rw [hser] at hbytes
  exact hbytes (toOption_eq_some.mpr hwire)

end Wire

section Widths
variable {B : Build} {S : Schema} {p : Packet S}

/-- The same build for a 32-bit target. -/
def Build.narrow (B : Build) : Build := { B with usizeBits := 32, usizeBits_eq := .inl rfl }

theorem Build.narrow_isizeMax_le (B : Build) : B.narrow.isizeMax ≤ B.isizeMax := by
  rcases B.usizeBits_eq with h | h <;> simp [Build.isizeMax, Build.narrow, h]

theorem Packet.InMemory.widen (h : p.InMemory B.narrow) : p.InMemory B :=
  ⟨h.sender_le.trans B.narrow_isizeMax_le, h.payload_le.trans B.narrow_isizeMax_le,
    h.frame_le.trans B.narrow_isizeMax_le⟩

/-- The hash state after the four low bytes of the payload size. -/
def Packet.sizeState (p : Packet S) : UInt64 :=
  let h := hashEndpoints p.originState p.endpoints
  let h := hashBytesU64 h (encodeLE 8 p.timestamp.toNat)
  hashBytesU64 h (encodeLE 4 p.dataSize)

/-- A size below `2 ^ 32` adds four zero bytes on the wide target. -/
theorem encodeLE_eight_of_lt {n : Nat} (h : n < 2 ^ 32) :
    encodeLE 8 n = encodeLE 4 n ++ [0, 0, 0, 0] := by
  rw [encodeLE_add 4 4 n, Nat.div_eq_of_lt (by simpa using h)]
  rfl

/-- The two widths agree exactly when four zero bytes leave the state unchanged. -/
theorem Packet.identity_width_eq_iff (hsize : p.dataSize < 2 ^ 32) :
    p.identity 4 = p.identity 8 ↔ hashBytesU64 p.sizeState [0, 0, 0, 0] = p.sizeState := by
  have hwide : p.identity 8 =
      hashBytesU64 (hashBytesU64 p.sizeState [0, 0, 0, 0]) p.payload.asSlice := by
    rw [identity, encodeLE_eight_of_lt hsize]
    simp only [hashBytesU64_append]
    rfl
  have hnarrow : p.identity 4 = hashBytesU64 p.sizeState p.payload.asSlice := rfl
  rw [hwide, hnarrow, (hashBytesU64_injective p.payload.asSlice).eq_iff, eq_comm]

variable (B) in
/-- The identities of one packet on boards of both widths: the two computed
from the packet, and the one computed from the frame either board writes, on
either board. -/
def WidthAgrees (p : Packet S) : Prop :=
  p.packetId B.narrow = p.packetId B ∧
    ∀ writer ∈ [B.narrow, B], ∀ reader ∈ [B.narrow, B], ∃ bytes,
      serializePacket writer p = .ok bytes ∧
        packetIdFromWire reader S bytes = .ok (p.packetId B.narrow) ∧
        packetIdFromWire reader S bytes = .ok (p.packetId B)

/-- The header `serialize_packet` writes. -/
def defaultHeader (ty : S.DataType) : Option ReliableHeader :=
  if S.isReliableType ty then some ⟨reliableFlagUnsequenced, 0, 0⟩ else none

theorem dataHeader_defaultHeader (ty : S.DataType) : DataHeader ty (defaultHeader ty) := by
  unfold defaultHeader
  split
  · rename_i hty
    exact ⟨hty.symm, fun h hmem => Option.mem_some.mp hmem ▸ rfl⟩
  · rename_i hty
    exact ⟨by simpa using hty, by simp⟩

theorem serializePacket_eq_inner (p : Packet S) :
    serializePacket B p = serializePacketInner B p (defaultHeader p.ty) := by
  unfold serializePacket defaultHeader
  split <;> rfl

/-- Either board reads the identity with the eight-byte size from a frame of
either board. -/
theorem packetIdFromWire_widths (hwf32 : p.WellFormed B.narrow) (hwf64 : p.WellFormed B)
    (hmem : p.InMemory B.narrow) (hsorted : p.endpoints.Pairwise (· < ·))
    (hfew : popcount (buildEndpointBitmap S p.endpoints) ≤ 255) {writer reader : Build}
    (hwriter : writer ∈ [B.narrow, B]) (hreader : reader ∈ [B.narrow, B]) :
    ∃ bytes, serializePacket writer p = .ok bytes ∧
      packetIdFromWire reader S bytes = .ok (p.identity 8) := by
  have hhdr := dataHeader_defaultHeader p.ty
  have hsame : ({ p with endpoints := ascendingEndpoints p.endpoints } : Packet S) = p := by
    rw [ascendingEndpoints_of_sorted hsorted]
  have hframe : appendCrc32 B.narrow (frameBody B.narrow p (defaultHeader p.ty)) =
      appendCrc32 B (frameBody B p (defaultHeader p.ty)) := rfl
  have hwrite : serializePacket writer p =
      .ok (appendCrc32 B (frameBody B p (defaultHeader p.ty))) := by
    rw [serializePacket_eq_inner]
    simp only [List.mem_cons, List.not_mem_nil, or_false] at hwriter
    rcases hwriter with rfl | rfl
    · exact serializePacketInner_eq _ hmem hfew hhdr.isSome_eq
    · exact serializePacketInner_eq _ hmem.widen hfew hhdr.isSome_eq
  refine ⟨_, hwrite, ?_⟩
  simp only [List.mem_cons, List.not_mem_nil, or_false] at hreader
  rcases hreader with rfl | rfl
  · rw [← hframe, packetIdFromWire_frameBody hwf32 hmem hfew hhdr, hsame]
  · rw [packetIdFromWire_frameBody hwf64 hmem.widen hfew hhdr, hsame]

variable (B) in
/-- **Pointer width.** For a packet both boards accept, with strictly ascending
endpoints, the identities agree exactly when at most 255 endpoints are selected
and the hash state after the four low size bytes is one that four zero bytes
leave unchanged. -/
theorem packetId_width_iff {ty : S.DataType} {endpoints : List S.DataEndpoint} {sender : String}
    {timestamp : UInt64} {payload : List UInt8}
    (hnew32 : Packet.new B.narrow ty endpoints sender timestamp payload = .ok p)
    (hnew64 : Packet.new B ty endpoints sender timestamp payload = .ok p)
    (hmem : p.InMemory B.narrow) (hbits : B.usizeBits = 64)
    (hsorted : p.endpoints.Pairwise (· < ·)) :
    WidthAgrees B p ↔
      p.endpoints.length ≤ 255 ∧ hashBytesU64 p.sizeState [0, 0, 0, 0] = p.sizeState := by
  have hwf32 := Packet.wellFormed_of_new _ hnew32
  have hwf64 := Packet.wellFormed_of_new _ hnew64
  have hsize : p.dataSize < 2 ^ 32 := by
    have hlen := hmem.payload_le
    rw [hwf64.dataSize_eq]
    simp only [Build.isizeMax, Build.narrow] at hlen
    omega
  have hbits32 : B.narrow.usizeBits = 32 := rfl
  have hid32 : p.packetId B.narrow = p.identity 4 := by
    rw [Packet.packetId_eq_identity, hbits32]
  have hid64 : p.packetId B = p.identity 8 := by rw [Packet.packetId_eq_identity, hbits]
  have hcount : popcount (buildEndpointBitmap S p.endpoints) = p.endpoints.length := by
    rw [popcount_build_eq, ascendingEndpoints_of_sorted hsorted]
  rw [← hcount, ← Packet.identity_width_eq_iff hsize]
  constructor
  · rintro ⟨heq, hwire⟩
    obtain ⟨bytes, hser, -⟩ := hwire B (by simp) B (by simp)
    rw [serializePacket_eq_inner] at hser
    refine ⟨(serializePacketInner_eq_ok B hser).2.1, ?_⟩
    rw [← hid32, ← hid64, heq]
  · rintro ⟨hfew, heq⟩
    refine ⟨by rw [hid32, hid64, heq], fun writer hwriter reader hreader => ?_⟩
    obtain ⟨bytes, hser, hwire⟩ :=
      packetIdFromWire_widths hwf32 hwf64 hmem hsorted hfew hwriter hreader
    exact ⟨bytes, hser, by rw [hid32, heq, hwire], by rw [hid64, hwire]⟩

theorem packetId_width_gps :
    ¬ (gpsDecoded.endpoints.length ≤ 255 ∧
        hashBytesU64 gpsDecoded.sizeState [0, 0, 0, 0] = gpsDecoded.sizeState) ∧
      ¬ WidthAgrees hostBuild gpsDecoded := by
  have hnew32 : Packet.new hostBuild.narrow gpsDecoded.ty gpsDecoded.endpoints gpsDecoded.sender
      gpsDecoded.timestamp gpsDecoded.payload.asSlice = .ok gpsDecoded := by decide
  have hnew64 : Packet.new hostBuild gpsDecoded.ty gpsDecoded.endpoints gpsDecoded.sender
      gpsDecoded.timestamp gpsDecoded.payload.asSlice = .ok gpsDecoded := by decide
  have hiff := packetId_width_iff hostBuild hnew32 hnew64 ⟨by decide, by decide, by decide⟩ rfl
    (by decide)
  have hstate : ¬ (gpsDecoded.endpoints.length ≤ 255 ∧
      hashBytesU64 gpsDecoded.sizeState [0, 0, 0, 0] = gpsDecoded.sizeState) := by
    decide +kernel
  exact ⟨hstate, mt hiff.mp hstate⟩

/-- The same fix has two identities, one on a host and one on a 32-bit board. -/
theorem packetId_differs_by_width :
    Packet.new hostBuild.narrow gpsDecoded.ty gpsDecoded.endpoints gpsDecoded.sender
        gpsDecoded.timestamp gpsDecoded.payload.asSlice = .ok gpsDecoded ∧
      gpsDecoded.endpoints.Pairwise (· < ·) ∧
      gpsDecoded.packetId hostBuild.narrow ≠ gpsDecoded.packetId hostBuild := by
  refine ⟨by decide, by decide, ?_⟩
  decide +kernel

end Widths
end Sedsprintf
