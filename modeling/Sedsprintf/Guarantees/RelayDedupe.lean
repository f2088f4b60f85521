import Sedsprintf.Relay.Receive
import Sedsprintf.Wire.Identity

/-!
# One packet in several forms at a relay

`get_hash` mixes the hop sequence number of a frame into the packet's id, and every link
writes a number of its own. Two copies of a packet therefore count as one only while
their numbers agree, and no packet that fits a frame has one id in all its forms.
-/
namespace Sedsprintf

open Lib

/-- How a packet reaches a relay: as a value, as `serialize_packet` writes it, or with
the header of a link. -/
inductive ArrivalForm
  | packet
  | plain
  | framed (header : ReliableHeader) (isData : header.flags &&& reliableFlagAckOnly = 0)

namespace ArrivalForm
variable (B : Build) {S : Schema}

def encode (p : Packet S) : ArrivalForm → Outcome (RouterItem S)
  | .packet => .ok (.packet p)
  | .plain => (serializePacket B p).map .serialized
  | .framed header _ => (serializePacketWithReliable B p header).map .serialized

/-- An ordinary data header under the number `seq`. -/
def numbered (seq : UInt32) : ArrivalForm := .framed ⟨0, seq, 0⟩ UInt8.zero_and

/-- The hop sequence number a form carries. -/
def hopSeq : ArrivalForm → Option UInt32
  | .packet => none
  | .plain => some 0
  | .framed header _ => some header.seq

end ArrivalForm

namespace RelayInner
variable (B : Build) {S : Schema}

/-- The id under which a relay remembers `p` with that number. -/
def dedupeId (p : Packet S) : Option UInt32 → UInt64
  | none => p.packetId B
  | some seq => hashBytesU64 (p.identity 8) (u32LeBytes seq)

/-- The item passes the checks and the hop part with nothing released behind it. -/
structure Arrives (env : RelayEnv S) (st : RelayInner S) (item : RelayRxItem S)
    (handed : RelayInner S) : Prop where
  admitted : st.admitItem B item = .ok ()
  hop : st.receiveHop B env item = (handed, .ok (some []))

/-- How often the calls handed an item to the fan-out. -/
def fanOuts (log : List (RouterItem S × Fate)) : Nat :=
  log.countP fun entry => entry.2 == .dispatched

/-- Two arrivals of `p` in these forms, on any sides, the second while the first is
still remembered and with no side ahead that has several announcers. -/
def FannedOutOnce (p : Packet S) (first second : ArrivalForm) : Prop :=
  ∀ (env env' : RelayEnv S) (st st' handed handed' : RelayInner S) (item item' : RelayRxItem S),
    first.encode B p = .ok item.data → second.encode B p = .ok item'.data →
    Arrives B env st item handed → Arrives B env' st' item' handed' →
    handed.Budgeted B → B.RecordsIds →
    (∀ (form : ArrivalForm) data id, form.encode B p = .ok data → getHash B data = .ok id →
      id ∉ handed.recentRx.q) →
    (∀ id, getHash B item.data = .ok id → id ∈ handed'.recentRx.q) →
    env'.multipleAnnouncersAhead handed' item' = .ok false →
    fanOuts ((st.processRxQueueItem B env item).log ++
      (st'.processRxQueueItem B env' item').log) = 1

/-- Deduplication sees neither the side nor the form. -/
structure DedupeIndependent (p : Packet S) : Prop where
  sameId : ∃ id, ∀ (form : ArrivalForm) data, form.encode B p = .ok data → getHash B data = .ok id
  once : ∀ first second, FannedOutOnce B p first second

end RelayInner

section Forms
variable {B : Build} {S : Schema} {p : Packet S} {form : ArrivalForm} {data : RouterItem S}

/-- The bytes of a form are a frame of `p` with a data header of its number. -/
theorem ArrivalForm.encode_eq_ok (hty : S.isReliableType p.ty = true)
    (h : form.encode B p = .ok data) :
    (form.hopSeq = none ∧ data = .packet p) ∨
      ∃ header bytes, form.hopSeq = some header.seq ∧ data = .serialized bytes ∧
        header.flags &&& reliableFlagAckOnly = 0 ∧
        serializePacketWithReliable B p header = .ok bytes := by
  cases form with
  | packet => exact .inl ⟨rfl, (Except.ok.inj h).symm⟩
  | plain =>
    simp only [encode, serializePacket, hty, if_true] at h
    cases hbytes : serializePacketWithReliable B p ⟨reliableFlagUnsequenced, 0, 0⟩ with
    | error e =>
      rw [hbytes] at h
      cases h
    | ok bytes =>
      rw [hbytes] at h
      exact .inr ⟨_, bytes, rfl, (Except.ok.inj h).symm, by decide, hbytes⟩
  | framed header isData =>
    simp only [encode] at h
    cases hbytes : serializePacketWithReliable B p header with
    | error e =>
      rw [hbytes] at h
      cases h
    | ok bytes =>
      rw [hbytes] at h
      exact .inr ⟨header, bytes, rfl, (Except.ok.inj h).symm, isData, hbytes⟩

theorem dataHeader_some (hty : S.isReliableType p.ty = true) {header : ReliableHeader}
    (hflags : header.flags &&& reliableFlagAckOnly = 0) : DataHeader p.ty (some header) :=
  ⟨hty.symm, fun _ hmem => Option.mem_some.mp hmem ▸ hflags⟩

theorem Packet.resident_of_wellFormed (hwf : p.WellFormed B) (hmem : p.InMemory B) :
    p.Resident B where
  sender_le := hmem.sender_le
  payload_le := hmem.payload_le
  dataSize_lt := by
    have hmodulus := B.isizeMax_lt
    have hpayload := hmem.payload_le
    rw [hwf.dataSize_eq]
    omega

variable (hwf : p.WellFormed B) (hmem : p.InMemory B) (hty : S.isReliableType p.ty = true)
include hwf hmem hty

theorem RelayInner.itemType_of_encode (h : form.encode B p = .ok data) :
    RelayInner.itemType B data = .ok p.ty := by
  obtain ⟨-, rfl⟩ | ⟨header, bytes, -, rfl, hflags, hbytes⟩ := form.encode_eq_ok hty h
  · rfl
  · obtain ⟨rfl, hfew, hlen⟩ := serializePacketInner_eq_ok B hbytes
    have hdec := deserializePacket_frameBody B hwf hmem hfew (dataHeader_some hty hflags)
    have hcarries : RouterItem.Carries B (.serialized _) _ := ⟨hlen, hdec⟩
    simp only [RelayInner.itemType, hcarries.peekEnvelope_eq, ok_bind, Packet.envelope]

/-- Every form is remembered under the id of its number. -/
theorem RelayInner.getHash_of_encode (hsorted : p.endpoints.Pairwise (· < ·))
    (h : form.encode B p = .ok data) :
    RelayInner.getHash B data = .ok (RelayInner.dedupeId B p form.hopSeq) := by
  obtain ⟨hseq, rfl⟩ | ⟨header, bytes, hseq, rfl, hflags, hbytes⟩ := form.encode_eq_ok hty h
  · rw [hseq]
    rfl
  · have hpeek := peekFrameInfo_of_serialize B (Packet.resident_of_wellFormed hwf hmem) hty hbytes
    obtain ⟨rfl, hfew, -⟩ := serializePacketInner_eq_ok B hbytes
    have hid := packetIdFromWire_frameBody hwf hmem hfew (dataHeader_some hty hflags)
    rw [ascendingEndpoints_of_sorted hsorted] at hid
    rw [hseq]
    simp only [RelayInner.getHash, RelayInner.reliableSeq, hpeek, hflags, ne_eq, not_true_eq_false,
      if_false, ok_bind, hid, RelayInner.dedupeId]

end Forms

section Arrivals
variable {B : Build} {S : Schema} {env : RelayEnv S} {st handed : RelayInner S}
  {item : RelayRxItem S} {id : UInt64}

/-- An item under a new id goes to the fan-out. -/
theorem RelayInner.log_of_new (h : RelayInner.Arrives B env st item handed)
    (hb : handed.Budgeted B) (hrecords : B.RecordsIds)
    (hhash : RelayInner.getHash B item.data = .ok id) (hnew : id ∉ handed.recentRx.q) :
    (st.processRxQueueItem B env item).log = [(item.data, .dispatched)] := by
  have hfresh := (RelayInner.isDuplicatePkt_of_not_mem hb hhash hnew).mpr hrecords
  simp only [RelayInner.processRxQueueItem, h.admitted, h.hop, RelayInner.handOver,
    RelayInner.skipsItem]
  generalize handed.isDuplicatePkt B item.data = checked at hfresh
  obtain ⟨st', answer⟩ := checked
  obtain rfl : answer = .ok false := hfresh
  dsimp only
  generalize st'.dispatchRelayRxItem B env item = r
  obtain ⟨st'', e | ⟨⟨⟩⟩⟩ := r
  · rfl
  · rfl

/-- An item under a remembered id is skipped unless a side ahead has several
announcers. -/
theorem RelayInner.log_of_known (h : RelayInner.Arrives B env st item handed)
    (hhash : RelayInner.getHash B item.data = .ok id) (hknown : id ∈ handed.recentRx.q)
    {ty : S.DataType} (hty : RelayInner.itemType B item.data = .ok ty)
    (halone : env.multipleAnnouncersAhead handed item = .ok false) :
    (st.processRxQueueItem B env item).log = [(item.data, .known)] := by
  have hforward : handed.shouldForwardDuplicateReliableItem B env item = .ok false := by
    simp only [RelayInner.shouldForwardDuplicateReliableItem, hty, ok_bind, halone, ite_self]
  simp only [RelayInner.processRxQueueItem, h.admitted, h.hop, RelayInner.handOver,
    RelayInner.skipsItem, RelayInner.isDuplicatePkt_of_mem hhash hknown, hforward]
  rfl

end Arrivals

section Ids

/-- One more byte is never absorbed without a trace. -/
theorem hashBytesU64_last_injective (h : UInt64) (bytes : List UInt8) {a b : UInt8}
    (heq : hashBytesU64 h (bytes ++ [a]) = hashBytesU64 h (bytes ++ [b])) : a = b := by
  have hmul : Function.Injective fun x : UInt64 => x * 0x9E3779B1 :=
    mul_right_injective_of_inverse (d := 0xCFA4A56B0E8B2F51) (by decide)
  have hshift := xorShiftRight_injective (n := 27) (by decide) (by decide)
  rw [hashBytesU64_append, hashBytesU64_append] at heq
  have hround : hashBytesU64 h bytes ^^^ a.toUInt64 = hashBytesU64 h bytes ^^^ b.toUInt64 :=
    hmul (hshift heq)
  have hword := (UInt64.xor_right_inj _).mp hround
  apply UInt8.toNat_inj.mp
  simpa using congrArg UInt64.toNat hword

end Ids

namespace RelayInner
variable {B : Build} {S : Schema} {p : Packet S}

/-- Two links can number a packet so that a relay takes the copies for two packets. -/
theorem dedupeId_differs : dedupeId B p (some 0) ≠ dedupeId B p (some 0x01000000) := by
  intro heq
  have := hashBytesU64_last_injective (p.identity 8) [0, 0, 0] (a := 0) (b := 1) heq
  cases this

end RelayInner

/-- **Forms of one packet at a relay.** The id and the fan-out are independent of the form
exactly for a packet that selects more than 255 endpoints, which no frame holds. Copies
whose hop numbers agree are always fanned out once. -/
theorem relay_dedupe_independent_iff {B : Build} {S : Schema} {p : Packet S} {ty : S.DataType}
    {endpoints : List S.DataEndpoint} {sender : String} {timestamp : UInt64}
    {payload : List UInt8} (hnew : Packet.new B ty endpoints sender timestamp payload = .ok p)
    (hmem : p.InMemory B) (hty : S.isReliableType p.ty = true)
    (hsorted : p.endpoints.Pairwise (· < ·)) :
    (RelayInner.DedupeIndependent B p ↔ 255 < p.endpoints.length) ∧
      ∀ first second : ArrivalForm, first.hopSeq = second.hopSeq →
        RelayInner.FannedOutOnce B p first second := by
  have hwf := Packet.wellFormed_of_new B hnew
  have hcount : popcount (buildEndpointBitmap S p.endpoints) = p.endpoints.length := by
    rw [popcount_build_eq, ascendingEndpoints_of_sorted hsorted]
  have honce : ∀ first second : ArrivalForm, first.hopSeq = second.hopSeq →
      RelayInner.FannedOutOnce B p first second := by
    intro first second hseq env env' st st' handed handed' item item' hfirst hsecond harrives
      harrives' hb hrecords hfresh hkept halone
    have hhash := RelayInner.getHash_of_encode hwf hmem hty hsorted hfirst
    have hhash' := RelayInner.getHash_of_encode hwf hmem hty hsorted hsecond
    rw [← hseq] at hhash'
    rw [RelayInner.log_of_new harrives hb hrecords hhash (hfresh first _ _ hfirst hhash),
      RelayInner.log_of_known harrives' hhash' (hkept _ hhash)
        (RelayInner.itemType_of_encode hwf hmem hty hsecond) halone]
    rfl
  refine ⟨⟨fun h => ?_, fun hmany => ?_⟩, honce⟩
  · by_contra hfew
    rw [not_lt, ← hcount] at hfew
    obtain ⟨id, hid⟩ := h.sameId
    -- a frame of every number can be written
    have hframe : ∀ seq, ∃ data, (ArrivalForm.numbered seq).encode B p = .ok data := by
      intro seq
      have hheader : (some ⟨0, seq, 0⟩ : Option ReliableHeader).isSome = S.isReliableType p.ty :=
        hty.symm
      refine ⟨.serialized (appendCrc32 B (frameBody B p (some ⟨0, seq, 0⟩))), ?_⟩
      simp only [ArrivalForm.numbered, ArrivalForm.encode, serializePacketWithReliable]
      rw [serializePacketInner_eq B hmem hfew hheader]
      rfl
    obtain ⟨data, hdata⟩ := hframe 0
    obtain ⟨data', hdata'⟩ := hframe 0x01000000
    have hfirst := hid _ _ hdata
    have hsecond := hid _ _ hdata'
    rw [RelayInner.getHash_of_encode hwf hmem hty hsorted hdata] at hfirst
    rw [RelayInner.getHash_of_encode hwf hmem hty hsorted hdata'] at hsecond
    exact RelayInner.dedupeId_differs
      ((Except.ok.inj hfirst).trans (Except.ok.inj hsecond).symm)
  · have hvalue : ∀ (form : ArrivalForm) data, form.encode B p = .ok data →
        form.hopSeq = none := by
      intro form data hdata
      obtain ⟨hseq, -⟩ | ⟨header, bytes, -, -, -, hbytes⟩ := form.encode_eq_ok hty hdata
      · exact hseq
      · obtain ⟨-, hfew, -⟩ := serializePacketInner_eq_ok B hbytes
        omega
    refine ⟨⟨p.packetId B, fun form data hdata => ?_⟩, fun first second => ?_⟩
    · rw [RelayInner.getHash_of_encode hwf hmem hty hsorted hdata, hvalue form data hdata]
      rfl
    · intro env env' st st' handed handed' item item' hfirst hsecond
      exact honce first second
        ((hvalue first _ hfirst).trans (hvalue second _ hsecond).symm) _ _ _ _ _ _ _ _
        hfirst hsecond

/-- The fix has no common id, but its copies under the number 0 are one. -/
theorem relay_dedupe_independent_gps :
    ¬RelayInner.DedupeIndependent hostBuild gpsDecoded ∧
      RelayInner.FannedOutOnce hostBuild gpsDecoded (.numbered 0) .plain := by
  have hnew : Packet.new hostBuild gpsDecoded.ty gpsDecoded.endpoints gpsDecoded.sender
      gpsDecoded.timestamp gpsDecoded.payload.asSlice = .ok gpsDecoded := by decide
  have hmem : gpsDecoded.InMemory hostBuild := ⟨by decide, by decide, by decide⟩
  obtain ⟨hiff, honce⟩ := relay_dedupe_independent_iff hnew hmem (by decide) (by decide)
  exact ⟨mt hiff.mp (by decide), honce _ _ rfl⟩

/-- A serialized side whose link has no hop reliability. -/
def Side.bestEffort : Side := ⟨.serialized, ⟨false, false, true, true⟩⟩

/-- The fix as a link writes it under the number `seq`, or nothing. -/
def gpsFrameAs (seq : UInt32) : List UInt8 :=
  ((serializePacketWithReliable hostBuild gpsDecoded ⟨0, seq, 0⟩).toOption).getD []

/-- The fix reaches a new relay over two links that number it 7 and 8. The second copy
comes right behind the first, nobody announces anything, and both are fanned out. -/
theorem relay_dedupe_fails_gps :
    ∃ (inner : RelayInner defaultSchema) (s : RelaySystem defaultSchema),
      RelayInner.new hostBuild = .ok inner ∧
      Run (RelaySystem.step hostBuild) anyStep (.initial inner)
        [.addSide .bestEffort, .addSide .bestEffort] s ∧
      s.inner.recentRx.q = [] ∧
      (ArrivalForm.numbered 7).encode hostBuild gpsDecoded =
        .ok (.serialized (gpsFrameAs 7)) ∧
      (ArrivalForm.numbered 8).encode hostBuild gpsDecoded =
        .ok (.serialized (gpsFrameAs 8)) ∧
      RelayInner.fanOuts
        ((s.inner.processRxQueueItem hostBuild .still ⟨0, .serialized (gpsFrameAs 7), 0⟩).log ++
          ((s.inner.processRxQueueItem hostBuild .still
            ⟨0, .serialized (gpsFrameAs 7), 0⟩).inner.processRxQueueItem hostBuild .still
              ⟨1, .serialized (gpsFrameAs 8), 0⟩).log) = 2 ∧
      ¬RelayInner.DedupeIndependent hostBuild gpsDecoded := by
  obtain ⟨inner, s, hnew, hrun, hview⟩ := @System.run_of_execute defaultSchema _ _
    (RelaySystem.step hostBuild) [.addSide .bestEffort, .addSide .bestEffort] _
    (fun s : RelaySystem defaultSchema => (s.inner.recentRx.q, RelayInner.fanOuts
        ((s.inner.processRxQueueItem hostBuild .still ⟨0, .serialized (gpsFrameAs 7), 0⟩).log ++
          ((s.inner.processRxQueueItem hostBuild .still
            ⟨0, .serialized (gpsFrameAs 7), 0⟩).inner.processRxQueueItem hostBuild .still
              ⟨1, .serialized (gpsFrameAs 8), 0⟩).log)))
    ([], 2) (RelayInner.new hostBuild) (by decide +kernel)
  obtain ⟨hempty, htwice⟩ := Prod.mk.inj hview
  have hframe : ∀ seq : UInt32,
      (serializePacketWithReliable hostBuild gpsDecoded ⟨0, seq, 0⟩).toOption =
        some (gpsFrameAs seq) →
      (ArrivalForm.numbered seq).encode hostBuild gpsDecoded =
        .ok (.serialized (gpsFrameAs seq)) := by
    intro seq hencode
    simp only [ArrivalForm.numbered, ArrivalForm.encode, toOption_eq_some.mp hencode]
    rfl
  have hseven := hframe 7 (by decide +kernel)
  have height := hframe 8 (by decide +kernel)
  refine ⟨inner, s, hnew, hrun, hempty, hseven, height, htwice, fun h => ?_⟩
  obtain ⟨id, hid⟩ := h.sameId
  have hfirst := hid _ _ hseven
  have hsecond := hid _ _ height
  have hdiffer : (@RelayInner.getHash hostBuild defaultSchema
      (.serialized (gpsFrameAs 7))).toOption ≠
        (@RelayInner.getHash hostBuild defaultSchema (.serialized (gpsFrameAs 8))).toOption := by
    decide +kernel
  rw [hfirst, hsecond] at hdiffer
  exact hdiffer rfl

end Sedsprintf
