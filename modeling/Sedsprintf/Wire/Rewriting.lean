import Sedsprintf.Wire.Header

/-!
# A frame with another header

src/serialize.rs:700-790: `rewrite_reliable_header` puts another header on a frame in place. The
decoder reads the fields in front of it and the payload behind it as before, so the frame still
decodes to the packet it held.
-/
namespace Sedsprintf

open Lib

section Rewriting
variable {B : Build} {S : Schema}

/-- The payload is read from what comes behind the cursor. -/
theorem readPayload_done (pre : Prelude) (done done' rest : List UInt8) :
    readPayload B pre (.between done rest) = readPayload B pre (.between done' rest) := by
  have hread : ∀ (done : List UInt8) (n : Nat), (ByteReader.between done rest).readBytes n =
      if rest.length < n then reject "short read"
      else .ok (rest.take n, ⟨done ++ rest, done.length + n⟩) := by
    intro done n
    simp [ByteReader.readBytes, ByteReader.between, ByteReader.remaining]
  unfold readPayload
  simp only [ByteReader.between_remaining, hread]
  split
  · simp
  · split
    · rfl
    · rfl

namespace Decoded
variable {buf : List UInt8} {p : Packet S} (d : Decoded B S buf p)
include d

/-- What the decoder reads in front of the header, it reads of every body that agrees so far. -/
theorem front_same {data : List UInt8} (hlen : data.length = d.data.length)
    (htake : data.take d.afterSender.off = d.data.take d.afterSender.off) :
    readPrelude B (.new data) = .ok (d.pre, ⟨data, d.afterPrelude.off⟩) ∧
      (⟨data, d.afterPrelude.off⟩ : ByteReader).readBytes S.epBitmapBytes =
        .ok (d.bm, ⟨data, d.afterBitmap.off⟩) ∧
      (⟨data, d.afterBitmap.off⟩ : ByteReader).readBytes d.pre.senderWireLen =
        .ok (d.senderWire, ⟨data, d.afterSender.off⟩) := by
  obtain ⟨hbuf, -, -⟩ := (PrefixOnly.readPrelude B).advances d.prelude_ok
  obtain ⟨hbuf', hoff', -⟩ := (PrefixOnly.readBytes _).advances d.bitmap_ok
  obtain ⟨-, hoff'', -⟩ := (PrefixOnly.readBytes _).advances d.sender_read
  have hdata : d.afterPrelude.buf = d.data := hbuf
  have hdata' : d.afterBitmap.buf = d.data := hbuf'.trans hdata
  have hshorter : ∀ {off}, off ≤ d.afterSender.off → data.take off = d.data.take off := by
    intro off hle
    have hboth := congrArg (List.take off) htake
    rwa [List.take_take, List.take_take, Nat.min_eq_left hle] at hboth
  refine ⟨?_, ?_, ?_⟩
  · exact (PrefixOnly.readPrelude B).same d.prelude_ok hlen (hshorter (hoff'.trans hoff''))
  · refine (PrefixOnly.readBytes _).same d.bitmap_ok (hlen.trans (congrArg List.length hdata).symm) ?_
    rw [hdata]
    exact hshorter hoff''
  · refine (PrefixOnly.readBytes _).same d.sender_read
      (hlen.trans (congrArg List.length hdata').symm) ?_
    rw [hdata']
    exact hshorter le_rfl

/-- The frame with another header still decodes to its packet. -/
theorem rewritten (hslice : buf.length ≤ B.isizeMax) (hty : S.isReliableType p.ty = true)
    {hdr : ReliableHeader} (hflags : hdr.flags &&& reliableFlagAckOnly = 0) :
    ∃ buf', rewriteReliableHeader B S buf hdr = (buf', .ok true) ∧ buf'.length = buf.length ∧
      deserializePacket B S buf' = .ok p := by
  obtain ⟨-, hd, -, hread⟩ | ⟨hno, -⟩ := readDataHeader_eq_ok d.header_ok
  · obtain ⟨hroom, -, hafter⟩ := ByteReader.readBytes_eq_ok.mp (readReliableHeader_eq_ok hread)
    have hbuf := d.afterSender_buf
    have hoff : d.afterSender.off + reliableHeaderBytes ≤ d.data.length := by
      have hpos : 0 < reliableHeaderBytes := by decide
      rw [ByteReader.remaining, hbuf] at hroom
      omega
    have hfit : d.afterSender.off + (writeReliableHeader hdr).length ≤ d.data.length := by
      rwa [writeReliableHeader_length]
    have hlen := overwrite_length hfit
    have hrewrite := rewriteReliableHeader_eq d.data_ne_nil (d.readEnvelope_eq hslice) hty hoff hdr
    rw [← d.buf_eq] at hrewrite
    refine ⟨_, hrewrite, ?_, ?_⟩
    · rw [← d.data_length, ← hlen]
      simp [appendCrc32, crc32Bytes]
    · obtain ⟨hprelude, hbitmap, hsender⟩ := d.front_same hlen
        (overwrite_take (Nat.le_of_add_right_le hoff))
      have hbetween : (⟨overwrite d.data d.afterSender.off (writeReliableHeader hdr),
          d.afterSender.off⟩ : ByteReader) = .between (d.data.take d.afterSender.off)
            (writeReliableHeader hdr ++ d.data.drop (d.afterSender.off + reliableHeaderBytes)) := by
        simp [ByteReader.between, overwrite, Nat.min_eq_left (Nat.le_of_add_right_le hoff)]
      have hheader : readDataHeader S p.ty
          ⟨overwrite d.data d.afterSender.off (writeReliableHeader hdr), d.afterSender.off⟩ =
          .ok (some hdr, .between (d.data.take d.afterSender.off ++ writeReliableHeader hdr)
            (d.data.drop (d.afterSender.off + reliableHeaderBytes))) := by
        rw [hbetween, readDataHeader, if_pos hty, readReliableHeader_between, ok_bind]
        simp only [ensure_of hflags, ok_bind]
      have hend : d.afterHeader = .between (d.data.take (d.afterSender.off + reliableHeaderBytes))
          (d.data.drop (d.afterSender.off + reliableHeaderBytes)) := by
        rw [hafter, ByteReader.between, List.take_append_drop, List.length_take,
          Nat.min_eq_left hoff, hbuf]
      have hpayload := d.payload_ok
      rw [hend, readPayload_done _ _ (d.data.take d.afterSender.off ++ writeReliableHeader hdr)]
        at hpayload
      have hneed : d.need ≤ (⟨overwrite d.data d.afterSender.off (writeReliableHeader hdr),
          d.afterPrelude.off⟩ : ByteReader).remaining := by
        have hle := d.need_le
        obtain ⟨hprebuf, -, -⟩ := (PrefixOnly.readPrelude B).advances d.prelude_ok
        rw [ByteReader.remaining, hprebuf] at hle
        rwa [ByteReader.remaining, hlen]
      have hne : overwrite d.data d.afterSender.off (writeReliableHeader hdr) ≠ [] := by
        rw [← List.length_pos_iff, hlen]
        exact List.length_pos_iff.mpr d.data_ne_nil
      simp only [deserializePacket, verifyCrc32_appendCrc32, ok_bind, ensure_of hne, hprelude,
        isReliableTypeFromRaw, d.type_ok, d.need_ok, ensure_of hneed, hbitmap, d.expand_ok,
        ensure_of d.count_ok, hsender, d.sender_ok, hheader, hpayload, d.new_ok]
  · rw [hty] at hno
    cases hno

end Decoded
end Rewriting
end Sedsprintf
