import DeltaV.Bridge.Downlink
import DeltaV.Ground.Listener

/-!
# Agreement on the downlink

The flight side builds frames and the ground takes them apart. Both compute the same checksum,
although the ground lets its register grow within a byte (`Gds.crc16_eq_serializer`), so every
frame passes and its payload is recorded (`Gds.udpListener_buildFrame`), with the fields that were
packed.
-/

namespace DeltaV

namespace Gds

/-! ## The checksum -/

open Crc

/-- One bit of the checksum moves up the register in its lowest bits. -/
theorem register_crc16Bit (crc : ℕ) :
    register 16 (crc16Bit crc) = shift (register 16 0x1021) (register 16 crc) := by
  have hbit : crc16Bit crc = natShift 16 0x1021 crc := by
    rw [crc16Bit, natShift]
    exact if_congr (Serializer.and_high_bit crc) rfl rfl
  rw [hbit, register_natShift (by decide)]

/-- The two sides compute the same checksum. -/
theorem crc16_eq_serializer (data : List UInt8) : crc16 data = (Serializer.crc16 data).toNat := by
  have hreg : register 16 (crc16 data) = pushes (register 16 0x1021) (register 16 0xFFFF) data := by
    refine reg_foldl (register 16) (· &&& 0xFFFF) (fun crc byte => register_xor _ _)
      register_crc16Bit (fun crc => ?_) data 0xFFFF
    rw [show crc &&& 0xFFFF = crc % 2^16 from Nat.and_two_pow_sub_one_eq_mod crc 16,
      register_mod le_rfl]
  -- The register is cut after the last byte, so the checksum is all of it.
  have hlt : crc16 data < 2^16 := by
    rw [crc16]
    rcases data.eq_nil_or_concat with rfl | ⟨bytes, byte, rfl⟩
    · decide
    · rw [List.concat_eq_append, List.foldl_concat]
      exact Nat.and_lt_two_pow _ (by decide)
  calc
    crc16 data = (register 16 (crc16 data)).toNat := by
      rw [register, BitVec.toNat_ofNat, Nat.mod_eq_of_lt hlt]
    _ = (Serializer.crc16 data).toNat := by rw [hreg, Serializer.crc16_eq]

/-! ## Frames -/

section

variable (apid seq : UInt16) {data : List UInt8}

/-- The number that the ground reads from the two bytes of a checksum. -/
theorem unpackCrc_bytes (crc : UInt16) :
    unpackCrc [(crc >>> 8).toUInt8, (crc &&& 0xFF).toUInt8] = crc.toNat := by
  have hlt := crc.toNat_lt
  have hhigh : (crc >>> 8).toUInt8.toNat = crc.toNat / 256 := by
    rw [UInt16.toNat_toUInt8, UInt16.toNat_shiftRight, Nat.shiftRight_eq_div_pow]
    exact Nat.mod_eq_of_lt (by simp; omega)
  have hlow : (crc &&& 0xFF).toUInt8.toNat = crc.toNat % 256 := by
    rw [UInt16.toNat_toUInt8, UInt16.toNat_and]
    exact (congrArg (· % 256) (Nat.and_two_pow_sub_one_eq_mod crc.toNat 8)).trans (Nat.mod_mod _ _)
  rw [unpackCrc]
  simp only [List.take_succ_cons, List.take_zero, List.reverse_cons, List.reverse_nil,
    List.nil_append, List.cons_append, le, hhigh, hlow]
  omega

/-- The fields of the header of a frame. -/
theorem header_buildFrame (hlen : data.length < 65536) :
    syncWord (buildFrame apid seq data) = CCSDS_SYNC_WORD ∧
      Gds.apid (buildFrame apid seq data) = apid.toNat ∧
      le (slice (buildFrame apid seq data) 6 2) = seq.toNat ∧
      announced (buildFrame apid seq data) = data.length := by
  have hframe : CcsdsHeader.decode (buildFrame apid seq data) =
      ⟨DeltaV.CCSDS_SYNC_WORD, apid, seq, UInt16.ofNat data.length⟩ := by
    rw [buildFrame, List.append_assoc, CcsdsHeader.decode_bytes]
  obtain ⟨hsync, hapid, hseq, hplen⟩ := CcsdsHeader.decode_toNat (buildFrame apid seq data)
  rw [hframe] at hsync hapid hseq hplen
  have hfits : (UInt16.ofNat data.length).toNat = data.length := UInt16.toNat_ofNat_of_lt' hlen
  exact ⟨hsync.symm, hapid.symm, hseq.symm, hplen.symm.trans hfits⟩

/-- The ground reads the header of a frame. -/
theorem unpackHeader_buildFrame (hlen : data.length < 65536) :
    unpackHeader ((buildFrame apid seq data).take HEADER_FMT.sum) =
      (CCSDS_SYNC_WORD, apid.toNat, seq.toNat, data.length) := by
  obtain ⟨hsync, hapid, hseq, hplen⟩ := header_buildFrame apid seq hlen
  rw [unpackHeader_take, hsync, hapid, hseq, hplen]

/-- The payload and the checksum of a frame. -/
theorem payload_buildFrame (hlen : data.length < 65536) :
    payload (buildFrame apid seq data) = data ∧
      checksum (buildFrame apid seq data) =
        [(Serializer.crc16 data >>> 8).toUInt8, (Serializer.crc16 data &&& 0xFF).toUInt8] := by
  obtain ⟨-, -, -, hplen⟩ := header_buildFrame apid seq hlen
  have hskip : ∀ off len, slice (buildFrame apid seq data) (HEADER_FMT.sum + off) len =
      slice (data ++ [(Serializer.crc16 data >>> 8).toUInt8,
        (Serializer.crc16 data &&& 0xFF).toUInt8]) off len := by
    intro off len
    have := slice_append_right
      (CcsdsHeader.bytes ⟨DeltaV.CCSDS_SYNC_WORD, apid, seq, UInt16.ofNat data.length⟩)
      (data ++ [(Serializer.crc16 data >>> 8).toUInt8, (Serializer.crc16 data &&& 0xFF).toUInt8])
      off len
    rw [CcsdsHeader.length_bytes, ← List.append_assoc] at this
    exact this
  rw [payload, checksum, hplen, hskip data.length CRC_FMT.sum]
  constructor
  · rw [show HEADER_FMT.sum = HEADER_FMT.sum + 0 from rfl, hskip, slice, List.drop_zero,
      List.take_left]
  · rw [slice, List.drop_left]
    rfl

/-- A frame is as long as its parts. -/
theorem length_buildFrame :
    (buildFrame apid seq data).length = HEADER_FMT.sum + data.length + CRC_FMT.sum := by
  rw [buildFrame, List.length_append, List.length_append, CcsdsHeader.length_bytes]
  rfl

/-- Every frame is verified. -/
theorem verified_buildFrame (hlen : data.length < 65536) : Verified (buildFrame apid seq data) := by
  obtain ⟨hsync, -, -, hplen⟩ := header_buildFrame apid seq hlen
  obtain ⟨hpayload, hchecksum⟩ := payload_buildFrame apid seq hlen
  refine ⟨?_, hsync, ?_, ?_⟩
  · rw [length_buildFrame, Nat.add_assoc]
    exact Nat.le_add_right _ _
  · rw [length_buildFrame, hplen]
  · rw [hpayload, hchecksum, unpackCrc_bytes, crc16_eq_serializer]

/-- The payload of a frame is recorded, if the ground knows its kind and reads all of it. -/
theorem udpListener_buildFrame {components : ℕ → Option Text} {g : Gds} {ts : Text}
    (hlen : HEADER_FMT.sum + data.length + CRC_FMT.sum ≤ 2048)
    (hkind : apid.toNat = 10 ∧ 12 ≤ data.length ∨ apid.toNat = 20 ∧ 36 ≤ data.length) :
    udpListener components g ts (buildFrame apid seq data) =
      record components g ts apid.toNat data := by
  have hsmall : data.length < 65536 := by omega
  obtain ⟨hsync, hapid, -, hplen⟩ := header_buildFrame apid seq hsmall
  obtain ⟨hpayload, -⟩ := payload_buildFrame apid seq hsmall
  have hver := verified_buildFrame apid seq hsmall
  have hread : ChecksumRead (buildFrame apid seq data) := by
    rw [ChecksumRead, hplen, length_buildFrame]
    exact le_min le_rfl hlen
  have hreceived := (received_of_checksumRead hread).1.trans hpayload
  have hpass : Passes (buildFrame apid seq data) := by
    refine ⟨⟨?_, hsync, ?_⟩, fun _ => hver.checked⟩
    · rw [length_buildFrame]
      omega
    · rwa [hapid, hreceived]
  rcases udpListener_cases components g ts (buildFrame apid seq data) with h | h
  · rw [h.2, hapid, hreceived]
  · exact absurd hpass h.1

end

/-! ## Payloads -/

/-- The ground reads the fields of a telemetry packet. -/
theorem unpackTelem_packTelem (p : TelemetryPacket) :
    unpackTelem (Serializer.packTelem p) =
      (p.timestamp_ms.toNat, p.component_id.toNat, p.data_payload) := by
  have hread := unpackLE_packLE_words [p.timestamp_ms, p.component_id, p.data_payload.bits] []
  simp only [List.map_cons, List.map_nil, unpackLE, List.drop_drop, List.cons.injEq, and_true,
    List.append_nil] at hread
  obtain ⟨hts, hid, hvalue⟩ := hread
  rw [unpackTelem, show le (slice (Serializer.packTelem p) 0 4) = _ from hts,
    show le (slice (Serializer.packTelem p) 4 4) = _ from hid,
    show le (slice (Serializer.packTelem p) 8 4) = _ from hvalue, UInt32.ofNat_toNat]

/-- The ground reads the fields of an event, and its message with the zeros behind it. -/
theorem unpackEvent_packEvent (p : EventPacket) :
    unpackEvent (Serializer.packEvent p) =
      (p.severity.toNat, p.source_id.toNat,
        p.message ++ List.replicate (EVENT_MSG_SIZE - p.message.length) 0) := by
  have hfits : p.message.length < 28 := p.fits
  have hread := unpackLE_packLE_words [p.severity, p.source_id]
    (p.message ++ List.replicate (EVENT_MSG_SIZE - p.message.length) 0)
  rw [← List.append_assoc] at hread
  simp only [List.map_cons, List.map_nil, unpackLE, List.cons.injEq, and_true] at hread
  obtain ⟨hsev, hsrc⟩ := hread
  have hmsg : slice (Serializer.packEvent p) 8 28 =
      p.message ++ List.replicate (EVENT_MSG_SIZE - p.message.length) 0 := by
    have := slice_append_right (packLE [(4, p.severity.toNat), (4, p.source_id.toNat)])
      (p.message ++ List.replicate (EVENT_MSG_SIZE - p.message.length) 0) 0 28
    rw [length_packLE, ← List.append_assoc] at this
    refine this.trans ?_
    rw [slice, List.drop_zero, List.take_of_length_le]
    rw [List.length_append, List.length_replicate, EVENT_MSG_SIZE]
    omega
  rw [unpackEvent, hmsg, show le (slice (Serializer.packEvent p) 0 4) = _ from hsev,
    show le (slice (Serializer.packEvent p) 4 4) = _ from hsrc]

/-- Stripping zeros from a text without zeros leaves the text. -/
theorem rdropWhile_append_zeros {text : Text} (htext : ∀ c ∈ text, c ≠ 0) (k : ℕ) :
    (text ++ List.replicate k 0).rdropWhile (fun c => c = 0) = text := by
  induction k with
  | zero =>
    rw [List.replicate_zero, List.append_nil, List.rdropWhile_eq_self_iff]
    intro hne h
    exact htext _ (List.getLast_mem hne) (of_decide_eq_true h)
  | succ k ih =>
    rw [List.replicate_succ', ← List.append_assoc, List.rdropWhile_concat_pos _ _ _ (by decide), ih]

/-- The ground reads a text of ASCII characters in front of the zeros that fill the message. -/
theorem decodeMessage_append {text : Text} (hascii : ∀ c ∈ text, c ≠ 0 ∧ c < 0x80) (k : ℕ) :
    decodeMessage (text ++ List.replicate k 0) = text := by
  have hfilter : (text ++ List.replicate k 0).filter (fun c => c < 0x80) =
      text ++ List.replicate k 0 := by
    refine List.filter_eq_self.mpr fun c hc => decide_eq_true ?_
    rcases List.mem_append.mp hc with h | h
    · exact (hascii c h).2
    · rw [List.eq_of_mem_replicate h]
      decide
  rw [decodeMessage, hfilter, rdropWhile_append_zeros fun c hc => (hascii c hc).1]

/-! ## Packets -/

section

variable (components : ℕ → Option Text) (g : Gds) (ts : Text) (seq : UInt16)

/-- A telemetry packet is recorded with its fields. -/
theorem udpListener_telemetry (p : TelemetryPacket) :
    udpListener components g ts (buildFrame Apid.TELEMETRY seq (Serializer.packTelem p)) =
      { g with
        data_file := g.data_file ++
          telemetryRow components ts p.component_id.toNat p.data_payload } := by
  have hlen := Serializer.length_packTelem p
  rw [udpListener_buildFrame _ _ (by rw [hlen]; decide) (Or.inl ⟨rfl, hlen.ge⟩), record,
    if_pos (by decide), List.take_of_length_le hlen.le, unpackTelem_packTelem]

/-- An event made from an ASCII text is recorded with its fields and as much of the text as fits,
and the ground shows the state that this names. -/
theorem udpListener_event (sev src : UInt32) {text : Text}
    (hascii : ∀ c ∈ text, c ≠ 0 ∧ c < 0x80) :
    udpListener components g ts
        (buildFrame Apid.EVENT seq (Serializer.packEvent (EventPacket.create sev src text))) =
      { g.showState (text.take 27) with
        event_file := g.event_file ++
          eventLine components ts sev.toNat src.toNat (text.take 27) } := by
  have hlen := Serializer.length_packEvent (EventPacket.create sev src text)
  have htake : ∀ c ∈ text.take 27, c ≠ 0 ∧ c < 0x80 := fun c hc => hascii c (List.mem_of_mem_take hc)
  rw [udpListener_buildFrame _ _ (by rw [hlen]; decide) (Or.inr ⟨rfl, hlen.ge⟩), record,
    if_neg (by decide), List.take_of_length_le hlen.le, unpackEvent_packEvent,
    EventPacket.message_create fun c hc => (hascii c hc).1, show EVENT_MSG_SIZE - 1 = 27 from rfl]
  simp only [decodeMessage_append htake, event_file_showState]
  rfl

/-- The ground accepts every frame that the bridge builds and reads the fields that were packed: of
every telemetry packet, and of every event made from an ASCII text, whose message it reads as the
first 27 characters. -/
theorem downlink_agreement :
    (∀ p : TelemetryPacket,
      let frame := buildFrame Apid.TELEMETRY seq (Serializer.packTelem p)
      Verified frame ∧
        unpackHeader (frame.take HEADER_FMT.sum) = (CCSDS_SYNC_WORD, 10, seq.toNat, 12) ∧
        unpackTelem (payload frame) =
          (p.timestamp_ms.toNat, p.component_id.toNat, p.data_payload) ∧
        udpListener components g ts frame =
          { g with
            data_file := g.data_file ++
              telemetryRow components ts p.component_id.toNat p.data_payload }) ∧
    (∀ (sev src : UInt32) (text : Text), (∀ c ∈ text, c ≠ 0 ∧ c < 0x80) →
      let frame :=
        buildFrame Apid.EVENT seq (Serializer.packEvent (EventPacket.create sev src text))
      Verified frame ∧
        unpackHeader (frame.take HEADER_FMT.sum) = (CCSDS_SYNC_WORD, 20, seq.toNat, 36) ∧
        (unpackEvent (payload frame)).1 = sev.toNat ∧
        (unpackEvent (payload frame)).2.1 = src.toNat ∧
        decodeMessage (unpackEvent (payload frame)).2.2 = text.take 27 ∧
        udpListener components g ts frame =
          { g.showState (text.take 27) with
            event_file := g.event_file ++
              eventLine components ts sev.toNat src.toNat (text.take 27) }) ∧
    ∀ data : List UInt8, crc16 data = (Serializer.crc16 data).toNat := by
  refine ⟨fun p => ?_, fun sev src text hascii => ?_, crc16_eq_serializer⟩
  · have hlen := Serializer.length_packTelem p
    have hsmall : (Serializer.packTelem p).length < 65536 := by rw [hlen]; decide
    refine ⟨verified_buildFrame _ _ hsmall, ?_, ?_, udpListener_telemetry components g ts seq p⟩
    · rw [unpackHeader_buildFrame _ _ hsmall, hlen]
      rfl
    · rw [(payload_buildFrame _ _ hsmall).1, unpackTelem_packTelem]
  · have hlen := Serializer.length_packEvent (EventPacket.create sev src text)
    have hsmall : (Serializer.packEvent (EventPacket.create sev src text)).length < 65536 := by
      rw [hlen]
      decide
    -- The message field has 28 bytes and keeps a zero byte at its end.
    have htake : ∀ c ∈ text.take 27, c ≠ 0 ∧ c < 0x80 :=
      fun c hc => hascii c (List.mem_of_mem_take hc)
    have hpayload := (payload_buildFrame Apid.EVENT seq hsmall).1
    have hevent := unpackEvent_packEvent (EventPacket.create sev src text)
    rw [EventPacket.message_create fun c hc => (hascii c hc).1,
      show EVENT_MSG_SIZE - 1 = 27 from rfl] at hevent
    refine ⟨verified_buildFrame _ _ hsmall, ?_, ?_, ?_, ?_,
      udpListener_event components g ts seq sev src hascii⟩
    · rw [unpackHeader_buildFrame _ _ hsmall, hlen]
      rfl
    · rw [hpayload, hevent]
      rfl
    · rw [hpayload, hevent]
      rfl
    · rw [hpayload, hevent, decodeMessage_append htake]

/-- The ground reads an event of the watchdog as it was made. -/
theorem downlink_agreement_recovery :
    decodeMessage (unpackEvent (payload (buildFrame Apid.EVENT 7
      (Serializer.packEvent (EventPacket.create 1 2 (ascii "Recovery -> NOMINAL")))))).2.2 =
        (ascii "Recovery -> NOMINAL").take 27 :=
  ((downlink_agreement (fun _ => none) create (ascii "12:00:00") 7).2.1 1 2
    (ascii "Recovery -> NOMINAL") (by decide +kernel)).2.2.2.2.1

end

/-! ## Datagrams -/

/-- The ground takes datagrams, each at its time. -/
def listen (components : ℕ → Option Text) (g : Gds) (arrivals : List (Text × List UInt8)) : Gds :=
  arrivals.foldl (fun g a => udpListener components g a.1 a.2) g

end Gds

end DeltaV
