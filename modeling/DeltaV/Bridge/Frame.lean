import DeltaV.Bridge.Model

/-!
# The layout of frames

The packed structures as the host lays them out, least significant byte first. A header and a
command packet are read back from their bytes as they were, and a frame of the right length is read
without loss.
-/

namespace DeltaV

/-- The bytes of a header. -/
def CcsdsHeader.bytes (hdr : CcsdsHeader) : List UInt8 :=
  packLE [(4, hdr.sync_word.toNat), (2, hdr.apid.toNat), (2, hdr.seq_count.toNat),
    (2, hdr.payload_len.toNat)]

/-- The bytes of a command packet. -/
def CommandPacket.bytes (cmd : CommandPacket) : List UInt8 :=
  packLE [(4, cmd.target_id.toNat), (4, cmd.opcode.toNat), (4, cmd.argument.bits.toNat)]

namespace CcsdsHeader

/-- A header has the size that the protocol gives it. -/
@[simp] theorem length_bytes (hdr : CcsdsHeader) : hdr.bytes.length = CCSDS_HEADER_SIZE := by
  rw [bytes, length_packLE]
  rfl

/-- The fields of a header are read from their places in the frame. -/
theorem decode_toNat (data : List UInt8) :
    (decode data).sync_word.toNat = le (slice data 0 4) ∧
      (decode data).apid.toNat = le (slice data 4 2) ∧
      (decode data).seq_count.toNat = le (slice data 6 2) ∧
      (decode data).payload_len.toNat = le (slice data 8 2) := by
  refine ⟨?_, ?_, ?_, ?_⟩
  · exact UInt32.toNat_ofNat_of_lt' (le_slice_lt data 0 4)
  · exact UInt16.toNat_ofNat_of_lt' (le_slice_lt data 4 2)
  · exact UInt16.toNat_ofNat_of_lt' (le_slice_lt data 6 2)
  · exact UInt16.toNat_ofNat_of_lt' (le_slice_lt data 8 2)

/-- Headers with the same numbers in their fields are the same. -/
theorem eq_of_toNat {h h' : CcsdsHeader} (hsync : h.sync_word.toNat = h'.sync_word.toNat)
    (hapid : h.apid.toNat = h'.apid.toNat) (hseq : h.seq_count.toNat = h'.seq_count.toNat)
    (hlen : h.payload_len.toNat = h'.payload_len.toNat) : h = h' := by
  obtain ⟨sync, apid, seq, len⟩ := h
  obtain ⟨sync', apid', seq', len'⟩ := h'
  rw [mk.injEq]
  exact ⟨UInt32.toNat_inj.mp hsync, UInt16.toNat_inj.mp hapid, UInt16.toNat_inj.mp hseq,
    UInt16.toNat_inj.mp hlen⟩

/-- A header is read back from its bytes. -/
theorem decode_bytes (hdr : CcsdsHeader) (rest : List UInt8) :
    decode (hdr.bytes ++ rest) = hdr := by
  have hread := unpackLE_packLE [(4, hdr.sync_word.toNat), (2, hdr.apid.toNat),
    (2, hdr.seq_count.toNat), (2, hdr.payload_len.toNat)] rest
  simp only [List.map_cons, List.map_nil, unpackLE, List.drop_drop, List.cons.injEq, and_true]
    at hread
  obtain ⟨hsync, hapid, hseq, hlen⟩ := hread
  obtain ⟨dsync, dapid, dseq, dlen⟩ := decode_toNat (hdr.bytes ++ rest)
  -- Every number fits the width of its field.
  exact eq_of_toNat (dsync.trans (hsync.trans (Nat.mod_eq_of_lt hdr.sync_word.toNat_lt)))
    (dapid.trans (hapid.trans (Nat.mod_eq_of_lt hdr.apid.toNat_lt)))
    (dseq.trans (hseq.trans (Nat.mod_eq_of_lt hdr.seq_count.toNat_lt)))
    (dlen.trans (hlen.trans (Nat.mod_eq_of_lt hdr.payload_len.toNat_lt)))

end CcsdsHeader

namespace CommandPacket

/-- A command packet has the size that the protocol gives it. -/
@[simp] theorem length_bytes (cmd : CommandPacket) : cmd.bytes.length = COMMAND_PACKET_SIZE := by
  rw [bytes, length_packLE]
  rfl

/-- The fields of a command packet are read from their places behind the header. -/
theorem decode_toNat (data : List UInt8) :
    (decode data).target_id.toNat = le (slice data 10 4) ∧
      (decode data).opcode.toNat = le (slice data 14 4) ∧
      (decode data).argument.bits.toNat = le (slice data 18 4) := by
  refine ⟨?_, ?_, ?_⟩
  · exact UInt32.toNat_ofNat_of_lt' (le_slice_lt data 10 4)
  · exact UInt32.toNat_ofNat_of_lt' (le_slice_lt data 14 4)
  · exact UInt32.toNat_ofNat_of_lt' (le_slice_lt data 18 4)

/-- Command packets with the same numbers in their fields are the same. -/
theorem eq_of_toNat {c c' : CommandPacket} (htarget : c.target_id.toNat = c'.target_id.toNat)
    (hopcode : c.opcode.toNat = c'.opcode.toNat)
    (harg : c.argument.bits.toNat = c'.argument.bits.toNat) : c = c' := by
  obtain ⟨target, opcode, ⟨bits⟩⟩ := c
  obtain ⟨target', opcode', ⟨bits'⟩⟩ := c'
  rw [mk.injEq, Binary32.mk.injEq]
  exact ⟨UInt32.toNat_inj.mp htarget, UInt32.toNat_inj.mp hopcode, UInt32.toNat_inj.mp harg⟩

/-- A command packet is read back from its bytes behind a header. -/
theorem decode_bytes (hdr : CcsdsHeader) (cmd : CommandPacket) :
    decode (hdr.bytes ++ cmd.bytes) = cmd := by
  have hread := unpackLE_packLE_words [cmd.target_id, cmd.opcode, cmd.argument.bits] []
  simp only [List.map_cons, List.map_nil, unpackLE, List.drop_drop, List.cons.injEq, and_true,
    List.append_nil] at hread
  obtain ⟨htarget, hopcode, harg⟩ := hread
  obtain ⟨dtarget, dopcode, darg⟩ := decode_toNat (hdr.bytes ++ cmd.bytes)
  have hslice : ∀ off len, slice (hdr.bytes ++ cmd.bytes) (10 + off) len =
      slice cmd.bytes off len := by
    intro off len
    have := slice_append_right hdr.bytes cmd.bytes off len
    rwa [CcsdsHeader.length_bytes] at this
  rw [show 10 = 10 + 0 from rfl, hslice] at dtarget
  rw [show 14 = 10 + 4 from rfl, hslice] at dopcode
  rw [show 18 = 10 + 8 from rfl, hslice] at darg
  exact eq_of_toNat (dtarget.trans htarget) (dopcode.trans hopcode) (darg.trans harg)

/-- The packet read from a frame has the bytes that follow the header. -/
theorem bytes_decode {data : List UInt8} (h : data.length = UPLINK_FRAME_SIZE) :
    (decode data).bytes = slice data CCSDS_HEADER_SIZE COMMAND_PACKET_SIZE := by
  have hlen : (slice data CCSDS_HEADER_SIZE COMMAND_PACKET_SIZE).length = [4, 4, 4].sum := by
    rw [slice, List.length_take, List.length_drop, h]
    rfl
  obtain ⟨htarget, hopcode, harg⟩ := decode_toNat data
  rw [bytes, htarget, hopcode, harg, ← packLE_unpackLE _ _ hlen]
  simp only [unpackLE, List.zip_cons_cons, List.zip_nil_left, slice, CCSDS_HEADER_SIZE,
    COMMAND_PACKET_SIZE, List.take_take, List.drop_take, List.drop_drop]
  rfl

end CommandPacket

end DeltaV
