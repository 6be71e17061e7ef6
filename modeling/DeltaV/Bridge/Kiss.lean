import DeltaV.Bridge.Model
import DeltaV.Lib.Runs

/-!
# KISS framing

The encoding of a frame is `wire`: its escaped bytes between two delimiters, after the command byte
(`encodeKissFrame_eq`). The parser is fed a stream with `feedAll`, which also collects what it hands
on and drops. Escaped bytes add the byte they stand for to an open frame, or drop the frame when the
buffer is full (`feedAll_escape`), so one wire hands on one frame, whatever state the parser is in
(`feedAll_wire`), and a stream of wires hands on the frames one by one.
-/

namespace DeltaV

/-- The size of a telemetry packet. -/
def TELEMETRY_PACKET_SIZE : ℕ := 12

/-- The size of an event packet. -/
def EVENT_PACKET_SIZE : ℕ := 36

/-- The size of a checksum. -/
def CCSDS_CRC_SIZE : ℕ := 2

/-- The largest payload of a downlink frame. -/
def MAX_DOWNLINK_PAYLOAD : ℕ :=
  if EVENT_PACKET_SIZE > TELEMETRY_PACKET_SIZE then EVENT_PACKET_SIZE else TELEMETRY_PACKET_SIZE

/-- The largest downlink frame. -/
def MAX_DOWNLINK_FRAME_SIZE : ℕ := CCSDS_HEADER_SIZE + MAX_DOWNLINK_PAYLOAD + CCSDS_CRC_SIZE

/-- The size of the buffer that downlink frames are encoded in. -/
def MAX_KISS_WIRE_FRAME : ℕ := 2 + 1 + MAX_DOWNLINK_FRAME_SIZE * 2

/-! ## Encoding -/

/-- The bytes that a byte is sent as. -/
def stuff (byte : UInt8) : List UInt8 :=
  if byte = KISS_FEND then [KISS_FESC, KISS_TFEND]
  else if byte = KISS_FESC then [KISS_FESC, KISS_TFESC]
  else [byte]

/-- The bytes that the bytes of a frame are sent as. -/
def escaped (frame : List UInt8) : List UInt8 := frame.flatMap stuff

/-- A frame between delimiters. -/
def wire (frame : List UInt8) : List UInt8 :=
  [KISS_FEND, KISS_CMD_DATA] ++ escaped frame ++ [KISS_FEND]

/-- An escaped frame has no delimiter. -/
theorem not_mem_escaped (frame : List UInt8) : KISS_FEND ∉ escaped frame := by
  intro h
  obtain ⟨byte, -, hb⟩ := List.mem_flatMap.mp h
  unfold stuff at hb
  -- A byte is sent as an escape sequence, which has no delimiter, or as itself.
  split_ifs at hb with h1 h2
  · revert hb
    decide
  · revert hb
    decide
  · exact h1 (List.mem_singleton.mp hb).symm

/-- Escaping at most doubles the length. -/
theorem length_escaped_le (frame : List UInt8) : (escaped frame).length ≤ 2 * frame.length := by
  induction frame with
  | nil => exact le_rfl
  | cons byte frame ih =>
    have hstuff : (stuff byte).length ≤ 2 := by
      unfold stuff
      split_ifs <;> simp
    have hsplit : escaped (byte :: frame) = stuff byte ++ escaped frame := rfl
    rw [hsplit, List.length_append, List.length_cons]
    omega

/-- A byte is appended as it is sent, if that fits. -/
theorem pushKissEscaped_eq (byte : UInt8) (out_cap : ℕ) (out : List UInt8) :
    pushKissEscaped byte out_cap out =
      if out_cap < out.length + (stuff byte).length then none else some (out ++ stuff byte) := by
  unfold pushKissEscaped stuff
  by_cases hfend : byte = KISS_FEND
  · rw [if_pos hfend, if_pos hfend]
    rfl
  · rw [if_neg hfend, if_neg hfend]
    by_cases hfesc : byte = KISS_FESC
    · rw [if_pos hfesc, if_pos hfesc]
      rfl
    · rw [if_neg hfesc, if_neg hfesc]
      rfl

/-- A frame is appended as it is sent, if that fits. -/
theorem foldlM_pushKissEscaped (frame : List UInt8) (out_cap : ℕ) (out : List UInt8)
    (hout : out.length ≤ out_cap) :
    frame.foldlM (fun out byte => pushKissEscaped byte out_cap out) out =
      if out_cap < out.length + (escaped frame).length then none
      else some (out ++ escaped frame) := by
  induction frame generalizing out with
  | nil =>
    rw [List.foldlM_nil, if_neg (by simp [escaped]; omega)]
    simp [escaped]
  | cons byte frame ih =>
    have hsplit : escaped (byte :: frame) = stuff byte ++ escaped frame := rfl
    rw [List.foldlM_cons, pushKissEscaped_eq, hsplit, List.length_append]
    -- The first byte that does not fit stops the loop.
    by_cases hfit : out_cap < out.length + (stuff byte).length
    · rw [if_pos hfit, if_pos (by omega)]
      rfl
    · rw [if_neg hfit]
      have := ih (out ++ stuff byte) (by rw [List.length_append]; omega)
      rw [List.length_append, Nat.add_assoc, List.append_assoc] at this
      exact this

/-- Encoding gives the wire of a nonempty frame, if it fits. -/
theorem encodeKissFrame_eq (frame : List UInt8) (out_cap : ℕ) :
    encodeKissFrame frame out_cap =
      if frame = [] ∨ out_cap < (wire frame).length then none else some (wire frame) := by
  have hlen : (wire frame).length = (escaped frame).length + 3 := by
    simp only [wire, List.length_append, List.length_cons, List.length_nil]
    omega
  unfold encodeKissFrame
  by_cases hstop : frame = [] ∨ out_cap < 3
  · rw [if_pos hstop, if_pos (hstop.imp_right fun h => by omega)]
  · rw [if_neg hstop, foldlM_pushKissEscaped _ _ _ (by simp; omega)]
    have hne : frame ≠ [] := fun h => hstop (Or.inl h)
    by_cases hfit : out_cap < (wire frame).length
    · rw [if_pos (Or.inr hfit)]
      -- The loop stops early, or the closing delimiter does not fit.
      by_cases hbody : out_cap < [KISS_FEND, KISS_CMD_DATA].length + (escaped frame).length
      · rw [if_pos hbody]
      · rw [if_neg hbody]
        simp only [List.length_append]
        rw [if_pos (by simp at hbody ⊢; omega)]
    · rw [if_neg (by simp only [List.length_cons, List.length_nil]; omega),
        if_neg (not_or.mpr ⟨hne, hfit⟩)]
      simp only [List.length_append]
      rw [if_neg (by simp; omega)]
      rfl

/-! ## Decoding -/

/-- What the log records of an output. -/
def SerialOutput.actions : SerialOutput → List BridgeAction
  | nothing => []
  | deliver frame => [BridgeAction.decoded frame]
  | drop => [BridgeAction.dropped]

namespace SerialParser

/-- The parser after a stream, and what it handed on and dropped. -/
def feedAll : SerialParser → List UInt8 → SerialParser × List BridgeAction
  | p, [] => (p, [])
  | p, byte :: bytes =>
    ((feedAll (p.feed byte).1 bytes).1,
      (p.feed byte).2.actions ++ (feedAll (p.feed byte).1 bytes).2)

/-- Streams are fed one after the other. -/
theorem feedAll_append (p : SerialParser) (xs ys : List UInt8) :
    p.feedAll (xs ++ ys) =
      (((p.feedAll xs).1.feedAll ys).1, (p.feedAll xs).2 ++ ((p.feedAll xs).1.feedAll ys).2) := by
  induction xs generalizing p with
  | nil => rfl
  | cons byte xs ih => simp only [List.cons_append, feedAll, ih, List.append_assoc]

/-- The parser inside a frame, with the given bytes decoded. -/
def inFrame (bytes : List UInt8) (h : bytes.length ≤ MAX_KISS_DECODED_FRAME) : SerialParser :=
  ⟨SerialParseState.IN_FRAME, false, bytes, h⟩

/-- What a delimiter hands on: the bytes pending in an open frame. -/
def pending (p : SerialParser) : List BridgeAction :=
  if p.state = SerialParseState.IN_FRAME ∧ p.frame_buf ≠ [] then
    [BridgeAction.decoded p.frame_buf]
  else []

/-- A delimiter hands on the pending bytes and opens a frame. -/
theorem feedAll_fend (p : SerialParser) : p.feedAll [KISS_FEND] = (start, p.pending) := by
  unfold pending
  simp only [feedAll, feed, if_true]
  split_ifs <;> rfl

/-- Outside a frame everything up to the next delimiter is ignored. -/
theorem feedAll_idle (bytes : List UInt8) (h : KISS_FEND ∉ bytes) :
    idle.feedAll bytes = (idle, []) := by
  induction bytes with
  | nil => rfl
  | cons byte bytes ih =>
    obtain ⟨hne, hrest⟩ := not_or.mp (fun h' => h (List.mem_cons.mpr h'))
    -- In the idle state every byte but the delimiter leaves the parser as it is.
    have hfeed : idle.feed byte = (idle, SerialOutput.nothing) := by
      unfold feed
      rw [if_neg (Ne.symm hne), if_pos (by decide)]
    simp only [feedAll, hfeed, ih hrest, SerialOutput.actions, List.append_nil]

/-- Storing a byte in an open frame adds it, or drops the frame when the buffer is full. -/
theorem store_inFrame (bytes : List UInt8) (h : bytes.length ≤ MAX_KISS_DECODED_FRAME)
    (value : UInt8) :
    store (inFrame bytes h) value =
      if hfit : (bytes ++ [value]).length ≤ MAX_KISS_DECODED_FRAME then
        (inFrame (bytes ++ [value]) hfit, SerialOutput.nothing)
      else (idle, SerialOutput.drop) := by
  have hlen : (bytes ++ [value]).length = bytes.length + 1 := by simp
  have hbuf : (inFrame bytes h).frame_buf.length = bytes.length := rfl
  unfold store
  by_cases hroom : (inFrame bytes h).frame_buf.length < MAX_KISS_DECODED_FRAME
  · rw [dif_pos hroom, dif_pos (by omega)]
    rfl
  · rw [dif_neg hroom, dif_neg (by omega)]

/-- Inside a frame, an escaped byte is stored as the byte it stands for. -/
theorem feedAll_stuff (bytes : List UInt8) (h : bytes.length ≤ MAX_KISS_DECODED_FRAME)
    (byte : UInt8) :
    (inFrame bytes h).feedAll (stuff byte) =
      ((store (inFrame bytes h) byte).1, (store (inFrame bytes h) byte).2.actions) := by
  -- An escape byte is kept in the flag and stores nothing.
  have hescape : (inFrame bytes h).feed KISS_FESC =
      (⟨SerialParseState.IN_FRAME, true, bytes, h⟩, SerialOutput.nothing) := rfl
  unfold stuff
  by_cases hfend : byte = KISS_FEND
  · rw [if_pos hfend, hfend]
    simp only [feedAll, hescape, List.append_nil]
    rfl
  · rw [if_neg hfend]
    by_cases hfesc : byte = KISS_FESC
    · rw [if_pos hfesc, hfesc]
      simp only [feedAll, hescape, List.append_nil]
      rfl
    · rw [if_neg hfesc]
      have hplain : (inFrame bytes h).feed byte = store (inFrame bytes h) byte := by
        unfold feed
        rw [if_neg hfend, if_neg (by simp [inFrame]), if_neg (by simp [inFrame]), if_neg hfesc]
      simp only [feedAll, hplain, List.append_nil]

/-- Inside a frame, escaped bytes are added to the frame if they fit, and drop it if not. -/
theorem feedAll_escape (frame bytes : List UInt8) (h : bytes.length ≤ MAX_KISS_DECODED_FRAME) :
    (inFrame bytes h).feedAll (escaped frame) =
      if hfit : (bytes ++ frame).length ≤ MAX_KISS_DECODED_FRAME then
        (inFrame (bytes ++ frame) hfit, [])
      else (idle, [BridgeAction.dropped]) := by
  induction frame generalizing bytes with
  | nil =>
    rw [dif_pos (by rwa [List.append_nil])]
    simp only [escaped, List.flatMap_nil, feedAll, List.append_nil]
  | cons byte frame ih =>
    have hsplit : escaped (byte :: frame) = stuff byte ++ escaped frame := rfl
    have hlen : (bytes ++ byte :: frame).length = bytes.length + 1 + frame.length := by
      rw [List.length_append, List.length_cons]
      omega
    have hone : (bytes ++ [byte]).length = bytes.length + 1 := by simp
    rw [hsplit, feedAll_append, feedAll_stuff, store_inFrame]
    by_cases hroom : (bytes ++ [byte]).length ≤ MAX_KISS_DECODED_FRAME
    · rw [dif_pos hroom]
      simp only [SerialOutput.actions, List.nil_append, ih, List.append_assoc,
        List.singleton_append]
    · -- The frame is dropped at this byte, and the rest of it is ignored.
      rw [dif_neg hroom, dif_neg (by omega)]
      simp only [feedAll_idle _ (not_mem_escaped frame), SerialOutput.actions, List.append_nil]

/-- What the parser does with a frame: hands it on with its command byte, or drops it. -/
def received (frame : List UInt8) : BridgeAction :=
  if frame.length ≤ UPLINK_FRAME_SIZE then BridgeAction.decoded (KISS_CMD_DATA :: frame)
  else BridgeAction.dropped

/-- A wire hands on what was pending and then its own frame, and leaves the parser at the start of a
frame. -/
theorem feedAll_wire (p : SerialParser) (frame : List UInt8) :
    p.feedAll (wire frame) = (start, p.pending ++ [received frame]) := by
  have hsplit :
      wire frame = [KISS_FEND] ++ ([KISS_CMD_DATA] ++ (escaped frame ++ [KISS_FEND])) := by
    simp [wire]
  -- The buffer of a frame begins with the command byte, so a frame has one place less than it.
  have hcommand : start.feedAll [KISS_CMD_DATA] =
      (inFrame [KISS_CMD_DATA] (by decide), []) := by decide
  rw [hsplit, feedAll_append, feedAll_fend]
  simp only [feedAll_append start, hcommand, List.nil_append]
  rw [feedAll_append, feedAll_escape]
  have hlen : ([KISS_CMD_DATA] ++ frame).length = frame.length + 1 := by simp
  have hmax : MAX_KISS_DECODED_FRAME = UPLINK_FRAME_SIZE + 1 := rfl
  unfold received
  by_cases hfit : frame.length ≤ UPLINK_FRAME_SIZE
  · rw [dif_pos (by omega), if_pos hfit]
    simp only [feedAll_fend]
    rfl
  · rw [dif_neg (by omega), if_neg hfit]
    simp only [feedAll_fend]
    rfl

/-- A stream of wires hands on what was pending and then the frames one by one. -/
theorem feedAll_wires (p : SerialParser) (frame : List UInt8) (frames : List (List UInt8)) :
    p.feedAll ((frame :: frames).flatMap wire) =
      (start, p.pending ++ (frame :: frames).map received) := by
  -- After the first wire nothing is pending, so each later wire hands on its own frame only.
  have hrest : ∀ fs : List (List UInt8),
      start.feedAll (fs.flatMap wire) = (start, fs.map received) := by
    intro fs
    induction fs with
    | nil => rfl
    | cons f fs ih =>
      have hstart : start.pending = [] := rfl
      rw [List.flatMap_cons, feedAll_append, feedAll_wire, hstart]
      simp only [ih, List.nil_append, List.singleton_append, List.map_cons]
  rw [List.flatMap_cons, feedAll_append, feedAll_wire]
  simp only [hrest, List.append_assoc, List.singleton_append, List.map_cons]

end SerialParser

/-! ## The bridge -/

namespace TelemetryBridge

/-- What the parser handed on and dropped. -/
def parsed (log : List BridgeAction) : List BridgeAction :=
  log.filter fun act =>
    match act with
    | BridgeAction.decoded _ => true
    | BridgeAction.dropped => true
    | BridgeAction.accepted _ _ => false

/-- A stream of bytes from the serial link. -/
def receive (b : TelemetryBridge) (bytes : List UInt8) : TelemetryBridge :=
  run (fun b byte => (b.processSerialByte byte).1) b bytes

/-- A frame that is handed on changes neither the parser nor what it has parsed. -/
theorem processIncomingFrame_serial (b : TelemetryBridge) (data : List UInt8) :
    (b.processIncomingFrame data).1.serial = b.serial ∧
      parsed (b.processIncomingFrame data).1.log = parsed b.log := by
  have hpersist : ∀ b : TelemetryBridge, b.persistReplayState.serial = b.serial ∧
      b.persistReplayState.log = b.log := by
    intro b
    unfold persistReplayState
    split_ifs <;> exact ⟨rfl, rfl⟩
  have hsend : ∀ cmd, (b.sendCommand cmd).1.serial = b.serial ∧
      (b.sendCommand cmd).1.log = b.log := by
    intro cmd
    unfold sendCommand
    split <;> exact ⟨rfl, rfl⟩
  -- Five branches reject the frame before it reaches the command port.
  simp only [processIncomingFrame]
  split_ifs
  iterate 5 exact ⟨rfl, rfl⟩
  · exact ⟨(hsend _).1, congrArg parsed (hsend _).2⟩
  · refine ⟨(hpersist _).1.trans (hsend _).1, ?_⟩
    rw [(hpersist _).2]
    simp [parsed]

/-- Handing on a frame is logged, and leaves the parser alone. -/
theorem processDecodedKissFrame_serial (b : TelemetryBridge) (decoded : List UInt8) :
    (b.processDecodedKissFrame decoded).1.serial = b.serial ∧
      parsed (b.processDecodedKissFrame decoded).1.log =
        parsed b.log ++ [BridgeAction.decoded decoded] := by
  have hlog : parsed (b.log ++ [BridgeAction.decoded decoded]) =
      parsed b.log ++ [BridgeAction.decoded decoded] := by simp [parsed]
  unfold processDecodedKissFrame
  cases decoded with
  | nil => exact ⟨rfl, hlog⟩
  | cons command frame =>
    obtain ⟨h1, h2⟩ := processIncomingFrame_serial
      { b with log := b.log ++ [BridgeAction.decoded (command :: frame)] } frame
    simp only
    split_ifs
    · exact ⟨rfl, hlog⟩
    · exact ⟨rfl, hlog⟩
    · exact ⟨h1, h2.trans hlog⟩

/-- One byte does to the parser, and hands on, what `feed` says; a drop counts one rejection and one
error. -/
theorem processSerialByte_spec (b : TelemetryBridge) (byte : UInt8) :
    (b.processSerialByte byte).1.serial = (b.serial.feed byte).1 ∧
      parsed (b.processSerialByte byte).1.log =
        parsed b.log ++ (b.serial.feed byte).2.actions ∧
      ((b.serial.feed byte).2 = SerialOutput.drop →
        (b.processSerialByte byte).1.rejected_count = b.rejected_count + 1) := by
  simp only [processSerialByte]
  split
  · rename_i hout
    rw [hout]
    exact ⟨rfl, (List.append_nil _).symm, nofun⟩
  · rename_i frame hout
    obtain ⟨h1, h2⟩ :=
      processDecodedKissFrame_serial { b with serial := (b.serial.feed byte).1 } frame
    rw [hout]
    exact ⟨h1, h2, nofun⟩
  · rename_i hout
    rw [hout]
    refine ⟨rfl, ?_, fun _ => rfl⟩
    simp [parsed, recordError, reject, SerialOutput.actions]

/-- A stream does to the parser, and hands on, what `feedAll` says. -/
theorem receive_spec (b : TelemetryBridge) (bytes : List UInt8) :
    (b.receive bytes).serial = (b.serial.feedAll bytes).1 ∧
      parsed (b.receive bytes).log = parsed b.log ++ (b.serial.feedAll bytes).2 := by
  induction bytes generalizing b with
  | nil => exact ⟨rfl, (List.append_nil _).symm⟩
  | cons byte bytes ih =>
    obtain ⟨h1, h2, -⟩ := b.processSerialByte_spec byte
    obtain ⟨ih1, ih2⟩ := ih (b.processSerialByte byte).1
    rw [h1] at ih1 ih2
    rw [h2, List.append_assoc] at ih2
    exact ⟨ih1, ih2⟩

/-- A byte at which a frame is dropped counts one rejection. -/
theorem rejected_count_of_dropped (b : TelemetryBridge) (byte : UInt8)
    (h : (b.processSerialByte byte).1.log = b.log ++ [BridgeAction.dropped]) :
    (b.processSerialByte byte).1.rejected_count = b.rejected_count + 1 := by
  obtain ⟨-, hlog, hreject⟩ := b.processSerialByte_spec byte
  have hdropped : parsed (b.log ++ [BridgeAction.dropped]) =
      parsed b.log ++ [BridgeAction.dropped] := by simp [parsed]
  rw [h, hdropped] at hlog
  have hact := List.append_cancel_left hlog
  apply hreject
  -- Only the branch that drops a frame logs a drop.
  rcases hout : (b.serial.feed byte).2 with _ | frame | _
  · rw [hout] at hact
    cases hact
  · rw [hout] at hact
    cases hact
  · rfl

/-- A stream of encodings is the stream of the wires of the frames. -/
theorem flatten_of_encoded {frames wires : List (List UInt8)}
    (h : List.Forall₂ (fun frame w => ∃ out_cap, encodeKissFrame frame out_cap = some w)
      frames wires) : wires.flatten = frames.flatMap wire := by
  induction h with
  | nil => rfl
  | cons hw _ ih =>
    obtain ⟨out_cap, hw⟩ := hw
    rw [encodeKissFrame_eq] at hw
    split_ifs at hw
    rw [List.flatten_cons, List.flatMap_cons, ih, Option.some.inj hw]

/-- Every downlink frame has an encoding, and the delimiter stands only at its ends. -/
theorem encodeKissFrame_downlink (frame : List UInt8) (hpos : 1 ≤ frame.length)
    (hmax : frame.length ≤ MAX_DOWNLINK_FRAME_SIZE) :
    ∃ body, encodeKissFrame frame MAX_KISS_WIRE_FRAME =
      some (KISS_FEND :: body ++ [KISS_FEND]) ∧ KISS_FEND ∉ body := by
  refine ⟨KISS_CMD_DATA :: escaped frame, ?_, ?_⟩
  · have hlen : (wire frame).length = (escaped frame).length + 3 := by
      simp only [wire, List.length_append, List.length_cons, List.length_nil]
      omega
    have hle := length_escaped_le frame
    have hcap : MAX_KISS_WIRE_FRAME = 3 + MAX_DOWNLINK_FRAME_SIZE * 2 := rfl
    rw [encodeKissFrame_eq, if_neg]
    · rfl
    · rintro (rfl | hlt)
      · simp at hpos
      · omega
  · rintro (_ | ⟨_, h⟩)
    exact not_mem_escaped frame h

/-- The round trip through the serial link, for every state of the bridge. The stream of the
encodings of a nonempty list of frames makes the parser hand on what was pending before it, at most
one frame, and then the frames one by one, each with its command byte; a frame of more than 22 bytes
is dropped instead, which counts one rejection, and the parser ends at the start of a frame. Every
downlink frame has an encoding, and the delimiter stands only at its ends. -/
theorem kiss_round_trip (b : TelemetryBridge) (frames wires : List (List UInt8))
    (hne : frames ≠ [])
    (hencode : List.Forall₂ (fun frame w => ∃ out_cap, encodeKissFrame frame out_cap = some w)
      frames wires) :
    (b.receive wires.flatten).serial = SerialParser.start ∧
      parsed (b.receive wires.flatten).log = parsed b.log ++ b.serial.pending ++
        frames.map (fun frame =>
          if frame.length ≤ 22 then BridgeAction.decoded (0x00 :: frame)
          else BridgeAction.dropped) ∧
      (∀ (b' : TelemetryBridge) (byte : UInt8),
        (b'.processSerialByte byte).1.log = b'.log ++ [BridgeAction.dropped] →
          (b'.processSerialByte byte).1.rejected_count = b'.rejected_count + 1) ∧
      ∀ frame : List UInt8, 1 ≤ frame.length → frame.length ≤ MAX_DOWNLINK_FRAME_SIZE →
        ∃ body, encodeKissFrame frame MAX_KISS_WIRE_FRAME =
          some (KISS_FEND :: body ++ [KISS_FEND]) ∧ KISS_FEND ∉ body := by
  obtain ⟨hserial, hlog⟩ := b.receive_spec wires.flatten
  obtain ⟨frame, rest, rfl⟩ := List.exists_cons_of_ne_nil hne
  rw [flatten_of_encoded hencode, SerialParser.feedAll_wires] at hserial hlog
  rw [flatten_of_encoded hencode]
  refine ⟨hserial, ?_, rejected_count_of_dropped, encodeKissFrame_downlink⟩
  rw [hlog, ← List.append_assoc]
  rfl

/-- A bridge on the serial link that has received nothing yet. -/
def silent : TelemetryBridge :=
  create (Component.create (ascii "RadioLink") 20) ⟨true, true, false, false, none⟩

/-- Two frames, the first with a delimiter in it, are handed on as they are. -/
theorem kiss_round_trip_two :
    parsed (silent.receive (wire [0xC0] ++ wire [0x01, 0x02])).log =
      [BridgeAction.decoded [0x00, 0xC0], BridgeAction.decoded [0x00, 0x01, 0x02]] :=
  (kiss_round_trip silent [[0xC0], [0x01, 0x02]] [wire [0xC0], wire [0x01, 0x02]] (by decide)
    (.cons ⟨99, by decide⟩ (.cons ⟨99, by decide⟩ .nil))).2.1

/-- A stream without frames leaves the parser outside a frame. -/
theorem empty_stream_stays_idle :
    (silent.receive (List.flatMap wire [])).serial.state = SerialParseState.IDLE := by
  decide

end TelemetryBridge

end DeltaV
