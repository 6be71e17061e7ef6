import DeltaV.Bridge.Kiss
import Mathlib.Data.List.Induction

/-!
# Escapes in received frames

Between two delimiters come escaped bytes, and then nothing more, an escape byte that is cut off, or
one that no escape sequence begins with (`Raw`). The parser tells the last from the first, but a
delimiter clears a pending escape without a look at it, so a frame that is cut off is handed on as if
it were whole. Otherwise a frame is handed on only if what was received is the escaping of it, and
every other run of bytes is dropped and counted (`accepts_well_formed_iff`).
-/

namespace DeltaV

/-- The bytes between two delimiters. -/
inductive Raw : List UInt8 → Prop where
  | whole (frame : List UInt8) : Raw (escaped frame)
  | cutOff (frame : List UInt8) : Raw (escaped frame ++ [KISS_FESC])
  | bad (frame : List UInt8) (byte : UInt8) (rest : List UInt8) (hfend : byte ≠ KISS_TFEND)
    (hfesc : byte ≠ KISS_TFESC) : Raw (escaped frame ++ KISS_FESC :: byte :: rest)

/-- A stuffed byte may come before a raw text. -/
theorem Raw.cons {raw : List UInt8} (h : Raw raw) (byte : UInt8) : Raw (stuff byte ++ raw) := by
  cases h with
  | whole frame => exact Raw.whole (byte :: frame)
  | cutOff frame =>
    rw [← List.append_assoc]
    exact Raw.cutOff (byte :: frame)
  | bad frame byte' rest hfend hfesc =>
    rw [← List.append_assoc]
    exact Raw.bad (byte :: frame) byte' rest hfend hfesc

/-- There are no other ones. -/
theorem raw_of_notMem {raw : List UInt8} (h : KISS_FEND ∉ raw) : Raw raw := by
  -- A byte that is not the escape byte was sent as itself.
  have hplain {byte : UInt8} (hfend : KISS_FEND ≠ byte) (hfesc : byte ≠ KISS_FESC) :
      stuff byte = [byte] := by rw [stuff, if_neg hfend.symm, if_neg hfesc]
  induction raw using List.twoStepInduction with
  | nil => exact Raw.whole []
  | singleton byte =>
    rcases eq_or_ne byte KISS_FESC with rfl | hfesc
    · exact Raw.cutOff []
    · have hbyte : [byte] = stuff byte ++ [] := by
        rw [hplain (List.ne_of_not_mem_cons h) hfesc, List.append_nil]
      rw [hbyte]
      exact (Raw.whole []).cons byte
  | cons_cons byte next rest ih ih' =>
    obtain ⟨hfend, htail⟩ := List.ne_and_not_mem_of_not_mem_cons h
    rcases eq_or_ne byte KISS_FESC with rfl | hfesc
    · have hrest : KISS_FEND ∉ rest := List.not_mem_of_not_mem_cons htail
      rcases eq_or_ne next KISS_TFEND with rfl | hnext
      · exact (ih hrest).cons KISS_FEND
      · rcases eq_or_ne next KISS_TFESC with rfl | hnext'
        · exact (ih hrest).cons KISS_FESC
        · exact Raw.bad [] next rest hnext hnext'
    · have hbyte : byte :: next :: rest = stuff byte ++ next :: rest := by
        rw [hplain hfend hfesc, List.singleton_append]
      rw [hbyte]
      exact (ih' next htail).cons byte

/-- The escaping of bytes that fit into the buffer. -/
def Whole (raw : List UInt8) : Prop :=
  ∃ payload, payload.length ≤ MAX_KISS_DECODED_FRAME ∧ raw = escaped payload

/-- Such an escaping with an escape byte after it. -/
def CutOff (raw : List UInt8) : Prop :=
  ∃ payload, payload.length ≤ MAX_KISS_DECODED_FRAME ∧ raw = escaped payload ++ [KISS_FESC]

/-! ## The parser -/

namespace SerialParser

/-- The parser after an escape byte. -/
def escaping (bytes : List UInt8) (h : bytes.length ≤ MAX_KISS_DECODED_FRAME) : SerialParser :=
  ⟨SerialParseState.IN_FRAME, true, bytes, h⟩

/-- An escape byte inside a frame is remembered. -/
theorem feedAll_fesc (bytes : List UInt8) (h : bytes.length ≤ MAX_KISS_DECODED_FRAME) :
    (inFrame bytes h).feedAll [KISS_FESC] = (escaping bytes h, []) := rfl

/-- Escaped bytes at the start of a frame are decoded if they fit, and dropped if not. -/
theorem feedAll_start (frame : List UInt8) :
    start.feedAll (escaped frame) =
      if hfit : frame.length ≤ MAX_KISS_DECODED_FRAME then (inFrame frame hfit, [])
      else (idle, [BridgeAction.dropped]) :=
  feedAll_escape frame [] (Nat.zero_le _)

/-- What is whole is decoded. -/
theorem feedAll_whole (payload : List UInt8) (h : payload.length ≤ MAX_KISS_DECODED_FRAME) :
    start.feedAll (escaped payload) = (inFrame payload h, []) := by
  rw [feedAll_start, dif_pos h]

/-- What is cut off is decoded as well. -/
theorem feedAll_cutOff (payload : List UInt8) (h : payload.length ≤ MAX_KISS_DECODED_FRAME) :
    start.feedAll (escaped payload ++ [KISS_FESC]) = (escaping payload h, []) := by
  rw [feedAll_append, feedAll_whole payload h, feedAll_fesc]
  rfl

/-- A byte that ends no escape sequence drops the frame, and what follows is ignored. -/
theorem feedAll_escaping {bytes : List UInt8} {h : bytes.length ≤ MAX_KISS_DECODED_FRAME}
    {byte : UInt8} {rest : List UInt8} (hmem : KISS_FEND ∉ byte :: rest)
    (hfend : byte ≠ KISS_TFEND) (hfesc : byte ≠ KISS_TFESC) :
    (escaping bytes h).feedAll (byte :: rest) = (idle, [BridgeAction.dropped]) := by
  obtain ⟨hne, hrest⟩ := List.ne_and_not_mem_of_not_mem_cons hmem
  have hfeed : (escaping bytes h).feed byte = (idle, SerialOutput.drop) := by
    unfold feed escaping
    rw [if_neg hne.symm, if_neg (by simp), if_pos rfl, if_neg hfend, if_neg hfesc]
  simp only [feedAll, hfeed, feedAll_idle rest hrest, SerialOutput.actions, List.append_nil]

/-- Only a delimiter hands on a frame, the bytes decoded since the last one. -/
theorem feed_deliver {p : SerialParser} {byte : UInt8} {payload : List UInt8}
    (h : (p.feed byte).2 = SerialOutput.deliver payload) :
    byte = KISS_FEND ∧ p.state = SerialParseState.IN_FRAME ∧ p.frame_buf = payload := by
  have hstore (p : SerialParser) (value : UInt8) :
      (p.store value).2 ≠ SerialOutput.deliver payload := by
    unfold store
    split_ifs
    · exact SerialOutput.noConfusion
    · exact SerialOutput.noConfusion
  unfold feed at h
  split_ifs at h with hfend hframe hstate hesc hd hc hfesc
  · exact ⟨hfend, hframe.1, SerialOutput.deliver.inj h⟩
  · exact absurd h (hstore _ _)
  · exact absurd h (hstore _ _)
  · exact absurd h (hstore _ _)

/-- All else is dropped. -/
theorem feedAll_dropped {raw : List UInt8} (h : KISS_FEND ∉ raw) (hwhole : ¬Whole raw)
    (hcut : ¬CutOff raw) : start.feedAll raw = (idle, [BridgeAction.dropped]) := by
  -- What does not fit into the buffer is dropped before its end.
  have hlong {frame rest : List UInt8} (hlen : ¬frame.length ≤ MAX_KISS_DECODED_FRAME)
      (hrest : KISS_FEND ∉ rest) :
      start.feedAll (escaped frame ++ rest) = (idle, [BridgeAction.dropped]) := by
    rw [feedAll_append, feedAll_start, dif_neg hlen, feedAll_idle rest hrest]
    rfl
  cases raw_of_notMem h with
  | whole frame =>
    rw [← List.append_nil (escaped frame)]
    exact hlong (fun hle => hwhole ⟨frame, hle, rfl⟩) List.not_mem_nil
  | cutOff frame => exact hlong (fun hle => hcut ⟨frame, hle, rfl⟩) (by decide)
  | bad frame byte rest hfend hfesc =>
    have hmem : KISS_FEND ∉ KISS_FESC :: byte :: rest := fun hmem =>
      h (List.mem_append_right _ hmem)
    by_cases hle : frame.length ≤ MAX_KISS_DECODED_FRAME
    · have hsplit : escaped frame ++ KISS_FESC :: byte :: rest =
          escaped frame ++ [KISS_FESC] ++ byte :: rest := by
        rw [List.append_assoc, List.singleton_append]
      rw [hsplit, feedAll_append, feedAll_cutOff frame hle,
        feedAll_escaping (List.not_mem_of_not_mem_cons hmem) hfend hfesc]
      rfl
    · exact hlong hle hmem

end SerialParser

/-- What is cut off is not whole. -/
theorem CutOff.not_whole {raw : List UInt8} (h : CutOff raw) : ¬Whole raw := by
  obtain ⟨payload, hle, rfl⟩ := h
  rintro ⟨payload', hle', hraw⟩
  have hfeed := SerialParser.feedAll_cutOff payload hle
  rw [hraw, SerialParser.feedAll_whole payload' hle'] at hfeed
  -- The parser remembers an escape byte in the one case and not in the other.
  exact Bool.false_ne_true (congrArg (fun r => r.1.escape) hfeed)

/-! ## The bridge -/

namespace TelemetryBridge

/-- At the byte a frame is handed on. -/
def Hands (b : TelemetryBridge) (byte : UInt8) (payload : List UInt8) : Prop :=
  parsed (b.processSerialByte byte).1.log = parsed b.log ++ [BridgeAction.decoded payload]

/-- In the stream only well-formed runs of bytes between delimiters are handed on, and all others are
dropped and counted. -/
structure AcceptsWellFormed (b : TelemetryBridge) (stream : List UInt8) : Prop where
  handed : ∀ s byte payload, s ++ [byte] <+: stream → Hands (b.receive s) byte payload →
    byte = KISS_FEND ∧ payload.length ≤ MAX_KISS_DECODED_FRAME ∧
      ∃ pre, s = pre ++ KISS_FEND :: escaped payload
  discarded : ∀ pre raw, pre ++ KISS_FEND :: raw ++ [KISS_FEND] <+: stream → KISS_FEND ∉ raw →
    ¬Whole raw →
      parsed (b.receive (pre ++ KISS_FEND :: raw ++ [KISS_FEND])).log =
          parsed (b.receive (pre ++ [KISS_FEND])).log ++ [BridgeAction.dropped] ∧
        (b.receive (pre ++ KISS_FEND :: raw ++ [KISS_FEND])).rejected_count =
          (b.receive (pre ++ [KISS_FEND])).rejected_count + 1

/-- After a delimiter the parser is at the start of a frame. -/
theorem receive_fend (b : TelemetryBridge) (pre : List UInt8) :
    (b.receive (pre ++ [KISS_FEND])).serial = SerialParser.start := by
  rw [(b.receive_spec _).1, SerialParser.feedAll_append, SerialParser.feedAll_fend]

/-- A delimiter and the bytes after it are received one after the other. -/
theorem receive_between (b : TelemetryBridge) (pre raw : List UInt8) :
    b.receive (pre ++ KISS_FEND :: raw) = (b.receive (pre ++ [KISS_FEND])).receive raw := by
  rw [← List.singleton_append, ← List.append_assoc]
  exact run_append _ _ _ _

/-- A frame is handed on by the parser, at a delimiter. -/
theorem Hands.deliver {b : TelemetryBridge} {byte : UInt8} {payload : List UInt8}
    (h : b.Hands byte payload) :
    (b.serial.feed byte).2 = SerialOutput.deliver payload := by
  have hact := List.append_cancel_left ((b.processSerialByte_spec byte).2.1.symm.trans h)
  rcases hout : (b.serial.feed byte).2 with _ | frame | _
  · rw [hout] at hact
    cases hact
  · rw [hout] at hact
    cases hact
    rfl
  · rw [hout] at hact
    cases hact

/-- Bytes at which nothing is handed on count one rejection for each frame that is dropped. -/
theorem rejected_count_receive {b : TelemetryBridge} {bytes : List UInt8}
    (h : ∀ act ∈ (b.serial.feedAll bytes).2, act = BridgeAction.dropped) :
    (b.receive bytes).rejected_count =
      b.rejected_count + UInt32.ofNat (b.serial.feedAll bytes).2.length := by
  induction bytes generalizing b with
  | nil => exact (UInt32.add_zero _).symm
  | cons byte bytes ih =>
    obtain ⟨hserial, -, hdrop⟩ := b.processSerialByte_spec byte
    have hrest : ∀ act ∈ ((b.processSerialByte byte).1.serial.feedAll bytes).2,
        act = BridgeAction.dropped := by
      rw [hserial]
      exact fun act hact => h act (List.mem_append_right _ hact)
    have hcount := ih hrest
    rw [hserial] at hcount
    have hall : (b.serial.feedAll (byte :: bytes)).2 = (b.serial.feed byte).2.actions ++
        ((b.serial.feed byte).1.feedAll bytes).2 := rfl
    change ((b.processSerialByte byte).1.receive bytes).rejected_count = _
    rw [hcount, hall, List.length_append, UInt32.ofNat_add, ← UInt32.add_assoc]
    congr 1
    rcases hout : (b.serial.feed byte).2 with _ | frame | _
    · have hsame : (b.processSerialByte byte).1.rejected_count = b.rejected_count := by
        unfold processSerialByte
        simp only [hout]
      rw [hsame]
      exact (UInt32.add_zero _).symm
    · -- A frame that is handed on would be among the actions.
      have hmem : BridgeAction.decoded frame ∈ (b.serial.feedAll (byte :: bytes)).2 := by
        rw [hall, hout]
        exact List.mem_cons_self
      cases h _ hmem
    · rw [hdrop hout]
      rfl

/-- A run of bytes that is dropped before the delimiter after it. -/
theorem receive_dropped {b : TelemetryBridge} {raw : List UInt8}
    (hserial : b.serial = SerialParser.start)
    (h : SerialParser.start.feedAll raw = (SerialParser.idle, [BridgeAction.dropped])) :
    parsed (b.receive (raw ++ [KISS_FEND])).log = parsed b.log ++ [BridgeAction.dropped] ∧
      (b.receive (raw ++ [KISS_FEND])).rejected_count = b.rejected_count + 1 := by
  have hall : (b.serial.feedAll (raw ++ [KISS_FEND])).2 = [BridgeAction.dropped] := by
    rw [hserial, SerialParser.feedAll_append, h]
    rfl
  constructor
  · rw [(b.receive_spec _).2, hall]
  · have hmem : ∀ act ∈ (b.serial.feedAll (raw ++ [KISS_FEND])).2, act = BridgeAction.dropped := by
      rw [hall]
      exact fun act hact => List.mem_singleton.mp hact
    rw [rejected_count_receive hmem, hall]
    rfl

/-- A run of bytes that is cut off is not dropped. -/
theorem receive_cutOff {b : TelemetryBridge} {raw : List UInt8}
    (hserial : b.serial = SerialParser.start) (h : CutOff raw) :
    parsed (b.receive (raw ++ [KISS_FEND])).log ≠ parsed b.log ++ [BridgeAction.dropped] := by
  obtain ⟨payload, hle, rfl⟩ := h
  have hall : (b.serial.feedAll (escaped payload ++ [KISS_FESC] ++ [KISS_FEND])).2 =
      (SerialParser.escaping payload hle).pending := by
    rw [hserial, SerialParser.feedAll_append, SerialParser.feedAll_cutOff payload hle,
      SerialParser.feedAll_fend]
    rfl
  -- What the delimiter logs is a frame or nothing, but no drop.
  rw [(b.receive_spec _).2, hall]
  intro hdrop
  have hact := List.append_cancel_left hdrop
  unfold SerialParser.pending at hact
  split_ifs at hact
  cases hact

/-- After the last delimiter there is none. -/
theorem exists_last_fend {s : List UInt8} (h : KISS_FEND ∈ s) :
    ∃ pre raw, s = pre ++ KISS_FEND :: raw ∧ KISS_FEND ∉ raw := by
  obtain ⟨raw, pre, hsplit, hraw⟩ := List.eq_append_cons_of_mem (List.mem_reverse.mpr h)
  refine ⟨pre.reverse, raw.reverse, ?_, fun hmem => hraw (List.mem_reverse.mp hmem)⟩
  rw [← List.reverse_reverse s, hsplit]
  simp

/-- A stream is received as the interface demands exactly when no frame in it is cut off. -/
theorem accepts_well_formed_iff (b : TelemetryBridge) (stream : List UInt8)
    (hidle : b.serial = SerialParser.idle) :
    b.AcceptsWellFormed stream ↔
      ∀ pre raw, pre ++ KISS_FEND :: raw ++ [KISS_FEND] <+: stream → KISS_FEND ∉ raw →
        ¬CutOff raw := by
  have hbetween (pre raw : List UInt8) : b.receive (pre ++ KISS_FEND :: raw ++ [KISS_FEND]) =
      (b.receive (pre ++ [KISS_FEND])).receive (raw ++ [KISS_FEND]) := by
    rw [List.append_assoc, List.cons_append]
    exact b.receive_between pre _
  constructor
  · intro h pre raw hpre hraw hcut
    obtain ⟨hlog, -⟩ := h.discarded pre raw hpre hraw hcut.not_whole
    rw [hbetween] at hlog
    exact receive_cutOff (b.receive_fend pre) hcut hlog
  · intro h
    constructor
    · intro s byte payload hpre hhands
      -- Only a delimiter hands on a frame, and there was one before, since the parser has left the
      -- initial state.
      obtain ⟨rfl, hstate, hbuf⟩ := SerialParser.feed_deliver hhands.deliver
      have hmem : KISS_FEND ∈ s := by
        by_contra hnot
        rw [(b.receive_spec s).1, hidle, SerialParser.feedAll_idle s hnot] at hstate
        cases hstate
      obtain ⟨pre, raw, rfl, hraw⟩ := exists_last_fend hmem
      have hserial : (b.receive (pre ++ KISS_FEND :: raw)).serial =
          (SerialParser.start.feedAll raw).1 := by
        rw [receive_between, (receive_spec _ raw).1, receive_fend]
      -- A frame is pending if it was whole, and dropped if it was anything else.
      by_cases hwhole : Whole raw
      · obtain ⟨frame, hle, rfl⟩ := hwhole
        rw [hserial, SerialParser.feedAll_whole frame hle] at hbuf
        obtain rfl : frame = payload := hbuf
        exact ⟨rfl, hle, pre, rfl⟩
      · rw [hserial, SerialParser.feedAll_dropped hraw hwhole (h pre raw hpre hraw)] at hstate
        cases hstate
    · intro pre raw hpre hraw hwhole
      rw [hbetween]
      exact receive_dropped (b.receive_fend pre)
        (SerialParser.feedAll_dropped hraw hwhole (h pre raw hpre hraw))

/-- A frame that is whole and one with a bad escape are received as demanded. -/
theorem accepts_well_formed_iff_bad_escape :
    silent.AcceptsWellFormed
      [KISS_FEND, 0x00, KISS_FESC, KISS_TFEND, KISS_FEND, 0x00, KISS_FESC, 0x01, KISS_FEND] := by
  refine (accepts_well_formed_iff silent _ rfl).mpr ?_
  rintro pre raw hpre - ⟨payload, -, rfl⟩
  -- No escape byte stands right before a delimiter.
  have hsub : [KISS_FESC, KISS_FEND] <:+: pre ++ KISS_FEND :: (escaped payload ++ [KISS_FESC]) ++
      [KISS_FEND] := ⟨pre ++ KISS_FEND :: escaped payload, [], by simp⟩
  exact absurd (hsub.trans hpre.isInfix) (by decide)

/-- A frame whose last escape the delimiter cuts off is handed on. -/
theorem cut_off_frame_handed :
    silent.serial = SerialParser.idle ∧
      (silent.receive [KISS_FEND, 0x00, KISS_FESC]).Hands KISS_FEND [0x00] ∧
      ¬silent.AcceptsWellFormed [KISS_FEND, 0x00, KISS_FESC, KISS_FEND] := by
  have hcut : CutOff [0x00, KISS_FESC] := ⟨[0x00], by decide, rfl⟩
  have hhands : parsed ((silent.receive [KISS_FEND, 0x00, KISS_FESC]).processSerialByte
      KISS_FEND).1.log = parsed (silent.receive [KISS_FEND, 0x00, KISS_FESC]).log ++
        [BridgeAction.decoded [0x00]] := by decide +kernel
  have hlog : parsed (silent.receive [KISS_FEND, 0x00, KISS_FESC, KISS_FEND]).log ≠
      parsed (silent.receive [KISS_FEND]).log ++ [BridgeAction.dropped] := by decide +kernel
  refine ⟨rfl, hhands, fun h => hlog ?_⟩
  exact (h.discarded [] [0x00, KISS_FESC] (List.prefix_refl _) (by decide)
    hcut.not_whole).1

end TelemetryBridge

end DeltaV
