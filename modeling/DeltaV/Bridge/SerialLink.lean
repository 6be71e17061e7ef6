import DeltaV.Bridge.Kiss

/-!
# The serial link

`receiveCommandsSerial` reads the port in chunks and feeds the parser byte by byte until a call has
handed on `MAX_CMDS_PER_TICK` frames. It leaves the loop over the chunk as well as the loop over the
reads, so the bytes of the chunk behind the last of these frames are gone. A call is the plain
parser on the bytes before them (`receiveCommandsSerial_spec`), and the calls together are the plain
parser on the whole stream exactly when these bytes would have handed on nothing and led back to the
start of a frame (`serial_lossless_iff`).
-/

namespace DeltaV

/-- What `read` returns when there is something to read: at least one byte, and at most the size of
the buffer. -/
structure Chunk where
  bytes : List UInt8
  nonempty : bytes ≠ []
  length_le : bytes.length ≤ 128

/-- The frames among what the parser did. -/
def handed (acts : List BridgeAction) : List (List UInt8) :=
  acts.filterMap fun act =>
    match act with
    | BridgeAction.decoded frame => some frame
    | BridgeAction.dropped => none
    | BridgeAction.accepted _ _ => none

namespace TelemetryBridge

/-- The loop over the bytes of a chunk; the number counts the frames of the call. -/
def receiveChunk : TelemetryBridge → ℕ → List UInt8 → TelemetryBridge × ℕ
  | b, processed, [] => (b, processed)
  | b, processed, byte :: bytes =>
    let r := b.processSerialByte byte
    if r.2 then
      if MAX_CMDS_PER_TICK ≤ processed + 1 then (r.1, processed + 1)
      else receiveChunk r.1 (processed + 1) bytes
    else receiveChunk r.1 processed bytes

/-- The loop over the reads, which ends when there is nothing to read; also returns the chunks that
were read. -/
def receiveChunks : TelemetryBridge → ℕ → List Chunk → TelemetryBridge × List Chunk
  | b, _, [] => (b, [])
  | b, processed, chunk :: reads =>
    if processed < MAX_CMDS_PER_TICK then
      let r := b.receiveChunk processed chunk.bytes
      let rest := receiveChunks r.1 r.2 reads
      (rest.1, chunk :: rest.2)
    else (b, [])

/-- One call, with the chunks that the port has for it. -/
def receiveCommandsSerial (b : TelemetryBridge) (reads : List Chunk) :
    TelemetryBridge × List Chunk := b.receiveChunks 0 reads

/-- The bridge and the bytes that it has read, after one more call. -/
def serialCall (s : TelemetryBridge × List UInt8) (reads : List Chunk) :
    TelemetryBridge × List UInt8 :=
  let r := s.1.receiveCommandsSerial reads
  (r.1, s.2 ++ r.2.flatMap Chunk.bytes)

end TelemetryBridge

/-! ## Bytes without effect -/

namespace SerialParser

/-- At the start of a frame the bytes hand on no frame and lead back to the start of a frame. -/
def Quiet (bytes : List UInt8) : Prop :=
  (start.feedAll bytes).1 = start ∧ handed (start.feedAll bytes).2 = []

/-- In every read of a call, the bytes behind the one that completes the last frame of the call are
without effect. -/
def Harmless : SerialParser → ℕ → List Chunk → Prop
  | _, _, [] => True
  | p, processed, chunk :: reads =>
    (∀ bytes byte left, chunk.bytes = bytes ++ byte :: left →
      processed + (handed (p.feedAll bytes).2).length < MAX_CMDS_PER_TICK →
      processed + (handed (p.feedAll (bytes ++ [byte])).2).length = MAX_CMDS_PER_TICK →
      Quiet left) ∧
    Harmless (p.feedAll chunk.bytes).1
      (processed + (handed (p.feedAll chunk.bytes).2).length) reads

/-- What is handed on in two parts is handed on part by part. -/
@[simp] theorem handed_append (xs ys : List BridgeAction) :
    handed (xs ++ ys) = handed xs ++ handed ys := List.filterMap_append

/-- More bytes hand on more frames. -/
theorem handed_feedAll_append (p : SerialParser) (xs ys : List UInt8) :
    handed (p.feedAll (xs ++ ys)).2 =
      handed (p.feedAll xs).2 ++ handed ((p.feedAll xs).1.feedAll ys).2 := by
  rw [feedAll_append, handed_append]

/-- A delimiter hands on what the bytes before it have left pending. -/
theorem handed_feedAll_fend (p : SerialParser) (byte : UInt8) :
    handed (p.feedAll [byte, KISS_FEND]).2 =
      handed (p.feed byte).2.actions ++ handed (p.feed byte).1.pending := by
  have hone : p.feedAll [byte] = ((p.feed byte).1, (p.feed byte).2.actions) := by
    simp only [feedAll, List.append_nil]
  rw [show [byte, KISS_FEND] = [byte] ++ [KISS_FEND] from rfl, handed_feedAll_append, hone,
    feedAll_fend]

/-- A parser that hands on the same frames as at the start of a frame, whatever follows, is at the
start of a frame. -/
theorem eq_start {p : SerialParser}
    (h : ∀ rest, handed (p.feedAll rest).2 = handed (start.feedAll rest).2) : p = start := by
  obtain ⟨state, escape, frame_buf, hlen⟩ := p
  cases state with
  | IDLE =>
    -- Outside a frame a byte and a delimiter hand on nothing.
    have hidle := h [1, KISS_FEND]
    rw [handed_feedAll_fend] at hidle
    have hfeed : feed ⟨SerialParseState.IDLE, escape, frame_buf, hlen⟩ 1 =
        (⟨SerialParseState.IDLE, escape, frame_buf, hlen⟩, SerialOutput.nothing) := rfl
    rw [hfeed] at hidle
    cases hidle
  | IN_FRAME =>
    cases escape with
    | true =>
      -- The second byte of an escape sequence is not stored as it is.
      have hescape := h [KISS_TFEND, KISS_FEND]
      rw [handed_feedAll_fend] at hescape
      have hfeed : feed ⟨SerialParseState.IN_FRAME, true, frame_buf, hlen⟩ KISS_TFEND =
          store (inFrame frame_buf hlen) KISS_FEND := rfl
      have hstart : handed (start.feedAll [KISS_TFEND, KISS_FEND]).2 = [[KISS_TFEND]] := by decide
      rw [hfeed, store_inFrame, hstart] at hescape
      split_ifs at hescape with hfit
      · have hpending : handed (pending (inFrame (frame_buf ++ [KISS_FEND]) hfit)) =
            [frame_buf ++ [KISS_FEND]] := by
          simp [pending, inFrame, handed]
        rw [hpending] at hescape
        have hlast := congrArg (fun l => l.map List.getLast?) hescape
        simp at hlast
        exact absurd hlast (by decide)
      · cases hescape
    | false =>
      cases frame_buf with
      | nil => rfl
      | cons byte bytes =>
        -- A delimiter hands on what the buffer holds.
        have hbuf := h [KISS_FEND]
        rw [feedAll_fend, feedAll_fend] at hbuf
        cases hbuf

/-- Bytes are without effect when the frames handed on do not depend on them. -/
theorem quiet_iff (bytes : List UInt8) :
    Quiet bytes ↔
      ∀ rest, handed (start.feedAll (bytes ++ rest)).2 = handed (start.feedAll rest).2 := by
  constructor
  · rintro ⟨hstate, hnone⟩ rest
    rw [handed_feedAll_append, hstate, hnone, List.nil_append]
  · intro h
    have hnone : handed (start.feedAll bytes).2 = [] := by
      have := h []
      rwa [List.append_nil] at this
    refine ⟨eq_start fun rest => ?_, hnone⟩
    have := h rest
    rwa [handed_feedAll_append, hnone, List.nil_append] at this

/-- Once the limit is reached, nothing more is read. -/
theorem harmless_of_full (p : SerialParser) (processed : ℕ) (reads : List Chunk)
    (h : MAX_CMDS_PER_TICK ≤ processed) : Harmless p processed reads := by
  induction reads generalizing p processed with
  | nil => trivial
  | cons chunk reads ih =>
    refine ⟨fun _ _ _ _ hlt => ?_, ih _ _ (by omega)⟩
    omega

end SerialParser

/-! ## One call -/

namespace TelemetryBridge

open SerialParser

/-- The flag of a byte says whether it hands on a frame, which leaves the parser at the start of a
frame. -/
theorem processSerialByte_flag (b : TelemetryBridge) (byte : UInt8) :
    ((b.processSerialByte byte).2 = true ∧ (handed (b.serial.feed byte).2.actions).length = 1 ∧
        (b.serial.feed byte).1 = start) ∨
      ((b.processSerialByte byte).2 = false ∧ handed (b.serial.feed byte).2.actions = []) := by
  simp only [processSerialByte]
  split
  · rename_i hout
    rw [hout]
    exact Or.inr ⟨rfl, rfl⟩
  · rename_i frame hout
    refine Or.inl ⟨rfl, by rw [hout]; rfl, ?_⟩
    -- Only a delimiter hands on a frame.
    revert hout
    unfold feed store
    split_ifs <;> simp
  · rename_i hout
    rw [hout]
    exact Or.inr ⟨rfl, rfl⟩

/-- The frames handed on by a stream are those of the parser. -/
theorem handed_receive (b : TelemetryBridge) (bytes : List UInt8) :
    handed (b.receive bytes).log = handed b.log ++ handed (b.serial.feedAll bytes).2 := by
  have hparsed : ∀ log, handed (parsed log) = handed log := by
    intro log
    unfold handed parsed
    rw [List.filterMap_filter]
    congr 1
    funext act
    cases act <;> rfl
  rw [← hparsed, (b.receive_spec bytes).2, handed_append, hparsed]

/-- The loop over a chunk has taken the bytes `used`, as the plain parser would, and has left the
others: none, or those behind the byte that completes the last frame of the call. -/
structure Taken (b : TelemetryBridge) (processed : ℕ) (chunk used left : List UInt8)
    (r : TelemetryBridge × ℕ) : Prop where
  split : chunk = used ++ left
  bridge : r.1 = b.receive used
  count : r.2 = processed + (handed (b.serial.feedAll used).2).length
  rest : (left = [] ∧ r.2 < MAX_CMDS_PER_TICK) ∨
    (r.2 = MAX_CMDS_PER_TICK ∧ (b.serial.feedAll used).1 = start ∧
      ∃ bytes byte, used = bytes ++ [byte] ∧
        processed + (handed (b.serial.feedAll bytes).2).length < MAX_CMDS_PER_TICK)

/-- What a byte hands on comes before what the others hand on. -/
theorem handed_cons (b : TelemetryBridge) (byte : UInt8) (bytes : List UInt8) :
    handed (b.serial.feedAll (byte :: bytes)).2 =
      handed (b.serial.feed byte).2.actions ++
        handed ((b.processSerialByte byte).1.serial.feedAll bytes).2 := by
  rw [(b.processSerialByte_spec byte).1]
  exact handed_append _ _

/-- The loop goes on behind the first byte. -/
theorem Taken.cons {b : TelemetryBridge} {byte : UInt8} {processed n : ℕ}
    {chunk used left : List UInt8} {r : TelemetryBridge × ℕ}
    (h : Taken (b.processSerialByte byte).1 n chunk used left r)
    (hn : n = processed + (handed (b.serial.feed byte).2.actions).length) :
    Taken b processed (byte :: chunk) (byte :: used) left r := by
  have hcount : ∀ bytes, processed + (handed (b.serial.feedAll (byte :: bytes)).2).length =
      n + (handed ((b.processSerialByte byte).1.serial.feedAll bytes).2).length := by
    intro bytes
    rw [handed_cons, List.length_append, hn, Nat.add_assoc]
  refine ⟨by rw [h.split]; rfl, h.bridge, by rw [hcount]; exact h.count, h.rest.imp id ?_⟩
  rintro ⟨hfull, hstart, bytes, last, hused, hlt⟩
  refine ⟨hfull, ?_, byte :: bytes, last, by rw [hused]; rfl, by rwa [hcount]⟩
  rw [(b.processSerialByte_spec byte).1] at hstart
  exact hstart

/-- The loop over a chunk takes all bytes, or all up to the one that completes the last frame. -/
theorem receiveChunk_spec (b : TelemetryBridge) (processed : ℕ) (chunk : List UInt8)
    (h : processed < MAX_CMDS_PER_TICK) :
    ∃ used left, Taken b processed chunk used left (b.receiveChunk processed chunk) := by
  induction chunk generalizing b processed with
  | nil => exact ⟨[], [], rfl, rfl, rfl, Or.inl ⟨rfl, h⟩⟩
  | cons byte chunk ih =>
    rcases b.processSerialByte_flag byte with ⟨hflag, hone, hstart⟩ | ⟨hflag, hnone⟩
    · by_cases hfull : MAX_CMDS_PER_TICK ≤ processed + 1
      · -- This byte completes the last frame.
        have hstop : b.receiveChunk processed (byte :: chunk) =
            ((b.processSerialByte byte).1, processed + 1) := by
          simp [receiveChunk, hflag, hfull]
        have hcount : (handed (b.serial.feedAll [byte]).2).length = 1 := by
          rw [handed_cons, List.length_append, hone]
          rfl
        rw [hstop]
        refine ⟨[byte], chunk, rfl, rfl, by rw [hcount], Or.inr ⟨?_, hstart, [], byte, rfl, h⟩⟩
        show processed + 1 = MAX_CMDS_PER_TICK
        omega
      · have hgo : b.receiveChunk processed (byte :: chunk) =
            (b.processSerialByte byte).1.receiveChunk (processed + 1) chunk := by
          simp [receiveChunk, hflag, hfull]
        obtain ⟨used, left, htaken⟩ := ih (b.processSerialByte byte).1 (processed + 1) (by omega)
        rw [hgo]
        exact ⟨byte :: used, left, htaken.cons (by rw [hone])⟩
    · have hgo : b.receiveChunk processed (byte :: chunk) =
          (b.processSerialByte byte).1.receiveChunk processed chunk := by
        simp [receiveChunk, hflag]
      obtain ⟨used, left, htaken⟩ := ih (b.processSerialByte byte).1 processed h
      rw [hgo]
      exact ⟨byte :: used, left, htaken.cons (by rw [hnone]; rfl)⟩

/-- A stream can be received piece by piece. -/
theorem receive_append (b : TelemetryBridge) (xs ys : List UInt8) :
    b.receive (xs ++ ys) = (b.receive xs).receive ys := run_append _ _ _ _

/-- The byte at which a growing number passes a bound is determined, and with it what follows. -/
theorem left_unique {f : List UInt8 → ℕ} (hf : ∀ xs ys, f xs ≤ f (xs ++ ys)) {N : ℕ}
    {xs zs xs' zs' : List UInt8} {x x' : UInt8} (h : xs ++ x :: zs = xs' ++ x' :: zs')
    (hlt : f xs < N) (hge : N ≤ f (xs ++ [x])) (hlt' : f xs' < N) (hge' : N ≤ f (xs' ++ [x'])) :
    zs = zs' := by
  -- If one of the two bytes comes first, the number is below the bound after it.
  rcases List.append_eq_append_iff.mp h with ⟨ys, hys, hrest⟩ | ⟨ys, hys, hrest⟩
  · cases ys with
    | nil => exact (List.cons.inj hrest).2
    | cons y ys =>
      obtain ⟨rfl, -⟩ := List.cons.inj hrest
      have hmono := hf (xs ++ [x]) ys
      rw [List.append_assoc, List.singleton_append, ← hys] at hmono
      omega
  · cases ys with
    | nil => exact (List.cons.inj hrest).2.symm
    | cons y ys =>
      obtain ⟨rfl, -⟩ := List.cons.inj hrest
      have hmono := hf (xs' ++ [x']) ys
      rw [List.append_assoc, List.singleton_append, ← hys] at hmono
      omega

/-- A call that has reached the limit reads nothing. -/
theorem receiveChunks_full (b : TelemetryBridge) {processed : ℕ} (reads : List Chunk)
    (h : MAX_CMDS_PER_TICK ≤ processed) : b.receiveChunks processed reads = (b, []) := by
  cases reads with
  | nil => rfl
  | cons chunk reads => rw [receiveChunks, if_neg (not_lt.mpr h)]

/-- More bytes do not hand on fewer frames. -/
theorem handed_mono (p : SerialParser) (xs ys : List UInt8) :
    (handed (p.feedAll xs).2).length ≤ (handed (p.feedAll (xs ++ ys)).2).length := by
  rw [handed_feedAll_append, List.length_append]
  exact Nat.le_add_right _ _

/-- A chunk of which all bytes are taken is harmless. -/
theorem Taken.harmless_iff_of_room {b : TelemetryBridge} {processed : ℕ} {chunk : Chunk}
    {used : List UInt8} {r : TelemetryBridge × ℕ} {reads : List Chunk}
    (h : Taken b processed chunk.bytes used [] r) (hroom : r.2 < MAX_CMDS_PER_TICK) :
    Harmless b.serial processed (chunk :: reads) ↔ Harmless r.1.serial r.2 reads := by
  have hchunk : chunk.bytes = used := by rw [h.split, List.append_nil]
  have hserial : r.1.serial = (b.serial.feedAll used).1 := by
    rw [h.bridge, (b.receive_spec used).1]
  rw [hserial, h.count, Harmless, hchunk]
  refine ⟨fun hall => hall.2, fun hrest => ⟨fun xs x zs hsplit _ hcount => ?_, hrest⟩⟩
  -- No byte of the chunk reaches the limit.
  have hmono := handed_mono b.serial (xs ++ [x]) zs
  rw [List.append_assoc, List.singleton_append, ← hsplit] at hmono
  have hused := h.count
  omega

/-- A chunk with the last frame of the call is harmless when what is left of it is without effect,
whatever is read next. -/
theorem Taken.harmless_iff_of_full {b : TelemetryBridge} {processed : ℕ} {chunk : Chunk}
    {bytes left : List UInt8} {byte : UInt8} {r : TelemetryBridge × ℕ} (reads : List Chunk)
    (h : Taken b processed chunk.bytes (bytes ++ [byte]) left r) (hfull : r.2 = MAX_CMDS_PER_TICK)
    (hbefore : processed + (handed (b.serial.feedAll bytes).2).length < MAX_CMDS_PER_TICK) :
    Harmless b.serial processed (chunk :: reads) ↔ Quiet left := by
  have hcount := h.count
  rw [hfull] at hcount
  have hsplit : chunk.bytes = bytes ++ byte :: left := by
    rw [h.split, List.append_assoc, List.singleton_append]
  constructor
  · intro hall
    exact hall.1 bytes byte left hsplit hbefore hcount.symm
  · intro hleft
    refine ⟨fun xs x zs hsplit' hlt' hcount' => ?_, harmless_of_full _ _ _ ?_⟩
    · have heq := left_unique
        (fun xs ys => Nat.add_le_add_left (handed_mono b.serial xs ys) processed)
        (hsplit.symm.trans hsplit') hbefore hcount.le hlt' hcount'.ge
      rwa [← heq]
    · have hmono := handed_mono b.serial (bytes ++ [byte]) left
      rw [List.append_assoc, List.singleton_append, ← hsplit] at hmono
      omega

/-- A call is the plain parser on the bytes that it takes. What it leaves of the bytes that it has
read starts behind a frame, and the reads are harmless exactly when it is without effect. -/
theorem receiveChunks_spec (b : TelemetryBridge) (processed : ℕ) (reads : List Chunk) :
    ∃ used left, (b.receiveChunks processed reads).2.flatMap Chunk.bytes = used ++ left ∧
      (b.receiveChunks processed reads).1 = b.receive used ∧
      (left = [] ∨ (b.serial.feedAll used).1 = start) ∧
      (Harmless b.serial processed reads ↔ Quiet left) := by
  have hquiet : Quiet [] := ⟨rfl, rfl⟩
  induction reads generalizing b processed with
  | nil => exact ⟨[], [], rfl, rfl, Or.inl rfl, iff_of_true trivial hquiet⟩
  | cons chunk reads ih =>
    by_cases hlt : processed < MAX_CMDS_PER_TICK
    · obtain ⟨used, left, htaken⟩ := b.receiveChunk_spec processed chunk.bytes hlt
      have hgo : b.receiveChunks processed (chunk :: reads) =
          (((b.receiveChunk processed chunk.bytes).1.receiveChunks
              (b.receiveChunk processed chunk.bytes).2 reads).1,
            chunk :: ((b.receiveChunk processed chunk.bytes).1.receiveChunks
              (b.receiveChunk processed chunk.bytes).2 reads).2) := by
        rw [receiveChunks, if_pos hlt]
      generalize b.receiveChunk processed chunk.bytes = r at htaken hgo
      rw [hgo]
      rcases htaken.rest with ⟨rfl, hroom⟩ | ⟨hfull, hend, bytes, byte, rfl, hbefore⟩
      · -- The whole chunk is taken, and the loop goes on.
        obtain ⟨used', left', hbytes, hbridge, hstart, hiff⟩ := ih r.1 r.2
        have hserial : r.1.serial = (b.serial.feedAll used).1 := by
          rw [htaken.bridge, (b.receive_spec used).1]
        refine ⟨used ++ used', left', ?_, ?_, hstart.imp id fun h => ?_,
          (htaken.harmless_iff_of_room hroom).trans hiff⟩
        · rw [List.flatMap_cons, hbytes, htaken.split, List.append_nil, List.append_assoc]
        · rw [hbridge, htaken.bridge, receive_append]
        · rw [feedAll_append, ← hserial]
          exact h
      · -- The last frame is complete, and the rest of the chunk is left.
        rw [receiveChunks_full _ _ hfull.ge]
        refine ⟨bytes ++ [byte], left, ?_, htaken.bridge, Or.inr hend,
          htaken.harmless_iff_of_full reads hfull hbefore⟩
        rw [List.flatMap_cons, List.flatMap_nil, List.append_nil, htaken.split]
    · rw [receiveChunks_full _ _ (not_lt.mp hlt)]
      exact ⟨[], [], rfl, rfl, Or.inl rfl,
        iff_of_true (harmless_of_full _ _ _ (not_lt.mp hlt)) hquiet⟩

/-! ## All calls -/

/-- Whatever bytes follow, the frames handed on are those of the plain parser on the stream. -/
def Faithful (b₀ : TelemetryBridge) (s : TelemetryBridge × List UInt8) : Prop :=
  ∀ rest, handed (s.1.receive rest).log = handed (b₀.receive (s.2 ++ rest)).log

/-- The parser is where the plain parser is, and has handed on the same frames. -/
def InStep (b₀ : TelemetryBridge) (s : TelemetryBridge × List UInt8) : Prop :=
  s.1.serial = (b₀.serial.feedAll s.2).1 ∧
    handed s.1.log = handed b₀.log ++ handed (b₀.serial.feedAll s.2).2

/-- A parser in step with the stream is faithful to it. -/
theorem InStep.faithful {b₀ : TelemetryBridge} {s : TelemetryBridge × List UInt8}
    (h : InStep b₀ s) : Faithful b₀ s := by
  intro rest
  rw [handed_receive, handed_receive, handed_feedAll_append, h.1, h.2, List.append_assoc]

/-- A call keeps in step exactly when its reads are harmless. -/
theorem InStep.serialCall {b₀ : TelemetryBridge} {s : TelemetryBridge × List UInt8}
    (h : InStep b₀ s) (reads : List Chunk) :
    (Harmless s.1.serial 0 reads → InStep b₀ (serialCall s reads)) ∧
      (Faithful b₀ (serialCall s reads) → Harmless s.1.serial 0 reads) := by
  obtain ⟨used, left, hbytes, hbridge, hstart, hiff⟩ := s.1.receiveChunks_spec 0 reads
  have hcall : TelemetryBridge.serialCall s reads = (s.1.receive used, s.2 ++ (used ++ left)) := by
    rw [← hbytes, ← hbridge]
    rfl
  have hserial : (s.1.receive used).serial = (s.1.serial.feedAll used).1 :=
    (s.1.receive_spec used).1
  have hlog : handed (s.1.receive used).log =
      handed b₀.log ++ handed (b₀.serial.feedAll (s.2 ++ used)).2 := by
    rw [handed_receive, h.2, handed_feedAll_append, h.1, List.append_assoc]
  have hstream : (b₀.serial.feedAll (s.2 ++ used)).1 = (s.1.serial.feedAll used).1 := by
    rw [feedAll_append, h.1]
  rw [hcall, hiff]
  constructor
  · -- Harmless bytes change neither the state of the parser nor what it has handed on.
    rintro ⟨hstate, hnone⟩
    rcases hstart with rfl | hend
    · rw [List.append_nil]
      exact ⟨hserial.trans hstream.symm, hlog⟩
    · constructor
      · rw [hserial, ← List.append_assoc, feedAll_append, hstream, hend, hstate]
      · rw [hlog, ← List.append_assoc, handed_feedAll_append _ (s.2 ++ used), hstream, hend,
          hnone, List.append_nil]
  · intro hfaithful
    rcases hstart with rfl | hend
    · exact ⟨rfl, rfl⟩
    · refine (quiet_iff left).mpr fun rest => ?_
      have hrest := hfaithful rest
      rw [handed_receive, hlog, hserial, hend, handed_receive, ← List.append_assoc,
        List.append_assoc (s.2 ++ used), handed_feedAll_append _ (s.2 ++ used), hstream, hend,
        List.append_assoc] at hrest
      exact (List.append_cancel_left (List.append_cancel_left hrest)).symm

/-- The serial link over every sequence of calls and reads, from every state of the bridge. After
every call the frames handed on are those of the plain parser on the bytes read so far, whatever
bytes follow, exactly when in every read the bytes behind the one that completes the last frame of a
call would hand on no frame and lead back to the start of a frame. -/
theorem serial_lossless_iff (b₀ : TelemetryBridge) (calls : List (List Chunk)) :
    (∀ pre, pre <+: calls → Faithful b₀ (run serialCall (b₀, []) pre)) ↔
      Along serialCall (fun s reads => Harmless s.1.serial 0 reads) (b₀, []) calls := by
  have hstart : InStep b₀ (b₀, []) := ⟨rfl, (List.append_nil _).symm⟩
  exact forall_prefix_iff_along (fun s reads h => (h.serialCall reads).1)
    (fun s h => h.faithful) (fun s reads h => (h.serialCall reads).2) hstart calls

/-- One read that holds 21 frames of one byte. -/
def fullRead : Chunk where
  bytes := KISS_FEND :: (List.replicate 21 [KISS_CMD_DATA, KISS_FEND]).flatten
  nonempty := by decide
  length_le := by decide

/-- The last of 21 frames in one read is lost. -/
theorem frame_lost_at_limit :
    (handed (run serialCall (silent, []) [[fullRead]]).1.log).length = 20 ∧
      (handed (silent.receive fullRead.bytes).log).length = 21 := by
  decide +kernel

end TelemetryBridge

end DeltaV
