import DeltaV.Lib.Runs
import DeltaV.Reporter

/-!
# File transfer

`FileTransferComponent` collects a file in chunks and hands out what it has collected. One buffer
serves all sessions, and the three offsets into it are ordered in every state. The log keeps every
call with its result. After every run the buffer holds the chunks that were accepted since the last
start of a session, and what has been read since then is the beginning of it (`reassembly`).
-/

namespace DeltaV

/-- The calls of the component, with their results. -/
inductive FileAction where
  /-- `beginSession` was called. -/
  | began (expected_bytes : ℕ) (ok : Bool)
  /-- The session was reset. -/
  | reset
  /-- `ingestChunk` was called; `none` is the null pointer. -/
  | ingested (data : Option (List UInt8)) (ok : Bool)
  /-- `finalizeSession` was called. -/
  | finalized (ok : Bool)
  /-- `readNextChunk` returned some bytes. -/
  | read (bytes : List UInt8)
deriving DecidableEq, Repr

/-- The capacity of the buffer. -/
def MAX_FILE_BYTES : ℕ := 4096

/-- The most bytes of a chunk. -/
def CHUNK_BYTES : ℕ := 32

/-- The chunked file session manager. -/
structure FileTransferComponent extends Reporter where
  /-- The buffer; no position from the capacity on is written or read. -/
  storage_ : ℕ → UInt8
  expected_bytes_ : ℕ
  expected_le : expected_bytes_ ≤ MAX_FILE_BYTES
  received_bytes_ : ℕ
  received_le : received_bytes_ ≤ expected_bytes_
  downlink_offset_ : ℕ
  downlink_le : downlink_offset_ ≤ received_bytes_
  session_active_ : Bool
  log : List FileAction

namespace FileTransferComponent

def OP_BEGIN_SESSION : UInt32 := 1

def OP_PUSH_TEST_BYTE : UInt32 := 2

def OP_FINALIZE_SESSION : UInt32 := 3

def OP_RESET_SESSION : UInt32 := 4

/-- A component as constructed. -/
def create (base : Component) : FileTransferComponent :=
  { Reporter.create base with
    storage_ := fun _ => 0
    expected_bytes_ := 0
    expected_le := Nat.zero_le _
    received_bytes_ := 0
    received_le := Nat.zero_le _
    downlink_offset_ := 0
    downlink_le := Nat.zero_le _
    session_active_ := false
    log := [] }

/-- Counts one error. -/
def recordError (c : FileTransferComponent) : FileTransferComponent :=
  { c with toReporter := c.toReporter.recordError }

/-- Sends an event. -/
def publishEvent (c : FileTransferComponent) (severity : UInt32) (msg : Text) :
    FileTransferComponent :=
  { c with toReporter := c.toReporter.publishEvent severity msg }

/-- Notes a call and its result. -/
def note (c : FileTransferComponent) (action : FileAction) : FileTransferComponent :=
  { c with log := c.log ++ [action] }

/-- A call that counts an error and reports it. -/
def fail (c : FileTransferComponent) (msg : Text) : FileTransferComponent :=
  c.recordError.publishEvent Severity.WARNING msg

/-- Opens a session for a file of the given size. -/
def beginSession (c : FileTransferComponent) (expected_bytes : ℕ) : FileTransferComponent × Bool :=
  if h : expected_bytes = 0 ∨ MAX_FILE_BYTES < expected_bytes then
    ((c.fail (ascii "FILE_BAD_SIZE")).note (FileAction.began expected_bytes false), false)
  else
    (({ c with
        expected_bytes_ := expected_bytes
        expected_le := not_lt.mp (not_or.mp h).2
        received_bytes_ := 0
        received_le := Nat.zero_le _
        downlink_offset_ := 0
        downlink_le := Nat.zero_le _
        session_active_ := true }.publishEvent Severity.INFO (ascii "FILE_SESSION")).note
      (FileAction.began expected_bytes true), true)

/-- The loop `storage_[offset + i] = data[i]`. -/
def store (storage : ℕ → UInt8) (offset : ℕ) : List UInt8 → ℕ → UInt8
  | [] => storage
  | byte :: data => store (Function.update storage offset byte) (offset + 1) data

/-- Appends a chunk to the file; the flag says whether it was accepted. -/
def ingestChunk (c : FileTransferComponent) (data : Option (List UInt8)) :
    FileTransferComponent × Bool :=
  let rejected := fun msg => ((c.fail msg).note (FileAction.ingested data false), false)
  match data with
  | none => rejected (ascii "FILE_INGEST_BAD")
  | some bytes =>
    if c.session_active_ = false ∨ bytes.length = 0 ∨ CHUNK_BYTES < bytes.length then
      rejected (ascii "FILE_INGEST_BAD")
    else if h : c.expected_bytes_ < c.received_bytes_ + bytes.length then
      rejected (ascii "FILE_EXCEEDS_EXPECTED")
    else if MAX_FILE_BYTES < c.received_bytes_ + bytes.length then
      rejected (ascii "FILE_OVERFLOW")
    else
      ({ c with
          storage_ := store c.storage_ c.received_bytes_ bytes
          received_bytes_ := c.received_bytes_ + bytes.length
          received_le := not_lt.mp h
          downlink_le := c.downlink_le.trans (Nat.le_add_right _ _) }.note
        (FileAction.ingested data true), true)

/-- Closes the session when the file is complete. -/
def finalizeSession (c : FileTransferComponent) : FileTransferComponent × Bool :=
  if c.session_active_ = false then
    ((c.fail (ascii "FILE_NOT_ACTIVE")).note (FileAction.finalized false), false)
  else if c.received_bytes_ ≠ c.expected_bytes_ then
    ((c.fail (ascii "FILE_SIZE_MISMATCH")).note (FileAction.finalized false), false)
  else
    (({ c with session_active_ := false }.publishEvent Severity.INFO (ascii "FILE_DONE")).note
      (FileAction.finalized true), true)

/-- Hands out the next bytes of the file, as many as there are and fit; `out` is false for the null
pointer. -/
def readNextChunk (c : FileTransferComponent) (out : Bool) (max_len : ℕ) :
    FileTransferComponent × List UInt8 :=
  if h : out = false ∨ max_len = 0 ∨ c.received_bytes_ ≤ c.downlink_offset_ then
    (c.note (FileAction.read []), [])
  else
    let remain := c.received_bytes_ - c.downlink_offset_
    let n := if remain < max_len then remain else max_len
    let bytes := (List.range n).map fun i => c.storage_ (c.downlink_offset_ + i)
    ({ c with
        downlink_offset_ := c.downlink_offset_ + n
        downlink_le := by
          have hlt := not_le.mp (not_or.mp (not_or.mp h).2).2
          dsimp only [n, remain]
          split_ifs <;> omega }.note (FileAction.read bytes), bytes)

/-- `receivedBytes()`. -/
def receivedBytes (c : FileTransferComponent) : ℕ := c.received_bytes_

/-- Ends the session. -/
def resetSession (c : FileTransferComponent) : FileTransferComponent :=
  { c with
    expected_bytes_ := 0
    expected_le := Nat.zero_le _
    received_bytes_ := 0
    received_le := Nat.zero_le _
    downlink_offset_ := 0
    downlink_le := Nat.zero_le _
    session_active_ := false }.note FileAction.reset

/-- A float as a byte count between bounds; between them it is truncated. -/
def clampFloatToBounds (value : Binary32) (lo hi : ℕ) : ℕ :=
  if ¬value.IsFinite then lo
  else if value < Binary32.ofNat lo then lo
  else if Binary32.ofNat hi < value then hi
  else value.trunc.toNat

/-- Executes a command. -/
def handleCommand (c : FileTransferComponent) (cmd : CommandPacket) : FileTransferComponent :=
  if cmd.opcode = OP_BEGIN_SESSION then
    (c.beginSession (clampFloatToBounds cmd.argument 1 MAX_FILE_BYTES)).1
  else if cmd.opcode = OP_PUSH_TEST_BYTE then
    (c.ingestChunk (some [UInt8.ofNat (clampFloatToBounds cmd.argument 0 255)])).1
  else if cmd.opcode = OP_FINALIZE_SESSION then c.finalizeSession.1
  else if cmd.opcode = OP_RESET_SESSION then
    c.resetSession.publishEvent Severity.INFO (ascii "FILE_RESET")
  else c.fail (ascii "FILE_BAD_OPCODE")

/-- Starts the component. -/
def init (c : FileTransferComponent) : FileTransferComponent :=
  c.resetSession.publishEvent Severity.INFO (ascii "FILE_READY")

/-- Executes the commands in the input port and reports the progress. -/
def step (c : FileTransferComponent) (cmds : List CommandPacket) (met : UInt32) :
    FileTransferComponent :=
  let c := cmds.foldl handleCommand c
  { c with toReporter := c.publishTelemetry met (Binary32.ofNat c.received_bytes_) }

end FileTransferComponent

/-- What can happen to the component. -/
inductive FileOp where
  | init
  | step (cmds : List CommandPacket) (met : UInt32)
  | beginSession (expected_bytes : ℕ)
  | ingestChunk (data : Option (List UInt8))
  | finalizeSession
  | readNextChunk (out : Bool) (max_len : ℕ)
  /-- Others send to and take from the queues behind the outputs. -/
  | outputs (event_out : Option (InputPort EventPacket DEFAULT_QUEUE_DEPTH))
    (telemetry_out : Option (InputPort (List UInt8) DEFAULT_QUEUE_DEPTH))

namespace FileTransferComponent

/-- The next state. -/
def apply (c : FileTransferComponent) : FileOp → FileTransferComponent
  | FileOp.init => c.init
  | FileOp.step cmds met => c.step cmds met
  | FileOp.beginSession expected_bytes => (c.beginSession expected_bytes).1
  | FileOp.ingestChunk data => (c.ingestChunk data).1
  | FileOp.finalizeSession => c.finalizeSession.1
  | FileOp.readNextChunk out max_len => (c.readNextChunk out max_len).1
  | FileOp.outputs event_out telemetry_out =>
    { c with toReporter := c.reconnect event_out telemetry_out }

/-! ## What the log tells -/

end FileTransferComponent

namespace FileAction

/-- Whether the file is empty after the call. -/
def startsOver : FileAction → Bool
  | began _ ok => ok
  | reset => true
  | _ => false

/-- The bytes that the call has added to the file. -/
def chunk : FileAction → List UInt8
  | ingested (some bytes) true => bytes
  | _ => []

/-- The bytes that the call has handed out. -/
def returned : FileAction → List UInt8
  | read bytes => bytes
  | _ => []

/-- What `part` takes from the calls since the file was last started over. -/
def sinceStart (part : FileAction → List UInt8) (log : List FileAction) : List UInt8 :=
  log.foldl (fun bytes action => if action.startsOver then [] else bytes ++ part action) []

/-- One more call in the log starts over or adds what it contributes. -/
theorem sinceStart_concat (part : FileAction → List UInt8) (log : List FileAction)
    (action : FileAction) :
    sinceStart part (log ++ [action]) =
      if action.startsOver then [] else sinceStart part log ++ part action := by
  unfold sinceStart
  rw [List.foldl_concat]

end FileAction

namespace FileTransferComponent

/-- The bytes of the file. -/
def stored (c : FileTransferComponent) : List UInt8 := (List.range c.received_bytes_).map c.storage_

/-- Buffer, counters, and session flag are the same. -/
structure SameSession (c c' : FileTransferComponent) : Prop where
  storage_eq : c'.storage_ = c.storage_
  expected_eq : c'.expected_bytes_ = c.expected_bytes_
  received_eq : c'.received_bytes_ = c.received_bytes_
  downlink_eq : c'.downlink_offset_ = c.downlink_offset_
  active_eq : c'.session_active_ = c.session_active_

/-- The buffer holds the accepted chunks, and its beginning has been handed out. -/
structure Reassembled (c : FileTransferComponent) : Prop where
  stored_eq : c.stored = FileAction.sinceStart FileAction.chunk c.log
  returned_eq :
    FileAction.sinceStart FileAction.returned c.log = c.stored.take c.downlink_offset_

/-! ## The calls -/

/-- Writing a chunk behind the first bytes appends it to them. -/
theorem map_range_store (storage : ℕ → UInt8) (offset : ℕ) (data : List UInt8) :
    (List.range (offset + data.length)).map (store storage offset data) =
      (List.range offset).map storage ++ data := by
  induction data generalizing storage offset with
  | nil => exact (List.append_nil _).symm
  | cons byte data ih =>
    -- The first byte is written to the offset, and the others behind it.
    have hbefore : (List.range offset).map (Function.update storage offset byte) =
        (List.range offset).map storage :=
      List.map_congr_left fun i hi => Function.update_of_ne (List.mem_range.mp hi).ne byte storage
    rw [List.length_cons, ← Nat.add_assoc, Nat.add_right_comm, store, ih, List.range_succ,
      List.map_append, hbefore, List.map_singleton, Function.update_self, List.append_assoc,
      List.singleton_append]

/-- A call that adds nothing, hands out nothing, and does not start over. -/
theorem Reassembled.of_same {c c' : FileTransferComponent} (h : c.Reassembled)
    (hsame : SameSession c c') (hlog : c'.log = c.log ∨ ∃ action : FileAction,
      c'.log = c.log ++ [action] ∧ action.startsOver = false ∧ action.chunk = [] ∧
        action.returned = []) : c'.Reassembled := by
  have hstored : c'.stored = c.stored := by
    unfold stored
    rw [hsame.storage_eq, hsame.received_eq]
  rcases hlog with hlog | ⟨action, hlog, hover, hchunk, hreturned⟩
  · refine ⟨?_, ?_⟩
    · rw [hstored, hlog, h.stored_eq]
    · rw [hstored, hlog, hsame.downlink_eq, h.returned_eq]
  · refine ⟨?_, ?_⟩
    · rw [hstored, hlog, FileAction.sinceStart_concat, hover, if_neg Bool.false_ne_true, hchunk,
        List.append_nil, h.stored_eq]
    · rw [hstored, hlog, FileAction.sinceStart_concat, hover, if_neg Bool.false_ne_true, hreturned,
        List.append_nil, hsame.downlink_eq, h.returned_eq]

/-- Reporting an error leaves the session alone. -/
theorem sameSession_fail (c : FileTransferComponent) (msg : Text) : SameSession c (c.fail msg) :=
  ⟨rfl, rfl, rfl, rfl, rfl⟩

/-- After a start the file is empty. -/
theorem reassembled_of_start {c : FileTransferComponent} {log : List FileAction}
    {action : FileAction} (hreceived : c.received_bytes_ = 0) (hlog : c.log = log ++ [action])
    (hover : action.startsOver = true) : c.Reassembled := by
  have hstored : c.stored = [] := by
    unfold stored
    rw [hreceived]
    rfl
  constructor
  · rw [hstored, hlog, FileAction.sinceStart_concat, if_pos hover]
  · rw [hstored, hlog, FileAction.sinceStart_concat, if_pos hover, List.take_nil]

/-- `beginSession` succeeds exactly for a size within the capacity, and changes nothing
otherwise. -/
theorem beginSession_spec (c : FileTransferComponent) (expected_bytes : ℕ) :
    ((c.beginSession expected_bytes).2 = true ↔
        expected_bytes ≠ 0 ∧ expected_bytes ≤ MAX_FILE_BYTES) ∧
      ((c.beginSession expected_bytes).2 = false → SameSession c (c.beginSession expected_bytes).1) ∧
      (c.Reassembled → (c.beginSession expected_bytes).1.Reassembled) := by
  unfold beginSession
  split_ifs with hbad
  · refine ⟨?_, fun _ => ⟨rfl, rfl, rfl, rfl, rfl⟩, fun h => ?_⟩
    · exact ⟨nofun, fun h => absurd hbad (not_or.mpr ⟨h.1, not_lt.mpr h.2⟩)⟩
    · exact h.of_same ⟨rfl, rfl, rfl, rfl, rfl⟩ (Or.inr ⟨_, rfl, rfl, rfl, rfl⟩)
  · refine ⟨?_, nofun, fun _ => reassembled_of_start rfl rfl rfl⟩
    simp only [true_iff]
    omega

/-- `ingestChunk` appends what it accepts and changes nothing otherwise. -/
theorem ingestChunk_spec (c : FileTransferComponent) (data : Option (List UInt8)) :
    ((c.ingestChunk data).2 = false → SameSession c (c.ingestChunk data).1) ∧
      (c.Reassembled → (c.ingestChunk data).1.Reassembled) := by
  have hrejected (msg : Text) (h : c.Reassembled) :
      ((c.fail msg).note (FileAction.ingested data false)).Reassembled := by
    refine h.of_same ⟨rfl, rfl, rfl, rfl, rfl⟩ (Or.inr ⟨_, rfl, rfl, ?_, rfl⟩)
    cases data <;> rfl
  unfold ingestChunk
  split
  · exact ⟨fun _ => ⟨rfl, rfl, rfl, rfl, rfl⟩, hrejected _⟩
  · rename_i bytes
    dsimp only
    split_ifs
    · exact ⟨fun _ => ⟨rfl, rfl, rfl, rfl, rfl⟩, hrejected _⟩
    · exact ⟨fun _ => ⟨rfl, rfl, rfl, rfl, rfl⟩, hrejected _⟩
    · exact ⟨fun _ => ⟨rfl, rfl, rfl, rfl, rfl⟩, hrejected _⟩
    · refine ⟨nofun, fun h => ?_⟩
      have hstored : (List.range (c.received_bytes_ + bytes.length)).map
          (store c.storage_ c.received_bytes_ bytes) = c.stored ++ bytes :=
        map_range_store c.storage_ c.received_bytes_ bytes
      constructor
      · change (List.range (c.received_bytes_ + bytes.length)).map
            (store c.storage_ c.received_bytes_ bytes) = FileAction.sinceStart _ (c.log ++ [_])
        rw [hstored, FileAction.sinceStart_concat, h.stored_eq]
        rfl
      · change FileAction.sinceStart _ (c.log ++ [_]) =
          ((List.range (c.received_bytes_ + bytes.length)).map
            (store c.storage_ c.received_bytes_ bytes)).take c.downlink_offset_
        -- What has been handed out lies before the new chunk.
        have hle : c.downlink_offset_ ≤ c.stored.length := by
          unfold stored
          rw [List.length_map, List.length_range]
          exact c.downlink_le
        rw [hstored, List.take_append_of_le_length hle, FileAction.sinceStart_concat,
          ← h.returned_eq]
        exact List.append_nil _

/-- `finalizeSession` succeeds exactly when a session is active and complete, and changes nothing
otherwise. -/
theorem finalizeSession_spec (c : FileTransferComponent) :
    (c.finalizeSession.2 = true ↔
        c.session_active_ = true ∧ c.received_bytes_ = c.expected_bytes_) ∧
      (c.finalizeSession.2 = false → SameSession c c.finalizeSession.1) ∧
      (c.Reassembled → c.finalizeSession.1.Reassembled) := by
  unfold finalizeSession
  split_ifs with hactive hsize
  · refine ⟨by simp [hactive], fun _ => ⟨rfl, rfl, rfl, rfl, rfl⟩, fun h => ?_⟩
    exact h.of_same ⟨rfl, rfl, rfl, rfl, rfl⟩ (Or.inr ⟨_, rfl, rfl, rfl, rfl⟩)
  · refine ⟨by simp [hsize], fun _ => ⟨rfl, rfl, rfl, rfl, rfl⟩, fun h => ?_⟩
    exact h.of_same ⟨rfl, rfl, rfl, rfl, rfl⟩ (Or.inr ⟨_, rfl, rfl, rfl, rfl⟩)
  · refine ⟨by simpa using ⟨Bool.eq_true_of_not_eq_false hactive, not_not.mp hsize⟩, nofun,
      fun h => ?_⟩
    -- Only the session flag changes, which the file does not depend on.
    constructor
    · change c.stored = FileAction.sinceStart _ (c.log ++ [_])
      rw [FileAction.sinceStart_concat, h.stored_eq]
      exact (List.append_nil _).symm
    · change FileAction.sinceStart _ (c.log ++ [_]) = c.stored.take c.downlink_offset_
      rw [FileAction.sinceStart_concat, ← h.returned_eq]
      exact List.append_nil _

/-- `readNextChunk` hands out the next bytes of the file, and changes nothing when it hands out
none. -/
theorem readNextChunk_spec (c : FileTransferComponent) (out : Bool) (max_len : ℕ) :
    ((c.readNextChunk out max_len).2 = [] → SameSession c (c.readNextChunk out max_len).1) ∧
      (c.Reassembled → (c.readNextChunk out max_len).1.Reassembled) := by
  unfold readNextChunk
  split_ifs with hnone
  · refine ⟨fun _ => ⟨rfl, rfl, rfl, rfl, rfl⟩, fun h => ?_⟩
    exact h.of_same ⟨rfl, rfl, rfl, rfl, rfl⟩ (Or.inr ⟨_, rfl, rfl, rfl, rfl⟩)
  · dsimp only
    set n := if c.received_bytes_ - c.downlink_offset_ < max_len then
      c.received_bytes_ - c.downlink_offset_ else max_len with hn
    have hlt : c.downlink_offset_ < c.received_bytes_ := not_le.mp (not_or.mp (not_or.mp hnone).2).2
    have hmax : max_len ≠ 0 := (not_or.mp (not_or.mp hnone).2).1
    -- At least one byte is handed out, and none behind the last one received.
    have hpos : 0 < n ∧ n ≤ c.received_bytes_ - c.downlink_offset_ := by
      rw [hn]
      split_ifs <;> omega
    refine ⟨fun hempty => ?_, fun h => ⟨?_, ?_⟩⟩
    · have hlen := congrArg List.length hempty
      rw [List.length_map, List.length_range, List.length_nil] at hlen
      omega
    · change c.stored = FileAction.sinceStart _ (c.log ++ [_])
      rw [FileAction.sinceStart_concat, h.stored_eq]
      exact (List.append_nil _).symm
    · change FileAction.sinceStart _ (c.log ++ [_]) = c.stored.take (c.downlink_offset_ + n)
      rw [FileAction.sinceStart_concat, if_neg (by exact Bool.false_ne_true), h.returned_eq,
        List.take_add]
      congr 1
      -- The bytes at the offset are those of the file behind what has been handed out.
      have hsplit : List.range c.received_bytes_ = List.range c.downlink_offset_ ++
          (List.range (c.received_bytes_ - c.downlink_offset_)).map (c.downlink_offset_ + ·) := by
        rw [← List.range_add, Nat.add_sub_cancel' c.downlink_le]
      have hdrop : c.stored.drop c.downlink_offset_ =
          (List.range (c.received_bytes_ - c.downlink_offset_)).map
            fun i => c.storage_ (c.downlink_offset_ + i) := by
        unfold stored
        rw [hsplit, List.map_append, List.drop_left' (by simp), List.map_map]
        rfl
      rw [hdrop, ← List.map_take, List.take_range, min_eq_left hpos.2]
      rfl

/-! ## Runs -/

/-- Commands keep the file together. -/
theorem Reassembled.handleCommand {c : FileTransferComponent} (h : c.Reassembled)
    (cmd : CommandPacket) : (c.handleCommand cmd).Reassembled := by
  unfold FileTransferComponent.handleCommand
  split_ifs
  · exact (c.beginSession_spec _).2.2 h
  · exact (c.ingestChunk_spec _).2 h
  · exact c.finalizeSession_spec.2.2 h
  · exact reassembled_of_start rfl rfl rfl
  · exact h.of_same (c.sameSession_fail _) (Or.inl rfl)

/-- Calls keep the file together. -/
theorem Reassembled.apply {c : FileTransferComponent} (h : c.Reassembled) (op : FileOp) :
    (c.apply op).Reassembled := by
  cases op with
  | init => exact reassembled_of_start rfl rfl rfl
  | step cmds met =>
    have hstep (c : FileTransferComponent) (cmd : CommandPacket) (hc : c.Reassembled) :
        (c.handleCommand cmd).Reassembled := hc.handleCommand cmd
    have hcommands : (cmds.foldl FileTransferComponent.handleCommand c).Reassembled :=
      run_invariant hstep h cmds
    exact hcommands.of_same ⟨rfl, rfl, rfl, rfl, rfl⟩ (Or.inl rfl)
  | beginSession expected_bytes => exact (c.beginSession_spec expected_bytes).2.2 h
  | ingestChunk data => exact (c.ingestChunk_spec data).2 h
  | finalizeSession => exact c.finalizeSession_spec.2.2 h
  | readNextChunk out max_len => exact (c.readNextChunk_spec out max_len).2 h
  | outputs event_out telemetry_out => exact h.of_same ⟨rfl, rfl, rfl, rfl, rfl⟩ (Or.inl rfl)

/-- File transfer over every run: the bytes of the file are the chunks that were accepted since the
file was last started over, the offsets are ordered and within the buffer, and the bytes handed out
since then are the beginning of the file up to the read offset. A session closes exactly when it is
active and complete, and a call that reports a failure leaves the session alone. -/
theorem reassembly (base : Component) (ops : List FileOp) :
    let c := run apply (create base) ops
    c.stored = FileAction.sinceStart FileAction.chunk c.log ∧
      c.received_bytes_ ≤ c.expected_bytes_ ∧ c.expected_bytes_ ≤ MAX_FILE_BYTES ∧
      c.downlink_offset_ ≤ c.received_bytes_ ∧
      FileAction.sinceStart FileAction.returned c.log = c.stored.take c.downlink_offset_ ∧
      (c.finalizeSession.2 = true ↔
        c.session_active_ = true ∧ c.received_bytes_ = c.expected_bytes_) ∧
      (∀ expected_bytes, (c.beginSession expected_bytes).2 = false →
        SameSession c (c.beginSession expected_bytes).1) ∧
      (∀ data, (c.ingestChunk data).2 = false → SameSession c (c.ingestChunk data).1) ∧
      (c.finalizeSession.2 = false → SameSession c c.finalizeSession.1) ∧
      (∀ out max_len, (c.readNextChunk out max_len).2 = [] →
        SameSession c (c.readNextChunk out max_len).1) ∧
      ∀ cmd, cmd.opcode ∉ [OP_BEGIN_SESSION, OP_PUSH_TEST_BYTE, OP_FINALIZE_SESSION,
        OP_RESET_SESSION] → SameSession c (c.handleCommand cmd) := by
  intro c
  have hcreate : (create base).Reassembled := ⟨rfl, rfl⟩
  have hstep (c : FileTransferComponent) (op : FileOp) (hc : c.Reassembled) :
      (c.apply op).Reassembled := hc.apply op
  have h : c.Reassembled := run_invariant hstep hcreate ops
  refine ⟨h.stored_eq, c.received_le, c.expected_le, c.downlink_le, h.returned_eq,
    c.finalizeSession_spec.1, fun n => (c.beginSession_spec n).2.1,
    fun data => (c.ingestChunk_spec data).1, c.finalizeSession_spec.2.1,
    fun out max_len => (c.readNextChunk_spec out max_len).1, fun cmd hop => ?_⟩
  simp only [List.mem_cons, List.not_mem_nil, or_false, not_or] at hop
  unfold handleCommand
  rw [if_neg hop.1, if_neg hop.2.1, if_neg hop.2.2.1, if_neg hop.2.2.2]
  exact c.sameSession_fail _

end FileTransferComponent

end DeltaV
