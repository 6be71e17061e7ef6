import DeltaV.Component
import DeltaV.Lib.LittleEndian
import DeltaV.Port

/-!
# The uplink side of the telemetry bridge

A frame reaches `processIncomingFrame` either as a datagram or through the KISS parser of the serial
link, one byte at a time. The replay state is the last accepted sequence number, which the host
build also writes to a file. Multi-byte fields are little-endian, as the host lays them out. The log
keeps the frames that the parser hands on or drops and the commands that the bridge accepts.
-/

namespace DeltaV

/-! ## Frames -/

/-- The size of a frame header. -/
def CCSDS_HEADER_SIZE : ℕ := 10

/-- The size of a command packet. -/
def COMMAND_PACKET_SIZE : ℕ := 12

/-- The size of an uplink frame. -/
def UPLINK_FRAME_SIZE : ℕ := CCSDS_HEADER_SIZE + COMMAND_PACKET_SIZE

/-- The header at the start of a frame. -/
def CcsdsHeader.decode (data : List UInt8) : CcsdsHeader where
  sync_word := UInt32.ofNat (le (slice data 0 4))
  apid := UInt16.ofNat (le (slice data 4 2))
  seq_count := UInt16.ofNat (le (slice data 6 2))
  payload_len := UInt16.ofNat (le (slice data 8 2))

/-- The command packet after the header of a frame. -/
def CommandPacket.decode (data : List UInt8) : CommandPacket where
  target_id := UInt32.ofNat (le (slice data CCSDS_HEADER_SIZE 4))
  opcode := UInt32.ofNat (le (slice data (CCSDS_HEADER_SIZE + 4) 4))
  argument := ⟨UInt32.ofNat (le (slice data (CCSDS_HEADER_SIZE + 8) 4))⟩

/-- The bytes of a command frame. -/
def commandFrame (seq : UInt16) (cmd : CommandPacket) : List UInt8 :=
  leBytes 4 CCSDS_SYNC_WORD.toNat ++ leBytes 2 Apid.COMMAND.toNat ++ leBytes 2 seq.toNat ++
    leBytes 2 COMMAND_PACKET_SIZE ++ leBytes 4 cmd.target_id.toNat ++ leBytes 4 cmd.opcode.toNat ++
    leBytes 4 cmd.argument.bits.toNat

/-! ## The state -/

/-- The commands that one call takes at most. -/
def MAX_CMDS_PER_TICK : ℕ := 20

def KISS_FEND : UInt8 := 0xC0

def KISS_FESC : UInt8 := 0xDB

def KISS_TFEND : UInt8 := 0xDC

def KISS_TFESC : UInt8 := 0xDD

def KISS_CMD_DATA : UInt8 := 0x00

/-- The most bytes of a decoded KISS frame. -/
def MAX_KISS_DECODED_FRAME : ℕ := UPLINK_FRAME_SIZE + 1

/-- Whether the parser is inside a frame. -/
inductive SerialParseState where
  | IDLE
  | IN_FRAME
deriving DecidableEq, Repr

/-- The KISS parser: its state, a pending escape, and the bytes decoded so far. -/
structure SerialParser where
  state : SerialParseState
  escape : Bool
  frame_buf : List UInt8
  frame_len_le : frame_buf.length ≤ MAX_KISS_DECODED_FRAME
deriving DecidableEq, Repr

/-- The file of the replay state, and what the host does with it. -/
structure ReplayFile where
  /-- Whether the heap is locked, which disables the file. -/
  heap_armed : Bool
  /-- Whether no path is configured. -/
  path_empty : Bool
  /-- Whether opening for writing succeeds. -/
  can_open : Bool
  /-- Whether writing succeeds. -/
  can_write : Bool
  /-- The bytes in the file; `none` when there is no file. -/
  content : Option Text
deriving DecidableEq, Repr

/-- What the log records. -/
inductive BridgeAction where
  /-- The parser handed on a decoded frame. -/
  | decoded (frame : List UInt8)
  /-- The parser dropped a frame. -/
  | dropped
  /-- A command was accepted. -/
  | accepted (seq : UInt16) (cmd : CommandPacket)
deriving DecidableEq, Repr

/-- The telemetry bridge, as far as the uplink reads and writes it. -/
structure TelemetryBridge where
  base : Component
  /-- The queue that `command_out` is connected to. -/
  command_out : Option (InputPort CommandPacket DEFAULT_QUEUE_DEPTH)
  last_uplink_seq : UInt32
  first_uplink : Bool
  rejected_count : UInt32
  replay_file : ReplayFile
  serial : SerialParser
  log : List BridgeAction

/-! ## KISS encoding -/

/-- Appends a byte, escaped if it must be; `none` when it does not fit. -/
def pushKissEscaped (byte : UInt8) (out_cap : ℕ) (out : List UInt8) : Option (List UInt8) :=
  if byte = KISS_FEND then
    if out_cap < out.length + 2 then none else some (out ++ [KISS_FESC, KISS_TFEND])
  else if byte = KISS_FESC then
    if out_cap < out.length + 2 then none else some (out ++ [KISS_FESC, KISS_TFESC])
  else if out_cap < out.length + 1 then none
  else some (out ++ [byte])

/-- The KISS encoding of a frame in a buffer of the given capacity; `none` is length zero. -/
def encodeKissFrame (frame : List UInt8) (out_cap : ℕ) : Option (List UInt8) :=
  if frame = [] ∨ out_cap < 3 then none
  else
    match frame.foldlM (fun out byte => pushKissEscaped byte out_cap out)
      [KISS_FEND, KISS_CMD_DATA] with
    | none => none
    | some out => if out_cap < out.length + 1 then none else some (out ++ [KISS_FEND])

/-! ## KISS decoding -/

/-- What the parser does besides changing its state. -/
inductive SerialOutput where
  | nothing
  | deliver (frame : List UInt8)
  | drop
deriving DecidableEq, Repr

namespace SerialParser

/-- The parser at the start of a frame. -/
def start : SerialParser := ⟨SerialParseState.IN_FRAME, false, [], Nat.zero_le _⟩

/-- The parser outside a frame. -/
def idle : SerialParser := ⟨SerialParseState.IDLE, false, [], Nat.zero_le _⟩

/-- Stores a decoded byte, or drops the frame when the buffer is full. -/
def store (p : SerialParser) (value : UInt8) : SerialParser × SerialOutput :=
  if h : p.frame_buf.length < MAX_KISS_DECODED_FRAME then
    ({ p with
       frame_buf := p.frame_buf ++ [value]
       frame_len_le := by
         rw [List.length_append, List.length_singleton]
         exact h }, SerialOutput.nothing)
  else (idle, SerialOutput.drop)

/-- The parser's part of `processSerialByte`. -/
def feed (p : SerialParser) (byte : UInt8) : SerialParser × SerialOutput :=
  if byte = KISS_FEND then
    if p.state = SerialParseState.IN_FRAME ∧ p.frame_buf ≠ [] then
      (start, SerialOutput.deliver p.frame_buf)
    else (start, SerialOutput.nothing)
  else if p.state ≠ SerialParseState.IN_FRAME then (p, SerialOutput.nothing)
  else if p.escape then
    if byte = KISS_TFEND then store { p with escape := false } KISS_FEND
    else if byte = KISS_TFESC then store { p with escape := false } KISS_FESC
    else (idle, SerialOutput.drop)
  else if byte = KISS_FESC then ({ p with escape := true }, SerialOutput.nothing)
  else p.store byte

end SerialParser

namespace TelemetryBridge

/-- A bridge as constructed, without a stored sequence number. -/
def create (base : Component) (replay_file : ReplayFile) : TelemetryBridge :=
  { base := base
    command_out := none
    last_uplink_seq := 0
    first_uplink := true
    rejected_count := 0
    replay_file := replay_file
    serial := SerialParser.idle
    log := [] }

/-- Counts one error. -/
def recordError (b : TelemetryBridge) : TelemetryBridge := { b with base := b.base.recordError }

/-- Counts one rejection. -/
def reject (b : TelemetryBridge) : TelemetryBridge :=
  { b with rejected_count := b.rejected_count + 1 }

/-- Writes the last accepted sequence number to the file: opening truncates it. -/
def persistReplayState (b : TelemetryBridge) : TelemetryBridge :=
  if b.replay_file.heap_armed then b
  else if b.replay_file.path_empty then b
  else if b.replay_file.can_open = false then b.recordError
  else if b.replay_file.can_write = false then
    { b with replay_file := { b.replay_file with content := some [] } }.recordError
  else
    { b with
      replay_file := { b.replay_file with
        content := some (decimal b.last_uplink_seq.toNat ++ ascii "\n") } }

/-- `command_out.send(cmd)`. -/
def sendCommand (b : TelemetryBridge) (cmd : CommandPacket) : TelemetryBridge × Bool :=
  match b.command_out with
  | none => (b, false)
  | some port => ({ b with command_out := some (port.receive cmd).1 }, (port.receive cmd).2)

def SEQ_WRAP_HIGH : UInt32 := 0xFF00

def SEQ_WRAP_LOW : UInt32 := 0x0100

/-- The replay test: the number is not new and does not wrap. -/
def isReplay (b : TelemetryBridge) (new_seq : UInt32) : Bool :=
  let wrapped := decide (SEQ_WRAP_HIGH < b.last_uplink_seq) && decide (new_seq < SEQ_WRAP_LOW)
  !b.first_uplink && !wrapped && decide (new_seq ≤ b.last_uplink_seq)

/-- Validates a frame and dispatches its command. -/
def processIncomingFrame (b : TelemetryBridge) (data : List UInt8) : TelemetryBridge × Bool :=
  let hdr := CcsdsHeader.decode data
  let new_seq := hdr.seq_count.toUInt32
  let cmd := CommandPacket.decode data
  if data.length ≠ UPLINK_FRAME_SIZE then (b.reject, false)
  else if hdr.sync_word ≠ CCSDS_SYNC_WORD then (b.reject, false)
  else if hdr.apid ≠ Apid.COMMAND then (b.reject, false)
  else if hdr.payload_len.toNat ≠ COMMAND_PACKET_SIZE then (b.reject, false)
  else if b.isReplay new_seq then (b.reject, false)
  else if (b.sendCommand cmd).2 = false then ((b.sendCommand cmd).1.reject.recordError, false)
  else
    ({ (b.sendCommand cmd).1 with
       first_uplink := false
       last_uplink_seq := new_seq
       log := b.log ++ [BridgeAction.accepted hdr.seq_count cmd] }.persistReplayState, true)

/-- Checks the command byte of a decoded KISS frame and passes on the rest. -/
def processDecodedKissFrame (b : TelemetryBridge) (decoded : List UInt8) :
    TelemetryBridge × Bool :=
  let b := { b with log := b.log ++ [BridgeAction.decoded decoded] }
  match decoded with
  | command :: frame =>
    if frame = [] then (b.reject, false)
    else if command &&& 0x0F ≠ KISS_CMD_DATA then (b.reject, false)
    else b.processIncomingFrame frame
  | [] => (b.reject, false)

/-- Takes one byte from the serial link; the flag says whether a frame was handed on. -/
def processSerialByte (b : TelemetryBridge) (byte : UInt8) : TelemetryBridge × Bool :=
  let r := b.serial.feed byte
  match r.2 with
  | SerialOutput.nothing => ({ b with serial := r.1 }, false)
  | SerialOutput.deliver frame => (({ b with serial := r.1 }.processDecodedKissFrame frame).1, true)
  | SerialOutput.drop =>
    ({ b with serial := r.1, log := b.log ++ [BridgeAction.dropped] }.reject.recordError, false)

end TelemetryBridge

end DeltaV
