import DeltaV.Lib.LittleEndian
import DeltaV.Types
import Mathlib.Data.List.DropRight
import Mathlib.Data.List.Infix

/-!
# The ground data system

What the dashboard sends and receives: `sendCommand` packs an uplink frame, and `udpListener` is one
round of the loop that takes datagrams from the downlink port and appends telemetry rows and event
lines to two files. Python numbers are unbounded, so the registers of `crc16` are natural numbers.
The dictionary maps a component id to the name in its entry, and the clock gives the time as it is
written into the files.
-/

namespace DeltaV

namespace Gds

/-! ## Formats -/

/-- The field sizes of the format `<IHHH`. -/
def HEADER_FMT : List ℕ := [4, 2, 2, 2]

/-- The field sizes of the format `<IIf`. -/
def CMD_FMT : List ℕ := [4, 4, 4]

/-- The field sizes of the format `>H`. -/
def CRC_FMT : List ℕ := [2]

def CCSDS_SYNC_WORD : ℕ := 0x1ACFFC1D

/-- `struct.unpack` of a header. -/
def unpackHeader (data : List UInt8) : ℕ × ℕ × ℕ × ℕ :=
  (le (slice data 0 4), le (slice data 4 2), le (slice data 6 2), le (slice data 8 2))

/-- `struct.unpack` of a telemetry payload. -/
def unpackTelem (data : List UInt8) : ℕ × ℕ × Binary32 :=
  (le (slice data 0 4), le (slice data 4 4), ⟨UInt32.ofNat (le (slice data 8 4))⟩)

/-- `struct.unpack` of an event payload. -/
def unpackEvent (data : List UInt8) : ℕ × ℕ × List UInt8 :=
  (le (slice data 0 4), le (slice data 4 4), slice data 8 28)

/-- `struct.unpack` of a checksum, most significant byte first. -/
def unpackCrc (data : List UInt8) : ℕ := le (data.take 2).reverse

/-- A number with four decimal places, as `:.4f` formats it: the exact value rounded to nearest,
ties to even. -/
def fixed4 (x : Binary32) : Text :=
  let sign := if x.neg then ascii "-" else []
  if x.IsNaN then ascii "nan"
  else if ¬x.IsFinite then sign ++ ascii "inf"
  else
    let num := 10^4 * Binary32.ulps x.mag
    let q := num / 2^149
    let r := num % 2^149
    let units := if 2 * r < 2^149 then q else if 2 * r = 2^149 then q + q % 2 else q + 1
    let places := decimal (units % 10^4)
    sign ++ decimal (units / 10^4) ++ ascii "." ++ List.replicate (4 - places.length) 48 ++ places

/-! ## Checksum -/

/-- One bit of the checksum. -/
def crc16Bit (crc : ℕ) : ℕ :=
  if crc &&& 0x8000 ≠ 0 then (crc <<< 1) ^^^ 0x1021 else crc <<< 1

/-- One byte of the checksum: the register is cut to 16 bits after its eight bits. -/
def crc16Byte (crc : ℕ) (byte : UInt8) : ℕ := crc16Bit^[8] (crc ^^^ (byte.toNat <<< 8)) &&& 0xFFFF

/-- The checksum of a payload. -/
def crc16 (data : List UInt8) : ℕ := data.foldl crc16Byte 0xFFFF

end Gds

/-! ## State -/

/-- The dashboard: the counter of its session, the mission state that it shows, and its two
files. -/
structure Gds where
  uplink_seq : ℕ
  mission_state : Text
  data_file : Text
  event_file : Text
deriving DecidableEq, Repr

namespace Gds

/-- The dashboard after its start. -/
def create : Gds := ⟨0, ascii "NOMINAL", ascii "Time,Component,Value\n", []⟩

/-- The name of a component. -/
def compName (components : ℕ → Option Text) (comp_id : ℕ) : Text :=
  (components comp_id).getD (ascii "COMP_" ++ decimal comp_id)

/-- The name of a severity. -/
def severityName (severity : ℕ) : Text :=
  if severity = 1 then ascii "INFO"
  else if severity = 2 then ascii "WARN"
  else if severity = 3 then ascii "CRIT"
  else ascii "SEV" ++ decimal severity

/-- The mission state that an event names. -/
def parseStateFromEvent (msg : Text) : Option Text :=
  if ascii "NOMINAL" <:+: msg then some (ascii "NOMINAL")
  else if ascii "DEGRADED" <:+: msg then some (ascii "DEGRADED")
  else if ascii "SAFE_MODE" <:+: msg then some (ascii "SAFE_MODE")
  else if ascii "EMERGENCY" <:+: msg then some (ascii "EMERGENCY")
  else none

/-- `decode("ascii", errors="ignore").rstrip("\x00")`. -/
def decodeMessage (msg_b : List UInt8) : Text :=
  (msg_b.filter fun c => c < 0x80).rdropWhile fun c => c = 0

/-! ## Uplink -/

/-- The frame of a command, and the dashboard after counting it; `none` when a number does not fit
its field. -/
def sendCommand (g : Gds) (target_id opcode : ℕ) (argument : Binary32) :
    Option (Gds × List UInt8) :=
  if target_id < 2^32 ∧ opcode < 2^32 then
    let payload := packLE (CMD_FMT.zip [target_id, opcode, argument.bits.toNat])
    let header :=
      packLE (HEADER_FMT.zip [CCSDS_SYNC_WORD, 30, g.uplink_seq &&& 0xFFFF, payload.length])
    some ({ g with uplink_seq := g.uplink_seq + 1 }, header ++ payload)
  else none

/-! ## Downlink -/

/-- Shows the state that an event names, if it names one. -/
def showState (g : Gds) (msg : Text) : Gds :=
  match parseStateFromEvent msg with
  | some state => { g with mission_state := state }
  | none => g

/-- The row of a telemetry packet. -/
def telemetryRow (components : ℕ → Option Text) (ts : Text) (comp_id : ℕ) (value : Binary32) :
    Text :=
  ts ++ ascii "," ++ compName components comp_id ++ ascii "," ++ fixed4 value ++ ascii "\n"

/-- The line of an event. -/
def eventLine (components : ℕ → Option Text) (ts : Text) (severity src_id : ℕ) (msg : Text) :
    Text :=
  ascii "[" ++ ts ++ ascii "][" ++ severityName severity ++ ascii "][" ++
    compName components src_id ++ ascii "] " ++ msg ++ ascii "\n"

/-- One datagram from the downlink port. -/
def udpListener (components : ℕ → Option Text) (g : Gds) (ts : Text) (datagram : List UInt8) :
    Gds :=
  let data := datagram.take 2048
  let hdr_sz := HEADER_FMT.sum
  let crc_sz := CRC_FMT.sum
  if data.length < hdr_sz + crc_sz then g
  else
    let (sync, apid, _, plen) := unpackHeader (data.take hdr_sz)
    let payload := slice data hdr_sz plen
    let crc_bytes := slice data (hdr_sz + plen) crc_sz
    if sync ≠ CCSDS_SYNC_WORD then g
    else if crc_bytes.length = crc_sz ∧ crc16 payload ≠ unpackCrc crc_bytes then g
    else if apid = 10 ∧ 12 ≤ payload.length then
      let (_, comp_id, value) := unpackTelem (payload.take 12)
      { g with data_file := g.data_file ++ telemetryRow components ts comp_id value }
    else if apid = 20 ∧ 36 ≤ payload.length then
      let (severity, src_id, msg_b) := unpackEvent (payload.take 36)
      let msg := decodeMessage msg_b
      let g := g.showState msg
      { g with event_file := g.event_file ++ eventLine components ts severity src_id msg }
    else g

end Gds

end DeltaV
