import DeltaV.Component
import DeltaV.Port
import DeltaV.Lib.Runs

/-!
# The update session

`OtaComponent` collects the bytes of an update image, compares its length and CRC with the announced
ones, and writes the image and a manifest to two files. `image_` is the part of the buffer that has
been received, so its length is `received_bytes_`. A conversion of a float without a defined result
takes its result from `UndefinedCast`, and each call of `stageActivate` is told by `StageHost` how
the file operations end. The log, newest entry first, keeps the verified images and what is written.
-/

namespace DeltaV

/-- The results of the float conversions that the language leaves undefined. -/
structure UndefinedCast where
  u16 : Binary32 → UInt16
  u32 : Binary32 → UInt32

/-- How the operations on one file end. -/
structure FileResult where
  is_open : Bool
  /-- The number of the written bytes that reach the file. -/
  stored : ℕ
  good : Bool
deriving DecidableEq, Repr

/-- The files that a call of `stageActivate` opens. -/
structure StageHost where
  artifact : FileResult
  manifest : FileResult
deriving DecidableEq, Repr

/-- What the log records. -/
inductive OtaAction where
  /-- The image passed verification with the CRC. -/
  | verified (image : List UInt8) (crc : UInt32)
  /-- The bytes given to the artifact file. -/
  | wroteArtifact (bytes : List UInt8)
  /-- The text given to the manifest file. -/
  | wroteManifest (text : Text)
deriving DecidableEq, Repr

/-- The capacity of the image buffer. -/
def MAX_IMAGE_BYTES : ℕ := 65536

/-- The update session manager. -/
structure OtaComponent where
  base : Component
  /-- The queue that `event_out` is connected to. -/
  event_out : Option (InputPort EventPacket DEFAULT_QUEUE_DEPTH)
  /-- The received bytes. -/
  image_ : List UInt8
  received_le : image_.length ≤ MAX_IMAGE_BYTES
  expected_bytes_ : ℕ
  expected_crc_ : UInt32
  crc_hi16_ : UInt16
  crc_lo16_ : UInt16
  session_active_ : Bool
  image_verified_ : Bool
  reboot_requested_ : Bool
  /-- The contents of the artifact file; `none` when there is no file. -/
  artifact_file : Option (List UInt8)
  /-- The contents of the manifest file; `none` when there is no file. -/
  manifest_file : Option Text
  log : List OtaAction

namespace OtaComponent

def OP_BEGIN_SESSION : UInt32 := 1

def OP_PUSH_TEST_BYTE : UInt32 := 2

def OP_SET_EXPECTED_CRC_HI16 : UInt32 := 3

def OP_SET_EXPECTED_CRC_LO16 : UInt32 := 4

def OP_VERIFY_IMAGE : UInt32 := 5

def OP_STAGE_ACTIVATE : UInt32 := 6

def OP_RESET_SESSION : UInt32 := 7

/-! ## Helpers -/

/-- One bit of the CRC register. -/
def crc32Bit (crc : UInt32) : UInt32 := (crc >>> 1) ^^^ (0xEDB88320 &&& (0 - (crc &&& 1)))

/-- One byte of the CRC register. -/
def crc32Byte (crc : UInt32) (byte : UInt8) : UInt32 :=
  (List.range 8).foldl (fun crc _ => crc32Bit crc) (crc ^^^ byte.toUInt32)

/-- The CRC of the bytes. -/
def crc32 (data : List UInt8) : UInt32 := ~~~(data.foldl crc32Byte 0xFFFFFFFF)

example : crc32 (ascii "123456789") = 0xCBF43926 := by decide +kernel

/-- A float as a 16-bit word: clamped to the range and truncated. -/
def sanitizeU16 (cast : UndefinedCast) (value : Binary32) : UInt16 :=
  if value < Binary32.ofNat 0 then 0
  else if Binary32.ofNat 65535 < value then 65535
  else
    match value.toUnsigned 16 with
    | some n => UInt16.ofNat n
    | none => cast.u16 value

/-- A float as a byte count: clamped to the capacity and truncated. -/
def sanitizeByteCount (cast : UndefinedCast) (value : Binary32) : UInt32 :=
  if value < Binary32.ofNat 0 then 0
  else if Binary32.ofNat MAX_IMAGE_BYTES < value then UInt32.ofNat MAX_IMAGE_BYTES
  else
    match value.toUnsigned 32 with
    | some n => UInt32.ofNat n
    | none => cast.u32 value

/-- A number in hexadecimal, as `std::hex` prints it. -/
def hexadecimal (n : ℕ) : Text := (Nat.toDigits 16 n).map fun c => c.val.toUInt8

/-- The text of the manifest. -/
def manifestText (bytes : ℕ) (crc : UInt32) : Text :=
  ascii "bytes=" ++ decimal bytes ++ ascii "\n" ++ ascii "crc32=0x" ++ hexadecimal crc.toNat ++
    ascii "\n"

/-! ## Operations -/

/-- The number of bytes received in the session. -/
def received_bytes_ (c : OtaComponent) : ℕ := c.image_.length

/-- `isRebootRequested()`. -/
def isRebootRequested (c : OtaComponent) : Bool := c.reboot_requested_

/-- A component as constructed, with the files that are there. -/
def create (base : Component) (event_out : Option (InputPort EventPacket DEFAULT_QUEUE_DEPTH))
    (artifact_file : Option (List UInt8)) (manifest_file : Option Text) : OtaComponent :=
  { base := base
    event_out := event_out
    image_ := []
    received_le := Nat.zero_le _
    expected_bytes_ := 0
    expected_crc_ := 0
    crc_hi16_ := 0
    crc_lo16_ := 0
    session_active_ := false
    image_verified_ := false
    reboot_requested_ := false
    artifact_file := artifact_file
    manifest_file := manifest_file
    log := [] }

/-- Counts one error. -/
def recordError (c : OtaComponent) : OtaComponent := { c with base := c.base.recordError }

/-- Sends an event. -/
def publishEvent (c : OtaComponent) (severity : UInt32) (msg : Text) : OtaComponent :=
  let r := c.base.sendOrRecordError c.event_out (EventPacket.create severity c.base.id msg)
  { c with base := r.1, event_out := r.2 }

/-- Ends the session. -/
def resetSession (c : OtaComponent) : OtaComponent :=
  { c with
    expected_bytes_ := 0
    image_ := []
    received_le := Nat.zero_le _
    expected_crc_ := 0
    crc_hi16_ := 0
    crc_lo16_ := 0
    session_active_ := false
    image_verified_ := false
    reboot_requested_ := false }

/-- Starts the component. -/
def init (c : OtaComponent) : OtaComponent :=
  c.resetSession.publishEvent Severity.INFO (ascii "OTA_READY")

/-- Appends a chunk to the image; the flag says whether it was accepted. `none` is the null
pointer. -/
def ingestChunk (c : OtaComponent) (data : Option (List UInt8)) : OtaComponent × Bool :=
  match data with
  | none => (c.recordError, false)
  | some bytes =>
    if c.session_active_ = false ∨ bytes.length = 0 then (c.recordError, false)
    else if h : MAX_IMAGE_BYTES < c.received_bytes_ + bytes.length then (c.recordError, false)
    else
      ({ c with
         image_ := c.image_ ++ bytes
         received_le := by
           rw [List.length_append]
           exact not_lt.mp h }, true)

/-- Opens a session for an image of the given size. -/
def beginSession (c : OtaComponent) (expected : ℕ) : OtaComponent :=
  if expected = 0 ∨ MAX_IMAGE_BYTES < expected then
    c.recordError.publishEvent Severity.WARNING (ascii "OTA_BAD_SIZE")
  else
    { c with
      expected_bytes_ := expected
      image_ := []
      received_le := Nat.zero_le _
      image_verified_ := false
      reboot_requested_ := false
      session_active_ := true }.publishEvent Severity.INFO (ascii "OTA_SESSION")

/-- Sets the upper half of the expected CRC. -/
def setExpectedCrcHi16 (c : OtaComponent) (word : UInt16) : OtaComponent :=
  { c with
    crc_hi16_ := word
    expected_crc_ := word.toUInt32 <<< 16 ||| c.crc_lo16_.toUInt32 }.publishEvent Severity.INFO
      (ascii "OTA_CRC_HI")

/-- Sets the lower half of the expected CRC. -/
def setExpectedCrcLo16 (c : OtaComponent) (word : UInt16) : OtaComponent :=
  { c with
    crc_lo16_ := word
    expected_crc_ := c.crc_hi16_.toUInt32 <<< 16 ||| word.toUInt32 }.publishEvent Severity.INFO
      (ascii "OTA_CRC_LO")

/-- Compares the image with the announced length and CRC. -/
def verifyImage (c : OtaComponent) : OtaComponent :=
  if c.session_active_ = false ∨ c.received_bytes_ = 0 then
    c.recordError.publishEvent Severity.WARNING (ascii "OTA_VERIFY_FAIL")
  else if c.expected_bytes_ ≠ 0 ∧ c.received_bytes_ ≠ c.expected_bytes_ then
    { c.recordError.publishEvent Severity.WARNING (ascii "OTA_SIZE_MISMATCH") with
      image_verified_ := false }
  else if crc32 c.image_ = c.expected_crc_ then
    { c with
      image_verified_ := true
      log := OtaAction.verified c.image_ c.expected_crc_ :: c.log }.publishEvent Severity.INFO
        (ascii "OTA_VERIFIED")
  else
    { c with image_verified_ := false }.recordError.publishEvent Severity.WARNING
      (ascii "OTA_CRC_FAIL")

/-- Reports a file operation that failed. -/
def stageFail (c : OtaComponent) : OtaComponent :=
  c.recordError.publishEvent Severity.WARNING (ascii "OTA_STAGE_FAIL")

/-- Opening truncates the artifact file, and the image is written to it. -/
def writeArtifact (c : OtaComponent) (file : FileResult) : OtaComponent :=
  { c with
    artifact_file := some (c.image_.take file.stored)
    log := OtaAction.wroteArtifact c.image_ :: c.log }

/-- Opening truncates the manifest file, and the length and the CRC are written to it. -/
def writeManifest (c : OtaComponent) (file : FileResult) : OtaComponent :=
  let text := manifestText c.received_bytes_ c.expected_crc_
  { c with
    manifest_file := some (text.take file.stored)
    log := OtaAction.wroteManifest text :: c.log }

/-- Writes the image and its manifest, and requests the reboot. -/
def stageActivate (c : OtaComponent) (host : StageHost) : OtaComponent :=
  if c.image_verified_ = false then
    c.recordError.publishEvent Severity.WARNING (ascii "OTA_NOT_VERIFIED")
  else if host.artifact.is_open = false then c.stageFail
  else
    let c := c.writeArtifact host.artifact
    if host.artifact.good = false then c.stageFail
    else if host.manifest.is_open = false then c.stageFail
    else
      let c := c.writeManifest host.manifest
      if host.manifest.good = false then c.stageFail
      else
        { c with reboot_requested_ := true }.publishEvent Severity.INFO (ascii "OTA_REBOOT_REQ")

/-- Executes a command. -/
def handleCommand (cast : UndefinedCast) (c : OtaComponent) (cmd : CommandPacket)
    (host : StageHost) : OtaComponent :=
  if cmd.opcode = OP_BEGIN_SESSION then
    c.beginSession (sanitizeByteCount cast cmd.argument).toNat
  else if cmd.opcode = OP_PUSH_TEST_BYTE then
    (c.ingestChunk (some [(sanitizeU16 cast cmd.argument).toUInt8])).1
  else if cmd.opcode = OP_SET_EXPECTED_CRC_HI16 then
    c.setExpectedCrcHi16 (sanitizeU16 cast cmd.argument)
  else if cmd.opcode = OP_SET_EXPECTED_CRC_LO16 then
    c.setExpectedCrcLo16 (sanitizeU16 cast cmd.argument)
  else if cmd.opcode = OP_VERIFY_IMAGE then c.verifyImage
  else if cmd.opcode = OP_STAGE_ACTIVATE then c.stageActivate host
  else if cmd.opcode = OP_RESET_SESSION then
    c.resetSession.publishEvent Severity.INFO (ascii "OTA_RESET")
  else c.recordError.publishEvent Severity.WARNING (ascii "OTA_BAD_OPCODE")

end OtaComponent

/-- What can happen to the component after `init()`. -/
inductive OtaOp where
  | handleCommand (cmd : CommandPacket) (host : StageHost)
  | ingestChunk (data : Option (List UInt8))
  /-- Others send to and take from the queue behind `event_out`. -/
  | eventPort (event_out : Option (InputPort EventPacket DEFAULT_QUEUE_DEPTH))

/-- The next state. -/
def OtaComponent.apply (cast : UndefinedCast) (c : OtaComponent) : OtaOp → OtaComponent
  | OtaOp.handleCommand cmd host => c.handleCommand cast cmd host
  | OtaOp.ingestChunk data => (c.ingestChunk data).1
  | OtaOp.eventPort event_out => { c with event_out := event_out }

end DeltaV
