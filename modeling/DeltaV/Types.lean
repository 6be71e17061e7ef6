import DeltaV.Lib.Binary32
import Mathlib.Data.List.TakeWhile

/-!
# Packets

The packets of the wire protocol, with the fields of the packed structures. A message array holds
text followed by zero bytes, so it is modelled by the text, which leaves room for the terminator.
Formatted text is built from `ascii` literals, `decimal` numbers, and `fixed1` decimals, and
`snprintf` cuts it to the size of its buffer.
-/

namespace DeltaV

/-! ## Text -/

/-- The bytes of a string, without a terminator. -/
abbrev Text := List UInt8

-- With a name, so that a membership test of texts is the same term in every module.
instance : LawfulBEq Text := inferInstance

/-- The bytes of a literal. -/
def ascii (s : String) : Text := s.toList.map fun c => c.val.toUInt8

/-- A number in decimal, as `%u` prints it. -/
def decimal (n : ℕ) : Text := (Nat.toDigits 10 n).map fun c => c.val.toUInt8

/-- A number with one decimal place, as `%.1f` prints it: the exact value rounded to nearest, ties
to even. -/
def fixed1 (x : Binary32) : Text :=
  let sign := if x.neg then ascii "-" else []
  if x.IsNaN then sign ++ ascii "nan"
  else if ¬x.IsFinite then sign ++ ascii "inf"
  else
    let num := 10 * Binary32.ulps x.mag
    let q := num / 2^149
    let r := num % 2^149
    let tenths := if 2 * r < 2^149 then q else if 2 * r = 2^149 then q + q % 2 else q + 1
    sign ++ decimal (tenths / 10) ++ ascii "." ++ decimal (tenths % 10)

/-- The bytes of an array up to its first zero byte. -/
def cstr (t : Text) : Text := t.takeWhile (· ≠ 0)

/-- What `snprintf` leaves in a buffer of the given size. -/
def snprintf (size : ℕ) (t : Text) : Text := t.take (size - 1)

/-! ## Packets -/

/-- The size of the message array of an event. -/
def EVENT_MSG_SIZE : ℕ := 28

/-- The primary header of an uplink or downlink frame. -/
structure CcsdsHeader where
  sync_word : UInt32
  apid : UInt16
  seq_count : UInt16
  payload_len : UInt16
deriving DecidableEq, Repr

/-- A telemetry packet. -/
structure TelemetryPacket where
  timestamp_ms : UInt32
  component_id : UInt32
  data_payload : Binary32
deriving DecidableEq, Repr, Inhabited

/-- An uplink command packet. -/
structure CommandPacket where
  target_id : UInt32
  opcode : UInt32
  argument : Binary32
deriving DecidableEq, Repr, Inhabited

/-- An asynchronous event. -/
structure EventPacket where
  severity : UInt32
  source_id : UInt32
  message : Text
  /-- The text leaves room for its terminator. -/
  fits : message.length < EVENT_MSG_SIZE
deriving DecidableEq, Repr

namespace EventPacket

instance : Inhabited EventPacket := ⟨⟨0, 0, [], by decide⟩⟩

/-- An event with as much of the message as fits. -/
def create (sev src : UInt32) (msg : Text) : EventPacket where
  severity := sev
  source_id := src
  message := (cstr msg).take (EVENT_MSG_SIZE - 1)
  fits := by
    have h := List.length_take_le (EVENT_MSG_SIZE - 1) (cstr msg)
    exact Nat.lt_of_le_of_lt h (by decide)

/-- A text without zeros is cut to what fits. -/
theorem message_create {msg : Text} (h : ∀ c ∈ msg, c ≠ 0) (sev src : UInt32) :
    (create sev src msg).message = msg.take (EVENT_MSG_SIZE - 1) := by
  have hcstr : cstr msg = msg := List.takeWhile_eq_self_iff.mpr fun c hc => decide_eq_true (h c hc)
  exact congrArg (List.take _) hcstr

end EventPacket

namespace Severity

def INFO : UInt32 := 1

def WARNING : UInt32 := 2

def CRITICAL : UInt32 := 3

end Severity

namespace Apid

def TELEMETRY : UInt16 := 10

def EVENT : UInt16 := 20

def COMMAND : UInt16 := 30

end Apid

/-- The word every frame starts with. -/
def CCSDS_SYNC_WORD : UInt32 := 0x1ACFFC1D

example : fixed1 (Binary32.ofNat 15) = ascii "15.0" := by decide +kernel

end DeltaV
