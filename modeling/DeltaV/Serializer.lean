import DeltaV.Lib.Crc
import DeltaV.Lib.LittleEndian
import DeltaV.Types

/-!
# The serializer

Packets as the bytes that the host lays them out in, and the checksum of a downlink payload, which
is computed in a register of 32 bits that is cut to 16 after every bit.
-/

namespace DeltaV

namespace Serializer

def CRC_INITIAL_VAL : UInt32 := 0xFFFF

def CRC_POLY : UInt32 := 0x1021

def CRC_HIGH_BIT : UInt32 := 0x8000

def CRC_MASK : UInt32 := 0xFFFF

def BITS_PER_BYTE : ℕ := 8

/-- `pack` of a telemetry packet. -/
def packTelem (p : TelemetryPacket) : List UInt8 :=
  packLE [(4, p.timestamp_ms.toNat), (4, p.component_id.toNat), (4, p.data_payload.bits.toNat)]

/-- `unpackTelem`. -/
def unpackTelem (bytes : List UInt8) : TelemetryPacket where
  timestamp_ms := UInt32.ofNat (le (slice bytes 0 4))
  component_id := UInt32.ofNat (le (slice bytes 4 4))
  data_payload := ⟨UInt32.ofNat (le (slice bytes 8 4))⟩

/-- `pack` of an event: zeros fill up the message array. -/
def packEvent (p : EventPacket) : List UInt8 :=
  packLE [(4, p.severity.toNat), (4, p.source_id.toNat)] ++ p.message ++
    List.replicate (EVENT_MSG_SIZE - p.message.length) 0

/-- One bit of the checksum. -/
def crc16Bit (crc : UInt32) : UInt32 :=
  (if crc &&& CRC_HIGH_BIT ≠ 0 then (crc <<< 1) ^^^ CRC_POLY else crc <<< 1) &&& CRC_MASK

/-- One byte of the checksum. -/
def crc16Byte (crc : UInt32) (byte : UInt8) : UInt32 :=
  crc16Bit^[BITS_PER_BYTE] (crc ^^^ (byte.toUInt32 <<< 8))

/-- The checksum of some bytes. -/
def crc16 (data : List UInt8) : UInt16 := (data.foldl crc16Byte CRC_INITIAL_VAL).toUInt16

/-- A packed telemetry packet has 12 bytes. -/
@[simp] theorem length_packTelem (p : TelemetryPacket) : (packTelem p).length = 12 := by
  rw [packTelem, length_packLE]
  rfl

/-- A packed event has 36 bytes. -/
@[simp] theorem length_packEvent (p : EventPacket) : (packEvent p).length = 36 := by
  have hfits : p.message.length < 28 := p.fits
  rw [packEvent, List.length_append, List.length_append, List.length_replicate, length_packLE]
  simp only [List.map_cons, List.map_nil, List.sum_cons, List.sum_nil, EVENT_MSG_SIZE]
  omega

/-! ## The checksum as a register -/

open Crc

/-- A mask of one bit tests the bit. -/
theorem and_high_bit (n : ℕ) : n &&& 0x8000 ≠ 0 ↔ n.testBit 15 = true := by
  rw [show 0x8000 = 2^15 from rfl, Nat.and_two_pow]
  cases n.testBit 15 <;> decide

/-- One bit of the checksum moves up the register. -/
theorem register_crc16Bit (crc : UInt32) :
    register 16 (crc16Bit crc).toNat = shift (register 16 0x1021) (register 16 crc.toNat) := by
  have hmask : ∀ x : UInt32, register 16 (x &&& CRC_MASK).toNat = register 16 x.toNat := by
    intro x
    have hcut : (x &&& CRC_MASK).toNat = x.toNat % 2^16 := Nat.and_two_pow_sub_one_eq_mod _ 16
    rw [hcut, register_mod le_rfl]
  have hup : register 16 (crc <<< 1).toNat = register 16 (crc.toNat <<< 1) :=
    register_mod (by decide) _
  have htop : crc &&& CRC_HIGH_BIT ≠ 0 ↔ crc.toNat.testBit 15 = true := by
    rw [← and_high_bit, Ne, ← UInt32.toNat_inj, UInt32.toNat_and]
    rfl
  have hpoly : CRC_POLY.toNat = 0x1021 := rfl
  rw [crc16Bit, hmask, ← register_natShift (by decide), natShift]
  split_ifs with h1 h2 h2
  · rw [UInt32.toNat_xor, register_xor, hup, hpoly, register_xor]
  · exact absurd (htop.mp h1) h2
  · exact absurd (htop.mpr h2) h1
  · exact hup

/-- The checksum is what the register holds after the message. -/
theorem crc16_eq (data : List UInt8) :
    (crc16 data).toNat = (pushes (register 16 0x1021) (register 16 0xFFFF) data).toNat := by
  have henter : ∀ (crc : UInt32) (byte : UInt8),
      register 16 (crc ^^^ (byte.toUInt32 <<< 8)).toNat =
        register 16 crc.toNat ^^^ register 16 (byte.toNat <<< (16 - 8)) := by
    intro crc byte
    rw [UInt32.toNat_xor, register_xor]
    congr 1
    exact register_mod (by decide) _
  have hreg := reg_foldl (fun crc : UInt32 => register 16 crc.toNat) id henter register_crc16Bit
    (fun _ => rfl) data CRC_INITIAL_VAL
  rw [crc16, UInt32.toNat_toUInt16]
  exact congrArg BitVec.toNat hreg

end Serializer

end DeltaV
