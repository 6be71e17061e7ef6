import DeltaV.Ground.Agreement
import DeltaV.Lib.Bursts

/-!
# Errors in a downlink payload

The polynomial of the downlink checksum has its lowest bit, so a payload in which up to 16
consecutive bits have changed has another checksum (`Serializer.burst_detected`). The ground then
does not find the checksum that came with the payload.
-/

namespace DeltaV

namespace Serializer

open Crc

/-- The checksum tells payloads apart that differ only in a burst of up to 16 bits. -/
theorem crc16_ne_of_burst {a b : List UInt8} (hlen : a.length = b.length) (hne : a ≠ b)
    (start : ℕ) (hburst : ∀ i, (bits a)[i]? ≠ (bits b)[i]? → start ≤ i ∧ i < start + 16) :
    crc16 a ≠ crc16 b := by
  intro h
  have hnum := congrArg UInt16.toNat h
  rw [crc16_eq, crc16_eq] at hnum
  exact pushes_ne_of_burst (by decide) (by decide) _ hlen hne start hburst
    (BitVec.eq_of_toNat_eq hnum)

/-- A payload that differs from the one sent only in a burst of up to 16 bits has another checksum,
and this is not the one in the frame. -/
theorem burst_detected {a b : List UInt8} (hlen : a.length = b.length) (hne : a ≠ b) (start : ℕ)
    (hburst : ∀ i, (bits a)[i]? ≠ (bits b)[i]? → start ≤ i ∧ i < start + 16) :
    crc16 a ≠ crc16 b ∧
      ∀ apid seq, a.length < 65536 →
        Gds.crc16 b ≠ Gds.unpackCrc (Gds.checksum (buildFrame apid seq a)) := by
  have hcrc := crc16_ne_of_burst hlen hne start hburst
  refine ⟨hcrc, fun apid seq hfits h => hcrc ?_⟩
  rw [(Gds.payload_buildFrame apid seq hfits).2, Gds.unpackCrc_bytes,
    Gds.crc16_eq_serializer] at h
  exact (UInt16.toNat.inj h).symm

/-- A burst over three bytes. -/
theorem straddling_burst_detected :
    crc16 [0x31, 0x32, 0x33, 0x34] ≠ crc16 [0x31, 0x33, 0xCC, 0xB4] ∧
      ∀ apid seq, [0x31, 0x32, 0x33, 0x34].length < 65536 →
        Gds.crc16 [0x31, 0x33, 0xCC, 0xB4] ≠
          Gds.unpackCrc (Gds.checksum (buildFrame apid seq [0x31, 0x32, 0x33, 0x34])) := by
  refine burst_detected rfl (by decide) 10 fun i hi => ?_
  have hlow : ∀ i < 10, (bits [0x31, 0x32, 0x33, 0x34])[i]? =
      (bits [0x31, 0x33, 0xCC, 0xB4])[i]? := by decide +kernel
  have hhigh : (bits [0x31, 0x32, 0x33, 0x34]).drop 26 =
      (bits [0x31, 0x33, 0xCC, 0xB4]).drop 26 := by decide +kernel
  constructor
  · by_contra hlt
    exact hi (hlow i (not_le.mp hlt))
  · by_contra hge
    obtain ⟨k, rfl⟩ := Nat.exists_eq_add_of_le (not_lt.mp hge)
    have hbit := congrArg (·[k]?) hhigh
    simp only [List.getElem?_drop] at hbit
    exact hi hbit

end Serializer

end DeltaV
