import DeltaV.TimeSync

/-!
# Time arithmetic in range

The ground sends any word of 64 bits as a UTC time, and the time service reads it as a signed one.
The offset is a signed difference and the UTC time a signed sum, and both can leave the range of the
type: the first when a negative time is less than `2^63` before the mission time, the second when the
clock runs past the last UTC time that a signed word holds (`sync_in_range_iff`).
-/

namespace DeltaV

/-- The result of a signed operation of 64 bits is in range. -/
def InInt64 (z : ℤ) : Prop := -2^63 ≤ z ∧ z < 2^63

instance (z : ℤ) : Decidable (InInt64 z) := inferInstanceAs (Decidable (_ ∧ _))

/-- The difference of signed words is exact when it is in range. -/
theorem toInt_sub_of_inInt64 {a b : Int64} (h : InInt64 (a.toInt - b.toInt)) :
    (a - b).toInt = a.toInt - b.toInt := by
  obtain ⟨hlo, hhi⟩ := h
  rw [Int64.toInt_sub]
  exact Int.bmod_eq_of_le (by omega) (by omega)

namespace TimeSyncComponent

/-- A synchronisation and a later reading of the clock. For all words and times, the difference that
sets the offset and the sum that gives the UTC time are in range exactly when the time sent is not
more than `2^63` before the mission time, and the time that has passed does not carry it to `2^63`
or beyond. -/
theorem sync_in_range_iff (c : TimeSyncComponent) (cmd : CommandPacket)
    (hopcode : cmd.opcode = OP_APPLY_SYNC) (ms : ℕ) :
    let target := c.composeUtcMs.toInt64
    let later := (c.handleCommand cmd).time.tick ms
    (InInt64 (target.toInt - c.time.met_ms.toInt64.toInt) ∧
        InInt64 (later.met_ms.toInt64.toInt + later.utc_offset_ms.toInt)) ↔
      -2^63 ≤ target.toInt - c.time.met_ms.toNat ∧
        later.met_ms.toNat + (target.toInt - c.time.met_ms.toNat) < 2^63 := by
  intro target later
  have htarget : target.toInt < 2^63 := target.toInt_lt
  have hlater : later.met_ms.toInt64.toInt = later.met_ms.toNat := toInt_toInt64 later.met_lt
  have hoffset : later.utc_offset_ms = target - c.time.met_ms.toInt64 := by
    change (c.handleCommand cmd).time.utc_offset_ms = _
    rw [time_applySync c hopcode]
    rfl
  have hmet : c.time.met_ms.toInt64.toInt = c.time.met_ms.toNat := toInt_toInt64 c.time.met_lt
  -- The clock does not go back, so the sum is not below the offset.
  have hmono : c.time.met_ms.toNat ≤ later.met_ms.toNat := by
    have hlt := c.time.met_lt
    change _ ≤ (UInt64.ofNat (min ((c.handleCommand cmd).time.met_ms.toNat + ms) (2^63 - 1))).toNat
    rw [time_applySync c hopcode, UInt64.toNat_ofNat', Nat.mod_eq_of_lt (by omega)]
    change _ ≤ min (c.time.met_ms.toNat + ms) (2^63 - 1)
    omega
  rw [hlater, hoffset]
  constructor
  · rintro ⟨hsub, hadd⟩
    rw [toInt_sub_of_inInt64 hsub, hmet] at hadd
    rw [hmet] at hsub
    exact ⟨hsub.1, hadd.2⟩
  · rintro ⟨hsub, hadd⟩
    have hin : InInt64 (target.toInt - c.time.met_ms.toInt64.toInt) := by
      rw [hmet]
      exact ⟨hsub, by omega⟩
    rw [toInt_sub_of_inInt64 hin, hmet]
    rw [hmet] at hin
    exact ⟨hin, by omega, hadd⟩

/-- The component after a time has been staged and the clock has been set. -/
def stagedTime (utc_ms met_ms : ℕ) : TimeSyncComponent :=
  run apply (create (Component.create (ascii "TimeSync") 43))
    ((List.finRange 4).map (fun i => TimeSyncOp.handleCommand
        ⟨43, setOpcode i, Binary32.ofNat (word utc_ms i)⟩) ++
      [TimeSyncOp.service (TimeService.initEpoch.tick met_ms)])

/-- A time of the year 2026, and a day. -/
theorem sync_in_range_iff_day :
    let c := stagedTime 1767225600000 60000
    let later := (c.handleCommand ⟨43, OP_APPLY_SYNC, Binary32.ofNat 0⟩).time.tick 86400000
    InInt64 (c.composeUtcMs.toInt64.toInt - c.time.met_ms.toInt64.toInt) ∧
      InInt64 (later.met_ms.toInt64.toInt + later.utc_offset_ms.toInt) :=
  (sync_in_range_iff (stagedTime 1767225600000 60000) ⟨43, OP_APPLY_SYNC, Binary32.ofNat 0⟩ rfl
    86400000).mpr (by decide +kernel)

/-- The time `2^63`, sent after a millisecond, and the time `2^63 - 1`, read after one. -/
theorem sync_out_of_range :
    let early := stagedTime (2^63) 1
    let late := stagedTime (2^63 - 1) 0
    let later := (late.handleCommand ⟨43, OP_APPLY_SYNC, Binary32.ofNat 0⟩).time.tick 1
    early.composeUtcMs.toInt64.toInt = -2^63 ∧
      ¬InInt64 (early.composeUtcMs.toInt64.toInt - early.time.met_ms.toInt64.toInt) ∧
      ¬InInt64 (later.met_ms.toInt64.toInt + later.utc_offset_ms.toInt) := by
  decide +kernel

end TimeSyncComponent

end DeltaV
