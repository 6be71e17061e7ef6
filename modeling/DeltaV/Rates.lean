import DeltaV.Conversions
import DeltaV.MemoryDwell
import DeltaV.Recorder.Playback

/-!
# Channels, periods, and rates

The dwell component converts a channel and a period in milliseconds, and playback an interval in
milliseconds, which is 1000 divided by a rate. Only the channel is compared with anything that
excludes infinities and NaNs, and nothing is compared with a largest value, so the conversions are
defined exactly below the limits of `conversions_total_iff`. The smallest period and the smallest
interval are kept in any case.
-/

namespace DeltaV

/-- The number is finite, and it is in the range of 32 unsigned bits. -/
def Binary32.InWord (x : Binary32) : Prop :=
  x.IsFinite ∧ Binary32.ofNat 0 ≤ x ∧ x < Binary32.ofNat (2^32)

instance (x : Binary32) : Decidable x.InWord := inferInstanceAs (Decidable (_ ∧ _ ∧ _))

namespace MemoryDwellComponent

/-- The float that a period is converted from. -/
def scaledPeriod (argument : Binary32) : Binary32 :=
  (if argument ≤ Binary32.ofNat 0 then ⟨0x3E800000⟩ else argument) * Binary32.ofNat 1000

/-- The floats that `handleCommand` converts to 32 bits. -/
def casts (cmd : CommandPacket) : List Binary32 :=
  if cmd.opcode = OP_SELECT_CHANNEL then
    if ¬cmd.argument.IsFinite ∨ cmd.argument < Binary32.ofNat 0 then [] else [cmd.argument]
  else if cmd.opcode = OP_SET_PERIOD_SECONDS then [scaledPeriod cmd.argument]
  else []

/-- The conversions are applied to what fits, and a period that is set is at least 50 ms. -/
structure Total (cmd : CommandPacket) : Prop where
  casts : ∀ x ∈ casts cmd, x.InWord
  period : cmd.opcode = OP_SET_PERIOD_SECONDS → ∀ cast (c : MemoryDwellComponent),
    50 ≤ (c.handleCommand cast cmd).period_ms_

end MemoryDwellComponent

namespace PlaybackComponent

/-- The floats that `handleCommand` converts to 32 bits. -/
def casts (cmd : CommandPacket) : List Binary32 :=
  if cmd.opcode = OP_SET_RATE_HZ then
    if cmd.argument ≤ Binary32.ofNat 0 then [] else [Binary32.ofNat 1000 / cmd.argument]
  else []

/-- The conversions are applied to what fits, and an interval that is set is at least 20 ms. -/
structure Total (cmd : CommandPacket) : Prop where
  casts : ∀ x ∈ casts cmd, x.InWord
  interval : cmd.opcode = OP_SET_RATE_HZ → ∀ cast (c : PlaybackComponent) file,
    20 ≤ (c.handleCommand cast cmd file).interval_ms_

end PlaybackComponent

/-! ## Numbers in the range -/

namespace Binary32

/-- Without a sign, only the size matters. -/
theorem inWord_iff {x : Binary32} (hx : x.neg = false) :
    x.InWord ↔ x.mag < (ofNat (2^32)).mag := by
  have hlimit : (ofNat (2^32)).mag < infMag ∧ (ofNat (2^32)).neg = false := by decide +kernel
  obtain ⟨hfinite, hneg⟩ := hlimit
  constructor
  · rintro ⟨h, -, hlt⟩
    exact (lt_iff_mag_lt hx hneg h.not_isNaN (IsFinite.not_isNaN hfinite)).mp hlt
  · intro hlt
    have h : x.IsFinite := hlt.trans hfinite
    refine ⟨h, ⟨not_isNaN_ofNat_zero, h.not_isNaN, ?_⟩,
      (lt_iff_mag_lt hx hneg h.not_isNaN (IsFinite.not_isNaN hfinite)).mpr hlt⟩
    rw [key_ofNat_zero, key_eq_mag hx]
    exact Int.natCast_nonneg _

/-- A number that is rounded from a size. -/
theorem inWord_ofMag_iff (m : ℕ) : (ofMag false m).InWord ↔ m < (ofNat (2^32)).mag := by
  have hlimit : (ofNat (2^32)).mag < infMag := by decide +kernel
  rw [inWord_iff (neg_ofMag_false m), mag_ofMag]
  omega

end Binary32

/-- In the range, the conversion is defined. -/
theorem Binary32.InWord.defined {x : Binary32} (h : x.InWord) : (FloatCast.mk 32 x).Defined := by
  obtain ⟨hfinite, hlo, hhi⟩ := h
  by_cases hzero : x ≤ Binary32.ofNat 0
  · exact defined_of_le (by norm_num) (by norm_num) hlo hzero
  · have hlimit : (Binary32.ofNat (2^32)).IsFinite ∧
        (Binary32.ofNat (2^32)).units ≤ 2^32 * 2^149 := by decide +kernel
    have hsome := toUnsigned_of_clamped hlimit.1 hlimit.2 hfinite hzero (Binary32.not_le_of_lt hhi)
    by_contra hundefined
    rw [toUnsigned_eq_none_iff.mpr hundefined] at hsome
    cases hsome

/-- In the range, the results of undefined conversions do not matter. -/
theorem castUInt32_congr {x : Binary32} (h : x.InWord) (cast cast' : Binary32 → UInt32) :
    castUInt32 cast x = castUInt32 cast' x := by
  have hsome : x.toUnsigned 32 ≠ none := fun hnone => toUnsigned_eq_none_iff.mp hnone h.defined
  obtain ⟨n, hn⟩ := Option.ne_none_iff_exists'.mp hsome
  rw [castUInt32, castUInt32, hn]

/-- Where a function that grows passes a bound. -/
theorem lt_iff_of_monotone (f : ℕ → ℕ) {last bound : ℕ} (hf : Monotone f) (hlast : f last < bound)
    (hnext : bound ≤ f (last + 1)) (n : ℕ) : f n < bound ↔ n ≤ last := by
  constructor
  · intro hlt
    by_contra hgt
    have hle : f (last + 1) ≤ f n := hf (not_le.mp hgt)
    omega
  · intro hle
    exact (hf hle).trans_lt hlast

/-- Where a function that falls above zero passes a bound. -/
theorem lt_iff_of_antitone (f : ℕ → ℕ) {last bound n : ℕ} (hf : ∀ k m, 0 < k → k ≤ m → f m ≤ f k)
    (hlast : bound ≤ f last) (hnext : f (last + 1) < bound) (hn : 0 < n) :
    f n < bound ↔ last < n := by
  constructor
  · intro hlt
    by_contra hge
    have hle : f last ≤ f n := hf n last hn (not_lt.mp hge)
    omega
  · intro hlt
    exact (hf (last + 1) n (Nat.succ_pos _) hlt).trans_lt hnext

/-! ## Periods -/

namespace MemoryDwellComponent

/-- The period is that of the scaled argument, and at least 50 ms. -/
theorem periodMs_eq (cast : Binary32 → UInt32) (argument : Binary32) :
    periodMs cast argument =
      if castUInt32 cast (scaledPeriod argument) < 50 then 50
      else castUInt32 cast (scaledPeriod argument) := rfl

/-- A period is at least 50 ms. -/
theorem le_periodMs (cast : Binary32 → UInt32) (argument : Binary32) :
    50 ≤ periodMs cast argument := by
  rw [periodMs_eq]
  split_ifs with h
  · exact UInt32.le_refl _
  · exact UInt32.not_lt.mp h

/-- The greatest period that can be converted is 4294967 s; the next number of seconds is rounded
to `2^32` ms. -/
theorem inWord_scaledPeriod_iff (argument : Binary32) :
    (scaledPeriod argument).InWord ↔ argument ≤ Binary32.ofNat 4294967 := by
  have hlimit : Binary32.ofNat 0 ≤ Binary32.ofNat 4294967 ∧
      (Binary32.ofNat 4294967).IsFinite ∧ (Binary32.ofNat 4294967).neg = false := by
    decide +kernel
  have hscale : (Binary32.ofNat 1000).IsFinite ∧ (Binary32.ofNat 1000).neg = false := by
    decide +kernel
  unfold scaledPeriod
  by_cases hle : argument ≤ Binary32.ofNat 0
  · -- A quarter of a second.
    rw [if_pos hle]
    exact iff_of_true (by decide +kernel) (Binary32.le_trans' hle hlimit.1)
  rw [if_neg hle]
  by_cases hnan : argument.IsNaN
  · have hproduct : argument * Binary32.ofNat 1000 = Binary32.nan := if_pos (Or.inl hnan)
    rw [hproduct]
    exact iff_of_false (by decide) fun h => h.1 hnan
  obtain ⟨hneg, hpos⟩ := Binary32.neg_eq_false_of_pos
    (Binary32.lt_of_not_le hnan Binary32.not_isNaN_ofNat_zero hle)
  rw [Binary32.le_iff_mag_le hneg hlimit.2.2 hnan hlimit.2.1.not_isNaN]
  by_cases hfinite : argument.IsFinite
  · rw [Binary32.mul_eq_ofMag hfinite hscale.1 hneg hscale.2, Binary32.inWord_ofMag_iff]
    refine lt_iff_of_monotone (fun m => Binary32.roundQuot
      (Binary32.ulps m * Binary32.ulps (Binary32.ofNat 1000).mag) (2^149)) (fun m n hmn => ?_)
      ?_ ?_ _
    · have hpow : 0 < 2^149 := by positivity
      exact Binary32.roundQuot_le_roundQuot hpow hpow (Nat.mul_le_mul_right _
        (Nat.mul_le_mul_right _ (Binary32.ulps_strictMono.monotone hmn)))
    · decide +kernel
    · decide +kernel
  · -- An infinity stays one.
    have hinf : argument.mag = Binary32.infMag := by
      unfold Binary32.IsNaN at hnan
      unfold Binary32.IsFinite at hfinite
      omega
    have hproduct : argument * Binary32.ofNat 1000 = Binary32.ofMag false Binary32.infMag := by
      change Binary32.mul _ _ = _
      rw [Binary32.mul, if_neg (not_or.mpr ⟨hnan, hscale.1.not_isNaN⟩), if_pos (Or.inl hfinite),
        if_neg (not_or.mpr ⟨hpos.ne', by decide +kernel⟩), hneg, hscale.2]
      rfl
    rw [hproduct, hinf]
    exact iff_of_false (by decide +kernel) (by decide +kernel)

/-- A command whose conversions are in range has one effect. -/
theorem handleCommand_congr {cmd : CommandPacket} (h : ∀ x ∈ casts cmd, x.InWord)
    (cast cast' : Binary32 → UInt32) (c : MemoryDwellComponent) :
    c.handleCommand cast cmd = c.handleCommand cast' cmd := by
  by_cases hselect : cmd.opcode = OP_SELECT_CHANNEL
  · rw [handleCommand, handleCommand, if_pos hselect, if_pos hselect, selectChannel, selectChannel]
    rw [casts, if_pos hselect] at h
    split_ifs at h ⊢ with hguard
    · rfl
    · rw [castUInt32_congr (h _ (List.mem_singleton_self _)) cast cast']
  by_cases hperiod : cmd.opcode = OP_SET_PERIOD_SECONDS
  · rw [casts, if_neg hselect, if_pos hperiod] at h
    rw [handleCommand, handleCommand, if_neg hselect, if_neg hselect, if_pos hperiod,
      if_pos hperiod, periodMs_eq, periodMs_eq,
      castUInt32_congr (h _ (List.mem_singleton_self _)) cast cast']
  · rw [handleCommand, handleCommand, if_neg hselect, if_neg hselect, if_neg hperiod,
      if_neg hperiod]

/-- The conversions are in range exactly below the limits of the channel and the period. -/
theorem total_iff (cmd : CommandPacket) :
    Total cmd ↔
      (cmd.opcode = OP_SELECT_CHANNEL → cmd.argument.IsFinite →
        cmd.argument < Binary32.ofNat (2^32)) ∧
      (cmd.opcode = OP_SET_PERIOD_SECONDS → cmd.argument ≤ Binary32.ofNat 4294967) := by
  have hperiod : cmd.opcode = OP_SET_PERIOD_SECONDS → ∀ cast (c : MemoryDwellComponent),
      50 ≤ (c.handleCommand cast cmd).period_ms_ := by
    intro hop cast c
    have hselect : cmd.opcode ≠ OP_SELECT_CHANNEL := by
      rw [hop]
      decide
    rw [handleCommand, if_neg hselect, if_pos hop]
    exact le_periodMs cast cmd.argument
  have hcasts : Total cmd ↔ ∀ x ∈ casts cmd, x.InWord := ⟨fun h => h.casts, fun h => ⟨h, hperiod⟩⟩
  have hne : OP_SELECT_CHANNEL ≠ OP_SET_PERIOD_SECONDS := by decide
  rw [hcasts, casts]
  split_ifs with hselect hguard hop
  · -- A channel that is refused is not converted.
    refine iff_of_true (List.forall_mem_nil _)
      ⟨fun _ hfinite => ?_, fun hop => absurd (hselect.symm.trans hop) hne⟩
    have hneg := hguard.resolve_left (not_not_intro hfinite)
    exact ⟨hneg.1, by decide +kernel, hneg.2.2.trans (by decide +kernel)⟩
  · obtain ⟨hfinite, hneg⟩ := not_or.mp hguard
    rw [not_not] at hfinite
    have hlo := Binary32.le_of_not_lt hfinite.not_isNaN Binary32.not_isNaN_ofNat_zero hneg
    rw [List.forall_mem_singleton]
    constructor
    · exact fun h => ⟨fun _ _ => h.2.2, fun hop => absurd (hselect.symm.trans hop) hne⟩
    · exact fun h => ⟨hfinite, hlo, h.1 hselect hfinite⟩
  · rw [List.forall_mem_singleton, inWord_scaledPeriod_iff]
    exact ⟨fun h => ⟨fun hop' => absurd hop' hselect, fun _ => h⟩, fun h => h.2 hop⟩
  · exact iff_of_true (List.forall_mem_nil _) ⟨fun h => absurd h hselect, fun h => absurd h hop⟩

end MemoryDwellComponent

/-! ## Rates -/

namespace PlaybackComponent

/-- The interval is that of the rate, at least `MIN_INTERVAL_MS`, and a second without a rate. -/
theorem intervalMs_eq (cast : Binary32 → UInt32) (hz : Binary32) :
    intervalMs cast hz =
      if hz ≤ Binary32.ofNat 0 then 1000
      else if castUInt32 cast (Binary32.ofNat 1000 / hz) < MIN_INTERVAL_MS then MIN_INTERVAL_MS
      else castUInt32 cast (Binary32.ofNat 1000 / hz) := rfl

/-- An interval is at least 20 ms. -/
theorem le_intervalMs (cast : Binary32 → UInt32) (hz : Binary32) : 20 ≤ intervalMs cast hz := by
  rw [intervalMs_eq]
  split_ifs with hzero h
  · decide
  · exact UInt32.le_refl _
  · exact UInt32.not_lt.mp h

/-- A rate that is no NaN and above zero can be converted when it is above `1000 / 2^32`, which is a
float. -/
theorem inWord_interval_iff {hz : Binary32} (hpos : ¬hz ≤ Binary32.ofNat 0) :
    (Binary32.ofNat 1000 / hz).InWord ↔
      Binary32.ofNat 1000 / Binary32.ofNat (2^32) < hz := by
  have hlimit : (Binary32.ofNat 1000 / Binary32.ofNat (2^32)).IsFinite ∧
      (Binary32.ofNat 1000 / Binary32.ofNat (2^32)).neg = false := by
    decide +kernel
  have hnum : (Binary32.ofNat 1000).IsFinite ∧ (Binary32.ofNat 1000).neg = false := by
    decide +kernel
  by_cases hnan : hz.IsNaN
  · have hquot : Binary32.ofNat 1000 / hz = Binary32.nan := if_pos (Or.inr hnan)
    rw [hquot]
    exact iff_of_false (by decide) fun h => h.2.1 hnan
  obtain ⟨hneg, hmag⟩ := Binary32.neg_eq_false_of_pos
    (Binary32.lt_of_not_le hnan Binary32.not_isNaN_ofNat_zero hpos)
  rw [Binary32.lt_iff_mag_lt hlimit.2 hneg hlimit.1.not_isNaN hnan]
  by_cases hfinite : hz.IsFinite
  · rw [Binary32.div_eq_ofMag hnum.1 hfinite hnum.2 hneg hmag, Binary32.inWord_ofMag_iff]
    refine lt_iff_of_antitone (fun m => Binary32.roundQuot
      (Binary32.ulps (Binary32.ofNat 1000).mag * 2^149) (Binary32.ulps m))
      (fun k m hk hkm => ?_) ?_ ?_ hmag
    · have hzero : Binary32.ulps 0 = 0 := rfl
      have hk' := Binary32.ulps_strictMono hk
      have hm := Binary32.ulps_strictMono.monotone hkm
      exact Binary32.roundQuot_le_roundQuot (by omega) (by omega) (Nat.mul_le_mul_left _ hm)
    · decide +kernel
    · decide +kernel
  · -- The quotient by an infinity is zero.
    have hinf : hz.mag = Binary32.infMag := by
      unfold Binary32.IsNaN at hnan
      unfold Binary32.IsFinite at hfinite
      omega
    have hquot : Binary32.ofNat 1000 / hz = Binary32.ofMag false 0 := by
      change Binary32.div _ _ = _
      rw [Binary32.div, if_neg (not_or.mpr ⟨hnum.1.not_isNaN, hnan⟩), if_neg (not_not_intro hnum.1),
        if_pos hfinite, hneg, hnum.2]
      rfl
    rw [hquot, hinf]
    exact iff_of_true (by decide +kernel) hlimit.1

/-- A command whose conversions are in range has one effect. -/
theorem handleCommand_congr {cmd : CommandPacket} (h : ∀ x ∈ casts cmd, x.InWord)
    (cast cast' : Binary32 → UInt32) (c : PlaybackComponent) (file : Option Text) :
    c.handleCommand cast cmd file = c.handleCommand cast' cmd file := by
  by_cases hrate : cmd.opcode = OP_SET_RATE_HZ
  · have hinterval : intervalMs cast cmd.argument = intervalMs cast' cmd.argument := by
      rw [casts, if_pos hrate] at h
      rw [intervalMs_eq, intervalMs_eq]
      by_cases hzero : cmd.argument ≤ Binary32.ofNat 0
      · rw [if_pos hzero, if_pos hzero]
      · rw [if_neg hzero] at h
        rw [castUInt32_congr (h _ (List.mem_singleton_self _)) cast cast']
    unfold handleCommand setRateHz
    rw [hinterval]
  · unfold handleCommand
    rw [if_neg hrate, if_neg hrate]

/-- The conversions are in range exactly above the limit of the rate. -/
theorem total_iff (cmd : CommandPacket) :
    Total cmd ↔ (cmd.opcode = OP_SET_RATE_HZ →
      cmd.argument ≤ Binary32.ofNat 0 ∨
        Binary32.ofNat 1000 / Binary32.ofNat (2^32) < cmd.argument) := by
  have hinterval : cmd.opcode = OP_SET_RATE_HZ → ∀ cast (c : PlaybackComponent) file,
      20 ≤ (c.handleCommand cast cmd file).interval_ms_ := by
    intro hop cast c file
    have hrate : c.handleCommand cast cmd file = c.setRateHz cast cmd.argument := by
      unfold handleCommand
      rw [hop]
      rfl
    rw [hrate]
    exact le_intervalMs cast cmd.argument
  have hcasts : Total cmd ↔ ∀ x ∈ casts cmd, x.InWord :=
    ⟨fun h => h.casts, fun h => ⟨h, hinterval⟩⟩
  rw [hcasts, casts]
  split_ifs with hop hzero
  · exact iff_of_true (List.forall_mem_nil _) fun _ => Or.inl hzero
  · rw [List.forall_mem_singleton, inWord_interval_iff hzero]
    exact ⟨fun h _ => Or.inr h, fun h => (h hop).resolve_left hzero⟩
  · exact iff_of_true (List.forall_mem_nil _) fun h => absurd h hop

end PlaybackComponent

/-- The conversions that a command makes the dwell component or playback execute are in range
exactly when a finite channel is below `2^32`, a period is at most 4294967 s, and a rate is at most
zero or above `1000 / 2^32` Hz. -/
theorem conversions_total_iff (cmd : CommandPacket) :
    (MemoryDwellComponent.Total cmd ↔
      (cmd.opcode = MemoryDwellComponent.OP_SELECT_CHANNEL → cmd.argument.IsFinite →
        cmd.argument < Binary32.ofNat (2^32)) ∧
      (cmd.opcode = MemoryDwellComponent.OP_SET_PERIOD_SECONDS →
        cmd.argument ≤ Binary32.ofNat 4294967)) ∧
    (PlaybackComponent.Total cmd ↔
      (cmd.opcode = PlaybackComponent.OP_SET_RATE_HZ →
        cmd.argument ≤ Binary32.ofNat 0 ∨
          Binary32.ofNat 1000 / Binary32.ofNat (2^32) < cmd.argument)) :=
  ⟨MemoryDwellComponent.total_iff cmd, PlaybackComponent.total_iff cmd⟩

/-- A NaN as a rate or a period, a period of fifty days, and a channel of `2^32` are converted. -/
theorem unbounded_converted :
    ¬PlaybackComponent.Total ⟨44, PlaybackComponent.OP_SET_RATE_HZ, Binary32.nan⟩ ∧
      ¬MemoryDwellComponent.Total
        ⟨42, MemoryDwellComponent.OP_SET_PERIOD_SECONDS, Binary32.nan⟩ ∧
      ¬MemoryDwellComponent.Total
        ⟨42, MemoryDwellComponent.OP_SET_PERIOD_SECONDS, Binary32.ofNat 4320000⟩ ∧
      ¬MemoryDwellComponent.Total
        ⟨42, MemoryDwellComponent.OP_SELECT_CHANNEL, Binary32.ofNat (2^32)⟩ := by
  have hdwell : ∀ {opcode : UInt32} {x y : Binary32}, MemoryDwellComponent.casts
      ⟨42, opcode, x⟩ = [y] → ¬y.InWord → ¬MemoryDwellComponent.Total ⟨42, opcode, x⟩ :=
    fun hcasts hy h => hy (h.casts _ (by rw [hcasts]; exact List.mem_singleton_self _))
  refine ⟨fun h => ?_, ?_, ?_, ?_⟩
  · exact absurd (h.casts _ (List.mem_singleton_self _)) (by decide +kernel)
  · exact hdwell rfl (by decide +kernel)
  · exact hdwell rfl (by decide +kernel)
  · exact hdwell rfl (by decide +kernel)

end DeltaV
