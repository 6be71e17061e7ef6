import DeltaV.Lib.Binary32

/-!
# Command arguments as words

A command carries one float, from which the application components take unsigned words. `clampWord`
is the conversion that they share: what is not a positive finite number becomes `0`, what reaches
the limit becomes the limit, and the rest is truncated. The truncation is always in range
(`toUnsigned_of_clamped`), so the conversion is defined. Longer words are sent in two halves
(`words_of_halves`).
-/

namespace DeltaV

/-- A float as an unsigned word with the given greatest value. -/
def clampWord (limit : ℕ) (value : Binary32) : ℕ :=
  if ¬value.IsFinite ∨ value ≤ Binary32.ofNat 0 then 0
  else if Binary32.ofNat limit ≤ value then limit
  else value.trunc.toNat

/-- `toU8`. -/
def toU8 (value : Binary32) : UInt8 := UInt8.ofNat (clampWord 255 value)

/-- `toU16`. -/
def toU16 (value : Binary32) : UInt16 := UInt16.ofNat (clampWord 65535 value)

/-- `toU32`; the limit `4294967295.0F` is the float `2^32`. -/
def toU32 (value : Binary32) : UInt32 := UInt32.ofNat (clampWord 4294967295 value)

/-- The conversion to a word of 32 bits without any test; `cast` gives the results that the language
leaves undefined. -/
def castUInt32 (cast : Binary32 → UInt32) (value : Binary32) : UInt32 :=
  match value.toUnsigned 32 with
  | some n => UInt32.ofNat n
  | none => cast value

example : clampWord 65535 (Binary32.ofNat 65534) = 65534 := by decide +kernel

/-! ## Small integers -/

namespace Binary32

/-- An integer below `2^24` has a pattern. -/
theorem exists_ulps_eq {n : ℕ} (h : n < 2^24) : ∃ m < infMag, ulps m = n * 2^149 := by
  rcases Nat.eq_zero_or_pos n with rfl | hpos
  · exact ⟨0, by decide, rfl⟩
  · -- The fraction is the integer shifted to 24 bits, and the exponent undoes the shift.
    have hlog : Nat.log2 n ≤ 23 := by
      have := (Nat.log2_lt hpos.ne').mpr h
      omega
    set k := Nat.log2 n with hk
    have hlo : 2^k ≤ n := Nat.log2_self_le hpos.ne'
    have hhi : n < 2^(k + 1) := Nat.lt_log2_self
    have hpow : 2^k * 2^(23 - k) = 2^23 := by rw [← pow_add, Nat.add_sub_cancel' hlog]
    set s := n * 2^(23 - k) with hs
    have hslo : 2^23 ≤ s := by
      rw [hs, ← hpow]
      exact Nat.mul_le_mul_right _ hlo
    have hshi : s < 2^24 := by
      calc s < 2^(k + 1) * 2^(23 - k) := Nat.mul_lt_mul_of_pos_right hhi (by positivity)
        _ = 2 * (2^k * 2^(23 - k)) := by ring
        _ = 2^24 := by rw [hpow]; norm_num
    refine ⟨(127 + k) * 2^23 + (s - 2^23), ?_, ?_⟩
    · unfold infMag
      omega
    · have hmod : ((127 + k) * 2^23 + (s - 2^23)) % 2^23 = s - 2^23 := by omega
      have hdiv : ((127 + k) * 2^23 + (s - 2^23)) / 2^23 = 127 + k := by omega
      have hexp : 23 - k + (127 + k - 1) = 149 := by omega
      unfold ulps
      rw [if_neg (by omega), hmod, hdiv, Nat.add_sub_cancel' hslo, hs, mul_assoc, ← pow_add, hexp]

/-- A small integer is represented exactly. -/
theorem mag_ofNat {n : ℕ} (h : n < 2^24) :
    (ofNat n).mag < infMag ∧ ulps (ofNat n).mag = n * 2^149 ∧ (ofNat n).neg = false := by
  obtain ⟨m, hm, hulps⟩ := exists_ulps_eq h
  have hround : roundQuot ((n * 2^149 : ℤ)).natAbs 1 = m := by
    rw [show ((n * 2^149 : ℤ)).natAbs = ulps m by rw [hulps]; omega, roundQuot_ulps]
  have hsign : decide ((n * 2^149 : ℤ) < 0) = false := by
    exact decide_eq_false (not_lt.mpr (by positivity))
  have hdef : ofNat n = ofMag false m := by rw [ofNat, roundUnits, hround, hsign]
  have hmag : (ofNat n).mag = m := by rw [hdef, mag_ofMag, min_eq_left hm.le]
  refine ⟨hmag ▸ hm, hmag ▸ hulps, ?_⟩
  rw [hdef, neg, toNat_ofMag, min_eq_left hm.le]
  unfold infMag at hm
  simp
  omega

/-- A small natural number is finite as a float. -/
theorem isFinite_ofNat {n : ℕ} (h : n < 2^24) : (ofNat n).IsFinite := (mag_ofNat h).1

/-- A small natural number is its own truncation as a float. -/
theorem trunc_ofNat {n : ℕ} (h : n < 2^24) : (ofNat n).trunc = n := by
  obtain ⟨-, hulps, hneg⟩ := mag_ofNat h
  unfold trunc
  rw [hneg, hulps, Nat.mul_div_cancel _ (by positivity)]
  rfl

/-- The conversion of a small integer is defined. -/
theorem toUnsigned_ofNat {w n : ℕ} (h : n < 2^24) (hw : n < 2^w) :
    (ofNat n).toUnsigned w = some n := by
  have htrunc : (ofNat n).trunc = n := trunc_ofNat h
  rw [toUnsigned, if_pos, htrunc, Int.toNat_natCast]
  refine ⟨isFinite_ofNat h, ?_, ?_⟩
  · rw [htrunc]
    exact Int.natCast_nonneg n
  · rw [htrunc]
    exact_mod_cast hw

/-- The value of a small natural number as a float, in units of the last place of the smallest
floats. -/
theorem units_ofNat {n : ℕ} (h : n < 2^24) : (ofNat n).units = n * 2^149 := by
  obtain ⟨-, hulps, hneg⟩ := mag_ofNat h
  unfold units
  rw [hneg, hulps]
  push_cast
  rfl

/-- Small integers are ordered as integers. -/
theorem ofNat_le_ofNat {m n : ℕ} (hm : m < 2^24) (hn : n < 2^24) : ofNat m ≤ ofNat n ↔ m ≤ n := by
  rw [le_def, ← units_le_iff, units_ofNat hm, units_ofNat hn]
  constructor
  · rintro ⟨-, -, h⟩
    have := le_of_mul_le_mul_right h (by positivity)
    exact_mod_cast this
  · intro h
    refine ⟨(isFinite_ofNat hm).not_isNaN, (isFinite_ofNat hn).not_isNaN, ?_⟩
    exact mul_le_mul_of_nonneg_right (by exact_mod_cast h) (by positivity)

end Binary32

/-- Below a limit whose float is at most `2^w`, the truncation is in range, so the conversion to `w`
bits is defined. -/
theorem toUnsigned_of_clamped {w : ℕ} {limit value : Binary32} (hfinite : limit.IsFinite)
    (hlimit : limit.units ≤ 2^w * 2^149) (h : value.IsFinite) (hpos : ¬value ≤ Binary32.ofNat 0)
    (hlt : ¬limit ≤ value) : value.toUnsigned w = some value.trunc.toNat := by
  have hzero : (Binary32.ofNat 0).IsFinite := Binary32.isFinite_ofNat (by norm_num)
  have hlo := (Binary32.lt_of_not_le h.not_isNaN hzero.not_isNaN hpos).2.2
  have hhi := (Binary32.lt_of_not_le hfinite.not_isNaN h.not_isNaN hlt).2.2
  rw [← not_le, ← Binary32.units_le_iff, not_le] at hlo hhi
  rw [Binary32.units_ofNat (by norm_num)] at hlo
  have hsign : value.neg = false := by
    by_contra hneg
    rw [Binary32.units, if_pos (by simpa using hneg)] at hlo
    push_cast at hlo
    omega
  have hunits : value.units = Binary32.ulps value.mag := Binary32.units_eq_ulps hsign
  have hvalue : value.trunc = (Binary32.ulps value.mag / 2^149 : ℕ) := by
    rw [Binary32.trunc, hsign]
    rfl
  have hbound : Binary32.ulps value.mag / 2^149 < 2^w := by
    rw [Nat.div_lt_iff_lt_mul (by positivity)]
    have := hhi.trans_le hlimit
    rw [hunits] at this
    exact_mod_cast this
  rw [Binary32.toUnsigned, if_pos]
  refine ⟨h, ?_, ?_⟩
  · rw [hvalue]
    exact Int.natCast_nonneg _
  · rw [hvalue]
    exact_mod_cast hbound

/-! ## Halves of a word -/

/-- The value of a word with the given halves. -/
theorem toNat_words (hi lo : UInt16) :
    (hi.toUInt32 <<< 16 ||| lo.toUInt32).toNat = hi.toNat * 2^16 + lo.toNat := by
  have hhi := hi.toNat_lt
  have hlo := lo.toNat_lt
  -- The shifted half fits in 32 bits, and the other half is below its lowest bit.
  have hshift : (hi.toUInt32 <<< 16).toNat = hi.toNat <<< 16 := by
    rw [UInt32.toNat_shiftLeft, UInt16.toNat_toUInt32]
    have h16 : (16 : UInt32).toNat % 32 = 16 := by decide
    rw [h16, Nat.mod_eq_of_lt]
    rw [Nat.shiftLeft_eq]
    omega
  rw [UInt32.toNat_or, hshift, UInt16.toNat_toUInt32, ← Nat.shiftLeft_add_eq_or_of_lt hlo,
    Nat.shiftLeft_eq]

/-- A word has the halves that it is cut into. -/
theorem words_of_halves (w : UInt32) :
    (UInt16.ofNat (w.toNat / 2^16)).toUInt32 <<< 16 ||| (UInt16.ofNat (w.toNat % 2^16)).toUInt32 =
      w := by
  have hlt := w.toNat_lt
  apply UInt32.toNat.inj
  rw [toNat_words, UInt16.toNat_ofNat', UInt16.toNat_ofNat', Nat.mod_eq_of_lt (by omega),
    Nat.mod_eq_of_lt (by omega)]
  omega

end DeltaV
