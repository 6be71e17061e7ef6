import Mathlib.Algebra.Order.Ring.Abs
import Mathlib.Tactic.NormNum
import DeltaV.Lib.Binary32

/-!
# Subtraction and its rounding error

The difference of two `Binary32` numbers is the rounded exact difference. Rounding errs by at most
half of the gap between the two patterns around the exact result, and the gaps grow with the
exponent, so below `2^(23 + k)` units they are at most `2^(k - 1)` units (`sub_error`).
-/

namespace DeltaV

namespace Binary32

/-- `-a`. Adding `2^31` flips the sign bit. -/
def negate (a : Binary32) : Binary32 := ⟨a.bits + 0x80000000⟩

instance : Neg Binary32 := ⟨negate⟩

/-- The difference, rounded to nearest. -/
instance : Sub Binary32 := ⟨fun a b => a + -b⟩

/-- `std::max(a, b)`: the first operand, unless it is less than the second. -/
protected def max (a b : Binary32) : Binary32 := if a < b then b else a

/-- The bits of a negated number have the other sign. -/
theorem toNat_neg (a : Binary32) : (-a).bits.toNat = (a.bits.toNat + 2^31) % 2^32 := by
  change (a.bits + 0x80000000).toNat = _
  rw [UInt32.toNat_add]
  rfl

/-- A negated number has the same magnitude. -/
@[simp] theorem mag_neg (a : Binary32) : (-a).mag = a.mag := by
  have hbits := toNat_neg a
  unfold mag
  omega

/-- The value of a negated number is negated. -/
@[simp] theorem units_neg (a : Binary32) : (-a).units = -a.units := by
  have hbits := toNat_neg a
  have hlt := a.bits.toNat_lt
  have hsign : (-a).neg = !a.neg := by
    unfold Binary32.neg
    rw [hbits]
    by_cases h : 2^31 ≤ a.bits.toNat
    · rw [decide_eq_true h, decide_eq_false (by omega)]
      rfl
    · rw [decide_eq_false h, decide_eq_true (by omega)]
      rfl
  unfold units
  rw [hsign, mag_neg]
  cases a.neg <;> simp

/-- A negated finite number is finite. -/
theorem isFinite_neg {a : Binary32} (h : a.IsFinite) : (-a).IsFinite := by
  unfold IsFinite
  rwa [mag_neg]

/-- Numbers with the same place in the order have the same value. -/
theorem units_eq_of_key_eq {a b : Binary32} (h : a.key = b.key) : a.units = b.units :=
  le_antisymm (units_le_iff.mpr h.le) (units_le_iff.mpr h.ge)

/-! ## The rounding error -/

/-- The gap above a pattern. -/
def gap (n : ℕ) : ℕ := 2^(n / 2^23 - 1)

/-- Rounding errs by at most half of the gap in which the exact value lies. -/
theorem dist_roundQuot (num : ℕ) :
    2 * |(ulps (roundQuot num 1) : ℤ) - num| ≤ gap (floorMag num 1) := by
  obtain ⟨hlo, hhi⟩ := floorMag_spec num 1 Nat.one_pos
  have hnext : ulps (floorMag num 1 + 1) = ulps (floorMag num 1) + gap (floorMag num 1) :=
    ulps_succ _
  rw [Nat.mul_one] at hlo hhi
  have hdef : roundQuot num 1 =
      if 2 * num < (ulps (floorMag num 1) + ulps (floorMag num 1 + 1)) * 1 then floorMag num 1
      else if 2 * num = (ulps (floorMag num 1) + ulps (floorMag num 1 + 1)) * 1 then
        floorMag num 1 + floorMag num 1 % 2
      else floorMag num 1 + 1 := rfl
  rw [Nat.mul_one] at hdef
  generalize floorMag num 1 = f at *
  -- The result is one of the two neighbours, on its own side of the midpoint.
  have hside : roundQuot num 1 = f ∧ 2 * num ≤ ulps f + ulps (f + 1) ∨
      roundQuot num 1 = f + 1 ∧ ulps f + ulps (f + 1) ≤ 2 * num := by
    rw [hdef]
    split_ifs with hbelow hmid <;> omega
  rcases hside with ⟨hround, hle⟩ | ⟨hround, hle⟩
  · rw [hround, abs_of_nonpos (by omega)]
    omega
  · rw [hround, abs_of_nonneg (by omega)]
    omega

/-- The value of the first pattern with the exponent field `k + 1`. -/
theorem ulps_binade (k : ℕ) : ulps (2^23 * (k + 1)) = 2^(23 + k) := by
  have hq : 2^23 * (k + 1) / 2^23 = k + 1 := Nat.mul_div_cancel_left _ (by norm_num)
  have hr : 2^23 * (k + 1) % 2^23 = 0 := Nat.mul_mod_right _ _
  unfold ulps
  rw [if_neg (by omega), hq, hr, Nat.add_zero, Nat.add_sub_cancel, ← pow_add]

/-- A magnitude with a sign has this sign. -/
theorem neg_ofMag (neg : Bool) (m : ℕ) : (ofMag neg m).neg = neg := by
  have hsmall : min m infMag < 2^31 := lt_of_le_of_lt (min_le_right _ _) (by norm_num [infMag])
  rw [Binary32.neg, toNat_ofMag]
  cases neg
  · rw [if_neg Bool.false_ne_true, decide_eq_false_iff_not]
    omega
  · rw [if_pos rfl, decide_eq_true_iff]
    omega

/-- Below `2^(23 + k)` units an integer count of units rounds to a finite number that is off by at
most half of `2^(k - 1)`. -/
theorem roundUnits_error {z : ℤ} {k : ℕ} (hk : k < 254) (hz : |z| < 2^(23 + k)) :
    2 * |(roundUnits z).units - z| ≤ 2^(k - 1) := by
  have hinf : infMag = 2^23 * 255 := rfl
  have habs : ((z.natAbs : ℕ) : ℤ) = |z| := Int.natCast_natAbs z
  have hnat : z.natAbs < ulps (2^23 * (k + 1)) := by
    rw [ulps_binade]
    exact_mod_cast habs ▸ hz
  obtain ⟨hlo, -⟩ := floorMag_spec z.natAbs 1 Nat.one_pos
  rw [Nat.mul_one] at hlo
  have hfloor : floorMag z.natAbs 1 < 2^23 * (k + 1) :=
    ulps_strictMono.lt_iff_lt.mp (hlo.trans_lt hnat)
  have hgap : gap (floorMag z.natAbs 1) ≤ 2^(k - 1) :=
    Nat.pow_le_pow_right (by norm_num) (by omega)
  have hround := (roundQuot_bounds z.natAbs 1).2
  have hmin : min (roundQuot z.natAbs 1) infMag = roundQuot z.natAbs 1 :=
    min_eq_left (by omega)
  have hunits : (roundUnits z).units = if z < 0 then -(ulps (roundQuot z.natAbs 1) : ℤ)
      else ulps (roundQuot z.natAbs 1) := by
    rw [units, roundUnits, mag_ofMag, neg_ofMag, hmin]
    simp only [decide_eq_true_eq]
  have herror := dist_roundQuot z.natAbs
  have hcast : ((gap (floorMag z.natAbs 1) : ℕ) : ℤ) ≤ 2^(k - 1) := by exact_mod_cast hgap
  rw [hunits]
  -- The error of a negative number is that of its size.
  split_ifs with hneg
  · rw [habs, abs_of_neg hneg] at herror
    rw [← abs_neg]
    rw [show -(-(ulps (roundQuot z.natAbs 1) : ℤ) - z) = ulps (roundQuot z.natAbs 1) - -z by ring]
    exact herror.trans hcast
  · rw [habs, abs_of_nonneg (not_lt.mp hneg)] at herror
    exact herror.trans hcast

/-- The value of a difference is the rounded exact difference. -/
theorem units_sub {a b : Binary32} (ha : a.IsFinite) (hb : b.IsFinite) :
    (a - b).units = (roundUnits (a.units - b.units)).units ∧ ¬(a - b).IsNaN := by
  obtain ⟨hkey, hnan⟩ := key_add ha (isFinite_neg hb)
  rw [units_neg, ← sub_eq_add_neg] at hkey
  exact ⟨units_eq_of_key_eq hkey, hnan⟩

/-- The rounding error of a difference below `2^(23 + k)` units. -/
theorem sub_error {a b : Binary32} (ha : a.IsFinite) (hb : b.IsFinite) {k : ℕ} (hk : k < 254)
    (h : |a.units - b.units| < 2^(23 + k)) :
    2 * |(a - b).units - (a.units - b.units)| ≤ 2^(k - 1) := by
  rw [(units_sub ha hb).1]
  exact roundUnits_error hk h

/-- Rounding is monotone, and leaves a number alone. -/
theorem units_roundUnits_le {y z : ℤ} (h : y ≤ z) :
    (roundUnits y).units ≤ (roundUnits z).units := units_le_iff.mpr (key_roundUnits_le h)

/-- A number that is rounded to itself keeps its value. -/
theorem units_roundUnits_units {x : Binary32} (hx : ¬x.IsNaN) :
    (roundUnits x.units).units = x.units := units_eq_of_key_eq (key_roundUnits_units hx)

/-! ## Values in an interval from zero -/

/-- Zero has the value zero. -/
theorem units_ofNat_zero : (ofNat 0).units = 0 := by decide +kernel

/-- The order of numbers is that of their values, and a NaN is in no order. -/
theorem le_iff_units {a b : Binary32} : a ≤ b ↔ ¬a.IsNaN ∧ ¬b.IsNaN ∧ a.units ≤ b.units := by
  rw [le_def, units_le_iff]

/-- A number between zero and a finite one is finite. -/
theorem isFinite_of_mem {x y : Binary32} (hy : y.IsFinite) (h0 : ofNat 0 ≤ x) (h : x ≤ y) :
    x.IsFinite := by
  have hlo := h0.2.2
  have hhi := h.2.2
  have hbound : y.key ≤ y.mag := (mag_le_iff.mp le_rfl).2
  rw [key_ofNat_zero] at hlo
  exact (mag_le_iff.mpr ⟨by omega, by omega⟩).trans_lt hy

/-- `std::max(0, x)` cuts the value off at zero. -/
theorem max_zero_spec {x : Binary32} (hx : ¬x.IsNaN) :
    ¬(Binary32.max (ofNat 0) x).IsNaN ∧ (Binary32.max (ofNat 0) x).units = max 0 x.units := by
  have hiff : ofNat 0 < x ↔ 0 < x.units := by
    rw [← not_iff_not, not_lt, ← units_ofNat_zero, units_le_iff]
    constructor
    · exact fun h => not_lt.mp fun hlt => h ⟨not_isNaN_ofNat_zero, hx, hlt⟩
    · exact fun h hlt => absurd hlt.2.2 (not_lt.mpr h)
  unfold Binary32.max
  split_ifs with hpos
  · exact ⟨hx, (max_eq_right (hiff.mp hpos).le).symm⟩
  · rw [units_ofNat_zero]
    exact ⟨not_isNaN_ofNat_zero, (max_eq_left (not_lt.mp fun h => hpos (hiff.mpr h))).symm⟩

end Binary32

end DeltaV
