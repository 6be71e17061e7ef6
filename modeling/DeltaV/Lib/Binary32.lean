import Mathlib.Algebra.Order.Field.Rat
import Mathlib.Order.Monotone.Basic
import Mathlib.Tactic.Linarith
import Mathlib.Tactic.Ring
import Mathlib.Tactic.Positivity
import Mathlib.Tactic.NormNum

/-!
# IEEE 754 binary32 numbers

A `Binary32` is a 32-bit pattern. Away from the NaNs the patterns are ordered like the integers
`key`, so a comparison of two numbers is a comparison of two integers, and both are false on a NaN.
Every finite number is an integer multiple of `2^-149`; `ulps` is that multiple as a function of the
pattern without its sign. Rounding to nearest with ties to even is `roundQuot`: it finds the largest
pattern whose value does not exceed the exact result and moves one pattern up when the exact result
lies beyond the midpoint. Since `ulps` is strictly increasing, rounding is monotone
(`roundQuot_le_roundQuot`) and leaves representable values alone (`roundQuot_ulps`).
-/

namespace DeltaV

/-- A 32-bit pattern, read as an IEEE 754 `binary32` number. -/
structure Binary32 where
  /-- The pattern: sign, eight exponent bits, and 23 fraction bits. -/
  bits : UInt32
deriving DecidableEq, Repr, Inhabited

namespace Binary32

/-- The pattern without its sign bit. -/
def mag (x : Binary32) : ℕ := x.bits.toNat % 2^31

/-- The sign bit. -/
def neg (x : Binary32) : Bool := decide (2^31 ≤ x.bits.toNat)

/-- The pattern of positive infinity. -/
def infMag : ℕ := 0x7F800000

/-- The patterns above infinity are the NaNs. -/
def IsNaN (x : Binary32) : Prop := infMag < x.mag

/-- A number that is neither infinite nor a NaN. -/
def IsFinite (x : Binary32) : Prop := x.mag < infMag

instance (x : Binary32) : Decidable x.IsNaN := inferInstanceAs (Decidable (_ < _))

instance (x : Binary32) : Decidable x.IsFinite := inferInstanceAs (Decidable (_ < _))

/-- The place of a number in the order; both zeros have place `0`. -/
def key (x : Binary32) : ℤ := if x.neg then -(x.mag : ℤ) else x.mag

/-- `a <= b`: false when either operand is a NaN. -/
instance : LE Binary32 := ⟨fun a b => ¬a.IsNaN ∧ ¬b.IsNaN ∧ a.key ≤ b.key⟩

/-- `a < b`: false when either operand is a NaN. -/
instance : LT Binary32 := ⟨fun a b => ¬a.IsNaN ∧ ¬b.IsNaN ∧ a.key < b.key⟩

instance (a b : Binary32) : Decidable (a ≤ b) :=
  inferInstanceAs (Decidable (¬a.IsNaN ∧ ¬b.IsNaN ∧ a.key ≤ b.key))

instance (a b : Binary32) : Decidable (a < b) :=
  inferInstanceAs (Decidable (¬a.IsNaN ∧ ¬b.IsNaN ∧ a.key < b.key))

/-- The order of numbers is that of their keys, and a NaN is in no order. -/
theorem le_def {a b : Binary32} : a ≤ b ↔ ¬a.IsNaN ∧ ¬b.IsNaN ∧ a.key ≤ b.key := Iff.rfl

/-- A finite number is not a NaN. -/
theorem IsFinite.not_isNaN {x : Binary32} (h : x.IsFinite) : ¬x.IsNaN := by
  unfold IsFinite at h
  unfold IsNaN
  omega

/-- `<=` is transitive. -/
theorem le_trans' {a b c : Binary32} (hab : a ≤ b) (hbc : b ≤ c) : a ≤ c :=
  ⟨hab.1, hbc.2.1, hab.2.2.trans hbc.2.2⟩

/-- `<` implies `<=`. -/
theorem le_of_lt' {a b : Binary32} (h : a < b) : a ≤ b := ⟨h.1, h.2.1, h.2.2.le⟩

/-- On numbers that are not NaNs, the failure of `<=` is `<` the other way. -/
theorem lt_of_not_le {a b : Binary32} (ha : ¬a.IsNaN) (hb : ¬b.IsNaN) (h : ¬a ≤ b) : b < a := by
  rw [le_def] at h
  exact ⟨hb, ha, by by_contra hk; exact h ⟨ha, hb, by omega⟩⟩

/-- `a < b` and `b <= a` exclude each other. -/
theorem not_le_of_lt {a b : Binary32} (h : a < b) : ¬b ≤ a := fun h' => by
  have h1 := h.2.2
  have h2 := h'.2.2
  omega

/-! ## The values of the patterns -/

/-- The value of a pattern without sign, in units of `2^-149`. -/
def ulps (n : ℕ) : ℕ := if n < 2^23 then n else (2^23 + n % 2^23) * 2^(n / 2^23 - 1)

/-- The distance from a pattern's value to the next one's is a power of two given by the exponent
field. -/
theorem ulps_succ (n : ℕ) : ulps (n + 1) = ulps n + 2^(n / 2^23 - 1) := by
  unfold ulps
  have hdm := Nat.div_add_mod n (2^23)
  have hlt := Nat.mod_lt n (show 0 < 2^23 by norm_num)
  generalize hq : n / 2^23 = q at *
  generalize hr : n % 2^23 = r at *
  by_cases hlast : r + 1 = 2^23
  · -- The fraction carries into the exponent.
    have hq' : (n + 1) / 2^23 = q + 1 := by omega
    have hr' : (n + 1) % 2^23 = 0 := by omega
    rw [if_neg (by omega), hq', hr']
    rcases Nat.eq_zero_or_pos q with rfl | hpos
    · rw [if_pos (by omega)]
      norm_num
      omega
    · rw [if_neg (by nlinarith)]
      obtain ⟨k, rfl⟩ : ∃ k, q = k + 1 := ⟨q - 1, by omega⟩
      rw [show 2^23 + r = 2 * 2^23 - 1 by omega]
      simp only [Nat.add_sub_cancel, pow_succ, Nat.sub_mul]
      have := Nat.one_le_two_pow (n := k)
      omega
  · have hq' : (n + 1) / 2^23 = q := by omega
    have hr' : (n + 1) % 2^23 = r + 1 := by omega
    rw [hq', hr']
    rcases Nat.eq_zero_or_pos q with rfl | hpos
    · rw [if_pos (by omega), if_pos (by omega)]
      norm_num
    · rw [if_neg (by nlinarith), if_neg (by nlinarith)]
      ring

/-- The values increase strictly with the pattern. -/
theorem ulps_strictMono : StrictMono ulps :=
  strictMono_nat_of_lt_succ fun n => by
    rw [ulps_succ]
    have := Nat.one_le_two_pow (n := n / 2^23 - 1)
    omega

/-! ## Rounding -/

/-- The largest pattern whose value is at most `num / den` units. -/
def floorMag (num den : ℕ) : ℕ :=
  let e := Nat.log2 (num / den) - 23
  e * 2^23 + num / (den * 2^e)

/-- `floorMag` is the pattern below `num / den`, and the next pattern is above. -/
theorem floorMag_spec (num den : ℕ) (hden : 0 < den) :
    ulps (floorMag num den) * den ≤ num ∧ num < ulps (floorMag num den + 1) * den := by
  set k := num / den with hk
  set e := Nat.log2 k - 23 with he
  set r := num / (den * 2^e) with hr
  have hd : 0 < den * 2^e := by positivity
  have hrk : r = k / 2^e := by rw [hr, hk, Nat.div_div_eq_div_mul]
  have hn : floorMag num den = e * 2^23 + r := rfl
  -- The significand `r` fits in 24 bits and, above the subnormal exponent, has its top bit set.
  have hbound : r < 2^24 ∧ (0 < e → 2^23 ≤ r) := by
    rcases Nat.eq_zero_or_pos k with h0 | hpos
    · rw [hrk, h0]
      simp [he, h0]
    · have hlo : 2^(Nat.log2 k) ≤ k := Nat.log2_self_le (by omega)
      have hhi : k < 2^(Nat.log2 k + 1) := Nat.lt_log2_self
      refine ⟨?_, fun hepos => ?_⟩
      · rw [hrk, Nat.div_lt_iff_lt_mul (by positivity), ← pow_add]
        exact lt_of_lt_of_le hhi (Nat.pow_le_pow_right (by norm_num) (by omega))
      · rw [hrk, Nat.le_div_iff_mul_le (by positivity), ← pow_add]
        exact le_trans (Nat.pow_le_pow_right (by norm_num) (by omega)) hlo
  have hval : ulps (e * 2^23 + r) = r * 2^e ∧ (e * 2^23 + r) / 2^23 - 1 = e := by
    rcases Nat.eq_zero_or_pos e with h0 | hpos
    · rw [h0] at hbound ⊢
      simp only [Nat.zero_mul, Nat.zero_add, pow_zero, Nat.mul_one]
      have hq : r / 2^23 - 1 = 0 := by omega
      refine ⟨?_, hq⟩
      unfold ulps
      split_ifs with hlt
      · rfl
      · rw [hq, pow_zero]
        omega
    · have hlo := hbound.2 hpos
      have hq : (e * 2^23 + r) / 2^23 = e + 1 := by omega
      have hm : (e * 2^23 + r) % 2^23 = r - 2^23 := by omega
      unfold ulps
      rw [if_neg (by nlinarith), hq, hm]
      exact ⟨by rw [Nat.add_sub_cancel, Nat.add_sub_cancel' hlo], by omega⟩
  rw [hn, ulps_succ, hval.1, hval.2]
  have hdm := Nat.div_add_mod num (den * 2^e)
  have hml := Nat.mod_lt num hd
  rw [← hr] at hdm
  constructor
  · calc r * 2^e * den = den * 2^e * r := by ring
      _ ≤ num := by omega
  · calc num < den * 2^e * r + den * 2^e := by omega
      _ = (r * 2^e + 2^e) * den := by ring

/-- The pattern nearest to `num / den` units; at a midpoint, the even one. -/
def roundQuot (num den : ℕ) : ℕ :=
  let n := floorMag num den
  let mid := (ulps n + ulps (n + 1)) * den
  if 2 * num < mid then n else if 2 * num = mid then n + n % 2 else n + 1

/-- Rounding moves at most one pattern up from `floorMag`. -/
theorem roundQuot_bounds (num den : ℕ) :
    floorMag num den ≤ roundQuot num den ∧ roundQuot num den ≤ floorMag num den + 1 := by
  simp only [roundQuot]
  split_ifs <;> omega

/-- Rounding is monotone in the quotient. -/
theorem roundQuot_le_roundQuot {num den num' den' : ℕ} (hden : 0 < den) (hden' : 0 < den')
    (h : num * den' ≤ num' * den) : roundQuot num den ≤ roundQuot num' den' := by
  obtain ⟨hlo, hhi⟩ := floorMag_spec num den hden
  obtain ⟨hlo', hhi'⟩ := floorMag_spec num' den' hden'
  obtain ⟨-, hup⟩ := roundQuot_bounds num den
  obtain ⟨hdn, -⟩ := roundQuot_bounds num' den'
  have hfloor : floorMag num den < floorMag num' den' + 1 := by
    apply ulps_strictMono.lt_iff_lt.mp
    have hpos : 0 < den * den' := by positivity
    have : ulps (floorMag num den) * (den * den') < ulps (floorMag num' den' + 1) * (den * den') :=
      calc ulps (floorMag num den) * (den * den') = ulps (floorMag num den) * den * den' := by ring
        _ ≤ num * den' := Nat.mul_le_mul_right _ hlo
        _ ≤ num' * den := h
        _ < ulps (floorMag num' den' + 1) * den' * den := Nat.mul_lt_mul_of_pos_right hhi' hden
        _ = ulps (floorMag num' den' + 1) * (den * den') := by ring
    exact Nat.lt_of_mul_lt_mul_right this
  rcases Nat.lt_or_ge (floorMag num den) (floorMag num' den') with hlt | hge
  · omega
  · -- Both quotients lie in one gap, so the same midpoint decides both.
    have heq : floorMag num den = floorMag num' den' := by omega
    simp only [roundQuot, ← heq]
    set n := floorMag num den
    set s := ulps n + ulps (n + 1)
    split_ifs with h1 h2 h3 h4 h5 <;> try omega
    · exfalso
      nlinarith [Nat.mul_le_mul_right den' (not_lt.mp h1)]
    · exfalso
      nlinarith [Nat.mul_le_mul_right den' (not_lt.mp h1)]
    · exfalso
      have hgt : s * den + 1 ≤ 2 * num := by omega
      nlinarith [Nat.mul_le_mul_right den' hgt]

/-- Rounding leaves a representable value alone. -/
theorem roundQuot_ulps (n : ℕ) : roundQuot (ulps n) 1 = n := by
  obtain ⟨hlo, hhi⟩ := floorMag_spec (ulps n) 1 Nat.one_pos
  rw [Nat.mul_one] at hlo hhi
  have h1 := ulps_strictMono.le_iff_le.mp hlo
  have h2 := ulps_strictMono.lt_iff_lt.mp hhi
  have hfl : floorMag (ulps n) 1 = n := by omega
  have hstep := ulps_strictMono (Nat.lt_add_one n)
  simp only [roundQuot, hfl]
  rw [if_pos (by omega)]

/-- Rounding depends only on the quotient. -/
theorem roundQuot_congr {num den num' den' : ℕ} (hden : 0 < den) (hden' : 0 < den')
    (h : num * den' = num' * den) : roundQuot num den = roundQuot num' den' :=
  Nat.le_antisymm (roundQuot_le_roundQuot hden hden' (Nat.le_of_eq h))
    (roundQuot_le_roundQuot hden' hden (Nat.le_of_eq h.symm))

/-- Twice the midpoint between a pattern's value and the next, in units of `1 / den`. -/
def mid (den n : ℕ) : ℕ := (ulps n + ulps (n + 1)) * den

/-- A midpoint lies between the two values. -/
theorem mid_bounds {den : ℕ} (hden : 0 < den) (n : ℕ) :
    2 * (ulps n * den) < mid den n ∧ mid den n < 2 * (ulps (n + 1) * den) := by
  have hstep := Nat.mul_lt_mul_of_pos_right (ulps_strictMono (Nat.lt_add_one n)) hden
  rw [mid, Nat.add_mul]
  omega

/-- Midpoints grow with the magnitude. -/
theorem mid_strictMono {den : ℕ} (hden : 0 < den) : StrictMono (mid den) :=
  strictMono_nat_of_lt_succ fun n => (mid_bounds hden n).2.trans (mid_bounds hden (n + 1)).1

/-- The quotient lies between the midpoints around the pattern, or at one of them when the pattern
is even. -/
structure Nearest (num den n : ℕ) : Prop where
  below : 2 * num < mid den n ∨ 2 * num = mid den n ∧ n % 2 = 0
  above : ∀ m, m + 1 = n → mid den m < 2 * num ∨ mid den m = 2 * num ∧ n % 2 = 0

/-- The pattern that a quotient is rounded to is nearest to it. -/
theorem nearest_roundQuot (num : ℕ) {den : ℕ} (hden : 0 < den) :
    Nearest num den (roundQuot num den) := by
  obtain ⟨hlo, hhi⟩ := floorMag_spec num den hden
  have hdef : roundQuot num den =
      if 2 * num < mid den (floorMag num den) then floorMag num den
      else if 2 * num = mid den (floorMag num den) then floorMag num den + floorMag num den % 2
      else floorMag num den + 1 := rfl
  rw [hdef]
  generalize floorMag num den = f at *
  -- The midpoint below the floor is below the quotient, and the one above the next value above.
  have hprev : ∀ m, m + 1 = f → mid den m < 2 * num := by
    rintro m rfl
    have hmid := (mid_bounds hden m).2
    omega
  have hnext : 2 * num < mid den (f + 1) := by
    have hmid := (mid_bounds hden (f + 1)).1
    omega
  split_ifs with hlt heq
  · exact ⟨Or.inl hlt, fun m hm => Or.inl (hprev m hm)⟩
  · rcases Nat.mod_two_eq_zero_or_one f with heven | hodd
    · rw [heven]
      exact ⟨Or.inr ⟨heq, heven⟩, fun m hm => Or.inl (hprev m hm)⟩
    · rw [hodd]
      refine ⟨Or.inl hnext, fun m hm => Or.inr ⟨?_, by omega⟩⟩
      rw [Nat.succ.inj hm, heq]
  · refine ⟨Or.inl hnext, fun m hm => Or.inl ?_⟩
    rw [Nat.succ.inj hm]
    omega

/-- Only one pattern is nearest to a quotient. -/
theorem Nearest.unique {num den n n' : ℕ} (hden : 0 < den) (h : Nearest num den n)
    (h' : Nearest num den n') : n = n' := by
  have hno : ∀ {n n'}, Nearest num den n → Nearest num den n' → ¬n < n' := by
    intro n n' h h' hlt
    obtain ⟨m, rfl⟩ : ∃ m, n' = m + 1 := ⟨n' - 1, by omega⟩
    have hle := (mid_strictMono hden).monotone (Nat.le_of_lt_succ hlt)
    have hbelow := h.below
    -- Both midpoints are the quotient, so they are the same one, between two even neighbours.
    rcases h'.above m rfl with habove | ⟨habove, heven⟩
    · omega
    · rcases hbelow with hbelow | ⟨hbelow, heven'⟩
      · omega
      · have hm := (mid_strictMono hden).injective (habove.trans hbelow)
        omega
  rcases Nat.lt_trichotomy n n' with hlt | heq | hlt
  · exact absurd hlt (hno h h')
  · exact heq
  · exact absurd hlt (hno h' h)

/-- A quotient is rounded to the nearest pattern. -/
theorem roundQuot_eq_iff {num den n : ℕ} (hden : 0 < den) :
    roundQuot num den = n ↔ Nearest num den n := by
  constructor
  · rintro rfl
    exact nearest_roundQuot num hden
  · exact (nearest_roundQuot num hden).unique hden

/-! ## Arithmetic -/

/-- The number with the given sign and magnitude pattern; a pattern beyond infinity overflows to
infinity. -/
def ofMag (neg : Bool) (m : ℕ) : Binary32 :=
  ⟨UInt32.ofNat ((if neg then 2^31 else 0) + min m infMag)⟩

/-- The bits of a magnitude with a sign; what is too large becomes infinity. -/
theorem toNat_ofMag (neg : Bool) (m : ℕ) :
    (ofMag neg m).bits.toNat = (if neg then 2^31 else 0) + min m infMag := by
  have h : min m infMag < 2^31 := lt_of_le_of_lt (min_le_right _ _) (by norm_num [infMag])
  simp only [ofMag, UInt32.toNat_ofNat']
  split_ifs <;> omega

/-- The magnitude of a rounded number is bounded by infinity. -/
@[simp] theorem mag_ofMag (neg : Bool) (m : ℕ) : (ofMag neg m).mag = min m infMag := by
  have h : min m infMag < 2^31 := lt_of_le_of_lt (min_le_right _ _) (by norm_num [infMag])
  unfold mag
  rw [toNat_ofMag]
  split_ifs <;> omega

/-- A number built from a magnitude is not a NaN. -/
theorem not_isNaN_ofMag (neg : Bool) (m : ℕ) : ¬(ofMag neg m).IsNaN := by
  unfold IsNaN
  rw [mag_ofMag]
  omega

/-- The place of a number built from a magnitude. -/
theorem key_ofMag (neg : Bool) (m : ℕ) :
    (ofMag neg m).key = if neg then -((min m infMag : ℕ) : ℤ) else (min m infMag : ℕ) := by
  have h : min m infMag < 2^31 := lt_of_le_of_lt (min_le_right _ _) (by norm_num [infMag])
  have hneg : (ofMag neg m).neg = neg := by
    rw [Binary32.neg, toNat_ofMag]
    cases neg
    · simp
      omega
    · simp
  unfold key
  rw [hneg, mag_ofMag]

/-- The canonical quiet NaN, the result of an invalid operation. -/
def nan : Binary32 := ⟨0x7FC00000⟩

/-- The value of a finite number in units of `2^-149`. -/
def units (x : Binary32) : ℤ := if x.neg then -(ulps x.mag : ℤ) else ulps x.mag

/-- The value of a number without a sign is that of its magnitude. -/
theorem units_eq_ulps {x : Binary32} (h : x.neg = false) : x.units = ulps x.mag := by
  rw [units, h]
  rfl

/-- The value of a number; an infinity stands for `2^128`, the first value out of range. -/
def toRat (x : Binary32) : ℚ := x.units / 2^149

/-- The order of the numbers is the order of their values. -/
theorem units_le_iff {a b : Binary32} : a.units ≤ b.units ↔ a.key ≤ b.key := by
  have h0 : ulps 0 = 0 := rfl
  have hpos : ∀ n, 0 < n → 0 < ulps n := fun n hn => by
    have := ulps_strictMono hn
    omega
  have hm : ulps a.mag ≤ ulps b.mag ↔ a.mag ≤ b.mag := ulps_strictMono.le_iff_le
  have hm' : ulps b.mag ≤ ulps a.mag ↔ b.mag ≤ a.mag := ulps_strictMono.le_iff_le
  have ha := hpos a.mag
  have hb := hpos b.mag
  have hza : a.mag = 0 → ulps a.mag = 0 := fun h => by rw [h, h0]
  have hzb : b.mag = 0 → ulps b.mag = 0 := fun h => by rw [h, h0]
  simp only [units, key]
  split_ifs <;> omega

/-- The order of the numbers is the order of their rational values. -/
theorem toRat_le_iff {a b : Binary32} : a.toRat ≤ b.toRat ↔ a.key ≤ b.key := by
  -- Both values have the denominator `2^149`.
  rw [← units_le_iff, toRat, toRat, div_le_div_iff_of_pos_right (by positivity)]
  exact Int.cast_le

/-- The number nearest to an integer count of units. -/
def roundUnits (z : ℤ) : Binary32 := ofMag (decide (z < 0)) (roundQuot z.natAbs 1)

/-- Rounding to a number is monotone. -/
theorem key_roundUnits_le {y z : ℤ} (h : y ≤ z) : (roundUnits y).key ≤ (roundUnits z).key := by
  have hmono : ∀ m n : ℕ, m ≤ n → min (roundQuot m 1) infMag ≤ min (roundQuot n 1) infMag :=
    fun m n hmn => min_le_min_right _
      (roundQuot_le_roundQuot Nat.one_pos Nat.one_pos (by omega))
  simp only [roundUnits, key_ofMag]
  -- A negative number rounds to at most zero, and any other to at least zero.
  rcases lt_or_ge y 0 with hy | hy <;> rcases lt_or_ge z 0 with hz | hz
  · have := hmono z.natAbs y.natAbs (by omega)
    simp only [hy, hz, decide_true, if_true]
    omega
  · simp only [hy, not_lt.mpr hz, decide_true, decide_false, if_true, Bool.false_eq_true, if_false]
    omega
  · omega
  · have := hmono y.natAbs z.natAbs (by omega)
    simp only [not_lt.mpr hy, not_lt.mpr hz, decide_false, Bool.false_eq_true, if_false]
    omega

/-- A number that is not a NaN rounds to itself. -/
theorem key_roundUnits_units {x : Binary32} (hx : ¬x.IsNaN) : (roundUnits x.units).key = x.key := by
  have hmag : x.mag ≤ infMag := not_lt.mp hx
  have h0 : x.mag = 0 → ulps x.mag = 0 := fun h => by rw [h]; rfl
  have hpos : 0 < x.mag → 0 < ulps x.mag := fun h => by
    have := ulps_strictMono h
    omega
  have habs : x.units.natAbs = ulps x.mag := by
    unfold units
    split_ifs <;> omega
  unfold roundUnits
  rw [key_ofMag, habs, roundQuot_ulps, min_eq_left hmag]
  -- Zero has two patterns, which have the same place in the order.
  by_cases hneg : x.neg = true
  · have hu : x.units = -(ulps x.mag : ℤ) := if_pos hneg
    unfold key
    rw [if_pos hneg]
    by_cases hlt : x.units < 0
    · rw [if_pos (by simpa using hlt)]
    · rw [if_neg (by simpa using hlt)]
      omega
  · have hu : x.units = (ulps x.mag : ℤ) := if_neg hneg
    unfold key
    rw [if_neg hneg, if_neg (by simp; omega)]

/-- The sum, rounded to nearest. -/
def add (a b : Binary32) : Binary32 :=
  if a.IsNaN ∨ b.IsNaN then nan
  else if ¬a.IsFinite then (if ¬b.IsFinite ∧ a.neg ≠ b.neg then nan else a)
  else if ¬b.IsFinite then b
  else if a.units + b.units = 0 then ofMag (a.neg && b.neg) 0
  else roundUnits (a.units + b.units)

instance : Add Binary32 := ⟨add⟩

/-- The sum of two finite numbers has the place of their rounded exact sum. -/
theorem key_add {a b : Binary32} (ha : a.IsFinite) (hb : b.IsFinite) :
    (a + b).key = (roundUnits (a.units + b.units)).key ∧ ¬(a + b).IsNaN := by
  have hdef : a + b = add a b := rfl
  rw [hdef, add, if_neg (by simp [ha.not_isNaN, hb.not_isNaN]), if_neg (by simpa using ha),
    if_neg (by simpa using hb)]
  split_ifs with h0
  · -- An exact zero keeps a sign of its own, which the order does not see.
    rw [h0, roundUnits, key_ofMag, key_ofMag]
    refine ⟨?_, not_isNaN_ofMag _ _⟩
    have : roundQuot 0 1 = 0 := roundQuot_ulps 0
    simp [this]
  · exact ⟨rfl, not_isNaN_ofMag _ _⟩

/-- A number that does not exceed an exact sum does not exceed the rounded sum. -/
theorem le_add_of_toRat_le {x a b : Binary32} (hx : ¬x.IsNaN) (ha : a.IsFinite)
    (hb : b.IsFinite) (h : x.toRat ≤ a.toRat + b.toRat) : x ≤ a + b := by
  obtain ⟨hkey, hnan⟩ := key_add ha hb
  refine ⟨hx, hnan, ?_⟩
  -- Values compare as whole numbers of units.
  have hu : x.units ≤ a.units + b.units := by
    have hp : (0 : ℚ) < 2^149 := by positivity
    rw [toRat, toRat, toRat, ← add_div, div_le_div_iff_of_pos_right hp] at h
    exact_mod_cast h
  rw [hkey, ← key_roundUnits_units hx]
  exact key_roundUnits_le hu

/-- The product, rounded to nearest. -/
def mul (a b : Binary32) : Binary32 :=
  if a.IsNaN ∨ b.IsNaN then nan
  else if ¬a.IsFinite ∨ ¬b.IsFinite then
    (if a.mag = 0 ∨ b.mag = 0 then nan else ofMag (a.neg != b.neg) infMag)
  else ofMag (a.neg != b.neg) (roundQuot (ulps a.mag * ulps b.mag) (2^149))

instance : Mul Binary32 := ⟨mul⟩

/-- The quotient, rounded to nearest. -/
def div (a b : Binary32) : Binary32 :=
  if a.IsNaN ∨ b.IsNaN then nan
  else if ¬a.IsFinite then (if ¬b.IsFinite then nan else ofMag (a.neg != b.neg) infMag)
  else if ¬b.IsFinite then ofMag (a.neg != b.neg) 0
  else if b.mag = 0 then (if a.mag = 0 then nan else ofMag (a.neg != b.neg) infMag)
  else ofMag (a.neg != b.neg) (roundQuot (ulps a.mag * 2^149) (ulps b.mag))

instance : Div Binary32 := ⟨div⟩

/-- The number nearest to a natural number. -/
def ofNat (n : ℕ) : Binary32 := roundUnits (n * 2^149)

/-- The number nearest to an integer. -/
def ofInt (z : ℤ) : Binary32 := roundUnits (z * 2^149)

/-- The value truncated toward zero, as an integer conversion computes it. -/
def trunc (x : Binary32) : ℤ :=
  if x.neg then -((ulps x.mag / 2^149 : ℕ) : ℤ) else (ulps x.mag / 2^149 : ℕ)

/-- Conversion to an unsigned integer of `w` bits: undefined on a NaN, on an infinity, and when the
truncated value is out of range. -/
def toUnsigned (w : ℕ) (x : Binary32) : Option ℕ :=
  if x.IsFinite ∧ 0 ≤ x.trunc ∧ x.trunc < 2^w then some x.trunc.toNat else none

/-! ## Numbers without sign -/

/-- Zero has the key 0. -/
theorem key_ofNat_zero : (ofNat 0).key = 0 := by decide +kernel

/-- Zero is not a NaN. -/
theorem not_isNaN_ofNat_zero : ¬(ofNat 0).IsNaN := by decide +kernel

/-- A number above zero has no sign, and it is no zero. -/
theorem neg_eq_false_of_pos {x : Binary32} (h : ofNat 0 < x) : x.neg = false ∧ 0 < x.mag := by
  have hkey : 0 < x.key := key_ofNat_zero ▸ h.2.2
  unfold key at hkey
  split_ifs at hkey with hneg
  · omega
  · exact ⟨Bool.eq_false_of_not_eq_true hneg, by omega⟩

/-- A number without sign has the place of its pattern. -/
theorem key_eq_mag {x : Binary32} (h : x.neg = false) : x.key = x.mag := by
  rw [key, h]
  rfl

/-- Numbers without sign are ordered like their patterns. -/
theorem le_iff_mag_le {x y : Binary32} (hx : x.neg = false) (hy : y.neg = false)
    (hx' : ¬x.IsNaN) (hy' : ¬y.IsNaN) : x ≤ y ↔ x.mag ≤ y.mag := by
  rw [le_def, key_eq_mag hx, key_eq_mag hy, Nat.cast_le]
  exact ⟨fun h => h.2.2, fun h => ⟨hx', hy', h⟩⟩

/-- Numbers without a sign are ordered as their magnitudes. -/
theorem lt_iff_mag_lt {x y : Binary32} (hx : x.neg = false) (hy : y.neg = false)
    (hx' : ¬x.IsNaN) (hy' : ¬y.IsNaN) : x < y ↔ x.mag < y.mag := by
  change (¬x.IsNaN ∧ ¬y.IsNaN ∧ x.key < y.key) ↔ _
  rw [key_eq_mag hx, key_eq_mag hy, Nat.cast_lt]
  exact ⟨fun h => h.2.2, fun h => ⟨hx', hy', h⟩⟩

/-- A magnitude without a sign gives a number without one. -/
theorem neg_ofMag_false (m : ℕ) : (ofMag false m).neg = false := by
  have h : min m infMag < 2^31 := lt_of_le_of_lt (min_le_right _ _) (by norm_num [infMag])
  rw [neg, toNat_ofMag]
  simp only [Bool.false_eq_true, if_false, decide_eq_false_iff_not]
  omega

/-- The product of finite numbers without sign. -/
theorem mul_eq_ofMag {x y : Binary32} (hx : x.IsFinite) (hy : y.IsFinite) (hx' : x.neg = false)
    (hy' : y.neg = false) :
    x * y = ofMag false (roundQuot (ulps x.mag * ulps y.mag) (2^149)) := by
  change mul x y = _
  rw [mul, if_neg (not_or.mpr ⟨hx.not_isNaN, hy.not_isNaN⟩),
    if_neg (not_or.mpr ⟨not_not_intro hx, not_not_intro hy⟩), hx', hy']
  rfl

/-- The quotient of finite numbers without sign. -/
theorem div_eq_ofMag {x y : Binary32} (hx : x.IsFinite) (hy : y.IsFinite) (hx' : x.neg = false)
    (hy' : y.neg = false) (hpos : 0 < y.mag) :
    x / y = ofMag false (roundQuot (ulps x.mag * 2^149) (ulps y.mag)) := by
  change div x y = _
  rw [div, if_neg (not_or.mpr ⟨hx.not_isNaN, hy.not_isNaN⟩), if_neg (not_not_intro hx),
    if_neg (not_not_intro hy), if_neg hpos.ne', hx', hy']
  rfl

/-! ## Bounds -/

/-- A bound of the size is a bound of the place on both sides. -/
theorem mag_le_iff {x : Binary32} {m : ℕ} : x.mag ≤ m ↔ -(m : ℤ) ≤ x.key ∧ x.key ≤ m := by
  unfold key
  split_ifs <;> omega

/-- The product of bounded numbers is bounded by the rounded product of the bounds. -/
theorem mag_mul_le {x y : Binary32} {m n : ℕ} (hm : m < infMag) (hn : n < infMag) (hx : x.mag ≤ m)
    (hy : y.mag ≤ n) :
    ¬(x * y).IsNaN ∧ (x * y).mag ≤ roundQuot (ulps m * ulps n) (2^149) := by
  have hx' : x.IsFinite := hx.trans_lt hm
  have hy' : y.IsFinite := hy.trans_lt hn
  have hprod : x * y = ofMag (x.neg != y.neg) (roundQuot (ulps x.mag * ulps y.mag) (2^149)) := by
    change mul x y = _
    rw [mul, if_neg (not_or.mpr ⟨hx'.not_isNaN, hy'.not_isNaN⟩),
      if_neg (not_or.mpr ⟨not_not_intro hx', not_not_intro hy'⟩)]
  have hpow : 0 < 2^149 := by positivity
  rw [hprod, mag_ofMag]
  refine ⟨not_isNaN_ofMag _ _, (min_le_left _ _).trans ?_⟩
  exact roundQuot_le_roundQuot hpow hpow (Nat.mul_le_mul_right _ (Nat.mul_le_mul
    (ulps_strictMono.monotone hx) (ulps_strictMono.monotone hy)))

/-- A product with a NaN. -/
theorem mul_of_isNaN {x y : Binary32} (h : x.IsNaN ∨ y.IsNaN) : x * y = nan := if_pos h

/-- The number in the interval that is nearest to `v`, by two comparisons. -/
def clamp (v lo hi : Binary32) : Binary32 := if v < lo then lo else if hi < v then hi else v

/-- A number is brought into the interval. -/
theorem clamp_mem {v lo hi : Binary32} (hv : ¬v.IsNaN) (h : lo ≤ hi) :
    lo ≤ clamp v lo hi ∧ clamp v lo hi ≤ hi := by
  obtain ⟨hlo, hhi, hkey⟩ := h
  unfold clamp
  split_ifs with hlt hgt
  · exact ⟨⟨hlo, hlo, le_rfl⟩, hlo, hhi, hkey⟩
  · exact ⟨⟨hlo, hhi, hkey⟩, hhi, hhi, le_rfl⟩
  · refine ⟨⟨hlo, hv, ?_⟩, hv, hhi, ?_⟩
    · by_contra hk
      exact hlt ⟨hv, hlo, by omega⟩
    · by_contra hk
      exact hgt ⟨hhi, hv, by omega⟩

/-- A NaN compares with no bound, so it stays. -/
theorem clamp_of_isNaN {v : Binary32} (hv : v.IsNaN) (lo hi : Binary32) : clamp v lo hi = v := by
  unfold clamp
  rw [if_neg (fun h => h.1 hv), if_neg (fun h => h.2.1 hv)]

example : ofNat 15 + ofNat 2 = ⟨0x41880000⟩ := by decide +kernel

example : (⟨0x3DCCCCCD⟩ + ⟨0x3E4CCCCD⟩ : Binary32) = ⟨0x3E99999A⟩ := by decide +kernel

example : (⟨0x3DCCCCCD⟩ * ofNat 1000 : Binary32) = ofNat 100 := by decide +kernel

example : (ofNat 1 / ofNat 10 : Binary32) = ⟨0x3DCCCCCD⟩ := by decide +kernel

end Binary32

end DeltaV
