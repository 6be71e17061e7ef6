import DeltaV.Lib.Binary32
import Mathlib.Data.Nat.Log

/-!
# Six significant digits

A number printed with six significant digits is replaced by the nearest multiple of a power of ten,
which is read back as the nearest `binary32` number. `printed` gives the six digits and their place.
The number that is read back is the one that was printed exactly when that one is the nearest to
some decimal with at most six digits (`roundQuot_printed`): for a normal number the digits are then
that decimal, since multiples of the power of ten are further apart than the numbers, and the
subnormal numbers are evenly spaced, so the nearest multiple is as good as any other.
-/

namespace DeltaV

open Binary32

namespace SixDigits

/-! ## Rounding to a multiple -/

/-- The whole number nearest to `num / den`; at a midpoint, the even one. -/
def roundHalfEven (num den : ℕ) : ℕ :=
  if 2 * (num % den) < den then num / den
  else if 2 * (num % den) = den then num / den + num / den % 2
  else num / den + 1

/-- The nearest whole number is within one half. -/
theorem roundHalfEven_bounds (num : ℕ) {den : ℕ} (hden : 0 < den) :
    2 * num ≤ 2 * (roundHalfEven num den * den) + den ∧
      2 * (roundHalfEven num den * den) ≤ 2 * num + den := by
  have hdm := Nat.div_add_mod' num den
  have hlt := Nat.mod_lt num hden
  have hsucc : (num / den + 1) * den = num / den * den + den := Nat.succ_mul _ _
  unfold roundHalfEven
  split_ifs
  · omega
  · rcases Nat.mod_two_eq_zero_or_one (num / den) with h | h <;> rw [h]
    · rw [Nat.add_zero]
      omega
    · omega
  · omega

/-- A whole number within less than one half is the nearest one. -/
theorem roundHalfEven_eq {num den k : ℕ} (hden : 0 < den) (hlo : 2 * num < 2 * (k * den) + den)
    (hhi : 2 * (k * den) < 2 * num + den) : roundHalfEven num den = k := by
  obtain ⟨hlo', hhi'⟩ := roundHalfEven_bounds num hden
  rcases Nat.lt_trichotomy (roundHalfEven num den) k with hlt | heq | hlt
  · have hstep := Nat.mul_le_mul_right den (Nat.succ_le_of_lt hlt)
    rw [Nat.succ_mul] at hstep
    omega
  · exact heq
  · have hstep := Nat.mul_le_mul_right den (Nat.succ_le_of_lt hlt)
    rw [Nat.succ_mul] at hstep
    omega

/-- No multiple is closer. -/
theorem roundHalfEven_closest (num k : ℕ) {den : ℕ} (hden : 0 < den) :
    ((roundHalfEven num den * den : ℕ) - num : ℤ).natAbs ≤ ((k * den : ℕ) - num : ℤ).natAbs := by
  by_cases hnear : 2 * num < 2 * (k * den) + den ∧ 2 * (k * den) < 2 * num + den
  · rw [roundHalfEven_eq hden hnear.1 hnear.2]
  · have hbounds := roundHalfEven_bounds num hden
    omega

/-! ## Digits -/

/-- The place of the first digit of `u` units of `2^-149`, counted from `10^-50`. -/
def lead (u : ℕ) : ℕ := Nat.log 10 (u * 10^50 / 2^149)

/-- The weight of the sixth digit, in units of `10^-50 * 2^-149`. -/
def weight (u : ℕ) : ℕ := 10^(lead u - 5) * 2^149

/-- The number as a multiple of the weight. -/
def digits (u : ℕ) : ℕ := roundHalfEven (u * 10^50) (weight u)

/-- The six digits, and the place of the first. -/
def printed (u : ℕ) : ℕ × ℕ :=
  if digits u = 10^6 then (10^5, lead u + 1) else (digits u, lead u)

/-- Weights are positive. -/
theorem weight_pos (u : ℕ) : 0 < weight u := by
  unfold weight
  positivity

/-- The first digit is at least six places above the smallest number's. -/
theorem five_le_lead {u : ℕ} (hu : 0 < u) : 5 ≤ lead u := by
  have hle : 10^5 ≤ u * 10^50 / 2^149 := by
    rw [Nat.le_div_iff_mul_le (by positivity)]
    calc 10^5 * 2^149 ≤ 1 * 10^50 := by norm_num
      _ ≤ u * 10^50 := Nat.mul_le_mul_right _ hu
  exact Nat.le_log_of_pow_le (by decide) hle

/-- The weight of a value makes its first six digits. -/
theorem weight_mul {u : ℕ} (hu : 0 < u) : 10^5 * weight u = 10^lead u * 2^149 := by
  have hlead := five_le_lead hu
  rw [weight, ← Nat.mul_assoc, ← pow_add, Nat.add_sub_cancel' hlead]

/-- The number has six digits before its sixth. -/
theorem weight_bounds {u : ℕ} (hu : 0 < u) :
    10^5 * weight u ≤ u * 10^50 ∧ u * 10^50 < 10^6 * weight u := by
  have hne : u * 10^50 / 2^149 ≠ 0 := by
    have hone : 2^149 ≤ u * 10^50 := by
      calc 2^149 ≤ 1 * 10^50 := by norm_num
        _ ≤ u * 10^50 := Nat.mul_le_mul_right _ hu
    exact Nat.ne_of_gt (Nat.div_pos hone (by positivity))
  have hlo : 10^lead u ≤ u * 10^50 / 2^149 := Nat.pow_log_le_self 10 hne
  have hhi : u * 10^50 / 2^149 < 10^(lead u + 1) := Nat.lt_pow_succ_log_self (by decide) _
  rw [Nat.le_div_iff_mul_le (by positivity)] at hlo
  rw [Nat.div_lt_iff_lt_mul (by positivity)] at hhi
  have hweight := weight_mul hu
  constructor
  · rw [hweight]
    exact hlo
  · calc u * 10^50 < 10^(lead u + 1) * 2^149 := hhi
      _ = 10 * (10^lead u * 2^149) := by ring
      _ = 10^6 * weight u := by rw [← hweight]; ring

/-- There are six digits, unless the number was rounded up to the next power of ten. -/
theorem digits_bounds {u : ℕ} (hu : 0 < u) : 10^5 ≤ digits u ∧ digits u ≤ 10^6 := by
  obtain ⟨hlo, hhi⟩ := weight_bounds hu
  obtain ⟨hlo', hhi'⟩ := roundHalfEven_bounds (u * 10^50) (weight_pos u)
  have hpos := weight_pos u
  change _ ≤ 2 * (digits u * weight u) + _ at hlo'
  change 2 * (digits u * weight u) ≤ _ at hhi'
  constructor
  · by_contra hlt
    have hstep := Nat.mul_le_mul_right (weight u) (Nat.succ_le_of_lt (not_le.mp hlt))
    rw [Nat.succ_mul] at hstep
    omega
  · by_contra hlt
    have hstep := Nat.mul_le_mul_right (weight u) (Nat.succ_le_of_lt (not_le.mp hlt))
    rw [Nat.succ_mul] at hstep
    omega

/-- Six digits are printed. -/
theorem printed_bounds {u : ℕ} (hu : 0 < u) :
    10^5 ≤ (printed u).1 ∧ (printed u).1 < 10^6 := by
  obtain ⟨hlo, hhi⟩ := digits_bounds hu
  unfold printed
  split_ifs with h
  · exact ⟨le_rfl, Nat.pow_lt_pow_right (by decide) (by decide)⟩
  · exact ⟨hlo, Nat.lt_of_le_of_ne hhi h⟩

/-- They are the multiple of the weight. -/
theorem printed_value {u : ℕ} (hu : 0 < u) :
    (printed u).1 * 10^(printed u).2 * 2^149 = digits u * weight u * 10^5 := by
  have hweight := weight_mul hu
  unfold printed
  split_ifs with h
  · rw [h]
    calc 10^5 * 10^(lead u + 1) * 2^149 = 10^6 * (10^lead u * 2^149) := by ring
      _ = 10^6 * weight u * 10^5 := by rw [← hweight]; ring
  · calc digits u * 10^lead u * 2^149 = digits u * (10^lead u * 2^149) := by ring
      _ = digits u * weight u * 10^5 := by rw [← hweight]; ring

/-! ## Reading back -/

/-- A decimal of six digits that a number is nearest to may be taken from the multiples of the
weight. -/
theorem exists_multiple {n m a b : ℕ} (hn : 0 < n) (hm : m < 10^6)
    (h : roundQuot (m * 10^a * 2^149) (10^b) = n) :
    ∃ k, roundQuot (k * weight (ulps n)) (10^50) = n := by
  have hu : 0 < ulps n := ulps_strictMono hn
  have hlead := five_le_lead hu
  have hweight := weight_mul hu
  obtain ⟨hlo, -⟩ := weight_bounds hu
  have hten : ∀ k, 0 < 10^k := fun k => Nat.pow_pos (by decide)
  by_cases hsmall : m * 10^a * 10^50 < 10^lead (ulps n) * 10^b
  · -- Below the first power of ten there are finer decimals, but the power of ten is closer.
    refine ⟨10^5, Nat.le_antisymm ?_ ?_⟩
    · calc roundQuot (10^5 * weight (ulps n)) (10^50) ≤ roundQuot (ulps n) 1 :=
            roundQuot_le_roundQuot (hten 50) Nat.one_pos (by rw [Nat.mul_one]; exact hlo)
        _ = n := roundQuot_ulps n
    · calc n = roundQuot (m * 10^a * 2^149) (10^b) := h.symm
        _ ≤ roundQuot (10^5 * weight (ulps n)) (10^50) := by
          refine roundQuot_le_roundQuot (hten b) (hten 50) ?_
          rw [hweight]
          calc m * 10^a * 2^149 * 10^50 = m * 10^a * 10^50 * 2^149 := by ring
            _ ≤ 10^lead (ulps n) * 10^b * 2^149 := Nat.mul_le_mul_right _ hsmall.le
            _ = 10^lead (ulps n) * 2^149 * 10^b := by ring
  · have hplace : lead (ulps n) + b < a + 56 := by
      rw [← Nat.pow_lt_pow_iff_right (show 1 < 10 by decide)]
      calc 10^(lead (ulps n) + b) = 10^lead (ulps n) * 10^b := pow_add _ _ _
        _ ≤ m * 10^a * 10^50 := not_lt.mp hsmall
        _ < 10^6 * 10^a * 10^50 := by
          refine Nat.mul_lt_mul_of_pos_right ?_ (hten 50)
          exact Nat.mul_lt_mul_of_pos_right hm (hten a)
        _ = 10^(a + 56) := by ring
    refine ⟨m * 10^(a + 55 - (lead (ulps n) + b)), ?_⟩
    refine (roundQuot_congr (hten 50) (hten b) ?_).trans h
    -- The exponents on both sides have the same sum.
    have hexp : 10^(a + 55 - (lead (ulps n) + b)) * 10^(lead (ulps n) - 5) * 10^b =
        10^a * 10^50 := by
      rw [← pow_add, ← pow_add, ← pow_add]
      congr 1
      omega
    have hgather : ∀ x y z q : ℕ, m * x * (y * q) * z = m * q * (x * y * z) :=
      fun x y z q => by ring
    have hspread : ∀ x y q : ℕ, m * q * (x * y) = m * x * q * y := fun x y q => by ring
    rw [weight, hgather, hexp, hspread]

/-- The values around a normal number are closer to it than half the weight. -/
theorem gap_lt_weight {n : ℕ} (hn : 2^23 ≤ n) : 2^(n / 2^23 - 1) * 10^50 < weight (ulps n) := by
  have hvalue : 2^23 * 2^(n / 2^23 - 1) ≤ ulps n := by
    rw [ulps, if_neg (not_lt.mpr hn)]
    exact Nat.mul_le_mul_right _ (Nat.le_add_right _ _)
  have hu : 0 < ulps n := ulps_strictMono (show 0 < n by omega)
  obtain ⟨-, hhi⟩ := weight_bounds hu
  refine Nat.lt_of_mul_lt_mul_left (a := 2^23) ?_
  calc 2^23 * (2^(n / 2^23 - 1) * 10^50) = 2^23 * 2^(n / 2^23 - 1) * 10^50 :=
        (Nat.mul_assoc _ _ _).symm
    _ ≤ ulps n * 10^50 := Nat.mul_le_mul_right _ hvalue
    _ < 10^6 * weight (ulps n) := hhi
    _ ≤ 2^23 * weight (ulps n) := Nat.mul_le_mul_right _ (by norm_num)

/-- A midpoint is half a gap above the value before it, and half a gap below the next. -/
theorem mid_eq (den n : ℕ) :
    mid den n = 2 * (ulps n * den) + 2^(n / 2^23 - 1) * den ∧
      mid den n + 2^(n / 2^23 - 1) * den = 2 * (ulps (n + 1) * den) := by
  rw [mid, ulps_succ]
  constructor <;> ring

/-- Near a normal number there is one multiple of the weight at most, the one that is printed. -/
theorem digits_of_normal {n k : ℕ} (hn : 2^23 ≤ n)
    (h : Nearest (k * weight (ulps n)) (10^50) n) : digits (ulps n) = k := by
  have hgap := gap_lt_weight hn
  obtain ⟨p, rfl⟩ : ∃ p, n = p + 1 := ⟨n - 1, by omega⟩
  have hup := (mid_eq (10^50) (p + 1)).1
  have hdown := (mid_eq (10^50) p).2
  have hmono : 2^(p / 2^23 - 1) * 10^50 ≤ 2^((p + 1) / 2^23 - 1) * 10^50 :=
    Nat.mul_le_mul_right _ (Nat.pow_le_pow_right (by decide) (by omega))
  refine roundHalfEven_eq (weight_pos _) ?_ ?_
  · rcases h.above p rfl with habove | ⟨habove, -⟩ <;> omega
  · rcases h.below with hbelow | ⟨hbelow, -⟩ <;> omega

/-- The subnormal numbers are evenly spaced, so the multiple that is closest to one of them is
nearest to it if any is. -/
theorem nearest_of_subnormal {n k : ℕ} (hn : n < 2^23)
    (h : Nearest (k * weight (ulps n)) (10^50) n) :
    Nearest (digits (ulps n) * weight (ulps n)) (10^50) n := by
  have hclosest := roundHalfEven_closest (ulps n * 10^50) k (weight_pos (ulps n))
  change ((digits (ulps n) * weight (ulps n) : ℕ) - _ : ℤ).natAbs ≤ _ at hclosest
  have hgap : ∀ m ≤ n, 2^(m / 2^23 - 1) = 1 := by
    intro m hm
    rw [Nat.div_eq_of_lt (hm.trans_lt hn)]
    rfl
  have hup := (mid_eq (10^50) n).1
  rw [hgap n le_rfl] at hup
  have hdown : ∀ m, m + 1 = n → mid (10^50) m + 10^50 = 2 * (ulps n * 10^50) := by
    rintro m rfl
    have heq := (mid_eq (10^50) m).2
    rwa [hgap m (Nat.le_succ m), Nat.one_mul] at heq
  have hbelow := h.below
  have habove := h.above
  generalize digits (ulps n) * weight (ulps n) = x at hclosest ⊢
  generalize k * weight (ulps n) = y at hclosest hbelow habove
  obtain ⟨z, hz⟩ : ∃ z, z = ulps n * 10^50 := ⟨_, rfl⟩
  rw [← hz] at hclosest hup hdown
  cases n with
  | zero =>
    have hzero : z = 0 := hz.trans (Nat.zero_mul _)
    exact ⟨by omega, fun m hm => absurd hm (Nat.succ_ne_zero m)⟩
  | succ m =>
    have hprev := hdown m rfl
    have habove := habove m rfl
    refine ⟨by omega, fun m' hm' => ?_⟩
    rw [Nat.succ.inj hm']
    omega

/-- A number that is nearest to a decimal of six digits is read back from the digits printed. -/
theorem roundQuot_printed {n m a b : ℕ} (hn : 0 < n) (hm : m < 10^6)
    (h : roundQuot (m * 10^a * 2^149) (10^b) = n) :
    roundQuot ((printed (ulps n)).1 * 10^(printed (ulps n)).2 * 2^149) (10^55) = n := by
  have hu : 0 < ulps n := ulps_strictMono hn
  have hten : ∀ k, 0 < 10^k := fun k => Nat.pow_pos (by decide)
  obtain ⟨k, hk⟩ := exists_multiple hn hm h
  have hnear := (roundQuot_eq_iff (hten 50)).mp hk
  have hvalue : roundQuot ((printed (ulps n)).1 * 10^(printed (ulps n)).2 * 2^149) (10^55) =
      roundQuot (digits (ulps n) * weight (ulps n)) (10^50) := by
    refine roundQuot_congr (hten 55) (hten 50) ?_
    rw [printed_value hu]
    ring
  rw [hvalue]
  rcases Nat.lt_or_ge n (2^23) with hsub | hnormal
  · exact (roundQuot_eq_iff (hten 50)).mpr (nearest_of_subnormal hsub hnear)
  · rw [digits_of_normal hnormal hnear, hk]

end SixDigits

end DeltaV
