import DeltaV.Types
import Mathlib.Tactic.IntervalCases
import Mathlib.Tactic.Ring

/-!
# Reading decimal numbers

What `operator>>` reads from a stream into a `uint32_t`: white space is skipped, a sign is taken,
and the digits are read as far as they go. A number that was printed is read back, and when only the
first digits of it are there, they are the number without its last digits (`take_decimal`).
-/

namespace DeltaV

/-- White space in the C locale. -/
def isSpace (c : UInt8) : Bool := decide (c = 32 ∨ (9 ≤ c ∧ c ≤ 13))

/-- A decimal digit. -/
def isDigit (c : UInt8) : Bool := decide (48 ≤ c ∧ c ≤ 57)

/-- The number with the given digits, most significant first. -/
def digitsValue (t : Text) : ℕ := t.foldl (fun v c => 10 * v + (c.toNat - 48)) 0

/-- `stream >> value` for a value of type `uint32_t`; `none` when the extraction fails. A negative
number is taken modulo `2^32`. -/
def extractUint32 (t : Text) : Option ℕ :=
  let t := t.dropWhile isSpace
  let neg := decide (t.head? = some 45)
  let t := if t.head? = some 45 ∨ t.head? = some 43 then t.tail else t
  let digits := t.takeWhile isDigit
  if digits = [] ∨ 2^32 ≤ digitsValue digits then none
  else some (if neg then (2^32 - digitsValue digits) % 2^32 else digitsValue digits)

/-! ## Digits -/

/-- The byte of a digit. -/
theorem digitChar_toUInt8 {d : ℕ} (h : d < 10) :
    (Nat.digitChar d).val.toUInt8 = UInt8.ofNat (48 + d) := by
  interval_cases d <;> rfl

/-- A number below ten is its digit. -/
theorem decimal_of_lt {n : ℕ} (h : n < 10) : decimal n = [UInt8.ofNat (48 + n)] := by
  rw [decimal, Nat.toDigits_of_lt_base h, List.map_singleton, digitChar_toUInt8 h]

/-- Another number ends in its last digit. -/
theorem decimal_of_ge {n : ℕ} (h : 10 ≤ n) :
    decimal n = decimal (n / 10) ++ [UInt8.ofNat (48 + n % 10)] := by
  rw [decimal, Nat.toDigits_of_base_le (by decide) h, List.map_append, List.map_singleton,
    digitChar_toUInt8 (Nat.mod_lt n (by decide))]
  rfl

/-- A number has a digit. -/
theorem decimal_ne_nil (n : ℕ) : decimal n ≠ [] := by
  rw [decimal, Ne, List.map_eq_nil_iff]
  exact Nat.toDigits_ne_nil

/-- How many digits a number has. -/
theorem length_decimal_le_iff {n k : ℕ} (hk : 0 < k) : (decimal n).length ≤ k ↔ n < 10^k := by
  rw [decimal, List.length_map]
  exact Nat.length_toDigits_le_iff (by decide) hk

/-- A number printed is made of digits. -/
theorem isDigit_decimal (n : ℕ) : ∀ c ∈ decimal n, isDigit c = true := by
  have hdigit : ∀ d, d < 10 → isDigit (UInt8.ofNat (48 + d)) = true := by
    intro d hd
    interval_cases d <;> rfl
  induction n using Nat.strong_induction_on with
  | _ n ih =>
    rcases lt_or_ge n 10 with h | h
    · rw [decimal_of_lt h]
      intro c hc
      rw [List.mem_singleton.mp hc]
      exact hdigit n h
    · rw [decimal_of_ge h]
      intro c hc
      rcases List.mem_append.mp hc with hc | hc
      · exact ih (n / 10) (by omega) c hc
      · rw [List.mem_singleton.mp hc]
        exact hdigit _ (Nat.mod_lt n (by decide))

/-- The digits of a number have its value. -/
theorem digitsValue_decimal (n : ℕ) : digitsValue (decimal n) = n := by
  have hlast : ∀ d, d < 10 → (UInt8.ofNat (48 + d)).toNat - 48 = d := by
    intro d hd
    rw [UInt8.toNat_ofNat']
    omega
  induction n using Nat.strong_induction_on with
  | _ n ih =>
    rcases lt_or_ge n 10 with h | h
    · rw [decimal_of_lt h]
      show 10 * 0 + ((UInt8.ofNat (48 + n)).toNat - 48) = n
      rw [hlast n h]
      omega
    · have hrest := ih (n / 10) (by omega)
      unfold digitsValue at hrest ⊢
      rw [decimal_of_ge h, List.foldl_append, hrest]
      show 10 * (n / 10) + ((UInt8.ofNat (48 + n % 10)).toNat - 48) = n
      rw [hlast _ (Nat.mod_lt n (by decide))]
      omega

/-- The first digits of a number are the number without its last digits. -/
theorem take_decimal {n k : ℕ} (hk : 0 < k) (hle : k ≤ (decimal n).length) :
    (decimal n).take k = decimal (n / 10^((decimal n).length - k)) := by
  induction n using Nat.strong_induction_on with
  | _ n ih =>
    rcases lt_or_ge n 10 with h | h
    · have hlen : (decimal n).length = 1 := by rw [decimal_of_lt h]; rfl
      obtain rfl : k = 1 := by omega
      rw [hlen, Nat.sub_self, pow_zero, Nat.div_one, List.take_of_length_le hlen.le]
    · have hlen : (decimal n).length = (decimal (n / 10)).length + 1 := by
        rw [decimal_of_ge h, List.length_append, List.length_singleton]
      rcases hle.eq_or_lt with heq | hlt
      · rw [heq, Nat.sub_self, pow_zero, Nat.div_one, List.take_length]
      · -- The last digit is not among the first ones.
        have htake : (decimal n).take k = (decimal (n / 10)).take k := by
          rw [decimal_of_ge h, List.take_append_of_le_length (by omega)]
        rw [htake, ih (n / 10) (by omega) (by omega), Nat.div_div_eq_div_mul, ← pow_succ', hlen,
          show (decimal (n / 10)).length + 1 - k = (decimal (n / 10)).length - k + 1 by omega]

/-! ## Extraction -/

/-- Digits are read up to the first byte that is none. -/
theorem extractUint32_digits {digits rest : Text} (hne : digits ≠ [])
    (hdigits : ∀ c ∈ digits, isDigit c = true) (hrest : rest.takeWhile isDigit = [])
    (hlt : digitsValue digits < 2^32) :
    extractUint32 (digits ++ rest) = some (digitsValue digits) := by
  obtain ⟨c, cs, rfl⟩ := List.exists_cons_of_ne_nil hne
  have hc : isDigit c = true := hdigits c List.mem_cons_self
  have hbounds : 48 ≤ c ∧ c ≤ 57 := of_decide_eq_true hc
  rw [UInt8.le_iff_toNat_le, UInt8.le_iff_toNat_le] at hbounds
  -- A digit is neither white space nor a sign.
  have hspace : isSpace c = false := by
    refine decide_eq_false ?_
    rintro (rfl | ⟨-, h⟩)
    · exact absurd hbounds (by decide)
    · rw [UInt8.le_iff_toNat_le] at h
      exact absurd (hbounds.1.trans h) (by decide)
  have hminus : c ≠ 45 := by
    rintro rfl
    exact absurd hbounds (by decide)
  have hplus : c ≠ 43 := by
    rintro rfl
    exact absurd hbounds (by decide)
  have htake : (c :: cs ++ rest).takeWhile isDigit = c :: cs := by
    rw [List.takeWhile_append_of_pos hdigits, hrest, List.append_nil]
  have hdrop : (c :: cs ++ rest).dropWhile isSpace = c :: cs ++ rest := by
    rw [List.cons_append, List.dropWhile_cons_of_neg (by simp [hspace])]
  have hhead : (c :: cs ++ rest).head? = some c := rfl
  simp only [extractUint32, hdrop, hhead, Option.some.injEq, hminus, hplus, or_self, if_false,
    htake, decide_false, Bool.false_eq_true]
  rw [if_neg (not_or.mpr ⟨hne, not_le.mpr hlt⟩)]

/-- A printed number is read back, whether or not the line ends behind it. -/
theorem extractUint32_decimal {n : ℕ} (h : n < 2^32) :
    extractUint32 (decimal n) = some n ∧ extractUint32 (decimal n ++ ascii "\n") = some n := by
  have hlt : digitsValue (decimal n) < 2^32 := by rwa [digitsValue_decimal]
  have hread : ∀ rest, rest.takeWhile isDigit = [] →
      extractUint32 (decimal n ++ rest) = some n := by
    intro rest hrest
    rw [extractUint32_digits (decimal_ne_nil n) (isDigit_decimal n) hrest hlt, digitsValue_decimal]
  refine ⟨?_, hread _ (by decide)⟩
  have hnil := hread [] rfl
  rwa [List.append_nil] at hnil

end DeltaV
