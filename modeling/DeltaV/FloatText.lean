import DeltaV.Decimal
import DeltaV.Lib.SixDigits
import Mathlib.Data.List.DropRight

/-!
# Printing and reading floats

What `operator<<` writes for a float, which is the `%g` form with six significant digits, and what
`operator>>` reads: white space and a sign are taken, then digits with a point and an exponent, and
the result is the nearest number. `readDecimal` is the part of it that all readers of decimals share.
What is read of a finite number that was printed is `reread` (`extractFloat_formatG`). It is the
number itself exactly when that is the nearest to a decimal with at most six digits
(`reread_eq_some_iff`). Infinities and NaNs are printed as words, and not read.
-/

namespace DeltaV

open Binary32 SixDigits

/-! ## Printing -/

/-- The last digits of a number. -/
def lastDigits : ℕ → ℕ → Text
  | 0, _ => []
  | k + 1, n => lastDigits k (n / 10) ++ [UInt8.ofNat (48 + n % 10)]

/-- Digits behind a point, which is left out when there are none. -/
def fractionText (digits : Text) : Text := if digits = [] then [] else 46 :: digits

/-- Removes the zeros at the end. -/
def stripZeros (digits : Text) : Text := digits.rdropWhile fun c => c = 48

/-- The sign of a number. -/
def signText (neg : Bool) : Text := if neg then ascii "-" else []

/-- The sign of a negative number is a minus. -/
@[simp] theorem signText_true : signText true = [45] := by decide

/-- A number without a sign has no text for it. -/
@[simp] theorem signText_false : signText false = [] := rfl

/-- A number with at least two digits. -/
def twoDigits (n : ℕ) : Text := (if n < 10 then ascii "0" else []) ++ decimal n

/-- An exponent; places are counted from `10^-50`. -/
def exponentText (place : ℕ) : Text :=
  ascii "e" ++ if place < 50 then ascii "-" ++ twoDigits (50 - place)
    else ascii "+" ++ twoDigits (place - 50)

/-- Six digits in the shorter of the two forms of `%g`, without the zeros at the end. -/
def formatDigits (digits place : ℕ) : Text :=
  if 46 ≤ place ∧ place < 56 then
    decimal (digits / 10^(55 - place)) ++ fractionText (stripZeros (lastDigits (55 - place) digits))
  else
    decimal (digits / 10^5) ++ fractionText (stripZeros (lastDigits 5 digits)) ++
      exponentText place

/-- `stream << value`. -/
def formatG (value : Binary32) : Text :=
  signText value.neg ++
    if value.IsNaN then ascii "nan"
    else if ¬value.IsFinite then ascii "inf"
    else if value.mag = 0 then ascii "0"
    else formatDigits (printed (ulps value.mag)).1 (printed (ulps value.mag)).2

example : formatG (Binary32.ofNat 1234567) = ascii "1.23457e+06" := by decide +kernel

/-! ## Reading -/

/-- Takes a sign off. -/
def skipSign (t : Text) : Text := if t.head? = some 45 ∨ t.head? = some 43 then t.tail else t

/-- Digits behind a point, and what follows. -/
def readFraction (t : Text) : Text × Text :=
  if t.head? = some 46 then (t.tail.takeWhile isDigit, t.tail.dropWhile isDigit) else ([], t)

/-- The sign and the size of an exponent, and what follows; `none` when it has no digits. -/
def readExponent (t : Text) : Option ((Bool × ℕ) × Text) :=
  if t.head? = some 101 ∨ t.head? = some 69 then
    let neg := decide (t.tail.head? = some 45)
    let t := skipSign t.tail
    let digits := t.takeWhile isDigit
    if digits = [] then none else some ((neg, digitsValue digits), t.dropWhile isDigit)
  else some ((false, 0), t)

/-- The number with the sign and the pattern; `none` when it is out of range. -/
def inRange (neg : Bool) (n : ℕ) : Option Binary32 :=
  if infMag ≤ n then none else some (ofMag neg n)

/-- The pattern nearest to a decimal with the given number of digits behind the point. -/
def nearestMag (m point : ℕ) (exponent : Bool × ℕ) : ℕ :=
  let num := if exponent.1 then m else m * 10^exponent.2
  let den := if exponent.1 then 10^point * 10^exponent.2 else 10^point
  roundQuot (num * 2^149) den

/-- `stream >> value` for a value of type `float`, and what follows in the stream; `none` when the
extraction fails. -/
def extractFloat (t : Text) : Option (Binary32 × Text) :=
  let t := t.dropWhile isSpace
  let neg := decide (t.head? = some 45)
  let t := skipSign t
  let whole := t.takeWhile isDigit
  let fraction := readFraction (t.dropWhile isDigit)
  if whole = [] ∧ fraction.1 = [] then none
  else
    (readExponent fraction.2).bind fun exponent =>
      (inRange neg
        (nearestMag (digitsValue (whole ++ fraction.1)) fraction.1.length exponent.1)).map
          fun value => (value, exponent.2)

/-- The digits of a decimal without a sign as one number, the number of them that stand behind the
point, the exponent, and what follows; `none` when it is no decimal. -/
def readDecimal (t : Text) : Option ((ℕ × ℕ × Bool × ℕ) × Text) :=
  let whole := t.takeWhile isDigit
  let fraction := readFraction (t.dropWhile isDigit)
  if whole = [] ∧ fraction.1 = [] then none
  else
    (readExponent fraction.2).map fun exponent =>
      ((digitsValue (whole ++ fraction.1), fraction.1.length, exponent.1), exponent.2)

/-- A decimal is taken apart before its value is rounded. -/
theorem extractFloat_eq (t : Text) :
    extractFloat t =
      (readDecimal (skipSign (t.dropWhile isSpace))).bind fun r =>
        (inRange (decide ((t.dropWhile isSpace).head? = some 45))
          (nearestMag r.1.1 r.1.2.1 r.1.2.2)).map fun value => (value, r.2) := by
  unfold extractFloat readDecimal
  dsimp only
  split_ifs
  · rfl
  · rw [Option.bind_map]
    rfl

example : (extractFloat (ascii " -2.5e-1\n")).map Prod.snd = some (ascii "\n") := by decide +kernel

/-! ## Digits -/

/-- The value of digits in two parts, with the second part to the right of the first. -/
theorem digitsValue_append (s t : Text) :
    digitsValue (s ++ t) = digitsValue s * 10^t.length + digitsValue t := by
  have hfold : ∀ (t : Text) v, t.foldl (fun v c => 10 * v + (c.toNat - 48)) v =
      v * 10^t.length + digitsValue t := by
    intro t
    induction t with
    | nil => intro v; exact (Nat.mul_one v).symm
    | cons c t ih =>
      intro v
      have hvalue :
          digitsValue (c :: t) = (10 * 0 + (c.toNat - 48)) * 10^t.length + digitsValue t := ih _
      rw [List.foldl_cons, ih, hvalue, List.length_cons, pow_succ']
      ring
  rw [digitsValue, List.foldl_append, hfold]
  rfl

/-- The last digits of a number are as many as asked for. -/
@[simp] theorem length_lastDigits (k n : ℕ) : (lastDigits k n).length = k := by
  induction k generalizing n with
  | zero => rfl
  | succ k ih => rw [lastDigits, List.length_append, ih, List.length_singleton]

/-- The value of a digit. -/
theorem digit_toNat {d : ℕ} (h : d < 10) : (UInt8.ofNat (48 + d)).toNat - 48 = d := by
  rw [UInt8.toNat_ofNat']
  omega

/-- The character of a digit is a digit. -/
theorem isDigit_digit {d : ℕ} (h : d < 10) : isDigit (UInt8.ofNat (48 + d)) = true := by
  interval_cases d <;> rfl

/-- The value of the last digits of a number is its remainder. -/
theorem digitsValue_lastDigits (k n : ℕ) : digitsValue (lastDigits k n) = n % 10^k := by
  induction k generalizing n with
  | zero => exact (Nat.mod_one n).symm
  | succ k ih =>
    have hdigit : digitsValue [UInt8.ofNat (48 + n % 10)] = n % 10 := by
      show 10 * 0 + ((UInt8.ofNat (48 + n % 10)).toNat - 48) = n % 10
      rw [digit_toNat (Nat.mod_lt n (by decide)), Nat.mul_zero, Nat.zero_add]
    rw [lastDigits, digitsValue_append, ih, hdigit, List.length_singleton, pow_one, pow_succ',
      Nat.mod_mul]
    ring

/-- The last digits of a number are digits. -/
theorem isDigit_lastDigits (k n : ℕ) : ∀ c ∈ lastDigits k n, isDigit c = true := by
  induction k generalizing n with
  | zero => exact fun c hc => absurd hc List.not_mem_nil
  | succ k ih =>
    intro c hc
    rcases List.mem_append.mp hc with hc | hc
    · exact ih _ c hc
    · rw [List.mem_singleton.mp hc]
      exact isDigit_digit (Nat.mod_lt n (by decide))

/-- The zeros at the end only move the point. -/
theorem digitsValue_stripZeros (s t : Text) :
    digitsValue (s ++ stripZeros t) * 10^t.length =
      digitsValue (s ++ t) * 10^(stripZeros t).length := by
  induction t using List.reverseRecOn with
  | nil => rfl
  | append_singleton t c ih =>
    unfold stripZeros at ih ⊢
    rw [List.rdropWhile_concat]
    split_ifs with hc
    · have hzero : c = 48 := of_decide_eq_true hc
      have hlast : digitsValue (s ++ (t ++ [c])) = digitsValue (s ++ t) * 10 := by
        rw [← List.append_assoc, digitsValue_append, hzero]
        rfl
      rw [hlast, List.length_append, List.length_singleton, pow_succ, ← Nat.mul_assoc, ih]
      ring
    · rfl

/-- What is left of digits without trailing zeros are digits. -/
theorem isDigit_stripZeros {t : Text} (h : ∀ c ∈ t, isDigit c = true) :
    ∀ c ∈ stripZeros t, isDigit c = true := fun c hc =>
  h c ((List.rdropWhile_prefix _ t).subset hc)

/-! ## Reading what was printed -/

/-- What is read of a number that was printed; `none` when the extraction fails. -/
def reread (value : Binary32) : Option Binary32 :=
  if ¬value.IsFinite then none
  else if value.mag = 0 then some value
  else
    let digits := printed (ulps value.mag)
    inRange value.neg (roundQuot (digits.1 * 10^digits.2 * 2^149) (10^55))

/-- A text that does not begin with white space, a sign or a digit is behind a number. -/
theorem head_of_isDigit {c : UInt8} (h : isDigit c = true) :
    isSpace c = false ∧ c ≠ 45 ∧ c ≠ 43 ∧ c ≠ 46 := by
  have hbounds : 48 ≤ c ∧ c ≤ 57 := of_decide_eq_true h
  rw [UInt8.le_iff_toNat_le, UInt8.le_iff_toNat_le] at hbounds
  have hlow : 48 ≤ c.toNat := hbounds.1
  refine ⟨decide_eq_false ?_, ?_, ?_, ?_⟩
  · rintro (rfl | ⟨-, hle⟩)
    · exact absurd hlow (by decide)
    · rw [UInt8.le_iff_toNat_le] at hle
      exact absurd (hlow.trans hle) (by decide)
  all_goals
    rintro rfl
    exact absurd hlow (by decide)

/-- Digits are taken up to the first byte that is none. -/
theorem takeWhile_digits {digits tail : Text} (hdigits : ∀ c ∈ digits, isDigit c = true)
    (htail : tail.takeWhile isDigit = []) :
    (digits ++ tail).takeWhile isDigit = digits ∧ (digits ++ tail).dropWhile isDigit = tail := by
  have hdrop : tail.dropWhile isDigit = tail := by
    have hsplit := List.takeWhile_append_dropWhile (p := isDigit) (l := tail)
    rwa [htail, List.nil_append] at hsplit
  rw [List.takeWhile_append_of_pos hdigits, List.dropWhile_append_of_pos hdigits, htail, hdrop,
    List.append_nil]
  exact ⟨rfl, rfl⟩

/-- The digits behind a point are read back. -/
theorem readFraction_text {digits tail : Text} (hdigits : ∀ c ∈ digits, isDigit c = true)
    (htail : tail.takeWhile isDigit = []) (hpoint : tail.head? ≠ some 46) :
    readFraction (fractionText digits ++ tail) = (digits, tail) := by
  unfold fractionText readFraction
  split_ifs with hnil hhead hhead
  · exact absurd hhead hpoint
  · rw [hnil]
    rfl
  · obtain ⟨htake, hdrop⟩ := takeWhile_digits hdigits htail
    rw [List.cons_append, List.tail_cons, htake, hdrop]
  · exact absurd rfl hhead

/-- A sign is taken off a text that begins with neither white space nor a sign. -/
theorem skip_sign (neg : Bool) {c : UInt8} (tail : Text) (hspace : isSpace c = false)
    (hminus : c ≠ 45) (hplus : c ≠ 43) :
    (signText neg ++ c :: tail).dropWhile isSpace = signText neg ++ c :: tail ∧
      decide ((signText neg ++ c :: tail).head? = some 45) = neg ∧
      skipSign (signText neg ++ c :: tail) = c :: tail := by
  cases neg
  · rw [signText_false, List.nil_append, List.dropWhile_cons_of_neg (by simp [hspace]), skipSign,
      List.head?_cons]
    simp [hminus, hplus]
  · rw [signText_true, List.singleton_append, List.dropWhile_cons_of_neg (by decide), skipSign,
      List.head?_cons]
    simp

/-- There is nothing to take off a number that was printed. -/
theorem skip_decimal (n : ℕ) (tail : Text) :
    (decimal n ++ tail).dropWhile isSpace = decimal n ++ tail ∧
      (decimal n ++ tail).head? ≠ some 45 ∧ skipSign (decimal n ++ tail) = decimal n ++ tail := by
  obtain ⟨c, cs, hdigits⟩ := List.exists_cons_of_ne_nil (decimal_ne_nil n)
  obtain ⟨hspace, hminus, hplus, -⟩ :=
    head_of_isDigit (isDigit_decimal n c (hdigits ▸ List.mem_cons_self))
  obtain ⟨hdrop, hneg, hbody⟩ := skip_sign false (cs ++ tail) hspace hminus hplus
  rw [hdigits, List.cons_append]
  exact ⟨hdrop, of_decide_eq_false hneg, hbody⟩

/-- A decimal in the form in which it is printed is read as far as it goes. -/
theorem readDecimal_text {whole digits tail rest : Text} {exponent : Bool × ℕ}
    (hne : whole ≠ []) (hwhole : ∀ c ∈ whole, isDigit c = true)
    (hdigits : ∀ c ∈ digits, isDigit c = true) (htail : tail.takeWhile isDigit = [])
    (hpoint : tail.head? ≠ some 46) (hexponent : readExponent tail = some (exponent, rest)) :
    readDecimal (whole ++ (fractionText digits ++ tail)) =
      some ((digitsValue (whole ++ digits), digits.length, exponent), rest) := by
  -- What follows the digits before the point is no digit.
  have hbehind : (fractionText digits ++ tail).takeWhile isDigit = [] := by
    unfold fractionText
    split_ifs
    · exact htail
    · rfl
  obtain ⟨htake, hdrop⟩ := takeWhile_digits hwhole hbehind
  unfold readDecimal
  dsimp only
  rw [htake, hdrop, readFraction_text hdigits htail hpoint, if_neg (fun hnil => hne hnil.1),
    hexponent, Option.map_some]

/-- A word is not read. -/
theorem extractFloat_word (neg : Bool) {c : UInt8} (tail : Text) (hdigit : isDigit c = false)
    (hspace : isSpace c = false) (hminus : c ≠ 45) (hplus : c ≠ 43) (hpoint : c ≠ 46) :
    extractFloat (32 :: (signText neg ++ c :: tail)) = none := by
  obtain ⟨hdrop, -, hbody⟩ := skip_sign neg tail hspace hminus hplus
  have hnone : ¬isDigit c = true := by rw [hdigit]; exact Bool.false_ne_true
  rw [extractFloat_eq, List.dropWhile_cons_of_pos (by decide), hdrop, hbody, readDecimal,
    List.takeWhile_cons_of_neg hnone, List.dropWhile_cons_of_neg hnone, readFraction,
    List.head?_cons, if_neg (fun heq => hpoint (Option.some.inj heq)), if_pos ⟨rfl, rfl⟩,
    Option.bind_none]

/-- The result depends on the value of the decimal only. -/
theorem nearestMag_eq {m point d place : ℕ} {exponent : Bool × ℕ}
    (h : (if exponent.1 then m else m * 10^exponent.2) * 10^55 =
      d * 10^place * if exponent.1 then 10^point * 10^exponent.2 else 10^point) :
    nearestMag m point exponent = roundQuot (d * 10^place * 2^149) (10^55) := by
  have hden : 0 < if exponent.1 then 10^point * 10^exponent.2 else 10^point := by
    split_ifs <;> positivity
  unfold nearestMag
  dsimp only
  generalize (if exponent.1 then m else m * 10^exponent.2) = num at h
  generalize (if exponent.1 then 10^point * 10^exponent.2 else 10^point) = den at h hden
  have hten : ∀ k, 0 < 10^k := fun k => Nat.pow_pos (by decide)
  have hcross : num * 2^149 * 10^55 = d * 10^place * 2^149 * den := by
    rw [Nat.mul_right_comm, h, Nat.mul_right_comm]
  exact roundQuot_congr hden (hten 55) hcross

/-- The exponent brings the point back to where it was. -/
theorem nearestMag_split {m point d k place e : ℕ} (h : m * 10^k = d * 10^point) :
    (e + 55 = k + place → nearestMag m point (false, e) =
      roundQuot (d * 10^place * 2^149) (10^55)) ∧
    (k + place + e = 55 → nearestMag m point (true, e) =
      roundQuot (d * 10^place * 2^149) (10^55)) := by
  constructor
  · intro hexponent
    refine nearestMag_eq ?_
    calc m * 10^e * 10^55 = m * 10^(k + place) := by
          rw [Nat.mul_assoc, ← pow_add, hexponent]
      _ = d * 10^point * 10^place := by rw [pow_add, ← Nat.mul_assoc, h]
      _ = d * 10^place * 10^point := Nat.mul_right_comm _ _ _
  · intro hexponent
    refine nearestMag_eq ?_
    calc m * 10^55 = m * 10^(k + (place + e)) := by rw [← hexponent, Nat.add_assoc]
      _ = d * 10^point * 10^(place + e) := by rw [pow_add, ← Nat.mul_assoc, h]
      _ = d * 10^place * (10^point * 10^e) := by rw [pow_add, Nat.mul_mul_mul_comm]

/-- A number is its upper and its lower digits. -/
theorem digitsValue_split (k d : ℕ) :
    digitsValue (decimal (d / 10^k) ++ stripZeros (lastDigits k d)) * 10^k =
      d * 10^(stripZeros (lastDigits k d)).length := by
  have hstrip := digitsValue_stripZeros (decimal (d / 10^k)) (lastDigits k d)
  rw [length_lastDigits] at hstrip
  rw [hstrip, digitsValue_append, digitsValue_decimal, digitsValue_lastDigits, length_lastDigits,
    Nat.div_add_mod']

/-- At least two digits have the value of their number. -/
theorem twoDigits_spec (n : ℕ) :
    (∀ c ∈ twoDigits n, isDigit c = true) ∧ digitsValue (twoDigits n) = n ∧ twoDigits n ≠ [] := by
  have hzero : ascii "0" = [48] := by decide
  unfold twoDigits
  rw [hzero]
  refine ⟨fun c hc => ?_, ?_, fun hnil => decimal_ne_nil n (List.append_eq_nil_iff.mp hnil).2⟩
  · rcases List.mem_append.mp hc with hc | hc
    · split_ifs at hc
      · rw [List.mem_singleton.mp hc]
        rfl
      · exact absurd hc List.not_mem_nil
    · exact isDigit_decimal n c hc
  · rw [digitsValue_append, digitsValue_decimal]
    split_ifs
    · exact (congrArg (· + n) (Nat.zero_mul _)).trans (Nat.zero_add n)
    · exact (congrArg (· + n) (Nat.zero_mul _)).trans (Nat.zero_add n)

/-- An exponent is read back. -/
theorem readExponent_exponentText (place : ℕ) {rest : Text} (hrest : rest.takeWhile isDigit = []) :
    readExponent (exponentText place ++ rest) =
      some (if place < 50 then (true, 50 - place) else (false, place - 50), rest) := by
  have he : ascii "e" = [101] := by decide
  have hminus : ascii "-" = [45] := by decide
  have hplus : ascii "+" = [43] := by decide
  have hread : ∀ neg n, readExponent (101 :: (if neg then 45 else 43) :: (twoDigits n ++ rest)) =
      some ((neg, n), rest) := by
    intro neg n
    obtain ⟨hdigits, hvalue, hne⟩ := twoDigits_spec n
    obtain ⟨htake, hdrop⟩ := takeWhile_digits hdigits hrest
    have hskip : skipSign ((if neg then 45 else 43) :: (twoDigits n ++ rest)) =
        twoDigits n ++ rest := by
      rw [skipSign, List.head?_cons, List.tail_cons, if_pos]
      cases neg
      · exact Or.inr rfl
      · exact Or.inl rfl
    unfold readExponent
    rw [List.head?_cons, if_pos (Or.inl rfl), List.tail_cons]
    dsimp only
    rw [hskip, List.head?_cons, htake, hdrop, if_neg hne, hvalue]
    cases neg <;> rfl
  rw [exponentText, he, hminus, hplus]
  split_ifs
  · exact hread true (50 - place)
  · exact hread false (place - 50)

/-- No decimal goes on with the text. -/
def EndsNumber (rest : Text) : Prop :=
  ∀ c, rest.head? = some c → isDigit c = false ∧ c ≠ 46 ∧ c ≠ 101 ∧ c ≠ 69

/-- The end of the text ends a number. -/
theorem endsNumber_nil : EndsNumber [] := fun c h => absurd h (Option.some_ne_none c).symm

/-- The end of a line ends a number. -/
theorem endsNumber_newline (rest : Text) : EndsNumber (10 :: rest) := by
  intro c h
  obtain rfl : 10 = c := Option.some.inj h
  decide

/-- Behind a number there is no digit. -/
theorem EndsNumber.takeWhile_digits {rest : Text} (h : EndsNumber rest) :
    rest.takeWhile isDigit = [] := by
  cases rest with
  | nil => rfl
  | cons c rest => rw [List.takeWhile_cons_of_neg (by simp [(h c rfl).1])]

/-- Behind a number there is no exponent. -/
theorem EndsNumber.readExponent {rest : Text} (h : EndsNumber rest) :
    readExponent rest = some ((false, 0), rest) := by
  have hletter : ¬(rest.head? = some 101 ∨ rest.head? = some 69) := by
    rintro (heq | heq)
    · exact (h 101 heq).2.2.1 rfl
    · exact (h 69 heq).2.2.2 rfl
  rw [DeltaV.readExponent, if_neg hletter]

/-- Printed digits are read back as a decimal with their value. -/
theorem readDecimal_formatDigits (d place : ℕ) {rest : Text} (hrest : EndsNumber rest) :
    ∃ r, readDecimal (formatDigits d place ++ rest) = some (r, rest) ∧
      nearestMag r.1 r.2.1 r.2.2 = roundQuot (d * 10^place * 2^149) (10^55) := by
  unfold formatDigits
  split_ifs with hfixed
  · have hpoint : rest.head? ≠ some 46 := fun heq => (hrest 46 heq).2.1 rfl
    have hsplit := digitsValue_split (55 - place) d
    rw [List.append_assoc,
      readDecimal_text (decimal_ne_nil _) (isDigit_decimal _)
        (isDigit_stripZeros (isDigit_lastDigits _ _)) hrest.takeWhile_digits hpoint
        hrest.readExponent]
    exact ⟨_, rfl, (nearestMag_split hsplit).1 (show 0 + 55 = 55 - place + place by omega)⟩
  · have hread := readExponent_exponentText place hrest.takeWhile_digits
    have hletter : ∀ tail,
        exponentText place ++ tail = 101 :: (exponentText place ++ tail).tail := by
      have he : ascii "e" = [101] := by decide
      intro tail
      rw [exponentText, he]
      rfl
    have hsplit := digitsValue_split 5 d
    rw [List.append_assoc, List.append_assoc,
      readDecimal_text (decimal_ne_nil _) (isDigit_decimal _)
        (isDigit_stripZeros (isDigit_lastDigits _ _)) (by rw [hletter]; rfl)
        (by rw [hletter]; simp) hread]
    refine ⟨_, rfl, ?_⟩
    dsimp only
    split_ifs
    · exact (nearestMag_split hsplit).2 (show 5 + place + (50 - place) = 55 by omega)
    · exact (nearestMag_split hsplit).1 (show place - 50 + 55 = 5 + place by omega)

/-- A finite number as it is printed, without its sign. -/
def magText (value : Binary32) : Text :=
  if value.mag = 0 then ascii "0"
  else formatDigits (printed (ulps value.mag)).1 (printed (ulps value.mag)).2

/-- The pattern that is nearest to a finite number as it is printed. -/
def printedMag (value : Binary32) : ℕ :=
  if value.mag = 0 then 0
  else
    roundQuot ((printed (ulps value.mag)).1 * 10^(printed (ulps value.mag)).2 * 2^149) (10^55)

/-- A finite number is printed as its sign and its magnitude. -/
theorem formatG_of_finite {value : Binary32} (h : value.IsFinite) :
    formatG value = signText value.neg ++ magText value := by
  unfold formatG magText
  rw [if_neg h.not_isNaN, if_neg (not_not.mpr h)]

/-- A number is printed with a digit first. -/
theorem magText_eq_cons (value : Binary32) :
    ∃ c cs, magText value = c :: cs ∧ isDigit c = true := by
  have hdecimal (n : ℕ) (tail : Text) :
      ∃ c cs, decimal n ++ tail = c :: cs ∧ isDigit c = true := by
    obtain ⟨c, cs, hcs⟩ := List.exists_cons_of_ne_nil (decimal_ne_nil n)
    exact ⟨c, cs ++ tail, by rw [hcs, List.cons_append],
      isDigit_decimal n c (hcs ▸ List.mem_cons_self)⟩
  unfold magText formatDigits
  split_ifs
  · exact ⟨48, [], by decide, by decide⟩
  · exact hdecimal _ _
  · rw [List.append_assoc]
    exact hdecimal _ _

/-- A number that was printed is read back as a decimal with its value. -/
theorem readDecimal_magText (value : Binary32) {rest : Text} (hrest : EndsNumber rest) :
    ∃ r, readDecimal (magText value ++ rest) = some (r, rest) ∧
      nearestMag r.1 r.2.1 r.2.2 = printedMag value := by
  unfold magText printedMag
  split_ifs
  · have htext : ascii "0" ++ rest = [48] ++ (fractionText [] ++ rest) := by
      have hdigit : ascii "0" = [48] := by decide
      rw [hdigit]
      rfl
    have hdigits : ∀ c ∈ ([48] : Text), isDigit c = true := fun c hc => by
      rw [List.mem_singleton.mp hc]
      rfl
    have hnil : ∀ c ∈ ([] : Text), isDigit c = true := fun c hc => absurd hc List.not_mem_nil
    have hpoint : rest.head? ≠ some 46 := fun heq => (hrest 46 heq).2.1 rfl
    rw [htext, readDecimal_text (List.cons_ne_nil _ _) hdigits hnil hrest.takeWhile_digits hpoint
      hrest.readExponent]
    have hround : roundQuot (0 * 10^0 * 2^149) (10^0) = 0 := roundQuot_ulps 0
    exact ⟨_, rfl, hround⟩
  · exact readDecimal_formatDigits _ _ hrest

/-- A number is its sign and its pattern. -/
theorem ofMag_self {value : Binary32} (h : value.IsFinite) : ofMag value.neg value.mag = value := by
  have hlt := value.bits.toNat_lt
  have hmin : min value.mag infMag = value.mag := Nat.min_eq_left (Nat.le_of_lt h)
  have hbits : (ofMag value.neg value.mag).bits = value.bits := by
    apply UInt32.toNat_inj.mp
    rw [toNat_ofMag, hmin]
    unfold Binary32.neg mag
    rcases Nat.lt_or_ge value.bits.toNat (2^31) with hpos | hneg
    · rw [decide_eq_false (not_le.mpr hpos), if_neg Bool.false_ne_true, Nat.mod_eq_of_lt hpos,
        Nat.zero_add]
    · rw [decide_eq_true hneg, if_pos rfl]
      omega
  exact congrArg Binary32.mk hbits

/-- What is read of a finite number is nearest to what was printed. -/
theorem reread_of_finite {value : Binary32} (h : value.IsFinite) :
    reread value = inRange value.neg (printedMag value) := by
  unfold reread printedMag
  rw [if_neg (not_not.mpr h)]
  split_ifs with hzero
  · have hself := ofMag_self h
    rw [hzero] at hself
    rw [inRange, if_neg (by decide), hself]
  · rfl

/-- What is read of a number that was printed. -/
theorem extractFloat_formatG (value : Binary32) (rest : Text) :
    extractFloat (32 :: (formatG value ++ 10 :: rest)) =
      (reread value).map fun value => (value, 10 :: rest) := by
  by_cases hfinite : value.IsFinite
  · obtain ⟨c, cs, htext, hdigit⟩ := magText_eq_cons value
    obtain ⟨hspace, hminus, hplus, -⟩ := head_of_isDigit hdigit
    obtain ⟨r, hread, hmag⟩ := readDecimal_magText value (endsNumber_newline rest)
    rw [formatG_of_finite hfinite, List.append_assoc]
    rw [htext, List.cons_append] at hread ⊢
    obtain ⟨hdrop, hneg, hbody⟩ := skip_sign value.neg (cs ++ 10 :: rest) hspace hminus hplus
    rw [extractFloat_eq, List.dropWhile_cons_of_pos (by decide), hdrop, hneg, hbody, hread,
      Option.bind_some, hmag, reread_of_finite hfinite]
  · unfold formatG reread
    rw [if_pos hfinite, if_pos hfinite, Option.map_none, List.append_assoc]
    have hnan : ascii "nan" = [110, 97, 110] := by decide
    have hinf : ascii "inf" = [105, 110, 102] := by decide
    split_ifs
    · rw [hnan]
      exact extractFloat_word _ _ (by decide) (by decide) (by decide) (by decide) (by decide)
    · rw [hinf]
      exact extractFloat_word _ _ (by decide) (by decide) (by decide) (by decide) (by decide)

/-- The bytes that finite numbers are printed with are among these. -/
def Numeral (c : UInt8) : Prop := (43 ≤ c.toNat ∧ c.toNat ≤ 57) ∨ c = 101

instance (c : UInt8) : Decidable (Numeral c) := inferInstanceAs (Decidable (_ ∨ _))

/-- A digit belongs to a numeral. -/
theorem numeral_of_isDigit {c : UInt8} (h : isDigit c = true) : Numeral c := by
  have hbounds : 48 ≤ c ∧ c ≤ 57 := of_decide_eq_true h
  rw [UInt8.le_iff_toNat_le, UInt8.le_iff_toNat_le] at hbounds
  have hlow : 48 ≤ c.toNat := hbounds.1
  exact Or.inl ⟨by omega, hbounds.2⟩

/-- The digits of a number, with or without a point, belong to a numeral. -/
theorem numeral_formatDigits (d place : ℕ) : ∀ c ∈ formatDigits d place, Numeral c := by
  have hdecimal (n : ℕ) : ∀ c ∈ decimal n, Numeral c := fun c hc =>
    numeral_of_isDigit (isDigit_decimal n c hc)
  have hfraction (k n : ℕ) : ∀ c ∈ fractionText (stripZeros (lastDigits k n)), Numeral c := by
    intro c hc
    unfold fractionText at hc
    split_ifs at hc
    · exact absurd hc List.not_mem_nil
    · rcases List.mem_cons.mp hc with rfl | hc
      · exact Or.inl (by decide)
      · exact numeral_of_isDigit (isDigit_stripZeros (isDigit_lastDigits _ _) c hc)
  have hexponent (place : ℕ) : ∀ c ∈ exponentText place, Numeral c := by
    have he : ascii "e" = [101] := by decide
    have hminus : ascii "-" = [45] := by decide
    have hplus : ascii "+" = [43] := by decide
    have htwo (n : ℕ) : ∀ c ∈ twoDigits n, Numeral c := fun c hc =>
      numeral_of_isDigit ((twoDigits_spec n).1 c hc)
    rw [exponentText, he, hminus, hplus]
    refine List.forall_mem_cons.mpr ⟨Or.inr rfl, ?_⟩
    split_ifs
    · exact List.forall_mem_cons.mpr ⟨Or.inl (by decide), htwo _⟩
    · exact List.forall_mem_cons.mpr ⟨Or.inl (by decide), htwo _⟩
  unfold formatDigits
  split_ifs
  · exact List.forall_mem_append.mpr ⟨hdecimal _, hfraction _ _⟩
  · exact List.forall_mem_append.mpr
      ⟨List.forall_mem_append.mpr ⟨hdecimal _, hfraction _ _⟩, hexponent _⟩

/-- The text of a magnitude consists of characters of numerals. -/
theorem numeral_magText (value : Binary32) : ∀ c ∈ magText value, Numeral c := by
  have hzero : ascii "0" = [48] := by decide
  unfold magText
  split_ifs
  · rw [hzero]
    exact List.forall_mem_singleton.mpr (Or.inl (by decide))
  · exact numeral_formatDigits _ _

/-- The number is the nearest to a decimal with at most six digits. -/
def HasSixDigits (value : Binary32) : Prop :=
  value.IsFinite ∧ ∃ m a b, m < 10^6 ∧ value.mag = roundQuot (m * 10^a * 2^149) (10^b)

/-- A number survives being printed and read exactly when it is the nearest to a decimal with at
most six digits. -/
theorem reread_eq_some_iff (value : Binary32) : reread value = some value ↔ HasSixDigits value := by
  unfold reread HasSixDigits
  by_cases hfinite : value.IsFinite
  · rw [if_neg (not_not.mpr hfinite)]
    split_ifs with hzero
    · have hround : 0 = roundQuot (0 * 10^0 * 2^149) (10^0) := (roundQuot_ulps 0).symm
      exact iff_of_true rfl ⟨hfinite, 0, 0, 0, by decide, hzero.trans hround⟩
    · have hpos : 0 < value.mag := Nat.pos_of_ne_zero hzero
      have hbounds := printed_bounds (ulps_strictMono hpos)
      dsimp only
      constructor
      · intro h
        unfold inRange at h
        split_ifs at h with hrange
        refine ⟨hfinite, (printed (ulps value.mag)).1, (printed (ulps value.mag)).2, 55,
          hbounds.2, ?_⟩
        have hmag := congrArg mag (Option.some.inj h)
        rw [mag_ofMag, Nat.min_eq_left (Nat.le_of_lt (not_le.mp hrange))] at hmag
        exact hmag.symm
      · rintro ⟨-, m, a, b, hm, hround⟩
        rw [roundQuot_printed hpos hm hround.symm, inRange, if_neg (not_le.mpr hfinite),
          ofMag_self hfinite]
  · rw [if_pos hfinite]
    exact iff_of_false (Option.some_ne_none value).symm fun h => hfinite h.1

end DeltaV
