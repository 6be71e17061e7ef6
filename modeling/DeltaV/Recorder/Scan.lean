import DeltaV.FloatText

/-!
# Scanning numbers

The conversions `%u` and `%f` of `sscanf`, as glibc has them on a host with a 64-bit `long`. Both
cut a text that looks like a number off the stream, and `strtoul` and `strtof` say what it stands
for. Unlike `operator>>`, the second also reads words and hexadecimal numbers, leaves an exponent
without digits out, and makes an infinity of what is out of range. A word that was printed is read
back (`scanUnsigned_decimal`), and a finite number is read as the nearest to the digits that were
printed, which is the number itself exactly when six digits determine it (`scanned_eq_iff`).
-/

namespace DeltaV

open Binary32

/-! ## Conversions -/

/-- The low half of the result of `strtoul`, which is the largest number if the digits make up a
larger one. -/
def strtoul (neg : Bool) (n : ℕ) : UInt32 :=
  if 2^64 ≤ n then 0xFFFFFFFF else if neg then 0 - UInt32.ofNat n else UInt32.ofNat n

/-- `%u`. -/
def scanUnsigned (t : Text) : Option (UInt32 × Text) :=
  let t := t.dropWhile isSpace
  let neg := decide (t.head? = some 45)
  let body := skipSign t
  let digits := body.takeWhile isDigit
  if digits = [] then none else some (strtoul neg (digitsValue digits), body.dropWhile isDigit)

/-- The sign and the size of an exponent; `strtof` stops before one without digits. -/
def scanExponent (t : Text) : Bool × ℕ := ((readExponent t).map Prod.fst).getD (false, 0)

/-- A decimal without its sign. -/
def scanDecimal (neg : Bool) (t : Text) : Option Binary32 :=
  let whole := t.takeWhile isDigit
  let fraction := readFraction (t.dropWhile isDigit)
  if whole = [] ∧ fraction.1 = [] then none
  else
    some (ofMag neg (nearestMag (digitsValue (whole ++ fraction.1)) fraction.1.length
      (scanExponent fraction.2)))

/-- A letter in lower case. -/
def toLower (c : UInt8) : UInt8 := if 65 ≤ c ∧ c ≤ 90 then c + 32 else c

/-- A hexadecimal digit. -/
def isHexDigit (c : UInt8) : Bool :=
  isDigit c || decide (97 ≤ toLower c ∧ toLower c ≤ 102)

/-- The number with the given hexadecimal digits. -/
def hexValue (t : Text) : ℕ :=
  t.foldl (fun v c => 16 * v + (if isDigit c then c.toNat - 48 else (toLower c).toNat - 87)) 0

/-- A hexadecimal number behind its `0x`. -/
def scanHex (neg : Bool) (t : Text) : Option Binary32 :=
  let whole := t.takeWhile isHexDigit
  let rest := t.dropWhile isHexDigit
  let point := decide (rest.head? = some 46)
  let fraction := if point then rest.tail.takeWhile isHexDigit else []
  let rest := if point then rest.tail.dropWhile isHexDigit else rest
  let m := hexValue (whole ++ fraction)
  if whole = [] ∧ fraction = [] then
    -- With a point the text is more than the `0x`, of which `strtof` reads the zero.
    if point then some (ofMag neg 0) else none
  else
    -- The exponent is one of two, behind another letter.
    let e :=
      if rest.head? = some 112 ∨ rest.head? = some 80 then scanExponent (101 :: rest.tail)
      else (false, 0)
    some (ofMag neg (roundQuot ((if e.1 then m else m * 2^e.2) * 2^149)
      (16^fraction.length * if e.1 then 2^e.2 else 1)))

/-- `%f`. -/
def scanFloat (t : Text) : Option Binary32 :=
  let t := t.dropWhile isSpace
  let neg := decide (t.head? = some 45)
  let body := skipSign t
  let word := body.map toLower
  if ascii "nan" <+: word then some (if neg then ⟨0xFFC00000⟩ else nan)
  else if ascii "inf" <+: word then
    -- An `i` behind the word has to begin the rest of the long one.
    if ascii "infi" <+: word ∧ ¬ascii "infinity" <+: word then none else some (ofMag neg infMag)
  else if ascii "0x" <+: word then scanHex neg (body.drop 2)
  else scanDecimal neg body

example : scanFloat (ascii "12.25") = some ⟨0x41440000⟩ := by decide +kernel

example : scanFloat (ascii "-0x1.8p1\n") = some ⟨0xC0400000⟩ := by decide +kernel

example : scanFloat (ascii "1e+") = some ⟨0x3F800000⟩ := by decide +kernel

/-! ## Scanning what was printed -/

/-- A word that was printed is read back. -/
theorem scanUnsigned_decimal (n : UInt32) {rest : Text} (hrest : rest.takeWhile isDigit = []) :
    scanUnsigned (decimal n.toNat ++ rest) = some (n, rest) := by
  obtain ⟨hdrop, hneg, hskip⟩ := skip_decimal n.toNat rest
  obtain ⟨htake, hbehind⟩ := takeWhile_digits (isDigit_decimal n.toNat) hrest
  have hlt : ¬2^64 ≤ n.toNat := by
    have := n.toNat_lt
    omega
  unfold scanUnsigned
  dsimp only
  rw [hdrop, hskip, htake, hbehind, if_neg (decimal_ne_nil _), decide_eq_false hneg,
    digitsValue_decimal, strtoul, if_neg hlt, if_neg Bool.false_ne_true, UInt32.ofNat_toNat]

/-- A decimal that is read in one way is scanned in the other as the nearest number. -/
theorem scanDecimal_of_readDecimal {t rest : Text} {r : ℕ × ℕ × Bool × ℕ} (neg : Bool)
    (h : readDecimal t = some (r, rest)) :
    scanDecimal neg t = some (ofMag neg (nearestMag r.1 r.2.1 r.2.2)) := by
  unfold readDecimal at h
  unfold scanDecimal
  dsimp only at h ⊢
  split_ifs at h ⊢ with hempty
  obtain ⟨exponent, hexponent, hr⟩ := Option.map_eq_some_iff.mp h
  obtain ⟨rfl, -⟩ := Prod.mk.inj hr
  rw [scanExponent, hexponent, Option.map_some, Option.getD_some]

/-- A byte of a number that was printed is no letter but the `e`. -/
theorem toLower_of_numeral {c : UInt8} (h : Numeral c) : toLower c = c := by
  unfold toLower
  rw [if_neg]
  rintro ⟨hlow, hhigh⟩
  rw [UInt8.le_iff_toNat_le] at hlow hhigh
  have hlow' : 65 ≤ c.toNat := hlow
  have hhigh' : c.toNat ≤ 90 := hhigh
  rcases h with h | rfl
  · omega
  · exact absurd hhigh' (by decide)

/-- The number that is read of a finite number that was printed. -/
def scanned (value : Binary32) : Binary32 := ofMag value.neg (printedMag value)

/-- The number that was printed is scanned, and with it the whole text. -/
theorem scanFloat_formatG {value : Binary32} (h : value.IsFinite) :
    scanFloat (formatG value) = some (scanned value) := by
  obtain ⟨c, cs, htext, hdigit⟩ := magText_eq_cons value
  obtain ⟨hspace, hminus, hplus, -⟩ := head_of_isDigit hdigit
  obtain ⟨hdrop, hneg, hbody⟩ := skip_sign value.neg cs hspace hminus hplus
  obtain ⟨r, hread, hmag⟩ := readDecimal_magText value endsNumber_nil
  have hnumeral := numeral_magText value
  rw [htext] at hnumeral
  rw [htext, List.append_nil] at hread
  have hlower : (c :: cs).map toLower = c :: cs := by
    rw [List.map_congr_left fun c hc => toLower_of_numeral (hnumeral c hc)]
    exact List.map_id _
  -- A numeral is none of the letters that the other forms have.
  have hletter {d : UInt8} (hd : ¬Numeral d) {word : Text} (hword : d ∈ word) :
      ¬word <+: c :: cs := fun hpre => hd (hnumeral d (hpre.subset hword))
  have hnan : ¬ascii "nan" <+: c :: cs :=
    hletter (show ¬Numeral 110 by decide) (show 110 ∈ ascii "nan" by decide)
  have hinf : ¬ascii "inf" <+: c :: cs :=
    hletter (show ¬Numeral 105 by decide) (show 105 ∈ ascii "inf" by decide)
  have hhex : ¬ascii "0x" <+: c :: cs :=
    hletter (show ¬Numeral 120 by decide) (show 120 ∈ ascii "0x" by decide)
  unfold scanFloat
  dsimp only
  rw [formatG_of_finite h, htext, hdrop, hneg, hbody, hlower, if_neg hnan, if_neg hinf, if_neg hhex,
    scanDecimal_of_readDecimal _ hread, hmag, scanned]

/-- A finite number is read back exactly when six digits determine it. -/
theorem scanned_eq_iff {value : Binary32} (h : value.IsFinite) :
    scanned value = value ↔ HasSixDigits value := by
  rw [← reread_eq_some_iff, reread_of_finite h, inRange]
  constructor
  · intro heq
    -- A finite result was not cut to the infinity.
    have hmag : min (printedMag value) infMag = value.mag := by
      rw [← mag_ofMag value.neg, ← scanned, heq]
    have hlt : value.mag < infMag := h
    rw [if_neg (by omega)]
    exact congrArg some heq
  · intro heq
    split_ifs at heq
    exact Option.some.inj heq

end DeltaV
