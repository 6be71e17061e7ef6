import DeltaV.Lib.LittleEndian
import Mathlib.Data.Nat.Bitwise
import Mathlib.Logic.Function.Iterate
import Mathlib.Tactic.SplitIfs

/-!
# Reflected cyclic redundancy checks

The register of a reflected checksum takes a message in least significant bit first. A move of the
register is linear (`shift_xor`) and, when the polynomial has its top bit, injective
(`shift_injective`). As many bytes as fit the register act like the little-endian number they are,
taken in at once (`pushes_eq`). So two messages that differ only in bytes that fit the register have
different checksums, wherever these bytes are (`pushes_window_injective`).
-/

namespace DeltaV

namespace ReflectedCrc

variable {w : ℕ}

/-! ## The register -/

/-- Moves the register down by one bit. -/
def shift (poly r : BitVec w) : BitVec w := if r.getLsbD 0 then (r >>> 1) ^^^ poly else r >>> 1

/-- Takes in one byte. -/
def push (poly r : BitVec w) (byte : UInt8) : BitVec w :=
  (shift poly)^[8] (r ^^^ BitVec.ofNat w byte.toNat)

/-- Takes in the bytes of a message. -/
def pushes (poly r : BitVec w) (data : List UInt8) : BitVec w := data.foldl (push poly) r

/-- A move is linear. -/
theorem shift_xor (poly r s : BitVec w) : shift poly (r ^^^ s) = shift poly r ^^^ shift poly s := by
  unfold shift
  rw [BitVec.getLsbD_xor, BitVec.ushiftRight_xor_distrib]
  cases r.getLsbD 0 <;> cases s.getLsbD 0
  · rfl
  · exact BitVec.xor_assoc _ _ _
  · show r >>> 1 ^^^ s >>> 1 ^^^ poly = r >>> 1 ^^^ poly ^^^ s >>> 1
    rw [BitVec.xor_assoc, BitVec.xor_comm (s >>> 1), ← BitVec.xor_assoc]
  · -- The polynomial is added twice.
    show r >>> 1 ^^^ s >>> 1 = r >>> 1 ^^^ poly ^^^ (s >>> 1 ^^^ poly)
    rw [BitVec.xor_comm (s >>> 1) poly, BitVec.xor_assoc, ← BitVec.xor_assoc poly poly,
      BitVec.xor_self, BitVec.zero_xor]

/-- Shifts of a sum are the sum of the shifts. -/
theorem iterate_shift_xor (poly r s : BitVec w) (k : ℕ) :
    (shift poly)^[k] (r ^^^ s) = (shift poly)^[k] r ^^^ (shift poly)^[k] s := by
  induction k generalizing r s with
  | zero => rfl
  | succ k ih =>
    rw [Function.iterate_succ_apply, Function.iterate_succ_apply, Function.iterate_succ_apply,
      shift_xor, ih]

/-- Low zero bits move out without a trace. -/
theorem shift_two_mul (poly : BitVec w) {n : ℕ} (h : 2 * n < 2^w) :
    shift poly (BitVec.ofNat w (2 * n)) = BitVec.ofNat w n := by
  have hlow : (BitVec.ofNat w (2 * n)).getLsbD 0 = false := by
    rw [BitVec.getLsbD_ofNat, Nat.testBit_zero, Nat.mul_mod_right]
    exact Bool.and_false _
  rw [shift, hlow, if_neg Bool.false_ne_true]
  apply BitVec.eq_of_toNat_eq
  rw [BitVec.toNat_ushiftRight, BitVec.toNat_ofNat, BitVec.toNat_ofNat, Nat.mod_eq_of_lt h,
    Nat.mod_eq_of_lt (by omega), Nat.shiftRight_eq_div_pow]
  omega

/-- A register whose last bits are zero is shifted without a division. -/
theorem iterate_shift_mul (poly : BitVec w) {n k : ℕ} (h : 2^k * n < 2^w) :
    (shift poly)^[k] (BitVec.ofNat w (2^k * n)) = BitVec.ofNat w n := by
  induction k with
  | zero => rw [pow_zero, Nat.one_mul, Function.iterate_zero_apply]
  | succ k ih =>
    rw [pow_succ', Nat.mul_assoc] at h ⊢
    rw [Function.iterate_succ_apply, shift_two_mul poly h, ih (by omega)]

/-- A move loses nothing, since the top bit tells whether the polynomial was added. -/
theorem shift_injective {poly : BitVec w} (hpoly : poly.msb = true) :
    Function.Injective (shift poly) := by
  have hzero : ∀ r : BitVec w, shift poly r = 0 → r = 0 := by
    intro r hr
    have hw : 0 < w := by
      rcases Nat.eq_zero_or_pos w with rfl | hw
      · rw [BitVec.msb_eq_getLsbD_last, Subsingleton.elim poly 0#0] at hpoly
        cases hpoly
      · exact hw
    have hmsb : (r >>> 1).msb = false := by
      rw [BitVec.msb_ushiftRight]
      rfl
    unfold shift at hr
    split_ifs at hr with hlow
    · have htop := congrArg BitVec.msb hr
      rw [BitVec.msb_xor, hmsb, hpoly] at htop
      rw [show (0 : BitVec w) = 0#w from rfl, BitVec.msb_zero] at htop
      cases htop
    · apply BitVec.eq_of_toNat_eq
      have hshift := congrArg BitVec.toNat hr
      rw [BitVec.toNat_ushiftRight, Nat.shiftRight_eq_div_pow] at hshift
      rw [BitVec.getLsbD, Nat.testBit_zero] at hlow
      simp only [decide_eq_true_eq, BitVec.ofNat_eq_ofNat, BitVec.toNat_ofNat,
        Nat.zero_mod] at hlow hshift ⊢
      omega
  intro r s h
  have hxor : r ^^^ s = 0 := hzero _ (by rw [shift_xor, h, BitVec.xor_self]; rfl)
  exact BitVec.xor_eq_zero_iff.mp hxor

/-! ## Messages -/

/-- Numbers in different bits are added by exclusive or. -/
theorem xor_two_pow_mul {b k : ℕ} (hb : b < 2^k) (n : ℕ) : b ^^^ 2^k * n = 2^k * n + b := by
  apply Nat.eq_of_testBit_eq
  intro i
  rw [Nat.testBit_xor, Nat.testBit_two_pow_mul, Nat.testBit_two_pow_mul_add n hb]
  split_ifs with hi
  · rw [decide_eq_false (not_le.mpr hi), Bool.false_and, Bool.xor_false]
  · have hhigh : b.testBit i = false :=
      Nat.testBit_lt_two_pow (Nat.lt_of_lt_of_le hb
        (Nat.pow_le_pow_right (by decide) (not_lt.mp hi)))
    rw [decide_eq_true (not_lt.mp hi), Bool.true_and, hhigh, Bool.false_xor]

/-- Bytes that fit the register act like their number. -/
theorem pushes_eq (poly r : BitVec w) {data : List UInt8} (h : 8 * data.length ≤ w) :
    pushes poly r data = (shift poly)^[8 * data.length] (r ^^^ BitVec.ofNat w (le data)) := by
  induction data generalizing r with
  | nil => exact (BitVec.xor_zero (x := r)).symm
  | cons byte data ih =>
    rw [List.length_cons, Nat.mul_succ] at h
    have hlt := le_lt data
    have hfit : 2^8 * le data < 2^w := by
      calc 2^8 * le data < 2^8 * 256^data.length := Nat.mul_lt_mul_of_pos_left hlt (by decide)
        _ = 2^(8 * data.length + 8) := by
          rw [show (256 : ℕ) = 2^8 from rfl, ← pow_mul, pow_add, Nat.mul_comm]
        _ ≤ 2^w := Nat.pow_le_pow_right (by decide) h
    -- The bytes behind the first are the upper bits of the number.
    have hword : BitVec.ofNat w byte.toNat ^^^ BitVec.ofNat w (2^8 * le data) =
        BitVec.ofNat w (le (byte :: data)) := by
      rw [← BitVec.ofNat_xor, xor_two_pow_mul byte.toNat_lt, le, Nat.add_comm]
      rfl
    have hnext : push poly r byte ^^^ BitVec.ofNat w (le data) =
        (shift poly)^[8] (r ^^^ BitVec.ofNat w (le (byte :: data))) := by
      rw [push, ← iterate_shift_mul poly hfit, ← iterate_shift_xor, BitVec.xor_assoc, hword]
    rw [pushes, List.foldl_cons]
    change pushes poly (push poly r byte) data = _
    rw [ih _ (by omega), hnext, ← Function.iterate_add_apply, List.length_cons, Nat.mul_succ]

/-- Behind different registers, the same bytes leave different registers. -/
theorem pushes_injective {poly : BitVec w} (hpoly : poly.msb = true) (data : List UInt8) :
    Function.Injective fun r => pushes poly r data := by
  induction data with
  | nil => exact fun _ _ h => h
  | cons byte data ih =>
    intro r s h
    have hbyte := (shift_injective hpoly).iterate 8 (ih h)
    exact (BitVec.xor_left_inj _).mp hbyte

/-- Messages that differ only in bytes that fit the register leave different registers. -/
theorem pushes_window_injective {poly : BitVec w} (hpoly : poly.msb = true) (r : BitVec w)
    {pre post xs ys : List UInt8} (hlen : xs.length = ys.length) (hfit : 8 * xs.length ≤ w)
    (h : pushes poly r (pre ++ xs ++ post) = pushes poly r (pre ++ ys ++ post)) : xs = ys := by
  have hsplit : ∀ zs, pushes poly r (pre ++ zs ++ post) =
      pushes poly (pushes poly (pushes poly r pre) zs) post := by
    intro zs
    rw [pushes, List.foldl_append, List.foldl_append]
    rfl
  rw [hsplit, hsplit] at h
  have hmid := pushes_injective hpoly post h
  have hfit' : 8 * ys.length ≤ w := hlen ▸ hfit
  change pushes poly (pushes poly r pre) xs = pushes poly (pushes poly r pre) ys at hmid
  generalize pushes poly r pre = r at hmid
  rw [pushes_eq _ _ hfit, pushes_eq _ _ hfit', hlen] at hmid
  have hword := (BitVec.xor_right_inj _).mp ((shift_injective hpoly).iterate _ hmid)
  -- Numbers that fit the register are told apart by it.
  have hbound : ∀ zs : List UInt8, 8 * zs.length ≤ w → le zs < 2^w := by
    intro zs hzs
    calc le zs < 256^zs.length := le_lt zs
      _ = 2^(8 * zs.length) := by rw [show (256 : ℕ) = 2^8 from rfl, ← pow_mul]
      _ ≤ 2^w := Nat.pow_le_pow_right (by decide) hzs
  have hnum := congrArg BitVec.toNat hword
  rw [BitVec.toNat_ofNat, BitVec.toNat_ofNat, Nat.mod_eq_of_lt (hbound xs hfit),
    Nat.mod_eq_of_lt (hbound ys hfit')] at hnum
  exact le_injective hlen hnum

end ReflectedCrc

end DeltaV
