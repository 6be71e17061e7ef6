import Mathlib.Data.Nat.Bitwise
import Mathlib.Logic.Function.Iterate

/-!
# Cyclic redundancy checks

The register of a checksum has `w` bits, and takes a message in most significant bit first: a bit
that leaves the register at the top is put back as the polynomial. Programs keep the register in a
wider number. What that number is above the register does not reach the bits below it, so the number
can be cut to the register after every bit or after every byte (`reg_foldl`).
-/

namespace DeltaV

namespace Crc

variable {w : ℕ}

/-! ## The register -/

/-- Moves the register up by one bit. -/
def shift (poly r : BitVec w) : BitVec w := if r.msb then (r <<< 1) ^^^ poly else r <<< 1

/-- The register in the lowest bits of a number. -/
def register (w n : ℕ) : BitVec w := BitVec.ofNat w n

/-- Takes in one byte. -/
def push (poly r : BitVec w) (byte : UInt8) : BitVec w :=
  (shift poly)^[8] (r ^^^ register w (byte.toNat <<< (w - 8)))

/-- Takes in the bytes of a message. -/
def pushes (poly r : BitVec w) (data : List UInt8) : BitVec w := data.foldl (push poly) r

/-! ## Wider registers -/

/-- Moves a number up by one bit, as a register of `w` bits. -/
def natShift (w poly n : ℕ) : ℕ := if n.testBit (w - 1) then (n <<< 1) ^^^ poly else n <<< 1

/-- Numbers hold the same register when their lowest bits are the same. -/
theorem register_eq_iff {m n : ℕ} : register w m = register w n ↔ m % 2^w = n % 2^w := by
  rw [register, register, ← BitVec.toNat_inj, BitVec.toNat_ofNat, BitVec.toNat_ofNat]

/-- Cutting a number to no less than the register leaves the register. -/
theorem register_mod {v : ℕ} (hv : w ≤ v) (n : ℕ) : register w (n % 2^v) = register w n :=
  register_eq_iff.mpr (Nat.mod_mod_of_dvd n (Nat.pow_dvd_pow 2 hv))

/-- The register of a sum is the sum of the registers. -/
theorem register_xor (m n : ℕ) : register w (m ^^^ n) = register w m ^^^ register w n :=
  BitVec.ofNat_xor

/-- A number shifted by one bit shifts its register. -/
theorem register_shiftLeft (n : ℕ) : register w (n <<< 1) = register w n <<< 1 := by
  apply BitVec.eq_of_toNat_eq
  rw [register, register, BitVec.toNat_ofNat, BitVec.toNat_shiftLeft, BitVec.toNat_ofNat,
    Nat.shiftLeft_eq, Nat.shiftLeft_eq, Nat.mod_mul_mod]

/-- Moving a number up moves up its register. -/
theorem register_natShift (hw : 0 < w) (poly n : ℕ) :
    register w (natShift w poly n) = shift (register w poly) (register w n) := by
  have hmsb : (register w n).msb = n.testBit (w - 1) := by
    rw [BitVec.msb_eq_getLsbD_last, register, BitVec.getLsbD_ofNat,
      decide_eq_true (Nat.sub_one_lt_of_lt hw), Bool.true_and]
  unfold natShift shift
  rw [hmsb]
  split_ifs
  · rw [register_xor, register_shiftLeft]
  · exact register_shiftLeft n

/-! ## Programs -/

section

variable {α : Type*} {poly : BitVec w} {enter : α → UInt8 → α} {bit : α → α}

/-- A program that keeps the register in a value of its own, from which `reg` reads it: it lets a
byte in at the top, moves up eight bits and may then cut the value. -/
theorem reg_foldl (reg : α → BitVec w) (cut : α → α)
    (henter : ∀ a byte, reg (enter a byte) = reg a ^^^ register w (byte.toNat <<< (w - 8)))
    (hbit : ∀ a, reg (bit a) = shift poly (reg a)) (hcut : ∀ a, reg (cut a) = reg a)
    (data : List UInt8) (a : α) :
    reg (data.foldl (fun a byte => cut (bit^[8] (enter a byte))) a) = pushes poly (reg a) data := by
  refine (List.foldl_hom reg fun a byte => ?_).symm
  have hbits : Function.Semiconj reg bit (shift poly) := hbit
  rw [hcut, hbits.iterate_right, henter]
  rfl

end

end Crc

end DeltaV
