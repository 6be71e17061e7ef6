import DeltaV.Lib.Crc
import DeltaV.Lib.ReflectedCrc
import Mathlib.Tactic.Positivity
import Mathlib.Tactic.Ring

/-!
# Bursts of errors

A checksum whose register takes a message in most significant bit first can be computed bit by bit
(`pushes_eq_pushBits`). Bits that fit the register act like the number they are, at its top
(`pushBits_eq`). A move of the register is linear (`shift_xor`) and, when the polynomial has its
lowest bit, injective (`shift_injective`). So two messages that differ only in consecutive bits that
fit the register have different checksums, wherever these bits are (`pushes_ne_of_burst`).
-/

namespace DeltaV

namespace Crc

variable {w : ℕ}

/-! ## Moves -/

/-- A move is linear. -/
theorem shift_xor (poly r s : BitVec w) : shift poly (r ^^^ s) = shift poly r ^^^ shift poly s := by
  unfold shift
  rw [BitVec.msb_xor, BitVec.shiftLeft_xor_distrib]
  cases r.msb <;> cases s.msb
  · rfl
  · exact BitVec.xor_assoc _ _ _
  · show r <<< 1 ^^^ s <<< 1 ^^^ poly = r <<< 1 ^^^ poly ^^^ s <<< 1
    rw [BitVec.xor_assoc, BitVec.xor_comm (s <<< 1), ← BitVec.xor_assoc]
  · -- The polynomial is added twice.
    show r <<< 1 ^^^ s <<< 1 = r <<< 1 ^^^ poly ^^^ (s <<< 1 ^^^ poly)
    rw [BitVec.xor_comm (s <<< 1) poly, BitVec.xor_assoc, ← BitVec.xor_assoc poly poly,
      BitVec.xor_self, BitVec.zero_xor]

/-- A number that leaves the top bit free is doubled. -/
theorem shift_register {n : ℕ} (poly : BitVec w) (h : 2 * n < 2^w) :
    shift poly (register w n) = register w (2 * n) := by
  have hlt : n < 2^w := by omega
  have htop : (register w n).msb = false := by
    rw [BitVec.msb_eq_false_iff_two_mul_lt, register, BitVec.toNat_ofNat, Nat.mod_eq_of_lt hlt]
    exact h
  rw [shift, htop, if_neg Bool.false_ne_true, ← register_shiftLeft, Nat.shiftLeft_eq, pow_one,
    Nat.mul_comm]

/-- A move loses nothing, since the lowest bit tells whether the polynomial was added. -/
theorem shift_injective {poly : BitVec w} (hpoly : poly.getLsbD 0 = true) :
    Function.Injective (shift poly) := by
  have hzero : ∀ r : BitVec w, shift poly r = 0 → r = 0 := by
    intro r hr
    have hlow : (r <<< 1).getLsbD 0 = false := by simp
    unfold shift at hr
    split_ifs at hr with htop
    · have hbit := congrArg (BitVec.getLsbD · 0) hr
      simp only [BitVec.getLsbD_xor, hlow, hpoly] at hbit
      simp at hbit
    · have hlt := BitVec.msb_eq_false_iff_two_mul_lt.mp (Bool.eq_false_of_not_eq_true htop)
      have hshift := congrArg BitVec.toNat hr
      rw [BitVec.toNat_shiftLeft, Nat.shiftLeft_eq, pow_one, Nat.mul_comm,
        Nat.mod_eq_of_lt hlt] at hshift
      apply BitVec.eq_of_toNat_eq
      simp only [BitVec.ofNat_eq_ofNat, BitVec.toNat_ofNat, Nat.zero_mod] at hshift ⊢
      omega
  intro r s h
  have hxor : r ^^^ s = 0 := hzero _ (by rw [shift_xor, h, BitVec.xor_self]; rfl)
  exact BitVec.xor_eq_zero_iff.mp hxor

/-! ## Bit by bit -/

/-- The number of some bits, most significant bit first. -/
def value : List Bool → ℕ
  | [] => 0
  | b :: bs => b.toNat * 2^bs.length + value bs

/-- Takes in one bit. -/
def pushBit (poly r : BitVec w) (b : Bool) : BitVec w :=
  shift poly (r ^^^ register w (b.toNat * 2^(w - 1)))

/-- Takes in some bits. -/
def pushBits (poly r : BitVec w) (bs : List Bool) : BitVec w := bs.foldl (pushBit poly) r

/-- The value of bits is bounded by their number. -/
theorem value_lt (bs : List Bool) : value bs < 2^bs.length := by
  induction bs with
  | nil => exact Nat.one_pos
  | cons b bs ih =>
    rw [value, List.length_cons, pow_succ']
    cases b
    · rw [Bool.toNat_false]
      omega
    · rw [Bool.toNat_true]
      omega

/-- Bits are told apart by their number. -/
theorem value_injective {bs cs : List Bool} (hlen : bs.length = cs.length)
    (h : value bs = value cs) : bs = cs := by
  induction bs generalizing cs with
  | nil => exact (List.eq_nil_of_length_eq_zero hlen.symm).symm
  | cons b bs ih =>
    obtain ⟨c, cs, rfl⟩ := List.exists_cons_of_length_eq_add_one hlen.symm
    have hlen' : bs.length = cs.length := Nat.succ.inj hlen
    have hb := value_lt bs
    have hc := value_lt cs
    rw [value, value, hlen'] at h
    rw [hlen'] at hb
    have hbc : b = c := by
      cases b <;> cases c <;> simp only [Bool.toNat_false, Bool.toNat_true] at h <;>
        first | rfl | omega
    subst hbc
    rw [ih hlen' (Nat.add_left_cancel h)]

/-- Bits that fit the register act like their number. -/
theorem pushBits_eq (poly r : BitVec w) {bs : List Bool} (h : bs.length ≤ w) :
    pushBits poly r bs =
      (shift poly)^[bs.length] (r ^^^ register w (value bs * 2^(w - bs.length))) := by
  induction bs generalizing r with
  | nil =>
    rw [value, Nat.zero_mul]
    exact BitVec.xor_zero.symm
  | cons b bs ih =>
    rw [List.length_cons] at h
    obtain ⟨k, hk⟩ : ∃ k, w = bs.length + 1 + k := ⟨w - (bs.length + 1), by omega⟩
    have hlt := value_lt bs
    have hfit : value bs * 2^k < 2^(bs.length + k) := by
      rw [pow_add]
      exact Nat.mul_lt_mul_of_pos_right (value_lt bs) (by positivity)
    have hsub : w - bs.length = k + 1 := by omega
    -- The bits behind the first are moved up once.
    have hbehind : register w (value bs * 2^(w - bs.length)) =
        shift poly (register w (value bs * 2^k)) := by
      rw [hsub, pow_succ', Nat.mul_left_comm, shift_register]
      calc 2 * (value bs * 2^k) < 2 * 2^(bs.length + k) := by omega
        _ = 2^w := by rw [← pow_succ', hk]; congr 1; omega
    -- The first bit and the bits behind it are at different places.
    have hword : register w (b.toNat * 2^(w - 1)) ^^^ register w (value bs * 2^k) =
        register w (value (b :: bs) * 2^k) := by
      have htop : w - 1 = bs.length + k := by omega
      rw [BitVec.xor_comm, ← register_xor, htop, Nat.mul_comm b.toNat,
        ReflectedCrc.xor_two_pow_mul hfit, value]
      congr 1
      ring
    rw [pushBits, List.foldl_cons]
    change pushBits poly (pushBit poly r b) bs = _
    rw [ih _ (by omega), hbehind, pushBit, ← shift_xor, BitVec.xor_assoc, hword, List.length_cons,
      show w - (bs.length + 1) = k by omega, Function.iterate_succ_apply]

/-- Behind different registers, the same bits leave different registers. -/
theorem pushBits_injective {poly : BitVec w} (hpoly : poly.getLsbD 0 = true) (bs : List Bool) :
    Function.Injective fun r => pushBits poly r bs := by
  induction bs with
  | nil => exact fun _ _ h => h
  | cons b bs ih =>
    intro r s h
    have hbit := shift_injective hpoly (ih h)
    exact (BitVec.xor_left_inj _).mp hbit

/-- Bits that are pushed in two parts are pushed one part after the other. -/
theorem pushBits_append (poly r : BitVec w) (bs cs : List Bool) :
    pushBits poly r (bs ++ cs) = pushBits poly (pushBits poly r bs) cs := List.foldl_append

/-- Behind one register, different bits that fit it leave different registers. -/
theorem pushBits_inj {poly : BitVec w} (hpoly : poly.getLsbD 0 = true) {r : BitVec w}
    {bs cs : List Bool} (hlen : bs.length = cs.length) (hfit : bs.length ≤ w)
    (h : pushBits poly r bs = pushBits poly r cs) : bs = cs := by
  rw [pushBits_eq _ _ hfit, pushBits_eq _ _ (hlen ▸ hfit), hlen] at h
  have hword := (BitVec.xor_right_inj _).mp ((shift_injective hpoly).iterate _ h)
  -- The number fits at the top of the register.
  have hbound : ∀ ds : List Bool, ds.length = cs.length →
      value ds * 2^(w - cs.length) < 2^w := by
    intro ds hds
    calc value ds * 2^(w - cs.length) < 2^ds.length * 2^(w - cs.length) :=
          Nat.mul_lt_mul_of_pos_right (value_lt ds) (by positivity)
      _ = 2^w := by rw [← pow_add]; congr 1; omega
  have hnum := congrArg BitVec.toNat hword
  rw [register, register, BitVec.toNat_ofNat, BitVec.toNat_ofNat,
    Nat.mod_eq_of_lt (hbound bs hlen), Nat.mod_eq_of_lt (hbound cs rfl)] at hnum
  exact value_injective hlen (Nat.eq_of_mul_eq_mul_right (by positivity) hnum)

/-- Messages that differ only in consecutive bits that fit the register leave different
registers. -/
theorem pushBits_ne_of_burst {poly : BitVec w} (hpoly : poly.getLsbD 0 = true) (r : BitVec w)
    {bs cs : List Bool} (hlen : bs.length = cs.length) (hne : bs ≠ cs) (start : ℕ)
    (hburst : ∀ i, bs[i]? ≠ cs[i]? → start ≤ i ∧ i < start + w) :
    pushBits poly r bs ≠ pushBits poly r cs := by
  -- Before the burst and behind it, the messages are the same.
  have hpre : bs.take start = cs.take start := by
    apply List.ext_getElem?
    intro i
    rw [List.getElem?_take, List.getElem?_take]
    split_ifs with hi
    · by_contra hdiff
      exact absurd (hburst i hdiff).1 (not_le.mpr hi)
    · rfl
  have hpost : (bs.drop start).drop w = (cs.drop start).drop w := by
    apply List.ext_getElem?
    intro i
    rw [List.drop_drop, List.drop_drop, List.getElem?_drop, List.getElem?_drop]
    by_contra hdiff
    have := (hburst _ hdiff).2
    omega
  have hsplit : ∀ ds : List Bool,
      ds = ds.take start ++ ((ds.drop start).take w ++ (ds.drop start).drop w) := fun ds => by
    rw [List.take_append_drop, List.take_append_drop]
  intro h
  rw [hsplit bs, hsplit cs, pushBits_append, pushBits_append, pushBits_append, pushBits_append,
    hpre, hpost] at h
  have hmid := pushBits_inj hpoly (by simp [hlen]) (by simp) (pushBits_injective hpoly _ h)
  rw [hsplit bs, hsplit cs, hpre, hpost, hmid] at hne
  exact hne rfl

/-! ## Bytes -/

/-- The bits of a byte, most significant bit first. -/
def byteBits (byte : UInt8) : List Bool :=
  [7, 6, 5, 4, 3, 2, 1, 0].map fun i => byte.toNat.testBit i

/-- The bits of a message. -/
def bits (data : List UInt8) : List Bool := data.flatMap byteBits

/-- The value of the bits of a byte is the byte. -/
theorem value_byteBits (byte : UInt8) : value (byteBits byte) = byte.toNat := by
  have h : ∀ n < 256, value ([7, 6, 5, 4, 3, 2, 1, 0].map fun i => n.testBit i) = n := by
    decide +kernel
  exact h byte.toNat byte.toNat_lt

/-- A byte is taken in bit by bit. -/
theorem push_eq_pushBits (hw : 8 ≤ w) (poly r : BitVec w) (byte : UInt8) :
    push poly r byte = pushBits poly r (byteBits byte) := by
  rw [pushBits_eq poly r (by simpa [byteBits] using hw), value_byteBits, push, Nat.shiftLeft_eq]
  rfl

/-- A message is taken in bit by bit. -/
theorem pushes_eq_pushBits (hw : 8 ≤ w) (poly r : BitVec w) (data : List UInt8) :
    pushes poly r data = pushBits poly r (bits data) := by
  induction data generalizing r with
  | nil => rfl
  | cons byte data ih =>
    rw [bits, List.flatMap_cons, pushBits_append, ← push_eq_pushBits hw, pushes, List.foldl_cons]
    exact ih _

/-- A byte has eight bits. -/
theorem length_bits (data : List UInt8) : (bits data).length = 8 * data.length := by
  induction data with
  | nil => rfl
  | cons byte data ih =>
    rw [bits, List.flatMap_cons, List.length_append, List.length_cons, Nat.mul_succ, Nat.add_comm]
    exact congrArg (· + 8) ih

/-- Messages are told apart by their bits. -/
theorem bits_injective : Function.Injective bits := by
  intro a b h
  induction a generalizing b with
  | nil =>
    have hlen := congrArg List.length h
    rw [length_bits, length_bits, List.length_nil] at hlen
    exact (List.eq_nil_of_length_eq_zero (by omega)).symm
  | cons x a ih =>
    have hlen := congrArg List.length h
    rw [length_bits, length_bits, List.length_cons] at hlen
    obtain ⟨y, b, rfl⟩ := List.exists_cons_of_ne_nil
      (List.ne_nil_of_length_pos (show 0 < b.length by omega))
    rw [bits, bits, List.flatMap_cons, List.flatMap_cons] at h
    obtain ⟨hfirst, hrest⟩ := List.append_inj h rfl
    have hnum := congrArg value hfirst
    rw [value_byteBits, value_byteBits] at hnum
    rw [UInt8.toNat.inj hnum, ih hrest]

/-- Messages that differ only in consecutive bits that fit the register have different
checksums. -/
theorem pushes_ne_of_burst (hw : 8 ≤ w) {poly : BitVec w} (hpoly : poly.getLsbD 0 = true)
    (r : BitVec w) {a b : List UInt8} (hlen : a.length = b.length) (hne : a ≠ b) (start : ℕ)
    (hburst : ∀ i, (bits a)[i]? ≠ (bits b)[i]? → start ≤ i ∧ i < start + w) :
    pushes poly r a ≠ pushes poly r b := by
  rw [pushes_eq_pushBits hw, pushes_eq_pushBits hw]
  refine pushBits_ne_of_burst hpoly r ?_ (bits_injective.ne hne) start hburst
  rw [length_bits, length_bits, hlen]

end Crc

end DeltaV
