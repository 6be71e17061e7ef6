import Mathlib.Data.Nat.Basic
import Mathlib.Tactic.Ring

/-!
# Little-endian layout

A number of a fixed width is laid out as its bytes, least significant first (`leBytes`), and read
back with `le`. A packed record is the list of its fields, each with its width (`packLE`), and is
read back field by field (`unpackLE`): the two are inverse on the bytes of the record and on numbers
that fit their fields.
-/

namespace DeltaV

/-! ## Numbers -/

/-- The number with the given bytes, least significant first. -/
def le : List UInt8 → ℕ
  | [] => 0
  | b :: bs => b.toNat + 256 * le bs

/-- The bytes of a number, least significant first. -/
def leBytes : ℕ → ℕ → List UInt8
  | 0, _ => []
  | k + 1, n => UInt8.ofNat n :: leBytes k (n / 256)

/-- The `len` bytes from offset `off` on. -/
def slice (data : List UInt8) (off len : ℕ) : List UInt8 := (data.drop off).take len

/-- A number of `k` bytes has `k` bytes. -/
@[simp] theorem length_leBytes (k n : ℕ) : (leBytes k n).length = k := by
  induction k generalizing n with
  | zero => rfl
  | succ k ih => rw [leBytes, List.length_cons, ih]

/-- Reading the bytes of a number back gives what fits the width. -/
theorem le_leBytes (k n : ℕ) : le (leBytes k n) = n % 256^k := by
  induction k generalizing n with
  | zero => exact (Nat.mod_one n).symm
  | succ k ih =>
    have hbyte : (UInt8.ofNat n).toNat = n % 256 := UInt8.toNat_ofNat'
    rw [leBytes, le, ih, hbyte, pow_succ', Nat.mod_mul]

/-- A number read from bytes fits their number. -/
theorem le_lt (bytes : List UInt8) : le bytes < 256^bytes.length := by
  induction bytes with
  | nil => exact Nat.one_pos
  | cons b bytes ih =>
    have hb := b.toNat_lt
    rw [le, List.length_cons, pow_succ']
    omega

/-- A number read from a slice fits the length of the slice. -/
theorem le_slice_lt (data : List UInt8) (off len : ℕ) : le (slice data off len) < 256^len := by
  have hlen : (slice data off len).length ≤ len := List.length_take_le _ _
  calc
    le (slice data off len) < 256^(slice data off len).length := le_lt _
    _ ≤ 256^len := Nat.pow_le_pow_right (by decide) hlen

/-- Laying out the number read from bytes gives the bytes. -/
theorem leBytes_le (bytes : List UInt8) : leBytes bytes.length (le bytes) = bytes := by
  induction bytes with
  | nil => rfl
  | cons b bytes ih =>
    have hb := b.toNat_lt
    have hfirst : UInt8.ofNat (b.toNat + 256 * le bytes) = b := by
      apply UInt8.toNat_inj.mp
      rw [UInt8.toNat_ofNat']
      omega
    have hrest : (b.toNat + 256 * le bytes) / 256 = le bytes := by omega
    rw [List.length_cons, le, leBytes, hfirst, hrest, ih]

/-- Bytes of one length with the same number are the same. -/
theorem le_injective {xs ys : List UInt8} (hlen : xs.length = ys.length) (h : le xs = le ys) :
    xs = ys := by
  rw [← leBytes_le xs, ← leBytes_le ys, hlen, h]

/-- A slice of the first part of the data. -/
theorem slice_take {data : List UInt8} {off len k : ℕ} (h : off + len ≤ k) :
    slice (data.take k) off len = slice data off len := by
  unfold slice
  rw [List.drop_take, List.take_take, min_eq_left (by omega)]

/-- A slice is cut off at the end of the data. -/
theorem length_slice (data : List UInt8) (off len : ℕ) :
    (slice data off len).length = min len (data.length - off) := by
  rw [slice, List.length_take, List.length_drop]

/-- A slice that starts behind the first part of the data. -/
theorem slice_append_right (xs ys : List UInt8) (off len : ℕ) :
    slice (xs ++ ys) (xs.length + off) len = slice ys off len := by
  unfold slice
  rw [← List.drop_drop, List.drop_left]

/-! ## Records -/

/-- The bytes of a record, given as the widths and values of its fields. -/
def packLE : List (ℕ × ℕ) → List UInt8
  | [] => []
  | (k, n) :: fields => leBytes k n ++ packLE fields

/-- The values of the fields of the given widths. -/
def unpackLE : List ℕ → List UInt8 → List ℕ
  | [], _ => []
  | k :: widths, data => le (data.take k) :: unpackLE widths (data.drop k)

/-- A record has the size of its fields. -/
theorem length_packLE (fields : List (ℕ × ℕ)) :
    (packLE fields).length = (fields.map Prod.fst).sum := by
  induction fields with
  | nil => rfl
  | cons f fields ih =>
    rw [packLE, List.length_append, length_leBytes, ih, List.map_cons, List.sum_cons]

/-- Reading a record back gives the value of every field, as far as it fits. -/
theorem unpackLE_packLE (fields : List (ℕ × ℕ)) (rest : List UInt8) :
    unpackLE (fields.map Prod.fst) (packLE fields ++ rest) =
      fields.map fun f => f.2 % 256^f.1 := by
  induction fields with
  | nil => rfl
  | cons f fields ih =>
    have hlen : (leBytes f.1 f.2).length = f.1 := length_leBytes f.1 f.2
    rw [packLE, List.append_assoc, List.map_cons, unpackLE, List.take_left' hlen,
      List.drop_left' hlen, ih, le_leBytes, List.map_cons]

/-- Reading a record of words back gives the words. -/
theorem unpackLE_packLE_words (words : List UInt32) (rest : List UInt8) :
    unpackLE (words.map fun _ => 4) (packLE (words.map fun n => (4, n.toNat)) ++ rest) =
      words.map UInt32.toNat := by
  have hread := unpackLE_packLE (words.map fun n => (4, n.toNat)) rest
  rw [List.map_map, List.map_map] at hread
  exact hread.trans (List.map_congr_left fun n _ => Nat.mod_eq_of_lt n.toNat_lt)

/-- Packing the fields read from bytes gives the bytes. -/
theorem packLE_unpackLE (widths : List ℕ) (data : List UInt8) (h : data.length = widths.sum) :
    packLE (widths.zip (unpackLE widths data)) = data := by
  induction widths generalizing data with
  | nil => exact (List.eq_nil_of_length_eq_zero h).symm
  | cons k widths ih =>
    rw [List.sum_cons] at h
    have htake : (data.take k).length = k := by
      rw [List.length_take]
      omega
    have hrest := ih (data.drop k) (by rw [List.length_drop]; omega)
    have hfirst := leBytes_le (data.take k)
    rw [htake] at hfirst
    rw [unpackLE, List.zip_cons_cons, packLE, hfirst, hrest, List.take_append_drop]

end DeltaV
