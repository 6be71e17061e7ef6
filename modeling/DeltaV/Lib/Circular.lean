import Mathlib.Data.List.GetD
import Mathlib.Data.Nat.ModEq
import Mathlib.Logic.Function.Basic
import Mathlib.Tactic.Ring

/-!
# Circular buffers

A circular buffer with `n + 1` slots keeps a list in consecutive slots, wrapping past the last one.
`advance i k` is the slot `k` places after `i`, and `Window buf i xs` says that the slots from `i`
on hold `xs`. A list that leaves one slot free can grow by a write to that slot
(`Window.write`), and a list loses its first element when the start moves (`Window.tail`); neither
touches the other elements.
-/

namespace DeltaV

variable {α : Type*} {n : ℕ}

/-- The slot `k` places after slot `i`. -/
def advance (i : Fin (n + 1)) (k : ℕ) : Fin (n + 1) := ⟨(i + k) % (n + 1), Nat.mod_lt _ n.succ_pos⟩

/-- A position that does not advance stays. -/
@[simp] theorem advance_zero (i : Fin (n + 1)) : advance i 0 = i :=
  Fin.ext (Nat.mod_eq_of_lt i.isLt)

/-- Advances add up. -/
theorem advance_advance (i : Fin (n + 1)) (k l : ℕ) :
    advance (advance i k) l = advance i (k + l) :=
  Fin.ext (by simp only [advance, Nat.mod_add_mod, Nat.add_assoc])

/-- Two distances within one turn lead to the same slot only if they are equal. -/
theorem advance_inj {i : Fin (n + 1)} {k l : ℕ} (hk : k ≤ n) (hl : l ≤ n) :
    advance i k = advance i l ↔ k = l := by
  refine ⟨fun h => ?_, fun h => by rw [h]⟩
  have hmod : i + k ≡ i + l [MOD n + 1] := congrArg Fin.val h
  exact (Nat.ModEq.add_left_cancel' _ hmod).eq_of_lt_of_lt (by omega) (by omega)

/-- Slots stay apart when they advance together. -/
theorem advance_left_inj {i j : Fin (n + 1)} {k : ℕ} : advance i k = advance j k ↔ i = j := by
  refine ⟨fun h => Fin.ext ?_, fun h => by rw [h]⟩
  have hmod : i + k ≡ j + k [MOD n + 1] := congrArg Fin.val h
  exact (Nat.ModEq.add_right_cancel' _ hmod).eq_of_lt_of_lt i.isLt j.isLt

/-- The slots from `i` on hold the list. -/
def Window (buf : Fin (n + 1) → α) (i : Fin (n + 1)) (xs : List α) : Prop :=
  ∀ k x, xs[k]? = some x → buf (advance i k) = x

/-- A write to the first slot after the list extends the list. -/
theorem Window.write {buf : Fin (n + 1) → α} {i : Fin (n + 1)} {xs : List α}
    (h : Window buf i xs) (hfit : xs.length ≤ n) (x : α) :
    Window (Function.update buf (advance i xs.length) x) i (xs ++ [x]) := by
  intro k y hy
  -- An old element is in another slot than the new one, since one slot was free.
  rcases Nat.lt_or_ge k xs.length with hk | hk
  · rw [List.getElem?_append_left hk] at hy
    have hne : advance i k ≠ advance i xs.length := fun heq => by
      have := (advance_inj (by omega) hfit).mp heq
      omega
    rw [Function.update_of_ne hne]
    exact h k y hy
  · rw [List.getElem?_append_right hk] at hy
    obtain ⟨h0, rfl⟩ : k - xs.length = 0 ∧ x = y := by
      rcases hd : k - xs.length with _ | m
      · simpa [hd] using hy
      · simp [hd] at hy
    obtain rfl : k = xs.length := by omega
    exact Function.update_self ..

/-- The first element of a nonempty list is in the first slot, and the rest follows. -/
theorem Window.tail {buf : Fin (n + 1) → α} {i : Fin (n + 1)} {x : α} {xs : List α}
    (h : Window buf i (x :: xs)) : buf i = x ∧ Window buf (advance i 1) xs := by
  refine ⟨by simpa using h 0 x rfl, fun k y hy => ?_⟩
  rw [advance_advance, Nat.add_comm]
  exact h (k + 1) y (by simpa using hy)

/-- A write outside the list leaves it alone. -/
theorem Window.update_of_notMem {buf : Fin (n + 1) → α} {i j : Fin (n + 1)} {xs : List α}
    (h : Window buf i xs) (hj : ∀ k < xs.length, advance i k ≠ j) (x : α) :
    Window (Function.update buf j x) i xs := by
  intro k y hy
  have hk : k < xs.length := (List.getElem?_eq_some_iff.mp hy).1
  rw [Function.update_of_ne (hj k hk)]
  exact h k y hy

/-- A write to the slot of an element replaces it. -/
theorem Window.set {buf : Fin (n + 1) → α} {i : Fin (n + 1)} {xs : List α} (h : Window buf i xs)
    (hfit : xs.length ≤ n) {k : ℕ} (hk : k < xs.length) (x : α) :
    Window (Function.update buf (advance i k) x) i (xs.set k x) := by
  intro m y hy
  rw [List.getElem?_set] at hy
  -- Within one turn the other elements are in other slots.
  split_ifs at hy with hkm
  · obtain rfl : x = y := Option.some.inj hy
    rw [← hkm]
    exact Function.update_self ..
  · have hm : m < xs.length := (List.getElem?_eq_some_iff.mp hy).1
    have hne : advance i m ≠ advance i k := fun heq => by
      have := (advance_inj (by omega) (by omega)).mp heq
      omega
    rw [Function.update_of_ne hne]
    exact h m y hy

/-- A buffer holds only one list of a given length from a given slot. -/
theorem Window.unique {buf : Fin (n + 1) → α} {i : Fin (n + 1)} {xs ys : List α}
    (hx : Window buf i xs) (hy : Window buf i ys) (hlen : xs.length = ys.length) : xs = ys := by
  refine List.ext_getElem hlen fun k h1 h2 => ?_
  rw [← hx k xs[k] (List.getElem?_eq_getElem h1), ← hy k ys[k] (List.getElem?_eq_getElem h2)]

end DeltaV
