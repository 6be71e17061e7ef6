import Mathlib.Data.Nat.ModEq
import Mathlib.Tactic.Linarith

/-!
# Sequence numbers that wrap

A receiver that remembers the last number it accepted takes a greater one, or a wrapped one: the
last number is above `high` and the new one below `low` (`Next`). A sequence of accepted numbers
rises between wraps, so a number can come back only across a wrap (`exists_wrap`). When every number
is at most `g` ahead of the one before, modulo `M`, a number needs more than `M / g` steps to come
back (`ne_of_ahead`).
-/

namespace DeltaV

namespace SerialNumber

/-- The number `b` may follow `a`. -/
def Next (high low a b : ℕ) : Prop := a < b ∨ (high < a ∧ b < low)

/-- The number `b` lies at least one and at most `g` places ahead of `a`, modulo `M`. -/
def Ahead (g M a b : ℕ) : Prop := ∃ d, 1 ≤ d ∧ d ≤ g ∧ b ≡ a + d [MOD M]

/-- A number at most `g` places ahead may follow, when the wrap bounds leave room for `g` places on
both sides of the wrap. -/
theorem next_of_ahead {high low g M a d : ℕ} (hhigh : high + g < M) (hlow : g ≤ low) (hd : 1 ≤ d)
    (hdg : d ≤ g) : Next high low (a % M) ((a + d) % M) := by
  have ha : a % M < M := Nat.mod_lt _ (by omega)
  rw [← Nat.mod_add_mod]
  rcases lt_or_ge (a % M + d) M with h | h
  · -- The number does not wrap.
    rw [Nat.mod_eq_of_lt h]
    exact Or.inl (by omega)
  · have hwrap : (a % M + d) % M = a % M + d - M := by
      rw [Nat.mod_eq_sub_mod h]
      exact Nat.mod_eq_of_lt (by omega)
    rw [hwrap]
    exact Or.inr ⟨by omega, by omega⟩

/-- A number that comes back does so across a wrap. -/
theorem exists_wrap {high low : ℕ} {f : ℕ → ℕ} {i j : ℕ} (hij : i < j)
    (hnext : ∀ k, i ≤ k → k < j → Next high low (f k) (f (k + 1))) (heq : f i = f j) :
    ∃ k, i ≤ k ∧ k < j ∧ high < f k ∧ f (k + 1) < low := by
  by_contra hnone
  -- Without a wrap every step rises, so a later number is greater.
  have hrise : ∀ n, i + n + 1 ≤ j → f i < f (i + n + 1) := by
    intro n
    induction n with
    | zero =>
      intro hn
      rcases hnext i le_rfl (by omega) with h | h
      · exact h
      · exact absurd ⟨i, le_rfl, by omega, h⟩ hnone
    | succ n ih =>
      intro hn
      rcases hnext (i + n + 1) (by omega) (by omega) with h | h
      · exact (ih (by omega)).trans h
      · exact absurd ⟨i + n + 1, by omega, by omega, h⟩ hnone
  have hlast := hrise (j - i - 1) (by omega)
  rw [show i + (j - i - 1) + 1 = j by omega, heq] at hlast
  exact lt_irrefl _ hlast

/-- After `n` steps of at most `g` places the sequence is between `n` and `n * g` places ahead. -/
theorem exists_ahead {g M : ℕ} {f : ℕ → ℕ} {i j : ℕ}
    (hahead : ∀ k, i ≤ k → k < j → Ahead g M (f k) (f (k + 1))) (n : ℕ) (hn : i + n ≤ j) :
    ∃ d, n ≤ d ∧ d ≤ n * g ∧ f (i + n) ≡ f i + d [MOD M] := by
  -- Distances of consecutive steps add up.
  induction n with
  | zero => exact ⟨0, le_rfl, Nat.zero_le _, Nat.ModEq.refl _⟩
  | succ n ih =>
    obtain ⟨d, hlo, hhi, hd⟩ := ih (by omega)
    obtain ⟨d', hlo', hhi', hd'⟩ := hahead (i + n) (by omega) (by omega)
    refine ⟨d + d', by omega, by rw [Nat.add_mul]; omega, ?_⟩
    calc f (i + n + 1) ≡ f (i + n) + d' [MOD M] := hd'
      _ ≡ f i + d + d' [MOD M] := hd.add_right d'
      _ = f i + (d + d') := Nat.add_assoc _ _ _

/-- A number does not come back within a turn. -/
theorem ne_of_ahead {g M : ℕ} {f : ℕ → ℕ} {i j : ℕ} (hij : i < j)
    (hahead : ∀ k, i ≤ k → k < j → Ahead g M (f k) (f (k + 1))) (hturn : (j - i) * g < M) :
    f i ≠ f j := by
  intro heq
  obtain ⟨d, hlo, hhi, hd⟩ := exists_ahead hahead (j - i) (by omega)
  rw [show i + (j - i) = j by omega, ← heq] at hd
  -- The distance would be a multiple of `M` between `1` and `M - 1`.
  have hzero : 0 ≡ d [MOD M] := by
    have hd' : f i + 0 ≡ f i + d [MOD M] := hd
    exact Nat.ModEq.add_left_cancel' _ hd'
  have := hzero.eq_of_lt_of_lt (by omega) (by omega)
  omega

end SerialNumber

end DeltaV
