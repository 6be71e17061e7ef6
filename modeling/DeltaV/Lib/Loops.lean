import Mathlib.Data.List.Basic
import Mathlib.Logic.Function.Iterate
import Mathlib.Order.Lattice

/-!
# Loops that search, and loops that can fail

`whileIn` is the loop that replaces a value by the next one while it is in a list, for a given
number of passes. When the next value is always larger, the values are different, so the loop leaves
the list after at most as many passes as the list has entries (`exists_whileIn`). `foldlM_spec` is
the rule for a loop over a list whose body can fail: an invariant that knows which entries are done
shows that the loop does not.
-/

namespace DeltaV

variable {α β σ ε : Type*}

/-- `while x in used: x = next(x)`; `none` when the loop is still running after the passes. -/
def whileIn [DecidableEq α] (used : List α) (next : α → α) : ℕ → α → Option α
  | 0, x => if x ∈ used then none else some x
  | passes + 1, x => if x ∈ used then whileIn used next passes (next x) else some x

/-- A value that is not in the list is left alone. -/
theorem whileIn_of_not_mem [DecidableEq α] {used : List α} {x : α} (h : x ∉ used) (next : α → α)
    (passes : ℕ) : whileIn used next passes x = some x := by
  cases passes <;> exact if_neg h

/-- Among the entries that are not smaller than `x`, fewer are not smaller than the next value when
`x` is one of them. -/
theorem length_filter_next_lt [LinearOrder β] {size : α → β} {next : α → α} {used : List α} {x : α}
    (hgrow : size x < size (next x)) (h : x ∈ used) :
    (used.filter fun u => size (next x) ≤ size u).length <
      (used.filter fun u => size x ≤ size u).length := by
  have hfilter : (used.filter fun u => size (next x) ≤ size u) =
      (used.filter fun u => size x ≤ size u).filter fun u => size (next x) ≤ size u := by
    rw [List.filter_filter]
    refine List.filter_congr fun u _ => ?_
    by_cases hle : size (next x) ≤ size u
    · simp [hle, hgrow.le.trans hle]
    · simp [hle]
  rw [hfilter, List.length_filter_lt_length_iff_exists]
  exact ⟨x, List.mem_filter.mpr ⟨h, by simp⟩, by simpa using hgrow⟩

/-- A loop whose values grow ends at a value that is not in the list, however many more passes it
may make. -/
theorem exists_whileIn [DecidableEq α] [LinearOrder β] (size : α → β) (next : α → α)
    (hgrow : ∀ x, size x < size (next x)) (used : List α) (x : α) :
    ∃ k, next^[k] x ∉ used ∧
      ∀ passes, used.length ≤ passes → whileIn used next passes x = some (next^[k] x) := by
  suffices h : ∀ (bound : ℕ) (x : α), (used.filter fun u => size x ≤ size u).length ≤ bound →
      ∃ k, next^[k] x ∉ used ∧
        ∀ passes, bound ≤ passes → whileIn used next passes x = some (next^[k] x) from
    h used.length x (List.length_filter_le _ _)
  intro bound
  induction bound with
  | zero =>
    intro x hcount
    have hx : x ∉ used := by
      intro h
      have hmem : x ∈ used.filter fun u => size x ≤ size u := List.mem_filter.mpr ⟨h, by simp⟩
      exact absurd (List.length_pos_of_mem hmem) (by omega)
    exact ⟨0, hx, fun passes _ => whileIn_of_not_mem hx next passes⟩
  | succ bound ih =>
    intro x hcount
    by_cases hx : x ∈ used
    · have hlt := length_filter_next_lt (hgrow x) hx
      obtain ⟨k, hfree, hk⟩ := ih (next x) (by omega)
      refine ⟨k + 1, hfree, fun passes hpasses => ?_⟩
      obtain ⟨n, rfl⟩ : ∃ n, passes = n + 1 := ⟨passes - 1, by omega⟩
      exact (if_pos hx).trans (hk n (by omega))
    · exact ⟨0, hx, fun passes _ => whileIn_of_not_mem hx next passes⟩

/-- After a success the computation goes on. -/
@[simp] theorem except_ok_bind {γ δ : Type} (a : γ) (f : γ → Except ε δ) :
    (Except.ok a >>= f) = f a := rfl

/-- A loop over a list whose body may search, and does not fail in the states that the entries
before lead to. It has one result, however many more passes the searches may make. -/
theorem foldlM_spec {f : ℕ → σ → α → Except ε σ} {P : List α → σ → Prop} {l : List α} {bound : ℕ}
    (hstep : ∀ done a rest s, l = done ++ a :: rest → P done s →
      ∃ s', (∀ passes, bound ≤ passes → f passes s a = Except.ok s') ∧ P (done ++ [a]) s')
    {s : σ} (hs : P [] s) :
    ∃ s', (∀ passes, bound ≤ passes → l.foldlM (f passes) s = Except.ok s') ∧ P l s' := by
  suffices h : ∀ (rest done : List α) (s : σ), l = done ++ rest → P done s →
      ∃ s', (∀ passes, bound ≤ passes → rest.foldlM (f passes) s = Except.ok s') ∧ P l s' from
    h l [] s rfl hs
  intro rest
  induction rest with
  | nil =>
    intro done s hl hdone
    rw [hl, List.append_nil]
    exact ⟨s, fun _ _ => rfl, hdone⟩
  | cons a rest ih =>
    intro done s hl hdone
    obtain ⟨s₁, hok, hnext⟩ := hstep done a rest s hl hdone
    obtain ⟨s', hfold, hend⟩ := ih (done ++ [a]) s₁ (by rw [hl, List.append_assoc]; rfl) hnext
    refine ⟨s', fun passes hpasses => ?_, hend⟩
    rw [List.foldlM_cons, hok passes hpasses]
    exact hfold passes hpasses

end DeltaV
