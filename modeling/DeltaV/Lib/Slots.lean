import Mathlib.Data.List.FinRange
import Mathlib.Logic.Function.Basic

/-!
# Tables of slots

A table is an array of `n` slots, searched from its first slot on. An entry with a key is written to
the slot that holds the key or else to the first free slot (`slotFor`), which keeps the keys of the
active entries distinct (`DistinctKeys.update`).
-/

namespace DeltaV

namespace Slots

variable {n : ℕ} {α κ : Type*}

/-- The first slot whose entry passes the test. -/
def first (p : α → Bool) (t : Fin n → α) : Option (Fin n) :=
  (List.finRange n).find? fun i => p (t i)

/-- No slot is found exactly when no entry passes. -/
theorem first_eq_none_iff {p : α → Bool} {t : Fin n → α} :
    first p t = none ↔ ∀ i, p (t i) = false := by
  unfold first
  rw [List.find?_eq_none]
  constructor
  · intro h i
    exact Bool.eq_false_iff.mpr (h i (List.mem_finRange i))
  · intro h i _
    exact Bool.eq_false_iff.mp (h i)

/-- The entry that is found passes. -/
theorem of_first_eq_some {p : α → Bool} {t : Fin n → α} {i : Fin n} (h : first p t = some i) :
    p (t i) = true := by
  unfold first at h
  simpa using List.find?_some h

/-- The number of slots whose entries pass. -/
def count (p : α → Bool) (t : Fin n → α) : ℕ := (List.finRange n).countP fun i => p (t i)

/-- A pass over the slots that changes each in the same way. -/
theorem table_foldl_finRange {σ : Type*} {table : σ → Fin n → α} {step : σ → Fin n → σ} {f : α → α}
    (h : ∀ s i, table (step s i) = Function.update (table s) i (f (table s i))) (s : σ) :
    table ((List.finRange n).foldl step s) = fun i => f (table s i) := by
  -- The slots that have been passed are changed, and the others are as before.
  have hpass (slots : List (Fin n)) (hnodup : slots.Nodup) (s : σ) (i : Fin n) :
      table (slots.foldl step s) i = if i ∈ slots then f (table s i) else table s i := by
    induction slots generalizing s with
    | nil => rfl
    | cons j slots ih =>
      obtain ⟨hj, hnodup⟩ := List.nodup_cons.mp hnodup
      rw [List.foldl_cons, ih hnodup, h]
      rcases eq_or_ne i j with rfl | hne
      · rw [if_neg hj, if_pos List.mem_cons_self, Function.update_self]
      · rw [Function.update_of_ne hne]
        simp only [List.mem_cons, hne, false_or]
  funext i
  rw [hpass _ (List.nodup_finRange n), if_pos (List.mem_finRange i)]

/-! ## Keys -/

/-- The slot for an entry with the key: the active one that has the key already, or else the first
that is free. -/
def slotFor [DecidableEq κ] (active : α → Bool) (key : α → κ) (t : Fin n → α) (k : κ) :
    Option (Fin n) :=
  (first (fun a => active a && decide (key a = k)) t).or (first (fun a => !active a) t)

/-- No two active entries have the same key. -/
def DistinctKeys (active : α → Bool) (key : α → κ) (t : Fin n → α) : Prop :=
  ∀ i j, active (t i) = true → active (t j) = true → key (t i) = key (t j) → i = j

variable {active : α → Bool} {key : α → κ} {t : Fin n → α}

/-- In a table without active entries there are no equal keys. -/
theorem DistinctKeys.of_inactive (h : ∀ i, active (t i) = false) : DistinctKeys active key t :=
  fun i _ hi => absurd hi (by rw [h i]; exact Bool.false_ne_true)

/-- Freeing a slot keeps the keys distinct. -/
theorem DistinctKeys.free (h : DistinctKeys active key t) {a : α} (ha : active a = false)
    (i : Fin n) : DistinctKeys active key (Function.update t i a) := by
  intro j k hj hk hkey
  have hne (l : Fin n) (hl : active (Function.update t i a l) = true) : l ≠ i := by
    rintro rfl
    rw [Function.update_self, ha] at hl
    exact Bool.false_ne_true hl
  have hji := hne j hj
  have hki := hne k hk
  rw [Function.update_of_ne hji] at hj hkey
  rw [Function.update_of_ne hki] at hk hkey
  exact h j k hj hk hkey

variable [DecidableEq κ]

/-- The slot for a key holds it, or no active entry does and the slot is free. -/
theorem slotFor_eq_some {k : κ} {i : Fin n} (h : slotFor active key t k = some i) :
    (active (t i) = true ∧ key (t i) = k) ∨
      (active (t i) = false ∧ ∀ j, active (t j) = true → key (t j) ≠ k) := by
  unfold slotFor at h
  rcases hfind : first (fun a => active a && decide (key a = k)) t with _ | j
  · rw [hfind, Option.none_or] at h
    have hfree := of_first_eq_some h
    refine Or.inr ⟨by simpa using hfree, fun j hj hkey => ?_⟩
    have hnone := first_eq_none_iff.mp hfind j
    simp [hj, hkey] at hnone
  · rw [hfind, Option.some_or] at h
    have hhold := of_first_eq_some hfind
    rw [← Option.some.inj h]
    exact Or.inl (by simpa using hhold)

/-- There is no slot for a key exactly when all slots are active with other keys. -/
theorem slotFor_eq_none_iff {k : κ} :
    slotFor active key t k = none ↔ ∀ i, active (t i) = true ∧ key (t i) ≠ k := by
  unfold slotFor
  rw [Option.or_eq_none_iff, first_eq_none_iff, first_eq_none_iff, ← forall_and]
  refine forall_congr' fun i => ?_
  rcases hactive : active (t i) with _ | _ <;> simp

/-- Writing an entry to the slot for its key keeps the keys distinct. -/
theorem DistinctKeys.update (h : DistinctKeys active key t) {a : α} {i : Fin n}
    (hi : slotFor active key t (key a) = some i) :
    DistinctKeys active key (Function.update t i a) := by
  -- No other slot has the key of the new entry.
  have hother (j : Fin n) (hj : j ≠ i) (hactive : active (t j) = true) : key (t j) ≠ key a := by
    intro hkey
    rcases slotFor_eq_some hi with ⟨hold, hold'⟩ | ⟨-, hnone⟩
    · exact hj (h j i hactive hold (hkey.trans hold'.symm))
    · exact hnone j hactive hkey
  intro j k hj hk hkey
  by_cases hji : j = i <;> by_cases hki : k = i
  · exact hji.trans hki.symm
  · rw [Function.update_of_ne hki] at hk hkey
    rw [hji, Function.update_self] at hkey
    exact absurd hkey.symm (hother k hki hk)
  · rw [Function.update_of_ne hji] at hj hkey
    rw [hki, Function.update_self] at hkey
    exact absurd hkey (hother j hji hj)
  · rw [Function.update_of_ne hji] at hj hkey
    rw [Function.update_of_ne hki] at hk hkey
    exact h j k hj hk hkey

end Slots

end DeltaV
