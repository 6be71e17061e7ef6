import Mathlib.Data.List.FinRange
import Mathlib.Data.List.OfFn
import Mathlib.Logic.Function.Basic

/-!
# Dense tables

A dense table is an array of `n` slots of which the first `count` are used. An entry is added behind
the last, and an entry is removed by moving the last one into its slot. What is held is then what
was held and the new entry (`holds_push`), or what was held with another key (`holds_removeAt`), and
a table stays `Tidy`: the keys of its entries are distinct, and the slots that are not used are
blank.
-/

namespace DeltaV

/-- An array of `n` slots, of which the first `count` are used. -/
structure DenseTable (n : ℕ) (α : Type*) where
  slot : Fin n → α
  count : ℕ
  count_le : count ≤ n

namespace DenseTable

variable {n : ℕ} {α κ : Type*}

/-- A table in which no slot is used. -/
def empty (n : ℕ) (blank : α) : DenseTable n α := ⟨fun _ => blank, 0, Nat.zero_le n⟩

/-- The entry is in a slot that is used. -/
def Holds (t : DenseTable n α) (a : α) : Prop := ∃ i : Fin n, i.val < t.count ∧ t.slot i = a

/-- The first slot that is used by an entry with the key. -/
def find [DecidableEq κ] (key : α → κ) (t : DenseTable n α) (k : κ) : Option (Fin n) :=
  (List.finRange n).find? fun i => decide (i.val < t.count ∧ key (t.slot i) = k)

/-- The table with an entry behind the last. -/
def push (t : DenseTable n α) (a : α) (h : t.count < n) : DenseTable n α :=
  ⟨Function.update t.slot ⟨t.count, h⟩ a, t.count + 1, h⟩

/-- The last slot that is used. -/
def last (t : DenseTable n α) (h : 0 < t.count) : Fin n :=
  ⟨t.count - 1, by have := t.count_le; omega⟩

/-- The table without the entry of a slot: the last entry is moved there, and its slot is
cleared. -/
def removeAt (blank : α) (t : DenseTable n α) (i : Fin n) (h : i.val < t.count) : DenseTable n α :=
  let last := t.last (Nat.zero_lt_of_lt h)
  ⟨Function.update (Function.update t.slot i (t.slot last)) last blank, t.count - 1,
    (Nat.sub_le _ _).trans t.count_le⟩

/-- The entries, slot by slot. -/
def entries (t : DenseTable n α) : List α :=
  List.ofFn fun i : Fin t.count => t.slot (i.castLE t.count_le)

/-- An entry is listed exactly when the table holds it. -/
theorem mem_entries {t : DenseTable n α} {a : α} : a ∈ t.entries ↔ t.Holds a := by
  unfold entries
  rw [List.mem_ofFn]
  constructor
  · rintro ⟨i, rfl⟩
    exact ⟨i.castLE t.count_le, i.isLt, rfl⟩
  · rintro ⟨i, hi, rfl⟩
    exact ⟨⟨i.val, hi⟩, rfl⟩

/-- As many entries are listed as the table counts. -/
theorem length_entries (t : DenseTable n α) : t.entries.length = t.count := List.length_ofFn

/-- No two entries have the same key, and the slots that are not used are blank. -/
structure Tidy (blank : α) (key : α → κ) (t : DenseTable n α) : Prop where
  distinct : ∀ i j : Fin n, i.val < t.count → j.val < t.count →
    key (t.slot i) = key (t.slot j) → i = j
  blank : ∀ i : Fin n, t.count ≤ i.val → t.slot i = blank

/-- A table without entries is tidy. -/
theorem tidy_empty (n : ℕ) (blank : α) (key : α → κ) : Tidy blank key (empty n blank) :=
  ⟨fun _ _ hi => absurd hi (Nat.not_lt_zero _), fun _ _ => rfl⟩

/-- The keys of the entries are all different. -/
theorem Tidy.nodup_entries {blank : α} {key : α → κ} {t : DenseTable n α} (h : Tidy blank key t) :
    (t.entries.map key).Nodup := by
  unfold entries
  rw [List.map_ofFn, List.nodup_ofFn]
  intro i j hkey
  have hsame : i.castLE t.count_le = j.castLE t.count_le := h.distinct _ _ i.isLt j.isLt hkey
  exact Fin.castLE_injective t.count_le hsame

/-! ## Finding -/

section

variable [DecidableEq κ] {key : α → κ} {t : DenseTable n α} {k : κ}

/-- A key is not found exactly when no entry has it. -/
theorem find_eq_none_iff : t.find key k = none ↔ ∀ a, t.Holds a → key a ≠ k := by
  unfold find
  rw [List.find?_eq_none]
  constructor
  · rintro h a ⟨i, hi, rfl⟩ hkey
    exact h i (List.mem_finRange i) (decide_eq_true ⟨hi, hkey⟩)
  · intro h i _ hi
    obtain ⟨hlt, hkey⟩ := of_decide_eq_true hi
    exact h _ ⟨i, hlt, rfl⟩ hkey

/-- The slot that is found is in use and has the key. -/
theorem of_find_eq_some {i : Fin n} (h : t.find key k = some i) :
    i.val < t.count ∧ key (t.slot i) = k :=
  of_decide_eq_true (List.find?_some (p := fun i : Fin n =>
    decide (i.val < t.count ∧ key (t.slot i) = k)) h)

end

/-! ## Adding -/

section

variable {t : DenseTable n α} {a : α} (h : t.count < n)

include h

/-- After a push the table holds the new entry besides the old ones. -/
theorem holds_push (b : α) : (t.push a h).Holds b ↔ b = a ∨ t.Holds b := by
  have hold : ∀ i : Fin n, i.val < t.count → (t.push a h).slot i = t.slot i := fun i hi =>
    Function.update_of_ne (Fin.ne_of_val_ne (Nat.ne_of_lt hi)) _ _
  constructor
  · rintro ⟨i, hi, rfl⟩
    rcases Nat.lt_succ_iff_lt_or_eq.mp hi with hlt | heq
    · exact Or.inr ⟨i, hlt, (hold i hlt).symm⟩
    · have hlast : i = ⟨t.count, h⟩ := Fin.ext heq
      subst hlast
      exact Or.inl (Function.update_self _ _ _)
  · rintro (rfl | ⟨i, hi, rfl⟩)
    · exact ⟨⟨t.count, h⟩, Nat.lt_succ_self _, Function.update_self _ _ _⟩
    · exact ⟨i, Nat.lt_succ_of_lt hi, hold i hi⟩

/-- The new entry is behind the others. -/
theorem entries_push : (t.push a h).entries = t.entries ++ [a] := by
  have hlast : (t.push a h).slot ⟨t.count, h⟩ = a := Function.update_self _ _ _
  have hold : ∀ i : Fin t.count, (t.push a h).slot (i.castSucc.castLE h) =
      t.slot (i.castLE t.count_le) := fun i =>
    Function.update_of_ne (Fin.ne_of_val_ne (Nat.ne_of_lt i.isLt)) _ _
  change List.ofFn (fun i : Fin (t.count + 1) => (t.push a h).slot (i.castLE h)) = _
  rw [List.ofFn_succ', List.concat_eq_append]
  exact congrArg₂ (· ++ [·]) (congrArg List.ofFn (funext hold)) hlast

/-- An entry with a new key keeps the table tidy. -/
theorem Tidy.push {blank : α} {key : α → κ} (htidy : Tidy blank key t)
    (hnew : ∀ b, t.Holds b → key b ≠ key a) : Tidy blank key (t.push a h) := by
  have hold : ∀ i : Fin n, i.val ≠ t.count → (t.push a h).slot i = t.slot i := fun i hi =>
    Function.update_of_ne (Fin.ne_of_val_ne hi) _ _
  have hself : (t.push a h).slot ⟨t.count, h⟩ = a := Function.update_self _ _ _
  constructor
  · intro i j hi hj hkey
    have hi' : i.val ≤ t.count := Nat.lt_succ_iff.mp hi
    have hj' : j.val ≤ t.count := Nat.lt_succ_iff.mp hj
    by_cases hil : i.val = t.count <;> by_cases hjl : j.val = t.count
    · exact Fin.ext (hil.trans hjl.symm)
    · have hlast : i = ⟨t.count, h⟩ := Fin.ext hil
      subst hlast
      rw [hself, hold j hjl] at hkey
      exact absurd hkey.symm (hnew _ ⟨j, by omega, rfl⟩)
    · have hlast : j = ⟨t.count, h⟩ := Fin.ext hjl
      subst hlast
      rw [hself, hold i hil] at hkey
      exact absurd hkey (hnew _ ⟨i, by omega, rfl⟩)
    · rw [hold i hil, hold j hjl] at hkey
      exact htidy.distinct i j (by omega) (by omega) hkey
  · intro i hi
    have hi' : t.count + 1 ≤ i.val := hi
    rw [hold i (by omega)]
    exact htidy.blank i (by omega)

end

/-! ## Removing -/

section

variable {t : DenseTable n α} {i : Fin n} (hi : i.val < t.count) {blank : α}

include hi

/-- The slots that are used without the entry: the slot of the entry holds the last one. -/
theorem slot_removeAt (j : Fin n) (hj : j.val < t.count - 1) :
    (t.removeAt blank i hi).slot j =
      t.slot (if j = i then t.last (Nat.zero_lt_of_lt hi) else j) := by
  have hne : j ≠ t.last (Nat.zero_lt_of_lt hi) := Fin.ne_of_val_ne (Nat.ne_of_lt hj)
  change Function.update (Function.update t.slot i _) (t.last _) blank j = _
  rw [Function.update_of_ne hne]
  split_ifs with heq
  · rw [heq, Function.update_self]
  · rw [Function.update_of_ne heq]

/-- Without the entry of a slot, the entries with another key are held. -/
theorem holds_removeAt {key : α → κ} (htidy : Tidy blank key t) (a : α) :
    (t.removeAt blank i hi).Holds a ↔ t.Holds a ∧ key a ≠ key (t.slot i) := by
  have hlast : (t.last (Nat.zero_lt_of_lt hi)).val = t.count - 1 := rfl
  constructor
  · rintro ⟨j, hj, rfl⟩
    have hj' : j.val < t.count - 1 := hj
    rw [slot_removeAt hi j hj']
    split_ifs with heq
    · refine ⟨⟨t.last _, by omega, rfl⟩, fun hkey => ?_⟩
      have hsame := htidy.distinct _ _ (by omega) hi hkey
      rw [heq, ← hsame] at hj'
      omega
    · exact ⟨⟨j, by omega, rfl⟩, fun hkey => heq (htidy.distinct _ _ (by omega) hi hkey)⟩
  · rintro ⟨⟨j, hj, rfl⟩, hne⟩
    have hji : j ≠ i := fun heq => hne (heq ▸ rfl)
    by_cases hjl : j.val = t.count - 1
    · -- The last entry has been moved.
      have hil : i.val < t.count - 1 := by
        have := Fin.val_ne_of_ne hji
        omega
      refine ⟨i, hil, ?_⟩
      rw [slot_removeAt hi i hil, if_pos rfl]
      exact congrArg t.slot (Fin.ext hjl.symm)
    · have hj' : j.val < t.count - 1 := by omega
      refine ⟨j, hj', ?_⟩
      rw [slot_removeAt hi j hj', if_neg hji]

/-- A table stays tidy without one of its entries. -/
theorem Tidy.removeAt {key : α → κ} (htidy : Tidy blank key t) :
    Tidy blank key (t.removeAt blank i hi) := by
  have hlast : (t.last (Nat.zero_lt_of_lt hi)).val = t.count - 1 := rfl
  constructor
  · intro j k hj hk hkey
    have hj' : j.val < t.count - 1 := hj
    have hk' : k.val < t.count - 1 := hk
    rw [slot_removeAt hi j hj', slot_removeAt hi k hk'] at hkey
    have hsame := htidy.distinct _ _ (by split_ifs <;> omega) (by split_ifs <;> omega) hkey
    -- The last slot is not used any more.
    split_ifs at hsame with hji hki hki
    · exact hji.trans hki.symm
    · rw [← hsame] at hk'
      omega
    · rw [hsame] at hj'
      omega
    · exact hsame
  · intro j hj
    have hj' : t.count - 1 ≤ j.val := hj
    change Function.update (Function.update t.slot i _) (t.last _) blank j = _
    by_cases hjl : j = t.last (Nat.zero_lt_of_lt hi)
    · rw [hjl, Function.update_self]
    · have hne := Fin.val_ne_of_ne hjl
      have hji : j ≠ i := Fin.ne_of_val_ne (by omega)
      rw [Function.update_of_ne hjl, Function.update_of_ne hji]
      exact htidy.blank j (by omega)

end

end DenseTable

end DeltaV
