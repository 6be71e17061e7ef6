import Mathlib.Data.List.Basic

/-!
# Lines

A separator cuts a list into lines. The last line needs no separator after it, and after a separator
at the end no line begins. A list that is put together from lines with a separator after each is cut
into these lines (`lines_flatMap`), and where two lists of this kind begin alike, their first lines
are the same (`prefix_line_iff`).
-/

namespace DeltaV

namespace Lines

variable {α : Type*}

/-- Of two lists that begin with lines, one begins with the other exactly when the lines are the same
and this holds of what follows them. -/
theorem prefix_line_iff {sep : α} {l m r s : List α} (hl : sep ∉ l) (hm : sep ∉ m) :
    l ++ sep :: r <+: m ++ sep :: s ↔ l = m ∧ r <+: s := by
  induction l generalizing m with
  | nil =>
    rcases m with _ | ⟨b, m⟩
    · simp
    · have hne : sep ≠ b := (List.ne_and_not_mem_of_not_mem_cons hm).1
      simp [hne]
  | cons a l ih =>
    obtain ⟨hne, hl⟩ := List.ne_and_not_mem_of_not_mem_cons hl
    rcases m with _ | ⟨b, m⟩
    · simp [Ne.symm hne]
    · rw [List.cons_append, List.cons_append, List.cons_prefix_cons,
        ih hl (List.ne_and_not_mem_of_not_mem_cons hm).2, List.cons.injEq, and_assoc]

/-! ## Cutting -/

variable [DecidableEq α]

/-- An element before the first line. -/
def consFirst (a : α) : List (List α) → List (List α)
  | [] => [[a]]
  | l :: ls => (a :: l) :: ls

/-- The lines of a list. -/
def lines (sep : α) : List α → List (List α)
  | [] => []
  | a :: t => if a = sep then [] :: lines sep t else consFirst a (lines sep t)

/-- A line with a separator after it is the first. -/
theorem lines_line {sep : α} {l : List α} (h : sep ∉ l) (t : List α) :
    lines sep (l ++ sep :: t) = l :: lines sep t := by
  induction l with
  | nil => exact if_pos rfl
  | cons a l ih =>
    obtain ⟨hne, hl⟩ := List.ne_and_not_mem_of_not_mem_cons h
    rw [List.cons_append, lines, if_neg (Ne.symm hne), ih hl, consFirst]

/-- Lines with a separator after each, and what follows them. -/
theorem lines_flatMap {sep : α} {ls : List (List α)} (h : ∀ l ∈ ls, sep ∉ l) (t : List α) :
    lines sep (ls.flatMap (fun l => l ++ [sep]) ++ t) = ls ++ lines sep t := by
  induction ls with
  | nil => rfl
  | cons l ls ih =>
    have hl : sep ∉ l := h l List.mem_cons_self
    have hls : ∀ l ∈ ls, sep ∉ l := fun l hl => h l (List.mem_cons_of_mem _ hl)
    rw [List.flatMap_cons, List.append_assoc, List.append_assoc, List.singleton_append,
      lines_line hl, ih hls, List.cons_append]

end Lines

end DeltaV
