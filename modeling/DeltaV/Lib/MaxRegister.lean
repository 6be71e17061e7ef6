import DeltaV.Lib.Logs
import Mathlib.Data.List.Chain
import Mathlib.Order.MinMax

/-!
# A register that only grows

Several parties raise a shared register to targets of their own. Each keeps a candidate, which
starts as its target, and the value that it expects in the register. It raises the candidate to the
expected value and exchanges the register for the candidate, which succeeds only if the register
still holds the expected value; otherwise it expects what the register holds, and tries again.

An `Attempt` is what stays true of a party while the others exchange the register. When its own
exchange succeeds, the register holds the maximum of its old value and the target (`max_eq`), so
the values that the parties put there are in order (`pairwise_of_justified`).
-/

namespace DeltaV

namespace MaxRegister

variable {α : Type*} [LinearOrder α] {target candidate expected shared shared' : α}

/-- A party between two exchanges. -/
structure Attempt (target candidate expected shared : α) : Prop where
  target_le : target ≤ candidate
  /-- What raised the candidate above the target was in the register. -/
  candidate_le : candidate ≤ max target shared
  expected_le : expected ≤ shared

/-- An attempt begins with the value that it has read. -/
theorem Attempt.start (target shared : α) : Attempt target target shared shared :=
  ⟨le_rfl, le_max_left _ _, le_rfl⟩

/-- The register grows. -/
theorem Attempt.mono (h : Attempt target candidate expected shared) (hle : shared ≤ shared') :
    Attempt target candidate expected shared' :=
  ⟨h.target_le, h.candidate_le.trans (max_le_max le_rfl hle), h.expected_le.trans hle⟩

/-- The exchange fails, and the party reads the register. -/
theorem Attempt.retry (h : Attempt target candidate expected shared) :
    Attempt target (max candidate expected) shared shared := by
  refine ⟨h.target_le.trans (le_max_left _ _), max_le h.candidate_le ?_, le_rfl⟩
  exact h.expected_le.trans (le_max_right _ _)

/-- The exchange succeeds. -/
theorem Attempt.max_eq (h : Attempt target candidate expected shared) (heq : shared = expected) :
    max candidate expected = max shared target := by
  subst heq
  apply le_antisymm
  · exact max_le (h.candidate_le.trans (max_comm _ _).le) (le_max_left _ _)
  · exact max_le (le_max_right _ _) (h.target_le.trans (le_max_left _ _))

/-- Values that are each at least the one before are in order. -/
theorem pairwise_of_justified {β : Type*} {value : β → α} {log : List β}
    (h : Logs.Justified (fun pre b => ∀ a ∈ pre.getLast?, value a ≤ value b) log) :
    (log.map value).Pairwise (· ≤ ·) := by
  rw [← List.isChain_iff_pairwise]
  induction log using List.reverseRecOn with
  | nil => exact List.IsChain.nil
  | append_singleton log b ih =>
    obtain ⟨hlog, hb⟩ := Logs.justified_concat.mp h
    rw [List.map_append, List.isChain_append]
    refine ⟨ih hlog, List.IsChain.singleton _, fun x hx y hy => ?_⟩
    rw [List.getLast?_map] at hx
    obtain ⟨a, ha, rfl⟩ := Option.map_eq_some_iff.mp hx
    obtain rfl : value b = y := by simpa using hy
    exact hb a ha

end MaxRegister

end DeltaV
