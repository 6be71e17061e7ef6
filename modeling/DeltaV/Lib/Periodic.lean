import DeltaV.Lib.Runs
import Mathlib.Algebra.BigOperators.Group.List.Basic
import Mathlib.Algebra.Order.Ring.Nat
import Mathlib.Data.List.Count

/-!
# Periodic loops

A loop repeats its work with a deadline in every period. A cycle is ready at some time, its work
begins after a latency, and the loop looks at the clock when the work is done. Times are natural
numbers in any unit.

There are two policies for a cycle that is not done at the next deadline. A loop that gives up its
lost time (`restart`) begins a new series of deadlines there: it never runs ahead (`countP_starts_le`)
and keeps every delay for good (`run_restart`). A loop that keeps its deadlines (`catchUp`) runs the
cycles it owes without a pause: it is ready on time exactly when none of its latest cycles together
took longer than their periods (`run_catchUp_eq_iff`).
-/

namespace DeltaV

namespace Periodic

/-- What the clock shows of one cycle. -/
structure Cycle where
  /-- From the time at which the cycle is ready to the beginning of its work. -/
  latency : ℕ
  /-- From there to the reading of the clock after the work. -/
  work : ℕ
deriving DecidableEq, Repr

/-- The time from the readiness of a cycle to the reading of the clock. -/
def Cycle.busy (c : Cycle) : ℕ := c.latency + c.work

/-- How much longer than a period the cycle is busy. -/
def Cycle.overrun (P : ℕ) (c : Cycle) : ℕ := c.busy - P

variable {P : ℕ}

/-! ## Loops that give up lost time -/

/-- The next cycle is ready one period later, or when this one is done. -/
def restart (P ready : ℕ) (c : Cycle) : ℕ := max (ready + P) (ready + c.busy)

/-- The times at which the cycles begin their work. -/
def starts (P ready : ℕ) (cs : List Cycle) : List ℕ :=
  (history (restart P) ready cs).map fun rc => rc.1 + rc.2.latency

/-- Without passes there are no starts. -/
@[simp] theorem starts_nil (P ready : ℕ) : starts P ready [] = [] := rfl

/-- The first pass starts when it is ready, and the others start after it. -/
@[simp] theorem starts_cons (P ready : ℕ) (c : Cycle) (cs : List Cycle) :
    starts P ready (c :: cs) = (ready + c.latency) :: starts P (restart P ready c) cs := rfl

/-- After any number of cycles, the deadline has moved by the periods and by every overrun. -/
theorem run_restart (P ready : ℕ) (cs : List Cycle) :
    run (restart P) ready cs = ready + cs.length * P + (cs.map (Cycle.overrun P)).sum := by
  induction cs generalizing ready with
  | nil => simp
  | cons c cs ih =>
    have hnext : restart P ready c = ready + P + c.overrun P := by
      unfold restart Cycle.overrun
      omega
    rw [run_cons, ih, hnext, List.length_cons, List.map_cons, List.sum_cons, Nat.add_mul]
    omega

/-- Before any time, the loop begins at most one cycle for each period, whole or not, since it was
ready. -/
theorem countP_starts_lt (hi ready : ℕ) (cs : List Cycle) :
    (starts P ready cs).countP (· < hi) = 0 ∨
      ready + ((starts P ready cs).countP (· < hi) - 1) * P < hi := by
  induction cs generalizing ready with
  | nil => exact Or.inl rfl
  | cons c cs ih =>
    have hnext : ready + P ≤ restart P ready c := le_max_left _ _
    have hbusy : ready + c.latency ≤ restart P ready c :=
      (Nat.add_le_add_left (Nat.le_add_right _ _) _).trans (le_max_right _ _)
    rw [starts_cons, List.countP_cons]
    generalize hn : (starts P (restart P ready c) cs).countP (· < hi) = n at ih ⊢
    have hrest := ih (restart P ready c)
    rw [hn] at hrest
    by_cases hstart : ready + c.latency < hi
    · rw [if_pos (by simpa using hstart)]
      right
      rcases hrest with rfl | hlt
      · simp only [Nat.zero_add, Nat.sub_self, Nat.zero_mul]
        omega
      · rcases n with _ | n
        · simp only [Nat.zero_add, Nat.sub_self, Nat.zero_mul]
          omega
        · rw [Nat.add_sub_cancel, Nat.add_mul]
          rw [Nat.add_sub_cancel] at hlt
          omega
    · -- A loop that is ready too late begins nothing more in time.
      rw [if_neg (by simpa using hstart)]
      rcases hrest with rfl | hlt
      · exact Or.inl rfl
      · omega

/-- A loop that gives up lost time never catches up: in `m` periods, wherever they begin, at most
`m + 1` cycles begin. -/
theorem countP_starts_le (lo m ready : ℕ) (cs : List Cycle) :
    (starts P ready cs).countP (fun s => lo ≤ s ∧ s < lo + m * P) ≤ m + 1 := by
  induction cs generalizing ready with
  | nil => simp
  | cons c cs ih =>
    rw [starts_cons, List.countP_cons]
    by_cases hstart : lo ≤ ready + c.latency
    · -- The rest begins after `lo`, so it is enough to count what begins before the end.
      have hready : lo ≤ restart P ready c := by
        have hbusy : ready + c.busy ≤ restart P ready c := le_max_right _ _
        rw [Cycle.busy] at hbusy
        omega
      have hmono : (starts P (restart P ready c) cs).countP (fun s => lo ≤ s ∧ s < lo + m * P) ≤
          (starts P (restart P ready c) cs).countP (· < lo + m * P) :=
        List.countP_mono_left fun s _ h => by
          simp only [decide_eq_true_eq] at h ⊢
          exact h.2
      have hle : (starts P (restart P ready c) cs).countP (· < lo + m * P) ≤ m := by
        rcases countP_starts_lt (P := P) (lo + m * P) (restart P ready c) cs with h0 | hlt
        · omega
        · by_contra hmore
          have hm : m * P ≤
              ((starts P (restart P ready c) cs).countP (· < lo + m * P) - 1) * P :=
            Nat.mul_le_mul_right P (by omega)
          omega
      split_ifs <;> omega
    · have hskip : ¬(lo ≤ ready + c.latency ∧ ready + c.latency < lo + m * P) := fun h =>
        hstart h.1
      rw [if_neg (by simpa using hskip), Nat.add_zero]
      exact ih _

/-- Without overruns, cycle `k` begins its latency after the `k`th deadline. -/
theorem getElem?_starts {ready : ℕ} {cs : List Cycle} (h : ∀ c ∈ cs, c.busy ≤ P) (k : ℕ) :
    (starts P ready cs)[k]? = cs[k]?.map fun c => ready + k * P + c.latency := by
  induction cs generalizing ready k with
  | nil => rfl
  | cons c cs ih =>
    have hnext : restart P ready c = ready + P := by
      have hc := h c List.mem_cons_self
      unfold restart
      omega
    cases k with
    | zero => simp
    | succ k =>
      rw [starts_cons, List.getElem?_cons_succ, List.getElem?_cons_succ, hnext,
        ih fun c hc => h c (List.mem_cons_of_mem _ hc)]
      congr 1
      funext c
      rw [Nat.add_mul]
      omega

/-! ## Counting by place -/

/-- Entries that are counted only within `n` places are at most `n`. -/
theorem countP_le_of_places {α : Type*} {p : α → Bool} {l : List α} {n : ℕ} (lo : ℕ)
    (h : ∀ k x, l[k]? = some x → p x → lo ≤ k ∧ k < lo + n) : l.countP p ≤ n := by
  have hsplit : l = l.take lo ++ ((l.drop lo).take n ++ l.drop (lo + n)) := by
    rw [← List.drop_drop, List.take_append_drop, List.take_append_drop]
  have hbefore : (l.take lo).countP p = 0 := List.countP_eq_zero.mpr fun x hx hp => by
    obtain ⟨k, hk⟩ := List.mem_iff_getElem?.mp hx
    rw [List.getElem?_take] at hk
    split_ifs at hk with hlt
    have hplace := h k x hk hp
    omega
  have hafter : (l.drop (lo + n)).countP p = 0 := List.countP_eq_zero.mpr fun x hx hp => by
    obtain ⟨k, hk⟩ := List.mem_iff_getElem?.mp hx
    rw [List.getElem?_drop] at hk
    have hplace := h _ x hk hp
    omega
  calc l.countP p = ((l.drop lo).take n).countP p := by
        rw [hsplit, List.countP_append, List.countP_append, hbefore, hafter, ← hsplit]
        omega
    _ ≤ ((l.drop lo).take n).length := List.countP_le_length
    _ ≤ n := List.length_take_le _ _

/-- Entries that are all counted within `n` places are at least `n`. -/
theorem le_countP_of_places {α : Type*} {p : α → Bool} {l : List α} {n : ℕ} (lo : ℕ)
    (hlen : lo + n ≤ l.length) (h : ∀ k x, l[k]? = some x → lo ≤ k → k < lo + n → p x) :
    n ≤ l.countP p := by
  have hall : ((l.drop lo).take n).countP p = ((l.drop lo).take n).length := by
    refine List.countP_eq_length.mpr fun x hx => ?_
    obtain ⟨k, hk⟩ := List.mem_iff_getElem?.mp hx
    rw [List.getElem?_take] at hk
    split_ifs at hk with hlt
    rw [List.getElem?_drop] at hk
    exact h _ x hk (by omega) (by omega)
  have hsub : ((l.drop lo).take n).Sublist l :=
    (List.take_sublist _ _).trans (List.drop_sublist _ _)
  calc n = ((l.drop lo).take n).length := by
        rw [List.length_take, List.length_drop]
        omega
    _ = ((l.drop lo).take n).countP p := hall.symm
    _ ≤ l.countP p := hsub.countP_le

/-! ## Loops that keep their deadlines -/

/-- The deadline of the next cycle, and the time at which it is ready: at its deadline, or when this
cycle is done. -/
def catchUp (P : ℕ) (s : ℕ × ℕ) (c : Cycle) : ℕ × ℕ := (s.1 + P, max (s.1 + P) (s.2 + c.busy))

/-- The deadlines move by one period in every cycle. -/
theorem run_catchUp_fst (P : ℕ) (s : ℕ × ℕ) (cs : List Cycle) :
    (run (catchUp P) s cs).1 = s.1 + cs.length * P := by
  induction cs generalizing s with
  | nil => simp
  | cons c cs ih =>
    rw [run_cons, ih, catchUp, List.length_cons, Nat.add_mul]
    omega

/-- The loop is ready at a time or before exactly when each series of latest cycles, begun at its
deadline and run without a pause, is done by then. -/
theorem run_catchUp_le_iff (ready bound : ℕ) (cs : List Cycle) :
    (run (catchUp P) (ready, ready) cs).2 ≤ bound ↔
      ∀ late, late <:+ cs →
        ready + (cs.length - late.length) * P + (late.map Cycle.busy).sum ≤ bound := by
  induction cs using List.reverseRecOn generalizing bound with
  | nil => simp
  | append_singleton cs c ih =>
    have hfst : (run (catchUp P) (ready, ready) cs).1 = ready + cs.length * P :=
      run_catchUp_fst P (ready, ready) cs
    rw [run_concat, catchUp, hfst, max_le_iff]
    constructor
    · rintro ⟨hdue, hdone⟩ late hlate
      rw [List.length_append, List.length_singleton]
      -- The series is empty, or it ends with the new cycle.
      rcases List.suffix_concat_iff.mp hlate with rfl | ⟨late, rfl, hlate'⟩
      · simp only [List.length_nil, Nat.sub_zero, List.map_nil, List.sum_nil, Nat.add_mul]
        omega
      · have hearlier := (ih ((run (catchUp P) (ready, ready) cs).2)).mp le_rfl late hlate'
        rw [List.length_append, List.length_singleton, List.map_append, List.sum_append,
          List.map_singleton, List.sum_singleton, Nat.add_sub_add_right]
        omega
    · intro h
      refine ⟨?_, ?_⟩
      · have hnil := h [] (List.nil_suffix)
        simp only [List.length_append, List.length_singleton, List.length_nil, Nat.sub_zero,
          List.map_nil, List.sum_nil, Nat.add_mul] at hnil
        omega
      · have hone := h [c] (List.suffix_append cs [c])
        simp only [List.length_append, List.length_singleton, Nat.add_sub_cancel, List.map_singleton,
          List.sum_singleton] at hone
        have hle : (run (catchUp P) (ready, ready) cs).2 ≤ bound - c.busy := by
          refine (ih _).mpr fun late hlate => ?_
          have hlonger := h (late ++ [c]) (List.suffix_concat_iff.mpr (Or.inr ⟨late, rfl, hlate⟩))
          rw [List.length_append, List.length_singleton, List.length_append, List.length_singleton,
            Nat.add_sub_add_right, List.map_append, List.sum_append, List.map_singleton,
            List.sum_singleton] at hlonger
          omega
        omega

/-- The loop is never ready before its deadline. -/
theorem le_run_catchUp (ready : ℕ) (cs : List Cycle) :
    ready + cs.length * P ≤ (run (catchUp P) (ready, ready) cs).2 := by
  have hnil := (run_catchUp_le_iff (P := P) ready _ cs).mp le_rfl [] (List.nil_suffix)
  simpa using hnil

/-- The loop is ready on time exactly when no series of latest cycles was busy for longer than its
periods. -/
theorem run_catchUp_eq_iff (ready : ℕ) (cs : List Cycle) :
    (run (catchUp P) (ready, ready) cs).2 = ready + cs.length * P ↔
      ∀ late, late <:+ cs → (late.map Cycle.busy).sum ≤ late.length * P := by
  have heq : (run (catchUp P) (ready, ready) cs).2 = ready + cs.length * P ↔
      (run (catchUp P) (ready, ready) cs).2 ≤ ready + cs.length * P :=
    ⟨fun h => h.le, fun h => le_antisymm h (le_run_catchUp ready cs)⟩
  rw [heq, run_catchUp_le_iff]
  refine forall_congr' fun late => imp_congr_right fun hlate => ?_
  have hlen : cs.length * P = (cs.length - late.length) * P + late.length * P := by
    rw [← Nat.add_mul, Nat.sub_add_cancel hlate.length_le]
  omega

end Periodic

end DeltaV
