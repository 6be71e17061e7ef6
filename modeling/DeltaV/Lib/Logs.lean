import DeltaV.Lib.Runs

/-!
# Logs

A log is a list of what has happened, to which every event appends. A log is `Justified` when each
entry is allowed by the entries before it. For a test on the entries, `last` is the last entry that
passes, and `since` are the entries after it. Where the entries are about slots, an entry about one
slot is the last about it and leaves what is said of the others (`last_concat_of_slot`). The history
of a run is a log, and a register is after the run what the last input that writes it has written
(`last_write_run`).
-/

namespace DeltaV

namespace Logs

variable {α : Type*} {allows : List α → α → Prop} {log : List α}

/-- Every entry is allowed by those before it. -/
def Justified (allows : List α → α → Prop) (log : List α) : Prop :=
  ∀ pre a, pre ++ [a] <+: log → allows pre a

/-- A log without entries is justified. -/
theorem Justified.nil : Justified allows [] := fun pre _ hpre =>
  absurd (List.prefix_nil.mp hpre) (List.append_ne_nil_of_right_ne_nil pre (List.cons_ne_nil _ _))

/-- A log is justified exactly when its beginning is and allows the last entry. -/
theorem justified_concat {a : α} :
    Justified allows (log ++ [a]) ↔ Justified allows log ∧ allows log a := by
  constructor
  · intro h
    exact ⟨fun pre b hpre => h pre b (hpre.trans (List.prefix_append log [a])),
      h log a List.prefix_rfl⟩
  · rintro ⟨hlog, ha⟩ pre b hpre
    rcases List.prefix_concat_iff.mp hpre with heq | hpre
    · obtain ⟨rfl, hlast⟩ := List.append_inj' heq rfl
      exact List.singleton_inj.mp hlast ▸ ha
    · exact hlog pre b hpre

/-- The beginning of a justified log is justified. -/
theorem Justified.of_prefix {log' : List α} (h : Justified allows log') (hpre : log <+: log') :
    Justified allows log := fun pre a ha => h pre a (ha.trans hpre)

/-- The last entry that passes the test. -/
def last (p : α → Bool) (log : List α) : Option α := (log.filter p).getLast?

/-- An entry that passes is the last one that does. -/
theorem last_concat_of_pos {p : α → Bool} {a : α} (h : p a = true) (log : List α) :
    last p (log ++ [a]) = some a := by
  rw [last, List.filter_append, List.filter_cons_of_pos h, List.filter_nil, List.getLast?_concat]

/-- An entry that does not pass leaves the last one that does. -/
theorem last_concat_of_neg {p : α → Bool} {a : α} (h : p a = false) (log : List α) :
    last p (log ++ [a]) = last p log := by
  rw [last, List.filter_append, List.filter_cons_of_neg (Bool.eq_false_iff.mp h), List.filter_nil,
    List.append_nil, last]

/-- The last entry that passes the test is in the log and passes. -/
theorem of_last_eq_some {p : α → Bool} {a : α} (h : last p log = some a) : a ∈ log ∧ p a = true :=
  List.mem_filter.mp (List.mem_of_getLast? h)

/-- The entries after the last one that passes the test. -/
def since (p : α → Bool) (log : List α) : List α :=
  log.foldl (fun acc a => if p a then [] else acc ++ [a]) []

/-- Nothing comes after an entry that has just been made. -/
theorem since_concat_of_pos {p : α → Bool} {a : α} (h : p a = true) (log : List α) :
    since p (log ++ [a]) = [] := by
  rw [since, List.foldl_concat, if_pos h]

/-- An entry that does not pass comes after the last one that does. -/
theorem since_concat_of_neg {p : α → Bool} {a : α} (h : p a = false) (log : List α) :
    since p (log ++ [a]) = since p log ++ [a] := by
  rw [since, List.foldl_concat, if_neg (Bool.eq_false_iff.mp h), since]

/-! ## Slots -/

variable {ι : Type*} [DecidableEq ι] {about : ι → α → Bool} {i : ι} {a : α}

/-- An entry about one slot is the last about this slot and about no other. -/
theorem last_concat_of_slot (h : ∀ j, about j a = decide (i = j)) (log : List α) (j : ι) :
    last (about j) (log ++ [a]) = if i = j then some a else last (about j) log := by
  split_ifs with heq
  · exact last_concat_of_pos ((h j).trans (decide_eq_true heq)) log
  · exact last_concat_of_neg ((h j).trans (decide_eq_false heq)) log

/-- Nothing comes after an entry about its slot, and it comes after the last about every other slot.
-/
theorem since_concat_of_slot (h : ∀ j, about j a = decide (i = j)) (log : List α) (j : ι) :
    since (about j) (log ++ [a]) = if i = j then [] else since (about j) log ++ [a] := by
  split_ifs with heq
  · exact since_concat_of_pos ((h j).trans (decide_eq_true heq)) log
  · exact since_concat_of_neg ((h j).trans (decide_eq_false heq)) log

/-! ## What is read off a log -/

/-- An entry from which nothing is read. -/
theorem filterMap_concat_of_none {β : Type*} {f : α → Option β} (h : f a = none) (log : List α) :
    (log ++ [a]).filterMap f = log.filterMap f := by
  rw [List.filterMap_append, List.filterMap_cons_none h, List.filterMap_nil, List.append_nil]

/-- An entry from which something is read. -/
theorem filterMap_concat_of_some {β : Type*} {f : α → Option β} {b : β} (h : f a = some b)
    (log : List α) : (log ++ [a]).filterMap f = log.filterMap f ++ [b] := by
  rw [List.filterMap_append, List.filterMap_cons_some h, List.filterMap_nil]

/-! ## Registers -/

/-- A part of the state that some inputs reset and others write is after a run what has been written
last since it was reset last. -/
theorem last_write_run {σ κ τ : Type*} {step : σ → κ → σ} (part : σ → τ)
    {resets writes : σ × κ → Bool} {value : σ × κ → τ} {initial : τ}
    (hstep : ∀ s i, part (step s i) =
      if resets (s, i) then initial else if writes (s, i) then value (s, i) else part s)
    {s : σ} (hs : part s = initial) (is : List κ) :
    part (run step s is) =
      (last writes (since resets (history step s is))).elim initial value := by
  induction is using List.reverseRecOn with
  | nil => exact hs
  | append_singleton is i ih =>
    rw [run_concat, hstep, history_concat]
    -- The last input resets the register, or writes it, or leaves what the run before it says.
    by_cases hreset : resets (run step s is, i) = true
    · rw [if_pos hreset, since_concat_of_pos hreset]
      rfl
    · rw [if_neg hreset, since_concat_of_neg (Bool.eq_false_iff.mpr hreset)]
      by_cases hwrite : writes (run step s is, i) = true
      · rw [if_pos hwrite, last_concat_of_pos hwrite]
        rfl
      · rw [if_neg hwrite, last_concat_of_neg (Bool.eq_false_iff.mpr hwrite)]
        exact ih

end Logs

end DeltaV
