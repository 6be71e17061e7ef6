import Mathlib.Data.List.Basic
import Mathlib.Tactic.SplitIfs

/-!
# Consistent overhead byte stuffing

A message is cut into runs of nonzero bytes, and each run is written behind a byte that says where
the next one starts. A run ends at a zero byte, which is not written, or at `MAX_RUN` bytes, where
no zero byte is meant. `stuff run bytes` is what is written of a run that has begun and the bytes
behind it. The result holds no zero byte (`zero_notMem_stuff`), and a run takes one byte more, so
the message grows by one byte for every full run and one for the last (`length_stuff_le`).
-/

namespace DeltaV

namespace Stuffing

/-- The longest run. -/
def MAX_RUN : ℕ := 254

/-- A run behind the distance to the byte after it. -/
def block (run : List UInt8) : List UInt8 := UInt8.ofNat (run.length + 1) :: run

/-- The stuffed form of a run that has begun and of the bytes behind it. -/
def stuff : List UInt8 → List UInt8 → List UInt8
  | run, [] => block run
  | run, byte :: bytes =>
    if byte = 0 then block run ++ stuff [] bytes
    else if run.length + 1 = MAX_RUN then block (run ++ [byte]) ++ stuff [] bytes
    else stuff (run ++ [byte]) bytes

/-- A run that may grow: nonzero bytes, and not yet the most. -/
structure Open (run : List UInt8) : Prop where
  nonzero : 0 ∉ run
  short : run.length < MAX_RUN

namespace Open

variable {run : List UInt8} {byte : UInt8}

/-- A run without bytes may be continued. -/
theorem nil : Open [] := ⟨List.not_mem_nil, by decide⟩

/-- A nonzero byte leaves a run nonzero. -/
theorem zero_notMem_concat (h : Open run) (hbyte : byte ≠ 0) : 0 ∉ run ++ [byte] := by
  rw [List.mem_append, List.mem_singleton, not_or]
  exact ⟨h.nonzero, hbyte.symm⟩

/-- A run that is not full with one more byte may grow further. -/
theorem concat (h : Open run) (hbyte : byte ≠ 0) (hroom : run.length + 1 ≠ MAX_RUN) :
    Open (run ++ [byte]) := by
  have hshort := h.short
  refine ⟨h.zero_notMem_concat hbyte, ?_⟩
  rw [List.length_append, List.length_singleton]
  omega

end Open

/-- The distance of a run is not zero. -/
theorem distance_toNat {run : List UInt8} (h : run.length ≤ MAX_RUN) :
    (UInt8.ofNat (run.length + 1)).toNat = run.length + 1 := by
  have hmax : MAX_RUN = 254 := rfl
  rw [UInt8.toNat_ofNat']
  omega

/-- A block of nonzero bytes holds no zero. -/
theorem zero_notMem_block {run : List UInt8} (hnonzero : 0 ∉ run) (h : run.length ≤ MAX_RUN) :
    0 ∉ block run := by
  rw [block, List.mem_cons, not_or]
  refine ⟨fun heq => ?_, hnonzero⟩
  have hdistance := distance_toNat h
  rw [← heq] at hdistance
  cases hdistance

/-- Besides the run there is always a distance. -/
theorem lt_length_stuff (run bytes : List UInt8) : run.length < (stuff run bytes).length := by
  induction bytes generalizing run with
  | nil => exact Nat.lt_succ_self _
  | cons byte bytes ih =>
    have hrest := ih (run ++ [byte])
    rw [List.length_append, List.length_singleton] at hrest
    rw [stuff]
    split_ifs
    · rw [List.length_append, block, List.length_cons]
      omega
    · rw [List.length_append, block, List.length_cons, List.length_append, List.length_singleton]
      omega
    · exact Nat.lt_of_succ_lt hrest

/-- Nothing that is written is zero. -/
theorem zero_notMem_stuff {run : List UInt8} (h : Open run) (bytes : List UInt8) :
    0 ∉ stuff run bytes := by
  induction bytes generalizing run with
  | nil => exact zero_notMem_block h.nonzero (Nat.le_of_lt h.short)
  | cons byte bytes ih =>
    rw [stuff]
    split_ifs with hzero hfull
    · rw [List.mem_append, not_or]
      exact ⟨zero_notMem_block h.nonzero (Nat.le_of_lt h.short), ih Open.nil⟩
    · rw [List.mem_append, not_or]
      refine ⟨zero_notMem_block (h.zero_notMem_concat hzero) ?_, ih Open.nil⟩
      rw [List.length_append, List.length_singleton]
      exact Nat.le_of_eq hfull
    · exact ih (h.concat hzero hfull)

/-- Every byte takes one byte, every full run one more, and the last run one more. -/
theorem length_stuff_le {run : List UInt8} (h : Open run) (bytes : List UInt8) :
    (stuff run bytes).length ≤
      run.length + bytes.length + (run.length + bytes.length) / MAX_RUN + 1 := by
  induction bytes generalizing run with
  | nil =>
    rw [stuff, block, List.length_cons, List.length_nil]
    exact Nat.add_le_add_right (Nat.le_add_right _ _) 1
  | cons byte bytes ih =>
    have hnext := ih Open.nil
    have hmax : MAX_RUN = 254 := rfl
    rw [List.length_nil, hmax] at hnext
    rw [stuff, List.length_cons, hmax]
    split_ifs with hzero hfull
    · rw [List.length_append, block, List.length_cons]
      omega
    · -- A full run pays for its distance.
      rw [List.length_append, block, List.length_cons, List.length_append, List.length_singleton]
      omega
    · have hrest := ih (h.concat hzero hfull)
      rw [List.length_append, List.length_singleton, hmax] at hrest
      omega

/-! ## Blocks -/

/-- The bytes are complete blocks with the given runs. -/
structure Blocks (runs : List (List UInt8)) (bytes : List UInt8) : Prop where
  bytes_eq : bytes = runs.flatMap block
  short : ∀ run ∈ runs, run.length ≤ MAX_RUN

/-- What runs stand for: a zero byte is meant behind every run but the full ones and the last. -/
def unstuff : List (List UInt8) → List UInt8
  | [] => []
  | run :: runs =>
    run ++ (if run.length < MAX_RUN ∧ runs ≠ [] then [0] else []) ++ unstuff runs

/-- No runs are no bytes. -/
theorem Blocks.nil : Blocks [] [] := ⟨rfl, List.forall_mem_nil _⟩

/-- One more run is one more block in front. -/
theorem Blocks.cons {run bytes : List UInt8} {runs : List (List UInt8)}
    (hrun : run.length ≤ MAX_RUN) (h : Blocks runs bytes) :
    Blocks (run :: runs) (block run ++ bytes) :=
  ⟨by rw [List.flatMap_cons, h.bytes_eq], List.forall_mem_cons.mpr ⟨hrun, h.short⟩⟩

/-- Behind the first block there is nothing exactly when there are no further runs. -/
theorem Blocks.eq_nil_iff {bytes : List UInt8} {runs : List (List UInt8)} (h : Blocks runs bytes) :
    bytes = [] ↔ runs = [] := by
  rw [h.bytes_eq]
  cases runs with
  | nil => exact iff_of_true rfl rfl
  | cons run runs => exact iff_of_false (by simp [block]) (by simp)

end Stuffing

end DeltaV
