import DeltaV.Lib.Runs
import Mathlib.Data.List.Sublists
import Mathlib.Logic.Function.Basic

/-!
# Files in numbered chunks

A store collects a file in numbered chunks. A session is opened for a number of chunks; then an
index is selected, the elements of a chunk are pushed one by one, and a commit stores what has been
pushed under the index. Any of these operations can get lost on the way. If every chunk is sent once
and in order, a lost selection or commit leaves a chunk missing for ever, so when no chunk is
missing only pushed elements have been lost, and each stored chunk is a subsequence of the one that
was sent (`stored_sublist`).
-/

namespace DeltaV

/-- What a sender asks of the store. -/
inductive ChunkOp (α : Type*) where
  /-- Open a session for a number of chunks; for none, end it. -/
  | start (n : ℕ)
  | select (i : ℕ)
  | push (a : α)
  | commit
deriving DecidableEq, Repr

/-- A store of chunks. -/
structure ChunkStore (α : Type*) where
  /-- The number of chunks of the session. -/
  expected : ℕ
  index : ℕ
  /-- What has been pushed since the last commit. -/
  staged : List α
  stored : ℕ → Option (List α)

namespace ChunkStore

variable {α : Type*}

/-- A store without a session. -/
def idle : ChunkStore α := ⟨0, 0, [], fun _ => none⟩

/-- The next state of a store that stages no more than the given number of elements. -/
def step (cap : ℕ) (s : ChunkStore α) : ChunkOp α → ChunkStore α
  | ChunkOp.start n => ⟨n, 0, [], fun _ => none⟩
  | ChunkOp.select i => { s with index := i }
  | ChunkOp.push a =>
    if s.expected ≠ 0 ∧ s.staged.length < cap then { s with staged := s.staged ++ [a] } else s
  | ChunkOp.commit =>
    if s.index < s.expected then
      { s with staged := [], stored := Function.update s.stored s.index (some s.staged) }
    else s

/-- There is a session, and no chunk of it is missing. -/
def Complete (s : ChunkStore α) : Prop := s.expected ≠ 0 ∧ ∀ i < s.expected, s.stored i ≠ none

/-- The operations that send a chunk. -/
def sendChunk (i : ℕ) (chunk : List α) : List (ChunkOp α) :=
  ChunkOp.select i :: (chunk.map ChunkOp.push ++ [ChunkOp.commit])

/-- The operations that send the first `n` chunks, in order. -/
def sendChunks (chunks : ℕ → List α) (n : ℕ) : List (ChunkOp α) :=
  (List.range n).flatMap fun i => sendChunk i (chunks i)

/-- The first `n + 1` chunks are the first `n` and one more. -/
theorem sendChunks_succ (chunks : ℕ → List α) (n : ℕ) :
    sendChunks chunks (n + 1) = sendChunks chunks n ++ sendChunk n (chunks n) := by
  unfold sendChunks
  rw [List.range_succ, List.flatMap_append, List.flatMap_singleton]

/-- Pushing adds some of the pushed elements to the staged ones. -/
theorem run_push (cap : ℕ) (s : ChunkStore α) (as : List α) :
    ∃ added, added.Sublist as ∧
      run (step cap) s (as.map ChunkOp.push) = { s with staged := s.staged ++ added } := by
  induction as generalizing s with
  | nil => exact ⟨[], List.Sublist.refl _, by rw [List.append_nil]; rfl⟩
  | cons a as ih =>
    rw [List.map_cons, run_cons]
    simp only [step]
    split_ifs with hroom
    · obtain ⟨added, hadded, hrun⟩ := ih { s with staged := s.staged ++ [a] }
      refine ⟨a :: added, hadded.cons_cons a, hrun.trans ?_⟩
      show ({ s with staged := s.staged ++ [a] ++ added } : ChunkStore α) = _
      rw [List.append_assoc, List.singleton_append]
    · obtain ⟨added, hadded, hrun⟩ := ih s
      exact ⟨added, hadded.cons a, hrun⟩

/-- What arrives of a chunk: the index may be selected, some elements are pushed, and there may be a
commit. -/
theorem run_of_sublist_sendChunk (cap : ℕ) (s : ChunkStore α) {k : ℕ} {chunk : List α}
    {ops : List (ChunkOp α)} (h : ops.Sublist (sendChunk k chunk)) :
    ∃ index added, (index = s.index ∨ index = k) ∧ added.Sublist chunk ∧
      let pushed := { s with index := index, staged := s.staged ++ added }
      run (step cap) s ops = pushed ∨ run (step cap) s ops = pushed.step cap ChunkOp.commit := by
  have hrest {s : ChunkStore α} {ops : List (ChunkOp α)}
      (h : ops.Sublist (chunk.map ChunkOp.push ++ [ChunkOp.commit])) :
      ∃ added, added.Sublist chunk ∧
        let pushed := { s with staged := s.staged ++ added }
        run (step cap) s ops = pushed ∨
          run (step cap) s ops = pushed.step cap ChunkOp.commit := by
    obtain ⟨pushes, commits, rfl, hpushes, hcommits⟩ := List.sublist_append_iff.mp h
    obtain ⟨as, has, rfl⟩ := List.sublist_map_iff.mp hpushes
    obtain ⟨added, hadded, hrun⟩ := s.run_push cap as
    refine ⟨added, hadded.trans has, ?_⟩
    rw [run_append, hrun]
    rcases List.sublist_singleton.mp hcommits with rfl | rfl
    · exact Or.inl rfl
    · exact Or.inr rfl
  rcases List.sublist_cons_iff.mp h with hlost | ⟨rest, rfl, hselected⟩
  · obtain ⟨added, hadded, hrun⟩ := hrest (s := s) hlost
    exact ⟨s.index, added, Or.inl rfl, hadded, hrun⟩
  · obtain ⟨added, hadded, hrun⟩ := hrest (s := { s with index := k }) hselected
    exact ⟨k, added, Or.inr rfl, hadded, hrun⟩

/-- What holds after some of the operations that send the first `k` of `n` chunks: either these
chunks are stored, up to lost elements, or one of them is missing. -/
structure Sent (chunks : ℕ → List α) (n k : ℕ) (s : ChunkStore α) : Prop where
  expected_eq : s.expected = n
  index_le : s.index ≤ k
  unsent : ∀ i, k ≤ i → s.stored i = none
  stored_or_missing :
    (s.staged = [] ∧ ∀ i < k, ∃ data, s.stored i = some data ∧ data.Sublist (chunks i)) ∨
      ∃ i < k, s.stored i = none

/-- A missing chunk stays missing while the next one is sent. -/
theorem Sent.step {chunks : ℕ → List α} {n k : ℕ} {s : ChunkStore α} (h : s.Sent chunks n k)
    (hk : k < n) (cap : ℕ) {ops : List (ChunkOp α)} (hops : ops.Sublist (sendChunk k (chunks k))) :
    (run (step cap) s ops).Sent chunks n (k + 1) := by
  obtain ⟨index, added, hindex, hadded, hrun⟩ := s.run_of_sublist_sendChunk cap hops
  have hle : index ≤ k := by
    rcases hindex with rfl | rfl
    · exact h.index_le
    · exact le_rfl
  rcases hrun with hrun | hrun
  · -- Without a commit the chunk is missing.
    rw [hrun]
    exact ⟨h.expected_eq, hle.trans (Nat.le_succ k), fun i hi => h.unsent i (Nat.le_of_succ_le hi),
      Or.inr ⟨k, Nat.lt_succ_self k, h.unsent k le_rfl⟩⟩
  · have hlt : index < s.expected := h.expected_eq ▸ hle.trans_lt hk
    have hcommit : run (ChunkStore.step cap) s ops =
        { s with index := index, staged := [],
                 stored := Function.update s.stored index (some (s.staged ++ added)) } := by
      rw [hrun]
      exact if_pos hlt
    rw [hcommit]
    refine ⟨h.expected_eq, hle.trans (Nat.le_succ k), fun i hi => ?_, ?_⟩
    · show Function.update s.stored index _ i = none
      rw [Function.update_of_ne (hle.trans_lt hi).ne']
      exact h.unsent i (Nat.le_of_succ_le hi)
    -- The chunk that is sent is stored under its own index or under an earlier one.
    rcases eq_or_ne index k with rfl | hne
    · rcases h.stored_or_missing with ⟨hstaged, hstored⟩ | ⟨i, hi, hmissing⟩
      · refine Or.inl ⟨rfl, fun i hi => ?_⟩
        show ∃ data, Function.update s.stored index (some (s.staged ++ added)) i = some data ∧ _
        rcases Nat.lt_succ_iff_lt_or_eq.mp hi with hbefore | rfl
        · rw [Function.update_of_ne hbefore.ne]
          exact hstored i hbefore
        · rw [Function.update_self, hstaged]
          exact ⟨added, rfl, hadded⟩
      · refine Or.inr ⟨i, hi.trans (Nat.lt_succ_self index), ?_⟩
        show Function.update s.stored index _ i = none
        rw [Function.update_of_ne hi.ne]
        exact hmissing
    · -- Its own index has not been selected, and stays missing.
      refine Or.inr ⟨k, Nat.lt_succ_self k, ?_⟩
      show Function.update s.stored index _ k = none
      rw [Function.update_of_ne hne.symm]
      exact h.unsent k le_rfl

/-- What holds after the operations for all of the first chunks, whatever of them gets lost. -/
theorem sent_run {chunks : ℕ → List α} {n k : ℕ} {s : ChunkStore α} (h : s.Sent chunks n 0)
    (hk : k ≤ n) (cap : ℕ) {ops : List (ChunkOp α)} (hops : ops.Sublist (sendChunks chunks k)) :
    (run (step cap) s ops).Sent chunks n k := by
  induction k generalizing ops with
  | zero =>
    rw [List.sublist_nil.mp hops]
    exact h
  | succ k ih =>
    rw [sendChunks_succ] at hops
    obtain ⟨before, last, rfl, hbefore, hlast⟩ := List.sublist_append_iff.mp hops
    rw [run_append]
    exact (ih (Nat.le_of_succ_le hk) hbefore).step hk cap hlast

/-- Without a start the number of chunks stays. -/
theorem expected_run (cap : ℕ) (s : ChunkStore α) {ops : List (ChunkOp α)}
    (hops : ∀ n, ChunkOp.start n ∉ ops) : (run (step cap) s ops).expected = s.expected := by
  induction ops generalizing s with
  | nil => rfl
  | cons op ops ih =>
    rw [run_cons, ih _ fun n hmem => hops n (List.mem_cons_of_mem op hmem)]
    cases op with
    | start n => exact absurd List.mem_cons_self (hops n)
    | select => rfl
    | push | commit =>
      simp only [step]
      split_ifs <;> rfl

/-- Chunks are sent without a start. -/
theorem start_notMem_sendChunks (chunks : ℕ → List α) (n m : ℕ) :
    ChunkOp.start m ∉ sendChunks chunks n := by
  simp [sendChunks, sendChunk]

/-- Of a start and `n` chunks, sent once and in order, any operations may be lost: when no chunk is
missing, each is stored up to lost elements. -/
theorem stored_sublist (cap : ℕ) {chunks : ℕ → List α} {n : ℕ} {ops : List (ChunkOp α)}
    (hops : ops.Sublist (ChunkOp.start n :: sendChunks chunks n))
    (hcomplete : (run (step cap) idle ops).Complete) :
    ∀ i < n, ∃ data, (run (step cap) idle ops).stored i = some data ∧ data.Sublist (chunks i) := by
  rcases List.sublist_cons_iff.mp hops with hlost | ⟨rest, rfl, hrest⟩
  · -- Without the start there is no session.
    have hnone (m : ℕ) (hmem : ChunkOp.start m ∈ ops) : False :=
      start_notMem_sendChunks chunks n m (hlost.subset hmem)
    exact absurd (expected_run cap idle hnone) hcomplete.1
  · have hstart : Sent chunks n 0 (step cap idle (ChunkOp.start n)) :=
      ⟨rfl, le_rfl, fun _ _ => rfl, Or.inl ⟨rfl, fun i hi => absurd hi (Nat.not_lt_zero i)⟩⟩
    have h := sent_run hstart le_rfl cap hrest
    rw [run_cons] at hcomplete ⊢
    rcases h.stored_or_missing with hstored | ⟨i, hi, hmissing⟩
    · exact hstored.2
    · exact absurd hmissing (hcomplete.2 i (h.expected_eq.symm ▸ hi))

end ChunkStore

end DeltaV
