import DeltaV.TmrStore
import DeltaV.Lib.Runs
import Mathlib.Data.Fin.Basic

/-!
# Upsets that a store masks

A memory upset replaces the bytes of one copy. The copies are compared byte by byte, so a value of
`T` stands for the object representation of a copy and an upset may leave any value in it. What
carries a run is `Masks`: outside the copy that has been hit since the last repair, all copies hold
the value last written. Every repair restores the hit copy, because two intact copies outvote it.
-/

namespace DeltaV.TmrStore

variable {T : Type*}

/-- What happens to a store. -/
inductive Op (T : Type*) where
  | write (v : T)
  | read
  | scrub
  /-- The bytes of one copy change. -/
  | upset (copy : Fin 3) (v : T)
deriving DecidableEq, Repr

/-- Whether all copies are rewritten or compared: everything but an upset. -/
def Op.repairs : Op T → Bool
  | .upset _ _ => false
  | _ => true

/-- The copy of an index. -/
def copy (s : TmrStore T) : Fin 3 → T
  | 0 => s.copy0
  | 1 => s.copy1
  | 2 => s.copy2

/-- An upset of one copy. -/
def upset (s : TmrStore T) (i : Fin 3) (v : T) : TmrStore T :=
  match i with
  | 0 => { s with copy0 := v }
  | 1 => { s with copy1 := v }
  | 2 => { s with copy2 := v }

/-- The value of the last write, or the initial one. -/
def lastWritten (initial : T) (ops : List (Op T)) : T :=
  ops.foldl (fun v op => match op with
    | .write w => w
    | _ => v) initial

/-- Between two consecutive repairs all upsets hit one copy. The first argument is the copy that has
been hit since the last repair. -/
def OneCopy : Option (Fin 3) → List (Op T) → Prop
  | _, [] => True
  | d, .upset i _ :: ops => (d = none ∨ d = some i) ∧ OneCopy (some i) ops
  | _, .write _ :: ops => OneCopy none ops
  | _, .read :: ops => OneCopy none ops
  | _, .scrub :: ops => OneCopy none ops

/-- Without upsets no stretch hits two copies. -/
theorem oneCopy_of_repairs {ops : List (Op T)} (h : ∀ op ∈ ops, op.repairs = true)
    (d : Option (Fin 3)) : OneCopy d ops := by
  induction ops generalizing d with
  | nil => trivial
  | cons op ops ih =>
    obtain ⟨hop, hops⟩ := List.forall_mem_cons.mp h
    cases op with
    | write w => exact ih hops none
    | read => exact ih hops none
    | scrub => exact ih hops none
    | upset i w => cases hop

/-- Scrubs write nothing. -/
theorem lastWritten_of_scrubs (initial : T) {ops : List (Op T)} (h : ∀ op ∈ ops, op = Op.scrub) :
    lastWritten initial ops = initial := by
  rw [List.eq_replicate_of_mem h]
  induction ops.length with
  | zero => rfl
  | succ n ih => exact ih

/-- The copies that have not been hit since the last repair hold `v`. -/
def Masks (d : Option (Fin 3)) (v : T) (s : TmrStore T) : Prop := ∀ i, d ≠ some i → s.copy i = v

/-- The value last written by two lists, one after the other. -/
theorem lastWritten_append (initial : T) (ops ops' : List (Op T)) :
    lastWritten initial (ops ++ ops') = lastWritten (lastWritten initial ops) ops' :=
  List.foldl_append

/-- All copies of a filled store are the value. -/
@[simp] theorem copy_fill (s : TmrStore T) (v : T) (i : Fin 3) : (s.fill v).copy i = v := by
  match i with
  | 0 => rfl
  | 1 => rfl
  | 2 => rfl

/-- All copies of a new store are the value. -/
@[simp] theorem copy_create (v : T) (registered : Bool) (i : Fin 3) :
    (create v registered).copy i = v := by
  match i with
  | 0 => rfl
  | 1 => rfl
  | 2 => rfl

/-- An upset leaves the other copies alone. -/
theorem copy_upset_of_ne (s : TmrStore T) {i j : Fin 3} (v : T) (h : i ≠ j) :
    (s.upset i v).copy j = s.copy j := by
  match i, j with
  | 0, 1 => rfl
  | 0, 2 => rfl
  | 1, 0 => rfl
  | 1, 2 => rfl
  | 2, 0 => rfl
  | 2, 1 => rfl
  | 0, 0 => exact absurd rfl h
  | 1, 1 => exact absurd rfl h
  | 2, 2 => exact absurd rfl h

/-- An upset of the copy already hit keeps the others intact. -/
theorem Masks.upset {s : TmrStore T} {d : Option (Fin 3)} {v : T} (h : Masks d v s) {i : Fin 3}
    (hd : d = none ∨ d = some i) (w : T) : Masks (some i) v (s.upset i w) := by
  intro j hj
  have hij : i ≠ j := fun hij => hj (congrArg some hij)
  rw [copy_upset_of_ne s w hij]
  apply h
  rcases hd with rfl | rfl
  · exact Option.some_ne_none j |>.symm
  · exact hj

section Vote

variable [DecidableEq T] {s : TmrStore T} {d : Option (Fin 3)} {v : T}

/-- Two intact copies outvote the third. -/
theorem Masks.vote (h : Masks d v s) : s.vote = v := by
  -- For each choice of the hit copy, the other two equal `v`.
  obtain hd | hd | hd : d ≠ some 0 ∧ d ≠ some 1 ∨ d ≠ some 1 ∧ d ≠ some 2 ∨
      d ≠ some 0 ∧ d ≠ some 2 := by
    match d with
    | none => exact .inl ⟨by decide, by decide⟩
    | some 0 => exact .inr (.inl ⟨by decide, by decide⟩)
    | some 1 => exact .inr (.inr ⟨by decide, by decide⟩)
    | some 2 => exact .inl ⟨by decide, by decide⟩
  · have h0 : s.copy0 = v := h 0 hd.1
    have h1 : s.copy1 = v := h 1 hd.2
    unfold TmrStore.vote
    rw [h0, h1, if_pos rfl]
  · have h1 : s.copy1 = v := h 1 hd.1
    have h2 : s.copy2 = v := h 2 hd.2
    unfold TmrStore.vote
    rw [h1, h2, if_pos rfl]
    split_ifs with h01
    · exact h01
    · rfl
  · have h0 : s.copy0 = v := h 0 hd.1
    have h2 : s.copy2 = v := h 2 hd.2
    unfold TmrStore.vote
    rw [h0, h2, if_pos rfl]
    split_ifs with h01 h12
    · rfl
    · exact h12
    · rfl

/-- A sane store agrees with its vote. -/
theorem copy_of_isSane (hs : s.isSane = true) (i : Fin 3) : s.copy i = s.vote := by
  obtain ⟨h01, h12⟩ : s.copy0 = s.copy1 ∧ s.copy1 = s.copy2 := of_decide_eq_true hs
  have hv : s.vote = s.copy0 := if_pos h01
  rw [hv]
  match i with
  | 0 => rfl
  | 1 => exact h01.symm
  | 2 => exact (h01.trans h12).symm

/-- After a scrub all copies are the vote. -/
theorem copy_scrub (s : TmrStore T) (i : Fin 3) : s.scrub.copy i = s.vote := by
  unfold scrub
  split_ifs with hs
  · exact copy_of_isSane hs i
  · exact copy_fill s s.vote i

/-- With three different copies the vote falls back to the first. -/
theorem vote_of_all_differ (h01 : s.copy0 ≠ s.copy1) (h12 : s.copy1 ≠ s.copy2)
    (h02 : s.copy0 ≠ s.copy2) : s.vote = s.copy0 := by
  unfold TmrStore.vote
  rw [if_neg h01, if_neg h12, if_neg h02]

/-- The store after one event. -/
def apply (s : TmrStore T) : Op T → TmrStore T
  | .write v => s.fill v
  | .read => s.read.2
  | .scrub => s.scrub
  | .upset i v => s.upset i v

/-- A repair leaves all copies with the value last written. -/
theorem Masks.copy_apply (h : Masks d v s) {op : Op T} (hop : op.repairs = true) (i : Fin 3) :
    (s.apply op).copy i = lastWritten v [op] := by
  cases op with
  | write w => exact copy_fill s w i
  | read => exact (copy_fill s s.vote i).trans h.vote
  | scrub => exact (copy_scrub s i).trans h.vote
  | upset j w => cases hop

/-- In a run in which each stretch of upsets hits one copy, the copies not hit since the last repair
hold the value last written, after every prefix. -/
theorem Masks.run {pre ops : List (Op T)} (hpre : pre <+: ops) (h : Masks d v s)
    (hops : OneCopy d ops) : ∃ d', Masks d' (lastWritten v pre) (DeltaV.run apply s pre) := by
  induction pre generalizing ops s d v with
  | nil => exact ⟨d, h⟩
  | cons op pre ih =>
    obtain ⟨tail, rfl⟩ := hpre
    have htail : pre <+: pre ++ tail := List.prefix_append pre tail
    cases op with
    | write w =>
      exact ih htail (fun i _ => copy_fill s w i) hops
    | read =>
      have hread : Masks none v s.read.2 := fun i _ => (copy_fill s s.vote i).trans h.vote
      exact ih htail hread hops
    | scrub =>
      have hscrub : Masks none v s.scrub := fun i _ => (copy_scrub s i).trans h.vote
      exact ih htail hscrub hops
    | upset i w => exact ih htail (h.upset hops.1 w) hops.2

end Vote

/-- A store masks all upsets that hit at most one copy between two repairs: every read returns the
value last written, every repair leaves all copies with it, and a read of three different copies
returns the first. -/
theorem masks_upsets [DecidableEq T] (initial : T) (registered : Bool) (ops : List (Op T))
    (hops : OneCopy none ops) :
    (∀ pre, pre ++ [.read] <+: ops →
        (run apply (create initial registered) pre).read.1 = lastWritten initial pre) ∧
      (∀ pre op, pre ++ [op] <+: ops → op.repairs = true → ∀ i,
        (run apply (create initial registered) (pre ++ [op])).copy i =
          lastWritten initial (pre ++ [op])) ∧
      ∀ s : TmrStore T, s.copy0 ≠ s.copy1 → s.copy1 ≠ s.copy2 → s.copy0 ≠ s.copy2 →
        s.read.1 = s.copy0 := by
  have hinit : Masks none initial (create initial registered) := fun i _ =>
    copy_create initial registered i
  refine ⟨fun pre hpre => ?_, fun pre op hpre hop i => ?_, fun s h01 h12 h02 => ?_⟩
  · obtain ⟨d, hd⟩ := hinit.run ((List.prefix_append pre [.read]).trans hpre) hops
    exact hd.vote
  · obtain ⟨d, hd⟩ := hinit.run ((List.prefix_append pre [op]).trans hpre) hops
    rw [run_concat, lastWritten_append]
    exact hd.copy_apply hop i
  · exact vote_of_all_differ h01 h12 h02

/-- Two upsets of the second copy, a read, an upset of the third and a scrub. -/
theorem masks_upsets_two_stretches :
    OneCopy none [Op.write 5, .upset 1 7, .upset 1 9, .read, .upset 2 0, .scrub] ∧
      (run apply (create 3 false) [Op.write 5, .upset 1 7, .upset 1 9]).read.1 = 5 := by
  have hops : OneCopy none [Op.write 5, .upset 1 7, .upset 1 9, .read, .upset 2 0, .scrub] :=
    ⟨.inl rfl, .inr rfl, .inl rfl, trivial⟩
  exact ⟨hops, (masks_upsets 3 false _ hops).1 [.write 5, .upset 1 7, .upset 1 9]
    ⟨[.upset 2 0, .scrub], rfl⟩⟩

end DeltaV.TmrStore
