import Mathlib.Data.List.Infix
import Mathlib.Data.List.Induction

/-!
# Runs of a state machine

A machine is a total function `step` that takes a state and an input to the next state; a run is
the fold of `step` over a list of inputs. An input list is one schedule, so a statement about every
run is a statement about every list. Three induction rules cover what is proved about runs: an
invariant holds throughout (`run_invariant`), a preorder that every step respects relates the ends
of a run (`run_rel`), and a property that every step either keeps or breaks as its guard says holds
throughout exactly when the guard holds along the run (`forall_prefix_iff_along`).
-/

namespace DeltaV

variable {σ ι : Type*}

/-- The state after the inputs, taken in order. -/
def run (step : σ → ι → σ) (s : σ) (is : List ι) : σ := is.foldl step s

/-- A run without steps ends where it begins. -/
@[simp] theorem run_nil (step : σ → ι → σ) (s : σ) : run step s [] = s := rfl

/-- The first step of a run comes before the others. -/
@[simp] theorem run_cons (step : σ → ι → σ) (s : σ) (i : ι) (is : List ι) :
    run step s (i :: is) = run step (step s i) is := rfl

/-- A run over two lists is the run over the second from the end of the first. -/
theorem run_append (step : σ → ι → σ) (s : σ) (is js : List ι) :
    run step s (is ++ js) = run step (run step s is) js := List.foldl_append

/-- The last input of a run is one step from the state before it. -/
theorem run_concat (step : σ → ι → σ) (s : σ) (is : List ι) (i : ι) :
    run step s (is ++ [i]) = step (run step s is) i := run_append step s is [i]

/-- The inputs of a run, each with the state in which it is taken. -/
def history (step : σ → ι → σ) (s : σ) : List ι → List (σ × ι)
  | [] => []
  | i :: is => (s, i) :: history step (step s i) is

/-- The last step of a run is the last entry of its history. -/
theorem history_concat (step : σ → ι → σ) (s : σ) (is : List ι) (i : ι) :
    history step s (is ++ [i]) = history step s is ++ [(run step s is, i)] := by
  induction is generalizing s with
  | nil => rfl
  | cons j is ih =>
    rw [List.cons_append, history, ih, history, List.cons_append, run_cons]

/-- What holds initially and is kept by every step holds after every run. -/
theorem run_invariant {step : σ → ι → σ} {Inv : σ → Prop}
    (hstep : ∀ s i, Inv s → Inv (step s i)) {s : σ} (hs : Inv s) (is : List ι) :
    Inv (run step s is) := by
  induction is generalizing s with
  | nil => exact hs
  | cons i is ih => exact ih (hstep s i hs)

/-- A reflexive and transitive relation that holds across every step holds across every run. -/
theorem run_rel {step : σ → ι → σ} {R : σ → σ → Prop} (hrefl : ∀ s, R s s)
    (htrans : ∀ {a b c}, R a b → R b c → R a c) (hstep : ∀ s i, R s (step s i)) (s : σ)
    (is : List ι) : R s (run step s is) := by
  induction is generalizing s with
  | nil => exact hrefl s
  | cons i is ih => exact htrans (hstep s i) (ih (step s i))

/-- A part of the state that no step changes is the same after every run. -/
theorem run_frame {τ : Type*} {step : σ → ι → σ} (part : σ → τ)
    (h : ∀ s i, part (step s i) = part s) (s : σ) (is : List ι) :
    part (run step s is) = part s := by
  induction is generalizing s with
  | nil => rfl
  | cons i is ih => exact (ih (step s i)).trans (h s i)

/-- A part of the state that only some inputs change, in a way of its own, is after a run what these
inputs make of it. -/
theorem run_project {τ κ : Type*} {step : σ → ι → σ} (part : σ → τ) {f : τ → κ → τ}
    {g : ι → Option κ} (h : ∀ s i, part (step s i) = (g i).elim (part s) (f (part s))) (s : σ)
    (is : List ι) : part (run step s is) = (is.filterMap g).foldl f (part s) := by
  induction is generalizing s with
  | nil => rfl
  | cons i is ih =>
    rw [run_cons, ih, h]
    cases hg : g i with
    | none => rw [List.filterMap_cons_none hg, Option.elim_none]
    | some k => rw [List.filterMap_cons_some hg, List.foldl_cons, Option.elim_some]

/-! ## Guarded runs -/

/-- The guard holds of every input in the state that receives it. -/
def Along (step : σ → ι → σ) (G : σ → ι → Prop) : σ → List ι → Prop
  | _, [] => True
  | s, i :: is => G s i ∧ Along step G (step s i) is

/-- A guard that only looks at the inputs. -/
theorem Along.of_forall_mem {step : σ → ι → σ} {P : ι → Prop} {s : σ} {is : List ι}
    (h : ∀ i ∈ is, P i) : Along step (fun _ i => P i) s is := by
  induction is generalizing s with
  | nil => trivial
  | cons i is ih =>
    exact ⟨h i List.mem_cons_self, ih fun j hj => h j (List.mem_cons_of_mem i hj)⟩

/-- What holds initially and is kept by every guarded step holds after every guarded run. -/
theorem run_invariant_along {step : σ → ι → σ} {G : σ → ι → Prop} {Inv : σ → Prop}
    (hstep : ∀ s i, Inv s → G s i → Inv (step s i)) {s : σ} (hs : Inv s) {is : List ι}
    (hG : Along step G s is) : Inv (run step s is) := by
  induction is generalizing s with
  | nil => exact hs
  | cons i is ih => exact ih (hstep s i hs hG.1) hG.2

/-- A guard that holds of all inputs holds of the last. -/
theorem along_concat (step : σ → ι → σ) (G : σ → ι → Prop) (s : σ) (is : List ι) (i : ι) :
    Along step G s (is ++ [i]) ↔ Along step G s is ∧ G (run step s is) i := by
  induction is generalizing s with
  | nil => simp [Along]
  | cons j is ih =>
    rw [List.cons_append, Along, ih, run_cons, Along, and_assoc]

/-- A guard holds along two lists when it holds along the first and, from its end, along the
second. -/
theorem along_append (step : σ → ι → σ) (G : σ → ι → Prop) (s : σ) (is js : List ι) :
    Along step G s (is ++ js) ↔ Along step G s is ∧ Along step G (run step s is) js := by
  induction is generalizing s with
  | nil => exact (and_iff_right trivial).symm
  | cons i is ih =>
    rw [List.cons_append, Along, ih, run_cons, Along, and_assoc]

/-- A guard holds along a run exactly when it holds of each input in the state that the inputs
before it lead to. -/
theorem along_iff_forall_step {step : σ → ι → σ} {G : σ → ι → Prop} {s : σ} {is : List ι} :
    Along step G s is ↔ ∀ pre i, pre ++ [i] <+: is → G (run step s pre) i := by
  induction is generalizing s with
  | nil => simp [Along]
  | cons j is ih =>
    constructor
    · rintro ⟨hg, htail⟩ pre i hpre
      cases pre with
      | nil =>
        obtain ⟨rfl, -⟩ := List.cons_prefix_cons.mp hpre
        exact hg
      | cons k pre =>
        obtain ⟨rfl, hpre'⟩ := List.cons_prefix_cons.mp hpre
        exact ih.mp htail pre i hpre'
    · intro h
      refine ⟨h [] j ⟨is, rfl⟩, ih.mpr fun pre i hpre => ?_⟩
      exact h (j :: pre) i (List.cons_prefix_cons.mpr ⟨rfl, hpre⟩)

/-- With an invariant that guarded steps keep, what the guard and the invariant imply holds along
every guarded run. -/
theorem Along.imp {step : σ → ι → σ} {G P : σ → ι → Prop} {Inv : σ → Prop}
    (hstep : ∀ s i, Inv s → G s i → Inv (step s i)) (himp : ∀ s i, Inv s → G s i → P s i) {s : σ}
    (hs : Inv s) {is : List ι} (hG : Along step G s is) : Along step P s is := by
  induction is generalizing s with
  | nil => trivial
  | cons i is ih => exact ⟨himp s i hs hG.1, ih (hstep s i hs hG.1) hG.2⟩

/-- What some inputs bring about and others end holds after a run exactly when an input has brought
it about and none has ended it since. -/
theorem holds_run_iff {step : σ → ι → σ} {Inv : σ → Prop} (Holds : σ → Prop)
    (adds removes : σ → ι → Prop) (hinv : ∀ s i, Inv s → Inv (step s i))
    (hstep : ∀ s i, Inv s → (Holds (step s i) ↔ adds s i ∨ Holds s ∧ ¬removes s i)) {s : σ}
    (hs : Inv s) (hnone : ¬Holds s) (is : List ι) :
    Holds (run step s is) ↔ ∃ pre i post, is = pre ++ i :: post ∧ adds (run step s pre) i ∧
      Along step (fun s i => ¬removes s i) (step (run step s pre) i) post := by
  induction is using List.reverseRecOn with
  | nil =>
    refine iff_of_false hnone ?_
    rintro ⟨pre, i, post, heq, -, -⟩
    exact List.append_ne_nil_of_right_ne_nil pre (List.cons_ne_nil i post) heq.symm
  | append_singleton is j ih =>
    rw [run_concat, hstep _ j (run_invariant hinv hs is), ih]
    constructor
    · rintro (hadds | ⟨⟨pre, i, post, rfl, hadds, halong⟩, hkeep⟩)
      · exact ⟨is, j, [], rfl, hadds, trivial⟩
      · rw [run_append, run_cons] at hkeep
        refine ⟨pre, i, post ++ [j], ?_, hadds, (along_concat ..).mpr ⟨halong, hkeep⟩⟩
        rw [List.append_assoc, List.cons_append]
    · rintro ⟨pre, i, post, heq, hadds, halong⟩
      -- The input that brings it about is the last one, or one before it.
      rcases post.eq_nil_or_concat with rfl | ⟨post, k, rfl⟩
      · obtain ⟨rfl, hlast⟩ := List.append_inj' heq rfl
        obtain rfl := List.singleton_inj.mp hlast
        exact Or.inl hadds
      · rw [List.concat_eq_append, ← List.cons_append, ← List.append_assoc] at heq
        obtain ⟨rfl, hlast⟩ := List.append_inj' heq rfl
        obtain rfl := List.singleton_inj.mp hlast
        rw [List.concat_eq_append, along_concat] at halong
        rw [run_append, run_cons]
        exact Or.inr ⟨⟨pre, i, post, rfl, hadds, halong.1⟩, halong.2⟩

/-- Suppose that guarded steps keep an invariant that makes a state good, and that from states with
the invariant only guarded steps lead to good states. Then all states of a run are good exactly when
the guard holds along it. -/
theorem forall_prefix_iff_along {step : σ → ι → σ} {G : σ → ι → Prop} {Inv Good : σ → Prop}
    (hinv : ∀ s i, Inv s → G s i → Inv (step s i)) (hgood : ∀ s, Inv s → Good s)
    (hexact : ∀ s i, Inv s → Good (step s i) → G s i) {s : σ} (hs : Inv s) (is : List ι) :
    (∀ pre, pre <+: is → Good (run step s pre)) ↔ Along step G s is := by
  -- The invariant carries the induction: a good state alone does not make the next step exact.
  induction is generalizing s with
  | nil => simpa [Along] using hgood s hs
  | cons i is ih =>
    constructor
    · -- The prefix of one input shows the guard of the first step.
      intro h
      have hg : G s i := hexact s i hs (h [i] ⟨is, rfl⟩)
      refine ⟨hg, (ih (hinv s i hs hg)).mp fun pre hpre => ?_⟩
      exact h (i :: pre) (List.prefix_cons_inj i |>.mpr hpre)
    · rintro ⟨hg, htail⟩ pre hpre
      cases pre with
      | nil => exact hgood s hs
      | cons j pre =>
        obtain ⟨rfl, hpre'⟩ := List.cons_prefix_cons.mp hpre
        exact (ih (hinv s j hs hg)).mpr htail pre hpre'

end DeltaV
