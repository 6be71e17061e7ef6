import DeltaV.Tmr.Masking
import DeltaV.Lib.FirstWins
import DeltaV.Watchdog.Model

/-!
# The scrub registry

The registry holds the stores that the watchdog scrubs. `TmrSystem` places it among all stores of a
program, which a pointer of `P` names, and the cycle counter of the watchdog. What happens to one
store in a run is its history (`TmrSystem.history`), in which every scrub cycle of the watchdog
counts as a repair. A store that is registered follows its history, so it masks what any store masks
(`follows_history`). A store that is not registered stays as it is when the watchdog scrubs, so a
single upset outlives every scrub cycle (`repaired_iff`).
-/

namespace DeltaV

/-- The most entries of the registry. -/
def MAX_TMR_ENTRIES : ℕ := 64

/-- The registry: the name given for each store. -/
structure TmrRegistry (P : Type) where
  entries : FirstWins P Text MAX_TMR_ENTRIES

namespace TmrRegistry

variable {P : Type} [DecidableEq P]

/-- A registry without entries. -/
def create (P : Type) : TmrRegistry P := ⟨FirstWins.empty _ _ _⟩

/-- Registers a store, unless an argument is null, the store is registered, or the registry is
full. -/
def registerParam (r : TmrRegistry P) (name : Option Text) (store_ptr : Option P)
    (scrub_func : Bool) : TmrRegistry P :=
  match name, store_ptr, scrub_func with
  | some name, some p, true =>
    if hold : p ∈ r.entries.keys then r
    else if hroom : r.entries.entries.length < MAX_TMR_ENTRIES then
      ⟨r.entries.push p name hold hroom⟩
    else r
  | _, _, _ => r

/-- A registration without null arguments inserts the store. -/
theorem registerParam_some (r : TmrRegistry P) (name : Text) (p : P) :
    (r.registerParam (some name) (some p) true).entries = r.entries.insert (p, name) := by
  unfold registerParam FirstWins.insert
  by_cases hold : p ∈ r.entries.keys
  · simp [hold]
  · by_cases hroom : r.entries.entries.length < MAX_TMR_ENTRIES
    · simp [hold, hroom]
    · simp [hold, hroom]

end TmrRegistry

/-- All stores of a program, the registry, and the cycle counter of the watchdog. -/
structure TmrSystem (P T : Type) where
  stores : P → TmrStore T
  registry : TmrRegistry P
  cycles : UInt32

/-- What happens to the stores of a running program. -/
inductive TmrEvent (P T : Type) where
  /-- A component writes or reads a store, or a copy of it changes. -/
  | store (p : P) (op : TmrStore.Op T)
  /-- The watchdog steps. -/
  | watchdogStep

namespace TmrSystem

variable {P T : Type} [DecidableEq P] [DecidableEq T]

/-- `registerWithFdir` of a store. -/
def registerWithFdir (s : TmrSystem P T) (p : P) (param_name : Text) : TmrSystem P T :=
  { s with
    registry := s.registry.registerParam (some param_name) (some p) true
    stores := Function.update s.stores p { s.stores p with registered_with_registry := true } }

/-- `registerStore` of the registry. -/
def registerStore (s : TmrSystem P T) (store : Option P) : TmrSystem P T :=
  match store with
  | some p => s.registerWithFdir p (ascii "tmr_store")
  | none => s

omit [DecidableEq T] in
/-- A registration changes no copy. -/
theorem copy_registerWithFdir (s : TmrSystem P T) (p q : P) (param_name : Text) (i : Fin 3) :
    ((s.registerWithFdir p param_name).stores q).copy i = (s.stores q).copy i := by
  change (Function.update s.stores p _ q).copy i = _
  rcases eq_or_ne q p with rfl | hne
  · rw [Function.update_self]
    match i with
    | 0 => rfl
    | 1 => rfl
    | 2 => rfl
  · rw [Function.update_of_ne hne]

/-- Scrubs the stores of the registry, entry by entry. -/
def scrubAll (s : TmrSystem P T) : TmrSystem P T :=
  { s with
    stores := s.registry.entries.entries.foldl
      (fun stores entry => Function.update stores entry.1 (stores entry.1).scrub) s.stores }

/-- The part of the watchdog's step that concerns the stores. -/
def watchdogStep (s : TmrSystem P T) : TmrSystem P T :=
  let s := { s with cycles := s.cycles + 1 }
  if s.cycles % PARAM_CHECK_INTERVAL_CYCLES = 0 then s.scrubAll else s

/-- The next state. -/
def step (s : TmrSystem P T) : TmrEvent P T → TmrSystem P T
  | TmrEvent.store p op => { s with stores := Function.update s.stores p ((s.stores p).apply op) }
  | TmrEvent.watchdogStep => s.watchdogStep

/-- The watchdog's next step scrubs. -/
def ScrubsNext (s : TmrSystem P T) : Prop := (s.cycles + 1) % PARAM_CHECK_INTERVAL_CYCLES = 0

instance (s : TmrSystem P T) : Decidable s.ScrubsNext :=
  inferInstanceAs (Decidable (_ = _))

/-- What an event is to one store; a scrub cycle is a scrub. -/
def seenBy (p : P) (s : TmrSystem P T) : TmrEvent P T → List (TmrStore.Op T)
  | TmrEvent.store q op => if q = p then [op] else []
  | TmrEvent.watchdogStep => if s.ScrubsNext then [TmrStore.Op.scrub] else []

/-- The history of one store in a run. -/
def history (p : P) : TmrSystem P T → List (TmrEvent P T) → List (TmrStore.Op T)
  | _, [] => []
  | s, e :: es => seenBy p s e ++ history p (s.step e) es

omit [DecidableEq T] in
/-- Scrubbing different stores one after the other scrubs each once. -/
theorem foldl_scrub {entries : List (P × Text)} (hnodup : (entries.map Prod.fst).Nodup)
    (scrub : TmrStore T → TmrStore T) (stores : P → TmrStore T) (p : P) :
    entries.foldl (fun stores entry => Function.update stores entry.1 (scrub (stores entry.1)))
        stores p =
      if p ∈ entries.map Prod.fst then scrub (stores p) else stores p := by
  induction entries generalizing stores with
  | nil => rfl
  | cons entry entries ih =>
    obtain ⟨hnew, hnodup⟩ := List.nodup_cons.mp hnodup
    rw [List.foldl_cons, ih hnodup, List.map_cons]
    rcases eq_or_ne p entry.1 with rfl | hne
    · rw [if_neg hnew, if_pos List.mem_cons_self, Function.update_self]
    · rw [Function.update_of_ne hne]
      exact if_congr (List.mem_cons.trans (or_iff_right hne)).symm rfl rfl

/-- A scrub of all entries scrubs exactly the registered stores. -/
theorem scrubAll_stores (s : TmrSystem P T) (p : P) :
    s.scrubAll.stores p =
      if p ∈ s.registry.entries.keys then (s.stores p).scrub else s.stores p :=
  foldl_scrub s.registry.entries.nodup _ _ _

/-- No event changes the registry. -/
@[simp] theorem registry_step (s : TmrSystem P T) (e : TmrEvent P T) :
    (s.step e).registry = s.registry := by
  cases e with
  | store p op => rfl
  | watchdogStep =>
    simp only [step, watchdogStep]
    split_ifs <;> rfl

/-- No run changes the registry. -/
@[simp] theorem registry_run (s : TmrSystem P T) (es : List (TmrEvent P T)) :
    (run step s es).registry = s.registry := run_frame TmrSystem.registry registry_step s es

/-- An event does to a registered store what the store sees of it. -/
theorem stores_step (s : TmrSystem P T) {p : P} (hp : p ∈ s.registry.entries.keys)
    (e : TmrEvent P T) :
    (s.step e).stores p = run TmrStore.apply (s.stores p) (seenBy p s e) := by
  cases e with
  | store q op =>
    rcases eq_or_ne q p with rfl | hne
    · simp [step, seenBy]
    · simp [step, seenBy, hne, hne.symm]
  | watchdogStep =>
    by_cases hscrub : s.ScrubsNext
    · have hseen : seenBy p s TmrEvent.watchdogStep = [TmrStore.Op.scrub] := if_pos hscrub
      have hstep : s.step TmrEvent.watchdogStep = { s with cycles := s.cycles + 1 }.scrubAll :=
        if_pos hscrub
      rw [hseen, hstep, scrubAll_stores, if_pos hp]
      rfl
    · have hseen : seenBy p s TmrEvent.watchdogStep = [] := if_neg hscrub
      have hstep : s.step TmrEvent.watchdogStep = { s with cycles := s.cycles + 1 } :=
        if_neg hscrub
      rw [hseen, hstep]
      rfl

/-- A registered store follows its history. -/
theorem follows_history (s : TmrSystem P T) {p : P} (hp : p ∈ s.registry.entries.keys)
    (es : List (TmrEvent P T)) :
    (run step s es).stores p = run TmrStore.apply (s.stores p) (history p s es) := by
  induction es generalizing s with
  | nil => rfl
  | cons e es ih =>
    rw [run_cons, ih (s.step e) (by rwa [registry_step]), stores_step s hp, ← run_append]
    rfl

/-- A history, one event longer. -/
theorem history_concat (p : P) (s : TmrSystem P T) (es : List (TmrEvent P T)) (e : TmrEvent P T) :
    history p s (es ++ [e]) = history p s es ++ seenBy p (run step s es) e := by
  induction es generalizing s with
  | nil => simp [history]
  | cons e' es ih => rw [List.cons_append, history, ih, history, run_cons, List.append_assoc]

/-- A store that is not registered is left alone by the watchdog. -/
theorem stores_watchdogStep_of_not_mem (s : TmrSystem P T) {p : P}
    (hp : p ∉ s.registry.entries.keys) : (s.step TmrEvent.watchdogStep).stores p = s.stores p := by
  simp only [step, watchdogStep]
  split_ifs
  · rw [scrubAll_stores, if_neg hp]
  · rfl

/-! ## Which stores the watchdog repairs -/

/-- In every run in which at most one copy of the store changes between two repairs, every scrub
cycle of the watchdog leaves all its copies with the value last written, `v` at first. -/
def Repaired (s : TmrSystem P T) (p : P) (v : T) : Prop :=
  ∀ es, TmrStore.OneCopy none (history p s es) →
    ∀ pre, pre ++ [TmrEvent.watchdogStep] <+: es → (run step s pre).ScrubsNext →
      ∀ i, ((run step s (pre ++ [TmrEvent.watchdogStep])).stores p).copy i =
        TmrStore.lastWritten v (history p s pre)

/-- The history of a beginning is the beginning of the history. -/
theorem prefix_history {pre es : List (TmrEvent P T)} (h : pre <+: es) (p : P)
    (s : TmrSystem P T) : history p s pre <+: history p s es := by
  obtain ⟨tail, rfl⟩ := h
  induction tail using List.reverseRecOn with
  | nil => rw [List.append_nil]
  | append_singleton tail e ih =>
    rw [← List.append_assoc, history_concat]
    exact ih.trans (List.prefix_append _ _)

/-- The watchdog repairs a registered store. -/
theorem repaired_of_registered (s : TmrSystem P T) {p : P} (hp : p ∈ s.registry.entries.keys)
    {v : T} (hv : TmrStore.Masks none v (s.stores p)) : s.Repaired p v := by
  intro es hes pre hpre hscrub i
  have hseen : seenBy p (run step s pre) TmrEvent.watchdogStep = [TmrStore.Op.scrub] :=
    if_pos hscrub
  obtain ⟨d, hd⟩ := hv.run (prefix_history ((List.prefix_append pre _).trans hpre) p s) hes
  rw [follows_history s hp, history_concat, hseen, run_concat]
  exact hd.copy_apply rfl i

/-- The watchdog alone, for some steps. -/
theorem run_replicate (s : TmrSystem P T) {p : P} (hp : p ∉ s.registry.entries.keys) (k : ℕ) :
    (run step s (List.replicate k TmrEvent.watchdogStep)).stores p = s.stores p ∧
      (run step s (List.replicate k TmrEvent.watchdogStep)).cycles = s.cycles + UInt32.ofNat k ∧
      ∀ op ∈ history p s (List.replicate k TmrEvent.watchdogStep), op = TmrStore.Op.scrub := by
  induction k generalizing s with
  | zero => simp [history]
  | succ k ih =>
    have hcycles : (s.step TmrEvent.watchdogStep).cycles = s.cycles + 1 := by
      simp only [step, watchdogStep]
      split_ifs <;> rfl
    obtain ⟨hstores, hcycles', hhistory⟩ :=
      ih (s.step TmrEvent.watchdogStep) (by rwa [registry_step])
    rw [List.replicate_succ, run_cons, history]
    refine ⟨hstores.trans (stores_watchdogStep_of_not_mem s hp), ?_, ?_⟩
    · rw [hcycles', hcycles, UInt32.add_assoc, UInt32.add_comm 1, UInt32.ofNat_add]
      rfl
    · rw [List.forall_mem_append]
      refine ⟨?_, hhistory⟩
      unfold seenBy
      split_ifs <;> simp

/-- The watchdog repairs a store exactly when the registry holds it. -/
theorem repaired_iff [Nontrivial T] (s : TmrSystem P T) (p : P) {v : T}
    (hv : TmrStore.Masks none v (s.stores p)) :
    s.Repaired p v ↔ p ∈ s.registry.entries.keys := by
  refine ⟨fun h => ?_, fun hp => repaired_of_registered s hp hv⟩
  by_contra hp
  -- The first copy changes, and the watchdog steps until its next step scrubs.
  obtain ⟨bad, hbad⟩ := exists_ne v
  set s' := s.step (TmrEvent.store p (TmrStore.Op.upset 0 bad)) with hs'
  have hp' : p ∉ s'.registry.entries.keys := by rwa [hs', registry_step]
  set k := (0 - s.cycles - 1).toNat with hk
  obtain ⟨hstores, hcycles, hhistory⟩ := run_replicate s' hp' k
  set pre := TmrEvent.store p (TmrStore.Op.upset 0 bad) ::
    List.replicate k (TmrEvent.watchdogStep : TmrEvent P T) with hpre
  have hrun : run step s pre = run step s' (List.replicate k TmrEvent.watchdogStep) := rfl
  have hscrub : (run step s pre).ScrubsNext := by
    have hzero : (run step s pre).cycles + 1 = 0 := by
      rw [hrun, hcycles, hk, UInt32.ofNat_toNat]
      change s.cycles + (0 - s.cycles - 1) + 1 = 0
      rw [UInt32.add_assoc, UInt32.sub_add_cancel, UInt32.add_comm, UInt32.sub_add_cancel]
    unfold ScrubsNext
    rw [hzero]
    decide
  have hseen : seenBy p s (TmrEvent.store p (TmrStore.Op.upset 0 bad)) =
      [TmrStore.Op.upset 0 bad] := if_pos rfl
  have hpre' : history p s pre =
      TmrStore.Op.upset 0 bad :: history p s' (List.replicate k TmrEvent.watchdogStep) := by
    rw [hpre, history, hseen]
    rfl
  have honly : TmrStore.OneCopy none (history p s (pre ++ [TmrEvent.watchdogStep])) := by
    have hlast : seenBy p (run step s pre) TmrEvent.watchdogStep = [TmrStore.Op.scrub] :=
      if_pos hscrub
    rw [history_concat, hpre', hlast]
    refine ⟨.inl rfl, TmrStore.oneCopy_of_repairs (List.forall_mem_append.mpr ⟨?_, ?_⟩) _⟩
    · exact fun op hop => by rw [hhistory op hop]; rfl
    · exact fun op hop => by rw [List.mem_singleton.mp hop]; rfl
  -- The first copy is still the changed one, and the last write was before it changed.
  have hcopy := h _ honly pre List.prefix_rfl hscrub 0
  have hlast : TmrStore.lastWritten v (history p s pre) = v := by
    have hnone := TmrStore.lastWritten_of_scrubs v hhistory
    rw [hpre']
    exact hnone
  have hchanged : (s'.stores p).copy 0 = bad := by
    have hstore : s'.stores p = (s.stores p).upset 0 bad := Function.update_self ..
    rw [hstore]
    rfl
  rw [hlast, run_concat, stores_watchdogStep_of_not_mem _ (by rwa [registry_run]), hrun, hstores,
    hchanged] at hcopy
  exact hbad hcopy

end TmrSystem

end DeltaV
