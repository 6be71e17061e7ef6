import DeltaV.Lib.BoundedQueue
import DeltaV.Lib.Runs
import Mathlib.Data.List.Nodup

/-!
# The rate group executive

The executive keeps the components of each rate in a tier of their own and the components with
threads in a fourth list. A registration is refused when the component is registered already and
when its list is full. For registrations of different components, every list holds the first ones
that were offered to it (`run_registered`).
-/

namespace DeltaV

/-- The most components in a tier. -/
def RGE_MAX_PER_TIER : ℕ := 32

/-- The most components with threads of their own. -/
def RGE_MAX_ACTIVE : ℕ := 16

/-- The components of one rate, in the order of their steps. -/
structure RateTier (C : Type) where
  comps : List C
  count_le : comps.length ≤ RGE_MAX_PER_TIER
deriving DecidableEq

namespace RateTier

variable {C : Type}

/-- A tier without components. -/
def empty (C : Type) : RateTier C := ⟨[], Nat.zero_le _⟩

/-- Appends a component; the flag says whether it was there and there was room for it. -/
def add (t : RateTier C) (c : Option C) : RateTier C × Bool :=
  match c with
  | none => (t, false)
  | some c =>
    if h : t.comps.length < RGE_MAX_PER_TIER then
      (⟨t.comps ++ [c], by rw [List.length_append, List.length_singleton]; exact h⟩, true)
    else (t, false)

/-- A component is offered to the tier. -/
theorem comps_add (t : RateTier C) (c : C) :
    (t.add (some c)).1.comps = offer RGE_MAX_PER_TIER t.comps c := by
  unfold add offer
  split_ifs <;> rfl

end RateTier

/-- The executive's tables. -/
structure RateGroupExecutive (C : Type) where
  fast_ : RateTier C
  norm_ : RateTier C
  slow_ : RateTier C
  active_ : List C
  active_count_le : active_.length ≤ RGE_MAX_ACTIVE
deriving DecidableEq

/-- A call of a registration function; `none` is the null pointer. -/
inductive Registration (C : Type) where
  | registerFast (c : Option C)
  | registerNorm (c : Option C)
  | registerSlow (c : Option C)
  | registerComponent (c : Option C)
deriving DecidableEq

namespace RateGroupExecutive

variable {C : Type}

/-- An executive as constructed. -/
def create (C : Type) : RateGroupExecutive C :=
  ⟨RateTier.empty C, RateTier.empty C, RateTier.empty C, [], Nat.zero_le _⟩

/-- All components, list by list. -/
def all (r : RateGroupExecutive C) : List C :=
  r.fast_.comps ++ r.norm_.comps ++ r.slow_.comps ++ r.active_

variable [DecidableEq C]

/-- The component is in one of the lists. -/
def isRegistered (r : RateGroupExecutive C) (c : Option C) : Bool :=
  match c with
  | none => false
  | some c =>
    decide (c ∈ r.fast_.comps ∨ c ∈ r.norm_.comps ∨ c ∈ r.slow_.comps ∨ c ∈ r.active_)

/-- The registration is refused before any list is looked at for room. -/
def rejectRegistration (r : RateGroupExecutive C) (c : Option C) : Bool :=
  c.isNone || r.isRegistered c

def registerFast (r : RateGroupExecutive C) (c : Option C) : RateGroupExecutive C :=
  if r.rejectRegistration c then r else { r with fast_ := (r.fast_.add c).1 }

def registerNorm (r : RateGroupExecutive C) (c : Option C) : RateGroupExecutive C :=
  if r.rejectRegistration c then r else { r with norm_ := (r.norm_.add c).1 }

def registerSlow (r : RateGroupExecutive C) (c : Option C) : RateGroupExecutive C :=
  if r.rejectRegistration c then r else { r with slow_ := (r.slow_.add c).1 }

/-- Registers a component with a thread in the fourth list, and any other in the NORM tier. -/
def registerComponent (isActive : C → Bool) (r : RateGroupExecutive C) (c : Option C) :
    RateGroupExecutive C :=
  if r.rejectRegistration c then r
  else
    match c with
    | none => r
    | some comp =>
      if isActive comp then
        if h : r.active_.length < RGE_MAX_ACTIVE then
          { r with
            active_ := r.active_ ++ [comp]
            active_count_le := by
              rw [List.length_append, List.length_singleton]
              exact h }
        else r
      else r.registerNorm c

/-- The tables after a call. -/
def register (isActive : C → Bool) (r : RateGroupExecutive C) :
    Registration C → RateGroupExecutive C
  | Registration.registerFast c => r.registerFast c
  | Registration.registerNorm c => r.registerNorm c
  | Registration.registerSlow c => r.registerSlow c
  | Registration.registerComponent c => r.registerComponent isActive c

/-! ## Registrations of different components -/

end RateGroupExecutive

namespace Registration

variable {C : Type}

/-- The component of a call. -/
def comp : Registration C → Option C
  | registerFast c => c
  | registerNorm c => c
  | registerSlow c => c
  | registerComponent c => c

/-- The component, if the call offers it to the FAST tier. -/
def fast : Registration C → Option C
  | registerFast c => c
  | _ => none

/-- The component, if the call offers it to the NORM tier. -/
def norm (isActive : C → Bool) : Registration C → Option C
  | registerNorm c => c
  | registerComponent (some c) => if isActive c then none else some c
  | _ => none

/-- The component, if the call offers it to the SLOW tier. -/
def slow : Registration C → Option C
  | registerSlow c => c
  | _ => none

/-- The component, if the call offers it to the list of components with threads. -/
def active (isActive : C → Bool) : Registration C → Option C
  | registerComponent (some c) => if isActive c then some c else none
  | _ => none

end Registration

namespace RateGroupExecutive

variable {C : Type} [DecidableEq C]

/-- The lists hold the first components that the calls offer to them. -/
structure After (isActive : C → Bool) (calls : List (Registration C)) (r : RateGroupExecutive C) :
    Prop where
  fast_eq : r.fast_.comps = (calls.filterMap Registration.fast).take RGE_MAX_PER_TIER
  norm_eq : r.norm_.comps = (calls.filterMap (Registration.norm isActive)).take RGE_MAX_PER_TIER
  slow_eq : r.slow_.comps = (calls.filterMap Registration.slow).take RGE_MAX_PER_TIER
  active_eq : r.active_ = (calls.filterMap (Registration.active isActive)).take RGE_MAX_ACTIVE

omit [DecidableEq C] in
/-- What is in a list was offered by a call. -/
theorem After.mem_all {isActive : C → Bool} {calls : List (Registration C)}
    {r : RateGroupExecutive C} (h : After isActive calls r) {c : C} (hc : c ∈ r.all) :
    some c ∈ calls.map Registration.comp := by
  have hof : ∀ {f : Registration C → Option C} {n : ℕ}, c ∈ (calls.filterMap f).take n →
      (∀ call, f call = some c → call.comp = some c) → some c ∈ calls.map Registration.comp := by
    intro f n hmem hf
    obtain ⟨call, hcall, hc⟩ := List.mem_filterMap.mp (List.mem_of_mem_take hmem)
    exact List.mem_map.mpr ⟨call, hcall, hf call hc⟩
  unfold all at hc
  rw [h.fast_eq, h.norm_eq, h.slow_eq, h.active_eq, List.mem_append, List.mem_append,
    List.mem_append] at hc
  rcases hc with ((hc | hc) | hc) | hc
  · refine hof hc fun call hcall => ?_
    cases call <;> simp_all [Registration.fast, Registration.comp]
  · refine hof hc fun call hcall => ?_
    rcases call with _ | _ | _ | (_ | _) <;> simp_all [Registration.norm, Registration.comp]
  · refine hof hc fun call hcall => ?_
    cases call <;> simp_all [Registration.slow, Registration.comp]
  · refine hof hc fun call hcall => ?_
    rcases call with _ | _ | _ | (_ | _) <;> simp_all [Registration.active, Registration.comp]

/-- A component that is in no list is not rejected. -/
theorem rejectRegistration_eq_false {r : RateGroupExecutive C} {c : C} (h : c ∉ r.all) :
    r.rejectRegistration (some c) = false := by
  simpa [rejectRegistration, isRegistered, all, and_assoc] using h

/-- A call that is not rejected offers its component to one list and leaves the others alone. -/
theorem register_spec (isActive : C → Bool) (r : RateGroupExecutive C) (call : Registration C)
    (h : r.rejectRegistration call.comp = false) :
    (r.register isActive call).fast_.comps =
        call.fast.elim r.fast_.comps (offer RGE_MAX_PER_TIER r.fast_.comps) ∧
      (r.register isActive call).norm_.comps =
        (call.norm isActive).elim r.norm_.comps (offer RGE_MAX_PER_TIER r.norm_.comps) ∧
      (r.register isActive call).slow_.comps =
        call.slow.elim r.slow_.comps (offer RGE_MAX_PER_TIER r.slow_.comps) ∧
      (r.register isActive call).active_ =
        (call.active isActive).elim r.active_ (offer RGE_MAX_ACTIVE r.active_) := by
  obtain ⟨c, hc⟩ : ∃ c, call.comp = some c := by
    rcases hcomp : call.comp with _ | c
    · rw [hcomp] at h
      cases h
    · exact ⟨c, rfl⟩
  rw [hc] at h
  cases call with
  | registerFast c' =>
    obtain rfl : c' = some c := hc
    simp [register, registerFast, h, Registration.fast, Registration.norm, Registration.slow,
      Registration.active, RateTier.comps_add]
  | registerNorm c' =>
    obtain rfl : c' = some c := hc
    simp [register, registerNorm, h, Registration.fast, Registration.norm, Registration.slow,
      Registration.active, RateTier.comps_add]
  | registerSlow c' =>
    obtain rfl : c' = some c := hc
    simp [register, registerSlow, h, Registration.fast, Registration.norm, Registration.slow,
      Registration.active, RateTier.comps_add]
  | registerComponent c' =>
    obtain rfl : c' = some c := hc
    -- A component without a thread goes through a second check, with the same answer.
    rcases hactive : isActive c with _ | _
    · simp [register, registerComponent, registerNorm, h, hactive, Registration.fast,
        Registration.norm, Registration.slow, Registration.active, RateTier.comps_add]
    · by_cases hroom : r.active_.length < RGE_MAX_ACTIVE
      · simp [register, registerComponent, h, hactive, hroom, Registration.fast,
          Registration.norm, Registration.slow, Registration.active, offer]
      · simp [register, registerComponent, h, hactive, hroom, Registration.fast,
          Registration.norm, Registration.slow, Registration.active, offer]

omit [DecidableEq C] in
/-- What one more call offers, as the lists see it. -/
theorem take_filterMap_concat (f : Registration C → Option C) (n : ℕ)
    (calls : List (Registration C)) (call : Registration C) :
    ((calls ++ [call]).filterMap f).take n = (f call).elim ((calls.filterMap f).take n)
      (offer n ((calls.filterMap f).take n)) := by
  rw [List.filterMap_append]
  rcases hf : f call with _ | c
  · rw [List.filterMap_cons_none hf, List.filterMap_nil, List.append_nil]
    rfl
  · rw [List.filterMap_cons_some hf, List.filterMap_nil]
    exact (offer_take _ c).symm

/-- Registrations of different components fill each list with the first that are offered to it. -/
theorem run_registered (isActive : C → Bool) (calls : List (Registration C))
    (hsome : ∀ call ∈ calls, call.comp ≠ none) (hnodup : (calls.map Registration.comp).Nodup) :
    After isActive calls (run (register isActive) (create C) calls) := by
  induction calls using List.reverseRecOn with
  | nil => exact ⟨rfl, rfl, rfl, rfl⟩
  | append_singleton calls call ih =>
    rw [List.map_append, List.map_singleton, List.nodup_append_comm, List.singleton_append,
      List.nodup_cons] at hnodup
    have h := ih (fun c hc => hsome c (List.mem_append_left _ hc)) hnodup.2
    set r := run (register isActive) (create C) calls with hr
    obtain ⟨c, hc⟩ := Option.ne_none_iff_exists'.mp
      (hsome call (List.mem_append_right _ (List.mem_singleton_self call)))
    -- The component is new, so the call is not rejected.
    have hreject : r.rejectRegistration call.comp = false := by
      rw [hc]
      exact rejectRegistration_eq_false fun hmem => hnodup.1 (by rw [hc]; exact h.mem_all hmem)
    obtain ⟨hfast, hnorm, hslow, hactive⟩ := register_spec isActive r call hreject
    rw [run_concat, ← hr]
    constructor
    · rw [hfast, take_filterMap_concat, ← h.fast_eq]
    · rw [hnorm, take_filterMap_concat, ← h.norm_eq]
    · rw [hslow, take_filterMap_concat, ← h.slow_eq]
    · rw [hactive, take_filterMap_concat, ← h.active_eq]

end RateGroupExecutive

end DeltaV
