import DeltaV.Lib.Logs
import DeltaV.RateGroupExecutive

/-!
# Registrations in any order

Calls may repeat components, pass null, and come when a list is full. A call offers its component to
one list, which takes it when the component is in no list and there is room (`list_register`); any
other call changes nothing (`register_of_refused`). So each list holds the components that it has
taken, in the order of the calls, and no component is in two places (`registration_contract`).
-/

namespace DeltaV

/-- The lists of the executive. -/
inductive RgeList where
  | fast
  | norm
  | slow
  | active
deriving DecidableEq

/-- The room in a list. -/
def RgeList.capacity : RgeList → ℕ
  | active => RGE_MAX_ACTIVE
  | _ => RGE_MAX_PER_TIER

/-- What holds of each list holds of all. -/
theorem RgeList.forall {P : RgeList → Prop} (hfast : P fast) (hnorm : P norm) (hslow : P slow)
    (hactive : P active) (L : RgeList) : P L := by
  cases L with
  | fast => exact hfast
  | norm => exact hnorm
  | slow => exact hslow
  | active => exact hactive

/-- The list that a call offers its component to. -/
def Registration.target {C : Type} (isActive : C → Bool) : Registration C → RgeList
  | registerFast _ => RgeList.fast
  | registerNorm _ => RgeList.norm
  | registerSlow _ => RgeList.slow
  | registerComponent none => RgeList.norm
  | registerComponent (some c) => if isActive c then RgeList.active else RgeList.norm

/-- The calls of `init` on the components of a tier. -/
def RateTier.initTier {C : Type} (t : RateTier C) : List C := t.comps

namespace RateGroupExecutive

variable {C : Type}

/-- One of the lists. -/
def list (r : RateGroupExecutive C) : RgeList → List C
  | RgeList.fast => r.fast_.comps
  | RgeList.norm => r.norm_.comps
  | RgeList.slow => r.slow_.comps
  | RgeList.active => r.active_

/-- The calls of `init` that `initAll` makes. -/
def initAll (r : RateGroupExecutive C) : List C :=
  r.fast_.initTier ++ r.norm_.initTier ++ r.slow_.initTier ++ r.active_

/-- The call registers the component: it is in no list, and there is room for it. -/
def Accepts (isActive : C → Bool) (r : RateGroupExecutive C) (call : Registration C) (c : C) :
    Prop :=
  call.comp = some c ∧ c ∉ r.all ∧
    (r.list (call.target isActive)).length < (call.target isActive).capacity

/-- The component that a call adds to a list. -/
def accepted [DecidableEq C] (isActive : C → Bool) (L : RgeList)
    (x : RateGroupExecutive C × Registration C) : Option C :=
  x.2.comp.filter fun c => decide (x.2.target isActive = L ∧ c ∉ x.1.all ∧
    (x.1.list L).length < L.capacity)

/-! ## One call -/

/-- The executive is its lists. -/
theorem ext_list {r r' : RateGroupExecutive C} (h : ∀ L, r.list L = r'.list L) : r = r' := by
  obtain ⟨⟨fast, _⟩, ⟨norm, _⟩, ⟨slow, _⟩, active, _⟩ := r
  obtain ⟨⟨fast', _⟩, ⟨norm', _⟩, ⟨slow', _⟩, active', _⟩ := r'
  obtain rfl : fast = fast' := h RgeList.fast
  obtain rfl : norm = norm' := h RgeList.norm
  obtain rfl : slow = slow' := h RgeList.slow
  obtain rfl : active = active' := h RgeList.active
  rfl

/-- A list holds no more components than it has places for. -/
theorem length_list_le (r : RateGroupExecutive C) (L : RgeList) :
    (r.list L).length ≤ L.capacity :=
  RgeList.forall (P := fun L => (r.list L).length ≤ L.capacity) r.fast_.count_le r.norm_.count_le
    r.slow_.count_le r.active_count_le L

variable [DecidableEq C] {isActive : C → Bool} {r : RateGroupExecutive C} {call : Registration C}
  {c : C}

/-- A component that is in no list is offered to one of them. -/
theorem list_register (hcomp : call.comp = some c) (hnew : c ∉ r.all) (L : RgeList) :
    (r.register isActive call).list L =
      if L = call.target isActive then offer L.capacity (r.list L) c else r.list L := by
  have hreject : r.rejectRegistration call.comp = false := by
    rw [hcomp]
    exact rejectRegistration_eq_false hnew
  obtain ⟨hfast, hnorm, hslow, hactive⟩ := register_spec isActive r call hreject
  revert L
  rcases call with c' | c' | c' | c'
  all_goals obtain rfl : c' = some c := hcomp
  · exact RgeList.forall hfast hnorm hslow hactive
  · exact RgeList.forall hfast hnorm hslow hactive
  · exact RgeList.forall hfast hnorm hslow hactive
  · rw [Registration.target]
    rw [Registration.norm] at hnorm
    rw [Registration.active] at hactive
    cases h : isActive c with
    | false =>
      rw [h] at hnorm hactive
      exact RgeList.forall hfast hnorm hslow hactive
    | true =>
      rw [h] at hnorm hactive
      exact RgeList.forall hfast hnorm hslow hactive

/-- A call without a component, or with one that is in a list, is refused. -/
theorem register_of_rejected (h : r.rejectRegistration call.comp = true) :
    r.register isActive call = r := by
  cases call with
  | registerFast c => exact if_pos h
  | registerNorm c => exact if_pos h
  | registerSlow c => exact if_pos h
  | registerComponent c => exact if_pos h

/-- A component that is in a list is rejected. -/
theorem rejectRegistration_of_mem (h : c ∈ r.all) : r.rejectRegistration (some c) = true := by
  simpa [rejectRegistration, isRegistered, all, or_assoc] using h

/-- A call that registers a component appends it to one list. -/
theorem register_of_accepts (h : r.Accepts isActive call c) (L : RgeList) :
    (r.register isActive call).list L =
      if L = call.target isActive then r.list L ++ [c] else r.list L := by
  obtain ⟨hcomp, hnew, hroom⟩ := h
  rw [list_register hcomp hnew]
  split_ifs with hL
  · rw [hL, offer, if_pos hroom]
  · rfl

/-- A call that registers no component changes nothing. -/
theorem register_of_refused (h : ∀ c, ¬r.Accepts isActive call c) :
    r.register isActive call = r := by
  cases hcomp : call.comp with
  | none => exact register_of_rejected (by rw [hcomp]; rfl)
  | some c =>
    by_cases hold : c ∈ r.all
    · exact register_of_rejected (by rw [hcomp]; exact rejectRegistration_of_mem hold)
    · refine ext_list fun L => ?_
      rw [list_register hcomp hold]
      split_ifs with hL
      · -- There is no room.
        have hfull : ¬(r.list L).length < L.capacity := fun hroom =>
          h c ⟨hcomp, hold, hL ▸ hroom⟩
        rw [offer, if_neg hfull]
      · rfl

omit [DecidableEq C] in
/-- All components are those of the four lists. -/
theorem all_eq (r : RateGroupExecutive C) :
    r.all = r.list RgeList.fast ++ r.list RgeList.norm ++ r.list RgeList.slow ++
      r.list RgeList.active := rfl

/-- A call that registers a component adds it to those that are registered. -/
theorem all_register_perm (h : r.Accepts isActive call c) :
    (r.register isActive call).all.Perm (c :: r.all) := by
  rw [all_eq, all_eq, register_of_accepts h, register_of_accepts h, register_of_accepts h,
    register_of_accepts h, List.perm_iff_count]
  intro a
  cases call.target isActive <;> simp [List.count_append, List.count_cons] <;> omega

/-- A component is registered after a call when it was before or the call registers it. -/
theorem mem_all_register : c ∈ (r.register isActive call).all ↔
    c ∈ r.all ∨ r.Accepts isActive call c := by
  by_cases h : ∃ c', r.Accepts isActive call c'
  · obtain ⟨c', hc'⟩ := h
    rw [(all_register_perm hc').mem_iff, List.mem_cons, or_comm]
    refine or_congr_right ⟨?_, fun h => ?_⟩
    · rintro rfl
      exact hc'
    · exact Option.some.inj (h.1.symm.trans hc'.1)
  · have hnone := not_exists.mp h
    rw [register_of_refused hnone]
    exact (or_iff_left (hnone c)).symm

/-- No call registers a component twice. -/
theorem nodup_register (isActive : C → Bool) (r : RateGroupExecutive C) (call : Registration C)
    (h : r.all.Nodup) : (r.register isActive call).all.Nodup := by
  by_cases hc : ∃ c, r.Accepts isActive call c
  · obtain ⟨c, hc⟩ := hc
    exact (all_register_perm hc).nodup_iff.mpr (List.nodup_cons.mpr ⟨hc.2.1, h⟩)
  · rwa [register_of_refused (not_exists.mp hc)]

/-- A call adds to a list what the list takes. -/
theorem list_register_eq (isActive : C → Bool) (r : RateGroupExecutive C) (call : Registration C)
    (L : RgeList) : (r.register isActive call).list L =
      r.list L ++ (accepted isActive L (r, call)).toList := by
  by_cases h : ∃ c, r.Accepts isActive call c
  · obtain ⟨c, hc⟩ := h
    rw [register_of_accepts hc, accepted, hc.1]
    by_cases hL : L = call.target isActive
    · rw [if_pos hL, Option.filter_some, if_pos]
      · rfl
      · exact decide_eq_true ⟨hL.symm, hc.2.1, hL ▸ hc.2.2⟩
    · rw [if_neg hL, Option.filter_some, if_neg]
      · exact (List.append_nil _).symm
      · exact fun h => hL (of_decide_eq_true h).1.symm
  · have hnone : accepted isActive L (r, call) = none := by
      rw [accepted, Option.filter_eq_none_iff]
      intro c hcomp hc
      obtain ⟨rfl, hnew, hroom⟩ := of_decide_eq_true hc
      exact h ⟨c, hcomp, hnew, hroom⟩
    rw [register_of_refused (not_exists.mp h), hnone, Option.toList_none, List.append_nil]

/-! ## Runs -/

/-- After any calls, each list holds what it has taken, in the order of the calls. -/
theorem list_run (isActive : C → Bool) (calls : List (Registration C)) (L : RgeList) :
    (run (register isActive) (create C) calls).list L =
      (history (register isActive) (create C) calls).filterMap (accepted isActive L) := by
  induction calls using List.reverseRecOn with
  | nil => exact RgeList.forall (P := fun L => (create C).list L = []) rfl rfl rfl rfl L
  | append_singleton calls call ih =>
    rw [run_concat, list_register_eq, ih, history_concat]
    cases htaken : accepted isActive L (run (register isActive) (create C) calls, call) with
    | none => rw [Logs.filterMap_concat_of_none htaken, Option.toList_none, List.append_nil]
    | some c => rw [Logs.filterMap_concat_of_some htaken, Option.toList_some]

/-- Without a call for it, a component that is in no list stays in none. -/
theorem not_mem_all_run (isActive : C → Bool) {r : RateGroupExecutive C} {c : C} (h : c ∉ r.all)
    {calls : List (Registration C)} (hcalls : ∀ call ∈ calls, call.comp ≠ some c) :
    c ∉ (run (register isActive) r calls).all := by
  induction calls generalizing r with
  | nil => exact h
  | cons call calls ih =>
    obtain ⟨hcall, hcalls⟩ := List.forall_mem_cons.mp hcalls
    refine ih ?_ hcalls
    rw [mem_all_register]
    rintro (hold | hc)
    · exact h hold
    · exact hcall hc.1

/-- After any calls, no component is in two places, the lists keep to their capacities and hold what
they have taken in the order of the calls; a further call appends its component to one list or
changes nothing; a component that finds its list full changes nothing and can be registered by a
later call for a list with room; and `initAll` calls `init` of every registered component once. -/
theorem registration_contract (isActive : C → Bool) (calls : List (Registration C)) :
    let r := run (register isActive) (create C) calls
    r.all.Nodup ∧
      (∀ L, (r.list L).length ≤ L.capacity ∧ r.list L =
        (history (register isActive) (create C) calls).filterMap (accepted isActive L)) ∧
      (∀ call, (∃ c, call.comp = some c ∧ ∀ L, (r.register isActive call).list L =
          if L = call.target isActive then r.list L ++ [c] else r.list L) ∨
        r.register isActive call = r) ∧
      (∀ call c, call.comp = some c → c ∉ r.all →
        (call.target isActive).capacity ≤ (r.list (call.target isActive)).length →
          r.register isActive call = r ∧
            ∀ more, (∀ call' ∈ more, call'.comp ≠ some c) → ∀ call', call'.comp = some c →
              ((run (register isActive) r more).list (call'.target isActive)).length <
                (call'.target isActive).capacity →
              c ∈ (run (register isActive) r (more ++ [call'])).list (call'.target isActive)) ∧
      ∀ c, r.initAll.count c = if c ∈ r.all then 1 else 0 := by
  intro r
  have hnodup : r.all.Nodup :=
    run_invariant (nodup_register isActive) (show (create C).all.Nodup from List.nodup_nil) calls
  refine ⟨hnodup, fun L => ⟨length_list_le r L, list_run isActive calls L⟩, fun call => ?_,
    fun call c hcomp hnew hfull => ⟨?_, fun more hmore call' hcomp' hroom => ?_⟩, fun c => ?_⟩
  · -- A call that is not accepted is one of a null, a repeat, or a full list.
    by_cases h : ∃ c, r.Accepts isActive call c
    · obtain ⟨c, hc⟩ := h
      exact Or.inl ⟨c, hc.1, register_of_accepts hc⟩
    · exact Or.inr (register_of_refused (not_exists.mp h))
  · exact register_of_refused fun c' hc' => absurd hc'.2.2 (not_lt.mpr hfull)
  · have hacc : (run (register isActive) r more).Accepts isActive call' c :=
      ⟨hcomp', not_mem_all_run isActive hnew hmore, hroom⟩
    rw [run_concat, register_of_accepts hacc, if_pos rfl]
    exact List.mem_append_right _ (List.mem_singleton_self c)
  · change r.all.count c = _
    split_ifs with hc
    · exact List.count_eq_one_of_mem hnodup hc
    · exact List.count_eq_zero_of_not_mem hc

end RateGroupExecutive

end DeltaV
