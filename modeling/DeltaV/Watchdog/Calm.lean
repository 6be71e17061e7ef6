import DeltaV.Watchdog.MissionState

/-!
# Runs without an escalation

A call is `Calm` when nothing asks for a mission state above `NOMINAL`: no sample reaches an alarm
threshold, every subsystem answers `NOMINAL`, and a parameter check that is due passes. From
`NOMINAL`, a call assigns the mission state exactly when it is not calm, so a run after `init()`
leaves the mission state alone exactly when all its calls are calm (`still_run_iff`).
-/

namespace DeltaV

namespace WatchdogComponent

/-- Nothing in the cycle asks for a mission state above `NOMINAL`. -/
structure CalmCycle (w : WatchdogComponent) (inp : StepInput) : Prop where
  samples : ∀ batt ∈ inp.samples, demanded (thresholdsFor w.voted) batt = 0
  health : ∀ i comp, w.subsystem i = some comp → inp.health i = HealthStatus.NOMINAL
  params : w.CheckDue → inp.verifyIntegrity = true

/-- Nothing in the call asks for a mission state above `NOMINAL`. -/
def Calm (w : WatchdogComponent) : WatchdogOp → Prop
  | WatchdogOp.step inp => w.CalmCycle inp
  | WatchdogOp.injectBatteryLevel soc => demanded (thresholdsFor w.voted) soc = 0
  | _ => True

/-! ## Assignments between two states -/

/-- The mission state is not assigned between two states. -/
def Still (w w' : WatchdogComponent) : Prop := assignments w'.log = assignments w.log

/-- Two parts are still exactly when the whole is. -/
theorem still_iff_of_follows {P Q : MissionState → MissionState → Prop}
    {w w' w'' : WatchdogComponent} (h : Follows P w w') (h' : Follows Q w' w'') :
    Still w w'' ↔ Still w w' ∧ Still w' w'' := by
  obtain ⟨acts, hlog, -⟩ := h
  obtain ⟨acts', hlog', -⟩ := h'
  unfold Still
  rw [hlog', hlog]
  simp only [assignments_append, List.append_assoc, List.append_right_eq_self,
    List.append_eq_nil_iff, List.append_cancel_left_eq]

/-- A path without steps ends where it starts. -/
theorem Path.eq_of_nil {P : MissionState → MissionState → Prop} {a b : MissionState}
    (h : Path P a [] b) : b = a := by
  cases h
  rfl

/-- A path of raises ends where it starts only when it has no steps. -/
theorem Path.eq_nil_iff {a b : MissionState} {l : List (MissionState × MissionState)}
    (h : Path Raise a l b) : l = [] ↔ b = a := by
  cases h with
  | nil => exact iff_of_true rfl rfl
  | cons hraise hrest =>
    -- After one raise the mission state stays above where it was.
    refine iff_of_false (List.cons_ne_nil _ _) fun heq => ?_
    have hle := hrest.toNat_le
    rw [heq] at hle
    exact absurd hraise (not_lt.mpr hle)

/-- Raises leave the mission state as it was exactly when there are none. -/
theorem still_iff_of_raise {w w' : WatchdogComponent} (h : Follows Raise w w') :
    Still w w' ↔ w'.mission_state = w.mission_state := by
  obtain ⟨acts, hlog, hpath⟩ := h
  unfold Still
  rw [hlog, assignments_append, List.append_right_eq_self]
  exact hpath.eq_nil_iff

/-- Nothing assigned leaves the mission state as it was. -/
theorem mission_state_of_still {P : MissionState → MissionState → Prop} {w w' : WatchdogComponent}
    (h : Follows P w w') (hstill : Still w w') : w'.mission_state = w.mission_state := by
  obtain ⟨acts, hlog, hpath⟩ := h
  unfold Still at hstill
  rw [hlog, assignments_append, List.append_right_eq_self] at hstill
  rw [hstill] at hpath
  exact hpath.eq_of_nil

/-! ## The stages of a cycle -/

/-- What samples demand. -/
theorem toNat_checkBattery_le_iff (w : WatchdogComponent) (samples : List Binary32) (n : ℕ) :
    (w.checkBattery samples).mission_state.toNat ≤ n ↔
      w.mission_state.toNat ≤ n ∧
        ∀ batt ∈ samples, demanded (thresholdsFor w.voted) batt ≤ n := by
  induction samples generalizing w with
  | nil => simp [checkBattery]
  | cons batt samples ih =>
    obtain ⟨hprog, hlevel⟩ := w.processBattery_spec batt
    have hrest := ih (w.processBattery batt)
    rw [hlevel, hprog.voted_eq, max_le_iff] at hrest
    rw [List.forall_mem_cons, ← and_assoc]
    exact hrest

/-- An answer that is not `NOMINAL` sets a flag, and flags stay set. -/
theorem flag_checkSubsystem (inp : StepInput) (acc : WatchdogComponent × Bool × Bool) (i : ℕ)
    (h : (∃ comp, acc.1.subsystem i = some comp ∧ inp.health i ≠ HealthStatus.NOMINAL) ∨
      acc.2.1 = true ∨ acc.2.2 = true) :
    (checkSubsystem inp acc i).2.1 = true ∨ (checkSubsystem inp acc i).2.2 = true := by
  unfold checkSubsystem
  rcases hi : acc.1.subsystem i with _ | comp
  · rcases h with ⟨comp, hcomp, -⟩ | h
    · rw [hi] at hcomp
      cases hcomp
    · exact h
  · rcases hhealth : inp.health i with _ | _ | _
    · rcases h with ⟨-, -, hne⟩ | h
      · exact absurd hhealth hne
      · exact h
    · exact Or.inr rfl
    · exact Or.inl rfl

/-- The loop ends with a flag set when one of the subsystems does not answer `NOMINAL`. -/
theorem flag_foldl_checkSubsystem (inp : StepInput) (is : List ℕ)
    (acc : WatchdogComponent × Bool × Bool)
    (h : (∃ i ∈ is, ∃ comp, acc.1.subsystem i = some comp ∧
      inp.health i ≠ HealthStatus.NOMINAL) ∨ acc.2.1 = true ∨ acc.2.2 = true) :
    (is.foldl (checkSubsystem inp) acc).2.1 = true ∨
      (is.foldl (checkSubsystem inp) acc).2.2 = true := by
  induction is generalizing acc with
  | nil =>
    rcases h with ⟨i, hi, -⟩ | h
    · cases hi
    · exact h
  | cons i is ih =>
    refine ih (checkSubsystem inp acc i) ?_
    rcases h with ⟨j, hj, comp, hcomp, hne⟩ | h
    · rcases List.mem_cons.mp hj with rfl | hj
      · exact Or.inr (flag_checkSubsystem inp acc j (Or.inl ⟨comp, hcomp, hne⟩))
      · -- The pass does not change which subsystems there are.
        have hsystems := (progress_checkSubsystem inp acc i).systems_eq
        refine Or.inl ⟨j, hj, comp, ?_, hne⟩
        rwa [subsystem, hsystems]
    · exact Or.inr (flag_checkSubsystem inp acc i (Or.inr h))

/-- Subsystems that all answer `NOMINAL` change nothing. -/
theorem foldl_checkSubsystem_of_nominal (inp : StepInput) (w : WatchdogComponent)
    (hhealth : ∀ i comp, w.subsystem i = some comp → inp.health i = HealthStatus.NOMINAL)
    (is : List ℕ) :
    is.foldl (checkSubsystem inp) (w, false, false) = (w, false, false) := by
  induction is with
  | nil => rfl
  | cons i is ih =>
    have hpass : checkSubsystem inp (w, false, false) i = (w, false, false) := by
      unfold checkSubsystem
      rcases hi : w.subsystem i with _ | comp
      · rfl
      · rw [hhealth i comp hi]
    rw [List.foldl_cons, hpass, ih]

/-- From `NOMINAL`, asking the subsystems for their health leaves the mission state as it is exactly
when all answer `NOMINAL`. -/
theorem checkSubsystems_nominal_iff (w : WatchdogComponent) (inp : StepInput)
    (hw : w.mission_state = MissionState.NOMINAL) :
    (w.checkSubsystems inp).mission_state = MissionState.NOMINAL ↔
      ∀ i comp, w.subsystem i = some comp → inp.health i = HealthStatus.NOMINAL := by
  constructor
  · intro h i comp hcomp
    by_contra hne
    have hlt : i < w.monitored_systems.length := by
      by_contra hge
      rw [subsystem, List.getElem?_eq_none (not_lt.mp hge)] at hcomp
      cases hcomp
    have hflag := flag_foldl_checkSubsystem inp (List.range w.monitored_systems.length)
      (w, false, false) (Or.inl ⟨i, List.mem_range.mpr hlt, comp, hcomp, hne⟩)
    have hle : ∀ (w' : WatchdogComponent) (next : MissionState),
        (w'.escalate next).mission_state = MissionState.NOMINAL → next.toNat ≤ 1 := by
      intro w' next heq
      have hmax := w'.toNat_escalate next
      rw [heq] at hmax
      exact (le_max_right _ _).trans hmax.symm.le
    simp only [checkSubsystems] at h
    -- A set flag escalates to `SAFE_MODE` or `DEGRADED`.
    split_ifs at h with hcritical hwarning
    · exact absurd (hle _ _ h) (by decide)
    · exact absurd (hle _ _ h) (by decide)
    · exact hflag.elim hcritical hwarning
  · intro hhealth
    simp only [checkSubsystems, foldl_checkSubsystem_of_nominal inp w hhealth]
    exact hw

/-- A sample demands nothing or at least DEGRADED. -/
theorem demanded_le_one_iff (t : BatteryThresholds) (batt : Binary32) :
    demanded t batt ≤ 1 ↔ demanded t batt = 0 := by
  unfold demanded
  split_ifs <;> decide

/-- Among the states from `NOMINAL` on, `NOMINAL` is the lowest. -/
theorem eq_nominal_iff {a : MissionState} (h : 1 ≤ a.toNat) :
    a = MissionState.NOMINAL ↔ a.toNat ≤ 1 := by
  cases a <;> simp [MissionState.toNat] at h ⊢

/-- Up to the recovery attempt, a cycle from `NOMINAL` raises the mission state exactly when a sample
or a subsystem asks for it. -/
theorem beforeRecovery_nominal_iff (w : WatchdogComponent) (inp : StepInput)
    (hw : w.mission_state = MissionState.NOMINAL) :
    (w.beforeRecovery inp).mission_state = MissionState.NOMINAL ↔
      (∀ batt ∈ inp.samples, demanded (thresholdsFor w.voted) batt = 0) ∧
        ∀ i comp, w.subsystem i = some comp → inp.health i = HealthStatus.NOMINAL := by
  have hbatt := w.tick.progress_checkBattery inp.samples
  have hsub := progress_checkSubsystems (w.tick.checkBattery inp.samples) inp
  have hstart : 1 ≤ (w.tick.checkBattery inp.samples).mission_state.toNat := by
    refine le_trans ?_ hbatt.toNat_le
    rw [show w.tick.mission_state = w.mission_state from rfl, hw]
    decide
  have hsamples : (w.tick.checkBattery inp.samples).mission_state = MissionState.NOMINAL ↔
      ∀ batt ∈ inp.samples, demanded (thresholdsFor w.voted) batt = 0 := by
    rw [eq_nominal_iff hstart, toNat_checkBattery_le_iff,
      show w.tick.mission_state = w.mission_state from rfl, hw,
      show w.tick.voted = w.voted from rfl]
    simp only [demanded_le_one_iff]
    exact and_iff_right (by decide)
  have hsystems : ∀ i, (w.tick.checkBattery inp.samples).subsystem i = w.subsystem i := by
    intro i
    rw [subsystem, hbatt.systems_eq]
    rfl
  constructor
  · intro h
    -- Nothing here lowers the state: if it is `NOMINAL` at the end it was so in between.
    have hmiddle : (w.tick.checkBattery inp.samples).mission_state = MissionState.NOMINAL := by
      rw [eq_nominal_iff hstart]
      refine hsub.toNat_le.trans ?_
      rw [show (w.tick.checkBattery inp.samples).checkSubsystems inp = w.beforeRecovery inp from rfl,
        h]
      decide
    refine ⟨hsamples.mp hmiddle, fun i comp hcomp => ?_⟩
    exact (checkSubsystems_nominal_iff _ inp hmiddle).mp h i comp ((hsystems i).trans hcomp)
  · rintro ⟨hcalm, hhealth⟩
    refine (checkSubsystems_nominal_iff _ inp (hsamples.mpr hcalm)).mpr fun i comp hcomp => ?_
    exact hhealth i comp ((hsystems i).symm.trans hcomp)

/-- In `NOMINAL` there is nothing to recover from. -/
theorem afterRecovery_of_nominal {w : WatchdogComponent} {inp : StepInput}
    (h : (w.beforeRecovery inp).mission_state = MissionState.NOMINAL) :
    w.afterRecovery inp = w.beforeRecovery inp := by
  rw [afterRecovery, tryRecoverNominal, if_pos]
  rw [h]
  decide

/-- From `NOMINAL`, the end of a cycle raises the mission state exactly when a parameter check that
is due fails. -/
theorem checkParams_nominal_iff (w : WatchdogComponent) (inp : StepInput)
    (hw : w.mission_state = MissionState.NOMINAL) :
    ((w.checkParams inp).heartbeat inp).mission_state = MissionState.NOMINAL ↔
      (w.cycles % PARAM_CHECK_INTERVAL_CYCLES = 0 → inp.verifyIntegrity = true) := by
  rw [(progress_heartbeat (P := Never) (w.checkParams inp) inp).mission_state_eq]
  constructor
  · intro h hdue
    by_contra hfail
    have hlevel := (w.checkParams_spec inp).2 hdue (Bool.eq_false_of_not_eq_true hfail)
    rw [h] at hlevel
    exact absurd hlevel (by decide)
  · intro hpass
    unfold checkParams
    split_ifs with hdue hfail
    · rw [hpass hdue] at hfail
      cases hfail
    · exact hw
    · exact hw

/-! ## Runs -/

/-- From `NOMINAL`, a call leaves the mission state alone exactly when it is calm. -/
theorem still_apply_iff (w : WatchdogComponent) (hw : w.mission_state = MissionState.NOMINAL)
    (op : WatchdogOp) : Still w (w.apply op) ↔ w.Calm op := by
  cases op with
  | step inp =>
    obtain ⟨hbefore, -, -, hcycles⟩ := w.beforeRecovery_spec inp
    have hafter := (w.progress_afterRecovery inp).path
    have hrest : Follows Legal (w.beforeRecovery inp) (w.step inp) :=
      (w.follows_afterRecovery inp).trans (hafter.mono fun _ _ => Or.inl)
    have hnominal := w.beforeRecovery_nominal_iff inp hw
    have hstep : (w.beforeRecovery inp).mission_state = MissionState.NOMINAL →
        w.step inp = ((w.beforeRecovery inp).checkParams inp).heartbeat inp := by
      intro h
      rw [← afterRecovery_of_nominal h]
      rfl
    -- A raise before the recovery attempt stays in the log, even if it is taken back.
    have hsplit : Still w (w.step inp) ↔ (w.beforeRecovery inp).mission_state =
        MissionState.NOMINAL ∧ Still (w.beforeRecovery inp) (w.step inp) := by
      rw [still_iff_of_follows hbefore hrest, still_iff_of_raise hbefore, hw]
    refine hsplit.trans ?_
    constructor
    · rintro ⟨h, hstill⟩
      obtain ⟨hsamples, hhealth⟩ := hnominal.mp h
      have hend := (mission_state_of_still hrest hstill).trans h
      rw [hstep h, checkParams_nominal_iff _ inp h, hcycles] at hend
      exact ⟨hsamples, hhealth, hend⟩
    · rintro ⟨hsamples, hhealth, hparams⟩
      have h := hnominal.mpr ⟨hsamples, hhealth⟩
      have hend := (checkParams_nominal_iff _ inp h).mpr (by rw [hcycles]; exact hparams)
      rw [← hstep h] at hend
      rw [afterRecovery_of_nominal h] at hafter
      exact ⟨h, (still_iff_of_raise hafter).mpr (hend.trans h.symm)⟩
  | injectBatteryLevel soc =>
    obtain ⟨hprog, hlevel⟩ := w.processBattery_spec soc
    have hge : 1 ≤ (w.processBattery soc).mission_state.toNat := by
      refine le_trans ?_ hprog.toNat_le
      rw [hw]
      decide
    rw [hw] at hlevel
    have hiff := still_iff_of_raise hprog.path
    rw [hw, eq_nominal_iff hge, hlevel, max_le_iff, demanded_le_one_iff] at hiff
    exact hiff.trans (and_iff_right (by decide))
  | pollSchedulerHealth frame_drops =>
    have hpoll := w.progress_pollSchedulerHealth (P := Raise) frame_drops
    refine iff_of_true ((still_iff_of_raise hpoll.path).mpr ?_) trivial
    exact (w.progress_pollSchedulerHealth (P := Never) frame_drops).mission_state_eq
  | pollPortOverflow ov port_name =>
    have hpoll := w.progress_pollPortOverflow (P := Raise) ov port_name
    refine iff_of_true ((still_iff_of_raise hpoll.path).mpr ?_) trivial
    exact (w.progress_pollPortOverflow (P := Never) ov port_name).mission_state_eq
  | eventPort event_out => exact iff_of_true rfl trivial
  | thresholdStores e s d => exact iff_of_true rfl trivial

/-- From `NOMINAL`, a run leaves the mission state alone exactly when all its calls are calm. -/
theorem still_run_iff (w : WatchdogComponent) (hw : w.mission_state = MissionState.NOMINAL)
    (ops : List WatchdogOp) :
    Still w (run WatchdogComponent.apply w ops) ↔ Along WatchdogComponent.apply Calm w ops := by
  induction ops generalizing w with
  | nil => exact iff_of_true rfl trivial
  | cons op ops ih =>
    have hfirst := w.follows_apply op
    rw [run_cons, still_iff_of_follows hfirst (follows_run (w.apply op) ops), Along,
      w.still_apply_iff hw op]
    -- The mission state is still `NOMINAL` after a calm call.
    refine and_congr_right fun hcalm => ih (w.apply op) ?_
    exact (mission_state_of_still hfirst ((w.still_apply_iff hw op).mpr hcalm)).trans hw

end WatchdogComponent

end DeltaV
