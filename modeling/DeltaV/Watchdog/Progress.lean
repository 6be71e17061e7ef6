import DeltaV.Watchdog.Model

/-!
# What one call of the watchdog changes

`Progress P soc w w'` says what every function of the watchdog does to the fields that the mission
state depends on: the assignments it makes form a path from the old mission state to the new one
whose every step satisfies `P`, the last battery sample becomes `soc`, and the registered
subsystems, the cycle count, and the voted thresholds stay. It is proved once for each function. All
of them only raise the mission state, apart from `tryRecoverNominal`, for which
`tryRecoverNominal_cases` gives the exception.
-/

namespace DeltaV

namespace WatchdogComponent

/-! ## Paths of assignments -/

/-- The assignments to the mission state among the actions. -/
def assignments (acts : List WatchdogAction) : List (MissionState × MissionState) :=
  acts.flatMap fun act =>
    match act with
    | WatchdogAction.assigned before after => [(before, after)]
    | _ => []

/-- Assignments of two parts follow each other. -/
theorem assignments_append (acts acts' : List WatchdogAction) :
    assignments (acts ++ acts') = assignments acts ++ assignments acts' := List.flatMap_append

/-- The assignments lead from one state to another, each step satisfying `P`. -/
inductive Path (P : MissionState → MissionState → Prop) :
    MissionState → List (MissionState × MissionState) → MissionState → Prop where
  | nil (a : MissionState) : Path P a [] a
  | cons {a b c : MissionState} {l : List (MissionState × MissionState)} :
    P a b → Path P b l c → Path P a ((a, b) :: l) c

namespace Path

variable {P Q : MissionState → MissionState → Prop} {a b c : MissionState}
  {l l' : List (MissionState × MissionState)}

/-- Paths join. -/
theorem append (h : Path P a l b) (h' : Path P b l' c) : Path P a (l ++ l') c := by
  -- The first path is followed step by step.
  induction h with
  | nil => exact h'
  | cons hp _ ih => exact cons hp (ih h')

/-- A path stays a path under a weaker condition. -/
theorem mono (hPQ : ∀ x y, P x y → Q x y) (h : Path P a l b) : Path Q a l b := by
  induction h with
  | nil a => exact nil a
  | cons hp _ ih => exact cons (hPQ _ _ hp) ih

/-- What every step of a path respects, its ends respect. -/
theorem rel {R : MissionState → MissionState → Prop} (hrefl : ∀ x, R x x)
    (htrans : ∀ {x y z}, R x y → R y z → R x z) (hPR : ∀ x y, P x y → R x y)
    (h : Path P a l b) : R a b := by
  induction h with
  | nil a => exact hrefl a
  | cons hp _ ih => exact htrans (hPR _ _ hp) ih

end Path

/-- An assignment that raises the mission state. -/
def Raise (a b : MissionState) : Prop := a.toNat < b.toNat

/-- No assignment at all. -/
def Never (_ _ : MissionState) : Prop := False

/-- An assignment by which the mission recovers. -/
def Recovery (a b : MissionState) : Prop :=
  (a = MissionState.DEGRADED ∨ a = MissionState.SAFE_MODE) ∧ b = MissionState.NOMINAL

/-- A path of raises ends no lower than it starts. -/
theorem Path.toNat_le {a b : MissionState} {l : List (MissionState × MissionState)}
    (h : Path Raise a l b) : a.toNat ≤ b.toNat :=
  h.rel (R := fun x y => x.toNat ≤ y.toNat) (fun _ => le_rfl) le_trans fun _ _ hr => Nat.le_of_lt hr

/-! ## Thresholds -/

/-- The voted values of the three sources, if they are all there. -/
def voted (w : WatchdogComponent) : Option (Binary32 × Binary32 × Binary32) :=
  match w.batt_emergency_pct_src, w.batt_safe_mode_pct_src, w.batt_degraded_pct_src with
  | some e, some s, some d => some (e.vote, s.vote, d.vote)
  | _, _, _ => none

/-- The thresholds that voted values put in force. -/
def thresholdsFor : Option (Binary32 × Binary32 × Binary32) → BatteryThresholds
  | none => BatteryThresholds.default
  | some (e, s, d) =>
    if (BatteryThresholds.ofLevels e s d).areThresholdsSane = true then
      BatteryThresholds.ofLevels e s d
    else BatteryThresholds.default

/-! ## The relation -/

/-- The assignments made between two states form a path. -/
def Follows (P : MissionState → MissionState → Prop) (w w' : WatchdogComponent) : Prop :=
  ∃ acts, w'.log = w.log ++ acts ∧ Path P w.mission_state (assignments acts) w'.mission_state

/-- What a call does to the fields that the mission state depends on. -/
structure Progress (P : MissionState → MissionState → Prop) (soc : Binary32)
    (w w' : WatchdogComponent) : Prop where
  path : Follows P w w'
  systems_eq : w'.monitored_systems = w.monitored_systems
  cycles_eq : w'.cycles = w.cycles
  voted_eq : w'.voted = w.voted
  soc_eq : w'.last_batt_soc = soc

variable {P : MissionState → MissionState → Prop}

/-- Doing nothing is progress. -/
theorem Progress.refl (w : WatchdogComponent) : Progress P w.last_batt_soc w w :=
  ⟨⟨[], (List.append_nil _).symm, Path.nil _⟩, rfl, rfl, rfl, rfl⟩

/-- Progress adds up. -/
theorem Progress.trans {soc soc' : Binary32} {w w' w'' : WatchdogComponent}
    (h : Progress P soc w w') (h' : Progress P soc' w' w'') : Progress P soc' w w'' := by
  obtain ⟨acts, hlog, hpath⟩ := h.path
  obtain ⟨acts', hlog', hpath'⟩ := h'.path
  refine ⟨⟨acts ++ acts', by rw [hlog', hlog, List.append_assoc], ?_⟩,
    h'.systems_eq.trans h.systems_eq, h'.cycles_eq.trans h.cycles_eq, h'.voted_eq.trans h.voted_eq,
    h'.soc_eq⟩
  rw [assignments_append]
  exact hpath.append hpath'

/-- Progress continues with a call that keeps the last sample. -/
theorem Progress.andThen {soc : Binary32} {w w' w'' : WatchdogComponent}
    (h : Progress P soc w w') (h' : Progress P w'.last_batt_soc w' w'') : Progress P soc w w'' := by
  rw [h.soc_eq] at h'
  exact h.trans h'

/-- Progress by raises does not lower the mission state. -/
theorem Progress.toNat_le {soc : Binary32} {w w' : WatchdogComponent}
    (h : Progress Raise soc w w') : w.mission_state.toNat ≤ w'.mission_state.toNat := by
  obtain ⟨acts, -, hpath⟩ := h.path
  exact hpath.toNat_le

/-- Progress without assignments keeps the mission state. -/
theorem Progress.mission_state_eq {soc : Binary32} {w w' : WatchdogComponent}
    (h : Progress Never soc w w') : w'.mission_state = w.mission_state := by
  obtain ⟨acts, -, hpath⟩ := h.path
  exact hpath.rel (R := fun x y => y = x) (fun _ => rfl) (fun hxy hyz => hyz.trans hxy) nofun

/-- Progress stays progress under a weaker condition on the assignments. -/
theorem Progress.mono {Q : MissionState → MissionState → Prop} (hPQ : ∀ x y, P x y → Q x y)
    {soc : Binary32} {w w' : WatchdogComponent} (h : Progress P soc w w') :
    Progress Q soc w w' := by
  obtain ⟨acts, hlog, hpath⟩ := h.path
  exact ⟨⟨acts, hlog, hpath.mono hPQ⟩, h.systems_eq, h.cycles_eq, h.voted_eq, h.soc_eq⟩

/-! ## The functions -/

/-- An event assigns no mission state. -/
@[simp] theorem mission_state_emit (w : WatchdogComponent) (sev : UInt32) (msg : Text) :
    (w.emit sev msg).mission_state = w.mission_state := by
  simp only [emit]
  split
  · rfl
  · split_ifs <;> rfl

/-- An event assigns nothing. -/
theorem progress_emit (w : WatchdogComponent) (sev : UInt32) (msg : Text) :
    Progress P w.last_batt_soc w (w.emit sev msg) := by
  simp only [emit]
  split
  · exact ⟨⟨_, rfl, Path.nil _⟩, rfl, rfl, rfl, rfl⟩
  · split_ifs <;> exact ⟨⟨_, rfl, Path.nil _⟩, rfl, rfl, rfl, rfl⟩

/-- Counting an error assigns nothing. -/
theorem progress_recordError (w : WatchdogComponent) :
    Progress P w.last_batt_soc w w.recordError :=
  ⟨⟨[], (List.append_nil _).symm, Path.nil _⟩, rfl, rfl, rfl, rfl⟩

/-- One assignment is a path of one step. -/
theorem progress_setMissionState (w : WatchdogComponent) (next : MissionState)
    (h : P w.mission_state next) : Progress P w.last_batt_soc w (w.setMissionState next) :=
  ⟨⟨_, rfl, Path.cons h (Path.nil _)⟩, rfl, rfl, rfl, rfl⟩

/-- An escalation raises the mission state if it does anything. -/
theorem progress_escalate (w : WatchdogComponent) (next : MissionState) :
    Progress Raise w.last_batt_soc w (w.escalate next) := by
  unfold escalate
  split_ifs with h
  · exact (w.progress_setMissionState next h).andThen (progress_emit _ _ _)
  · exact Progress.refl w

/-- After an escalation the mission state is at least `next`. -/
theorem toNat_escalate (w : WatchdogComponent) (next : MissionState) :
    (w.escalate next).mission_state.toNat = max w.mission_state.toNat next.toNat := by
  unfold escalate
  split_ifs with h
  · rw [mission_state_emit, max_eq_right h.le]
    rfl
  · rw [max_eq_left (not_lt.mp h)]

/-- An event after which the mission state is escalated. -/
theorem progress_emit_escalate (w : WatchdogComponent) (sev : UInt32) (msg : Text)
    (next : MissionState) :
    Progress Raise w.last_batt_soc w ((w.emit sev msg).escalate next) :=
  (w.progress_emit sev msg).andThen (progress_escalate _ next)

/-- Checking thresholds assigns nothing. -/
theorem progress_checkThresholds (w : WatchdogComponent) (thresholds : BatteryThresholds) :
    Progress P w.last_batt_soc w (w.checkThresholds thresholds).2 := by
  unfold checkThresholds
  split_ifs
  · have h : Progress P w.last_batt_soc w (w.emit Severity.CRITICAL
        (ascii "FDIR: Invalid battery thresholds. Using defaults.")).recordError :=
      (w.progress_emit _ _).andThen (progress_recordError _)
    -- The latch is none of the fields that progress is about.
    exact ⟨h.path, h.systems_eq, h.cycles_eq, h.voted_eq, h.soc_eq⟩
  · exact Progress.refl w
  · have h : Progress P w.last_batt_soc w (w.emit Severity.INFO
        (ascii "FDIR: Battery threshold config restored.")) := w.progress_emit _ _
    exact ⟨h.path, h.systems_eq, h.cycles_eq, h.voted_eq, h.soc_eq⟩
  · exact Progress.refl w

/-- The thresholds that pass or replace the checked ones. -/
theorem checkThresholds_fst (w : WatchdogComponent) (thresholds : BatteryThresholds) :
    (w.checkThresholds thresholds).1 =
      if thresholds.areThresholdsSane = true then thresholds else BatteryThresholds.default := by
  unfold checkThresholds
  rcases thresholds.areThresholdsSane with _ | _ <;> rfl

/-- The thresholds in force are those of the voted values, and reading them assigns nothing and
leaves the votes alone. -/
theorem currentBatteryThresholds_spec (w : WatchdogComponent) :
    w.currentBatteryThresholds.1 = thresholdsFor w.voted ∧
      Progress P w.last_batt_soc w w.currentBatteryThresholds.2 := by
  rcases he : w.batt_emergency_pct_src with _ | e <;>
    rcases hs : w.batt_safe_mode_pct_src with _ | s <;>
    rcases hd : w.batt_degraded_pct_src with _ | d
  case some.some.some =>
    have hvoted : w.voted = some (e.vote, s.vote, d.vote) := by simp only [voted, he, hs, hd]
    simp only [currentBatteryThresholds, he, hs, hd]
    constructor
    · rw [checkThresholds_fst, hvoted]
      rfl
    · set w₁ : WatchdogComponent := { w with
        batt_emergency_pct_src := some e.read.2
        batt_safe_mode_pct_src := some s.read.2
        batt_degraded_pct_src := some d.read.2 } with hw₁
      -- A read repairs the copies and leaves the votes alone.
      have hread : Progress P w.last_batt_soc w w₁ := by
        refine ⟨⟨[], (List.append_nil _).symm, Path.nil _⟩, rfl, rfl, ?_, rfl⟩
        rw [hvoted]
        simp only [voted, hw₁, TmrStore.vote_read]
      exact hread.andThen (w₁.progress_checkThresholds _)
  all_goals
    have hvoted : w.voted = none := by simp only [voted, he, hs, hd]
    -- One missing source is enough for the built-in thresholds.
    simp only [currentBatteryThresholds, he, hs, hd, hvoted]
    exact ⟨rfl, Progress.refl w⟩

/-! ## Battery samples -/

/-- The level that a sample demands under given thresholds. -/
def demanded (t : BatteryThresholds) (batt : Binary32) : ℕ :=
  if batt ≤ t.emergency_pct then MissionState.EMERGENCY.toNat
  else if batt ≤ t.safe_mode_pct then MissionState.SAFE_MODE.toNat
  else if batt ≤ t.degraded_pct then MissionState.DEGRADED.toNat
  else 0

/-- A sample only raises the mission state, and raises it to what the sample demands. -/
theorem processBattery_spec (w : WatchdogComponent) (batt : Binary32) :
    Progress Raise batt w (w.processBattery batt) ∧
      (w.processBattery batt).mission_state.toNat =
        max w.mission_state.toNat (demanded (thresholdsFor w.voted) batt) := by
  obtain ⟨hfst, hprog⟩ := w.currentBatteryThresholds_spec (P := Raise)
  have hstate : w.currentBatteryThresholds.2.mission_state = w.mission_state :=
    w.currentBatteryThresholds_spec.2.mission_state_eq
  set w₁ : WatchdogComponent := { w.currentBatteryThresholds.2 with last_batt_soc := batt } with hw₁
  have hsample : Progress Raise batt w w₁ :=
    ⟨hprog.path, hprog.systems_eq, hprog.cycles_eq, hprog.voted_eq, rfl⟩
  unfold processBattery demanded
  simp only [← hfst]
  -- The alarm levels, the most severe first, and no alarm.
  split_ifs
  · refine ⟨hsample.andThen (w₁.progress_emit_escalate _ _ _), ?_⟩
    rw [toNat_escalate, mission_state_emit, ← hstate]
  · refine ⟨hsample.andThen (w₁.progress_emit_escalate _ _ _), ?_⟩
    rw [toNat_escalate, mission_state_emit, ← hstate]
  · refine ⟨hsample.andThen (w₁.progress_emit_escalate _ _ _), ?_⟩
    rw [toNat_escalate, mission_state_emit, ← hstate]
  · refine ⟨hsample, ?_⟩
    rw [max_eq_left (Nat.zero_le _), ← hstate]

/-- Draining samples only raises the mission state. -/
theorem progress_checkBattery (w : WatchdogComponent) (samples : List Binary32) :
    Progress Raise (samples.getLastD w.last_batt_soc) w (w.checkBattery samples) := by
  induction samples generalizing w with
  | nil => exact Progress.refl w
  | cons batt samples ih =>
    have h := (w.processBattery_spec batt).1
    have ih' := ih (w.processBattery batt)
    -- Each sample replaces the one before it.
    rw [h.soc_eq] at ih'
    rw [List.getLastD_cons]
    exact h.trans ih'

/-! ## Subsystems -/

/-- Handling a failed subsystem only raises the mission state. -/
theorem progress_handleCritical (w : WatchdogComponent) (idx : ℕ) (errorCount : UInt32) :
    Progress Raise w.last_batt_soc w (w.handleCritical idx errorCount) := by
  unfold handleCritical
  split
  · exact Progress.refl w
  · rename_i comp hcomp
    simp only
    set w₁ := w.emit Severity.CRITICAL (snprintf EVENT_MSG_SIZE (ascii "FDIR: CRIT " ++
      cstr comp.name ++ ascii " (" ++ decimal errorCount.toNat ++ ascii ")")) with hw₁
    have hemit : Progress Raise w.last_batt_soc w w₁ := w.progress_emit _ _
    split_ifs
    · -- A restart touches the counter and the log, and assigns nothing.
      have hrestart : Progress Raise w₁.last_batt_soc w₁ { w₁ with
          restart_counts := Function.update w₁.restart_counts idx (w₁.restart_counts idx + 1)
          log := w₁.log ++ [WatchdogAction.restarted idx] } :=
        ⟨⟨_, rfl, Path.nil _⟩, rfl, rfl, rfl, rfl⟩
      exact (hemit.andThen hrestart).andThen (progress_emit _ _ _)
    · exact hemit.andThen (w₁.progress_emit_escalate _ _ _)
    · exact hemit

/-- One pass of the loop only raises the mission state. -/
theorem progress_checkSubsystem (inp : StepInput) (acc : WatchdogComponent × Bool × Bool) (i : ℕ) :
    Progress Raise acc.1.last_batt_soc acc.1 (checkSubsystem inp acc i).1 := by
  unfold checkSubsystem
  split
  · exact Progress.refl _
  · split
    · exact acc.1.progress_handleCritical i _
    · exact acc.1.progress_emit _ _
    · exact Progress.refl _

/-- The loop, which carries two flags besides the state, only raises the mission state. -/
theorem progress_foldl_checkSubsystem (inp : StepInput) (is : List ℕ)
    (acc : WatchdogComponent × Bool × Bool) :
    Progress Raise acc.1.last_batt_soc acc.1 (is.foldl (checkSubsystem inp) acc).1 := by
  induction is generalizing acc with
  | nil => exact Progress.refl _
  | cons i is ih => exact (progress_checkSubsystem inp acc i).andThen (ih (checkSubsystem inp acc i))

/-- Asking the subsystems for their health only raises the mission state. -/
theorem progress_checkSubsystems (w : WatchdogComponent) (inp : StepInput) :
    Progress Raise w.last_batt_soc w (w.checkSubsystems inp) := by
  have h := progress_foldl_checkSubsystem inp (List.range w.monitored_systems.length)
    (w, false, false)
  simp only [checkSubsystems]
  split_ifs
  · exact h.andThen (progress_escalate _ _)
  · exact h.andThen (progress_escalate _ _)
  · exact h

/-! ## Recovery -/

/-- The conditions of a recovery: the mission is in a state that can be left, every registered
subsystem that is not null answers `NOMINAL`, and the last sample is above the recovery threshold.
-/
structure MayRecover (w : WatchdogComponent) (inp : StepInput) : Prop where
  state : w.mission_state = MissionState.DEGRADED ∨ w.mission_state = MissionState.SAFE_MODE
  health : ∀ i comp, w.monitored_systems[i]? = some (some comp) →
    inp.recoveryHealth i = HealthStatus.NOMINAL
  battery : w.currentBatteryThresholds.1.recover_nominal_pct < w.last_batt_soc

/-- `tryRecoverNominal` recovers exactly when its conditions hold, and otherwise assigns nothing. -/
theorem tryRecoverNominal_cases (w : WatchdogComponent) (inp : StepInput) :
    (¬w.MayRecover inp ∧ Progress Never w.last_batt_soc w (w.tryRecoverNominal inp)) ∨
      (w.MayRecover inp ∧ (w.tryRecoverNominal inp).mission_state = MissionState.NOMINAL ∧
        Progress Recovery w.last_batt_soc w (w.tryRecoverNominal inp)) := by
  unfold tryRecoverNominal
  split_ifs with hstate
  · refine Or.inl ⟨fun h => ?_, Progress.refl w⟩
    rcases h.state with h' | h'
    · exact hstate.1 h'
    · exact hstate.2 h'
  · have hin : w.mission_state = MissionState.DEGRADED ∨
        w.mission_state = MissionState.SAFE_MODE := by
      by_contra h
      exact hstate (not_or.mp h)
    obtain ⟨-, hprog⟩ := w.currentBatteryThresholds_spec (P := Never)
    simp only
    -- The loop over the indices asks every subsystem that is not null.
    have hall : ((List.range w.monitored_systems.length).all fun i =>
        (w.subsystem i).isNone || decide (inp.recoveryHealth i = HealthStatus.NOMINAL)) = true ↔
        ∀ i comp, w.monitored_systems[i]? = some (some comp) →
          inp.recoveryHealth i = HealthStatus.NOMINAL := by
      rw [List.all_eq_true]
      constructor
      · intro h i comp hi
        have hlt := (List.getElem?_eq_some_iff.mp hi).1
        have := h i (List.mem_range.mpr hlt)
        simpa [subsystem, hi] using this
      · intro h i _
        rcases hi : w.subsystem i with _ | comp
        · rfl
        · have hget : w.monitored_systems[i]? = some (some comp) := by
            simpa [subsystem, Option.join_eq_some_iff] using hi
          simp [h i comp hget]
    split_ifs with hcond <;> rw [hall, hprog.soc_eq] at hcond
    · -- The event comes before the assignment.
      refine Or.inr ⟨⟨hin, hcond.1, hcond.2⟩, rfl, ?_⟩
      have hemit : Progress Recovery w.last_batt_soc w
          (w.currentBatteryThresholds.2.emit Severity.INFO (ascii "FDIR: Recovery -> NOMINAL")) :=
        (hprog.mono nofun).andThen (progress_emit _ _ _)
      refine hemit.andThen (progress_setMissionState _ _ ⟨?_, rfl⟩)
      rwa [mission_state_emit, hprog.mission_state_eq]
    · exact Or.inl ⟨fun h => hcond ⟨h.health, h.battery⟩, hprog⟩

/-! ## The rest of a cycle -/

/-- The parameter check only raises the mission state, and a failed one to `SAFE_MODE` at least. -/
theorem checkParams_spec (w : WatchdogComponent) (inp : StepInput) :
    Progress Raise w.last_batt_soc w (w.checkParams inp) ∧
      (w.cycles % PARAM_CHECK_INTERVAL_CYCLES = 0 → inp.verifyIntegrity = false →
        MissionState.SAFE_MODE.toNat ≤ (w.checkParams inp).mission_state.toNat) := by
  -- Only stores in the registry are scrubbed, and a scrub keeps the vote.
  have hscrub : ∀ w' : WatchdogComponent, w'.scrubAll.voted = w'.voted := by
    intro w'
    have hvote : ∀ s : TmrStore Binary32,
        (if s.registered_with_registry = true then s.scrub else s).vote = s.vote := by
      intro s
      split_ifs
      · exact s.vote_scrub
      · rfl
    rcases he : w'.batt_emergency_pct_src with _ | e <;>
      rcases hs : w'.batt_safe_mode_pct_src with _ | s <;>
      rcases hd : w'.batt_degraded_pct_src with _ | d <;>
      simp [voted, scrubAll, he, hs, hd, hvote]
  unfold checkParams
  split_ifs with hcycle hintegrity
  · have h := w.progress_emit_escalate Severity.CRITICAL (ascii "FDIR: ParamDb CRC mismatch!")
      MissionState.SAFE_MODE
    refine ⟨⟨h.path, h.systems_eq, h.cycles_eq, (hscrub _).trans h.voted_eq, h.soc_eq⟩,
      fun _ _ => ?_⟩
    calc MissionState.SAFE_MODE.toNat ≤ max _ MissionState.SAFE_MODE.toNat := le_max_right _ _
      _ = _ := (toNat_escalate _ _).symm
  · have h : Progress Raise w.last_batt_soc w w := Progress.refl w
    exact ⟨⟨h.path, rfl, rfl, hscrub w, rfl⟩, fun _ hfalse => absurd hfalse hintegrity⟩
  · exact ⟨Progress.refl w, fun h => absurd h hcycle⟩

/-- The heartbeat assigns nothing. -/
theorem progress_heartbeat (w : WatchdogComponent) (inp : StepInput) :
    Progress P w.last_batt_soc w (w.heartbeat inp) := by
  unfold heartbeat
  split_ifs
  · exact w.progress_emit _ _
  · exact Progress.refl w

/-- Polling the scheduler assigns nothing. -/
theorem progress_pollSchedulerHealth (w : WatchdogComponent) (frame_drops : UInt64) :
    Progress P w.last_batt_soc w (w.pollSchedulerHealth frame_drops) := by
  unfold pollSchedulerHealth
  split_ifs
  · have h : Progress P w.last_batt_soc w { w with last_frame_drops := frame_drops } :=
      ⟨⟨[], (List.append_nil _).symm, Path.nil _⟩, rfl, rfl, rfl, rfl⟩
    exact (h.andThen (progress_emit _ _ _)).andThen (progress_recordError _)
  · exact Progress.refl w

/-- Polling a port assigns nothing. -/
theorem progress_pollPortOverflow (w : WatchdogComponent) (ov : UInt32) (port_name : Text) :
    Progress P w.last_batt_soc w (w.pollPortOverflow ov port_name) := by
  unfold pollPortOverflow
  split_ifs
  · exact (w.progress_emit _ _).andThen (progress_recordError _)
  · exact Progress.refl w

end WatchdogComponent

end DeltaV
