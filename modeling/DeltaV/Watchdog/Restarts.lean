import DeltaV.Watchdog.MissionState

/-!
# The restart budget

The calls that the watchdog makes on a subsystem are read off its log: a restart joins the thread,
clears the errors, and starts the thread. A subsystem is named by the position at which it is
registered. Whatever else happens, a position is restarted as often as its counter says
(`BudgetKept`), a cycle restarts it exactly when the pass sees the failure of an active subsystem
with budget left (`record_step`), and a failure without budget raises the mission state to
`EMERGENCY` (`mission_state_step_of_exhausted`), which is never left.
-/

namespace DeltaV

/-- A call on the subsystem at a position. -/
inductive SubsystemCall where
  | joinThread (idx : ℕ)
  | clearErrors (idx : ℕ)
  | startThread (idx : ℕ)
deriving DecidableEq, Repr

/-- The calls of one restart, in their order. -/
def restartCalls (idx : ℕ) : List SubsystemCall :=
  [SubsystemCall.joinThread idx, SubsystemCall.clearErrors idx, SubsystemCall.startThread idx]

namespace WatchdogAction

/-- The calls on the subsystem at a position that an action stands for. -/
def callsOn (i : ℕ) : WatchdogAction → List SubsystemCall
  | restarted idx => if idx = i then restartCalls idx else []
  | _ => []

end WatchdogAction

/-- What can happen to a watchdog after `init()`, with the registration of further subsystems. -/
inductive SupervisionOp where
  | registerSubsystem (comp : Option Subsystem)
  | call (op : WatchdogOp)

namespace WatchdogComponent

/-- The next state. -/
def supervise (w : WatchdogComponent) : SupervisionOp → WatchdogComponent
  | SupervisionOp.registerSubsystem comp => w.registerSubsystem comp
  | SupervisionOp.call op => w.apply op

/-- The calls made so far on the subsystem at a position. -/
def callsOn (w : WatchdogComponent) (i : ℕ) : List SubsystemCall :=
  w.log.flatMap (WatchdogAction.callsOn i)

/-- Whether there is an active subsystem at a position. -/
def activeAt (w : WatchdogComponent) (i : ℕ) : Bool := (w.subsystem i).any Subsystem.isActive

/-- What is recorded about the restarts of a position. -/
def record (w : WatchdogComponent) (i : ℕ) : UInt32 × List SubsystemCall :=
  (w.restart_counts i, w.callsOn i)

/-! ## Functions that restart nothing -/

/-- An event restarts nothing. -/
@[simp] theorem record_emit (w : WatchdogComponent) (sev : UInt32) (msg : Text) :
    (w.emit sev msg).record = w.record := by
  funext i
  simp only [emit]
  split
  · simp [record, callsOn, recordError, WatchdogAction.callsOn]
  · split_ifs <;> simp [record, callsOn, recordError, WatchdogAction.callsOn]

/-- An error restarts nothing. -/
@[simp] theorem record_recordError (w : WatchdogComponent) : w.recordError.record = w.record := rfl

/-- A mission state restarts nothing. -/
@[simp] theorem record_setMissionState (w : WatchdogComponent) (next : MissionState) :
    (w.setMissionState next).record = w.record := by
  funext i
  simp [record, callsOn, setMissionState, WatchdogAction.callsOn]

/-- `init()` restarts nothing. -/
theorem record_init (w : WatchdogComponent) : w.init.record = w.record := by
  unfold init
  rw [record_emit]
  exact w.record_setMissionState MissionState.NOMINAL

/-- An escalation restarts nothing. -/
@[simp] theorem record_escalate (w : WatchdogComponent) (next : MissionState) :
    (w.escalate next).record = w.record := by
  unfold escalate
  split_ifs <;> simp

/-- Checking the thresholds restarts nothing. -/
theorem record_checkThresholds (w : WatchdogComponent) (thresholds : BatteryThresholds) :
    (w.checkThresholds thresholds).2.record = w.record := by
  unfold checkThresholds
  split_ifs
  · -- The record does not depend on the latch.
    exact w.record_emit Severity.CRITICAL
      (ascii "FDIR: Invalid battery thresholds. Using defaults.")
  · rfl
  · exact w.record_emit Severity.INFO (ascii "FDIR: Battery threshold config restored.")
  · rfl

/-- Reading the thresholds restarts nothing. -/
theorem record_currentBatteryThresholds (w : WatchdogComponent) :
    w.currentBatteryThresholds.2.record = w.record := by
  unfold currentBatteryThresholds
  split
  · rw [record_checkThresholds]
    rfl
  · rfl

/-- A battery sample restarts nothing. -/
theorem record_processBattery (w : WatchdogComponent) (batt : Binary32) :
    (w.processBattery batt).record = w.record := by
  rw [← w.record_currentBatteryThresholds]
  unfold processBattery
  dsimp only
  split_ifs
  · rw [record_escalate, record_emit]
    rfl
  · rw [record_escalate, record_emit]
    rfl
  · rw [record_escalate, record_emit]
    rfl
  · rfl

/-- Battery samples restart nothing. -/
theorem record_checkBattery (w : WatchdogComponent) (samples : List Binary32) :
    (w.checkBattery samples).record = w.record := by
  unfold checkBattery
  induction samples generalizing w with
  | nil => rfl
  | cons batt samples ih => rw [List.foldl_cons, ih, record_processBattery]

/-- A recovery restarts nothing. -/
theorem record_tryRecoverNominal (w : WatchdogComponent) (inp : StepInput) :
    (w.tryRecoverNominal inp).record = w.record := by
  unfold tryRecoverNominal
  dsimp only
  split_ifs <;> simp [record_currentBatteryThresholds]

/-- Checking the parameters restarts nothing. -/
theorem record_checkParams (w : WatchdogComponent) (inp : StepInput) :
    (w.checkParams inp).record = w.record := by
  have hscrub (w : WatchdogComponent) : w.scrubAll.record = w.record := rfl
  unfold checkParams
  split_ifs <;> simp [hscrub]

/-- A heartbeat restarts nothing. -/
theorem record_heartbeat (w : WatchdogComponent) (inp : StepInput) :
    (w.heartbeat inp).record = w.record := by
  unfold heartbeat
  split_ifs <;> simp

/-! ## The pass over the subsystems -/

/-- A restart of the position is due: the pass sees the failure of an active subsystem with budget
left. -/
def RestartDue (w : WatchdogComponent) (inp : StepInput) (i : ℕ) : Prop :=
  w.activeAt i = true ∧ inp.health i = HealthStatus.CRITICAL_FAILURE ∧
    w.restart_counts i < MAX_RESTARTS_PER_COMPONENT

instance (w : WatchdogComponent) (inp : StepInput) (i : ℕ) : Decidable (w.RestartDue inp i) :=
  inferInstanceAs (Decidable (_ ∧ _))

/-- The record after a restart. -/
def restarted (i : ℕ) (r : UInt32 × List SubsystemCall) : UInt32 × List SubsystemCall :=
  (r.1 + 1, r.2 ++ restartCalls i)

/-- A failed subsystem is restarted while there is budget, and nothing else is. -/
theorem record_handleCritical (w : WatchdogComponent) (idx : ℕ) (errorCount : UInt32) (i : ℕ) :
    (w.handleCritical idx errorCount).record i =
      if i = idx ∧ w.activeAt idx = true ∧ w.restart_counts idx < MAX_RESTARTS_PER_COMPONENT then
        restarted i (w.record i)
      else w.record i := by
  unfold handleCritical activeAt
  rcases hcomp : w.subsystem idx with _ | comp
  · simp
  · simp only [Option.any_some]
    set w₁ := w.emit Severity.CRITICAL (snprintf EVENT_MSG_SIZE (ascii "FDIR: CRIT " ++
      cstr comp.name ++ ascii " (" ++ decimal errorCount.toNat ++ ascii ")")) with hw₁
    -- The first event changes no record, so the budget is what it was.
    have hrecord : w₁.record = w.record := w.record_emit _ _
    have hcount : w₁.restart_counts = w.restart_counts :=
      funext fun j => congrArg Prod.fst (congrFun hrecord j)
    rw [hcount]
    by_cases hactive : comp.isActive = true
    · by_cases hbudget : w.restart_counts idx < MAX_RESTARTS_PER_COMPONENT
      · -- The restart counts at its own position and nowhere else.
        rw [if_pos hactive, if_pos hbudget, record_emit]
        rcases eq_or_ne i idx with rfl | hne
        · rw [if_pos ⟨rfl, hactive, hbudget⟩, ← hrecord]
          simp [record, restarted, callsOn, WatchdogAction.callsOn, hcount]
        · rw [if_neg fun h => hne h.1, ← hrecord]
          simp [record, callsOn, WatchdogAction.callsOn, hcount, hne, hne.symm]
      · rw [if_pos hactive, if_neg hbudget, if_neg fun h => hbudget h.2.2, record_escalate,
          record_emit, hrecord]
    · rw [if_neg hactive, if_neg fun h => hactive h.2.1, hrecord]

/-- One pass of the loop restarts its subsystem if that is due, and nothing else. -/
theorem record_checkSubsystem (inp : StepInput) (acc : WatchdogComponent × Bool × Bool)
    (idx i : ℕ) :
    (checkSubsystem inp acc idx).1.record i =
      if i = idx ∧ acc.1.RestartDue inp idx then restarted i (acc.1.record i)
      else acc.1.record i := by
  unfold checkSubsystem
  rcases hcomp : acc.1.subsystem idx with _ | comp
  · simp [RestartDue, activeAt, hcomp]
  · rcases hhealth : inp.health idx with _ | _ | _
    · simp [RestartDue, hhealth]
    · simp [RestartDue, hhealth]
    · simp only [record_handleCritical, RestartDue, hhealth, true_and]

/-- A pass over different positions restarts those where that is due, once each. -/
theorem record_foldl_checkSubsystem (inp : StepInput) {is : List ℕ} (hnodup : is.Nodup)
    (acc : WatchdogComponent × Bool × Bool) (i : ℕ) :
    (is.foldl (checkSubsystem inp) acc).1.record i =
      if i ∈ is ∧ acc.1.RestartDue inp i then restarted i (acc.1.record i)
      else acc.1.record i := by
  induction is generalizing acc with
  | nil => simp
  | cons idx is ih =>
    obtain ⟨hidx, his⟩ := List.nodup_cons.mp hnodup
    have hpass := record_checkSubsystem inp acc idx i
    have hsystems := (progress_checkSubsystem inp acc idx).systems_eq
    rw [List.foldl_cons, ih his]
    rcases eq_or_ne i idx with rfl | hne
    · -- The position does not come again.
      simp only [hidx, false_and, if_false, List.mem_cons_self, true_and, hpass]
    · -- The pass does not concern the position.
      rw [if_neg fun h => hne h.1] at hpass
      have hdue : (checkSubsystem inp acc idx).1.RestartDue inp i ↔ acc.1.RestartDue inp i := by
        have hcount : (checkSubsystem inp acc idx).1.restart_counts i = acc.1.restart_counts i :=
          congrArg Prod.fst hpass
        unfold RestartDue activeAt subsystem
        rw [hsystems, hcount]
      simp only [hpass, hdue, List.mem_cons, hne, false_or]

/-- A component is active exactly when one is registered there that is. -/
theorem activeAt_iff {w : WatchdogComponent} {i : ℕ} :
    w.activeAt i = true ↔ ∃ comp, w.subsystem i = some comp ∧ comp.isActive = true := by
  unfold activeAt
  rcases w.subsystem i with _ | comp <;> simp

/-- An active subsystem is registered. -/
theorem lt_of_activeAt {w : WatchdogComponent} {i : ℕ} (h : w.activeAt i = true) :
    i < w.monitored_systems.length := by
  by_contra hge
  have hnone : w.monitored_systems[i]? = none := List.getElem?_eq_none (not_lt.mp hge)
  simp [activeAt, subsystem, hnone] at h

/-- The pass restarts every position where that is due. -/
theorem record_checkSubsystems (w : WatchdogComponent) (inp : StepInput) (i : ℕ) :
    (w.checkSubsystems inp).record i =
      if w.RestartDue inp i then restarted i (w.record i) else w.record i := by
  have h := record_foldl_checkSubsystem inp (List.nodup_range (n := w.monitored_systems.length))
    (w, false, false) i
  have hmem : (i ∈ List.range w.monitored_systems.length ∧ w.RestartDue inp i) ↔
      w.RestartDue inp i :=
    and_iff_right_of_imp fun hdue => List.mem_range.mpr (lt_of_activeAt hdue.1)
  simp only [hmem] at h
  rw [← h]
  unfold checkSubsystems
  dsimp only
  split_ifs
  · rw [record_escalate]
  · rw [record_escalate]
  · rfl

/-- Before the pass of a cycle nothing is restarted. -/
theorem restartDue_checkBattery (w : WatchdogComponent) (inp : StepInput) (i : ℕ) :
    (w.tick.checkBattery inp.samples).RestartDue inp i ↔ w.RestartDue inp i := by
  have hsystems := (w.tick.progress_checkBattery inp.samples).systems_eq
  have hcount : (w.tick.checkBattery inp.samples).restart_counts i = w.restart_counts i :=
    congrArg Prod.fst (congrFun (w.tick.record_checkBattery inp.samples) i)
  unfold RestartDue activeAt subsystem
  rw [hsystems, hcount]
  rfl

/-- A cycle restarts every position where that is due. -/
theorem record_step (w : WatchdogComponent) (inp : StepInput) (i : ℕ) :
    (w.step inp).record i =
      if w.RestartDue inp i then restarted i (w.record i) else w.record i := by
  unfold step
  rw [record_heartbeat, record_checkParams, record_tryRecoverNominal, record_checkSubsystems,
    record_checkBattery]
  simp only [restartDue_checkBattery]
  rfl

/-- Other calls restart nothing. -/
theorem record_apply (w : WatchdogComponent) (op : WatchdogOp)
    (h : ∀ inp, op ≠ WatchdogOp.step inp) : (w.apply op).record = w.record := by
  cases op with
  | step inp => exact absurd rfl (h inp)
  | injectBatteryLevel soc => exact w.record_processBattery soc
  | pollSchedulerHealth frame_drops =>
    unfold apply pollSchedulerHealth
    dsimp only
    split_ifs
    · rw [record_recordError, record_emit]
      rfl
    · rfl
  | pollPortOverflow ov port_name =>
    unfold apply pollPortOverflow
    dsimp only
    split_ifs
    · rw [record_recordError, record_emit]
    · rfl
  | eventPort event_out => rfl
  | thresholdStores e s d => rfl

/-! ## Exhausted budgets -/

/-- The pass sees the failure of an active subsystem without budget. -/
def Exhausted (w : WatchdogComponent) (inp : StepInput) (i : ℕ) : Prop :=
  w.activeAt i = true ∧ inp.health i = HealthStatus.CRITICAL_FAILURE ∧
    ¬w.restart_counts i < MAX_RESTARTS_PER_COMPONENT

/-- Nothing is above `EMERGENCY`. -/
theorem eq_emergency_of_toNat_le {a b : MissionState} (h : a.toNat ≤ b.toNat)
    (ha : a = MissionState.EMERGENCY) : b = MissionState.EMERGENCY := by
  subst ha
  cases b <;> simp [MissionState.toNat] at h ⊢

/-- A pass at a position without budget ends in `EMERGENCY`. -/
theorem mission_state_checkSubsystem_of_exhausted {inp : StepInput}
    {acc : WatchdogComponent × Bool × Bool} {i : ℕ} (h : acc.1.Exhausted inp i) :
    (checkSubsystem inp acc i).1.mission_state = MissionState.EMERGENCY := by
  obtain ⟨hactive, hhealth, hbudget⟩ := h
  obtain ⟨comp, hcomp, hcompActive⟩ := activeAt_iff.mp hactive
  unfold checkSubsystem
  simp only [hcomp, hhealth]
  unfold handleCritical
  simp only [hcomp]
  have hcount (sev : UInt32) (msg : Text) :
      (acc.1.emit sev msg).restart_counts = acc.1.restart_counts :=
    funext fun j => congrArg Prod.fst (congrFun (acc.1.record_emit sev msg) j)
  rw [if_pos hcompActive, hcount, if_neg hbudget]
  refine eq_emergency_of_toNat_le ?_ rfl
  calc MissionState.EMERGENCY.toNat ≤ max _ MissionState.EMERGENCY.toNat := le_max_right _ _
    _ = _ := (toNat_escalate _ _).symm

/-- A failure without budget ends the loop in `EMERGENCY`. -/
theorem mission_state_checkSubsystems_of_exhausted {w : WatchdogComponent} {inp : StepInput} {i : ℕ}
    (h : w.Exhausted inp i) :
    (w.checkSubsystems inp).mission_state = MissionState.EMERGENCY := by
  obtain ⟨pre, post, hsplit⟩ :=
    List.append_of_mem (List.mem_range.mpr (lt_of_activeAt h.1))
  have hnodup := List.nodup_range (n := w.monitored_systems.length)
  rw [hsplit] at hnodup
  have hpre : i ∉ pre := fun hmem =>
    (List.nodup_append.mp hnodup).2.2 i hmem i List.mem_cons_self rfl
  -- Up to the position its counter is what it was.
  set acc := pre.foldl (checkSubsystem inp) (w, false, false) with hacc
  have hrecord :=
    record_foldl_checkSubsystem inp (List.nodup_append.mp hnodup).1 (w, false, false) i
  rw [if_neg fun hmem => hpre hmem.1] at hrecord
  have hexhausted : acc.1.Exhausted inp i := by
    have hsystems := (progress_foldl_checkSubsystem inp pre (w, false, false)).systems_eq
    have hcount : acc.1.restart_counts i = w.restart_counts i := congrArg Prod.fst hrecord
    unfold Exhausted activeAt subsystem at h ⊢
    rwa [hcount, hsystems]
  have hloop : ((List.range w.monitored_systems.length).foldl (checkSubsystem inp)
      (w, false, false)).1.mission_state = MissionState.EMERGENCY := by
    rw [hsplit, List.foldl_append, List.foldl_cons]
    exact eq_emergency_of_toNat_le (progress_foldl_checkSubsystem inp post _).toNat_le
      (mission_state_checkSubsystem_of_exhausted hexhausted)
  unfold checkSubsystems
  dsimp only
  split_ifs
  · exact eq_emergency_of_toNat_le (progress_escalate _ _).toNat_le hloop
  · exact eq_emergency_of_toNat_le (progress_escalate _ _).toNat_le hloop
  · exact hloop

/-- A failure without budget ends the cycle in `EMERGENCY`. -/
theorem mission_state_step_of_exhausted {w : WatchdogComponent} {inp : StepInput} {i : ℕ}
    (h : w.Exhausted inp i) : (w.step inp).mission_state = MissionState.EMERGENCY := by
  have hbefore : (w.tick.checkBattery inp.samples).Exhausted inp i := by
    have hsystems := (w.tick.progress_checkBattery inp.samples).systems_eq
    have hcount : (w.tick.checkBattery inp.samples).restart_counts i = w.restart_counts i :=
      congrArg Prod.fst (congrFun (w.tick.record_checkBattery inp.samples) i)
    unfold Exhausted activeAt subsystem at h ⊢
    rw [hsystems, hcount]
    exact h
  have hpass : (w.beforeRecovery inp).mission_state = MissionState.EMERGENCY :=
    mission_state_checkSubsystems_of_exhausted hbefore
  have hrecovery := (w.follows_afterRecovery inp).keeps.1 hpass
  exact eq_emergency_of_toNat_le (w.progress_afterRecovery inp).toNat_le hrecovery

/-! ## Runs -/

/-- The budget of a position: it has been restarted as often as its counter says, not more often
than allowed, and only if it is active. -/
structure BudgetKept (w : WatchdogComponent) (i : ℕ) : Prop where
  count_le : (w.restart_counts i).toNat ≤ MAX_RESTARTS_PER_COMPONENT.toNat
  callsOn_eq : w.callsOn i =
    (List.replicate (w.restart_counts i).toNat (restartCalls i)).flatten
  active : w.activeAt i = false → w.restart_counts i = 0

/-- No budget is spent before the first step. -/
theorem budgetKept_create (base : Component) (i : ℕ) : (create base).BudgetKept i :=
  ⟨Nat.zero_le _, rfl, fun _ => rfl⟩

/-- The budget is kept when the record does not change. -/
theorem BudgetKept.of_record_eq {w w' : WatchdogComponent} {i : ℕ} (h : w.BudgetKept i)
    (hrecord : w'.record i = w.record i)
    (hactive : w'.activeAt i = false → w.restart_counts i = 0) : w'.BudgetKept i := by
  have hcount : w'.restart_counts i = w.restart_counts i := congrArg Prod.fst hrecord
  have hcalls : w'.callsOn i = w.callsOn i := congrArg Prod.snd hrecord
  constructor
  · rw [hcount]
    exact h.count_le
  · rw [hcalls, hcount]
    exact h.callsOn_eq
  · rw [hcount]
    exact hactive

/-- A restart that is due is within the budget. -/
theorem BudgetKept.of_restarted {w w' : WatchdogComponent} {i : ℕ} (h : w.BudgetKept i)
    (hrecord : w'.record i = restarted i (w.record i)) (hactive : w'.activeAt i = true)
    (hbudget : w.restart_counts i < MAX_RESTARTS_PER_COMPONENT) : w'.BudgetKept i := by
  have hcount : w'.restart_counts i = w.restart_counts i + 1 := congrArg Prod.fst hrecord
  have hcalls : w'.callsOn i = w.callsOn i ++ restartCalls i := congrArg Prod.snd hrecord
  have hlt : (w.restart_counts i).toNat < MAX_RESTARTS_PER_COMPONENT.toNat :=
    UInt32.lt_iff_toNat_lt.mp hbudget
  have hmax : MAX_RESTARTS_PER_COMPONENT.toNat = 3 := rfl
  have hnext : (w.restart_counts i + 1).toNat = (w.restart_counts i).toNat + 1 := by
    rw [UInt32.toNat_add, UInt32.toNat_one]
    omega
  constructor
  · rw [hcount, hnext]
    exact hlt
  · rw [hcalls, hcount, hnext, h.callsOn_eq, List.replicate_succ', List.flatten_append]
    simp
  · rw [hactive]
    nofun

/-- Registering a subsystem concerns a position that has not been restarted. -/
theorem BudgetKept.registerSubsystem {w : WatchdogComponent} {i : ℕ} (h : w.BudgetKept i)
    (comp : Option Subsystem) : (w.registerSubsystem comp).BudgetKept i := by
  unfold WatchdogComponent.registerSubsystem
  split_ifs
  · -- The subsystem takes the first free position, and its counter starts again from zero.
    rcases eq_or_ne i w.monitored_systems.length with rfl | hne
    · have hfree : w.activeAt w.monitored_systems.length = false := by simp [activeAt, subsystem]
      have hcount := h.active hfree
      exact h.of_record_eq (by simp [record, callsOn, hcount]) fun _ => hcount
    · refine h.of_record_eq (by simp [record, callsOn, Function.update_of_ne hne]) ?_
      rcases lt_or_gt_of_ne hne with hlt | hgt
      · simpa [activeAt, subsystem, List.getElem?_append_left hlt] using h.active
      · have hfree : w.activeAt i = false := by
          simp [activeAt, subsystem, List.getElem?_eq_none hgt.le]
        exact fun _ => h.active hfree
  · exact h

/-- No call changes which subsystems are registered. -/
theorem monitored_systems_apply (w : WatchdogComponent) (op : WatchdogOp) :
    (w.apply op).monitored_systems = w.monitored_systems := by
  cases op with
  | step inp =>
    have hbattery := (w.tick.progress_checkBattery inp.samples).systems_eq
    have hpass := (progress_checkSubsystems (w.tick.checkBattery inp.samples) inp).systems_eq
    have hafter := (w.progress_afterRecovery inp).systems_eq
    have hrecovery : (w.afterRecovery inp).monitored_systems =
        (w.beforeRecovery inp).monitored_systems := by
      rcases (w.beforeRecovery inp).tryRecoverNominal_cases inp with ⟨-, h⟩ | ⟨-, -, h⟩
      · exact h.systems_eq
      · exact h.systems_eq
    calc (w.step inp).monitored_systems = (w.afterRecovery inp).monitored_systems := hafter
      _ = (w.beforeRecovery inp).monitored_systems := hrecovery
      _ = (w.tick.checkBattery inp.samples).monitored_systems := hpass
      _ = w.monitored_systems := hbattery
  | injectBatteryLevel soc => exact (w.processBattery_spec soc).1.systems_eq
  | pollSchedulerHealth frame_drops =>
    exact (w.progress_pollSchedulerHealth (P := Never) _).systems_eq
  | pollPortOverflow ov port_name => exact (w.progress_pollPortOverflow (P := Never) _ _).systems_eq
  | eventPort event_out => rfl
  | thresholdStores e s d => rfl

/-- Calls keep the budget. -/
theorem BudgetKept.apply {w : WatchdogComponent} {i : ℕ} (h : w.BudgetKept i) (op : WatchdogOp) :
    (w.apply op).BudgetKept i := by
  have hactive : (w.apply op).activeAt i = w.activeAt i := by
    unfold activeAt subsystem
    rw [monitored_systems_apply]
  have hother (hrecord : (w.apply op).record i = w.record i) : (w.apply op).BudgetKept i :=
    h.of_record_eq hrecord (hactive ▸ h.active)
  cases op with
  | step inp =>
    have hrecord := w.record_step inp i
    split_ifs at hrecord with hdue
    · exact h.of_restarted hrecord (hactive.trans hdue.1) hdue.2.2
    · exact hother hrecord
  | injectBatteryLevel | pollSchedulerHealth | pollPortOverflow | eventPort | thresholdStores =>
    refine hother (congrFun (w.record_apply _ ?_) i)
    nofun

/-- Registrations and calls keep the budget. -/
theorem BudgetKept.supervise {w : WatchdogComponent} {i : ℕ} (h : w.BudgetKept i)
    (op : SupervisionOp) : (w.supervise op).BudgetKept i := by
  cases op with
  | registerSubsystem comp => exact h.registerSubsystem comp
  | call op => exact h.apply op

/-- Registrations and calls do not leave `EMERGENCY`. -/
theorem emergency_supervise (w : WatchdogComponent) (op : SupervisionOp)
    (h : w.mission_state = MissionState.EMERGENCY) :
    (w.supervise op).mission_state = MissionState.EMERGENCY := by
  cases op with
  | registerSubsystem comp =>
    unfold supervise registerSubsystem
    dsimp only
    split_ifs <;> exact h
  | call op => exact (w.follows_apply op).keeps.1 h

/-- A watchdog that has been told its subsystems and started. -/
def start (base : Component) (comps : List (Option Subsystem)) : WatchdogComponent :=
  (comps.foldl registerSubsystem (create base)).init

/-- No budget is spent when the components have been registered. -/
theorem budgetKept_start (base : Component) (comps : List (Option Subsystem)) (i : ℕ) :
    (start base comps).BudgetKept i := by
  have hstep (w : WatchdogComponent) (comp : Option Subsystem) (h : w.BudgetKept i) :
      (w.registerSubsystem comp).BudgetKept i := h.registerSubsystem comp
  have hregistered : (comps.foldl registerSubsystem (create base)).BudgetKept i :=
    run_invariant hstep (budgetKept_create base i) comps
  refine hregistered.of_record_eq ?_ ?_
  · exact congrFun (record_init _) i
  · have hsystems : ∀ w : WatchdogComponent, w.init.monitored_systems = w.monitored_systems :=
      fun w => (progress_emit (P := Never) _ _ _).systems_eq
    unfold start activeAt subsystem
    rw [hsystems]
    exact hregistered.active

/-- The restart budget over every run. The calls on a subsystem are complete restarts, at most
`MAX_RESTARTS_PER_COMPONENT` of them, and none if the subsystem is passive. A cycle adds a restart
exactly when the pass sees the failure of an active subsystem with budget left, other calls add
none, and a cycle that sees a failure without budget ends in `EMERGENCY`, which is never left. -/
theorem restart_budget (base : Component) (comps : List (Option Subsystem))
    (ops : List SupervisionOp) (i : ℕ) :
    let w := run supervise (start base comps) ops
    ∃ k ≤ MAX_RESTARTS_PER_COMPONENT.toNat,
      w.callsOn i = (List.replicate k (restartCalls i)).flatten ∧
      (w.activeAt i = false → k = 0) ∧
      (∀ inp, (w.step inp).callsOn i = w.callsOn i ++
        if w.activeAt i = true ∧ inp.health i = HealthStatus.CRITICAL_FAILURE ∧
          k < MAX_RESTARTS_PER_COMPONENT.toNat then restartCalls i else []) ∧
      (∀ op, (∀ inp, op ≠ SupervisionOp.call (WatchdogOp.step inp)) →
        (w.supervise op).callsOn i = w.callsOn i) ∧
      ∀ inp, w.activeAt i = true → inp.health i = HealthStatus.CRITICAL_FAILURE →
        k = MAX_RESTARTS_PER_COMPONENT.toNat → ∀ ops',
        (run supervise (w.step inp) ops').mission_state = MissionState.EMERGENCY := by
  intro w
  have hstep (w : WatchdogComponent) (op : SupervisionOp) (h : w.BudgetKept i) :
      (w.supervise op).BudgetKept i := h.supervise op
  have hkept : w.BudgetKept i := run_invariant hstep (budgetKept_start base comps i) ops
  refine ⟨(w.restart_counts i).toNat, hkept.count_le, hkept.callsOn_eq, fun h => ?_, fun inp => ?_,
    fun op hop => ?_, fun inp hactive hhealth hexhausted ops' => ?_⟩
  · rw [hkept.active h]
    rfl
  · have hdue : (w.activeAt i = true ∧ inp.health i = HealthStatus.CRITICAL_FAILURE ∧
        (w.restart_counts i).toNat < MAX_RESTARTS_PER_COMPONENT.toNat) ↔ w.RestartDue inp i := by
      rw [RestartDue, UInt32.lt_iff_toNat_lt]
    have hrecord := w.record_step inp i
    simp only [hdue]
    split_ifs with h
    · rw [if_pos h] at hrecord
      exact congrArg Prod.snd hrecord
    · rw [if_neg h] at hrecord
      rw [List.append_nil]
      exact congrArg Prod.snd hrecord
  · cases op with
    | registerSubsystem comp =>
      unfold supervise registerSubsystem
      dsimp only
      split_ifs <;> rfl
    | call op =>
      have hrecord := w.record_apply op fun inp heq => hop inp (congrArg SupervisionOp.call heq)
      exact congrArg Prod.snd (congrFun hrecord i)
  · -- The pass finds the failure and no budget, and `EMERGENCY` stays under every call.
    have hbudget : ¬w.restart_counts i < MAX_RESTARTS_PER_COMPONENT := by
      rw [UInt32.lt_iff_toNat_lt, hexhausted]
      exact lt_irrefl _
    exact run_invariant emergency_supervise
      (mission_state_step_of_exhausted ⟨hactive, hhealth, hbudget⟩) ops'

/-- The subsystems answer with a failure. -/
def failing : StepInput where
  samples := []
  health := fun _ => HealthStatus.CRITICAL_FAILURE
  errorCount := fun _ => 0
  recoveryHealth := fun _ => HealthStatus.NOMINAL
  verifyIntegrity := true
  met := 0

/-- Three cycles in which an active and a passive subsystem fail. -/
def threeFailures : WatchdogComponent :=
  run supervise (start (Component.create (ascii "Supervisor") 1)
      [some ⟨ascii "TelemetryBridge", true⟩, some ⟨ascii "BatterySystem", false⟩])
    (List.replicate 3 (SupervisionOp.call (WatchdogOp.step failing)))

/-- The passive subsystem is not restarted, a later registration restarts nothing, and the fourth
failure of the active one is the end. -/
theorem fourth_failure_ends :
    threeFailures.callsOn 1 = [] ∧
      (threeFailures.supervise (SupervisionOp.registerSubsystem none)).callsOn 0 =
        threeFailures.callsOn 0 ∧
      (run supervise (threeFailures.step failing)
        [SupervisionOp.call (WatchdogOp.injectBatteryLevel (Binary32.ofNat 100))]).mission_state =
          MissionState.EMERGENCY := by
  have hactive : threeFailures.activeAt 0 = true := by decide +kernel
  have hpassive : threeFailures.activeAt 1 = false := by decide +kernel
  have hlen : (threeFailures.callsOn 0).length = 9 := by decide +kernel
  have hbudget := restart_budget (Component.create (ascii "Supervisor") 1)
    [some ⟨ascii "TelemetryBridge", true⟩, some ⟨ascii "BatterySystem", false⟩]
    (List.replicate 3 (SupervisionOp.call (WatchdogOp.step failing)))
  obtain ⟨k, -, hcalls, -, -, hother, hend⟩ := hbudget 0
  obtain ⟨k', -, hcalls', hzero, -⟩ := hbudget 1
  have hk : k = MAX_RESTARTS_PER_COMPONENT.toNat := by
    have hsum : (threeFailures.callsOn 0).length = k * 3 := by
      rw [threeFailures, hcalls]
      simp [restartCalls]
    have hmax : MAX_RESTARTS_PER_COMPONENT.toNat = 3 := rfl
    omega
  refine ⟨?_, hother _ fun inp h => ?_, hend failing hactive rfl hk _⟩
  · rw [threeFailures, hcalls', hzero hpassive]
    rfl
  · cases h

end WatchdogComponent

end DeltaV
