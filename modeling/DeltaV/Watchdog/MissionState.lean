import DeltaV.Watchdog.Progress
import DeltaV.Lib.Runs

/-!
# The mission state over whole runs

A cycle of the watchdog has three stages: up to the recovery attempt the mission state is only
raised, the attempt leaves it alone or lowers it to `NOMINAL` under the conditions `MayRecover`, and
after the attempt it is only raised again (`transition_apply`). Over a run this leaves one kind of
assignment that lowers the mission state, and none that leaves `EMERGENCY` or enters `BOOT`. A
failed parameter check holds the mission in `SAFE_MODE` or above until the next recovery, and not
longer: the recovery does not ask for the parameters.
-/

namespace DeltaV

namespace WatchdogComponent

/-! ## The stages of a cycle -/

/-- The state before the recovery attempt of a cycle. -/
def beforeRecovery (w : WatchdogComponent) (inp : StepInput) : WatchdogComponent :=
  (w.tick.checkBattery inp.samples).checkSubsystems inp

/-- The state after the recovery attempt of a cycle. -/
def afterRecovery (w : WatchdogComponent) (inp : StepInput) : WatchdogComponent :=
  (w.beforeRecovery inp).tryRecoverNominal inp

/-- Up to the recovery attempt the mission state is only raised, and the last sample is kept. -/
theorem beforeRecovery_spec (w : WatchdogComponent) (inp : StepInput) :
    Follows Raise w (w.beforeRecovery inp) ∧
      (w.beforeRecovery inp).last_batt_soc = inp.samples.getLastD w.last_batt_soc ∧
      (w.beforeRecovery inp).voted = w.voted ∧
      (w.beforeRecovery inp).cycles = w.cycles + 1 := by
  have h := (w.tick.progress_checkBattery inp.samples).andThen (progress_checkSubsystems _ inp)
  exact ⟨h.path, h.soc_eq, h.voted_eq, h.cycles_eq⟩

/-- After the recovery attempt the mission state is only raised. -/
theorem progress_afterRecovery (w : WatchdogComponent) (inp : StepInput) :
    Progress Raise (w.afterRecovery inp).last_batt_soc (w.afterRecovery inp) (w.step inp) :=
  ((w.afterRecovery inp).checkParams_spec inp).1.andThen (progress_heartbeat _ inp)

/-- What a call may assign to the mission state. In a cycle, `EMERGENCY` and the states above the
present one may be assigned at any time, and `NOMINAL` in the recovery attempt only. -/
def Transition (w : WatchdogComponent) (op : WatchdogOp) : Prop :=
  match op with
  | WatchdogOp.step inp =>
    Follows Raise w (w.beforeRecovery inp) ∧
      (Follows Never (w.beforeRecovery inp) (w.afterRecovery inp) ∨
        (w.beforeRecovery inp).MayRecover inp ∧
          Follows Recovery (w.beforeRecovery inp) (w.afterRecovery inp)) ∧
      Follows Raise (w.afterRecovery inp) (w.step inp)
  | op => Follows Raise w (w.apply op)

/-- Every call makes the assignments it may. -/
theorem transition_apply (w : WatchdogComponent) (op : WatchdogOp) : w.Transition op := by
  cases op with
  | step inp =>
    refine ⟨(w.beforeRecovery_spec inp).1, ?_, (w.progress_afterRecovery inp).path⟩
    rcases (w.beforeRecovery inp).tryRecoverNominal_cases inp with ⟨-, h⟩ | ⟨hmay, -, h⟩
    · exact Or.inl h.path
    · exact Or.inr ⟨hmay, h.path⟩
  | injectBatteryLevel soc => exact (w.processBattery_spec soc).1.path
  | pollSchedulerHealth frame_drops => exact (w.progress_pollSchedulerHealth frame_drops).path
  | pollPortOverflow ov port_name => exact (w.progress_pollPortOverflow ov port_name).path
  | eventPort event_out => exact ⟨[], (List.append_nil _).symm, Path.nil _⟩
  | thresholdStores e s d => exact ⟨[], (List.append_nil _).symm, Path.nil _⟩

/-! ## Runs -/

/-- The assignments that a running watchdog makes. -/
def Legal (a b : MissionState) : Prop := Raise a b ∨ Recovery a b

/-- A weaker rule allows the same transitions. -/
theorem Follows.mono {P Q : MissionState → MissionState → Prop} (hPQ : ∀ a b, P a b → Q a b)
    {w w' : WatchdogComponent} (h : Follows P w w') : Follows Q w w' := by
  obtain ⟨acts, hlog, hpath⟩ := h
  exact ⟨acts, hlog, hpath.mono hPQ⟩

/-- Transitions of two parts follow each other. -/
theorem Follows.trans {P : MissionState → MissionState → Prop} {w w' w'' : WatchdogComponent}
    (h : Follows P w w') (h' : Follows P w' w'') : Follows P w w'' := by
  obtain ⟨acts, hlog, hpath⟩ := h
  obtain ⟨acts', hlog', hpath'⟩ := h'
  refine ⟨acts ++ acts', by rw [hlog', hlog, List.append_assoc], ?_⟩
  rw [assignments_append]
  exact hpath.append hpath'

/-- No transition follows every rule. -/
theorem Follows.refl {P : MissionState → MissionState → Prop} (w : WatchdogComponent) :
    Follows P w w := ⟨[], (List.append_nil _).symm, Path.nil _⟩

/-- The recovery attempt assigns nothing or recovers. -/
theorem follows_afterRecovery (w : WatchdogComponent) (inp : StepInput) :
    Follows Legal (w.beforeRecovery inp) (w.afterRecovery inp) := by
  rcases (w.beforeRecovery inp).tryRecoverNominal_cases inp with ⟨-, h⟩ | ⟨-, -, h⟩
  · exact h.path.mono nofun
  · exact h.path.mono fun _ _ => Or.inr

/-- The assignments of a call are legal. -/
theorem follows_apply (w : WatchdogComponent) (op : WatchdogOp) : Follows Legal w (w.apply op) := by
  have h := w.transition_apply op
  cases op with
  | step inp =>
    obtain ⟨hbefore, -, hafter⟩ := h
    exact ((hbefore.mono fun _ _ => Or.inl).trans (w.follows_afterRecovery inp)).trans
      (hafter.mono fun _ _ => Or.inl)
  | injectBatteryLevel | pollSchedulerHealth | pollPortOverflow | eventPort | thresholdStores =>
    exact Follows.mono (fun _ _ => Or.inl) h

/-- The assignments of a run are legal. -/
theorem follows_run (w : WatchdogComponent) (ops : List WatchdogOp) :
    Follows Legal w (run apply w ops) :=
  run_rel Follows.refl Follows.trans follows_apply w ops

/-- Legal assignments neither leave `EMERGENCY` nor enter `BOOT`. -/
theorem Legal.rel {a b : MissionState} (h : Legal a b) :
    (a = MissionState.EMERGENCY → b = MissionState.EMERGENCY) ∧
      (a ≠ MissionState.BOOT → b ≠ MissionState.BOOT) := by
  unfold Legal Raise Recovery at h
  -- A raise goes up from the present state, and a recovery goes from two states to `NOMINAL`.
  cases a <;> cases b <;> simp_all [MissionState.toNat]

/-- What legal assignments keep. -/
theorem Follows.keeps {w w' : WatchdogComponent} (h : Follows Legal w w') :
    (w.mission_state = MissionState.EMERGENCY → w'.mission_state = MissionState.EMERGENCY) ∧
      (w.mission_state ≠ MissionState.BOOT → w'.mission_state ≠ MissionState.BOOT) := by
  obtain ⟨acts, -, hpath⟩ := h
  refine hpath.rel (R := fun a b => (a = MissionState.EMERGENCY → b = MissionState.EMERGENCY) ∧
    (a ≠ MissionState.BOOT → b ≠ MissionState.BOOT)) (fun _ => ⟨id, id⟩) (fun h h' => ?_)
    fun _ _ => Legal.rel
  exact ⟨fun ha => h'.1 (h.1 ha), fun ha => h'.2 (h.2 ha)⟩

/-- The mission starts in NOMINAL. -/
theorem mission_state_init (w : WatchdogComponent) :
    w.init.mission_state = MissionState.NOMINAL := by
  unfold init
  rw [mission_state_emit]
  rfl

/-- The mission state over every run after `init()`. Every assignment that any call makes raises
the mission state, apart from one that `tryRecoverNominal` makes under the conditions of a recovery;
`EMERGENCY` is never left and `BOOT` never entered. -/
theorem lowered_only_by_recovery (w₀ : WatchdogComponent) (ops ops' : List WatchdogOp)
    (op : WatchdogOp) :
    let w := run apply w₀.init ops
    w.Transition op ∧ Follows Legal w₀.init w ∧ w.mission_state ≠ MissionState.BOOT ∧
      (w.mission_state = MissionState.EMERGENCY →
        (run apply w₀.init (ops ++ ops')).mission_state = MissionState.EMERGENCY) := by
  intro w
  have hrun : Follows Legal w₀.init w := follows_run w₀.init ops
  refine ⟨w.transition_apply op, hrun, hrun.keeps.2 ?_, fun hemergency => ?_⟩
  · rw [mission_state_init]
    nofun
  · rw [run_append]
    exact (follows_run w ops').keeps.1 hemergency

/-! ## Parameter integrity -/

/-- The mission is in `SAFE_MODE` or `EMERGENCY`. -/
def Safed (w : WatchdogComponent) : Prop :=
  w.mission_state = MissionState.SAFE_MODE ∨ w.mission_state = MissionState.EMERGENCY

instance (w : WatchdogComponent) : Decidable w.Safed := inferInstanceAs (Decidable (_ ∨ _))

/-- A component is safed exactly from SAFE_MODE on. -/
theorem safed_iff (w : WatchdogComponent) :
    w.Safed ↔ MissionState.SAFE_MODE.toNat ≤ w.mission_state.toNat := by
  unfold Safed
  cases w.mission_state <;> simp [MissionState.toNat]

/-- Raises keep the mission safed. -/
theorem Safed.of_follows {w w' : WatchdogComponent} (h : w.Safed) (hf : Follows Raise w w') :
    w'.Safed := by
  obtain ⟨acts, -, hpath⟩ := hf
  rw [safed_iff] at h ⊢
  exact h.trans hpath.toNat_le

/-- The periodic check is due in the next cycle. -/
def CheckDue (w : WatchdogComponent) : Prop := (w.cycles + 1) % PARAM_CHECK_INTERVAL_CYCLES = 0

instance (w : WatchdogComponent) : Decidable w.CheckDue := inferInstanceAs (Decidable (_ = _))

/-- The recovery attempt of a call, if it makes one, fails. -/
def NoRecovery (w : WatchdogComponent) (op : WatchdogOp) : Prop :=
  match op with
  | WatchdogOp.step inp => ¬(w.beforeRecovery inp).MayRecover inp
  | _ => True

/-- A cycle whose check fails ends safed. -/
theorem safed_of_check (w : WatchdogComponent) (inp : StepInput) (hdue : w.CheckDue)
    (hfail : inp.verifyIntegrity = false) : (w.step inp).Safed := by
  -- The recovery attempt comes before the check, so it cannot undo it in this cycle.
  have hcycles : (w.afterRecovery inp).cycles = w.cycles + 1 := by
    rw [← (w.beforeRecovery_spec inp).2.2.2]
    rcases (w.beforeRecovery inp).tryRecoverNominal_cases inp with ⟨-, h⟩ | ⟨-, -, h⟩
    · exact h.cycles_eq
    · exact h.cycles_eq
  obtain ⟨-, hcheck⟩ := (w.afterRecovery inp).checkParams_spec inp
  rw [hcycles] at hcheck
  have hheartbeat : Progress Raise _ _ (w.step inp) :=
    progress_heartbeat ((w.afterRecovery inp).checkParams inp) inp
  exact ((safed_iff _).mpr (hcheck hdue hfail)).of_follows hheartbeat.path

/-- A call without recovery keeps the mission safed. -/
theorem Safed.apply {w : WatchdogComponent} (h : w.Safed) {op : WatchdogOp}
    (hop : w.NoRecovery op) : (w.apply op).Safed := by
  have ht := w.transition_apply op
  cases op with
  | step inp =>
    obtain ⟨hbefore, hattempt, hafter⟩ := ht
    -- An attempt that assigned something would have been a recovery.
    rcases hattempt with hnever | ⟨hmay, -⟩
    · exact ((h.of_follows hbefore).of_follows (hnever.mono nofun)).of_follows hafter
    · exact absurd hmay hop
  | injectBatteryLevel | pollSchedulerHealth | pollPortOverflow | eventPort | thresholdStores =>
    exact h.of_follows ht

/-- A failed parameter check leaves the mission in `SAFE_MODE` or `EMERGENCY` at the end of its
cycle and of every later call, up to the first recovery attempt that succeeds. -/
theorem safed_until_recovery (w : WatchdogComponent) (inp : StepInput) (hdue : w.CheckDue)
    (hfail : inp.verifyIntegrity = false) (ops : List WatchdogOp)
    (hops : Along WatchdogComponent.apply NoRecovery (w.step inp) ops) :
    (run WatchdogComponent.apply (w.step inp) ops).Safed :=
  run_invariant_along (fun _ _ h hop => h.apply hop) (w.safed_of_check inp hdue hfail) hops

/-- A cycle in which the parameter check would fail and nothing else is wrong. -/
def corrupted (samples : List Binary32) : StepInput :=
  { samples := samples
    health := fun _ => HealthStatus.NOMINAL
    errorCount := fun _ => 0
    recoveryHealth := fun _ => HealthStatus.NOMINAL
    verifyIntegrity := false
    met := 0 }

/-- The watchdog as the topology names it, before anything is registered. -/
def supervisor : WatchdogComponent := create (Component.create (ascii "Supervisor") 1)

/-- With a low battery, a cycle with a failed check and the next one end safed. -/
theorem safed_until_recovery_low_battery :
    let w := { supervisor.init with cycles := 29 }
    (run WatchdogComponent.apply (w.step (corrupted [Binary32.ofNat 10]))
      [WatchdogOp.step (corrupted [])]).Safed :=
  safed_until_recovery { supervisor.init with cycles := 29 } (corrupted [Binary32.ofNat 10])
    (by decide +kernel) rfl [WatchdogOp.step (corrupted [])]
    ⟨fun h => absurd h.battery (by decide +kernel), trivial⟩

/-- The thirtieth cycle finds the parameters corrupted and safes the mission; the next cycle
recovers although they still are. -/
theorem recovers_while_corrupted :
    let cycle := WatchdogOp.step (corrupted [])
    (corrupted []).verifyIntegrity = false ∧
      (run WatchdogComponent.apply supervisor.init (List.replicate 29 cycle)).CheckDue ∧
      (run WatchdogComponent.apply supervisor.init (List.replicate 30 cycle)).Safed ∧
      ¬(run WatchdogComponent.apply supervisor.init (List.replicate 31 cycle)).Safed := by
  decide +kernel

end WatchdogComponent

end DeltaV
