import DeltaV.Watchdog.MissionState

/-!
# Battery protection

`Ordered` is what the thresholds in force are for: positive, increasing, at most 100, with the
recovery threshold between the highest of them and 100. The check of configured thresholds refuses
each violation by a comparison that holds, so an unordered operand passes it: `protects_iff` gives
the exact condition on the stores under which the thresholds in force are ordered. With ordered
thresholds that do not change, the mission state stays at or above what the last sample demands over
every run, and there is no recovery while that sample lies in the hysteresis band
(`battery_protection`).
-/

namespace DeltaV

namespace BatteryThresholds

/-- The order of the alarm thresholds. -/
structure Increasing (t : BatteryThresholds) : Prop where
  emergency_pos : Binary32.ofNat 0 < t.emergency_pct
  emergency_lt : t.emergency_pct < t.safe_mode_pct
  safe_mode_lt : t.safe_mode_pct < t.degraded_pct
  degraded_le : t.degraded_pct ≤ BATT_MAX_PCT

/-- The order of all thresholds. -/
structure Ordered (t : BatteryThresholds) : Prop extends t.Increasing where
  le_recover : t.degraded_pct ≤ t.recover_nominal_pct
  recover_le : t.recover_nominal_pct ≤ BATT_MAX_PCT

/-- The built-in thresholds are ordered. -/
theorem ordered_default : Ordered default :=
  ⟨⟨by decide +kernel, by decide +kernel, by decide +kernel, by decide +kernel⟩,
    by decide +kernel, by decide +kernel⟩

/-- The hysteresis margin as a rational. -/
theorem toRat_hysteresis :
    BATT_RECOVERY_HYSTERESIS_PCT.toRat = 2 ∧ BATT_RECOVERY_HYSTERESIS_PCT.IsFinite := by
  have hunits : BATT_RECOVERY_HYSTERESIS_PCT.units = 2 * 2^149 := by decide +kernel
  refine ⟨?_, by decide +kernel⟩
  rw [Binary32.toRat, hunits]
  norm_num

/-- The largest threshold is 100 %. -/
theorem toRat_max : BATT_MAX_PCT.toRat = 100 := by
  have hunits : BATT_MAX_PCT.units = 100 * 2^149 := by decide +kernel
  rw [Binary32.toRat, hunits]
  norm_num

/-- A number at most 100 and at most the margin above `degraded_pct` is at most the recovery
threshold, in spite of the rounding. -/
theorem le_recover_ofLevels {x d : Binary32} (e s : Binary32) (hx : ¬x.IsNaN) (hd : d.IsFinite)
    (h : x.toRat ≤ min (d.toRat + 2) 100) : x ≤ (ofLevels e s d).recover_nominal_pct := by
  obtain ⟨hmargin, hmax⟩ := le_min_iff.mp h
  simp only [ofLevels]
  split_ifs
  · -- The clamped threshold is the maximum.
    rw [← toRat_max, Binary32.toRat_le_iff] at hmax
    exact ⟨hx, by decide +kernel, hmax⟩
  · -- The sum is rounded, but rounding is monotone and `x` rounds to itself.
    rw [← toRat_hysteresis.1] at hmargin
    exact Binary32.le_add_of_toRat_le hx hd toRat_hysteresis.2 hmargin

/-- A positive number at most 100 is finite. -/
theorem isFinite_of_le_max {x : Binary32} (h0 : Binary32.ofNat 0 < x) (h : x ≤ BATT_MAX_PCT) :
    x.IsFinite := by
  have hkey0 : (Binary32.ofNat 0).key = 0 := by decide +kernel
  have hkey : BATT_MAX_PCT.key = 0x42C80000 := by decide +kernel
  have h1 := h0.2.2
  have h2 := h.2.2
  rw [hkey0] at h1
  rw [hkey] at h2
  unfold Binary32.key at h1 h2
  unfold Binary32.IsFinite Binary32.infMag
  split_ifs at h1 h2 <;> omega

/-- The highest of increasing thresholds is positive. -/
theorem Increasing.degraded_pos {t : BatteryThresholds} (h : t.Increasing) :
    Binary32.ofNat 0 < t.degraded_pct := by
  have hlt := lt_trans h.emergency_pos.2.2 (lt_trans h.emergency_lt.2.2 h.safe_mode_lt.2.2)
  exact ⟨h.emergency_pos.1, h.safe_mode_lt.2.1, hlt⟩

/-- Increasing levels give ordered thresholds. -/
theorem Increasing.ordered {e s d : Binary32} (h : (ofLevels e s d).Increasing) :
    (ofLevels e s d).Ordered := by
  have hle : d ≤ BATT_MAX_PCT := h.degraded_le
  have hfin : d.IsFinite := isFinite_of_le_max h.degraded_pos hle
  have hrat : d.toRat ≤ 100 := by
    rw [← toRat_max, Binary32.toRat_le_iff]
    exact hle.2.2
  have hband : d ≤ (ofLevels e s d).recover_nominal_pct :=
    le_recover_ofLevels e s hfin.not_isNaN hfin (le_min (by linarith) hrat)
  refine ⟨h, hband, ?_⟩
  simp only [ofLevels]
  split_ifs with hclamp
  · decide +kernel
  · -- A sum that is not clamped does not exceed the maximum.
    obtain ⟨-, hnan⟩ := Binary32.key_add hfin toRat_hysteresis.2
    by_contra hnot
    exact hclamp (Binary32.lt_of_not_le hnan (by decide +kernel) hnot)

/-- What the comparisons of the check establish. -/
theorem areThresholdsSane_iff (t : BatteryThresholds) :
    t.areThresholdsSane = true ↔ ¬t.emergency_pct ≤ Binary32.ofNat 0 ∧
      ¬t.safe_mode_pct ≤ t.emergency_pct ∧ ¬t.degraded_pct ≤ t.safe_mode_pct ∧
      t.degraded_pct ≤ BATT_MAX_PCT := by
  unfold areThresholdsSane
  split_ifs with h1 h2 h3
  · simp [h1]
  · simp [h2]
  · simp [h3]
  · simp [h1, h2, h3]

/-- Increasing thresholds pass the check. -/
theorem Increasing.sane {t : BatteryThresholds} (h : t.Increasing) :
    t.areThresholdsSane = true :=
  t.areThresholdsSane_iff.mpr ⟨Binary32.not_le_of_lt h.emergency_pos,
    Binary32.not_le_of_lt h.emergency_lt, Binary32.not_le_of_lt h.safe_mode_lt, h.degraded_le⟩

/-- Thresholds that pass the check are increasing, if neither of the lower two is a NaN. -/
theorem increasing_of_sane {t : BatteryThresholds} (he : ¬t.emergency_pct.IsNaN)
    (hs : ¬t.safe_mode_pct.IsNaN) (h : t.areThresholdsSane = true) : t.Increasing := by
  obtain ⟨h1, h2, h3, h4⟩ := t.areThresholdsSane_iff.mp h
  exact ⟨Binary32.lt_of_not_le he (by decide +kernel) h1, Binary32.lt_of_not_le hs he h2,
    Binary32.lt_of_not_le h4.1 hs h3, h4⟩

end BatteryThresholds

namespace WatchdogComponent

open BatteryThresholds

/-! ## The thresholds in force -/

/-- An event is logged, and counted as an error if it is not accepted. -/
theorem emit_spec (w : WatchdogComponent) (sev : UInt32) (msg : Text) :
    ∃ sent, (w.emit sev msg).log =
        w.log ++ [WatchdogAction.emitted (EventPacket.create sev w.base.id msg) sent] ∧
      (w.emit sev msg).base.error_count = w.base.error_count + if sent then 0 else 1 := by
  unfold emit
  split
  · exact ⟨false, rfl, rfl⟩
  · rename_i port hport
    rcases hsent : (port.receive (EventPacket.create sev w.base.id msg)).2 with _ | _
    · exact ⟨false, by simp [hsent, recordError], by simp [hsent, recordError]⟩
    · exact ⟨true, by simp [hsent], by simp [hsent]⟩

/-- The invalid thresholds have been reported: the fault is latched, and if it was not before, an
event was sent and an error recorded. -/
def Reported (w w' : WatchdogComponent) : Prop :=
  w'.threshold_fault_latched = true ∧
    (w.threshold_fault_latched = false → ∃ sent,
      w'.log = w.log ++ [WatchdogAction.emitted (EventPacket.create Severity.CRITICAL w.base.id
        (ascii "FDIR: Invalid battery thresholds. Using defaults.")) sent] ∧
      w'.base.error_count = w.base.error_count + (if sent then 0 else 1) + 1)

/-- Thresholds that fail the check are reported. -/
theorem reported_of_not_sane (w : WatchdogComponent) {t : BatteryThresholds}
    (h : t.areThresholdsSane = false) : Reported w (w.checkThresholds t).2 := by
  unfold checkThresholds
  rw [if_pos h]
  -- Only the first of a series of faults is reported.
  split_ifs with hlatched
  · obtain ⟨sent, hlog, herr⟩ := w.emit_spec Severity.CRITICAL
      (ascii "FDIR: Invalid battery thresholds. Using defaults.")
    refine ⟨rfl, fun _ => ⟨sent, hlog, ?_⟩⟩
    rw [← herr]
    rfl
  · exact ⟨by simpa using hlatched, fun hfalse => absurd hfalse hlatched⟩

/-- Voted values are the votes of three sources. -/
theorem voted_eq_some {w : WatchdogComponent} {e s d : Binary32} (hv : w.voted = some (e, s, d)) :
    ∃ e' s' d', w.batt_emergency_pct_src = some e' ∧ w.batt_safe_mode_pct_src = some s' ∧
      w.batt_degraded_pct_src = some d' ∧ e'.vote = e ∧ s'.vote = s ∧ d'.vote = d := by
  unfold voted at hv
  split at hv
  · rename_i e' s' d' he hs hd
    obtain ⟨h1, h2, h3⟩ : e'.vote = e ∧ s'.vote = s ∧ d'.vote = d := by simpa using hv
    exact ⟨e', s', d', he, hs, hd, h1, h2, h3⟩
  · cases hv

/-- Voted values that fail the check are replaced by the built-in thresholds and reported. -/
theorem currentBatteryThresholds_of_not_sane (w : WatchdogComponent) {e s d : Binary32}
    (hv : w.voted = some (e, s, d)) (h : (ofLevels e s d).areThresholdsSane = false) :
    w.currentBatteryThresholds.1 = BatteryThresholds.default ∧
      Reported w w.currentBatteryThresholds.2 := by
  constructor
  · rw [(w.currentBatteryThresholds_spec (P := Never)).1, hv]
    exact if_neg (by simp [h])
  · obtain ⟨e', s', d', he, hs, hd, rfl, rfl, rfl⟩ := voted_eq_some hv
    simp only [currentBatteryThresholds, he, hs, hd]
    exact reported_of_not_sane _ h

/-- What is asked of the thresholds in force: they are ordered, voted values that are not in order
are replaced by the built-in ones and reported, and a sample at or below zero leads to
`EMERGENCY`. -/
structure Protects (w : WatchdogComponent) : Prop where
  ordered : w.currentBatteryThresholds.1.Ordered
  fallback : ∀ e s d, w.voted = some (e, s, d) → ¬(ofLevels e s d).Increasing →
    w.currentBatteryThresholds.1 = BatteryThresholds.default ∧
      Reported w w.currentBatteryThresholds.2
  empty_battery : ∀ batt, batt ≤ Binary32.ofNat 0 →
    (w.processBattery batt).mission_state = MissionState.EMERGENCY

/-- With ordered thresholds in force, a sample at or below zero leads to `EMERGENCY`. -/
theorem emergency_of_ordered (w : WatchdogComponent) (h : w.currentBatteryThresholds.1.Ordered)
    {batt : Binary32} (hbatt : batt ≤ Binary32.ofNat 0) :
    (w.processBattery batt).mission_state = MissionState.EMERGENCY := by
  have hlevel := (w.processBattery_spec batt).2
  rw [← (w.currentBatteryThresholds_spec (P := Never)).1] at hlevel
  -- The sample is below the emergency threshold, which is positive.
  have hle : batt ≤ w.currentBatteryThresholds.1.emergency_pct :=
    Binary32.le_trans' hbatt (Binary32.le_of_lt' h.emergency_pos)
  rw [demanded, if_pos hle] at hlevel
  have hmax : MissionState.EMERGENCY.toNat ≤ (w.processBattery batt).mission_state.toNat :=
    calc MissionState.EMERGENCY.toNat ≤ max w.mission_state.toNat MissionState.EMERGENCY.toNat :=
          le_max_right _ _
      _ = (w.processBattery batt).mission_state.toNat := hlevel.symm
  revert hmax
  cases (w.processBattery batt).mission_state <;> simp [MissionState.toNat]

/-- The exact condition for the thresholds in force to protect the battery, for every content of
the stores: neither of the two lower voted values is a NaN, or a comparison with the others refuses
them all the same. -/
theorem protects_iff (w : WatchdogComponent) :
    w.Protects ↔ ∀ e s d, w.voted = some (e, s, d) →
      (¬e.IsNaN ∧ ¬s.IsNaN) ∨ e ≤ Binary32.ofNat 0 ∨ d ≤ s ∨ ¬d ≤ BATT_MAX_PCT := by
  have hforce := (w.currentBatteryThresholds_spec (P := Never)).1
  constructor
  · intro h e s d hv
    by_contra hnot
    simp only [not_or, not_not] at hnot
    obtain ⟨hnan, he, hds, hd⟩ := hnot
    -- A comparison with a NaN fails, so the values pass the check and are in force.
    have hes : ¬s ≤ e := fun hse => hnan ⟨hse.2.1, hse.1⟩
    have hsane : (ofLevels e s d).areThresholdsSane = true :=
      (ofLevels e s d).areThresholdsSane_iff.mpr ⟨he, hes, hds, hd⟩
    have horder := h.ordered
    rw [hforce, hv, thresholdsFor, if_pos hsane] at horder
    exact hnan ⟨horder.emergency_lt.1, horder.emergency_lt.2.1⟩
  · intro h
    have hordered : w.currentBatteryThresholds.1.Ordered := by
      rw [hforce]
      rcases hv : w.voted with _ | ⟨e, s, d⟩
      · exact ordered_default
      · simp only [thresholdsFor]
        split_ifs with hsane
        · obtain ⟨h1, h2, h3, h4⟩ := (ofLevels e s d).areThresholdsSane_iff.mp hsane
          have hnan : ¬e.IsNaN ∧ ¬s.IsNaN := by
            rcases h e s d hv with hn | he | hds | hd
            · exact hn
            · exact absurd he h1
            · exact absurd hds h3
            · exact absurd h4 hd
          exact (increasing_of_sane hnan.1 hnan.2 hsane).ordered
        · exact ordered_default
    refine ⟨hordered, fun e s d hv hnot => ?_, fun batt => w.emergency_of_ordered hordered⟩
    rcases hsane : (ofLevels e s d).areThresholdsSane with _ | _
    · exact w.currentBatteryThresholds_of_not_sane hv hsane
    · rw [hforce, hv, thresholdsFor, if_pos hsane] at hordered
      exact absurd hordered.toIncreasing hnot

/-- A supervisor whose threshold stores hold the given values. -/
def configured (e s d : Binary32) : WatchdogComponent :=
  supervisor.init.setBatteryThresholdSources (some (TmrStore.create e true))
    (some (TmrStore.create s true)) (some (TmrStore.create d true))

/-- With a NaN as the emergency threshold and the built-in values beside it, the NaN is in force, no
fault is reported, and a sample of zero leads to `SAFE_MODE` only. -/
theorem nan_emergency_threshold :
    let w := configured Binary32.nan BATT_SAFE_MODE_PCT BATT_DEGRADED_PCT
    w.currentBatteryThresholds.1.emergency_pct = Binary32.nan ∧
      w.currentBatteryThresholds.2.threshold_fault_latched = false ∧
      (w.processBattery (Binary32.ofNat 0)).mission_state = MissionState.SAFE_MODE := by
  decide +kernel

/-! ## Protection over runs -/

/-- The thresholds in force are `t`: the built-in ones because a source is missing, or those of the
values that the sources hold. -/
def InForce (w : WatchdogComponent) (t : BatteryThresholds) : Prop :=
  (w.voted = none ∧ t = BatteryThresholds.default) ∨
    ∃ e s d, w.voted = some (e, s, d) ∧ t = ofLevels e s d ∧ t.Increasing

/-- Thresholds in force are ordered, and they are the ones compared with. -/
theorem InForce.spec {w : WatchdogComponent} {t : BatteryThresholds} (h : w.InForce t) :
    t.Ordered ∧ thresholdsFor w.voted = t := by
  rcases h with ⟨hv, rfl⟩ | ⟨e, s, d, hv, rfl, hinc⟩
  · rw [hv]
    exact ⟨ordered_default, rfl⟩
  · rw [hv, thresholdsFor, if_pos hinc.sane]
    exact ⟨hinc.ordered, rfl⟩

/-- The samples that a call processes. -/
def samplesOf : WatchdogOp → List Binary32
  | WatchdogOp.step inp => inp.samples
  | WatchdogOp.injectBatteryLevel soc => [soc]
  | _ => []

/-- The most recent sample of a run. -/
def latest (ops : List WatchdogOp) : Option Binary32 := (ops.flatMap samplesOf).getLast?

/-- The call leaves the voted values as they are; single copies may be upset. -/
def KeepsVotes (v : Option (Binary32 × Binary32 × Binary32)) : WatchdogOp → Prop
  | WatchdogOp.thresholdStores e s d => (supervisor.setBatteryThresholdSources e s d).voted = v
  | _ => True

/-- A sample above the recovery threshold demands nothing. -/
theorem demanded_eq_zero {t : BatteryThresholds} (h : t.Ordered) {batt : Binary32}
    (hb : t.recover_nominal_pct < batt) : demanded t batt = 0 := by
  have hd : t.degraded_pct < batt :=
    ⟨h.le_recover.1, hb.2.1, lt_of_le_of_lt h.le_recover.2.2 hb.2.2⟩
  have hs : t.safe_mode_pct < batt := ⟨h.safe_mode_lt.1, hb.2.1, h.safe_mode_lt.2.2.trans hd.2.2⟩
  have he : t.emergency_pct < batt := ⟨h.emergency_lt.1, hb.2.1, h.emergency_lt.2.2.trans hs.2.2⟩
  rw [demanded, if_neg (Binary32.not_le_of_lt he), if_neg (Binary32.not_le_of_lt hs),
    if_neg (Binary32.not_le_of_lt hd)]

/-- After draining samples the mission state is at least what the last of them demands. -/
theorem demanded_le_checkBattery (w : WatchdogComponent) (samples : List Binary32) {batt : Binary32}
    (hlast : samples.getLast? = some batt) :
    demanded (thresholdsFor w.voted) batt ≤ (w.checkBattery samples).mission_state.toNat := by
  obtain ⟨front, rfl⟩ := List.getLast?_eq_some_iff.mp hlast
  have hvoted := (w.progress_checkBattery front).voted_eq
  have hsplit : w.checkBattery (front ++ [batt]) = (w.checkBattery front).processBattery batt :=
    List.foldl_concat ..
  rw [hsplit, ((w.checkBattery front).processBattery_spec batt).2, hvoted]
  exact le_max_right _ _

/-- The last sample is remembered, and the mission state is at least what it demands. -/
structure Guarded (t : BatteryThresholds) (sample : Option Binary32) (w : WatchdogComponent) :
    Prop where
  soc_eq : ∀ batt, sample = some batt → w.last_batt_soc = batt
  level : ∀ batt, sample = some batt → demanded t batt ≤ w.mission_state.toNat

/-- Progress that keeps the last sample keeps the guard. -/
theorem Guarded.of_progress {t : BatteryThresholds} {sample : Option Binary32}
    {w w' : WatchdogComponent} (h : Guarded t sample w)
    (hp : Progress Raise w.last_batt_soc w w') : Guarded t sample w' :=
  ⟨fun batt hb => hp.soc_eq.trans (h.soc_eq batt hb),
    fun batt hb => (h.level batt hb).trans hp.toNat_le⟩

/-- Up to the recovery attempt, a cycle guards its last sample, or the one before it. -/
theorem Guarded.beforeRecovery {t : BatteryThresholds} {sample : Option Binary32}
    {w : WatchdogComponent} (h : Guarded t sample w) (ht : thresholdsFor w.voted = t)
    (inp : StepInput) : Guarded t (inp.samples.getLast?.or sample) (w.beforeRecovery inp) := by
  have hbattery : Guarded t (inp.samples.getLast?.or sample) (w.tick.checkBattery inp.samples) := by
    have hp := w.tick.progress_checkBattery inp.samples
    -- Without a new sample the old one still counts.
    rcases hlast : inp.samples.getLast? with _ | last
    · have htick : Guarded t sample w.tick := ⟨h.soc_eq, h.level⟩
      rw [List.getLast?_eq_none_iff.mp hlast] at hp ⊢
      exact htick.of_progress hp
    · have hvoted : w.tick.voted = w.voted := rfl
      have hlevel := w.tick.demanded_le_checkBattery inp.samples hlast
      rw [hvoted, ht] at hlevel
      refine ⟨fun batt hb => ?_, fun batt hb => ?_⟩
      · rw [hp.soc_eq, List.getLastD_eq_getLast?, hlast]
        exact Option.some.inj hb
      · rwa [← Option.some.inj hb]
  exact hbattery.of_progress (progress_checkSubsystems _ inp)

/-- A recovery attempt keeps the guard: it succeeds only if the last sample demands nothing. -/
theorem Guarded.tryRecoverNominal {t : BatteryThresholds} {sample : Option Binary32}
    {w : WatchdogComponent} (h : Guarded t sample w) (hord : t.Ordered)
    (ht : thresholdsFor w.voted = t) (inp : StepInput) :
    Guarded t sample (w.tryRecoverNominal inp) := by
  rcases w.tryRecoverNominal_cases inp with ⟨-, hp⟩ | ⟨hmay, -, hp⟩
  · exact h.of_progress (hp.mono nofun)
  · refine ⟨fun batt hb => hp.soc_eq.trans (h.soc_eq batt hb), fun batt hb => ?_⟩
    -- A recovery asks for a sample above every threshold.
    have hbatt := hmay.battery
    rw [(w.currentBatteryThresholds_spec (P := Never)).1, ht, h.soc_eq batt hb] at hbatt
    rw [demanded_eq_zero hord hbatt]
    exact Nat.zero_le _

/-- A cycle keeps the guard. -/
theorem Guarded.step {t : BatteryThresholds} {sample : Option Binary32} {w : WatchdogComponent}
    (h : Guarded t sample w) (hord : t.Ordered) (ht : thresholdsFor w.voted = t) (inp : StepInput) :
    Guarded t (inp.samples.getLast?.or sample) (w.step inp) := by
  have hbefore := h.beforeRecovery ht inp
  have hvoted : thresholdsFor (w.beforeRecovery inp).voted = t := by
    rw [(w.beforeRecovery_spec inp).2.2.1, ht]
  exact (hbefore.tryRecoverNominal hord hvoted inp).of_progress (w.progress_afterRecovery inp)

/-- Calls that keep the votes keep the voted values. -/
theorem voted_apply {w : WatchdogComponent} {op : WatchdogOp} (h : KeepsVotes w.voted op) :
    (w.apply op).voted = w.voted := by
  cases op with
  | step inp =>
    have hattempt : (w.afterRecovery inp).voted = (w.beforeRecovery inp).voted := by
      rcases (w.beforeRecovery inp).tryRecoverNominal_cases inp with ⟨-, hp⟩ | ⟨-, -, hp⟩
      · exact hp.voted_eq
      · exact hp.voted_eq
    calc (w.step inp).voted = (w.afterRecovery inp).voted := (w.progress_afterRecovery inp).voted_eq
      _ = (w.beforeRecovery inp).voted := hattempt
      _ = w.voted := (w.beforeRecovery_spec inp).2.2.1
  | injectBatteryLevel soc => exact (w.processBattery_spec soc).1.voted_eq
  | pollSchedulerHealth frame_drops =>
    exact (w.progress_pollSchedulerHealth (P := Raise) frame_drops).voted_eq
  | pollPortOverflow ov port_name =>
    exact (w.progress_pollPortOverflow (P := Raise) ov port_name).voted_eq
  | eventPort event_out => rfl
  | thresholdStores e s d => exact h

/-- Every call keeps the guard. -/
theorem Guarded.apply {t : BatteryThresholds} {sample : Option Binary32} {w : WatchdogComponent}
    (h : Guarded t sample w) (hord : t.Ordered) (ht : thresholdsFor w.voted = t)
    (op : WatchdogOp) : Guarded t ((samplesOf op).getLast?.or sample) (w.apply op) := by
  cases op with
  | step inp => exact h.step hord ht inp
  | injectBatteryLevel soc =>
    obtain ⟨hp, hlevel⟩ := w.processBattery_spec soc
    refine ⟨fun batt hb => ?_, fun batt hb => ?_⟩
    · exact hp.soc_eq.trans (Option.some.inj hb)
    · obtain rfl : soc = batt := Option.some.inj hb
      rw [ht] at hlevel
      calc demanded t soc ≤ max w.mission_state.toNat (demanded t soc) := le_max_right _ _
        _ = (w.processBattery soc).mission_state.toNat := hlevel.symm
  | pollSchedulerHealth frame_drops =>
    exact h.of_progress (w.progress_pollSchedulerHealth frame_drops)
  | pollPortOverflow ov port_name => exact h.of_progress (w.progress_pollPortOverflow ov port_name)
  | eventPort | thresholdStores => exact ⟨h.soc_eq, h.level⟩

/-- The latest sample of one more operation is its own last one, if it has one. -/
theorem latest_concat (ops : List WatchdogOp) (op : WatchdogOp) :
    latest (ops ++ [op]) = (samplesOf op).getLast?.or (latest ops) := by
  unfold latest
  rw [List.flatMap_append, List.getLast?_append, List.flatMap_singleton]

/-- Over a run whose calls keep the votes, the voted values stay and the most recent sample is
guarded. -/
theorem guarded_run {w₀ : WatchdogComponent} {t : BatteryThresholds} (ht : w₀.InForce t)
    (ops : List WatchdogOp) (hops : ∀ op ∈ ops, KeepsVotes w₀.voted op) :
    (run WatchdogComponent.apply w₀.init ops).voted = w₀.voted ∧
      Guarded t (latest ops) (run WatchdogComponent.apply w₀.init ops) := by
  obtain ⟨hord, hforce⟩ := ht.spec
  induction ops using List.reverseRecOn with
  | nil =>
    -- The first event assigns nothing, and there is no sample yet.
    have hinit : w₀.init.voted = w₀.voted :=
      (progress_emit (P := Raise) { w₀.setMissionState MissionState.NOMINAL with
        last_batt_soc := Binary32.ofNat 100 } _ _).voted_eq
    exact ⟨hinit, nofun, nofun⟩
  | append_singleton ops op ih =>
    obtain ⟨hvoted, hguard⟩ := ih fun op' h => hops op' (List.mem_append_left _ h)
    have hop := hops op (List.mem_append_right _ (List.mem_singleton_self op))
    rw [run_concat, latest_concat]
    exact ⟨(voted_apply (by rwa [hvoted])).trans hvoted,
      hguard.apply hord (by rw [hvoted, hforce]) op⟩

/-- What a sample demands, threshold by threshold. -/
theorem demanded_spec (t : BatteryThresholds) (batt : Binary32) :
    (batt ≤ t.emergency_pct → demanded t batt = MissionState.EMERGENCY.toNat) ∧
      (batt ≤ t.safe_mode_pct → MissionState.SAFE_MODE.toNat ≤ demanded t batt) ∧
      (batt ≤ t.degraded_pct → MissionState.DEGRADED.toNat ≤ demanded t batt) := by
  unfold demanded
  refine ⟨fun he => if_pos he, fun hs => ?_, fun hd => ?_⟩
  · split_ifs <;> simp [MissionState.toNat]
  · split_ifs <;> simp [MissionState.toNat]

/-- Nothing is worse than EMERGENCY. -/
theorem eq_emergency {a : MissionState} (h : MissionState.EMERGENCY.toNat ≤ a.toNat) :
    a = MissionState.EMERGENCY := by
  cases a <;> simp [MissionState.toNat] at h ⊢

/-- Battery protection over every run after `init()` with increasing thresholds that stay. After
every call the mission state is at least the level that the most recent sample demands, and in
every cycle the recovery attempt leaves the mission state alone while the most recent sample is at
most `min (degraded + 2) 100`. -/
theorem battery_protection (w₀ : WatchdogComponent) (t : BatteryThresholds) (ht : w₀.InForce t)
    (ops : List WatchdogOp) (hops : ∀ op ∈ ops, KeepsVotes w₀.voted op) :
    let w := run WatchdogComponent.apply w₀.init ops
    (∀ batt, latest ops = some batt →
      (batt ≤ t.emergency_pct → w.mission_state = MissionState.EMERGENCY) ∧
        (batt ≤ t.safe_mode_pct → MissionState.SAFE_MODE.toNat ≤ w.mission_state.toNat) ∧
        (batt ≤ t.degraded_pct → MissionState.DEGRADED.toNat ≤ w.mission_state.toNat)) ∧
      ∀ inp batt, latest (ops ++ [WatchdogOp.step inp]) = some batt → ¬batt.IsNaN →
        batt.toRat ≤ min (t.degraded_pct.toRat + 2) 100 →
        Follows Never (w.beforeRecovery inp) (w.afterRecovery inp) := by
  intro w
  obtain ⟨hord, hforce⟩ := ht.spec
  obtain ⟨hvoted, hguard⟩ := guarded_run ht ops hops
  have hw : thresholdsFor w.voted = t := by rw [← hforce, ← hvoted]
  refine ⟨fun batt hb => ?_, fun inp batt hb hnan hband => ?_⟩
  · obtain ⟨he, hs, hd⟩ := demanded_spec t batt
    have hlevel := hguard.level batt hb
    exact ⟨fun h => eq_emergency ((he h).symm.le.trans hlevel), fun h => (hs h).trans hlevel,
      fun h => (hd h).trans hlevel⟩
  · rw [latest_concat] at hb
    have hbefore := hguard.beforeRecovery hw inp
    rcases (w.beforeRecovery inp).tryRecoverNominal_cases inp with ⟨-, hp⟩ | ⟨hmay, -, -⟩
    · exact hp.path
    · -- The band lies at or below the recovery threshold, rounded as it is.
      exfalso
      have hsoc : (w.beforeRecovery inp).last_batt_soc = batt := hbefore.soc_eq batt hb
      have hrec : batt ≤ t.recover_nominal_pct := by
        rcases ht with ⟨-, rfl⟩ | ⟨e, s, d, -, rfl, hinc⟩
        · exact le_recover_ofLevels BATT_EMERGENCY_PCT BATT_SAFE_MODE_PCT hnan
            (by decide +kernel) hband
        · exact le_recover_ofLevels e s hnan (isFinite_of_le_max hord.degraded_pos hord.degraded_le)
            hband
      have hbatt := hmay.battery
      rw [((w.beforeRecovery inp).currentBatteryThresholds_spec (P := Never)).1,
        (w.beforeRecovery_spec inp).2.2.1, hw, hsoc] at hbatt
      exact Binary32.not_le_of_lt hbatt hrec

/-- With thresholds 1, 4, and 10, a sample of 3 holds the mission in `SAFE_MODE` or above for the
next cycle too. -/
theorem battery_protection_configured :
    let w₀ := configured (Binary32.ofNat 1) (Binary32.ofNat 4) (Binary32.ofNat 10)
    let ops := [WatchdogOp.step (corrupted [Binary32.ofNat 20, Binary32.ofNat 3]),
      WatchdogOp.step (corrupted [])]
    MissionState.SAFE_MODE.toNat ≤
      (run WatchdogComponent.apply w₀.init ops).mission_state.toNat :=
  ((battery_protection (configured (Binary32.ofNat 1) (Binary32.ofNat 4) (Binary32.ofNat 10))
    (ofLevels (Binary32.ofNat 1) (Binary32.ofNat 4) (Binary32.ofNat 10))
    (Or.inr ⟨_, _, _, rfl, rfl,
      ⟨by decide +kernel, by decide +kernel, by decide +kernel, by decide +kernel⟩⟩)
    [WatchdogOp.step (corrupted [Binary32.ofNat 20, Binary32.ofNat 3]),
      WatchdogOp.step (corrupted [])]
    (by simp [KeepsVotes])).1 (Binary32.ofNat 3) (by decide +kernel)).2.1 (by decide +kernel)

end WatchdogComponent

end DeltaV
