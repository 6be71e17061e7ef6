import DeltaV.CommandHub.Contract
import DeltaV.Watchdog.Battery
import DeltaV.Watchdog.Calm
import DeltaV.Watchdog.Restarts

/-!
# The watchdog and the command hub together

Both step in the NORM tier, one after the other, and each reads the other: the hub gates every
command by the mission state of the watchdog, and the watchdog supervises the hub as one of its
subsystems. `MissionSystem.step` closes this loop. A pass of the hub reads the mission state that
the watchdog has, and a cycle of the watchdog gets the health that the error count of the hub stands
for.

Two properties of the closed loop follow over every interleaving. A low battery shuts the commands
out, class by class (`battery_gates_commands`). A refused command counts an error of the hub, and
since the hub is passive its errors are never cleared: three refusals close the mission to
restricted commands and ten to all but housekeeping, for good (`refusals_latch`).
-/

namespace DeltaV

/-! ## What a subsystem demands of the mission state -/

/-- The level of the mission state that the answer of a supervised subsystem demands. -/
def HealthStatus.level : HealthStatus → ℕ
  | NOMINAL => 0
  | WARNING => MissionState.DEGRADED.toNat
  | CRITICAL_FAILURE => MissionState.SAFE_MODE.toNat

namespace Component

/-- The level by the error count. -/
theorem level_spec (c : Component) :
    (3 ≤ c.error_count.toNat → MissionState.DEGRADED.toNat ≤ c.reportHealth.level) ∧
      (10 ≤ c.error_count.toNat → MissionState.SAFE_MODE.toNat ≤ c.reportHealth.level) := by
  have hwarning : WARNING_THRESHOLD.toNat = 3 := rfl
  have hcritical : CRITICAL_THRESHOLD.toNat = 10 := rfl
  unfold reportHealth
  simp only [UInt32.le_iff_toNat_le, hwarning, hcritical]
  split_ifs with h10 h3
  · exact ⟨fun _ => by decide, fun _ => le_rfl⟩
  · exact ⟨fun _ => le_rfl, fun h => absurd h h10⟩
  · exact ⟨fun h => absurd h h3, fun h => absurd h h10⟩

/-- More errors demand no less. -/
theorem level_mono {a b : Component} (h : a.error_count.toNat ≤ b.error_count.toNat) :
    a.reportHealth.level ≤ b.reportHealth.level := by
  unfold reportHealth
  simp only [UInt32.le_iff_toNat_le]
  have horder : WARNING_THRESHOLD.toNat ≤ CRITICAL_THRESHOLD.toNat := by decide
  split_ifs <;> first | decide | omega

end Component

namespace WatchdogComponent

/-- A critical answer sets its flag, and the flag stays set. -/
theorem critical_checkSubsystem (inp : StepInput) (acc : WatchdogComponent × Bool × Bool) (i : ℕ)
    (h : (∃ comp, acc.1.subsystem i = some comp ∧ inp.health i = HealthStatus.CRITICAL_FAILURE) ∨
      acc.2.1 = true) : (checkSubsystem inp acc i).2.1 = true := by
  unfold checkSubsystem
  rcases hi : acc.1.subsystem i with _ | comp
  · rcases h with ⟨comp, hcomp, -⟩ | h
    · rw [hi] at hcomp
      cases hcomp
    · exact h
  · rcases hhealth : inp.health i with _ | _ | _
    · rcases h with ⟨-, -, hcritical⟩ | h
      · rw [hhealth] at hcritical
        cases hcritical
      · exact h
    · rcases h with ⟨-, -, hcritical⟩ | h
      · rw [hhealth] at hcritical
        cases hcritical
      · exact h
    · rfl

/-- The loop ends with the critical flag set when one of the subsystems answers so. -/
theorem critical_foldl_checkSubsystem (inp : StepInput) (is : List ℕ)
    (acc : WatchdogComponent × Bool × Bool)
    (h : (∃ i ∈ is, ∃ comp, acc.1.subsystem i = some comp ∧
      inp.health i = HealthStatus.CRITICAL_FAILURE) ∨ acc.2.1 = true) :
    (is.foldl (checkSubsystem inp) acc).2.1 = true := by
  induction is generalizing acc with
  | nil =>
    rcases h with ⟨i, hi, -⟩ | h
    · cases hi
    · exact h
  | cons i is ih =>
    refine ih (checkSubsystem inp acc i) ?_
    rcases h with ⟨j, hj, comp, hcomp, hcritical⟩ | h
    · rcases List.mem_cons.mp hj with rfl | hj
      · exact Or.inr (critical_checkSubsystem inp acc j (Or.inl ⟨comp, hcomp, hcritical⟩))
      · -- The pass does not change which subsystems there are.
        have hsystems := (progress_checkSubsystem inp acc i).systems_eq
        refine Or.inl ⟨j, hj, comp, ?_, hcritical⟩
        rwa [subsystem, hsystems]
    · exact Or.inr (critical_checkSubsystem inp acc i (Or.inr h))

/-- An escalation reaches what it escalates to. -/
theorem le_toNat_escalate (w : WatchdogComponent) (next : MissionState) :
    next.toNat ≤ (w.escalate next).mission_state.toNat := by
  rw [toNat_escalate]
  exact le_max_right _ _

/-- A subsystem that is found is one of the registered ones. -/
theorem lt_of_subsystem {w : WatchdogComponent} {i : ℕ} {comp : Subsystem}
    (h : w.subsystem i = some comp) : i < w.monitored_systems.length := by
  by_contra hge
  rw [subsystem, List.getElem?_eq_none (not_lt.mp hge)] at h
  cases h

/-- After the loop over the subsystems the mission state is at least what each answer demands. -/
theorem level_le_checkSubsystems (w : WatchdogComponent) (inp : StepInput) {i : ℕ}
    {comp : Subsystem} (hcomp : w.subsystem i = some comp) :
    (inp.health i).level ≤ (w.checkSubsystems inp).mission_state.toNat := by
  have hmem : i ∈ List.range w.monitored_systems.length := List.mem_range.mpr (lt_of_subsystem hcomp)
  rcases hhealth : inp.health i with _ | _ | _
  · exact Nat.zero_le _
  · have hflag := flag_foldl_checkSubsystem inp (List.range w.monitored_systems.length)
      (w, false, false) (Or.inl ⟨i, hmem, comp, hcomp, by rw [hhealth]; nofun⟩)
    simp only [checkSubsystems]
    -- A set flag escalates, to `DEGRADED` or higher.
    split_ifs with hcritical hwarning
    · exact le_trans (by decide) (le_toNat_escalate _ MissionState.SAFE_MODE)
    · exact le_toNat_escalate _ MissionState.DEGRADED
    · exact absurd hflag (not_or.mpr ⟨hcritical, hwarning⟩)
  · have hflag := critical_foldl_checkSubsystem inp (List.range w.monitored_systems.length)
      (w, false, false) (Or.inl ⟨i, hmem, comp, hcomp, hhealth⟩)
    simp only [checkSubsystems]
    rw [if_pos hflag]
    exact le_toNat_escalate _ MissionState.SAFE_MODE

/-- A cycle ends with the mission state at least at what a subsystem demands that does not get well
in the cycle: its second answer also stops the recovery. -/
theorem level_le_step (w : WatchdogComponent) (inp : StepInput) {i : ℕ} {comp : Subsystem}
    (hcomp : w.subsystem i = some comp)
    (hwell : inp.recoveryHealth i = HealthStatus.NOMINAL → inp.health i = HealthStatus.NOMINAL) :
    (inp.health i).level ≤ (w.step inp).mission_state.toNat := by
  have hsystems := (w.tick.progress_checkBattery inp.samples).systems_eq
  have hcomp' : (w.tick.checkBattery inp.samples).subsystem i = some comp := by
    rw [subsystem, hsystems]
    exact hcomp
  have hbefore : (inp.health i).level ≤ (w.beforeRecovery inp).mission_state.toNat :=
    level_le_checkSubsystems _ inp hcomp'
  refine le_trans ?_ (w.progress_afterRecovery inp).toNat_le
  rcases (w.beforeRecovery inp).tryRecoverNominal_cases inp with ⟨-, h⟩ | ⟨hmay, -, -⟩
  · have hkept : (w.afterRecovery inp).mission_state = (w.beforeRecovery inp).mission_state :=
      h.mission_state_eq
    rwa [hkept]
  · -- A recovery takes the answer `NOMINAL`, which demands nothing.
    have hget : (w.beforeRecovery inp).monitored_systems[i]? = some (some comp) := by
      have hpass := (progress_checkSubsystems (w.tick.checkBattery inp.samples) inp).systems_eq
      have hjoin : (w.beforeRecovery inp).subsystem i = some comp := by
        rw [subsystem, show (w.beforeRecovery inp).monitored_systems =
          (w.tick.checkBattery inp.samples).monitored_systems from hpass]
        exact hcomp'
      exact Option.join_eq_some_iff.mp hjoin
    rw [hwell (hmay.health i comp hget)]
    exact Nat.zero_le _

/-- Calls other than `step()` do not lower the mission state. -/
theorem toNat_le_apply (w : WatchdogComponent) (op : WatchdogOp)
    (h : ∀ inp, op ≠ WatchdogOp.step inp) :
    w.mission_state.toNat ≤ (w.apply op).mission_state.toNat := by
  have htransition := w.transition_apply op
  cases op with
  | step inp => exact absurd rfl (h inp)
  | injectBatteryLevel | pollSchedulerHealth | pollPortOverflow | eventPort | thresholdStores =>
    obtain ⟨acts, -, hpath⟩ := htransition
    exact hpath.toNat_le

end WatchdogComponent

/-! ## What refusals leave at the hub -/

/-- The action reports a command that was blocked, not routed, or not accepted. -/
def refusal {Out In : Type*} : HubAction Out In → Bool
  | HubAction.event packet _ => decide (packet.severity = Severity.WARNING)
  | _ => false

namespace HubSystem

variable {Out In EventOut EventIn : Type*} [DecidableEq In] [DecidableEq EventIn]

/-- The number of refused commands. -/
def refusals (s : HubSystem Out In EventOut EventIn) : ℕ := s.log.countP refusal

omit [DecidableEq In] [DecidableEq EventIn] in
/-- A registration counts at most one error. -/
theorem errors_register (hub : CommandHub Out) :
    (∀ comp_id port, ∃ d ≤ 1, (hub.registerRoute comp_id port).base.error_count =
        hub.base.error_count + UInt32.ofNat d) ∧
      ∀ target_id opcode op_class, ∃ d ≤ 1,
        (hub.registerCommandPolicy target_id opcode op_class).base.error_count =
          hub.base.error_count + UInt32.ofNat d := by
  constructor
  · intro comp_id port
    unfold CommandHub.registerRoute
    split
    · exact ⟨1, le_rfl, rfl⟩
    · split_ifs
      · exact ⟨1, le_rfl, rfl⟩
      · exact ⟨0, Nat.zero_le _, (UInt32.add_zero _).symm⟩
      · exact ⟨1, le_rfl, rfl⟩
  · intro target_id opcode op_class
    unfold CommandHub.registerCommandPolicy
    rcases eq_or_ne target_id 0 with h0 | h0
    · rw [if_pos h0]
      exact ⟨1, le_rfl, rfl⟩
    · rw [if_neg h0]
      split
      · split_ifs
        · exact ⟨1, le_rfl, rfl⟩
        · exact ⟨0, Nat.zero_le _, (UInt32.add_zero _).symm⟩
      · split_ifs
        · exact ⟨0, Nat.zero_le _, (UInt32.add_zero _).symm⟩
        · exact ⟨1, le_rfl, rfl⟩

/-- A step counts at most two errors, and at least one for each command it refuses. -/
structure Counts (s s' : HubSystem Out In EventOut EventIn) (d : ℕ) : Prop where
  le_two : d ≤ 2
  errors_eq : s'.hub.base.error_count = s.hub.base.error_count + UInt32.ofNat d
  refusals_le : s'.refusals ≤ s.refusals + d

omit [DecidableEq In] [DecidableEq EventIn] in
/-- A step that touches neither the errors nor the refusals. -/
theorem Counts.zero {s s' : HubSystem Out In EventOut EventIn}
    (herrors : s'.hub.base.error_count = s.hub.base.error_count)
    (hrefusals : s'.refusals = s.refusals) : Counts s s' 0 :=
  ⟨Nat.zero_le _, herrors.trans (UInt32.add_zero _).symm, hrefusals.le⟩

/-- A dispatch counts its refusal. -/
theorem counts_of_dispatched {cls : OpClass} {route : Option Out} {state_raw : UInt8}
    {cmd : CommandPacket} {offer : Option (Offer Out In)} {outcome : Outcome} {sent : Bool}
    {s s' : HubSystem Out In EventOut EventIn}
    (h : Dispatched cls route state_raw cmd offer outcome sent s s') :
    Counts s s' ((if outcome = Outcome.acked then 0 else 1) + if sent then 0 else 1) := by
  have hrefusals : s'.refusals = s.refusals + if outcome = Outcome.acked then 0 else 1 := by
    have hseverity : (outcome.ack s.hub.base.id cmd state_raw).severity = outcome.severity := rfl
    have hinfo : Severity.INFO ≠ Severity.WARNING := by decide
    unfold refusals
    rw [h.log_eq]
    cases offer <;> cases outcome <;> simp [refusal, hseverity, Outcome.severity, hinfo]
  refine ⟨?_, ?_, ?_⟩
  · split_ifs <;> omega
  · rw [h.error_count_eq]
    split_ifs <;> simp [UInt32.add_assoc]
  · rw [hrefusals]
    omega

variable [DecidableEq Out] [DecidableEq EventOut]

/-- What a step counts. -/
theorem counts_step (s : HubSystem Out In EventOut EventIn) (hw : s.hub.watchdog = true)
    (op : HubOp Out In EventOut EventIn) : ∃ d, Counts s (s.step op) d := by
  cases op with
  | registerRoute comp_id port =>
    obtain ⟨d, hd, herrors⟩ := (errors_register s.hub).1 comp_id port
    exact ⟨d, hd.trans (by decide), herrors, Nat.le_add_right _ _⟩
  | registerCommandPolicy target_id opcode op_class =>
    obtain ⟨d, hd, herrors⟩ := (errors_register s.hub).2 target_id opcode op_class
    exact ⟨d, hd.trans (by decide), herrors, Nat.le_add_right _ _⟩
  | consume state_raw =>
    rcases hpending : s.commands.pending s.cmd_input with _ | ⟨cmd, rest⟩
    · rw [show s.step (HubOp.consume state_raw) = s from s.consume_empty state_raw hpending]
      exact ⟨0, Counts.zero rfl rfl⟩
    · obtain ⟨offer, outcome, sent, h⟩ := s.dispatched_consume hw state_raw hpending
      exact ⟨_, counts_of_dispatched h⟩
  | connect | connectEvent | deliverEvent => exact ⟨0, Counts.zero rfl rfl⟩
  | deliver i cmd => exact ⟨0, Counts.zero rfl (by simp [refusals, step, refusal])⟩
  | take i =>
    refine ⟨0, ?_⟩
    simp only [step]
    split_ifs
    · exact Counts.zero rfl rfl
    · split
      · exact Counts.zero rfl rfl
      · exact Counts.zero rfl (by simp [refusals, refusal])
  | takeEvent i =>
    refine ⟨0, ?_⟩
    simp only [step]
    split <;> exact Counts.zero rfl rfl

/-- The error count after `n` steps: it covers the refusals, and it has not wrapped. -/
structure Tally (n : ℕ) (s : HubSystem Out In EventOut EventIn) : Prop where
  gated : s.hub.watchdog = true
  refusals_le : s.refusals ≤ s.hub.base.error_count.toNat
  errors_le : s.hub.base.error_count.toNat ≤ 2 * n

omit [DecidableEq In] [DecidableEq EventIn] [DecidableEq Out] [DecidableEq EventOut] in
/-- Errors add up as long as the count does not wrap. -/
theorem Counts.toNat_errors {s s' : HubSystem Out In EventOut EventIn} {d : ℕ}
    (h : Counts s s' d) (hfits : s.hub.base.error_count.toNat + 2 < 2^32) :
    s'.hub.base.error_count.toNat = s.hub.base.error_count.toNat + d := by
  have hd := h.le_two
  rw [h.errors_eq, UInt32.toNat_add, UInt32.toNat_ofNat']
  omega

/-- No step takes the mission state source away. -/
theorem watchdog_step (s : HubSystem Out In EventOut EventIn) (hw : s.hub.watchdog = true)
    (op : HubOp Out In EventOut EventIn) : (s.step op).hub.watchdog = true := by
  cases op with
  | registerRoute comp_id port => exact (s.hub.registerRoute_frame comp_id port).2.1.trans hw
  | registerCommandPolicy target_id opcode op_class =>
    exact (s.hub.registerCommandPolicy_frame target_id opcode op_class).2.1.trans hw
  | consume state_raw =>
    rcases hpending : s.commands.pending s.cmd_input with _ | ⟨cmd, rest⟩
    · rw [show s.step (HubOp.consume state_raw) = s from s.consume_empty state_raw hpending]
      exact hw
    · obtain ⟨offer, outcome, sent, h⟩ := s.dispatched_consume hw state_raw hpending
      exact h.framed.watchdog_eq.trans hw
  | connect | deliver | connectEvent | deliverEvent => exact hw
  | take i =>
    simp only [step]
    split_ifs
    · exact hw
    · split <;> exact hw
  | takeEvent i =>
    simp only [step]
    split <;> exact hw

/-- A step keeps the tally and does not lower the error count. -/
theorem Tally.step {n : ℕ} {s : HubSystem Out In EventOut EventIn} (h : Tally n s)
    (hn : 2 * (n + 1) < 2^32) (op : HubOp Out In EventOut EventIn) :
    Tally (n + 1) (s.step op) ∧
      s.hub.base.error_count.toNat ≤ (s.step op).hub.base.error_count.toNat := by
  obtain ⟨d, hd⟩ := s.counts_step h.gated op
  have herrors := h.errors_le
  have hsum := hd.toNat_errors (by omega)
  have hle := hd.le_two
  have hrefusals := hd.refusals_le
  have hcovered := h.refusals_le
  exact ⟨⟨s.watchdog_step h.gated op, by omega, by omega⟩, by omega⟩

end HubSystem

/-! ## The closed loop -/

/-- The watchdog and the command hub, each wired to the other. -/
structure MissionSystem (Out In EventOut EventIn : Type*) where
  watchdog : WatchdogComponent
  commands : HubSystem Out In EventOut EventIn
  /-- The position at which the hub is registered with the watchdog. -/
  hub_idx : ℕ
  /-- The hub is supervised, as a passive subsystem. -/
  supervised : ∃ name, watchdog.subsystem hub_idx = some ⟨name, false⟩
  /-- The hub reads the mission state. -/
  gated : commands.hub.watchdog = true

/-- What can happen next. -/
inductive MissionOp (Out In EventOut EventIn : Type*) where
  /-- A call of the watchdog. -/
  | supervise (op : WatchdogOp)
  /-- A step of the hub or of its ports. -/
  | command (op : HubOp Out In EventOut EventIn)

/-- The operation with the given mission state in the place of the one it reads. -/
def HubOp.reading {Out In EventOut EventIn : Type*} (state_raw : UInt8) :
    HubOp Out In EventOut EventIn → HubOp Out In EventOut EventIn
  | HubOp.consume _ => HubOp.consume state_raw
  | op => op

/-- The calls of the watchdog among the operations. -/
def watchdogOps {Out In EventOut EventIn : Type*} (ops : List (MissionOp Out In EventOut EventIn)) :
    List WatchdogOp :=
  ops.filterMap fun op =>
    match op with
    | MissionOp.supervise op => some op
    | MissionOp.command _ => none

namespace MissionSystem

variable {Out In EventOut EventIn : Type*} [DecidableEq In] [DecidableEq EventIn] [DecidableEq Out]
  [DecidableEq EventOut]

/-- `getMissionStateRaw()`. -/
def getMissionStateRaw (s : MissionSystem Out In EventOut EventIn) : UInt8 :=
  UInt8.ofNat s.watchdog.mission_state.toNat

/-- The answers of the subsystems, with those of the hub at its position. -/
def answers (s : MissionSystem Out In EventOut EventIn) (inp : StepInput) : StepInput :=
  { inp with
    health := Function.update inp.health s.hub_idx s.commands.hub.base.reportHealth
    errorCount := Function.update inp.errorCount s.hub_idx s.commands.hub.base.error_count
    recoveryHealth := Function.update inp.recoveryHealth s.hub_idx s.commands.hub.base.reportHealth }

/-- The call with the answers of the hub. -/
def answered (s : MissionSystem Out In EventOut EventIn) : WatchdogOp → WatchdogOp
  | WatchdogOp.step inp => WatchdogOp.step (s.answers inp)
  | op => op

/-- The next state. -/
def step (s : MissionSystem Out In EventOut EventIn) :
    MissionOp Out In EventOut EventIn → MissionSystem Out In EventOut EventIn
  | MissionOp.supervise op =>
    { s with
      watchdog := s.watchdog.apply (s.answered op)
      supervised := by
        simpa only [WatchdogComponent.subsystem, s.watchdog.monitored_systems_apply]
          using s.supervised }
  | MissionOp.command op =>
    { s with
      commands := s.commands.step (op.reading s.getMissionStateRaw)
      gated := s.commands.watchdog_step s.gated _ }

/-- `init()` of the watchdog; that of the hub does nothing. -/
def init (s : MissionSystem Out In EventOut EventIn) : MissionSystem Out In EventOut EventIn :=
  { s with
    watchdog := s.watchdog.init
    supervised := by
      have hsystems : s.watchdog.init.monitored_systems = s.watchdog.monitored_systems :=
        (WatchdogComponent.progress_emit (P := WatchdogComponent.Never) _ _ _).systems_eq
      simpa only [WatchdogComponent.subsystem, hsystems] using s.supervised }

/-- The commands that the hub has sent to an output port, in order. -/
def offers (s : MissionSystem Out In EventOut EventIn) : List CommandPacket :=
  s.commands.log.flatMap HubSystem.offered

/-- The next operation sends the command to an output port. -/
def Forwards (s : MissionSystem Out In EventOut EventIn) (op : MissionOp Out In EventOut EventIn)
    (cmd : CommandPacket) : Prop :=
  (s.step op).offers = s.offers ++ [cmd]

instance (s : MissionSystem Out In EventOut EventIn) (op : MissionOp Out In EventOut EventIn)
    (cmd : CommandPacket) : Decidable (s.Forwards op cmd) := inferInstanceAs (Decidable (_ = _))

/-! ### The gate -/

/-- What a step of the hub sends is legal in the mission state that it reads. -/
theorem offers_hub_step (h : HubSystem Out In EventOut EventIn) (hw : h.hub.watchdog = true)
    (state_raw : UInt8) (op : HubOp Out In EventOut EventIn) :
    let h' := h.step (op.reading state_raw)
    h'.log.flatMap HubSystem.offered = h.log.flatMap HubSystem.offered ∨
      ∃ cmd, MissionFsm.isAllowed state_raw (h.hub.classifyCommand cmd) = true ∧
        h'.log.flatMap HubSystem.offered = h.log.flatMap HubSystem.offered ++ [cmd] := by
  intro h'
  simp only [h']
  cases op with
  | consume other =>
    rcases hpending : h.commands.pending h.cmd_input with _ | ⟨cmd, rest⟩
    · exact Or.inl (by rw [show h.step (HubOp.reading state_raw (HubOp.consume other)) = h from
        h.consume_empty state_raw hpending])
    · obtain ⟨offer, outcome, sent, hd⟩ := h.dispatched_consume hw state_raw hpending
      have hlog : (h.step (HubOp.reading state_raw (HubOp.consume other))).log = _ := hd.log_eq
      rcases hallowed : MissionFsm.isAllowed state_raw (h.hub.classifyCommand cmd) with _ | _
      · -- An illegal command is answered and not sent.
        obtain ⟨rfl, -⟩ := hd.gated.blocked hallowed
        exact Or.inl (by rw [hlog]; simp [HubSystem.offered])
      · cases offer with
        | none => exact Or.inl (by rw [hlog]; simp [HubSystem.offered])
        | some o => exact Or.inr ⟨cmd, hallowed, by rw [hlog]; simp [HubSystem.offered]⟩
  | registerRoute | registerCommandPolicy | connect | connectEvent | deliverEvent =>
    exact Or.inl rfl
  | deliver i cmd => exact Or.inl (by simp [HubOp.reading, HubSystem.step, HubSystem.offered])
  | take i =>
    refine Or.inl ?_
    simp only [HubOp.reading, HubSystem.step]
    split_ifs
    · rfl
    · split
      · rfl
      · simp [HubSystem.offered]
  | takeEvent i =>
    refine Or.inl ?_
    simp only [HubOp.reading, HubSystem.step]
    split <;> rfl

/-- An operation sends nothing, or one command that is legal in the mission state. -/
theorem offers_step (s : MissionSystem Out In EventOut EventIn)
    (op : MissionOp Out In EventOut EventIn) :
    (s.step op).offers = s.offers ∨
      ∃ cmd, MissionFsm.isAllowed s.getMissionStateRaw (s.commands.hub.classifyCommand cmd) = true ∧
        s.Forwards op cmd := by
  cases op with
  | supervise op => exact Or.inl rfl
  | command op => exact offers_hub_step s.commands s.gated s.getMissionStateRaw op

/-- A command that is sent is legal in the mission state. -/
theorem allowed_of_forwards {s : MissionSystem Out In EventOut EventIn}
    {op : MissionOp Out In EventOut EventIn} {cmd : CommandPacket} (h : s.Forwards op cmd) :
    MissionFsm.isAllowed s.getMissionStateRaw (s.commands.hub.classifyCommand cmd) = true := by
  unfold Forwards at h
  rcases s.offers_step op with hnone | ⟨cmd', hallowed, hsent⟩
  · rw [hnone] at h
    exact absurd (List.append_right_eq_self.mp h.symm) (List.cons_ne_nil _ _)
  · unfold Forwards at hsent
    rw [h, List.append_cancel_left_eq, List.singleton_inj] at hsent
    rwa [hsent]

/-- What the level of the mission state says about the class of a legal command. -/
theorem class_of_allowed {m : MissionState} {cls : OpClass}
    (h : MissionFsm.isAllowed (UInt8.ofNat m.toNat) cls = true) :
    (MissionState.DEGRADED.toNat ≤ m.toNat → cls ≠ OpClass.RESTRICTED) ∧
      (MissionState.SAFE_MODE.toNat ≤ m.toNat → cls = OpClass.HOUSEKEEPING) ∧
      m ≠ MissionState.EMERGENCY := by
  revert h
  cases m <;> cases cls <;> decide

/-- `EMERGENCY` is final. -/
theorem emergency_step {s : MissionSystem Out In EventOut EventIn}
    (h : s.watchdog.mission_state = MissionState.EMERGENCY)
    (op : MissionOp Out In EventOut EventIn) :
    (s.step op).watchdog.mission_state = MissionState.EMERGENCY ∧
      (s.step op).offers = s.offers := by
  refine ⟨?_, ?_⟩
  · cases op with
    | supervise op => exact (s.watchdog.follows_apply _).keeps.1 h
    | command op => exact h
  · rcases s.offers_step op with hnone | ⟨cmd, hallowed, -⟩
    · exact hnone
    · exact absurd h (class_of_allowed hallowed).2.2

/-- In `EMERGENCY` no command is sent any more, whatever happens. -/
theorem offers_run_of_emergency {s : MissionSystem Out In EventOut EventIn}
    (h : s.watchdog.mission_state = MissionState.EMERGENCY)
    (ops : List (MissionOp Out In EventOut EventIn)) : (run step s ops).offers = s.offers := by
  have hkeep (s' : MissionSystem Out In EventOut EventIn)
      (op : MissionOp Out In EventOut EventIn)
      (hs' : s'.watchdog.mission_state = MissionState.EMERGENCY ∧ s'.offers = s.offers) :
      (s'.step op).watchdog.mission_state = MissionState.EMERGENCY ∧
        (s'.step op).offers = s.offers :=
    ⟨(emergency_step hs'.1 op).1, (emergency_step hs'.1 op).2.trans hs'.2⟩
  exact (run_invariant hkeep ⟨h, rfl⟩ ops).2

/-! ### Low battery -/

omit [DecidableEq In] [DecidableEq EventIn] [DecidableEq Out] [DecidableEq EventOut] in
/-- The answers of the hub change neither the samples nor the threshold stores of a call. -/
theorem answered_spec (s : MissionSystem Out In EventOut EventIn) (op : WatchdogOp) :
    WatchdogComponent.samplesOf (s.answered op) = WatchdogComponent.samplesOf op ∧
      ∀ v, WatchdogComponent.KeepsVotes v op → WatchdogComponent.KeepsVotes v (s.answered op) := by
  cases op <;> exact ⟨rfl, fun _ => id⟩

/-- The calls that the watchdog takes in a run of the closed loop are those of the run, up to the
answers of the hub. -/
theorem watchdog_run (s : MissionSystem Out In EventOut EventIn)
    (ops : List (MissionOp Out In EventOut EventIn)) :
    ∃ calls, (run step s ops).watchdog = run WatchdogComponent.apply s.watchdog calls ∧
      WatchdogComponent.latest calls = WatchdogComponent.latest (watchdogOps ops) ∧
      ∀ v, (∀ op ∈ watchdogOps ops, WatchdogComponent.KeepsVotes v op) →
        ∀ op ∈ calls, WatchdogComponent.KeepsVotes v op := by
  induction ops using List.reverseRecOn with
  | nil => exact ⟨[], rfl, rfl, fun _ _ => nofun⟩
  | append_singleton ops op ih =>
    obtain ⟨calls, hrun, hlatest, hvotes⟩ := ih
    rw [run_concat]
    cases op with
    | command op =>
      have hops : watchdogOps (ops ++ [MissionOp.command op]) = watchdogOps ops := by
        simp [watchdogOps]
      rw [hops]
      exact ⟨calls, hrun, hlatest, hvotes⟩
    | supervise op =>
      have hops : watchdogOps (ops ++ [MissionOp.supervise op]) = watchdogOps ops ++ [op] := by
        simp [watchdogOps]
      obtain ⟨hsamples, hkeeps⟩ := (run step s ops).answered_spec op
      refine ⟨calls ++ [(run step s ops).answered op], ?_, ?_, fun v hv op' hmem => ?_⟩
      · rw [run_concat, ← hrun]
        rfl
      · rw [hops, WatchdogComponent.latest_concat, WatchdogComponent.latest_concat, hsamples,
          hlatest]
      · rw [hops] at hv
        rcases List.mem_append.mp hmem with hold | hnew
        · exact hvotes v (fun o ho => hv o (List.mem_append_left _ ho)) op' hold
        · obtain rfl := List.mem_singleton.mp hnew
          exact hkeeps v (hv op (List.mem_append_right _ (List.mem_singleton_self op)))

/-- With ordered thresholds that stay, the mission state is at least at what the most recent sample
demands. -/
theorem demanded_le_run (s : MissionSystem Out In EventOut EventIn) {t : BatteryThresholds}
    (ht : s.watchdog.InForce t) (ops : List (MissionOp Out In EventOut EventIn))
    (hops : ∀ op ∈ watchdogOps ops, WatchdogComponent.KeepsVotes s.watchdog.voted op)
    {batt : Binary32} (hbatt : WatchdogComponent.latest (watchdogOps ops) = some batt) :
    WatchdogComponent.demanded t batt ≤ (run step s.init ops).watchdog.mission_state.toNat := by
  obtain ⟨calls, hrun, hlatest, hvotes⟩ := s.init.watchdog_run ops
  obtain ⟨-, hguard⟩ := WatchdogComponent.guarded_run ht calls (hvotes _ hops)
  rw [show (run step s.init ops).watchdog = run WatchdogComponent.apply s.watchdog.init calls
    from hrun]
  exact hguard.level batt (hlatest.trans hbatt)

/-- A low battery shuts commands out, over every interleaving of watchdog and hub after `init()`
with ordered thresholds that stay. While the most recent sample is at most the safe mode threshold,
only housekeeping commands are sent, and while it is at most the degraded threshold, no restricted
ones. A most recent sample at or below the emergency threshold is the end of all commands: whatever
happens after it, other samples included, nothing is sent any more. -/
theorem battery_gates_commands (s₀ : MissionSystem Out In EventOut EventIn) (t : BatteryThresholds)
    (ht : s₀.watchdog.InForce t) (ops : List (MissionOp Out In EventOut EventIn))
    (hops : ∀ op ∈ watchdogOps ops, WatchdogComponent.KeepsVotes s₀.watchdog.voted op)
    (batt : Binary32) (hbatt : WatchdogComponent.latest (watchdogOps ops) = some batt) :
    let s := run step s₀.init ops
    (batt ≤ t.emergency_pct → ∀ ops', (run step s ops').offers = s.offers) ∧
      ∀ op cmd, s.Forwards op cmd →
        (batt ≤ t.safe_mode_pct →
          s.commands.hub.classifyCommand cmd = OpClass.HOUSEKEEPING) ∧
        (batt ≤ t.degraded_pct → s.commands.hub.classifyCommand cmd ≠ OpClass.RESTRICTED) := by
  intro s
  have hlevel := s₀.demanded_le_run ht ops hops hbatt
  obtain ⟨hemergency, hsafe, hdegraded⟩ := WatchdogComponent.demanded_spec t batt
  refine ⟨fun h ops' => ?_, fun op cmd hsent => ?_⟩
  · exact offers_run_of_emergency
      (WatchdogComponent.eq_emergency ((hemergency h).symm.le.trans hlevel)) ops'
  · obtain ⟨hnotRestricted, hhousekeeping, -⟩ := class_of_allowed (allowed_of_forwards hsent)
    exact ⟨fun h => hhousekeeping ((hsafe h).trans hlevel),
      fun h => hnotRestricted ((hdegraded h).trans hlevel)⟩

/-- A watchdog and a hub before anything is registered with the hub. -/
def bare : MissionSystem Unit Unit Unit Unit where
  watchdog := WatchdogComponent.supervisor.registerSubsystem (some ⟨ascii "CmdHub", false⟩)
  commands := HubSystem.create (Component.create (ascii "CmdHub") 11) () ()
  hub_idx := 0
  supervised := ⟨ascii "CmdHub", by decide⟩
  gated := rfl

/-- A housekeeping command. -/
def reset_battery : CommandPacket := ⟨200, 1, Binary32.ofNat 0⟩

/-- A command that waits at the hub when the battery is at 4. -/
def lowBattery : List (MissionOp Unit Unit Unit Unit) :=
  [MissionOp.command (HubOp.registerRoute 200 (some ())),
    MissionOp.command (HubOp.registerCommandPolicy 200 1 OpClass.HOUSEKEEPING),
    MissionOp.command (HubOp.connect () ()), MissionOp.command (HubOp.deliver () reset_battery),
    MissionOp.supervise (WatchdogOp.injectBatteryLevel (Binary32.ofNat 4))]

/-- With the built-in thresholds, a sample of 4 leaves housekeeping commands only. -/
theorem battery_gates_commands_low :
    let s := run step bare.init lowBattery
    s.Forwards (MissionOp.command (HubOp.consume 0)) reset_battery ∧
      s.commands.hub.classifyCommand reset_battery = OpClass.HOUSEKEEPING := by
  intro s
  have hsent : s.Forwards (MissionOp.command (HubOp.consume 0)) reset_battery := by decide +kernel
  refine ⟨hsent, ?_⟩
  exact ((battery_gates_commands bare BatteryThresholds.default (Or.inl ⟨rfl, rfl⟩) lowBattery
    (by simp [lowBattery, watchdogOps, WatchdogComponent.KeepsVotes]) (Binary32.ofNat 4) rfl).2 _ _
    hsent).1 (by decide +kernel)

/-! ### Refused commands -/

/-- The level of the mission state that the errors of the hub demand. -/
def demandedByHub (s : MissionSystem Out In EventOut EventIn) : ℕ :=
  s.commands.hub.base.reportHealth.level

/-- The loop after `n` operations with a level that the errors of the hub demand: the mission state
has reached it. -/
structure Latched (level n : ℕ) (s : MissionSystem Out In EventOut EventIn) : Prop where
  tally : HubSystem.Tally n s.commands
  demanded : level ≤ s.demandedByHub
  reached : level ≤ s.watchdog.mission_state.toNat

/-- A cycle of the watchdog reaches what the errors of the hub demand. -/
theorem demandedByHub_le_step (s : MissionSystem Out In EventOut EventIn) (inp : StepInput) :
    s.demandedByHub ≤
      (s.step (MissionOp.supervise (WatchdogOp.step inp))).watchdog.mission_state.toNat := by
  obtain ⟨name, hsupervised⟩ := s.supervised
  have hhealth : (s.answers inp).health s.hub_idx = s.commands.hub.base.reportHealth :=
    Function.update_self ..
  have hrecovery : (s.answers inp).recoveryHealth s.hub_idx = s.commands.hub.base.reportHealth :=
    Function.update_self ..
  have hlevel := s.watchdog.level_le_step (s.answers inp) hsupervised fun h =>
    hhealth.trans (hrecovery.symm.trans h)
  rw [hhealth] at hlevel
  exact hlevel

/-- Every operation keeps what is latched. -/
theorem Latched.step {level n : ℕ} {s : MissionSystem Out In EventOut EventIn}
    (h : Latched level n s) (hn : 2 * (n + 1) < 2^32) (op : MissionOp Out In EventOut EventIn) :
    Latched level (n + 1) (s.step op) := by
  cases op with
  | command op =>
    obtain ⟨htally, herrors⟩ := h.tally.step hn (op.reading s.getMissionStateRaw)
    exact ⟨htally, h.demanded.trans (Component.level_mono herrors), h.reached⟩
  | supervise op =>
    have htally : HubSystem.Tally (n + 1) s.commands :=
      ⟨h.tally.gated, h.tally.refusals_le, h.tally.errors_le.trans (by omega)⟩
    refine ⟨htally, h.demanded, ?_⟩
    cases op with
    | step inp => exact h.demanded.trans (s.demandedByHub_le_step inp)
    | injectBatteryLevel | pollSchedulerHealth | pollPortOverflow | eventPort | thresholdStores =>
      exact h.reached.trans (s.watchdog.toNat_le_apply _ nofun)

/-- The tally of a run. -/
theorem tally_run {n : ℕ} {s : MissionSystem Out In EventOut EventIn}
    (h : HubSystem.Tally n s.commands) (ops : List (MissionOp Out In EventOut EventIn))
    (hn : 2 * (n + ops.length) < 2^32) :
    HubSystem.Tally (n + ops.length) (run step s ops).commands := by
  induction ops using List.reverseRecOn with
  | nil => exact h
  | append_singleton ops op ih =>
    rw [List.length_append, List.length_singleton] at hn ⊢
    have hbefore := ih (by omega)
    rw [run_concat]
    cases op with
    | command op => exact (hbefore.step (by omega) _).1
    | supervise op =>
      exact ⟨hbefore.gated, hbefore.refusals_le, hbefore.errors_le.trans (by omega)⟩

/-- What is latched stays latched. -/
theorem Latched.run {level n : ℕ} {s : MissionSystem Out In EventOut EventIn}
    (h : Latched level n s) (ops : List (MissionOp Out In EventOut EventIn))
    (hn : 2 * (n + ops.length) < 2^32) :
    Latched level (n + ops.length) (DeltaV.run MissionSystem.step s ops) := by
  induction ops using List.reverseRecOn with
  | nil => exact h
  | append_singleton ops op ih =>
    rw [List.length_append, List.length_singleton] at hn ⊢
    rw [run_concat]
    exact (ih (by omega)).step (by omega) op

/-- Refusals are latched, over every interleaving of watchdog and hub that is shorter than `2^31`
operations. From the first cycle of the watchdog after the third refused command, the mission state
is `DEGRADED` or above and no restricted command is sent; after the tenth it is `SAFE_MODE` or above
and only housekeeping commands are sent. Nothing in the loop ends this: the errors of the hub are
never cleared, and they stop the recovery. -/
theorem refusals_latch (s₀ : MissionSystem Out In EventOut EventIn) (name : Text) (id : UInt32)
    (cmd_input : In) (ack_out : EventOut)
    (hfresh : s₀.commands = HubSystem.create (Component.create name id) cmd_input ack_out)
    (pre post : List (MissionOp Out In EventOut EventIn)) (inp : StepInput)
    (hlen : pre.length + post.length + 1 < 2^31) :
    let refused := (run step s₀.init pre).commands.refusals
    let s := run step s₀.init (pre ++ MissionOp.supervise (WatchdogOp.step inp) :: post)
    (3 ≤ refused → MissionState.DEGRADED.toNat ≤ s.watchdog.mission_state.toNat ∧
        ∀ op cmd, s.Forwards op cmd →
          s.commands.hub.classifyCommand cmd ≠ OpClass.RESTRICTED) ∧
      (10 ≤ refused → MissionState.SAFE_MODE.toNat ≤ s.watchdog.mission_state.toNat ∧
        ∀ op cmd, s.Forwards op cmd →
          s.commands.hub.classifyCommand cmd = OpClass.HOUSEKEEPING) := by
  intro refused s
  have hstart : HubSystem.Tally 0 s₀.init.commands := by
    have hcommands : s₀.init.commands = s₀.commands := rfl
    rw [hcommands, hfresh]
    exact ⟨rfl, Nat.zero_le _, Nat.zero_le _⟩
  have htally := tally_run hstart pre (by omega)
  set mid := run step s₀.init pre with hmid
  have hcovered : refused ≤ mid.commands.hub.base.error_count.toNat := htally.refusals_le
  -- The cycle reaches the level, and the rest of the run keeps it.
  have hlatch (level : ℕ) (hlevel : level ≤ mid.demandedByHub) :
      level ≤ s.watchdog.mission_state.toNat := by
    have hcycle : Latched level (0 + pre.length + 1)
        (mid.step (MissionOp.supervise (WatchdogOp.step inp))) :=
      ⟨⟨htally.gated, htally.refusals_le, htally.errors_le.trans (by omega)⟩, hlevel,
        hlevel.trans (mid.demandedByHub_le_step inp)⟩
    have hrun : s = run step (mid.step (MissionOp.supervise (WatchdogOp.step inp))) post := by
      rw [hmid, ← run_cons, ← run_append]
    rw [hrun]
    exact (hcycle.run post (by omega)).reached
  obtain ⟨hthree, hten⟩ := mid.commands.hub.base.level_spec
  refine ⟨fun h => ?_, fun h => ?_⟩
  · have hreached := hlatch _ (hthree (h.trans hcovered))
    exact ⟨hreached, fun op cmd hsent =>
      (class_of_allowed (allowed_of_forwards hsent)).1 hreached⟩
  · have hreached := hlatch _ (hten (h.trans hcovered))
    exact ⟨hreached, fun op cmd hsent =>
      (class_of_allowed (allowed_of_forwards hsent)).2.1 hreached⟩

/-- A command to a target that has no route. -/
def unrouted : CommandPacket := ⟨999, 1, Binary32.ofNat 0⟩

/-- Ten commands to an unknown target hold the mission in `SAFE_MODE` or above. -/
theorem refusals_latch_unrouted :
    let pre := (List.replicate 10 [MissionOp.command (HubOp.deliver () unrouted),
      MissionOp.command (HubOp.consume 0)]).flatten
    let s := run step bare.init
      (pre ++ [MissionOp.supervise (WatchdogOp.step (WatchdogComponent.corrupted []))])
    MissionState.SAFE_MODE.toNat ≤ s.watchdog.mission_state.toNat :=
  ((refusals_latch bare (ascii "CmdHub") 11 () () rfl
    (List.replicate 10 [MissionOp.command (HubOp.deliver () unrouted),
      MissionOp.command (HubOp.consume 0)]).flatten [] (WatchdogComponent.corrupted [])
    (by decide)).2 (by decide +kernel)).1

end MissionSystem

end DeltaV
