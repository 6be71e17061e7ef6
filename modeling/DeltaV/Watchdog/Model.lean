import DeltaV.Component
import DeltaV.MissionFsm
import DeltaV.Port
import DeltaV.TmrStore

/-!
# The watchdog

The watchdog escalates the mission state on low battery, on unhealthy subsystems, and on a failed
parameter check, and lowers it again in `tryRecoverNominal` only. What it asks of the rest of the
system in one `step()` is collected in `StepInput`: every answer is arbitrary, and a subsystem may
answer differently each time it is asked. The log keeps the events, the restarts, and every
assignment to the mission state.
-/

namespace DeltaV

/-- The most subsystems a watchdog can supervise. -/
def MAX_MONITORED_SUBSYSTEMS : ℕ := 32

/-- The most restarts of one subsystem. -/
def MAX_RESTARTS_PER_COMPONENT : UInt32 := 3

/-- Cycles between heartbeats. -/
def HEARTBEAT_INTERVAL_CYCLES : UInt32 := 10

/-- Cycles between parameter checks. -/
def PARAM_CHECK_INTERVAL_CYCLES : UInt32 := 30

def BATT_EMERGENCY_PCT : Binary32 := Binary32.ofNat 2

def BATT_SAFE_MODE_PCT : Binary32 := Binary32.ofNat 5

def BATT_DEGRADED_PCT : Binary32 := Binary32.ofNat 15

def BATT_RECOVERY_HYSTERESIS_PCT : Binary32 := Binary32.ofNat 2

def BATT_MAX_PCT : Binary32 := Binary32.ofNat 100

/-- The name of a mission state. -/
def missionStateName : MissionState → Text
  | MissionState.BOOT => ascii "BOOT"
  | MissionState.NOMINAL => ascii "NOMINAL"
  | MissionState.DEGRADED => ascii "DEGRADED"
  | MissionState.SAFE_MODE => ascii "SAFE_MODE"
  | MissionState.EMERGENCY => ascii "EMERGENCY"

/-- The battery levels that the watchdog compares samples with. -/
structure BatteryThresholds where
  emergency_pct : Binary32
  safe_mode_pct : Binary32
  degraded_pct : Binary32
  recover_nominal_pct : Binary32
deriving DecidableEq, Repr

namespace BatteryThresholds

/-- The built-in thresholds. -/
def default : BatteryThresholds :=
  { emergency_pct := BATT_EMERGENCY_PCT
    safe_mode_pct := BATT_SAFE_MODE_PCT
    degraded_pct := BATT_DEGRADED_PCT
    recover_nominal_pct := BATT_DEGRADED_PCT + BATT_RECOVERY_HYSTERESIS_PCT }

/-- The thresholds with the given levels: recovery takes a margin above the highest, up to 100. -/
def ofLevels (emergency_pct safe_mode_pct degraded_pct : Binary32) : BatteryThresholds :=
  let recover_nominal_pct := degraded_pct + BATT_RECOVERY_HYSTERESIS_PCT
  { emergency_pct := emergency_pct
    safe_mode_pct := safe_mode_pct
    degraded_pct := degraded_pct
    recover_nominal_pct :=
      if BATT_MAX_PCT < recover_nominal_pct then BATT_MAX_PCT else recover_nominal_pct }

/-- The check of configured thresholds, comparison by comparison. -/
def areThresholdsSane (t : BatteryThresholds) : Bool :=
  if t.emergency_pct ≤ Binary32.ofNat 0 then false
  else if t.safe_mode_pct ≤ t.emergency_pct then false
  else if t.degraded_pct ≤ t.safe_mode_pct then false
  else decide (t.degraded_pct ≤ BATT_MAX_PCT)

end BatteryThresholds

/-- What the watchdog knows of a subsystem. -/
structure Subsystem where
  name : Text
  isActive : Bool
deriving DecidableEq, Repr

/-- What the watchdog does besides changing its own fields. -/
inductive WatchdogAction where
  /-- An event was sent. -/
  | emitted (packet : EventPacket) (accepted : Bool)
  /-- The thread of a subsystem was joined, its errors cleared, and the thread started. -/
  | restarted (idx : ℕ)
  /-- The mission state was assigned. -/
  | assigned (before after : MissionState)
deriving DecidableEq, Repr

/-- What a `step()` is told by the rest of the system. -/
structure StepInput where
  /-- The battery samples in the input port. -/
  samples : List Binary32
  /-- The health that subsystem `i` reports to `checkSubsystems`. -/
  health : ℕ → HealthStatus
  /-- The error count that subsystem `i` has then. -/
  errorCount : ℕ → UInt32
  /-- The health that subsystem `i` reports to `tryRecoverNominal`. -/
  recoveryHealth : ℕ → HealthStatus
  /-- The result of the parameter check. -/
  verifyIntegrity : Bool
  /-- The mission elapsed time in milliseconds. -/
  met : UInt32

/-- The watchdog. -/
structure WatchdogComponent where
  base : Component
  /-- The queue that `event_out` is connected to. -/
  event_out : Option (InputPort EventPacket DEFAULT_QUEUE_DEPTH)
  /-- The registered pointers, in order; `none` is the null pointer. -/
  monitored_systems : List (Option Subsystem)
  monitored_count_le : monitored_systems.length ≤ MAX_MONITORED_SUBSYSTEMS
  restart_counts : ℕ → UInt32
  mission_state : MissionState
  cycles : UInt32
  last_batt_soc : Binary32
  last_frame_drops : UInt64
  batt_emergency_pct_src : Option (TmrStore Binary32)
  batt_safe_mode_pct_src : Option (TmrStore Binary32)
  batt_degraded_pct_src : Option (TmrStore Binary32)
  threshold_fault_latched : Bool
  log : List WatchdogAction

namespace WatchdogComponent

/-- A watchdog as constructed. -/
def create (base : Component) : WatchdogComponent :=
  { base := base
    event_out := none
    monitored_systems := []
    monitored_count_le := Nat.zero_le _
    restart_counts := fun _ => 0
    mission_state := MissionState.BOOT
    cycles := 0
    last_batt_soc := Binary32.ofNat 100
    last_frame_drops := 0
    batt_emergency_pct_src := none
    batt_safe_mode_pct_src := none
    batt_degraded_pct_src := none
    threshold_fault_latched := false
    log := [] }

/-- Supervises one more subsystem, while there is room. -/
def registerSubsystem (w : WatchdogComponent) (comp : Option Subsystem) : WatchdogComponent :=
  if h : w.monitored_systems.length < MAX_MONITORED_SUBSYSTEMS then
    { w with
      monitored_systems := w.monitored_systems ++ [comp]
      monitored_count_le := by
        rw [List.length_append, List.length_singleton]
        exact h
      restart_counts := Function.update w.restart_counts w.monitored_systems.length 0 }
  else w

/-- Sets the sources of the thresholds. -/
def setBatteryThresholdSources (w : WatchdogComponent)
    (emergency_pct safe_mode_pct degraded_pct : Option (TmrStore Binary32)) : WatchdogComponent :=
  { w with
    batt_emergency_pct_src := emergency_pct
    batt_safe_mode_pct_src := safe_mode_pct
    batt_degraded_pct_src := degraded_pct }

/-- Counts one error. -/
def recordError (w : WatchdogComponent) : WatchdogComponent :=
  { w with base := w.base.recordError }

/-- Sends an event, and counts an error if it is not accepted. -/
def emit (w : WatchdogComponent) (sev : UInt32) (msg : Text) : WatchdogComponent :=
  let packet := EventPacket.create sev w.base.id msg
  match w.event_out with
  | none => { w with log := w.log ++ [WatchdogAction.emitted packet false] }.recordError
  | some port =>
    let r := port.receive packet
    let w' := { w with
      event_out := some r.1
      log := w.log ++ [WatchdogAction.emitted packet r.2] }
    if r.2 then w' else w'.recordError

/-- An assignment to the mission state. -/
def setMissionState (w : WatchdogComponent) (next : MissionState) : WatchdogComponent :=
  { w with
    mission_state := next
    log := w.log ++ [WatchdogAction.assigned w.mission_state next] }

/-- Starts supervision. -/
def init (w : WatchdogComponent) : WatchdogComponent :=
  ({ w.setMissionState MissionState.NOMINAL with last_batt_soc := Binary32.ofNat 100 }).emit
    Severity.INFO (ascii "WATCHDOG: Init complete. FDIR active.")

/-- Raises the mission state to `next`, if it is below. -/
def escalate (w : WatchdogComponent) (next : MissionState) : WatchdogComponent :=
  if w.mission_state.toNat < next.toNat then
    let msg := snprintf EVENT_MSG_SIZE (ascii "FSM: " ++ missionStateName w.mission_state ++
      ascii "->" ++ missionStateName next)
    (w.setMissionState next).emit Severity.CRITICAL msg
  else w

/-- Turns new frame drops of the scheduler into an event. -/
def pollSchedulerHealth (w : WatchdogComponent) (frame_drops : UInt64) : WatchdogComponent :=
  if w.last_frame_drops < frame_drops then
    let new_drops := frame_drops - w.last_frame_drops
    (({ w with last_frame_drops := frame_drops }).emit Severity.WARNING
      (snprintf EVENT_MSG_SIZE (ascii "SCHED: " ++ decimal new_drops.toNat ++
        ascii " frame drops"))).recordError
  else w

/-- Turns the overflows of a port into an event; `ov` is what draining the port's count returned. -/
def pollPortOverflow (w : WatchdogComponent) (ov : UInt32) (port_name : Text) :
    WatchdogComponent :=
  if 0 < ov then
    (w.emit Severity.WARNING (snprintf EVENT_MSG_SIZE (ascii "OVF:" ++ cstr port_name ++
      ascii " x" ++ decimal ov.toNat))).recordError
  else w

/-- Checks configured thresholds and falls back to the built-in ones. The first of a series of
failed checks is reported, and so is its end. -/
def checkThresholds (w : WatchdogComponent) (thresholds : BatteryThresholds) :
    BatteryThresholds × WatchdogComponent :=
  if thresholds.areThresholdsSane = false then
    (BatteryThresholds.default,
      if w.threshold_fault_latched = false then
        { (w.emit Severity.CRITICAL
            (ascii "FDIR: Invalid battery thresholds. Using defaults.")).recordError with
          threshold_fault_latched := true }
      else w)
  else
    (thresholds,
      if w.threshold_fault_latched = true then
        { w.emit Severity.INFO (ascii "FDIR: Battery threshold config restored.") with
          threshold_fault_latched := false }
      else w)

/-- The thresholds in force: the configured ones if the sources are all there and their values pass
the check, and the built-in ones otherwise. -/
def currentBatteryThresholds (w : WatchdogComponent) : BatteryThresholds × WatchdogComponent :=
  match w.batt_emergency_pct_src, w.batt_safe_mode_pct_src, w.batt_degraded_pct_src with
  | some emergency_pct, some safe_mode_pct, some degraded_pct =>
    checkThresholds
      { w with
        batt_emergency_pct_src := some emergency_pct.read.2
        batt_safe_mode_pct_src := some safe_mode_pct.read.2
        batt_degraded_pct_src := some degraded_pct.read.2 }
      (BatteryThresholds.ofLevels emergency_pct.read.1 safe_mode_pct.read.1 degraded_pct.read.1)
  | _, _, _ => (BatteryThresholds.default, w)

/-- Reacts to one battery sample. -/
def processBattery (w : WatchdogComponent) (batt : Binary32) : WatchdogComponent :=
  let thresholds := w.currentBatteryThresholds.1
  let w := { w.currentBatteryThresholds.2 with last_batt_soc := batt }
  if batt ≤ thresholds.emergency_pct then
    (w.emit Severity.CRITICAL (snprintf EVENT_MSG_SIZE (ascii "FDIR: Battery <=" ++
      fixed1 thresholds.emergency_pct ++ ascii "%. EMERG"))).escalate MissionState.EMERGENCY
  else if batt ≤ thresholds.safe_mode_pct then
    (w.emit Severity.CRITICAL (snprintf EVENT_MSG_SIZE (ascii "FDIR: Battery <=" ++
      fixed1 thresholds.safe_mode_pct ++ ascii "%. SAFE"))).escalate MissionState.SAFE_MODE
  else if batt ≤ thresholds.degraded_pct then
    (w.emit Severity.WARNING (snprintf EVENT_MSG_SIZE (ascii "FDIR: Battery <=" ++
      fixed1 thresholds.degraded_pct ++ ascii "%. DEGR"))).escalate MissionState.DEGRADED
  else w

/-- Drains the battery samples. -/
def checkBattery (w : WatchdogComponent) (samples : List Binary32) : WatchdogComponent :=
  samples.foldl processBattery w

/-- The registered pointer at an index. -/
def subsystem (w : WatchdogComponent) (idx : ℕ) : Option Subsystem :=
  (w.monitored_systems[idx]?).join

/-- Restarts a failed active subsystem, or gives it up when its restarts are used up. -/
def handleCritical (w : WatchdogComponent) (idx : ℕ) (errorCount : UInt32) : WatchdogComponent :=
  match w.subsystem idx with
  | none => w
  | some comp =>
    let w := w.emit Severity.CRITICAL (snprintf EVENT_MSG_SIZE (ascii "FDIR: CRIT " ++
      cstr comp.name ++ ascii " (" ++ decimal errorCount.toNat ++ ascii ")"))
    if comp.isActive then
      if w.restart_counts idx < MAX_RESTARTS_PER_COMPONENT then
        let w := { w with
          restart_counts := Function.update w.restart_counts idx (w.restart_counts idx + 1)
          log := w.log ++ [WatchdogAction.restarted idx] }
        w.emit Severity.WARNING (snprintf EVENT_MSG_SIZE (ascii "FDIR: RST " ++ cstr comp.name ++
          ascii " (#" ++ decimal (w.restart_counts idx).toNat ++ ascii ")"))
      else
        (w.emit Severity.CRITICAL (snprintf EVENT_MSG_SIZE (ascii "FDIR: " ++ cstr comp.name ++
          ascii " UNRECOV"))).escalate MissionState.EMERGENCY
    else w

/-- One pass of the loop of `checkSubsystems`, with the flags `any_critical` and `any_warning`. -/
def checkSubsystem (inp : StepInput) (acc : WatchdogComponent × Bool × Bool) (i : ℕ) :
    WatchdogComponent × Bool × Bool :=
  match acc.1.subsystem i with
  | none => acc
  | some comp =>
    match inp.health i with
    | HealthStatus.CRITICAL_FAILURE =>
      (acc.1.handleCritical i (inp.errorCount i), true, acc.2.2)
    | HealthStatus.WARNING =>
      (acc.1.emit Severity.WARNING (snprintf EVENT_MSG_SIZE (ascii "FDIR: " ++ cstr comp.name ++
        ascii " WARN (" ++ decimal (inp.errorCount i).toNat ++ ascii ")")), acc.2.1, true)
    | HealthStatus.NOMINAL => acc

/-- Asks every subsystem for its health and escalates by the worst answer. -/
def checkSubsystems (w : WatchdogComponent) (inp : StepInput) : WatchdogComponent :=
  let r := (List.range w.monitored_systems.length).foldl (checkSubsystem inp) (w, false, false)
  if r.2.1 then r.1.escalate MissionState.SAFE_MODE
  else if r.2.2 then r.1.escalate MissionState.DEGRADED
  else r.1

/-- Lowers the mission state to `NOMINAL` when every subsystem and the battery allow it. -/
def tryRecoverNominal (w : WatchdogComponent) (inp : StepInput) : WatchdogComponent :=
  if w.mission_state ≠ MissionState.DEGRADED ∧ w.mission_state ≠ MissionState.SAFE_MODE then w
  else
    let all_nominal := (List.range w.monitored_systems.length).all fun i =>
      (w.subsystem i).isNone || decide (inp.recoveryHealth i = HealthStatus.NOMINAL)
    let thresholds := w.currentBatteryThresholds.1
    let w := w.currentBatteryThresholds.2
    if all_nominal = true ∧ thresholds.recover_nominal_pct < w.last_batt_soc then
      (w.emit Severity.INFO (ascii "FDIR: Recovery -> NOMINAL")).setMissionState
        MissionState.NOMINAL
    else w

/-- Scrubs the threshold stores that the registry holds. -/
def scrubAll (w : WatchdogComponent) : WatchdogComponent :=
  let scrub := fun s : TmrStore Binary32 => if s.registered_with_registry then s.scrub else s
  { w with
    batt_emergency_pct_src := w.batt_emergency_pct_src.map scrub
    batt_safe_mode_pct_src := w.batt_safe_mode_pct_src.map scrub
    batt_degraded_pct_src := w.batt_degraded_pct_src.map scrub }

/-- The periodic parameter check and scrub. -/
def checkParams (w : WatchdogComponent) (inp : StepInput) : WatchdogComponent :=
  if w.cycles % PARAM_CHECK_INTERVAL_CYCLES = 0 then
    (if inp.verifyIntegrity = false then
      (w.emit Severity.CRITICAL (ascii "FDIR: ParamDb CRC mismatch!")).escalate
        MissionState.SAFE_MODE
    else w).scrubAll
  else w

/-- The periodic heartbeat. -/
def heartbeat (w : WatchdogComponent) (inp : StepInput) : WatchdogComponent :=
  if w.cycles % HEARTBEAT_INTERVAL_CYCLES = 0 then
    w.emit Severity.INFO (snprintf EVENT_MSG_SIZE (ascii "HB: " ++
      missionStateName w.mission_state ++ ascii " T+" ++ decimal (inp.met / 1000).toNat ++
      ascii "s"))
  else w

/-- Begins a cycle. -/
def tick (w : WatchdogComponent) : WatchdogComponent := { w with cycles := w.cycles + 1 }

/-- One supervision cycle. -/
def step (w : WatchdogComponent) (inp : StepInput) : WatchdogComponent :=
  ((((w.tick.checkBattery inp.samples).checkSubsystems inp).tryRecoverNominal inp).checkParams
    inp).heartbeat inp

/-- The hook for fault injection. -/
def injectBatteryLevel (w : WatchdogComponent) (soc : Binary32) : WatchdogComponent :=
  w.processBattery soc

end WatchdogComponent

/-- What can happen to a watchdog after `init()`. -/
inductive WatchdogOp where
  | step (inp : StepInput)
  | injectBatteryLevel (soc : Binary32)
  | pollSchedulerHealth (frame_drops : UInt64)
  | pollPortOverflow (ov : UInt32) (port_name : Text)
  /-- Others send to and take from the queue behind `event_out`. -/
  | eventPort (event_out : Option (InputPort EventPacket DEFAULT_QUEUE_DEPTH))
  /-- The threshold stores are written, upset, or replaced. -/
  | thresholdStores (emergency_pct safe_mode_pct degraded_pct : Option (TmrStore Binary32))

/-- The next state. -/
def WatchdogComponent.apply (w : WatchdogComponent) : WatchdogOp → WatchdogComponent
  | WatchdogOp.step inp => w.step inp
  | WatchdogOp.injectBatteryLevel soc => w.injectBatteryLevel soc
  | WatchdogOp.pollSchedulerHealth frame_drops => w.pollSchedulerHealth frame_drops
  | WatchdogOp.pollPortOverflow ov port_name => w.pollPortOverflow ov port_name
  | WatchdogOp.eventPort event_out => { w with event_out := event_out }
  | WatchdogOp.thresholdStores emergency_pct safe_mode_pct degraded_pct =>
    w.setBatteryThresholdSources emergency_pct safe_mode_pct degraded_pct

end DeltaV
