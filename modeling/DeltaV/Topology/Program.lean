import DeltaV.CommandHub.Contract
import DeltaV.Hub.Event
import DeltaV.Hub.Telemetry
import DeltaV.RateGroupExecutive
import DeltaV.Tmr.Registry
import DeltaV.Topology.Render

/-!
# The generated program at work

A `Program` is the topology manager as an object: the hubs with their ports, the tables of the
watchdog, and the protected stores. `exec` runs one statement of the wiring functions. `main` calls
`wire`, `registerFdir`, `verify`, and `registerAll`, in this order.

Components are named by their instances, which stand for their addresses.
-/

namespace DeltaV.Topology

/-- The class that an enumerator of `OpClass` names. -/
def opClass (name : Text) : Option OpClass :=
  if name = ascii "HOUSEKEEPING" then some OpClass.HOUSEKEEPING
  else if name = ascii "OPERATIONAL" then some OpClass.OPERATIONAL
  else if name = ascii "RESTRICTED" then some OpClass.RESTRICTED
  else none

/-- The enumerator of a class. -/
def className : OpClass → Text
  | OpClass.HOUSEKEEPING => ascii "HOUSEKEEPING"
  | OpClass.OPERATIONAL => ascii "OPERATIONAL"
  | OpClass.RESTRICTED => ascii "RESTRICTED"

/-- Only the enumerator of a class names it. -/
theorem opClass_eq_some_iff (name : Text) (cls : OpClass) :
    opClass name = some cls ↔ name = className cls := by
  constructor
  · intro h
    unfold opClass at h
    split_ifs at h with h1 h2 h3 <;> cases h
    · exact h1
    · exact h2
    · exact h3
  · rintro rfl
    cases cls <;> decide

/-- The topology manager. -/
structure Program where
  /-- `telem_hub` and the telemetry ports. -/
  telem : TelemetrySystem Text PortName TelemetryPacket
  /-- `cmd_hub`, the ports of commands, and the ports of events. -/
  cmd : HubSystem CommandOut CommandIn EventOut EventIn
  event_hub : EventHub EventIn
  /-- The component whose `battery_level_in` a `battery_out_internal` is connected to. -/
  battery : Text → Option Text
  /-- The parameters that the watchdog takes its thresholds from. -/
  threshold_sources : Option (Text × Text × Text)
  /-- The subsystems that the watchdog supervises. -/
  monitored_systems : List Text
  /-- The protected stores, by the names of their parameters. -/
  tmr : TmrSystem Text Binary32

namespace TopologyManager

/-- The base of the component of the given instance. -/
def base (m : TopologyManager) (inst : Text) : Component :=
  match m.instances.find? fun c => c.inst = inst with
  | some c => Component.create c.name (UInt32.ofInt c.cid)
  | none => Component.create [] 0

/-- The initial value of a protected store. -/
def initialValue (m : TopologyManager) (param : Text) : Binary32 :=
  match m.tmr_members.find? fun p => p.name = param with
  | some p => p.default
  | none => Binary32.ofNat 0

/-- The program as constructed. -/
def construct (m : TopologyManager) : Program where
  telem := TelemetrySystem.create (m.base (ascii "telem_hub"))
  cmd :=
    { hub := CommandHub.create (m.base (ascii "cmd_hub"))
      cmd_input := CommandIn.cmd_input
      ack_out := EventOut.ack_out
      commands := Bus.create CommandOut CommandIn
      events := Bus.create EventOut EventIn
      log := [] }
  event_hub := EventHub.create (m.base (ascii "event_hub"))
  battery := fun _ => none
  threshold_sources := none
  monitored_systems := []
  tmr :=
    { stores := fun param => TmrStore.create (m.initialValue param) false
      registry := TmrRegistry.create Text
      cycles := 0 }

end TopologyManager

namespace Program

/-- Runs a line of custom wiring. -/
def execCustom (s : Program) : CustomWire → Program
  | CustomWire.setMissionStateSource =>
    { s with cmd := { s.cmd with hub := s.cmd.hub.setMissionStateSource true } }
  | CustomWire.setBatteryThresholdSources emergency safe_mode degraded =>
    { s with threshold_sources := some (emergency, safe_mode, degraded) }
  | CustomWire.telemListener dest => { s with telem := s.telem.registerListener (some dest) }
  | CustomWire.eventListener dest =>
    { s with event_hub := s.event_hub.registerListener (EventIn.listener dest) }
  | CustomWire.commandOut inst dest =>
    { s with cmd := s.cmd.step (HubOp.connect (CommandOut.command_out inst) dest) }
  | CustomWire.batteryOut inst dest =>
    { s with battery := Function.update s.battery inst (some dest) }
  | CustomWire.registerWithFdir param label =>
    { s with tmr := s.tmr.registerWithFdir param label }
  | CustomWire.registerStore param => { s with tmr := s.tmr.registerStore (some param) }
  | CustomWire.other _ => s

/-- Runs a statement of the wiring functions. -/
def exec (s : Program) : Stmt → Program
  | Stmt.telemListener dest => { s with telem := s.telem.registerListener (some dest) }
  | Stmt.telemInput inst => { s with telem := s.telem.connectInput inst }
  | Stmt.policy target_id opcode op_class =>
    match opClass op_class with
    | some cls =>
      { s with
        cmd := s.cmd.step
          (HubOp.registerCommandPolicy (UInt32.ofInt target_id) (UInt32.ofInt opcode) cls) }
    | none => s
  | Stmt.connectCommand out dest => { s with cmd := s.cmd.step (HubOp.connect out dest) }
  | Stmt.registerRoute cid inst =>
    { s with
      cmd := s.cmd.step (HubOp.registerRoute (UInt32.ofInt cid) (some (CommandOut.route inst))) }
  | Stmt.eventListener dest =>
    { s with event_hub := s.event_hub.registerListener (EventIn.listener dest) }
  | Stmt.connectEvent out inst =>
    { s with cmd := s.cmd.step (HubOp.connectEvent out (EventIn.staging inst)) }
  | Stmt.eventSource inst =>
    { s with event_hub := s.event_hub.registerEventSource (EventIn.staging inst) }
  | Stmt.custom wire => s.execCustom wire

/-- `registerSubsystem` of the watchdog. -/
def registerSubsystem (s : Program) (comp : Text) : Program :=
  { s with monitored_systems := offer MAX_MONITORED_SUBSYSTEMS s.monitored_systems comp }

/-- Whether a condition of `verify` holds. -/
def holds (s : Program) : Condition → Bool
  | Condition.commandOut =>
    s.cmd.commands.isConnectedTo (CommandOut.command_out (ascii "radio")) CommandIn.cmd_input
  | Condition.telemInputCount n => decide (n ≤ s.telem.getInputCount)
  | Condition.telemListenerCount n => decide (n ≤ s.telem.getListenerCount)
  | Condition.routeCount n => decide (n ≤ s.cmd.hub.routeCount)
  | Condition.missionStateSource => s.cmd.hub.hasMissionStateSource
  | Condition.batteryThresholdSources => s.threshold_sources.isSome
  | Condition.telemInput index inst => s.telem.isInputConnected index inst
  | Condition.route inst =>
    s.cmd.commands.isConnectedTo (CommandOut.route inst) (CommandIn.cmd_in inst)
  | Condition.eventOut out inst => s.cmd.events.isConnectedTo out (EventIn.staging inst)
  | Condition.eventSourceCount n => decide (n ≤ s.event_hub.getSourceCount)
  | Condition.eventListenerCount n => decide (n ≤ s.event_hub.getListenerCount)

end Program

namespace TopologyManager

/-- The statements of `wire`. -/
def wiring (m : TopologyManager) : List Stmt :=
  m.wireTelemetry ++ m.wireCommands ++ m.wireEvents ++ m.wireCustom

/-- The program after `wire`. -/
def wire (m : TopologyManager) (s : Program) : Program := run Program.exec s m.wiring

/-- The program after `registerFdir`. -/
def registerFdir (m : TopologyManager) (s : Program) : Program :=
  run Program.registerSubsystem s m.reg_fdir

/-- One call of `check`, with the flag `ok` and the labels printed. -/
def check (s : Program) (acc : Bool × List Text) (c : Check) : Bool × List Text :=
  if s.holds c.cond then acc else (false, acc.2 ++ [c.label])

/-- The answer of `verify`, and the labels of what is not connected. -/
def verify (m : TopologyManager) (s : Program) : Bool × List Text :=
  m.checks.foldl (check s) (true, [])

/-- The calls of `registerAll`. -/
def registrations (m : TopologyManager) : List (Registration Text) :=
  m.reg_fast.map (fun inst => Registration.registerFast (some inst)) ++
    m.reg_norm.map (fun inst => Registration.registerNorm (some inst)) ++
    m.reg_slow.map (fun inst => Registration.registerSlow (some inst)) ++
    m.reg_active.map fun inst => Registration.registerComponent (some inst)

/-- Whether the component of an instance has a thread, which its class decides. -/
def isActive (m : TopologyManager) (activeClass : Text → Bool) (inst : Text) : Bool :=
  m.instances.any fun c => c.inst = inst ∧ activeClass c.cls

/-- The executive after `registerAll`. -/
def registerAll (m : TopologyManager) (activeClass : Text → Bool) : RateGroupExecutive Text :=
  run (RateGroupExecutive.register (m.isActive activeClass)) (RateGroupExecutive.create Text)
    m.registrations

/-- The program after `wire` and `registerFdir`. -/
def start (m : TopologyManager) : Program := m.registerFdir (m.wire m.construct)

end TopologyManager

/-! ## Programs that compile -/

/-- A C++ identifier, as far as its characters go. -/
def isIdentifier (t : Text) : Bool :=
  !t.isEmpty && t.all fun c =>
    decide (48 ≤ c ∧ c ≤ 57 ∨ 65 ≤ c ∧ c ≤ 90 ∨ c = 95 ∨ 97 ≤ c ∧ c ≤ 122)

namespace CustomWire

/-- The names in a line of custom wiring. -/
def names : CustomWire → List Text
  | setMissionStateSource => []
  | setBatteryThresholdSources emergency safe_mode degraded => [emergency, safe_mode, degraded]
  | telemListener dest => [dest.inst, dest.port]
  | eventListener dest => [dest.inst, dest.port]
  | commandOut inst CommandIn.cmd_input => [inst]
  | commandOut inst (CommandIn.cmd_in dest) => [inst, dest]
  | batteryOut inst dest => [inst, dest]
  | registerWithFdir param _ => [param]
  | registerStore param => [param]
  | other _ => []

/-- The parameters whose stores a line of custom wiring refers to. -/
def params : CustomWire → List Text
  | setBatteryThresholdSources emergency safe_mode degraded => [emergency, safe_mode, degraded]
  | registerWithFdir param _ => [param]
  | registerStore param => [param]
  | _ => []

end CustomWire

/-- What the compiler asks of a statement, given the names of the protected parameters. -/
def Stmt.compiles (params : List Text) : Stmt → Bool
  | policy _ _ op_class => (opClass op_class).isSome
  | custom wire =>
    wire.names.all isIdentifier && wire.params.all fun param => decide (param ∈ params)
  | _ => true

/-- What the compiler asks of the generated program, as far as it matters here: members have
different names, numbers fit their type, classes exist, and custom wiring consists of identifiers
and refers to stores that are members. -/
structure TopologyManager.Compiles (m : TopologyManager) : Prop where
  inst_nodup : (m.instances.map Instance.inst).Nodup
  cid_range : ∀ c ∈ m.instances, 0 ≤ c.cid ∧ c.cid < 2^32
  tmr_nodup : (m.tmr_members.map TmrMember.name).Nodup
  stmts : ∀ stmt ∈ m.wiring, stmt.compiles (m.tmr_members.map TmrMember.name) = true

instance (m : TopologyManager) : Decidable m.Compiles :=
  decidable_of_iff
    ((m.instances.map Instance.inst).Nodup ∧ (∀ c ∈ m.instances, 0 ≤ c.cid ∧ c.cid < 2^32) ∧
      (m.tmr_members.map TmrMember.name).Nodup ∧
      ∀ stmt ∈ m.wiring, stmt.compiles (m.tmr_members.map TmrMember.name) = true)
    ⟨fun h => ⟨h.1, h.2.1, h.2.2.1, h.2.2.2⟩, fun h => ⟨h.1, h.2, h.3, h.4⟩⟩

end DeltaV.Topology
