import DeltaV.Lib.Loops
import DeltaV.Topology.Render

/-!
# Installing the standard apps

`install_standard_apps` adds ten components, their commands, and their custom wiring to a topology,
as far as they are not there. It goes through three tables, one after the other. A component whose
number is in use gets another one, an instance name that is in use gets suffixes, and an opcode that
is in use is counted up; the loops that look for these take the number of passes they may make. What
the functions read from the topology is read off its lists, with which the dictionaries and sets of
the source are kept in step.
-/

namespace DeltaV.Topology

/-! ## The tables -/

/-- An entry of `STANDARD_COMPONENTS`. -/
structure StandardComponent where
  id : ℤ
  name : Text
  /-- The key `class`. -/
  cls : Text
  /-- The key `instance`. -/
  inst : Text
  type : Text
  rate_group : Text
deriving DecidableEq, Repr

/-- An entry of `STANDARD_COMMANDS`. -/
structure StandardCommand where
  name : Text
  target_id : ℤ
  opcode : ℤ
  op_class : Text
  description : Text
deriving DecidableEq, Repr

/-- A passive component of the 1 Hz rate group. -/
def standardComponent (id : ℤ) (name cls inst : String) : StandardComponent :=
  ⟨id, ascii name, ascii cls, ascii inst, ascii "Passive", ascii "norm"⟩

/-- A housekeeping command. -/
def standardCommand (name : String) (target_id opcode : ℤ) (description : String) :
    StandardCommand :=
  ⟨ascii name, target_id, opcode, ascii "HOUSEKEEPING", ascii description⟩

def STANDARD_COMPONENTS : List StandardComponent :=
  [standardComponent 40 "CmdSequencer" "CommandSequencerComponent" "cmd_sequencer",
    standardComponent 41 "FileTransfer" "FileTransferComponent" "file_transfer",
    standardComponent 42 "MemoryDwell" "MemoryDwellComponent" "memory_dwell",
    standardComponent 43 "TimeSync" "TimeSyncComponent" "time_sync",
    standardComponent 44 "Playback" "PlaybackComponent" "playback",
    standardComponent 45 "OtaManager" "OtaComponent" "ota_manager",
    standardComponent 46 "AtsRtsSequencer" "AtsRtsSequencerComponent" "ats_rts",
    standardComponent 47 "LimitChecker" "LimitCheckerComponent" "limit_checker",
    standardComponent 48 "CfdpManager" "CfdpComponent" "cfdp_manager",
    standardComponent 49 "ModeManager" "ModeManagerComponent" "mode_manager"]

def STANDARD_COMMANDS : List StandardCommand :=
  [standardCommand "SEQ_SET_TARGET" 40 1 "Sequencer stage: set target component ID",
    standardCommand "SEQ_SET_OPCODE" 40 2 "Sequencer stage: set opcode",
    standardCommand "SEQ_SET_ARGUMENT" 40 3 "Sequencer stage: set argument",
    standardCommand "SEQ_COMMIT_DELAY" 40 4
      "Sequencer commit: schedule staged command after arg seconds",
    standardCommand "SEQ_CLEAR_QUEUE" 40 5 "Sequencer: clear queued commands",
    standardCommand "FILE_BEGIN_SESSION" 41 1
      "File transfer: begin session with expected bytes (arg)",
    standardCommand "FILE_PUSH_TEST_BYTE" 41 2 "File transfer: push one test byte from arg",
    standardCommand "FILE_FINALIZE_SESSION" 41 3 "File transfer: finalize session",
    standardCommand "FILE_RESET_SESSION" 41 4 "File transfer: reset session state",
    standardCommand "DWELL_SELECT_CHANNEL" 42 1 "Dwell: select diagnostic channel",
    standardCommand "DWELL_SET_PERIOD" 42 2 "Dwell: set period seconds",
    standardCommand "DWELL_SAMPLE_NOW" 42 3 "Dwell: force immediate sample",
    standardCommand "DWELL_SET_ADDR_HI16" 42 10 "Dwell/Patch: set address upper 16 bits",
    standardCommand "DWELL_SET_ADDR_LO16" 42 11 "Dwell/Patch: set address lower 16 bits",
    standardCommand "DWELL_READ_ADDRESS" 42 12 "Dwell: read staged address word",
    standardCommand "DWELL_SET_VALUE_HI16" 42 13 "Patch: set value upper 16 bits",
    standardCommand "DWELL_SET_VALUE_LO16" 42 14 "Patch: set value lower 16 bits",
    standardCommand "DWELL_PATCH_ADDRESS" 42 15 "Patch: write staged value to staged address",
    standardCommand "TIME_SET_UTC_HI16" 43 1 "Time sync: set UTC word 0 (hi16)",
    standardCommand "TIME_SET_UTC_MIDHI16" 43 2 "Time sync: set UTC word 1",
    standardCommand "TIME_SET_UTC_MIDLO16" 43 3 "Time sync: set UTC word 2",
    standardCommand "TIME_SET_UTC_LO16" 43 4 "Time sync: set UTC word 3 (lo16)",
    standardCommand "TIME_APPLY_SYNC" 43 5 "Time sync: apply staged UTC words",
    standardCommand "TIME_PUBLISH_STATUS" 43 6 "Time sync: publish sync status",
    standardCommand "PLAYBACK_LOAD_LOG" 44 1 "Playback: load historical telemetry log",
    standardCommand "PLAYBACK_START" 44 2 "Playback: start continuous replay",
    standardCommand "PLAYBACK_STOP" 44 3 "Playback: stop replay",
    standardCommand "PLAYBACK_REWIND" 44 4 "Playback: rewind replay cursor",
    standardCommand "PLAYBACK_STEP_ONCE" 44 5 "Playback: send one historical sample",
    standardCommand "PLAYBACK_SET_RATE_HZ" 44 6 "Playback: set replay output rate in Hz",
    standardCommand "OTA_BEGIN_SESSION" 45 1 "OTA: begin session with expected byte count",
    standardCommand "OTA_PUSH_TEST_BYTE" 45 2 "OTA: append one test byte",
    standardCommand "OTA_SET_CRC_HI16" 45 3 "OTA: set expected CRC upper 16 bits",
    standardCommand "OTA_SET_CRC_LO16" 45 4 "OTA: set expected CRC lower 16 bits",
    standardCommand "OTA_VERIFY_IMAGE" 45 5 "OTA: verify received image CRC",
    standardCommand "OTA_STAGE_ACTIVATE" 45 6 "OTA: stage update and request reboot",
    standardCommand "OTA_RESET_SESSION" 45 7 "OTA: reset session state",
    standardCommand "ATS_SET_TARGET" 46 1 "ATS/RTS stage: set target component ID",
    standardCommand "ATS_SET_OPCODE" 46 2 "ATS/RTS stage: set opcode",
    standardCommand "ATS_SET_ARGUMENT" 46 3 "ATS/RTS stage: set command argument",
    standardCommand "ATS_SET_TRIGGER_TYPE" 46 4
      "ATS/RTS stage: trigger type (0=MET,1=UTC,2=event-delay)",
    standardCommand "ATS_SET_TIME_HI16" 46 5 "ATS/RTS stage: time word hi16",
    standardCommand "ATS_SET_TIME_LO16" 46 6 "ATS/RTS stage: time word lo16",
    standardCommand "ATS_SET_EVENT_SOURCE" 46 7 "ATS/RTS stage: event source component ID",
    standardCommand "ATS_COMMIT_ENTRY" 46 8 "ATS/RTS: commit staged entry",
    standardCommand "ATS_ARM" 46 9 "ATS/RTS: arm execution",
    standardCommand "ATS_DISARM" 46 10 "ATS/RTS: disarm execution",
    standardCommand "ATS_CLEAR" 46 11 "ATS/RTS: clear all entries",
    standardCommand "LIM_SET_TARGET" 47 1 "Limit checker stage: target component ID",
    standardCommand "LIM_SET_WARN_LOW" 47 2 "Limit checker stage: warning low threshold",
    standardCommand "LIM_SET_WARN_HIGH" 47 3 "Limit checker stage: warning high threshold",
    standardCommand "LIM_SET_CRIT_LOW" 47 4 "Limit checker stage: critical low threshold",
    standardCommand "LIM_SET_CRIT_HIGH" 47 5 "Limit checker stage: critical high threshold",
    standardCommand "LIM_APPLY" 47 6 "Limit checker: apply staged thresholds",
    standardCommand "LIM_CLEAR_TARGET" 47 7 "Limit checker: clear staged target thresholds",
    standardCommand "LIM_ENABLE" 47 8 "Limit checker: enable evaluation",
    standardCommand "LIM_DISABLE" 47 9 "Limit checker: disable evaluation",
    standardCommand "CFDP_BEGIN_SESSION" 48 1 "CFDP: begin session with expected chunk count",
    standardCommand "CFDP_SET_CHUNK_INDEX" 48 2 "CFDP: stage chunk index",
    standardCommand "CFDP_PUSH_TEST_BYTE" 48 3 "CFDP: append one staged test byte",
    standardCommand "CFDP_COMMIT_CHUNK" 48 4 "CFDP: commit staged chunk data",
    standardCommand "CFDP_REPORT_MISSING_COUNT" 48 5 "CFDP: report number of missing chunks",
    standardCommand "CFDP_REPORT_NEXT_MISSING" 48 6 "CFDP: report next missing chunk index",
    standardCommand "CFDP_COMPLETE_SESSION" 48 7 "CFDP: mark session complete",
    standardCommand "CFDP_RESET_SESSION" 48 8 "CFDP: reset session state",
    standardCommand "MODE_STAGE_TARGET" 49 1 "Mode manager stage: target component ID",
    standardCommand "MODE_STAGE_ENABLE_OPCODE" 49 2 "Mode manager stage: enable opcode",
    standardCommand "MODE_STAGE_ENABLE_ARG" 49 3 "Mode manager stage: enable argument",
    standardCommand "MODE_STAGE_DISABLE_OPCODE" 49 4 "Mode manager stage: disable opcode",
    standardCommand "MODE_STAGE_DISABLE_ARG" 49 5 "Mode manager stage: disable argument",
    standardCommand "MODE_STAGE_MASK" 49 6 "Mode manager stage: mode mask bitfield",
    standardCommand "MODE_COMMIT_RULE" 49 7 "Mode manager: commit staged rule",
    standardCommand "MODE_CLEAR_RULES" 49 8 "Mode manager: clear all rules",
    standardCommand "MODE_SET_MODE" 49 9
      "Mode manager: set mode (1=DETUMBLE,2=SUN,3=SCIENCE,4=DOWNLINK)",
    standardCommand "MODE_APPLY" 49 10 "Mode manager: apply current mode to all rules",
    standardCommand "MODE_REPORT_STATUS" 49 11
      "Mode manager: publish transition and dispatch counters"]

/-- The class that a number in the table stands for. -/
def default_target_to_class : List (ℤ × Text) :=
  [(40, ascii "CommandSequencerComponent"),
    (41, ascii "FileTransferComponent"),
    (42, ascii "MemoryDwellComponent"),
    (43, ascii "TimeSyncComponent"),
    (44, ascii "PlaybackComponent"),
    (45, ascii "OtaComponent"),
    (46, ascii "AtsRtsSequencerComponent"),
    (47, ascii "LimitCheckerComponent"),
    (48, ascii "CfdpComponent"),
    (49, ascii "ModeManagerComponent")]

end Topology

/-- An entry of `commands`, with the text that describes it. -/
structure CommandEntry extends Topology.CommandDecl where
  description : Option Text
deriving DecidableEq, Repr

/-- What `load_topology` returns. -/
structure TopologyFile where
  components : List Topology.ComponentDecl
  commands : List CommandEntry
  params : List Topology.ParamDecl
  /-- `none` when the key is missing. -/
  custom_wiring : Option (List Text)
deriving DecidableEq, Repr

namespace TopologyFile

/-- What `validate` reads of a topology; custom wiring is not validated. -/
def checked (topo : TopologyFile) : Topology :=
  ⟨topo.components, topo.commands.map CommandEntry.toCommandDecl, topo.params, []⟩

/-- `{c.get("class") for c in topo.get("components", [])}`. -/
def component_classes (topo : TopologyFile) : List (Option Text) :=
  topo.components.map Topology.ComponentDecl.cls

/-- The integers in `{c.get("id") for c in topo.get("components", [])}`. -/
def component_ids (topo : TopologyFile) : List ℤ :=
  topo.components.filterMap Topology.ComponentDecl.id

/-- `{c.get("instance") for c in topo.get("components", [])}`. -/
def component_instances (topo : TopologyFile) : List (Option Text) :=
  topo.components.map Topology.ComponentDecl.inst

/-- `{cmd.get("name") for cmd in topo.get("commands", [])}`. -/
def existing_cmd_names (topo : TopologyFile) : List (Option Text) :=
  topo.commands.map fun cmd => cmd.name

/-- The pairs of integers in
`{(cmd.get("target_id"), cmd.get("opcode")) for cmd in topo.get("commands", [])}`. -/
def existing_pairs (topo : TopologyFile) : List (ℤ × ℤ) :=
  topo.commands.filterMap fun cmd =>
    cmd.target_id.bind fun target_id => cmd.opcode.map fun opcode => (target_id, opcode)

/-- The number of a class: a later component of the class replaces an earlier one. -/
def class_to_id (topo : TopologyFile) (cls : Text) : Option ℤ :=
  (topo.components.filterMap fun c => if c.cls = some cls then c.id else none).getLast?

/-- The instance of a class, of the components that have one. -/
def instance_by_class (topo : TopologyFile) (cls : Text) : Option Text :=
  (topo.components.filterMap fun c =>
    if c.cls = some cls ∧ Topology.falsy c.cls = false ∧ Topology.falsy c.inst = false then c.inst
    else none).getLast?

end TopologyFile

namespace Topology

/-! ## Adding entries -/

/-- Why the installation does not return. -/
inductive InstallFailure where
  /-- `die(msg)`. -/
  | died (msg : Text)
  /-- `c[key]` of an entry without the key. -/
  | keyError (key : Text)
  /-- A loop is still running after the passes it may make. -/
  | running
deriving DecidableEq, Repr

/-- The result of a loop. -/
def finished {α : Type} : Option α → Except InstallFailure α
  | some x => Except.ok x
  | none => Except.error InstallFailure.running

/-- A number that no component has. -/
def next_component_id (passes : ℕ) (topo : TopologyFile) : Except InstallFailure ℤ :=
  let candidate := match topo.component_ids.max? with
    | some m => m + 1
    | none => 100
  finished (whileIn topo.component_ids (· + 1) passes candidate)

/-- What speaks against adding a component. -/
def component_entry_error (topo : TopologyFile) (entry : StandardComponent) : Option Text :=
  if entry.id ∈ topo.component_ids then
    some (ascii "component id " ++ intText entry.id ++ ascii " already exists in topology.yaml")
  else if some entry.cls ∈ topo.component_classes then
    some (ascii "component class " ++ entry.cls ++ ascii " already exists in topology.yaml")
  else if some entry.inst ∈ topo.component_instances then
    some (ascii "component instance " ++ entry.inst ++ ascii " already exists in topology.yaml")
  else none

/-- The entry of `components` that is written. -/
def StandardComponent.decl (entry : StandardComponent) : ComponentDecl :=
  ⟨some entry.id, some entry.name, some entry.cls, some entry.inst, some entry.type,
    some entry.rate_group⟩

/-- Adds a component. -/
def add_component_entry (topo : TopologyFile) (entry : StandardComponent) :
    Except InstallFailure TopologyFile :=
  match component_entry_error topo entry with
  | some error => Except.error (InstallFailure.died error)
  | none => Except.ok { topo with components := topo.components ++ [entry.decl] }

/-- What speaks against adding a command. -/
def command_entry_error (topo : TopologyFile) (target_id opcode : ℤ) (op_class : Text) :
    Except InstallFailure (Option Text) :=
  if op_class ∉ valid_op then
    Except.ok (some
      (ascii "--op-class must be one of ['HOUSEKEEPING', 'OPERATIONAL', 'RESTRICTED']"))
  else if ∃ c ∈ topo.components, c.id = none then
    Except.error (InstallFailure.keyError (ascii "id"))
  else if target_id ∉ topo.component_ids then
    Except.ok (some (ascii "target-id " ++ intText target_id ++
      ascii " is not in topology components"))
  else if ∃ c ∈ topo.commands, c.target_id = none then
    Except.error (InstallFailure.keyError (ascii "target_id"))
  else if ∃ c ∈ topo.commands, c.opcode = none then
    Except.error (InstallFailure.keyError (ascii "opcode"))
  else if (target_id, opcode) ∈ topo.existing_pairs then
    Except.ok (some (ascii "opcode " ++ intText opcode ++
      ascii " already registered for target " ++ intText target_id))
  else Except.ok none

/-- The entry of `commands` that is written for a command. -/
def StandardCommand.entry (cmd : StandardCommand) (target_id opcode : ℤ) : CommandEntry :=
  { name := some cmd.name
    target_id := some target_id
    opcode := some opcode
    op_class := some cmd.op_class
    description := some (if strip cmd.description = [] then cmd.name ++ ascii " command"
      else strip cmd.description) }

/-- Adds a command. -/
def add_command_entry (topo : TopologyFile) (cmd : StandardCommand) (target_id opcode : ℤ) :
    Except InstallFailure TopologyFile :=
  match command_entry_error topo target_id opcode cmd.op_class with
  | Except.error failure => Except.error failure
  | Except.ok (some error) => Except.error (InstallFailure.died error)
  | Except.ok none =>
    Except.ok { topo with commands := topo.commands ++ [cmd.entry target_id opcode] }

/-- Adds a line of custom wiring unless it is there, and answers whether it did. -/
def ensure_custom_wiring_line (topo : TopologyFile) (line : Text) : TopologyFile × Bool :=
  let wiring := topo.custom_wiring.getD []
  if line ∈ wiring then ({ topo with custom_wiring := some wiring }, false)
  else ({ topo with custom_wiring := some (wiring ++ [line]) }, true)

/-! ## The installation -/

/-- The topology so far, whether it was changed, and the notes. -/
structure Installation where
  topo : TopologyFile
  changed : Bool
  notes : List Text
deriving DecidableEq, Repr

/-- The note on a number that is in use. -/
def idNote (comp : StandardComponent) (id : ℤ) : Text :=
  ascii "component id " ++ intText comp.id ++ ascii " in use, assigned " ++ intText id ++
    ascii " for " ++ comp.cls

/-- The note on a component that is added. -/
def componentNote (comp : StandardComponent) (id : ℤ) : Text :=
  ascii "added component " ++ comp.cls ++ ascii " (id=" ++ intText id ++ ascii ")"

/-- The note on a command that is added. -/
def commandNote (cmd : StandardCommand) (target_id opcode : ℤ) : Text :=
  ascii "added command " ++ cmd.name ++ ascii " (target=" ++ intText target_id ++
    ascii ", opcode=" ++ intText opcode ++ ascii ")"

/-- The number of a component: the requested one, or one that no component has. -/
def assignId (passes : ℕ) (topo : TopologyFile) (comp : StandardComponent) :
    Except InstallFailure (ℤ × List Text) :=
  if comp.id ∈ topo.component_ids then
    (next_component_id passes topo).map fun id => (id, [idNote comp id])
  else Except.ok (comp.id, [])

/-- One pass of the loop over the components. -/
def installComponent (passes : ℕ) (s : Installation) (comp : StandardComponent) :
    Except InstallFailure Installation :=
  if some comp.cls ∈ s.topo.component_classes then
    Except.ok { s with
      notes := s.notes ++ [ascii "component " ++ comp.cls ++ ascii " already present"] }
  else do
    let (id, notes) ← assignId passes s.topo comp
    let inst ← finished (whileIn (s.topo.component_instances.filterMap fun i => i)
      (fun inst => inst ++ ascii "_" ++ intText id) passes comp.inst)
    let topo ← add_component_entry s.topo { comp with id := id, inst := inst }
    Except.ok
      { topo := topo
        changed := true
        notes := s.notes ++ notes ++ [componentNote comp id] }

/-- The component that a command goes to. -/
def targetOf (topo : TopologyFile) (cmd : StandardCommand) : ℤ :=
  ((default_target_to_class.lookup cmd.target_id).bind topo.class_to_id).getD cmd.target_id

/-- One pass of the loop over the commands. -/
def installCommand (passes : ℕ) (s : Installation) (cmd : StandardCommand) :
    Except InstallFailure Installation :=
  if some cmd.name ∈ s.topo.existing_cmd_names then
    Except.ok { s with
      notes := s.notes ++ [ascii "command " ++ cmd.name ++ ascii " already present"] }
  else do
    let target_id := targetOf s.topo cmd
    let (_, opcode) ← finished (whileIn s.topo.existing_pairs (fun p => (p.1, p.2 + 1)) passes
      (target_id, cmd.opcode))
    let topo ← add_command_entry s.topo cmd target_id opcode
    Except.ok
      { topo := topo
        changed := true
        notes := s.notes ++ [commandNote cmd target_id opcode] }

/-- A line of custom wiring for the instance of a class. -/
structure WiringSpec where
  cls : Text
  template : Text → Text
  label : Text

/-- `{instance}.command_out.connect(&cmd_hub.cmd_input);`. -/
def commandIngress (cls : String) : WiringSpec :=
  ⟨ascii cls, fun inst => inst ++ ascii ".command_out.connect(&cmd_hub.cmd_input);",
    ascii "cmd_hub command ingress"⟩

def wiring_specs : List WiringSpec :=
  [commandIngress "CommandSequencerComponent",
    commandIngress "AtsRtsSequencerComponent",
    commandIngress "ModeManagerComponent",
    ⟨ascii "AtsRtsSequencerComponent",
      fun inst => ascii "event_hub.registerListener(&" ++ inst ++ ascii ".event_in);",
      ascii "ats/rts event listener"⟩,
    ⟨ascii "LimitCheckerComponent",
      fun inst => ascii "telem_hub.registerListener(&" ++ inst ++ ascii ".telem_in);",
      ascii "limit checker telemetry tap"⟩]

/-- One pass of the loop over the wiring. -/
def installWiring (s : Installation) (spec : WiringSpec) : Installation :=
  match s.topo.instance_by_class spec.cls with
  | none => s
  | some inst =>
    if inst = [] then s
    else
      let r := ensure_custom_wiring_line s.topo (spec.template inst)
      if r.2 then
        { topo := r.1
          changed := true
          notes := s.notes ++ [ascii "added custom wiring: " ++ spec.label] }
      else { s with topo := r.1 }

end Topology

/-- Adds what is missing of the standard apps. -/
def install_standard_apps (passes : ℕ) (topo : TopologyFile) :
    Except Topology.InstallFailure Topology.Installation := do
  let s ← Topology.STANDARD_COMPONENTS.foldlM (Topology.installComponent passes) ⟨topo, false, []⟩
  let s ← Topology.STANDARD_COMMANDS.foldlM (Topology.installCommand passes) s
  Except.ok (Topology.wiring_specs.foldl Topology.installWiring s)

end DeltaV
