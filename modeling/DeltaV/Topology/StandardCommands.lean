import DeltaV.AtsRts
import DeltaV.Cfdp
import DeltaV.CommandSequencer
import DeltaV.FileTransfer
import DeltaV.LimitChecker
import DeltaV.MemoryDwell
import DeltaV.ModeManager
import DeltaV.Ota.Model
import DeltaV.Recorder.Playback
import DeltaV.TimeSync
import DeltaV.Topology.StandardInstall

/-!
# What the installed standard commands mean

Every standard command has one opcode in the code of its class, the one of the table
(`implemented_eq`). The installation counts an opcode up that an existing command of the component
uses, and the command then has an opcode that means another command of the class or none. So the
standard commands mean what their names say exactly when no existing command uses one of their
opcodes (`standard_commands_bound_iff`).
-/

namespace DeltaV.Topology

/-- The opcode that `handleCommand` of its class implements for each standard command. -/
def implemented : List (Text × UInt32) :=
  [(ascii "SEQ_SET_TARGET", CommandSequencerComponent.OP_SET_TARGET),
    (ascii "SEQ_SET_OPCODE", CommandSequencerComponent.OP_SET_OPCODE),
    (ascii "SEQ_SET_ARGUMENT", CommandSequencerComponent.OP_SET_ARGUMENT),
    (ascii "SEQ_COMMIT_DELAY", CommandSequencerComponent.OP_COMMIT_DELAY_SECONDS),
    (ascii "SEQ_CLEAR_QUEUE", CommandSequencerComponent.OP_CLEAR_QUEUE),
    (ascii "FILE_BEGIN_SESSION", FileTransferComponent.OP_BEGIN_SESSION),
    (ascii "FILE_PUSH_TEST_BYTE", FileTransferComponent.OP_PUSH_TEST_BYTE),
    (ascii "FILE_FINALIZE_SESSION", FileTransferComponent.OP_FINALIZE_SESSION),
    (ascii "FILE_RESET_SESSION", FileTransferComponent.OP_RESET_SESSION),
    (ascii "DWELL_SELECT_CHANNEL", MemoryDwellComponent.OP_SELECT_CHANNEL),
    (ascii "DWELL_SET_PERIOD", MemoryDwellComponent.OP_SET_PERIOD_SECONDS),
    (ascii "DWELL_SAMPLE_NOW", MemoryDwellComponent.OP_SAMPLE_NOW),
    (ascii "DWELL_SET_ADDR_HI16", MemoryDwellComponent.OP_SET_ADDR_HI16),
    (ascii "DWELL_SET_ADDR_LO16", MemoryDwellComponent.OP_SET_ADDR_LO16),
    (ascii "DWELL_READ_ADDRESS", MemoryDwellComponent.OP_DWELL_ADDRESS),
    (ascii "DWELL_SET_VALUE_HI16", MemoryDwellComponent.OP_SET_VALUE_HI16),
    (ascii "DWELL_SET_VALUE_LO16", MemoryDwellComponent.OP_SET_VALUE_LO16),
    (ascii "DWELL_PATCH_ADDRESS", MemoryDwellComponent.OP_PATCH_ADDRESS),
    (ascii "TIME_SET_UTC_HI16", TimeSyncComponent.OP_SET_UTC_HI16),
    (ascii "TIME_SET_UTC_MIDHI16", TimeSyncComponent.OP_SET_UTC_MIDHI16),
    (ascii "TIME_SET_UTC_MIDLO16", TimeSyncComponent.OP_SET_UTC_MIDLO16),
    (ascii "TIME_SET_UTC_LO16", TimeSyncComponent.OP_SET_UTC_LO16),
    (ascii "TIME_APPLY_SYNC", TimeSyncComponent.OP_APPLY_SYNC),
    (ascii "TIME_PUBLISH_STATUS", TimeSyncComponent.OP_PUBLISH_STATUS),
    (ascii "PLAYBACK_LOAD_LOG", PlaybackComponent.OP_LOAD_LOG),
    (ascii "PLAYBACK_START", PlaybackComponent.OP_START),
    (ascii "PLAYBACK_STOP", PlaybackComponent.OP_STOP),
    (ascii "PLAYBACK_REWIND", PlaybackComponent.OP_REWIND),
    (ascii "PLAYBACK_STEP_ONCE", PlaybackComponent.OP_STEP_ONCE),
    (ascii "PLAYBACK_SET_RATE_HZ", PlaybackComponent.OP_SET_RATE_HZ),
    (ascii "OTA_BEGIN_SESSION", OtaComponent.OP_BEGIN_SESSION),
    (ascii "OTA_PUSH_TEST_BYTE", OtaComponent.OP_PUSH_TEST_BYTE),
    (ascii "OTA_SET_CRC_HI16", OtaComponent.OP_SET_EXPECTED_CRC_HI16),
    (ascii "OTA_SET_CRC_LO16", OtaComponent.OP_SET_EXPECTED_CRC_LO16),
    (ascii "OTA_VERIFY_IMAGE", OtaComponent.OP_VERIFY_IMAGE),
    (ascii "OTA_STAGE_ACTIVATE", OtaComponent.OP_STAGE_ACTIVATE),
    (ascii "OTA_RESET_SESSION", OtaComponent.OP_RESET_SESSION),
    (ascii "ATS_SET_TARGET", AtsRtsSequencerComponent.OP_SET_TARGET),
    (ascii "ATS_SET_OPCODE", AtsRtsSequencerComponent.OP_SET_OPCODE),
    (ascii "ATS_SET_ARGUMENT", AtsRtsSequencerComponent.OP_SET_ARGUMENT),
    (ascii "ATS_SET_TRIGGER_TYPE", AtsRtsSequencerComponent.OP_SET_TRIGGER_TYPE),
    (ascii "ATS_SET_TIME_HI16", AtsRtsSequencerComponent.OP_SET_TIME_HI16),
    (ascii "ATS_SET_TIME_LO16", AtsRtsSequencerComponent.OP_SET_TIME_LO16),
    (ascii "ATS_SET_EVENT_SOURCE", AtsRtsSequencerComponent.OP_SET_EVENT_SOURCE),
    (ascii "ATS_COMMIT_ENTRY", AtsRtsSequencerComponent.OP_COMMIT_ENTRY),
    (ascii "ATS_ARM", AtsRtsSequencerComponent.OP_ARM),
    (ascii "ATS_DISARM", AtsRtsSequencerComponent.OP_DISARM),
    (ascii "ATS_CLEAR", AtsRtsSequencerComponent.OP_CLEAR),
    (ascii "LIM_SET_TARGET", LimitCheckerComponent.OP_SET_TARGET_ID),
    (ascii "LIM_SET_WARN_LOW", LimitCheckerComponent.OP_SET_WARN_LOW),
    (ascii "LIM_SET_WARN_HIGH", LimitCheckerComponent.OP_SET_WARN_HIGH),
    (ascii "LIM_SET_CRIT_LOW", LimitCheckerComponent.OP_SET_CRIT_LOW),
    (ascii "LIM_SET_CRIT_HIGH", LimitCheckerComponent.OP_SET_CRIT_HIGH),
    (ascii "LIM_APPLY", LimitCheckerComponent.OP_APPLY_LIMITS),
    (ascii "LIM_CLEAR_TARGET", LimitCheckerComponent.OP_CLEAR_TARGET),
    (ascii "LIM_ENABLE", LimitCheckerComponent.OP_ENABLE),
    (ascii "LIM_DISABLE", LimitCheckerComponent.OP_DISABLE),
    (ascii "CFDP_BEGIN_SESSION", CfdpComponent.OP_BEGIN_SESSION),
    (ascii "CFDP_SET_CHUNK_INDEX", CfdpComponent.OP_SET_CHUNK_INDEX),
    (ascii "CFDP_PUSH_TEST_BYTE", CfdpComponent.OP_PUSH_TEST_BYTE),
    (ascii "CFDP_COMMIT_CHUNK", CfdpComponent.OP_COMMIT_CHUNK),
    (ascii "CFDP_REPORT_MISSING_COUNT", CfdpComponent.OP_REPORT_MISSING_COUNT),
    (ascii "CFDP_REPORT_NEXT_MISSING", CfdpComponent.OP_REPORT_NEXT_MISSING),
    (ascii "CFDP_COMPLETE_SESSION", CfdpComponent.OP_COMPLETE_SESSION),
    (ascii "CFDP_RESET_SESSION", CfdpComponent.OP_RESET_SESSION),
    (ascii "MODE_STAGE_TARGET", ModeManagerComponent.OP_STAGE_TARGET_ID),
    (ascii "MODE_STAGE_ENABLE_OPCODE", ModeManagerComponent.OP_STAGE_ENABLE_OPCODE),
    (ascii "MODE_STAGE_ENABLE_ARG", ModeManagerComponent.OP_STAGE_ENABLE_ARG),
    (ascii "MODE_STAGE_DISABLE_OPCODE", ModeManagerComponent.OP_STAGE_DISABLE_OPCODE),
    (ascii "MODE_STAGE_DISABLE_ARG", ModeManagerComponent.OP_STAGE_DISABLE_ARG),
    (ascii "MODE_STAGE_MASK", ModeManagerComponent.OP_STAGE_MODE_MASK),
    (ascii "MODE_COMMIT_RULE", ModeManagerComponent.OP_COMMIT_RULE),
    (ascii "MODE_CLEAR_RULES", ModeManagerComponent.OP_CLEAR_RULES),
    (ascii "MODE_SET_MODE", ModeManagerComponent.OP_SET_MODE),
    (ascii "MODE_APPLY", ModeManagerComponent.OP_APPLY_MODE),
    (ascii "MODE_REPORT_STATUS", ModeManagerComponent.OP_REPORT_STATUS)]

/-- The two tables agree. -/
theorem standardCommands_eq : STANDARD_COMMANDS.map (fun cmd => (cmd.name, cmd.opcode)) =
    implemented.map fun e => (e.1, (e.2.toNat : ℤ)) := rfl

/-- The names of the table are different. -/
theorem standardNames_nodup : (STANDARD_COMMANDS.map StandardCommand.name).Nodup := by
  decide +kernel

/-- In a table without repeated keys, every entry is found. -/
theorem lookup_of_mem {κ α : Type} [BEq κ] [LawfulBEq κ] {l : List (κ × α)}
    (hnodup : (l.map Prod.fst).Nodup) {e : κ × α} (h : e ∈ l) : l.lookup e.1 = some e.2 := by
  obtain ⟨before, after, rfl⟩ := List.append_of_mem h
  rw [List.map_append, List.map_cons] at hnodup
  refine List.lookup_eq_some_iff.mpr ⟨before, after, rfl, fun p hp => ?_⟩
  have hne : p.1 ≠ e.1 :=
    (List.nodup_append.mp hnodup).2.2 _ (List.mem_map_of_mem hp) _ List.mem_cons_self
  exact bne_iff_ne.mpr hne.symm

/-- The table has the opcodes that are implemented. -/
theorem implemented_eq {cmd : StandardCommand} (hcmd : cmd ∈ STANDARD_COMMANDS) :
    (implemented.lookup cmd.name).map (fun op => (op.toNat : ℤ)) = some cmd.opcode := by
  have hmem : (cmd.name, cmd.opcode) ∈ implemented.map fun e => (e.1, (e.2.toNat : ℤ)) := by
    rw [← standardCommands_eq]
    exact List.mem_map_of_mem hcmd
  obtain ⟨e, he, heq⟩ := List.mem_map.mp hmem
  obtain ⟨hname, hop⟩ := Prod.mk.inj heq
  have hkeys : implemented.map Prod.fst = STANDARD_COMMANDS.map StandardCommand.name := rfl
  rw [← hname, lookup_of_mem (hkeys ▸ standardNames_nodup) he, ← hop]
  rfl

/-- The name of the command stands for one command, which goes to a component of its class with the
opcode that the class implements. -/
structure Binds (topo : TopologyFile) (cmd : StandardCommand) (entry : CommandEntry) : Prop where
  mem : entry ∈ topo.commands
  name : entry.name = some cmd.name
  unique : ∀ e ∈ topo.commands, e.name = some cmd.name → e = entry
  target : ∃ c ∈ topo.components, c.id.isSome ∧ entry.target_id = c.id ∧
    c.cls = default_target_to_class.lookup cmd.target_id
  opcode : entry.opcode = (implemented.lookup cmd.name).map fun op => (op.toNat : ℤ)

/-- No existing command of the component of its class has the opcode of a standard command; of
several components of the class, that of the last. -/
def OpcodesFree (topo : TopologyFile) : Prop :=
  ∀ cmd ∈ STANDARD_COMMANDS, ∀ cls id, default_target_to_class.lookup cmd.target_id = some cls →
    topo.class_to_id cls = some id → (id, cmd.opcode) ∉ topo.existing_pairs

/-- A class that is there keeps its number. -/
theorem class_to_id_append {topo : TopologyFile} {components : List ComponentDecl} {cls : Text}
    (h : some cls ∉ components.map ComponentDecl.cls) :
    ({ topo with components := topo.components ++ components } : TopologyFile).class_to_id cls =
      topo.class_to_id cls := by
  have hnone : (components.filterMap fun c => if c.cls = some cls then c.id else none) = [] := by
    rw [List.filterMap_eq_nil_iff]
    intro c hc
    exact if_neg fun hcls => h (List.mem_map.mpr ⟨c, hc, hcls⟩)
  unfold TopologyFile.class_to_id
  rw [List.filterMap_append, hnone, List.append_nil]

/-- The opcodes are free after the components are added exactly when they are before: an added
component has no commands. -/
theorem targetsFree_iff {topo : TopologyFile} {components : List ComponentDecl}
    (hvalid : topo.checked.Accepted)
    (hvalid' : ({ topo with components := topo.components ++ components } :
      TopologyFile).checked.Accepted)
    (hfresh : ∀ c ∈ components, c.cls ∉ topo.component_classes)
    (hpresent : ∀ comp ∈ STANDARD_COMPONENTS, some comp.cls ∈
      ({ topo with components := topo.components ++ components } :
        TopologyFile).component_classes) :
    TargetsFree { topo with components := topo.components ++ components } ↔ OpcodesFree topo := by
  have hids := ids_of_accepted hvalid
  have hids' := ids_of_accepted hvalid'
  -- A class of the topology has its old number.
  have hold : ∀ (cmd : StandardCommand) (cls : Text) (id : ℤ),
      default_target_to_class.lookup cmd.target_id = some cls → topo.class_to_id cls = some id →
        targetOf { topo with components := topo.components ++ components } cmd = id := by
    intro cmd cls id hlookup hid
    have hmem : some cls ∈ topo.component_classes := by
      obtain ⟨c, hc, hsome⟩ := List.mem_filterMap.mp (List.mem_of_getLast? hid)
      split_ifs at hsome with hcls
      exact List.mem_map.mpr ⟨c, hc, hcls⟩
    have hnot : some cls ∉ components.map ComponentDecl.cls := by
      intro h
      obtain ⟨c, hc, hcls⟩ := List.mem_map.mp h
      exact hfresh c hc (hcls ▸ hmem)
    rw [targetOf, hlookup, Option.bind_some, class_to_id_append hnot, hid, Option.getD_some]
  constructor
  · intro h cmd hcmd cls id hlookup hid
    have hfree := h cmd hcmd
    rw [hold cmd cls id hlookup hid] at hfree
    exact hfree
  · intro h cmd hcmd hmem
    obtain ⟨cls, hcls, hlookup⟩ := classOf_mem cmd hcmd
    obtain ⟨comp, hcomp, rfl⟩ := List.mem_map.mp hcls
    by_cases hclass : some comp.cls ∈ topo.component_classes
    · obtain ⟨-, -, id, -, -, hid⟩ := class_to_id_spec hids hclass
      rw [hold cmd comp.cls id hlookup hid] at hmem
      exact h cmd hcmd comp.cls id hlookup hid hmem
    · -- The command would go to a number that no component had.
      obtain ⟨c, hc, hid, hccls⟩ := targetOf_spec hids' hpresent hcmd
      rw [hlookup] at hccls
      have hadded : c ∈ components := by
        rcases List.mem_append.mp hc with hc | hc
        · exact absurd (List.mem_map.mpr ⟨c, hc, hccls.symm⟩) hclass
        · exact hc
      obtain ⟨cmd', hcmd', htid, -⟩ := mem_existing_pairs.mp hmem
      have hknown := (hvalid.sound _ (List.mem_map_of_mem hcmd')).target
      rw [htid] at hknown
      have hnodup : (List.filterMap ComponentDecl.id (topo.components ++ components)).Nodup :=
        hvalid'.ids_nodup
      rw [List.filterMap_append] at hnodup
      exact List.disjoint_of_nodup_append hnodup (of_decide_eq_true hknown)
        (List.mem_filterMap.mpr ⟨c, hadded, hid⟩)

/-- An entry with the name of a standard command is one that was added for it. -/
theorem AppsInstalledFrom.entry_eq {topo : TopologyFile} {components : List ComponentDecl}
    {commands : List CommandEntry} {s : Installation}
    (h : AppsInstalledFrom topo components commands s) {cmd : StandardCommand}
    (hcmd : cmd ∈ STANDARD_COMMANDS) (hname : some cmd.name ∉ topo.existing_cmd_names)
    {e : CommandEntry} (he : e ∈ s.topo.commands) (hsame : e.name = some cmd.name) :
    e ∈ commands ∧ ∃ opcode, e = cmd.entry (targetOf s.topo cmd) opcode ∧
      (TargetsFree { topo with components := topo.components ++ components } →
        opcode = cmd.opcode) := by
  rw [h.topo_eq] at he
  rcases List.mem_append.mp he with he | he
  · exact absurd (List.mem_map.mpr ⟨e, he, hsame⟩) hname
  · obtain ⟨cmd', hcmd', opcode, rfl, hexact⟩ := h.entries e he
    obtain rfl : cmd' = cmd :=
      List.inj_on_of_nodup_map standardNames_nodup hcmd' hcmd (Option.some.inj hsame)
    exact ⟨he, opcode, rfl, hexact⟩

/-- After the standard apps are installed in an accepted topology without any of their commands,
all standard commands mean what their names say exactly when their opcodes were free. -/
theorem standard_commands_bound_iff (topo : TopologyFile) (hvalid : validate topo.checked = [])
    (hop : ∀ c ∈ topo.commands, c.opcode.isSome)
    (hnames : ∀ cmd ∈ STANDARD_COMMANDS, some cmd.name ∉ topo.existing_cmd_names) :
    ∃ bound s, (∀ passes, bound ≤ passes → install_standard_apps passes topo = Except.ok s) ∧
      ((∀ cmd ∈ STANDARD_COMMANDS, ∃ entry, Binds s.topo cmd entry) ↔ OpcodesFree topo) := by
  have haccepted : topo.checked.Accepted := (validate_eq_nil_iff _).mp hvalid
  obtain ⟨bound, s, hok, components, commands, h⟩ := install_spec haccepted hop
  refine ⟨bound, s, hok, ?_⟩
  have hcomponents : s.topo.components = topo.components ++ components := by rw [h.topo_eq]
  have hids := ids_of_accepted h.accepted
  have hclasses : s.topo.component_classes =
      ({ topo with components := topo.components ++ components } :
        TopologyFile).component_classes := by
    rw [h.topo_eq]
    rfl
  have htargets : ∀ cmd, targetOf s.topo cmd =
      targetOf { topo with components := topo.components ++ components } cmd := by
    intro cmd
    rw [h.topo_eq]
    rfl
  rw [← targetsFree_iff haccepted h.base_accepted h.cls_fresh (hclasses ▸ h.installed.classes)]
  constructor
  · intro hall cmd hcmd hmem
    obtain ⟨entry, hentry⟩ := hall cmd hcmd
    obtain ⟨hadded, opcode, rfl, -⟩ := h.entry_eq hcmd (hnames cmd hcmd) hentry.mem hentry.name
    have hopcode : some opcode = some cmd.opcode := hentry.opcode.trans (implemented_eq hcmd)
    -- The existing command and the added one would have one target and opcode.
    obtain ⟨c, hc, htid, hcop⟩ := mem_existing_pairs.mp hmem
    have hnodup := h.accepted.opcodes_nodup
    have hcommands : s.topo.checked.commands =
        topo.commands.map CommandEntry.toCommandDecl ++
          commands.map CommandEntry.toCommandDecl := by
      rw [h.topo_eq]
      exact List.map_append
    rw [hcommands, List.map_append] at hnodup
    refine List.disjoint_of_nodup_append hnodup
      (List.mem_map_of_mem (List.mem_map_of_mem hc)) ?_
    have hpair : (c.target_id, c.opcode) = (some (targetOf s.topo cmd), some opcode) := by
      rw [htid, hcop, htargets, hopcode]
    rw [hpair]
    exact List.mem_map_of_mem (List.mem_map_of_mem hadded)
  · intro hfree cmd hcmd
    obtain ⟨entry, hmem, hname⟩ := List.mem_map.mp (h.installed.names cmd hcmd)
    obtain ⟨-, opcode, rfl, hexact⟩ := h.entry_eq hcmd (hnames cmd hcmd) hmem hname
    obtain ⟨c, hc, hid, hcls⟩ := targetOf_spec hids h.installed.classes hcmd
    refine ⟨_, hmem, rfl, fun e he hsame => ?_, ⟨c, hc, hids c hc, hid.symm, hcls.symm⟩, ?_⟩
    · obtain ⟨-, opcode', rfl, hexact'⟩ := h.entry_eq hcmd (hnames cmd hcmd) he hsame
      rw [hexact hfree, hexact' hfree]
    · rw [implemented_eq hcmd, ← hexact hfree]
      rfl

/-- A sequencer with a command of its own. -/
def staging (opcode : ℤ) : TopologyFile where
  components :=
    [component 40 "CmdSequencer" "CommandSequencerComponent" "cmd_sequencer" "Passive" "norm"]
  commands := [⟨⟨some (ascii "STAGE_TARGET"), some 40, some opcode, none⟩, none⟩]
  params := []
  custom_wiring := none

/-- With an opcode that no standard command has, all standard commands are bound. -/
theorem commands_bound_beside :
    ∃ s, (∃ bound, ∀ passes, bound ≤ passes →
        install_standard_apps passes (staging 6) = Except.ok s) ∧
      ∀ cmd ∈ STANDARD_COMMANDS, ∃ entry, Binds s.topo cmd entry := by
  have hvalid : validate (staging 6).checked = [] := by decide +kernel
  have hop : ∀ c ∈ (staging 6).commands, c.opcode.isSome := by decide +kernel
  have hnames : ∀ cmd ∈ STANDARD_COMMANDS, some cmd.name ∉ (staging 6).existing_cmd_names := by
    decide +kernel
  have hfree : ∀ cmd ∈ STANDARD_COMMANDS,
      (targetOf (staging 6) cmd, cmd.opcode) ∉ (staging 6).existing_pairs := by decide +kernel
  obtain ⟨bound, s, hok, hiff⟩ := standard_commands_bound_iff (staging 6) hvalid hop hnames
  refine ⟨s, ⟨bound, hok⟩, hiff.mpr fun cmd hcmd cls id hcls hid => ?_⟩
  have htarget : targetOf (staging 6) cmd = id := by
    rw [targetOf, hcls, Option.bind_some, hid, Option.getD_some]
  exact htarget ▸ hfree cmd hcmd

/-- An existing command with opcode 1 of the sequencer shifts all its standard commands by one: the
name for setting the target is installed with the opcode that sets the opcode. -/
theorem shifted_opcodes :
    let topo := staging 1
    validate topo.checked = [] ∧
      (∀ cmd ∈ STANDARD_COMMANDS, some cmd.name ∉ topo.existing_cmd_names) ∧
      (install_standard_apps 10 topo).toOption.map (fun s =>
        (s.topo.commands.filter fun c => c.name = some (ascii "SEQ_SET_TARGET")).map fun c =>
          (c.target_id, c.opcode)) = some [(some 40, some 2)] ∧
      implemented.lookup (ascii "SEQ_SET_TARGET") = some 1 ∧
      implemented.lookup (ascii "SEQ_SET_OPCODE") = some 2 := by
  decide +kernel

end DeltaV.Topology
