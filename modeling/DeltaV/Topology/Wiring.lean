import DeltaV.Topology.Program

/-!
# What the wiring functions do

Each part of a `Program` is changed by some statements only. A selector picks these statements out
and says what they do to the part, and `run_project` turns this into what a whole run does to it.
The statements of a rendered program are known (`Rendered.wiring_eq`), so the selectors can be
evaluated.
-/

namespace DeltaV.Topology

variable {topo : Topology} {comps : List Instance} {commands : List Command} {m : TopologyManager}

/-- The statements of a rendered program. -/
theorem Rendered.wiring_eq (h : Rendered topo comps commands m) :
    m.wiring =
      ([Stmt.telemListener ⟨ascii "radio", ascii "telem_in"⟩,
          Stmt.telemListener ⟨ascii "recorder", ascii "telemetry_in"⟩] ++
        (comps.filter Instance.app).map fun c => Stmt.telemInput c.inst) ++
      ((commands.map fun cmd => Stmt.policy cmd.target_id cmd.opcode cmd.op_class) ++
        ([Stmt.connectCommand (CommandOut.command_out (ascii "radio")) CommandIn.cmd_input] ++
          (comps.filter (Instance.routed commands)).flatMap fun c =>
            [Stmt.connectCommand (CommandOut.route c.inst) (CommandIn.cmd_in c.inst),
              Stmt.registerRoute c.cid c.inst])) ++
      ([Stmt.eventListener ⟨ascii "radio", ascii "event_in"⟩,
          Stmt.eventListener ⟨ascii "recorder", ascii "event_in"⟩] ++
        (comps.filter Instance.staged).flatMap fun c =>
          [Stmt.connectEvent c.eventOut c.inst, Stmt.eventSource c.inst]) ++
      topo.custom_wiring.map Stmt.custom := by
  have hm := congrArg TopologyManager.wiring h.eq
  exact hm

/-- Nothing for each element is nothing. -/
theorem flatMap_nil {α β : Type} (l : List α) : (l.flatMap fun _ => ([] : List β)) = [] :=
  List.flatMap_eq_nil_iff.mpr fun _ _ => rfl

/-- What a selector picks out of the statements of a rendered program. -/
theorem Rendered.filterMap_wiring (h : Rendered topo comps commands m) {κ : Type}
    (f : Stmt → Option κ) :
    m.wiring.filterMap f =
      ([Stmt.telemListener ⟨ascii "radio", ascii "telem_in"⟩,
          Stmt.telemListener ⟨ascii "recorder", ascii "telemetry_in"⟩].filterMap f ++
        (comps.filter Instance.app).filterMap fun c => f (Stmt.telemInput c.inst)) ++
      ((commands.filterMap fun cmd => f (Stmt.policy cmd.target_id cmd.opcode cmd.op_class)) ++
        ([Stmt.connectCommand (CommandOut.command_out (ascii "radio"))
            CommandIn.cmd_input].filterMap f ++
          (comps.filter (Instance.routed commands)).flatMap fun c =>
            [Stmt.connectCommand (CommandOut.route c.inst) (CommandIn.cmd_in c.inst),
              Stmt.registerRoute c.cid c.inst].filterMap f)) ++
      ([Stmt.eventListener ⟨ascii "radio", ascii "event_in"⟩,
          Stmt.eventListener ⟨ascii "recorder", ascii "event_in"⟩].filterMap f ++
        (comps.filter Instance.staged).flatMap fun c =>
          [Stmt.connectEvent c.eventOut c.inst, Stmt.eventSource c.inst].filterMap f) ++
      topo.custom_wiring.filterMap fun wire => f (Stmt.custom wire) := by
  rw [h.wiring_eq]
  simp only [List.filterMap_append, List.filterMap_map, List.filterMap_flatMap,
    Function.comp_def]

/-- Custom wiring is part of the wiring. -/
theorem Rendered.mem_custom (h : Rendered topo comps commands m) {wire : CustomWire}
    (hwire : wire ∈ topo.custom_wiring) : Stmt.custom wire ∈ m.wiring := by
  rw [h.wiring_eq]
  exact List.mem_append_right _ (List.mem_map_of_mem hwire)

/-- What the compiler asks of the lines of custom wiring. -/
theorem Rendered.custom_compiles (h : Rendered topo comps commands m) (hc : m.Compiles)
    {wire : CustomWire} (hwire : wire ∈ topo.custom_wiring) :
    (∀ name ∈ wire.names, isIdentifier name = true) ∧
      ∀ param ∈ wire.params, param ∈ m.tmr_members.map TmrMember.name := by
  simpa [Stmt.compiles] using hc.stmts _ (h.mem_custom hwire)

/-! ## Selectors -/

namespace Stmt

/-- The instance whose telemetry is connected. -/
def asTelemInput : Stmt → Option Text
  | telemInput inst => some inst
  | _ => none

/-- The telemetry listener. -/
def asTelemListener : Stmt → Option PortName
  | telemListener dest => some dest
  | custom (CustomWire.telemListener dest) => some dest
  | _ => none

/-- The policy, unless the hub refuses its target. -/
def asPolicy : Stmt → Option ((UInt32 × UInt32) × OpClass)
  | policy target_id opcode op_class =>
    if UInt32.ofInt target_id = 0 then none
    else (opClass op_class).map fun cls => ((UInt32.ofInt target_id, UInt32.ofInt opcode), cls)
  | _ => none

/-- The two ends of a command connection. -/
def asCommandWire : Stmt → Option (CommandOut × CommandIn)
  | connectCommand out dest => some (out, dest)
  | custom (CustomWire.commandOut inst dest) => some (CommandOut.command_out inst, dest)
  | _ => none

/-- The route. -/
def asRoute : Stmt → Option (UInt32 × CommandOut)
  | registerRoute cid inst => some (UInt32.ofInt cid, CommandOut.route inst)
  | _ => none

/-- The event listener. -/
def asEventListener : Stmt → Option EventIn
  | eventListener dest => some (EventIn.listener dest)
  | custom (CustomWire.eventListener dest) => some (EventIn.listener dest)
  | _ => none

/-- The two ends of an event connection. -/
def asEventWire : Stmt → Option (EventOut × EventIn)
  | connectEvent out inst => some (out, EventIn.staging inst)
  | _ => none

/-- The event source. -/
def asEventSource : Stmt → Option EventIn
  | eventSource inst => some (EventIn.staging inst)
  | _ => none

/-- The mission state source is set. -/
def asMissionSource : Stmt → Option Unit
  | custom CustomWire.setMissionStateSource => some ()
  | _ => none

/-- The threshold sources. -/
def asThresholds : Stmt → Option (Text × Text × Text)
  | custom (CustomWire.setBatteryThresholdSources emergency safe_mode degraded) =>
    some (emergency, safe_mode, degraded)
  | _ => none

/-- The store that is registered, and the name given for it. -/
def asStore : Stmt → Option (Text × Text)
  | custom (CustomWire.registerWithFdir param label) => some (param, label)
  | custom (CustomWire.registerStore param) => some (param, ascii "tmr_store")
  | _ => none

end Stmt

/-! ## The parts of a program after some statements -/

namespace Program

/-- The next input of the telemetry hub, and what telemetry outputs are connected to. -/
def telemInputs (s : Program) : ℕ × (Text → Option (TelemPort PortName)) :=
  (s.telem.hub.input_count, s.telem.bus.connected)

/-- One more telemetry input. -/
def addTelemInput (acc : ℕ × (Text → Option (TelemPort PortName))) (inst : Text) :
    ℕ × (Text → Option (TelemPort PortName)) :=
  if acc.1 < MAX_TELEM_INPUTS then
    (acc.1 + 1, Function.update acc.2 inst (some (TelemPort.internal acc.1)))
  else acc

/-- The inputs of the telemetry hub are those of the statements, up to their maximum. -/
theorem telemInputs_run (s : Program) (stmts : List Stmt) :
    (run exec s stmts).telemInputs =
      (stmts.filterMap Stmt.asTelemInput).foldl addTelemInput s.telemInputs := by
  refine run_project telemInputs (fun s stmt => ?_) s stmts
  cases stmt with
  | telemInput inst =>
    simp only [exec, telemInputs, addTelemInput, TelemetrySystem.connectInput, Stmt.asTelemInput,
      Option.elim_some]
    split_ifs <;> rfl
  | telemListener dest =>
    simp only [exec, telemInputs, TelemetrySystem.registerListener, Stmt.asTelemInput,
      Option.elim_none]
    split_ifs <;> rfl
  | policy target_id opcode op_class =>
    simp only [exec]
    cases opClass op_class <;> rfl
  | custom wire =>
    cases wire with
    | telemListener dest =>
      simp only [exec, execCustom, telemInputs, TelemetrySystem.registerListener,
        Stmt.asTelemInput, Option.elim_none]
      split_ifs <;> rfl
    | _ => rfl
  | _ => rfl

/-- The listeners of the telemetry hub are those of the statements, up to their maximum. -/
theorem telemListeners_run (s : Program) (stmts : List Stmt) :
    (run exec s stmts).telem.hub.internal_outputs =
      (stmts.filterMap Stmt.asTelemListener).foldl (offer MAX_TELEM_LISTENERS)
        s.telem.hub.internal_outputs := by
  refine run_project (fun s : Program => s.telem.hub.internal_outputs) (fun s stmt => ?_) s stmts
  cases stmt with
  | telemInput inst =>
    simp only [exec, TelemetrySystem.connectInput, Stmt.asTelemListener, Option.elim_none]
    split_ifs <;> rfl
  | telemListener dest =>
    simp only [exec, TelemetrySystem.registerListener, Stmt.asTelemListener, Option.elim_some,
      offer]
    split_ifs <;> rfl
  | policy target_id opcode op_class =>
    simp only [exec]
    cases opClass op_class <;> rfl
  | custom wire =>
    cases wire with
    | telemListener dest =>
      simp only [exec, execCustom, TelemetrySystem.registerListener, Stmt.asTelemListener,
        Option.elim_some, offer]
      split_ifs <;> rfl
    | _ => rfl
  | _ => rfl

/-- The policies are those of the statements, the first for each opcode. -/
theorem policies_run (s : Program) (stmts : List Stmt) :
    (run exec s stmts).cmd.hub.command_policies =
      (stmts.filterMap Stmt.asPolicy).foldl FirstWins.insert s.cmd.hub.command_policies := by
  refine run_project (fun s : Program => s.cmd.hub.command_policies) (fun s stmt => ?_) s stmts
  cases stmt with
  | policy target_id opcode op_class =>
    simp only [exec, Stmt.asPolicy]
    rcases opClass op_class with _ | cls
    · simp
    · by_cases h0 : UInt32.ofInt target_id = 0
      · rw [if_pos h0]
        exact (s.cmd.hub.registerCommandPolicy_frame _ _ _).2.2.2 h0
      · rw [if_neg h0]
        exact s.cmd.hub.registerCommandPolicy_policies h0 _ _
  | registerRoute cid inst => exact (s.cmd.hub.registerRoute_frame _ _).1
  | custom wire => cases wire <;> rfl
  | _ => rfl

/-- The routes are those of the statements, the first for each target. -/
theorem routes_run (s : Program) (stmts : List Stmt) :
    (run exec s stmts).cmd.hub.routes =
      (stmts.filterMap Stmt.asRoute).foldl FirstWins.insert s.cmd.hub.routes := by
  refine run_project (fun s : Program => s.cmd.hub.routes) (fun s stmt => ?_) s stmts
  cases stmt with
  | policy target_id opcode op_class =>
    simp only [exec, Stmt.asRoute, Option.elim_none]
    rcases opClass op_class with _ | cls
    · rfl
    · exact (s.cmd.hub.registerCommandPolicy_frame _ _ _).1
  | registerRoute cid inst => exact s.cmd.hub.registerRoute_some _ _
  | custom wire => cases wire <;> rfl
  | _ => rfl

/-- The mission source is set when a statement sets it. -/
theorem watchdog_run (s : Program) (stmts : List Stmt) :
    (run exec s stmts).cmd.hub.watchdog =
      (stmts.filterMap Stmt.asMissionSource).foldl (fun _ _ => true) s.cmd.hub.watchdog := by
  refine run_project (fun s : Program => s.cmd.hub.watchdog) (fun s stmt => ?_) s stmts
  cases stmt with
  | policy target_id opcode op_class =>
    simp only [exec, Stmt.asMissionSource, Option.elim_none]
    rcases opClass op_class with _ | cls
    · rfl
    · exact (s.cmd.hub.registerCommandPolicy_frame _ _ _).2.1
  | registerRoute cid inst => exact (s.cmd.hub.registerRoute_frame _ _).2.1
  | custom wire => cases wire <;> rfl
  | _ => rfl

/-- One more connection. -/
def link {Out In : Type} [DecidableEq Out] (conn : Out → Option In) (e : Out × In) :
    Out → Option In := Function.update conn e.1 (some e.2)

/-- After a list of connections, a port is connected by the last of its own. -/
theorem foldl_link {Out In : Type} [DecidableEq Out] (conn : Out → Option In)
    (es : List (Out × In)) (o : Out) :
    es.foldl link conn o =
      ((es.filter fun e => e.1 = o).getLast?.map Prod.snd).or (conn o) := by
  induction es using List.reverseRecOn with
  | nil => rfl
  | append_singleton es e ih =>
    rw [List.foldl_concat, link, List.filter_append]
    by_cases h : e.1 = o
    · simp [h]
    · have hne : o ≠ e.1 := fun heq => h heq.symm
      simpa [h, Function.update_of_ne hne] using ih

/-- A port whose connections all lead to one place is connected to it. -/
theorem foldl_link_of_unique {Out In : Type} [DecidableEq Out] (conn : Out → Option In)
    {es : List (Out × In)} {o : Out} {dest : In} (hmem : (o, dest) ∈ es)
    (huniq : ∀ e ∈ es, e.1 = o → e.2 = dest) : es.foldl link conn o = some dest := by
  have hown : (o, dest) ∈ es.filter fun e => e.1 = o :=
    List.mem_filter.mpr ⟨hmem, decide_eq_true rfl⟩
  rw [foldl_link, List.getLast?_eq_some_getLast (List.ne_nil_of_mem hown)]
  obtain ⟨hlast, hkey⟩ := List.mem_filter.mp (List.getLast_mem (List.ne_nil_of_mem hown))
  rw [Option.map_some, huniq _ hlast (of_decide_eq_true hkey)]
  rfl

/-- What the output ports of commands are connected to. -/
theorem commands_run (s : Program) (stmts : List Stmt) :
    (run exec s stmts).cmd.commands.connected =
      (stmts.filterMap Stmt.asCommandWire).foldl link s.cmd.commands.connected := by
  refine run_project (fun s : Program => s.cmd.commands.connected) (fun s stmt => ?_) s stmts
  cases stmt with
  | policy target_id opcode op_class =>
    simp only [exec]
    cases opClass op_class <;> rfl
  | custom wire => cases wire <;> rfl
  | _ => rfl

/-- What the output ports of events are connected to. -/
theorem events_run (s : Program) (stmts : List Stmt) :
    (run exec s stmts).cmd.events.connected =
      (stmts.filterMap Stmt.asEventWire).foldl link s.cmd.events.connected := by
  refine run_project (fun s : Program => s.cmd.events.connected) (fun s stmt => ?_) s stmts
  cases stmt with
  | policy target_id opcode op_class =>
    simp only [exec]
    cases opClass op_class <;> rfl
  | custom wire => cases wire <;> rfl
  | _ => rfl

/-- No statement sends a packet. -/
theorem input_run (s : Program) (stmts : List Stmt) :
    (run exec s stmts).cmd.commands.input = s.cmd.commands.input := by
  refine run_frame (fun s : Program => s.cmd.commands.input) (fun s stmt => ?_) s stmts
  cases stmt with
  | policy target_id opcode op_class =>
    simp only [exec]
    cases opClass op_class <;> rfl
  | custom wire => cases wire <;> rfl
  | _ => rfl

/-- The sources of the event hub are those of the statements, up to their maximum. -/
theorem eventSources_run (s : Program) (stmts : List Stmt) :
    (run exec s stmts).event_hub.inputs =
      (stmts.filterMap Stmt.asEventSource).foldl (offer MAX_EVENT_SOURCES) s.event_hub.inputs := by
  refine run_project (fun s : Program => s.event_hub.inputs) (fun s stmt => ?_) s stmts
  cases stmt with
  | policy target_id opcode op_class =>
    simp only [exec]
    cases opClass op_class <;> rfl
  | custom wire => cases wire <;> rfl
  | _ => rfl

/-- The listeners of the event hub are those of the statements, up to their maximum. -/
theorem eventListeners_run (s : Program) (stmts : List Stmt) :
    (run exec s stmts).event_hub.listeners =
      (stmts.filterMap Stmt.asEventListener).foldl (offer MAX_EVENT_LISTENERS)
        s.event_hub.listeners := by
  refine run_project (fun s : Program => s.event_hub.listeners) (fun s stmt => ?_) s stmts
  cases stmt with
  | policy target_id opcode op_class =>
    simp only [exec]
    cases opClass op_class <;> rfl
  | custom wire => cases wire <;> rfl
  | _ => rfl

/-- The threshold source is that of the last statement that sets one. -/
theorem thresholds_run (s : Program) (stmts : List Stmt) :
    (run exec s stmts).threshold_sources =
      (stmts.filterMap Stmt.asThresholds).foldl (fun _ e => some e) s.threshold_sources := by
  refine run_project (fun s : Program => s.threshold_sources) (fun s stmt => ?_) s stmts
  cases stmt with
  | policy target_id opcode op_class =>
    simp only [exec]
    cases opClass op_class <;> rfl
  | custom wire => cases wire <;> rfl
  | _ => rfl

/-- The registry is that of the statements, the first for each store. -/
theorem registry_run (s : Program) (stmts : List Stmt) :
    (run exec s stmts).tmr.registry.entries =
      (stmts.filterMap Stmt.asStore).foldl FirstWins.insert s.tmr.registry.entries := by
  refine run_project (fun s : Program => s.tmr.registry.entries) (fun s stmt => ?_) s stmts
  cases stmt with
  | policy target_id opcode op_class =>
    simp only [exec]
    cases opClass op_class <;> rfl
  | custom wire =>
    cases wire with
    | registerWithFdir param label => exact s.tmr.registry.registerParam_some label param
    | registerStore param => exact s.tmr.registry.registerParam_some (ascii "tmr_store") param
    | _ => rfl
  | _ => rfl

/-- No statement changes the copies of a store. -/
theorem copies_run (s : Program) (stmts : List Stmt) (param : Text) (i : Fin 3) :
    ((run exec s stmts).tmr.stores param).copy i = (s.tmr.stores param).copy i := by
  refine run_frame (fun s : Program => (s.tmr.stores param).copy i) (fun s stmt => ?_) s stmts
  cases stmt with
  | policy target_id opcode op_class =>
    simp only [exec]
    cases opClass op_class <;> rfl
  | custom wire =>
    cases wire with
    | registerWithFdir p label => exact s.tmr.copy_registerWithFdir p param label i
    | registerStore p => exact s.tmr.copy_registerWithFdir p param (ascii "tmr_store") i
    | _ => rfl
  | _ => rfl

/-- No statement of the wiring functions registers a subsystem. -/
theorem monitored_run (s : Program) (stmts : List Stmt) :
    (run exec s stmts).monitored_systems = s.monitored_systems := by
  refine run_frame Program.monitored_systems (fun s stmt => ?_) s stmts
  cases stmt with
  | policy target_id opcode op_class =>
    simp only [exec]
    cases opClass op_class <;> rfl
  | custom wire => cases wire <;> rfl
  | _ => rfl

/-- Registrations of subsystems are offers to the table of the watchdog, and change nothing else. -/
theorem run_registerSubsystem (s : Program) (insts : List Text) :
    run registerSubsystem s insts =
      { s with
        monitored_systems :=
          insts.foldl (offer MAX_MONITORED_SUBSYSTEMS) s.monitored_systems } := by
  induction insts generalizing s with
  | nil => rfl
  | cons inst insts ih => exact ih (s.registerSubsystem inst)

end Program

/-- `registerFdir` fills the table of the watchdog with the first subsystems. -/
theorem TopologyManager.start_eq (m : TopologyManager) :
    m.start = { m.wire m.construct with
      monitored_systems := m.reg_fdir.take MAX_MONITORED_SUBSYSTEMS } := by
  have hnone : (m.wire m.construct).monitored_systems = [] := Program.monitored_run _ _
  rw [start, registerFdir, Program.run_registerSubsystem, hnone, foldl_offer]

end DeltaV.Topology
