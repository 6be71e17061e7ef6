import DeltaV.Topology.Model

/-!
# The generated topology manager

`render_topo` emits C++ text, line by line. A line is modelled by what it says: a `Stmt` of one of
the wiring functions, the name of an instance for a registration, or a `Check` of `verify`. The loop
over the components keeps the lists and the two counters of the source in `Lines`, and `emit` is its
body. What the loop has emitted at its end is `lines_spec`: every list is its fixed beginning and
then, component by component, what `emit` adds for the component.
-/

namespace DeltaV.Topology

/-! ## Text -/

/-- `str.lower()`, for the letters that the keywords are made of. -/
def lower (t : Text) : Text := t.map fun c => if 65 ≤ c ∧ c ≤ 90 then c + 32 else c

/-- `str.upper()`, for the letters that the keywords are made of. -/
def upper (t : Text) : Text := t.map fun c => if 97 ≤ c ∧ c ≤ 122 then c - 32 else c

/-- White space. -/
def isSpace (c : UInt8) : Bool := decide (c = 32 ∨ 9 ≤ c ∧ c ≤ 13 ∨ 28 ≤ c ∧ c ≤ 31)

/-- `str.strip()`. -/
def strip (t : Text) : Text := ((t.dropWhile isSpace).reverse.dropWhile isSpace).reverse

/-- The input port that a command output is connected to, in C++. -/
def CommandIn.text : CommandIn → Text
  | cmd_input => ascii "cmd_hub.cmd_input"
  | cmd_in inst => inst ++ ascii ".cmd_in"

/-- A port, in C++. -/
def PortName.text (p : PortName) : Text := p.inst ++ ascii "." ++ p.port

/-- A line of custom wiring, in C++. -/
def CustomWire.text : CustomWire → Text
  | setMissionStateSource => ascii "cmd_hub.setMissionStateSource" ++ ascii "(" ++
      ascii "&watchdog);"
  | setBatteryThresholdSources emergency safe_mode degraded =>
    ascii "watchdog.setBatteryThresholdSources" ++ ascii "(" ++ (ascii "&tmr_" ++ emergency ++
      ascii ", &tmr_" ++ safe_mode ++ ascii ", &tmr_" ++ degraded ++ ascii ");")
  | telemListener dest =>
    ascii "telem_hub.registerListener" ++ ascii "(" ++ (ascii "&" ++ dest.text ++ ascii ");")
  | eventListener dest =>
    ascii "event_hub.registerListener" ++ ascii "(" ++ (ascii "&" ++ dest.text ++ ascii ");")
  | commandOut inst dest =>
    (inst ++ ascii ".command_out.connect") ++ ascii "(" ++ (ascii "&" ++ dest.text ++ ascii ");")
  | batteryOut inst dest =>
    (inst ++ ascii ".battery_out_internal.connect") ++ ascii "(" ++
      (ascii "&" ++ dest ++ ascii ".battery_level_in);")
  | registerWithFdir param label =>
    (ascii "tmr_" ++ param ++ ascii ".registerWithFdir") ++ ascii "(" ++
      (ascii "\"" ++ label ++ ascii "\");")
  | registerStore param =>
    ascii "TmrRegistry::getInstance().registerStore" ++ ascii "(" ++
      (ascii "&tmr_" ++ param ++ ascii ");")
  | other text => text

/-! ## Generated lines -/

/-- The output ports of events. -/
inductive EventOut where
  | event_out (inst : Text)
  /-- `cmd_hub.ack_out`. -/
  | ack_out
deriving DecidableEq, Repr

/-- The input ports of events. -/
inductive EventIn where
  /-- The member `e_<inst>_` of the topology manager. -/
  | staging (inst : Text)
  | listener (dest : PortName)
deriving DecidableEq, Repr

/-- A statement of the wiring functions. -/
inductive Stmt where
  /-- `telem_hub.registerListener(&<dest>);` -/
  | telemListener (dest : PortName)
  /-- `telem_hub.connectInput(<inst>.telemetry_out);` -/
  | telemInput (inst : Text)
  /-- `cmd_hub.registerCommandPolicy(<target>, <opcode>, OpClass::<op_class>);` -/
  | policy (target_id opcode : ℤ) (op_class : Text)
  /-- `<out>.connect(&<dest>);` -/
  | connectCommand (out : CommandOut) (dest : CommandIn)
  /-- `cmd_hub.registerRoute(<cid>, &<inst>_route_);` -/
  | registerRoute (cid : ℤ) (inst : Text)
  /-- `event_hub.registerListener(&<dest>);` -/
  | eventListener (dest : PortName)
  /-- `<out>.connect(&e_<inst>_);` -/
  | connectEvent (out : EventOut) (inst : Text)
  /-- `event_hub.registerEventSource(&e_<inst>_);` -/
  | eventSource (inst : Text)
  | custom (wire : CustomWire)
deriving DecidableEq, Repr

/-- The condition of a check. -/
inductive Condition where
  | commandOut
  | telemInputCount (n : ℕ)
  | telemListenerCount (n : ℕ)
  | routeCount (n : ℕ)
  | missionStateSource
  | batteryThresholdSources
  | telemInput (index : ℕ) (inst : Text)
  | route (inst : Text)
  | eventOut (out : EventOut) (inst : Text)
  | eventSourceCount (n : ℕ)
  | eventListenerCount (n : ℕ)
deriving DecidableEq, Repr

/-- A check of `verify`. -/
structure Check where
  cond : Condition
  label : Text
deriving DecidableEq, Repr

/-- The arrow of the labels, in UTF-8. -/
def arrow : Text := [32, 0xE2, 0x86, 0x92, 32]

/-- A component with the defaults of its missing keys. -/
structure Instance where
  cls : Text
  inst : Text
  name : Text
  cid : ℤ
  rate : Text
  typ : Text
deriving DecidableEq, Repr

/-- A command with the default of its class. -/
structure Command where
  target_id : ℤ
  opcode : ℤ
  op_class : Text
deriving DecidableEq, Repr

/-- A member `TmrStore<float> tmr_<name>{ <default>f };`. -/
structure TmrMember where
  name : Text
  default : Binary32
deriving DecidableEq, Repr

/-- The generated program. -/
structure TopologyManager where
  instances : List Instance
  tmr_members : List TmrMember
  reg_fast : List Text
  reg_norm : List Text
  reg_slow : List Text
  reg_active : List Text
  reg_fdir : List Text
  wireTelemetry : List Stmt
  wireCommands : List Stmt
  wireEvents : List Stmt
  wireCustom : List Stmt
  checks : List Check
deriving DecidableEq, Repr

/-- Instances with wiring of their own. -/
def SYSTEM_INSTS : List Text :=
  [ascii "watchdog", ascii "telem_hub", ascii "cmd_hub", ascii "event_hub", ascii "radio",
    ascii "recorder"]

/-- Instances that the watchdog does not supervise. -/
def UNSUPERVISED : List Text := [ascii "telem_hub", ascii "recorder"]

/-! ## The loop over the components -/

/-- The lists and counters of `render_topo`. -/
structure Lines where
  instances : List Instance
  reg_fast : List Text
  reg_norm : List Text
  reg_slow : List Text
  reg_active : List Text
  reg_fdir : List Text
  cmd_wiring : List Stmt
  telem_wiring : List Stmt
  event_staging : List Text
  event_wiring : List Stmt
  telem_verify_checks : List Check
  event_verify_checks : List Check
  route_verify_checks : List Check
  telem_input_count : ℕ
  route_count : ℕ
deriving DecidableEq, Repr

/-- The lists before the loop. -/
def Lines.initial : Lines where
  instances := []
  reg_fast := []
  reg_norm := []
  reg_slow := []
  reg_active := []
  reg_fdir := []
  cmd_wiring := [Stmt.connectCommand (CommandOut.command_out (ascii "radio")) CommandIn.cmd_input]
  telem_wiring :=
    [Stmt.telemListener ⟨ascii "radio", ascii "telem_in"⟩,
      Stmt.telemListener ⟨ascii "recorder", ascii "telemetry_in"⟩]
  event_staging := []
  event_wiring :=
    [Stmt.eventListener ⟨ascii "radio", ascii "event_in"⟩,
      Stmt.eventListener ⟨ascii "recorder", ascii "event_in"⟩]
  telem_verify_checks := []
  event_verify_checks := []
  route_verify_checks := []
  telem_input_count := 0
  route_count := 0

/-- The line of `registerAll`. -/
def Lines.register (acc : Lines) (c : Instance) : Lines :=
  if c.typ = ascii "Active" then { acc with reg_active := acc.reg_active ++ [c.inst] }
  else if c.rate = ascii "fast" then { acc with reg_fast := acc.reg_fast ++ [c.inst] }
  else if c.rate = ascii "slow" then { acc with reg_slow := acc.reg_slow ++ [c.inst] }
  else { acc with reg_norm := acc.reg_norm ++ [c.inst] }

/-- The line of `registerFdir`. -/
def Lines.supervise (acc : Lines) (c : Instance) : Lines :=
  if c.inst ∉ UNSUPERVISED then { acc with reg_fdir := acc.reg_fdir ++ [c.inst] } else acc

/-- The lines of an event output. -/
def Lines.event (acc : Lines) (c : Instance) (out : EventOut) (label : Text) : Lines :=
  { acc with
    event_staging := acc.event_staging ++ [c.inst]
    event_wiring := acc.event_wiring ++ [Stmt.connectEvent out c.inst, Stmt.eventSource c.inst]
    event_verify_checks := acc.event_verify_checks ++
      [⟨Condition.eventOut out c.inst, c.inst ++ label ++ arrow ++ ascii "event_hub"⟩] }

/-- The lines of a telemetry output. -/
def Lines.telemetry (acc : Lines) (c : Instance) : Lines :=
  { acc with
    telem_wiring := acc.telem_wiring ++ [Stmt.telemInput c.inst]
    telem_verify_checks := acc.telem_verify_checks ++
      [⟨Condition.telemInput acc.telem_input_count c.inst,
        c.inst ++ ascii ".telemetry_out" ++ arrow ++ ascii "telem_hub"⟩]
    telem_input_count := acc.telem_input_count + 1 }

/-- The lines of a route, for a component that some command targets. -/
def Lines.route (acc : Lines) (commands : List Command) (c : Instance) : Lines :=
  let comp_cmds := commands.filter fun cmd => cmd.target_id = c.cid
  if comp_cmds ≠ [] then
    { acc with
      route_count := acc.route_count + 1
      cmd_wiring := acc.cmd_wiring ++
        [Stmt.connectCommand (CommandOut.route c.inst) (CommandIn.cmd_in c.inst),
          Stmt.registerRoute c.cid c.inst]
      route_verify_checks := acc.route_verify_checks ++
        [⟨Condition.route c.inst,
          c.inst ++ ascii "_route_" ++ arrow ++ c.inst ++ ascii ".cmd_in"⟩] }
  else acc

/-- One pass of the loop over the components. -/
def emit (commands : List Command) (acc : Lines) (c : Instance) : Lines :=
  let acc := ({ acc with instances := acc.instances ++ [c] }.register c).supervise c
  if c.inst ∈ SYSTEM_INSTS then
    if c.inst = ascii "watchdog" then
      acc.event c (EventOut.event_out c.inst) (ascii ".event_out")
    else if c.inst = ascii "cmd_hub" then acc.event c EventOut.ack_out (ascii ".ack_out")
    else acc
  else
    ((acc.telemetry c).event c (EventOut.event_out c.inst) (ascii ".event_out")).route commands c

/-! ### What the loop has emitted -/

/-- The list of `registerAll` that a component goes to. -/
inductive Tier where
  | fast
  | norm
  | slow
  | active
deriving DecidableEq, Repr

namespace Instance

/-- The tier of a component. -/
def tier (c : Instance) : Tier :=
  if c.typ = ascii "Active" then Tier.active
  else if c.rate = ascii "fast" then Tier.fast
  else if c.rate = ascii "slow" then Tier.slow
  else Tier.norm

/-- An application component. -/
def app (c : Instance) : Bool := decide (c.inst ∉ SYSTEM_INSTS)

/-- A component that the watchdog supervises. -/
def supervised (c : Instance) : Bool := decide (c.inst ∉ UNSUPERVISED)

/-- A component with an event output. -/
def staged (c : Instance) : Bool :=
  c.app || decide (c.inst = ascii "watchdog" ∨ c.inst = ascii "cmd_hub")

/-- The event output of a component. -/
def eventOut (c : Instance) : EventOut :=
  if c.inst = ascii "cmd_hub" then EventOut.ack_out else EventOut.event_out c.inst

/-- The label of the event output. -/
def eventLabel (c : Instance) : Text :=
  if c.inst = ascii "cmd_hub" then ascii ".ack_out" else ascii ".event_out"

/-- An application component that some command targets. -/
def routed (commands : List Command) (c : Instance) : Bool :=
  c.app && commands.any fun cmd => cmd.target_id = c.cid

end Instance

/-- The lines after the loop, list by list. -/
def Lines.closed (commands : List Command) (comps : List Instance) : Lines where
  instances := comps
  reg_fast := (comps.filter fun c => c.tier = Tier.fast).map Instance.inst
  reg_norm := (comps.filter fun c => c.tier = Tier.norm).map Instance.inst
  reg_slow := (comps.filter fun c => c.tier = Tier.slow).map Instance.inst
  reg_active := (comps.filter fun c => c.tier = Tier.active).map Instance.inst
  reg_fdir := (comps.filter Instance.supervised).map Instance.inst
  cmd_wiring := Lines.initial.cmd_wiring ++ (comps.filter (Instance.routed commands)).flatMap
    fun c => [Stmt.connectCommand (CommandOut.route c.inst) (CommandIn.cmd_in c.inst),
      Stmt.registerRoute c.cid c.inst]
  telem_wiring := Lines.initial.telem_wiring ++
    (comps.filter Instance.app).map fun c => Stmt.telemInput c.inst
  event_staging := (comps.filter Instance.staged).map Instance.inst
  event_wiring := Lines.initial.event_wiring ++ (comps.filter Instance.staged).flatMap
    fun c => [Stmt.connectEvent c.eventOut c.inst, Stmt.eventSource c.inst]
  telem_verify_checks := (comps.filter Instance.app).zipIdx.map fun e =>
    ⟨Condition.telemInput e.2 e.1.inst,
      e.1.inst ++ ascii ".telemetry_out" ++ arrow ++ ascii "telem_hub"⟩
  event_verify_checks := (comps.filter Instance.staged).map fun c =>
    ⟨Condition.eventOut c.eventOut c.inst, c.inst ++ c.eventLabel ++ arrow ++ ascii "event_hub"⟩
  route_verify_checks := (comps.filter (Instance.routed commands)).map fun c =>
    ⟨Condition.route c.inst, c.inst ++ ascii "_route_" ++ arrow ++ c.inst ++ ascii ".cmd_in"⟩
  telem_input_count := (comps.filter Instance.app).length
  route_count := (comps.filter (Instance.routed commands)).length

/-- A component adds a line to the list of its tier. -/
theorem Lines.register_eq (acc : Lines) (c : Instance) :
    acc.register c =
      { acc with
        reg_fast := acc.reg_fast ++ if c.tier = Tier.fast then [c.inst] else []
        reg_norm := acc.reg_norm ++ if c.tier = Tier.norm then [c.inst] else []
        reg_slow := acc.reg_slow ++ if c.tier = Tier.slow then [c.inst] else []
        reg_active := acc.reg_active ++ if c.tier = Tier.active then [c.inst] else [] } := by
  unfold register Instance.tier
  by_cases hactive : c.typ = ascii "Active"
  · simp [hactive]
  · by_cases hfast : c.rate = ascii "fast"
    · simp [hactive, hfast]
    · by_cases hslow : c.rate = ascii "slow"
      · have hne : ascii "slow" ≠ ascii "fast" := by decide
        simp [hactive, hslow, hne]
      · simp [hactive, hfast, hslow]

/-- A supervised component adds a line. -/
theorem Lines.supervise_eq (acc : Lines) (c : Instance) :
    acc.supervise c =
      { acc with reg_fdir := acc.reg_fdir ++ if c.supervised then [c.inst] else [] } := by
  unfold supervise Instance.supervised
  by_cases h : c.inst ∈ UNSUPERVISED
  · simp [h]
  · simp [h]

/-- A targeted component adds the lines of a route. -/
theorem Lines.route_eq (acc : Lines) (commands : List Command) {c : Instance}
    (happ : c.app = true) :
    acc.route commands c = if c.routed commands then
      { acc with
        route_count := acc.route_count + 1
        cmd_wiring := acc.cmd_wiring ++
          [Stmt.connectCommand (CommandOut.route c.inst) (CommandIn.cmd_in c.inst),
            Stmt.registerRoute c.cid c.inst]
        route_verify_checks := acc.route_verify_checks ++
          [⟨Condition.route c.inst,
            c.inst ++ ascii "_route_" ++ arrow ++ c.inst ++ ascii ".cmd_in"⟩] }
      else acc := by
  have hiff : (commands.filter fun cmd => cmd.target_id = c.cid) ≠ [] ↔
      c.routed commands = true := by
    simp [Instance.routed, happ, List.filter_eq_nil_iff]
  unfold route
  by_cases h : c.routed commands = true
  · rw [if_pos h]
    exact if_pos (hiff.mpr h)
  · rw [if_neg h]
    exact if_neg (fun hne => h (hiff.mp hne))

/-- The body of the loop, by the kind of the component. -/
theorem emit_eq (commands : List Command) (acc : Lines) (c : Instance) :
    emit commands acc c =
      let acc := ({ acc with instances := acc.instances ++ [c] }.register c).supervise c
      if c.app then ((acc.telemetry c).event c c.eventOut c.eventLabel).route commands c
      else if c.staged then acc.event c c.eventOut c.eventLabel
      else acc := by
  unfold emit
  by_cases happ : c.inst ∈ SYSTEM_INSTS
  · have hcapp : c.app = false := by simp [Instance.app, happ]
    rw [if_pos happ]
    by_cases hw : c.inst = ascii "watchdog"
    · have hne : ascii "watchdog" ≠ ascii "cmd_hub" := by decide
      simp [hcapp, hw, hne, Instance.staged, Instance.eventOut, Instance.eventLabel]
    · by_cases hc : c.inst = ascii "cmd_hub"
      · have hne : ascii "cmd_hub" ≠ ascii "watchdog" := by decide
        simp [hcapp, hc, hne, Instance.staged, Instance.eventOut, Instance.eventLabel]
      · simp [hcapp, hw, hc, Instance.staged]
  · have hcapp : c.app = true := by simp [Instance.app, happ]
    have hc : c.inst ≠ ascii "cmd_hub" := by
      rintro heq
      exact happ (by rw [heq]; decide)
    rw [if_neg happ]
    simp [hcapp, hc, Instance.eventOut, Instance.eventLabel]

/-- The loop emits the lines of each component behind those of the components before it. -/
theorem lines_spec (commands : List Command) (comps : List Instance) :
    comps.foldl (emit commands) Lines.initial = Lines.closed commands comps := by
  induction comps using List.reverseRecOn with
  | nil => rfl
  | append_singleton comps c ih =>
    have hfilter : ∀ p : Instance → Bool,
        (comps ++ [c]).filter p = comps.filter p ++ if p c then [c] else [] := by
      intro p
      rw [List.filter_append, List.filter_singleton]
      cases p c <;> rfl
    have htier : ∀ t, (if c.tier = t then [c.inst] else []) =
        (if decide (c.tier = t) = true then [c] else []).map Instance.inst := by
      intro t
      by_cases h : c.tier = t <;> simp [h]
    have hfdir : (if c.supervised = true then [c.inst] else []) =
        (if c.supervised = true then [c] else []).map Instance.inst := by
      cases c.supervised <;> rfl
    rw [List.foldl_concat, ih, emit_eq, Lines.register_eq, Lines.supervise_eq]
    by_cases happ : c.app = true
    · have hst : c.staged = true := by simp [Instance.staged, happ]
      simp only [Lines.route_eq _ _ happ, Lines.closed, Lines.event, Lines.telemetry, hfilter, hst,
        happ, htier, hfdir]
      cases c.routed commands <;> simp [List.zipIdx_append]
    · have hcapp : c.app = false := Bool.eq_false_iff.mpr happ
      have hrouted : c.routed commands = false := by simp [Instance.routed, hcapp]
      simp only [Lines.closed, Lines.event, hfilter, hcapp, hrouted, htier, hfdir]
      cases c.staged <;> simp

/-! ## The whole program -/

/-- The keys of a component that `render_topo` reads; `none` is a missing key that it requires. -/
def resolve (comp : ComponentDecl) : Option Instance :=
  comp.name.bind fun name => comp.id.map fun cid =>
    { cls := comp.cls.getD (name ++ ascii "Component")
      inst := comp.inst.getD (lower name)
      name := name
      cid := cid
      rate := lower (comp.rate_group.getD (ascii "norm"))
      typ := comp.type.getD (ascii "Passive") }

/-- The keys of a command that `render_topo` reads. -/
def resolveCommand (cmd : CommandDecl) : Option Command :=
  cmd.target_id.bind fun target_id => cmd.opcode.map fun opcode =>
    { target_id := target_id
      opcode := opcode
      op_class := upper (cmd.op_class.getD (ascii "OPERATIONAL")) }

/-- The keys of a parameter that `render_topo` reads. -/
def resolveParam (p : ParamDecl) : Option TmrMember :=
  p.name.map fun name => ⟨name, p.default.getD (Binary32.ofNat 0)⟩

/-- `cmd_policy_wiring`. -/
def policies (commands : List Command) : List Stmt :=
  commands.map fun cmd => Stmt.policy cmd.target_id cmd.opcode cmd.op_class

/-- The number of listeners of a hub: the two fixed ones and the lines of custom wiring that mention
a registration. -/
def listenerCount (pattern : Text) (custom : List CustomWire) : ℕ :=
  custom.foldl (fun n wire => if pattern <:+: strip wire.text then n + 1 else n) 2

/-- The stripped instance names. -/
def instances_set (topo : Topology) : List Text :=
  topo.components.map fun c => strip (c.inst.getD [])

/-- The stripped names of the protected parameters. -/
def tmr_param_names (topo : Topology) : List Text :=
  (topo.params.filter ParamDecl.tmr).map fun p => strip (p.name.getD [])

/-- The parameters that the watchdog takes its thresholds from. -/
def thresholdParams : List Text :=
  [ascii "emergency_battery_pct", ascii "safe_mode_battery_pct", ascii "degraded_battery_pct"]

/-- `verify_checks`. -/
def systemChecks (topo : Topology) (l : Lines) : List Check :=
  let telem_listener_count := listenerCount (ascii "telem_hub.registerListener(") topo.custom_wiring
  [⟨Condition.commandOut, ascii "radio.command_out" ++ arrow ++ ascii "cmd_hub"⟩,
    ⟨Condition.telemInputCount l.telem_input_count,
      ascii "telem_hub: expected >=" ++ decimal l.telem_input_count ++ ascii " inputs"⟩,
    ⟨Condition.telemListenerCount telem_listener_count,
      ascii "telem_hub: need >=" ++ decimal telem_listener_count ++ ascii " listeners"⟩,
    ⟨Condition.routeCount l.route_count,
      ascii "cmd_hub: expected >=" ++ decimal l.route_count ++ ascii " routes"⟩] ++
  (if ascii "cmd_hub" ∈ instances_set topo ∧ ascii "watchdog" ∈ instances_set topo then
    [⟨Condition.missionStateSource, ascii "cmd_hub mission state source"⟩] else []) ++
  (if ascii "watchdog" ∈ instances_set topo ∧ (∀ p ∈ thresholdParams, p ∈ tmr_param_names topo) then
    [⟨Condition.batteryThresholdSources, ascii "watchdog battery threshold sources"⟩] else [])

/-- The last two checks. -/
def eventChecks (topo : Topology) (l : Lines) : List Check :=
  let event_listener_count := listenerCount (ascii "event_hub.registerListener(") topo.custom_wiring
  [⟨Condition.eventSourceCount l.event_staging.length, ascii "event_hub: expected event sources"⟩,
    ⟨Condition.eventListenerCount event_listener_count,
      ascii "event_hub: need >=" ++ decimal event_listener_count ++ ascii " listeners"⟩]

/-- The program of the lines. -/
def assemble (topo : Topology) (commands : List Command) (tmr_members : List TmrMember)
    (l : Lines) : TopologyManager where
  instances := l.instances
  tmr_members := tmr_members
  reg_fast := l.reg_fast
  reg_norm := l.reg_norm
  reg_slow := l.reg_slow
  reg_active := l.reg_active
  reg_fdir := l.reg_fdir
  wireTelemetry := l.telem_wiring
  wireCommands := policies commands ++ l.cmd_wiring
  wireEvents := l.event_wiring
  wireCustom := topo.custom_wiring.map Stmt.custom
  checks := systemChecks topo l ++ l.telem_verify_checks ++ l.route_verify_checks ++
    l.event_verify_checks ++ eventChecks topo l

/-- The generated program; `none` when a required key is missing. -/
def render_topo (topo : Topology) : Option TopologyManager :=
  (topo.components.mapM resolve).bind fun comps =>
  (topo.commands.mapM resolveCommand).bind fun commands =>
  ((topo.params.filter ParamDecl.tmr).mapM resolveParam).map fun tmr_members =>
    assemble topo commands tmr_members (comps.foldl (emit commands) Lines.initial)

/-- All answers are there exactly when each is. -/
theorem mapM_eq_some_iff {α β : Type} (f : α → Option β) (l : List α) (l' : List β) :
    l.mapM f = some l' ↔ l.map f = l'.map some := by
  induction l generalizing l' with
  | nil => cases l' <;> simp
  | cons a l ih =>
    rw [List.mapM_cons, List.map_cons]
    cases l' with
    | nil => cases f a <;> cases l.mapM f <;> simp
    | cons b l' =>
      rw [List.map_cons, List.cons.injEq, ← ih]
      cases f a <;> cases l.mapM f <;> simp

/-- The commands of a topology, with the default of their class. -/
def declared (topo : Topology) : List Command := topo.commands.filterMap resolveCommand

/-- What a program is rendered from. -/
structure Rendered (topo : Topology) (comps : List Instance) (commands : List Command)
    (m : TopologyManager) : Prop where
  comps_eq : topo.components.map resolve = comps.map some
  commands_eq : topo.commands.map resolveCommand = commands.map some
  tmr_eq : (topo.params.filter ParamDecl.tmr).map resolveParam = m.tmr_members.map some
  eq : m = assemble topo commands m.tmr_members (Lines.closed commands comps)

/-- The components of a rendered program. -/
theorem Rendered.instances_eq {topo : Topology} {comps : List Instance} {commands : List Command}
    {m : TopologyManager} (h : Rendered topo comps commands m) : m.instances = comps :=
  congrArg TopologyManager.instances h.eq

/-- The commands of a rendered program are those that the topology declares. -/
theorem Rendered.declared_eq {topo : Topology} {comps : List Instance} {commands : List Command}
    {m : TopologyManager} (h : Rendered topo comps commands m) : topo.declared = commands := by
  have hmap : topo.commands.filterMap resolveCommand =
      (topo.commands.map resolveCommand).filterMap id := by
    rw [List.filterMap_map]
    rfl
  rw [declared, hmap, h.commands_eq, List.filterMap_map, Function.id_comp, List.filterMap_some]

/-- A rendered program is that of the components and commands of the topology. -/
theorem rendered_of_eq_some {topo : Topology} {m : TopologyManager}
    (h : render_topo topo = some m) : ∃ comps commands, Rendered topo comps commands m := by
  unfold render_topo at h
  obtain ⟨comps, hcomps, h⟩ := Option.bind_eq_some_iff.mp h
  obtain ⟨commands, hcommands, h⟩ := Option.bind_eq_some_iff.mp h
  obtain ⟨tmr_members, htmr, rfl⟩ := Option.map_eq_some_iff.mp h
  rw [lines_spec]
  exact ⟨comps, commands, (mapM_eq_some_iff _ _ _).mp hcomps,
    (mapM_eq_some_iff _ _ _).mp hcommands, (mapM_eq_some_iff _ _ _).mp htmr, rfl⟩

end DeltaV.Topology
