import DeltaV.Topology.Delivery

/-!
# What the generated verification accepts

Wiring functions and checks are generated by different branches, with counters of their own, and the
numbers of listeners are counted in the text of custom wiring. On the program that the wiring
functions leave, `verify` accepts exactly when custom wiring leaves the radio connected to the
command hub, and it rejects the program as soon as one generated connection is diverted
(`verify_wire_iff`).
-/

namespace DeltaV.Topology

variable {topo : Topology} {comps : List Instance} {commands : List Command} {m : TopologyManager}

/-! ## Checks -/

/-- `verify` answers whether all conditions hold, and prints the labels of those that do not. -/
theorem verify_eq (m : TopologyManager) (s : Program) :
    m.verify s = (m.checks.all fun c => s.holds c.cond,
      (m.checks.filter fun c => !s.holds c.cond).map Check.label) := by
  unfold TopologyManager.verify
  induction m.checks using List.reverseRecOn with
  | nil => rfl
  | append_singleton checks c ih =>
    rw [List.foldl_concat, ih, TopologyManager.check, List.all_append, List.filter_append]
    cases hc : s.holds c.cond <;> simp [hc]

/-- `verify` accepts exactly when all conditions hold. -/
theorem verify_fst_iff (m : TopologyManager) (s : Program) :
    (m.verify s).1 = true ↔ ∀ c ∈ m.checks, s.holds c.cond = true := by
  rw [verify_eq, List.all_eq_true]

/-! ## The text of custom wiring -/

/-- Stripping leaves a part of the text. -/
theorem isInfix_strip (t : Text) : strip t <:+: t := by
  unfold strip
  have hleft := List.dropWhile_suffix isSpace (l := t)
  have hright := List.dropWhile_suffix isSpace (l := (t.dropWhile isSpace).reverse)
  rw [← List.reverse_prefix, List.reverse_reverse] at hright
  exact hright.isInfix.trans hleft.isInfix

/-- No identifier has a parenthesis. -/
theorem not_mem_of_isIdentifier {t : Text} (h : isIdentifier t = true) : (40 : UInt8) ∉ t := by
  unfold isIdentifier at h
  rw [Bool.and_eq_true, List.all_eq_true] at h
  intro hmem
  have hchar := of_decide_eq_true (h.2 40 hmem)
  exact absurd hchar (by decide)

/-- In a call, a name before a parenthesis ends the name of the function. -/
theorem suffix_of_infix_call {p call args : Text} (hcall : 40 ∉ call) (hargs : 40 ∉ args)
    (h : p ++ ascii "(" <:+: call ++ ascii "(" ++ args) : p <:+ call := by
  obtain ⟨pre, post, heq⟩ := h
  have hsplit : call ++ 40 :: args = (pre ++ p) ++ 40 :: post := by
    have hparen : ascii "(" = [40] := by decide
    simpa [hparen] using heq.symm
  rw [((List.append_cons_inj_of_notMem hcall hargs).mp hsplit).1]
  exact List.suffix_append pre p

/-- A text does not end in another when neither ends in the other. -/
theorem not_suffix_append {p q : Text} (hpq : ¬p <:+ q) (hqp : ¬q <:+ p) (inst : Text) :
    ¬p <:+ inst ++ q := by
  intro h
  exact (List.suffix_or_suffix_of_suffix h (List.suffix_append inst q)).elim hpq hqp

/-- A line of custom wiring that sets a source, registers a listener, or connects an output of
commands or of battery levels. -/
def CustomWire.plain : CustomWire → Bool
  | setMissionStateSource => true
  | setBatteryThresholdSources _ _ _ => true
  | telemListener _ => true
  | eventListener _ => true
  | commandOut _ _ => true
  | batteryOut _ _ => true
  | _ => false

/-- Such a line is one call, and only registrations of listeners call their function. -/
theorem CustomWire.text_call {wire : CustomWire} (hplain : wire.plain = true)
    (hnames : ∀ name ∈ wire.names, isIdentifier name = true) :
    ∃ call args, wire.text = call ++ ascii "(" ++ args ∧ 40 ∉ call ∧ 40 ∉ args ∧
      (ascii "telem_hub.registerListener" <:+ call →
        (Stmt.custom wire).asTelemListener.isSome = true) ∧
      (ascii "event_hub.registerListener" <:+ call →
        (Stmt.custom wire).asEventListener.isSome = true) := by
  have hmem : ∀ name ∈ wire.names, (40 : UInt8) ∉ name := fun name hname =>
    not_mem_of_isIdentifier (hnames name hname)
  cases wire with
  | setMissionStateSource =>
    refine ⟨_, _, rfl, ?_, ?_, fun h => ?_, fun h => ?_⟩
    · decide
    · decide
    · exact absurd h (by decide)
    · exact absurd h (by decide)
  | setBatteryThresholdSources emergency safe_mode degraded =>
    simp only [names, List.forall_mem_cons] at hmem
    refine ⟨_, _, rfl, ?_, ?_, fun h => ?_, fun h => ?_⟩
    · decide
    · simp only [List.mem_append, not_or]
      exact ⟨⟨⟨⟨⟨⟨by decide, hmem.1⟩, by decide⟩, hmem.2.1⟩, by decide⟩, hmem.2.2.1⟩, by decide⟩
    · exact absurd h (by decide)
    · exact absurd h (by decide)
  | telemListener dest =>
    simp only [names, List.forall_mem_cons] at hmem
    refine ⟨_, _, rfl, ?_, ?_, fun _ => rfl, fun h => ?_⟩
    · decide
    · simp only [PortName.text, List.mem_append, not_or]
      exact ⟨⟨by decide, ⟨hmem.1, by decide⟩, hmem.2.1⟩, by decide⟩
    · exact absurd h (by decide)
  | eventListener dest =>
    simp only [names, List.forall_mem_cons] at hmem
    refine ⟨_, _, rfl, ?_, ?_, fun h => ?_, fun _ => rfl⟩
    · decide
    · simp only [PortName.text, List.mem_append, not_or]
      exact ⟨⟨by decide, ⟨hmem.1, by decide⟩, hmem.2.1⟩, by decide⟩
    · exact absurd h (by decide)
  | commandOut inst dest =>
    refine ⟨_, _, rfl, ?_, ?_, fun h => ?_, fun h => ?_⟩
    · rw [List.mem_append, not_or]
      cases dest <;> exact ⟨hmem _ (List.mem_cons_self), by decide⟩
    · cases dest with
      | cmd_input => decide
      | cmd_in other =>
        simp only [names, List.forall_mem_cons] at hmem
        simp only [CommandIn.text, List.mem_append, not_or]
        exact ⟨⟨by decide, hmem.2.1, by decide⟩, by decide⟩
    · exact absurd h (not_suffix_append (by decide) (by decide) inst)
    · exact absurd h (not_suffix_append (by decide) (by decide) inst)
  | batteryOut inst dest =>
    simp only [names, List.forall_mem_cons] at hmem
    refine ⟨_, _, rfl, ?_, ?_, fun h => ?_, fun h => ?_⟩
    · rw [List.mem_append, not_or]
      exact ⟨hmem.1, by decide⟩
    · simp only [List.mem_append, not_or]
      exact ⟨⟨by decide, hmem.2.1⟩, by decide⟩
    · exact absurd h (not_suffix_append (by decide) (by decide) inst)
    · exact absurd h (not_suffix_append (by decide) (by decide) inst)
  | _ => cases hplain

/-- The number of listeners that is counted is at most two more than the number of lines with a
property that the text shows. -/
theorem listenerCount_le {κ : Type} {pattern : Text} {f : CustomWire → Option κ}
    {custom : List CustomWire}
    (h : ∀ wire ∈ custom, pattern <:+: strip wire.text → (f wire).isSome = true) :
    listenerCount pattern custom ≤ 2 + (custom.filterMap f).length := by
  unfold listenerCount
  induction custom using List.reverseRecOn with
  | nil => rfl
  | append_singleton custom wire ih =>
    obtain ⟨hold, hnew⟩ := List.forall_mem_append.mp h
    have hle := ih hold
    rw [List.foldl_concat, List.filterMap_append, List.length_append]
    split_ifs with hpattern
    · obtain ⟨k, hk⟩ := Option.isSome_iff_exists.mp (hnew wire (List.mem_singleton_self _) hpattern)
      rw [List.filterMap_cons_some hk, List.length_cons]
      omega
    · omega

/-! ## Generated connections -/

/-- Different telemetry outputs that fit are connected to the inputs in their order. -/
theorem foldl_addTelemInput {insts : List Text} (hnodup : insts.Nodup)
    (hlen : insts.length ≤ MAX_TELEM_INPUTS) :
    let acc := insts.foldl Program.addTelemInput (0, fun _ => none)
    acc.1 = insts.length ∧
      ∀ k inst, insts[k]? = some inst → acc.2 inst = some (TelemPort.internal k) := by
  induction insts using List.reverseRecOn with
  | nil => exact ⟨rfl, fun k inst h => by cases h⟩
  | append_singleton insts last ih =>
    rw [List.nodup_append_comm, List.singleton_append, List.nodup_cons] at hnodup
    rw [List.length_append, List.length_singleton] at hlen
    obtain ⟨hcount, hconn⟩ := ih hnodup.2 (by omega)
    intro acc
    have hacc : acc = Program.addTelemInput
        (insts.foldl Program.addTelemInput (0, fun _ => none)) last := List.foldl_concat ..
    rw [Program.addTelemInput, if_pos (by omega), hcount] at hacc
    rw [hacc, List.length_append, List.length_singleton]
    refine ⟨rfl, fun k inst hk => ?_⟩
    rw [List.getElem?_append] at hk
    split_ifs at hk with hlt
    · have hne : inst ≠ last := fun heq => hnodup.1 (heq ▸ List.mem_of_getElem? hk)
      exact (Function.update_of_ne hne _ _).trans (hconn k inst hk)
    · obtain ⟨hk0, rfl⟩ := List.getElem?_eq_some_iff.mp hk
      rw [List.length_singleton] at hk0
      have hkeq : k = insts.length := by omega
      subst hkeq
      simp

/-- The instances of the application components, in the order of their telemetry inputs. -/
theorem Rendered.telemInputs_eq (h : Rendered topo comps commands m) :
    m.wiring.filterMap Stmt.asTelemInput = (comps.filter Instance.app).map Instance.inst := by
  rw [h.filterMap_wiring]
  simp [List.filterMap_cons, flatMap_nil, Stmt.asTelemInput]

/-- The connections of event ports in a rendered program. -/
theorem Rendered.eventWires_eq (h : Rendered topo comps commands m) :
    m.wiring.filterMap Stmt.asEventWire =
      (comps.filter Instance.staged).map fun c => (c.eventOut, EventIn.staging c.inst) := by
  rw [h.filterMap_wiring]
  simp [List.filterMap_cons, flatMap_nil, Stmt.asEventWire, List.map_eq_flatMap]

/-- The sources of the event hub in a rendered program. -/
theorem Rendered.eventSources_eq (h : Rendered topo comps commands m) :
    m.wiring.filterMap Stmt.asEventSource =
      (comps.filter Instance.staged).map fun c => EventIn.staging c.inst := by
  rw [h.filterMap_wiring]
  simp [List.filterMap_cons, flatMap_nil, Stmt.asEventSource, List.map_eq_flatMap]

/-- The listeners of the telemetry hub in a rendered program. -/
theorem Rendered.telemListeners_eq (h : Rendered topo comps commands m) :
    m.wiring.filterMap Stmt.asTelemListener =
      [⟨ascii "radio", ascii "telem_in"⟩, ⟨ascii "recorder", ascii "telemetry_in"⟩] ++
        topo.custom_wiring.filterMap fun wire => (Stmt.custom wire).asTelemListener := by
  rw [h.filterMap_wiring]
  simp [List.filterMap_cons, flatMap_nil, Stmt.asTelemListener]

/-- The listeners of the event hub in a rendered program. -/
theorem Rendered.eventListeners_eq (h : Rendered topo comps commands m) :
    m.wiring.filterMap Stmt.asEventListener =
      [EventIn.listener ⟨ascii "radio", ascii "event_in"⟩,
          EventIn.listener ⟨ascii "recorder", ascii "event_in"⟩] ++
        topo.custom_wiring.filterMap fun wire => (Stmt.custom wire).asEventListener := by
  rw [h.filterMap_wiring]
  simp [List.filterMap_cons, flatMap_nil, Stmt.asEventListener]

/-- Event outputs are told apart by their instances. -/
theorem Instance.eventOut_inj {a b : Instance} (h : a.eventOut = b.eventOut) : a.inst = b.inst := by
  unfold eventOut at h
  split_ifs at h with ha hb hb
  · rw [ha, hb]
  · exact EventOut.event_out.inj h

/-- The event output of a component is connected to its input of the event hub. -/
theorem Rendered.connected_event (h : Rendered topo comps commands m) {c : Instance}
    (hcomp : c ∈ comps) (hstaged : c.staged = true) :
    (m.wire m.construct).cmd.events.connected c.eventOut = some (EventIn.staging c.inst) := by
  rw [TopologyManager.wire, Program.events_run, h.eventWires_eq]
  refine Program.foldl_link_of_unique _
    (List.mem_map.mpr ⟨c, List.mem_filter.mpr ⟨hcomp, hstaged⟩, rfl⟩) fun e he hkey => ?_
  obtain ⟨c', -, rfl⟩ := List.mem_map.mp he
  rw [Instance.eventOut_inj hkey]

/-- What a line of custom wiring connects the command output of the radio to. -/
def CustomWire.radioOut : CustomWire → Option CommandIn
  | commandOut inst dest => if inst = ascii "radio" then some dest else none
  | _ => none

/-- What the command output of the radio is connected to in the end: custom wiring comes last. -/
def radioDest (topo : Topology) : CommandIn :=
  (topo.custom_wiring.filterMap CustomWire.radioOut).getLast?.getD CommandIn.cmd_input

/-- The radio is connected to the input that the topology names for it. -/
theorem Rendered.connected_radio (h : Rendered topo comps commands m) :
    (m.wire m.construct).cmd.commands.connected (CommandOut.command_out (ascii "radio")) =
      some (radioDest topo) := by
  set radio := CommandOut.command_out (ascii "radio") with hradio
  have hcustom : ((topo.custom_wiring.filterMap fun wire => (Stmt.custom wire).asCommandWire).filter
      fun e => e.1 = radio).map Prod.snd = topo.custom_wiring.filterMap CustomWire.radioOut := by
    rw [List.filter_filterMap, List.map_filterMap]
    congr 1
    funext wire
    cases wire with
    | commandOut inst dest =>
      by_cases hinst : inst = ascii "radio"
      · simp [Stmt.asCommandWire, CustomWire.radioOut, hradio, hinst]
      · simp [Stmt.asCommandWire, CustomWire.radioOut, hradio, hinst]
    | _ => rfl
  have hroutes : ((comps.filter (Instance.routed commands)).map fun c =>
      (CommandOut.route c.inst, CommandIn.cmd_in c.inst)).filter (fun e => e.1 = radio) = [] := by
    rw [List.filter_map, List.map_eq_nil_iff, List.filter_eq_nil_iff]
    simp [hradio]
  have hown : ((m.wiring.filterMap Stmt.asCommandWire).filter fun e => e.1 = radio).map Prod.snd =
      CommandIn.cmd_input :: topo.custom_wiring.filterMap CustomWire.radioOut := by
    rw [h.commandWires_eq, List.cons_append, List.filter_cons, if_pos (decide_eq_true hradio.symm),
      List.filter_append, hroutes, List.nil_append, List.map_cons, hcustom]
  rw [TopologyManager.wire, Program.commands_run, Program.foldl_link, ← List.getLast?_map, hown,
    List.getLast?_cons, radioDest]
  rfl

/-! ## Acceptance -/

/-- The conditions of a rendered program. -/
theorem Rendered.conditions_eq (h : Rendered topo comps commands m) :
    m.checks.map Check.cond =
      [Condition.commandOut, Condition.telemInputCount (comps.filter Instance.app).length,
          Condition.telemListenerCount
            (listenerCount (ascii "telem_hub.registerListener(") topo.custom_wiring),
          Condition.routeCount (comps.filter (Instance.routed commands)).length] ++
        (if ascii "cmd_hub" ∈ instances_set topo ∧ ascii "watchdog" ∈ instances_set topo then
          [Condition.missionStateSource] else []) ++
        (if ascii "watchdog" ∈ instances_set topo ∧
            (∀ p ∈ thresholdParams, p ∈ tmr_param_names topo) then
          [Condition.batteryThresholdSources] else []) ++
        ((comps.filter Instance.app).zipIdx.map fun e => Condition.telemInput e.2 e.1.inst) ++
        ((comps.filter (Instance.routed commands)).map fun c => Condition.route c.inst) ++
        ((comps.filter Instance.staged).map fun c => Condition.eventOut c.eventOut c.inst) ++
        [Condition.eventSourceCount (comps.filter Instance.staged).length,
          Condition.eventListenerCount
            (listenerCount (ascii "event_hub.registerListener(") topo.custom_wiring)] := by
  have hchecks := congrArg (fun m => m.checks.map Check.cond) h.eq
  simp only [assemble, systemChecks, eventChecks, Lines.closed, List.map_append, List.map_map,
    List.length_map, apply_ite (List.map Check.cond)] at hchecks
  exact hchecks

/-- Every generated connection has its condition. -/
theorem Rendered.mem_conditions (h : Rendered topo comps commands m) :
    Condition.commandOut ∈ m.checks.map Check.cond ∧
      (∀ k c, (comps.filter Instance.app)[k]? = some c →
        Condition.telemInput k c.inst ∈ m.checks.map Check.cond) ∧
      (∀ c ∈ comps.filter (Instance.routed commands),
        Condition.route c.inst ∈ m.checks.map Check.cond) ∧
      ∀ c ∈ comps.filter Instance.staged,
        Condition.eventOut c.eventOut c.inst ∈ m.checks.map Check.cond := by
  rw [h.conditions_eq]
  simp only [List.mem_append, List.mem_map]
  refine ⟨?_, ?_, ?_, ?_⟩
  · simp
  · exact fun k c hk =>
      .inl (.inl (.inl (.inr ⟨(c, k), List.mem_zipIdx_iff_getElem?.mpr hk, rfl⟩)))
  · exact fun c hroute => .inl (.inl (.inr ⟨c, hroute, rfl⟩))
  · exact fun c hstage => .inl (.inr ⟨c, hstage, rfl⟩)

/-- What the wiring functions register fits the tables of the hubs. -/
structure TopologyManager.WithinLimits (m : TopologyManager) : Prop where
  telem_inputs : (m.wiring.filterMap Stmt.asTelemInput).length ≤ MAX_TELEM_INPUTS
  telem_listeners : (m.wiring.filterMap Stmt.asTelemListener).length ≤ MAX_TELEM_LISTENERS
  routes : (m.wiring.filterMap Stmt.asRoute).length ≤ MAX_COMMAND_ROUTES
  event_sources : (m.wiring.filterMap Stmt.asEventSource).length ≤ MAX_EVENT_SOURCES
  event_listeners : (m.wiring.filterMap Stmt.asEventListener).length ≤ MAX_EVENT_LISTENERS

instance (m : TopologyManager) : Decidable m.WithinLimits :=
  decidable_of_iff
    ((m.wiring.filterMap Stmt.asTelemInput).length ≤ MAX_TELEM_INPUTS ∧
      (m.wiring.filterMap Stmt.asTelemListener).length ≤ MAX_TELEM_LISTENERS ∧
      (m.wiring.filterMap Stmt.asRoute).length ≤ MAX_COMMAND_ROUTES ∧
      (m.wiring.filterMap Stmt.asEventSource).length ≤ MAX_EVENT_SOURCES ∧
      (m.wiring.filterMap Stmt.asEventListener).length ≤ MAX_EVENT_LISTENERS)
    ⟨fun h => ⟨h.1, h.2.1, h.2.2.1, h.2.2.2.1, h.2.2.2.2⟩, fun h => ⟨h.1, h.2, h.3, h.4, h.5⟩⟩

/-- Custom wiring sets the mission state source and the threshold sources, and otherwise only
registers listeners and connects ports. -/
structure PlainWiring (topo : Topology) : Prop where
  mission_state : CustomWire.setMissionStateSource ∈ topo.custom_wiring
  thresholds : ∃ emergency safe_mode degraded,
    CustomWire.setBatteryThresholdSources emergency safe_mode degraded ∈ topo.custom_wiring
  plain : ∀ wire ∈ topo.custom_wiring, wire.plain = true

/-- The lines of custom wiring that the text shows to register a listener do so. -/
theorem Rendered.listeners_of_text (h : Rendered topo comps commands m) (hc : m.Compiles)
    (hplain : PlainWiring topo) :
    listenerCount (ascii "telem_hub.registerListener(") topo.custom_wiring ≤
        (m.wiring.filterMap Stmt.asTelemListener).length ∧
      listenerCount (ascii "event_hub.registerListener(") topo.custom_wiring ≤
        (m.wiring.filterMap Stmt.asEventListener).length := by
  have hcall : ∀ wire ∈ topo.custom_wiring, _ := fun wire hwire =>
    CustomWire.text_call (hplain.plain wire hwire) (h.custom_compiles hc hwire).1
  constructor
  · rw [h.telemListeners_eq, List.length_append]
    refine listenerCount_le fun wire hwire hpattern => ?_
    obtain ⟨call, args, htext, hleft, hright, htelem, -⟩ := hcall wire hwire
    refine htelem (suffix_of_infix_call hleft hright ?_)
    rw [← htext]
    exact hpattern.trans (isInfix_strip _)
  · rw [h.eventListeners_eq, List.length_append]
    refine listenerCount_le fun wire hwire hpattern => ?_
    obtain ⟨call, args, htext, hleft, hright, -, hevent⟩ := hcall wire hwire
    refine hevent (suffix_of_infix_call hleft hright ?_)
    rw [← htext]
    exact hpattern.trans (isInfix_strip _)

/-- The telemetry outputs are connected to the inputs of the hub in their order. -/
theorem Rendered.telemInputs_wire (h : Rendered topo comps commands m) (hc : m.Compiles)
    (hlimits : m.WithinLimits) :
    (m.wire m.construct).telem.hub.input_count = (comps.filter Instance.app).length ∧
      ∀ k c, (comps.filter Instance.app)[k]? = some c →
        (m.wire m.construct).telem.bus.connected c.inst = some (TelemPort.internal k) := by
  have hinst : (comps.map Instance.inst).Nodup := by
    rw [← h.instances_eq]
    exact hc.inst_nodup
  have hlen := hlimits.telem_inputs
  rw [h.telemInputs_eq] at hlen
  obtain ⟨hcount, hconn⟩ :=
    foldl_addTelemInput (hinst.sublist (List.filter_sublist.map Instance.inst)) hlen
  have hrun : (m.wire m.construct).telemInputs = _ := Program.telemInputs_run _ _
  rw [h.telemInputs_eq] at hrun
  have hcount' := congrArg Prod.fst hrun
  have hconn' := congrArg Prod.snd hrun
  refine ⟨hcount'.trans (hcount.trans (List.length_map _)), fun k c hk => ?_⟩
  refine (congrFun hconn' c.inst).trans (hconn k c.inst ?_)
  rw [List.getElem?_map, hk]
  rfl

/-- After `wire`, the condition of every telemetry input holds. -/
theorem Rendered.holds_telemInput (h : Rendered topo comps commands m) (hc : m.Compiles)
    (hlimits : m.WithinLimits) {k : ℕ} {c : Instance}
    (hk : (comps.filter Instance.app)[k]? = some c) :
    (m.wire m.construct).holds (Condition.telemInput k c.inst) = true := by
  obtain ⟨hcount, hinputs⟩ := h.telemInputs_wire hc hlimits
  have hlt : k < (m.wire m.construct).telem.hub.input_count := by
    rw [hcount]
    exact (List.getElem?_eq_some_iff.mp hk).1
  rw [Program.holds, TelemetrySystem.isInputConnected, Bus.isConnectedTo, hinputs k c hk]
  exact Bool.and_eq_true_iff.mpr ⟨decide_eq_true hlt, decide_eq_true rfl⟩

/-- After `wire`, the program has everything that the generated counters count. -/
theorem Rendered.counts_wire (h : Rendered topo comps commands m) (hv : topo.Accepted)
    (hc : m.Compiles) (hlimits : m.WithinLimits) :
    let s := m.wire m.construct
    s.telem.getListenerCount = (m.wiring.filterMap Stmt.asTelemListener).length ∧
      s.cmd.hub.routeCount = (comps.filter (Instance.routed commands)).length ∧
      s.event_hub.getSourceCount = (comps.filter Instance.staged).length ∧
      s.event_hub.getListenerCount = (m.wiring.filterMap Stmt.asEventListener).length := by
  intro s
  refine ⟨?_, ?_, ?_, ?_⟩
  · have hrun : s.telem.hub.internal_outputs = _ := Program.telemListeners_run _ _
    rw [TelemetrySystem.getListenerCount, hrun]
    refine (congrArg List.length (foldl_offer _)).trans ?_
    rw [List.take_of_length_le hlimits.telem_listeners]
  · have hentries := h.route_entries hv hc hlimits.routes
    rw [m.start_eq] at hentries
    have hlen := congrArg List.length hentries
    rw [List.length_map] at hlen
    exact hlen
  · have hrun : s.event_hub.inputs = _ := Program.eventSources_run _ _
    rw [EventHub.getSourceCount, hrun]
    refine (congrArg List.length (foldl_offer _)).trans ?_
    rw [List.take_of_length_le hlimits.event_sources, h.eventSources_eq, List.length_map]
  · have hrun : s.event_hub.listeners = _ := Program.eventListeners_run _ _
    rw [EventHub.getListenerCount, hrun]
    refine (congrArg List.length (foldl_offer _)).trans ?_
    rw [List.take_of_length_le hlimits.event_listeners]

/-- A loop that only keeps its last element ends with an element of the list. -/
theorem foldl_last {α β : Type} (g : α → β) (b : β) {l : List α} (hl : l ≠ []) :
    ∃ a ∈ l, l.foldl (fun _ a => g a) b = g a := by
  refine ⟨l.getLast hl, List.getLast_mem hl, ?_⟩
  conv_lhs => rw [← List.dropLast_concat_getLast hl]
  rw [List.foldl_concat]

/-- After `wire`, both sources that custom wiring sets are set. -/
theorem PlainWiring.sources_wire (hplain : PlainWiring topo) (h : Rendered topo comps commands m) :
    (m.wire m.construct).cmd.hub.hasMissionStateSource = true ∧
      (m.wire m.construct).threshold_sources.isSome = true := by
  constructor
  · have hrun : (m.wire m.construct).cmd.hub.watchdog = _ := Program.watchdog_run _ _
    rw [CommandHub.hasMissionStateSource, hrun]
    have hset : () ∈ m.wiring.filterMap Stmt.asMissionSource :=
      List.mem_filterMap.mpr ⟨_, h.mem_custom hplain.mission_state, rfl⟩
    obtain ⟨-, -, hlast⟩ := foldl_last (fun _ : Unit => true)
      m.construct.cmd.hub.watchdog (List.ne_nil_of_mem hset)
    exact hlast
  · have hrun : (m.wire m.construct).threshold_sources = _ := Program.thresholds_run _ _
    obtain ⟨emergency, safe_mode, degraded, hwire⟩ := hplain.thresholds
    have hset : (emergency, safe_mode, degraded) ∈ m.wiring.filterMap Stmt.asThresholds :=
      List.mem_filterMap.mpr ⟨_, h.mem_custom hwire, rfl⟩
    obtain ⟨sources, -, hlast⟩ := foldl_last some m.construct.threshold_sources
      (List.ne_nil_of_mem hset)
    rw [hrun, hlast]
    rfl

/-- On the program that `wire` leaves, `verify` accepts exactly when the radio is connected to the
command hub. -/
theorem Rendered.verify_wire (h : Rendered topo comps commands m) (hv : topo.Accepted)
    (hc : m.Compiles) (hlimits : m.WithinLimits) (hplain : PlainWiring topo) :
    (m.verify (m.wire m.construct)).1 = true ↔ radioDest topo = CommandIn.cmd_input := by
  set s := m.wire m.construct with hs
  have hradio : s.holds Condition.commandOut = true ↔ radioDest topo = CommandIn.cmd_input := by
    unfold Program.holds Bus.isConnectedTo
    rw [h.connected_radio, decide_eq_true_iff, Option.some.injEq]
  obtain ⟨hcount, -⟩ := h.telemInputs_wire hc hlimits
  obtain ⟨htelem, hroutes, hsources, hevent⟩ := h.counts_wire hv hc hlimits
  obtain ⟨htelemText, heventText⟩ := h.listeners_of_text hc hplain
  obtain ⟨hmission, hthresholds⟩ := hplain.sources_wire h
  have hconds : (∀ c ∈ m.checks, s.holds c.cond = true) ↔
      ∀ cond ∈ m.checks.map Check.cond, s.holds cond = true := by
    rw [List.forall_mem_map]
  rw [verify_fst_iff, hconds, h.conditions_eq, ← hradio]
  simp only [List.forall_mem_append, List.forall_mem_cons, List.forall_mem_map]
  -- Every condition but the first holds of what `wire` leaves.
  refine ⟨fun hall => hall.1.1.1.1.1.1.1, fun hcommand => ?_⟩
  refine ⟨⟨⟨⟨⟨⟨⟨hcommand, ?_, ?_, ?_, nofun⟩, ?_⟩, ?_⟩, ?_⟩, ?_⟩, ?_⟩, ?_, ?_, nofun⟩
  · exact decide_eq_true hcount.ge
  · exact decide_eq_true (htelemText.trans htelem.ge)
  · exact decide_eq_true hroutes.ge
  · intro cond hcond
    split_ifs at hcond
    · rw [List.mem_singleton.mp hcond]
      exact hmission
    · cases hcond
  · intro cond hcond
    split_ifs at hcond
    · rw [List.mem_singleton.mp hcond]
      exact hthresholds
    · cases hcond
  · rintro ⟨c, k⟩ hck
    exact h.holds_telemInput hc hlimits (List.mem_zipIdx_iff_getElem?.mp hck)
  · intro c hroute
    obtain ⟨hcomp, hrouted⟩ := List.mem_filter.mp hroute
    have hconn := h.connected_route hcomp hrouted
    rw [m.start_eq] at hconn
    exact decide_eq_true hconn
  · intro c hstage
    obtain ⟨hcomp, hstaged⟩ := List.mem_filter.mp hstage
    exact decide_eq_true (h.connected_event hcomp hstaged)
  · exact decide_eq_true hsources.ge
  · exact decide_eq_true (heventText.trans hevent.ge)

/-! ## Diverted connections -/

/-- A port that is connected again, after wiring. -/
inductive Redirect where
  /-- `<inst>.telemetry_out.connect(&<dest>);` -/
  | telemetry (inst : Text) (dest : TelemPort PortName)
  /-- `<out>.connect(&<dest>);` for a port of commands. -/
  | command (out : CommandOut) (dest : CommandIn)
  /-- `<out>.connect(&<dest>);` for a port of events. -/
  | event (out : EventOut) (dest : EventIn)
deriving DecidableEq, Repr

/-- The program with a port connected again. -/
def Program.redirect (s : Program) : Redirect → Program
  | Redirect.telemetry inst dest =>
    { s with telem := { s.telem with bus := s.telem.bus.connect inst dest } }
  | Redirect.command out dest => { s with cmd := s.cmd.step (HubOp.connect out dest) }
  | Redirect.event out dest => { s with cmd := s.cmd.step (HubOp.connectEvent out dest) }

/-- A connection that the wiring functions generate is led to another port: for telemetry, another
than it is connected to, and for the others, another than the statement says. -/
def Redirect.Diverts (m : TopologyManager) (s : Program) : Redirect → Prop
  | telemetry inst dest =>
    Stmt.telemInput inst ∈ m.wiring ∧ s.telem.bus.connected inst ≠ some dest
  | command out dest => ∃ old, Stmt.connectCommand out old ∈ m.wiring ∧ dest ≠ old
  | event out dest =>
    ∃ inst, Stmt.connectEvent out inst ∈ m.wiring ∧ dest ≠ EventIn.staging inst

/-- A condition that does not hold makes `verify` fail. -/
theorem verify_eq_false {s : Program} {cond : Condition} (hcond : cond ∈ m.checks.map Check.cond)
    (hfalse : s.holds cond = false) : (m.verify s).1 = false := by
  obtain ⟨c, hc, rfl⟩ := List.mem_map.mp hcond
  rw [Bool.eq_false_iff, Ne, verify_fst_iff]
  intro hall
  rw [hall c hc] at hfalse
  cases hfalse

/-- The generated connections of commands: that of the radio, and one for each route. -/
theorem Rendered.mem_connectCommand (h : Rendered topo comps commands m) {out : CommandOut}
    {dest : CommandIn} (hmem : Stmt.connectCommand out dest ∈ m.wiring) :
    out = CommandOut.command_out (ascii "radio") ∧ dest = CommandIn.cmd_input ∨
      ∃ c ∈ comps.filter (Instance.routed commands),
        out = CommandOut.route c.inst ∧ dest = CommandIn.cmd_in c.inst := by
  rw [h.wiring_eq] at hmem
  simpa using hmem

/-- The generated connections of events. -/
theorem Rendered.mem_connectEvent (h : Rendered topo comps commands m) {out : EventOut}
    {inst : Text} (hmem : Stmt.connectEvent out inst ∈ m.wiring) :
    ∃ c ∈ comps.filter Instance.staged, out = c.eventOut ∧ inst = c.inst := by
  rw [h.wiring_eq] at hmem
  simpa using hmem

/-- The generated connections of telemetry. -/
theorem Rendered.mem_telemInput (h : Rendered topo comps commands m) {inst : Text}
    (hmem : Stmt.telemInput inst ∈ m.wiring) : ∃ c ∈ comps.filter Instance.app, c.inst = inst := by
  rw [h.wiring_eq] at hmem
  simpa using hmem

/-- `verify` rejects the program as soon as one generated connection is diverted. -/
theorem Rendered.verify_redirect (h : Rendered topo comps commands m) (hc : m.Compiles)
    (hlimits : m.WithinLimits) {r : Redirect} (hr : r.Diverts m (m.wire m.construct)) :
    (m.verify ((m.wire m.construct).redirect r)).1 = false := by
  obtain ⟨hradio, htelem, hroutes, hevents⟩ := h.mem_conditions
  cases r with
  | telemetry inst dest =>
    obtain ⟨hgen, hdest⟩ := hr
    obtain ⟨c, happ, rfl⟩ := h.mem_telemInput hgen
    obtain ⟨k, hk⟩ := List.mem_iff_getElem?.mp happ
    rw [(h.telemInputs_wire hc hlimits).2 k c hk] at hdest
    refine verify_eq_false (htelem k c hk) ?_
    rw [Program.holds, TelemetrySystem.isInputConnected, Program.redirect,
      Bus.isConnectedTo_connect, Bool.and_eq_false_iff]
    exact .inr (decide_eq_false fun heq => hdest (by rw [heq]))
  | command out dest =>
    obtain ⟨old, hgen, hdest⟩ := hr
    rcases h.mem_connectCommand hgen with ⟨rfl, rfl⟩ | ⟨c, hroute, rfl, rfl⟩
    · refine verify_eq_false hradio ?_
      exact (Bus.isConnectedTo_connect ..).trans (decide_eq_false hdest)
    · refine verify_eq_false (hroutes c hroute) ?_
      exact (Bus.isConnectedTo_connect ..).trans (decide_eq_false hdest)
  | event out dest =>
    obtain ⟨inst, hgen, hdest⟩ := hr
    obtain ⟨c, hstage, rfl, rfl⟩ := h.mem_connectEvent hgen
    refine verify_eq_false (hevents c hstage) ?_
    exact (Bus.isConnectedTo_connect ..).trans (decide_eq_false hdest)

/-- The generated verification accepts the generated wiring exactly when custom wiring leaves the
radio connected to the command hub, and rejects it with a diverted connection. -/
theorem verify_wire_iff (hv : validate topo = []) (hm : render_topo topo = some m) (hc : m.Compiles)
    (hlimits : m.WithinLimits) (hplain : PlainWiring topo) :
    ((m.verify (m.wire m.construct)).1 = true ↔ radioDest topo = CommandIn.cmd_input) ∧
      ∀ r : Redirect, r.Diverts m (m.wire m.construct) →
        (m.verify ((m.wire m.construct).redirect r)).1 = false := by
  obtain ⟨comps, commands, h⟩ := rendered_of_eq_some hm
  exact ⟨h.verify_wire ((validate_eq_nil_iff topo).mp hv) hc hlimits hplain,
    fun r hr => h.verify_redirect hc hlimits hr⟩

/-- The battery's blueprint with two more components, and the repository's lines of custom wiring for
the three of them besides one more line. -/
def wiredBlueprint (wire : CustomWire) : Topology :=
  { batteryBlueprint 200 with
    components := (batteryBlueprint 200).components ++
      [component 46 "AtsRtsSequencer" "AtsRtsSequencerComponent" "ats_rts" "Passive" "norm",
        component 47 "LimitChecker" "LimitCheckerComponent" "limit_checker" "Passive" "norm"]
    custom_wiring := systemWiring ++
      [CustomWire.batteryOut (ascii "battery") (ascii "watchdog"),
        CustomWire.eventListener ⟨ascii "ats_rts", ascii "event_in"⟩,
        CustomWire.telemListener ⟨ascii "limit_checker", ascii "telem_in"⟩, wire] }

/-- With the command output of the sequencer connected to the command hub, `verify` accepts, and it
rejects the program when the events of the watchdog are led to the recorder. -/
theorem verify_wire_iff_battery :
    let topo := wiredBlueprint (CustomWire.commandOut (ascii "ats_rts") CommandIn.cmd_input)
    ∃ m, render_topo topo = some m ∧ m.Compiles ∧ m.WithinLimits ∧
      (m.verify (m.wire m.construct)).1 = true ∧
      (m.verify ((m.wire m.construct).redirect
        (Redirect.event (EventOut.event_out (ascii "watchdog"))
          (EventIn.listener ⟨ascii "recorder", ascii "event_in"⟩)))).1 = false := by
  intro topo
  obtain ⟨m, hm, hc, hlimits, hgen⟩ : ∃ m, render_topo topo = some m ∧ m.Compiles ∧
      m.WithinLimits ∧
      Stmt.connectEvent (EventOut.event_out (ascii "watchdog")) (ascii "watchdog") ∈ m.wiring :=
    ⟨(render_topo topo).get (by decide +kernel), by decide +kernel, by decide +kernel,
      by decide +kernel, by decide +kernel⟩
  have hplain : PlainWiring topo :=
    ⟨by decide +kernel, ⟨_, _, _, List.mem_cons_of_mem _ List.mem_cons_self⟩, by decide +kernel⟩
  obtain ⟨haccept, hreject⟩ := verify_wire_iff (by decide +kernel) hm hc hlimits hplain
  exact ⟨m, hm, hc, hlimits, haccept.mpr (by decide +kernel),
    hreject _ ⟨_, hgen, by decide⟩⟩

/-- With the command output of the radio connected to the battery instead, `verify` rejects what
`wire` leaves. -/
theorem radio_not_verified :
    let topo := wiredBlueprint
      (CustomWire.commandOut (ascii "radio") (CommandIn.cmd_in (ascii "battery")))
    validate topo = [] ∧ PlainWiring topo ∧ ∃ m, render_topo topo = some m ∧ m.Compiles ∧
      m.WithinLimits ∧ (∀ inst ∈ SYSTEM_INSTS, inst ∈ m.instances.map Instance.inst) ∧
      m.verify (m.wire m.construct) =
        (false, [ascii "radio.command_out" ++ arrow ++ ascii "cmd_hub"]) := by
  intro topo
  have hplain : PlainWiring topo :=
    ⟨by decide +kernel, ⟨_, _, _, List.mem_cons_of_mem _ List.mem_cons_self⟩, by decide +kernel⟩
  exact ⟨by decide +kernel, hplain, (render_topo topo).get (by decide +kernel), by decide +kernel,
    by decide +kernel, by decide +kernel, by decide +kernel, by decide +kernel⟩

end DeltaV.Topology
