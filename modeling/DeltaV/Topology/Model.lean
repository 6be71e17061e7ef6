import DeltaV.Types
import DeltaV.Lib.Runs
import Mathlib.Data.List.Nodup

/-!
# The topology file and its validation

A `Topology` is what the parser makes of `topology.yaml`: keys may be missing, so most fields are
optional. `validate` goes over the components and then over the commands and collects errors. A
topology is accepted when there are none, and `validate_eq_nil_iff` says what that means.

Custom wiring is text that goes into the generated program unchanged. It is modelled by the
statements that the blueprint uses, and by `other` for text that touches none of the ports and
tables of this development.
-/

namespace DeltaV.Topology

/-- A port of a component, by the names of the instance and of its member. -/
structure PortName where
  inst : Text
  port : Text
deriving DecidableEq, Repr

/-- The output ports of commands. -/
inductive CommandOut where
  | command_out (inst : Text)
  /-- The member `<inst>_route_` of the topology manager. -/
  | route (inst : Text)
deriving DecidableEq, Repr

/-- The input ports of commands. -/
inductive CommandIn where
  /-- `cmd_hub.cmd_input`. -/
  | cmd_input
  | cmd_in (inst : Text)
deriving DecidableEq, Repr

/-- A line of custom wiring. -/
inductive CustomWire where
  /-- `cmd_hub.setMissionStateSource(&watchdog);` -/
  | setMissionStateSource
  /-- `watchdog.setBatteryThresholdSources(&tmr_<..>, &tmr_<..>, &tmr_<..>);` -/
  | setBatteryThresholdSources (emergency safe_mode degraded : Text)
  /-- `telem_hub.registerListener(&<inst>.<port>);` -/
  | telemListener (dest : PortName)
  /-- `event_hub.registerListener(&<inst>.<port>);` -/
  | eventListener (dest : PortName)
  /-- `<inst>.command_out.connect(&<dest>);` -/
  | commandOut (inst : Text) (dest : CommandIn)
  /-- `<inst>.battery_out_internal.connect(&<dest>.battery_level_in);` -/
  | batteryOut (inst dest : Text)
  /-- `tmr_<param>.registerWithFdir("<label>");` -/
  | registerWithFdir (param label : Text)
  /-- `TmrRegistry::getInstance().registerStore(&tmr_<param>);` -/
  | registerStore (param : Text)
  /-- Anything else. -/
  | other (text : Text)
deriving DecidableEq, Repr

/-- An entry of `components`. -/
structure ComponentDecl where
  id : Option ℤ
  name : Option Text
  /-- The key `class`. -/
  cls : Option Text
  /-- The key `instance`. -/
  inst : Option Text
  type : Option Text
  rate_group : Option Text
deriving DecidableEq, Repr

/-- An entry of `commands`. -/
structure CommandDecl where
  name : Option Text
  target_id : Option ℤ
  opcode : Option ℤ
  op_class : Option Text
deriving DecidableEq, Repr

/-- An entry of `params`. -/
structure ParamDecl where
  name : Option Text
  /-- The value of the literal that the default is rendered as. -/
  default : Option Binary32
  tmr : Bool
deriving DecidableEq, Repr

end Topology

/-- The blueprint. -/
structure Topology where
  components : List Topology.ComponentDecl
  commands : List Topology.CommandDecl
  params : List Topology.ParamDecl
  custom_wiring : List Topology.CustomWire
deriving DecidableEq, Repr

namespace Topology

/-- An entry of `components` with all keys. -/
def component (id : ℤ) (name cls inst type rate_group : String) : ComponentDecl :=
  ⟨some id, some (ascii name), some (ascii cls), some (ascii inst), some (ascii type),
    some (ascii rate_group)⟩

/-- The system infrastructure of the repository's blueprint. -/
def systemComponents : List ComponentDecl :=
  [component 1 "Supervisor" "WatchdogComponent" "watchdog" "Passive" "norm",
    component 10 "TelemHub" "TelemHub" "telem_hub" "Passive" "norm",
    component 11 "CmdHub" "CommandHub" "cmd_hub" "Passive" "norm",
    component 12 "EventHub" "EventHub" "event_hub" "Passive" "norm",
    component 20 "RadioLink" "TelemetryBridge" "radio" "Active" "norm",
    component 30 "BlackBox" "LoggerComponent" "recorder" "Passive" "norm"]

/-- The protected parameters of the repository's blueprint. -/
def thresholdDecls : List ParamDecl :=
  [⟨some (ascii "safe_mode_battery_pct"), some (Binary32.ofNat 5), true⟩,
    ⟨some (ascii "degraded_battery_pct"), some (Binary32.ofNat 15), true⟩,
    ⟨some (ascii "emergency_battery_pct"), some (Binary32.ofNat 2), true⟩]

/-- The custom wiring of the repository's blueprint that concerns the system infrastructure. -/
def systemWiring : List CustomWire :=
  [CustomWire.setMissionStateSource,
    CustomWire.setBatteryThresholdSources (ascii "emergency_battery_pct")
      (ascii "safe_mode_battery_pct") (ascii "degraded_battery_pct")]

/-- The blueprint of the system infrastructure. -/
def infrastructure : Topology := ⟨systemComponents, [], thresholdDecls, systemWiring⟩

/-! ## Validation -/

/-- What `validate` reports. -/
inductive ValidationError where
  | missingId (comp : ComponentDecl)
  | duplicateId (cid : ℤ) (name seen : Text)
  | missingField (cid : ℤ) (field : Text)
  | unknownTarget (cname : Text) (tid : Option ℤ)
  | duplicateOpcode (op tid : Option ℤ) (cname seen : Text)
  | invalidOpClass (cname oc : Text)
deriving DecidableEq, Repr

/-- An integer as it is printed. -/
def intText (n : ℤ) : Text := (if n < 0 then ascii "-" else []) ++ decimal n.natAbs

/-- An integer that may be missing, as it is printed. -/
def optText : Option ℤ → Text
  | some n => intText n
  | none => ascii "None"

/-- The text of an error; `repr` prints the dictionary of a component. -/
def ValidationError.text (repr : ComponentDecl → Text) : ValidationError → Text
  | missingId comp => ascii "Component missing 'id': " ++ repr comp
  | duplicateId cid name seen =>
    ascii "Duplicate component ID " ++ intText cid ++ ascii ": '" ++ name ++ ascii "' vs '" ++
      seen ++ ascii "'"
  | missingField cid field =>
    ascii "Component id=" ++ intText cid ++ ascii " missing required field '" ++ field ++ ascii "'"
  | unknownTarget cname tid =>
    ascii "Command '" ++ cname ++ ascii "' targets unknown component ID " ++ optText tid
  | duplicateOpcode op tid cname seen =>
    ascii "Opcode " ++ optText op ++ ascii " on target " ++ optText tid ++
      ascii " used by both '" ++ cname ++ ascii "' and '" ++ seen ++ ascii "'"
  | invalidOpClass cname oc =>
    ascii "Command '" ++ cname ++ ascii "' has invalid op_class '" ++ oc ++
      ascii "'. Valid: ['HOUSEKEEPING', 'OPERATIONAL', 'RESTRICTED']"

/-- The classes a command may declare. -/
def valid_op : List Text := [ascii "HOUSEKEEPING", ascii "OPERATIONAL", ascii "RESTRICTED"]

/-- A key that is missing or has an empty value. -/
def falsy (field : Option Text) : Bool := decide (field = none ∨ field = some [])

/-- The errors of the required fields of a component. -/
def missingFields (cid : ℤ) (comp : ComponentDecl) : List ValidationError :=
  [(ascii "name", comp.name), (ascii "class", comp.cls), (ascii "instance", comp.inst)].filterMap
    fun field => if falsy field.2 then some (ValidationError.missingField cid field.1) else none

/-- The errors so far, and the names seen for each key, latest first. -/
structure Scan (κ : Type) where
  errors : List ValidationError
  seen : List (κ × Text)

/-- One pass of the loop over the components. -/
def checkComponent (acc : Scan ℤ) (comp : ComponentDecl) : Scan ℤ :=
  match comp.id with
  | none => { acc with errors := acc.errors ++ [ValidationError.missingId comp] }
  | some cid =>
    let name := comp.name.getD (ascii "id=" ++ intText cid)
    let duplicate := match acc.seen.lookup cid with
      | some seen => [ValidationError.duplicateId cid name seen]
      | none => []
    { errors := acc.errors ++ duplicate ++ missingFields cid comp
      seen := (cid, name) :: acc.seen }

/-- The target of a command is the number of a component. -/
def knownTarget (valid_ids : List ℤ) : Option ℤ → Bool
  | some tid => decide (tid ∈ valid_ids)
  | none => false

/-- One pass of the loop over the commands. -/
def checkCommand (valid_ids : List ℤ) (acc : Scan (Option ℤ × Option ℤ)) (cmd : CommandDecl) :
    Scan (Option ℤ × Option ℤ) :=
  let cname := cmd.name.getD (ascii "?")
  let oc := cmd.op_class.getD []
  let unknown := if knownTarget valid_ids cmd.target_id then []
    else [ValidationError.unknownTarget cname cmd.target_id]
  let duplicate := match acc.seen.lookup (cmd.target_id, cmd.opcode) with
    | some seen => [ValidationError.duplicateOpcode cmd.opcode cmd.target_id cname seen]
    | none => []
  let invalid := if oc ≠ [] ∧ oc ∉ valid_op then [ValidationError.invalidOpClass cname oc] else []
  { errors := acc.errors ++ unknown ++ duplicate ++ invalid
    seen := ((cmd.target_id, cmd.opcode), cname) :: acc.seen }

end Topology

/-- The errors of a topology. -/
def validate (topology : Topology) : List Topology.ValidationError :=
  let ids := topology.components.foldl Topology.checkComponent ⟨[], []⟩
  let valid_ids := ids.seen.map Prod.fst
  (topology.commands.foldl (Topology.checkCommand valid_ids) ⟨ids.errors, []⟩).errors

namespace Topology

/-! ## What is accepted -/

/-- A component that passes on its own. -/
structure ComponentDecl.Complete (comp : ComponentDecl) : Prop where
  id : comp.id.isSome
  name : falsy comp.name = false
  cls : falsy comp.cls = false
  inst : falsy comp.inst = false

/-- A command that passes on its own. -/
structure CommandDecl.Sound (valid_ids : List ℤ) (cmd : CommandDecl) : Prop where
  target : knownTarget valid_ids cmd.target_id = true
  op_class : cmd.op_class.getD [] = [] ∨ cmd.op_class.getD [] ∈ valid_op

/-- The numbers of the components. -/
def ids (t : Topology) : List ℤ := t.components.filterMap ComponentDecl.id

/-- What the two loops ask for. -/
structure Accepted (t : Topology) : Prop where
  complete : ∀ comp ∈ t.components, comp.Complete
  ids_nodup : t.ids.Nodup
  sound : ∀ cmd ∈ t.commands, cmd.Sound t.ids
  opcodes_nodup : (t.commands.map fun cmd => (cmd.target_id, cmd.opcode)).Nodup

/-- A key has no name exactly when it has not been seen. -/
theorem lookup_eq_none_iff {κ : Type} [BEq κ] [LawfulBEq κ] (seen : List (κ × Text)) (k : κ) :
    seen.lookup k = none ↔ k ∉ seen.map Prod.fst := by
  induction seen with
  | nil => simp
  | cons e seen ih =>
    obtain ⟨k', name⟩ := e
    rw [List.lookup_cons, List.map_cons, List.mem_cons]
    by_cases hk : k = k'
    · simp [hk]
    · have hbeq : (k == k') = false := beq_eq_false_iff_ne.mpr hk
      simp only [hbeq, ih, hk, false_or]

/-- No field is missing exactly when name, class and instance are given. -/
theorem missingFields_eq_nil_iff (cid : ℤ) (comp : ComponentDecl) :
    missingFields cid comp = [] ↔
      falsy comp.name = false ∧ falsy comp.cls = false ∧ falsy comp.inst = false := by
  unfold missingFields
  cases hname : falsy comp.name <;> cases hcls : falsy comp.cls <;>
    cases hinst : falsy comp.inst <;> simp [hname, hcls, hinst]

/-- The loop over the components finds no error exactly when they are complete and their numbers
differ; it has then seen their numbers. -/
theorem components_spec (comps : List ComponentDecl) :
    let acc := comps.foldl checkComponent ⟨[], []⟩
    acc.seen.map Prod.fst = (comps.filterMap ComponentDecl.id).reverse ∧
      (acc.errors = [] ↔
        (∀ comp ∈ comps, comp.Complete) ∧ (comps.filterMap ComponentDecl.id).Nodup) := by
  intro acc
  induction comps using List.reverseRecOn with
  | nil => simp [acc]
  | append_singleton comps comp ih =>
    obtain ⟨hseen, herrors⟩ := ih
    set prev := comps.foldl checkComponent ⟨[], []⟩ with hprev
    have hacc : acc = checkComponent prev comp := List.foldl_concat ..
    rw [hacc, List.filterMap_append]
    have hall : (∀ c ∈ comps ++ [comp], c.Complete) ↔
        (∀ c ∈ comps, c.Complete) ∧ comp.Complete := by
      rw [List.forall_mem_append, List.forall_mem_singleton]
    rw [hall]
    rcases hid : comp.id with _ | cid
    · -- Without a number the component is an error and leaves no trace.
      have hincomplete : ¬comp.Complete := fun h => by simpa [hid] using h.id
      refine ⟨?_, ?_⟩
      · simpa [checkComponent, hid] using hseen
      · simp [checkComponent, hid, hincomplete]
    · have hcomplete : comp.Complete ↔ missingFields cid comp = [] := by
        rw [missingFields_eq_nil_iff]
        exact ⟨fun h => ⟨h.name, h.cls, h.inst⟩, fun h => ⟨by simp [hid], h.1, h.2.1, h.2.2⟩⟩
      have hnew : prev.seen.lookup cid = none ↔ cid ∉ comps.filterMap ComponentDecl.id := by
        rw [lookup_eq_none_iff, hseen, List.mem_reverse]
      have hone : [comp].filterMap ComponentDecl.id = [cid] := by simp [hid]
      rw [hone, List.nodup_append_comm, List.singleton_append, List.nodup_cons, hcomplete, ← hnew]
      refine ⟨?_, ?_⟩
      · simpa [checkComponent, hid] using hseen
      · simp only [checkComponent, hid]
        rcases prev.seen.lookup cid with _ | seen
        · simp only [List.append_nil, List.append_eq_nil_iff, herrors, true_and]
          tauto
        · simp

/-- The loop over the commands finds no further error exactly when they are sound and their keys
differ. -/
theorem commands_spec (valid_ids : List ℤ) (errors : List ValidationError)
    (commands : List CommandDecl) :
    let acc := commands.foldl (checkCommand valid_ids) ⟨errors, []⟩
    acc.seen.map Prod.fst = (commands.map fun cmd => (cmd.target_id, cmd.opcode)).reverse ∧
      (acc.errors = [] ↔ errors = [] ∧ (∀ cmd ∈ commands, cmd.Sound valid_ids) ∧
        (commands.map fun cmd => (cmd.target_id, cmd.opcode)).Nodup) := by
  intro acc
  induction commands using List.reverseRecOn with
  | nil => simp [acc]
  | append_singleton commands cmd ih =>
    obtain ⟨hseen, herrors⟩ := ih
    set prev := commands.foldl (checkCommand valid_ids) ⟨errors, []⟩ with hprev
    have hacc : acc = checkCommand valid_ids prev cmd := List.foldl_concat ..
    have hall : (∀ c ∈ commands ++ [cmd], c.Sound valid_ids) ↔
        (∀ c ∈ commands, c.Sound valid_ids) ∧ cmd.Sound valid_ids := by
      rw [List.forall_mem_append, List.forall_mem_singleton]
    have hsound : cmd.Sound valid_ids ↔ knownTarget valid_ids cmd.target_id = true ∧
        ¬(cmd.op_class.getD [] ≠ [] ∧ cmd.op_class.getD [] ∉ valid_op) := by
      rw [not_and_or, not_not, not_not]
      exact ⟨fun h => ⟨h.target, h.op_class⟩, fun h => ⟨h.1, h.2⟩⟩
    -- The keys seen so far are those of the commands before, the last one first.
    have hnew : prev.seen.lookup (cmd.target_id, cmd.opcode) = none ↔
        (cmd.target_id, cmd.opcode) ∉ commands.map fun cmd => (cmd.target_id, cmd.opcode) := by
      rw [lookup_eq_none_iff, hseen, List.mem_reverse]
    rw [hacc, List.map_append, List.map_singleton, List.nodup_append_comm, List.singleton_append,
      List.nodup_cons, hall, hsound, ← hnew]
    refine ⟨?_, ?_⟩
    · simpa [checkCommand] using hseen
    · simp only [checkCommand]
      rcases prev.seen.lookup (cmd.target_id, cmd.opcode) with _ | seen
      · cases knownTarget valid_ids cmd.target_id with
        | false => simp
        | true =>
          simp [herrors]
          tauto
      · simp

end Topology

/-- `validate` accepts exactly the topologies whose components are complete and have different
numbers, and whose commands are sound and have different keys. -/
theorem validate_eq_nil_iff (t : Topology) : validate t = [] ↔ t.Accepted := by
  obtain ⟨hseen, hcomps⟩ := Topology.components_spec t.components
  set acc := t.components.foldl Topology.checkComponent ⟨[], []⟩ with hacc
  obtain ⟨-, hcmds⟩ := Topology.commands_spec (acc.seen.map Prod.fst) acc.errors t.commands
  have hvalid : validate t =
      (t.commands.foldl (Topology.checkCommand (acc.seen.map Prod.fst)) ⟨acc.errors, []⟩).errors :=
    rfl
  have hknown : ∀ tid, Topology.knownTarget (acc.seen.map Prod.fst) tid =
      Topology.knownTarget t.ids tid := by
    intro tid
    cases tid with
    | none => rfl
    | some tid =>
      have hmem : tid ∈ acc.seen.map Prod.fst ↔ tid ∈ t.ids := by
        rw [hseen, List.mem_reverse]
        rfl
      exact decide_eq_decide.mpr hmem
  rw [hvalid, hcmds, hcomps]
  constructor
  · rintro ⟨⟨hcomplete, hids⟩, hsound, hops⟩
    exact ⟨hcomplete, hids, fun cmd hcmd => ⟨(hknown _).symm.trans (hsound cmd hcmd).target,
      (hsound cmd hcmd).op_class⟩, hops⟩
  · rintro ⟨hcomplete, hids, hsound, hops⟩
    exact ⟨⟨hcomplete, hids⟩, fun cmd hcmd => ⟨(hknown _).trans (hsound cmd hcmd).target,
      (hsound cmd hcmd).op_class⟩, hops⟩

end DeltaV
