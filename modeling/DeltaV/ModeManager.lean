import DeltaV.FloatWords
import DeltaV.Lib.Runs
import DeltaV.Lib.Slots
import DeltaV.Reporter

/-!
# The mode manager

`ModeManagerComponent` keeps a table of rules. A rule names a component and two commands, of which
one is sent when the rule's mask contains the current mode and the other when it does not. Rules are
staged field by field and committed to the slot that has the target already, or else to a free one.
In every run the table is in order (`RulesValid`), and applying the mode sends the selected commands
in the order of the slots (`mode_rules`).
-/

namespace DeltaV

/-- The operational modes. -/
inductive Mode where
  | DETUMBLE
  | SUN_POINTING
  | SCIENCE_GATHERING
  | DOWNLINK
deriving DecidableEq, Repr

/-- A rule: what to command to a component in the modes of the mask and in the others. -/
structure Rule where
  active : Bool
  target_id : UInt32
  enable_opcode : UInt32
  enable_arg : Binary32
  disable_opcode : UInt32
  disable_arg : Binary32
  mode_mask : UInt8
  last_enabled : Bool
deriving DecidableEq, Repr

/-- A free slot. -/
def Rule.empty : Rule := ⟨false, 0, 0, Binary32.ofNat 0, 0, Binary32.ofNat 0, 0, false⟩

/-- The rule without its note of the last decision. -/
def Rule.forget (rule : Rule) : Rule := { rule with last_enabled := false }

/-- The size of the rule table. -/
def MAX_RULES : ℕ := 32

def MODE_MASK_DETUMBLE : UInt8 := 0x01

def MODE_MASK_SUN : UInt8 := 0x02

def MODE_MASK_SCIENCE : UInt8 := 0x04

def MODE_MASK_DOWNLINK : UInt8 := 0x08

/-- The mode manager. -/
structure ModeManagerComponent extends Commander where
  rules_ : Fin MAX_RULES → Rule
  current_mode_ : Mode
  transitions_ : UInt32
  dispatched_count_ : UInt32
  staged_target_id_ : UInt32
  staged_enable_opcode_ : UInt32
  staged_enable_arg_ : Binary32
  staged_disable_opcode_ : UInt32
  staged_disable_arg_ : Binary32
  staged_mode_mask_ : UInt8

namespace ModeManagerComponent

def OP_STAGE_TARGET_ID : UInt32 := 1

def OP_STAGE_ENABLE_OPCODE : UInt32 := 2

def OP_STAGE_ENABLE_ARG : UInt32 := 3

def OP_STAGE_DISABLE_OPCODE : UInt32 := 4

def OP_STAGE_DISABLE_ARG : UInt32 := 5

def OP_STAGE_MODE_MASK : UInt32 := 6

def OP_COMMIT_RULE : UInt32 := 7

def OP_CLEAR_RULES : UInt32 := 8

def OP_SET_MODE : UInt32 := 9

def OP_APPLY_MODE : UInt32 := 10

def OP_REPORT_STATUS : UInt32 := 11

/-- All mode bits. -/
def allowed : UInt8 :=
  MODE_MASK_DETUMBLE ||| MODE_MASK_SUN ||| MODE_MASK_SCIENCE ||| MODE_MASK_DOWNLINK

/-- The mode bits of a mask, or the default if there are none. -/
def sanitizeMask (mask : UInt8) : UInt8 :=
  let bounded := mask &&& allowed
  if bounded = 0 then MODE_MASK_SUN else bounded

/-- The mode of a number. -/
def toMode (raw : UInt8) : Mode :=
  if raw = 1 then Mode.DETUMBLE
  else if raw = 2 then Mode.SUN_POINTING
  else if raw = 3 then Mode.SCIENCE_GATHERING
  else if raw = 4 then Mode.DOWNLINK
  else Mode.SUN_POINTING

/-- The number of a mode. -/
def modeToU8 : Mode → UInt8
  | Mode.DETUMBLE => 1
  | Mode.SUN_POINTING => 2
  | Mode.SCIENCE_GATHERING => 3
  | Mode.DOWNLINK => 4

/-- The mask bit of a mode. -/
def modeBit : Mode → UInt8
  | Mode.DETUMBLE => MODE_MASK_DETUMBLE
  | Mode.SUN_POINTING => MODE_MASK_SUN
  | Mode.SCIENCE_GATHERING => MODE_MASK_SCIENCE
  | Mode.DOWNLINK => MODE_MASK_DOWNLINK

/-- A component as constructed. -/
def create (base : Component) : ModeManagerComponent :=
  { Commander.create base with
    rules_ := fun _ => Rule.empty
    current_mode_ := Mode.SUN_POINTING
    transitions_ := 0
    dispatched_count_ := 0
    staged_target_id_ := 0
    staged_enable_opcode_ := 0
    staged_enable_arg_ := Binary32.ofNat 0
    staged_disable_opcode_ := 0
    staged_disable_arg_ := Binary32.ofNat 0
    staged_mode_mask_ := MODE_MASK_SUN }

/-- Counts one error. -/
def recordError (c : ModeManagerComponent) : ModeManagerComponent :=
  { c with toCommander := c.toCommander.recordError }

/-- Sends an event. -/
def publishEvent (c : ModeManagerComponent) (severity : UInt32) (msg : Text) :
    ModeManagerComponent :=
  { c with toCommander := c.toCommander.publishEvent severity msg }

/-- Frees all slots. -/
def clearRules (c : ModeManagerComponent) : ModeManagerComponent :=
  { c with rules_ := fun _ => Rule.empty }

/-- The slot of the rule for a component. -/
def findRule (c : ModeManagerComponent) (target_id : UInt32) : Option (Fin MAX_RULES) :=
  Slots.first (fun r => r.active && decide (r.target_id = target_id)) c.rules_

/-- The first free slot. -/
def allocRule (c : ModeManagerComponent) : Option (Fin MAX_RULES) :=
  Slots.first (fun r => !r.active) c.rules_

/-- The staged rule. -/
def stagedRule (c : ModeManagerComponent) : Rule :=
  { active := true
    target_id := c.staged_target_id_
    enable_opcode := c.staged_enable_opcode_
    enable_arg := c.staged_enable_arg_
    disable_opcode := c.staged_disable_opcode_
    disable_arg := c.staged_disable_arg_
    mode_mask := c.staged_mode_mask_
    last_enabled := false }

/-- Writes the staged rule to the table. -/
def commitRule (c : ModeManagerComponent) : ModeManagerComponent :=
  if c.staged_target_id_ = 0 then
    c.recordError.publishEvent Severity.WARNING (ascii "MODE_NO_TARGET")
  else
    match (c.findRule c.staged_target_id_).or c.allocRule with
    | none => c.recordError.publishEvent Severity.WARNING (ascii "MODE_RULE_FULL")
    | some i =>
      { c with rules_ := Function.update c.rules_ i c.stagedRule }.publishEvent Severity.INFO
        (ascii "MODE_RULE_SET")

/-- The command that a rule selects in a mode; `none` if the opcode is 0. -/
def selected (mode : Mode) (rule : Rule) : Option CommandPacket :=
  let should_enable := rule.mode_mask &&& modeBit mode ≠ 0
  let opcode := if should_enable then rule.enable_opcode else rule.disable_opcode
  let arg := if should_enable then rule.enable_arg else rule.disable_arg
  if opcode = 0 then none else some ⟨rule.target_id, opcode, arg⟩

/-- Sends a command; one that is refused is an error, and an event. -/
def dispatch (others : ℕ → CommandPort → CommandPort) (c : ModeManagerComponent)
    (cmd : CommandPacket) : ModeManagerComponent :=
  let sent := { c with toCommander := c.send others cmd }
  if c.accepts others cmd = false then
    sent.recordError.publishEvent Severity.WARNING (ascii "MODE_SEND_FAIL")
  else { sent with dispatched_count_ := sent.dispatched_count_ + 1 }

/-- Sends the command of one slot. -/
def applyRule (others : ℕ → CommandPort → CommandPort) (c : ModeManagerComponent)
    (i : Fin MAX_RULES) : ModeManagerComponent :=
  let rule := c.rules_ i
  let should_enable := decide (rule.mode_mask &&& modeBit c.current_mode_ ≠ 0)
  if rule.active then
    match selected c.current_mode_ rule with
    | none => c
    | some cmd =>
      let c := c.dispatch others cmd
      { c with rules_ := Function.update c.rules_ i { rule with last_enabled := should_enable } }
  else c

/-- Sends the commands of the current mode. -/
def applyCurrentMode (others : ℕ → CommandPort → CommandPort) (c : ModeManagerComponent) :
    ModeManagerComponent :=
  ((List.finRange MAX_RULES).foldl (applyRule others) c).publishEvent Severity.INFO
    (ascii "MODE_APPLY")

/-- Changes the mode. -/
def setMode (c : ModeManagerComponent) (mode : Mode) : ModeManagerComponent :=
  if mode = c.current_mode_ then c.publishEvent Severity.INFO (ascii "MODE_NO_CHANGE")
  else
    { c with current_mode_ := mode, transitions_ := c.transitions_ + 1 }.publishEvent Severity.INFO
      (ascii "MODE_SET")

/-- Sends both counters, each at its mission time. -/
def reportStatus (c : ModeManagerComponent) (met : UInt32 × UInt32) : ModeManagerComponent :=
  { c with
    toCommander := (c.toCommander.publishTelemetry met.1
      (Binary32.ofNat c.transitions_.toNat)).publishTelemetry met.2
        (Binary32.ofNat c.dispatched_count_.toNat) }

/-- Executes a command; `met` holds the mission times that a report reads. -/
def handleCommand (others : ℕ → CommandPort → CommandPort) (c : ModeManagerComponent)
    (cmd : CommandPacket × UInt32 × UInt32) : ModeManagerComponent :=
  let argument := cmd.1.argument
  if cmd.1.opcode = OP_STAGE_TARGET_ID then { c with staged_target_id_ := toU32 argument }
  else if cmd.1.opcode = OP_STAGE_ENABLE_OPCODE then
    { c with staged_enable_opcode_ := toU32 argument }
  else if cmd.1.opcode = OP_STAGE_ENABLE_ARG then { c with staged_enable_arg_ := argument }
  else if cmd.1.opcode = OP_STAGE_DISABLE_OPCODE then
    { c with staged_disable_opcode_ := toU32 argument }
  else if cmd.1.opcode = OP_STAGE_DISABLE_ARG then { c with staged_disable_arg_ := argument }
  else if cmd.1.opcode = OP_STAGE_MODE_MASK then
    { c with staged_mode_mask_ := sanitizeMask (toU8 argument) }
  else if cmd.1.opcode = OP_COMMIT_RULE then c.commitRule
  else if cmd.1.opcode = OP_CLEAR_RULES then
    c.clearRules.publishEvent Severity.INFO (ascii "MODE_RULES_CLEAR")
  else if cmd.1.opcode = OP_SET_MODE then c.setMode (toMode (toU8 argument))
  else if cmd.1.opcode = OP_APPLY_MODE then c.applyCurrentMode others
  else if cmd.1.opcode = OP_REPORT_STATUS then c.reportStatus cmd.2
  else c.recordError.publishEvent Severity.WARNING (ascii "MODE_BAD_OP")

/-- Starts the component. -/
def init (c : ModeManagerComponent) : ModeManagerComponent :=
  { c.clearRules with
    current_mode_ := Mode.SUN_POINTING
    transitions_ := 0
    dispatched_count_ := 0
    staged_target_id_ := 0
    staged_enable_opcode_ := 0
    staged_disable_opcode_ := 0
    staged_enable_arg_ := Binary32.ofNat 0
    staged_disable_arg_ := Binary32.ofNat 0
    staged_mode_mask_ := MODE_MASK_SUN }.publishEvent Severity.INFO (ascii "MODE_READY")

/-- Executes the commands in the input port and reports the mode. -/
def step (others : ℕ → CommandPort → CommandPort) (c : ModeManagerComponent)
    (cmds : List (CommandPacket × UInt32 × UInt32)) (met : UInt32) : ModeManagerComponent :=
  let c := cmds.foldl (handleCommand others) c
  { c with
    toCommander := c.toCommander.publishTelemetry met
      (Binary32.ofNat (modeToU8 c.current_mode_).toNat) }

end ModeManagerComponent

/-- What can happen to the component. -/
inductive ModeManagerOp where
  | init
  | handleCommand (cmd : CommandPacket × UInt32 × UInt32)
  | step (cmds : List (CommandPacket × UInt32 × UInt32)) (met : UInt32)
  /-- Others send to and take from the queues behind the reporting outputs. -/
  | outputs (event_out : Option (InputPort EventPacket DEFAULT_QUEUE_DEPTH))
    (telemetry_out : Option (InputPort (List UInt8) DEFAULT_QUEUE_DEPTH))

namespace ModeManagerComponent

/-- The next state. -/
def apply (others : ℕ → CommandPort → CommandPort) (c : ModeManagerComponent) :
    ModeManagerOp → ModeManagerComponent
  | ModeManagerOp.init => c.init
  | ModeManagerOp.handleCommand cmd => c.handleCommand others cmd
  | ModeManagerOp.step cmds met => c.step others cmds met
  | ModeManagerOp.outputs event_out telemetry_out =>
    { c with toReporter := c.reconnect event_out telemetry_out }

/-! ## The table -/

/-- A mask with mode bits and no others. -/
def ValidMask (mask : UInt8) : Prop := mask ≠ 0 ∧ mask &&& allowed = mask

/-- The active rules have pairwise distinct nonzero targets and valid masks, and so has the staged
mask. -/
structure RulesValid (c : ModeManagerComponent) : Prop where
  distinct : Slots.DistinctKeys Rule.active Rule.target_id c.rules_
  rule_valid : ∀ i, (c.rules_ i).active = true →
    (c.rules_ i).target_id ≠ 0 ∧ ValidMask (c.rules_ i).mode_mask
  staged_valid : ValidMask c.staged_mode_mask_

/-- What is sanitized is valid. -/
theorem validMask_sanitizeMask (mask : UInt8) : ValidMask (sanitizeMask mask) := by
  unfold sanitizeMask
  dsimp only
  split_ifs with h
  · exact ⟨by decide, by decide⟩
  · exact ⟨h, by rw [UInt8.and_assoc, UInt8.and_self]⟩

/-- The table stays in order when no rule and no staged mask changes, up to the notes of the last
decisions. -/
theorem RulesValid.of_forget {c c' : ModeManagerComponent} (h : c.RulesValid)
    (hrules : ∀ i, (c'.rules_ i).forget = (c.rules_ i).forget)
    (hmask : c'.staged_mode_mask_ = c.staged_mode_mask_) : c'.RulesValid := by
  have hactive (i : Fin MAX_RULES) : (c'.rules_ i).active = (c.rules_ i).active :=
    (congrArg Rule.active (hrules i) :)
  have htarget (i : Fin MAX_RULES) : (c'.rules_ i).target_id = (c.rules_ i).target_id :=
    (congrArg Rule.target_id (hrules i) :)
  have hmode (i : Fin MAX_RULES) : (c'.rules_ i).mode_mask = (c.rules_ i).mode_mask :=
    (congrArg Rule.mode_mask (hrules i) :)
  refine ⟨fun i j hi hj hkey => ?_, fun i hi => ?_, ?_⟩
  · rw [hactive] at hi hj
    rw [htarget, htarget] at hkey
    exact h.distinct i j hi hj hkey
  · rw [hactive] at hi
    rw [htarget, hmode]
    exact h.rule_valid i hi
  · rw [hmask]
    exact h.staged_valid

/-- An empty table is in order. -/
theorem rulesValid_of_empty {c : ModeManagerComponent} (hrules : ∀ i, c.rules_ i = Rule.empty)
    (hmask : ValidMask c.staged_mode_mask_) : c.RulesValid := by
  have hfree (i : Fin MAX_RULES) : (c.rules_ i).active = false := by
    rw [hrules]
    rfl
  refine ⟨Slots.DistinctKeys.of_inactive hfree, fun i hi => ?_, hmask⟩
  rw [hfree] at hi
  exact absurd hi Bool.false_ne_true

/-! ## Committing -/

/-- The slot for the staged rule. -/
def stagedSlot (c : ModeManagerComponent) : Option (Fin MAX_RULES) :=
  Slots.slotFor Rule.active Rule.target_id c.rules_ c.staged_target_id_

/-- What a commit does to the table: it replaces the rule for the target in place, adds one, or is
rejected with an error. -/
structure Commits (c c' : ModeManagerComponent) : Prop where
  replaces : ∀ i, c.staged_target_id_ ≠ 0 → (c.rules_ i).active = true →
    (c.rules_ i).target_id = c.staged_target_id_ →
      c'.rules_ = Function.update c.rules_ i c.stagedRule ∧
        Reporter.Accounted 0 c.toReporter c'.toReporter
  adds : ∀ j, c.staged_target_id_ ≠ 0 → (c.rules_ j).active = false →
    (∀ i, (c.rules_ i).active = true → (c.rules_ i).target_id ≠ c.staged_target_id_) →
      (∃ i, (c.rules_ i).active = false ∧ c'.rules_ = Function.update c.rules_ i c.stagedRule) ∧
        Reporter.Accounted 0 c.toReporter c'.toReporter
  rejects : c.staged_target_id_ = 0 ∨
      (∀ i, (c.rules_ i).active = true ∧ (c.rules_ i).target_id ≠ c.staged_target_id_) →
    c'.rules_ = c.rules_ ∧ Reporter.Accounted 1 c.toReporter c'.toReporter

/-- A commit is rejected without a target or without a slot, and writes to the slot otherwise. -/
theorem commitRule_cases (c : ModeManagerComponent) :
    (c.staged_target_id_ = 0 ∧
        c.commitRule = c.recordError.publishEvent Severity.WARNING (ascii "MODE_NO_TARGET")) ∨
      (c.staged_target_id_ ≠ 0 ∧ c.stagedSlot = none ∧
        c.commitRule = c.recordError.publishEvent Severity.WARNING (ascii "MODE_RULE_FULL")) ∨
      (c.staged_target_id_ ≠ 0 ∧ ∃ i, c.stagedSlot = some i ∧
        c.commitRule =
          { c with rules_ := Function.update c.rules_ i c.stagedRule }.publishEvent Severity.INFO
            (ascii "MODE_RULE_SET")) := by
  have hslot : (c.findRule c.staged_target_id_).or c.allocRule = c.stagedSlot := rfl
  unfold commitRule
  rw [hslot]
  split_ifs with htarget
  · exact Or.inl ⟨htarget, rfl⟩
  · rcases c.stagedSlot with _ | i
    · exact Or.inr (Or.inl ⟨htarget, rfl, rfl⟩)
    · exact Or.inr (Or.inr ⟨htarget, i, rfl, rfl⟩)

/-- A commit keeps the table in order. -/
theorem RulesValid.commitRule {c : ModeManagerComponent} (h : c.RulesValid) :
    c.commitRule.RulesValid := by
  rcases c.commitRule_cases with ⟨-, heq⟩ | ⟨-, -, heq⟩ | ⟨htarget, i, hslot, heq⟩
  · rw [heq]
    exact h.of_forget (fun _ => rfl) rfl
  · rw [heq]
    exact h.of_forget (fun _ => rfl) rfl
  · have hrules : c.commitRule.rules_ = Function.update c.rules_ i c.stagedRule := by
      rw [heq]
      rfl
    refine ⟨?_, ?_, heq ▸ h.staged_valid⟩
    · rw [hrules]
      exact h.distinct.update hslot
    · rw [hrules]
      -- The new rule has the staged mask, which is valid.
      refine (Function.forall_update_iff c.rules_ fun _ rule => rule.active = true →
        rule.target_id ≠ 0 ∧ ValidMask rule.mode_mask).mpr ⟨fun _ => ?_, fun j _ => h.rule_valid j⟩
      exact ⟨htarget, h.staged_valid⟩

/-- Every commit to a table in order replaces, adds, or is rejected. -/
theorem RulesValid.commits {c : ModeManagerComponent} (h : c.RulesValid) :
    Commits c c.commitRule := by
  rcases c.commitRule_cases with ⟨htarget, heq⟩ | ⟨htarget, hslot, heq⟩ | ⟨htarget, i, hslot, heq⟩
  · rw [heq]
    exact ⟨fun _ hne => absurd htarget hne, fun _ hne => absurd htarget hne,
      fun _ => ⟨rfl, c.toReporter.accounted_reject _ _⟩⟩
  · have hfull := Slots.slotFor_eq_none_iff.mp hslot
    rw [heq]
    refine ⟨fun i _ _ hkey => absurd hkey (hfull i).2, fun j _ hfree => ?_,
      fun _ => ⟨rfl, c.toReporter.accounted_reject _ _⟩⟩
    rw [(hfull j).1] at hfree
    exact absurd hfree nofun
  · have haccounted : Reporter.Accounted 0 c.toReporter c.commitRule.toReporter := by
      rw [heq]
      exact c.toReporter.accounted_publishEvent _ _
    have hrules : c.commitRule.rules_ = Function.update c.rules_ i c.stagedRule := by
      rw [heq]
      rfl
    rcases Slots.slotFor_eq_some hslot with ⟨hactive, hkey⟩ | ⟨hfree, hnone⟩
    · refine ⟨fun j _ hj hj' => ?_, fun j _ _ hnone => absurd hkey (hnone i hactive), ?_⟩
      · -- There is only one rule for the target.
        rw [h.distinct j i hj hactive (hj'.trans hkey.symm)]
        exact ⟨hrules, haccounted⟩
      · rintro (hzero | hfull)
        · exact absurd hzero htarget
        · exact absurd hkey (hfull i).2
    · refine ⟨fun j _ hj hj' => absurd hj' (hnone j hj), fun j _ _ _ => ?_, ?_⟩
      · exact ⟨⟨i, hfree, hrules⟩, haccounted⟩
      · -- There is a target and a free slot, so nothing is rejected.
        rintro (hzero | hfull)
        · exact absurd hzero htarget
        · rw [(hfull i).1] at hfree
          exact absurd hfree nofun

/-! ## Applying the mode -/

/-- The command that a slot selects. -/
def commandAt (c : ModeManagerComponent) (i : Fin MAX_RULES) : Option CommandPacket :=
  if (c.rules_ i).active then selected c.current_mode_ (c.rules_ i) else none

/-- The commands that the active rules select, in the order of the slots. -/
def commands (c : ModeManagerComponent) : List CommandPacket :=
  (List.finRange MAX_RULES).filterMap c.commandAt

/-- The event for a command that was refused. -/
def sendFail (c : ModeManagerComponent) : EventPacket :=
  EventPacket.create Severity.WARNING c.getId (ascii "MODE_SEND_FAIL")

/-- The commands have been sent with the given answers: the counter has grown by the accepted ones,
and each refused one is an error and an event. -/
structure Dispatched (others : ℕ → CommandPort → CommandPort) (c c' : ModeManagerComponent)
    (sent : List (CommandPacket × Bool)) : Prop where
  outlet : Commander.SameOutlet (c.toCommander.sendAll others (sent.map Prod.fst)) c'.toCommander
  offered_eq : c'.offered = c.offered ++ sent
  dispatched_eq :
    c'.dispatched_count_ = c.dispatched_count_ + UInt32.ofNat (sent.countP Prod.snd)
  accounted : Reporter.Accounted (sent.countP fun s => !s.2) c.toReporter c'.toReporter
  published_eq :
    c'.published = c.published ++ List.replicate (sent.countP fun s => !s.2) c.sendFail
  mode_eq : c'.current_mode_ = c.current_mode_
  staged_eq : c'.staged_mode_mask_ = c.staged_mode_mask_
  rules_eq : ∀ i, (c'.rules_ i).forget = (c.rules_ i).forget

variable {others : ℕ → CommandPort → CommandPort}

/-- What dispatches nothing sends nothing. -/
theorem Dispatched.refl (c : ModeManagerComponent) : Dispatched others c c [] :=
  ⟨Commander.SameOutlet.refl _, (List.append_nil _).symm, (UInt32.add_zero _).symm,
    Reporter.Accounted.refl _, (List.append_nil _).symm, rfl, rfl, fun _ => rfl⟩

/-- What is dispatched in two stretches is sent one after the other. -/
theorem Dispatched.trans {c c' c'' : ModeManagerComponent}
    {sent sent' : List (CommandPacket × Bool)}
    (h : Dispatched others c c' sent) (h' : Dispatched others c' c'' sent') :
    Dispatched others c c'' (sent ++ sent') := by
  have hid : c'.sendFail = c.sendFail := by
    unfold sendFail
    rw [h.accounted.id_eq]
  refine ⟨?_, ?_, ?_, ?_, ?_, h'.mode_eq.trans h.mode_eq, h'.staged_eq.trans h.staged_eq,
    fun i => (h'.rules_eq i).trans (h.rules_eq i)⟩
  · rw [List.map_append, Commander.sendAll, List.foldl_append]
    exact (h.outlet.sendAll others _).trans h'.outlet
  · rw [h'.offered_eq, h.offered_eq, List.append_assoc]
  · rw [h'.dispatched_eq, h.dispatched_eq, List.countP_append, UInt32.ofNat_add, UInt32.add_assoc]
  · rw [List.countP_append]
    exact h.accounted.trans h'.accounted
  · rw [h'.published_eq, h.published_eq, hid, List.countP_append, List.replicate_add,
      List.append_assoc]

/-- What a slot selects does not depend on the notes of the last decisions. -/
theorem Dispatched.commandAt_eq {c c' : ModeManagerComponent} {sent : List (CommandPacket × Bool)}
    (h : Dispatched others c c' sent) (i : Fin MAX_RULES) : c'.commandAt i = c.commandAt i := by
  have hactive : (c'.rules_ i).active = (c.rules_ i).active :=
    (congrArg Rule.active (h.rules_eq i) :)
  have hselected : selected c.current_mode_ (c'.rules_ i) = selected c.current_mode_ (c.rules_ i) :=
    (congrArg (selected c.current_mode_) (h.rules_eq i) :)
  unfold commandAt
  rw [hactive, h.mode_eq, hselected]

/-- Noting the decision of a slot. -/
theorem Dispatched.note {c c' : ModeManagerComponent} {sent : List (CommandPacket × Bool)}
    (h : Dispatched others c c' sent) (i : Fin MAX_RULES) (last_enabled : Bool) :
    Dispatched others c
      { c' with
        rules_ := Function.update c'.rules_ i { c.rules_ i with last_enabled := last_enabled } }
      sent := by
  refine ⟨h.outlet, h.offered_eq, h.dispatched_eq, h.accounted, h.published_eq, h.mode_eq,
    h.staged_eq, fun j => ?_⟩
  rcases eq_or_ne j i with rfl | hne
  · dsimp only
    rw [Function.update_self]
    rfl
  · dsimp only
    rw [Function.update_of_ne hne]
    exact h.rules_eq j

/-- Sending one command and dealing with the answer. -/
theorem dispatch_spec (others : ℕ → CommandPort → CommandPort) (c : ModeManagerComponent)
    (cmd : CommandPacket) :
    Dispatched others c (c.dispatch others cmd) [(cmd, c.accepts others cmd)] := by
  have hoffered : (c.send others cmd).offered = c.offered ++ [(cmd, c.accepts others cmd)] := rfl
  unfold dispatch
  rcases haccepts : c.accepts others cmd with _ | _
  · rw [if_pos rfl]
    rw [haccepts] at hoffered
    exact ⟨⟨rfl, rfl⟩, hoffered, (UInt32.add_zero _).symm,
      (c.send others cmd).toReporter.accounted_reject _ _, rfl, rfl, rfl, fun _ => rfl⟩
  · rw [if_neg nofun]
    rw [haccepts] at hoffered
    exact ⟨⟨rfl, rfl⟩, hoffered, rfl, Reporter.Accounted.refl _, (List.append_nil _).symm, rfl, rfl,
      fun _ => rfl⟩

/-- A slot sends the command that it selects. -/
theorem applyRule_spec (others : ℕ → CommandPort → CommandPort) (c : ModeManagerComponent)
    (i : Fin MAX_RULES) :
    ∃ sent, Dispatched others c (applyRule others c i) sent ∧
      sent.map Prod.fst = (c.commandAt i).toList := by
  unfold applyRule commandAt
  dsimp only
  split_ifs with hactive
  · split
    · rename_i hnone
      rw [hnone]
      exact ⟨[], Dispatched.refl c, rfl⟩
    · rename_i cmd hsome
      rw [hsome]
      exact ⟨[(cmd, c.accepts others cmd)], (c.dispatch_spec others cmd).note i _, rfl⟩
  · exact ⟨[], Dispatched.refl c, rfl⟩

/-- The slots send the commands that they select, in order. -/
theorem foldl_applyRule (others : ℕ → CommandPort → CommandPort) (c : ModeManagerComponent)
    (slots : List (Fin MAX_RULES)) :
    ∃ sent, Dispatched others c (slots.foldl (applyRule others) c) sent ∧
      sent.map Prod.fst = slots.filterMap c.commandAt := by
  induction slots generalizing c with
  | nil => exact ⟨[], Dispatched.refl c, rfl⟩
  | cons i slots ih =>
    obtain ⟨first, hfirst, hcommand⟩ := c.applyRule_spec others i
    obtain ⟨rest, hrest, hcommands⟩ := ih (applyRule others c i)
    refine ⟨first ++ rest, hfirst.trans hrest, ?_⟩
    -- The later slots select what they would have selected before the first.
    rw [List.map_append, hcommand, hcommands, funext hfirst.commandAt_eq]
    rcases hat : c.commandAt i with _ | cmd
    · rw [List.filterMap_cons_none hat]
      rfl
    · rw [List.filterMap_cons_some hat]
      rfl

/-- Applying the mode sends the selected commands and closes with an event. -/
theorem applyCurrentMode_spec (others : ℕ → CommandPort → CommandPort) (c : ModeManagerComponent) :
    ∃ c' sent, Dispatched others c c' sent ∧ sent.map Prod.fst = c.commands ∧
      c.applyCurrentMode others = c'.publishEvent Severity.INFO (ascii "MODE_APPLY") := by
  obtain ⟨sent, hsent, hcommands⟩ := c.foldl_applyRule others (List.finRange MAX_RULES)
  exact ⟨_, sent, hsent, hcommands, rfl⟩

/-! ## Runs -/

/-- A command keeps the table in order. -/
theorem RulesValid.handleCommand {c : ModeManagerComponent} (h : c.RulesValid)
    (cmd : CommandPacket × UInt32 × UInt32) : (c.handleCommand others cmd).RulesValid := by
  unfold ModeManagerComponent.handleCommand
  refine iteInduction (fun _ => h.of_forget (fun _ => rfl) rfl) fun _ => ?_
  refine iteInduction (fun _ => h.of_forget (fun _ => rfl) rfl) fun _ => ?_
  refine iteInduction (fun _ => h.of_forget (fun _ => rfl) rfl) fun _ => ?_
  refine iteInduction (fun _ => h.of_forget (fun _ => rfl) rfl) fun _ => ?_
  refine iteInduction (fun _ => h.of_forget (fun _ => rfl) rfl) fun _ => ?_
  -- The staged mask changes to one that is valid.
  refine iteInduction (fun _ => ⟨h.distinct, h.rule_valid, validMask_sanitizeMask _⟩) fun _ => ?_
  refine iteInduction (fun _ => h.commitRule) fun _ => ?_
  refine iteInduction (fun _ => rulesValid_of_empty (fun _ => rfl) h.staged_valid) fun _ => ?_
  refine iteInduction (fun _ => ?_) fun _ => ?_
  · unfold setMode
    split_ifs
    · exact h.of_forget (fun _ => rfl) rfl
    · exact h.of_forget (fun _ => rfl) rfl
  refine iteInduction (fun _ => ?_) fun _ => ?_
  · obtain ⟨c', sent, hsent, -, happly⟩ := c.applyCurrentMode_spec others
    rw [happly]
    exact h.of_forget hsent.rules_eq hsent.staged_eq
  refine iteInduction (fun _ => h.of_forget (fun _ => rfl) rfl) fun _ => ?_
  exact h.of_forget (fun _ => rfl) rfl

/-- A call keeps the table in order. -/
theorem RulesValid.apply {c : ModeManagerComponent} (h : c.RulesValid) (op : ModeManagerOp) :
    (c.apply others op).RulesValid := by
  cases op with
  | init =>
    have hmask : ValidMask MODE_MASK_SUN := ⟨by decide, by decide⟩
    exact rulesValid_of_empty (fun _ => rfl) hmask
  | handleCommand cmd => exact h.handleCommand cmd
  | step cmds met =>
    have hcommand (d : ModeManagerComponent) (cmd : CommandPacket × UInt32 × UInt32)
        (hd : d.RulesValid) : (d.handleCommand others cmd).RulesValid := hd.handleCommand cmd
    have hcmds := run_invariant hcommand h cmds
    exact hcmds.of_forget (fun _ => rfl) rfl
  | outputs event_out telemetry_out => exact h.of_forget (fun _ => rfl) rfl

/-- What applying the mode does: the selected commands are offered in order, the accepted ones are
counted, and the errors are the refused ones and the events that were not taken. -/
structure Applies (c c' : ModeManagerComponent) (sent : List (CommandPacket × Bool)) : Prop where
  commands_eq : sent.map Prod.fst = c.commands
  offered_eq : c'.offered = c.offered ++ sent
  dispatched_eq :
    c'.dispatched_count_ = c.dispatched_count_ + UInt32.ofNat (sent.countP Prod.snd)
  accounted : Reporter.Accounted (sent.countP fun s => !s.2) c.toReporter c'.toReporter
  published_eq :
    c'.published = c.published ++ List.replicate (sent.countP fun s => !s.2) c.sendFail ++
      [EventPacket.create Severity.INFO c.getId (ascii "MODE_APPLY")]
  rules_eq : ∀ i, (c'.rules_ i).forget = (c.rules_ i).forget

/-- Applying a mode sends the commands of its rules. -/
theorem applies_applyCurrentMode (others : ℕ → CommandPort → CommandPort)
    (c : ModeManagerComponent) :
    ∃ sent, Applies c (c.applyCurrentMode others) sent := by
  obtain ⟨c', sent, hsent, hcommands, happly⟩ := c.applyCurrentMode_spec others
  refine ⟨sent, hcommands, ?_, ?_, ?_, ?_, ?_⟩
  · rw [happly]
    exact hsent.offered_eq
  · rw [happly]
    exact hsent.dispatched_eq
  · rw [happly]
    exact hsent.accounted.trans (Reporter.accounted_publishEvent _ _ _)
  · rw [happly, ← hsent.published_eq, ← hsent.accounted.id_eq]
    rfl
  · rw [happly]
    exact hsent.rules_eq

/-- In every run the table is in order, a commit replaces the rule for its target in place or adds
one or is rejected and changes no rule, and applying the mode offers the selected commands in the
order of the slots and counts what was accepted and refused. -/
theorem mode_rules (others : ℕ → CommandPort → CommandPort) (base : Component)
    (ops : List ModeManagerOp) :
    let c := run (apply others) (create base) ops
    c.RulesValid ∧
      (∀ target argument met,
        Commits c (c.handleCommand others (⟨target, OP_COMMIT_RULE, argument⟩, met))) ∧
      ∀ target argument met, ∃ sent,
        Applies c (c.handleCommand others (⟨target, OP_APPLY_MODE, argument⟩, met)) sent := by
  intro c
  have hcreate : (create base).RulesValid :=
    have hmask : ValidMask MODE_MASK_SUN := ⟨by decide, by decide⟩
    rulesValid_of_empty (fun _ => rfl) hmask
  have happly (d : ModeManagerComponent) (op : ModeManagerOp) (hd : d.RulesValid) :
      (d.apply others op).RulesValid := hd.apply op
  have hvalid : c.RulesValid := run_invariant happly hcreate ops
  exact ⟨hvalid, fun _ _ _ => hvalid.commits, fun _ _ _ => c.applies_applyCurrentMode others⟩

/-- An event queue that sixteen applications of the mode have filled. -/
def eventQueueFull : ModeManagerComponent :=
  run (apply fun _ port => port) (create (Component.create (ascii "ModeManager") 49))
    (ModeManagerOp.outputs (some (InputPort.create DEFAULT_QUEUE_DEPTH)) none ::
      List.replicate DEFAULT_QUEUE_DEPTH
        (ModeManagerOp.handleCommand (⟨49, OP_APPLY_MODE, Binary32.ofNat 0⟩, 0, 0)))

/-- Applying a mode without rules refuses no command, and yet counts an error if the event is not
taken. -/
theorem apply_counts_event :
    let c := eventQueueFull
    let c' := c.handleCommand (fun _ port => port) (⟨49, OP_APPLY_MODE, Binary32.ofNat 0⟩, 0, 0)
    c'.offered = [] ∧ c'.getErrorCount = c.getErrorCount + 1 := by
  decide +kernel

end ModeManagerComponent

end DeltaV
