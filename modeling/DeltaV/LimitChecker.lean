import DeltaV.FloatWords
import DeltaV.Lib.Logs
import DeltaV.Lib.Runs
import DeltaV.Lib.Slots
import DeltaV.Reporter

/-!
# The limit checker

`LimitCheckerComponent` keeps a table of limits, one row for each component that is watched, and
compares every telemetry sample with the limits of its component. A sample at the warning or the
critical level raises an alarm unless the sample before it was at the same level. In every run the
table is in order (`RowsValid`), and the alarms are those that the history of the samples calls for
(`limit_alarms`). A NaN compares with no limit, so it passes as a sample without alarm
(`sample_classified_iff`).
-/

namespace DeltaV

/-- How far a value is out of its limits. -/
inductive AlarmLevel where
  | NONE
  | WARN
  | CRIT
deriving DecidableEq, Repr

/-- The default of the lower limits, `-1.0e9F`. -/
def LIMIT_LOW : Binary32 := Binary32.roundUnits (-1000000000 * 2^149)

/-- The default of the upper limits, `1.0e9F`. -/
def LIMIT_HIGH : Binary32 := Binary32.ofNat 1000000000

/-- The limits of a component, and the level of its last sample. -/
structure Row where
  active : Bool
  target_id : UInt32
  warn_low : Binary32
  warn_high : Binary32
  crit_low : Binary32
  crit_high : Binary32
  last_level : AlarmLevel
deriving DecidableEq, Repr

/-- A free row. -/
def Row.empty : Row := ⟨false, 0, LIMIT_LOW, LIMIT_HIGH, LIMIT_LOW, LIMIT_HIGH, AlarmLevel.NONE⟩

/-- The level of a value. -/
def Row.level (row : Row) (v : Binary32) : AlarmLevel :=
  if v ≤ row.crit_low ∨ row.crit_high ≤ v then AlarmLevel.CRIT
  else if v ≤ row.warn_low ∨ row.warn_high ≤ v then AlarmLevel.WARN
  else AlarmLevel.NONE

/-- The limits are nested. -/
def Row.Ordered (row : Row) : Prop :=
  row.crit_low ≤ row.warn_low ∧ row.warn_low ≤ row.warn_high ∧ row.warn_high ≤ row.crit_high

instance (row : Row) : Decidable row.Ordered := inferInstanceAs (Decidable (_ ∧ _ ∧ _))

/-- The size of the table. -/
def MAX_LIMIT_ROWS : ℕ := 64

/-- What was done with the rows. -/
inductive LimitAction where
  | reset
  | applied (target_id : UInt32)
  | evaluated (target_id : UInt32) (level : AlarmLevel) (alarm : Bool)

/-- The limit checker. -/
structure LimitCheckerComponent extends Reporter where
  rows_ : Fin MAX_LIMIT_ROWS → Row
  enabled_ : Bool
  staged_target_id_ : UInt32
  staged_warn_low_ : Binary32
  staged_warn_high_ : Binary32
  staged_crit_low_ : Binary32
  staged_crit_high_ : Binary32
  alarm_count_ : UInt32
  /-- What was done with the rows, in order. -/
  log : List LimitAction

namespace LimitCheckerComponent

def OP_SET_TARGET_ID : UInt32 := 1

def OP_SET_WARN_LOW : UInt32 := 2

def OP_SET_WARN_HIGH : UInt32 := 3

def OP_SET_CRIT_LOW : UInt32 := 4

def OP_SET_CRIT_HIGH : UInt32 := 5

def OP_APPLY_LIMITS : UInt32 := 6

def OP_CLEAR_TARGET : UInt32 := 7

def OP_ENABLE : UInt32 := 8

def OP_DISABLE : UInt32 := 9

/-- A component as constructed. -/
def create (base : Component) : LimitCheckerComponent :=
  { Reporter.create base with
    rows_ := fun _ => Row.empty
    enabled_ := true
    staged_target_id_ := 0
    staged_warn_low_ := LIMIT_LOW
    staged_warn_high_ := LIMIT_HIGH
    staged_crit_low_ := LIMIT_LOW
    staged_crit_high_ := LIMIT_HIGH
    alarm_count_ := 0
    log := [] }

/-- Counts one error. -/
def recordError (c : LimitCheckerComponent) : LimitCheckerComponent :=
  { c with toReporter := c.toReporter.recordError }

/-- Sends an event. -/
def publishEvent (c : LimitCheckerComponent) (severity : UInt32) (msg : Text) :
    LimitCheckerComponent := { c with toReporter := c.toReporter.publishEvent severity msg }

/-- The row of a component. -/
def findRow (c : LimitCheckerComponent) (target_id : UInt32) : Option (Fin MAX_LIMIT_ROWS) :=
  Slots.first (fun r => r.active && decide (r.target_id = target_id)) c.rows_

/-- The first free row; marking it as active repeats what is then written to it. -/
def allocRow (c : LimitCheckerComponent) : Option (Fin MAX_LIMIT_ROWS) :=
  Slots.first (fun r => !r.active) c.rows_

/-- The staged limits. -/
def stagedRow (c : LimitCheckerComponent) : Row :=
  { active := true
    target_id := c.staged_target_id_
    warn_low := c.staged_warn_low_
    warn_high := c.staged_warn_high_
    crit_low := c.staged_crit_low_
    crit_high := c.staged_crit_high_
    last_level := AlarmLevel.NONE }

/-- Writes the staged limits to the table. -/
def applyStagedLimits (c : LimitCheckerComponent) : LimitCheckerComponent :=
  if c.staged_target_id_ = 0 then
    c.recordError.publishEvent Severity.WARNING (ascii "LIM_NO_TARGET")
  else if ¬c.stagedRow.Ordered then
    c.recordError.publishEvent Severity.WARNING (ascii "LIM_BAD_RANGE")
  else
    match (c.findRow c.staged_target_id_).or c.allocRow with
    | none => c.recordError.publishEvent Severity.WARNING (ascii "LIM_FULL")
    | some i =>
      { c with
        rows_ := Function.update c.rows_ i c.stagedRow
        log := c.log ++ [LimitAction.applied c.staged_target_id_] }.publishEvent Severity.INFO
          (ascii "LIM_APPLY")

/-- Frees the row of a component. -/
def clearTarget (c : LimitCheckerComponent) (target_id : UInt32) : LimitCheckerComponent :=
  match c.findRow target_id with
  | none => c
  | some i =>
    { c with rows_ := Function.update c.rows_ i Row.empty }.publishEvent Severity.INFO
      (ascii "LIM_CLEAR")

/-- Compares a sample with its limits. -/
def evaluateSample (c : LimitCheckerComponent) (p : TelemetryPacket) : LimitCheckerComponent :=
  if p.component_id = c.getId then c
  else
    match c.findRow p.component_id with
    | none => c
    | some i =>
      let row := c.rows_ i
      let level := row.level p.data_payload
      let alarm := decide (¬(level = row.last_level ∨ level = AlarmLevel.NONE))
      let c := { c with
        rows_ := Function.update c.rows_ i { row with last_level := level }
        log := c.log ++ [LimitAction.evaluated p.component_id level alarm] }
      if alarm = false then c
      else
        let c := { c with alarm_count_ := c.alarm_count_ + 1 }
        if level = AlarmLevel.CRIT then c.publishEvent Severity.CRITICAL (ascii "LIM_CRIT")
        else c.publishEvent Severity.WARNING (ascii "LIM_WARN")

/-- Takes a sample from the input port. -/
def takeSample (c : LimitCheckerComponent) (raw : List UInt8) : LimitCheckerComponent :=
  if c.enabled_ = false then c else c.evaluateSample (Serializer.unpackTelem raw)

/-- Executes a command. -/
def handleCommand (c : LimitCheckerComponent) (cmd : CommandPacket) : LimitCheckerComponent :=
  if cmd.opcode = OP_SET_TARGET_ID then { c with staged_target_id_ := toU32 cmd.argument }
  else if cmd.opcode = OP_SET_WARN_LOW then { c with staged_warn_low_ := cmd.argument }
  else if cmd.opcode = OP_SET_WARN_HIGH then { c with staged_warn_high_ := cmd.argument }
  else if cmd.opcode = OP_SET_CRIT_LOW then { c with staged_crit_low_ := cmd.argument }
  else if cmd.opcode = OP_SET_CRIT_HIGH then { c with staged_crit_high_ := cmd.argument }
  else if cmd.opcode = OP_APPLY_LIMITS then c.applyStagedLimits
  else if cmd.opcode = OP_CLEAR_TARGET then c.clearTarget c.staged_target_id_
  else if cmd.opcode = OP_ENABLE then
    { c with enabled_ := true }.publishEvent Severity.INFO (ascii "LIM_ON")
  else if cmd.opcode = OP_DISABLE then
    { c with enabled_ := false }.publishEvent Severity.INFO (ascii "LIM_OFF")
  else c.recordError.publishEvent Severity.WARNING (ascii "LIM_BAD_OP")

/-- Starts the component. -/
def init (c : LimitCheckerComponent) : LimitCheckerComponent :=
  { c with
    rows_ := fun _ => Row.empty
    enabled_ := true
    staged_target_id_ := 0
    staged_warn_low_ := LIMIT_LOW
    staged_warn_high_ := LIMIT_HIGH
    staged_crit_low_ := LIMIT_LOW
    staged_crit_high_ := LIMIT_HIGH
    alarm_count_ := 0
    log := c.log ++ [LimitAction.reset] }.publishEvent Severity.INFO (ascii "LIM_READY")

/-- Executes the commands, then takes the samples, and reports the number of alarms. -/
def step (c : LimitCheckerComponent) (cmds : List CommandPacket) (samples : List (List UInt8))
    (met : UInt32) : LimitCheckerComponent :=
  let c := samples.foldl takeSample (cmds.foldl handleCommand c)
  { c with
    toReporter := c.toReporter.publishTelemetry met (Binary32.ofNat c.alarm_count_.toNat) }

end LimitCheckerComponent

/-- What can happen to the component. -/
inductive LimitCheckerOp where
  | init
  | handleCommand (cmd : CommandPacket)
  | takeSample (raw : List UInt8)
  | step (cmds : List CommandPacket) (samples : List (List UInt8)) (met : UInt32)
  /-- Others send to and take from the queues behind the outputs. -/
  | outputs (event_out : Option (InputPort EventPacket DEFAULT_QUEUE_DEPTH))
    (telemetry_out : Option (InputPort (List UInt8) DEFAULT_QUEUE_DEPTH))

namespace LimitCheckerComponent

/-- The next state. -/
def apply (c : LimitCheckerComponent) : LimitCheckerOp → LimitCheckerComponent
  | LimitCheckerOp.init => c.init
  | LimitCheckerOp.handleCommand cmd => c.handleCommand cmd
  | LimitCheckerOp.takeSample raw => c.takeSample raw
  | LimitCheckerOp.step cmds samples met => c.step cmds samples met
  | LimitCheckerOp.outputs event_out telemetry_out =>
    { c with toReporter := c.reconnect event_out telemetry_out }

end LimitCheckerComponent

/-! ## What the log tells -/

namespace LimitAction

/-- The level of a component after an action: its limits are applied at no level. -/
def levelAfter (target_id : UInt32) (level : AlarmLevel) : LimitAction → AlarmLevel
  | reset => AlarmLevel.NONE
  | applied target => if target = target_id then AlarmLevel.NONE else level
  | evaluated target level' _ => if target = target_id then level' else level

/-- The level of the last sample of a component since its limits were last applied. -/
def previousLevel (target_id : UInt32) (log : List LimitAction) : AlarmLevel :=
  log.foldl (levelAfter target_id) AlarmLevel.NONE

/-- One more entry changes the previous level as it says. -/
@[simp] theorem previousLevel_concat (target_id : UInt32) (log : List LimitAction)
    (action : LimitAction) :
    previousLevel target_id (log ++ [action]) =
      levelAfter target_id (previousLevel target_id log) action := List.foldl_concat ..

/-- A new limit forgets the level. -/
theorem previousLevel_applied (target_id : UInt32) (log : List LimitAction) :
    previousLevel target_id (log ++ [applied target_id]) = AlarmLevel.NONE := by
  rw [previousLevel_concat, levelAfter, if_pos rfl]

/-- An evaluation is the previous level of the next one. -/
theorem previousLevel_evaluated (target_id : UInt32) (log : List LimitAction) (level : AlarmLevel)
    (alarm : Bool) :
    previousLevel target_id (log ++ [evaluated target_id level alarm]) = level := by
  rw [previousLevel_concat, levelAfter, if_pos rfl]

/-- The number of alarms after an action. -/
def alarmsAfter (n : ℕ) : LimitAction → ℕ
  | reset => 0
  | evaluated _ _ true => n + 1
  | _ => n

/-- The number of alarms since the last reset. -/
def alarms (log : List LimitAction) : ℕ := log.foldl alarmsAfter 0

/-- One more entry adds the alarm that it says. -/
@[simp] theorem alarms_concat (log : List LimitAction) (action : LimitAction) :
    alarms (log ++ [action]) = alarmsAfter (alarms log) action := List.foldl_concat ..

/-- The event of an alarm. -/
def alarmEvent (id : UInt32) : LimitAction → Option EventPacket
  | evaluated _ AlarmLevel.CRIT true =>
    some (EventPacket.create Severity.CRITICAL id (ascii "LIM_CRIT"))
  | evaluated _ _ true => some (EventPacket.create Severity.WARNING id (ascii "LIM_WARN"))
  | _ => none

/-- A sample raises an alarm exactly when it is not within the limits and at another level than the
one before. -/
def OnEdge (before : List LimitAction) : LimitAction → Prop
  | evaluated target_id level alarm =>
    (alarm = true ↔ level ≠ AlarmLevel.NONE ∧ level ≠ previousLevel target_id before)
  | _ => True

end LimitAction

namespace LimitCheckerComponent

/-- The active rows have pairwise distinct nonzero targets and nested limits. -/
structure RowsValid (c : LimitCheckerComponent) : Prop where
  distinct : Slots.DistinctKeys Row.active Row.target_id c.rows_
  row_valid : ∀ i, (c.rows_ i).active = true → (c.rows_ i).target_id ≠ 0 ∧ (c.rows_ i).Ordered

/-- An event about an alarm. -/
def isAlarm (e : EventPacket) : Bool :=
  decide (e.message = ascii "LIM_CRIT" ∨ e.message = ascii "LIM_WARN")

/-- The alarms are those that the history calls for: a row has the level of its last sample, an
alarm is raised where the level changes to one out of limits, and alarms are counted and published
as such. -/
structure AlarmsRight (c : LimitCheckerComponent) : Prop where
  levels : ∀ i, (c.rows_ i).active = true →
    (c.rows_ i).last_level = LimitAction.previousLevel (c.rows_ i).target_id c.log
  history : Logs.Justified LimitAction.OnEdge c.log
  count : c.alarm_count_ = UInt32.ofNat (LimitAction.alarms c.log)
  events : c.published.filter isAlarm = c.log.filterMap (LimitAction.alarmEvent c.getId)

/-! ## Reports -/

/-- Rows, log, and counter are the same, and no alarm was published. -/
structure Reported (c c' : LimitCheckerComponent) : Prop where
  rows_eq : c'.rows_ = c.rows_
  log_eq : c'.log = c.log
  count_eq : c'.alarm_count_ = c.alarm_count_
  id_eq : c'.getId = c.getId
  alarms_eq : c'.published.filter isAlarm = c.published.filter isAlarm

/-- A report keeps the rows valid. -/
theorem RowsValid.of_reported {c c' : LimitCheckerComponent} (h : c.RowsValid)
    (hreport : Reported c c') : c'.RowsValid := by
  refine ⟨?_, ?_⟩
  · rw [hreport.rows_eq]
    exact h.distinct
  · rw [hreport.rows_eq]
    exact h.row_valid

/-- A report keeps the alarms right. -/
theorem AlarmsRight.of_reported {c c' : LimitCheckerComponent} (h : c.AlarmsRight)
    (hreport : Reported c c') : c'.AlarmsRight := by
  refine ⟨?_, ?_, ?_, ?_⟩
  · rw [hreport.rows_eq, hreport.log_eq]
    exact h.levels
  · rw [hreport.log_eq]
    exact h.history
  · rw [hreport.log_eq, hreport.count_eq]
    exact h.count
  · rw [hreport.log_eq, hreport.id_eq, hreport.alarms_eq]
    exact h.events

/-- An event that is not about an alarm. -/
theorem reported_publishEvent (c : LimitCheckerComponent) {severity : UInt32} {msg : Text}
    (hmsg : isAlarm (EventPacket.create severity c.getId msg) = false) :
    Reported c (c.publishEvent severity msg) := by
  refine ⟨rfl, rfl, rfl, (c.toReporter.accounted_publishEvent severity msg).id_eq, ?_⟩
  change (c.published ++ [EventPacket.create severity c.getId msg]).filter isAlarm = _
  rw [List.filter_append, List.filter_cons_of_neg (by rw [hmsg]; nofun), List.filter_nil,
    List.append_nil]

/-- An error and an event that is not about an alarm. -/
theorem reported_error (c : LimitCheckerComponent) {msg : Text}
    (hmsg : isAlarm (EventPacket.create Severity.WARNING c.getId msg) = false) :
    Reported c (c.recordError.publishEvent Severity.WARNING msg) := by
  have hreport := c.recordError.reported_publishEvent hmsg
  exact ⟨hreport.rows_eq, hreport.log_eq, hreport.count_eq, hreport.id_eq, hreport.alarms_eq⟩

/-! ## Writing to a row -/

/-- Writing an active row of a table in order. -/
theorem RowsValid.write {c c' : LimitCheckerComponent} (h : c.RowsValid) {i : Fin MAX_LIMIT_ROWS}
    {row : Row} (hrows : c'.rows_ = Function.update c.rows_ i row)
    (hslot : Slots.slotFor Row.active Row.target_id c.rows_ row.target_id = some i)
    (hrow : row.target_id ≠ 0 ∧ row.Ordered) : c'.RowsValid := by
  refine ⟨?_, ?_⟩
  · rw [hrows]
    exact h.distinct.update hslot
  · rw [hrows]
    exact (Function.forall_update_iff c.rows_ fun _ row => row.active = true →
      row.target_id ≠ 0 ∧ row.Ordered).mpr ⟨fun _ => hrow, fun j _ => h.row_valid j⟩

/-- Writing an active row keeps the levels if the row has the level that the log says. -/
theorem levels_write {c c' : LimitCheckerComponent} (h : c.AlarmsRight) (hvalid : c'.RowsValid)
    {i : Fin MAX_LIMIT_ROWS} {row : Row} {action : LimitAction}
    (hrows : c'.rows_ = Function.update c.rows_ i row) (hlog : c'.log = c.log ++ [action])
    (hactive : row.active = true)
    (hrow : row.last_level = LimitAction.previousLevel row.target_id c'.log)
    (hothers : ∀ target_id level, target_id ≠ row.target_id →
      LimitAction.levelAfter target_id level action = level) (j : Fin MAX_LIMIT_ROWS)
    (hj : (c'.rows_ j).active = true) :
    (c'.rows_ j).last_level = LimitAction.previousLevel (c'.rows_ j).target_id c'.log := by
  have hself : c'.rows_ i = row := by
    rw [hrows, Function.update_self]
  rcases eq_or_ne j i with rfl | hne
  · rw [hself]
    exact hrow
  · -- The other rows have other targets, whose levels the action does not change.
    have htarget : (c'.rows_ j).target_id ≠ row.target_id := fun heq =>
      hne (hvalid.distinct j i hj (hself ▸ hactive) (hself ▸ heq))
    have hsame : c'.rows_ j = c.rows_ j := by
      rw [hrows, Function.update_of_ne hne]
    rw [hlog, LimitAction.previousLevel_concat, hothers _ _ htarget]
    rw [hsame] at hj ⊢
    exact h.levels j hj

/-! ## Commands -/

/-- The slot for the staged limits. -/
def stagedSlot (c : LimitCheckerComponent) : Option (Fin MAX_LIMIT_ROWS) :=
  Slots.slotFor Row.active Row.target_id c.rows_ c.staged_target_id_

/-- Applying is rejected without a target, with limits that are not nested, and without a slot, and
writes to the slot otherwise. -/
theorem applyStagedLimits_cases (c : LimitCheckerComponent) :
    ((c.staged_target_id_ = 0 ∨ ¬c.stagedRow.Ordered ∨ c.stagedSlot = none) ∧
        Reported c c.applyStagedLimits ∧
          Reporter.Accounted 1 c.toReporter c.applyStagedLimits.toReporter) ∨
      (c.staged_target_id_ ≠ 0 ∧ c.stagedRow.Ordered ∧ ∃ i, c.stagedSlot = some i ∧
        c.applyStagedLimits =
          { c with
            rows_ := Function.update c.rows_ i c.stagedRow
            log := c.log ++ [LimitAction.applied c.staged_target_id_] }.publishEvent Severity.INFO
              (ascii "LIM_APPLY")) := by
  have hreject (msg : Text) : Reporter.Accounted 1 c.toReporter
      (c.recordError.publishEvent Severity.WARNING msg).toReporter :=
    c.toReporter.accounted_reject _ _
  have hslot : (c.findRow c.staged_target_id_).or c.allocRow = c.stagedSlot := rfl
  unfold applyStagedLimits
  rw [hslot]
  split_ifs with htarget hordered
  · exact Or.inl ⟨Or.inl htarget, c.reported_error rfl, hreject _⟩
  · rcases c.stagedSlot with _ | i
    · exact Or.inl ⟨Or.inr (Or.inr rfl), c.reported_error rfl, hreject _⟩
    · exact Or.inr ⟨htarget, hordered, i, rfl, rfl⟩
  · exact Or.inl ⟨Or.inr (Or.inl hordered), c.reported_error rfl, hreject _⟩

/-- Table and alarms are in order. -/
def Good (c : LimitCheckerComponent) : Prop := c.RowsValid ∧ c.AlarmsRight

/-- A report keeps rows and alarms. -/
theorem Good.of_reported {c c' : LimitCheckerComponent} (h : c.Good) (hreport : Reported c c') :
    c'.Good := ⟨h.1.of_reported hreport, h.2.of_reported hreport⟩

/-- Applying limits keeps table and alarms in order. -/
theorem Good.applyStagedLimits {c : LimitCheckerComponent} (h : c.Good) :
    c.applyStagedLimits.Good := by
  rcases c.applyStagedLimits_cases with ⟨-, hreport, -⟩ | ⟨htarget, hordered, i, hslot, heq⟩
  · exact h.of_reported hreport
  · rw [heq]
    set d := { c with
      rows_ := Function.update c.rows_ i c.stagedRow
      log := c.log ++ [LimitAction.applied c.staged_target_id_] } with hd
    have hvalid : d.RowsValid := h.1.write rfl hslot ⟨htarget, hordered⟩
    have hright : d.AlarmsRight := by
      refine ⟨?_, ?_, ?_, ?_⟩
      · refine levels_write h.2 hvalid rfl rfl rfl ?_ fun target_id level hne => if_neg hne.symm
        exact (LimitAction.previousLevel_applied c.staged_target_id_ c.log).symm
      · exact Logs.justified_concat.mpr ⟨h.2.history, trivial⟩
      · change c.alarm_count_ = UInt32.ofNat (LimitAction.alarms (c.log ++ [_]))
        rw [LimitAction.alarms_concat]
        exact h.2.count
      · exact h.2.events.trans (Logs.filterMap_concat_of_none rfl c.log).symm
    exact Good.of_reported ⟨hvalid, hright⟩ (d.reported_publishEvent rfl)

/-- Freeing a row keeps table and alarms in order. -/
theorem Good.clearTarget {c : LimitCheckerComponent} (h : c.Good) (target_id : UInt32) :
    (c.clearTarget target_id).Good := by
  unfold LimitCheckerComponent.clearTarget
  split
  · exact h
  · rename_i i _
    set d := { c with rows_ := Function.update c.rows_ i Row.empty } with hd
    -- The freed row is not active, and the others are as before.
    have hrow (P : Row → Prop) (hc : ∀ j, (c.rows_ j).active = true → P (c.rows_ j)) :
        ∀ j, (d.rows_ j).active = true → P (d.rows_ j) :=
      (Function.forall_update_iff c.rows_ fun _ row => row.active = true → P row).mpr
        ⟨nofun, fun j _ => hc j⟩
    have hvalid : d.RowsValid := ⟨h.1.distinct.free rfl i,
      hrow (fun row => row.target_id ≠ 0 ∧ row.Ordered) h.1.row_valid⟩
    have hlevels := hrow (fun row =>
      row.last_level = LimitAction.previousLevel row.target_id c.log) h.2.levels
    have hright : d.AlarmsRight := ⟨hlevels, h.2.history, h.2.count, h.2.events⟩
    exact Good.of_reported ⟨hvalid, hright⟩ (d.reported_publishEvent rfl)

/-- A command keeps table and alarms in order. -/
theorem Good.handleCommand {c : LimitCheckerComponent} (h : c.Good) (cmd : CommandPacket) :
    (c.handleCommand cmd).Good := by
  have hstage {d : LimitCheckerComponent} (hrows : d.rows_ = c.rows_) (hlog : d.log = c.log)
      (hcount : d.alarm_count_ = c.alarm_count_) (hreporter : d.toReporter = c.toReporter) :
      d.Good := by
    refine h.of_reported ⟨hrows, hlog, hcount, ?_, ?_⟩
    · rw [hreporter]
    · rw [hreporter]
  unfold LimitCheckerComponent.handleCommand
  refine iteInduction (fun _ => hstage rfl rfl rfl rfl) fun _ => ?_
  refine iteInduction (fun _ => hstage rfl rfl rfl rfl) fun _ => ?_
  refine iteInduction (fun _ => hstage rfl rfl rfl rfl) fun _ => ?_
  refine iteInduction (fun _ => hstage rfl rfl rfl rfl) fun _ => ?_
  refine iteInduction (fun _ => hstage rfl rfl rfl rfl) fun _ => ?_
  refine iteInduction (fun _ => h.applyStagedLimits) fun _ => ?_
  refine iteInduction (fun _ => h.clearTarget _) fun _ => ?_
  refine iteInduction (fun _ => ?_) fun _ => ?_
  · have hon : Good { c with enabled_ := true } := hstage rfl rfl rfl rfl
    exact hon.of_reported (reported_publishEvent _ rfl)
  refine iteInduction (fun _ => ?_) fun _ => ?_
  · have hoff : Good { c with enabled_ := false } := hstage rfl rfl rfl rfl
    exact hoff.of_reported (reported_publishEvent _ rfl)
  exact h.of_reported (c.reported_error rfl)

/-! ## Samples -/

/-- A sample is evaluated exactly when the checker is enabled, the sample is of another component,
and that component has a row. -/
theorem takeSample_cases (c : LimitCheckerComponent) (raw : List UInt8) :
    let p := Serializer.unpackTelem raw
    ((c.enabled_ = false ∨ p.component_id = c.getId ∨
          ∀ i, (c.rows_ i).active = true → (c.rows_ i).target_id ≠ p.component_id) ∧
        c.takeSample raw = c) ∨
      (c.enabled_ = true ∧ p.component_id ≠ c.getId ∧ ∃ i, (c.rows_ i).active = true ∧
        (c.rows_ i).target_id = p.component_id ∧ c.findRow p.component_id = some i ∧
          c.takeSample raw = c.evaluateSample p) := by
  intro p
  unfold takeSample
  split_ifs with hoff
  · exact Or.inl ⟨Or.inl hoff, rfl⟩
  · rcases eq_or_ne p.component_id c.getId with hown | hown
    · exact Or.inl ⟨Or.inr (Or.inl hown), if_pos hown⟩
    · rcases hfind : c.findRow p.component_id with _ | i
      · have hnone := Slots.first_eq_none_iff.mp hfind
        refine Or.inl ⟨Or.inr (Or.inr fun i hi heq => ?_), ?_⟩
        · have hfalse := hnone i
          rw [hi, heq] at hfalse
          simp at hfalse
        · unfold evaluateSample
          rw [if_neg hown, hfind]
      · -- The row that is found is active and has the component as its target.
        have hrow := Slots.of_first_eq_some hfind
        rw [Bool.and_eq_true, decide_eq_true_eq] at hrow
        exact Or.inr ⟨Bool.eq_true_of_not_eq_false hoff, hown, i, hrow.1, hrow.2, rfl, rfl⟩

/-- The row after a sample. -/
def noted (c : LimitCheckerComponent) (i : Fin MAX_LIMIT_ROWS) (p : TelemetryPacket)
    (alarm : Bool) : LimitCheckerComponent :=
  { c with
    rows_ := Function.update c.rows_ i
      { c.rows_ i with last_level := (c.rows_ i).level p.data_payload }
    log := c.log ++
      [LimitAction.evaluated p.component_id ((c.rows_ i).level p.data_payload) alarm] }

/-- Noting the level of a sample keeps the rows and the levels in order. -/
theorem Good.noted {c : LimitCheckerComponent} (h : c.Good) {p : TelemetryPacket}
    {i : Fin MAX_LIMIT_ROWS} (hfind : c.findRow p.component_id = some i) (alarm : Bool) :
    (c.noted i p alarm).RowsValid ∧ ∀ j, ((c.noted i p alarm).rows_ j).active = true →
      ((c.noted i p alarm).rows_ j).last_level = LimitAction.previousLevel
        ((c.noted i p alarm).rows_ j).target_id (c.noted i p alarm).log := by
  have hrow := Slots.of_first_eq_some hfind
  rw [Bool.and_eq_true, decide_eq_true_eq] at hrow
  have hslot : Slots.slotFor Row.active Row.target_id c.rows_ (c.rows_ i).target_id = some i := by
    unfold findRow at hfind
    unfold Slots.slotFor
    rw [hrow.2, hfind, Option.some_or]
  have hvalid : (c.noted i p alarm).RowsValid := h.1.write rfl hslot (h.1.row_valid i hrow.1)
  refine ⟨hvalid, levels_write h.2 hvalid rfl rfl hrow.1 ?_ fun target_id level hne => ?_⟩
  · change (c.rows_ i).level p.data_payload =
      LimitAction.previousLevel (c.rows_ i).target_id (c.log ++ [_])
    rw [hrow.2, LimitAction.previousLevel_evaluated]
  · exact if_neg fun heq => hne (heq.symm.trans hrow.2.symm)

/-- A sample keeps the alarms in order if it raises one where the level changes to one out of
limits. -/
theorem Good.of_noted {c c' : LimitCheckerComponent} (h : c.Good) {p : TelemetryPacket}
    {i : Fin MAX_LIMIT_ROWS} (hfind : c.findRow p.component_id = some i) {alarm : Bool}
    (halarm : alarm = true ↔ (c.rows_ i).level p.data_payload ≠ AlarmLevel.NONE ∧
      (c.rows_ i).level p.data_payload ≠ (c.rows_ i).last_level)
    (hrows : c'.rows_ = (c.noted i p alarm).rows_) (hlog : c'.log = (c.noted i p alarm).log)
    (hid : c'.getId = c.getId)
    (hcount : c'.alarm_count_ = if alarm then c.alarm_count_ + 1 else c.alarm_count_)
    (hpublished : c'.published.filter isAlarm = c.published.filter isAlarm ++
      (LimitAction.alarmEvent c.getId (LimitAction.evaluated p.component_id
        ((c.rows_ i).level p.data_payload) alarm)).toList) : c'.Good := by
  have hrow := Slots.of_first_eq_some hfind
  rw [Bool.and_eq_true, decide_eq_true_eq] at hrow
  have hprevious : (c.rows_ i).last_level = LimitAction.previousLevel p.component_id c.log := by
    rw [h.2.levels i hrow.1, hrow.2]
  obtain ⟨hvalid, hlevels⟩ := h.noted hfind alarm
  refine ⟨⟨hrows ▸ hvalid.distinct, hrows ▸ hvalid.row_valid⟩, ?_, ?_, ?_, ?_⟩
  · rw [hrows, hlog]
    exact hlevels
  · rw [hlog]
    refine Logs.justified_concat.mpr ⟨h.2.history, ?_⟩
    rw [LimitAction.OnEdge, ← hprevious]
    exact halarm
  · rw [hlog, hcount, LimitCheckerComponent.noted, LimitAction.alarms_concat, h.2.count]
    cases alarm
    · rfl
    · exact (UInt32.ofNat_add _ 1).symm
  · rw [hlog, hid, hpublished, LimitCheckerComponent.noted, List.filterMap_append, h.2.events]
    rcases hevent : LimitAction.alarmEvent c.getId (LimitAction.evaluated p.component_id
      ((c.rows_ i).level p.data_payload) alarm) with _ | event
    · rw [List.filterMap_cons_none hevent]
      rfl
    · rw [List.filterMap_cons_some hevent]
      rfl

/-- Evaluating a sample keeps table and alarms in order and is logged with the level of the
sample. -/
theorem Good.evaluateSample {c : LimitCheckerComponent} (h : c.Good) {p : TelemetryPacket}
    {i : Fin MAX_LIMIT_ROWS} (hown : p.component_id ≠ c.getId)
    (hfind : c.findRow p.component_id = some i) :
    (c.evaluateSample p).Good ∧ ∃ alarm, (c.evaluateSample p).log =
      c.log ++ [LimitAction.evaluated p.component_id ((c.rows_ i).level p.data_payload) alarm] := by
  set level := (c.rows_ i).level p.data_payload with hlevel
  set alarm := decide (¬(level = (c.rows_ i).last_level ∨ level = AlarmLevel.NONE)) with hdecide
  have halarm : alarm = true ↔ level ≠ AlarmLevel.NONE ∧ level ≠ (c.rows_ i).last_level := by
    rw [hdecide, decide_eq_true_eq, not_or]
    exact and_comm
  have heval : c.evaluateSample p =
      if alarm = false then c.noted i p alarm
      else
        let d := { c.noted i p alarm with alarm_count_ := c.alarm_count_ + 1 }
        if level = AlarmLevel.CRIT then d.publishEvent Severity.CRITICAL (ascii "LIM_CRIT")
        else d.publishEvent Severity.WARNING (ascii "LIM_WARN") := by
    unfold LimitCheckerComponent.evaluateSample
    rw [if_neg hown, hfind]
    rfl
  -- In each case the published events grow by what the log says.
  rw [heval]
  rcases halarm' : alarm with _ | _
  · rw [if_pos rfl]
    rw [halarm'] at halarm
    refine ⟨h.of_noted hfind halarm rfl rfl rfl rfl ?_, false, rfl⟩
    have hnone : LimitAction.alarmEvent c.getId
        (LimitAction.evaluated p.component_id level false) = none := by
      cases level <;> rfl
    rw [← hlevel, hnone]
    exact (List.append_nil _).symm
  · rw [if_neg nofun]
    rw [halarm'] at halarm
    dsimp only
    split_ifs with hcrit
    · refine ⟨h.of_noted hfind halarm rfl rfl (Reporter.getId_publishEvent _ _ _) rfl ?_, true, rfl⟩
      rw [← hlevel, hcrit]
      exact List.filter_append ..
    · refine ⟨h.of_noted hfind halarm rfl rfl (Reporter.getId_publishEvent _ _ _) rfl ?_, true, rfl⟩
      have hwarn : LimitAction.alarmEvent c.getId
          (LimitAction.evaluated p.component_id level true) =
            some (EventPacket.create Severity.WARNING c.getId (ascii "LIM_WARN")) := by
        cases hcase : level
        · rfl
        · rfl
        · exact absurd hcase hcrit
      rw [← hlevel, hwarn]
      exact List.filter_append ..

/-- Taking a sample keeps table and alarms in order. -/
theorem Good.takeSample {c : LimitCheckerComponent} (h : c.Good) (raw : List UInt8) :
    (c.takeSample raw).Good := by
  rcases c.takeSample_cases raw with ⟨-, heq⟩ | ⟨-, hown, i, -, -, hfind, heq⟩
  · rw [heq]
    exact h
  · rw [heq]
    exact (h.evaluateSample hown hfind).1

/-! ## Runs -/

/-- A call keeps table and alarms in order. -/
theorem Good.apply {c : LimitCheckerComponent} (h : c.Good) (op : LimitCheckerOp) :
    (c.apply op).Good := by
  cases op with
  | init =>
    -- `init()` frees every row and clears the alarms before it reports.
    set d := { c with
      rows_ := fun _ => Row.empty
      alarm_count_ := 0
      log := c.log ++ [LimitAction.reset] } with hd
    have hfree (i : Fin MAX_LIMIT_ROWS) : (d.rows_ i).active = false := rfl
    have hvalid : d.RowsValid := by
      refine ⟨Slots.DistinctKeys.of_inactive hfree, fun i hi => ?_⟩
      exact absurd (hi.symm.trans (hfree i)) nofun
    have hright : d.AlarmsRight := by
      refine ⟨fun i hi => absurd (hi.symm.trans (hfree i)) nofun,
        Logs.justified_concat.mpr ⟨h.2.history, trivial⟩, ?_, ?_⟩
      · change 0 = UInt32.ofNat (LimitAction.alarms (c.log ++ [_]))
        rw [LimitAction.alarms_concat]
        rfl
      · exact h.2.events.trans (Logs.filterMap_concat_of_none rfl c.log).symm
    have hgood : d.Good := ⟨hvalid, hright⟩
    have hreport : Reported d (d.publishEvent Severity.INFO (ascii "LIM_READY")) :=
      d.reported_publishEvent rfl
    exact hgood.of_reported ⟨rfl, rfl, rfl, hreport.id_eq, hreport.alarms_eq⟩
  | handleCommand cmd => exact h.handleCommand cmd
  | takeSample raw => exact h.takeSample raw
  | step cmds samples met =>
    have hcommand (d : LimitCheckerComponent) (cmd : CommandPacket) (hd : d.Good) :
        (d.handleCommand cmd).Good := hd.handleCommand cmd
    have hsample (d : LimitCheckerComponent) (raw : List UInt8) (hd : d.Good) :
        (d.takeSample raw).Good := hd.takeSample raw
    have hsamples := run_invariant hsample (run_invariant hcommand h cmds) samples
    refine hsamples.of_reported ⟨rfl, rfl, rfl, ?_, rfl⟩
    exact (Reporter.accounted_publishTelemetry _ _ _).id_eq
  | outputs event_out telemetry_out => exact h.of_reported ⟨rfl, rfl, rfl, rfl, rfl⟩

/-- What applying limits does to the table: the staged limits are written to the row of the target
or to a free one, or are rejected with an error. -/
structure AppliesLimits (c c' : LimitCheckerComponent) : Prop where
  accepts : ∀ j, c.staged_target_id_ ≠ 0 → c.stagedRow.Ordered →
    (c.rows_ j).active = false ∨ (c.rows_ j).target_id = c.staged_target_id_ →
      ∃ i, ((c.rows_ i).active = false ∨ (c.rows_ i).target_id = c.staged_target_id_) ∧
        c'.rows_ = Function.update c.rows_ i c.stagedRow
  rejects : c.staged_target_id_ = 0 ∨ ¬c.stagedRow.Ordered ∨
      (∀ i, (c.rows_ i).active = true ∧ (c.rows_ i).target_id ≠ c.staged_target_id_) →
    c'.rows_ = c.rows_ ∧ Reporter.Accounted 1 c.toReporter c'.toReporter

/-- What a sample does: nothing, or it is evaluated with the limits of its component. -/
structure Samples (c : LimitCheckerComponent) (p : TelemetryPacket) (c' : LimitCheckerComponent) :
    Prop where
  ignores : (c.enabled_ = false ∨ p.component_id = c.getId ∨
      ∀ i, (c.rows_ i).active = true → (c.rows_ i).target_id ≠ p.component_id) → c' = c
  evaluates : ∀ i, c.enabled_ = true → p.component_id ≠ c.getId → (c.rows_ i).active = true →
    (c.rows_ i).target_id = p.component_id → ∃ alarm, c'.log =
      c.log ++ [LimitAction.evaluated p.component_id ((c.rows_ i).level p.data_payload) alarm]

/-- Every apply is accepted or rejected. -/
theorem appliesLimits (c : LimitCheckerComponent) : AppliesLimits c c.applyStagedLimits := by
  rcases c.applyStagedLimits_cases with ⟨hreject, hreport, haccounted⟩ |
    ⟨htarget, hordered, i, hslot, heq⟩
  · refine ⟨fun j htarget hordered hj => ?_, fun _ => ⟨hreport.rows_eq, haccounted⟩⟩
    rcases hreject with hzero | hbad | hslot
    · exact absurd hzero htarget
    · exact absurd hordered hbad
    · have hfull := Slots.slotFor_eq_none_iff.mp hslot j
      rcases hj with hfree | hkey
      · exact absurd (hfree.symm.trans hfull.1) nofun
      · exact absurd hkey hfull.2
  · have hi : (c.rows_ i).active = false ∨ (c.rows_ i).target_id = c.staged_target_id_ := by
      rcases Slots.slotFor_eq_some hslot with ⟨-, hkey⟩ | ⟨hfree, -⟩
      · exact Or.inr hkey
      · exact Or.inl hfree
    rw [heq]
    refine ⟨fun _ _ _ _ => ⟨i, hi, rfl⟩, ?_⟩
    rintro (hzero | hbad | hfull)
    · exact absurd hzero htarget
    · exact absurd hordered hbad
    · rw [stagedSlot, Slots.slotFor_eq_none_iff.mpr hfull] at hslot
      exact absurd hslot nofun

/-- Every sample is ignored or evaluated. -/
theorem Good.samples {c : LimitCheckerComponent} (h : c.Good) (raw : List UInt8) :
    Samples c (Serializer.unpackTelem raw) (c.takeSample raw) := by
  rcases c.takeSample_cases raw with ⟨hignore, heq⟩ | ⟨hon, hown, i, hi, hkey, hfind, heq⟩
  · refine ⟨fun _ => heq, fun i hon hown hi hkey => ?_⟩
    rcases hignore with hoff | hself | hnone
    · exact absurd (hoff.symm.trans hon) nofun
    · exact absurd hself hown
    · exact absurd hkey (hnone i hi)
  · rw [heq]
    refine ⟨?_, fun j _ _ hj hkey' => ?_⟩
    · rintro (hoff | hself | hnone)
      · exact absurd (hoff.symm.trans hon) nofun
      · exact absurd hself hown
      · exact absurd hkey (hnone i hi)
    · -- There is only one row for the component.
      rw [h.1.distinct j i hj hi (hkey'.trans hkey.symm)]
      exact (h.evaluateSample hown hfind).2

/-- Rows are valid and alarms right after every run. -/
theorem good_run (base : Component) (ops : List LimitCheckerOp) :
    (run apply (create base) ops).Good := by
  have hcreate : (create base).Good := by
    have hfree (i : Fin MAX_LIMIT_ROWS) : ((create base).rows_ i).active = false := rfl
    have hnone (i : Fin MAX_LIMIT_ROWS) : ((create base).rows_ i).active ≠ true := nofun
    exact ⟨⟨Slots.DistinctKeys.of_inactive hfree, fun i hi => absurd hi (hnone i)⟩,
      ⟨fun i hi => absurd hi (hnone i), Logs.Justified.nil, rfl, rfl⟩⟩
  have happly (d : LimitCheckerComponent) (op : LimitCheckerOp) (hd : d.Good) :
      (d.apply op).Good := hd.apply op
  exact run_invariant happly hcreate ops

/-- In every run the table is in order, a rejected apply changes no row, samples of unknown
components, of the checker itself, and of a disabled checker change nothing, and the alarms are
those that the history of the samples calls for. -/
theorem limit_alarms (base : Component) (ops : List LimitCheckerOp) :
    let c := run apply (create base) ops
    c.RowsValid ∧ c.AlarmsRight ∧
      (∀ target argument, AppliesLimits c (c.handleCommand ⟨target, OP_APPLY_LIMITS, argument⟩)) ∧
        ∀ raw, Samples c (Serializer.unpackTelem raw) (c.takeSample raw) := by
  intro c
  have hgood : c.Good := good_run base ops
  exact ⟨hgood.1, hgood.2, fun _ _ => c.appliesLimits, hgood.samples⟩

/-! ## Samples out of limits -/

end LimitCheckerComponent

/-- With nested limits, the levels below are given to values inside the limits only, exactly for the
values that are numbers. -/
theorem Row.Ordered.level_iff {row : Row} (h : row.Ordered) (v : Binary32) :
    ((row.level v = AlarmLevel.NONE → row.warn_low < v ∧ v < row.warn_high) ∧
        (row.level v ≠ AlarmLevel.CRIT → row.crit_low < v ∧ v < row.crit_high)) ↔ ¬v.IsNaN := by
  obtain ⟨hlow, hwarn, hhigh⟩ := h
  constructor
  · rintro ⟨hnone, -⟩ hnan
    -- No comparison with a NaN holds, so none of them raises the level.
    have hbelow (a : Binary32) : ¬v ≤ a := fun hle => hle.1 hnan
    have habove (a : Binary32) : ¬a ≤ v := fun hle => hle.2.1 hnan
    have hlevel : row.level v = AlarmLevel.NONE := by
      unfold Row.level
      rw [if_neg (not_or.mpr ⟨hbelow _, habove _⟩), if_neg (not_or.mpr ⟨hbelow _, habove _⟩)]
    exact (hnone hlevel).1.2.1 hnan
  · intro hnan
    have hcrit (hlevel : row.level v ≠ AlarmLevel.CRIT) :
        ¬(v ≤ row.crit_low ∨ row.crit_high ≤ v) := fun hout => hlevel (if_pos hout)
    have hinside (hlevel : row.level v = AlarmLevel.NONE) :
        ¬(v ≤ row.warn_low ∨ row.warn_high ≤ v) := fun hout => by
      have hnotCrit : row.level v ≠ AlarmLevel.CRIT := by
        rw [hlevel]
        decide
      rw [Row.level, if_neg (hcrit hnotCrit), if_pos hout] at hlevel
      cases hlevel
    constructor
    · intro hlevel
      obtain ⟨hbelow, habove⟩ := not_or.mp (hinside hlevel)
      exact ⟨Binary32.lt_of_not_le hnan hwarn.1 hbelow, Binary32.lt_of_not_le hwarn.2.1 hnan habove⟩
    · intro hlevel
      obtain ⟨hbelow, habove⟩ := not_or.mp (hcrit hlevel)
      exact ⟨Binary32.lt_of_not_le hnan hlow.1 hbelow, Binary32.lt_of_not_le hhigh.2.1 hnan habove⟩

namespace LimitCheckerComponent

/-- The row of the component gets the level of the sample. -/
theorem row_evaluateSample {c : LimitCheckerComponent} {p : TelemetryPacket}
    {i : Fin MAX_LIMIT_ROWS} (hown : p.component_id ≠ c.getId)
    (hfind : c.findRow p.component_id = some i) :
    (c.evaluateSample p).rows_ i =
      { c.rows_ i with last_level := (c.rows_ i).level p.data_payload } := by
  have hrows : (c.evaluateSample p).rows_ = (c.noted i p false).rows_ := by
    unfold evaluateSample
    rw [if_neg hown, hfind]
    dsimp only
    split_ifs <;> rfl
  rw [hrows]
  exact Function.update_self i _ c.rows_

/-- A sample outside its limits does not pass as inside. In every reachable table, evaluating a
sample sets the row to no alarm only if the value is strictly inside the warning limits, and to less
than a critical one only if it is strictly inside the critical limits, exactly when the value is no
NaN. -/
theorem sample_classified_iff (base : Component) (ops : List LimitCheckerOp) (p : TelemetryPacket)
    (i : Fin MAX_LIMIT_ROWS) :
    let c := run apply (create base) ops
    p.component_id ≠ c.getId → c.findRow p.component_id = some i →
      let row := (c.evaluateSample p).rows_ i
      ((row.last_level = AlarmLevel.NONE →
            row.warn_low < p.data_payload ∧ p.data_payload < row.warn_high) ∧
          (row.last_level ≠ AlarmLevel.CRIT →
            row.crit_low < p.data_payload ∧ p.data_payload < row.crit_high)) ↔
        ¬p.data_payload.IsNaN := by
  intro c hown hfind row
  have hrow : row = { c.rows_ i with last_level := (c.rows_ i).level p.data_payload } :=
    row_evaluateSample hown hfind
  have hactive := Slots.of_first_eq_some hfind
  rw [Bool.and_eq_true] at hactive
  rw [hrow]
  exact (((good_run base ops).1.row_valid i hactive.1).2).level_iff p.data_payload

/-- Limits for component 7 are applied. -/
def limiting : List LimitCheckerOp :=
  LimitCheckerOp.init :: ([(OP_SET_TARGET_ID, 7), (OP_SET_CRIT_LOW, 0), (OP_SET_WARN_LOW, 10),
    (OP_SET_WARN_HIGH, 20), (OP_SET_CRIT_HIGH, 30), (OP_APPLY_LIMITS, 0)].map fun cmd =>
      LimitCheckerOp.handleCommand ⟨47, cmd.1, Binary32.ofNat cmd.2⟩)

/-- A checker with these limits. -/
def limited : LimitCheckerComponent :=
  run apply (create (Component.create (ascii "LimitChecker") 47)) limiting

/-- A sample between the upper limits. -/
theorem sample_classified_iff_warn :
    let row := (limited.evaluateSample ⟨0, 7, Binary32.ofNat 25⟩).rows_ ⟨0, by decide⟩
    row.last_level ≠ AlarmLevel.CRIT →
      row.crit_low < Binary32.ofNat 25 ∧ Binary32.ofNat 25 < row.crit_high := by
  have hown : (7 : UInt32) ≠ limited.getId := by decide +kernel
  have hfind : limited.findRow 7 = some ⟨0, by decide⟩ := by decide +kernel
  have hnumber : ¬(Binary32.ofNat 25).IsNaN := by decide +kernel
  exact ((sample_classified_iff (Component.create (ascii "LimitChecker") 47) limiting
    ⟨0, 7, Binary32.ofNat 25⟩ ⟨0, by decide⟩ hown hfind).mpr hnumber).2

/-- A NaN sets the row to no alarm. -/
theorem nan_sample_silent :
    let row := (limited.evaluateSample ⟨0, 7, Binary32.nan⟩).rows_ ⟨0, by decide⟩
    limited.findRow 7 = some ⟨0, by decide⟩ ∧ row.active = true ∧
      row.last_level = AlarmLevel.NONE ∧ ¬row.warn_low < Binary32.nan ∧
      ¬row.crit_low < Binary32.nan := by
  decide +kernel

end LimitCheckerComponent

end DeltaV
