import DeltaV.FloatWords
import DeltaV.Lib.Logs
import DeltaV.Lib.Runs
import DeltaV.Lib.Slots
import DeltaV.Reporter

/-!
# The absolute and relative sequencer

`AtsRtsSequencerComponent` keeps commands that wait for a mission time, for a UTC time, or for an
event and a delay after it. Entries are committed from a staging area, and while the sequencer is
armed, events start the delays of the entries that wait for them and due entries are sent. In every
run each entry is sent as committed, at most once, while armed, and not before its time
(`sequences_safe`).
-/

namespace DeltaV

/-- What an entry waits for. -/
inductive TriggerType where
  | ABS_MET_MS
  | ABS_UTC_SEC
  | REL_EVENT_DELAY_MS
deriving DecidableEq, Repr

/-- A slot of the table. The trigger value is a mission time in ms, a UTC time in seconds, or a
delay in ms. -/
structure Entry where
  active : Bool
  waiting_event : Bool
  trigger : TriggerType
  event_source : UInt32
  trigger_value : UInt64
  cmd : CommandPacket
deriving DecidableEq, Repr

/-- A free slot. -/
def Entry.empty : Entry := ⟨false, false, TriggerType.ABS_MET_MS, 0, 0, default⟩

/-- Whether the entry waits for an event of the source; the source `0` stands for all sources. -/
def Entry.waitsFor (e : Entry) (source_id : UInt32) : Bool :=
  e.active && e.waiting_event && decide (e.event_source = 0 ∨ e.event_source = source_id)

/-- The entry when its event occurs: the delay becomes a mission time. -/
def Entry.start (e : Entry) (now_met : UInt64) : Entry :=
  { e with
    waiting_event := false
    trigger_value := now_met + e.trigger_value
    trigger := TriggerType.ABS_MET_MS }

/-- The size of the table. -/
def MAX_SEQUENCE_ENTRIES : ℕ := 32

/-- What a commit takes from the staging area. -/
structure Sequence where
  cmd : CommandPacket
  trigger : TriggerType
  event_source : UInt32
  time_word : UInt32
deriving DecidableEq, Repr

/-- An entry as committed. -/
def Sequence.entry (s : Sequence) : Entry :=
  { active := true
    waiting_event := decide (s.trigger = TriggerType.REL_EVENT_DELAY_MS)
    trigger := s.trigger
    event_source := s.event_source
    trigger_value := s.time_word.toUInt64
    cmd := s.cmd }

/-- What was done with the table. -/
inductive AtsAction where
  | committed (slot : Fin MAX_SEQUENCE_ENTRIES) (sequence : Sequence)
  | cleared
  | armed (on : Bool)
  /-- An event was processed while the sequencer was armed. -/
  | heard (source_id : UInt32) (met_ms : ℕ)
  | offered (slot : Fin MAX_SEQUENCE_ENTRIES) (cmd : CommandPacket) (met_ms utc_sec : ℕ)
deriving DecidableEq

/-- The two clocks that the sequencer reads. The mission time is a signed count of 64 bits that
starts at zero. -/
structure Clock where
  met_ms : ℕ
  utc_ms : ℕ
  met_lt : met_ms < 2^63

/-- Time passes; the mission time stays a count of 64 bits. -/
def Clock.tick (t : Clock) (met_ms utc_ms : ℕ) : Clock where
  met_ms := min (t.met_ms + met_ms) (2^63 - 1)
  utc_ms := t.utc_ms + utc_ms
  met_lt := lt_of_le_of_lt (min_le_right _ _) (by norm_num)

/-- The sequencer. -/
structure AtsRtsSequencerComponent extends Commander where
  entries_ : Fin MAX_SEQUENCE_ENTRIES → Entry
  staged_cmd_ : CommandPacket
  staged_trigger_ : TriggerType
  staged_time_hi16_ : UInt16
  staged_time_lo16_ : UInt16
  staged_event_source_ : UInt32
  armed_ : Bool
  clock : Clock
  /-- What was done with the table, in order. -/
  log : List AtsAction

namespace AtsRtsSequencerComponent

def OP_SET_TARGET : UInt32 := 1

def OP_SET_OPCODE : UInt32 := 2

def OP_SET_ARGUMENT : UInt32 := 3

def OP_SET_TRIGGER_TYPE : UInt32 := 4

def OP_SET_TIME_HI16 : UInt32 := 5

def OP_SET_TIME_LO16 : UInt32 := 6

def OP_SET_EVENT_SOURCE : UInt32 := 7

def OP_COMMIT_ENTRY : UInt32 := 8

def OP_ARM : UInt32 := 9

def OP_DISARM : UInt32 := 10

def OP_CLEAR : UInt32 := 11

/-- A component as constructed. -/
def create (base : Component) : AtsRtsSequencerComponent :=
  { Commander.create base with
    entries_ := fun _ => Entry.empty
    staged_cmd_ := default
    staged_trigger_ := TriggerType.ABS_MET_MS
    staged_time_hi16_ := 0
    staged_time_lo16_ := 0
    staged_event_source_ := 0
    armed_ := false
    clock := ⟨0, 0, by norm_num⟩
    log := [] }

/-- Counts one error. -/
def recordError (c : AtsRtsSequencerComponent) : AtsRtsSequencerComponent :=
  { c with toCommander := c.toCommander.recordError }

/-- Sends an event. -/
def publishEvent (c : AtsRtsSequencerComponent) (severity : UInt32) (msg : Text) :
    AtsRtsSequencerComponent :=
  { c with toCommander := c.toCommander.publishEvent severity msg }

/-- The trigger type of a number. -/
def toTriggerType (raw : UInt32) : TriggerType :=
  if raw = 1 then TriggerType.ABS_UTC_SEC
  else if raw = 2 then TriggerType.REL_EVENT_DELAY_MS
  else TriggerType.ABS_MET_MS

/-- Frees all slots. -/
def clearAll (c : AtsRtsSequencerComponent) : AtsRtsSequencerComponent :=
  { c with entries_ := fun _ => Entry.empty, log := c.log ++ [AtsAction.cleared] }

/-- Changes whether the sequencer is armed. -/
def setArmed (c : AtsRtsSequencerComponent) (on : Bool) : AtsRtsSequencerComponent :=
  { c with armed_ := on, log := c.log ++ [AtsAction.armed on] }

/-- The staging area. -/
def staged (c : AtsRtsSequencerComponent) : Sequence :=
  { cmd := c.staged_cmd_
    trigger := c.staged_trigger_
    event_source := c.staged_event_source_
    time_word := (c.staged_time_hi16_.toUInt32 <<< 16) ||| c.staged_time_lo16_.toUInt32 }

/-- Writes the staging area to the first free slot. -/
def commitEntry (c : AtsRtsSequencerComponent) : AtsRtsSequencerComponent :=
  match Slots.first (fun e => !e.active) c.entries_ with
  | none => c.recordError.publishEvent Severity.WARNING (ascii "ATSRTS_FULL")
  | some i =>
    { c with
      entries_ := Function.update c.entries_ i c.staged.entry
      log := c.log ++ [AtsAction.committed i c.staged] }.publishEvent Severity.INFO
        (ascii "ATSRTS_COMMIT")

/-- Executes a command. -/
def handleCommand (c : AtsRtsSequencerComponent) (cmd : CommandPacket) : AtsRtsSequencerComponent :=
  let argument := cmd.argument
  if cmd.opcode = OP_SET_TARGET then
    { c with staged_cmd_ := { c.staged_cmd_ with target_id := toU32 argument } }
  else if cmd.opcode = OP_SET_OPCODE then
    { c with staged_cmd_ := { c.staged_cmd_ with opcode := toU32 argument } }
  else if cmd.opcode = OP_SET_ARGUMENT then
    { c with staged_cmd_ := { c.staged_cmd_ with argument := argument } }
  else if cmd.opcode = OP_SET_TRIGGER_TYPE then
    { c with staged_trigger_ := toTriggerType (toU32 argument) }
  else if cmd.opcode = OP_SET_TIME_HI16 then { c with staged_time_hi16_ := toU16 argument }
  else if cmd.opcode = OP_SET_TIME_LO16 then { c with staged_time_lo16_ := toU16 argument }
  else if cmd.opcode = OP_SET_EVENT_SOURCE then { c with staged_event_source_ := toU32 argument }
  else if cmd.opcode = OP_COMMIT_ENTRY then c.commitEntry
  else if cmd.opcode = OP_ARM then (c.setArmed true).publishEvent Severity.INFO (ascii "ATSRTS_ARM")
  else if cmd.opcode = OP_DISARM then
    (c.setArmed false).publishEvent Severity.INFO (ascii "ATSRTS_DISARM")
  else if cmd.opcode = OP_CLEAR then c.clearAll.publishEvent Severity.INFO (ascii "ATSRTS_CLEAR")
  else c.recordError.publishEvent Severity.WARNING (ascii "ATSRTS_BAD_OP")

/-- Starts the delay of one slot if it waits for the event. -/
def startDelay (source_id : UInt32) (now_met : UInt64) (c : AtsRtsSequencerComponent)
    (i : Fin MAX_SEQUENCE_ENTRIES) : AtsRtsSequencerComponent :=
  let e := c.entries_ i
  if e.waitsFor source_id then
    { c with entries_ := Function.update c.entries_ i (e.start now_met) }.publishEvent Severity.INFO
      (ascii "ATSRTS_RTS_ARM")
  else c

/-- Processes an event. -/
def onEvent (c : AtsRtsSequencerComponent) (source_id : UInt32) : AtsRtsSequencerComponent :=
  if c.armed_ = false then c
  else
    let heard := { c with log := c.log ++ [AtsAction.heard source_id c.clock.met_ms] }
    (List.finRange MAX_SEQUENCE_ENTRIES).foldl (startDelay source_id (UInt64.ofNat c.clock.met_ms))
      heard

/-- Whether the time of an entry has come. -/
def isDue (e : Entry) (met_ms utc_sec : ℕ) : Bool :=
  match e.trigger with
  | TriggerType.ABS_MET_MS => decide (e.trigger_value.toNat ≤ met_ms)
  | TriggerType.ABS_UTC_SEC => decide (e.trigger_value.toNat ≤ utc_sec)
  | TriggerType.REL_EVENT_DELAY_MS => decide (e.trigger_value.toNat ≤ met_ms)

/-- Sends the command of one slot if it is due. -/
def executeEntry (others : ℕ → CommandPort → CommandPort) (met_ms utc_sec : ℕ)
    (c : AtsRtsSequencerComponent) (i : Fin MAX_SEQUENCE_ENTRIES) : AtsRtsSequencerComponent :=
  let e := c.entries_ i
  if e.active && !e.waiting_event && isDue e met_ms utc_sec then
    { c with
      toCommander := c.sendReported others e.cmd (ascii "ATSRTS_SEND_FAIL") (ascii "ATSRTS_SENT")
      entries_ := Function.update c.entries_ i { e with active := false }
      log := c.log ++ [AtsAction.offered i e.cmd met_ms utc_sec] }
  else c

/-- Time passes. -/
def tick (c : AtsRtsSequencerComponent) (time : ℕ × ℕ) : AtsRtsSequencerComponent :=
  { c with clock := c.clock.tick time.1 time.2 }

/-- Sends the commands that are due; some time passes between reading the mission time and UTC. -/
def executeDueEntries (others : ℕ → CommandPort → CommandPort) (c : AtsRtsSequencerComponent)
    (time : ℕ × ℕ) : AtsRtsSequencerComponent :=
  if c.armed_ = false then c
  else
    let met_ms := c.clock.met_ms
    let c := c.tick time
    let utc_sec := c.clock.utc_ms / 1000
    (List.finRange MAX_SEQUENCE_ENTRIES).foldl (executeEntry others met_ms utc_sec) c

/-- The number of active entries. -/
def activeCount (c : AtsRtsSequencerComponent) : ℕ := Slots.count Entry.active c.entries_

/-- Sends the number of active entries. -/
def report (c : AtsRtsSequencerComponent) : AtsRtsSequencerComponent :=
  { c with
    toCommander := c.toCommander.publishTelemetry (UInt32.ofNat c.clock.met_ms)
      (Binary32.ofNat c.activeCount) }

/-- Starts the component. -/
def init (c : AtsRtsSequencerComponent) : AtsRtsSequencerComponent :=
  { c.clearAll.setArmed false with
    staged_cmd_ := ⟨200, 1, Binary32.ofNat 0⟩
    staged_trigger_ := TriggerType.ABS_MET_MS
    staged_time_hi16_ := 0
    staged_time_lo16_ := 0
    staged_event_source_ := 0 }.publishEvent Severity.INFO (ascii "ATSRTS_READY")

/-- Executes the commands, processes the events, sends the commands that are due, and reports; time
passes before each of these. -/
def step (others : ℕ → CommandPort → CommandPort) (c : AtsRtsSequencerComponent)
    (cmds : List CommandPacket) (events : List ((ℕ × ℕ) × UInt32)) (time time' time'' : ℕ × ℕ) :
    AtsRtsSequencerComponent :=
  let c := cmds.foldl handleCommand c
  let c := events.foldl (fun c event => (c.tick event.1).onEvent event.2) c
  (((c.tick time).executeDueEntries others time').tick time'').report

end AtsRtsSequencerComponent

/-- What can happen to the component. A step is several of these operations, with time passing
between them. -/
inductive AtsOp where
  | init
  | tick (time : ℕ × ℕ)
  | handleCommand (cmd : CommandPacket)
  | onEvent (source_id : UInt32)
  | executeDueEntries (time : ℕ × ℕ)
  | report
  /-- Others send to and take from the queues behind the reporting outputs. -/
  | outputs (event_out : Option (InputPort EventPacket DEFAULT_QUEUE_DEPTH))
    (telemetry_out : Option (InputPort (List UInt8) DEFAULT_QUEUE_DEPTH))

namespace AtsRtsSequencerComponent

/-- The next state. -/
def apply (others : ℕ → CommandPort → CommandPort) (c : AtsRtsSequencerComponent) :
    AtsOp → AtsRtsSequencerComponent
  | AtsOp.init => c.init
  | AtsOp.tick time => c.tick time
  | AtsOp.handleCommand cmd => c.handleCommand cmd
  | AtsOp.onEvent source_id => c.onEvent source_id
  | AtsOp.executeDueEntries time => c.executeDueEntries others time
  | AtsOp.report => c.report
  | AtsOp.outputs event_out telemetry_out =>
    { c with toReporter := c.reconnect event_out telemetry_out }

/-- A step is a run of its operations. -/
theorem step_eq_run (others : ℕ → CommandPort → CommandPort) (c : AtsRtsSequencerComponent)
    (cmds : List CommandPacket) (events : List ((ℕ × ℕ) × UInt32)) (time time' time'' : ℕ × ℕ) :
    c.step others cmds events time time' time'' = run (apply others) c
      (cmds.map AtsOp.handleCommand ++
        (events.flatMap (fun event => [AtsOp.tick event.1, AtsOp.onEvent event.2]) ++
          [AtsOp.tick time, AtsOp.executeDueEntries time', AtsOp.tick time'', AtsOp.report])) := by
  have hevents (d : AtsRtsSequencerComponent) :
      events.foldl (fun c event => (c.tick event.1).onEvent event.2) d = run (apply others) d
        (events.flatMap fun event => [AtsOp.tick event.1, AtsOp.onEvent event.2]) := by
    induction events generalizing d with
    | nil => rfl
    | cons event events ih => exact ih ((d.tick event.1).onEvent event.2)
  have hcmds : cmds.foldl handleCommand c =
      run (apply others) c (cmds.map AtsOp.handleCommand) := by
    rw [run, List.foldl_map]
    rfl
  rw [run_append, run_append, ← hcmds, ← hevents]
  rfl

end AtsRtsSequencerComponent

/-! ## What the log tells -/

namespace AtsAction

/-- Whether the action concerns a slot. -/
def touches (slot : Fin MAX_SEQUENCE_ENTRIES) : AtsAction → Bool
  | committed i _ => decide (i = slot)
  | cleared => true
  | offered i _ _ _ => decide (i = slot)
  | _ => false

/-- Whether the sequencer is armed. -/
def isArmed (log : List AtsAction) : Bool :=
  log.foldl (fun on action => match action with
    | armed on' => on'
    | _ => on) false

/-- The mission time of an event from the source; the source `0` stands for all sources. -/
def heardAt (event_source : UInt32) : AtsAction → Option ℕ
  | heard source_id met_ms =>
    if event_source = 0 ∨ event_source = source_id then some met_ms else none
  | _ => none

/-- The mission time of the first event from the source. -/
def firstHeard (event_source : UInt32) (log : List AtsAction) : Option ℕ :=
  log.findSome? (heardAt event_source)

/-- The command that was offered. -/
def offeredCommand : AtsAction → Option CommandPacket
  | offered _ cmd _ _ => some cmd
  | _ => none

/-- Whether the time of a sequence has come, given what has happened since its commit. -/
def Released (s : Sequence) (since : List AtsAction) (met_ms utc_sec : ℕ) : Prop :=
  match s.trigger with
  | TriggerType.ABS_MET_MS => s.time_word.toNat ≤ met_ms
  | TriggerType.ABS_UTC_SEC => s.time_word.toNat ≤ utc_sec
  | TriggerType.REL_EVENT_DELAY_MS =>
    ∃ met, firstHeard s.event_source since = some met ∧ met + s.time_word.toNat ≤ met_ms

/-- A command may be offered while the sequencer is armed, if the last thing that was done with its
slot is that it was committed there, and its time has come since. -/
def Safe (before : List AtsAction) : AtsAction → Prop
  | offered slot cmd met_ms utc_sec => isArmed before = true ∧
    ∃ s, Logs.last (touches slot) before = some (committed slot s) ∧ s.cmd = cmd ∧
      Released s (Logs.since (touches slot) before) met_ms utc_sec
  | heard _ _ => isArmed before = true
  | _ => True

/-- One more entry in the log is what has been heard first only if nothing was heard before it. -/
theorem firstHeard_concat (event_source : UInt32) (log : List AtsAction) (action : AtsAction) :
    firstHeard event_source (log ++ [action]) =
      (firstHeard event_source log).or (heardAt event_source action) := by
  rw [firstHeard, List.findSome?_append, List.findSome?_singleton, firstHeard]

/-- One more entry in the log decides whether the table is armed, or leaves it as it was. -/
theorem isArmed_concat (log : List AtsAction) (action : AtsAction) :
    isArmed (log ++ [action]) = match action with
      | armed on => on
      | _ => isArmed log := List.foldl_concat ..

end AtsAction

/-- What has become of a sequence in its slot, given what has happened since its commit: it is as
committed, or the first event from its source has started its delay. -/
inductive Sequence.Holds (s : Sequence) (since : List AtsAction) : Entry → Prop where
  | committed (h : s.trigger = TriggerType.REL_EVENT_DELAY_MS →
      AtsAction.firstHeard s.event_source since = none) : s.Holds since s.entry
  | started {met : ℕ} (htrigger : s.trigger = TriggerType.REL_EVENT_DELAY_MS)
      (hheard : AtsAction.firstHeard s.event_source since = some met) (hmet : met < 2^63) :
      s.Holds since (s.entry.start (UInt64.ofNat met))

/-- An entry that the sequence has committed has the command of the sequence. -/
theorem Sequence.Holds.cmd_eq {s : Sequence} {since : List AtsAction} {e : Entry}
    (h : s.Holds since e) : e.cmd = s.cmd := by
  cases h with
  | committed => rfl
  | started => rfl

/-- An action that is not an event from the source changes nothing. -/
theorem Sequence.Holds.concat {s : Sequence} {since : List AtsAction} {e : Entry}
    (h : s.Holds since e) {action : AtsAction}
    (haction : AtsAction.heardAt s.event_source action = none) : s.Holds (since ++ [action]) e := by
  have hsame : AtsAction.firstHeard s.event_source (since ++ [action]) =
      AtsAction.firstHeard s.event_source since := by
    rw [AtsAction.firstHeard_concat, haction, Option.or_none]
  cases h with
  | committed hnone =>
    refine Sequence.Holds.committed fun htrigger => ?_
    rw [hsame]
    exact hnone htrigger
  | started htrigger hheard hmet =>
    refine Sequence.Holds.started htrigger ?_ hmet
    rw [hsame]
    exact hheard

/-- The mission time of a started delay does not wrap. -/
theorem toNat_start (s : Sequence) {met : ℕ} (hmet : met < 2^63) :
    (s.entry.start (UInt64.ofNat met)).trigger_value.toNat = met + s.time_word.toNat := by
  have htime := s.time_word.toNat_lt
  have hvalue : (s.entry.start (UInt64.ofNat met)).trigger_value =
      UInt64.ofNat met + s.time_word.toUInt64 := rfl
  rw [hvalue, UInt64.toNat_add, UInt64.toNat_ofNat', UInt32.toNat_toUInt64]
  -- The delay has 32 bits, so the sum is below `2^64`.
  omega

/-- When an entry is due, its time has come. -/
theorem Sequence.Holds.released {s : Sequence} {since : List AtsAction} {e : Entry}
    (h : s.Holds since e) (hwaiting : e.waiting_event = false) {met_ms utc_sec : ℕ}
    (hdue : AtsRtsSequencerComponent.isDue e met_ms utc_sec = true) :
    AtsAction.Released s since met_ms utc_sec := by
  unfold AtsAction.Released
  cases h with
  | committed hnone =>
    have htrigger : s.entry.trigger = s.trigger := rfl
    have hvalue : s.entry.trigger_value.toNat = s.time_word.toNat := UInt32.toNat_toUInt64 _
    have hwaits : s.entry.waiting_event = decide (s.trigger = TriggerType.REL_EVENT_DELAY_MS) := rfl
    unfold AtsRtsSequencerComponent.isDue at hdue
    rw [htrigger, hvalue] at hdue
    rw [hwaits] at hwaiting
    rcases hkind : s.trigger with _ | _ | _
    · simpa only [hkind, decide_eq_true_eq] using hdue
    · simpa only [hkind, decide_eq_true_eq] using hdue
    · -- A sequence that waits for an event is not due before it.
      exact absurd hkind (of_decide_eq_false hwaiting)
  | @started met htrigger hheard hmet =>
    have hreleased := of_decide_eq_true hdue
    rw [toNat_start s hmet] at hreleased
    rw [htrigger]
    exact ⟨met, hheard, hreleased⟩

/-- The entry after an event. -/
def Entry.hear (source_id : UInt32) (now_met : UInt64) (e : Entry) : Entry :=
  if e.waitsFor source_id then e.start now_met else e

/-- An event starts the delay of the entry that waits for it, and is not the first for any other. -/
theorem Sequence.Holds.heard {s : Sequence} {since : List AtsAction} {e : Entry}
    (h : s.Holds since e) (hactive : e.active = true) (source_id : UInt32) {met : ℕ}
    (hmet : met < 2^63) :
    s.Holds (since ++ [AtsAction.heard source_id met]) (e.hear source_id (UInt64.ofNat met)) := by
  unfold Entry.hear
  have hat : AtsAction.heardAt s.event_source (AtsAction.heard source_id met) =
      if s.event_source = 0 ∨ s.event_source = source_id then some met else none := rfl
  cases h with
  | committed hnone =>
    by_cases hsource : s.event_source = 0 ∨ s.event_source = source_id
    · rw [if_pos hsource] at hat
      by_cases htrigger : s.trigger = TriggerType.REL_EVENT_DELAY_MS
      · -- The first event from the source starts the delay.
        have hwaits : s.entry.waitsFor source_id = true := by
          simp [Entry.waitsFor, Sequence.entry, htrigger, hsource]
        rw [if_pos hwaits]
        refine Sequence.Holds.started htrigger ?_ hmet
        rw [AtsAction.firstHeard_concat, hnone htrigger, hat, Option.none_or]
      · -- The sequence waits for no event.
        have hwaits : s.entry.waitsFor source_id = false := by
          simp [Entry.waitsFor, Sequence.entry, htrigger]
        rw [if_neg (by rw [hwaits]; nofun)]
        exact Sequence.Holds.committed fun h => absurd h htrigger
    · -- The event is from another source.
      rw [if_neg hsource] at hat
      have hwaits : s.entry.waitsFor source_id = false := by
        simp [Entry.waitsFor, Sequence.entry, hsource]
      rw [if_neg (by rw [hwaits]; nofun)]
      exact (Sequence.Holds.committed hnone).concat hat
  | @started met' htrigger hheard hmet' =>
    -- The delay runs already.
    have hwaits : (s.entry.start (UInt64.ofNat met')).waitsFor source_id = false := by
      simp [Entry.waitsFor, Entry.start]
    rw [if_neg (by rw [hwaits]; nofun)]
    refine Sequence.Holds.started htrigger ?_ hmet'
    rw [AtsAction.firstHeard_concat, hheard, Option.some_or]

namespace AtsRtsSequencerComponent

/-! ## The invariant -/

/-- Every active entry is what has become of the sequence that was committed to its slot last, and
all that was sent was safe to send. -/
structure Sequenced (c : AtsRtsSequencerComponent) : Prop where
  holds : ∀ i, (c.entries_ i).active = true → ∃ s,
    Logs.last (AtsAction.touches i) c.log = some (AtsAction.committed i s) ∧
      s.Holds (Logs.since (AtsAction.touches i) c.log) (c.entries_ i)
  armed_eq : c.armed_ = AtsAction.isArmed c.log
  safe : Logs.Justified AtsAction.Safe c.log
  offered_eq : c.offered.map Prod.fst = c.log.filterMap AtsAction.offeredCommand

/-- Table, arming, log, and offered commands are the same. -/
structure SameTable (c c' : AtsRtsSequencerComponent) : Prop where
  entries_eq : c'.entries_ = c.entries_
  armed_eq : c'.armed_ = c.armed_
  log_eq : c'.log = c.log
  offered_eq : c'.offered = c.offered

/-- A call that leaves the table alone keeps what the log says about it. -/
theorem Sequenced.of_same {c c' : AtsRtsSequencerComponent} (h : c.Sequenced)
    (hsame : SameTable c c') : c'.Sequenced := by
  refine ⟨?_, ?_, ?_, ?_⟩
  · rw [hsame.entries_eq, hsame.log_eq]
    exact h.holds
  · rw [hsame.armed_eq, hsame.log_eq]
    exact h.armed_eq
  · rw [hsame.log_eq]
    exact h.safe
  · rw [hsame.log_eq, hsame.offered_eq]
    exact h.offered_eq

/-- An action that concerns no slot and is no event. -/
theorem Sequenced.setArmed {c : AtsRtsSequencerComponent} (h : c.Sequenced) (on : Bool) :
    (c.setArmed on).Sequenced := by
  have hlast (i : Fin MAX_SEQUENCE_ENTRIES) :
      Logs.last (AtsAction.touches i) (c.setArmed on).log =
        Logs.last (AtsAction.touches i) c.log := Logs.last_concat_of_neg rfl c.log
  have hsince (i : Fin MAX_SEQUENCE_ENTRIES) :
      Logs.since (AtsAction.touches i) (c.setArmed on).log =
        Logs.since (AtsAction.touches i) c.log ++ [AtsAction.armed on] :=
    Logs.since_concat_of_neg rfl c.log
  refine ⟨fun i hi => ?_, ?_, Logs.justified_concat.mpr ⟨h.safe, trivial⟩, ?_⟩
  · obtain ⟨s, hs, hholds⟩ := h.holds i hi
    rw [hlast, hsince]
    exact ⟨s, hs, hholds.concat rfl⟩
  · exact (AtsAction.isArmed_concat c.log (AtsAction.armed on)).symm
  · exact h.offered_eq.trans (Logs.filterMap_concat_of_none rfl c.log).symm

/-- Clearing frees all slots. -/
theorem Sequenced.clearAll {c : AtsRtsSequencerComponent} (h : c.Sequenced) :
    c.clearAll.Sequenced := by
  refine ⟨fun i hi => absurd hi nofun, ?_, Logs.justified_concat.mpr ⟨h.safe, trivial⟩, ?_⟩
  · exact h.armed_eq.trans (AtsAction.isArmed_concat c.log AtsAction.cleared).symm
  · exact h.offered_eq.trans (Logs.filterMap_concat_of_none rfl c.log).symm

/-- Writing one slot and logging it leaves the other slots in order. -/
theorem Sequenced.holds_write {c c' : AtsRtsSequencerComponent} (h : c.Sequenced)
    {i : Fin MAX_SEQUENCE_ENTRIES} {e : Entry} {action : AtsAction}
    (hentries : c'.entries_ = Function.update c.entries_ i e) (hlog : c'.log = c.log ++ [action])
    (htouches : ∀ j, action.touches j = decide (i = j))
    (hheard : ∀ event_source, action.heardAt event_source = none)
    (he : e.active = true → ∃ s, action = AtsAction.committed i s ∧ e = s.entry)
    (j : Fin MAX_SEQUENCE_ENTRIES) (hj : (c'.entries_ j).active = true) : ∃ s,
      Logs.last (AtsAction.touches j) c'.log = some (AtsAction.committed j s) ∧
        s.Holds (Logs.since (AtsAction.touches j) c'.log) (c'.entries_ j) := by
  rw [hentries] at hj ⊢
  rw [hlog, Logs.last_concat_of_slot htouches, Logs.since_concat_of_slot htouches]
  rcases eq_or_ne i j with rfl | hne
  · -- The slot holds the sequence as committed, and nothing has happened since.
    rw [Function.update_self] at hj ⊢
    rw [if_pos rfl, if_pos rfl]
    obtain ⟨s, heq, rfl⟩ := he hj
    exact ⟨s, congrArg some heq, Sequence.Holds.committed fun _ => rfl⟩
  · rw [Function.update_of_ne hne.symm] at hj ⊢
    rw [if_neg hne, if_neg hne]
    obtain ⟨s, hs, hholds⟩ := h.holds j hj
    exact ⟨s, hs, hholds.concat (hheard _)⟩

/-- Committing an entry. -/
theorem Sequenced.commitEntry {c : AtsRtsSequencerComponent} (h : c.Sequenced) :
    c.commitEntry.Sequenced := by
  unfold AtsRtsSequencerComponent.commitEntry
  split
  · exact h.of_same ⟨rfl, rfl, rfl, rfl⟩
  · rename_i i _
    refine ⟨h.holds_write rfl rfl (fun _ => rfl) (fun _ => rfl) fun _ => ⟨c.staged, rfl, rfl⟩,
      ?_, Logs.justified_concat.mpr ⟨h.safe, trivial⟩, ?_⟩
    · have hstay := AtsAction.isArmed_concat c.log (AtsAction.committed i c.staged)
      exact h.armed_eq.trans hstay.symm
    · exact h.offered_eq.trans (Logs.filterMap_concat_of_none rfl c.log).symm

/-- A command keeps the table in order. -/
theorem Sequenced.handleCommand {c : AtsRtsSequencerComponent} (h : c.Sequenced)
    (cmd : CommandPacket) : (c.handleCommand cmd).Sequenced := by
  unfold AtsRtsSequencerComponent.handleCommand
  refine iteInduction (fun _ => h.of_same ⟨rfl, rfl, rfl, rfl⟩) fun _ => ?_
  refine iteInduction (fun _ => h.of_same ⟨rfl, rfl, rfl, rfl⟩) fun _ => ?_
  refine iteInduction (fun _ => h.of_same ⟨rfl, rfl, rfl, rfl⟩) fun _ => ?_
  refine iteInduction (fun _ => h.of_same ⟨rfl, rfl, rfl, rfl⟩) fun _ => ?_
  refine iteInduction (fun _ => h.of_same ⟨rfl, rfl, rfl, rfl⟩) fun _ => ?_
  refine iteInduction (fun _ => h.of_same ⟨rfl, rfl, rfl, rfl⟩) fun _ => ?_
  refine iteInduction (fun _ => h.of_same ⟨rfl, rfl, rfl, rfl⟩) fun _ => ?_
  refine iteInduction (fun _ => h.commitEntry) fun _ => ?_
  refine iteInduction (fun _ => (h.setArmed true).of_same ⟨rfl, rfl, rfl, rfl⟩) fun _ => ?_
  refine iteInduction (fun _ => (h.setArmed false).of_same ⟨rfl, rfl, rfl, rfl⟩) fun _ => ?_
  refine iteInduction (fun _ => h.clearAll.of_same ⟨rfl, rfl, rfl, rfl⟩) fun _ => ?_
  exact h.of_same ⟨rfl, rfl, rfl, rfl⟩

/-! ## Events -/

/-- Starting a delay changes the entry only. -/
theorem startDelay_spec (source_id : UInt32) (now_met : UInt64) (c : AtsRtsSequencerComponent)
    (i : Fin MAX_SEQUENCE_ENTRIES) :
    (startDelay source_id now_met c i).entries_ =
        Function.update c.entries_ i ((c.entries_ i).hear source_id now_met) ∧
      (startDelay source_id now_met c i).armed_ = c.armed_ ∧
        (startDelay source_id now_met c i).log = c.log ∧
          (startDelay source_id now_met c i).offered = c.offered := by
  unfold startDelay Entry.hear
  dsimp only
  split_ifs
  · exact ⟨rfl, rfl, rfl, rfl⟩
  · exact ⟨(Function.update_eq_self i c.entries_).symm, rfl, rfl, rfl⟩

/-- Processing an event keeps the table in order. -/
theorem Sequenced.onEvent {c : AtsRtsSequencerComponent} (h : c.Sequenced) (source_id : UInt32) :
    (c.onEvent source_id).Sequenced := by
  unfold AtsRtsSequencerComponent.onEvent
  split_ifs with harmed
  · exact h
  · set met := c.clock.met_ms with hmet
    set d := { c with log := c.log ++ [AtsAction.heard source_id met] } with hd
    have hon : c.armed_ = true := Bool.eq_true_of_not_eq_false harmed
    -- The pass changes the entries one by one, and nothing else.
    set d' := (List.finRange MAX_SEQUENCE_ENTRIES).foldl (startDelay source_id (UInt64.ofNat met)) d
      with hd'
    have hstep (e : AtsRtsSequencerComponent) (i : Fin MAX_SEQUENCE_ENTRIES) :=
      (startDelay_spec source_id (UInt64.ofNat met) e i).1
    have hentries : d'.entries_ = fun i => (c.entries_ i).hear source_id (UInt64.ofNat met) :=
      Slots.table_foldl_finRange hstep d
    have harmed' : d'.armed_ = c.armed_ :=
      run_frame armed_ (fun e i => (startDelay_spec source_id _ e i).2.1) d _
    have hlog : d'.log = c.log ++ [AtsAction.heard source_id met] :=
      run_frame log (fun e i => (startDelay_spec source_id _ e i).2.2.1) d _
    have hoffered : d'.offered = c.offered :=
      run_frame (fun e => e.offered) (fun e i => (startDelay_spec source_id _ e i).2.2.2) d _
    refine ⟨fun i hi => ?_, ?_, ?_, ?_⟩
    · have hactive : (c.entries_ i).active = true := by
        rw [hentries] at hi
        unfold Entry.hear at hi
        dsimp only at hi
        split_ifs at hi
        · exact hi
        · exact hi
      obtain ⟨s, hs, hholds⟩ := h.holds i hactive
      rw [hentries, hlog, Logs.last_concat_of_neg (p := AtsAction.touches i) rfl,
        Logs.since_concat_of_neg (p := AtsAction.touches i) rfl]
      exact ⟨s, hs, hholds.heard hactive source_id c.clock.met_lt⟩
    · rw [harmed', hlog, AtsAction.isArmed_concat]
      exact h.armed_eq
    · rw [hlog]
      exact Logs.justified_concat.mpr ⟨h.safe, h.armed_eq.symm.trans hon⟩
    · rw [hoffered, hlog, Logs.filterMap_concat_of_none rfl]
      exact h.offered_eq

/-! ## Sending -/

/-- A slot has been sent: it is free, its command was offered, and nothing else has changed. -/
structure Sent (others : ℕ → CommandPort → CommandPort) (met_ms utc_sec : ℕ)
    (c c' : AtsRtsSequencerComponent) (i : Fin MAX_SEQUENCE_ENTRIES) : Prop where
  entries_eq : c'.entries_ = Function.update c.entries_ i { c.entries_ i with active := false }
  log_eq : c'.log = c.log ++ [AtsAction.offered i (c.entries_ i).cmd met_ms utc_sec]
  armed_eq : c'.armed_ = c.armed_
  outlet : Commander.SameOutlet (c.send others (c.entries_ i).cmd) c'.toCommander

/-- Whether a slot is sent. -/
def ready (c : AtsRtsSequencerComponent) (met_ms utc_sec : ℕ) (i : Fin MAX_SEQUENCE_ENTRIES) :
    Bool :=
  (c.entries_ i).active && !(c.entries_ i).waiting_event && isDue (c.entries_ i) met_ms utc_sec

variable {others : ℕ → CommandPort → CommandPort} {met_ms utc_sec : ℕ}

/-- An entry that is ready is sent. -/
theorem executeEntry_of_ready {c : AtsRtsSequencerComponent} {i : Fin MAX_SEQUENCE_ENTRIES}
    (h : c.ready met_ms utc_sec i = true) :
    Sent others met_ms utc_sec c (executeEntry others met_ms utc_sec c i) i := by
  unfold ready at h
  unfold executeEntry
  dsimp only
  rw [if_pos h]
  exact ⟨rfl, rfl, rfl, Commander.sameOutlet_sendReported ..⟩

/-- An entry that is not ready is left alone. -/
theorem executeEntry_of_not_ready {c : AtsRtsSequencerComponent} {i : Fin MAX_SEQUENCE_ENTRIES}
    (h : c.ready met_ms utc_sec i = false) : executeEntry others met_ms utc_sec c i = c := by
  unfold ready at h
  unfold executeEntry
  dsimp only
  rw [if_neg (by rw [h]; nofun)]

/-- While the sequencer is armed, sending a slot keeps the table in order. -/
theorem Sequenced.executeEntry {c : AtsRtsSequencerComponent} (h : c.Sequenced)
    (harmed : c.armed_ = true) (i : Fin MAX_SEQUENCE_ENTRIES) :
    (executeEntry others met_ms utc_sec c i).Sequenced ∧
      (AtsRtsSequencerComponent.executeEntry others met_ms utc_sec c i).armed_ = true := by
  rcases hready : c.ready met_ms utc_sec i with _ | _
  · rw [executeEntry_of_not_ready hready]
    exact ⟨h, harmed⟩
  · have hsent : Sent others met_ms utc_sec c _ i := executeEntry_of_ready hready
    refine ⟨⟨?_, ?_, ?_, ?_⟩, hsent.armed_eq.trans harmed⟩
    · exact h.holds_write hsent.entries_eq hsent.log_eq (fun _ => rfl) (fun _ => rfl) nofun
    · rw [hsent.armed_eq, hsent.log_eq, AtsAction.isArmed_concat]
      exact h.armed_eq
    · rw [hsent.log_eq]
      refine Logs.justified_concat.mpr ⟨h.safe, h.armed_eq.symm.trans harmed, ?_⟩
      unfold ready at hready
      rw [Bool.and_eq_true, Bool.and_eq_true, Bool.not_eq_true'] at hready
      obtain ⟨⟨hactive, hwaiting⟩, hdue⟩ := hready
      obtain ⟨s, hs, hholds⟩ := h.holds i hactive
      exact ⟨s, hs, hholds.cmd_eq.symm, hholds.released hwaiting hdue⟩
    · rw [hsent.outlet.offered_eq, hsent.log_eq,
        Logs.filterMap_concat_of_some (f := AtsAction.offeredCommand) rfl, ← h.offered_eq]
      exact List.map_append

/-- Sending the due entries keeps the table in order. -/
theorem Sequenced.executeDueEntries {c : AtsRtsSequencerComponent} (h : c.Sequenced)
    (time : ℕ × ℕ) : (c.executeDueEntries others time).Sequenced := by
  unfold AtsRtsSequencerComponent.executeDueEntries
  split_ifs with harmed
  · exact h
  · have htick : (c.tick time).Sequenced := h.of_same ⟨rfl, rfl, rfl, rfl⟩
    have hentry (d : AtsRtsSequencerComponent) (i : Fin MAX_SEQUENCE_ENTRIES)
        (hd : d.Sequenced ∧ d.armed_ = true) :
        (AtsRtsSequencerComponent.executeEntry others c.clock.met_ms
            ((c.tick time).clock.utc_ms / 1000) d i).Sequenced ∧
          (AtsRtsSequencerComponent.executeEntry others c.clock.met_ms
            ((c.tick time).clock.utc_ms / 1000) d i).armed_ = true := hd.1.executeEntry hd.2 i
    exact (run_invariant hentry ⟨htick, Bool.eq_true_of_not_eq_false harmed⟩ _).1

/-- What sending does to an entry. -/
def afterSending (met_ms utc_sec : ℕ) (e : Entry) : Entry :=
  if e.active && !e.waiting_event && isDue e met_ms utc_sec then { e with active := false } else e

/-- After its turn, an entry is what sending has made of it, and the others are as they were. -/
theorem entries_executeEntry (c : AtsRtsSequencerComponent) (i : Fin MAX_SEQUENCE_ENTRIES) :
    (executeEntry others met_ms utc_sec c i).entries_ =
      Function.update c.entries_ i (afterSending met_ms utc_sec (c.entries_ i)) := by
  unfold executeEntry afterSending
  dsimp only
  split_ifs
  · rfl
  · exact (Function.update_eq_self i c.entries_).symm

/-- The slots send the commands that are ready, in order. -/
theorem outlet_foldl_executeEntry (c : AtsRtsSequencerComponent)
    {slots : List (Fin MAX_SEQUENCE_ENTRIES)} (hnodup : slots.Nodup) :
    Commander.SameOutlet
      (c.toCommander.sendAll others
        ((slots.filter (c.ready met_ms utc_sec)).map fun i => (c.entries_ i).cmd))
      (slots.foldl (executeEntry others met_ms utc_sec) c).toCommander := by
  induction slots generalizing c with
  | nil => exact Commander.SameOutlet.refl _
  | cons i slots ih =>
    obtain ⟨hi, hnodup⟩ := List.nodup_cons.mp hnodup
    rcases hready : c.ready met_ms utc_sec i with _ | _
    · rw [List.filter_cons_of_neg (by rw [hready]; nofun), List.foldl_cons,
        executeEntry_of_not_ready hready]
      exact ih c hnodup
    · have hsent : Sent others met_ms utc_sec c (executeEntry others met_ms utc_sec c i) i :=
        executeEntry_of_ready hready
      set d := executeEntry others met_ms utc_sec c i with hd
      -- The slots that come later are as before.
      have hentry (j : Fin MAX_SEQUENCE_ENTRIES) (hj : j ∈ slots) :
          d.entries_ j = c.entries_ j := by
        rw [hsent.entries_eq]
        refine Function.update_of_ne ?_ _ _
        rintro rfl
        exact hi hj
      have hfilter : slots.filter (d.ready met_ms utc_sec) =
          slots.filter (c.ready met_ms utc_sec) := by
        refine List.filter_congr fun j hj => ?_
        unfold ready
        rw [hentry j hj]
      have hmap : (slots.filter (d.ready met_ms utc_sec)).map (fun j => (d.entries_ j).cmd) =
          (slots.filter (c.ready met_ms utc_sec)).map fun j => (c.entries_ j).cmd := by
        rw [hfilter]
        refine List.map_congr_left fun j hj => ?_
        rw [hentry j (List.mem_filter.mp hj).1]
      have hrest := ih d hnodup
      rw [hmap] at hrest
      rw [List.filter_cons_of_pos hready, List.map_cons]
      exact (hsent.outlet.sendAll others _).trans hrest

/-- The slots whose commands are sent, in order. -/
def dueSlots (c : AtsRtsSequencerComponent) (time : ℕ × ℕ) : List (Fin MAX_SEQUENCE_ENTRIES) :=
  if c.armed_ then
    (List.finRange MAX_SEQUENCE_ENTRIES).filter
      (c.ready c.clock.met_ms ((c.tick time).clock.utc_ms / 1000))
  else []

/-- Due commands are offered in the order of the slots, and their entries are removed. -/
theorem executeDueEntries_spec (others : ℕ → CommandPort → CommandPort)
    (c : AtsRtsSequencerComponent) (time : ℕ × ℕ) :
    Commander.SameOutlet
        (c.toCommander.sendAll others ((c.dueSlots time).map fun i => (c.entries_ i).cmd))
        (c.executeDueEntries others time).toCommander ∧
      ∀ i, (c.executeDueEntries others time).entries_ i =
        if i ∈ c.dueSlots time then { c.entries_ i with active := false } else c.entries_ i := by
  unfold executeDueEntries dueSlots
  rcases harmed : c.armed_ with _ | _
  · exact ⟨Commander.SameOutlet.refl _, fun _ => rfl⟩
  · have hon : ¬true = false := nofun
    rw [if_neg hon, if_pos rfl]
    refine ⟨outlet_foldl_executeEntry (c.tick time) (List.nodup_finRange _), fun i => ?_⟩
    rw [Slots.table_foldl_finRange entries_executeEntry]
    dsimp only
    unfold afterSending
    simp only [List.mem_filter, List.mem_finRange, true_and]
    rfl

/-! ## Runs -/

/-- An operation keeps the table in order. -/
theorem Sequenced.apply {c : AtsRtsSequencerComponent} (h : c.Sequenced) (op : AtsOp) :
    (c.apply others op).Sequenced := by
  cases op with
  | init => exact (h.clearAll.setArmed false).of_same ⟨rfl, rfl, rfl, rfl⟩
  | tick time => exact h.of_same ⟨rfl, rfl, rfl, rfl⟩
  | handleCommand cmd => exact h.handleCommand cmd
  | onEvent source_id => exact h.onEvent source_id
  | executeDueEntries time => exact h.executeDueEntries time
  | report => exact h.of_same ⟨rfl, rfl, rfl, rfl⟩
  | outputs event_out telemetry_out => exact h.of_same ⟨rfl, rfl, rfl, rfl⟩

/-- A component as constructed is in order. -/
theorem sequenced_create (base : Component) : (create base).Sequenced :=
  ⟨fun _ hi => absurd hi nofun, rfl, Logs.Justified.nil, rfl⟩

/-- What a commit does: with a free slot the staged sequence is committed to one, and with a full
table no entry changes. -/
structure CommitsEntry (c c' : AtsRtsSequencerComponent) : Prop where
  commits : ∀ j, (c.entries_ j).active = false → ∃ i, (c.entries_ i).active = false ∧
    c'.entries_ = Function.update c.entries_ i c.staged.entry ∧
      c'.log = c.log ++ [AtsAction.committed i c.staged]
  rejects : (∀ i, (c.entries_ i).active = true) → c'.entries_ = c.entries_ ∧ c'.log = c.log

/-- A commit adds the staged entry to the table or refuses it. -/
theorem commitsEntry (c : AtsRtsSequencerComponent) : CommitsEntry c c.commitEntry := by
  unfold commitEntry
  split
  · rename_i hnone
    refine ⟨fun j hj => ?_, fun _ => ⟨rfl, rfl⟩⟩
    have hactive := Slots.first_eq_none_iff.mp hnone j
    rw [hj] at hactive
    exact absurd hactive nofun
  · rename_i i hsome
    have hfree : (c.entries_ i).active = false := by
      simpa using Slots.of_first_eq_some hsome
    exact ⟨fun _ _ => ⟨i, hfree, rfl, rfl⟩, fun hfull => absurd (hfull i) (by rw [hfree]; nofun)⟩

/-- In every run the log of the sequencer is safe: what is offered is the command that was committed
last to its slot and neither cleared nor offered since, it is offered while the sequencer is armed,
and its time has come. The offered commands are those of the log, and a commit to a full table
changes no entry. -/
theorem sequences_safe (others : ℕ → CommandPort → CommandPort) (base : Component)
    (ops : List AtsOp) :
    let c := run (apply others) (create base) ops
    Logs.Justified AtsAction.Safe c.log ∧ c.armed_ = AtsAction.isArmed c.log ∧
      c.offered.map Prod.fst = c.log.filterMap AtsAction.offeredCommand ∧
        ∀ target argument,
          CommitsEntry c (c.handleCommand ⟨target, OP_COMMIT_ENTRY, argument⟩) := by
  intro c
  have happly (d : AtsRtsSequencerComponent) (op : AtsOp) (hd : d.Sequenced) :
      (d.apply others op).Sequenced := hd.apply op
  have hsequenced : c.Sequenced := run_invariant happly (sequenced_create base) ops
  exact ⟨hsequenced.safe, hsequenced.armed_eq, hsequenced.offered_eq, fun _ _ => c.commitsEntry⟩

end AtsRtsSequencerComponent

end DeltaV
