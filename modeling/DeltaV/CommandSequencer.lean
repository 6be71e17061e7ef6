import DeltaV.FloatWords
import DeltaV.Lib.Logs
import DeltaV.Lib.Runs
import DeltaV.Lib.Slots
import DeltaV.Reporter

/-!
# The command sequencer

`CommandSequencerComponent` keeps commands for later. A scheduled command has a release time, which
is the 32-bit mission time plus its delay, modulo `2^32`; it is sent when the mission time is ahead
of the release time by less than half the range. A command with more than half the range to go is
ahead too, and is sent at once. All commands of a run are sent on time exactly when no command with
more than `2^31` ms to go is ever looked at (`on_time_iff`).
-/

namespace DeltaV

/-- A slot of the queue. -/
structure ScheduledEntry where
  active : Bool
  release_met_ms : UInt32
  command : CommandPacket
deriving DecidableEq, Repr

/-- The size of the queue. -/
def MAX_SCHEDULED : ℕ := 16

/-- What was done with the queue; mission times have 64 bits here. -/
inductive SequencerAction where
  | scheduled (slot : Fin MAX_SCHEDULED) (cmd : CommandPacket) (delay_ms : UInt32) (met : ℕ)
  | offered (slot : Fin MAX_SCHEDULED) (cmd : CommandPacket) (met : ℕ)
  | cleared
deriving DecidableEq

/-- The command sequencer. -/
structure CommandSequencerComponent extends Commander where
  queue_ : Fin MAX_SCHEDULED → ScheduledEntry
  staged_command_ : CommandPacket
  /-- The mission time in milliseconds, as `getMET64()` returns it. -/
  met : ℕ
  /-- What was done with the queue, in order. -/
  log : List SequencerAction

namespace CommandSequencerComponent

def OP_SET_TARGET : UInt32 := 1

def OP_SET_OPCODE : UInt32 := 2

def OP_SET_ARGUMENT : UInt32 := 3

def OP_COMMIT_DELAY_SECONDS : UInt32 := 4

def OP_CLEAR_QUEUE : UInt32 := 5

/-- A component as constructed. -/
def create (base : Component) : CommandSequencerComponent :=
  { Commander.create base with
    queue_ := fun _ => ⟨false, 0, default⟩
    staged_command_ := default
    met := 0
    log := [] }

/-- `TimeService::getMET()`. -/
def getMET (c : CommandSequencerComponent) : UInt32 := UInt32.ofNat c.met

/-- Counts one error. -/
def recordError (c : CommandSequencerComponent) : CommandSequencerComponent :=
  { c with toCommander := c.toCommander.recordError }

/-- Sends an event. -/
def publishEvent (c : CommandSequencerComponent) (severity : UInt32) (msg : Text) :
    CommandSequencerComponent :=
  { c with toCommander := c.toCommander.publishEvent severity msg }

/-- The number of active entries. -/
def queuedCount (c : CommandSequencerComponent) : ℕ := Slots.count ScheduledEntry.active c.queue_

/-- Whether the time is ahead of the release time by less than half the range. -/
def isDue (now_ms release_ms : UInt32) : Bool := decide (now_ms - release_ms < 0x80000000)

/-- Schedules a command in the first free slot; the flag says whether there was one. -/
def scheduleCommandInMs (c : CommandSequencerComponent) (cmd : CommandPacket) (delay_ms : UInt32) :
    CommandSequencerComponent × Bool :=
  match Slots.first (fun e => !e.active) c.queue_ with
  | some i =>
    ({ c with
        queue_ := Function.update c.queue_ i ⟨true, c.getMET + delay_ms, cmd⟩
        log := c.log ++ [SequencerAction.scheduled i cmd delay_ms c.met] }, true)
  | none => (c.recordError.publishEvent Severity.WARNING (ascii "SEQ_FULL"), false)

/-- Frees all slots. -/
def clearQueue (c : CommandSequencerComponent) : CommandSequencerComponent :=
  { c with
    queue_ := fun i => { c.queue_ i with active := false }
    log := c.log ++ [SequencerAction.cleared] }

/-- A delay in seconds as milliseconds. -/
def delayMs (argument : Binary32) : UInt32 :=
  let delay_s :=
    if ¬argument.IsFinite ∨ argument < Binary32.ofNat 0 then Binary32.ofNat 0 else argument
  let delay_ms_f := delay_s * Binary32.ofNat 1000
  if Binary32.ofNat 4294967295 ≤ delay_ms_f then 0xFFFFFFFF
  else UInt32.ofNat delay_ms_f.trunc.toNat

/-- Schedules the staged command. -/
def commit (c : CommandSequencerComponent) (delay_ms : UInt32) : CommandSequencerComponent :=
  let s := c.scheduleCommandInMs c.staged_command_ delay_ms
  if s.2 = false then s.1.publishEvent Severity.WARNING (ascii "SEQ_COMMIT_FAIL")
  else s.1.publishEvent Severity.INFO (ascii "SEQ_COMMITTED")

/-- Executes a command. -/
def handleCommand (c : CommandSequencerComponent) (cmd : CommandPacket) :
    CommandSequencerComponent :=
  if cmd.opcode = OP_SET_TARGET then
    { c with
      staged_command_ := { c.staged_command_ with target_id := toU32 cmd.argument } }.publishEvent
        Severity.INFO (ascii "SEQ_TARGET_SET")
  else if cmd.opcode = OP_SET_OPCODE then
    { c with
      staged_command_ := { c.staged_command_ with opcode := toU32 cmd.argument } }.publishEvent
        Severity.INFO (ascii "SEQ_OPCODE_SET")
  else if cmd.opcode = OP_SET_ARGUMENT then
    { c with
      staged_command_ := { c.staged_command_ with argument := cmd.argument } }.publishEvent
        Severity.INFO (ascii "SEQ_ARG_SET")
  else if cmd.opcode = OP_COMMIT_DELAY_SECONDS then c.commit (delayMs cmd.argument)
  else if cmd.opcode = OP_CLEAR_QUEUE then
    c.clearQueue.publishEvent Severity.INFO (ascii "SEQ_CLEARED")
  else c.recordError.publishEvent Severity.WARNING (ascii "SEQ_BAD_OPCODE")

/-- Starts the component. -/
def init (c : CommandSequencerComponent) : CommandSequencerComponent :=
  { c with staged_command_ := ⟨200, 1, Binary32.ofNat 0⟩ }.publishEvent Severity.INFO
    (ascii "SEQ_READY")

/-- Sends the command of one slot if it is due. -/
def dispatchSlot (others : ℕ → CommandPort → CommandPort) (c : CommandSequencerComponent)
    (i : Fin MAX_SCHEDULED) : CommandSequencerComponent :=
  let entry := c.queue_ i
  if entry.active && isDue c.getMET entry.release_met_ms then
    { c with
      toCommander :=
        c.sendReported others entry.command (ascii "SEQ_SEND_FAIL") (ascii "SEQ_SENT")
      queue_ := Function.update c.queue_ i { entry with active := false }
      log := c.log ++ [SequencerAction.offered i entry.command c.met] }
  else c

/-- Sends the commands that are due. -/
def dispatch (others : ℕ → CommandPort → CommandPort) (c : CommandSequencerComponent) :
    CommandSequencerComponent := (List.finRange MAX_SCHEDULED).foldl (dispatchSlot others) c

/-- Sends the number of active entries. -/
def report (c : CommandSequencerComponent) : CommandSequencerComponent :=
  { c with
    toCommander := c.toCommander.publishTelemetry c.getMET (Binary32.ofNat c.queuedCount) }

/-- Time passes. -/
def advance (c : CommandSequencerComponent) (ms : ℕ) : CommandSequencerComponent :=
  { c with met := c.met + ms }

/-- Executes the commands in the input port, each after some time, then sends the commands that are
due, and reports. -/
def step (others : ℕ → CommandPort → CommandPort) (c : CommandSequencerComponent)
    (cmds : List (ℕ × CommandPacket)) (ms ms' : ℕ) : CommandSequencerComponent :=
  let c := cmds.foldl (fun c cmd => (c.advance cmd.1).handleCommand cmd.2) c
  (((c.advance ms).dispatch others).advance ms').report

end CommandSequencerComponent

/-- What can happen to the component. A step is several of these operations, with time passing
between them. -/
inductive SequencerOp where
  | init
  | advance (ms : ℕ)
  | scheduleCommandInMs (cmd : CommandPacket) (delay_ms : UInt32)
  | handleCommand (cmd : CommandPacket)
  | dispatch
  | report
  /-- Others send to and take from the queues behind the reporting outputs. -/
  | outputs (event_out : Option (InputPort EventPacket DEFAULT_QUEUE_DEPTH))
    (telemetry_out : Option (InputPort (List UInt8) DEFAULT_QUEUE_DEPTH))

namespace CommandSequencerComponent

/-- The next state. -/
def apply (others : ℕ → CommandPort → CommandPort) (c : CommandSequencerComponent) :
    SequencerOp → CommandSequencerComponent
  | SequencerOp.init => c.init
  | SequencerOp.advance ms => c.advance ms
  | SequencerOp.scheduleCommandInMs cmd delay_ms => (c.scheduleCommandInMs cmd delay_ms).1
  | SequencerOp.handleCommand cmd => c.handleCommand cmd
  | SequencerOp.dispatch => c.dispatch others
  | SequencerOp.report => c.report
  | SequencerOp.outputs event_out telemetry_out =>
    { c with toReporter := c.reconnect event_out telemetry_out }

/-- A step is a run of its operations. -/
theorem step_eq_run (others : ℕ → CommandPort → CommandPort) (c : CommandSequencerComponent)
    (cmds : List (ℕ × CommandPacket)) (ms ms' : ℕ) :
    c.step others cmds ms ms' = run (apply others) c
      (cmds.flatMap (fun cmd => [SequencerOp.advance cmd.1, SequencerOp.handleCommand cmd.2]) ++
        [SequencerOp.advance ms, SequencerOp.dispatch, SequencerOp.advance ms',
          SequencerOp.report]) := by
  unfold step
  induction cmds generalizing c with
  | nil => rfl
  | cons cmd cmds ih => exact ih ((c.advance cmd.1).handleCommand cmd.2)

end CommandSequencerComponent

/-! ## What the log tells -/

namespace SequencerAction

/-- Whether the action concerns a slot. -/
def touches (slot : Fin MAX_SCHEDULED) : SequencerAction → Bool
  | scheduled i _ _ _ => decide (i = slot)
  | offered i _ _ => decide (i = slot)
  | cleared => true

/-- The command that was offered. -/
def offeredCommand : SequencerAction → Option CommandPacket
  | offered _ cmd _ => some cmd
  | _ => none

/-- A command may be offered if the last thing that was done with its slot is that it was scheduled
there, and its delay has elapsed since. -/
def OnTime (before : List SequencerAction) : SequencerAction → Prop
  | offered slot cmd met => ∃ delay_ms met', met' + delay_ms.toNat ≤ met ∧
      Logs.last (touches slot) before = some (scheduled slot cmd delay_ms met')
  | _ => True

end SequencerAction

namespace CommandSequencerComponent

/-- What was offered to the command output was on time. -/
structure Punctual (c : CommandSequencerComponent) : Prop where
  on_time : Logs.Justified SequencerAction.OnTime c.log
  offered_eq : c.offered.map Prod.fst = c.log.filterMap SequencerAction.offeredCommand

/-- The command in a slot, if there is one, has at most `2^31` ms to go. -/
def Near (c : CommandSequencerComponent) (slot : Fin MAX_SCHEDULED) : Prop :=
  ∀ cmd delay_ms met, Logs.last (SequencerAction.touches slot) c.log =
    some (SequencerAction.scheduled slot cmd delay_ms met) → met + delay_ms.toNat ≤ c.met + 2^31

/-- The active slots are those to which a command was scheduled last, with its release time. -/
structure Queued (c : CommandSequencerComponent) : Prop where
  scheduled : ∀ i, (c.queue_ i).active = true → ∃ delay_ms met,
    Logs.last (SequencerAction.touches i) c.log =
      some (SequencerAction.scheduled i (c.queue_ i).command delay_ms met) ∧
        (c.queue_ i).release_met_ms = UInt32.ofNat met + delay_ms ∧ met ≤ c.met
  active : ∀ i cmd delay_ms met, Logs.last (SequencerAction.touches i) c.log =
    some (SequencerAction.scheduled i cmd delay_ms met) → (c.queue_ i).active = true

/-! ## Release times -/

/-- The time since a release time, modulo `2^32`. -/
theorem toNat_sub_release {met met' : ℕ} {delay_ms : UInt32} (h : met' ≤ met) :
    (UInt32.ofNat met - (UInt32.ofNat met' + delay_ms)).toNat =
      (met - met' + (2^32 - delay_ms.toNat)) % 2^32 := by
  have hdelay := delay_ms.toNat_lt
  rw [UInt32.toNat_sub, UInt32.toNat_add, UInt32.toNat_ofNat', UInt32.toNat_ofNat']
  omega

/-- A command that is due is released, or has more than `2^31` ms to go. -/
theorem released_or_far_of_isDue {met met' : ℕ} {delay_ms : UInt32} (h : met' ≤ met)
    (hdue : isDue (UInt32.ofNat met) (UInt32.ofNat met' + delay_ms) = true) :
    met' + delay_ms.toNat ≤ met ∨ met + 2^31 < met' + delay_ms.toNat := by
  have hdelay := delay_ms.toNat_lt
  unfold isDue at hdue
  rw [decide_eq_true_eq, UInt32.lt_iff_toNat_lt, toNat_sub_release h] at hdue
  -- Time since a release that is ahead shows as what is missing to `2^32`.
  change _ < 2^31 at hdue
  omega

/-- A command with more than `2^31` ms to go is due. -/
theorem isDue_of_far {met met' : ℕ} {delay_ms : UInt32} (h : met' ≤ met)
    (hfar : met + 2^31 < met' + delay_ms.toNat) :
    isDue (UInt32.ofNat met) (UInt32.ofNat met' + delay_ms) = true := by
  have hdelay := delay_ms.toNat_lt
  unfold isDue
  rw [decide_eq_true_eq, UInt32.lt_iff_toNat_lt, toNat_sub_release h]
  change _ < 2^31
  omega

/-! ## Operations on the queue -/

/-- Queue, log, time, and offered commands are the same. -/
structure SameQueue (c c' : CommandSequencerComponent) : Prop where
  queue_eq : c'.queue_ = c.queue_
  log_eq : c'.log = c.log
  met_eq : c'.met = c.met
  offered_eq : c'.offered = c.offered

/-- The queue is in order, and what was offered was on time. -/
def Good (c : CommandSequencerComponent) : Prop := c.Queued ∧ c.Punctual

/-- A call that leaves the queue alone keeps what the log says about it. -/
theorem Good.of_same {c c' : CommandSequencerComponent} (h : c.Good) (hsame : SameQueue c c') :
    c'.Good := by
  refine ⟨⟨?_, ?_⟩, ?_, ?_⟩
  · rw [hsame.queue_eq, hsame.log_eq, hsame.met_eq]
    exact h.1.scheduled
  · rw [hsame.queue_eq, hsame.log_eq]
    exact h.1.active
  · rw [hsame.log_eq]
    exact h.2.on_time
  · rw [hsame.log_eq, hsame.offered_eq]
    exact h.2.offered_eq

/-- Time passes. -/
theorem Good.advance {c : CommandSequencerComponent} (h : c.Good) (ms : ℕ) :
    (c.advance ms).Good := by
  refine ⟨⟨fun i hi => ?_, h.1.active⟩, h.2.on_time, h.2.offered_eq⟩
  obtain ⟨delay_ms, met, hlast, hrelease, hle⟩ := h.1.scheduled i hi
  exact ⟨delay_ms, met, hlast, hrelease, hle.trans (Nat.le_add_right _ _)⟩

/-- Clearing the queue frees all slots. -/
theorem Good.clearQueue {c : CommandSequencerComponent} (h : c.Good) : c.clearQueue.Good := by
  have hlast (i : Fin MAX_SCHEDULED) :
      Logs.last (SequencerAction.touches i) c.clearQueue.log = some SequencerAction.cleared :=
    Logs.last_concat_of_pos rfl c.log
  refine ⟨⟨fun i hi => absurd hi nofun, fun i cmd delay_ms met heq => ?_⟩, ?_, ?_⟩
  · exact absurd ((hlast i).symm.trans heq) nofun
  · exact Logs.justified_concat.mpr ⟨h.2.on_time, trivial⟩
  · exact h.2.offered_eq.trans (Logs.filterMap_concat_of_none rfl c.log).symm

/-- Writing one slot and logging it keeps the queue in order. -/
theorem Queued.write {c c' : CommandSequencerComponent} (h : c.Queued) {i : Fin MAX_SCHEDULED}
    {entry : ScheduledEntry} {action : SequencerAction}
    (hqueue : c'.queue_ = Function.update c.queue_ i entry) (hlog : c'.log = c.log ++ [action])
    (hmet : c'.met = c.met) (htouches : ∀ j, action.touches j = decide (i = j))
    (hentry : entry.active = true → ∃ delay_ms met,
      action = SequencerAction.scheduled i entry.command delay_ms met ∧
        entry.release_met_ms = UInt32.ofNat met + delay_ms ∧ met ≤ c.met)
    (hactive : ∀ cmd delay_ms met, action = SequencerAction.scheduled i cmd delay_ms met →
      entry.active = true) : c'.Queued := by
  have hlast (j : Fin MAX_SCHEDULED) : Logs.last (SequencerAction.touches j) c'.log =
      if i = j then some action else Logs.last (SequencerAction.touches j) c.log := by
    rw [hlog, Logs.last_concat_of_slot htouches]
  refine ⟨fun j hj => ?_, fun j cmd delay_ms met hj => ?_⟩
  · rw [hqueue] at hj ⊢
    rw [hlast, hmet]
    rcases eq_or_ne i j with rfl | hne
    · rw [Function.update_self] at hj ⊢
      rw [if_pos rfl]
      obtain ⟨delay_ms, met, heq, hrelease, hle⟩ := hentry hj
      exact ⟨delay_ms, met, congrArg some heq, hrelease, hle⟩
    · rw [Function.update_of_ne hne.symm] at hj ⊢
      rw [if_neg hne]
      exact h.scheduled j hj
  · rw [hlast] at hj
    rw [hqueue]
    rcases eq_or_ne i j with rfl | hne
    · rw [if_pos rfl] at hj
      rw [Function.update_self]
      exact hactive cmd delay_ms met (Option.some.inj hj)
    · rw [if_neg hne] at hj
      rw [Function.update_of_ne hne.symm]
      exact h.active j cmd delay_ms met hj

/-- Scheduling a command. -/
theorem Good.scheduleCommandInMs {c : CommandSequencerComponent} (h : c.Good) (cmd : CommandPacket)
    (delay_ms : UInt32) : (c.scheduleCommandInMs cmd delay_ms).1.Good := by
  unfold CommandSequencerComponent.scheduleCommandInMs
  split
  · rename_i i _
    refine ⟨h.1.write rfl rfl rfl (fun j => rfl) (fun _ => ⟨delay_ms, c.met, rfl, rfl, le_rfl⟩)
      fun _ _ _ _ => rfl, ?_, ?_⟩
    · exact Logs.justified_concat.mpr ⟨h.2.on_time, trivial⟩
    · exact h.2.offered_eq.trans (Logs.filterMap_concat_of_none rfl c.log).symm
  · exact h.of_same ⟨rfl, rfl, rfl, rfl⟩

/-- A command keeps the queue in order. -/
theorem Good.handleCommand {c : CommandSequencerComponent} (h : c.Good) (cmd : CommandPacket) :
    (c.handleCommand cmd).Good := by
  unfold CommandSequencerComponent.handleCommand
  refine iteInduction (fun _ => h.of_same ⟨rfl, rfl, rfl, rfl⟩) fun _ => ?_
  refine iteInduction (fun _ => h.of_same ⟨rfl, rfl, rfl, rfl⟩) fun _ => ?_
  refine iteInduction (fun _ => h.of_same ⟨rfl, rfl, rfl, rfl⟩) fun _ => ?_
  refine iteInduction (fun _ => ?_) fun _ => ?_
  · have hschedule := h.scheduleCommandInMs c.staged_command_ (delayMs cmd.argument)
    unfold commit
    dsimp only
    split_ifs
    · exact hschedule.of_same ⟨rfl, rfl, rfl, rfl⟩
    · exact hschedule.of_same ⟨rfl, rfl, rfl, rfl⟩
  refine iteInduction (fun _ => h.clearQueue.of_same ⟨rfl, rfl, rfl, rfl⟩) fun _ => ?_
  exact h.of_same ⟨rfl, rfl, rfl, rfl⟩

/-! ## Sending -/

/-- A slot has been sent: it is free, its command was offered, and nothing else has changed. -/
structure Sent (c c' : CommandSequencerComponent) (i : Fin MAX_SCHEDULED) : Prop where
  queue_eq : c'.queue_ = Function.update c.queue_ i { c.queue_ i with active := false }
  log_eq : c'.log = c.log ++ [SequencerAction.offered i (c.queue_ i).command c.met]
  met_eq : c'.met = c.met
  offered_eq : c'.offered.map Prod.fst = c.offered.map Prod.fst ++ [(c.queue_ i).command]

variable {others : ℕ → CommandPort → CommandPort}

/-- A slot is sent if it is active and due, and left alone otherwise. -/
theorem dispatchSlot_cases (others : ℕ → CommandPort → CommandPort) (c : CommandSequencerComponent)
    (i : Fin MAX_SCHEDULED) :
    ((c.queue_ i).active = true ∧ isDue c.getMET (c.queue_ i).release_met_ms = true ∧
        Sent c (dispatchSlot others c i) i) ∨
      (((c.queue_ i).active = true → isDue c.getMET (c.queue_ i).release_met_ms = false) ∧
        dispatchSlot others c i = c) := by
  have hoffered : (c.sendReported others (c.queue_ i).command (ascii "SEQ_SEND_FAIL")
      (ascii "SEQ_SENT")).offered.map Prod.fst =
        c.offered.map Prod.fst ++ [(c.queue_ i).command] := by
    rw [(Commander.sameOutlet_sendReported ..).offered_eq]
    exact List.map_append
  unfold dispatchSlot
  dsimp only
  split_ifs with hdue
  · rw [Bool.and_eq_true] at hdue
    exact Or.inl ⟨hdue.1, hdue.2, rfl, rfl, rfl, hoffered⟩
  · refine Or.inr ⟨fun hactive => ?_, rfl⟩
    rw [hactive, Bool.true_and] at hdue
    exact Bool.eq_false_iff.mpr hdue

/-- Sending a slot keeps the queue in order. -/
theorem Queued.sent {c c' : CommandSequencerComponent} (h : c.Queued) {i : Fin MAX_SCHEDULED}
    (hsent : Sent c c' i) : c'.Queued :=
  h.write hsent.queue_eq hsent.log_eq hsent.met_eq (fun _ => rfl) nofun nofun

/-- A command that is near its release time is sent on time. -/
theorem Good.sent {c c' : CommandSequencerComponent} (h : c.Good) {i : Fin MAX_SCHEDULED}
    (hactive : (c.queue_ i).active = true)
    (hdue : isDue c.getMET (c.queue_ i).release_met_ms = true) (hnear : c.Near i)
    (hsent : Sent c c' i) : c'.Good := by
  refine ⟨h.1.sent hsent, ?_, ?_⟩
  · rw [hsent.log_eq]
    refine Logs.justified_concat.mpr ⟨h.2.on_time, ?_⟩
    obtain ⟨delay_ms, met, hlast, hrelease, hle⟩ := h.1.scheduled i hactive
    rw [hrelease] at hdue
    -- A command that is due without being released is far, which none is.
    rcases released_or_far_of_isDue hle hdue with hreleased | hfar
    · exact ⟨delay_ms, met, hreleased, hlast⟩
    · exact absurd (hnear _ _ _ hlast) (not_le.mpr hfar)
  · rw [hsent.offered_eq, hsent.log_eq, h.2.offered_eq]
    exact (Logs.filterMap_concat_of_some (f := SequencerAction.offeredCommand) rfl c.log).symm

/-- Sending a slot leaves the other commands as near as they are. -/
theorem near_of_sent {c c' : CommandSequencerComponent} {i j : Fin MAX_SCHEDULED}
    (hsent : Sent c c' i) (hne : j ≠ i) : c'.Near j ↔ c.Near j := by
  have hlast : Logs.last (SequencerAction.touches j) c'.log =
      Logs.last (SequencerAction.touches j) c.log := by
    rw [hsent.log_eq, Logs.last_concat_of_slot fun _ => rfl, if_neg hne.symm]
  unfold Near
  rw [hlast, hsent.met_eq]

/-- A slot that was sent has no command that could be far. -/
theorem near_self_of_sent {c c' : CommandSequencerComponent} {i : Fin MAX_SCHEDULED}
    (hsent : Sent c c' i) : c'.Near i := by
  intro cmd delay_ms met hlast
  rw [hsent.log_eq, Logs.last_concat_of_slot fun _ => rfl, if_pos rfl] at hlast
  exact absurd hlast nofun

/-- When all commands are near their release times, they are sent on time. -/
theorem Good.dispatch {c : CommandSequencerComponent} (h : c.Good) (hnear : ∀ i, c.Near i) :
    (c.dispatch others).Good := by
  have hslot (d : CommandSequencerComponent) (i : Fin MAX_SCHEDULED)
      (hd : d.Good ∧ ∀ j, d.Near j) :
      (dispatchSlot others d i).Good ∧ ∀ j, (dispatchSlot others d i).Near j := by
    rcases dispatchSlot_cases others d i with ⟨hactive, hdue, hsent⟩ | ⟨-, heq⟩
    · refine ⟨hd.1.sent hactive hdue (hd.2 i) hsent, fun j => ?_⟩
      rcases eq_or_ne j i with rfl | hne
      · exact near_self_of_sent hsent
      · exact (near_of_sent hsent hne).mpr (hd.2 j)
    · rw [heq]
      exact hd
  exact (run_invariant hslot ⟨h, hnear⟩ (List.finRange MAX_SCHEDULED)).1

/-- Sending appends to the log. -/
theorem log_prefix_dispatchSlot (c : CommandSequencerComponent) (i : Fin MAX_SCHEDULED) :
    c.log <+: (dispatchSlot others c i).log := by
  rcases dispatchSlot_cases others c i with ⟨-, -, hsent⟩ | ⟨-, heq⟩
  · rw [hsent.log_eq]
    exact List.prefix_append _ _
  · rw [heq]

/-- Dispatching only adds to the log. -/
theorem log_prefix_foldl (c : CommandSequencerComponent) (slots : List (Fin MAX_SCHEDULED)) :
    c.log <+: (slots.foldl (dispatchSlot others) c).log := by
  induction slots generalizing c with
  | nil => exact List.prefix_rfl
  | cons i slots ih => exact (c.log_prefix_dispatchSlot i).trans (ih (dispatchSlot others c i))

/-- What a slot sends is on time only if the slot is near. -/
theorem Queued.near_of_justified {c : CommandSequencerComponent} (h : c.Queued)
    {i : Fin MAX_SCHEDULED}
    (hjust : Logs.Justified SequencerAction.OnTime (dispatchSlot others c i).log) : c.Near i := by
  intro cmd delay_ms met hlast
  rcases dispatchSlot_cases others c i with ⟨-, -, hsent⟩ | ⟨hdue, -⟩
  · rw [hsent.log_eq] at hjust
    obtain ⟨delay_ms', met', hreleased, hlast'⟩ := (Logs.justified_concat.mp hjust).2
    obtain ⟨-, -, rfl, rfl⟩ :=
      SequencerAction.scheduled.inj (Option.some.inj (hlast.symm.trans hlast'))
    exact hreleased.trans (Nat.le_add_right _ _)
  · -- A command that is far would have been due.
    have hactive := h.active i cmd delay_ms met hlast
    obtain ⟨delay_ms', met', hlast', hrelease, hle⟩ := h.scheduled i hactive
    obtain ⟨-, -, rfl, rfl⟩ :=
      SequencerAction.scheduled.inj (Option.some.inj (hlast.symm.trans hlast'))
    have hnot := hdue hactive
    rw [hrelease] at hnot
    by_contra hfar
    exact absurd (hnot.symm.trans (isDue_of_far hle (not_le.mp hfar))) nofun

/-- What the slots send is on time only if they all are near. -/
theorem Queued.near_of_justified_foldl {c : CommandSequencerComponent} (h : c.Queued)
    {slots : List (Fin MAX_SCHEDULED)}
    (hjust : Logs.Justified SequencerAction.OnTime (slots.foldl (dispatchSlot others) c).log) :
    ∀ i ∈ slots, c.Near i := by
  induction slots generalizing c with
  | nil => exact nofun
  | cons i slots ih =>
    have hself : c.Near i := h.near_of_justified (hjust.of_prefix (log_prefix_foldl _ slots))
    intro j hj
    rcases eq_or_ne j i with rfl | hne
    · exact hself
    · have hmem : j ∈ slots := (List.mem_cons.mp hj).resolve_left hne
      rcases dispatchSlot_cases others c i with ⟨-, -, hsent⟩ | ⟨-, heq⟩
      · exact (near_of_sent hsent hne).mp (ih (h.sent hsent) hjust j hmem)
      · rw [List.foldl_cons, heq] at hjust
        exact ih h hjust j hmem

/-! ## Runs -/

/-- No command with more than `2^31` ms to go is looked at. -/
def Calm (c : CommandSequencerComponent) (op : SequencerOp) : Prop :=
  op = SequencerOp.dispatch → ∀ i, c.Near i

/-- An operation that looks at no command far from its release time keeps everything in order. -/
theorem Good.apply {c : CommandSequencerComponent} (h : c.Good) {op : SequencerOp}
    (hcalm : c.Calm op) : (c.apply others op).Good := by
  cases op with
  | init => exact h.of_same ⟨rfl, rfl, rfl, rfl⟩
  | advance ms => exact h.advance ms
  | scheduleCommandInMs cmd delay_ms => exact h.scheduleCommandInMs cmd delay_ms
  | handleCommand cmd => exact h.handleCommand cmd
  | dispatch => exact h.dispatch (hcalm rfl)
  | report => exact h.of_same ⟨rfl, rfl, rfl, rfl⟩
  | outputs event_out telemetry_out => exact h.of_same ⟨rfl, rfl, rfl, rfl⟩

/-- A component as constructed is in order. -/
theorem good_create (base : Component) : (create base).Good :=
  ⟨⟨fun _ hi => absurd hi nofun, nofun⟩, Logs.Justified.nil, rfl⟩

/-- In every state of a run the commands were offered as scheduled, once, on time, and not after the
queue was cleared, exactly when no command with more than `2^31` ms to go was looked at. -/
theorem on_time_iff (others : ℕ → CommandPort → CommandPort) (base : Component)
    (ops : List SequencerOp) :
    (∀ pre, pre <+: ops → (run (apply others) (create base) pre).Punctual) ↔
      Along (apply others) Calm (create base) ops := by
  have hinv (c : CommandSequencerComponent) (op : SequencerOp) (h : c.Good) (hcalm : c.Calm op) :
      (c.apply others op).Good := h.apply hcalm
  have hgood (c : CommandSequencerComponent) (h : c.Good) : c.Punctual := h.2
  have hexact (c : CommandSequencerComponent) (op : SequencerOp) (h : c.Good)
      (hpunctual : (c.apply others op).Punctual) : c.Calm op := by
    rintro rfl i
    exact h.1.near_of_justified_foldl hpunctual.on_time i (List.mem_finRange i)
  exact forall_prefix_iff_along hinv hgood hexact (good_create base) ops

/-- All commands were scheduled in the past, with delays of at most `2^31` ms. -/
def ShortDelays (c : CommandSequencerComponent) : Prop :=
  ∀ i cmd delay_ms met, SequencerAction.scheduled i cmd delay_ms met ∈ c.log →
    met ≤ c.met ∧ delay_ms.toNat ≤ 2^31

/-- The delay of an operation that schedules a command is at most `2^31` ms. -/
def ShortDelay : SequencerOp → Prop
  | SequencerOp.scheduleCommandInMs _ delay_ms => delay_ms.toNat ≤ 2^31
  | SequencerOp.handleCommand cmd =>
    cmd.opcode = OP_COMMIT_DELAY_SECONDS → (delayMs cmd.argument).toNat ≤ 2^31
  | _ => True

/-- A command with a short delay is never far from its release time. -/
theorem ShortDelays.near {c : CommandSequencerComponent} (h : c.ShortDelays)
    (i : Fin MAX_SCHEDULED) : c.Near i := by
  intro cmd delay_ms met hlast
  obtain ⟨hmet, hdelay⟩ := h i cmd delay_ms met (Logs.of_last_eq_some hlast).1
  exact Nat.add_le_add hmet hdelay

/-- Delays stay short when time passes and the log does not change. -/
theorem ShortDelays.of_log_eq {c c' : CommandSequencerComponent} (h : c.ShortDelays)
    (hlog : c'.log = c.log) (hmet : c.met ≤ c'.met) : c'.ShortDelays := by
  intro i cmd delay_ms met hmem
  rw [hlog] at hmem
  obtain ⟨hle, hdelay⟩ := h i cmd delay_ms met hmem
  exact ⟨hle.trans hmet, hdelay⟩

/-- Delays stay short when a command with a short delay is added to the log. -/
theorem ShortDelays.concat {c c' : CommandSequencerComponent} (h : c.ShortDelays)
    {action : SequencerAction} (hlog : c'.log = c.log ++ [action]) (hmet : c'.met = c.met)
    (haction : ∀ i cmd delay_ms met, action = SequencerAction.scheduled i cmd delay_ms met →
      met ≤ c.met ∧ delay_ms.toNat ≤ 2^31) : c'.ShortDelays := by
  intro i cmd delay_ms met hmem
  rw [hlog, List.mem_append, List.mem_singleton] at hmem
  rw [hmet]
  rcases hmem with hmem | heq
  · exact h i cmd delay_ms met hmem
  · exact haction i cmd delay_ms met heq.symm

/-- Scheduling with a short delay keeps the delays short. -/
theorem ShortDelays.scheduleCommandInMs {c : CommandSequencerComponent} (h : c.ShortDelays)
    (cmd : CommandPacket) {delay_ms : UInt32} (hdelay : delay_ms.toNat ≤ 2^31) :
    (c.scheduleCommandInMs cmd delay_ms).1.ShortDelays := by
  unfold CommandSequencerComponent.scheduleCommandInMs
  split
  · refine h.concat rfl rfl fun i cmd' delay_ms' met heq => ?_
    obtain ⟨-, -, rfl, rfl⟩ := SequencerAction.scheduled.inj heq
    exact ⟨le_rfl, hdelay⟩
  · exact h.of_log_eq rfl le_rfl

/-- A command with a short delay keeps the delays short. -/
theorem ShortDelays.handleCommand {c : CommandSequencerComponent} (h : c.ShortDelays)
    {cmd : CommandPacket} (hshort : ShortDelay (SequencerOp.handleCommand cmd)) :
    (c.handleCommand cmd).ShortDelays := by
  unfold CommandSequencerComponent.handleCommand
  refine iteInduction (fun _ => h.of_log_eq rfl le_rfl) fun _ => ?_
  refine iteInduction (fun _ => h.of_log_eq rfl le_rfl) fun _ => ?_
  refine iteInduction (fun _ => h.of_log_eq rfl le_rfl) fun _ => ?_
  refine iteInduction (fun hcommit => ?_) fun _ => ?_
  · have hschedule := h.scheduleCommandInMs c.staged_command_ (hshort hcommit)
    unfold commit
    dsimp only
    split_ifs
    · exact hschedule.of_log_eq rfl le_rfl
    · exact hschedule.of_log_eq rfl le_rfl
  refine iteInduction (fun _ => h.concat rfl rfl nofun) fun _ => ?_
  exact h.of_log_eq rfl le_rfl

/-- Every operation with a short delay keeps the delays short. -/
theorem ShortDelays.apply {c : CommandSequencerComponent} (h : c.ShortDelays) {op : SequencerOp}
    (hshort : ShortDelay op) : (c.apply others op).ShortDelays := by
  cases op with
  | init => exact h.of_log_eq rfl le_rfl
  | advance ms => exact h.of_log_eq rfl (Nat.le_add_right _ _)
  | scheduleCommandInMs cmd delay_ms => exact h.scheduleCommandInMs cmd hshort
  | handleCommand cmd => exact h.handleCommand hshort
  | dispatch =>
    have hslot (d : CommandSequencerComponent) (i : Fin MAX_SCHEDULED) (hd : d.ShortDelays) :
        (dispatchSlot others d i).ShortDelays := by
      rcases dispatchSlot_cases others d i with ⟨-, -, hsent⟩ | ⟨-, heq⟩
      · exact hd.concat hsent.log_eq hsent.met_eq nofun
      · rw [heq]
        exact hd
    exact run_invariant hslot h (List.finRange MAX_SCHEDULED)
  | report => exact h.of_log_eq rfl le_rfl
  | outputs event_out telemetry_out => exact h.of_log_eq rfl le_rfl

/-- In a run whose delays are all at most `2^31` ms, every command is sent on time. -/
theorem on_time_of_short_delays (others : ℕ → CommandPort → CommandPort) (base : Component)
    {ops : List SequencerOp} (hshort : ∀ op ∈ ops, ShortDelay op) :
    (run (apply others) (create base) ops).Punctual := by
  have hstep (c : CommandSequencerComponent) (op : SequencerOp) (h : c.Good ∧ c.ShortDelays)
      (hop : ShortDelay op) : (c.apply others op).Good ∧ (c.apply others op).ShortDelays :=
    ⟨h.1.apply fun _ => h.2.near, h.2.apply hop⟩
  have hcreate : (create base).Good ∧ (create base).ShortDelays := ⟨good_create base, nofun⟩
  exact (run_invariant_along hstep hcreate (Along.of_forall_mem hshort)).1.2

/-- A command with a delay of thirty-four days that is sent in the step that schedules it. -/
theorem sent_at_once :
    ¬((create (Component.create (ascii "CmdSequencer") 40)).step (fun _ port => port)
      [(0, ⟨40, OP_COMMIT_DELAY_SECONDS, Binary32.ofNat 3000000⟩)] 0 0).Punctual := by
  set c := (create (Component.create (ascii "CmdSequencer") 40)).step (fun _ port => port)
    [(0, ⟨40, OP_COMMIT_DELAY_SECONDS, Binary32.ofNat 3000000⟩)] 0 0 with hc
  have hlog : c.log = [SequencerAction.scheduled ⟨0, by decide⟩ default 3000000000 0] ++
      [SequencerAction.offered ⟨0, by decide⟩ default 0] := by
    rw [hc]
    decide +kernel
  intro h
  have hjust := h.on_time
  rw [hlog, Logs.justified_concat] at hjust
  obtain ⟨delay_ms, met, hreleased, hlast⟩ := hjust.2
  obtain ⟨-, -, hdelay, -⟩ := SequencerAction.scheduled.inj (Option.some.inj hlast)
  rw [← hdelay] at hreleased
  exact absurd ((Nat.le_add_left _ met).trans hreleased) (by decide)

end CommandSequencerComponent

end DeltaV
