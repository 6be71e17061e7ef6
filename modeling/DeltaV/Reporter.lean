import DeltaV.Port
import DeltaV.Serializer

/-!
# Reporting

What the application components share: they are components with an event output and a telemetry
output, and count an error for every packet that an output does not take (`Accounted`). The events
are also kept in a record, whether they were taken or not.

Some components also command others, through an output that is connected to the command hub. Since
several components share that queue, `others n` says what others do to it before the packet number
`n` of the component is sent.
-/

namespace DeltaV

/-- A component with its two reporting outputs. -/
structure Reporter where
  base : Component
  /-- The queue that `event_out` is connected to. -/
  event_out : Option (InputPort EventPacket DEFAULT_QUEUE_DEPTH)
  /-- The queue that `telemetry_out` is connected to. -/
  telemetry_out : Option (InputPort (List UInt8) DEFAULT_QUEUE_DEPTH)
  /-- The events given to `event_out`, in order. -/
  published : List EventPacket
  /-- The number of packets that the two outputs did not take. -/
  dropped : ℕ

/-- Whether the input port behind an output, if there is one, takes a packet. -/
def takes {T : Type*} {QUEUE_DEPTH : ℕ} (port : Option (InputPort T QUEUE_DEPTH)) (data : T) :
    Bool := port.any fun p => (p.receive data).2

namespace Reporter

/-- A component as constructed. -/
def create (base : Component) : Reporter := ⟨base, none, none, [], 0⟩

/-- `getId()`. -/
def getId (r : Reporter) : UInt32 := r.base.id

/-- The number of recorded errors. -/
def getErrorCount (r : Reporter) : UInt32 := r.base.error_count

/-- Counts one error. -/
def recordError (r : Reporter) : Reporter := { r with base := r.base.recordError }

/-- Sends an event. -/
def publishEvent (r : Reporter) (severity : UInt32) (msg : Text) : Reporter :=
  let packet := EventPacket.create severity r.getId msg
  let s := r.base.sendOrRecordError r.event_out packet
  { r with
    base := s.1
    event_out := s.2
    published := r.published ++ [packet]
    dropped := if takes r.event_out packet then r.dropped else r.dropped + 1 }

/-- Sends a telemetry value. -/
def publishTelemetry (r : Reporter) (met : UInt32) (value : Binary32) : Reporter :=
  let bytes := Serializer.packTelem ⟨met, r.getId, value⟩
  let s := r.base.sendOrRecordError r.telemetry_out bytes
  { r with
    base := s.1
    telemetry_out := s.2
    dropped := if takes r.telemetry_out bytes then r.dropped else r.dropped + 1 }

/-- Others send to and take from the queues behind the outputs. -/
def reconnect (r : Reporter) (event_out : Option (InputPort EventPacket DEFAULT_QUEUE_DEPTH))
    (telemetry_out : Option (InputPort (List UInt8) DEFAULT_QUEUE_DEPTH)) : Reporter :=
  { r with event_out := event_out, telemetry_out := telemetry_out }

/-! ## Accounting -/

/-- A packet that is not taken counts as an error. -/
theorem sendOrRecordError_fst {T : Type*} {QUEUE_DEPTH : ℕ} (c : Component)
    (port : Option (InputPort T QUEUE_DEPTH)) (data : T) :
    (c.sendOrRecordError port data).1 = if takes port data then c else c.recordError := by
  cases port <;> rfl

/-- The error count has grown by the packets that the outputs did not take and by `errors` more, and
the identity of the component is the same. -/
structure Accounted (errors : ℕ) (r r' : Reporter) : Prop where
  id_eq : r'.getId = r.getId
  dropped_le : r.dropped ≤ r'.dropped
  count_eq :
    r'.getErrorCount = r.getErrorCount + UInt32.ofNat (r'.dropped - r.dropped + errors)

/-- Nothing has been reported yet. -/
theorem Accounted.refl (r : Reporter) : Accounted 0 r r := by
  refine ⟨rfl, le_rfl, ?_⟩
  rw [Nat.sub_self]
  exact (UInt32.add_zero _).symm

/-- Errors of two parts add up. -/
theorem Accounted.trans {m n : ℕ} {r r' r'' : Reporter} (h : Accounted m r r')
    (h' : Accounted n r' r'') : Accounted (m + n) r r'' := by
  refine ⟨h'.id_eq.trans h.id_eq, h.dropped_le.trans h'.dropped_le, ?_⟩
  have hle := h.dropped_le
  have hle' := h'.dropped_le
  have hsum : r''.dropped - r.dropped + (m + n) =
      r'.dropped - r.dropped + m + (r''.dropped - r'.dropped + n) := by omega
  rw [h'.count_eq, h.count_eq, hsum, UInt32.add_assoc, ← UInt32.ofNat_add]

/-- Recording an error counts one. -/
theorem accounted_recordError (r : Reporter) : Accounted 1 r r.recordError := by
  refine ⟨rfl, le_rfl, ?_⟩
  rw [recordError, getErrorCount, Component.recordError_error_count, Nat.sub_self]
  rfl

/-- Sending through one of the two outputs counts a packet that is not taken. -/
theorem accounted_of_send {r r' : Reporter} {taken : Bool}
    (hbase : r'.base = if taken then r.base else r.base.recordError)
    (hdropped : r'.dropped = if taken then r.dropped else r.dropped + 1) : Accounted 0 r r' := by
  cases taken
  · rw [if_neg Bool.false_ne_true] at hbase hdropped
    refine ⟨?_, by omega, ?_⟩
    · rw [getId, hbase]
      rfl
    · rw [getErrorCount, hbase, hdropped, Nat.add_sub_cancel_left]
      rfl
  · rw [if_pos rfl] at hbase hdropped
    refine ⟨?_, by omega, ?_⟩
    · rw [getId, hbase]
      rfl
    · rw [getErrorCount, hbase, hdropped, Nat.sub_self]
      exact (UInt32.add_zero _).symm

/-- An event counts no error. -/
theorem accounted_publishEvent (r : Reporter) (severity : UInt32) (msg : Text) :
    Accounted 0 r (r.publishEvent severity msg) :=
  accounted_of_send (sendOrRecordError_fst r.base r.event_out _) rfl

/-- Telemetry counts no error. -/
theorem accounted_publishTelemetry (r : Reporter) (met : UInt32) (value : Binary32) :
    Accounted 0 r (r.publishTelemetry met value) :=
  accounted_of_send (sendOrRecordError_fst r.base r.telemetry_out _) rfl

/-- An error that is reported. -/
theorem accounted_reject (r : Reporter) (severity : UInt32) (msg : Text) :
    Accounted 1 r (r.recordError.publishEvent severity msg) :=
  r.accounted_recordError.trans (r.recordError.accounted_publishEvent severity msg)

/-- An event keeps the identifier. -/
@[simp] theorem getId_publishEvent (r : Reporter) (severity : UInt32) (msg : Text) :
    (r.publishEvent severity msg).getId = r.getId := (r.accounted_publishEvent severity msg).id_eq

end Reporter

/-! ## Commanding -/

/-- The queue that a command output is connected to. -/
abbrev CommandPort := Option (InputPort CommandPacket DEFAULT_QUEUE_DEPTH)

/-- A reporter with a command output. -/
structure Commander extends Reporter where
  command_out : CommandPort
  /-- The packets given to `command_out`, and whether they were accepted. -/
  offered : List (CommandPacket × Bool)

namespace Commander

/-- A component as constructed. -/
def create (base : Component) : Commander :=
  { Reporter.create base with command_out := none, offered := [] }

/-- `command_out.send(cmd)`. -/
def send (others : ℕ → CommandPort → CommandPort) (d : Commander) (cmd : CommandPacket) :
    Commander :=
  let port := others d.offered.length d.command_out
  { d with
    command_out := port.map fun p => (p.receive cmd).1
    offered := d.offered ++ [(cmd, takes port cmd)] }

/-- Whether `command_out.send(cmd)` succeeds. -/
def accepts (others : ℕ → CommandPort → CommandPort) (d : Commander) (cmd : CommandPacket) : Bool :=
  takes (others d.offered.length d.command_out) cmd

/-- Counts one error. -/
def recordError (d : Commander) : Commander := { d with toReporter := d.toReporter.recordError }

/-- Sends an event. -/
def publishEvent (d : Commander) (severity : UInt32) (msg : Text) : Commander :=
  { d with toReporter := d.toReporter.publishEvent severity msg }

/-- Sends a telemetry value. -/
def publishTelemetry (d : Commander) (met : UInt32) (value : Binary32) : Commander :=
  { d with toReporter := d.toReporter.publishTelemetry met value }

/-- Sends a command and an event about it; one that is refused is an error too. -/
def sendReported (others : ℕ → CommandPort → CommandPort) (d : Commander) (cmd : CommandPacket)
    (failed sent : Text) : Commander :=
  if d.accepts others cmd = false then
    (d.send others cmd).recordError.publishEvent Severity.WARNING failed
  else (d.send others cmd).publishEvent Severity.INFO sent

/-- Sends commands, one after the other. -/
def sendAll (others : ℕ → CommandPort → CommandPort) (d : Commander) (cmds : List CommandPacket) :
    Commander := cmds.foldl (send others) d

/-- The command output is in the same state. -/
structure SameOutlet (d d' : Commander) : Prop where
  command_out_eq : d'.command_out = d.command_out
  offered_eq : d'.offered = d.offered

/-- A commander has the outlet that it has. -/
theorem SameOutlet.refl (d : Commander) : SameOutlet d d := ⟨rfl, rfl⟩

/-- Outlets that are the same are the same as a third. -/
theorem SameOutlet.trans {d d' d'' : Commander} (h : SameOutlet d d') (h' : SameOutlet d' d'') :
    SameOutlet d d'' :=
  ⟨h'.command_out_eq.trans h.command_out_eq, h'.offered_eq.trans h.offered_eq⟩

/-- Reporting does not change the output. -/
theorem sameOutlet_sendReported (others : ℕ → CommandPort → CommandPort) (d : Commander)
    (cmd : CommandPacket) (failed sent : Text) :
    SameOutlet (d.send others cmd) (d.sendReported others cmd failed sent) := by
  unfold sendReported
  split_ifs
  · exact ⟨rfl, rfl⟩
  · exact ⟨rfl, rfl⟩

/-- What is sent depends on the state of the output only. -/
theorem SameOutlet.send {d d' : Commander} (h : SameOutlet d d')
    (others : ℕ → CommandPort → CommandPort) (cmd : CommandPacket) :
    SameOutlet (d.send others cmd) (d'.send others cmd) := by
  unfold Commander.send
  constructor
  · rw [h.command_out_eq, h.offered_eq]
  · rw [h.command_out_eq, h.offered_eq]

/-- Commanders with the same outlet still have it after the same commands. -/
theorem SameOutlet.sendAll {d d' : Commander} (h : SameOutlet d d')
    (others : ℕ → CommandPort → CommandPort) (cmds : List CommandPacket) :
    SameOutlet (d.sendAll others cmds) (d'.sendAll others cmds) := by
  unfold Commander.sendAll
  induction cmds generalizing d d' with
  | nil => exact h
  | cons cmd cmds ih => exact ih (h.send others cmd)

end Commander

end DeltaV
