import DeltaV.Component
import DeltaV.FloatText
import DeltaV.Lib.Lines
import DeltaV.Lib.Runs
import DeltaV.Serializer

/-!
# The flight recorder

On the host the logger appends a header line and then a line for each telemetry packet to one file,
and the events to another. A file only grows, so after any number of sessions in which all is
written the telemetry file is the headers and the lines of the packets in order
(`recordAll_telemetry`).
-/

namespace DeltaV

/-! ## Files -/

/-- A file, and the stream that appends to it. -/
structure LogStream where
  is_open : Bool
  good : Bool
  /-- The text in the file; `none` when there is no file. -/
  content : Option Text
deriving DecidableEq, Repr

/-- How the host opens a file and takes the header; `failed` is the number of bytes that reach the
file when not all do. -/
structure LogHost where
  can_open : Bool
  failed : Option ℕ
deriving DecidableEq, Repr

namespace LogStream

/-- `open`. A stream that is open already keeps its file and is no longer good. -/
def openAppend (s : LogStream) (can_open : Bool) : LogStream :=
  if s.is_open then { s with good := false }
  else if can_open then ⟨true, true, some (s.content.getD [])⟩
  else { s with good := false }

/-- `<<`. A stream that is not good takes nothing. -/
def write (s : LogStream) (t : Text) (failed : Option ℕ) : LogStream :=
  if s.good = false then s
  else
    match failed with
    | none => { s with content := s.content.map (· ++ t) }
    | some k => ⟨s.is_open, false, s.content.map (· ++ t.take k)⟩

/-- `close`. -/
def close (s : LogStream) : LogStream := { s with is_open := false }

/-- Opens the file and writes the header; the flag says whether the log is available. -/
def start (s : LogStream) (header : Text) (host : LogHost) : LogStream × Bool :=
  let s := s.openAppend host.can_open
  let s := if s.is_open then s.write header host.failed else s
  let available := s.is_open && s.good
  (if available then s else s.close, available)

end LogStream

/-! ## The component -/

/-- The logger. -/
structure LoggerComponent where
  base : Component
  telem_log : LogStream
  event_log : LogStream
  telem_log_available_ : Bool
  event_log_available_ : Bool
  telem_drop_reported_ : Bool
  event_drop_reported_ : Bool
  telem_packet_count : UInt32

namespace LoggerComponent

/-- The first line of a session in the telemetry file, without its end. -/
def telemetryHeader : Text := ascii "timestamp_ms,component_id,data_payload"

/-- The first line of a session in the event file. -/
def sessionStart (met : UInt32) : Text :=
  ascii "--- SESSION START T+" ++ decimal met.toNat ++ ascii " ---\n"

/-- The line of a packet, without its end. -/
def telemetryLine (p : TelemetryPacket) : Text :=
  decimal p.timestamp_ms.toNat ++ ascii "," ++ decimal p.component_id.toNat ++ ascii "," ++
    formatG p.data_payload

/-- The line of an event. -/
def eventLine (met : UInt32) (evt : EventPacket) : Text :=
  ascii "[T+" ++ decimal met.toNat ++ ascii "][" ++
    (if evt.severity = Severity.CRITICAL then ascii "CRIT"
      else if evt.severity = Severity.WARNING then ascii "WARN" else ascii "INFO") ++
    ascii "][ID" ++ decimal evt.source_id.toNat ++ ascii "] " ++ cstr evt.message ++ ascii "\n"

/-- A component as constructed, with what is in its files. -/
def create (base : Component) (files : Option Text × Option Text) : LoggerComponent :=
  { base := base
    telem_log := ⟨false, true, files.1⟩
    event_log := ⟨false, true, files.2⟩
    telem_log_available_ := false
    event_log_available_ := false
    telem_drop_reported_ := false
    event_drop_reported_ := false
    telem_packet_count := 0 }

/-- Starts a session. -/
def init (c : LoggerComponent) (telem event : LogHost) (met : UInt32) : LoggerComponent :=
  let t := c.telem_log.start (telemetryHeader ++ ascii "\n") telem
  let e := c.event_log.start (sessionStart met) event
  let base := if t.2 then c.base else c.base.recordError
  { c with
    base := if e.2 then base else base.recordError
    telem_log := t.1
    event_log := e.1
    telem_log_available_ := t.2
    event_log_available_ := e.2
    telem_drop_reported_ := false
    event_drop_reported_ := false }

/-- Logs a telemetry packet. What is written reaches the file at once, so flushing adds nothing. -/
def logTelemetry (c : LoggerComponent) (raw : List UInt8) (failed : Option ℕ) : LoggerComponent :=
  let p := Serializer.unpackTelem raw
  if c.telem_log_available_ = false then
    if c.telem_drop_reported_ then c
    else { c with base := c.base.recordError, telem_drop_reported_ := true }
  else if c.telem_log.is_open = false then c
  else
    let log := c.telem_log.write (telemetryLine p ++ ascii "\n") failed
    let c := { c with telem_log := log, telem_packet_count := c.telem_packet_count + 1 }
    if log.good then c
    else
      { c with
        base := c.base.recordError
        telem_log_available_ := false
        telem_drop_reported_ := false }

/-- Logs an event. -/
def logEvent (c : LoggerComponent) (met : UInt32) (evt : EventPacket) (failed : Option ℕ) :
    LoggerComponent :=
  if c.event_log_available_ = false then
    if c.event_drop_reported_ then c
    else { c with base := c.base.recordError, event_drop_reported_ := true }
  else if c.event_log.is_open = false then c
  else
    let log := c.event_log.write (eventLine met evt) failed
    let c := { c with event_log := log }
    if log.good then c
    else
      { c with
        base := c.base.recordError
        event_log_available_ := false
        event_drop_reported_ := false }

/-- The destructor closes the streams, and leaves the files. -/
def destroy (c : LoggerComponent) : Option Text × Option Text :=
  (c.telem_log.close.content, c.event_log.close.content)

end LoggerComponent

/-- What can happen to the logger; a step is several of the last two. -/
inductive LoggerOp where
  | init (telem event : LogHost) (met : UInt32)
  | logTelemetry (raw : List UInt8) (failed : Option ℕ)
  | logEvent (met : UInt32) (evt : EventPacket) (failed : Option ℕ)

/-- The next state. -/
def LoggerComponent.apply (c : LoggerComponent) : LoggerOp → LoggerComponent
  | LoggerOp.init telem event met => c.init telem event met
  | LoggerOp.logTelemetry raw failed => c.logTelemetry raw failed
  | LoggerOp.logEvent met evt failed => c.logEvent met evt failed

namespace LoggerOp

/-- A telemetry packet that is written, or any event. -/
def Stores : LoggerOp → Prop
  | init _ _ _ => False
  | logTelemetry _ failed => failed = none
  | logEvent _ _ _ => True

/-- The telemetry packet of an operation. -/
def packet : LoggerOp → Option TelemetryPacket
  | logTelemetry raw _ => some (Serializer.unpackTelem raw)
  | _ => none

end LoggerOp

/-! ## Sessions -/

/-- A session in which the telemetry file is written. -/
structure LoggerSession where
  event_host : LogHost
  met : UInt32
  ops : List LoggerOp
  stores : ∀ op ∈ ops, op.Stores

namespace LoggerSession

/-- The telemetry packets of a session. -/
def packets (s : LoggerSession) : List TelemetryPacket := s.ops.filterMap LoggerOp.packet

/-- The files after a session. -/
def record (base : Component) (files : Option Text × Option Text) (s : LoggerSession) :
    Option Text × Option Text :=
  (run LoggerComponent.apply
    ((LoggerComponent.create base files).init ⟨true, none⟩ s.event_host s.met) s.ops).destroy

/-- The lines that a session adds to the telemetry file, without their ends. -/
def lines (s : LoggerSession) : List Text :=
  LoggerComponent.telemetryHeader :: s.packets.map LoggerComponent.telemetryLine

end LoggerSession

namespace LoggerComponent

/-- The telemetry log takes whole lines. -/
structure Logging (c : LoggerComponent) (content : Text) : Prop where
  available : c.telem_log_available_ = true
  log_eq : c.telem_log = ⟨true, true, some content⟩

/-- After `init()` the telemetry file holds what it had and the header. -/
theorem logging_init (base : Component) (files : Option Text × Option Text) (event : LogHost)
    (met : UInt32) :
    ((create base files).init ⟨true, none⟩ event met).Logging
      (files.1.getD [] ++ (telemetryHeader ++ ascii "\n")) := ⟨rfl, rfl⟩

/-- What is stored is added to the end of the telemetry file. -/
theorem Logging.apply {c : LoggerComponent} {content : Text} (h : c.Logging content) {op : LoggerOp}
    (hop : op.Stores) :
    (c.apply op).Logging
      (content ++ op.packet.toList.flatMap fun p => telemetryLine p ++ ascii "\n") := by
  cases op with
  | init => exact hop.elim
  | logTelemetry raw failed =>
    obtain rfl : failed = none := hop
    simp only [LoggerComponent.apply, logTelemetry, h.available, h.log_eq, LogStream.write,
      LoggerOp.packet, Option.toList_some, List.flatMap_singleton, Bool.true_eq_false, if_false,
      if_true, Option.map_some]
    exact ⟨rfl, rfl⟩
  | logEvent met evt failed =>
    have hnone : (LoggerOp.logEvent met evt failed).packet = none := rfl
    rw [hnone, Option.toList_none, List.flatMap_nil, List.append_nil, LoggerComponent.apply,
      logEvent]
    -- Whatever happens to the event file, the telemetry log is left alone.
    split_ifs
    · exact ⟨h.available, h.log_eq⟩
    · exact ⟨h.available, h.log_eq⟩
    · exact ⟨h.available, h.log_eq⟩
    · dsimp only
      split_ifs
      · exact ⟨h.available, h.log_eq⟩
      · exact ⟨h.available, h.log_eq⟩

/-- So are the packets of a run. -/
theorem Logging.run {c : LoggerComponent} {content : Text} (h : c.Logging content)
    {ops : List LoggerOp} (hops : ∀ op ∈ ops, op.Stores) :
    (DeltaV.run LoggerComponent.apply c ops).Logging
      (content ++ (ops.filterMap LoggerOp.packet).flatMap fun p =>
        telemetryLine p ++ ascii "\n") := by
  induction ops generalizing c content with
  | nil => exact (List.append_nil content).symm ▸ h
  | cons op ops ih =>
    obtain ⟨hop, hops⟩ := List.forall_mem_cons.mp hops
    have hsplit : (op :: ops).filterMap LoggerOp.packet =
        op.packet.toList ++ ops.filterMap LoggerOp.packet := by
      cases hpacket : op.packet with
      | none => rw [List.filterMap_cons_none hpacket, Option.toList_none, List.nil_append]
      | some p =>
        rw [List.filterMap_cons_some hpacket, Option.toList_some, List.singleton_append]
    rw [hsplit, List.flatMap_append, ← List.append_assoc]
    exact ih (h.apply hop) hops

end LoggerComponent

/-- The files after some sessions, where there was none before. -/
def recordAll (base : Component) (sessions : List LoggerSession) : Option Text × Option Text :=
  sessions.foldl (fun files s => s.record base files) (none, none)

/-- The telemetry file of some sessions has the lines of these sessions. -/
theorem recordAll_telemetry (base : Component) (sessions : List LoggerSession) :
    (recordAll base sessions).1.getD [] =
      (sessions.flatMap LoggerSession.lines).flatMap fun line => line ++ ascii "\n" := by
  unfold recordAll
  induction sessions using List.reverseRecOn with
  | nil => rfl
  | append_singleton sessions s ih =>
    rw [List.foldl_concat, List.flatMap_append, List.flatMap_append, ← ih]
    generalize sessions.foldl (fun files s => s.record base files) (none, none) = files
    have hlog := (LoggerComponent.logging_init base files s.event_host s.met).run s.stores
    have hcontent : (s.record base files).1 = some (files.1.getD [] ++
        (LoggerComponent.telemetryHeader ++ ascii "\n") ++
          s.packets.flatMap fun p => LoggerComponent.telemetryLine p ++ ascii "\n") :=
      congrArg LogStream.content hlog.log_eq
    rw [hcontent, Option.getD_some, List.append_assoc, List.flatMap_singleton,
      LoggerSession.lines, List.flatMap_cons, List.flatMap_map]

end DeltaV
