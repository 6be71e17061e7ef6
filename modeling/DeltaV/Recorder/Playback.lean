import DeltaV.FloatWords
import DeltaV.Recorder.Logger
import DeltaV.Recorder.Scan
import DeltaV.Reporter

/-!
# Store and forward

Playback loads the samples of the telemetry file that the logger has written and sends them again.
Headers are skipped, and a line is scanned as the packet that it was printed from, but for the
payload, which comes back as the nearest number to its six printed digits. From any state on, what is
sent after loading are the samples in order, one for each emission (`replaying_run`), so the packets
are replayed as they were exactly when six digits determine each payload
(`store_and_forward_iff`).
-/

namespace DeltaV

/-- One sample of the file. -/
structure LoggedSample where
  timestamp_ms : UInt32
  component_id : UInt32
  value : Binary32
deriving DecidableEq, Repr

/-- The packet that a sample is sent as. -/
def LoggedSample.packet (s : LoggedSample) : TelemetryPacket :=
  ⟨s.timestamp_ms, s.component_id, s.value⟩

def MAX_SAMPLES : ℕ := 2048

def MIN_INTERVAL_MS : UInt32 := 20

/-- The component. The log keeps the packets given to `telemetry_out`, in order. -/
structure PlaybackComponent extends Reporter where
  /-- The samples below the count. -/
  samples_ : List LoggedSample
  bounded : samples_.length ≤ MAX_SAMPLES
  cursor_ : ℕ
  active_ : Bool
  interval_ms_ : UInt32
  last_emit_ms_ : UInt32
  replayed : List TelemetryPacket

namespace PlaybackComponent

def OP_LOAD_LOG : UInt32 := 1

def OP_START : UInt32 := 2

def OP_STOP : UInt32 := 3

def OP_REWIND : UInt32 := 4

def OP_STEP_ONCE : UInt32 := 5

def OP_SET_RATE_HZ : UInt32 := 6

/-- A component as constructed. -/
def create (base : Component) : PlaybackComponent :=
  { Reporter.create base with
    samples_ := []
    bounded := Nat.zero_le _
    cursor_ := 0
    active_ := false
    interval_ms_ := 200
    last_emit_ms_ := 0
    replayed := [] }

/-- Counts one error. -/
def recordError (c : PlaybackComponent) : PlaybackComponent :=
  { c with toReporter := c.toReporter.recordError }

/-- Sends an event. -/
def publishEvent (c : PlaybackComponent) (severity : UInt32) (msg : Text) : PlaybackComponent :=
  { c with toReporter := c.toReporter.publishEvent severity msg }

/-! ## Loading -/

/-- A byte of the format that stands for itself. -/
def scanByte (c : UInt8) (t : Text) : Option Text := if t.head? = some c then some t.tail else none

/-- `sscanf` of a line with the format `%u,%u,%f`. -/
def scanSample (line : Text) : Option LoggedSample :=
  (scanUnsigned (cstr line)).bind fun t =>
    (scanByte 44 t.2).bind fun rest =>
      (scanUnsigned rest).bind fun id =>
        (scanByte 44 id.2).bind fun rest =>
          (scanFloat rest).map fun value => ⟨t.1, id.1, value⟩

/-- The sample of a line; a line that begins with no digit is skipped. -/
def readSample (line : Text) : Option LoggedSample :=
  if line.head?.any isDigit then scanSample line else none

/-- The loop over the lines, which stops when there is no more room. -/
def loadSamples : List Text → List LoggedSample → List LoggedSample
  | [], samples => samples
  | line :: lines, samples =>
    if samples.length < MAX_SAMPLES then loadSamples lines (samples ++ (readSample line).toList)
    else samples

/-- The samples of the lines, as many as there is room for. -/
theorem loadSamples_eq (lines : List Text) {samples : List LoggedSample}
    (h : samples.length ≤ MAX_SAMPLES) :
    loadSamples lines samples = (samples ++ lines.filterMap readSample).take MAX_SAMPLES := by
  induction lines generalizing samples with
  | nil => rw [loadSamples, List.filterMap_nil, List.append_nil, List.take_of_length_le h]
  | cons line lines ih =>
    rw [loadSamples]
    split_ifs with hroom
    · have hlen : (samples ++ (readSample line).toList).length ≤ MAX_SAMPLES := by
        have := (readSample line).length_toList_le
        rw [List.length_append]
        omega
      rw [ih hlen, List.append_assoc]
      cases hline : readSample line with
      | none => rw [List.filterMap_cons_none hline, Option.toList_none, List.nil_append]
      | some s => rw [List.filterMap_cons_some hline, Option.toList_some, List.singleton_append]
    · -- The table is full, and the other lines are not read.
      rw [List.take_append_of_le_length (by omega), List.take_of_length_le h]

/-- Loads the file; the flag says whether there are any samples. -/
def loadTelemetryLog (c : PlaybackComponent) (file : Option Text) : PlaybackComponent × Bool :=
  match file with
  | none =>
    ({ c with samples_ := [], bounded := Nat.zero_le _, cursor_ := 0 }.recordError, false)
  | some text =>
    let samples := loadSamples (Lines.lines 10 text) []
    ({ c with
        samples_ := samples
        bounded := by
          rw [show samples = _ from loadSamples_eq _ (Nat.zero_le _)]
          exact List.length_take_le _ _
        cursor_ := 0 }, decide (0 < samples.length))

/-! ## Commands -/

/-- Sends the next sample. -/
def emitNext (c : PlaybackComponent) : PlaybackComponent :=
  if h : c.cursor_ < c.samples_.length then
    let p := c.samples_[c.cursor_].packet
    let bytes := Serializer.packTelem p
    let taken := takes c.telemetry_out bytes
    let c :=
      { c with
        telemetry_out := c.telemetry_out.map fun port => (port.receive bytes).1
        dropped := if taken then c.dropped else c.dropped + 1
        cursor_ := c.cursor_ + 1
        replayed := c.replayed ++ [p] }
    if taken then c
    else c.recordError.publishEvent Severity.WARNING (ascii "PLAYBACK_SEND_FAIL")
  else { c with active_ := false }.publishEvent Severity.INFO (ascii "PLAYBACK_DONE")

/-- The interval of a rate; `cast` gives the results of conversions that are undefined. -/
def intervalMs (cast : Binary32 → UInt32) (hz : Binary32) : UInt32 :=
  if hz ≤ Binary32.ofNat 0 then 1000
  else
    let bounded := castUInt32 cast (Binary32.ofNat 1000 / hz)
    if bounded < MIN_INTERVAL_MS then MIN_INTERVAL_MS else bounded

/-- Sets the rate. -/
def setRateHz (cast : Binary32 → UInt32) (c : PlaybackComponent) (hz : Binary32) :
    PlaybackComponent :=
  { c with interval_ms_ := intervalMs cast hz }.publishEvent Severity.INFO (ascii "PLAYBACK_RATE")

/-- Executes a command. -/
def handleCommand (cast : Binary32 → UInt32) (c : PlaybackComponent) (cmd : CommandPacket)
    (file : Option Text) : PlaybackComponent :=
  if cmd.opcode = OP_LOAD_LOG then
    let r := c.loadTelemetryLog file
    if r.2 then r.1.publishEvent Severity.INFO (ascii "PLAYBACK_LOADED")
    else r.1.publishEvent Severity.WARNING (ascii "PLAYBACK_LOAD_FAIL")
  else if cmd.opcode = OP_START then
    { c with active_ := true }.publishEvent Severity.INFO (ascii "PLAYBACK_START")
  else if cmd.opcode = OP_STOP then
    { c with active_ := false }.publishEvent Severity.INFO (ascii "PLAYBACK_STOP")
  else if cmd.opcode = OP_REWIND then
    { c with cursor_ := 0 }.publishEvent Severity.INFO (ascii "PLAYBACK_REWIND")
  else if cmd.opcode = OP_STEP_ONCE then c.emitNext
  else if cmd.opcode = OP_SET_RATE_HZ then c.setRateHz cast cmd.argument
  else c.recordError.publishEvent Severity.WARNING (ascii "PLAYBACK_BAD_OP")

/-- Starts the component. -/
def init (c : PlaybackComponent) : PlaybackComponent :=
  { c with
    samples_ := []
    bounded := Nat.zero_le _
    cursor_ := 0
    active_ := false
    interval_ms_ := 200
    last_emit_ms_ := 0 }.publishEvent Severity.INFO (ascii "PLAYBACK_READY")

/-- Whether a sample is due. -/
def isDue (c : PlaybackComponent) (now : UInt32) : Bool :=
  c.active_ && decide (c.interval_ms_ ≤ now - c.last_emit_ms_)

/-- Sends a sample when it is due. -/
def tick (c : PlaybackComponent) (now : UInt32) : PlaybackComponent :=
  if c.isDue now then { c with last_emit_ms_ := now }.emitNext else c

/-- Executes the commands in the input port, for each of which the file has some content, and sends
a sample when it is due. -/
def step (cast : Binary32 → UInt32) (c : PlaybackComponent)
    (cmds : List (CommandPacket × Option Text)) (now : UInt32) : PlaybackComponent :=
  (cmds.foldl (fun c cmd => c.handleCommand cast cmd.1 cmd.2) c).tick now

end PlaybackComponent

/-- What can happen to the component. -/
inductive PlaybackOp where
  | init
  | handleCommand (cmd : CommandPacket) (file : Option Text)
  | tick (now : UInt32)
  /-- Others send to and take from the queues behind the reporting outputs. -/
  | outputs (event_out : Option (InputPort EventPacket DEFAULT_QUEUE_DEPTH))
    (telemetry_out : Option (InputPort (List UInt8) DEFAULT_QUEUE_DEPTH))

namespace PlaybackComponent

/-- The next state. -/
def apply (cast : Binary32 → UInt32) (c : PlaybackComponent) : PlaybackOp → PlaybackComponent
  | PlaybackOp.init => c.init
  | PlaybackOp.handleCommand cmd file => c.handleCommand cast cmd file
  | PlaybackOp.tick now => c.tick now
  | PlaybackOp.outputs event_out telemetry_out =>
    { c with toReporter := c.reconnect event_out telemetry_out }

/-- A step is a run of its operations. -/
theorem step_eq_run (cast : Binary32 → UInt32) (c : PlaybackComponent)
    (cmds : List (CommandPacket × Option Text)) (now : UInt32) :
    c.step cast cmds now =
      run (apply cast) c (cmds.map (fun cmd => PlaybackOp.handleCommand cmd.1 cmd.2) ++
        [PlaybackOp.tick now]) := by
  have hcmds : run (apply cast) c (cmds.map fun cmd => PlaybackOp.handleCommand cmd.1 cmd.2) =
      cmds.foldl (fun c cmd => c.handleCommand cast cmd.1 cmd.2) c := List.foldl_map
  rw [run_append, hcmds]
  rfl

end PlaybackComponent

/-! ## Stepping -/

/-- The operation neither loads nor rewinds. -/
def PlaybackOp.Steps : PlaybackOp → Prop
  | PlaybackOp.init => False
  | PlaybackOp.handleCommand cmd _ =>
    cmd.opcode ≠ PlaybackComponent.OP_LOAD_LOG ∧ cmd.opcode ≠ PlaybackComponent.OP_REWIND
  | _ => True

namespace PlaybackComponent

/-- Whether an operation sends the next sample, if there is one. -/
def emits (c : PlaybackComponent) : PlaybackOp → Bool
  | PlaybackOp.handleCommand cmd _ => decide (cmd.opcode = OP_STEP_ONCE)
  | PlaybackOp.tick now => c.isDue now
  | _ => false

/-- The number of operations of a run that send the next sample. -/
def emissions (cast : Binary32 → UInt32) (c : PlaybackComponent) (ops : List PlaybackOp) : ℕ :=
  (history (apply cast) c ops).countP fun r => r.1.emits r.2

/-- One more operation emits at most one packet more. -/
theorem emissions_concat (cast : Binary32 → UInt32) (c : PlaybackComponent) (ops : List PlaybackOp)
    (op : PlaybackOp) :
    emissions cast c (ops ++ [op]) =
      emissions cast c ops + if (run (apply cast) c ops).emits op then 1 else 0 := by
  rw [emissions, history_concat, List.countP_append, List.countP_singleton]
  rfl

/-- After `k` emissions the cursor and the packets that were sent are where these lead. -/
structure Replaying (samples : List LoggedSample) (before : List TelemetryPacket) (k : ℕ)
    (c : PlaybackComponent) : Prop where
  samples_eq : c.samples_ = samples
  cursor_eq : c.cursor_ = min k samples.length
  replayed_eq : c.replayed = before ++ (samples.take k).map LoggedSample.packet

variable {samples : List LoggedSample} {before : List TelemetryPacket} {k : ℕ}

/-- An emission sends the next sample, if there is one. -/
theorem Replaying.emitNext {c : PlaybackComponent} (h : Replaying samples before k c) :
    Replaying samples before (k + 1) c.emitNext := by
  have hcursor := h.cursor_eq
  have hsamples := h.samples_eq
  unfold PlaybackComponent.emitNext
  split_ifs with hlt
  · have hk : k < samples.length := by
      rw [hcursor, hsamples] at hlt
      omega
    have hnext : c.cursor_ = k := by omega
    have hsample : c.samples_[c.cursor_] = samples[k] := by simp only [hsamples, hnext]
    -- The cursor has not met the end, so it is the number of emissions.
    have hnew : Replaying samples before (k + 1)
        { c with
          cursor_ := c.cursor_ + 1
          replayed := c.replayed ++ [c.samples_[c.cursor_].packet] } := by
      refine ⟨hsamples, ?_, ?_⟩
      · change c.cursor_ + 1 = _
        omega
      · change c.replayed ++ [c.samples_[c.cursor_].packet] = _
        rw [h.replayed_eq, hsample, List.take_add_one, List.getElem?_eq_getElem hk,
          Option.toList_some, List.map_append, List.map_singleton, List.append_assoc]
    dsimp only
    -- Whether the packet is taken concerns the reports only.
    split_ifs
    · exact ⟨hnew.samples_eq, hnew.cursor_eq, hnew.replayed_eq⟩
    · exact ⟨hnew.samples_eq, hnew.cursor_eq, hnew.replayed_eq⟩
  · -- At the end nothing is sent any more.
    have hk : samples.length ≤ k := by
      rw [hcursor, hsamples] at hlt
      omega
    refine ⟨hsamples, ?_, ?_⟩
    · change c.cursor_ = _
      omega
    · change c.replayed = _
      rw [h.replayed_eq, List.take_of_length_le hk, List.take_of_length_le (by omega)]

/-- A stepping operation sends the next sample or nothing. -/
theorem Replaying.apply {c : PlaybackComponent} (h : Replaying samples before k c)
    (cast : Binary32 → UInt32) {op : PlaybackOp} (hop : op.Steps) :
    Replaying samples before (k + if c.emits op then 1 else 0) (c.apply cast op) := by
  cases op with
  | init => exact hop.elim
  | handleCommand cmd file =>
    obtain ⟨hload, hrewind⟩ := hop
    simp only [PlaybackComponent.apply, handleCommand, if_neg hload, if_neg hrewind, emits,
      decide_eq_true_eq]
    by_cases honce : cmd.opcode = OP_STEP_ONCE
    · have hstart : cmd.opcode ≠ OP_START := honce ▸ by decide
      have hstop : cmd.opcode ≠ OP_STOP := honce ▸ by decide
      rw [if_pos honce, if_neg hstart, if_neg hstop, if_pos honce]
      exact h.emitNext
    · rw [if_neg honce, if_neg honce]
      split_ifs
      · exact ⟨h.samples_eq, h.cursor_eq, h.replayed_eq⟩
      · exact ⟨h.samples_eq, h.cursor_eq, h.replayed_eq⟩
      · exact ⟨h.samples_eq, h.cursor_eq, h.replayed_eq⟩
      · exact ⟨h.samples_eq, h.cursor_eq, h.replayed_eq⟩
  | tick now =>
    have hnow : Replaying samples before k { c with last_emit_ms_ := now } :=
      ⟨h.samples_eq, h.cursor_eq, h.replayed_eq⟩
    rw [PlaybackComponent.apply, tick, emits]
    split_ifs
    · exact hnow.emitNext
    · exact h
  | outputs => exact ⟨h.samples_eq, h.cursor_eq, h.replayed_eq⟩

/-- Each emission of a run sends the next sample, and nothing else is sent. -/
theorem Replaying.run {c : PlaybackComponent} (h : Replaying samples before 0 c)
    (cast : Binary32 → UInt32) {ops : List PlaybackOp} (hops : ∀ op ∈ ops, op.Steps) :
    Replaying samples before (emissions cast c ops)
      (DeltaV.run (PlaybackComponent.apply cast) c ops) := by
  induction ops using List.reverseRecOn with
  | nil => exact h
  | append_singleton ops op ih =>
    obtain ⟨hops, hop⟩ := List.forall_mem_append.mp hops
    rw [emissions_concat, run_concat]
    exact (ih hops).apply cast (hop op (List.mem_singleton_self op))

/-- The samples that are loaded from a file. -/
def loaded (file : Option Text) : List LoggedSample :=
  ((Lines.lines 10 (file.getD [])).filterMap readSample).take MAX_SAMPLES

/-- A loaded file is replayed from its first line. -/
theorem replaying_load (cast : Binary32 → UInt32) (c : PlaybackComponent) {cmd : CommandPacket}
    (hop : cmd.opcode = OP_LOAD_LOG) (file : Option Text) :
    Replaying (loaded file) c.replayed 0 (c.handleCommand cast cmd file) := by
  have hload : Replaying (loaded file) c.replayed 0 (c.loadTelemetryLog file).1 := by
    cases file with
    | none => exact ⟨rfl, rfl, (List.append_nil _).symm⟩
    | some text =>
      exact ⟨loadSamples_eq _ (Nat.zero_le _), (Nat.zero_min _).symm, (List.append_nil _).symm⟩
  unfold handleCommand
  rw [if_pos hop]
  dsimp only
  split_ifs
  · exact ⟨hload.samples_eq, hload.cursor_eq, hload.replayed_eq⟩
  · exact ⟨hload.samples_eq, hload.cursor_eq, hload.replayed_eq⟩

/-! ## Lines -/

/-- The sample that is scanned of a packet. -/
def sampleOf (p : TelemetryPacket) : LoggedSample :=
  ⟨p.timestamp_ms, p.component_id, scanned p.data_payload⟩

/-- A header is no sample. -/
theorem readSample_header : readSample LoggerComponent.telemetryHeader = none := by decide

/-- A line has the time, the component and the value, with commas between them. -/
theorem telemetryLine_eq (p : TelemetryPacket) :
    LoggerComponent.telemetryLine p =
      decimal p.timestamp_ms.toNat ++ 44 :: (decimal p.component_id.toNat ++ 44 ::
        formatG p.data_payload) := by
  have hcomma : ascii "," = [44] := by decide
  rw [LoggerComponent.telemetryLine, hcomma]
  simp only [List.append_assoc, List.cons_append, List.nil_append]

/-- A line with a finite payload has no other bytes than these. -/
theorem numeral_telemetryLine {p : TelemetryPacket} (h : p.data_payload.IsFinite) :
    ∀ c ∈ LoggerComponent.telemetryLine p, Numeral c := by
  have hdecimal (n : ℕ) : ∀ c ∈ decimal n, Numeral c := fun c hc =>
    numeral_of_isDigit (isDigit_decimal n c hc)
  have hsign : ∀ c ∈ signText p.data_payload.neg, Numeral c := by
    cases p.data_payload.neg
    · exact fun c hc => absurd hc List.not_mem_nil
    · rw [signText_true]
      exact List.forall_mem_singleton.mpr (Or.inl (by decide))
  rw [telemetryLine_eq, formatG_of_finite h]
  refine List.forall_mem_append.mpr ⟨hdecimal _, List.forall_mem_cons.mpr
    ⟨Or.inl (by decide), List.forall_mem_append.mpr ⟨hdecimal _, List.forall_mem_cons.mpr
      ⟨Or.inl (by decide), ?_⟩⟩⟩⟩
  exact List.forall_mem_append.mpr ⟨hsign, numeral_magText _⟩

/-- A line is scanned as its packet. -/
theorem readSample_telemetryLine {p : TelemetryPacket} (h : p.data_payload.IsFinite) :
    readSample (LoggerComponent.telemetryLine p) = some (sampleOf p) := by
  have hcstr : cstr (LoggerComponent.telemetryLine p) = LoggerComponent.telemetryLine p := by
    refine List.takeWhile_eq_self_iff.mpr fun c hc => decide_eq_true ?_
    rintro rfl
    exact absurd (numeral_telemetryLine h 0 hc) (by decide)
  have hhead : (LoggerComponent.telemetryLine p).head?.any isDigit = true := by
    obtain ⟨c, cs, hdigits⟩ := List.exists_cons_of_ne_nil (decimal_ne_nil p.timestamp_ms.toNat)
    rw [telemetryLine_eq, hdigits]
    exact isDigit_decimal _ c (hdigits ▸ List.mem_cons_self)
  have hcomma (rest : Text) : (44 :: rest : Text).takeWhile isDigit = [] :=
    List.takeWhile_cons_of_neg (by decide)
  have hbyte (rest : Text) : scanByte 44 (44 :: rest) = some rest := if_pos rfl
  rw [readSample, if_pos hhead, scanSample, hcstr, telemetryLine_eq,
    scanUnsigned_decimal _ (hcomma _), Option.bind_some, hbyte, Option.bind_some,
    scanUnsigned_decimal _ (hcomma _), Option.bind_some, hbyte, Option.bind_some,
    scanFloat_formatG h]
  rfl

/-- The lines of a session are not cut, and have its packets. -/
theorem lines_session {s : LoggerSession} (h : ∀ p ∈ s.packets, p.data_payload.IsFinite) :
    (∀ line ∈ s.lines, 10 ∉ line) ∧ s.lines.filterMap readSample = s.packets.map sampleOf := by
  constructor
  · refine List.forall_mem_cons.mpr ⟨by decide, List.forall_mem_map.mpr fun p hp hmem => ?_⟩
    exact absurd (numeral_telemetryLine (h p hp) 10 hmem) (by decide)
  · rw [LoggerSession.lines, List.filterMap_cons_none readSample_header, List.filterMap_map,
      ← List.filterMap_eq_map]
    exact List.filterMap_congr fun p hp => readSample_telemetryLine (h p hp)

end PlaybackComponent

/-- The packets of some sessions. -/
def recordedPackets (sessions : List LoggerSession) : List TelemetryPacket :=
  sessions.flatMap LoggerSession.packets

namespace PlaybackComponent

/-- The samples that are loaded from a file with some sessions. -/
theorem loaded_recordAll (base : Component) {sessions : List LoggerSession}
    (hlen : (recordedPackets sessions).length ≤ MAX_SAMPLES)
    (hfinite : ∀ p ∈ recordedPackets sessions, p.data_payload.IsFinite) :
    loaded (recordAll base sessions).1 = (recordedPackets sessions).map sampleOf := by
  have hsession (s : LoggerSession) (hs : s ∈ sessions) :=
    lines_session fun p hp => hfinite p (List.mem_flatMap.mpr ⟨s, hs, hp⟩)
  have hnewline : ascii "\n" = [10] := by decide
  -- The file is cut into the lines that were written, and each is a header or a packet.
  have hcut : Lines.lines 10 ((recordAll base sessions).1.getD []) =
      sessions.flatMap LoggerSession.lines := by
    have hlines : ∀ line ∈ sessions.flatMap LoggerSession.lines, 10 ∉ line := by
      intro line hline
      obtain ⟨s, hs, hmem⟩ := List.mem_flatMap.mp hline
      exact (hsession s hs).1 line hmem
    have hall := Lines.lines_flatMap hlines []
    rw [Lines.lines, List.append_nil, List.append_nil] at hall
    rw [recordAll_telemetry, hnewline, hall]
  have hsamples : (sessions.flatMap LoggerSession.lines).filterMap readSample =
      (recordedPackets sessions).map sampleOf := by
    rw [recordedPackets, List.filterMap_flatMap, List.map_flatMap]
    exact List.flatMap_congr fun s hs => (hsession s hs).2
  rw [loaded, hcut, hsamples, List.take_of_length_le (by rwa [List.length_map])]

/-- The single steps of a replay. -/
theorem emissions_stepOnce (cast : Binary32 → UInt32) (c : PlaybackComponent) (n : ℕ)
    (file : Option Text) :
    emissions cast c (List.replicate n
      (PlaybackOp.handleCommand ⟨0, OP_STEP_ONCE, Binary32.ofNat 0⟩ file)) = n := by
  induction n generalizing c with
  | zero => rfl
  | succ n ih =>
    rw [List.replicate_succ, emissions, history, List.countP_cons_of_pos (by rfl)]
    exact congrArg (· + 1) (ih _)

/-- After the file has been loaded, in any state of the component, stepping gives the packets to the
output in order, each once. A packet that the full queue behind the output refuses is among them: it
is counted as an error and not given again. -/
def Replays (file : Option Text) (packets : List TelemetryPacket) : Prop :=
  ∀ (cast : Binary32 → UInt32) (c : PlaybackComponent) (cmd : CommandPacket),
    cmd.opcode = OP_LOAD_LOG → ∀ ops : List PlaybackOp, (∀ op ∈ ops, op.Steps) →
    let c' := c.handleCommand cast cmd file
    (run (apply cast) c' ops).replayed = c.replayed ++ packets.take (emissions cast c' ops)

/-- A file is replayed as the packets exactly when these are what its samples are sent as. -/
theorem replays_iff (file : Option Text) (packets : List TelemetryPacket) :
    Replays file packets ↔ (loaded file).map LoggedSample.packet = packets := by
  constructor
  · intro h
    -- So many single steps that nothing is left.
    let n := max (loaded file).length packets.length
    let ops := List.replicate n
      (PlaybackOp.handleCommand ⟨0, OP_STEP_ONCE, Binary32.ofNat 0⟩ none)
    let start := create (Component.create [] 0)
    let cmd : CommandPacket := ⟨0, OP_LOAD_LOG, Binary32.ofNat 0⟩
    let cast : Binary32 → UInt32 := fun _ => 0
    have hsteps : ∀ op ∈ ops, op.Steps := by
      intro op hop
      rw [List.eq_of_mem_replicate hop]
      exact ⟨by decide, by decide⟩
    have hop : cmd.opcode = OP_LOAD_LOG := rfl
    have hpackets := h cast start cmd hop ops hsteps
    have hrun := ((replaying_load cast start hop file).run cast hsteps).replayed_eq
    dsimp only at hpackets
    rw [hrun, emissions_stepOnce, List.take_of_length_le (le_max_left _ _),
      List.take_of_length_le (le_max_right _ _)] at hpackets
    exact List.append_cancel_left hpackets
  · rintro rfl cast c cmd hop ops hops
    dsimp only
    rw [((replaying_load cast c hop file).run cast hops).replayed_eq, List.map_take]

end PlaybackComponent

/-- Store and forward. For any number of sessions with at most as many packets as there is room for,
and finite payloads, what the logger has written is replayed as the packets, in order and each once,
exactly when each payload is the number that is the nearest to a decimal with at most six digits. -/
theorem store_and_forward_iff (base : Component) (sessions : List LoggerSession)
    (hlen : (recordedPackets sessions).length ≤ MAX_SAMPLES)
    (hfinite : ∀ p ∈ recordedPackets sessions, p.data_payload.IsFinite) :
    PlaybackComponent.Replays (recordAll base sessions).1 (recordedPackets sessions) ↔
      ∀ p ∈ recordedPackets sessions, HasSixDigits p.data_payload := by
  -- Timestamp and id always come back, so only the payload counts.
  have hsample (p : TelemetryPacket) : (PlaybackComponent.sampleOf p).packet = p ↔
      scanned p.data_payload = p.data_payload := by
    rcases p with ⟨timestamp_ms, component_id, data_payload⟩
    simp [PlaybackComponent.sampleOf, LoggedSample.packet]
  rw [PlaybackComponent.replays_iff, PlaybackComponent.loaded_recordAll base hlen hfinite,
    List.map_map]
  have hmap : (recordedPackets sessions).map (LoggedSample.packet ∘ PlaybackComponent.sampleOf) =
      recordedPackets sessions ↔
        ∀ p ∈ recordedPackets sessions, (PlaybackComponent.sampleOf p).packet = p := by
    have hid := List.map_inj_left (l := recordedPackets sessions)
      (f := LoggedSample.packet ∘ PlaybackComponent.sampleOf) (g := id)
    rw [List.map_id] at hid
    exact hid
  rw [hmap]
  exact forall₂_congr fun p hp => (hsample p).trans (scanned_eq_iff (hfinite p hp))

/-- A session with one packet. -/
def oneSession (p : TelemetryPacket) : LoggerSession where
  event_host := ⟨true, none⟩
  met := 0
  ops := [LoggerOp.logTelemetry (Serializer.packTelem p) none]
  stores := List.forall_mem_singleton.mpr rfl

/-- The logger of the flight software. -/
def recorder : Component := Component.create (ascii "BlackBox") 30

/-- A payload with four digits is replayed, over two sessions. -/
theorem four_digits_replayed :
    PlaybackComponent.Replays
      (recordAll recorder [oneSession ⟨101, 200, ⟨0x41440000⟩⟩, oneSession ⟨102, 200, ⟨0⟩⟩]).1
      (recordedPackets [oneSession ⟨101, 200, ⟨0x41440000⟩⟩, oneSession ⟨102, 200, ⟨0⟩⟩]) := by
  have hpackets :
      recordedPackets [oneSession ⟨101, 200, ⟨0x41440000⟩⟩, oneSession ⟨102, 200, ⟨0⟩⟩] =
        [⟨101, 200, ⟨0x41440000⟩⟩, ⟨102, 200, ⟨0⟩⟩] := by decide +kernel
  refine (store_and_forward_iff recorder _ ?_ ?_).mpr ?_
  · rw [hpackets]
    decide
  · rw [hpackets]
    decide
  · rw [hpackets]
    refine List.forall_mem_cons.mpr ⟨⟨by decide, 1225, 0, 2, by decide, by decide +kernel⟩, ?_⟩
    exact List.forall_mem_singleton.mpr ⟨by decide, 0, 0, 0, by decide, by decide +kernel⟩

/-- A payload with seven digits is replayed with six of them. -/
theorem seven_digits_not_replayed :
    (recordedPackets [oneSession ⟨101, 200, Binary32.ofNat 1234567⟩]).length ≤ MAX_SAMPLES ∧
      (∀ p ∈ recordedPackets [oneSession ⟨101, 200, Binary32.ofNat 1234567⟩],
        p.data_payload.IsFinite) ∧
      PlaybackComponent.loaded
          (recordAll recorder [oneSession ⟨101, 200, Binary32.ofNat 1234567⟩]).1 =
        [⟨101, 200, Binary32.ofNat 1234570⟩] ∧
      ¬PlaybackComponent.Replays
        (recordAll recorder [oneSession ⟨101, 200, Binary32.ofNat 1234567⟩]).1
        (recordedPackets [oneSession ⟨101, 200, Binary32.ofNat 1234567⟩]) := by
  rw [PlaybackComponent.replays_iff]
  decide +kernel

end DeltaV
