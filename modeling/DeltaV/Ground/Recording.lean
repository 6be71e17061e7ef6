import DeltaV.Ground.Agreement
import DeltaV.Lib.Runs

/-!
# From the queues of the bridge to the files of the ground

Components put packets into the two input queues of the bridge, the bridge drains both in each of
its steps, and the ground listens at the other end of the link. Over a link that takes every frame,
each packet that a queue took has been recorded once, in its order, or still waits, and one pass of
the bridge leaves nothing waiting (`downlink_recorded`).
-/

namespace DeltaV

/-- An event as a component makes it, of ASCII characters. -/
structure EventReport where
  severity : UInt32
  source_id : UInt32
  text : Text
  ascii : ∀ c ∈ text, c ≠ 0 ∧ c < 0x80

/-- The packet of an event. -/
def EventReport.packet (e : EventReport) : EventPacket :=
  EventPacket.create e.severity e.source_id e.text

/-- The bridge, the ground, and the packets that the queues of the bridge took, in order. -/
structure Station where
  bridge : Downlink
  ground : Gds
  telemetry : List TelemetryPacket
  events : List EventReport

/-- What happens between the components and the ground. -/
inductive StationOp where
  | telemetry (p : TelemetryPacket)
  | event (e : EventReport)
  /-- A pass of the bridge; the ground takes its datagrams at the times of a clock. -/
  | service (clock : ℕ → Text)

/-! ## Times -/

/-- The elements of a list at the times of a clock. -/
def timed {α : Type*} (clock : ℕ → Text) (xs : List α) : List (Text × α) :=
  xs.mapIdx fun i x => (clock i, x)

/-- The first element has the first time. -/
theorem timed_cons {α : Type*} (clock : ℕ → Text) (x : α) (xs : List α) :
    timed clock (x :: xs) = (clock 0, x) :: timed (fun i => clock (i + 1)) xs := List.mapIdx_cons

/-- The elements of a second list come after those of the first. -/
theorem timed_append {α : Type*} (clock : ℕ → Text) (xs ys : List α) :
    timed clock (xs ++ ys) = timed clock xs ++ timed (fun i => clock (i + xs.length)) ys :=
  List.mapIdx_append

/-- The times do not change the elements. -/
theorem map_snd_timed {α : Type*} (clock : ℕ → Text) (xs : List α) :
    (timed clock xs).map Prod.snd = xs := by
  induction xs generalizing clock with
  | nil => rfl
  | cons x xs ih => rw [timed_cons, List.map_cons, ih]

namespace Gds

variable (components : ℕ → Option Text)

/-! ## Records -/

/-- The ground after some telemetry and some events, each at its time. -/
def recorded (g : Gds) (rows : List (Text × TelemetryPacket)) (lines : List (Text × EventReport)) :
    Gds :=
  { g with
    mission_state := lines.foldl
      (fun state a => (parseStateFromEvent (a.2.text.take 27)).getD state) g.mission_state
    data_file := g.data_file ++ rows.flatMap fun a =>
      telemetryRow components a.1 a.2.component_id.toNat a.2.data_payload
    event_file := g.event_file ++ lines.flatMap fun a =>
      eventLine components a.1 a.2.severity.toNat a.2.source_id.toNat (a.2.text.take 27) }

/-- Nothing is recorded of nothing. -/
theorem recorded_nil (g : Gds) : g.recorded components [] [] = g := by
  simp [recorded]

/-- Records follow each other. -/
theorem recorded_append (g : Gds) (rows rows' : List (Text × TelemetryPacket))
    (lines lines' : List (Text × EventReport)) :
    (g.recorded components rows lines).recorded components rows' lines' =
      g.recorded components (rows ++ rows') (lines ++ lines') := by
  simp [recorded]

/-- A telemetry packet is recorded as a row. -/
theorem udpListener_row (g : Gds) (seq : UInt16) (a : Text × TelemetryPacket) :
    udpListener components g a.1 (buildFrame Apid.TELEMETRY seq (Serializer.packTelem a.2)) =
      g.recorded components [a] [] := by
  rw [udpListener_telemetry]
  simp [recorded]

/-- An event is recorded as a line. -/
theorem udpListener_line (g : Gds) (seq : UInt16) (a : Text × EventReport) :
    udpListener components g a.1 (buildFrame Apid.EVENT seq (Serializer.packEvent a.2.packet)) =
      g.recorded components [] [a] := by
  rw [EventReport.packet, udpListener_event components g a.1 seq _ _ a.2.ascii]
  unfold recorded showState
  rcases hstate : parseStateFromEvent (a.2.text.take 27) with _ | state
  · simp [hstate]
  · simp [hstate]

/-- Rows that are recorded one by one. -/
theorem foldl_row (g : Gds) (rows : List (Text × TelemetryPacket)) :
    rows.foldl (fun g a => g.recorded components [a] []) g = g.recorded components rows [] := by
  induction rows generalizing g with
  | nil => exact (recorded_nil components g).symm
  | cons a rows ih =>
    rw [List.foldl_cons, ih, recorded_append]
    rfl

/-- Lines that are recorded one by one. -/
theorem foldl_line (g : Gds) (lines : List (Text × EventReport)) :
    lines.foldl (fun g a => g.recorded components [] [a]) g = g.recorded components [] lines := by
  induction lines generalizing g with
  | nil => exact (recorded_nil components g).symm
  | cons a lines ih =>
    rw [List.foldl_cons, ih, recorded_append]
    rfl

/-- The frames of packets are heard one by one. -/
theorem listen_frames {α : Type*} {apid : UInt16} (pack : α → List UInt8)
    {record : Gds → Text × α → Gds}
    (hone : ∀ g seq a, udpListener components g a.1 (buildFrame apid seq (pack a.2)) = record g a)
    (g : Gds) (clock : ℕ → Text) (seq : UInt16) (xs : List α) :
    listen components g (timed clock (frames apid seq (xs.map pack))) =
      (timed clock xs).foldl record g := by
  induction xs generalizing g clock seq with
  | nil => rfl
  | cons x xs ih =>
    rw [List.map_cons, frames, timed_cons, timed_cons, List.foldl_cons, ← hone g seq (clock 0, x),
      ← ih]
    rfl

/-- The telemetry and the events of one pass are recorded in order, each once. -/
theorem listen_pass (g : Gds) (clock : ℕ → Text) (seq seq' : UInt16) (ps : List TelemetryPacket)
    (es : List EventReport) :
    listen components g (timed clock (frames Apid.TELEMETRY seq (ps.map Serializer.packTelem) ++
        frames Apid.EVENT seq' (es.map fun e => Serializer.packEvent e.packet))) =
      g.recorded components (timed clock ps) (timed (fun i => clock (i + ps.length)) es) := by
  have hrows := listen_frames components Serializer.packTelem (udpListener_row components) g
    clock seq ps
  have hlines := listen_frames components (fun e : EventReport => Serializer.packEvent e.packet)
    (udpListener_line components) (g.recorded components (timed clock ps) [])
    (fun i => clock (i + ps.length)) seq' es
  rw [foldl_row] at hrows
  rw [foldl_line, recorded_append, List.append_nil, List.nil_append] at hlines
  rw [timed_append, length_frames, List.length_map, ← hlines, ← hrows]
  exact List.foldl_append

end Gds

/-! ## Runs -/

namespace Station

/-- The bridge as constructed, and the ground in some state. -/
def start (base : Component) (g : Gds) : Station where
  bridge :=
    { base := base
      telem_in := InputPort.create DEFAULT_QUEUE_DEPTH
      event_in := InputPort.create DEFAULT_QUEUE_DEPTH
      telem_seq := 0
      event_seq := 0
      sent := [] }
  ground := g
  telemetry := []
  events := []

/-- The next state. -/
def step (link : List UInt8 → Bool) (components : ℕ → Option Text) (s : Station) :
    StationOp → Station
  | StationOp.telemetry p =>
    let r := s.bridge.telem_in.receive (Serializer.packTelem p)
    { s with
      bridge := { s.bridge with telem_in := r.1 }
      telemetry := if r.2 then s.telemetry ++ [p] else s.telemetry }
  | StationOp.event e =>
    let r := s.bridge.event_in.receive e.packet
    { s with
      bridge := { s.bridge with event_in := r.1 }
      events := if r.2 then s.events ++ [e] else s.events }
  | StationOp.service clock =>
    let bridge := (s.bridge.sendTelemetry link).sendEvents link
    { s with
      bridge := bridge
      ground := Gds.listen components s.ground
        (timed clock (bridge.sent.drop s.bridge.sent.length)) }

/-- The files have the packets before those that still wait. -/
structure Accounts (components : ℕ → Option Text) (g : Gds) (rows : List (Text × TelemetryPacket))
    (lines : List (Text × EventReport)) (s : Station) : Prop where
  ground_eq : s.ground = g.recorded components rows lines
  telemetry_eq : ∃ waiting, s.telemetry = rows.map Prod.snd ++ waiting ∧
    s.bridge.telem_in.pending = waiting.map Serializer.packTelem
  events_eq : ∃ waiting, s.events = lines.map Prod.snd ++ waiting ∧
    s.bridge.event_in.pending = waiting.map EventReport.packet

variable {link : List UInt8 → Bool} {components : ℕ → Option Text} {g : Gds}
  {rows : List (Text × TelemetryPacket)} {lines : List (Text × EventReport)}

/-- A pass records what waits. -/
theorem Accounts.service {s : Station} (hlink : ∀ frame, link frame = true)
    (h : Accounts components g rows lines s) (clock : ℕ → Text) :
    ∃ rows' lines',
      let s' := s.step link components (StationOp.service clock)
      Accounts components g rows' lines' s' ∧ s'.telemetry = rows'.map Prod.snd ∧
        s'.events = lines'.map Prod.snd := by
  obtain ⟨ps, htelemetry, hps⟩ := h.telemetry_eq
  obtain ⟨es, hevents, hes⟩ := h.events_eq
  refine ⟨rows ++ timed clock ps, lines ++ timed (fun i => clock (i + ps.length)) es, ?_⟩
  intro s'
  have htaken : s'.telemetry = (rows ++ timed clock ps).map Prod.snd := by
    rw [List.map_append, map_snd_timed]
    exact htelemetry
  have htold : s'.events =
      (lines ++ timed (fun i => clock (i + ps.length)) es).map Prod.snd := by
    rw [List.map_append, map_snd_timed]
    exact hevents
  -- Sending telemetry leaves the events that wait.
  have hwait : (s.bridge.sendTelemetry link).event_in.pending = es.map EventReport.packet := hes
  have hground : s'.ground = g.recorded components (rows ++ timed clock ps)
      (lines ++ timed (fun i => clock (i + ps.length)) es) := by
    change Gds.listen components s.ground (timed clock
      (((s.bridge.sendTelemetry link).sendEvents link).sent.drop s.bridge.sent.length)) = _
    rw [Downlink.sent_sendEvents hlink, Downlink.sent_sendTelemetry hlink, List.append_assoc,
      List.drop_left, hps, hwait, List.map_map, h.ground_eq, ← Gds.recorded_append]
    exact Gds.listen_pass components _ clock _ _ ps es
  refine ⟨⟨hground, ⟨[], ?_, ?_⟩, ⟨[], ?_, ?_⟩⟩, htaken, htold⟩
  · rw [List.append_nil, htaken]
  · exact Downlink.pending_sendTelemetry link s.bridge
  · rw [List.append_nil, htold]
  · exact Downlink.pending_sendEvents link _

/-- A queue that takes a packet has it behind the others, and no other one. -/
theorem waiting_receive {T α : Type*} {QUEUE_DEPTH : ℕ} {port : InputPort T QUEUE_DEPTH}
    {pack : α → T} {taken done : List α}
    (h : ∃ waiting, taken = done ++ waiting ∧ port.pending = waiting.map pack) (x : α) :
    ∃ waiting, (if (port.receive (pack x)).2 then taken ++ [x] else taken) = done ++ waiting ∧
      (port.receive (pack x)).1.pending = waiting.map pack := by
  obtain ⟨waiting, rfl, hpending⟩ := h
  rw [InputPort.pending_receive, hpending]
  split_ifs
  · exact ⟨waiting ++ [x], List.append_assoc .., by rw [List.map_append]; rfl⟩
  · exact ⟨waiting, rfl, List.append_nil _⟩

/-- In every state of a run the files account for what the queues took. -/
theorem accounts_run (hlink : ∀ frame, link frame = true) (base : Component)
    (ops : List StationOp) :
    ∃ rows lines,
      Accounts components g rows lines (run (step link components) (start base g) ops) := by
  have hstep (s : Station) (op : StationOp) :
      (∃ rows lines, Accounts components g rows lines s) →
        ∃ rows lines, Accounts components g rows lines (s.step link components op) := by
    rintro ⟨rows, lines, h⟩
    cases op with
    | telemetry p => exact ⟨rows, lines, h.ground_eq, waiting_receive h.telemetry_eq p, h.events_eq⟩
    | event e => exact ⟨rows, lines, h.ground_eq, h.telemetry_eq, waiting_receive h.events_eq e⟩
    | service clock =>
      obtain ⟨rows', lines', haccounts, -, -⟩ := h.service hlink clock
      exact ⟨rows', lines', haccounts⟩
  have hstart : ∃ rows lines, Accounts components g rows lines (start base g) :=
    ⟨[], [], (Gds.recorded_nil components g).symm, ⟨[], rfl, rfl⟩, ⟨[], rfl, rfl⟩⟩
  exact run_invariant hstep hstart ops

/-- From the queues to the files. Over a link that takes every frame, in every run, the files of the
ground have a row or a line for each packet that the queues took before those that still wait, in
order and each once. After a pass of the bridge they have all. -/
theorem downlink_recorded (hlink : ∀ frame, link frame = true) (components : ℕ → Option Text)
    (base : Component) (g : Gds) (ops : List StationOp) :
    let s := run (step link components) (start base g) ops
    (∃ rows lines, Accounts components g rows lines s) ∧
      ∀ clock, ∃ rows lines,
        let s' := s.step link components (StationOp.service clock)
        s'.ground = g.recorded components rows lines ∧ s'.telemetry = rows.map Prod.snd ∧
          s'.events = lines.map Prod.snd := by
  intro s
  obtain ⟨rows, lines, h⟩ : ∃ rows lines, Accounts components g rows lines s :=
    accounts_run hlink base ops
  refine ⟨⟨rows, lines, h⟩, fun clock => ?_⟩
  obtain ⟨rows', lines', haccounts, htelemetry, hevents⟩ := h.service hlink clock
  exact ⟨rows', lines', haccounts.ground_eq, htelemetry, hevents⟩

/-- A battery sample and an event of the watchdog. -/
def sampleAndEvent : List StationOp :=
  [StationOp.telemetry ⟨5000, 200, Binary32.ofNat 87⟩,
    StationOp.event ⟨Severity.INFO, 1, ascii "Recovery -> NOMINAL", by decide +kernel⟩]

/-- One pass records both. -/
theorem downlink_recorded_pass :
    let s := run (step (fun _ => true) fun _ => none)
      (start (Component.create (ascii "RadioLink") 20) Gds.create) sampleAndEvent
    let s' := s.step (fun _ => true) (fun _ => none) (StationOp.service fun _ => ascii "12:00:00")
    ∃ rows lines, s'.ground = Gds.create.recorded (fun _ => none) rows lines ∧
      rows.map Prod.snd = [⟨5000, 200, Binary32.ofNat 87⟩] ∧
      (lines.map Prod.snd).map EventReport.text = [ascii "Recovery -> NOMINAL"] := by
  intro s s'
  obtain ⟨rows, lines, hground, hrows, hlines⟩ := (downlink_recorded (fun _ => rfl) (fun _ => none)
    (Component.create (ascii "RadioLink") 20) Gds.create sampleAndEvent).2 fun _ => ascii "12:00:00"
  refine ⟨rows, lines, hground, hrows.symm.trans (by decide +kernel), ?_⟩
  rw [← hlines]
  decide +kernel

end Station

end DeltaV
