import DeltaV.Bridge.Session
import DeltaV.Executive.Mission

/-!
# The radio under supervision

The radio runs in a thread of its own and is supervised as an active subsystem: a cycle of the
watchdog that finds ten errors joins the thread, clears the errors, and starts the thread again,
three times at most. The radio works on between the cycles and also within one, between the question
for its health, the restart, and the question of the recovery.

A datagram from a source that is not trusted counts an error, before anything in it is checked. So
the errors account for the restarts exactly (`restart_accounting`), and four bursts of ten such
datagrams end the mission (`flood_ends_mission`): the source decides when the radio is given up, and
`EMERGENCY` is never left.
-/

namespace DeltaV

/-! ## The errors of the radio -/

/-- Whether writing the file fails; a file that is disabled is not written. -/
def ReplayFile.fails (f : ReplayFile) : Bool :=
  !f.heap_armed && !f.path_empty && (!f.can_open || !f.can_write)

namespace TelemetryBridge

/-- Whether a frame passes the tests of its length, its header, and its number. -/
def admits (b : TelemetryBridge) (data : List UInt8) : Bool :=
  let hdr := CcsdsHeader.decode data
  decide (data.length = UPLINK_FRAME_SIZE) && decide (hdr.sync_word = CCSDS_SYNC_WORD) &&
    decide (hdr.apid = Apid.COMMAND) && decide (hdr.payload_len.toNat = COMMAND_PACKET_SIZE) &&
    !b.isReplay hdr.seq_count.toUInt32

/-- The errors that a frame counts: one when it passes its tests, and its command is not taken or
its number not written. -/
def frameErrors (b : TelemetryBridge) (data : List UInt8) : ℕ :=
  if b.admits data then
    if (b.sendCommand (CommandPacket.decode data)).2 then if b.replay_file.fails then 1 else 0 else 1
  else 0

/-- The errors that a byte of the serial link counts. -/
def byteErrors (b : TelemetryBridge) (byte : UInt8) : ℕ :=
  match (b.serial.feed byte).2 with
  | SerialOutput.nothing => 0
  | SerialOutput.deliver [] => 0
  | SerialOutput.deliver (command :: frame) =>
    if frame = [] then 0 else if command &&& 0x0F ≠ KISS_CMD_DATA then 0 else b.frameErrors frame
  | SerialOutput.drop => 1

/-- Clears the errors. -/
def clearErrors (b : TelemetryBridge) : TelemetryBridge := { b with base := b.base.clearErrors }

/-- Writing the number counts an error exactly when it fails. -/
theorem error_count_persistReplayState (b : TelemetryBridge) :
    b.persistReplayState.base.error_count =
      b.base.error_count + if b.replay_file.fails then 1 else 0 := by
  unfold persistReplayState ReplayFile.fails
  split_ifs <;> simp_all [recordError]

/-- A frame that fails a test is rejected. -/
theorem processIncomingFrame_of_not_admits (b : TelemetryBridge) (data : List UInt8)
    (h : b.admits data = false) : (b.processIncomingFrame data).1 = b.reject := by
  simp only [processIncomingFrame]
  simp only [admits, Bool.and_eq_false_iff, decide_eq_false_iff_not, Bool.not_eq_false'] at h
  split_ifs with h1 h2 h3 h4 h5 hsend
  iterate 5 rfl
  all_goals
    rcases h with (((h | h) | h) | h) | h
    · exact absurd h h1
    · exact absurd h h2
    · exact absurd h h3
    · exact absurd h h4
    · exact absurd h h5

/-- The command of a frame that passes the tests is sent, and the number written when the port takes
it. -/
theorem error_count_of_admits (b : TelemetryBridge) (data : List UInt8)
    (h : b.admits data = true) : (b.processIncomingFrame data).1.base.error_count =
      b.base.error_count + if (b.sendCommand (CommandPacket.decode data)).2 then
        if b.replay_file.fails then 1 else 0 else 1 := by
  obtain ⟨command_out, hframe⟩ := b.sendCommand_frame (CommandPacket.decode data)
  simp only [admits, Bool.and_eq_true, decide_eq_true_eq, Bool.not_eq_true'] at h
  obtain ⟨⟨⟨⟨h1, h2⟩, h3⟩, h4⟩, h5⟩ := h
  simp only [processIncomingFrame]
  rw [if_neg (not_not.mpr h1), if_neg (not_not.mpr h2), if_neg (not_not.mpr h3),
    if_neg (not_not.mpr h4), h5, if_neg Bool.false_ne_true]
  rcases hsend : (b.sendCommand (CommandPacket.decode data)).2 with _ | _
  · rw [if_pos rfl, hframe]
    rfl
  · rw [if_neg (Bool.noConfusion : ¬true = false), if_pos rfl, hframe]
    exact error_count_persistReplayState _

/-- What a frame adds to the error count. -/
theorem error_count_processIncomingFrame (b : TelemetryBridge) (data : List UInt8) :
    (b.processIncomingFrame data).1.base.error_count =
      b.base.error_count + UInt32.ofNat (b.frameErrors data) := by
  unfold frameErrors
  rcases hadmits : b.admits data with _ | _
  · rw [b.processIncomingFrame_of_not_admits data hadmits]
    exact (UInt32.add_zero _).symm
  · rw [b.error_count_of_admits data hadmits, if_pos rfl]
    split_ifs <;> rfl

/-- A frame makes one error at most. -/
theorem frameErrors_le (b : TelemetryBridge) (data : List UInt8) : b.frameErrors data ≤ 1 := by
  unfold frameErrors
  split_ifs <;> decide

/-- What a byte adds to the error count. -/
theorem error_count_processSerialByte (b : TelemetryBridge) (byte : UInt8) :
    (b.processSerialByte byte).1.base.error_count =
      b.base.error_count + UInt32.ofNat (b.byteErrors byte) := by
  have hzero : b.base.error_count = b.base.error_count + UInt32.ofNat 0 :=
    (UInt32.add_zero _).symm
  have hsame (serial : SerialParser) (log : List BridgeAction) (frame : List UInt8) :
      { b with serial := serial, log := log }.frameErrors frame = b.frameErrors frame := by
    have hsend : ({ b with serial := serial, log := log }.sendCommand
        (CommandPacket.decode frame)).2 = (b.sendCommand (CommandPacket.decode frame)).2 := by
      unfold sendCommand
      cases b.command_out <;> rfl
    unfold frameErrors
    rw [hsend]
    rfl
  simp only [processSerialByte, byteErrors]
  rcases (b.serial.feed byte).2 with _ | decoded | _
  · exact hzero
  · rcases decoded with _ | ⟨command, frame⟩
    · exact hzero
    · -- The frame meets the bridge with only the parser and the log changed.
      simp only [processDecodedKissFrame]
      split_ifs with hempty hcommand
      · exact hzero
      · exact hzero
      · rw [error_count_processIncomingFrame, hsame]
  · rfl

/-- A byte makes one error at most. -/
theorem byteErrors_le (b : TelemetryBridge) (byte : UInt8) : b.byteErrors byte ≤ 1 := by
  unfold byteErrors
  split
  · decide
  · decide
  · split_ifs
    · decide
    · decide
    · exact b.frameErrors_le _
  · decide

end TelemetryBridge

/-- What the radio meets in its thread. -/
inductive RadioInput where
  /-- The receive loop takes a datagram from its socket. -/
  | datagram (client : Datagram)
  /-- The parser takes a byte from the serial port. -/
  | serialByte (byte : UInt8)
  /-- A link that is not open, or a frame that cannot be sent. -/
  | fault
  /-- The queue behind the command port is drained, filled, or exchanged. -/
  | commandPort (command_out : Option (InputPort CommandPacket DEFAULT_QUEUE_DEPTH))
  /-- The replay file or its conditions change. -/
  | replayFile (replay_file : ReplayFile)

namespace UdpLink

/-- What the radio does with it. -/
def take (u : UdpLink) : RadioInput → UdpLink
  | RadioInput.datagram client => u.receive client
  | RadioInput.serialByte byte => { u with bridge := (u.bridge.processSerialByte byte).1 }
  | RadioInput.fault => { u with bridge := u.bridge.recordError }
  | RadioInput.commandPort command_out =>
    { u with bridge := { u.bridge with command_out := command_out } }
  | RadioInput.replayFile replay_file =>
    { u with bridge := { u.bridge with replay_file := replay_file } }

/-- Clears the errors of the radio. -/
def clearErrors (u : UdpLink) : UdpLink := { u with bridge := u.bridge.clearErrors }

/-- The error count of the radio. -/
def error_count (u : UdpLink) : UInt32 := u.bridge.base.error_count

/-- The errors that an input counts. -/
def errors (u : UdpLink) : RadioInput → ℕ
  | RadioInput.datagram client =>
    if client.data = [] then 0
    else if u.isTrustedUplinkSource client.source = false then 1
    else u.bridge.frameErrors (client.data.take BUF_SIZE)
  | RadioInput.serialByte byte => u.bridge.byteErrors byte
  | RadioInput.fault => 1
  | _ => 0

/-- The errors that several inputs count, one after the other. -/
def errorsOf (u : UdpLink) : List RadioInput → ℕ
  | [] => 0
  | input :: inputs => u.errors input + (u.take input).errorsOf inputs

/-- What an input adds to the error count. -/
theorem error_count_take (u : UdpLink) (input : RadioInput) :
    (u.take input).error_count = u.error_count + UInt32.ofNat (u.errors input) := by
  have hzero : u.error_count = u.error_count + UInt32.ofNat 0 := (UInt32.add_zero _).symm
  cases input with
  | datagram client =>
    have hdata : client.data.take BUF_SIZE = [] ↔ client.data = [] := by
      rw [List.take_eq_nil_iff, or_iff_right (by decide)]
    simp only [take, receive, errors, hdata]
    split_ifs
    · exact hzero
    · rfl
    · exact u.bridge.error_count_processIncomingFrame _
  | serialByte byte => exact u.bridge.error_count_processSerialByte byte
  | fault => rfl
  | commandPort | replayFile => exact hzero

/-- An input of the radio makes one error at most. -/
theorem errors_le (u : UdpLink) (input : RadioInput) : u.errors input ≤ 1 := by
  cases input with
  | datagram client =>
    simp only [errors]
    split_ifs
    · decide
    · decide
    · exact u.bridge.frameErrors_le _
  | serialByte byte => exact u.bridge.byteErrors_le byte
  | fault => exact le_rfl
  | commandPort | replayFile => exact Nat.zero_le _

/-- The trusted address does not change. -/
theorem allowed_uplink_addr_take (u : UdpLink) (input : RadioInput) :
    (u.take input).allowed_uplink_addr = u.allowed_uplink_addr := by
  cases input with
  | datagram client =>
    simp only [take, receive]
    split_ifs <;> rfl
  | serialByte | fault | commandPort | replayFile => rfl

/-- The count is at most the sum of the errors, and equal to it as long as that fits. -/
theorem error_count_run (u : UdpLink) (inputs : List RadioInput) :
    (run take u inputs).error_count.toNat ≤ u.error_count.toNat + u.errorsOf inputs ∧
      (u.error_count.toNat + u.errorsOf inputs < 2^32 →
        (run take u inputs).error_count.toNat = u.error_count.toNat + u.errorsOf inputs) := by
  induction inputs generalizing u with
  | nil => exact ⟨le_rfl, fun _ => rfl⟩
  | cons input inputs ih =>
    have herror := u.errors_le input
    have hnext : (u.take input).error_count.toNat =
        (u.error_count.toNat + u.errors input) % 2^32 := by
      rw [error_count_take, UInt32.toNat_add, UInt32.toNat_ofNat']
      omega
    have hmod := Nat.mod_le (u.error_count.toNat + u.errors input) (2^32)
    obtain ⟨hle, heq⟩ := ih (u.take input)
    rw [run_cons, errorsOf]
    refine ⟨by omega, fun hfits => ?_⟩
    rw [Nat.mod_eq_of_lt (by omega)] at hnext
    rw [heq (by omega), hnext]
    omega

end UdpLink

/-! ## The radio and the watchdog -/

namespace WatchdogComponent

/-- No call changes what is active. -/
theorem activeAt_apply (w : WatchdogComponent) (op : WatchdogOp) (i : ℕ) :
    (w.apply op).activeAt i = w.activeAt i := by
  unfold activeAt subsystem
  rw [monitored_systems_apply]

/-- A watchdog starts with its whole budget. -/
theorem restart_counts_start (base : Component) (comps : List (Option Subsystem)) (i : ℕ) :
    (start base comps).restart_counts i = 0 := by
  have hregister (w : WatchdogComponent) (comp : Option Subsystem) (h : w.restart_counts i = 0) :
      (w.registerSubsystem comp).restart_counts i = 0 := by
    unfold registerSubsystem
    split_ifs
    · rcases eq_or_ne i w.monitored_systems.length with rfl | hne
      · exact Function.update_self ..
      · exact (Function.update_of_ne hne ..).trans h
    · exact h
  have hregistered : (comps.foldl registerSubsystem (create base)).restart_counts i = 0 :=
    run_invariant hregister rfl comps
  exact (congrArg Prod.fst (congrFun (record_init _) i)).trans hregistered

end WatchdogComponent

/-- The watchdog and the radio. -/
structure RadioSystem where
  watchdog : WatchdogComponent
  link : UdpLink
  /-- The position at which the radio is registered with the watchdog. -/
  radio_idx : ℕ
  /-- The radio is supervised, as an active subsystem. -/
  supervised : watchdog.activeAt radio_idx = true
  /-- The number of errors that the radio has recorded. -/
  recorded : ℕ
  /-- The number of cycles that have found the radio failed. -/
  failures : ℕ

/-- What can happen next. -/
inductive RadioOp where
  /-- The radio works. -/
  | radio (input : RadioInput)
  /-- A cycle of the watchdog. The radio works on in it: after it has been asked for its health, and
  after it has been restarted or passed over. -/
  | cycle (inp : StepInput) (asked passed : List RadioInput)
  /-- Another call of the watchdog. -/
  | call (op : WatchdogOp) (other : ∀ inp, op ≠ WatchdogOp.step inp)

namespace RadioOp

/-- The radio takes a datagram with data from another source than the trusted one. -/
def foreign (trusted : UInt32) : RadioOp → Bool
  | radio (RadioInput.datagram client) =>
    decide (client.data ≠ []) && decide (client.source.s_addr ≠ trusted)
  | _ => false

/-- Ten foreign datagrams among other operations, and a cycle of the watchdog at their end. -/
def Burst (trusted : UInt32) (ops : List RadioOp) : Prop :=
  ∃ before inp asked passed, ops = before ++ [cycle inp asked passed] ∧
    10 ≤ before.countP (foreign trusted)

end RadioOp

namespace RadioSystem

/-- The system after the start of the watchdog. -/
def start (base : Component) (comps : List (Option Subsystem)) (u : UdpLink) (radio_idx : ℕ)
    (h : (WatchdogComponent.start base comps).activeAt radio_idx = true) : RadioSystem :=
  ⟨WatchdogComponent.start base comps, u, radio_idx, h, u.error_count.toNat, 0⟩

/-- The radio has so many errors that it counts as failed. -/
def failed (s : RadioSystem) : Bool :=
  decide (s.link.bridge.base.reportHealth = HealthStatus.CRITICAL_FAILURE)

/-- There is a restart left for the radio. -/
def hasBudget (s : RadioSystem) : Bool :=
  decide (s.watchdog.restart_counts s.radio_idx < MAX_RESTARTS_PER_COMPONENT)

/-- The radio after the pass of a cycle over it. -/
def passedOver (s : RadioSystem) (asked : List RadioInput) : UdpLink :=
  if s.failed && s.hasBudget then (run UdpLink.take s.link asked).clearErrors
  else run UdpLink.take s.link asked

/-- The radio when the cycle asks for its recovery. -/
def recovering (s : RadioSystem) (asked passed : List RadioInput) : UdpLink :=
  run UdpLink.take (s.passedOver asked) passed

/-- The answers of the subsystems, with those of the radio at its position. The error count that an
event reports is read while the radio works, and left open. -/
def answers (s : RadioSystem) (inp : StepInput) (asked passed : List RadioInput) : StepInput :=
  { inp with
    health := Function.update inp.health s.radio_idx s.link.bridge.base.reportHealth
    recoveryHealth := Function.update inp.recoveryHealth s.radio_idx
      (s.recovering asked passed).bridge.base.reportHealth }

/-- The next state. -/
def step (s : RadioSystem) : RadioOp → RadioSystem
  | RadioOp.radio input =>
    { s with link := s.link.take input, recorded := s.recorded + s.link.errors input }
  | RadioOp.cycle inp asked passed =>
    { s with
      watchdog := s.watchdog.step (s.answers inp asked passed)
      link := s.recovering asked passed
      supervised :=
        (s.watchdog.activeAt_apply (WatchdogOp.step _) s.radio_idx).trans s.supervised
      recorded := s.recorded + (s.link.errorsOf asked + (s.passedOver asked).errorsOf passed)
      failures := s.failures + if s.failed then 1 else 0 }
  | RadioOp.call op _ =>
    { s with
      watchdog := s.watchdog.apply op
      supervised := (s.watchdog.activeAt_apply op s.radio_idx).trans s.supervised }

/-! ### The restarts -/

/-- The radio has failed at its tenth error. -/
theorem failed_iff (s : RadioSystem) : s.failed = true ↔ 10 ≤ s.link.error_count.toNat := by
  have hcritical : Component.CRITICAL_THRESHOLD.toNat = 10 := rfl
  rw [← hcritical, ← UInt32.le_iff_toNat_le, failed, decide_eq_true_eq, UdpLink.error_count]
  unfold Component.reportHealth
  split_ifs with h10 h3
  · exact iff_of_true rfl h10
  · exact iff_of_false nofun h10
  · exact iff_of_false nofun h10

/-- The watchdog is told the health that the radio has. -/
theorem health_answers (s : RadioSystem) (inp : StepInput) (asked passed : List RadioInput) :
    (s.answers inp asked passed).health s.radio_idx = s.link.bridge.base.reportHealth :=
  Function.update_self ..

/-- A restart of the radio is due when it has failed and there is budget. -/
theorem restartDue_iff (s : RadioSystem) (inp : StepInput) (asked passed : List RadioInput) :
    s.watchdog.RestartDue (s.answers inp asked passed) s.radio_idx ↔
      s.failed = true ∧ s.hasBudget = true := by
  rw [WatchdogComponent.RestartDue, s.health_answers, failed, hasBudget, decide_eq_true_eq,
    decide_eq_true_eq]
  exact and_iff_right s.supervised

/-- The books: the restarts are the first three failures, each has cost ten errors, and the fourth
failure has ended the mission. -/
structure Accounted (s : RadioSystem) : Prop where
  kept : s.watchdog.BudgetKept s.radio_idx
  restarts_eq : (s.watchdog.restart_counts s.radio_idx).toNat = min s.failures 3
  recorded_ge : 10 * min s.failures 3 + s.link.error_count.toNat ≤ s.recorded
  given_up : 3 < s.failures →
    40 ≤ s.recorded ∧ s.watchdog.mission_state = MissionState.EMERGENCY

/-- The books of a system as constructed are in order. -/
theorem accounted_start (base : Component) (comps : List (Option Subsystem)) (u : UdpLink)
    (radio_idx : ℕ) (h : (WatchdogComponent.start base comps).activeAt radio_idx = true) :
    (start base comps u radio_idx h).Accounted where
  kept := WatchdogComponent.budgetKept_start base comps radio_idx
  restarts_eq := congrArg UInt32.toNat (WatchdogComponent.restart_counts_start base comps radio_idx)
  recorded_ge := le_of_eq (Nat.zero_add _)
  given_up := fun hlt => absurd hlt (Nat.not_lt_zero 3)

/-- There is budget before the third restart. -/
theorem Accounted.hasBudget_iff {s : RadioSystem} (h : s.Accounted) :
    s.hasBudget = true ↔ s.failures < 3 := by
  have hmax : MAX_RESTARTS_PER_COMPONENT.toNat = 3 := rfl
  rw [hasBudget, decide_eq_true_eq, UInt32.lt_iff_toNat_lt, hmax, h.restarts_eq]
  omega

/-- A restart clears the errors of the radio. -/
theorem Accounted.error_count_passedOver {s : RadioSystem} (h : s.Accounted)
    (asked : List RadioInput) : (s.passedOver asked).error_count.toNat =
      if s.failed = true ∧ s.failures < 3 then 0
      else (run UdpLink.take s.link asked).error_count.toNat := by
  simp only [passedOver, Bool.and_eq_true, h.hasBudget_iff]
  split_ifs <;> rfl

/-- Every operation keeps the books. -/
theorem Accounted.step {s : RadioSystem} (h : s.Accounted) (op : RadioOp) :
    (s.step op).Accounted := by
  have h' := h
  obtain ⟨hkept, hrestarts, hrecorded, hgiven⟩ := h'
  cases op with
  | radio input =>
    have hcount := (s.link.error_count_run [input]).1
    rw [UdpLink.errorsOf, UdpLink.errorsOf] at hcount
    have hlink : (s.step (RadioOp.radio input)).link.error_count.toNat ≤
        s.link.error_count.toNat + s.link.errors input := hcount
    refine ⟨hkept, hrestarts, ?_, fun hlt => ?_⟩
    · show _ ≤ s.recorded + s.link.errors input
      have hsame : (s.step (RadioOp.radio input)).failures = s.failures := rfl
      omega
    · exact ⟨(hgiven hlt).1.trans (Nat.le_add_right _ _), (hgiven hlt).2⟩
  | call op other =>
    have hrecord := congrFun (s.watchdog.record_apply op other) s.radio_idx
    refine ⟨hkept.apply op, ?_, hrecorded, fun hlt => ⟨(hgiven hlt).1, ?_⟩⟩
    · exact (congrArg (fun r => r.1.toNat) hrecord).trans hrestarts
    · exact (s.watchdog.follows_apply op).keeps.1 (hgiven hlt).2
  | cycle inp asked passed =>
    set s' := s.step (RadioOp.cycle inp asked passed) with hs'
    have hfailures : s'.failures = s.failures + if s.failed then 1 else 0 := rfl
    have htotal : s'.recorded =
        s.recorded + (s.link.errorsOf asked + (s.passedOver asked).errorsOf passed) := rfl
    have hkept' : s'.watchdog.BudgetKept s'.radio_idx := hkept.apply (WatchdogOp.step _)
    have hasked := (s.link.error_count_run asked).1
    have hpassed : s'.link.error_count.toNat ≤
        (s.passedOver asked).error_count.toNat + (s.passedOver asked).errorsOf passed :=
      ((s.passedOver asked).error_count_run passed).1
    have hcleared := h.error_count_passedOver asked
    have hdue := s.restartDue_iff inp asked passed
    rw [h.hasBudget_iff] at hdue
    have hrecord : s'.watchdog.record s'.radio_idx = _ :=
      s.watchdog.record_step (s.answers inp asked passed) s.radio_idx
    simp only [hdue] at hrecord
    have hfinal (he : s.watchdog.mission_state = MissionState.EMERGENCY) :
        s'.watchdog.mission_state = MissionState.EMERGENCY :=
      (s.watchdog.follows_apply (WatchdogOp.step _)).keeps.1 he
    rcases hfailed : s.failed with _ | _
    · -- The radio is well enough, and nothing is restarted.
      rw [hfailed] at hfailures hcleared hrecord
      simp only [Bool.false_eq_true, false_and, if_false] at hfailures hcleared hrecord
      have hcount : s'.watchdog.restart_counts s'.radio_idx =
          s.watchdog.restart_counts s.radio_idx := congrArg Prod.fst hrecord
      refine ⟨hkept', ?_, by omega, fun hlt => ?_⟩
      · rw [hcount, hfailures, hrestarts, Nat.add_zero]
      · have hbefore := hgiven (by omega)
        exact ⟨by omega, hfinal hbefore.2⟩
    · have hten := s.failed_iff.mp hfailed
      rw [hfailed] at hfailures hcleared hrecord
      simp only [if_true, true_and] at hfailures hcleared hrecord
      by_cases hlt3 : s.failures < 3
      · -- One of the three restarts: the errors start again from zero.
        rw [if_pos hlt3] at hcleared hrecord
        have hcount : s'.watchdog.restart_counts s'.radio_idx =
            s.watchdog.restart_counts s.radio_idx + 1 := congrArg Prod.fst hrecord
        refine ⟨hkept', ?_, by omega, fun hlt => absurd hlt (by omega)⟩
        rw [hcount, UInt32.toNat_add, hrestarts, UInt32.toNat_one]
        omega
      · -- The budget is used up, and the radio is given up.
        rw [if_neg hlt3] at hcleared hrecord
        have hcount : s'.watchdog.restart_counts s'.radio_idx =
            s.watchdog.restart_counts s.radio_idx := congrArg Prod.fst hrecord
        have hexhausted : s.watchdog.Exhausted (s.answers inp asked passed) s.radio_idx := by
          refine ⟨s.supervised, ?_, fun hlt => hlt3 (h.hasBudget_iff.mp (decide_eq_true hlt))⟩
          rw [s.health_answers]
          exact of_decide_eq_true hfailed
        refine ⟨hkept', ?_, by omega, fun _ => ⟨by omega, ?_⟩⟩
        · rw [hcount, hrestarts]
          omega
        · exact WatchdogComponent.mission_state_step_of_exhausted hexhausted

/-- The books over a run. -/
theorem accounted_run {s : RadioSystem} (h : s.Accounted) (ops : List RadioOp) :
    (run step s ops).Accounted := run_invariant (fun _ op h => h.step op) h ops

/-- The restarts of the radio over every run, whatever it receives and wherever it works on within a
cycle. The calls on it are those of its first three failures, and every failure has taken ten errors
that it recorded since the one before. The fourth has taken the fortieth error; it ends the
mission. -/
theorem restart_accounting (base : Component) (comps : List (Option Subsystem)) (u : UdpLink)
    (radio_idx : ℕ) (h : (WatchdogComponent.start base comps).activeAt radio_idx = true)
    (ops : List RadioOp) :
    let s := run step (start base comps u radio_idx h) ops
    s.watchdog.callsOn s.radio_idx =
        (List.replicate (min s.failures 3) (restartCalls s.radio_idx)).flatten ∧
      10 * min s.failures 3 + s.link.error_count.toNat ≤ s.recorded ∧
      (3 < s.failures → 40 ≤ s.recorded ∧
        ∀ post, (run step s post).watchdog.mission_state = MissionState.EMERGENCY) := by
  intro s
  have hbooks : s.Accounted := accounted_run (accounted_start base comps u radio_idx h) ops
  refine ⟨?_, hbooks.recorded_ge, fun hlt => ⟨(hbooks.given_up hlt).1, fun post => ?_⟩⟩
  · rw [hbooks.kept.callsOn_eq, hbooks.restarts_eq]
  · -- The failures stay failures.
    have hmono (s : RadioSystem) (op : RadioOp) (hs : 3 < s.failures) :
        3 < (s.step op).failures := by
      cases op with
      | radio | call => exact hs
      | cycle => exact hs.trans_le (Nat.le_add_right _ _)
    exact ((accounted_run hbooks post).given_up (run_invariant hmono hlt post)).2

/-- Ten faults of the radio. -/
def tenFaults : List RadioOp := List.replicate 10 (RadioOp.radio RadioInput.fault)

/-- After ten faults a cycle restarts the radio, once. -/
theorem restart_accounting_ten :
    let s := run step (start (Component.create (ascii "Supervisor") 1)
      [some ⟨ascii "RadioLink", true⟩] (UdpLink.create TelemetryBridge.listening LinkMode.UDP) 0
      (by decide +kernel)) (tenFaults ++ [RadioOp.cycle (WatchdogComponent.corrupted []) [] []])
    s.watchdog.callsOn 0 = (List.replicate (min s.failures 3) (restartCalls 0)).flatten ∧
      s.failures = 1 :=
  ⟨(restart_accounting (Component.create (ascii "Supervisor") 1) [some ⟨ascii "RadioLink", true⟩]
    (UdpLink.create TelemetryBridge.listening LinkMode.UDP) 0 (by decide +kernel)
    (tenFaults ++ [RadioOp.cycle (WatchdogComponent.corrupted []) [] []])).1, by decide +kernel⟩

/-! ### Foreign datagrams -/

/-- A foreign datagram is an error. -/
theorem errors_of_foreign {s : RadioSystem} {input : RadioInput}
    (h : (RadioOp.radio input).foreign s.link.allowed_uplink_addr = true) :
    s.link.errors input = 1 := by
  cases input with
  | datagram client =>
    simp only [RadioOp.foreign, Bool.and_eq_true, decide_eq_true_eq] at h
    have htrust : s.link.isTrustedUplinkSource client.source = false := decide_eq_false h.2
    simp only [UdpLink.errors]
    rw [if_neg h.1, if_pos htrust]
  | serialByte | fault | commandPort | replayFile => cases h

/-- A stretch without a failure: errors, the foreign datagrams among them, only add up. -/
structure Grown (s s' : RadioSystem) (n : ℕ) : Prop where
  trusted_eq : s'.link.allowed_uplink_addr = s.link.allowed_uplink_addr
  recorded_le : s.recorded ≤ s'.recorded
  failures_le : s.failures ≤ s'.failures
  errors_ge : s'.recorded < 2^32 → s'.failures = s.failures →
    s.link.error_count.toNat + n ≤ s'.link.error_count.toNat

/-- An operation adds an error if it is a foreign datagram, and loses none. -/
theorem grown_step {s : RadioSystem} (h : s.Accounted) (op : RadioOp) :
    Grown s (s.step op) (if op.foreign s.link.allowed_uplink_addr then 1 else 0) := by
  have hbooks := h.recorded_ge
  cases op with
  | radio input =>
    refine ⟨s.link.allowed_uplink_addr_take input, Nat.le_add_right _ _, le_rfl, fun hfits _ => ?_⟩
    have hfits' : s.recorded + s.link.errors input < 2^32 := hfits
    have hcount := (s.link.error_count_run [input]).2
    rw [UdpLink.errorsOf, UdpLink.errorsOf] at hcount
    have hlink : (s.step (RadioOp.radio input)).link.error_count.toNat =
        s.link.error_count.toNat + (s.link.errors input + 0) := hcount (by omega)
    split_ifs with hforeign
    · rw [errors_of_foreign hforeign] at hlink
      omega
    · omega
  | call op other => exact ⟨rfl, le_rfl, le_rfl, fun _ _ => le_rfl⟩
  | cycle inp asked passed =>
    have htrusted (u : UdpLink) (inputs : List RadioInput) :
        (run UdpLink.take u inputs).allowed_uplink_addr = u.allowed_uplink_addr :=
      run_frame UdpLink.allowed_uplink_addr UdpLink.allowed_uplink_addr_take u inputs
    refine ⟨?_, Nat.le_add_right _ _, Nat.le_add_right _ _, fun hfits hsame => ?_⟩
    · refine (htrusted (s.passedOver asked) passed).trans ?_
      unfold passedOver
      split_ifs <;> exact htrusted s.link asked
    · -- No failure, so nothing is cleared.
      have hfailed : s.failed = false := by
        by_contra hne
        have hfailures : (s.step (RadioOp.cycle inp asked passed)).failures = s.failures + 1 :=
          congrArg (s.failures + ·) (if_pos (Bool.eq_true_of_not_eq_false hne))
        omega
      have hpassed : s.passedOver asked = run UdpLink.take s.link asked := by
        unfold passedOver
        rw [hfailed]
        rfl
      have hfits' : s.recorded + (s.link.errorsOf asked + (s.passedOver asked).errorsOf passed)
          < 2^32 := hfits
      have hasked := (s.link.error_count_run asked).2 (by omega)
      rw [← hpassed] at hasked
      have hlink : (s.step (RadioOp.cycle inp asked passed)).link.error_count.toNat = _ :=
        ((s.passedOver asked).error_count_run passed).2 (by omega)
      rw [hlink, hasked]
      exact (Nat.le_add_right _ _).trans (Nat.le_add_right _ _)

/-- Over a run the foreign datagrams add up until the radio fails. -/
theorem grown_run {s : RadioSystem} (h : s.Accounted) (ops : List RadioOp) :
    Grown s (run step s ops) (ops.countP (RadioOp.foreign s.link.allowed_uplink_addr)) := by
  induction ops using List.reverseRecOn with
  | nil => exact ⟨rfl, le_rfl, le_rfl, fun _ _ => le_rfl⟩
  | append_singleton ops op ih =>
    have hlast := grown_step (accounted_run h ops) op
    rw [ih.trusted_eq] at hlast
    rw [run_concat, List.countP_append, List.countP_singleton]
    refine ⟨hlast.trusted_eq.trans ih.trusted_eq, ih.recorded_le.trans hlast.recorded_le,
      ih.failures_le.trans hlast.failures_le, fun hfits hsame => ?_⟩
    have hle := ih.failures_le
    have hle' := hlast.failures_le
    have hfront := ih.errors_ge (hlast.recorded_le.trans_lt hfits) (by omega)
    have hback := hlast.errors_ge hfits (by omega)
    omega

/-- A burst leads to a failure. -/
theorem failures_burst {s : RadioSystem} (h : s.Accounted) {ops : List RadioOp}
    (hburst : RadioOp.Burst s.link.allowed_uplink_addr ops)
    (hfits : (run step s ops).recorded < 2^32) :
    s.failures < (run step s ops).failures := by
  obtain ⟨before, inp, asked, passed, rfl, hten⟩ := hburst
  rw [run_concat] at hfits ⊢
  have hgrown := grown_run h before
  have hlast := grown_step (accounted_run h before) (RadioOp.cycle inp asked passed)
  have hle := hgrown.failures_le
  have hle' := hlast.failures_le
  by_contra hnot
  have herrors := hgrown.errors_ge (hlast.recorded_le.trans_lt hfits) (by omega)
  -- The cycle at the end finds ten errors.
  have hfailed := (run step s before).failed_iff.mpr (by omega)
  have hfailures : ((run step s before).step (RadioOp.cycle inp asked passed)).failures =
      (run step s before).failures + 1 :=
    congrArg ((run step s before).failures + ·) (if_pos hfailed)
  omega

/-- Several bursts lead to as many failures. -/
theorem failures_bursts {s : RadioSystem} (h : s.Accounted) (bursts : List (List RadioOp))
    (hbursts : ∀ ops ∈ bursts, RadioOp.Burst s.link.allowed_uplink_addr ops)
    (hfits : (run step s bursts.flatten).recorded < 2^32) :
    s.failures + bursts.length ≤ (run step s bursts.flatten).failures := by
  induction bursts generalizing s with
  | nil => exact le_rfl
  | cons ops bursts ih =>
    have hbooks := accounted_run h ops
    have hgrown := grown_run h ops
    rw [List.flatten_cons, run_append] at hfits ⊢
    have hrest := grown_run hbooks bursts.flatten
    have hfirst := failures_burst h (hbursts ops List.mem_cons_self)
      (hrest.recorded_le.trans_lt hfits)
    have hothers := ih hbooks
      (by rw [hgrown.trusted_eq]; exact fun ops' hmem => hbursts ops' (List.mem_cons_of_mem _ hmem))
      hfits
    rw [List.length_cons]
    omega

/-- With three errors the radio does not answer `NOMINAL`. -/
theorem reportHealth_ne_nominal {u : UdpLink} (h : 3 ≤ u.error_count.toNat) :
    u.bridge.base.reportHealth ≠ HealthStatus.NOMINAL := by
  have hwarning : Component.WARNING_THRESHOLD ≤ u.bridge.base.error_count :=
    UInt32.le_iff_toNat_le.mpr h
  unfold Component.reportHealth
  rw [if_pos hwarning]
  split_ifs <;> nofun

/-- A cycle that finds three errors and no failure keeps the mission out of `NOMINAL`. -/
theorem degraded_of_errors {s : RadioSystem} (h : s.Accounted) (inp : StepInput)
    (asked passed : List RadioInput) (hthree : 3 ≤ s.link.error_count.toNat)
    (hfits : (s.step (RadioOp.cycle inp asked passed)).recorded < 2^32)
    (hsame : (s.step (RadioOp.cycle inp asked passed)).failures = s.failures) :
    MissionState.DEGRADED.toNat ≤
      (s.step (RadioOp.cycle inp asked passed)).watchdog.mission_state.toNat := by
  obtain ⟨comp, hcomp, -⟩ := WatchdogComponent.activeAt_iff.mp s.supervised
  -- The errors are still there when the cycle asks for the recovery.
  have hgrown := grown_step h (RadioOp.cycle inp asked passed)
  have hstill : 3 ≤ (s.recovering asked passed).error_count.toNat := by
    have herrors := hgrown.errors_ge hfits hsame
    have hlink : (s.step (RadioOp.cycle inp asked passed)).link = s.recovering asked passed := rfl
    rw [hlink] at herrors
    omega
  have hrecovery : (s.answers inp asked passed).recoveryHealth s.radio_idx =
      (s.recovering asked passed).bridge.base.reportHealth := Function.update_self ..
  have hlevel := s.watchdog.level_le_step (s.answers inp asked passed) hcomp fun hwell =>
    absurd (hrecovery.symm.trans hwell) (reportHealth_ne_nominal hstill)
  refine le_trans ?_ hlevel
  rw [s.health_answers]
  have hill := reportHealth_ne_nominal hthree
  cases hhealth : s.link.bridge.base.reportHealth with
  | NOMINAL => exact absurd hhealth hill
  | WARNING => exact le_rfl
  | CRITICAL_FAILURE => decide

/-- What foreign datagrams do, over every run as long as the error count does not wrap. Three of
them, on a radio that has not failed since, are enough to keep the mission out of `NOMINAL`. Four
bursts of ten, each with a cycle of the watchdog at its end and anything else in between, accepted
commands included, end the mission: it is in `EMERGENCY`, whatever happens after. -/
theorem flood_ends_mission (base : Component) (comps : List (Option Subsystem)) (u : UdpLink)
    (radio_idx : ℕ) (h : (WatchdogComponent.start base comps).activeAt radio_idx = true)
    (ops : List RadioOp) :
    let s := run step (start base comps u radio_idx h) ops
    (∀ before inp asked passed,
        let s' := run step s (before ++ [RadioOp.cycle inp asked passed])
        3 ≤ before.countP (RadioOp.foreign u.allowed_uplink_addr) → s'.recorded < 2^32 →
          s'.failures = s.failures →
          MissionState.DEGRADED.toNat ≤ s'.watchdog.mission_state.toNat) ∧
      ∀ bursts : List (List RadioOp), 4 ≤ bursts.length →
        (∀ b ∈ bursts, RadioOp.Burst u.allowed_uplink_addr b) →
        (run step s bursts.flatten).recorded < 2^32 →
        ∀ post, (run step s (bursts.flatten ++ post)).watchdog.mission_state =
          MissionState.EMERGENCY := by
  intro s
  have hstart := accounted_start base comps u radio_idx h
  have hbooks : s.Accounted := accounted_run hstart ops
  have htrusted : s.link.allowed_uplink_addr = u.allowed_uplink_addr :=
    (grown_run hstart ops).trusted_eq
  rw [← htrusted]
  refine ⟨fun before inp asked passed => ?_, fun bursts hlen hbursts hfits post => ?_⟩
  · intro s' hthree hfits hsame
    have hs' : s' = (run step s before).step (RadioOp.cycle inp asked passed) := run_concat ..
    rw [hs'] at hfits hsame ⊢
    have hgrown := grown_run hbooks before
    have hlast := grown_step (accounted_run hbooks before) (RadioOp.cycle inp asked passed)
    have hle := hgrown.failures_le
    have hle' := hlast.failures_le
    -- No failure clears the errors in between, so the three are still counted at the cycle.
    have herrors := hgrown.errors_ge (hlast.recorded_le.trans_lt hfits) (by omega)
    exact degraded_of_errors (accounted_run hbooks before) inp asked passed (by omega) hfits
      (by omega)
  · -- Every burst is a failure, and the budget covers three of them.
    have hfailures := failures_bursts hbooks bursts hbursts hfits
    have hpost : (run step s bursts.flatten).failures ≤
        (run step s (bursts.flatten ++ post)).failures := by
      rw [run_append]
      exact (grown_run (accounted_run hbooks bursts.flatten) post).failures_le
    exact ((accounted_run hbooks (bursts.flatten ++ post)).given_up (by omega)).2

/-- Ten datagrams of another host, and a cycle. -/
def tenDatagrams : List RadioOp :=
  List.replicate 10 (RadioOp.radio (RadioInput.datagram ⟨⟨192, 168, 0, 9⟩, [0]⟩)) ++
    [RadioOp.cycle (WatchdogComponent.corrupted []) [] []]

/-- Forty datagrams of another host end the mission. -/
theorem flood_ends_mission_forty :
    (run step (start (Component.create (ascii "Supervisor") 1) [some ⟨ascii "RadioLink", true⟩]
      (UdpLink.create TelemetryBridge.listening LinkMode.UDP) 0 (by decide +kernel))
      ((List.replicate 4 tenDatagrams).flatten ++ [])).watchdog.mission_state =
        MissionState.EMERGENCY :=
  (flood_ends_mission (Component.create (ascii "Supervisor") 1) [some ⟨ascii "RadioLink", true⟩]
    (UdpLink.create TelemetryBridge.listening LinkMode.UDP) 0 (by decide +kernel) []).2
    (List.replicate 4 tenDatagrams) (by decide)
    (fun b hb => ⟨_, _, _, _, List.eq_of_mem_replicate hb, by decide +kernel⟩)
    (by decide +kernel) []

end RadioSystem

end DeltaV
