import DeltaV.Bridge.Frame
import DeltaV.Bridge.Replay
import DeltaV.Ground.Model

/-!
# The contract of the uplink

Which frames the bridge accepts is a conjunction over the frame, the replay state, and the command
port (`Accepts`), and each test of `processIncomingFrame` is one of its parts
(`processIncomingFrame_iff`). Acceptance queues one packet and remembers the number of the frame
(`processIncomingFrame_accepted`); rejection counts and changes nothing else
(`processIncomingFrame_rejected`). The ground packs frames that are well-formed, so what is left to
refuse them is the replay test and the port. A sender whose numbers are consecutive passes the
replay test as long as no gap exceeds 255 frames.
-/

namespace DeltaV

/-- A frame that the bridge takes for a command: its length, and the fields of its header. -/
structure WellFormed (data : List UInt8) : Prop where
  length_eq : data.length = 22
  sync_word : le (slice data 0 4) = 0x1ACFFC1D
  apid : le (slice data 4 2) = 30
  payload_len : le (slice data 8 2) = 12

namespace TelemetryBridge

/-- The commands that wait in the queue behind the command port. -/
def commandQueue (b : TelemetryBridge) : List CommandPacket :=
  match b.command_out with
  | none => []
  | some port => port.pending

/-- The command port is connected to a queue with room. -/
def PortReady (b : TelemetryBridge) : Prop :=
  ∃ port, b.command_out = some port ∧ port.pending.length < DEFAULT_QUEUE_DEPTH

/-- The sequence number passes the replay test. -/
def Passes (b : TelemetryBridge) (seq : ℕ) : Prop :=
  b.first_uplink = true ∨ b.last_uplink_seq.toNat < seq ∨
    (0xFF00 < b.last_uplink_seq.toNat ∧ seq < 0x0100)

/-- What a frame needs to be accepted. -/
structure Accepts (b : TelemetryBridge) (data : List UInt8) : Prop where
  wellFormed : WellFormed data
  passes : b.Passes (le (slice data 6 2))
  ready : b.PortReady

/-! ## The tests -/

/-- The replay test of the code is `Passes`. -/
theorem isReplay_eq_false_iff (b : TelemetryBridge) (seq : UInt32) :
    b.isReplay seq = false ↔ b.Passes seq.toNat := by
  have hhigh : SEQ_WRAP_HIGH < b.last_uplink_seq ↔ 0xFF00 < b.last_uplink_seq.toNat := by
    rw [UInt32.lt_iff_toNat_lt]
    rfl
  have hlow : seq < SEQ_WRAP_LOW ↔ seq.toNat < 0x0100 := by
    rw [UInt32.lt_iff_toNat_lt]
    rfl
  simp only [isReplay, Passes, Bool.and_eq_false_iff, Bool.not_eq_false', Bool.and_eq_true,
    decide_eq_true_eq, decide_eq_false_iff_not, UInt32.le_iff_toNat_le, hhigh, hlow, not_le]
  constructor
  · rintro ((h | h) | h)
    · exact Or.inl h
    · exact Or.inr (Or.inr h)
    · exact Or.inr (Or.inl h)
  · rintro (h | h | h)
    · exact Or.inl (Or.inl h)
    · exact Or.inr h
    · exact Or.inl (Or.inr h)

/-- The port takes a packet exactly when it is connected and has room. -/
theorem sendCommand_snd (b : TelemetryBridge) (cmd : CommandPacket) :
    (b.sendCommand cmd).2 = true ↔ b.PortReady := by
  unfold sendCommand PortReady
  cases hport : b.command_out with
  | none => simp
  | some port => simp [port.receive_snd]

/-- A packet that the port takes waits behind the others. -/
theorem commandQueue_sendCommand (b : TelemetryBridge) (cmd : CommandPacket) :
    (b.sendCommand cmd).1.commandQueue =
      b.commandQueue ++ (if (b.sendCommand cmd).2 then [cmd] else []) := by
  unfold sendCommand commandQueue
  cases hport : b.command_out with
  | none => simp [hport]
  | some port => exact port.pending_receive cmd

/-- Sending changes nothing but the queue behind the port. -/
theorem sendCommand_frame (b : TelemetryBridge) (cmd : CommandPacket) :
    ∃ command_out, (b.sendCommand cmd).1 = { b with command_out := command_out } := by
  unfold sendCommand
  cases b.command_out with
  | none => exact ⟨b.command_out, rfl⟩
  | some port => exact ⟨_, rfl⟩

/-- Writing the replay file leaves the command port alone. -/
theorem persistReplayState_command_out (b : TelemetryBridge) :
    b.persistReplayState.command_out = b.command_out := by
  unfold persistReplayState
  split_ifs <;> rfl

/-- A frame is accepted exactly when it passes every test. -/
theorem processIncomingFrame_iff (b : TelemetryBridge) (data : List UInt8) :
    (b.processIncomingFrame data).2 = true ↔ b.Accepts data := by
  obtain ⟨dsync, dapid, dseq, dlen⟩ := CcsdsHeader.decode_toNat data
  have hsync : (CcsdsHeader.decode data).sync_word = CCSDS_SYNC_WORD ↔
      le (slice data 0 4) = 0x1ACFFC1D := by
    rw [← UInt32.toNat_inj, dsync]
    rfl
  have hapid : (CcsdsHeader.decode data).apid = Apid.COMMAND ↔ le (slice data 4 2) = 30 := by
    rw [← UInt16.toNat_inj, dapid]
    rfl
  have hpass : b.isReplay (CcsdsHeader.decode data).seq_count.toUInt32 = false ↔
      b.Passes (le (slice data 6 2)) := by
    rw [isReplay_eq_false_iff, UInt16.toNat_toUInt32, dseq]
  simp only [processIncomingFrame]
  split_ifs with h1 h2 h3 h4 h5 h6
  · exact iff_of_false not_false fun h => h1 h.wellFormed.length_eq
  · exact iff_of_false not_false fun h => h2 (hsync.mpr h.wellFormed.sync_word)
  · exact iff_of_false not_false fun h => h3 (hapid.mpr h.wellFormed.apid)
  · exact iff_of_false not_false fun h => h4 (dlen.trans h.wellFormed.payload_len)
  · refine iff_of_false not_false fun h => ?_
    rw [hpass.mpr h.passes] at h5
    cases h5
  · refine iff_of_false not_false fun h => ?_
    rw [(b.sendCommand_snd _).mpr h.ready] at h6
    cases h6
  · refine iff_of_true rfl ⟨⟨?_, ?_, ?_, ?_⟩, ?_, ?_⟩
    · exact not_not.mp h1
    · exact hsync.mp (not_not.mp h2)
    · exact hapid.mp (not_not.mp h3)
    · exact dlen.symm.trans (not_not.mp h4)
    · exact hpass.mp (eq_false_of_ne_true h5)
    · exact (b.sendCommand_snd _).mp (eq_true_of_ne_false h6)

/-- An accepted frame sends its packet, remembers its number, and writes the replay file. -/
theorem processIncomingFrame_eq (b : TelemetryBridge) (data : List UInt8)
    (h : (b.processIncomingFrame data).2 = true) :
    (b.processIncomingFrame data).1 =
      persistReplayState { (b.sendCommand (CommandPacket.decode data)).1 with
        first_uplink := false
        last_uplink_seq := (CcsdsHeader.decode data).seq_count.toUInt32
        log := b.log ++ [BridgeAction.accepted (CcsdsHeader.decode data).seq_count
          (CommandPacket.decode data)] } := by
  revert h
  simp only [processIncomingFrame]
  split_ifs
  iterate 6 exact False.elim
  exact fun _ => rfl

/-- An accepted frame leaves its packet in the queue and its number in the replay state. -/
theorem processIncomingFrame_accepted (b : TelemetryBridge) (data : List UInt8)
    (h : (b.processIncomingFrame data).2 = true) :
    (b.processIncomingFrame data).1.commandQueue =
        b.commandQueue ++ [CommandPacket.decode data] ∧
      (b.processIncomingFrame data).1.first_uplink = false ∧
      (b.processIncomingFrame data).1.last_uplink_seq.toNat = le (slice data 6 2) := by
  have hsent : (b.sendCommand (CommandPacket.decode data)).2 = true :=
    (b.sendCommand_snd _).mpr ((b.processIncomingFrame_iff data).mp h).ready
  have hqueue := b.commandQueue_sendCommand (CommandPacket.decode data)
  rw [hsent, if_pos rfl] at hqueue
  have heq := b.processIncomingFrame_eq data h
  refine ⟨?_, ?_, ?_⟩
  · rw [heq, ← hqueue]
    unfold commandQueue
    rw [persistReplayState_command_out]
  · rw [heq, (persistReplayState_frame _).1]
  · rw [heq, (persistReplayState_frame _).2]
    show (CcsdsHeader.decode data).seq_count.toUInt32.toNat = _
    rw [UInt16.toNat_toUInt32, (CcsdsHeader.decode_toNat data).2.2.1]

/-- A rejected frame is counted, and changes neither the queue nor the replay state. -/
theorem processIncomingFrame_rejected (b : TelemetryBridge) (data : List UInt8)
    (h : (b.processIncomingFrame data).2 = false) :
    (b.processIncomingFrame data).1.commandQueue = b.commandQueue ∧
      (b.processIncomingFrame data).1.first_uplink = b.first_uplink ∧
      (b.processIncomingFrame data).1.last_uplink_seq = b.last_uplink_seq ∧
      (b.processIncomingFrame data).1.replay_file = b.replay_file ∧
      (b.processIncomingFrame data).1.rejected_count = b.rejected_count + 1 := by
  revert h
  simp only [processIncomingFrame]
  split_ifs with h1 h2 h3 h4 h5 h6
  iterate 5 exact fun _ => ⟨rfl, rfl, rfl, rfl, rfl⟩
  · intro _
    have hqueue := b.commandQueue_sendCommand (CommandPacket.decode data)
    rw [h6, if_neg (by decide), List.append_nil] at hqueue
    obtain ⟨command_out, hframe⟩ := b.sendCommand_frame (CommandPacket.decode data)
    rw [hframe] at hqueue ⊢
    exact ⟨hqueue, rfl, rfl, rfl, rfl⟩
  · exact False.elim

end TelemetryBridge

/-! ## The ground -/

/-- The header that the ground gives to a command. -/
def commandHeader (uplink_seq : ℕ) : CcsdsHeader :=
  ⟨CCSDS_SYNC_WORD, Apid.COMMAND, UInt16.ofNat uplink_seq, 12⟩

/-- What the ground packs is the layout of a header and a command packet. -/
theorem Gds.sendCommand_eq (g : Gds) (target_id opcode : UInt32) (argument : Binary32) :
    g.sendCommand target_id.toNat opcode.toNat argument =
      some ({ g with uplink_seq := g.uplink_seq + 1 },
        (commandHeader g.uplink_seq).bytes ++ CommandPacket.bytes ⟨target_id, opcode, argument⟩) := by
  have hseq : g.uplink_seq &&& 0xFFFF = (UInt16.ofNat g.uplink_seq).toNat := by
    rw [UInt16.toNat_ofNat']
    exact Nat.and_two_pow_sub_one_eq_mod g.uplink_seq 16
  have hlen : (packLE (CMD_FMT.zip [target_id.toNat, opcode.toNat, argument.bits.toNat])).length =
      (12 : UInt16).toNat := length_packLE _
  unfold sendCommand
  rw [if_pos ⟨target_id.toNat_lt, opcode.toNat_lt⟩]
  simp only [hlen, hseq]
  rfl

/-- The ground packs well-formed frames. -/
theorem wellFormed_packed (uplink_seq : ℕ) (cmd : CommandPacket) :
    WellFormed ((commandHeader uplink_seq).bytes ++ cmd.bytes) ∧
      le (slice ((commandHeader uplink_seq).bytes ++ cmd.bytes) 6 2) = uplink_seq % 65536 := by
  obtain ⟨hsync, hapid, hseq, hlen⟩ :=
    CcsdsHeader.decode_toNat ((commandHeader uplink_seq).bytes ++ cmd.bytes)
  rw [CcsdsHeader.decode_bytes] at hsync hapid hseq hlen
  refine ⟨⟨?_, hsync.symm, hapid.symm, hlen.symm⟩, ?_⟩
  · rw [List.length_append, CcsdsHeader.length_bytes, CommandPacket.length_bytes]
    rfl
  · rw [← hseq]
    exact UInt16.toNat_ofNat'

namespace TelemetryBridge

/-- A command port that takes nothing is full or not connected. -/
theorem not_portReady_iff (b : TelemetryBridge) :
    ¬b.PortReady ↔
      b.command_out = none ∨ ∃ port, b.command_out = some port ∧ port.pending.length = 16 := by
  unfold PortReady
  cases b.command_out with
  | none => simp
  | some port =>
    have hle : port.pending.length ≤ 16 := port.length_pending_le
    constructor
    · intro h
      refine Or.inr ⟨port, rfl, le_antisymm hle ?_⟩
      exact not_lt.mp fun hlt => h ⟨port, rfl, hlt⟩
    · rintro (hnone | ⟨p, hp, hfull⟩) ⟨p', hp', hroom⟩
      · cases hnone
      · rw [← Option.some.inj hp', Option.some.inj hp, hfull] at hroom
        exact absurd hroom (lt_irrefl 16)

/-- The contract of the uplink, for every state of the bridge and every byte string. A frame is
accepted exactly when it is well-formed, its number passes the replay test, and the command port has
room; then one packet with the bytes behind the header is queued and the number is remembered. A
rejected frame is counted and changes nothing else. A command packed by the ground is accepted with
its own values, or rejected by the replay test or by a port that is full or not connected. -/
theorem uplink_contract :
    (∀ (b : TelemetryBridge) (data : List UInt8),
      let r := b.processIncomingFrame data
      (r.2 = true ↔ b.Accepts data) ∧
        (r.2 = true → ∃ cmd : CommandPacket, cmd.bytes = slice data 10 12 ∧
          r.1.commandQueue = b.commandQueue ++ [cmd] ∧
          r.1.last_uplink_seq.toNat = le (slice data 6 2)) ∧
        (r.2 = false → r.1.commandQueue = b.commandQueue ∧ r.1.first_uplink = b.first_uplink ∧
          r.1.last_uplink_seq = b.last_uplink_seq ∧ r.1.replay_file = b.replay_file ∧
          r.1.rejected_count = b.rejected_count + 1)) ∧
      ∀ (b : TelemetryBridge) (g : Gds) (target_id opcode : UInt32) (argument : Binary32),
        ∃ frame, g.sendCommand target_id.toNat opcode.toNat argument =
            some ({ g with uplink_seq := g.uplink_seq + 1 }, frame) ∧
          let r := b.processIncomingFrame frame
          (r.2 = true ∧
            r.1.commandQueue = b.commandQueue ++ [⟨target_id, opcode, argument⟩] ∧
            r.1.last_uplink_seq.toNat = g.uplink_seq % 65536) ∨
          (r.2 = false ∧ (¬b.Passes (g.uplink_seq % 65536) ∨ b.command_out = none ∨
            ∃ port, b.command_out = some port ∧ port.pending.length = 16)) := by
  constructor
  · intro b data r
    refine ⟨b.processIncomingFrame_iff data, fun h => ?_, b.processIncomingFrame_rejected data⟩
    obtain ⟨hqueue, -, hseq⟩ := b.processIncomingFrame_accepted data h
    have hlen := ((b.processIncomingFrame_iff data).mp h).wellFormed.length_eq
    exact ⟨_, CommandPacket.bytes_decode hlen, hqueue, hseq⟩
  · intro b g target_id opcode argument
    refine ⟨_, g.sendCommand_eq target_id opcode argument, ?_⟩
    obtain ⟨hwf, hnum⟩ := wellFormed_packed g.uplink_seq ⟨target_id, opcode, argument⟩
    generalize hframe : (commandHeader g.uplink_seq).bytes ++
      CommandPacket.bytes ⟨target_id, opcode, argument⟩ = frame at hwf hnum
    intro r
    have hiff := b.processIncomingFrame_iff frame
    cases h : (b.processIncomingFrame frame).2 with
    | true =>
      obtain ⟨hqueue, -, hseq⟩ := b.processIncomingFrame_accepted frame h
      rw [← hframe, CommandPacket.decode_bytes, hframe] at hqueue
      exact Or.inl ⟨rfl, hqueue, hseq.trans hnum⟩
    | false =>
      -- The frame is well-formed, so one of the two other parts of acceptance fails.
      refine Or.inr ⟨rfl, ?_⟩
      by_cases hpass : b.Passes (g.uplink_seq % 65536)
      · refine Or.inr (b.not_portReady_iff.mp fun hready => ?_)
        rw [h] at hiff
        exact absurd (hiff.mpr ⟨hwf, hnum ▸ hpass, hready⟩) Bool.false_ne_true
      · exact Or.inl hpass

/-- A bridge whose command port is not connected rejects the first command of the ground, although
its replay test would pass and no queue is full. -/
theorem unconnected_port_rejects :
    ∃ g frame, Gds.create.sendCommand 200 1 ⟨0⟩ = some (g, frame) ∧
      let b : TelemetryBridge := { listening with command_out := none }
      (b.processIncomingFrame frame).2 = false ∧ b.Passes (Gds.create.uplink_seq % 65536) ∧
        ¬∃ port, b.command_out = some port ∧ port.pending.length = 16 := by
  refine ⟨_, _, rfl, by decide +kernel, Or.inl rfl, ?_⟩
  rintro ⟨port, hport, -⟩
  cases hport

/-! ## An honest sender -/

/-- A frame that reaches the bridge: its position in the stream of the sender, its bytes, and the
command port and the replay file as the bridge finds them. -/
structure Delivery where
  position : ℕ
  data : List UInt8
  command_out : Option (InputPort CommandPacket DEFAULT_QUEUE_DEPTH)
  replay_file : ReplayFile

/-- The bridge at the moment of a delivery. -/
def facing (b : TelemetryBridge) (d : Delivery) : TelemetryBridge :=
  { b with command_out := d.command_out, replay_file := d.replay_file }

/-- A delivery, where the state also remembers the position of the last accepted frame. -/
def deliver (s : TelemetryBridge × Option ℕ) (d : Delivery) : TelemetryBridge × Option ℕ :=
  let r := (s.1.facing d).processIncomingFrame d.data
  (r.1, if r.2 then some d.position else s.2)

/-- A delivery of a sender whose numbers are consecutive from `start` on: a well-formed frame behind
the last accepted one, at most 255 places, while the command port has room. -/
structure Honest (start : ℕ) (s : TelemetryBridge × Option ℕ) (d : Delivery) : Prop where
  wellFormed : WellFormed d.data
  consecutive : le (slice d.data 6 2) = (start + d.position) % 65536
  close : ∀ last ∈ s.2, last < d.position ∧ d.position ≤ last + 255
  ready : (s.1.facing d).PortReady

/-- The delivered frame is accepted. -/
def Accepted (s : TelemetryBridge × Option ℕ) (d : Delivery) : Prop :=
  ((s.1.facing d).processIncomingFrame d.data).2 = true

/-- The replay state is that of the last accepted frame. -/
def Tracks (start : ℕ) (s : TelemetryBridge × Option ℕ) : Prop :=
  match s.2 with
  | none => s.1.first_uplink = true
  | some last => s.1.last_uplink_seq.toNat = (start + last) % 65536

/-- A frame of the sender passes the replay test. -/
theorem Honest.accepted {start : ℕ} {s : TelemetryBridge × Option ℕ} {d : Delivery}
    (h : Honest start s d) (htracks : Tracks start s) : Accepted s d := by
  refine ((s.1.facing d).processIncomingFrame_iff d.data).mpr ⟨h.wellFormed, ?_, h.ready⟩
  unfold Tracks at htracks
  cases hlast : s.2 with
  | none =>
    rw [hlast] at htracks
    exact Or.inl htracks
  | some last =>
    rw [hlast] at htracks
    obtain ⟨hlt, hle⟩ := h.close last hlast
    have hnext : SerialNumber.Next 0xFF00 0x0100 ((start + last) % 65536)
        ((start + last + (d.position - last)) % 65536) :=
      SerialNumber.next_of_ahead (show 0xFF00 + 255 < 65536 by decide) (by decide) (by omega)
        (by omega)
    rw [show start + last + (d.position - last) = start + d.position by omega, ← htracks,
      ← h.consecutive] at hnext
    exact Or.inr hnext

/-- An accepted frame becomes the last accepted one. -/
theorem Tracks.deliver {start : ℕ} {s : TelemetryBridge × Option ℕ} {d : Delivery}
    (htracks : Tracks start s) (h : Honest start s d) : Tracks start (deliver s d) := by
  have hacc : ((s.1.facing d).processIncomingFrame d.data).2 = true := h.accepted htracks
  obtain ⟨-, -, hlast⟩ := (s.1.facing d).processIncomingFrame_accepted d.data hacc
  unfold Tracks TelemetryBridge.deliver
  simp only [hacc, if_true]
  exact hlast.trans h.consecutive

/-- No lockout. From every state with no accepted frame, every finite stream of frames of an honest
sender is accepted frame by frame, and so is every infinite one. -/
theorem honest_sender_accepted (b : TelemetryBridge) (hfirst : b.first_uplink = true)
    (start : ℕ) :
    (∀ ds, Along deliver (Honest start) (b, none) ds → Along deliver Accepted (b, none) ds) ∧
      ∀ stream : ℕ → Delivery,
        (∀ n, Along deliver (Honest start) (b, none) ((List.range n).map stream)) →
        ∀ n, Accepted (run deliver (b, none) ((List.range n).map stream)) (stream n) := by
  have hfinite : ∀ ds, Along deliver (Honest start) (b, none) ds →
      Along deliver Accepted (b, none) ds := by
    intro ds hds
    have hstart : Tracks start (b, none) := hfirst
    exact hds.imp (fun s d htracks h => htracks.deliver h) (fun s d htracks h => h.accepted htracks)
      hstart
  refine ⟨hfinite, fun stream hstream n => ?_⟩
  -- The frame `n` is the last of the first `n + 1` frames.
  have hprefix := hfinite _ (hstream (n + 1))
  rw [List.range_succ, List.map_append, List.map_singleton, along_concat] at hprefix
  exact hprefix.2

/-- The delivery of a command frame to a bridge with an empty queue. -/
def sampleDelivery (position : ℕ) (seq : UInt16) : Delivery :=
  ⟨position, commandFrame seq ⟨200, 1, ⟨0⟩⟩, some (InputPort.create DEFAULT_QUEUE_DEPTH),
    listening.replay_file⟩

/-- The frames with the numbers `0xFFFF` and 2 are accepted when the two between them are lost. -/
theorem honest_sender_accepted_wrap :
    Along deliver Accepted (listening, none) [sampleDelivery 0 0xFFFF, sampleDelivery 3 2] := by
  have hlast : (deliver (listening, none) (sampleDelivery 0 0xFFFF)).2 = some 0 := by
    decide +kernel
  refine (honest_sender_accepted listening rfl 0xFFFF).1 _ ⟨?_, ?_, trivial⟩
  · exact ⟨⟨by decide, by decide, by decide, by decide⟩, by decide, nofun, ⟨_, rfl, by decide⟩⟩
  · refine ⟨⟨by decide, by decide, by decide, by decide⟩, by decide, ?_, ⟨_, rfl, by decide⟩⟩
    intro last h
    rw [hlast] at h
    cases h
    decide

end TelemetryBridge

end DeltaV
