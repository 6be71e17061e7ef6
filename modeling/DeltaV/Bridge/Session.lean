import DeltaV.Bridge.UdpLink
import DeltaV.Bridge.Uplink

/-!
# A session of the command link

The ground numbers its commands from zero and sends each as one datagram. The network may lose,
repeat, delay, and reorder the datagrams, and other hosts send what they like, but not from the
trusted address (`Genuine`). The bridge takes one datagram at a time (`receiveLoop_eq_run`), in any
order with the events at its command port and its replay file.

The bridge keeps only the last accepted number, so what it guarantees end to end is a theorem about
runs. The accepted commands are a subsequence of the sent ones, each taken at most once and in the
order of sending, as long as no number exceeds `0xFF00` (`session_in_order`); from the first number
above it on, the wrap of the replay test lets old frames in again (`session_limit_iff`). A session
that starts again from zero at a bridge that has accepted number `n` loses its first `n + 1`
commands.
-/

namespace DeltaV

namespace TelemetryBridge

/-- The commands that the bridge has accepted, in order. -/
def acceptedCommands (b : TelemetryBridge) : List CommandPacket :=
  b.log.filterMap fun act =>
    match act with
    | BridgeAction.accepted _ cmd => some cmd
    | _ => none

/-- A frame adds its command to the accepted ones, if it is accepted. -/
theorem acceptedCommands_processIncomingFrame (b : TelemetryBridge) (data : List UInt8) :
    (b.processIncomingFrame data).1.acceptedCommands = b.acceptedCommands ++
      if (b.processIncomingFrame data).2 then [CommandPacket.decode data] else [] := by
  have hpersist (b : TelemetryBridge) : b.persistReplayState.log = b.log := by
    unfold persistReplayState
    split_ifs <;> rfl
  unfold acceptedCommands
  cases h : (b.processIncomingFrame data).2 with
  | true =>
    rw [b.processIncomingFrame_eq data h, hpersist, List.filterMap_append]
    rfl
  | false =>
    rw [if_neg Bool.false_ne_true, List.append_nil]
    congr 1
    revert h
    simp only [processIncomingFrame]
    split_ifs with h1 h2 h3 h4 h5 h6
    iterate 5 exact fun _ => rfl
    · obtain ⟨command_out, hframe⟩ := b.sendCommand_frame (CommandPacket.decode data)
      intro _
      rw [hframe]
      rfl
    · exact False.elim

end TelemetryBridge

namespace UdpLink

/-- What the loop does with one datagram. -/
def receive (u : UdpLink) (client : Datagram) : UdpLink :=
  let data := client.data.take BUF_SIZE
  if data = [] then u
  else if u.isTrustedUplinkSource client.source = false then
    { u with bridge := u.bridge.reject.recordError }
  else { u with bridge := (u.bridge.processIncomingFrame data).1 }

/-- The loop takes the datagrams it consumes one after the other. -/
theorem receiveLoop_eq_run {recv : ℕ → Option Datagram} {fuel : ℕ} {u : UdpLink}
    {processed consumed : ℕ} {r : UdpLink × ℕ}
    (h : receiveLoop recv fuel u processed consumed = some r) :
    ∃ ds : List Datagram, (∀ k, k < ds.length → recv (consumed + k) = ds[k]?) ∧
      r = (run receive u ds, consumed + ds.length) := by
  induction fuel generalizing u processed consumed with
  | zero => cases h
  | succ fuel ih =>
    -- A datagram that does not end the loop comes before those of the rest.
    have hnext {v : UdpLink} {processed' : ℕ} {client : Datagram}
        (hrecv : recv consumed = some client) (hv : u.receive client = v)
        (hrest : receiveLoop recv fuel v processed' (consumed + 1) = some r) :
        ∃ ds : List Datagram, (∀ k, k < ds.length → recv (consumed + k) = ds[k]?) ∧
          r = (run receive u ds, consumed + ds.length) := by
      obtain ⟨ds, hds, rfl⟩ := ih hrest
      refine ⟨client :: ds, fun k hk => ?_, ?_⟩
      · cases k with
        | zero => exact hrecv
        | succ k =>
          rw [List.length_cons] at hk
          rw [List.getElem?_cons_succ, ← hds k (by omega)]
          congr 1
          omega
      · rw [run_cons, hv, List.length_cons]
        congr 1
        omega
    rw [receiveLoop] at h
    split_ifs at h with hlt
    · cases hrecv : recv consumed with
      | none =>
        rw [hrecv] at h
        cases h
        exact ⟨[], fun k hk => absurd hk (Nat.not_lt_zero k), rfl⟩
      | some client =>
        rw [hrecv] at h
        simp only at h
        split_ifs at h with hempty htrust
        · cases h
          refine ⟨[client], fun k hk => ?_, ?_⟩
          · obtain rfl : k = 0 := by simpa using hk
            exact hrecv
          · simp [receive, hempty]
        · exact hnext hrecv (by simp [receive, hempty, htrust]) h
        · exact hnext hrecv (by simp [receive, hempty, htrust]) h
    · cases h
      exact ⟨[], fun k hk => absurd hk (Nat.not_lt_zero k), rfl⟩

end UdpLink

/-! ## The link -/

/-- The ground, the bridge, and what has been sent between them. -/
structure CommandLink where
  gds : Gds
  link : UdpLink
  /-- The commands that the ground has sent, in order. -/
  sent : List CommandPacket
  /-- Their datagrams. -/
  wire : List (List UInt8)

/-- What can happen next. -/
inductive LinkOp where
  /-- The ground sends a command. -/
  | send (target_id opcode : ℕ) (argument : Binary32)
  /-- The bridge takes a datagram from its socket. -/
  | datagram (client : Datagram)
  /-- The queue behind the command port is drained, filled, or exchanged. -/
  | commandPort (command_out : Option (InputPort CommandPacket DEFAULT_QUEUE_DEPTH))
  /-- The replay file or its conditions change. -/
  | replayFile (replay_file : ReplayFile)

namespace CommandLink

/-- A new session of the ground, at a bridge in any state. -/
def start (u : UdpLink) : CommandLink := ⟨Gds.create, u, [], []⟩

/-- The commands accepted so far. -/
def accepted (s : CommandLink) : List CommandPacket := s.link.bridge.acceptedCommands

/-- The next state. -/
def step (s : CommandLink) : LinkOp → CommandLink
  | LinkOp.send target_id opcode argument =>
    match s.gds.sendCommand target_id opcode argument with
    | none => s
    | some (gds, frame) =>
      { s with
        gds := gds
        sent := s.sent ++ [⟨UInt32.ofNat target_id, UInt32.ofNat opcode, argument⟩]
        wire := s.wire ++ [frame] }
  | LinkOp.datagram client => { s with link := s.link.receive client }
  | LinkOp.commandPort command_out =>
    { s with link := { s.link with bridge := { s.link.bridge with command_out := command_out } } }
  | LinkOp.replayFile replay_file =>
    { s with link := { s.link with bridge := { s.link.bridge with replay_file := replay_file } } }

/-- A datagram from the trusted address is one that the ground has sent. -/
def Genuine (s : CommandLink) : LinkOp → Prop
  | LinkOp.datagram client =>
    s.link.isTrustedUplinkSource client.source = true → client.data ∈ s.wire
  | _ => True

/-! ## What the ground sends -/

/-- The ground counts its commands, and numbers their frames. -/
structure Numbered (s : CommandLink) : Prop where
  counter : s.gds.uplink_seq = s.sent.length
  wire_eq : ∀ i, s.wire[i]? = s.sent[i]?.map fun cmd => (commandHeader i).bytes ++ cmd.bytes

/-- A new session numbers its commands from zero. -/
theorem numbered_start (u : UdpLink) : Numbered (start u) := ⟨rfl, fun _ => rfl⟩

/-- There is one frame on the wire for every command that was sent. -/
theorem Numbered.length_wire {s : CommandLink} (h : Numbered s) :
    s.wire.length = s.sent.length := by
  have hnone := h.wire_eq s.sent.length
  rw [List.getElem?_eq_none le_rfl, Option.map_none, List.getElem?_eq_none_iff] at hnone
  refine le_antisymm hnone (not_lt.mp fun hlt => ?_)
  have hlast := h.wire_eq s.wire.length
  rw [List.getElem?_eq_none le_rfl, List.getElem?_eq_getElem hlt] at hlast
  cases hlast

/-- A command with numbers that fit is sent. -/
theorem step_send (s : CommandLink) (target_id opcode : UInt32) (argument : Binary32) :
    s.step (LinkOp.send target_id.toNat opcode.toNat argument) =
      { s with
        gds := { s.gds with uplink_seq := s.gds.uplink_seq + 1 }
        sent := s.sent ++ [⟨target_id, opcode, argument⟩]
        wire := s.wire ++ [(commandHeader s.gds.uplink_seq).bytes ++
          CommandPacket.bytes ⟨target_id, opcode, argument⟩] } := by
  simp only [step, s.gds.sendCommand_eq, UInt32.ofNat_toNat]

/-- A command is sent, or one of its numbers does not fit and nothing happens. -/
theorem step_send_cases (s : CommandLink) (target_id opcode : ℕ) (argument : Binary32) :
    s.step (LinkOp.send target_id opcode argument) = s ∨
      ∃ target opc : UInt32, s.step (LinkOp.send target_id opcode argument) =
        s.step (LinkOp.send target.toNat opc.toNat argument) := by
  by_cases hfits : target_id < 2^32 ∧ opcode < 2^32
  · refine Or.inr ⟨UInt32.ofNat target_id, UInt32.ofNat opcode, ?_⟩
    rw [UInt32.toNat_ofNat_of_lt' hfits.1, UInt32.toNat_ofNat_of_lt' hfits.2]
  · refine Or.inl ?_
    simp only [step, Gds.sendCommand, if_neg hfits]

/-- Sending keeps the numbering. -/
theorem Numbered.send {s : CommandLink} (h : Numbered s) (target_id opcode : UInt32)
    (argument : Binary32) :
    Numbered (s.step (LinkOp.send target_id.toNat opcode.toNat argument)) := by
  rw [step_send]
  refine ⟨?_, fun i => ?_⟩
  · rw [List.length_append, List.length_singleton, ← h.counter]
  · -- The new frame carries the number of its place.
    rcases lt_trichotomy i s.sent.length with hlt | rfl | hgt
    · rw [List.getElem?_append_left (h.length_wire ▸ hlt), List.getElem?_append_left hlt]
      exact h.wire_eq i
    · rw [← h.length_wire, List.getElem?_concat_length, h.length_wire, List.getElem?_concat_length,
        h.counter]
      rfl
    · rw [List.getElem?_eq_none, List.getElem?_eq_none]
      · rfl
      · rw [List.length_append, List.length_singleton]
        omega
      · rw [List.length_append, List.length_singleton, h.length_wire]
        omega

/-- Every operation keeps the numbering, and none takes a sent command back. -/
theorem Numbered.step {s : CommandLink} (h : Numbered s) (op : LinkOp) :
    Numbered (s.step op) ∧ s.sent <+: (s.step op).sent := by
  cases op with
  | send target_id opcode argument =>
    rcases s.step_send_cases target_id opcode argument with heq | ⟨target, opc, heq⟩
    · rw [heq]
      exact ⟨h, List.prefix_rfl⟩
    · rw [heq]
      refine ⟨h.send target opc argument, ?_⟩
      rw [step_send]
      exact List.prefix_append _ _
  | datagram | commandPort | replayFile => exact ⟨⟨h.counter, h.wire_eq⟩, List.prefix_rfl⟩

/-! ## What the bridge accepts -/

/-- The first number that may be accepted from a session: numbers up to the last accepted one are
refused, unless it is so high that the numbers of the session count as wrapped. -/
def firstFresh (b : TelemetryBridge) : ℕ :=
  if b.first_uplink = false ∧ b.last_uplink_seq.toNat ≤ 0xFF00 then b.last_uplink_seq.toNat + 1
  else 0

/-- A number that passes the replay test is fresh. -/
theorem firstFresh_le_of_passes {b : TelemetryBridge} {seq : ℕ} (h : b.Passes seq) :
    firstFresh b ≤ seq := by
  unfold firstFresh
  split_ifs with hlast
  · rcases h with hfirst | hlt | ⟨hhigh, -⟩
    · rw [hlast.1] at hfirst
      cases hfirst
    · exact hlt
    · omega
  · exact Nat.zero_le _

/-- The accepted commands are a subsequence of the sent ones, from the first fresh number to the
last accepted one. -/
structure InOrder (u₀ : UdpLink) (s : CommandLink) : Prop where
  numbered : Numbered s
  order : s.sent.length ≤ 0xFF01 →
    (s.accepted = [] ∧ s.link.bridge.first_uplink = u₀.bridge.first_uplink ∧
      s.link.bridge.last_uplink_seq = u₀.bridge.last_uplink_seq) ∨
    ∃ k < s.sent.length, firstFresh u₀.bridge ≤ k ∧ s.link.bridge.first_uplink = false ∧
      s.link.bridge.last_uplink_seq.toNat = k ∧
      s.accepted.Sublist ((s.sent.take (k + 1)).drop (firstFresh u₀.bridge))

/-- A subsequence of a part of a list stays one when a later item is added to both. -/
theorem sublist_concat {α : Type*} {l a : List α} {x : α} {j m i : ℕ}
    (h : a.Sublist ((l.take j).drop m)) (hji : j ≤ i) (hmi : m ≤ i) (hx : l[i]? = some x) :
    (a ++ [x]).Sublist ((l.take (i + 1)).drop m) := by
  obtain ⟨hi, rfl⟩ := List.getElem?_eq_some_iff.mp hx
  rw [List.take_add_one, List.getElem?_eq_getElem hi, Option.toList_some,
    List.drop_append_of_le_length (by rw [List.length_take]; omega)]
  refine List.Sublist.append (h.trans ?_) (List.Sublist.refl _)
  exact ((List.take_prefix_take_left hji).sublist).drop m

/-- A frame of the session that passes the replay test is fresh, and adds to the order. -/
theorem InOrder.accept {u₀ : UdpLink} {s : CommandLink} (h : InOrder u₀ s) {i : ℕ}
    {cmd : CommandPacket} (hi : s.sent[i]? = some cmd) (hlen : s.sent.length ≤ 0xFF01)
    (hpass : s.link.bridge.Passes i) :
    firstFresh u₀.bridge ≤ i ∧
      (s.accepted ++ [cmd]).Sublist ((s.sent.take (i + 1)).drop (firstFresh u₀.bridge)) := by
  rcases h.order hlen with ⟨hnone, hfirst, hlast⟩ | ⟨k, hk, hfresh, hfirst, hlast, hsub⟩
  · -- The first acceptance of the session: the replay state is the one the session found.
    have hfresh : firstFresh u₀.bridge ≤ i := by
      have hsame : firstFresh s.link.bridge = firstFresh u₀.bridge := by
        unfold firstFresh
        rw [hfirst, hlast]
      exact hsame ▸ firstFresh_le_of_passes hpass
    rw [hnone]
    exact ⟨hfresh, sublist_concat (j := 0) (by simp) (Nat.zero_le i) hfresh hi⟩
  · -- Later acceptances: the last number is too low to wrap.
    have hki : k < i := by
      rcases hpass with hnever | hnext | ⟨hhigh, -⟩
      · rw [hfirst] at hnever
        cases hnever
      · rwa [hlast] at hnext
      · rw [hlast] at hhigh
        omega
    exact ⟨by omega, sublist_concat hsub hki (by omega) hi⟩

/-- What the bridge reads of a datagram: a frame of the ground is shorter than its buffer. -/
theorem take_frame (i : ℕ) (cmd : CommandPacket) :
    ((commandHeader i).bytes ++ cmd.bytes).take UdpLink.BUF_SIZE =
      (commandHeader i).bytes ++ cmd.bytes := by
  refine List.take_of_length_le ?_
  rw [List.length_append, CcsdsHeader.length_bytes, CommandPacket.length_bytes]
  decide

/-- A datagram that adds no accepted command and leaves the replay state alone keeps the order. -/
theorem InOrder.of_same {u₀ : UdpLink} {s s' : CommandLink} (h : InOrder u₀ s)
    (hgds : s'.gds = s.gds) (hsent : s'.sent = s.sent) (hwire : s'.wire = s.wire)
    (haccepted : s'.accepted = s.accepted)
    (hfirst : s'.link.bridge.first_uplink = s.link.bridge.first_uplink)
    (hlast : s'.link.bridge.last_uplink_seq = s.link.bridge.last_uplink_seq) : InOrder u₀ s' := by
  refine ⟨⟨?_, ?_⟩, ?_⟩
  · rw [hgds, hsent]
    exact h.numbered.counter
  · rw [hwire, hsent]
    exact h.numbered.wire_eq
  · rw [hsent, haccepted, hfirst, hlast]
    exact h.order

/-- A genuine datagram keeps the order. -/
theorem InOrder.datagram {u₀ : UdpLink} {s : CommandLink} (h : InOrder u₀ s) {client : Datagram}
    (hgenuine : s.Genuine (LinkOp.datagram client)) :
    InOrder u₀ (s.step (LinkOp.datagram client)) := by
  by_cases hempty : client.data.take UdpLink.BUF_SIZE = []
  · have hsame : s.link.receive client = s.link := by simp [UdpLink.receive, hempty]
    exact h.of_same rfl rfl rfl (by simp [accepted, step, hsame]) (by simp [step, hsame])
      (by simp [step, hsame])
  cases htrust : s.link.isTrustedUplinkSource client.source with
  | false =>
    have hreject : s.link.receive client =
        { s.link with bridge := s.link.bridge.reject.recordError } := by
      simp [UdpLink.receive, hempty, htrust]
    refine h.of_same rfl rfl rfl ?_ ?_ ?_
    · simp only [accepted, step, hreject]
      rfl
    · simp only [step, hreject]
      rfl
    · simp only [step, hreject]
      rfl
  | true =>
    have hframe : s.link.receive client = { s.link with
        bridge := (s.link.bridge.processIncomingFrame (client.data.take UdpLink.BUF_SIZE)).1 } := by
      simp [UdpLink.receive, hempty, htrust]
    -- The datagram is the frame of some command that has been sent.
    obtain ⟨i, hi⟩ := List.getElem?_of_mem (hgenuine htrust)
    obtain ⟨cmd, hcmd, hdata⟩ : ∃ cmd, s.sent[i]? = some cmd ∧
        (commandHeader i).bytes ++ cmd.bytes = client.data := by
      have hnumbered := h.numbered.wire_eq i
      rw [hi] at hnumbered
      exact Option.map_eq_some_iff.mp hnumbered.symm
    rw [← hdata, take_frame] at hframe
    generalize hbytes : (commandHeader i).bytes ++ cmd.bytes = frame at hframe
    have hdecode : CommandPacket.decode frame = cmd := by
      rw [← hbytes, CommandPacket.decode_bytes]
    have hnumber : le (slice frame 6 2) = i % 65536 := by
      rw [← hbytes]
      exact (wellFormed_packed i cmd).2
    have hlog := s.link.bridge.acceptedCommands_processIncomingFrame frame
    cases haccept : (s.link.bridge.processIncomingFrame frame).2 with
    | false =>
      obtain ⟨-, hfirst, hlast, -, -⟩ := s.link.bridge.processIncomingFrame_rejected frame haccept
      rw [haccept, if_neg Bool.false_ne_true, List.append_nil] at hlog
      refine h.of_same rfl rfl rfl ?_ ?_ ?_
      · simpa only [accepted, step, hframe] using hlog
      · simpa only [step, hframe] using hfirst
      · simpa only [step, hframe] using hlast
    | true =>
      obtain ⟨-, hfirst, hlast⟩ := s.link.bridge.processIncomingFrame_accepted frame haccept
      have hpass := ((s.link.bridge.processIncomingFrame_iff frame).mp haccept).passes
      rw [haccept, if_pos rfl, hdecode] at hlog
      rw [hnumber] at hlast hpass
      refine ⟨h.numbered.step (LinkOp.datagram client) |>.1, fun hlen => Or.inr ⟨i, ?_⟩⟩
      have hlen' : s.sent.length ≤ 0xFF01 := hlen
      obtain ⟨hlt, -⟩ := List.getElem?_eq_some_iff.mp hcmd
      rw [Nat.mod_eq_of_lt (by omega)] at hlast hpass
      obtain ⟨hfresh, hsub⟩ := h.accept hcmd hlen' hpass
      refine ⟨hlt, hfresh, ?_, ?_, ?_⟩
      · simpa only [step, hframe] using hfirst
      · simpa only [step, hframe] using hlast
      · have haccepted : (s.step (LinkOp.datagram client)).accepted = s.accepted ++ [cmd] := by
          simpa only [accepted, step, hframe] using hlog
        rw [haccepted]
        exact hsub

/-- Every genuine operation keeps the order. -/
theorem InOrder.step {u₀ : UdpLink} {s : CommandLink} (h : InOrder u₀ s) {op : LinkOp}
    (hgenuine : s.Genuine op) : InOrder u₀ (s.step op) := by
  cases op with
  | datagram client => exact h.datagram hgenuine
  | commandPort | replayFile => exact h.of_same rfl rfl rfl rfl rfl rfl
  | send target_id opcode argument =>
    obtain ⟨hnumbered, hprefix⟩ := h.numbered.step (LinkOp.send target_id opcode argument)
    have hlink : (s.step (LinkOp.send target_id opcode argument)).link = s.link := by
      simp only [CommandLink.step]
      split <;> rfl
    refine ⟨hnumbered, fun hlen => ?_⟩
    obtain ⟨new, hnew⟩ := hprefix
    rw [← hnew, List.length_append] at hlen ⊢
    rcases h.order (by omega) with hnone | ⟨k, hk, hfresh, hfirst, hlast, hsub⟩
    · rw [accepted, hlink]
      exact Or.inl hnone
    · -- What has been accepted lies before the new command.
      have htake : (s.sent ++ new).take (k + 1) = s.sent.take (k + 1) :=
        List.take_append_of_le_length hk
      rw [accepted, hlink]
      exact Or.inr ⟨k, by omega, hfresh, hfirst, hlast, by rwa [htake]⟩

/-! ## Sessions -/

/-- A new session is in order. -/
theorem inOrder_start {u₀ : UdpLink} (hnew : u₀.bridge.acceptedCommands = []) :
    InOrder u₀ (start u₀) :=
  ⟨numbered_start u₀, fun _ => Or.inl ⟨hnew, rfl, rfl⟩⟩

/-- What is accepted are sent commands from the first fresh number on, in order. -/
theorem InOrder.accepted_sublist {u₀ : UdpLink} {s : CommandLink} (h : InOrder u₀ s)
    (hlen : s.sent.length ≤ 0xFF01) : s.accepted.Sublist (s.sent.drop (firstFresh u₀.bridge)) := by
  rcases h.order hlen with ⟨hnone, -, -⟩ | ⟨k, -, -, -, -, hsub⟩
  · rw [hnone]
    exact List.nil_sublist _
  · exact hsub.trans ((List.take_sublist _ _).drop _)

/-- The address that the default number stands for. -/
def trusted : IPv4 := ⟨1, 0, 0, 127⟩

/-- The hub empties the queue, and a datagram with the frame of a command arrives. -/
def deliver (i : ℕ) (cmd : CommandPacket) : List LinkOp :=
  [LinkOp.commandPort (some (InputPort.create DEFAULT_QUEUE_DEPTH)),
    LinkOp.datagram ⟨trusted, (commandHeader i).bytes ++ cmd.bytes⟩]

/-- The state after some deliveries of sent commands. -/
structure Delivered (s : CommandLink) (sent : List CommandPacket) (cmds : List CommandPacket)
    (last : Option ℕ) : Prop where
  numbered : Numbered s
  sent_eq : s.sent = sent
  accepted_eq : s.accepted = cmds
  trusts : s.link.isTrustedUplinkSource trusted = true
  replay : match last with
    | none => s.link.bridge.first_uplink = true
    | some n => s.link.bridge.last_uplink_seq.toNat = n

/-- A sent command whose number passes the replay test is accepted when it is delivered. -/
theorem Delivered.deliver {s : CommandLink} {sent cmds : List CommandPacket} {last : Option ℕ}
    (h : Delivered s sent cmds last) {i : ℕ} {cmd : CommandPacket} (hi : sent[i]? = some cmd)
    (hpass : s.link.bridge.Passes (i % 65536)) :
    Along step Genuine s (deliver i cmd) ∧
      Delivered (run step s (deliver i cmd)) sent (cmds ++ [cmd]) (some (i % 65536)) := by
  set b : TelemetryBridge := { s.link.bridge with
    command_out := some (InputPort.create DEFAULT_QUEUE_DEPTH) } with hb
  set frame := (commandHeader i).bytes ++ cmd.bytes with hframe
  obtain ⟨hwf, hnumber⟩ := wellFormed_packed i cmd
  have hready : b.PortReady := ⟨_, rfl, by decide⟩
  have haccept : (b.processIncomingFrame frame).2 = true :=
    (b.processIncomingFrame_iff frame).mpr ⟨hwf, hnumber ▸ hpass, hready⟩
  obtain ⟨-, -, hlast⟩ := b.processIncomingFrame_accepted frame haccept
  have hlog := b.acceptedCommands_processIncomingFrame frame
  rw [haccept, if_pos rfl, CommandPacket.decode_bytes] at hlog
  have hdata : frame.take UdpLink.BUF_SIZE = frame := take_frame i cmd
  have hne : frame ≠ [] := by
    intro hnil
    have hlen := hwf.length_eq
    rw [← hframe, hnil] at hlen
    cases hlen
  have htrust : ({ s.link with bridge := b } : UdpLink).isTrustedUplinkSource trusted = true :=
    h.trusts
  have hreceive : ({ s.link with bridge := b } : UdpLink).receive ⟨trusted, frame⟩ =
      { s.link with bridge := (b.processIncomingFrame frame).1 } := by
    simp [UdpLink.receive, hdata, hne, htrust]
  have hrun : run step s (CommandLink.deliver i cmd) =
      { s with link := { s.link with bridge := (b.processIncomingFrame frame).1 } } := by
    show { s with link := ({ s.link with bridge := b } : UdpLink).receive ⟨trusted, frame⟩ } = _
    rw [hreceive]
  constructor
  · refine ⟨trivial, fun _ => ?_, trivial⟩
    -- The frame is on the wire at the place of its number.
    have hwire := h.numbered.wire_eq i
    rw [h.sent_eq, hi, Option.map_some] at hwire
    exact List.mem_of_getElem? hwire
  · rw [hrun]
    refine ⟨⟨h.numbered.counter, h.numbered.wire_eq⟩, h.sent_eq, ?_, h.trusts, ?_⟩
    · rw [← h.accepted_eq]
      exact hlog
    · exact hlast.trans hnumber

/-- The command with the given opcode. -/
def numberedCommand (i : ℕ) : CommandPacket := ⟨200, UInt32.ofNat i, Binary32.ofNat 0⟩

/-- The ground sends commands with the opcodes from zero on. -/
def sends (n : ℕ) : List LinkOp :=
  (List.range n).map fun i => LinkOp.send 200 i (Binary32.ofNat 0)

/-- What the ground has sent then, with everything else as at the start. -/
theorem run_sends (u : UdpLink) {n : ℕ} (hn : n ≤ 2^32) :
    Numbered (run step (start u) (sends n)) ∧
      (run step (start u) (sends n)).sent = (List.range n).map numberedCommand ∧
      (run step (start u) (sends n)).link = u ∧ Along step Genuine (start u) (sends n) := by
  induction n with
  | zero => exact ⟨numbered_start u, rfl, rfl, trivial⟩
  | succ n ih =>
    obtain ⟨hnumbered, hsent, hlink, halong⟩ := ih (by omega)
    have hops : sends (n + 1) = sends n ++ [LinkOp.send 200 n (Binary32.ofNat 0)] := by
      simp [sends, List.range_succ]
    have hstep := (run step (start u) (sends n)).step_send 200 (UInt32.ofNat n) (Binary32.ofNat 0)
    rw [UInt32.toNat_ofNat_of_lt' (show n < 2^32 by omega)] at hstep
    rw [hops, run_concat]
    refine ⟨(hnumbered.step _).1, ?_, ?_, (along_concat ..).mpr ⟨halong, trivial⟩⟩
    · rw [show (200 : ℕ) = (200 : UInt32).toNat from rfl, hstep, List.range_succ, List.map_append,
        ← hsent]
      rfl
    · rw [show (200 : ℕ) = (200 : UInt32).toNat from rfl, hstep]
      exact hlink

/-- Different numbers below `2^32` have different commands. -/
theorem nodup_numberedCommand {n : ℕ} (hn : n ≤ 2^32) :
    ((List.range n).map numberedCommand).Nodup := by
  refine List.Nodup.map_on (fun i hi j hj heq => ?_) List.nodup_range
  rw [List.mem_range] at hi hj
  have hopcode := congrArg (fun cmd => cmd.opcode.toNat) heq
  simp only [numberedCommand] at hopcode
  rwa [UInt32.toNat_ofNat_of_lt' (lt_of_lt_of_le hi hn),
    UInt32.toNat_ofNat_of_lt' (lt_of_lt_of_le hj hn)] at hopcode

/-- A session over every run, from every state of the bridge: the ground sends at most `0xFF01`
commands, the network and the other hosts do what they like, and the trusted address is not forged.
The commands that the bridge accepts are a subsequence of those sent, in the order of sending and
each at most once, and if the bridge has accepted the number `n` before, at most `0xFF00`, the first
`n + 1` commands of the session are not among them. -/
theorem session_in_order (u₀ : UdpLink) (hnew : u₀.bridge.acceptedCommands = [])
    (ops : List LinkOp) (hgenuine : Along step Genuine (start u₀) ops) :
    let s := run step (start u₀) ops
    s.sent.length ≤ 0xFF01 → s.accepted.Sublist (s.sent.drop
      (if u₀.bridge.first_uplink = false ∧ u₀.bridge.last_uplink_seq.toNat ≤ 0xFF00 then
        u₀.bridge.last_uplink_seq.toNat + 1 else 0)) := by
  intro s
  have hs : InOrder u₀ s :=
    run_invariant_along (fun _ _ h hop => h.step hop) (inOrder_start hnew) hgenuine
  exact hs.accepted_sublist

/-- At a bridge that has accepted the number 1 before, only the last of three commands can be
accepted. -/
theorem session_in_order_resumed :
    let u₀ := UdpLink.create { TelemetryBridge.listening with
      first_uplink := false, last_uplink_seq := 1 } LinkMode.UDP
    let s := run step (start u₀)
      (sends 3 ++ (deliver 2 (numberedCommand 2) ++ deliver 0 (numberedCommand 0)))
    s.accepted.Sublist (s.sent.drop 2) :=
  session_in_order (UdpLink.create { TelemetryBridge.listening with
      first_uplink := false, last_uplink_seq := 1 } LinkMode.UDP) rfl
    (sends 3 ++ (deliver 2 (numberedCommand 2) ++ deliver 0 (numberedCommand 0)))
    ⟨trivial, trivial, trivial, trivial, fun _ => by decide +kernel, trivial,
      fun _ => by decide +kernel, trivial⟩
    (by decide +kernel)

/-- When the numbers of a session go above `0xFF00`, the first command can be accepted again behind
one of them. -/
theorem exists_repeat {m : ℕ} (hhigh : 0xFF00 < m) (hlt : m < 65536) :
    ∃ ops, Along step Genuine (start (UdpLink.create TelemetryBridge.listening LinkMode.UDP)) ops ∧
      (run step (start (UdpLink.create TelemetryBridge.listening LinkMode.UDP)) ops).sent =
        (List.range (m + 1)).map numberedCommand ∧
      (run step (start (UdpLink.create TelemetryBridge.listening LinkMode.UDP)) ops).accepted =
        [numberedCommand 0, numberedCommand m, numberedCommand 0] := by
  generalize hu : UdpLink.create TelemetryBridge.listening LinkMode.UDP = u₀
  obtain ⟨hnumbered, hsent, hlink, halong⟩ := run_sends u₀ (show m + 1 ≤ 2^32 by omega)
  generalize hlist : (List.range (m + 1)).map numberedCommand = sent at hsent
  have hget {i : ℕ} (hi : i < m + 1) : sent[i]? = some (numberedCommand i) := by
    rw [← hlist, List.getElem?_map, List.getElem?_range hi]
    rfl
  have h0 : Delivered (run step (start u₀) (sends (m + 1))) sent [] none := by
    refine ⟨hnumbered, hsent, ?_, ?_, ?_⟩
    · rw [accepted, hlink, ← hu]
      rfl
    · rw [hlink, ← hu]
      decide
    · rw [hlink, ← hu]
      rfl
  -- The first command, one with a high number, and the first one again.
  obtain ⟨halong1, h1⟩ := h0.deliver (hget (i := 0) (by omega)) (Or.inl h0.replay)
  obtain ⟨halong2, h2⟩ := h1.deliver (hget (i := m) (by omega)) (Or.inr (Or.inl (by
    rw [h1.replay]
    omega)))
  obtain ⟨halong3, h3⟩ := h2.deliver (hget (i := 0) (by omega)) (Or.inr (Or.inr ⟨by
    rw [h2.replay]
    omega, by omega⟩))
  refine ⟨sends (m + 1) ++ deliver 0 (numberedCommand 0) ++ deliver m (numberedCommand m) ++
    deliver 0 (numberedCommand 0), ?_, ?_, ?_⟩
  · simp only [along_append, run_append]
    exact ⟨⟨⟨halong, halong1⟩, halong2⟩, halong3⟩
  · simp only [run_append]
    exact h3.sent_eq
  · simp only [run_append]
    exact h3.accepted_eq

/-- How long a session keeps its commands in order. Over every run from every state of the bridge,
the accepted commands are a subsequence of the sent ones if at most `n` commands are sent, exactly
when `n` is at most `0xFF01`: the command with the number `0xFF01` opens the wrap, and the frame of
the first command is accepted a second time behind it. -/
theorem session_limit_iff (n : ℕ) :
    (∀ u₀ ops, u₀.bridge.acceptedCommands = [] → Along step Genuine (start u₀) ops →
      (run step (start u₀) ops).sent.length ≤ n →
      (run step (start u₀) ops).accepted.Sublist (run step (start u₀) ops).sent) ↔ n ≤ 0xFF01 := by
  constructor
  · intro h
    by_contra hlarge
    obtain ⟨m, hm⟩ : ∃ m, m = 0xFF01 := ⟨_, rfl⟩
    obtain ⟨ops, hgenuine, hsent, haccepted⟩ := exists_repeat (m := m) (by omega) (by omega)
    have hsub := h _ ops rfl hgenuine (by
      rw [hsent, List.length_map, List.length_range]
      omega)
    rw [hsent, haccepted] at hsub
    -- The sent commands are all different.
    have hnodup := (nodup_numberedCommand (show m + 1 ≤ 2^32 by omega)).sublist hsub
    simp at hnodup
  · intro hn u₀ ops hnew hgenuine hlen
    exact (session_in_order u₀ hnew ops hgenuine (hlen.trans hn)).trans (List.drop_sublist _ _)

end CommandLink

end DeltaV
