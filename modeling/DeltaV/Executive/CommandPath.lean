import DeltaV.Bridge.Session
import DeltaV.CommandHub.Contract

/-!
# The way of a command

A command of the ground passes the network, the bridge, the queue of the hub, the gate of the hub,
and the port of the component it is for. It can be lost at each of these places: the network drops
the datagram, the bridge takes its number for a repeated one, a queue is full, or the mission state
forbids it. What holds behind all of them is that a component executes the commands of the ground in
the order of sending, each at most once (`commands_in_order`). The producers of a queue push one
after the other here; what happens when two of them push at the same time is in `CommandInput`.
-/

namespace DeltaV

/-- The ground, the bridge, the command hub, and one component behind it. -/
structure CommandPath (C Out In EventOut EventIn : Type*) where
  link : CommandLink
  commands : HubSystem Out In EventOut EventIn
  /-- `cmd_in` of the component. -/
  cmd_in : In
  comp : C
  /-- The commands that the component has executed, in order. -/
  handled : List CommandPacket

/-- What can happen next. -/
inductive PathOp (H W Out In EventOut EventIn : Type*) where
  /-- The ground sends a command. -/
  | send (target_id opcode : ℕ) (argument : Binary32)
  /-- The bridge takes a datagram from its socket. -/
  | datagram (client : Datagram)
  /-- The replay file or its conditions change. -/
  | replayFile (replay_file : ReplayFile)
  /-- A step of the hub, or what others do at the ports. -/
  | command (op : HubOp Out In EventOut EventIn)
  /-- The component takes a command from its port and executes it. -/
  | handleCommand (host : H)
  /-- The component does something else. -/
  | work (op : W)

namespace HubSystem

variable {Out In EventOut EventIn : Type*} [DecidableEq In] [DecidableEq EventIn]

/-- The hub with another queue at its input; nothing changes if there is none. -/
def refill (s : HubSystem Out In EventOut EventIn)
    (port : Option (InputPort CommandPacket DEFAULT_QUEUE_DEPTH)) :
    HubSystem Out In EventOut EventIn :=
  match port with
  | none => s
  | some port =>
    { s with commands :=
        { s.commands with input := Function.update s.commands.input s.cmd_input port } }

/-- A dispatch leaves the connections of the ports as they are. -/
theorem connected_consume (s : HubSystem Out In EventOut EventIn) (state_raw : UInt8) :
    (s.consume state_raw).commands.connected = s.commands.connected := by
  have hack (s : HubSystem Out In EventOut EventIn) (sev : UInt32) (msg : Text) :
      (s.sendAck sev msg).commands.connected = s.commands.connected :=
    congrArg Bus.connected (s.sendAck_framed sev msg).2
  have hsend (s : HubSystem Out In EventOut EventIn) (port : Out) (cmd : CommandPacket) :
      (s.sendCommand port cmd).1.commands.connected = s.commands.connected :=
    s.commands.connected_send port cmd
  have hdispatch (s : HubSystem Out In EventOut EventIn) (cmd : CommandPacket) :
      (s.dispatchCommand cmd state_raw).commands.connected = s.commands.connected := by
    unfold dispatchCommand
    split_ifs
    · exact hack s _ _
    · split
      · dsimp only
        split_ifs
        · exact (hack _ _ _).trans (hsend s _ cmd)
        · exact (hack _ _ _).trans (hsend s _ cmd)
      · exact hack s _ _
  unfold consume
  split
  · rfl
  · rename_i cmd b hb
    exact (hdispatch _ cmd).trans (Bus.tryConsume_eq_some hb).2.2

end HubSystem

/-- What a datagram adds to the accepted commands, it adds to the queue at the command port. -/
theorem UdpLink.receive_adds (u : UdpLink) (client : Datagram) :
    ∃ new, (u.receive client).bridge.commandQueue = u.bridge.commandQueue ++ new ∧
      (u.receive client).bridge.acceptedCommands = u.bridge.acceptedCommands ++ new := by
  unfold receive
  dsimp only
  split_ifs
  · exact ⟨[], (List.append_nil _).symm, (List.append_nil _).symm⟩
  · exact ⟨[], (List.append_nil _).symm, (List.append_nil _).symm⟩
  · set data := client.data.take BUF_SIZE
    have hlog := u.bridge.acceptedCommands_processIncomingFrame data
    cases haccept : (u.bridge.processIncomingFrame data).2 with
    | false =>
      rw [haccept, if_neg Bool.false_ne_true] at hlog
      refine ⟨[], ?_, hlog⟩
      rw [List.append_nil]
      exact (u.bridge.processIncomingFrame_rejected data haccept).1
    | true =>
      rw [haccept, if_pos rfl] at hlog
      exact ⟨_, (u.bridge.processIncomingFrame_accepted data haccept).1, hlog⟩

namespace CommandPath

variable {C H W Out In EventOut EventIn : Type*} [DecidableEq In] [DecidableEq EventIn]

/-- The commands that wait at the hub. -/
def arrived (s : CommandPath C Out In EventOut EventIn) : List CommandPacket :=
  s.commands.commands.pending s.commands.cmd_input

/-- The commands that wait at the component. -/
def waiting (s : CommandPath C Out In EventOut EventIn) : List CommandPacket :=
  s.commands.commands.pending s.cmd_in

/-- The link with the input of the hub behind its command port. -/
def connected (s : CommandPath C Out In EventOut EventIn) : CommandLink :=
  s.link.step (LinkOp.commandPort (some (s.commands.commands.input s.commands.cmd_input)))

variable [DecidableEq Out] [DecidableEq EventOut]

/-- The next state; `execute` is what a command does to the component, and `work` what else it
does. A push to a queue and a pop from it are one step each: the producers of a queue push one after
the other. -/
def step (execute : C → CommandPacket → H → C) (work : C → W → C)
    (s : CommandPath C Out In EventOut EventIn) :
    PathOp H W Out In EventOut EventIn → CommandPath C Out In EventOut EventIn
  | PathOp.send target_id opcode argument =>
    { s with link := s.link.step (LinkOp.send target_id opcode argument) }
  | PathOp.datagram client =>
    -- The bridge pushes what it accepts to the input of the hub itself.
    let link := s.connected.step (LinkOp.datagram client)
    { s with link := link, commands := s.commands.refill link.link.bridge.command_out }
  | PathOp.replayFile replay_file =>
    { s with link := s.link.step (LinkOp.replayFile replay_file) }
  | PathOp.command op => { s with commands := s.commands.step op }
  | PathOp.handleCommand host =>
    -- One round of the loop in `step()` of the component.
    match s.waiting with
    | [] => s
    | cmd :: _ =>
      { s with
        commands := s.commands.step (HubOp.take s.cmd_in)
        comp := execute s.comp cmd host
        handled := s.handled ++ [cmd] }
  | PathOp.work op => { s with comp := work s.comp op }

/-- The operation is one of a flight: the trusted address is not forged, the ports stay connected as
they are, and no one but the ground has commands for the component with the given id. -/
def Undisturbed (id : UInt32) (s : CommandPath C Out In EventOut EventIn) :
    PathOp H W Out In EventOut EventIn → Prop
  | PathOp.datagram client => s.link.Genuine (LinkOp.datagram client)
  | PathOp.command (HubOp.registerRoute _ _) => False
  | PathOp.command (HubOp.connect _ _) => False
  | PathOp.command (HubOp.deliver i cmd) =>
    i ≠ s.cmd_in ∧ (i = s.commands.cmd_input → cmd.target_id ≠ id)
  | PathOp.command (HubOp.take i) => i ≠ s.cmd_in
  | _ => True

/-- What the ground has sent to the component with the given id, from a number on. -/
def sentTo (s : CommandPath C Out In EventOut EventIn) (first : ℕ) (id : UInt32) :
    List CommandPacket :=
  (s.link.sent.drop first).filter fun cmd => cmd.target_id = id

/-! ## The ports -/

/-- The hub asks for the mission state, only the route of the component with the given id leads to
its port, and no route leads back to the hub. -/
structure Routed (id : UInt32) (s : CommandPath C Out In EventOut EventIn) : Prop where
  gated : s.commands.hub.watchdog = true
  cmd_in_ne : s.cmd_in ≠ s.commands.cmd_input
  route : ∀ target port, s.commands.hub.routes.lookup target = some port →
    s.commands.commands.connected port ≠ some s.commands.cmd_input ∧
      (s.commands.commands.connected port = some s.cmd_in → target = id)

/-- What is on its way is what the bridge has accepted for the component, in order and with what has
been lost behind the bridge left out. -/
structure InTransit (u₀ : UdpLink) (id : UInt32) (s : CommandPath C Out In EventOut EventIn) :
    Prop where
  routed : s.Routed id
  inOrder : CommandLink.InOrder u₀ s.link
  transit : (s.handled ++ s.waiting ++ s.arrived.filter fun cmd => cmd.target_id = id).Sublist
    (s.link.accepted.filter fun cmd => cmd.target_id = id)

omit [DecidableEq In] [DecidableEq EventIn] [DecidableEq Out] [DecidableEq EventOut] in
/-- What happens elsewhere keeps the routes. -/
theorem Routed.congr {s s' : CommandPath C Out In EventOut EventIn} {id : UInt32} (h : s.Routed id)
    (hcommands : s'.commands = s.commands) (hport : s'.cmd_in = s.cmd_in) : s'.Routed id := by
  refine ⟨?_, ?_, ?_⟩ <;> rw [hcommands]
  · exact h.gated
  · rw [hport]
    exact h.cmd_in_ne
  · rw [hport]
    exact h.route

omit [DecidableEq Out] [DecidableEq EventOut] in
/-- A pass of the hub moves at most the first command, and to the port only one for the
component. -/
theorem Routed.consume_moves {s : CommandPath C Out In EventOut EventIn} {id : UInt32}
    (h : s.Routed id) (state_raw : UInt8) {cmd : CommandPacket} {rest : List CommandPacket}
    (hcmd : s.arrived = cmd :: rest) :
    (s.commands.consume state_raw).commands.pending s.commands.cmd_input = rest ∧
      ∃ moved, (s.commands.consume state_raw).commands.pending s.cmd_in = s.waiting ++ moved ∧
        (moved = [] ∨ moved = [cmd] ∧ cmd.target_id = id) := by
  obtain ⟨offer, outcome, sent, hd⟩ := s.commands.dispatched_consume h.gated state_raw hcmd
  have hinput := hd.pending_eq s.commands.cmd_input
  have hport := hd.pending_eq s.cmd_in
  rw [if_pos rfl, show s.commands.commands.pending s.commands.cmd_input = cmd :: rest from hcmd,
    List.tail_cons] at hinput
  rw [if_neg h.cmd_in_ne] at hport
  rcases offer with _ | offer
  · exact ⟨hinput.trans (List.append_nil _), [], hport, Or.inl rfl⟩
  -- What is offered goes to the port of the route.
  obtain ⟨port, hroute, hdest⟩ : ∃ port, s.commands.hub.routes.lookup cmd.target_id = some port ∧
      offer.dest = s.commands.commands.connected port := by
    cases hallowed : MissionFsm.isAllowed state_raw (s.commands.hub.classifyCommand cmd) with
    | false => cases (hd.gated.blocked hallowed).1
    | true =>
      cases hroute : s.commands.hub.routes.lookup cmd.target_id with
      | none => cases (hd.gated.notFound hallowed hroute).1
      | some port =>
        obtain ⟨accepted, hoffer, -⟩ := hd.gated.offered hallowed port hroute
        exact ⟨port, rfl, by rw [Option.some.inj hoffer]⟩
  obtain ⟨hback, honly⟩ := h.route _ _ hroute
  have hadded (i : In) : (some offer).toList.flatMap (fun o => o.added cmd i) = offer.added cmd i :=
    List.flatMap_singleton _ _
  rw [hadded, Offer.added, hdest] at hinput hport
  rw [if_neg fun hto => hback hto.1, List.append_nil] at hinput
  refine ⟨hinput, _, hport, ?_⟩
  split_ifs with hto
  · exact Or.inr ⟨rfl, honly hto.1⟩
  · exact Or.inl rfl

/-- A step of the hub or at the ports keeps the routes, and loses some of what is on its way at
most. -/
theorem Routed.command {s : CommandPath C Out In EventOut EventIn} {id : UInt32} (h : s.Routed id)
    {op : HubOp Out In EventOut EventIn}
    (hop : s.Undisturbed id (PathOp.command op : PathOp H W Out In EventOut EventIn)) :
    let s' := { s with commands := s.commands.step op }
    s'.Routed id ∧ (s'.waiting ++ s'.arrived.filter fun cmd => cmd.target_id = id).Sublist
      (s.waiting ++ s.arrived.filter fun cmd => cmd.target_id = id) := by
  intro s'
  -- Most steps keep the routes and connections, and leave both queues as they are.
  have hrouted (hgated : s'.commands.hub.watchdog = s.commands.hub.watchdog)
      (hinput : s'.commands.cmd_input = s.commands.cmd_input)
      (hroutes : s'.commands.hub.routes = s.commands.hub.routes)
      (hconn : s'.commands.commands.connected = s.commands.commands.connected) : s'.Routed id := by
    refine ⟨hgated.trans h.gated, ?_, fun target port hport => ?_⟩
    · rw [hinput]
      exact h.cmd_in_ne
    · rw [hconn, hinput]
      rw [hroutes] at hport
      exact h.route target port hport
  have hsame (hport : s'.waiting = s.waiting) (hinput : s'.arrived = s.arrived) :
      (s'.waiting ++ s'.arrived.filter fun cmd => cmd.target_id = id).Sublist
        (s.waiting ++ s.arrived.filter fun cmd => cmd.target_id = id) := by
    rw [hport, hinput]
  cases op with
  | registerRoute | connect => exact hop.elim
  | registerCommandPolicy target_id opcode op_class =>
    obtain ⟨hroutes, hwatchdog, -⟩ :=
      s.commands.hub.registerCommandPolicy_frame target_id opcode op_class
    exact ⟨hrouted hwatchdog rfl hroutes rfl, hsame rfl rfl⟩
  | connectEvent | deliverEvent => exact ⟨hrouted rfl rfl rfl rfl, hsame rfl rfl⟩
  | takeEvent i =>
    have hcommands : s'.commands.hub = s.commands.hub ∧
        s'.commands.cmd_input = s.commands.cmd_input ∧
        s'.commands.commands = s.commands.commands := by
      simp only [s', HubSystem.step]
      split <;> exact ⟨rfl, rfl, rfl⟩
    obtain ⟨hhub, hinput, hports⟩ := hcommands
    refine ⟨hrouted (by rw [hhub]) hinput (by rw [hhub]) (by rw [hports]), hsame ?_ ?_⟩
    · unfold waiting
      rw [hports]
    · unfold arrived
      rw [hports, hinput]
  | consume state_raw =>
    rcases hpending : s.arrived with _ | ⟨cmd, rest⟩
    · have hnone : s.commands.step (HubOp.consume state_raw) = s.commands :=
        s.commands.consume_empty state_raw hpending
      have hs' : s' = s := by simp only [s', hnone]
      rw [hs', hpending]
      exact ⟨h, List.Sublist.refl _⟩
    · obtain ⟨offer, outcome, sent, hd⟩ :=
        s.commands.dispatched_consume h.gated state_raw hpending
      obtain ⟨hinput, moved, hport, hmoved⟩ := h.consume_moves state_raw hpending
      refine ⟨hrouted hd.framed.watchdog_eq hd.framed.cmd_input_eq hd.framed.routes_eq
        (s.commands.connected_consume state_raw), ?_⟩
      have harrived : s'.arrived = rest := by
        unfold arrived
        rw [show s'.commands.cmd_input = s.commands.cmd_input from hd.framed.cmd_input_eq]
        exact hinput
      rw [show s'.waiting = s.waiting ++ moved from hport, harrived, List.append_assoc]
      refine (List.Sublist.refl _).append ?_
      rcases hmoved with rfl | ⟨rfl, htarget⟩
      · exact (List.sublist_cons_self cmd rest).filter _
      · rw [List.filter_cons_of_pos (by simpa using htarget)]
        exact List.Sublist.refl _
  | deliver i cmd =>
    obtain ⟨hport, hforeign⟩ := hop
    refine ⟨hrouted rfl rfl rfl rfl, ?_⟩
    have hqueue (j : In) := s.commands.commands.pending_receive i j cmd
    have hwaiting : s'.waiting = s.waiting := by
      refine (hqueue s.cmd_in).trans ?_
      rw [if_neg fun heq => hport heq.1.symm, List.append_nil]
      rfl
    rw [hwaiting, show s'.arrived = _ from hqueue s.commands.cmd_input, List.filter_append]
    -- What others send is not for the component.
    split_ifs with heq
    · rw [List.filter_cons_of_neg (by simpa using hforeign heq.1.symm), List.filter_nil,
        List.append_nil]
      exact List.Sublist.refl _
    · rw [List.filter_nil, List.append_nil]
      exact List.Sublist.refl _
  | take i =>
    have hport : i ≠ s.cmd_in := hop
    simp only [s', HubSystem.step]
    split_ifs with hi
    · exact ⟨h, List.Sublist.refl _⟩
    · split
      · exact ⟨h, List.Sublist.refl _⟩
      · rename_i cmd b hb
        obtain ⟨-, hother, hconn⟩ := Bus.tryConsume_eq_some hb
        refine ⟨⟨h.gated, h.cmd_in_ne, fun target port hroute => ?_⟩, ?_⟩
        · show b.connected port ≠ _ ∧ (b.connected port = _ → _)
          rw [hconn]
          exact h.route target port hroute
        · show (b.pending s.cmd_in ++ (b.pending s.commands.cmd_input).filter _).Sublist _
          rw [hother s.cmd_in hport.symm, hother s.commands.cmd_input (Ne.symm hi)]
          exact List.Sublist.refl _

/-- A datagram adds what the bridge accepts to the queue of the hub. -/
theorem datagram_adds (execute : C → CommandPacket → H → C) (work : C → W → C)
    (s : CommandPath C Out In EventOut EventIn) (hne : s.cmd_in ≠ s.commands.cmd_input)
    (client : Datagram) :
    let s' := s.step execute work (PathOp.datagram client)
    ∃ new, s'.arrived = s.arrived ++ new ∧ s'.link.accepted = s.link.accepted ++ new ∧
      s'.waiting = s.waiting := by
  intro s'
  obtain ⟨new, hqueue, haccepted⟩ := s.connected.link.receive_adds client
  have hcommands : s'.commands =
      s.commands.refill (s.connected.link.receive client).bridge.command_out := rfl
  unfold TelemetryBridge.commandQueue at hqueue
  refine ⟨new, ?_, haccepted, ?_⟩
  · unfold arrived
    rw [hcommands]
    cases hport : (s.connected.link.receive client).bridge.command_out with
    | none =>
      rw [hport] at hqueue
      exact hqueue ▸ (List.append_eq_nil_iff.mp hqueue.symm).1
    | some port =>
      rw [hport] at hqueue
      show (Function.update s.commands.commands.input s.commands.cmd_input port
        s.commands.cmd_input).pending = _
      rw [Function.update_self]
      exact hqueue
  · unfold waiting
    rw [hcommands]
    cases (s.connected.link.receive client).bridge.command_out with
    | none => rfl
    | some port =>
      show (Function.update s.commands.commands.input s.commands.cmd_input port
        s.cmd_in).pending = _
      rw [Function.update_of_ne hne]
      rfl

/-- Every operation of a flight keeps the order. -/
theorem InTransit.step {u₀ : UdpLink} {id : UInt32} {s : CommandPath C Out In EventOut EventIn}
    (h : s.InTransit u₀ id) (execute : C → CommandPacket → H → C) (work : C → W → C)
    {op : PathOp H W Out In EventOut EventIn} (hop : s.Undisturbed id op) :
    (s.step execute work op).InTransit u₀ id := by
  cases op with
  | send target_id opcode argument =>
    have hsend : s.link.Genuine (LinkOp.send target_id opcode argument) := trivial
    have hlink : (s.link.step (LinkOp.send target_id opcode argument)).link = s.link.link := by
      simp only [CommandLink.step]
      split <;> rfl
    -- What is sent is not accepted yet.
    refine ⟨h.routed.congr rfl rfl, h.inOrder.step hsend, ?_⟩
    show List.Sublist _ ((s.link.step _).link.bridge.acceptedCommands.filter _)
    rw [hlink]
    exact h.transit
  | replayFile replay_file =>
    have hreplay : s.link.Genuine (LinkOp.replayFile replay_file) := trivial
    exact ⟨h.routed.congr rfl rfl, h.inOrder.step hreplay, h.transit⟩
  | work op => exact ⟨h.routed.congr rfl rfl, h.inOrder, h.transit⟩
  | command op =>
    obtain ⟨hrouted, hsub⟩ := h.routed.command hop
    refine ⟨hrouted, h.inOrder, List.Sublist.trans ?_ h.transit⟩
    rw [List.append_assoc, List.append_assoc]
    exact (List.Sublist.refl _).append hsub
  | datagram client =>
    have hport : s.link.Genuine
      (LinkOp.commandPort (some (s.commands.commands.input s.commands.cmd_input))) := trivial
    have hconnected : CommandLink.InOrder u₀ s.connected := h.inOrder.step hport
    obtain ⟨new, harrived, haccepted, hwaiting⟩ :=
      datagram_adds execute work s h.routed.cmd_in_ne client
    have hgenuine : s.connected.Genuine (LinkOp.datagram client) := hop
    refine ⟨?_, hconnected.step hgenuine, ?_⟩
    · have hrefill (port : Option (InputPort CommandPacket DEFAULT_QUEUE_DEPTH)) :
          CommandPath.Routed id { s with commands := s.commands.refill port } := by
        cases port with
        | none => exact h.routed
        | some port => exact ⟨h.routed.gated, h.routed.cmd_in_ne, h.routed.route⟩
      exact (hrefill (s.connected.step (LinkOp.datagram client)).link.bridge.command_out).congr
        rfl rfl
    · -- The accepted commands go to the end of the queue.
      rw [harrived, haccepted, hwaiting, List.filter_append, List.filter_append,
        ← List.append_assoc]
      exact h.transit.append (List.Sublist.refl _)
  | handleCommand host =>
    simp only [CommandPath.step]
    split
    · exact h
    · rename_i cmd rest hwaiting
      obtain ⟨hhub, hinput, hconn, hport, hother⟩ :=
        s.commands.take_spec h.routed.cmd_in_ne hwaiting
      refine ⟨⟨?_, ?_, fun target port hroute => ?_⟩, h.inOrder, ?_⟩
      · exact (congrArg CommandHub.watchdog hhub).trans h.routed.gated
      · exact fun heq => h.routed.cmd_in_ne (heq.trans hinput)
      · simp only [hhub, hconn, hinput] at hroute ⊢
        exact h.routed.route target port hroute
      · -- The command moves from the port to what has been executed.
        have hsub := h.transit
        rw [hwaiting, List.append_cons] at hsub
        simp only [waiting, arrived, hinput, hport, hother _ h.routed.cmd_in_ne.symm]
        exact hsub

/-- The commands on their way over every flight. -/
theorem inTransit_run {u₀ : UdpLink} {id : UInt32} {s : CommandPath C Out In EventOut EventIn}
    (h : s.InTransit u₀ id) (execute : C → CommandPacket → H → C) (work : C → W → C)
    {ops : List (PathOp H W Out In EventOut EventIn)}
    (hops : Along (CommandPath.step execute work) (Undisturbed id) s ops) :
    (run (CommandPath.step execute work) s ops).InTransit u₀ id :=
  run_invariant_along (fun _ _ hs hop => hs.step execute work hop) h hops

/-- What the executed commands say about the component, they say over every flight. -/
theorem comp_run (execute : C → CommandPacket → H → C) (work : C → W → C)
    (P : C → List CommandPacket → Prop)
    (hexecute : ∀ c cmds cmd host, P c cmds → P (execute c cmd host) (cmds ++ [cmd]))
    (hwork : ∀ c cmds op, P c cmds → P (work c op) cmds)
    {s : CommandPath C Out In EventOut EventIn} (hs : P s.comp s.handled)
    (ops : List (PathOp H W Out In EventOut EventIn)) :
    P (run (CommandPath.step execute work) s ops).comp
      (run (CommandPath.step execute work) s ops).handled := by
  have hstep (s : CommandPath C Out In EventOut EventIn)
      (op : PathOp H W Out In EventOut EventIn) (hs : P s.comp s.handled) :
      P (s.step execute work op).comp (s.step execute work op).handled := by
    cases op with
    | send | datagram | replayFile | command => exact hs
    | work op => exact hwork _ _ op hs
    | handleCommand host =>
      simp only [CommandPath.step]
      split
      · exact hs
      · exact hexecute _ _ _ host hs
  exact run_invariant hstep hs ops

/-- A new session of the ground, with nothing on its way and nothing executed. -/
structure Fresh (id : UInt32) (s : CommandPath C Out In EventOut EventIn) : Prop where
  routed : s.Routed id
  session : s.link = CommandLink.start s.link.link
  accepted_eq : s.link.accepted = []
  arrived_eq : s.arrived = []
  waiting_eq : s.waiting = []
  handled_eq : s.handled = []

omit [DecidableEq In] [DecidableEq EventIn] [DecidableEq Out] [DecidableEq EventOut] in
/-- A new session is in order. -/
theorem Fresh.inTransit {id : UInt32} {s : CommandPath C Out In EventOut EventIn}
    (h : s.Fresh id) : s.InTransit s.link.link id := by
  refine ⟨h.routed, ?_, ?_⟩
  · rw [h.session]
    exact CommandLink.inOrder_start h.accepted_eq
  · rw [h.handled_eq, h.waiting_eq, h.arrived_eq]
    exact List.nil_sublist _

omit [DecidableEq In] [DecidableEq EventIn] [DecidableEq Out] [DecidableEq EventOut] in
/-- What has been executed or waits at the component has been sent to it. -/
theorem InTransit.sublist {u₀ : UdpLink} {id : UInt32} {s : CommandPath C Out In EventOut EventIn}
    (h : s.InTransit u₀ id) (hlen : s.link.sent.length ≤ 0xFF01) :
    (s.handled ++ s.waiting).Sublist (s.sentTo (CommandLink.firstFresh u₀.bridge) id) :=
  ((List.sublist_append_left ..).trans h.transit).trans
    ((h.inOrder.accepted_sublist hlen).filter _)

/-- What a component has executed after a flight has been sent to it. -/
theorem handled_run (execute : C → CommandPacket → H → C) (work : C → W → C)
    {s₀ : CommandPath C Out In EventOut EventIn} {id : UInt32} (hfresh : s₀.Fresh id)
    {ops : List (PathOp H W Out In EventOut EventIn)}
    (hops : Along (CommandPath.step execute work) (Undisturbed id) s₀ ops)
    (hlen : (run (CommandPath.step execute work) s₀ ops).link.sent.length ≤ 0xFF01) :
    (run (CommandPath.step execute work) s₀ ops).handled.Sublist
      ((run (CommandPath.step execute work) s₀ ops).sentTo
        (CommandLink.firstFresh s₀.link.link.bridge) id) :=
  (List.sublist_append_left ..).trans
    ((inTransit_run hfresh.inTransit execute work hops).sublist hlen)

omit [DecidableEq In] [DecidableEq EventIn] [DecidableEq Out] [DecidableEq EventOut] in
/-- What has been sent from a number on has been sent. -/
theorem sentTo_sublist (s : CommandPath C Out In EventOut EventIn) (first : ℕ) (id : UInt32) :
    (s.sentTo first id).Sublist (s.sentTo 0 id) := (List.drop_sublist first _).filter _

/-- Over every flight of the whole way, from every state of the bridge and with at most `0xFF01`
commands of the session, as long as the producers of a queue push one after the other: the commands
that a component has executed, followed by those at its port, are commands that the ground has sent
to it, in the order of sending and each at most once. -/
theorem commands_in_order (execute : C → CommandPacket → H → C) (work : C → W → C)
    (s₀ : CommandPath C Out In EventOut EventIn) (id : UInt32) (hfresh : s₀.Fresh id)
    (ops : List (PathOp H W Out In EventOut EventIn))
    (hops : Along (CommandPath.step execute work) (Undisturbed id) s₀ ops) :
    let s := run (CommandPath.step execute work) s₀ ops
    s.link.sent.length ≤ 0xFF01 → (s.handled ++ s.waiting).Sublist
      (s.sentTo (CommandLink.firstFresh s₀.link.link.bridge) id) := by
  intro s
  have h : s.InTransit s₀.link.link id := inTransit_run hfresh.inTransit execute work hops
  exact h.sublist

/-- A bridge that listens, and a hub with one route, to the component with the given id. -/
def single {C : Type*} (comp : C) (id : UInt32) : CommandPath C Unit Bool Unit Unit where
  link := CommandLink.start (UdpLink.create TelemetryBridge.listening LinkMode.UDP)
  commands :=
    { (HubSystem.create (Component.create (ascii "CmdHub") 11) false () :
        HubSystem Unit Bool Unit Unit) with
      hub := ((CommandHub.create (Component.create (ascii "CmdHub") 11)).setMissionStateSource
        true).registerRoute id (some ())
      commands := (Bus.create Unit Bool).connect () true }
  cmd_in := true
  comp := comp
  handled := []

/-- With one route, to the component, everything is at its start. -/
theorem fresh_single {C : Type*} (comp : C) (id : UInt32) : (single comp id).Fresh id := by
  have hroom : 0 < MAX_COMMAND_ROUTES := by decide
  have hback : some true ≠ some false := by decide
  refine ⟨⟨rfl, Bool.noConfusion, fun target port hroute => ⟨hback, fun _ => ?_⟩⟩, rfl, rfl, rfl,
    rfl, rfl⟩
  simp [single, CommandHub.registerRoute, CommandHub.create, CommandHub.setMissionStateSource,
    FirstWins.keys, FirstWins.empty, FirstWins.push, FirstWins.lookup, hroom] at hroute
  exact hroute.symm

/-- The bridge gets the frame of a command, the hub takes it in `NOMINAL`, and the component
executes it. -/
def passOn {H W : Type*} (i : ℕ) (cmd : CommandPacket) (host : H) :
    List (PathOp H W Unit Bool Unit Unit) :=
  [PathOp.datagram ⟨CommandLink.trusted, (commandHeader i).bytes ++ cmd.bytes⟩,
    PathOp.command (HubOp.consume 1), PathOp.handleCommand host]

/-- Two commands are sent, and the second one arrives twice. -/
def repeated : List (PathOp Unit Unit Unit Bool Unit Unit) :=
  [PathOp.send 41 1 (Binary32.ofNat 2), PathOp.send 41 2 (Binary32.ofNat 7)] ++
    passOn 1 ⟨41, 2, Binary32.ofNat 7⟩ () ++ passOn 1 ⟨41, 2, Binary32.ofNat 7⟩ ()

/-- What is executed has been sent, and each command once. -/
theorem commands_in_order_repeated :
    let s := run (CommandPath.step (fun c _ _ => c) (fun c _ => c)) (single () 41) repeated
    (s.handled ++ s.waiting).Sublist (s.sentTo 0 41) :=
  commands_in_order (fun c _ _ => c) (fun c _ => c) (single () 41) 41 (fresh_single () 41) repeated
    ⟨trivial, trivial, fun _ => by decide +kernel, trivial, trivial, fun _ => by decide +kernel,
      trivial, trivial, trivial⟩ (by decide +kernel)

end CommandPath

end DeltaV
