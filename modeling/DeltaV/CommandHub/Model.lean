import DeltaV.Component
import DeltaV.MissionFsm
import DeltaV.Port
import DeltaV.Lib.FirstWins
import DeltaV.Lib.Runs

/-!
# The command hub

`CommandHub` holds the two registration tables, and `HubSystem` places it among the ports it uses.
The packets that the hub takes and sends are written to a log. A call of `step()` is a series of
passes `HubOp.consume`, each with the mission state that the pass reads, up to the pass that finds
the input empty. Between any two passes, and around them, the rest of the system may connect ports,
queue packets in any input port, and take packets from any port but the hub's own input.
-/

namespace DeltaV

/-- The most routes a hub can hold. -/
def MAX_COMMAND_ROUTES : ℕ := 32

/-- The most command policies a hub can hold. -/
def MAX_COMMAND_POLICIES : ℕ := 256

/-- The command router. -/
structure CommandHub (Out : Type*) where
  base : Component
  /-- The output port registered for each target. -/
  routes : FirstWins UInt32 Out MAX_COMMAND_ROUTES
  /-- The class registered for each target and opcode. -/
  command_policies : FirstWins (UInt32 × UInt32) OpClass MAX_COMMAND_POLICIES
  /-- Whether a watchdog is there to read the mission state from. -/
  watchdog : Bool

namespace CommandHub

variable {Out : Type*}

/-- A hub with empty tables. -/
def create (base : Component) : CommandHub Out :=
  { base := base
    routes := FirstWins.empty _ _ _
    command_policies := FirstWins.empty _ _ _
    watchdog := false }

/-- Sets the source of the mission state. -/
def setMissionStateSource (hub : CommandHub Out) (nonnull : Bool) : CommandHub Out :=
  { hub with watchdog := nonnull }

/-- Counts one error. -/
def recordError (hub : CommandHub Out) : CommandHub Out := { hub with base := hub.base.recordError }

/-- Registers the port for a target, unless the port is null, the target has a port, or the table
is full. -/
def registerRoute (hub : CommandHub Out) (comp_id : UInt32) (port : Option Out) : CommandHub Out :=
  match port with
  | none => hub.recordError
  | some p =>
    if hold : comp_id ∈ hub.routes.keys then hub.recordError
    else if hroom : hub.routes.entries.length < MAX_COMMAND_ROUTES then
      { hub with routes := hub.routes.push comp_id p hold hroom }
    else hub.recordError

/-- Registers the class of an opcode at a target, unless the target is zero, the pair has a class,
or the table is full. Repeating a registration with the same class is no error. -/
def registerCommandPolicy (hub : CommandHub Out) (target_id opcode : UInt32) (op_class : OpClass) :
    CommandHub Out :=
  if target_id = 0 then hub.recordError
  else
    match hold : hub.command_policies.lookup (target_id, opcode) with
    | some existing => if existing ≠ op_class then hub.recordError else hub
    | none =>
      if hroom : hub.command_policies.entries.length < MAX_COMMAND_POLICIES then
        { hub with
          command_policies := hub.command_policies.push (target_id, opcode) op_class
            ((FirstWins.lookup_eq_none_iff _ _).mp hold) hroom }
      else hub.recordError

/-- The number of routes. -/
def routeCount (hub : CommandHub Out) : ℕ := hub.routes.entries.length

/-- Whether the mission state can be read. -/
def hasMissionStateSource (hub : CommandHub Out) : Bool := hub.watchdog

/-- The class of a command: the registered one, or `OPERATIONAL`. -/
def classifyCommand (hub : CommandHub Out) (cmd : CommandPacket) : OpClass :=
  (hub.command_policies.lookup (cmd.target_id, cmd.opcode)).getD OpClass.OPERATIONAL

end CommandHub

/-! ## The hub among its ports -/

/-- What the log records. -/
inductive HubAction (Out In : Type*) where
  /-- A packet from outside the hub was handed to an input port. -/
  | delivered (i : In) (cmd : CommandPacket) (accepted : Bool)
  /-- A packet was taken from an input port outside the hub. -/
  | taken (i : In) (cmd : CommandPacket)
  /-- The hub took a command from its input and read the mission state. -/
  | consumed (cmd : CommandPacket) (state_raw : UInt8)
  /-- The hub sent a command from an output port that pointed to `dest`. -/
  | offered (port : Out) (dest : Option In) (cmd : CommandPacket) (accepted : Bool)
  /-- The hub sent an event. -/
  | event (packet : EventPacket) (accepted : Bool)
deriving DecidableEq, Repr

/-- The hub, the ports of commands and of events, and the log. -/
structure HubSystem (Out In EventOut EventIn : Type*) where
  hub : CommandHub Out
  cmd_input : In
  ack_out : EventOut
  commands : Bus Out In CommandPacket
  events : Bus EventOut EventIn EventPacket
  log : List (HubAction Out In)

namespace HubSystem

variable {Out In EventOut EventIn : Type*} [DecidableEq In] [DecidableEq EventIn]

/-- A hub whose mission state source is set, before anything is registered or connected. -/
def create (base : Component) (cmd_input : In) (ack_out : EventOut) :
    HubSystem Out In EventOut EventIn :=
  { hub := (CommandHub.create base).setMissionStateSource true
    cmd_input := cmd_input
    ack_out := ack_out
    commands := Bus.create Out In
    events := Bus.create EventOut EventIn
    log := [] }

/-- Counts one error of the hub. -/
def recordError (s : HubSystem Out In EventOut EventIn) : HubSystem Out In EventOut EventIn :=
  { s with hub := s.hub.recordError }

/-- `routes.at(i).port->send(cmd)`. -/
def sendCommand (s : HubSystem Out In EventOut EventIn) (port : Out) (cmd : CommandPacket) :
    HubSystem Out In EventOut EventIn × Bool :=
  let r := s.commands.send port cmd
  ({ s with
     commands := r.1
     log := s.log ++ [HubAction.offered port (s.commands.connected port) cmd r.2] }, r.2)

/-- `if (!ack_out.send(EventPacket::create(sev, getId(), msg))) recordError();`. -/
def sendAck (s : HubSystem Out In EventOut EventIn) (sev : UInt32) (msg : Text) :
    HubSystem Out In EventOut EventIn :=
  let packet := EventPacket.create sev s.hub.base.id msg
  let r := s.events.send s.ack_out packet
  let s' := { s with events := r.1, log := s.log ++ [HubAction.event packet r.2] }
  if r.2 then s' else s'.recordError

/-- Gates, routes, and acknowledges one command, in the mission state read for it. -/
def dispatchCommand (s : HubSystem Out In EventOut EventIn) (cmd : CommandPacket)
    (state_raw : UInt8) : HubSystem Out In EventOut EventIn :=
  if s.hub.watchdog = true ∧
      MissionFsm.isAllowed state_raw (s.hub.classifyCommand cmd) = false then
    (s.sendAck Severity.WARNING (snprintf 28 (ascii "FSM_BLOCKED: OP" ++ decimal cmd.opcode.toNat ++
      ascii " in " ++ MissionFsm.stateName state_raw))).recordError
  else
    match s.hub.routes.lookup cmd.target_id with
    | some port =>
      let r := s.sendCommand port cmd
      if r.2 then
        r.1.sendAck Severity.INFO (snprintf 28 (ascii "ACK: OP" ++ decimal cmd.opcode.toNat ++
          ascii "->ID" ++ decimal cmd.target_id.toNat))
      else (r.1.sendAck Severity.WARNING (ascii "NACK: ROUTE BUSY")).recordError
    | none =>
      (s.sendAck Severity.WARNING (snprintf 28 (ascii "NACK: ID" ++ decimal cmd.target_id.toNat ++
        ascii " not found"))).recordError

/-- One pass of the loop of `step()`. -/
def consume (s : HubSystem Out In EventOut EventIn) (state_raw : UInt8) :
    HubSystem Out In EventOut EventIn :=
  match s.commands.tryConsume s.cmd_input with
  | none => s
  | some (cmd, commands) =>
    dispatchCommand
      { s with commands := commands, log := s.log ++ [HubAction.consumed cmd state_raw] } cmd
      state_raw

end HubSystem

/-- What can happen next. -/
inductive HubOp (Out In EventOut EventIn : Type*) where
  | registerRoute (comp_id : UInt32) (port : Option Out)
  | registerCommandPolicy (target_id opcode : UInt32) (op_class : OpClass)
  /-- One pass of the loop of `step()`, which reads the given mission state. -/
  | consume (state_raw : UInt8)
  /-- A command port is connected. -/
  | connect (o : Out) (dest : In)
  /-- A packet from elsewhere is handed to an input port. -/
  | deliver (i : In) (cmd : CommandPacket)
  /-- A packet is taken from an input port other than the hub's. -/
  | take (i : In)
  /-- An event port is connected. -/
  | connectEvent (o : EventOut) (dest : EventIn)
  /-- An event from elsewhere is handed to an input port. -/
  | deliverEvent (i : EventIn) (packet : EventPacket)
  /-- An event is taken. -/
  | takeEvent (i : EventIn)

namespace HubSystem

variable {Out In EventOut EventIn : Type*} [DecidableEq In] [DecidableEq EventIn] [DecidableEq Out]
  [DecidableEq EventOut]

/-- The next state. -/
def step (s : HubSystem Out In EventOut EventIn) (op : HubOp Out In EventOut EventIn) :
    HubSystem Out In EventOut EventIn :=
  match op with
  | HubOp.registerRoute comp_id port => { s with hub := s.hub.registerRoute comp_id port }
  | HubOp.registerCommandPolicy target_id opcode op_class =>
    { s with hub := s.hub.registerCommandPolicy target_id opcode op_class }
  | HubOp.consume state_raw => s.consume state_raw
  | HubOp.connect o dest => { s with commands := s.commands.connect o dest }
  | HubOp.deliver i cmd =>
    let r := s.commands.receive i cmd
    { s with commands := r.1, log := s.log ++ [HubAction.delivered i cmd r.2] }
  | HubOp.take i =>
    if i = s.cmd_input then s
    else
      match s.commands.tryConsume i with
      | none => s
      | some (cmd, commands) =>
        { s with commands := commands, log := s.log ++ [HubAction.taken i cmd] }
  | HubOp.connectEvent o dest => { s with events := s.events.connect o dest }
  | HubOp.deliverEvent i packet => { s with events := (s.events.receive i packet).1 }
  | HubOp.takeEvent i =>
    match s.events.tryConsume i with
    | none => s
    | some (_, events) => { s with events := events }

end HubSystem

end DeltaV
