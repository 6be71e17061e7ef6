import DeltaV.CommandHub.Model

/-!
# What the command hub does with every command

The two tables of a hub are the `FirstWins` tables of its registration calls (`run_after`). With
that, one pass of the loop of `step()` does to the command at the front of the input what
`Dispatched` says, in any state that any history leads to. Over a whole run, the `Ledger` accounts
for every packet in every queue and says that the hub offers commands in the order it takes them.
-/

namespace DeltaV

variable {Out In EventOut EventIn : Type*}

/-! ## Registrations -/

/-- The `registerRoute` calls with a port, in order. -/
def routeCalls (ops : List (HubOp Out In EventOut EventIn)) : List (UInt32 × Out) :=
  ops.filterMap fun op =>
    match op with
    | HubOp.registerRoute comp_id (some p) => some (comp_id, p)
    | _ => none

/-- The `registerCommandPolicy` calls with a nonzero target, in order. -/
def policyCalls (ops : List (HubOp Out In EventOut EventIn)) :
    List ((UInt32 × UInt32) × OpClass) :=
  ops.filterMap fun op =>
    match op with
    | HubOp.registerCommandPolicy target_id opcode op_class =>
      if target_id = 0 then none else some ((target_id, opcode), op_class)
    | _ => none

/-- The registered routes of two stretches are those of each. -/
theorem routeCalls_append (ops ops' : List (HubOp Out In EventOut EventIn)) :
    routeCalls (ops ++ ops') = routeCalls ops ++ routeCalls ops' := List.filterMap_append

/-- The registered policies of two stretches are those of each. -/
theorem policyCalls_append (ops ops' : List (HubOp Out In EventOut EventIn)) :
    policyCalls (ops ++ ops') = policyCalls ops ++ policyCalls ops' := List.filterMap_append

/-- The port for a target: that of the first registration of the target, among the first 32
distinct targets. -/
def routeFor (ops : List (HubOp Out In EventOut EventIn)) (target_id : UInt32) : Option Out :=
  FirstWins.firstValue MAX_COMMAND_ROUTES (routeCalls ops) target_id

/-- The class of a command: that of the first registration of its target and opcode, among the
first 256 distinct pairs, and `OPERATIONAL` otherwise. -/
def classFor (ops : List (HubOp Out In EventOut EventIn)) (cmd : CommandPacket) : OpClass :=
  (FirstWins.firstValue MAX_COMMAND_POLICIES (policyCalls ops) (cmd.target_id, cmd.opcode)).getD
    OpClass.OPERATIONAL

namespace CommandHub

/-- A registration with a port inserts it in the table. -/
theorem registerRoute_some (hub : CommandHub Out) (comp_id : UInt32) (p : Out) :
    (hub.registerRoute comp_id (some p)).routes = hub.routes.insert (comp_id, p) := by
  unfold registerRoute FirstWins.insert
  -- The code looks for the target first and asks for room only then.
  by_cases hold : comp_id ∈ hub.routes.keys
  · simp [hold, recordError]
  · by_cases hroom : hub.routes.entries.length < MAX_COMMAND_ROUTES
    · simp [hold, hroom]
    · simp [hold, hroom, recordError]

/-- What registering a route leaves alone. -/
theorem registerRoute_frame (hub : CommandHub Out) (comp_id : UInt32) (port : Option Out) :
    (hub.registerRoute comp_id port).command_policies = hub.command_policies ∧
      (hub.registerRoute comp_id port).watchdog = hub.watchdog ∧
      (hub.registerRoute comp_id port).base.id = hub.base.id := by
  unfold registerRoute
  split
  · exact ⟨rfl, rfl, rfl⟩
  · split_ifs <;> exact ⟨rfl, rfl, rfl⟩

/-- A registration with a nonzero target inserts the class in the table. -/
theorem registerCommandPolicy_policies (hub : CommandHub Out) {target_id : UInt32}
    (ht : target_id ≠ 0) (opcode : UInt32) (op_class : OpClass) :
    (hub.registerCommandPolicy target_id opcode op_class).command_policies =
      hub.command_policies.insert ((target_id, opcode), op_class) := by
  have hkey := hub.command_policies.lookup_eq_none_iff (target_id, opcode)
  unfold registerCommandPolicy FirstWins.insert
  rw [if_neg ht]
  split
  · -- A known key keeps its class, whether or not the new one agrees with it.
    rename_i existing hold
    have hmem : (target_id, opcode) ∈ hub.command_policies.keys := by
      by_contra h
      rw [hkey.mpr h] at hold
      cases hold
    rw [dif_neg (by simp [hmem])]
    split_ifs <;> rfl
  · rename_i hold
    have hnew := hkey.mp hold
    split_ifs with h1 h2 h2
    · rfl
    · exact absurd ⟨hnew, h1⟩ h2
    · exact absurd h2.2 h1
    · rfl

/-- What registering a policy leaves alone; a zero target also leaves the policies alone. -/
theorem registerCommandPolicy_frame (hub : CommandHub Out) (target_id opcode : UInt32)
    (op_class : OpClass) :
    (hub.registerCommandPolicy target_id opcode op_class).routes = hub.routes ∧
      (hub.registerCommandPolicy target_id opcode op_class).watchdog = hub.watchdog ∧
      (hub.registerCommandPolicy target_id opcode op_class).base.id = hub.base.id ∧
      (target_id = 0 →
        (hub.registerCommandPolicy target_id opcode op_class).command_policies =
          hub.command_policies) := by
  unfold registerCommandPolicy
  rcases eq_or_ne target_id 0 with h0 | h0
  · rw [if_pos h0]
    exact ⟨rfl, rfl, rfl, fun _ => rfl⟩
  · rw [if_neg h0]
    split
    · split_ifs <;> exact ⟨rfl, rfl, rfl, fun h => absurd h h0⟩
    · split_ifs <;> exact ⟨rfl, rfl, rfl, fun h => absurd h h0⟩

end CommandHub

/-! ## One dispatch -/

/-- How the hub answers a command. -/
inductive Outcome where
  | blocked
  | notFound
  | busy
  | acked
deriving DecidableEq, Repr

/-- The severity of the event that reports an outcome. -/
def Outcome.severity : Outcome → UInt32
  | acked => Severity.INFO
  | _ => Severity.WARNING

/-- The text of the event that reports an outcome. -/
def Outcome.text (outcome : Outcome) (cmd : CommandPacket) (state_raw : UInt8) : Text :=
  match outcome with
  | blocked => snprintf 28 (ascii "FSM_BLOCKED: OP" ++ decimal cmd.opcode.toNat ++ ascii " in " ++
      MissionFsm.stateName state_raw)
  | notFound => snprintf 28 (ascii "NACK: ID" ++ decimal cmd.target_id.toNat ++ ascii " not found")
  | busy => ascii "NACK: ROUTE BUSY"
  | acked => snprintf 28 (ascii "ACK: OP" ++ decimal cmd.opcode.toNat ++ ascii "->ID" ++
      decimal cmd.target_id.toNat)

/-- The event that reports an outcome. -/
def Outcome.ack (outcome : Outcome) (id : UInt32) (cmd : CommandPacket) (state_raw : UInt8) :
    EventPacket := EventPacket.create outcome.severity id (outcome.text cmd state_raw)

/-- A command handed to an output port that pointed to `dest`. -/
structure Offer (Out In : Type*) where
  port : Out
  dest : Option In
  accepted : Bool

/-- What an accepted offer adds to the queue of an input port. -/
def Offer.added [DecidableEq In] (o : Offer Out In) (cmd : CommandPacket) (i : In) :
    List CommandPacket :=
  if o.dest = some i ∧ o.accepted = true then [cmd] else []

/-- The registrations, the identity of the hub, and its ports are the same. -/
structure Framed (s s' : HubSystem Out In EventOut EventIn) : Prop where
  routes_eq : s'.hub.routes = s.hub.routes
  policies_eq : s'.hub.command_policies = s.hub.command_policies
  watchdog_eq : s'.hub.watchdog = s.hub.watchdog
  id_eq : s'.hub.base.id = s.hub.base.id
  cmd_input_eq : s'.cmd_input = s.cmd_input
  ack_out_eq : s'.ack_out = s.ack_out

/-- Nothing has changed in a system that has not moved. -/
theorem Framed.refl (s : HubSystem Out In EventOut EventIn) : Framed s s :=
  ⟨rfl, rfl, rfl, rfl, rfl, rfl⟩

/-- The offer and the outcome that the gate and the route of a command lead to. -/
structure Gated (allowed : Bool) (route : Option Out) (connected : Out → Option In)
    (offer : Option (Offer Out In)) (outcome : Outcome) : Prop where
  /-- An illegal command is not offered. -/
  blocked : allowed = false → offer = none ∧ outcome = Outcome.blocked
  /-- A legal command without a route is not offered. -/
  notFound : allowed = true → route = none → offer = none ∧ outcome = Outcome.notFound
  /-- A legal command with a route is offered to that route's port. -/
  offered : allowed = true → ∀ p, route = some p → ∃ accepted,
    offer = some ⟨p, connected p, accepted⟩ ∧
      outcome = if accepted then Outcome.acked else Outcome.busy

/-- One pass took `cmd` from the input, in mission state `state_raw`, and answered it. The class and
the route of the command are parameters. -/
structure Dispatched [DecidableEq In] [DecidableEq EventIn] (cls : OpClass) (route : Option Out)
    (state_raw : UInt8) (cmd : CommandPacket) (offer : Option (Offer Out In)) (outcome : Outcome)
    (sent : Bool) (s s' : HubSystem Out In EventOut EventIn) : Prop where
  framed : Framed s s'
  gated : Gated (MissionFsm.isAllowed state_raw cls) route s.commands.connected offer outcome
  /-- Besides the offer, if there is one, exactly one event is sent. -/
  log_eq : s'.log = s.log ++ [HubAction.consumed cmd state_raw] ++
    offer.toList.map (fun o => HubAction.offered o.port o.dest cmd o.accepted) ++
    [HubAction.event (outcome.ack s.hub.base.id cmd state_raw) sent]
  /-- The event goes to the port `ack_out`. -/
  events_eq : s.events.send s.ack_out (outcome.ack s.hub.base.id cmd state_raw) = (s'.events, sent)
  /-- The queues lose the command at the front of the input and gain what the offer adds. -/
  pending_eq : ∀ i, s'.commands.pending i =
    (if i = s.cmd_input then (s.commands.pending i).tail else s.commands.pending i) ++
      offer.toList.flatMap fun o => o.added cmd i
  /-- Every outcome but `acked` counts one error, and so does an event that was not accepted. -/
  error_count_eq : s'.hub.base.error_count = s.hub.base.error_count +
    (if outcome = Outcome.acked then 0 else 1) + (if sent then 0 else 1)

variable [DecidableEq In] [DecidableEq EventIn]

namespace HubSystem

omit [DecidableEq In] in
/-- Acknowledging changes neither the registrations nor the commands. -/
theorem sendAck_framed (s : HubSystem Out In EventOut EventIn) (sev : UInt32) (msg : Text) :
    Framed s (s.sendAck sev msg) ∧ (s.sendAck sev msg).commands = s.commands := by
  simp only [sendAck]
  split_ifs <;> exact ⟨⟨rfl, rfl, rfl, rfl, rfl, rfl⟩, rfl⟩

omit [DecidableEq In] in
/-- What acknowledging does: one event is sent, and an error is counted if it is not accepted. -/
theorem sendAck_spec (s : HubSystem Out In EventOut EventIn) (sev : UInt32) (msg : Text) :
    ∃ sent, s.events.send s.ack_out (EventPacket.create sev s.hub.base.id msg) =
        ((s.sendAck sev msg).events, sent) ∧
      (s.sendAck sev msg).log =
        s.log ++ [HubAction.event (EventPacket.create sev s.hub.base.id msg) sent] ∧
      (s.sendAck sev msg).hub.base.error_count =
        s.hub.base.error_count + (if sent then 0 else 1) := by
  refine ⟨(s.events.send s.ack_out (EventPacket.create sev s.hub.base.id msg)).2, ?_⟩
  simp only [sendAck]
  split_ifs with h
  · exact ⟨rfl, rfl, (UInt32.add_zero _).symm⟩
  · exact ⟨rfl, rfl, rfl⟩

/-- Sends the event of an outcome, and counts an error unless the command was accepted. -/
def reply (s : HubSystem Out In EventOut EventIn) (outcome : Outcome) (cmd : CommandPacket)
    (state_raw : UInt8) : HubSystem Out In EventOut EventIn :=
  if outcome = Outcome.acked then s.sendAck outcome.severity (outcome.text cmd state_raw)
  else (s.sendAck outcome.severity (outcome.text cmd state_raw)).recordError

omit [DecidableEq In] in
/-- A reply changes neither the registrations nor the commands. -/
theorem reply_framed (s : HubSystem Out In EventOut EventIn) (outcome : Outcome)
    (cmd : CommandPacket) (state_raw : UInt8) :
    Framed s (s.reply outcome cmd state_raw) ∧
      (s.reply outcome cmd state_raw).commands = s.commands := by
  obtain ⟨⟨h1, h2, h3, h4, h5, h6⟩, h7⟩ :=
    s.sendAck_framed outcome.severity (outcome.text cmd state_raw)
  unfold reply
  split_ifs
  · exact ⟨⟨h1, h2, h3, h4, h5, h6⟩, h7⟩
  · exact ⟨⟨h1, h2, h3, h4, h5, h6⟩, h7⟩

omit [DecidableEq In] in
/-- A reply sends one event, and counts an error for a refusal and one for an event that is not
accepted. -/
theorem reply_spec (s : HubSystem Out In EventOut EventIn) (outcome : Outcome)
    (cmd : CommandPacket) (state_raw : UInt8) :
    ∃ sent, s.events.send s.ack_out (outcome.ack s.hub.base.id cmd state_raw) =
        ((s.reply outcome cmd state_raw).events, sent) ∧
      (s.reply outcome cmd state_raw).log =
        s.log ++ [HubAction.event (outcome.ack s.hub.base.id cmd state_raw) sent] ∧
      (s.reply outcome cmd state_raw).hub.base.error_count = s.hub.base.error_count +
        (if outcome = Outcome.acked then 0 else 1) + (if sent then 0 else 1) := by
  obtain ⟨sent, hsend, hlog, herr⟩ :=
    s.sendAck_spec outcome.severity (outcome.text cmd state_raw)
  refine ⟨sent, ?_⟩
  unfold reply
  -- The code counts a refusal after the event, and the contract lists it first.
  rcases eq_or_ne outcome Outcome.acked with hacked | hacked
  · rw [if_pos hacked, if_pos hacked, UInt32.add_zero]
    exact ⟨hsend, hlog, herr⟩
  · rw [if_neg hacked, if_neg hacked]
    refine ⟨hsend, hlog, ?_⟩
    have hcount : (s.sendAck outcome.severity
        (outcome.text cmd state_raw)).recordError.hub.base.error_count =
        s.hub.base.error_count + (if sent then 0 else 1) + 1 := by rw [← herr]; rfl
    rw [hcount, UInt32.add_assoc, UInt32.add_comm _ 1, ← UInt32.add_assoc]

/-- A state in which the offer, if there is one, has been made and nothing else has happened. -/
structure Offering (cmd : CommandPacket) (offer : Option (Offer Out In))
    (s s' : HubSystem Out In EventOut EventIn) : Prop where
  hub_eq : s'.hub = s.hub
  cmd_input_eq : s'.cmd_input = s.cmd_input
  ack_out_eq : s'.ack_out = s.ack_out
  events_eq : s'.events = s.events
  log_eq : s'.log = s.log ++
    offer.toList.map fun o => HubAction.offered o.port o.dest cmd o.accepted
  pending_eq : ∀ i, s'.commands.pending i =
    s.commands.pending i ++ offer.toList.flatMap fun o => o.added cmd i

omit [DecidableEq EventIn] in
/-- Sending a command is an offer. -/
theorem offering_sendCommand (s : HubSystem Out In EventOut EventIn) (port : Out)
    (cmd : CommandPacket) :
    Offering cmd (some ⟨port, s.commands.connected port, (s.sendCommand port cmd).2⟩) s
      (s.sendCommand port cmd).1 where
  hub_eq := rfl
  cmd_input_eq := rfl
  ack_out_eq := rfl
  events_eq := rfl
  log_eq := rfl
  pending_eq i := by simpa [Offer.added, sendCommand] using s.commands.pending_send port i cmd

/-- A legal command with a route is sent to its port. -/
theorem dispatchCommand_route (s : HubSystem Out In EventOut EventIn) {cmd : CommandPacket}
    {state_raw : UInt8}
    (hallowed : MissionFsm.isAllowed state_raw (s.hub.classifyCommand cmd) = true)
    {p : Out} (hroute : s.hub.routes.lookup cmd.target_id = some p) :
    s.dispatchCommand cmd state_raw = (s.sendCommand p cmd).1.reply
      (if (s.sendCommand p cmd).2 then Outcome.acked else Outcome.busy) cmd state_raw := by
  unfold dispatchCommand reply
  rw [if_neg (by simp [hallowed]), hroute]
  rcases haccepted : (s.sendCommand p cmd).2 with _ | _ <;>
    simp [haccepted, Outcome.text, Outcome.severity]

/-- A legal command without a route is answered only. -/
theorem dispatchCommand_noRoute (s : HubSystem Out In EventOut EventIn) {cmd : CommandPacket}
    {state_raw : UInt8}
    (hallowed : MissionFsm.isAllowed state_raw (s.hub.classifyCommand cmd) = true)
    (hroute : s.hub.routes.lookup cmd.target_id = none) :
    s.dispatchCommand cmd state_raw = s.reply Outcome.notFound cmd state_raw := by
  unfold dispatchCommand
  rw [if_neg (by simp [hallowed]), hroute]
  rfl

/-- A dispatch makes an offer as gate and route allow, and replies with its outcome. -/
theorem dispatchCommand_eq (s : HubSystem Out In EventOut EventIn) (hw : s.hub.watchdog = true)
    (cmd : CommandPacket) (state_raw : UInt8) :
    ∃ offer outcome s₁, Offering cmd offer s s₁ ∧
      s.dispatchCommand cmd state_raw = s₁.reply outcome cmd state_raw ∧
      Gated (MissionFsm.isAllowed state_raw (s.hub.classifyCommand cmd))
        (s.hub.routes.lookup cmd.target_id) s.commands.connected offer outcome := by
  have hself : Offering cmd none s s :=
    ⟨rfl, rfl, rfl, rfl, by simp, fun i => by simp⟩
  -- The branches of the source: the gate, the route, and the send.
  rcases hallowed : MissionFsm.isAllowed state_raw (s.hub.classifyCommand cmd) with _ | _
  · refine ⟨none, Outcome.blocked, s, hself, ?_, fun _ => ⟨rfl, rfl⟩, nofun, nofun⟩
    unfold dispatchCommand
    rw [if_pos ⟨hw, hallowed⟩]
    rfl
  · rcases hroute : s.hub.routes.lookup cmd.target_id with _ | p
    · exact ⟨none, Outcome.notFound, s, hself, s.dispatchCommand_noRoute hallowed hroute, nofun,
        fun _ _ => ⟨rfl, rfl⟩, nofun⟩
    · refine ⟨_, if (s.sendCommand p cmd).2 then Outcome.acked else Outcome.busy, _,
        s.offering_sendCommand p cmd, s.dispatchCommand_route hallowed hroute, nofun, nofun, ?_⟩
      rintro - q hq
      obtain rfl := Option.some.inj hq
      exact ⟨_, rfl, rfl⟩

/-- One pass of the loop of `step()` dispatches the command at the front of the input. -/
theorem dispatched_consume (s : HubSystem Out In EventOut EventIn) (hw : s.hub.watchdog = true)
    (state_raw : UInt8) {cmd : CommandPacket} {rest : List CommandPacket}
    (hcmd : s.commands.pending s.cmd_input = cmd :: rest) :
    ∃ offer outcome sent, Dispatched (s.hub.classifyCommand cmd)
      (s.hub.routes.lookup cmd.target_id) state_raw cmd offer outcome sent s
      (s.consume state_raw) := by
  obtain ⟨⟨cmd', b⟩, hb⟩ : ∃ r, s.commands.tryConsume s.cmd_input = some r := by
    rw [← Option.ne_none_iff_exists']
    intro hnone
    rw [(s.commands.tryConsume_eq_none_iff _).mp hnone] at hcmd
    cases hcmd
  obtain ⟨hhead, hother, hconn⟩ := Bus.tryConsume_eq_some hb
  rw [hcmd] at hhead
  obtain ⟨rfl, hrest⟩ := List.cons.inj hhead
  -- The command leaves the input before it is dispatched.
  set s₀ : HubSystem Out In EventOut EventIn :=
    { s with commands := b, log := s.log ++ [HubAction.consumed cmd state_raw] } with hs₀
  have hconsume : s.consume state_raw = s₀.dispatchCommand cmd state_raw := by
    unfold consume
    rw [hb]
  obtain ⟨offer, outcome, s₁, hoff, heq, hgated⟩ := s₀.dispatchCommand_eq hw cmd state_raw
  rw [show s₀.commands.connected = s.commands.connected from hconn] at hgated
  -- The reply follows the offer, so its facts are stated from the state after the offer.
  obtain ⟨sent, hsend, hlog, herr⟩ := s₁.reply_spec outcome cmd state_raw
  obtain ⟨hframe, hcommands⟩ := s₁.reply_framed outcome cmd state_raw
  rw [hoff.hub_eq, hoff.events_eq, hoff.ack_out_eq] at hsend
  rw [hoff.hub_eq, hoff.log_eq] at hlog
  rw [hoff.hub_eq] at herr
  refine ⟨offer, outcome, sent, ?_⟩
  rw [hconsume, heq]
  refine ⟨?_, hgated, hlog, hsend, fun i => ?_, herr⟩
  · obtain ⟨h1, h2, h3, h4, h5, h6⟩ := hframe
    rw [hoff.hub_eq] at h1 h2 h3 h4
    rw [hoff.cmd_input_eq] at h5
    rw [hoff.ack_out_eq] at h6
    exact ⟨h1, h2, h3, h4, h5, h6⟩
  · rw [hcommands, hoff.pending_eq i]
    congr 1
    -- Only the input of the hub has lost its front.
    split_ifs with hi
    · rw [hi, hcmd]
      exact hrest.symm
    · exact hother i hi

omit [DecidableEq In] [DecidableEq EventIn] in
/-- A pass that finds the input empty does nothing. -/
theorem consume_empty [DecidableEq In] [DecidableEq EventIn]
    (s : HubSystem Out In EventOut EventIn) (state_raw : UInt8)
    (h : s.commands.pending s.cmd_input = []) : s.consume state_raw = s := by
  unfold consume
  rw [(s.commands.tryConsume_eq_none_iff _).mpr h]

/-! ## Runs -/

/-- What an action queues in an input port. -/
def queued (i : In) : HubAction Out In → List CommandPacket
  | HubAction.delivered j cmd accepted => if j = i ∧ accepted = true then [cmd] else []
  | HubAction.offered _ dest cmd accepted => if dest = some i ∧ accepted = true then [cmd] else []
  | _ => []

/-- What an action takes from an input port; the hub takes from `cmd_input`. -/
def removed (cmd_input i : In) : HubAction Out In → List CommandPacket
  | HubAction.taken j cmd => if j = i then [cmd] else []
  | HubAction.consumed cmd _ => if cmd_input = i then [cmd] else []
  | _ => []

omit [DecidableEq In] in
/-- What the hub offers in an action. -/
def offered : HubAction Out In → List CommandPacket
  | HubAction.offered _ _ cmd _ => [cmd]
  | _ => []

/-- The ledger of a state: every packet queued in a port was taken from it or waits in it, in the
order of arrival, and the hub's offers follow the order in which it took the commands. -/
structure Ledger (s : HubSystem Out In EventOut EventIn) : Prop where
  queued_eq : ∀ i, s.log.flatMap (queued i) =
    s.log.flatMap (removed s.cmd_input i) ++ s.commands.pending i
  offered_sublist :
    (s.log.flatMap offered).Sublist (s.log.flatMap (removed s.cmd_input s.cmd_input))

/-- The state that a history of operations leads to: its tables are those of the history's
registrations. -/
structure After (base : Component) (cmd_input : In) (ack_out : EventOut)
    (ops : List (HubOp Out In EventOut EventIn)) (s : HubSystem Out In EventOut EventIn) :
    Prop where
  routes_eq : s.hub.routes = FirstWins.insertAll MAX_COMMAND_ROUTES (routeCalls ops)
  policies_eq : s.hub.command_policies =
    FirstWins.insertAll MAX_COMMAND_POLICIES (policyCalls ops)
  watchdog_eq : s.hub.watchdog = true
  id_eq : s.hub.base.id = base.id
  cmd_input_eq : s.cmd_input = cmd_input
  ack_out_eq : s.ack_out = ack_out

/-- A dispatch keeps the ledger. -/
theorem ledger_of_dispatched {cls : OpClass} {route : Option Out} {state_raw : UInt8}
    {cmd : CommandPacket} {offer : Option (Offer Out In)} {outcome : Outcome} {sent : Bool}
    {s s' : HubSystem Out In EventOut EventIn} {rest : List CommandPacket}
    (hcmd : s.commands.pending s.cmd_input = cmd :: rest)
    (h : Dispatched cls route state_raw cmd offer outcome sent s s') (hs : Ledger s) :
    Ledger s' := by
  refine ⟨fun i => ?_, ?_⟩
  · have hqueued : s'.log.flatMap (queued i) =
        s.log.flatMap (queued i) ++ offer.toList.flatMap fun o => o.added cmd i := by
      rw [h.log_eq]
      cases offer <;> simp [queued, Offer.added]
    have hremoved : s'.log.flatMap (removed s'.cmd_input i) =
        s.log.flatMap (removed s.cmd_input i) ++ if s.cmd_input = i then [cmd] else [] := by
      rw [h.log_eq, h.framed.cmd_input_eq]
      cases offer <;> simp [removed]
    rw [hqueued, hremoved, h.pending_eq i, hs.queued_eq i]
    -- The command moves from the front of the queue to the end of what was removed.
    by_cases hi : s.cmd_input = i
    · subst hi
      simp [hcmd]
    · simp [hi, Ne.symm hi]
  · have hremoved : s'.log.flatMap (removed s'.cmd_input s'.cmd_input) =
        s.log.flatMap (removed s.cmd_input s.cmd_input) ++ [cmd] := by
      rw [h.log_eq, h.framed.cmd_input_eq]
      cases offer <;> simp [removed]
    have hoffered : s'.log.flatMap offered =
        s.log.flatMap offered ++ offer.toList.map fun _ => cmd := by
      rw [h.log_eq]
      cases offer <;> simp [offered]
    rw [hremoved, hoffered]
    -- The command is offered at most once, after it was taken.
    refine hs.offered_sublist.append ?_
    cases offer <;> simp

variable [DecidableEq Out] [DecidableEq EventOut]

/-- Taking the first packet of a port other than the hub's leaves everything else alone. -/
theorem take_spec (s : HubSystem Out In EventOut EventIn) {i : In} (hi : i ≠ s.cmd_input)
    {cmd : CommandPacket} {rest : List CommandPacket} (h : s.commands.pending i = cmd :: rest) :
    let s' := s.step (HubOp.take i)
    s'.hub = s.hub ∧ s'.cmd_input = s.cmd_input ∧ s'.commands.connected = s.commands.connected ∧
      s'.commands.pending i = rest ∧ ∀ j ≠ i, s'.commands.pending j = s.commands.pending j := by
  simp only [step]
  rw [if_neg hi]
  split
  · rename_i hnone
    rw [(s.commands.tryConsume_eq_none_iff i).mp hnone] at h
    cases h
  · rename_i cmd' b hb
    obtain ⟨hhead, hother, hconn⟩ := Bus.tryConsume_eq_some hb
    rw [h] at hhead
    exact ⟨rfl, rfl, hconn, (List.cons.inj hhead).2.symm, hother⟩

/-- Every step keeps the ledger. -/
theorem ledger_step (s : HubSystem Out In EventOut EventIn) (op : HubOp Out In EventOut EventIn)
    (hw : s.hub.watchdog = true) (hs : Ledger s) : Ledger (s.step op) := by
  cases op with
  -- These steps leave the log and the queues of commands alone.
  | registerRoute | registerCommandPolicy | connect | connectEvent | deliverEvent =>
    exact ⟨hs.queued_eq, hs.offered_sublist⟩
  | takeEvent i =>
    simp only [step]
    split
    · exact hs
    · exact ⟨hs.queued_eq, hs.offered_sublist⟩
  | consume state_raw =>
    rcases hpending : s.commands.pending s.cmd_input with _ | ⟨cmd, rest⟩
    · rw [show s.step (HubOp.consume state_raw) = s from s.consume_empty state_raw hpending]
      exact hs
    · obtain ⟨offer, outcome, sent, h⟩ := s.dispatched_consume hw state_raw hpending
      exact ledger_of_dispatched hpending h hs
  | deliver i cmd =>
    refine ⟨fun j => ?_, ?_⟩
    · simp only [step, List.flatMap_append, s.commands.pending_receive i j cmd, hs.queued_eq j]
      rcases eq_or_ne j i with rfl | hne
      · simp [queued, removed]
      · simp [queued, removed, hne, hne.symm]
    · simpa [step, offered, removed] using hs.offered_sublist
  | take i =>
    simp only [step]
    -- Only the hub takes from its own input, so another reader does nothing there.
    split_ifs with hi
    · exact hs
    · split
      · exact hs
      · rename_i cmd b hb
        obtain ⟨hhead, hother, -⟩ := Bus.tryConsume_eq_some hb
        refine ⟨fun j => ?_, ?_⟩
        · simp only [List.flatMap_append, hs.queued_eq j]
          rcases eq_or_ne j i with rfl | hne
          · simp [queued, removed, hhead]
          · simp [queued, removed, hother j hne, hne.symm]
        · simpa [offered, removed, hi] using hs.offered_sublist

omit [DecidableEq In] [DecidableEq EventIn] [DecidableEq Out] [DecidableEq EventOut] in
/-- A step that registers nothing and keeps the hub leads to the state of the longer history. -/
theorem After.of_framed {base : Component} {cmd_input : In} {ack_out : EventOut}
    {ops : List (HubOp Out In EventOut EventIn)} {s s' : HubSystem Out In EventOut EventIn}
    {op : HubOp Out In EventOut EventIn} (h : After base cmd_input ack_out ops s)
    (hroutes : routeCalls [op] = []) (hpolicies : policyCalls [op] = []) (hf : Framed s s') :
    After base cmd_input ack_out (ops ++ [op]) s' := by
  have hr : routeCalls (ops ++ [op]) = routeCalls ops := by
    rw [routeCalls_append, hroutes, List.append_nil]
  have hp : policyCalls (ops ++ [op]) = policyCalls ops := by
    rw [policyCalls_append, hpolicies, List.append_nil]
  exact ⟨by rw [hr, hf.routes_eq, h.routes_eq], by rw [hp, hf.policies_eq, h.policies_eq],
    hf.watchdog_eq.trans h.watchdog_eq, hf.id_eq.trans h.id_eq,
    hf.cmd_input_eq.trans h.cmd_input_eq, hf.ack_out_eq.trans h.ack_out_eq⟩

/-- Every step leads to the state of the longer history. -/
theorem after_step {base : Component} {cmd_input : In} {ack_out : EventOut}
    {ops : List (HubOp Out In EventOut EventIn)} {s : HubSystem Out In EventOut EventIn}
    (h : After base cmd_input ack_out ops s) (op : HubOp Out In EventOut EventIn) :
    After base cmd_input ack_out (ops ++ [op]) (s.step op) := by
  cases op with
  | registerRoute comp_id port =>
    obtain ⟨hp, hw, hid⟩ := s.hub.registerRoute_frame comp_id port
    cases port with
    | none => exact h.of_framed rfl rfl ⟨rfl, hp, hw, hid, rfl, rfl⟩
    | some p =>
      refine ⟨?_, ?_, hw.trans h.watchdog_eq, hid.trans h.id_eq, h.cmd_input_eq, h.ack_out_eq⟩
      · have hcalls : routeCalls (ops ++ [HubOp.registerRoute comp_id (some p)]) =
            routeCalls ops ++ [(comp_id, p)] := routeCalls_append ..
        rw [hcalls, FirstWins.insertAll_concat, ← h.routes_eq]
        exact s.hub.registerRoute_some comp_id p
      · have hcalls : policyCalls (ops ++ [HubOp.registerRoute comp_id (some p)]) =
            policyCalls ops := (policyCalls_append ..).trans (List.append_nil _)
        rw [hcalls, ← h.policies_eq]
        exact hp
  | registerCommandPolicy target_id opcode op_class =>
    obtain ⟨hr, hw, hid, hzero⟩ := s.hub.registerCommandPolicy_frame target_id opcode op_class
    -- A zero target is refused and not a registration.
    rcases eq_or_ne target_id 0 with h0 | h0
    · exact h.of_framed rfl (by simp [policyCalls, h0]) ⟨hr, hzero h0, hw, hid, rfl, rfl⟩
    · refine ⟨?_, ?_, hw.trans h.watchdog_eq, hid.trans h.id_eq, h.cmd_input_eq, h.ack_out_eq⟩
      · have hcalls : routeCalls (ops ++ [HubOp.registerCommandPolicy target_id opcode op_class]) =
            routeCalls ops := (routeCalls_append ..).trans (List.append_nil _)
        rw [hcalls, ← h.routes_eq]
        exact hr
      · have hcalls : policyCalls (ops ++ [HubOp.registerCommandPolicy target_id opcode op_class]) =
            policyCalls ops ++ [((target_id, opcode), op_class)] := by
          rw [policyCalls_append]
          simp [policyCalls, h0]
        rw [hcalls, FirstWins.insertAll_concat, ← h.policies_eq]
        exact s.hub.registerCommandPolicy_policies h0 opcode op_class
  | consume state_raw =>
    refine h.of_framed rfl rfl ?_
    rcases hpending : s.commands.pending s.cmd_input with _ | ⟨cmd, rest⟩
    · rw [show s.step (HubOp.consume state_raw) = s from s.consume_empty state_raw hpending]
      exact Framed.refl s
    · obtain ⟨offer, outcome, sent, hd⟩ := s.dispatched_consume h.watchdog_eq state_raw hpending
      exact hd.framed
  | connect | deliver | connectEvent | deliverEvent =>
    exact h.of_framed rfl rfl ⟨rfl, rfl, rfl, rfl, rfl, rfl⟩
  | take i =>
    refine h.of_framed rfl rfl ?_
    simp only [step]
    split_ifs
    · exact Framed.refl s
    · split <;> exact ⟨rfl, rfl, rfl, rfl, rfl, rfl⟩
  | takeEvent i =>
    refine h.of_framed rfl rfl ?_
    simp only [step]
    split <;> exact ⟨rfl, rfl, rfl, rfl, rfl, rfl⟩

/-- Every history leads to the state it describes, and the ledger balances there. -/
theorem run_after (base : Component) (cmd_input : In) (ack_out : EventOut)
    (ops : List (HubOp Out In EventOut EventIn)) :
    After base cmd_input ack_out ops (run step (create base cmd_input ack_out) ops) ∧
      Ledger (run step (create base cmd_input ack_out) ops) := by
  induction ops using List.reverseRecOn with
  | nil =>
    exact ⟨⟨rfl, rfl, rfl, rfl, rfl, rfl⟩, ⟨fun i => rfl, List.Sublist.refl _⟩⟩
  | append_singleton ops op ih =>
    obtain ⟨hafter, hledger⟩ := ih
    rw [run_concat]
    exact ⟨after_step hafter op, ledger_step _ op hafter.watchdog_eq hledger⟩

/-- The contract of the command hub, for every history of registrations, passes, and events in the
rest of the system. A pass that finds a command dispatches it as its mission state, the class of the
first registration of its target and opcode, and the first route registered for its target say. All
queues are first in, first out, and the hub offers commands in the order it takes them. -/
theorem commandHub_contract (base : Component) (cmd_input : In) (ack_out : EventOut)
    (ops : List (HubOp Out In EventOut EventIn)) :
    let s := run step (create base cmd_input ack_out) ops
    (∀ state_raw,
      match s.commands.pending cmd_input with
      | [] => s.step (HubOp.consume state_raw) = s
      | cmd :: _ => ∃ offer outcome sent,
          Dispatched (classFor ops cmd) (routeFor ops cmd.target_id) state_raw cmd offer outcome
            sent s (s.step (HubOp.consume state_raw))) ∧
      (∀ i, s.log.flatMap (queued i) =
        s.log.flatMap (removed cmd_input i) ++ s.commands.pending i) ∧
      (s.log.flatMap offered).Sublist (s.log.flatMap (removed cmd_input cmd_input)) := by
  intro s
  obtain ⟨hafter, hledger⟩ := run_after base cmd_input ack_out ops
  have hinput : s.cmd_input = cmd_input := hafter.cmd_input_eq
  have hqueued := hledger.queued_eq
  have hoffered := hledger.offered_sublist
  rw [hafter.cmd_input_eq] at hqueued hoffered
  refine ⟨fun state_raw => ?_, hqueued, hoffered⟩
  split
  · rename_i hpending
    exact s.consume_empty state_raw (by rw [hinput, hpending])
  · rename_i cmd rest hpending
    have hcls : s.hub.classifyCommand cmd = classFor ops cmd := by
      rw [CommandHub.classifyCommand, hafter.policies_eq, FirstWins.lookup_insertAll]
      rfl
    have hroute : s.hub.routes.lookup cmd.target_id = routeFor ops cmd.target_id := by
      rw [hafter.routes_eq, FirstWins.lookup_insertAll]
      rfl
    -- The tables of the state answer as the registrations of the history do.
    rw [← hcls, ← hroute]
    exact s.dispatched_consume hafter.watchdog_eq state_raw (by rw [hinput, hpending])

end HubSystem

end DeltaV
