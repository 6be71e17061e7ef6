import DeltaV.Topology.Dictionary
import DeltaV.Topology.Wiring

/-!
# Which commands of the dictionary are delivered

`validate` accepts a command when its target is the number of a component, and the dictionary lists
it. A route is generated for application components only, so a command is delivered exactly when the
component it targets is one (`delivered_iff`).
-/

namespace DeltaV.Topology

variable {topo : Topology} {comps : List Instance} {commands : List Command} {m : TopologyManager}

/-! ## Numbers of components -/

/-- Numbers that fit into 32 bits are not mixed up. -/
theorem ofInt_inj {a b : ℤ} (ha : 0 ≤ a ∧ a < 2^32) (hb : 0 ≤ b ∧ b < 2^32) :
    UInt32.ofInt a = UInt32.ofInt b ↔ a = b := by
  have htoNat : ∀ {x : ℤ}, 0 ≤ x ∧ x < 2^32 → ((UInt32.ofInt x).toNat : ℤ) = x := by
    intro x hx
    unfold UInt32.ofInt
    rw [UInt32.toNat_ofNat']
    omega
  constructor
  · intro h
    rw [← htoNat ha, ← htoNat hb, h]
  · rintro rfl
    rfl

/-- The numbers of the components of a rendered program. -/
theorem Rendered.ids_eq (h : Rendered topo comps commands m) :
    topo.ids = comps.map Instance.cid := by
  have hid : ∀ comp ∈ topo.components, comp.id = (resolve comp).map Instance.cid := by
    intro comp hcomp
    have hmem : resolve comp ∈ comps.map some := by
      rw [← h.comps_eq]
      exact List.mem_map_of_mem hcomp
    obtain ⟨c, -, hc⟩ := List.mem_map.mp hmem
    rw [← hc]
    unfold resolve at hc
    obtain ⟨name, -, hc⟩ := Option.bind_eq_some_iff.mp hc.symm
    obtain ⟨cid, hcid, rfl⟩ := Option.map_eq_some_iff.mp hc
    exact hcid
  calc topo.ids = topo.components.filterMap fun comp => (resolve comp).map Instance.cid :=
        List.filterMap_congr hid
    _ = (topo.components.map resolve).filterMap (Option.map Instance.cid) := by
        rw [List.filterMap_map]
        rfl
    _ = comps.map Instance.cid := by
        rw [h.comps_eq, List.filterMap_map]
        exact congrFun List.filterMap_eq_map comps

/-- An accepted topology numbers its components differently. -/
theorem Rendered.cid_nodup (h : Rendered topo comps commands m) (hv : topo.Accepted) :
    (comps.map Instance.cid).Nodup := by
  rw [← h.ids_eq]
  exact hv.ids_nodup

/-! ## Routes -/

/-- The routes that the statements of a rendered program register. -/
theorem Rendered.routes_eq (h : Rendered topo comps commands m) :
    m.wiring.filterMap Stmt.asRoute = (comps.filter (Instance.routed commands)).map fun c =>
      (UInt32.ofInt c.cid, CommandOut.route c.inst) := by
  rw [h.filterMap_wiring]
  simp [List.filterMap_cons, flatMap_nil, Stmt.asRoute, List.map_eq_flatMap]

/-- Components are told apart by their numbers, as the hub takes them. -/
theorem Rendered.ofInt_cid_inj (h : Rendered topo comps commands m) (hv : topo.Accepted)
    (hc : m.Compiles) {a b : Instance} (ha : a ∈ comps) (hb : b ∈ comps)
    (hab : UInt32.ofInt a.cid = UInt32.ofInt b.cid) : a = b := by
  have hrange := hc.cid_range
  rw [h.instances_eq] at hrange
  exact List.inj_on_of_nodup_map (h.cid_nodup hv) ha hb
    ((ofInt_inj (hrange a ha) (hrange b hb)).mp hab)

/-- When the routes fit, every component keeps its own. -/
theorem Rendered.route_entries (h : Rendered topo comps commands m) (hv : topo.Accepted)
    (hc : m.Compiles)
    (hroutes : (m.wiring.filterMap Stmt.asRoute).length ≤ MAX_COMMAND_ROUTES) :
    m.start.cmd.hub.routes.entries = (comps.filter (Instance.routed commands)).map fun c =>
      (UInt32.ofInt c.cid, CommandOut.route c.inst) := by
  rw [m.start_eq, TopologyManager.wire, Program.routes_run, ← h.routes_eq]
  refine FirstWins.entries_insertAll ?_ hroutes
  rw [h.routes_eq, List.map_map]
  refine List.Nodup.map_on ?_ ((List.Nodup.of_map _ (h.cid_nodup hv)).filter _)
  intro a ha b hb hab
  exact h.ofInt_cid_inj hv hc (List.mem_filter.mp ha).1 (List.mem_filter.mp hb).1 hab

/-- When the routes fit, the hub finds a route for the components that have one. -/
theorem Rendered.lookup_route (h : Rendered topo comps commands m) (hv : topo.Accepted)
    (hc : m.Compiles)
    (hroutes : (m.wiring.filterMap Stmt.asRoute).length ≤ MAX_COMMAND_ROUTES) {c : Instance}
    (hcomp : c ∈ comps) :
    m.start.cmd.hub.routes.lookup (UInt32.ofInt c.cid) =
      if c.routed commands then some (CommandOut.route c.inst) else none := by
  have hentries := h.route_entries hv hc hroutes
  by_cases hrouted : c.routed commands = true
  · rw [if_pos hrouted]
    refine FirstWins.lookup_of_mem _ ?_
    rw [hentries]
    exact List.mem_map.mpr ⟨c, List.mem_filter.mpr ⟨hcomp, hrouted⟩, rfl⟩
  · rw [if_neg hrouted, FirstWins.lookup_eq_none_iff, FirstWins.keys, hentries, List.map_map]
    intro hmem
    obtain ⟨c', hc', hkey⟩ := List.mem_map.mp hmem
    obtain ⟨hcomp', hrouted'⟩ := List.mem_filter.mp hc'
    rw [h.ofInt_cid_inj hv hc hcomp' hcomp hkey] at hrouted'
    exact hrouted hrouted'

/-- The connections of command ports in a rendered program. -/
theorem Rendered.commandWires_eq (h : Rendered topo comps commands m) :
    m.wiring.filterMap Stmt.asCommandWire =
      (CommandOut.command_out (ascii "radio"), CommandIn.cmd_input) ::
        ((comps.filter (Instance.routed commands)).map fun c =>
          (CommandOut.route c.inst, CommandIn.cmd_in c.inst)) ++
        topo.custom_wiring.filterMap fun wire => (Stmt.custom wire).asCommandWire := by
  rw [h.filterMap_wiring]
  simp [List.filterMap_cons, flatMap_nil, Stmt.asCommandWire, List.map_eq_flatMap]

/-- Custom wiring connects no port of a route. -/
theorem route_ne_of_custom {wire : CustomWire} {out : CommandOut} {dest : CommandIn}
    (h : (Stmt.custom wire).asCommandWire = some (out, dest)) (inst : Text) :
    out ≠ CommandOut.route inst := by
  rintro rfl
  cases wire <;> simp [Stmt.asCommandWire] at h

/-- The port of a route is connected to the component's queue of commands. -/
theorem Rendered.connected_route (h : Rendered topo comps commands m) {c : Instance}
    (hcomp : c ∈ comps) (hrouted : c.routed commands = true) :
    m.start.cmd.commands.connected (CommandOut.route c.inst) =
      some (CommandIn.cmd_in c.inst) := by
  rw [m.start_eq, TopologyManager.wire, Program.commands_run, h.commandWires_eq]
  refine Program.foldl_link_of_unique _ ?_ ?_
  · refine List.mem_append_left _ (List.mem_cons_of_mem _ ?_)
    exact List.mem_map.mpr ⟨c, List.mem_filter.mpr ⟨hcomp, hrouted⟩, rfl⟩
  · rintro ⟨out, dest⟩ he rfl
    rcases List.mem_append.mp he with hgen | hcustom
    · rcases List.mem_cons.mp hgen with hradio | hroute
      · cases hradio
      · obtain ⟨c', -, heq⟩ := List.mem_map.mp hroute
        obtain ⟨hinst, rfl⟩ := Prod.mk.inj heq
        rw [CommandOut.route.inj hinst]
    · obtain ⟨wire, -, hwire⟩ := List.mem_filterMap.mp hcustom
      exact absurd rfl (route_ne_of_custom hwire c.inst)

/-! ## Delivery -/

/-- A state of the hub while the program runs and no command waits: its routes and the connections
of its ports are those of start-up. -/
structure TopologyManager.Idle (m : TopologyManager)
    (s : HubSystem CommandOut CommandIn EventOut EventIn) : Prop where
  routes_eq : s.hub.routes = m.start.cmd.hub.routes
  connected_eq : s.commands.connected = m.start.cmd.commands.connected
  empty : ∀ i, s.commands.pending i = []

/-- The packet of a command. -/
def DictCommand.packet (cmd : DictCommand) (argument : Binary32) : CommandPacket :=
  ⟨UInt32.ofInt cmd.target_id, UInt32.ofInt cmd.opcode, argument⟩

/-- In mission state NOMINAL, the hub puts the command into the queue of the component it targets
and into no other, and sends no event with the text that the target is not found. -/
def Delivered (m : TopologyManager) (cmd : DictCommand) : Prop :=
  ∃ c ∈ m.instances, c.cid = cmd.target_id ∧ ∀ s, m.Idle s → ∀ argument,
    let packet := cmd.packet argument
    let state_raw := UInt8.ofNat MissionState.NOMINAL.toNat
    let s' := s.dispatchCommand packet state_raw
    (∀ i, s'.commands.pending i = if i = CommandIn.cmd_in c.inst then [packet] else []) ∧
      ∃ acts, s'.log = s.log ++ acts ∧ ∀ event sent, HubAction.event event sent ∈ acts →
        event.message ≠ (Outcome.notFound.ack s.hub.base.id packet state_raw).message

/-- The program starts without waiting commands. -/
theorem TopologyManager.idle_start (m : TopologyManager) : m.Idle m.start.cmd := by
  refine ⟨rfl, rfl, fun i => ?_⟩
  have hinput : m.start.cmd.commands.input = m.construct.cmd.commands.input := by
    rw [m.start_eq]
    exact Program.input_run _ _
  unfold Bus.pending
  rw [hinput]
  rfl

/-- An acknowledgement does not say that the target is not found. -/
theorem message_acked_ne (id : UInt32) (cmd : CommandPacket) (state_raw : UInt8) :
    (Outcome.acked.ack id cmd state_raw).message ≠
      (Outcome.notFound.ack id cmd state_raw).message := by
  intro heq
  have hhead := congrArg List.head? heq
  have hacked : (Outcome.acked.ack id cmd state_raw).message.head? = some 65 := rfl
  have hnack : (Outcome.notFound.ack id cmd state_raw).message.head? = some 78 := rfl
  rw [hacked, hnack] at hhead
  exact absurd hhead (by decide)

variable {s : HubSystem CommandOut CommandIn EventOut EventIn}

/-- In mission state NOMINAL every command is legal. -/
theorem isAllowed_nominal (cls : OpClass) :
    MissionFsm.isAllowed (UInt8.ofNat MissionState.NOMINAL.toNat) cls = true := rfl

/-- A command to a component with a route is put into its queue and acknowledged. -/
theorem Rendered.dispatch_routed (h : Rendered topo comps commands m) (hs : m.Idle s)
    {c : Instance} (hcomp : c ∈ comps) (hrouted : c.routed commands = true) {packet : CommandPacket}
    (hroute : m.start.cmd.hub.routes.lookup packet.target_id = some (CommandOut.route c.inst)) :
    let state_raw := UInt8.ofNat MissionState.NOMINAL.toNat
    let s' := s.dispatchCommand packet state_raw
    (∀ i, s'.commands.pending i = if i = CommandIn.cmd_in c.inst then [packet] else []) ∧
      ∃ acts, s'.log = s.log ++ acts ∧ ∀ event sent, HubAction.event event sent ∈ acts →
        event.message ≠ (Outcome.notFound.ack s.hub.base.id packet state_raw).message := by
  intro state_raw s'
  set out := CommandOut.route c.inst with hout
  have hconn : s.commands.connected out = some (CommandIn.cmd_in c.inst) := by
    rw [hs.connected_eq]
    exact h.connected_route hcomp hrouted
  -- The queue behind the route is empty, so it takes the command.
  have haccepted : (s.sendCommand out packet).2 = true := by
    refine (s.commands.send_snd out packet).mpr ⟨_, hconn, ?_⟩
    rw [hs.empty]
    decide
  rw [← hs.routes_eq] at hroute
  have hs' : s' = (s.sendCommand out packet).1.reply Outcome.acked packet state_raw := by
    have hdispatch := s.dispatchCommand_route (isAllowed_nominal _) hroute
    rwa [if_pos haccepted] at hdispatch
  have hoffer := s.offering_sendCommand out packet
  obtain ⟨-, hcommands⟩ :=
    (s.sendCommand out packet).1.reply_framed Outcome.acked packet state_raw
  obtain ⟨sent, -, hlog, -⟩ :=
    (s.sendCommand out packet).1.reply_spec Outcome.acked packet state_raw
  constructor
  · intro i
    rw [hs', hcommands, hoffer.pending_eq, hs.empty]
    simp only [haccepted, hconn, Offer.added, Option.toList_some, List.flatMap_singleton,
      List.nil_append, Option.some.injEq, and_true, eq_comm]
  · refine ⟨[HubAction.offered out (some (CommandIn.cmd_in c.inst)) packet true,
      HubAction.event (Outcome.acked.ack s.hub.base.id packet state_raw) sent], ?_, ?_⟩
    · rw [hs', hlog, hoffer.log_eq, hoffer.hub_eq, haccepted, hconn]
      simp
    · intro event sent' hmem
      rcases List.mem_cons.mp hmem with hoffered | hlast
      · cases hoffered
      · obtain ⟨rfl, -⟩ := HubAction.event.inj (List.mem_singleton.mp hlast)
        exact message_acked_ne _ _ _

/-- A command without a route is put into no queue. -/
theorem TopologyManager.dispatch_noRoute (hs : m.Idle s) {packet : CommandPacket}
    (hroute : m.start.cmd.hub.routes.lookup packet.target_id = none) (i : CommandIn) :
    (s.dispatchCommand packet
      (UInt8.ofNat MissionState.NOMINAL.toNat)).commands.pending i = [] := by
  rw [← hs.routes_eq] at hroute
  rw [s.dispatchCommand_noRoute (isAllowed_nominal _) hroute, (s.reply_framed _ _ _).2]
  exact hs.empty i

/-- A command of the dictionary targets a component. -/
theorem Rendered.exists_target (h : Rendered topo comps commands m) (hv : topo.Accepted)
    {d : Dictionary} (hd : render_dict topo = some d) {e : Text × DictCommand}
    (he : e ∈ d.commands) :
    ∃ c ∈ comps, c.cid = e.2.target_id ∧ c.routed commands = c.app := by
  obtain ⟨decl, hdecl, hentry⟩ := mem_dict_commands hd he
  unfold dictCommand at hentry
  obtain ⟨name, -, hentry⟩ := Option.bind_eq_some_iff.mp hentry
  obtain ⟨target_id, htarget, hentry⟩ := Option.bind_eq_some_iff.mp hentry
  obtain ⟨opcode, hopcode, rfl⟩ := Option.map_eq_some_iff.mp hentry
  have hknown : target_id ∈ topo.ids := by
    have hsound := (hv.sound decl hdecl).target
    rw [htarget] at hsound
    exact of_decide_eq_true hsound
  rw [h.ids_eq] at hknown
  obtain ⟨c, hcomp, hcid⟩ := List.mem_map.mp hknown
  refine ⟨c, hcomp, hcid, ?_⟩
  have htargeted : (commands.any fun cmd => cmd.target_id = c.cid) = true := by
    rw [← h.declared_eq]
    refine List.any_eq_true.mpr
      ⟨⟨target_id, opcode, upper (decl.op_class.getD (ascii "OPERATIONAL"))⟩,
        List.mem_filterMap.mpr ⟨decl, hdecl, ?_⟩, decide_eq_true hcid.symm⟩
    unfold resolveCommand
    rw [htarget, hopcode]
    rfl
  unfold Instance.routed
  rw [htargeted, Bool.and_true]

/-- A command of the dictionary is delivered exactly when the component it targets has no wiring of
its own. -/
theorem delivered_iff (hv : validate topo = []) (hm : render_topo topo = some m) (hc : m.Compiles)
    (hroutes : (m.wiring.filterMap Stmt.asRoute).length ≤ MAX_COMMAND_ROUTES) {d : Dictionary}
    (hd : render_dict topo = some d) (e : Text × DictCommand) (he : e ∈ d.commands) :
    Delivered m e.2 ↔
      ∀ c ∈ m.instances, c.cid = e.2.target_id → c.inst ∉ SYSTEM_INSTS := by
  obtain ⟨comps, commands, h⟩ := rendered_of_eq_some hm
  have hacc := (validate_eq_nil_iff topo).mp hv
  obtain ⟨c, hcomp, hcid, hrouted⟩ := h.exists_target hacc hd he
  have honly : ∀ c' ∈ m.instances, c'.cid = e.2.target_id → c' = c := by
    intro c' hc' hcid'
    rw [h.instances_eq] at hc'
    exact List.inj_on_of_nodup_map (h.cid_nodup hacc) hc' hcomp (hcid'.trans hcid.symm)
  have hlookup := h.lookup_route hacc hc hroutes hcomp
  rw [hrouted, hcid] at hlookup
  constructor
  · rintro ⟨c', hc', hcid', hdelivered⟩ c'' hc'' hcid'' hsystem
    rw [honly c'' hc'' hcid''] at hsystem
    have happ : c.app = false := by simp [Instance.app, hsystem]
    rw [if_neg (by simp [happ])] at hlookup
    have hpending := (hdelivered _ m.idle_start (Binary32.ofNat 0)).1 (CommandIn.cmd_in c'.inst)
    rw [if_pos rfl, m.dispatch_noRoute m.idle_start hlookup] at hpending
    cases hpending
  · intro hall
    have hmem : c ∈ m.instances := by rwa [h.instances_eq]
    have happ : c.app = true := decide_eq_true (hall c hmem hcid)
    rw [if_pos happ] at hlookup
    refine ⟨c, hmem, hcid, fun s hs argument => ?_⟩
    exact h.dispatch_routed hs hcomp (hrouted.trans happ) hlookup

/-- The infrastructure with an application component and a command for it. -/
def batteryBlueprint (target_id : ℤ) : Topology :=
  { infrastructure with
    components := systemComponents ++
      [component 200 "BatterySystem" "PowerComponent" "battery" "Passive" "norm"]
    commands := [⟨some (ascii "RESET_BATTERY"), some target_id, some 1, none⟩] }

/-- A command for the battery is delivered. -/
theorem delivered_iff_battery :
    ∃ m d, render_topo (batteryBlueprint 200) = some m ∧ m.Compiles ∧
      render_dict (batteryBlueprint 200) = some d ∧
      (ascii "RESET_BATTERY", ⟨200, 1, ascii "OPERATIONAL", 30⟩) ∈ d.commands ∧
      Delivered m ⟨200, 1, ascii "OPERATIONAL", 30⟩ := by
  obtain ⟨m, hm, hc, hroutes, hsystem⟩ : ∃ m, render_topo (batteryBlueprint 200) = some m ∧
      m.Compiles ∧ (m.wiring.filterMap Stmt.asRoute).length ≤ MAX_COMMAND_ROUTES ∧
      ∀ c ∈ m.instances, c.cid = 200 → c.inst ∉ SYSTEM_INSTS :=
    ⟨(render_topo (batteryBlueprint 200)).get (by decide +kernel), by decide +kernel,
      by decide +kernel, by decide +kernel, by decide +kernel⟩
  obtain ⟨d, hd, he⟩ : ∃ d, render_dict (batteryBlueprint 200) = some d ∧
      (ascii "RESET_BATTERY", ⟨200, 1, ascii "OPERATIONAL", 30⟩) ∈ d.commands :=
    ⟨(render_dict (batteryBlueprint 200)).get (by decide +kernel), by decide +kernel,
      by decide +kernel⟩
  exact ⟨m, d, hm, hc, hd, he,
    (delivered_iff (by decide +kernel) hm hc hroutes hd _ he).mpr hsystem⟩

/-- A command for the watchdog is in the dictionary of an accepted topology, whose program passes
its own verification, and is answered that its target is not found. -/
theorem watchdog_not_delivered :
    validate (batteryBlueprint 1) = [] ∧ ∃ m d, render_topo (batteryBlueprint 1) = some m ∧
      m.Compiles ∧ (m.wiring.filterMap Stmt.asRoute).length ≤ MAX_COMMAND_ROUTES ∧
      (m.verify m.start).1 = true ∧ render_dict (batteryBlueprint 1) = some d ∧
      (ascii "RESET_BATTERY", ⟨1, 1, ascii "OPERATIONAL", 30⟩) ∈ d.commands ∧
      (m.start.cmd.dispatchCommand ⟨1, 1, Binary32.ofNat 0⟩
          (UInt8.ofNat MissionState.NOMINAL.toNat)).log =
        [HubAction.event (EventPacket.create Severity.WARNING 11
          (ascii "NACK: ID1 not found")) true] ∧
      ¬Delivered m ⟨1, 1, ascii "OPERATIONAL", 30⟩ := by
  obtain ⟨m, hm, hc, hroutes, hverify, hlookup, hlog⟩ : ∃ m,
      render_topo (batteryBlueprint 1) = some m ∧ m.Compiles ∧
      (m.wiring.filterMap Stmt.asRoute).length ≤ MAX_COMMAND_ROUTES ∧
      (m.verify m.start).1 = true ∧ m.start.cmd.hub.routes.lookup 1 = none ∧
      (m.start.cmd.dispatchCommand ⟨1, 1, Binary32.ofNat 0⟩
          (UInt8.ofNat MissionState.NOMINAL.toNat)).log =
        [HubAction.event (EventPacket.create Severity.WARNING 11
          (ascii "NACK: ID1 not found")) true] :=
    ⟨(render_topo (batteryBlueprint 1)).get (by decide +kernel), by decide +kernel,
      by decide +kernel, by decide +kernel, by decide +kernel, by decide +kernel,
      by decide +kernel⟩
  obtain ⟨d, hd, he⟩ : ∃ d, render_dict (batteryBlueprint 1) = some d ∧
      (ascii "RESET_BATTERY", ⟨1, 1, ascii "OPERATIONAL", 30⟩) ∈ d.commands :=
    ⟨(render_dict (batteryBlueprint 1)).get (by decide +kernel), by decide +kernel,
      by decide +kernel⟩
  refine ⟨by decide +kernel, m, d, hm, hc, hroutes, hverify, hd, he, hlog, ?_⟩
  rintro ⟨c, -, -, hdelivered⟩
  have hpending := (hdelivered _ m.idle_start (Binary32.ofNat 0)).1 (CommandIn.cmd_in c.inst)
  rw [if_pos rfl, m.dispatch_noRoute m.idle_start hlookup] at hpending
  cases hpending

end DeltaV.Topology
