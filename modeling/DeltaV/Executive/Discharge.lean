import DeltaV.Executive.Mission
import DeltaV.Power

/-!
# The battery in the closed loop

The battery is the third part of the loop: the hub forwards its commands, and every tick it sends
its charge to the watchdog, which gates the hub. `RESET_BATTERY` is a command like any other, so the
loop cannot undo a discharge. Once a sample at or below the emergency threshold has arrived, the
mission is in `EMERGENCY`, no command but those already waiting reaches the battery, and the charge
only falls (`discharge_is_final`).
-/

namespace DeltaV

/-- The watchdog, the command hub, and the battery. -/
structure PowerSystem (Out In EventOut EventIn : Type*) where
  mission : MissionSystem Out In EventOut EventIn
  battery : PowerComponent
  /-- `battery.cmd_in`. -/
  battery_in : In
  battery_in_ne : battery_in ≠ mission.commands.cmd_input
  /-- The commands that the battery has taken, in order. -/
  handled : List CommandPacket

/-- What can happen next. -/
inductive SystemOp (Out In EventOut EventIn : Type*) where
  /-- A step of the watchdog, the hub, or the ports; a cycle of the watchdog takes its samples from
  the queue of the battery. -/
  | mission (op : MissionOp Out In EventOut EventIn)
  /-- The battery takes and executes a command. -/
  | handleCommand
  /-- The battery discharges and reports. -/
  | tick (met : UInt32)

namespace SystemOp

variable {Out In EventOut EventIn : Type*}

/-- Only the hub sends to the command port of the battery, and only the battery takes from it. -/
def Wired (battery_in : In) : SystemOp Out In EventOut EventIn → Prop
  | mission (MissionOp.command (HubOp.deliver i _)) => i ≠ battery_in
  | mission (MissionOp.command (HubOp.take i)) => i ≠ battery_in
  | _ => True

/-- The operation leaves the voted thresholds as they are. -/
def KeepsVotes (v : Option (Binary32 × Binary32 × Binary32)) :
    SystemOp Out In EventOut EventIn → Prop
  | mission (MissionOp.supervise op) => WatchdogComponent.KeepsVotes v op
  | _ => True

end SystemOp

namespace HubSystem

variable {Out In EventOut EventIn : Type*} [DecidableEq In] [DecidableEq EventIn] [DecidableEq Out]
  [DecidableEq EventOut]

/-- No step changes which port the hub takes its commands from. -/
theorem cmd_input_step (s : HubSystem Out In EventOut EventIn) (hw : s.hub.watchdog = true)
    (op : HubOp Out In EventOut EventIn) : (s.step op).cmd_input = s.cmd_input := by
  cases op with
  | consume state_raw =>
    rcases hpending : s.commands.pending s.cmd_input with _ | ⟨cmd, rest⟩
    · rw [show s.step (HubOp.consume state_raw) = s from s.consume_empty state_raw hpending]
    · obtain ⟨offer, outcome, sent, h⟩ := s.dispatched_consume hw state_raw hpending
      exact h.framed.cmd_input_eq
  | registerRoute | registerCommandPolicy | connect | deliver | connectEvent | deliverEvent => rfl
  | take i =>
    simp only [step]
    split_ifs
    · rfl
    · split <;> rfl
  | takeEvent i =>
    simp only [step]
    split <;> rfl

end HubSystem

namespace MissionSystem

variable {Out In EventOut EventIn : Type*} [DecidableEq In] [DecidableEq EventIn] [DecidableEq Out]
  [DecidableEq EventOut]

/-- In `EMERGENCY` no operation of the loop changes what waits in a port, apart from what others
send to it and take from it. -/
theorem pending_step_of_emergency {s : MissionSystem Out In EventOut EventIn}
    (h : s.watchdog.mission_state = MissionState.EMERGENCY) {i : In}
    (hi : i ≠ s.commands.cmd_input) {op : MissionOp Out In EventOut EventIn}
    (hop : (SystemOp.mission op).Wired i) :
    (s.step op).commands.commands.pending i = s.commands.commands.pending i := by
  cases op with
  | supervise op => rfl
  | command op =>
    cases op with
    | registerRoute | registerCommandPolicy | connect | connectEvent | deliverEvent => rfl
    | consume other =>
      rcases hpending : s.commands.commands.pending s.commands.cmd_input with _ | ⟨cmd, rest⟩
      · have hnone := s.commands.consume_empty s.getMissionStateRaw hpending
        exact congrArg (fun h => h.commands.pending i) hnone
      · obtain ⟨offer, outcome, sent, hd⟩ :=
          s.commands.dispatched_consume s.gated s.getMissionStateRaw hpending
        -- The gate is closed, so nothing is offered.
        have hclosed : MissionFsm.isAllowed s.getMissionStateRaw
            (s.commands.hub.classifyCommand cmd) = false := by
          by_contra hopen
          exact absurd h (class_of_allowed (Bool.eq_true_of_not_eq_false hopen)).2.2
        obtain ⟨rfl, -⟩ := hd.gated.blocked hclosed
        have hqueue := hd.pending_eq i
        rw [if_neg hi] at hqueue
        exact hqueue.trans (List.append_nil _)
    | deliver j cmd =>
      have hne : i ≠ j := fun heq => hop heq.symm
      have hqueue := s.commands.commands.pending_receive j i cmd
      rw [if_neg fun hij => hne hij.1, List.append_nil] at hqueue
      exact hqueue
    | take j =>
      simp only [step, HubOp.reading, HubSystem.step]
      split_ifs
      · rfl
      · split
        · rfl
        · rename_i cmd b hb
          exact (Bus.tryConsume_eq_some hb).2.1 i fun heq => hop heq.symm
    | takeEvent j =>
      simp only [step, HubOp.reading, HubSystem.step]
      split <;> rfl

end MissionSystem

namespace PowerSystem

variable {Out In EventOut EventIn : Type*} [DecidableEq In] [DecidableEq EventIn] [DecidableEq Out]
  [DecidableEq EventOut]

/-- The commands that wait at the battery. -/
def waiting (s : PowerSystem Out In EventOut EventIn) : List CommandPacket :=
  s.mission.commands.commands.pending s.battery_in

/-- The samples that wait at the watchdog. -/
def samples (s : PowerSystem Out In EventOut EventIn) : List Binary32 :=
  (s.battery.battery_out_internal.map InputPort.pending).getD []

/-- The operation with the samples of the battery in the place of those it reads. -/
def sampled (s : PowerSystem Out In EventOut EventIn) :
    MissionOp Out In EventOut EventIn → MissionOp Out In EventOut EventIn
  | MissionOp.supervise (WatchdogOp.step inp) =>
    MissionOp.supervise (WatchdogOp.step { inp with samples := s.samples })
  | op => op

/-- The queue of samples after an operation: a cycle of the watchdog empties it. -/
def sampleQueue (s : PowerSystem Out In EventOut EventIn) :
    MissionOp Out In EventOut EventIn → Option (InputPort Binary32 DEFAULT_QUEUE_DEPTH)
  | MissionOp.supervise (WatchdogOp.step _) => s.battery.battery_out_internal.map InputPort.drain
  | _ => s.battery.battery_out_internal

/-- A step of the watchdog or the hub does not change where the commands of the hub come from. -/
theorem cmd_input_mission (m : MissionSystem Out In EventOut EventIn)
    (op : MissionOp Out In EventOut EventIn) :
    (m.step op).commands.cmd_input = m.commands.cmd_input := by
  cases op with
  | supervise op => rfl
  | command op => exact m.commands.cmd_input_step m.gated _

/-- The mission part after the battery has taken a command. -/
def taken (s : PowerSystem Out In EventOut EventIn) : MissionSystem Out In EventOut EventIn :=
  s.mission.step (MissionOp.command (HubOp.take s.battery_in))

/-- The next state. -/
def step (s : PowerSystem Out In EventOut EventIn) :
    SystemOp Out In EventOut EventIn → PowerSystem Out In EventOut EventIn
  | SystemOp.mission op =>
    { s with
      mission := s.mission.step (s.sampled op)
      battery := { s.battery with battery_out_internal := s.sampleQueue op }
      battery_in_ne := by
        rw [cmd_input_mission]
        exact s.battery_in_ne }
  | SystemOp.handleCommand =>
    match s.waiting with
    | [] => s
    | cmd :: _ =>
      { s with
        mission := s.taken
        battery := s.battery.handleCommand cmd
        handled := s.handled ++ [cmd]
        battery_in_ne := by
          rw [taken, cmd_input_mission]
          exact s.battery_in_ne }
  | SystemOp.tick met => { s with battery := s.battery.tick met }

/-- `init()` of the watchdog and of the battery. -/
def init (s : PowerSystem Out In EventOut EventIn) : PowerSystem Out In EventOut EventIn :=
  { s with mission := s.mission.init, battery := s.battery.init }

/-! ## The parts of a run -/

/-- The number of ticks of the battery. -/
def ticks (ops : List (SystemOp Out In EventOut EventIn)) : ℕ :=
  ops.countP fun op =>
    match op with
    | SystemOp.tick _ => true
    | _ => false

/-- The mission part of a run is a run of its own, which leaves the votes to the same calls. -/
theorem mission_run (s : PowerSystem Out In EventOut EventIn)
    (ops : List (SystemOp Out In EventOut EventIn)) :
    ∃ mops, (run step s ops).mission = run MissionSystem.step s.mission mops ∧
      ∀ v, (∀ op ∈ ops, op.KeepsVotes v) →
        ∀ op ∈ watchdogOps mops, WatchdogComponent.KeepsVotes v op := by
  induction ops using List.reverseRecOn with
  | nil => exact ⟨[], rfl, fun _ _ => nofun⟩
  | append_singleton ops op ih =>
    obtain ⟨mops, hrun, hvotes⟩ := ih
    have hfront (v) (h : ∀ op' ∈ ops ++ [op], SystemOp.KeepsVotes v op') :=
      hvotes v fun op' hmem => h op' (List.mem_append_left _ hmem)
    rw [run_concat]
    cases op with
    | tick met => exact ⟨mops, hrun, hfront⟩
    | handleCommand =>
      simp only [step]
      split
      · exact ⟨mops, hrun, hfront⟩
      · refine ⟨mops ++ [MissionOp.command (HubOp.take (run step s ops).battery_in)], ?_, ?_⟩
        · rw [run_concat, ← hrun]
          rfl
        · simpa [watchdogOps] using hfront
    | mission op =>
      refine ⟨mops ++ [(run step s ops).sampled op], ?_, fun v hv op' hmem => ?_⟩
      · rw [run_concat, ← hrun]
        rfl
      · rw [watchdogOps, List.filterMap_append] at hmem
        rcases List.mem_append.mp hmem with hold | hnew
        · exact hfront v hv op' hold
        · -- The samples of a cycle say nothing about the stores.
          have hlast : (SystemOp.mission op).KeepsVotes v :=
            hv _ (List.mem_append_right _ (List.mem_singleton_self _))
          cases op with
          | command op => simp [sampled] at hnew
          | supervise op =>
            cases op <;> simp [sampled] at hnew <;> subst hnew <;> exact hlast

/-- The battery stays in its range. -/
theorem rated_step {s : PowerSystem Out In EventOut EventIn} (h : s.battery.Rated)
    (op : SystemOp Out In EventOut EventIn) : (s.step op).battery.Rated := by
  cases op with
  | mission op => exact ⟨h.soc_ge, h.soc_le, h.rate_ge, h.rate_le⟩
  | handleCommand =>
    simp only [step]
    split
    · exact h
    · rename_i cmd _ _
      exact h.apply (PowerOp.handleCommand cmd)
  | tick met => exact h.apply (PowerOp.tick met)

/-- The commands among the operations of the battery. -/
def commandsOf (acts : List PowerOp) : List CommandPacket :=
  acts.filterMap fun act =>
    match act with
    | PowerOp.handleCommand cmd => some cmd
    | _ => none

/-- A run from `s` to `s'` with `n` ticks and no command from the hub: the battery takes commands
only from those that waited. -/
structure CutOff (s s' : PowerSystem Out In EventOut EventIn) (n : ℕ) : Prop where
  battery_in_eq : s'.battery_in = s.battery_in
  emergency : s'.mission.watchdog.mission_state = MissionState.EMERGENCY
  offers_eq : s'.mission.offers = s.mission.offers
  battery : ∃ acts, s'.battery = run PowerComponent.apply s.battery acts ∧
    PowerComponent.ticks acts = n ∧ s'.handled = s.handled ++ commandsOf acts ∧
    s.waiting = commandsOf acts ++ s'.waiting

/-- In `EMERGENCY` every operation leaves the battery cut off. -/
theorem CutOff.step {s s' : PowerSystem Out In EventOut EventIn} {n : ℕ} (h : CutOff s s' n)
    {op : SystemOp Out In EventOut EventIn} (hop : op.Wired s.battery_in) :
    CutOff s (s'.step op) (n + ticks [op]) := by
  obtain ⟨hport, hemergency, hoffers, acts, hbattery, hticks, hhandled, hwaiting⟩ := h
  have hsplit (act : PowerOp) : commandsOf (acts ++ [act]) = commandsOf acts ++ commandsOf [act] ∧
      PowerComponent.ticks (acts ++ [act]) = n + PowerComponent.ticks [act] := by
    rw [← hticks]
    exact ⟨List.filterMap_append, List.countP_append ..⟩
  cases op with
  | mission op =>
    obtain ⟨hfinal, hsame⟩ := MissionSystem.emergency_step hemergency (s'.sampled op)
    have hwired : (SystemOp.mission (s'.sampled op)).Wired s'.battery_in := by
      rw [hport]
      cases op with
      | command op => exact hop
      | supervise op => cases op <;> trivial
    have hqueue := MissionSystem.pending_step_of_emergency hemergency s'.battery_in_ne hwired
    set act := PowerOp.outputs s'.battery.event_out s'.battery.telemetry_out (s'.sampleQueue op)
    obtain ⟨hcommands, hcount⟩ := hsplit act
    refine ⟨hport, hfinal, hsame.trans hoffers, acts ++ [act], ?_, hcount, ?_, ?_⟩
    · rw [run_concat, ← hbattery]
      rfl
    · rw [hcommands]
      exact hhandled.trans (congrArg _ (List.append_nil _).symm)
    · rw [hcommands, hwaiting]
      exact congrArg₂ _ (List.append_nil _).symm hqueue.symm
  | handleCommand =>
    simp only [PowerSystem.step]
    split
    · exact ⟨hport, hemergency, hoffers, acts, hbattery, hticks, hhandled, hwaiting⟩
    · rename_i cmd rest hcmd
      obtain ⟨hfinal, hsame⟩ := MissionSystem.emergency_step hemergency
        (MissionOp.command (HubOp.take s'.battery_in))
      have htake := (s'.mission.commands.take_spec s'.battery_in_ne hcmd).2.2.2.1
      obtain ⟨hcommands, hcount⟩ := hsplit (PowerOp.handleCommand cmd)
      refine ⟨hport, hfinal, hsame.trans hoffers, acts ++ [PowerOp.handleCommand cmd], ?_, hcount,
        ?_, ?_⟩
      · rw [run_concat, ← hbattery]
        rfl
      · rw [hcommands, ← List.append_assoc, ← hhandled]
        rfl
      · -- The command moves from the front of the queue to the end of those taken.
        rw [hcommands, hwaiting, hcmd, List.append_assoc]
        exact congrArg (fun l => commandsOf acts ++ cmd :: l) htake.symm
  | tick met =>
    obtain ⟨hcommands, hcount⟩ := hsplit (PowerOp.tick met)
    refine ⟨hport, hemergency, hoffers, acts ++ [PowerOp.tick met], ?_, hcount, ?_, ?_⟩
    · rw [run_concat, ← hbattery]
      rfl
    · rw [hcommands]
      exact hhandled.trans (congrArg _ (List.append_nil _).symm)
    · rw [hcommands, hwaiting]
      exact congrArg (fun l => l ++ _) (List.append_nil _).symm

/-- From `EMERGENCY` on, the battery is cut off. -/
theorem cutOff_run {s : PowerSystem Out In EventOut EventIn}
    (h : s.mission.watchdog.mission_state = MissionState.EMERGENCY)
    (ops : List (SystemOp Out In EventOut EventIn)) (hops : ∀ op ∈ ops, op.Wired s.battery_in) :
    CutOff s (run step s ops) (ticks ops) := by
  induction ops using List.reverseRecOn with
  | nil => exact ⟨rfl, h, rfl, [], rfl, rfl, (List.append_nil _).symm, rfl⟩
  | append_singleton ops op ih =>
    have hbefore := ih fun op' hmem => hops op' (List.mem_append_left _ hmem)
    have hcount : ticks (ops ++ [op]) = ticks ops + ticks [op] := List.countP_append ..
    rw [run_concat, hcount]
    exact hbefore.step (hops op (List.mem_append_right _ (List.mem_singleton_self op)))

/-! ## The end of the mission -/

/-- A tick puts its sample behind the others when there is room. -/
theorem samples_tick (s : PowerSystem Out In EventOut EventIn) (met : UInt32)
    {port : InputPort Binary32 DEFAULT_QUEUE_DEPTH}
    (hport : s.battery.battery_out_internal = some port)
    (hroom : s.samples.length < DEFAULT_QUEUE_DEPTH) :
    (s.step (SystemOp.tick met)).samples = s.samples ++ [s.battery.discharge.soc] := by
  have hout : s.battery.discharge.battery_out_internal = some port := by
    rw [← hport]
    unfold PowerComponent.discharge
    split_ifs <;> rfl
  have hqueue (c : PowerComponent) (hc : c.battery_out_internal = some port) :
      c.sendSample.battery_out_internal = some (port.receive c.soc).1 := by
    unfold PowerComponent.sendSample
    rw [hc]
    rfl
  have hpending : s.samples = port.pending := by
    rw [samples, hport]
    rfl
  have hsend : (s.step (SystemOp.tick met)).samples =
      (port.receive s.battery.discharge.soc).1.pending := by
    have hport' : (s.step (SystemOp.tick met)).battery.battery_out_internal =
        some (port.receive s.battery.discharge.soc).1 := hqueue _ hout
    rw [samples, hport']
    rfl
  rw [hpending] at hroom
  rw [hsend, port.pending_receive, port.receive_snd, decide_eq_true hroom, if_pos rfl, hpending]

/-- The end of the mission, over every interleaving of watchdog, hub, and battery after `init()`
with ordered thresholds that stay. When a tick leaves the charge at or below the emergency threshold
and its sample finds room, the next cycle of the watchdog enters `EMERGENCY`. From then on, whatever
happens, `EMERGENCY` stays and the hub sends no command; the battery takes commands only from those
that waited when it began, and unless one of these resets it or sets its rate, the charge falls tick
by tick at the rate it had. -/
theorem discharge_is_final (s₀ : PowerSystem Out In EventOut EventIn) (t : BatteryThresholds)
    (ht : s₀.mission.watchdog.InForce t) (ops : List (SystemOp Out In EventOut EventIn))
    (hops : ∀ op ∈ ops, op.KeepsVotes s₀.mission.watchdog.voted) :
    let s := run step s₀.init ops
    (∀ met inp, s.battery.battery_out_internal.isSome = true →
        s.samples.length < DEFAULT_QUEUE_DEPTH → s.battery.discharge.soc ≤ t.emergency_pct →
        (run step s [SystemOp.tick met, SystemOp.mission (MissionOp.supervise
          (WatchdogOp.step inp))]).mission.watchdog.mission_state = MissionState.EMERGENCY) ∧
      (s.mission.watchdog.mission_state = MissionState.EMERGENCY →
        ∀ post, (∀ op ∈ post, op.Wired s.battery_in) →
          let s' := run step s post
          s'.mission.watchdog.mission_state = MissionState.EMERGENCY ∧
            s'.mission.offers = s.mission.offers ∧
            (∃ late, s'.handled = s.handled ++ late ∧ s.waiting = late ++ s'.waiting) ∧
            ((∀ cmd ∈ s.waiting, PowerComponent.Steady (PowerOp.handleCommand cmd)) →
              PowerComponent.Charge s.battery (ticks post) s'.battery)) := by
  intro s
  refine ⟨fun met inp hsome hroom hlow => ?_, fun hemergency post hpost => ?_⟩
  · obtain ⟨port, hport⟩ := Option.isSome_iff_exists.mp hsome
    have hsamples := s.samples_tick met hport hroom
    -- Seen from the mission, the tick only adds a sample to those of the next cycle.
    obtain ⟨mops, hrun, hvotes⟩ := s₀.init.mission_run ops
    set inp' : StepInput := { inp with samples := s.samples ++ [s.battery.discharge.soc] }
    have hcycle : (run step s [SystemOp.tick met, SystemOp.mission (MissionOp.supervise
        (WatchdogOp.step inp))]).mission =
          run MissionSystem.step s₀.mission.init
            (mops ++ [MissionOp.supervise (WatchdogOp.step inp')]) := by
      rw [run_concat, show run MissionSystem.step s₀.mission.init mops = s.mission from hrun.symm]
      show s.mission.step (MissionOp.supervise (WatchdogOp.step
        { inp with samples := (s.step (SystemOp.tick met)).samples })) = _
      rw [hsamples]
    have hcalls : watchdogOps (mops ++ [MissionOp.supervise (WatchdogOp.step inp')] :
        List (MissionOp Out In EventOut EventIn)) = watchdogOps mops ++ [WatchdogOp.step inp'] := by
      simp [watchdogOps]
    have hlatest : WatchdogComponent.latest (watchdogOps (mops ++
        [MissionOp.supervise (WatchdogOp.step inp')] : List (MissionOp Out In EventOut EventIn))) =
          some s.battery.discharge.soc := by
      rw [hcalls, WatchdogComponent.latest_concat]
      simp [WatchdogComponent.samplesOf, inp']
    have hlevel := s₀.mission.demanded_le_run ht _ (fun op hmem => by
      rw [hcalls] at hmem
      rcases List.mem_append.mp hmem with hold | hnew
      · exact hvotes _ hops op hold
      · rw [List.mem_singleton.mp hnew]
        trivial) hlatest
    rw [(WatchdogComponent.demanded_spec t _).1 hlow, ← hcycle] at hlevel
    exact WatchdogComponent.eq_emergency hlevel
  · obtain ⟨-, hfinal, hoffers, acts, hbattery, hticks, hhandled, hwaiting⟩ :=
      cutOff_run hemergency post hpost
    refine ⟨hfinal, hoffers, ⟨commandsOf acts, hhandled, hwaiting⟩, fun hsteady => ?_⟩
    have hstart : s₀.init.battery.Rated := s₀.battery.rated_init
    have hkeep (s : PowerSystem Out In EventOut EventIn) (op : SystemOp Out In EventOut EventIn)
        (hs : s.battery.Rated) : (s.step op).battery.Rated := rated_step hs op
    have hrated : s.battery.Rated := run_invariant hkeep hstart ops
    -- The commands that the battery still executes are among those that waited.
    have hacts : ∀ act ∈ acts, PowerComponent.Steady act := by
      intro act hact
      cases act with
      | tick | outputs => trivial
      | handleCommand cmd =>
        refine hsteady cmd ?_
        rw [hwaiting]
        exact List.mem_append_left _ (List.mem_filterMap.mpr ⟨_, hact, rfl⟩)
    have hdrained := (PowerComponent.drained_run hrated acts hacts).2
    rw [hticks, ← hbattery] at hdrained
    exact hdrained.charge

/-- A watchdog, a hub, and a battery whose samples go to the watchdog. -/
def flight : PowerSystem Unit Bool Unit Unit where
  mission :=
    { watchdog := MissionSystem.bare.watchdog
      commands := HubSystem.create (Component.create (ascii "CmdHub") 11) false ()
      hub_idx := MissionSystem.bare.hub_idx
      supervised := MissionSystem.bare.supervised
      gated := rfl }
  battery :=
    { PowerComponent.create (Component.create (ascii "BatterySystem") 200) with
      battery_out_internal := some (InputPort.create DEFAULT_QUEUE_DEPTH) }
  battery_in := true
  battery_in_ne := by decide
  handled := []

/-- The drain rate is set to 10, and nine ticks pass. -/
def nineTicks : List (SystemOp Unit Bool Unit Unit) :=
  [SystemOp.mission (MissionOp.command (HubOp.deliver true ⟨200, 2, Binary32.ofNat 10⟩)),
    SystemOp.handleCommand] ++ List.replicate 9 (SystemOp.tick 0)

/-- The tenth tick empties the battery, and the watchdog notices. -/
theorem discharge_is_final_tenth :
    (run step (run step flight.init nineTicks) [SystemOp.tick 0, SystemOp.mission
      (MissionOp.supervise (WatchdogOp.step (WatchdogComponent.corrupted [])))]).mission.watchdog.mission_state =
        MissionState.EMERGENCY :=
  (discharge_is_final flight BatteryThresholds.default (Or.inl ⟨rfl, rfl⟩) nineTicks
    (by simp [nineTicks, SystemOp.KeepsVotes])).1 0 (WatchdogComponent.corrupted [])
    (by decide +kernel) (by decide +kernel) (by decide +kernel)

end PowerSystem

end DeltaV
