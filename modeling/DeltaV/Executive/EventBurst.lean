import DeltaV.Executive.Mission
import DeltaV.Hub.Event

/-!
# Bursts of events

The event hub collects what waits at its sources and sends it to its listeners, among them the radio
and the recorder. The recorder steps in the same tier as the hub, so it takes nothing while the hub
sends, and its queue holds sixteen events: of the events that one step collects, it loses all but
sixteen at least. Every loss is an error of the hub, and the hub is passive and supervised, so its
errors are never cleared and stop the recovery. Three events too many keep the mission out of
`NOMINAL` for good, and ten keep it in `SAFE_MODE` or above (`bursts_latch`).

What the recorder gets is exact when it empties its queue between the steps of the hub, as the tier
has it: the first sixteen events of each step, and all events if and only if no step collects more
(`recorder_gets`).
-/

namespace DeltaV

/-- The watchdog, the event hub, and the ports of the hub. -/
structure EventSystem (In : Type*) where
  watchdog : WatchdogComponent
  events : EventHub In
  ports : In → InputPort EventPacket DEFAULT_QUEUE_DEPTH
  /-- The position at which the hub is registered with the watchdog. -/
  hub_idx : ℕ
  /-- The hub is supervised, as a passive subsystem. -/
  supervised : ∃ name, watchdog.subsystem hub_idx = some ⟨name, false⟩
  /-- The port that the watchdog sends its events to. -/
  watchdog_port : In
  watched : watchdog_port ∈ events.inputs
  /-- `radio.event_in`. -/
  radio : In
  /-- `recorder.event_in`. -/
  recorder : In
  radio_mem : radio ∈ events.listeners
  recorder_mem : recorder ∈ events.listeners
  radio_ne : radio ≠ recorder
  listeners_nodup : events.listeners.Nodup
  inputs_nodup : events.inputs.Nodup
  sources : ∀ i ∈ events.inputs, i ∉ events.listeners
  /-- The events that each step of the hub has collected. -/
  collected : List (List EventPacket)
  /-- The events that the recorder has taken. -/
  recorded : List EventPacket
  /-- The number of sends that a listener has refused. -/
  lost : ℕ

/-- What can happen next. -/
inductive EventOp (In : Type*) where
  /-- A call of the watchdog. -/
  | supervise (op : WatchdogOp)
  /-- A component sends an event to the port of a source. -/
  | publish (i : In) (evt : EventPacket)
  /-- The hub steps; the radio takes `taken n` events before the `n`th is sent. -/
  | broadcast (taken : ℕ → ℕ)
  /-- The recorder takes what waits in its port. -/
  | record
  /-- The owner of a listener other than the recorder takes events. -/
  | take (i : In) (count : ℕ)

namespace EventSystem

variable {In : Type*} [DecidableEq In]

omit [DecidableEq In] in
/-- No source is a given listener. -/
theorem ne_listener (s : EventSystem In) {i l : In} (hi : i ∈ s.events.inputs)
    (hl : l ∈ s.events.listeners) : i ≠ l := fun heq => s.sources i hi (heq ▸ hl)

/-- The events that wait at the sources, in the order in which the hub collects them. -/
def waiting (s : EventSystem In) : List EventPacket :=
  s.events.inputs.flatMap fun i => (s.ports i).pending

/-- The events that wait at the recorder. -/
def unrecorded (s : EventSystem In) : List EventPacket := (s.ports s.recorder).pending

/-- The events that the steps of the hub have collected beyond what the recorder can hold. -/
def excess (s : EventSystem In) : ℕ :=
  (s.collected.map fun evts => evts.length - DEFAULT_QUEUE_DEPTH).sum

/-- The answers of the subsystems, with those of the hub at its position. -/
def answers (s : EventSystem In) (inp : StepInput) : StepInput :=
  { inp with
    health := Function.update inp.health s.hub_idx s.events.base.reportHealth
    errorCount := Function.update inp.errorCount s.hub_idx s.events.base.error_count
    recoveryHealth := Function.update inp.recoveryHealth s.hub_idx s.events.base.reportHealth }

/-- The call with the answers of the hub. -/
def answered (s : EventSystem In) : WatchdogOp → WatchdogOp
  | WatchdogOp.step inp => WatchdogOp.step (s.answers inp)
  | op => op

/-- The watchdog with its port as it is. -/
def connected (s : EventSystem In) : WatchdogComponent :=
  { s.watchdog with event_out := some (s.ports s.watchdog_port) }

omit [DecidableEq In] in
/-- A call does not change what is registered. -/
theorem subsystem_apply (s : EventSystem In) (op : WatchdogOp) :
    (s.connected.apply op).subsystem s.hub_idx = s.watchdog.subsystem s.hub_idx := by
  rw [WatchdogComponent.subsystem, s.connected.monitored_systems_apply]
  rfl

/-- The owners of the listeners take nothing during a step of the hub, except for the radio, which
has a thread of its own. -/
def others (s : EventSystem In) (taken : ℕ → ℕ) (n : ℕ) (i : In) : ℕ :=
  if i = s.radio then taken n else 0

/-- The loop of the hub. -/
def sending (s : EventSystem In) (taken : ℕ → ℕ) : FanOut In EventPacket :=
  FanOut.step s.events.inputs s.events.listeners (s.others taken) (s.events.fanOut s.ports)

/-- The next state. -/
def step (s : EventSystem In) : EventOp In → EventSystem In
  | EventOp.supervise op =>
    let w := s.connected.apply (s.answered op)
    { s with
      watchdog := w
      supervised := by
        rw [s.subsystem_apply]
        exact s.supervised
      ports := Function.update s.ports s.watchdog_port
        (w.event_out.getD (s.ports s.watchdog_port)) }
  | EventOp.publish i evt =>
    if i ∈ s.events.inputs then
      { s with ports := Function.update s.ports i ((s.ports i).receive evt).1 }
    else s
  | EventOp.broadcast taken =>
    let r := s.events.step s.ports (s.others taken)
    { s with
      events := r.1
      ports := r.2
      collected := s.collected ++ [s.waiting]
      lost := s.lost + (s.sending taken).refused.length }
  | EventOp.record =>
    { s with
      ports := Function.update s.ports s.recorder (s.ports s.recorder).drain
      recorded := s.recorded ++ s.unrecorded }
  | EventOp.take i count =>
    if i ∈ s.events.listeners ∧ i ≠ s.recorder then
      { s with ports := Function.update s.ports i ((s.ports i).discard count) }
    else s

/-! ## A step of the hub -/

/-- During a step of the hub, the sources and the recorder are left alone. -/
theorem quiet_others (s : EventSystem In) (taken : ℕ → ℕ) {i : In} (hi : i ≠ s.radio) :
    FanOut.Quiet (s.others taken) i := fun _ => if_neg hi

/-- What a step of the hub does: it empties the sources, the recorder gets the first of the events
that wait there, as many as fit, and every send that is refused is an error. -/
structure Broadcasts (s s' : EventSystem In) : Prop where
  unrecorded_eq : s'.unrecorded =
    s.unrecorded ++ s.waiting.take (DEFAULT_QUEUE_DEPTH - s.unrecorded.length)
  lost_ge : s.lost + (s.waiting.length - (DEFAULT_QUEUE_DEPTH - s.unrecorded.length)) ≤ s'.lost
  errors_eq : s'.events.base.error_count =
    s.events.base.error_count + UInt32.ofNat (s'.lost - s.lost)

/-- A step of the hub does what `Broadcasts` says. -/
theorem broadcasts_step (s : EventSystem In) (taken : ℕ → ℕ) :
    Broadcasts s (s.step (EventOp.broadcast taken)) := by
  obtain ⟨-, -, hoffered⟩ := FanOut.step_spec s.inputs_nodup s.listeners_nodup s.sources
    (fun i hi => s.quiet_others taken (s.ne_listener hi s.radio_mem)) (s.events.fanOut s.ports)
  have hfed := hoffered s.recorder s.recorder_mem (s.quiet_others taken s.radio_ne.symm)
  obtain ⟨pairs, hrefused, -, herrors⟩ := FanOut.counted_step s.events.inputs s.events.listeners
    (s.others taken) (s.events.fanOut s.ports)
  have hpairs : (s.sending taken).refused = pairs := hrefused.trans (List.nil_append pairs)
  have hlost : (s.step (EventOp.broadcast taken)).lost = s.lost + pairs.length := by
    rw [← hpairs]
    rfl
  refine ⟨hfed.queue_eq, ?_, ?_⟩
  · -- What the recorder refuses is among the refused sends.
    have hrecorder' : ((s.sending taken).refused.filter (·.1 = s.recorder)).map (·.2) =
        s.waiting.drop (DEFAULT_QUEUE_DEPTH - s.unrecorded.length) :=
      hfed.refused_eq.trans (List.nil_append _)
    have hle := List.length_filter_le (fun r => decide (r.1 = s.recorder)) (s.sending taken).refused
    have hlength := congrArg List.length hrecorder'
    rw [List.length_map, List.length_drop] at hlength
    rw [hlost, ← hpairs, ← hlength]
    exact Nat.add_le_add_left hle _
  · rw [hlost, Nat.add_sub_cancel_left]
    exact herrors

/-! ## The errors of the hub -/

/-- The books of the hub: its errors are the refused sends, as long as their number fits, and among
these are the events beyond what the recorder can hold. -/
structure Accounted (s : EventSystem In) : Prop where
  errors_eq : s.events.base.error_count.toNat = s.lost % 2^32
  excess_le : s.excess ≤ s.lost

/-- Nothing has happened yet. -/
structure Fresh (s : EventSystem In) : Prop where
  errors_eq : s.events.base.error_count = 0
  collected_eq : s.collected = []
  recorded_eq : s.recorded = []
  unrecorded_eq : s.unrecorded = []
  lost_eq : s.lost = 0

omit [DecidableEq In] in
/-- The books of a system in which nothing has happened are in order. -/
theorem Fresh.accounted {s : EventSystem In} (h : s.Fresh) : s.Accounted := by
  constructor
  · rw [h.errors_eq, h.lost_eq]
    rfl
  · rw [excess, h.collected_eq]
    exact Nat.zero_le _

/-- Every operation keeps the books, and loses nothing that is lost. -/
theorem Accounted.step {s : EventSystem In} (h : s.Accounted) (op : EventOp In) :
    (s.step op).Accounted ∧ s.lost ≤ (s.step op).lost := by
  cases op with
  | supervise op => exact ⟨⟨h.errors_eq, h.excess_le⟩, le_rfl⟩
  | publish i evt =>
    simp only [EventSystem.step]
    split_ifs
    · exact ⟨⟨h.errors_eq, h.excess_le⟩, le_rfl⟩
    · exact ⟨h, le_rfl⟩
  | take i count =>
    simp only [EventSystem.step]
    split_ifs
    · exact ⟨⟨h.errors_eq, h.excess_le⟩, le_rfl⟩
    · exact ⟨h, le_rfl⟩
  | record => exact ⟨⟨h.errors_eq, h.excess_le⟩, le_rfl⟩
  | broadcast taken =>
    have hstep := s.broadcasts_step taken
    have hlost := hstep.lost_ge
    have hmono : s.lost ≤ (s.step (EventOp.broadcast taken)).lost :=
      (Nat.le_add_right _ _).trans hlost
    have hexcess : (s.step (EventOp.broadcast taken)).excess =
        s.excess + (s.waiting.length - DEFAULT_QUEUE_DEPTH) := by
      show ((s.collected ++ [s.waiting]).map _).sum = _
      rw [List.map_append, List.sum_append]
      simp [excess]
    have hcovered := h.excess_le
    refine ⟨⟨?_, by omega⟩, hmono⟩
    rw [hstep.errors_eq, UInt32.toNat_add, UInt32.toNat_ofNat', h.errors_eq]
    omega

/-- The books over a run. -/
theorem accounted_run {s : EventSystem In} (h : s.Accounted) (ops : List (EventOp In)) :
    (run step s ops).Accounted ∧ s.lost ≤ (run step s ops).lost := by
  have hkeep (s' : EventSystem In) (op : EventOp In) (hs' : s'.Accounted ∧ s.lost ≤ s'.lost) :
      (s'.step op).Accounted ∧ s.lost ≤ (s'.step op).lost :=
    ⟨(hs'.1.step op).1, hs'.2.trans (hs'.1.step op).2⟩
  exact run_invariant hkeep ⟨h, le_rfl⟩ ops

omit [DecidableEq In] in
/-- Errors that are not lost to a wrap demand no less later. -/
theorem level_le {s s' : EventSystem In} (h : s.Accounted) (h' : s'.Accounted)
    (hle : s.lost ≤ s'.lost) (hfits : s'.lost < 2^32) :
    s.events.base.reportHealth.level ≤ s'.events.base.reportHealth.level := by
  refine Component.level_mono ?_
  rw [h.errors_eq, h'.errors_eq, Nat.mod_eq_of_lt hfits, Nat.mod_eq_of_lt (hle.trans_lt hfits)]
  exact hle

omit [DecidableEq In] in
/-- A call of the watchdog keeps a level that the errors of the hub demand. -/
theorem le_toNat_supervise (s : EventSystem In) {level : ℕ}
    (hdemanded : level ≤ s.events.base.reportHealth.level)
    (op : WatchdogOp) (hreached : level ≤ s.watchdog.mission_state.toNat ∨
      ∃ inp, op = WatchdogOp.step inp) :
    level ≤ (s.connected.apply (s.answered op)).mission_state.toNat := by
  obtain ⟨name, hsupervised⟩ := s.supervised
  have hconnected : s.connected.subsystem s.hub_idx = some ⟨name, false⟩ := hsupervised
  have hcycle (inp : StepInput) :
      level ≤ (s.connected.apply (WatchdogOp.step (s.answers inp))).mission_state.toNat := by
    have hhealth : (s.answers inp).health s.hub_idx = s.events.base.reportHealth :=
      Function.update_self ..
    have hrecovery : (s.answers inp).recoveryHealth s.hub_idx = s.events.base.reportHealth :=
      Function.update_self ..
    have hlevel := s.connected.level_le_step (s.answers inp) hconnected fun hwell =>
      hhealth.trans (hrecovery.symm.trans hwell)
    rw [hhealth] at hlevel
    exact hdemanded.trans hlevel
  cases op with
  | step inp => exact hcycle inp
  | injectBatteryLevel | pollSchedulerHealth | pollPortOverflow | eventPort | thresholdStores =>
    have hbefore : level ≤ s.connected.mission_state.toNat := by
      rcases hreached with h | ⟨inp, h⟩
      · exact h
      · cases h
    exact hbefore.trans (s.connected.toNat_le_apply _ nofun)

/-- The mission state has reached a level that the errors of the hub demand. -/
structure Latched (level : ℕ) (s : EventSystem In) : Prop where
  accounted : s.Accounted
  demanded : level ≤ s.events.base.reportHealth.level
  reached : level ≤ s.watchdog.mission_state.toNat

/-- What is latched stays latched. -/
theorem Latched.step {level : ℕ} {s : EventSystem In} (h : Latched level s) (op : EventOp In)
    (hfits : (s.step op).lost < 2^32) : Latched level (s.step op) := by
  obtain ⟨hbooks, hmono⟩ := h.accounted.step op
  refine ⟨hbooks, h.demanded.trans (level_le h.accounted hbooks hmono hfits), ?_⟩
  cases op with
  | supervise op => exact s.le_toNat_supervise h.demanded op (Or.inl h.reached)
  | publish | take =>
    simp only [EventSystem.step]
    split_ifs <;> exact h.reached
  | broadcast | record => exact h.reached

/-- What is latched stays latched over a run. -/
theorem Latched.run {level : ℕ} {s : EventSystem In} (h : Latched level s)
    (ops : List (EventOp In)) (hfits : (DeltaV.run EventSystem.step s ops).lost < 2^32) :
    Latched level (DeltaV.run EventSystem.step s ops) := by
  induction ops using List.reverseRecOn with
  | nil => exact h
  | append_singleton ops op ih =>
    rw [run_concat] at hfits ⊢
    have hbooks := (accounted_run h.accounted ops).1
    exact (ih ((hbooks.step op).2.trans_lt hfits)).step op hfits

/-- Bursts of events are latched, over every interleaving of watchdog, sources, hub, recorder, radio,
and further listeners in which fewer than `2^32` sends are refused. Count in each step of the hub
the events that it collects beyond sixteen. From the first cycle of the watchdog after the third of
them, the mission state is `DEGRADED` or above and restricted commands are illegal; after the tenth
it is `SAFE_MODE` or above and only housekeeping commands are legal. Nothing ends this. -/
theorem bursts_latch (s₀ : EventSystem In) (hfresh : s₀.Fresh) (pre post : List (EventOp In))
    (inp : StepInput) :
    let excess := (run step s₀ pre).excess
    let s := run step s₀ (pre ++ EventOp.supervise (WatchdogOp.step inp) :: post)
    s.lost < 2^32 →
      (3 ≤ excess → MissionState.DEGRADED.toNat ≤ s.watchdog.mission_state.toNat ∧
          ∀ cls, MissionFsm.isAllowed (UInt8.ofNat s.watchdog.mission_state.toNat) cls = true →
            cls ≠ OpClass.RESTRICTED) ∧
        (10 ≤ excess → MissionState.SAFE_MODE.toNat ≤ s.watchdog.mission_state.toNat ∧
          ∀ cls, MissionFsm.isAllowed (UInt8.ofNat s.watchdog.mission_state.toNat) cls = true →
            cls = OpClass.HOUSEKEEPING) := by
  intro excess s hfits
  have hbooks := (accounted_run hfresh.accounted pre).1
  set mid := run step s₀ pre with hmid
  set cycle : EventOp In := EventOp.supervise (WatchdogOp.step inp)
  obtain ⟨hnext, hsame⟩ := hbooks.step cycle
  have hrun : s = run step (mid.step cycle) post := by
    rw [hmid, ← run_cons, ← run_append]
  rw [hrun] at hfits ⊢
  have hfits' : (mid.step cycle).lost < 2^32 := (accounted_run hnext post).2.trans_lt hfits
  have hcovered : excess ≤ mid.events.base.error_count.toNat := by
    rw [hbooks.errors_eq, Nat.mod_eq_of_lt (hsame.trans_lt hfits')]
    exact hbooks.excess_le
  -- The cycle reaches the level, and the rest of the run keeps it.
  have hlatch (level : ℕ) (hlevel : level ≤ mid.events.base.reportHealth.level) :
      level ≤ (run step (mid.step cycle) post).watchdog.mission_state.toNat := by
    have hcycle : Latched level (mid.step cycle) :=
      ⟨hnext, hlevel, mid.le_toNat_supervise hlevel _ (Or.inr ⟨inp, rfl⟩)⟩
    exact (hcycle.run post hfits).reached
  obtain ⟨hthree, hten⟩ := mid.events.base.level_spec
  refine ⟨fun h => ?_, fun h => ?_⟩
  · have hreached := hlatch _ (hthree (h.trans hcovered))
    exact ⟨hreached, fun cls hlegal => (MissionSystem.class_of_allowed hlegal).1 hreached⟩
  · have hreached := hlatch _ (hten (h.trans hcovered))
    exact ⟨hreached, fun cls hlegal => (MissionSystem.class_of_allowed hlegal).2.1 hreached⟩

/-! ## What the recorder gets -/

/-- The recorder has emptied its queue when the hub steps. -/
def Emptied (s : EventSystem In) : EventOp In → Prop
  | EventOp.broadcast _ => s.unrecorded = []
  | _ => True

/-- The recorder has got the first sixteen events of each step. -/
def Received (s : EventSystem In) : Prop :=
  s.recorded ++ s.unrecorded = (s.collected.map (List.take DEFAULT_QUEUE_DEPTH)).flatten

/-- The port of the recorder changes only when the hub sends and when the recorder takes. -/
theorem unrecorded_update (s : EventSystem In) {i : In} (hi : i ≠ s.recorder)
    (port : InputPort EventPacket DEFAULT_QUEUE_DEPTH) :
    (Function.update s.ports i port s.recorder).pending = s.unrecorded := by
  rw [Function.update_of_ne hi.symm]
  rfl

/-- Every operation keeps what the recorder has got, if its queue is empty when the hub steps. -/
theorem Received.step {s : EventSystem In} (h : s.Received) (op : EventOp In)
    (hop : s.Emptied op) : (s.step op).Received := by
  have hsame {s' : EventSystem In} (hrecorded : s'.recorded = s.recorded)
      (hunrecorded : s'.unrecorded = s.unrecorded) (hcollected : s'.collected = s.collected) :
      s'.Received := by
    unfold Received
    rw [hrecorded, hunrecorded, hcollected]
    exact h
  cases op with
  | supervise op =>
    exact hsame rfl (s.unrecorded_update (s.ne_listener s.watched s.recorder_mem) _) rfl
  | publish i evt =>
    simp only [EventSystem.step]
    split_ifs with hi
    · exact hsame rfl (s.unrecorded_update (s.ne_listener hi s.recorder_mem) _) rfl
    · exact h
  | take i count =>
    simp only [EventSystem.step]
    split_ifs with hi
    · exact hsame rfl (s.unrecorded_update hi.2 _) rfl
    · exact h
  | record =>
    have hempty : (s.step EventOp.record).unrecorded = [] := by
      show (Function.update s.ports s.recorder (s.ports s.recorder).drain s.recorder).pending = []
      rw [Function.update_self]
      exact (s.ports s.recorder).pending_drain
    unfold Received
    rw [hempty, List.append_nil]
    exact h
  | broadcast taken =>
    -- What is lost is what does not fit into the empty queue, so the first ones are kept.
    have hempty : s.unrecorded = [] := hop
    have hsent := (s.broadcasts_step taken).unrecorded_eq
    rw [hempty, List.nil_append, List.length_nil, Nat.sub_zero] at hsent
    unfold Received at h
    rw [hempty, List.append_nil] at h
    show s.recorded ++ _ = ((s.collected ++ [s.waiting]).map _).flatten
    rw [hsent, h, List.map_append, List.flatten_append]
    simp

omit [DecidableEq In] in
/-- What is cut off is the excess. -/
theorem length_taken (s : EventSystem In) :
    (s.collected.map (List.take DEFAULT_QUEUE_DEPTH)).flatten.length + s.excess =
      s.collected.flatten.length := by
  unfold excess
  induction s.collected with
  | nil => rfl
  | cons evts collected ih =>
    simp only [List.map_cons, List.flatten_cons, List.length_append, List.sum_cons,
      List.length_take]
    omega

omit [DecidableEq In] in
/-- Without excess nothing is cut off. -/
theorem taken_of_excess_eq_zero {s : EventSystem In} (h : s.excess = 0) :
    (s.collected.map (List.take DEFAULT_QUEUE_DEPTH)).flatten = s.collected.flatten := by
  unfold excess at h
  generalize s.collected = collected at h ⊢
  induction collected with
  | nil => rfl
  | cons evts collected ih =>
    rw [List.map_cons, List.sum_cons] at h
    rw [List.map_cons, List.flatten_cons, List.flatten_cons, List.take_of_length_le (by omega),
      ih (by omega)]

/-- Over every run in which the recorder empties its queue between the steps of the hub, it gets
exactly the first sixteen events of each step, in order and whatever the other listeners take. It
gets all events if and only if no step collects more than sixteen. -/
theorem recorder_gets (s₀ : EventSystem In) (hfresh : s₀.Fresh) (ops : List (EventOp In))
    (hops : Along step Emptied s₀ ops) :
    let s := run step s₀ ops
    s.recorded ++ s.unrecorded = (s.collected.map (List.take DEFAULT_QUEUE_DEPTH)).flatten ∧
      (s.recorded ++ s.unrecorded = s.collected.flatten ↔ s.excess = 0) := by
  intro s
  have hstart : s₀.Received := by
    unfold Received
    rw [hfresh.recorded_eq, hfresh.unrecorded_eq, hfresh.collected_eq]
    rfl
  have hkeep (s : EventSystem In) (op : EventOp In) (h : s.Received) (hop : s.Emptied op) :
      (s.step op).Received := h.step op hop
  have hreceived : s.Received := run_invariant_along hkeep hstart hops
  refine ⟨hreceived, ?_⟩
  rw [hreceived]
  refine ⟨fun hall => ?_, taken_of_excess_eq_zero⟩
  have hlength := s.length_taken
  rw [hall] at hlength
  omega

/-- A hub with three sources, and the radio, the recorder, and a sequencer as listeners. -/
def threeSources : EventHub (Fin 6) :=
  ⟨Component.create (ascii "EventHub") 12, [0, 1, 2], by decide, [3, 4, 5], by decide⟩

/-- The hub with a watchdog at its first source, and empty ports. -/
def quietBoot : EventSystem (Fin 6) where
  watchdog := WatchdogComponent.supervisor.registerSubsystem (some ⟨ascii "EventHub", false⟩)
  events := threeSources
  ports := fun _ => InputPort.create DEFAULT_QUEUE_DEPTH
  hub_idx := 0
  supervised := ⟨ascii "EventHub", rfl⟩
  watchdog_port := 0
  watched := List.mem_cons_self
  radio := 3
  recorder := 4
  radio_mem := show (3 : Fin 6) ∈ [3, 4, 5] by decide
  recorder_mem := show (4 : Fin 6) ∈ [3, 4, 5] by decide
  radio_ne := by decide
  listeners_nodup := show [(3 : Fin 6), 4, 5].Nodup by decide
  inputs_nodup := show [(0 : Fin 6), 1, 2].Nodup by decide
  sources := show ∀ i ∈ [(0 : Fin 6), 1, 2], i ∉ [(3 : Fin 6), 4, 5] by decide
  collected := []
  recorded := []
  lost := 0

/-- Nothing has happened in `quietBoot`. -/
theorem fresh_quietBoot : quietBoot.Fresh := ⟨rfl, rfl, rfl, rfl, rfl⟩

/-- Two sources send sixteen and ten events before the hub steps. -/
def burst : List (EventOp (Fin 6)) :=
  List.replicate 16 (EventOp.publish 1 (EventPacket.create Severity.INFO 11 (ascii "ACK"))) ++
    List.replicate 10 (EventOp.publish 2 (EventPacket.create Severity.INFO 200 (ascii "BATT"))) ++
    [EventOp.broadcast fun _ => 1]

/-- A burst of 26 events keeps the mission in `SAFE_MODE` or above. -/
theorem bursts_latch_twentySix :
    MissionState.SAFE_MODE.toNat ≤ (run step quietBoot (burst ++ [EventOp.supervise
      (WatchdogOp.step (WatchdogComponent.corrupted []))])).watchdog.mission_state.toNat :=
  ((bursts_latch quietBoot fresh_quietBoot burst [] (WatchdogComponent.corrupted [])
    (by decide +kernel)).2 (by decide +kernel)).1

/-- A source sends an event, the hub sends it on, and the recorder takes it. -/
def acknowledged : List (EventOp (Fin 6)) :=
  [EventOp.publish 1 (EventPacket.create Severity.INFO 11 (ascii "ACK")),
    EventOp.broadcast fun _ => 0, EventOp.record]

/-- The recorder has taken nothing before the only step of the hub. -/
theorem emptied_acknowledged : Along step Emptied quietBoot acknowledged :=
  ⟨trivial, List.isEmpty_iff.mp (by decide +kernel), trivial, trivial⟩

/-- An event that a source sends is recorded. -/
theorem recorder_gets_ack :
    let s := run step quietBoot acknowledged
    s.recorded ++ s.unrecorded = s.collected.flatten :=
  (recorder_gets quietBoot fresh_quietBoot acknowledged emptied_acknowledged).2.mpr
    (by decide +kernel)

end EventSystem

end DeltaV
