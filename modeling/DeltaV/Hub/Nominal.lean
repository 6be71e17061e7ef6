import DeltaV.Hub.Telemetry

/-!
# Telemetry at nominal rates

The telemetry wiring of the topology, and the schedule of its tiers: a FAST tick steps the star
tracker and the IMU, and a NORM tick steps the other components in the order of `registerAll`, the
hub before the listeners it feeds. In a NORM tick the hub offers everything that waits in its inputs
to the recorder and to the limit checker before either takes a packet, so nothing is refused exactly
when at most `DEFAULT_QUEUE_DEPTH` packets wait (`lossless_iff_fits`). Ten FAST ticks leave twenty.
-/

namespace DeltaV

/-! ## The topology -/

/-- The components with a telemetry port, in the order of `wireTelemetry`. -/
inductive TelemSource where
  | cmd_sequencer
  | file_transfer
  | memory_dwell
  | time_sync
  | playback
  | ota_manager
  | ats_rts
  | limit_checker
  | cfdp_manager
  | mode_manager
  | star_tracker
  | battery
  | imu_unit
  | payload_monitor
deriving DecidableEq, Repr

namespace TelemSource

/-- The identifier of a component. -/
def getId : TelemSource → UInt32
  | cmd_sequencer => 40
  | file_transfer => 41
  | memory_dwell => 42
  | time_sync => 43
  | playback => 44
  | ota_manager => 45
  | ats_rts => 46
  | limit_checker => 47
  | cfdp_manager => 48
  | mode_manager => 49
  | star_tracker => 100
  | battery => 200
  | imu_unit => 300
  | payload_monitor => 400

end TelemSource

/-- The owners of the ports that the hub sends to. -/
inductive TelemListener where
  | radio
  | recorder
  | limit_checker
deriving DecidableEq, Repr

/-- The telemetry hub of the topology among its ports. -/
abbrev Telemetry := TelemetrySystem TelemSource TelemListener TelemetryPacket

namespace Telemetry

open TelemSource

/-- `wireTelemetry()`. -/
def wireTelemetry (s : Telemetry) : Telemetry :=
  let s := (s.registerListener (some TelemListener.radio)).registerListener
    (some TelemListener.recorder)
  [cmd_sequencer, file_transfer, memory_dwell, time_sync, playback, ota_manager, ats_rts,
    TelemSource.limit_checker, cfdp_manager, mode_manager, star_tracker, battery, imu_unit,
    payload_monitor].foldl TelemetrySystem.connectInput s

/-- The part of `wireCustom()` that concerns telemetry. -/
def wireCustom (s : Telemetry) : Telemetry :=
  s.registerListener (some TelemListener.limit_checker)

/-- The topology as wired. -/
def wired : Telemetry :=
  wireCustom (wireTelemetry (TelemetrySystem.create (Component.create (ascii "TelemHub") 10)))

/-! ## The schedule -/

/-- The components of the NORM tier. -/
inductive NormComponent where
  | watchdog
  | telem_hub
  | cmd_hub
  | event_hub
  | recorder
  | cmd_sequencer
  | file_transfer
  | memory_dwell
  | time_sync
  | playback
  | ota_manager
  | ats_rts
  | limit_checker
  | cfdp_manager
  | mode_manager
  | battery
  | payload_monitor
deriving DecidableEq, Repr

/-- The NORM tier in the order of `registerAll`. -/
def normTier : List NormComponent :=
  [NormComponent.watchdog, NormComponent.telem_hub, NormComponent.cmd_hub, NormComponent.event_hub,
    NormComponent.recorder, NormComponent.cmd_sequencer, NormComponent.file_transfer,
    NormComponent.memory_dwell, NormComponent.time_sync, NormComponent.playback,
    NormComponent.ota_manager, NormComponent.ats_rts, NormComponent.limit_checker,
    NormComponent.cfdp_manager, NormComponent.mode_manager, NormComponent.battery,
    NormComponent.payload_monitor]

/-- The time and the value of a telemetry packet. -/
structure Sample where
  timestamp_ms : UInt32
  value : Binary32
deriving DecidableEq, Repr, Inhabited

/-- What the components report in a NORM tick. -/
structure NormInput where
  sample : TelemSource → Sample
  /-- Whether the period of the memory dwell service has elapsed. -/
  dwell_due : Bool
  /-- How many packets the radio takes before the hub sends on its `n`th packet. -/
  radio : ℕ → ℕ

/-- A tick of a tier, or a step of the radio on its own thread. -/
inductive Tick where
  | fast (star imu : Sample)
  | norm (inp : NormInput)
  | radio (count : ℕ)

/-- A component sends its telemetry packet. -/
def report (s : Telemetry) (source : TelemSource) (sample : Sample) : Telemetry :=
  s.publish source ⟨sample.timestamp_ms, source.getId, sample.value⟩

/-- What the radio takes while the hub steps; the other listeners are not active components. -/
def radioTakes (radio : ℕ → ℕ) (n : ℕ) : TelemListener → ℕ
  | TelemListener.radio => radio n
  | TelemListener.recorder | TelemListener.limit_checker => 0

/-- The telemetry part of a component's step, when no commands arrive: playback is idle, the memory
dwell service samples when its period has elapsed, and the others report every time. -/
def stepComponent (inp : NormInput) (s : Telemetry) : NormComponent → Telemetry
  | NormComponent.watchdog | NormComponent.cmd_hub | NormComponent.event_hub
  | NormComponent.playback => s
  | NormComponent.telem_hub => s.step (radioTakes inp.radio)
  | NormComponent.recorder => s.drain TelemListener.recorder
  | NormComponent.cmd_sequencer => report s cmd_sequencer (inp.sample cmd_sequencer)
  | NormComponent.file_transfer => report s file_transfer (inp.sample file_transfer)
  | NormComponent.memory_dwell =>
    if inp.dwell_due then report s memory_dwell (inp.sample memory_dwell) else s
  | NormComponent.time_sync => report s time_sync (inp.sample time_sync)
  | NormComponent.ota_manager => report s ota_manager (inp.sample ota_manager)
  | NormComponent.ats_rts => report s ats_rts (inp.sample ats_rts)
  | NormComponent.limit_checker =>
    report (s.drain TelemListener.limit_checker) TelemSource.limit_checker
      (inp.sample TelemSource.limit_checker)
  | NormComponent.cfdp_manager => report s cfdp_manager (inp.sample cfdp_manager)
  | NormComponent.mode_manager => report s mode_manager (inp.sample mode_manager)
  | NormComponent.battery => report s battery (inp.sample battery)
  | NormComponent.payload_monitor => report s payload_monitor (inp.sample payload_monitor)

/-- The telemetry part of a tick. -/
def tick (s : Telemetry) : Tick → Telemetry
  | Tick.fast star imu => report (report s star_tracker star) imu_unit imu
  | Tick.norm inp => normTier.foldl (stepComponent inp) s
  | Tick.radio count => s.take TelemListener.radio count

/-- The ticks follow the nominal schedule: `lead` FAST ticks before the next NORM tick, and ten
between one NORM tick and the next. The radio steps at any time. -/
def Nominal : ℕ → List Tick → Prop
  | _, [] => True
  | lead, Tick.radio _ :: ticks => Nominal lead ticks
  | lead + 1, Tick.fast _ _ :: ticks => Nominal lead ticks
  | 0, Tick.norm _ :: ticks => Nominal 10 ticks
  | _, _ => False

/-- The number of NORM ticks. -/
def normTicks : List Tick → ℕ
  | [] => 0
  | Tick.norm _ :: ticks => normTicks ticks + 1
  | _ :: ticks => normTicks ticks

/-- The hub has never had a packet refused by the recorder or the limit checker. -/
def Lossless (s : Telemetry) : Prop :=
  s.refusedBy TelemListener.recorder = [] ∧ s.refusedBy TelemListener.limit_checker = []

/-! ## The wiring -/

/-- The input of the hub that a component is connected to. -/
def inputOf (source : TelemSource) : TelemPort TelemListener :=
  TelemPort.internal (match source with
    | cmd_sequencer => 0
    | file_transfer => 1
    | memory_dwell => 2
    | time_sync => 3
    | playback => 4
    | ota_manager => 5
    | ats_rts => 6
    | TelemSource.limit_checker => 7
    | cfdp_manager => 8
    | mode_manager => 9
    | star_tracker => 10
    | battery => 11
    | imu_unit => 12
    | payload_monitor => 13)

/-- No two components share an input. -/
theorem inputOf_ne {a b : TelemSource} (h : a ≠ b) : inputOf a ≠ inputOf b := by
  revert h
  cases a <;> cases b <;> decide

/-- The inputs of the hub are not the ports of its listeners. -/
theorem inputOf_ne_listener (source : TelemSource) (l : TelemListener) :
    inputOf source ≠ TelemPort.listener l := by
  rintro ⟨⟩

/-- The connections are those of the topology. -/
structure Wired (s : Telemetry) : Prop where
  input_count : s.hub.input_count = 14
  outputs : s.hub.internal_outputs =
    [TelemListener.radio, TelemListener.recorder, TelemListener.limit_checker]
  connected : ∀ source, s.bus.connected source = some (inputOf source)

/-- The topology has the wiring that is asked for. -/
theorem wired_wired : wired.Wired where
  input_count := rfl
  outputs := rfl
  connected source := by cases source <;> rfl

/-- The number of packets that a component has waiting at the hub. -/
def queued (s : Telemetry) (source : TelemSource) : ℕ := (s.pending (inputOf source)).length

/-- The packets waiting at the hub, counted by component. -/
theorem Wired.length_waiting {s : Telemetry} (h : s.Wired) :
    s.waiting.length = s.queued cmd_sequencer + s.queued file_transfer + s.queued memory_dwell +
      s.queued time_sync + s.queued playback + s.queued ota_manager + s.queued ats_rts +
      s.queued TelemSource.limit_checker + s.queued cfdp_manager + s.queued mode_manager +
      s.queued star_tracker + s.queued battery + s.queued imu_unit + s.queued payload_monitor := by
  unfold TelemetrySystem.waiting TelemetrySystem.inputs
  rw [h.input_count]
  simp [List.range_succ, queued, inputOf, Nat.add_assoc]

/-! ## The rest of a NORM tick -/

/-- What a component other than the hub does in a NORM tick: it fills no input of the FAST tier and
no listener, and records no refused send of the hub. -/
structure Quiet (s s' : Telemetry) : Prop where
  wired : s.Wired → s'.Wired
  refused : s'.refused = s.refused
  star_tracker : s.Wired → s'.queued star_tracker = s.queued star_tracker
  imu_unit : s.Wired → s'.queued imu_unit = s.queued imu_unit
  listener : ∀ l, s.Wired → s.pending (TelemPort.listener l) = [] →
    s'.pending (TelemPort.listener l) = []

/-- A component that does nothing is quiet. -/
theorem Quiet.refl (s : Telemetry) : Quiet s s :=
  ⟨id, rfl, fun _ => rfl, fun _ => rfl, fun _ _ => id⟩

/-- Quiet steps one after the other are quiet. -/
theorem Quiet.trans {a b c : Telemetry} (h : Quiet a b) (h' : Quiet b c) : Quiet a c where
  wired hw := h'.wired (h.wired hw)
  refused := h'.refused.trans h.refused
  star_tracker hw := (h'.star_tracker (h.wired hw)).trans (h.star_tracker hw)
  imu_unit hw := (h'.imu_unit (h.wired hw)).trans (h.imu_unit hw)
  listener l hw hl := h'.listener l (h.wired hw) (h.listener l hw hl)

/-- A report keeps the wiring. -/
theorem Wired.report {s : Telemetry} (h : s.Wired) (source : TelemSource) (sample : Sample) :
    (report s source sample).Wired where
  input_count := h.input_count
  outputs := h.outputs
  connected o := by
    rw [Telemetry.report, TelemetrySystem.publish]
    simpa using h.connected o

/-- A report waits in the input of its component, if there is room, and in no other port. -/
theorem Wired.queued_report {s : Telemetry} (h : s.Wired) (source : TelemSource) (sample : Sample) :
    (Telemetry.report s source sample).queued source =
        min DEFAULT_QUEUE_DEPTH (s.queued source + 1) ∧
      (∀ other ≠ source, (Telemetry.report s source sample).queued other = s.queued other) ∧
      ∀ l, (Telemetry.report s source sample).pending (TelemPort.listener l) =
        s.pending (TelemPort.listener l) := by
  obtain ⟨hother, hlen⟩ := s.pending_publish (h.connected source)
    ⟨sample.timestamp_ms, source.getId, sample.value⟩
  refine ⟨hlen, fun other hne => ?_, fun l => hother _ (inputOf_ne_listener source l).symm⟩
  exact congrArg List.length (hother _ (inputOf_ne hne))

/-- A report of a component outside the FAST tier. -/
theorem quiet_report (s : Telemetry) (source : TelemSource) (sample : Sample)
    (hne : star_tracker ≠ source ∧ imu_unit ≠ source) : Quiet s (report s source sample) where
  wired h := h.report source sample
  refused := rfl
  star_tracker h := (h.queued_report source sample).2.1 _ hne.1
  imu_unit h := (h.queued_report source sample).2.1 _ hne.2
  listener l h hl := ((h.queued_report source sample).2.2 l).trans hl

/-- A listener that is drained. -/
theorem quiet_drain (s : Telemetry) (l : TelemListener) : Quiet s (s.drain l) where
  wired h := ⟨h.input_count, h.outputs, h.connected⟩
  refused := rfl
  star_tracker _ := congrArg List.length ((s.pending_drain l).2 _ (inputOf_ne_listener _ l))
  imu_unit _ := congrArg List.length ((s.pending_drain l).2 _ (inputOf_ne_listener _ l))
  listener l' _ hl := by
    by_cases h : l' = l
    · rw [h]
      exact (s.pending_drain l).1
    · rw [(s.pending_drain l).2 _ fun heq => h (TelemPort.listener.inj heq), hl]

/-- Every component of the NORM tier but the hub is quiet. -/
theorem quiet_stepComponent (inp : NormInput) (s : Telemetry) {c : NormComponent}
    (h : c ≠ NormComponent.telem_hub) : Quiet s (stepComponent inp s c) := by
  cases c with
  | telem_hub => exact absurd rfl h
  | watchdog | cmd_hub | event_hub | playback => exact Quiet.refl s
  -- The listeners empty their own queues only.
  | recorder => exact quiet_drain s _
  | limit_checker => exact (quiet_drain s _).trans (quiet_report _ _ _ (by decide))
  | memory_dwell =>
    unfold stepComponent
    split_ifs
    · exact quiet_report s _ _ (by decide)
    · exact Quiet.refl s
  | cmd_sequencer | file_transfer | time_sync | ota_manager | ats_rts | cfdp_manager | mode_manager
  | battery | payload_monitor => exact quiet_report s _ _ (by decide)

/-- The components without the hub are quiet one after the other. -/
theorem quiet_fold (inp : NormInput) (s : Telemetry) {cs : List NormComponent}
    (h : NormComponent.telem_hub ∉ cs) : Quiet s (cs.foldl (stepComponent inp) s) := by
  induction cs generalizing s with
  | nil => exact Quiet.refl s
  | cons c cs ih =>
    have hc : c ≠ NormComponent.telem_hub := fun heq => h (heq ▸ List.mem_cons_self)
    exact (quiet_stepComponent inp s hc).trans (ih _ (List.not_mem_of_not_mem_cons h))

/-- A component that drains its listener leaves it empty at the end of the tick. -/
theorem drained_fold (inp : NormInput) {s : Telemetry} (hs : s.Wired) {cs : List NormComponent}
    (h : NormComponent.telem_hub ∉ cs) {c : NormComponent} (hc : c ∈ cs) {l : TelemListener}
    (hdrain : ∀ s' : Telemetry, s'.Wired →
      (stepComponent inp s' c).pending (TelemPort.listener l) = []) :
    (cs.foldl (stepComponent inp) s).pending (TelemPort.listener l) = [] := by
  -- What steps later sends nothing to a listener.
  obtain ⟨before, after, rfl⟩ := List.append_of_mem hc
  rw [List.mem_append, not_or] at h
  obtain ⟨hbefore, hafter⟩ := h
  rw [List.foldl_append, List.foldl_cons]
  have hwired := (quiet_fold inp s hbefore).wired hs
  have hquiet := quiet_stepComponent inp (before.foldl (stepComponent inp) s)
    fun heq => hafter (heq ▸ List.mem_cons_self)
  exact (quiet_fold inp _ (List.not_mem_of_not_mem_cons hafter)).listener l (hquiet.wired hwired)
    (hdrain _ hwired)

/-! ## One tick -/

/-- What holds between ticks: the recorder and the limit checker have taken everything. -/
structure Inv (s : Telemetry) : Prop where
  wired : s.Wired
  recorder : s.pending (TelemPort.listener TelemListener.recorder) = []
  limit_checker : s.pending (TelemPort.listener TelemListener.limit_checker) = []

/-- The invariant holds of the topology as wired. -/
theorem inv_wired : wired.Inv := ⟨wired_wired, rfl, rfl⟩

/-- The components that step after the hub. -/
def afterHub : List NormComponent := normTier.drop 2

/-- The hub is not among the components that step after it. -/
theorem telem_hub_notMem_afterHub : NormComponent.telem_hub ∉ afterHub := by decide

/-- The watchdog comes before the hub, and the other components after it. -/
theorem tick_norm (s : Telemetry) (inp : NormInput) :
    s.tick (Tick.norm inp) =
      afterHub.foldl (stepComponent inp) (stepComponent inp s NormComponent.telem_hub) := by
  have htier : normTier = NormComponent.watchdog :: NormComponent.telem_hub :: afterHub := rfl
  rw [tick, htier, List.foldl_cons, List.foldl_cons, stepComponent]

/-- The step of the hub empties its inputs, and the recorder and the limit checker refuse the
packets beyond the depth of their queues. -/
theorem Inv.hub {s : Telemetry} (h : s.Inv) (inp : NormInput) :
    (stepComponent inp s NormComponent.telem_hub).Wired ∧
      (∀ source, (stepComponent inp s NormComponent.telem_hub).queued source = 0) ∧
      ∀ l, l ≠ TelemListener.radio →
        (stepComponent inp s NormComponent.telem_hub).refusedBy l =
          s.refusedBy l ++ s.waiting.drop DEFAULT_QUEUE_DEPTH := by
  have hnodup : s.hub.internal_outputs.Nodup := by
    rw [h.wired.outputs]
    decide
  obtain ⟨hempty, hfed⟩ := TelemetrySystem.step_spec s hnodup (radioTakes inp.radio)
  rw [h.wired.input_count] at hempty
  unfold stepComponent
  refine ⟨⟨h.wired.input_count, h.wired.outputs, h.wired.connected⟩, fun source => ?_,
    fun l hl => ?_⟩
  · have hlt : ∃ i < 14, inputOf source = TelemPort.internal i := by
      cases source <;> exact ⟨_, by decide, rfl⟩
    obtain ⟨i, hi, hinput⟩ := hlt
    unfold queued
    rw [hinput, hempty i hi, List.length_nil]
  · have hmem : l ∈ s.hub.internal_outputs := by
      rw [h.wired.outputs]
      cases l <;> decide
    have hzero (n : ℕ) : radioTakes inp.radio n l = 0 := by
      cases l with
      | radio => exact absurd rfl hl
      | recorder | limit_checker => rfl
    have hidle : s.pending (TelemPort.listener l) = [] := by
      cases l with
      | radio => exact absurd rfl hl
      | recorder => exact h.recorder
      | limit_checker => exact h.limit_checker
    -- The queue was empty, so what exceeds its depth is refused.
    have hrefused := (hfed l hmem hzero).refused_eq
    rwa [hidle, List.length_nil, Nat.sub_zero] at hrefused

/-- What a NORM tick leaves: the listeners have taken everything, the FAST tier has nothing waiting,
and the packets beyond the depth of the queues have been refused. -/
theorem Inv.norm {s : Telemetry} (h : s.Inv) (inp : NormInput) :
    (s.tick (Tick.norm inp)).Inv ∧ (s.tick (Tick.norm inp)).queued star_tracker = 0 ∧
      (s.tick (Tick.norm inp)).queued imu_unit = 0 ∧
      ∀ l, l ≠ TelemListener.radio →
        (s.tick (Tick.norm inp)).refusedBy l =
          s.refusedBy l ++ s.waiting.drop DEFAULT_QUEUE_DEPTH := by
  obtain ⟨hwired, hempty, hrefused⟩ := h.hub inp
  rw [tick_norm]
  generalize stepComponent inp s NormComponent.telem_hub = hub at hwired hempty hrefused
  -- The components after the hub do not undo its step.
  have hquiet := quiet_fold inp hub telem_hub_notMem_afterHub
  refine ⟨⟨hquiet.wired hwired, ?_, ?_⟩, ?_, ?_, fun l hl => ?_⟩
  · have hmem : NormComponent.recorder ∈ afterHub := by decide
    exact drained_fold inp hwired telem_hub_notMem_afterHub hmem fun s' _ => (s'.pending_drain _).1
  · have hmem : NormComponent.limit_checker ∈ afterHub := by decide
    refine drained_fold inp hwired telem_hub_notMem_afterHub hmem fun s' hs' => ?_
    have hd := (quiet_drain s' TelemListener.limit_checker).wired hs'
    unfold stepComponent
    rw [(hd.queued_report _ _).2.2]
    exact (s'.pending_drain _).1
  · rw [hquiet.star_tracker hwired, hempty]
  · rw [hquiet.imu_unit hwired, hempty]
  · rw [← hrefused l hl]
    unfold TelemetrySystem.refusedBy TelemetrySystem.fanOut FanOut.refusedBy
    rw [hquiet.refused]

/-- What a FAST tick does: one more packet of each of its components waits, if there is room. -/
theorem Inv.fast {s : Telemetry} (h : s.Inv) (star imu : Sample) :
    (s.tick (Tick.fast star imu)).Inv ∧
      (s.tick (Tick.fast star imu)).queued star_tracker =
        min DEFAULT_QUEUE_DEPTH (s.queued star_tracker + 1) ∧
      (s.tick (Tick.fast star imu)).queued imu_unit =
        min DEFAULT_QUEUE_DEPTH (s.queued imu_unit + 1) ∧
      (∀ source, source ≠ star_tracker → source ≠ imu_unit →
        (s.tick (Tick.fast star imu)).queued source = s.queued source) ∧
      (s.tick (Tick.fast star imu)).refused = s.refused := by
  obtain ⟨hstar, hother, hlistener⟩ := h.wired.queued_report star_tracker star
  have hwired := h.wired.report star_tracker star
  obtain ⟨himu, hother', hlistener'⟩ := hwired.queued_report imu_unit imu
  unfold tick
  refine ⟨⟨hwired.report imu_unit imu, ?_, ?_⟩, ?_, ?_, fun source hs hi => ?_, rfl⟩
  · rw [hlistener', hlistener, h.recorder]
  · rw [hlistener', hlistener, h.limit_checker]
  · rw [hother' _ (by decide), hstar]
  · rw [himu, hother _ (by decide)]
  · rw [hother' _ hi, hother _ hs]

/-- What the radio takes matters to nobody else. -/
theorem Inv.radio {s : Telemetry} (h : s.Inv) (count : ℕ) :
    (s.tick (Tick.radio count)).Inv ∧
      (∀ source, (s.tick (Tick.radio count)).queued source = s.queued source) ∧
      (s.tick (Tick.radio count)).refused = s.refused := by
  have hother (i : TelemPort TelemListener) (hi : i ≠ TelemPort.listener TelemListener.radio) :
      (s.tick (Tick.radio count)).pending i = s.pending i := by
    simp [tick, TelemetrySystem.take, TelemetrySystem.pending, Bus.pending,
      Function.update_of_ne hi]
  refine ⟨⟨⟨h.wired.input_count, h.wired.outputs, h.wired.connected⟩, ?_, ?_⟩, fun source => ?_,
    rfl⟩
  · rw [hother _ (by decide), h.recorder]
  · rw [hother _ (by decide), h.limit_checker]
  · exact congrArg List.length (hother _ (inputOf_ne_listener source _))

/-! ## Runs -/

/-- In a NORM tick, no more packets wait at the hub than a listener has room for. -/
def Fits (s : Telemetry) : Tick → Prop
  | Tick.norm _ => s.waiting.length ≤ DEFAULT_QUEUE_DEPTH
  | _ => True

/-- A step that refuses nothing leaves the losses as they were. -/
theorem lossless_of_refused {s s' : Telemetry} (h : s'.refused = s.refused) :
    s'.Lossless ↔ s.Lossless := by
  unfold Lossless TelemetrySystem.refusedBy TelemetrySystem.fanOut FanOut.refusedBy
  rw [h]

/-- Nothing is refused in a NORM tick exactly when everything fits. -/
theorem Inv.lossless_norm_iff {s : Telemetry} (h : s.Inv) (hs : s.Lossless) (inp : NormInput) :
    (s.tick (Tick.norm inp)).Lossless ↔ s.waiting.length ≤ DEFAULT_QUEUE_DEPTH := by
  obtain ⟨-, -, -, hrefused⟩ := h.norm inp
  unfold Lossless
  -- Nothing had been refused before, so the refusals are those of this tick.
  rw [hrefused _ (by decide), hrefused _ (by decide), hs.1, hs.2, List.nil_append, and_self,
    List.drop_eq_nil_iff]

/-- The runs in which nothing is refused are the runs in which everything fits. -/
theorem lossless_iff_fits (ticks : List Tick) :
    (∀ pre, pre <+: ticks → (run tick wired pre).Lossless) ↔ Along tick Fits wired ticks := by
  have hkeep (s : Telemetry) (t : Tick) (h : s.Inv ∧ s.Lossless) (hfits : Fits s t) :
      (s.tick t).Inv ∧ (s.tick t).Lossless := by
    obtain ⟨hinv, hs⟩ := h
    cases t with
    | norm inp => exact ⟨(hinv.norm inp).1, (hinv.lossless_norm_iff hs inp).mpr hfits⟩
    | fast star imu =>
      obtain ⟨hinv', -, -, -, hrefused⟩ := hinv.fast star imu
      exact ⟨hinv', (lossless_of_refused hrefused).mpr hs⟩
    | radio count =>
      obtain ⟨hinv', -, hrefused⟩ := hinv.radio count
      exact ⟨hinv', (lossless_of_refused hrefused).mpr hs⟩
  have hexact (s : Telemetry) (t : Tick) (h : s.Inv ∧ s.Lossless) (hnew : (s.tick t).Lossless) :
      Fits s t := by
    obtain ⟨hinv, hs⟩ := h
    cases t with
    | norm inp => exact (hinv.lossless_norm_iff hs inp).mp hnew
    | fast star imu => trivial
    | radio count => trivial
  exact forall_prefix_iff_along hkeep (fun _ h => h.2) hexact ⟨inv_wired, rfl, rfl⟩ ticks

/-- When nine or more packets of each FAST component will be waiting at the next NORM tick, that
tick does not fit. -/
theorem Inv.fits_iff_no_norm {s : Telemetry} (h : s.Inv) {lead : ℕ} {ticks : List Tick}
    (hnom : Nominal lead ticks) (hsame : s.queued imu_unit = s.queued star_tracker)
    (hmany : 9 ≤ s.queued star_tracker + lead) :
    Along tick Fits s ticks ↔ normTicks ticks = 0 := by
  induction ticks generalizing s lead with
  | nil => simp [Along, normTicks]
  | cons t ticks ih =>
    cases t with
    | radio count =>
      obtain ⟨hinv, hqueued, -⟩ := h.radio count
      rw [Nominal] at hnom
      have hrest := ih hinv hnom (by rw [hqueued, hqueued, hsame]) (by rwa [hqueued])
      simpa [Along, Fits, normTicks] using hrest
    | fast star imu =>
      obtain ⟨hinv, hstar, himu, -, -⟩ := h.fast star imu
      cases lead with
      | zero => exact absurd hnom (by simp [Nominal])
      | succ lead =>
        rw [Nominal] at hnom
        have hrest := ih hinv hnom (by rw [hstar, himu, hsame])
          (by rw [hstar, DEFAULT_QUEUE_DEPTH]; omega)
        simpa [Along, Fits, normTicks] using hrest
    | norm inp =>
      cases lead with
      | succ lead => exact absurd hnom (by simp [Nominal])
      | zero =>
        have hlen := h.wired.length_waiting
        -- Two inputs with nine packets each are more than sixteen.
        have hover : ¬s.waiting.length ≤ DEFAULT_QUEUE_DEPTH := by
          rw [DEFAULT_QUEUE_DEPTH]
          omega
        simp [Along, Fits, normTicks, hover]

/-- Before the first NORM tick, only the FAST components have packets waiting. -/
structure Fresh (s : Telemetry) : Prop where
  inv : s.Inv
  same : s.queued imu_unit = s.queued star_tracker
  others : ∀ source, source ≠ star_tracker → source ≠ imu_unit → s.queued source = 0

/-- Nothing waits in the topology as wired. -/
theorem fresh_wired : wired.Fresh where
  inv := inv_wired
  same := rfl
  others source _ _ := by cases source <;> rfl

/-- Before the first NORM tick, the packets waiting are those of the FAST components. -/
theorem Fresh.length_waiting {s : Telemetry} (h : s.Fresh) :
    s.waiting.length = 2 * s.queued star_tracker := by
  have hothers (source : TelemSource) (hne : source ≠ star_tracker ∧ source ≠ imu_unit) :
      s.queued source = 0 := h.others source hne.1 hne.2
  rw [h.inv.wired.length_waiting, h.same, hothers cmd_sequencer (by decide),
    hothers file_transfer (by decide), hothers memory_dwell (by decide),
    hothers time_sync (by decide), hothers playback (by decide), hothers ota_manager (by decide),
    hothers ats_rts (by decide), hothers TelemSource.limit_checker (by decide),
    hothers cfdp_manager (by decide), hothers mode_manager (by decide),
    hothers battery (by decide), hothers payload_monitor (by decide)]
  omega

/-- From before the first NORM tick, everything fits exactly when there is no NORM tick, or one,
with at most eight packets of each FAST component waiting at it. -/
theorem Fresh.fits_iff {s : Telemetry} (h : s.Fresh) {lead : ℕ} {ticks : List Tick}
    (hnom : Nominal lead ticks) :
    Along tick Fits s ticks ↔
      normTicks ticks = 0 ∨ normTicks ticks = 1 ∧ s.queued star_tracker + lead ≤ 8 := by
  induction ticks generalizing s lead with
  | nil => simp [Along, normTicks]
  | cons t ticks ih =>
    cases t with
    | radio count =>
      obtain ⟨hinv, hqueued, -⟩ := h.inv.radio count
      have hfresh : (s.tick (Tick.radio count)).Fresh :=
        ⟨hinv, by rw [hqueued, hqueued, h.same], fun source hs hi => by
          rw [hqueued, h.others source hs hi]⟩
      rw [Nominal] at hnom
      have hrest := ih hfresh hnom
      rw [hqueued] at hrest
      simpa [Along, Fits, normTicks] using hrest
    | fast star imu =>
      obtain ⟨hinv, hstar, himu, hothers, -⟩ := h.inv.fast star imu
      have hfresh : (s.tick (Tick.fast star imu)).Fresh :=
        ⟨hinv, by rw [hstar, himu, h.same], fun source hs hi => by
          rw [hothers source hs hi, h.others source hs hi]⟩
      cases lead with
      | zero => exact absurd hnom (by simp [Nominal])
      | succ lead =>
        rw [Nominal] at hnom
        have hrest := ih hfresh hnom
        -- The sum of the packets and the FAST ticks to come stays, up to the depth of the queue.
        have hbound : (s.tick (Tick.fast star imu)).queued star_tracker + lead ≤ 8 ↔
            s.queued star_tracker + (lead + 1) ≤ 8 := by
          rw [hstar, DEFAULT_QUEUE_DEPTH]
          omega
        rw [hbound] at hrest
        simpa [Along, Fits, normTicks] using hrest
    | norm inp =>
      cases lead with
      | succ lead => exact absurd hnom (by simp [Nominal])
      | zero =>
        -- Ten FAST ticks come before the second NORM tick.
        obtain ⟨hinv, hstar, himu, -⟩ := h.inv.norm inp
        rw [Nominal] at hnom
        have hrest := hinv.fits_iff_no_norm hnom (himu.trans hstar.symm) (by rw [hstar]; decide)
        simp only [Along, Fits, normTicks, hrest, h.length_waiting, DEFAULT_QUEUE_DEPTH]
        omega

/-- On the nominal schedule, the recorder and the limit checker accept everything exactly as long as
there has been no NORM tick, or one with at most eight FAST ticks before it. -/
theorem recorder_lossless_iff {lead : ℕ} {ticks : List Tick} (h : Nominal lead ticks) :
    (∀ pre, pre <+: ticks → (run tick wired pre).Lossless) ↔
      normTicks ticks = 0 ∨ normTicks ticks = 1 ∧ lead ≤ 8 := by
  have hfits := fresh_wired.fits_iff h
  have hqueued : wired.queued star_tracker = 0 := rfl
  rw [hqueued, Nat.zero_add] at hfits
  rw [lossless_iff_fits, hfits]

/-- A sample. -/
def zero : Sample := ⟨0, Binary32.ofNat 0⟩

/-- Reports of zero, while the radio takes nothing. -/
def zeroInput : NormInput := ⟨fun _ => zero, false, fun _ => 0⟩

/-- Two NORM ticks of the nominal schedule, which starts with the first. -/
def twoNormTicks : List Tick :=
  [Tick.norm zeroInput] ++ List.replicate 10 (Tick.fast zero zero) ++ [Tick.norm zeroInput]

/-- The first NORM tick loses nothing with eight FAST ticks before it. -/
theorem recorder_lossless_first :
    (run tick wired (List.replicate 8 (Tick.fast zero zero) ++ [Tick.norm zeroInput])).Lossless := by
  have hnom : Nominal 8 (List.replicate 8 (Tick.fast zero zero) ++ [Tick.norm zeroInput]) := trivial
  exact (recorder_lossless_iff hnom).mpr (Or.inr ⟨rfl, le_rfl⟩) _ List.prefix_rfl

/-- In the second NORM tick, the recorder refuses the last two packets of the star tracker and all
packets of the battery, the IMU, and the payload monitor. -/
theorem second_norm_tick_loses :
    let last := run tick wired twoNormTicks
    Nominal 0 twoNormTicks ∧
      (last.refusedBy TelemListener.recorder).map (·.component_id) =
        [100, 100, 200] ++ List.replicate 10 300 ++ [400] ∧
      (last.refusedBy TelemListener.limit_checker).length = 14 ∧ ¬last.Lossless := by
  intro last
  have hids : (last.refusedBy TelemListener.recorder).map (·.component_id) =
      [100, 100, 200] ++ List.replicate 10 300 ++ [400] := by decide +kernel
  refine ⟨trivial, hids, by decide +kernel, fun h => ?_⟩
  rw [h.1] at hids
  cases hids

end Telemetry

end DeltaV
