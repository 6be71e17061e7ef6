import DeltaV.Hub.Nominal

/-!
# Who is recorded

The hub empties its inputs in the order of their numbers, and the recorder and the limit checker have
room for `DEFAULT_QUEUE_DEPTH` packets in each NORM tick. The inputs of the battery, of the IMU, and
of the payload monitor come last. When at least eight FAST ticks lie between NORM ticks, the inputs
before them fill the queues alone, so no packet of the three is ever recorded or checked against its
limits again (`starved`).
-/

namespace DeltaV

namespace Telemetry

open TelemSource

/-- The components that step in a NORM tick before the owner of a listener does. -/
def beforeOwner : TelemListener → List NormComponent
  | TelemListener.recorder => normTier.takeWhile fun c => c ≠ NormComponent.recorder
  | TelemListener.limit_checker => normTier.takeWhile fun c => c ≠ NormComponent.limit_checker
  | TelemListener.radio => []

/-- What the recorder or the limit checker finds in its queue when its turn comes. -/
def received (l : TelemListener) (x : Telemetry × Tick) : List TelemetryPacket :=
  match x.2 with
  | Tick.norm inp =>
    ((beforeOwner l).foldl (stepComponent inp) x.1).pending (TelemPort.listener l)
  | _ => []

/-- At least `gap` FAST ticks lie between one NORM tick and the next, and at least `owed` before the
first. -/
def Spaced (gap : ℕ) : ℕ → List Tick → Prop
  | _, [] => True
  | owed, Tick.radio _ :: ticks => Spaced gap owed ticks
  | owed, Tick.fast _ _ :: ticks => Spaced gap (owed - 1) ticks
  | 0, Tick.norm _ :: ticks => Spaced gap gap ticks
  | _ + 1, Tick.norm _ :: _ => False

/-! ## What waits -/

/-- The packets in the input of a component carry its identifier. -/
def Tagged (s : Telemetry) : Prop :=
  ∀ source, ∀ p ∈ s.pending (inputOf source), p.component_id = source.getId

/-- What the radio takes is in no input. -/
theorem Tagged.radio {s : Telemetry} (h : s.Tagged) (count : ℕ) :
    (s.tick (Tick.radio count)).Tagged := by
  intro source p hp
  have hother : (s.tick (Tick.radio count)).pending (inputOf source) =
      s.pending (inputOf source) := by
    simp [tick, TelemetrySystem.take, TelemetrySystem.pending, Bus.pending,
      Function.update_of_ne (inputOf_ne_listener source TelemListener.radio)]
  rw [hother] at hp
  exact h source p hp

/-- A report keeps the identifiers. -/
theorem Tagged.report {s : Telemetry} (h : s.Tagged) (hw : s.Wired) (source : TelemSource)
    (sample : Sample) : (Telemetry.report s source sample).Tagged := by
  intro other p hp
  have hsend := s.bus.pending_send source (inputOf other)
    ⟨sample.timestamp_ms, source.getId, sample.value⟩
  change p ∈ (s.bus.send source _).1.pending (inputOf other) at hp
  rw [hsend] at hp
  rcases List.mem_append.mp hp with hold | hnew
  · exact h other p hold
  · split_ifs at hnew with hto
    · -- The packet is in the input of its own component.
      obtain rfl := List.mem_singleton.mp hnew
      have hsame : inputOf source = inputOf other :=
        Option.some.inj ((hw.connected source).symm.trans hto.1)
      by_contra hid
      refine inputOf_ne (fun heq => hid ?_) hsame
      rw [heq]
    · cases hnew

/-- What a component other than the hub does to the inputs and the listeners: it takes nothing from
an input, and only the owner of a listener takes from it. -/
structure Adds (s s' : Telemetry) (owners : List TelemListener) : Prop where
  wired : s'.Wired
  tagged : s.Tagged → s'.Tagged
  queued_le : ∀ source, s.queued source ≤ s'.queued source
  listener : ∀ l ∉ owners, s'.pending (TelemPort.listener l) = s.pending (TelemPort.listener l)

/-- A component that does nothing adds nothing. -/
theorem Adds.refl {s : Telemetry} (h : s.Wired) (owners : List TelemListener) : Adds s s owners :=
  ⟨h, id, fun _ => le_rfl, fun _ _ => rfl⟩

/-- What two steps add, they add together. -/
theorem Adds.trans {a b c : Telemetry} {owners : List TelemListener} (h : Adds a b owners)
    (h' : Adds b c owners) : Adds a c owners where
  wired := h'.wired
  tagged ht := h'.tagged (h.tagged ht)
  queued_le source := (h.queued_le source).trans (h'.queued_le source)
  listener l hl := (h'.listener l hl).trans (h.listener l hl)

/-- A report adds a packet to the input of its component at most. -/
theorem adds_report {s : Telemetry} (h : s.Wired) (source : TelemSource) (sample : Sample)
    (owners : List TelemListener) : Adds s (report s source sample) owners where
  wired := h.report source sample
  tagged ht := ht.report h source sample
  queued_le other := by
    obtain ⟨hself, hother, -⟩ := h.queued_report source sample
    rcases eq_or_ne other source with rfl | hne
    · rw [hself]
      have hle := (s.bus.input (inputOf other)).length_pending_le
      change s.queued other ≤ _ at hle
      omega
    · rw [hother other hne]
  listener l _ := (h.queued_report source sample).2.2 l

/-- An owner that empties its listener adds nothing to the inputs. -/
theorem adds_drain {s : Telemetry} (h : s.Wired) (l : TelemListener)
    {owners : List TelemListener} (hl : l ∈ owners) : Adds s (s.drain l) owners where
  wired := ⟨h.input_count, h.outputs, h.connected⟩
  tagged ht source p hp := by
    rw [(s.pending_drain l).2 _ (inputOf_ne_listener source l)] at hp
    exact ht source p hp
  queued_le source := by
    unfold queued
    rw [(s.pending_drain l).2 _ (inputOf_ne_listener source l)]
  listener l' hl' := by
    refine (s.pending_drain l).2 _ fun heq => hl' ?_
    rwa [TelemPort.listener.inj heq]

/-- The listener that a component owns. -/
def ownedBy : NormComponent → List TelemListener
  | NormComponent.recorder => [TelemListener.recorder]
  | NormComponent.limit_checker => [TelemListener.limit_checker]
  | _ => []

/-- Every component but the hub adds to the inputs and takes from its own listeners only. -/
theorem adds_stepComponent (inp : NormInput) {s : Telemetry} (h : s.Wired) {c : NormComponent}
    (hc : c ≠ NormComponent.telem_hub) {owners : List TelemListener}
    (howned : ∀ l ∈ ownedBy c, l ∈ owners) : Adds s (stepComponent inp s c) owners := by
  cases c with
  | telem_hub => exact absurd rfl hc
  | watchdog | cmd_hub | event_hub | playback => exact Adds.refl h owners
  | recorder => exact adds_drain h _ (howned _ List.mem_cons_self)
  | limit_checker =>
    have hdrain := adds_drain h _ (howned _ List.mem_cons_self)
    exact hdrain.trans (adds_report hdrain.wired _ _ owners)
  | memory_dwell =>
    unfold stepComponent
    split_ifs
    · exact adds_report h _ _ owners
    · exact Adds.refl h owners
  | cmd_sequencer | file_transfer | time_sync | ota_manager | ats_rts | cfdp_manager | mode_manager
  | battery | payload_monitor => exact adds_report h _ _ owners

/-- The components without the hub add one after the other. -/
theorem adds_fold (inp : NormInput) {s : Telemetry} (h : s.Wired) {cs : List NormComponent}
    (hcs : NormComponent.telem_hub ∉ cs) (owners : List TelemListener)
    (howned : ∀ c ∈ cs, ∀ l ∈ ownedBy c, l ∈ owners) :
    Adds s (cs.foldl (stepComponent inp) s) owners := by
  induction cs generalizing s with
  | nil => exact Adds.refl h owners
  | cons c cs ih =>
    have hc : c ≠ NormComponent.telem_hub := fun heq => hcs (heq ▸ List.mem_cons_self)
    have hstep := adds_stepComponent inp h hc (howned c List.mem_cons_self)
    exact hstep.trans (ih hstep.wired (List.not_mem_of_not_mem_cons hcs)
      fun c' hc' => howned c' (List.mem_cons_of_mem c hc'))

/-- The component that reports for a source in every NORM tick. -/
def reporter : TelemSource → Option NormComponent
  | cmd_sequencer => some NormComponent.cmd_sequencer
  | file_transfer => some NormComponent.file_transfer
  | time_sync => some NormComponent.time_sync
  | ota_manager => some NormComponent.ota_manager
  | ats_rts => some NormComponent.ats_rts
  | TelemSource.limit_checker => some NormComponent.limit_checker
  | cfdp_manager => some NormComponent.cfdp_manager
  | mode_manager => some NormComponent.mode_manager
  | _ => none

/-- A reporter leaves a packet. -/
theorem queued_pos_stepComponent (inp : NormInput) {s : Telemetry} (h : s.Wired)
    {source : TelemSource} {c : NormComponent} (hc : reporter source = some c) :
    1 ≤ (stepComponent inp s c).queued source := by
  have hreport {s : Telemetry} (h : s.Wired) (sample : Sample) :
      1 ≤ (report s source sample).queued source := by
    rw [(h.queued_report source sample).1, DEFAULT_QUEUE_DEPTH]
    omega
  cases source with
  | limit_checker =>
    obtain rfl := Option.some.inj hc
    exact hreport ((quiet_drain s TelemListener.limit_checker).wired h) _
  | cmd_sequencer | file_transfer | time_sync | ota_manager | ats_rts | cfdp_manager
  | mode_manager =>
    obtain rfl := Option.some.inj hc
    exact hreport h _
  | memory_dwell | playback | star_tracker | battery | imu_unit | payload_monitor => cases hc

/-- After a NORM tick, each reporter has a packet waiting. -/
theorem queued_pos_norm {s : Telemetry} (h : s.Inv) (inp : NormInput) {source : TelemSource}
    {c : NormComponent} (hc : reporter source = some c) :
    1 ≤ (s.tick (Tick.norm inp)).queued source := by
  have hmem : c ∈ afterHub := by
    revert hc
    cases source <;> rintro ⟨⟩ <;> decide
  rw [tick_norm]
  obtain ⟨before, after, hsplit⟩ := List.append_of_mem hmem
  have hnot := telem_hub_notMem_afterHub
  rw [hsplit, List.mem_append, not_or] at hnot
  rw [hsplit, List.foldl_append, List.foldl_cons]
  have hbefore := (quiet_fold inp _ hnot.1).wired (h.hub inp).1
  have hpos := queued_pos_stepComponent inp hbefore hc
  have hc' : c ≠ NormComponent.telem_hub := fun heq => hnot.2 (heq ▸ List.mem_cons_self)
  have hwired := (quiet_stepComponent inp (before.foldl (stepComponent inp) _) hc').wired hbefore
  have hrest := adds_fold inp hwired (List.not_mem_of_not_mem_cons hnot.2)
    [TelemListener.recorder, TelemListener.limit_checker, TelemListener.radio]
    fun _ _ l _ => by cases l <;> decide
  exact hpos.trans (hrest.queued_le source)

/-! ## What the listeners get -/

/-- The recorder and the limit checker get the first packets that waited at the hub, as many as their
queues hold. -/
theorem Inv.received_norm {s : Telemetry} (h : s.Inv) (inp : NormInput) {l : TelemListener}
    (hl : l ≠ TelemListener.radio) :
    received l (s, Tick.norm inp) = s.waiting.take DEFAULT_QUEUE_DEPTH := by
  -- The watchdog and the hub come first, and nobody but its owner takes from the queue after them.
  have hturn : ∃ between, beforeOwner l =
      NormComponent.watchdog :: NormComponent.telem_hub :: between ∧
      NormComponent.telem_hub ∉ between ∧ ∀ c ∈ between, l ∉ ownedBy c := by
    cases l with
    | radio => exact absurd rfl hl
    | recorder => exact ⟨[NormComponent.cmd_hub, NormComponent.event_hub], rfl, by decide, by decide⟩
    | limit_checker =>
      exact ⟨(normTier.drop 2).takeWhile fun c => c ≠ NormComponent.limit_checker, rfl, by decide,
        by decide⟩
  obtain ⟨between, hbefore, hnot, howned⟩ := hturn
  have hnodup : s.hub.internal_outputs.Nodup := by
    rw [h.wired.outputs]
    decide
  have hmem : l ∈ s.hub.internal_outputs := by
    rw [h.wired.outputs]
    cases l <;> decide
  have hzero (n : ℕ) : radioTakes inp.radio n l = 0 := by
    cases l with
    | radio => exact absurd rfl hl
    | recorder | limit_checker => rfl
  have hidle : s.pending (TelemPort.listener l) = [] := by
    cases l with
    | radio => exact absurd rfl hl
    | recorder => exact h.recorder
    | limit_checker => exact h.limit_checker
  have hfed := (TelemetrySystem.step_spec s hnodup (radioTakes inp.radio)).2 l hmem hzero
  have hqueue := hfed.queue_eq
  rw [hidle, List.nil_append, List.length_nil, Nat.sub_zero] at hqueue
  have hadds := adds_fold inp (h.hub inp).1 hnot (between.flatMap ownedBy)
    fun c hc l' hl' => List.mem_flatMap.mpr ⟨c, hc, hl'⟩
  have hkeep := hadds.listener l fun hmem' => by
    obtain ⟨c, hc, hl'⟩ := List.mem_flatMap.mp hmem'
    exact howned c hc hl'
  change ((beforeOwner l).foldl (stepComponent inp) s).pending (TelemPort.listener l) = _
  rw [hbefore, List.foldl_cons, List.foldl_cons]
  exact hkeep.trans hqueue

/-- The packets waiting at the hub, input by input. -/
theorem Wired.waiting_eq {s : Telemetry} (h : s.Wired) : s.waiting =
    ([cmd_sequencer, file_transfer, memory_dwell, time_sync, playback, ota_manager, ats_rts,
      TelemSource.limit_checker, cfdp_manager, mode_manager, star_tracker].flatMap fun source =>
        s.pending (inputOf source)) ++
      [battery, imu_unit, payload_monitor].flatMap fun source => s.pending (inputOf source) := by
  unfold TelemetrySystem.waiting TelemetrySystem.inputs
  rw [h.input_count]
  simp [List.range_succ, inputOf]

/-- The components whose packets come last at the hub. -/
def Late (id : UInt32) : Prop := id ∈ [battery.getId, imu_unit.getId, payload_monitor.getId]

instance (id : UInt32) : Decidable (Late id) := inferInstanceAs (Decidable (_ ∈ _))

/-- When the reporters have a packet each and the star tracker has eight, nothing else fits. -/
theorem Wired.not_late_of_take {s : Telemetry} (h : s.Wired) (ht : s.Tagged)
    (hreporters : ∀ source c, reporter source = some c → 1 ≤ s.queued source)
    (hstar : 8 ≤ s.queued star_tracker) {p : TelemetryPacket}
    (hp : p ∈ s.waiting.take DEFAULT_QUEUE_DEPTH) : ¬Late p.component_id := by
  rw [h.waiting_eq, List.take_append_of_le_length] at hp
  · obtain ⟨source, hsource, hp⟩ := List.mem_flatMap.mp (List.mem_of_mem_take hp)
    rw [ht source p hp]
    clear hp
    revert source
    decide
  · have h1 := hreporters cmd_sequencer _ rfl
    have h2 := hreporters file_transfer _ rfl
    have h3 := hreporters time_sync _ rfl
    have h4 := hreporters ota_manager _ rfl
    have h5 := hreporters ats_rts _ rfl
    have h6 := hreporters TelemSource.limit_checker _ rfl
    have h7 := hreporters cfdp_manager _ rfl
    have h8 := hreporters mode_manager _ rfl
    simp only [queued] at h1 h2 h3 h4 h5 h6 h7 h8 hstar
    simp only [List.flatMap_cons, List.flatMap_nil, List.length_append, List.length_nil,
      DEFAULT_QUEUE_DEPTH]
    omega

/-! ## Runs -/

/-- After the first NORM tick, with `owed` FAST ticks to come before the next. -/
structure Loaded (owed : ℕ) (s : Telemetry) : Prop where
  inv : s.Inv
  tagged : s.Tagged
  reporters : ∀ source c, reporter source = some c → 1 ≤ s.queued source
  star : 8 ≤ s.queued star_tracker + owed

/-- A NORM tick leaves a report of each reporter. -/
theorem Inv.loaded_norm {s : Telemetry} (h : s.Inv) (inp : NormInput) :
    Loaded 8 (s.tick (Tick.norm inp)) where
  inv := (h.norm inp).1
  tagged := by
    obtain ⟨hwired, hempty, -⟩ := h.hub inp
    have hnone : (stepComponent inp s NormComponent.telem_hub).Tagged := fun source p hp => by
      rw [List.eq_nil_of_length_eq_zero (hempty source)] at hp
      cases hp
    rw [tick_norm]
    exact (adds_fold inp hwired telem_hub_notMem_afterHub
      [TelemListener.recorder, TelemListener.limit_checker, TelemListener.radio]
      fun _ _ l _ => by cases l <;> decide).tagged hnone
  reporters source c hc := queued_pos_norm h inp hc
  star := Nat.le_add_left _ _

/-- From a NORM tick on, no packet of a late component gets through. -/
theorem Loaded.received {s : Telemetry} {owed : ℕ} (h : Loaded owed s) {ticks : List Tick}
    (hspaced : Spaced 8 owed ticks) {l : TelemListener} (hl : l ≠ TelemListener.radio) :
    ∀ p ∈ (history tick s ticks).flatMap (received l), ¬Late p.component_id := by
  induction ticks generalizing s owed with
  | nil => exact fun p hp => by cases hp
  | cons t ticks ih =>
    intro p hp
    rw [history, List.flatMap_cons] at hp
    cases t with
    | radio count =>
      obtain ⟨hinv, hqueued, -⟩ := h.inv.radio count
      have hnext : Loaded owed (s.tick (Tick.radio count)) :=
        { inv := hinv
          tagged := h.tagged.radio count
          reporters := fun source c hc => by
            rw [hqueued]
            exact h.reporters source c hc
          star := by
            rw [hqueued]
            exact h.star }
      exact ih hnext hspaced p hp
    | fast star imu =>
      obtain ⟨hinv, hstar, -, hothers, -⟩ := h.inv.fast star imu
      have hnext : Loaded (owed - 1) (s.tick (Tick.fast star imu)) :=
        { inv := hinv
          tagged := (h.tagged.report h.inv.wired _ _).report (h.inv.wired.report _ _) _ _
          reporters := fun source c hc => by
            rw [hothers source (by rintro rfl; cases hc) (by rintro rfl; cases hc)]
            exact h.reporters source c hc
          star := by
            have hbefore := h.star
            rw [hstar, DEFAULT_QUEUE_DEPTH]
            omega }
      exact ih hnext hspaced p hp
    | norm inp =>
      -- A NORM tick comes only when the eight FAST ticks before it have been.
      cases owed with
      | succ owed => exact absurd hspaced (by simp [Spaced])
      | zero =>
        rcases List.mem_append.mp hp with hnow | hlater
        · rw [h.inv.received_norm inp hl] at hnow
          exact h.inv.wired.not_late_of_take h.tagged h.reporters h.star hnow
        · exact ih (h.inv.loaded_norm inp) hspaced p hlater

/-- Before the first NORM tick, the packets waiting are those of the FAST tier. -/
theorem Fresh.fast_of_waiting {s : Telemetry} (h : s.Fresh) (ht : s.Tagged) {p : TelemetryPacket}
    (hp : p ∈ s.waiting) :
    p.component_id = star_tracker.getId ∨ p.component_id = imu_unit.getId := by
  rw [h.inv.wired.waiting_eq, ← List.flatMap_append] at hp
  obtain ⟨source, -, hp⟩ := List.mem_flatMap.mp hp
  rw [ht source p hp]
  by_cases hstar : source = star_tracker
  · exact Or.inl (by rw [hstar])
  by_cases himu : source = imu_unit
  · exact Or.inr (by rw [himu])
  · rw [List.eq_nil_of_length_eq_zero (h.others source hstar himu)] at hp
    cases hp

/-- A FAST tick before the first NORM tick leaves what waits to the FAST components. -/
theorem Fresh.fast {s : Telemetry} (h : s.Fresh) (star imu : Sample) :
    (s.tick (Tick.fast star imu)).Fresh := by
  obtain ⟨hinv, hstar, himu, hothers, -⟩ := h.inv.fast star imu
  exact ⟨hinv, by rw [hstar, himu, h.same], fun source hs hi => by
    rw [hothers source hs hi, h.others source hs hi]⟩

/-- What the radio takes before the first NORM tick leaves what waits to the FAST components. -/
theorem Fresh.radio {s : Telemetry} (h : s.Fresh) (count : ℕ) :
    (s.tick (Tick.radio count)).Fresh := by
  obtain ⟨hinv, hqueued, -⟩ := h.inv.radio count
  exact ⟨hinv, by rw [hqueued, hqueued, h.same], fun source hs hi => by
    rw [hqueued, h.others source hs hi]⟩

/-- Packets of the battery and of the payload monitor appear in NORM ticks only. -/
theorem Fresh.received {s : Telemetry} (h : s.Fresh) (ht : s.Tagged) {ticks : List Tick} {owed : ℕ}
    (hspaced : Spaced 8 owed ticks) {l : TelemListener} (hl : l ≠ TelemListener.radio) :
    ∀ p ∈ (history tick s ticks).flatMap (received l),
      p.component_id ≠ battery.getId ∧ p.component_id ≠ payload_monitor.getId := by
  induction ticks generalizing s owed with
  | nil => exact fun p hp => by cases hp
  | cons t ticks ih =>
    intro p hp
    rw [history, List.flatMap_cons] at hp
    cases t with
    | radio count => exact ih (h.radio count) (ht.radio count) hspaced p hp
    | fast star imu =>
      exact ih (h.fast star imu)
        ((ht.report h.inv.wired _ _).report (h.inv.wired.report _ _) _ _) hspaced p hp
    | norm inp =>
      cases owed with
      | succ owed => exact absurd hspaced (by simp [Spaced])
      | zero =>
        rcases List.mem_append.mp hp with hnow | hlater
        · rw [h.inv.received_norm inp hl] at hnow
          rcases h.fast_of_waiting ht (List.mem_of_mem_take hnow) with heq | heq
          · rw [heq]
            decide
          · rw [heq]
            decide
        · have hlate := (h.inv.loaded_norm inp).received hspaced hl p hlater
          exact ⟨fun heq => hlate (by rw [heq]; decide), fun heq => hlate (by rw [heq]; decide)⟩

/-- Nothing waits in the topology as wired, so every packet that does has the right identifier. -/
theorem tagged_wired : wired.Tagged := fun source p hp => by
  cases source <;> cases hp

/-- The rest of a spaced schedule is spaced, and owes ticks after a NORM tick. -/
theorem Spaced.drop {gap owed : ℕ} {pre post : List Tick} (h : Spaced gap owed (pre ++ post)) :
    ∃ owed', Spaced gap owed' post := by
  induction pre generalizing owed with
  | nil => exact ⟨owed, h⟩
  | cons t pre ih =>
    cases t with
    | radio count => exact ih h
    | fast star imu => exact ih h
    | norm inp =>
      cases owed with
      | succ owed => exact absurd h (by simp [Spaced])
      | zero => exact ih h

/-- Every state after a run that began as wired keeps its listeners empty between ticks. -/
theorem inv_run (ticks : List Tick) : (run tick wired ticks).Inv := by
  refine run_invariant (fun s t h => ?_) inv_wired ticks
  cases t with
  | fast star imu => exact (h.fast star imu).1
  | norm inp => exact (h.norm inp).1
  | radio count => exact (h.radio count).1

/-- On every schedule with at least eight FAST ticks between NORM ticks, whatever comes before the
first and whatever the radio takes, the recorder and the limit checker never get a packet of the
battery or of the payload monitor, and none of the IMU after the first NORM tick. -/
theorem starved (ticks : List Tick) (h : Spaced 8 0 ticks) (l : TelemListener)
    (hl : l ≠ TelemListener.radio) :
    (∀ p ∈ (history tick wired ticks).flatMap (received l),
        p.component_id ≠ battery.getId ∧ p.component_id ≠ payload_monitor.getId) ∧
      ∀ pre inp post, ticks = pre ++ Tick.norm inp :: post →
        ∀ p ∈ (history tick (run tick wired (pre ++ [Tick.norm inp])) post).flatMap (received l),
          p.component_id ≠ imu_unit.getId := by
  refine ⟨fresh_wired.received tagged_wired h hl, fun pre inp post hticks p hp heq => ?_⟩
  rw [hticks] at h
  obtain ⟨owed, hrest⟩ := h.drop
  rw [run_concat] at hp
  cases owed with
  | succ owed => exact absurd hrest (by simp [Spaced])
  | zero =>
    have hlate := ((inv_run pre).loaded_norm inp).received hrest hl p hp
    rw [heq] at hlate
    exact hlate (by decide)

/-- On the nominal schedule of two NORM ticks, no packet of the battery is checked. -/
theorem starved_nominal :
    battery.getId ∉ ((history tick wired twoNormTicks).flatMap
      (received TelemListener.limit_checker)).map TelemetryPacket.component_id := by
  rw [List.mem_map]
  rintro ⟨p, hp, hid⟩
  exact ((starved twoNormTicks (by simp [twoNormTicks, Spaced]) TelemListener.limit_checker
    (by decide)).1 p hp).1 hid

end Telemetry

end DeltaV
