import DeltaV.Decimal
import DeltaV.Watchdog.Battery

/-!
# What the watchdog announces

Three kinds of events announce the mission state: an escalation names the old and the new state, a
recovery names `NOMINAL`, and a heartbeat names the present state. `Told a acts b` says that the
actions tell how the mission state goes from `a` to `b`: every assignment is announced by the event
next to it, and no other event reads like an announcement. It holds of every function of the
watchdog, and so of every run (`tells_run`).
-/

namespace DeltaV

/-! ## Messages -/

/-- The message of an escalation. -/
def escalationText (a b : MissionState) : Text :=
  ascii "FSM: " ++ missionStateName a ++ ascii "->" ++ missionStateName b

/-- The message of a recovery. -/
def recoveryText : Text := ascii "FDIR: Recovery -> NOMINAL"

/-- The message of a heartbeat. -/
def heartbeatText (a : MissionState) (seconds : ℕ) : Text :=
  ascii "HB: " ++ missionStateName a ++ ascii " T+" ++ decimal seconds ++ ascii "s"

/-- The message announces a transition, or is a heartbeat. -/
def Announces (msg : Text) : Prop :=
  ascii "FSM: " <+: msg ∨ msg = recoveryText ∨ ascii "HB: " <+: msg

instance (msg : Text) : Decidable (Announces msg) := inferInstanceAs (Decidable (_ ∨ _ ∨ _))

/-- A short beginning of a text without zeros is a beginning of the message. -/
theorem prefix_message {p t : Text} (h : p <+: t) (hp : 0 ∉ p)
    (hlen : p.length < EVENT_MSG_SIZE) (sev src : UInt32) :
    p <+: (EventPacket.create sev src t).message := by
  obtain ⟨rest, rfl⟩ := h
  have hcstr : cstr (p ++ rest) = p ++ cstr rest :=
    List.takeWhile_append_of_pos fun c hc => decide_eq_true (ne_of_mem_of_not_mem hc hp)
  have hmsg : (EventPacket.create sev src (p ++ rest)).message =
      (p ++ cstr rest).take (EVENT_MSG_SIZE - 1) := congrArg (List.take _) hcstr
  rw [hmsg, List.prefix_take_iff]
  exact ⟨List.prefix_append _ _, Nat.le_sub_one_of_lt hlen⟩

/-- A short beginning of a text is a beginning of what `snprintf` leaves. -/
theorem prefix_snprintf {p t : Text} (h : p <+: t) (hlen : p.length < EVENT_MSG_SIZE) :
    p <+: snprintf EVENT_MSG_SIZE t :=
  List.prefix_take_iff.mpr ⟨h, Nat.le_sub_one_of_lt hlen⟩

/-- Neither text begins with the other. -/
def Apart (p q : Text) : Prop := ¬p <+: q ∧ ¬q <+: p

instance (p q : Text) : Decidable (Apart p q) := inferInstanceAs (Decidable (_ ∧ _))

/-- A text begins with at most one of two that are apart. -/
theorem Apart.not_prefix {p q t : Text} (h : Apart p q) (hp : p <+: t) : ¬q <+: t := by
  intro hq
  rcases List.prefix_or_prefix_of_prefix hp hq with hpq | hqp
  · exact h.1 hpq
  · exact h.2 hqp

/-- A beginning that tells a message from every announcement. -/
structure Tag (p : Text) : Prop where
  nonzero : 0 ∉ p
  short : p.length < EVENT_MSG_SIZE
  fsm : Apart p (ascii "FSM: ")
  recovery : ¬p <+: recoveryText
  heartbeat : Apart p (ascii "HB: ")

instance (p : Text) : Decidable (Tag p) :=
  decidable_of_iff (0 ∉ p ∧ p.length < EVENT_MSG_SIZE ∧ Apart p (ascii "FSM: ") ∧
      ¬p <+: recoveryText ∧ Apart p (ascii "HB: "))
    ⟨fun h => ⟨h.1, h.2.1, h.2.2.1, h.2.2.2.1, h.2.2.2.2⟩, fun h =>
      ⟨h.nonzero, h.short, h.fsm, h.recovery, h.heartbeat⟩⟩

/-- A message that starts with a tag announces nothing. -/
theorem Tag.not_announces {p t : Text} (hp : Tag p) (h : p <+: t) (sev src : UInt32) :
    ¬Announces (EventPacket.create sev src t).message := by
  have hmsg := prefix_message h hp.nonzero hp.short sev src
  rintro (hfsm | hrec | hhb)
  · exact hp.fsm.not_prefix hmsg hfsm
  · rw [hrec] at hmsg
    exact hp.recovery hmsg
  · exact hp.heartbeat.not_prefix hmsg hhb

/-- The same for formatted text. -/
theorem Tag.not_announces_snprintf {p t : Text} (hp : Tag p) (h : p <+: t) (sev src : UInt32) :
    ¬Announces (EventPacket.create sev src (snprintf EVENT_MSG_SIZE t)).message :=
  hp.not_announces (prefix_snprintf h hp.short) sev src

/-- A message about a named component announces nothing, whatever the name is: it does not end as a
recovery does. -/
theorem not_announces_named (name rest : Text) (last : UInt8) (hrest : 0 ∉ rest)
    (hlast : last ≠ 0 ∧ last ≠ 76) (sev src : UInt32) :
    ¬Announces (EventPacket.create sev src (snprintf EVENT_MSG_SIZE
      (ascii "FDIR: " ++ cstr name ++ rest ++ [last]))).message := by
  set t : Text := ascii "FDIR: " ++ cstr name ++ rest ++ [last] with ht
  have hnonzero : ∀ c ∈ t, c ≠ 0 := by
    intro c hc
    rw [ht, List.mem_append, List.mem_append, List.mem_append, List.mem_singleton] at hc
    rcases hc with ((hc | hc) | hc) | rfl
    · exact ne_of_mem_of_not_mem hc (by decide)
    · exact of_decide_eq_true (List.mem_takeWhile_imp (p := fun c => decide (c ≠ 0)) hc)
    · exact ne_of_mem_of_not_mem hc hrest
    · exact hlast.1
  have hmsg : (EventPacket.create sev src (snprintf EVENT_MSG_SIZE t)).message =
      t.take (EVENT_MSG_SIZE - 1) := by
    have hcut : ∀ c ∈ snprintf EVENT_MSG_SIZE t, c ≠ 0 :=
      fun c hc => hnonzero c (List.mem_of_mem_take hc)
    rw [EventPacket.message_create hcut, snprintf, List.take_take, min_self]
  have hfdir : ascii "FDIR: " <+: t.take (EVENT_MSG_SIZE - 1) := by
    refine List.prefix_take_iff.mpr ⟨?_, by decide⟩
    rw [ht, List.append_assoc, List.append_assoc]
    exact List.prefix_append _ _
  rw [hmsg]
  rintro (hfsm | hrec | hhb)
  · exact Apart.not_prefix (by decide) hfdir hfsm
  · -- The recovery is shorter than the buffer, so it would be the whole text.
    have hlen := congrArg List.length hrec
    rw [List.length_take, show recoveryText.length = 25 from rfl, EVENT_MSG_SIZE] at hlen
    have hwhole : t = recoveryText := by
      rw [← hrec, List.take_of_length_le (by rw [EVENT_MSG_SIZE]; omega)]
    have hend := congrArg List.getLast? hwhole
    rw [ht, List.getLast?_concat] at hend
    exact hlast.2 (Option.some.inj hend)
  · exact Apart.not_prefix (by decide) hfdir hhb

namespace WatchdogComponent

/-! ## Telling actions -/

/-- The actions tell how the mission state goes from `a` to `b`: a raise is followed by its event, a
recovery follows its event, heartbeats give the present state, and no other event announces
anything. -/
inductive Told : MissionState → List WatchdogAction → MissionState → Prop where
  | nil (a : MissionState) : Told a [] a
  | restart {a b : MissionState} {acts : List WatchdogAction} (idx : ℕ) :
    Told a acts b → Told a (WatchdogAction.restarted idx :: acts) b
  | event {a b : MissionState} {acts : List WatchdogAction} {packet : EventPacket} (sent : Bool) :
    ¬Announces packet.message → Told a acts b →
      Told a (WatchdogAction.emitted packet sent :: acts) b
  | heartbeat {a b : MissionState} {acts : List WatchdogAction} (sev src : UInt32) (seconds : ℕ)
    (sent : Bool) : Told a acts b →
      Told a (WatchdogAction.emitted
        (EventPacket.create sev src (snprintf EVENT_MSG_SIZE (heartbeatText a seconds))) sent ::
          acts) b
  | raise {a b c : MissionState} {acts : List WatchdogAction} (sev src : UInt32) (sent : Bool) :
    Raise a b → Told b acts c →
      Told a (WatchdogAction.assigned a b :: WatchdogAction.emitted
        (EventPacket.create sev src (snprintf EVENT_MSG_SIZE (escalationText a b))) sent :: acts) c
  | recovery {a b c : MissionState} {acts : List WatchdogAction} (sev src : UInt32) (sent : Bool) :
    Recovery a b → Told b acts c →
      Told a (WatchdogAction.emitted (EventPacket.create sev src recoveryText) sent ::
        WatchdogAction.assigned a b :: acts) c

/-- Telling actions one after the other. -/
theorem Told.append {a b c : MissionState} {acts acts' : List WatchdogAction} (h : Told a acts b)
    (h' : Told b acts' c) : Told a (acts ++ acts') c := by
  induction h with
  | nil => exact h'
  | restart idx _ ih => exact restart idx (ih h')
  | event sent hquiet _ ih => exact event sent hquiet (ih h')
  | heartbeat sev src seconds sent _ ih => exact heartbeat sev src seconds sent (ih h')
  | raise sev src sent hraise _ ih => exact raise sev src sent hraise (ih h')
  | recovery sev src sent hrec _ ih => exact recovery sev src sent hrec (ih h')

/-- What is logged between two states tells how the mission state goes from one to the other. -/
def Tells (w w' : WatchdogComponent) : Prop :=
  ∃ acts, w'.log = w.log ++ acts ∧ Told w.mission_state acts w'.mission_state

/-- Changing neither the log nor the mission state needs nothing told. -/
theorem tells_of_eq {w w' : WatchdogComponent} (hlog : w'.log = w.log)
    (hstate : w'.mission_state = w.mission_state) : Tells w w' := by
  refine ⟨[], by rw [hlog, List.append_nil], ?_⟩
  rw [hstate]
  exact Told.nil _

/-- A component that does nothing tells nothing. -/
theorem Tells.refl (w : WatchdogComponent) : Tells w w := tells_of_eq rfl rfl

/-- What is told in two parts is told altogether. -/
theorem Tells.trans {w w' w'' : WatchdogComponent} (h : Tells w w') (h' : Tells w' w'') :
    Tells w w'' := by
  obtain ⟨acts, hlog, htold⟩ := h
  obtain ⟨acts', hlog', htold'⟩ := h'
  exact ⟨acts ++ acts', by rw [hlog', hlog, List.append_assoc], htold.append htold'⟩

/-! ## The functions -/

/-- An event that announces nothing. -/
theorem tells_emit (w : WatchdogComponent) {sev : UInt32} {msg : Text}
    (h : ∀ src, ¬Announces (EventPacket.create sev src msg).message) : Tells w (w.emit sev msg) := by
  obtain ⟨sent, hlog, -⟩ := w.emit_spec sev msg
  refine ⟨_, hlog, ?_⟩
  rw [mission_state_emit]
  exact Told.event sent (h _) (Told.nil _)

/-- An event with a tag. -/
theorem tells_tagged (w : WatchdogComponent) (sev : UInt32) {p msg : Text} (hp : Tag p)
    (h : p <+: msg) : Tells w (w.emit sev msg) :=
  w.tells_emit fun src => hp.not_announces h sev src

/-- A formatted event with a tag. -/
theorem tells_formatted (w : WatchdogComponent) (sev : UInt32) {p t : Text} (hp : Tag p)
    (h : p <+: t) : Tells w (w.emit sev (snprintf EVENT_MSG_SIZE t)) :=
  w.tells_emit fun src => hp.not_announces_snprintf h sev src

/-- Counting an error tells nothing. -/
theorem tells_recordError (w : WatchdogComponent) : Tells w w.recordError := tells_of_eq rfl rfl

/-- A raise is announced. -/
theorem tells_escalate (w : WatchdogComponent) (next : MissionState) :
    Tells w (w.escalate next) := by
  unfold escalate
  split_ifs with h
  · obtain ⟨sent, hlog, -⟩ := (w.setMissionState next).emit_spec Severity.CRITICAL
      (snprintf EVENT_MSG_SIZE (escalationText w.mission_state next))
    refine ⟨_, hlog.trans (List.append_assoc _ _ _), ?_⟩
    rw [mission_state_emit]
    exact Told.raise _ _ sent h (Told.nil next)
  · exact Tells.refl w

/-- Checking thresholds announces nothing. -/
theorem tells_checkThresholds (w : WatchdogComponent) (thresholds : BatteryThresholds) :
    Tells w (w.checkThresholds thresholds).2 := by
  unfold checkThresholds
  split_ifs
  · exact ((w.tells_tagged Severity.CRITICAL (p := ascii "FDIR: I") (by decide) (by decide)).trans
      (tells_recordError _)).trans (tells_of_eq rfl rfl)
  · exact Tells.refl w
  · exact (w.tells_tagged Severity.INFO (p := ascii "FDIR: B") (by decide) (by decide)).trans
      (tells_of_eq rfl rfl)
  · exact Tells.refl w

/-- Reading the thresholds in force announces nothing. -/
theorem tells_currentBatteryThresholds (w : WatchdogComponent) :
    Tells w w.currentBatteryThresholds.2 := by
  unfold currentBatteryThresholds
  split
  · exact (tells_of_eq rfl rfl).trans (tells_checkThresholds _ _)
  · exact Tells.refl w

/-- A sample announces the raise that it leads to. -/
theorem tells_processBattery (w : WatchdogComponent) (batt : Binary32) :
    Tells w (w.processBattery batt) := by
  have hsample : Tells w { w.currentBatteryThresholds.2 with last_batt_soc := batt } :=
    w.tells_currentBatteryThresholds.trans (tells_of_eq rfl rfl)
  have halarm : ∀ (w' : WatchdogComponent) (sev : UInt32) (x y : Text) (next : MissionState),
      Tells w' ((w'.emit sev (snprintf EVENT_MSG_SIZE
        (ascii "FDIR: Battery <=" ++ x ++ y))).escalate next) := by
    intro w' sev x y next
    have hprefix : ascii "FDIR: Battery <=" <+: ascii "FDIR: Battery <=" ++ x ++ y := by
      rw [List.append_assoc]
      exact List.prefix_append _ _
    exact (w'.tells_formatted sev (by decide) hprefix).trans (tells_escalate _ next)
  unfold processBattery
  simp only
  split_ifs
  · exact hsample.trans (halarm _ _ _ _ _)
  · exact hsample.trans (halarm _ _ _ _ _)
  · exact hsample.trans (halarm _ _ _ _ _)
  · exact hsample

/-- So does a queue of samples. -/
theorem tells_checkBattery (w : WatchdogComponent) (samples : List Binary32) :
    Tells w (w.checkBattery samples) := by
  induction samples generalizing w with
  | nil => exact Tells.refl w
  | cons batt samples ih => exact (w.tells_processBattery batt).trans (ih (w.processBattery batt))

/-- A failed subsystem announces the raise that it leads to. -/
theorem tells_handleCritical (w : WatchdogComponent) (idx : ℕ) (errorCount : UInt32) :
    Tells w (w.handleCritical idx errorCount) := by
  unfold handleCritical
  split
  · exact Tells.refl w
  · rename_i comp hcomp
    simp only
    set w₁ := w.emit Severity.CRITICAL (snprintf EVENT_MSG_SIZE (ascii "FDIR: CRIT " ++
      cstr comp.name ++ ascii " (" ++ decimal errorCount.toNat ++ ascii ")")) with hw₁
    have hcrit : Tells w w₁ :=
      w.tells_formatted _ (p := ascii "FDIR: CRIT ") (by decide)
        (by simp only [List.append_assoc, List.prefix_append])
    split_ifs
    · have hrestart : Tells w₁ { w₁ with
          restart_counts := Function.update w₁.restart_counts idx (w₁.restart_counts idx + 1)
          log := w₁.log ++ [WatchdogAction.restarted idx] } :=
        ⟨_, rfl, Told.restart idx (Told.nil _)⟩
      refine (hcrit.trans hrestart).trans ?_
      exact tells_formatted _ _ (p := ascii "FDIR: RST ") (by decide)
        (by simp only [List.append_assoc, List.prefix_append])
    · refine hcrit.trans (Tells.trans (tells_emit _ fun src => ?_) (tells_escalate _ _))
      have hnamed := not_announces_named comp.name (ascii " UNRECO") 86 (by decide) (by decide)
        Severity.CRITICAL src
      rwa [List.append_assoc] at hnamed
    · exact hcrit

/-- One pass of the loop announces the raise that it leads to. -/
theorem tells_checkSubsystem (inp : StepInput) (acc : WatchdogComponent × Bool × Bool) (i : ℕ) :
    Tells acc.1 (checkSubsystem inp acc i).1 := by
  unfold checkSubsystem
  split
  · exact Tells.refl _
  · rename_i comp hcomp
    split
    · exact acc.1.tells_handleCritical i _
    · refine acc.1.tells_emit fun src => ?_
      have hrest : 0 ∉ ascii " WARN (" ++ decimal (inp.errorCount i).toNat := by
        rw [List.mem_append, not_or]
        exact ⟨by decide, fun h => absurd (isDigit_decimal _ 0 h) (by decide)⟩
      have hnamed := not_announces_named comp.name _ 41 hrest (by decide) Severity.WARNING src
      rwa [← List.append_assoc] at hnamed
    · exact Tells.refl _

/-- Asking the subsystems for their health announces the raises that it leads to. -/
theorem tells_checkSubsystems (w : WatchdogComponent) (inp : StepInput) :
    Tells w (w.checkSubsystems inp) := by
  have hloop : ∀ (is : List ℕ) (acc : WatchdogComponent × Bool × Bool),
      Tells acc.1 (is.foldl (checkSubsystem inp) acc).1 := by
    intro is
    induction is with
    | nil => exact fun acc => Tells.refl _
    | cons i is ih =>
      exact fun acc => (tells_checkSubsystem inp acc i).trans (ih (checkSubsystem inp acc i))
  have h := hloop (List.range w.monitored_systems.length) (w, false, false)
  simp only [checkSubsystems]
  split_ifs
  · exact h.trans (tells_escalate _ _)
  · exact h.trans (tells_escalate _ _)
  · exact h

/-- A recovery is announced before it is made. -/
theorem tells_recovery (w : WatchdogComponent)
    (h : Recovery w.mission_state MissionState.NOMINAL) :
    Tells w ((w.emit Severity.INFO recoveryText).setMissionState MissionState.NOMINAL) := by
  obtain ⟨sent, hlog, -⟩ := w.emit_spec Severity.INFO recoveryText
  refine ⟨_, ?_, Told.recovery Severity.INFO w.base.id sent h (Told.nil _)⟩
  rw [setMissionState, hlog, mission_state_emit, List.append_assoc]
  rfl

/-- The recovery attempt announces what it does. -/
theorem tells_tryRecoverNominal (w : WatchdogComponent) (inp : StepInput) :
    Tells w (w.tryRecoverNominal inp) := by
  unfold tryRecoverNominal
  split_ifs with hstate
  · exact Tells.refl w
  · have hread := w.tells_currentBatteryThresholds
    have hsame := (w.currentBatteryThresholds_spec (P := Never)).2.mission_state_eq
    have hin : Recovery w.currentBatteryThresholds.2.mission_state MissionState.NOMINAL := by
      rw [hsame]
      refine ⟨?_, rfl⟩
      by_contra h
      exact hstate (not_or.mp h)
    simp only
    split_ifs
    · exact hread.trans (tells_recovery _ hin)
    · exact hread

/-- The parameter check announces the raise that it leads to. -/
theorem tells_checkParams (w : WatchdogComponent) (inp : StepInput) :
    Tells w (w.checkParams inp) := by
  unfold checkParams
  split_ifs
  · have hemit : Tells w (w.emit Severity.CRITICAL (ascii "FDIR: ParamDb CRC mismatch!")) :=
      w.tells_tagged _ (p := ascii "FDIR: P") (by decide) (by decide)
    exact (hemit.trans (tells_escalate _ _)).trans (tells_of_eq rfl rfl)
  · exact tells_of_eq rfl rfl
  · exact Tells.refl w

/-- A heartbeat gives the present state. -/
theorem tells_heartbeat (w : WatchdogComponent) (inp : StepInput) : Tells w (w.heartbeat inp) := by
  unfold heartbeat
  split_ifs
  · obtain ⟨sent, hlog, -⟩ := w.emit_spec Severity.INFO (snprintf EVENT_MSG_SIZE
      (heartbeatText w.mission_state (inp.met / 1000).toNat))
    refine ⟨_, hlog, ?_⟩
    rw [mission_state_emit]
    exact Told.heartbeat _ _ _ sent (Told.nil _)
  · exact Tells.refl w

/-- Polling the scheduler announces nothing. -/
theorem tells_pollSchedulerHealth (w : WatchdogComponent) (frame_drops : UInt64) :
    Tells w (w.pollSchedulerHealth frame_drops) := by
  unfold pollSchedulerHealth
  split_ifs
  · have hpoll : Tells w { w with last_frame_drops := frame_drops } := tells_of_eq rfl rfl
    refine (hpoll.trans (tells_formatted _ _ (p := ascii "SCHED: ") (by decide) ?_)).trans
      (tells_recordError _)
    rw [List.append_assoc]
    exact List.prefix_append _ _
  · exact Tells.refl w

/-- Polling a port announces nothing. -/
theorem tells_pollPortOverflow (w : WatchdogComponent) (ov : UInt32) (port_name : Text) :
    Tells w (w.pollPortOverflow ov port_name) := by
  unfold pollPortOverflow
  split_ifs
  · refine (w.tells_formatted _ (p := ascii "OVF:") (by decide) ?_).trans (tells_recordError _)
    simp only [List.append_assoc, List.prefix_append]
  · exact Tells.refl w

/-! ## Runs -/

/-- Every call tells how it changes the mission state. -/
theorem tells_apply (w : WatchdogComponent) (op : WatchdogOp) : Tells w (w.apply op) := by
  cases op with
  | step inp =>
    have htick : Tells w w.tick := tells_of_eq rfl rfl
    have hbefore : Tells w (w.beforeRecovery inp) :=
      (htick.trans (tells_checkBattery _ _)).trans (tells_checkSubsystems _ inp)
    exact ((hbefore.trans (tells_tryRecoverNominal _ inp)).trans (tells_checkParams _ inp)).trans
      (tells_heartbeat _ inp)
  | injectBatteryLevel soc => exact w.tells_processBattery soc
  | pollSchedulerHealth frame_drops => exact w.tells_pollSchedulerHealth frame_drops
  | pollPortOverflow ov port_name => exact w.tells_pollPortOverflow ov port_name
  | eventPort event_out => exact tells_of_eq rfl rfl
  | thresholdStores e s d => exact tells_of_eq rfl rfl

/-- Every run tells how it changes the mission state. -/
theorem tells_run (w : WatchdogComponent) (ops : List WatchdogOp) :
    Tells w (run WatchdogComponent.apply w ops) :=
  run_rel Tells.refl Tells.trans tells_apply w ops

end WatchdogComponent

end DeltaV
