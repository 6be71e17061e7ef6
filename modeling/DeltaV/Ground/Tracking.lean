import DeltaV.Ground.Agreement
import DeltaV.Watchdog.Calm
import DeltaV.Watchdog.Events

/-!
# The mission state on the ground

The ground shows the state that the last event named. `parseStateFromEvent` looks for the names of
the states in a fixed order, in which the lower of two names comes first. A heartbeat and a recovery
name one state, but an escalation names the old and the new state, and the old one is the lower. So
the ground is right after every heartbeat and recovery, and wrong after every escalation
(`shown_iff`), and it tracks a run exactly when nothing in it escalates (`tracked_iff_calm`).
-/

namespace DeltaV

namespace Gds

/-! ## Hearing events -/

/-- The ground takes the frames of events, numbered from `seq` on, at the times of a clock. -/
def hear (components : ℕ → Option Text) (clock : ℕ → Text) (seq : UInt16) (g : Gds)
    (events : List EventPacket) : Gds :=
  listen components g
    ((frames Apid.EVENT seq (events.map Serializer.packEvent)).mapIdx fun i frame => (clock i, frame))

/-- The message of an event as the ground reads it. -/
def heardText (e : EventPacket) : Text :=
  decodeMessage (e.message ++ List.replicate (EVENT_MSG_SIZE - e.message.length) 0)

/-- The state that the ground shows after an event. -/
def shown (state : Text) (e : EventPacket) : Text :=
  (parseStateFromEvent (heardText e)).getD state

/-- The state that is shown is the one that the message names, if it names one. -/
theorem mission_state_showState (g : Gds) (msg : Text) :
    (g.showState msg).mission_state = (parseStateFromEvent msg).getD g.mission_state := by
  unfold showState
  rcases parseStateFromEvent msg with _ | state <;> rfl

/-- The frame of an event shows the state that the event names. -/
theorem mission_state_udpListener (components : ℕ → Option Text) (g : Gds) (ts : Text)
    (seq : UInt16) (e : EventPacket) :
    (udpListener components g ts (buildFrame Apid.EVENT seq (Serializer.packEvent e))).mission_state =
      shown g.mission_state e := by
  have hlen := Serializer.length_packEvent e
  rw [udpListener_buildFrame _ _ (by rw [hlen]; decide) (Or.inr ⟨rfl, hlen.ge⟩), record,
    if_neg (by decide), List.take_of_length_le hlen.le, unpackEvent_packEvent]
  exact mission_state_showState g _

/-- The state that the ground shows is the fold of what the events name. -/
theorem mission_state_hear (components : ℕ → Option Text) (clock : ℕ → Text) (seq : UInt16) (g : Gds)
    (events : List EventPacket) :
    (hear components clock seq g events).mission_state = events.foldl shown g.mission_state := by
  induction events generalizing clock seq g with
  | nil => rfl
  | cons e events ih =>
    have hrest := ih (fun i => clock (i + 1)) (seq + 1)
      (udpListener components g (clock 0) (buildFrame Apid.EVENT seq (Serializer.packEvent e)))
    rw [mission_state_udpListener] at hrest
    rw [List.foldl_cons, ← hrest, hear, hear, List.map_cons, frames, List.mapIdx_cons]
    rfl

/-- After an event that names a state, the ground shows that state. -/
theorem mission_state_hear_concat (components : ℕ → Option Text) (clock : ℕ → Text) (seq : UInt16)
    (g : Gds) (events : List EventPacket) {e : EventPacket} {state : Text}
    (h : parseStateFromEvent (heardText e) = some state) :
    (hear components clock seq g (events ++ [e])).mission_state = state := by
  rw [mission_state_hear, List.foldl_concat, shown, h]
  rfl

/-! ## The names in the messages -/

/-- What the ground reads depends on the text only. -/
theorem heardText_create (sev src : UInt32) (msg : Text) :
    heardText (EventPacket.create sev src msg) = heardText (EventPacket.create 0 0 msg) := rfl

/-- The ground reads a text of ASCII characters as far as it fits. -/
theorem heardText_of_ascii {msg : Text} (hascii : ∀ c ∈ msg, c ≠ 0 ∧ c < 0x80) (sev src : UInt32) :
    heardText (EventPacket.create sev src msg) = msg.take (EVENT_MSG_SIZE - 1) := by
  rw [heardText, EventPacket.message_create fun c hc => (hascii c hc).1]
  exact decodeMessage_append (fun c hc => hascii c (List.mem_of_mem_take hc)) _

/-- The ground reads the old state from an escalation. -/
theorem parse_escalation {a b : MissionState} (hraise : WatchdogComponent.Raise a b)
    (ha : a ≠ MissionState.BOOT) (sev src : UInt32) :
    parseStateFromEvent (heardText (EventPacket.create sev src
      (snprintf EVENT_MSG_SIZE (escalationText a b)))) = some (missionStateName a) := by
  rw [heardText_create]
  unfold WatchdogComponent.Raise at hraise
  revert hraise ha
  cases a <;> cases b <;> decide +kernel

/-- The ground reads `NOMINAL` from a recovery. -/
theorem parse_recovery (sev src : UInt32) :
    parseStateFromEvent (heardText (EventPacket.create sev src recoveryText)) =
      some (missionStateName MissionState.NOMINAL) := by
  rw [heardText_create]
  decide +kernel

/-- The characters of a heartbeat are those of its fixed text and digits. -/
theorem mem_heartbeatText {a : MissionState} {seconds : ℕ} {c : UInt8}
    (h : c ∈ heartbeatText a seconds) :
    c ∈ ascii "HB: " ++ missionStateName a ++ ascii " T+s" ∨ isDigit c = true := by
  rw [heartbeatText, List.mem_append, List.mem_append, List.mem_append] at h
  rw [show ascii " T+s" = ascii " T+" ++ ascii "s" from rfl, ← List.append_assoc, List.mem_append,
    List.mem_append]
  rcases h with ((h | h) | h) | h
  · exact Or.inl (Or.inl (Or.inl h))
  · exact Or.inl (Or.inl (Or.inr h))
  · exact Or.inr (isDigit_decimal seconds c h)
  · exact Or.inl (Or.inr h)

/-- The ground reads a heartbeat as far as it fits. -/
theorem heardText_heartbeat (a : MissionState) (sev src : UInt32) (seconds : ℕ) :
    heardText (EventPacket.create sev src (snprintf EVENT_MSG_SIZE (heartbeatText a seconds))) =
      (heartbeatText a seconds).take (EVENT_MSG_SIZE - 1) := by
  have hfixed : ∀ c ∈ ascii "HB: " ++ missionStateName a ++ ascii " T+s", c ≠ 0 ∧ c < 0x80 := by
    cases a <;> decide +kernel
  have hascii : ∀ c ∈ heartbeatText a seconds, c ≠ 0 ∧ c < 0x80 := by
    intro c hc
    rcases mem_heartbeatText hc with h | h
    · exact hfixed c h
    · obtain ⟨hlow, hhigh⟩ : 48 ≤ c ∧ c ≤ 57 := of_decide_eq_true h
      refine ⟨?_, UInt8.lt_of_le_of_lt hhigh (by decide)⟩
      rintro rfl
      exact absurd hlow (by decide)
  rw [snprintf, heardText_of_ascii fun c hc => hascii c (List.mem_of_mem_take hc), List.take_take,
    min_self]

/-- The ground finds the present state in a heartbeat, and no other name that has a character of its
own. -/
theorem infix_heartbeat (a : MissionState) (seconds : ℕ) :
    missionStateName a <:+: (heartbeatText a seconds).take (EVENT_MSG_SIZE - 1) ∧
      ∀ (name : Text) (c : UInt8), c ∈ name → isDigit c = false →
        c ∉ ascii "HB: " ++ missionStateName a ++ ascii " T+s" →
          ¬name <:+: (heartbeatText a seconds).take (EVENT_MSG_SIZE - 1) := by
  constructor
  · have hprefix : ascii "HB: " ++ missionStateName a <+:
        (heartbeatText a seconds).take (EVENT_MSG_SIZE - 1) := by
      refine List.prefix_take_iff.mpr ⟨?_, by cases a <;> decide⟩
      rw [heartbeatText, List.append_assoc _ (ascii " T+"), List.append_assoc]
      exact List.prefix_append _ _
    exact (List.suffix_append _ _).isInfix.trans hprefix.isInfix
  · intro name c hc hdigit hfixed hinfix
    rcases mem_heartbeatText (List.mem_of_mem_take (List.IsInfix.subset hinfix hc)) with h | h
    · exact hfixed h
    · rw [hdigit] at h
      cases h

/-- The ground reads the present state from a heartbeat. -/
theorem parse_heartbeat {a : MissionState} (ha : a ≠ MissionState.BOOT) (sev src : UInt32)
    (seconds : ℕ) :
    parseStateFromEvent (heardText (EventPacket.create sev src
      (snprintf EVENT_MSG_SIZE (heartbeatText a seconds)))) = some (missionStateName a) := by
  obtain ⟨hfound, hlacks⟩ := infix_heartbeat a seconds
  rw [heardText_heartbeat, parseStateFromEvent]
  -- A name that is tested for before has a letter that the heartbeat lacks.
  cases a with
  | BOOT => exact absurd rfl ha
  | NOMINAL => exact if_pos hfound
  | DEGRADED =>
    rw [if_neg (hlacks _ 78 (by decide) rfl (by decide))]
    exact if_pos hfound
  | SAFE_MODE =>
    rw [if_neg (hlacks _ 78 (by decide) rfl (by decide)),
      if_neg (hlacks _ 71 (by decide) rfl (by decide))]
    exact if_pos hfound
  | EMERGENCY =>
    rw [if_neg (hlacks _ 76 (by decide) rfl (by decide)),
      if_neg (hlacks _ 68 (by decide) rfl (by decide)),
      if_neg (hlacks _ 83 (by decide) rfl (by decide))]
    exact if_pos hfound

end Gds

namespace WatchdogComponent

open Gds

/-! ## Announcements in a log -/

/-- The event that an action sends. -/
def packetOf : WatchdogAction → Option EventPacket
  | WatchdogAction.emitted packet _ => some packet
  | _ => none

/-- The events among the actions. -/
def eventsOf (acts : List WatchdogAction) : List EventPacket := acts.filterMap packetOf

/-- The mission state after an action. -/
def next (a : MissionState) : WatchdogAction → MissionState
  | WatchdogAction.assigned _ b => b
  | _ => a

/-- The mission state after actions that start in `a`. -/
def stateAfter (a : MissionState) (acts : List WatchdogAction) : MissionState := acts.foldl next a

/-- The mission state right after an event. The assignment that a recovery announces follows its
event. -/
def rightAfter (a : MissionState) (pre : List WatchdogAction) (msg : Text)
    (post : List WatchdogAction) : MissionState :=
  if msg = recoveryText then stateAfter a (pre ++ post.take 1) else stateAfter a pre

/-- The beginning of the messages of escalations and heartbeats. -/
theorem prefix_announcement (a b : MissionState) (seconds : ℕ) (sev src : UInt32) :
    ascii "FSM: " <+: (EventPacket.create sev src
        (snprintf EVENT_MSG_SIZE (escalationText a b))).message ∧
      ascii "HB: " <+: (EventPacket.create sev src
        (snprintf EVENT_MSG_SIZE (heartbeatText a seconds))).message := by
  constructor
  · refine prefix_message (prefix_snprintf ?_ (by decide)) (by decide) (by decide) sev src
    simp only [escalationText, List.append_assoc, List.prefix_append]
  · refine prefix_message (prefix_snprintf ?_ (by decide)) (by decide) (by decide) sev src
    simp only [heartbeatText, List.append_assoc, List.prefix_append]

/-- The message of a recovery fits. -/
theorem message_recovery (sev src : UInt32) :
    (EventPacket.create sev src recoveryText).message = recoveryText := by
  rw [EventPacket.message_create (by decide +kernel)]
  rfl

/-- The ground reads a state from the event, and it is the given one exactly when the event is not an
escalation. -/
def Shows (packet : EventPacket) (after : MissionState) : Prop :=
  ∃ state, parseStateFromEvent (heardText packet) = some (missionStateName state) ∧
    (state = after ↔ ¬ascii "FSM: " <+: packet.message)

/-- A heartbeat shows the present state. -/
theorem shows_heartbeat {a : MissionState} (ha : a ≠ MissionState.BOOT) (sev src : UInt32)
    (seconds : ℕ) (post : List WatchdogAction) :
    let packet :=
      EventPacket.create sev src (snprintf EVENT_MSG_SIZE (heartbeatText a seconds))
    Shows packet (rightAfter a [] packet.message post) := by
  intro packet
  have hhb : ascii "HB: " <+: packet.message := (prefix_announcement a a seconds sev src).2
  have hne : packet.message ≠ recoveryText := by
    intro hrec
    rw [hrec] at hhb
    exact absurd hhb (by decide)
  refine ⟨a, parse_heartbeat ha sev src seconds, iff_of_true ?_ ?_⟩
  · rw [rightAfter, if_neg hne]
    rfl
  · exact Apart.not_prefix (by decide) hhb

/-- An escalation shows the old state. -/
theorem shows_escalation {a b : MissionState} (hraise : Raise a b) (ha : a ≠ MissionState.BOOT)
    (sev src : UInt32) (post : List WatchdogAction) :
    let packet :=
      EventPacket.create sev src (snprintf EVENT_MSG_SIZE (escalationText a b))
    Shows packet (rightAfter a [WatchdogAction.assigned a b] packet.message post) := by
  intro packet
  have hfsm : ascii "FSM: " <+: packet.message := (prefix_announcement a b 0 sev src).1
  have hne : packet.message ≠ recoveryText := by
    intro hrec
    rw [hrec] at hfsm
    exact absurd hfsm (by decide)
  refine ⟨a, parse_escalation hraise ha sev src, iff_of_false ?_ (not_not.mpr hfsm)⟩
  rw [rightAfter, if_neg hne]
  rintro rfl
  exact absurd hraise (lt_irrefl _)

/-- A recovery shows the new state. -/
theorem shows_recovery {a b : MissionState} (hrec : Recovery a b) (sev src : UInt32)
    (post : List WatchdogAction) :
    let packet := EventPacket.create sev src recoveryText
    Shows packet (rightAfter a [] packet.message (WatchdogAction.assigned a b :: post)) := by
  intro packet
  have hmsg : packet.message = recoveryText := message_recovery sev src
  refine ⟨MissionState.NOMINAL, parse_recovery sev src, iff_of_true ?_ ?_⟩
  · rw [rightAfter, if_pos hmsg]
    exact hrec.2.symm
  · rw [hmsg]
    decide

/-- In a log that tells how the mission state goes, the ground reads a state from every announcement,
and it is the one right after it exactly when the announcement is not an escalation. -/
theorem Told.shows {a b : MissionState} {acts : List WatchdogAction} (h : Told a acts b)
    (ha : a ≠ MissionState.BOOT) (pre : List WatchdogAction) (packet : EventPacket) (sent : Bool)
    (post : List WatchdogAction) (hacts : acts = pre ++ WatchdogAction.emitted packet sent :: post)
    (hannounces : Announces packet.message) :
    Shows packet (rightAfter a pre packet.message post) := by
  induction h generalizing pre with
  | nil a => exact absurd hacts.symm (by simp)
  | restart idx _ ih =>
    cases pre with
    | nil => cases hacts
    | cons x pre =>
      obtain ⟨rfl, htail⟩ := List.cons.inj hacts
      exact ih ha pre htail
  | event sent' hquiet _ ih =>
    cases pre with
    | nil =>
      cases hacts
      exact absurd hannounces hquiet
    | cons x pre =>
      obtain ⟨rfl, htail⟩ := List.cons.inj hacts
      exact ih ha pre htail
  | heartbeat sev src seconds sent' _ ih =>
    cases pre with
    | nil =>
      cases hacts
      exact shows_heartbeat ha sev src seconds post
    | cons x pre =>
      obtain ⟨rfl, htail⟩ := List.cons.inj hacts
      exact ih ha pre htail
  | raise sev src sent' hraise _ ih =>
    -- A raise assigns the state before its event is emitted.
    rcases pre with _ | ⟨x, _ | ⟨y, pre⟩⟩
    · cases hacts
    · cases hacts
      exact shows_escalation hraise ha sev src post
    · obtain ⟨rfl, htail⟩ := List.cons.inj hacts
      obtain ⟨rfl, htail'⟩ := List.cons.inj htail
      refine ih ?_ pre htail'
      rintro rfl
      exact absurd hraise (Nat.not_lt_zero _)
  | recovery sev src sent' hrec _ ih =>
    -- A recovery emits its event before it assigns the state.
    rcases pre with _ | ⟨x, _ | ⟨y, pre⟩⟩
    · cases hacts
      exact shows_recovery hrec sev src _
    · cases hacts
    · obtain ⟨rfl, htail⟩ := List.cons.inj hacts
      obtain ⟨rfl, htail'⟩ := List.cons.inj htail
      refine ih ?_ pre htail'
      rw [hrec.2]
      decide

/-- Without assignments there is no escalation. -/
theorem Told.not_fsm {a b : MissionState} {acts : List WatchdogAction} (h : Told a acts b)
    (hnone : assignments acts = []) {packet : EventPacket} {sent : Bool}
    (hmem : WatchdogAction.emitted packet sent ∈ acts) : ¬ascii "FSM: " <+: packet.message := by
  induction h with
  | nil a => cases hmem
  | restart idx _ ih =>
    rcases List.mem_cons.mp hmem with h | h
    · cases h
    · exact ih hnone h
  | event sent' hquiet _ ih =>
    rcases List.mem_cons.mp hmem with h | h
    · cases h
      exact fun hfsm => hquiet (Or.inl hfsm)
    · exact ih hnone h
  | @heartbeat a b acts sev src seconds sent' _ ih =>
    rcases List.mem_cons.mp hmem with h | h
    · cases h
      exact Apart.not_prefix (by decide) (prefix_announcement a a seconds sev src).2
    · exact ih hnone h
  | raise | recovery => cases hnone

/-- From `NOMINAL`, the first assignment is an escalation. -/
theorem Told.exists_fsm {b : MissionState} {acts : List WatchdogAction}
    (h : Told MissionState.NOMINAL acts b) (hsome : assignments acts ≠ []) :
    ∃ pre packet sent post, acts = pre ++ WatchdogAction.emitted packet sent :: post ∧
      ascii "FSM: " <+: packet.message := by
  generalize ha : MissionState.NOMINAL = a at h
  induction h with
  | nil a => exact absurd rfl hsome
  | restart idx _ ih =>
    obtain ⟨pre, packet, sent, post, rfl, hfsm⟩ := ih hsome ha
    exact ⟨_ :: pre, packet, sent, post, rfl, hfsm⟩
  | event sent' _ _ ih =>
    obtain ⟨pre, packet, sent, post, rfl, hfsm⟩ := ih hsome ha
    exact ⟨_ :: pre, packet, sent, post, rfl, hfsm⟩
  | heartbeat sev src seconds sent' _ ih =>
    obtain ⟨pre, packet, sent, post, rfl, hfsm⟩ := ih hsome ha
    exact ⟨_ :: pre, packet, sent, post, rfl, hfsm⟩
  | @raise a b c acts sev src sent hraise _ _ =>
    exact ⟨[WatchdogAction.assigned a b], _, sent, acts, rfl, (prefix_announcement a b 0 sev src).1⟩
  | recovery sev src sent hrec _ _ =>
    rw [← ha] at hrec
    exact absurd hrec.1 (by decide)

/-! ## Runs -/

/-- What a watchdog logs from `init()` on. -/
def actions (w₀ : WatchdogComponent) (ops : List WatchdogOp) : List WatchdogAction :=
  (run WatchdogComponent.apply w₀.init ops).log.drop w₀.log.length

/-- The log of a run after `init()`. -/
theorem actions_spec (w₀ : WatchdogComponent) (ops : List WatchdogOp) :
    ∃ packet sent acts, actions w₀ ops =
        WatchdogAction.assigned w₀.mission_state MissionState.NOMINAL ::
          WatchdogAction.emitted packet sent :: acts ∧
      ¬Announces packet.message ∧
      Told MissionState.NOMINAL acts (run WatchdogComponent.apply w₀.init ops).mission_state ∧
      (assignments acts = [] ↔ Along WatchdogComponent.apply Calm w₀.init ops) := by
  obtain ⟨acts, hlog, htold⟩ := tells_run w₀.init ops
  obtain ⟨sent, hinit, -⟩ := WatchdogComponent.emit_spec
    { w₀.setMissionState MissionState.NOMINAL with last_batt_soc := Binary32.ofNat 100 }
    Severity.INFO (ascii "WATCHDOG: Init complete. FDIR active.")
  have hquiet : ¬Announces (EventPacket.create Severity.INFO w₀.base.id
      (ascii "WATCHDOG: Init complete. FDIR active.")).message :=
    Tag.not_announces (p := ascii "WATCHDOG") (by decide) (by decide) _ _
  have hstill := still_run_iff w₀.init w₀.mission_state_init ops
  rw [mission_state_init] at htold
  refine ⟨_, sent, acts, ?_, hquiet, htold, ?_⟩
  · rw [actions, hlog, show w₀.init.log = _ from hinit]
    simp only [setMissionState, List.append_assoc, List.drop_left]
    rfl
  · rw [← hstill, Still, hlog, assignments_append, List.append_right_eq_self]

/-- Different states have different names. -/
theorem missionStateName_inj {a b : MissionState} :
    missionStateName a = missionStateName b ↔ a = b := by
  cases a <;> cases b <;> decide

section

variable (components : ℕ → Option Text) (clock : ℕ → Text) (seq : UInt16) (g : Gds)

/-- After every announcement among the actions, the ground that has taken the events up to it shows
the mission state right after it. -/
def Tracked (a : MissionState) (acts : List WatchdogAction) : Prop :=
  ∀ pre packet sent post, acts = pre ++ WatchdogAction.emitted packet sent :: post →
    Announces packet.message →
    (hear components clock seq g
      (eventsOf (pre ++ [WatchdogAction.emitted packet sent]))).mission_state =
        missionStateName (rightAfter a pre packet.message post)

/-- In every run after `init()`, the ground shows the right state after an announcement exactly when
the announcement is not an escalation. -/
theorem tracked_announcement_iff (w₀ : WatchdogComponent) (ops : List WatchdogOp)
    {pre post : List WatchdogAction} {packet : EventPacket} {sent : Bool}
    (hacts : actions w₀ ops = pre ++ WatchdogAction.emitted packet sent :: post)
    (hannounces : Announces packet.message) :
    (hear components clock seq g
      (eventsOf (pre ++ [WatchdogAction.emitted packet sent]))).mission_state =
        missionStateName (rightAfter w₀.mission_state pre packet.message post) ↔
      ¬ascii "FSM: " <+: packet.message := by
  obtain ⟨packet₀, sent₀, acts, hlog, hquiet, htold, -⟩ := actions_spec w₀ ops
  rw [hlog] at hacts
  have hshows : Shows packet (rightAfter w₀.mission_state pre packet.message post) := by
    -- The first two actions are those of `init()`, which announces nothing.
    rcases pre with _ | ⟨x, _ | ⟨y, pre⟩⟩
    · cases hacts
    · cases hacts
      exact absurd hannounces hquiet
    · obtain ⟨rfl, htail⟩ := List.cons.inj hacts
      obtain ⟨rfl, htail'⟩ := List.cons.inj htail
      exact htold.shows (by decide) pre packet sent post htail' hannounces
  obtain ⟨state, hparse, hiff⟩ := hshows
  have hevents : eventsOf (pre ++ [WatchdogAction.emitted packet sent]) =
      eventsOf pre ++ [packet] := List.filterMap_append
  rw [hevents, mission_state_hear_concat components clock seq g _ hparse, missionStateName_inj, hiff]

/-- The ground tracks the mission state over a run after `init()` exactly when every call of it is
calm. -/
theorem tracked_iff_calm (w₀ : WatchdogComponent) (ops : List WatchdogOp) :
    Tracked components clock seq g w₀.mission_state (actions w₀ ops) ↔
      Along WatchdogComponent.apply Calm w₀.init ops := by
  obtain ⟨packet₀, sent₀, acts, hlog, hquiet, htold, hcalm⟩ := actions_spec w₀ ops
  rw [← hcalm]
  constructor
  · intro htracked
    by_contra hsome
    obtain ⟨pre, packet, sent, post, hacts, hfsm⟩ := htold.exists_fsm hsome
    have hsplit : actions w₀ ops =
        (WatchdogAction.assigned w₀.mission_state MissionState.NOMINAL ::
          WatchdogAction.emitted packet₀ sent₀ :: pre) ++
            WatchdogAction.emitted packet sent :: post := by
      rw [hlog, hacts]
      rfl
    have hright := htracked _ _ _ _ hsplit (Or.inl hfsm)
    exact (tracked_announcement_iff components clock seq g w₀ ops hsplit (Or.inl hfsm)).mp hright
      hfsm
  · intro hnone pre packet sent post hacts hannounces
    refine (tracked_announcement_iff components clock seq g w₀ ops hacts hannounces).mpr ?_
    have hmem : WatchdogAction.emitted packet sent ∈ actions w₀ ops := by
      rw [hacts]
      exact List.mem_append_right _ List.mem_cons_self
    rw [hlog] at hmem
    rcases List.mem_cons.mp hmem with h | h
    · cases h
    · rcases List.mem_cons.mp h with h | h
      · cases h
        exact absurd hannounces hquiet
      · exact htold.not_fsm hnone h

end

/-- A battery sample of ten percent degrades the mission, and the ground goes on showing
`NOMINAL`. -/
theorem escalation_mistracked :
    ¬Tracked (fun _ => none) (fun _ => ascii "12:00:00") 0 Gds.create MissionState.BOOT
      (actions { supervisor with event_out := some (InputPort.create DEFAULT_QUEUE_DEPTH) }
        [WatchdogOp.injectBatteryLevel (Binary32.ofNat 10)]) := by
  intro h
  have hright := h
    ((actions { supervisor with event_out := some (InputPort.create DEFAULT_QUEUE_DEPTH) }
      [WatchdogOp.injectBatteryLevel (Binary32.ofNat 10)]).take 4)
    (EventPacket.create Severity.CRITICAL 1 (ascii "FSM: NOMINAL->DEGRADED")) true []
    (by decide +kernel) (by decide +kernel)
  exact absurd hright (by decide +kernel)

end WatchdogComponent

end DeltaV
