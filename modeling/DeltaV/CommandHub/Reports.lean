import DeltaV.CommandHub.Contract
import DeltaV.Decimal

/-!
# What the report of a blocked command tells

The text `FSM_BLOCKED: OP<opcode> in <STATE>` is cut to the 27 characters that an event has room
for. Fifteen come before the opcode and an opcode has ten digits at most, so it is always read back
(`takeWhile_blockedText`). The four characters of ` in ` follow, and a character of the state is
left when the opcode has at most seven digits; the states differ in their first characters. With
more digits nothing of the state is left.
-/

namespace DeltaV

/-- The number of a mission state, as `getMissionStateRaw()` gives it. -/
def MissionState.raw (st : MissionState) : UInt8 := UInt8.ofNat st.toNat

/-- What follows the opcode in the text of a blocked command. -/
def inState (st : MissionState) : Text := ascii " in " ++ MissionFsm.stateName st.raw

/-- The text of a blocked command, before it is cut. -/
def blockedText (opcode : UInt32) (st : MissionState) : Text :=
  ascii "FSM_BLOCKED: OP" ++ decimal opcode.toNat ++ ascii " in " ++
    MissionFsm.stateName st.raw

namespace HubSystem

variable {Out In EventOut EventIn : Type*} [DecidableEq In] [DecidableEq EventIn]

/-- The mission state machine blocks the command. -/
def Blocks (s : HubSystem Out In EventOut EventIn) (cmd : CommandPacket) (st : MissionState) :
    Prop :=
  s.hub.watchdog = true ∧ MissionFsm.isAllowed st.raw (s.hub.classifyCommand cmd) = false

instance (s : HubSystem Out In EventOut EventIn) (cmd : CommandPacket) (st : MissionState) :
    Decidable (s.Blocks cmd st) := inferInstanceAs (Decidable (_ ∧ _))

/-- The messages of the events that the dispatch of a command adds to the log. -/
def messages (s : HubSystem Out In EventOut EventIn) (cmd : CommandPacket) (st : MissionState) :
    List Text :=
  ((s.dispatchCommand cmd st.raw).log.drop s.log.length).filterMap fun action =>
    match action with
    | HubAction.event packet _ => some packet.message
    | _ => none

end HubSystem

/-! ## The text and what is left of it -/

/-- An opcode has at most ten digits. -/
theorem length_opcode_le (opcode : UInt32) : (decimal opcode.toNat).length ≤ 10 := by
  rw [length_decimal_le_iff (by decide)]
  have h := opcode.toNat_lt
  omega

/-- What the cut leaves: the opcode, and as much of the rest as there is room for. -/
theorem snprintf_blockedText (opcode : UInt32) (st : MissionState) :
    snprintf 28 (blockedText opcode st) = ascii "FSM_BLOCKED: OP" ++
      (decimal opcode.toNat ++ (inState st).take (12 - (decimal opcode.toNat).length)) := by
  have hlen := length_opcode_le opcode
  have hhead : (ascii "FSM_BLOCKED: OP").length = 15 := rfl
  unfold snprintf blockedText inState
  rw [List.append_assoc, List.append_assoc, List.take_append, List.take_append, hhead,
    List.take_of_length_le (by omega), List.take_of_length_le (by omega)]

/-- What follows the opcode does not start with a digit, wherever it is cut. -/
theorem takeWhile_take_inState (st : MissionState) (k : ℕ) :
    ((inState st).take k).takeWhile isDigit = [] := by
  rcases k with _ | k
  · rfl
  · cases st <;> rfl

/-- The opcode is read back from what the cut leaves. -/
theorem takeWhile_blockedText (opcode : UInt32) (st : MissionState) :
    ((snprintf 28 (blockedText opcode st)).drop 15).takeWhile isDigit = decimal opcode.toNat := by
  rw [snprintf_blockedText]
  show ((decimal opcode.toNat ++ _).takeWhile isDigit) = _
  rw [List.takeWhile_append_of_pos (isDigit_decimal _), takeWhile_take_inState, List.append_nil]

/-- Five characters tell the state. -/
theorem inState_injective {st st' : MissionState} {k : ℕ} (hk : 5 ≤ k)
    (h : (inState st).take k = (inState st').take k) : st = st' := by
  -- The fifth character is the first of the name.
  have hchar : (inState st)[4]? = (inState st')[4]? := by
    rw [← List.getElem?_take_of_lt (show 4 < k by omega), h,
      List.getElem?_take_of_lt (show 4 < k by omega)]
  cases st <;> cases st' <;> first | rfl | exact absurd hchar (by decide)

/-- Four characters do not. -/
theorem take_inState {k : ℕ} (hk : k ≤ 4) (st : MissionState) :
    (inState st).take k = (ascii " in ").take k := by
  unfold inState
  rw [List.take_append_of_le_length]
  exact hk

/-- Two cut texts are the same exactly when the opcodes are, and the states too unless the opcode
has more than seven digits. -/
theorem snprintf_blockedText_eq_iff (opcode opcode' : UInt32) (st st' : MissionState) :
    snprintf 28 (blockedText opcode st) = snprintf 28 (blockedText opcode' st') ↔
      opcode = opcode' ∧ (opcode.toNat < 10^7 → st = st') := by
  have hlen := length_opcode_le opcode
  have hseven : (decimal opcode.toNat).length ≤ 7 ↔ opcode.toNat < 10^7 :=
    length_decimal_le_iff (by decide)
  rw [← hseven]
  constructor
  · intro h
    have hdigits : decimal opcode.toNat = decimal opcode'.toNat := by
      rw [← takeWhile_blockedText opcode st, h, takeWhile_blockedText]
    have hop : opcode = opcode' := by
      apply UInt32.toNat_inj.mp
      calc opcode.toNat = digitsValue (decimal opcode.toNat) := (digitsValue_decimal _).symm
        _ = digitsValue (decimal opcode'.toNat) := by rw [hdigits]
        _ = opcode'.toNat := digitsValue_decimal _
    refine ⟨hop, fun hle => ?_⟩
    rw [snprintf_blockedText, snprintf_blockedText, ← hdigits] at h
    exact inState_injective (by omega) (List.append_cancel_left (List.append_cancel_left h))
  · rintro ⟨rfl, hst⟩
    rw [snprintf_blockedText, snprintf_blockedText]
    rcases Nat.lt_or_ge 7 (decimal opcode.toNat).length with h | h
    · rw [take_inState (by omega), take_inState (by omega)]
    · rw [hst h]

/-! ## The report -/

/-- No part of the text holds a zero byte. -/
theorem blockedText_ne_zero (opcode : UInt32) (st : MissionState) :
    ∀ c ∈ blockedText opcode st, c ≠ 0 := by
  have hhead : ∀ c ∈ ascii "FSM_BLOCKED: OP", c ≠ 0 := by decide +kernel
  have hstate : ∀ c ∈ inState st, c ≠ 0 := by cases st <;> decide +kernel
  intro c hc
  have hc' : c ∈ ascii "FSM_BLOCKED: OP" ∨ c ∈ decimal opcode.toNat ∨ c ∈ inState st := by
    simpa only [blockedText, inState, List.append_assoc, List.mem_append] using hc
  rcases hc' with h | h | h
  · exact hhead c h
  · rintro rfl
    exact absurd (isDigit_decimal _ _ h) (by decide)
  · exact hstate c h

/-- An event takes the cut text as it is. -/
theorem message_blockedText (sev src : UInt32) (opcode : UInt32) (st : MissionState) :
    (EventPacket.create sev src (snprintf 28 (blockedText opcode st))).message =
      snprintf 28 (blockedText opcode st) := by
  rw [EventPacket.message_create]
  · show (List.take 27 _).take 27 = List.take 27 _
    rw [List.take_take, Nat.min_self]
  · intro c hc
    exact blockedText_ne_zero opcode st c (List.mem_of_mem_take hc)

namespace HubSystem

variable {Out In EventOut EventIn : Type*} [DecidableEq In] [DecidableEq EventIn]

/-- A blocked command is answered with one message. -/
theorem messages_of_blocks {s : HubSystem Out In EventOut EventIn} {cmd : CommandPacket}
    {st : MissionState} (h : s.Blocks cmd st) :
    s.messages cmd st = [snprintf 28 (blockedText cmd.opcode st)] := by
  obtain ⟨sent, -, hlog, -⟩ :=
    s.sendAck_spec Severity.WARNING (snprintf 28 (blockedText cmd.opcode st))
  have hdispatch : (s.dispatchCommand cmd st.raw).log =
      (s.sendAck Severity.WARNING (snprintf 28 (blockedText cmd.opcode st))).log := by
    unfold dispatchCommand
    rw [if_pos (show _ ∧ _ from h)]
    rfl
  unfold messages
  rw [hdispatch, hlog, List.drop_left]
  exact congrArg (fun t => [t]) (message_blockedText _ _ _ _)

/-- Two reports of blocked commands with different opcodes or states are different exactly when the
opcodes differ or have at most seven digits. -/
theorem blocked_reports_differ_iff {s s' : HubSystem Out In EventOut EventIn}
    {cmd cmd' : CommandPacket} {st st' : MissionState} (h : s.Blocks cmd st)
    (h' : s'.Blocks cmd' st') :
    ∃ message message', s.messages cmd st = [message] ∧ s'.messages cmd' st' = [message'] ∧
      ((cmd.opcode ≠ cmd'.opcode ∨ st ≠ st' → message ≠ message') ↔
        (cmd.opcode = cmd'.opcode → st ≠ st' → cmd.opcode.toNat < 10^7)) := by
  refine ⟨_, _, messages_of_blocks h, messages_of_blocks h', ?_⟩
  rw [Ne, Ne, Ne, snprintf_blockedText_eq_iff]
  tauto

/-- Two opcodes of few digits give different reports. -/
theorem short_opcode_reports_differ :
    let s : HubSystem Unit Unit Unit Unit := HubSystem.create ⟨ascii "CmdHub", 11, 0⟩ () ()
    let cmd : CommandPacket := ⟨100, 9999999, Binary32.ofNat 0⟩
    ∃ message message', s.messages cmd MissionState.BOOT = [message] ∧
      s.messages cmd MissionState.SAFE_MODE = [message'] ∧ message ≠ message' := by
  intro s cmd
  have h : s.Blocks cmd MissionState.BOOT := by decide +kernel
  have h' : s.Blocks cmd MissionState.SAFE_MODE := by decide +kernel
  obtain ⟨message, message', hm, hm', hiff⟩ := blocked_reports_differ_iff h h'
  exact ⟨message, message', hm, hm', hiff.mpr (fun _ _ => by decide) (Or.inr (by decide))⟩

/-- The text of a blocked command can be told from its report exactly when the opcode has at most
seven digits. -/
theorem text_recovered_iff {s : HubSystem Out In EventOut EventIn} {cmd : CommandPacket}
    {st : MissionState} (h : s.Blocks cmd st) :
    (∀ (s' : HubSystem Out In EventOut EventIn) (cmd' : CommandPacket) (st' : MissionState),
      s'.Blocks cmd' st' → s'.messages cmd' st' = s.messages cmd st →
        blockedText cmd'.opcode st' = blockedText cmd.opcode st) ↔ cmd.opcode.toNat < 10^7 := by
  constructor
  · intro hall
    by_contra hlong
    -- A hub without tables blocks the command when it boots, and every hub in an emergency.
    let other : MissionState := if st = MissionState.BOOT then .EMERGENCY else .BOOT
    let bare : HubSystem Out In EventOut EventIn :=
      { s with hub := (CommandHub.create s.hub.base).setMissionStateSource true }
    have hother : other ≠ st := by cases st <;> decide
    have hblocks : bare.Blocks cmd other := by
      refine ⟨rfl, ?_⟩
      show MissionFsm.isAllowed other.raw OpClass.OPERATIONAL = false
      cases st <;> rfl
    have hmessages : bare.messages cmd other = s.messages cmd st := by
      rw [messages_of_blocks hblocks, messages_of_blocks h, List.singleton_inj,
        snprintf_blockedText_eq_iff]
      exact ⟨rfl, fun hshort => absurd hshort hlong⟩
    have htext := hall bare cmd other hblocks hmessages
    have hin : inState other = inState st := by
      unfold blockedText at htext
      rw [List.append_assoc, List.append_assoc (_ ++ _)] at htext
      exact List.append_cancel_left htext
    refine hother (inState_injective (k := 5) le_rfl ?_)
    rw [hin]
  · intro hshort s' cmd' st' h' hmessages
    rw [messages_of_blocks h', messages_of_blocks h, List.singleton_inj,
      snprintf_blockedText_eq_iff] at hmessages
    obtain ⟨hop, hst⟩ := hmessages
    rw [hop] at hst ⊢
    rw [hst hshort]

/-- An opcode of eight digits leaves no room for the state: the reports of one command, blocked
when the system boots and in safe mode, are the same. -/
theorem same_report_in_two_states :
    let s : HubSystem Unit Unit Unit Unit := HubSystem.create ⟨ascii "CmdHub", 11, 0⟩ () ()
    let cmd : CommandPacket := ⟨100, 10000000, Binary32.ofNat 0⟩
    s.Blocks cmd MissionState.BOOT ∧ s.Blocks cmd MissionState.SAFE_MODE ∧
      s.messages cmd MissionState.BOOT = [ascii "FSM_BLOCKED: OP10000000 in "] ∧
      s.messages cmd MissionState.SAFE_MODE = [ascii "FSM_BLOCKED: OP10000000 in "] := by
  decide +kernel

end HubSystem

end DeltaV
