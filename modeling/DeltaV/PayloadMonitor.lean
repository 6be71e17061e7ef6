import DeltaV.Conversions
import DeltaV.Lib.Runs
import DeltaV.Reporter

/-!
# The payload monitor

`PayloadMonitorComponent` keeps a gain and the last sample, which is a clamped argument times the
gain. A gain is refused by comparisons that hold, and a sample is clamped by two comparisons, so a
NaN passes both. Without NaNs the gain stays in `[0.1, 10]` and the sample in `[-1000, 1000]`: the
bounds of the argument and of the gain multiply to 1000, and rounding is monotone. Along a run the
two are bounded exactly as long as no command brings a NaN into them (`payload_bounded_iff`).
-/

namespace DeltaV

/-- The payload monitor. -/
structure PayloadMonitorComponent extends Reporter where
  enabled_ : Bool
  gain_ : Binary32
  last_sample_ : Binary32
  capture_count_ : UInt32

/-- `0.5f`. -/
def HALF : Binary32 := ⟨0x3F000000⟩

/-- `0.1f`, which lies just above a tenth. -/
def TENTH : Binary32 := ⟨0x3DCCCCCD⟩

namespace PayloadMonitorComponent

def OP_SET_ENABLE : UInt32 := 1

def OP_CAPTURE_SAMPLE : UInt32 := 2

def OP_SET_GAIN : UInt32 := 3

/-- A component as constructed. -/
def create (base : Component) : PayloadMonitorComponent :=
  { Reporter.create base with
    enabled_ := false
    gain_ := Binary32.ofNat 1
    last_sample_ := Binary32.ofNat 0
    capture_count_ := 0 }

/-- Starts the component. -/
def init (c : PayloadMonitorComponent) : PayloadMonitorComponent :=
  { c with
    enabled_ := false
    gain_ := Binary32.ofNat 1
    last_sample_ := Binary32.ofNat 0
    capture_count_ := 0 }

/-- Counts one error. -/
def recordError (c : PayloadMonitorComponent) : PayloadMonitorComponent :=
  { c with toReporter := c.toReporter.recordError }

/-- Sends an event. -/
def publishEvent (c : PayloadMonitorComponent) (severity : UInt32) (msg : Text) :
    PayloadMonitorComponent := { c with toReporter := c.toReporter.publishEvent severity msg }

/-- Executes a command. -/
def handleCommand (c : PayloadMonitorComponent) (cmd : CommandPacket) : PayloadMonitorComponent :=
  if cmd.opcode = OP_SET_ENABLE then
    let enabled := decide (HALF ≤ cmd.argument)
    { c with enabled_ := enabled }.publishEvent Severity.INFO
      (if enabled then ascii "PAYLOAD: Enabled" else ascii "PAYLOAD: Disabled")
  else if cmd.opcode = OP_CAPTURE_SAMPLE then
    if c.enabled_ = false then
      c.recordError.publishEvent Severity.WARNING (ascii "PAYLOAD: Capture rejected (disabled)")
    else
      { c with
        last_sample_ :=
          Binary32.clamp cmd.argument (Binary32.ofInt (-100)) (Binary32.ofNat 100) * c.gain_
        capture_count_ := c.capture_count_ + 1 }.publishEvent Severity.INFO
          (ascii "PAYLOAD: Sample captured")
  else if cmd.opcode = OP_SET_GAIN then
    if cmd.argument < TENTH ∨ Binary32.ofNat 10 < cmd.argument then
      c.recordError.publishEvent Severity.WARNING (ascii "PAYLOAD: Invalid gain")
    else
      { c with gain_ := cmd.argument }.publishEvent Severity.INFO (ascii "PAYLOAD: Gain updated")
  else c.recordError.publishEvent Severity.WARNING (ascii "PAYLOAD: Unknown opcode")

/-- Reports the last sample, or zero when the payload is disabled. -/
def reportHealth (c : PayloadMonitorComponent) (met : UInt32) : PayloadMonitorComponent :=
  { c with
    toReporter := c.toReporter.publishTelemetry met
      (if c.enabled_ then c.last_sample_ else Binary32.ofNat 0) }

/-- Executes the commands and reports. -/
def step (c : PayloadMonitorComponent) (cmds : List CommandPacket) (met : UInt32) :
    PayloadMonitorComponent := (cmds.foldl handleCommand c).reportHealth met

end PayloadMonitorComponent

/-- What can happen to the component after `init()`. -/
inductive PayloadMonitorOp where
  | handleCommand (cmd : CommandPacket)
  | reportHealth (met : UInt32)
  /-- Others send to and take from the queues behind the outputs. -/
  | outputs (event_out : Option (InputPort EventPacket DEFAULT_QUEUE_DEPTH))
    (telemetry_out : Option (InputPort (List UInt8) DEFAULT_QUEUE_DEPTH))

namespace PayloadMonitorComponent

/-- The next state. -/
def apply (c : PayloadMonitorComponent) : PayloadMonitorOp → PayloadMonitorComponent
  | PayloadMonitorOp.handleCommand cmd => c.handleCommand cmd
  | PayloadMonitorOp.reportHealth met => c.reportHealth met
  | PayloadMonitorOp.outputs event_out telemetry_out =>
    { c with toReporter := c.reconnect event_out telemetry_out }

/-- A call of `step()` is a run over its commands and the report. -/
theorem step_eq_run (c : PayloadMonitorComponent) (cmds : List CommandPacket) (met : UInt32) :
    c.step cmds met =
      run apply c (cmds.map PayloadMonitorOp.handleCommand ++
        [PayloadMonitorOp.reportHealth met]) := by
  rw [run_concat, run, List.foldl_map]
  rfl

/-! ## What a command does -/

/-- The gain and the last sample are in their ranges. -/
structure Bounded (c : PayloadMonitorComponent) : Prop where
  gain_ge : TENTH ≤ c.gain_
  gain_le : c.gain_ ≤ Binary32.ofNat 10
  sample_ge : Binary32.ofInt (-1000) ≤ c.last_sample_
  sample_le : c.last_sample_ ≤ Binary32.ofNat 1000

/-- The command is answered with a warning. -/
def Rejects (c : PayloadMonitorComponent) (cmd : CommandPacket) : Prop :=
  ∃ msg, (c.handleCommand cmd).published =
    c.published ++ [EventPacket.create Severity.WARNING c.getId msg]

/-- The four values of the payload are the same. -/
structure SamePayload (c c' : PayloadMonitorComponent) : Prop where
  enabled_eq : c'.enabled_ = c.enabled_
  gain_eq : c'.gain_ = c.gain_
  sample_eq : c'.last_sample_ = c.last_sample_
  count_eq : c'.capture_count_ = c.capture_count_

/-- A sample is captured. -/
def Captures (c : PayloadMonitorComponent) : PayloadMonitorOp → Prop
  | PayloadMonitorOp.handleCommand cmd => c.enabled_ = true ∧ cmd.opcode = OP_CAPTURE_SAMPLE
  | _ => False

instance (c : PayloadMonitorComponent) (op : PayloadMonitorOp) : Decidable (c.Captures op) :=
  match op with
  | PayloadMonitorOp.handleCommand _ => inferInstanceAs (Decidable (_ ∧ _))
  | PayloadMonitorOp.reportHealth _ => inferInstanceAs (Decidable False)
  | PayloadMonitorOp.outputs _ _ => inferInstanceAs (Decidable False)

/-- The number of samples captured in a run. -/
def captures (c : PayloadMonitorComponent) (ops : List PayloadMonitorOp) : ℕ :=
  (history apply c ops).countP fun p => decide (p.1.Captures p.2)

/-- No NaN is brought into the gain or into a sample. -/
def Ordered (c : PayloadMonitorComponent) : PayloadMonitorOp → Prop
  | PayloadMonitorOp.handleCommand cmd =>
    cmd.opcode = OP_SET_GAIN ∨ cmd.opcode = OP_CAPTURE_SAMPLE ∧ c.enabled_ = true →
      ¬cmd.argument.IsNaN
  | _ => True

/-- The sample that an argument makes. -/
def sampleOf (gain v : Binary32) : Binary32 :=
  Binary32.clamp v (Binary32.ofInt (-100)) (Binary32.ofNat 100) * gain

/-- What one operation does to the four values: it may switch the payload, capture a sample, or set
a gain that the comparisons do not refuse. -/
inductive Effect (c : PayloadMonitorComponent) (op : PayloadMonitorOp)
    (c' : PayloadMonitorComponent) : Prop where
  | switched (hcapture : ¬c.Captures op) (hordered : c.Ordered op) (b : Bool)
      (h : SamePayload { c with enabled_ := b } c')
  | captured (hcapture : c.Captures op) (v : Binary32) (hordered : c.Ordered op ↔ ¬v.IsNaN)
      (h : SamePayload { c with
        last_sample_ := sampleOf c.gain_ v
        capture_count_ := c.capture_count_ + 1 } c')
  | gained (hcapture : ¬c.Captures op) (v : Binary32) (hordered : c.Ordered op ↔ ¬v.IsNaN)
      (hrange : ¬(v < TENTH ∨ Binary32.ofNat 10 < v)) (h : SamePayload { c with gain_ := v } c')

/-- A rejected command changes none of the four values, and any other is answered with an event that
is no warning. -/
theorem handleCommand_published (c : PayloadMonitorComponent) (cmd : CommandPacket) :
    SamePayload c (c.handleCommand cmd) ∨
      ∃ msg, (c.handleCommand cmd).published =
        c.published ++ [EventPacket.create Severity.INFO c.getId msg] := by
  unfold handleCommand
  split_ifs
  · exact Or.inr ⟨_, rfl⟩
  · exact Or.inl ⟨rfl, rfl, rfl, rfl⟩
  · exact Or.inr ⟨_, rfl⟩
  · exact Or.inl ⟨rfl, rfl, rfl, rfl⟩
  · exact Or.inr ⟨_, rfl⟩
  · exact Or.inl ⟨rfl, rfl, rfl, rfl⟩

/-- A rejected command leaves the payload as it was. -/
theorem Rejects.samePayload {c : PayloadMonitorComponent} {cmd : CommandPacket}
    (h : c.Rejects cmd) : SamePayload c (c.handleCommand cmd) := by
  rcases c.handleCommand_published cmd with hsame | ⟨msg, hinfo⟩
  · exact hsame
  · obtain ⟨msg', hwarning⟩ := h
    have hpacket := List.singleton_inj.mp (List.append_cancel_left (hinfo.symm.trans hwarning))
    have hsev : Severity.INFO = Severity.WARNING := congrArg EventPacket.severity hpacket
    exact absurd hsev (by decide)

/-- The effect of a command. -/
theorem effect_handleCommand (c : PayloadMonitorComponent) (cmd : CommandPacket) :
    Effect c (PayloadMonitorOp.handleCommand cmd) (c.handleCommand cmd) := by
  have hcodes : OP_CAPTURE_SAMPLE ≠ OP_SET_GAIN := by decide
  by_cases hcapture : c.Captures (PayloadMonitorOp.handleCommand cmd)
  · obtain ⟨henabled, hop⟩ := hcapture
    refine Effect.captured ⟨henabled, hop⟩ cmd.argument ?_ ?_
    · exact ⟨fun h => h (Or.inr ⟨hop, henabled⟩), fun h _ => h⟩
    · unfold handleCommand
      rw [hop, if_neg (by decide), if_pos rfl, if_neg (by simp [henabled])]
      exact ⟨rfl, rfl, rfl, rfl⟩
  by_cases hgain : cmd.opcode = OP_SET_GAIN ∧
      ¬(cmd.argument < TENTH ∨ Binary32.ofNat 10 < cmd.argument)
  · obtain ⟨hop, hrange⟩ := hgain
    refine Effect.gained hcapture cmd.argument ?_ hrange ?_
    · exact ⟨fun h => h (Or.inl hop), fun h _ => h⟩
    · unfold handleCommand
      rw [hop, if_neg (by decide), if_neg hcodes.symm, if_pos rfl, if_neg hrange]
      exact ⟨rfl, rfl, rfl, rfl⟩
  · -- A gain that a comparison refuses is no NaN.
    have hordered : c.Ordered (PayloadMonitorOp.handleCommand cmd) := by
      rintro (hop | ⟨hop, henabled⟩) hnan
      · refine hgain ⟨hop, ?_⟩
        rintro (hlt | hlt)
        · exact hlt.1 hnan
        · exact hlt.2.1 hnan
      · exact hcapture ⟨henabled, hop⟩
    refine Effect.switched hcapture hordered (c.handleCommand cmd).enabled_ ?_
    unfold handleCommand
    split_ifs with h1 h2 h3 h4 h5
    · exact ⟨rfl, rfl, rfl, rfl⟩
    · exact ⟨rfl, rfl, rfl, rfl⟩
    · exact absurd ⟨Bool.eq_true_of_not_eq_false h3, h2⟩ hcapture
    · exact ⟨rfl, rfl, rfl, rfl⟩
    · exact absurd ⟨h4, h5⟩ hgain
    · exact ⟨rfl, rfl, rfl, rfl⟩

/-- The effect of an operation. -/
theorem effect_apply (c : PayloadMonitorComponent) (op : PayloadMonitorOp) :
    Effect c op (c.apply op) := by
  cases op with
  | handleCommand cmd => exact c.effect_handleCommand cmd
  | reportHealth met => exact Effect.switched id trivial c.enabled_ ⟨rfl, rfl, rfl, rfl⟩
  | outputs => exact Effect.switched id trivial c.enabled_ ⟨rfl, rfl, rfl, rfl⟩

/-! ## The bounds -/

/-- A number that the comparisons do not refuse is in the range. -/
theorem gain_mem {v : Binary32} (hv : ¬v.IsNaN) (h : ¬(v < TENTH ∨ Binary32.ofNat 10 < v)) :
    TENTH ≤ v ∧ v ≤ Binary32.ofNat 10 := by
  obtain ⟨hlo, hhi⟩ := not_or.mp h
  exact ⟨Binary32.le_of_not_lt hv (by decide +kernel) hlo,
    Binary32.le_of_not_lt (by decide +kernel) hv hhi⟩

/-- The bounds of the argument and of the gain multiply to 1000. -/
theorem sampleOf_mem {gain v : Binary32} (hv : ¬v.IsNaN) (hlo : TENTH ≤ gain)
    (hhi : gain ≤ Binary32.ofNat 10) :
    Binary32.ofInt (-1000) ≤ sampleOf gain v ∧ sampleOf gain v ≤ Binary32.ofNat 1000 := by
  have hkeys : (Binary32.ofInt (-100)).key = -(Binary32.ofNat 100).mag ∧
      (Binary32.ofNat 100).key = (Binary32.ofNat 100).mag ∧
      (Binary32.ofNat 10).key = (Binary32.ofNat 10).mag ∧ 0 ≤ TENTH.key := by decide +kernel
  have hkeys' : (Binary32.ofInt (-1000)).key = -(Binary32.ofNat 1000).mag ∧
      (Binary32.ofNat 1000).key = (Binary32.ofNat 1000).mag ∧
      Binary32.roundQuot (Binary32.ulps (Binary32.ofNat 100).mag *
        Binary32.ulps (Binary32.ofNat 10).mag) (2^149) = (Binary32.ofNat 1000).mag := by
    decide +kernel
  obtain ⟨hlo100, hhi100, hhi10, hpos⟩ := hkeys
  obtain ⟨hlo1000, hhi1000, hround⟩ := hkeys'
  obtain ⟨hclamp, hclamp'⟩ := Binary32.clamp_mem hv
    (show Binary32.ofInt (-100) ≤ Binary32.ofNat 100 by decide +kernel)
  have hsize : (Binary32.clamp v (Binary32.ofInt (-100)) (Binary32.ofNat 100)).mag ≤
      (Binary32.ofNat 100).mag :=
    Binary32.mag_le_iff.mpr ⟨hlo100 ▸ hclamp.2.2, hhi100 ▸ hclamp'.2.2⟩
  have hgain : gain.mag ≤ (Binary32.ofNat 10).mag := by
    have h1 := hlo.2.2
    have h2 := hhi.2.2
    exact Binary32.mag_le_iff.mpr ⟨by omega, by omega⟩
  obtain ⟨hnan, hmag⟩ := Binary32.mag_mul_le (by decide +kernel) (by decide +kernel) hsize hgain
  rw [hround, Binary32.mag_le_iff] at hmag
  refine ⟨⟨by decide +kernel, hnan, ?_⟩, hnan, by decide +kernel, ?_⟩
  · rw [hlo1000]
    exact hmag.1
  · rw [hhi1000]
    exact hmag.2

/-- A NaN makes a sample that is none. -/
theorem isNaN_sampleOf {gain v : Binary32} (hv : v.IsNaN) : (sampleOf gain v).IsNaN := by
  rw [sampleOf, Binary32.clamp_of_isNaN hv, Binary32.mul_of_isNaN (Or.inl hv)]
  decide

/-- Having the same payload is symmetric. -/
theorem SamePayload.symm {c c' : PayloadMonitorComponent} (h : SamePayload c c') :
    SamePayload c' c :=
  ⟨h.enabled_eq.symm, h.gain_eq.symm, h.sample_eq.symm, h.count_eq.symm⟩

/-- A payload that is the same is bounded too. -/
theorem SamePayload.bounded {c c' : PayloadMonitorComponent} (h : SamePayload c c')
    (hbounded : c.Bounded) : c'.Bounded := by
  obtain ⟨hgain, hgain', hsample, hsample'⟩ := hbounded
  rw [← h.gain_eq] at hgain hgain'
  rw [← h.sample_eq] at hsample hsample'
  exact ⟨hgain, hgain', hsample, hsample'⟩

/-- Of two components with the same payload, one is bounded exactly when the other is. -/
theorem SamePayload.bounded_iff {c c' : PayloadMonitorComponent} (h : SamePayload c c') :
    c'.Bounded ↔ c.Bounded := ⟨h.symm.bounded, h.bounded⟩

/-- From bounded values, an operation leads to bounded values exactly when it brings in no NaN. -/
theorem bounded_apply_iff {c : PayloadMonitorComponent} (h : c.Bounded) (op : PayloadMonitorOp) :
    (c.apply op).Bounded ↔ c.Ordered op := by
  obtain ⟨hgain, hgain', hsample, hsample'⟩ := h
  cases c.effect_apply op with
  | switched _ hordered b heffect =>
    rw [heffect.bounded_iff]
    exact iff_of_true ⟨hgain, hgain', hsample, hsample'⟩ hordered
  | captured _ v hordered heffect =>
    rw [heffect.bounded_iff, hordered]
    constructor
    · rintro ⟨-, -, hnew, -⟩ hnan
      exact hnew.2.1 (isNaN_sampleOf hnan)
    · intro hnan
      obtain ⟨hnew, hnew'⟩ := sampleOf_mem hnan hgain hgain'
      exact ⟨hgain, hgain', hnew, hnew'⟩
  | gained _ v hordered hrange heffect =>
    rw [heffect.bounded_iff, hordered]
    constructor
    · rintro ⟨hnew, -, -, -⟩
      exact hnew.2.1
    · intro hnan
      obtain ⟨hnew, hnew'⟩ := gain_mem hnan hrange
      exact ⟨hnew, hnew', hsample, hsample'⟩

/-- The payload that `init()` sets is bounded. -/
theorem bounded_init (c : PayloadMonitorComponent) : c.init.Bounded := by
  refine ⟨?_, ?_, ?_, ?_⟩
  · show TENTH ≤ Binary32.ofNat 1
    decide +kernel
  · show Binary32.ofNat 1 ≤ Binary32.ofNat 10
    decide +kernel
  · show Binary32.ofInt (-1000) ≤ Binary32.ofNat 0
    decide +kernel
  · show Binary32.ofNat 0 ≤ Binary32.ofNat 1000
    decide +kernel

/-! ## Runs -/

/-- The captures are counted modulo `2^32`. -/
theorem capture_count_run (c : PayloadMonitorComponent) (ops : List PayloadMonitorOp) :
    (run apply c ops).capture_count_ = c.capture_count_ + UInt32.ofNat (captures c ops) := by
  induction ops using List.reverseRecOn with
  | nil => exact (UInt32.add_zero _).symm
  | append_singleton ops op ih =>
    have hcount : captures c (ops ++ [op]) =
        captures c ops + if (run apply c ops).Captures op then 1 else 0 := by
      unfold captures
      rw [history_concat, List.countP_append, List.countP_singleton]
      simp only [decide_eq_true_eq]
    rw [run_concat, hcount]
    cases (run apply c ops).effect_apply op with
    | switched hcapture _ _ heffect =>
      rw [heffect.count_eq, if_neg hcapture, Nat.add_zero]
      exact ih
    | captured hcapture _ _ heffect =>
      rw [heffect.count_eq, if_pos hcapture, UInt32.ofNat_add, ← UInt32.add_assoc, ← ih]
      rfl
    | gained hcapture _ _ _ heffect =>
      rw [heffect.count_eq, if_neg hcapture, Nat.add_zero]
      exact ih

/-- After `init()` the captures are counted and a rejected command changes none of the four values;
gain and sample are bounded throughout exactly when no NaN is brought into them. -/
theorem payload_bounded_iff (c : PayloadMonitorComponent) (ops : List PayloadMonitorOp) :
    (∀ pre, pre <+: ops → (run apply c.init pre).Bounded ∧
        (run apply c.init pre).capture_count_.toNat = captures c.init pre % 2^32 ∧
        ∀ cmd, (run apply c.init pre).Rejects cmd →
          SamePayload (run apply c.init pre) ((run apply c.init pre).handleCommand cmd)) ↔
      Along apply Ordered c.init ops := by
  have hcount : ∀ pre, (run apply c.init pre).capture_count_.toNat =
      captures c.init pre % 2^32 := by
    intro pre
    rw [capture_count_run]
    show (0 + UInt32.ofNat _).toNat = _
    rw [UInt32.zero_add, UInt32.toNat_ofNat']
  have hkeep : ∀ s op, Bounded s → Ordered s op → Bounded (apply s op) :=
    fun s op h hop => (bounded_apply_iff h op).mpr hop
  have hexact : ∀ s op, Bounded s → Bounded (apply s op) → Ordered s op :=
    fun s op h hgood => (bounded_apply_iff h op).mp hgood
  have hbounded : (∀ pre, pre <+: ops → Bounded (run apply c.init pre)) ↔
      Along apply Ordered c.init ops :=
    forall_prefix_iff_along hkeep (fun _ h => h) hexact c.bounded_init ops
  rw [← hbounded]
  constructor
  · exact fun h pre hpre => (h pre hpre).1
  · exact fun h pre hpre => ⟨h pre hpre, hcount pre, fun cmd hreject => hreject.samePayload⟩

/-- A gain that is a NaN is accepted, and one that is above the range is not. -/
theorem nan_gain_accepted :
    let c := (create ⟨ascii "PayloadMonitor", 400, 0⟩).init
    let set_gain (v : Binary32) := PayloadMonitorOp.handleCommand ⟨400, OP_SET_GAIN, v⟩
    (run apply c [set_gain Binary32.nan]).gain_ = Binary32.nan ∧
      ¬(run apply c [set_gain Binary32.nan]).Bounded ∧
      (run apply c [set_gain (Binary32.ofNat 99)]).gain_ = Binary32.ofNat 1 := by
  intro c set_gain
  have hgain : (run apply c [set_gain Binary32.nan]).gain_ = Binary32.nan := by decide +kernel
  refine ⟨hgain, ?_, by decide +kernel⟩
  rintro ⟨hge, -, -, -⟩
  rw [hgain] at hge
  exact absurd hge (by decide +kernel)

end PayloadMonitorComponent

end DeltaV
