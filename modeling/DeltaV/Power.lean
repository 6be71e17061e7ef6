import Mathlib.Algebra.Order.Field.Rat
import Mathlib.Tactic.FieldSimp
import DeltaV.Lib.RoundingError
import DeltaV.Lib.Runs
import DeltaV.PayloadMonitor

/-!
# The battery

`PowerComponent` simulates a battery: every tick takes the drain rate off the state of charge, in
single precision, and stops at zero. Up to 128 a difference is off by at most `2^-18`, so over `n`
ticks at the rate `d` the charge stays between `n (d + 2^-18)` and `n (d - 2^-18)` below its start.
A rate above `2^-18` therefore empties the battery, and a smaller one, which the command accepts as
well, leaves a full battery full for ever (`battery_discharges`).
-/

namespace DeltaV

/-- The battery. -/
structure PowerComponent extends Reporter where
  soc : Binary32
  drain_rate : Binary32
  /-- The queue that `battery_out_internal` is connected to. -/
  battery_out_internal : Option (InputPort Binary32 DEFAULT_QUEUE_DEPTH)

namespace PowerComponent

def RESET_BATTERY : UInt32 := 1

def SET_DRAIN_RATE : UInt32 := 2

/-- A component as constructed. -/
def create (base : Component) : PowerComponent :=
  { Reporter.create base with
    soc := Binary32.ofNat 100
    drain_rate := TENTH
    battery_out_internal := none }

/-- Starts the component. -/
def init (c : PowerComponent) : PowerComponent :=
  { c with soc := Binary32.ofNat 100, drain_rate := TENTH }

/-- Counts one error. -/
def recordError (c : PowerComponent) : PowerComponent :=
  { c with toReporter := c.toReporter.recordError }

/-- Sends an event. -/
def publishEvent (c : PowerComponent) (severity : UInt32) (msg : Text) : PowerComponent :=
  { c with toReporter := c.toReporter.publishEvent severity msg }

/-- Executes a command. -/
def handleCommand (c : PowerComponent) (cmd : CommandPacket) : PowerComponent :=
  if cmd.opcode = RESET_BATTERY then
    { c with soc := Binary32.ofNat 100 }.publishEvent Severity.INFO
      (ascii "BATT: SOC reset to 100%")
  else if cmd.opcode = SET_DRAIN_RATE then
    if Binary32.ofNat 0 ≤ cmd.argument ∧ cmd.argument ≤ Binary32.ofNat 10 then
      { c with drain_rate := cmd.argument }.publishEvent Severity.INFO
        (ascii "BATT: Drain rate updated")
    else c.recordError.publishEvent Severity.WARNING (ascii "BATT: Invalid drain rate arg")
  else c.recordError.publishEvent Severity.WARNING (ascii "BATT: Unknown opcode")

/-- The discharge simulation of a tick. -/
def discharge (c : PowerComponent) : PowerComponent :=
  if Binary32.ofNat 0 < c.soc then
    { c with soc := Binary32.max (Binary32.ofNat 0) (c.soc - c.drain_rate) }
  else c

/-- Sends the state of charge to the watchdog. -/
def sendSample (c : PowerComponent) : PowerComponent :=
  let s := c.base.sendOrRecordError c.battery_out_internal c.soc
  { c with base := s.1, battery_out_internal := s.2 }

/-- The part of a tick after the commands. -/
def tick (c : PowerComponent) (met : UInt32) : PowerComponent :=
  let c := c.discharge
  { c with toReporter := c.toReporter.publishTelemetry met c.soc }.sendSample

/-- Executes the commands and discharges. -/
def step (c : PowerComponent) (cmds : List CommandPacket) (met : UInt32) : PowerComponent :=
  (cmds.foldl handleCommand c).tick met

end PowerComponent

/-- What can happen to the component after `init()`. -/
inductive PowerOp where
  | handleCommand (cmd : CommandPacket)
  | tick (met : UInt32)
  /-- Others send to and take from the queues behind the outputs. -/
  | outputs (event_out : Option (InputPort EventPacket DEFAULT_QUEUE_DEPTH))
    (telemetry_out : Option (InputPort (List UInt8) DEFAULT_QUEUE_DEPTH))
    (battery_out_internal : Option (InputPort Binary32 DEFAULT_QUEUE_DEPTH))

namespace PowerComponent

/-- The next state. -/
def apply (c : PowerComponent) : PowerOp → PowerComponent
  | PowerOp.handleCommand cmd => c.handleCommand cmd
  | PowerOp.tick met => c.tick met
  | PowerOp.outputs event_out telemetry_out battery_out_internal =>
    { c with
      toReporter := c.reconnect event_out telemetry_out
      battery_out_internal := battery_out_internal }

/-- A call of `step()` is a run over its commands and the tick. -/
theorem step_eq_run (c : PowerComponent) (cmds : List CommandPacket) (met : UInt32) :
    c.step cmds met = run apply c (cmds.map PowerOp.handleCommand ++ [PowerOp.tick met]) := by
  rw [run_concat, run, List.foldl_map]
  rfl

/-- The command sets the drain rate. -/
def SetsRate (cmd : CommandPacket) : Prop :=
  cmd.opcode = SET_DRAIN_RATE ∧ Binary32.ofNat 0 ≤ cmd.argument ∧
    cmd.argument ≤ Binary32.ofNat 10

/-- The operation neither charges the battery nor sets the drain rate. -/
def Steady : PowerOp → Prop
  | PowerOp.handleCommand cmd => cmd.opcode ≠ RESET_BATTERY ∧ ¬SetsRate cmd
  | _ => True

/-- The number of ticks. -/
def ticks (ops : List PowerOp) : ℕ :=
  ops.countP fun op =>
    match op with
    | PowerOp.tick _ => true
    | _ => false

/-- The state of charge is a percentage, and the drain rate is in its range. -/
structure Rated (c : PowerComponent) : Prop where
  soc_ge : Binary32.ofNat 0 ≤ c.soc
  soc_le : c.soc ≤ Binary32.ofNat 100
  rate_ge : Binary32.ofNat 0 ≤ c.drain_rate
  rate_le : c.drain_rate ≤ Binary32.ofNat 10

/-! ## What an operation does -/

/-- The battery is as it was. -/
structure SameBattery (c c' : PowerComponent) : Prop where
  soc_eq : c'.soc = c.soc
  rate_eq : c'.drain_rate = c.drain_rate

/-- What one operation does to the battery: it leaves it alone, charges it, sets the rate, or is a
tick that discharges. -/
inductive Effect (c : PowerComponent) (op : PowerOp) (c' : PowerComponent) : Prop where
  | same (hcount : ticks [op] = 0) (h : SameBattery c c')
  | charged (hnot : ¬Steady op) (h : SameBattery { c with soc := Binary32.ofNat 100 } c')
  | rated (hnot : ¬Steady op) (v : Binary32) (h0 : Binary32.ofNat 0 ≤ v)
    (h10 : v ≤ Binary32.ofNat 10) (h : SameBattery { c with drain_rate := v } c')
  | discharged (hcount : ticks [op] = 1) (h : SameBattery c.discharge c')

/-- The effect of a command. -/
theorem effect_handleCommand (c : PowerComponent) (cmd : CommandPacket) :
    Effect c (PowerOp.handleCommand cmd) (c.handleCommand cmd) := by
  unfold handleCommand
  split_ifs with hreset hrate hrange
  · exact Effect.charged (fun h => h.1 hreset) ⟨rfl, rfl⟩
  · exact Effect.rated (fun h => h.2 ⟨hrate, hrange⟩) _ hrange.1 hrange.2 ⟨rfl, rfl⟩
  · exact Effect.same rfl ⟨rfl, rfl⟩
  · exact Effect.same rfl ⟨rfl, rfl⟩

/-- The effect of an operation. -/
theorem effect_apply (c : PowerComponent) (op : PowerOp) : Effect c op (c.apply op) := by
  cases op with
  | handleCommand cmd => exact c.effect_handleCommand cmd
  | tick met => exact Effect.discharged rfl ⟨rfl, rfl⟩
  | outputs => exact Effect.same rfl ⟨rfl, rfl⟩

/-! ## One tick -/

/-- A percentage in units. -/
theorem units_ofNat_hundred :
    (Binary32.ofNat 100).units = 100 * 2^149 ∧ (Binary32.ofNat 10).units = 10 * 2^149 ∧
      (Binary32.ofNat 100).IsFinite ∧ (Binary32.ofNat 10).IsFinite := by
  decide +kernel

/-- The charge and the rate of a battery in units. -/
theorem Rated.units {c : PowerComponent} (h : c.Rated) :
    (0 ≤ c.soc.units ∧ c.soc.units ≤ 100 * 2^149) ∧
      0 ≤ c.drain_rate.units ∧ c.drain_rate.units ≤ 10 * 2^149 := by
  obtain ⟨h100, h10, -, -⟩ := units_ofNat_hundred
  have h1 := (Binary32.le_iff_units.mp h.soc_ge).2.2
  have h2 := (Binary32.le_iff_units.mp h.soc_le).2.2
  have h3 := (Binary32.le_iff_units.mp h.rate_ge).2.2
  have h4 := (Binary32.le_iff_units.mp h.rate_le).2.2
  rw [Binary32.units_ofNat_zero] at h1 h3
  rw [h100] at h2
  rw [h10] at h4
  exact ⟨⟨h1, h2⟩, h3, h4⟩

/-- The charge and the rate of a battery are finite. -/
theorem Rated.isFinite {c : PowerComponent} (h : c.Rated) :
    c.soc.IsFinite ∧ c.drain_rate.IsFinite := by
  obtain ⟨-, -, h100, h10⟩ := units_ofNat_hundred
  exact ⟨Binary32.isFinite_of_mem h100 h.soc_ge h.soc_le,
    Binary32.isFinite_of_mem h10 h.rate_ge h.rate_le⟩

/-- What a tick takes off, in units: the drain rate up to a rounding error of `2^131` units, and not
more than there is. -/
structure Discharges (c c' : PowerComponent) : Prop where
  rate_eq : c'.drain_rate = c.drain_rate
  nonneg : 0 ≤ c'.soc.units
  le : c'.soc.units ≤ c.soc.units
  le_max : c'.soc.units ≤ max 0 (c.soc.units - c.drain_rate.units + 2^131)
  ge : c.soc.units - c.drain_rate.units - 2^131 ≤ c'.soc.units
  full : c.drain_rate.units ≤ 2^131 → c.soc.units = 100 * 2^149 → c'.soc.units = 100 * 2^149

/-- A full battery stays full at a rate of half the gap below 100: at the midpoint the even
neighbour wins. -/
theorem roundUnits_full {z : ℤ} (hlo : 100 * 2^149 - 2^131 ≤ z) (hhi : z ≤ 100 * 2^149) :
    (Binary32.roundUnits z).units = 100 * 2^149 := by
  have hmid : (Binary32.roundUnits (100 * 2^149 - 2^131)).units = 100 * 2^149 := by decide +kernel
  have htop : (Binary32.roundUnits (100 * 2^149)).units = 100 * 2^149 := by decide +kernel
  have h1 := Binary32.units_roundUnits_le hlo
  have h2 := Binary32.units_roundUnits_le hhi
  omega

/-- A tick of a battery in its range. -/
theorem Rated.discharges {c : PowerComponent} (h : c.Rated) :
    Discharges c c.discharge ∧ c.discharge.Rated := by
  obtain ⟨⟨hsoc, hsoc'⟩, hrate, hrate'⟩ := h.units
  obtain ⟨hfinite, hfinite'⟩ := h.isFinite
  obtain ⟨h100, -, hfinite100, -⟩ := units_ofNat_hundred
  by_cases hpos : Binary32.ofNat 0 < c.soc
  · have hdef : c.discharge =
        { c with soc := Binary32.max (Binary32.ofNat 0) (c.soc - c.drain_rate) } := if_pos hpos
    obtain ⟨hunits, hnan⟩ := Binary32.units_sub hfinite hfinite'
    obtain ⟨hnan', hmax⟩ := Binary32.max_zero_spec hnan
    -- The exact difference lies within 128, where half of the gap is `2^131` units.
    have herror := Binary32.sub_error hfinite hfinite' (show 133 < 254 by decide)
      (by rw [abs_lt]; constructor <;> norm_num <;> omega)
    obtain ⟨herror1, herror2⟩ := abs_le.mp (show |(c.soc - c.drain_rate).units -
      (c.soc.units - c.drain_rate.units)| ≤ 2^131 by norm_num at herror ⊢; omega)
    -- Rounding does not go above the charge before.
    have hle : (c.soc - c.drain_rate).units ≤ c.soc.units := by
      rw [hunits, ← Binary32.units_roundUnits_units hfinite.not_isNaN]
      exact Binary32.units_roundUnits_le
        (by rw [Binary32.units_roundUnits_units hfinite.not_isNaN]; omega)
    have hfull : c.drain_rate.units ≤ 2^131 → c.soc.units = 100 * 2^149 →
        (c.soc - c.drain_rate).units = 100 * 2^149 := by
      intro hsmall heq
      rw [hunits]
      exact roundUnits_full (by omega) (by omega)
    rw [hdef]
    refine ⟨⟨rfl, ?_, ?_, ?_, ?_, fun hsmall heq => ?_⟩, ?_, ?_, h.rate_ge, h.rate_le⟩
    · show 0 ≤ (Binary32.max (Binary32.ofNat 0) (c.soc - c.drain_rate)).units
      omega
    · show (Binary32.max (Binary32.ofNat 0) (c.soc - c.drain_rate)).units ≤ _
      omega
    · show (Binary32.max (Binary32.ofNat 0) (c.soc - c.drain_rate)).units ≤ _
      omega
    · show _ ≤ (Binary32.max (Binary32.ofNat 0) (c.soc - c.drain_rate)).units
      omega
    · show (Binary32.max (Binary32.ofNat 0) (c.soc - c.drain_rate)).units = _
      have hvalue := hfull hsmall heq
      omega
    · show Binary32.ofNat 0 ≤ Binary32.max (Binary32.ofNat 0) (c.soc - c.drain_rate)
      rw [Binary32.le_iff_units, Binary32.units_ofNat_zero]
      exact ⟨Binary32.not_isNaN_ofNat_zero, hnan', by omega⟩
    · show Binary32.max (Binary32.ofNat 0) (c.soc - c.drain_rate) ≤ Binary32.ofNat 100
      rw [Binary32.le_iff_units, h100]
      exact ⟨hnan', hfinite100.not_isNaN, by omega⟩
  · -- An empty battery stays empty.
    have hdef : c.discharge = c := if_neg hpos
    have hzero : c.soc.units = 0 := by
      by_contra hne
      refine hpos ⟨Binary32.not_isNaN_ofNat_zero, hfinite.not_isNaN, ?_⟩
      by_contra hkey
      have hle := Binary32.units_le_iff.mpr (not_lt.mp hkey)
      rw [Binary32.units_ofNat_zero] at hle
      omega
    rw [hdef]
    exact ⟨⟨rfl, hsoc, le_rfl, by omega, by omega, fun _ h => h⟩, h⟩

/-! ## Runs -/

/-- A full battery is in its range. -/
theorem full_mem : Binary32.ofNat 0 ≤ Binary32.ofNat 100 ∧ Binary32.ofNat 100 ≤ Binary32.ofNat 100 := by
  decide +kernel

/-- Every operation keeps the battery in its range. -/
theorem Rated.apply {c : PowerComponent} (h : c.Rated) (op : PowerOp) : (c.apply op).Rated := by
  have hkeep {c₁ c₂ : PowerComponent} (hsame : SameBattery c₁ c₂) (h₁ : c₁.Rated) : c₂.Rated := by
    obtain ⟨h1, h2, h3, h4⟩ := h₁
    rw [← hsame.soc_eq] at h1 h2
    rw [← hsame.rate_eq] at h3 h4
    exact ⟨h1, h2, h3, h4⟩
  cases c.effect_apply op with
  | same _ hsame => exact hkeep hsame h
  | charged _ hsame => exact hkeep hsame ⟨full_mem.1, full_mem.2, h.rate_ge, h.rate_le⟩
  | rated _ v h0 h10 hsame => exact hkeep hsame ⟨h.soc_ge, h.soc_le, h0, h10⟩
  | discharged _ hsame => exact hkeep hsame h.discharges.2

/-- The battery that `init()` sets is rated. -/
theorem rated_init (c : PowerComponent) : c.init.Rated := by
  refine ⟨?_, ?_, ?_, ?_⟩
  · exact full_mem.1
  · exact full_mem.2
  · show Binary32.ofNat 0 ≤ TENTH
    decide +kernel
  · show TENTH ≤ Binary32.ofNat 10
    decide +kernel

/-- After `n` ticks without a charge at one rate. -/
structure Drained (c : PowerComponent) (n : ℕ) (c' : PowerComponent) : Prop where
  rate_eq : c'.drain_rate = c.drain_rate
  nonneg : 0 ≤ c'.soc.units
  le : c'.soc.units ≤ c.soc.units
  le_max : c'.soc.units ≤ max 0 (c.soc.units - n * (c.drain_rate.units - 2^131))
  ge : c.soc.units - n * (c.drain_rate.units + 2^131) ≤ c'.soc.units
  full : c.drain_rate.units ≤ 2^131 → c.soc.units = 100 * 2^149 → c'.soc.units = 100 * 2^149

/-- No discharge leaves the battery where it was. -/
theorem Drained.refl {c : PowerComponent} (h : c.Rated) : Drained c 0 c := by
  obtain ⟨⟨hsoc, -⟩, -, -⟩ := h.units
  exact ⟨rfl, hsoc, le_rfl, by omega, by omega, fun _ h => h⟩

/-- The bounds are kept by a tick. -/
theorem Drained.tick {c c' c'' : PowerComponent} {n : ℕ} (h : Drained c n c')
    (h' : Discharges c' c'') : Drained c (n + 1) c'' := by
  have hrate := h.rate_eq
  have hnonneg := h.nonneg
  have hle := h.le
  have hmax := h.le_max
  have hge := h.ge
  have hle' := h'.le
  have hmax' := h'.le_max
  have hge' := h'.ge
  rw [hrate] at hmax' hge'
  have hsucc (x : ℤ) : ((n + 1 : ℕ) : ℤ) * x = n * x + x := by push_cast; ring
  refine ⟨h'.rate_eq.trans hrate, h'.nonneg, hle'.trans hle, ?_, ?_, fun hsmall heq => ?_⟩
  · -- An empty battery is below every bound, and another one has its bound above zero.
    rw [hsucc]
    generalize (n : ℤ) * (c.drain_rate.units - 2^131) = x at *
    omega
  · rw [hsucc]
    generalize (n : ℤ) * (c.drain_rate.units + 2^131) = x at *
    omega
  · exact h'.full (by rwa [hrate]) (h.full hsmall heq)

/-- A run without a charge and with one rate. -/
theorem drained_run {c : PowerComponent} (hc : c.Rated) (ops : List PowerOp)
    (hops : ∀ op ∈ ops, Steady op) :
    (run apply c ops).Rated ∧ Drained c (ticks ops) (run apply c ops) := by
  induction ops using List.reverseRecOn with
  | nil => exact ⟨hc, Drained.refl hc⟩
  | append_singleton ops op ih =>
    obtain ⟨hrated, hdrained⟩ := ih fun op' h => hops op' (List.mem_append_left _ h)
    have hsteady := hops op (List.mem_append_right _ (List.mem_singleton_self op))
    have hcount : ticks (ops ++ [op]) = ticks ops + ticks [op] := List.countP_append ..
    rw [run_concat, hcount]
    refine ⟨hrated.apply op, ?_⟩
    cases (run apply c ops).effect_apply op with
    | same hzero hsame =>
      obtain ⟨h1, h2, h3, h4, h5, h6⟩ := hdrained
      rw [← hsame.soc_eq] at h2 h3 h4 h5 h6
      rw [hzero]
      exact ⟨hsame.rate_eq.trans h1, h2, h3, h4, h5, h6⟩
    | charged hnot _ => exact absurd hsteady hnot
    | rated hnot _ _ _ _ => exact absurd hsteady hnot
    | discharged hone hsame =>
      obtain ⟨h1, h2, h3, h4, h5, h6⟩ := hrated.discharges.1
      rw [← hsame.soc_eq] at h2 h3 h4 h5 h6
      rw [hone]
      exact hdrained.tick ⟨hsame.rate_eq.trans h1, h2, h3, h4, h5, h6⟩

/-- The largest rounding error of a tick. -/
def ROUNDING : ℚ := 1 / 2^18

/-- The largest rounding error in units. -/
theorem rounding_eq : ROUNDING = (2^131 : ℤ) / 2^149 := by
  norm_num [ROUNDING]

/-- A rate of at most the largest rounding error, in units. -/
theorem toRat_le_rounding_iff {x : Binary32} : x.toRat ≤ ROUNDING ↔ x.units ≤ 2^131 := by
  rw [rounding_eq, Binary32.toRat, div_le_div_iff_of_pos_right (by positivity)]
  exact_mod_cast Iff.rfl

/-- The command accepts the rates of at most the largest rounding error. -/
theorem drain_rate_handleCommand (c : PowerComponent) {cmd : CommandPacket}
    (hopcode : cmd.opcode = SET_DRAIN_RATE) (hnonneg : Binary32.ofNat 0 ≤ cmd.argument)
    (hsmall : cmd.argument.toRat ≤ ROUNDING) :
    (c.handleCommand cmd).drain_rate = cmd.argument := by
  have hreset : cmd.opcode ≠ RESET_BATTERY := hopcode ▸ by decide
  have hle : cmd.argument ≤ Binary32.ofNat 10 := by
    obtain ⟨-, h10, -, hfinite⟩ := units_ofNat_hundred
    have hunits := toRat_le_rounding_iff.mp hsmall
    refine Binary32.le_iff_units.mpr
      ⟨(Binary32.le_iff_units.mp hnonneg).2.1, hfinite.not_isNaN, ?_⟩
    rw [h10]
    omega
  rw [handleCommand, if_neg hreset, if_pos hopcode, if_pos ⟨hnonneg, hle⟩]
  rfl

/-- The state of charge after `n` ticks without a charge at one rate, in percent. -/
structure Charge (c : PowerComponent) (n : ℕ) (c' : PowerComponent) : Prop where
  nonneg : 0 ≤ c'.soc.toRat
  le : c'.soc.toRat ≤ c.soc.toRat
  le_max : c'.soc.toRat ≤ max 0 (c.soc.toRat - n * (c.drain_rate.toRat - ROUNDING))
  ge : c.soc.toRat - n * (c.drain_rate.toRat + ROUNDING) ≤ c'.soc.toRat
  full : c.drain_rate.toRat ≤ ROUNDING → c.soc.toRat = 100 → c'.soc.toRat = 100

/-- The bounds in percent are those in units. -/
theorem Drained.charge {c c' : PowerComponent} {n : ℕ} (h : Drained c n c') : Charge c n c' := by
  have hunit : (0 : ℚ) < 2^149 := by positivity
  have hscale {a b : ℤ} (hab : a ≤ b) : (a : ℚ) / 2^149 ≤ b / 2^149 :=
    div_le_div_of_nonneg_right (by exact_mod_cast hab) hunit.le
  have hfull (x : Binary32) : x.toRat = 100 ↔ x.units = 100 * 2^149 := by
    rw [Binary32.toRat, div_eq_iff hunit.ne']
    exact_mod_cast Iff.rfl
  have hmax := hscale h.le_max
  have hge := hscale h.ge
  refine ⟨div_nonneg (by exact_mod_cast h.nonneg) hunit.le, hscale h.le, ?_, ?_,
    fun hsmall heq => ?_⟩
  · calc c'.soc.toRat ≤ _ := hmax
      _ = max (0 / 2^149) ((c.soc.units - n * (c.drain_rate.units - 2^131) : ℚ) / 2^149) := by
        rw [max_div_div_right hunit.le]
        push_cast
        rfl
      _ = max 0 (c.soc.toRat - n * (c.drain_rate.toRat - ROUNDING)) := by
        rw [zero_div, rounding_eq, Binary32.toRat, Binary32.toRat]
        congr 1
        push_cast
        ring
  · have hvalue : c.soc.toRat - n * (c.drain_rate.toRat + ROUNDING) =
        ((c.soc.units - n * (c.drain_rate.units + 2^131) : ℤ) : ℚ) / 2^149 := by
      rw [rounding_eq, Binary32.toRat, Binary32.toRat]
      push_cast
      ring
    exact hvalue.le.trans hge
  · exact (hfull c'.soc).mpr (h.full (toRat_le_rounding_iff.mp hsmall) ((hfull c.soc).mp heq))

/-- The battery after `init()`, over every run. The state of charge is always a percentage and the
drain rate in its range. From any state of the run, over `n` ticks without `RESET_BATTERY` and with
the drain rate `d` unchanged, the charge falls by `n d` up to the rounding: it never rises, lies
between `n (d + 2^-18)` and `n (d - 2^-18)` below the start, and is zero when the latter is used up.
At a rate of at most `2^-18`, which the command accepts, a full battery stays full. -/
theorem battery_discharges (c : PowerComponent) (ops seg : List PowerOp)
    (hseg : ∀ op ∈ seg, Steady op) :
    let s := run apply c.init ops
    let s' := run apply s seg
    s.Rated ∧ s'.drain_rate = s.drain_rate ∧ Charge s (ticks seg) s' ∧
      (s.soc.toRat ≤ ticks seg * (s.drain_rate.toRat - ROUNDING) → s'.soc.toRat = 0) ∧
      ∀ cmd, cmd.opcode = SET_DRAIN_RATE → Binary32.ofNat 0 ≤ cmd.argument →
        cmd.argument.toRat ≤ ROUNDING → (s.handleCommand cmd).drain_rate = cmd.argument := by
  intro s s'
  have hrated : s.Rated := run_invariant (fun _ op h => h.apply op) c.rated_init ops
  obtain ⟨-, hdrained⟩ := drained_run hrated seg hseg
  have hcharge := hdrained.charge
  refine ⟨hrated, hdrained.rate_eq, hcharge, fun hempty => le_antisymm ?_ hcharge.nonneg,
    fun cmd => s.drain_rate_handleCommand⟩
  exact hcharge.le_max.trans (max_le le_rfl (by linarith))

/-- A thousand and one ticks at the built-in rate. -/
def builtinTicks : List PowerOp := List.replicate 1001 (PowerOp.tick 0)

/-- At the built-in rate the battery is empty after 1001 ticks, and the command accepts the rate of
`2^-18`. -/
theorem battery_discharges_builtin :
    let c := create (Component.create (ascii "BatterySystem") 200)
    (run apply c.init builtinTicks).soc.toRat = 0 ∧
      (c.init.handleCommand ⟨200, SET_DRAIN_RATE, ⟨0x36800000⟩⟩).drain_rate = ⟨0x36800000⟩ := by
  intro c
  have hticks : ticks builtinTicks = 1001 := by
    rw [ticks, builtinTicks, List.countP_replicate]
    rfl
  have hrate : TENTH.units = 13421773 * 2^122 := by decide +kernel
  have hsteady : ∀ op ∈ builtinTicks, Steady op := by
    intro op hop
    rw [List.eq_of_mem_replicate hop]
    trivial
  obtain ⟨-, -, -, hempty, haccepts⟩ := battery_discharges c [] builtinTicks hsteady
  refine ⟨hempty ?_, haccepts ⟨200, SET_DRAIN_RATE, ⟨0x36800000⟩⟩ rfl ?_ ?_⟩
  · show (Binary32.ofNat 100).toRat ≤ ticks builtinTicks * (TENTH.toRat - ROUNDING)
    rw [hticks, Binary32.toRat, Binary32.toRat, units_ofNat_hundred.1, hrate, ROUNDING]
    norm_num
  · decide +kernel
  · exact toRat_le_rounding_iff.mpr (by decide +kernel)

end PowerComponent

end DeltaV
