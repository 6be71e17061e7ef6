import DeltaV.FloatWords
import DeltaV.Lib.Logs
import DeltaV.Reporter
import DeltaV.TimeService
import Mathlib.Tactic.FinCases

/-!
# Ground time synchronisation

The ground sends a UTC time in milliseconds as four words of 16 bits, each in a command of its own,
and then a command that sets the offset of the time service from the words staged last. A word comes
back exactly from the float that carries it (`toU16_ofNat`), so after any history the offset is the
time that the ground has sent minus the mission elapsed time (`utc_never_backwards`).
-/

namespace DeltaV

/-- The component, and the time service that it reads and sets. -/
structure TimeSyncComponent extends Reporter where
  words_ : Fin 4 → UInt16
  time : TimeService

namespace TimeSyncComponent

def OP_SET_UTC_HI16 : UInt32 := 1

def OP_SET_UTC_MIDHI16 : UInt32 := 2

def OP_SET_UTC_MIDLO16 : UInt32 := 3

def OP_SET_UTC_LO16 : UInt32 := 4

def OP_APPLY_SYNC : UInt32 := 5

def OP_PUBLISH_STATUS : UInt32 := 6

/-- A component as constructed. -/
def create (base : Component) : TimeSyncComponent :=
  { Reporter.create base with words_ := fun _ => 0, time := TimeService.initEpoch }

/-- Counts one error. -/
def recordError (c : TimeSyncComponent) : TimeSyncComponent :=
  { c with toReporter := c.toReporter.recordError }

/-- Sends an event. -/
def publishEvent (c : TimeSyncComponent) (severity : UInt32) (msg : Text) : TimeSyncComponent :=
  { c with toReporter := c.toReporter.publishEvent severity msg }

/-- A float as a word. Unlike the conversion of the other components, this one compares with the
limits strictly. -/
def toU16 (value : Binary32) : UInt16 :=
  if ¬value.IsFinite ∨ value < Binary32.ofNat 0 then 0
  else if Binary32.ofNat 65535 < value then 65535
  else UInt16.ofNat value.trunc.toNat

/-- The UTC time that the words make up. -/
def composeUtcMs (c : TimeSyncComponent) : UInt64 :=
  (c.words_ 0).toUInt64 <<< 48 ||| (c.words_ 1).toUInt64 <<< 32 ||| (c.words_ 2).toUInt64 <<< 16 |||
    (c.words_ 3).toUInt64

/-- Stages a word. -/
def setWord (c : TimeSyncComponent) (i : Fin 4) (argument : Binary32) (msg : Text) :
    TimeSyncComponent :=
  { c with words_ := Function.update c.words_ i (toU16 argument) }.publishEvent Severity.INFO msg

/-- Executes a command. -/
def handleCommand (c : TimeSyncComponent) (cmd : CommandPacket) : TimeSyncComponent :=
  if cmd.opcode = OP_SET_UTC_HI16 then c.setWord 0 cmd.argument (ascii "TIME_WORD0")
  else if cmd.opcode = OP_SET_UTC_MIDHI16 then c.setWord 1 cmd.argument (ascii "TIME_WORD1")
  else if cmd.opcode = OP_SET_UTC_MIDLO16 then c.setWord 2 cmd.argument (ascii "TIME_WORD2")
  else if cmd.opcode = OP_SET_UTC_LO16 then c.setWord 3 cmd.argument (ascii "TIME_WORD3")
  else if cmd.opcode = OP_APPLY_SYNC then
    { c with time := c.time.setUtcFromUnixMs c.composeUtcMs }.publishEvent Severity.INFO
      (ascii "TIME_SYNC_APPLIED")
  else if cmd.opcode = OP_PUBLISH_STATUS then
    c.publishEvent Severity.INFO
      (if c.time.hasUtcSync then ascii "TIME_SYNCED" else ascii "TIME_UNSYNCED")
  else c.recordError.publishEvent Severity.WARNING (ascii "TIME_BAD_OPCODE")

/-- Starts the component. -/
def init (c : TimeSyncComponent) : TimeSyncComponent :=
  { c with words_ := fun _ => 0 }.publishEvent Severity.INFO (ascii "TIME_SYNC_READY")

/-- Sends the offset in seconds. -/
def report (c : TimeSyncComponent) : TimeSyncComponent :=
  { c with
    toReporter := c.toReporter.publishTelemetry c.time.getMET
      (Binary32.ofInt (c.time.getUtcOffsetMs / 1000).toInt) }

/-- Executes the commands in the input port and reports; before each of these the time service has
been left in some state by time and by other threads. -/
def step (c : TimeSyncComponent) (cmds : List (TimeService × CommandPacket)) (time : TimeService) :
    TimeSyncComponent :=
  let c := cmds.foldl (fun c cmd => { c with time := cmd.1 }.handleCommand cmd.2) c
  { c with time := time }.report

end TimeSyncComponent

/-- What can happen to the component. A step is several of these operations, with the time service
changing between them. -/
inductive TimeSyncOp where
  | init
  | handleCommand (cmd : CommandPacket)
  | report
  /-- Time passes, and other threads call the time service. -/
  | service (time : TimeService)
  /-- Others send to and take from the queues behind the reporting outputs. -/
  | outputs (event_out : Option (InputPort EventPacket DEFAULT_QUEUE_DEPTH))
    (telemetry_out : Option (InputPort (List UInt8) DEFAULT_QUEUE_DEPTH))

namespace TimeSyncComponent

/-- The next state. -/
def apply (c : TimeSyncComponent) : TimeSyncOp → TimeSyncComponent
  | TimeSyncOp.init => c.init
  | TimeSyncOp.handleCommand cmd => c.handleCommand cmd
  | TimeSyncOp.report => c.report
  | TimeSyncOp.service time => { c with time := time }
  | TimeSyncOp.outputs event_out telemetry_out =>
    { c with toReporter := c.reconnect event_out telemetry_out }

/-- A step is a run of its operations. -/
theorem step_eq_run (c : TimeSyncComponent) (cmds : List (TimeService × CommandPacket))
    (time : TimeService) :
    c.step cmds time =
      run apply c ((cmds.flatMap fun cmd =>
        [TimeSyncOp.service cmd.1, TimeSyncOp.handleCommand cmd.2]) ++
          [TimeSyncOp.service time, TimeSyncOp.report]) := by
  rw [run_append]
  unfold step
  induction cmds generalizing c with
  | nil => rfl
  | cons cmd cmds ih => exact ih _

/-! ## Words -/

/-- The opcode that stages a word. -/
def setOpcode : Fin 4 → UInt32
  | 0 => OP_SET_UTC_HI16
  | 1 => OP_SET_UTC_MIDHI16
  | 2 => OP_SET_UTC_MIDLO16
  | 3 => OP_SET_UTC_LO16

/-- Each word has an opcode of its own. -/
theorem setOpcode_injective : Function.Injective setOpcode := by decide

/-- A word of a UTC time, the highest first. -/
def word (utc_ms : ℕ) (i : Fin 4) : ℕ := utc_ms / 2^(48 - 16 * i.val) % 2^16

/-- A word is below `2 ^ 16`. -/
theorem word_lt (utc_ms : ℕ) (i : Fin 4) : word utc_ms i < 2^16 := Nat.mod_lt _ (by norm_num)

/-- A word comes back from the float that carries it. -/
theorem toU16_ofNat {n : ℕ} (h : n < 2^16) : toU16 (Binary32.ofNat n) = UInt16.ofNat n := by
  have hn : n < 2^24 := by omega
  have hpos : ¬Binary32.ofNat n < Binary32.ofNat 0 := fun hlt =>
    Binary32.not_le_of_lt hlt ((Binary32.ofNat_le_ofNat (by norm_num) hn).mpr (Nat.zero_le n))
  have hle : ¬Binary32.ofNat 65535 < Binary32.ofNat n := fun hlt =>
    Binary32.not_le_of_lt hlt ((Binary32.ofNat_le_ofNat hn (by norm_num)).mpr (by omega))
  unfold toU16
  rw [if_neg (not_or.mpr ⟨not_not.mpr (Binary32.isFinite_ofNat hn), hpos⟩), if_neg hle,
    Binary32.trunc_ofNat hn, Int.toNat_natCast]

end TimeSyncComponent

/-- Whether an operation sets a word. -/
def TimeSyncOp.sets (i : Fin 4) : TimeSyncOp → Bool
  | TimeSyncOp.init => true
  | TimeSyncOp.handleCommand cmd => decide (cmd.opcode = TimeSyncComponent.setOpcode i)
  | _ => false

/-- What an operation that sets a word sets it to. -/
def TimeSyncOp.setting : TimeSyncOp → UInt16
  | TimeSyncOp.handleCommand cmd => TimeSyncComponent.toU16 cmd.argument
  | _ => 0

namespace TimeSyncComponent

/-- A command sets the word of its opcode. -/
theorem words_handleCommand (c : TimeSyncComponent) (cmd : CommandPacket) (i : Fin 4) :
    (c.handleCommand cmd).words_ i =
      if cmd.opcode = setOpcode i then toU16 cmd.argument else c.words_ i := by
  have hset (j : Fin 4) (msg : Text) (hj : cmd.opcode = setOpcode j) :
      (c.setWord j cmd.argument msg).words_ i =
        if cmd.opcode = setOpcode i then toU16 cmd.argument else c.words_ i := by
    change Function.update c.words_ j (toU16 cmd.argument) i = _
    rw [Function.update_apply, hj]
    exact if_congr (eq_comm.trans setOpcode_injective.eq_iff.symm) rfl rfl
  unfold handleCommand
  by_cases h0 : cmd.opcode = OP_SET_UTC_HI16
  · rw [if_pos h0, hset 0 _ h0]
  by_cases h1 : cmd.opcode = OP_SET_UTC_MIDHI16
  · rw [if_neg h0, if_pos h1, hset 1 _ h1]
  by_cases h2 : cmd.opcode = OP_SET_UTC_MIDLO16
  · rw [if_neg h0, if_neg h1, if_pos h2, hset 2 _ h2]
  by_cases h3 : cmd.opcode = OP_SET_UTC_LO16
  · rw [if_neg h0, if_neg h1, if_neg h2, if_pos h3, hset 3 _ h3]
  -- The other commands leave the words alone.
  have hother : ∀ j, cmd.opcode ≠ setOpcode j
    | 0 => h0
    | 1 => h1
    | 2 => h2
    | 3 => h3
  rw [if_neg h0, if_neg h1, if_neg h2, if_neg h3, if_neg (hother i)]
  split_ifs
  · rfl
  · rfl
  · rfl
  · rfl

/-- An operation changes the word that it sets and no other. -/
theorem words_apply (c : TimeSyncComponent) (op : TimeSyncOp) (i : Fin 4) :
    (c.apply op).words_ i = if op.sets i then op.setting else c.words_ i := by
  cases op with
  | init => rfl
  | handleCommand cmd =>
    rw [apply, words_handleCommand, TimeSyncOp.sets, TimeSyncOp.setting]
    exact if_congr decide_eq_true_iff.symm rfl rfl
  | report => rfl
  | service => rfl
  | outputs => rfl

/-- After a run, a word is what the last operation that sets it has set it to. -/
theorem words_run {c : TimeSyncComponent} {i : Fin 4} {ops : List TimeSyncOp} {op : TimeSyncOp}
    (h : Logs.last (TimeSyncOp.sets i) ops = some op) : (run apply c ops).words_ i = op.setting := by
  induction ops using List.reverseRecOn with
  | nil => exact absurd h nofun
  | append_singleton ops o ih =>
    rw [run_concat, words_apply]
    by_cases ho : o.sets i = true
    · rw [Logs.last_concat_of_pos ho] at h
      rw [if_pos ho, Option.some.inj h]
    · rw [Logs.last_concat_of_neg (Bool.not_eq_true _ ▸ ho)] at h
      rw [if_neg ho]
      exact ih h

/-! ## The composed time -/

/-- A word that is shifted by no more than 48 bits is not cut. -/
theorem toNat_shiftedWord (w : UInt16) {k : UInt64} (hk : k.toNat ≤ 48) :
    (w.toUInt64 <<< k).toNat = 2^k.toNat * w.toNat := by
  have hw : w.toNat < 2^16 := w.toNat_lt
  have hlt : 2^k.toNat * w.toNat < 2^64 := by
    calc 2^k.toNat * w.toNat ≤ 2^48 * w.toNat :=
          Nat.mul_le_mul_right _ (Nat.pow_le_pow_right (by norm_num) hk)
      _ < 2^64 := by omega
  rw [UInt64.toNat_shiftLeft, UInt16.toNat_toUInt64, Nat.mod_eq_of_lt (by omega : k.toNat < 64),
    Nat.shiftLeft_eq, Nat.mul_comm, Nat.mod_eq_of_lt hlt]

/-- Words whose bits do not meet are added. -/
theorem toNat_or_of_lt {a b : UInt64} {k n : ℕ} (ha : a.toNat = 2^k * n) (hb : b.toNat < 2^k) :
    (a ||| b).toNat = 2^k * n + b.toNat := by
  rw [UInt64.toNat_or, ha, ← Nat.two_pow_add_eq_or_of_lt hb]

/-- The words are the digits of the composed time. -/
theorem toNat_composeUtcMs (c : TimeSyncComponent) :
    c.composeUtcMs.toNat = 2^48 * (c.words_ 0).toNat + 2^32 * (c.words_ 1).toNat +
      2^16 * (c.words_ 2).toNat + (c.words_ 3).toNat := by
  have h0 : ((c.words_ 0).toUInt64 <<< 48).toNat = 2^48 * (c.words_ 0).toNat :=
    toNat_shiftedWord _ (by decide)
  have h1 : ((c.words_ 1).toUInt64 <<< 32).toNat = 2^32 * (c.words_ 1).toNat :=
    toNat_shiftedWord _ (by decide)
  have h2 : ((c.words_ 2).toUInt64 <<< 16).toNat = 2^16 * (c.words_ 2).toNat :=
    toNat_shiftedWord _ (by decide)
  have h3 : (c.words_ 3).toUInt64.toNat = (c.words_ 3).toNat := UInt16.toNat_toUInt64 _
  have hlt (i : Fin 4) : (c.words_ i).toNat < 2^16 := (c.words_ i).toNat_lt
  have := hlt 1
  have := hlt 2
  have := hlt 3
  -- Each word lies below the lowest bit of those before it.
  have h01 : ((c.words_ 0).toUInt64 <<< 48 ||| (c.words_ 1).toUInt64 <<< 32).toNat =
      2^32 * (2^16 * (c.words_ 0).toNat + (c.words_ 1).toNat) := by
    rw [toNat_or_of_lt h0 (by omega), h1]
    ring
  have h012 : ((c.words_ 0).toUInt64 <<< 48 ||| (c.words_ 1).toUInt64 <<< 32 |||
      (c.words_ 2).toUInt64 <<< 16).toNat =
        2^16 * (2^32 * (c.words_ 0).toNat + 2^16 * (c.words_ 1).toNat + (c.words_ 2).toNat) := by
    rw [toNat_or_of_lt h01 (by omega), h2]
    ring
  rw [composeUtcMs, toNat_or_of_lt h012 (by omega), h3]
  ring

/-- A time below `2^64` is composed of its words. -/
theorem toNat_composeUtcMs_of_words {c : TimeSyncComponent} {utc_ms : ℕ} (hutc : utc_ms < 2^64)
    (h : ∀ i, c.words_ i = UInt16.ofNat (word utc_ms i)) : c.composeUtcMs.toNat = utc_ms := by
  have hword (i : Fin 4) : (c.words_ i).toNat = word utc_ms i := by
    rw [h i, UInt16.toNat_ofNat', Nat.mod_eq_of_lt (word_lt utc_ms i)]
  rw [toNat_composeUtcMs, hword, hword, hword, hword]
  unfold word
  norm_num
  omega

/-- OP_APPLY_SYNC sets the clock to the composed time. -/
theorem time_applySync (c : TimeSyncComponent) {cmd : CommandPacket}
    (hopcode : cmd.opcode = OP_APPLY_SYNC) :
    (c.handleCommand cmd).time = c.time.setUtcFromUnixMs c.composeUtcMs := by
  unfold handleCommand
  rw [hopcode]
  rfl

/-- A synchronisation sets the offset to the composed time minus the mission time. -/
theorem offset_applySync (c : TimeSyncComponent) {cmd : CommandPacket}
    (hopcode : cmd.opcode = OP_APPLY_SYNC) (hutc : c.composeUtcMs.toNat < 2^62) :
    (c.handleCommand cmd).time.utc_offset_ms.toInt =
      c.composeUtcMs.toNat - c.time.met_ms.toNat := by
  have hmet := c.time.met_lt
  rw [c.time_applySync hopcode, TimeService.setUtcFromUnixMs, TimeService.setUtcOffsetMs, Int64.toInt_sub,
    toInt_toInt64 hmet, toInt_toInt64 (by omega)]
  -- The difference lies between `-2^63` and `2^62`.
  exact Int.bmod_eq_of_le (by omega) (by omega)

end TimeSyncComponent

/-- The UTC time never runs backwards. Whatever threads do, the times that `getUtcUnixMs` returns
are in order, and each is the maximum of the one before and the UTC time read, or zero if that is
negative, unless the sum of what was read overflows. And after any history in which the words of a
time were each staged last in their place, a synchronisation sets the offset to that time minus the
mission elapsed time. -/
theorem utc_never_backwards {ι : Type*} [DecidableEq ι] :
    (∀ acts : List (UtcAct ι),
      let returned := (run SharedTimeService.step (SharedTimeService.create ι) acts).returned
      (returned.map fun r => r.value.toNat).Pairwise (· ≤ ·) ∧
        Logs.Justified (fun before r => (r.met_ms.toNat : ℤ) + r.offset.toInt < 2^63 →
          (r.value.toNat : ℤ) =
            max ((lastValue before).toNat : ℤ) (max 0 (r.met_ms.toNat + r.offset.toInt)))
          returned) ∧
      ∀ (c : TimeSyncComponent) (ops : List TimeSyncOp) (utc_ms : ℕ) (cmd : CommandPacket),
        utc_ms < 2^62 → cmd.opcode = TimeSyncComponent.OP_APPLY_SYNC →
        (∀ i, ∃ staged : CommandPacket,
          Logs.last (TimeSyncOp.sets i) ops = some (TimeSyncOp.handleCommand staged) ∧
            staged.argument = Binary32.ofNat (TimeSyncComponent.word utc_ms i)) →
        let c' := run TimeSyncComponent.apply c ops
        (c'.handleCommand cmd).time.utc_offset_ms.toInt = utc_ms - c'.time.met_ms.toNat := by
  constructor
  · intro acts returned
    have hclamped := SharedTimeService.clamped_run acts
    refine ⟨hclamped.readings_sorted, fun before r hpre hsum => ?_⟩
    obtain ⟨hmet, hvalue⟩ := hclamped.justified before r hpre
    rw [hvalue, Nat.cast_max, toNat_utcTarget hmet hsum]
  · intro c ops utc_ms cmd hutc hopcode hstaged c'
    have hwords (i : Fin 4) : c'.words_ i = UInt16.ofNat (TimeSyncComponent.word utc_ms i) := by
      obtain ⟨staged, hlast, hargument⟩ := hstaged i
      rw [TimeSyncComponent.words_run hlast, TimeSyncOp.setting, hargument,
        TimeSyncComponent.toU16_ofNat (TimeSyncComponent.word_lt utc_ms i)]
    have hcompose : c'.composeUtcMs.toNat = utc_ms :=
      TimeSyncComponent.toNat_composeUtcMs_of_words (by omega) hwords
    rw [c'.offset_applySync hopcode (by omega), hcompose]

/-- The commands that stage the words of a time. -/
def stagings (utc_ms : ℕ) : List CommandPacket :=
  (List.finRange 4).map fun i =>
    ⟨42, TimeSyncComponent.setOpcode i, Binary32.ofNat (TimeSyncComponent.word utc_ms i)⟩

/-- The commands are the last ones to stage their words. -/
theorem last_stagings (utc_ms : ℕ) (time : TimeService) (i : Fin 4) :
    Logs.last (TimeSyncOp.sets i)
        ((stagings utc_ms).map TimeSyncOp.handleCommand ++ [TimeSyncOp.service time]) =
      some (TimeSyncOp.handleCommand
        ⟨42, TimeSyncComponent.setOpcode i, Binary32.ofNat (TimeSyncComponent.word utc_ms i)⟩) := by
  fin_cases i <;> rfl

/-- A time is staged and, at 12 s of mission time, set, which gives the offset. A thread that then
sets the clock of the service to it has the same effect, and reads it 2 s later. -/
theorem staged_time_read :
    let time := TimeService.initEpoch.tick 12000
    let c := run TimeSyncComponent.apply (TimeSyncComponent.create (Component.create [] 42))
      ((stagings 1700000000123).map TimeSyncOp.handleCommand ++ [TimeSyncOp.service time])
    let c' := c.handleCommand ⟨42, TimeSyncComponent.OP_APPLY_SYNC, Binary32.ofNat 0⟩
    let s := run SharedTimeService.step ⟨time, fun _ => UtcPc.idle, []⟩
      [UtcAct.call true (UtcCall.setUtcFromUnixMs c.composeUtcMs), UtcAct.step true false,
        UtcAct.step true false, UtcAct.step true false]
    let s' := run SharedTimeService.step s
      [UtcAct.tick 2000, UtcAct.call true UtcCall.getUtcUnixMs, UtcAct.step true false,
        UtcAct.step true false, UtcAct.step true false, UtcAct.step true false]
    c'.time.utc_offset_ms.toInt = 1700000000123 - 12000 ∧ s.service = c'.time ∧
      s'.returned.map Reading.value = [1700000002123] := by
  intro time c c' s s'
  have hset : s = ⟨time.setUtcFromUnixMs c.composeUtcMs, fun _ => UtcPc.idle, []⟩ :=
    SharedTimeService.run_setUtcFromUnixMs _ true c.composeUtcMs rfl
  have hidle : (s.step (UtcAct.tick 2000)).threads true = UtcPc.idle := by rw [hset]; rfl
  refine ⟨?_, ?_, ?_⟩
  · have hmet : c.time.met_ms.toNat = 12000 := by decide +kernel
    have hoffset (utc_ms : ℕ) (hutc : utc_ms < 2^62) :=
      (utc_never_backwards (ι := Bool)).2 (TimeSyncComponent.create (Component.create [] 42))
        ((stagings utc_ms).map TimeSyncOp.handleCommand ++ [TimeSyncOp.service time]) utc_ms
        ⟨42, TimeSyncComponent.OP_APPLY_SYNC, Binary32.ofNat 0⟩ hutc rfl
        fun i => ⟨_, last_stagings utc_ms time i, rfl⟩
    calc c'.time.utc_offset_ms.toInt
        = ((1700000000123 : ℕ) : ℤ) - c.time.met_ms.toNat := hoffset 1700000000123 (by norm_num)
      _ = 1700000000123 - 12000 := by rw [hmet]; norm_num
  · rw [hset]
    exact (c.time_applySync rfl).symm
  · have hread := SharedTimeService.run_getUtcUnixMs (s.step (UtcAct.tick 2000)) true hidle
    have hrun : s' = _ := (run_cons SharedTimeService.step s (UtcAct.tick 2000) _).trans hread
    rw [hrun, hset]
    decide +kernel

end DeltaV
