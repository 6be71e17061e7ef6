import DeltaV.Lib.Logs
import DeltaV.ParamDb.Model
import DeltaV.TimeSync

/-!
# Memory dwell and patch

The ground stages an address and a value as two words each, and then dwells on the address or
patches it with the value. Only the aligned addresses of a window of 256 words are served. After any
run, a word of the window is the value that was in force at the last patch executed while its address
was staged, and the addresses outside of the window read as zero (`memory_dwell_law`).
-/

namespace DeltaV

/-- The words that the ground stages. -/
inductive StagedWord where
  | addr_hi16
  | addr_lo16
  | value_hi16
  | value_lo16
deriving DecidableEq, Repr

def DEBUG_MEM_BASE_ADDR : UInt32 := 0x20000000

def DEBUG_MEM_WORDS : ℕ := 256

/-- The component, the mission elapsed time that it reads, and the parameter database. -/
structure MemoryDwellComponent extends Reporter where
  selected_channel_ : UInt32
  period_ms_ : UInt32
  last_emit_ms_ : UInt32
  staged_ : StagedWord → UInt16
  debug_mem_ : Fin DEBUG_MEM_WORDS → UInt32
  met : UInt32
  db : ParamDb

namespace MemoryDwellComponent

def OP_SELECT_CHANNEL : UInt32 := 1

def OP_SET_PERIOD_SECONDS : UInt32 := 2

def OP_SAMPLE_NOW : UInt32 := 3

def OP_SET_ADDR_HI16 : UInt32 := 10

def OP_SET_ADDR_LO16 : UInt32 := 11

def OP_DWELL_ADDRESS : UInt32 := 12

def OP_SET_VALUE_HI16 : UInt32 := 13

def OP_SET_VALUE_LO16 : UInt32 := 14

def OP_PATCH_ADDRESS : UInt32 := 15

/-- A component as constructed. -/
def create (base : Component) : MemoryDwellComponent :=
  { Reporter.create base with
    selected_channel_ := 0
    period_ms_ := 1000
    last_emit_ms_ := 0
    staged_ := fun _ => 0
    debug_mem_ := fun _ => 0
    met := 0
    db := ParamDb.create }

/-- Counts one error. -/
def recordError (c : MemoryDwellComponent) : MemoryDwellComponent :=
  { c with toReporter := c.toReporter.recordError }

/-- Sends an event. -/
def publishEvent (c : MemoryDwellComponent) (severity : UInt32) (msg : Text) :
    MemoryDwellComponent :=
  { c with toReporter := c.toReporter.publishEvent severity msg }

/-- Sends a telemetry value. -/
def publishTelemetry (c : MemoryDwellComponent) (value : Binary32) : MemoryDwellComponent :=
  { c with toReporter := c.toReporter.publishTelemetry c.met value }

/-- A float as a word; the comparisons with the limits are strict. -/
def toU16 (value : Binary32) : UInt16 :=
  if ¬value.IsFinite ∨ value < Binary32.ofNat 0 then 0
  else if Binary32.ofNat 65535 < value then 65535
  else UInt16.ofNat value.trunc.toNat

/-! ## Addresses -/

/-- The address that is staged. -/
def composeAddress (c : MemoryDwellComponent) : UInt32 :=
  (c.staged_ StagedWord.addr_hi16).toUInt32 <<< 16 ||| (c.staged_ StagedWord.addr_lo16).toUInt32

/-- The value that is staged. -/
def composeValue (c : MemoryDwellComponent) : UInt32 :=
  (c.staged_ StagedWord.value_hi16).toUInt32 <<< 16 |||
    (c.staged_ StagedWord.value_lo16).toUInt32

/-- The index of the word at an address; `none` is the index `-1`. -/
def resolveWordIndex (addr : UInt32) : Option (Fin DEBUG_MEM_WORDS) :=
  if addr < DEBUG_MEM_BASE_ADDR then none
  else
    let offset := addr - DEBUG_MEM_BASE_ADDR
    if offset % 4 ≠ 0 then none
    else
      let word := offset / 4
      if h : word.toNat < DEBUG_MEM_WORDS then some ⟨word.toNat, h⟩ else none

/-- The word at an address. -/
def readDebugWordForTest (c : MemoryDwellComponent) (addr : UInt32) : UInt32 :=
  match resolveWordIndex addr with
  | some idx => c.debug_mem_ idx
  | none => 0

/-- A digit as `%X` prints it. -/
def hexDigitUpper (d : ℕ) : UInt8 := UInt8.ofNat (if d < 10 then 48 + d else 55 + d)

/-- A number as `%08X` prints it. -/
def hex8 (n : UInt32) : Text :=
  [7, 6, 5, 4, 3, 2, 1, 0].map fun k => hexDigitUpper (n.toNat / 16^k % 16)

/-- Sends the word at the staged address. -/
def dwellAddress (c : MemoryDwellComponent) : MemoryDwellComponent :=
  let addr := c.composeAddress
  match resolveWordIndex addr with
  | none => c.recordError.publishEvent Severity.WARNING (ascii "DWELL_ADDR_RANGE")
  | some idx =>
    let value := c.debug_mem_ idx
    (c.publishTelemetry (Binary32.ofNat (value &&& 0x00FFFFFF).toNat)).publishEvent Severity.INFO
      (snprintf 28 (ascii "DW:" ++ hex8 addr ++ ascii "=" ++ hex8 value))

/-- Writes the staged value to the staged address. -/
def patchAddress (c : MemoryDwellComponent) : MemoryDwellComponent :=
  let addr := c.composeAddress
  match resolveWordIndex addr with
  | none => c.recordError.publishEvent Severity.WARNING (ascii "PATCH_ADDR_RANGE")
  | some idx =>
    let value := c.composeValue
    { c with debug_mem_ := Function.update c.debug_mem_ idx value }.publishEvent Severity.INFO
      (snprintf 28 (ascii "PT:" ++ hex8 addr ++ ascii "=" ++ hex8 value))

/-! ## Channels -/

/-- The value of a parameter. -/
def readParam (c : MemoryDwellComponent) (name : Text) (dflt : Binary32) :
    Binary32 × MemoryDwellComponent :=
  let r := c.db.getParam (ParamDb.fnv1a name) dflt
  (r.1, { c with db := r.2 })

/-- The value of a channel. -/
def readChannelValue (c : MemoryDwellComponent) (channel : UInt32) :
    Binary32 × MemoryDwellComponent :=
  if channel = 0 then (Binary32.ofNat c.met.toNat / Binary32.ofNat 1000, c)
  else if channel = 1 then c.readParam (ascii "safe_mode_battery_pct") (Binary32.ofNat 5)
  else if channel = 2 then c.readParam (ascii "degraded_battery_pct") (Binary32.ofNat 15)
  else if channel = 3 then c.readParam (ascii "emergency_battery_pct") (Binary32.ofNat 2)
  else if channel = 4 then (Binary32.ofNat c.db.paramCount, c)
  else (Binary32.ofInt (-1), c.recordError)

/-- Sends the value of the selected channel. -/
def emitSample (c : MemoryDwellComponent) : MemoryDwellComponent :=
  let r := c.readChannelValue c.selected_channel_
  r.2.publishTelemetry r.1

/-! ## Commands -/

/-- Selects a channel. -/
def selectChannel (cast : Binary32 → UInt32) (c : MemoryDwellComponent) (argument : Binary32) :
    MemoryDwellComponent :=
  if ¬argument.IsFinite ∨ argument < Binary32.ofNat 0 then
    { c with selected_channel_ := 0 }.recordError
  else { c with selected_channel_ := castUInt32 cast argument }

/-- A period in seconds as milliseconds; what is not positive is a quarter of a second. -/
def periodMs (cast : Binary32 → UInt32) (argument : Binary32) : UInt32 :=
  let s := if argument ≤ Binary32.ofNat 0 then ⟨0x3E800000⟩ else argument
  let period_ms := castUInt32 cast (s * Binary32.ofNat 1000)
  if period_ms < 50 then 50 else period_ms

/-- Stages a word. -/
def stage (c : MemoryDwellComponent) (w : StagedWord) (argument : Binary32) (msg : Text) :
    MemoryDwellComponent :=
  { c with staged_ := Function.update c.staged_ w (toU16 argument) }.publishEvent Severity.INFO msg

/-- Executes a command. -/
def handleCommand (cast : Binary32 → UInt32) (c : MemoryDwellComponent) (cmd : CommandPacket) :
    MemoryDwellComponent :=
  if cmd.opcode = OP_SELECT_CHANNEL then
    (c.selectChannel cast cmd.argument).publishEvent Severity.INFO (ascii "DWELL_CH_SET")
  else if cmd.opcode = OP_SET_PERIOD_SECONDS then
    { c with period_ms_ := periodMs cast cmd.argument }.publishEvent Severity.INFO
      (ascii "DWELL_RATE_SET")
  else if cmd.opcode = OP_SAMPLE_NOW then
    c.emitSample.publishEvent Severity.INFO (ascii "DWELL_SAMPLE")
  else if cmd.opcode = OP_SET_ADDR_HI16 then
    c.stage StagedWord.addr_hi16 cmd.argument (ascii "DWELL_ADDR_HI")
  else if cmd.opcode = OP_SET_ADDR_LO16 then
    c.stage StagedWord.addr_lo16 cmd.argument (ascii "DWELL_ADDR_LO")
  else if cmd.opcode = OP_DWELL_ADDRESS then c.dwellAddress
  else if cmd.opcode = OP_SET_VALUE_HI16 then
    c.stage StagedWord.value_hi16 cmd.argument (ascii "DWELL_VAL_HI")
  else if cmd.opcode = OP_SET_VALUE_LO16 then
    c.stage StagedWord.value_lo16 cmd.argument (ascii "DWELL_VAL_LO")
  else if cmd.opcode = OP_PATCH_ADDRESS then c.patchAddress
  else c.recordError.publishEvent Severity.WARNING (ascii "DWELL_BAD_OP")

/-- Starts the component. -/
def init (c : MemoryDwellComponent) : MemoryDwellComponent :=
  { c with
    selected_channel_ := 0
    period_ms_ := 1000
    last_emit_ms_ := 0
    staged_ := fun
      | StagedWord.addr_hi16 => (DEBUG_MEM_BASE_ADDR >>> 16).toUInt16
      | StagedWord.addr_lo16 => (DEBUG_MEM_BASE_ADDR &&& 0xFFFF).toUInt16
      | StagedWord.value_hi16 => 0
      | StagedWord.value_lo16 => 0
    debug_mem_ := fun _ => 0 }.publishEvent Severity.INFO (ascii "DWELL_READY")

/-- Sends a sample when the period is over. -/
def emitDue (c : MemoryDwellComponent) : MemoryDwellComponent :=
  if c.period_ms_ ≤ c.met - c.last_emit_ms_ then { c.emitSample with last_emit_ms_ := c.met } else c

/-- Time passes, and others use the parameter database. -/
def await (c : MemoryDwellComponent) (met : UInt32) (db : ParamDb) : MemoryDwellComponent :=
  { c with met := met, db := db }

/-- Executes the commands in the input port and sends a sample when it is due; before each of these
the clock and the database have been left in some state. -/
def step (cast : Binary32 → UInt32) (c : MemoryDwellComponent)
    (cmds : List ((UInt32 × ParamDb) × CommandPacket)) (met : UInt32) (db : ParamDb) :
    MemoryDwellComponent :=
  let c := cmds.foldl (fun c cmd => (c.await cmd.1.1 cmd.1.2).handleCommand cast cmd.2) c
  (c.await met db).emitDue

end MemoryDwellComponent

/-- What can happen to the component. -/
inductive DwellOp where
  | init
  | handleCommand (cmd : CommandPacket)
  | emitDue
  | await (met : UInt32) (db : ParamDb)
  /-- Others send to and take from the queues behind the reporting outputs. -/
  | outputs (event_out : Option (InputPort EventPacket DEFAULT_QUEUE_DEPTH))
    (telemetry_out : Option (InputPort (List UInt8) DEFAULT_QUEUE_DEPTH))

namespace MemoryDwellComponent

/-- The next state. -/
def apply (cast : Binary32 → UInt32) (c : MemoryDwellComponent) : DwellOp → MemoryDwellComponent
  | DwellOp.init => c.init
  | DwellOp.handleCommand cmd => c.handleCommand cast cmd
  | DwellOp.emitDue => c.emitDue
  | DwellOp.await met db => c.await met db
  | DwellOp.outputs event_out telemetry_out =>
    { c with toReporter := c.reconnect event_out telemetry_out }

/-- A step is a run of its operations. -/
theorem step_eq_run (cast : Binary32 → UInt32) (c : MemoryDwellComponent)
    (cmds : List ((UInt32 × ParamDb) × CommandPacket)) (met : UInt32) (db : ParamDb) :
    c.step cast cmds met db =
      run (apply cast) c ((cmds.flatMap fun cmd =>
        [DwellOp.await cmd.1.1 cmd.1.2, DwellOp.handleCommand cmd.2]) ++
          [DwellOp.await met db, DwellOp.emitDue]) := by
  rw [run_append]
  unfold step
  induction cmds generalizing c with
  | nil => rfl
  | cons cmd cmds ih => exact ih _

/-! ## The window -/

/-- The address is below the window, between its words, or beyond it. -/
def OutOfWindow (addr : UInt32) : Prop :=
  addr.toNat < DEBUG_MEM_BASE_ADDR.toNat ∨ addr.toNat % 4 ≠ 0 ∨
    DEBUG_MEM_BASE_ADDR.toNat + 4 * DEBUG_MEM_WORDS ≤ addr.toNat

instance (addr : UInt32) : Decidable (OutOfWindow addr) := inferInstanceAs (Decidable (_ ∨ _))

/-- The words of the window lie one behind the other, and nothing else is served. -/
theorem resolveWordIndex_spec (addr : UInt32) :
    (OutOfWindow addr ∧ resolveWordIndex addr = none) ∨
      ∃ idx, ¬OutOfWindow addr ∧ resolveWordIndex addr = some idx ∧
        addr.toNat = DEBUG_MEM_BASE_ADDR.toNat + 4 * idx.val := by
  have hbase : DEBUG_MEM_BASE_ADDR.toNat = 2^29 := by decide
  have hwords : DEBUG_MEM_WORDS = 256 := rfl
  unfold resolveWordIndex OutOfWindow
  by_cases hlt : addr < DEBUG_MEM_BASE_ADDR
  · rw [if_pos hlt]
    exact Or.inl ⟨Or.inl (UInt32.lt_iff_toNat_lt.mp hlt), rfl⟩
  · have hle : DEBUG_MEM_BASE_ADDR ≤ addr := UInt32.not_lt.mp hlt
    have hoffset : (addr - DEBUG_MEM_BASE_ADDR).toNat = addr.toNat - 2^29 := by
      rw [UInt32.toNat_sub_of_le _ _ hle, hbase]
    have hle' : 2^29 ≤ addr.toNat := hbase ▸ UInt32.le_iff_toNat_le.mp hle
    -- The base is aligned, so the offset is aligned exactly when the address is.
    have hmod : (addr - DEBUG_MEM_BASE_ADDR) % 4 = 0 ↔ addr.toNat % 4 = 0 := by
      rw [← UInt32.toNat_inj, UInt32.toNat_mod, hoffset]
      change (addr.toNat - 2^29) % 4 = 0 ↔ _
      omega
    have hword : ((addr - DEBUG_MEM_BASE_ADDR) / 4).toNat = (addr.toNat - 2^29) / 4 := by
      rw [UInt32.toNat_div, hoffset]
      rfl
    rw [if_neg hlt]
    simp only [hword, hbase, hwords, ne_eq, hmod]
    by_cases haligned : addr.toNat % 4 = 0
    · rw [if_neg (not_not.mpr haligned)]
      by_cases hin : (addr.toNat - 2^29) / 4 < 256
      · rw [dif_pos hin]
        refine Or.inr ⟨⟨_, hin⟩, by omega, rfl, ?_⟩
        change addr.toNat = 2^29 + 4 * ((addr.toNat - 2^29) / 4)
        omega
      · rw [dif_neg hin]
        exact Or.inl ⟨by omega, rfl⟩
    · rw [if_pos haligned]
      exact Or.inl ⟨Or.inr (Or.inl haligned), rfl⟩

/-- An address outside of the window has no word. -/
theorem resolveWordIndex_of_out {addr : UInt32} (h : OutOfWindow addr) :
    resolveWordIndex addr = none := by
  rcases resolveWordIndex_spec addr with ⟨-, hnone⟩ | ⟨idx, hin, -⟩
  · exact hnone
  · exact absurd h hin

/-- Every word has an address of its own. -/
theorem exists_resolveWordIndex {addr : UInt32} (h : ¬OutOfWindow addr) :
    ∃ idx, resolveWordIndex addr = some idx ∧
      ∀ addr', resolveWordIndex addr' = some idx → addr' = addr := by
  rcases resolveWordIndex_spec addr with ⟨hout, -⟩ | ⟨idx, -, hsome, haddr⟩
  · exact absurd hout h
  · refine ⟨idx, hsome, fun addr' haddr' => ?_⟩
    -- The index gives the address back.
    rcases resolveWordIndex_spec addr' with ⟨-, hnone⟩ | ⟨idx', -, hsome', heq⟩
    · rw [hnone] at haddr'
      cases haddr'
    · obtain rfl : idx' = idx := Option.some.inj (hsome'.symm.trans haddr')
      exact UInt32.toNat.inj (heq.trans haddr.symm)

/-! ## Single commands -/

/-- A word comes back from the float that carries it. -/
theorem toU16_ofNat {n : ℕ} (h : n < 2^16) : toU16 (Binary32.ofNat n) = UInt16.ofNat n :=
  TimeSyncComponent.toU16_ofNat h

/-- The memory and the staged words are the same. -/
structure SameWords (c c' : MemoryDwellComponent) : Prop where
  staged_eq : c'.staged_ = c.staged_
  mem_eq : c'.debug_mem_ = c.debug_mem_

/-- A sample leaves the words alone. -/
theorem sameWords_emitSample (c : MemoryDwellComponent) : SameWords c c.emitSample := by
  have hchannel : SameWords c (c.readChannelValue c.selected_channel_).2 := by
    unfold readChannelValue
    split_ifs
    · exact ⟨rfl, rfl⟩
    · exact ⟨rfl, rfl⟩
    · exact ⟨rfl, rfl⟩
    · exact ⟨rfl, rfl⟩
    · exact ⟨rfl, rfl⟩
    · exact ⟨rfl, rfl⟩
  exact ⟨hchannel.staged_eq, hchannel.mem_eq⟩

/-- A sample that is due leaves the words alone. -/
theorem sameWords_emitDue (c : MemoryDwellComponent) : SameWords c c.emitDue := by
  have hsample := c.sameWords_emitSample
  unfold emitDue
  split_ifs
  · exact ⟨hsample.staged_eq, hsample.mem_eq⟩
  · exact ⟨rfl, rfl⟩

/-- The selection of a channel leaves the words alone. -/
theorem sameWords_selectChannel (cast : Binary32 → UInt32) (c : MemoryDwellComponent)
    (argument : Binary32) : SameWords c (c.selectChannel cast argument) := by
  unfold selectChannel
  split_ifs
  · exact ⟨rfl, rfl⟩
  · exact ⟨rfl, rfl⟩

/-- A sample of an address leaves the words alone. -/
theorem sameWords_dwellAddress (c : MemoryDwellComponent) : SameWords c c.dwellAddress := by
  simp only [dwellAddress]
  split
  · exact ⟨rfl, rfl⟩
  · exact ⟨rfl, rfl⟩

/-- The opcode that stages a word. -/
def setOpcode : StagedWord → UInt32
  | StagedWord.addr_hi16 => OP_SET_ADDR_HI16
  | StagedWord.addr_lo16 => OP_SET_ADDR_LO16
  | StagedWord.value_hi16 => OP_SET_VALUE_HI16
  | StagedWord.value_lo16 => OP_SET_VALUE_LO16

/-- Different words have different commands. -/
theorem setOpcode_injective : Function.Injective setOpcode := by
  intro w w'
  cases w <;> cases w' <;> decide

/-- A command stages a word, patches the memory, or leaves the words alone. -/
theorem handleCommand_cases (cast : Binary32 → UInt32) (c : MemoryDwellComponent)
    (cmd : CommandPacket) :
    (∃ w msg, cmd.opcode = setOpcode w ∧
        c.handleCommand cast cmd = c.stage w cmd.argument msg) ∨
      (cmd.opcode = OP_PATCH_ADDRESS ∧ c.handleCommand cast cmd = c.patchAddress) ∨
      ((∀ w, cmd.opcode ≠ setOpcode w) ∧ cmd.opcode ≠ OP_PATCH_ADDRESS ∧
        SameWords c (c.handleCommand cast cmd)) := by
  -- The other opcodes neither stage a word nor patch.
  have hother (h : cmd.opcode = OP_SELECT_CHANNEL ∨ cmd.opcode = OP_SET_PERIOD_SECONDS ∨
      cmd.opcode = OP_SAMPLE_NOW ∨ cmd.opcode = OP_DWELL_ADDRESS) :
      (∀ w, cmd.opcode ≠ setOpcode w) ∧ cmd.opcode ≠ OP_PATCH_ADDRESS := by
    rcases h with h | h | h | h <;> rw [h] <;>
      exact ⟨fun w => by cases w <;> decide, by decide⟩
  generalize hc : c.handleCommand cast cmd = c'
  unfold handleCommand at hc
  split_ifs at hc with h1 h2 h3 h4 h5 h6 h7 h8 h9
  · have hsel := c.sameWords_selectChannel cast cmd.argument
    obtain ⟨hw, hp⟩ := hother (Or.inl h1)
    exact Or.inr (Or.inr ⟨hw, hp, hc ▸ ⟨hsel.staged_eq, hsel.mem_eq⟩⟩)
  · obtain ⟨hw, hp⟩ := hother (Or.inr (Or.inl h2))
    exact Or.inr (Or.inr ⟨hw, hp, hc ▸ ⟨rfl, rfl⟩⟩)
  · have hsample := c.sameWords_emitSample
    obtain ⟨hw, hp⟩ := hother (Or.inr (Or.inr (Or.inl h3)))
    exact Or.inr (Or.inr ⟨hw, hp, hc ▸ ⟨hsample.staged_eq, hsample.mem_eq⟩⟩)
  · exact Or.inl ⟨StagedWord.addr_hi16, _, h4, hc.symm⟩
  · exact Or.inl ⟨StagedWord.addr_lo16, _, h5, hc.symm⟩
  · obtain ⟨hw, hp⟩ := hother (Or.inr (Or.inr (Or.inr h6)))
    exact Or.inr (Or.inr ⟨hw, hp, hc ▸ c.sameWords_dwellAddress⟩)
  · exact Or.inl ⟨StagedWord.value_hi16, _, h7, hc.symm⟩
  · exact Or.inl ⟨StagedWord.value_lo16, _, h8, hc.symm⟩
  · exact Or.inr (Or.inl ⟨h9, hc.symm⟩)
  · have hw : ∀ w, cmd.opcode ≠ setOpcode w
      | StagedWord.addr_hi16 => h4
      | StagedWord.addr_lo16 => h5
      | StagedWord.value_hi16 => h7
      | StagedWord.value_lo16 => h8
    exact Or.inr (Or.inr ⟨hw, h9, hc ▸ ⟨rfl, rfl⟩⟩)

/-- A command stages the word of its opcode. -/
theorem staged_handleCommand (cast : Binary32 → UInt32) (c : MemoryDwellComponent)
    (cmd : CommandPacket) (w : StagedWord) :
    (c.handleCommand cast cmd).staged_ w =
      if cmd.opcode = setOpcode w then toU16 cmd.argument else c.staged_ w := by
  rcases c.handleCommand_cases cast cmd with ⟨w', msg, hop, heq⟩ | ⟨hop, heq⟩ | ⟨hne, -, hsame⟩
  · rw [heq, hop]
    change Function.update c.staged_ w' (toU16 cmd.argument) w = _
    rw [Function.update_apply]
    exact if_congr (eq_comm.trans setOpcode_injective.eq_iff.symm) rfl rfl
  · have hne : cmd.opcode ≠ setOpcode w := by
      rw [hop]
      cases w <;> decide
    rw [heq, if_neg hne, patchAddress]
    split
    · rfl
    · rfl
  · rw [if_neg (hne w), hsame.staged_eq]

/-- A command changes a word of the window exactly when it patches its address. -/
theorem read_handleCommand (cast : Binary32 → UInt32) (c : MemoryDwellComponent)
    (cmd : CommandPacket) {addr : UInt32} (h : ¬OutOfWindow addr) :
    (c.handleCommand cast cmd).readDebugWordForTest addr =
      if cmd.opcode = OP_PATCH_ADDRESS ∧ c.composeAddress = addr then c.composeValue
      else c.readDebugWordForTest addr := by
  obtain ⟨idx, hsome, hunique⟩ := exists_resolveWordIndex h
  unfold readDebugWordForTest
  rw [hsome]
  rcases c.handleCommand_cases cast cmd with ⟨w, msg, hop, heq⟩ | ⟨hop, heq⟩ | ⟨-, hne, hsame⟩
  · have hne : cmd.opcode ≠ OP_PATCH_ADDRESS := by
      rw [hop]
      cases w <;> decide
    rw [heq, if_neg fun hp => hne hp.1]
    rfl
  · rw [heq]
    simp only [patchAddress, hop, true_and]
    split
    · -- A patch outside of the window is not one of this address.
      rename_i hnone
      rw [if_neg]
      · rfl
      · rintro rfl
        rw [hsome] at hnone
        cases hnone
    · -- The word that is written is the word of the address exactly when the addresses are the same.
      rename_i idx' hsome'
      change Function.update c.debug_mem_ idx' c.composeValue idx = _
      rw [Function.update_apply]
      refine if_congr ⟨?_, ?_⟩ rfl rfl
      · rintro rfl
        exact hunique _ hsome'
      · rintro rfl
        exact Option.some.inj (hsome.symm.trans hsome')
  · rw [hsame.mem_eq, if_neg fun hp => hne hp.1]

/-- Outside of the window, patching and dwelling change no word and count an error. -/
theorem reject_handleCommand (cast : Binary32 → UInt32) {c : MemoryDwellComponent}
    {cmd : CommandPacket} (hop : cmd.opcode = OP_PATCH_ADDRESS ∨ cmd.opcode = OP_DWELL_ADDRESS)
    (h : OutOfWindow c.composeAddress) :
    (c.handleCommand cast cmd).debug_mem_ = c.debug_mem_ ∧
      Reporter.Accounted 1 c.toReporter (c.handleCommand cast cmd).toReporter := by
  have hnone := resolveWordIndex_of_out h
  -- Either command only reports the error.
  rcases hop with hop | hop
  · have heq : c.handleCommand cast cmd =
        c.recordError.publishEvent Severity.WARNING (ascii "PATCH_ADDR_RANGE") := by
      unfold handleCommand
      rw [hop]
      change c.patchAddress = _
      simp only [patchAddress, hnone]
    rw [heq]
    exact ⟨rfl, c.accounted_reject _ _⟩
  · have heq : c.handleCommand cast cmd =
        c.recordError.publishEvent Severity.WARNING (ascii "DWELL_ADDR_RANGE") := by
      unfold handleCommand
      rw [hop]
      change c.dwellAddress = _
      simp only [dwellAddress, hnone]
    rw [heq]
    exact ⟨rfl, c.accounted_reject _ _⟩

end MemoryDwellComponent

namespace DwellOp

/-- Whether an operation starts the component. -/
def isInit : DwellOp → Bool
  | init => true
  | _ => false

/-- Whether an operation stages a word. -/
def stages (w : StagedWord) : DwellOp → Bool
  | handleCommand cmd => decide (cmd.opcode = MemoryDwellComponent.setOpcode w)
  | _ => false

/-- What an operation that stages a word stages. -/
def staging : DwellOp → UInt16
  | handleCommand cmd => MemoryDwellComponent.toU16 cmd.argument
  | _ => 0

/-- Whether an operation is a patch. -/
def isPatch : DwellOp → Bool
  | handleCommand cmd => decide (cmd.opcode = MemoryDwellComponent.OP_PATCH_ADDRESS)
  | _ => false

end DwellOp

namespace MemoryDwellComponent

/-- What a word is after the start. -/
def initialWord : StagedWord → UInt16
  | StagedWord.addr_hi16 => 0x2000
  | _ => 0

/-- Whether a patch is executed while the address is staged. -/
def patches (addr : UInt32) (r : MemoryDwellComponent × DwellOp) : Bool :=
  r.2.isPatch && decide (r.1.composeAddress = addr)

/-- The operations since the component was started last, each with the state that it found. -/
def executed (cast : Binary32 → UInt32) (c : MemoryDwellComponent) (ops : List DwellOp) :
    List (MemoryDwellComponent × DwellOp) :=
  Logs.since (fun r => r.2.isInit) (history (apply cast) c ops)

/-- What an operation does to a staged word. -/
theorem staged_apply (cast : Binary32 → UInt32) (w : StagedWord) (c : MemoryDwellComponent)
    (op : DwellOp) :
    (c.apply cast op).staged_ w =
      if op.isInit then initialWord w else if op.stages w then op.staging else c.staged_ w := by
  cases op with
  | init => cases w <;> rfl
  | handleCommand cmd =>
    have hinit : ¬(DwellOp.handleCommand cmd).isInit = true := Bool.false_ne_true
    rw [if_neg hinit, apply, staged_handleCommand]
    exact if_congr decide_eq_true_iff.symm rfl rfl
  | emitDue => exact congrFun c.sameWords_emitDue.staged_eq w
  | await => rfl
  | outputs => rfl

/-- What an operation does to a word of the window. -/
theorem read_apply (cast : Binary32 → UInt32) {addr : UInt32} (h : ¬OutOfWindow addr)
    (c : MemoryDwellComponent) (op : DwellOp) :
    (c.apply cast op).readDebugWordForTest addr =
      if op.isInit then 0
      else if patches addr (c, op) then c.composeValue else c.readDebugWordForTest addr := by
  cases op with
  | init =>
    obtain ⟨idx, hsome, -⟩ := exists_resolveWordIndex h
    unfold readDebugWordForTest
    rw [hsome]
    rfl
  | handleCommand cmd =>
    have hpatches : patches addr (c, DwellOp.handleCommand cmd) = true ↔
        cmd.opcode = OP_PATCH_ADDRESS ∧ c.composeAddress = addr := by
      simp [patches, DwellOp.isPatch]
    have hinit : ¬(DwellOp.handleCommand cmd).isInit = true := Bool.false_ne_true
    rw [if_neg hinit, apply, read_handleCommand cast c cmd h]
    exact if_congr hpatches.symm rfl rfl
  | emitDue =>
    unfold readDebugWordForTest
    change (match resolveWordIndex addr with
      | some idx => c.emitDue.debug_mem_ idx
      | none => 0) = _
    rw [c.sameWords_emitDue.mem_eq]
    rfl
  | await => rfl
  | outputs => rfl

/-- The command that stages a number in a word. -/
def stagingCommand (w : StagedWord) (n : ℕ) : CommandPacket := ⟨0, setOpcode w, Binary32.ofNat n⟩

/-- A command for a staged word sets this word and no other. -/
theorem staged_stagingCommand (cast : Binary32 → UInt32) (c : MemoryDwellComponent)
    (w w' : StagedWord) {n : ℕ} (h : n < 2^16) :
    (c.handleCommand cast (stagingCommand w n)).staged_ w' =
      if w = w' then UInt16.ofNat n else c.staged_ w' := by
  rw [staged_handleCommand, stagingCommand, toU16_ofNat h]
  exact if_congr setOpcode_injective.eq_iff rfl rfl

/-- Words that are staged one after the other. -/
theorem staged_stagingCommands (cast : Binary32 → UInt32) (c : MemoryDwellComponent)
    {half : StagedWord → ℕ} (hhalf : ∀ w, half w < 2^16) (ws : List StagedWord) (w : StagedWord) :
    (run (handleCommand cast) c (ws.map fun w => stagingCommand w (half w))).staged_ w =
      if w ∈ ws then UInt16.ofNat (half w) else c.staged_ w := by
  induction ws generalizing c with
  | nil => rw [List.map_nil, run_nil, if_neg List.not_mem_nil]
  | cons w' ws ih =>
    rw [List.map_cons, run_cons, ih, staged_stagingCommand cast c w' w (hhalf w')]
    -- What is staged last counts, and a word is staged with its own half every time.
    by_cases hmem : w ∈ ws
    · rw [if_pos hmem, if_pos (List.mem_cons_of_mem _ hmem)]
    · rw [if_neg hmem]
      by_cases heq : w' = w
      · rw [if_pos heq, if_pos (heq ▸ List.mem_cons_self), heq]
      · rw [if_neg heq, if_neg (List.not_mem_cons_of_ne_of_not_mem (Ne.symm heq) hmem)]

/-- The half of an address or a value that a word is staged with. -/
def half (addr value : UInt32) : StagedWord → ℕ
  | StagedWord.addr_hi16 => addr.toNat / 2^16
  | StagedWord.addr_lo16 => addr.toNat % 2^16
  | StagedWord.value_hi16 => value.toNat / 2^16
  | StagedWord.value_lo16 => value.toNat % 2^16

/-- Each half of an address or a value has sixteen bits. -/
theorem half_lt (addr value : UInt32) : ∀ w, half addr value w < 2^16
  | StagedWord.addr_hi16 => Nat.div_lt_of_lt_mul addr.toNat_lt
  | StagedWord.addr_lo16 => Nat.mod_lt _ (by norm_num)
  | StagedWord.value_hi16 => Nat.div_lt_of_lt_mul value.toNat_lt
  | StagedWord.value_lo16 => Nat.mod_lt _ (by norm_num)

/-- The words that the ground stages. -/
def allWords : List StagedWord :=
  [StagedWord.addr_hi16, StagedWord.addr_lo16, StagedWord.value_hi16, StagedWord.value_lo16]

/-- Every staged word is listed. -/
theorem mem_allWords (w : StagedWord) : w ∈ allWords := by cases w <;> decide

/-- Any address and any value can be staged, as two words each. -/
theorem exists_staging (cast : Binary32 → UInt32) (addr value : UInt32) :
    ∃ cmds : List CommandPacket,
      cmds.map CommandPacket.opcode =
          [OP_SET_ADDR_HI16, OP_SET_ADDR_LO16, OP_SET_VALUE_HI16, OP_SET_VALUE_LO16] ∧
        (∀ cmd ∈ cmds, cmd.argument.IsFinite) ∧
        ∀ c : MemoryDwellComponent, (run (handleCommand cast) c cmds).composeAddress = addr ∧
          (run (handleCommand cast) c cmds).composeValue = value := by
  refine ⟨allWords.map fun w => stagingCommand w (half addr value w), rfl, ?_, fun c => ?_⟩
  · refine List.forall_mem_map.mpr fun w _ => ?_
    have hlt := half_lt addr value w
    exact Binary32.isFinite_ofNat (by omega)
  · have hstaged (w : StagedWord) := (staged_stagingCommands cast c (half_lt addr value) allWords
      w).trans (if_pos (mem_allWords w))
    rw [composeAddress, composeValue, hstaged, hstaged, hstaged, hstaged]
    exact ⟨words_of_halves addr, words_of_halves value⟩

end MemoryDwellComponent

/-- The memory law. After any run since the start, a staged word is the word staged last, a word of
the window is the value that was in force at the last patch executed while its address was staged, or
zero if there is none, and an address outside of the window reads as zero. A patch or a dwell outside
of the window changes no word and counts an error, and any address and any value can be staged. -/
theorem memory_dwell_law (cast : Binary32 → UInt32) :
    (∀ (c : MemoryDwellComponent) (ops : List DwellOp),
      let c' := run (MemoryDwellComponent.apply cast) c.init ops
      let executed := MemoryDwellComponent.executed cast c.init ops
      (∀ w, c'.staged_ w = (Logs.last (fun r => r.2.stages w) executed).elim
        (MemoryDwellComponent.initialWord w) fun r => r.2.staging) ∧
      ∀ addr, c'.readDebugWordForTest addr =
        if MemoryDwellComponent.OutOfWindow addr then 0
        else (Logs.last (MemoryDwellComponent.patches addr) executed).elim 0
          fun r => r.1.composeValue) ∧
    (∀ (c : MemoryDwellComponent) (cmd : CommandPacket),
      cmd.opcode = MemoryDwellComponent.OP_PATCH_ADDRESS ∨
        cmd.opcode = MemoryDwellComponent.OP_DWELL_ADDRESS →
      MemoryDwellComponent.OutOfWindow c.composeAddress →
      (c.handleCommand cast cmd).debug_mem_ = c.debug_mem_ ∧
        Reporter.Accounted 1 c.toReporter (c.handleCommand cast cmd).toReporter) ∧
    ∀ addr value : UInt32, ∃ cmds : List CommandPacket,
      cmds.map CommandPacket.opcode =
          [MemoryDwellComponent.OP_SET_ADDR_HI16, MemoryDwellComponent.OP_SET_ADDR_LO16,
            MemoryDwellComponent.OP_SET_VALUE_HI16, MemoryDwellComponent.OP_SET_VALUE_LO16] ∧
        (∀ cmd ∈ cmds, cmd.argument.IsFinite) ∧
        ∀ c : MemoryDwellComponent,
          (run (MemoryDwellComponent.handleCommand cast) c cmds).composeAddress = addr ∧
          (run (MemoryDwellComponent.handleCommand cast) c cmds).composeValue = value := by
  refine ⟨fun c ops => ⟨fun w => ?_, fun addr => ?_⟩,
    fun c cmd => MemoryDwellComponent.reject_handleCommand cast,
    MemoryDwellComponent.exists_staging cast⟩
  · -- A word is what the last call that writes it has put there, or what `init()` has.
    exact Logs.last_write_run (fun c : MemoryDwellComponent => c.staged_ w)
      (MemoryDwellComponent.staged_apply cast w)
      (MemoryDwellComponent.staged_apply cast w c DwellOp.init) ops
  · split_ifs with hout
    · rw [MemoryDwellComponent.readDebugWordForTest,
        MemoryDwellComponent.resolveWordIndex_of_out hout]
    · exact Logs.last_write_run (fun c : MemoryDwellComponent => c.readDebugWordForTest addr)
        (MemoryDwellComponent.read_apply cast hout)
        (MemoryDwellComponent.read_apply cast hout c DwellOp.init) ops

namespace MemoryDwellComponent

/-- A component that has just been constructed. -/
def start : MemoryDwellComponent := create (Component.create (ascii "MemoryDwell") 42)

/-- The commands that patch the address zero. -/
def patchZero : List DwellOp :=
  [stagingCommand StagedWord.addr_hi16 0, stagingCommand StagedWord.value_lo16 42,
    ⟨0, OP_PATCH_ADDRESS, Binary32.ofNat 0⟩].map DwellOp.handleCommand

/-- A patch outside of the window is executed, but not read back. -/
theorem patch_outside_window_reads_zero :
    (Logs.last (patches 0) (executed (fun _ => 0) start.init patchZero)).elim 0
        (fun r => r.1.composeValue) = 42 ∧
      (run (apply fun _ => 0) start.init patchZero).readDebugWordForTest 0 = 0 := by
  decide +kernel

end MemoryDwellComponent

end DeltaV
