import DeltaV.Bridge.Uplink
import DeltaV.Decimal

/-!
# The replay file across restarts

The replay state is written by opening the file, which truncates it, writing the number, and closing
it, so a process that stops in between leaves an empty file or the first digits of the number. A
restarted bridge loads what it finds (`loadReplayState`). It loads the state before or after the
update exactly when the bytes in the file happen to say so (`SafeStop`), and over a run whose stops
are all of this kind the numbers that have reached the file follow one another as the replay test
demands, across all restarts (`crash_safe_iff`).
-/

namespace DeltaV

namespace TelemetryBridge

open SerialNumber

/-! ## Restart -/

/-- Loads the last accepted sequence number from the file, if there is one. -/
def loadReplayState (b : TelemetryBridge) : TelemetryBridge :=
  if b.replay_file.path_empty then b
  else
    match b.replay_file.content with
    | none => b
    | some text =>
      match extractUint32 text with
      | none => b
      | some stored_seq =>
        if stored_seq ≤ 0xFFFF then
          { b with last_uplink_seq := UInt32.ofNat stored_seq, first_uplink := false }
        else b.recordError

/-- A bridge that starts with the given file. -/
def boot (comp_name : Text) (comp_id : UInt32) (replay_file : ReplayFile) : TelemetryBridge :=
  (create (Component.create comp_name comp_id) replay_file).loadReplayState

/-- The replay state: the last accepted number, or `none` before the first command. -/
def replayState (b : TelemetryBridge) : Option ℕ :=
  if b.first_uplink then none else some b.last_uplink_seq.toNat

/-- Where the process stops while it writes the replay file. -/
inductive StopPoint where
  /-- Before the file is opened. -/
  | beforeOpen
  /-- After the file is opened, and thereby truncated. -/
  | opened
  /-- After the number is written, with the first bytes of it in the file; closing the file brings
  all of them there. -/
  | written (bytes : ℕ)
deriving DecidableEq, Repr

/-- What is in the file at a stop. -/
def StopPoint.content (old : Option Text) (text : Text) : StopPoint → Option Text
  | beforeOpen => old
  | opened => some []
  | written bytes => some (text.take bytes)

/-- The line that holds a number. -/
def line (n : ℕ) : Text := decimal n ++ ascii "\n"

/-- The sequence number of a frame. -/
def frameSeq (data : List UInt8) : ℕ := le (slice data 6 2)

/-- The file when the process stops while it handles a frame: only an accepted frame is written. -/
def fileAtStop (b : TelemetryBridge) (data : List UInt8) (point : StopPoint) : ReplayFile :=
  if (b.processIncomingFrame data).2 then
    { b.replay_file with
      content := point.content b.replay_file.content (line (frameSeq data)) }
  else b.replay_file

/-! ## Runs with restarts -/

/-- A restart: the replay states before and after the frame that was being handled, and the one that
the restarted bridge has loaded. -/
structure Restart where
  before : Option ℕ
  after : Option ℕ
  loaded : Option ℕ
deriving DecidableEq, Repr

/-- A bridge over its restarts: the numbers that have reached the file, in order, and the
restarts. -/
structure Mission where
  bridge : TelemetryBridge
  persisted : List ℕ
  restarts : List Restart

/-- What can happen to the bridge. -/
inductive MissionOp where
  /-- A frame is handled. -/
  | frame (data : List UInt8)
  /-- The queue behind the command port is drained, filled, or exchanged. -/
  | commandPort (command_out : Option (InputPort CommandPacket DEFAULT_QUEUE_DEPTH))
  /-- The process stops between two frames, and starts again. -/
  | stop
  /-- The process stops while it handles a frame, and starts again. -/
  | stopDuring (data : List UInt8) (point : StopPoint)

/-- A mission from a first start with the given file. -/
def Mission.create (comp_name : Text) (comp_id : UInt32) (replay_file : ReplayFile) : Mission :=
  let b := boot comp_name comp_id replay_file
  ⟨b, b.replayState.toList, []⟩

/-- The replay state after a frame. -/
def stateAfter (b : TelemetryBridge) (data : List UInt8) : Option ℕ :=
  if (b.processIncomingFrame data).2 then some (frameSeq data) else b.replayState

/-- A restart with the given file. -/
def Mission.restart (m : Mission) (after : Option ℕ) (replay_file : ReplayFile) : Mission :=
  let b := boot m.bridge.base.name m.bridge.base.id replay_file
  { bridge := b
    persisted :=
      m.persisted ++ (if b.replayState = m.bridge.replayState then [] else b.replayState.toList)
    restarts := m.restarts ++ [⟨m.bridge.replayState, after, b.replayState⟩] }

/-- The next state of a mission. -/
def Mission.step (m : Mission) : MissionOp → Mission
  | MissionOp.frame data =>
    { m with
      bridge := (m.bridge.processIncomingFrame data).1
      persisted := m.persisted ++
        (if (m.bridge.processIncomingFrame data).2 then [frameSeq data] else []) }
  | MissionOp.commandPort command_out =>
    { m with bridge := { m.bridge with command_out := command_out } }
  | MissionOp.stop => m.restart m.bridge.replayState m.bridge.replay_file
  | MissionOp.stopDuring data point =>
    m.restart (m.bridge.stateAfter data) (m.bridge.fileAtStop data point)

/-! ## Safe stops -/

/-- The file is used, and opening and writing it succeeds. -/
structure Writable (file : ReplayFile) : Prop where
  heap_not_armed : file.heap_armed = false
  path_not_empty : file.path_empty = false
  can_open : file.can_open = true
  can_write : file.can_write = true

/-- What is in the file says the state before or after the update to the number `n`: nothing has
been truncated yet, the file is empty and no number was there before, all digits are there, or those
that are there happen to be the number before. -/
def SafeStop (before : Option ℕ) (n : ℕ) : StopPoint → Prop
  | StopPoint.beforeOpen => True
  | StopPoint.opened => before = none
  | StopPoint.written bytes =>
    (decimal n).length ≤ bytes ∨ (bytes = 0 ∧ before = none) ∨
      (0 < bytes ∧ before = some (n / 10^((decimal n).length - bytes)))

/-- A stop during an accepted frame is safe; no other operation is restricted. -/
def Guarded (m : Mission) : MissionOp → Prop
  | MissionOp.stopDuring data point =>
    m.bridge.Accepts data → SafeStop m.bridge.replayState (frameSeq data) point
  | _ => True

/-- Every restart has loaded the state before or after the update that was in progress, the bridge
is never back before its first command once a number has reached the file, and the numbers in the
file follow one another as the replay test demands. -/
structure CrashSafe (m : Mission) : Prop where
  atomic : ∀ r ∈ m.restarts, r.loaded = r.before ∨ r.loaded = r.after
  not_first : m.persisted ≠ [] → m.bridge.first_uplink = false
  last_eq : m.bridge.replayState = m.persisted.getLast?
  chain : m.persisted.IsChain (Next 0xFF00 0x0100)

/-! ## What is loaded -/

/-- The number that a file stands for. -/
def stored (content : Option Text) : Option ℕ :=
  (content.bind extractUint32).filter fun n => n ≤ 0xFFFF

/-- A start loads the number in the file. -/
theorem boot_spec (comp_name : Text) (comp_id : UInt32) {file : ReplayFile} (h : Writable file) :
    (boot comp_name comp_id file).replayState = stored file.content ∧
      (boot comp_name comp_id file).replay_file = file := by
  have hpath : (create (Component.create comp_name comp_id) file).replay_file.path_empty = false :=
    h.path_not_empty
  unfold boot loadReplayState
  rw [hpath, if_neg (by decide)]
  show _ = stored (create (Component.create comp_name comp_id) file).replay_file.content ∧ _
  cases (create (Component.create comp_name comp_id) file).replay_file.content with
  | none => exact ⟨rfl, rfl⟩
  | some text =>
    cases hread : extractUint32 text with
    | none => exact ⟨by simp [stored, hread, replayState, create], by simp [hread, create]⟩
    | some n =>
      by_cases hn : n ≤ 0xFFFF
      · have hmod : n % 4294967296 = n := Nat.mod_eq_of_lt (by omega)
        simp [stored, hread, hn, replayState, create, hmod, Option.filter]
      · simp [stored, hread, hn, replayState, create, recordError, Option.filter]

/-- The digits that have reached the file stand for the number that they are. -/
theorem stored_take_line {n : ℕ} (hn : n ≤ 0xFFFF) (k : ℕ) :
    stored (some ((line n).take k)) =
      if (decimal n).length ≤ k then some n
      else if k = 0 then none
      else some (n / 10^((decimal n).length - k)) := by
  have hread : ∀ m, m ≤ 0xFFFF → stored (some (decimal m)) = some m ∧
      stored (some (line m)) = some m := by
    intro m hm
    obtain ⟨h1, h2⟩ := extractUint32_decimal (n := m) (by omega)
    exact ⟨by simp [stored, h1, hm], by simp [stored, line, h2, hm]⟩
  unfold line
  split_ifs with hall hzero
  · -- The line may still lack its end.
    rcases hall.eq_or_lt with heq | hlt
    · rw [← heq, List.take_left]
      exact (hread n hn).1
    · rw [List.take_of_length_le]
      · exact (hread n hn).2
      · rw [List.length_append]
        exact hlt
  · subst hzero
    rfl
  · rw [List.take_append_of_le_length (by omega), take_decimal (by omega) (by omega)]
    exact (hread _ ((Nat.div_le_self n _).trans hn)).1

/-- A restart loads the state before or after the update exactly when the stop is safe. -/
theorem safeStop_iff {old : Option Text} {n : ℕ} (hn : n ≤ 0xFFFF) (point : StopPoint) :
    (stored (point.content old (line n)) = stored old ∨
        stored (point.content old (line n)) = some n) ↔ SafeStop (stored old) n point := by
  cases point with
  | beforeOpen => exact iff_of_true (Or.inl rfl) trivial
  | opened =>
    have hnone : stored (StopPoint.opened.content old (line n)) = none := rfl
    rw [hnone]
    simp [SafeStop, eq_comm]
  | written k =>
    have hpos : 0 < (decimal n).length := List.length_pos_of_ne_nil (decimal_ne_nil n)
    show stored (some ((line n).take k)) = stored old ∨ stored (some ((line n).take k)) = some n ↔ _
    rw [stored_take_line hn]
    unfold SafeStop
    split_ifs with hall hzero
    · exact iff_of_true (Or.inr rfl) (Or.inl hall)
    · subst hzero
      constructor
      · rintro (h | h)
        · exact Or.inr (Or.inl ⟨rfl, h.symm⟩)
        · cases h
      · rintro (h | ⟨-, h⟩ | ⟨h, -⟩)
        · exact absurd h hall
        · exact Or.inl h.symm
        · omega
    · -- A number without its last digits is another number.
      have hne : n / 10^((decimal n).length - k) ≠ n := by
        have hn10 : 10 ≤ n := by
          by_contra hlt
          rw [decimal_of_lt (by omega), List.length_singleton] at hall
          omega
        have hpow : 1 < 10^((decimal n).length - k) := Nat.one_lt_pow (by omega) (by decide)
        exact (Nat.div_lt_self (by omega) hpow).ne
      constructor
      · rintro (h | h)
        · exact Or.inr (Or.inr ⟨by omega, h.symm⟩)
        · exact absurd (Option.some.inj h) hne
      · rintro (h | ⟨h, -⟩ | ⟨-, h⟩)
        · exact absurd h hall
        · exact absurd h hzero
        · exact Or.inl h.symm

/-! ## One operation -/

/-- Sequence numbers are 16-bit numbers. -/
theorem frameSeq_le (data : List UInt8) : frameSeq data ≤ 0xFFFF := by
  have h : frameSeq data < 256^2 := le_slice_lt data 6 2
  omega

/-- The state after a frame is `stateAfter`. -/
theorem replayState_processIncomingFrame (b : TelemetryBridge) (data : List UInt8) :
    (b.processIncomingFrame data).1.replayState = b.stateAfter data := by
  unfold stateAfter
  split_ifs with h
  · obtain ⟨-, hfirst, hlast⟩ := b.processIncomingFrame_accepted data h
    rw [replayState, hfirst, if_neg (by decide), hlast]
    rfl
  · obtain ⟨-, hfirst, hlast, -⟩ := b.processIncomingFrame_rejected data (eq_false_of_ne_true h)
    rw [replayState, hfirst, hlast]
    rfl

/-- Handling a frame brings all bytes into the file. -/
theorem replay_file_processIncomingFrame {b : TelemetryBridge} (hfile : Writable b.replay_file)
    (data : List UInt8) :
    (b.processIncomingFrame data).1.replay_file =
      b.fileAtStop data (StopPoint.written (line (frameSeq data)).length) := by
  unfold fileAtStop
  split_ifs with h
  · have hpersist : ∀ b' : TelemetryBridge, b'.replay_file = b.replay_file →
        b'.persistReplayState.replay_file =
          { b.replay_file with content := some (line b'.last_uplink_seq.toNat) } := by
      intro b' hb'
      unfold persistReplayState
      rw [hb', hfile.heap_not_armed, hfile.path_not_empty, hfile.can_open, hfile.can_write]
      rfl
    obtain ⟨command_out, hframe⟩ := b.sendCommand_frame (CommandPacket.decode data)
    have hcontent : (StopPoint.written (line (frameSeq data)).length).content
        b.replay_file.content (line (frameSeq data)) = some (line (frameSeq data)) := by
      show some ((line (frameSeq data)).take (line (frameSeq data)).length) = _
      rw [List.take_length]
    have hseq : (CcsdsHeader.decode data).seq_count.toUInt32.toNat = frameSeq data := by
      rw [UInt16.toNat_toUInt32, (CcsdsHeader.decode_toNat data).2.2.1]
      rfl
    rw [b.processIncomingFrame_eq data h, hpersist _ (by rw [hframe]), hcontent, hseq]
  · exact (b.processIncomingFrame_rejected data (eq_false_of_ne_true h)).2.2.2.1

/-- What holds between two operations: the mission is safe so far, and the file stands for the
replay state. -/
structure Coherent (m : Mission) : Prop where
  safe : CrashSafe m
  writable : Writable m.bridge.replay_file
  stored_eq : stored m.bridge.replay_file.content = m.bridge.replayState

/-- A number that passes the replay test may follow the numbers in the file. -/
theorem CrashSafe.isChain_concat {m : Mission} (h : CrashSafe m) {seq : ℕ}
    (hpass : m.bridge.Passes seq) : (m.persisted ++ [seq]).IsChain (Next 0xFF00 0x0100) := by
  refine List.isChain_append.mpr ⟨h.chain, List.isChain_singleton _, fun x hx y hy => ?_⟩
  cases hy
  rw [← h.last_eq, replayState] at hx
  rcases hpass with hfirst | hnext
  · rw [if_pos hfirst] at hx
    cases hx
  · split_ifs at hx
    · cases hx
    · cases hx
      exact hnext

/-- A state with a number is not the one before the first command. -/
theorem first_uplink_of_replayState {b : TelemetryBridge} {n : ℕ} (h : b.replayState = some n) :
    b.first_uplink = false := by
  unfold replayState at h
  split_ifs at h with hfirst
  exact eq_false_of_ne_true hfirst

/-- When the last number in the file is the replay state, a number in the file means that the bridge
is past its first command. -/
theorem first_uplink_of_last_eq {b : TelemetryBridge} {persisted : List ℕ}
    (h : b.replayState = persisted.getLast?) (hne : persisted ≠ []) : b.first_uplink = false := by
  rw [List.getLast?_eq_some_getLast hne] at h
  exact first_uplink_of_replayState h

/-- Handling a frame, accepted or not, keeps the mission coherent. -/
theorem Coherent.frame {m : Mission} (h : Coherent m) (data : List UInt8) :
    Coherent (m.step (MissionOp.frame data)) := by
  have hstate := m.bridge.replayState_processIncomingFrame data
  have hfile := replay_file_processIncomingFrame h.writable data
  unfold stateAfter at hstate
  unfold fileAtStop at hfile
  have hstep : m.step (MissionOp.frame data) =
      { m with
        bridge := (m.bridge.processIncomingFrame data).1
        persisted := m.persisted ++
          (if (m.bridge.processIncomingFrame data).2 then [frameSeq data] else []) } := rfl
  rw [hstep]
  split_ifs at hstate hfile ⊢ with hacc
  · have hpass := ((m.bridge.processIncomingFrame_iff data).mp hacc).passes
    refine ⟨⟨h.safe.atomic, fun _ => first_uplink_of_replayState hstate, ?_, ?_⟩, ?_, ?_⟩
    · rw [hstate, List.getLast?_append_of_ne_nil _ (List.cons_ne_nil _ _)]
      rfl
    · exact h.safe.isChain_concat hpass
    · rw [hfile]
      exact ⟨h.writable.heap_not_armed, h.writable.path_not_empty, h.writable.can_open,
        h.writable.can_write⟩
    · -- All bytes are there, so the file stands for the number.
      rw [hfile, hstate]
      show stored (some ((line (frameSeq data)).take (line (frameSeq data)).length)) = _
      rw [stored_take_line (frameSeq_le data), if_pos]
      rw [line, List.length_append]
      exact Nat.le_add_right _ _
  · rw [List.append_nil]
    have hlast := hstate.trans h.safe.last_eq
    refine ⟨⟨h.safe.atomic, first_uplink_of_last_eq hlast, hlast, h.safe.chain⟩, ?_, ?_⟩
    · rw [hfile]
      exact h.writable
    · rw [hfile, hstate]
      exact h.stored_eq

/-- A restart that loads the state before or after the update in progress keeps the mission
coherent. -/
theorem Coherent.restart {m : Mission} (h : Coherent m) {after : Option ℕ} {file : ReplayFile}
    (hfile : Writable file)
    (hloaded : stored file.content = m.bridge.replayState ∨ stored file.content = after)
    (hafter : after = m.bridge.replayState ∨ ∃ n, after = some n ∧ m.bridge.Passes n) :
    Coherent (m.restart after file) := by
  obtain ⟨hstate, hboot⟩ := boot_spec m.bridge.base.name m.bridge.base.id hfile
  unfold Mission.restart
  generalize boot m.bridge.base.name m.bridge.base.id file = b at hstate hboot ⊢
  have hatomic : ∀ r ∈ m.restarts ++ [⟨m.bridge.replayState, after, b.replayState⟩],
      r.loaded = r.before ∨ r.loaded = r.after := by
    intro r hr
    rcases List.mem_append.mp hr with hr | hr
    · exact h.safe.atomic r hr
    · rw [List.mem_singleton.mp hr, hstate]
      exact hloaded
  have hwritable : Writable b.replay_file := by rwa [hboot]
  have hstored : stored b.replay_file.content = b.replayState := by rw [hboot, hstate]
  by_cases hsame : b.replayState = m.bridge.replayState
  · have hlast := hsame.trans h.safe.last_eq
    simp only [if_pos hsame, List.append_nil]
    exact ⟨⟨hatomic, first_uplink_of_last_eq hlast, hlast, h.safe.chain⟩, hwritable, hstored⟩
  · -- The number in progress has reached the file.
    have hnew : b.replayState = after :=
      hstate.trans (hloaded.resolve_left fun heq => hsame (hstate.trans heq))
    rcases hafter with heq | ⟨n, rfl, hpass⟩
    · exact absurd (hnew.trans heq) hsame
    · have hlast : b.replayState = (m.persisted ++ [n]).getLast? := by
        rw [hnew, List.getLast?_append_of_ne_nil _ (List.cons_ne_nil _ _)]
        rfl
      simp only [if_neg hsame]
      rw [hnew] at hatomic ⊢
      exact ⟨⟨hatomic, fun _ => first_uplink_of_replayState hnew, hlast,
        h.safe.isChain_concat hpass⟩, hwritable, hstored⟩

/-- Every guarded operation keeps the mission coherent. -/
theorem Coherent.step {m : Mission} (h : Coherent m) (op : MissionOp) (hguard : Guarded m op) :
    Coherent (m.step op) := by
  cases op with
  | frame data => exact h.frame data
  | commandPort command_out =>
    exact ⟨⟨h.safe.atomic, h.safe.not_first, h.safe.last_eq, h.safe.chain⟩, h.writable, h.stored_eq⟩
  | stop => exact h.restart h.writable (Or.inl h.stored_eq) (Or.inl rfl)
  | stopDuring data point =>
    have hiff := m.bridge.processIncomingFrame_iff data
    show Coherent (m.restart (m.bridge.stateAfter data) (m.bridge.fileAtStop data point))
    unfold stateAfter fileAtStop
    split_ifs with hacc
    · have hsafe := hguard (hiff.mp hacc)
      rw [← h.stored_eq, ← safeStop_iff (frameSeq_le data)] at hsafe
      rw [h.stored_eq] at hsafe
      refine h.restart ?_ hsafe (Or.inr ⟨_, rfl, (hiff.mp hacc).passes⟩)
      exact ⟨h.writable.heap_not_armed, h.writable.path_not_empty, h.writable.can_open,
        h.writable.can_write⟩
    · exact h.restart h.writable (Or.inl h.stored_eq) (Or.inl rfl)

/-- An operation after which the mission is safe is guarded. -/
theorem Coherent.guarded {m : Mission} (h : Coherent m) (op : MissionOp)
    (hsafe : CrashSafe (m.step op)) : Guarded m op := by
  cases op with
  | frame | commandPort | stop => trivial
  | stopDuring data point =>
    intro haccepts
    have hacc := (m.bridge.processIncomingFrame_iff data).mpr haccepts
    have hfile : Writable (m.bridge.fileAtStop data point) := by
      rw [fileAtStop, if_pos hacc]
      exact ⟨h.writable.heap_not_armed, h.writable.path_not_empty, h.writable.can_open,
        h.writable.can_write⟩
    -- The last restart is the one of this operation.
    have hlast := hsafe.atomic ⟨m.bridge.replayState, m.bridge.stateAfter data,
      (boot m.bridge.base.name m.bridge.base.id (m.bridge.fileAtStop data point)).replayState⟩
      (List.mem_append_right _ (List.mem_singleton_self _))
    rw [(boot_spec _ _ hfile).1, stateAfter, if_pos hacc, fileAtStop, if_pos hacc] at hlast
    rw [← h.stored_eq, ← safeStop_iff (frameSeq_le data), h.stored_eq]
    exact hlast

/-- The first start is coherent. -/
theorem coherent_create (comp_name : Text) (comp_id : UInt32) {file : ReplayFile}
    (hfile : Writable file) : Coherent (Mission.create comp_name comp_id file) := by
  obtain ⟨hstate, hboot⟩ := boot_spec comp_name comp_id hfile
  have hlast : (boot comp_name comp_id file).replayState =
      (boot comp_name comp_id file).replayState.toList.getLast? := by
    cases (boot comp_name comp_id file).replayState <;> rfl
  refine ⟨⟨nofun, first_uplink_of_last_eq hlast, hlast, ?_⟩, ?_, ?_⟩
  · show (boot comp_name comp_id file).replayState.toList.IsChain _
    cases (boot comp_name comp_id file).replayState with
    | none => exact List.isChain_nil
    | some n => exact List.isChain_singleton n
  · show Writable (boot comp_name comp_id file).replay_file
    rwa [hboot]
  · show stored (boot comp_name comp_id file).replay_file.content = _
    rw [hboot, ← hstate]
    rfl

/-- Crash safety, for every run of frames, stops, and restarts from every file that can be written.
After every operation every restart has loaded the state before or after the update that was in
progress, and no number that has reached the file is acceptable again except as the replay test
allows, exactly when every stop during an accepted frame is safe. -/
theorem crash_safe_iff (comp_name : Text) (comp_id : UInt32) (file : ReplayFile)
    (hfile : Writable file) (ops : List MissionOp) :
    (∀ pre, pre <+: ops →
        CrashSafe (run Mission.step (Mission.create comp_name comp_id file) pre)) ↔
      Along Mission.step Guarded (Mission.create comp_name comp_id file) ops :=
  forall_prefix_iff_along (fun _ op h hguard => h.step op hguard) (fun _ h => h.safe)
    (fun _ op h hsafe => h.guarded op hsafe) (coherent_create comp_name comp_id hfile) ops

/-- A file that can be written and does not exist yet. -/
def newFile : ReplayFile := ⟨false, false, true, true, none⟩

/-- The command with number 5 is handled, and the process stops in the command with number 6. -/
def stopInSecond (point : StopPoint) : List MissionOp :=
  let cmd : CommandPacket := ⟨200, 1, ⟨0⟩⟩
  [MissionOp.commandPort (some (InputPort.create DEFAULT_QUEUE_DEPTH)),
    MissionOp.frame (commandFrame 5 cmd), MissionOp.stopDuring (commandFrame 6 cmd) point]

/-- A stop with the only digit in the file is safe. -/
theorem crash_safe_iff_written :
    CrashSafe (run Mission.step (Mission.create (ascii "RadioLink") 20 newFile)
      (stopInSecond (StopPoint.written 1))) := by
  refine (crash_safe_iff (ascii "RadioLink") 20 newFile ⟨rfl, rfl, rfl, rfl⟩ _).mpr ?_ _
    (List.prefix_refl _)
  exact ⟨trivial, trivial, fun _ => Or.inl (by decide +kernel), trivial⟩

/-- A stop with the file truncated brings the bridge back before its first command. -/
theorem stop_forgets_last :
    let m := run Mission.step (Mission.create (ascii "RadioLink") 20 newFile)
      (stopInSecond StopPoint.opened)
    m.persisted = [5] ∧ m.bridge.first_uplink = true ∧ m.restarts = [⟨some 5, some 6, none⟩] := by
  decide +kernel

end TelemetryBridge

end DeltaV
