import DeltaV.Lib.Runs
import DeltaV.Reporter
import Mathlib.Data.Finset.Card
import Mathlib.Order.Interval.Finset.Nat

/-!
# Missing chunks

`CfdpComponent` collects a file in numbered chunks and reports which are missing. The log keeps the
calls that begin a session, reset it, or commit a chunk, with their results, and `committed` reads
off it which chunks have been committed since the session began. In every run what the component
reports is what the log tells (`missing_set_correct`).

A command that asks for a report is told the mission time. A NaN as an index has no defined
conversion, so its result is a parameter.
-/

namespace DeltaV

/-- The calls that concern the set of chunks. -/
inductive CfdpAction where
  /-- `beginSession` was called. -/
  | began (chunks : ℕ) (ok : Bool)
  /-- `commitChunk` was called. -/
  | committed (index : ℕ) (ok : Bool)
  /-- The session was reset. -/
  | reset
deriving DecidableEq, Repr

/-- The size of the chunk table. -/
def MAX_CHUNKS : ℕ := 128

/-- The chunk reliability manager. -/
structure CfdpComponent extends Reporter where
  /-- The bytes of the chunks, by chunk and position. -/
  chunks_ : ℕ → ℕ → UInt8
  chunk_len_ : ℕ → UInt8
  chunk_received_ : ℕ → Bool
  staged_chunk_ : ℕ → UInt8
  expected_chunks_ : ℕ
  staged_index_ : ℕ
  staged_len_ : ℕ
  session_active_ : Bool
  log : List CfdpAction

namespace CfdpComponent

/-- The size of one chunk. -/
def CHUNK_BYTES : ℕ := 64

def OP_BEGIN_SESSION : UInt32 := 1

def OP_SET_CHUNK_INDEX : UInt32 := 2

def OP_PUSH_TEST_BYTE : UInt32 := 3

def OP_COMMIT_CHUNK : UInt32 := 4

def OP_REPORT_MISSING_COUNT : UInt32 := 5

def OP_REPORT_NEXT_MISSING : UInt32 := 6

def OP_COMPLETE_SESSION : UInt32 := 7

def OP_RESET_SESSION : UInt32 := 8

/-- A component as constructed. -/
def create (base : Component) : CfdpComponent :=
  { Reporter.create base with
    chunks_ := fun _ _ => 0
    chunk_len_ := fun _ => 0
    chunk_received_ := fun _ => false
    staged_chunk_ := fun _ => 0
    expected_chunks_ := 0
    staged_index_ := 0
    staged_len_ := 0
    session_active_ := false
    log := [] }

/-- Counts one error. -/
def recordError (c : CfdpComponent) : CfdpComponent :=
  { c with toReporter := c.toReporter.recordError }

/-- Sends an event. -/
def publishEvent (c : CfdpComponent) (severity : UInt32) (msg : Text) : CfdpComponent :=
  { c with toReporter := c.toReporter.publishEvent severity msg }

/-- Sends a telemetry value. -/
def reportValue (c : CfdpComponent) (met : UInt32) (v : Binary32) : CfdpComponent :=
  { c with toReporter := c.toReporter.publishTelemetry met v }

/-- Notes a call and its result. -/
def note (c : CfdpComponent) (action : CfdpAction) : CfdpComponent :=
  { c with log := c.log ++ [action] }

/-- The number of missing chunks. -/
def missingCount (c : CfdpComponent) : ℕ :=
  if c.session_active_ = false then 0
  else (List.range c.expected_chunks_).countP fun i => !c.chunk_received_ i

/-- The first missing chunk, or `-1`. -/
def nextMissingIndex (c : CfdpComponent) : ℤ :=
  if c.session_active_ = false then -1
  else
    match (List.range c.expected_chunks_).find? fun i => !c.chunk_received_ i with
    | some i => i
    | none => -1

/-- A float as an index: clamped to the table size and truncated. -/
def toIndex (cast : Binary32 → ℕ) (value : Binary32) : ℕ :=
  if value ≤ Binary32.ofNat 0 then 0
  else if Binary32.ofNat MAX_CHUNKS ≤ value then MAX_CHUNKS
  else
    match value.toUnsigned 64 with
    | some n => n
    | none => cast value

/-- Opens a session for a number of chunks. -/
def beginSession (c : CfdpComponent) (chunks : ℕ) : CfdpComponent :=
  if chunks = 0 ∨ MAX_CHUNKS < chunks then
    (c.recordError.publishEvent Severity.WARNING (ascii "CFDP_BAD_SIZE")).note
      (CfdpAction.began chunks false)
  else
    ({ c with
        expected_chunks_ := chunks
        chunk_received_ := fun _ => false
        chunk_len_ := fun _ => 0
        staged_index_ := 0
        staged_len_ := 0
        session_active_ := true }.publishEvent Severity.INFO (ascii "CFDP_SESSION")).note
      (CfdpAction.began chunks true)

/-- Appends a byte to the staged chunk. -/
def pushTestByte (c : CfdpComponent) (value : UInt8) : CfdpComponent :=
  if c.session_active_ = false ∨ CHUNK_BYTES ≤ c.staged_len_ then c.recordError
  else
    { c with
      staged_chunk_ := Function.update c.staged_chunk_ c.staged_len_ value
      staged_len_ := c.staged_len_ + 1 }

/-- Stores the staged chunk under the staged index. -/
def commitChunk (c : CfdpComponent) : CfdpComponent :=
  if c.session_active_ = false ∨ c.expected_chunks_ ≤ c.staged_index_ then
    (c.recordError.publishEvent Severity.WARNING (ascii "CFDP_IDX_FAIL")).note
      (CfdpAction.committed c.staged_index_ false)
  else
    let chunk := fun k => if k < c.staged_len_ then c.staged_chunk_ k else c.chunks_ c.staged_index_ k
    ({ c with
        chunks_ := Function.update c.chunks_ c.staged_index_ chunk
        chunk_len_ := Function.update c.chunk_len_ c.staged_index_ (UInt8.ofNat c.staged_len_)
        chunk_received_ := Function.update c.chunk_received_ c.staged_index_ true
        staged_len_ := 0 }.publishEvent Severity.INFO (ascii "CFDP_CHUNK")).note
      (CfdpAction.committed c.staged_index_ true)

/-- Says whether the file is complete. -/
def completeSession (c : CfdpComponent) : CfdpComponent :=
  if c.session_active_ = false then c
  else if c.missingCount = 0 then c.publishEvent Severity.INFO (ascii "CFDP_DONE")
  else c.publishEvent Severity.WARNING (ascii "CFDP_MISSING")

/-- Ends the session. -/
def resetSession (c : CfdpComponent) : CfdpComponent :=
  { c with
    expected_chunks_ := 0
    staged_index_ := 0
    staged_len_ := 0
    session_active_ := false
    chunk_received_ := fun _ => false
    chunk_len_ := fun _ => 0 }.note CfdpAction.reset

/-- Executes a command at a mission time. -/
def handleCommand (cast : Binary32 → ℕ) (c : CfdpComponent) (cmd : CommandPacket × UInt32) :
    CfdpComponent :=
  let argument := cmd.1.argument
  if cmd.1.opcode = OP_BEGIN_SESSION then c.beginSession (toIndex cast argument)
  else if cmd.1.opcode = OP_SET_CHUNK_INDEX then { c with staged_index_ := toIndex cast argument }
  else if cmd.1.opcode = OP_PUSH_TEST_BYTE then
    c.pushTestByte (UInt8.ofNat (toIndex cast argument &&& 0xFF))
  else if cmd.1.opcode = OP_COMMIT_CHUNK then c.commitChunk
  else if cmd.1.opcode = OP_REPORT_MISSING_COUNT then
    c.reportValue cmd.2 (Binary32.ofNat c.missingCount)
  else if cmd.1.opcode = OP_REPORT_NEXT_MISSING then
    c.reportValue cmd.2 (Binary32.roundUnits (c.nextMissingIndex * 2^149))
  else if cmd.1.opcode = OP_COMPLETE_SESSION then c.completeSession
  else if cmd.1.opcode = OP_RESET_SESSION then
    c.resetSession.publishEvent Severity.INFO (ascii "CFDP_RESET")
  else c.recordError.publishEvent Severity.WARNING (ascii "CFDP_BAD_OP")

/-- Starts the component. -/
def init (c : CfdpComponent) : CfdpComponent :=
  c.resetSession.publishEvent Severity.INFO (ascii "CFDP_READY")

/-- Executes the commands in the input port and reports the number of missing chunks. -/
def step (cast : Binary32 → ℕ) (c : CfdpComponent) (cmds : List (CommandPacket × UInt32))
    (met : UInt32) : CfdpComponent :=
  let c := cmds.foldl (handleCommand cast) c
  c.reportValue met (Binary32.ofNat c.missingCount)

end CfdpComponent

/-- What can happen to the component. -/
inductive CfdpOp where
  | init
  | handleCommand (cmd : CommandPacket × UInt32)
  | step (cmds : List (CommandPacket × UInt32)) (met : UInt32)
  /-- Others send to and take from the queues behind the outputs. -/
  | outputs (event_out : Option (InputPort EventPacket DEFAULT_QUEUE_DEPTH))
    (telemetry_out : Option (InputPort (List UInt8) DEFAULT_QUEUE_DEPTH))

namespace CfdpComponent

/-- The next state. -/
def apply (cast : Binary32 → ℕ) (c : CfdpComponent) : CfdpOp → CfdpComponent
  | CfdpOp.init => c.init
  | CfdpOp.handleCommand cmd => c.handleCommand cast cmd
  | CfdpOp.step cmds met => c.step cast cmds met
  | CfdpOp.outputs event_out telemetry_out =>
    { c with toReporter := c.reconnect event_out telemetry_out }

end CfdpComponent

/-! ## What the log tells -/

namespace CfdpAction

/-- The committed chunks after one more call. -/
def track (indices : List ℕ) : CfdpAction → List ℕ
  | began _ true => []
  | reset => []
  | committed index true => indices ++ [index]
  | _ => indices

/-- The chunks committed since the session began, in order and with repetitions. -/
def commits (log : List CfdpAction) : List ℕ := log.foldl track []

/-- One more call in the log changes the committed chunks as that call does. -/
theorem commits_concat (log : List CfdpAction) (action : CfdpAction) :
    commits (log ++ [action]) = track (commits log) action := by
  unfold commits
  rw [List.foldl_concat]

end CfdpAction

namespace CfdpComponent

/-- The flags say which chunks have been committed since the session began, and these are chunks of
the session. -/
structure Tracks (c : CfdpComponent) : Prop where
  received_iff : ∀ i, c.chunk_received_ i = true ↔ i ∈ CfdpAction.commits c.log
  lt_expected : ∀ i ∈ CfdpAction.commits c.log, i < c.expected_chunks_

/-- The missing chunks, in order. -/
def missing (c : CfdpComponent) : List ℕ :=
  if c.session_active_ = false then []
  else (List.range c.expected_chunks_).filter fun i => !c.chunk_received_ i

/-- The committed chunks and their contents are the same. -/
structure SameChunks (c c' : CfdpComponent) : Prop where
  expected_eq : c'.expected_chunks_ = c.expected_chunks_
  active_eq : c'.session_active_ = c.session_active_
  received_eq : c'.chunk_received_ = c.chunk_received_
  len_eq : c'.chunk_len_ = c.chunk_len_
  chunks_eq : c'.chunks_ = c.chunks_

/-- The log has been continued, and nothing has become missing unless a session has begun. -/
def Follows (c c' : CfdpComponent) : Prop :=
  ∃ actions, c'.log = c.log ++ actions ∧
    ((∀ chunks, CfdpAction.began chunks true ∉ actions) → c'.missing ⊆ c.missing)

/-! ## Reports -/

/-- The count of the missing chunks is the number of chunks that are missing. -/
theorem missingCount_eq (c : CfdpComponent) : c.missingCount = c.missing.length := by
  unfold missingCount missing
  split_ifs
  · rfl
  · rw [List.countP_eq_length_filter]

/-- In a session, the missing chunks are those of the session whose flag is not set. -/
theorem mem_missing_iff {c : CfdpComponent} {i : ℕ} :
    i ∈ c.missing ↔ c.session_active_ = true ∧ i < c.expected_chunks_ ∧
      c.chunk_received_ i = false := by
  unfold missing
  split_ifs with hactive
  · simp [hactive]
  · rw [List.mem_filter, List.mem_range, Bool.not_eq_true']
    exact (and_iff_right (Bool.eq_true_of_not_eq_false hactive)).symm

/-- In a session the missing chunks are those that have not been committed. -/
theorem Tracks.mem_missing {c : CfdpComponent} (h : c.Tracks) (hactive : c.session_active_ = true)
    (i : ℕ) : i ∈ c.missing ↔ i < c.expected_chunks_ ∧ i ∉ CfdpAction.commits c.log := by
  rw [mem_missing_iff, ← h.received_iff, Bool.not_eq_true, and_iff_right hactive]

/-- In a session the number of missing chunks is that of the chunks less that of the different
committed ones. -/
theorem Tracks.missingCount_eq_sub {c : CfdpComponent} (h : c.Tracks)
    (hactive : c.session_active_ = true) :
    c.missingCount = c.expected_chunks_ -
      ((CfdpAction.commits c.log).toFinset.filter (· < c.expected_chunks_)).card := by
  have hnodup : c.missing.Nodup := by
    unfold missing
    split_ifs
    · exact List.nodup_nil
    · exact List.nodup_range.filter _
  -- As a set, the missing chunks are those of the session without the committed ones.
  have hset : c.missing.toFinset =
      Finset.range c.expected_chunks_ \ (CfdpAction.commits c.log).toFinset := by
    ext i
    rw [List.mem_toFinset, h.mem_missing hactive, Finset.mem_sdiff, Finset.mem_range,
      List.mem_toFinset]
  have hinter : (CfdpAction.commits c.log).toFinset.filter (· < c.expected_chunks_) =
      (CfdpAction.commits c.log).toFinset ∩ Finset.range c.expected_chunks_ := by
    ext i
    rw [Finset.mem_filter, Finset.mem_inter, Finset.mem_range]
  rw [missingCount_eq, ← List.toFinset_card_of_nodup hnodup, hset, Finset.card_sdiff, hinter,
    Finset.card_range]

/-- In a session nothing is missing exactly when every chunk has been committed. -/
theorem Tracks.missingCount_eq_zero_iff {c : CfdpComponent} (h : c.Tracks)
    (hactive : c.session_active_ = true) :
    c.missingCount = 0 ↔ ∀ i < c.expected_chunks_, i ∈ CfdpAction.commits c.log := by
  rw [missingCount_eq, List.length_eq_zero_iff, List.eq_nil_iff_forall_not_mem]
  refine forall_congr' fun i => ?_
  rw [h.mem_missing hactive, not_and, not_not]

/-- In a session the next missing chunk is the first that has not been committed. -/
theorem Tracks.nextMissingIndex_spec {c : CfdpComponent} (h : c.Tracks)
    (hactive : c.session_active_ = true) :
    (c.nextMissingIndex = -1 ↔ c.missingCount = 0) ∧
      ∀ i : ℕ, c.nextMissingIndex = i ↔ i < c.expected_chunks_ ∧
        i ∉ CfdpAction.commits c.log ∧ ∀ j < i, j ∈ CfdpAction.commits c.log := by
  have hreceived (i : ℕ) : (!c.chunk_received_ i) = true ↔ i ∉ CfdpAction.commits c.log := by
    rw [Bool.not_eq_true', ← h.received_iff, Bool.not_eq_true]
  have hmissing : c.missing = (List.range c.expected_chunks_).filter fun i => !c.chunk_received_ i :=
    if_neg (by simp [hactive])
  unfold nextMissingIndex
  rw [if_neg (by simp [hactive]), missingCount_eq, List.length_eq_zero_iff, hmissing,
    List.filter_eq_nil_iff]
  rcases hfind : (List.range c.expected_chunks_).find? fun i => !c.chunk_received_ i with _ | k
  · -- Nothing is found, so nothing is missing and no index is the first.
    rw [List.find?_eq_none] at hfind
    refine ⟨iff_of_true rfl hfind, fun i => ?_⟩
    change (-1 : ℤ) = i ↔ _
    refine iff_of_false (by omega) fun hi => ?_
    exact hfind i (List.mem_range.mpr hi.1) ((hreceived i).mpr hi.2.1)
  · -- The search stops at `k`, and what comes before it has been committed.
    obtain ⟨hk, hmem, hbefore⟩ := List.find?_range_eq_some.mp hfind
    have hlt := List.mem_range.mp hmem
    change ((k : ℤ) = -1 ↔ _) ∧ ∀ i : ℕ, (k : ℤ) = i ↔ _
    refine ⟨iff_of_false (by omega) fun hall => hall k hmem hk, fun i => ?_⟩
    constructor
    · intro heq
      obtain rfl : k = i := by exact_mod_cast heq
      refine ⟨hlt, (hreceived k).mp hk, fun j hj => ?_⟩
      rw [← h.received_iff]
      simpa using hbefore j hj
    · rintro ⟨-, hi, hi'⟩
      -- Both indices are the first that has not been committed.
      rcases lt_trichotomy k i with hki | rfl | hik
      · exact absurd (hi' k hki) ((hreceived k).mp hk)
      · rfl
      · have hcommitted := hbefore i hik
        rw [(hreceived i).mpr hi] at hcommitted
        cases hcommitted

/-! ## The calls -/

/-- A call that leaves flags, session, and log alone. -/
theorem Tracks.congr {c c' : CfdpComponent} (h : c.Tracks)
    (hreceived : c'.chunk_received_ = c.chunk_received_)
    (hexpected : c'.expected_chunks_ = c.expected_chunks_)
    (hcommits : CfdpAction.commits c'.log = CfdpAction.commits c.log) : c'.Tracks := by
  refine ⟨fun i => ?_, fun i hi => ?_⟩
  · rw [hreceived, hcommits, h.received_iff]
  · rw [hcommits] at hi
    rw [hexpected]
    exact h.lt_expected i hi

/-- After the start or the end of a session nothing has been committed. -/
theorem tracks_of_fresh {c : CfdpComponent} (hreceived : c.chunk_received_ = fun _ => false)
    (hcommits : CfdpAction.commits c.log = []) : c.Tracks := by
  refine ⟨fun i => ?_, fun i hi => ?_⟩
  · rw [hreceived, hcommits]
    simp
  · rw [hcommits] at hi
    cases hi

/-- A call that leaves flags and session alone and begins no session. -/
theorem Follows.congr {c c' : CfdpComponent} {actions : List CfdpAction}
    (hlog : c'.log = c.log ++ actions) (hreceived : c'.chunk_received_ = c.chunk_received_)
    (hexpected : c'.expected_chunks_ = c.expected_chunks_)
    (hactive : c'.session_active_ = c.session_active_) : c.Follows c' := by
  refine ⟨actions, hlog, fun _ => ?_⟩
  unfold missing
  rw [hreceived, hexpected, hactive]
  exact List.Subset.refl _

/-- A component that does nothing has nothing to add to its log. -/
theorem Follows.refl (c : CfdpComponent) : c.Follows c :=
  ⟨[], (List.append_nil _).symm, fun _ => List.Subset.refl _⟩

/-- What follows in two stretches follows in one. -/
theorem Follows.trans {c c' c'' : CfdpComponent} (h : c.Follows c') (h' : c'.Follows c'') :
    c.Follows c'' := by
  obtain ⟨actions, hlog, hmissing⟩ := h
  obtain ⟨actions', hlog', hmissing'⟩ := h'
  refine ⟨actions ++ actions', by rw [hlog', hlog, List.append_assoc], fun hnone => ?_⟩
  refine List.Subset.trans (hmissing' fun n hn => ?_) (hmissing fun n hn => ?_)
  · exact hnone n (List.mem_append_right _ hn)
  · exact hnone n (List.mem_append_left _ hn)

/-- What one call does to the tracking. -/
structure CallSpec (c c' : CfdpComponent) : Prop where
  tracks : c.Tracks → c'.Tracks
  follows : c.Follows c'

/-- Two calls in a row do what each of them does. -/
theorem CallSpec.trans {c c' c'' : CfdpComponent} (h : CallSpec c c') (h' : CallSpec c' c'') :
    CallSpec c c'' := ⟨fun ht => h'.tracks (h.tracks ht), h.follows.trans h'.follows⟩

/-- A call that leaves flags, session, and log alone. -/
theorem CallSpec.of_same {c c' : CfdpComponent} (hreceived : c'.chunk_received_ = c.chunk_received_)
    (hexpected : c'.expected_chunks_ = c.expected_chunks_)
    (hactive : c'.session_active_ = c.session_active_) (hlog : c'.log = c.log) : CallSpec c c' :=
  ⟨fun h => h.congr hreceived hexpected (by rw [hlog]),
    Follows.congr (by rw [hlog, List.append_nil]) hreceived hexpected hactive⟩

/-- A call of `beginSession` keeps the tracking. -/
theorem callSpec_beginSession (c : CfdpComponent) (chunks : ℕ) :
    CallSpec c (c.beginSession chunks) := by
  unfold beginSession
  split_ifs
  · refine ⟨fun h => h.congr rfl rfl ?_, Follows.congr rfl rfl rfl rfl⟩
    exact CfdpAction.commits_concat _ _
  · -- The log begins a session, so nothing is claimed about the missing chunks.
    refine ⟨fun _ => tracks_of_fresh rfl (CfdpAction.commits_concat _ _), ?_⟩
    refine ⟨[CfdpAction.began chunks true], rfl, fun hnone => ?_⟩
    exact absurd (List.mem_singleton_self _) (hnone chunks)

/-- A call of `commitChunk` keeps the tracking. -/
theorem callSpec_commitChunk (c : CfdpComponent) : CallSpec c c.commitChunk := by
  unfold commitChunk
  split_ifs with hrejected
  · refine ⟨fun h => h.congr rfl rfl ?_, Follows.congr rfl rfl rfl rfl⟩
    exact CfdpAction.commits_concat _ _
  · have hlt : c.staged_index_ < c.expected_chunks_ := not_le.mp (not_or.mp hrejected).2
    dsimp only
    refine ⟨fun h => ⟨fun i => ?_, fun i hi => ?_⟩, ?_⟩
    · -- The flag that is set is that of the index that the log has gained.
      change Function.update c.chunk_received_ c.staged_index_ true i = true ↔
        i ∈ CfdpAction.commits (c.log ++ [CfdpAction.committed c.staged_index_ true])
      rw [CfdpAction.commits_concat, CfdpAction.track, List.mem_append, List.mem_singleton,
        ← h.received_iff]
      rcases eq_or_ne i c.staged_index_ with rfl | hne
      · simp
      · simp [hne]
    · change i ∈ CfdpAction.commits (c.log ++ [CfdpAction.committed c.staged_index_ true]) at hi
      rw [CfdpAction.commits_concat, CfdpAction.track, List.mem_append, List.mem_singleton] at hi
      rcases hi with hi | rfl
      · exact h.lt_expected i hi
      · exact hlt
    · refine ⟨[CfdpAction.committed c.staged_index_ true], rfl, fun _ => ?_⟩
      -- One more flag is set, and the session is the same.
      intro i hi
      obtain ⟨hactive, hlt, hflag⟩ := mem_missing_iff.mp hi
      refine mem_missing_iff.mpr ⟨hactive, hlt, ?_⟩
      change Function.update c.chunk_received_ c.staged_index_ true i = false at hflag
      rcases eq_or_ne i c.staged_index_ with rfl | hne
      · simp at hflag
      · rwa [Function.update_of_ne hne] at hflag

/-- A call of `resetSession` keeps the tracking. -/
theorem callSpec_resetSession (c : CfdpComponent) : CallSpec c c.resetSession := by
  refine ⟨fun _ => tracks_of_fresh rfl (CfdpAction.commits_concat _ _), ?_⟩
  refine ⟨[CfdpAction.reset], rfl, fun _ => ?_⟩
  exact List.nil_subset _

/-- Every command keeps the tracking. -/
theorem callSpec_handleCommand (cast : Binary32 → ℕ) (c : CfdpComponent)
    (cmd : CommandPacket × UInt32) : CallSpec c (c.handleCommand cast cmd) := by
  unfold handleCommand
  dsimp only
  split_ifs
  · exact c.callSpec_beginSession _
  · exact CallSpec.of_same rfl rfl rfl rfl
  · unfold pushTestByte
    split_ifs <;> exact CallSpec.of_same rfl rfl rfl rfl
  · exact c.callSpec_commitChunk
  · exact CallSpec.of_same rfl rfl rfl rfl
  · exact CallSpec.of_same rfl rfl rfl rfl
  · unfold completeSession
    split_ifs <;> exact CallSpec.of_same rfl rfl rfl rfl
  · exact c.callSpec_resetSession.trans (CallSpec.of_same rfl rfl rfl rfl)
  · exact CallSpec.of_same rfl rfl rfl rfl

/-- Every operation keeps the tracking. -/
theorem callSpec_apply (cast : Binary32 → ℕ) (c : CfdpComponent) (op : CfdpOp) :
    CallSpec c (c.apply cast op) := by
  cases op with
  | init => exact c.callSpec_resetSession.trans (CallSpec.of_same rfl rfl rfl rfl)
  | handleCommand cmd => exact c.callSpec_handleCommand cast cmd
  | step cmds met =>
    have hrefl (c : CfdpComponent) : CallSpec c c := CallSpec.of_same rfl rfl rfl rfl
    have hcommands : CallSpec c (cmds.foldl (handleCommand cast) c) :=
      run_rel hrefl CallSpec.trans (callSpec_handleCommand cast) c cmds
    exact hcommands.trans (CallSpec.of_same rfl rfl rfl rfl)
  | outputs event_out telemetry_out => exact CallSpec.of_same rfl rfl rfl rfl

/-! ## Runs -/

/-- The missing set over every run. In a session the reported count and index are those of the
chunks that have not been committed since it began, and `CFDP_DONE` is published exactly when there
are none; without a session there is nothing to report. Nothing becomes missing before the next
session begins, and a rejected call leaves the committed chunks alone. -/
theorem missing_set_correct (cast : Binary32 → ℕ) (base : Component) (ops : List CfdpOp) :
    let c := run (apply cast) (create base) ops
    (c.session_active_ = true →
      c.missingCount = c.expected_chunks_ -
          ((CfdpAction.commits c.log).toFinset.filter (· < c.expected_chunks_)).card ∧
        (c.nextMissingIndex = -1 ↔ c.missingCount = 0) ∧
        (∀ i : ℕ, c.nextMissingIndex = i ↔ i < c.expected_chunks_ ∧
          i ∉ CfdpAction.commits c.log ∧ ∀ j < i, j ∈ CfdpAction.commits c.log) ∧
        c.completeSession.published = c.published ++
          if ∀ i < c.expected_chunks_, i ∈ CfdpAction.commits c.log then
            [EventPacket.create Severity.INFO c.getId (ascii "CFDP_DONE")]
          else [EventPacket.create Severity.WARNING c.getId (ascii "CFDP_MISSING")]) ∧
      (c.session_active_ = false →
        c.missingCount = 0 ∧ c.nextMissingIndex = -1 ∧ c.completeSession = c) ∧
      (∀ ops' actions, (run (apply cast) c ops').log = c.log ++ actions →
        (∀ chunks, CfdpAction.began chunks true ∉ actions) →
        (run (apply cast) c ops').missing ⊆ c.missing) ∧
      (∀ chunks, chunks = 0 ∨ MAX_CHUNKS < chunks → SameChunks c (c.beginSession chunks)) ∧
      (c.session_active_ = false ∨ c.expected_chunks_ ≤ c.staged_index_ →
        SameChunks c c.commitChunk) ∧
      ∀ value, SameChunks c (c.pushTestByte value) := by
  intro c
  have hcreate : (create base).Tracks := tracks_of_fresh rfl rfl
  have hstep (c : CfdpComponent) (op : CfdpOp) (h : c.Tracks) : (c.apply cast op).Tracks :=
    (c.callSpec_apply cast op).tracks h
  have h : c.Tracks := run_invariant hstep hcreate ops
  refine ⟨fun hactive => ⟨h.missingCount_eq_sub hactive, (h.nextMissingIndex_spec hactive).1,
    (h.nextMissingIndex_spec hactive).2, ?_⟩, fun hactive => ?_, fun ops' actions hlog hnone => ?_,
    fun chunks hbad => ?_, fun hbad => ?_, fun value => ?_⟩
  · unfold completeSession
    rw [if_neg (by simp [hactive])]
    simp only [h.missingCount_eq_zero_iff hactive]
    split_ifs <;> rfl
  · unfold missingCount nextMissingIndex completeSession
    rw [if_pos hactive, if_pos hactive, if_pos hactive]
    exact ⟨rfl, rfl, rfl⟩
  · -- The log only grows, so the actions of the further calls are what it has gained.
    have hfollows : c.Follows (run (apply cast) c ops') :=
      run_rel Follows.refl Follows.trans (fun c op => (c.callSpec_apply cast op).follows) c ops'
    obtain ⟨actions', hlog', hmissing⟩ := hfollows
    rw [hlog] at hlog'
    rw [List.append_cancel_left hlog'] at hnone
    exact hmissing hnone
  · unfold beginSession
    rw [if_pos hbad]
    exact ⟨rfl, rfl, rfl, rfl, rfl⟩
  · unfold commitChunk
    rw [if_pos hbad]
    exact ⟨rfl, rfl, rfl, rfl, rfl⟩
  · unfold pushTestByte
    split_ifs <;> exact ⟨rfl, rfl, rfl, rfl, rfl⟩

end CfdpComponent

end DeltaV
