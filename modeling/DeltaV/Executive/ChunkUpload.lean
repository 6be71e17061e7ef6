import DeltaV.CfdpChunks
import DeltaV.Executive.CommandPath
import DeltaV.Lib.ChunkStore

/-!
# Uploads in chunks

`CfdpComponent` is a store of chunks (`Represents`): a command is one of the operations of the store
or only asks for a report. So a file of which every chunk is sent once over the command path arrives
up to lost bytes when no chunk is missing. The point of the component is to send the missing chunks
again, and there this ends: when the commit of a chunk gets lost, its bytes stay staged, and the
chunk that is sent again is stored behind them (`passes_intact_iff`).
-/

namespace DeltaV

/-- What the chunk manager does besides executing commands. -/
inductive CfdpWork where
  /-- The end of `step()`. -/
  | report (met : UInt32)
  /-- Others send to and take from the queues behind the outputs. -/
  | outputs (event_out : Option (InputPort EventPacket DEFAULT_QUEUE_DEPTH))
    (telemetry_out : Option (InputPort (List UInt8) DEFAULT_QUEUE_DEPTH))

namespace CfdpComponent

/-- Executes a command at a mission time. -/
def execute (cast : Binary32 → ℕ) (c : CfdpComponent) (cmd : CommandPacket) (met : UInt32) :
    CfdpComponent := c.handleCommand cast (cmd, met)

/-- Does something else. -/
def work (cast : Binary32 → ℕ) (c : CfdpComponent) : CfdpWork → CfdpComponent
  | CfdpWork.report met => c.apply cast (CfdpOp.step [] met)
  | CfdpWork.outputs event_out telemetry_out =>
    c.apply cast (CfdpOp.outputs event_out telemetry_out)

/-! ## The store -/

/-- What a command asks of the store; a report or a number of chunks that is refused is nothing. -/
def chunkOp (cast : Binary32 → ℕ) (cmd : CommandPacket) : Option (ChunkOp UInt8) :=
  let index := toIndex cast cmd.argument
  if cmd.opcode = OP_BEGIN_SESSION then
    if index = 0 ∨ MAX_CHUNKS < index then none else some (ChunkOp.start index)
  else if cmd.opcode = OP_SET_CHUNK_INDEX then some (ChunkOp.select index)
  else if cmd.opcode = OP_PUSH_TEST_BYTE then
    some (ChunkOp.push (UInt8.ofNat (index &&& 0xFF)))
  else if cmd.opcode = OP_COMMIT_CHUNK then some ChunkOp.commit
  else if cmd.opcode = OP_REPORT_MISSING_COUNT then none
  else if cmd.opcode = OP_REPORT_NEXT_MISSING then none
  else if cmd.opcode = OP_COMPLETE_SESSION then none
  else if cmd.opcode = OP_RESET_SESSION then some (ChunkOp.start 0)
  else none

/-- The bytes of a chunk. -/
def content (c : CfdpComponent) (i : ℕ) : List UInt8 :=
  (List.range (c.chunk_len_ i).toNat).map (c.chunks_ i)

/-- The component holds what the store holds. -/
structure Represents (c : CfdpComponent) (s : ChunkStore UInt8) : Prop where
  active_iff : c.session_active_ = true ↔ s.expected ≠ 0
  expected_eq : c.expected_chunks_ = s.expected
  index_eq : c.staged_index_ = s.index
  staged_eq : c.staged = s.staged
  staged_le : c.staged_len_ ≤ CHUNK_BYTES
  stored_eq : ∀ i, s.stored i = if c.chunk_received_ i = true then some (c.content i) else none

/-- As many bytes are staged as the counter says. -/
theorem length_staged (c : CfdpComponent) : c.staged.length = c.staged_len_ := by
  rw [staged, List.length_map, List.length_range]

/-- Reports leave the chunks alone. -/
theorem Represents.congr {c c' : CfdpComponent} {s : ChunkStore UInt8} (h : c.Represents s)
    (hsame : SameChunks c c') (hindex : c'.staged_index_ = c.staged_index_)
    (hstaged : c'.staged_chunk_ = c.staged_chunk_) (hlen : c'.staged_len_ = c.staged_len_) :
    c'.Represents s := by
  refine ⟨hsame.active_eq ▸ h.active_iff, hsame.expected_eq.trans h.expected_eq,
    hindex.trans h.index_eq, ?_, hlen ▸ h.staged_le, fun i => ?_⟩
  · rw [staged, hstaged, hlen]
    exact h.staged_eq
  · rw [content, hsame.received_eq, hsame.len_eq, hsame.chunks_eq]
    exact h.stored_eq i

/-- A store without chunks. -/
theorem represents_start {c : CfdpComponent} {n : ℕ}
    (hactive : c.session_active_ = true ↔ n ≠ 0) (hexpected : c.expected_chunks_ = n)
    (hindex : c.staged_index_ = 0) (hlen : c.staged_len_ = 0)
    (hreceived : c.chunk_received_ = fun _ => false) :
    c.Represents (ChunkStore.step CHUNK_BYTES ChunkStore.idle (ChunkOp.start n)) := by
  refine ⟨hactive, hexpected, hindex, ?_, hlen ▸ Nat.zero_le _, fun i => ?_⟩
  · exact List.length_eq_zero_iff.mp (c.length_staged.trans hlen)
  · rw [hreceived, if_neg Bool.false_ne_true]
    rfl

/-- A byte is staged by both or by none. -/
theorem Represents.pushTestByte {c : CfdpComponent} {s : ChunkStore UInt8} (h : c.Represents s)
    (value : UInt8) :
    (c.pushTestByte value).Represents (s.step CHUNK_BYTES (ChunkOp.push value)) := by
  have hlength : s.staged.length = c.staged_len_ := h.staged_eq ▸ c.length_staged
  by_cases hroom : s.expected ≠ 0 ∧ s.staged.length < CHUNK_BYTES
  · have hactive : c.session_active_ = true := h.active_iff.mpr hroom.1
    have hlt : c.staged_len_ < CHUNK_BYTES := hlength ▸ hroom.2
    rw [pushTestByte_of_room hactive hlt]
    simp only [ChunkStore.step, if_pos hroom]
    refine ⟨h.active_iff, h.expected_eq, h.index_eq, ?_, hlt, h.stored_eq⟩
    -- The byte goes behind the staged ones, which stay.
    rw [← h.staged_eq, staged, staged, List.range_succ, List.map_append, List.map_singleton]
    dsimp only
    rw [Function.update_self]
    refine congrArg (· ++ [value]) (List.map_congr_left fun k hk => ?_)
    exact Function.update_of_ne (List.mem_range.mp hk).ne _ _
  · have hrejected : c.session_active_ = false ∨ CHUNK_BYTES ≤ c.staged_len_ := by
      rw [← hlength, ← not_lt]
      rcases not_and_or.mp hroom with hidle | hfull
      · exact Or.inl (Bool.eq_false_iff.mpr (mt h.active_iff.mp hidle))
      · exact Or.inr hfull
    simp only [ChunkStore.step, if_neg hroom, CfdpComponent.pushTestByte, if_pos hrejected]
    exact h.congr ⟨rfl, rfl, rfl, rfl, rfl⟩ rfl rfl rfl

/-- A commit stores the staged bytes. -/
theorem Commits.content_eq {c c' : CfdpComponent} (h : Commits c c')
    (hle : c.staged_len_ ≤ CHUNK_BYTES) : c'.content c.staged_index_ = c.staged := by
  have hbytes : CHUNK_BYTES < 2^8 := by decide
  have hlen : (UInt8.ofNat c.staged_len_).toNat = c.staged_len_ :=
    UInt8.toNat_ofNat'.trans (Nat.mod_eq_of_lt (hle.trans_lt hbytes))
  rw [content, h.len_eq, hlen, h.data_eq]

/-- A commit leaves the other chunks alone. -/
theorem Commits.content_of_ne {c c' : CfdpComponent} (h : Commits c c') {i : ℕ}
    (hi : i ≠ c.staged_index_) :
    c'.chunk_received_ i = c.chunk_received_ i ∧ c'.content i = c.content i := by
  have hsame := h.others i hi
  have hchunks : c'.chunks_ i = c.chunks_ i := congrArg Prod.fst hsame
  have hlen : c'.chunk_len_ i = c.chunk_len_ i := congrArg (fun chunk => chunk.2.1) hsame
  have hreceived : c'.chunk_received_ i = c.chunk_received_ i :=
    congrArg (fun chunk => chunk.2.2) hsame
  exact ⟨hreceived, by rw [content, content, hlen, hchunks]⟩

/-- A commit stores the staged bytes in both. -/
theorem Represents.commitChunk {c : CfdpComponent} {s : ChunkStore UInt8} (h : c.Represents s) :
    c.commitChunk.Represents (s.step CHUNK_BYTES ChunkOp.commit) := by
  by_cases hlt : s.index < s.expected
  · have haccepted : ¬(c.session_active_ = false ∨ c.expected_chunks_ ≤ c.staged_index_) := by
      have hactive : c.session_active_ = true := h.active_iff.mpr (Nat.ne_zero_of_lt hlt)
      rw [h.expected_eq, h.index_eq, hactive]
      simpa using hlt
    have hcommits := commits_commitChunk haccepted
    have hstored (i : ℕ) : Function.update s.stored s.index (some s.staged) i =
        if c.commitChunk.chunk_received_ i = true then some (c.commitChunk.content i)
        else none := by
      rw [← h.index_eq]
      rcases eq_or_ne i c.staged_index_ with rfl | hi
      · rw [Function.update_self, if_pos hcommits.received_eq, hcommits.content_eq h.staged_le,
          h.staged_eq]
      · rw [Function.update_of_ne hi, (hcommits.content_of_ne hi).1, (hcommits.content_of_ne hi).2]
        exact h.stored_eq i
    simp only [ChunkStore.step, if_pos hlt]
    refine ⟨?_, ?_, ?_, ?_, ?_, hstored⟩
    all_goals
      unfold CfdpComponent.commitChunk
      rw [if_neg haccepted]
    · exact h.active_iff
    · exact h.expected_eq
    · exact h.index_eq
    · rfl
    · exact Nat.zero_le _
  · -- Without a session no chunk is expected, so the store need not ask for one.
    have hrejected : c.session_active_ = false ∨ c.expected_chunks_ ≤ c.staged_index_ := by
      rw [h.expected_eq, h.index_eq]
      exact Or.inr (not_lt.mp hlt)
    simp only [ChunkStore.step, if_neg hlt, CfdpComponent.commitChunk, if_pos hrejected]
    exact h.congr ⟨rfl, rfl, rfl, rfl, rfl⟩ rfl rfl rfl

/-- A command does to the store what it asks. -/
theorem Represents.execute (cast : Binary32 → ℕ) {c : CfdpComponent} {s : ChunkStore UInt8}
    (h : c.Represents s) (cmd : CommandPacket) (met : UInt32) :
    (c.execute cast cmd met).Represents
      (run (ChunkStore.step CHUNK_BYTES) s (chunkOp cast cmd).toList) := by
  simp only [CfdpComponent.execute, handleCommand, chunkOp]
  split_ifs with hbegin hbad
  · simp only [beginSession, if_pos hbad]
    exact h.congr ⟨rfl, rfl, rfl, rfl, rfl⟩ rfl rfl rfl
  · simp only [beginSession, if_neg hbad]
    exact represents_start ⟨fun _ => (not_or.mp hbad).1, fun _ => rfl⟩ rfl rfl rfl rfl
  · exact ⟨h.active_iff, h.expected_eq, rfl, h.staged_eq, h.staged_le, h.stored_eq⟩
  · exact h.pushTestByte _
  · exact h.commitChunk
  · exact h.congr ⟨rfl, rfl, rfl, rfl, rfl⟩ rfl rfl rfl
  · exact h.congr ⟨rfl, rfl, rfl, rfl, rfl⟩ rfl rfl rfl
  · unfold completeSession
    split_ifs <;> exact h.congr ⟨rfl, rfl, rfl, rfl, rfl⟩ rfl rfl rfl
  · exact represents_start ⟨Bool.noConfusion, fun hne => absurd rfl hne⟩ rfl rfl rfl rfl
  · exact h.congr ⟨rfl, rfl, rfl, rfl, rfl⟩ rfl rfl rfl

/-- In a session, a chunk is missing in the component exactly when it is in the store. -/
theorem Represents.complete {c : CfdpComponent} {s : ChunkStore UInt8} (h : c.Represents s)
    (hactive : c.session_active_ = true) (hnone : c.missingCount = 0) : s.Complete := by
  refine ⟨h.active_iff.mp hactive, fun i hi hmissing => ?_⟩
  rw [h.stored_eq] at hmissing
  have hreceived : c.chunk_received_ i = false := by
    by_contra hne
    rw [if_pos (Bool.eq_true_of_not_eq_false hne)] at hmissing
    cases hmissing
  have hmem : i ∈ c.missing := mem_missing_iff.mpr ⟨hactive, h.expected_eq ▸ hi, hreceived⟩
  rw [missingCount_eq, List.length_eq_zero_iff] at hnone
  rw [hnone] at hmem
  cases hmem

/-! ## Flights -/

/-- The commands that send a chunk. -/
def sendChunk (id : UInt32) (i : ℕ) (chunk : List UInt8) : List CommandPacket :=
  ⟨id, OP_SET_CHUNK_INDEX, Binary32.ofNat i⟩ ::
    (chunk.map (fun byte => ⟨id, OP_PUSH_TEST_BYTE, Binary32.ofNat byte.toNat⟩) ++
      [⟨id, OP_COMMIT_CHUNK, Binary32.ofNat 0⟩])

/-- The commands that send every chunk once, in order. -/
def sendChunks (id : UInt32) (chunks : List (List UInt8)) : List CommandPacket :=
  (List.range chunks.length).flatMap fun i => sendChunk id i (chunks.getD i [])

/-- The commands that upload a file and send every chunk a number of times. -/
def upload (id : UInt32) (chunks : List (List UInt8)) (passes : ℕ) : List CommandPacket :=
  ⟨id, OP_BEGIN_SESSION, Binary32.ofNat chunks.length⟩ ::
    (List.replicate passes (sendChunks id chunks)).flatten

/-- The command asks for a report. -/
def Reports (cmd : CommandPacket) : Prop :=
  cmd.opcode = OP_REPORT_MISSING_COUNT ∨ cmd.opcode = OP_REPORT_NEXT_MISSING ∨
    cmd.opcode = OP_COMPLETE_SESSION

instance (cmd : CommandPacket) : Decidable (Reports cmd) := inferInstanceAs (Decidable (_ ∨ _))

/-- Reports ask nothing of the store. -/
theorem chunkOp_of_reports (cast : Binary32 → ℕ) {cmd : CommandPacket} (h : Reports cmd) :
    chunkOp cast cmd = none := by
  unfold chunkOp
  rcases h with h | h | h <;> rw [h] <;> rfl

/-- The commands of a chunk are the operations that send what its bytes become. -/
theorem filterMap_sendChunk (cast : Binary32 → ℕ) (id : UInt32) {i : ℕ} (hi : i ≤ MAX_CHUNKS)
    (chunk : List UInt8) :
    (sendChunk id i chunk).filterMap (chunkOp cast) =
      ChunkStore.sendChunk i (chunk.map pushedByte) := by
  have hsize : MAX_CHUNKS < 2^24 := by decide
  have hselect : chunkOp cast ⟨id, OP_SET_CHUNK_INDEX, Binary32.ofNat i⟩ =
      some (ChunkOp.select i) := by
    have hindex : toIndex cast (Binary32.ofNat i) = i :=
      (toIndex_ofNat cast (by omega)).trans (min_eq_left hi)
    show some (ChunkOp.select (toIndex cast (Binary32.ofNat i))) = _
    rw [hindex]
  have hpush (byte : UInt8) :
      chunkOp cast ⟨id, OP_PUSH_TEST_BYTE, Binary32.ofNat byte.toNat⟩ =
        some (ChunkOp.push (pushedByte byte)) := by
    have hbyte : byte.toNat < 2^8 := byte.toNat_lt
    have hmask : min byte.toNat MAX_CHUNKS &&& 0xFF = min byte.toNat MAX_CHUNKS := by
      rw [show 0xFF = 2^8 - 1 by norm_num, Nat.and_two_pow_sub_one_eq_mod]
      exact Nat.mod_eq_of_lt (by omega)
    show some (ChunkOp.push
      (UInt8.ofNat (toIndex cast (Binary32.ofNat byte.toNat) &&& 0xFF))) = _
    rw [toIndex_ofNat cast (by omega), hmask, pushedByte]
  have hcommit : chunkOp cast ⟨id, OP_COMMIT_CHUNK, Binary32.ofNat 0⟩ = some ChunkOp.commit := rfl
  rw [sendChunk, List.filterMap_cons_some hselect, List.filterMap_append, List.filterMap_map]
  simp only [Function.comp_def, hpush, List.filterMap_cons_some hcommit, List.filterMap_nil]
  rw [List.filterMap_eq_map', ChunkStore.sendChunk, List.map_map]
  rfl

/-- The commands of an upload in one pass are the operations that send the chunks of the file. -/
theorem filterMap_upload (cast : Binary32 → ℕ) (id : UInt32) {chunks : List (List UInt8)}
    (hpos : chunks ≠ []) (hfits : chunks.length ≤ MAX_CHUNKS) :
    (upload id chunks 1).filterMap (chunkOp cast) = ChunkOp.start chunks.length ::
      ChunkStore.sendChunks (fun i => (chunks.getD i []).map pushedByte) chunks.length := by
  have hsize : MAX_CHUNKS < 2^24 := by decide
  have hlength : chunks.length ≠ 0 := mt List.length_eq_zero_iff.mp hpos
  have hbegin : chunkOp cast ⟨id, OP_BEGIN_SESSION, Binary32.ofNat chunks.length⟩ =
      some (ChunkOp.start chunks.length) := by
    have hcount : toIndex cast (Binary32.ofNat chunks.length) = chunks.length :=
      (toIndex_ofNat cast (by omega)).trans (min_eq_left hfits)
    simp only [chunkOp, if_true, hcount]
    exact if_neg (not_or.mpr ⟨hlength, not_lt.mpr hfits⟩)
  have hsend : (sendChunks id chunks).filterMap (chunkOp cast) =
      ChunkStore.sendChunks (fun i => (chunks.getD i []).map pushedByte) chunks.length := by
    rw [sendChunks, List.filterMap_flatMap, ChunkStore.sendChunks]
    refine List.flatMap_congr fun i hi => ?_
    exact filterMap_sendChunk cast id ((List.mem_range.mp hi).le.trans hfits) _
  rw [upload, List.filterMap_cons_some hbegin, List.replicate_one, List.flatten_singleton, hsend]

/-- An upload of more passes begins like one of fewer. -/
theorem upload_mono (id : UInt32) (chunks : List (List UInt8)) {p q : ℕ} (h : p ≤ q) :
    upload id chunks p <+: upload id chunks q := by
  obtain ⟨k, rfl⟩ := Nat.exists_eq_add_of_le h
  rw [upload, upload, List.replicate_add, List.flatten_append]
  exact ⟨_, List.cons_append⟩

/-- If every chunk is sent once, whatever of it is lost: in a session without missing chunks each of
them is stored up to lost bytes. -/
theorem Represents.content_sublist {cast : Binary32 → ℕ} {c : CfdpComponent}
    {cmds sent : List CommandPacket}
    (h : c.Represents
      (run (ChunkStore.step CHUNK_BYTES) ChunkStore.idle (cmds.filterMap (chunkOp cast))))
    (hcmds : cmds.Sublist sent) {id : UInt32} {chunks : List (List UInt8)}
    (hfits : chunks.length ≤ MAX_CHUNKS)
    (hsent : sent.filter (fun cmd => ¬Reports cmd) <+: upload id chunks 1)
    (hactive : c.session_active_ = true) (hnone : c.missingCount = 0)
    (i : ℕ) (hi : i < chunks.length) : (c.content i).Sublist (chunks[i].map pushedByte) := by
  have hreports : sent.filterMap (chunkOp cast) =
      (sent.filter fun cmd => ¬Reports cmd).filterMap (chunkOp cast) := by
    rw [List.filterMap_filter]
    refine List.filterMap_congr fun cmd _ => ?_
    by_cases hcmd : Reports cmd
    · rw [chunkOp_of_reports cast hcmd]
      simp
    · simp [hcmd]
  have hops : (cmds.filterMap (chunkOp cast)).Sublist (ChunkOp.start chunks.length ::
      ChunkStore.sendChunks (fun i => (chunks.getD i []).map pushedByte) chunks.length) := by
    rw [← filterMap_upload cast id (List.ne_nil_of_length_pos (Nat.zero_lt_of_lt hi)) hfits]
    refine (hcmds.filterMap _).trans ?_
    rw [hreports]
    exact hsent.sublist.filterMap _
  obtain ⟨data, hstored, hdata⟩ :=
    ChunkStore.stored_sublist CHUNK_BYTES hops (h.complete hactive hnone) i hi
  rw [h.stored_eq] at hstored
  rw [List.getD_eq_getElem _ _ hi] at hdata
  split_ifs at hstored
  obtain rfl := Option.some.inj hstored
  exact hdata

section Flight

variable {Out In EventOut EventIn : Type*} [DecidableEq In] [DecidableEq EventIn] [DecidableEq Out]
  [DecidableEq EventOut]

/-- What the component holds after a flight from `init()`. -/
theorem represents_run (cast : Binary32 → ℕ)
    {s₀ : CommandPath CfdpComponent Out In EventOut EventIn} {id : UInt32}
    (hfresh : s₀.Fresh id) {c₀ : CfdpComponent} (hinit : s₀.comp = c₀.init)
    (ops : List (PathOp UInt32 CfdpWork Out In EventOut EventIn)) :
    let s := run (CommandPath.step (execute cast) (work cast)) s₀ ops
    s.comp.Represents
      (run (ChunkStore.step CHUNK_BYTES) ChunkStore.idle (s.handled.filterMap (chunkOp cast))) := by
  refine CommandPath.comp_run (execute cast) (work cast)
    (fun c cmds => c.Represents
      (run (ChunkStore.step CHUNK_BYTES) ChunkStore.idle (cmds.filterMap (chunkOp cast))))
    (fun c cmds cmd met h => ?_) (fun c cmds op h => ?_) ?_ ops
  · have hone : [cmd].filterMap (chunkOp cast) = (chunkOp cast cmd).toList := by
      cases hcmd : chunkOp cast cmd <;> simp [hcmd]
    rw [List.filterMap_append, run_append, hone]
    exact h.execute cast cmd met
  · cases op <;> exact h.congr ⟨rfl, rfl, rfl, rfl, rfl⟩ rfl rfl rfl
  · rw [hinit, hfresh.handled_eq]
    exact represents_start ⟨Bool.noConfusion, fun hne => absurd rfl hne⟩ rfl rfl rfl rfl

end Flight

/-- A file of one byte is sent twice, and the commit of the first pass gets lost. -/
def lostCommit : List (PathOp UInt32 CfdpWork Unit Bool Unit Unit) :=
  ((upload 48 [[7]] 2).map fun cmd =>
    PathOp.send cmd.target_id.toNat cmd.opcode.toNat cmd.argument) ++
  ([(0, ⟨48, 1, Binary32.ofNat 1⟩), (1, ⟨48, 2, Binary32.ofNat 0⟩), (2, ⟨48, 3, Binary32.ofNat 7⟩),
    (4, ⟨48, 2, Binary32.ofNat 0⟩), (5, ⟨48, 3, Binary32.ofNat 7⟩),
    (6, ⟨48, 4, Binary32.ofNat 0⟩)].flatMap fun cmd => CommandPath.passOn cmd.1 cmd.2 0)

/-- The component as `main` starts it. -/
def started : CfdpComponent := (create (Component.create (ascii "CfdpManager") 48)).init

/-- No chunk is missing, and the only one holds its byte twice. -/
theorem lostCommit_doubles :
    let s := run (CommandPath.step (execute fun _ => 0) (work fun _ => 0))
      (CommandPath.single started 48) lostCommit
    (CommandPath.single started 48).Fresh 48 ∧
      Along (CommandPath.step (execute fun _ => 0) (work fun _ => 0)) (CommandPath.Undisturbed 48)
        (CommandPath.single started 48) lostCommit ∧
      s.link.sent.length ≤ 0xFF01 ∧
      (s.sentTo 0 48).filter (fun cmd => ¬Reports cmd) = upload 48 [[7]] 2 ∧
      s.comp.session_active_ = true ∧ s.comp.missingCount = 0 ∧ s.comp.content 0 = [7, 7] :=
  ⟨CommandPath.fresh_single started 48,
    ⟨trivial, trivial, trivial, trivial, trivial, trivial, trivial, fun _ => by decide +kernel,
      trivial, trivial, fun _ => by decide +kernel, trivial, trivial, fun _ => by decide +kernel,
      trivial, trivial, fun _ => by decide +kernel, trivial, trivial, fun _ => by decide +kernel,
      trivial, trivial, fun _ => by decide +kernel, trivial, trivial, trivial⟩,
    by decide +kernel, by decide +kernel, by decide +kernel, by decide +kernel, by decide +kernel⟩

/-- Uploads that send every chunk in at most a given number of passes, with any reports in between
and at most `0xFF01` commands in the session: over every flight, the chunks of a session without
missing ones are those of the file up to lost bytes, exactly when there is at most one pass. -/
theorem passes_intact_iff (passes : ℕ) :
    (∀ (Out In EventOut EventIn : Type) [DecidableEq Out] [DecidableEq In] [DecidableEq EventOut]
      [DecidableEq EventIn] (cast : Binary32 → ℕ)
      (s₀ : CommandPath CfdpComponent Out In EventOut EventIn) (id : UInt32) (c₀ : CfdpComponent)
      (ops : List (PathOp UInt32 CfdpWork Out In EventOut EventIn)) (chunks : List (List UInt8)),
      s₀.Fresh id → s₀.comp = c₀.init →
      Along (CommandPath.step (execute cast) (work cast)) (CommandPath.Undisturbed id) s₀ ops →
      chunks.length ≤ MAX_CHUNKS →
      let s := run (CommandPath.step (execute cast) (work cast)) s₀ ops
      s.link.sent.length ≤ 0xFF01 →
      (s.sentTo 0 id).filter (fun cmd => ¬Reports cmd) <+: upload id chunks passes →
      s.comp.session_active_ = true → s.comp.missingCount = 0 →
      ∀ (i : ℕ) (_ : i < chunks.length),
        (s.comp.content i).Sublist (chunks[i].map pushedByte)) ↔ passes ≤ 1 := by
  constructor
  · intro h
    by_contra hmany
    obtain ⟨hfresh, hops, hlen, hsent, hactive, hnone, hcontent⟩ := lostCommit_doubles
    have honce := h Unit Bool Unit Unit (fun _ => 0) (CommandPath.single started 48) 48
      (create (Component.create (ascii "CfdpManager") 48)) lostCommit [[7]] hfresh rfl hops
      (by decide) hlen (hsent ▸ upload_mono 48 [[7]] (by omega)) hactive hnone 0 (by decide)
    rw [hcontent] at honce
    exact absurd honce (by decide)
  · intro hpasses Out In EventOut EventIn _ _ _ _ cast s₀ id c₀ ops chunks hfresh hinit hops hfits
      s hlen hsent hactive hnone i hi
    have hhandled : s.handled.Sublist (s.sentTo 0 id) :=
      (CommandPath.handled_run (execute cast) (work cast) hfresh hops hlen).trans
        (s.sentTo_sublist _ id)
    exact (represents_run cast hfresh hinit ops).content_sublist hhandled hfits
      (hsent.trans (upload_mono id chunks hpasses)) hactive hnone i hi

end CfdpComponent

end DeltaV
