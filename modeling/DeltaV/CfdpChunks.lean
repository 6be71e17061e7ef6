import DeltaV.Cfdp
import DeltaV.FloatWords

/-!
# Chunk contents

The bytes of a chunk are pushed one by one, and a commit stores what has been pushed under the staged
index. A byte passes the conversion of indices, which stops at the size of the table, so a chunk
arrives as it was sent exactly when no byte is greater than 128 (`upload_iff`). A commit takes the
pushed bytes and keeps the index, so a second one stores an empty chunk over the first
(`commit_repeated_iff`).
-/

namespace DeltaV

namespace CfdpComponent

/-- The chunk table: contents, lengths, and flags. -/
def table (c : CfdpComponent) : (ℕ → ℕ → UInt8) × (ℕ → UInt8) × (ℕ → Bool) :=
  (c.chunks_, c.chunk_len_, c.chunk_received_)

/-- One chunk of the table: content, length, and flag. -/
def chunk (c : CfdpComponent) (i : ℕ) : (ℕ → UInt8) × UInt8 × Bool :=
  (c.chunks_ i, c.chunk_len_ i, c.chunk_received_ i)

/-- The chunk has been received, and not as an empty one. -/
def HasData (c : CfdpComponent) (i : ℕ) : Prop :=
  c.chunk_received_ i = true ∧ c.chunk_len_ i ≠ 0

/-- The bytes that have been pushed. -/
def staged (c : CfdpComponent) : List UInt8 := (List.range c.staged_len_).map c.staged_chunk_

/-- The counters are in range, and without a session no chunk is expected. -/
structure Bounded (c : CfdpComponent) : Prop where
  expected_le : c.expected_chunks_ ≤ MAX_CHUNKS
  staged_le : c.staged_len_ ≤ CHUNK_BYTES
  inactive : c.session_active_ = false → c.expected_chunks_ = 0

/-! ## Calls -/

/-- `OP_SET_CHUNK_INDEX` stages an index. -/
theorem handleCommand_setIndex (cast : Binary32 → ℕ) (c : CfdpComponent)
    {cmd : CommandPacket × UInt32} (h : cmd.1.opcode = OP_SET_CHUNK_INDEX) :
    c.handleCommand cast cmd = { c with staged_index_ := toIndex cast cmd.1.argument } := by
  unfold handleCommand
  rw [h]
  rfl

/-- `OP_PUSH_TEST_BYTE` pushes a byte. -/
theorem handleCommand_push (cast : Binary32 → ℕ) (c : CfdpComponent)
    {cmd : CommandPacket × UInt32} (h : cmd.1.opcode = OP_PUSH_TEST_BYTE) :
    c.handleCommand cast cmd =
      c.pushTestByte (UInt8.ofNat (toIndex cast cmd.1.argument &&& 0xFF)) := by
  unfold handleCommand
  rw [h]
  rfl

/-- `OP_COMMIT_CHUNK` commits the staged chunk. -/
theorem handleCommand_commit (cast : Binary32 → ℕ) (c : CfdpComponent)
    {cmd : CommandPacket × UInt32} (h : cmd.1.opcode = OP_COMMIT_CHUNK) :
    c.handleCommand cast cmd = c.commitChunk := by
  unfold handleCommand
  rw [h]
  rfl

/-- A byte is accepted while the session lasts and the staged chunk has room. -/
theorem pushTestByte_of_room {c : CfdpComponent} (hactive : c.session_active_ = true)
    (hroom : c.staged_len_ < CHUNK_BYTES) (value : UInt8) :
    c.pushTestByte value = { c with
      staged_chunk_ := Function.update c.staged_chunk_ c.staged_len_ value
      staged_len_ := c.staged_len_ + 1 } := by
  unfold pushTestByte
  rw [if_neg]
  rw [hactive]
  simpa using hroom

/-- A commit outside the session changes nothing of the table. -/
theorem table_commitChunk_of_rejected {c : CfdpComponent}
    (h : c.session_active_ = false ∨ c.expected_chunks_ ≤ c.staged_index_) :
    c.commitChunk.table = c.table := by
  unfold commitChunk
  rw [if_pos h]
  rfl

/-- A pushed byte keeps the counters in range. -/
theorem bounded_pushTestByte {c : CfdpComponent} (h : c.Bounded) (value : UInt8) :
    (c.pushTestByte value).Bounded := by
  unfold pushTestByte
  split_ifs with hrejected
  · exact ⟨h.expected_le, h.staged_le, h.inactive⟩
  · have hroom : c.staged_len_ < CHUNK_BYTES := not_le.mp (not_or.mp hrejected).2
    exact ⟨h.expected_le, hroom, h.inactive⟩

/-- A new session keeps the counters in range. -/
theorem bounded_beginSession {c : CfdpComponent} (h : c.Bounded) (chunks : ℕ) :
    (c.beginSession chunks).Bounded := by
  unfold beginSession
  split_ifs with hbad
  · exact ⟨h.expected_le, h.staged_le, h.inactive⟩
  · exact ⟨not_lt.mp (not_or.mp hbad).2, Nat.zero_le _, fun hinactive => by cases hinactive⟩

/-- A commit keeps the counters in range. -/
theorem bounded_commitChunk {c : CfdpComponent} (h : c.Bounded) : c.commitChunk.Bounded := by
  unfold commitChunk
  split_ifs
  · exact ⟨h.expected_le, h.staged_le, h.inactive⟩
  · exact ⟨h.expected_le, Nat.zero_le _, h.inactive⟩

/-- Every command keeps the counters in range. -/
theorem bounded_handleCommand (cast : Binary32 → ℕ) {c : CfdpComponent} (h : c.Bounded)
    (cmd : CommandPacket × UInt32) : (c.handleCommand cast cmd).Bounded := by
  -- What reports leaves the counters alone.
  have hreport : ∀ {c' : CfdpComponent}, c'.expected_chunks_ = c.expected_chunks_ →
      c'.staged_len_ = c.staged_len_ → c'.session_active_ = c.session_active_ → c'.Bounded := by
    intro c' hexpected hstaged hactive
    exact ⟨hexpected ▸ h.expected_le, hstaged ▸ h.staged_le,
      fun hinactive => hexpected ▸ h.inactive (hactive ▸ hinactive)⟩
  unfold handleCommand
  dsimp only
  split_ifs
  · exact bounded_beginSession h _
  · exact hreport rfl rfl rfl
  · exact bounded_pushTestByte h _
  · exact bounded_commitChunk h
  · exact hreport rfl rfl rfl
  · exact hreport rfl rfl rfl
  · unfold completeSession
    split_ifs <;> exact hreport rfl rfl rfl
  · exact ⟨Nat.zero_le _, Nat.zero_le _, fun _ => rfl⟩
  · exact hreport rfl rfl rfl

/-- Every operation keeps the counters in range. -/
theorem bounded_apply (cast : Binary32 → ℕ) {c : CfdpComponent} (h : c.Bounded) (op : CfdpOp) :
    (c.apply cast op).Bounded := by
  cases op with
  | init => exact ⟨Nat.zero_le _, Nat.zero_le _, fun _ => rfl⟩
  | handleCommand cmd => exact bounded_handleCommand cast h cmd
  | step cmds met =>
    have hstep (c : CfdpComponent) (cmd : CommandPacket × UInt32) (h : c.Bounded) :
        (c.handleCommand cast cmd).Bounded := bounded_handleCommand cast h cmd
    have hcommands : (run (handleCommand cast) c cmds).Bounded := run_invariant hstep h cmds
    exact ⟨hcommands.expected_le, hcommands.staged_le, hcommands.inactive⟩
  | outputs event_out telemetry_out => exact ⟨h.expected_le, h.staged_le, h.inactive⟩

/-- What holds of the tracking and of the counters. -/
structure Inv (c : CfdpComponent) : Prop where
  tracks : c.Tracks
  bounded : c.Bounded

/-- The invariant holds of a component as constructed. -/
theorem inv_create (base : Component) : (create base).Inv :=
  ⟨tracks_of_fresh rfl rfl, Nat.zero_le _, Nat.zero_le _, fun _ => rfl⟩

/-- Every command keeps the invariant. -/
theorem Inv.handleCommand {c : CfdpComponent} (h : c.Inv) (cast : Binary32 → ℕ)
    (cmd : CommandPacket × UInt32) : (c.handleCommand cast cmd).Inv :=
  ⟨(callSpec_handleCommand cast c cmd).tracks h.tracks, bounded_handleCommand cast h.bounded cmd⟩

/-- The invariant holds after every run. -/
theorem inv_run (cast : Binary32 → ℕ) (base : Component) (ops : List CfdpOp) :
    (run (apply cast) (create base) ops).Inv := by
  have hstep (c : CfdpComponent) (op : CfdpOp) (h : c.Inv) : (c.apply cast op).Inv :=
    ⟨(c.callSpec_apply cast op).tracks h.tracks, bounded_apply cast h.bounded op⟩
  exact run_invariant hstep (inv_create base) ops

/-- A commit to a received chunk is accepted. -/
theorem Inv.accepted {c : CfdpComponent} (h : c.Inv) (hdata : c.HasData c.staged_index_) :
    ¬(c.session_active_ = false ∨ c.expected_chunks_ ≤ c.staged_index_) := by
  have hlt : c.staged_index_ < c.expected_chunks_ :=
    h.tracks.lt_expected _ ((h.tracks.received_iff _).mp hdata.1)
  rintro (hinactive | hle)
  · have := h.bounded.inactive hinactive
    omega
  · omega

/-! ## Uploads -/

/-- The byte that is stored for a byte that is sent. -/
def pushedByte (x : UInt8) : UInt8 := UInt8.ofNat (min x.toNat MAX_CHUNKS)

/-- The command pushes a byte. -/
def Pushes (cmd : CommandPacket × UInt32) (x : UInt8) : Prop :=
  cmd.1.opcode = OP_PUSH_TEST_BYTE ∧ cmd.1.argument = Binary32.ofNat x.toNat

/-- An index beyond the table becomes the size of the table. -/
theorem toIndex_ofNat (cast : Binary32 → ℕ) {n : ℕ} (h : n < 2^24) :
    toIndex cast (Binary32.ofNat n) = min n MAX_CHUNKS := by
  have hzero : Binary32.ofNat n ≤ Binary32.ofNat 0 ↔ n ≤ 0 :=
    Binary32.ofNat_le_ofNat h (by norm_num)
  have hsize : Binary32.ofNat MAX_CHUNKS ≤ Binary32.ofNat n ↔ MAX_CHUNKS ≤ n :=
    Binary32.ofNat_le_ofNat (by decide) h
  unfold toIndex
  rw [Binary32.toUnsigned_ofNat h (by omega)]
  simp only [hzero, hsize]
  split_ifs <;> omega

/-- A byte arrives as it was sent when it is no index beyond the table. -/
theorem pushedByte_eq_iff (x : UInt8) : pushedByte x = x ↔ x.toNat ≤ MAX_CHUNKS := by
  have hx : x.toNat < 2^8 := x.toNat_lt
  unfold pushedByte
  rw [← UInt8.toNat_inj, UInt8.toNat_ofNat', Nat.mod_eq_of_lt (by omega)]
  omega

/-- A command that pushes a byte pushes what the conversion makes of it. -/
theorem handleCommand_of_pushes (cast : Binary32 → ℕ) (c : CfdpComponent)
    {cmd : CommandPacket × UInt32} {x : UInt8} (h : Pushes cmd x) :
    c.handleCommand cast cmd = c.pushTestByte (pushedByte x) := by
  have hx : x.toNat < 2^8 := x.toNat_lt
  have hmask : min x.toNat MAX_CHUNKS &&& 0xFF = min x.toNat MAX_CHUNKS := by
    rw [show 0xFF = 2^8 - 1 by norm_num, Nat.and_two_pow_sub_one_eq_mod]
    exact Nat.mod_eq_of_lt (by omega)
  rw [handleCommand_push cast c h.1, h.2, toIndex_ofNat cast (by omega), hmask, pushedByte]

/-- Pushed bytes are appended to the staged ones, and nothing else changes. -/
theorem run_pushes (cast : Binary32 → ℕ) {c : CfdpComponent} (hactive : c.session_active_ = true)
    {pushes : List (CommandPacket × UInt32)} {b : List UInt8} (h : List.Forall₂ Pushes pushes b)
    (hroom : c.staged_len_ + b.length ≤ CHUNK_BYTES) :
    ∃ chunk, (List.range (c.staged_len_ + b.length)).map chunk = c.staged ++ b.map pushedByte ∧
      run (handleCommand cast) c pushes =
        { c with staged_chunk_ := chunk, staged_len_ := c.staged_len_ + b.length } := by
  induction h generalizing c with
  | nil => exact ⟨c.staged_chunk_, (List.append_nil _).symm, rfl⟩
  | @cons cmd x pushes b hpush _ ih =>
    rw [List.length_cons] at hroom
    have hstep := pushTestByte_of_room hactive (by omega) (pushedByte x)
    -- The byte goes behind the staged ones, which stay.
    have hstaged : (c.pushTestByte (pushedByte x)).staged = c.staged ++ [pushedByte x] := by
      rw [hstep, staged, List.range_succ, List.map_append, List.map_singleton]
      dsimp only
      rw [Function.update_self]
      refine congrArg (· ++ [pushedByte x]) (List.map_congr_left fun k hk => ?_)
      exact Function.update_of_ne (List.mem_range.mp hk).ne _ _
    have hlen : (c.pushTestByte (pushedByte x)).staged_len_ = c.staged_len_ + 1 := by rw [hstep]
    have hsum : c.staged_len_ + 1 + b.length = c.staged_len_ + (b.length + 1) := by omega
    obtain ⟨chunk, hchunk, hrun⟩ := ih (c := c.pushTestByte (pushedByte x))
      (by rw [hstep]; exact hactive) (by rw [hlen]; omega)
    refine ⟨chunk, ?_, ?_⟩
    · rw [List.length_cons, ← hsum, ← hlen, hchunk, hstaged, List.map_cons, List.append_assoc]
      rfl
    · rw [run_cons, handleCommand_of_pushes cast c hpush, hrun, hlen, hsum, hstep, List.length_cons]

/-- What an accepted commit does. -/
structure Commits (c c' : CfdpComponent) : Prop where
  len_eq : c'.chunk_len_ c.staged_index_ = UInt8.ofNat c.staged_len_
  received_eq : c'.chunk_received_ c.staged_index_ = true
  data_eq : (List.range c.staged_len_).map (c'.chunks_ c.staged_index_) = c.staged
  others : ∀ j ≠ c.staged_index_, c'.chunk j = c.chunk j

/-- A commit that is accepted does what it should. -/
theorem commits_commitChunk {c : CfdpComponent}
    (h : ¬(c.session_active_ = false ∨ c.expected_chunks_ ≤ c.staged_index_)) :
    Commits c c.commitChunk := by
  unfold commitChunk
  rw [if_neg h]
  refine ⟨Function.update_self .., Function.update_self .., ?_, fun j hj => ?_⟩
  · refine List.map_congr_left fun k hk => ?_
    change Function.update c.chunks_ c.staged_index_ _ c.staged_index_ k = c.staged_chunk_ k
    rw [Function.update_self, if_pos (List.mem_range.mp hk)]
  · refine Prod.ext ?_ (Prod.ext ?_ ?_)
    · exact Function.update_of_ne hj _ _
    · exact Function.update_of_ne hj _ _
    · exact Function.update_of_ne hj _ _

/-- After an index and bytes have been sent to an empty staged chunk, the commit stores them. -/
theorem run_upload (cast : Binary32 → ℕ) {c : CfdpComponent} (hactive : c.session_active_ = true)
    (hempty : c.staged_len_ = 0) {i : ℕ} (hi : i ≤ MAX_CHUNKS) {b : List UInt8}
    (hlen : b.length ≤ CHUNK_BYTES) {select commit : CommandPacket × UInt32}
    {pushes : List (CommandPacket × UInt32)} (hselect : select.1.opcode = OP_SET_CHUNK_INDEX)
    (hindex : select.1.argument = Binary32.ofNat i) (hpushes : List.Forall₂ Pushes pushes b)
    (hcommit : commit.1.opcode = OP_COMMIT_CHUNK) :
    ∃ chunk, (List.range b.length).map chunk = b.map pushedByte ∧
      run (handleCommand cast) c (select :: pushes ++ [commit]) =
        { c with staged_index_ := i, staged_chunk_ := chunk, staged_len_ := b.length }.commitChunk := by
  have hsize : MAX_CHUNKS < 2^24 := by decide
  set selected : CfdpComponent := { c with staged_index_ := i } with hselected
  have hfirst : c.handleCommand cast select = selected := by
    rw [handleCommand_setIndex cast c hselect, hindex, toIndex_ofNat cast (by omega),
      min_eq_left hi]
  have hlen0 : selected.staged_len_ = 0 := hempty
  have hnone : selected.staged = [] := by rw [staged, hlen0, List.range_zero, List.map_nil]
  obtain ⟨chunk, hchunk, hrun⟩ := run_pushes cast (c := selected) hactive hpushes (by omega)
  rw [hlen0, Nat.zero_add] at hrun
  rw [hnone, List.nil_append, hlen0, Nat.zero_add] at hchunk
  refine ⟨chunk, hchunk, ?_⟩
  rw [run_concat, run_cons, hfirst, hrun, handleCommand_commit cast _ hcommit]

/-- Uploading a chunk. In every reachable session, staging an index of the session, pushing up to 64
bytes, and committing stores under this index what has been pushed, and no other chunk changes,
exactly when no byte is greater than the size of the table. -/
theorem upload_iff (cast : Binary32 → ℕ) (base : Component) (ops : List CfdpOp) (i : ℕ)
    (b : List UInt8) (select commit : CommandPacket × UInt32)
    (pushes : List (CommandPacket × UInt32)) :
    let c := run (apply cast) (create base) ops
    c.session_active_ = true → i < c.expected_chunks_ → c.staged_len_ = 0 →
      1 ≤ b.length → b.length ≤ CHUNK_BYTES →
      select.1.opcode = OP_SET_CHUNK_INDEX → select.1.argument = Binary32.ofNat i →
      List.Forall₂ Pushes pushes b → commit.1.opcode = OP_COMMIT_CHUNK →
      let c' := run (handleCommand cast) c (select :: pushes ++ [commit])
      ((c'.chunk_len_ i).toNat = b.length ∧ (List.range b.length).map (c'.chunks_ i) = b ∧
          ∀ j ≠ i, c'.chunk j = c.chunk j) ↔
        ∀ x ∈ b, x.toNat ≤ MAX_CHUNKS := by
  intro c hactive hi hempty _ hlen hselect hindex hpushes hcommit c'
  have hbounded : c.Bounded := (inv_run cast base ops).bounded
  obtain ⟨chunk, hchunk, hrun⟩ := run_upload cast hactive hempty
    (hi.le.trans hbounded.expected_le) hlen hselect hindex hpushes hcommit
  have hspec := commits_commitChunk
    (c := { c with staged_index_ := i, staged_chunk_ := chunk, staged_len_ := b.length })
    (by simpa [hactive] using hi)
  rw [← hrun] at hspec
  have hdata : (List.range b.length).map (c'.chunks_ i) = b.map pushedByte :=
    hspec.data_eq.trans hchunk
  have hlength : (c'.chunk_len_ i).toNat = b.length := by
    have hbytes : CHUNK_BYTES < 2^8 := by decide
    calc (c'.chunk_len_ i).toNat = (UInt8.ofNat b.length).toNat := congrArg UInt8.toNat hspec.len_eq
      _ = b.length % 2^8 := UInt8.toNat_ofNat'
      _ = b.length := Nat.mod_eq_of_lt (by omega)
  have hothers : ∀ j ≠ i, c'.chunk j = c.chunk j := hspec.others
  rw [hdata, and_iff_right hlength, and_iff_left hothers]
  calc b.map pushedByte = b ↔ b.map pushedByte = b.map id := by rw [List.map_id]
    _ ↔ ∀ x ∈ b, pushedByte x = id x := List.map_inj_left
    _ ↔ ∀ x ∈ b, x.toNat ≤ MAX_CHUNKS := forall₂_congr fun x _ => pushedByte_eq_iff x

/-- A command to the component at the start of the mission. -/
def command (opcode : UInt32) (argument : ℕ) : CommandPacket × UInt32 :=
  (⟨48, opcode, Binary32.ofNat argument⟩, 0)

/-- A component that has opened a session for three chunks. -/
def opened : CfdpComponent :=
  run (apply fun _ => 0) (create (Component.create (ascii "CfdpManager") 48))
    [CfdpOp.init, CfdpOp.handleCommand (command OP_BEGIN_SESSION 3)]

/-- An upload of two bytes that are no indices beyond the table. -/
theorem upload_iff_two_bytes :
    let c' := run (handleCommand fun _ => 0) opened
      [command OP_SET_CHUNK_INDEX 2, command OP_PUSH_TEST_BYTE 128, command OP_PUSH_TEST_BYTE 7,
        command OP_COMMIT_CHUNK 0]
    (c'.chunk_len_ 2).toNat = 2 ∧ (List.range 2).map (c'.chunks_ 2) = [128, 7] ∧
      ∀ j ≠ 2, c'.chunk j = opened.chunk j :=
  (upload_iff (fun _ => 0) (Component.create (ascii "CfdpManager") 48)
    [CfdpOp.init, CfdpOp.handleCommand (command OP_BEGIN_SESSION 3)] 2 [128, 7]
    (command OP_SET_CHUNK_INDEX 2) (command OP_COMMIT_CHUNK 0)
    [command OP_PUSH_TEST_BYTE 128, command OP_PUSH_TEST_BYTE 7] (by decide +kernel)
    (by decide +kernel) (by decide +kernel) (by decide) (by decide) rfl rfl
    (List.Forall₂.cons ⟨rfl, rfl⟩ (List.Forall₂.cons ⟨rfl, rfl⟩ List.Forall₂.nil)) rfl).mpr
    (List.forall_mem_cons.mpr ⟨by decide, List.forall_mem_singleton.mpr (by decide)⟩)

/-- The byte 255 is stored as 128. -/
theorem large_byte_changed :
    let c' := run (handleCommand fun _ => 0) opened
      [command OP_SET_CHUNK_INDEX 0, command OP_PUSH_TEST_BYTE 255, command OP_COMMIT_CHUNK 0]
    opened.session_active_ = true ∧ 0 < opened.expected_chunks_ ∧ opened.staged_len_ = 0 ∧
      (c'.chunk_len_ 0).toNat = 1 ∧ (List.range 1).map (c'.chunks_ 0) = [128] ∧
      (List.range 1).map (c'.chunks_ 0) ≠ [255] := by
  decide +kernel

/-! ## Commits -/

/-- The command begins or ends a session. -/
def Restarts (cast : Binary32 → ℕ) (cmd : CommandPacket) : Prop :=
  (cmd.opcode = OP_BEGIN_SESSION ∧ toIndex cast cmd.argument ≠ 0 ∧
    toIndex cast cmd.argument ≤ MAX_CHUNKS) ∨ cmd.opcode = OP_RESET_SESSION

/-- The command commits over data while nothing has been pushed, or ends the session of the data. -/
def Discards (cast : Binary32 → ℕ) (c : CfdpComponent) (cmd : CommandPacket × UInt32) : Prop :=
  (cmd.1.opcode = OP_COMMIT_CHUNK ∧ c.staged_len_ = 0 ∧ c.HasData c.staged_index_) ∨
    (Restarts cast cmd.1 ∧ ∃ i, c.HasData i)

/-- A chunk with data stays as it is unless the command commits pushed bytes to it. -/
def KeepsData (cast : Binary32 → ℕ) (c : CfdpComponent) (cmd : CommandPacket × UInt32) : Prop :=
  ∀ i, c.HasData i →
    (cmd.1.opcode = OP_COMMIT_CHUNK ∧ c.staged_index_ = i ∧ 0 < c.staged_len_) ∨
      (c.handleCommand cast cmd).chunk i = c.chunk i

/-- A commit with nothing pushed stores an empty chunk. -/
theorem table_commitChunk_of_empty {c : CfdpComponent}
    (h : ¬(c.session_active_ = false ∨ c.expected_chunks_ ≤ c.staged_index_))
    (hempty : c.staged_len_ = 0) :
    c.commitChunk.table = (c.chunks_, Function.update c.chunk_len_ c.staged_index_ 0,
      Function.update c.chunk_received_ c.staged_index_ true) := by
  unfold commitChunk
  rw [if_neg h, hempty]
  refine Prod.ext ?_ rfl
  -- No byte is copied.
  exact Function.update_eq_self _ _

/-- A second commit changes the table exactly when the first has stored bytes. -/
theorem table_commit_commit_iff {c : CfdpComponent} (h : c.Bounded)
    (hactive : c.session_active_ = true) :
    c.commitChunk.commitChunk.table = c.commitChunk.table ↔
      c.expected_chunks_ ≤ c.staged_index_ ∨ c.staged_len_ = 0 := by
  by_cases hrejected : c.expected_chunks_ ≤ c.staged_index_
  · -- The first commit is rejected and leaves the session as it is.
    have hagain : c.commitChunk.session_active_ = false ∨
        c.commitChunk.expected_chunks_ ≤ c.commitChunk.staged_index_ := by
      unfold commitChunk
      rw [if_pos (Or.inr hrejected)]
      exact Or.inr hrejected
    exact iff_of_true (table_commitChunk_of_rejected hagain) (Or.inl hrejected)
  · have haccepted : ¬(c.session_active_ = false ∨ c.expected_chunks_ ≤ c.staged_index_) := by
      rw [hactive]
      simpa using hrejected
    have hspec := commits_commitChunk haccepted
    -- The second commit is accepted too, and finds nothing pushed.
    obtain ⟨hempty, hindex, hagain⟩ : c.commitChunk.staged_len_ = 0 ∧
        c.commitChunk.staged_index_ = c.staged_index_ ∧
        ¬(c.commitChunk.session_active_ = false ∨
          c.commitChunk.expected_chunks_ ≤ c.commitChunk.staged_index_) := by
      unfold commitChunk
      rw [if_neg haccepted]
      exact ⟨rfl, rfl, haccepted⟩
    have hreceived : Function.update c.commitChunk.chunk_received_ c.staged_index_ true =
        c.commitChunk.chunk_received_ := by
      rw [Function.update_eq_self_iff, hspec.received_eq]
    have hlen : UInt8.ofNat c.staged_len_ = 0 ↔ c.staged_len_ = 0 := by
      have hle : c.staged_len_ ≤ 64 := h.staged_le
      rw [← UInt8.toNat_inj, UInt8.toNat_ofNat', Nat.mod_eq_of_lt (by omega), UInt8.toNat_zero]
    rw [table_commitChunk_of_empty hagain hempty, hindex, hreceived, table, Prod.mk.injEq,
      Prod.mk.injEq, Function.update_eq_self_iff, hspec.len_eq, eq_comm (a := (0 : UInt8)), hlen]
    simp [hrejected]

/-- After a command that starts over, no chunk is received. -/
theorem chunk_received_of_restarts {cast : Binary32 → ℕ} {cmd : CommandPacket × UInt32}
    (h : Restarts cast cmd.1) (c : CfdpComponent) (i : ℕ) :
    (c.handleCommand cast cmd).chunk_received_ i = false := by
  rcases h with ⟨hopcode, hpos, hle⟩ | hopcode
  · have haccepted : ¬(toIndex cast cmd.1.argument = 0 ∨ MAX_CHUNKS < toIndex cast cmd.1.argument) :=
      not_or.mpr ⟨hpos, not_lt.mpr hle⟩
    have hbegin : c.handleCommand cast cmd = c.beginSession (toIndex cast cmd.1.argument) := by
      unfold handleCommand
      rw [hopcode]
      rfl
    rw [hbegin, beginSession, if_neg haccepted]
    rfl
  · unfold handleCommand
    rw [hopcode]
    rfl

/-- Of the commands, only these change the table. -/
theorem table_handleCommand {cast : Binary32 → ℕ} {cmd : CommandPacket × UInt32}
    (hcommit : cmd.1.opcode ≠ OP_COMMIT_CHUNK) (hrestarts : ¬Restarts cast cmd.1)
    (c : CfdpComponent) : (c.handleCommand cast cmd).table = c.table := by
  obtain ⟨hbegin, hreset⟩ := not_or.mp hrestarts
  unfold handleCommand
  dsimp only
  split_ifs with hopcode
  · -- The announced number of chunks is rejected.
    unfold beginSession
    rw [if_pos]
    · rfl
    · by_contra haccepted
      obtain ⟨hpos, hle⟩ := not_or.mp haccepted
      exact hbegin ⟨hopcode, hpos, not_lt.mp hle⟩
  · rfl
  · unfold pushTestByte
    split_ifs <;> rfl
  · rfl
  · rfl
  · unfold completeSession
    split_ifs <;> rfl
  · rfl

/-- Where the tables are the same, so are the chunks. -/
theorem chunk_of_table {c c' : CfdpComponent} (h : c'.table = c.table) (i : ℕ) :
    c'.chunk i = c.chunk i := congrArg (fun t => (t.1 i, t.2.1 i, t.2.2 i)) h

/-- Data is lost exactly by the commands that discard it. -/
theorem Inv.keepsData_iff {c : CfdpComponent} (h : c.Inv) (cast : Binary32 → ℕ)
    (cmd : CommandPacket × UInt32) : KeepsData cast c cmd ↔ ¬Discards cast c cmd := by
  constructor
  · rintro hkeeps (⟨hopcode, hempty, hdata⟩ | ⟨hrestarts, i, hdata⟩)
    · rcases hkeeps _ hdata with ⟨-, -, hpushed⟩ | hsame
      · omega
      · -- The length has become zero.
        have htable := table_commitChunk_of_empty (h.accepted hdata) hempty
        rw [handleCommand_commit cast c hopcode] at hsame
        have hlen : c.commitChunk.chunk_len_ c.staged_index_ = 0 :=
          (congrArg (fun t => t.2.1 c.staged_index_) htable).trans (Function.update_self ..)
        exact hdata.2 ((congrArg (fun t => t.2.1) hsame).symm.trans hlen)
    · rcases hkeeps i hdata with ⟨hcommit, -, -⟩ | hsame
      · rcases hrestarts with ⟨hbegin, -, -⟩ | hreset
        · exact absurd (hbegin.symm.trans hcommit) (by decide)
        · exact absurd (hreset.symm.trans hcommit) (by decide)
      · have hflag := congrArg (fun t => t.2.2) hsame
        change (c.handleCommand cast cmd).chunk_received_ i = c.chunk_received_ i at hflag
        rw [chunk_received_of_restarts hrestarts, hdata.1] at hflag
        cases hflag
  · intro hkept i hdata
    by_cases hcommit : cmd.1.opcode = OP_COMMIT_CHUNK
    · rcases eq_or_ne c.staged_index_ i with rfl | hne
      · have hpushed : c.staged_len_ ≠ 0 := fun hempty => hkept (Or.inl ⟨hcommit, hempty, hdata⟩)
        exact Or.inl ⟨hcommit, rfl, Nat.pos_of_ne_zero hpushed⟩
      · refine Or.inr ?_
        rw [handleCommand_commit cast c hcommit]
        by_cases hrejected : c.session_active_ = false ∨ c.expected_chunks_ ≤ c.staged_index_
        · exact chunk_of_table (table_commitChunk_of_rejected hrejected) i
        · exact (commits_commitChunk hrejected).others i hne.symm
    · have hrestarts : ¬Restarts cast cmd.1 := fun hr => hkept (Or.inr ⟨hr, i, hdata⟩)
      exact Or.inr (chunk_of_table (table_handleCommand hcommit hrestarts c) i)

/-- Repeated commits. In every reachable session a second commit leaves the table as the first has
made it exactly when the first is rejected or stores no byte. And along every sequence of commands,
chunks with data stay as they are, unless pushed bytes are committed to them, exactly as long as no
command commits over data while nothing has been pushed, and none begins or ends a session while
there are data. -/
theorem commit_repeated_iff (cast : Binary32 → ℕ) (base : Component) (ops : List CfdpOp) :
    let c := run (apply cast) (create base) ops
    (∀ first second : CommandPacket × UInt32, c.session_active_ = true →
      first.1.opcode = OP_COMMIT_CHUNK → second.1.opcode = OP_COMMIT_CHUNK →
      (((c.handleCommand cast first).handleCommand cast second).table =
          (c.handleCommand cast first).table ↔
        c.expected_chunks_ ≤ c.staged_index_ ∨ c.staged_len_ = 0)) ∧
      ∀ cmds, (∀ pre cmd, pre ++ [cmd] <+: cmds →
          KeepsData cast (run (handleCommand cast) c pre) cmd) ↔
        Along (handleCommand cast) (fun c cmd => ¬Discards cast c cmd) c cmds := by
  intro c
  have hinv : c.Inv := inv_run cast base ops
  refine ⟨fun first second hactive hfirst hsecond => ?_, fun cmds => ?_⟩
  · rw [handleCommand_commit cast c hfirst, handleCommand_commit cast _ hsecond]
    exact table_commit_commit_iff hinv.bounded hactive
  · have hstep (c : CfdpComponent) (cmd : CommandPacket × UInt32) (h : c.Inv) :
        (c.handleCommand cast cmd).Inv := h.handleCommand cast cmd
    rw [along_iff_forall_step]
    refine forall₃_congr fun pre cmd _ => ?_
    exact (run_invariant hstep hinv pre).keepsData_iff cast cmd

/-- A chunk of one byte is empty after the second commit. -/
theorem commit_repeated_empties :
    let once := run (handleCommand fun _ => 0) opened
      [command OP_SET_CHUNK_INDEX 0, command OP_PUSH_TEST_BYTE 5, command OP_COMMIT_CHUNK 0]
    let twice := once.handleCommand (fun _ => 0) (command OP_COMMIT_CHUNK 0)
    once.session_active_ = true ∧ once.chunk_received_ 0 = true ∧ once.chunk_len_ 0 = 1 ∧
      twice.chunk_len_ 0 = 0 ∧ twice.table ≠ once.table := by
  intro once twice
  obtain ⟨hactive, hreceived, honce, htwice⟩ : once.session_active_ = true ∧
      once.chunk_received_ 0 = true ∧ once.chunk_len_ 0 = 1 ∧ twice.chunk_len_ 0 = 0 := by
    decide +kernel
  refine ⟨hactive, hreceived, honce, htwice, fun h => ?_⟩
  have hlen : twice.chunk_len_ 0 = once.chunk_len_ 0 := congrArg (fun t => t.2.1 0) h
  rw [honce, htwice] at hlen
  cases hlen

end CfdpComponent

end DeltaV
