import DeltaV.Executive.CommandPath
import DeltaV.FileTransfer
import DeltaV.FloatWords
import DeltaV.Ota.Verification

/-!
# Uploads

The ground sends a file or an image byte by byte, one command each, and any of these commands can be
lost on the way. A component counts what arrives against the announced length. Commands arrive in
order and at most once (`CommandPath`), so as long as every session that the ground opens announces
at least as many bytes as it pushes, a file that has the announced length is the whole file
(`file_intact`), and so is an image that is verified or written (`image_intact`), whatever is lost.
With two uploads in a session this fails: what has arrived of both can have the announced length
(`uploads_intact_iff`).
-/

namespace DeltaV

/-! ## Files -/

/-- What the file component does besides executing commands. -/
inductive FileWork where
  /-- The end of `step()`. -/
  | report (met : UInt32)
  | readNextChunk (out : Bool) (max_len : ℕ)
  /-- Others send to and take from the queues behind the outputs. -/
  | outputs (event_out : Option (InputPort EventPacket DEFAULT_QUEUE_DEPTH))
    (telemetry_out : Option (InputPort (List UInt8) DEFAULT_QUEUE_DEPTH))

namespace FileTransferComponent

/-- Executes a command; no host takes part in it. -/
def execute (c : FileTransferComponent) (cmd : CommandPacket) (_ : Unit) : FileTransferComponent :=
  c.handleCommand cmd

/-- Does something else. -/
def work (c : FileTransferComponent) : FileWork → FileTransferComponent
  | FileWork.report met => c.apply (FileOp.step [] met)
  | FileWork.readNextChunk out max_len => c.apply (FileOp.readNextChunk out max_len)
  | FileWork.outputs event_out telemetry_out => c.apply (FileOp.outputs event_out telemetry_out)

/-- The number of bytes that a command announces. -/
def announced (cmd : CommandPacket) : ℕ := clampFloatToBounds cmd.argument 1 MAX_FILE_BYTES

/-- The bytes that commands push. -/
def pushed (cmds : List CommandPacket) : List UInt8 :=
  cmds.filterMap fun cmd =>
    if cmd.opcode = OP_PUSH_TEST_BYTE then
      some (UInt8.ofNat (clampFloatToBounds cmd.argument 0 255))
    else none

/-- The file is complete, and no session has been opened or reset since. -/
def Closed (c : FileTransferComponent) : Prop :=
  c.session_active_ = false ∧ c.expected_bytes_ ≠ 0

instance (c : FileTransferComponent) : Decidable c.Closed := inferInstanceAs (Decidable (_ ∧ _))

/-- What the component holds after it has executed some commands: bytes that they push, in order,
and a length that one of them announces. -/
structure Receives (c : FileTransferComponent) (cmds : List CommandPacket) : Prop where
  stored_sublist : c.stored.Sublist (pushed cmds)
  announced_eq : c.expected_bytes_ ≠ 0 →
    ∃ cmd ∈ cmds, cmd.opcode = OP_BEGIN_SESSION ∧ announced cmd = c.expected_bytes_
  active_ne : c.session_active_ = true → c.expected_bytes_ ≠ 0
  closed_eq : c.Closed → c.received_bytes_ = c.expected_bytes_

/-- As many bytes are stored as the counter says. -/
theorem length_stored (c : FileTransferComponent) : c.stored.length = c.received_bytes_ := by
  rw [stored, List.length_map, List.length_range]

/-- Executing one more command cannot take a pushed byte back. -/
theorem pushed_append (cmds new : List CommandPacket) :
    pushed (cmds ++ new) = pushed cmds ++ pushed new := List.filterMap_append

/-- A component with the same file holds it after any further commands. -/
theorem Receives.of_same {c c' : FileTransferComponent} {cmds new : List CommandPacket}
    (h : c.Receives cmds) (hstored : c'.stored = c.stored)
    (hexpected : c'.expected_bytes_ = c.expected_bytes_)
    (hactive : c'.session_active_ = true → c.session_active_ = true)
    (hclosed : c'.Closed → c'.received_bytes_ = c'.expected_bytes_) :
    c'.Receives (cmds ++ new) := by
  refine ⟨?_, fun hne => ?_, fun h' => hexpected ▸ h.active_ne (hactive h'), hclosed⟩
  · rw [hstored, pushed_append]
    exact h.stored_sublist.trans (List.sublist_append_left ..)
  · rw [hexpected] at hne ⊢
    obtain ⟨cmd, hmem, hbegin⟩ := h.announced_eq hne
    exact ⟨cmd, List.mem_append_left _ hmem, hbegin⟩

/-- Calls that leave the session alone. -/
theorem Receives.of_sameSession {c c' : FileTransferComponent} {cmds new : List CommandPacket}
    (h : c.Receives cmds) (hsame : SameSession c c') : c'.Receives (cmds ++ new) := by
  refine h.of_same ?_ hsame.expected_eq (fun hactive => hsame.active_eq ▸ hactive)
    fun hclosed => ?_
  · unfold stored
    rw [hsame.storage_eq, hsame.received_eq]
  · rw [hsame.received_eq, hsame.expected_eq]
    refine h.closed_eq ⟨hsame.active_eq ▸ hclosed.1, ?_⟩
    rw [← hsame.expected_eq]
    exact hclosed.2

/-- An empty file. -/
theorem Receives.of_empty {c : FileTransferComponent} {cmds : List CommandPacket}
    (hreceived : c.received_bytes_ = 0)
    (hactive : c.session_active_ = true ↔ c.expected_bytes_ ≠ 0)
    (hannounced : c.expected_bytes_ ≠ 0 →
      ∃ cmd ∈ cmds, cmd.opcode = OP_BEGIN_SESSION ∧ announced cmd = c.expected_bytes_) :
    c.Receives cmds := by
  refine ⟨?_, hannounced, hactive.mp, fun hclosed => ?_⟩
  · rw [List.length_eq_zero_iff.mp (c.length_stored.trans hreceived)]
    exact List.nil_sublist _
  · exact absurd (hclosed.1.symm.trans (hactive.mpr hclosed.2)) Bool.false_ne_true

/-- A chunk is appended, or the session is left alone. -/
theorem ingestChunk_cases (c : FileTransferComponent) (bytes : List UInt8) :
    SameSession c (c.ingestChunk (some bytes)).1 ∨
      (c.ingestChunk (some bytes)).1.stored = c.stored ++ bytes ∧
        (c.ingestChunk (some bytes)).1.expected_bytes_ = c.expected_bytes_ ∧
        (c.ingestChunk (some bytes)).1.session_active_ = true ∧ c.session_active_ = true := by
  cases haccepted : (c.ingestChunk (some bytes)).2 with
  | false => exact Or.inl ((c.ingestChunk_spec (some bytes)).1 haccepted)
  | true =>
    refine Or.inr ?_
    revert haccepted
    simp only [ingestChunk]
    split_ifs with hbad
    iterate 3 exact False.elim
    intro _
    obtain ⟨hactive, -⟩ := not_or.mp hbad
    exact ⟨map_range_store c.storage_ c.received_bytes_ bytes, rfl,
      Bool.eq_true_of_not_eq_false hactive, Bool.eq_true_of_not_eq_false hactive⟩

/-- A command adds the byte that it pushes at most. -/
theorem Receives.handleCommand {c : FileTransferComponent} {cmds : List CommandPacket}
    (h : c.Receives cmds) (cmd : CommandPacket) :
    (c.handleCommand cmd).Receives (cmds ++ [cmd]) := by
  unfold FileTransferComponent.handleCommand
  split_ifs with hbegin hpush
  · unfold beginSession
    split_ifs with hbad
    · exact h.of_sameSession ⟨rfl, rfl, rfl, rfl, rfl⟩
    · -- The command itself announces the length of the new session.
      exact Receives.of_empty rfl ⟨fun _ => (not_or.mp hbad).1, fun _ => rfl⟩ fun _ =>
        ⟨cmd, List.mem_append_right _ (List.mem_singleton_self _), hbegin, rfl⟩
  · rcases c.ingestChunk_cases [UInt8.ofNat (clampFloatToBounds cmd.argument 0 255)] with
      hsame | ⟨hstored, hexpected, hactive, hbefore⟩
    · exact h.of_sameSession hsame
    · have hbyte : pushed [cmd] = [UInt8.ofNat (clampFloatToBounds cmd.argument 0 255)] := by
        simp [pushed, hpush]
      refine ⟨?_, fun hne => ?_, fun _ => ?_, fun hclosed => ?_⟩
      · rw [hstored, pushed_append, hbyte]
        exact h.stored_sublist.append (List.Sublist.refl _)
      · rw [hexpected] at hne ⊢
        obtain ⟨first, hmem, hannounced⟩ := h.announced_eq hne
        exact ⟨first, List.mem_append_left _ hmem, hannounced⟩
      · rw [hexpected]
        exact h.active_ne hbefore
      · -- A chunk is accepted in an open session only.
        exact absurd (hclosed.1.symm.trans hactive) Bool.false_ne_true
  · unfold finalizeSession
    split_ifs with hidle hsize
    · exact h.of_sameSession ⟨rfl, rfl, rfl, rfl, rfl⟩
    · exact h.of_sameSession ⟨rfl, rfl, rfl, rfl, rfl⟩
    · -- Only a file of the announced length is closed.
      exact h.of_same rfl rfl Bool.noConfusion fun _ => not_not.mp hsize
  · exact Receives.of_empty rfl ⟨Bool.noConfusion, fun hne => absurd rfl hne⟩ fun hne =>
      absurd rfl hne
  · exact h.of_sameSession ⟨rfl, rfl, rfl, rfl, rfl⟩

/-- The other calls leave the file alone. -/
theorem Receives.work {c : FileTransferComponent} {cmds : List CommandPacket}
    (h : c.Receives cmds) (op : FileWork) : (c.work op).Receives cmds := by
  rw [← List.append_nil cmds]
  cases op with
  | report met => exact h.of_sameSession ⟨rfl, rfl, rfl, rfl, rfl⟩
  | outputs event_out telemetry_out => exact h.of_sameSession ⟨rfl, rfl, rfl, rfl, rfl⟩
  | readNextChunk out max_len =>
    simp only [FileTransferComponent.work, apply, readNextChunk]
    split_ifs <;> exact h.of_same rfl rfl id h.closed_eq

/-- What has arrived of the sent commands: if each of them that opens a session announces at least
as many bytes as all of them push, a complete file is all these bytes. -/
theorem Receives.intact {c : FileTransferComponent} {cmds sent : List CommandPacket}
    (h : c.Receives cmds) (hsub : cmds.Sublist sent)
    (hannounces : ∀ cmd ∈ sent, cmd.opcode = OP_BEGIN_SESSION →
      (pushed sent).length ≤ announced cmd) :
    c.stored.Sublist (pushed sent) ∧
      (c.finalizeSession.2 = true ∨ c.Closed → c.stored = pushed sent) := by
  have hpushed : c.stored.Sublist (pushed sent) := h.stored_sublist.trans (hsub.filterMap _)
  refine ⟨hpushed, fun hdone => hpushed.eq_of_length_le ?_⟩
  obtain ⟨hne, hcomplete⟩ : c.expected_bytes_ ≠ 0 ∧ c.received_bytes_ = c.expected_bytes_ := by
    rcases hdone with hfinal | hclosed
    · obtain ⟨hactive, hcomplete⟩ := c.finalizeSession_spec.1.mp hfinal
      exact ⟨h.active_ne hactive, hcomplete⟩
    · exact ⟨hclosed.2, h.closed_eq hclosed⟩
  -- The file is at least as long as what is pushed.
  obtain ⟨cmd, hmem, hbegin, hannounced⟩ := h.announced_eq hne
  rw [length_stored, hcomplete, ← hannounced]
  exact hannounces cmd (hsub.subset hmem) hbegin

/-- After `init()` nothing has been received. -/
theorem receives_init (c : FileTransferComponent) : c.init.Receives [] :=
  Receives.of_empty rfl ⟨Bool.noConfusion, fun hne => absurd rfl hne⟩ fun hne => absurd rfl hne

section Flight

variable {Out In EventOut EventIn : Type*} [DecidableEq In] [DecidableEq EventIn] [DecidableEq Out]
  [DecidableEq EventOut]

/-- What the component holds after a flight from `init()`. -/
theorem receives_run {s₀ : CommandPath FileTransferComponent Out In EventOut EventIn} {id : UInt32}
    (hfresh : s₀.Fresh id) {c₀ : FileTransferComponent} (hinit : s₀.comp = c₀.init)
    (ops : List (PathOp Unit FileWork Out In EventOut EventIn)) :
    (run (CommandPath.step execute work) s₀ ops).comp.Receives
      (run (CommandPath.step execute work) s₀ ops).handled := by
  refine CommandPath.comp_run execute work Receives (fun c cmds cmd _ h => h.handleCommand cmd)
    (fun c cmds op h => h.work op) ?_ ops
  rw [hinit, hfresh.handled_eq]
  exact receives_init c₀

/-- Over every flight of a session of at most `0xFF01` commands, and whatever is lost on the way: if
every session that the ground opens announces at least as many bytes as the ground pushes in all,
the file is at any time a subsequence of the pushed bytes, and a file that can be finalized or is
closed is all of them. Commands that the ground sends before the first number that the bridge can
accept do not count: they are dropped, announcements and bytes alike. -/
theorem file_intact (s₀ : CommandPath FileTransferComponent Out In EventOut EventIn) (id : UInt32)
    (hfresh : s₀.Fresh id) (c₀ : FileTransferComponent) (hinit : s₀.comp = c₀.init)
    (ops : List (PathOp Unit FileWork Out In EventOut EventIn))
    (hops : Along (CommandPath.step execute work) (CommandPath.Undisturbed id) s₀ ops) :
    let s := run (CommandPath.step execute work) s₀ ops
    let sent := s.sentTo (CommandLink.firstFresh s₀.link.link.bridge) id
    s.link.sent.length ≤ 0xFF01 →
      (∀ cmd ∈ sent, cmd.opcode = OP_BEGIN_SESSION → (pushed sent).length ≤ announced cmd) →
      s.comp.stored.Sublist (pushed sent) ∧
        (s.comp.finalizeSession.2 = true ∨ s.comp.Closed → s.comp.stored = pushed sent) := by
  intro s sent hlen hannounces
  exact (receives_run hfresh hinit ops).intact
    (CommandPath.handled_run execute work hfresh hops hlen) hannounces

/-- The commands that upload a file. -/
def upload (id : UInt32) (file : List UInt8) : List CommandPacket :=
  [⟨id, OP_BEGIN_SESSION, Binary32.ofNat file.length⟩] ++
    file.map (fun byte => ⟨id, OP_PUSH_TEST_BYTE, Binary32.ofNat byte.toNat⟩) ++
    [⟨id, OP_FINALIZE_SESSION, Binary32.ofNat 0⟩]

omit [DecidableEq In] [DecidableEq EventIn] [DecidableEq Out] [DecidableEq EventOut] in
/-- A clamped count within its bounds is the count itself. -/
theorem clampFloatToBounds_ofNat {n lo hi : ℕ} (hlo : lo ≤ n) (hhi : n ≤ hi) (h : hi < 2^24) :
    clampFloatToBounds (Binary32.ofNat n) lo hi = n := by
  have hn : n < 2^24 := hhi.trans_lt h
  have hlow : ¬Binary32.ofNat n < Binary32.ofNat lo := fun hlt =>
    Binary32.not_le_of_lt hlt ((Binary32.ofNat_le_ofNat (hlo.trans_lt hn) hn).mpr hlo)
  have hhigh : ¬Binary32.ofNat hi < Binary32.ofNat n := fun hlt =>
    Binary32.not_le_of_lt hlt ((Binary32.ofNat_le_ofNat hn h).mpr hhi)
  rw [clampFloatToBounds, if_neg (not_not.mpr (Binary32.isFinite_ofNat hn)), if_neg hlow,
    if_neg hhigh, Binary32.trunc_ofNat hn, Int.toNat_natCast]

/-- An upload pushes its file. -/
theorem pushed_upload (id : UInt32) (file : List UInt8) : pushed (upload id file) = file := by
  have hbytes : pushed (file.map fun byte => ⟨id, OP_PUSH_TEST_BYTE, Binary32.ofNat byte.toNat⟩) =
      file := by
    have hbyte (byte : UInt8) :
        UInt8.ofNat (clampFloatToBounds (Binary32.ofNat byte.toNat) 0 255) = byte := by
      rw [clampFloatToBounds_ofNat (Nat.zero_le _) (Nat.le_of_lt_succ byte.toNat_lt) (by norm_num),
        UInt8.ofNat_toNat]
    simp [pushed, List.filterMap_map, hbyte]
  rw [upload, pushed_append, pushed_append, hbytes]
  exact List.append_nil _

omit [DecidableEq In] [DecidableEq EventIn] [DecidableEq Out] [DecidableEq EventOut] in
/-- An upload announces no less than it pushes. -/
theorem length_le_announced (id : UInt32) {file : List UInt8} (hfits : file.length ≤ MAX_FILE_BYTES)
    {cmd : CommandPacket} (hmem : cmd ∈ upload id file) (hbegin : cmd.opcode = OP_BEGIN_SESSION) :
    (pushed (upload id file)).length ≤ announced cmd := by
  rw [pushed_upload]
  rcases Nat.eq_zero_or_pos file.length with hempty | hpos
  · omega
  obtain rfl : cmd = ⟨id, OP_BEGIN_SESSION, Binary32.ofNat file.length⟩ := by
    simp only [upload, List.mem_append, List.mem_singleton, List.mem_map] at hmem
    rcases hmem with (hfirst | ⟨byte, -, rfl⟩) | rfl
    · exact hfirst
    · exact absurd (show OP_PUSH_TEST_BYTE = OP_BEGIN_SESSION from hbegin) (by decide)
    · exact absurd (show OP_FINALIZE_SESSION = OP_BEGIN_SESSION from hbegin) (by decide)
  exact (clampFloatToBounds_ofNat hpos hfits (by decide)).ge

/-- The commands of a flight that uploads `[7]`. -/
def uploadSeven : List (PathOp Unit FileWork Unit Bool Unit Unit) :=
  [PathOp.send 41 1 (Binary32.ofNat 1), PathOp.send 41 2 (Binary32.ofNat 7),
    PathOp.send 41 3 (Binary32.ofNat 0)] ++
  CommandPath.passOn 0 ⟨41, 1, Binary32.ofNat 1⟩ () ++
  CommandPath.passOn 1 ⟨41, 2, Binary32.ofNat 7⟩ () ++
  CommandPath.passOn 2 ⟨41, 3, Binary32.ofNat 0⟩ ()

/-- The component as `main` starts it. -/
def started : FileTransferComponent := (create (Component.create (ascii "FileTransfer") 41)).init

/-- The file arrives. -/
theorem file_intact_seven :
    let s := run (CommandPath.step execute work) (CommandPath.single started 41) uploadSeven
    s.comp.stored = pushed (s.sentTo 0 41) :=
  (file_intact (CommandPath.single started 41) 41 (CommandPath.fresh_single started 41)
    (create (Component.create (ascii "FileTransfer") 41)) rfl uploadSeven
    ⟨trivial, trivial, trivial, fun _ => by decide +kernel, trivial, trivial,
      fun _ => by decide +kernel, trivial, trivial, fun _ => by decide +kernel, trivial, trivial,
      trivial⟩ (by decide +kernel) (by decide +kernel)).2 (Or.inr (by decide +kernel))

end Flight

/-- Two files are uploaded. Of the first one the second byte and the end get lost, and of the second
one the beginning and the second byte. -/
def mixed : List (PathOp Unit FileWork Unit Bool Unit Unit) :=
  ((upload 41 [1, 2] ++ upload 41 [3, 4]).map fun cmd =>
    PathOp.send cmd.target_id.toNat cmd.opcode.toNat cmd.argument) ++
  CommandPath.passOn 0 ⟨41, 1, Binary32.ofNat 2⟩ () ++
  CommandPath.passOn 1 ⟨41, 2, Binary32.ofNat 1⟩ () ++
  CommandPath.passOn 5 ⟨41, 2, Binary32.ofNat 3⟩ () ++
  CommandPath.passOn 7 ⟨41, 3, Binary32.ofNat 0⟩ ()

/-- The closed file has the first byte of each upload. -/
theorem mixed_closed :
    let s := run (CommandPath.step execute work) (CommandPath.single started 41) mixed
    (CommandPath.single started 41).Fresh 41 ∧
      Along (CommandPath.step execute work) (CommandPath.Undisturbed 41)
        (CommandPath.single started 41) mixed ∧
      s.link.sent.length ≤ 0xFF01 ∧ s.sentTo 0 41 = [[1, 2], [3, 4]].flatMap (upload 41) ∧
      s.comp.Closed ∧ s.comp.stored = [1, 3] :=
  ⟨CommandPath.fresh_single started 41,
    ⟨trivial, trivial, trivial, trivial, trivial, trivial, trivial, trivial,
      fun _ => by decide +kernel, trivial, trivial, fun _ => by decide +kernel, trivial, trivial,
      fun _ => by decide +kernel, trivial, trivial, fun _ => by decide +kernel, trivial, trivial,
      trivial⟩,
    by decide +kernel, by decide +kernel, by decide +kernel, by decide +kernel⟩

/-- Uploads one after the other in a session of at most `0xFF01` commands: every file that is closed
is one of those uploaded, over every flight of at most `n` uploads, exactly when `n` is at most
one. -/
theorem uploads_intact_iff (n : ℕ) :
    (∀ (Out In EventOut EventIn : Type) [DecidableEq Out] [DecidableEq In] [DecidableEq EventOut]
      [DecidableEq EventIn] (s₀ : CommandPath FileTransferComponent Out In EventOut EventIn)
      (id : UInt32) (c₀ : FileTransferComponent)
      (ops : List (PathOp Unit FileWork Out In EventOut EventIn)) (files : List (List UInt8)),
      s₀.Fresh id → s₀.comp = c₀.init →
      Along (CommandPath.step execute work) (CommandPath.Undisturbed id) s₀ ops →
      (∀ file ∈ files, file.length ≤ MAX_FILE_BYTES) → files.length ≤ n →
      let s := run (CommandPath.step execute work) s₀ ops
      s.link.sent.length ≤ 0xFF01 → s.sentTo 0 id <+: files.flatMap (upload id) →
      s.comp.Closed → s.comp.stored ∈ files) ↔ n ≤ 1 := by
  constructor
  · intro h
    by_contra hmany
    obtain ⟨hfresh, hops, hlen, hsent, hclosed, hstored⟩ := mixed_closed
    have hone := h Unit Bool Unit Unit (CommandPath.single started 41) 41
      (create (Component.create (ascii "FileTransfer") 41)) mixed [[1, 2], [3, 4]] hfresh rfl hops
      (by decide) (by simp; omega) hlen (hsent ▸ List.prefix_rfl) hclosed
    rw [hstored] at hone
    exact absurd hone (by decide)
  · intro hn Out In EventOut EventIn _ _ _ _ s₀ id c₀ ops files hfresh hinit hops hfits hfew s hlen
      hsent hclosed
    have hsub : s.handled.Sublist (files.flatMap (upload id)) :=
      ((CommandPath.handled_run execute work hfresh hops hlen).trans
        (s.sentTo_sublist _ id)).trans hsent.sublist
    have hreceives : s.comp.Receives s.handled := receives_run hfresh hinit ops
    -- A closed file needs an upload, and with one upload there is nothing to mix.
    match files with
    | [] =>
      obtain ⟨cmd, hmem, -⟩ := hreceives.announced_eq hclosed.2
      rw [List.sublist_nil.mp hsub] at hmem
      cases hmem
    | [file] =>
      rw [List.flatMap_singleton] at hsub
      have hwhole := (hreceives.intact hsub fun cmd hmem hbegin =>
        length_le_announced id (hfits file (List.mem_singleton_self _)) hmem hbegin).2
          (Or.inr hclosed)
      rw [hwhole, pushed_upload]
      exact List.mem_singleton_self _
    | _ :: _ :: files =>
      simp only [List.length_cons] at hfew
      omega

end FileTransferComponent

/-! ## Images -/

namespace OtaComponent

/-- Others send to and take from the queue behind `event_out`. -/
def work (c : OtaComponent) (event_out : Option (InputPort EventPacket DEFAULT_QUEUE_DEPTH)) :
    OtaComponent := { c with event_out := event_out }

variable (cast : UndefinedCast)

/-- The number of bytes that a command announces. -/
def announced (cmd : CommandPacket) : ℕ := (sanitizeByteCount cast cmd.argument).toNat

/-- The bytes that commands push. -/
def pushed (cmds : List CommandPacket) : List UInt8 :=
  cmds.filterMap fun cmd =>
    if cmd.opcode = OP_PUSH_TEST_BYTE then some (sanitizeU16 cast cmd.argument).toUInt8 else none

/-- What the component holds after it has executed some commands: bytes that they push, in order,
and a length that one of them announces, which an image has when it is verified or written. -/
structure Receives (c : OtaComponent) (cmds : List CommandPacket) : Prop where
  image_sublist : c.image_.Sublist (pushed cast cmds)
  announced_eq : c.expected_bytes_ ≠ 0 →
    ∃ cmd ∈ cmds, cmd.opcode = OP_BEGIN_SESSION ∧ announced cast cmd = c.expected_bytes_
  active_ne : c.session_active_ = true → c.expected_bytes_ ≠ 0
  verified_le : c.image_verified_ = true →
    c.expected_bytes_ ≠ 0 ∧ c.expected_bytes_ ≤ c.image_.length
  written : ∀ bytes, OtaAction.wroteArtifact bytes ∈ c.log → bytes.Sublist (pushed cast cmds) ∧
    ∃ cmd ∈ cmds, cmd.opcode = OP_BEGIN_SESSION ∧ announced cast cmd ≤ bytes.length
  reboot : c.reboot_requested_ = true → ∃ bytes, OtaAction.wroteArtifact bytes ∈ c.log

variable {cast}

/-- Further commands take nothing back. -/
theorem Receives.mono {c : OtaComponent} {cmds : List CommandPacket} (h : c.Receives cast cmds)
    (new : List CommandPacket) : c.Receives cast (cmds ++ new) := by
  have hpushed : (pushed cast cmds).Sublist (pushed cast (cmds ++ new)) :=
    (List.sublist_append_left cmds new).filterMap _
  refine ⟨h.image_sublist.trans hpushed, fun hne => ?_, h.active_ne, h.verified_le,
    fun bytes hmem => ?_, h.reboot⟩
  · obtain ⟨cmd, hcmd, hbegin⟩ := h.announced_eq hne
    exact ⟨cmd, List.mem_append_left _ hcmd, hbegin⟩
  · obtain ⟨hsub, cmd, hcmd, hbegin⟩ := h.written bytes hmem
    exact ⟨hsub.trans hpushed, cmd, List.mem_append_left _ hcmd, hbegin⟩

/-- A command may add its byte to the image. -/
theorem Receives.push {c : OtaComponent} {cmds : List CommandPacket} (h : c.Receives cast cmds)
    {cmd : CommandPacket} (hpush : cmd.opcode = OP_PUSH_TEST_BYTE) :
    (c.ingestChunk (some [(sanitizeU16 cast cmd.argument).toUInt8])).1.Receives cast
      (cmds ++ [cmd]) := by
  have hmono := h.mono [cmd]
  set byte := (sanitizeU16 cast cmd.argument).toUInt8 with hbyte
  by_cases haccepts : c.Accepts [byte].length
  · obtain ⟨hle, heq⟩ := c.ingestChunk_of_accepts [byte] haccepts
    have hpushed : pushed cast (cmds ++ [cmd]) = pushed cast cmds ++ [byte] := by
      simp [pushed, hpush, hbyte]
    rw [heq]
    refine ⟨?_, hmono.announced_eq, hmono.active_ne, fun hver => ?_, hmono.written, hmono.reboot⟩
    · rw [hpushed]
      exact h.image_sublist.append (List.Sublist.refl _)
    · obtain ⟨hne, hlength⟩ := h.verified_le hver
      refine ⟨hne, hlength.trans ?_⟩
      show c.image_.length ≤ (c.image_ ++ [byte]).length
      rw [List.length_append]
      exact Nat.le_add_right _ _
  · rw [c.ingestChunk_of_not_accepts [byte] haccepts]
    exact ⟨hmono.image_sublist, hmono.announced_eq, hmono.active_ne, hmono.verified_le,
      hmono.written, hmono.reboot⟩

/-- An image that passes the verification has the announced length. -/
theorem Receives.verifyImage {c : OtaComponent} {cmds : List CommandPacket}
    (h : c.Receives cast cmds) : c.verifyImage.Receives cast cmds := by
  unfold OtaComponent.verifyImage
  split_ifs with hidle hsize hcrc
  · exact ⟨h.image_sublist, h.announced_eq, h.active_ne, h.verified_le, h.written, h.reboot⟩
  · exact ⟨h.image_sublist, h.announced_eq, h.active_ne, Bool.noConfusion, h.written, h.reboot⟩
  · have hne : c.expected_bytes_ ≠ 0 :=
      h.active_ne (Bool.eq_true_of_not_eq_false (not_or.mp hidle).1)
    have hlength : c.received_bytes_ = c.expected_bytes_ :=
      not_not.mp fun hdiffers => hsize ⟨hne, hdiffers⟩
    refine ⟨h.image_sublist, h.announced_eq, h.active_ne, fun _ => ⟨hne, hlength.ge⟩,
      fun bytes hmem => ?_, fun hreboot => ?_⟩
    · exact h.written bytes ((List.mem_cons.mp hmem).resolve_left OtaAction.noConfusion)
    · obtain ⟨bytes, hmem⟩ := h.reboot hreboot
      exact ⟨bytes, List.mem_cons_of_mem _ hmem⟩
  · exact ⟨h.image_sublist, h.announced_eq, h.active_ne, Bool.noConfusion, h.written, h.reboot⟩

/-- A verified image is written. -/
theorem Receives.writeArtifact {c : OtaComponent} {cmds : List CommandPacket}
    (h : c.Receives cast cmds) (hver : c.image_verified_ = true) (file : FileResult) :
    (c.writeArtifact file).Receives cast cmds := by
  obtain ⟨hne, hlength⟩ := h.verified_le hver
  obtain ⟨cmd, hcmd, hbegin, hannounced⟩ := h.announced_eq hne
  refine ⟨h.image_sublist, h.announced_eq, h.active_ne, h.verified_le, fun bytes hmem => ?_,
    fun _ => ⟨c.image_, List.mem_cons_self⟩⟩
  rcases List.mem_cons.mp hmem with hnew | hold
  · obtain rfl := OtaAction.wroteArtifact.inj hnew
    exact ⟨h.image_sublist, cmd, hcmd, hbegin, hannounced.trans_le hlength⟩
  · exact h.written bytes hold

/-- A call that writes no image and verifies none. -/
theorem Receives.of_log {c c' : OtaComponent} {cmds : List CommandPacket}
    (h : c.Receives cast cmds) (himage : c'.image_ = c.image_)
    (hexpected : c'.expected_bytes_ = c.expected_bytes_)
    (hactive : c'.session_active_ = c.session_active_)
    (hverified : c'.image_verified_ = c.image_verified_)
    (hlog : ∀ bytes, OtaAction.wroteArtifact bytes ∈ c'.log ↔ OtaAction.wroteArtifact bytes ∈ c.log)
    (hreboot : c'.reboot_requested_ = true → ∃ bytes, OtaAction.wroteArtifact bytes ∈ c.log) :
    c'.Receives cast cmds := by
  refine ⟨himage ▸ h.image_sublist, hexpected ▸ h.announced_eq, ?_, ?_,
    fun bytes hmem => h.written bytes ((hlog bytes).mp hmem), fun h' => ?_⟩
  · rw [hactive, hexpected]
    exact h.active_ne
  · rw [hverified, hexpected, himage]
    exact h.verified_le
  · obtain ⟨bytes, hmem⟩ := hreboot h'
    exact ⟨bytes, (hlog bytes).mpr hmem⟩

/-- Only a verified image is staged. -/
theorem Receives.stageActivate {c : OtaComponent} {cmds : List CommandPacket}
    (h : c.Receives cast cmds) (host : StageHost) : (c.stageActivate host).Receives cast cmds := by
  have hmanifest (c : OtaComponent) (bytes : List UInt8) :
      OtaAction.wroteArtifact bytes ∈ (c.writeManifest host.manifest).log ↔
        OtaAction.wroteArtifact bytes ∈ c.log :=
    ⟨fun hmem => (List.mem_cons.mp hmem).resolve_left OtaAction.noConfusion, List.mem_cons_of_mem _⟩
  simp only [OtaComponent.stageActivate, stageFail]
  split_ifs with hver
  · exact h.of_log rfl rfl rfl rfl (fun _ => Iff.rfl) h.reboot
  · exact h.of_log rfl rfl rfl rfl (fun _ => Iff.rfl) h.reboot
  -- From here on the image is written, whatever becomes of the manifest.
  all_goals
    have hwritten := h.writeArtifact (Bool.eq_true_of_not_eq_false hver) host.artifact
  · exact hwritten.of_log rfl rfl rfl rfl (fun _ => Iff.rfl) hwritten.reboot
  · exact hwritten.of_log rfl rfl rfl rfl (fun _ => Iff.rfl) hwritten.reboot
  · exact hwritten.of_log rfl rfl rfl rfl (hmanifest _) hwritten.reboot
  · exact hwritten.of_log rfl rfl rfl rfl (hmanifest _) fun _ => ⟨c.image_, List.mem_cons_self⟩

/-- A command adds the byte that it pushes at most. -/
theorem Receives.handleCommand {c : OtaComponent} {cmds : List CommandPacket}
    (h : c.Receives cast cmds) (cmd : CommandPacket) (host : StageHost) :
    (c.handleCommand cast cmd host).Receives cast (cmds ++ [cmd]) := by
  have hmono := h.mono [cmd]
  unfold OtaComponent.handleCommand
  split_ifs with hbegin hpush
  · unfold beginSession
    split_ifs with hbad
    · exact hmono.of_log rfl rfl rfl rfl (fun _ => Iff.rfl) hmono.reboot
    · exact ⟨List.nil_sublist _,
        fun _ => ⟨cmd, List.mem_append_right _ (List.mem_singleton_self _), hbegin, rfl⟩,
        fun _ => (not_or.mp hbad).1, Bool.noConfusion, hmono.written, Bool.noConfusion⟩
  · exact h.push hpush
  · exact hmono.of_log rfl rfl rfl rfl (fun _ => Iff.rfl) hmono.reboot
  · exact hmono.of_log rfl rfl rfl rfl (fun _ => Iff.rfl) hmono.reboot
  · exact hmono.verifyImage
  · exact hmono.stageActivate host
  · exact ⟨List.nil_sublist _, fun hne => absurd rfl hne, Bool.noConfusion, Bool.noConfusion,
      hmono.written, Bool.noConfusion⟩
  · exact hmono.of_log rfl rfl rfl rfl (fun _ => Iff.rfl) hmono.reboot

section Flight

variable {Out In EventOut EventIn : Type*} [DecidableEq In] [DecidableEq EventIn] [DecidableEq Out]
  [DecidableEq EventOut]

/-- Over every flight of a session of at most `0xFF01` commands, and whatever is lost on the way: if
every session that the ground opens announces at least as many bytes as the ground pushes in all, a
verified image is all the pushed bytes, so is every image that has been written, and a reboot is
requested only when it has been written. As for files, the commands count from the first number that
the bridge can accept. -/
theorem image_intact (s₀ : CommandPath OtaComponent Out In EventOut EventIn) (id : UInt32)
    (hfresh : s₀.Fresh id) (c₀ : OtaComponent) (hinit : s₀.comp = c₀.init) (hnew : c₀.log = [])
    (ops : List (PathOp StageHost (Option (InputPort EventPacket DEFAULT_QUEUE_DEPTH)) Out In
      EventOut EventIn))
    (hops : Along (CommandPath.step (handleCommand cast) work) (CommandPath.Undisturbed id) s₀
      ops) :
    let s := run (CommandPath.step (handleCommand cast) work) s₀ ops
    let sent := s.sentTo (CommandLink.firstFresh s₀.link.link.bridge) id
    s.link.sent.length ≤ 0xFF01 →
      (∀ cmd ∈ sent, cmd.opcode = OP_BEGIN_SESSION →
        (pushed cast sent).length ≤ announced cast cmd) →
      (s.comp.image_verified_ = true → s.comp.image_ = pushed cast sent) ∧
        (∀ bytes, OtaAction.wroteArtifact bytes ∈ s.comp.log → bytes = pushed cast sent) ∧
        (s.comp.isRebootRequested = true →
          OtaAction.wroteArtifact (pushed cast sent) ∈ s.comp.log) := by
  intro s sent hlen hannounces
  have hsub : s.handled.Sublist sent :=
    CommandPath.handled_run (handleCommand cast) work hfresh hops hlen
  have hreceives : s.comp.Receives cast s.handled := by
    refine CommandPath.comp_run (handleCommand cast) work (Receives cast)
      (fun c cmds cmd host h => h.handleCommand cmd host)
      (fun c cmds op h => h.of_log rfl rfl rfl rfl (fun _ => Iff.rfl) h.reboot) ?_ ops
    have hlog : s₀.comp.log = [] := hinit ▸ hnew
    refine ⟨?_, ?_, ?_, ?_, fun bytes hmem => ?_, ?_⟩
    · rw [hinit]
      exact List.nil_sublist _
    · rw [hinit]
      exact fun hne => absurd rfl hne
    · rw [hinit]
      exact Bool.noConfusion
    · rw [hinit]
      exact Bool.noConfusion
    · rw [hlog] at hmem
      cases hmem
    · rw [hinit]
      exact Bool.noConfusion
  have hpushed : (pushed cast s.handled).Sublist (pushed cast sent) := hsub.filterMap _
  -- An image of an announced length is at least as long as what the ground pushes.
  have hwhole {bytes : List UInt8} (hbytes : bytes.Sublist (pushed cast s.handled))
      {cmd : CommandPacket} (hmem : cmd ∈ s.handled) (hbegin : cmd.opcode = OP_BEGIN_SESSION)
      (hlength : announced cast cmd ≤ bytes.length) : bytes = pushed cast sent :=
    (hbytes.trans hpushed).eq_of_length_le
      ((hannounces cmd (hsub.subset hmem) hbegin).trans hlength)
  have hwritten (bytes : List UInt8) (hmem : OtaAction.wroteArtifact bytes ∈ s.comp.log) :
      bytes = pushed cast sent := by
    obtain ⟨hbytes, cmd, hcmd, hbegin, hlength⟩ := hreceives.written bytes hmem
    exact hwhole hbytes hcmd hbegin hlength
  refine ⟨fun hver => ?_, hwritten, fun hreboot => ?_⟩
  · obtain ⟨hne, hlength⟩ := hreceives.verified_le hver
    obtain ⟨cmd, hcmd, hbegin, hannounced⟩ := hreceives.announced_eq hne
    exact hwhole hreceives.image_sublist hcmd hbegin (hannounced.trans_le hlength)
  · obtain ⟨bytes, hmem⟩ := hreceives.reboot hreboot
    rwa [← hwritten bytes hmem]

/-- The commands that upload, verify and stage an image of one zero byte. -/
def staging : List CommandPacket :=
  [⟨45, OP_BEGIN_SESSION, Binary32.ofNat 1⟩, ⟨45, OP_PUSH_TEST_BYTE, Binary32.ofNat 0⟩,
    ⟨45, OP_SET_EXPECTED_CRC_HI16, Binary32.ofNat 0xD202⟩,
    ⟨45, OP_SET_EXPECTED_CRC_LO16, Binary32.ofNat 0xEF8D⟩,
    ⟨45, OP_VERIFY_IMAGE, Binary32.ofNat 0⟩, ⟨45, OP_STAGE_ACTIVATE, Binary32.ofNat 0⟩]

/-- The flight of these commands. -/
def stagingFlight : List (PathOp StageHost (Option (InputPort EventPacket DEFAULT_QUEUE_DEPTH)) Unit
    Bool Unit Unit) :=
  (staging.map fun cmd => PathOp.send cmd.target_id.toNat cmd.opcode.toNat cmd.argument) ++
    staging.zipIdx.flatMap fun cmd => CommandPath.passOn cmd.2 cmd.1 stored

/-- The component as `main` starts it. -/
def started : OtaComponent :=
  (create (Component.create (ascii "OtaManager") 45) none none none).init

/-- The image is staged. -/
theorem image_intact_zero :
    let s := run (CommandPath.step (handleCommand zeroCast) work) (CommandPath.single started 45)
      stagingFlight
    OtaAction.wroteArtifact (pushed zeroCast (s.sentTo 0 45)) ∈ s.comp.log :=
  (image_intact (CommandPath.single started 45) 45 (CommandPath.fresh_single started 45)
    (create (Component.create (ascii "OtaManager") 45) none none none) rfl rfl stagingFlight
    ⟨trivial, trivial, trivial, trivial, trivial, trivial, fun _ => by decide +kernel, trivial,
      trivial, fun _ => by decide +kernel, trivial, trivial, fun _ => by decide +kernel, trivial,
      trivial, fun _ => by decide +kernel, trivial, trivial, fun _ => by decide +kernel, trivial,
      trivial, fun _ => by decide +kernel, trivial, trivial, trivial⟩
    (by decide +kernel) (by decide +kernel)).2.2 (by decide +kernel)

end Flight

end OtaComponent

end DeltaV
