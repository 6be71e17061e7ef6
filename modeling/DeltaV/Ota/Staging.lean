import DeltaV.Decimal
import DeltaV.Lib.Lines
import DeltaV.Ota.Verification

/-!
# The staged files

Staging replaces the artifact and then its manifest. Where one file is replaced and the other is not,
where a file is written in part, and where bytes have arrived after the verification, the manifest
is not that of the artifact any more. `staging_consistent_iff` says exactly when the two files still
belong together after each call of a run.
-/

namespace DeltaV

namespace OtaComponent

/-- The manifest of an image. -/
def manifestOf (image : List UInt8) : Text := manifestText image.length (crc32 image)

/-- The manifest file is that of the artifact file, or neither is there. -/
def Consistent (c : OtaComponent) : Prop := c.manifest_file = c.artifact_file.map manifestOf

instance (c : OtaComponent) : Decidable c.Consistent := inferInstanceAs (Decidable (_ = _))

/-- Both files are written to their ends. -/
def WritesAll (c : OtaComponent) (host : StageHost) : Prop :=
  c.image_.length ≤ host.artifact.stored ∧
    (manifestText c.received_bytes_ c.expected_crc_).length ≤ host.manifest.stored

/-- What staging is for: files that belong together stay so or are replaced by others that do, and a
reboot is requested only for files that are complete. -/
structure StagesWell (c : OtaComponent) (host : StageHost) : Prop where
  consistent : c.Consistent → (c.stageActivate host).Consistent
  reboot : c.reboot_requested_ = false → (c.stageActivate host).reboot_requested_ = true →
    c.WritesAll host

/-- The artifact file is opened only if both files are then written to their ends and the image still
has the CRC, or the manifest that is there is that of what the artifact file then holds; and a write
that is said to be good is complete. -/
def Whole (c : OtaComponent) (host : StageHost) : Prop :=
  c.image_verified_ = true → host.artifact.is_open = true →
    (c.Consistent →
      if host.artifact.good = true ∧ host.manifest.is_open = true then
        c.WritesAll host ∧ crc32 c.image_ = c.expected_crc_
      else c.manifest_file = some (manifestOf (c.image_.take host.artifact.stored))) ∧
    (c.reboot_requested_ = false → host.artifact.good = true → host.manifest.is_open = true →
      host.manifest.good = true → c.WritesAll host)

/-! ## Manifests -/

/-- A decimal number has no newline. -/
theorem newline_notMem_decimal (n : ℕ) : 10 ∉ decimal n := fun h => by
  have hdigit := isDigit_decimal n 10 h
  exact absurd hdigit (by decide)

/-- Different numbers have different decimal texts. -/
theorem decimal_injective : Function.Injective decimal := fun m n h => by
  rw [← digitsValue_decimal m, h, digitsValue_decimal n]

/-- The byte of a hexadecimal digit. -/
def hexDigit (d : ℕ) : UInt8 := (Nat.digitChar d).val.toUInt8

/-- Different digits have different characters. -/
theorem hexDigit_injOn : ∀ d < 16, ∀ e < 16, hexDigit d = hexDigit e → d = e := by decide

/-- No digit is a newline. -/
theorem hexDigit_ne_newline : ∀ d < 16, hexDigit d ≠ 10 := by decide

/-- A number below sixteen has one digit. -/
theorem hexadecimal_of_lt {n : ℕ} (h : n < 16) : hexadecimal n = [hexDigit n] := by
  rw [hexadecimal, Nat.toDigits_of_lt_base h, List.map_singleton, hexDigit]

/-- A number from sixteen on ends with its last digit. -/
theorem hexadecimal_of_ge {n : ℕ} (h : 16 ≤ n) :
    hexadecimal n = hexadecimal (n / 16) ++ [hexDigit (n % 16)] := by
  rw [hexadecimal, Nat.toDigits_of_base_le (by decide) h, List.map_append, List.map_singleton]
  rfl

/-- A hexadecimal number has a digit. -/
theorem hexadecimal_ne_nil (n : ℕ) : hexadecimal n ≠ [] := by
  rw [hexadecimal, Ne, List.map_eq_nil_iff]
  exact Nat.toDigits_ne_nil

/-- A hexadecimal number has no newline. -/
theorem newline_notMem_hexadecimal (n : ℕ) : 10 ∉ hexadecimal n := by
  induction n using Nat.strong_induction_on with
  | _ n ih =>
    rcases lt_or_ge n 16 with h | h
    · rw [hexadecimal_of_lt h, List.mem_singleton]
      exact (hexDigit_ne_newline n h).symm
    · rw [hexadecimal_of_ge h, List.mem_append, List.mem_singleton]
      rintro (hmem | heq)
      · exact ih (n / 16) (by omega) hmem
      · exact hexDigit_ne_newline (n % 16) (Nat.mod_lt n (by decide)) heq.symm

/-- Different numbers have different hexadecimal texts. -/
theorem hexadecimal_injective : Function.Injective hexadecimal := by
  intro m n h
  induction m using Nat.strong_induction_on generalizing n with
  | _ m ih =>
    rcases lt_or_ge m 16 with hm | hm <;> rcases lt_or_ge n 16 with hn | hn
    · rw [hexadecimal_of_lt hm, hexadecimal_of_lt hn] at h
      exact hexDigit_injOn m hm n hn (List.singleton_inj.mp h)
    · rw [hexadecimal_of_lt hm, hexadecimal_of_ge hn] at h
      exact absurd (List.append_eq_singleton_iff.mp h.symm) (by simp [hexadecimal_ne_nil])
    · rw [hexadecimal_of_ge hm, hexadecimal_of_lt hn] at h
      exact absurd (List.append_eq_singleton_iff.mp h) (by simp [hexadecimal_ne_nil])
    · rw [hexadecimal_of_ge hm, hexadecimal_of_ge hn] at h
      -- The last digits are equal, and so are the numbers before them.
      obtain ⟨hinit, hlast⟩ := List.append_inj' h rfl
      have hdiv := ih (m / 16) (by omega) hinit
      have hmod := hexDigit_injOn (m % 16) (Nat.mod_lt m (by decide)) (n % 16)
        (Nat.mod_lt n (by decide)) (List.singleton_inj.mp hlast)
      omega

/-- A manifest as two lines. -/
theorem manifestText_eq (bytes : ℕ) (crc : UInt32) :
    manifestText bytes crc = (ascii "bytes=" ++ decimal bytes) ++
      10 :: ((ascii "crc32=0x" ++ hexadecimal crc.toNat) ++ 10 :: []) := by
  have hnewline : ascii "\n" = [10] := by decide
  rw [manifestText, hnewline]
  simp

/-- No manifest is the beginning of another one. -/
theorem manifestText_prefix_iff {bytes bytes' : ℕ} {crc crc' : UInt32} :
    manifestText bytes crc <+: manifestText bytes' crc' ↔ bytes = bytes' ∧ crc = crc' := by
  have hcount (n : ℕ) : 10 ∉ ascii "bytes=" ++ decimal n := by
    rw [List.mem_append]
    rintro (h | h)
    · exact absurd h (by decide)
    · exact newline_notMem_decimal n h
  have hcrc (n : ℕ) : 10 ∉ ascii "crc32=0x" ++ hexadecimal n := by
    rw [List.mem_append]
    rintro (h | h)
    · exact absurd h (by decide)
    · exact newline_notMem_hexadecimal n h
  rw [manifestText_eq, manifestText_eq, Lines.prefix_line_iff (hcount _) (hcount _),
    Lines.prefix_line_iff (hcrc _) (hcrc _), List.append_cancel_left_eq, List.append_cancel_left_eq,
    decimal_injective.eq_iff, hexadecimal_injective.eq_iff, UInt32.toNat_inj]
  simp

/-! ## One call -/

/-- What staging does to the files and to the request. -/
theorem stageActivate_spec (c : OtaComponent) (host : StageHost) :
    (c.stageActivate host).artifact_file =
        (if c.image_verified_ = true ∧ host.artifact.is_open = true then
          some (c.image_.take host.artifact.stored) else c.artifact_file) ∧
      (c.stageActivate host).manifest_file =
        (if (c.image_verified_ = true ∧ host.artifact.is_open = true) ∧
            host.artifact.good = true ∧ host.manifest.is_open = true then
          some ((manifestText c.received_bytes_ c.expected_crc_).take host.manifest.stored)
        else c.manifest_file) ∧
      ((c.stageActivate host).reboot_requested_ = true ↔ c.reboot_requested_ = true ∨
        ((c.image_verified_ = true ∧ host.artifact.is_open = true) ∧
          (host.artifact.good = true ∧ host.manifest.is_open = true) ∧
            host.manifest.good = true)) := by
  -- The files fail one after the other.
  rcases hver : c.image_verified_ with _ | _
  · simp [stageActivate, hver, recordError, publishEvent]
  rcases hopen : host.artifact.is_open with _ | _
  · simp [stageActivate, hver, hopen, stageFail, recordError, publishEvent]
  rcases hgood : host.artifact.good with _ | _
  · simp [stageActivate, hver, hopen, hgood, stageFail, recordError, publishEvent, writeArtifact]
  rcases hmanifest : host.manifest.is_open with _ | _
  · simp [stageActivate, hver, hopen, hgood, hmanifest, stageFail, recordError, publishEvent,
      writeArtifact]
  rcases hwritten : host.manifest.good with _ | _
  · simp [stageActivate, hver, hopen, hgood, hmanifest, hwritten, stageFail, recordError,
      publishEvent, writeArtifact, writeManifest, received_bytes_]
  · simp [stageActivate, hver, hopen, hgood, hmanifest, hwritten, publishEvent, writeArtifact,
      writeManifest, received_bytes_]

/-- What is written is its own manifest exactly when it is complete and has the CRC. -/
theorem written_consistent_iff (c : OtaComponent) (host : StageHost) :
    (manifestText c.received_bytes_ c.expected_crc_).take host.manifest.stored =
        manifestOf (c.image_.take host.artifact.stored) ↔
      c.WritesAll host ∧ crc32 c.image_ = c.expected_crc_ := by
  constructor
  · intro heq
    have hpre : manifestOf (c.image_.take host.artifact.stored) <+:
        manifestText c.received_bytes_ c.expected_crc_ := heq ▸ List.take_prefix _ _
    obtain ⟨hlen, hcrc⟩ := manifestText_prefix_iff.mp hpre
    have hartifact : c.image_.length ≤ host.artifact.stored := by
      have hle : (c.image_.take host.artifact.stored).length ≤ host.artifact.stored :=
        List.length_take_le _ _
      rw [hlen] at hle
      exact hle
    rw [List.take_of_length_le hartifact] at hcrc heq
    rw [manifestOf, hcrc] at heq
    exact ⟨⟨hartifact, List.take_eq_self_iff _ |>.mp heq⟩, hcrc⟩
  · rintro ⟨⟨hartifact, hmanifest⟩, hcrc⟩
    rw [List.take_of_length_le hartifact, List.take_of_length_le hmanifest, manifestOf, hcrc]
    rfl

/-- A call stages well exactly under the condition. -/
theorem stagesWell_iff (c : OtaComponent) (host : StageHost) :
    c.StagesWell host ↔ c.Whole host := by
  obtain ⟨hartifact, hmanifest, hreboot⟩ := c.stageActivate_spec host
  constructor
  · rintro ⟨hconsistent, hcomplete⟩ hver hopen
    have hwrites : c.image_verified_ = true ∧ host.artifact.is_open = true := ⟨hver, hopen⟩
    rw [if_pos hwrites] at hartifact
    refine ⟨fun hc => ?_, fun hidle hgood hopen' hgood' => ?_⟩
    · have hafter := hconsistent hc
      unfold Consistent at hafter
      rw [hartifact, hmanifest, Option.map_some] at hafter
      split_ifs with hboth
      · rw [if_pos ⟨hwrites, hboth⟩, Option.some_inj] at hafter
        exact (c.written_consistent_iff host).mp hafter
      · rwa [if_neg fun hall => hboth hall.2] at hafter
    · exact hcomplete hidle (hreboot.mpr (Or.inr ⟨hwrites, ⟨hgood, hopen'⟩, hgood'⟩))
  · intro hwhole
    refine ⟨fun hc => ?_, fun hidle hrequested => ?_⟩
    · unfold Consistent
      rw [hartifact, hmanifest]
      by_cases hwrites : c.image_verified_ = true ∧ host.artifact.is_open = true
      · have hcondition := (hwhole hwrites.1 hwrites.2).1 hc
        rw [if_pos hwrites, Option.map_some]
        by_cases hboth : host.artifact.good = true ∧ host.manifest.is_open = true
        · rw [if_pos hboth] at hcondition
          rw [if_pos ⟨hwrites, hboth⟩, (c.written_consistent_iff host).mpr hcondition]
        · rw [if_neg hboth] at hcondition
          rwa [if_neg fun hall => hboth hall.2]
      · rw [if_neg hwrites, if_neg fun hall => hwrites hall.1]
        exact hc
    · rcases hreboot.mp hrequested with hbefore | ⟨hwrites, hboth, hgood⟩
      · exact absurd (hidle.symm.trans hbefore) Bool.false_ne_true
      · exact (hwhole hwrites.1 hwrites.2).2 hidle hboth.1 hboth.2 hgood

/-! ## Runs -/

end OtaComponent

/-- The file operations of an operation that stages. -/
def OtaOp.staging : OtaOp → Option StageHost
  | OtaOp.handleCommand cmd host =>
    if cmd.opcode = OtaComponent.OP_STAGE_ACTIVATE then some host else none
  | _ => none

namespace OtaComponent

/-- An operation that stages activates the image. -/
theorem apply_of_staging {cast : UndefinedCast} {op : OtaOp} {host : StageHost}
    (h : op.staging = some host) (c : OtaComponent) : c.apply cast op = c.stageActivate host := by
  rcases op with ⟨cmd, host'⟩ | data | event_out
  · obtain ⟨hopcode, hhost⟩ := Option.ite_none_right_eq_some.mp h
    obtain rfl := Option.some.inj hhost
    change c.handleCommand cast cmd host' = _
    unfold handleCommand
    rw [hopcode]
    rfl
  · cases h
  · cases h

/-- Only staging changes the files. -/
theorem files_apply (cast : UndefinedCast) {op : OtaOp} (h : op.staging = none) (c : OtaComponent) :
    (c.apply cast op).artifact_file = c.artifact_file ∧
      (c.apply cast op).manifest_file = c.manifest_file := by
  have hingest (data : Option (List UInt8)) :
      (c.ingestChunk data).1.artifact_file = c.artifact_file ∧
        (c.ingestChunk data).1.manifest_file = c.manifest_file := by
    rcases data with _ | bytes
    · exact ⟨rfl, rfl⟩
    · unfold ingestChunk
      dsimp only
      split_ifs <;> exact ⟨rfl, rfl⟩
  rcases op with ⟨cmd, host⟩ | data | event_out
  · have hstage : cmd.opcode ≠ OP_STAGE_ACTIVATE := fun hopcode => by
      rw [OtaOp.staging, if_pos hopcode] at h
      cases h
    unfold apply handleCommand
    dsimp only
    split_ifs
    · unfold beginSession
      split_ifs <;> exact ⟨rfl, rfl⟩
    · exact hingest _
    · exact ⟨rfl, rfl⟩
    · exact ⟨rfl, rfl⟩
    · unfold verifyImage
      split_ifs <;> exact ⟨rfl, rfl⟩
    · exact ⟨rfl, rfl⟩
    · exact ⟨rfl, rfl⟩
  · exact hingest data
  · exact ⟨rfl, rfl⟩

/-- The files of a run. Every call of a run that stages leaves files that belong together, if they
did before, and requests a reboot for complete files only, exactly as long as these calls meet the
condition. If they do and the files belong together at the start, they do in every state. -/
theorem staging_consistent_iff (cast : UndefinedCast) (start : OtaComponent) (ops : List OtaOp) :
    ((∀ pre op, pre ++ [op] <+: ops →
        ∀ host ∈ op.staging, (run (apply cast) start.init pre).StagesWell host) ↔
      Along (apply cast) (fun c op => ∀ host ∈ op.staging, c.Whole host) start.init ops) ∧
      (start.Consistent →
        Along (apply cast) (fun c op => ∀ host ∈ op.staging, c.Whole host) start.init ops →
        ∀ pre, pre <+: ops → (run (apply cast) start.init pre).Consistent) := by
  constructor
  · rw [along_iff_forall_step]
    refine forall₃_congr fun pre op _ => forall₂_congr fun host _ => ?_
    exact stagesWell_iff _ host
  · intro hstart halong pre hpre
    have hstep (c : OtaComponent) (op : OtaOp) (hc : c.Consistent)
        (hwhole : ∀ host ∈ op.staging, c.Whole host) : (c.apply cast op).Consistent := by
      rcases hstaging : op.staging with _ | host
      · obtain ⟨hartifact, hmanifest⟩ := files_apply cast hstaging c
        unfold Consistent
        rw [hartifact, hmanifest]
        exact hc
      · rw [apply_of_staging hstaging]
        exact ((c.stagesWell_iff host).mpr (hwhole host hstaging)).consistent hc
    have hinit : start.init.Consistent := hstart
    refine run_invariant_along hstep hinit ?_
    rw [along_iff_forall_step] at halong ⊢
    exact fun pre' op hpre' => halong pre' op (hpre'.trans hpre)

/-- A host on which the manifest cannot be opened. -/
def noManifest : StageHost := ⟨⟨true, MAX_IMAGE_BYTES, true⟩, ⟨false, 0, false⟩⟩

/-- An image of one zero byte is staged, and then one of another byte without its manifest. -/
def restagingRun : List OtaOp :=
  [command OP_BEGIN_SESSION 1, command OP_PUSH_TEST_BYTE 0, command OP_SET_EXPECTED_CRC_HI16 0xD202,
    command OP_SET_EXPECTED_CRC_LO16 0xEF8D, command OP_VERIFY_IMAGE 0,
    command OP_STAGE_ACTIVATE 0, command OP_BEGIN_SESSION 1, command OP_PUSH_TEST_BYTE 1,
    command OP_SET_EXPECTED_CRC_HI16 0xA505, command OP_SET_EXPECTED_CRC_LO16 0xDF1B,
    command OP_VERIFY_IMAGE 0]

/-- The manifest of the first image stays beside the second one. -/
theorem restaging_inconsistent :
    let start := (create (Component.create (ascii "OtaManager") 45) none none none).init
    let before := run (apply zeroCast) start restagingRun
    let after := before.stageActivate noManifest
    before.Consistent ∧ before.artifact_file = some [0] ∧ after.artifact_file = some [1] ∧
      after.manifest_file = before.manifest_file ∧ ¬after.Consistent := by
  decide +kernel

end OtaComponent

end DeltaV
