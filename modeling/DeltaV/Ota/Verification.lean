import DeltaV.FloatWords
import DeltaV.Ota.Model

/-!
# Verification of staged images

`Verified` is what verification is for: a verified image has the announced length and CRC, a reboot
is only requested for a verified image, and every write to the files is of the image and the CRC
that passed the last verification before it. The code clears `image_verified_` when a session begins
or ends and when a verification fails, but not when bytes arrive or a CRC word changes after a
verification that succeeded. `verified_iff` shows that nothing else can go wrong: a run stays
`Verified` exactly as long as neither of these happens to a verified image. `grows_after_verify` is
a run in which one does.
-/

namespace DeltaV

namespace OtaComponent

/-- The image and the CRC of the last verification in a log. -/
def lastVerified : List OtaAction → Option (List UInt8 × UInt32)
  | [] => none
  | OtaAction.verified image crc :: _ => some (image, crc)
  | _ :: log => lastVerified log

/-- An entry writes what passed the last verification in the log before it. -/
def Backed (log : List OtaAction) : OtaAction → Prop
  | OtaAction.verified _ _ => True
  | OtaAction.wroteArtifact bytes => ∃ crc, lastVerified log = some (bytes, crc)
  | OtaAction.wroteManifest text =>
    ∃ image crc, lastVerified log = some (image, crc) ∧ text = manifestText image.length crc

/-- Every write in a log is of what was verified. -/
def StagedVerified : List OtaAction → Prop
  | [] => True
  | a :: log => Backed log a ∧ StagedVerified log

/-- Verification has not been bypassed. -/
structure Verified (c : OtaComponent) : Prop where
  size : c.image_verified_ = true → c.received_bytes_ = c.expected_bytes_
  crc : c.image_verified_ = true → crc32 c.image_ = c.expected_crc_
  reboot : c.isRebootRequested = true → c.image_verified_ = true
  staged : StagedVerified c.log

/-- A chunk of the given length is accepted. -/
def Accepts (c : OtaComponent) (len : ℕ) : Prop :=
  c.session_active_ = true ∧ len ≠ 0 ∧ c.received_bytes_ + len ≤ MAX_IMAGE_BYTES

/-- The operation leaves a verified image and its CRC alone: it is not a chunk or a byte that is
accepted, and not a new value of a CRC word. -/
def Safe (cast : UndefinedCast) (c : OtaComponent) (op : OtaOp) : Prop :=
  c.image_verified_ = true →
    match op with
    | OtaOp.handleCommand cmd _ =>
      (cmd.opcode = OP_PUSH_TEST_BYTE → ¬c.Accepts 1) ∧
        (cmd.opcode = OP_SET_EXPECTED_CRC_HI16 → sanitizeU16 cast cmd.argument = c.crc_hi16_) ∧
        (cmd.opcode = OP_SET_EXPECTED_CRC_LO16 → sanitizeU16 cast cmd.argument = c.crc_lo16_)
    | OtaOp.ingestChunk (some bytes) => ¬c.Accepts bytes.length
    | OtaOp.ingestChunk none | OtaOp.eventPort _ => True

/-! ## What holds in every state -/

/-- What the operations keep, safe or not: a verified image belongs to a session of nonzero size,
and the image that passed the verification is still at the start of the buffer. -/
structure Inv (c : OtaComponent) : Prop where
  active : c.image_verified_ = true → c.session_active_ = true
  expected : c.session_active_ = true → c.expected_bytes_ ≠ 0
  word : c.expected_crc_ = c.crc_hi16_.toUInt32 <<< 16 ||| c.crc_lo16_.toUInt32
  last : c.image_verified_ = true → ∃ image crc, lastVerified c.log = some (image, crc) ∧
    image <+: c.image_ ∧ image.length = c.expected_bytes_ ∧ crc32 image = crc

/-- Events and errors do not matter to the invariant. -/
@[simp] theorem inv_publishEvent (c : OtaComponent) (severity : UInt32) (msg : Text) :
    (c.publishEvent severity msg).Inv ↔ c.Inv :=
  ⟨fun h => ⟨h.active, h.expected, h.word, h.last⟩, fun h => ⟨h.active, h.expected, h.word, h.last⟩⟩

/-- Errors do not matter to the invariant. -/
@[simp] theorem inv_recordError (c : OtaComponent) : c.recordError.Inv ↔ c.Inv :=
  ⟨fun h => ⟨h.active, h.expected, h.word, h.last⟩, fun h => ⟨h.active, h.expected, h.word, h.last⟩⟩

/-- The invariant holds of an idle session. -/
theorem inv_resetSession (c : OtaComponent) : c.resetSession.Inv where
  active hv := absurd hv Bool.false_ne_true
  expected ha := absurd ha Bool.false_ne_true
  word := by
    change (0 : UInt32) = (0 : UInt16).toUInt32 <<< 16 ||| (0 : UInt16).toUInt32
    decide
  last hv := absurd hv Bool.false_ne_true

/-- An accepted chunk grows the image, and nothing else changes. -/
theorem ingestChunk_of_accepts (c : OtaComponent) (bytes : List UInt8)
    (h : c.Accepts bytes.length) :
    ∃ hle, (c.ingestChunk (some bytes)).1 =
      { c with image_ := c.image_ ++ bytes, received_le := hle } := by
  obtain ⟨hactive, hlen, hfit⟩ := h
  refine ⟨by rw [List.length_append]; exact hfit, ?_⟩
  simp only [ingestChunk]
  rw [if_neg (by simp [hactive]; simpa using hlen), dif_neg (not_lt.mpr hfit)]

/-- A rejected chunk is an error. -/
theorem ingestChunk_of_not_accepts (c : OtaComponent) (bytes : List UInt8)
    (h : ¬c.Accepts bytes.length) : (c.ingestChunk (some bytes)).1 = c.recordError := by
  simp only [ingestChunk]
  split_ifs with h1 h2
  · rfl
  · rfl
  · exfalso
    rw [not_or] at h1
    exact h ⟨by simpa using h1.1, h1.2, not_lt.mp h2⟩

/-- A chunk keeps the invariant. -/
theorem inv_ingestChunk {c : OtaComponent} (h : c.Inv) (bytes : List UInt8) :
    (c.ingestChunk (some bytes)).1.Inv := by
  by_cases hacc : c.Accepts bytes.length
  · obtain ⟨hle, heq⟩ := c.ingestChunk_of_accepts bytes hacc
    rw [heq]
    refine ⟨h.active, h.expected, h.word, fun hver => ?_⟩
    obtain ⟨image, crc, hlast, hpre, hlen, hcrc⟩ := h.last hver
    exact ⟨image, crc, hlast, hpre.trans (List.prefix_append _ _), hlen, hcrc⟩
  · rw [c.ingestChunk_of_not_accepts bytes hacc, inv_recordError]
    exact h

/-- A new session keeps the invariant. -/
theorem inv_beginSession {c : OtaComponent} (h : c.Inv) (expected : ℕ) :
    (c.beginSession expected).Inv := by
  unfold beginSession
  split_ifs with hbad
  · simpa using h
  · rw [not_or] at hbad
    rw [inv_publishEvent]
    exact ⟨nofun, fun _ => hbad.1, h.word, nofun⟩

/-- A verification keeps the invariant. -/
theorem inv_verifyImage {c : OtaComponent} (h : c.Inv) : c.verifyImage.Inv := by
  unfold verifyImage
  split_ifs with hidle hsize hcrc
  · simpa using h
  · exact ⟨nofun, h.expected, h.word, nofun⟩
  · have hactive : c.session_active_ = true := by
      rw [not_or] at hidle
      simpa using hidle.1
    -- An active session has a nonzero size, so the lengths were compared.
    have hlen : c.image_.length = c.expected_bytes_ := by
      by_contra hne
      exact hsize ⟨h.expected hactive, hne⟩
    rw [inv_publishEvent]
    exact ⟨fun _ => hactive, h.expected, h.word,
      fun _ => ⟨c.image_, c.expected_crc_, rfl, List.prefix_rfl, hlen, hcrc⟩⟩
  · rw [inv_publishEvent, inv_recordError]
    exact ⟨nofun, h.expected, h.word, nofun⟩

/-- Staging keeps the invariant. -/
theorem inv_stageActivate {c : OtaComponent} (h : c.Inv) (host : StageHost) :
    (c.stageActivate host).Inv := by
  have hart : (c.writeArtifact host.artifact).Inv := ⟨h.active, h.expected, h.word, h.last⟩
  have hman : ((c.writeArtifact host.artifact).writeManifest host.manifest).Inv :=
    ⟨h.active, h.expected, h.word, h.last⟩
  simp only [stageActivate, stageFail]
  -- The ways in which the files fail, and success.
  split_ifs
  · simpa using h
  · simpa using h
  · simpa using hart
  · simpa using hart
  · simpa using hman
  · rw [inv_publishEvent]
    exact ⟨hman.active, hman.expected, hman.word, hman.last⟩

/-- Every operation keeps the invariant. -/
theorem inv_apply (cast : UndefinedCast) (c : OtaComponent) (op : OtaOp) (h : c.Inv) :
    (c.apply cast op).Inv := by
  cases op with
  | eventPort event_out => exact ⟨h.active, h.expected, h.word, h.last⟩
  | ingestChunk data =>
    cases data with
    | none => exact (inv_recordError c).mpr h
    | some bytes => exact inv_ingestChunk h bytes
  | handleCommand cmd host =>
    simp only [apply, handleCommand]
    split_ifs
    · exact inv_beginSession h _
    · exact inv_ingestChunk h _
    · rw [setExpectedCrcHi16, inv_publishEvent]
      exact ⟨h.active, h.expected, rfl, h.last⟩
    · rw [setExpectedCrcLo16, inv_publishEvent]
      exact ⟨h.active, h.expected, rfl, h.last⟩
    · exact inv_verifyImage h
    · exact inv_stageActivate h host
    · rw [inv_publishEvent]
      exact inv_resetSession c
    · simpa using h

/-- The invariant holds in every state of every run from `init()`. -/
theorem inv_run (cast : UndefinedCast) (c : OtaComponent) (ops : List OtaOp) :
    (run (apply cast) c.init ops).Inv := by
  have hinit : c.init.Inv := (inv_publishEvent _ _ _).mpr (inv_resetSession _)
  exact run_invariant (inv_apply cast) hinit ops

/-! ## What a safe operation keeps -/

/-- Events do not matter to the verification. -/
@[simp] theorem verified_publishEvent (c : OtaComponent) (severity : UInt32) (msg : Text) :
    (c.publishEvent severity msg).Verified ↔ c.Verified :=
  ⟨fun h => ⟨h.size, h.crc, h.reboot, h.staged⟩, fun h => ⟨h.size, h.crc, h.reboot, h.staged⟩⟩

/-- Errors do not matter to the verification. -/
@[simp] theorem verified_recordError (c : OtaComponent) :
    c.recordError.Verified ↔ c.Verified :=
  ⟨fun h => ⟨h.size, h.crc, h.reboot, h.staged⟩, fun h => ⟨h.size, h.crc, h.reboot, h.staged⟩⟩

/-- What is verified is what the last verification passed. -/
theorem lastVerified_eq {c : OtaComponent} (hinv : c.Inv) (h : c.Verified)
    (hver : c.image_verified_ = true) :
    lastVerified c.log = some (c.image_, c.expected_crc_) := by
  obtain ⟨image, crc, hlast, hpre, hlen, hcrc⟩ := hinv.last hver
  -- A prefix of the same length is the whole image.
  have himage : image = c.image_ :=
    hpre.eq_of_length (hlen.trans (h.size hver).symm)
  have hword : crc = c.expected_crc_ := by rw [← hcrc, himage, h.crc hver]
  rw [hlast, himage, hword]

/-- Without a verified image, no reboot is requested. -/
theorem Verified.not_requested {c : OtaComponent} (h : c.Verified)
    (hver : c.image_verified_ = false) : c.reboot_requested_ = false := by
  by_contra hreq
  have := h.reboot (Bool.not_eq_false _ ▸ hreq)
  rw [hver] at this
  exact Bool.false_ne_true this

/-- A chunk keeps verification in force exactly if it is rejected or nothing is verified. -/
theorem verified_ingestChunk_iff {c : OtaComponent} (h : c.Verified) (bytes : List UInt8) :
    (c.ingestChunk (some bytes)).1.Verified ↔
      (c.image_verified_ = true → ¬c.Accepts bytes.length) := by
  by_cases hacc : c.Accepts bytes.length
  · obtain ⟨hle, heq⟩ := c.ingestChunk_of_accepts bytes hacc
    rw [heq]
    constructor
    · -- The image is longer than it was, so it no longer has the announced length.
      intro hnew hver
      have hold := h.size hver
      have hgrown : (c.image_ ++ bytes).length = c.expected_bytes_ := hnew.size hver
      have hpos := hacc.2.1
      unfold received_bytes_ at hold
      rw [List.length_append] at hgrown
      omega
    · intro hsafe
      have hver : ¬c.image_verified_ = true := fun hver => hsafe hver hacc
      exact ⟨fun hv => absurd hv hver, fun hv => absurd hv hver, h.reboot, h.staged⟩
  · rw [c.ingestChunk_of_not_accepts bytes hacc, verified_recordError]
    exact ⟨fun _ _ => hacc, fun _ => h⟩

/-- A CRC determines its words. -/
theorem crc_words_inj {hi lo hi' lo' : UInt16} :
    hi.toUInt32 <<< 16 ||| lo.toUInt32 = hi'.toUInt32 <<< 16 ||| lo'.toUInt32 ↔
      hi = hi' ∧ lo = lo' := by
  constructor
  · intro h
    have hn := congrArg UInt32.toNat h
    rw [toNat_words, toNat_words] at hn
    have hlo := lo.toNat_lt
    have hlo' := lo'.toNat_lt
    exact ⟨UInt16.toNat.inj (by omega), UInt16.toNat.inj (by omega)⟩
  · rintro ⟨rfl, rfl⟩
    rfl

/-- A new expected CRC keeps verification in force exactly if nothing is verified or the CRC is the
old one. -/
theorem verified_crc_iff {c : OtaComponent} (h : c.Verified) (hi lo : UInt16) (crc : UInt32) :
    { c with crc_hi16_ := hi, crc_lo16_ := lo, expected_crc_ := crc }.Verified ↔
      (c.image_verified_ = true → crc = c.expected_crc_) := by
  constructor
  · -- The image stays, so its CRC does.
    intro hnew hver
    have hcrc : crc32 c.image_ = crc := hnew.crc hver
    rw [← hcrc, h.crc hver]
  · intro hsame
    exact ⟨h.size, fun hver => (h.crc hver).trans (hsame hver).symm, h.reboot, h.staged⟩

/-- A new session is not verified, and nothing is written. -/
theorem verified_beginSession {c : OtaComponent} (h : c.Verified) (expected : ℕ) :
    (c.beginSession expected).Verified := by
  unfold beginSession
  split_ifs
  · simpa using h
  · rw [verified_publishEvent]
    exact ⟨nofun, nofun, nofun, h.staged⟩

/-- What a verification finds is verified. -/
theorem verified_verifyImage {c : OtaComponent} (hinv : c.Inv) (h : c.Verified) :
    c.verifyImage.Verified := by
  unfold verifyImage
  split_ifs with hidle hsize hcrc
  · simpa using h
  · -- A verified image has the announced length, so none is verified here.
    have hver : c.image_verified_ = false := by
      by_contra hv
      exact hsize.2 (h.size (by simpa using hv))
    have hreq : ¬c.reboot_requested_ = true := by simp [h.not_requested hver]
    exact ⟨nofun, nofun, fun hr => absurd hr hreq, h.staged⟩
  · rw [verified_publishEvent]
    have hactive : c.session_active_ = true := by
      rw [not_or] at hidle
      simpa using hidle.1
    have hlen : c.received_bytes_ = c.expected_bytes_ := by
      by_contra hne
      exact hsize ⟨hinv.expected hactive, hne⟩
    exact ⟨fun _ => hlen, fun _ => hcrc, fun _ => rfl, trivial, h.staged⟩
  · have hver : c.image_verified_ = false := by
      by_contra hv
      exact hcrc (h.crc (by simpa using hv))
    have hreq : ¬c.reboot_requested_ = true := by simp [h.not_requested hver]
    rw [verified_publishEvent, verified_recordError]
    exact ⟨nofun, nofun, fun hr => absurd hr hreq, h.staged⟩

/-- Staging writes what has been verified. -/
theorem verified_stageActivate {c : OtaComponent} (hinv : c.Inv) (h : c.Verified)
    (host : StageHost) : (c.stageActivate host).Verified := by
  unfold stageActivate
  by_cases hver : c.image_verified_ = false
  · rw [if_pos hver]
    simpa using h
  -- From here on the image is what the last verification passed.
  rw [if_neg hver]
  have hver : c.image_verified_ = true := by simpa using hver
  have hlast := lastVerified_eq hinv h hver
  have hart : (c.writeArtifact host.artifact).Verified :=
    ⟨h.size, h.crc, h.reboot, ⟨c.expected_crc_, hlast⟩, h.staged⟩
  have hman : ((c.writeArtifact host.artifact).writeManifest host.manifest).Verified :=
    ⟨h.size, h.crc, h.reboot, ⟨c.image_, c.expected_crc_, hlast, rfl⟩, hart.staged⟩
  unfold stageFail
  split_ifs
  · simpa using h
  · simpa using hart
  · simpa using hart
  · simpa using hman
  · rw [verified_publishEvent]
    exact ⟨hman.size, hman.crc, fun _ => hver, hman.staged⟩

/-- A reset session is verified when the history says so. -/
theorem verified_resetSession {c : OtaComponent} (h : StagedVerified c.log) :
    c.resetSession.Verified :=
  ⟨fun hv => absurd hv Bool.false_ne_true, fun hv => absurd hv Bool.false_ne_true,
    fun hr => absurd hr Bool.false_ne_true, h⟩

/-- A command keeps verification in force exactly if it is safe. -/
theorem verified_handleCommand_iff (cast : UndefinedCast) {c : OtaComponent} (hinv : c.Inv)
    (h : c.Verified) (cmd : CommandPacket) (host : StageHost) :
    (c.handleCommand cast cmd host).Verified ↔ c.Safe cast (OtaOp.handleCommand cmd host) := by
  have hword := hinv.word
  -- Only three opcodes can disturb a verified image.
  have hsafe (hpush : cmd.opcode ≠ OP_PUSH_TEST_BYTE)
      (hhi : cmd.opcode ≠ OP_SET_EXPECTED_CRC_HI16) (hlo : cmd.opcode ≠ OP_SET_EXPECTED_CRC_LO16) :
      c.Safe cast (OtaOp.handleCommand cmd host) :=
    fun _ => ⟨fun heq => absurd heq hpush, fun heq => absurd heq hhi, fun heq => absurd heq hlo⟩
  unfold handleCommand
  split_ifs with hbegin hpush hhi hlo hverify hstage hreset
  · have hne : OP_BEGIN_SESSION ≠ OP_PUSH_TEST_BYTE ∧ OP_BEGIN_SESSION ≠ OP_SET_EXPECTED_CRC_HI16 ∧
        OP_BEGIN_SESSION ≠ OP_SET_EXPECTED_CRC_LO16 := by decide
    rw [← hbegin] at hne
    exact ⟨fun _ => hsafe hne.1 hne.2.1 hne.2.2, fun _ => verified_beginSession h _⟩
  · rw [verified_ingestChunk_iff h]
    have hne : OP_PUSH_TEST_BYTE ≠ OP_SET_EXPECTED_CRC_HI16 ∧
        OP_PUSH_TEST_BYTE ≠ OP_SET_EXPECTED_CRC_LO16 := by decide
    simp [Safe, hpush, hne]
  · rw [setExpectedCrcHi16, verified_publishEvent, verified_crc_iff h]
    have hne : OP_SET_EXPECTED_CRC_HI16 ≠ OP_PUSH_TEST_BYTE ∧
        OP_SET_EXPECTED_CRC_HI16 ≠ OP_SET_EXPECTED_CRC_LO16 := by decide
    simp [Safe, hhi, hne, hword, crc_words_inj]
  · rw [setExpectedCrcLo16, verified_publishEvent, verified_crc_iff h]
    have hne : OP_SET_EXPECTED_CRC_LO16 ≠ OP_PUSH_TEST_BYTE ∧
        OP_SET_EXPECTED_CRC_LO16 ≠ OP_SET_EXPECTED_CRC_HI16 := by decide
    simp [Safe, hlo, hne, hword, crc_words_inj]
  · exact ⟨fun _ => hsafe hpush hhi hlo, fun _ => verified_verifyImage hinv h⟩
  · exact ⟨fun _ => hsafe hpush hhi hlo, fun _ => verified_stageActivate hinv h host⟩
  · rw [verified_publishEvent]
    exact ⟨fun _ => hsafe hpush hhi hlo, fun _ => verified_resetSession h.staged⟩
  · exact ⟨fun _ => hsafe hpush hhi hlo, fun _ => by simpa using h⟩

/-- An operation keeps verification in force exactly if it is safe. -/
theorem verified_apply_iff (cast : UndefinedCast) (c : OtaComponent) (op : OtaOp) (hinv : c.Inv)
    (h : c.Verified) : (c.apply cast op).Verified ↔ c.Safe cast op := by
  cases op with
  | eventPort event_out =>
    have hnew : (c.apply cast (OtaOp.eventPort event_out)).Verified :=
      ⟨h.size, h.crc, h.reboot, h.staged⟩
    exact ⟨fun _ _ => trivial, fun _ => hnew⟩
  | ingestChunk data =>
    cases data with
    | none => exact ⟨fun _ _ => trivial, fun _ => (verified_recordError c).mpr h⟩
    | some bytes => exact verified_ingestChunk_iff h bytes
  | handleCommand cmd host =>
    exact verified_handleCommand_iff cast hinv h cmd host

/-! ## Runs -/

/-- A run from `init()` stays verified exactly as long as its operations are safe. -/
theorem verified_iff (cast : UndefinedCast) (base : Component)
    (event_out : Option (InputPort EventPacket DEFAULT_QUEUE_DEPTH))
    (artifact_file : Option (List UInt8)) (manifest_file : Option Text) (ops : List OtaOp) :
    let start := (create base event_out artifact_file manifest_file).init
    (∀ pre, pre <+: ops → (run (apply cast) start pre).Verified) ↔
      Along (apply cast) (Safe cast) start ops := by
  intro start
  have hinv : start.Inv := inv_run cast _ []
  have hstart : start.Verified := (verified_publishEvent _ _ _).mpr (verified_resetSession trivial)
  -- The invariant of a verified run is `Inv` together with `Verified` itself.
  have hiff (c : OtaComponent) (op : OtaOp) (h : c.Inv ∧ c.Verified) :=
    verified_apply_iff cast c op h.1 h.2
  exact forall_prefix_iff_along
    (fun c op h hsafe => ⟨inv_apply cast c op h.1, (hiff c op h).mpr hsafe⟩)
    (fun _ h => h.2) (fun c op h hnew => (hiff c op h).mp hnew) ⟨hinv, hstart⟩ ops

/-- The result of an undefined conversion on a platform where it is zero. -/
def zeroCast : UndefinedCast := ⟨fun _ => 0, fun _ => 0⟩

/-- File operations that succeed. -/
def stored : StageHost := ⟨⟨true, MAX_IMAGE_BYTES, true⟩, ⟨true, MAX_IMAGE_BYTES, true⟩⟩

/-- A command to the component. -/
def command (opcode : UInt32) (argument : ℕ) : OtaOp :=
  OtaOp.handleCommand ⟨45, opcode, Binary32.ofNat argument⟩ stored

/-- One byte is announced, received, and verified, and a second one is received. -/
def growingRun : List OtaOp :=
  [command OP_BEGIN_SESSION 1, command OP_PUSH_TEST_BYTE 0, command OP_SET_EXPECTED_CRC_HI16 0xD202,
    command OP_SET_EXPECTED_CRC_LO16 0xEF8D, command OP_VERIFY_IMAGE 0, command OP_PUSH_TEST_BYTE 7,
    command OP_STAGE_ACTIVATE 0]

/-- After the verification of one byte, two bytes are staged and the reboot is requested. -/
theorem grows_after_verify :
    let start := (create (Component.create (ascii "OtaManager") 45) none none none).init
    let last := run (apply zeroCast) start growingRun
    last.image_verified_ = true ∧ last.isRebootRequested = true ∧ last.received_bytes_ = 2 ∧
      last.expected_bytes_ = 1 ∧ crc32 last.image_ ≠ last.expected_crc_ ∧
      last.artifact_file = some [0, 7] ∧ ¬last.Verified := by
  intro start last
  have hsize :
      last.image_verified_ = true ∧ last.received_bytes_ = 2 ∧ last.expected_bytes_ = 1 := by
    decide +kernel
  refine ⟨hsize.1, by decide +kernel, hsize.2.1, hsize.2.2, by decide +kernel, by decide +kernel,
    fun h => ?_⟩
  have hlen := h.size hsize.1
  omega

end OtaComponent

end DeltaV
