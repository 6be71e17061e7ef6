import DeltaV.Lib.Logs
import DeltaV.Ota.Verification
import DeltaV.ParamDb.Model

/-!
# The verdict on an image

A verification looks at the buffer, the announced size, and the CRC words, which any number of calls
have made what they are. The history of a run keeps the calls that succeeded, and the open session,
the accepted bytes, and the CRC are read off it. In every run the component holds what the history
tells (`follows_run`), so the verdict is one on the history (`verify_verdict`).
-/

namespace DeltaV

/-- The calls that matter to a verdict, if they succeed. -/
inductive OtaCall where
  | began (expected : ℕ)
  /-- `ingestChunk` took the bytes. -/
  | accepted (bytes : List UInt8)
  | crcHi (word : UInt16)
  | crcLo (word : UInt16)
  | reset
  /-- A call that failed, or another one. -/
  | other
deriving DecidableEq, Repr

namespace OtaCall

def isBegan : OtaCall → Bool
  | began _ => true
  | _ => false

def isReset : OtaCall → Bool
  | reset => true
  | _ => false

def isCrcHi : OtaCall → Bool
  | crcHi _ => true
  | _ => false

def isCrcLo : OtaCall → Bool
  | crcLo _ => true
  | _ => false

/-- The announced size. -/
def expected? : OtaCall → Option ℕ
  | began expected => some expected
  | _ => none

def bytes : OtaCall → List UInt8
  | accepted bytes => bytes
  | _ => []

def word : OtaCall → UInt16
  | crcHi word => word
  | crcLo word => word
  | _ => 0

/-- The announced size of the session that is open. -/
def session (log : List OtaCall) : Option ℕ :=
  (Logs.last (fun a => a.isBegan || a.isReset) log).bind expected?

/-- The bytes accepted since the last begin. -/
def image (log : List OtaCall) : List UInt8 := (Logs.since isBegan log).flatMap bytes

/-- The last word of a kind since the last reset, or zero. -/
def crcWord (kind : OtaCall → Bool) (log : List OtaCall) : UInt16 :=
  ((Logs.last kind (Logs.since isReset log)).map word).getD 0

/-- The CRC that the last words make up. -/
def crc (log : List OtaCall) : UInt32 :=
  (crcWord isCrcHi log).toUInt32 <<< 16 ||| (crcWord isCrcLo log).toUInt32

/-! ## One more call -/

/-- A session that has begun is the one that is open. -/
theorem session_began (log : List OtaCall) (expected : ℕ) :
    session (log ++ [began expected]) = some expected := by
  rw [session, Logs.last_concat_of_pos rfl]
  rfl

/-- After a reset no session is open. -/
theorem session_reset (log : List OtaCall) : session (log ++ [reset]) = none := by
  rw [session, Logs.last_concat_of_pos rfl]
  rfl

/-- Other calls leave the session open. -/
theorem session_concat {a : OtaCall} (hbegan : a.isBegan = false) (hreset : a.isReset = false)
    (log : List OtaCall) : session (log ++ [a]) = session log := by
  rw [session, Logs.last_concat_of_neg (by rw [hbegan, hreset]; rfl), session]

/-- A session begins with an empty image. -/
theorem image_began (log : List OtaCall) (expected : ℕ) : image (log ++ [began expected]) = [] := by
  rw [image, Logs.since_concat_of_pos rfl, List.flatMap_nil]

/-- Other calls add their bytes to the image. -/
theorem image_concat {a : OtaCall} (h : a.isBegan = false) (log : List OtaCall) :
    image (log ++ [a]) = image log ++ a.bytes := by
  rw [image, Logs.since_concat_of_neg h, List.flatMap_append, List.flatMap_singleton, image]

/-- A reset clears the words of the CRC. -/
theorem crcWord_reset (kind : OtaCall → Bool) (log : List OtaCall) :
    crcWord kind (log ++ [reset]) = 0 := by
  rw [crcWord, Logs.since_concat_of_pos rfl]
  rfl

/-- A new value of a word is the word. -/
theorem crcWord_of_kind {kind : OtaCall → Bool} {a : OtaCall} (hkind : kind a = true)
    (hreset : a.isReset = false) (log : List OtaCall) : crcWord kind (log ++ [a]) = a.word := by
  rw [crcWord, Logs.since_concat_of_neg hreset, Logs.last_concat_of_pos hkind]
  rfl

/-- Other calls leave the words of the CRC. -/
theorem crcWord_concat {kind : OtaCall → Bool} {a : OtaCall} (hkind : kind a = false)
    (hreset : a.isReset = false) (log : List OtaCall) :
    crcWord kind (log ++ [a]) = crcWord kind log := by
  rw [crcWord, Logs.since_concat_of_neg hreset, Logs.last_concat_of_neg hkind, crcWord]

end OtaCall

namespace OtaComponent

/-- `ingestChunk` as a call. -/
def ingestCall (c : OtaComponent) (data : Option (List UInt8)) : OtaCall :=
  if (c.ingestChunk data).2 = true then OtaCall.accepted (data.getD []) else OtaCall.other

/-- The call that an operation makes. -/
def call (cast : UndefinedCast) (c : OtaComponent) : OtaOp → OtaCall
  | OtaOp.handleCommand cmd _ =>
    if cmd.opcode = OP_BEGIN_SESSION then
      let expected := (sanitizeByteCount cast cmd.argument).toNat
      if expected = 0 ∨ MAX_IMAGE_BYTES < expected then OtaCall.other else OtaCall.began expected
    else if cmd.opcode = OP_PUSH_TEST_BYTE then
      c.ingestCall (some [(sanitizeU16 cast cmd.argument).toUInt8])
    else if cmd.opcode = OP_SET_EXPECTED_CRC_HI16 then
      OtaCall.crcHi (sanitizeU16 cast cmd.argument)
    else if cmd.opcode = OP_SET_EXPECTED_CRC_LO16 then
      OtaCall.crcLo (sanitizeU16 cast cmd.argument)
    else if cmd.opcode = OP_RESET_SESSION then OtaCall.reset
    else OtaCall.other
  | OtaOp.ingestChunk data => c.ingestCall data
  | OtaOp.eventPort _ => OtaCall.other

/-- The next state and the calls so far. -/
def record (cast : UndefinedCast) (s : OtaComponent × List OtaCall) (op : OtaOp) :
    OtaComponent × List OtaCall := (s.1.apply cast op, s.2 ++ [s.1.call cast op])

/-- The calls of a run. -/
def history (cast : UndefinedCast) (start : OtaComponent) (ops : List OtaOp) : List OtaCall :=
  (run (record cast) (start, []) ops).2

/-- The component holds what the history tells. -/
structure Follows (c : OtaComponent) (log : List OtaCall) : Prop where
  session_eq : OtaCall.session log = if c.session_active_ = true then some c.expected_bytes_ else none
  image_eq : c.session_active_ = true → c.image_ = OtaCall.image log
  hi_eq : c.crc_hi16_ = OtaCall.crcWord OtaCall.isCrcHi log
  lo_eq : c.crc_lo16_ = OtaCall.crcWord OtaCall.isCrcLo log

/-- Buffer, lengths, CRC words, and flags are the same. -/
structure SameSession (c c' : OtaComponent) : Prop where
  image_eq : c'.image_ = c.image_
  expected_eq : c'.expected_bytes_ = c.expected_bytes_
  crc_eq : c'.expected_crc_ = c.expected_crc_
  hi_eq : c'.crc_hi16_ = c.crc_hi16_
  lo_eq : c'.crc_lo16_ = c.crc_lo16_
  active_eq : c'.session_active_ = c.session_active_
  verified_eq : c'.image_verified_ = c.image_verified_
  reboot_eq : c'.reboot_requested_ = c.reboot_requested_

/-! ## What one call does -/

/-- A call that leaves session, image, and words alone. -/
theorem Follows.other {c c' : OtaComponent} {log : List OtaCall} (h : c.Follows log)
    (himage : c'.image_ = c.image_) (hexpected : c'.expected_bytes_ = c.expected_bytes_)
    (hhi : c'.crc_hi16_ = c.crc_hi16_) (hlo : c'.crc_lo16_ = c.crc_lo16_)
    (hactive : c'.session_active_ = c.session_active_) : c'.Follows (log ++ [OtaCall.other]) := by
  refine ⟨?_, fun ha => ?_, ?_, ?_⟩
  · rw [OtaCall.session_concat rfl rfl, h.session_eq, hactive, hexpected]
  · rw [OtaCall.image_concat rfl, himage, h.image_eq (hactive ▸ ha)]
    exact (List.append_nil _).symm
  · rw [OtaCall.crcWord_concat rfl rfl, hhi, h.hi_eq]
  · rw [OtaCall.crcWord_concat rfl rfl, hlo, h.lo_eq]

/-- A chunk is taken or leaves the session as it is, as its length says. -/
theorem ingestChunk_cases (c : OtaComponent) (data : Option (List UInt8)) :
    (∃ bytes hle, data = some bytes ∧ c.Accepts bytes.length ∧
        c.ingestChunk data = ({ c with image_ := c.image_ ++ bytes, received_le := hle }, true)) ∨
      ((∀ bytes, data = some bytes → ¬c.Accepts bytes.length) ∧
        c.ingestChunk data = (c.recordError, false)) := by
  rcases data with _ | bytes
  · exact Or.inr ⟨nofun, rfl⟩
  · simp only [ingestChunk]
    split_ifs with hidle hfull
    · refine Or.inr ⟨fun bytes' heq haccepts => ?_, rfl⟩
      obtain rfl := Option.some.inj heq
      rcases hidle with hidle | hempty
      · exact absurd (hidle.symm.trans haccepts.1) Bool.false_ne_true
      · exact haccepts.2.1 hempty
    · refine Or.inr ⟨fun bytes' heq haccepts => ?_, rfl⟩
      obtain rfl := Option.some.inj heq
      exact absurd haccepts.2.2 (not_le.mpr hfull)
    · obtain ⟨hactive, hlen⟩ := not_or.mp hidle
      have hle : (c.image_ ++ bytes).length ≤ MAX_IMAGE_BYTES := by
        rw [List.length_append]
        exact not_lt.mp hfull
      have haccepts : c.Accepts bytes.length :=
        ⟨Bool.eq_true_of_not_eq_false hactive, hlen, not_lt.mp hfull⟩
      exact Or.inl ⟨bytes, hle, rfl, haccepts, rfl⟩

/-- The component follows its calls when a chunk is given to it. -/
theorem Follows.ingestChunk {c : OtaComponent} {log : List OtaCall} (h : c.Follows log)
    (data : Option (List UInt8)) :
    (c.ingestChunk data).1.Follows (log ++ [c.ingestCall data]) := by
  unfold ingestCall
  rcases c.ingestChunk_cases data with ⟨bytes, hle, rfl, -, heq⟩ | ⟨-, heq⟩
  · rw [heq, if_pos rfl]
    refine ⟨?_, fun ha => ?_, ?_, ?_⟩
    · rw [OtaCall.session_concat rfl rfl]
      exact h.session_eq
    · rw [OtaCall.image_concat rfl, ← h.image_eq ha]
      rfl
    · rw [OtaCall.crcWord_concat rfl rfl]
      exact h.hi_eq
    · rw [OtaCall.crcWord_concat rfl rfl]
      exact h.lo_eq
  · rw [heq, if_neg Bool.false_ne_true]
    exact h.other rfl rfl rfl rfl rfl

/-- The component follows its calls when a session begins. -/
theorem Follows.beginSession {c : OtaComponent} {log : List OtaCall} (h : c.Follows log)
    (expected : ℕ) : (c.beginSession expected).Follows (log ++ [
      if expected = 0 ∨ MAX_IMAGE_BYTES < expected then OtaCall.other
      else OtaCall.began expected]) := by
  unfold OtaComponent.beginSession
  split_ifs with hbad
  · exact h.other rfl rfl rfl rfl rfl
  · refine ⟨OtaCall.session_began _ _, fun _ => (OtaCall.image_began _ _).symm, ?_, ?_⟩
    · rw [OtaCall.crcWord_concat rfl rfl]
      exact h.hi_eq
    · rw [OtaCall.crcWord_concat rfl rfl]
      exact h.lo_eq

/-- The component follows its calls when the high word of the CRC is set. -/
theorem Follows.setExpectedCrcHi16 {c : OtaComponent} {log : List OtaCall} (h : c.Follows log)
    (word : UInt16) : (c.setExpectedCrcHi16 word).Follows (log ++ [OtaCall.crcHi word]) := by
  refine ⟨?_, fun ha => ?_, ?_, ?_⟩
  · rw [OtaCall.session_concat rfl rfl]
    exact h.session_eq
  · rw [OtaCall.image_concat rfl, ← h.image_eq ha]
    exact (List.append_nil _).symm
  · rw [OtaCall.crcWord_of_kind rfl rfl]
    rfl
  · rw [OtaCall.crcWord_concat rfl rfl]
    exact h.lo_eq

/-- The component follows its calls when the low word of the CRC is set. -/
theorem Follows.setExpectedCrcLo16 {c : OtaComponent} {log : List OtaCall} (h : c.Follows log)
    (word : UInt16) : (c.setExpectedCrcLo16 word).Follows (log ++ [OtaCall.crcLo word]) := by
  refine ⟨?_, fun ha => ?_, ?_, ?_⟩
  · rw [OtaCall.session_concat rfl rfl]
    exact h.session_eq
  · rw [OtaCall.image_concat rfl, ← h.image_eq ha]
    exact (List.append_nil _).symm
  · rw [OtaCall.crcWord_concat rfl rfl]
    exact h.hi_eq
  · rw [OtaCall.crcWord_of_kind rfl rfl]
    rfl

/-- After a reset the component follows every log that ends with it. -/
theorem follows_resetSession (c : OtaComponent) (log : List OtaCall) :
    c.resetSession.Follows (log ++ [OtaCall.reset]) :=
  ⟨OtaCall.session_reset _, fun ha => absurd ha Bool.false_ne_true,
    (OtaCall.crcWord_reset _ _).symm, (OtaCall.crcWord_reset _ _).symm⟩

/-- Every operation is told by the history. -/
theorem Follows.apply {c : OtaComponent} {log : List OtaCall} (h : c.Follows log)
    (cast : UndefinedCast) (op : OtaOp) : (c.apply cast op).Follows (log ++ [c.call cast op]) := by
  cases op with
  | eventPort event_out => exact h.other rfl rfl rfl rfl rfl
  | ingestChunk data => exact h.ingestChunk data
  | handleCommand cmd host =>
    simp only [OtaComponent.apply, OtaComponent.handleCommand, call]
    split_ifs with _ hbad _ _ _ hverify hreset hstage hreset
    · have hbegin := h.beginSession (sanitizeByteCount cast cmd.argument).toNat
      rwa [if_pos hbad] at hbegin
    · have hbegin := h.beginSession (sanitizeByteCount cast cmd.argument).toNat
      rwa [if_neg hbad] at hbegin
    · exact h.ingestChunk _
    · exact h.setExpectedCrcHi16 _
    · exact h.setExpectedCrcLo16 _
    · exact absurd (hverify.symm.trans hreset) (by decide)
    · unfold verifyImage
      split_ifs <;> exact h.other rfl rfl rfl rfl rfl
    · exact absurd (hstage.symm.trans hreset) (by decide)
    · simp only [stageActivate, stageFail]
      split_ifs <;> exact h.other rfl rfl rfl rfl rfl
    · have hidle := follows_resetSession c log
      exact ⟨hidle.session_eq, hidle.image_eq, hidle.hi_eq, hidle.lo_eq⟩
    · exact h.other rfl rfl rfl rfl rfl

/-! ## Runs -/

/-- In every run from `init()` the component holds what the history tells. -/
theorem follows_run (cast : UndefinedCast) (c : OtaComponent) (ops : List OtaOp) :
    (run (apply cast) c.init ops).Follows (history cast c.init ops) := by
  -- The recorded run is the run together with its history.
  have hinit : c.init.Follows [] := ⟨rfl, fun _ => rfl, rfl, rfl⟩
  have hstep (s : OtaComponent × List OtaCall) (op : OtaOp) (h : s.1.Follows s.2) :
      (record cast s op).1.Follows (record cast s op).2 := h.apply cast op
  have hhom (s : OtaComponent × List OtaCall) (op : OtaOp) :
      s.1.apply cast op = (record cast s op).1 := rfl
  have hfst : run (apply cast) c.init ops = (run (record cast) (c.init, []) ops).1 := by
    change List.foldl (apply cast) (c.init, ([] : List OtaCall)).1 ops = _
    exact List.foldl_hom Prod.fst hhom
  rw [hfst]
  exact run_invariant hstep hinit ops

/-- The two bit loops compute the same checksum. -/
theorem crc32_eq_computeCRC32 (data : List UInt8) : crc32 data = ParamDb.computeCRC32 data := by
  have hbyte : crc32Byte = ParamDb.crcByte := by
    funext crc byte
    unfold crc32Byte ParamDb.crcByte
    rw [List.foldl_const, List.length_range]
    rfl
  rw [crc32, ParamDb.computeCRC32, hbyte]

/-- The flag after a verification. -/
theorem Inv.verifyImage_iff {c : OtaComponent} (h : c.Inv) :
    c.verifyImage.image_verified_ = true ↔ c.session_active_ = true ∧ c.image_ ≠ [] ∧
      c.image_.length = c.expected_bytes_ ∧ crc32 c.image_ = c.expected_crc_ := by
  have hlength : c.received_bytes_ = 0 ↔ c.image_ = [] := List.length_eq_zero_iff
  unfold OtaComponent.verifyImage
  split_ifs with hidle hsize hcrc
  · -- Without a session or bytes the flag stays as it was, which is unset.
    refine iff_of_false (fun hver => ?_) fun hdata => ?_
    · change c.image_verified_ = true at hver
      rcases hidle with hidle | hempty
      · exact absurd (hidle.symm.trans (h.active hver)) Bool.false_ne_true
      · obtain ⟨image, crc, -, hpre, hlen, -⟩ := h.last hver
        rw [hlength.mp hempty, List.prefix_nil] at hpre
        rw [hpre] at hlen
        exact h.expected (h.active hver) hlen.symm
    · obtain ⟨hactive, hnonempty, -⟩ := hdata
      rcases hidle with hidle | hempty
      · exact absurd (hidle.symm.trans hactive) Bool.false_ne_true
      · exact hnonempty (hlength.mp hempty)
  · exact iff_of_false not_false fun hdata => hsize.2 hdata.2.2.1
  · obtain ⟨hactive, hnonempty⟩ := not_or.mp hidle
    have hactive : c.session_active_ = true := Bool.eq_true_of_not_eq_false hactive
    refine iff_of_true rfl ⟨hactive, hlength.not.mp hnonempty, ?_, hcrc⟩
    by_contra hne
    exact hsize ⟨h.expected hactive, hne⟩
  · exact iff_of_false Bool.false_ne_true fun hdata => hcrc hdata.2.2.2

/-- A chunk is rejected without a session, without data, and without room for it. -/
theorem ingestChunk_rejected_iff (c : OtaComponent) (data : Option (List UInt8)) :
    (c.ingestChunk data).2 = false ↔
      c.session_active_ = false ∨ data = none ∨ data = some [] ∨
        ∃ bytes, data = some bytes ∧ MAX_IMAGE_BYTES < c.received_bytes_ + bytes.length := by
  rcases c.ingestChunk_cases data with ⟨bytes, hle, rfl, ⟨hactive, hlen, hroom⟩, heq⟩ | ⟨hnot, heq⟩
  · rw [heq]
    refine iff_of_false nofun ?_
    rintro (hidle | hnull | hempty | ⟨bytes', hsome, hfull⟩)
    · exact absurd (hidle.symm.trans hactive) Bool.false_ne_true
    · cases hnull
    · obtain rfl := Option.some.inj hempty
      exact hlen rfl
    · obtain rfl := Option.some.inj hsome
      exact absurd hroom (not_le.mpr hfull)
  · rw [heq]
    refine iff_of_true rfl ?_
    by_contra hall
    obtain ⟨hactive, hnull, hempty, hfull⟩ : c.session_active_ ≠ false ∧ data ≠ none ∧
        data ≠ some [] ∧ ∀ bytes, data = some bytes →
          ¬MAX_IMAGE_BYTES < c.received_bytes_ + bytes.length := by
      simpa only [not_or, not_exists, not_and] using hall
    obtain ⟨bytes, rfl⟩ := Option.ne_none_iff_exists'.mp hnull
    have hlen : bytes.length ≠ 0 := fun hzero =>
      hempty (congrArg some (List.length_eq_zero_iff.mp hzero))
    exact hnot bytes rfl
      ⟨Bool.eq_true_of_not_eq_false hactive, hlen, not_lt.mp (hfull bytes rfl)⟩

/-- The verdict in every run. A verification sets the flag exactly when a session is open, bytes have
been accepted since it began, these have the announced length, and their CRC is that of the last
words since the reset. A chunk is rejected exactly when there is no session, no data, or no room,
and a rejected chunk and a rejected begin leave the session as it is. The two checksum functions
agree. -/
theorem verify_verdict (cast : UndefinedCast) (start : OtaComponent) (ops : List OtaOp) :
    let c := run (apply cast) start.init ops
    let log := history cast start.init ops
    (∀ cmd host, cmd.opcode = OP_VERIFY_IMAGE →
      ((c.handleCommand cast cmd host).image_verified_ = true ↔
        ∃ expected, OtaCall.session log = some expected ∧ OtaCall.image log ≠ [] ∧
          (OtaCall.image log).length = expected ∧ crc32 (OtaCall.image log) = OtaCall.crc log)) ∧
      (∀ data, ((c.ingestChunk data).2 = false ↔
          c.session_active_ = false ∨ data = none ∨ data = some [] ∨
            ∃ bytes, data = some bytes ∧ MAX_IMAGE_BYTES < c.received_bytes_ + bytes.length) ∧
        ((c.ingestChunk data).2 = false → c.SameSession (c.ingestChunk data).1)) ∧
      (∀ expected, expected = 0 ∨ MAX_IMAGE_BYTES < expected →
        c.SameSession (c.beginSession expected)) ∧
      ∀ data, crc32 data = ParamDb.computeCRC32 data := by
  intro c log
  have hinv : c.Inv := inv_run cast start ops
  have hfollows : c.Follows log := follows_run cast start ops
  refine ⟨fun cmd host hopcode => ?_, fun data => ?_, fun expected hbad => ?_,
    crc32_eq_computeCRC32⟩
  · have hverify : c.handleCommand cast cmd host = c.verifyImage := by
      unfold handleCommand
      rw [hopcode]
      rfl
    -- The expected CRC is made of the last two words that were commanded.
    have hcrc : OtaCall.crc log = c.expected_crc_ := by
      rw [hinv.word, hfollows.hi_eq, hfollows.lo_eq]
      rfl
    rw [hverify, hinv.verifyImage_iff, hfollows.session_eq, hcrc]
    constructor
    · rintro ⟨hactive, hnonempty, hlen, heq⟩
      rw [hfollows.image_eq hactive] at hnonempty hlen heq
      exact ⟨c.expected_bytes_, if_pos hactive, hnonempty, hlen, heq⟩
    · rintro ⟨expected, hsession, hnonempty, hlen, heq⟩
      obtain ⟨hactive, hsize⟩ := Option.ite_none_right_eq_some.mp hsession
      obtain rfl := Option.some.inj hsize
      rw [← hfollows.image_eq hactive] at hnonempty hlen heq
      exact ⟨hactive, hnonempty, hlen, heq⟩
  · refine ⟨c.ingestChunk_rejected_iff data, fun hrejected => ?_⟩
    rcases c.ingestChunk_cases data with ⟨bytes, hle, -, -, heq⟩ | ⟨-, heq⟩
    · rw [heq] at hrejected
      cases hrejected
    · rw [heq]
      exact ⟨rfl, rfl, rfl, rfl, rfl, rfl, rfl, rfl⟩
  · unfold beginSession
    rw [if_pos hbad]
    exact ⟨rfl, rfl, rfl, rfl, rfl, rfl, rfl, rfl⟩

end OtaComponent

end DeltaV
