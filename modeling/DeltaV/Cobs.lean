import DeltaV.Lib.ByteStuffing
import Mathlib.Data.Vector.Basic

/-!
# The COBS framing

`encode` leaves room for the distance of a run and fills it in when the run ends; `Writing` says
what its buffer holds meanwhile. What it writes is the stuffed form of the payload and the delimiter
(`encode_spec`), and `decode` takes the stuffed form back to the payload (`decode_frame`). A write
that would leave the buffer has no result.
-/

namespace DeltaV

namespace Cobs

/-- The largest size of the frame of a payload. -/
def encodedMaxSize (payload_len : ℕ) : ℕ := payload_len + payload_len / 254 + 2

/-- `output[pos] = byte;`. -/
def store {output_max : ℕ} (output : Vector UInt8 output_max) (pos : ℕ) (byte : UInt8) :
    Option (Vector UInt8 output_max) :=
  if h : pos < output_max then some (output.set pos byte h) else none

/-- The variables of the loop of `encode`. -/
structure EncodeState (output_max : ℕ) where
  output : Vector UInt8 output_max
  write_pos : ℕ
  /-- Where the distance of the current run goes. -/
  code_pos : ℕ
  code : UInt8

/-- One pass of the loop of `encode`. -/
def encodeByte {output_max : ℕ} (s : EncodeState output_max) (byte : UInt8) :
    Option (EncodeState output_max) :=
  if byte ≠ 0 then do
    let output ← store s.output s.write_pos byte
    let code := s.code + 1
    if code = 0xFF then do
      let output ← store output s.code_pos code
      let output ← store output (s.write_pos + 1) 0xFF
      some ⟨output, s.write_pos + 2, s.write_pos + 1, 1⟩
    else some ⟨output, s.write_pos + 1, s.code_pos, code⟩
  else do
    let output ← store s.output s.code_pos s.code
    let output ← store output s.write_pos 0xFF
    some ⟨output, s.write_pos + 1, s.write_pos, 1⟩

/-- Encodes a payload; returns the buffer and the number of bytes written, which is zero when the
buffer is too small. -/
def encode {output_max : ℕ} (input : List UInt8) (output : Vector UInt8 output_max) :
    Option (Vector UInt8 output_max × ℕ) :=
  if output_max < encodedMaxSize input.length then some (output, 0)
  else do
    let output ← store output 0 0xFF
    let s ← input.foldlM encodeByte ⟨output, 1, 0, 1⟩
    let output ← store s.output s.code_pos s.code
    let output ← store output s.write_pos 0
    some (output, s.write_pos + 1)

/-- What the loops of `decode` work on: the bytes not read yet, the buffer, and its next place. -/
structure DecodeState (output_max : ℕ) where
  input : List UInt8
  output : Vector UInt8 output_max
  write_pos : ℕ

/-- `if (write_pos >= output_max) return 0; output[write_pos++] = byte;`. -/
def emit {output_max : ℕ} (s : DecodeState output_max) (byte : UInt8) :
    Except (Vector UInt8 output_max) (DecodeState output_max) :=
  if h : s.write_pos < output_max then
    Except.ok { s with output := s.output.set s.write_pos byte h, write_pos := s.write_pos + 1 }
  else Except.error s.output

/-- The loop that copies a run of the given length. -/
def copyRun {output_max : ℕ} :
    ℕ → DecodeState output_max → Except (Vector UInt8 output_max) (DecodeState output_max)
  | 0, s => Except.ok s
  | count + 1, s =>
    match s.input with
    | [] => Except.error s.output
    | byte :: input => do
      let s ← emit { s with input := input } byte
      copyRun count s

/-- One pass of the loop of `decode`, which has read `code`. -/
def decodeBlock {output_max : ℕ} (code : UInt8) (s : DecodeState output_max) :
    Except (Vector UInt8 output_max) (DecodeState output_max) :=
  if code = 0 then Except.error s.output
  else do
    let s ← copyRun (code.toNat - 1) s
    if code < 0xFF ∧ s.input ≠ [] then emit s 0 else Except.ok s

/-- The loop of `decode`. Every pass reads a byte, so the length of the input is enough fuel. -/
def decodeBlocks {output_max : ℕ} :
    ℕ → DecodeState output_max → Except (Vector UInt8 output_max) (DecodeState output_max)
  | 0, s => Except.ok s
  | fuel + 1, s =>
    match s.input with
    | [] => Except.ok s
    | code :: input => do
      let s ← decodeBlock code { s with input := input }
      decodeBlocks fuel s

/-- Decodes a frame without its delimiter; returns the buffer and the number of bytes decoded,
which is zero after a framing error. -/
def decode {output_max : ℕ} (input : List UInt8) (output : Vector UInt8 output_max) :
    Vector UInt8 output_max × ℕ :=
  if input = [] then (output, 0)
  else
    match decodeBlocks input.length ⟨input, output, 0⟩ with
    | Except.ok s => (s.output, s.write_pos)
    | Except.error output => (output, 0)

/-- The size of the largest command frame. -/
def CMD_FRAME_MAX : ℕ := encodedMaxSize 22

end Cobs

/-- A frame of the size of a command. -/
structure CobsFrame where
  data : Vector UInt8 Cobs.CMD_FRAME_MAX
  encoded_len : ℕ

namespace CobsFrame

/-- Encodes a payload into a frame. -/
def encode (payload : List UInt8) : Option CobsFrame :=
  (Cobs.encode payload (Vector.replicate Cobs.CMD_FRAME_MAX 0)).map fun r => ⟨r.1, r.2⟩

/-- Decodes a frame; returns the buffer, the number of bytes decoded, and whether it was one. -/
def decode {output_max : ℕ} (frame : CobsFrame) (output : Vector UInt8 output_max) :
    Vector UInt8 output_max × ℕ × Bool :=
  if frame.encoded_len = 0 ∨ Cobs.CMD_FRAME_MAX < frame.encoded_len then (output, 0, false)
  else if frame.data.toList[frame.encoded_len - 1]? ≠ some 0 then (output, 0, false)
  else
    let r := Cobs.decode (frame.data.toList.take (frame.encoded_len - 1)) output
    (r.1, r.2, decide (0 < r.2 ∨ (frame.encoded_len = 2 ∧ frame.data.toList[0]? = some 1)))

end CobsFrame

namespace Cobs

open Stuffing

variable {output_max : ℕ}

/-! ## Encoding -/

/-- A write inside the buffer changes one byte. -/
theorem store_spec {output : Vector UInt8 output_max} {pre post : List UInt8} {old : UInt8}
    (h : output.toList = pre ++ old :: post) (byte : UInt8) :
    ∃ output', store output pre.length byte = some output' ∧
      output'.toList = pre ++ byte :: post := by
  have hlen : pre.length < output_max := by
    have := congrArg List.length h
    rw [Vector.length_toList, List.length_append, List.length_cons] at this
    omega
  refine ⟨output.set pre.length byte hlen, dif_pos hlen, ?_⟩
  rw [Vector.toList_set, h, List.set_append_right _ _ le_rfl, Nat.sub_self, List.set_cons_zero]

/-- The buffer holds what has been sent, the place of a distance, the current run, and what was
behind it before. -/
structure Writing (sent run rest : List UInt8) (s : EncodeState output_max) : Prop where
  output : ∃ old, s.output.toList = sent ++ old :: (run ++ rest)
  write_pos : s.write_pos = (sent ++ block run).length
  code_pos : s.code_pos = sent.length
  code : s.code = UInt8.ofNat (run.length + 1)

/-- The next byte goes behind the run. -/
theorem Writing.append {sent run rest : List UInt8} {old : UInt8} {s : EncodeState output_max}
    (h : Writing sent run (old :: rest) s) (byte : UInt8) :
    ∃ output place, store s.output s.write_pos byte = some output ∧
      output.toList = sent ++ place :: (run ++ [byte] ++ rest) := by
  obtain ⟨place, hout⟩ := h.output
  have hsplit : s.output.toList = (sent ++ place :: run) ++ old :: rest := by
    rw [hout, List.append_assoc, List.cons_append]
  obtain ⟨output, hstore, hout'⟩ := store_spec hsplit byte
  have hpos : s.write_pos = (sent ++ place :: run).length := by
    rw [h.write_pos, block, List.length_append, List.length_append, List.length_cons,
      List.length_cons]
  refine ⟨output, place, by rw [hpos, hstore], ?_⟩
  rw [hout', List.append_assoc, List.cons_append, List.append_assoc, List.singleton_append]

/-- The distance of the run is filled in. -/
theorem store_code {output : Vector UInt8 output_max} {sent run rest : List UInt8} {old : UInt8}
    (h : output.toList = sent ++ old :: (run ++ rest)) :
    ∃ output', store output sent.length (UInt8.ofNat (run.length + 1)) = some output' ∧
      output'.toList = sent ++ block run ++ rest := by
  obtain ⟨output', hstore, hout⟩ := store_spec h (UInt8.ofNat (run.length + 1))
  refine ⟨output', hstore, ?_⟩
  rw [hout, block, List.append_assoc, List.cons_append]

/-- A run that has ended is sent, and the place of the next distance is left behind it. -/
theorem store_next {output : Vector UInt8 output_max} {sent rest : List UInt8} {old : UInt8}
    (h : output.toList = sent ++ old :: rest) :
    ∃ output', store output sent.length 0xFF = some output' ∧
      Writing sent [] rest ⟨output', sent.length + 1, sent.length, 1⟩ := by
  obtain ⟨output', hstore, hout⟩ := store_spec h 0xFF
  refine ⟨output', hstore, ⟨0xFF, hout⟩, ?_, rfl, rfl⟩
  rw [List.length_append]
  rfl

/-- A zero byte ends the run. -/
theorem Writing.zero {sent run rest : List UInt8} {old : UInt8} {s : EncodeState output_max}
    (h : Writing sent run (old :: rest) s) :
    ∃ s', encodeByte s 0 = some s' ∧ Writing (sent ++ block run) [] rest s' := by
  obtain ⟨place, hout⟩ := h.output
  obtain ⟨output, hcode, hsent⟩ := store_code hout
  obtain ⟨output', hplace, hwriting⟩ := store_next hsent
  rw [← h.write_pos] at hplace hwriting
  rw [← h.code, ← h.code_pos] at hcode
  refine ⟨_, ?_, hwriting⟩
  simp only [encodeByte, ne_eq, not_true_eq_false, if_false, hcode, hplace, Option.bind_eq_bind,
    Option.bind_some]

/-- The distance behind one more byte. -/
theorem Writing.code_add_one {sent run rest : List UInt8} {s : EncodeState output_max}
    (h : Writing sent run rest s) (byte : UInt8) :
    s.code + 1 = UInt8.ofNat ((run ++ [byte]).length + 1) := by
  rw [h.code, List.length_append, List.length_singleton, UInt8.ofNat_add (run.length + 1)]
  rfl

/-- A nonzero byte goes into the run, if the run is not full then. -/
theorem Writing.nonzero {sent run rest : List UInt8} {old byte : UInt8}
    {s : EncodeState output_max} (h : Writing sent run (old :: rest) s) (hrun : Open run)
    (hbyte : byte ≠ 0) (hroom : run.length + 1 ≠ MAX_RUN) :
    ∃ s', encodeByte s byte = some s' ∧ Writing sent (run ++ [byte]) rest s' := by
  obtain ⟨output, place, hstore, hout⟩ := h.append byte
  have hcode : s.code + 1 ≠ 0xFF := by
    intro heq
    have hnext := distance_toNat (Nat.le_of_lt (hrun.concat hbyte hroom).short)
    rw [← h.code_add_one, heq, List.length_append, List.length_singleton] at hnext
    exact hroom (Nat.succ.inj hnext).symm
  refine ⟨⟨output, s.write_pos + 1, s.code_pos, s.code + 1⟩, ?_, ⟨place, hout⟩, ?_, h.code_pos,
    h.code_add_one byte⟩
  · simp only [encodeByte, ne_eq, hbyte, not_false_eq_true, if_true, hstore, Option.bind_eq_bind,
      Option.bind_some, hcode, if_false]
  · simp only [h.write_pos, block, List.length_append, List.length_cons, List.length_nil]
    omega

/-- A nonzero byte that makes the run full ends it. -/
theorem Writing.full {sent run rest : List UInt8} {old old' byte : UInt8}
    {s : EncodeState output_max} (h : Writing sent run (old :: old' :: rest) s) (hbyte : byte ≠ 0)
    (hfull : run.length + 1 = MAX_RUN) :
    ∃ s', encodeByte s byte = some s' ∧ Writing (sent ++ block (run ++ [byte])) [] rest s' := by
  obtain ⟨output, place, hstore, hout⟩ := h.append byte
  obtain ⟨output', hcode, hsent⟩ := store_code hout
  obtain ⟨output'', hplace, hwriting⟩ := store_next hsent
  have hlen : (run ++ [byte]).length = MAX_RUN := by
    rw [List.length_append, List.length_singleton, hfull]
  have hFF : s.code + 1 = 0xFF := by
    rw [h.code_add_one byte, hlen]
    rfl
  have hpos : (sent ++ block (run ++ [byte])).length = s.write_pos + 1 := by
    simp only [h.write_pos, block, List.length_append, List.length_cons, List.length_nil]
    omega
  rw [← h.code_add_one, ← h.code_pos, hFF] at hcode
  rw [hpos] at hplace hwriting
  refine ⟨_, ?_, hwriting⟩
  simp only [encodeByte, ne_eq, hbyte, not_false_eq_true, if_true, hstore, Option.bind_eq_bind,
    Option.bind_some, hFF, hcode, hplace]

/-- A pass of the loop leaves as much to send as before, and room for it. -/
theorem Writing.encodeByte {input sent run rest : List UInt8} {byte : UInt8}
    {s : EncodeState output_max} (h : Writing sent run rest s) (hrun : Open run)
    (hroom : (stuff run (byte :: input)).length ≤ run.length + rest.length) :
    ∃ s' sent' run' rest', Cobs.encodeByte s byte = some s' ∧ Writing sent' run' rest' s' ∧
      Open run' ∧ sent' ++ stuff run' input = sent ++ stuff run (byte :: input) ∧ rest' <:+ rest ∧
      (stuff run' input).length ≤ run'.length + rest'.length := by
  have hnext := lt_length_stuff [] input
  rw [stuff] at hroom ⊢
  split_ifs at hroom ⊢ with hzero hfull
  · subst hzero
    simp only [block, List.length_append, List.length_cons, List.length_nil] at hroom hnext
    obtain ⟨old, rest, rfl⟩ := List.exists_cons_of_ne_nil
      (List.ne_nil_of_length_pos (show 0 < rest.length by omega))
    obtain ⟨s', hbyte, hwriting⟩ := h.zero
    rw [List.length_cons] at hroom
    exact ⟨s', _, _, rest, hbyte, hwriting, Open.nil, List.append_assoc _ _ _,
      List.suffix_cons _ _, by rw [List.length_nil]; omega⟩
  · simp only [block, List.length_append, List.length_cons, List.length_nil] at hroom hnext
    -- The byte and the next distance both take a place.
    obtain ⟨old, rest, rfl⟩ := List.exists_cons_of_ne_nil
      (List.ne_nil_of_length_pos (show 0 < rest.length by omega))
    rw [List.length_cons] at hroom
    obtain ⟨old', rest, rfl⟩ := List.exists_cons_of_ne_nil
      (List.ne_nil_of_length_pos (show 0 < rest.length by omega))
    obtain ⟨s', hbyte, hwriting⟩ := h.full hzero hfull
    rw [List.length_cons] at hroom
    exact ⟨s', _, _, rest, hbyte, hwriting, Open.nil, List.append_assoc _ _ _,
      (List.suffix_cons _ _).trans (List.suffix_cons _ _), by rw [List.length_nil]; omega⟩
  · have hgrow := lt_length_stuff (run ++ [byte]) input
    rw [List.length_append, List.length_singleton] at hgrow
    obtain ⟨old, rest, rfl⟩ := List.exists_cons_of_ne_nil
      (List.ne_nil_of_length_pos (show 0 < rest.length by omega))
    obtain ⟨s', hbyte, hwriting⟩ := h.nonzero hrun hzero hfull
    rw [List.length_cons] at hroom
    exact ⟨s', _, _, rest, hbyte, hwriting, hrun.concat hzero hfull, rfl, List.suffix_cons _ _,
      by rw [List.length_append, List.length_singleton]; omega⟩

/-- The loop writes the stuffed form of the run and the input, up to the last block, whose distance
is missing. -/
theorem foldlM_encodeByte (input : List UInt8) {sent run rest : List UInt8}
    {s : EncodeState output_max} (h : Writing sent run rest s) (hrun : Open run)
    (hroom : (stuff run input).length ≤ run.length + rest.length) :
    ∃ s' sent' run' rest', input.foldlM Cobs.encodeByte s = some s' ∧ Writing sent' run' rest' s' ∧
      sent' ++ block run' = sent ++ stuff run input ∧ rest' <:+ rest ∧ rest' ≠ [] := by
  induction input generalizing sent run rest s with
  | nil =>
    refine ⟨s, sent, run, rest, rfl, h, rfl, List.suffix_refl _, ?_⟩
    rintro rfl
    rw [stuff, block, List.length_cons, List.length_nil] at hroom
    omega
  | cons byte input ih =>
    obtain ⟨s₁, sent₁, run₁, rest₁, hbyte, h₁, hrun₁, hsent₁, hsuffix₁, hroom₁⟩ :=
      h.encodeByte hrun hroom
    obtain ⟨s', sent', run', rest', hloop, h', hsent, hsuffix, hne⟩ := ih h₁ hrun₁ hroom₁
    refine ⟨s', sent', run', rest', ?_, h', hsent.trans hsent₁, hsuffix.trans hsuffix₁, hne⟩
    rw [List.foldlM_cons, hbyte]
    exact hloop

/-- The frame of a payload, without its delimiter. -/
def frame (input : List UInt8) : List UInt8 := stuff [] input

/-- The frame and the delimiter fit the largest size. -/
theorem length_frame_lt (input : List UInt8) :
    (frame input).length < encodedMaxSize input.length := by
  have hle := length_stuff_le Open.nil input
  rw [List.length_nil, Nat.zero_add] at hle
  have hmax : MAX_RUN = 254 := rfl
  rw [frame, encodedMaxSize, ← hmax]
  omega

/-- A buffer that is large enough receives the frame and the delimiter, and keeps the rest. -/
theorem encode_spec (input : List UInt8) (output : Vector UInt8 output_max)
    (hmax : encodedMaxSize input.length ≤ output_max) :
    ∃ output', encode input output = some (output', (frame input).length + 1) ∧
      output'.toList = frame input ++ 0 :: output.toList.drop ((frame input).length + 1) := by
  have hfit := length_frame_lt input
  have htotal : output.toList.length = output_max := Vector.length_toList
  obtain ⟨old, rest, hout⟩ := List.exists_cons_of_ne_nil
    (List.ne_nil_of_length_pos (show 0 < output.toList.length by omega))
  rw [hout, List.length_cons] at htotal
  rw [← List.nil_append (old :: rest)] at hout
  obtain ⟨output₁, hstore, hstart⟩ := store_next hout
  obtain ⟨s, sent, run, rest', hloop, hwriting, hsent, hsuffix, hne⟩ :=
    foldlM_encodeByte input hstart Open.nil
      (by rw [List.length_nil]; unfold frame at hfit; omega)
  obtain ⟨last, rest'', rfl⟩ := List.exists_cons_of_ne_nil hne
  -- The last distance, and the delimiter behind the last run.
  obtain ⟨place, hbuf⟩ := hwriting.output
  obtain ⟨output₂, hcode, hblock⟩ := store_code hbuf
  obtain ⟨output₃, hdelim, hfinal⟩ := store_spec hblock 0
  rw [← hwriting.code, ← hwriting.code_pos] at hcode
  rw [← hwriting.write_pos] at hdelim
  have hpos : s.write_pos = (frame input).length := by
    rw [hwriting.write_pos, hsent]
    rfl
  refine ⟨output₃, ?_, ?_⟩
  · change store output 0 0xFF = some output₁ at hstore
    change input.foldlM Cobs.encodeByte ⟨output₁, 1, 0, 1⟩ = some s at hloop
    rw [encode, if_neg (not_lt.mpr hmax), ← hpos]
    simp only [hstore, hloop, hcode, hdelim, Option.bind_eq_bind, Option.bind_some]
  · -- What is behind the delimiter is a suffix of the buffer of the length that is left.
    have hlen := congrArg List.length hfinal
    rw [hsent, Vector.length_toList, List.length_append, List.length_cons] at hlen
    change _ = (frame input).length + _ at hlen
    have hrest : rest'' <:+ output.toList := by
      rw [hout]
      exact ((List.suffix_cons _ _).trans hsuffix).trans (List.suffix_cons _ _)
    have hdrop := List.suffix_iff_eq_drop.mp hrest
    rw [Vector.length_toList,
      show output_max - rest''.length = (frame input).length + 1 by omega] at hdrop
    rw [hfinal, hsent, ← hdrop]
    rfl

/-! ## Decoding -/

/-- What the decoder reads next, and the places of its buffer that it has filled, fills next and
leaves. -/
structure Reading (input out rest : List UInt8) (s : DecodeState output_max) : Prop where
  input : s.input = input
  output : s.output.toList = out ++ rest
  write_pos : s.write_pos = out.length

/-- A byte is written while there is room. -/
theorem Reading.emit {input out rest : List UInt8} {old : UInt8} {s : DecodeState output_max}
    (h : Reading input out (old :: rest) s) (byte : UInt8) :
    ∃ s', Cobs.emit s byte = Except.ok s' ∧ Reading input (out ++ [byte]) rest s' := by
  have hlen : s.write_pos < output_max := by
    have := congrArg List.length h.output
    rw [Vector.length_toList, List.length_append, List.length_cons] at this
    rw [h.write_pos]
    omega
  refine ⟨_, dif_pos hlen, h.input, ?_, ?_⟩
  · rw [Vector.toList_set, h.output, h.write_pos, List.set_append_right _ _ le_rfl, Nat.sub_self,
      List.set_cons_zero, List.append_assoc, List.singleton_append]
  · rw [List.length_append, List.length_singleton, ← h.write_pos]

/-- A run is copied. -/
theorem Reading.copyRun {input out rest run : List UInt8} {s : DecodeState output_max}
    (h : Reading (run ++ input) out rest s) (hroom : run.length ≤ rest.length) :
    ∃ s', Cobs.copyRun run.length s = Except.ok s' ∧
      Reading input (out ++ run) (rest.drop run.length) s' := by
  induction run generalizing out rest s with
  | nil =>
    refine ⟨s, rfl, ?_⟩
    rw [List.append_nil]
    exact h
  | cons byte run ih =>
    rw [List.length_cons] at hroom
    obtain ⟨old, rest, rfl⟩ := List.exists_cons_of_ne_nil
      (List.ne_nil_of_length_pos (show 0 < rest.length by omega))
    have hread : Reading (run ++ input) out (old :: rest) { s with input := run ++ input } :=
      ⟨rfl, h.output, h.write_pos⟩
    obtain ⟨s₁, hemit, h₁⟩ := hread.emit byte
    rw [List.length_cons] at hroom
    obtain ⟨s', hcopy, h'⟩ := ih h₁ (by omega)
    refine ⟨s', ?_, ?_⟩
    · rw [List.length_cons, Cobs.copyRun, h.input]
      simp only [List.cons_append, hemit]
      exact hcopy
    · rw [List.append_assoc, List.singleton_append] at h'
      exact h'

/-- A block is copied, and a zero byte behind it unless it is full or the last. -/
theorem Reading.decodeBlock {input out rest run : List UInt8} {s : DecodeState output_max}
    (h : Reading (run ++ input) out rest s) (hrun : run.length ≤ MAX_RUN)
    (hroom : run.length ≤ rest.length) :
    ∃ s₁, Reading input (out ++ run) (rest.drop run.length) s₁ ∧
      Cobs.decodeBlock (UInt8.ofNat (run.length + 1)) s =
        if run.length < MAX_RUN ∧ input ≠ [] then Cobs.emit s₁ 0 else Except.ok s₁ := by
  obtain ⟨s₁, hcopy, h₁⟩ := h.copyRun hroom
  have hdistance := distance_toNat hrun
  have hmax : MAX_RUN = 254 := rfl
  have hzero : UInt8.ofNat (run.length + 1) ≠ 0 := by
    intro heq
    rw [heq] at hdistance
    cases hdistance
  have hfull : UInt8.ofNat (run.length + 1) < 0xFF ↔ run.length < MAX_RUN := by
    rw [UInt8.lt_iff_toNat_lt, hdistance, hmax]
    show run.length + 1 < 255 ↔ _
    omega
  refine ⟨s₁, h₁, ?_⟩
  rw [Cobs.decodeBlock, if_neg hzero, hdistance, Nat.add_sub_cancel, hcopy]
  change (if _ ∧ s₁.input ≠ [] then Cobs.emit s₁ 0 else Except.ok s₁) = _
  simp only [hfull, h₁.input]

/-- Nothing is left to read. -/
theorem decodeBlocks_nil {fuel : ℕ} {s : DecodeState output_max} (h : s.input = []) :
    decodeBlocks fuel s = Except.ok s := by
  cases fuel with
  | zero => rfl
  | succ fuel => rw [decodeBlocks, h]

/-- A block is read, and the loop goes on behind it. -/
theorem Reading.decodeBlocks {input out rest run : List UInt8} {s : DecodeState output_max}
    (fuel : ℕ) (h : Reading (block run ++ input) out rest s)
    (hrun : run.length ≤ MAX_RUN) (hroom : run.length ≤ rest.length) :
    ∃ s₁, Reading input (out ++ run) (rest.drop run.length) s₁ ∧
      Cobs.decodeBlocks (fuel + 1) s =
        (if run.length < MAX_RUN ∧ input ≠ [] then Cobs.emit s₁ 0 else Except.ok s₁) >>=
          Cobs.decodeBlocks fuel := by
  have hbehind : Reading (run ++ input) out rest { s with input := run ++ input } :=
    ⟨rfl, h.output, h.write_pos⟩
  obtain ⟨s₁, h₁, hblock⟩ := hbehind.decodeBlock hrun hroom
  refine ⟨s₁, h₁, ?_⟩
  rw [Cobs.decodeBlocks, h.input, block, List.cons_append, ← hblock]

/-- A run that is not full is read, and the zero byte that ended it is written again. -/
theorem Reading.decodeBlocks_zero {input out rest run : List UInt8} {s : DecodeState output_max}
    (fuel : ℕ) (h : Reading (block run ++ input) out rest s) (hrun : run.length < MAX_RUN)
    (hinput : input ≠ []) (hroom : run.length < rest.length) :
    ∃ s₁, Reading input (out ++ run ++ [0]) (rest.drop (run.length + 1)) s₁ ∧
      Cobs.decodeBlocks (fuel + 1) s = Cobs.decodeBlocks fuel s₁ := by
  obtain ⟨s₁, h₁, hloop⟩ := h.decodeBlocks fuel hrun.le hroom.le
  rw [if_pos ⟨hrun, hinput⟩] at hloop
  have hlen : (rest.drop run.length).length = rest.length - run.length := List.length_drop
  obtain ⟨old, left, hdrop⟩ := List.exists_cons_of_ne_nil
    (List.ne_nil_of_length_pos (show 0 < (rest.drop run.length).length by omega))
  rw [hdrop] at h₁
  obtain ⟨s₂, hemit, h₂⟩ := h₁.emit 0
  have hleft : rest.drop (run.length + 1) = left := by
    rw [← List.drop_drop, hdrop, List.drop_succ_cons, List.drop_zero]
  rw [hleft]
  exact ⟨s₂, h₂, by rw [hloop, hemit]; rfl⟩

/-- The stuffed form of a run and of the bytes behind it is decoded to the run and the bytes. -/
theorem decodeBlocks_stuff {bytes run out rest : List UInt8} {fuel : ℕ} {s : DecodeState output_max}
    (h : Reading (stuff run bytes) out rest s) (hrun : Open run)
    (hfuel : (stuff run bytes).length ≤ fuel) (hroom : run.length + bytes.length ≤ rest.length) :
    ∃ s', decodeBlocks fuel s = Except.ok s' ∧
      Reading [] (out ++ run ++ bytes) (rest.drop (run.length + bytes.length)) s' := by
  induction bytes generalizing run out rest fuel s with
  | nil =>
    obtain ⟨fuel, rfl⟩ := Nat.exists_eq_succ_of_ne_zero
      (Nat.ne_of_gt (lt_of_lt_of_le (Nat.zero_lt_of_lt (lt_length_stuff run [])) hfuel))
    rw [stuff, ← List.append_nil (block run)] at h
    obtain ⟨s₁, h₁, hloop⟩ := h.decodeBlocks fuel (Nat.le_of_lt hrun.short) (by omega)
    -- No zero byte is meant behind the last run.
    refine ⟨s₁, ?_, ?_⟩
    · rw [hloop, if_neg (by simp)]
      exact decodeBlocks_nil h₁.input
    · rw [List.append_nil]
      exact h₁
  | cons byte bytes ih =>
    obtain ⟨fuel, rfl⟩ := Nat.exists_eq_succ_of_ne_zero
      (Nat.ne_of_gt (Nat.lt_of_lt_of_le
        (Nat.zero_lt_of_lt (lt_length_stuff run (byte :: bytes))) hfuel))
    rw [stuff] at h hfuel
    rw [List.length_cons] at hroom
    have hend : (rest.drop (run.length + 1)).drop (([] : List UInt8).length + bytes.length) =
        rest.drop (run.length + (bytes.length + 1)) := by
      rw [List.drop_drop, List.length_nil]
      congr 1
      omega
    split_ifs at h hfuel with hzero hfull
    · subst hzero
      have hmore : stuff [] bytes ≠ [] :=
        List.ne_nil_of_length_pos (Nat.zero_lt_of_lt (lt_length_stuff [] bytes))
      rw [List.length_append, block, List.length_cons] at hfuel
      obtain ⟨s₁, h₁, hloop⟩ := h.decodeBlocks_zero fuel hrun.short hmore (by omega)
      obtain ⟨s', hrest, h'⟩ := ih h₁ Open.nil (show _ ≤ fuel by omega)
        (by rw [List.length_nil, List.length_drop]; omega)
      refine ⟨s', hloop.trans hrest, ?_⟩
      rw [hend] at h'
      simpa using h'
    · have hlen : (run ++ [byte]).length = MAX_RUN := List.length_append.trans hfull
      have hmax : MAX_RUN = 254 := rfl
      rw [List.length_append, block, List.length_cons, hlen] at hfuel
      obtain ⟨s₁, h₁, hloop⟩ := h.decodeBlocks fuel hlen.le (by omega)
      -- No zero byte is meant behind a full run.
      rw [if_neg (fun hshort => hshort.1.ne hlen)] at hloop
      rw [List.length_append, List.length_singleton] at h₁
      obtain ⟨s', hrest, h'⟩ := ih h₁ Open.nil (show _ ≤ fuel by omega)
        (by rw [List.length_nil, List.length_drop]; omega)
      refine ⟨s', hloop.trans hrest, ?_⟩
      rw [hend] at h'
      simpa using h'
    · obtain ⟨s', hrest, h'⟩ := ih h (hrun.concat hzero hfull) hfuel
        (by rw [List.length_append, List.length_singleton]; omega)
      refine ⟨s', hrest, ?_⟩
      rw [List.length_append, List.length_singleton, Nat.add_assoc, Nat.add_comm 1] at h'
      simpa using h'

/-- The frame of a payload is decoded to the payload, at the front of a buffer it fits. -/
theorem decode_frame (payload : List UInt8) (output : Vector UInt8 output_max)
    (hmax : payload.length ≤ output_max) :
    (decode (frame payload) output).2 = payload.length ∧
      (decode (frame payload) output).1.toList =
        payload ++ output.toList.drop payload.length := by
  have hstart : Reading (frame payload) [] output.toList ⟨frame payload, output, 0⟩ :=
    ⟨rfl, rfl, rfl⟩
  obtain ⟨s, hloop, hs⟩ := decodeBlocks_stuff hstart Open.nil
    (Nat.le_refl (frame payload).length) (by
    rw [List.length_nil, Nat.zero_add, Vector.length_toList]
    exact hmax)
  have hne : frame payload ≠ [] :=
    List.ne_nil_of_length_pos (Nat.zero_lt_of_lt (lt_length_stuff [] payload))
  rw [decode, if_neg hne, hloop]
  have hout := hs.output
  rw [List.length_nil, Nat.zero_add] at hout
  exact ⟨hs.write_pos, hout⟩

/-- A command frame takes a payload of up to 22 bytes. -/
theorem encodedMaxSize_le_iff (n : ℕ) : encodedMaxSize n ≤ CMD_FRAME_MAX ↔ n ≤ 22 := by
  show n + n / 254 + 2 ≤ 24 ↔ n ≤ 22
  omega

/-- A command frame is decoded to the payload it was made of. -/
theorem decode_encode (payload : List UInt8) (h : payload.length ≤ 22)
    (output : Vector UInt8 output_max) (hmax : payload.length ≤ output_max) :
    ∃ f, CobsFrame.encode payload = some f ∧
      (f.decode output).2 = (payload.length, true) ∧
      (f.decode output).1.toList = payload ++ output.toList.drop payload.length := by
  obtain ⟨data, hencode, hdata⟩ := encode_spec payload (Vector.replicate CMD_FRAME_MAX 0)
    ((encodedMaxSize_le_iff _).mpr h)
  have hfit : (frame payload).length < CMD_FRAME_MAX :=
    Nat.lt_of_lt_of_le (length_frame_lt payload) ((encodedMaxSize_le_iff _).mpr h)
  obtain ⟨hlen, hout⟩ := decode_frame payload output hmax
  refine ⟨⟨data, (frame payload).length + 1⟩, by rw [CobsFrame.encode, hencode]; rfl, ?_⟩
  have hdelim : data.toList[(frame payload).length]? = some 0 := by
    rw [hdata, List.getElem?_append_right (Nat.le_refl _), Nat.sub_self, List.getElem?_cons_zero]
  have hbody : data.toList.take (frame payload).length = frame payload := by
    rw [hdata, List.take_left]
  have hsize : ¬((frame payload).length + 1 = 0 ∨ CMD_FRAME_MAX < (frame payload).length + 1) := by
    omega
  rw [CobsFrame.decode, if_neg hsize, Nat.add_sub_cancel, if_neg (not_not.mpr hdelim), hbody]
  refine ⟨Prod.ext hlen (decide_eq_true ?_), hout⟩
  -- Only the frame of the empty payload is decoded to nothing.
  cases payload with
  | nil => exact Or.inr ⟨rfl, by rw [hdata]; rfl⟩
  | cons byte bytes =>
    left
    rw [hlen, List.length_cons]
    omega

/-- A payload is framed within the buffer and without a zero byte before the delimiter, and its
frame is decoded to it; a command frame takes every payload of up to 22 bytes and no other. -/
theorem round_trip (payload : List UInt8) :
    (∀ {output_max : ℕ} (output : Vector UInt8 output_max),
      encodedMaxSize payload.length ≤ output_max →
      ∃ output' body, encode payload output = some (output', body.length + 1) ∧
        body.length + 1 ≤ encodedMaxSize payload.length ∧
        output'.toList = body ++ 0 :: output.toList.drop (body.length + 1) ∧ 0 ∉ body ∧
        ∀ {decoded_max : ℕ} (decoded : Vector UInt8 decoded_max), payload.length ≤ decoded_max →
          (decode body decoded).2 = payload.length ∧
          (decode body decoded).1.toList = payload ++ decoded.toList.drop payload.length) ∧
    (payload.length ≤ 22 →
      ∀ {decoded_max : ℕ} (decoded : Vector UInt8 decoded_max), payload.length ≤ decoded_max →
        ∃ f, CobsFrame.encode payload = some f ∧ (f.decode decoded).2 = (payload.length, true) ∧
          (f.decode decoded).1.toList = payload ++ decoded.toList.drop payload.length) ∧
    (22 < payload.length → ∃ f, CobsFrame.encode payload = some f ∧ f.encoded_len = 0) := by
  refine ⟨fun output hmax => ?_, fun h _ decoded hmax => decode_encode payload h decoded hmax,
    fun h => ?_⟩
  · obtain ⟨output', hencode, hout⟩ := encode_spec payload output hmax
    exact ⟨output', frame payload, hencode, length_frame_lt payload, hout,
      zero_notMem_stuff Open.nil payload, fun decoded => decode_frame payload decoded⟩
  · have hsmall : CMD_FRAME_MAX < encodedMaxSize payload.length :=
      Nat.lt_of_not_le ((encodedMaxSize_le_iff _).not.mpr (Nat.not_le_of_lt h))
    exact ⟨⟨Vector.replicate CMD_FRAME_MAX 0, 0⟩,
      by rw [CobsFrame.encode, encode, if_pos hsmall]; rfl, rfl⟩

example : (CobsFrame.encode [1, 0, 2]).map (fun f => f.data.toList.take f.encoded_len) =
    some [2, 1, 2, 2, 0] := by decide

end Cobs

end DeltaV
