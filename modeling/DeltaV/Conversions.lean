import DeltaV.Cfdp
import DeltaV.FloatWords
import DeltaV.Ota.Model

/-!
# Conversions that are executed

`sanitizeU16`, `sanitizeByteCount`, and `toIndex` compare a float with two limits and convert it when
it lies between them. A comparison with a NaN fails, so a NaN passes both and is converted, which has
no defined result; every other conversion that is executed is defined (`conversions_defined_iff`).
The results of undefined conversions, which the models take as parameters, matter for these only
(`sanitizeU16_congr_iff` and the like).
-/

namespace DeltaV

/-- A conversion of a float to an unsigned type of a width. -/
structure FloatCast where
  width : ℕ
  value : Binary32

/-- The value is finite, and truncated it is in the range of the type. -/
def FloatCast.Defined (x : FloatCast) : Prop :=
  x.value.IsFinite ∧ 0 ≤ x.value.trunc ∧ x.value.trunc < 2^x.width

/-- The conversion that is executed when neither guard has returned. -/
def guardedCasts (low high : Prop) [Decidable low] [Decidable high] (width : ℕ) (value : Binary32) :
    List FloatCast :=
  if low then [] else if high then [] else [⟨width, value⟩]

namespace OtaComponent

/-- The conversion in `sanitizeU16`. -/
def sanitizeU16Casts (value : Binary32) : List FloatCast :=
  guardedCasts (value < Binary32.ofNat 0) (Binary32.ofNat 65535 < value) 16 value

/-- The conversion in `sanitizeByteCount`. -/
def sanitizeByteCountCasts (value : Binary32) : List FloatCast :=
  guardedCasts (value < Binary32.ofNat 0) (Binary32.ofNat MAX_IMAGE_BYTES < value) 32 value

/-- The conversions in `handleCommand`. -/
def casts (cmd : CommandPacket) : List FloatCast :=
  if cmd.opcode = OP_BEGIN_SESSION then sanitizeByteCountCasts cmd.argument
  else if cmd.opcode = OP_PUSH_TEST_BYTE then sanitizeU16Casts cmd.argument
  else if cmd.opcode = OP_SET_EXPECTED_CRC_HI16 then sanitizeU16Casts cmd.argument
  else if cmd.opcode = OP_SET_EXPECTED_CRC_LO16 then sanitizeU16Casts cmd.argument
  else []

end OtaComponent

namespace CfdpComponent

/-- The conversion in `toIndex`. -/
def toIndexCasts (value : Binary32) : List FloatCast :=
  guardedCasts (value ≤ Binary32.ofNat 0) (Binary32.ofNat MAX_CHUNKS ≤ value) 64 value

/-- The conversions in `handleCommand`. -/
def casts (cmd : CommandPacket) : List FloatCast :=
  if cmd.opcode = OP_BEGIN_SESSION then toIndexCasts cmd.argument
  else if cmd.opcode = OP_SET_CHUNK_INDEX then toIndexCasts cmd.argument
  else if cmd.opcode = OP_PUSH_TEST_BYTE then toIndexCasts cmd.argument
  else []

end CfdpComponent

/-! ## Definedness -/

/-- A guarded conversion is defined when its guards leave out what is not. -/
theorem forall_mem_guardedCasts {low high : Prop} [Decidable low] [Decidable high] {width : ℕ}
    {value : Binary32} : (∀ x ∈ guardedCasts low high width value, x.Defined) ↔
      (¬low → ¬high → (FloatCast.mk width value).Defined) := by
  unfold guardedCasts
  split_ifs with hlow hhigh
  · simp [hlow]
  · simp [hhigh]
  · simp [hlow, hhigh]

/-- Guards that let NaNs through, and otherwise only what is in range. -/
theorem guarded_defined_iff {low high : Prop} [Decidable low] [Decidable high] {width : ℕ}
    {value : Binary32} (hlow : low → ¬value.IsNaN) (hhigh : high → ¬value.IsNaN)
    (hrange : ¬value.IsNaN → ¬low → ¬high → (FloatCast.mk width value).Defined) :
    (∀ x ∈ guardedCasts low high width value, x.Defined) ↔ ¬value.IsNaN := by
  rw [forall_mem_guardedCasts]
  constructor
  · intro h hnan
    exact (h (fun hl => hlow hl hnan) fun hh => hhigh hh hnan).1.not_isNaN hnan
  · exact hrange

/-- A defined conversion has a result. -/
theorem toUnsigned_eq_none_iff {width : ℕ} {value : Binary32} :
    value.toUnsigned width = none ↔ ¬(FloatCast.mk width value).Defined := by
  unfold Binary32.toUnsigned FloatCast.Defined
  split_ifs with h
  · exact iff_of_false nofun (not_not_intro h)
  · exact iff_of_true rfl h

/-- Where NaNs are excluded, what does not lie below lies above. -/
theorem Binary32.le_of_not_lt {a b : Binary32} (ha : ¬a.IsNaN) (hb : ¬b.IsNaN) (h : ¬a < b) :
    b ≤ a := by
  by_contra hle
  exact h (Binary32.lt_of_not_le hb ha hle)

/-- Between zero and an integer in range, the conversion is defined. -/
theorem defined_of_le {width n : ℕ} (hn : n < 2^24) (hwidth : n < 2^width) {value : Binary32}
    (hlo : Binary32.ofNat 0 ≤ value) (hhi : value ≤ Binary32.ofNat n) :
    (FloatCast.mk width value).Defined := by
  obtain ⟨hfinite, hulps, hneg⟩ := Binary32.mag_ofNat hn
  have hzero : (Binary32.ofNat 0).key = 0 := by decide +kernel
  have hkey : (Binary32.ofNat n).key = (Binary32.ofNat n).mag := by
    rw [Binary32.key, hneg]
    rfl
  have hlo' : 0 ≤ value.key := hzero ▸ hlo.2.2
  have hhi' : value.key ≤ (Binary32.ofNat n).mag := hkey ▸ hhi.2.2
  unfold Binary32.key at hlo' hhi'
  -- A value with a sign is the negative zero.
  have hsign : value.neg = true → value.mag = 0 := fun h => by
    rw [if_pos h] at hlo'
    omega
  have hmag : value.mag ≤ (Binary32.ofNat n).mag := by
    split_ifs at hhi' with h
    · rw [hsign h]
      exact Nat.zero_le _
    · omega
  have htrunc : value.trunc = (Binary32.ulps value.mag / 2^149 : ℕ) := by
    unfold Binary32.trunc
    split_ifs with h
    · rw [hsign h]
      rfl
    · rfl
  have hle : Binary32.ulps value.mag / 2^149 ≤ n := by
    refine Nat.div_le_of_le_mul ?_
    calc Binary32.ulps value.mag ≤ Binary32.ulps (Binary32.ofNat n).mag :=
          Binary32.ulps_strictMono.monotone hmag
      _ = 2^149 * n := by rw [hulps, Nat.mul_comm]
  refine ⟨hmag.trans_lt hfinite, ?_, ?_⟩
  · change 0 ≤ value.trunc
    rw [htrunc]
    exact Int.natCast_nonneg _
  · change value.trunc < 2^width
    rw [htrunc]
    exact_mod_cast hle.trans_lt hwidth

/-- The conversions of `sanitizeU16` are defined except for a NaN. -/
theorem sanitizeU16_defined_iff (value : Binary32) :
    (∀ x ∈ OtaComponent.sanitizeU16Casts value, x.Defined) ↔ ¬value.IsNaN := by
  refine guarded_defined_iff (fun hlow => hlow.1) (fun hhigh => hhigh.2.1) fun hnan hlow hhigh => ?_
  have hzero : ¬(Binary32.ofNat 0).IsNaN := by decide +kernel
  have hmax : ¬(Binary32.ofNat 65535).IsNaN := by decide +kernel
  exact defined_of_le (by norm_num) (by norm_num) (Binary32.le_of_not_lt hnan hzero hlow)
    (Binary32.le_of_not_lt hmax hnan hhigh)

/-- The conversions of `sanitizeByteCount` are defined except for a NaN. -/
theorem sanitizeByteCount_defined_iff (value : Binary32) :
    (∀ x ∈ OtaComponent.sanitizeByteCountCasts value, x.Defined) ↔ ¬value.IsNaN := by
  refine guarded_defined_iff (fun hlow => hlow.1) (fun hhigh => hhigh.2.1) fun hnan hlow hhigh => ?_
  have hzero : ¬(Binary32.ofNat 0).IsNaN := by decide +kernel
  have hmax : ¬(Binary32.ofNat MAX_IMAGE_BYTES).IsNaN := by decide +kernel
  exact defined_of_le (by decide) (by decide) (Binary32.le_of_not_lt hnan hzero hlow)
    (Binary32.le_of_not_lt hmax hnan hhigh)

/-- The conversions of `toIndex` are defined except for a NaN. -/
theorem toIndex_defined_iff (value : Binary32) :
    (∀ x ∈ CfdpComponent.toIndexCasts value, x.Defined) ↔ ¬value.IsNaN := by
  refine guarded_defined_iff (fun hlow => hlow.1) (fun hhigh => hhigh.2.1) fun hnan hlow hhigh => ?_
  have hzero : ¬(Binary32.ofNat 0).IsNaN := by decide +kernel
  have hmax : ¬(Binary32.ofNat MAX_CHUNKS).IsNaN := by decide +kernel
  exact defined_of_le (by decide) (by decide)
    (Binary32.le_of_lt' (Binary32.lt_of_not_le hnan hzero hlow))
    (Binary32.le_of_lt' (Binary32.lt_of_not_le hmax hnan hhigh))

/-! ## Undefined results -/

/-- A guarded conversion depends on the results of undefined conversions exactly when it executes
one. -/
theorem guarded_congr_iff {α ρ : Type*} {low high : Prop} [Decidable low] [Decidable high]
    {width : ℕ} {value : Binary32} {a b : α} {f : ℕ → α} {result : ρ → α}
    (hresult : ∃ r r', result r ≠ result r') :
    (∀ r r', (if low then a else if high then b else (value.toUnsigned width).elim (result r) f) =
        if low then a else if high then b else (value.toUnsigned width).elim (result r') f) ↔
      ∀ x ∈ guardedCasts low high width value, x.Defined := by
  rw [forall_mem_guardedCasts]
  constructor
  · intro h hlow hhigh
    by_contra hundefined
    obtain ⟨r, r', hne⟩ := hresult
    have heq := h r r'
    rw [if_neg hlow, if_neg hlow, if_neg hhigh, if_neg hhigh,
      toUnsigned_eq_none_iff.mpr hundefined] at heq
    exact hne heq
  · intro h r r'
    split_ifs with hlow hhigh
    · rfl
    · rfl
    · have hsome : value.toUnsigned width ≠ none := fun hnone =>
        toUnsigned_eq_none_iff.mp hnone (h hlow hhigh)
      obtain ⟨n, hn⟩ := Option.ne_none_iff_exists'.mp hsome
      rw [hn]
      rfl

namespace OtaComponent

/-- `sanitizeU16` with its undefined case apart. -/
theorem sanitizeU16_eq (cast : UndefinedCast) (value : Binary32) :
    sanitizeU16 cast value =
      if value < Binary32.ofNat 0 then 0
      else if Binary32.ofNat 65535 < value then 65535
      else (value.toUnsigned 16).elim (cast.u16 value) UInt16.ofNat := by
  unfold sanitizeU16
  cases value.toUnsigned 16 <;> rfl

/-- `sanitizeByteCount` with its undefined case apart. -/
theorem sanitizeByteCount_eq (cast : UndefinedCast) (value : Binary32) :
    sanitizeByteCount cast value =
      if value < Binary32.ofNat 0 then 0
      else if Binary32.ofNat MAX_IMAGE_BYTES < value then UInt32.ofNat MAX_IMAGE_BYTES
      else (value.toUnsigned 32).elim (cast.u32 value) UInt32.ofNat := by
  unfold sanitizeByteCount
  cases value.toUnsigned 32 <;> rfl

/-- `sanitizeU16` does not depend on the platform exactly when its conversions are defined. -/
theorem sanitizeU16_congr_iff (value : Binary32) :
    (∀ cast cast', sanitizeU16 cast value = sanitizeU16 cast' value) ↔
      ∀ x ∈ sanitizeU16Casts value, x.Defined := by
  have hresult : ∃ cast cast' : UndefinedCast, cast.u16 value ≠ cast'.u16 value :=
    ⟨⟨fun _ => 0, fun _ => 0⟩, ⟨fun _ => 1, fun _ => 1⟩, show (0 : UInt16) ≠ 1 by decide⟩
  simp only [sanitizeU16_eq]
  exact guarded_congr_iff hresult

/-- `sanitizeByteCount` does not depend on the platform exactly when its conversions are defined. -/
theorem sanitizeByteCount_congr_iff (value : Binary32) :
    (∀ cast cast', sanitizeByteCount cast value = sanitizeByteCount cast' value) ↔
      ∀ x ∈ sanitizeByteCountCasts value, x.Defined := by
  have hresult : ∃ cast cast' : UndefinedCast, cast.u32 value ≠ cast'.u32 value :=
    ⟨⟨fun _ => 0, fun _ => 0⟩, ⟨fun _ => 1, fun _ => 1⟩, show (0 : UInt32) ≠ 1 by decide⟩
  simp only [sanitizeByteCount_eq]
  exact guarded_congr_iff hresult

/-- A command whose conversions are defined has one effect. -/
theorem handleCommand_congr {cmd : CommandPacket} (h : ∀ x ∈ casts cmd, x.Defined)
    (cast cast' : UndefinedCast) (c : OtaComponent) (host : StageHost) :
    c.handleCommand cast cmd host = c.handleCommand cast' cmd host := by
  unfold casts at h
  unfold handleCommand
  split_ifs at h ⊢
  · rw [(sanitizeByteCount_congr_iff cmd.argument).mpr h cast cast']
  · rw [(sanitizeU16_congr_iff cmd.argument).mpr h cast cast']
  · rw [(sanitizeU16_congr_iff cmd.argument).mpr h cast cast']
  · rw [(sanitizeU16_congr_iff cmd.argument).mpr h cast cast']
  · rfl
  · rfl
  · rfl
  · rfl

end OtaComponent

namespace CfdpComponent

/-- `toIndex` with its undefined case apart. -/
theorem toIndex_eq (cast : Binary32 → ℕ) (value : Binary32) :
    toIndex cast value =
      if value ≤ Binary32.ofNat 0 then 0
      else if Binary32.ofNat MAX_CHUNKS ≤ value then MAX_CHUNKS
      else (value.toUnsigned 64).elim (cast value) id := by
  unfold toIndex
  cases value.toUnsigned 64 <;> rfl

/-- `toIndex` does not depend on the platform exactly when its conversions are defined. -/
theorem toIndex_congr_iff (value : Binary32) :
    (∀ cast cast', toIndex cast value = toIndex cast' value) ↔
      ∀ x ∈ toIndexCasts value, x.Defined := by
  have hresult : ∃ cast cast' : Binary32 → ℕ, cast value ≠ cast' value :=
    ⟨fun _ => 0, fun _ => 1, zero_ne_one⟩
  simp only [toIndex_eq]
  exact guarded_congr_iff hresult

/-- A command whose conversions are defined has one effect. -/
theorem handleCommand_congr {cmd : CommandPacket} (h : ∀ x ∈ casts cmd, x.Defined)
    (cast cast' : Binary32 → ℕ) (c : CfdpComponent) (met : UInt32) :
    c.handleCommand cast (cmd, met) = c.handleCommand cast' (cmd, met) := by
  unfold casts at h
  unfold handleCommand
  dsimp only
  split_ifs at h ⊢
  · rw [(toIndex_congr_iff cmd.argument).mpr h cast cast']
  · rw [(toIndex_congr_iff cmd.argument).mpr h cast cast']
  · rw [(toIndex_congr_iff cmd.argument).mpr h cast cast']
  · rfl
  · rfl
  · rfl
  · rfl
  · rfl
  · rfl

end CfdpComponent

/-! ## Commands -/

/-- The conversions that a command makes the update session or the chunk collector execute are all
defined exactly when its argument is no NaN or its opcode converts nothing. -/
theorem conversions_defined_iff (cmd : CommandPacket) :
    ((∀ x ∈ OtaComponent.casts cmd, x.Defined) ↔
        ¬cmd.argument.IsNaN ∨ cmd.opcode ∉ [OtaComponent.OP_BEGIN_SESSION,
          OtaComponent.OP_PUSH_TEST_BYTE, OtaComponent.OP_SET_EXPECTED_CRC_HI16,
          OtaComponent.OP_SET_EXPECTED_CRC_LO16]) ∧
      ((∀ x ∈ CfdpComponent.casts cmd, x.Defined) ↔
        ¬cmd.argument.IsNaN ∨ cmd.opcode ∉ [CfdpComponent.OP_BEGIN_SESSION,
          CfdpComponent.OP_SET_CHUNK_INDEX, CfdpComponent.OP_PUSH_TEST_BYTE]) := by
  constructor
  · unfold OtaComponent.casts
    split_ifs with h1 h2 h3 h4
    · rw [sanitizeByteCount_defined_iff]
      simp [h1]
    · rw [sanitizeU16_defined_iff]
      simp [h2]
    · rw [sanitizeU16_defined_iff]
      simp [h3]
    · rw [sanitizeU16_defined_iff]
      simp [h4]
    · simp [h1, h2, h3, h4]
  · unfold CfdpComponent.casts
    split_ifs with h1 h2 h3
    · rw [toIndex_defined_iff]
      simp [h1]
    · rw [toIndex_defined_iff]
      simp [h2]
    · rw [toIndex_defined_iff]
      simp [h3]
    · simp [h1, h2, h3]

/-- A NaN as the number of chunks and as a byte of the image is converted. -/
theorem nan_converted :
    (∃ x ∈ OtaComponent.casts ⟨45, OtaComponent.OP_PUSH_TEST_BYTE, Binary32.nan⟩, ¬x.Defined) ∧
      ∃ x ∈ CfdpComponent.casts ⟨48, CfdpComponent.OP_BEGIN_SESSION, Binary32.nan⟩,
        ¬x.Defined := by
  have hnan : Binary32.nan.IsNaN := by decide
  have hundefined (width : ℕ) : ¬(FloatCast.mk width Binary32.nan).Defined := fun h =>
    h.1.not_isNaN hnan
  exact ⟨⟨⟨16, Binary32.nan⟩, List.mem_singleton_self _, hundefined 16⟩,
    ⟨64, Binary32.nan⟩, List.mem_singleton_self _, hundefined 64⟩

end DeltaV
