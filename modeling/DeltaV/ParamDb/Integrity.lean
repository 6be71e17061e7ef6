import DeltaV.Lib.ReflectedCrc
import DeltaV.ParamDb.Model

/-!
# Corrupted parameters

The checksum of the parameter database is a reflected CRC (`toBitVec_computeCRC32`), so a change
within four bytes of the payloads changes it, and the change of one id or of one value is detected.
It is detected until the next store, which computes the checksum of what is in the table then:
`detected_iff` says which calls leave a corruption detected.
-/

namespace DeltaV

namespace ParamDb

/-! ## The checksum of a changed table -/

/-- The polynomial of the checksum. -/
def poly : BitVec 32 := 0xEDB88320#32

/-- One bit moves the register. -/
theorem toBitVec_crcBit (crc : UInt32) :
    (crcBit crc).toBitVec = ReflectedCrc.shift poly crc.toBitVec := by
  have hmask : -(crc.toBitVec &&& 1#32) =
      if crc.toBitVec.getLsbD 0 then BitVec.allOnes 32 else 0#32 := by
    rw [BitVec.and_one_eq_setWidth_ofBool_getLsbD]
    cases crc.toBitVec.getLsbD 0 <;> rfl
  have hbit : (crcBit crc).toBitVec =
      (crc.toBitVec >>> 1) ^^^ (poly &&& (0#32 - (crc.toBitVec &&& 1#32))) := rfl
  rw [hbit, BitVec.zero_sub, hmask, ReflectedCrc.shift]
  split_ifs
  · rw [BitVec.and_allOnes]
  · rw [BitVec.and_zero, BitVec.xor_zero]

/-- One byte moves the register by eight bits. -/
theorem toBitVec_crcByte (crc : UInt32) (byte : UInt8) :
    (crcByte crc byte).toBitVec = ReflectedCrc.push poly crc.toBitVec byte := by
  have hbits : Function.Semiconj UInt32.toBitVec crcBit (ReflectedCrc.shift poly) :=
    toBitVec_crcBit
  have hbyte : byte.toUInt32.toBitVec = BitVec.ofNat 32 byte.toNat := by
    apply BitVec.eq_of_toNat_eq
    rw [BitVec.toNat_ofNat, Nat.mod_eq_of_lt (Nat.lt_trans byte.toNat_lt (by decide))]
    rfl
  rw [crcByte, hbits.iterate_right, UInt32.toBitVec_xor, hbyte, ReflectedCrc.push]

/-- The checksum is the complement of the register. -/
theorem toBitVec_computeCRC32 (data : List UInt8) :
    (computeCRC32 data).toBitVec =
      ~~~(ReflectedCrc.pushes poly (0xFFFFFFFF : UInt32).toBitVec data) := by
  rw [computeCRC32, UInt32.toBitVec_not, ReflectedCrc.pushes,
    List.foldl_hom UInt32.toBitVec fun crc byte => (toBitVec_crcByte crc byte).symm]

/-- A change within four bytes changes the checksum. -/
theorem computeCRC32_window {pre post xs ys : List UInt8} (hxs : xs.length = 4)
    (hys : ys.length = 4) (hne : xs ≠ ys) :
    computeCRC32 (pre ++ xs ++ post) ≠ computeCRC32 (pre ++ ys ++ post) := by
  intro h
  have hregister := congrArg UInt32.toBitVec h
  rw [toBitVec_computeCRC32, toBitVec_computeCRC32, BitVec.not_inj] at hregister
  exact hne (ReflectedCrc.pushes_window_injective (by decide) _ (hxs.trans hys.symm)
    (by rw [hxs]) hregister)

/-- The entries differ in the id or in the value, but not in both. -/
def DiffersInOneField (e e' : ParamEntry) : Prop :=
  (e'.id = e.id ∧ e'.value ≠ e.value) ∨ (e'.id ≠ e.id ∧ e'.value = e.value)

/-- Words are told apart by their bytes. -/
theorem leBytes_word_injective {m n : UInt32} (h : leBytes 4 m.toNat = leBytes 4 n.toNat) :
    m = n := by
  have hle := congrArg le h
  rw [le_leBytes, le_leBytes] at hle
  have hm := m.toNat_lt
  have hn := n.toNat_lt
  apply UInt32.toNat_inj.mp
  omega

/-- The change of one field changes the checksum of the payloads. -/
theorem computeCRC32_set {params : List ParamEntry} {i : ℕ} {e e' : ParamEntry}
    (he : params[i]? = some e) (hne : DiffersInOneField e e') :
    computeCRC32 (payloadBytes (params.set i e')) ≠ computeCRC32 (payloadBytes params) := by
  obtain ⟨hi, rfl⟩ := List.getElem?_eq_some_iff.mp he
  have hsplit : ∀ e : ParamEntry,
      payloadBytes (params.take i ++ e :: params.drop (i + 1)) =
        payloadBytes (params.take i) ++ leBytes 4 e.id.toNat ++ leBytes 4 e.value.bits.toNat ++
          payloadBytes (params.drop (i + 1)) := by
    intro e
    unfold payloadBytes
    rw [List.flatMap_append, List.flatMap_cons, packLE, packLE, packLE, List.append_nil]
    simp only [List.append_assoc]
  have hold : params.take i ++ params[i] :: params.drop (i + 1) = params := by
    rw [← List.drop_eq_getElem_cons hi, List.take_append_drop]
  rw [List.set_eq_take_append_cons_drop, if_pos hi, hsplit]
  nth_rewrite 3 [← hold]
  rw [hsplit]
  rcases hne with ⟨hid, hvalue⟩ | ⟨hid, hvalue⟩
  · rw [hid]
    refine computeCRC32_window (length_leBytes 4 _) (length_leBytes 4 _) fun heq => hvalue ?_
    exact congrArg Binary32.mk (leBytes_word_injective heq)
  · rw [hvalue, List.append_assoc, List.append_assoc (_ ++ leBytes 4 params[i].id.toNat)]
    exact computeCRC32_window (length_leBytes 4 _) (length_leBytes 4 _) fun heq =>
      hid (leBytes_word_injective heq)

/-! ## Corruption -/

/-- The memory of one entry is overwritten from outside. -/
def corrupt (db : ParamDb) (i : ℕ) (e : ParamEntry) : ParamDb :=
  { db with
    params := db.params.set i e
    bounded := by
      rw [List.length_set]
      exact db.bounded }

/-- A change of one field is detected. -/
theorem Valid.detects {db : ParamDb} (h : db.Valid) {i : ℕ} {e e' : ParamEntry}
    (he : db.params[i]? = some e) (hne : DiffersInOneField e e') :
    (db.corrupt i e').verifyIntegrity = false := by
  have hpos : db.params.length ≠ 0 := by
    obtain ⟨hi, -⟩ := List.getElem?_eq_some_iff.mp he
    omega
  have hcrc := h.checksum
  rw [calculateCurrentChecksum, if_neg hpos] at hcrc
  rw [verifyIntegrity, decide_eq_false_iff_not, calculateCurrentChecksum, corrupt]
  change ¬(if (db.params.set i e').length = 0 then 0 else _) = db.expected_crc
  rw [List.length_set, if_neg hpos, hcrc]
  exact computeCRC32_set he hne

/-- In a database that is reached by calls, the change of one field of one entry is detected; the
checksum tells apart all messages that differ only within four bytes. -/
theorem corruption_detected :
    (∀ (ops : List Op) (i : ℕ) (e e' : ParamEntry),
      (run apply create ops).params[i]? = some e → DiffersInOneField e e' →
      ((run apply create ops).corrupt i e').verifyIntegrity = false) ∧
    ∀ pre xs ys post : List UInt8, xs.length = 4 → ys.length = 4 → xs ≠ ys →
      computeCRC32 (pre ++ xs ++ post) ≠ computeCRC32 (pre ++ ys ++ post) :=
  ⟨fun ops _ _ _ he hne => (valid_run ops).detects he hne,
    fun _ _ _ _ hxs hys hne => computeCRC32_window hxs hys hne⟩

/-- Two parameters, with ids 1 and 2. -/
def twoParams : List Op := [Op.set 1 (Binary32.ofNat 5), Op.set 2 (Binary32.ofNat 6)]

/-- A changed value is detected, and so are changed bytes in a message. -/
theorem changed_value_detected :
    ((run apply create twoParams).corrupt 0 ⟨1, Binary32.ofNat 7⟩).verifyIntegrity = false ∧
      computeCRC32 ([9] ++ [0, 0, 0, 1] ++ [7]) ≠ computeCRC32 ([9] ++ [0, 0, 0, 2] ++ [7]) :=
  ⟨corruption_detected.1 twoParams 0 ⟨1, Binary32.ofNat 5⟩ ⟨1, Binary32.ofNat 7⟩ (by decide +kernel)
      (Or.inl ⟨rfl, by decide +kernel⟩),
    corruption_detected.2 [9] [0, 0, 0, 1] [0, 0, 0, 2] [7] rfl rfl (by decide)⟩

/-! ## Calls after a corruption -/

/-- A call that is not quiet computes the checksum of what is there. -/
theorem verifyIntegrity_of_not_quiet {db : ParamDb} {op : Op} (h : ¬db.Quiet op) :
    (db.apply op).verifyIntegrity = true := by
  obtain ⟨_, _, hstored⟩ := stored_of_not_quiet h
  exact decide_eq_true hstored.checksum.symm

/-- A corrupted value stays detected exactly while every call finds its id, to read it, or finds the
table full without it. -/
theorem detected_iff (ops : List Op) {i : ℕ} {e : ParamEntry} {value : Binary32}
    (he : (run apply create ops).params[i]? = some e) (hne : value ≠ e.value) (after : List Op) :
    (∀ pre, pre <+: after →
        (run apply ((run apply create ops).corrupt i ⟨e.id, value⟩) pre).verifyIntegrity = false) ↔
      ∀ op ∈ after, ((run apply create ops).corrupt i ⟨e.id, value⟩).Quiet op := by
  have hdiffers : DiffersInOneField e ⟨e.id, value⟩ := Or.inl ⟨rfl, hne⟩
  have hbad := (valid_run ops).detects he hdiffers
  generalize (run apply create ops).corrupt i ⟨e.id, value⟩ = db at hbad
  induction after with
  | nil => simpa using hbad
  | cons op after ih =>
    rw [List.forall_mem_cons]
    constructor
    · intro h
      have hquiet : db.Quiet op := by
        by_contra hnot
        have hfirst := h [op] ⟨after, rfl⟩
        rw [run_cons, run_nil, verifyIntegrity_of_not_quiet hnot] at hfirst
        cases hfirst
      refine ⟨hquiet, ih.mp fun pre hpre => ?_⟩
      have hnext := h (op :: pre) ((List.prefix_cons_inj op).mpr hpre)
      rwa [run_cons, apply_of_quiet hquiet] at hnext
    · rintro ⟨hquiet, hrest⟩ pre hpre
      cases pre with
      | nil => exact hbad
      | cons op' pre =>
        obtain ⟨rfl, hpre'⟩ := List.cons_prefix_cons.mp hpre
        rw [run_cons, apply_of_quiet hquiet]
        exact ih.mpr hrest pre hpre'

/-- Reading the corrupted parameter leaves the corruption detected. -/
theorem detected_iff_read :
    (run apply ((run apply create twoParams).corrupt 0 ⟨1, Binary32.ofNat 7⟩)
      [Op.get 1 (Binary32.ofNat 0)]).verifyIntegrity = false :=
  (detected_iff twoParams (show _ = some ⟨1, Binary32.ofNat 5⟩ by decide +kernel)
    (by decide +kernel) [Op.get 1 (Binary32.ofNat 0)]).mpr (by
      rw [List.forall_mem_singleton]
      exact Or.inl (by decide +kernel)) _ (List.prefix_refl _)

/-- A write to the other parameter makes the checksum that of the corrupted table. -/
theorem write_hides_corruption :
    ((run apply create twoParams).corrupt 0 ⟨1, Binary32.ofNat 7⟩).verifyIntegrity = false ∧
      (run apply ((run apply create twoParams).corrupt 0 ⟨1, Binary32.ofNat 7⟩)
        [Op.set 2 (Binary32.ofNat 6)]).verifyIntegrity = true := by
  decide +kernel

end ParamDb

end DeltaV
