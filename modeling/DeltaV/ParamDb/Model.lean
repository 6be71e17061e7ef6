import DeltaV.Lib.Binary32
import DeltaV.Lib.LittleEndian
import DeltaV.Lib.Runs

/-!
# The parameter database

`ParamDb` is an array of entries behind a count, with a checksum over the entries. `params` holds
the entries below the count. `getParam` and `setParam` are the calls of one thread; what they do
under the lock is `getLocked` and `setParam`. Either stores the value for the id (`Stored`), behind
the other entries if the id is new, or is `Quiet` and changes nothing. A database that has a
checksum over its entries and no id twice is `Valid`, and the calls keep it so.
-/

namespace DeltaV

/-- The number of entries there is room for. -/
def MAX_PARAMS : ℕ := 256

/-- One parameter. -/
structure ParamEntry where
  id : UInt32
  value : Binary32
deriving DecidableEq, Repr

instance : Inhabited ParamEntry := ⟨⟨0, ⟨0⟩⟩⟩

/-- The parameter database. -/
structure ParamDb where
  /-- The entries below the count. -/
  params : List ParamEntry
  bounded : params.length ≤ MAX_PARAMS
  expected_crc : UInt32

namespace ParamDb

/-! ## The checksum -/

/-- One bit of the CRC register. -/
def crcBit (crc : UInt32) : UInt32 := (crc >>> 1) ^^^ (0xEDB88320 &&& (0 - (crc &&& 1)))

/-- One byte of the CRC register. -/
def crcByte (crc : UInt32) (byte : UInt8) : UInt32 := crcBit^[8] (crc ^^^ byte.toUInt32)

/-- The CRC of the bytes. -/
def computeCRC32 (data : List UInt8) : UInt32 := ~~~(data.foldl crcByte 0xFFFFFFFF)

/-- The bytes of the array of payloads. -/
def payloadBytes (params : List ParamEntry) : List UInt8 :=
  params.flatMap fun e => packLE [(4, e.id.toNat), (4, e.value.bits.toNat)]

/-- The checksum over the entries. -/
def calculateCurrentChecksum (db : ParamDb) : UInt32 :=
  if db.params.length = 0 then 0 else computeCRC32 (payloadBytes db.params)

/-- Makes the checksum that of the entries. -/
def updateChecksum (db : ParamDb) : ParamDb :=
  { db with expected_crc := db.calculateCurrentChecksum }

/-- Compares the checksum with that of the entries. -/
def verifyIntegrity (db : ParamDb) : Bool :=
  decide (db.calculateCurrentChecksum = db.expected_crc)

/-! ## Entries -/

/-- The value of the first entry with the id. -/
def findValue (params : List ParamEntry) (param_id : UInt32) : Option Binary32 :=
  (params.find? fun e => e.id = param_id).map ParamEntry.value

/-- Stores into the first entry with the id. -/
def storeValue : List ParamEntry → UInt32 → Binary32 → Option (List ParamEntry)
  | [], _, _ => none
  | e :: es, param_id, value =>
    if e.id = param_id then some ({ e with value := value } :: es)
    else (storeValue es param_id value).map (e :: ·)

/-- Storing changes no id. -/
theorem ids_storeValue {es es' : List ParamEntry} {param_id : UInt32} {value : Binary32}
    (h : storeValue es param_id value = some es') :
    es'.map ParamEntry.id = es.map ParamEntry.id := by
  induction es generalizing es' with
  | nil => cases h
  | cons e es ih =>
    rw [storeValue] at h
    split_ifs at h
    · cases h
      rfl
    · obtain ⟨tail, htail, rfl⟩ := Option.map_eq_some_iff.mp h
      rw [List.map_cons, List.map_cons, ih htail]

/-- An id that is not there has no entry to store into. -/
theorem storeValue_eq_none_iff (es : List ParamEntry) (param_id : UInt32) (value : Binary32) :
    storeValue es param_id value = none ↔ param_id ∉ es.map ParamEntry.id := by
  induction es with
  | nil => simp [storeValue]
  | cons e es ih =>
    rw [storeValue, List.map_cons, List.mem_cons, not_or]
    split_ifs with h
    · simp [h]
    · rw [Option.map_eq_none_iff, ih]
      exact ⟨fun hrest => ⟨fun heq => h heq.symm, hrest⟩, fun hboth => hboth.2⟩

/-- A value that is stored is found, and the others are found as before. -/
theorem findValue_storeValue {es es' : List ParamEntry} {param_id : UInt32} {value : Binary32}
    (h : storeValue es param_id value = some es') (k : UInt32) :
    findValue es' k = if k = param_id then some value else findValue es k := by
  induction es generalizing es' with
  | nil => cases h
  | cons e es ih =>
    unfold findValue at ih ⊢
    rw [storeValue] at h
    split_ifs at h with hid
    · cases h
      subst hid
      rw [List.find?_cons, List.find?_cons]
      by_cases hk : k = e.id
      · simp [hk]
      · simp [hk, Ne.symm hk]
    · obtain ⟨tail, htail, rfl⟩ := Option.map_eq_some_iff.mp h
      rw [List.find?_cons, List.find?_cons]
      by_cases hk : e.id = k
      · subst hk
        simp [hid]
      · simp [hk, ih htail]

/-- A value is found exactly for the ids that are there. -/
theorem findValue_eq_none_iff (es : List ParamEntry) (k : UInt32) :
    findValue es k = none ↔ k ∉ es.map ParamEntry.id := by
  rw [findValue, Option.map_eq_none_iff, List.find?_eq_none, List.mem_map]
  constructor
  · rintro h ⟨e, he, rfl⟩
    exact h e he (by simp)
  · intro h e he hkey
    exact h ⟨e, he, by simpa using hkey⟩

/-- A new entry is found last. -/
theorem findValue_concat (es : List ParamEntry) (e : ParamEntry) (h : e.id ∉ es.map ParamEntry.id)
    (k : UInt32) :
    findValue (es ++ [e]) k = if k = e.id then some e.value else findValue es k := by
  have hnone := (findValue_eq_none_iff es k)
  unfold findValue at hnone ⊢
  rw [List.find?_append, Option.map_or]
  split_ifs with hk
  · subst hk
    rw [hnone.mpr h]
    simp
  · rw [List.find?_cons_of_neg (by simpa using Ne.symm hk)]
    exact Option.or_none

/-! ## Calls -/

/-- The id of a name: its FNV-1a hash. -/
def fnv1a (str : List UInt8) : UInt32 :=
  str.foldl (fun hash byte => (hash ^^^ byte.toUInt32) * 16777619) 2166136261

/-- The number of parameters. -/
def paramCount (db : ParamDb) : ℕ := db.params.length

/-- An empty database. -/
def create : ParamDb := ⟨[], Nat.zero_le _, 0⟩

/-- The ids of the entries. -/
def ids (db : ParamDb) : List UInt32 := db.params.map ParamEntry.id

/-- The value of an id. -/
def lookup (db : ParamDb) (param_id : UInt32) : Option Binary32 := findValue db.params param_id

/-- Puts a new entry behind the others. -/
def insert (db : ParamDb) (param_id : UInt32) (value : Binary32)
    (h : db.params.length < MAX_PARAMS) : ParamDb :=
  let db : ParamDb :=
    { db with
      params := db.params ++ [⟨param_id, value⟩]
      bounded := by
        rw [List.length_append, List.length_singleton]
        exact h }
  db.updateChecksum

/-- `getParam` under the lock. -/
def getLocked (db : ParamDb) (param_id : UInt32) (default_val : Binary32) : Binary32 × ParamDb :=
  match db.lookup param_id with
  | some value => (value, db)
  | none =>
    if h : db.params.length < MAX_PARAMS then (default_val, db.insert param_id default_val h)
    else (default_val, db)

/-- The value of an id, which is entered with the default when it is new. -/
def getParam (db : ParamDb) (param_id : UInt32) (default_val : Binary32) : Binary32 × ParamDb :=
  match db.lookup param_id with
  | some value => (value, db)
  | none => db.getLocked param_id default_val

/-- Stores a value for an id. -/
def setParam (db : ParamDb) (param_id : UInt32) (value : Binary32) : ParamDb :=
  match h : storeValue db.params param_id value with
  | some params =>
    { db with
      params := params
      bounded := by
        have hlen := congrArg List.length (ids_storeValue h)
        rw [List.length_map, List.length_map] at hlen
        rw [hlen]
        exact db.bounded }.updateChecksum
  | none =>
    if h : db.params.length < MAX_PARAMS then db.insert param_id value h else db

/-- The calls that change the database. -/
inductive Op where
  | get (param_id : UInt32) (default_val : Binary32)
  | set (param_id : UInt32) (value : Binary32)
deriving DecidableEq

/-- The database after a call. -/
def apply (db : ParamDb) : Op → ParamDb
  | Op.get param_id default_val => (db.getParam param_id default_val).2
  | Op.set param_id value => db.setParam param_id value

/-! ## What the calls do -/

/-- No id is there twice, and the checksum is that of the entries. -/
structure Valid (db : ParamDb) : Prop where
  nodup : db.ids.Nodup
  checksum : db.expected_crc = db.calculateCurrentChecksum

/-- The value is stored for the id, and nothing else changes. -/
structure Stored (db : ParamDb) (param_id : UInt32) (value : Binary32) (db' : ParamDb) : Prop where
  ids : db'.ids = if param_id ∈ db.ids then db.ids else db.ids ++ [param_id]
  lookup : ∀ k, db'.lookup k = if k = param_id then some value else db.lookup k
  checksum : db'.expected_crc = db'.calculateCurrentChecksum

/-- The id is new, and there is no room for it. -/
def Refuses (db : ParamDb) (param_id : UInt32) : Prop :=
  param_id ∉ db.ids ∧ db.params.length = MAX_PARAMS

instance (db : ParamDb) (param_id : UInt32) : Decidable (db.Refuses param_id) :=
  inferInstanceAs (Decidable (_ ∧ _))

variable {db : ParamDb} {param_id : UInt32} {value : Binary32}

/-- An identifier is not found exactly when the table does not hold it. -/
theorem lookup_eq_none_iff : db.lookup param_id = none ↔ param_id ∉ db.ids :=
  findValue_eq_none_iff db.params param_id

/-- The table has as many identifiers as entries. -/
theorem length_ids (db : ParamDb) : db.ids.length = db.params.length := List.length_map _

/-- An id of the table has the value of its entry. -/
theorem Valid.lookup_of_getElem? (h : db.Valid) {i : ℕ} {e : ParamEntry}
    (he : db.params[i]? = some e) : db.lookup e.id = some e.value := by
  obtain ⟨hi, rfl⟩ := List.getElem?_eq_some_iff.mp he
  have hfind : db.params.find? (fun e' => e'.id = db.params[i].id) = some db.params[i] := by
    rw [List.find?_eq_some_iff_getElem]
    refine ⟨decide_eq_true rfl, i, hi, rfl, fun j hj => ?_⟩
    -- An earlier entry has another id.
    have hne := (List.nodup_iff_pairwise_ne.mp h.nodup)
    rw [ids, List.pairwise_map, List.pairwise_iff_getElem] at hne
    simpa using hne j i (hj.trans hi) hi hj
  rw [lookup, findValue, hfind]
  rfl

/-- An inserted entry is stored under its identifier. -/
theorem stored_insert (hnew : param_id ∉ db.ids) (h : db.params.length < MAX_PARAMS) :
    Stored db param_id value (db.insert param_id value h) where
  ids := by
    rw [if_neg hnew, insert, updateChecksum, ids, List.map_append]
    rfl
  lookup k := findValue_concat db.params ⟨param_id, value⟩ hnew k
  checksum := rfl

/-- `setParam` changes nothing when the id is new and the table is full. -/
theorem setParam_of_refuses (h : db.Refuses param_id) (value : Binary32) :
    db.setParam param_id value = db := by
  unfold setParam
  split
  next params hstore =>
    rw [(storeValue_eq_none_iff _ _ _).mpr h.1] at hstore
    cases hstore
  next hstore => rw [dif_neg (by rw [h.2]; exact Nat.lt_irrefl _)]

/-- `setParam` stores the value otherwise. -/
theorem stored_setParam (h : ¬db.Refuses param_id) (value : Binary32) :
    Stored db param_id value (db.setParam param_id value) := by
  unfold setParam
  split
  next params hstore =>
    have hmem : param_id ∈ db.ids := by
      by_contra hnew
      rw [(storeValue_eq_none_iff _ _ _).mpr hnew] at hstore
      cases hstore
    refine ⟨?_, findValue_storeValue hstore, rfl⟩
    rw [if_pos hmem]
    exact ids_storeValue hstore
  next hstore =>
    have hnew := (storeValue_eq_none_iff _ _ _).mp hstore
    have hroom : db.params.length < MAX_PARAMS :=
      Nat.lt_of_le_of_ne db.bounded fun hfull => h ⟨hnew, hfull⟩
    rw [dif_pos hroom]
    exact stored_insert hnew hroom

/-- Under the lock, `getParam` returns the value that is there. -/
theorem getLocked_of_lookup (h : db.lookup param_id = some value) (default_val : Binary32) :
    db.getLocked param_id default_val = (value, db) := by
  rw [getLocked, h]

/-- A new id that there is no room for has the default. -/
theorem getLocked_of_refuses (h : db.Refuses param_id) (default_val : Binary32) :
    db.getLocked param_id default_val = (default_val, db) := by
  have hfull : ¬db.params.length < MAX_PARAMS := by
    rw [h.2]
    exact Nat.lt_irrefl _
  rw [getLocked, lookup_eq_none_iff.mpr h.1]
  exact dif_neg hfull

/-- For a new id that there is room for, the default is stored. -/
theorem stored_getLocked (hnew : param_id ∉ db.ids) (hroom : db.params.length ≠ MAX_PARAMS)
    (default_val : Binary32) :
    (db.getLocked param_id default_val).1 = default_val ∧
      Stored db param_id default_val (db.getLocked param_id default_val).2 := by
  have hlt : db.params.length < MAX_PARAMS := Nat.lt_of_le_of_ne db.bounded hroom
  rw [getLocked, lookup_eq_none_iff.mpr hnew]
  simp only [hlt, dif_pos]
  exact ⟨trivial, stored_insert hnew hlt⟩

/-- `getParam` changes no value that is there. -/
theorem lookup_getLocked {k : UInt32} (h : db.lookup k = some value) (param_id : UInt32)
    (default_val : Binary32) : (db.getLocked param_id default_val).2.lookup k = some value := by
  cases hfind : db.lookup param_id with
  | some other => rw [getLocked_of_lookup hfind, h]
  | none =>
    have hnew := lookup_eq_none_iff.mp hfind
    by_cases hfull : db.params.length = MAX_PARAMS
    · rw [getLocked_of_refuses ⟨hnew, hfull⟩, h]
    · have hne : k ≠ param_id := by
        rintro rfl
        rw [hfind] at h
        cases h
      rw [(stored_getLocked hnew hfull default_val).2.lookup, if_neg hne, h]

/-- `setParam` changes no value of another id. -/
theorem lookup_setParam {k : UInt32} (hne : k ≠ param_id) (value : Binary32) :
    (db.setParam param_id value).lookup k = db.lookup k := by
  by_cases hrefuses : db.Refuses param_id
  · rw [setParam_of_refuses hrefuses]
  · rw [(stored_setParam hrefuses value).lookup, if_neg hne]

/-- The lookup without the lock makes no difference to a thread alone. -/
theorem getParam_eq_getLocked (db : ParamDb) (param_id : UInt32) (default_val : Binary32) :
    db.getParam param_id default_val = db.getLocked param_id default_val := by
  unfold getParam getLocked
  cases db.lookup param_id <;> rfl

/-- A store keeps the table valid. -/
theorem Stored.valid {db' : ParamDb} (h : Stored db param_id value db') (hdb : db.Valid) :
    db'.Valid := by
  refine ⟨?_, h.checksum⟩
  rw [h.ids]
  split_ifs with hmem
  · exact hdb.nodup
  · exact List.nodup_append.mpr ⟨hdb.nodup, List.nodup_singleton _, fun a ha b hb => by
      rw [List.mem_singleton.mp hb]
      rintro rfl
      exact hmem ha⟩

/-- A store keeps the ids in their places. -/
theorem Stored.prefix_ids {db' : ParamDb} (h : Stored db param_id value db') :
    db.ids <+: db'.ids := by
  rw [h.ids]
  split_ifs
  · exact List.prefix_refl _
  · exact List.prefix_append _ _

/-- The call finds the id, or it finds the table full without it. -/
def Quiet (db : ParamDb) : Op → Prop
  | Op.get param_id _ => param_id ∈ db.ids ∨ db.params.length = MAX_PARAMS
  | Op.set param_id _ => db.Refuses param_id

/-- A quiet call changes nothing. -/
theorem apply_of_quiet {op : Op} (h : db.Quiet op) : db.apply op = db := by
  cases op with
  | get param_id default_val =>
    rw [apply, getParam_eq_getLocked]
    cases hfind : db.lookup param_id with
    | some value => rw [getLocked_of_lookup hfind]
    | none =>
      have hnew := lookup_eq_none_iff.mp hfind
      rw [getLocked_of_refuses ⟨hnew, h.resolve_left hnew⟩]
  | set param_id value => exact setParam_of_refuses h value

/-- Any other call stores. -/
theorem stored_of_not_quiet {op : Op} (h : ¬db.Quiet op) :
    ∃ param_id value, Stored db param_id value (db.apply op) := by
  cases op with
  | get param_id default_val =>
    rw [Quiet, not_or] at h
    rw [apply, getParam_eq_getLocked]
    exact ⟨param_id, default_val, (stored_getLocked h.1 h.2 default_val).2⟩
  | set param_id value => exact ⟨param_id, value, stored_setParam h value⟩

/-- The empty table is valid. -/
theorem valid_create : create.Valid := ⟨List.nodup_nil, rfl⟩

/-- Every call keeps the table valid. -/
theorem Valid.apply (h : db.Valid) (op : Op) : (db.apply op).Valid := by
  by_cases hquiet : db.Quiet op
  · rw [apply_of_quiet hquiet]
    exact h
  · obtain ⟨_, _, hstored⟩ := stored_of_not_quiet hquiet
    exact hstored.valid h

/-- A database that is reached by calls is valid. -/
theorem valid_run (ops : List Op) : (run ParamDb.apply create ops).Valid :=
  run_invariant (fun _ op h => h.apply op) valid_create ops

/-- The checksum of a valid table is found right. -/
theorem Valid.integrity (h : db.Valid) : db.verifyIntegrity = true :=
  decide_eq_true h.checksum.symm

end ParamDb

end DeltaV
