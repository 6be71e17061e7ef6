import DeltaV.FloatText
import DeltaV.ParamDb.Model

/-!
# Saved parameters

On the host, `save` writes one line for each entry, with the id and the value, and `load` reads ids
and values and sets them until one cannot be read. A file that was saved is loaded as the entries up
to the first value that is not read, each with the value that is read of it (`params_load`). So the
table comes back exactly when every value is a finite number that is the nearest to a decimal with
at most six digits (`persistent_iff`).
-/

namespace DeltaV

namespace ParamDb

/-- The text that `save` writes. -/
def savedText (params : List ParamEntry) : Text :=
  params.flatMap fun e => decimal e.id.toNat ++ ascii " " ++ formatG e.value ++ ascii "\n"

/-- `stream >> id`, and what follows in the stream; `none` when the extraction fails. -/
def readId (t : Text) : Option (UInt32 × Text) :=
  (extractUint32 t).map fun n =>
    (UInt32.ofNat n, (skipSign (t.dropWhile isSpace)).dropWhile isDigit)

/-- `stream >> id >> val`, and what follows in the stream; `none` when an extraction fails. -/
def readEntry (t : Text) : Option (UInt32 × Binary32 × Text) :=
  (readId t).bind fun r => (extractFloat r.2).map fun r' => (r.1, r'.1, r'.2)

/-- The loop of `load`. Every pass reads a byte, so the length of the text is enough fuel. -/
def loadEntries : ℕ → Text → ParamDb → ParamDb
  | 0, _, db => db
  | fuel + 1, t, db =>
    match readEntry t with
    | none => db
    | some (id, val, rest) => loadEntries fuel rest (db.setParam id val)

/-- Loads the text of the file. -/
def load (t : Text) (db : ParamDb) : ParamDb := (loadEntries t.length t db).updateChecksum

/-! ## Lines -/

/-- The entries that are loaded of a file that was saved. -/
def reloaded : List ParamEntry → List ParamEntry
  | [] => []
  | e :: es =>
    match reread e.value with
    | none => []
    | some value => { e with value := value } :: reloaded es

/-- The text of the first entry comes first. -/
theorem savedText_cons (e : ParamEntry) (es : List ParamEntry) :
    savedText (e :: es) =
      decimal e.id.toNat ++ 32 :: (formatG e.value ++ 10 :: savedText es) := by
  have hspace : ascii " " = [32] := by decide
  have hnewline : ascii "\n" = [10] := by decide
  unfold savedText
  rw [List.flatMap_cons, hspace, hnewline]
  simp only [List.append_assoc, List.cons_append, List.nil_append]

/-- An id is read back. -/
theorem readId_decimal (id : UInt32) (rest : Text) :
    readId (decimal id.toNat ++ 32 :: rest) = some (id, 32 :: rest) := by
  have hrest : (32 :: rest : Text).takeWhile isDigit = [] :=
    List.takeWhile_cons_of_neg (by decide)
  have hlt : digitsValue (decimal id.toNat) < 2^32 := by
    rw [digitsValue_decimal]
    exact id.toNat_lt
  have hread := extractUint32_digits (decimal_ne_nil id.toNat) (isDigit_decimal id.toNat) hrest hlt
  obtain ⟨hdrop, -, hskip⟩ := skip_decimal id.toNat (32 :: rest)
  rw [readId, hread, Option.map_some, hdrop, hskip,
    (takeWhile_digits (isDigit_decimal id.toNat) hrest).2, digitsValue_decimal, UInt32.ofNat_toNat]

/-- A line is read as its id and what is read of its value. -/
theorem readEntry_line (e : ParamEntry) (es : List ParamEntry) :
    readEntry (savedText (e :: es)) =
      (reread e.value).map fun value => (e.id, value, 10 :: savedText es) := by
  rw [savedText_cons, readEntry, readId_decimal, Option.bind_some, extractFloat_formatG,
    Option.map_map]
  rfl

/-- The end of a line is skipped as white space. -/
theorem readEntry_newline (t : Text) : readEntry (10 :: t) = readEntry t := by
  have hdrop : (10 :: t : Text).dropWhile isSpace = t.dropWhile isSpace :=
    List.dropWhile_cons_of_pos (by decide)
  unfold readEntry readId extractUint32
  rw [hdrop]

/-- A newline before a line is skipped. -/
theorem loadEntries_newline (fuel : ℕ) (t : Text) (db : ParamDb) :
    loadEntries fuel (10 :: t) db = loadEntries fuel t db := by
  cases fuel with
  | zero => rfl
  | succ fuel => rw [loadEntries, loadEntries, readEntry_newline]

/-! ## Files -/

/-- A new id that there is room for is entered behind the others. -/
theorem params_setParam {db : ParamDb} {id : UInt32} (hnew : id ∉ db.ids)
    (hroom : db.params.length < MAX_PARAMS) (value : Binary32) :
    (db.setParam id value).params = db.params ++ [⟨id, value⟩] := by
  unfold setParam
  split
  next params hstore =>
    rw [(storeValue_eq_none_iff _ _ _).mpr hnew] at hstore
    cases hstore
  next hstore =>
    rw [dif_pos hroom]
    rfl

/-- Lines with new ids are entered up to the first value that is not read. -/
theorem params_loadEntries {es : List ParamEntry} {fuel : ℕ} {db : ParamDb}
    (hfuel : es.length ≤ fuel) (hnodup : (db.ids ++ es.map ParamEntry.id).Nodup)
    (hroom : db.params.length + es.length ≤ MAX_PARAMS) :
    (loadEntries fuel (savedText es) db).params = db.params ++ reloaded es := by
  induction es generalizing fuel db with
  | nil =>
    have hend : readEntry (savedText []) = none := by decide
    rw [reloaded, List.append_nil]
    cases fuel with
    | zero => rfl
    | succ fuel => rw [loadEntries, hend]
  | cons e es ih =>
    rw [List.length_cons] at hfuel hroom
    obtain ⟨fuel, rfl⟩ : ∃ f, fuel = f + 1 := ⟨fuel - 1, by omega⟩
    rw [loadEntries, readEntry_line, reloaded]
    cases hread : reread e.value with
    | none => exact (List.append_nil _).symm
    | some value =>
      have hnew : e.id ∉ db.ids := fun hmem =>
        (List.nodup_append.mp hnodup).2.2 _ hmem _ List.mem_cons_self rfl
      have hparams := params_setParam hnew (by omega) value
      have hids : (db.setParam e.id value).ids = db.ids ++ [e.id] := by
        rw [ids, hparams, List.map_append]
        rfl
      have hnodup' : ((db.setParam e.id value).ids ++ es.map ParamEntry.id).Nodup := by
        rw [hids, List.append_assoc]
        exact hnodup
      have hroom' : (db.setParam e.id value).params.length + es.length ≤ MAX_PARAMS := by
        rw [hparams, List.length_append, List.length_singleton]
        omega
      have hnext := ih (show es.length ≤ fuel by omega) hnodup' hroom'
      rw [hparams, List.append_assoc] at hnext
      exact (congrArg ParamDb.params (loadEntries_newline _ _ _)).trans hnext

/-- A table that was saved is loaded into an empty one up to the first value that is not read. -/
theorem params_load {db : ParamDb} (h : db.Valid) :
    (load (savedText db.params) create).params = reloaded db.params := by
  have hlines : ∀ es : List ParamEntry, es.length ≤ (savedText es).length := by
    intro es
    induction es with
    | nil => exact Nat.zero_le _
    | cons e es ih =>
      rw [savedText_cons, List.length_append, List.length_cons, List.length_cons,
        List.length_append, List.length_cons]
      omega
  have hload := params_loadEntries (hlines db.params)
    (show (create.ids ++ db.params.map ParamEntry.id).Nodup from h.nodup) (by
      rw [show create.params.length = 0 from rfl, Nat.zero_add]
      exact db.bounded)
  exact hload

/-- A value that is loaded was read of the value of the id. -/
theorem findValue_reloaded {es : List ParamEntry} {k : UInt32} {value : Binary32}
    (h : findValue (reloaded es) k = some value) :
    ∃ e ∈ es, e.id = k ∧ reread e.value = some value := by
  induction es with
  | nil => cases h
  | cons e es ih =>
    rw [reloaded] at h
    cases hread : reread e.value with
    | none =>
      rw [hread] at h
      cases h
    | some value' =>
      rw [hread] at h
      unfold findValue at h ih
      dsimp only at h
      rw [List.find?_cons] at h
      by_cases hk : e.id = k
      · simp only [hk, decide_true, Option.map_some, Option.some.injEq] at h
        exact ⟨e, List.mem_cons_self, hk, h ▸ hread⟩
      · simp only [hk, decide_false] at h
        obtain ⟨e', he', hkey⟩ := ih h
        exact ⟨e', List.mem_cons_of_mem _ he', hkey⟩

/-- When every value is read back, the table is. -/
theorem reloaded_eq {es : List ParamEntry} (h : ∀ e ∈ es, reread e.value = some e.value) :
    reloaded es = es := by
  induction es with
  | nil => rfl
  | cons e es ih =>
    rw [List.forall_mem_cons] at h
    rw [reloaded, h.1]
    exact congrArg (e :: ·) (ih h.2)

/-- A table that is reached by calls is the same after it was saved and loaded exactly when every
value is a finite number that is the nearest to a decimal with at most six digits. -/
theorem persistent_iff (ops : List Op) :
    (∀ k, (load (savedText (run apply create ops).params) create).lookup k =
        (run apply create ops).lookup k) ↔
      ∀ e ∈ (run apply create ops).params, HasSixDigits e.value := by
  have hvalid := valid_run ops
  generalize run apply create ops = db at hvalid
  have hparams := params_load hvalid
  unfold lookup
  rw [hparams]
  constructor
  · intro h e he
    rw [← reread_eq_some_iff]
    obtain ⟨i, hi, rfl⟩ := List.getElem_of_mem he
    have hlookup := hvalid.lookup_of_getElem? (List.getElem?_eq_getElem hi)
    obtain ⟨e', he', hid, hread⟩ := findValue_reloaded ((h _).trans hlookup)
    -- The entry with the id is this one.
    obtain ⟨j, hj, rfl⟩ := List.getElem_of_mem he'
    have hlookup' := hvalid.lookup_of_getElem? (List.getElem?_eq_getElem hj)
    rw [hid, hlookup] at hlookup'
    rw [Option.some.inj hlookup'] at hread ⊢
    exact hread
  · intro h k
    rw [reloaded_eq fun e he => (reread_eq_some_iff e.value).mpr (h e he)]

/-- A parameter with seven digits is loaded with six of them. -/
theorem seven_digits_lost :
    (run apply create [Op.set 1 (Binary32.ofNat 1234567)]).lookup 1 =
        some (Binary32.ofNat 1234567) ∧
      (load (savedText (run apply create [Op.set 1 (Binary32.ofNat 1234567)]).params)
        create).lookup 1 = some (Binary32.ofNat 1234570) ∧
      Binary32.ofNat 1234570 ≠ Binary32.ofNat 1234567 := by
  decide +kernel

end ParamDb

end DeltaV
