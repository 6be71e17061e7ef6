import DeltaV.ParamDb.Boots

/-!
# A save that is cut off

`save` truncates the file and writes it line by line. When the process stops while it writes, the
file is cut at some byte (`ParamHostOp.torn`). The next boot loads the lines in front of the cut as
they were saved. Of the line at the cut it loads nothing when the id or the value cannot be read,
and else the id with whatever number the digits in front of the cut make. The checksum is computed
anew, so it fits (`torn_save_loads`).
-/

namespace DeltaV

open Binary32

/-! ## Numbers cut off -/

/-- Digits, perhaps a point with digits, perhaps an exponent, cut at any byte. -/
def CutNumber (t : Text) : Prop :=
  ∃ whole fraction exponent, t = whole ++ (fraction ++ exponent) ∧
    (∀ c ∈ whole, isDigit c = true) ∧
    (fraction = [] ∨ ∃ ds, fraction = 46 :: ds ∧ ∀ c ∈ ds, isDigit c = true) ∧
    (exponent = [] ∨ exponent = [101] ∨
      ∃ sign ds, exponent = 101 :: sign :: ds ∧ (sign = 45 ∨ sign = 43) ∧
        ∀ c ∈ ds, isDigit c = true)

/-- Digits are taken to the end of the text. -/
theorem takeWhile_all {ds : Text} (h : ∀ c ∈ ds, isDigit c = true) :
    ds.takeWhile isDigit = ds ∧ ds.dropWhile isDigit = [] := by
  have hnil : ([] : Text).takeWhile isDigit = [] := rfl
  have hsplit := takeWhile_digits h hnil
  rwa [List.append_nil] at hsplit

/-- Of a number cut off, all is read or nothing. -/
theorem readDecimal_cut {t : Text} (ht : CutNumber t) {r : ℕ × ℕ × Bool × ℕ} {rest : Text}
    (h : readDecimal t = some (r, rest)) : rest = [] := by
  obtain ⟨whole, fraction, exponent, rfl, hwhole, hfraction, hexponent⟩ := ht
  have hexponentHead : exponent.takeWhile isDigit = [] ∧ exponent.head? ≠ some 46 := by
    rcases hexponent with rfl | rfl | ⟨sign, ds, rfl, -, -⟩
    · exact ⟨rfl, nofun⟩
    · exact ⟨rfl, by simp⟩
    · exact ⟨List.takeWhile_cons_of_neg (by decide), by simp⟩
  have hhead : (fraction ++ exponent).takeWhile isDigit = [] := by
    rcases hfraction with rfl | ⟨ds, rfl, -⟩
    · exact hexponentHead.1
    · exact List.takeWhile_cons_of_neg (by decide)
  have hread : (readFraction (fraction ++ exponent)).2 = exponent := by
    unfold readFraction
    rcases hfraction with rfl | ⟨ds, rfl, hds⟩
    · rw [List.nil_append, if_neg hexponentHead.2]
    · rw [List.cons_append, List.head?_cons, if_pos rfl, List.tail_cons,
        (takeWhile_digits hds hexponentHead.1).2]
  -- A cut exponent is empty, a bare `e` that is refused, or is read to its end.
  have hlast : ∀ {e : (Bool × ℕ) × Text}, readExponent exponent = some e → e.2 = [] := by
    intro e he
    unfold readExponent at he
    rcases hexponent with rfl | rfl | ⟨sign, ds, rfl, hsign, hds⟩
    · rw [if_neg (by simp)] at he
      rw [← Option.some.inj he]
    · have hempty : (skipSign ([101] : Text).tail).takeWhile isDigit = [] := by decide
      simp only [List.head?_cons, true_or, if_true, hempty] at he
      cases he
    · have hskip : skipSign (sign :: ds) = ds := by
        unfold skipSign
        rw [List.head?_cons, if_pos (by rcases hsign with rfl | rfl <;> simp), List.tail_cons]
      simp only [List.head?_cons, true_or, if_true, List.tail_cons, hskip,
        (takeWhile_all hds).1, (takeWhile_all hds).2] at he
      split_ifs at he
      rw [← Option.some.inj he]
  unfold readDecimal at h
  rw [(takeWhile_digits hwhole hhead).2] at h
  dsimp only at h
  rw [hread] at h
  split_ifs at h
  obtain ⟨e, he, hpair⟩ := Option.map_eq_some_iff.mp h
  rw [← hlast he, ← (Prod.mk.inj hpair).2]

/-- The first bytes of an exponent. -/
theorem take_exponentText (place k : ℕ) :
    (exponentText place).take k = [] ∨ (exponentText place).take k = [101] ∨
      ∃ sign ds, (exponentText place).take k = 101 :: sign :: ds ∧ (sign = 45 ∨ sign = 43) ∧
        ∀ c ∈ ds, isDigit c = true := by
  have he : ascii "e" = [101] := by decide
  have hminus : ascii "-" = [45] := by decide
  have hplus : ascii "+" = [43] := by decide
  have hform : ∃ sign n, exponentText place = 101 :: sign :: twoDigits n ∧
      (sign = 45 ∨ sign = 43) := by
    rw [exponentText, he, hminus, hplus]
    split_ifs
    · exact ⟨45, 50 - place, rfl, Or.inl rfl⟩
    · exact ⟨43, place - 50, rfl, Or.inr rfl⟩
  obtain ⟨sign, n, htext, hsign⟩ := hform
  rw [htext]
  rcases k with _ | _ | k
  · exact Or.inl rfl
  · exact Or.inr (Or.inl rfl)
  · exact Or.inr (Or.inr ⟨sign, (twoDigits n).take k, rfl, hsign, fun c hc =>
      (twoDigits_spec n).1 c (List.mem_of_mem_take hc)⟩)

/-- The first bytes of digits behind a point. -/
theorem take_fractionText {ds : Text} (hds : ∀ c ∈ ds, isDigit c = true) (k : ℕ) :
    (fractionText ds).take k = [] ∨
      ∃ ds', (fractionText ds).take k = 46 :: ds' ∧ ∀ c ∈ ds', isDigit c = true := by
  unfold fractionText
  split_ifs
  · exact Or.inl List.take_nil
  · cases k with
    | zero => exact Or.inl rfl
    | succ k =>
      exact Or.inr ⟨ds.take k, rfl, fun c hc => hds c (List.mem_of_mem_take hc)⟩

/-- The first bytes of a finite number. -/
theorem cutNumber_take (value : Binary32) (k : ℕ) : CutNumber ((magText value).take k) := by
  have hdecimal (n k : ℕ) : ∀ c ∈ (decimal n).take k, isDigit c = true := fun c hc =>
    isDigit_decimal n c (List.mem_of_mem_take hc)
  have hstripped (k n : ℕ) := isDigit_stripZeros (isDigit_lastDigits k n)
  unfold magText formatDigits
  split_ifs
  · have hzero : ascii "0" = decimal 0 := by decide
    rw [hzero]
    exact ⟨(decimal 0).take k, [], [], by simp, hdecimal 0 k, Or.inl rfl, Or.inl rfl⟩
  · rw [List.take_append]
    exact ⟨_, _, [], by rw [List.append_nil], hdecimal _ _,
      take_fractionText (hstripped _ _) _, Or.inl rfl⟩
  · rw [List.append_assoc, List.take_append, List.take_append]
    exact ⟨_, _, _, rfl, hdecimal _ _, take_fractionText (hstripped _ _) _,
      take_exponentText _ _⟩

/-- The first bytes of a text with a sign: none, or the sign and the first bytes behind it. -/
theorem take_signText (neg : Bool) (t : Text) (k : ℕ) :
    (signText neg ++ t).take k = [] ∨ ∃ j, (signText neg ++ t).take k = signText neg ++ t.take j := by
  cases neg
  · exact Or.inr ⟨k, rfl⟩
  · rw [signText_true]
    cases k with
    | zero => exact Or.inl rfl
    | succ k => exact Or.inr ⟨k, rfl⟩

/-- The first bytes of a number that was printed are read to the end, or not at all. -/
theorem extractFloat_cut {value : Binary32} {k : ℕ} {value' : Binary32} {rest : Text}
    (h : extractFloat (32 :: (formatG value).take k) = some (value', rest)) : rest = [] := by
  have hnothing : extractFloat (32 :: []) = none := by decide
  have hsign : extractFloat (32 :: signText value.neg) = none := by
    cases value.neg <;> decide
  have hnan : ascii "nan" = [110, 97, 110] := by decide
  have hinf : ascii "inf" = [105, 110, 102] := by decide
  -- A word is not read, however much there is of it.
  have hword (c : UInt8) (tail : Text) (hc : c = 110 ∨ c = 105)
      (htext : formatG value = signText value.neg ++ c :: tail) : False := by
    rw [htext] at h
    rcases take_signText value.neg (c :: tail) k with hcut | ⟨j, hcut⟩
    · rw [hcut, hnothing] at h
      cases h
    · rw [hcut] at h
      cases j with
      | zero =>
        rw [List.take_zero, List.append_nil, hsign] at h
        cases h
      | succ j =>
        rw [List.take_succ_cons] at h
        rcases hc with rfl | rfl
        · rw [extractFloat_word _ _ (by decide) (by decide) (by decide) (by decide)
            (by decide)] at h
          cases h
        · rw [extractFloat_word _ _ (by decide) (by decide) (by decide) (by decide)
            (by decide)] at h
          cases h
  by_cases hfinite : value.IsFinite
  · obtain ⟨c, cs, htext, hdigit⟩ := magText_eq_cons value
    obtain ⟨hspace, hminus, hplus, -⟩ := head_of_isDigit hdigit
    rw [formatG_of_finite hfinite] at h
    rcases take_signText value.neg (magText value) k with hcut | ⟨j, hcut⟩
    · rw [hcut, hnothing] at h
      cases h
    · have hnumber := cutNumber_take value j
      rw [hcut] at h
      rw [htext] at h hnumber
      cases j with
      | zero =>
        rw [List.take_zero, List.append_nil, hsign] at h
        cases h
      | succ j =>
        rw [List.take_succ_cons] at h hnumber
        obtain ⟨hdrop, -, hbody⟩ := skip_sign value.neg (cs.take j) hspace hminus hplus
        rw [extractFloat_eq, List.dropWhile_cons_of_pos (by decide), hdrop, hbody] at h
        obtain ⟨r, hread, hvalue⟩ := Option.bind_eq_some_iff.mp h
        obtain ⟨_, -, hpair⟩ := Option.map_eq_some_iff.mp hvalue
        rw [← (Prod.mk.inj hpair).2]
        exact readDecimal_cut hnumber hread
  · by_cases hisnan : value.IsNaN
    · refine (hword 110 [97, 110] (Or.inl rfl) ?_).elim
      rw [formatG, if_pos hisnan, hnan]
    · refine (hword 105 [110, 102] (Or.inr rfl) ?_).elim
      rw [formatG, if_neg hisnan, if_pos hfinite, hinf]

namespace ParamDb

/-! ## Lines cut off -/

/-- An id without a value is no entry. -/
theorem readEntry_digits {ds : Text} (hds : ∀ c ∈ ds, isDigit c = true) : readEntry ds = none := by
  have hbehind : (skipSign (ds.dropWhile isSpace)).dropWhile isDigit = [] := by
    cases ds with
    | nil => rfl
    | cons c cs =>
      obtain ⟨hspace, hminus, hplus, -⟩ := head_of_isDigit (hds c List.mem_cons_self)
      obtain ⟨hdrop, -, hbody⟩ := skip_sign false cs hspace hminus hplus
      rw [signText_false, List.nil_append] at hdrop hbody
      rw [hdrop, hbody, (takeWhile_all hds).2]
  have hempty : extractFloat [] = none := by decide
  unfold readEntry readId
  rw [hbehind]
  cases extractUint32 ds with
  | none => rfl
  | some n =>
    rw [Option.map_some, Option.bind_some, hempty]
    rfl

/-- Of a line that is cut off before its end, nothing is read, or the id with some number. -/
theorem readEntry_cut (e : ParamEntry) {n : ℕ}
    (hn : n ≤ (decimal e.id.toNat).length + (formatG e.value).length + 1) (rest : Text) :
    let t := (decimal e.id.toNat ++ 32 :: (formatG e.value ++ 10 :: rest)).take n
    readEntry t = none ∨ ∃ value, readEntry t = some (e.id, value, []) := by
  intro t
  rcases Nat.lt_or_ge (decimal e.id.toNat).length n with hlt | hle
  · obtain ⟨k, rfl⟩ : ∃ k, n = (decimal e.id.toNat).length + (k + 1) :=
      ⟨n - (decimal e.id.toNat).length - 1, by omega⟩
    have ht : t = decimal e.id.toNat ++ 32 :: (formatG e.value).take k := by
      simp only [t]
      rw [List.take_length_add_append, List.take_succ_cons,
        List.take_append_of_le_length (by omega)]
    rw [ht, readEntry, readId_decimal, Option.bind_some]
    cases hread : extractFloat (32 :: (formatG e.value).take k) with
    | none => exact Or.inl rfl
    | some r =>
      obtain ⟨value, tail⟩ := r
      obtain rfl := extractFloat_cut hread
      exact Or.inr ⟨value, rfl⟩
  · have ht : t = (decimal e.id.toNat).take n := by
      simp only [t]
      rw [List.take_append_of_le_length hle]
    rw [ht]
    exact Or.inl (readEntry_digits fun c hc => isDigit_decimal _ c (List.mem_of_mem_take hc))

/-! ## Files cut off -/

/-- What is loaded of a file that was cut off behind `n` bytes: the entries whose lines are complete,
each with its value rounded to six digits, and perhaps the entry at the cut, with some number. -/
def CutOff (es : List ParamEntry) (n : ℕ) (loaded : List ParamEntry) : Prop :=
  ∃ j last, loaded = reloaded (es.take j) ++ last ∧ (savedText (es.take j)).length ≤ n ∧
    (j < es.length → n < (savedText (es.take (j + 1))).length) ∧
    (last = [] ∨ ∃ e value, es[j]? = some e ∧ last = [⟨e.id, value⟩])

/-- A text without an entry is loaded as nothing. -/
theorem loadEntries_of_none {t : Text} (h : readEntry t = none) (fuel : ℕ) (db : ParamDb) :
    loadEntries fuel t db = db := by
  cases fuel with
  | zero => rfl
  | succ fuel => rw [loadEntries, h]

/-- The length of the text is the sum of the lengths of its lines. -/
theorem length_savedText_cons (e : ParamEntry) (es : List ParamEntry) :
    (savedText (e :: es)).length =
      (decimal e.id.toNat).length + (formatG e.value).length + 2 + (savedText es).length := by
  rw [savedText_cons]
  simp only [List.length_append, List.length_cons]
  omega

/-- The lines of finite entries are entered up to the cut. -/
theorem cutOff_loadEntries {es : List ParamEntry} {fuel n : ℕ} {db : ParamDb}
    (hfinite : Finite es) (hfuel : ((savedText es).take n).length ≤ fuel)
    (hnodup : (db.ids ++ es.map ParamEntry.id).Nodup)
    (hroom : db.params.length + es.length ≤ MAX_PARAMS) :
    ∃ loaded, (loadEntries fuel ((savedText es).take n) db).params = db.params ++ loaded ∧
      CutOff es n loaded := by
  have hend : readEntry [] = none := by decide
  induction es generalizing fuel n db with
  | nil =>
    have hnil : (savedText []).take n = [] := List.take_nil
    rw [hnil, loadEntries_of_none hend]
    exact ⟨[], (List.append_nil _).symm, ⟨0, [], rfl, Nat.zero_le _, nofun, Or.inl rfl⟩⟩
  | cons e es ih =>
    have hline := length_savedText_cons e es
    rw [List.length_cons] at hroom
    have hnew : e.id ∉ db.ids := fun hmem =>
      (List.nodup_append.mp hnodup).2.2 _ hmem _ List.mem_cons_self rfl
    have hstore (value : Binary32) : (db.setParam e.id value).params = db.params ++ [⟨e.id, value⟩] :=
      params_setParam hnew (by omega) value
    rcases Nat.lt_or_ge n ((decimal e.id.toNat).length + (formatG e.value).length + 2) with
      hcut | hfull
    · -- The line is not complete.
      have hone : (savedText [e]).length =
          (decimal e.id.toNat).length + (formatG e.value).length + 2 := length_savedText_cons e []
      have hread := readEntry_cut e (show n ≤ _ by omega) (savedText es)
      rw [← savedText_cons] at hread
      rcases hread with hnone | ⟨value, hsome⟩
      · rw [loadEntries_of_none hnone]
        exact ⟨[], (List.append_nil _).symm, ⟨0, [], rfl, Nat.zero_le _, fun _ => hone ▸ hcut,
          Or.inl rfl⟩⟩
      · have hpos : 0 < fuel := by
          by_contra hzero
          have hempty : (savedText (e :: es)).take n = [] := List.length_eq_zero_iff.mp (by omega)
          rw [hempty, hend] at hsome
          cases hsome
        obtain ⟨fuel, rfl⟩ : ∃ f, fuel = f + 1 := ⟨fuel - 1, by omega⟩
        refine ⟨[⟨e.id, value⟩], ?_, ⟨0, [⟨e.id, value⟩], rfl, Nat.zero_le _, fun _ => hone ▸ hcut,
          Or.inr ⟨e, value, rfl, rfl⟩⟩⟩
        rw [loadEntries, hsome]
        dsimp only
        rw [loadEntries_of_none hend, hstore]
    · -- The line is complete, and the cut is behind it.
      obtain ⟨k, rfl⟩ : ∃ k, n = (decimal e.id.toNat).length + (formatG e.value).length + 2 + k :=
        ⟨n - _, (Nat.add_sub_cancel' hfull).symm⟩
      obtain ⟨value, hvalue, -⟩ := exists_reread (hfinite e List.mem_cons_self)
      have htake : (savedText (e :: es)).take
          ((decimal e.id.toNat).length + (formatG e.value).length + 2 + k) =
            decimal e.id.toNat ++ 32 :: (formatG e.value ++ 10 :: (savedText es).take k) := by
        rw [savedText_cons, show (decimal e.id.toNat).length + (formatG e.value).length + 2 + k =
          (decimal e.id.toNat).length + ((formatG e.value).length + (k + 1) + 1) by omega,
          List.take_length_add_append, List.take_succ_cons, List.take_length_add_append,
          List.take_succ_cons]
      have hread : readEntry (decimal e.id.toNat ++ 32 :: (formatG e.value ++
          10 :: (savedText es).take k)) = some (e.id, value, 10 :: (savedText es).take k) := by
        rw [readEntry, readId_decimal, Option.bind_some, extractFloat_formatG, hvalue]
        rfl
      rw [htake] at hfuel ⊢
      simp only [List.length_append, List.length_cons] at hfuel
      obtain ⟨fuel, rfl⟩ : ∃ f, fuel = f + 1 := ⟨fuel - 1, by omega⟩
      have hids : (db.setParam e.id value).ids = db.ids ++ [e.id] := by
        rw [ids, hstore, List.map_append]
        rfl
      have hrest : ((savedText es).take k).length ≤ fuel := by omega
      obtain ⟨loaded, hloaded, ⟨j, last, rfl, hle, hlt, hlast⟩⟩ :=
        ih (fun e' he' => hfinite e' (List.mem_cons_of_mem e he')) hrest
          (by rw [hids, List.append_assoc]; exact hnodup)
          (by rw [hstore, List.length_append, List.length_singleton]; omega)
      refine ⟨⟨e.id, value⟩ :: (reloaded (es.take j) ++ last), ?_, ⟨j + 1, last, ?_, ?_, ?_, hlast⟩⟩
      · rw [loadEntries, hread]
        dsimp only
        rw [loadEntries_newline, hloaded, hstore, List.append_assoc]
        rfl
      · rw [List.take_succ_cons, reloaded, hvalue]
        rfl
      · rw [List.take_succ_cons, length_savedText_cons]
        omega
      · intro hj
        have hbehind := hlt (by rw [List.length_cons] at hj; omega)
        rw [List.take_succ_cons, length_savedText_cons]
        omega

end ParamDb

namespace ParamHostOp

/-- The operation stores finite values only; a save may be cut off. -/
def Finite : ParamHostOp → Prop
  | call op => op.Finite
  | _ => True

end ParamHostOp

namespace ParamHost

open ParamDb

/-- Every number that is read is finite. -/
theorem isFinite_of_extractFloat {t rest : Text} {value : Binary32}
    (h : extractFloat t = some (value, rest)) : value.IsFinite := by
  rw [extractFloat_eq] at h
  obtain ⟨r, -, hvalue⟩ := Option.bind_eq_some_iff.mp h
  obtain ⟨value', hrange, hpair⟩ := Option.map_eq_some_iff.mp hvalue
  obtain ⟨rfl, -⟩ := Prod.mk.inj hpair
  unfold inRange at hrange
  split_ifs at hrange with hlarge
  have hmag := mag_ofMag (decide ((t.dropWhile isSpace).head? = some 45))
    (nearestMag r.1.1 r.1.2.1 r.1.2.2)
  rw [Nat.min_eq_left (not_le.mp hlarge).le, Option.some.inj hrange] at hmag
  show value'.mag < infMag
  rw [hmag]
  exact not_le.mp hlarge

/-- Whatever the file holds, what is loaded of it is sound. -/
theorem sound_load (t : Text) {db : ParamDb} (h : Sound db) : Sound (load t db) := by
  have hentries : ∀ (fuel : ℕ) (t : Text) {db : ParamDb}, Sound db →
      Sound (loadEntries fuel t db) := by
    intro fuel
    induction fuel with
    | zero => exact fun t db h => h
    | succ fuel ih =>
      intro t db h
      rw [loadEntries]
      split
      · exact h
      · rename_i id val rest hread
        unfold readEntry at hread
        obtain ⟨r, -, hvalue⟩ := Option.bind_eq_some_iff.mp hread
        obtain ⟨⟨value, tail⟩, hfloat, hpair⟩ := Option.map_eq_some_iff.mp hvalue
        obtain ⟨-, rfl, -⟩ := Prod.mk.inj hpair |>.imp_right Prod.mk.inj
        have hfinite : (Op.set id value).Finite := isFinite_of_extractFloat hfloat
        exact ih rest ⟨h.valid.apply (Op.set id value), h.finite.apply h.valid hfinite⟩
  have hloaded := hentries t.length t h
  exact ⟨⟨hloaded.valid.nodup, rfl⟩, hloaded.finite⟩

/-- The ids of a table of finite values are all loaded. -/
theorem ids_reloaded {es : List ParamEntry} (h : ParamDb.Finite es) :
    (reloaded es).map ParamEntry.id = es.map ParamEntry.id := by
  induction es with
  | nil => rfl
  | cons e es ih =>
    obtain ⟨value, hread, -⟩ := exists_reread (h e List.mem_cons_self)
    rw [reloaded, hread, List.map_cons, List.map_cons,
      ih fun e' he' => h e' (List.mem_cons_of_mem e he')]

/-- What is loaded has the first ids of the table, in their order. -/
theorem ids_of_cutOff {es loaded : List ParamEntry} {n : ℕ} (hfinite : ParamDb.Finite es)
    (h : CutOff es n loaded) : loaded.map ParamEntry.id <+: es.map ParamEntry.id := by
  obtain ⟨j, last, rfl, -, -, hlast⟩ := h
  have hfront : ParamDb.Finite (es.take j) := fun e he => hfinite e (List.mem_of_mem_take he)
  rw [List.map_append, ids_reloaded hfront, List.map_take]
  rcases hlast with rfl | ⟨e, value, he, rfl⟩
  · rw [List.map_nil, List.append_nil]
    exact List.take_prefix _ _
  · have hid : (es.map ParamEntry.id)[j]? = some e.id := by
      rw [List.getElem?_map, he]
      rfl
    have htake : (es.map ParamEntry.id).take (j + 1) = (es.map ParamEntry.id).take j ++ [e.id] := by
      rw [List.take_add_one, hid]
      rfl
    rw [List.map_singleton, ← htake]
    exact List.take_prefix _ _

/-- The running program has a sound database. -/
theorem sound_step {s : ParamHost} (h : ∀ db, s.db = some db → Sound db) {op : ParamHostOp}
    (hop : op.Finite) : ∀ db, (s.step op).db = some db → Sound db := by
  have hempty : Sound create := ⟨valid_create, fun e he => absurd he List.not_mem_nil⟩
  have hloaded : Sound s.loaded := by
    unfold loaded
    split
    · exact hempty
    · exact sound_load _ hempty
  rcases s with ⟨file, _ | db⟩
  · cases op with
    | boot => exact fun db hdb => Option.some.inj hdb ▸ hloaded
    | call | crash => exact nofun
    | shutdown | torn => exact h
  · have hsound := h db rfl
    cases op with
    | boot => exact h
    | call op =>
      intro db' hdb'
      obtain rfl := Option.some.inj hdb'
      exact ⟨hsound.valid.apply op, hsound.finite.apply hsound.valid hop⟩
    | shutdown | crash | torn => exact nofun

/-- A save that is cut off, in any run of boots, calls that store finite values, shutdowns, crashes,
and other cut saves. When the save stops behind `n` bytes, the next boot loads the entries whose
lines are complete, rounded to six digits, and perhaps the entry at the cut with some number. No id
is loaded that was not saved, their order is the same, and the checksum fits. -/
theorem torn_save_loads (ops : List ParamHostOp) (hops : ∀ op ∈ ops, op.Finite) :
    let s := run step off ops
    ∀ db, s.db = some db → ∀ n, ∃ db',
      (run step s [ParamHostOp.torn n, ParamHostOp.boot]).db = some db' ∧
        CutOff db.params n db'.params ∧ db'.ids <+: db.ids ∧ db'.verifyIntegrity = true := by
  intro s db hdb n
  have hstep (s : ParamHost) (op : ParamHostOp) (h : ∀ db, s.db = some db → Sound db)
      (hop : op.Finite) : ∀ db, (s.step op).db = some db → Sound db := sound_step h hop
  have hstart : ∀ db, off.db = some db → Sound db := nofun
  have hsound : Sound db := run_invariant_along hstep hstart (Along.of_forall_mem hops) db hdb
  have htorn : s.step (ParamHostOp.torn n) = ⟨some ((savedText db.params).take n), none⟩ := by
    simp only [step]
    rw [hdb]
  have hempty : Sound create := ⟨valid_create, fun e he => absurd he List.not_mem_nil⟩
  have hloaded := sound_load ((savedText db.params).take n) hempty
  obtain ⟨loaded, hparams, hcut⟩ := cutOff_loadEntries hsound.finite le_rfl
    (show (create.ids ++ db.params.map ParamEntry.id).Nodup from hsound.valid.nodup) (by
      rw [show create.params.length = 0 from rfl, Nat.zero_add]
      exact db.bounded)
  have hparams' : (load ((savedText db.params).take n) create).params = loaded := hparams
  refine ⟨load ((savedText db.params).take n) create, ?_, ?_, ?_, hloaded.valid.integrity⟩
  · rw [run_cons, htorn]
    rfl
  · rw [hparams']
    exact hcut
  · rw [ids, hparams']
    exact ids_of_cutOff hsound.finite hcut

/-- A table of one parameter, an eighth. -/
def anEighth : List ParamHostOp :=
  [ParamHostOp.boot, ParamHostOp.call (Op.set 1 ⟨0x3E000000⟩)]

/-- A save cut off behind six of its eight bytes leaves another value, with a checksum that fits. -/
theorem torn_save_loads_eighth :
    ((run step (run step off anEighth) [ParamHostOp.torn 6, ParamHostOp.boot]).db.map
        fun db => db.verifyIntegrity) = some true ∧
      (run step off anEighth).lookup 1 ≠
        (run step (run step off anEighth) [ParamHostOp.torn 6, ParamHostOp.boot]).lookup 1 := by
  have hsome : (run step off anEighth).db.isSome = true := by decide +kernel
  obtain ⟨db, hdb⟩ := Option.isSome_iff_exists.mp hsome
  have hfinite : (⟨0x3E000000⟩ : Binary32).IsFinite := by decide
  obtain ⟨db', hdb', -, -, hcrc⟩ := torn_save_loads anEighth
    (by simp [anEighth, ParamHostOp.Finite, Op.Finite, hfinite]) db hdb 6
  refine ⟨?_, by decide +kernel⟩
  rw [hdb', Option.map_some, hcrc]

end ParamHost

end DeltaV
