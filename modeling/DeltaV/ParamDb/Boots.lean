import DeltaV.ParamDb.Persistence

/-!
# Parameters across boots

`main` loads the file of parameters before anything else and saves it after a clean shutdown, so a
value lives through any number of boots as text. A finite number is always read back, as the number
nearest to its six digits (`exists_reread`), and that number is printed with the same six digits. So
a parameter is rounded at most once: from the first boot on it comes back the same every time
(`params_survive_boots`).

The file is written in place. When the process stops while it writes, the file is cut anywhere, and
the next boot loads the entries in front of the cut. The number at the cut is read as far as it
goes, and nothing shows that it is not the one that was saved (`torn_save_loads`).
-/

namespace DeltaV

open Binary32 SixDigits

/-! ## What is read of a finite number -/

/-- The digits of the largest finite number are not rounded up, so no finite number is printed as
one that is out of range. -/
theorem digits_mul_weight_le {n : ℕ} (hn : 0 < n) (hfinite : n < infMag) :
    digits (ulps n) * weight (ulps n) ≤ ulps (infMag - 1) * 10^50 := by
  have hpos : 0 < ulps n := ulps_strictMono hn
  have hle : ulps n ≤ ulps (infMag - 1) := ulps_strictMono.monotone (by omega)
  have hlargest : ulps (infMag - 1) = (2^24 - 1) * 2^253 := by decide +kernel
  have hlead : lead (ulps n) < 89 := by
    refine Nat.log_lt_of_lt_pow ?_ ?_
    · have hlo := five_le_lead hpos
      unfold lead at hlo
      rintro hzero
      rw [hzero, Nat.log_zero_right] at hlo
      omega
    · rw [Nat.div_lt_iff_lt_mul (by positivity)]
      rw [hlargest] at hle
      omega
  have hweight : weight (ulps n) = 10^(lead (ulps n) - 5) * 2^149 := rfl
  rcases Nat.lt_or_ge (lead (ulps n)) 88 with hlow | hhigh
  · have hpow : 10^(lead (ulps n) - 5) ≤ 10^82 := Nat.pow_le_pow_right (by decide) (by omega)
    have hdigits := (digits_bounds hpos).2
    have hsmall : weight (ulps n) ≤ 10^82 * 2^149 := by
      rw [hweight]
      exact Nat.mul_le_mul_right _ hpow
    calc digits (ulps n) * weight (ulps n) ≤ 10^6 * (10^82 * 2^149) :=
          Nat.mul_le_mul hdigits hsmall
      _ ≤ ulps (infMag - 1) * 10^50 := by
        rw [hlargest]
        norm_num
  · -- The number has the same first place as the largest one.
    have hplace : lead (ulps n) = 88 := by omega
    rw [hplace] at hweight
    obtain ⟨-, hround⟩ := roundHalfEven_bounds (ulps n * 10^50) (weight_pos (ulps n))
    change 2 * (digits (ulps n) * weight (ulps n)) ≤ _ at hround
    rw [hweight] at hround ⊢
    rw [hlargest] at hle ⊢
    omega

/-- A finite number is read back, as a number that is the nearest to six digits. -/
theorem exists_reread {value : Binary32} (h : value.IsFinite) :
    ∃ value', reread value = some value' ∧ HasSixDigits value' := by
  rcases Nat.eq_zero_or_pos value.mag with hzero | hpos
  · have hself : reread value = some value := by
      unfold reread
      rw [if_neg (not_not.mpr h), if_pos hzero]
    exact ⟨value, hself, (reread_eq_some_iff value).mp hself⟩
  · have hunits : 0 < ulps value.mag := ulps_strictMono hpos
    set d := printed (ulps value.mag) with hd
    have hvalue : d.1 * 10^d.2 * 2^149 = digits (ulps value.mag) * weight (ulps value.mag) * 10^5 :=
      printed_value hunits
    have hmag : roundQuot (d.1 * 10^d.2 * 2^149) (10^55) ≤ infMag - 1 := by
      have hbound := digits_mul_weight_le hpos h
      have hle : d.1 * 10^d.2 * 2^149 * 1 ≤ ulps (infMag - 1) * 10^55 :=
        calc d.1 * 10^d.2 * 2^149 * 1 =
              digits (ulps value.mag) * weight (ulps value.mag) * 10^5 := by rw [hvalue, Nat.mul_one]
          _ ≤ ulps (infMag - 1) * 10^50 * 10^5 := Nat.mul_le_mul_right _ hbound
          _ = ulps (infMag - 1) * 10^55 := by ring
      calc roundQuot (d.1 * 10^d.2 * 2^149) (10^55) ≤ roundQuot (ulps (infMag - 1)) 1 :=
            roundQuot_le_roundQuot (by positivity) Nat.one_pos hle
        _ = infMag - 1 := roundQuot_ulps _
    have hinf : 0 < infMag := by norm_num [infMag]
    have hlt : roundQuot (d.1 * 10^d.2 * 2^149) (10^55) < infMag :=
      lt_of_le_of_lt hmag (Nat.sub_lt hinf Nat.one_pos)
    refine ⟨ofMag value.neg (roundQuot (d.1 * 10^d.2 * 2^149) (10^55)), ?_, ?_, d.1, d.2, 55,
      (printed_bounds hunits).2, ?_⟩
    · unfold reread
      rw [if_neg (not_not.mpr h), if_neg hpos.ne', inRange]
      exact if_neg (not_le.mpr hlt)
    · show (ofMag value.neg _).mag < infMag
      rw [mag_ofMag, Nat.min_eq_left hlt.le]
      exact hlt
    · rw [mag_ofMag, Nat.min_eq_left hlt.le]

/-- What was read is read back the same. -/
theorem reread_of_reread {value value' : Binary32} (h : reread value = some value') :
    reread value' = some value' := by
  have hfinite : value.IsFinite := by
    by_contra hnot
    unfold reread at h
    rw [if_pos hnot] at h
    cases h
  obtain ⟨value'', hread, hdigits⟩ := exists_reread hfinite
  obtain rfl : value'' = value' := Option.some.inj (hread.symm.trans h)
  exact (reread_eq_some_iff _).mpr hdigits

namespace ParamDb

/-! ## Files of readable tables -/

/-- Loading keeps a table valid, whatever the text. -/
theorem valid_load (t : Text) {db : ParamDb} (h : db.Valid) : (load t db).Valid := by
  have hentries : ∀ (fuel : ℕ) (t : Text) {db : ParamDb}, db.Valid →
      (loadEntries fuel t db).Valid := by
    intro fuel
    induction fuel with
    | zero => exact fun t db h => h
    | succ fuel ih =>
      intro t db h
      rw [loadEntries]
      split
      · exact h
      · rename_i id val rest _
        exact ih rest (h.apply (Op.set id val))
  exact ⟨(hentries t.length t h).nodup, rfl⟩

/-- Every value of the table is finite. -/
def Finite (params : List ParamEntry) : Prop := ∀ e ∈ params, e.value.IsFinite

/-- A file of finite values is loaded with each of them rounded to six digits. -/
theorem findValue_reloaded_of_finite {es : List ParamEntry} (h : Finite es) (k : UInt32) :
    findValue (reloaded es) k = (findValue es k).bind reread := by
  induction es with
  | nil => rfl
  | cons e es ih =>
    have hrest : Finite es := fun e' he' => h e' (List.mem_cons_of_mem e he')
    obtain ⟨value, hread, -⟩ := exists_reread (h e List.mem_cons_self)
    have htail := ih hrest
    rw [reloaded, hread]
    unfold findValue at htail ⊢
    rw [List.find?_cons, List.find?_cons]
    by_cases hk : e.id = k
    · simp [hk, hread]
    · simpa [hk] using htail

/-- The table that is loaded again from finite entries is finite. -/
theorem finite_reloaded (es : List ParamEntry) : Finite (reloaded es) := by
  induction es with
  | nil => exact fun e he => absurd he List.not_mem_nil
  | cons e es ih =>
    rw [reloaded]
    split
    · exact fun e he => absurd he List.not_mem_nil
    · rename_i value hread
      have hself := (reread_eq_some_iff value).mp (reread_of_reread hread)
      exact List.forall_mem_cons.mpr ⟨hself.1, ih⟩

/-- The call stores finite values only. -/
def Op.Finite : Op → Prop
  | Op.get _ default_val => default_val.IsFinite
  | Op.set _ value => value.IsFinite

/-- Values of a table are those of its ids. -/
theorem finite_iff_lookup {db : ParamDb} (h : db.Valid) :
    ParamDb.Finite db.params ↔ ∀ k value, db.lookup k = some value → value.IsFinite := by
  constructor
  · intro hfinite k value hlookup
    unfold lookup findValue at hlookup
    obtain ⟨e, he, rfl⟩ := Option.map_eq_some_iff.mp hlookup
    exact hfinite e (List.mem_of_find?_eq_some he)
  · intro hlookup e he
    obtain ⟨i, hi, rfl⟩ := List.getElem_of_mem he
    exact hlookup _ _ (h.lookup_of_getElem? (List.getElem?_eq_getElem hi))

/-- A call that stores finite values keeps the table finite. -/
theorem Finite.apply {db : ParamDb} (hvalid : db.Valid) (h : Finite db.params) {op : Op}
    (hop : op.Finite) : Finite (db.apply op).params := by
  by_cases hquiet : db.Quiet op
  · rw [apply_of_quiet hquiet]
    exact h
  · rw [finite_iff_lookup (hvalid.apply op)]
    have hbefore := (finite_iff_lookup hvalid).mp h
    intro k value hlookup
    cases op with
    | get param_id default_val =>
      rw [Quiet, not_or] at hquiet
      rw [ParamDb.apply, getParam_eq_getLocked,
        (stored_getLocked hquiet.1 hquiet.2 default_val).2.lookup] at hlookup
      split_ifs at hlookup
      · obtain rfl := Option.some.inj hlookup
        exact hop
      · exact hbefore k value hlookup
    | set param_id value' =>
      rw [ParamDb.apply, (stored_setParam hquiet value').lookup] at hlookup
      split_ifs at hlookup
      · obtain rfl := Option.some.inj hlookup
        exact hop
      · exact hbefore k value hlookup

/-- The call does not set the id. -/
def Op.Leaves (k : UInt32) : Op → Prop
  | Op.get _ _ => True
  | Op.set param_id _ => k ≠ param_id

/-- A call keeps the value of an id that it does not set. -/
theorem lookup_apply {db : ParamDb} {k : UInt32} {value : Binary32} (h : db.lookup k = some value)
    {op : Op} (hop : op.Leaves k) : (db.apply op).lookup k = some value := by
  cases op with
  | get param_id default_val =>
    rw [ParamDb.apply, getParam_eq_getLocked]
    exact lookup_getLocked h param_id default_val
  | set param_id value' => exact (lookup_setParam hop value').trans h

end ParamDb

/-! ## Boots -/

/-- The parameters of the program while it runs, and the file that they are saved in. -/
structure ParamHost where
  /-- The file, if there is one. -/
  file : Option Text
  /-- The database, while the program runs. -/
  db : Option ParamDb

/-- What can happen next. -/
inductive ParamHostOp where
  /-- The program is started and loads the file. -/
  | boot
  | call (op : ParamDb.Op)
  /-- A clean shutdown, which saves the file. -/
  | shutdown
  /-- The program stops without saving: `main` returns early, or the process ends. -/
  | crash
  /-- The process stops while it saves, when that many bytes have been written. -/
  | torn (written : ℕ)

namespace ParamHost

open ParamDb

/-- The database that a boot loads. -/
def loaded (s : ParamHost) : ParamDb :=
  match s.file with
  | none => create
  | some t => load t create

/-- The next state. -/
def step (s : ParamHost) : ParamHostOp → ParamHost
  | ParamHostOp.boot =>
    match s.db with
    | none => { s with db := some s.loaded }
    | some _ => s
  | ParamHostOp.call op => { s with db := s.db.map fun db => db.apply op }
  | ParamHostOp.shutdown =>
    match s.db with
    | none => s
    | some db => ⟨some (savedText db.params), none⟩
  | ParamHostOp.crash => { s with db := none }
  | ParamHostOp.torn written =>
    match s.db with
    | none => s
    | some db => ⟨some ((savedText db.params).take written), none⟩

/-- Before the first boot. -/
def off : ParamHost := ⟨none, none⟩

/-- The value of a parameter while the program runs. -/
def lookup (s : ParamHost) (k : UInt32) : Option Binary32 := s.db.bind fun db => db.lookup k

end ParamHost

namespace ParamHostOp

/-- The operation stores finite values only, and no save is cut off. -/
def Clean : ParamHostOp → Prop
  | call op => op.Finite
  | torn _ => False
  | _ => True

/-- The operation does not set the id. -/
def Leaves (k : UInt32) : ParamHostOp → Prop
  | call op => op.Leaves k
  | _ => True

end ParamHostOp

namespace ParamHost

open ParamDb

/-- A database is as the calls leave it, with finite values. -/
structure Sound (db : ParamDb) : Prop where
  valid : db.Valid
  finite : Finite db.params

/-- The file is that of a sound database, and the program runs with a sound one. -/
structure Kept (s : ParamHost) : Prop where
  file : ∀ t, s.file = some t → ∃ saved, Sound saved ∧ t = savedText saved.params
  db : ∀ db, s.db = some db → Sound db

/-- A file that was saved is loaded with every value rounded to six digits. -/
theorem loaded_saved {s : ParamHost} {saved : ParamDb} (h : Sound saved)
    (hfile : s.file = some (savedText saved.params)) :
    Sound s.loaded ∧ ∀ k, s.loaded.lookup k = (saved.lookup k).bind reread := by
  have hload : s.loaded = load (savedText saved.params) create := by
    rw [loaded, hfile]
  have hparams := params_load h.valid
  rw [hload]
  refine ⟨⟨valid_load _ valid_create, ?_⟩, fun k => ?_⟩
  · rw [hparams]
    exact finite_reloaded _
  · rw [ParamDb.lookup, hparams]
    exact findValue_reloaded_of_finite h.finite k

/-- A table loaded from kept files is sound. -/
theorem Kept.loaded {s : ParamHost} (h : s.Kept) : Sound s.loaded := by
  cases hfile : s.file with
  | none =>
    have hload : s.loaded = create := by rw [ParamHost.loaded, hfile]
    rw [hload]
    exact ⟨valid_create, fun e he => absurd he List.not_mem_nil⟩
  | some t =>
    obtain ⟨saved, hsound, rfl⟩ := h.file t hfile
    exact (loaded_saved hsound hfile).1

/-- A clean operation keeps file and database sound. -/
theorem Kept.step {s : ParamHost} (h : s.Kept) {op : ParamHostOp} (hop : op.Clean) :
    (s.step op).Kept := by
  have hloaded := h.loaded
  rcases s with ⟨file, _ | db⟩
  · -- The program does not run, and only a boot does something.
    cases op with
    | boot => exact ⟨h.file, fun db hdb => Option.some.inj hdb ▸ hloaded⟩
    | call op => exact ⟨h.file, nofun⟩
    | shutdown => exact h
    | crash => exact ⟨h.file, nofun⟩
    | torn written => exact h
  · have hsound := h.db db rfl
    cases op with
    | boot => exact h
    | call op =>
      refine ⟨h.file, fun db' hdb' => ?_⟩
      obtain rfl := Option.some.inj hdb'
      exact ⟨hsound.valid.apply op, hsound.finite.apply hsound.valid hop⟩
    | shutdown =>
      refine ⟨fun t ht => ?_, nofun⟩
      obtain rfl := Option.some.inj ht
      exact ⟨db, hsound, rfl⟩
    | crash => exact ⟨h.file, nofun⟩
    | torn written => exact hop.elim

/-- Clean operations keep what the host keeps. -/
theorem kept_run {ops : List ParamHostOp} {s : ParamHost} (hs : s.Kept)
    (hops : ∀ op ∈ ops, op.Clean) : (run step s ops).Kept := by
  have hstep (s : ParamHost) (op : ParamHostOp) (h : s.Kept) (hop : op.Clean) : (s.step op).Kept :=
    h.step hop
  exact run_invariant_along hstep hs (Along.of_forall_mem hops)

/-- The parameter has settled at a value: it is read of the file, and the running program has it. -/
structure Settled (k : UInt32) (value : Binary32) (s : ParamHost) : Prop where
  fixed : reread value = some value
  file : ∃ saved, Sound saved ∧ s.file = some (savedText saved.params) ∧
    (saved.lookup k).bind reread = some value
  db : ∀ db, s.db = some db → Sound db ∧ db.lookup k = some value

/-- A clean operation that does not set the parameter leaves it settled. -/
theorem Settled.step {k : UInt32} {value : Binary32} {s : ParamHost} (h : Settled k value s)
    {op : ParamHostOp} (hop : op.Clean ∧ op.Leaves k) : Settled k value (s.step op) := by
  obtain ⟨saved, hsaved, hfile, hvalue⟩ := h.file
  obtain ⟨hsound, hlookup⟩ := loaded_saved hsaved hfile
  rcases s with ⟨file, _ | db⟩
  · cases op with
    | boot =>
      refine ⟨h.fixed, h.file, fun db hdb => ?_⟩
      obtain rfl := Option.some.inj hdb
      exact ⟨hsound, (hlookup k).trans hvalue⟩
    | call op => exact ⟨h.fixed, h.file, nofun⟩
    | shutdown => exact h
    | crash => exact ⟨h.fixed, h.file, nofun⟩
    | torn written => exact h
  · obtain ⟨hsound', hvalue'⟩ := h.db db rfl
    cases op with
    | boot => exact h
    | call op =>
      refine ⟨h.fixed, h.file, fun db' hdb' => ?_⟩
      obtain rfl := Option.some.inj hdb'
      exact ⟨⟨hsound'.valid.apply op, hsound'.finite.apply hsound'.valid hop.1⟩,
        lookup_apply hvalue' hop.2⟩
    | shutdown =>
      -- The value that is saved has the six digits that it was read of.
      refine ⟨h.fixed, ⟨db, hsound', rfl, ?_⟩, nofun⟩
      rw [hvalue', Option.bind_some, h.fixed]
    | crash => exact ⟨h.fixed, h.file, nofun⟩
    | torn written => exact hop.1.elim

/-- Parameters across boots, over every run of boots, calls that store finite values, clean
shutdowns, and crashes that are not in the middle of a save. A shutdown and a boot bring every
parameter back as the number nearest to its six digits. From a boot on, a parameter that is not set
comes back the same from every later boot, however many shutdowns and crashes there are. -/
theorem params_survive_boots (ops : List ParamHostOp) (hops : ∀ op ∈ ops, op.Clean) :
    let s := run step off ops
    (∀ db, s.db = some db → ∀ k,
        (run step s [ParamHostOp.shutdown, ParamHostOp.boot]).lookup k =
            (db.lookup k).bind reread ∧
          ∀ value, db.lookup k = some value → (reread value).isSome = true) ∧
      ∀ k value, s.db = none → (s.step ParamHostOp.boot).lookup k = some value →
        ∀ later, (∀ op ∈ later, op.Clean ∧ op.Leaves k) → ∀ db,
          (run step s (ParamHostOp.boot :: later)).db = some db → db.lookup k = some value := by
  intro s
  have hkept : s.Kept := kept_run ⟨nofun, nofun⟩ hops
  refine ⟨fun db hdb k => ⟨?_, fun value hvalue => ?_⟩, fun k value hoff hboot later hlater db hdb =>
    ?_⟩
  · have hshutdown : s.step ParamHostOp.shutdown = ⟨some (savedText db.params), none⟩ := by
      simp only [step]
      rw [hdb]
    obtain ⟨-, hlookup⟩ := loaded_saved (s := ⟨some (savedText db.params), none⟩) (hkept.db db hdb)
      rfl
    rw [run_cons, hshutdown]
    exact hlookup k
  · have hsound := hkept.db db hdb
    obtain ⟨value', hread, -⟩ :=
      exists_reread ((finite_iff_lookup hsound.valid).mp hsound.finite k value hvalue)
    rw [hread]
    rfl
  · have hstart : s.step ParamHostOp.boot = { s with db := some s.loaded } := by
      simp only [step]
      rw [hoff]
    rw [hstart] at hboot
    have hboot' : s.loaded.lookup k = some value := hboot
    -- The value was read of the file, so there is one.
    have hsettled : Settled k value (s.step ParamHostOp.boot) := by
      rw [hstart]
      cases hfile : s.file with
      | none =>
        rw [loaded, hfile] at hboot'
        cases hboot'
      | some t =>
        obtain ⟨saved, hsaved, rfl⟩ := hkept.file t hfile
        obtain ⟨hsound, hlookup⟩ := loaded_saved hsaved hfile
        have hread := (hlookup k).symm.trans hboot'
        obtain ⟨value', -, hfixed⟩ := Option.bind_eq_some_iff.mp hread
        refine ⟨reread_of_reread hfixed, ⟨saved, hsaved, rfl, hread⟩, fun db' hdb' => ?_⟩
        obtain rfl := Option.some.inj hdb'
        exact ⟨hsound, hboot'⟩
    have hstep (s : ParamHost) (op : ParamHostOp) (h : Settled k value s)
        (hop : op.Clean ∧ op.Leaves k) : Settled k value (s.step op) := h.step hop
    rw [run_cons] at hdb
    exact ((run_invariant_along hstep hsettled (Along.of_forall_mem hlater)).db db hdb).2

/-- A parameter with seven digits, saved once. -/
def sevenDigits : List ParamHostOp :=
  [ParamHostOp.boot, ParamHostOp.call (Op.set 1 (Binary32.ofNat 1234567)), ParamHostOp.shutdown]

/-- It is rounded once, and comes back the same from two more boots. -/
theorem params_survive_boots_seven :
    (run step (run step off sevenDigits) [ParamHostOp.boot, ParamHostOp.crash, ParamHostOp.boot,
      ParamHostOp.shutdown, ParamHostOp.boot]).lookup 1 = some (Binary32.ofNat 1234570) := by
  have hsome : (run step (run step off sevenDigits) [ParamHostOp.boot, ParamHostOp.crash,
      ParamHostOp.boot, ParamHostOp.shutdown, ParamHostOp.boot]).db.isSome = true := by
    decide +kernel
  obtain ⟨db, hdb⟩ := Option.isSome_iff_exists.mp hsome
  rw [lookup, hdb, Option.bind_some]
  have hfinite : (Binary32.ofNat 1234567).IsFinite := by decide +kernel
  exact (params_survive_boots sevenDigits
    (by simp [sevenDigits, ParamHostOp.Clean, Op.Finite, hfinite])).2 1 (Binary32.ofNat 1234570) rfl
    (by decide +kernel) _ (by simp [ParamHostOp.Clean, ParamHostOp.Leaves]) db hdb

end ParamHost

end DeltaV
