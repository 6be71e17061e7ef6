import DeltaV.Lib.DenseTable
import DeltaV.Lib.Runs
import DeltaV.Tmr.Registry

/-!
# The array of the scrub registry

The registry keeps its entries in an array, with the name, the store, and the function of each. A
registration is appended, and a removal moves the last entry into the hole. After any run of
registrations, removals, and destructions of stores, the registry holds exactly the entries that
have been accepted and not removed since, each store once, and a scrub calls the function of each
entry with the entry's own store, once (`registry_contract`). Without removals the array holds the
entries of `TmrRegistry` (`TmrTable.Represents.registerParam`).
-/

namespace DeltaV

/-- An entry of the registry; `none` is the null pointer. -/
structure TmrCriticalParamEntry (P F : Type) where
  name : Option Text
  store_ptr : Option P
  scrub_func : Option F
deriving DecidableEq

namespace TmrCriticalParamEntry

/-- The entry `{}`. -/
def blank {P F : Type} : TmrCriticalParamEntry P F := ⟨none, none, none⟩

/-- None of the pointers is null. -/
def Valid {P F : Type} (e : TmrCriticalParamEntry P F) : Prop :=
  e.name ≠ none ∧ e.store_ptr ≠ none ∧ e.scrub_func ≠ none

instance {P F : Type} (e : TmrCriticalParamEntry P F) : Decidable e.Valid :=
  inferInstanceAs (Decidable (_ ≠ _ ∧ _ ≠ _ ∧ _ ≠ _))

end TmrCriticalParamEntry

/-- The array of the registry and the number of its entries. -/
abbrev TmrTable (P F : Type) := DenseTable MAX_TMR_ENTRIES (TmrCriticalParamEntry P F)

namespace TmrTable

variable {P F : Type} [DecidableEq P]

/-- Appends an entry, unless a pointer is null, the store is registered, or the array is full. -/
def registerParam (t : TmrTable P F) (e : TmrCriticalParamEntry P F) : TmrTable P F :=
  if e.name = none ∨ e.store_ptr = none ∨ e.scrub_func = none then t
  else if (t.find TmrCriticalParamEntry.store_ptr e.store_ptr).isSome then t
  else if h : t.count < MAX_TMR_ENTRIES then t.push e h
  else t

/-- Removes the entry of a store: the last entry is moved to its place. -/
def unregisterParam (t : TmrTable P F) (store_ptr : Option P) : TmrTable P F :=
  if store_ptr = none ∨ t.count = 0 then t
  else
    match t.find TmrCriticalParamEntry.store_ptr store_ptr with
    | none => t
    | some i => if h : i.val < t.count then t.removeAt TmrCriticalParamEntry.blank i h else t

omit [DecidableEq P] in
/-- The call for an entry. -/
def scrubCall (e : TmrCriticalParamEntry P F) : Option (F × P) :=
  match e.scrub_func, e.store_ptr with
  | some f, some p => some (f, p)
  | _, _ => none

omit [DecidableEq P] in
/-- The calls that a scrub makes, in order. -/
def scrubAll (t : TmrTable P F) : List (F × P) := t.entries.filterMap scrubCall

end TmrTable

/-- The registry and the flags of the stores; a store that has not been constructed has none. -/
structure TmrStores (P F : Type) where
  table : TmrTable P F
  registered_with_registry : P → Bool

/-- What is called; a store is given by its address, and its type gives it a scrub function. -/
inductive TmrCall (P F : Type) where
  | registerParam (name : Option Text) (store_ptr : Option P) (scrub_func : Option F)
  | unregisterParam (store_ptr : Option P)
  | registerWithFdir (store : P) (scrubCallback : F) (param_name : Option Text)
  | registerStore (store : Option (P × F))
  /-- The destructor of a store. -/
  | destroy (store : P)

namespace TmrStores

variable {P F : Type}

/-- The registry at the start of the program. -/
def create (P F : Type) : TmrStores P F :=
  ⟨DenseTable.empty MAX_TMR_ENTRIES TmrCriticalParamEntry.blank, fun _ => false⟩

variable [DecidableEq P]

/-- `registerWithFdir` of a store. -/
def registerWithFdir (s : TmrStores P F) (store : P) (scrubCallback : F)
    (param_name : Option Text) : TmrStores P F :=
  ⟨s.table.registerParam ⟨param_name, some store, some scrubCallback⟩,
    Function.update s.registered_with_registry store true⟩

/-- The destructor of a store; the next store at its address begins without the flag. -/
def destroy (s : TmrStores P F) (store : P) : TmrStores P F :=
  ⟨if s.registered_with_registry store then s.table.unregisterParam (some store) else s.table,
    Function.update s.registered_with_registry store false⟩

/-- The next state. -/
def step (s : TmrStores P F) : TmrCall P F → TmrStores P F
  | TmrCall.registerParam name store_ptr scrub_func =>
    { s with table := s.table.registerParam ⟨name, store_ptr, scrub_func⟩ }
  | TmrCall.unregisterParam store_ptr => { s with table := s.table.unregisterParam store_ptr }
  | TmrCall.registerWithFdir store scrubCallback param_name =>
    s.registerWithFdir store scrubCallback param_name
  | TmrCall.registerStore none => s
  | TmrCall.registerStore (some (store, scrubCallback)) =>
    s.registerWithFdir store scrubCallback (some (ascii "tmr_store"))
  | TmrCall.destroy store => s.destroy store

end TmrStores

/-! ## Which calls register and remove -/

namespace TmrCall

variable {P F : Type}

/-- The entry that a call offers to the registry. -/
def offers : TmrCall P F → Option (TmrCriticalParamEntry P F)
  | registerParam name store_ptr scrub_func => some ⟨name, store_ptr, scrub_func⟩
  | registerWithFdir store scrubCallback param_name =>
    some ⟨param_name, some store, some scrubCallback⟩
  | registerStore (some (store, scrubCallback)) =>
    some ⟨some (ascii "tmr_store"), some store, some scrubCallback⟩
  | _ => none

end TmrCall

/-! ## The array -/

namespace TmrTable

variable {P F : Type}

/-- The entries are valid, their stores are different, and the rest of the array is blank. -/
structure Inv (t : TmrTable P F) : Prop where
  tidy : t.Tidy TmrCriticalParamEntry.blank TmrCriticalParamEntry.store_ptr
  valid : ∀ e, t.Holds e → e.Valid

/-- The entry is new and fits. -/
def Fits (t : TmrTable P F) (e : TmrCriticalParamEntry P F) : Prop :=
  e.Valid ∧ (∀ b, t.Holds b → b.store_ptr ≠ e.store_ptr) ∧ t.count < MAX_TMR_ENTRIES

variable [DecidableEq P] {t : TmrTable P F}

/-- An entry that fits is appended. -/
theorem registerParam_of_fits {e : TmrCriticalParamEntry P F} (h : t.Fits e) :
    t.registerParam e = t.push e h.2.2 := by
  obtain ⟨⟨hname, hptr, hfunc⟩, hnew, hroom⟩ := h
  have hnone : t.find TmrCriticalParamEntry.store_ptr e.store_ptr = none :=
    DenseTable.find_eq_none_iff.mpr hnew
  rw [registerParam, if_neg (by simp [hname, hptr, hfunc]), hnone, if_neg (by simp), dif_pos hroom]

/-- Any other entry is refused. -/
theorem registerParam_of_not_fits {e : TmrCriticalParamEntry P F} (h : ¬t.Fits e) :
    t.registerParam e = t := by
  unfold registerParam
  split_ifs with hnull hold hroom
  · rfl
  · rfl
  · rw [not_or, not_or] at hnull
    have hnone : t.find TmrCriticalParamEntry.store_ptr e.store_ptr = none := by
      simpa using hold
    exact absurd ⟨hnull, DenseTable.find_eq_none_iff.mp hnone, hroom⟩ h
  · rfl

/-- After a registration the table holds what it held, and the entry if it fits. -/
theorem holds_registerParam (e b : TmrCriticalParamEntry P F) :
    (t.registerParam e).Holds b ↔ b = e ∧ t.Fits e ∨ t.Holds b := by
  by_cases h : t.Fits e
  · rw [registerParam_of_fits h, DenseTable.holds_push, and_iff_left h]
  · rw [registerParam_of_not_fits h]
    exact (or_iff_right fun hb => h hb.2).symm

/-- Registering an entry keeps the table in order. -/
theorem Inv.registerParam (h : Inv t) (e : TmrCriticalParamEntry P F) :
    Inv (t.registerParam e) := by
  by_cases hfits : t.Fits e
  · refine ⟨?_, fun b hb => ?_⟩
    · rw [registerParam_of_fits hfits]
      exact h.tidy.push hfits.2.2 hfits.2.1
    · rcases (holds_registerParam e b).mp hb with ⟨rfl, -⟩ | hold
      · exact hfits.1
      · exact h.valid b hold
  · rwa [registerParam_of_not_fits hfits]

/-- A removal clears the place of a store that is registered. -/
theorem unregisterParam_eq (t : TmrTable P F) {store_ptr : Option P} (hptr : store_ptr ≠ none) :
    (t.unregisterParam store_ptr = t ∧ ∀ e, t.Holds e → e.store_ptr ≠ store_ptr) ∨
      ∃ i, ∃ h : i.val < t.count, (t.slot i).store_ptr = store_ptr ∧
        t.unregisterParam store_ptr = t.removeAt TmrCriticalParamEntry.blank i h := by
  unfold unregisterParam
  by_cases hcount : t.count = 0
  · refine Or.inl ⟨if_pos (Or.inr hcount), ?_⟩
    rintro e ⟨i, hi, -⟩
    omega
  rw [if_neg (not_or.mpr ⟨hptr, hcount⟩)]
  cases hfind : t.find TmrCriticalParamEntry.store_ptr store_ptr with
  | none => exact Or.inl ⟨rfl, DenseTable.find_eq_none_iff.mp hfind⟩
  | some i =>
    obtain ⟨hi, hkey⟩ := DenseTable.of_find_eq_some hfind
    exact Or.inr ⟨i, hi, hkey, dif_pos hi⟩

/-- After a removal, the entries of other stores are left. -/
theorem holds_unregisterParam (h : Inv t) (store_ptr : Option P)
    (b : TmrCriticalParamEntry P F) :
    (t.unregisterParam store_ptr).Holds b ↔ t.Holds b ∧ b.store_ptr ≠ store_ptr := by
  by_cases hptr : store_ptr = none
  · rw [unregisterParam, if_pos (Or.inl hptr), hptr]
    exact (and_iff_left_of_imp fun hb => (h.valid b hb).2.1).symm
  rcases unregisterParam_eq t hptr with ⟨heq, hother⟩ | ⟨i, hi, hkey, heq⟩
  · rw [heq]
    exact (and_iff_left_of_imp (hother b)).symm
  · rw [heq, DenseTable.holds_removeAt hi h.tidy, hkey]

/-- Taking a store out keeps the table in order. -/
theorem Inv.unregisterParam (h : Inv t) (store_ptr : Option P) :
    Inv (t.unregisterParam store_ptr) := by
  refine ⟨?_, fun b hb => h.valid b ((holds_unregisterParam h store_ptr b).mp hb).1⟩
  by_cases hptr : store_ptr = none
  · rw [TmrTable.unregisterParam, if_pos (Or.inl hptr)]
    exact h.tidy
  rcases unregisterParam_eq t hptr with ⟨heq, -⟩ | ⟨i, hi, -, heq⟩
  · rw [heq]
    exact h.tidy
  · rw [heq]
    exact h.tidy.removeAt hi

end TmrTable

/-! ## The registry without removals -/

namespace TmrTable

variable {P F : Type}

/-- The array holds the entries of the registry, in order. -/
def Represents (t : TmrTable P F) (r : TmrRegistry P) : Prop :=
  t.entries.map (fun e => (e.store_ptr, e.name)) =
    r.entries.entries.map fun x => (some x.1, some x.2)

/-- The stores of both are the same. -/
theorem Represents.mem_keys {t : TmrTable P F} {r : TmrRegistry P} (h : Represents t r) (p : P) :
    p ∈ r.entries.keys ↔ ∃ e, t.Holds e ∧ e.store_ptr = some p := by
  have hptrs := congrArg (List.map Prod.fst) h
  rw [List.map_map, List.map_map] at hptrs
  calc p ∈ r.entries.keys ↔
        some p ∈ r.entries.entries.map (Prod.fst ∘ fun x => (some x.1, some x.2)) := by
        rw [FirstWins.keys, List.mem_map, List.mem_map]
        exact exists_congr fun x => and_congr_right fun _ => Option.some_inj.symm
    _ ↔ ∃ e, t.Holds e ∧ e.store_ptr = some p := by
        rw [← hptrs, List.mem_map]
        exact exists_congr fun e => and_congr_left fun _ => DenseTable.mem_entries

/-- A registration makes the same entry in both. -/
theorem Represents.registerParam [DecidableEq P] {t : TmrTable P F} {r : TmrRegistry P}
    (h : Represents t r) (name : Option Text) (store_ptr : Option P) (scrub_func : Option F) :
    Represents (t.registerParam ⟨name, store_ptr, scrub_func⟩)
      (r.registerParam name store_ptr scrub_func.isSome) := by
  have hlen := congrArg List.length h
  rw [List.length_map, List.length_map, DenseTable.length_entries] at hlen
  by_cases hnull : (⟨name, store_ptr, scrub_func⟩ : TmrCriticalParamEntry P F).Valid
  · obtain ⟨hname, hptr, hfunc⟩ := hnull
    obtain ⟨n, rfl⟩ := Option.ne_none_iff_exists'.mp hname
    obtain ⟨p, rfl⟩ := Option.ne_none_iff_exists'.mp hptr
    obtain ⟨f, rfl⟩ := Option.ne_none_iff_exists'.mp hfunc
    have hvalid : (⟨some n, some p, some f⟩ : TmrCriticalParamEntry P F).Valid :=
      ⟨hname, hptr, hfunc⟩
    have hfits : t.Fits ⟨some n, some p, some f⟩ ↔
        p ∉ r.entries.keys ∧ r.entries.entries.length < MAX_TMR_ENTRIES := by
      rw [Fits, h.mem_keys, ← hlen, and_iff_right hvalid]
      exact and_congr_left fun _ => ⟨fun hnew ⟨e, he, hkey⟩ => hnew e he hkey,
        fun hnew e he hkey => hnew ⟨e, he, hkey⟩⟩
    unfold Represents
    rw [Option.isSome_some, TmrRegistry.registerParam_some, FirstWins.insert]
    by_cases hnew : t.Fits ⟨some n, some p, some f⟩
    · rw [registerParam_of_fits hnew, dif_pos (hfits.mp hnew), DenseTable.entries_push,
        List.map_append, FirstWins.push, List.map_append, h]
      rfl
    · rw [registerParam_of_not_fits hnew, dif_neg fun h => hnew (hfits.mpr h)]
      exact h
  · rw [registerParam_of_not_fits fun hfits => hnull hfits.1]
    have hsame : r.registerParam name store_ptr scrub_func.isSome = r := by
      unfold TmrRegistry.registerParam
      cases name <;> cases store_ptr <;> cases scrub_func <;>
        simp_all [TmrCriticalParamEntry.Valid]
    rwa [hsame]

end TmrTable

/-! ## Runs -/

namespace TmrStores

variable {P F : Type}

/-- The call registers an entry. -/
def Accepts (e : TmrCriticalParamEntry P F) (s : TmrStores P F) (c : TmrCall P F) : Prop :=
  c.offers = some e ∧ s.table.Fits e

/-- The call removes a store: it asks for that, or it destroys a store that has the flag. -/
def Removes (store_ptr : Option P) (s : TmrStores P F) (c : TmrCall P F) : Prop :=
  c = TmrCall.unregisterParam store_ptr ∨
    ∃ p, store_ptr = some p ∧ c = TmrCall.destroy p ∧ s.registered_with_registry p = true

variable [DecidableEq P] {s : TmrStores P F}

/-- An entry that is offered is registered if it fits, and nothing is removed. -/
theorem holds_offered {c : TmrCall P F} {b : TmrCriticalParamEntry P F}
    (hoffers : c.offers = some b) (htable : (s.step c).table = s.table.registerParam b)
    (e : TmrCriticalParamEntry P F) :
    (s.step c).table.Holds e ↔
      Accepts e s c ∨ s.table.Holds e ∧ ¬Removes e.store_ptr s c := by
  have hkeep : ¬Removes e.store_ptr s c := by
    rintro (rfl | ⟨p, -, rfl, -⟩)
    · cases hoffers
    · cases hoffers
  rw [htable, TmrTable.holds_registerParam, and_iff_left hkeep, Accepts, hoffers]
  refine or_congr_left ⟨?_, ?_⟩
  · rintro ⟨rfl, hfits⟩
    exact ⟨rfl, hfits⟩
  · rintro ⟨hb, hfits⟩
    obtain rfl := Option.some.inj hb
    exact ⟨rfl, hfits⟩

/-- An entry is held after a call when the call registers it, or when it was held and the call does
not remove its store. -/
theorem holds_step (h : s.table.Inv) (c : TmrCall P F) (e : TmrCriticalParamEntry P F) :
    (s.step c).table.Holds e ↔
      Accepts e s c ∨ s.table.Holds e ∧ ¬Removes e.store_ptr s c := by
  cases c with
  | registerParam name store_ptr scrub_func => exact holds_offered rfl rfl e
  | registerWithFdir store scrubCallback param_name => exact holds_offered rfl rfl e
  | registerStore store =>
    -- A null store never gets as far as the table.
    rcases store with _ | ⟨store, scrubCallback⟩
    · have hnone : ¬Accepts e s (TmrCall.registerStore none) := fun h => by cases h.1
      have hkeep : ¬Removes e.store_ptr s (TmrCall.registerStore none) := by
        rintro (heq | ⟨p, -, heq, -⟩)
        · cases heq
        · cases heq
      rw [or_iff_right hnone, and_iff_left hkeep]
      rfl
    · exact holds_offered rfl rfl e
  | unregisterParam store_ptr =>
    have hnone : ¬Accepts e s (TmrCall.unregisterParam store_ptr) := fun h => by cases h.1
    have hremoves : Removes e.store_ptr s (TmrCall.unregisterParam store_ptr) ↔
        e.store_ptr = store_ptr := by
      constructor
      · rintro (heq | ⟨p, -, heq, -⟩)
        · exact (TmrCall.unregisterParam.inj heq).symm
        · cases heq
      · rintro rfl
        exact Or.inl rfl
    rw [or_iff_right hnone, hremoves]
    exact TmrTable.holds_unregisterParam h store_ptr e
  | destroy store =>
    have hnone : ¬Accepts e s (TmrCall.destroy store) := fun h => by cases h.1
    have hremoves : Removes e.store_ptr s (TmrCall.destroy store) ↔
        e.store_ptr = some store ∧ s.registered_with_registry store = true := by
      constructor
      · rintro (heq | ⟨p, hp, heq, hflag⟩)
        · cases heq
        · obtain rfl := TmrCall.destroy.inj heq
          exact ⟨hp, hflag⟩
      · rintro ⟨hp, hflag⟩
        exact Or.inr ⟨store, hp, rfl, hflag⟩
    -- The destructor goes to the table only when the flag of the store is set.
    have htable : (s.step (TmrCall.destroy store)).table =
        if s.registered_with_registry store then s.table.unregisterParam (some store)
        else s.table := rfl
    rw [or_iff_right hnone, hremoves, htable]
    split_ifs with hflag
    · rw [and_iff_left hflag]
      exact TmrTable.holds_unregisterParam h (some store) e
    · exact (and_iff_left fun h => hflag h.2).symm

/-- Every call keeps the array in order. -/
theorem inv_step (s : TmrStores P F) (c : TmrCall P F) (h : s.table.Inv) :
    (s.step c).table.Inv := by
  cases c with
  | registerParam name store_ptr scrub_func => exact h.registerParam _
  | registerWithFdir store scrubCallback param_name => exact h.registerParam _
  | registerStore store =>
    rcases store with _ | ⟨store, scrubCallback⟩
    · exact h
    · exact h.registerParam ⟨some (ascii "tmr_store"), some store, some scrubCallback⟩
  | unregisterParam store_ptr => exact h.unregisterParam store_ptr
  | destroy store =>
    have htable : (s.step (TmrCall.destroy store)).table =
        if s.registered_with_registry store then s.table.unregisterParam (some store)
        else s.table := rfl
    rw [htable]
    split_ifs
    · exact h.unregisterParam _
    · exact h

omit [DecidableEq P] in
/-- The empty table is in order. -/
theorem inv_create : (create P F).table.Inv := by
  refine ⟨DenseTable.tidy_empty _ _ _, ?_⟩
  rintro e ⟨i, hi, -⟩
  exact absurd hi (Nat.not_lt_zero _)

omit [DecidableEq P] in
/-- The call for an entry has the entry's function and store. -/
theorem scrubCall_eq_some_iff {e : TmrCriticalParamEntry P F} {f : F} {p : P} :
    TmrTable.scrubCall e = some (f, p) ↔ e = ⟨e.name, some p, some f⟩ := by
  obtain ⟨name, store_ptr, scrub_func⟩ := e
  cases store_ptr <;> cases scrub_func <;> simp [TmrTable.scrubCall, and_comm]

omit [DecidableEq P] in
/-- A scrub calls the functions of the entries with their own stores. -/
theorem mem_scrubAll (t : TmrTable P F) (f : F) (p : P) :
    (f, p) ∈ t.scrubAll ↔ ∃ name, t.Holds ⟨name, some p, some f⟩ := by
  rw [TmrTable.scrubAll, List.mem_filterMap]
  constructor
  · rintro ⟨e, he, hcall⟩
    rw [scrubCall_eq_some_iff] at hcall
    exact ⟨e.name, hcall ▸ DenseTable.mem_entries.mp he⟩
  · rintro ⟨name, he⟩
    exact ⟨_, DenseTable.mem_entries.mpr he, rfl⟩

omit [DecidableEq P] in
/-- A scrub calls for every store once. -/
theorem nodup_scrubAll {t : TmrTable P F} (h : t.Inv) : (t.scrubAll.map Prod.snd).Nodup := by
  have hptrs : ∀ l : List (TmrCriticalParamEntry P F), (∀ e ∈ l, e.Valid) →
      ((l.filterMap TmrTable.scrubCall).map Prod.snd).map some =
        l.map TmrCriticalParamEntry.store_ptr := by
    intro l hl
    induction l with
    | nil => rfl
    | cons e l ih =>
      obtain ⟨⟨-, hptr, hfunc⟩, hl⟩ := List.forall_mem_cons.mp hl
      obtain ⟨p, hp⟩ := Option.ne_none_iff_exists'.mp hptr
      obtain ⟨f, hf⟩ := Option.ne_none_iff_exists'.mp hfunc
      have hcall : TmrTable.scrubCall e = some (f, p) := by
        rw [TmrTable.scrubCall, hf, hp]
      rw [List.filterMap_cons_some hcall, List.map_cons, List.map_cons, List.map_cons, ih hl, hp]
  have hnodup := h.tidy.nodup_entries
  rw [← hptrs t.entries fun e he => h.valid e (DenseTable.mem_entries.mp he)] at hnodup
  exact hnodup.of_map

/-- After any calls, the array holds up to 64 entries of different stores and is blank behind them;
it holds exactly what has been registered, that is, was offered, valid and new when there was room,
and has not been removed since; and a scrub calls the function of every entry once, with the entry's
own store. -/
theorem registry_contract (calls : List (TmrCall P F)) :
    let s := run step (create P F) calls
    s.table.count ≤ MAX_TMR_ENTRIES ∧
      (∀ i : Fin MAX_TMR_ENTRIES, i.val < s.table.count → (s.table.slot i).Valid) ∧
      (∀ i j : Fin MAX_TMR_ENTRIES, i.val < s.table.count → j.val < s.table.count →
        (s.table.slot i).store_ptr = (s.table.slot j).store_ptr → i = j) ∧
      (∀ i : Fin MAX_TMR_ENTRIES, s.table.count ≤ i.val →
        s.table.slot i = TmrCriticalParamEntry.blank) ∧
      (∀ e, s.table.Holds e ↔ ∃ pre c post, calls = pre ++ c :: post ∧
        Accepts e (run step (create P F) pre) c ∧
          Along step (fun s c => ¬Removes e.store_ptr s c)
            ((run step (create P F) pre).step c) post) ∧
      (s.table.scrubAll.map Prod.snd).Nodup ∧
        ∀ f p, (f, p) ∈ s.table.scrubAll ↔ ∃ name, s.table.Holds ⟨name, some p, some f⟩ := by
  intro s
  have h : s.table.Inv := run_invariant inv_step inv_create calls
  refine ⟨s.table.count_le, fun i hi => h.valid _ ⟨i, hi, rfl⟩, h.tidy.distinct, h.tidy.blank,
    fun e => ?_, nodup_scrubAll h, mem_scrubAll s.table⟩
  refine holds_run_iff (fun s : TmrStores P F => s.table.Holds e) (Accepts e)
    (Removes e.store_ptr) inv_step (fun s c h => holds_step h c e) inv_create ?_ calls
  rintro ⟨i, hi, -⟩
  exact absurd hi (Nat.not_lt_zero _)

end TmrStores

end DeltaV
