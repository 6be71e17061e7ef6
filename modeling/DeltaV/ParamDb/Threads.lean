import DeltaV.ParamDb.Model
import Mathlib.Logic.Function.Basic

/-!
# Threads on the parameter database

Any number of threads call `getParam` and `setParam` in any order. What `setParam` does under the
lock is one action. `getParam` reads the count, reads the ids of that many entries one by one, and
loads the value of the entry it finds; when it finds none, the rest of it, under the lock, is one
action. The log holds the stores that took effect, newest first, and a call of `getParam` notes the
log it began with, so a result is `Fresh` when it is no older than the last store of that log.

The table and the log say the same (`Inv`), which every action keeps (`Inv.step`), and a call of
`getParam` returns after a bounded number of its own actions (`Pc.remaining`).
-/

namespace DeltaV

namespace ParamDb

/-- The stores that took effect, newest first. -/
abbrev Log := List (UInt32 × Binary32)

/-- The last value stored for an id. -/
def lastStored (log : Log) (param_id : UInt32) : Option Binary32 :=
  (log.find? fun e => e.1 = param_id).map Prod.snd

/-- A call of `getParam`. -/
structure Call where
  param_id : UInt32
  default_val : Binary32
  /-- The log when the call began. -/
  began : Log

/-- Where a thread is. -/
inductive Pc where
  | idle
  /-- `getParam` has been called. -/
  | counting (c : Call)
  /-- `getParam` has read the count and the ids before the place. -/
  | scanning (c : Call) (n i : ℕ)
  /-- `getParam` has found its id. -/
  | loading (c : Call) (i : ℕ)
  /-- `getParam` has not found its id. -/
  | locking (c : Call)
  /-- `setParam` has been called. -/
  | setting (param_id : UInt32) (value : Binary32)

/-- A call of `getParam` that has returned. -/
structure Return where
  call : Call
  value : Binary32
  /-- The log when the call returned. -/
  now : Log

/-- The database, its threads, and what is recorded of them. -/
structure Shared (τ : Type*) where
  db : ParamDb
  threads : τ → Pc
  log : Log
  returns : List Return

/-- Who acts next. -/
inductive Act (τ : Type*) where
  /-- A thread that is idle calls `getParam`. -/
  | getParam (t : τ) (param_id : UInt32) (default_val : Binary32)
  /-- A thread that is idle calls `setParam`. -/
  | setParam (t : τ) (param_id : UInt32) (value : Binary32)
  /-- A thread takes its next action. -/
  | step (t : τ)
deriving DecidableEq

namespace Shared

variable {τ : Type*}

/-- An empty database, and nobody in a call. -/
def create (τ : Type*) : Shared τ := ⟨ParamDb.create, fun _ => Pc.idle, [], []⟩

variable [DecidableEq τ]

/-- Moves a thread. -/
def setThread (s : Shared τ) (t : τ) (pc : Pc) : Shared τ :=
  { s with threads := Function.update s.threads t pc }

/-- A call returns. -/
def ret (s : Shared τ) (t : τ) (c : Call) (value : Binary32) : Shared τ :=
  { s with returns := ⟨c, value, s.log⟩ :: s.returns }.setThread t Pc.idle

/-- `getParam` under the lock, which stores a new id while there is room. -/
def lockedGet (s : Shared τ) (c : Call) : Shared τ :=
  { s with
    db := (s.db.getLocked c.param_id c.default_val).2
    log :=
      if c.param_id ∈ s.db.ids ∨ s.db.params.length = MAX_PARAMS then s.log
      else (c.param_id, c.default_val) :: s.log }

/-- `setParam` under the lock, which stores unless the id is new and there is no room. -/
def lockedSet (s : Shared τ) (param_id : UInt32) (value : Binary32) : Shared τ :=
  { s with
    db := s.db.setParam param_id value
    log := if s.db.Refuses param_id then s.log else (param_id, value) :: s.log }

/-- The next action of a thread. -/
def stepThread (s : Shared τ) (t : τ) : Shared τ :=
  match s.threads t with
  | Pc.idle => s
  | Pc.counting c => s.setThread t (Pc.scanning c s.db.params.length 0)
  | Pc.scanning c n i =>
    if i < n then
      if (s.db.params.getD i default).id = c.param_id then s.setThread t (Pc.loading c i)
      else s.setThread t (Pc.scanning c n (i + 1))
    else s.setThread t (Pc.locking c)
  | Pc.loading c i => s.ret t c (s.db.params.getD i default).value
  | Pc.locking c => (s.lockedGet c).ret t c (s.db.getLocked c.param_id c.default_val).1
  | Pc.setting param_id value => (s.lockedSet param_id value).setThread t Pc.idle

/-- One action. -/
def step (s : Shared τ) : Act τ → Shared τ
  | Act.getParam t param_id default_val =>
    match s.threads t with
    | Pc.idle => s.setThread t (Pc.counting ⟨param_id, default_val, s.log⟩)
    | _ => s
  | Act.setParam t param_id value =>
    match s.threads t with
    | Pc.idle => s.setThread t (Pc.setting param_id value)
    | _ => s
  | Act.step t => s.stepThread t

end Shared

/-! ## The log -/

/-- The value was stored after the call began, or was the last one stored before that; or the id
had never been stored when the call returned, and the value is the default. -/
def Return.Fresh (r : Return) : Prop :=
  (∃ since, r.now = since ++ r.call.began ∧
    ((r.call.param_id, r.value) ∈ since ∨
      lastStored r.call.began r.call.param_id = some r.value)) ∨
  (r.call.param_id ∉ r.now.map Prod.fst ∧ r.value = r.call.default_val)

/-- The last value stored is that of the newest record about the identifier. -/
theorem lastStored_cons (log : Log) (param_id : UInt32) (value : Binary32) (k : UInt32) :
    lastStored ((param_id, value) :: log) k =
      if k = param_id then some value else lastStored log k := by
  unfold lastStored
  rw [List.find?_cons]
  by_cases h : k = param_id
  · simp [h]
  · simp [h, Ne.symm h]

/-- An id that was never stored has no last value. -/
theorem notMem_of_lastStored {log : Log} {k : UInt32} (h : lastStored log k = none) :
    k ∉ log.map Prod.fst := by
  rw [lastStored, Option.map_eq_none_iff, List.find?_eq_none] at h
  rw [List.mem_map]
  rintro ⟨e, he, rfl⟩
  exact h e he (decide_eq_true rfl)

/-- The last value of an id is fresh. -/
theorem fresh_of_lastStored {c : Call} {value : Binary32} {now : Log} (hbegan : c.began <:+ now)
    (h : lastStored now c.param_id = some value) : Return.Fresh ⟨c, value, now⟩ := by
  obtain ⟨since, rfl⟩ := hbegan
  refine Or.inl ⟨since, rfl, ?_⟩
  -- It was stored since the call began, or it is what the call began with.
  cases hsince : lastStored since c.param_id with
  | some value' =>
    left
    rw [lastStored, List.find?_append, Option.map_or] at h
    change (lastStored since c.param_id).or _ = some value at h
    rw [hsince, Option.some_or] at h
    cases h
    obtain ⟨e, hfind, rfl⟩ := Option.map_eq_some_iff.mp hsince
    have hkey : e.1 = c.param_id := by simpa using List.find?_some hfind
    rw [← hkey]
    exact List.mem_of_find?_eq_some hfind
  | none =>
    right
    rw [lastStored, List.find?_append, Option.map_or] at h
    change (lastStored since c.param_id).or (lastStored c.began c.param_id) = some value at h
    rwa [hsince, Option.none_or] at h

/-- The database changes together with the log: not at all, or by one store. -/
inductive Advances (db : ParamDb) (log : Log) : ParamDb → Log → Prop
  | same : Advances db log db log
  | stored {param_id : UInt32} {value : Binary32} {db' : ParamDb}
      (h : Stored db param_id value db') : Advances db log db' ((param_id, value) :: log)

namespace Advances

variable {db db' : ParamDb} {log log' : Log}

/-- The identifiers of a table that advances are kept in their order. -/
theorem prefix_ids (h : Advances db log db' log') : db.ids <+: db'.ids := by
  cases h with
  | same => exact List.prefix_refl _
  | stored h => exact h.prefix_ids

/-- The log of a table that advances is kept below the new records. -/
theorem log_suffix (h : Advances db log db' log') : log <:+ log' := by
  cases h with
  | same => exact List.suffix_refl _
  | stored h => exact List.suffix_cons _ _

/-- A valid table stays valid as it advances. -/
theorem valid (h : Advances db log db' log') (hdb : db.Valid) : db'.Valid := by
  cases h with
  | same => exact hdb
  | stored h => exact h.valid hdb

/-- The table goes on saying what the log says. -/
theorem agrees (h : Advances db log db' log') (hdb : ∀ k, db.lookup k = lastStored log k)
    (k : UInt32) : db'.lookup k = lastStored log' k := by
  cases h with
  | same => exact hdb k
  | stored h => rw [h.lookup, lastStored_cons, hdb]

end Advances

namespace Shared

variable {τ : Type*}

/-- `setParam` under the lock is one store or nothing. -/
theorem advances_lockedSet (s : Shared τ) (param_id : UInt32) (value : Binary32) :
    Advances s.db s.log (s.lockedSet param_id value).db (s.lockedSet param_id value).log := by
  unfold lockedSet
  by_cases hrefuses : s.db.Refuses param_id
  · rw [if_pos hrefuses, setParam_of_refuses hrefuses]
    exact Advances.same
  · rw [if_neg hrefuses]
    exact Advances.stored (stored_setParam hrefuses value)

/-- So is `getParam` under the lock. -/
theorem advances_lockedGet (s : Shared τ) (c : Call) :
    Advances s.db s.log (s.lockedGet c).db (s.lockedGet c).log := by
  unfold lockedGet
  cases hfind : s.db.lookup c.param_id with
  | some value =>
    have hmem : c.param_id ∈ s.db.ids := by
      by_contra hnew
      rw [lookup_eq_none_iff.mpr hnew] at hfind
      cases hfind
    rw [if_pos (Or.inl hmem), getLocked_of_lookup hfind]
    exact Advances.same
  | none =>
    have hnew := lookup_eq_none_iff.mp hfind
    by_cases hfull : s.db.params.length = MAX_PARAMS
    · rw [if_pos (Or.inr hfull), getLocked_of_refuses ⟨hnew, hfull⟩]
      exact Advances.same
    · rw [if_neg (not_or.mpr ⟨hnew, hfull⟩)]
      exact Advances.stored (stored_getLocked hnew hfull c.default_val).2

/-- What `getParam` returns from under the lock is fresh. -/
theorem fresh_lockedGet {s : Shared τ} (hagrees : ∀ k, s.db.lookup k = lastStored s.log k)
    {c : Call} (hbegan : c.began <:+ s.log) :
    Return.Fresh ⟨c, (s.db.getLocked c.param_id c.default_val).1, (s.lockedGet c).log⟩ := by
  cases hfind : s.db.lookup c.param_id with
  | some value =>
    have hmem : c.param_id ∈ s.db.ids := by
      by_contra hnew
      rw [lookup_eq_none_iff.mpr hnew] at hfind
      cases hfind
    rw [getLocked_of_lookup hfind, lockedGet, if_pos (Or.inl hmem)]
    exact fresh_of_lastStored hbegan ((hagrees _).symm.trans hfind)
  | none =>
    have hnew := lookup_eq_none_iff.mp hfind
    by_cases hfull : s.db.params.length = MAX_PARAMS
    · rw [getLocked_of_refuses ⟨hnew, hfull⟩, lockedGet, if_pos (Or.inr hfull)]
      exact Or.inr ⟨notMem_of_lastStored ((hagrees _).symm.trans hfind), rfl⟩
    · -- The default is the newest store.
      rw [(stored_getLocked hnew hfull c.default_val).1, lockedGet,
        if_neg (not_or.mpr ⟨hnew, hfull⟩)]
      refine fresh_of_lastStored (hbegan.trans (List.suffix_cons _ _)) ?_
      rw [lastStored_cons, if_pos rfl]

/-! ## Invariants -/

/-- What a thread knows of the database and the log. -/
def Knows (db : ParamDb) (log : Log) : Pc → Prop
  | Pc.idle => True
  | Pc.counting c => c.began <:+ log
  | Pc.scanning c n _ => c.began <:+ log ∧ n ≤ db.params.length
  | Pc.loading c i => c.began <:+ log ∧ db.ids[i]? = some c.param_id
  | Pc.locking c => c.began <:+ log
  | Pc.setting _ _ => True

/-- It goes on knowing it, since ids keep their places. -/
theorem Knows.mono {db db' : ParamDb} {log log' : Log} {pc : Pc} (h : Knows db log pc)
    (hids : db.ids <+: db'.ids) (hlog : log <:+ log') : Knows db' log' pc := by
  cases pc with
  | idle => trivial
  | counting c => exact List.IsSuffix.trans h hlog
  | scanning c n i =>
    refine ⟨h.1.trans hlog, h.2.trans ?_⟩
    rw [← length_ids, ← length_ids]
    exact hids.length_le
  | loading c i =>
    obtain ⟨new, hnew⟩ := hids
    refine ⟨h.1.trans hlog, ?_⟩
    rw [← hnew, List.getElem?_append_left (List.getElem?_eq_some_iff.mp h.2).1]
    exact h.2
  | locking c => exact List.IsSuffix.trans h hlog
  | setting param_id value => trivial

/-- The table is valid and says what the log says, the threads know what they have read, and all
calls have returned fresh values. -/
structure Inv (s : Shared τ) : Prop where
  valid : s.db.Valid
  agrees : ∀ k, s.db.lookup k = lastStored s.log k
  knows : ∀ t, Knows s.db s.log (s.threads t)
  fresh : ∀ r ∈ s.returns, r.Fresh

/-- The invariant holds before the first step. -/
theorem inv_create : (create τ).Inv where
  valid := valid_create
  agrees _ := rfl
  knows _ := trivial
  fresh _ hr := absurd hr List.not_mem_nil

variable {s : Shared τ}

/-- A change of the database together with the log keeps what holds. -/
theorem Inv.advances (h : s.Inv) {db' : ParamDb} {log' : Log}
    (hadvances : Advances s.db s.log db' log') : { s with db := db', log := log' }.Inv where
  valid := hadvances.valid h.valid
  agrees := hadvances.agrees h.agrees
  knows t := (h.knows t).mono hadvances.prefix_ids hadvances.log_suffix
  fresh := h.fresh

/-- An entry below the count is there to be read. -/
theorem getD_params {db : ParamDb} {i : ℕ} (h : i < db.params.length) :
    db.params[i]? = some (db.params.getD i default) := by
  rw [List.getD_eq_getElem?_getD, List.getElem?_eq_getElem h, Option.getD_some]

variable [DecidableEq τ]

/-- A thread that moves must know what it says; the others stay. -/
theorem knows_update {db : ParamDb} {log : Log} {threads : τ → Pc} {t : τ} {pc : Pc}
    (h : ∀ u, Knows db log (threads u)) (hpc : Knows db log pc) (u : τ) :
    Knows db log (Function.update threads t pc u) := by
  by_cases hu : u = t
  · rw [hu, Function.update_self]
    exact hpc
  · rw [Function.update_of_ne hu]
    exact h u

/-- A thread that is set has the new place. -/
@[simp] theorem threads_setThread (s : Shared τ) (t : τ) (pc : Pc) :
    (s.setThread t pc).threads t = pc := Function.update_self ..

/-- The other threads stay where they are. -/
theorem threads_setThread_of_ne (s : Shared τ) {t u : τ} (pc : Pc) (h : t ≠ u) :
    (s.setThread u pc).threads t = s.threads t := Function.update_of_ne h ..

/-- A thread may move to any place whose knowledge is right. -/
theorem Inv.setThread (h : s.Inv) (t : τ) {pc : Pc} (hpc : Knows s.db s.log pc) :
    (s.setThread t pc).Inv where
  valid := h.valid
  agrees := h.agrees
  knows := knows_update h.knows hpc
  fresh := h.fresh

/-- A thread may return a value that is fresh. -/
theorem Inv.ret (h : s.Inv) (t : τ) {c : Call} {value : Binary32}
    (hfresh : Return.Fresh ⟨c, value, s.log⟩) : (s.ret t c value).Inv where
  valid := h.valid
  agrees := h.agrees
  knows := knows_update h.knows trivial
  fresh := List.forall_mem_cons.mpr ⟨hfresh, h.fresh⟩

/-- The next action of a thread keeps what holds. -/
theorem Inv.stepThread (h : s.Inv) (t : τ) : (s.stepThread t).Inv := by
  have hknows := h.knows t
  unfold Shared.stepThread
  cases hpc : s.threads t with
  | idle => exact h
  | counting c =>
    rw [hpc] at hknows
    exact h.setThread t ⟨hknows, le_rfl⟩
  | scanning c n i =>
    rw [hpc] at hknows
    dsimp only
    split_ifs with hi hid
    · have hentry := getD_params (hi.trans_le hknows.2)
      refine h.setThread t ⟨hknows.1, ?_⟩
      rw [ids, List.getElem?_map, hentry, Option.map_some, hid]
    · exact h.setThread t hknows
    · exact h.setThread t hknows.1
  | loading c i =>
    rw [hpc] at hknows
    obtain ⟨hbegan, hid⟩ := hknows
    have hi : i < s.db.params.length := by
      rw [← length_ids]
      exact (List.getElem?_eq_some_iff.mp hid).1
    have hentry := getD_params hi
    rw [ids, List.getElem?_map, hentry, Option.map_some, Option.some.injEq] at hid
    -- The value of the entry is the last one stored for its id.
    have hlast := h.valid.lookup_of_getElem? hentry
    rw [hid, h.agrees] at hlast
    exact h.ret t (fresh_of_lastStored hbegan hlast)
  | locking c =>
    rw [hpc] at hknows
    have hlocked : (s.lockedGet c).Inv := h.advances (s.advances_lockedGet c)
    exact hlocked.ret t (fresh_lockedGet h.agrees hknows)
  | setting param_id value =>
    have hlocked : (s.lockedSet param_id value).Inv :=
      h.advances (s.advances_lockedSet param_id value)
    exact hlocked.setThread t trivial

/-- Every action keeps what holds. -/
theorem Inv.step (h : s.Inv) (a : Act τ) : (s.step a).Inv := by
  cases a with
  | getParam t param_id default_val =>
    have hbegan : Knows s.db s.log (Pc.counting ⟨param_id, default_val, s.log⟩) :=
      List.suffix_refl s.log
    rw [Shared.step]
    split
    · exact h.setThread t hbegan
    · exact h
  | setParam t param_id value =>
    rw [Shared.step]
    split
    · exact h.setThread t trivial
    · exact h
  | step t => exact h.stepThread t

/-- The invariant holds after every run of the threads. -/
theorem inv_run (acts : List (Act τ)) : (run step (create τ) acts).Inv :=
  run_invariant (fun _ a h => h.step a) inv_create acts

/-! ## The database -/

/-- Only the actions under the lock change the database. -/
theorem db_step_cases (s : Shared τ) (a : Act τ) :
    (s.step a).db = s.db ∨
      (∃ t c, a = Act.step t ∧ s.threads t = Pc.locking c ∧ (s.step a).db = (s.lockedGet c).db) ∨
      ∃ t param_id value, a = Act.step t ∧ s.threads t = Pc.setting param_id value ∧
        (s.step a).db = (s.lockedSet param_id value).db := by
  cases a with
  | getParam t param_id default_val =>
    left
    rw [step]
    split <;> rfl
  | setParam t param_id value =>
    left
    rw [step]
    split <;> rfl
  | step t =>
    rw [step, stepThread]
    cases hpc : s.threads t with
    | locking c => exact Or.inr (Or.inl ⟨t, c, rfl, hpc, rfl⟩)
    | setting param_id value => exact Or.inr (Or.inr ⟨t, param_id, value, rfl, hpc, rfl⟩)
    | scanning c n i =>
      left
      dsimp only
      split_ifs <;> rfl
    | _ => exact Or.inl rfl

/-- Ids keep their places. -/
theorem ids_prefix_step (s : Shared τ) (a : Act τ) : s.db.ids <+: (s.step a).db.ids := by
  rcases s.db_step_cases a with hsame | ⟨_, c, _, _, hget⟩ | ⟨_, param_id, value, _, _, hset⟩
  · rw [hsame]
  · rw [hget]
    exact (s.advances_lockedGet c).prefix_ids
  · rw [hset]
    exact (s.advances_lockedSet param_id value).prefix_ids

/-- The identifiers of a run are those it began with and those it added after them. -/
theorem ids_prefix_run (s : Shared τ) (acts : List (Act τ)) :
    s.db.ids <+: (run step s acts).db.ids :=
  run_rel (R := fun s s' => s.db.ids <+: s'.db.ids) (fun _ => List.prefix_refl _)
    List.IsPrefix.trans ids_prefix_step s acts

/-- A value changes only by a `setParam` of its id. -/
theorem lookup_step {a : Act τ} {k : UInt32} {value : Binary32} (h : s.db.lookup k = some value)
    (ha : ∀ t value', a = Act.step t → s.threads t ≠ Pc.setting k value') :
    (s.step a).db.lookup k = some value := by
  rcases s.db_step_cases a with hsame | ⟨_, c, _, _, hget⟩ | ⟨t, param_id, value', rfl, hpc, hset⟩
  · rw [hsame, h]
  · rw [hget]
    exact lookup_getLocked h c.param_id c.default_val
  · have hne : k ≠ param_id := by
      rintro rfl
      exact ha t value' rfl hpc
    rw [hset]
    exact (lookup_setParam hne value').trans h

/-- A new id changes nothing when there is no room for it. -/
theorem db_step_of_refuses {t : τ} {k : UInt32} (h : s.db.Refuses k)
    (hpc : (∃ value, s.threads t = Pc.setting k value) ∨
      ∃ c, s.threads t = Pc.locking c ∧ c.param_id = k) :
    (s.step (Act.step t)).db = s.db := by
  rw [step, stepThread]
  rcases hpc with ⟨value, hset⟩ | ⟨c, hget, rfl⟩
  · rw [hset]
    exact setParam_of_refuses h value
  · rw [hget]
    exact congrArg Prod.snd (getLocked_of_refuses h c.default_val)

end Shared

/-! ## Progress -/

/-- How many actions of its own a thread takes at most until it returns. -/
def Pc.remaining : Pc → ℕ
  | Pc.idle => 0
  | Pc.counting _ => MAX_PARAMS + 3
  | Pc.scanning _ n i => n - i + 2
  | Pc.loading _ _ => 1
  | Pc.locking _ => 1
  | Pc.setting _ _ => 1

/-- A thread with nothing left to do is idle. -/
theorem Pc.eq_idle {pc : Pc} (h : pc.remaining = 0) : pc = Pc.idle := by
  cases pc with
  | idle => rfl
  | _ => cases h

namespace Shared

variable {τ : Type*} [DecidableEq τ] {s : Shared τ}

/-- An action of its own brings a thread closer to its return. -/
theorem remaining_stepThread (s : Shared τ) (t : τ) :
    ((s.stepThread t).threads t).remaining ≤ (s.threads t).remaining - 1 := by
  have hbounded := s.db.bounded
  unfold stepThread
  cases hpc : s.threads t with
  | idle => exact Nat.le_of_eq (congrArg Pc.remaining hpc)
  | counting c =>
    simp only [threads_setThread, Pc.remaining]
    omega
  | scanning c n i =>
    dsimp only
    split_ifs <;> simp only [threads_setThread, Pc.remaining] <;> omega
  | _ => exact Nat.le_of_eq (congrArg Pc.remaining (threads_setThread ..))

/-- The actions of others leave a thread where it is in its call. -/
theorem threads_step_of_ne {a : Act τ} {t : τ} (ha : a ≠ Act.step t) (ht : s.threads t ≠ Pc.idle) :
    (s.step a).threads t = s.threads t := by
  cases a with
  | getParam u param_id default_val =>
    rw [step]
    split
    next hidle => exact s.threads_setThread_of_ne _ fun heq => ht (heq ▸ hidle)
    next => rfl
  | setParam u param_id value =>
    rw [step]
    split
    next hidle => exact s.threads_setThread_of_ne _ fun heq => ht (heq ▸ hidle)
    next => rfl
  | step u =>
    have hne : t ≠ u := fun heq => ha (heq ▸ rfl)
    rw [step, stepThread]
    cases s.threads u with
    | idle => rfl
    | scanning c n i =>
      dsimp only
      split_ifs <;> exact s.threads_setThread_of_ne _ hne
    | _ => exact threads_setThread_of_ne _ _ hne

/-- A thread that takes enough actions of its own returns, whatever the others do. -/
theorem exists_idle (t : τ) {more : List (Act τ)}
    (h : (s.threads t).remaining ≤ more.count (Act.step t)) :
    ∃ pre, pre <+: more ∧ (run step s pre).threads t = Pc.idle := by
  induction more generalizing s with
  | nil => exact ⟨[], List.prefix_refl _, Pc.eq_idle (Nat.le_zero.mp h)⟩
  | cons a more ih =>
    by_cases hidle : s.threads t = Pc.idle
    · exact ⟨[], List.nil_prefix, hidle⟩
    · have hnext : ((s.step a).threads t).remaining ≤ more.count (Act.step t) := by
        by_cases ha : a = Act.step t
        · subst ha
          have hstep := s.remaining_stepThread t
          rw [List.count_cons_self] at h
          exact hstep.trans (Nat.sub_le_of_le_add h)
        · rw [threads_step_of_ne ha hidle]
          rwa [List.count_cons_of_ne ha] at h
      obtain ⟨pre, hpre, hrun⟩ := ih hnext
      exact ⟨a :: pre, (List.prefix_cons_inj a).mpr hpre, hrun⟩

omit [DecidableEq τ] in
/-- No more actions are left than for a call that has just begun. -/
theorem remaining_le (h : s.Inv) (t : τ) : (s.threads t).remaining ≤ MAX_PARAMS + 3 := by
  have hknows := h.knows t
  cases hpc : s.threads t with
  | scanning c n i =>
    rw [hpc] at hknows
    have hn := hknows.2.trans s.db.bounded
    rw [Pc.remaining]
    omega
  | counting c => exact le_rfl
  | idle => exact Nat.zero_le _
  | _ => exact Nat.le_add_left 1 _

/-! ## The contract -/

/-- Every run leaves a table without double ids, in which ids keep their places; the calls of
`getParam` that have returned had fresh values, and the others return after a bounded number of
actions; a stored value changes only by a store for its id, a new id changes nothing when there is
no room, and the checksum is right at all times. -/
theorem threads_contract (acts : List (Act τ)) :
    let s := run step (create τ) acts
    s.db.ids.Nodup ∧ s.db.ids.length ≤ MAX_PARAMS ∧
    (∀ more, s.db.ids <+: (run step s more).db.ids) ∧
    (∀ r ∈ s.returns, r.Fresh) ∧
    (∀ t more, MAX_PARAMS + 3 ≤ more.count (Act.step t) →
      ∃ pre, pre <+: more ∧ (run step s pre).threads t = Pc.idle) ∧
    (∀ a k value, s.db.lookup k = some value →
      (∀ t value', a = Act.step t → s.threads t ≠ Pc.setting k value') →
      (s.step a).db.lookup k = some value) ∧
    (∀ t k, s.db.Refuses k →
      ((∃ value, s.threads t = Pc.setting k value) ∨
        ∃ c, s.threads t = Pc.locking c ∧ c.param_id = k) →
      (s.step (Act.step t)).db = s.db) ∧
    s.db.verifyIntegrity = true := by
  intro s
  have hinv : s.Inv := inv_run acts
  refine ⟨hinv.valid.nodup, ?_, ids_prefix_run s, hinv.fresh, ?_, ?_, ?_, hinv.valid.integrity⟩
  · rw [length_ids]
    exact s.db.bounded
  · intro t more hcount
    exact exists_idle t ((remaining_le hinv t).trans hcount)
  · intro a k value hvalue ha
    exact lookup_step hvalue ha
  · intro t k hrefuses hpc
    exact db_step_of_refuses hrefuses hpc

end Shared

end ParamDb

end DeltaV
