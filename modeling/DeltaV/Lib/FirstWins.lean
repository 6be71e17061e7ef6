import Mathlib.Data.List.Nodup
import Mathlib.Data.List.Perm.Subperm
import Mathlib.Data.List.Induction

/-!
# Tables in which the first entry of a key wins

A `FirstWins` table holds at most `cap` entries and never two of one key: an insertion of a known
key, or into a full table, changes nothing. After any list of insertions the keys in the table are
the first `cap` distinct keys of the list (`keys_insertAll`), and the value found for a key is that
of its first insertion (`lookup_insertAll`).
-/

namespace DeltaV

/-- The first element with a key is the only one. -/
theorem find?_of_mem_nodup {α κ : Type*} [DecidableEq κ] {key : α → κ} {l : List α}
    (hnodup : (l.map key).Nodup) {a : α} (ha : a ∈ l) :
    l.find? (fun b => decide (key b = key a)) = some a := by
  induction l with
  | nil => cases ha
  | cons b l ih =>
    obtain ⟨hnew, hnodup⟩ := List.nodup_cons.mp hnodup
    rcases List.mem_cons.mp ha with rfl | ha
    · exact List.find?_cons_of_pos (by simp)
    · have hne : key b ≠ key a := fun heq => hnew (heq ▸ List.mem_map_of_mem ha)
      rw [List.find?_cons_of_neg (by simpa using hne)]
      exact ih hnodup ha

/-- At most `cap` entries with pairwise different keys, oldest first. -/
structure FirstWins (κ ν : Type*) (cap : ℕ) where
  /-- The entries. -/
  entries : List (κ × ν)
  /-- The table is not over its capacity. -/
  bounded : entries.length ≤ cap
  /-- No key has two entries. -/
  nodup : (entries.map Prod.fst).Nodup

namespace FirstWins

variable {κ ν : Type*} {cap : ℕ} [DecidableEq κ]

/-- The keys of the table, oldest first. -/
def keys (t : FirstWins κ ν cap) : List κ := t.entries.map Prod.fst

omit [DecidableEq κ] in
/-- There are as many keys as entries. -/
theorem length_keys (t : FirstWins κ ν cap) : t.keys.length = t.entries.length := by
  unfold keys
  rw [List.length_map]

/-- The table without entries. -/
def empty (κ ν : Type*) (cap : ℕ) : FirstWins κ ν cap := ⟨[], Nat.zero_le cap, List.nodup_nil⟩

/-- The table with a new entry after the others. -/
def push (t : FirstWins κ ν cap) (k : κ) (v : ν) (hk : k ∉ t.keys) (hc : t.entries.length < cap) :
    FirstWins κ ν cap where
  entries := t.entries ++ [(k, v)]
  bounded := by simp only [List.length_append, List.length_singleton]; omega
  nodup := by
    rw [List.map_append]
    exact List.nodup_append.mpr ⟨t.nodup, List.nodup_singleton _, fun a ha b hb => by
      rw [List.map_singleton, List.mem_singleton] at hb
      exact fun hab => hk (by rw [← show a = k from hab.trans hb]; exact ha)⟩

/-- The value of a key, if the key is in the table. -/
def lookup (t : FirstWins κ ν cap) (k : κ) : Option ν :=
  (t.entries.find? fun e => e.1 = k).map Prod.snd

/-- A key has no value exactly when it is not in the table. -/
theorem lookup_eq_none_iff (t : FirstWins κ ν cap) (k : κ) : t.lookup k = none ↔ k ∉ t.keys := by
  unfold lookup
  rw [Option.map_eq_none_iff, List.find?_eq_none, keys, List.mem_map]
  constructor
  · rintro h ⟨e, he, rfl⟩
    exact h e he (by simp)
  · intro h e he hkey
    exact h ⟨e, he, by simpa using hkey⟩

/-- The value of a key that is in the table. -/
theorem lookup_of_mem (t : FirstWins κ ν cap) {k : κ} {v : ν} (h : (k, v) ∈ t.entries) :
    t.lookup k = some v := by
  unfold lookup
  rw [find?_of_mem_nodup t.nodup h]
  rfl

/-- Insertion: the first entry of a key wins, and a full table stays as it is. -/
def insert (t : FirstWins κ ν cap) (e : κ × ν) : FirstWins κ ν cap :=
  if h : e.1 ∉ t.keys ∧ t.entries.length < cap then t.push e.1 e.2 h.1 h.2 else t

/-- The table after a list of insertions. -/
def insertAll (cap : ℕ) (es : List (κ × ν)) : FirstWins κ ν cap :=
  es.foldl insert (empty κ ν cap)

/-- An entry that comes last is inserted last. -/
theorem insertAll_concat (es : List (κ × ν)) (e : κ × ν) :
    insertAll cap (es ++ [e]) = (insertAll cap es).insert e := List.foldl_concat ..

omit [DecidableEq κ] in
/-- A new entry adds its key after the others. -/
theorem keys_push (t : FirstWins κ ν cap) (k : κ) (v : ν) (hk : k ∉ t.keys)
    (hc : t.entries.length < cap) : (t.push k v hk hc).keys = t.keys ++ [k] := by
  unfold push keys
  rw [List.map_append, List.map_singleton]

/-- An element that is not new does not add to the distinct elements. -/
theorem eraseDups_concat (l : List κ) (a : κ) :
    (l ++ [a]).eraseDups = if a ∈ l then l.eraseDups else l.eraseDups ++ [a] := by
  rw [List.eraseDups_append]
  split_ifs with h
  · have hnone : [a].removeAll l = [] := by simp [List.removeAll, h]
    rw [hnone, List.eraseDups_nil, List.append_nil]
  · have hone : [a].removeAll l = [a] := by simp [List.removeAll, h]
    rw [hone, List.eraseDups_cons]
    simp

/-- Inserting into the table keeps the distinct keys in order until the table is full. -/
theorem keys_insertAll (es : List (κ × ν)) :
    (insertAll cap es).keys = (es.map Prod.fst).eraseDups.take cap := by
  induction es using List.reverseRecOn with
  | nil => simp [insertAll, empty, keys]
  | append_singleton es e ih =>
    set l := (es.map Prod.fst).eraseDups with hl
    have hmem : e.1 ∈ es.map Prod.fst ↔ e.1 ∈ l := by rw [hl, List.mem_eraseDups]
    -- The room in the table is read off its keys, which the induction hypothesis gives.
    have hlen := (insertAll cap es).length_keys
    rw [ih, List.length_take] at hlen
    rw [insertAll_concat, List.map_append, List.map_singleton, eraseDups_concat, ← hl, insert]
    split_ifs with hins hold hold
    · rw [ih, List.take_of_length_le (by omega)] at hins
      exact absurd (hmem.mp hold) hins.1
    · -- A new key is pushed, since there is room.
      rw [keys_push, ih, List.take_of_length_le (by omega), List.take_of_length_le]
      rw [List.length_append, List.length_singleton]
      omega
    · exact ih
    · -- A new key is refused only when the table is full.
      have hfull : cap ≤ l.length := by
        by_contra hroom
        refine hins ⟨?_, by omega⟩
        rw [ih, List.take_of_length_le (by omega), ← hmem]
        exact hold
      rw [ih, List.take_append_of_le_length hfull]

/-- Insertions of different keys that fit are the entries of the table. -/
theorem entries_insertAll {es : List (κ × ν)} (hnodup : (es.map Prod.fst).Nodup)
    (hcap : es.length ≤ cap) : (insertAll cap es).entries = es := by
  induction es using List.reverseRecOn with
  | nil => rfl
  | append_singleton es e ih =>
    rw [List.map_append, List.map_singleton, List.nodup_append_comm, List.singleton_append,
      List.nodup_cons] at hnodup
    rw [List.length_append, List.length_singleton] at hcap
    have hold := ih hnodup.2 (by omega)
    have hroom : e.1 ∉ (insertAll cap es).keys ∧ (insertAll cap es).entries.length < cap := by
      unfold keys
      rw [hold]
      exact ⟨hnodup.1, by omega⟩
    rw [insertAll_concat, insert, dif_pos hroom]
    exact congrArg (fun entries => entries ++ [e]) hold

/-- A key in the table has been inserted. -/
theorem mem_of_mem_keys_insertAll {es : List (κ × ν)} {k : κ} (h : k ∈ (insertAll cap es).keys) :
    k ∈ es.map Prod.fst := by
  rw [keys_insertAll] at h
  exact List.mem_eraseDups.mp (List.mem_of_mem_take h)

/-- When the keys come from a list that is not over the capacity, every inserted key is in the
table. -/
theorem mem_keys_insertAll {es : List (κ × ν)} {names : List κ} (hnames : ∀ e ∈ es, e.1 ∈ names)
    (hcap : names.length ≤ cap) {k : κ} (hk : k ∈ es.map Prod.fst) :
    k ∈ (insertAll cap es).keys := by
  induction es using List.reverseRecOn with
  | nil => cases hk
  | append_singleton es e ih =>
    have hold := ih fun e' he' => hnames e' (List.mem_append_left _ he')
    have hmem : ∀ k ∈ (insertAll cap es).keys, k ∈ names := by
      intro k hk
      obtain ⟨e', he', rfl⟩ := List.mem_map.mp (mem_of_mem_keys_insertAll hk)
      exact hnames e' (List.mem_append_left _ he')
    have he : e.1 ∈ names := hnames e (List.mem_append_right _ (List.mem_singleton_self e))
    rw [List.map_append, List.map_singleton, List.mem_append, List.mem_singleton] at hk
    rw [insertAll_concat, insert]
    split_ifs with hins
    · rw [keys_push, List.mem_append, List.mem_singleton]
      exact hk.imp_left hold
    · -- A new key is refused by a full table only, and then there are more keys than names.
      rcases hk with hk | rfl
      · exact hold hk
      · by_contra hnew
        have hfull : cap ≤ (insertAll cap es).keys.length := by
          rw [length_keys]
          by_contra hroom
          exact hins ⟨hnew, by omega⟩
        have hnodup : (e.1 :: (insertAll cap es).keys).Nodup :=
          List.nodup_cons.mpr ⟨hnew, (insertAll cap es).nodup⟩
        have hsub : e.1 :: (insertAll cap es).keys ⊆ names := fun k hk => by
          rcases List.mem_cons.mp hk with rfl | hk
          · exact he
          · exact hmem k hk
        have hlen := (hnodup.subperm hsub).length_le
        rw [List.length_cons] at hlen
        omega

/-- Every entry is the first insertion of its key. -/
theorem find?_of_mem_entries (es : List (κ × ν)) (e : κ × ν) (he : e ∈ (insertAll cap es).entries) :
    es.find? (fun e' => e'.1 = e.1) = some e := by
  induction es using List.reverseRecOn with
  | nil => simp [insertAll, empty] at he
  | append_singleton es e' ih =>
    rw [insertAll_concat, insert] at he
    rw [List.find?_append]
    split_ifs at he with h
    · rcases List.mem_append.mp he with hold | hnew
      · rw [ih hold]
        rfl
      · -- A pushed entry was not in a table with room, so its key has not occurred.
        obtain rfl := List.mem_singleton.mp hnew
        have hnone : es.find? (fun x => x.1 = e'.1) = none := by
          rw [List.find?_eq_none]
          intro x hx hkey
          have hkeys : (insertAll cap es).keys = _ := keys_insertAll es
          have hlen := (insertAll cap es).length_keys
          rw [hkeys, List.length_take] at hlen
          apply h.1
          rw [hkeys, List.take_of_length_le (by omega), List.mem_eraseDups]
          exact List.mem_map.mpr ⟨x, hx, by simpa using hkey⟩
        rw [hnone]
        simp
    · rw [ih he]
      rfl

/-- The value of the first insertion of a key, for the first `cap` distinct keys of a list of
insertions. -/
def firstValue (cap : ℕ) (es : List (κ × ν)) (k : κ) : Option ν :=
  if k ∈ (es.map Prod.fst).eraseDups.take cap then (es.find? fun e => e.1 = k).map Prod.snd
  else none

/-- The first `cap` distinct keys of a list. -/
def firstKeys (cap : ℕ) (keys : List κ) : List κ := keys.eraseDups.take cap

/-- The first distinct keys are keys. -/
theorem mem_of_mem_firstKeys {keys : List κ} {k : κ} (h : k ∈ firstKeys cap keys) : k ∈ keys :=
  List.mem_eraseDups.mp (List.mem_of_mem_take h)

/-- A key has a value when it is among the first `cap` distinct ones. -/
theorem firstValue_eq (es : List (κ × ν)) (k : κ) :
    firstValue cap es k =
      if k ∈ firstKeys cap (es.map Prod.fst) then (es.find? fun e => e.1 = k).map Prod.snd
      else none := rfl

/-- The value found for a key is that of its first insertion, if the key is among the first `cap`
distinct ones. -/
theorem lookup_insertAll (es : List (κ × ν)) (k : κ) :
    (insertAll cap es).lookup k = firstValue cap es k := by
  unfold firstValue
  rw [← keys_insertAll]
  split_ifs with hk
  · -- The entry found is an entry of the table, hence the first insertion of its key.
    obtain ⟨v, hv⟩ := Option.ne_none_iff_exists'.mp ((lookup_eq_none_iff _ _).not_left.mpr hk)
    obtain ⟨e, he, rfl⟩ := Option.map_eq_some_iff.mp hv
    have hkey : e.1 = k := by simpa using List.find?_some he
    have hfirst := find?_of_mem_entries es e (List.mem_of_find?_eq_some he)
    rw [hkey] at hfirst
    rw [hv, hfirst]
    rfl
  · exact (lookup_eq_none_iff _ _).mpr hk

end FirstWins

end DeltaV
