import Mathlib.Tactic.SplitIfs

/-!
# Triple modular redundancy

A store keeps three copies of a value. Two copies agree when their bytes are equal, which is
equality of the values for the types stored here. A read returns the majority and repairs the
copies, so the value read next is the same.
-/

namespace DeltaV

/-- Three copies of a value. -/
structure TmrStore (T : Type*) where
  copy0 : T
  copy1 : T
  copy2 : T
  /-- Whether the scrub registry holds the store. -/
  registered_with_registry : Bool
deriving DecidableEq, Repr

namespace TmrStore

variable {T : Type*} [DecidableEq T]

/-- A store whose copies all have the same value. -/
def create (initial : T) (registered : Bool) : TmrStore T := ⟨initial, initial, initial, registered⟩

/-- Makes all copies equal. -/
def fill (s : TmrStore T) (v : T) : TmrStore T := { s with copy0 := v, copy1 := v, copy2 := v }

/-- The value of two agreeing copies, or of the first copy when none agree. -/
def vote (s : TmrStore T) : T :=
  if s.copy0 = s.copy1 then s.copy0
  else if s.copy1 = s.copy2 then s.copy1
  else if s.copy0 = s.copy2 then s.copy0
  else s.copy0

/-- Returns the vote and repairs the copies. -/
def read (s : TmrStore T) : T × TmrStore T := (s.vote, s.fill s.vote)

/-- All copies agree. -/
def isSane (s : TmrStore T) : Bool := decide (s.copy0 = s.copy1 ∧ s.copy1 = s.copy2)

/-- Repairs the copies if they disagree. -/
def scrub (s : TmrStore T) : TmrStore T := if s.isSane then s else s.fill s.vote

/-- The vote of a filled store is the value. -/
@[simp] theorem vote_fill (s : TmrStore T) (v : T) : (s.fill v).vote = v := by
  unfold vote fill
  rw [if_pos rfl]

/-- The vote of a new store is the value. -/
@[simp] theorem vote_create (v : T) (registered : Bool) : (create v registered).vote = v := by
  unfold vote create
  rw [if_pos rfl]

/-- A read leaves the vote as it was. -/
@[simp] theorem vote_read (s : TmrStore T) : s.read.2.vote = s.vote := vote_fill s s.vote

/-- A scrub leaves the vote as it was. -/
@[simp] theorem vote_scrub (s : TmrStore T) : s.scrub.vote = s.vote := by
  unfold scrub
  split_ifs
  · rfl
  · exact vote_fill s s.vote

end TmrStore

end DeltaV
