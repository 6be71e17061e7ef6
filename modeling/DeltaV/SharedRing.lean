import DeltaV.Lib.Runs
import DeltaV.Port

/-!
# A ring buffer shared by threads

`push` and `pop` as their atomic actions: a producer reads the tail, reads the head, writes its
slot, and publishes the tail; the consumer reads the head, reads the tail, reads its slot, and
publishes the head. Any number of producers and one consumer take these actions in any order. Taken
without interruption they amount to `push` and `pop` of `RingBuffer` (`run_push`, `run_pop`).

A ring is `Lossless` when the items of the pushes that returned true are the items popped so far
and the items in the ring. `lossless_iff` says exactly which actions of which runs destroy this: a
write to the slot of another item that is still in the ring, and a publication by a producer whose
slot is not, or no longer, its own slot at the tail. Producers whose pushes do not overlap never do
either (`fifo_of_exclusive`).
-/

namespace DeltaV

/-! ## Single writes to a ring -/

namespace RingBuffer

variable {T : Type*} {Capacity : ℕ}

/-- The slot holds no item. -/
def Free (r : RingBuffer T Capacity) (slot : Fin (Capacity + 1)) : Prop :=
  ∀ k < r.items.length, advance r.head k ≠ slot

/-- A write to a free slot changes no item. -/
theorem items_write_of_free (r : RingBuffer T Capacity) {slot : Fin (Capacity + 1)}
    (h : r.Free slot) (item : T) :
    { r with buf := Function.update r.buf slot item }.items = r.items := by
  have hold := r.holds_items
  exact Holds.eq_items ⟨hold.length_le, hold.tail_eq, hold.window.update_of_notMem h item⟩

/-- A write to the slot of an item replaces it. -/
theorem items_write (r : RingBuffer T Capacity) {k : ℕ} (hk : k < r.items.length) (item : T) :
    { r with buf := Function.update r.buf (advance r.head k) item }.items = r.items.set k item := by
  have hold := r.holds_items
  refine Holds.eq_items ⟨?_, ?_, hold.window.set hold.length_le hk item⟩
  · rw [List.length_set]
    exact hold.length_le
  · rw [List.length_set]
    exact hold.tail_eq

/-- A write keeps the items as they are, up to order, exactly when the slot is free or already holds
the item. -/
theorem items_write_perm_iff (r : RingBuffer T Capacity) (slot : Fin (Capacity + 1)) (item : T) :
    { r with buf := Function.update r.buf slot item }.items.Perm r.items ↔
      r.Free slot ∨ r.buf slot = item := by
  constructor
  · intro hperm
    by_cases hfree : r.Free slot
    · exact Or.inl hfree
    · unfold Free at hfree
      push Not at hfree
      obtain ⟨k, hk, rfl⟩ := hfree
      -- Both lists agree before and after position `k`, so they agree at it.
      rw [r.items_write hk, List.set_eq_take_append_cons_drop, if_pos hk] at hperm
      have hsplit := List.take_append_drop k r.items
      rw [List.drop_eq_getElem_cons hk] at hsplit
      nth_rewrite 3 [← hsplit] at hperm
      rw [List.perm_append_left_iff] at hperm
      have hone : [item].Perm [r.items[k]] :=
        (List.perm_append_right_iff (r.items.drop (k + 1))).mp hperm
      rw [List.singleton_perm_singleton.mp hone]
      exact Or.inr (r.holds_items.window k _ (List.getElem?_eq_getElem hk))
  · rintro (hfree | hsame)
    · rw [r.items_write_of_free hfree]
    · rw [← hsame, Function.update_eq_self]

/-- The slot at the tail is free. -/
theorem free_tail (r : RingBuffer T Capacity) : r.Free r.tail := by
  intro k hk heq
  have hold := r.holds_items
  have hle := hold.length_le
  rw [hold.tail_eq] at heq
  -- The tail is `length` places after the head, and the items are fewer.
  have := (advance_inj (by omega) hle).mp heq
  omega

/-- Publishing the slot at the tail appends its item, if there is room. -/
theorem items_publish (r : RingBuffer T Capacity) (hroom : r.items.length < Capacity) :
    { r with tail := advance r.tail 1 }.items = r.items ++ [r.buf r.tail] := by
  have hold := r.holds_items
  refine Holds.eq_items ⟨?_, ?_, ?_⟩
  · rw [List.length_append, List.length_singleton]
    exact hroom
  · rw [List.length_append, List.length_singleton, ← advance_advance, ← hold.tail_eq]
  · have hw := hold.window.write hold.length_le (r.buf r.tail)
    rwa [← hold.tail_eq, Function.update_eq_self] at hw

/-- Only publishing the slot at the tail, with room for it, makes one more item. -/
theorem of_length_items_publish (r : RingBuffer T Capacity) {slot : Fin (Capacity + 1)}
    (h : { r with tail := advance slot 1 }.items.length = r.items.length + 1) :
    slot = r.tail ∧ r.items.length < Capacity := by
  have hold := r.holds_items
  have hnew := { r with tail := advance slot 1 }.holds_items
  have htail := hnew.tail_eq
  -- The new tail is one place after the old one, since the head stays.
  rw [h, ← advance_advance, ← hold.tail_eq] at htail
  have hle := hnew.length_le
  exact ⟨advance_left_inj.mp htail, by omega⟩

/-- Publishing the slot after the head drops the first item. -/
theorem items_drop (r : RingBuffer T Capacity) (h : r.items ≠ []) :
    r.items = r.buf r.head :: { r with head := advance r.head 1 }.items := by
  have hne : r.head ≠ r.tail := fun heq => h (r.holds_items.empty_iff.mp heq)
  exact pop_eq_some (if_neg hne)

end RingBuffer

/-! ## The atomic actions -/

/-- Where a producer is in `push`. -/
inductive PushPc (T : Type*) (Capacity : ℕ) where
  | idle
  /-- The tail has been read. -/
  | tailRead (item : T) (current_tail : Fin (Capacity + 1))
  /-- The head has been read, and there was room. -/
  | claimed (item : T) (current_tail : Fin (Capacity + 1))
  /-- The slot has been written. -/
  | written (item : T) (current_tail : Fin (Capacity + 1))
  /-- The head has been read, and there was no room. -/
  | full

/-- Where the consumer is in `pop`. -/
inductive PopPc (T : Type*) (Capacity : ℕ) where
  | idle
  /-- The head has been read. -/
  | headRead (current_head : Fin (Capacity + 1))
  /-- The tail has been read, and there was an item. -/
  | nonempty (current_head : Fin (Capacity + 1))
  /-- The slot has been read. -/
  | copied (item : T) (current_head : Fin (Capacity + 1))

/-- A ring buffer, its producers, and its consumer. -/
structure SharedRing (P T : Type*) (Capacity : ℕ) where
  ring : RingBuffer T Capacity
  producers : P → PushPc T Capacity
  consumer : PopPc T Capacity
  /-- The items of the pushes that returned true, in the order of their return. -/
  pushed : List T
  /-- The items of the pops that returned true, in the order of their return. -/
  popped : List T

/-- Who acts next. -/
inductive RingAct (P T : Type*) where
  /-- A producer that is idle calls `push` and reads the tail. -/
  | push (p : P) (item : T)
  /-- A producer takes its next action. -/
  | producer (p : P)
  /-- The consumer, when idle, calls `pop` and reads the head. -/
  | pop
  /-- The consumer takes its next action. -/
  | consumer

namespace SharedRing

variable {P T : Type*} {Capacity : ℕ}

/-- An empty ring, and nobody in a call. -/
def create (P : Type*) [Inhabited T] (Capacity : ℕ) : SharedRing P T Capacity :=
  { ring := RingBuffer.create Capacity
    producers := fun _ => PushPc.idle
    consumer := PopPc.idle
    pushed := []
    popped := [] }

/-- Moves a producer. -/
def setProducer [DecidableEq P] (s : SharedRing P T Capacity) (p : P) (pc : PushPc T Capacity) :
    SharedRing P T Capacity := { s with producers := Function.update s.producers p pc }

/-- One atomic action. -/
def step [DecidableEq P] (s : SharedRing P T Capacity) : RingAct P T → SharedRing P T Capacity
  | RingAct.push p item =>
    match s.producers p with
    | PushPc.idle => s.setProducer p (PushPc.tailRead item s.ring.tail)
    | _ => s
  | RingAct.producer p =>
    match s.producers p with
    | PushPc.idle => s
    | PushPc.tailRead item current_tail =>
      if advance current_tail 1 ≠ s.ring.head then
        s.setProducer p (PushPc.claimed item current_tail)
      else s.setProducer p PushPc.full
    | PushPc.claimed item current_tail =>
      { s with
        ring := { s.ring with buf := Function.update s.ring.buf current_tail item } }.setProducer p
          (PushPc.written item current_tail)
    | PushPc.written item current_tail =>
      { s with
        ring := { s.ring with tail := advance current_tail 1 }
        pushed := s.pushed ++ [item] }.setProducer p PushPc.idle
    | PushPc.full =>
      { s with
        ring := { s.ring with overflow_count := s.ring.overflow_count + 1 } }.setProducer p
          PushPc.idle
  | RingAct.pop =>
    match s.consumer with
    | PopPc.idle => { s with consumer := PopPc.headRead s.ring.head }
    | _ => s
  | RingAct.consumer =>
    match s.consumer with
    | PopPc.idle => s
    | PopPc.headRead current_head =>
      if current_head = s.ring.tail then { s with consumer := PopPc.idle }
      else { s with consumer := PopPc.nonempty current_head }
    | PopPc.nonempty current_head =>
      { s with consumer := PopPc.copied (s.ring.buf current_head) current_head }
    | PopPc.copied item current_head =>
      { s with
        ring := { s.ring with head := advance current_head 1 }
        consumer := PopPc.idle
        popped := s.popped ++ [item] }

/-- An uninterrupted push is `push` of the ring. -/
theorem run_push [DecidableEq P] (s : SharedRing P T Capacity) (p : P) (item : T)
    (h : s.producers p = PushPc.idle) :
    run step s [RingAct.push p item, RingAct.producer p, RingAct.producer p, RingAct.producer p] =
      { s with
        ring := (s.ring.push item).1
        pushed := s.pushed ++ if (s.ring.push item).2 then [item] else [] } := by
  have hback : Function.update s.producers p PushPc.idle = s.producers := by
    rw [← h, Function.update_eq_self]
  -- The reads see the ring that the call began with, since nobody else acts.
  by_cases hroom : advance s.ring.tail 1 = s.ring.head
  · simp [step, h, setProducer, RingBuffer.push, hroom, hback]
  · simp [step, h, setProducer, RingBuffer.push, hroom, hback]

/-- An uninterrupted pop is `pop` of the ring. -/
theorem run_pop [DecidableEq P] (s : SharedRing P T Capacity) (h : s.consumer = PopPc.idle) :
    run step s [RingAct.pop, RingAct.consumer, RingAct.consumer, RingAct.consumer] =
      match s.ring.pop with
      | none => s
      | some (item, ring) => { s with ring := ring, popped := s.popped ++ [item] } := by
  by_cases hempty : s.ring.head = s.ring.tail
  · have hback : { s with consumer := PopPc.idle } = s := by rw [← h]
    simpa [step, h, RingBuffer.pop, hempty] using hback
  · simp [step, h, RingBuffer.pop, hempty]

/-! ## Lossless rings -/

/-- The items pushed are the items popped and the items in the ring, each once. -/
def Lossless (s : SharedRing P T Capacity) : Prop := (s.popped ++ s.ring.items).Perm s.pushed

/-- The action does not write over an item in the ring, and does not publish a slot other than the
one at the tail, a slot without room after it, or a slot that another item was written to. -/
def Safe (s : SharedRing P T Capacity) : RingAct P T → Prop
  | RingAct.producer p =>
    match s.producers p with
    | PushPc.claimed item current_tail =>
      s.ring.Free current_tail ∨ s.ring.buf current_tail = item
    | PushPc.written item current_tail =>
      current_tail = s.ring.tail ∧ s.ring.items.length < Capacity ∧
        s.ring.buf current_tail = item
    | _ => True
  | _ => True

/-- Wherever the consumer is, it knows the head, and what it has seen there is there. -/
def Current (ring : RingBuffer T Capacity) : PopPc T Capacity → Prop
  | PopPc.idle => True
  | PopPc.headRead current_head => current_head = ring.head
  | PopPc.nonempty current_head => current_head = ring.head ∧ ring.items ≠ []
  | PopPc.copied item current_head => current_head = ring.head ∧ ring.items.head? = some item

/-- The items are popped in the order in which they were pushed. -/
structure Fifo (s : SharedRing P T Capacity) : Prop where
  pushed_eq : s.pushed = s.popped ++ s.ring.items
  current : Current s.ring s.consumer

/-- What the consumer has seen stays there while the head stays and items are only appended. -/
theorem Current.append {ring ring' : RingBuffer T Capacity} {pc : PopPc T Capacity}
    (h : Current ring pc) (hhead : ring'.head = ring.head) (hitems : ring.items <+: ring'.items) :
    Current ring' pc := by
  cases pc with
  | idle => trivial
  | headRead current_head => exact h.trans hhead.symm
  | nonempty current_head =>
    exact ⟨h.1.trans hhead.symm, fun hnil => h.2 (List.prefix_nil.mp (hnil ▸ hitems))⟩
  | copied item current_head =>
    refine ⟨h.1.trans hhead.symm, ?_⟩
    obtain ⟨rest, hrest⟩ := hitems
    rw [← hrest, List.head?_append, h.2, Option.some_or]

variable {s : SharedRing P T Capacity}

/-- A ring in order of its pushes loses nothing. -/
theorem Fifo.lossless (h : s.Fifo) : s.Lossless := by
  unfold Lossless
  rw [h.pushed_eq]

/-- The empty ring is in order. -/
theorem fifo_create [Inhabited T] : (create P Capacity : SharedRing P T Capacity).Fifo :=
  ⟨rfl, trivial⟩

variable [DecidableEq P]

/-- A safe action of a producer keeps the order. -/
theorem Fifo.producer (h : s.Fifo) (p : P) (hsafe : s.Safe (RingAct.producer p)) :
    (s.step (RingAct.producer p)).Fifo := by
  cases hp : s.producers p with
  | idle => simpa [step, hp] using h
  | tailRead item current_tail =>
    simp only [step, hp]
    split_ifs <;> exact ⟨h.pushed_eq, h.current⟩
  -- The write is to a free slot, or it writes what is there.
  | claimed item current_tail =>
    simp only [Safe, hp] at hsafe
    have hitems : { s.ring with buf := Function.update s.ring.buf current_tail item }.items =
        s.ring.items := by
      rcases hsafe with hfree | hsame
      · exact s.ring.items_write_of_free hfree item
      · rw [← hsame, Function.update_eq_self]
    simp only [step, hp, setProducer]
    refine ⟨?_, h.current.append rfl ?_⟩
    · change s.pushed = s.popped ++ _
      rw [hitems]
      exact h.pushed_eq
    · rw [hitems]
  -- The publication appends the item of this push.
  | written item current_tail =>
    simp only [Safe, hp] at hsafe
    obtain ⟨rfl, hroom, hslot⟩ := hsafe
    have hitems := s.ring.items_publish hroom
    rw [hslot] at hitems
    simp only [step, hp, setProducer]
    refine ⟨?_, h.current.append rfl ?_⟩
    · change s.pushed ++ [item] = s.popped ++ _
      rw [hitems, h.pushed_eq, List.append_assoc]
    · rw [hitems]
      exact List.prefix_append _ _
  | full =>
    simp only [step, hp, setProducer]
    exact ⟨h.pushed_eq, h.current.append rfl List.prefix_rfl⟩

/-- The actions of the consumer keep the order. -/
theorem Fifo.consumer (h : s.Fifo) : (s.step RingAct.consumer).Fifo := by
  have hcur := h.current
  cases hc : s.consumer with
  | idle => simpa [step, hc] using h
  | headRead current_head =>
    rw [hc] at hcur
    simp only [step, hc]
    split_ifs with hempty
    · exact ⟨h.pushed_eq, trivial⟩
    · refine ⟨h.pushed_eq, hcur, fun hnil => hempty ?_⟩
      exact hcur.trans (s.ring.holds_items.empty_iff.mpr hnil)
  | nonempty current_head =>
    rw [hc] at hcur
    obtain ⟨rfl, hitems⟩ := hcur
    simp only [step, hc]
    refine ⟨h.pushed_eq, rfl, ?_⟩
    change s.ring.items.head? = _
    rw [s.ring.items_drop hitems]
    rfl
  -- The item copied is still the first, since items are only appended meanwhile.
  | copied item current_head =>
    rw [hc] at hcur
    obtain ⟨rfl, hitem⟩ := hcur
    have hne : s.ring.items ≠ [] := fun hnil => by simp [hnil] at hitem
    have hdrop := s.ring.items_drop hne
    rw [hdrop] at hitem
    simp only [step, hc]
    refine ⟨?_, trivial⟩
    change s.pushed = s.popped ++ [item] ++ _
    rw [h.pushed_eq, hdrop, List.append_assoc, ← Option.some.inj hitem]
    rfl

/-- Every safe action keeps the order. -/
theorem Fifo.step (h : s.Fifo) (act : RingAct P T) (hsafe : s.Safe act) : (s.step act).Fifo := by
  cases act with
  | push p item =>
    simp only [SharedRing.step]
    split
    · exact ⟨h.pushed_eq, h.current⟩
    · exact h
  | producer p => exact h.producer p hsafe
  | pop =>
    simp only [SharedRing.step]
    split
    · exact ⟨h.pushed_eq, rfl⟩
    · exact h
  | consumer => exact h.consumer

/-- An action after which nothing is lost was safe. -/
theorem Fifo.safe_of_lossless (h : s.Fifo) (act : RingAct P T) (hnew : (s.step act).Lossless) :
    s.Safe act := by
  cases act with
  | push p item => trivial
  | pop => trivial
  | consumer => trivial
  | producer p =>
    unfold Lossless at hnew
    cases hp : s.producers p with
    | idle => simp [Safe, hp]
    | tailRead item current_tail => simp [Safe, hp]
    | full => simp [Safe, hp]
    | claimed item current_tail =>
      simp only [Safe, hp]
      simp only [SharedRing.step, hp, setProducer, h.pushed_eq] at hnew
      exact (s.ring.items_write_perm_iff current_tail item).mp
        ((List.perm_append_left_iff _).mp hnew)
    -- One more item was pushed, so one more item must be in the ring.
    | written item current_tail =>
      simp only [Safe, hp]
      simp only [SharedRing.step, hp, setProducer, h.pushed_eq, List.append_assoc] at hnew
      have hperm := (List.perm_append_left_iff _).mp hnew
      have hlen := hperm.length_eq
      rw [List.length_append, List.length_singleton] at hlen
      obtain ⟨rfl, hroom⟩ := s.ring.of_length_items_publish hlen
      rw [s.ring.items_publish hroom, List.perm_append_left_iff, List.singleton_perm_singleton]
        at hperm
      exact ⟨rfl, hroom, hperm⟩

/-- The runs in which nothing is lost in any state are the runs of safe actions. -/
theorem lossless_iff [Inhabited T] (acts : List (RingAct P T)) :
    (∀ pre, pre <+: acts → (run step (create P Capacity : SharedRing P T Capacity) pre).Lossless) ↔
      Along step Safe (create P Capacity : SharedRing P T Capacity) acts :=
  forall_prefix_iff_along (fun _ act h hsafe => h.step act hsafe) (fun _ h => h.lossless)
    (fun _ act h hnew => h.safe_of_lossless act hnew) fifo_create acts

/-! ## Pushes that do not overlap -/

/-- No push begins while another producer is in a push. -/
def Exclusive (s : SharedRing P T Capacity) : RingAct P T → Prop
  | RingAct.push p _ => ∀ q, q ≠ p → s.producers q = PushPc.idle
  | _ => True

/-- What a producer has read is still so, and its slot is as it left it. -/
def Fresh (ring : RingBuffer T Capacity) : PushPc T Capacity → Prop
  | PushPc.idle | PushPc.full => True
  | PushPc.tailRead _ current_tail => current_tail = ring.tail
  | PushPc.claimed _ current_tail => current_tail = ring.tail ∧ ring.items.length < Capacity
  | PushPc.written item current_tail =>
    current_tail = ring.tail ∧ ring.items.length < Capacity ∧ ring.buf current_tail = item

/-- What a producer has seen stays so while items are only removed. -/
theorem Fresh.mono {ring ring' : RingBuffer T Capacity} {pc : PushPc T Capacity}
    (h : Fresh ring pc) (htail : ring'.tail = ring.tail) (hbuf : ring'.buf = ring.buf)
    (hitems : ring'.items.length ≤ ring.items.length) : Fresh ring' pc := by
  cases pc with
  | idle => trivial
  | full => trivial
  | tailRead item current_tail => exact h.trans htail.symm
  | claimed item current_tail => exact ⟨h.1.trans htail.symm, lt_of_le_of_lt hitems h.2⟩
  | written item current_tail =>
    exact ⟨h.1.trans htail.symm, lt_of_le_of_lt hitems h.2.1, hbuf ▸ h.2.2⟩

/-- At most one producer is in a push, and the ring is as that producer saw it. -/
structure Alone (s : SharedRing P T Capacity) : Prop where
  fifo : s.Fifo
  one : ∀ p q, p ≠ q → s.producers p = PushPc.idle ∨ s.producers q = PushPc.idle
  fresh : ∀ p, Fresh s.ring (s.producers p)

omit [DecidableEq P] in
/-- No push is under way on the empty ring. -/
theorem alone_create [Inhabited T] : (create P Capacity : SharedRing P T Capacity).Alone :=
  ⟨fifo_create, fun _ _ _ => Or.inl rfl, fun _ => trivial⟩

omit [DecidableEq P] in
/-- A producer that is alone takes only safe actions. -/
theorem Alone.safe (h : s.Alone) (act : RingAct P T) : s.Safe act := by
  cases act with
  | push p item => trivial
  | pop => trivial
  | consumer => trivial
  | producer p =>
    have hfresh := h.fresh p
    simp only [Safe]
    cases hp : s.producers p with
    | idle => trivial
    | tailRead item current_tail => trivial
    | full => trivial
    | claimed item current_tail =>
      rw [hp] at hfresh
      exact Or.inl (hfresh.1 ▸ s.ring.free_tail)
    | written item current_tail =>
      rw [hp] at hfresh
      exact hfresh

/-- A move of the only producer that is in a push keeps it alone. -/
theorem alone_of_set {s' : SharedRing P T Capacity} {p : P} {pc : PushPc T Capacity}
    (hfifo : s'.Fifo) (hothers : ∀ q, q ≠ p → s.producers q = PushPc.idle)
    (hset : s'.producers = Function.update s.producers p pc) (hfresh : Fresh s'.ring pc) :
    s'.Alone := by
  have hidle (q : P) (hq : q ≠ p) : s'.producers q = PushPc.idle := by
    rw [hset, Function.update_of_ne hq, hothers q hq]
  refine ⟨hfifo, fun q r hqr => ?_, fun q => ?_⟩
  · by_cases hq : q = p
    · exact Or.inr (hidle r fun hr => hqr (hq.trans hr.symm))
    · exact Or.inl (hidle q hq)
  · by_cases hq : q = p
    · rw [hq, hset, Function.update_self]
      exact hfresh
    · rw [hidle q hq]
      trivial

/-- A producer that is alone stays alone as it goes on. -/
theorem Alone.producer (h : s.Alone) (p : P) : (s.step (RingAct.producer p)).Alone := by
  have hfifo := h.fifo.producer p (h.safe _)
  have hothers (hp : s.producers p ≠ PushPc.idle) (q : P) (hq : q ≠ p) :
      s.producers q = PushPc.idle := (h.one q p hq).resolve_right hp
  have hfresh := h.fresh p
  cases hp : s.producers p with
  | idle => simpa [SharedRing.step, hp] using h
  | tailRead item current_tail =>
    rw [hp] at hfresh hothers
    simp only [SharedRing.step, hp] at hfifo ⊢
    split_ifs at hfifo ⊢ with hroom
    · -- The slot after the tail is not the head, so the ring is not full.
      refine alone_of_set hfifo (hothers nofun) rfl ⟨hfresh, ?_⟩
      have hold := s.ring.holds_items
      have hne : s.ring.items.length ≠ Capacity := fun hfull =>
        hroom (hfresh ▸ hold.full_iff.mpr hfull)
      exact lt_of_le_of_ne hold.length_le hne
    · exact alone_of_set hfifo (hothers nofun) rfl trivial
  | claimed item current_tail =>
    rw [hp] at hfresh hothers
    simp only [SharedRing.step, hp] at hfifo ⊢
    refine alone_of_set hfifo (hothers nofun) rfl ⟨hfresh.1, ?_, Function.update_self ..⟩
    have hitems := s.ring.items_write_of_free (hfresh.1 ▸ s.ring.free_tail) item
    exact hitems ▸ hfresh.2
  | written item current_tail =>
    rw [hp] at hothers
    simp only [SharedRing.step, hp] at hfifo ⊢
    exact alone_of_set hfifo (hothers nofun) rfl trivial
  | full =>
    rw [hp] at hothers
    simp only [SharedRing.step, hp] at hfifo ⊢
    exact alone_of_set hfifo (hothers nofun) rfl trivial

/-- The consumer leaves what the producers have seen as it is. -/
theorem Alone.consumer (h : s.Alone) : (s.step RingAct.consumer).Alone := by
  have hfifo := h.fifo.consumer
  have hcur := h.fifo.current
  cases hc : s.consumer with
  | idle => simpa [SharedRing.step, hc] using h
  | headRead current_head =>
    simp only [SharedRing.step, hc] at hfifo ⊢
    split_ifs at hfifo ⊢ <;> exact ⟨hfifo, h.one, h.fresh⟩
  | nonempty current_head =>
    simp only [SharedRing.step, hc] at hfifo ⊢
    exact ⟨hfifo, h.one, h.fresh⟩
  | copied item current_head =>
    rw [hc] at hcur
    obtain ⟨rfl, hitem⟩ := hcur
    simp only [SharedRing.step, hc] at hfifo ⊢
    refine ⟨hfifo, h.one, fun p => (h.fresh p).mono rfl rfl ?_⟩
    -- Publishing the head only removes an item.
    have hne : s.ring.items ≠ [] := fun hnil => by simp [hnil] at hitem
    rw [s.ring.items_drop hne, List.length_cons]
    exact Nat.le_succ _

/-- A producer stays alone while no other one begins a push. -/
theorem Alone.step (h : s.Alone) (act : RingAct P T) (hexcl : s.Exclusive act) :
    (s.step act).Alone := by
  cases act with
  | producer p => exact h.producer p
  | consumer => exact h.consumer
  | push p item =>
    have hfifo := h.fifo.step (RingAct.push p item) trivial
    simp only [SharedRing.step] at hfifo ⊢
    split at hfifo
    · exact alone_of_set hfifo hexcl rfl rfl
    · exact h
  | pop =>
    have hfifo := h.fifo.step RingAct.pop trivial
    simp only [SharedRing.step] at hfifo ⊢
    split at hfifo
    · exact ⟨hfifo, h.one, h.fresh⟩
    · exact h

/-- While pushes do not overlap, nothing is lost, and the items are popped in order. -/
theorem fifo_of_exclusive [Inhabited T] {acts : List (RingAct P T)}
    (h : Along SharedRing.step Exclusive (create P Capacity : SharedRing P T Capacity) acts) :
    (run SharedRing.step (create P Capacity : SharedRing P T Capacity) acts).Fifo :=
  (run_invariant_along (fun _ act halone hexcl => halone.step act hexcl) alone_create h).fifo

end SharedRing

end DeltaV
