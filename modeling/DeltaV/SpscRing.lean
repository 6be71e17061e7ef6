import DeltaV.SharedRing

/-!
# One producer and one consumer

The ring buffer with the 32-bit indices of the code, one producer, one consumer, and threads that
drain the overflow count, each taking its atomic actions in any order. While the indices can name
every slot, the ring is the shared ring with a single producer (`toShared_act`), whose pushes do not
overlap, so it is a lossless bounded queue (`spsc_contract`). With more than `2^32` slots the index
wraps before the last slot, and a push fails although the ring has room (`push_fails_with_room`).
-/

namespace DeltaV

/-- Where the producer is in `push`. -/
inductive Push (T : Type*) where
  | idle
  /-- The tail has been read. -/
  | tailRead (item : T) (current_tail : UInt32)
  /-- The head has been read, and there was room. -/
  | claimed (item : T) (current_tail : UInt32)
  /-- The slot has been written. -/
  | written (item : T) (current_tail : UInt32)
  /-- The head has been read, and there was no room. -/
  | full

/-- Where the consumer is in `pop`. -/
inductive Pop (T : Type*) where
  | idle
  /-- The head has been read. -/
  | headRead (current_head : UInt32)
  /-- The tail has been read, and there was an item. -/
  | nonempty (current_head : UInt32)
  /-- The slot has been read. -/
  | copied (item : T) (current_head : UInt32)

/-- A ring buffer, its two threads, and what has happened so far. -/
structure SpscRing (T : Type*) where
  buf : ℕ → T
  head : UInt32
  tail : UInt32
  overflow_count : UInt32
  producer : Push T
  consumer : Pop T
  /-- The items of the pushes that returned true. -/
  pushed : List T
  /-- The items of the pops that returned true. -/
  popped : List T
  /-- Whether the ring was full at some moment of the current push. -/
  push_saw_full : Bool
  /-- Whether the ring was empty at some moment of the current pop. -/
  pop_saw_empty : Bool
  /-- For every push that returned false, whether the ring was full at some moment of it. -/
  failed_pushes : List Bool
  /-- For every pop that returned false, whether the ring was empty at some moment of it. -/
  failed_pops : List Bool
  /-- The sum of the results of `drainOverflowCount`. -/
  drained : ℕ

/-- Who acts next. -/
inductive SpscAct (T : Type*) where
  /-- The producer, when idle, calls `push` and reads the tail. -/
  | push (item : T)
  /-- The producer takes its next action. -/
  | producer
  /-- The consumer, when idle, calls `pop` and reads the head. -/
  | pop
  /-- The consumer takes its next action. -/
  | consumer
  /-- A thread calls `drainOverflowCount`. -/
  | drain

namespace SpscRing

variable {T : Type*}

/-- An empty ring, and nobody in a call. -/
def create [Inhabited T] : SpscRing T where
  buf := fun _ => default
  head := 0
  tail := 0
  overflow_count := 0
  producer := Push.idle
  consumer := Pop.idle
  pushed := []
  popped := []
  push_saw_full := false
  pop_saw_empty := false
  failed_pushes := []
  failed_pops := []
  drained := 0

/-- The index after an index: the sum is a 32-bit number, the remainder is not. -/
def next (Capacity : ℕ) (i : UInt32) : UInt32 := UInt32.ofNat ((i + 1).toNat % (Capacity + 1))

/-- The number of items that have been pushed and not popped. -/
def stored (s : SpscRing T) : ℕ := s.pushed.length - s.popped.length

/-- One atomic action. -/
def act (Capacity : ℕ) (s : SpscRing T) : SpscAct T → SpscRing T
  | SpscAct.push item =>
    match s.producer with
    | Push.idle => { s with producer := Push.tailRead item s.tail, push_saw_full := false }
    | _ => s
  | SpscAct.producer =>
    match s.producer with
    | Push.idle => s
    | Push.tailRead item current_tail =>
      if next Capacity current_tail ≠ s.head then
        { s with producer := Push.claimed item current_tail }
      else { s with producer := Push.full }
    | Push.claimed item current_tail =>
      { s with
        buf := Function.update s.buf current_tail.toNat item
        producer := Push.written item current_tail }
    | Push.written item current_tail =>
      { s with
        tail := next Capacity current_tail
        producer := Push.idle
        pushed := s.pushed ++ [item] }
    | Push.full =>
      { s with
        overflow_count := s.overflow_count + 1
        producer := Push.idle
        failed_pushes := s.failed_pushes ++ [s.push_saw_full] }
  | SpscAct.pop =>
    match s.consumer with
    | Pop.idle => { s with consumer := Pop.headRead s.head, pop_saw_empty := false }
    | _ => s
  | SpscAct.consumer =>
    match s.consumer with
    | Pop.idle => s
    | Pop.headRead current_head =>
      if current_head = s.tail then
        { s with consumer := Pop.idle, failed_pops := s.failed_pops ++ [s.pop_saw_empty] }
      else { s with consumer := Pop.nonempty current_head }
    | Pop.nonempty current_head =>
      { s with consumer := Pop.copied (s.buf current_head.toNat) current_head }
    | Pop.copied item current_head =>
      { s with
        head := next Capacity current_head
        consumer := Pop.idle
        popped := s.popped ++ [item] }
  | SpscAct.drain =>
    { s with overflow_count := 0, drained := s.drained + s.overflow_count.toNat }

/-- Notes for the calls in progress whether the ring is full or empty. -/
def observe (Capacity : ℕ) (s : SpscRing T) : SpscRing T :=
  { s with
    push_saw_full := s.push_saw_full || decide (s.stored = Capacity)
    pop_saw_empty := s.pop_saw_empty || decide (s.stored = 0) }

/-- One atomic action, and the moment after it. -/
def step (Capacity : ℕ) (s : SpscRing T) (a : SpscAct T) : SpscRing T :=
  (s.act Capacity a).observe Capacity

/-! ## The shared ring behind it -/

/-- The slot of an index. -/
def slot (Capacity : ℕ) (i : UInt32) : Fin (Capacity + 1) :=
  ⟨i.toNat % (Capacity + 1), Nat.mod_lt _ Capacity.succ_pos⟩

/-- The producer of the shared ring. -/
def pushPc (Capacity : ℕ) : Push T → PushPc T Capacity
  | Push.idle => PushPc.idle
  | Push.tailRead item current_tail => PushPc.tailRead item (slot Capacity current_tail)
  | Push.claimed item current_tail => PushPc.claimed item (slot Capacity current_tail)
  | Push.written item current_tail => PushPc.written item (slot Capacity current_tail)
  | Push.full => PushPc.full

/-- The consumer of the shared ring. -/
def popPc (Capacity : ℕ) : Pop T → PopPc T Capacity
  | Pop.idle => PopPc.idle
  | Pop.headRead current_head => PopPc.headRead (slot Capacity current_head)
  | Pop.nonempty current_head => PopPc.nonempty (slot Capacity current_head)
  | Pop.copied item current_head => PopPc.copied item (slot Capacity current_head)

/-- The shared ring with one producer. -/
def toShared (Capacity : ℕ) (s : SpscRing T) : SharedRing Unit T Capacity where
  ring := ⟨fun i => s.buf i, slot Capacity s.head, slot Capacity s.tail, s.overflow_count⟩
  producers := fun _ => pushPc Capacity s.producer
  consumer := popPc Capacity s.consumer
  pushed := s.pushed
  popped := s.popped

/-- The index that the producer holds names a slot. -/
def PushInRange (Capacity : ℕ) : Push T → Prop
  | Push.tailRead _ current_tail | Push.claimed _ current_tail | Push.written _ current_tail =>
    current_tail.toNat ≤ Capacity
  | _ => True

/-- The index that the consumer holds names a slot. -/
def PopInRange (Capacity : ℕ) : Pop T → Prop
  | Pop.headRead current_head | Pop.nonempty current_head | Pop.copied _ current_head =>
    current_head.toNat ≤ Capacity
  | _ => True

/-- Every index names a slot. -/
structure InRange (Capacity : ℕ) (s : SpscRing T) : Prop where
  head : s.head.toNat ≤ Capacity
  tail : s.tail.toNat ≤ Capacity
  producer : PushInRange Capacity s.producer
  consumer : PopInRange Capacity s.consumer

section Simulation

variable {Capacity : ℕ} {s : SpscRing T}

/-- The slot of an index below the capacity is the index. -/
theorem slot_val {i : UInt32} (hi : i.toNat ≤ Capacity) : (slot Capacity i).val = i.toNat :=
  Nat.mod_eq_of_lt (by omega)

/-- Indices in range name different slots. -/
theorem slot_inj {i j : UInt32} (hi : i.toNat ≤ Capacity) (hj : j.toNat ≤ Capacity) :
    slot Capacity i = slot Capacity j ↔ i = j := by
  rw [← Fin.val_inj, slot_val hi, slot_val hj, UInt32.toNat_inj]

/-- While an index can name every slot, the index after an index in range names the slot after
its slot. -/
theorem slot_next (hC : Capacity < 2^32) {i : UInt32} (hi : i.toNat ≤ Capacity) :
    slot Capacity (next Capacity i) = advance (slot Capacity i) 1 ∧
      (next Capacity i).toNat ≤ Capacity := by
  have hsum : (i + 1).toNat = (i.toNat + 1) % 2^32 := UInt32.toNat_add i 1
  have hmod : (i + 1).toNat % (Capacity + 1) = (i.toNat + 1) % (Capacity + 1) := by
    rw [hsum]
    rcases Nat.lt_or_ge (i.toNat + 1) (2^32) with h | h
    · rw [Nat.mod_eq_of_lt h]
    · -- The sum wraps only for the last of `2^32` slots.
      have hlast : i.toNat + 1 = 2^32 := by omega
      have hcap : Capacity + 1 = 2^32 := by omega
      rw [hlast, hcap, Nat.mod_self, Nat.zero_mod]
  have hlt : (i.toNat + 1) % (Capacity + 1) < Capacity + 1 := Nat.mod_lt _ Capacity.succ_pos
  have hnext : (next Capacity i).toNat = (i.toNat + 1) % (Capacity + 1) := by
    rw [next, hmod]
    exact UInt32.toNat_ofNat_of_lt' (lt_of_lt_of_le hlt (show Capacity + 1 ≤ 2^32 by omega))
  refine ⟨Fin.ext ?_, by omega⟩
  rw [slot_val (by omega), hnext]
  show _ = ((slot Capacity i).val + 1) % (Capacity + 1)
  rw [slot_val hi]

/-- A single producer is the only one to move. -/
theorem update_unit (pc pc' : PushPc T Capacity) :
    Function.update (fun _ : Unit => pc) () pc' = fun _ => pc' := by
  funext p
  rw [Function.update_self]

/-- Every index stays in range. -/
theorem InRange.act (h : InRange Capacity s) (hC : Capacity < 2^32) (a : SpscAct T) :
    InRange Capacity (s.act Capacity a) := by
  have hprod := h.producer
  have hcons := h.consumer
  cases a with
  | push item =>
    simp only [SpscRing.act]
    cases hp : s.producer with
    | idle => exact ⟨h.head, h.tail, h.tail, h.consumer⟩
    | tailRead | claimed | written | full => exact h
  | producer =>
    simp only [SpscRing.act]
    cases hp : s.producer with
    | idle => exact h
    | tailRead item t =>
      rw [hp] at hprod
      simp only
      split_ifs
      · exact ⟨h.head, h.tail, hprod, h.consumer⟩
      · exact ⟨h.head, h.tail, trivial, h.consumer⟩
    | claimed item t =>
      rw [hp] at hprod
      exact ⟨h.head, h.tail, hprod, h.consumer⟩
    | written item t =>
      -- Only here does `tail` move, to the slot behind one in range.
      rw [hp] at hprod
      exact ⟨h.head, (slot_next hC hprod).2, trivial, h.consumer⟩
    | full => exact ⟨h.head, h.tail, trivial, h.consumer⟩
  | pop =>
    simp only [SpscRing.act]
    cases hc : s.consumer with
    | idle => exact ⟨h.head, h.tail, h.producer, h.head⟩
    | headRead | nonempty | copied => exact h
  | consumer =>
    simp only [SpscRing.act]
    cases hc : s.consumer with
    | idle => exact h
    | headRead i =>
      rw [hc] at hcons
      simp only
      split_ifs
      · exact ⟨h.head, h.tail, h.producer, trivial⟩
      · exact ⟨h.head, h.tail, h.producer, hcons⟩
    | nonempty i =>
      rw [hc] at hcons
      exact ⟨h.head, h.tail, h.producer, hcons⟩
    | copied item i =>
      rw [hc] at hcons
      exact ⟨(slot_next hC hcons).2, h.tail, h.producer, trivial⟩
  | drain => exact ⟨h.head, h.tail, h.producer, h.consumer⟩

/-- What an action is in the shared ring. -/
def sharedAct (s : SharedRing Unit T Capacity) : SpscAct T → SharedRing Unit T Capacity
  | SpscAct.push item => s.step (RingAct.push () item)
  | SpscAct.producer => s.step (RingAct.producer ())
  | SpscAct.pop => s.step RingAct.pop
  | SpscAct.consumer => s.step RingAct.consumer
  | SpscAct.drain => { s with ring := { s.ring with overflow_count := 0 } }

/-- A write to a slot is a write to the buffer of the shared ring. -/
theorem update_slot {i : UInt32} (hi : i.toNat ≤ Capacity) (buf : ℕ → T) (item : T) :
    (fun j : Fin (Capacity + 1) => Function.update buf i.toNat item j.val) =
      Function.update (fun j : Fin (Capacity + 1) => buf j.val) (slot Capacity i) item := by
  funext j
  by_cases hj : j = slot Capacity i
  · rw [hj, Function.update_self, slot_val hi, Function.update_self]
  · have hne : j.val ≠ i.toNat := fun heq => hj (Fin.ext (heq.trans (slot_val hi).symm))
    rw [Function.update_of_ne hj, Function.update_of_ne hne]

/-- The producer finds no room exactly when the producer of the shared ring does. -/
theorem no_room_iff (hC : Capacity < 2^32) {t h : UInt32} (ht : t.toNat ≤ Capacity)
    (hh : h.toNat ≤ Capacity) :
    advance (slot Capacity t) 1 = slot Capacity h ↔ next Capacity t = h := by
  obtain ⟨hslot, hle⟩ := slot_next hC ht
  rw [← hslot, slot_inj hle hh]

/-- The next action of the producer is that of the producer of the shared ring. -/
theorem toShared_producer (h : InRange Capacity s) (hC : Capacity < 2^32) :
    (s.act Capacity SpscAct.producer).toShared Capacity =
      (s.toShared Capacity).step (RingAct.producer ()) := by
  have hprod := h.producer
  simp only [SpscRing.act, SharedRing.step, toShared]
  cases hp : s.producer with
  | idle => simp [pushPc, hp]
  | tailRead item t =>
    rw [hp] at hprod
    have htest := no_room_iff hC hprod h.head
    by_cases hroom : next Capacity t = s.head
    · simp [pushPc, SharedRing.setProducer, update_unit, htest, hroom]
    · simp [pushPc, SharedRing.setProducer, update_unit, htest, hroom]
  | claimed item t =>
    rw [hp] at hprod
    simp [pushPc, SharedRing.setProducer, update_unit, update_slot hprod]
  | written item t =>
    rw [hp] at hprod
    simp [pushPc, SharedRing.setProducer, update_unit, (slot_next hC hprod).1]
  | full => simp [pushPc, SharedRing.setProducer, update_unit]

/-- The next action of the consumer is that of the consumer of the shared ring. -/
theorem toShared_consumer (h : InRange Capacity s) (hC : Capacity < 2^32) :
    (s.act Capacity SpscAct.consumer).toShared Capacity =
      (s.toShared Capacity).step RingAct.consumer := by
  have hcons := h.consumer
  simp only [SpscRing.act, SharedRing.step, toShared]
  cases hc : s.consumer with
  | idle => simp [popPc, hc]
  | headRead i =>
    rw [hc] at hcons
    by_cases hempty : i = s.tail
    · simp [popPc, hempty]
    · simp [popPc, hempty, slot_inj hcons h.tail]
  | nonempty i =>
    rw [hc] at hcons
    simp [popPc, slot_val hcons]
  | copied item i =>
    rw [hc] at hcons
    simp [popPc, (slot_next hC hcons).1]

/-- Every action is an action of the shared ring. -/
theorem toShared_act (h : InRange Capacity s) (hC : Capacity < 2^32) (a : SpscAct T) :
    (s.act Capacity a).toShared Capacity = sharedAct (s.toShared Capacity) a := by
  cases a with
  | push item =>
    simp only [SpscRing.act, sharedAct, SharedRing.step, toShared]
    cases hp : s.producer with
    | idle => simp [pushPc, SharedRing.setProducer, update_unit]
    | tailRead | claimed | written | full => simp [pushPc, hp]
  | producer => exact toShared_producer h hC
  | pop =>
    simp only [SpscRing.act, sharedAct, SharedRing.step, toShared]
    cases hc : s.consumer with
    | idle => simp [popPc]
    | headRead | nonempty | copied => simp [popPc, hc]
  | consumer => exact toShared_consumer h hC
  | drain => rfl

/-! ## The invariant -/

/-- What holds in every state: the single producer is alone, a call that is in progress has noted
whether the ring is full or empty now, calls have failed only on a full or an empty ring, and the
failed pushes have been counted. -/
structure Valid (Capacity : ℕ) (s : SpscRing T) : Prop where
  inRange : InRange Capacity s
  alone : (s.toShared Capacity).Alone
  sees_full : s.producer ≠ Push.idle → s.stored = Capacity → s.push_saw_full = true
  full : s.producer = Push.full → s.push_saw_full = true
  sees_empty : s.consumer ≠ Pop.idle → s.stored = 0 → s.pop_saw_empty = true
  failed_pushes : ∀ saw ∈ s.failed_pushes, saw = true
  failed_pops : ∀ saw ∈ s.failed_pops, saw = true
  count : (s.drained + s.overflow_count.toNat) % 2^32 = s.failed_pushes.length % 2^32

/-- What is stored are the items of the ring. -/
theorem Valid.stored_eq (h : Valid Capacity s) :
    s.stored = (s.toShared Capacity).ring.items.length := by
  have hpushed : s.pushed = s.popped ++ (s.toShared Capacity).ring.items := h.alone.fifo.pushed_eq
  rw [stored, hpushed, List.length_append]
  omega

/-- A producer that finds no room has found the ring full. -/
theorem Valid.stored_of_no_room (h : Valid Capacity s) (hC : Capacity < 2^32) {item : T}
    {t : UInt32} (hp : s.producer = Push.tailRead item t) (hroom : next Capacity t = s.head) :
    s.stored = Capacity := by
  have hprod := h.inRange.producer
  have hfresh := h.alone.fresh ()
  have hpc : (s.toShared Capacity).producers () = pushPc Capacity s.producer := rfl
  rw [hpc, hp] at hfresh
  rw [hp] at hprod
  rw [h.stored_eq]
  refine (s.toShared Capacity).ring.holds_items.full_iff.mp ?_
  rw [← show slot Capacity t = (s.toShared Capacity).ring.tail from hfresh,
    ← (slot_next hC hprod).1, hroom]
  rfl

/-- A consumer that finds no item has found the ring empty. -/
theorem Valid.stored_of_no_item (h : Valid Capacity s) {i : UInt32}
    (hc : s.consumer = Pop.headRead i) (hempty : i = s.tail) : s.stored = 0 := by
  have hcur := h.alone.fifo.current
  have hpc : (s.toShared Capacity).consumer = popPc Capacity s.consumer := rfl
  rw [hpc, hc] at hcur
  rw [h.stored_eq, List.length_eq_zero_iff]
  refine (s.toShared Capacity).ring.holds_items.empty_iff.mp ?_
  rw [← show slot Capacity i = (s.toShared Capacity).ring.head from hcur, hempty]
  rfl

/-- Every action keeps the single producer alone. -/
theorem Valid.alone_act (h : Valid Capacity s) (hC : Capacity < 2^32) (a : SpscAct T) :
    ((s.act Capacity a).toShared Capacity).Alone := by
  rw [toShared_act h.inRange hC]
  cases a with
  | push item => exact h.alone.step (RingAct.push () item) fun q hq => absurd rfl hq
  | producer => exact h.alone.producer ()
  | pop => exact h.alone.step RingAct.pop trivial
  | consumer => exact h.alone.consumer
  | drain =>
    have hfifo := h.alone.fifo
    exact ⟨⟨hfifo.pushed_eq, hfifo.current.append rfl List.prefix_rfl⟩, h.alone.one,
      fun p => (h.alone.fresh p).mono rfl rfl le_rfl⟩

/-- One more note that holds. -/
theorem all_append_singleton {notes : List Bool} {saw : Bool} (h : ∀ b ∈ notes, b = true)
    (hsaw : saw = true) : ∀ b ∈ notes ++ [saw], b = true := by
  intro b hb
  rcases List.mem_append.mp hb with hb | hb
  · exact h b hb
  · rw [List.mem_singleton.mp hb, hsaw]

/-- The producer notes a full ring before it gives up, and fails only then. -/
theorem Valid.act_pushes (h : Valid Capacity s) (hC : Capacity < 2^32) (a : SpscAct T) :
    ((s.act Capacity a).producer = Push.full →
        (s.act Capacity a).push_saw_full = true ∨ (s.act Capacity a).stored = Capacity) ∧
      (∀ saw ∈ (s.act Capacity a).failed_pushes, saw = true) ∧
      ((s.act Capacity a).drained + (s.act Capacity a).overflow_count.toNat) % 2^32 =
        (s.act Capacity a).failed_pushes.length % 2^32 := by
  have hkeep : s.producer = Push.full → s.push_saw_full = true ∨ s.stored = Capacity :=
    fun hp => Or.inl (h.full hp)
  cases a with
  | push item =>
    simp only [act]
    cases hp : s.producer with
    | idle => exact ⟨nofun, h.failed_pushes, h.count⟩
    | tailRead | claimed | written | full => exact ⟨hkeep, h.failed_pushes, h.count⟩
  | producer =>
    simp only [act]
    cases hp : s.producer with
    | idle => exact ⟨hkeep, h.failed_pushes, h.count⟩
    | tailRead item t =>
      -- The ring is full when the slot behind `tail` is the one at `head`.
      by_cases hroom : next Capacity t = s.head
      · simp only [hroom, ne_eq, not_true_eq_false, if_false]
        exact ⟨fun _ => Or.inr (h.stored_of_no_room hC hp hroom), h.failed_pushes, h.count⟩
      · simp only [ne_eq, hroom, not_false_eq_true, if_true]
        exact ⟨nofun, h.failed_pushes, h.count⟩
    | claimed | written => exact ⟨nofun, h.failed_pushes, h.count⟩
    | full =>
      -- The only action that fails a push, and it counts the failure.
      refine ⟨nofun, all_append_singleton h.failed_pushes (h.full hp), ?_⟩
      have hcount := h.count
      have hadd : (s.overflow_count + 1).toNat = (s.overflow_count.toNat + 1) % 2^32 :=
        UInt32.toNat_add _ _
      simp only [hadd, List.length_append, List.length_singleton]
      omega
  | pop =>
    simp only [act]
    cases hc : s.consumer with
    | idle | headRead | nonempty | copied => exact ⟨hkeep, h.failed_pushes, h.count⟩
  | consumer =>
    simp only [act]
    cases hc : s.consumer with
    | idle | nonempty | copied =>
      exact ⟨fun hp => Or.inl (h.full hp), h.failed_pushes, h.count⟩
    | headRead i =>
      simp only
      split_ifs <;> exact ⟨hkeep, h.failed_pushes, h.count⟩
  | drain =>
    refine ⟨hkeep, h.failed_pushes, ?_⟩
    have hcount := h.count
    simpa [act] using hcount

/-- The consumer fails only on a ring that it has seen empty. -/
theorem Valid.act_pops (h : Valid Capacity s) (a : SpscAct T) :
    ∀ saw ∈ (s.act Capacity a).failed_pops, saw = true := by
  cases a with
  | push item =>
    simp only [act]
    cases hp : s.producer <;> exact h.failed_pops
  | producer =>
    simp only [act]
    cases hp : s.producer with
    | idle | claimed | written | full => exact h.failed_pops
    | tailRead =>
      simp only
      split_ifs <;> exact h.failed_pops
  | pop =>
    simp only [act]
    cases hc : s.consumer <;> exact h.failed_pops
  | consumer =>
    simp only [act]
    cases hc : s.consumer with
    | idle | nonempty | copied => exact h.failed_pops
    | headRead i =>
      simp only
      split_ifs with hempty
      · exact all_append_singleton h.failed_pops
          (h.sees_empty (by rw [hc]; nofun) (h.stored_of_no_item hc hempty))
      · exact h.failed_pops
  | drain => exact h.failed_pops

/-- Every action keeps the invariant. -/
theorem Valid.step (h : Valid Capacity s) (hC : Capacity < 2^32) (a : SpscAct T) :
    Valid Capacity (s.step Capacity a) := by
  have hrange := h.inRange.act hC a
  obtain ⟨hfull, hpushes, hcount⟩ := h.act_pushes hC a
  have hpops := h.act_pops a
  have halone := h.alone_act hC a
  unfold SpscRing.step
  generalize s.act Capacity a = s' at *
  -- The moment after the action is noted for the calls in progress.
  refine ⟨⟨hrange.head, hrange.tail, hrange.producer, hrange.consumer⟩, halone, ?_, ?_, ?_,
    hpushes, hpops, hcount⟩
  · intro _ hstored
    have hnow : s'.stored = Capacity := hstored
    simp [observe, hnow]
  · intro hp
    rcases hfull hp with hsaw | hnow
    · simp [observe, hsaw]
    · simp [observe, hnow]
  · intro _ hstored
    have hnow : s'.stored = 0 := hstored
    simp [observe, hnow]

/-- The empty ring satisfies the invariant. -/
theorem valid_create [Inhabited T] : Valid Capacity (create : SpscRing T) := by
  have halone : ((create : SpscRing T).toShared Capacity).Alone := by
    have hslot : slot Capacity 0 = 0 := Fin.ext (Nat.zero_mod _)
    have heq : (create : SpscRing T).toShared Capacity = SharedRing.create Unit Capacity := by
      simp [toShared, create, SharedRing.create, RingBuffer.create, hslot, pushPc, popPc]
    rw [heq]
    exact SharedRing.alone_create
  exact ⟨⟨Nat.zero_le _, Nat.zero_le _, trivial, trivial⟩, halone, nofun, nofun, nofun, nofun,
    nofun, rfl⟩

end Simulation

/-! ## The contract -/

/-- The consumer is not about to read the slot that the producer writes. -/
def ReadsElsewhere (s : SpscRing T) : Prop :=
  ∀ i item t, s.consumer = Pop.nonempty i →
    s.producer = Push.claimed item t ∨ s.producer = Push.written item t → i ≠ t

/-- The slot that is read holds an item, and the slot that is written does not. -/
theorem Valid.readsElsewhere {Capacity : ℕ} {s : SpscRing T} (h : Valid Capacity s) :
    s.ReadsElsewhere := by
  rintro i item t hc hp rfl
  have hcur := h.alone.fifo.current
  have hpop : (s.toShared Capacity).consumer = popPc Capacity s.consumer := rfl
  rw [hpop, hc] at hcur
  obtain ⟨hhead, hitems⟩ := hcur
  have htail : slot Capacity i = (s.toShared Capacity).ring.tail := by
    have hfresh := h.alone.fresh ()
    have hpush : (s.toShared Capacity).producers () = pushPc Capacity s.producer := rfl
    rw [hpush] at hfresh
    rcases hp with hp | hp
    · rw [hp] at hfresh
      exact hfresh.1
    · rw [hp] at hfresh
      exact hfresh.1
  -- With the head at the tail there would be no item.
  exact hitems ((s.toShared Capacity).ring.holds_items.empty_iff.mp (hhead.symm.trans htail))

/-- The ring with one producer and one consumer, for every capacity whose slots a 32-bit index can
name, and every order of the atomic actions. The popped items are a prefix of the pushed ones, at
most `Capacity` items are stored, no slot is read while it is written, a push fails only if the ring
was full and a pop only if it was empty at some moment of the call, and the overflow counts drained
and left are the failed pushes modulo `2^32`. -/
theorem spsc_contract [Inhabited T] (Capacity : ℕ) (hC : Capacity < 2^32)
    (acts : List (SpscAct T)) :
    let s := run (step Capacity) (create : SpscRing T) acts
    s.popped <+: s.pushed ∧ s.pushed.length ≤ s.popped.length + Capacity ∧ s.ReadsElsewhere ∧
      (∀ saw ∈ s.failed_pushes, saw = true) ∧ (∀ saw ∈ s.failed_pops, saw = true) ∧
      (s.drained + s.overflow_count.toNat) % 2^32 = s.failed_pushes.length % 2^32 := by
  intro s
  have h : Valid Capacity s := run_invariant (fun _ a h => h.step hC a) valid_create acts
  have hpushed : s.pushed = s.popped ++ (s.toShared Capacity).ring.items := h.alone.fifo.pushed_eq
  refine ⟨⟨_, hpushed.symm⟩, ?_, h.readsElsewhere, h.failed_pushes, h.failed_pops, h.count⟩
  rw [hpushed, List.length_append]
  exact Nat.add_le_add_left (s.toShared Capacity).ring.holds_items.length_le _

/-- A ring of one item: the second push fails, and the item is popped. -/
theorem spsc_contract_one :
    let s := run (step 1) (create : SpscRing ℕ) [SpscAct.push 5, SpscAct.producer,
      SpscAct.producer, SpscAct.producer, SpscAct.push 6, SpscAct.pop, SpscAct.producer,
      SpscAct.producer, SpscAct.consumer, SpscAct.consumer, SpscAct.drain, SpscAct.consumer]
    s.popped <+: s.pushed ∧ s.pushed.length ≤ s.popped.length + 1 ∧ s.ReadsElsewhere ∧
      (∀ saw ∈ s.failed_pushes, saw = true) ∧ (∀ saw ∈ s.failed_pops, saw = true) ∧
      (s.drained + s.overflow_count.toNat) % 2^32 = s.failed_pushes.length % 2^32 :=
  spsc_contract 1 (by decide) _

/-! ## More slots than indices -/

/-- The actions of one push without interruption. -/
def pushActs : List (SpscAct Unit) :=
  [SpscAct.push (), SpscAct.producer, SpscAct.producer, SpscAct.producer]

/-- After `k` pushes without interruption and no pop. -/
structure Filled (k : ℕ) (s : SpscRing Unit) : Prop where
  head : s.head = 0
  tail : s.tail.toNat = k
  producer : s.producer = Push.idle
  pushed : s.pushed.length = k
  popped : s.popped = []

/-- With `2^32` items of room, the index after an index wraps with the 32-bit numbers. -/
theorem next_eq_add_one (i : UInt32) : next (2^32) i = i + 1 := by
  have hlt := (i + 1).toNat_lt
  rw [next, Nat.mod_eq_of_lt (by omega), UInt32.ofNat_toNat]

/-- A push fills one more slot while the index does not wrap. -/
theorem Filled.push {Capacity k : ℕ} {s : SpscRing Unit} (h : Filled k s) (hk : k + 1 < 2^32)
    (hnext : ∀ i, next Capacity i = i + 1) :
    Filled (k + 1) (run (step Capacity) s pushActs) := by
  have hsum : (s.tail + 1).toNat = k + 1 := by
    rw [UInt32.toNat_add, h.tail]
    exact Nat.mod_eq_of_lt hk
  have hroom : s.tail + 1 ≠ 0 := by
    intro heq
    rw [heq] at hsum
    cases hsum
  refine ⟨?_, ?_, ?_, ?_, ?_⟩ <;>
    simp [pushActs, step, act, observe, h.head, h.producer, h.popped, h.pushed, hnext, hroom, hsum]

/-- A push that finds the index wrapped fails, and has not seen the ring full. -/
theorem Filled.push_fails {Capacity k : ℕ} {s : SpscRing Unit} (h : Filled k s)
    (hwrap : k + 1 = 2^32) (hroom : k ≠ Capacity) (hnext : ∀ i, next Capacity i = i + 1) :
    false ∈ (run (step Capacity) s pushActs).failed_pushes := by
  have hsum : s.tail + 1 = 0 := by
    apply UInt32.toNat_inj.mp
    rw [UInt32.toNat_add, h.tail]
    show (k + 1) % 2^32 = 0
    rw [hwrap, Nat.mod_self]
  simp [pushActs, step, act, observe, stored, h.head, h.producer, h.popped, h.pushed, hnext, hsum,
    hroom]

/-- A ring with room for `2^32` items is filled with one item less, and then a push fails although
the ring was never full. -/
theorem push_fails_with_room :
    ∃ acts : List (SpscAct Unit),
      false ∈ (run (step (2^32)) (create : SpscRing Unit) acts).failed_pushes := by
  have hfill : ∀ k, k < 2^32 →
      Filled k (run (step (2^32)) (create : SpscRing Unit)
        (List.replicate k pushActs).flatten) := by
    intro k
    induction k with
    | zero => exact fun _ => ⟨rfl, rfl, rfl, rfl, rfl⟩
    | succ k ih =>
      intro hk
      rw [List.replicate_succ', List.flatten_append, run_append, List.flatten_singleton]
      exact (ih (by omega)).push hk next_eq_add_one
  refine ⟨(List.replicate (2^32 - 1) pushActs).flatten ++ pushActs, ?_⟩
  rw [run_append]
  exact (hfill (2^32 - 1) (by decide)).push_fails (by decide) (by decide) next_eq_add_one

end SpscRing

end DeltaV
