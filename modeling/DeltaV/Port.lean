import DeltaV.Component
import DeltaV.Lib.Circular

/-!
# Ports

A `RingBuffer` is the array of `Capacity + 1` slots with its two indices, as the code keeps it. Both
indices stay within the array by their type. `Holds` relates a buffer to the list of its items,
oldest first: `push` appends to the list unless it has `Capacity` items, and `pop` takes the first.

An `OutputPort` is a pointer to an input port. Since several outputs may be connected to one input,
and an output may be reconnected, the pointers and the input ports of one packet type are kept
together in a `Bus`.
-/

namespace DeltaV

/-! ## Ring buffers -/

/-- The circular buffer behind an input port. -/
structure RingBuffer (T : Type*) (Capacity : ℕ) where
  buf : Fin (Capacity + 1) → T
  head : Fin (Capacity + 1)
  tail : Fin (Capacity + 1)
  overflow_count : UInt32

namespace RingBuffer

variable {T : Type*} {Capacity : ℕ}

/-- The buffer as constructed, with default items in its slots. -/
def create [Inhabited T] (Capacity : ℕ) : RingBuffer T Capacity := ⟨fun _ => default, 0, 0, 0⟩

/-- Appends an item, or counts an overflow when the next tail would meet the head. -/
def push (r : RingBuffer T Capacity) (item : T) : RingBuffer T Capacity × Bool :=
  let next_tail := advance r.tail 1
  if next_tail ≠ r.head then
    ({ r with buf := Function.update r.buf r.tail item, tail := next_tail }, true)
  else ({ r with overflow_count := r.overflow_count + 1 }, false)

/-- Takes the oldest item; `none` when the buffer is empty. -/
def pop (r : RingBuffer T Capacity) : Option (T × RingBuffer T Capacity) :=
  if r.head = r.tail then none
  else some (r.buf r.head, { r with head := advance r.head 1 })

/-- The number of items, computed from the indices. -/
def size (r : RingBuffer T Capacity) : ℕ :=
  if r.head.val ≤ r.tail.val then r.tail - r.head else Capacity + 1 - (r.head - r.tail)

/-- Returns the overflow count and resets it. -/
def drainOverflowCount (r : RingBuffer T Capacity) : UInt32 × RingBuffer T Capacity :=
  (r.overflow_count, { r with overflow_count := 0 })

/-- The items, oldest first. -/
def items (r : RingBuffer T Capacity) : List T :=
  (List.range r.size).map fun k => r.buf (advance r.head k)

/-- The buffer holds the list, oldest item first. -/
structure Holds (r : RingBuffer T Capacity) (xs : List T) : Prop where
  length_le : xs.length ≤ Capacity
  tail_eq : r.tail = advance r.head xs.length
  window : Window r.buf r.head xs

/-- The size is the distance from the head to the tail. -/
theorem size_spec (r : RingBuffer T Capacity) :
    r.size ≤ Capacity ∧ r.tail = advance r.head r.size := by
  have hh := r.head.isLt
  have ht := r.tail.isLt
  unfold size
  split_ifs with h
  · refine ⟨by omega, Fin.ext ?_⟩
    simp only [advance]
    rw [Nat.add_sub_cancel' h, Nat.mod_eq_of_lt ht]
  · refine ⟨by omega, Fin.ext ?_⟩
    simp only [advance]
    rw [show r.head.val + (Capacity + 1 - (r.head - r.tail)) = r.tail + (Capacity + 1) by omega,
      Nat.add_mod_right, Nat.mod_eq_of_lt ht]

/-- As many items wait as the size counts. -/
theorem length_items (r : RingBuffer T Capacity) : r.items.length = r.size := by
  unfold items
  rw [List.length_map, List.length_range]

/-- A buffer holds its items. -/
theorem holds_items (r : RingBuffer T Capacity) : r.Holds r.items := by
  obtain ⟨hle, htail⟩ := r.size_spec
  refine ⟨by rwa [length_items], by rwa [length_items], fun k x hx => ?_⟩
  obtain ⟨hk, hget⟩ := List.getElem?_eq_some_iff.mp hx
  rw [← hget]
  simp [items]

/-- A buffer holds only its items. -/
theorem Holds.eq_items {r : RingBuffer T Capacity} {xs : List T} (h : r.Holds xs) :
    r.items = xs := by
  have hi := r.holds_items
  have htail : advance r.head r.items.length = advance r.head xs.length := by
    rw [← hi.tail_eq, h.tail_eq]
  exact hi.window.unique h.window ((advance_inj hi.length_le h.length_le).mp htail)

/-- The buffer is full when the slot after the tail is the head. -/
theorem Holds.full_iff {r : RingBuffer T Capacity} {xs : List T} (h : r.Holds xs) :
    advance r.tail 1 = r.head ↔ xs.length = Capacity := by
  rw [h.tail_eq, advance_advance]
  constructor
  · intro heq
    by_contra hne
    have hlt : xs.length + 1 ≤ Capacity := by have := h.length_le; omega
    have := (advance_inj hlt (Nat.zero_le _)).mp (heq.trans (advance_zero _).symm)
    omega
  · intro hlen
    rw [hlen]
    -- A full turn leads back to the head.
    refine Fin.ext ?_
    simp only [advance]
    rw [Nat.add_mod_right, Nat.mod_eq_of_lt r.head.isLt]

/-- The buffer is empty when the head meets the tail. -/
theorem Holds.empty_iff {r : RingBuffer T Capacity} {xs : List T} (h : r.Holds xs) :
    r.head = r.tail ↔ xs = [] := by
  rw [h.tail_eq, ← List.length_eq_zero_iff]
  constructor
  · intro heq
    exact (advance_inj h.length_le (Nat.zero_le _)).mp (heq.symm.trans (advance_zero _).symm)
  · intro hlen
    rw [hlen, advance_zero]

/-- `push` succeeds exactly when there is room, and then appends the item. -/
theorem push_spec (r : RingBuffer T Capacity) (item : T) :
    (r.push item).2 = decide (r.items.length < Capacity) ∧
      (r.push item).1.items = r.items ++ (if (r.push item).2 then [item] else []) := by
  have h := r.holds_items
  have hle := h.length_le
  -- The code tests the next tail against the head, which is the test for a full buffer.
  rcases eq_or_ne (advance r.tail 1) r.head with hfull | hroom
  · have hlen : r.items.length = Capacity := h.full_iff.mp hfull
    have hpush : r.push item = ({ r with overflow_count := r.overflow_count + 1 }, false) :=
      if_neg (not_not.mpr hfull)
    rw [hpush]
    refine ⟨by simp [hlen], ?_⟩
    simp only [Bool.false_eq_true, if_false, List.append_nil]
    exact Holds.eq_items ⟨hle, h.tail_eq, h.window⟩
  · have hlen : r.items.length ≠ Capacity := fun heq => hroom (h.full_iff.mpr heq)
    have hpush : r.push item =
        ({ r with buf := Function.update r.buf r.tail item, tail := advance r.tail 1 }, true) :=
      if_pos hroom
    rw [hpush]
    refine ⟨by simp; omega, Holds.eq_items ⟨by simp; omega, ?_, ?_⟩⟩
    · simp only [if_true, List.length_append, List.length_singleton]
      rw [← advance_advance, ← h.tail_eq]
    · -- The new item goes to the slot after the others.
      have hw := h.window.write hle item
      rwa [← h.tail_eq] at hw

/-- `pop` fails exactly on an empty buffer. -/
theorem pop_eq_none_iff (r : RingBuffer T Capacity) : r.pop = none ↔ r.items = [] := by
  rw [← r.holds_items.empty_iff, pop]
  split_ifs with h <;> simp [h]

/-- `pop` takes the first item. -/
theorem pop_eq_some {r r' : RingBuffer T Capacity} {x : T} (h : r.pop = some (x, r')) :
    r.items = x :: r'.items := by
  have hi := r.holds_items
  unfold pop at h
  split_ifs at h with hne
  obtain ⟨rfl, rfl⟩ := Prod.mk.inj (Option.some.inj h)
  obtain ⟨y, ys, hys⟩ := List.exists_cons_of_ne_nil (fun hnil => hne (hi.empty_iff.mpr hnil))
  rw [hys] at hi ⊢
  obtain ⟨hhead, hrest⟩ := hi.window.tail
  have hlen : ys.length + 1 ≤ Capacity := hi.length_le
  -- Moving the head by one leaves the distance to the tail one shorter.
  have htail : r.tail = advance (advance r.head 1) ys.length := by
    rw [hi.tail_eq, advance_advance, Nat.add_comm 1, List.length_cons]
  have hholds : Holds { r with head := advance r.head 1 } ys := ⟨by omega, htail, hrest⟩
  rw [hhead, hholds.eq_items]

end RingBuffer

/-! ## Input ports -/

/-- The depth of a queue that no other is given for. -/
def DEFAULT_QUEUE_DEPTH : ℕ := 16

/-- An input port: the queue that receives packets. -/
structure InputPort (T : Type*) (QUEUE_DEPTH : ℕ) where
  queue : RingBuffer T QUEUE_DEPTH

namespace InputPort

variable {T : Type*} {QUEUE_DEPTH : ℕ}

/-- The port as constructed. -/
def create [Inhabited T] (QUEUE_DEPTH : ℕ) : InputPort T QUEUE_DEPTH :=
  ⟨RingBuffer.create QUEUE_DEPTH⟩

/-- Queues a packet; the flag says whether there was room. -/
def receive (p : InputPort T QUEUE_DEPTH) (data : T) : InputPort T QUEUE_DEPTH × Bool :=
  (⟨(p.queue.push data).1⟩, (p.queue.push data).2)

/-- Takes the oldest packet, if there is one. -/
def tryConsume (p : InputPort T QUEUE_DEPTH) : Option (T × InputPort T QUEUE_DEPTH) :=
  p.queue.pop.map fun r => (r.1, ⟨r.2⟩)

/-- Returns the overflow count and resets it. -/
def drainOverflowCount (p : InputPort T QUEUE_DEPTH) : UInt32 × InputPort T QUEUE_DEPTH :=
  (p.queue.drainOverflowCount.1, ⟨p.queue.drainOverflowCount.2⟩)

/-- The packets waiting in the port, oldest first. -/
def pending (p : InputPort T QUEUE_DEPTH) : List T := p.queue.items

/-- A port never holds more packets than its depth. -/
theorem length_pending_le (p : InputPort T QUEUE_DEPTH) : p.pending.length ≤ QUEUE_DEPTH :=
  p.queue.holds_items.length_le

/-- A packet is accepted exactly when there is room. -/
theorem receive_snd (p : InputPort T QUEUE_DEPTH) (data : T) :
    (p.receive data).2 = decide (p.pending.length < QUEUE_DEPTH) := (p.queue.push_spec data).1

/-- An accepted packet waits behind the others. -/
theorem pending_receive (p : InputPort T QUEUE_DEPTH) (data : T) :
    (p.receive data).1.pending = p.pending ++ (if (p.receive data).2 then [data] else []) :=
  (p.queue.push_spec data).2

/-- Takes up to `k` packets. -/
def discard : ℕ → InputPort T QUEUE_DEPTH → InputPort T QUEUE_DEPTH
  | 0, p => p
  | k + 1, p =>
    match p.tryConsume with
    | none => p
    | some (_, p') => discard k p'

/-- The loop `while (tryConsume(data))`. -/
def drain (p : InputPort T QUEUE_DEPTH) : InputPort T QUEUE_DEPTH := discard p.queue.size p

/-- Nothing is taken exactly when nothing waits. -/
theorem tryConsume_eq_none_iff (p : InputPort T QUEUE_DEPTH) :
    p.tryConsume = none ↔ p.pending = [] := by
  unfold tryConsume
  rw [Option.map_eq_none_iff]
  exact p.queue.pop_eq_none_iff

/-- The packet taken is the oldest. -/
theorem tryConsume_eq_some {p p' : InputPort T QUEUE_DEPTH} {x : T}
    (h : p.tryConsume = some (x, p')) : p.pending = x :: p'.pending := by
  unfold tryConsume at h
  obtain ⟨⟨y, r⟩, hr, hy⟩ := Option.map_eq_some_iff.mp h
  obtain ⟨rfl, rfl⟩ := Prod.mk.inj hy
  exact RingBuffer.pop_eq_some hr

/-- What is taken are the oldest packets. -/
theorem pending_discard (k : ℕ) (p : InputPort T QUEUE_DEPTH) :
    (discard k p).pending = p.pending.drop k := by
  induction k generalizing p with
  | zero => rfl
  | succ k ih =>
    unfold discard
    split
    · rename_i hnone
      rw [(p.tryConsume_eq_none_iff).mp hnone, List.drop_nil]
    · rename_i x p' hsome
      rw [ih, tryConsume_eq_some hsome, List.drop_succ_cons]

/-- The number of packets that wait is the size of the queue. -/
theorem length_pending (p : InputPort T QUEUE_DEPTH) : p.pending.length = p.queue.size :=
  p.queue.length_items

/-- The loop takes everything. -/
theorem pending_drain (p : InputPort T QUEUE_DEPTH) : p.drain.pending = [] := by
  unfold drain
  rw [pending_discard, ← length_pending, List.drop_length]

end InputPort

/-- `sendOrRecordError`: sends from a component through a port that is connected to the given input
port, and counts an error of the component when the packet is not accepted. -/
def Component.sendOrRecordError {T : Type*} {QUEUE_DEPTH : ℕ} (c : Component)
    (port : Option (InputPort T QUEUE_DEPTH)) (data : T) :
    Component × Option (InputPort T QUEUE_DEPTH) :=
  match port with
  | none => (c.recordError, none)
  | some dest =>
    let r := dest.receive data
    (if r.2 then c else c.recordError, some r.1)

/-! ## Connected ports -/

/-- The output ports and input ports of one packet type. -/
structure Bus (Out In T : Type*) where
  /-- The input port an output port points to; `none` is the null pointer. -/
  connected : Out → Option In
  input : In → InputPort T DEFAULT_QUEUE_DEPTH

namespace Bus

variable {Out In T : Type*} [DecidableEq In]

/-- Unconnected ports with empty queues. -/
def create [Inhabited T] (Out In : Type*) : Bus Out In T :=
  ⟨fun _ => none, fun _ => InputPort.create DEFAULT_QUEUE_DEPTH⟩

/-- Points an output port to an input port. -/
def connect [DecidableEq Out] (b : Bus Out In T) (o : Out) (dest : In) : Bus Out In T :=
  { b with connected := Function.update b.connected o (some dest) }

/-- Whether an output port points to an input port. -/
def isConnectedTo (b : Bus Out In T) (o : Out) (dest : In) : Bool :=
  decide (b.connected o = some dest)

/-- A port points to where it was connected last. -/
theorem isConnectedTo_connect [DecidableEq Out] (b : Bus Out In T) (o : Out)
    (dest i : In) : (b.connect o dest).isConnectedTo o i = decide (dest = i) := by
  simp [isConnectedTo, connect]

/-- Hands a packet to an input port. -/
def receive (b : Bus Out In T) (i : In) (data : T) : Bus Out In T × Bool :=
  ({ b with input := Function.update b.input i ((b.input i).receive data).1 },
    ((b.input i).receive data).2)

/-- Sends a packet from an output port; the flag says whether it was accepted. -/
def send (b : Bus Out In T) (o : Out) (data : T) : Bus Out In T × Bool :=
  match b.connected o with
  | some i => b.receive i data
  | none => (b, false)

/-- Takes the oldest packet of an input port, if there is one. -/
def tryConsume (b : Bus Out In T) (i : In) : Option (T × Bus Out In T) :=
  (b.input i).tryConsume.map fun r => (r.1, { b with input := Function.update b.input i r.2 })

/-- The packets waiting in an input port, oldest first. -/
def pending (b : Bus Out In T) (i : In) : List T := (b.input i).pending

/-- A packet is accepted exactly when the input port has room. -/
theorem receive_snd (b : Bus Out In T) (i : In) (data : T) :
    (b.receive i data).2 = decide ((b.pending i).length < DEFAULT_QUEUE_DEPTH) :=
  (b.input i).receive_snd data

/-- A packet handed to one input port waits there and nowhere else. -/
theorem pending_receive (b : Bus Out In T) (i j : In) (data : T) :
    (b.receive i data).1.pending j =
      b.pending j ++ (if j = i ∧ (b.receive i data).2 = true then [data] else []) := by
  rcases eq_or_ne j i with rfl | hne
  · simpa [pending, receive] using (b.input j).pending_receive data
  · simp [pending, receive, hne]

/-- Sending changes no connection. -/
@[simp] theorem connected_send (b : Bus Out In T) (o : Out) (data : T) :
    (b.send o data).1.connected = b.connected := by
  unfold send
  split <;> rfl

/-- A sent packet is accepted exactly when the output port is connected to an input port with
room. -/
theorem send_snd (b : Bus Out In T) (o : Out) (data : T) :
    (b.send o data).2 = true ↔
      ∃ i, b.connected o = some i ∧ (b.pending i).length < DEFAULT_QUEUE_DEPTH := by
  unfold send
  split
  · rename_i i hi
    rw [receive_snd, decide_eq_true_iff]
    constructor
    · exact fun h => ⟨i, hi, h⟩
    · rintro ⟨j, hj, h⟩
      rw [hi] at hj
      rwa [Option.some.inj hj]
  · rename_i hnone
    simp [hnone]

/-- A sent packet waits in the input port its output port points to, and nowhere else. -/
theorem pending_send (b : Bus Out In T) (o : Out) (j : In) (data : T) :
    (b.send o data).1.pending j =
      b.pending j ++
        (if b.connected o = some j ∧ (b.send o data).2 = true then [data] else []) := by
  unfold send
  split
  · rename_i i hi
    rw [pending_receive]
    simp only [hi, Option.some.injEq, eq_comm]
  · rename_i hnone
    simp [hnone]

/-- Nothing is taken exactly when nothing waits. -/
theorem tryConsume_eq_none_iff (b : Bus Out In T) (i : In) :
    b.tryConsume i = none ↔ b.pending i = [] := by
  unfold tryConsume
  rw [Option.map_eq_none_iff]
  exact (b.input i).tryConsume_eq_none_iff

/-- The packet taken is the oldest of its port, and no other port changes. -/
theorem tryConsume_eq_some {b b' : Bus Out In T} {i : In} {x : T}
    (h : b.tryConsume i = some (x, b')) :
    b.pending i = x :: b'.pending i ∧ (∀ j, j ≠ i → b'.pending j = b.pending j) ∧
      b'.connected = b.connected := by
  unfold tryConsume at h
  obtain ⟨⟨y, p⟩, hp, hy⟩ := Option.map_eq_some_iff.mp h
  obtain ⟨rfl, rfl⟩ := Prod.mk.inj hy
  refine ⟨?_, fun j hj => ?_, rfl⟩
  · simpa [pending] using InputPort.tryConsume_eq_some hp
  · simp [pending, Function.update_of_ne hj]

end Bus

end DeltaV
