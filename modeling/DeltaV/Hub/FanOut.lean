import DeltaV.Component
import DeltaV.Lib.BoundedQueue
import DeltaV.Port

/-!
# Fan-out

The loop that the telemetry hub and the event hub share: every packet that waits in an input is
taken and sent to every listener, and a send that is refused is an error of the hub. A listener may
have its queue emptied by a thread of its own while the loop runs, so the loop is told how many
packets each listener takes before each packet is sent on. A listener that takes none during the
loop is offered all packets of all inputs, in the order of the inputs, whatever the other listeners
do (`step_spec`), and the error count grows by the sends that are refused (`counted_step`). A port
may have been registered several times: then a listener is offered every packet as often, and an
input is empty when its turn comes again (`step_offers`).
-/

namespace DeltaV

/-- What a hub works on: its base, all input ports, and a record of the sends that were refused. -/
structure FanOut (In T : Type*) where
  base : Component
  ports : In → InputPort T DEFAULT_QUEUE_DEPTH
  refused : List (In × T)

namespace FanOut

variable {In T : Type*} [DecidableEq In]

/-- `if (!listener.send(data)) recordError();`. -/
def send (data : T) (s : FanOut In T) (dest : In) : FanOut In T :=
  let r := (s.ports dest).receive data
  let s' := { s with ports := Function.update s.ports dest r.1 }
  if r.2 then s'
  else { s' with base := s.base.recordError, refused := s.refused ++ [(dest, data)] }

/-- Sends one packet to every listener. -/
def sendAll (listeners : List In) (s : FanOut In T) (data : T) : FanOut In T :=
  listeners.foldl (send data) s

/-- The owners of the ports take packets. -/
def taken (s : FanOut In T) (count : In → ℕ) : FanOut In T :=
  { s with ports := fun i => InputPort.discard (count i) (s.ports i) }

/-- Takes up to `fuel` packets from an input and sends each to every listener; `others n` says what
others take before the `n`th packet of the step is sent. -/
def drainInput (listeners : List In) (others : ℕ → In → ℕ) (i : In) :
    ℕ → FanOut In T × ℕ → FanOut In T × ℕ
  | 0, r => r
  | fuel + 1, (s, n) =>
    match (s.ports i).tryConsume with
    | none => (s, n)
    | some (data, port) =>
      drainInput listeners others i fuel
        (sendAll listeners ({ s with ports := Function.update s.ports i port }.taken (others n))
          data, n + 1)

/-- One step of a hub. No listener is an input, so each input is drained when as many packets have
been taken as waited in it. -/
def step (inputs listeners : List In) (others : ℕ → In → ℕ) (s : FanOut In T) : FanOut In T :=
  (inputs.foldl (fun r i => drainInput listeners others i (r.1.ports i).queue.size r) (s, 0)).1

/-- The packets waiting in a port. -/
def pending (s : FanOut In T) (i : In) : List T := (s.ports i).pending

/-- The packets that a listener refused. -/
def refusedBy (s : FanOut In T) (l : In) : List T := (s.refused.filter (·.1 = l)).map (·.2)

/-- The listener has been offered the packets. -/
abbrev Offered (l : In) (xs : List T) (s s' : FanOut In T) : Prop :=
  Fed DEFAULT_QUEUE_DEPTH (s.pending l) (s.refusedBy l) xs (s'.pending l) (s'.refusedBy l)

/-! ## One packet -/

/-- A send concerns only its listener. -/
theorem send_of_ne (data : T) (s : FanOut In T) {dest i : In} (h : i ≠ dest) :
    (send data s dest).pending i = s.pending i ∧
      (send data s dest).refusedBy i = s.refusedBy i := by
  unfold send pending refusedBy
  dsimp only
  split_ifs
  · simp [Function.update_of_ne h]
  · simp [Function.update_of_ne h, h.symm]

/-- A send offers the packet to its listener. -/
theorem offered_send (data : T) (s : FanOut In T) (dest : In) :
    Offered dest [data] s (send data s dest) := by
  have hsnd := (s.ports dest).receive_snd data
  have hpending := (s.ports dest).pending_receive data
  have hfed : Fed DEFAULT_QUEUE_DEPTH (s.pending dest) (s.refusedBy dest) [data] _ _ :=
    Fed.single _ _ data
  change _ = decide ((s.pending dest).length < DEFAULT_QUEUE_DEPTH) at hsnd
  unfold Offered
  -- The port answers whether there was room, and the record follows the answer.
  by_cases hroom : (s.pending dest).length < DEFAULT_QUEUE_DEPTH
  · rw [decide_eq_true hroom] at hsnd
    rw [hsnd, if_pos rfl] at hpending
    rw [if_pos hroom, if_pos hroom] at hfed
    convert hfed using 1
    · simpa [send, pending, hsnd] using hpending
    · simp [send, refusedBy, hsnd]
  · rw [decide_eq_false hroom] at hsnd
    rw [hsnd, if_neg Bool.false_ne_true] at hpending
    rw [if_neg hroom, if_neg hroom] at hfed
    convert hfed using 1
    · simpa [send, pending, hsnd] using hpending
    · simp [send, refusedBy, hsnd]

/-- Sending to all listeners does not concern other ports. -/
theorem sendAll_of_notMem {listeners : List In} (s : FanOut In T) (data : T) {i : In}
    (h : i ∉ listeners) : (sendAll listeners s data).pending i = s.pending i ∧
      (sendAll listeners s data).refusedBy i = s.refusedBy i := by
  unfold sendAll
  induction listeners generalizing s with
  | nil => exact ⟨rfl, rfl⟩
  | cons l ls ih =>
    obtain ⟨hpending, hrefused⟩ := send_of_ne data s (List.ne_of_not_mem_cons h)
    -- The first send is to another port.
    rw [List.foldl_cons, ← hpending, ← hrefused]
    exact ih _ (List.not_mem_of_not_mem_cons h)

/-- Sending to all listeners offers the packet to each as often as it is registered. -/
theorem offered_sendAll (listeners : List In) (s : FanOut In T) (data : T) (l : In) :
    Offered l (List.replicate (listeners.count l) data) s (sendAll listeners s data) := by
  induction listeners generalizing s with
  | nil => exact Fed.refl _ _
  | cons l' ls ih =>
    change Offered l _ s (sendAll ls (send data s l') data)
    have hrest := ih (send data s l')
    rcases eq_or_ne l l' with rfl | hne
    · rw [List.count_cons_self, List.replicate_succ]
      exact Fed.trans (offered_send data s l) hrest
    · -- The first send is to another port.
      obtain ⟨hpending, hrefused⟩ := send_of_ne data s hne
      rw [List.count_cons_of_ne hne.symm]
      rwa [Offered, hpending, hrefused] at hrest

/-! ## One step -/

/-- Nobody but the hub touches the port during the step. -/
def Quiet (others : ℕ → In → ℕ) (i : In) : Prop := ∀ n, others n i = 0

omit [DecidableEq In] in
/-- Where nothing is taken, nothing changes. -/
theorem taken_of_quiet {others : ℕ → In → ℕ} {i : In} (h : Quiet others i) (s : FanOut In T)
    (n : ℕ) : (s.taken (others n)).pending i = s.pending i := by
  unfold taken pending
  dsimp only
  rw [h n]
  rfl

/-- The packets that are collected from the inputs in the order of the loop: an input whose turn
comes again is empty. -/
def collected : List In → (In → List T) → List T
  | [], _ => []
  | i :: is, waiting => waiting i ++ collected is (Function.update waiting i [])

/-- Only what waits in the inputs is collected. -/
theorem collected_congr {is : List In} {waiting waiting' : In → List T}
    (h : ∀ i ∈ is, waiting i = waiting' i) : collected is waiting = collected is waiting' := by
  induction is generalizing waiting waiting' with
  | nil => rfl
  | cons i is ih =>
    unfold collected
    rw [h i List.mem_cons_self]
    congr 1
    refine ih fun j hj => ?_
    rcases eq_or_ne j i with rfl | hne
    · rw [Function.update_self, Function.update_self]
    · rw [Function.update_of_ne hne, Function.update_of_ne hne]
      exact h j (List.mem_cons_of_mem _ hj)

/-- From different inputs everything is collected. -/
theorem collected_of_nodup {is : List In} (hnodup : is.Nodup) (waiting : In → List T) :
    collected is waiting = is.flatMap waiting := by
  induction is generalizing waiting with
  | nil => rfl
  | cons i is ih =>
    obtain ⟨hi, his⟩ := List.nodup_cons.mp hnodup
    unfold collected
    rw [ih his, List.flatMap_cons]
    congr 1
    refine List.flatMap_congr fun j hj => ?_
    rw [Function.update_of_ne (ne_of_mem_of_not_mem hj hi)]

/-- The packets in the order in which they are sent to a port that is registered `k` times. -/
def copies (k : ℕ) (xs : List T) : List T := xs.flatMap (List.replicate k)

omit [DecidableEq In] in
/-- A port that is registered once is sent every packet once. -/
theorem copies_one (xs : List T) : copies 1 xs = xs :=
  List.flatMap_singleton' xs

/-- Draining an input empties it, offers its packets to every quiet listener, and leaves the other
quiet ports alone. -/
theorem drainInput_spec (listeners : List In) {others : ℕ → In → ℕ} {i : In} (hi : i ∉ listeners)
    (hquiet : Quiet others i) (s : FanOut In T) (n : ℕ) :
    let s' := (drainInput listeners others i (s.pending i).length (s, n)).1
    s'.pending i = [] ∧
      (∀ j, j ≠ i → j ∉ listeners → Quiet others j → s'.pending j = s.pending j) ∧
      ∀ l ∈ listeners, Quiet others l →
        Offered l (copies (listeners.count l) (s.pending i)) s s' := by
  generalize hlen : (s.pending i).length = fuel
  -- The fuel counts the packets that wait; each pass takes one.
  induction fuel generalizing s n with
  | zero =>
    have hnil := List.eq_nil_of_length_eq_zero hlen
    refine ⟨hnil, fun _ _ _ _ => rfl, fun l _ _ => ?_⟩
    rw [hnil]
    exact Fed.refl _ _
  | succ fuel ih =>
    cases hc : (s.ports i).tryConsume with
    | none =>
      rw [pending, (s.ports i).tryConsume_eq_none_iff.mp hc] at hlen
      simp at hlen
    | some r =>
      obtain ⟨data, port⟩ := r
      have hcons : s.pending i = data :: port.pending := InputPort.tryConsume_eq_some hc
      set s₁ : FanOut In T := { s with ports := Function.update s.ports i port } with hs₁
      set s₂ := sendAll listeners (s₁.taken (others n)) data with hs₂
      have hport : s₁.pending i = port.pending := by simp [hs₁, pending]
      have hother (j : In) (hj : j ≠ i) : s₁.pending j = s.pending j := by
        simp [hs₁, pending, Function.update_of_ne hj]
      -- What is left in the input after its first packet.
      have hleft : s₂.pending i = port.pending := by
        rw [hs₂, (sendAll_of_notMem _ data hi).1, taken_of_quiet hquiet, hport]
      have hfuel : (s₂.pending i).length = fuel := by
        rw [hleft]
        rw [hcons, List.length_cons] at hlen
        omega
      obtain ⟨hempty, hframe, hoffered⟩ := ih s₂ (n + 1) hfuel
      simp only [drainInput, hc]
      refine ⟨hempty, fun j hj hmem hq => ?_, fun l hl hq => ?_⟩
      · rw [hframe j hj hmem hq, hs₂, (sendAll_of_notMem _ data hmem).1, taken_of_quiet hq,
          hother j hj]
      · have hne : l ≠ i := ne_of_mem_of_not_mem hl hi
        have hfirst := offered_sendAll listeners (s₁.taken (others n)) data l
        rw [Offered, taken_of_quiet hq, hother l hne] at hfirst
        rw [hcons, copies, List.flatMap_cons, ← hleft]
        exact Fed.trans hfirst (hoffered l hl hq)

/-- A step empties the inputs, offers what it collects to every quiet listener as often as the
listener is registered, and leaves the other quiet ports alone. -/
theorem step_offers {inputs listeners : List In} (hdisj : ∀ i ∈ inputs, i ∉ listeners)
    {others : ℕ → In → ℕ} (hquiet : ∀ i ∈ inputs, Quiet others i) (s : FanOut In T) :
    (∀ i ∈ inputs, (step inputs listeners others s).pending i = []) ∧
      (∀ j ∉ inputs, j ∉ listeners → Quiet others j →
        (step inputs listeners others s).pending j = s.pending j) ∧
      ∀ l ∈ listeners, Quiet others l →
        Offered l (copies (listeners.count l) (collected inputs s.pending)) s
          (step inputs listeners others s) := by
  unfold step
  generalize 0 = n
  induction inputs generalizing s n with
  | nil => exact ⟨nofun, fun _ _ _ _ => rfl, fun _ _ _ => Fed.refl _ _⟩
  | cons i is ih =>
    have hi := hdisj i List.mem_cons_self
    have hqi := hquiet i List.mem_cons_self
    rw [List.foldl_cons]
    have hspec := drainInput_spec listeners hi hqi s n
    rw [pending, InputPort.length_pending] at hspec
    generalize drainInput listeners others i (s.ports i).queue.size (s, n) = r at hspec
    obtain ⟨s₁, n₁⟩ := r
    obtain ⟨hempty, hframe, hoffered⟩ := hspec
    obtain ⟨hempty', hframe', hoffered'⟩ := ih (fun j hj => hdisj j (List.mem_cons_of_mem _ hj))
      (fun j hj => hquiet j (List.mem_cons_of_mem _ hj)) s₁ n₁
    -- The first input alone has changed when the others are drained.
    have hsame (j : In) (hj : j ∈ is) : s₁.pending j = Function.update s.pending i [] j := by
      rcases eq_or_ne j i with rfl | hne
      · rw [Function.update_self]
        exact hempty
      · rw [Function.update_of_ne hne]
        exact hframe j hne (hdisj j (List.mem_cons_of_mem _ hj))
          (hquiet j (List.mem_cons_of_mem _ hj))
    refine ⟨fun j hj => ?_, fun j hj hmem hq => ?_, fun l hl hq => ?_⟩
    · rcases Decidable.em (j ∈ is) with hmem | hmem
      · exact hempty' j hmem
      · obtain rfl : j = i := (List.mem_cons.mp hj).resolve_right hmem
        rw [hframe' j hmem hi hqi]
        exact hempty
    · rw [hframe' j (List.not_mem_of_not_mem_cons hj) hmem hq]
      exact hframe j (List.ne_of_not_mem_cons hj) hmem hq
    · have hsecond := hoffered' l hl hq
      rw [collected_congr hsame] at hsecond
      rw [collected, copies, List.flatMap_append]
      exact Fed.trans (hoffered l hl hq) hsecond

/-- A step with different inputs and different listeners empties the inputs, offers all their
packets to every quiet listener, and leaves the other quiet ports alone. -/
theorem step_spec {inputs listeners : List In} (hinputs : inputs.Nodup)
    (hnodup : listeners.Nodup) (hdisj : ∀ i ∈ inputs, i ∉ listeners) {others : ℕ → In → ℕ}
    (hquiet : ∀ i ∈ inputs, Quiet others i) (s : FanOut In T) :
    (∀ i ∈ inputs, (step inputs listeners others s).pending i = []) ∧
      (∀ j ∉ inputs, j ∉ listeners → Quiet others j →
        (step inputs listeners others s).pending j = s.pending j) ∧
      ∀ l ∈ listeners, Quiet others l →
        Offered l (inputs.flatMap s.pending) s (step inputs listeners others s) := by
  obtain ⟨hempty, hframe, hoffered⟩ := step_offers hdisj hquiet s
  refine ⟨hempty, hframe, fun l hl hq => ?_⟩
  have h := hoffered l hl hq
  rwa [List.count_eq_one_of_mem hnodup hl, copies_one, collected_of_nodup hinputs] at h

/-! ## Errors -/

/-- The error count has grown by the number of sends to listeners that have been refused. -/
def Counted (listeners : List In) (s s' : FanOut In T) : Prop :=
  ∃ pairs, s'.refused = s.refused ++ pairs ∧ (∀ r ∈ pairs, r.1 ∈ listeners) ∧
    s'.base.error_count = s.base.error_count + UInt32.ofNat pairs.length

omit [DecidableEq In] in
/-- Nothing is refused without a send. -/
theorem Counted.refl {listeners : List In} (s : FanOut In T) : Counted listeners s s :=
  ⟨[], (List.append_nil _).symm, nofun, by simp⟩

omit [DecidableEq In] in
/-- What is counted in two stretches is counted in both together. -/
theorem Counted.trans {listeners : List In} {s s' s'' : FanOut In T} (h : Counted listeners s s')
    (h' : Counted listeners s' s'') : Counted listeners s s'' := by
  obtain ⟨pairs, hrefused, hmem, hcount⟩ := h
  obtain ⟨pairs', hrefused', hmem', hcount'⟩ := h'
  refine ⟨pairs ++ pairs', ?_, fun r hr => ?_, ?_⟩
  · rw [hrefused', hrefused, List.append_assoc]
  · exact (List.mem_append.mp hr).elim (hmem r) (hmem' r)
  · rw [hcount', hcount, List.length_append, UInt32.ofNat_add, UInt32.add_assoc]

/-- A send counts an error when it is refused. -/
theorem counted_send {listeners : List In} (data : T) (s : FanOut In T) {dest : In}
    (h : dest ∈ listeners) : Counted listeners s (send data s dest) := by
  unfold send
  dsimp only
  split_ifs
  · exact ⟨[], (List.append_nil _).symm, nofun, by simp⟩
  · exact ⟨[(dest, data)], rfl, by simpa using h, rfl⟩

/-- Sending to all listeners counts what they refuse. -/
theorem counted_sendAll (listeners : List In) (s : FanOut In T) (data : T) :
    Counted listeners s (sendAll listeners s data) := by
  have h (ls : List In) (hls : ls ⊆ listeners) (s : FanOut In T) :
      Counted listeners s (sendAll ls s data) := by
    unfold sendAll
    induction ls generalizing s with
    | nil => exact Counted.refl s
    | cons l ls ih =>
      obtain ⟨hl, hls⟩ := List.cons_subset.mp hls
      exact (counted_send data s hl).trans (ih hls _)
  exact h listeners (List.Subset.refl _) s

/-- Draining an input counts what the listeners refuse. -/
theorem counted_drainInput (listeners : List In) (others : ℕ → In → ℕ) (i : In) (fuel : ℕ)
    (r : FanOut In T × ℕ) : Counted listeners r.1 (drainInput listeners others i fuel r).1 := by
  induction fuel generalizing r with
  | zero => exact Counted.refl _
  | succ fuel ih =>
    obtain ⟨s, n⟩ := r
    unfold drainInput
    split
    · exact Counted.refl s
    · rename_i data port _
      -- Taking packets touches neither the record nor the count.
      have h : Counted listeners s _ := counted_sendAll listeners
        (({ s with ports := Function.update s.ports i port }).taken (others n)) data
      exact h.trans (ih _)

/-- A step counts what the listeners refuse. -/
theorem counted_step (inputs listeners : List In) (others : ℕ → In → ℕ) (s : FanOut In T) :
    Counted listeners s (step inputs listeners others s) := by
  unfold step
  generalize 0 = n
  induction inputs generalizing s n with
  | nil => exact Counted.refl s
  | cons i is ih =>
    have h := counted_drainInput listeners others i (s.ports i).queue.size (s, n)
    exact h.trans (ih _ _)

end FanOut

end DeltaV
