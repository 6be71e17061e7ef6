import DeltaV.Hub.FanOut
import DeltaV.Lib.Runs

/-!
# The telemetry hub

`TelemHub` numbers its own input ports in the order in which they are connected, and keeps the input
ports that its outputs are connected to. `TelemetrySystem` places it among the output ports of the
components and the input ports of the listeners.
-/

namespace DeltaV

/-- The most inputs of the telemetry hub. -/
def MAX_TELEM_INPUTS : ℕ := 32

/-- The most listeners of the telemetry hub. -/
def MAX_TELEM_LISTENERS : ℕ := 8

/-- The input ports of telemetry: those of the hub, and those of its listeners. -/
inductive TelemPort (L : Type*) where
  | internal (i : ℕ)
  | listener (l : L)
deriving DecidableEq, Repr

/-- The telemetry broadcast. -/
structure TelemHub (L : Type*) where
  base : Component
  input_count : ℕ
  input_count_le : input_count ≤ MAX_TELEM_INPUTS
  /-- The listeners that the outputs are connected to. -/
  internal_outputs : List L
  listener_count_le : internal_outputs.length ≤ MAX_TELEM_LISTENERS

/-- The hub, the telemetry ports, and a record of the sends that were refused. -/
structure TelemetrySystem (Out L T : Type*) where
  hub : TelemHub L
  bus : Bus Out (TelemPort L) T
  refused : List (TelemPort L × T)

namespace TelemetrySystem

variable {Out L T : Type*} [DecidableEq Out] [DecidableEq L]

/-- A hub without connections. -/
def create [Inhabited T] (base : Component) : TelemetrySystem Out L T :=
  { hub :=
      { base := base
        input_count := 0
        input_count_le := Nat.zero_le _
        internal_outputs := []
        listener_count_le := Nat.zero_le _ }
    bus := Bus.create Out (TelemPort L)
    refused := [] }

/-- Counts one error of the hub. -/
def recordError (s : TelemetrySystem Out L T) : TelemetrySystem Out L T :=
  { s with hub := { s.hub with base := s.hub.base.recordError } }

/-- Connects an output port to the next input of the hub. -/
def connectInput (s : TelemetrySystem Out L T) (source : Out) : TelemetrySystem Out L T :=
  if h : s.hub.input_count < MAX_TELEM_INPUTS then
    { s with
      hub := { s.hub with input_count := s.hub.input_count + 1, input_count_le := h }
      bus := s.bus.connect source (TelemPort.internal s.hub.input_count) }
  else s.recordError

/-- Connects the next output of the hub to a listener; `none` is the null pointer. -/
def registerListener (s : TelemetrySystem Out L T) (dest : Option L) : TelemetrySystem Out L T :=
  match dest with
  | none => s.recordError
  | some l =>
    if h : s.hub.internal_outputs.length < MAX_TELEM_LISTENERS then
      { s with
        hub := { s.hub with
          internal_outputs := s.hub.internal_outputs ++ [l]
          listener_count_le := by
            rw [List.length_append, List.length_singleton]
            exact h } }
    else s.recordError

/-- The number of connected inputs. -/
def getInputCount (s : TelemetrySystem Out L T) : ℕ := s.hub.input_count

/-- The number of listeners. -/
def getListenerCount (s : TelemetrySystem Out L T) : ℕ := s.hub.internal_outputs.length

/-- Whether an output port is connected to the input of the given number. -/
def isInputConnected (s : TelemetrySystem Out L T) (index : ℕ) (source : Out) : Bool :=
  decide (index < s.hub.input_count) && s.bus.isConnectedTo source (TelemPort.internal index)

/-- The inputs of the hub in the order of its loop. -/
def inputs (s : TelemetrySystem Out L T) : List (TelemPort L) :=
  (List.range s.hub.input_count).map TelemPort.internal

/-- The listeners in the order of the loop. -/
def listeners (s : TelemetrySystem Out L T) : List (TelemPort L) :=
  s.hub.internal_outputs.map TelemPort.listener

/-- What the owners of the listeners take, as `FanOut.step` is told; nobody takes from inputs. -/
def takenBy (others : ℕ → L → ℕ) (n : ℕ) : TelemPort L → ℕ
  | TelemPort.internal _ => 0
  | TelemPort.listener l => others n l

/-- The hub as the loop sees it. -/
def fanOut (s : TelemetrySystem Out L T) : FanOut (TelemPort L) T :=
  ⟨s.hub.base, s.bus.input, s.refused⟩

/-- `TelemHub::step()`; before the `n`th packet is sent on, the owner of a listener takes `others n`
packets from it. -/
def step (s : TelemetrySystem Out L T) (others : ℕ → L → ℕ) : TelemetrySystem Out L T :=
  let r := FanOut.step s.inputs s.listeners (takenBy others) s.fanOut
  { hub := { s.hub with base := r.base }
    bus := { s.bus with input := r.ports }
    refused := r.refused }

/-- `telemetry_out.send(data)` of a component. -/
def publish (s : TelemetrySystem Out L T) (source : Out) (data : T) : TelemetrySystem Out L T :=
  { s with bus := (s.bus.send source data).1 }

/-- The owner of a listener takes up to `count` packets. -/
def take (s : TelemetrySystem Out L T) (l : L) (count : ℕ) : TelemetrySystem Out L T :=
  let port := TelemPort.listener l
  { s with
    bus := { s.bus with
      input := Function.update s.bus.input port (InputPort.discard count (s.bus.input port)) } }

/-- The owner of a listener takes all packets. -/
def drain (s : TelemetrySystem Out L T) (l : L) : TelemetrySystem Out L T :=
  let port := TelemPort.listener l
  { s with
    bus := { s.bus with
      input := Function.update s.bus.input port (s.bus.input port).drain } }

/-- The packets waiting in a port. -/
def pending (s : TelemetrySystem Out L T) (i : TelemPort L) : List T := s.bus.pending i

/-- The packets waiting in the inputs of the hub, in the order of its loop. -/
def waiting (s : TelemetrySystem Out L T) : List T := s.inputs.flatMap s.pending

/-- The packets that a listener refused. -/
def refusedBy (s : TelemetrySystem Out L T) (l : L) : List T :=
  s.fanOut.refusedBy (TelemPort.listener l)

omit [DecidableEq Out] [DecidableEq L] in
/-- The inputs of the hub are different ports. -/
theorem nodup_inputs (s : TelemetrySystem Out L T) : s.inputs.Nodup :=
  List.nodup_range.map fun _ _ h => TelemPort.internal.inj h

omit [DecidableEq Out] [DecidableEq L] in
/-- Different listeners are different ports. -/
theorem nodup_listeners (s : TelemetrySystem Out L T) (h : s.hub.internal_outputs.Nodup) :
    s.listeners.Nodup := h.map fun _ _ h => TelemPort.listener.inj h

omit [DecidableEq Out] [DecidableEq L] in
/-- A listener is not an input of the hub, so no packet comes back. -/
theorem notMem_listeners (s : TelemetrySystem Out L T) : ∀ i ∈ s.inputs, i ∉ s.listeners := by
  intro i hi hl
  obtain ⟨k, -, rfl⟩ := List.mem_map.mp hi
  obtain ⟨l, -, hl⟩ := List.mem_map.mp hl
  cases hl

omit [DecidableEq Out] in
/-- A step empties the inputs and offers all their packets to every listener whose owner does not
interfere. -/
theorem step_spec (s : TelemetrySystem Out L T) (hnodup : s.hub.internal_outputs.Nodup)
    (others : ℕ → L → ℕ) :
    (∀ i < s.hub.input_count, (s.step others).pending (TelemPort.internal i) = []) ∧
      ∀ l ∈ s.hub.internal_outputs, (∀ n, others n l = 0) →
        Fed DEFAULT_QUEUE_DEPTH (s.pending (TelemPort.listener l)) (s.refusedBy l) s.waiting
          ((s.step others).pending (TelemPort.listener l)) ((s.step others).refusedBy l) := by
  have hquiet : ∀ i ∈ s.inputs, FanOut.Quiet (takenBy others) i := by
    intro i hi n
    obtain ⟨k, -, rfl⟩ := List.mem_map.mp hi
    rfl
  obtain ⟨hempty, -, hoffered⟩ :=
    FanOut.step_spec s.nodup_inputs (s.nodup_listeners hnodup) s.notMem_listeners hquiet s.fanOut
  refine ⟨fun i hi => ?_, fun l hl hq => ?_⟩
  · exact hempty _ (List.mem_map.mpr ⟨i, List.mem_range.mpr hi, rfl⟩)
  · exact hoffered _ (List.mem_map.mpr ⟨l, hl, rfl⟩) hq

omit [DecidableEq Out] in
/-- A component's packet waits in the input that its port is connected to, if there is room. -/
theorem pending_publish (s : TelemetrySystem Out L T) {source : Out} {i : TelemPort L}
    (h : s.bus.connected source = some i) (data : T) :
    (∀ j ≠ i, (s.publish source data).pending j = s.pending j) ∧
      ((s.publish source data).pending i).length =
        min DEFAULT_QUEUE_DEPTH ((s.pending i).length + 1) := by
  have hsent := s.bus.send_snd source data
  have hwait := fun j => s.bus.pending_send source j data
  have hle := (s.bus.input i).length_pending_le
  constructor
  · intro j hj
    have hne : ¬(s.bus.connected source = some j ∧ (s.bus.send source data).2 = true) := by
      rintro ⟨hconn, -⟩
      rw [h] at hconn
      exact hj (Option.some.inj hconn).symm
    have := hwait j
    rw [if_neg hne, List.append_nil] at this
    exact this
  · change ((s.bus.send source data).1.pending i).length = _
    change (s.pending i).length ≤ _ at hle
    have hroom :
        (s.bus.send source data).2 = true ↔ (s.pending i).length < DEFAULT_QUEUE_DEPTH := by
      rw [hsent]
      constructor
      · rintro ⟨j, hj, hlt⟩
        rw [h] at hj
        rwa [Option.some.inj hj]
      · exact fun hlt => ⟨i, h, hlt⟩
    rw [hwait i]
    change (s.pending i ++ _).length = _
    -- With room the packet waits behind the others; without, nothing changes.
    split_ifs with hlt
    · have := hroom.mp hlt.2
      rw [List.length_append, List.length_singleton]
      omega
    · have hfull : ¬(s.pending i).length < DEFAULT_QUEUE_DEPTH :=
        fun hlt' => hlt ⟨h, hroom.mpr hlt'⟩
      rw [List.append_nil]
      omega

omit [DecidableEq Out] in
/-- Draining a listener empties it and leaves the other ports alone. -/
theorem pending_drain (s : TelemetrySystem Out L T) (l : L) :
    (s.drain l).pending (TelemPort.listener l) = [] ∧
      ∀ i, i ≠ TelemPort.listener l → (s.drain l).pending i = s.pending i := by
  constructor
  · simpa [drain, pending, Bus.pending] using (s.bus.input (TelemPort.listener l)).pending_drain
  · intro i hi
    simp [drain, pending, Bus.pending, Function.update_of_ne hi]

end TelemetrySystem

end DeltaV
