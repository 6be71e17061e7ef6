import DeltaV.Hub.Event
import DeltaV.Hub.Telemetry

/-!
# The broadcast of both hubs

`Broadcast` relates the ports and the error count of a hub before and after a step that nobody
interferes with: the inputs are empty, each listener holds behind its old packets as many of the
collected ones as fit, and the error count has grown by the pairs of a packet and a listener that
were refused. Both hubs broadcast (`hubs_broadcast`), and so no listener is affected by how full the
others are.
-/

namespace DeltaV

/-- What a step does to the packets waiting in the ports and to the error count. -/
structure Broadcast {In T : Type*} [DecidableEq In] (inputs listeners : List In)
    (pending pending' : In → List T) (errors errors' : UInt32) : Prop where
  drained : ∀ i ∈ inputs, pending' i = []
  /-- A listener is sent what is collected, as often as it is registered. -/
  delivered : ∀ l ∈ listeners,
    pending' l = pending l ++
      (FanOut.copies (listeners.count l) (FanOut.collected inputs pending)).take
        (DEFAULT_QUEUE_DEPTH - (pending l).length)
  counted : ∃ refused : List (In × T), (∀ r ∈ refused, r.1 ∈ listeners) ∧
    (∀ l ∈ listeners, (refused.filter (·.1 = l)).map (·.2) =
      (FanOut.copies (listeners.count l) (FanOut.collected inputs pending)).drop
        (DEFAULT_QUEUE_DEPTH - (pending l).length)) ∧
    errors' = errors + UInt32.ofNat refused.length

namespace Broadcast

variable {In T : Type*} [DecidableEq In] {inputs listeners : List In}

/-- When no port is registered twice, every listener is sent the contents of the inputs in the order
of their registration. -/
theorem delivered_once {pending pending' : In → List T} {errors errors' : UInt32}
    (h : Broadcast inputs listeners pending pending' errors errors') (hinputs : inputs.Nodup)
    (hlisteners : listeners.Nodup) (l : In) (hl : l ∈ listeners) :
    pending' l = pending l ++
      (inputs.flatMap pending).take (DEFAULT_QUEUE_DEPTH - (pending l).length) := by
  have hdelivered := h.delivered l hl
  rwa [List.count_eq_one_of_mem hlisteners hl, FanOut.copies_one,
    FanOut.collected_of_nodup hinputs] at hdelivered

/-- The loop of the hubs broadcasts. -/
theorem of_step (hdisj : ∀ i ∈ inputs, i ∉ listeners) {others : ℕ → In → ℕ}
    (hquiet : ∀ i, FanOut.Quiet others i) (s : FanOut In T) :
    Broadcast inputs listeners s.pending (FanOut.step inputs listeners others s).pending
      s.base.error_count (FanOut.step inputs listeners others s).base.error_count := by
  obtain ⟨hempty, -, hoffered⟩ := FanOut.step_offers hdisj (fun i _ => hquiet i) s
  obtain ⟨pairs, hrefused, hmem, hcount⟩ := FanOut.counted_step inputs listeners others s
  refine ⟨hempty, fun l hl => (hoffered l hl (hquiet l)).queue_eq, pairs, hmem, fun l hl => ?_,
    hcount⟩
  have h := (hoffered l hl (hquiet l)).refused_eq
  unfold FanOut.refusedBy at h
  rw [hrefused, List.filter_append, List.map_append] at h
  exact List.append_cancel_left h

end Broadcast

variable {In Out L T : Type*} [DecidableEq In] [DecidableEq L]

omit [DecidableEq In] [DecidableEq L] in
/-- When nobody takes from the listeners, all ports of telemetry are quiet. -/
theorem TelemetrySystem.quiet_takenBy (i : TelemPort L) :
    FanOut.Quiet (takenBy fun _ _ => 0) i := by
  intro n
  cases i <;> rfl

/-- A step of either hub that nobody interferes with, from any contents of the ports, empties the
inputs, gives each listener the longest prefix that fits of the collected packets, and counts one
error for each pair of a packet and a listener that is refused. -/
theorem hubs_broadcast (events : EventHub In)
    (ports : In → InputPort EventPacket DEFAULT_QUEUE_DEPTH)
    (hdisj : ∀ i ∈ events.inputs, i ∉ events.listeners) (telemetry : TelemetrySystem Out L T) :
    let e := events.step ports fun _ _ => 0
    let t := telemetry.step fun _ _ => 0
    let pending := fun i => (ports i).pending
    let pending' := fun i => (e.2 i).pending
    (Broadcast events.inputs events.listeners pending pending' events.base.error_count
        e.1.base.error_count ∧
      (events.inputs.Nodup → events.listeners.Nodup → ∀ l ∈ events.listeners,
        pending' l = pending l ++
          (events.inputs.flatMap pending).take (DEFAULT_QUEUE_DEPTH - (pending l).length))) ∧
    Broadcast telemetry.inputs telemetry.listeners telemetry.pending t.pending
        telemetry.hub.base.error_count t.hub.base.error_count ∧
      (telemetry.hub.internal_outputs.Nodup → ∀ l ∈ telemetry.listeners,
        t.pending l = telemetry.pending l ++
          telemetry.waiting.take (DEFAULT_QUEUE_DEPTH - (telemetry.pending l).length)) := by
  intro e t pending pending'
  have hevents : Broadcast events.inputs events.listeners pending pending' events.base.error_count
      e.1.base.error_count :=
    Broadcast.of_step hdisj (fun _ _ => rfl) (events.fanOut ports)
  have htelemetry : Broadcast telemetry.inputs telemetry.listeners telemetry.pending t.pending
      telemetry.hub.base.error_count t.hub.base.error_count :=
    Broadcast.of_step telemetry.notMem_listeners TelemetrySystem.quiet_takenBy telemetry.fanOut
  refine ⟨⟨hevents, hevents.delivered_once⟩, htelemetry, fun hnodup => ?_⟩
  exact htelemetry.delivered_once telemetry.nodup_inputs (telemetry.nodup_listeners hnodup)

/-- One source and two listeners. -/
def twoListeners : EventHub (Fin 3) :=
  (((EventHub.create (Component.create (ascii "EventHub") 12)).registerEventSource
    0).registerListener 1).registerListener 2

/-- Two events wait at the source, the first listener is full, and the second is empty. -/
def onePortFull (i : Fin 3) : InputPort EventPacket DEFAULT_QUEUE_DEPTH :=
  let event (k : ℕ) := EventPacket.create Severity.WARNING 1 (ascii "evt-" ++ decimal k)
  ((List.range (if i = 0 then 2 else if i = 1 then DEFAULT_QUEUE_DEPTH else 0)).map event).foldl
    (fun p e => (p.receive e).1) (InputPort.create DEFAULT_QUEUE_DEPTH)

/-- The second listener receives both events although the first is full. -/
theorem hubs_broadcast_onePortFull :
    ((twoListeners.step onePortFull fun _ _ => 0).2 2).pending =
      (onePortFull 2).pending ++
        ([0].flatMap fun i => (onePortFull i).pending).take
          (DEFAULT_QUEUE_DEPTH - (onePortFull 2).pending.length) :=
  (hubs_broadcast twoListeners onePortFull (by decide)
    (TelemetrySystem.create twoListeners.base :
      TelemetrySystem (Fin 1) (Fin 1) TelemetryPacket)).1.2 (by decide) (by decide) 2 (by decide)

end DeltaV
