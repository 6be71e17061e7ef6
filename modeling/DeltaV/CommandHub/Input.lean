import DeltaV.SharedRing

/-!
# The input of the command hub

The topology connects the command ports of the radio, which steps on a thread of its own, and of
three components of the NORM tier to the one input of the hub. Two of them on different threads can
push at the same time: `losing_run` is a schedule in which the command of the radio is accepted and
never popped.
-/

namespace DeltaV

/-- The components whose `command_out` is connected to `cmd_hub.cmd_input`. -/
inductive CommandSource where
  | radio
  | cmd_sequencer
  | ats_rts
  | mode_manager
deriving DecidableEq, Repr

/-- The queue of `cmd_hub.cmd_input`, with its producers and `CommandHub::step`. -/
abbrev CommandInput := SharedRing CommandSource CommandPacket DEFAULT_QUEUE_DEPTH

namespace CommandInput

/-- The input before the threads start. -/
def start : CommandInput := SharedRing.create CommandSource DEFAULT_QUEUE_DEPTH

/-- No accepted command is lost, in any state of a run, exactly when every action of the run is
safe. -/
theorem lossless_iff_safe (acts : List (RingAct CommandSource CommandPacket)) :
    (∀ pre, pre <+: acts → (run SharedRing.step start pre).Lossless) ↔
      Along SharedRing.step SharedRing.Safe start acts := SharedRing.lossless_iff acts

/-- A command of the radio. -/
def uplinked : CommandPacket := ⟨200, 1, Binary32.ofNat 0⟩

/-- A command of the sequencer. -/
def sequenced : CommandPacket := ⟨100, 1, Binary32.ofNat 0⟩

/-- The radio and the sequencer read the tail before either publishes it. Then the hub pops until
the queue is empty. -/
def losingRun : List (RingAct CommandSource CommandPacket) :=
  [RingAct.push CommandSource.radio uplinked, RingAct.push CommandSource.cmd_sequencer sequenced,
    RingAct.producer CommandSource.radio, RingAct.producer CommandSource.cmd_sequencer,
    RingAct.producer CommandSource.radio, RingAct.producer CommandSource.cmd_sequencer,
    RingAct.producer CommandSource.radio, RingAct.producer CommandSource.cmd_sequencer,
    RingAct.pop, RingAct.consumer, RingAct.consumer, RingAct.consumer,
    RingAct.pop, RingAct.consumer]

/-- Both commands are accepted, and only the one of the sequencer is popped before the queue is
empty. -/
theorem losing_run :
    let last := run SharedRing.step start losingRun
    last.pushed = [uplinked, sequenced] ∧ last.popped = [sequenced] ∧ last.ring.items = [] ∧
      last.ring.overflow_count = 0 ∧ ¬last.Lossless := by
  intro last
  have hpushed : last.pushed = [uplinked, sequenced] := by decide +kernel
  have hpopped : last.popped = [sequenced] := by decide +kernel
  have hitems : last.ring.items = [] := by decide +kernel
  refine ⟨hpushed, hpopped, hitems, by decide +kernel, fun h => ?_⟩
  have hlen := h.length_eq
  rw [hpushed, hpopped, hitems] at hlen
  simp at hlen

end CommandInput

end DeltaV
