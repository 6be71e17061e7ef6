import DeltaV.AtsRts
import DeltaV.ModeManager

/-!
# What the sequencers ask of the command queue

The sequencer of absolute and relative times and the mode manager have tables of 32 slots each and
send to the input of the command hub, a queue of 16. Only the step of the hub takes from it, so what
a table sends in one step is accepted exactly when the queue has room for all of it
(`full_tables_accepted_iff`).
-/

namespace DeltaV

/-- `command_out.connect(&cmd_hub.cmd_input)`. -/
def Commander.connect (d : Commander) (p : InputPort CommandPacket DEFAULT_QUEUE_DEPTH) :
    Commander := { d with command_out := some p }

namespace CommandInput

/-- Puts packets into the queue. -/
def deliver (p : InputPort CommandPacket DEFAULT_QUEUE_DEPTH) (cmds : List CommandPacket) :
    InputPort CommandPacket DEFAULT_QUEUE_DEPTH := cmds.foldl (fun p cmd => (p.receive cmd).1) p

/-- Before the packet number `n` other sources put packets into the queue, and nobody takes any. -/
def arriving (arrivals : ℕ → List CommandPacket) (n : ℕ) (port : CommandPort) : CommandPort :=
  port.map fun p => deliver p (arrivals n)

/-- The number of packets that other sources put into the queue before `k` packets, the first of
which has the number `n`. -/
def arrived (arrivals : ℕ → List CommandPacket) (n k : ℕ) : ℕ :=
  ((List.range k).map fun j => (arrivals (n + j)).length).sum

/-- What arrives in one more cycle comes first. -/
theorem arrived_succ (arrivals : ℕ → List CommandPacket) (n k : ℕ) :
    arrived arrivals n (k + 1) = (arrivals n).length + arrived arrivals (n + 1) k := by
  unfold arrived
  rw [List.range_succ_eq_map, List.map_cons, List.sum_cons, List.map_map, Nat.add_zero]
  congr 2
  refine List.map_congr_left fun j _ => ?_
  rw [Function.comp_apply, Nat.succ_eq_add_one, Nat.add_right_comm, Nat.add_assoc]

/-- The queue takes what it has room for. -/
theorem length_receive (p : InputPort CommandPacket DEFAULT_QUEUE_DEPTH) (cmd : CommandPacket) :
    (p.receive cmd).1.pending.length = min DEFAULT_QUEUE_DEPTH (p.pending.length + 1) := by
  have hle := p.length_pending_le
  rw [p.pending_receive, p.receive_snd, List.length_append]
  split_ifs with h
  · rw [decide_eq_true_eq] at h
    rw [List.length_singleton, min_eq_right h]
  · rw [decide_eq_true_eq, not_lt] at h
    rw [List.length_nil, le_antisymm hle h]
    omega

/-- A port that is fed holds what it held and what fits. -/
theorem length_deliver (p : InputPort CommandPacket DEFAULT_QUEUE_DEPTH)
    (cmds : List CommandPacket) :
    (deliver p cmds).pending.length = min DEFAULT_QUEUE_DEPTH (p.pending.length + cmds.length) := by
  unfold deliver
  induction cmds generalizing p with
  | nil =>
    have hle := p.length_pending_le
    rw [List.length_nil, Nat.add_zero, min_eq_right hle]
    rfl
  | cons cmd cmds ih =>
    rw [List.foldl_cons, ih, length_receive, List.length_cons]
    omega

/-- Commands are all accepted exactly when there is room for them and for what arrives before
them. -/
theorem accepted_sendAll_iff (arrivals : ℕ → List CommandPacket) (d : Commander)
    (cmds : List CommandPacket) (p : InputPort CommandPacket DEFAULT_QUEUE_DEPTH)
    (hport : d.command_out = some p) :
    ∃ sent, (d.sendAll (arriving arrivals) cmds).offered = d.offered ++ sent ∧
      sent.map Prod.fst = cmds ∧
        ((∀ s ∈ sent, s.2 = true) ↔ cmds = [] ∨
          p.pending.length + arrived arrivals d.offered.length cmds.length + cmds.length ≤
            DEFAULT_QUEUE_DEPTH) := by
  induction cmds generalizing d p with
  | nil => exact ⟨[], (List.append_nil _).symm, rfl, iff_of_true (List.forall_mem_nil _) (Or.inl rfl)⟩
  | cons cmd cmds ih =>
    -- What arrives before the command takes its room first.
    set q := deliver p (arrivals d.offered.length) with hq
    have hqport : arriving arrivals d.offered.length d.command_out = some q := by
      rw [hport]
      rfl
    have haccepts : d.accepts (arriving arrivals) cmd =
        decide (q.pending.length < DEFAULT_QUEUE_DEPTH) := by
      rw [Commander.accepts, hqport, ← q.receive_snd cmd]
      rfl
    have hnext : (d.send (arriving arrivals) cmd).command_out = some (q.receive cmd).1 := by
      rw [Commander.send, hqport]
      rfl
    have hcount : (d.send (arriving arrivals) cmd).offered.length = d.offered.length + 1 :=
      List.length_append
    obtain ⟨sent, hoffered, hmap, hiff⟩ := ih _ _ hnext
    refine ⟨(cmd, d.accepts (arriving arrivals) cmd) :: sent, ?_, by rw [List.map_cons, hmap], ?_⟩
    · rw [Commander.sendAll, List.foldl_cons]
      refine hoffered.trans ?_
      rw [Commander.send, Commander.accepts, List.append_assoc, List.singleton_append]
    · have hlength := length_deliver p (arrivals d.offered.length)
      rw [← hq] at hlength
      have hroom := p.length_pending_le
      rw [List.forall_mem_cons, hiff, haccepts, decide_eq_true_eq, hcount, length_receive,
        List.length_cons, arrived_succ, hlength]
      -- The rest can only fit if the first command does.
      have hnil : cmds = [] ↔ cmds.length = 0 := List.length_eq_zero_iff.symm
      have harrived : cmds = [] → arrived arrivals (d.offered.length + 1) cmds.length = 0 := by
        rintro rfl
        rfl
      rw [hnil] at harrived ⊢
      unfold DEFAULT_QUEUE_DEPTH at *
      constructor
      · rintro ⟨hfirst, hrest | hrest⟩
        · have := harrived hrest
          exact Or.inr (by omega)
        · exact Or.inr (by omega)
      · rintro (hnone | hall)
        · exact absurd hnone (List.cons_ne_nil _ _)
        · exact ⟨by omega, Or.inr (by omega)⟩

/-- The sequencer, connected to the command hub. -/
def connectAts (c : AtsRtsSequencerComponent)
    (p : InputPort CommandPacket DEFAULT_QUEUE_DEPTH) : AtsRtsSequencerComponent :=
  { c with toCommander := c.toCommander.connect p }

/-- The mode manager, connected to the command hub. -/
def connectMode (c : ModeManagerComponent) (p : InputPort CommandPacket DEFAULT_QUEUE_DEPTH) :
    ModeManagerComponent := { c with toCommander := c.toCommander.connect p }

/-- The queue has room for `k` commands after the first `n`, and for what arrives before them. -/
def HasRoom (p : InputPort CommandPacket DEFAULT_QUEUE_DEPTH) (arrivals : ℕ → List CommandPacket)
    (n k : ℕ) : Prop := k = 0 ∨ p.pending.length + arrived arrivals n k + k ≤ DEFAULT_QUEUE_DEPTH

/-- Executing the due entries offers their commands and removes them; all are accepted, and none is
removed that is not, exactly when the queue has room for them. -/
theorem executeDueEntries_accepted_iff (arrivals : ℕ → List CommandPacket)
    (c : AtsRtsSequencerComponent) (p : InputPort CommandPacket DEFAULT_QUEUE_DEPTH)
    (time : ℕ × ℕ) (hport : c.command_out = some p) :
    let c' := c.executeDueEntries (arriving arrivals) time
    ∃ sent : List (Fin MAX_SEQUENCE_ENTRIES × Bool), sent.map Prod.fst = c.dueSlots time ∧
      c'.offered = c.offered ++ sent.map (fun s => ((c.entries_ s.1).cmd, s.2)) ∧
        (((∀ s ∈ sent, s.2 = true) ∧ ∀ i, (c.entries_ i).active = true →
            (c'.entries_ i).active = false → (i, true) ∈ sent) ↔
          HasRoom p arrivals c.offered.length (c.dueSlots time).length) := by
  intro c'
  obtain ⟨houtlet, hentries⟩ := c.executeDueEntries_spec (arriving arrivals) time
  set slots := c.dueSlots time with hslots
  obtain ⟨answers, hoffered, hmap, hiff⟩ := accepted_sendAll_iff arrivals c.toCommander
    (slots.map fun i => (c.entries_ i).cmd) p hport
  -- There is one answer for each due slot.
  have hlength : slots.length = (answers.map Prod.snd).length := by
    have := congrArg List.length hmap
    rw [List.length_map, List.length_map] at this
    rw [List.length_map, this]
  have hfst : (slots.zip (answers.map Prod.snd)).map Prod.fst = slots :=
    List.map_fst_zip hlength.le
  have hsnd : (slots.zip (answers.map Prod.snd)).map Prod.snd = answers.map Prod.snd :=
    List.map_snd_zip hlength.ge
  refine ⟨slots.zip (answers.map Prod.snd), hfst, ?_, ?_⟩
  · -- The answers belong to the slots in their order.
    have hpairs : (slots.zip (answers.map Prod.snd)).map (fun s => ((c.entries_ s.1).cmd, s.2)) =
        answers := by
      calc (slots.zip (answers.map Prod.snd)).map (fun s => ((c.entries_ s.1).cmd, s.2))
          = (slots.map fun i => (c.entries_ i).cmd).zip (answers.map Prod.snd) := by
            rw [List.zip_map_left]
            rfl
        _ = (answers.map Prod.fst).zip (answers.map Prod.snd) := by rw [hmap]
        _ = answers := by rw [List.zip_map', List.map_id']
    rw [houtlet.offered_eq, hoffered, hpairs]
  · have hall : (∀ s ∈ slots.zip (answers.map Prod.snd), s.2 = true) ↔
        ∀ s ∈ answers, s.2 = true := by
      calc (∀ s ∈ slots.zip (answers.map Prod.snd), s.2 = true)
          ↔ ∀ b ∈ (slots.zip (answers.map Prod.snd)).map Prod.snd, b = true := by
            rw [List.forall_mem_map]
        _ ↔ ∀ b ∈ answers.map Prod.snd, b = true := by rw [hsnd]
        _ ↔ ∀ s ∈ answers, s.2 = true := by rw [List.forall_mem_map]
    have hroom : (∀ s ∈ answers, s.2 = true) ↔
        HasRoom p arrivals c.offered.length slots.length := by
      rw [hiff, HasRoom, List.map_eq_nil_iff, List.length_map, List.length_eq_zero_iff]
    rw [← hroom, ← hall]
    refine ⟨fun h => h.1, fun h => ⟨h, fun i hi hremoved => ?_⟩⟩
    -- An entry is only removed when its command is sent.
    have hmem : i ∈ slots := by
      by_contra hnot
      rw [hentries, if_neg hnot, hi] at hremoved
      exact absurd hremoved nofun
    rw [← hfst] at hmem
    obtain ⟨s, hs, rfl⟩ := List.mem_map.mp hmem
    rw [← h s hs]
    exact hs

/-- Applying the mode offers the selected commands, and all are accepted exactly when the queue has
room for them. -/
theorem applyCurrentMode_accepted_iff (arrivals : ℕ → List CommandPacket) (c : ModeManagerComponent)
    (p : InputPort CommandPacket DEFAULT_QUEUE_DEPTH) (hport : c.command_out = some p) :
    ∃ sent : List (CommandPacket × Bool), sent.map Prod.fst = c.commands ∧
      (c.applyCurrentMode (arriving arrivals)).offered = c.offered ++ sent ∧
        ((∀ s ∈ sent, s.2 = true) ↔
          HasRoom p arrivals c.offered.length c.commands.length) := by
  obtain ⟨c', sent, hsent, hcommands, happly⟩ := c.applyCurrentMode_spec (arriving arrivals)
  obtain ⟨answers, hoffered, -, hiff⟩ :=
    accepted_sendAll_iff arrivals c.toCommander c.commands p hport
  refine ⟨sent, hcommands, ?_, ?_⟩
  · rw [happly]
    exact hsent.offered_eq
  · have houtlet := hsent.outlet.offered_eq
    rw [hcommands, hoffered] at houtlet
    have hsame : sent = answers := List.append_cancel_left (hsent.offered_eq.symm.trans houtlet)
    rw [hsame, hiff, HasRoom, List.length_eq_zero_iff]

/-- For every state of the sequencer and of the mode manager, connected to the command hub, and for
every state of the queue: the commands of the due entries are all accepted, and no entry is removed
that is not, exactly when the queue has room for as many commands as there are due entries; and the
commands of `OP_APPLY_MODE` are all accepted exactly when it has room for as many as are
selected. -/
theorem full_tables_accepted_iff (arrivals : ℕ → List CommandPacket)
    (p : InputPort CommandPacket DEFAULT_QUEUE_DEPTH) :
    (∀ ats time, let c := connectAts ats p
      let c' := c.executeDueEntries (arriving arrivals) time
      ∃ sent : List (Fin MAX_SEQUENCE_ENTRIES × Bool), sent.map Prod.fst = c.dueSlots time ∧
        c'.offered = c.offered ++ sent.map (fun s => ((c.entries_ s.1).cmd, s.2)) ∧
          (((∀ s ∈ sent, s.2 = true) ∧ ∀ i, (c.entries_ i).active = true →
              (c'.entries_ i).active = false → (i, true) ∈ sent) ↔
            HasRoom p arrivals c.offered.length (c.dueSlots time).length)) ∧
      ∀ mode target argument met, let c := connectMode mode p
        let c' := c.handleCommand (arriving arrivals)
          (⟨target, ModeManagerComponent.OP_APPLY_MODE, argument⟩, met)
        ∃ sent : List (CommandPacket × Bool), sent.map Prod.fst = c.commands ∧
          c'.offered = c.offered ++ sent ∧ ((∀ s ∈ sent, s.2 = true) ↔
            HasRoom p arrivals c.offered.length c.commands.length) :=
  ⟨fun ats time => executeDueEntries_accepted_iff arrivals (connectAts ats p) p time rfl,
    fun mode _ _ _ => applyCurrentMode_accepted_iff arrivals (connectMode mode p) p rfl⟩

/-- Seventeen entries that are due at once, after they were committed and armed, with an empty
queue. -/
def seventeenDue : AtsRtsSequencerComponent :=
  connectAts (run (AtsRtsSequencerComponent.apply fun _ port => port)
    (AtsRtsSequencerComponent.create (Component.create (ascii "AtsRtsSequencer") 46))
    (AtsOp.init :: List.replicate 17
      (AtsOp.handleCommand ⟨46, AtsRtsSequencerComponent.OP_COMMIT_ENTRY, Binary32.ofNat 0⟩) ++
        [AtsOp.handleCommand ⟨46, AtsRtsSequencerComponent.OP_ARM, Binary32.ofNat 0⟩]))
    (InputPort.create DEFAULT_QUEUE_DEPTH)

/-- The seventeenth command is refused, and its entry is removed. -/
theorem seventeenth_refused :
    let c' := seventeenDue.executeDueEntries (arriving fun _ => []) (0, 0)
    c'.offered.map Prod.snd = List.replicate 16 true ++ [false] ∧
      (seventeenDue.entries_ ⟨16, by decide⟩).active = true ∧
        (c'.entries_ ⟨16, by decide⟩).active = false := by
  decide +kernel

end CommandInput

end DeltaV
