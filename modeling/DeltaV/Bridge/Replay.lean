import DeltaV.Bridge.Model
import DeltaV.Lib.Runs
import DeltaV.Lib.SerialNumber
import Mathlib.Data.List.GetD

/-!
# Replay protection

Every accepted number may follow the one accepted before it in the sense of `SerialNumber.Next`,
with the wrap bounds of the code, whatever frames are presented and whatever happens to the command
port and the replay file (`isChain_acceptedSeqs`). What the library says of such sequences is what
replay protection amounts to: a number comes back only across a wrap, and not within 256 acceptances
when the numbers advance by at most 255 places each time. A jump of more places can lead across the
wrap early, and `accepts_replay` has a number come back after one such jump.
-/

namespace DeltaV

/-- What can happen to the uplink. -/
inductive UplinkOp where
  /-- A frame is presented, by the ground or by anyone else. -/
  | frame (data : List UInt8)
  /-- The queue behind the command port is drained, filled, or exchanged. -/
  | commandPort (command_out : Option (InputPort CommandPacket DEFAULT_QUEUE_DEPTH))
  /-- The file or its conditions change. -/
  | replayFile (replay_file : ReplayFile)

namespace TelemetryBridge

open SerialNumber

/-- The next state. -/
def apply (b : TelemetryBridge) : UplinkOp → TelemetryBridge
  | UplinkOp.frame data => (b.processIncomingFrame data).1
  | UplinkOp.commandPort command_out => { b with command_out := command_out }
  | UplinkOp.replayFile replay_file => { b with replay_file := replay_file }

/-- The sequence number in the header of a frame. -/
def seqOf (data : List UInt8) : ℕ := (CcsdsHeader.decode data).seq_count.toNat

/-- The number that is accepted next, if one is. -/
def acceptedBy (b : TelemetryBridge) : UplinkOp → List ℕ
  | UplinkOp.frame data => if (b.processIncomingFrame data).2 then [seqOf data] else []
  | _ => []

/-- The numbers accepted over a run, in order. -/
def acceptedSeqs : TelemetryBridge → List UplinkOp → List ℕ
  | _, [] => []
  | b, op :: ops => b.acceptedBy op ++ acceptedSeqs (b.apply op) ops

/-! ## One frame -/

/-- Writing the replay file leaves the replay state in memory alone. -/
theorem persistReplayState_frame (b : TelemetryBridge) :
    b.persistReplayState.first_uplink = b.first_uplink ∧
      b.persistReplayState.last_uplink_seq = b.last_uplink_seq := by
  unfold persistReplayState
  split_ifs <;> exact ⟨rfl, rfl⟩

/-- A rejected frame leaves the replay state alone; an accepted one passed the replay test and is
remembered. -/
theorem processIncomingFrame_cases (b : TelemetryBridge) (data : List UInt8) :
    ((b.processIncomingFrame data).2 = false ∧
      (b.processIncomingFrame data).1.first_uplink = b.first_uplink ∧
      (b.processIncomingFrame data).1.last_uplink_seq = b.last_uplink_seq) ∨
    ((b.processIncomingFrame data).2 = true ∧
      b.isReplay (CcsdsHeader.decode data).seq_count.toUInt32 = false ∧
      (b.processIncomingFrame data).1.first_uplink = false ∧
      (b.processIncomingFrame data).1.last_uplink_seq.toNat = seqOf data) := by
  -- Sending and persisting do not touch the replay state.
  have hsend : ∀ cmd, (b.sendCommand cmd).1.first_uplink = b.first_uplink ∧
      (b.sendCommand cmd).1.last_uplink_seq = b.last_uplink_seq := by
    intro cmd
    unfold sendCommand
    split <;> exact ⟨rfl, rfl⟩
  simp only [processIncomingFrame]
  split_ifs with h1 h2 h3 h4 h5 h6
  · exact Or.inl ⟨rfl, rfl, rfl⟩
  · exact Or.inl ⟨rfl, rfl, rfl⟩
  · exact Or.inl ⟨rfl, rfl, rfl⟩
  · exact Or.inl ⟨rfl, rfl, rfl⟩
  · exact Or.inl ⟨rfl, rfl, rfl⟩
  · exact Or.inl ⟨rfl, (hsend _).1, (hsend _).2⟩
  · refine Or.inr ⟨rfl, by simpa using h5, ?_, ?_⟩
    · rw [(persistReplayState_frame _).1]
    · rw [(persistReplayState_frame _).2]
      exact UInt16.toNat_toUInt32 _

/-- A number that passes the replay test may follow the last one. -/
theorem next_of_not_isReplay (b : TelemetryBridge) (hfirst : b.first_uplink = false)
    {seq : UInt32} (h : b.isReplay seq = false) :
    Next 0xFF00 0x0100 b.last_uplink_seq.toNat seq.toNat := by
  simp only [isReplay, hfirst, Bool.not_false, Bool.true_and, Bool.and_eq_false_iff,
    Bool.not_eq_false', Bool.and_eq_true, decide_eq_true_eq, decide_eq_false_iff_not,
    UInt32.lt_iff_toNat_lt, UInt32.le_iff_toNat_le] at h
  -- A number passes the test by wrapping or by being larger.
  rcases h with ⟨hhigh, hlow⟩ | hle
  · exact Or.inr ⟨hhigh, hlow⟩
  · exact Or.inl (by omega)

/-! ## Runs -/

/-- Every number accepted over a run may follow the one before it. -/
theorem isChain_acceptedSeqs (b : TelemetryBridge) (ops : List UplinkOp) :
    (b.acceptedSeqs ops).IsChain (Next 0xFF00 0x0100) ∧
      (b.first_uplink = false → ∀ x ∈ (b.acceptedSeqs ops).head?,
        Next 0xFF00 0x0100 b.last_uplink_seq.toNat x) := by
  induction ops generalizing b with
  | nil => exact ⟨List.isChain_nil, nofun⟩
  | cons op ops ih =>
    obtain ⟨hchain, hhead⟩ := ih (b.apply op)
    cases op with
    | commandPort | replayFile => exact ⟨hchain, hhead⟩
    | frame data =>
      -- Only an accepted frame adds a number, and the next test compares with that number.
      rcases b.processIncomingFrame_cases data with
        ⟨hno, hfirst, hlast⟩ | ⟨hyes, htest, hfirst, hlast⟩
      · have hskip : b.acceptedSeqs (UplinkOp.frame data :: ops) =
            (b.processIncomingFrame data).1.acceptedSeqs ops := by
          simp [acceptedSeqs, acceptedBy, apply, hno]
        rw [hskip]
        rw [apply, hfirst, hlast] at hhead
        exact ⟨hchain, hhead⟩
      · have htake : b.acceptedSeqs (UplinkOp.frame data :: ops) =
            seqOf data :: (b.processIncomingFrame data).1.acceptedSeqs ops := by
          simp [acceptedSeqs, acceptedBy, apply, hyes]
        rw [htake]
        have hrest := hhead hfirst
        rw [apply, hlast] at hrest
        refine ⟨List.isChain_cons.mpr ⟨hrest, hchain⟩, fun hb x hx => ?_⟩
        have hnext := b.next_of_not_isReplay hb htest
        rw [UInt16.toNat_toUInt32] at hnext
        rwa [← Option.some.inj hx]

/-- Sequence numbers are 16-bit numbers. -/
theorem acceptedSeqs_lt (b : TelemetryBridge) (ops : List UplinkOp) :
    ∀ x ∈ b.acceptedSeqs ops, x < 65536 := by
  induction ops generalizing b with
  | nil => nofun
  | cons op ops ih =>
    intro x hx
    rcases List.mem_append.mp hx with h | h
    · cases op with
      | frame data =>
        simp only [acceptedBy] at h
        split_ifs at h
        · rw [List.mem_singleton.mp h]
          exact UInt16.toNat_lt _
        · cases h
      | commandPort | replayFile => cases h
    · exact ih _ x h

/-- Replay protection over every run from every state. A sequence number that is accepted again is
accepted across a wrap: between the two acceptances, a number above `0xFF00` is accepted and
directly after it one below `0x0100`. If every accepted number is at most 255 places, modulo `2^16`,
after the one accepted before it, then none of the next 256 acceptances is of the same number. -/
theorem replay_protection (b : TelemetryBridge) (ops : List UplinkOp) :
    let acc := b.acceptedSeqs ops
    (∀ i j x, i < j → acc[i]? = some x → acc[j]? = some x →
      ∃ k y z, i ≤ k ∧ k < j ∧ acc[k]? = some y ∧ acc[k + 1]? = some z ∧ 0xFF00 < y ∧
        z < 0x0100) ∧
      ((∀ k y z, acc[k]? = some y → acc[k + 1]? = some z → (z + 65536 - y) % 65536 ≤ 255) →
        ∀ i j x, i < j → j ≤ i + 256 → acc[i]? = some x → acc[j]? ≠ some x) := by
  intro acc
  have hchain := List.isChain_iff_getElem.mp (b.isChain_acceptedSeqs ops).1
  have hlt := b.acceptedSeqs_lt ops
  have hget : ∀ k x, acc[k]? = some x → k < acc.length ∧ acc.getD k 0 = x := by
    intro k x h
    exact ⟨(List.getElem?_eq_some_iff.mp h).1, by rw [List.getD_eq_getElem?_getD, h]; rfl⟩
  have hsome : ∀ k, k < acc.length → acc[k]? = some (acc.getD k 0) := by
    intro k h
    rw [List.getElem?_eq_getElem h, List.getD_eq_getElem _ _ h]
  have hnext : ∀ k, k + 1 < acc.length →
      Next 0xFF00 0x0100 (acc.getD k 0) (acc.getD (k + 1) 0) := by
    intro k h
    rw [List.getD_eq_getElem _ _ (by omega), List.getD_eq_getElem _ _ h]
    exact hchain k h
  -- Both parts are facts of the library about chains of serial numbers.
  refine ⟨fun i j x hij hi hj => ?_, fun hgap i j x hij hj256 hi hj => ?_⟩
  · obtain ⟨-, hfi⟩ := hget i x hi
    obtain ⟨hjlt, hfj⟩ := hget j x hj
    obtain ⟨k, hik, hkj, hy, hz⟩ := exists_wrap (f := fun k => acc.getD k 0) hij
      (fun k _ hk => hnext k (by omega)) (hfi.trans hfj.symm)
    exact ⟨k, _, _, hik, hkj, hsome k (by omega), hsome (k + 1) (by omega), hy, hz⟩
  · obtain ⟨-, hfi⟩ := hget i x hi
    obtain ⟨hjlt, hfj⟩ := hget j x hj
    refine ne_of_ahead (g := 255) (M := 65536) (f := fun k => acc.getD k 0) hij
      (fun k _ hk => ?_) (by omega) (hfi.trans hfj.symm)
    have hk1 : k + 1 < acc.length := by omega
    have hstep := hnext k hk1
    have hclose := hgap k _ _ (hsome k (by omega)) (hsome (k + 1) hk1)
    have hylt := hlt _ (List.mem_of_getElem? (hsome k (by omega)))
    have hzlt := hlt _ (List.mem_of_getElem? (hsome (k + 1) hk1))
    generalize acc.getD k 0 = y at *
    generalize acc.getD (k + 1) 0 = z at *
    refine ⟨(z + 65536 - y) % 65536, ?_, hclose, ?_⟩
    · rcases hstep with h | ⟨h, h'⟩ <;> omega
    · unfold Nat.ModEq
      omega

/-- A bridge whose command port is connected and whose replay file is switched off. -/
def listening : TelemetryBridge :=
  { create (Component.create (ascii "RadioLink") 20) ⟨true, true, false, false, none⟩ with
    command_out := some (InputPort.create DEFAULT_QUEUE_DEPTH) }

/-- The number 5 is accepted, then `0xFFFF`, and then the frame with number 5 again. -/
theorem accepts_replay :
    let cmd : CommandPacket := ⟨200, 1, ⟨0⟩⟩
    listening.acceptedSeqs [UplinkOp.frame (commandFrame 5 cmd),
      UplinkOp.frame (commandFrame 0xFFFF cmd), UplinkOp.frame (commandFrame 5 cmd)] =
        [5, 0xFFFF, 5] := by
  decide +kernel

end TelemetryBridge

end DeltaV
