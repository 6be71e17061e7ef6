import DeltaV.Lib.MaxRegister
import DeltaV.Lib.Runs
import Mathlib.Logic.Function.Basic
import Mathlib.Tactic.Ring

/-!
# The time service

The mission elapsed time counts milliseconds since the epoch, and the UTC time is that count and an
offset. What `getUtcUnixMs` returns is kept in `last_utc_unix_ms`, and a time below it is raised to
it, in a loop that exchanges the kept value for the raised one.

Any number of threads call the service in any order (`SharedTimeService`). Each read, store and
exchange is one action, and so is the passage of time. Sums of signed words wrap here; in the source
a sum out of range has no meaning. The times returned are in order in any case (`readings_sorted`),
and each is the maximum of the one returned before and the target of its call (`clamped_run`), which
is the UTC time or zero when the sum is in range (`toNat_utcTarget`).
-/

namespace DeltaV

/-- The time service after `initEpoch`. -/
structure TimeService where
  /-- Milliseconds since the epoch, as `getMET64` returns them: a signed count of 64 bits. -/
  met_ms : UInt64
  met_lt : met_ms.toNat < 2^63
  utc_offset_ms : Int64
  utc_synced : Bool
  last_utc_unix_ms : UInt64

/-- The target of a call of `getUtcUnixMs`: the UTC time, or zero before the epoch of UTC. -/
def utcTarget (met_ms : UInt64) (offset : Int64) : UInt64 :=
  let utc_ms := met_ms.toInt64 + offset
  if utc_ms < 0 then 0 else utc_ms.toUInt64

namespace TimeService

def MET_WRAP_MASK : UInt64 := 0xFFFFFFFF

/-- The clock is set to zero. -/
def initEpoch : TimeService where
  met_ms := 0
  met_lt := by decide
  utc_offset_ms := 0
  utc_synced := false
  last_utc_unix_ms := 0

/-- Time passes; the count stays one of 64 bits. -/
def tick (t : TimeService) (ms : ℕ) : TimeService :=
  { t with
    met_ms := UInt64.ofNat (min (t.met_ms.toNat + ms) (2^63 - 1))
    met_lt := by
      rw [UInt64.toNat_ofNat', Nat.mod_eq_of_lt (by omega)]
      omega }

/-- The mission elapsed time in 32 bits. -/
def getMET (t : TimeService) : UInt32 := (t.met_ms &&& MET_WRAP_MASK).toUInt32

def setUtcOffsetMs (t : TimeService) (offset_ms : Int64) : TimeService :=
  { t with utc_offset_ms := offset_ms, utc_synced := true }

def setUtcFromUnixMs (t : TimeService) (unix_ms : UInt64) : TimeService :=
  let met_ms := t.met_ms.toInt64
  let target := unix_ms.toInt64
  t.setUtcOffsetMs (target - met_ms)

/-- The UTC time that is returned, and the service that keeps it. -/
def getUtcUnixMs (t : TimeService) : TimeService × UInt64 :=
  let candidate := utcTarget t.met_ms t.utc_offset_ms
  let candidate := if candidate < t.last_utc_unix_ms then t.last_utc_unix_ms else candidate
  ({ t with last_utc_unix_ms := candidate }, candidate)

def getUtcOffsetMs (t : TimeService) : Int64 := t.utc_offset_ms

def hasUtcSync (t : TimeService) : Bool := t.utc_synced

end TimeService

/-! ## Sums of signed words -/

/-- A mission time as a signed word. -/
theorem toInt_toInt64 {n : UInt64} (h : n.toNat < 2^63) : n.toInt64.toInt = n.toNat :=
  BitVec.toInt_eq_toNat_of_lt (by simpa using (by omega : 2 * n.toNat < 2^64))

/-- In range, the target is the UTC time or zero. -/
theorem toNat_utcTarget {met_ms : UInt64} {offset : Int64} (hmet : met_ms.toNat < 2^63)
    (h : met_ms.toNat + offset.toInt < 2^63) :
    ((utcTarget met_ms offset).toNat : ℤ) = max 0 (met_ms.toNat + offset.toInt) := by
  have hoffset : -2^63 ≤ offset.toInt := offset.le_toInt
  have hsum : (met_ms.toInt64 + offset).toInt = met_ms.toNat + offset.toInt := by
    rw [Int64.toInt_add, toInt_toInt64 hmet]
    exact Int.bmod_eq_of_le (by omega) (by omega)
  unfold utcTarget
  dsimp only
  split_ifs with hneg
  · -- Before the epoch of UTC the target is zero.
    rw [Int64.lt_iff_toInt_lt, hsum, Int64.toInt_zero] at hneg
    rw [UInt64.toNat_zero]
    omega
  · rw [Int64.lt_iff_toInt_lt, hsum, Int64.toInt_zero] at hneg
    have hpos : 0 ≤ met_ms.toInt64 + offset := by
      rw [Int64.le_iff_toInt_le, hsum, Int64.toInt_zero]
      omega
    rw [Int64.toNat_toUInt64_of_le hpos, Int64.toNatClampNeg, hsum]
    omega

/-! ## Threads -/

/-- A call that a thread makes. -/
inductive UtcCall where
  | setUtcOffsetMs (offset_ms : Int64)
  | setUtcFromUnixMs (unix_ms : UInt64)
  | getUtcUnixMs

/-- Where a thread is. -/
inductive UtcPc where
  | idle
  /-- `setUtcFromUnixMs` has been called. -/
  | measuring (unix_ms : UInt64)
  /-- `setUtcOffsetMs` has been called. -/
  | storing (offset_ms : Int64)
  /-- `setUtcOffsetMs` has stored the offset. -/
  | marking
  /-- `getUtcUnixMs` has been called. -/
  | readingMet
  /-- `getUtcUnixMs` has read the mission time. -/
  | readingOffset (met_ms : UInt64)
  /-- `getUtcUnixMs` has read the offset. -/
  | readingLast (met_ms : UInt64) (offset : Int64)
  /-- `getUtcUnixMs` has read the kept value, and is in its loop. -/
  | exchanging (met_ms : UInt64) (offset : Int64) (candidate last : UInt64)

/-- A call of `getUtcUnixMs` that has returned. -/
structure Reading where
  met_ms : UInt64
  offset : Int64
  value : UInt64
deriving DecidableEq

/-- The time service and the threads that call it. -/
structure SharedTimeService (ι : Type*) where
  service : TimeService
  threads : ι → UtcPc
  /-- The calls of `getUtcUnixMs`, in the order of their successful exchanges. -/
  returned : List Reading

/-- Who acts next. -/
inductive UtcAct (ι : Type*) where
  | tick (ms : ℕ)
  /-- A thread that is idle makes a call. -/
  | call (t : ι) (c : UtcCall)
  /-- A thread takes its next action; an exchange may fail without a reason. -/
  | step (t : ι) (spurious : Bool)

namespace SharedTimeService

variable {ι : Type*}

/-- The service after `initEpoch`, and nobody in a call. -/
def create (ι : Type*) : SharedTimeService ι := ⟨TimeService.initEpoch, fun _ => UtcPc.idle, []⟩

variable [DecidableEq ι]

/-- Moves a thread. -/
def setThread (s : SharedTimeService ι) (t : ι) (pc : UtcPc) : SharedTimeService ι :=
  { s with threads := Function.update s.threads t pc }

/-- A thread that is idle makes a call. -/
def call (s : SharedTimeService ι) (t : ι) : UtcCall → SharedTimeService ι
  | UtcCall.setUtcOffsetMs offset_ms => s.setThread t (UtcPc.storing offset_ms)
  | UtcCall.setUtcFromUnixMs unix_ms => s.setThread t (UtcPc.measuring unix_ms)
  | UtcCall.getUtcUnixMs => s.setThread t UtcPc.readingMet

/-- One pass of the loop of `getUtcUnixMs`. -/
def exchange (s : SharedTimeService ι) (t : ι) (met_ms : UInt64) (offset : Int64)
    (candidate last : UInt64) (spurious : Bool) : SharedTimeService ι :=
  let candidate := if candidate < last then last else candidate
  if s.service.last_utc_unix_ms = last ∧ spurious = false then
    { s with
      service := { s.service with last_utc_unix_ms := candidate }
      returned := s.returned ++ [Reading.mk met_ms offset candidate] }.setThread t UtcPc.idle
  else s.setThread t (UtcPc.exchanging met_ms offset candidate s.service.last_utc_unix_ms)

/-- The next action of a thread. -/
def stepThread (s : SharedTimeService ι) (t : ι) (spurious : Bool) : SharedTimeService ι :=
  match s.threads t with
  | UtcPc.idle => s
  | UtcPc.measuring unix_ms =>
    s.setThread t (UtcPc.storing (unix_ms.toInt64 - s.service.met_ms.toInt64))
  | UtcPc.storing offset_ms =>
    { s with service := { s.service with utc_offset_ms := offset_ms } }.setThread t UtcPc.marking
  | UtcPc.marking =>
    { s with service := { s.service with utc_synced := true } }.setThread t UtcPc.idle
  | UtcPc.readingMet => s.setThread t (UtcPc.readingOffset s.service.met_ms)
  | UtcPc.readingOffset met_ms =>
    s.setThread t (UtcPc.readingLast met_ms s.service.utc_offset_ms)
  | UtcPc.readingLast met_ms offset =>
    s.setThread t (UtcPc.exchanging met_ms offset (utcTarget met_ms offset)
      s.service.last_utc_unix_ms)
  | UtcPc.exchanging met_ms offset candidate last =>
    s.exchange t met_ms offset candidate last spurious

/-- One action. -/
def step (s : SharedTimeService ι) : UtcAct ι → SharedTimeService ι
  | UtcAct.tick ms => { s with service := s.service.tick ms }
  | UtcAct.call t c =>
    match s.threads t with
    | UtcPc.idle => s.call t c
    | _ => s
  | UtcAct.step t spurious => s.stepThread t spurious

/-- An uninterrupted resynchronisation is `setUtcFromUnixMs` of the service. -/
theorem run_setUtcFromUnixMs (s : SharedTimeService ι) (t : ι) (unix_ms : UInt64)
    (h : s.threads t = UtcPc.idle) :
    run step s [UtcAct.call t (UtcCall.setUtcFromUnixMs unix_ms), UtcAct.step t false,
        UtcAct.step t false, UtcAct.step t false] =
      { s with service := s.service.setUtcFromUnixMs unix_ms } := by
  have hback : Function.update s.threads t UtcPc.idle = s.threads := by
    rw [← h, Function.update_eq_self]
  simp [step, call, stepThread, h, setThread, TimeService.setUtcFromUnixMs,
    TimeService.setUtcOffsetMs, hback]

/-- An uninterrupted reading is `getUtcUnixMs` of the service. -/
theorem run_getUtcUnixMs (s : SharedTimeService ι) (t : ι) (h : s.threads t = UtcPc.idle) :
    run step s [UtcAct.call t UtcCall.getUtcUnixMs, UtcAct.step t false, UtcAct.step t false,
        UtcAct.step t false, UtcAct.step t false] =
      { s with
        service := s.service.getUtcUnixMs.1
        returned := s.returned ++
          [⟨s.service.met_ms, s.service.utc_offset_ms, s.service.getUtcUnixMs.2⟩] } := by
  have hback : Function.update s.threads t UtcPc.idle = s.threads := by
    rw [← h, Function.update_eq_self]
  -- Nobody else acts, so the kept value is the one that was read and the exchange succeeds.
  simp [step, call, stepThread, exchange, h, setThread, TimeService.getUtcUnixMs, hback]

/-! ## Clamping -/

end SharedTimeService

/-- The value that the log ends with. -/
def lastValue (log : List Reading) : UInt64 := (log.getLast?.map Reading.value).getD 0

/-- A call returns the maximum of the value returned before and its target. -/
structure Reading.Clamps (log : List Reading) (r : Reading) : Prop where
  met_lt : r.met_ms.toNat < 2^63
  value_eq : r.value.toNat = max (lastValue log).toNat (utcTarget r.met_ms r.offset).toNat

/-- The mission time that a thread has read is one, and a thread in the loop makes an attempt on the
kept value. -/
def UtcPc.Sound (kept : UInt64) : UtcPc → Prop
  | UtcPc.readingOffset met_ms => met_ms.toNat < 2^63
  | UtcPc.readingLast met_ms _ => met_ms.toNat < 2^63
  | UtcPc.exchanging met_ms offset candidate last =>
    met_ms.toNat < 2^63 ∧ MaxRegister.Attempt (utcTarget met_ms offset).toNat candidate.toNat
      last.toNat kept.toNat
  | _ => True

/-- What is sound for a kept time is sound for any later one. -/
theorem UtcPc.Sound.mono {kept kept' : UInt64} {pc : UtcPc} (h : pc.Sound kept)
    (hle : kept.toNat ≤ kept'.toNat) : pc.Sound kept' := by
  cases pc with
  | exchanging => exact ⟨h.1, h.2.mono hle⟩
  | _ => exact h

namespace SharedTimeService

variable {ι : Type*}

/-- The kept value is the one returned last, and what was returned is clamped. -/
structure Clamped (s : SharedTimeService ι) : Prop where
  threads_sound : ∀ t, (s.threads t).Sound s.service.last_utc_unix_ms
  last_eq : lastValue s.returned = s.service.last_utc_unix_ms
  justified : Logs.Justified Reading.Clamps s.returned

/-- A new clock is clamped. -/
theorem clamped_create (ι : Type*) : (create ι).Clamped :=
  ⟨fun _ => trivial, rfl, Logs.Justified.nil⟩

/-- What is clamped is in order. -/
theorem Clamped.readings_sorted {s : SharedTimeService ι} (h : s.Clamped) :
    (s.returned.map fun r => r.value.toNat).Pairwise (· ≤ ·) := by
  refine MaxRegister.pairwise_of_justified fun pre r hpre a ha => ?_
  have hlast : lastValue pre = a.value := by rw [lastValue, ha, Option.map_some, Option.getD_some]
  rw [(h.justified pre r hpre).value_eq, hlast]
  exact le_max_left _ _

variable [DecidableEq ι]

/-- A thread may move to any place that is sound for the time kept. -/
theorem Clamped.setThread {s : SharedTimeService ι} (h : s.Clamped) (t : ι) {pc : UtcPc}
    (hpc : pc.Sound s.service.last_utc_unix_ms) : (s.setThread t pc).Clamped := by
  refine ⟨fun u => ?_, h.last_eq, h.justified⟩
  change (Function.update s.threads t pc u).Sound s.service.last_utc_unix_ms
  rcases eq_or_ne u t with rfl | hne
  · rwa [Function.update_self]
  · rw [Function.update_of_ne hne]
    exact h.threads_sound u

/-- What the loop compares and raises is the maximum. -/
theorem toNat_raise (candidate last : UInt64) :
    (if candidate < last then last else candidate).toNat = max candidate.toNat last.toNat := by
  split_ifs with h
  · rw [UInt64.lt_iff_toNat_lt] at h
    exact (max_eq_right h.le).symm
  · rw [UInt64.lt_iff_toNat_lt, not_lt] at h
    exact (max_eq_left h).symm

/-- One pass of the loop. -/
theorem Clamped.exchange {s : SharedTimeService ι} (h : s.Clamped) {t : ι} {met_ms : UInt64}
    {offset : Int64} {candidate last : UInt64}
    (hpc : s.threads t = UtcPc.exchanging met_ms offset candidate last) (spurious : Bool) :
    (s.exchange t met_ms offset candidate last spurious).Clamped := by
  obtain ⟨hmet, hattempt⟩ : (UtcPc.exchanging met_ms offset candidate last).Sound _ :=
    hpc ▸ h.threads_sound t
  unfold SharedTimeService.exchange
  dsimp only
  set raised := if candidate < last then last else candidate with hraised
  have htoNat : raised.toNat = max candidate.toNat last.toNat := toNat_raise candidate last
  split_ifs with hswap
  · -- The kept value is the one that was expected, so the raised candidate is the maximum.
    have hmax : raised.toNat =
        max s.service.last_utc_unix_ms.toNat (utcTarget met_ms offset).toNat := by
      rw [htoNat]
      exact hattempt.max_eq (congrArg UInt64.toNat hswap.1)
    refine Clamped.setThread ⟨fun u => ?_, ?_, ?_⟩ t trivial
    · exact (h.threads_sound u).mono (hmax ▸ le_max_left _ _)
    · change lastValue (s.returned ++ [_]) = raised
      rw [lastValue, List.getLast?_concat]
      rfl
    · refine Logs.justified_concat.mpr ⟨h.justified, hmet, ?_⟩
      rw [h.last_eq]
      exact hmax
  · -- The thread keeps the raised candidate and expects the value that it has read instead.
    exact h.setThread t ⟨hmet, htoNat ▸ hattempt.retry⟩

/-- One action of a thread. -/
theorem Clamped.stepThread {s : SharedTimeService ι} (h : s.Clamped) (t : ι) (spurious : Bool) :
    (s.stepThread t spurious).Clamped := by
  have hsound := h.threads_sound t
  unfold SharedTimeService.stepThread
  cases hpc : s.threads t with
  | idle => exact h
  | measuring unix_ms => exact h.setThread t trivial
  | storing offset_ms =>
    have hstored : Clamped { s with service.utc_offset_ms := offset_ms } :=
      ⟨h.threads_sound, h.last_eq, h.justified⟩
    exact hstored.setThread t trivial
  | marking =>
    have hmarked : Clamped { s with service.utc_synced := true } :=
      ⟨h.threads_sound, h.last_eq, h.justified⟩
    exact hmarked.setThread t trivial
  | readingMet => exact h.setThread t s.service.met_lt
  | readingOffset met_ms =>
    rw [hpc] at hsound
    exact h.setThread t hsound
  | readingLast met_ms offset =>
    rw [hpc] at hsound
    exact h.setThread t ⟨hsound, MaxRegister.Attempt.start _ _⟩
  | exchanging met_ms offset candidate last => exact h.exchange hpc spurious

/-- One action. -/
theorem Clamped.step {s : SharedTimeService ι} (h : s.Clamped) (act : UtcAct ι) :
    (s.step act).Clamped := by
  cases act with
  | tick ms => exact ⟨h.threads_sound, h.last_eq, h.justified⟩
  | call t c =>
    cases hpc : s.threads t with
    | idle =>
      have hstep : s.step (UtcAct.call t c) = s.call t c := by rw [SharedTimeService.step, hpc]
      rw [hstep]
      cases c <;> exact h.setThread t trivial
    | _ =>
      have hstep : s.step (UtcAct.call t c) = s := by rw [SharedTimeService.step, hpc]
      rwa [hstep]
  | step t spurious => exact h.stepThread t spurious

-- A resynchronisation to an earlier time between two calls of another thread.
example :
    (run step (create Bool) ([UtcAct.call true (UtcCall.setUtcOffsetMs 5000), UtcAct.step true false,
      UtcAct.step true false, UtcAct.call false UtcCall.getUtcUnixMs, UtcAct.step false false,
      UtcAct.step false false, UtcAct.call true (UtcCall.setUtcOffsetMs 4000),
      UtcAct.step true false, UtcAct.step false false, UtcAct.step false false,
      UtcAct.call false UtcCall.getUtcUnixMs] ++
        List.replicate 4 (UtcAct.step false false))).returned.map Reading.value =
      [5000, 5000] := by decide +kernel

/-- After every run, each call has returned the maximum of the value before it and its target. -/
theorem clamped_run (acts : List (UtcAct ι)) : (run step (create ι) acts).Clamped :=
  run_invariant (fun _ act h => h.step act) (clamped_create ι) acts

end SharedTimeService

end DeltaV
