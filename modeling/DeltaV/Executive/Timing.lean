import DeltaV.Lib.Periodic
import Mathlib.Data.List.DropRight

/-!
# The loops of the executive

Three loops pace the flight software on the host. `RateGroupExecutive::runTier` and the NORM thread
tick a tier, count a frame drop when a tick is not done at the next deadline, and then begin a new
series of deadlines; the single-rate `Scheduler` does the same. The thread of an active component
(`Os::Thread`) keeps its deadlines and catches up.

The clock is read in nanoseconds, and a cycle carries what the operating system decides: how late a
thread runs after its deadline, and how long it takes. The first two theorems say what the loops
make of it, and `fast_ticks_per_norm_tick` puts the loops of the two tiers side by side.
-/

namespace DeltaV

open Periodic

/-- `1'000'000'000ULL / hz`. -/
def periodNs (hz : ℕ) : ℕ := 1000000000 / hz

/-- The rate of the FAST tier. -/
def FAST_HZ : ℕ := 10

/-- The rate of the NORM tier. -/
def NORM_HZ : ℕ := 1

/-- What the loop of a tier keeps from one pass to the next: the time at which the next pass is
ready, and the frame drops. -/
structure TierLoop where
  wake : ℕ
  frame_drops : UInt64
deriving DecidableEq, Repr

namespace TierLoop

/-- One pass: the tick, the clock after it, and the sleep. -/
def pass (period_ns : ℕ) (t : TierLoop) (c : Cycle) : TierLoop :=
  let now := t.wake + c.busy
  let wake := t.wake + period_ns
  if wake < now then { wake := now, frame_drops := t.frame_drops + 1 } else { t with wake := wake }

/-- The times at which the ticks of a run begin. -/
def tickTimes (period_ns : ℕ) (t : TierLoop) (cs : List Cycle) : List ℕ :=
  (history (pass period_ns) t cs).map fun tc => tc.1.wake + tc.2.latency

variable {P : ℕ} {t : TierLoop}

/-- The deadlines are those of a loop that gives up lost time. -/
theorem wake_pass (P : ℕ) (t : TierLoop) (c : Cycle) : (t.pass P c).wake = restart P t.wake c := by
  simp only [pass, restart]
  split_ifs with h
  · exact (max_eq_right h.le).symm
  · exact (max_eq_left (not_lt.mp h)).symm

/-- A pass counts a frame drop exactly when it overruns its period. -/
theorem frame_drops_pass (P : ℕ) (t : TierLoop) (c : Cycle) :
    (t.pass P c).frame_drops = t.frame_drops + if P < c.busy then 1 else 0 := by
  simp only [pass]
  by_cases h : P < c.busy
  · rw [if_pos (Nat.add_lt_add_left h _), if_pos h]
  · rw [if_neg fun hlt => h (Nat.lt_of_add_lt_add_left hlt), if_neg h, UInt64.add_zero]

/-- The next deadline after a run depends on the deadlines only. -/
theorem wake_run (P : ℕ) (t : TierLoop) (cs : List Cycle) :
    (run (pass P) t cs).wake = run (restart P) t.wake cs := by
  induction cs generalizing t with
  | nil => rfl
  | cons c cs ih => rw [run_cons, ih, wake_pass, run_cons]

/-- The ticks of a tier start when its deadlines let them. -/
theorem tickTimes_eq (P : ℕ) (t : TierLoop) (cs : List Cycle) :
    tickTimes P t cs = starts P t.wake cs := by
  induction cs generalizing t with
  | nil => rfl
  | cons c cs ih =>
    have htail := ih (t.pass P c)
    rw [wake_pass] at htail
    rw [starts_cons, ← htail]
    rfl

/-- The counter of dropped frames grows by the passes that overrun. -/
theorem frame_drops_run (P : ℕ) (t : TierLoop) (cs : List Cycle) :
    (run (pass P) t cs).frame_drops =
      t.frame_drops + UInt64.ofNat (cs.countP fun c => P < c.busy) := by
  induction cs generalizing t with
  | nil => exact (UInt64.add_zero _).symm
  | cons c cs ih =>
    rw [run_cons, ih, frame_drops_pass, List.countP_cons, UInt64.add_assoc]
    congr 1
    by_cases h : P < c.busy
    · rw [if_pos h, if_pos (decide_eq_true h), UInt64.ofNat_add, UInt64.add_comm]
      rfl
    · rw [if_neg h, if_neg (by simpa using h), UInt64.zero_add, Nat.add_zero]

/-- The loop of a tier, whatever the threads of the operating system do. Every overrun moves the
deadlines for good and is one frame drop; so the deadlines are those of the start exactly as long as
no pass overruns its period. A tier never catches up: at most `m + 1` ticks begin within `m`
periods. -/
theorem tier_timing (hz : ℕ) (t : TierLoop) (cs : List Cycle) :
    let P := periodNs hz
    let t' := run (pass P) t cs
    t'.wake = t.wake + cs.length * P + (cs.map (Cycle.overrun P)).sum ∧
      t'.frame_drops = t.frame_drops + UInt64.ofNat (cs.countP fun c => P < c.busy) ∧
      (t'.wake = t.wake + cs.length * P ↔ ∀ c ∈ cs, c.busy ≤ P) ∧
      ∀ lo m, (tickTimes P t cs).countP (fun s => lo ≤ s ∧ s < lo + m * P) ≤ m + 1 := by
  intro P t'
  have hwake : t'.wake = t.wake + cs.length * P + (cs.map (Cycle.overrun P)).sum :=
    (wake_run P t cs).trans (run_restart P t.wake cs)
  refine ⟨hwake, frame_drops_run P t cs, ?_, fun lo m => ?_⟩
  · rw [hwake, Nat.add_eq_left, List.sum_eq_zero_iff_forall_eq_nat]
    simp only [List.mem_map, forall_exists_index, and_imp, forall_apply_eq_imp_iff₂,
      Cycle.overrun, Nat.sub_eq_zero_iff_le]
  · rw [tickTimes_eq]
    exact countP_starts_le lo m t.wake cs

/-- Without overruns, tick `k` begins its latency after the `k`th deadline. -/
theorem getElem?_tickTimes {cs : List Cycle} (h : ∀ c ∈ cs, c.busy ≤ P) {k s : ℕ}
    (hk : (tickTimes P t cs)[k]? = some s) :
    ∃ c ∈ cs, k < cs.length ∧ s = t.wake + k * P + c.latency := by
  rw [tickTimes_eq, getElem?_starts h] at hk
  obtain ⟨c, hc, rfl⟩ := Option.map_eq_some_iff.mp hk
  exact ⟨c, List.mem_of_getElem? hc, (List.getElem?_eq_some_iff.mp hc).1, rfl⟩

/-- A run has one tick for every pass. -/
theorem length_tickTimes (P : ℕ) (t : TierLoop) (cs : List Cycle) :
    (tickTimes P t cs).length = cs.length := by
  induction cs generalizing t with
  | nil => rfl
  | cons c cs ih => exact congrArg (· + 1) (ih (t.pass P c))

/-- The two tiers side by side, on threads that do not wait for each other. As long as no pass
overruns and the latencies of the two threads add up to at most one FAST period, between 9 and 11
FAST ticks begin from one NORM tick to the next. -/
theorem fast_ticks_per_norm_tick (fast norm : TierLoop) (fs ns : List Cycle) (jf jn : ℕ)
    (hj : jf + jn ≤ periodNs FAST_HZ)
    (hfs : ∀ c ∈ fs, c.busy ≤ periodNs FAST_HZ ∧ c.latency ≤ jf)
    (hns : ∀ c ∈ ns, c.busy ≤ periodNs NORM_HZ ∧ c.latency ≤ jn) (j a b : ℕ)
    (ha : (tickTimes (periodNs NORM_HZ) norm ns)[j]? = some a)
    (hb : (tickTimes (periodNs NORM_HZ) norm ns)[j + 1]? = some b) (hfrom : fast.wake ≤ a)
    (hto : b ≤ fast.wake + fs.length * periodNs FAST_HZ) :
    let ticks := (tickTimes (periodNs FAST_HZ) fast fs).countP fun s => a ≤ s ∧ s < b
    9 ≤ ticks ∧ ticks ≤ 11 := by
  have hfast : periodNs FAST_HZ = 100000000 := rfl
  have hnorm : periodNs NORM_HZ = 1000000000 := rfl
  rw [hfast] at hj hfs hto ⊢
  rw [hnorm] at hns ha hb
  obtain ⟨ca, hca, -, rfl⟩ := getElem?_tickTimes (fun c hc => (hns c hc).1) ha
  obtain ⟨cb, hcb, -, rfl⟩ := getElem?_tickTimes (fun c hc => (hns c hc).1) hb
  have hla := (hns ca hca).2
  have hlb := (hns cb hcb).2
  rw [Nat.add_mul, Nat.one_mul, ← Nat.add_assoc] at hto ⊢
  -- Where the FAST ticks lie, by their place in the run.
  have hplace (k s : ℕ) (hk : (tickTimes 100000000 fast fs)[k]? = some s) :
      ∃ l ≤ jf, k < fs.length ∧ s = fast.wake + k * 100000000 + l := by
    obtain ⟨c, hc, hlt, rfl⟩ := getElem?_tickTimes (fun c hc => (hfs c hc).1) hk
    exact ⟨c.latency, (hfs c hc).2, hlt, rfl⟩
  generalize norm.wake + j * 1000000000 = due at hfrom hto ⊢
  constructor
  · -- The first deadline at or after the NORM tick, and the eight after it.
    refine le_countP_of_places ((due + ca.latency - fast.wake + 99999999) / 100000000) ?_
      fun k s hk hlo hhi => ?_
    · rw [length_tickTimes]
      omega
    · obtain ⟨l, hl, hlt, rfl⟩ := hplace k s hk
      exact decide_eq_true (by omega)
  · -- The first deadline whose tick can begin after the NORM tick, and the ten after it.
    refine countP_le_of_places ((due + ca.latency - jf - fast.wake + 99999999) / 100000000)
      fun k s hk hs => ?_
    obtain ⟨l, hl, hlt, rfl⟩ := hplace k s hk
    obtain ⟨hlo, hhi⟩ := of_decide_eq_true hs
    omega

/-- Twenty FAST ticks and two NORM ticks, one millisecond late each: the second NORM tick begins
after eleven FAST ticks, the first after one. -/
theorem fast_ticks_per_norm_tick_late :
    let ticks := (tickTimes (periodNs FAST_HZ) ⟨0, 0⟩
      (List.replicate 20 ⟨1000000, 5000000⟩)).countP fun s => 51000000 ≤ s ∧ s < 1051000000
    9 ≤ ticks ∧ ticks ≤ 11 :=
  fast_ticks_per_norm_tick ⟨0, 0⟩ ⟨50000000, 0⟩ (List.replicate 20 ⟨1000000, 5000000⟩)
    [⟨1000000, 700000000⟩, ⟨1000000, 700000000⟩] 1000000 1000000 (by decide +kernel)
    (by decide +kernel) (by decide +kernel) 0 51000000 1051000000 (by decide +kernel)
    (by decide +kernel) (by decide +kernel) (by decide +kernel)

end TierLoop

/-! ## The threads of active components -/

/-- What the loop of `Os::Thread` keeps: its next deadline, and the time at which its function can
run again. -/
structure ThreadLoop where
  next_wake : ℕ
  ready : ℕ
deriving DecidableEq, Repr

namespace ThreadLoop

/-- The period of a thread; a rate of zero stands for one. -/
def periodNs (hz : ℕ) : ℕ := if 0 < hz then DeltaV.periodNs hz else 1000000000

/-- A thread that is started. -/
def start (now : ℕ) : ThreadLoop := ⟨now, now⟩

/-- One pass: the function, the next deadline, and the sleep, which returns at once when the deadline
has passed. -/
def pass (period_ns : ℕ) (t : ThreadLoop) (c : Cycle) : ThreadLoop :=
  let next_wake := t.next_wake + period_ns
  { next_wake := next_wake, ready := max next_wake (t.ready + c.busy) }

/-- A run of the thread is a run of its deadline and of the time at which it is ready. -/
theorem run_eq (P : ℕ) (t : ThreadLoop) (cs : List Cycle) :
    ((run (pass P) t cs).next_wake, (run (pass P) t cs).ready) =
      run (catchUp P) (t.next_wake, t.ready) cs := by
  induction cs generalizing t with
  | nil => rfl
  | cons c cs ih => exact ih (t.pass P c)

/-- The thread of an active component. Its deadlines never move from those of its start, its
function can run again at or after the deadline, and it can by a given time exactly when the latest
calls would be done by then had they begun at a deadline and run without a pause. So a thread that
was late is on time again as soon as no series of latest calls took longer than its periods. -/
theorem thread_timing (hz now : ℕ) (cs : List Cycle) :
    let P := periodNs hz
    let t := run (pass P) (start now) cs
    t.next_wake = now + cs.length * P ∧ t.next_wake ≤ t.ready ∧
      (∀ bound, t.ready ≤ bound ↔ ∀ late, late <:+ cs →
        now + (cs.length - late.length) * P + (late.map Cycle.busy).sum ≤ bound) ∧
      (t.ready = t.next_wake ↔
        ∀ late, late <:+ cs → (late.map Cycle.busy).sum ≤ late.length * P) := by
  intro P t
  have hrun := run_eq P (start now) cs
  have hnext : t.next_wake = (run (catchUp P) (now, now) cs).1 := congrArg Prod.fst hrun
  have hready : t.ready = (run (catchUp P) (now, now) cs).2 := congrArg Prod.snd hrun
  rw [hnext, hready, run_catchUp_fst]
  exact ⟨rfl, le_run_catchUp now cs, fun bound => run_catchUp_le_iff now bound cs,
    run_catchUp_eq_iff now cs⟩

end ThreadLoop

end DeltaV
