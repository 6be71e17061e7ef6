import DeltaV.Registrations
import Mathlib.Data.List.Basic
import Mathlib.Tactic.Ring

/-!
# The schedule of the executive

`startAll` has two versions. On the host, the FAST and the NORM tier have threads of their own, and
the NORM thread ticks the SLOW tier in every tenth pass of a 32-bit counter; the order in which
passes of the two threads come is arbitrary (`host_schedule`). The embedded target runs everything in
one loop that divides the FAST rate, steps the components with threads in it too, and reports how
long its passes took (`cooperative_schedule`). A tick steps the components of its tier that have no
thread. With ten FAST passes to a NORM pass, the two versions step these components in the same order
(`cooperative_refines_host`).
-/

namespace DeltaV

/-- The steps of one tick of a tier. -/
def RateTier.tick {C : Type} (isActive : C → Bool) (t : RateTier C) : List C :=
  t.comps.filter fun c => !isActive c

/-! ## The host -/

/-- A pass of one of the two threads. -/
inductive HostPass where
  | fast
  | norm
deriving DecidableEq, Repr

/-- The counter of the NORM thread, and the steps of both threads. -/
structure HostLoops (C : Type) where
  cycle : UInt32
  stepped : List C

namespace HostLoops

variable {C : Type}

/-- The threads as started. -/
def start : HostLoops C := ⟨0, []⟩

/-- The next pass. -/
def pass (isActive : C → Bool) (r : RateGroupExecutive C) (s : HostLoops C) :
    HostPass → HostLoops C
  | HostPass.fast => { s with stepped := s.stepped ++ r.fast_.tick isActive }
  | HostPass.norm =>
    let cycle := s.cycle + 1
    { cycle := cycle
      stepped := s.stepped ++ r.norm_.tick isActive ++
        if cycle % 10 = 0 then r.slow_.tick isActive else [] }

end HostLoops

/-! ## The embedded target -/

/-- `FAST_PERIOD_US`. -/
def FAST_PERIOD_US : UInt64 := 100000

/-- `METRIC_REPORT_DIVIDER`: passes between reports. -/
def METRIC_REPORT_DIVIDER : UInt32 := 50

/-- The readings of the clock in one pass, in microseconds. -/
structure CooperativePass where
  loop_start_us : UInt64
  /-- After the FAST tick. -/
  fast_end_us : UInt64
  /-- After all ticks. -/
  loop_end_us : UInt64
deriving DecidableEq, Repr, Inhabited

namespace CooperativePass

def fast_elapsed_us (p : CooperativePass) : UInt64 := p.fast_end_us - p.loop_start_us

def loop_elapsed_us (p : CooperativePass) : UInt64 := p.loop_end_us - p.loop_start_us

/-- The longest of the given times. -/
def wcet (elapsed : CooperativePass → UInt64) (ps : List CooperativePass) : UInt64 :=
  ps.foldl (fun worst p => if worst < elapsed p then elapsed p else worst) 0

end CooperativePass

/-- What a report shows. -/
structure MetricReport where
  fast_tick_wcet_us : UInt64
  loop_wcet_us : UInt64
  loop_overruns : UInt64
deriving DecidableEq, Repr

/-- The local variables of the loop, the steps it has made, and its reports. -/
structure CooperativeLoop (C : Type) where
  norm_divider : UInt32
  slow_divider : UInt32
  metric_divider : UInt32
  fast_tick_wcet_us : UInt64
  loop_wcet_us : UInt64
  loop_overruns : UInt64
  stepped : List C
  reports : List MetricReport

namespace CooperativeLoop

variable {C : Type}

/-- The loop as entered. -/
def start : CooperativeLoop C := ⟨0, 0, 0, 0, 0, 0, [], []⟩

/-- The FAST tick and its time. -/
def fastTick (isActive : C → Bool) (r : RateGroupExecutive C) (s : CooperativeLoop C)
    (p : CooperativePass) : CooperativeLoop C :=
  { s with
    stepped := s.stepped ++ r.fast_.tick isActive
    fast_tick_wcet_us :=
      if s.fast_tick_wcet_us < p.fast_elapsed_us then p.fast_elapsed_us
      else s.fast_tick_wcet_us }

/-- The divided tiers; the components with threads are stepped with the NORM tier. -/
def dividedTicks (isActive : C → Bool) (r : RateGroupExecutive C) (s : CooperativeLoop C) :
    CooperativeLoop C :=
  let s := { s with norm_divider := s.norm_divider + 1 }
  if 10 ≤ s.norm_divider then
    let s := { s with
      norm_divider := 0
      stepped := s.stepped ++ r.norm_.tick isActive ++ r.active_
      slow_divider := s.slow_divider + 1 }
    if 10 ≤ s.slow_divider then
      { s with slow_divider := 0, stepped := s.stepped ++ r.slow_.tick isActive }
    else s
  else s

/-- The time of the whole pass, and whether it overran the FAST period. -/
def measure (s : CooperativeLoop C) (p : CooperativePass) : CooperativeLoop C :=
  { s with
    loop_wcet_us :=
      if s.loop_wcet_us < p.loop_elapsed_us then p.loop_elapsed_us else s.loop_wcet_us
    loop_overruns :=
      if FAST_PERIOD_US < p.loop_elapsed_us then s.loop_overruns + 1 else s.loop_overruns }

/-- The periodic report, which starts the longest times anew. -/
def report (s : CooperativeLoop C) : CooperativeLoop C :=
  let s := { s with metric_divider := s.metric_divider + 1 }
  if METRIC_REPORT_DIVIDER ≤ s.metric_divider then
    { s with
      metric_divider := 0
      reports := s.reports ++ [⟨s.fast_tick_wcet_us, s.loop_wcet_us, s.loop_overruns⟩]
      fast_tick_wcet_us := 0
      loop_wcet_us := 0 }
  else s

/-- One pass of the loop. -/
def pass (isActive : C → Bool) (r : RateGroupExecutive C) (s : CooperativeLoop C)
    (p : CooperativePass) : CooperativeLoop C :=
  (((s.fastTick isActive r p).dividedTicks isActive r).measure p).report

end CooperativeLoop

/-! ## The embedded target, pass by pass -/

namespace CooperativePass

/-- One more pass. -/
theorem wcet_concat (elapsed : CooperativePass → UInt64) (ps : List CooperativePass)
    (p : CooperativePass) : wcet elapsed (ps ++ [p]) =
      if wcet elapsed ps < elapsed p then elapsed p else wcet elapsed ps :=
  List.foldl_concat ..

/-- Whether a pass overran the FAST period. -/
def Overruns (p : CooperativePass) : Bool := decide (FAST_PERIOD_US < p.loop_elapsed_us)

end CooperativePass

namespace CooperativeLoop

open CooperativePass

variable {C : Type} {isActive : C → Bool} {r : RateGroupExecutive C} {s : CooperativeLoop C}
  {ps : List CooperativePass}

/-- The steps of the pass with the given number, counted from one. -/
def scheduled (isActive : C → Bool) (r : RateGroupExecutive C) (k : ℕ) : List C :=
  r.fast_.tick isActive ++ (if k % 10 = 0 then r.norm_.tick isActive ++ r.active_ else []) ++
    if k % 100 = 0 then r.slow_.tick isActive else []

/-- The report of the `k`th fifty passes: the longest times among them, and the overruns of all
passes so far. -/
def reportOf (ps : List CooperativePass) (k : ℕ) : MetricReport :=
  { fast_tick_wcet_us := wcet fast_elapsed_us ((ps.drop (50 * k)).take 50)
    loop_wcet_us := wcet loop_elapsed_us ((ps.drop (50 * k)).take 50)
    loop_overruns := UInt64.ofNat ((ps.take (50 * (k + 1))).countP Overruns) }

/-- The loop after the passes. -/
structure After (isActive : C → Bool) (r : RateGroupExecutive C) (ps : List CooperativePass)
    (s : CooperativeLoop C) : Prop where
  norm_divider : s.norm_divider.toNat = ps.length % 10
  slow_divider : s.slow_divider.toNat = ps.length / 10 % 10
  metric_divider : s.metric_divider.toNat = ps.length % 50
  fast_wcet : s.fast_tick_wcet_us = wcet fast_elapsed_us (ps.drop (50 * (ps.length / 50)))
  loop_wcet : s.loop_wcet_us = wcet loop_elapsed_us (ps.drop (50 * (ps.length / 50)))
  overruns : s.loop_overruns = UInt64.ofNat (ps.countP Overruns)
  stepped : s.stepped = (List.range ps.length).flatMap fun k => scheduled isActive r (k + 1)
  reports : s.reports = (List.range (ps.length / 50)).map (reportOf ps)

/-- The dividers count to ten, and the tiers step when they do. -/
theorem dividedTicks_spec (isActive : C → Bool) (r : RateGroupExecutive C) (s : CooperativeLoop C)
    {n : ℕ} (hnorm : s.norm_divider.toNat = n % 10) (hslow : s.slow_divider.toNat = n / 10 % 10) :
    (s.dividedTicks isActive r).norm_divider.toNat = (n + 1) % 10 ∧
      (s.dividedTicks isActive r).slow_divider.toNat = (n + 1) / 10 % 10 ∧
      (s.dividedTicks isActive r).stepped = s.stepped ++
        (if (n + 1) % 10 = 0 then r.norm_.tick isActive ++ r.active_ else []) ++
        if (n + 1) % 100 = 0 then r.slow_.tick isActive else [] := by
  have hone : (1 : UInt32).toNat = 1 := rfl
  have hnext : (s.norm_divider + 1).toNat = n % 10 + 1 := by
    rw [UInt32.toNat_add, hnorm, hone]
    exact Nat.mod_eq_of_lt (by omega)
  have hnext' : (s.slow_divider + 1).toNat = n / 10 % 10 + 1 := by
    rw [UInt32.toNat_add, hslow, hone]
    exact Nat.mod_eq_of_lt (by omega)
  have hten : (10 : UInt32).toNat = 10 := rfl
  simp only [dividedTicks, UInt32.le_iff_toNat_le, hnext, hnext', hten]
  by_cases h10 : 10 ≤ n % 10 + 1
  · rw [if_pos h10, if_pos (show (n + 1) % 10 = 0 by omega)]
    by_cases h100 : 10 ≤ n / 10 % 10 + 1
    · rw [if_pos h100, if_pos (show (n + 1) % 100 = 0 by omega)]
      refine ⟨?_, ?_, ?_⟩
      · exact (show (n + 1) % 10 = 0 by omega).symm
      · exact (show (n + 1) / 10 % 10 = 0 by omega).symm
      · simp only [List.append_assoc]
    · rw [if_neg h100, if_neg (show ¬(n + 1) % 100 = 0 by omega)]
      refine ⟨?_, ?_, ?_⟩
      · exact (show (n + 1) % 10 = 0 by omega).symm
      · exact hnext'.trans (by omega)
      · simp only [List.append_assoc, List.append_nil]
  · rw [if_neg h10, if_neg (show ¬(n + 1) % 10 = 0 by omega),
      if_neg (show ¬(n + 1) % 100 = 0 by omega), List.append_nil, List.append_nil]
    exact ⟨hnext.trans (by omega), hslow.trans (by omega), rfl⟩

/-- The divided tiers leave the times alone. -/
theorem dividedTicks_frame (isActive : C → Bool) (r : RateGroupExecutive C)
    (s : CooperativeLoop C) :
    (s.dividedTicks isActive r).metric_divider = s.metric_divider ∧
      (s.dividedTicks isActive r).fast_tick_wcet_us = s.fast_tick_wcet_us ∧
      (s.dividedTicks isActive r).loop_wcet_us = s.loop_wcet_us ∧
      (s.dividedTicks isActive r).loop_overruns = s.loop_overruns ∧
      (s.dividedTicks isActive r).reports = s.reports := by
  simp only [dividedTicks]
  split_ifs <;> exact ⟨rfl, rfl, rfl, rfl, rfl⟩

/-- A report covers passes that are there already. -/
theorem reportOf_concat (ps : List CooperativePass) (p : CooperativePass) {k : ℕ}
    (h : k < ps.length / 50) : reportOf (ps ++ [p]) k = reportOf ps k := by
  have hlast : 50 * (k + 1) ≤ ps.length := by omega
  unfold reportOf
  rw [List.drop_append_of_le_length (by omega), List.take_append_of_le_length (by
    rw [List.length_drop]
    omega), List.take_append_of_le_length hlast]

/-- Every fiftieth pass reports. -/
theorem report_spec {n : ℕ} (hmetric : s.metric_divider.toNat = n % 50) :
    s.report.metric_divider.toNat = (n + 1) % 50 ∧
      s.report.fast_tick_wcet_us = (if (n + 1) % 50 = 0 then 0 else s.fast_tick_wcet_us) ∧
      s.report.loop_wcet_us = (if (n + 1) % 50 = 0 then 0 else s.loop_wcet_us) ∧
      s.report.reports = s.reports ++ if (n + 1) % 50 = 0 then
        [⟨s.fast_tick_wcet_us, s.loop_wcet_us, s.loop_overruns⟩] else [] := by
  have hone : (1 : UInt32).toNat = 1 := rfl
  have hnext : (s.metric_divider + 1).toNat = n % 50 + 1 := by
    rw [UInt32.toNat_add, hmetric, hone]
    exact Nat.mod_eq_of_lt (by omega)
  have hfifty : METRIC_REPORT_DIVIDER.toNat = 50 := rfl
  simp only [report, UInt32.le_iff_toNat_le, hnext, hfifty]
  by_cases h : 50 ≤ n % 50 + 1
  · rw [if_pos h, if_pos (show (n + 1) % 50 = 0 by omega), if_pos (show (n + 1) % 50 = 0 by omega),
      if_pos (show (n + 1) % 50 = 0 by omega)]
    exact ⟨(show (n + 1) % 50 = 0 by omega).symm, rfl, rfl, rfl⟩
  · rw [if_neg h, if_neg (show ¬(n + 1) % 50 = 0 by omega),
      if_neg (show ¬(n + 1) % 50 = 0 by omega), if_neg (show ¬(n + 1) % 50 = 0 by omega),
      List.append_nil]
    exact ⟨hnext.trans (by omega), rfl, rfl, rfl⟩

/-- The longest time since the last report, with one more pass. -/
theorem wcet_since (elapsed : CooperativePass → UInt64) (ps : List CooperativePass)
    (p : CooperativePass) :
    wcet elapsed ((ps ++ [p]).drop (50 * ((ps.length + 1) / 50))) =
      if (ps.length + 1) % 50 = 0 then 0
      else wcet elapsed (ps.drop (50 * (ps.length / 50)) ++ [p]) := by
  by_cases h : (ps.length + 1) % 50 = 0
  · have hall : (ps ++ [p]).length ≤ 50 * ((ps.length + 1) / 50) := by
      rw [List.length_append, List.length_singleton]
      omega
    rw [if_pos h, List.drop_of_length_le hall]
    rfl
  · have hsame : (ps.length + 1) / 50 = ps.length / 50 := by omega
    rw [if_neg h, hsame, List.drop_append_of_le_length (by omega)]

/-- A pass leads to the state of the longer history. -/
theorem After.pass (h : After isActive r ps s) (p : CooperativePass) :
    After isActive r (ps ++ [p]) (s.pass isActive r p) := by
  have hlen : (ps ++ [p]).length = ps.length + 1 := by
    rw [List.length_append, List.length_singleton]
  obtain ⟨hnorm, hslow, hstepped⟩ := dividedTicks_spec isActive r
    (s.fastTick isActive r p) h.norm_divider h.slow_divider
  obtain ⟨hmetric, hfast, hloop, hover, hreports⟩ :=
    dividedTicks_frame isActive r (s.fastTick isActive r p)
  generalize hd : (s.fastTick isActive r p).dividedTicks isActive r = d at *
  obtain ⟨hmetric', hfast', hloop', hreports'⟩ := report_spec (s := d.measure p)
    ((congrArg UInt32.toNat hmetric).trans h.metric_divider)
  -- The longest times and the overruns as of this pass, before the report.
  have hfastNow : (d.measure p).fast_tick_wcet_us =
      wcet fast_elapsed_us (ps.drop (50 * (ps.length / 50)) ++ [p]) := by
    rw [wcet_concat, ← h.fast_wcet]
    exact hfast
  have hloopNow : (d.measure p).loop_wcet_us =
      wcet loop_elapsed_us (ps.drop (50 * (ps.length / 50)) ++ [p]) := by
    rw [wcet_concat, ← h.loop_wcet]
    exact congrArg (fun w => if w < p.loop_elapsed_us then p.loop_elapsed_us else w) hloop
  have hoverNow : (d.measure p).loop_overruns = UInt64.ofNat ((ps ++ [p]).countP Overruns) := by
    change (if FAST_PERIOD_US < p.loop_elapsed_us then d.loop_overruns + 1 else d.loop_overruns) = _
    rw [hover, List.countP_append, List.countP_singleton]
    change (if FAST_PERIOD_US < p.loop_elapsed_us then s.loop_overruns + 1 else s.loop_overruns) = _
    rw [h.overruns]
    by_cases hlong : FAST_PERIOD_US < p.loop_elapsed_us
    · rw [if_pos hlong, if_pos (show p.Overruns = true from decide_eq_true hlong),
        UInt64.ofNat_add]
      rfl
    · rw [if_neg hlong, if_neg (show ¬p.Overruns = true by simpa [Overruns] using hlong),
        Nat.add_zero]
  have hreport : (⟨(d.measure p).fast_tick_wcet_us, (d.measure p).loop_wcet_us,
      (d.measure p).loop_overruns⟩ : MetricReport) =
        ⟨wcet fast_elapsed_us (ps.drop (50 * (ps.length / 50)) ++ [p]),
          wcet loop_elapsed_us (ps.drop (50 * (ps.length / 50)) ++ [p]),
          UInt64.ofNat ((ps ++ [p]).countP Overruns)⟩ := by
    rw [hfastNow, hloopNow, hoverNow]
  have hpass : s.pass isActive r p = (d.measure p).report := by rw [← hd]; rfl
  rw [hpass]
  refine ⟨?_, ?_, ?_, ?_, ?_, ?_, ?_, ?_⟩
  · rw [hlen, ← hnorm]
    simp only [report]
    split_ifs <;> rfl
  · rw [hlen, ← hslow]
    simp only [report]
    split_ifs <;> rfl
  · rw [hlen, hmetric']
  · rw [hlen, hfast', hfastNow, wcet_since]
  · rw [hlen, hloop', hloopNow, wcet_since]
  · rw [← hoverNow]
    simp only [report]
    split_ifs <;> rfl
  · have hsame : (d.measure p).report.stepped = d.stepped := by
      simp only [report]
      split_ifs <;> rfl
    rw [hsame, hstepped, hlen, List.range_succ, List.flatMap_append, List.flatMap_singleton,
      ← h.stepped, scheduled]
    simp only [fastTick, List.append_assoc]
  · have hold : (List.range (ps.length / 50)).map (reportOf (ps ++ [p])) = s.reports := by
      rw [h.reports]
      exact List.map_congr_left fun k hk => reportOf_concat ps p (List.mem_range.mp hk)
    rw [hreports', hlen]
    change d.reports ++ _ = _
    rw [hreports, hreport]
    change s.reports ++ _ = _
    by_cases hfull : (ps.length + 1) % 50 = 0
    · -- The report is the one of the fifty passes that end here.
      have hdiv : (ps.length + 1) / 50 = ps.length / 50 + 1 := by omega
      rw [if_pos hfull, hdiv, List.range_succ, List.map_append, hold, List.map_singleton, reportOf,
        List.drop_append_of_le_length (by omega),
        List.take_of_length_le (by
          rw [List.length_append, List.length_drop, List.length_singleton]
          omega),
        List.take_of_length_le (by
          rw [List.length_append, List.length_singleton]
          omega)]
    · have hdiv : (ps.length + 1) / 50 = ps.length / 50 := by omega
      rw [if_neg hfull, hdiv, hold, List.append_nil]

/-- What a run of the cooperative loop leaves is what `After` says. -/
theorem run_after (isActive : C → Bool) (r : RateGroupExecutive C) (ps : List CooperativePass) :
    After isActive r ps (run (CooperativeLoop.pass isActive r) start ps) := by
  induction ps using List.reverseRecOn with
  | nil => exact ⟨rfl, rfl, rfl, rfl, rfl, rfl, rfl, rfl⟩
  | append_singleton ps p ih =>
    rw [run_concat]
    exact ih.pass p

/-- How often the scheduled passes step a component. -/
theorem count_scheduled [DecidableEq C] (isActive : C → Bool) (r : RateGroupExecutive C) (n : ℕ)
    (c : C) : ((List.range n).flatMap fun k => scheduled isActive r (k + 1)).count c =
      n * (r.fast_.tick isActive).count c + n / 10 * (r.norm_.tick isActive).count c +
        n / 100 * (r.slow_.tick isActive).count c + n / 10 * r.active_.count c := by
  induction n with
  | zero => simp
  | succ n ih =>
    rw [List.range_succ, List.flatMap_append, List.count_append, ih, List.flatMap_singleton,
      scheduled, List.count_append, List.count_append]
    by_cases h10 : (n + 1) % 10 = 0
    · have hdiv : (n + 1) / 10 = n / 10 + 1 := by omega
      rw [if_pos h10, List.count_append, hdiv]
      by_cases h100 : (n + 1) % 100 = 0
      · have hdiv' : (n + 1) / 100 = n / 100 + 1 := by omega
        rw [if_pos h100, hdiv']
        ring
      · have hdiv' : (n + 1) / 100 = n / 100 := by omega
        rw [if_neg h100, hdiv', List.count_nil]
        ring
    · have hdiv : (n + 1) / 10 = n / 10 := by omega
      have hdiv' : (n + 1) / 100 = n / 100 := by omega
      rw [if_neg h10, if_neg (show ¬(n + 1) % 100 = 0 by omega), hdiv, hdiv', List.count_nil]
      ring

end CooperativeLoop

/-! ## Registered components -/

namespace RateGroupExecutive

variable {C : Type} [DecidableEq C] {isActive : C → Bool} {r : RateGroupExecutive C} {c : C}

/-- How often a tick steps a component of its tier. -/
theorem count_tick (isActive : C → Bool) (t : RateTier C) (c : C) :
    (t.tick isActive).count c = if isActive c then 0 else t.comps.count c := by
  unfold RateTier.tick
  split_ifs with h
  · exact List.count_eq_zero_of_not_mem fun hmem => by
      simpa [h] using (List.mem_filter.mp hmem).2
  · exact List.count_filter (by simpa using h)

/-- When each list is stepped a number of times, and no component is in two places, each component
is stepped as often as its list. -/
theorem stepped_of_nodup (isActive : C → Bool) (h : r.all.Nodup) (fast norm slow active : ℕ) (c : C) :
    let steps := fast * (r.fast_.tick isActive).count c + norm * (r.norm_.tick isActive).count c +
      slow * (r.slow_.tick isActive).count c + active * r.active_.count c
    (c ∈ r.fast_.comps → steps = if isActive c then 0 else fast) ∧
      (c ∈ r.norm_.comps → steps = if isActive c then 0 else norm) ∧
      (c ∈ r.slow_.comps → steps = if isActive c then 0 else slow) ∧
      (c ∈ r.active_ → steps = active) ∧ (c ∉ r.all → steps = 0) := by
  intro steps
  -- The component is counted at most once in all lists together.
  have hle : r.fast_.comps.count c + r.norm_.comps.count c + r.slow_.comps.count c +
      r.active_.count c = r.all.count c := by
    unfold all
    rw [List.count_append, List.count_append, List.count_append]
  have hone := List.nodup_iff_count_le_one.mp h c
  have hsteps : steps = (if isActive c then 0 else fast * r.fast_.comps.count c) +
      (if isActive c then 0 else norm * r.norm_.comps.count c) +
      (if isActive c then 0 else slow * r.slow_.comps.count c) + active * r.active_.count c := by
    simp only [steps, count_tick, mul_ite, Nat.mul_zero]
  rw [hsteps]
  refine ⟨fun hc => ?_, fun hc => ?_, fun hc => ?_, fun hc => ?_, fun hc => ?_⟩
  · have hpos := List.count_pos_iff.mpr hc
    rw [show r.fast_.comps.count c = 1 by omega, show r.norm_.comps.count c = 0 by omega,
      show r.slow_.comps.count c = 0 by omega, show r.active_.count c = 0 by omega]
    split_ifs <;> omega
  · have hpos := List.count_pos_iff.mpr hc
    rw [show r.fast_.comps.count c = 0 by omega, show r.norm_.comps.count c = 1 by omega,
      show r.slow_.comps.count c = 0 by omega, show r.active_.count c = 0 by omega]
    split_ifs <;> omega
  · have hpos := List.count_pos_iff.mpr hc
    rw [show r.fast_.comps.count c = 0 by omega, show r.norm_.comps.count c = 0 by omega,
      show r.slow_.comps.count c = 1 by omega, show r.active_.count c = 0 by omega]
    split_ifs <;> omega
  · have hpos := List.count_pos_iff.mpr hc
    rw [show r.fast_.comps.count c = 0 by omega, show r.norm_.comps.count c = 0 by omega,
      show r.slow_.comps.count c = 0 by omega, show r.active_.count c = 1 by omega]
    split_ifs <;> omega
  · have hzero := List.count_eq_zero_of_not_mem hc
    rw [show r.fast_.comps.count c = 0 by omega, show r.norm_.comps.count c = 0 by omega,
      show r.slow_.comps.count c = 0 by omega, show r.active_.count c = 0 by omega]
    split_ifs <;> omega

/-- No component is registered twice. -/
theorem nodup_run (isActive : C → Bool) (calls : List (Registration C)) :
    (run (register isActive) (create C) calls).all.Nodup :=
  run_invariant (nodup_register isActive) (show (create C).all.Nodup from List.nodup_nil) calls

/-- The list of components with threads holds nothing else. -/
theorem isActive_of_mem_run (isActive : C → Bool) (calls : List (Registration C)) :
    ∀ c ∈ (run (register isActive) (create C) calls).active_, isActive c = true := by
  have hinit : ∀ c ∈ (create C).active_, isActive c = true := fun c hc => by cases hc
  have hstep (r : RateGroupExecutive C) (call : Registration C)
      (h : ∀ c ∈ r.active_, isActive c = true) :
      ∀ c ∈ (r.register isActive call).active_, isActive c = true := by
    by_cases hacc : ∃ c, r.Accepts isActive call c
    · obtain ⟨c, hacc⟩ := hacc
      have hlist := register_of_accepts hacc RgeList.active
      change (r.register isActive call).active_ = _ at hlist
      rw [hlist]
      split_ifs with htarget
      · intro c' hc'
        rcases List.mem_append.mp hc' with hold | hnew
        · exact h c' hold
        · -- Only a component with a thread is offered to the list.
          obtain rfl := List.mem_singleton.mp hnew
          obtain ⟨hcomp, -, -⟩ := hacc
          rcases call with c'' | c'' | c'' | c''
          · cases htarget
          · cases htarget
          · cases htarget
          · obtain rfl : c'' = some c' := hcomp
            by_contra hpassive
            simp [Registration.target, hpassive] at htarget
      · exact h
    · rwa [register_of_refused (not_exists.mp hacc)]
  exact run_invariant hstep hinit calls

end RateGroupExecutive

namespace CooperativeLoop

open CooperativePass RateGroupExecutive

variable {C : Type} [DecidableEq C]

/-- The embedded loop, for every history of registrations and any number of passes that take any
time. A component without a thread is stepped in every pass, in every tenth, or in every hundredth,
as its tier says; the components with threads are stepped in every tenth pass, unless they have been
registered in a tier, where they are never stepped. Each report shows the longest FAST tick and the
longest pass of the last fifty passes, and the number of overruns of all passes. -/
theorem cooperative_schedule (isActive : C → Bool) (calls : List (Registration C))
    (ps : List CooperativePass) :
    let r := run (register isActive) (create C) calls
    let s := run (CooperativeLoop.pass isActive r) start ps
    let n := ps.length
    (∀ c ∈ r.fast_.comps, s.stepped.count c = if isActive c then 0 else n) ∧
      (∀ c ∈ r.norm_.comps, s.stepped.count c = if isActive c then 0 else n / 10) ∧
      (∀ c ∈ r.slow_.comps, s.stepped.count c = if isActive c then 0 else n / 100) ∧
      (∀ c ∈ r.active_, s.stepped.count c = n / 10) ∧
      (∀ c ∉ r.all, s.stepped.count c = 0) ∧
      s.stepped = (List.range n).flatMap (fun k => scheduled isActive r (k + 1)) ∧
      s.reports = (List.range (n / 50)).map (reportOf ps) := by
  intro r s n
  have hafter : After isActive r ps s := run_after isActive r ps
  have hsteps := hafter.stepped
  have hcount (c : C) := stepped_of_nodup isActive (nodup_run isActive calls) n (n / 10) (n / 100)
    (n / 10) c
  simp only [← count_scheduled] at hcount
  rw [hsteps]
  exact ⟨fun c => (hcount c).1, fun c => (hcount c).2.1, fun c => (hcount c).2.2.1,
    fun c => (hcount c).2.2.2.1, fun c => (hcount c).2.2.2.2, rfl, hafter.reports⟩

end CooperativeLoop

/-! ## The host, pass by pass -/

namespace HostLoops

open RateGroupExecutive

variable {C : Type} {isActive : C → Bool} {r : RateGroupExecutive C}

/-- How many of the first `n` passes of the NORM thread tick the SLOW tier. -/
def slowPasses (n : ℕ) : ℕ := (List.range n).countP fun k => (k + 1) % 2^32 % 10 = 0

/-- While the counter does not wrap, every tenth pass does. -/
theorem slowPasses_eq {n : ℕ} (h : n < 2^32) : slowPasses n = n / 10 := by
  unfold slowPasses
  induction n with
  | zero => rfl
  | succ n ih =>
    rw [List.range_succ, List.countP_append, ih (by omega), List.countP_singleton,
      Nat.mod_eq_of_lt h]
    by_cases h10 : (n + 1) % 10 = 0
    · rw [if_pos (by simpa using h10)]
      omega
    · rw [if_neg (by simpa using h10)]
      omega

/-- What the counter shows after a number of passes of the NORM thread, and whether the SLOW tier
steps then. -/
theorem cycle_succ {cycle : UInt32} {n : ℕ} (h : cycle.toNat = n % 2^32) :
    (cycle + 1).toNat = (n + 1) % 2^32 ∧ ((cycle + 1) % 10 = 0 ↔ (n + 1) % 2^32 % 10 = 0) := by
  have hnext : (cycle + 1).toNat = (n + 1) % 2^32 := by
    have hone : (1 : UInt32).toNat = 1 := rfl
    rw [UInt32.toNat_add, h, hone]
    omega
  refine ⟨hnext, ?_⟩
  have hmod : ((cycle + 1) % 10).toNat = (cycle + 1).toNat % 10 := UInt32.toNat_mod ..
  rw [← hnext, ← hmod]
  exact ⟨fun h0 => by rw [h0]; rfl, fun h0 => UInt32.toNat_inj.mp h0⟩

/-- The counter and the steps after any passes. -/
theorem run_spec [DecidableEq C] (isActive : C → Bool) (r : RateGroupExecutive C)
    (ps : List HostPass) :
    let s := run (HostLoops.pass isActive r) start ps
    s.cycle.toNat = ps.count HostPass.norm % 2^32 ∧
      ∀ c, s.stepped.count c = ps.count HostPass.fast * (r.fast_.tick isActive).count c +
        ps.count HostPass.norm * (r.norm_.tick isActive).count c +
        slowPasses (ps.count HostPass.norm) * (r.slow_.tick isActive).count c := by
  intro s
  induction ps using List.reverseRecOn with
  | nil => exact ⟨rfl, fun c => by simp [s, slowPasses, start]⟩
  | append_singleton ps p ih =>
    obtain ⟨hcycle, hcount⟩ := ih
    simp only [s, run_concat]
    generalize run (HostLoops.pass isActive r) start ps = s' at hcycle hcount
    rw [List.count_append, List.count_append]
    cases p with
    | fast =>
      rw [show [HostPass.fast].count HostPass.fast = 1 from rfl,
        show [HostPass.fast].count HostPass.norm = 0 from rfl, Nat.add_zero]
      refine ⟨hcycle, fun c => ?_⟩
      change (s'.stepped ++ r.fast_.tick isActive).count c = _
      rw [List.count_append, hcount]
      ring
    | norm =>
      obtain ⟨hnext, hslow⟩ := cycle_succ hcycle
      rw [show [HostPass.norm].count HostPass.fast = 0 from rfl,
        show [HostPass.norm].count HostPass.norm = 1 from rfl, Nat.add_zero]
      refine ⟨hnext, fun c => ?_⟩
      -- The counter of the thread wraps at `2^32`, so the SLOW passes follow the remainder.
      have hmore : slowPasses (ps.count HostPass.norm + 1) = slowPasses (ps.count HostPass.norm) +
          if (ps.count HostPass.norm + 1) % 2^32 % 10 = 0 then 1 else 0 := by
        simp only [slowPasses, List.range_succ, List.countP_append, List.countP_singleton,
          decide_eq_true_eq]
      change (s'.stepped ++ r.norm_.tick isActive ++
        if (s'.cycle + 1) % 10 = 0 then r.slow_.tick isActive else []).count c = _
      rw [List.count_append, List.count_append, hcount, hmore]
      by_cases h : (s'.cycle + 1) % 10 = 0
      · rw [if_pos h, if_pos (hslow.mp h)]
        ring
      · rw [if_neg h, if_neg fun h' => h (hslow.mpr h'), List.count_nil]
        ring

/-- The threads of the host, for every history of registrations and passes of the two threads in any
order. A component is stepped in every pass of the thread of its tier, and a component of the SLOW
tier in every tenth pass of the NORM thread, as long as the counter has not wrapped; a component with
a thread of its own is stepped by neither. -/
theorem host_schedule [DecidableEq C] (isActive : C → Bool) (calls : List (Registration C))
    (ps : List HostPass) :
    let r := run (register isActive) (create C) calls
    let s := run (HostLoops.pass isActive r) start ps
    (∀ c ∈ r.fast_.comps,
        s.stepped.count c = if isActive c then 0 else ps.count HostPass.fast) ∧
      (∀ c ∈ r.norm_.comps,
        s.stepped.count c = if isActive c then 0 else ps.count HostPass.norm) ∧
      (∀ c ∈ r.slow_.comps, s.stepped.count c =
        if isActive c then 0 else slowPasses (ps.count HostPass.norm)) ∧
      (∀ c ∈ r.active_, s.stepped.count c = 0) ∧ (∀ c ∉ r.all, s.stepped.count c = 0) ∧
      (ps.count HostPass.norm < 2^32 →
        slowPasses (ps.count HostPass.norm) = ps.count HostPass.norm / 10) := by
  intro r s
  have hsteps (c : C) := (run_spec isActive r ps).2 c
  have hcount (c : C) := stepped_of_nodup isActive (nodup_run isActive calls)
    (ps.count HostPass.fast) (ps.count HostPass.norm) (slowPasses (ps.count HostPass.norm)) 0 c
  simp only [Nat.zero_mul, Nat.add_zero, ← run_spec isActive] at hcount
  exact ⟨fun c => (hcount c).1, fun c => (hcount c).2.1, fun c => (hcount c).2.2.1,
    fun c => (hcount c).2.2.2.1, fun c => (hcount c).2.2.2.2, slowPasses_eq⟩

/-- The passes of the two threads, ten FAST passes to a NORM pass, up to the given number of FAST
passes. -/
def nominal (n : ℕ) : List HostPass :=
  (List.range n).flatMap fun k =>
    HostPass.fast :: if (k + 1) % 10 = 0 then [HostPass.norm] else []

/-- One of ten passes of the nominal schedule is a NORM pass. -/
theorem count_norm_nominal (n : ℕ) : (nominal n).count HostPass.norm = n / 10 := by
  unfold nominal
  induction n with
  | zero => rfl
  | succ n ih =>
    rw [List.range_succ, List.flatMap_append, List.count_append, ih, List.flatMap_singleton]
    by_cases h : (n + 1) % 10 = 0
    · rw [if_pos h, show [HostPass.fast, HostPass.norm].count HostPass.norm = 1 from rfl]
      omega
    · rw [if_neg h, show [HostPass.fast].count HostPass.norm = 0 from rfl]
      omega

/-- The steps of the host on the nominal schedule. -/
theorem stepped_nominal [DecidableEq C] (isActive : C → Bool) (r : RateGroupExecutive C) {n : ℕ}
    (h : n / 10 < 2^32) : (run (HostLoops.pass isActive r) start (nominal n)).stepped =
      (List.range n).flatMap fun k => r.fast_.tick isActive ++
        (if (k + 1) % 10 = 0 then r.norm_.tick isActive else []) ++
        if (k + 1) % 100 = 0 then r.slow_.tick isActive else [] := by
  induction n with
  | zero => rfl
  | succ n ih =>
    have hcycle := (run_spec isActive r (nominal n)).1
    rw [count_norm_nominal] at hcycle
    have hnominal : nominal (n + 1) = nominal n ++
        (HostPass.fast :: if (n + 1) % 10 = 0 then [HostPass.norm] else []) := by
      unfold nominal
      rw [List.range_succ, List.flatMap_append, List.flatMap_singleton]
    rw [hnominal, run_append, List.range_succ, List.flatMap_append, ← ih (by omega),
      List.flatMap_singleton]
    generalize run (HostLoops.pass isActive r) start (nominal n) = s at hcycle
    by_cases h10 : (n + 1) % 10 = 0
    · obtain ⟨-, hslow⟩ := cycle_succ hcycle
      have hdiv : n / 10 + 1 = (n + 1) / 10 := by omega
      rw [hdiv, Nat.mod_eq_of_lt h] at hslow
      have hiff : (s.cycle + 1) % 10 = 0 ↔ (n + 1) % 100 = 0 := by
        rw [hslow]
        omega
      rw [if_pos h10, if_pos h10]
      simp only [run_cons, run_nil, HostLoops.pass, hiff, List.append_assoc]
    · rw [if_neg h10, if_neg h10, if_neg (show ¬(n + 1) % 100 = 0 by omega)]
      simp only [run_cons, run_nil, HostLoops.pass, List.append_nil]

/-- The embedded loop steps the components without threads as the threads of the host do when ten
passes of the FAST thread come to one of the NORM thread, in the same order, as long as the counter
of the host does not wrap. -/
theorem cooperative_refines_host [DecidableEq C] (isActive : C → Bool)
    (calls : List (Registration C)) (ps : List CooperativePass) (h : ps.length / 10 < 2^32) :
    let r := run (register isActive) (create C) calls
    (run (CooperativeLoop.pass isActive r) CooperativeLoop.start ps).stepped.filter
        (fun c => !isActive c) =
      (run (HostLoops.pass isActive r) start (nominal ps.length)).stepped := by
  intro r
  rw [(CooperativeLoop.run_after isActive r ps).stepped, stepped_nominal isActive r h,
    List.filter_flatMap]
  congr 1
  funext k
  have htick (t : RateTier C) : (t.tick isActive).filter (fun c => !isActive c) =
      t.tick isActive := by
    rw [RateTier.tick, List.filter_filter]
    simp only [Bool.and_self]
  have hactive : r.active_.filter (fun c => !isActive c) = [] :=
    List.filter_eq_nil_iff.mpr fun c hc => by simp [isActive_of_mem_run isActive calls c hc]
  -- Only the components with threads are stepped in addition.
  rw [CooperativeLoop.scheduled, List.filter_append, List.filter_append, htick]
  congr 1
  · split_ifs
    · rw [List.filter_append, htick, hactive, List.append_nil]
    · rfl
  · split_ifs
    · exact htick _
    · rfl

/-- Two hundred passes of the embedded loop, with a component of each tier and one with a thread. -/
theorem cooperative_refines_host_small :
    let calls := [Registration.registerFast (some 1), Registration.registerNorm (some 2),
      Registration.registerSlow (some 3), Registration.registerComponent (some 10)]
    let r := run (register fun c : ℕ => decide (10 ≤ c)) (create ℕ) calls
    (run (CooperativeLoop.pass (fun c => decide (10 ≤ c)) r) CooperativeLoop.start
      (List.replicate 200 default)).stepped.filter (fun c => !decide (10 ≤ c)) =
      (run (HostLoops.pass (fun c => decide (10 ≤ c)) r) start (nominal 200)).stepped := by
  have hlen : (List.replicate 200 (default : CooperativePass)).length / 10 < 2^32 := by
    rw [List.length_replicate]
    decide
  have h := cooperative_refines_host (fun c : ℕ => decide (10 ≤ c))
    [Registration.registerFast (some 1), Registration.registerNorm (some 2),
      Registration.registerSlow (some 3), Registration.registerComponent (some 10)]
    (List.replicate 200 default) hlen
  rwa [List.length_replicate] at h

end HostLoops

end DeltaV
