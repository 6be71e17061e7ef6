import DeltaV.Topology.Wiring

/-!
# Which protected parameters are scrubbed

The generated program constructs a store for every parameter with `tmr: true`, and nothing that is
generated registers it. Only a line of custom wiring can, so the watchdog repairs exactly the stores
that custom wiring registers.
-/

namespace DeltaV.Topology

/-- The parameters whose stores a line of custom wiring registers. -/
def CustomWire.registers : CustomWire → List Text
  | registerWithFdir param _ => [param]
  | registerStore param => [param]
  | _ => []

instance : Nontrivial Binary32 := ⟨⟨0⟩, ⟨1⟩, by decide⟩

variable {topo : Topology} {comps : List Instance} {commands : List Command} {m : TopologyManager}

/-- No generated statement registers a store. -/
theorem Rendered.stores_eq (h : Rendered topo comps commands m) :
    m.wiring.filterMap Stmt.asStore =
      topo.custom_wiring.filterMap fun wire => (Stmt.custom wire).asStore := by
  rw [h.filterMap_wiring]
  simp [List.filterMap_cons, flatMap_nil, Stmt.asStore]

/-- A line of custom wiring registers the store that its selector gives. -/
theorem CustomWire.mem_registers_iff (wire : CustomWire) (param : Text) :
    param ∈ wire.registers ↔ ∃ label, (Stmt.custom wire).asStore = some (param, label) := by
  cases wire with
  | registerWithFdir p label => simp [registers, Stmt.asStore, eq_comm]
  | registerStore p => simp [registers, Stmt.asStore, eq_comm]
  | _ => simp [registers, Stmt.asStore]

/-- A line of custom wiring refers to the stores that it registers. -/
theorem CustomWire.mem_params_of_mem_registers {wire : CustomWire} {param : Text}
    (h : param ∈ wire.registers) : param ∈ wire.params := by
  cases wire <;> first | exact h | cases h

/-- The registry after start-up, as a table of registrations. -/
theorem Rendered.registry_start (h : Rendered topo comps commands m) :
    m.start.tmr.registry.entries = FirstWins.insertAll MAX_TMR_ENTRIES
      (topo.custom_wiring.filterMap fun wire => (Stmt.custom wire).asStore) := by
  rw [m.start_eq, TopologyManager.wire, Program.registry_run, h.stores_eq]
  rfl

/-- The registry holds a protected store exactly when custom wiring registers it. -/
theorem Rendered.mem_registry_iff (h : Rendered topo comps commands m) (hc : m.Compiles)
    (hcount : m.tmr_members.length ≤ MAX_TMR_ENTRIES) (param : Text) :
    param ∈ m.start.tmr.registry.entries.keys ↔
      ∃ wire ∈ topo.custom_wiring, param ∈ wire.registers := by
  have hmem : param ∈ (topo.custom_wiring.filterMap fun wire =>
      (Stmt.custom wire).asStore).map Prod.fst ↔
        ∃ wire ∈ topo.custom_wiring, param ∈ wire.registers := by
    simp only [List.mem_map, List.mem_filterMap, CustomWire.mem_registers_iff]
    constructor
    · rintro ⟨⟨p, label⟩, ⟨wire, hwire, hstore⟩, rfl⟩
      exact ⟨wire, hwire, label, hstore⟩
    · rintro ⟨wire, hwire, label, hstore⟩
      exact ⟨(param, label), ⟨wire, hwire, hstore⟩, rfl⟩
  rw [h.registry_start, ← hmem]
  refine ⟨FirstWins.mem_of_mem_keys_insertAll, FirstWins.mem_keys_insertAll ?_
    (by rwa [List.length_map] : (m.tmr_members.map TmrMember.name).length ≤ _)⟩
  -- A registration that compiles names a member.
  rintro ⟨p, label⟩ he
  obtain ⟨wire, hwire, hstore⟩ := List.mem_filterMap.mp he
  exact (h.custom_compiles hc hwire).2 p (CustomWire.mem_params_of_mem_registers
    ((wire.mem_registers_iff p).mpr ⟨label, hstore⟩))

/-- A protected store holds its default in all copies after start-up. -/
theorem Rendered.masks_start (h : Rendered topo comps commands m) (hc : m.Compiles) {p : ParamDecl}
    (hp : p ∈ topo.params) (htmr : p.tmr = true) {name : Text} (hname : p.name = some name) :
    TmrStore.Masks none (p.default.getD (Binary32.ofNat 0)) (m.start.tmr.stores name) := by
  have hmember : (⟨name, p.default.getD (Binary32.ofNat 0)⟩ : TmrMember) ∈ m.tmr_members := by
    have hmem : some (⟨name, p.default.getD (Binary32.ofNat 0)⟩ : TmrMember) ∈
        m.tmr_members.map some := by
      rw [← h.tmr_eq]
      refine List.mem_map.mpr ⟨p, List.mem_filter.mpr ⟨hp, htmr⟩, ?_⟩
      unfold resolveParam
      rw [hname]
      rfl
    obtain ⟨p', hp', heq⟩ := List.mem_map.mp hmem
    rwa [← Option.some.inj heq]
  have hvalue : m.initialValue name = p.default.getD (Binary32.ofNat 0) := by
    unfold TopologyManager.initialValue
    rw [find?_of_mem_nodup hc.tmr_nodup hmember]
  intro i _
  rw [m.start_eq, TopologyManager.wire, Program.copies_run, ← hvalue]
  exact TmrStore.copy_create _ _ _

/-- The watchdog scrubs a protected parameter exactly when custom wiring registers its store: then
and only then the registry holds the store after start-up, and every later scrub cycle repairs
it. -/
theorem scrubbed_iff (hm : render_topo topo = some m) (hc : m.Compiles)
    (hcount : (topo.params.filter ParamDecl.tmr).length ≤ MAX_TMR_ENTRIES) (p : ParamDecl)
    (hp : p ∈ topo.params) (htmr : p.tmr = true) (name : Text) (hname : p.name = some name) :
    (name ∈ m.start.tmr.registry.entries.keys ∧
        m.start.tmr.Repaired name (p.default.getD (Binary32.ofNat 0))) ↔
      ∃ wire ∈ topo.custom_wiring, name ∈ wire.registers := by
  obtain ⟨comps, commands, h⟩ := rendered_of_eq_some hm
  have hlen : m.tmr_members.length ≤ MAX_TMR_ENTRIES := by
    have heq := congrArg List.length h.tmr_eq
    rw [List.length_map, List.length_map] at heq
    rwa [← heq]
  rw [TmrSystem.repaired_iff _ _ (h.masks_start hc hp htmr hname), and_self]
  exact h.mem_registry_iff hc hlen name

/-- With a line of custom wiring that registers it, the threshold for the safe mode is scrubbed. -/
theorem scrubbed_iff_registered :
    let topo := { infrastructure with
      custom_wiring := systemWiring ++ [CustomWire.registerStore (ascii "safe_mode_battery_pct")] }
    ∃ m, render_topo topo = some m ∧ m.Compiles ∧
      ascii "safe_mode_battery_pct" ∈ m.start.tmr.registry.entries.keys ∧
      m.start.tmr.Repaired (ascii "safe_mode_battery_pct") (Binary32.ofNat 5) := by
  intro topo
  obtain ⟨m, hm, hc⟩ : ∃ m, render_topo topo = some m ∧ m.Compiles :=
    ⟨(render_topo topo).get (by decide +kernel), by decide +kernel, by decide +kernel⟩
  refine ⟨m, hm, hc, (scrubbed_iff hm hc (by decide)
    ⟨some (ascii "safe_mode_battery_pct"), some (Binary32.ofNat 5), true⟩ (by decide) rfl _
    rfl).mpr ⟨CustomWire.registerStore (ascii "safe_mode_battery_pct"), by decide, by decide⟩⟩

/-- The blueprint's threshold for the safe mode is in a store that the watchdog never repairs, in a
program that passes its own verification. -/
theorem threshold_not_scrubbed :
    validate infrastructure = [] ∧ ∃ m, render_topo infrastructure = some m ∧ m.Compiles ∧
      (infrastructure.params.filter ParamDecl.tmr).length ≤ MAX_TMR_ENTRIES ∧
      (m.verify m.start).1 = true ∧
      ascii "safe_mode_battery_pct" ∉ m.start.tmr.registry.entries.keys ∧
      ¬m.start.tmr.Repaired (ascii "safe_mode_battery_pct") (Binary32.ofNat 5) := by
  obtain ⟨m, hm, hc, hverify⟩ : ∃ m, render_topo infrastructure = some m ∧ m.Compiles ∧
      (m.verify m.start).1 = true :=
    ⟨(render_topo infrastructure).get (by decide +kernel), by decide +kernel, by decide +kernel,
      by decide +kernel⟩
  obtain ⟨comps, commands, h⟩ := rendered_of_eq_some hm
  have hcount : m.tmr_members.length ≤ MAX_TMR_ENTRIES := by
    have hlen := congrArg List.length h.tmr_eq
    rw [List.length_map, List.length_map] at hlen
    rw [← hlen]
    decide
  have hunregistered : ascii "safe_mode_battery_pct" ∉ m.start.tmr.registry.entries.keys := by
    rw [h.mem_registry_iff hc hcount]
    decide
  have hmasks := h.masks_start hc
    (p := ⟨some (ascii "safe_mode_battery_pct"), some (Binary32.ofNat 5), true⟩) (by decide) rfl rfl
  refine ⟨by decide +kernel, m, hm, hc, by decide, hverify, hunregistered, fun hrepaired => ?_⟩
  exact hunregistered ((TmrSystem.repaired_iff _ _ hmasks).mp hrepaired)

end DeltaV.Topology
