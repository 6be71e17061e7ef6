import DeltaV.Topology.Wiring

/-!
# Which topologies are completely installed

The tables of the watchdog, of the executive, and of the command hub refuse what does not fit, and
`verify` does not look at them. A topology is completely installed exactly when nothing is refused
(`installed_iff`): the components fit their lists, and every command that has a policy of its own is
the first with its key, while the others would be `OPERATIONAL` anyway.
-/

namespace DeltaV.Topology

/-! ## Components -/

/-- The room in a list of the executive. -/
def Tier.capacity : Tier → ℕ
  | active => RGE_MAX_ACTIVE
  | _ => RGE_MAX_PER_TIER

/-- The list that a component ends up in: a component that is declared active and has no thread goes
to the NORM tier. -/
def Instance.placed (activeClass : Text → Bool) (c : Instance) : Tier :=
  if c.tier = Tier.active ∧ activeClass c.cls = false then Tier.norm else c.tier

/-- The components fit the table of the watchdog and the lists of the executive. -/
structure Fits (activeClass : Text → Bool) (comps : List Instance) : Prop where
  supervised : comps.countP Instance.supervised ≤ MAX_MONITORED_SUBSYSTEMS
  placed : ∀ t, comps.countP (fun c => c.placed activeClass = t) ≤ t.capacity

/-- Some beginning of a list without repetitions has all its elements exactly when it is the whole
list. -/
theorem forall_mem_iff_of_sublist {α : Type} {l l' : List α} (hnodup : l.Nodup)
    (hsub : l'.Sublist l) : (∀ a ∈ l, a ∈ l') ↔ l.length ≤ l'.length := by
  constructor
  · intro h
    exact (hnodup.subperm h).length_le
  · intro h a ha
    rwa [hsub.eq_of_length_le h]

variable {topo : Topology} {comps : List Instance} {commands : List Command} {m : TopologyManager}

/-- Sorted by tier, a list is the same list in another order. -/
theorem byTier_perm {α : Type} (tier : α → Tier) (l : List α) :
    (l.filter (fun a => tier a = Tier.fast) ++ l.filter (fun a => tier a = Tier.norm) ++
      l.filter (fun a => tier a = Tier.slow) ++
      l.filter (fun a => tier a = Tier.active)).Perm l := by
  induction l with
  | nil => rfl
  | cons a l ih =>
    refine List.Perm.trans ?_ (ih.cons a)
    cases h : tier a with
    | fast => simp [h]
    | norm => simp [h]
    | slow =>
      have hmiddle := @List.perm_middle α a
        (l.filter (fun a => tier a = Tier.fast) ++ l.filter (fun a => tier a = Tier.norm))
        (l.filter (fun a => tier a = Tier.slow) ++ l.filter (fun a => tier a = Tier.active))
      simpa [h] using hmiddle
    | active =>
      have hmiddle := @List.perm_middle α a
        (l.filter (fun a => tier a = Tier.fast) ++ l.filter (fun a => tier a = Tier.norm) ++
          l.filter (fun a => tier a = Tier.slow))
        (l.filter (fun a => tier a = Tier.active))
      simpa [h] using hmiddle

/-- The components of the calls of `registerAll`, in their order. -/
def calledFor (comps : List Instance) : List Instance :=
  comps.filter (fun c => c.tier = Tier.fast) ++ comps.filter (fun c => c.tier = Tier.norm) ++
    comps.filter (fun c => c.tier = Tier.slow) ++ comps.filter (fun c => c.tier = Tier.active)

/-- The calls of `registerAll` in a rendered program. -/
theorem Rendered.registrations_eq (h : Rendered topo comps commands m) :
    m.registrations =
      ((comps.filter fun c => c.tier = Tier.fast).map fun c =>
          Registration.registerFast (some c.inst)) ++
        ((comps.filter fun c => c.tier = Tier.norm).map fun c =>
          Registration.registerNorm (some c.inst)) ++
        ((comps.filter fun c => c.tier = Tier.slow).map fun c =>
          Registration.registerSlow (some c.inst)) ++
        ((comps.filter fun c => c.tier = Tier.active).map fun c =>
          Registration.registerComponent (some c.inst)) := by
  have hm := congrArg TopologyManager.registrations h.eq
  simpa [TopologyManager.registrations, assemble, Lines.closed, Function.comp_def] using hm

/-- Every component is called for once, by its instance. -/
theorem Rendered.comp_registrations (h : Rendered topo comps commands m) :
    m.registrations.map Registration.comp = (calledFor comps).map fun c => some c.inst := by
  rw [h.registrations_eq]
  simp [calledFor, Registration.comp, Function.comp_def]

/-- Whether the component of an instance has a thread. -/
theorem isActive_inst (hnodup : (m.instances.map Instance.inst).Nodup) (activeClass : Text → Bool)
    {c : Instance} (hc : c ∈ m.instances) :
    m.isActive activeClass c.inst = activeClass c.cls := by
  rw [Bool.eq_iff_iff, TopologyManager.isActive, List.any_eq_true]
  constructor
  · rintro ⟨c', hc', h⟩
    obtain ⟨hinst, hclass⟩ := of_decide_eq_true h
    rwa [List.inj_on_of_nodup_map hnodup hc' hc hinst] at hclass
  · exact fun hclass => ⟨c, hc, decide_eq_true ⟨rfl, hclass⟩⟩

/-- A selector that maps the elements with a property selects them. -/
theorem filterMap_filter {α β : Type} (p q : α → Bool) (f : α → β) (g : α → Option β) (l : List α)
    (h : ∀ a ∈ l, g a = if p a then some (f a) else none) :
    (l.filter q).filterMap g = (l.filter fun a => q a && p a).map f := by
  induction l with
  | nil => rfl
  | cons a l ih =>
    obtain ⟨ha, hl⟩ := List.forall_mem_cons.mp h
    cases hq : q a <;> cases hp : p a <;> simp [hq, hp, ha, ih hl]

/-- What the calls of a rendered program offer to the lists of the executive. -/
theorem Rendered.offered (h : Rendered topo comps commands m)
    (hnodup : (m.instances.map Instance.inst).Nodup) (activeClass : Text → Bool) :
    let isActive := m.isActive activeClass
    let calls := m.registrations
    calls.filterMap Registration.fast =
        (comps.filter fun c => c.tier = Tier.fast).map Instance.inst ∧
      calls.filterMap (Registration.norm isActive) =
        (comps.filter fun c => c.tier = Tier.norm).map Instance.inst ++
          (comps.filter fun c => c.tier = Tier.active ∧ activeClass c.cls = false).map
            Instance.inst ∧
      calls.filterMap Registration.slow =
        (comps.filter fun c => c.tier = Tier.slow).map Instance.inst ∧
      calls.filterMap (Registration.active isActive) =
        (comps.filter fun c => c.tier = Tier.active ∧ activeClass c.cls = true).map
          Instance.inst := by
  intro isActive calls
  have hcalls : calls = _ := h.registrations_eq
  have hactive : ∀ c ∈ comps, isActive c.inst = activeClass c.cls := fun c hc =>
    isActive_inst hnodup activeClass (by rwa [h.instances_eq])
  rw [hcalls]
  refine ⟨?_, ?_, ?_, ?_⟩
  · simp [List.filterMap_map, Function.comp_def, Registration.fast]
  · have hpseudo := filterMap_filter (fun c => activeClass c.cls = false)
      (fun c => c.tier = Tier.active) Instance.inst
      (fun c => if isActive c.inst = true then none else some c.inst) comps
      (fun c hc => by rw [hactive c hc]; cases activeClass c.cls <;> rfl)
    simp only [Bool.decide_and] at hpseudo ⊢
    rw [← hpseudo]
    simp [List.filterMap_map, Function.comp_def, Registration.norm]
  · simp [List.filterMap_map, Function.comp_def, Registration.slow]
  · have hactual := filterMap_filter (fun c => activeClass c.cls = true)
      (fun c => c.tier = Tier.active) Instance.inst
      (fun c => if isActive c.inst = true then some c.inst else none) comps
      (fun c hc => by rw [hactive c hc]; cases activeClass c.cls <;> rfl)
    simp only [Bool.decide_and] at hactual ⊢
    rw [← hactual]
    simp [List.filterMap_map, Function.comp_def, Registration.active]

/-- Where a component is placed, tier by tier. -/
theorem Instance.placed_eq_iff (activeClass : Text → Bool) (c : Instance) :
    (c.placed activeClass = Tier.fast ↔ c.tier = Tier.fast) ∧
      (c.placed activeClass = Tier.norm ↔
        c.tier = Tier.norm ∨ c.tier = Tier.active ∧ activeClass c.cls = false) ∧
      (c.placed activeClass = Tier.slow ↔ c.tier = Tier.slow) ∧
      (c.placed activeClass = Tier.active ↔ c.tier = Tier.active ∧ activeClass c.cls = true) := by
  unfold placed
  cases c.tier <;> cases activeClass c.cls <;> simp

/-- Two selections that do not overlap are one selection, in another order. -/
theorem filter_append_filter_perm {α : Type} (p q : α → Bool) (l : List α)
    (h : ∀ a, p a = true → q a = false) :
    (l.filter p ++ l.filter q).Perm (l.filter fun a => p a || q a) := by
  induction l with
  | nil => rfl
  | cons a l ih =>
    cases hp : p a with
    | true => simpa [hp, h a hp] using ih
    | false =>
      cases hq : q a with
      | true =>
        simpa [hp, hq] using List.perm_middle.trans (ih.cons a)
      | false => simpa [hp, hq] using ih

/-- What `registerAll` offers to the executive, place by place, and what the executive keeps. -/
theorem Rendered.registerAll_all (h : Rendered topo comps commands m)
    (hnodup : (m.instances.map Instance.inst).Nodup) (activeClass : Text → Bool) :
    ∃ fast norm slow active : List Text,
      (m.registerAll activeClass).all = fast.take RGE_MAX_PER_TIER ++ norm.take RGE_MAX_PER_TIER ++
        slow.take RGE_MAX_PER_TIER ++ active.take RGE_MAX_ACTIVE ∧
      fast = (comps.filter fun c => c.placed activeClass = Tier.fast).map Instance.inst ∧
      norm.Perm ((comps.filter fun c => c.placed activeClass = Tier.norm).map Instance.inst) ∧
      slow = (comps.filter fun c => c.placed activeClass = Tier.slow).map Instance.inst ∧
      active = (comps.filter fun c => c.placed activeClass = Tier.active).map Instance.inst := by
  have hafter := RateGroupExecutive.run_registered (m.isActive activeClass) m.registrations
    (by
      intro call hcall hnone
      have hmem : call.comp ∈ m.registrations.map Registration.comp := List.mem_map_of_mem hcall
      rw [h.comp_registrations, hnone] at hmem
      obtain ⟨c, -, hc⟩ := List.mem_map.mp hmem
      cases hc)
    (by
      have hinst : (comps.map Instance.inst).Nodup := by rwa [← h.instances_eq]
      have hsome := hinst.map (Option.some_injective Text)
      rw [List.map_map] at hsome
      have hcalled : (calledFor comps).Perm comps := byTier_perm Instance.tier comps
      rw [h.comp_registrations, (hcalled.map _).nodup_iff]
      exact hsome)
  obtain ⟨hfast, hnorm, hslow, hactive⟩ := h.offered hnodup activeClass
  have hplaced := Instance.placed_eq_iff activeClass
  have hplace : ∀ t (p : Instance → Bool),
      (∀ c : Instance, c.placed activeClass = t ↔ p c = true) →
        comps.filter p = comps.filter fun c => c.placed activeClass = t := fun t p hp =>
    List.filter_congr fun c _ => by rw [Bool.eq_iff_iff, ← hp c, decide_eq_true_iff]
  refine ⟨m.registrations.filterMap Registration.fast,
    m.registrations.filterMap (Registration.norm (m.isActive activeClass)),
    m.registrations.filterMap Registration.slow,
    m.registrations.filterMap (Registration.active (m.isActive activeClass)), ?_, ?_, ?_, ?_, ?_⟩
  · rw [← hafter.fast_eq, ← hafter.norm_eq, ← hafter.slow_eq, ← hafter.active_eq]
    rfl
  · rw [hfast, hplace Tier.fast _ fun c => by simp [(hplaced c).1]]
  · -- The NORM tier is offered its own components and then those without the thread they declare.
    rw [hnorm, ← List.map_append, ← hplace Tier.norm
      (fun c => decide (c.tier = Tier.norm) ||
        decide (c.tier = Tier.active ∧ activeClass c.cls = false))
      fun c => by simp [(hplaced c).2.1]]
    refine (filter_append_filter_perm _ _ comps fun c hc => ?_).map _
    have hc' : c.tier = Tier.norm := of_decide_eq_true hc
    simp [hc']
  · rw [hslow, hplace Tier.slow _ fun c => by simp [(hplaced c).2.2.1]]
  · rw [hactive, hplace Tier.active _ fun c => by simp [(hplaced c).2.2.2]]

/-- Every component is in exactly one list of the executive exactly when the lists have room. -/
theorem Rendered.registered_iff (h : Rendered topo comps commands m)
    (hnodup : (m.instances.map Instance.inst).Nodup) (activeClass : Text → Bool) :
    (∀ c ∈ m.instances, (m.registerAll activeClass).all.count c.inst = 1) ↔
      ∀ t, comps.countP (fun c => c.placed activeClass = t) ≤ t.capacity := by
  have hinst : (comps.map Instance.inst).Nodup := by rwa [← h.instances_eq]
  obtain ⟨fast, norm, slow, active, hall, hfast, hnorm, hslow, hactive⟩ :=
    h.registerAll_all hnodup activeClass
  set r := m.registerAll activeClass with hr
  set offered := fast ++ norm ++ slow ++ active with hoffered
  -- Every component is offered to one list; a list takes as many as it has room for.
  have hperm : offered.Perm (comps.map Instance.inst) := by
    have hsorted := (byTier_perm (Instance.placed activeClass) comps).map Instance.inst
    rw [List.map_append, List.map_append, List.map_append, ← hfast, ← hslow, ← hactive] at hsorted
    exact (((hnorm.append_left _).append_right _).append_right _).trans hsorted
  have hoffnodup : offered.Nodup := hperm.nodup_iff.mpr hinst
  have hsub : r.all.Sublist offered := by
    rw [hall]
    exact (((List.take_sublist _ _).append (List.take_sublist _ _)).append
      (List.take_sublist _ _)).append (List.take_sublist _ _)
  have hlen : ∀ {l : List Text} {t},
      l.Perm ((comps.filter fun c => c.placed activeClass = t).map Instance.inst) →
        l.length = comps.countP fun c => c.placed activeClass = t := by
    intro l t hl
    rw [hl.length_eq, List.length_map, List.countP_eq_length_filter]
  have hlens := And.intro (hlen (.of_eq hfast)) (And.intro (hlen hnorm)
    (And.intro (hlen (.of_eq hslow)) (hlen (.of_eq hactive))))
  calc (∀ c ∈ m.instances, r.all.count c.inst = 1) ↔ ∀ a ∈ offered, a ∈ r.all := by
        rw [h.instances_eq]
        constructor
        · intro hcount a ha
          obtain ⟨c, hc, rfl⟩ := List.mem_map.mp (hperm.mem_iff.mp ha)
          exact List.count_pos_iff.mp (by rw [hcount c hc]; exact Nat.one_pos)
        · intro hmem c hc
          exact List.count_eq_one_of_mem (hoffnodup.sublist hsub)
            (hmem _ (hperm.mem_iff.mpr (List.mem_map_of_mem hc)))
    _ ↔ offered.length ≤ r.all.length := forall_mem_iff_of_sublist hoffnodup hsub
    _ ↔ ∀ t, comps.countP (fun c => c.placed activeClass = t) ≤ t.capacity := by
        simp only [hall, hoffered, List.length_append, List.length_take, hlens]
        constructor
        · intro hle t
          cases t <;> simp only [Tier.capacity] <;> omega
        · intro ht
          have h1 := ht Tier.fast
          have h2 := ht Tier.norm
          have h3 := ht Tier.slow
          have h4 := ht Tier.active
          simp only [Tier.capacity] at h1 h2 h3 h4
          omega

/-- Every supervised component is in the table of the watchdog exactly when the table has room. -/
theorem Rendered.monitored_iff (h : Rendered topo comps commands m)
    (hnodup : (m.instances.map Instance.inst).Nodup) :
    (∀ c ∈ m.instances, c.inst ∉ UNSUPERVISED → c.inst ∈ m.start.monitored_systems) ↔
      comps.countP Instance.supervised ≤ MAX_MONITORED_SUBSYSTEMS := by
  have hfdir : m.reg_fdir = (comps.filter Instance.supervised).map Instance.inst :=
    congrArg TopologyManager.reg_fdir h.eq
  have htable : m.start.monitored_systems = m.reg_fdir.take MAX_MONITORED_SUBSYSTEMS := by
    rw [m.start_eq]
  have hfdirnodup : m.reg_fdir.Nodup := by
    rw [h.instances_eq] at hnodup
    rw [hfdir]
    exact hnodup.sublist (List.filter_sublist.map _)
  have hmem : (∀ c ∈ m.instances, c.inst ∉ UNSUPERVISED →
      c.inst ∈ m.reg_fdir.take MAX_MONITORED_SUBSYSTEMS) ↔
        ∀ a ∈ m.reg_fdir, a ∈ m.reg_fdir.take MAX_MONITORED_SUBSYSTEMS := by
    rw [h.instances_eq]
    constructor
    · intro hall a ha
      rw [hfdir] at ha
      obtain ⟨c, hc, rfl⟩ := List.mem_map.mp ha
      obtain ⟨hc, hsup⟩ := List.mem_filter.mp hc
      exact hall c hc (of_decide_eq_true hsup)
    · intro hall c hc hsup
      refine hall _ ?_
      rw [hfdir]
      exact List.mem_map_of_mem (List.mem_filter.mpr ⟨hc, decide_eq_true hsup⟩)
  rw [htable, hmem, forall_mem_iff_of_sublist hfdirnodup (List.take_sublist _ _), hfdir,
    List.length_take, List.length_map, List.countP_eq_length_filter]
  omega

/-! ## Commands -/

/-- The key of a policy: the numbers as the hub takes them. -/
def Command.key (cmd : Command) : UInt32 × UInt32 :=
  (UInt32.ofInt cmd.target_id, UInt32.ofInt cmd.opcode)

/-- The keys that the hub keeps a policy for: the first different ones with a target. -/
def policyKeys (commands : List Command) : List (UInt32 × UInt32) :=
  FirstWins.firstKeys MAX_COMMAND_POLICIES ((commands.map Command.key).filter fun k => k.1 ≠ 0)

/-- A command gets the class it declares: it is the first with its key, or declares the class of the
first, if the hub keeps a policy for the key, and declares `OPERATIONAL` if not. -/
def Classified (commands : List Command) (cmd : Command) : Prop :=
  if cmd.key ∈ policyKeys commands then
    ∀ first, commands.find? (fun c => c.key = cmd.key) = some first →
      first.op_class = cmd.op_class
  else cmd.op_class = ascii "OPERATIONAL"

/-- The policies that the statements of a rendered program register. -/
theorem Rendered.policies_eq (h : Rendered topo comps commands m) (hc : m.Compiles) :
    m.wiring.filterMap Stmt.asPolicy =
      (commands.filter fun cmd => cmd.key.1 ≠ 0).map fun cmd =>
        (cmd.key, (opClass cmd.op_class).getD OpClass.OPERATIONAL) := by
  have hpolicy := filterMap_filter (fun cmd : Command => cmd.key.1 ≠ 0) (fun _ => true)
    (fun cmd => (cmd.key, (opClass cmd.op_class).getD OpClass.OPERATIONAL))
    (fun cmd => (Stmt.policy cmd.target_id cmd.opcode cmd.op_class).asPolicy) commands
    (fun cmd hcmd => by
      have hmem : Stmt.policy cmd.target_id cmd.opcode cmd.op_class ∈ m.wiring := by
        rw [h.wiring_eq]
        simp only [List.mem_append, List.mem_map]
        exact .inl (.inl (.inr (.inl ⟨cmd, hcmd, rfl⟩)))
      obtain ⟨cls, hcls⟩ := Option.isSome_iff_exists.mp (hc.stmts _ hmem)
      by_cases h0 : cmd.key.1 = 0
      · rw [if_neg (by simpa using h0)]
        exact if_pos h0
      · have hsome : (Stmt.policy cmd.target_id cmd.opcode cmd.op_class).asPolicy =
            (opClass cmd.op_class).map fun cls => (cmd.key, cls) := if_neg h0
        rw [if_pos (by simpa using h0), hsome, hcls]
        rfl)
  rw [h.filterMap_wiring]
  simp only [List.filter_true, Bool.true_and] at hpolicy
  rw [hpolicy]
  simp [List.filterMap_cons, flatMap_nil, Stmt.asPolicy]

/-- The class that the hub finds for a declared command. -/
theorem Rendered.classify_eq (h : Rendered topo comps commands m) (hc : m.Compiles)
    (cmd : Command) (argument : Binary32) :
    m.start.cmd.hub.classifyCommand ⟨cmd.key.1, cmd.key.2, argument⟩ =
      if cmd.key ∈ policyKeys commands then
        ((commands.find? fun c => c.key = cmd.key).map fun first =>
          (opClass first.op_class).getD OpClass.OPERATIONAL).getD OpClass.OPERATIONAL
      else OpClass.OPERATIONAL := by
  have htable : m.start.cmd.hub.command_policies =
      FirstWins.insertAll MAX_COMMAND_POLICIES (m.wiring.filterMap Stmt.asPolicy) := by
    rw [m.start_eq, TopologyManager.wire, Program.policies_run]
    rfl
  have hkeys : FirstWins.firstKeys MAX_COMMAND_POLICIES
      ((m.wiring.filterMap Stmt.asPolicy).map Prod.fst) = policyKeys commands := by
    rw [h.policies_eq hc, List.map_map, policyKeys, List.filter_map]
    rfl
  have hlookup : m.start.cmd.hub.classifyCommand ⟨cmd.key.1, cmd.key.2, argument⟩ =
      (FirstWins.firstValue MAX_COMMAND_POLICIES (m.wiring.filterMap Stmt.asPolicy)
        cmd.key).getD OpClass.OPERATIONAL := by
    rw [CommandHub.classifyCommand, htable, FirstWins.lookup_insertAll]
  rw [hlookup, FirstWins.firstValue_eq, hkeys]
  by_cases hkey : cmd.key ∈ policyKeys commands
  · rw [if_pos hkey, if_pos hkey]
    -- A kept key has a target, so the first command with the key has a policy.
    have htarget : cmd.key.1 ≠ 0 := by
      have hmem := FirstWins.mem_of_mem_firstKeys hkey
      exact of_decide_eq_true (List.mem_filter.mp hmem).2
    have hfind : (m.wiring.filterMap Stmt.asPolicy).find? (fun e => e.1 = cmd.key) =
        (commands.find? fun c => c.key = cmd.key).map fun first =>
          (first.key, (opClass first.op_class).getD OpClass.OPERATIONAL) := by
      rw [h.policies_eq hc, List.find?_map, List.find?_filter]
      congr 2
      funext c
      by_cases hck : c.key = cmd.key
      · simp [hck, htarget]
      · simp [hck]
    rw [hfind, Option.map_map]
    rfl
  · rw [if_neg hkey, if_neg hkey]
    rfl

/-- The hub finds the class that a command declares exactly when the command is `Classified`. -/
theorem Rendered.classified_iff (h : Rendered topo comps commands m) (hc : m.Compiles)
    {cmd : Command} (hcmd : cmd ∈ commands) (argument : Binary32) :
    opClass cmd.op_class =
        some (m.start.cmd.hub.classifyCommand ⟨cmd.key.1, cmd.key.2, argument⟩) ↔
      Classified commands cmd := by
  rw [h.classify_eq hc, Classified]
  split_ifs with hkey
  · obtain ⟨first, hfirst⟩ := Option.isSome_iff_exists.mp
      (List.find?_isSome.mpr ⟨cmd, hcmd, decide_eq_true rfl⟩ :
        (commands.find? fun c => c.key = cmd.key).isSome = true)
    have hmem : Stmt.policy first.target_id first.opcode first.op_class ∈ m.wiring := by
      rw [h.wiring_eq]
      simp only [List.mem_append, List.mem_map]
      exact .inl (.inl (.inr (.inl ⟨first, List.mem_of_find?_eq_some hfirst, rfl⟩)))
    obtain ⟨cls, hcls⟩ := Option.isSome_iff_exists.mp (hc.stmts _ hmem)
    have hname := (opClass_eq_some_iff _ _).mp hcls
    rw [hfirst, Option.map_some, Option.getD_some, hcls, Option.getD_some, opClass_eq_some_iff,
      ← hname]
    exact ⟨fun heq first' hfirst' => by rw [← Option.some.inj hfirst', heq],
      fun hall => (hall first rfl).symm⟩
  · exact opClass_eq_some_iff _ _

/-! ## Complete installation -/

/-- After start-up, every supervised component is in the table of the watchdog, every component is
in exactly one list of the executive, and the hub classifies every command as declared. -/
structure Installed (activeClass : Text → Bool) (topo : Topology) (m : TopologyManager) :
    Prop where
  monitored : ∀ c ∈ m.instances, c.inst ∉ UNSUPERVISED → c.inst ∈ m.start.monitored_systems
  registered : ∀ c ∈ m.instances, (m.registerAll activeClass).all.count c.inst = 1
  classified : ∀ cmd ∈ topo.declared, ∀ argument : Binary32,
    opClass cmd.op_class = some (m.start.cmd.hub.classifyCommand
      ⟨UInt32.ofInt cmd.target_id, UInt32.ofInt cmd.opcode, argument⟩)

/-- A topology is completely installed exactly when its components fit the tables and its commands
get the classes they declare. -/
theorem installed_iff (hm : render_topo topo = some m) (hc : m.Compiles)
    (activeClass : Text → Bool) :
    Installed activeClass topo m ↔
      Fits activeClass m.instances ∧ ∀ cmd ∈ topo.declared, Classified topo.declared cmd := by
  obtain ⟨comps, commands, h⟩ := rendered_of_eq_some hm
  have hmonitored := h.monitored_iff hc.inst_nodup
  have hregistered := h.registered_iff hc.inst_nodup activeClass
  rw [h.declared_eq, h.instances_eq]
  rw [h.instances_eq] at hmonitored hregistered
  constructor
  · intro hinst
    have hmon := hinst.monitored
    have hreg := hinst.registered
    have hcls := hinst.classified
    rw [h.instances_eq] at hmon hreg
    rw [h.declared_eq] at hcls
    exact ⟨⟨hmonitored.mp hmon, hregistered.mp hreg⟩, fun cmd hcmd =>
      (h.classified_iff hc hcmd (Binary32.ofNat 0)).mp (hcls cmd hcmd _)⟩
  · rintro ⟨hfits, hcls⟩
    refine ⟨?_, ?_, ?_⟩
    · rw [h.instances_eq]
      exact hmonitored.mpr hfits.supervised
    · rw [h.instances_eq]
      exact hregistered.mpr hfits.placed
    · rw [h.declared_eq]
      exact fun cmd hcmd argument => (h.classified_iff hc hcmd argument).mpr (hcls cmd hcmd)

/-- The infrastructure with two application components and a command of each class. -/
def commanded : Topology :=
  { infrastructure with
    components := systemComponents ++
      [component 200 "BatterySystem" "PowerComponent" "battery" "Passive" "norm",
        component 400 "PayloadMonitor" "PayloadMonitorComponent" "payload_monitor" "Passive" "norm"]
    commands :=
      [⟨some (ascii "RESET_BATTERY"), some 200, some 1, some (ascii "HOUSEKEEPING")⟩,
        ⟨some (ascii "SET_DRAIN_RATE"), some 200, some 2, some (ascii "OPERATIONAL")⟩,
        ⟨some (ascii "PAYLOAD_CAPTURE_SAMPLE"), some 400, some 2, some (ascii "RESTRICTED")⟩] }

/-- It is completely installed. -/
theorem installed_iff_commanded : ∃ m, render_topo commanded = some m ∧ m.Compiles ∧
    Installed (fun cls => cls = ascii "TelemetryBridge") commanded m := by
  obtain ⟨m, hm, hc, hsup, hplaced⟩ : ∃ m, render_topo commanded = some m ∧ m.Compiles ∧
      m.instances.countP Instance.supervised ≤ MAX_MONITORED_SUBSYSTEMS ∧
      ∀ t ∈ [Tier.fast, Tier.norm, Tier.slow, Tier.active], m.instances.countP
        (fun c => c.placed (fun cls => cls = ascii "TelemetryBridge") = t) ≤ t.capacity :=
    ⟨(render_topo commanded).get (by decide +kernel), by decide +kernel, by decide +kernel,
      by decide +kernel, by decide +kernel⟩
  have hkept : ∀ cmd ∈ commanded.declared, cmd.key ∈ policyKeys commanded.declared := by
    decide +kernel
  have hclass : ∀ a ∈ commanded.declared, ∀ b ∈ commanded.declared, a.key = b.key →
      a.op_class = b.op_class := by
    decide +kernel
  refine ⟨m, hm, hc, (installed_iff hm hc _).mpr
    ⟨⟨hsup, fun t => hplaced t ?_⟩, fun cmd hcmd => ?_⟩⟩
  · cases t <;> decide
  · rw [Classified, if_pos (hkept cmd hcmd)]
    intro first hfirst
    have hkey := List.find?_some hfirst
    exact hclass first (List.mem_of_find?_eq_some hfirst) cmd hcmd (of_decide_eq_true hkey)

/-- The infrastructure with 29 components of the same class. -/
def crowded : Topology :=
  { infrastructure with
    components := systemComponents ++ (List.range 29).map fun (k : ℕ) =>
      { component (100 + (k : ℤ)) "App" "SensorComponent" "app" "Passive" "slow" with
        inst := some (ascii "app_" ++ decimal k) } }

/-- A program that passes its own verification leaves a component out of the table of the
watchdog. -/
theorem crowded_not_supervised :
    validate crowded = [] ∧ ∃ m, render_topo crowded = some m ∧ m.Compiles ∧
      (∀ inst ∈ SYSTEM_INSTS, inst ∈ m.instances.map Instance.inst) ∧
      (m.verify m.start).1 = true ∧
      ∃ c ∈ m.instances, c.inst ∉ UNSUPERVISED ∧ c.inst ∉ m.start.monitored_systems := by
  refine ⟨by decide +kernel, (render_topo crowded).get (by decide +kernel), by decide +kernel,
    by decide +kernel, by decide +kernel, by decide +kernel, by decide +kernel⟩

end DeltaV.Topology
