import DeltaV.Topology.StandardApps

/-!
# What the installation of the standard apps does

One lemma for each pass says what it may do: a component, a command, or a line that is there is left
alone, and any other is added with a number, an instance, and an opcode that are free. From these,
the loops extend the topology at the end of its lists and keep it accepted. What they leave is
`AppsInstalled`, and an installed topology is not changed again (`install_of_installed`).
-/

namespace DeltaV.Topology

/-! ## Components -/

/-- A number that no component has is found at once. -/
theorem next_component_id_spec (topo : TopologyFile) :
    ∃ id, id ∉ topo.component_ids ∧ ∀ passes, next_component_id passes topo = Except.ok id := by
  unfold next_component_id
  have hfree : ∀ candidate, candidate ∉ topo.component_ids → ∀ passes,
      finished (whileIn topo.component_ids (· + 1) passes candidate) = Except.ok candidate := by
    intro candidate h passes
    rw [whileIn_of_not_mem h]
    rfl
  cases hmax : topo.component_ids.max? with
  | none =>
    have h : (100 : ℤ) ∉ topo.component_ids := by
      rw [List.max?_eq_none_iff.mp hmax]
      exact List.not_mem_nil
    exact ⟨100, h, hfree 100 h⟩
  | some m =>
    -- The successor of the greatest number is greater than all.
    have h : m + 1 ∉ topo.component_ids := by
      intro hmem
      have hle := (List.max?_eq_some_iff.mp hmax).2 (m + 1) hmem
      omega
    exact ⟨m + 1, h, hfree (m + 1) h⟩

/-- The number that a component gets is free, and it is the requested one if that is. -/
theorem assignId_spec (topo : TopologyFile) (comp : StandardComponent) :
    ∃ id notes, id ∉ topo.component_ids ∧
      ∀ passes, assignId passes topo comp = Except.ok (id, notes) := by
  unfold assignId
  by_cases huse : comp.id ∈ topo.component_ids
  · obtain ⟨id, hid, hnext⟩ := next_component_id_spec topo
    refine ⟨id, [idNote comp id], hid, fun passes => ?_⟩
    rw [if_pos huse, hnext passes]
    rfl
  · exact ⟨comp.id, [], huse, fun _ => if_neg huse⟩

/-- Appending a suffix any number of times leaves the name at the front. -/
theorem iterate_suffix (suffix inst : Text) (k : ℕ) :
    ∃ rest, (fun inst => inst ++ suffix)^[k] inst = inst ++ rest := by
  induction k with
  | zero => exact ⟨[], (List.append_nil _).symm⟩
  | succ k ih =>
    obtain ⟨rest, hrest⟩ := ih
    refine ⟨rest ++ suffix, ?_⟩
    rw [Function.iterate_succ_apply', hrest, List.append_assoc]

/-- What one pass of the loop over the components does. -/
inductive ComponentStep (s : Installation) (comp : StandardComponent) : Installation → Prop
  | present (hcls : some comp.cls ∈ s.topo.component_classes) (notes : List Text) :
    ComponentStep s comp { s with notes := notes }
  | added (hcls : some comp.cls ∉ s.topo.component_classes) (id : ℤ) (inst : Text)
    (hid : id ∉ s.topo.component_ids) (hinst : some inst ∉ s.topo.component_instances)
    (hne : inst ≠ []) (notes : List Text) :
    ComponentStep s comp
      { topo := { s.topo with
          components := s.topo.components ++ [({ comp with id := id, inst := inst }).decl] }
        changed := true
        notes := notes }

/-- A pass of the loop over the components does not fail. -/
theorem installComponent_spec (s : Installation) {comp : StandardComponent} (hne : comp.inst ≠ [])
    {bound : ℕ} (hbound : s.topo.components.length ≤ bound) :
    ∃ s', (∀ passes, bound ≤ passes → installComponent passes s comp = Except.ok s') ∧
      ComponentStep s comp s' := by
  by_cases hcls : some comp.cls ∈ s.topo.component_classes
  · exact ⟨_, fun _ _ => if_pos hcls, ComponentStep.present hcls _⟩
  obtain ⟨id, notes, hid, hassign⟩ := assignId_spec s.topo comp
  have hgrow : ∀ inst : Text, inst.length < (inst ++ ascii "_" ++ intText id).length := by
    intro inst
    have hone : (ascii "_").length = 1 := rfl
    rw [List.length_append, List.length_append, hone]
    omega
  -- The names that the loop tries get longer, and they start with the requested one.
  obtain ⟨k, hfree, hloop⟩ := exists_whileIn List.length _ hgrow
    (s.topo.component_instances.filterMap fun i => i) comp.inst
  have hlength : (s.topo.component_instances.filterMap fun i => i).length ≤ bound := by
    refine (List.length_filterMap_le _ _).trans ?_
    rwa [TopologyFile.component_instances, List.length_map]
  obtain ⟨rest, hrest⟩ := iterate_suffix (ascii "_" ++ intText id) comp.inst k
  simp only [← List.append_assoc] at hrest
  rw [hrest] at hfree hloop
  have hinst : some (comp.inst ++ rest) ∉ s.topo.component_instances := fun h =>
    hfree (List.mem_filterMap.mpr ⟨_, h, rfl⟩)
  have hentry : component_entry_error s.topo
      { comp with id := id, inst := comp.inst ++ rest } = none := by
    unfold component_entry_error
    rw [if_neg hid, if_neg hcls, if_neg hinst]
  refine ⟨_, fun passes hpasses => ?_, ComponentStep.added hcls id (comp.inst ++ rest) hid hinst
    (List.append_ne_nil_of_left_ne_nil hne _) (s.notes ++ notes ++ [componentNote comp id])⟩
  unfold installComponent
  rw [if_neg hcls, hassign passes]
  simp only [except_ok_bind, hloop passes (hlength.trans hpasses), finished, add_component_entry,
    hentry]

/-- The loop over the components has come past `done` and has added `added`. -/
structure ComponentsAdded (topo : TopologyFile) (done : List StandardComponent)
    (added : List ComponentDecl) (s : Installation) : Prop where
  topo_eq : s.topo = { topo with components := topo.components ++ added }
  complete : ∀ c ∈ added, c.Complete
  ids_nodup : s.topo.component_ids.Nodup
  insts_nodup : (added.map ComponentDecl.inst).Nodup
  inst_fresh : ∀ c ∈ added, c.inst ∉ topo.component_instances
  cls_fresh : ∀ c ∈ added, c.cls ∉ topo.component_classes
  present : ∀ comp ∈ done, some comp.cls ∈ s.topo.component_classes
  length_le : added.length ≤ done.length

/-- The texts of a component are not empty. -/
def StandardComponent.Named (comp : StandardComponent) : Prop :=
  comp.name ≠ [] ∧ comp.cls ≠ [] ∧ comp.inst ≠ []

/-- A text that is not empty is not falsy. -/
theorem falsy_some {t : Text} (h : t ≠ []) : falsy (some t) = false := by
  unfold falsy
  simp [h]

/-- What is there stays there, and what is added is there too. -/
theorem present_concat {α β γ : Type} {done : List α} {a : α} {key : α → γ} {l : List β} {b : β}
    {f : β → γ} (h : ∀ x ∈ done, key x ∈ l.map f) (hb : f b = key a) :
    ∀ x ∈ done ++ [a], key x ∈ (l ++ [b]).map f := by
  rw [List.map_append, List.forall_mem_append, List.forall_mem_singleton, List.map_singleton, hb]
  exact ⟨fun x hx => List.mem_append_left _ (h x hx),
    List.mem_append_right _ (List.mem_singleton_self _)⟩

/-- One step over a component keeps what the loop has added so far. -/
theorem ComponentsAdded.step {topo : TopologyFile} {done : List StandardComponent}
    {added : List ComponentDecl} {s s' : Installation} {comp : StandardComponent}
    (h : ComponentsAdded topo done added s) (hnamed : comp.Named)
    (hstep : ComponentStep s comp s') :
    ∃ added', ComponentsAdded topo (done ++ [comp]) added' s' := by
  have hlength := h.length_le
  cases hstep with
  | present hcls notes =>
    refine ⟨added, h.topo_eq, h.complete, h.ids_nodup, h.insts_nodup, h.inst_fresh, h.cls_fresh,
      ?_, by rw [List.length_append]; omega⟩
    rw [List.forall_mem_append, List.forall_mem_singleton]
    exact ⟨h.present, hcls⟩
  | added hcls id inst hid hinst hne notes =>
    -- The name and the instance are fresh for the topology and for what the loop has added.
    have hclasses : s.topo.component_classes =
        topo.component_classes ++ added.map ComponentDecl.cls := by
      rw [h.topo_eq]
      exact List.map_append
    have hinsts : s.topo.component_instances =
        topo.component_instances ++ added.map ComponentDecl.inst := by
      rw [h.topo_eq]
      exact List.map_append
    rw [hclasses, List.mem_append, not_or] at hcls
    rw [hinsts, List.mem_append, not_or] at hinst
    refine ⟨added ++ [({ comp with id := id, inst := inst } : StandardComponent).decl],
      { topo_eq := by simp only [h.topo_eq, List.append_assoc]
        complete := ?_
        ids_nodup := ?_
        insts_nodup := ?_
        inst_fresh := ?_
        cls_fresh := ?_
        present := present_concat h.present rfl
        length_le := ?_ }⟩
    · rw [List.forall_mem_append, List.forall_mem_singleton]
      exact ⟨h.complete, rfl, falsy_some hnamed.1, falsy_some hnamed.2.1, falsy_some hne⟩
    · show (List.filterMap ComponentDecl.id (s.topo.components ++ [_])).Nodup
      rw [List.filterMap_append, List.nodup_append_comm]
      exact List.nodup_cons.mpr ⟨hid, h.ids_nodup⟩
    · rw [List.map_append, List.nodup_append_comm]
      exact List.nodup_cons.mpr ⟨hinst.2, h.insts_nodup⟩
    · rw [List.forall_mem_append, List.forall_mem_singleton]
      exact ⟨h.inst_fresh, hinst.1⟩
    · rw [List.forall_mem_append, List.forall_mem_singleton]
      exact ⟨h.cls_fresh, hcls.1⟩
    · rw [List.length_append, List.length_append, List.length_singleton, List.length_singleton]
      omega

/-- The loop over the components. -/
theorem installComponents_spec (topo : TopologyFile) (hids : topo.component_ids.Nodup) :
    ∃ s, (∀ passes, topo.components.length + STANDARD_COMPONENTS.length ≤ passes →
        STANDARD_COMPONENTS.foldlM (installComponent passes) ⟨topo, false, []⟩ = Except.ok s) ∧
      ∃ added, ComponentsAdded topo STANDARD_COMPONENTS added s := by
  have hnamed : ∀ comp ∈ STANDARD_COMPONENTS, comp.Named := by
    unfold StandardComponent.Named
    decide +kernel
  have hstart : ComponentsAdded topo [] [] ⟨topo, false, []⟩ :=
    ⟨by simp, by simp, hids, List.nodup_nil, by simp, by simp, by simp, le_rfl⟩
  refine foldlM_spec (P := fun done s => ∃ added, ComponentsAdded topo done added s) ?_
    ⟨[], hstart⟩
  rintro done comp rest s htable ⟨added, h⟩
  have hcomp := hnamed comp (by rw [htable]; exact List.mem_append_cons_self)
  have hlength :
      s.topo.components.length ≤ topo.components.length + STANDARD_COMPONENTS.length := by
    have hle := h.length_le
    rw [h.topo_eq, htable]
    simp only [List.length_append, List.length_cons]
    omega
  obtain ⟨s', hok, hstep⟩ := installComponent_spec s hcomp.2.2 hlength
  exact ⟨s', hok, h.step hcomp hstep⟩

/-- More components of other numbers do not spoil a topology. -/
theorem ComponentsAdded.accepted {topo : TopologyFile} {done : List StandardComponent}
    {added : List ComponentDecl} {s : Installation} (h : ComponentsAdded topo done added s)
    (hvalid : topo.checked.Accepted) : s.topo.checked.Accepted := by
  have hids : ∀ id, id ∈ topo.component_ids → id ∈ s.topo.component_ids := by
    intro id hid
    rw [h.topo_eq]
    show id ∈ List.filterMap ComponentDecl.id (topo.components ++ added)
    rw [List.filterMap_append]
    exact List.mem_append_left _ hid
  have hcommands : s.topo.commands = topo.commands := by rw [h.topo_eq]
  refine ⟨?_, h.ids_nodup, ?_, ?_⟩
  · show ∀ c ∈ s.topo.components, c.Complete
    rw [h.topo_eq, List.forall_mem_append]
    exact ⟨hvalid.complete, h.complete⟩
  · intro cmd hcmd
    have hmem : cmd ∈ topo.checked.commands := by
      rw [TopologyFile.checked, hcommands] at hcmd
      exact hcmd
    obtain ⟨htarget, hop⟩ := hvalid.sound cmd hmem
    refine ⟨?_, hop⟩
    cases htid : cmd.target_id with
    | none => rw [htid] at htarget; cases htarget
    | some tid =>
      rw [htid] at htarget
      exact decide_eq_true (hids tid (of_decide_eq_true htarget))
  · show ((s.topo.commands.map CommandEntry.toCommandDecl).map _).Nodup
    rw [hcommands]
    exact hvalid.opcodes_nodup

/-! ## Commands -/

/-- A pair exists exactly when a command declares it. -/
theorem mem_existing_pairs {topo : TopologyFile} {target_id opcode : ℤ} :
    (target_id, opcode) ∈ topo.existing_pairs ↔
      ∃ c ∈ topo.commands, c.target_id = some target_id ∧ c.opcode = some opcode := by
  simp [TopologyFile.existing_pairs, List.mem_filterMap, Option.bind_eq_some_iff]

/-- Counting an opcode up leaves the target alone. -/
theorem iterate_opcode (target_id opcode : ℤ) (k : ℕ) :
    (fun p : ℤ × ℤ => (p.1, p.2 + 1))^[k] (target_id, opcode) = (target_id, opcode + k) := by
  induction k with
  | zero => simp
  | succ k ih =>
    rw [Function.iterate_succ_apply', ih]
    simp only [Nat.cast_add, Nat.cast_one, Prod.mk.injEq, true_and]
    ring

/-- What one pass of the loop over the commands does. -/
inductive CommandStep (s : Installation) (cmd : StandardCommand) : Installation → Prop
  | present (hname : some cmd.name ∈ s.topo.existing_cmd_names) (notes : List Text) :
    CommandStep s cmd { s with notes := notes }
  | added (hname : some cmd.name ∉ s.topo.existing_cmd_names) (opcode : ℤ)
    (hfree : (targetOf s.topo cmd, opcode) ∉ s.topo.existing_pairs)
    (hexact : (targetOf s.topo cmd, cmd.opcode) ∉ s.topo.existing_pairs → opcode = cmd.opcode)
    (notes : List Text) :
    CommandStep s cmd
      { topo := { s.topo with
          commands := s.topo.commands ++ [cmd.entry (targetOf s.topo cmd) opcode] }
        changed := true
        notes := notes }

/-- All components have numbers, and all commands have targets and opcodes. -/
structure Keyed (topo : TopologyFile) : Prop where
  ids : ∀ c ∈ topo.components, c.id.isSome
  targets : ∀ c ∈ topo.commands, c.target_id.isSome
  opcodes : ∀ c ∈ topo.commands, c.opcode.isSome

/-- A pass of the loop over the commands does not fail. -/
theorem installCommand_spec (s : Installation) {cmd : StandardCommand} (hkeyed : Keyed s.topo)
    (hop : cmd.op_class ∈ valid_op) (htarget : targetOf s.topo cmd ∈ s.topo.component_ids)
    {bound : ℕ} (hbound : s.topo.commands.length ≤ bound) :
    ∃ s', (∀ passes, bound ≤ passes → installCommand passes s cmd = Except.ok s') ∧
      CommandStep s cmd s' := by
  by_cases hname : some cmd.name ∈ s.topo.existing_cmd_names
  · exact ⟨_, fun _ _ => if_pos hname, CommandStep.present hname _⟩
  have hgrow : ∀ p : ℤ × ℤ, p.2 < p.2 + 1 := fun p => by omega
  obtain ⟨k, hfree, hloop⟩ := exists_whileIn Prod.snd (fun p : ℤ × ℤ => (p.1, p.2 + 1)) hgrow
    s.topo.existing_pairs (targetOf s.topo cmd, cmd.opcode)
  rw [iterate_opcode] at hfree hloop
  have hlength : s.topo.existing_pairs.length ≤ bound := (List.length_filterMap_le _ _).trans hbound
  -- A loop whose first value is free makes no pass.
  have hexact : (targetOf s.topo cmd, cmd.opcode) ∉ s.topo.existing_pairs →
      cmd.opcode + k = cmd.opcode := by
    intro h
    have heq := hloop _ le_rfl
    rw [whileIn_of_not_mem h, Option.some.injEq, Prod.mk.injEq] at heq
    exact heq.2.symm
  have hnone : ∀ {α : Type} {l : List α} {key : α → Option ℤ}, (∀ c ∈ l, (key c).isSome) →
      ¬∃ c ∈ l, key c = none := by
    rintro α l key h ⟨c, hc, hkey⟩
    have hsome := h c hc
    rw [hkey] at hsome
    cases hsome
  have hentry : command_entry_error s.topo (targetOf s.topo cmd) (cmd.opcode + k) cmd.op_class =
      Except.ok none := by
    unfold command_entry_error
    rw [if_neg (not_not_intro hop), if_neg (hnone hkeyed.ids), if_neg (not_not_intro htarget),
      if_neg (hnone hkeyed.targets), if_neg (hnone hkeyed.opcodes), if_neg hfree]
  refine ⟨_, fun passes hpasses => ?_, CommandStep.added hname (cmd.opcode + k) hfree hexact
    (s.notes ++ [commandNote cmd (targetOf s.topo cmd) (cmd.opcode + k)])⟩
  unfold installCommand
  rw [if_neg hname]
  simp only [hloop passes (hlength.trans hpasses), finished, except_ok_bind, add_command_entry,
    hentry]

/-! ## The component of a class -/

/-- The number of a class that is present is that of one of its components. -/
theorem class_to_id_spec {topo : TopologyFile} {cls : Text}
    (hids : ∀ c ∈ topo.components, c.id.isSome) (h : some cls ∈ topo.component_classes) :
    ∃ c ∈ topo.components, ∃ id, c.cls = some cls ∧ c.id = some id ∧
      topo.class_to_id cls = some id := by
  obtain ⟨c, hc, hcls⟩ := List.mem_map.mp h
  obtain ⟨id, hid⟩ := Option.isSome_iff_exists.mp (hids c hc)
  have hmem : id ∈ topo.components.filterMap fun c => if c.cls = some cls then c.id else none :=
    List.mem_filterMap.mpr ⟨c, hc, by rw [if_pos hcls, hid]⟩
  obtain ⟨last, hlast⟩ := Option.ne_none_iff_exists'.mp
    (fun hnone => List.ne_nil_of_mem hmem (List.getLast?_eq_none_iff.mp hnone))
  obtain ⟨c', hc', hsome⟩ := List.mem_filterMap.mp (List.mem_of_getLast? hlast)
  split_ifs at hsome with hcls'
  exact ⟨c', hc', last, hcls', hsome, hlast⟩

/-- Every command of the table goes to a class of the table. -/
theorem classOf_mem : ∀ cmd ∈ STANDARD_COMMANDS,
    ∃ cls ∈ STANDARD_COMPONENTS.map StandardComponent.cls,
      default_target_to_class.lookup cmd.target_id = some cls := by
  decide +kernel

/-- When all classes are there, a command of the table goes to a component of its class. -/
theorem targetOf_spec {topo : TopologyFile} (hids : ∀ c ∈ topo.components, c.id.isSome)
    (hpresent : ∀ comp ∈ STANDARD_COMPONENTS, some comp.cls ∈ topo.component_classes)
    {cmd : StandardCommand} (hcmd : cmd ∈ STANDARD_COMMANDS) :
    ∃ c ∈ topo.components, c.id = some (targetOf topo cmd) ∧
      default_target_to_class.lookup cmd.target_id = c.cls := by
  obtain ⟨cls, hcls, hlookup⟩ := classOf_mem cmd hcmd
  obtain ⟨comp, hcomp, rfl⟩ := List.mem_map.mp hcls
  obtain ⟨c, hc, id, hc', hid, hclass⟩ := class_to_id_spec hids (hpresent comp hcomp)
  refine ⟨c, hc, ?_, by rw [hlookup, hc']⟩
  rw [targetOf, hlookup, Option.bind_some, hclass]
  exact hid

/-- The opcodes of the table are free at the components that the commands go to. -/
def TargetsFree (topo : TopologyFile) : Prop :=
  ∀ cmd ∈ STANDARD_COMMANDS, (targetOf topo cmd, cmd.opcode) ∉ topo.existing_pairs

/-- The loop over the commands has come past `done` and has added `added`. -/
structure CommandsAdded (base : TopologyFile) (done : List StandardCommand)
    (added : List CommandEntry) (s : Installation) : Prop where
  topo_eq : s.topo = { base with commands := base.commands ++ added }
  accepted : s.topo.checked.Accepted
  opcodes : ∀ c ∈ s.topo.commands, c.opcode.isSome
  entries : ∀ e ∈ added, ∃ cmd ∈ done, ∃ opcode, e = cmd.entry (targetOf base cmd) opcode ∧
    (TargetsFree base → opcode = cmd.opcode)
  present : ∀ cmd ∈ done, some cmd.name ∈ s.topo.existing_cmd_names
  length_le : added.length ≤ done.length

/-- All components of an accepted topology have an identifier. -/
theorem ids_of_accepted {topo : TopologyFile} (h : topo.checked.Accepted) :
    ∀ c ∈ topo.components, c.id.isSome := fun c hc => (h.complete c hc).id

/-- An accepted topology whose commands have opcodes has all keys. -/
theorem keyed_of_accepted {topo : TopologyFile} (h : topo.checked.Accepted)
    (hop : ∀ c ∈ topo.commands, c.opcode.isSome) : Keyed topo := by
  refine ⟨ids_of_accepted h, fun c hc => ?_, hop⟩
  have htarget := (h.sound _ (List.mem_map_of_mem hc)).target
  cases htid : c.target_id with
  | none => rw [htid] at htarget; cases htarget
  | some _ => rfl

/-- The table has no two commands of one class and opcode. -/
theorem standardCommands_nodup :
    (STANDARD_COMMANDS.map fun cmd =>
      (default_target_to_class.lookup cmd.target_id, cmd.opcode)).Nodup := by
  decide +kernel

/-- Different commands of the table have different targets or opcodes. -/
theorem eq_of_target_eq {topo : TopologyFile} (hvalid : topo.checked.Accepted)
    (hpresent : ∀ comp ∈ STANDARD_COMPONENTS, some comp.cls ∈ topo.component_classes)
    {cmd cmd' : StandardCommand} (hcmd : cmd ∈ STANDARD_COMMANDS) (hcmd' : cmd' ∈ STANDARD_COMMANDS)
    (htarget : targetOf topo cmd = targetOf topo cmd') (hop : cmd.opcode = cmd'.opcode) :
    cmd = cmd' := by
  have hids := ids_of_accepted hvalid
  obtain ⟨c, hc, hid, hcls⟩ := targetOf_spec hids hpresent hcmd
  obtain ⟨c', hc', hid', hcls'⟩ := targetOf_spec hids hpresent hcmd'
  -- The target has one component, and a component has one class.
  have hnodup : (topo.components.map ComponentDecl.id).Nodup := by
    have hsome : topo.components.map ComponentDecl.id =
        (topo.components.filterMap ComponentDecl.id).map some := by
      rw [List.map_filterMap]
      refine (List.filterMap_eq_map_iff_forall_eq_some.mpr fun c hc => ?_).symm
      obtain ⟨id, hid⟩ := Option.isSome_iff_exists.mp (hids c hc)
      rw [hid]
      rfl
    rw [hsome]
    exact hvalid.ids_nodup.map (Option.some_injective ℤ)
  have hsame : c = c' := List.inj_on_of_nodup_map hnodup hc hc' (by rw [hid, hid', htarget])
  refine List.inj_on_of_nodup_map standardCommands_nodup hcmd hcmd' ?_
  rw [hcls, hcls', hsame, hop]

/-- A command with a known target and a free opcode does not spoil a topology. -/
theorem accepted_add_command {topo : TopologyFile} (h : topo.checked.Accepted)
    {cmd : StandardCommand} (hop : cmd.op_class ∈ valid_op) {target_id opcode : ℤ}
    (htarget : target_id ∈ topo.component_ids) (hfree : (target_id, opcode) ∉ topo.existing_pairs) :
    ({ topo with commands := topo.commands ++ [cmd.entry target_id opcode] } :
      TopologyFile).checked.Accepted := by
  have hcommands : ({ topo with commands := topo.commands ++ [cmd.entry target_id opcode] } :
      TopologyFile).checked.commands =
        topo.checked.commands ++ [(cmd.entry target_id opcode).toCommandDecl] := List.map_append
  refine ⟨h.complete, h.ids_nodup, ?_, ?_⟩
  · rw [hcommands, List.forall_mem_append, List.forall_mem_singleton]
    exact ⟨h.sound, decide_eq_true htarget, Or.inr hop⟩
  · rw [hcommands, List.map_append, List.nodup_append_comm]
    refine List.nodup_cons.mpr ⟨fun hmem => hfree ?_, h.opcodes_nodup⟩
    obtain ⟨decl, hdecl, heq⟩ := List.mem_map.mp hmem
    obtain ⟨c, hc, rfl⟩ := List.mem_map.mp hdecl
    obtain ⟨htid, hcop⟩ := Prod.mk.inj heq
    exact mem_existing_pairs.mpr ⟨c, hc, htid, hcop⟩

/-- When the opcodes of the table are free, those of the commands that were added are opcodes of the
table, and the next command of the table finds its opcode free. -/
theorem CommandsAdded.not_mem_pairs {base : TopologyFile} {done rest : List StandardCommand}
    {added : List CommandEntry} {s : Installation} {cmd : StandardCommand}
    (h : CommandsAdded base done added s) (hbase : base.checked.Accepted)
    (hpresent : ∀ comp ∈ STANDARD_COMPONENTS, some comp.cls ∈ base.component_classes)
    (htable : STANDARD_COMMANDS = done ++ cmd :: rest) (hall : TargetsFree base) :
    (targetOf base cmd, cmd.opcode) ∉ s.topo.existing_pairs := by
  have hcmd : cmd ∈ STANDARD_COMMANDS := by
    rw [htable]
    exact List.mem_append_cons_self
  intro hmem
  rw [mem_existing_pairs, h.topo_eq] at hmem
  obtain ⟨c, hc, htid, hcop⟩ := hmem
  rcases List.mem_append.mp hc with hc | hc
  · exact hall cmd hcmd (mem_existing_pairs.mpr ⟨c, hc, htid, hcop⟩)
  · -- A command of the table that came before would have the same class and opcode.
    obtain ⟨cmd', hcmd', opcode', rfl, hop'⟩ := h.entries c hc
    have hmem' : cmd' ∈ STANDARD_COMMANDS := by
      rw [htable]
      exact List.mem_append_left _ hcmd'
    have heq : cmd' = cmd := eq_of_target_eq hbase hpresent hmem' hcmd (Option.some.inj htid)
      ((hop' hall).symm.trans (Option.some.inj hcop))
    have hnodup := List.Nodup.of_map _ standardCommands_nodup
    rw [htable, heq.symm] at hnodup
    exact List.disjoint_of_nodup_append hnodup hcmd' List.mem_cons_self

/-- One step over a command keeps what the loop has added so far. -/
theorem CommandsAdded.step {base : TopologyFile} {done rest : List StandardCommand}
    {added : List CommandEntry} {s s' : Installation} {cmd : StandardCommand}
    (hbase : base.checked.Accepted)
    (hpresent : ∀ comp ∈ STANDARD_COMPONENTS, some comp.cls ∈ base.component_classes)
    (htable : STANDARD_COMMANDS = done ++ cmd :: rest) (hop : cmd.op_class ∈ valid_op)
    (h : CommandsAdded base done added s) (hstep : CommandStep s cmd s') :
    ∃ added', CommandsAdded base (done ++ [cmd]) added' s' := by
  have hcmd : cmd ∈ STANDARD_COMMANDS := by
    rw [htable]
    exact List.mem_append_cons_self
  -- Added commands do not change which component a command goes to.
  have hsame : targetOf s.topo cmd = targetOf base cmd := by
    rw [h.topo_eq]
    rfl
  have hlength := h.length_le
  cases hstep with
  | present hname notes =>
    refine ⟨added, h.topo_eq, h.accepted, h.opcodes, fun e he => ?_, ?_,
      by rw [List.length_append]; omega⟩
    · obtain ⟨cmd', hcmd', hentry⟩ := h.entries e he
      exact ⟨cmd', List.mem_append_left _ hcmd', hentry⟩
    · rw [List.forall_mem_append, List.forall_mem_singleton]
      exact ⟨h.present, hname⟩
  | added hname opcode hfree hexact notes =>
    rw [hsame] at hfree hexact ⊢
    obtain ⟨c, hc, hid, -⟩ := targetOf_spec (ids_of_accepted hbase) hpresent hcmd
    refine ⟨added ++ [cmd.entry (targetOf base cmd) opcode],
      { topo_eq := by simp only [h.topo_eq, List.append_assoc]
        accepted := accepted_add_command h.accepted hop ?_ hfree
        opcodes := ?_
        entries := ?_
        present := present_concat h.present rfl
        length_le := ?_ }⟩
    · rw [h.topo_eq]
      exact List.mem_filterMap.mpr ⟨c, hc, hid⟩
    · show ∀ c ∈ s.topo.commands ++ [_], _
      rw [List.forall_mem_append, List.forall_mem_singleton]
      exact ⟨h.opcodes, rfl⟩
    · rw [List.forall_mem_append, List.forall_mem_singleton]
      refine ⟨fun e he => ?_, cmd, List.mem_append_right _ (List.mem_singleton_self _), opcode, rfl,
        fun hall => hexact (h.not_mem_pairs hbase hpresent htable hall)⟩
      obtain ⟨cmd', hcmd', hentry⟩ := h.entries e he
      exact ⟨cmd', List.mem_append_left _ hcmd', hentry⟩
    · rw [List.length_append, List.length_append, List.length_singleton, List.length_singleton]
      omega

/-- The loop over the commands. -/
theorem installCommands_spec {s : Installation} (hbase : s.topo.checked.Accepted)
    (hop : ∀ c ∈ s.topo.commands, c.opcode.isSome)
    (hpresent : ∀ comp ∈ STANDARD_COMPONENTS, some comp.cls ∈ s.topo.component_classes) :
    ∃ s', (∀ passes, s.topo.commands.length + STANDARD_COMMANDS.length ≤ passes →
        STANDARD_COMMANDS.foldlM (installCommand passes) s = Except.ok s') ∧
      ∃ added, CommandsAdded s.topo STANDARD_COMMANDS added s' := by
  have hclass : ∀ cmd ∈ STANDARD_COMMANDS, cmd.op_class ∈ valid_op := by decide +kernel
  have hstart : CommandsAdded s.topo [] [] s :=
    ⟨by simp, hbase, hop, by simp, by simp, le_rfl⟩
  refine foldlM_spec (P := fun done s' => ∃ added, CommandsAdded s.topo done added s') ?_
    ⟨[], hstart⟩
  rintro done cmd rest s₁ htable ⟨added, h⟩
  have hcmd : cmd ∈ STANDARD_COMMANDS := by
    rw [htable]
    exact List.mem_append_cons_self
  have hlength : s₁.topo.commands.length ≤ s.topo.commands.length + STANDARD_COMMANDS.length := by
    have hle := h.length_le
    rw [h.topo_eq, htable]
    simp only [List.length_append, List.length_cons]
    omega
  have htarget : targetOf s₁.topo cmd ∈ s₁.topo.component_ids := by
    obtain ⟨c, hc, hid, -⟩ := targetOf_spec (ids_of_accepted hbase) hpresent hcmd
    rw [h.topo_eq]
    exact List.mem_filterMap.mpr ⟨c, hc, hid⟩
  obtain ⟨s', hok, hstep⟩ := installCommand_spec s₁ (keyed_of_accepted h.accepted h.opcodes)
    (hclass cmd hcmd) htarget hlength
  exact ⟨s', hok, h.step hbase hpresent htable (hclass cmd hcmd) hstep⟩

/-! ## Custom wiring -/

/-- The loop over the wiring has come past `done` from the topology `base`. -/
structure Wired (base : TopologyFile) (done : List WiringSpec) (topo : TopologyFile) : Prop where
  topo_eq : topo = { base with custom_wiring := topo.custom_wiring }
  kept : base.custom_wiring.getD [] <+: topo.custom_wiring.getD []
  lines : ∀ spec ∈ done, ∀ inst, base.instance_by_class spec.cls = some inst → inst ≠ [] →
    spec.template inst ∈ topo.custom_wiring.getD []

/-- One pass of the loop over the wiring. -/
theorem wired_installWiring (s : Installation) (spec : WiringSpec) :
    Wired s.topo [spec] (installWiring s spec).topo := by
  unfold installWiring
  have hskip : (∀ inst, s.topo.instance_by_class spec.cls = some inst → inst = []) →
      Wired s.topo [spec] s.topo := by
    intro hempty
    refine ⟨rfl, List.prefix_rfl, ?_⟩
    rw [List.forall_mem_singleton]
    exact fun inst hinst hne => absurd (hempty inst hinst) hne
  split
  · rename_i hnone
    exact hskip fun inst hinst => by rw [hnone] at hinst; cases hinst
  · rename_i inst hinst
    by_cases hne : inst = []
    · rw [if_pos hne]
      exact hskip fun inst' hinst' => by
        rw [hinst, Option.some.injEq] at hinst'
        rw [← hinst', hne]
    · rw [if_neg hne]
      unfold ensure_custom_wiring_line
      by_cases hline : spec.template inst ∈ s.topo.custom_wiring.getD []
      · simp only [hline, if_true, Bool.false_eq_true, if_false]
        refine ⟨rfl, List.prefix_rfl, ?_⟩
        simp only [List.forall_mem_singleton, hinst, Option.some.injEq]
        rintro _ rfl _
        exact hline
      · simp only [hline, if_false, if_true]
        refine ⟨rfl, List.prefix_append _ _, ?_⟩
        simp only [List.forall_mem_singleton, hinst, Option.some.injEq]
        rintro _ rfl _
        exact List.mem_append_right _ (List.mem_singleton_self _)

/-- Wirings add up. -/
theorem Wired.trans {base mid topo : TopologyFile} {done done' : List WiringSpec}
    (h : Wired base done mid) (h' : Wired mid done' topo) : Wired base (done ++ done') topo := by
  have hinst : ∀ cls, mid.instance_by_class cls = base.instance_by_class cls := by
    intro cls
    rw [h.topo_eq]
    rfl
  refine ⟨?_, h.kept.trans h'.kept, ?_⟩
  · rw [h'.topo_eq, h.topo_eq]
  · rw [List.forall_mem_append]
    refine ⟨fun spec hspec inst hi hne => h'.kept.subset (h.lines spec hspec inst hi hne), ?_⟩
    intro spec hspec inst hi
    exact h'.lines spec hspec inst (by rw [hinst, hi])

/-- The loop over the wiring. -/
theorem wired_foldl (specs : List WiringSpec) (s : Installation) :
    Wired s.topo specs (specs.foldl installWiring s).topo := by
  induction specs generalizing s with
  | nil => exact ⟨rfl, List.prefix_rfl, fun _ h => absurd h List.not_mem_nil⟩
  | cons spec specs ih => exact (wired_installWiring s spec).trans (ih (installWiring s spec))

/-! ## The installation -/

/-- Nothing of the standard apps is missing. -/
structure AppsInstalled (topo : TopologyFile) : Prop where
  classes : ∀ comp ∈ STANDARD_COMPONENTS, some comp.cls ∈ topo.component_classes
  names : ∀ cmd ∈ STANDARD_COMMANDS, some cmd.name ∈ topo.existing_cmd_names
  lines : ∀ spec ∈ wiring_specs, ∀ inst, topo.instance_by_class spec.cls = some inst →
    inst ≠ [] → spec.template inst ∈ topo.custom_wiring.getD []

/-- A line that is there is left alone. -/
theorem installWiring_of_mem {s : Installation} {spec : WiringSpec}
    (h : ∀ inst, s.topo.instance_by_class spec.cls = some inst → inst ≠ [] →
      spec.template inst ∈ s.topo.custom_wiring.getD []) : installWiring s spec = s := by
  unfold installWiring
  split
  · rfl
  · rename_i inst hinst
    by_cases hne : inst = []
    · rw [if_pos hne]
    · have hline := h inst hinst hne
      obtain ⟨⟨components, commands, params, custom_wiring⟩, changed, notes⟩ := s
      cases custom_wiring with
      | none => exact absurd hline List.not_mem_nil
      | some wiring =>
        simp only [Option.getD_some] at hline
        simp [hne, ensure_custom_wiring_line, hline]

/-- The topology is the same, and no change is reported. -/
def Unchanged (topo : TopologyFile) (s : Installation) : Prop := s.topo = topo ∧ s.changed = false

/-- An installed topology is not changed. -/
theorem install_of_installed {topo : TopologyFile} (h : AppsInstalled topo) :
    ∃ notes, ∀ passes, install_standard_apps passes topo = Except.ok ⟨topo, false, notes⟩ := by
  have hcomponents : ∃ s, (∀ passes, 0 ≤ passes →
      STANDARD_COMPONENTS.foldlM (installComponent passes) ⟨topo, false, []⟩ = Except.ok s) ∧
        Unchanged topo s := by
    refine foldlM_spec (P := fun _ s => Unchanged topo s) ?_ ⟨rfl, rfl⟩
    rintro done comp rest s htable ⟨rfl, hchanged⟩
    have hcomp := h.classes comp (by rw [htable]; exact List.mem_append_cons_self)
    exact ⟨_, fun _ _ => if_pos hcomp, rfl, hchanged⟩
  obtain ⟨s₁, hok₁, hunchanged⟩ := hcomponents
  have hcommands : ∃ s, (∀ passes, 0 ≤ passes →
      STANDARD_COMMANDS.foldlM (installCommand passes) s₁ = Except.ok s) ∧ Unchanged topo s := by
    refine foldlM_spec (P := fun _ s => Unchanged topo s) ?_ hunchanged
    rintro done cmd rest s htable ⟨rfl, hchanged⟩
    have hcmd := h.names cmd (by rw [htable]; exact List.mem_append_cons_self)
    exact ⟨_, fun _ _ => if_pos hcmd, rfl, hchanged⟩
  obtain ⟨⟨topo₂, changed, notes⟩, hok₂, rfl, rfl⟩ := hcommands
  have hwiring : ∀ specs : List WiringSpec, (∀ spec ∈ specs, spec ∈ wiring_specs) →
      specs.foldl installWiring ⟨topo₂, false, notes⟩ = ⟨topo₂, false, notes⟩ := by
    intro specs
    induction specs with
    | nil => exact fun _ => rfl
    | cons spec specs ih =>
      intro hspecs
      rw [List.foldl_cons, installWiring_of_mem (h.lines spec (hspecs spec List.mem_cons_self))]
      exact ih fun spec' hspec' => hspecs spec' (List.mem_cons_of_mem _ hspec')
  refine ⟨notes, fun passes => ?_⟩
  unfold install_standard_apps
  simp only [hok₁ passes (Nat.zero_le _), hok₂ passes (Nat.zero_le _), except_ok_bind]
  rw [hwiring wiring_specs fun _ h => h]

/-- What the installation leaves of an accepted topology whose commands have opcodes. The entries
`components` and `commands` are added, and the custom wiring is extended. -/
structure AppsInstalledFrom (topo : TopologyFile) (components : List ComponentDecl)
    (commands : List CommandEntry) (s : Installation) : Prop where
  topo_eq : s.topo = { topo with
    components := topo.components ++ components
    commands := topo.commands ++ commands
    custom_wiring := s.topo.custom_wiring }
  kept : topo.custom_wiring.getD [] <+: s.topo.custom_wiring.getD []
  /-- With the components alone, the topology is accepted too. -/
  base_accepted : ({ topo with components := topo.components ++ components } :
    TopologyFile).checked.Accepted
  accepted : s.topo.checked.Accepted
  installed : AppsInstalled s.topo
  insts_nodup : (components.map ComponentDecl.inst).Nodup
  inst_fresh : ∀ c ∈ components, c.inst ∉ topo.component_instances
  cls_fresh : ∀ c ∈ components, c.cls ∉ topo.component_classes
  entries : ∀ e ∈ commands, ∃ cmd ∈ STANDARD_COMMANDS, ∃ opcode,
    e = cmd.entry (targetOf s.topo cmd) opcode ∧
      (TargetsFree { topo with components := topo.components ++ components } → opcode = cmd.opcode)

/-- The installation ends, with one result for all large enough numbers of passes. -/
theorem install_spec {topo : TopologyFile} (hvalid : topo.checked.Accepted)
    (hop : ∀ c ∈ topo.commands, c.opcode.isSome) :
    ∃ bound s, (∀ passes, bound ≤ passes → install_standard_apps passes topo = Except.ok s) ∧
      ∃ components commands, AppsInstalledFrom topo components commands s := by
  obtain ⟨s₁, hok₁, components, h₁⟩ := installComponents_spec topo hvalid.ids_nodup
  have hvalid₁ := h₁.accepted hvalid
  have hop₁ : ∀ c ∈ s₁.topo.commands, c.opcode.isSome := by
    rw [h₁.topo_eq]
    exact hop
  obtain ⟨s₂, hok₂, commands, h₂⟩ := installCommands_spec hvalid₁ hop₁ h₁.present
  have h₃ := wired_foldl wiring_specs s₂
  generalize hs : wiring_specs.foldl installWiring s₂ = s at h₃
  have hcomponents : s.topo.components = topo.components ++ components := by
    rw [h₃.topo_eq, h₂.topo_eq, h₁.topo_eq]
  have hcommands : s.topo.commands = topo.commands ++ commands := by
    rw [h₃.topo_eq, h₂.topo_eq, h₁.topo_eq]
  refine ⟨topo.components.length + STANDARD_COMPONENTS.length +
    (s₁.topo.commands.length + STANDARD_COMMANDS.length), s, fun passes hpasses => ?_,
    components, commands, ?_⟩
  · unfold install_standard_apps
    simp only [hok₁ passes (by omega), hok₂ passes (by omega), except_ok_bind, hs]
  -- The wiring comes last and writes only `custom_wiring`, so the rest is as the loops left it.
  have hkept : topo.custom_wiring.getD [] <+: s.topo.custom_wiring.getD [] := by
    have hwiring : s₂.topo.custom_wiring = topo.custom_wiring := by rw [h₂.topo_eq, h₁.topo_eq]
    rw [← hwiring]
    exact h₃.kept
  have hchecked : s.topo.checked = s₂.topo.checked := by
    rw [h₃.topo_eq]
    rfl
  have hclasses : s.topo.component_classes = s₁.topo.component_classes := by
    rw [h₃.topo_eq, h₂.topo_eq]
    rfl
  have hnames : s.topo.existing_cmd_names = s₂.topo.existing_cmd_names := by
    rw [h₃.topo_eq]
    rfl
  have hinst : ∀ cls, s.topo.instance_by_class cls = s₂.topo.instance_by_class cls := by
    intro cls
    rw [h₃.topo_eq]
    rfl
  have htarget : ∀ cmd, targetOf s.topo cmd = targetOf s₁.topo cmd := by
    intro cmd
    rw [h₃.topo_eq, h₂.topo_eq]
    rfl
  refine
    { topo_eq := by rw [h₃.topo_eq, h₂.topo_eq, h₁.topo_eq]
      kept := hkept
      base_accepted := h₁.topo_eq ▸ hvalid₁
      accepted := hchecked ▸ h₂.accepted
      installed := ⟨hclasses ▸ h₁.present, hnames ▸ h₂.present, fun spec hspec inst hi => ?_⟩
      insts_nodup := h₁.insts_nodup
      inst_fresh := h₁.inst_fresh
      cls_fresh := h₁.cls_fresh
      entries := fun e he => ?_ }
  · exact h₃.lines spec hspec inst (by rw [← hinst, hi])
  · obtain ⟨cmd, hcmd, opcode, hentry, hexact⟩ := h₂.entries e he
    refine ⟨cmd, hcmd, opcode, by rw [htarget, hentry], ?_⟩
    rw [h₁.topo_eq] at hexact
    exact hexact

/-- Installing the standard apps in an accepted topology whose commands have opcodes ends without an
error. It keeps every entry in its place, leaves an accepted topology in which nothing is missing,
and changes nothing when it is done again. -/
theorem install_safe_and_idempotent (topo : TopologyFile) (hvalid : validate topo.checked = [])
    (hop : ∀ c ∈ topo.commands, c.opcode.isSome) :
    ∃ bound s components, (∀ passes, bound ≤ passes →
        install_standard_apps passes topo = Except.ok s) ∧
      s.topo.components = topo.components ++ components ∧
      topo.commands <+: s.topo.commands ∧ s.topo.params = topo.params ∧
      topo.custom_wiring.getD [] <+: s.topo.custom_wiring.getD [] ∧
      validate s.topo.checked = [] ∧
      (∀ comp ∈ STANDARD_COMPONENTS, some comp.cls ∈ s.topo.component_classes) ∧
      (∀ cmd ∈ STANDARD_COMMANDS, some cmd.name ∈ s.topo.existing_cmd_names) ∧
      (components.map ComponentDecl.inst).Nodup ∧
      (∀ c ∈ components, c.inst ∉ topo.component_instances) ∧
      ∃ notes, ∀ passes,
        install_standard_apps passes s.topo = Except.ok ⟨s.topo, false, notes⟩ := by
  obtain ⟨bound, s, hok, components, commands, h⟩ :=
    install_spec ((validate_eq_nil_iff _).mp hvalid) hop
  refine ⟨bound, s, components, hok, ?_, ?_, ?_, h.kept, (validate_eq_nil_iff _).mpr h.accepted,
    h.installed.classes, h.installed.names, h.insts_nodup, h.inst_fresh,
    install_of_installed h.installed⟩
  · rw [h.topo_eq]
  · rw [h.topo_eq]
    exact List.prefix_append _ _
  · rw [h.topo_eq]

/-- A topology in which the number of one standard component and the instance name of another are in
use. -/
def occupied : TopologyFile :=
  { components := [component 40 "Camera" "CameraComponent" "file_transfer" "Passive" "norm"]
    commands := [⟨⟨some (ascii "SNAP"), some 40, some 1, none⟩, none⟩]
    params := []
    custom_wiring := none }

/-- Installing into the topology with the places taken ends, in a topology that is accepted and that
a second installation leaves as it is. -/
theorem install_into_occupied :
    ∃ s notes, (∃ bound, ∀ passes, bound ≤ passes →
        install_standard_apps passes occupied = Except.ok s) ∧
      validate s.topo.checked = [] ∧
      ∀ passes, install_standard_apps passes s.topo = Except.ok ⟨s.topo, false, notes⟩ := by
  have hvalid : validate occupied.checked = [] := by decide +kernel
  have hop : ∀ c ∈ occupied.commands, c.opcode.isSome := by decide +kernel
  obtain ⟨bound, s, -, hok, -, -, -, -, hvalid', -, -, -, -, notes, hagain⟩ :=
    install_safe_and_idempotent occupied hvalid hop
  exact ⟨s, notes, ⟨bound, hok⟩, hvalid', hagain⟩

end DeltaV.Topology
