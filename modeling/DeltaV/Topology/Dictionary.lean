import DeltaV.Topology.Render

/-!
# The dictionary of the ground system

`render_dict` lists the components, commands, and parameters of a topology by their keys. A Python
dictionary has one entry per key, so of several commands with one name the last is listed. What the
dictionary copies unread (descriptions, the system's name, the defaults of parameters) is left out.
-/

namespace DeltaV.Topology

/-- An entry of `components`. -/
structure DictComponent where
  name : Text
  type : Text
  rate_group : Text
  /-- The key `class`. -/
  cls : Text
deriving DecidableEq, Repr

/-- An entry of `commands`. -/
structure DictCommand where
  target_id : ℤ
  opcode : ℤ
  op_class : Text
  apid : UInt16
deriving DecidableEq, Repr

/-- An entry of `params`. -/
structure DictParam where
  tmr : Bool
deriving DecidableEq, Repr

/-- The dictionary. -/
structure Dictionary where
  components : List (Text × DictComponent)
  commands : List (Text × DictCommand)
  params : List (Text × DictParam)
deriving DecidableEq, Repr

/-- `d[key] = value`: a new key goes to the end, and a known one keeps its place. -/
def assign {α : Type} (d : List (Text × α)) (e : Text × α) : List (Text × α) :=
  if e.1 ∈ d.map Prod.fst then d.map fun old => if old.1 = e.1 then e else old else d ++ [e]

/-- The keys of a component that `render_dict` reads. -/
def dictComponent (comp : ComponentDecl) : Option (Text × DictComponent) :=
  comp.id.bind fun cid => comp.name.map fun name =>
    (intText cid,
      { name := name
        type := comp.type.getD (ascii "Passive")
        rate_group := comp.rate_group.getD (ascii "norm")
        cls := comp.cls.getD (name ++ ascii "Component") })

/-- The keys of a command that `render_dict` reads. -/
def dictCommand (cmd : CommandDecl) : Option (Text × DictCommand) :=
  cmd.name.bind fun name => cmd.target_id.bind fun target_id => cmd.opcode.map fun opcode =>
    (name,
      { target_id := target_id
        opcode := opcode
        op_class := cmd.op_class.getD (ascii "OPERATIONAL")
        apid := 30 })

/-- The keys of a parameter that `render_dict` reads. -/
def dictParam (p : ParamDecl) : Option (Text × DictParam) :=
  p.name.map fun name => (name, ⟨p.tmr⟩)

/-- The dictionary; `none` when a required key is missing. -/
def render_dict (topo : Topology) : Option Dictionary :=
  (topo.components.mapM dictComponent).bind fun components =>
  (topo.commands.mapM dictCommand).bind fun commands =>
  (topo.params.mapM dictParam).map fun params =>
    ⟨components.foldl assign [], commands.foldl assign [], params.foldl assign []⟩

/-- Assignments enter nothing but what is assigned. -/
theorem mem_foldl_assign {α : Type} {es : List (Text × α)} {e : Text × α}
    (h : e ∈ es.foldl assign []) : e ∈ es := by
  induction es using List.reverseRecOn with
  | nil => exact h
  | append_singleton es last ih =>
    rw [List.foldl_concat, assign] at h
    rw [List.mem_append, List.mem_singleton]
    split_ifs at h with hknown
    · obtain ⟨old, hold, heq⟩ := List.mem_map.mp h
      split_ifs at heq
      · exact .inr heq.symm
      · exact .inl (ih (by rwa [← heq]))
    · exact (List.mem_append.mp h).imp ih List.mem_singleton.mp

/-- A command of the dictionary is one that the topology declares. -/
theorem mem_dict_commands {topo : Topology} {d : Dictionary} (hd : render_dict topo = some d)
    {e : Text × DictCommand} (he : e ∈ d.commands) :
    ∃ cmd ∈ topo.commands, dictCommand cmd = some e := by
  unfold render_dict at hd
  obtain ⟨components, -, hd⟩ := Option.bind_eq_some_iff.mp hd
  obtain ⟨entries, hentries, hd⟩ := Option.bind_eq_some_iff.mp hd
  obtain ⟨params, -, rfl⟩ := Option.map_eq_some_iff.mp hd
  have hmem : some e ∈ topo.commands.map dictCommand := by
    rw [(mapM_eq_some_iff _ _ _).mp hentries]
    exact List.mem_map_of_mem (mem_foldl_assign he)
  exact List.mem_map.mp hmem

end DeltaV.Topology
