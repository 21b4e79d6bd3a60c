import RegisterMap.Nim.Accessors
import RegisterMap.Nim.NodeType
import RegisterMap.Proofs.Device.Provenance
import RegisterMap.Proofs.Nim.Names
import RegisterMap.Proofs.Nim.SharedNames

/-!
# Peripherals that share their types

What is declared for a peripheral follows from what it holds, its decoration, and the type names of
its nodes. Peripherals of one layout have the same names inside, so the same is declared for them;
and so it is for one peripheral by two tables that give its nodes the same names.

## Main definitions

* `NamedAlike` : one table names the nodes in a node as another names those in another node.
* `SameNames` : two nodes have one name, and so have the nodes at each path inside them.
* `SharesDeclarations` : two peripherals have the same names inside and the same declarations.

## Main results

* `NamedAlike.compositeType_eq`, `NamedAlike.collectTypes_eq` : the types of nodes that are named
  alike.
* `NamedAlike.forall₂_registersBelow` : the registers below such nodes.
* `SharesDeclarations.of_sameLayout` : peripherals of one layout share their declarations.
-/

namespace RegisterMap.Nim

section

variable {names names' : TypeNames} {decoration : Decoration} {path path' : NodePath}
  {c : Contents}

/-! ### Nodes with the same names -/

/-- A table gives the nodes in a node the names that another table gives the nodes at the same paths
inside another node. -/
def NamedAlike (names names' : TypeNames) (path path' : NodePath) (c : Contents) : Prop :=
  ∀ rel, path ++ rel ∈ c.paths path → names.lookup (path ++ rel) = names'.lookup (path' ++ rel)

/-- The nodes in one of two nodes have type names, and the nodes at each path inside the two have
the same. -/
structure SameNames (names : TypeNames) (path path' : NodePath) (c : Contents) : Prop where
  named : AllNamed names path c
  same : ∀ rel, names.find? (path ++ rel) = names.find? (path' ++ rel)

theorem SameNames.namedAlike (h : SameNames names path path' c) :
    NamedAlike names names path path' c := by
  intro rel hrel
  obtain ⟨typeName, hname⟩ := h.named _ hrel
  have found := TypeNames.lookup_eq_ok_iff.1 hname
  rw [h.same] at found
  rw [hname, TypeNames.lookup_eq_ok_iff.2 found]

namespace NamedAlike

theorem own (h : NamedAlike names names' path path' c) :
    names.lookup path = names'.lookup path' := by
  simpa using h [] (by simpa using c.self_mem_paths path)

theorem register (h : NamedAlike names names' path path' c) {r : Register} (hr : r ∈ c.registers) :
    names.lookup (path ++ [r.name]) = names'.lookup (path' ++ [r.name]) :=
  h [r.name] (Contents.register_mem_paths hr)

theorem inner (h : NamedAlike names names' path path' c) {inner : Cluster}
    (hc : inner ∈ c.clusters) :
    NamedAlike names names' (path ++ [inner.name]) (path' ++ [inner.name]) inner.contents := by
  intro rel hrel
  have below : path ++ (inner.name :: rel) ∈ c.paths path :=
    Contents.mem_paths_of_cluster hc (by simpa using hrel)
  simpa using h (inner.name :: rel) below

theorem member (h : NamedAlike names names' path path' c) {m : Member} (hm : m ∈ c.members) :
    names.lookup (path ++ [m.name]) = names'.lookup (path' ++ [m.name]) :=
  h [m.name] (Contents.member_mem_paths hm)

/-! ### Their types -/

theorem compositeType_eq (h : NamedAlike names names' path path' c) :
    compositeType names decoration path c = compositeType names' decoration path' c := by
  have fields : c.sortedMembers.mapM (memberField names decoration path) =
      c.sortedMembers.mapM (memberField names' decoration path') := by
    refine mapM_congr_of_forall₂ (List.forall₂_same.2 fun m hm => ?_)
    rw [memberField, memberField, h.member (c.sortedMembers_perm.mem_iff.1 hm)]
  rw [compositeType, compositeType, h.own, fields]

theorem registerTypes_eq (h : NamedAlike names names' path path' c) :
    registerTypes names path c.registers = registerTypes names' path' c.registers := by
  refine mapM_congr_of_forall₂ (List.forall₂_same.2 fun r hr => ?_)
  rw [h.register hr]

/-- Two work lists hold the same clusters, named alike. -/
def AlikeWork (names names' : TypeNames) : (work work' : List (NodePath × Cluster)) → Prop :=
  List.Forall₂ fun w w' => w.2 = w'.2 ∧ NamedAlike names names' w.1 w'.1 w.2.contents

theorem clusterWork (h : NamedAlike names names' path path' c) :
    AlikeWork names names' (clusterWork path c.clusters) (Nim.clusterWork path' c.clusters) := by
  rw [AlikeWork, Nim.clusterWork, Nim.clusterWork, List.forall₂_reverse_iff,
    List.forall₂_map_left_iff, List.forall₂_map_right_iff]
  exact List.forall₂_same.2 fun inner hc => ⟨rfl, h.inner hc⟩

theorem collectTypes_eq {work work' : List (NodePath × Cluster)} {found : List ObjectType}
    (h : AlikeWork names names' work work') :
    collectTypes names decoration work found = collectTypes names' decoration work' found := by
  induction work, found using collectTypes.induct generalizing work' with
  | case1 found =>
    cases h
    rw [collectTypes, collectTypes]
  | case2 path c work found ih =>
    obtain _ | @⟨_, ⟨path', c'⟩, _, work', ⟨same, first⟩, rest⟩ := h
    cases (same : c = c')
    -- the two lists stay alike: what a cluster puts on them is named alike
    have first : NamedAlike names names' path path' c.contents := first
    have registers : registerTypes names path c.registers =
        registerTypes names' path' c.registers := first.registerTypes_eq
    rw [collectTypes, collectTypes, first.compositeType_eq, registers]
    refine bind_congr fun own => bind_congr fun registers => ih own registers ?_
    exact List.rel_append first.clusterWork rest

/-! ### Their registers -/

/-- The registers below two nodes are the same, named alike. -/
theorem forall₂_registersBelow (h : NamedAlike names names' path path' c) :
    List.Forall₂ (fun q q' => q.2 = q'.2 ∧ names.lookup q.1 = names'.lookup q'.1)
      (c.registersBelow path) (c.registersBelow path') := by
  induction c using Contents.induction generalizing path path' with
  | step c ih =>
    rw [Contents.registersBelow_eq_append, Contents.registersBelow_eq_append]
    refine List.rel_append ?_ ?_
    · rw [List.forall₂_map_left_iff, List.forall₂_map_right_iff]
      exact List.forall₂_same.2 fun r hr => ⟨rfl, h.register hr⟩
    · have clusters : List.Forall₂ (fun inner inner' => inner = inner' ∧ inner ∈ c.clusters)
          c.clusters c.clusters := List.forall₂_same.2 fun inner hc => ⟨rfl, hc⟩
      refine List.rel_flatMap clusters fun inner inner' same => ?_
      obtain ⟨rfl, hc⟩ := same
      exact ih inner hc (h.inner hc)

end NamedAlike

end

/-! ### Peripherals that share their declarations -/

/-- Two peripherals have the same type names at each path inside them, and the types of their nodes,
the types of bit fields, the enumerations and the accessors that are made for them are the same. -/
structure SharesDeclarations (names : TypeNames) (x y : Peripheral) : Prop where
  lookup_iff : ∀ rel typeName,
    names.lookup (x.name :: rel) = .ok typeName ↔ names.lookup (y.name :: rel) = .ok typeName
  nodeTypes : ∀ options, nodeTypes names options x = nodeTypes names options y
  fieldStructs : fieldStructs x names = fieldStructs y names
  enumTypes : enumTypes x names = enumTypes y names
  accessors : peripheralAccessors x names = peripheralAccessors y names

section

variable {names names' : TypeNames} {x y : Peripheral} (layout : x.SameLayout y)
  (h : NamedAlike names names' [x.name] [y.name] x.contents)

include layout

theorem contents_eq_of_sameLayout : x.contents = y.contents := by
  rw [Peripheral.contents, Peripheral.contents, layout.registers, layout.clusters]

include h

theorem nodeTypes_eq (options : Options) :
    nodeTypes names options x = nodeTypes names' options y := by
  have decoration : Decoration.ofPeripheral x options = Decoration.ofPeripheral y options := by
    rw [Decoration.ofPeripheral, Decoration.ofPeripheral, layout.prependToName,
      layout.appendToName]
  have own : compositeType names (Decoration.ofPeripheral y options) [x.name] x.contents =
      compositeType names' (Decoration.ofPeripheral y options) [y.name] y.contents := by
    rw [← contents_eq_of_sameLayout layout]
    exact h.compositeType_eq
  have registers : registerTypes names [x.name] x.registers =
      registerTypes names' [y.name] y.registers := by
    rw [← layout.registers]
    exact h.registerTypes_eq
  have work : NamedAlike.AlikeWork names names' (clusterWork [x.name] x.clusters)
      (clusterWork [y.name] y.clusters) := by
    rw [← layout.clusters]
    exact h.clusterWork
  rw [nodeTypes, nodeTypes, decoration, own, registers]
  exact bind_congr fun _ => bind_congr fun _ => NamedAlike.collectTypes_eq work

/-- The registers of the two are the same, named alike. -/
theorem forall₂_registersBelow_of_sameLayout :
    List.Forall₂ (fun q q' => q.2 = q'.2 ∧ names.lookup q.1 = names'.lookup q'.1)
      x.registersBelow y.registersBelow := by
  have below := h.forall₂_registersBelow
  rw [contents_eq_of_sameLayout layout] at below
  have own : x.registersBelow = y.contents.registersBelow [x.name] :=
    congrArg (Contents.registersBelow [x.name]) (contents_eq_of_sameLayout layout)
  rw [own]
  exact below

theorem fieldStructs_eq : fieldStructs x names = fieldStructs y names' := by
  have below := forall₂_registersBelow_of_sameLayout layout h
  refine mapM_congr_of_forall₂ ((List.rel_filter (fun q q' same => ?_) below).imp ?_)
  · exact Iff.of_eq (congrArg (fun r : Register => r.hasFields = true) same.1)
  rintro ⟨path, r⟩ ⟨path', r'⟩ ⟨same, named⟩
  cases (same : r = r')
  exact congrArg (· >>= fieldStruct r) named

/-- What is made for every register from its type name alone is the same. -/
theorem flatten_mapM_eq {α : Type} (f : Register → String → List α) :
    ((x.registersBelow.mapM fun (path, r) => (names.lookup path).map (f r)).map List.flatten) =
      (y.registersBelow.mapM fun (path, r) => (names'.lookup path).map (f r)).map List.flatten := by
  have below := forall₂_registersBelow_of_sameLayout layout h
  refine congrArg (Except.map List.flatten) (mapM_congr_of_forall₂ (below.imp ?_))
  rintro ⟨path, r⟩ ⟨path', r'⟩ ⟨same, named⟩
  cases (same : r = r')
  exact congrArg (Except.map (f r)) named

end

/-- Peripherals of one layout share their declarations, where names of peripherals are distinct. -/
theorem SharesDeclarations.of_sameLayout {d : Device} {x y : Peripheral}
    (distinct : (d.peripherals.map (·.name)).Nodup) (hx : x ∈ d.peripherals)
    (hy : y ∈ d.peripherals) (layout : x.SameLayout y) :
    SharesDeclarations (TypeNames.ofDevice d) x y := by
  have same : ∀ rel, (TypeNames.ofDevice d).find? (x.name :: rel) =
      (TypeNames.ofDevice d).find? (y.name :: rel) := by
    intro rel
    rw [TypeNames.find?_ofDevice distinct hx, TypeNames.find?_ofDevice distinct hy,
      layout.structName, contents_eq_of_sameLayout layout]
  have shared : SameNames (TypeNames.ofDevice d) [x.name] [y.name] x.contents :=
    ⟨allNamed_ofDevice hx, same⟩
  have names := shared.namedAlike
  exact {
    lookup_iff := fun rel typeName => by
      rw [TypeNames.lookup_eq_ok_iff, TypeNames.lookup_eq_ok_iff, same]
    nodeTypes := nodeTypes_eq layout names
    fieldStructs := fieldStructs_eq layout names
    enumTypes := flatten_mapM_eq layout names fieldEnums
    accessors := flatten_mapM_eq layout names RegisterMap.Nim.accessors }

end RegisterMap.Nim
