import RegisterMap.Proofs.Nim.DeclaredBeforeUse
import RegisterMap.Proofs.Nim.TypeIdents

/-!
# Names of declared types

A module declares the interrupt numbers, the types of nodes, the types of bit fields and the
enumerations under names of one space, but keeps a table for each kind. The types of nodes and of
bit fields stay apart from each other and from the interrupt numbers by their endings. An
enumeration may have any name, and types whose names differ in backticks are declared alike.

## Main definitions

* `TypeDeclaration` : a type that a module declares.
* `Module.typeDeclarations` : the types of a module in the order of their declarations.

## Main results

* `getLast?_ident` : the last letter of a name tells the kinds of types without values apart.
* `Module.nodup_ident_iff` : when the types of a module have different names.
-/

namespace RegisterMap.Nim

/-! ### Declared types -/

/-- A type that a module declares: the enumeration of interrupt numbers, the type of a node, the
type of a register's bit fields, or an enumeration of values. -/
inductive TypeDeclaration where
  | interrupts
  | node (t : ObjectType)
  | fields (t : ObjectType)
  | enumeration (e : EnumType)
  deriving DecidableEq, Repr

/-- Identifier that a type is declared under. -/
def TypeDeclaration.ident : TypeDeclaration → String
  | interrupts => "IRQn"
  | node t => t.ident
  | fields t => t.ident
  | enumeration e => e.name

/-- The type that a declaration declares, if it does. -/
def Declaration.type? : Declaration → Option TypeDeclaration
  | object t => some (.fields t)
  | enumeration e => some (.enumeration e)
  | routine _ => none

/-- The types that a module declares, in order. -/
def Module.typeDeclarations (m : Module) : List TypeDeclaration :=
  .interrupts :: (m.types.map .node ++ m.declarations.filterMap Declaration.type?)

theorem Declaration.type?_eq_some_iff {x : Declaration} {t : TypeDeclaration} :
    x.type? = some t ↔ (∃ s, x = .object s ∧ t = .fields s) ∨
      ∃ e, x = .enumeration e ∧ t = .enumeration e := by
  cases x <;> simp [type?, eq_comm]

namespace Module

variable {m : Module}

theorem interrupts_mem (m : Module) : .interrupts ∈ m.typeDeclarations := List.mem_cons_self

theorem node_mem {t : ObjectType} : .node t ∈ m.typeDeclarations ↔ t ∈ m.types := by
  simp [typeDeclarations, Declaration.type?_eq_some_iff]

theorem fields_mem {t : ObjectType} :
    .fields t ∈ m.typeDeclarations ↔ .object t ∈ m.declarations := by
  simp [typeDeclarations, Declaration.type?_eq_some_iff]

theorem enumeration_mem {e : EnumType} :
    .enumeration e ∈ m.typeDeclarations ↔ .enumeration e ∈ m.declarations := by
  simp [typeDeclarations, Declaration.type?_eq_some_iff]

/-- Where each list of declarations has no duplicates, all together have none. -/
theorem nodup_typeDeclarations (types : m.types.Nodup) (declarations : m.declarations.Nodup) :
    m.typeDeclarations.Nodup := by
  have node : Function.Injective TypeDeclaration.node := fun _ _ h => TypeDeclaration.node.inj h
  refine List.nodup_cons.2 ⟨by simp [Declaration.type?_eq_some_iff],
    List.nodup_append.2 ⟨types.map node, declarations.filterMap ?_, ?_⟩⟩
  · intro x y t hx hy
    rcases Declaration.type?_eq_some_iff.1 hx with ⟨s, rfl, rfl⟩ | ⟨e, rfl, rfl⟩
    all_goals
      rcases Declaration.type?_eq_some_iff.1 hy with ⟨s', rfl, h⟩ | ⟨e', rfl, h⟩
      all_goals cases h
      rfl
  · intro x hx y hy same
    obtain ⟨t, -, rfl⟩ := List.mem_map.1 hx
    obtain ⟨d, -, hd⟩ := List.mem_filterMap.1 hy
    rcases Declaration.type?_eq_some_iff.1 hd with ⟨s, -, rfl⟩ | ⟨e, -, rfl⟩
    all_goals cases same

end Module

/-! ### Their identifiers -/

section

variable {d : Device} {path : NodePath} {typeName : String}

/-- Identifiers of the type of a node and of the type of bit fields named after it: they begin
alike and have different endings. -/
theorem exists_stem_of_lookup (h : (TypeNames.ofDevice d).lookup path = .ok typeName) :
    ∃ stem, typeName = stem ++ TypeName.ending ∧
      (∀ t : ObjectType, t.name = typeName → t.ident = withoutBackticks stem ++ "_Type") ∧
      ∀ t : ObjectType, t.name = TypeName.fields typeName →
        t.ident = withoutBackticks stem ++ "_Fields" := by
  obtain ⟨owner, n, -, numbered⟩ := TypeNames.exists_claim_of_lookup h
  have ending : ∃ stem, typeName = stem ++ TypeName.ending := by
    cases n with
    | zero => exact ⟨_, numbered⟩
    | succ n => exact ⟨_, numbered⟩
  obtain ⟨stem, rfl⟩ := ending
  have ident : ∀ t : ObjectType, t.name = stem ++ TypeName.ending ∨
      t.name = TypeName.fields (stem ++ TypeName.ending) →
        t.ident = withoutBackticks t.name := fun t ht => by
    rw [numbered] at ht
    exact (ident_of_variant ht).1
  have fields : TypeName.fields (stem ++ TypeName.ending) = stem ++ "_Fields" := by
    rw [TypeName.fields, TypeName.append, TypeName.stem_append_ending, String.append_assoc]
    rfl
  refine ⟨stem, rfl, fun t ht => ?_, fun t ht => ?_⟩
  · rw [ident t (.inl ht), ht, withoutBackticks_append]
    rfl
  · rw [ident t (.inr ht), ht, fields, withoutBackticks_append]
    rfl

end

namespace Module

variable {options : Options} {d : Device} {m : Module}

section

variable {types : List (List ObjectType)} {declarations : List (List Declaration)}
  (h : m.IsAssembled options d types declarations)

include h

/-- Every object type that a module declares is the type of a node or of its bit fields. -/
theorem exists_lookup_of_typeDeclarations (t : ObjectType) :
    (.node t ∈ m.typeDeclarations → ∃ path, (TypeNames.ofDevice d).lookup path = .ok t.name) ∧
      (.fields t ∈ m.typeDeclarations → ∃ path typeName,
        (TypeNames.ofDevice d).lookup path = .ok typeName ∧ t.name = TypeName.fields typeName) := by
  rw [node_mem, fields_mem]
  constructor
  · intro ht
    obtain ⟨part, hpart, ht⟩ := List.mem_flatten.1 (h.keepsTypes.mem_all ht)
    obtain ⟨p, -, htypes⟩ := exists_of_mem_results h.types_eq hpart
    exact exists_lookup_of_mem_types (nodeTypes_eq_ok_iff.1 htypes) ht
  · intro ht
    obtain ⟨q, -, -, typeName, hname, made⟩ := h.mem_declarations.1 (h.keepsDeclarations.mem_all ht)
    exact ⟨q.1, typeName, hname, name_of_fieldStruct made⟩

/-- The last letter of a type's name tells the interrupt numbers, the types of nodes and the types
of bit fields apart. -/
theorem getLast?_ident {x : TypeDeclaration} (hx : x ∈ m.typeDeclarations) :
    x.ident.toList.getLast? = match x with
      | .interrupts => some 'n'
      | .node _ => some 'e'
      | .fields _ => some 's'
      | .enumeration e => e.name.toList.getLast? := by
  cases x with
  | interrupts => rfl
  | node t =>
    obtain ⟨path, hname⟩ := (exists_lookup_of_typeDeclarations h t).1 hx
    obtain ⟨stem, -, ident, -⟩ := exists_stem_of_lookup hname
    rw [TypeDeclaration.ident, ident t rfl, String.toList_append, List.getLast?_append]
    rfl
  | fields t =>
    obtain ⟨path, typeName, hname, ht⟩ := (exists_lookup_of_typeDeclarations h t).2 hx
    obtain ⟨stem, -, -, ident⟩ := exists_stem_of_lookup hname
    rw [TypeDeclaration.ident, ident t ht, String.toList_append, List.getLast?_append]
    rfl
  | enumeration e => rfl

/-- Two types of bit fields are declared alike only if the types of their registers are. -/
theorem exists_node_of_fields {t : ObjectType} (ht : .fields t ∈ m.typeDeclarations) :
    ∃ own ∈ m.types, t.name = TypeName.fields own.name ∧
      ∃ stem, own.ident = stem ++ "_Type" ∧ t.ident = stem ++ "_Fields" := by
  obtain ⟨path, typeName, hname, name⟩ := (exists_lookup_of_typeDeclarations h t).2 ht
  obtain ⟨stem, -, node, fields⟩ := exists_stem_of_lookup hname
  obtain ⟨own, hown, rfl⟩ := List.mem_map.1 (h.mem_types_of_lookup hname)
  exact ⟨own, hown, name, withoutBackticks stem, node own rfl, fields t name⟩

theorem ident_of_mem_types {t : ObjectType} (ht : t ∈ m.types) :
    t.ident = withoutBackticks t.name := by
  obtain ⟨path, hname⟩ := (exists_lookup_of_typeDeclarations h t).1 (node_mem.2 ht)
  obtain ⟨stem, name, ident, -⟩ := exists_stem_of_lookup hname
  rw [ident t rfl, name, withoutBackticks_append]
  rfl

/-- Where types of nodes are declared apart, so are types of bit fields. -/
theorem name_eq_of_fields
    (nodes : ∀ t ∈ m.types, ∀ t' ∈ m.types, t.ident = t'.ident → t = t') {t t' : ObjectType}
    (ht : .fields t ∈ m.typeDeclarations) (ht' : .fields t' ∈ m.typeDeclarations)
    (same : t.ident = t'.ident) : t.name = t'.name := by
  obtain ⟨own, hown, name, stem, node, fields⟩ := exists_node_of_fields h ht
  obtain ⟨own', hown', name', stem', node', fields'⟩ := exists_node_of_fields h ht'
  rw [fields, fields', String.append_left_inj] at same
  have owners : own = own' := nodes own hown own' hown' (by rw [node, node', same])
  rw [name, name', owners]

/-- An enumeration whose name no type of another kind has is the only type of its name. -/
theorem eq_enumeration_of_ident {e : EnumType} (he : .enumeration e ∈ m.declarations)
    (interrupts : e.name ≠ "IRQn") (nodes : ∀ t ∈ m.types, t.ident ≠ e.name)
    (fields : ∀ t, .object t ∈ m.declarations → t.ident ≠ e.name) {x : TypeDeclaration}
    (hx : x ∈ m.typeDeclarations) (same : x.ident = e.name) : x = .enumeration e := by
  cases x with
  | interrupts => exact absurd same.symm interrupts
  | node t => exact absurd same (nodes t (node_mem.1 hx))
  | fields t => exact absurd same (fields t (fields_mem.1 hx))
  | enumeration e' =>
    have label : (Declaration.enumeration e').label = (Declaration.enumeration e).label :=
      congrArg (Prod.mk "enum") same
    cases List.inj_on_of_nodup_map h.keepsDeclarations.nodup (enumeration_mem.1 hx) he label
    rfl

/-- Types declared under one name are one type, if that is so for enumerations and for types of
nodes. -/
theorem eq_of_ident_eq
    (enumerations : ∀ e, .enumeration e ∈ m.declarations → ∀ x ∈ m.typeDeclarations,
      x.ident = e.name → x = .enumeration e)
    (nodes : ∀ t ∈ m.types, ∀ t' ∈ m.types, t.ident = t'.ident → t = t') {x y : TypeDeclaration}
    (hx : x ∈ m.typeDeclarations) (hy : y ∈ m.typeDeclarations) (same : x.ident = y.ident) :
    x = y := by
  -- the last letter tells whether the two are of one kind
  have last := congrArg (·.toList.getLast?) same
  simp only [getLast?_ident h hx, getLast?_ident h hy] at last
  cases x with
  | enumeration e => exact (enumerations e (enumeration_mem.1 hx) y hy same.symm).symm
  | interrupts =>
    cases y with
    | interrupts => rfl
    | node t => cases last
    | fields t => cases last
    | enumeration e => exact enumerations e (enumeration_mem.1 hy) _ hx same
  | node t =>
    cases y with
    | interrupts => cases last
    | node t' => rw [nodes t (node_mem.1 hx) t' (node_mem.1 hy) same]
    | fields t' => cases last
    | enumeration e => exact enumerations e (enumeration_mem.1 hy) _ hx same
  | fields t =>
    cases y with
    | interrupts => cases last
    | node t' => cases last
    | fields t' =>
      have label : (Declaration.object t).label = (Declaration.object t').label :=
        congrArg (Prod.mk "field struct") (name_eq_of_fields h nodes hx hy same)
      cases List.inj_on_of_nodup_map h.keepsDeclarations.nodup (fields_mem.1 hx) (fields_mem.1 hy)
        label
      rfl
    | enumeration e => exact enumerations e (enumeration_mem.1 hy) _ hx same

end

/-- **Names of declared types.** The interrupt numbers, the types of nodes and the types of bit
fields have names of different endings, and enumerations have different names. So the types of a
module have different names exactly if no enumeration has the name of a type of another kind, and no
two types of nodes have names that differ in backticks only. -/
theorem nodup_ident_iff (h : (ofDevice options d).outcome = .ok m) :
    (m.typeDeclarations.map TypeDeclaration.ident).Nodup ↔
      (∀ e, .enumeration e ∈ m.declarations → e.name ≠ "IRQn" ∧ (∀ t ∈ m.types, t.ident ≠ e.name) ∧
        ∀ t, .object t ∈ m.declarations → t.ident ≠ e.name) ∧
      ∀ t ∈ m.types, ∀ t' ∈ m.types, withoutBackticks t.name = withoutBackticks t'.name →
        t = t' := by
  obtain ⟨types, declarations, assembled⟩ := exists_isAssembled h
  have nodup : m.typeDeclarations.Nodup := nodup_typeDeclarations
    assembled.keepsTypes.nodup.of_map assembled.keepsDeclarations.nodup.of_map
  rw [List.nodup_map_iff_inj_on nodup]
  constructor
  · intro apart
    refine ⟨fun e he => ⟨fun same => ?_, fun t ht same => ?_, fun t ht same => ?_⟩,
      fun t ht t' ht' same => ?_⟩
    · cases apart _ (enumeration_mem.2 he) _ m.interrupts_mem same
    · cases apart _ (node_mem.2 ht) _ (enumeration_mem.2 he) same
    · cases apart _ (fields_mem.2 ht) _ (enumeration_mem.2 he) same
    · rw [← ident_of_mem_types assembled ht, ← ident_of_mem_types assembled ht'] at same
      exact TypeDeclaration.node.inj (apart _ (node_mem.2 ht) _ (node_mem.2 ht') same)
  · rintro ⟨apart, backticks⟩ x hx y hy same
    refine eq_of_ident_eq assembled (fun e he z hz => ?_) (fun t ht t' ht' alike => ?_) hx hy same
    · obtain ⟨interrupts, nodes, fields⟩ := apart e he
      exact eq_enumeration_of_ident assembled he interrupts nodes fields hz
    · rw [ident_of_mem_types assembled ht, ident_of_mem_types assembled ht'] at alike
      exact backticks t ht t' ht' alike

/-- A port whose control register has a bit field with a named value. -/
def enumeratedPort (field : String) : Device where
  name := "BOARD"
  peripherals := [
    { name := "PORT", baseAddress := 0x40000000
      registers := [
        { name := "CTRL", offset := 0
          fields := [
            { name := field, lsb := 0, msb := 1
              enumeratedValues := some { values := [("on", 1)] } }] }] }]

theorem nodup_ident_iff_enumeratedPort : ∃ m,
    (ofDevice {} (enumeratedPort "MODE")).outcome = .ok m ∧
    m.typeDeclarations.map TypeDeclaration.ident =
      ["IRQn", "PORT_CTRL_Type", "PORT_Type", "PORT_CTRL_Fields", "PORT_CTRL_MODE"] ∧
    ∀ e, .enumeration e ∈ m.declarations → ∀ t ∈ m.types, t.ident ≠ e.name := by
  have run : ((ofDevice {} (enumeratedPort "MODE")).outcome.map fun m =>
      m.typeDeclarations.map TypeDeclaration.ident) =
        .ok ["IRQn", "PORT_CTRL_Type", "PORT_Type", "PORT_CTRL_Fields", "PORT_CTRL_MODE"] := by
    decide +kernel
  obtain ⟨m, h, names⟩ := map_eq_ok_iff.1 run
  obtain ⟨enumerations, -⟩ := (nodup_ident_iff h).1 (by rw [names]; decide)
  exact ⟨m, h, names, fun e he => (enumerations e he).2.1⟩

theorem not_forall_nodup_ident : ¬ ∀ (options : Options) (d : Device) (m : Module),
    (ofDevice options d).outcome = .ok m →
      (m.typeDeclarations.map TypeDeclaration.ident).Nodup := by
  intro nodup
  have run : ((ofDevice {} (enumeratedPort "Fields")).outcome.map fun m =>
      m.typeDeclarations.map TypeDeclaration.ident) =
        .ok ["IRQn", "PORT_CTRL_Type", "PORT_Type", "PORT_CTRL_Fields", "PORT_CTRL_Fields"] := by
    decide +kernel
  obtain ⟨m, h, names⟩ := map_eq_ok_iff.1 run
  have apart := nodup {} (enumeratedPort "Fields") m h
  rw [names] at apart
  exact absurd apart (by decide)

end Module

end RegisterMap.Nim
