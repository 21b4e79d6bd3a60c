import RegisterMap.Proofs.Nim.Assembly
import RegisterMap.Proofs.Nim.Names
import RegisterMap.Proofs.Nim.NodeTypes
import RegisterMap.Proofs.Nim.Values

/-!
# Declared before use

In a module every type is declared once, and before whatever is made of it. A definition that is
dropped does not disturb this, since another of its name was declared earlier. Accessors take
registers of declared types, and values that are integers or of a type declared earlier.

## Main definitions

* `Routine.valueType?` : the type of the value that an accessor returns or takes.
* `Declaration.IsUsable` : what an accessor needs is declared.

## Main results

* `Module.IsAssembled.mem_types_of_lookup` : the type of every node is declared.
* `Module.declared_before_use` : all that a module mentions is declared before.
-/

namespace RegisterMap.Nim

/-! ### Values of accessors -/

/-- Type of the value that an accessor returns, or else takes. -/
def Routine.valueType? (a : Routine) : Option String :=
  if a.name = Operation.read.name then a.returnType else a.parameters.lookup "val"

theorem eq_of_valueType?_accessor {r : Register} {typeName v : String} : (o : Operation) →
    (accessor r typeName o).valueType? = some v → v = registerValueType r typeName
  | .read, h => (Option.some.inj h).symm
  | .write, h => (Option.some.inj h).symm
  | .modify, h => by cases h

/-- What an accessor needs is declared: it is made for one of the given registers, takes a register
of its type, and its value is an integer of the register's size or of a declared type. -/
def Declaration.IsUsable (names : TypeNames) (registers : List (NodePath × Register))
    (declared : List (String × String)) : Declaration → Prop
  | object _ => True
  | enumeration _ => True
  | routine a => ∃ q ∈ registers, ∃ typeName, names.lookup q.1 = .ok typeName ∧
      a.registerType? = some typeName ∧
      ∀ v, a.valueType? = some v → v = intType q.2 ∨ (DeclarationKind.structs.name, v) ∈ declared

section

variable {names : TypeNames} {registers : List (NodePath × Register)}

theorem Declaration.isUsable_mono (declared declared' : List (String × String))
    (x : Declaration) (hs : declared ⊆ declared') (h : x.IsUsable names registers declared) :
    x.IsUsable names registers declared' := by
  cases x with
  | object t => trivial
  | enumeration e => trivial
  | routine a =>
    obtain ⟨q, hq, typeName, hname, htype, hv⟩ := h
    exact ⟨q, hq, typeName, hname, htype, fun v hval => (hv v hval).imp_right fun mem => hs mem⟩

/-- An accessor of a register with fields comes after the type of the fields. -/
theorem eachAfter_peripheralDeclarations {p : Peripheral} {ds : List Declaration}
    (h : peripheralDeclarations names p = .ok ds) (hr : p.registersBelow ⊆ registers) :
    EachAfter Declaration.label (Declaration.IsUsable names registers) [] ds := by
  have made := fun x => (mem_peripheralDeclarations h (x := x)).1
  rw [peripheralDeclarations] at h
  obtain ⟨structs, hstructs, h⟩ := bind_eq_ok_iff.1 h
  obtain ⟨enums, -, h⟩ := bind_eq_ok_iff.1 h
  obtain ⟨items, -, h⟩ := bind_eq_ok_iff.1 h
  cases Except.ok.inj h
  refine eachAfter_append.2 ⟨eachAfter_of_forall Declaration.isUsable_mono fun x hx => ?_,
    eachAfter_of_forall Declaration.isUsable_mono fun x hx => ?_⟩
  · rcases List.mem_append.1 hx with hx | hx
    all_goals
      obtain ⟨t, -, rfl⟩ := List.mem_map.1 hx
      trivial
  · obtain ⟨item, -, rfl⟩ := List.mem_map.1 hx
    obtain ⟨q, hq, typeName, hname, o, -, ha⟩ := made (.routine item.2)
      (List.mem_append_right _ hx)
    refine ⟨q, hr hq, typeName, hname, ha ▸ registerType?_accessor q.2 typeName o, fun v hv => ?_⟩
    have hval : v = registerValueType q.2 typeName := eq_of_valueType?_accessor o (ha ▸ hv)
    rw [hval, registerValueType]
    split
    · next fields =>
      obtain ⟨t, ht, -, same, hsame, hstruct⟩ := exists_fieldStruct hstructs hq fields
      cases Except.ok.inj (hname.symm.trans hsame)
      exact .inr (DeclarationKind.structs.mem_labels.2
        ⟨t, List.mem_append_left _ (List.mem_map_of_mem ht), name_of_fieldStruct hstruct⟩)
    · exact .inl rfl

end

/-! ### Names of a module -/

namespace Module

variable {options : Options} {d : Device} {m : Module} {types : List (List ObjectType)}
  {declarations : List (List Declaration)}

/-- The type of every node is declared. -/
theorem IsAssembled.mem_types_of_lookup (h : m.IsAssembled options d types declarations)
    {path : NodePath} {typeName : String}
    (hname : (TypeNames.ofDevice d).lookup path = .ok typeName) :
    typeName ∈ m.types.map ObjectType.name := by
  obtain ⟨p, hp, hpath⟩ := TypeNames.exists_lookup_iff.1 ⟨typeName, hname⟩
  obtain ⟨part, hpart, htypes⟩ := exists_of_mem_mapM h.types_eq hp
  obtain ⟨t, ht, hlookup⟩ := exists_type_of_mem_paths (nodeTypes_eq_ok_iff.1 htypes) hpath
  cases Except.ok.inj (hname.symm.trans hlookup)
  exact h.keepsTypes.key_mem (List.mem_flatten.2 ⟨part, hpart, ht⟩)

theorem IsAssembled.eachAfter_types (h : m.IsAssembled options d types declarations) :
    EachAfter ObjectType.name ObjectType.IsMadeOf [] m.types := by
  refine h.keepsTypes.eachAfter ObjectType.isMadeOf_mono
    (eachAfter_flatten ObjectType.isMadeOf_mono fun part hpart => ?_)
  obtain ⟨p, -, htypes⟩ := exists_of_mem_results h.types_eq hpart
  exact eachAfter_contentsTypes (nodeTypes_eq_ok_iff.1 htypes)

theorem IsAssembled.eachAfter_declarations (h : m.IsAssembled options d types declarations) :
    EachAfter Declaration.label (Declaration.IsUsable (TypeNames.ofDevice d)
      (d.peripherals.flatMap Peripheral.registersBelow)) [] m.declarations := by
  refine h.keepsDeclarations.eachAfter Declaration.isUsable_mono
    (eachAfter_flatten Declaration.isUsable_mono fun part hpart => ?_)
  obtain ⟨p, hp, hparts⟩ := exists_of_mem_results h.declarations_eq hpart
  exact eachAfter_peripheralDeclarations hparts fun q hq => List.mem_flatMap.2 ⟨p, hp, hq⟩

/-- **Declared before use.** The types of a module have different names, and each is made of types
declared before it. The constants are made of declared types. Every accessor takes the declared type
of a register of the device, and its value is an integer of the register's size or of a type of bit
fields declared before the accessor. -/
theorem declared_before_use (h : (ofDevice options d).outcome = .ok m) :
    (m.types.map ObjectType.name).Nodup ∧
    (∀ before t after, m.types = before ++ t :: after →
      t.IsMadeOf (before.map ObjectType.name)) ∧
    (∀ i ∈ m.instances, i.value.Named (· ∈ m.types.map ObjectType.name) fun _ => True) ∧
    ∀ before a after, m.declarations = before ++ .routine a :: after →
      ∃ q ∈ d.peripherals.flatMap Peripheral.registersBelow,
        ∃ typeName ∈ m.types.map ObjectType.name,
          (TypeNames.ofDevice d).lookup q.1 = .ok typeName ∧
          a.registerType? = some typeName ∧
          ∀ v, a.valueType? = some v → v = intType q.2 ∨ ∃ s, .object s ∈ before ∧ s.name = v := by
  obtain ⟨types, declarations, assembled⟩ := exists_isAssembled h
  refine ⟨assembled.keepsTypes.nodup, assembled.eachAfter_types, fun i hi => ?_,
    fun before a after split => ?_⟩
  · obtain ⟨p, -, hconstant⟩ := exists_of_mem_results assembled.instances_eq hi
    exact Instance.named_value (fun _ _ => assembled.mem_types_of_lookup) (fun _ => trivial)
      hconstant
  · obtain ⟨q, hq, typeName, hname, htype, hv⟩ :=
      assembled.eachAfter_declarations before _ after split
    refine ⟨q, hq, typeName, assembled.mem_types_of_lookup hname, hname, htype, fun v hval => ?_⟩
    exact (hv v hval).imp_right DeclarationKind.structs.mem_labels.1

/-- Two ports whose types the description calls by one name, though they hold different registers:
the type of the second port is dropped. -/
def clashingPorts : Device where
  name := "BOARD"
  peripherals := [
    { name := "PORT", baseAddress := 0x40000000, registers := [{ name := "CTRL", offset := 0 }] },
    { name := "GPIO", baseAddress := 0x40001000, headerStructName := some "PORT",
      registers := [{ name := "DATA", offset := 4
                      fields := [{ name := "EN", lsb := 0, msb := 0 }] }] }]

theorem declared_before_use_clashingPorts : ∃ m, (ofDevice {} clashingPorts).outcome = .ok m ∧
    m.types.map ObjectType.name = ["PORT_CTRL_Type", "PORT_Type", "PORT_DATA_Type"] ∧
    (∀ before t after, m.types = before ++ t :: after →
      t.IsMadeOf (before.map ObjectType.name)) ∧
    ∀ i ∈ m.instances, i.value.Named (· ∈ m.types.map ObjectType.name) fun _ => True := by
  have run : ((ofDevice {} clashingPorts).outcome.map fun m => m.types.map ObjectType.name) =
      .ok ["PORT_CTRL_Type", "PORT_Type", "PORT_DATA_Type"] := by
    decide +kernel
  obtain ⟨m, h, names⟩ := map_eq_ok_iff.1 run
  obtain ⟨-, ordered, typed, -⟩ := declared_before_use h
  exact ⟨m, h, names, ordered, typed⟩

end Module

end RegisterMap.Nim
