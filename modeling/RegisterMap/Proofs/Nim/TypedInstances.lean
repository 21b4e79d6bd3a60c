import RegisterMap.Proofs.Nim.Assembly
import RegisterMap.Proofs.Nim.NodeTypes
import RegisterMap.Proofs.Nim.Values

/-!
# Instances have their types

If no definition of a module was dropped for a different one, its constants are well typed: every
object lists the fields of its type in order, and every array has the length of its type. All that
was made for a register is declared as it was made.

## Main definitions

* `Value.HasType` : a value is of a type, given the declared object types.

## Main results

* `hasType_memberValues` : the members of a node are those of its type.
* `Module.instances_well_typed` : the constants of a strict module have their types.
-/

namespace RegisterMap.Nim

/-! ### Typed values -/

/-- The value is of a type. A register is of a type that only holds a location, an object has the
members that the declaration of its type lists, in the same order, and an array has as many elements
as its type says. -/
inductive Value.HasType (types : List ObjectType) : Value → TypeExpr → Prop
  | register {typeName : String} (address : Int) (ht : registerType typeName ∈ types) :
      HasType types (.register typeName address) (.named typeName)
  | object {t : ObjectType} {ms : List (String × Value)} (ht : t ∈ types)
      (names : ms.map Prod.fst = t.fields.map ObjectField.name)
      (values : List.Forall₂ (fun m f => HasType types m.2 f.type) ms t.fields) :
      HasType types (.object t.name ms) (.named t.name)
  | array {vs : List Value} {typeName : String} (hv : ∀ v ∈ vs, HasType types v (.named typeName)) :
      HasType types (.array vs) (.array vs.length typeName)

/-- The value has the type of a node that has the given repetition and a type of the given name. -/
def Value.HasTypeOf (types : List ObjectType) (r : Option Repetition) (typeName : String)
    (v : Value) : Prop := ∃ type : TypeExpr, type.Suits r typeName ∧ v.HasType types type

/-- Only one type suits a node. -/
theorem Value.HasTypeOf.hasType {types : List ObjectType} {r : Option Repetition}
    {typeName : String} {v : Value} {type : TypeExpr} (h : v.HasTypeOf types r typeName)
    (ht : type.Suits r typeName) : v.HasType types type := by
  obtain ⟨other, hother, hv⟩ := h
  cases ht with
  | named hr =>
    cases hother with
    | named _ => exact hv
    | array hr' _ => cases hr.symm.trans hr'
  | array hr count =>
    cases hother with
    | named hr' => cases hr.symm.trans hr'
    | array _ count' =>
      cases Int.ofNat.inj (Option.some.inj (count.symm.trans count'))
      exact hv

section

variable {types : List ObjectType} {base : Int} {v : Value}

theorem hasTypeOf_array {r : Option Repetition} {typeName owner : String} {l : Repetition.Layout}
    (hr : isRepeated r = true) (hl : layout owner r = .ok l) {vs : List Value}
    (length : vs.length = l.count) (hv : ∀ v ∈ vs, v.HasType types (.named typeName)) :
    (Value.array vs).HasTypeOf types r typeName := by
  refine ⟨.array vs.length typeName, .array hr ?_, .array hv⟩
  rw [length]
  exact (layout_eq_ok_iff.1 hl).2.1

theorem hasTypeOf_registerValue {names : TypeNames} {path : NodePath} {r : Register}
    {typeName : String} (hname : names.lookup path = .ok typeName)
    (hmem : registerType typeName ∈ types) (h : registerValue names path base r = .ok v) :
    v.HasTypeOf types r.repetition typeName := by
  obtain ⟨found, hfound, hv⟩ := registerValue_eq_ok h
  cases Except.ok.inj (hname.symm.trans hfound)
  rcases hv with ⟨hr, rfl⟩ | ⟨hr, l, hl, rfl⟩
  · exact ⟨_, .named hr, .register _ hmem⟩
  · refine hasTypeOf_array hr hl (by simp) fun v hv => ?_
    obtain ⟨distance, -, rfl⟩ := List.mem_map.1 hv
    exact .register _ hmem

theorem hasTypeOf_objectValue {typeName owner : String} {r : Option Repetition}
    {members : Int → Except Fault (List (String × Value))}
    (hm : ∀ base ms, members base = .ok ms →
      (Value.object typeName ms).HasType types (.named typeName))
    (h : objectValue typeName owner r base members = .ok v) : v.HasTypeOf types r typeName := by
  rcases objectValue_eq_ok h with ⟨hr, ms, hms, rfl⟩ | ⟨hr, l, objects, hl, rfl, ho⟩
  · exact ⟨_, .named hr, hm _ ms hms⟩
  · refine hasTypeOf_array hr hl (ho.length_eq.symm.trans l.length_offsets) fun o hmem => ?_
    obtain ⟨distance, -, ms, hms, rfl⟩ := exists_of_mem_right ho hmem
    exact hm _ ms hms

end

/-! ### Nodes and their types -/

section

variable {names : TypeNames} {decoration : Decoration} {path : NodePath} {c : Contents}
  {ts types : List ObjectType}

/-- The types of a node hold those of every node in it. -/
theorem contentsTypes_of_hasNode {q : NodePath} {e : Contents} (hn : c.HasNode path q e)
    (h : contentsTypes names decoration path c = .ok ts) :
    ∃ part ⊆ ts, contentsTypes names decoration q e = .ok part := by
  induction hn generalizing ts with
  | self path c => exact ⟨ts, List.Subset.refl ts, h⟩
  | cluster hc _ ih =>
    obtain ⟨part, hsub, hpart⟩ := contentsTypes_subset h hc
    obtain ⟨inside, hinside, hq⟩ := ih hpart
    exact ⟨inside, List.Subset.trans hinside hsub, hq⟩

/-- The members of a node, at whatever address, are those that its declared type lists, and each has
the type that is listed for it. -/
theorem hasType_memberValues (h : contentsTypes names decoration path c = .ok ts)
    (hs : ts ⊆ types) : ∃ t ∈ types, names.lookup path = .ok t.name ∧
      ∀ base ms, memberValues names decoration path base c.nodes = .ok ms →
        (Value.object t.name ms).HasType types (.named t.name) := by
  induction c using Contents.induction generalizing path ts with
  | step c ih =>
    obtain ⟨own, hown, hcomposite⟩ := compositeType_mem h
    obtain ⟨hname, hfields⟩ := compositeType_eq_ok hcomposite
    refine ⟨own, hs hown, hname, fun base ms hms => ?_⟩
    rw [← Contents.map_member_nodes, List.forall₂_map_left_iff] at hfields
    have members : List.Forall₂ (fun m f => m.1 = f.name ∧ m.2.HasType types f.type)
        ms own.fields := by
      refine forall₂_of_forall₂ (forall₂_of_memberValues hms) hfields fun n hn m f hm hf => ?_
      obtain ⟨fieldName, typeName, htypeName, suits⟩ := memberField_eq_ok hf
      refine ⟨hm.1.trans fieldName.symm, ?_⟩
      rcases Contents.mem_nodes.1 hn with ⟨r, hr, rfl⟩ | ⟨inner, hc, rfl⟩
      · obtain ⟨found, hfound, hmem⟩ := registerType_mem_of_mem_registers h hr
        cases Except.ok.inj (htypeName.symm.trans hfound)
        exact (hasTypeOf_registerValue htypeName (hs hmem) hm.2).hasType suits
      · obtain ⟨part, hsub, hpart⟩ := contentsTypes_subset h hc
        obtain ⟨t, -, ht, objects⟩ := ih inner hc hpart (List.Subset.trans hsub hs)
        rw [Cluster.member_node] at htypeName suits hm
        obtain rfl : typeName = t.name := Except.ok.inj (htypeName.symm.trans ht)
        have value := hm.2
        rw [Cluster.node_eq, nodeValue_cluster] at value
        obtain ⟨found, hfound, value⟩ := bind_eq_ok_iff.1 value
        cases Except.ok.inj (ht.symm.trans hfound)
        exact (hasTypeOf_objectValue objects value).hasType suits
    have names : ms.map Prod.fst = own.fields.map ObjectField.name := by
      rw [← List.forall₂_eq_eq_eq, List.forall₂_map_left_iff, List.forall₂_map_right_iff]
      exact members.imp fun _ _ => And.left
    exact .object (hs hown) names (members.imp fun _ _ => And.right)

/-- The constant of a peripheral has the type of the peripheral. -/
theorem Instance.hasTypeOf_value {options : Options} {p : Peripheral} {i : Instance}
    (h : contentsTypes names (Decoration.ofPeripheral p options) [p.name] p.contents = .ok ts)
    (hs : ts ⊆ types) (hi : ofPeripheral names options p = .ok i) : ∃ typeName,
      names.lookup [p.name] = .ok typeName ∧ i.value.HasTypeOf types p.repetition typeName := by
  obtain ⟨t, -, hname, objects⟩ := hasType_memberValues h hs
  rw [ofPeripheral_eq] at hi
  obtain ⟨found, hfound, hi⟩ := bind_eq_ok_iff.1 hi
  cases Except.ok.inj (hname.symm.trans hfound)
  obtain ⟨v, hv, hi⟩ := bind_eq_ok_iff.1 hi
  cases Except.ok.inj hi
  exact ⟨t.name, hname, hasTypeOf_objectValue objects hv⟩

end

/-! ### Modules -/

namespace Module

variable {options : Options} {d : Device} {m : Module} {types : List (List ObjectType)}
  {declarations : List (List Declaration)}

/-- In strict mode the types of every node of every peripheral are declared. -/
theorem IsAssembled.exists_contentsTypes (h : m.IsAssembled options d types declarations)
    (hs : options.strict = true) {p : Peripheral} (hp : p ∈ d.peripherals) :
    ∃ ts ⊆ m.types, contentsTypes (TypeNames.ofDevice d) (Decoration.ofPeripheral p options)
      [p.name] p.contents = .ok ts := by
  obtain ⟨ts, hts, htypes⟩ := exists_of_mem_mapM h.types_eq hp
  refine ⟨ts, fun t ht => ?_, nodeTypes_eq_ok_iff.1 htypes⟩
  exact h.keepsTypes.mem_of_strict hs t (List.mem_flatten.2 ⟨ts, hts, ht⟩)

/-- **Instances are well typed.** The types of a strict module have different names. Every node of a
device has its type among them, and wherever the node is written it lists the members of that type
in order, each of the type listed for it. So the constant of every peripheral has the peripheral's
type. Every register has the type of a register, and whatever is made for a register is declared,
and nothing else under its name. -/
theorem instances_well_typed (hs : options.strict = true)
    (h : (ofDevice options d).outcome = .ok m) :
    (m.types.map ObjectType.name).Nodup ∧
    (∀ p ∈ d.peripherals, ∀ q e, p.contents.HasNode [p.name] q e →
      ∃ t ∈ m.types, (TypeNames.ofDevice d).lookup q = .ok t.name ∧
        ∀ base ms, memberValues (TypeNames.ofDevice d) (Decoration.ofPeripheral p options) q base
          e.nodes = .ok ms → (Value.object t.name ms).HasType m.types (.named t.name)) ∧
    List.Forall₂ (fun p i => ∃ typeName, (TypeNames.ofDevice d).lookup [p.name] = .ok typeName ∧
      i.value.HasTypeOf m.types p.repetition typeName) d.peripherals m.instances ∧
    ∀ q ∈ d.peripherals.flatMap Peripheral.registersBelow,
      (∃ typeName, (TypeNames.ofDevice d).lookup q.1 = .ok typeName ∧
        registerType typeName ∈ m.types) ∧
      ∀ x : Declaration, x.IsFor (TypeNames.ofDevice d) q →
        x ∈ m.declarations ∧ ∀ y ∈ m.declarations, y.label = x.label → y = x := by
  obtain ⟨types, declarations, assembled⟩ := exists_isAssembled h
  refine ⟨assembled.keepsTypes.nodup, fun p hp q e hn => ?_, ?_, fun q hq => ⟨?_, fun x hx => ?_⟩⟩
  · obtain ⟨ts, hsub, hts⟩ := assembled.exists_contentsTypes hs hp
    obtain ⟨part, hpart, hq⟩ := contentsTypes_of_hasNode hn hts
    exact hasType_memberValues hq (List.Subset.trans hpart hsub)
  · refine ((List.forall₂_and_left (p := (· ∈ d.peripherals)) _ _).2
      ⟨fun _ hp => hp, mapM_eq_ok_iff.1 assembled.instances_eq⟩).imp fun p i hi => ?_
    obtain ⟨ts, hsub, hts⟩ := assembled.exists_contentsTypes hs hi.1
    exact Instance.hasTypeOf_value hts hsub hi.2
  · obtain ⟨p, hp, hbelow⟩ := List.mem_flatMap.1 hq
    obtain ⟨ts, hsub, hts⟩ := assembled.exists_contentsTypes hs hp
    obtain ⟨typeName, hname, hmem⟩ := registerType_mem hts hbelow
    exact ⟨typeName, hname, hsub hmem⟩
  · have mem := assembled.keepsDeclarations.mem_of_strict hs x
      (assembled.mem_declarations.2 ⟨q, hq, hx⟩)
    exact ⟨mem, fun y hy same =>
      List.inj_on_of_nodup_map assembled.keepsDeclarations.nodup hy mem same⟩

/-- An array of four registers with one field. -/
def pins : Register where
  name := "PIN[%s]"
  offset := 0
  fields := [{ name := "EN", lsb := 0, msb := 0 }]
  repetition := some { count := some 4, increment := some 4 }

/-- An array of two ports and a single port of the same type. -/
def equalPorts : Device where
  name := "BOARD"
  peripherals := [
    { name := "PORT[%s]", baseAddress := 0x40000000, registers := [pins],
      repetition := some { count := some 2, increment := some 0x100 } },
    { name := "GPIO", baseAddress := 0x40001000, headerStructName := some "PORT",
      registers := [pins] }]

theorem instances_well_typed_equalPorts : ∃ m,
    (ofDevice { strict := true } equalPorts).outcome = .ok m ∧
    List.Forall₂ (fun p i => ∃ typeName,
      (TypeNames.ofDevice equalPorts).lookup [p.name] = .ok typeName ∧
        i.value.HasTypeOf m.types p.repetition typeName) equalPorts.peripherals m.instances := by
  have run : ((ofDevice { strict := true } equalPorts).outcome.map fun m =>
      m.types.map ObjectType.name) = .ok ["PORT_PIN_Type", "PORT_Type"] := by
    decide +kernel
  obtain ⟨m, h, -⟩ := map_eq_ok_iff.1 run
  exact ⟨m, h, (instances_well_typed rfl h).2.2.1⟩

end Module

end RegisterMap.Nim
