import Mathlib.Data.Prod.Basic
import RegisterMap.Nim.Module
import RegisterMap.Proofs.Nim.FirstDefinitions

/-!
# How a module is assembled

A module declares what is made for its peripherals, one peripheral after the other, and of each name
the first. There is a table for each kind of declaration. This file shows that the tables act as
one, in which a declaration goes by its kind and name.

## Main definitions

* `Declaration.label` : kind and name of a declaration.
* `DeclarationKind` : the declarations of one kind.
* `Declaration.IsFor` : a declaration is made for a register.
* `Module.IsAssembled` : a module consists of the first of what is made for a device.

## Main results

* `mem_peripheralDeclarations` : what is made for a peripheral is made for its registers.
* `Tables.defineAll_eq_ok` : the tables keep the first declaration of each label.
* `Module.ofDevice_eq_ok_iff` : the stages in which a module is made.
* `Module.exists_isAssembled` : every module is assembled in that way.
* `Module.IsAssembled.mem_declarations` : what is made for a device is made for its registers.
-/

namespace RegisterMap.Nim

/-! ### Kinds and names -/

/-- Register type that an accessor takes. -/
def Routine.registerType? (a : Routine) : Option String := a.parameters.lookup "reg"

/-- Name under which an accessor is known: its own and that of the register type that it takes. -/
def Routine.key (a : Routine) : String := a.name ++ "[" ++ a.registerType?.getD "" ++ "]"

theorem registerType?_accessor (r : Register) (typeName : String) :
    (o : Operation) → (accessor r typeName o).registerType? = some typeName
  | .read => rfl
  | .write => rfl
  | .modify => rfl

theorem name_accessor (r : Register) (typeName : String) :
    (o : Operation) → (accessor r typeName o).name = o.name
  | .read => rfl
  | .write => rfl
  | .modify => rfl

theorem key_accessor (r : Register) (typeName : String) (o : Operation) :
    (accessor r typeName o).key = o.key typeName := by
  rw [Routine.key, registerType?_accessor, name_accessor]
  rfl

/-- Kind and name of a declaration. -/
def Declaration.label : Declaration → String × String
  | object t => ("field struct", t.name)
  | enumeration e => ("enum", e.name)
  | routine a => ("accessor", a.key)

/-- The declarations of one kind: how they stand among all declarations, and the name by which they
are known. -/
structure DeclarationKind (α : Type) where
  name : String
  embed : α → Declaration
  select : Declaration → Option α
  key : α → String
  select_eq_some_iff : ∀ {d a}, select d = some a ↔ d = embed a
  label_embed : ∀ a, (embed a).label = (name, key a)
  exists_of_label : ∀ d : Declaration, d.label.1 = name → ∃ a, d = embed a

namespace DeclarationKind

/-- The types of bit fields. -/
def structs : DeclarationKind ObjectType where
  name := "field struct"
  embed := .object
  select
    | .object t => some t
    | _ => none
  key := ObjectType.name
  select_eq_some_iff {d _} := by cases d <;> simp
  label_embed _ := rfl
  exists_of_label d h := by cases d <;> simp_all [Declaration.label]

/-- The enumerations. -/
def enums : DeclarationKind EnumType where
  name := "enum"
  embed := .enumeration
  select
    | .enumeration e => some e
    | _ => none
  key := EnumType.name
  select_eq_some_iff {d _} := by cases d <;> simp
  label_embed _ := rfl
  exists_of_label d h := by cases d <;> simp_all [Declaration.label]

/-- The accessors. -/
def routines : DeclarationKind Routine where
  name := "accessor"
  embed := .routine
  select
    | .routine a => some a
    | _ => none
  key := Routine.key
  select_eq_some_iff {d _} := by cases d <;> simp
  label_embed _ := rfl
  exists_of_label d h := by cases d <;> simp_all [Declaration.label]

variable {α β : Type} (kind : DeclarationKind α) {ds : List Declaration}

theorem mem_selected {a : α} : a ∈ ds.filterMap kind.select ↔ kind.embed a ∈ ds := by
  rw [List.mem_filterMap]
  constructor
  · rintro ⟨d, hd, h⟩
    exact kind.select_eq_some_iff.1 h ▸ hd
  · exact fun h => ⟨_, h, kind.select_eq_some_iff.2 rfl⟩

theorem mem_labels {name : String} :
    (kind.name, name) ∈ ds.map Declaration.label ↔ ∃ a, kind.embed a ∈ ds ∧ kind.key a = name := by
  rw [List.mem_map]
  constructor
  · rintro ⟨d, hd, h⟩
    obtain ⟨a, rfl⟩ := kind.exists_of_label d (congrArg Prod.fst h)
    exact ⟨a, hd, congrArg Prod.snd ((kind.label_embed a).symm.trans h)⟩
  · rintro ⟨a, ha, rfl⟩
    exact ⟨_, ha, kind.label_embed a⟩

theorem filterMap_select_map_embed (as : List α) :
    (as.map kind.embed).filterMap kind.select = as := by
  rw [List.filterMap_map]
  have own : kind.select ∘ kind.embed = some := funext fun a => kind.select_eq_some_iff.2 rfl
  rw [own, List.filterMap_some]

/-- Declarations of another kind change nothing. -/
theorem filterMap_select_append_other {other : DeclarationKind β} (h : kind.name ≠ other.name)
    (bs : List β) :
    (ds ++ bs.map other.embed).filterMap kind.select = ds.filterMap kind.select := by
  have none : ∀ d ∈ bs.map other.embed, kind.select d = none := by
    intro d hd
    obtain ⟨b, -, rfl⟩ := List.mem_map.1 hd
    refine Option.eq_none_iff_forall_ne_some.2 fun a ha => h ?_
    have same := congrArg Declaration.label (kind.select_eq_some_iff.1 ha)
    rw [other.label_embed, kind.label_embed] at same
    exact (congrArg Prod.fst same).symm
  rw [List.filterMap_append, List.filterMap_eq_nil_iff.2 none, List.append_nil]

/-- A table for one kind keeps the first declaration of each label. -/
theorem defineAll_eq_ok [DecidableEq α] {t t' : FirstWins α} {strict : Bool} {items kept : List α}
    (ht : t.Holds kind.key strict (ds.filterMap kind.select))
    (h : (t.defineAll (items.map fun a => (kind.key a, a))).outcome = .ok (kept, t')) :
    Keeps Declaration.label strict ds (items.map kind.embed) (kept.map kind.embed) ∧
      t'.Holds kind.key strict ((ds ++ kept.map kind.embed).filterMap kind.select) := by
  obtain ⟨keeps, held⟩ := FirstWins.defineAll_eq_ok ht h
  constructor
  · refine keeps.map kind.label_embed (Prod.mk_right_injective kind.name) (fun k => ?_)
      fun a ha => kind.mem_selected.1 ha
    rw [kind.mem_labels, List.mem_map]
    simp only [mem_selected]
  · rwa [List.filterMap_append, filterMap_select_map_embed]

end DeclarationKind

/-! ### Declarations of a peripheral -/

section

variable {names : TypeNames}

/-- All declarations made for a peripheral, in order. -/
def peripheralDeclarations (names : TypeNames) (p : Peripheral) :
    Except Fault (List Declaration) := do
  let structs ← fieldStructs p names
  let enums ← enumTypes p names
  let routines ← peripheralAccessors p names
  pure (structs.map .object ++ enums.map .enumeration ++ routines.map fun item => .routine item.2)

/-- A declaration is made for a register that has the given path. -/
def Declaration.IsFor (names : TypeNames) (q : NodePath × Register) : Declaration → Prop
  | object t => q.2.hasFields = true ∧
      ∃ typeName, names.lookup q.1 = .ok typeName ∧ fieldStruct q.2 typeName = .ok t
  | enumeration e => ∃ typeName, names.lookup q.1 = .ok typeName ∧ e ∈ fieldEnums q.2 typeName
  | routine a => ∃ typeName, names.lookup q.1 = .ok typeName ∧
      ∃ o : Operation, o.isAllowed q.2.access = true ∧ a = accessor q.2 typeName o

/-- What is made for registers one after the other. -/
theorem mem_flatten_mapM {α : Type} {f : Register → String → List α}
    {qs : List (NodePath × Register)} {ys : List α}
    (h : (qs.mapM fun (path, r) => (names.lookup path).map (f r)).map List.flatten = .ok ys)
    {y : α} :
    y ∈ ys ↔ ∃ q ∈ qs, ∃ typeName, names.lookup q.1 = .ok typeName ∧ y ∈ f q.2 typeName := by
  obtain ⟨yss, hyss, rfl⟩ := map_eq_ok_iff.1 h
  rw [List.mem_flatten]
  constructor
  · rintro ⟨part, hpart, hy⟩
    obtain ⟨q, hq, hmap⟩ := exists_of_mem_results hyss hpart
    obtain ⟨typeName, hname, rfl⟩ := map_eq_ok_iff.1 hmap
    exact ⟨q, hq, typeName, hname, hy⟩
  · rintro ⟨q, hq, typeName, hname, hy⟩
    obtain ⟨part, hpart, hmap⟩ := exists_of_mem_mapM hyss hq
    have hmap : (names.lookup q.1).map (f q.2) = .ok part := hmap
    rw [hname] at hmap
    cases Except.ok.inj hmap
    exact ⟨_, hpart, hy⟩

theorem name_of_fieldStruct {r : Register} {typeName : String} {t : ObjectType}
    (h : fieldStruct r typeName = .ok t) : t.name = TypeName.fields typeName := by
  rw [fieldStruct] at h
  obtain ⟨fields, -, h⟩ := bind_eq_ok_iff.1 h
  cases Except.ok.inj h
  rfl

/-- Every register with fields has the type of its fields. -/
theorem exists_fieldStruct {p : Peripheral} {structs : List ObjectType}
    (h : fieldStructs p names = .ok structs) {q : NodePath × Register} (hq : q ∈ p.registersBelow)
    (fields : q.2.hasFields = true) : ∃ t ∈ structs, (Declaration.object t).IsFor names q := by
  obtain ⟨t, ht, hmap⟩ := exists_of_mem_mapM h (List.mem_filter.2 ⟨hq, fields⟩)
  exact ⟨t, ht, fields, bind_eq_ok_iff.1 hmap⟩

theorem mem_fieldStructs {p : Peripheral} {structs : List ObjectType}
    (h : fieldStructs p names = .ok structs) {t : ObjectType} :
    t ∈ structs ↔ ∃ q ∈ p.registersBelow, (Declaration.object t).IsFor names q := by
  constructor
  · intro ht
    obtain ⟨q, hq, hmap⟩ := exists_of_mem_results h ht
    obtain ⟨mem, fields⟩ := List.mem_filter.1 hq
    exact ⟨q, mem, fields, bind_eq_ok_iff.1 hmap⟩
  · rintro ⟨q, hq, fields, typeName, hname, ht⟩
    obtain ⟨found, hmem, -, same, hsame, hfound⟩ := exists_fieldStruct h hq fields
    cases Except.ok.inj (hname.symm.trans hsame)
    cases Except.ok.inj (ht.symm.trans hfound)
    exact hmem

theorem mem_peripheralAccessors {p : Peripheral} {routines : List (String × Routine)}
    (h : peripheralAccessors p names = .ok routines) {item : String × Routine} :
    item ∈ routines ↔ item.1 = item.2.key ∧
      ∃ q ∈ p.registersBelow, (Declaration.routine item.2).IsFor names q := by
  rw [mem_flatten_mapM h]
  constructor
  · rintro ⟨q, hq, typeName, hname, hi⟩
    obtain ⟨o, allowed, rfl⟩ := mem_accessors_iff.1 hi
    exact ⟨(key_accessor q.2 typeName o).symm, q, hq, typeName, hname, o, allowed, rfl⟩
  · rintro ⟨hkey, q, hq, typeName, hname, o, allowed, ha⟩
    refine ⟨q, hq, typeName, hname, mem_accessors_iff.2 ⟨o, allowed, Prod.ext ?_ ha⟩⟩
    rw [hkey, ha, key_accessor]

/-- What is made for a peripheral is what is made for its registers. -/
theorem mem_peripheralDeclarations {p : Peripheral} {ds : List Declaration}
    (h : peripheralDeclarations names p = .ok ds) {x : Declaration} :
    x ∈ ds ↔ ∃ q ∈ p.registersBelow, x.IsFor names q := by
  rw [peripheralDeclarations] at h
  obtain ⟨structs, hstructs, h⟩ := bind_eq_ok_iff.1 h
  obtain ⟨enums, henums, h⟩ := bind_eq_ok_iff.1 h
  obtain ⟨routines, hroutines, h⟩ := bind_eq_ok_iff.1 h
  cases Except.ok.inj h
  cases x with
  | object t => simp [← mem_fieldStructs hstructs]
  | enumeration e => simp [Declaration.IsFor, ← mem_flatten_mapM henums]
  | routine a => simp [mem_peripheralAccessors hroutines]

/-! ### The tables as one -/

/-- What is made for a peripheral is entered into one table after the other. -/
theorem Tables.outcome_define {t t' : Tables} {p : Peripheral} {new : List Declaration} :
    (t.define names p).outcome = .ok (new, t') ↔
      ∃ structs enums routines newStructs newEnums newRoutines,
        fieldStructs p names = .ok structs ∧
        (t.structs.defineAll (structs.map fun s => (s.name, s))).outcome =
          .ok (newStructs, t'.structs) ∧
        enumTypes p names = .ok enums ∧
        (t.enums.defineAll (enums.map fun e => (e.name, e))).outcome = .ok (newEnums, t'.enums) ∧
        peripheralAccessors p names = .ok routines ∧
        (t.accessors.defineAll routines).outcome = .ok (newRoutines, t'.accessors) ∧
        new = newStructs.map .object ++ newEnums.map .enumeration ++
          newRoutines.map .routine := by
  constructor
  · intro h
    rw [define] at h
    obtain ⟨structs, (hstructs : fieldStructs p names = .ok structs), h⟩ :=
      Logged.outcome_bind_eq_ok_iff.1 h
    obtain ⟨⟨newStructs, structTable⟩, h₁, h⟩ := Logged.outcome_bind_eq_ok_iff.1 h
    obtain ⟨enums, (henums : enumTypes p names = .ok enums), h⟩ := Logged.outcome_bind_eq_ok_iff.1 h
    obtain ⟨⟨newEnums, enumTable⟩, h₂, h⟩ := Logged.outcome_bind_eq_ok_iff.1 h
    obtain ⟨routines, (hroutines : peripheralAccessors p names = .ok routines), h⟩ :=
      Logged.outcome_bind_eq_ok_iff.1 h
    obtain ⟨⟨newRoutines, accessorTable⟩, h₃, h⟩ := Logged.outcome_bind_eq_ok_iff.1 h
    cases Except.ok.inj h
    exact ⟨structs, enums, routines, newStructs, newEnums, newRoutines, hstructs, h₁, henums, h₂,
      hroutines, h₃, rfl⟩
  · rintro ⟨structs, enums, routines, newStructs, newEnums, newRoutines, hstructs, h₁, henums, h₂,
      hroutines, h₃, rfl⟩
    rw [define]
    refine Logged.outcome_bind_eq_ok_iff.2 ⟨structs, hstructs, ?_⟩
    refine Logged.outcome_bind_eq_ok_iff.2 ⟨_, h₁, ?_⟩
    refine Logged.outcome_bind_eq_ok_iff.2 ⟨enums, henums, ?_⟩
    refine Logged.outcome_bind_eq_ok_iff.2 ⟨_, h₂, ?_⟩
    refine Logged.outcome_bind_eq_ok_iff.2 ⟨routines, hroutines, ?_⟩
    exact Logged.outcome_bind_eq_ok_iff.2 ⟨_, h₃, rfl⟩

/-- Peripherals are entered one after the other. -/
theorem Tables.outcome_defineAll_cons {t t' : Tables} {p : Peripheral} {ps : List Peripheral}
    {new : List Declaration} : (t.defineAll names (p :: ps)).outcome = .ok (new, t') ↔
      ∃ first t₁ rest, (t.define names p).outcome = .ok (first, t₁) ∧
        (t₁.defineAll names ps).outcome = .ok (rest, t') ∧ new = first ++ rest := by
  rw [defineAll, Logged.outcome_bind, bind_eq_ok_iff]
  constructor
  · rintro ⟨⟨first, t₁⟩, h₁, h⟩
    obtain ⟨⟨rest, t₂⟩, h₂, h⟩ := Logged.outcome_bind_eq_ok_iff.1 h
    cases Except.ok.inj h
    exact ⟨first, t₁, rest, h₁, h₂, rfl⟩
  · rintro ⟨first, t₁, rest, h₁, h₂, rfl⟩
    refine ⟨(first, t₁), h₁, ?_⟩
    exact Logged.outcome_bind_eq_ok_iff.2 ⟨(rest, t'), h₂, rfl⟩

/-- The tables hold declarations, each kind in its own. -/
structure Tables.Hold (strict : Bool) (t : Tables) (ds : List Declaration) : Prop where
  structs : t.structs.Holds DeclarationKind.structs.key strict
    (ds.filterMap DeclarationKind.structs.select)
  enums : t.enums.Holds DeclarationKind.enums.key strict
    (ds.filterMap DeclarationKind.enums.select)
  accessors : t.accessors.Holds DeclarationKind.routines.key strict
    (ds.filterMap DeclarationKind.routines.select)

theorem Tables.hold_empty (options : Options) : (Tables.empty options).Hold options.strict [] :=
  ⟨⟨rfl, rfl⟩, ⟨rfl, rfl⟩, ⟨rfl, rfl⟩⟩

/-- The declarations of a peripheral are entered if their labels are new. -/
theorem Tables.define_eq_ok {strict : Bool} {t t' : Tables} {ds new : List Declaration}
    {p : Peripheral} (ht : t.Hold strict ds) (h : (t.define names p).outcome = .ok (new, t')) :
    ∃ all, peripheralDeclarations names p = .ok all ∧
      Keeps Declaration.label strict ds all new ∧ t'.Hold strict (ds ++ new) := by
  obtain ⟨structs, enums, items, newStructs, newEnums, newRoutines, hstructs, h₁, henums, h₂,
    hitems, h₃, rfl⟩ := outcome_define.1 h
  have keyed : items = (items.map Prod.snd).map fun a => (DeclarationKind.routines.key a, a) := by
    rw [List.map_map]
    refine (List.map_id' items).symm.trans (List.map_congr_left fun item hi => ?_)
    exact Prod.ext ((mem_peripheralAccessors hitems).1 hi).1 rfl
  rw [keyed] at h₃
  -- each table is entered while the others keep what they hold
  have frame : ∀ {α β : Type} (kind : DeclarationKind α) (other : DeclarationKind β),
      kind.name ≠ other.name → ∀ {ds : List Declaration} {bs : List β} {t : FirstWins α},
        t.Holds kind.key strict (ds.filterMap kind.select) →
          t.Holds kind.key strict ((ds ++ bs.map other.embed).filterMap kind.select) := by
    intro α β kind other hn ds bs t held
    rwa [kind.filterMap_select_append_other hn]
  obtain ⟨keeps₁, held₁⟩ := DeclarationKind.structs.defineAll_eq_ok ht.structs h₁
  obtain ⟨keeps₂, held₂⟩ := DeclarationKind.enums.defineAll_eq_ok
    (frame .enums .structs (by decide) ht.enums) h₂
  obtain ⟨keeps₃, held₃⟩ := DeclarationKind.routines.defineAll_eq_ok
    (frame .routines .enums (by decide) (frame .routines .structs (by decide) ht.accessors)) h₃
  refine ⟨structs.map .object ++ enums.map .enumeration ++ (items.map Prod.snd).map .routine,
    ?_, (keeps₁.append keeps₂).append ?_, ?_⟩
  · rw [peripheralDeclarations, hstructs, henums, hitems, List.map_map]
    rfl
  · rw [← List.append_assoc]
    exact keeps₃
  · rw [← List.append_assoc, ← List.append_assoc]
    exact ⟨frame .structs .routines (by decide) (frame .structs .enums (by decide) held₁),
      frame .enums .routines (by decide) held₂, held₃⟩

/-- The declarations of peripherals are entered one peripheral after the other. -/
theorem Tables.defineAll_eq_ok {strict : Bool} {t t' : Tables} {ds new : List Declaration}
    {ps : List Peripheral} (ht : t.Hold strict ds)
    (h : (t.defineAll names ps).outcome = .ok (new, t')) :
    ∃ parts, ps.mapM (peripheralDeclarations names) = .ok parts ∧
      Keeps Declaration.label strict ds parts.flatten new := by
  induction ps generalizing t t' ds new with
  | nil =>
    cases Except.ok.inj h
    exact ⟨[], rfl, .nil⟩
  | cons p ps ih =>
    obtain ⟨first, t₁, rest, h₁, h₂, rfl⟩ := outcome_defineAll_cons.1 h
    obtain ⟨all, hall, keeps, held⟩ := define_eq_ok ht h₁
    obtain ⟨parts, hparts, others⟩ := ih held h₂
    refine ⟨all :: parts, ?_, keeps.append others⟩
    rw [List.mapM_cons, hall, hparts]
    rfl

end

/-- The types of peripherals are entered one peripheral after the other. -/
theorem deviceTypes_eq_ok {names : TypeNames} {options : Options} {d : Device}
    {t : FirstWins ObjectType} (h : (deviceTypes names options d).outcome = .ok t) :
    ∃ parts, d.peripherals.mapM (nodeTypes names options) = .ok parts ∧
      Keeps ObjectType.name options.strict [] parts.flatten t.definitions := by
  have start : (⟨"type", options.strict, []⟩ : FirstWins ObjectType).Holds ObjectType.name
      options.strict [] := ⟨rfl, rfl⟩
  obtain ⟨parts, new, hparts, keeps, held⟩ :=
    FirstWins.foldlM_eq_ok (nodeTypes names options) (fun {t t' xs p} ht h => by
      obtain ⟨types, (htypes : nodeTypes names options p = .ok types), h⟩ :=
        Logged.outcome_bind_eq_ok_iff.1 h
      obtain ⟨⟨kept, t₁⟩, hdefine, h⟩ := Logged.outcome_bind_eq_ok_iff.1 h
      cases Except.ok.inj h
      exact ⟨types, kept, htypes, FirstWins.defineAll_eq_ok ht hdefine⟩) start h
  rw [held.definitions_eq]
  exact ⟨parts, hparts, keeps⟩

/-! ### The parts of a module -/

/-- A module has the types, constants and declarations of a device, those of each peripheral in
turn, of which types and declarations are the first of their names. -/
structure Module.IsAssembled (options : Options) (d : Device) (m : Module)
    (types : List (List ObjectType)) (declarations : List (List Declaration)) : Prop where
  types_eq : d.peripherals.mapM (nodeTypes (TypeNames.ofDevice d) options) = .ok types
  keepsTypes : Keeps ObjectType.name options.strict [] types.flatten m.types
  instances_eq :
    d.peripherals.mapM (Instance.ofPeripheral (TypeNames.ofDevice d) options) = .ok m.instances
  declarations_eq :
    d.peripherals.mapM (peripheralDeclarations (TypeNames.ofDevice d)) = .ok declarations
  keepsDeclarations :
    Keeps Declaration.label options.strict [] declarations.flatten m.declarations

/-- A module is made in stages: the device is checked, then its types are made, then its instances,
then its declarations. -/
theorem Module.ofDevice_eq_ok_iff {options : Options} {d : Device} {m : Module} :
    (ofDevice options d).outcome = .ok m ↔ ∃ table instances declarations tables,
      d.validate = .ok () ∧
      (deviceTypes (TypeNames.ofDevice d) options d).outcome = .ok table ∧
      d.peripherals.mapM (Instance.ofPeripheral (TypeNames.ofDevice d) options) = .ok instances ∧
      ((Tables.empty options).defineAll (TypeNames.ofDevice d) d.peripherals).outcome =
        .ok (declarations, tables) ∧
      m = ⟨d.name, d.cpu, d.interrupts, table.definitions, instances, declarations⟩ := by
  rw [ofDevice]
  constructor
  · intro h
    obtain ⟨⟨⟩, hvalid, h⟩ := Logged.outcome_bind_eq_ok_iff.1 h
    obtain ⟨table, htable, h⟩ := Logged.outcome_bind_eq_ok_iff.1 h
    obtain ⟨instances, hinstances, h⟩ := Logged.outcome_bind_eq_ok_iff.1 h
    obtain ⟨⟨declarations, tables⟩, hdeclared, h⟩ := Logged.outcome_bind_eq_ok_iff.1 h
    obtain ⟨-, -, h⟩ := Logged.outcome_bind_eq_ok_iff.1 h
    exact ⟨table, instances, declarations, tables, hvalid, htable, hinstances, hdeclared,
      (Except.ok.inj h).symm⟩
  · rintro ⟨table, instances, declarations, tables, hvalid, htable, hinstances, hdeclared, rfl⟩
    refine Logged.outcome_bind_eq_ok_iff.2 ⟨(), hvalid, ?_⟩
    refine Logged.outcome_bind_eq_ok_iff.2 ⟨table, htable, ?_⟩
    refine Logged.outcome_bind_eq_ok_iff.2 ⟨instances, hinstances, ?_⟩
    exact Logged.outcome_bind_eq_ok_iff.2 ⟨(declarations, tables), hdeclared, rfl⟩

/-- Every module is assembled from the parts of its device. -/
theorem Module.exists_isAssembled {options : Options} {d : Device} {m : Module}
    (h : (ofDevice options d).outcome = .ok m) :
    ∃ types declarations, m.IsAssembled options d types declarations := by
  obtain ⟨table, instances, declared, tables, -, htable, hinstances, hdeclared, rfl⟩ :=
    ofDevice_eq_ok_iff.1 h
  obtain ⟨types, htypes, keepsTypes⟩ := deviceTypes_eq_ok htable
  obtain ⟨declarations, hparts, keeps⟩ :=
    Tables.defineAll_eq_ok (Tables.hold_empty options) hdeclared
  exact ⟨types, declarations, htypes, keepsTypes, hinstances, hparts, keeps⟩

namespace Module.IsAssembled

variable {options : Options} {d : Device} {m : Module} {types : List (List ObjectType)}
  {declarations : List (List Declaration)}

/-- What is made for a device is what is made for its registers. -/
theorem mem_declarations (h : m.IsAssembled options d types declarations) {x : Declaration} :
    x ∈ declarations.flatten ↔ ∃ q ∈ d.peripherals.flatMap Peripheral.registersBelow,
      x.IsFor (TypeNames.ofDevice d) q := by
  rw [List.mem_flatten]
  constructor
  · rintro ⟨part, hpart, hx⟩
    obtain ⟨p, hp, hparts⟩ := exists_of_mem_results h.declarations_eq hpart
    obtain ⟨q, hq, made⟩ := (mem_peripheralDeclarations hparts).1 hx
    exact ⟨q, List.mem_flatMap.2 ⟨p, hp, hq⟩, made⟩
  · rintro ⟨q, hq, made⟩
    obtain ⟨p, hp, hq⟩ := List.mem_flatMap.1 hq
    obtain ⟨part, hpart, hparts⟩ := exists_of_mem_mapM h.declarations_eq hp
    exact ⟨part, hpart, (mem_peripheralDeclarations hparts).2 ⟨q, hq, made⟩⟩

end Module.IsAssembled

end RegisterMap.Nim
