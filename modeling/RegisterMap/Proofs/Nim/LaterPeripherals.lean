import RegisterMap.Proofs.Nim.Existence
import RegisterMap.Proofs.Nim.RepeatedEntries

/-!
# Peripherals added at the end

All peripherals of a device claim their names in one registry, look them up in one table, and enter
their declarations into the same four tables. Each of these only grows, and a path leads into one
peripheral. So the run over a device begins with the run over its first peripherals: those that are
added at the end take no name and no declaration from them.

## Main definitions

* `Device.cut` : a device of the first peripherals only.

## Main results

* `TypeNames.lookup_cut` : the names of the first peripherals' nodes.
* `deviceTypes_cut`, `Tables.defineAll_cut` : the tables after the first peripherals.
* `later_peripherals_change_nothing` : names, types and declarations of the first peripherals.
-/

namespace RegisterMap

/-- The device with its first peripherals only. -/
def Device.cut (d : Device) (k : Nat) : Device := { d with peripherals := d.peripherals.take k }

theorem Device.cut_append_drop (d : Device) (k : Nat) :
    (d.cut k).peripherals ++ d.peripherals.drop k = d.peripherals := List.take_append_drop _ _

theorem Device.mem_of_mem_cut {d : Device} {k : Nat} {p : Peripheral}
    (hp : p ∈ (d.cut k).peripherals) : p ∈ d.peripherals := List.mem_of_mem_take hp

theorem Device.validate_cut {d : Device} (h : d.validate = .ok ()) (k : Nat) :
    (d.cut k).validate = .ok () := by
  refine (d.cut k).validate_eq_ok_iff.2 fun o ho => d.validate_eq_ok_iff.1 h o ?_
  obtain ⟨p, hp, ho⟩ := List.mem_flatMap.1 ho
  exact List.mem_flatMap.2 ⟨p, mem_of_mem_cut hp, ho⟩

namespace Nim

/-! ### Names -/

/-- Further peripherals are named after the first ones. -/
theorem assignPeripherals_append (ps qs : List Peripheral) (reg : Registry Owner) :
    assignPeripherals (ps ++ qs) reg =
      let first := assignPeripherals ps reg
      let rest := assignPeripherals qs first.2
      (first.1 ++ rest.1, rest.2) := by
  induction ps generalizing reg with
  | nil => rfl
  | cons p ps ih =>
    simp only [List.cons_append, assignPeripherals, ih, List.append_assoc]

section

variable {d : Device} (distinct : (d.peripherals.map (·.name)).Nodup) {k : Nat}

include distinct

/-- No path below one of the first peripherals leads into a later one. -/
theorem notMem_paths_of_mem_drop {p q : Peripheral} (hp : p ∈ (d.cut k).peripherals)
    (hq : q ∈ d.peripherals.drop k) {path : NodePath} (h : path ∈ p.contents.paths [p.name]) :
    path ∉ q.contents.paths [q.name] := by
  intro h'
  obtain ⟨rel, rfl⟩ := Contents.isPrefix_of_mem_paths h
  obtain ⟨rel', same⟩ := Contents.isPrefix_of_mem_paths h'
  have apart : ((d.peripherals.map (·.name)).take k).Disjoint
      ((d.peripherals.map (·.name)).drop k) := List.disjoint_take_drop distinct le_rfl
  rw [← List.map_take, ← List.map_drop] at apart
  exact apart (List.mem_map_of_mem hp) (List.mem_map.2 ⟨q, hq, (List.cons.inj same).1⟩)

/-- The nodes of the first peripherals have the names that they have without the later ones. -/
theorem TypeNames.lookup_cut {p : Peripheral} (hp : p ∈ (d.cut k).peripherals) {path : NodePath}
    (h : path ∈ p.contents.paths [p.name]) :
    (ofDevice (d.cut k)).lookup path = (ofDevice d).lookup path := by
  obtain ⟨later, entries, names⟩ : ∃ later : List (NodePath × String),
      (ofDevice d).entries = (ofDevice (d.cut k)).entries ++ later ∧
      later.map Prod.fst = (d.peripherals.drop k).flatMap fun q => q.contents.paths [q.name] := by
    have run := congrArg Prod.fst
      (assignPeripherals_append (d.cut k).peripherals (d.peripherals.drop k) {})
    rw [d.cut_append_drop] at run
    exact ⟨_, run, map_fst_assignPeripherals _ _⟩
  have absent : later.reverse.lookup path = none := by
    refine List.lookup_eq_none_iff.2 fun e he => ?_
    have mem : e.1 ∈ later.map Prod.fst := List.mem_map_of_mem (List.mem_reverse.1 he)
    rw [names] at mem
    obtain ⟨q, hq, hpath⟩ := List.mem_flatMap.1 mem
    have other : path ≠ e.1 := by
      rintro rfl
      exact notMem_paths_of_mem_drop distinct hp hq h hpath
    simpa using other
  rw [lookup, lookup, find?, find?, entries, List.reverse_append, List.lookup_append, absent,
    Option.none_or]

theorem namedAlike_cut {p : Peripheral} (hp : p ∈ (d.cut k).peripherals) :
    NamedAlike (TypeNames.ofDevice (d.cut k)) (TypeNames.ofDevice d) [p.name] [p.name] p.contents :=
  fun _ hrel => TypeNames.lookup_cut distinct hp hrel

end

/-! ### Types -/

section

variable {names : TypeNames} {options : Options} {strict : Bool} {t t' : FirstWins ObjectType}
  {xs : List ObjectType}

theorem enterTypes_eq_ok {p : Peripheral} (ht : t.Holds ObjectType.name strict xs)
    (h : (enterTypes names options t p).outcome = .ok t') :
    ∃ all new, nodeTypes names options p = .ok all ∧ Keeps ObjectType.name strict xs all new ∧
      t'.Holds ObjectType.name strict (xs ++ new) := by
  obtain ⟨types, kept, htypes, entered⟩ := exists_of_enterTypes h
  exact ⟨types, kept, htypes, FirstWins.defineAll_eq_ok ht entered⟩

/-- Further types come after those that are there. -/
theorem isPrefix_of_foldlM_enterTypes {ps : List Peripheral}
    (ht : t.Holds ObjectType.name strict xs)
    (h : (ps.foldlM (enterTypes names options) t).outcome = .ok t') :
    xs <+: t'.definitions := by
  obtain ⟨-, new, -, -, held⟩ := FirstWins.foldlM_eq_ok (nodeTypes names options) enterTypes_eq_ok
    ht h
  rw [held.definitions_eq]
  exact List.prefix_append _ _

end

section

variable {d : Device} (distinct : (d.peripherals.map (·.name)).Nodup) (k : Nat)

include distinct

/-- The types of later peripherals are entered after those of the first ones. -/
theorem deviceTypes_cut (options : Options) : deviceTypes (.ofDevice d) options d =
    deviceTypes (.ofDevice (d.cut k)) options (d.cut k) >>= fun t =>
      (d.peripherals.drop k).foldlM (enterTypes (.ofDevice d) options) t := by
  have first : ∀ p ∈ (d.cut k).peripherals, ∀ t, enterTypes (.ofDevice d) options t p =
      enterTypes (.ofDevice (d.cut k)) options t p := by
    intro p hp t
    rw [enterTypes, enterTypes, nodeTypes_eq (.refl p) (namedAlike_cut distinct hp)]
  rw [deviceTypes_eq_foldlM, deviceTypes_eq_foldlM, ← foldlM_congr first, ← List.foldlM_append,
    d.cut_append_drop]

/-- So the types of the first ones come first. -/
theorem isPrefix_deviceTypes_cut {options : Options} {t : FirstWins ObjectType}
    (h : (deviceTypes (.ofDevice d) options d).outcome = .ok t) :
    ∃ t', (deviceTypes (.ofDevice (d.cut k)) options (d.cut k)).outcome = .ok t' ∧
      t'.definitions <+: t.definitions := by
  rw [deviceTypes_cut distinct k] at h
  obtain ⟨t', first, rest⟩ := Logged.outcome_bind_eq_ok_iff.1 h
  have start : (⟨"type", options.strict, []⟩ : FirstWins ObjectType).Holds ObjectType.name
      options.strict [] := ⟨rfl, rfl⟩
  obtain ⟨-, new, -, -, held⟩ := FirstWins.foldlM_eq_ok
    (nodeTypes (.ofDevice (d.cut k)) options) enterTypes_eq_ok start first
  refine ⟨t', first, ?_⟩
  rw [held.definitions_eq]
  exact isPrefix_of_foldlM_enterTypes held rest

end

/-! ### Declarations -/

/-- The declarations of a peripheral follow from the names of its nodes. -/
theorem Tables.define_eq {names names' : TypeNames} {p : Peripheral}
    (h : NamedAlike names names' [p.name] [p.name] p.contents) (t : Tables) :
    t.define names p = t.define names' p := by
  have enums : enumTypes p names = enumTypes p names' := flatten_mapM_eq (.refl p) h fieldEnums
  have accessors : peripheralAccessors p names = peripheralAccessors p names' :=
    flatten_mapM_eq (.refl p) h RegisterMap.Nim.accessors
  rw [define, define, fieldStructs_eq (.refl p) h, enums, accessors]

theorem Tables.defineAll_congr {names names' : TypeNames} {ps : List Peripheral}
    (h : ∀ p ∈ ps, NamedAlike names names' [p.name] [p.name] p.contents) (t : Tables) :
    t.defineAll names ps = t.defineAll names' ps := by
  induction ps generalizing t with
  | nil => rfl
  | cons p ps ih =>
    obtain ⟨own, rest⟩ := List.forall_mem_cons.1 h
    simp only [defineAll, define_eq own, ih rest]

/-- The declarations of further peripherals are entered after those of the first ones. -/
theorem Tables.defineAll_append (t : Tables) (names : TypeNames) (ps qs : List Peripheral) :
    t.defineAll names (ps ++ qs) = t.defineAll names ps >>= fun first =>
      first.2.defineAll names qs >>= fun rest => pure (first.1 ++ rest.1, rest.2) := by
  induction ps generalizing t with
  | nil => simp [defineAll]
  | cons p ps ih => simp [defineAll, ih, bind_assoc]

section

variable {d : Device} (distinct : (d.peripherals.map (·.name)).Nodup) (k : Nat)

include distinct

/-- The declarations of later peripherals are entered after those of the first ones. -/
theorem Tables.defineAll_cut (t : Tables) : t.defineAll (.ofDevice d) d.peripherals =
    t.defineAll (.ofDevice (d.cut k)) (d.cut k).peripherals >>= fun first =>
      first.2.defineAll (.ofDevice d) (d.peripherals.drop k) >>= fun rest =>
        pure (first.1 ++ rest.1, rest.2) := by
  rw [defineAll_congr fun p hp => namedAlike_cut distinct hp, ← defineAll_append,
    d.cut_append_drop]

/-- So the declarations of the first ones come first. -/
theorem Tables.isPrefix_defineAll_cut {t t' : Tables} {ds : List Declaration}
    (h : (t.defineAll (.ofDevice d) d.peripherals).outcome = .ok (ds, t')) :
    ∃ first t₁, (t.defineAll (.ofDevice (d.cut k)) (d.cut k).peripherals).outcome =
      .ok (first, t₁) ∧ first <+: ds := by
  rw [defineAll_cut distinct k] at h
  obtain ⟨⟨first, t₁⟩, hfirst, h⟩ := Logged.outcome_bind_eq_ok_iff.1 h
  obtain ⟨⟨rest, t₂⟩, -, h⟩ := Logged.outcome_bind_eq_ok_iff.1 h
  cases Except.ok.inj h
  exact ⟨first, t₁, hfirst, List.prefix_append _ _⟩

/-! ### Modules -/

/-- If a device has a module, so have its first peripherals, and the types and the declarations of
the one begin with those of the other. -/
theorem Module.isPrefix_ofDevice_cut {options : Options} {m : Module}
    (h : (ofDevice options d).outcome = .ok m) :
    ∃ m', (ofDevice options (d.cut k)).outcome = .ok m' ∧
      m'.types <+: m.types ∧ m'.declarations <+: m.declarations := by
  obtain ⟨table, -, declared, tables, hvalid, htable, -, hdeclared, rfl⟩ := ofDevice_eq_ok_iff.1 h
  have valid := d.validate_cut hvalid k
  obtain ⟨table', htable', types⟩ := isPrefix_deviceTypes_cut distinct k htable
  obtain ⟨instances, hinstances⟩ := exists_instances (Device.laidOut_of_validate valid) options
  obtain ⟨first, tables', hfirst, declarations⟩ :=
    Tables.isPrefix_defineAll_cut distinct k hdeclared
  exact ⟨_, ofDevice_eq_ok_iff.2 ⟨table', instances, first, tables', valid, htable', hinstances,
    hfirst, rfl⟩, types, declarations⟩

/-- **Peripherals added at the end.** Where names of peripherals are distinct, a device of the first
peripherals only gives every node below them the type name that it has in the whole device. Its
types are the first types of the whole device, and the types of bit fields, enumerations and
accessors that it declares are the first that the whole device declares. -/
theorem later_peripherals_change_nothing (options : Options) :
    (∀ p ∈ (d.cut k).peripherals, ∀ path ∈ p.contents.paths [p.name], ∃ typeName,
      (TypeNames.ofDevice (d.cut k)).lookup path = .ok typeName ∧
        (TypeNames.ofDevice d).lookup path = .ok typeName) ∧
    (∀ t, (deviceTypes (.ofDevice d) options d).outcome = .ok t →
      ∃ t', (deviceTypes (.ofDevice (d.cut k)) options (d.cut k)).outcome = .ok t' ∧
        t'.definitions <+: t.definitions) ∧
    ∀ m, (Module.ofDevice options d).outcome = .ok m →
      ∃ m', (Module.ofDevice options (d.cut k)).outcome = .ok m' ∧
        m'.types <+: m.types ∧ m'.declarations <+: m.declarations := by
  refine ⟨fun p hp path hpath => ?_, fun t ht => isPrefix_deviceTypes_cut distinct k ht,
    fun m hm => Module.isPrefix_ofDevice_cut distinct k hm⟩
  obtain ⟨typeName, hname⟩ := allNamed_ofDevice (Device.mem_of_mem_cut hp) path hpath
  exact ⟨typeName, (TypeNames.lookup_cut distinct hp hpath).trans hname, hname⟩

end

/-- A register that says how its type is called, with a bit field of the given name. -/
def linkRegister (field : String) : Register where
  name := "CTRL"
  offset := 0
  repetition := some { count := some 2, increment := some 4, name := some "LINK" }
  fields := [{ name := field, lsb := 0, msb := 3 }]

/-- Four ports. The first and the last call the types of different registers by one name, and the
third is called as a part of the second. -/
def linkedPorts : Device where
  name := "BOARD"
  peripherals := [
    { name := "PORT", baseAddress := 0x40000000, registers := [linkRegister "MODE"] },
    { name := "GPIO", baseAddress := 0x40001000, registers := [{ name := "A_B", offset := 0 }] },
    { name := "GPIO_A", baseAddress := 0x40002000, registers := [{ name := "B", offset := 0 }] },
    { name := "UART", baseAddress := 0x40003000, registers := [linkRegister "SPEED"] }]

theorem later_peripherals_change_nothing_linkedPorts :
    (linkedPorts.peripherals.map (·.name)).Nodup ∧
    (TypeNames.ofDevice linkedPorts).lookup ["GPIO", "A_B"] = .ok "GPIO_A_B_Type" ∧
    (TypeNames.ofDevice (linkedPorts.cut 2)).lookup ["GPIO", "A_B"] = .ok "GPIO_A_B_Type" ∧
    (TypeNames.ofDevice linkedPorts).lookup ["GPIO_A", "B"] = .ok "GPIO_A_B_1_Type" ∧
    ∃ m m', (Module.ofDevice {} linkedPorts).outcome = .ok m ∧
      (Module.ofDevice {} (linkedPorts.cut 2)).outcome = .ok m' ∧
      m'.types <+: m.types ∧ m'.declarations <+: m.declarations := by
  have distinct : (linkedPorts.peripherals.map (·.name)).Nodup := by decide +kernel
  obtain ⟨names, -, modules⟩ := later_peripherals_change_nothing distinct 2 {}
  have name : (TypeNames.ofDevice linkedPorts).lookup ["GPIO", "A_B"] = .ok "GPIO_A_B_Type" := by
    decide +kernel
  obtain ⟨typeName, cut, whole⟩ := names _ (.tail _ (.head _)) ["GPIO", "A_B"] (by decide +kernel)
  refine ⟨distinct, name, cut.trans (whole.symm.trans name), by decide +kernel, ?_⟩
  have made : (Module.ofDevice {} linkedPorts).outcome.isOk = true := by decide +kernel
  cases h : (Module.ofDevice {} linkedPorts).outcome with
  | error fault =>
    rw [h] at made
    cases made
  | ok m =>
    obtain ⟨m', hm', types, declarations⟩ := modules m h
    exact ⟨m, m', rfl, hm', types, declarations⟩

end Nim

end RegisterMap
