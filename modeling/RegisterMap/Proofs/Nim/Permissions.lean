import RegisterMap.Proofs.Nim.Assembly

/-!
# Accessors and permissions

Accessors belong to register types, permissions to registers. A type has an accessor as soon as one
of its registers allows the operation, so registers that share a type also share what the most
permissive of them allow. No table notices this, not even a strict one: it only compares accessors
of one operation.

## Main definitions

* `Module.HasAccessor` : a module declares an accessor of an operation and a register type.

## Main results

* `Operation.key_injective` : an accessor's key tells its operation and register type.
* `Module.IsAssembled.hasAccessor_iff` : the accessors of a type are those that its registers allow.
* `Module.accessors_match_access_iff` : when the accessors of a type match the access of one
  register.
-/

namespace RegisterMap.Nim

namespace Operation

theorem name_injective {o o' : Operation} (h : o.name = o'.name) : o = o' := by
  revert h
  cases o <;> cases o' <;> decide

/-- The key of an accessor tells its operation and register type. -/
theorem key_injective {o o' : Operation} {typeName typeName' : String}
    (h : o.key typeName = o'.key typeName') : o = o' ∧ typeName = typeName' := by
  have chars := congrArg String.toList h
  -- the operations differ in the first letters of their names
  cases o <;> cases o' <;> simp [key, name] at chars ⊢
  all_goals exact String.toList_inj.1 chars

end Operation

namespace Module

/-- The module declares an accessor of the operation for registers of the type. -/
def HasAccessor (m : Module) (o : Operation) (typeName : String) : Prop :=
  ∃ a, .routine a ∈ m.declarations ∧ a.name = o.name ∧ a.registerType? = some typeName

variable {options : Options} {d : Device} {m : Module} {types : List (List ObjectType)}
  {declarations : List (List Declaration)}

/-- Every accessor of a module is that of an operation that a register of the device allows. -/
theorem IsAssembled.exists_of_mem_routines (h : m.IsAssembled options d types declarations)
    {a : Routine} (ha : .routine a ∈ m.declarations) :
    ∃ q ∈ d.peripherals.flatMap Peripheral.registersBelow,
      (Declaration.routine a).IsFor (TypeNames.ofDevice d) q :=
  h.mem_declarations.1 (h.keepsDeclarations.mem_all ha)

/-- A register type has an accessor exactly if one of its registers allows the operation. -/
theorem IsAssembled.hasAccessor_iff (h : m.IsAssembled options d types declarations)
    {o : Operation} {typeName : String} : m.HasAccessor o typeName ↔
      ∃ q ∈ d.peripherals.flatMap Peripheral.registersBelow,
        (TypeNames.ofDevice d).lookup q.1 = .ok typeName ∧ o.isAllowed q.2.access = true := by
  constructor
  · rintro ⟨a, ha, name, type⟩
    obtain ⟨q, hq, found, hname, o', allowed, rfl⟩ := h.exists_of_mem_routines ha
    rw [name_accessor] at name
    rw [registerType?_accessor] at type
    cases Operation.name_injective name
    cases Option.some.inj type
    exact ⟨q, hq, hname, allowed⟩
  · rintro ⟨q, hq, hname, allowed⟩
    have made : (Declaration.routine (accessor q.2 typeName o)).IsFor (TypeNames.ofDevice d) q :=
      ⟨typeName, hname, o, allowed, rfl⟩
    have mem := h.keepsDeclarations.key_mem (h.mem_declarations.2 ⟨q, hq, made⟩)
    -- the accessor that stands under this key may have been made for another register
    obtain ⟨a, ha, key⟩ := DeclarationKind.routines.mem_labels.1 mem
    obtain ⟨q', -, found, -, o', -, rfl⟩ := h.exists_of_mem_routines ha
    have keys : o'.key found = o.key typeName :=
      (key_accessor q'.2 found o').symm.trans (key.trans (key_accessor q.2 typeName o))
    obtain ⟨rfl, rfl⟩ := Operation.key_injective keys
    exact ⟨_, ha, name_accessor _ _ _, registerType?_accessor _ _ _⟩

/-- **Accessors and access.** The accessors of a register's type are those that some register of the
type allows. So they match the access of the register exactly if no register that shares its type
allows more. -/
theorem accessors_match_access_iff (h : (ofDevice options d).outcome = .ok m)
    {q : NodePath × Register} (hq : q ∈ d.peripherals.flatMap Peripheral.registersBelow)
    {typeName : String} (hname : (TypeNames.ofDevice d).lookup q.1 = .ok typeName) :
    (∀ o, m.HasAccessor o typeName ↔
      ∃ other ∈ d.peripherals.flatMap Peripheral.registersBelow,
        (TypeNames.ofDevice d).lookup other.1 = .ok typeName ∧
          o.isAllowed other.2.access = true) ∧
    ((∀ o, m.HasAccessor o typeName ↔ o.isAllowed q.2.access = true) ↔
      ∀ other ∈ d.peripherals.flatMap Peripheral.registersBelow,
        (TypeNames.ofDevice d).lookup other.1 = .ok typeName →
          ∀ o : Operation, o.isAllowed other.2.access = true → o.isAllowed q.2.access = true) := by
  obtain ⟨types, declarations, assembled⟩ := exists_isAssembled h
  refine ⟨fun o => assembled.hasAccessor_iff, fun same other hother htype o allowed => ?_,
    fun most o => ?_⟩
  · exact (same o).1 (assembled.hasAccessor_iff.2 ⟨other, hother, htype, allowed⟩)
  · rw [assembled.hasAccessor_iff]
    constructor
    · rintro ⟨other, hother, htype, allowed⟩
      exact most other hother htype o allowed
    · exact fun allowed => ⟨q, hq, hname, allowed⟩

/-- A register that can be read and written. -/
def control : Register where
  name := "CTRL"
  offset := 0

/-- The same register for reading only. -/
def lockedControl : Register where
  name := "CTRL"
  offset := 0
  properties := { access := some .readOnly }

/-- Two ports of one type, of which the second can only be read. -/
def lockedPort : Device where
  name := "BOARD"
  peripherals := [
    { name := "PORT", baseAddress := 0x40000000, registers := [control] },
    { name := "LOCK", baseAddress := 0x40001000, registers := [lockedControl],
      headerStructName := some "PORT", properties := { access := some .readOnly } }]

theorem exists_ofDevice_lockedPort :
    ∃ m, (ofDevice { strict := true } lockedPort).outcome = .ok m := by
  have run : ((ofDevice { strict := true } lockedPort).outcome.map fun m =>
      m.types.map ObjectType.name) = .ok ["PORT_CTRL_Type", "PORT_Type"] := by
    decide +kernel
  obtain ⟨m, h, -⟩ := map_eq_ok_iff.1 run
  exact ⟨m, h⟩

theorem accessors_match_access_iff_lockedPort : ∃ m,
    (ofDevice { strict := true } lockedPort).outcome = .ok m ∧
    ¬∀ o, m.HasAccessor o "PORT_CTRL_Type" ↔ o.isAllowed lockedControl.access = true := by
  obtain ⟨m, h⟩ := exists_ofDevice_lockedPort
  have type : (TypeNames.ofDevice lockedPort).lookup ["LOCK", "CTRL"] = .ok "PORT_CTRL_Type" := by
    decide +kernel
  have matches_iff := (accessors_match_access_iff h (q := (["LOCK", "CTRL"], lockedControl))
    (by decide +kernel) type).2
  refine ⟨m, h, fun same => ?_⟩
  have allowed := matches_iff.1 same (["PORT", "CTRL"], control) (by decide +kernel)
    (by decide +kernel) .write (by decide)
  exact absurd allowed (by decide)

/-- A register may have accessors that its access does not allow, also in a strict module. -/
theorem not_forall_accessors_match_access : ¬∀ (options : Options) (d : Device) (m : Module),
    options.strict = true → (ofDevice options d).outcome = .ok m →
      ∀ q ∈ d.peripherals.flatMap Peripheral.registersBelow, ∀ typeName,
        (TypeNames.ofDevice d).lookup q.1 = .ok typeName →
          ∀ o, m.HasAccessor o typeName ↔ o.isAllowed q.2.access = true := by
  intro claim
  obtain ⟨m, h⟩ := exists_ofDevice_lockedPort
  obtain ⟨types, declarations, assembled⟩ := exists_isAssembled h
  have write : m.HasAccessor .write "PORT_CTRL_Type" := assembled.hasAccessor_iff.2
    ⟨(["PORT", "CTRL"], control), by decide +kernel, by decide +kernel, by decide⟩
  have allowed := (claim _ lockedPort m rfl h (["LOCK", "CTRL"], lockedControl)
    (by decide +kernel) "PORT_CTRL_Type" (by decide +kernel) .write).1 write
  exact absurd allowed (by decide)

end Module

end RegisterMap.Nim
