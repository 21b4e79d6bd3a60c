import RegisterMap.Device.Members
import RegisterMap.Device.Repetition
import RegisterMap.Diagnostic.Logged

/-!
# Checking a device

Before anything is generated, every repetition of the device must have a layout. Constructs that
are read but have no effect are reported as warnings.

## Main definitions

* `Device.repetitions` : every repetition of a device with the node that it belongs to.
* `Device.validate` : the check.
* `Device.warnings` : the constructs without effect.

## Main results

* `Device.validate_eq_ok_iff` : a device passes when each of its repetitions has a layout.
-/

namespace RegisterMap

/-! ### Repetitions -/

/-- Path of a member of a node, as messages show it. -/
def dotted (path name : String) : String := path ++ "." ++ name

/-- The repetitions of registers in a node of the given path. -/
def registerRepetitions (path : String) (rs : List Register) : List (String × Option Repetition) :=
  rs.map fun r => ("register " ++ dotted path r.name, r.repetition)

mutual

/-- The repetitions in a cluster of the given path, its own first. -/
def Cluster.repetitions (path : String) : Cluster → List (String × Option Repetition)
  | { repetition, registers, clusters, .. } =>
    ("cluster " ++ path, repetition) ::
      (registerRepetitions path registers ++ clusterRepetitions path clusters)

/-- The repetitions in clusters of a node of the given path. -/
def clusterRepetitions (path : String) : List Cluster → List (String × Option Repetition)
  | [] => []
  | c :: cs => c.repetitions (dotted path c.name) ++ clusterRepetitions path cs

end

/-- The repetitions in a peripheral, its own first. -/
def Peripheral.repetitions (p : Peripheral) : List (String × Option Repetition) :=
  ("peripheral " ++ p.name, p.repetition) ::
    (registerRepetitions p.name p.registers ++ clusterRepetitions p.name p.clusters)

/-- Every node of a device with its repetition, if it has one. -/
def Device.repetitions (d : Device) : List (String × Option Repetition) :=
  d.peripherals.flatMap Peripheral.repetitions

/-- A repetition, where there is one, has a layout. -/
def checkRepetition (owner : String) : Option Repetition → Except Fault Unit
  | none => .ok ()
  | some r => (layout owner (some r)).map fun _ => ()

/-- Every repetition of the device has a layout. -/
def Device.validate (d : Device) : Except Fault Unit :=
  d.repetitions.forM fun (owner, r) => checkRepetition owner r

theorem checkRepetition_eq_ok_iff {owner : String} {r : Option Repetition} :
    checkRepetition owner r = .ok () ↔ (r = none ∨ ∃ l, layout owner r = .ok l) := by
  cases r with
  | none => simp [checkRepetition]
  | some r => cases h : layout owner (some r) <;> simp [checkRepetition, Except.map, h]

/-- A list of checks passes when each of them does. -/
theorem forM_eq_ok_iff {α : Type} (f : α → Except Fault Unit) (xs : List α) :
    xs.forM f = .ok () ↔ ∀ x ∈ xs, f x = .ok () := by
  induction xs with
  | nil => simp [pure, Except.pure]
  | cons x xs ih =>
    rw [List.forall_mem_cons, List.forM]
    cases h : f x with
    | error e => simp [bind, Except.bind]
    | ok u => simpa [bind, Except.bind] using ih

/-- A device passes when each of its repetitions has a layout. -/
theorem Device.validate_eq_ok_iff (d : Device) : d.validate = .ok () ↔
    ∀ o ∈ d.repetitions, o.2 = none ∨ ∃ l, layout o.1 o.2 = .ok l := by
  rw [Device.validate, forM_eq_ok_iff]
  exact forall₂_congr fun _ _ => checkRepetition_eq_ok_iff

/-! ### Warnings -/

/-- The constructs of a bit field that have no effect. -/
def BitField.warnings (peripheral register : String) (f : BitField) : List String :=
  let field := "Register field " ++ dotted register f.name ++ " of peripheral " ++ peripheral
  (if f.derivedFrom.isSome then [field ++ " is derived, not implemented."] else []) ++
  (if f.repetition.isSome then [field ++ " contains dimGroup, not implemented."] else []) ++
  (if (f.enumeratedValues.bind (·.derivedFrom)).isSome then
    [field ++ " contains a derived enumeration, not implemented."] else [])

/-- The constructs of a peripheral that have no effect. -/
def Peripheral.warnings (p : Peripheral) : List String :=
  (if p.repetition.isSome && isArrayName p.name then
    ["Peripheral " ++ p.name ++ " is a dim array, not implemented."] else []) ++
  p.registersBelow.flatMap fun (_, r) => r.fields.flatMap (·.warnings p.name r.name)

/-- The constructs of a device that have no effect. -/
def Device.warnings (d : Device) : List String := d.peripherals.flatMap Peripheral.warnings

/-- Writes the warnings of a device. -/
def Device.warn (d : Device) : Logged (List String) :=
  ⟨d.warnings.map fun w => ⟨.warning, Source.checks, w⟩, .ok d.warnings⟩

end RegisterMap
