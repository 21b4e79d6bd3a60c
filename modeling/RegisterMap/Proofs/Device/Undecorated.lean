import RegisterMap.Device.AddressMap
import RegisterMap.Device.Flattening
import RegisterMap.Proofs.Device.ReferenceChains

/-!
# Devices without decorations

A peripheral may put a text before and after the names of its registers. Derivation copies these
texts from peripheral to peripheral and expansion copies them to every instance, but no step that
prepares a device looks at them. So it makes no difference whether they are taken away before or
after a device is prepared.

## Main definitions

* `Peripheral.undecorated`, `Device.undecorated` : a peripheral and a device without such texts.
* `Completed.undecorated` : a table of completed peripherals without such texts.

## Main results

* `resolvePeripheral_undecorated` : chains of references are followed in the same way.
* `Device.prepare_undecorated` : preparing and taking the texts away commute.
* `Device.addressMap_undecorated` : the map of addresses is the same without the texts.
-/

namespace RegisterMap

variable (before after : Bool)

/-- The peripheral without the text before the names of its registers, the text after them, or
both. -/
def Peripheral.undecorated (p : Peripheral) : Peripheral :=
  { p with
    prependToName := if before then none else p.prependToName
    appendToName := if after then none else p.appendToName }

@[simp] theorem Peripheral.name_undecorated (p : Peripheral) :
    (p.undecorated before after).name = p.name := rfl

@[simp] theorem Peripheral.derivedFrom_undecorated (p : Peripheral) :
    (p.undecorated before after).derivedFrom = p.derivedFrom := rfl

@[simp] theorem Peripheral.contents_undecorated (p : Peripheral) :
    (p.undecorated before after).contents = p.contents := rfl

/-- The device with such peripherals. -/
def Device.undecorated (d : Device) : Device :=
  { d with peripherals := d.peripherals.map (·.undecorated before after) }

/-! ### Checks -/

theorem Device.repetitions_undecorated (d : Device) :
    (d.undecorated before after).repetitions = d.repetitions :=
  List.flatMap_map ..

theorem Device.validate_undecorated (d : Device) :
    (d.undecorated before after).validate = d.validate := by
  rw [validate, repetitions_undecorated, validate]

theorem Device.warn_undecorated (d : Device) : (d.undecorated before after).warn = d.warn := by
  have warnings : (d.undecorated before after).warnings = d.warnings := List.flatMap_map ..
  rw [warn, warnings, warn]

/-! ### Derivation -/

/-- A peripheral takes the texts of its base where it has none. -/
theorem Peripheral.undecorated_completedBy (p base : Peripheral) :
    (p.completedBy base).undecorated before after =
      (p.undecorated before after).completedBy (base.undecorated before after) := by
  cases before <;> cases after <;> rfl

theorem peripheralNamed?_undecorated (ps : List Peripheral) (name : String) :
    peripheralNamed? (ps.map (·.undecorated before after)) name =
      (peripheralNamed? ps name).map (·.undecorated before after) := by
  rw [peripheralNamed?, ← List.map_reverse, List.find?_map]
  rfl

/-- The table with such peripherals. -/
def Completed.undecorated (done : Completed) : Completed :=
  done.map fun entry => (entry.1, entry.2.undecorated before after)

theorem Completed.undecorated_cons (name : String) (p : Peripheral) (done : Completed) :
    Completed.undecorated before after ((name, p) :: done) =
      (name, p.undecorated before after) :: done.undecorated before after := rfl

theorem Completed.lookup_undecorated (done : Completed) (name : String) :
    (done.undecorated before after).lookup name =
      (done.lookup name).map (·.undecorated before after) := by
  induction done with
  | nil => rfl
  | cons entry done ih =>
    rw [undecorated, List.map_cons, List.lookup_cons, List.lookup_cons]
    cases name == entry.1 with
    | true => rfl
    | false => exact ih

/-- Chains of references are followed in the same way. -/
theorem resolvePeripheral_undecorated (ps : List Peripheral) (budget : Nat) (name : String)
    (done : Completed) :
    resolvePeripheral (ps.map (·.undecorated before after)) budget name
        (done.undecorated before after) =
      (fun result => (result.1.undecorated before after, result.2.undecorated before after)) <$>
        resolvePeripheral ps budget name done := by
  induction budget generalizing name done with
  | zero =>
    unfold resolvePeripheral
    rw [Completed.lookup_undecorated]
    cases done.lookup name <;> rfl
  | succ budget ih =>
    unfold resolvePeripheral
    rw [Completed.lookup_undecorated, peripheralNamed?_undecorated]
    cases done.lookup name with
    | some p => rfl
    | none =>
      cases peripheralNamed? ps name with
      | none => rfl
      | some p =>
        simp only [Option.map_some, Peripheral.derivedFrom_undecorated]
        cases nonemptyOr p.derivedFrom none with
        | none => rfl
        | some reference =>
          simp only [ih, bind_map_left, map_bind, map_pure, Peripheral.undecorated_completedBy,
            Completed.undecorated_cons]
          rfl

theorem resolvePeripherals_undecorated (ps : List Peripheral) (names : List String)
    (done : Completed) :
    resolvePeripherals (ps.map (·.undecorated before after)) names
        (done.undecorated before after) =
      List.map (·.undecorated before after) <$> resolvePeripherals ps names done := by
  induction names generalizing done with
  | nil => rfl
  | cons name names ih =>
    rw [resolvePeripherals, resolvePeripherals, resolvePeripheral_undecorated]
    simp only [bind_map_left, map_bind, map_pure, ih, List.map_cons]

/-- References between members lead to the same members. -/
theorem completeInside_undecorated (ps : List Peripheral) (p : Peripheral) :
    completeInside (ps.map (·.undecorated before after)) (p.undecorated before after) =
      (·.undecorated before after) <$> completeInside ps p := by
  have count : (ps.map (·.undecorated before after)).flatMap (·.clusters) =
      ps.flatMap (·.clusters) := List.flatMap_map ..
  have same : ∀ name, (peripheralNamed? (ps.map (·.undecorated before after)) name).map
      Peripheral.contents = (peripheralNamed? ps name).map Peripheral.contents := by
    intro name
    rw [peripheralNamed?_undecorated, Option.map_map]
    rfl
  unfold completeInside
  rw [count, Peripheral.contents_undecorated, Peripheral.name_undecorated,
    resolveContents_congr same]
  cases resolveContents ps (countClusters (ps.flatMap (·.clusters)) + 1) p.name p.contents <;> rfl

theorem Device.derive_undecorated (d : Device) :
    (d.undecorated before after).derive = (·.undecorated before after) <$> d.derive := by
  have names : (d.undecorated before after).peripherals.map (·.name) =
      d.peripherals.map (·.name) := List.map_map ..
  have resolved := resolvePeripherals_undecorated before after d.peripherals
    (d.peripherals.map (·.name)) []
  rw [derive_eq, derive_eq, names]
  change resolvePeripherals (d.undecorated before after).peripherals _ [] = _ at resolved
  rw [resolved]
  have inside : ∀ ps : List Peripheral,
      (ps.map (·.undecorated before after)).mapM
          (completeInside (ps.map (·.undecorated before after))) =
        List.map (·.undecorated before after) <$> ps.mapM (completeInside ps) := by
    intro ps
    rw [List.mapM_map, ← mapM_map_results]
    exact congrArg (ps.mapM ·) (funext fun p => completeInside_undecorated before after ps p)
  simp only [bind_map_left, map_bind, inside]
  rfl

/-! ### Expansion -/

theorem Peripheral.expandSelf_undecorated (p : Peripheral) :
    (p.undecorated before after).expandSelf =
      List.map (·.undecorated before after) <$> p.expandSelf := by
  have list : isList (p.undecorated before after).name (p.undecorated before after).repetition =
      isList p.name p.repetition := rfl
  rw [expandSelf, expandSelf, list]
  split
  · simp only [map_bind, map_pure, List.map_map]
    rfl
  · rfl

theorem Peripheral.expand_undecorated (p : Peripheral) :
    (p.undecorated before after).expand = List.map (·.undecorated before after) <$> p.expand := by
  rw [expand, expand]
  simp only [map_bind, ← expandSelf_undecorated]
  rfl

theorem Device.expand_undecorated (d : Device) :
    (d.undecorated before after).expand = (·.undecorated before after) <$> d.expand := by
  have peripherals : (d.peripherals.map (·.undecorated before after)).mapM Peripheral.expand =
      List.map (List.map (·.undecorated before after)) <$>
        d.peripherals.mapM Peripheral.expand := by
    rw [List.mapM_map, ← mapM_map_results]
    exact congrArg (d.peripherals.mapM ·) (funext (Peripheral.expand_undecorated before after))
  rw [expand, expand, undecorated, peripherals]
  simp only [bind_map_left, map_bind, map_pure, ← List.map_flatten]
  rfl

/-! ### Preparation -/

theorem Device.inheritProperties_undecorated (d : Device) :
    (d.undecorated before after).inheritProperties =
      d.inheritProperties.undecorated before after := by
  rw [inheritProperties, undecorated, undecorated, inheritProperties, List.map_map, List.map_map]
  rfl

theorem Device.flatten_undecorated (d : Device) :
    (d.undecorated before after).flatten = (·.undecorated before after) <$> d.flatten := by
  have derived : Logged.ofExcept (d.undecorated before after).derive =
      (·.undecorated before after) <$> Logged.ofExcept d.derive := by
    rw [derive_undecorated]
    cases d.derive <;> rfl
  rw [flatten, flatten, derived]
  simp only [bind_map_left, map_bind, map_pure, expand_undecorated, inheritProperties_undecorated]

/-- Preparing a device and taking the texts away commute: the same is written, the same faults end
the preparation, and its results differ in the texts only. -/
theorem Device.prepare_undecorated (d : Device) :
    (d.undecorated before after).prepare = (·.undecorated before after) <$> d.prepare := by
  rw [prepare, prepare, validate_undecorated, warn_undecorated, flatten_undecorated]
  simp only [map_bind]

/-- The map of a device's addresses shows nothing of the texts. -/
theorem Device.addressMap_undecorated (d : Device) :
    (d.undecorated before after).addressMap = d.addressMap := by
  rw [addressMap, addressMap, undecorated, List.mapM_map]
  rfl

end RegisterMap
