import RegisterMap.Device.Members
import RegisterMap.Fault

/-!
# Derived nodes

A node may name another node of its kind and take from it what it does not declare itself. The
named node may be derived in turn, up to a limit. A peripheral names a peripheral; a register or
cluster names a sibling, or any member of the device by the dotted path of names from its
peripheral.

## Main definitions

* `Peripheral.completedBy`, `Register.completedBy`, `Cluster.completedBy` : a node completed by the
  one that it names.
* `resolvePeripheral` : a peripheral completed along its chain of references.
* `resolveRegister`, `resolveCluster` : a member completed along its chain of references.
* `Device.derive` : the device with every derived node completed.

## Main results

* `peripheralNamed?_eq_some` : a peripheral found by its name is one of the device and bears it.
-/

namespace RegisterMap

/-! ### Completing a node -/

/-- A text that is not empty, or else another. -/
def nonemptyOr (own other : Option String) : Option String := (own.filter (· ≠ "")).or other

/-- Name of the type that a peripheral's layout has: the name that its repetition gives, else that
of its header structure, else its own. -/
def Peripheral.structName (p : Peripheral) : String :=
  (repetitionName? p.repetition).getD ((nonemptyOr p.headerStructName none).getD (baseName p.name))

/-- Peripheral completed by the one that it is derived from. With no registers and clusters of its
own it has those of the other and shares the type of their layout. -/
def Peripheral.completedBy (p base : Peripheral) : Peripheral :=
  let ownLayout := !p.contents.isEmpty
  { p with
    registers := if ownLayout then p.registers else base.registers
    clusters := if ownLayout then p.clusters else base.clusters
    headerStructName :=
      if ownLayout then p.headerStructName else p.headerStructName.or (some base.structName)
    prependToName := p.prependToName.or base.prependToName
    appendToName := p.appendToName.or base.appendToName
    properties := p.properties.inherit base.properties
    description := nonemptyOr p.description base.description
    groupName := nonemptyOr p.groupName base.groupName
    size := p.size.or base.size
    derivedFrom := none }

/-- Register completed by the one that it is derived from. -/
def Register.completedBy (r base : Register) : Register :=
  { r with
    properties := r.properties.inherit base.properties
    fields := if r.fields.isEmpty then base.fields else r.fields
    description := nonemptyOr r.description base.description
    resetValue := r.resetValue.or base.resetValue
    derivedFrom := none }

/-- Cluster completed by the one that it is derived from. With no registers and clusters of its own
it has those of the other. -/
def Cluster.completedBy (c base : Cluster) : Cluster :=
  let ownLayout := !c.contents.isEmpty
  { c with
    registers := if ownLayout then c.registers else base.registers
    clusters := if ownLayout then c.clusters else base.clusters
    headerStructName := nonemptyOr c.headerStructName base.headerStructName
    properties := c.properties.inherit base.properties
    description := nonemptyOr c.description base.description
    derivedFrom := none }

/-! ### Peripherals -/

/-- The number of references that a chain may have. -/
def derivationLimit : Nat := 8

/-- The peripheral of a name; of several, the last. -/
def peripheralNamed? (ps : List Peripheral) (name : String) : Option Peripheral :=
  ps.reverse.find? fun p => p.name == name

theorem peripheralNamed?_eq_some {ps : List Peripheral} {name : String} {p : Peripheral}
    (h : peripheralNamed? ps name = some p) : p ∈ ps ∧ p.name = name :=
  ⟨List.mem_reverse.1 (List.mem_of_find?_eq_some h), by simpa using List.find?_some h⟩

/-- The peripherals that are completed already, by name. -/
abbrev Completed := List (String × Peripheral)

/-- The peripheral of a name completed along its chain of references, of which `budget` more may be
followed. A peripheral that is completed already ends the chain. -/
def resolvePeripheral (ps : List Peripheral) :
    (budget : Nat) → String → Completed → Except Fault (Peripheral × Completed)
  | budget, name, done =>
    match done.lookup name with
    | some p => .ok (p, done)
    | none =>
      match budget with
      | 0 => .error (.chainTooDeep name)
      | budget + 1 =>
        match peripheralNamed? ps name with
        | none => .error (.peripheralNotFound name)
        | some p =>
          match nonemptyOr p.derivedFrom none with
          | none => .ok (p, (name, p) :: done)
          | some reference => do
            let (base, done) ← resolvePeripheral ps budget reference done
            pure (p.completedBy base, (name, p.completedBy base) :: done)

/-- The peripherals of some names, each completed along its chain of references. -/
def resolvePeripherals (ps : List Peripheral) :
    List String → Completed → Except Fault (List Peripheral)
  | [], _ => pure []
  | name :: names, done => do
    let (p, done) ← resolvePeripheral ps (derivationLimit + 1) name done
    let rest ← resolvePeripherals ps names done
    pure (p :: rest)

/-! ### Registers and clusters -/

/-- The member that names lead to from a node, and the node that holds it. -/
def Contents.descend : Contents → List String → Option (Member × Contents)
  | _, [] => none
  | home, [name] => (home.find? name).map fun m => (m, home)
  | home, name :: names =>
    match home.find? name with
    | some (.cluster c) => c.contents.descend names
    | _ => none

/-- The member that a reference in a node leads to, and the node that holds it: a sibling, or if
the reference has dots, what the path leads to from its peripheral. -/
def findReference (ps : List Peripheral) (reference : String) (home : Contents) :
    Except Fault (Member × Contents) :=
  let found :=
    match reference.toList.splitOn '.' with
    | head :: part :: parts =>
      (peripheralNamed? ps (String.ofList head)).bind fun p =>
        p.contents.descend ((part :: parts).map String.ofList)
    | _ => (home.find? reference).map fun m => (m, home)
  match found with
  | some target => .ok target
  | none => .error (.targetNotFound reference)

mutual

/-- Register completed along its chain of references, of which `budget` more may be followed. -/
def resolveRegister (ps : List Peripheral) :
    (budget : Nat) → Register → Contents → Except Fault Register
  | budget, r, home =>
    match r.derivedFrom with
    | none => .ok r
    | some reference =>
      match budget with
      | 0 => .error (.chainTooDeep r.name)
      | budget + 1 => do
        match ← findReference ps reference home with
        | (.register base, baseHome) =>
          let base ← resolveRegister ps budget base baseHome
          pure (r.completedBy base)
        | (.cluster base, baseHome) =>
          let base ← resolveCluster ps budget base baseHome
          throw (.registerFromCluster r.name base.name)

/-- Cluster completed along its chain of references, of which `budget` more may be followed. -/
def resolveCluster (ps : List Peripheral) :
    (budget : Nat) → Cluster → Contents → Except Fault Cluster
  | budget, c, home =>
    match c.derivedFrom with
    | none => .ok c
    | some reference =>
      match budget with
      | 0 => .error (.chainTooDeep c.name)
      | budget + 1 => do
        match ← findReference ps reference home with
        | (.register base, baseHome) =>
          let base ← resolveRegister ps budget base baseHome
          throw (.clusterFromRegister c.name base.name)
        | (.cluster base, baseHome) =>
          let base ← resolveCluster ps budget base baseHome
          pure (c.completedBy base)

end

mutual

/-- Number of clusters in a cluster, itself included. -/
def Cluster.count : Cluster → Nat
  | { clusters, .. } => countClusters clusters + 1

/-- Number of clusters at every depth of some clusters. -/
def countClusters : List Cluster → Nat
  | [] => 0
  | c :: cs => c.count + countClusters cs

end

theorem Cluster.count_eq (c : Cluster) : c.count = countClusters c.clusters + 1 := by
  cases c
  rfl

theorem countClusters_append (cs cs' : List Cluster) :
    countClusters (cs ++ cs') = countClusters cs + countClusters cs' := by
  induction cs with
  | nil => simp [countClusters]
  | cons c cs ih => rw [List.cons_append, countClusters, countClusters, ih, Nat.add_assoc]

theorem countClusters_reverse (cs : List Cluster) :
    countClusters cs.reverse = countClusters cs := by
  induction cs with
  | nil => rfl
  | cons c cs ih =>
    rw [List.reverse_cons, countClusters_append, ih, countClusters, countClusters, countClusters,
      Nat.add_zero, Nat.add_comm]

/-- What is inside a node, with every member completed, at every depth. Clusters nest at most
`depth` deep: more than there are clusters would be copies of themselves without end. -/
def resolveContents (ps : List Peripheral) :
    (depth : Nat) → (name : String) → Contents → Except Fault Contents
  | 0, name, _ => .error (.endlessNesting name)
  | depth + 1, _, home => do
    let registers ← home.registers.mapM fun r => resolveRegister ps (derivationLimit + 1) r home
    let clusters ← home.clusters.mapM fun c => do
      let c ← resolveCluster ps (derivationLimit + 1) c home
      let inner ← resolveContents ps depth c.name c.contents
      pure { c with registers := inner.registers, clusters := inner.clusters }
    pure ⟨registers, clusters⟩

/-- The device with every derived peripheral, cluster and register completed. References between
members lead into peripherals that are completed already. -/
def Device.derive (d : Device) : Except Fault Device := do
  let ps ← resolvePeripherals d.peripherals (d.peripherals.map (·.name)) []
  let depth := countClusters (ps.flatMap (·.clusters)) + 1
  let peripherals ← ps.mapM fun p => do
    let inner ← resolveContents ps depth p.name p.contents
    pure { p with registers := inner.registers, clusters := inner.clusters }
  pure { d with peripherals }

end RegisterMap
