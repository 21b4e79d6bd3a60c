import RegisterMap.Device.Derivation
import RegisterMap.Device.Repetition
import RegisterMap.Diagnostic.Logged

/-!
# Expanding lists

A repeated node whose name has a placeholder without brackets is a list: it stands for one node per
instance, each with its own name and place. Arrays stay single nodes. What is inside a node is
expanded before the node itself.

## Main definitions

* `listInstances` : the indices of a list's instances with their distances from the first.
* `Register.expand`, `Cluster.expand`, `Peripheral.expand` : the nodes that a node stands for.
* `Device.expand` : the device with every list expanded.

## Main results

* `Cluster.expand_eq` : a cluster is expanded after its contents.
-/

namespace RegisterMap

/-- The node is a list. -/
def isList (name : String) (r : Option Repetition) : Bool := r.isSome && isListName name

/-- Indices of the instances of a list, each with its distance from the first. -/
def listInstances (owner : String) (r : Option Repetition) :
    Except Fault (List (String × Int)) := do
  let l ← layout owner r
  let indices ← (r.getD {}).indices owner
  pure (indices.mapIdx fun i index => (index, (i : Int) * l.stride))

/-- Registers that a register stands for. -/
def Register.expand (r : Register) : Except Fault (List Register) :=
  if isList r.name r.repetition then do
    let instances ← listInstances ("register " ++ r.name) r.repetition
    pure (instances.map fun (index, distance) =>
      { r with
        name := fillPlaceholder r.name index
        offset := r.offset + distance
        repetition := none })
  else pure [r]

/-- Registers that some registers stand for. -/
def expandRegisters (rs : List Register) : Except Fault (List Register) :=
  (rs.mapM Register.expand).map List.flatten

/-- Clusters that a cluster stands for, its contents being expanded. -/
def Cluster.expandSelf (c : Cluster) : Except Fault (List Cluster) :=
  if isList c.name c.repetition then do
    let instances ← listInstances ("cluster " ++ c.name) c.repetition
    pure (instances.map fun (index, distance) =>
      { c with
        name := fillPlaceholder c.name index
        offset := c.offset + distance
        headerStructName := nonemptyOr c.headerStructName (c.repetition.bind (·.name))
        repetition := none })
  else pure [c]

mutual

/-- Clusters that a cluster stands for. -/
def Cluster.expand : Cluster → Except Fault (List Cluster)
  | c@{ registers, clusters, .. } => do
    let registers ← expandRegisters registers
    let clusters ← expandClusters clusters
    Cluster.expandSelf { c with registers, clusters }

/-- Clusters that some clusters stand for. -/
def expandClusters : List Cluster → Except Fault (List Cluster)
  | [] => pure []
  | c :: cs => do
    let first ← c.expand
    let rest ← expandClusters cs
    pure (first ++ rest)

end

/-- A cluster is expanded after its contents. -/
theorem Cluster.expand_eq (c : Cluster) : c.expand =
    (expandRegisters c.registers >>= fun registers =>
      expandClusters c.clusters >>= fun clusters =>
        Cluster.expandSelf { c with registers, clusters }) := by
  cases c
  rfl

/-- Peripherals that a peripheral stands for, its contents being expanded. -/
def Peripheral.expandSelf (p : Peripheral) : Logged (List Peripheral) :=
  if isList p.name p.repetition then do
    let instances ← listInstances ("peripheral " ++ p.name) p.repetition
    Logged.report .debug Source.flattening
      ("Expanding peripheral " ++ p.name ++ " into " ++ Numeral.decimal instances.length ++
        " instances")
    pure (instances.map fun (index, distance) =>
      { p with
        name := fillPlaceholder p.name index
        baseAddress := p.baseAddress + distance
        headerStructName := some p.structName
        repetition := none })
  else pure [p]

/-- Peripherals that a peripheral stands for. -/
def Peripheral.expand (p : Peripheral) : Logged (List Peripheral) := do
  let registers ← expandRegisters p.registers
  let clusters ← expandClusters p.clusters
  Peripheral.expandSelf { p with registers, clusters }

/-- The device with every list expanded. -/
def Device.expand (d : Device) : Logged Device := do
  let peripherals ← d.peripherals.mapM Peripheral.expand
  pure { d with peripherals := peripherals.flatten }

end RegisterMap
