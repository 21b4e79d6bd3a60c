import RegisterMap.Device.Derivation
import RegisterMap.Device.Expansion
import RegisterMap.Device.Validation

/-!
# Flattening a device

A device is ready to be generated when derived nodes are completed, lists are expanded and
properties are handed down. The size and access that a node gives hold for the registers in it that
give none themselves, the nearest node deciding.

## Main definitions

* `Register.inheriting`, `Cluster.inheriting`, `Peripheral.inheriting` : a node that takes what it
  lacks from the node around it.
* `Device.inheritProperties` : the device with all properties handed down.
* `Device.flatten` : the three steps in a row.
* `Device.prepare` : the device checked, reported on, and flattened.

## Main results

* `Cluster.inheriting_eq` : a cluster hands down its own properties, completed by its parent's.
-/

namespace RegisterMap

/-! ### Properties handed down -/

/-- Register with the properties that it lacks. -/
def Register.inheriting (parent : Properties) (r : Register) : Register :=
  { r with properties := r.properties.inherit parent }

mutual

/-- Cluster with the properties that it and all in it lack. -/
def Cluster.inheriting (parent : Properties) : Cluster → Cluster
  | c@{ registers, clusters, properties, .. } =>
    { c with
      registers := registers.map (·.inheriting (properties.inherit parent))
      clusters := clustersInheriting (properties.inherit parent) clusters
      properties := properties.inherit parent }

/-- Clusters with the properties that they and all in them lack. -/
def clustersInheriting (parent : Properties) : List Cluster → List Cluster
  | [] => []
  | c :: cs => c.inheriting parent :: clustersInheriting parent cs

end

theorem clustersInheriting_eq_map (parent : Properties) (cs : List Cluster) :
    clustersInheriting parent cs = cs.map (·.inheriting parent) := by
  induction cs with
  | nil => rfl
  | cons c cs ih => rw [clustersInheriting, ih, List.map_cons]

/-- A cluster hands down its own properties, completed by its parent's. -/
theorem Cluster.inheriting_eq (parent : Properties) (c : Cluster) :
    c.inheriting parent =
      { c with
        registers := c.registers.map (·.inheriting (c.properties.inherit parent))
        clusters := c.clusters.map (·.inheriting (c.properties.inherit parent))
        properties := c.properties.inherit parent } := by
  cases c
  rw [Cluster.inheriting, clustersInheriting_eq_map]

/-- Peripheral with the properties that it and all in it lack. -/
def Peripheral.inheriting (parent : Properties) (p : Peripheral) : Peripheral :=
  let properties := p.properties.inherit parent
  { p with
    registers := p.registers.map (·.inheriting properties)
    clusters := p.clusters.map (·.inheriting properties)
    properties }

/-- The device with all properties handed down to registers. -/
def Device.inheritProperties (d : Device) : Device :=
  { d with peripherals := d.peripherals.map (·.inheriting d.properties) }

/-! ### The steps in a row -/

/-- The device with derived nodes completed, lists expanded and properties handed down. -/
def Device.flatten (d : Device) : Logged Device := do
  let d ← Logged.ofExcept d.derive
  let d ← d.expand
  pure d.inheritProperties

/-- The device checked, its warnings written, and flattened. -/
def Device.prepare (d : Device) : Logged Device := do
  Logged.ofExcept d.validate
  let _ ← d.warn
  d.flatten

end RegisterMap
