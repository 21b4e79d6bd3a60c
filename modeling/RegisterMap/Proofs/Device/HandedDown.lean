import RegisterMap.Proofs.Device.Everywhere

/-!
# Properties of the nodes around

Properties are handed down from the device inwards, each node completing its own by what it is
handed. Seen from a register, the size is the first that is given on the way from the register
outwards, and so is the access, which may come from another node. Nothing but properties changes.

## Main definitions

* `Properties.nearest` : the first size and the first access that some nodes give.
* `Device.HasLevel` : what the node at a position holds, and the properties around that.
* `Device.withoutProperties` : the device with all that properties are not.

## Main results

* `Device.exists_hasLevel_iff` : every position has the properties around it.
* `Device.HasLevel.inside?_inheritProperties` : what is at a position after properties are handed
  down.
* `Device.withoutProperties_inheritProperties` : nothing else changes.
* `Device.inheritProperties_nearest` : the properties that all nodes have then.
-/

namespace RegisterMap

/-! ### The nearest properties -/

namespace Properties

/-- The first size that is given by nodes in order, and the first access. -/
def nearest (nodes : List Properties) : Properties :=
  ⟨nodes.findSome? (·.size), nodes.findSome? (·.access)⟩

theorem nearest_cons (own : Properties) (around : List Properties) :
    nearest (own :: around) = own.inherit (nearest around) := by
  obtain ⟨size, access⟩ := own
  cases size <;> cases access <;> rfl

theorem nearest_singleton (own : Properties) : nearest [own] = own := by
  rw [nearest_cons]
  exact own.inherit_none

end Properties

/-! ### Positions with what is around them -/

/-- What the node at a position holds, and the properties of the nodes around that: those of the
node itself first, then those of the nodes around it, and those of the device last. -/
inductive Device.HasLevel (d : Device) (i : Nat) :
    List Nat → List Properties → Contents → Prop
  | peripheral {p : Peripheral} (hp : d.peripherals[i]? = some p) :
      HasLevel d i [] [p.properties, d.properties] p.contents
  | cluster {is : List Nat} {around : List Properties} {home : Contents} {k : Nat} {c : Cluster}
      (h : HasLevel d i is around home) (hc : home.clusters[k]? = some c) :
      HasLevel d i (is ++ [k]) (c.properties :: around) c.contents

section

variable {d : Device} {i : Nat} {is : List Nat} {home : Contents}

/-- What is one position further is a cluster of what is at the position. -/
theorem Device.inside?_append_singleton_eq_some_iff {k : Nat} {below : Contents} :
    d.inside? i (is ++ [k]) = some below ↔
      ∃ home, d.inside? i is = some home ∧
        ∃ c, home.clusters[k]? = some c ∧ c.contents = below := by
  rw [inside?, inside?]
  simp only [Contents.inside?_append, ← Option.bind_assoc]
  simp only [Option.bind_eq_some_iff, Contents.inside?, Option.some.injEq]

/-- Every position has the properties around it. -/
theorem Device.exists_hasLevel_iff :
    (∃ around, d.HasLevel i is around home) ↔ d.inside? i is = some home := by
  constructor
  · rintro ⟨around, h⟩
    induction h with
    | peripheral hp => exact inside?_eq_some_iff.2 ⟨_, hp, rfl⟩
    | cluster _ hc ih => exact inside?_append_singleton_eq_some_iff.2 ⟨_, ih, _, hc, rfl⟩
  · intro found
    -- a level goes one cluster inwards, so positions are taken apart at their end
    induction is using List.reverseRecOn generalizing home with
    | nil =>
      obtain ⟨p, hp, path⟩ := inside?_eq_some_iff.1 found
      cases path
      exact ⟨_, .peripheral hp⟩
    | append_singleton is k ih =>
      obtain ⟨outer, outside, c, hc, rfl⟩ := inside?_append_singleton_eq_some_iff.1 found
      obtain ⟨around, h⟩ := ih outside
      exact ⟨_, .cluster h hc⟩

/-- What a position holds is handed the nearest properties around it. -/
theorem Device.HasLevel.inside?_inheritProperties {around : List Properties}
    (h : d.HasLevel i is around home) :
    d.inheritProperties.inside? i is = some (home.inheriting (.nearest around)) := by
  induction h with
  | @peripheral p hp =>
    have handed : d.inheritProperties.peripherals[i]? = some (p.inheriting d.properties) := by
      rw [inheritProperties, List.getElem?_map, hp]
      rfl
    rw [Properties.nearest_cons, Properties.nearest_singleton]
    exact inside?_eq_some_iff.2 ⟨_, handed, rfl⟩
  | @cluster is around home k c _ hc ih =>
    have handed : (home.inheriting (.nearest around)).clusters[k]? =
        some (c.inheriting (.nearest around)) := by
      rw [Contents.inheriting, List.getElem?_map, hc]
      rfl
    rw [Properties.nearest_cons, ← Cluster.contents_inheriting]
    exact inside?_append_singleton_eq_some_iff.2 ⟨_, ih, _, handed, rfl⟩

end

/-! ### What is not properties -/

/-- Register without its properties. -/
def Register.withoutProperties (r : Register) : Register := { r with properties := {} }

mutual

/-- Cluster without its properties and those of all in it. -/
def Cluster.withoutProperties : Cluster → Cluster
  | c@{ registers, clusters, .. } =>
    { c with
      registers := registers.map Register.withoutProperties
      clusters := clustersWithoutProperties clusters
      properties := {} }

/-- Clusters without their properties and those of all in them. -/
def clustersWithoutProperties : List Cluster → List Cluster
  | [] => []
  | c :: cs => c.withoutProperties :: clustersWithoutProperties cs

end

theorem clustersWithoutProperties_eq_map (cs : List Cluster) :
    clustersWithoutProperties cs = cs.map (·.withoutProperties) := by
  induction cs with
  | nil => rfl
  | cons c cs ih => rw [clustersWithoutProperties, ih, List.map_cons]

theorem Cluster.withoutProperties_eq (c : Cluster) : c.withoutProperties =
    { c with
      registers := c.registers.map Register.withoutProperties
      clusters := c.clusters.map (·.withoutProperties)
      properties := {} } := by
  cases c
  rw [Cluster.withoutProperties, clustersWithoutProperties_eq_map]

/-- Peripheral without its properties and those of all in it. -/
def Peripheral.withoutProperties (p : Peripheral) : Peripheral :=
  { p with
    registers := p.registers.map Register.withoutProperties
    clusters := p.clusters.map (·.withoutProperties)
    properties := {} }

/-- The device without the properties of the nodes in it. -/
def Device.withoutProperties (d : Device) : Device :=
  { d with peripherals := d.peripherals.map (·.withoutProperties) }

theorem map_withoutProperties_inheriting (parent : Properties) (rs : List Register) :
    (rs.map (·.inheriting parent)).map Register.withoutProperties =
      rs.map Register.withoutProperties :=
  List.map_map

theorem Cluster.withoutProperties_inheriting (parent : Properties) (c : Cluster) :
    (c.inheriting parent).withoutProperties = c.withoutProperties := by
  induction c using Cluster.induction generalizing parent with
  | step c ih =>
    have inner : (c.clusters.map (·.inheriting (c.properties.inherit parent))).map
        (·.withoutProperties) = c.clusters.map (·.withoutProperties) := by
      rw [List.map_map]
      exact List.map_congr_left fun inner hc => ih inner hc _
    rw [Cluster.inheriting_eq, withoutProperties_eq, withoutProperties_eq,
      map_withoutProperties_inheriting, inner]

theorem Peripheral.withoutProperties_inheriting (parent : Properties) (p : Peripheral) :
    (p.inheriting parent).withoutProperties = p.withoutProperties := by
  have inner : (p.clusters.map (·.inheriting (p.properties.inherit parent))).map
      (·.withoutProperties) = p.clusters.map (·.withoutProperties) := by
    rw [List.map_map]
    exact List.map_congr_left fun c _ => c.withoutProperties_inheriting _
  rw [inheriting, withoutProperties, withoutProperties, map_withoutProperties_inheriting, inner]

/-- Handing down properties changes nothing else. -/
theorem Device.withoutProperties_inheritProperties (d : Device) :
    d.inheritProperties.withoutProperties = d.withoutProperties := by
  have peripherals : (d.peripherals.map (·.inheriting d.properties)).map (·.withoutProperties) =
      d.peripherals.map (·.withoutProperties) := by
    rw [List.map_map]
    exact List.map_congr_left fun p _ => p.withoutProperties_inheriting _
  rw [inheritProperties, withoutProperties, withoutProperties, peripherals]

/-! ### Properties of all nodes -/

/-- **Properties after they are handed down.** Every node of a device then has the first size, and
the first access, that the node itself or a node around it gives, from the inside outwards: a
peripheral of itself and the device, the registers and clusters at every position of themselves and
all nodes around the position. Nothing but properties changes. -/
theorem Device.inheritProperties_nearest (d : Device) :
    List.Forall₂ (fun p p' => p'.properties = .nearest [p.properties, d.properties])
      d.peripherals d.inheritProperties.peripherals ∧
    (∀ i is home, d.inside? i is = some home ↔ ∃ around, d.HasLevel i is around home) ∧
    (∀ i is around home, d.HasLevel i is around home →
      ∃ home', d.inheritProperties.inside? i is = some home' ∧
        home'.registers = home.registers.map (fun r =>
          { r with properties := .nearest (r.properties :: around) }) ∧
        List.Forall₂ (fun c c' => c'.properties = .nearest (c.properties :: around))
          home.clusters home'.clusters) ∧
    d.inheritProperties.withoutProperties = d.withoutProperties := by
  refine ⟨?_, fun _ _ _ => exists_hasLevel_iff.symm, fun i is around home level =>
    ⟨_, level.inside?_inheritProperties, ?_, ?_⟩, d.withoutProperties_inheritProperties⟩
  · rw [inheritProperties, List.forall₂_map_right_iff]
    refine List.forall₂_same.2 fun p _ => ?_
    rw [Properties.nearest_cons, Properties.nearest_singleton, Peripheral.inheriting]
  · simp only [Contents.inheriting, Properties.nearest_cons]
    rfl
  · rw [Contents.inheriting, List.forall₂_map_right_iff]
    refine List.forall₂_same.2 fun c _ => ?_
    rw [Properties.nearest_cons, Cluster.inheriting_eq]

/-- A device of four levels, each of which gives a size or an access. -/
def layeredDevice : Device where
  name := "BOARD"
  properties := { size := some 32, access := some .writeOnly }
  peripherals := [
    { name := "PORT", baseAddress := 0x40000000, properties := { size := some 16 }
      clusters := [
        { name := "BANK", offset := 0, properties := { access := some .readOnly }
          clusters := [
            { name := "LANE", offset := 0, properties := { size := some 8 }
              registers := [{ name := "DATA", offset := 0 },
                { name := "CTRL", offset := 1
                  properties := { access := some .readWrite } }] }] }] }]

theorem inheritProperties_nearest_layeredDevice : ∃ lane,
    layeredDevice.inheritProperties.inside? 0 [0, 0] = some lane ∧
    lane.registers.map (fun r => (r.name, r.properties)) =
      [("DATA", ⟨some 8, some .readOnly⟩), ("CTRL", ⟨some 8, some .readWrite⟩)] := by
  have level : layeredDevice.HasLevel 0 ([] ++ [0] ++ [0]) _ _ :=
    .cluster (.cluster (.peripheral rfl) rfl) rfl
  obtain ⟨lane, found, registers, -⟩ :=
    layeredDevice.inheritProperties_nearest.2.2.1 _ _ _ _ level
  refine ⟨lane, found, ?_⟩
  rw [registers]
  rfl

end RegisterMap
