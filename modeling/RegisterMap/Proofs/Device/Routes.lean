import Mathlib.Algebra.Ring.Int.Defs
import Mathlib.Data.List.Sections
import Mathlib.Data.Multiset.Bind
import RegisterMap.Device.Repetition
import RegisterMap.Proofs.Device.Contents

/-!
# Routes to registers

A register is reached through a peripheral and a chain of clusters. Each of these nodes, and the
register itself, may be an array, and a choice of one index for each array names one instance of
the register. This file lists the routes of a device and the addresses that the choices give.

## Main definitions

* `Waypoint` : a node on the way to a register.
* `Route` : the nodes from a peripheral down to a register.
* `Route.addresses` : the addresses of the register's instances, one per choice of indices.
* `Device.routes` : one route per register of a device.
* `addressesFrom` : the addresses of routes that begin in a node at a given address.

## Main results

* `addressesFrom_below` : to enter a node is to add the offset of each of its instances.
* `Device.map_register_routes` : the routes of a device lead to its registers.
-/

namespace RegisterMap

/-! ### Waypoints -/

/-- A node on the way to a register: its offset in the node that holds it, and its repetition. -/
structure Waypoint where
  offset : Int
  repetition : Option Repetition

namespace Waypoint

/-- The indices of the node's instances. A node that is not repeated has one instance. -/
def indices (w : Waypoint) : List Nat :=
  if isRepeated w.repetition then
    List.range ((w.repetition.bind (·.count)).getD 0).toNat
  else [0]

/-- Offset of the instance of an index. -/
def place (w : Waypoint) (i : Nat) : Int :=
  if isRepeated w.repetition then w.offset + i * (w.repetition.bind (·.increment)).getD 0
  else w.offset

/-- Offsets of all instances. -/
def places (w : Waypoint) : List Int := w.indices.map w.place

theorem places_of_not_isRepeated {offset : Int} {r : Option Repetition}
    (h : isRepeated r = false) : places ⟨offset, r⟩ = [offset] := by
  simp [places, indices, place, h]

/-- The instances of a repeated node lie at the distances of its layout. -/
theorem places_of_layout {offset : Int} {r : Option Repetition} {owner : String}
    {l : Repetition.Layout} (hr : isRepeated r = true) (h : layout owner r = .ok l) :
    places ⟨offset, r⟩ = l.offsets.map (offset + ·) := by
  obtain ⟨-, count, increment⟩ := layout_eq_ok_iff.1 h
  simp [places, indices, place, hr, count, increment, Repetition.Layout.offsets, Function.comp_def]

end Waypoint

/-! ### Routes -/

/-- The nodes from a peripheral, or from some node below it, down to a register. -/
structure Route where
  waypoints : List Waypoint
  register : Register

namespace Route

/-- The choices of one index for each node of the route. -/
def choices (t : Route) : List (List Nat) := (t.waypoints.map Waypoint.indices).sections

/-- Address of the instance that a choice of indices names. -/
def address (t : Route) (choice : List Nat) : Int :=
  (List.zipWith Waypoint.place t.waypoints choice).sum

/-- Addresses of the register's instances, one per choice. -/
def addresses (t : Route) : List Int := t.choices.map t.address

/-- The route that first enters another node. -/
def below (w : Waypoint) (t : Route) : Route := ⟨w :: t.waypoints, t.register⟩

/-- To enter a node is to add the offset of each of its instances. -/
theorem addresses_below (w : Waypoint) (t : Route) : ((t.below w).addresses : Multiset Int) =
    (w.places : Multiset Int).bind fun a => (t.addresses : Multiset Int).map (a + ·) := by
  have split : (t.below w).addresses =
      t.choices.flatMap fun is => w.indices.map fun i => w.place i + t.address is := by
    simp [addresses, choices, below, address, List.sections, List.map_flatMap, Function.comp_def]
  rw [split, ← Multiset.coe_bind]
  simp only [← Multiset.map_coe, Waypoint.places, addresses, Multiset.map_map, Function.comp_def]
  rw [Multiset.bind_map_comm, Multiset.bind_map]

/-- An array of two nodes, a node in each, and an array of two registers in that. -/
example (r : Register) :
    addresses ⟨[⟨0x100, some { count := some 2, increment := some 0x10 }⟩, ⟨4, none⟩,
      ⟨2, some { count := some 2, increment := some 1 }⟩], r⟩ = [0x106, 0x116, 0x107, 0x117] := rfl

end Route

/-! ### The routes of a device -/

/-- A register as the end of a route. -/
def Register.waypoint (r : Register) : Waypoint := ⟨r.offset, r.repetition⟩

/-- A cluster as a node on a route. -/
def Cluster.waypoint (c : Cluster) : Waypoint := ⟨c.offset, c.repetition⟩

/-- A peripheral as the first node of a route. -/
def Peripheral.waypoint (p : Peripheral) : Waypoint := ⟨p.baseAddress, p.repetition⟩

/-- The route of a register in the node that holds it. -/
def Register.route (r : Register) : Route := ⟨[r.waypoint], r⟩

mutual

/-- The routes to the registers below a cluster. -/
def Cluster.routes : Cluster → List Route
  | { offset, registers, clusters, repetition, .. } =>
    (registers.map Register.route ++ clusterRoutes clusters).map (Route.below ⟨offset, repetition⟩)

/-- The routes to the registers below clusters. -/
def clusterRoutes : List Cluster → List Route
  | [] => []
  | c :: cs => c.routes ++ clusterRoutes cs

end

/-- The routes to the registers below a node. -/
def Contents.routes (c : Contents) : List Route :=
  c.registers.map Register.route ++ clusterRoutes c.clusters

/-- The routes to the registers of a peripheral. -/
def Peripheral.routes (p : Peripheral) : List Route :=
  p.contents.routes.map (Route.below p.waypoint)

/-- The routes to the registers of a device. -/
def Device.routes (d : Device) : List Route := d.peripherals.flatMap Peripheral.routes

theorem Cluster.routes_eq (c : Cluster) :
    c.routes = c.contents.routes.map (Route.below c.waypoint) := by
  cases c
  rfl

theorem clusterRoutes_eq_flatMap (cs : List Cluster) :
    clusterRoutes cs = cs.flatMap Cluster.routes := by
  induction cs with
  | nil => rfl
  | cons c cs ih => rw [clusterRoutes, ih, List.flatMap_cons]

/-- The routes to the registers below a member, or to the member itself. -/
def Member.routes : Member → List Route
  | register r => [r.route]
  | cluster c => c.routes

theorem Contents.routes_eq_flatMap (c : Contents) : c.routes = c.members.flatMap Member.routes := by
  rw [routes, members, List.flatMap_append, List.flatMap_map, List.flatMap_map,
    clusterRoutes_eq_flatMap]
  congr 1
  exact List.map_eq_flatMap

/-- The way into a node does not change where routes lead. -/
theorem map_register_map_below (w : Waypoint) (ts : List Route) :
    (ts.map (Route.below w)).map Route.register = ts.map Route.register := by
  rw [List.map_map]
  rfl

theorem Contents.map_register_routes (c : Contents) (path : NodePath) :
    c.routes.map Route.register = (c.registersBelow path).map Prod.snd := by
  induction c using Contents.induction generalizing path with
  | step c ih =>
    rw [routes, registersBelow_eq_append, clusterRoutes_eq_flatMap, List.map_append,
      List.map_append, List.map_map, List.map_map, List.map_flatMap, List.map_flatMap]
    refine congrArg _ (List.flatMap_congr fun inner hc => ?_)
    rw [Cluster.routes_eq, map_register_map_below]
    exact ih inner hc _

/-- The routes of a device lead to its registers, each once. -/
theorem Device.map_register_routes (d : Device) :
    d.routes.map Route.register =
      (d.peripherals.flatMap Peripheral.registersBelow).map Prod.snd := by
  rw [Device.routes, List.map_flatMap, List.map_flatMap]
  refine List.flatMap_congr fun p _ => ?_
  rw [Peripheral.routes, map_register_map_below]
  exact p.contents.map_register_routes [p.name]

/-! ### Addresses from a node on -/

/-- The addresses that routes lead to from a node at a given address. -/
def addressesFrom (base : Int) (ts : List Route) : Multiset Int :=
  (ts : Multiset Route).bind fun t => (t.addresses : Multiset Int).map (base + ·)

@[simp] theorem addressesFrom_append (base : Int) (ts us : List Route) :
    addressesFrom base (ts ++ us) = addressesFrom base ts + addressesFrom base us := by
  rw [addressesFrom, ← Multiset.coe_add, Multiset.add_bind]
  rfl

theorem addressesFrom_perm {ts us : List Route} (h : ts.Perm us) (base : Int) :
    addressesFrom base ts = addressesFrom base us := by
  rw [addressesFrom, Multiset.coe_eq_coe.2 h, addressesFrom]

/-- To enter a node is to add the offset of each of its instances. -/
theorem addressesFrom_below (base : Int) (w : Waypoint) (ts : List Route) :
    addressesFrom base (ts.map (Route.below w)) =
      (w.places : Multiset Int).bind fun a => addressesFrom (base + a) ts := by
  simp only [addressesFrom, ← Multiset.map_coe, Multiset.bind_map, Route.addresses_below,
    Multiset.map_bind, Multiset.map_map, Function.comp_def, add_assoc]
  exact Multiset.bind_bind _ _

theorem addressesFrom_route (base : Int) (r : Register) :
    addressesFrom base [r.route] =
      ((r.waypoint.places.map (base + ·) : List Int) : Multiset Int) := by
  have own : r.route.addresses = r.waypoint.places := by
    simp [Route.addresses, Route.choices, Route.address, Register.route, List.sections,
      Waypoint.places, Function.comp_def]
  simp [addressesFrom, own]

/-- Before the first node nothing is added. -/
theorem addressesFrom_zero (ts : List Route) :
    addressesFrom 0 ts = ((ts.flatMap Route.addresses : List Int) : Multiset Int) := by
  simp [addressesFrom]

end RegisterMap
