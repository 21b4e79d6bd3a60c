import RegisterMap.Device.Derivation
import RegisterMap.Device.Members
import RegisterMap.Nim.Registry

/-!
# Type names of a device

Every peripheral, cluster and register of a device gets a type name. A name that the description
gives to a node's type is shared by all nodes that bear it; otherwise the type is named after the
parent's type and the node itself.

## Main definitions

* `Owner` : what a type name belongs to.
* `TypeNames` : the type names of a device by the paths of its nodes.
* `TypeNames.ofDevice` : names given in address order, peripheral by peripheral.

## Main results

* `TypeNames.lookup_eq_ok_iff` : a look-up succeeds at the paths that have a name.
-/

namespace RegisterMap.Nim

/-- What a type name belongs to: a peripheral's layout, a layout that the description names, or a
part of another type. -/
inductive Owner where
  | peripheral (base : String)
  | layout (name : String)
  | part (parentType baseName : String)
  deriving DecidableEq, Repr

/-- The type names of a device's nodes, in the order in which they were given. -/
structure TypeNames where
  entries : List (NodePath × String) := []

namespace TypeNames

/-- The type name at a path; of several, the last given. -/
def find? (names : TypeNames) (path : NodePath) : Option String :=
  names.entries.reverse.lookup path

/-- The type name at a path, which a node of the device has. -/
def lookup (names : TypeNames) (path : NodePath) : Except Fault String :=
  match names.find? path with
  | some name => .ok name
  | none => .error (.unnamed path)

/-- Every path once, with its type name. -/
def toList (names : TypeNames) : List (NodePath × String) :=
  (names.entries.map (·.1)).eraseDups.filterMap fun path => (names.find? path).map (path, ·)

theorem lookup_eq_ok_iff {names : TypeNames} {path : NodePath} {name : String} :
    names.lookup path = .ok name ↔ names.find? path = some name := by
  unfold lookup
  cases names.find? path <;> simp

end TypeNames

/-! ### Owners -/

/-- Name that the description gives to the type of a member: that of its repetition, or a cluster's
header structure. -/
def givenName? : Member → Option String
  | .register r => repetitionName? r.repetition
  | .cluster c => (repetitionName? c.repetition).or c.headerStructName

/-- Claim of a member in a node of the given type: the name that it asks for and the owner. -/
def memberClaim (parentType : String) (m : Member) : String × Owner :=
  match givenName? m with
  | some name => (name, .layout name)
  | none =>
    (TypeName.append parentType (baseName m.name), .part parentType (baseName m.name))

/-- Claim of a peripheral: the name that it asks for and the owner. -/
def peripheralClaim (p : Peripheral) : String × Owner :=
  (p.structName, .peripheral p.structName)

/-! ### Giving names -/

mutual

/-- Names of a node and all in it, given the node's path and the type of the node that holds it. -/
def assignNode (path : NodePath) (parentType : String) :
    Node → Registry Owner → List (NodePath × String) × Registry Owner
  | .register r, reg =>
    let (base, owner) := memberClaim parentType (.register r)
    let (name, reg) := reg.claim base owner
    ([(path, name)], reg)
  | .cluster c members, reg =>
    let (base, owner) := memberClaim parentType (.cluster c)
    let (name, reg) := reg.claim base owner
    let (inner, reg) := assignNodes path name members reg
    ((path, name) :: inner, reg)

/-- Names of the members of a node of the given path and type, and of all in them. -/
def assignNodes (path : NodePath) (typeName : String) :
    List Node → Registry Owner → List (NodePath × String) × Registry Owner
  | [], reg => ([], reg)
  | n :: ns, reg =>
    let (first, reg) := assignNode (path ++ [n.member.name]) typeName n reg
    let (rest, reg) := assignNodes path typeName ns reg
    (first ++ rest, reg)

end

/-- Names of a peripheral and all in it. -/
def assignPeripheral (p : Peripheral) (reg : Registry Owner) :
    List (NodePath × String) × Registry Owner :=
  let (base, owner) := peripheralClaim p
  let (name, reg) := reg.claim base owner
  let (inner, reg) := assignNodes [p.name] name p.contents.nodes reg
  (([p.name], name) :: inner, reg)

/-- Names of peripherals and all in them, one peripheral after the other. -/
def assignPeripherals :
    List Peripheral → Registry Owner → List (NodePath × String) × Registry Owner
  | [], reg => ([], reg)
  | p :: ps, reg =>
    let (first, reg) := assignPeripheral p reg
    let (rest, reg) := assignPeripherals ps reg
    (first ++ rest, reg)

/-- The type names of a device. -/
def TypeNames.ofDevice (d : Device) : TypeNames := ⟨(assignPeripherals d.peripherals {}).1⟩

end RegisterMap.Nim
