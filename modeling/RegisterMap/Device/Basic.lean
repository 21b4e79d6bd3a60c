import RegisterMap.Device.Placeholder

/-!
# Devices

A device is a set of peripherals at fixed addresses. A peripheral holds registers and clusters, a
cluster holds registers and further clusters, and a register is divided into bit fields. A node may
be repeated, take what it lacks from another node, and take the size and access of its registers
from the nodes around it.

## Main definitions

* `Device`, `Peripheral`, `Cluster`, `Register`, `BitField` : the nodes.
* `Access`, `Properties` : what a register allows, and what nodes hand down to their registers.
* `Repetition` : how often a node is repeated.
* `Contents` : the registers and clusters directly inside a node.

## Main results

* `Properties.inherit_none`, `Properties.inherit_assoc` : handing down is associative and an empty
  ancestor adds nothing.
* `Cluster.induction` : to prove a statement of every cluster, prove it of a cluster whose inner
  clusters have it.
-/

namespace RegisterMap

/-! ### Properties -/

/-- What software may do with a register. -/
inductive Access where
  | readOnly
  | writeOnly
  | readWrite
  | writeOnce
  | readWriteOnce
  deriving DecidableEq, Repr, Inhabited

namespace Access

/-- All kinds of access. -/
def all : List Access := [readOnly, writeOnly, readWrite, writeOnce, readWriteOnce]

/-- Spelling in a device description. -/
def text : Access → String
  | readOnly => "read-only"
  | writeOnly => "write-only"
  | readWrite => "read-write"
  | writeOnce => "writeOnce"
  | readWriteOnce => "read-writeOnce"

/-- The access with a given spelling. -/
def ofText? (s : String) : Option Access := all.find? fun a => a.text == s

/-- The register can be read. -/
def isReadable : Access → Bool
  | readOnly | readWrite | readWriteOnce => true
  | writeOnly | writeOnce => false

/-- The register can be written. -/
def isWritable : Access → Bool
  | readOnly => false
  | writeOnly | writeOnce | readWrite | readWriteOnce => true

theorem ofText?_text (a : Access) : ofText? a.text = some a := by
  cases a <;> decide

end Access

/-- What a node says about the registers in it: their size in bits and their access. -/
structure Properties where
  size : Option Int := none
  access : Option Access := none
  deriving DecidableEq, Repr, Inhabited

namespace Properties

/-- A node's own properties, completed by those of the node around it. -/
def inherit (own parent : Properties) : Properties :=
  ⟨own.size.or parent.size, own.access.or parent.access⟩

@[simp] theorem inherit_none (p : Properties) : p.inherit {} = p := by
  simp [inherit]

@[simp] theorem none_inherit (p : Properties) : ({} : Properties).inherit p = p := by
  simp [inherit]

theorem inherit_assoc (p q r : Properties) :
    (p.inherit q).inherit r = p.inherit (q.inherit r) := by
  simp [inherit, Option.or_assoc]

@[simp] theorem inherit_self (p : Properties) : p.inherit p = p := by
  simp [inherit]

end Properties

/-! ### Repetition -/

/-- A node repeated at equal distances. Nothing of it need be declared; what is missing shows when
the node is laid out. -/
structure Repetition where
  count : Option Int := none
  increment : Option Int := none
  index : Option String := none
  name : Option String := none
  deriving DecidableEq, Repr, Inhabited

/-- The node is declared with a count. -/
def isRepeated (r : Option Repetition) : Bool := r.any (·.count.isSome)

/-- Name that a repetition gives to the type of its instances, if it is not empty. -/
def repetitionName? (r : Option Repetition) : Option String :=
  (r.bind (·.name)).filter (· ≠ "")

/-! ### Nodes -/

/-- The values of a bit field that have names, in order of declaration. -/
structure EnumeratedValues where
  values : List (String × Int) := []
  name : Option String := none
  headerName : Option String := none
  derivedFrom : Option String := none
  deriving DecidableEq, Repr, Inhabited

/-- The bits of a register from `lsb` to `msb`. -/
structure BitField where
  name : String
  lsb : Int
  msb : Int
  description : Option String := none
  enumeratedValues : Option EnumeratedValues := none
  repetition : Option Repetition := none
  derivedFrom : Option String := none
  deriving DecidableEq, Repr, Inhabited

/-- Number of bits from one to another. -/
def bitWidth (lsb msb : Int) : Int := msb - lsb + 1

/-- Number of bits of a field. -/
def BitField.width (f : BitField) : Int := bitWidth f.lsb f.msb

/-- A register, at an offset from the node that holds it. -/
structure Register where
  name : String
  offset : Int
  properties : Properties := {}
  fields : List BitField := []
  repetition : Option Repetition := none
  description : Option String := none
  resetValue : Option Int := none
  derivedFrom : Option String := none
  deriving DecidableEq, Repr, Inhabited

/-- Size in bits of a register for which nobody gives one. -/
def defaultRegisterSize : Int := 32

/-- Access to a register for which nobody gives one. -/
def defaultAccess : Access := .readWrite

/-- Size of a register in bits. -/
def Register.size (r : Register) : Int := r.properties.size.getD defaultRegisterSize

/-- Access to a register. -/
def Register.access (r : Register) : Access := r.properties.access.getD defaultAccess

/-- A group of registers and clusters, at an offset from the node that holds it. -/
structure Cluster where
  name : String
  offset : Int
  registers : List Register := []
  clusters : List Cluster := []
  headerStructName : Option String := none
  repetition : Option Repetition := none
  properties : Properties := {}
  description : Option String := none
  derivedFrom : Option String := none
  deriving Repr, Inhabited

/-- An interrupt with its number. -/
structure Interrupt where
  name : String
  value : Int
  description : Option String := none
  deriving DecidableEq, Repr, Inhabited

/-- A peripheral at its absolute address. -/
structure Peripheral where
  name : String
  baseAddress : Int
  registers : List Register := []
  clusters : List Cluster := []
  interrupts : List Interrupt := []
  headerStructName : Option String := none
  prependToName : Option String := none
  appendToName : Option String := none
  repetition : Option Repetition := none
  properties : Properties := {}
  description : Option String := none
  groupName : Option String := none
  size : Option Int := none
  derivedFrom : Option String := none
  deriving Repr, Inhabited

/-- The processor core of a device. -/
structure Cpu where
  name : String
  revision : String := ""
  endian : String := "little"
  mpuPresent : Bool := false
  fpuPresent : Bool := false
  vtorPresent : Bool := false
  nvicPriorityBits : Int := 0
  vendorSysTickConfig : Bool := false
  deriving DecidableEq, Repr, Inhabited

/-- A device. -/
structure Device where
  name : String
  peripherals : List Peripheral := []
  cpu : Option Cpu := none
  vendor : Option String := none
  description : Option String := none
  properties : Properties := {}
  deriving Repr, Inhabited

/-! ### Contents -/

/-- The registers and clusters directly inside a peripheral or a cluster. -/
structure Contents where
  registers : List Register
  clusters : List Cluster

/-- What is directly inside a cluster. -/
def Cluster.contents (c : Cluster) : Contents := ⟨c.registers, c.clusters⟩

/-- What is directly inside a peripheral. -/
def Peripheral.contents (p : Peripheral) : Contents := ⟨p.registers, p.clusters⟩

/-- The node holds neither registers nor clusters. -/
def Contents.isEmpty (c : Contents) : Bool := c.registers.isEmpty && c.clusters.isEmpty

/-- A statement holds of every cluster if it holds of each whose inner clusters have it. -/
theorem Cluster.induction {P : Cluster → Prop}
    (step : ∀ c : Cluster, (∀ inner ∈ c.clusters, P inner) → P c) (c : Cluster) : P c :=
  Cluster.rec (motive_1 := P) (motive_2 := fun cs => ∀ c ∈ cs, P c)
    (fun name offset registers clusters headerStructName repetition properties description
        derivedFrom ih =>
      step ⟨name, offset, registers, clusters, headerStructName, repetition, properties,
        description, derivedFrom⟩ ih)
    (fun _ h => absurd h List.not_mem_nil)
    (fun _ _ hc hcs _ h => (List.mem_cons.1 h).elim (fun e => e ▸ hc) (hcs _))
    c

end RegisterMap
