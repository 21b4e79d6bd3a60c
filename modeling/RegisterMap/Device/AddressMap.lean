import RegisterMap.Device.Members
import RegisterMap.Device.Repetition

/-!
# Address maps

The absolute address of every instance of every register: the peripheral's base address plus the
offsets and array strides on the way down.

## Main definitions

* `AddressMap.Entry` : a register instance with its path, address and size.
* `Device.addressMap` : the map of a device, by ascending address.
* `AddressMap.at?` : the entry that covers an address.
* `AddressMap.named?` : the entry of a path.
* `AddressMap.dump` : the map as text.

## Main results

* `placements_of_not_isRepeated` : a node that is not repeated has one place, its own.
-/

namespace RegisterMap

/-- An instance of a register: its path, its address, its size in bits and the register. -/
structure AddressMap.Entry where
  path : String
  address : Int
  size : Int
  register : Register
  deriving DecidableEq, Repr

/-- The register instances of a device by ascending address. -/
structure AddressMap where
  deviceName : String
  entries : List AddressMap.Entry
  deriving DecidableEq, Repr

/-- The places of a node: one, or one per instance of an array, with the instance's number in the
name. -/
def placements (name : String) (offset : Int) (r : Option Repetition) :
    Except Fault (List (String × Int)) :=
  if isRepeated r then do
    let l ← layout name r
    pure (l.offsets.mapIdx fun i distance =>
      (baseName name ++ "[" ++ Numeral.decimal i ++ "]", offset + distance))
  else pure [(baseName name, offset)]

theorem placements_of_not_isRepeated {r : Option Repetition} (h : isRepeated r = false)
    (name : String) (offset : Int) : placements name offset r = .ok [(baseName name, offset)] := by
  simp [placements, h]
  rfl

/-- The instances of a register in a node at the given path and address. -/
def Register.entries (path : String) (base : Int) (r : Register) :
    Except Fault (List AddressMap.Entry) := do
  let places ← placements r.name r.offset r.repetition
  pure (places.map fun (name, offset) => ⟨path ++ "." ++ name, base + offset, r.size, r⟩)

/-- The instances of registers in a node at the given path and address. -/
def registerEntries (path : String) (base : Int) (rs : List Register) :
    Except Fault (List AddressMap.Entry) :=
  (rs.mapM (Register.entries path base)).map List.flatten

mutual

/-- The register instances in a cluster of a node at the given path and address. -/
def Cluster.entries (path : String) (base : Int) : Cluster → Except Fault (List AddressMap.Entry)
  | { name, offset, registers, clusters, repetition, .. } => do
    let places ← placements name offset repetition
    let parts ← places.mapM fun (name, offset) => do
      let own ← registerEntries (path ++ "." ++ name) (base + offset) registers
      let inner ← clusterEntries (path ++ "." ++ name) (base + offset) clusters
      pure (own ++ inner)
    pure parts.flatten

/-- The register instances in clusters of a node at the given path and address. -/
def clusterEntries (path : String) (base : Int) :
    List Cluster → Except Fault (List AddressMap.Entry)
  | [] => pure []
  | c :: cs => do
    let first ← c.entries path base
    let rest ← clusterEntries path base cs
    pure (first ++ rest)

end

/-- The register instances in a peripheral. -/
def Peripheral.entries (p : Peripheral) : Except Fault (List AddressMap.Entry) := do
  let places ← placements p.name p.baseAddress p.repetition
  let parts ← places.mapM fun (name, base) => do
    let own ← registerEntries name base p.registers
    let inner ← clusterEntries name base p.clusters
    pure (own ++ inner)
  pure parts.flatten

/-- The address map of a device. Instances at one address stay in the order of the device. -/
def Device.addressMap (d : Device) : Except Fault AddressMap := do
  let parts ← d.peripherals.mapM Peripheral.entries
  pure ⟨d.name, parts.flatten.mergeSort fun a b => a.address ≤ b.address⟩

namespace AddressMap

/-- Number of bytes that an entry covers: as many as its size has whole bytes, and at least one. -/
def Entry.bytes (e : Entry) : Int := max (Int.fdiv e.size 8) 1

/-- The entry covers an address. -/
def Entry.covers (e : Entry) (address : Int) : Bool :=
  e.address ≤ address && address < e.address + e.bytes

/-- The first entry that covers an address. -/
def at? (m : AddressMap) (address : Int) : Option Entry := m.entries.find? (·.covers address)

/-- The entry of a path; of several, the last. -/
def named? (m : AddressMap) (path : String) : Option Entry :=
  m.entries.reverse.find? fun e => e.path == path

/-- Line of an entry: its path and its address. -/
def Entry.line (e : Entry) : String := e.path ++ ":" ++ Numeral.paddedHex e.address

/-- The map as text, one line per entry. -/
def dump (m : AddressMap) : String := "\n".intercalate (m.entries.map Entry.line)

end AddressMap

end RegisterMap
