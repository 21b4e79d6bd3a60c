import RegisterMap.Device.Basic
import RegisterMap.Numeral.Printer
import RegisterMap.Xml.Element

/-!
# Writing a device description

The element that describes a device, every part under the tag from which it is read. An integer can
be written in decimal or in hexadecimal notation, and descriptions mix the two, so the style of
every integer is an argument.

## Main definitions

* `Styles` : the style of every integer in an element.
* `textElement` : an element that holds a text.
* `numbered` : the elements of a list.
* `Register.element`, `Cluster.element`, `Peripheral.element` : the elements of the nodes.
* `Device.element` : the element of a device.

## Main results

* `Cluster.element_eq` : a cluster's registers and clusters are children of its element.
-/

namespace RegisterMap

open Xml (Element)

/-! ### Styles -/

/-- The style of every integer in an element. Its place is given by the tags that lead to it, each
with the position among the elements of that tag. -/
def Styles : Type := List (String × Nat) → Numeral.Style

/-- The styles in an inner element, given its tag and position. -/
def Styles.inside (styles : Styles) (tag : String) (position : Nat) : Styles :=
  fun place => styles ((tag, position) :: place)

/-- The spelling of the integer in an inner element, the only one of its tag. -/
def Styles.spell (styles : Styles) (tag : String) (n : Int) : String := (styles [(tag, 0)]).text n

/-! ### Parts -/

/-- Element that holds a text. -/
def textElement (tag text : String) : Element := { tag, text }

/-- Element that holds a text, if there is one. -/
def textElements (tag : String) (text : Option String) : List Element :=
  (text.map (textElement tag)).toList

/-- Element that holds an integer. -/
def integerElement (styles : Styles) (tag : String) (n : Int) : Element :=
  textElement tag (styles.spell tag n)

/-- Element that holds an integer, if there is one. -/
def integerElements (styles : Styles) (tag : String) (n : Option Int) : List Element :=
  textElements tag (n.map (styles.spell tag))

/-- Elements of a tag for the members of a list, in order. -/
def numbered {α : Type} (styles : Styles) (tag : String) (element : Styles → α → Element)
    (xs : List α) : List Element :=
  xs.mapIdx fun position x => element (styles.inside tag position) x

/-- Attribute that names the node from which another is derived. -/
def referenceAttributes (reference : Option String) : List (String × String) :=
  (reference.map fun r => ("derivedFrom", r)).toList

/-- Elements of properties. -/
def Properties.elements (styles : Styles) (p : Properties) : List Element :=
  integerElements styles "size" p.size ++ textElements "access" (p.access.map Access.text)

/-- Elements of a repetition, if there is one. -/
def repetitionElements (styles : Styles) (r : Option Repetition) : List Element :=
  integerElements styles "dim" (r.bind (·.count)) ++
    integerElements styles "dimIncrement" (r.bind (·.increment)) ++
    textElements "dimIndex" (r.bind (·.index)) ++ textElements "dimName" (r.bind (·.name))

/-- Element of a truth value. -/
def flagElement (tag : String) (b : Bool) : Element :=
  textElement tag (if b then "true" else "false")

/-! ### Fields and registers -/

/-- Element of a named value. -/
def enumeratedValueElement (styles : Styles) (value : String × Int) : Element :=
  { tag := "enumeratedValue"
    children := [textElement "name" value.1, integerElement styles "value" value.2] }

/-- Element of a field's named values. -/
def EnumeratedValues.element (styles : Styles) (v : EnumeratedValues) : Element :=
  { tag := "enumeratedValues"
    attributes := referenceAttributes v.derivedFrom
    children := textElements "name" v.name ++ textElements "headerEnumName" v.headerName ++
      numbered styles "enumeratedValue" enumeratedValueElement v.values }

/-- Element of a bit field; the range is given by its two ends. -/
def BitField.element (styles : Styles) (f : BitField) : Element :=
  { tag := "field"
    attributes := referenceAttributes f.derivedFrom
    children := textElement "name" f.name :: textElements "description" f.description ++
      [integerElement styles "lsb" f.lsb, integerElement styles "msb" f.msb] ++
      numbered styles "enumeratedValues" EnumeratedValues.element f.enumeratedValues.toList ++
      repetitionElements styles f.repetition }

/-- Element of a register. -/
def Register.element (styles : Styles) (r : Register) : Element :=
  { tag := "register"
    attributes := referenceAttributes r.derivedFrom
    children := textElement "name" r.name :: textElements "description" r.description ++
      [integerElement styles "addressOffset" r.offset] ++
      integerElements styles "resetValue" r.resetValue ++ r.properties.elements styles ++
      repetitionElements styles r.repetition ++
      [{ tag := "fields"
         children := numbered (styles.inside "fields" 0) "field" BitField.element r.fields }] }

/-! ### Clusters -/

mutual

/-- Element of a cluster. -/
def Cluster.element (styles : Styles) : Cluster → Element
  | { name, offset, registers, clusters, headerStructName, repetition, properties, description,
      derivedFrom } =>
    { tag := "cluster"
      attributes := referenceAttributes derivedFrom
      children := textElement "name" name :: textElements "description" description ++
        [integerElement styles "addressOffset" offset] ++
        textElements "headerStructName" headerStructName ++ properties.elements styles ++
        repetitionElements styles repetition ++
        numbered styles "register" Register.element registers ++
        clusterElements styles 0 clusters }

/-- Elements of clusters, the first of which has the given position. -/
def clusterElements (styles : Styles) (position : Nat) : List Cluster → List Element
  | [] => []
  | c :: cs =>
    c.element (styles.inside "cluster" position) :: clusterElements styles (position + 1) cs

end

theorem clusterElements_eq_mapIdx (styles : Styles) (position : Nat) (cs : List Cluster) :
    clusterElements styles position cs =
      cs.mapIdx fun i c => c.element (styles.inside "cluster" (i + position)) := by
  induction cs generalizing position with
  | nil => rfl
  | cons c cs ih =>
    simp only [clusterElements, ih, List.mapIdx_cons, Nat.zero_add, Nat.add_assoc, Nat.add_comm 1]

theorem clusterElements_eq_numbered (styles : Styles) (cs : List Cluster) :
    clusterElements styles 0 cs = numbered styles "cluster" Cluster.element cs :=
  clusterElements_eq_mapIdx styles 0 cs

/-- A cluster's registers and clusters are children of its element. -/
theorem Cluster.element_eq (styles : Styles) (c : Cluster) : c.element styles =
    { tag := "cluster"
      attributes := referenceAttributes c.derivedFrom
      children := textElement "name" c.name :: textElements "description" c.description ++
        [integerElement styles "addressOffset" c.offset] ++
        textElements "headerStructName" c.headerStructName ++ c.properties.elements styles ++
        repetitionElements styles c.repetition ++
        numbered styles "register" Register.element c.registers ++
        numbered styles "cluster" Cluster.element c.clusters } := by
  cases c
  rw [Cluster.element, clusterElements_eq_numbered]

/-! ### Peripherals and devices -/

/-- Element of an interrupt. -/
def Interrupt.element (styles : Styles) (i : Interrupt) : Element :=
  { tag := "interrupt"
    children := [textElement "name" i.name, integerElement styles "value" i.value] ++
      textElements "description" i.description }

/-- Element that holds the registers and clusters of a peripheral. -/
def Contents.element (styles : Styles) (c : Contents) : Element :=
  { tag := "registers"
    children := numbered styles "register" Register.element c.registers ++
      numbered styles "cluster" Cluster.element c.clusters }

/-- Element of a peripheral. Its registers and clusters stand in an element of their own, and so
does its size. -/
def Peripheral.element (styles : Styles) (p : Peripheral) : Element :=
  { tag := "peripheral"
    attributes := referenceAttributes p.derivedFrom
    children := textElement "name" p.name :: textElements "description" p.description ++
      textElements "groupName" p.groupName ++
      textElements "prependToName" p.prependToName ++ textElements "appendToName" p.appendToName ++
      textElements "headerStructName" p.headerStructName ++
      [integerElement styles "baseAddress" p.baseAddress] ++ p.properties.elements styles ++
      repetitionElements styles p.repetition ++
      [{ tag := "addressBlock"
         children := integerElements (styles.inside "addressBlock" 0) "size" p.size }] ++
      numbered styles "interrupt" Interrupt.element p.interrupts ++
      [p.contents.element (styles.inside "registers" 0)] }

/-- Element of a processor core. -/
def Cpu.element (styles : Styles) (c : Cpu) : Element :=
  { tag := "cpu"
    children := [textElement "name" c.name, textElement "revision" c.revision,
      textElement "endian" c.endian, flagElement "mpuPresent" c.mpuPresent,
      flagElement "fpuPresent" c.fpuPresent, flagElement "vtorPresent" c.vtorPresent,
      integerElement styles "nvicPrioBits" c.nvicPriorityBits,
      flagElement "vendorSystickConfig" c.vendorSysTickConfig] }

/-- Element of a device. -/
def Device.element (styles : Styles) (d : Device) : Element :=
  { tag := "device"
    children := textElements "vendor" d.vendor ++ textElement "name" d.name ::
      textElements "description" d.description ++
      numbered styles "cpu" Cpu.element d.cpu.toList ++ d.properties.elements styles ++
      [{ tag := "peripherals"
         children :=
          numbered (styles.inside "peripherals" 0) "peripheral" Peripheral.element
            d.peripherals }] }

end RegisterMap
