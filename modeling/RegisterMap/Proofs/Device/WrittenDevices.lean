import RegisterMap.Proofs.Device.Contents
import RegisterMap.Proofs.Device.WrittenParts

/-!
# Reading written devices

The element of a device, in whatever styles its integers are written, is read as that device and
nothing is reported. The texts of the device must be such that elements can tell them apart from
missing ones and from each other: names without blanks at their ends, descriptions of words with
single spaces between them, repetitions that give something.

## Main definitions

* `IsDescribableNode` : what the nodes have in common can be written.
* `BitField.IsDescribable`, `Member.IsDescribable`, `Peripheral.IsDescribable`,
  `Device.IsDescribable` : nodes that elements can describe.
* `HasNodeParts` : an element has the parts that the nodes have in common.

## Main results

* `readField_element`, `readRegister_element`, `readCluster_element`, `readPeripheral_element` :
  nodes read back.
* `Device.read_element` : devices read back.
-/

namespace RegisterMap

open Text (IsTrimmed IsProse)
open Xml (Element)

/-! ### Nodes that elements can describe -/

/-- What fields, registers, clusters and peripherals have in common can be written. -/
structure IsDescribableNode (name : String) (description : Option String)
    (repetition : Option Repetition) : Prop where
  name : IsTrimmed name
  description : ∀ s ∈ description, IsProse s
  repetition : ∀ r ∈ repetition, r.IsDescribable

/-- The texts of named values can be written. -/
structure EnumeratedValues.IsDescribable (v : EnumeratedValues) : Prop where
  values : ∀ value ∈ v.values, IsTrimmed value.1
  name : ∀ s ∈ v.name, IsTrimmed s
  headerName : ∀ s ∈ v.headerName, IsTrimmed s

/-- A field that an element can describe. -/
structure BitField.IsDescribable (f : BitField) : Prop extends
    IsDescribableNode f.name f.description f.repetition where
  enumeratedValues : ∀ v ∈ f.enumeratedValues, v.IsDescribable

/-- A register that an element can describe. -/
structure Register.IsDescribable (r : Register) : Prop extends
    IsDescribableNode r.name r.description r.repetition where
  fields : ∀ f ∈ r.fields, f.IsDescribable

/-- A cluster that an element can describe, apart from its members. -/
structure Cluster.IsDescribable (c : Cluster) : Prop extends
    IsDescribableNode c.name c.description c.repetition where
  headerStructName : ∀ s ∈ c.headerStructName, IsTrimmed s

/-- A member that an element can describe, apart from its own members. -/
def Member.IsDescribable : Member → Prop
  | .register r => r.IsDescribable
  | .cluster c => c.IsDescribable

/-- An interrupt that an element can describe. -/
structure Interrupt.IsDescribable (i : Interrupt) : Prop where
  name : IsTrimmed i.name
  description : ∀ s ∈ i.description, IsProse s

/-- A peripheral that an element can describe, with all its members. -/
structure Peripheral.IsDescribable (p : Peripheral) : Prop extends
    IsDescribableNode p.name p.description p.repetition where
  headerStructName : ∀ s ∈ p.headerStructName, IsTrimmed s
  prependToName : ∀ s ∈ p.prependToName, IsTrimmed s
  appendToName : ∀ s ∈ p.appendToName, IsTrimmed s
  groupName : ∀ s ∈ p.groupName, IsTrimmed s
  interrupts : ∀ i ∈ p.interrupts, i.IsDescribable
  members : p.contents.Everywhere Member.IsDescribable

/-- A processor core that an element can describe. Its name and revision may be empty. -/
structure Cpu.IsDescribable (c : Cpu) : Prop where
  name : Text.strip c.name = c.name
  revision : Text.strip c.revision = c.revision
  endian : IsTrimmed c.endian

/-- A device that an element can describe, with all its nodes. -/
structure Device.IsDescribable (d : Device) : Prop where
  name : IsTrimmed d.name
  vendor : ∀ s ∈ d.vendor, IsTrimmed s
  description : ∀ s ∈ d.description, IsProse s
  cpu : ∀ c ∈ d.cpu, c.IsDescribable
  peripherals : ∀ p ∈ d.peripherals, p.IsDescribable

/-! ### Common parts -/

/-- The element has the parts that fields, registers, clusters and peripherals have in common. -/
structure HasNodeParts (styles : Styles) (name : String) (description : Option String)
    (repetition : Option Repetition) (e : Element) : Prop where
  name : e.childrenNamed "name" = [textElement "name" name]
  description : e.childrenNamed "description" = textElements "description" description
  count : e.childrenNamed "dim" = integerElements styles "dim" (repetition.bind (·.count))
  increment : e.childrenNamed "dimIncrement" =
    integerElements styles "dimIncrement" (repetition.bind (·.increment))
  index : e.childrenNamed "dimIndex" = textElements "dimIndex" (repetition.bind (·.index))
  typeName : e.childrenNamed "dimName" = textElements "dimName" (repetition.bind (·.name))

section

variable {styles : Styles} {e : Element} {name : String} {description : Option String}
  {repetition : Option Repetition}

theorem readName_of_child (h : e.childrenNamed "name" = [textElement "name" name])
    (trimmed : IsTrimmed name) (owner : String) : readName e owner = .ok name :=
  readName_eq_ok.2 (childText?_of_child h trimmed)

variable (parts : HasNodeParts styles name description repetition e)
  (h : IsDescribableNode name description repetition)
include parts h

theorem HasNodeParts.readName_eq (owner : String) : readName e owner = .ok name :=
  readName_of_child parts.name h.name owner

theorem HasNodeParts.childDescription?_eq : childDescription? e = description :=
  childDescription?_of_children parts.description h.description

theorem HasNodeParts.readRepetition_eq : readRepetition e = repetition :=
  readRepetition_of_children styles h.repetition parts.count parts.increment parts.index
    parts.typeName

end

/-! ### Fields -/

theorem readEnumeratedValue_element {value : String × Int} (trimmed : IsTrimmed value.1)
    (owner : String) (styles : Styles) :
    readEnumeratedValue owner (enumeratedValueElement styles value) = pure (some value) := by
  have name : childText? (enumeratedValueElement styles value) "name" = some value.1 :=
    childText?_of_child (by simp [enumeratedValueElement]) trimmed
  have number : childText? (enumeratedValueElement styles value) "value" =
      some (styles.spell "value" value.2) :=
    childText?_of_integer styles (by simp [enumeratedValueElement])
  simp [readEnumeratedValue, name, number, Styles.spell, Numeral.integer?_style]

theorem readEnumeratedValues_element {v : EnumeratedValues} (h : v.IsDescribable) (owner : String)
    (styles : Styles) : readEnumeratedValues owner (v.element styles) = pure v := by
  have values : (v.element styles).childrenNamed "enumeratedValue" =
      numbered styles "enumeratedValue" enumeratedValueElement v.values := by
    simp [EnumeratedValues.element]
  have name : childText? (v.element styles) "name" = v.name := by
    refine childText?_of_children ?_ h.name
    simp [EnumeratedValues.element]
  have headerName : childText? (v.element styles) "headerEnumName" = v.headerName := by
    refine childText?_of_children ?_ h.headerName
    simp [EnumeratedValues.element]
  have reference : (v.element styles).attribute? "derivedFrom" = v.derivedFrom :=
    attribute?_referenceAttributes v.derivedFrom
  rw [readEnumeratedValues, values, mapM_numbered fun value hv styles =>
    readEnumeratedValue_element (h.values value hv) owner styles, pure_bind, name, headerName,
    reference, List.filterMap_map]
  simp

theorem BitField.hasNodeParts (styles : Styles) (f : BitField) :
    HasNodeParts styles f.name f.description f.repetition (f.element styles) := by
  constructor <;> simp [element]

theorem readBitRange_element (f : BitField) (owner : String) (styles : Styles) :
    readBitRange (f.element styles) owner = .ok (f.lsb, f.msb) := by
  have offset : childInteger? (f.element styles) "bitOffset" = none := by
    refine childInteger?_of_absent ?_
    simp [BitField.element]
  have range : childText? (f.element styles) "bitRange" = none := by
    refine childText?_of_absent ?_
    simp [BitField.element]
  have lsb : childInteger? (f.element styles) "lsb" = some f.lsb := by
    refine childInteger?_of_child styles ?_
    simp [BitField.element]
  have msb : childInteger? (f.element styles) "msb" = some f.msb := by
    refine childInteger?_of_child styles ?_
    simp [BitField.element]
  simp only [readBitRange, offset, range, lsb, msb]

theorem readField_element {f : BitField} (h : f.IsDescribable) (register : String)
    (styles : Styles) : readField register (f.element styles) = pure f := by
  have parts := f.hasNodeParts styles
  have node := h.toIsDescribableNode
  have child : (f.element styles).child? "enumeratedValues" =
      f.enumeratedValues.map (EnumeratedValues.element (styles.inside "enumeratedValues" 0)) := by
    rw [Element.child?_eq_head?]
    simp [BitField.element, head?_numbered]
  have values : ∀ owner, ((f.element styles).child? "enumeratedValues").mapM
      (readEnumeratedValues owner) = pure f.enumeratedValues := by
    intro owner
    rw [child]
    cases hv : f.enumeratedValues with
    | none => rfl
    | some v =>
      rw [Option.map_some, Option.mapM_some, readEnumeratedValues_element (h.enumeratedValues v hv),
        map_pure]
  have reference : (f.element styles).attribute? "derivedFrom" = f.derivedFrom :=
    attribute?_referenceAttributes f.derivedFrom
  simp only [readField, parts.readName_eq node, readBitRange_element, values,
    parts.childDescription?_eq node, parts.readRepetition_eq node, reference, Logged.liftM_ok,
    pure_bind]

/-! ### Registers and clusters -/

theorem Register.hasNodeParts (styles : Styles) (r : Register) :
    HasNodeParts styles r.name r.description r.repetition (r.element styles) := by
  constructor <;> simp [element]

theorem readRegister_element {r : Register} (h : r.IsDescribable) (styles : Styles) :
    readRegister (r.element styles) = pure r := by
  have parts := r.hasNodeParts styles
  have node := h.toIsDescribableNode
  have child : (r.element styles).child? "fields" = some
      { tag := "fields"
        children := numbered (styles.inside "fields" 0) "field" BitField.element r.fields } := by
    rw [Element.child?_eq_head?]
    simp [Register.element]
  have offset : childInteger? (r.element styles) "addressOffset" = some r.offset := by
    refine childInteger?_of_child styles ?_
    simp [Register.element]
  have resetValue : childInteger? (r.element styles) "resetValue" = r.resetValue := by
    refine childInteger?_of_children styles ?_
    simp [Register.element]
  have properties : readProperties (r.element styles) = pure r.properties := by
    apply readProperties_of_children styles <;> simp [Register.element]
  have fields : (numbered (styles.inside "fields" 0) "field" BitField.element r.fields).mapM
      (readField r.name) = pure r.fields :=
    mapM_numbered_eq_self fun f hf => readField_element (h.fields f hf) r.name
  have reference : (r.element styles).attribute? "derivedFrom" = r.derivedFrom :=
    attribute?_referenceAttributes r.derivedFrom
  simp only [readRegister, parts.readName_eq node, child, offset, resetValue, properties,
    parts.childDescription?_eq node, parts.readRepetition_eq node, reference, Logged.liftM_ok,
    pure_bind, Element.childrenNamed_mk, filter_numbered, if_pos, fields,
    Option.getD_some]

/-- Registers read back, whatever other elements stand beside them. -/
theorem readRegisters_of_children {e : Element} {rs : List Register} (styles : Styles)
    (h : e.childrenNamed "register" = numbered styles "register" Register.element rs)
    (describable : ∀ r ∈ rs, r.IsDescribable) : readRegisters e = pure rs := by
  rw [readRegisters, h]
  exact mapM_numbered_eq_self fun r hr => readRegister_element (describable r hr)

/-- Clusters that each read back do so together, whatever other elements stand beside them. -/
theorem readClusters_of_children {e : Element} {cs : List Cluster} (styles : Styles)
    (h : e.childrenNamed "cluster" = numbered styles "cluster" Cluster.element cs)
    (single : ∀ c ∈ cs, ∀ styles, readCluster (c.element styles) = pure c) :
    readClusters e.children = pure cs := by
  rw [readClusters_eq_mapM]
  change (e.childrenNamed "cluster").mapM readCluster = pure cs
  rw [h]
  exact mapM_numbered_eq_self single

theorem Cluster.hasNodeParts (styles : Styles) (c : Cluster) :
    HasNodeParts styles c.name c.description c.repetition (c.element styles) := by
  constructor <;> simp [element_eq]

/-- A cluster reads back with all its members. -/
theorem readCluster_element {c : Cluster} (h : c.IsDescribable)
    (members : c.contents.Everywhere Member.IsDescribable) (styles : Styles) :
    readCluster (c.element styles) = pure c := by
  induction c using Cluster.induction generalizing styles with
  | step c ih =>
    obtain ⟨registerMembers, clusterMembers⟩ := Contents.everywhere_iff.1 members
    have parts := c.hasNodeParts styles
    have node := h.toIsDescribableNode
    have registers : readRegisters (c.element styles) = pure c.registers := by
      refine readRegisters_of_children styles ?_ registerMembers
      simp [Cluster.element_eq]
    have clusters : readClusters (c.element styles).children = pure c.clusters := by
      refine readClusters_of_children styles ?_ fun inner hc => ?_
      · simp [Cluster.element_eq]
      · obtain ⟨own, inside⟩ := clusterMembers inner hc
        exact ih inner hc own inside
    have offset : childInteger? (c.element styles) "addressOffset" = some c.offset := by
      refine childInteger?_of_child styles ?_
      simp [Cluster.element_eq]
    have headerStructName : childText? (c.element styles) "headerStructName" =
        c.headerStructName := by
      refine childText?_of_children ?_ h.headerStructName
      simp [Cluster.element_eq]
    have properties : readProperties (c.element styles) = pure c.properties := by
      apply readProperties_of_children styles <;> simp [Cluster.element_eq]
    have reference : (c.element styles).attribute? "derivedFrom" = c.derivedFrom := by
      rw [Cluster.element_eq]
      exact attribute?_referenceAttributes c.derivedFrom
    rw [readCluster_eq]
    simp only [parts.readName_eq node, registers, clusters, offset, headerStructName, properties,
      parts.childDescription?_eq node, parts.readRepetition_eq node, reference, Logged.liftM_ok,
      pure_bind, Option.getD_some, Cluster.eta]

/-! ### Peripherals -/

theorem readInterrupt_element {i : Interrupt} (h : i.IsDescribable) (peripheral : String)
    (styles : Styles) : readInterrupt peripheral (i.element styles) = pure i := by
  have name : ∀ owner, readName (i.element styles) owner = .ok i.name :=
    readName_of_child (by simp [Interrupt.element]) h.name
  have value : childInteger? (i.element styles) "value" = some i.value :=
    childInteger?_of_child styles (by simp [Interrupt.element])
  have description : childDescription? (i.element styles) = i.description :=
    childDescription?_of_children (by simp [Interrupt.element]) h.description
  simp only [readInterrupt, name, value, description]
  rfl

/-- The members of a peripheral read back. -/
theorem readMembers_element {c : Contents} (h : c.Everywhere Member.IsDescribable)
    (styles : Styles) : readRegisters (c.element styles) = pure c.registers ∧
      readClusters (c.element styles).children = pure c.clusters := by
  obtain ⟨registers, clusters⟩ := Contents.everywhere_iff.1 h
  constructor
  · exact readRegisters_of_children styles (by simp [Contents.element]) registers
  · refine readClusters_of_children styles (by simp [Contents.element]) fun inner hc => ?_
    exact readCluster_element (clusters inner hc).1 (clusters inner hc).2

theorem Peripheral.hasNodeParts (styles : Styles) (p : Peripheral) :
    HasNodeParts styles p.name p.description p.repetition (p.element styles) := by
  constructor <;> simp [element]

/-- A peripheral reads back with all its members. -/
theorem readPeripheral_element {p : Peripheral} (h : p.IsDescribable) (styles : Styles) :
    readPeripheral (p.element styles) = pure p := by
  have parts := p.hasNodeParts styles
  have node := h.toIsDescribableNode
  have members : (p.element styles).child? "registers" =
      some (p.contents.element (styles.inside "registers" 0)) := by
    rw [Element.child?_eq_head?]
    simp [Peripheral.element]
  obtain ⟨registers, clusters⟩ := readMembers_element h.members (styles.inside "registers" 0)
  have interrupts : ((p.element styles).childrenNamed "interrupt").mapM (readInterrupt p.name) =
      pure p.interrupts := by
    have children : (p.element styles).childrenNamed "interrupt" =
        numbered styles "interrupt" Interrupt.element p.interrupts := by
      simp [Peripheral.element]
    rw [children]
    exact mapM_numbered_eq_self fun i hi => readInterrupt_element (h.interrupts i hi) p.name
  have size : ((p.element styles).child? "addressBlock").bind (fun block =>
      childInteger? block "size") = p.size := by
    have block : (p.element styles).child? "addressBlock" = some
        { tag := "addressBlock"
          children := integerElements (styles.inside "addressBlock" 0) "size" p.size } := by
      rw [Element.child?_eq_head?]
      simp [Peripheral.element]
    rw [block, Option.bind_some]
    exact childInteger?_of_children (styles.inside "addressBlock" 0) (by simp)
  have baseAddress : childInteger? (p.element styles) "baseAddress" = some p.baseAddress :=
    childInteger?_of_child styles (by simp [Peripheral.element])
  have headerStructName : childText? (p.element styles) "headerStructName" = p.headerStructName :=
    childText?_of_children (by simp [Peripheral.element]) h.headerStructName
  have prependToName : childText? (p.element styles) "prependToName" = p.prependToName :=
    childText?_of_children (by simp [Peripheral.element]) h.prependToName
  have appendToName : childText? (p.element styles) "appendToName" = p.appendToName :=
    childText?_of_children (by simp [Peripheral.element]) h.appendToName
  have groupName : childText? (p.element styles) "groupName" = p.groupName :=
    childText?_of_children (by simp [Peripheral.element]) h.groupName
  have properties : readProperties (p.element styles) = pure p.properties := by
    apply readProperties_of_children styles <;> simp [Peripheral.element]
  have reference : (p.element styles).attribute? "derivedFrom" = p.derivedFrom :=
    attribute?_referenceAttributes p.derivedFrom
  simp only [readPeripheral, parts.readName_eq node, members, Option.getD_some, registers, clusters,
    interrupts, size, baseAddress, headerStructName, prependToName, appendToName, groupName,
    properties, parts.childDescription?_eq node, parts.readRepetition_eq node, reference,
    Logged.liftM_ok, pure_bind]
  rfl

/-! ### Devices -/

theorem readCpu_element {c : Cpu} (h : c.IsDescribable) (styles : Styles) :
    readCpu (c.element styles) = c := by
  have name : (childText? (c.element styles) "name").getD "" = c.name :=
    getD_childText?_of_children (by simp [Cpu.element]) h.name
  have revision : (childText? (c.element styles) "revision").getD "" = c.revision :=
    getD_childText?_of_children (by simp [Cpu.element]) h.revision
  have endian : childText? (c.element styles) "endian" = some c.endian :=
    childText?_of_child (by simp [Cpu.element]) h.endian
  have mpuPresent : readFlag (childText? (c.element styles) "mpuPresent") = c.mpuPresent :=
    readFlag_of_child (by simp [Cpu.element])
  have fpuPresent : readFlag (childText? (c.element styles) "fpuPresent") = c.fpuPresent :=
    readFlag_of_child (by simp [Cpu.element])
  have vtorPresent : readFlag (childText? (c.element styles) "vtorPresent") = c.vtorPresent :=
    readFlag_of_child (by simp [Cpu.element])
  have priorityBits : childInteger? (c.element styles) "nvicPrioBits" = some c.nvicPriorityBits :=
    childInteger?_of_child styles (by simp [Cpu.element])
  have sysTick : readFlag (childText? (c.element styles) "vendorSystickConfig") =
      c.vendorSysTickConfig :=
    readFlag_of_child (by simp [Cpu.element])
  simp [readCpu, name, revision, endian, mpuPresent, fpuPresent, vtorPresent, priorityBits, sysTick,
    Option.filter, h.endian.1]

/-- **Written devices.** The element of a device is read as the device, with everything in it at
every depth and in order, and nothing is reported, however its integers are written. -/
theorem Device.read_element {d : Device} (h : d.IsDescribable) (styles : Styles)
    (defaultName : String) : Device.read defaultName (d.element styles) = pure d := by
  have name : childText? (d.element styles) "name" = some d.name :=
    childText?_of_child (by simp [Device.element]) h.name
  have vendor : childText? (d.element styles) "vendor" = d.vendor :=
    childText?_of_children (by simp [Device.element]) h.vendor
  have description : childDescription? (d.element styles) = d.description :=
    childDescription?_of_children (by simp [Device.element]) h.description
  have properties : readProperties (d.element styles) = pure d.properties := by
    apply readProperties_of_children styles <;> simp [Device.element]
  have cpu : ((d.element styles).child? "cpu").map readCpu = d.cpu := by
    have child : (d.element styles).child? "cpu" =
        d.cpu.map (Cpu.element (styles.inside "cpu" 0)) := by
      rw [Element.child?_eq_head?]
      simp [Device.element, head?_numbered]
    rw [child]
    cases hc : d.cpu with
    | none => rfl
    | some c => rw [Option.map_some, Option.map_some, readCpu_element (h.cpu c hc)]
  have peripherals : ∀ owner, readPeripherals owner (d.element styles) = pure d.peripherals := by
    intro owner
    have child : (d.element styles).child? "peripherals" = some
        { tag := "peripherals"
          children := numbered (styles.inside "peripherals" 0) "peripheral" Peripheral.element
            d.peripherals } := by
      rw [Element.child?_eq_head?]
      simp [Device.element]
    simp only [readPeripherals, child, Element.childrenNamed_mk, filter_numbered, if_pos]
    exact mapM_numbered_eq_self fun p hp => readPeripheral_element (h.peripherals p hp)
  have root : (d.element styles).tag = "device" := rfl
  simp only [Device.read, root, ne_eq, not_true_eq_false, if_false, name, Option.filter,
    h.name.1, not_false_eq_true, decide_true, if_true, Option.getD_some, vendor, description,
    properties, cpu, peripherals, pure_bind]

/-- A converter with a control register, whose channel has a control register of its own. -/
def converter : Peripheral where
  name := "ADC%s"
  baseAddress := 0x40012000
  size := some 1024
  repetition := some { count := some 2, increment := some 0x400 }
  interrupts := [{ name := "ADC", value := 18 }]
  registers := [
    { name := "CTRL", offset := 0, resetValue := some (-1), fields := [
      { name := "MODE", lsb := 0, msb := 1
        enumeratedValues := some { values := [("OFF", 0), ("ON", 1)] } }] }]
  clusters := [
    { name := "CHANNEL", offset := 16, description := some "One channel"
      registers := [{ name := "CTRL", offset := 0, properties := { access := some .readOnly } }] }]

/-- A device with converters. -/
def converterBoard : Device where
  name := "BOARD"
  cpu := some { name := "CM4", mpuPresent := true, nvicPriorityBits := 4 }
  peripherals := [converter]

/-- Sizes in decimal notation, all else in hexadecimal notation. -/
def decimalSizes : Styles := fun place =>
  if place.getLast? = some ("size", 0) then .decimal else .hexadecimal

theorem isDescribable_converter : converter.IsDescribable where
  name := by decide
  description := nofun
  repetition := by
    rintro _ ⟨⟩
    exact ⟨by decide, nofun, nofun⟩
  headerStructName := nofun
  prependToName := nofun
  appendToName := nofun
  groupName := nofun
  interrupts := by
    rintro _ (_ | ⟨_, ⟨⟩⟩)
    exact ⟨by decide, nofun⟩
  members := by
    refine Contents.everywhere_iff.2 ⟨?_, ?_⟩
    · rintro _ (_ | ⟨_, ⟨⟩⟩)
      refine ⟨⟨by decide, nofun, nofun⟩, ?_⟩
      rintro _ (_ | ⟨_, ⟨⟩⟩)
      refine ⟨⟨by decide, nofun, nofun⟩, ?_⟩
      rintro _ ⟨⟩
      exact ⟨by decide, nofun, nofun⟩
    · rintro _ (_ | ⟨_, ⟨⟩⟩)
      refine ⟨⟨⟨by decide, ?_, nofun⟩, nofun⟩, Contents.everywhere_iff.2 ⟨?_, nofun⟩⟩
      · rintro _ ⟨⟩
        exact ⟨["One", "channel"], by decide, by decide +kernel, by decide +kernel⟩
      · rintro _ (_ | ⟨_, ⟨⟩⟩)
        exact ⟨⟨by decide, nofun, nofun⟩, fun _ hf => absurd hf List.not_mem_nil⟩

theorem read_element_converterBoard : converterBoard.IsDescribable ∧
    decimalSizes.spell "size" 1024 = "1024" ∧ decimalSizes.spell "addressOffset" 16 = "0x10" ∧
    Device.read "device" (converterBoard.element decimalSizes) = pure converterBoard := by
  have describable : converterBoard.IsDescribable := by
    refine ⟨by decide, nofun, nofun, ?_, ?_⟩
    · rintro _ ⟨⟩
      exact ⟨by decide, by decide, by decide⟩
    · rintro _ (_ | ⟨_, ⟨⟩⟩)
      exact isDescribable_converter
  exact ⟨describable, by decide +kernel, by decide +kernel,
    Device.read_element describable decimalSizes "device"⟩

end RegisterMap
