import RegisterMap.Device.Basic
import RegisterMap.Diagnostic.Logged
import RegisterMap.Device.Repetition
import RegisterMap.Numeral.Reader
import RegisterMap.Text.LetterCase
import RegisterMap.Xml.Encoding

/-!
# Reading a device description

A device description is a tree of elements. What an element says about a node stands in the text of
its children, under fixed tags; a reference to another node stands in an attribute. A node must
have a name and a field a range of bits; for the rest there are defaults.

## Main definitions

* `childText?` : the text of a child.
* `readAccess`, `readFlag`, `readDescription` : values of other kinds than numbers.
* `readBitRange` : the range of bits of a field, in any of three notations.
* `readRegister`, `readCluster`, `readPeripheral` : the nodes.
* `Device.read` : the device that an element describes.
* `Device.ofText`, `Device.ofFile` : the device that a document describes.

## Main results

* `readName_eq_ok` : a name is the stripped text of the child that holds it.
* `readClusters_eq_mapM` : of some elements the clusters are read.
-/

namespace RegisterMap

open Xml (Element)

/-! ### Texts and values -/

/-- The text of the first child of a tag, without the blanks around it, if the child has text. -/
def childText? (e : Element) (tag : String) : Option String :=
  (e.child? tag).bind fun child => if child.text = "" then none else some (Text.strip child.text)

/-- The integer in a child, if it has one that can be read. -/
def childInteger? (e : Element) (tag : String) : Option Int :=
  (childText? e tag).bind Numeral.integer?

/-- A truth value: `true` in any case, or one, is true and all else false. -/
def readFlag (text : Option String) : Bool :=
  text.any fun s => ["true", "1"].contains (Text.lower (Text.strip s))

/-- The words of a description; an empty text is none. -/
def readDescription (text : Option String) : Option String :=
  (text.filter (· ≠ "")).map Text.normalizeSpace

/-- The description in a child. -/
def childDescription? (e : Element) : Option String := readDescription (childText? e "description")

/-- An access; an unknown spelling is reported and says nothing. -/
def readAccess (text : Option String) : Logged (Option Access) :=
  match text with
  | none => pure none
  | some s =>
    match Access.ofText? s with
    | some a => pure (some a)
    | none => do
      Logged.report .warning Source.reader
        ("Unknown access type " ++ Text.quoted s ++ ", using default")
      pure none

/-- The name of a node, which it must have; `owner` names the node in a fault. -/
def readName (e : Element) (owner : String) : Except Fault String :=
  match childText? e "name" with
  | some name => .ok name
  | none => .error (.missingElement owner "name")

theorem readName_eq_ok {e : Element} {owner name : String} :
    readName e owner = .ok name ↔ childText? e "name" = some name := by
  unfold readName
  cases childText? e "name" <;> simp

/-- The properties that a node gives. -/
def readProperties (e : Element) : Logged Properties := do
  let access ← readAccess (childText? e "access")
  pure ⟨childInteger? e "size", access⟩

/-- The repetition of a node, if it gives any part of one. -/
def readRepetition (e : Element) : Option Repetition :=
  let tags := ["dim", "dimIncrement", "dimIndex", "dimName"]
  if tags.all fun tag => (childText? e tag).isNone then none
  else some {
    count := childInteger? e "dim"
    increment := childInteger? e "dimIncrement"
    index := childText? e "dimIndex"
    name := childText? e "dimName" }

/-! ### Fields -/

/-- The two numbers of a range of bits, `[msb:lsb]`, least bit first. -/
def bitRange? (text : String) : Option (Int × Int) :=
  match text.toList with
  | '[' :: cs =>
    match cs.reverse with
    | ']' :: cs =>
      (splitPair? ':' (String.ofList cs.reverse)).bind fun (a, b) => do
        let msb ← decimalNumber? a
        let lsb ← decimalNumber? b
        pure ((lsb : Int), (msb : Int))
    | _ => none
  | _ => none

/-- The range of bits of a field: an offset and a width, or a range in brackets, or both ends.
Without a width, or with a width of zero, a field is one bit wide. -/
def readBitRange (e : Element) (owner : String) : Except Fault (Int × Int) :=
  match childInteger? e "bitOffset" with
  | some offset =>
    let width := ((childInteger? e "bitWidth").filter (· ≠ 0)).getD 1
    .ok (offset, offset + width - 1)
  | none =>
    match childText? e "bitRange" with
    | some text =>
      match bitRange? text with
      | some range => .ok range
      | none => .error (.malformedBitRange owner text)
    | none =>
      match childInteger? e "lsb", childInteger? e "msb" with
      | some lsb, some msb => .ok (lsb, msb)
      | _, _ => .error (.noBitRange owner)

/-- A named value of a field, if it has both a name and a number. A value that is no number is
reported. -/
def readEnumeratedValue (owner : String) (e : Element) : Logged (Option (String × Int)) :=
  match childText? e "name", childText? e "value" with
  | some name, some raw =>
    match Numeral.integer? raw with
    | some value => pure (some (name, value))
    | none => do
      Logged.report .debug Source.reader
        (owner ++ ": skipping enumerated value " ++ name ++ "=" ++ Text.quoted raw)
      pure none
  | _, _ => pure none

/-- The named values of a field. -/
def readEnumeratedValues (owner : String) (e : Element) : Logged EnumeratedValues := do
  let values ← (e.childrenNamed "enumeratedValue").mapM (readEnumeratedValue owner)
  pure {
    values := values.filterMap id
    name := childText? e "name"
    headerName := childText? e "headerEnumName"
    derivedFrom := e.attribute? "derivedFrom" }

/-- A field of a register. Of several sets of named values only the first counts. -/
def readField (register : String) (e : Element) : Logged BitField := do
  let name ← readName e ("field of register " ++ register)
  let owner := "field " ++ register ++ "." ++ name
  let (lsb, msb) ← readBitRange e owner
  let enumeratedValues ← (e.child? "enumeratedValues").mapM (readEnumeratedValues owner)
  pure {
    name, lsb, msb, enumeratedValues
    description := childDescription? e
    repetition := readRepetition e
    derivedFrom := e.attribute? "derivedFrom" }

/-! ### Registers and clusters -/

/-- A register. -/
def readRegister (e : Element) : Logged Register := do
  let name ← readName e "register"
  let fields ← match e.child? "fields" with
    | some fields => (fields.childrenNamed "field").mapM (readField name)
    | none => pure []
  let properties ← readProperties e
  pure {
    name, fields, properties
    offset := (childInteger? e "addressOffset").getD 0
    repetition := readRepetition e
    description := childDescription? e
    resetValue := childInteger? e "resetValue"
    derivedFrom := e.attribute? "derivedFrom" }

/-- The registers among the children of an element. -/
def readRegisters (e : Element) : Logged (List Register) :=
  (e.childrenNamed "register").mapM readRegister

mutual

/-- A cluster. Its members are children of its element. -/
def readCluster : Element → Logged Cluster
  | e@{ children, .. } => do
    let name ← readName e "cluster"
    let registers ← readRegisters e
    let clusters ← readClusters children
    let properties ← readProperties e
    pure {
      name, registers, clusters, properties
      offset := (childInteger? e "addressOffset").getD 0
      headerStructName := childText? e "headerStructName"
      repetition := readRepetition e
      description := childDescription? e
      derivedFrom := e.attribute? "derivedFrom" }

/-- The clusters among some elements. -/
def readClusters : List Element → Logged (List Cluster)
  | [] => pure []
  | e :: es =>
    if e.tag == "cluster" then do
      let first ← readCluster e
      let rest ← readClusters es
      pure (first :: rest)
    else readClusters es

end

theorem readCluster_eq (e : Element) : readCluster e = (do
    let name ← readName e "cluster"
    let registers ← readRegisters e
    let clusters ← readClusters e.children
    let properties ← readProperties e
    pure {
      name, registers, clusters, properties
      offset := (childInteger? e "addressOffset").getD 0
      headerStructName := childText? e "headerStructName"
      repetition := readRepetition e
      description := childDescription? e
      derivedFrom := e.attribute? "derivedFrom" }) := by
  cases e
  rw [readCluster]

/-- Of some elements the clusters are read. -/
theorem readClusters_eq_mapM (es : List Element) :
    readClusters es = (es.filter fun e => e.tag == "cluster").mapM readCluster := by
  induction es with
  | nil => rfl
  | cons e es ih =>
    rw [readClusters, List.filter_cons]
    split
    · rw [List.mapM_cons, ih]
    · exact ih

/-! ### Peripherals -/

/-- An interrupt of a peripheral, which must have a number. -/
def readInterrupt (peripheral : String) (e : Element) : Except Fault Interrupt := do
  let name ← readName e ("interrupt of peripheral " ++ peripheral)
  match childInteger? e "value" with
  | some value => pure { name, value, description := childDescription? e }
  | none => throw (.interruptWithoutValue name peripheral)

/-- A peripheral. Its members are children of an element of their own. -/
def readPeripheral (e : Element) : Logged Peripheral := do
  let name ← readName e "peripheral"
  let members := (e.child? "registers").getD { tag := "registers" }
  let registers ← readRegisters members
  let clusters ← readClusters members.children
  let interrupts ← Logged.ofExcept ((e.childrenNamed "interrupt").mapM (readInterrupt name))
  let properties ← readProperties e
  pure {
    name, registers, clusters, interrupts, properties
    baseAddress := (childInteger? e "baseAddress").getD 0
    headerStructName := childText? e "headerStructName"
    prependToName := childText? e "prependToName"
    appendToName := childText? e "appendToName"
    repetition := readRepetition e
    description := childDescription? e
    groupName := childText? e "groupName"
    size := (e.child? "addressBlock").bind fun block => childInteger? block "size"
    derivedFrom := e.attribute? "derivedFrom" }

/-! ### Devices -/

/-- The processor core. -/
def readCpu (e : Element) : Cpu where
  name := (childText? e "name").getD ""
  revision := (childText? e "revision").getD ""
  endian := ((childText? e "endian").filter (· ≠ "")).getD "little"
  mpuPresent := readFlag (childText? e "mpuPresent")
  fpuPresent := readFlag (childText? e "fpuPresent")
  vtorPresent := readFlag (childText? e "vtorPresent")
  nvicPriorityBits := (childInteger? e "nvicPrioBits").getD 0
  vendorSysTickConfig := readFlag (childText? e "vendorSystickConfig")

/-- The peripherals of a device; that there is no place for them is reported. -/
def readPeripherals (device : String) (e : Element) : Logged (List Peripheral) :=
  match e.child? "peripherals" with
  | some peripherals => (peripherals.childrenNamed "peripheral").mapM readPeripheral
  | none => do
    Logged.report .warning Source.reader ("No <peripherals> found in SVD device " ++ device)
    pure []

/-- The device that an element describes; one without a name gets the given one. -/
def Device.read (defaultName : String) (e : Element) : Logged Device :=
  if e.tag ≠ "device" then Logged.fail (.unexpectedRoot e.tag)
  else do
    let name := ((childText? e "name").filter (· ≠ "")).getD defaultName
    let peripherals ← readPeripherals name e
    let properties ← readProperties e
    pure {
      name, peripherals, properties
      cpu := (e.child? "cpu").map readCpu
      vendor := childText? e "vendor"
      description := childDescription? e }

/-! ### Documents -/

/-- The device that a text describes. -/
def Device.ofText (text : String) : Logged Device :=
  match Xml.parse? text.toList with
  | some root => Device.read "device" root
  | none => Logged.fail .illFormed

/-- The device that the bytes of a file describe. One without a name gets the given one, and a fault
of the document names the file's path. -/
def Device.ofFile (path defaultName : String) (bytes : List UInt8) : Logged Device :=
  match Xml.parseBytes? bytes with
  | none => Logged.fail (.illFormedFile path)
  | some root => do
    let d ← Device.read defaultName root
    Logged.report .info Source.reader
      ("Loaded SVD device=" ++ d.name ++ " peripherals=" ++ Numeral.decimal d.peripherals.length)
    pure d

end RegisterMap
