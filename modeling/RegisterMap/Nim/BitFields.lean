import RegisterMap.Device.Members
import RegisterMap.Fault
import RegisterMap.Nim.Declaration
import RegisterMap.Nim.TypeNames

/-!
# Bit fields

A register with bit fields gets an object type with one field per bit field. Bits that no field
covers are covered by private fillers, so that every field lies where the register has it. Values
of a field that have names become an enumeration.

## Main definitions

* `Register.hasFields` : the register is divided into fields.
* `pack` : fields in bit order, with fillers between them.
* `fieldStruct` : the object type of a register's fields.
* `fieldEnums` : the enumerations of a register's fields.

## Main results

* `fillGaps_nil` : after the last field the rest of the register is filled.
-/

namespace RegisterMap

/-- The register is divided into fields. A single field that covers the whole register divides
nothing. -/
def Register.hasFields (r : Register) : Bool :=
  match r.fields with
  | [] => false
  | [f] => f.width != r.size
  | _ => true

namespace Nim

/-- A range of bits in an object type: a field, or a filler for bits that no field covers. -/
structure PackedField where
  name : String
  lsb : Int
  msb : Int
  isFiller : Bool := false
  deriving DecidableEq, Repr

/-- Number of bits of the range. -/
def PackedField.width (f : PackedField) : Int := bitWidth f.lsb f.msb

/-- Name of a filler, with a number after the first. -/
def fillerName : Nat → String
  | 0 => "RESERVED"
  | n + 1 => "RESERVED" ++ Numeral.decimal (n + 1 : Nat)

/-- Names for fillers that are not taken by fields. -/
def fillerNames (taken : List String) (count : Nat) : List String :=
  ((List.range (taken.length + count)).map fillerName).filter fun name => !taken.contains name

/-- Fields in bit order from the bit `next` on, with a filler in front of each gap and at the end.
Each filler takes the next name. -/
def fillGaps (size : Int) : (names : List String) → (next : Int) → List BitField → List PackedField
  | names, next, [] =>
    if next < size then [⟨names.headD "", next, size - 1, true⟩] else []
  | names, next, f :: fs =>
    if next < f.lsb then
      ⟨names.headD "", next, f.lsb - 1, true⟩ :: ⟨f.name, f.lsb, f.msb, false⟩ ::
        fillGaps size names.tail (f.msb + 1) fs
    else ⟨f.name, f.lsb, f.msb, false⟩ :: fillGaps size names (f.msb + 1) fs

theorem fillGaps_nil (size : Int) (names : List String) (next : Int) :
    fillGaps size names next [] =
      if next < size then [⟨names.headD "", next, size - 1, true⟩] else [] := rfl

/-- The fields of a register of the given size in bit order, with fillers for all other bits. -/
def pack (fields : List BitField) (size : Int) : List PackedField :=
  fillGaps size (fillerNames (fields.map (·.name)) (fields.length + 1)) 0
    (fields.mergeSort fun f g => f.lsb ≤ g.lsb)

/-- The largest number of as many bits; fewer than no bits hold nothing. -/
def maximum (width : Int) : Except Fault Nat :=
  if width < 0 then .error .negativeWidth else .ok ((1 <<< width.toNat) - 1)

/-- Type of a value of as many bits. -/
def valueType (width : Int) : Except Fault TypeExpr :=
  if width = 1 then .ok .bool else (maximum width).map .upTo

/-- Field of an object type for a range of bits. -/
def PackedField.declaration (f : PackedField) : Except Fault ObjectField :=
  (valueType f.width).map fun type =>
    { name := f.name, type, isPublic := !f.isFiller, bitSize := some f.width }

/-- The object type of a register's fields, the register having the given type. -/
def fieldStruct (r : Register) (typeName : String) : Except Fault ObjectType := do
  let fields ← (pack r.fields r.size).mapM PackedField.declaration
  pure { name := TypeName.fields typeName, fields, isPublic := true }

/-- The enumeration of a field's named values, by ascending number. -/
def fieldEnum (typeName : String) (f : BitField) (values : EnumeratedValues) : EnumType :=
  let name := (nonemptyOr values.headerName none).getD (TypeName.append typeName f.name)
  { name := Ident.ofText name
    members := (values.values.map fun (name, value) => (Ident.ofText name, value)).mergeSort
      fun a b => a.2 ≤ b.2 }

/-- The enumerations of a register's fields, the register having the given type. -/
def fieldEnums (r : Register) (typeName : String) : List EnumType :=
  r.fields.filterMap fun f => f.enumeratedValues.map (fieldEnum typeName f)

/-- The object types for the fields of a peripheral's registers. -/
def fieldStructs (p : Peripheral) (names : TypeNames) : Except Fault (List ObjectType) :=
  (p.registersBelow.filter (·.2.hasFields)).mapM fun (path, r) => do
    let typeName ← names.lookup path
    fieldStruct r typeName

/-- The enumerations for the fields of a peripheral's registers. -/
def enumTypes (p : Peripheral) (names : TypeNames) : Except Fault (List EnumType) :=
  (p.registersBelow.mapM fun (path, r) => (names.lookup path).map (fieldEnums r)).map List.flatten

end Nim

end RegisterMap
