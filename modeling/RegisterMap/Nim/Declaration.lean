import RegisterMap.Device.Placeholder
import RegisterMap.Nim.Ident
import RegisterMap.Numeral.Printer
import RegisterMap.Text.Lines

/-!
# Nim declarations

The declarations that a generated module consists of, as data and as source text.

## Main definitions

* `TypeExpr` : the type of an object's field.
* `ObjectType`, `EnumType`, `Routine` : declarations of an object type, an enumeration and a
  routine.
* `ObjectType.text`, `EnumType.text`, `Routine.text` : their source text.
-/

namespace RegisterMap.Nim

/-- One step of indentation. -/
def indentStep : String := "  "

/-- Indentation of a depth. -/
def indentation (depth : Nat) : String := String.join (List.replicate depth indentStep)

/-- The mark of a declaration that other modules see. -/
def exportMark (isPublic : Bool) : String := if isPublic then "*" else ""

/-- The type of an object's field: a type by its name, an array of such, a truth value, or the
numbers from zero to a maximum. -/
inductive TypeExpr where
  | named (name : String)
  | array (length : Nat) (element : String)
  | bool
  | upTo (maximum : Nat)
  deriving DecidableEq, Repr

/-- Source text of a type. -/
def TypeExpr.text : TypeExpr → String
  | named name => name
  | array length element => "array[" ++ Numeral.decimal length ++ ", " ++ element ++ "]"
  | bool => "bool"
  | upTo maximum => "0'u .. " ++ Numeral.decimal maximum ++ "'u"

/-- A field of an object type, of as many bits as it says. -/
structure ObjectField where
  name : String
  type : TypeExpr
  isPublic : Bool := true
  bitSize : Option Int := none
  deriving DecidableEq, Repr

/-- An object type. -/
structure ObjectType where
  name : String
  fields : List ObjectField := []
  isPublic : Bool := false
  deriving DecidableEq, Repr

/-- An enumeration whose members have given numbers. -/
structure EnumType where
  name : String
  members : List (String × Int) := []
  isPublic : Bool := true
  deriving DecidableEq, Repr

/-- A routine: a procedure, a template, or another kind that its keyword says. -/
structure Routine where
  keyword : String
  name : String
  parameters : List (String × String)
  body : String
  returnType : Option String := none
  isPublic : Bool := true
  deriving DecidableEq, Repr

/-- Identifier that a field is declared under. -/
def ObjectField.ident (f : ObjectField) : String := Ident.ofText (baseName f.name)

/-- Source line of a field. -/
def ObjectField.line (f : ObjectField) : String :=
  let bits := match f.bitSize with
    | some n => " \x7b.bitsize:" ++ Numeral.decimal n ++ ".\x7d"
    | none => ""
  indentStep ++ f.ident ++ exportMark f.isPublic ++ bits ++ ": " ++ f.type.text ++ "\n"

/-- Identifier that an object type is declared under. -/
def ObjectType.ident (t : ObjectType) : String := Ident.ofText t.name

/-- Source text of an object type. -/
def ObjectType.text (t : ObjectType) : String :=
  "type " ++ t.ident ++ exportMark t.isPublic ++ " = object\n" ++
    String.join (t.fields.map ObjectField.line)

/-- Source text of an enumeration, with an empty line after it. -/
def EnumType.text (e : EnumType) : String :=
  "type " ++ e.name ++ exportMark e.isPublic ++ " \x7b.pure.\x7d = enum\n" ++
    String.join (e.members.map fun (name, value) =>
      indentStep ++ name ++ " = " ++ Numeral.hex value ++ ",\n") ++ "\n"

/-- Source text of a routine, with an empty line after it. -/
def Routine.text (r : Routine) : String :=
  let parameters := ", ".intercalate (r.parameters.map fun (name, type) => name ++ ": " ++ type)
  let result := match r.returnType with
    | some type => ": " ++ type
    | none => ""
  r.keyword ++ " " ++ r.name ++ exportMark r.isPublic ++ "(" ++ parameters ++ ")" ++ result ++
    " =\n" ++ String.join ((Text.lines r.body).map fun l => indentStep ++ l ++ "\n") ++ "\n"

end RegisterMap.Nim
