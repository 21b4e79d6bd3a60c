import RegisterMap.Nim.Ident
import RegisterMap.Numeral.Printer

/-!
# Registry of type names

The type of every node of a device ends in `_Type`. The types below it are named after it, the
ending replaced by an underscore and the name of the part. Type names are claimed by owners. An
owner gets the same name every time it asks; another owner that asks for a taken name gets the first
free one of its numbered variants.

## Main definitions

* `TypeName.stem` : a type's name without the ending.
* `TypeName.append` : the name of a part of a type.
* `TypeName.fields` : the name of the object that holds a register's bit fields.
* `Registry` : the names claimed so far with their owners.
* `variant` : the numbered variants of a name.
* `Registry.claim` : the name of an owner, claimed now if it has none.

## Main results

* `Registry.claim_of_nameOf?` : an owner keeps its name.
-/

namespace RegisterMap.Nim

/-! ### Names of types -/

namespace TypeName

/-- The ending of type names. -/
def ending : String := "_Type"

/-- Type name without the ending, if it has it. -/
def stem (typeName : String) : String :=
  if ending.toList.isSuffixOf typeName.toList then
    String.ofList (typeName.toList.take (typeName.length - ending.length))
  else typeName

/-- Name of the part of a type: `UART_Type` and `CR` make `UART_CR`. -/
def append (parent name : String) : String := stem parent ++ "_" ++ name

/-- Name of the object that holds the bit fields of a register of the given type. -/
def fields (registerType : String) : String := append registerType "Fields"

theorem stem_append_ending (s : String) : stem (s ++ ending) = s := by
  have suffix : ending.toList.isSuffixOf (s ++ ending).toList = true := by
    rw [List.isSuffixOf_iff_suffix, String.toList_append]
    exact List.suffix_append _ _
  rw [stem, if_pos suffix, String.toList_append, String.length_append, Nat.add_sub_cancel,
    ← String.length_toList, List.take_left, String.ofList_toList]

end TypeName

/-! ### Claims -/

/-- The names claimed so far, the last claim first. -/
structure Registry (κ : Type) where
  claims : List (κ × String) := []

/-- The type name of a stem, with a number after the first. -/
def variant (stem : String) : Nat → String
  | 0 => stem ++ TypeName.ending
  | n + 1 => stem ++ "_" ++ Numeral.decimal (n + 1 : Nat) ++ TypeName.ending

namespace Registry

variable {κ : Type} [BEq κ]

/-- The name of an owner, if it has one. -/
def nameOf? (reg : Registry κ) (owner : κ) : Option String := reg.claims.lookup owner

/-- Some owner has the name. -/
def isTaken (reg : Registry κ) (name : String) : Bool := reg.claims.any fun c => c.2 == name

/-- The number of the first variant of a stem that nobody has. One of the variants up to the number
of claims is free. -/
def firstFree (reg : Registry κ) (stem : String) : Nat :=
  ((List.range (reg.claims.length + 1)).find? fun n => !reg.isTaken (variant stem n)).getD 0

/-- The name of an owner, and the registry in which it has that name. A new owner gets the first
free variant of the identifier made from the base that it asks for. -/
def claim (reg : Registry κ) (base : String) (owner : κ) : String × Registry κ :=
  match reg.nameOf? owner with
  | some name => (name, reg)
  | none =>
    let stem := Ident.ofText base
    let name := variant stem (reg.firstFree stem)
    (name, ⟨(owner, name) :: reg.claims⟩)

/-- An owner keeps its name. -/
theorem claim_of_nameOf? {reg : Registry κ} {owner : κ} {name : String}
    (h : reg.nameOf? owner = some name) (base : String) : reg.claim base owner = (name, reg) := by
  rw [claim, h]

/-- The names of owners that ask one after the other. -/
def claimAll (reg : Registry κ) : List (String × κ) → List String
  | [] => []
  | (base, owner) :: rest =>
    let (name, reg) := reg.claim base owner
    name :: reg.claimAll rest

end Registry

end RegisterMap.Nim
