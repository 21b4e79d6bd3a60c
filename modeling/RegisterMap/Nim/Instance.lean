import RegisterMap.Device.Repetition
import RegisterMap.Nim.Declaration
import RegisterMap.Nim.MemberName
import RegisterMap.Nim.TypeNames

/-!
# Instances of peripherals

A peripheral's instance is a constant with the absolute address of every register in it.

## Main definitions

* `Value` : a register at its address, an object with its members, or an array.
* `Value.text` : source text of a value.
* `nodeValue` : the value of a node in a node at a given address.
* `Instance.ofPeripheral` : the constant of a peripheral.

## Main results

* `memberValues_cons` : the values of members are computed one after the other.
-/

namespace RegisterMap.Nim

/-- A value: a register at its address, an object of a type with its members, or an array. -/
inductive Value where
  | register (typeName : String) (address : Int)
  | object (typeName : String) (members : List (String × Value))
  | array (elements : List Value)
  deriving Repr

namespace Value

mutual

/-- Source text of a value in a line of the given indentation. -/
def text (depth : Nat) : Value → String
  | register typeName address => typeName ++ "(loc: " ++ Numeral.hex address ++ ")"
  | object typeName members =>
    typeName ++ "(\n" ++ membersText (depth + 1) members ++ indentation depth ++ ")"
  | array elements => "[\n" ++ elementsText (depth + 1) elements ++ indentation depth ++ "]"

/-- Source lines of the members of an object. -/
def membersText (depth : Nat) : List (String × Value) → String
  | [] => ""
  | (name, value) :: members =>
    indentation depth ++ name ++ ": " ++ value.text depth ++ ",\n" ++ membersText depth members

/-- Source lines of the elements of an array. -/
def elementsText (depth : Nat) : List Value → String
  | [] => ""
  | value :: elements =>
    indentation depth ++ value.text depth ++ ",\n" ++ elementsText depth elements

end

mutual

/-- The addresses of the registers in a value, in the order of its text. -/
def addresses : Value → List Int
  | register _ address => [address]
  | object _ members => memberAddresses members
  | array elements => elementAddresses elements

/-- The addresses of the registers in the members of an object. -/
def memberAddresses : List (String × Value) → List Int
  | [] => []
  | (_, value) :: members => value.addresses ++ memberAddresses members

/-- The addresses of the registers in the elements of an array. -/
def elementAddresses : List Value → List Int
  | [] => []
  | value :: elements => value.addresses ++ elementAddresses elements

end

end Value

/-! ### Values of nodes -/

/-- Value of a register in a node at the given address. -/
def registerValue (names : TypeNames) (path : NodePath) (base : Int) (r : Register) :
    Except Fault Value := do
  let typeName ← names.lookup path
  if isRepeated r.repetition then
    let l ← layout ("register " ++ r.name) r.repetition
    pure (.array (l.offsets.map fun distance => .register typeName (base + r.offset + distance)))
  else pure (.register typeName (base + r.offset))

mutual

/-- Value of a node that has the given path in a node at the given address. -/
def nodeValue (names : TypeNames) (decoration : Decoration) (path : NodePath) (base : Int) :
    Node → Except Fault Value
  | .register r => registerValue names path base r
  | .cluster c members => do
    let typeName ← names.lookup path
    if isRepeated c.repetition then
      let l ← layout ("cluster " ++ c.name) c.repetition
      let objects ← l.offsets.mapM fun distance => do
        let ms ← memberValues names decoration path (base + c.offset + distance) members
        pure (Value.object typeName ms)
      pure (.array objects)
    else
      let ms ← memberValues names decoration path (base + c.offset) members
      pure (.object typeName ms)

/-- Values of the members of a node that has the given path and address, with their names. -/
def memberValues (names : TypeNames) (decoration : Decoration) (path : NodePath) (base : Int) :
    List Node → Except Fault (List (String × Value))
  | [] => pure []
  | n :: ns => do
    let value ← nodeValue names decoration (path ++ [n.member.name]) base n
    let rest ← memberValues names decoration path base ns
    pure ((decoration.memberName n.member, value) :: rest)

end

theorem memberValues_cons (names : TypeNames) (decoration : Decoration) (path : NodePath)
    (base : Int) (n : Node) (ns : List Node) :
    memberValues names decoration path base (n :: ns) =
      (nodeValue names decoration (path ++ [n.member.name]) base n >>= fun value =>
        memberValues names decoration path base ns >>= fun rest =>
          pure ((decoration.memberName n.member, value) :: rest)) := rfl

/-! ### Constants -/

/-- The constant that holds a peripheral. -/
structure Instance where
  name : String
  value : Value
  deriving Repr

/-- Source text of a constant, with an empty line after it. -/
def Instance.text (i : Instance) : String :=
  "const " ++ i.name ++ "* = " ++ i.value.text 0 ++ "\n\n"

/-- The constant of a peripheral. -/
def Instance.ofPeripheral (names : TypeNames) (options : Options) (p : Peripheral) :
    Except Fault Instance := do
  let decoration := Decoration.ofPeripheral p options
  let typeName ← names.lookup [p.name]
  let object := fun (base : Int) => do
    let ms ← memberValues names decoration [p.name] base p.contents.nodes
    pure (Value.object typeName ms)
  let value ←
    if isRepeated p.repetition then
      let l ← layout ("peripheral " ++ p.name) p.repetition
      let objects ← l.offsets.mapM fun distance => object (p.baseAddress + distance)
      pure (Value.array objects)
    else object p.baseAddress
  pure ⟨Ident.ofText (baseName p.name), value⟩

end RegisterMap.Nim
