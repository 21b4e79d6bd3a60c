import RegisterMap.Nim.BitFields

/-!
# Accessors

Templates that read, write and modify registers. Which of them a register has follows from its
access.

## Main definitions

* `Operation` : what an accessor does.
* `Operation.key` : the name under which an accessor of a register type is known.
* `accessor` : the template of an operation on a register.
* `accessors` : the templates of a register.

## Main results

* `mem_accessors_iff` : a register has exactly the accessors that its access allows.
-/

namespace RegisterMap.Nim

/-- What an accessor does with a register. -/
inductive Operation where
  | read
  | write
  | modify
  deriving DecidableEq, Repr

namespace Operation

/-- All operations, in the order in which accessors are declared. -/
def all : List Operation := [read, write, modify]

/-- Name of the template. -/
def name : Operation → String
  | read => "read"
  | write => "write"
  | modify => "modifyIt"

/-- The access allows the operation; to modify a register it is read and written. -/
def isAllowed : Operation → Access → Bool
  | read, a => a.isReadable
  | write, a => a.isWritable
  | modify, a => a.isReadable && a.isWritable

/-- Name under which the operation on a register type is known. -/
def key (o : Operation) (typeName : String) : String := o.name ++ "[" ++ typeName ++ "]"

end Operation

/-- Integer type of as many bits as a register has. -/
def intType (r : Register) : String := "uint" ++ Numeral.decimal r.size

/-- Type of a register's value: the object of its fields if it has any, else an integer. -/
def registerValueType (r : Register) (typeName : String) : String :=
  if r.hasFields then TypeName.fields typeName else intType r

/-- Body of the template that modifies a register. -/
def modifyBody : String :=
  "## Read-modify-write of the register. Not atomic: concurrent users of the\n" ++
  "## same register (threads, interrupt handlers) must synchronize themselves.\n" ++
  "block:\n" ++
  "  var it \x7b.inject.\x7d = reg.read()\n" ++
  "  op\n" ++
  "  reg.write(it)"

/-- The template of an operation on a register of the given type. -/
def accessor (r : Register) (typeName : String) (o : Operation) : Routine :=
  let pointer := "cast[ptr " ++ intType r ++ "](reg.loc)"
  let valueType := registerValueType r typeName
  match o with
  | .read =>
    let load := "volatileLoad(" ++ pointer ++ ")"
    { keyword := "template"
      name := o.name
      parameters := [("reg", typeName)]
      body := if r.hasFields then "cast[" ++ valueType ++ "](" ++ load ++ ")" else load
      returnType := some valueType }
  | .write =>
    let value := if r.hasFields then "cast[" ++ intType r ++ "](val)" else "val"
    { keyword := "template"
      name := o.name
      parameters := [("reg", typeName), ("val", valueType)]
      body := "volatileStore(" ++ pointer ++ ", " ++ value ++ ")" }
  | .modify =>
    { keyword := "template"
      name := o.name
      parameters := [("reg", typeName), ("op", "untyped")]
      body := modifyBody
      returnType := some "untyped" }

/-- The templates of a register of the given type, each with the name under which it is known. -/
def accessors (r : Register) (typeName : String) : List (String × Routine) :=
  (Operation.all.filter (·.isAllowed r.access)).map fun o =>
    (o.key typeName, accessor r typeName o)

/-- A register has exactly the accessors that its access allows. -/
theorem mem_accessors_iff {r : Register} {typeName : String} {item : String × Routine} :
    item ∈ accessors r typeName ↔ ∃ o : Operation, o.isAllowed r.access = true ∧
      item = (o.key typeName, accessor r typeName o) := by
  have all : ∀ o : Operation, o ∈ Operation.all := by rintro (_ | _ | _) <;> decide
  simp only [accessors, List.mem_map, List.mem_filter]
  exact ⟨fun ⟨o, ⟨_, h⟩, e⟩ => ⟨o, h, e.symm⟩, fun ⟨o, h, e⟩ => ⟨o, ⟨all o, h⟩, e.symm⟩⟩

/-- The templates of a peripheral's registers. -/
def peripheralAccessors (p : Peripheral) (names : TypeNames) :
    Except Fault (List (String × Routine)) :=
  (p.registersBelow.mapM fun (path, r) => (names.lookup path).map (accessors r)).map List.flatten

end RegisterMap.Nim
