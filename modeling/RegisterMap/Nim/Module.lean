import RegisterMap.Device.Validation
import RegisterMap.Nim.Accessors
import RegisterMap.Nim.FirstWins
import RegisterMap.Nim.Instance
import RegisterMap.Nim.Interrupts
import RegisterMap.Nim.NodeType
import RegisterMap.Nim.Preamble

/-!
# Generated modules

The module of a device declares, in this order, interrupt numbers, the types of all nodes, the
instances of all peripherals, and for each peripheral the types of bit fields, the enumerations and
the accessors. Whatever has one name is declared once.

## Main definitions

* `Declaration` : what follows the instances.
* `Module` : the parts of a module.
* `Module.ofDevice` : the module of a device.
* `Module.text` : source text of a module.
-/

namespace RegisterMap.Nim

/-- A declaration after the instances: the type of a register's bit fields, an enumeration, or an
accessor. -/
inductive Declaration where
  | object (t : ObjectType)
  | enumeration (e : EnumType)
  | routine (r : Routine)
  deriving DecidableEq, Repr

/-- Source text of a declaration, with an empty line after it. -/
def Declaration.text : Declaration → String
  | object t => t.text ++ "\n"
  | enumeration e => e.text
  | routine r => r.text

/-- The parts of a module. -/
structure Module where
  deviceName : String
  cpu : Option Cpu
  interrupts : List Interrupt
  types : List ObjectType
  instances : List Instance
  declarations : List Declaration

/-- The types of all nodes of a device, each name once, a type after those that it is made of. -/
def deviceTypes (names : TypeNames) (options : Options) (d : Device) :
    Logged (FirstWins ObjectType) :=
  d.peripherals.foldlM
    (fun table p => do
      let types ← nodeTypes names options p
      let (_, table) ← table.defineAll (types.map fun t => (t.name, t))
      pure table)
    ⟨"type", options.strict, []⟩

/-- The declarations that a module has after its instances, by name. -/
structure Tables where
  structs : FirstWins ObjectType
  enums : FirstWins EnumType
  accessors : FirstWins Routine

/-- No declarations yet. -/
def Tables.empty (options : Options) : Tables :=
  ⟨⟨"field struct", options.strict, []⟩, ⟨"enum", options.strict, []⟩,
    ⟨"accessor", options.strict, []⟩⟩

/-- Enters the declarations of a peripheral and returns those that are the first of their names. -/
def Tables.define (t : Tables) (names : TypeNames) (p : Peripheral) :
    Logged (List Declaration × Tables) := do
  let structs ← fieldStructs p names
  let (newStructs, structTable) ← t.structs.defineAll (structs.map fun s => (s.name, s))
  let enums ← enumTypes p names
  let (newEnums, enumTable) ← t.enums.defineAll (enums.map fun e => (e.name, e))
  let routines ← peripheralAccessors p names
  let (newRoutines, accessorTable) ← t.accessors.defineAll routines
  pure (newStructs.map .object ++ newEnums.map .enumeration ++ newRoutines.map .routine,
    ⟨structTable, enumTable, accessorTable⟩)

/-- Enters the declarations of peripherals in order and returns those that are the first of their
names. -/
def Tables.defineAll (t : Tables) (names : TypeNames) :
    List Peripheral → Logged (List Declaration × Tables)
  | [] => pure ([], t)
  | p :: ps => do
    let (first, t) ← t.define names p
    let (rest, t) ← t.defineAll names ps
    pure (first ++ rest, t)

/-- The module of a device. -/
def Module.ofDevice (options : Options) (d : Device) : Logged Module := do
  Logged.ofExcept d.validate
  let names := TypeNames.ofDevice d
  let types ← deviceTypes names options d
  let instances ← Logged.ofExcept (d.peripherals.mapM (Instance.ofPeripheral names options))
  let (declarations, tables) ← (Tables.empty options).defineAll names d.peripherals
  Logged.report .info Source.generator
    ("Generated " ++ Numeral.decimal types.size ++ " types, " ++
      Numeral.decimal tables.structs.size ++ " field structs, " ++
      Numeral.decimal tables.enums.size ++ " enums, " ++
      Numeral.decimal tables.accessors.size ++ " accessors")
  pure {
    deviceName := d.name
    cpu := d.cpu
    interrupts := d.interrupts
    types := types.definitions
    instances
    declarations }

/-- Source text of a module. -/
def Module.text (m : Module) : String :=
  preambleText m.deviceName m.cpu ++
  exceptionsText m.cpu ++
  interruptsText m.interrupts ++
  banner "# Type definitions for peripheral registers" ++
  String.join (m.types.map fun t => t.text ++ "\n") ++
  banner "# Peripheral object instances" ++
  String.join (m.instances.map Instance.text) ++
  banner "# Accessors for peripheral registers" ++
  String.join (m.declarations.map Declaration.text)

/-- Source text of the module of a device. -/
def generate (options : Options) (d : Device) : Logged String := do
  let m ← Module.ofDevice options d
  pure m.text

end RegisterMap.Nim
