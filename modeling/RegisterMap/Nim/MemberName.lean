import RegisterMap.Device.Members
import RegisterMap.Nim.Ident

/-!
# Names of members

A peripheral may put a text before and after the names of all its registers, at every depth. Its
clusters keep their names. The user may leave such texts out.

## Main definitions

* `Options` : the choices that a user has about a generated module.
* `Decoration` : the texts before and after register names.
* `Decoration.ofPeripheral` : those of a peripheral, unless the options leave them out.
* `Decoration.memberName` : the identifier of a member.
-/

namespace RegisterMap.Nim

/-- The choices about a generated module: leave out what a peripheral puts before or after the
names of its registers, and fail where one name would get two different definitions. -/
structure Options where
  ignorePrepend : Bool := false
  ignoreAppend : Bool := false
  strict : Bool := false
  deriving DecidableEq, Repr

/-- The texts that stand before and after the names of a peripheral's registers. -/
structure Decoration where
  before : String := ""
  after : String := ""
  deriving DecidableEq, Repr

namespace Decoration

/-- The texts of a peripheral, unless the options leave them out. -/
def ofPeripheral (p : Peripheral) (options : Options) : Decoration where
  before := if options.ignorePrepend then "" else p.prependToName.getD ""
  after := if options.ignoreAppend then "" else p.appendToName.getD ""

/-- The identifier of a member in the type and the instance of the node that holds it. -/
def memberName (d : Decoration) : Member → String
  | .register r => Ident.ofText (d.before ++ baseName r.name ++ d.after)
  | .cluster c => Ident.ofText (baseName c.name)

end Decoration

end RegisterMap.Nim
