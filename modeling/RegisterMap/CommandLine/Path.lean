/-!
# Paths

A path is a root and the names of files and directories on the way. Empty names and the name `.`
mean nothing and are left out; the name `..` is kept, since what it leads to depends on the files.

## Main definitions

* `Path` : a path.
* `Path.ofText`, `Path.text` : a path's text.
* `Path.stem` : the last name without its last extension.
-/

namespace RegisterMap.CommandLine

/-- A path. The root is empty for a path that begins in the current directory. -/
structure Path where
  root : String := ""
  names : List String := []
  deriving DecidableEq, Repr

namespace Path

/-- Root of a path's text. Two slashes in front are a root of their own, more are one. -/
def rootOf (s : String) : String :=
  match (s.toList.takeWhile (· == '/')).length with
  | 0 => ""
  | 2 => "//"
  | _ => "/"

/-- The path that a text writes. -/
def ofText (s : String) : Path where
  root := rootOf s
  names := ((s.toList.splitOn '/').map String.ofList).filter fun n => n != "" && n != "."

/-- Text of a path. -/
def text (p : Path) : String :=
  if p.root = "" ∧ p.names = [] then "." else p.root ++ "/".intercalate p.names

/-- A name without its last extension. A dot that begins or ends the name begins no extension. -/
def stemOf (name : String) : String :=
  let extension := name.toList.reverse.takeWhile (· != '.')
  let rest := name.toList.reverse.dropWhile (· != '.')
  match rest with
  | '.' :: stem@(_ :: _) => if extension.isEmpty then name else String.ofList stem.reverse
  | _ => name

/-- The last name of a path without its last extension. -/
def stem (p : Path) : String := stemOf (p.names.getLast?.getD "")

end Path

end RegisterMap.CommandLine
