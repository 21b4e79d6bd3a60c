import RegisterMap.Numeral.Printer
import RegisterMap.Text.Quoted

/-!
# Faults

Why a step of the generator has no result. Each cause is a constructor and its wording is
`Fault.message`.

## Main definitions

* `Fault` : the causes.
* `Fault.kind` : what the cause lies in.
* `Fault.message` : the wording.
-/

namespace RegisterMap

/-- A cause for which a step has no result. -/
inductive Fault where
  /-- the text is not a well-formed document -/
  | illFormed
  /-- the file at a path is not a well-formed document -/
  | illFormedFile (path : String)
  /-- the document's outermost element describes no device -/
  | unexpectedRoot (tag : String)
  /-- an element lacks a part that it must have -/
  | missingElement (owner tag : String)
  /-- a field's bit range is not of the form `[msb:lsb]` -/
  | malformedBitRange (field text : String)
  /-- a field gives its bit range in no notation -/
  | noBitRange (field : String)
  /-- an interrupt lacks its number -/
  | interruptWithoutValue (interrupt peripheral : String)
  /-- a repetition lacks its count or its stride -/
  | incompleteRepetition (owner : String)
  /-- a repetition has no instances -/
  | emptyRepetition (owner : String) (count : Int)
  /-- a repetition names more or fewer indices than it has instances -/
  | indexMismatch (owner index : String) (names : Nat) (count : Int)
  /-- a register is derived from a cluster -/
  | registerFromCluster (register base : String)
  /-- a cluster is derived from a register -/
  | clusterFromRegister (cluster base : String)
  /-- a reference leads nowhere -/
  | targetNotFound (reference : String)
  /-- a chain of references is longer than the limit -/
  | chainTooDeep (name : String)
  /-- clusters nest in copies of themselves without end -/
  | endlessNesting (container : String)
  /-- no peripheral has the name -/
  | peripheralNotFound (name : String)
  /-- two different definitions have one name -/
  | conflict (kind key : String)
  /-- a range of bits ends before it begins -/
  | negativeWidth
  /-- no type name is known for a node -/
  | unnamed (path : List String)
  /-- a file or the directory that would hold it does not exist -/
  | fileNotFound (path : String)
  /-- a directory stands where a file is needed -/
  | isDirectory (path : String)
  /-- a file stands where a path goes on -/
  | notDirectory (path : String)
  deriving DecidableEq, Repr

namespace Fault

/-- What a fault lies in. -/
inductive Kind where
  | document
  | model
  | conflict
  | arithmetic
  | lookup
  | recursion
  | missingFile
  | directory
  | notDirectory
  deriving DecidableEq, Repr

/-- What the fault lies in. -/
def kind : Fault → Kind
  | illFormed | illFormedFile _ | unexpectedRoot _ | missingElement _ _ | malformedBitRange _ _
  | noBitRange _ | interruptWithoutValue _ _ => .document
  | incompleteRepetition _ | emptyRepetition _ _ | indexMismatch _ _ _ _ | registerFromCluster _ _
  | clusterFromRegister _ _ | targetNotFound _ | chainTooDeep _ | peripheralNotFound _ => .model
  | conflict _ _ => .conflict
  | negativeWidth => .arithmetic
  | unnamed _ => .lookup
  | endlessNesting _ => .recursion
  | fileNotFound _ => .missingFile
  | isDirectory _ => .directory
  | notDirectory _ => .notDirectory

/-- The command line reports the fault and survives it: the document, the model or what is generated
from it is wrong. Nobody handles a fault of another kind. -/
def isReported (f : Fault) : Bool :=
  f.kind == .document || f.kind == .model || f.kind == .conflict

open Numeral (decimal)
open Text (quoted)

/-- Wording of two definitions that differ under one name. -/
def conflictMessage (kind key : String) : String :=
  s!"{kind} {key} is generated twice with different content, keeping the first"

/-- The wording of a fault. For a text that is not well-formed it is cut short: a colon and what the
parser says of the text would follow. A step that nests without end is stopped from outside, and the
wording here stands for whatever is said then. -/
def message : Fault → String
  | illFormed => "invalid SVD XML"
  | illFormedFile path => s!"invalid SVD XML in {path}"
  | unexpectedRoot tag => s!"expected <device> root element, got <{tag}>"
  | missingElement owner tag => s!"{owner} is missing <{tag}>"
  | malformedBitRange field text => field ++ " has malformed <bitRange> " ++ quoted text
  | noBitRange field => s!"{field} has no bit range"
  | interruptWithoutValue interrupt peripheral =>
    s!"interrupt {interrupt} of peripheral {peripheral} has no <value>"
  | incompleteRepetition owner =>
    s!"{owner} has an incomplete dim group (needs both <dim> and <dimIncrement>)"
  | emptyRepetition owner count => s!"{owner} has dim=" ++ decimal count ++ ", expected at least 1"
  | indexMismatch owner index names count =>
    s!"{owner}: dimIndex " ++ quoted index ++ " gives " ++ decimal names ++ " names for dim=" ++
      decimal count
  | registerFromCluster register base =>
    s!"register {register} is derived from non-register {base}"
  | clusterFromRegister cluster base => s!"cluster {cluster} is derived from non-cluster {base}"
  | targetNotFound reference => s!"derivedFrom target not found: {reference}"
  | chainTooDeep name => s!"derivedFrom chain too deep at {name}"
  | endlessNesting container => s!"clusters nest without end in {container}"
  | peripheralNotFound name => s!"peripheral not found: {name}"
  | conflict kind key => conflictMessage kind key
  | negativeWidth => "negative shift count"
  | unnamed path => "no type name for " ++ ".".intercalate path
  | fileNotFound path => s!"no such file or directory: {path}"
  | isDirectory path => s!"is a directory: {path}"
  | notDirectory path => s!"not a directory: {path}"

end Fault

end RegisterMap
