import RegisterMap.Xml.Element
import RegisterMap.Xml.Namespace

/-!
# The tree of a document

Tokens become a tree: a closing tag ends the innermost open element. Outside the outermost element
there is nothing but white space.

## Main definitions

* `OpenElement` : an element whose closing tag is still to come.
* `Progress` : how far a document has been read.
* `Progress.step` : reading one more token.
* `tree?` : the outermost element of a row of tokens.
-/

namespace RegisterMap.Xml

/-- An element whose closing tag is still to come, with the children read so far, last first. -/
structure OpenElement where
  name : QName
  tag : String
  attributes : List (String × String)
  scope : Scope
  text : List Char := []
  children : List Element := []

namespace OpenElement

/-- An opening tag, read in the scope around it. -/
def ofTag? (scope : Scope) (name : QName) (attributes : List (QName × String)) :
    Option OpenElement := do
  let inner ← scope.extend? attributes
  let tag ← inner.elementName? name
  let named ← inner.attributes? attributes
  pure { name, tag, attributes := named, scope := inner }

/-- The element, its closing tag having come. -/
def close (e : OpenElement) : Element :=
  ⟨e.tag, e.attributes, String.ofList e.text, e.children.reverse⟩

/-- The element with more text, which counts only before the first child. -/
def addText (e : OpenElement) (chars : List Char) : OpenElement :=
  if e.children.isEmpty then { e with text := e.text ++ chars } else e

/-- The element with one more child. -/
def addChild (e : OpenElement) (child : Element) : OpenElement :=
  { e with children := child :: e.children }

end OpenElement

/-- How far a document has been read: before its outermost element, inside some open elements of
which the innermost is first, or after it. -/
inductive Progress where
  | before
  | inside (innermost : OpenElement) (around : List OpenElement)
  | after (root : Element)

namespace Progress

/-- An element is complete. -/
def finish (e : Element) : List OpenElement → Progress
  | [] => .after e
  | parent :: around => .inside (parent.addChild e) around

/-- The scope in which the next tag is read. -/
def scope : Progress → Scope
  | inside innermost _ => innermost.scope
  | _ => Scope.outermost

/-- The elements that are open. -/
def openElements : Progress → List OpenElement
  | inside innermost around => innermost :: around
  | _ => []

/-- One more token. -/
def step (p : Progress) : Token → Option Progress
  | .opening name attributes isEmpty =>
    match p with
    | .after _ => none
    | _ => (OpenElement.ofTag? p.scope name attributes).map fun e =>
      if isEmpty then finish e.close p.openElements else .inside e p.openElements
  | .closing name =>
    match p with
    | .inside innermost around =>
      if innermost.name = name then some (finish innermost.close around) else none
    | _ => none
  | .data chars =>
    match p with
    | .inside innermost around => (expandReferences id chars).map fun text =>
      .inside (innermost.addText text) around
    | _ => if chars.all isXmlSpace then some p else none
  | .marked chars =>
    match p with
    | .inside innermost around => some (.inside (innermost.addText chars) around)
    | _ => none

end Progress

/-- The outermost element of a row of tokens. -/
def tree? (tokens : List Token) : Option Element :=
  match tokens.foldlM Progress.step .before with
  | some (.after root) => some root
  | _ => none

end RegisterMap.Xml
