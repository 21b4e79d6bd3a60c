import RegisterMap.Xml.Tree

/-!
# Documents

A document may begin with a declaration of its version and encoding. Its lines may end in any of
the usual ways.

## Main definitions

* `normalizeLineEnds` : characters whose lines end with line feeds.
* `takeDeclaration?` : the declaration in front of a document.
* `parse?` : the outermost element of a document.
-/

namespace RegisterMap.Xml

/-- Characters with a line feed for every line end. -/
def normalizeLineEnds : List Char → List Char
  | '\r' :: '\n' :: cs => '\n' :: normalizeLineEnds cs
  | c :: cs => (if c = '\r' then '\n' else c) :: normalizeLineEnds cs
  | [] => []

/-! ### Declarations -/

/-- A character of a name or value in a declaration. -/
def isDeclarationChar (c : Char) : Bool := c.isAlphanum || c == '.' || c == '-' || c == '_'

/-- The settings of a declaration, each with white space before it; the first argument bounds their
number. -/
def settings? : Nat → List Char → Option (List (String × String))
  | bound, cs =>
    match cs.takeWhile isXmlSpace, cs.dropWhile isXmlSpace with
    | _, [] => some []
    | [], _ => none
    | _, rest =>
      let name := rest.takeWhile isDeclarationChar
      match (rest.dropWhile isDeclarationChar).dropWhile isXmlSpace, bound with
      | '=' :: rest, bound + 1 =>
        match rest.dropWhile isXmlSpace with
        | quote :: rest =>
          let value := rest.takeWhile isDeclarationChar
          match rest.dropWhile isDeclarationChar with
          | quote' :: rest =>
            if (quote = '"' ∨ quote = '\'') ∧ quote' = quote then
              (settings? bound rest).map ((String.ofList name, String.ofList value) :: ·)
            else none
          | [] => none
        | [] => none
      | _, _ => none

/-- The encoding that the settings of a declaration name, if they are in order: a version, then
perhaps an encoding, then perhaps whether the document stands alone. -/
def declaredEncoding? : List (String × String) → Option (Option String)
  | ("version", _) :: settings =>
    let (encoding, settings) := match settings with
      | ("encoding", value) :: settings => (some value, settings)
      | settings => (none, settings)
    let encodingIsName := encoding.all fun value => value.toList.head?.any Char.isAlpha
    match settings with
    | [] => if encodingIsName then some encoding else none
    | [("standalone", value)] =>
      if encodingIsName ∧ (value = "yes" ∨ value = "no") then some encoding else none
    | _ => none
  | _ => none

/-- The encoding that the declaration in front of a document names, if there is a declaration that
names one, and what follows the declaration. -/
def takeDeclaration? (cs : List Char) : Option (Option String × List Char) :=
  match cs with
  | '<' :: '?' :: 'x' :: 'm' :: 'l' :: c :: cs' =>
    if isNameChar c then some (none, cs)
    else do
      let (inside, rest) ← takeInstruction? (c :: cs')
      let settings ← settings? 3 inside
      let encoding ← declaredEncoding? settings
      pure (encoding, rest)
  | cs => some (none, cs)

/-- Characters without the byte order mark that may stand in front. -/
def dropMark : List Char → List Char
  | [] => []
  | c :: cs => if c.toNat = 0xFEFF then cs else c :: cs

/-- The outermost element of a document without a byte order mark. -/
def parseUnmarked? (cs : List Char) : Option Element := do
  let cs := normalizeLineEnds cs
  if cs.all isXmlChar then
    let (_, rest) ← takeDeclaration? cs
    let tokens ← tokens? rest
    tree? tokens
  else none

/-- The outermost element of a document, given as characters. -/
def parse? (cs : List Char) : Option Element := parseUnmarked? (dropMark cs)

end RegisterMap.Xml
