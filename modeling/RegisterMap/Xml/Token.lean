import RegisterMap.Xml.NameChar

/-!
# Tokens of a document

A document is a row of tags, character data, comments and processing instructions. The last two
mean nothing to a reader and give no token.

## Main definitions

* `QName` : a name with its namespace prefix.
* `Token` : a tag or character data.
* `expandReferences` : character data with references replaced.
* `tokens?` : the tokens of a document without its declaration.
-/

namespace RegisterMap.Xml

/-- A name, with the prefix that stands for its namespace; the prefix may be empty. -/
structure QName where
  pre : String
  base : String
  deriving DecidableEq, Repr

/-- A tag or character data. Character data keeps its references; a marked section has none. -/
inductive Token where
  | opening (name : QName) (attributes : List (QName × String)) (isEmpty : Bool)
  | closing (name : QName)
  | data (chars : List Char)
  | marked (chars : List Char)
  deriving Repr

/-- White space between the parts of a tag; line ends are line feeds. -/
def isXmlSpace (c : Char) : Bool := c == ' ' || c == '\t' || c == '\n'

/-! ### References -/

/-- The number that digits of a base write; a letter digit counts from ten on. -/
def referenceNumber? (base : Nat) : List Char → Option Nat
  | [] => none
  | cs => cs.foldlM (fun n c =>
      let digit :=
        if c.isDigit then some (c.toNat - 0x30)
        else if base == 16 && 'a' ≤ c && c ≤ 'f' then some (c.toNat - 0x57)
        else if base == 16 && 'A' ≤ c && c ≤ 'F' then some (c.toNat - 0x37)
        else none
      digit.map (n * base + ·)) 0

/-- The character of a code point, if a document may hold it. -/
def xmlChar? (n : Nat) : Option Char :=
  if n < 0x110000 ∧ ¬(0xD800 ≤ n ∧ n ≤ 0xDFFF) ∧ isXmlChar (Char.ofNat n) then some (Char.ofNat n)
  else none

/-- The character that a reference stands for, given what is between its ampersand and semicolon. -/
def reference? : List Char → Option Char
  | '#' :: 'x' :: digits => (referenceNumber? 16 digits).bind xmlChar?
  | '#' :: digits => (referenceNumber? 10 digits).bind xmlChar?
  | ['a', 'm', 'p'] => some '&'
  | ['l', 't'] => some '<'
  | ['g', 't'] => some '>'
  | ['q', 'u', 'o', 't'] => some '"'
  | ['a', 'p', 'o', 's'] => some '\''
  | _ => none

/-- Characters with every reference replaced and every other character mapped. The first argument
holds what has been read of a reference, last character first. -/
def expandFrom (f : Char → Char) : Option (List Char) → List Char → Option (List Char)
  | none, [] => some []
  | some _, [] => none
  | none, c :: cs =>
    if c = '&' then expandFrom f (some []) cs else (expandFrom f none cs).map (f c :: ·)
  | some name, c :: cs =>
    if c = ';' then
      (reference? name.reverse).bind fun r => (expandFrom f none cs).map (r :: ·)
    else expandFrom f (some (c :: name)) cs

/-- Characters with every reference replaced and every other character mapped. -/
def expandReferences (f : Char → Char) (cs : List Char) : Option (List Char) := expandFrom f none cs

/-! ### Names and attributes -/

/-- A name without a prefix, and what follows it. -/
def takeName? : List Char → Option (String × List Char)
  | [] => none
  | c :: cs =>
    if isNameStart c then
      some (String.ofList (c :: cs.takeWhile isNameChar), cs.dropWhile isNameChar)
    else none

/-- A name with or without a prefix, and what follows it. -/
def takeQName? (cs : List Char) : Option (QName × List Char) := do
  let (first, rest) ← takeName? cs
  match rest with
  | ':' :: rest => do
    let (second, rest) ← takeName? rest
    pure (⟨first, second⟩, rest)
  | _ => pure (⟨"", first⟩, rest)

/-- An attribute and what follows it. Line breaks and tabs in its value count as spaces. -/
def takeAttribute? (cs : List Char) : Option ((QName × String) × List Char) := do
  let (name, rest) ← takeQName? cs
  match rest.dropWhile isXmlSpace with
  | '=' :: rest =>
    match rest.dropWhile isXmlSpace with
    | quote :: rest =>
      if quote = '"' ∨ quote = '\'' then
        let raw := rest.takeWhile (· != quote)
        match rest.dropWhile (· != quote) with
        | [] => none
        | _ :: rest =>
          if raw.contains '<' then none
          else
            let value ← expandReferences (fun c => if isXmlSpace c then ' ' else c) raw
            pure ((name, String.ofList value), rest)
      else none
    | [] => none
  | _ => none

/-- The attributes of a tag up to its end, whether the tag is that of an empty element, and what
follows it. White space stands before every attribute; the first argument bounds their number. -/
def takeAttributes? : Nat → List Char → Option (List (QName × String) × Bool × List Char)
  | _, '>' :: rest => some ([], false, rest)
  | _, '/' :: '>' :: rest => some ([], true, rest)
  | 0, _ => none
  | bound + 1, cs =>
    match cs.takeWhile isXmlSpace, cs.dropWhile isXmlSpace with
    | [], _ => none
    | _, '>' :: rest => some ([], false, rest)
    | _, '/' :: '>' :: rest => some ([], true, rest)
    | _, rest => do
      let (first, rest) ← takeAttribute? rest
      let (others, isEmpty, rest) ← takeAttributes? bound rest
      pure (first :: others, isEmpty, rest)

/-! ### Tokens -/

/-- What follows a comment; two hyphens stand only at its end. -/
def skipComment? : List Char → Option (List Char)
  | '-' :: '-' :: '>' :: rest => some rest
  | '-' :: '-' :: _ => none
  | _ :: cs => skipComment? cs
  | [] => none

/-- The characters before an end mark `?>`, and what follows it. -/
def takeInstruction? : List Char → Option (List Char × List Char)
  | '?' :: '>' :: rest => some ([], rest)
  | c :: cs => (takeInstruction? cs).map fun (inside, rest) => (c :: inside, rest)
  | [] => none

/-- What follows a processing instruction; its target is not the word that begins a document's
declaration. -/
def skipInstruction? (cs : List Char) : Option (List Char) := do
  let (target, rest) ← takeName? cs
  if target.toList.map Char.toLower = ['x', 'm', 'l'] then none
  else match rest with
    | '?' :: '>' :: rest => some rest
    | c :: rest => if isXmlSpace c then (takeInstruction? rest).map (·.2) else none
    | [] => none

/-- The characters of a marked section, and what follows it. -/
def takeMarked? : List Char → Option (List Char × List Char)
  | ']' :: ']' :: '>' :: rest => some ([], rest)
  | c :: cs => (takeMarked? cs).map fun (inside, rest) => (c :: inside, rest)
  | [] => none

/-- The end mark of a marked section stands in the characters. -/
def hasMarkedEnd : List Char → Bool
  | ']' :: ']' :: '>' :: _ => true
  | _ :: cs => hasMarkedEnd cs
  | [] => false

/-- A closing tag after its slash, and what follows it. -/
def takeClosing? (cs : List Char) : Option (Token × List Char) := do
  let (name, rest) ← takeQName? cs
  match rest.dropWhile isXmlSpace with
  | '>' :: rest => pure (.closing name, rest)
  | _ => none

/-- An opening tag after its bracket, and what follows it. -/
def takeOpening? (bound : Nat) (cs : List Char) : Option (Token × List Char) := do
  let (name, rest) ← takeQName? cs
  let (attributes, isEmpty, rest) ← takeAttributes? bound rest
  pure (.opening name attributes isEmpty, rest)

/-- The first token, if there is one before a comment or instruction, and what follows. -/
def takeToken? (bound : Nat) : List Char → Option (Option Token × List Char)
  | '<' :: '!' :: '-' :: '-' :: cs => (skipComment? cs).map fun rest => (none, rest)
  | '<' :: '!' :: '[' :: 'C' :: 'D' :: 'A' :: 'T' :: 'A' :: '[' :: cs =>
    (takeMarked? cs).map fun (inside, rest) => (some (.marked inside), rest)
  | '<' :: '?' :: cs => (skipInstruction? cs).map fun rest => (none, rest)
  | '<' :: '/' :: cs => (takeClosing? cs).map fun (t, rest) => (some t, rest)
  | '<' :: cs => (takeOpening? bound cs).map fun (t, rest) => (some t, rest)
  | cs =>
    let chars := cs.takeWhile (· != '<')
    if hasMarkedEnd chars then none else some (some (.data chars), cs.dropWhile (· != '<'))

/-- The tokens of characters; as each takes a character or more, the number of characters bounds
their number. -/
def tokensFrom? : Nat → List Char → Option (List Token)
  | _, [] => some []
  | 0, _ :: _ => none
  | bound + 1, cs => do
    let (token, rest) ← takeToken? bound cs
    let others ← tokensFrom? bound rest
    pure (token.toList ++ others)

/-- The tokens of a document without its declaration. -/
def tokens? (cs : List Char) : Option (List Token) := tokensFrom? cs.length cs

end RegisterMap.Xml
