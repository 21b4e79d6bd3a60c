import RegisterMap.Text.Blank

/-!
# Nim identifiers

A name from a device description becomes a Nim identifier: its runs of ASCII letters and digits,
joined by single underscores. Nim tells identifiers apart by their first character and, ignoring
underscores and case, by the others; one that reads as a keyword stands between backticks.

## Main definitions

* `Ident.fold` : what Nim compares of an identifier.
* `Ident.isKeyword` : the identifier reads as a keyword.
* `Ident.ofText` : the identifier made from any text.

## Main results

* `Ident.isWordChar_of_mem_joined` : joined runs are made of letters, digits and underscores.
-/

namespace RegisterMap.Nim

namespace Ident

/-- The reserved words of Nim. -/
def keywords : List String := [
  "addr", "and", "as", "asm", "bind", "block", "break", "case", "cast", "concept", "const",
  "continue", "converter", "defer", "discard", "distinct", "div", "do", "elif", "else", "end",
  "enum", "except", "export", "finally", "for", "from", "func", "if", "import", "in", "include",
  "interface", "is", "isnot", "iterator", "let", "macro", "method", "mixin", "mod", "nil", "not",
  "notin", "object", "of", "or", "out", "proc", "ptr", "raise", "ref", "return", "shl", "shr",
  "static", "template", "try", "tuple", "type", "using", "var", "when", "while", "xor", "yield"]

/-- What Nim compares of an identifier: the first character, and the others in lower case without
underscores. Identifiers are ASCII, so that the case of ASCII letters is all that matters. -/
def fold : List Char → List Char
  | [] => []
  | c :: cs => c :: (cs.map Char.toLower).filter (· != '_')

/-- The identifier reads as a keyword. -/
def isKeyword (cs : List Char) : Bool := keywords.contains (String.ofList (fold cs))

/-- The runs of ASCII letters and digits of a text. -/
def parts (cs : List Char) : List (List Char) :=
  (cs.splitOnP (!·.isAlphanum)).filter (!·.isEmpty)

/-- The runs of a text joined by single underscores. -/
def joined (cs : List Char) : List Char := ['_'].intercalate (parts cs)

/-- Characters that may begin an identifier: a digit in front takes the letter `x` before it, and
so does nothing at all. -/
def withLetterFirst : List Char → List Char
  | [] => ['x']
  | c :: cs => if c.isDigit then 'x' :: c :: cs else c :: cs

/-- Identifier between backticks if it reads as a keyword. -/
def protect (cs : List Char) : List Char :=
  if isKeyword cs then '\x60' :: cs ++ ['\x60'] else cs

/-- The identifier made from a text. -/
def ofText (s : String) : String := String.ofList (protect (withLetterFirst (joined s.toList)))

/-- What Nim compares of an identifier, as a text. -/
def foldText (s : String) : String := String.ofList (fold s.toList)

/-- A letter, a digit or the underscore. -/
def isWordChar (c : Char) : Bool := c.isAlphanum || c == '_'

theorem isAlphanum_of_mem_parts {cs part : List Char} {c : Char} (hp : part ∈ parts cs)
    (hc : c ∈ part) : c.isAlphanum = true := by
  simpa using Text.not_of_mem_splitOnP (List.mem_filter.1 hp).1 hc

theorem ne_nil_of_mem_parts {cs part : List Char} (hp : part ∈ parts cs) : part ≠ [] := by
  simpa using (List.mem_filter.1 hp).2

/-- Joined runs hold only letters, digits and underscores. -/
theorem isWordChar_of_mem_joined {cs : List Char} {c : Char} (h : c ∈ joined cs) :
    isWordChar c = true := by
  have all : ∀ ps : List (List Char), (∀ p ∈ ps, ∀ d ∈ p, d.isAlphanum = true) →
      c ∈ ['_'].intercalate ps → isWordChar c = true := by
    intro ps
    induction ps with
    | nil => simp
    | cons p ps ih =>
      intro hps hc
      cases ps with
      | nil =>
        simp at hc
        simp [isWordChar, hps p List.mem_cons_self c hc]
      | cons q ps =>
        rw [List.intercalate_cons_cons] at hc
        simp only [List.mem_append, List.mem_singleton] at hc
        rcases hc with (hc | rfl) | hc
        · simp [isWordChar, hps p List.mem_cons_self c hc]
        · decide
        · exact ih (fun r hr => hps r (List.mem_cons_of_mem _ hr)) hc
  exact all _ (fun _ hp _ => isAlphanum_of_mem_parts hp) h

end Ident

end RegisterMap.Nim
