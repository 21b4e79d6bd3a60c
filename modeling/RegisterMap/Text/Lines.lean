/-!
# Lines

A text is cut into lines at every kind of line break; a break at the very end opens no further
line.

## Main definitions

* `isLineBreak` : the characters that end a line.
* `splitLines` : the lines of a text.
-/

namespace RegisterMap.Text

/-- A line break: the ASCII line and page controls, the three larger separators, next line, and the
Unicode line and paragraph separators. -/
def isLineBreak (c : Char) : Bool :=
  let n := c.toNat
  (0x0A ≤ n && n ≤ 0x0D) || (0x1C ≤ n && n ≤ 0x1E) || n == 0x85 || n == 0x2028 || n == 0x2029

/-- A character in front of the first line. -/
def consToFirst (c : Char) : List (List Char) → List (List Char)
  | [] => [[c]]
  | l :: ls => (c :: l) :: ls

/-- The lines of some characters; a carriage return and the line feed after it are one break. -/
def splitLines : List Char → List (List Char)
  | [] => []
  | '\r' :: '\n' :: rest => [] :: splitLines rest
  | c :: rest => if isLineBreak c then [] :: splitLines rest else consToFirst c (splitLines rest)

/-- The lines of a text. -/
def lines (s : String) : List String := (splitLines s.toList).map String.ofList

end RegisterMap.Text
