import RegisterMap.Text.Blank
import RegisterMap.Text.CharClass

/-!
# Reading numerals

A numeral is a sign, perhaps a mark for its base, and any number of digits with single underscores
between them; white space may surround it. Device descriptions write integers in several notations,
which `integer?` tells apart.

## Main definitions

* `Radix` : where the base of a numeral comes from.
* `digits?` : the value of a row of digits.
* `read?` : the value of a signed numeral.
* `integer?` : the value of an integer as device descriptions write it.
-/

namespace RegisterMap.Numeral

open RegisterMap.Text

/-- Where the base of a numeral comes from: a mark in front of the digits says it (with no mark the
numeral is decimal), or it is known and the mark may only repeat it. -/
inductive Radix where
  | marked
  | fixed (base : Nat)
  deriving DecidableEq, Repr

/-- The value of an ASCII digit or letter as a digit in a base of at most thirty-six. -/
def digitValue? (base : Nat) (c : Char) : Option Nat :=
  let n := c.toNat
  let d :=
    if 0x30 ≤ n ∧ n ≤ 0x39 then n - 0x30
    else if 0x61 ≤ n ∧ n ≤ 0x7A then n - 0x57
    else if 0x41 ≤ n ∧ n ≤ 0x5A then n - 0x37
    else base
  if d < base then some d else none

/-- Digits read on from a value, at least one, with single underscores between them. -/
def digitsFrom? (base : Nat) : Nat → List Char → Option Nat
  | _, [] => none
  | n, [c] => (digitValue? base c).map (n * base + ·)
  | n, c :: '_' :: cs => (digitValue? base c).bind fun d => digitsFrom? base (n * base + d) cs
  | n, c :: cs => (digitValue? base c).bind fun d => digitsFrom? base (n * base + d) cs

/-- The value of a row of digits. -/
def digits? (base : Nat) (cs : List Char) : Option Nat := digitsFrom? base 0 cs

/-- The base that the letter after a leading zero stands for. -/
def markBase? : Char → Option Nat
  | 'x' | 'X' => some 16
  | 'o' | 'O' => some 8
  | 'b' | 'B' => some 2
  | _ => none

/-- A base mark in front of the digits, and the digits; one underscore may stand between them. -/
def splitMark? : List Char → Option (Nat × List Char)
  | '0' :: m :: '_' :: cs => (markBase? m).map (·, cs)
  | '0' :: m :: cs => (markBase? m).map (·, cs)
  | _ => none

/-- The value of a numeral without a sign. An unmarked decimal numeral other than zero has no
leading zero. -/
def unsigned? (radix : Radix) (cs : List Char) : Option Nat :=
  match radix, splitMark? cs with
  | .marked, some (base, rest) => digits? base rest
  | .marked, none => (digits? 10 cs).filter fun n => n == 0 || cs.head? != some '0'
  | .fixed base, some (base', rest) => digits? base (if base = base' then rest else cs)
  | .fixed base, none => digits? base cs

/-- The value of a numeral with or without a sign. -/
def signed? (radix : Radix) : List Char → Option Int
  | '-' :: cs => (unsigned? radix cs).map fun n => -(n : Int)
  | '+' :: cs => (unsigned? radix cs).map fun n => (n : Int)
  | cs => (unsigned? radix cs).map fun n => (n : Int)

/-- ASCII form of a character of a numeral: digits of every script as ASCII digits, blanks outside
ASCII as the space. -/
def plainChar (c : Char) : Char :=
  if c.toNat < 0x80 then c
  else if isBlank c then ' '
  else ((decimalValue? c).map Nat.digitChar).getD '?'

/-- ASCII white space, which may surround a numeral. -/
def isSpace (c : Char) : Bool := c == ' ' || (0x09 ≤ c.toNat && c.toNat ≤ 0x0D)

/-- Characters without the white space around them. -/
def trimSpace (cs : List Char) : List Char :=
  ((cs.dropWhile isSpace).reverse.dropWhile isSpace).reverse

/-- The value of a numeral with white space around it. -/
def read? (radix : Radix) (cs : List Char) : Option Int :=
  signed? radix (trimSpace (cs.map plainChar))

/-- The value of an integer in a device description: after `#` a binary numeral; else a numeral
whose base is marked; else, if it holds nothing but digits, a decimal one with leading zeros; else
a hexadecimal one without its mark. -/
def integer? (s : String) : Option Int :=
  match (strip s).toList with
  | '#' :: cs => read? (.fixed 2) cs
  | cs =>
    (read? .marked cs).orElse fun _ => read? (.fixed (if cs.all isDecimal then 10 else 16)) cs

end RegisterMap.Numeral
