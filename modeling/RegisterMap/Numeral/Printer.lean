/-!
# Printing numerals

An integer has as many digits as it takes. A limit that a system may set on how many digits it turns
into an integer or back is no part of printing and reading here.

## Main definitions

* `decimal` : an integer in decimal notation.
* `hex` : an integer in hexadecimal notation, the sign in front of the mark.
* `paddedHex` : an integer in hexadecimal notation of eight places, the sign among them.
* `Style` : decimal or hexadecimal notation.
-/

namespace RegisterMap.Numeral

/-- A minus sign for a negative integer. -/
def sign (n : Int) : List Char := if n < 0 then ['-'] else []

/-- Integer in decimal notation. -/
def decimal (n : Int) : String := String.ofList (sign n ++ Nat.toDigits 10 n.natAbs)

/-- Integer in hexadecimal notation: sign, mark, digits. -/
def hex (n : Int) : String := String.ofList (sign n ++ '0' :: 'x' :: Nat.toDigits 16 n.natAbs)

/-- Integer in hexadecimal notation: the mark, then eight places or more, zeros coming after the
sign. -/
def paddedHex (n : Int) : String :=
  String.ofList ('0' :: 'x' ::
    (sign n ++ (Nat.toDigits 16 n.natAbs).leftpad (8 - (sign n).length) '0'))

/-- The notations in which device descriptions are written. -/
inductive Style where
  | decimal
  | hexadecimal
  deriving DecidableEq, Repr

/-- Integer in the notation of a style. -/
def Style.text : Style → Int → String
  | decimal => Numeral.decimal
  | hexadecimal => hex

theorem sign_natCast (n : Nat) : sign n = [] := if_neg (by omega)

theorem toList_decimal_natCast (n : Nat) : (decimal n).toList = Nat.toDigits 10 n := by
  simp [decimal, sign_natCast]

theorem toList_paddedHex_natCast (n : Nat) :
    (paddedHex n).toList = '0' :: 'x' :: (Nat.toDigits 16 n).leftpad 8 '0' := by
  simp [paddedHex, sign_natCast]

end RegisterMap.Numeral
