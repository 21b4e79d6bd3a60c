import RegisterMap.Text.CharClass
import RegisterMap.Text.LetterCase.Table

/-!
# Letter case

The full case mappings of Unicode: a character may become several, and a capital sigma at the end
of a word becomes the final sigma.

## Main definitions

* `upper` : a text in upper case.
* `lower` : a text in lower case.
-/

namespace RegisterMap.Text

/-- Image of a code point under the first row of a case table that covers it. -/
def rowImage? (rows : List (Nat × Nat × Nat × Nat)) (n : Nat) : Option Nat :=
  (rows.find? fun (first, last, step, _) => first ≤ n && n ≤ last && (n - first) % step == 0).map
    fun (first, _, _, image) => image + (n - first)

/-- Upper case of one character. -/
def upperChar (c : Char) : List Char :=
  match upperExpansions.lookup c.toNat with
  | some ns => ns.map Char.ofNat
  | none => [((rowImage? upperRows c.toNat).map Char.ofNat).getD c]

/-- Text in upper case. -/
def upper (s : String) : String := String.ofList (s.toList.flatMap upperChar)

/-- Lower case of one character, wherever it stands. -/
def lowerChar (c : Char) : List Char :=
  if c.toNat = 0x130 then ['i', Char.ofNat 0x307]
  else [((rowImage? lowerRows c.toNat).map Char.ofNat).getD c]

/-- The nearest character that is not case-ignorable exists and is cased. -/
def meetsCased (cs : List Char) : Bool :=
  match cs.dropWhile fun c => inRanges ignorableRanges c.toNat with
  | [] => false
  | c :: _ => inRanges casedRanges c.toNat

/-- Lower case of characters, given those before them in reverse order. A capital sigma is final
when it ends a word: a cased character comes before it and none after it. -/
def lowerChars (before : List Char) : List Char → List Char
  | [] => []
  | c :: after =>
    (if c.toNat = 0x3A3 then
      [Char.ofNat (if meetsCased before && !meetsCased after then 0x3C2 else 0x3C3)]
    else lowerChar c) ++ lowerChars (c :: before) after

/-- Text in lower case. -/
def lower (s : String) : String := String.ofList (lowerChars [] s.toList)

end RegisterMap.Text
