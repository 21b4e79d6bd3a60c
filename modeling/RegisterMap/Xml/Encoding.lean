import RegisterMap.Xml.Document

/-!
# Encodings

A file holds bytes. Which characters they stand for follows from the marks at the file's beginning
and from the encoding that the document's declaration names.

## Main definitions

* `Encoding` : the encodings that are understood.
* `Encoding.decode?` : the characters of bytes.
* `decodeDocument?` : the characters of a file.
* `parseBytes?` : the outermost element of a file.
-/

namespace RegisterMap.Xml

/-- An encoding of characters as bytes. -/
inductive Encoding where
  | utf8
  | utf16 (bigEndian : Bool)
  | ascii
  | latin1
  | windows1252
  deriving DecidableEq, Repr

namespace Encoding

/-- A code unit of two bytes. -/
def unit (bigEndian : Bool) (a b : UInt8) : Nat :=
  if bigEndian then a.toNat * 256 + b.toNat else b.toNat * 256 + a.toNat

/-- The units of an even number of bytes. -/
def units? (bigEndian : Bool) : List UInt8 → Option (List Nat)
  | [] => some []
  | [_] => none
  | a :: b :: rest => (units? bigEndian rest).map (unit bigEndian a b :: ·)

/-- The characters of UTF-16 units; the two halves of a pair stand together. -/
def ofUnits? : List Nat → Option (List Char)
  | [] => some []
  | n :: rest =>
    if 0xD800 ≤ n ∧ n ≤ 0xDFFF then
      match rest with
      | m :: rest =>
        if n < 0xDC00 ∧ 0xDC00 ≤ m ∧ m ≤ 0xDFFF then
          (ofUnits? rest).map
            (Char.ofNat (0x10000 + (n - 0xD800) * 0x400 + (m - 0xDC00)) :: ·)
        else none
      | [] => none
    else (ofUnits? rest).map (Char.ofNat n :: ·)

/-- The code points of the bytes from 0x80 to 0x9F in the encoding of Windows for western Europe;
zero where there is none. -/
def windowsBlock : List Nat := [
  0x20AC, 0, 0x201A, 0x0192, 0x201E, 0x2026, 0x2020, 0x2021, 0x02C6, 0x2030, 0x0160, 0x2039, 0x0152,
  0, 0x017D, 0, 0, 0x2018, 0x2019, 0x201C, 0x201D, 0x2022, 0x2013, 0x2014, 0x02DC, 0x2122, 0x0161,
  0x203A, 0x0153, 0, 0x017E, 0x0178]

/-- The character of a byte in the encoding of Windows for western Europe. -/
def ofWindows? (b : UInt8) : Option Char :=
  match windowsBlock[b.toNat - 0x80]? with
  | some n => if b.toNat < 0x80 then some (Char.ofNat b.toNat)
    else if n = 0 then none else some (Char.ofNat n)
  | none => some (Char.ofNat b.toNat)

/-- The characters that bytes stand for, if they stand for any. -/
def decode? : Encoding → List UInt8 → Option (List Char)
  | utf8, bytes => (String.fromUTF8? ⟨bytes.toArray⟩).map String.toList
  | utf16 bigEndian, bytes => (units? bigEndian bytes).bind ofUnits?
  | ascii, bytes => bytes.mapM fun b => if b < 0x80 then some (Char.ofNat b.toNat) else none
  | latin1, bytes => some (bytes.map fun b => Char.ofNat b.toNat)
  | windows1252, bytes => bytes.mapM ofWindows?

/-- The encoding that shows in a file's first bytes: a byte order mark, or a character in two
bytes; else one whose characters are bytes. -/
def detect : List UInt8 → Encoding
  | 0xFE :: 0xFF :: _ => .utf16 true
  | 0xFF :: 0xFE :: _ => .utf16 false
  | 0x00 :: _ => .utf16 true
  | _ :: 0x00 :: _ => .utf16 false
  | _ => .utf8

/-- The encoding of a name, given the one that shows in the file; a name in two bytes must agree
with it. Case does not matter. -/
def named? (detected : Encoding) (name : String) : Option Encoding :=
  match detected, String.ofList (name.toList.map Char.toUpper) with
  | .utf16 bigEndian, "UTF-16" => some (.utf16 bigEndian)
  | .utf16 true, "UTF-16BE" => some (.utf16 true)
  | .utf16 false, "UTF-16LE" => some (.utf16 false)
  | .utf16 _, _ => none
  | _, "UTF-8" => some .utf8
  | _, "US-ASCII" => some .ascii
  | _, "ISO-8859-1" => some .latin1
  | _, "WINDOWS-1252" | _, "CP1252" => some .windows1252
  | _, _ => none

end Encoding

/-- Bytes without the byte order mark that may stand in front. -/
def dropByteMark : List UInt8 → List UInt8
  | 0xEF :: 0xBB :: 0xBF :: bytes => bytes
  | bytes => bytes

/-- The encoding that a file's declaration names, read byte by byte. -/
def declaredIn? (bytes : List UInt8) : Option (Option String) :=
  (Encoding.latin1.decode? bytes).bind fun cs =>
    (takeDeclaration? (normalizeLineEnds cs)).map (·.1)

/-- The characters of a file without a byte order mark. In a file whose characters are bytes the
declaration decides the encoding. -/
def decodeDocument? (bytes : List UInt8) : Option (List Char) :=
  match Encoding.detect bytes with
  | .utf16 bigEndian => do
    let cs := dropMark (← (Encoding.utf16 bigEndian).decode? bytes)
    let (declared, _) ← takeDeclaration? (normalizeLineEnds cs)
    match declared with
    | none => pure cs
    | some name => do
      let _ ← Encoding.named? (.utf16 bigEndian) name
      pure cs
  | detected => do
    let bytes := dropByteMark bytes
    let declared ← declaredIn? bytes
    let encoding ← match declared with
      | none => some detected
      | some name => Encoding.named? detected name
    encoding.decode? bytes

/-- The outermost element of a file. -/
def parseBytes? (bytes : List UInt8) : Option Element := (decodeDocument? bytes).bind parseUnmarked?

end RegisterMap.Xml
