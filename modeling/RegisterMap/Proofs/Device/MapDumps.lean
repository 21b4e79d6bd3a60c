import RegisterMap.Device.AddressMap
import RegisterMap.Proofs.Numeral.Notations

/-!
# Reading the text of an address map

The text of an address map has one line per register instance, which names the instance and its
address with a colon between them. A path may itself hold colons, and digits behind them. It is the
last colon of a line that divides it, since none is in a numeral. The text is put together again
from what is read, unless a path breaks its line or an address has a sign, which stands where no
reader looks for it.

## Main definitions

* `Text.cutLast?` : the characters before and after the last of a kind.
* `AddressMap.readLine?` : the path and the address in a line.
* `AddressMap.readLines` : what is read in the lines of a text.

## Main results

* `Numeral.integer?_paddedHex` : which addresses are read.
* `AddressMap.readLine?_line` : what is read in the line of an entry.
* `AddressMap.readLines_dump` : what is read in a text with a line for each entry.
* `AddressMap.readLines_dump_iff` : the address maps that are read back.
-/

namespace RegisterMap

/-! ### Addresses -/

namespace Numeral

/-- Digits are printed in small letters. -/
theorem map_toLower_toDigits (n : Nat) :
    (Nat.toDigits 16 n).map Char.toLower = Nat.toDigits 16 n := by
  have small : ∀ d < 16, (Nat.digitChar d).toLower = Nat.digitChar d := by decide
  refine (List.map_congr_left fun c hc => ?_).trans (List.map_id' _)
  obtain ⟨d, hd, rfl⟩ := mem_toDigits (by decide) hc
  exact small d hd

/-- Places are filled with zeros. -/
theorem isDigitRow_leftpad (places n : Nat) :
    IsDigitRow 16 n ((Nat.toDigits 16 n).leftpad places '0') :=
  ⟨places - (Nat.toDigits 16 n).length, by simp [List.leftpad, map_toLower_toDigits]⟩

/-- A sign behind the mark is no digit. -/
theorem unsigned?_of_sign_behind_mark {cs : List Char} (plain : '_' ∉ cs) :
    ∀ radix ∈ [Radix.marked, .fixed 16], unsigned? radix ('0' :: 'x' :: '-' :: cs) = none := by
  have mark : splitMark? ('0' :: 'x' :: '-' :: cs) = some (16, '-' :: cs) := rfl
  have digits : digits? 16 ('-' :: cs) = none := by
    rw [digits?, digitsFrom?_eq_foldlM _ _ (List.cons_ne_nil _ _) (by simp [plain]),
      List.foldlM_cons]
    rfl
  simp [unsigned?, mark, digits]

theorem integer?_of_sign_behind_mark {s : String} {cs : List Char} (plain : '_' ∉ cs)
    (visible : ∀ c ∈ cs, IsVisible c) (text : s.toList = '0' :: 'x' :: '-' :: cs) :
    integer? s = none := by
  have all : ∀ c ∈ '0' :: 'x' :: '-' :: cs, IsVisible c := by
    simp only [List.forall_mem_cons]
    exact ⟨⟨by decide, by decide⟩, ⟨by decide, by decide⟩, ⟨by decide, by decide⟩, visible⟩
  have refused := unsigned?_of_sign_behind_mark plain
  have letter : Text.isDecimal 'x' = false := by decide
  rw [integer?_of_surrounds (surrounds_self text) all (by simp),
    signed?_of_head? (by simp) (by simp), signed?_of_head? (by simp) (by simp),
    refused _ (by simp)]
  simp [letter, refused]

/-- An address is read back if it has no sign. -/
theorem integer?_paddedHex (n : Int) :
    integer? (paddedHex n) = if 0 ≤ n then some n else none := by
  split
  · next positive =>
    obtain ⟨n, rfl⟩ := Int.eq_ofNat_of_zero_le positive
    have spelled : Spells n (paddedHex n).toList := by
      rw [toList_paddedHex_natCast]
      exact .hexadecimal (.inl rfl) (isDigitRow_leftpad 8 n)
    exact spelled.integer?_eq (surrounds_self rfl)
  · next negative =>
    have row := isDigitRow_leftpad (8 - (sign n).length) n.natAbs
    refine integer?_of_sign_behind_mark (row.underscore_notMem (by decide) (by decide))
      (row.visible (by decide) (by decide)) ?_
    rw [paddedHex, String.toList_ofList, sign, if_pos (by omega)]
    rfl

/-- An address consists of characters that spellings of numbers have. -/
theorem mem_spelledChars_of_mem_paddedHex {n : Int} {c : Char} (h : c ∈ (paddedHex n).toList) :
    c ∈ spelledChars := by
  have zero : '0' ∈ spelledChars := digitChar_mem_spelledChars (d := 0) (by omega)
  rw [paddedHex, String.toList_ofList, List.mem_cons, List.mem_cons, List.mem_append,
    List.leftpad, List.mem_append] at h
  rcases h with rfl | rfl | h | h | h
  · exact zero
  · exact List.mem_cons_of_mem _ List.mem_cons_self
  · exact mem_spelledChars_of_mem_sign h
  · exact List.eq_of_mem_replicate h ▸ zero
  · exact mem_spelledChars_of_mem_toDigits (by decide) (by decide) h

end Numeral

/-! ### Lines -/

namespace Text

/-- The characters before and after the last one of a kind. -/
def cutLast? (mark : Char) : List Char → Option (List Char × List Char)
  | [] => none
  | c :: cs =>
    match cutLast? mark cs with
    | some (before, after) => some (c :: before, after)
    | none => if c = mark then some ([], cs) else none

variable {mark : Char} {cs before after : List Char}

theorem cutLast?_of_notMem (h : mark ∉ cs) : cutLast? mark cs = none := by
  induction cs with
  | nil => rfl
  | cons c cs ih =>
    obtain ⟨other, rest⟩ := not_or.1 (mt List.mem_cons.2 h)
    rw [cutLast?, ih rest]
    exact if_neg (Ne.symm other)

/-- The characters are cut where none of the kind comes after. -/
theorem cutLast?_append_cons (h : mark ∉ after) :
    cutLast? mark (before ++ mark :: after) = some (before, after) := by
  induction before with
  | nil => simp [cutLast?, cutLast?_of_notMem h]
  | cons c before ih => rw [List.cons_append, cutLast?, ih]

/-- Nothing but the one in between is lost. -/
theorem eq_of_cutLast? (h : cutLast? mark cs = some (before, after)) :
    cs = before ++ mark :: after := by
  induction cs generalizing before with
  | nil => cases h
  | cons c cs ih =>
    rw [cutLast?] at h
    split at h
    · next front back cut =>
      cases h
      rw [ih cut, List.cons_append]
    · split at h
      · next same =>
        cases h
        rw [same, List.nil_append]
      · cases h

end Text

namespace AddressMap

/-- The path and the address in a line: what stands before its last colon, and the integer behind
it. -/
def readLine? (line : List Char) : Option (String × Int) := do
  let (path, numeral) ← Text.cutLast? ':' line
  let address ← Numeral.integer? (String.ofList numeral)
  pure (String.ofList path, address)

/-- The path and the address in each line of a text. -/
def readLines (text : String) : List (Option (String × Int)) :=
  (text.toList.splitOn '\n').map readLine?

variable {m : AddressMap}

/-- The line of an entry is read back if its address has no sign. -/
theorem readLine?_line (e : Entry) :
    readLine? e.line.toList = if 0 ≤ e.address then some (e.path, e.address) else none := by
  have colon : ":".toList = [':'] := rfl
  have cut : Text.cutLast? ':' e.line.toList =
      some (e.path.toList, (Numeral.paddedHex e.address).toList) := by
    rw [Entry.line, String.toList_append, String.toList_append, colon, List.append_assoc,
      List.singleton_append]
    exact Text.cutLast?_append_cons fun mem =>
      absurd (Numeral.mem_spelledChars_of_mem_paddedHex mem) (by decide)
  simp only [readLine?, cut, Option.bind_eq_bind, Option.bind_some, String.ofList_toList,
    Numeral.integer?_paddedHex]
  split <;> rfl

/-- What is read as a path stands in the line. -/
theorem mem_of_readLine? {line : List Char} {path : String} {address : Int} {c : Char}
    (h : readLine? line = some (path, address)) (hc : c ∈ path.toList) : c ∈ line := by
  obtain ⟨⟨before, after⟩, cut, rest⟩ := Option.bind_eq_some_iff.1 h
  obtain ⟨_, -, same⟩ := Option.bind_eq_some_iff.1 rest
  cases same
  rw [String.toList_ofList] at hc
  exact Text.eq_of_cutLast? cut ▸ List.mem_append_left _ hc

/-- Entries whose paths break no line have a line each. -/
theorem splitOn_dump (nonempty : m.entries ≠ [])
    (plain : ∀ e ∈ m.entries, '\n' ∉ e.path.toList) :
    m.dump.toList.splitOn '\n' = m.entries.map fun e => e.line.toList := by
  have lineFeed : "\n".toList = ['\n'] := rfl
  rw [dump, String.toList_intercalate, lineFeed, List.map_map]
  refine List.splitOn_intercalate _ ?_ (by simpa using nonempty)
  rintro line hline
  obtain ⟨e, he, rfl⟩ := List.mem_map.1 hline
  have numeral : '\n' ∉ (Numeral.paddedHex e.address).toList := fun mem =>
    absurd (Numeral.mem_spelledChars_of_mem_paddedHex mem) (by decide)
  simp [Entry.line, plain e he, numeral]

/-- A path that is read has no line feed. -/
theorem newline_notMem_of_mem_readLines {text path : String} {address : Int}
    (h : some (path, address) ∈ readLines text) : '\n' ∉ path.toList := by
  intro inside
  obtain ⟨line, hline, read⟩ := List.mem_map.1 h
  have apart := Text.not_of_mem_splitOnP hline (mem_of_readLine? read inside)
  exact absurd apart (by decide)

/-- Of entries whose paths break no line, those whose addresses have no sign are read. -/
theorem readLines_dump (nonempty : m.entries ≠ [])
    (plain : ∀ e ∈ m.entries, '\n' ∉ e.path.toList) :
    readLines m.dump =
      m.entries.map fun e => if 0 ≤ e.address then some (e.path, e.address) else none := by
  rw [readLines, splitOn_dump nonempty plain, List.map_map]
  exact List.map_congr_left fun e _ => readLine?_line e

/-- **Dumps read back.** The lines of the text of an address map give the paths and addresses of its
entries, in order, if and only if there is an entry at all, no path breaks its line and no address
is negative. -/
theorem readLines_dump_iff :
    readLines m.dump = m.entries.map (fun e => some (e.path, e.address)) ↔
      m.entries ≠ [] ∧ ∀ e ∈ m.entries, '\n' ∉ e.path.toList ∧ 0 ≤ e.address := by
  constructor
  · intro read
    have nonempty : m.entries ≠ [] := by
      intro none
      -- the empty text is one line
      have lines : (readLines m.dump).length = 0 := by rw [read, none]; rfl
      simp [readLines] at lines
    have plain : ∀ e ∈ m.entries, '\n' ∉ e.path.toList := fun e he =>
      newline_notMem_of_mem_readLines (read ▸ List.mem_map.2 ⟨e, he, rfl⟩)
    rw [readLines_dump nonempty plain] at read
    refine ⟨nonempty, fun e he => ⟨plain e he, ?_⟩⟩
    by_contra negative
    have own := List.map_inj_left.1 read e he
    rw [if_neg negative] at own
    cases own
  · rintro ⟨nonempty, good⟩
    rw [readLines_dump nonempty fun e he => (good e he).1]
    exact List.map_congr_left fun e he => if_pos (good e he).2

example : readLines "PORT:0.CTRL:0x40000000\nWIDE:0x123456789" =
    [some ("PORT:0.CTRL", 0x40000000), some ("WIDE", 0x123456789)] := by
  decide +kernel

end AddressMap

end RegisterMap
