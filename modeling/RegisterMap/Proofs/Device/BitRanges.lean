import RegisterMap.Device.Writer
import RegisterMap.Proofs.Device.ReadNodes
import RegisterMap.Proofs.Numeral.Notations

/-!
# Notations of bit ranges

The bits of a field are given by the first of them and their number, by the last and the first in
brackets, or by the first and the last in elements of their own. The numbers in brackets are read
by other rules than those in elements: they are decimal, in the digits of any script, and zeros and
blanks may stand around them. All notations of a range are read as the same field.

## Main definitions

* `IsDecimalRow` : the decimal digits of a number after any zeros, in whatever scripts.
* `SpellsRange` : the notation in brackets.
* `HoldsNumber` : a child holds a number in one of the notations of integers.
* `GivesRange` : an element gives a range of bits in one of the three notations.

## Main results

* `bitRange?_of_spellsRange` : the notation in brackets is read as its range.
* `GivesRange.readBitRange_eq` : and so is every other.
* `readField_of_givesRange` : a field with a name has the range and its number of bits.
-/

namespace RegisterMap

open Numeral (IsDigitRow Spells Surrounds)
open Text (decimalValue? isBlank)
open Xml (Element)

/-! ### Decimal numbers -/

/-- The characters are the decimal digits of a number after any zeros, in whatever scripts. -/
def IsDecimalRow (n : Nat) (cs : List Char) : Prop :=
  ∃ row, IsDigitRow 10 n row ∧ List.Forall₂ (fun c d => decimalValue? c = decimalValue? d) cs row

/-- Decimal digits are read from the first to the last. -/
theorem decimalNumber?_eq_foldlM {cs : List Char} (hcs : cs ≠ []) : decimalNumber? cs =
    (cs.map decimalValue?).foldlM (fun n d => d.map (10 * n + ·)) 0 := by
  have go : ∀ n, ((cs.mapM decimalValue?).map fun ds => ds.foldl (fun n d => 10 * n + d) n) =
      (cs.map decimalValue?).foldlM (fun n d => d.map (10 * n + ·)) n := by
    clear hcs
    induction cs with
    | nil => exact fun _ => rfl
    | cons c cs ih =>
      intro n
      rw [List.mapM_cons, List.map_cons, List.foldlM_cons]
      cases decimalValue? c with
      | none => rfl
      | some d =>
        refine Eq.trans ?_ (ih (10 * n + d))
        cases cs.mapM decimalValue? <;> rfl
  cases cs with
  | nil => exact absurd rfl hcs
  | cons c cs => exact go 0

namespace IsDecimalRow

variable {n : Nat} {cs : List Char}

/-- The characters of a row are decimal digits. -/
theorem exists_decimalValue? (h : IsDecimalRow n cs) {c : Char} (hc : c ∈ cs) :
    ∃ d, decimalValue? c = some d := by
  obtain ⟨row, digits, same⟩ := h
  obtain ⟨r, hr, value⟩ := exists_of_mem_left same hc
  obtain ⟨d, hd, lower⟩ := digits.exists_digitChar (by decide) hr
  rw [value, Numeral.eq_digitChar_of_toLower hd lower]
  exact ⟨d, Text.decimalValue?_digitChar d hd⟩

/-- A row of decimal digits is read as its number. -/
theorem decimalNumber?_eq (h : IsDecimalRow n cs) : decimalNumber? cs = some n := by
  obtain ⟨row, digits, same⟩ := h
  have hcs : cs ≠ [] := by
    rintro rfl
    cases same
    exact digits.ne_nil rfl
  have values : ∀ c ∈ row, ∀ m, (decimalValue? c).map (10 * m + ·) =
      (Numeral.digitValue? 10 c).map (m * 10 + ·) := by
    intro c hc m
    obtain ⟨d, hd, lower⟩ := digits.exists_digitChar (by decide) hc
    rw [Numeral.eq_digitChar_of_toLower hd lower, Text.decimalValue?_digitChar d hd,
      Numeral.digitValue?_digitChar (by decide) hd, Nat.mul_comm]
  rw [decimalNumber?_eq_foldlM hcs, map_eq_map_of_forall₂ same, List.foldlM_map,
    foldlM_congr values, ← Numeral.digitsFrom?_eq_foldlM 10 0 digits.ne_nil
      (digits.underscore_notMem (by decide) (by decide))]
  exact digits.digits? (by decide) (by decide)

end IsDecimalRow

/-- A decimal digit is no blank. -/
theorem isBlank_of_decimalValue? {c : Char} {d : Nat} (h : decimalValue? c = some d) :
    isBlank c = false := by
  have digits : ∀ z ∈ Text.decimalZeros, ∀ i < 10, isBlank (Char.ofNat (z + i)) = false := by
    decide
  obtain ⟨z, hz, -⟩ := Option.map_eq_some_iff.1 h
  have range := List.find?_some hz
  simp only [Bool.and_eq_true, decide_eq_true_eq] at range
  have place : c = Char.ofNat (z + (c.toNat - z)) := by
    rw [Nat.add_sub_cancel' range.1, Char.ofNat_toNat]
  rw [place]
  exact digits z (List.mem_of_find?_eq_some hz) _ (by omega)

/-! ### Ranges in brackets -/

/-- The last and the first bit in decimal digits, in brackets and with a colon between them. Blanks
may stand around the whole and around each number. -/
def SpellsRange (lsb msb : Nat) (text : String) : Prop :=
  ∃ upper lower us ls, IsDecimalRow msb us ∧ Surrounds upper us ∧ IsDecimalRow lsb ls ∧
    Surrounds lower ls ∧ Surrounds text ("[" ++ upper ++ ":" ++ lower ++ "]").toList

section

variable {n lsb msb : Nat} {s : String} {cs : List Char}

theorem IsDecimalRow.toList_strip (row : IsDecimalRow n cs) (text : Surrounds s cs) :
    (Text.strip s).toList = cs := by
  have digits : ∀ c ∈ cs, isBlank c = false := fun c hc =>
    let ⟨_, hd⟩ := row.exists_decimalValue? hc
    isBlank_of_decimalValue? hd
  exact Numeral.toList_strip_of_ends text (fun c hc => digits c (List.mem_of_head? hc))
    fun c hc => digits c (List.mem_of_getLast? hc)

/-- No colon stands among digits and blanks. -/
theorem IsDecimalRow.colon_notMem (row : IsDecimalRow n cs) (text : Surrounds s cs) :
    ':' ∉ s.toList := by
  obtain ⟨front, back, hfront, hback, same⟩ := text
  rw [same, List.mem_append, List.mem_append]
  rintro ((h | h) | h)
  · exact absurd (hfront _ h) (by decide)
  · obtain ⟨d, hd⟩ := row.exists_decimalValue? h
    exact absurd hd (by decide +revert)
  · exact absurd (hback _ h) (by decide)

/-- A text is split at a separator that stands in it once. -/
theorem splitPair?_eq_some {separator : Char} {a b : String}
    (text : s.toList = a.toList ++ separator :: b.toList) (ha : separator ∉ a.toList)
    (hb : separator ∉ b.toList) :
    splitPair? separator s = some ((Text.strip a).toList, (Text.strip b).toList) := by
  rw [splitPair?, text, List.splitOn_append_cons_self_of_not_mem ha, List.splitOn_eq_singleton hb,
    Text.toList_strip, Text.toList_strip]

/-- A range in brackets is read as that range. -/
theorem bitRange?_of_spellsRange (h : SpellsRange lsb msb s) :
    bitRange? (Text.strip s) = some ((lsb : Int), (msb : Int)) := by
  obtain ⟨upper, lower, us, ls, upperRow, upperText, lowerRow, lowerText, text⟩ := h
  have whole : (Text.strip s).toList = '[' :: (upper.toList ++ ':' :: lower.toList) ++ [']'] := by
    have chars : ("[" ++ upper ++ ":" ++ lower ++ "]").toList =
        '[' :: (upper.toList ++ ':' :: lower.toList) ++ [']'] := by simp
    rw [chars] at text
    refine Numeral.toList_strip_of_ends text ?_ ?_
    · exact fun c hc => Option.some.inj hc ▸ by decide
    · intro c hc
      rw [List.getLast?_concat] at hc
      exact Option.some.inj hc ▸ by decide
  have pair : splitPair? ':' (String.ofList (upper.toList ++ ':' :: lower.toList)) =
      some (us, ls) := by
    rw [splitPair?_eq_some String.toList_ofList (upperRow.colon_notMem upperText)
      (lowerRow.colon_notMem lowerText), upperRow.toList_strip upperText,
      lowerRow.toList_strip lowerText]
  simp only [bitRange?, whole, List.cons_append, List.reverse_concat, List.reverse_reverse]
  rw [pair, Option.bind_some, upperRow.decimalNumber?_eq, lowerRow.decimalNumber?_eq]
  rfl

end

/-! ### Fields -/

section

variable {e : Element} {tag : String} {n lsb msb : Nat}

/-- The first child of the tag holds the number in a notation of integers, with blanks around it. -/
def HoldsNumber (e : Element) (tag : String) (n : Nat) : Prop :=
  ∃ child, e.child? tag = some child ∧ ∃ cs, Surrounds child.text cs ∧
    (Spells n cs ∨ ∃ bits, IsDigitRow 2 n bits ∧ cs = '#' :: bits)

theorem HoldsNumber.childInteger?_eq (h : HoldsNumber e tag n) :
    childInteger? e tag = some (n : Int) := by
  obtain ⟨child, found, cs, text, spelled⟩ := h
  have visible : ∀ c ∈ cs, Numeral.IsVisible c := by
    rcases spelled with number | ⟨bits, row, rfl⟩
    · exact number.visible
    · exact List.forall_mem_cons.2 ⟨⟨by decide, by decide⟩, row.visible (by decide) (by decide)⟩
  have stripped := Numeral.toList_strip_of_surrounds text visible
  have read : Numeral.integer? (Text.strip child.text) = some (n : Int) := by
    rcases spelled with number | ⟨bits, row, rfl⟩
    · exact number.integer?_eq (Numeral.surrounds_self stripped)
    · exact row.integer?_hash (Numeral.surrounds_self stripped)
  have nonempty : child.text ≠ "" := by
    intro empty
    have none : Numeral.integer? (Text.strip "") = none := by decide
    rw [empty, none] at read
    cases read
  rw [childInteger?, childText?_eq_some_iff.2 ⟨child, found, nonempty, rfl⟩, Option.bind_some, read]

theorem childInteger?_of_holdsNothing (h : HoldsNothing e tag) : childInteger? e tag = none := by
  rw [childInteger?, childText?_eq_none_iff.2 h, Option.bind_none]

/-- The element gives the bits from one to another: by the first and their number, which may be left
out if there is but one, by both ends in brackets, or by both ends in elements of their own. What
stands in the element besides does not count. -/
inductive GivesRange (e : Element) (lsb msb : Nat) : Prop
  | width (offset : HoldsNumber e "bitOffset" lsb)
      (width : HoldsNumber e "bitWidth" (msb - lsb + 1))
  | bit (offset : HoldsNumber e "bitOffset" lsb) (width : HoldsNothing e "bitWidth")
      (single : msb = lsb)
  | brackets {child : Element} (offset : HoldsNothing e "bitOffset")
      (found : e.child? "bitRange" = some child) (range : SpellsRange lsb msb child.text)
  | ends (offset : HoldsNothing e "bitOffset") (range : HoldsNothing e "bitRange")
      (first : HoldsNumber e "lsb" lsb) (last : HoldsNumber e "msb" msb)

/-- A range of bits is read from whatever notation. -/
theorem GivesRange.readBitRange_eq (h : GivesRange e lsb msb) (order : lsb ≤ msb) (owner : String) :
    readBitRange e owner = .ok ((lsb : Int), (msb : Int)) := by
  unfold readBitRange
  cases h with
  | width offset width =>
    have given : ((msb - lsb + 1 : Nat) : Int) ≠ 0 := by omega
    rw [offset.childInteger?_eq, width.childInteger?_eq]
    simp only [Option.filter_some, decide_eq_true given, if_true, Option.getD_some]
    congr 2
    omega
  | bit offset width single =>
    subst single
    rw [offset.childInteger?_eq, childInteger?_of_holdsNothing width]
    simp
  | @brackets child offset found range =>
    have read := bitRange?_of_spellsRange range
    have nonempty : child.text ≠ "" := by
      intro empty
      have none : bitRange? (Text.strip "") = none := by decide
      rw [empty, none] at read
      cases read
    rw [childInteger?_of_holdsNothing offset,
      childText?_eq_some_iff.2 ⟨child, found, nonempty, rfl⟩]
    simp only [read]
  | ends offset range first last =>
    rw [childInteger?_of_holdsNothing offset, childText?_eq_none_iff.2 range,
      first.childInteger?_eq, last.childInteger?_eq]

/-- **The notations of a range of bits agree.** Whether the range is given by an offset and a width,
by both ends in brackets or by both ends in elements of their own, in whatever notations of the
numbers, it is read with its first and its last bit, and a field with a name has these bits and as
many as there are from the one to the other. -/
theorem readField_of_givesRange (order : lsb ≤ msb) (h : GivesRange e lsb msb) :
    (∀ owner, readBitRange e owner = .ok ((lsb : Int), (msb : Int))) ∧
    ∀ register name, childText? e "name" = some name → ∃ f,
      (readField register e).outcome = .ok f ∧ f.name = name ∧ f.lsb = lsb ∧ f.msb = msb ∧
        f.width = msb - lsb + 1 := by
  refine ⟨h.readBitRange_eq order, fun register name hname => ?_⟩
  obtain ⟨values, outcome⟩ := outcome_readField register e
  rw [outcome, readName_eq_ok.2 hname]
  exact ⟨_, bind_eq_ok_iff.2 ⟨name, rfl, bind_eq_ok_iff.2 ⟨_, h.readBitRange_eq order _, rfl⟩⟩,
    rfl, rfl, rfl, rfl⟩

end

/-- Bits 2 to 7 of a field by offset and width, in brackets with zeros, blanks and a digit of
another script, and by both ends. -/
def modeElements : List Element :=
  [[textElement "bitOffset" "\t0X2", textElement "bitWidth" "#110"],
    [textElement "bitRange" "\n[ 007 : ٢\t] "],
    [textElement "msb" "07", textElement "lsb" "0b010 "]].map fun range =>
      { tag := "field", children := textElement "name" "MODE" :: range }

theorem readField_of_givesRange_mode : modeElements.Forall fun e => GivesRange e 2 7 ∧
    ∃ f, (readField "CTRL" e).outcome = .ok f ∧ f.name = "MODE" ∧ f.lsb = 2 ∧ f.msb = 7 ∧
      f.width = 7 - 2 + 1 := by
  have tab : ∀ c ∈ ['\t'], isBlank c = true := List.all_eq_true.1 rfl
  have space : ∀ c ∈ [' '], isBlank c = true := List.all_eq_true.1 rfl
  have newline : ∀ c ∈ ['\n'], isBlank c = true := List.all_eq_true.1 rfl
  have gives : ∀ e ∈ modeElements, GivesRange e 2 7 := by
    have two : IsDigitRow 10 2 ['2'] := ⟨0, by decide⟩
    have seven : IsDigitRow 10 7 ['0', '0', '7'] := ⟨2, by decide⟩
    refine List.forall_mem_cons.2 ⟨.width ?_ ?_, List.forall_mem_cons.2 ⟨.brackets ?_ rfl ?_,
      List.forall_mem_singleton.2 (.ends ?_ ?_ ?_ ?_)⟩⟩
    · exact ⟨_, rfl, ['0', 'X', '2'], ⟨['\t'], [], tab, nofun, rfl⟩,
        .inl (.hexadecimal (.inr rfl) ⟨0, by decide⟩)⟩
    · exact ⟨_, rfl, ['#', '1', '1', '0'], Numeral.surrounds_self rfl,
        .inr ⟨['1', '1', '0'], ⟨0, by decide⟩, rfl⟩⟩
    · exact nofun
    · exact ⟨" 007 ", " ٢\t", ['0', '0', '7'], ['٢'],
        ⟨_, seven, List.forall₂_same.2 fun _ _ => rfl⟩, ⟨[' '], [' '], space, space, rfl⟩,
        ⟨_, two, .cons (by decide) .nil⟩, ⟨[' '], ['\t'], space, tab, rfl⟩,
        ⟨['\n'], [' '], newline, space, rfl⟩⟩
    · exact nofun
    · exact nofun
    · exact ⟨_, rfl, ['0', 'b', '0', '1', '0'], ⟨[], [' '], nofun, space, rfl⟩,
        .inl (.binary (.inl rfl) ⟨1, by decide⟩)⟩
    · exact ⟨_, rfl, ['0', '7'], Numeral.surrounds_self rfl, .inl (.decimal ⟨1, by decide⟩)⟩
  have name : ∀ e ∈ modeElements, childText? e "name" = some "MODE" := by decide
  refine List.forall_iff_forall_mem.2 fun e he => ⟨gives e he, ?_⟩
  exact (readField_of_givesRange (by decide) (gives e he)).2 "CTRL" "MODE" (name e he)

end RegisterMap
