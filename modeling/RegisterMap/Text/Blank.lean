/-!
# Blank characters

The characters that separate words and surround values in a device description: Unicode white
space and the four ASCII information separators.

## Main definitions

* `isBlank` : the class of blank characters.
* `strip` : a text without the blanks at its two ends.
* `words` : the maximal runs of characters that are not blank.

## Main results

* `strip_eq_self` : a text that neither begins nor ends with a blank is left alone.
* `isBlank_of_mem_words` : the words of a text have no blanks.
-/

namespace RegisterMap.Text

/-- A blank is a Unicode white-space character or one of U+001C to U+001F. -/
def isBlank (c : Char) : Bool :=
  let n := c.toNat
  (0x09 ≤ n && n ≤ 0x0D) || (0x1C ≤ n && n ≤ 0x20) || n == 0x85 || n == 0xA0 || n == 0x1680 ||
    (0x2000 ≤ n && n ≤ 0x200A) || n == 0x2028 || n == 0x2029 || n == 0x202F || n == 0x205F ||
    n == 0x3000

/-- Characters without the blanks in front. -/
def stripStart (cs : List Char) : List Char := cs.dropWhile isBlank

/-- Characters without the blanks at the end. -/
def stripEnd (cs : List Char) : List Char := (cs.reverse.dropWhile isBlank).reverse

/-- Text without the blanks at its two ends. -/
def strip (s : String) : String := String.ofList (stripEnd (stripStart s.toList))

@[simp] theorem toList_strip (s : String) : (strip s).toList = stripEnd (stripStart s.toList) := by
  simp [strip]

theorem stripStart_eq_self {cs : List Char} (h : ∀ c ∈ cs.head?, isBlank c = false) :
    stripStart cs = cs := by
  cases cs with
  | nil => rfl
  | cons c cs => simp [stripStart, h c rfl]

theorem stripEnd_eq_self {cs : List Char} (h : ∀ c ∈ cs.getLast?, isBlank c = false) :
    stripEnd cs = cs := by
  have same : cs.reverse.dropWhile isBlank = cs.reverse := stripStart_eq_self (by simpa using h)
  rw [stripEnd, same, List.reverse_reverse]

/-- Text that neither begins nor ends with a blank is left alone. -/
theorem strip_eq_self {s : String} (first : ∀ c ∈ s.toList.head?, isBlank c = false)
    (last : ∀ c ∈ s.toList.getLast?, isBlank c = false) : strip s = s := by
  rw [strip, stripStart_eq_self first, stripEnd_eq_self last, String.ofList_toList]

/-- The maximal runs of characters that are not blank, in order. -/
def words (s : String) : List String :=
  ((s.toList.splitOnP isBlank).filter (!·.isEmpty)).map String.ofList

/-- No character of a piece between separators is a separator. -/
theorem not_of_mem_splitOnP {p : Char → Bool} {cs piece : List Char} {c : Char}
    (hp : piece ∈ cs.splitOnP p) (hc : c ∈ piece) : p c = false := by
  induction cs generalizing piece with
  | nil => simp_all
  | cons d cs ih =>
    rw [List.splitOnP_cons_eq_if_modifyHead] at hp
    split at hp
    · rcases List.mem_cons.1 hp with rfl | hp
      · simp at hc
      · exact ih hp hc
    · next hd =>
      cases hs : cs.splitOnP p with
      | nil => exact absurd hs (List.splitOnP_ne_nil p cs)
      | cons q qs =>
        rw [hs, List.modifyHead_cons] at hp
        rcases List.mem_cons.1 hp with rfl | hp
        · rcases List.mem_cons.1 hc with rfl | hc
          · simpa using hd
          · exact ih (hs ▸ List.mem_cons_self) hc
        · exact ih (hs ▸ List.mem_cons_of_mem _ hp) hc

/-- The words of a text have no blanks. -/
theorem isBlank_of_mem_words {s w : String} (hw : w ∈ words s) {c : Char} (hc : c ∈ w.toList) :
    isBlank c = false := by
  obtain ⟨cs, hcs, rfl⟩ := List.mem_map.1 hw
  rw [String.toList_ofList] at hc
  exact not_of_mem_splitOnP (List.mem_filter.1 hcs).1 hc

/-- Words of a text with one space between neighbours. -/
def normalizeSpace (s : String) : String := " ".intercalate (words s)

end RegisterMap.Text
