import RegisterMap.Proofs.Numeral.Spellings

/-!
# Notations of integers

Device descriptions write a number in decimal digits, perhaps after zeros, or in hexadecimal or
binary digits after a mark; binary digits may also stand after a hash. Letters are small or capital,
blanks may stand around the whole, and a sign in front. Each notation is read by trying one reading
after the other, and a sign hides from the last of them that what follows is decimal: zeros in front
of signed decimal digits make the digits hexadecimal.

## Main definitions

* `IsDigitRow` : the digits of a number after any zeros, letters small or capital.
* `Spells` : decimal, hexadecimal and binary notation.
* `IsPaddedDecimal` : decimal digits after at least one zero.
* `Surrounds` : a text with blanks around some characters.

## Main results

* `IsDigitRow.digits?` : a row of digits is read as its number.
* `exists_digits?_toDigits` : decimal digits read as hexadecimal ones give more, if there are two.
* `integer?_of_surrounds` : how characters with blanks around them are read.
* `integer?_spelling` : every notation is read as its number, but for signed decimal digits after
  zeros.
-/

namespace RegisterMap.Numeral

open RegisterMap.Text

variable {base n : Nat} {cs : List Char}

/-! ### Rows of digits -/

/-- The characters are the digits of a number after any zeros, letters small or capital. -/
def IsDigitRow (base n : Nat) (cs : List Char) : Prop :=
  ∃ zeros, cs.map Char.toLower = List.replicate zeros '0' ++ Nat.toDigits base n

/-- Only capital letters have other small ones. -/
theorem toLower_eq_self_or (c : Char) : c.toLower = c ∨
    0x41 ≤ c.toNat ∧ c.toNat ≤ 0x5A ∧ c.toLower.toNat = c.toNat + 0x20 := by
  unfold Char.toLower
  split
  · next h =>
    have first : 0x41 ≤ c.toNat := UInt32.le_iff_toNat_le.1 h.1
    have last : c.toNat ≤ 0x5A := UInt32.le_iff_toNat_le.1 h.2
    refine .inr ⟨first, last, (UInt32.toNat_add _ _).trans ?_⟩
    change (c.toNat + 0x20) % 2 ^ 32 = c.toNat + 0x20
    omega
  · exact .inl rfl

/-- A small letter is as good a digit as a capital one. -/
theorem digitValue?_toLower (base : Nat) (c : Char) :
    digitValue? base c.toLower = digitValue? base c := by
  rcases toLower_eq_self_or c with same | ⟨first, last, lower⟩
  · rw [same]
  · grind [digitValue?]

/-- Zeros in front of digits do not change their value. -/
theorem digits?_replicate_append (hb : 1 < base) (zeros : Nat) (hcs : cs ≠ []) (plain : '_' ∉ cs) :
    digits? base (List.replicate zeros '0' ++ cs) = digits? base cs := by
  have zero : digitValue? base '0' = some 0 := by simp [digitValue?, Nat.lt_of_succ_lt hb]
  induction zeros with
  | zero => rfl
  | succ zeros ih =>
    rw [← ih, List.replicate_succ, List.cons_append, digits?, digits?,
      digitsFrom?_eq_foldlM _ _ (by simp) (by simp [plain]),
      digitsFrom?_eq_foldlM _ _ (by simp [hcs]) (by simp [plain]), List.foldlM_cons, zero]
    simp

namespace IsDigitRow

/-- The characters of a row are digits, but for their case. -/
theorem exists_digitChar (row : IsDigitRow base n cs) (hb : 1 < base) {c : Char} (hc : c ∈ cs) :
    ∃ d < base, c.toLower = Nat.digitChar d := by
  obtain ⟨zeros, digits⟩ := row
  have mem := List.mem_map_of_mem (f := Char.toLower) hc
  rw [digits, List.mem_append] at mem
  rcases mem with mem | mem
  · exact ⟨0, by omega, List.eq_of_mem_replicate mem⟩
  · exact mem_toDigits hb mem

theorem ne_nil (row : IsDigitRow base n cs) : cs ≠ [] := by
  rintro rfl
  obtain ⟨zeros, digits⟩ := row
  exact Nat.toDigits_ne_nil (List.append_eq_nil_iff.1 digits.symm).2

theorem underscore_notMem (row : IsDigitRow base n cs) (hb : 1 < base) (hb' : base ≤ 16) :
    '_' ∉ cs := by
  intro h
  obtain ⟨d, hd, same⟩ := row.exists_digitChar hb h
  exact digitChar_ne_underscore (by omega) same.symm

/-- A row of digits is read as its number. -/
theorem digits? (row : IsDigitRow base n cs) (hb : 1 < base) (hb' : base ≤ 16) :
    digits? base cs = some n := by
  have ⟨zeros, digits⟩ := row
  have small : Numeral.digits? base (cs.map Char.toLower) = Numeral.digits? base cs := by
    rw [Numeral.digits?, Numeral.digits?, digitsFrom?_eq_foldlM _ _ row.ne_nil
      (row.underscore_notMem hb hb'), digitsFrom?_eq_foldlM _ _ (by simpa using row.ne_nil) ?_,
      List.foldlM_map]
    · simp only [digitValue?_toLower]
    · rw [digits]
      simp [underscore_notMem_toDigits hb hb']
  rw [← small, digits, digits?_replicate_append hb zeros Nat.toDigits_ne_nil
    (underscore_notMem_toDigits hb hb' n), digits?_toDigits hb hb']

end IsDigitRow

/-- Decimal digits are the same in small and capital letters. -/
theorem eq_digitChar_of_toLower {c : Char} {d : Nat} (hd : d < 10)
    (same : c.toLower = Nat.digitChar d) : c = Nat.digitChar d := by
  rcases toLower_eq_self_or c with own | ⟨first, -, lower⟩
  · exact own.symm.trans same
  · have digit : (Nat.digitChar d).toNat < 0x61 := by interval_cases d <;> decide
    rw [same] at lower
    omega

/-- A row of decimal digits is the number's digits after zeros. -/
theorem IsDigitRow.exists_eq (row : IsDigitRow 10 n cs) :
    ∃ zeros, cs = List.replicate zeros '0' ++ Nat.toDigits 10 n := by
  have ⟨zeros, digits⟩ := row
  refine ⟨zeros, digits ▸ ((List.map_congr_left fun c hc => ?_).trans (List.map_id' cs)).symm⟩
  obtain ⟨d, hd, same⟩ := row.exists_digitChar (by omega) hc
  exact same.trans (eq_digitChar_of_toLower hd same).symm

/-- No base mark stands among decimal digits. -/
theorem IsDigitRow.splitMark?_eq_none (row : IsDigitRow base n cs) (hb : 1 < base)
    (hb' : base ≤ 10) : splitMark? cs = none := by
  refine Numeral.splitMark?_eq_none fun m hm => ?_
  obtain ⟨d, hd, same⟩ := row.exists_digitChar hb hm
  rw [eq_digitChar_of_toLower (by omega) same]
  exact markBase?_digitChar (by omega)

/-- Decimal digits read as hexadecimal ones give another number if there are two of them. -/
theorem exists_digits?_toDigits (n : Nat) :
    ∃ m, digits? 16 (Nat.toDigits 10 n) = some m ∧ n ≤ m ∧ (m = n ↔ n < 10) := by
  induction n using Nat.strongRecOn with
  | ind n ih =>
    rw [Nat.toDigits_eq_if (by omega)]
    split
    · next small =>
      have own : digitValue? 16 (Nat.digitChar n) = some n :=
        digitValue?_digitChar (Nat.le_refl _) (by omega)
      exact ⟨n, by simp [digits?, digitsFrom?, own], Nat.le_refl _, iff_of_true rfl small⟩
    · next large =>
      obtain ⟨m, front, le, -⟩ := ih (n / 10) (Nat.div_lt_self (by omega) (by omega))
      refine ⟨m * 16 + n % 10, ?_, by omega, by omega⟩
      have last : digitValue? 16 (Nat.digitChar (n % 10)) = some (n % 10) :=
        digitValue?_digitChar (Nat.le_refl _) (by omega)
      rw [digits?, digitsFrom?_concat _ _ Nat.toDigits_ne_nil
        (underscore_notMem_toDigits (by omega) (by omega) _) (digitChar_ne_underscore (by omega)),
        ← digits?, front, last]
      rfl

/-! ### Notations -/

/-- The notations of a number: decimal digits, and hexadecimal and binary digits after a mark. -/
inductive Spells (n : Nat) : List Char → Prop
  | decimal {cs : List Char} (row : IsDigitRow 10 n cs) : Spells n cs
  | hexadecimal {mark : Char} {cs : List Char} (hm : mark = 'x' ∨ mark = 'X')
      (row : IsDigitRow 16 n cs) : Spells n ('0' :: mark :: cs)
  | binary {mark : Char} {cs : List Char} (hm : mark = 'b' ∨ mark = 'B')
      (row : IsDigitRow 2 n cs) : Spells n ('0' :: mark :: cs)

/-- The decimal digits of a number after at least one zero. -/
def IsPaddedDecimal (n : Nat) (cs : List Char) : Prop :=
  ∃ zeros, cs = List.replicate (zeros + 1) '0' ++ Nat.toDigits 10 n

/-- A notation without a mark is decimal. -/
theorem Spells.decimal_or_marked (h : Spells n cs) : IsDigitRow 10 n cs ∨
    ∃ base mark rest, 1 < base ∧ base ≤ 16 ∧ mark ∈ ['x', 'X', 'b', 'B'] ∧
      markBase? mark = some base ∧ IsDigitRow base n rest ∧ cs = '0' :: mark :: rest := by
  cases h with
  | decimal row => exact .inl row
  | hexadecimal hm row =>
    refine .inr ⟨16, _, _, by decide, by decide, ?_, ?_, row, rfl⟩ <;>
      rcases hm with rfl | rfl <;> decide
  | binary hm row =>
    refine .inr ⟨2, _, _, by decide, by decide, ?_, ?_, row, rfl⟩ <;>
      rcases hm with rfl | rfl <;> decide

/-- A mark is split off the digits after it. -/
theorem IsDigitRow.splitMark?_cons {mark : Char} (row : IsDigitRow base n cs) (hb : 1 < base)
    (hb' : base ≤ 16) (hm : markBase? mark = some base) :
    splitMark? ('0' :: mark :: cs) = some (base, cs) := by
  rw [splitMark?.eq_2, hm]
  · rfl
  · rintro rest rfl
    exact row.underscore_notMem hb hb' List.mem_cons_self

/-- Zeros before decimal digits are no mark. -/
theorem IsPaddedDecimal.splitMark?_eq_none (padded : IsPaddedDecimal n cs) :
    splitMark? cs = none := by
  obtain ⟨zeros, rfl⟩ := padded
  refine Numeral.splitMark?_eq_none fun m hm => ?_
  rcases List.mem_append.1 hm with hm | hm
  · rw [List.eq_of_mem_replicate hm]
    rfl
  · obtain ⟨d, hd, rfl⟩ := mem_toDigits (by omega) hm
    exact markBase?_digitChar hd

/-- Digits are read in a base that is known. -/
theorem unsigned?_fixed (row : IsDigitRow base n cs) (hb : 1 < base) (hb' : base ≤ 10) :
    unsigned? (.fixed base) cs = some n := by
  simp only [unsigned?, row.splitMark?_eq_none hb hb']
  exact row.digits? hb (by omega)

/-- Without a mark decimal digits are read as such, but for zeros in front of other digits. -/
theorem unsigned?_marked_or (row : IsDigitRow 10 n cs) :
    unsigned? .marked cs = some n ∧ (IsPaddedDecimal n cs → n = 0) ∨
      unsigned? .marked cs = none ∧ IsPaddedDecimal n cs := by
  have read : unsigned? .marked cs = (some n).filter fun m => m == 0 || cs.head? != some '0' := by
    simp only [unsigned?, row.splitMark?_eq_none (by omega) (Nat.le_refl _),
      row.digits? (by omega) (by omega)]
  obtain ⟨_ | zeros, rfl⟩ := row.exists_eq
  · refine .inl ⟨unsigned?_decimal n, ?_⟩
    rintro ⟨zeros, same⟩
    have length := congrArg List.length same
    simp at length
  · rw [read]
    rcases Nat.eq_zero_or_pos n with rfl | positive
    · exact .inl ⟨rfl, fun _ => rfl⟩
    · refine .inr ⟨?_, zeros, rfl⟩
      simp [Option.filter, List.replicate_succ, Nat.ne_of_gt positive]

/-! ### Blanks around a notation -/

/-- The text is some characters with blanks around them. -/
def Surrounds (s : String) (cs : List Char) : Prop :=
  ∃ front back, (∀ c ∈ front, isBlank c = true) ∧ (∀ c ∈ back, isBlank c = true) ∧
    s.toList = front ++ cs ++ back

theorem surrounds_self {s : String} {cs : List Char} (text : s.toList = cs) : Surrounds s cs :=
  ⟨[], [], List.forall_mem_nil _, List.forall_mem_nil _, by simpa using text⟩

/-- A visible ASCII character. -/
def IsVisible (c : Char) : Prop := 0x21 ≤ c.toNat ∧ c.toNat ≤ 0x7E

section Visible

variable {c : Char} (visible : IsVisible c)
include visible

theorem IsVisible.isBlank_eq : isBlank c = false := by
  obtain ⟨first, last⟩ := visible
  grind [isBlank]

theorem IsVisible.isSpace_eq : isSpace c = false := by
  obtain ⟨first, last⟩ := visible
  have space : c ≠ ' ' := by
    rintro rfl
    exact absurd first (by decide)
  grind [isSpace]

theorem IsVisible.plainChar_eq : plainChar c = c :=
  if_pos (Nat.lt_of_le_of_lt visible.2 (by decide))

end Visible

/-- The blanks around characters that neither begin nor end with one are stripped. -/
theorem toList_strip_of_ends {s : String} (h : Surrounds s cs)
    (first : ∀ c ∈ cs.head?, isBlank c = false) (last : ∀ c ∈ cs.getLast?, isBlank c = false) :
    (strip s).toList = cs := by
  obtain ⟨front, back, hfront, hback, text⟩ := h
  have start : stripStart (front ++ (cs ++ back)) = stripStart (cs ++ back) :=
    List.dropWhile_append_of_pos hfront
  have final : stripEnd (cs ++ back) = stripEnd cs := by
    rw [stripEnd, List.reverse_append, List.dropWhile_append_of_pos (by simpa using hback),
      stripEnd]
  rw [toList_strip, text, List.append_assoc, start]
  cases cs with
  | nil =>
    have none : stripStart (back ++ []) = [] := List.dropWhile_append_of_pos hback
    rw [List.nil_append, ← List.append_nil back, none]
    rfl
  | cons c cs =>
    rw [stripStart_eq_self (by simpa using first c rfl), final]
    exact stripEnd_eq_self last

/-- The blanks around visible characters are stripped. -/
theorem toList_strip_of_surrounds {s : String} (h : Surrounds s cs)
    (visible : ∀ c ∈ cs, IsVisible c) : (strip s).toList = cs :=
  toList_strip_of_ends h (fun c hc => (visible c (List.mem_of_head? hc)).isBlank_eq)
    fun c hc => (visible c (List.mem_of_getLast? hc)).isBlank_eq

theorem read?_of_visible (radix : Radix) (visible : ∀ c ∈ cs, IsVisible c) :
    read? radix cs = signed? radix cs := by
  have plain : cs.map plainChar = cs :=
    (List.map_congr_left fun c hc => (visible c hc).plainChar_eq).trans (List.map_id' cs)
  rw [read?, plain, trimSpace_eq_self fun c hc => (visible c hc).isSpace_eq]

/-- Visible characters with blanks around them are read with a marked base if they can be; else as
decimal digits if they are nothing else, and as hexadecimal ones if they are. -/
theorem integer?_of_surrounds {s : String} (h : Surrounds s cs) (visible : ∀ c ∈ cs, IsVisible c)
    (hash : cs.head? ≠ some '#') : integer? s = (signed? .marked cs).or
      (signed? (.fixed (if cs.all isDecimal then 10 else 16)) cs) := by
  unfold integer?
  rw [toList_strip_of_surrounds h visible]
  split
  · exact absurd rfl hash
  · rw [read?_of_visible _ visible, read?_of_visible _ visible, Option.orElse_eq_or]

/-- After a hash binary digits are read. -/
theorem integer?_of_surrounds_hash {s : String} (h : Surrounds s ('#' :: cs))
    (visible : ∀ c ∈ cs, IsVisible c) : integer? s = signed? (.fixed 2) cs := by
  have all : ∀ c ∈ '#' :: cs, IsVisible c :=
    List.forall_mem_cons.2 ⟨⟨by decide, by decide⟩, visible⟩
  unfold integer?
  rw [toList_strip_of_surrounds h all]
  exact read?_of_visible _ visible

/-! ### Reading a notation -/

theorem IsDigitRow.visible (row : IsDigitRow base n cs) (hb : 1 < base) (hb' : base ≤ 16) :
    ∀ c ∈ cs, IsVisible c := by
  intro c hc
  obtain ⟨d, hd, same⟩ := row.exists_digitChar hb hc
  rcases toLower_eq_self_or c with own | ⟨first, last, -⟩
  · have small : d < 16 := by omega
    rw [← own, same]
    constructor <;> interval_cases d <;> decide
  · exact ⟨by omega, by omega⟩

/-- No sign and no hash stands in front of decimal digits. -/
theorem IsDigitRow.head?_ne (row : IsDigitRow base n cs) (hb : 1 < base) (hb' : base ≤ 10) :
    ∀ c ∈ ['#', '+', '-'], cs.head? ≠ some c := by
  intro c hc first
  obtain ⟨d, hd, same⟩ := row.exists_digitChar hb (List.mem_of_head? first)
  obtain rfl := eq_digitChar_of_toLower (by omega) same
  have digit : d < 10 := by omega
  interval_cases d <;> exact absurd hc (by decide)

theorem Spells.visible (h : Spells n cs) : ∀ c ∈ cs, IsVisible c := by
  rcases h.decimal_or_marked with row | ⟨base, mark, rest, hb, hb', hm, -, row, rfl⟩
  · exact row.visible (by omega) (by omega)
  · have marks : ∀ mark ∈ ['x', 'X', 'b', 'B'], IsVisible mark := by simp [IsVisible]
    exact List.forall_mem_cons.2 ⟨⟨by decide, by decide⟩,
      List.forall_mem_cons.2 ⟨marks mark hm, row.visible hb hb'⟩⟩

/-- No sign and no hash stands in front of a notation. -/
theorem Spells.head?_ne (h : Spells n cs) : ∀ c ∈ ['#', '+', '-'], cs.head? ≠ some c := by
  rcases h.decimal_or_marked with row | ⟨base, mark, rest, -, -, -, -, -, rfl⟩
  · exact row.head?_ne (by omega) (Nat.le_refl _)
  · simp

/-- Without a known base only decimal digits after zeros are not read. -/
theorem Spells.unsigned?_or (h : Spells n cs) :
    unsigned? .marked cs = some n ∧ (IsPaddedDecimal n cs → n = 0) ∨
      unsigned? .marked cs = none ∧ IsDigitRow 10 n cs ∧ IsPaddedDecimal n cs := by
  rcases h.decimal_or_marked with row | ⟨base, mark, rest, hb, hb', -, hm, row, rfl⟩
  · exact (unsigned?_marked_or row).imp_right fun ⟨refused, padded⟩ => ⟨refused, row, padded⟩
  · have split := row.splitMark?_cons hb hb' hm
    refine .inl ⟨?_, fun padded => ?_⟩
    · simp only [unsigned?, split]
      exact row.digits? hb hb'
    · cases split.symm.trans padded.splitMark?_eq_none

theorem signed?_plus (radix : Radix) (cs : List Char) :
    signed? radix ('+' :: cs) = (unsigned? radix cs).map fun m : Nat => (m : Int) := by
  rw [signed?.eq_2]
  cases unsigned? radix cs <;> rfl

theorem signed?_minus (radix : Radix) (cs : List Char) :
    signed? radix ('-' :: cs) = (unsigned? radix cs).map fun m : Nat => (-m : Int) := by
  rw [signed?.eq_1]
  cases unsigned? radix cs <;> rfl

/-- Without a sign in front a numeral is read as it is. -/
theorem signed?_of_head? {radix : Radix} (plus : cs.head? ≠ some '+')
    (minus : cs.head? ≠ some '-') :
    signed? radix cs = (unsigned? radix cs).map fun m : Nat => (m : Int) := by
  rw [signed?.eq_3 _ _ (fun rest h => minus (by rw [h, List.head?_cons]))
    (fun rest h => plus (by rw [h, List.head?_cons]))]
  cases unsigned? radix cs <;> rfl

section Reading

variable {s : String}

/-- Every notation is read as its number. -/
theorem Spells.integer?_eq (h : Spells n cs) (text : Surrounds s cs) :
    integer? s = some (n : Int) := by
  have signs := h.head?_ne
  rw [integer?_of_surrounds text h.visible (signs '#' (by decide)),
    signed?_of_head? (signs '+' (by decide)) (signs '-' (by decide)),
    signed?_of_head? (signs '+' (by decide)) (signs '-' (by decide))]
  rcases h.unsigned?_or with ⟨marked, -⟩ | ⟨marked, row, -⟩
  · rw [marked]
    rfl
  · have decimals : cs.all isDecimal = true := by
      refine List.all_eq_true.2 fun c hc => ?_
      obtain ⟨d, hd, same⟩ := row.exists_digitChar (by omega) hc
      rw [eq_digitChar_of_toLower hd same, isDecimal, decimalValue?_digitChar d hd]
      rfl
    rw [marked, decimals, if_pos rfl, unsigned?_fixed row (by omega) (Nat.le_refl _)]
    rfl

/-- After a hash binary digits are read as their number. -/
theorem IsDigitRow.integer?_hash (row : IsDigitRow 2 n cs) (text : Surrounds s ('#' :: cs)) :
    integer? s = some (n : Int) := by
  have signs := row.head?_ne (by decide) (by decide)
  rw [integer?_of_surrounds_hash text (row.visible (by decide) (by decide)),
    signed?_of_head? (signs '+' (by decide)) (signs '-' (by decide)),
    unsigned?_fixed row (by decide) (by decide)]
  rfl

/-- A notation after a sign is read as its number, unless zeros stand before more than one decimal
digit: the sign is no digit, and the digits are read as hexadecimal ones. -/
theorem Spells.integer?_signed {mark : Char} (h : Spells n cs) (hm : mark ∈ ['+', '-'])
    (withSign : Nat → Int)
    (read : ∀ radix cs, signed? radix (mark :: cs) = (unsigned? radix cs).map withSign)
    (text : Surrounds s (mark :: cs)) :
    ∃ m, integer? s = some (withSign m) ∧ (m = n ↔ (IsPaddedDecimal n cs → n < 10)) := by
  have marks : ∀ mark ∈ ['+', '-'], (0x21 ≤ mark.toNat ∧ mark.toNat ≤ 0x7E) ∧ mark ≠ '#' ∧
      isDecimal mark = false :=
    List.forall_mem_cons.2 ⟨by decide, List.forall_mem_singleton.2 (by decide)⟩
  obtain ⟨visible, hash, decimal⟩ := marks mark hm
  rw [integer?_of_surrounds text (List.forall_mem_cons.2 ⟨visible, h.visible⟩)
    (by simpa using hash), read, read]
  rcases h.unsigned?_or with ⟨marked, few⟩ | ⟨marked, row, padded⟩
  · refine ⟨n, by rw [marked]; rfl, iff_of_true rfl fun padded => ?_⟩
    rw [few padded]
    decide
  · obtain ⟨m, value, -, same⟩ := exists_digits?_toDigits n
    have hexadecimal : unsigned? (.fixed 16) cs = some m := by
      simp only [unsigned?, padded.splitMark?_eq_none]
      obtain ⟨zeros, rfl⟩ := padded
      rw [digits?_replicate_append (by decide) _ Nat.toDigits_ne_nil
        (underscore_notMem_toDigits (by decide) (by decide) n), value]
    refine ⟨m, ?_, same.trans ⟨fun small _ => small, fun small => small padded⟩⟩
    rw [marked, List.all_cons, decimal, Bool.false_and, if_neg (by decide), hexadecimal]
    rfl

end Reading

/-- **Notations are read as their numbers.** With blanks around them and whatever the default,
decimal digits after any zeros, hexadecimal digits after their mark in small or capital letters and
binary digits after theirs or after a hash are read as the number that they spell. After a sign they
are, too, except that zeros stand before two or more decimal digits: these are read as another
number. -/
theorem integer?_spelling (n : Nat) (default : Option Int) :
    (∀ cs, Spells n cs →
      (∀ s, Surrounds s cs → (integer? s).or default = some (n : Int)) ∧
      (∀ s, Surrounds s ('+' :: cs) →
        ((integer? s).or default = some (n : Int) ↔ (IsPaddedDecimal n cs → n < 10))) ∧
      (∀ s, Surrounds s ('-' :: cs) →
        ((integer? s).or default = some (-n : Int) ↔ (IsPaddedDecimal n cs → n < 10)))) ∧
    ∀ cs, IsDigitRow 2 n cs → ∀ s, Surrounds s ('#' :: cs) →
      (integer? s).or default = some (n : Int) := by
  refine ⟨fun cs h => ⟨fun s text => ?_, fun s text => ?_, fun s text => ?_⟩,
    fun cs row s text => ?_⟩
  · rw [h.integer?_eq text, Option.some_or]
  · obtain ⟨m, read, same⟩ := h.integer?_signed (by decide) _ signed?_plus text
    rw [read, Option.some_or, ← same, Option.some.injEq, Int.natCast_inj]
  · obtain ⟨m, read, same⟩ := h.integer?_signed (by decide) _ signed?_minus text
    rw [read, Option.some_or, ← same, Option.some.injEq, Int.neg_inj, Int.natCast_inj]
  · rw [row.integer?_hash text, Option.some_or]

theorem integer?_spelling_thirtyOne :
    Spells 31 ['0', 'x', '1', 'F'] ∧ IsPaddedDecimal 31 ['0', '3', '1'] ∧
      integer? "\t-0x1F " = some (-31) ∧ integer? " 031\n" = some 31 ∧
      integer? "+031" ≠ some 31 ∧ integer? "#011111" = some 31 := by
  have marked : Spells 31 ['0', 'x', '1', 'F'] := .hexadecimal (.inl rfl) ⟨0, by decide⟩
  have decimal : Spells 31 ['0', '3', '1'] := .decimal ⟨1, by decide⟩
  have padded : IsPaddedDecimal 31 ['0', '3', '1'] := ⟨0, by decide⟩
  have none_or : ∀ x : Option Int, x.or none = x := fun x => Option.or_none
  obtain ⟨numbers, binary⟩ := integer?_spelling 31 none
  simp only [none_or] at numbers binary
  refine ⟨marked, padded, ?_, ?_, mt ?_ (by decide : ¬31 < 10), ?_⟩
  · have text : Surrounds "\t-0x1F " ['-', '0', 'x', '1', 'F'] :=
      ⟨['\t'], [' '], List.forall_mem_singleton.2 rfl, List.forall_mem_singleton.2 rfl, rfl⟩
    exact ((numbers _ marked).2.2 _ text).2
      fun padded' => absurd padded'.splitMark?_eq_none (by decide)
  · have text : Surrounds " 031\n" ['0', '3', '1'] :=
      ⟨[' '], ['\n'], List.forall_mem_singleton.2 rfl, List.forall_mem_singleton.2 rfl, rfl⟩
    exact (numbers _ decimal).1 _ text
  · exact fun read => ((numbers _ decimal).2.1 _ (surrounds_self rfl)).1 read padded
  · exact binary ['0', '1', '1', '1', '1', '1'] ⟨1, by decide⟩ _ (surrounds_self rfl)

theorem not_forall_integer?_signed : ¬∀ (n : Nat) (cs : List Char), Spells n cs →
    ∀ (s : String) (default : Option Int), Surrounds s ('+' :: cs) →
      (integer? s).or default = some (n : Int) := by
  intro all
  have read := all 10 ['0', '1', '0'] (.decimal ⟨1, by decide⟩) "+010" none (surrounds_self rfl)
  have hexadecimal : integer? "+010" = some 16 := by decide +kernel
  rw [hexadecimal] at read
  cases read

end RegisterMap.Numeral
