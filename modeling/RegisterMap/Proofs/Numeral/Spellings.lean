import RegisterMap.Proofs.Numeral.Digits

/-!
# Spellings of integers

Device descriptions write integers in decimal or hexadecimal notation. Either spelling of an integer
reads back as the integer, and nothing in it can be mistaken for white space or for the mark of a
binary numeral.

## Main definitions

* `spelledChars` : the characters that spellings are made of.

## Main results

* `decimal_injective` : different integers are printed differently.
* `signed?_style` : a spelling is read as the integer that it spells.
* `integer?_style` : so it is in a device description.
* `strip_style` : a spelling has no blanks at its ends.
-/

namespace RegisterMap.Numeral

open RegisterMap.Text

/-! ### Decimal numerals -/

/-- A printed number other than zero has no leading zero. -/
theorem head?_toDigits_ne {n : Nat} (h : n ≠ 0) : (Nat.toDigits 10 n).head? ≠ some '0' := by
  induction n using Nat.strongRecOn with
  | ind n ih =>
    rw [Nat.toDigits_eq_if (by omega)]
    split
    · next small => interval_cases n <;> simp_all [Nat.digitChar]
    · next large =>
      rw [List.head?_append, Option.or_of_isSome (by simp [Nat.toDigits_ne_nil])]
      exact ih (n / 10) (Nat.div_lt_self (by omega) (by omega)) (by omega)

theorem markBase?_digitChar {d : Nat} (h : d < 10) : markBase? (Nat.digitChar d) = none := by
  interval_cases d <;> rfl

/-- No base mark stands in front of characters that are none. -/
theorem splitMark?_eq_none {cs : List Char} (mark : ∀ m ∈ cs, markBase? m = none) :
    splitMark? cs = none := by
  unfold splitMark?
  split
  · next m cs => rw [mark m (by simp), Option.map_none]
  · next m cs _ => rw [mark m (by simp), Option.map_none]
  · rfl

/-- No base mark stands in front of decimal digits. -/
theorem splitMark?_toDigits (n : Nat) : splitMark? (Nat.toDigits 10 n) = none := by
  refine splitMark?_eq_none fun m hm => ?_
  obtain ⟨d, hd, rfl⟩ := mem_toDigits (by omega) hm
  exact markBase?_digitChar hd

/-- Decimal digits read back. -/
theorem unsigned?_decimal (n : Nat) : unsigned? .marked (Nat.toDigits 10 n) = some n := by
  have digits : digits? 10 (Nat.toDigits 10 n) = some n := digits?_toDigits (by omega) (by omega) n
  simp only [unsigned?, splitMark?_toDigits, digits]
  rcases Nat.eq_zero_or_pos n with rfl | pos
  · rfl
  · simp [Option.filter, head?_toDigits_ne (by omega : n ≠ 0)]

theorem signed?_decimal (n : Int) : signed? .marked (decimal n).toList = some n := by
  have plain : ∀ c : Char, (∀ d < 10, Nat.digitChar d ≠ c) →
      (Nat.toDigits 10 n.natAbs).head? ≠ some c := by
    intro c h first
    obtain ⟨d, hd, rfl⟩ := mem_toDigits (by omega) (List.mem_of_head? first)
    exact h d hd rfl
  rw [decimal, String.toList_ofList]
  exact signed?_sign_append (unsigned?_decimal n.natAbs) (plain '-' (by decide))
    (plain '+' (by decide))

/-- Different integers are printed differently. -/
theorem decimal_injective {m n : Int} (same : decimal m = decimal n) : m = n := by
  have read := signed?_decimal m
  rw [same, signed?_decimal] at read
  exact (Option.some.inj read).symm

/-- A spelling is read as the integer that it spells. -/
theorem signed?_style (style : Style) (n : Int) : signed? .marked (style.text n).toList = some n :=
  match style with
  | .decimal => signed?_decimal n
  | .hexadecimal => signed?_hex n

/-! ### Characters of spellings -/

/-- The characters that spellings are made of: the sign, the mark of hexadecimal notation, and
digits. -/
def spelledChars : List Char := '-' :: 'x' :: (List.range 16).map Nat.digitChar

theorem digitChar_mem_spelledChars {d : Nat} (h : d < 16) : Nat.digitChar d ∈ spelledChars :=
  List.mem_cons_of_mem _ (List.mem_cons_of_mem _ (List.mem_map.2 ⟨d, List.mem_range.2 h, rfl⟩))

theorem mem_spelledChars_of_mem_toDigits {base n : Nat} (hb : 1 < base) (hb' : base ≤ 16) {c : Char}
    (h : c ∈ Nat.toDigits base n) : c ∈ spelledChars := by
  obtain ⟨d, hd, rfl⟩ := mem_toDigits hb h
  exact digitChar_mem_spelledChars (by omega)

theorem mem_spelledChars_of_mem_sign {n : Int} {c : Char} (h : c ∈ sign n) : c ∈ spelledChars := by
  rw [sign] at h
  split at h
  · exact List.mem_singleton.1 h ▸ List.mem_cons_self
  · exact absurd h List.not_mem_nil

theorem mem_spelledChars {style : Style} {n : Int} {c : Char} (h : c ∈ (style.text n).toList) :
    c ∈ spelledChars := by
  cases style with
  | decimal =>
    rw [Style.text, decimal, String.toList_ofList, List.mem_append] at h
    exact h.elim mem_spelledChars_of_mem_sign
      (mem_spelledChars_of_mem_toDigits (by omega) (by omega))
  | hexadecimal =>
    rw [Style.text, hex, String.toList_ofList, List.mem_append, List.mem_cons, List.mem_cons] at h
    rcases h with h | rfl | rfl | h
    · exact mem_spelledChars_of_mem_sign h
    · exact digitChar_mem_spelledChars (d := 0) (by omega)
    · exact List.mem_cons_of_mem _ List.mem_cons_self
    · exact mem_spelledChars_of_mem_toDigits (by omega) (by omega) h

theorem isBlank_of_spelled : ∀ c ∈ spelledChars, isBlank c = false := by
  have all : (spelledChars.all fun c => !isBlank c) = true := by decide
  simpa using all

theorem isSpace_of_spelled : ∀ c ∈ spelledChars, isSpace c = false := by
  have all : (spelledChars.all fun c => !isSpace c) = true := by decide
  simpa using all

theorem plainChar_of_spelled : ∀ c ∈ spelledChars, plainChar c = c := by
  have all : (spelledChars.all fun c => plainChar c == c) = true := by decide
  simpa using all

/-! ### Integers of device descriptions -/

variable (style : Style) (n : Int)

/-- Nothing but white space is trimmed. -/
theorem trimSpace_eq_self {cs : List Char} (h : ∀ c ∈ cs, isSpace c = false) :
    trimSpace cs = cs := by
  have whole : ∀ ds : List Char, (∀ c ∈ ds, isSpace c = false) → ds.dropWhile isSpace = ds := by
    intro ds hds
    cases ds with
    | nil => rfl
    | cons d ds => simp [hds d List.mem_cons_self]
  rw [trimSpace, whole cs h, whole cs.reverse (fun c hc => h c (List.mem_reverse.1 hc)),
    List.reverse_reverse]

/-- A spelling has no blanks at its ends. -/
theorem strip_style : strip (style.text n) = style.text n :=
  strip_eq_self (fun c h => isBlank_of_spelled c (mem_spelledChars (List.mem_of_head? h)))
    (fun c h => isBlank_of_spelled c (mem_spelledChars (List.mem_of_getLast? h)))

theorem style_ne_empty : style.text n ≠ "" := by
  intro empty
  have read := signed?_style style n
  rw [empty] at read
  cases read

theorem read?_style : read? .marked (style.text n).toList = some n := by
  have plain : (style.text n).toList.map plainChar = (style.text n).toList :=
    (List.map_congr_left fun c h => plainChar_of_spelled c (mem_spelledChars h)).trans
      (List.map_id' _)
  rw [read?, plain, trimSpace_eq_self fun c h => isSpace_of_spelled c (mem_spelledChars h),
    signed?_style]

/-- A spelling of an integer is read as the integer in a device description. -/
theorem integer?_style : integer? (style.text n) = some n := by
  unfold integer?
  rw [strip_style]
  split
  · next cs binary =>
    have hash : '#' ∈ (style.text n).toList := binary ▸ List.mem_cons_self
    exact absurd (mem_spelledChars hash) (by decide)
  · rw [read?_style]
    rfl

end RegisterMap.Numeral
