import RegisterMap.Nim.Ident
import RegisterMap.Proofs.Numeral.Digits

/-!
# Identifiers made from identifiers

A type name goes through the making of identifiers more than once: the name that is asked for
becomes an identifier, an ending is appended, and the result becomes an identifier again where the
type is declared. Words, which are runs of letters and digits joined by single underscores, come
out as they went in. Only the backticks around a keyword are lost, because what was appended makes
the name another word.

## Main definitions

* `Ident.IsWord` : runs of letters and digits joined by single underscores.
* `Ident.letters` : the identifier made from a text, without backticks.
* `Ident.isQuoted` : the identifier made from a text stands between backticks.
* `withoutBackticks` : a text without its backticks.

## Main results

* `Ident.IsWord.joined_eq` : a word comes out as it went in.
* `Ident.letters_ofText_append` : what is made from an identifier with a word appended.
* `Ident.ofText_ofText_append` : it is the same text but for the backticks.
-/

namespace RegisterMap.Nim

/-- Text without its backticks. -/
def withoutBackticks (s : String) : String := String.ofList (s.toList.filter (· != '\x60'))

theorem withoutBackticks_append (s t : String) :
    withoutBackticks (s ++ t) = withoutBackticks s ++ withoutBackticks t := by
  simp [withoutBackticks]

namespace Ident

/-! ### Runs -/

/-- A run of letters and digits. -/
def IsRun (cs : List Char) : Prop := cs ≠ [] ∧ ∀ c ∈ cs, c.isAlphanum = true

theorem isRun_of_mem_parts {cs part : List Char} (h : part ∈ parts cs) : IsRun part :=
  ⟨ne_nil_of_mem_parts h, fun _ hc => isAlphanum_of_mem_parts h hc⟩

/-- No run goes across a separator. -/
theorem parts_append_cons {c : Char} (hc : c.isAlphanum = false) (before after : List Char) :
    parts (before ++ c :: after) = parts before ++ parts after := by
  rw [parts, List.splitOnP_append_cons before after (by simpa using hc), List.filter_append, parts,
    parts]

theorem parts_nil : parts [] = [] := by
  simp [parts]

theorem parts_run {run : List Char} (h : IsRun run) : parts run = [run] := by
  rw [parts, List.splitOnP_eq_singleton fun c hc => by simp [h.2 c hc]]
  exact List.filter_cons_of_pos (by simpa using h.1)

/-! ### Words -/

/-- Runs of letters and digits, at least one, joined by single underscores. -/
inductive IsWord : List Char → Prop
  | run {cs : List Char} (h : IsRun cs) : IsWord cs
  | join {first rest : List Char} (h : IsRun first) (hr : IsWord rest) :
      IsWord (first ++ '_' :: rest)

namespace IsWord

variable {cs ds : List Char}

theorem ne_nil (h : IsWord cs) : cs ≠ [] := by
  cases h with
  | run h => exact h.1
  | join => simp

/-- Joined runs are a word. -/
theorem intercalate : (runs : List (List Char)) → runs ≠ [] → (∀ run ∈ runs, IsRun run) →
    IsWord (['_'].intercalate runs)
  | [], ne, _ => absurd rfl ne
  | [first], _, h => by
      rw [List.intercalate_singleton]
      exact run (h first List.mem_cons_self)
  | first :: next :: runs, _, h => by
      rw [List.intercalate_cons_cons, List.append_assoc, List.singleton_append]
      have rest := intercalate (next :: runs) (List.cons_ne_nil _ _) fun other ho =>
        h other (List.mem_cons_of_mem _ ho)
      exact join (h first List.mem_cons_self) rest

/-- A word is what its runs joined are. -/
theorem joined_eq (h : IsWord cs) : joined cs = cs := by
  induction h with
  | run h => rw [joined, parts_run h, List.intercalate_singleton]
  | @join first rest h hr ih =>
    have runs : parts (first ++ '_' :: rest) = first :: parts rest := by
      rw [parts_append_cons (by decide), parts_run h, List.singleton_append]
    rw [joined, runs]
    cases hp : parts rest with
    | nil =>
      rw [joined, hp, List.intercalate_nil] at ih
      exact absurd ih.symm hr.ne_nil
    | cons next others =>
      rw [List.intercalate_cons_cons, ← hp, ← joined, ih, List.append_assoc,
        List.singleton_append]

theorem isWordChar (h : IsWord cs) {c : Char} (hc : c ∈ cs) : isWordChar c = true :=
  isWordChar_of_mem_joined (h.joined_eq.symm ▸ hc)

/-- No backtick is in a word. -/
theorem filter_eq_self (h : IsWord cs) : cs.filter (· != '\x60') = cs := by
  refine List.filter_eq_self.2 fun c hc => ?_
  have word := h.isWordChar hc
  rw [bne_iff_ne]
  rintro rfl
  cases word

theorem append (h : IsWord cs) (h' : IsWord ds) : IsWord (cs ++ '_' :: ds) := by
  induction h with
  | run h => exact join h h'
  | join h _ ih =>
    rw [List.append_assoc, List.cons_append]
    exact join h ih

/-- A word stays one with a letter in front. -/
theorem cons (h : IsWord cs) {c : Char} (hc : c.isAlphanum = true) : IsWord (c :: cs) := by
  have longer : ∀ {ds : List Char}, IsRun ds → IsRun (c :: ds) := fun hd =>
    ⟨List.cons_ne_nil _ _, List.forall_mem_cons.2 ⟨hc, hd.2⟩⟩
  cases h with
  | run h => exact run (longer h)
  | join h hr => exact join (longer h) hr

end IsWord

theorem isWord_decimal (n : Nat) : IsWord (Numeral.decimal n).toList := by
  rw [Numeral.toList_decimal_natCast]
  refine .run ⟨Nat.toDigits_ne_nil, fun c hc => ?_⟩
  simp [Char.isAlphanum, Nat.isDigit_of_mem_toDigits (by omega) (by omega) hc]

/-! ### Letters of an identifier -/

/-- The identifier made from a text, without backticks. -/
def letters (s : String) : List Char := withLetterFirst (joined s.toList)

/-- The identifier made from a text stands between backticks. -/
def isQuoted (s : String) : Bool := isKeyword (letters s)

theorem toList_ofText (s : String) : (ofText s).toList = protect (letters s) :=
  String.toList_ofList

/-- The letters of an identifier are a word that does not begin with a digit. -/
theorem letters_spec (s : String) :
    IsWord (letters s) ∧ ∃ c cs, letters s = c :: cs ∧ c.isDigit = false := by
  unfold letters
  cases h : joined s.toList with
  | nil => exact ⟨.run ⟨by simp [withLetterFirst], by simp [withLetterFirst]⟩, 'x', [], rfl, rfl⟩
  | cons c cs =>
    have runs : parts s.toList ≠ [] := by
      intro none
      rw [joined, none, List.intercalate_nil] at h
      cases h
    have word : IsWord (c :: cs) :=
      h ▸ IsWord.intercalate _ runs fun _ => isRun_of_mem_parts
    rw [withLetterFirst]
    split
    · exact ⟨word.cons (by decide), 'x', c :: cs, rfl, rfl⟩
    · next digit => exact ⟨word, c, cs, rfl, by simpa using digit⟩

/-- Backticks are in no run. -/
theorem parts_protect (cs : List Char) : parts (protect cs) = parts cs := by
  rw [protect]
  split
  · rw [parts_append_cons (by decide), parts_nil, List.append_nil, ← List.nil_append ('\x60' :: cs),
      parts_append_cons (by decide), parts_nil, List.nil_append]
  · rfl

/-- What is made from an identifier with a word appended: the same letters and the word. -/
theorem letters_ofText_append (s : String) {word : String} (h : IsWord word.toList) :
    letters (ofText s ++ "_" ++ word) = letters s ++ '_' :: word.toList := by
  have mark : "_".toList = ['_'] := rfl
  obtain ⟨own, c, cs, first, digit⟩ := letters_spec s
  have runs : parts (ofText s ++ "_" ++ word).toList = parts (letters s ++ '_' :: word.toList) := by
    rw [String.toList_append, String.toList_append, mark, List.append_assoc, List.singleton_append,
      toList_ofText, parts_append_cons (by decide), parts_protect, parts_append_cons (by decide)]
  have whole : joined (ofText s ++ "_" ++ word).toList = letters s ++ '_' :: word.toList := by
    rw [joined, runs, ← joined, (own.append h).joined_eq]
  rw [letters, whole, first, List.cons_append, withLetterFirst, if_neg (by simp [digit])]

/-! ### Keywords -/

/-- No keyword goes on after its first character to what Nim compares of the ending. -/
def EndsNoKeyword (ending : List Char) : Prop :=
  ∀ k ∈ keywords, ¬ (ending.map Char.toLower).filter (· != '_') <:+ k.toList.tail

instance (ending : List Char) : Decidable (EndsNoKeyword ending) :=
  inferInstanceAs (Decidable (∀ k ∈ keywords, _))

/-- The ending of an identifier shows that it is not a keyword. -/
theorem isKeyword_append {cs ending : List Char} (hc : cs ≠ []) (h : EndsNoKeyword ending) :
    isKeyword (cs ++ ending) = false := by
  obtain ⟨c, cs, rfl⟩ := List.exists_cons_of_ne_nil hc
  refine Bool.eq_false_iff.2 fun keyword => ?_
  refine h _ (List.contains_iff_mem.1 keyword) ?_
  rw [String.toList_ofList, List.cons_append, fold, List.tail_cons, List.map_append,
    List.filter_append]
  exact List.suffix_append _ _

theorem protect_eq_self_iff {cs : List Char} : protect cs = cs ↔ isKeyword cs = false := by
  rw [protect]
  split
  · next keyword =>
    have longer : '\x60' :: cs ++ ['\x60'] ≠ cs := fun h => by
      have lengths := congrArg List.length h
      simp only [List.length_append, List.length_cons, List.length_nil] at lengths
      omega
    exact iff_of_false longer (by simp [keyword])
  · next other => simp [other]

/-- An identifier has no other characters than letters, digits, underscores and backticks. -/
theorem notMem_ofText {s : String} {c : Char} (other : isWordChar c = false)
    (unquoted : c ≠ '\x60') : c ∉ (ofText s).toList := by
  have letters : c ∉ letters s := fun mem =>
    Bool.false_ne_true (other.symm.trans ((letters_spec s).1.isWordChar mem))
  rw [toList_ofText, protect]
  split <;> simp [letters, unquoted]

theorem filter_protect {cs : List Char} (h : IsWord cs) :
    (protect cs).filter (· != '\x60') = cs := by
  rw [protect]
  split
  · rw [List.filter_append, List.filter_cons_of_neg (by simp), h.filter_eq_self]
    exact List.append_nil _
  · exact h.filter_eq_self

/-- **Identifiers made twice.** An identifier with a word appended becomes an identifier again by
losing its backticks, which it has if the text that it was made from reads as a keyword. -/
theorem ofText_ofText_append (s : String) {word : String} (hw : IsWord word.toList)
    (h : isKeyword (letters s ++ '_' :: word.toList) = false) :
    ofText (ofText s ++ "_" ++ word) = withoutBackticks (ofText s ++ "_" ++ word) ∧
      (ofText (ofText s ++ "_" ++ word) = ofText s ++ "_" ++ word ↔ isQuoted s = false) := by
  have mark : "_".toList = ['_'] := rfl
  have written : (ofText s ++ "_" ++ word).toList = protect (letters s) ++ '_' :: word.toList := by
    rw [String.toList_append, String.toList_append, mark, toList_ofText, List.append_assoc,
      List.singleton_append]
  have again : ofText (ofText s ++ "_" ++ word) =
      String.ofList (letters s ++ '_' :: word.toList) := by
    rw [← String.toList_inj, toList_ofText, letters_ofText_append s hw, protect_eq_self_iff.2 h,
      String.toList_ofList]
  have own := (letters_spec s).1
  constructor
  · have kept : ('_' :: word.toList).filter (· != '\x60') = '_' :: word.toList := by
      refine List.filter_eq_self.2 fun c hc => ?_
      have joined := (own.append hw).isWordChar (List.mem_append_right _ hc)
      rw [bne_iff_ne]
      rintro rfl
      cases joined
    rw [again, withoutBackticks, written, List.filter_append, filter_protect own, kept]
  · rw [again, ← String.toList_inj, String.toList_ofList, written, List.append_left_inj, eq_comm,
      protect_eq_self_iff, isQuoted]

end Ident

end RegisterMap.Nim
