import Mathlib.Computability.Language
import Mathlib.Data.List.Chain
import Mathlib.Data.List.DropRight
import RegisterMap.Proofs.Nim.Idents

/-!
# Grammar of identifiers

An identifier is made in steps: characters that may not stand in one become underscores, several
underscores in a row become one, those at the ends are dropped, a letter is put in front of a digit,
and backticks around a keyword. A later step might undo what an earlier one is for: the letter in
front might complete a keyword, and backticks may not stand in an identifier. This file gives
identifiers a grammar that does not mention the steps. Every text becomes a text of the grammar, and
the texts of the grammar are the ones that the steps leave alone. A keyword between backticks is
among them, since its backticks are dropped first and put back last.

## Main definitions

* `Ident.grammar` : the words of which identifiers consist, as a regular language.
* `Ident.IsIdentifier` : such a word, between backticks if it reads as a keyword.
* `Ident.replaceOthers`, `Ident.collapse`, `Ident.trim` : the steps that leave the word.

## Main results

* `Ident.mem_grammar_iff` : words that begin with a letter.
* `Ident.trim_collapse_replaceOthers` : the steps join the runs of a text.
* `Ident.ofText_isIdentifier` : the identifiers are the texts that come out as they went in.
-/

open scoped Computability

namespace RegisterMap.Nim.Ident

/-! ### Words as a regular language -/

/-- One character of a class. -/
def oneOf (p : Char → Bool) : Language Char := {cs | ∃ c, p c = true ∧ cs = [c]}

/-- Runs of letters and digits that each follow an underscore. -/
def laterRuns : Language Char :=
  (oneOf (· == '_') * (oneOf Char.isAlphanum * (oneOf Char.isAlphanum)∗))∗

/-- A letter, then letters and digits, then runs that each follow an underscore. -/
def grammar : Language Char := oneOf Char.isAlpha * (oneOf Char.isAlphanum)∗ * laterRuns

theorem mem_kstar_oneOf {p : Char → Bool} {cs : List Char} :
    cs ∈ (oneOf p)∗ ↔ ∀ c ∈ cs, p c = true := by
  rw [Language.mem_kstar]
  constructor
  · rintro ⟨pieces, rfl, single⟩ c hc
    obtain ⟨piece, hp, hc⟩ := List.mem_flatten.1 hc
    obtain ⟨d, hd, rfl⟩ := single piece hp
    exact List.mem_singleton.1 hc ▸ hd
  · intro all
    refine ⟨cs.map ([·]), (List.flatMap_singleton' cs).symm, fun piece hp => ?_⟩
    obtain ⟨c, hc, rfl⟩ := List.mem_map.1 hp
    exact ⟨c, all c hc, rfl⟩

theorem mem_oneOf_mul {p : Char → Bool} {l : Language Char} {cs : List Char} :
    cs ∈ oneOf p * l ↔ ∃ c ds, p c = true ∧ ds ∈ l ∧ cs = c :: ds := by
  rw [Language.mem_mul]
  constructor
  · rintro ⟨-, ⟨c, hc, rfl⟩, ds, hd, rfl⟩
    exact ⟨c, ds, hc, hd, rfl⟩
  · rintro ⟨c, ds, hc, hd, rfl⟩
    exact ⟨[c], ⟨c, hc, rfl⟩, ds, hd, rfl⟩

theorem mem_run_iff {cs : List Char} :
    cs ∈ oneOf Char.isAlphanum * (oneOf Char.isAlphanum)∗ ↔ IsRun cs := by
  rw [mem_oneOf_mul]
  constructor
  · rintro ⟨c, ds, hc, hd, rfl⟩
    exact ⟨List.cons_ne_nil _ _, List.forall_mem_cons.2 ⟨hc, mem_kstar_oneOf.1 hd⟩⟩
  · rintro ⟨ne, all⟩
    obtain ⟨c, ds, rfl⟩ := List.exists_cons_of_ne_nil ne
    obtain ⟨hc, hd⟩ := List.forall_mem_cons.1 all
    exact ⟨c, ds, hc, mem_kstar_oneOf.2 hd, rfl⟩

/-- Later runs are none, or an underscore with a run and the runs after it. -/
theorem mem_laterRuns_iff {cs : List Char} : cs ∈ laterRuns ↔
    cs = [] ∨ ∃ run rest, IsRun run ∧ rest ∈ laterRuns ∧ cs = '_' :: (run ++ rest) := by
  have unfolded := Language.one_add_self_mul_kstar_eq_kstar
    (oneOf (· == '_') * (oneOf Char.isAlphanum * (oneOf Char.isAlphanum)∗))
  rw [laterRuns, ← unfolded, Language.mem_add, Language.mem_one, unfolded, mul_assoc,
    mem_oneOf_mul]
  refine or_congr_right ⟨?_, ?_⟩
  · rintro ⟨c, ds, mark, hd, rfl⟩
    obtain ⟨run, hr, rest, hrest, rfl⟩ := Language.mem_mul.1 hd
    exact ⟨run, rest, mem_run_iff.1 hr, hrest, by rw [eq_of_beq mark]⟩
  · rintro ⟨run, rest, hr, hrest, rfl⟩
    exact ⟨'_', run ++ rest, rfl, Language.append_mem_mul (mem_run_iff.2 hr) hrest, rfl⟩

/-- A word is a run and the runs after it. -/
theorem isWord_iff {cs : List Char} :
    IsWord cs ↔ ∃ run rest, IsRun run ∧ rest ∈ laterRuns ∧ cs = run ++ rest := by
  constructor
  · intro h
    induction h with
    | run h => exact ⟨_, [], h, mem_laterRuns_iff.2 (.inl rfl), (List.append_nil _).symm⟩
    | join h _ ih =>
      obtain ⟨next, rest, hn, hrest, rfl⟩ := ih
      exact ⟨_, _, h, mem_laterRuns_iff.2 (.inr ⟨next, rest, hn, hrest, rfl⟩), rfl⟩
  · rintro ⟨run, rest, hr, ⟨pieces, rfl, hp⟩, rfl⟩
    induction pieces generalizing run with
    | nil => simpa using IsWord.run hr
    | cons piece pieces ih =>
      obtain ⟨first, others⟩ := List.forall_mem_cons.1 hp
      obtain ⟨c, next, mark, hn, rfl⟩ := mem_oneOf_mul.1 first
      rw [eq_of_beq mark, List.flatten_cons, List.cons_append]
      exact .join hr (ih next (mem_run_iff.1 hn) others)

/-- A letter is a letter or digit that is no digit. -/
theorem isAlpha_iff (c : Char) : c.isAlpha = true ↔ c.isAlphanum = true ∧ c.isDigit = false := by
  have alphanum : c.isAlphanum = (c.isAlpha || c.isDigit) := rfl
  have alpha : c.isAlpha = (decide (c.val ≥ 65 ∧ c.val ≤ 90) ||
    (decide (c.val ≥ 97) && decide (c.val ≤ 122))) := rfl
  have digit : c.isDigit = (decide (c.val ≥ 48) && decide (c.val ≤ 57)) := rfl
  grind

/-- The words that begin with a letter. -/
theorem mem_grammar_iff {cs : List Char} :
    cs ∈ grammar ↔ IsWord cs ∧ ∃ c ds, cs = c :: ds ∧ c.isDigit = false := by
  rw [grammar, mul_assoc, mem_oneOf_mul, isWord_iff]
  constructor
  · rintro ⟨c, ds, hc, hd, rfl⟩
    obtain ⟨others, ho, rest, hrest, rfl⟩ := Language.mem_mul.1 hd
    have run : IsRun (c :: others) := ⟨List.cons_ne_nil _ _,
      List.forall_mem_cons.2 ⟨((isAlpha_iff c).1 hc).1, mem_kstar_oneOf.1 ho⟩⟩
    exact ⟨⟨_, rest, run, hrest, rfl⟩, c, _, rfl, ((isAlpha_iff c).1 hc).2⟩
  · rintro ⟨⟨run, rest, ⟨ne, all⟩, hrest, rfl⟩, c, ds, split, digit⟩
    obtain ⟨d, others, rfl⟩ := List.exists_cons_of_ne_nil ne
    obtain ⟨rfl, rfl⟩ := List.cons.inj split
    obtain ⟨hd, ho⟩ := List.forall_mem_cons.1 all
    exact ⟨d, others ++ rest, (isAlpha_iff d).2 ⟨hd, digit⟩,
      Language.append_mem_mul (mem_kstar_oneOf.2 ho) hrest, rfl⟩

/-! ### Steps -/

/-- The characters with an underscore for each that is no letter, digit or underscore. -/
def replaceOthers (cs : List Char) : List Char := cs.map fun c => if isWordChar c then c else '_'

/-- The characters with one underscore for several in a row. -/
def collapse : List Char → List Char
  | [] => []
  | c :: cs => if c = '_' ∧ cs.head? = some '_' then collapse cs else c :: collapse cs

/-- The characters without underscores at the ends. -/
def trim (cs : List Char) : List Char := (cs.dropWhile (· == '_')).rdropWhile (· == '_')

/-- A separator in front does not count for the runs. -/
theorem parts_cons_of_not_isAlphanum {c : Char} (hc : c.isAlphanum = false) (cs : List Char) :
    parts (c :: cs) = parts cs := by
  rw [← List.nil_append (c :: cs), parts_append_cons hc, parts_nil, List.nil_append]

/-- A letter or digit in front of another makes the first run longer. -/
theorem parts_cons_cons {c d : Char} (hc : c.isAlphanum = true) (hd : d.isAlphanum = true)
    (cs : List Char) : parts (c :: d :: cs) = (parts (d :: cs)).modifyHead (c :: ·) := by
  obtain ⟨run, runs, split⟩ := List.exists_cons_of_ne_nil (List.splitOnP_ne_nil (!·.isAlphanum) cs)
  simp [parts, List.splitOnP_cons_eq_if_modifyHead, hc, hd, split]

/-- The runs behind a character depend on the runs after it and on whether one begins there. -/
theorem parts_cons_congr {cs ds : List Char} (head : cs.head? = ds.head?)
    (h : parts cs = parts ds) (c : Char) : parts (c :: cs) = parts (c :: ds) := by
  cases hc : c.isAlphanum with
  | false => rw [parts_cons_of_not_isAlphanum hc, parts_cons_of_not_isAlphanum hc, h]
  | true =>
    cases cs with
    | nil => rw [List.head?_eq_none_iff.1 head.symm]
    | cons d cs =>
      obtain ⟨ds, rfl⟩ := List.head?_eq_some_iff.1 head.symm
      cases hd : d.isAlphanum with
      | false =>
        have ends : ∀ rest, parts (c :: d :: rest) = parts [c] ++ parts rest :=
          parts_append_cons hd [c]
        rw [parts_cons_of_not_isAlphanum hd, parts_cons_of_not_isAlphanum hd] at h
        rw [ends, ends, h]
      | true => rw [parts_cons_cons hc hd, parts_cons_cons hc hd, h]

theorem parts_replaceOthers (cs : List Char) : parts (replaceOthers cs) = parts cs := by
  have split : (replaceOthers cs).splitOnP (!·.isAlphanum) = cs.splitOnP (!·.isAlphanum) := by
    induction cs with
    | nil => rfl
    | cons c cs ih =>
      have mark : ('_').isAlphanum = false := by decide
      rw [replaceOthers, List.map_cons, ← replaceOthers, List.splitOnP_cons_eq_if_modifyHead,
        List.splitOnP_cons_eq_if_modifyHead, ih]
      cases hc : c.isAlphanum with
      | true => simp [isWordChar, hc]
      | false =>
        by_cases hm : c = '_'
        · simp [hm, mark]
        · simp [isWordChar, hc, hm, mark]
  rw [parts, split, ← parts]

theorem head?_collapse (cs : List Char) : (collapse cs).head? = cs.head? := by
  induction cs with
  | nil => rfl
  | cons c cs ih =>
    rw [collapse]
    split
    · next again => rw [ih, again.2, again.1, List.head?_cons]
    · rfl

theorem parts_collapse (cs : List Char) : parts (collapse cs) = parts cs := by
  induction cs with
  | nil => rfl
  | cons c cs ih =>
    rw [collapse]
    split
    · next again => rw [again.1, parts_cons_of_not_isAlphanum (by decide), ih]
    · exact parts_cons_congr (head?_collapse cs) ih c

theorem parts_trim (cs : List Char) : parts (trim cs) = parts cs := by
  have front : ∀ cs, parts (cs.dropWhile (· == '_')) = parts cs := by
    intro cs
    induction cs with
    | nil => rfl
    | cons c cs ih =>
      rw [List.dropWhile_cons]
      split
      · next mark => rw [ih, eq_of_beq mark, parts_cons_of_not_isAlphanum (by decide)]
      · rfl
  have back : ∀ cs, parts (cs.rdropWhile (· == '_')) = parts cs := by
    intro cs
    induction cs using List.reverseRecOn with
    | nil => rfl
    | append_singleton cs c ih =>
      rw [List.rdropWhile_concat]
      split
      · next mark =>
        rw [ih, eq_of_beq mark, parts_append_cons (by decide), parts_nil, List.append_nil]
      · rfl
  rw [trim, back, front]

theorem isInfix_trim (cs : List Char) : trim cs <:+: cs := by
  have back := List.rdropWhile_prefix (· == '_') (cs.dropWhile (· == '_'))
  exact back.isInfix.trans (List.dropWhile_suffix _).isInfix

theorem head?_trim (cs : List Char) : (trim cs).head? ≠ some '_' := by
  intro mark
  obtain ⟨tail, split⟩ := List.head?_eq_some_iff.1 mark
  obtain ⟨dropped, whole⟩ := List.rdropWhile_prefix (· == '_') (cs.dropWhile (· == '_'))
  have first := List.head?_dropWhile_not (· == '_') cs
  rw [← whole, ← trim, split] at first
  cases first

theorem getLast?_trim (cs : List Char) : (trim cs).getLast? ≠ some '_' := by
  intro mark
  obtain ⟨ne, last⟩ := List.mem_getLast?_eq_getLast mark
  exact List.rdropWhile_last_not (· == '_') _ ne (beq_iff_eq.2 last.symm)

theorem sublist_collapse (cs : List Char) : (collapse cs).Sublist cs := by
  induction cs with
  | nil => exact .slnil
  | cons c cs ih =>
    rw [collapse]
    split
    · exact ih.cons c
    · exact ih.cons_cons c

/-- No underscore follows another. -/
def NoDouble (cs : List Char) : Prop := cs.IsChain fun c d => ¬ (c = '_' ∧ d = '_')

theorem noDouble_collapse (cs : List Char) : NoDouble (collapse cs) := by
  induction cs with
  | nil => exact .nil
  | cons c cs ih =>
    rw [collapse]
    split
    · exact ih
    · next other =>
      refine List.isChain_cons.2 ⟨fun d hd => ?_, ih⟩
      rw [head?_collapse] at hd
      rintro ⟨rfl, rfl⟩
      exact other ⟨rfl, hd⟩

theorem isAlphanum_of_ne {c : Char} (h : isWordChar c = true) (ne : c ≠ '_') :
    c.isAlphanum = true := by
  simpa [isWordChar, ne] using h

/-- Letters, digits and single underscores with none at the ends are a word. -/
theorem isWord_of_noDouble : ∀ cs : List Char, cs ≠ [] → (∀ c ∈ cs, isWordChar c = true) →
    NoDouble cs → cs.head? ≠ some '_' → cs.getLast? ≠ some '_' → IsWord cs
  | [], ne, _, _, _, _ => absurd rfl ne
  | [c], _, all, _, first, _ => by
      have alphanum : c.isAlphanum = true :=
        isAlphanum_of_ne (all c List.mem_cons_self) fun h => first (congrArg some h)
      exact .run ⟨List.cons_ne_nil _ _, List.forall_mem_singleton.2 alphanum⟩
  | c :: d :: cs, _, all, single, first, last => by
      obtain ⟨hc, others⟩ := List.forall_mem_cons.1 all
      obtain ⟨-, tail⟩ := List.isChain_cons_cons.1 single
      have alphanum : c.isAlphanum = true :=
        isAlphanum_of_ne hc fun h => first (congrArg some h)
      rw [List.getLast?_cons_cons] at last
      by_cases mark : d = '_'
      · -- the run ends here, and another begins behind the underscore
        subst mark
        obtain ⟨-, rest⟩ := List.forall_mem_cons.1 others
        obtain ⟨next, after⟩ := List.isChain_cons.1 tail
        have ne : cs ≠ [] := by
          rintro rfl
          exact last rfl
        have begins : cs.head? ≠ some '_' := fun h => next '_' h ⟨rfl, rfl⟩
        have ends : cs.getLast? ≠ some '_' := by
          obtain ⟨e, es, rfl⟩ := List.exists_cons_of_ne_nil ne
          rwa [List.getLast?_cons_cons] at last
        exact .join ⟨List.cons_ne_nil c [], List.forall_mem_singleton.2 alphanum⟩
          (isWord_of_noDouble cs ne rest after begins ends)
      · have begins : (d :: cs).head? ≠ some '_' := by simpa using mark
        exact (isWord_of_noDouble (d :: cs) (List.cons_ne_nil _ _) others tail begins last).cons
          alphanum

/-- **The steps to a word.** Replacing all other characters by underscores, collapsing these and
dropping them at the ends joins the runs of a text by single underscores. -/
theorem trim_collapse_replaceOthers (cs : List Char) :
    trim (collapse (replaceOthers cs)) = joined cs := by
  have written : ∀ c ∈ collapse (replaceOthers cs), isWordChar c = true := by
    intro c hc
    obtain ⟨d, -, rfl⟩ := List.mem_map.1 ((sublist_collapse _).mem hc)
    split
    · assumption
    · decide
  have single : NoDouble (trim (collapse (replaceOthers cs))) := by
    obtain ⟨front, back, whole⟩ := isInfix_trim (collapse (replaceOthers cs))
    have all := noDouble_collapse (replaceOthers cs)
    rw [← whole] at all
    exact all.left_of_append.right_of_append
  have runs : parts (trim (collapse (replaceOthers cs))) = parts cs := by
    rw [parts_trim, parts_collapse, parts_replaceOthers]
  rcases eq_or_ne (trim (collapse (replaceOthers cs))) [] with none | ne
  · rw [joined, ← runs, none, parts_nil, List.intercalate_nil]
  · have word := isWord_of_noDouble _ ne (fun c hc => written c ((isInfix_trim _).mem hc)) single
      (head?_trim _) (getLast?_trim _)
    rw [← word.joined_eq, joined, runs, ← joined]

/-! ### Identifiers -/

/-- A word of the grammar, between backticks if it reads as a keyword. -/
inductive IsIdentifier : List Char → Prop
  | plain {cs : List Char} (word : cs ∈ grammar) (other : isKeyword cs = false) : IsIdentifier cs
  | quoted {cs : List Char} (word : cs ∈ grammar) (keyword : isKeyword cs = true) :
      IsIdentifier ('\x60' :: cs ++ ['\x60'])

theorem isIdentifier_iff {cs : List Char} :
    IsIdentifier cs ↔ ∃ word ∈ grammar, cs = protect word := by
  constructor
  · rintro (⟨word, other⟩ | ⟨word, keyword⟩)
    · exact ⟨_, word, (protect_eq_self_iff.2 other).symm⟩
    · exact ⟨_, word, by rw [protect, if_pos keyword]⟩
  · rintro ⟨word, mem, rfl⟩
    rw [protect]
    split
    · next keyword => exact .quoted mem keyword
    · next other => exact .plain mem (Bool.eq_false_iff.2 other)

theorem letters_mem_grammar (s : String) : letters s ∈ grammar :=
  mem_grammar_iff.2 (letters_spec s)

/-- The letters of an identifier are its word, whether or not it stands between backticks. -/
theorem letters_of_protect {s : String} {word : List Char} (h : s.toList = protect word)
    (mem : word ∈ grammar) : letters s = word := by
  obtain ⟨own, c, cs, split, digit⟩ := mem_grammar_iff.1 mem
  rw [letters, joined, h, parts_protect, ← joined, own.joined_eq, split, withLetterFirst,
    if_neg (by simp [digit])]

/-- The texts that come out as they went in. -/
theorem ofText_eq_iff {s : String} : ofText s = s ↔ IsIdentifier s.toList := by
  rw [isIdentifier_iff, ← String.toList_inj, toList_ofText]
  constructor
  · intro same
    exact ⟨letters s, letters_mem_grammar s, same.symm⟩
  · rintro ⟨word, mem, split⟩
    rw [letters_of_protect split mem, split]

/-- **Identifiers.** What is made from any text is an identifier. Exactly the identifiers come out
as they went in, so that what was made once is not changed when it is made again. -/
theorem ofText_isIdentifier (s : String) :
    IsIdentifier (ofText s).toList ∧ ofText (ofText s) = ofText s ∧
      (ofText s = s ↔ IsIdentifier s.toList) := by
  have identifier : IsIdentifier (ofText s).toList :=
    isIdentifier_iff.2 ⟨letters s, letters_mem_grammar s, toList_ofText s⟩
  exact ⟨identifier, ofText_eq_iff.2 identifier, ofText_eq_iff⟩

example : ofText "2nd block" = "x2nd_block" ∧ ofText "__bLock-" = "\x60bLock\x60" := by
  decide +kernel

end RegisterMap.Nim.Ident
