import RegisterMap.Proofs.Nim.Idents

/-!
# Names that become one identifier

Making an identifier keeps the runs of letters and digits of a name and forgets what stands between
and around them. Where nothing is left, or a digit comes first, the letter `x` is put in front, and
a name may begin with this letter of its own. Nothing else is forgotten: the single underscores
between the runs show where they end, and the backticks around a keyword show themselves. So two
names become one identifier if they have the same runs, or the same but for that letter.

## Main definitions

* `Ident.LacksLetter` : runs that need the letter, and the same runs with it.
* `Ident.AreMerged` : two names with the same runs, but for that letter.

## Main results

* `Ident.parts_letters` : the runs of an identifier.
* `Ident.ofText_eq_ofText_iff` : the names that become one identifier.
-/

namespace RegisterMap.Nim.Ident

/-! ### Runs of an identifier -/

/-- Joined runs are found again. -/
theorem parts_intercalate {runs : List (List Char)} (h : ∀ run ∈ runs, IsRun run) :
    parts (['_'].intercalate runs) = runs := by
  induction runs with
  | nil => rw [List.intercalate_nil, parts_nil]
  | cons run runs ih =>
    obtain ⟨first, others⟩ := List.forall_mem_cons.1 h
    cases runs with
    | nil => rw [List.intercalate_singleton, parts_run first]
    | cons next runs =>
      rw [List.intercalate_cons_cons, List.append_assoc, List.singleton_append,
        parts_append_cons (by decide), parts_run first, ih others, List.singleton_append]

/-- Runs with the letter `x` in front where an identifier needs one. -/
def leadRuns : List (List Char) → List (List Char)
  | [] => [['x']]
  | run :: runs => withLetterFirst run :: runs

theorem isRun_withLetterFirst {run : List Char} (h : ∀ c ∈ run, c.isAlphanum = true) :
    IsRun (withLetterFirst run) := by
  have letter : 'x'.isAlphanum = true := by decide
  cases run with
  | nil => exact ⟨List.cons_ne_nil _ _, List.forall_mem_singleton.2 letter⟩
  | cons c cs =>
    rw [withLetterFirst]
    split
    · exact ⟨List.cons_ne_nil _ _, List.forall_mem_cons.2 ⟨letter, h⟩⟩
    · exact ⟨List.cons_ne_nil _ _, h⟩

theorem isRun_of_mem_leadRuns {runs : List (List Char)} (h : ∀ run ∈ runs, IsRun run) :
    ∀ run ∈ leadRuns runs, IsRun run := by
  cases runs with
  | nil => exact List.forall_mem_singleton.2 (isRun_withLetterFirst (List.forall_mem_nil _))
  | cons run runs =>
    obtain ⟨first, others⟩ := List.forall_mem_cons.1 h
    exact List.forall_mem_cons.2 ⟨isRun_withLetterFirst first.2, others⟩

/-- The letter in front of joined runs is in front of the first. -/
theorem withLetterFirst_intercalate {runs : List (List Char)} (h : ∀ run ∈ runs, IsRun run) :
    withLetterFirst (['_'].intercalate runs) = ['_'].intercalate (leadRuns runs) := by
  cases runs with
  | nil => rw [List.intercalate_nil, leadRuns, List.intercalate_singleton, withLetterFirst]
  | cons run runs =>
    obtain ⟨c, cs, rfl⟩ := List.exists_cons_of_ne_nil (h run List.mem_cons_self).1
    cases runs with
    | nil => rw [leadRuns, List.intercalate_singleton, List.intercalate_singleton]
    | cons next runs =>
      rw [leadRuns, List.intercalate_cons_cons, List.intercalate_cons_cons]
      simp only [List.cons_append, withLetterFirst]
      split <;> simp

theorem letters_eq_intercalate (s : String) :
    letters s = ['_'].intercalate (leadRuns (parts s.toList)) :=
  withLetterFirst_intercalate fun _ => isRun_of_mem_parts

/-- The runs of an identifier are those of the name, with the letter that it needs in front. -/
theorem parts_letters (s : String) : parts (letters s) = leadRuns (parts s.toList) := by
  rw [letters_eq_intercalate]
  exact parts_intercalate (isRun_of_mem_leadRuns fun _ => isRun_of_mem_parts)

/-! ### Merged names -/

/-- The first runs need the letter `x` in front, and the second have it. -/
inductive LacksLetter : List (List Char) → List (List Char) → Prop
  | empty : LacksLetter [] [['x']]
  | digit {c : Char} {cs : List Char} {runs : List (List Char)} (h : c.isDigit = true) :
      LacksLetter ((c :: cs) :: runs) (('x' :: c :: cs) :: runs)

/-- Two names have the same runs of letters and digits, or the same but for the letter `x` that one
of them needs in front. -/
def AreMerged (s t : String) : Prop :=
  parts s.toList = parts t.toList ∨
    LacksLetter (parts s.toList) (parts t.toList) ∨ LacksLetter (parts t.toList) (parts s.toList)

namespace LacksLetter

variable {runs runs' with' : List (List Char)}

theorem leadRuns_eq (h : LacksLetter runs runs') : leadRuns runs = leadRuns runs' := by
  cases h with
  | empty => decide
  | digit digit => simp [leadRuns, withLetterFirst, digit]

/-- The letter is put in front of one list of runs only. -/
theorem unique (h : LacksLetter runs with') (h' : LacksLetter runs' with') : runs = runs' := by
  cases h <;> cases h' <;> rfl

end LacksLetter

/-- The letter is put in front where it is needed, and nothing else is changed. -/
theorem leadRuns_eq_self_or {runs : List (List Char)} (h : ∀ run ∈ runs, run ≠ []) :
    leadRuns runs = runs ∨ LacksLetter runs (leadRuns runs) := by
  cases runs with
  | nil => exact .inr .empty
  | cons run runs =>
    obtain ⟨c, cs, rfl⟩ := List.exists_cons_of_ne_nil (h run List.mem_cons_self)
    rw [leadRuns, withLetterFirst]
    split
    · next digit => exact .inr (.digit digit)
    · exact .inl rfl

theorem leadRuns_eq_iff {runs runs' : List (List Char)} (h : ∀ run ∈ runs, run ≠ [])
    (h' : ∀ run ∈ runs', run ≠ []) : leadRuns runs = leadRuns runs' ↔
      runs = runs' ∨ LacksLetter runs runs' ∨ LacksLetter runs' runs := by
  constructor
  · intro same
    rcases leadRuns_eq_self_or h with own | lacks <;>
      rcases leadRuns_eq_self_or h' with own' | lacks'
    · exact .inl (own.symm.trans (same.trans own'))
    · exact .inr (.inr (own.symm.trans same ▸ lacks'))
    · exact .inr (.inl (same.trans own' ▸ lacks))
    · exact .inl (lacks.unique (same ▸ lacks'))
  · rintro (rfl | lacks | lacks)
    · rfl
    · exact lacks.leadRuns_eq
    · exact lacks.leadRuns_eq.symm

theorem protect_inj {cs ds : List Char} (hc : IsWord cs) (hd : IsWord ds) :
    protect cs = protect ds ↔ cs = ds := by
  refine ⟨fun same => ?_, congrArg protect⟩
  rw [← filter_protect hc, same, filter_protect hd]

/-- **Merged names.** Two names become one identifier if and only if they have the same runs of
letters and digits, or the same but for the letter `x` that one of them needs in front. -/
theorem ofText_eq_ofText_iff {s t : String} : ofText s = ofText t ↔ AreMerged s t := by
  have names : ∀ s, ∀ run ∈ parts s, run ≠ [] := fun _ _ => ne_nil_of_mem_parts
  rw [AreMerged, ← leadRuns_eq_iff (names _) (names _), ← String.toList_inj, toList_ofText,
    toList_ofText, protect_inj (letters_spec s).1 (letters_spec t).1]
  constructor
  · intro same
    rw [← parts_letters, same, parts_letters]
  · intro same
    rw [letters_eq_intercalate, same, letters_eq_intercalate]

instance (s t : String) : Decidable (AreMerged s t) := decidable_of_iff _ ofText_eq_ofText_iff

end RegisterMap.Nim.Ident
