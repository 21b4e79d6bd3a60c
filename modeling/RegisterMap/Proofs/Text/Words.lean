import RegisterMap.Text.Blank

/-!
# Words of a text

A text that is made of words with one space between neighbours has these words, so normalizing its
white space leaves it alone.

## Main definitions

* `IsTrimmed` : a text that is not empty and has no blanks at its ends.
* `IsWord`, `IsProse` : words, and texts that are made of words.

## Main results

* `words_intercalate` : the words of a text that was put together from words.
* `eq_space_of_mem_normalizeSpace` : the space is the only blank of a text with normal white space.
* `IsProse.isTrimmed`, `IsProse.normalizeSpace_eq` : such a text is read as it is.
-/

namespace RegisterMap.Text

/-- A text that is not empty and neither begins nor ends with a blank. -/
def IsTrimmed (s : String) : Prop := s ≠ "" ∧ strip s = s

instance (s : String) : Decidable (IsTrimmed s) := inferInstanceAs (Decidable (_ ∧ _))

/-- A text that is not empty and has no blanks. -/
def IsWord (s : String) : Prop := s.toList ≠ [] ∧ ∀ c ∈ s.toList, isBlank c = false

-- decided over the characters of the text, as there are too many characters to go through all
instance (s : String) : Decidable (IsWord s) :=
  decidable_of_iff (s.toList ≠ [] ∧ (s.toList.all fun c => !isBlank c) = true) (by simp [IsWord])

/-- One or more words with a single space between neighbours. -/
def IsProse (s : String) : Prop :=
  ∃ ws : List String, ws ≠ [] ∧ (∀ w ∈ ws, IsWord w) ∧ s = " ".intercalate ws

/-- The words of a text that was put together from words. -/
theorem words_intercalate {ws : List String} (nonempty : ws ≠ []) (h : ∀ w ∈ ws, IsWord w) :
    words (" ".intercalate ws) = ws := by
  have split : (" ".intercalate ws).toList.splitOnP isBlank = ws.map String.toList := by
    rw [String.toList_intercalate]
    induction ws with
    | nil => exact absurd rfl nonempty
    | cons w ws ih =>
      obtain ⟨first, rest⟩ := List.forall_mem_cons.1 h
      cases ws with
      | nil => simp [List.splitOnP_eq_singleton first.2]
      | cons w' ws =>
        rw [List.map_cons, List.map_cons, List.intercalate_cons_cons, List.append_assoc]
        change List.splitOnP isBlank (_ ++ ' ' :: _) = _
        rw [List.splitOnP_append_cons_of_forall_mem first.2 ' ' (by decide)]
        exact congrArg (w.toList :: ·) (ih (List.cons_ne_nil _ _) rest)
  have kept : (ws.map String.toList).filter (!·.isEmpty) = ws.map String.toList := by
    refine List.filter_eq_self.2 (List.forall_mem_map.2 fun w hw => ?_)
    simpa using (h w hw).1
  rw [words, split, kept, List.map_map]
  simp

/-- A text that was put together from words is not empty, and blanks are not at its ends. -/
theorem isTrimmed_intercalate {ws : List String} (nonempty : ws ≠ []) (h : ∀ w ∈ ws, IsWord w) :
    IsTrimmed (" ".intercalate ws) := by
  have ends : (" ".intercalate ws).toList ≠ [] ∧
      (∀ c ∈ (" ".intercalate ws).toList.head?, isBlank c = false) ∧
      ∀ c ∈ (" ".intercalate ws).toList.getLast?, isBlank c = false := by
    rw [String.toList_intercalate]
    induction ws with
    | nil => exact absurd rfl nonempty
    | cons w ws ih =>
      obtain ⟨⟨some, plain⟩, rest⟩ := List.forall_mem_cons.1 h
      cases ws with
      | nil =>
        rw [List.map_singleton, List.intercalate_singleton]
        exact ⟨some, fun c hc => plain c (List.mem_of_head? hc),
          fun c hc => plain c (List.mem_of_getLast? hc)⟩
      | cons w' ws =>
        obtain ⟨later, -, last⟩ := ih (List.cons_ne_nil _ _) rest
        rw [List.map_cons, List.map_cons, List.intercalate_cons_cons]
        refine ⟨by simp [some], fun c hc => ?_, fun c hc => ?_⟩
        · rw [List.append_assoc, List.head?_append, Option.or_of_isSome (by simpa using some)] at hc
          exact plain c (List.mem_of_head? hc)
        · rw [List.getLast?_append, Option.or_of_isSome (by simpa using later)] at hc
          exact last c hc
  refine ⟨fun empty => ends.1 ?_, strip_eq_self ends.2.1 ends.2.2⟩
  rw [empty, String.toList_empty]

theorem IsProse.isTrimmed {s : String} (h : IsProse s) : IsTrimmed s := by
  obtain ⟨ws, nonempty, h, rfl⟩ := h
  exact isTrimmed_intercalate nonempty h

/-- The only blank of a text with normal white space is the space. -/
theorem eq_space_of_mem_normalizeSpace {s : String} {c : Char}
    (hc : c ∈ (normalizeSpace s).toList) (blank : isBlank c = true) : c = ' ' := by
  have plain : ∀ w ∈ words s, ∀ c ∈ w.toList, isBlank c = false :=
    fun _ hw _ => isBlank_of_mem_words hw
  rw [normalizeSpace, String.toList_intercalate] at hc
  generalize words s = ws at hc plain
  induction ws with
  | nil => cases hc
  | cons w ws ih =>
    obtain ⟨first, rest⟩ := List.forall_mem_cons.1 plain
    have notFirst : c ∉ w.toList := fun h => Bool.false_ne_true ((first c h).symm.trans blank)
    cases ws with
    | nil =>
      rw [List.map_singleton, List.intercalate_singleton] at hc
      exact absurd hc notFirst
    | cons w' ws =>
      rw [List.map_cons, List.map_cons, List.intercalate_cons_cons, List.append_assoc] at hc
      rcases List.mem_append.1 hc with hc | hc
      · exact absurd hc notFirst
      · rcases List.mem_append.1 hc with hc | hc
        · exact List.mem_singleton.1 hc
        · exact ih hc rest

/-- White space between words is normal already. -/
theorem IsProse.normalizeSpace_eq {s : String} (h : IsProse s) : normalizeSpace s = s := by
  obtain ⟨ws, nonempty, h, rfl⟩ := h
  rw [normalizeSpace, words_intercalate nonempty h]

end RegisterMap.Text
