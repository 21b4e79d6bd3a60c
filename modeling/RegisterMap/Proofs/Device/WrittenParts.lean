import RegisterMap.Device.Reader
import RegisterMap.Device.Writer
import RegisterMap.Proofs.Numeral.Spellings
import RegisterMap.Proofs.Text.Words

/-!
# Reading written parts

The element of a node holds the elements of its parts one after the other. This file finds the
children of each tag in it and reads texts, integers, properties and repetitions back. Only children
are found, so a node may have parts of the same tags as the nodes in it.

## Main definitions

* `Repetition.IsDescribable` : a repetition that elements can describe.

## Main results

* `filter_textElements`, `filter_numbered` : the parts of a tag.
* `mapM_numbered`, `mapM_numbered_eq_self` : lists of elements are read member by member.
* `childText?_of_children`, `childInteger?_of_children` : texts and integers read back.
* `readRepetition_of_children` : a repetition reads back.
-/

namespace RegisterMap

open Text (IsTrimmed IsProse)
open Xml (Element)

/-! ### Children by tag -/

theorem Xml.Element.child?_eq_head? (e : Element) (tag : String) :
    e.child? tag = (e.childrenNamed tag).head? := (List.head?_filter).symm

@[simp] theorem Xml.Element.childrenNamed_mk (tag text t : String)
    (attributes : List (String × String)) (children : List Element) :
    (Element.mk tag attributes text children).childrenNamed t =
      children.filter fun e => e.tag == t := rfl

@[simp] theorem tag_textElement (tag text : String) : (textElement tag text).tag = tag := rfl

@[simp] theorem tag_integerElement (styles : Styles) (tag : String) (n : Int) :
    (integerElement styles tag n).tag = tag := rfl

@[simp] theorem tag_flagElement (tag : String) (b : Bool) : (flagElement tag b).tag = tag := rfl

@[simp] theorem Contents.tag_element (styles : Styles) (c : Contents) :
    (c.element styles).tag = "registers" := rfl

/-- All elements that are made in this way have the tag. -/
class HasTag {α : Type} (tag : String) (element : Styles → α → Element) : Prop where
  tag_eq : ∀ styles x, (element styles x).tag = tag

instance : HasTag "enumeratedValue" enumeratedValueElement := ⟨fun _ _ => rfl⟩

instance : HasTag "enumeratedValues" EnumeratedValues.element := ⟨fun _ _ => rfl⟩

instance : HasTag "field" BitField.element := ⟨fun _ _ => rfl⟩

instance : HasTag "register" Register.element := ⟨fun _ _ => rfl⟩

instance : HasTag "cluster" Cluster.element := ⟨fun _ _ => by rw [Cluster.element_eq]⟩

instance : HasTag "interrupt" Interrupt.element := ⟨fun _ _ => rfl⟩

instance : HasTag "peripheral" Peripheral.element := ⟨fun _ _ => rfl⟩

instance : HasTag "cpu" Cpu.element := ⟨fun _ _ => rfl⟩

@[simp] theorem filter_textElements (tag : String) (text : Option String) (t : String) :
    (textElements tag text).filter (fun e => e.tag == t) =
      if tag = t then textElements tag text else [] := by
  cases text <;> simp [textElements, textElement, List.filter_cons]

@[simp] theorem filter_integerElements (styles : Styles) (tag : String) (n : Option Int)
    (t : String) : (integerElements styles tag n).filter (fun e => e.tag == t) =
      if tag = t then integerElements styles tag n else [] := filter_textElements _ _ _

section

variable {α : Type} {tag : String} {element : Styles → α → Element} {styles : Styles}

@[simp] theorem filter_numbered [HasTag tag element] (xs : List α) (t : String) :
    (numbered styles tag element xs).filter (fun e => e.tag == t) =
      if tag = t then numbered styles tag element xs else [] := by
  have tags : ∀ e ∈ numbered styles tag element xs, e.tag = tag := by
    intro e he
    obtain ⟨i, hi, rfl⟩ := List.mem_mapIdx.1 he
    exact HasTag.tag_eq _ _
  split
  · next same => exact List.filter_eq_self.2 fun e he => by simp [tags e he, same]
  · next other => exact List.filter_eq_nil_iff.2 fun e he => by simp [tags e he, other]

theorem head?_numbered (xs : List α) : (numbered styles tag element xs).head? =
    xs.head?.map (element (styles.inside tag 0)) := by
  cases xs with
  | nil => rfl
  | cons x xs => rw [numbered, List.mapIdx_cons, List.head?_cons, List.head?_cons, Option.map_some]

/-- A list whose members are read in a certain way, in whatever styles they are written, is read in
that way. -/
theorem mapM_numbered {β : Type} {m : Type → Type} [Monad m] [LawfulMonad m]
    {read : Element → m β} {g : α → β} {xs : List α}
    (h : ∀ x ∈ xs, ∀ styles, read (element styles x) = pure (g x)) :
    (numbered styles tag element xs).mapM read = pure (xs.map g) := by
  have positions : ∀ place : Nat → Styles,
      (xs.mapIdx fun i x => element (place i) x).mapM read = pure (xs.map g) := by
    induction xs with
    | nil =>
      intro place
      simp
    | cons x xs ih =>
      obtain ⟨first, rest⟩ := List.forall_mem_cons.1 h
      intro place
      rw [List.mapIdx_cons, List.mapM_cons, first, pure_bind, ih rest fun i => place (i + 1),
        pure_bind, List.map_cons]
  exact positions (styles.inside tag)

/-- A list whose members read back reads back. -/
theorem mapM_numbered_eq_self {m : Type → Type} [Monad m] [LawfulMonad m] {read : Element → m α}
    {xs : List α} (h : ∀ x ∈ xs, ∀ styles, read (element styles x) = pure x) :
    (numbered styles tag element xs).mapM read = pure xs := by
  rw [mapM_numbered (g := id) h, List.map_id]

end

section

variable (styles : Styles) (t : String)

@[simp] theorem filter_properties (p : Properties) :
    (p.elements styles).filter (fun e => e.tag == t) =
      (if "size" = t then integerElements styles "size" p.size else []) ++
        if "access" = t then textElements "access" (p.access.map Access.text) else [] := by
  simp [Properties.elements]

@[simp] theorem filter_repetition (r : Option Repetition) :
    (repetitionElements styles r).filter (fun e => e.tag == t) =
      (if "dim" = t then integerElements styles "dim" (r.bind (·.count)) else []) ++
        (if "dimIncrement" = t then
          integerElements styles "dimIncrement" (r.bind (·.increment)) else []) ++
        (if "dimIndex" = t then textElements "dimIndex" (r.bind (·.index)) else []) ++
        if "dimName" = t then textElements "dimName" (r.bind (·.name)) else [] := by
  simp [repetitionElements]

end

/-! ### Texts and integers -/

section

variable {e : Element} {tag : String}

/-- A text reads back, also one that need not be there. -/
theorem childText?_of_children {text : Option String}
    (h : e.childrenNamed tag = textElements tag text) (trimmed : ∀ s ∈ text, IsTrimmed s) :
    childText? e tag = text := by
  rw [childText?, e.child?_eq_head?, h]
  cases text with
  | none => rfl
  | some s =>
    obtain ⟨nonempty, strip⟩ := trimmed s rfl
    change (if s = "" then none else some (Text.strip s)) = some s
    rw [if_neg nonempty, strip]

theorem childText?_of_absent (h : e.childrenNamed tag = []) : childText? e tag = none := by
  rw [childText?, e.child?_eq_head?, h]
  rfl

theorem childInteger?_of_absent (h : e.childrenNamed tag = []) : childInteger? e tag = none := by
  rw [childInteger?, childText?_of_absent h, Option.bind_none]

/-- A text that must be there reads back. -/
theorem childText?_of_child {s : String} (h : e.childrenNamed tag = [textElement tag s])
    (trimmed : IsTrimmed s) : childText? e tag = some s := by
  have found : e.childrenNamed tag = textElements tag (some s) := h
  refine childText?_of_children found fun s' hs => ?_
  cases hs
  exact trimmed

/-- A text that may be empty reads back where a missing one is empty. -/
theorem getD_childText?_of_children {s : String} (h : e.childrenNamed tag = [textElement tag s])
    (strip : Text.strip s = s) : (childText? e tag).getD "" = s := by
  rw [childText?, e.child?_eq_head?, h]
  change (if s = "" then none else some (Text.strip s)).getD "" = s
  split
  · next empty => exact empty.symm
  · exact strip

theorem isTrimmed_spell (styles : Styles) (tag : String) (n : Int) :
    IsTrimmed (styles.spell tag n) :=
  ⟨Numeral.style_ne_empty _ n, Numeral.strip_style _ n⟩

theorem childText?_of_integers (styles : Styles) {n : Option Int}
    (h : e.childrenNamed tag = integerElements styles tag n) :
    childText? e tag = n.map (styles.spell tag) := by
  refine childText?_of_children h fun s hs => ?_
  obtain ⟨n, -, rfl⟩ := Option.map_eq_some_iff.1 hs
  exact isTrimmed_spell styles tag n

/-- An integer reads back. -/
theorem childInteger?_of_children (styles : Styles) {n : Option Int}
    (h : e.childrenNamed tag = integerElements styles tag n) : childInteger? e tag = n := by
  rw [childInteger?, childText?_of_integers styles h]
  cases n with
  | none => rfl
  | some n =>
    rw [Option.map_some, Option.bind_some, Styles.spell, Numeral.integer?_style]

theorem childText?_of_integer (styles : Styles) {n : Int}
    (h : e.childrenNamed tag = [integerElement styles tag n]) :
    childText? e tag = some (styles.spell tag n) :=
  childText?_of_child h (isTrimmed_spell styles tag n)

/-- An integer that must be there reads back. -/
theorem childInteger?_of_child (styles : Styles) {n : Int}
    (h : e.childrenNamed tag = [integerElement styles tag n]) : childInteger? e tag = some n := by
  rw [childInteger?, childText?_of_integer styles h, Option.bind_some, Styles.spell,
    Numeral.integer?_style]

/-- A flag reads back. -/
theorem readFlag_of_child {b : Bool} (h : e.childrenNamed tag = [flagElement tag b]) :
    readFlag (childText? e tag) = b := by
  rw [childText?_of_child h (by cases b <;> decide)]
  cases b <;> decide +kernel

/-- A description reads back. -/
theorem childDescription?_of_children {description : Option String}
    (h : e.childrenNamed "description" = textElements "description" description)
    (prose : ∀ s ∈ description, IsProse s) : childDescription? e = description := by
  rw [childDescription?, childText?_of_children h fun s hs => (prose s hs).isTrimmed]
  cases description with
  | none => rfl
  | some s =>
    obtain ⟨nonempty, -⟩ := (prose s rfl).isTrimmed
    simp [readDescription, Option.filter, nonempty, (prose s rfl).normalizeSpace_eq]

@[simp] theorem attribute?_referenceAttributes (reference : Option String) :
    (referenceAttributes reference).lookup "derivedFrom" = reference := by
  cases reference <;> simp [referenceAttributes]

/-! ### Properties and repetitions -/

/-- Properties read back. -/
theorem readProperties_of_children (styles : Styles) {p : Properties}
    (size : e.childrenNamed "size" = integerElements styles "size" p.size)
    (access : e.childrenNamed "access" = textElements "access" (p.access.map Access.text)) :
    readProperties e = pure p := by
  have spelled : childText? e "access" = p.access.map Access.text := by
    refine childText?_of_children access fun s hs => ?_
    obtain ⟨a, -, rfl⟩ := Option.map_eq_some_iff.1 hs
    cases a <;> decide
  have read : readAccess (p.access.map Access.text) = pure p.access := by
    cases p.access with
    | none => rfl
    | some a => simp [readAccess, Access.ofText?_text]
  rw [readProperties, spelled, read, pure_bind, childInteger?_of_children styles size]

/-- A repetition that elements can describe: it gives something. -/
structure Repetition.IsDescribable (r : Repetition) : Prop where
  given : r ≠ {}
  index : ∀ s ∈ r.index, IsTrimmed s
  name : ∀ s ∈ r.name, IsTrimmed s

/-- A repetition reads back, also one that need not be there. -/
theorem readRepetition_of_children (styles : Styles) {r : Option Repetition}
    (describable : ∀ x ∈ r, x.IsDescribable)
    (count : e.childrenNamed "dim" = integerElements styles "dim" (r.bind (·.count)))
    (increment : e.childrenNamed "dimIncrement" =
      integerElements styles "dimIncrement" (r.bind (·.increment)))
    (index : e.childrenNamed "dimIndex" = textElements "dimIndex" (r.bind (·.index)))
    (name : e.childrenNamed "dimName" = textElements "dimName" (r.bind (·.name))) :
    readRepetition e = r := by
  have indexText : childText? e "dimIndex" = r.bind (·.index) := by
    refine childText?_of_children index fun s hs => ?_
    obtain ⟨x, hx, hs⟩ := Option.bind_eq_some_iff.1 hs
    exact (describable x hx).index s hs
  have nameText : childText? e "dimName" = r.bind (·.name) := by
    refine childText?_of_children name fun s hs => ?_
    obtain ⟨x, hx, hs⟩ := Option.bind_eq_some_iff.1 hs
    exact (describable x hx).name s hs
  simp only [readRepetition, List.all_cons, List.all_nil, childText?_of_integers styles count,
    childText?_of_integers styles increment, childInteger?_of_children styles count,
    childInteger?_of_children styles increment, indexText, nameText]
  cases r with
  | none => rfl
  | some r =>
    rw [if_neg]
    · rfl
    · intro nothing
      obtain ⟨count, increment, index, name⟩ := r
      simp only [Option.bind_some, Option.isNone_map, Bool.and_true, Bool.and_eq_true,
        Option.isNone_iff_eq_none] at nothing
      obtain ⟨rfl, rfl, rfl, rfl⟩ := nothing
      exact (describable _ rfl).given rfl

end

end RegisterMap
