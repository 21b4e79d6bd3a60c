import RegisterMap.Proofs.Nim.Assembly
import RegisterMap.Proofs.Nim.SharedTypes

/-!
# Definitions entered again

A table in which the first definition wins never gives up a definition. So definitions that were
entered once can be entered again at any later time: nothing is new, the table stays as it is, and
each of them meets the definition that it met before. It is reported as a conflict now if and only
if it was then. Peripherals that share their declarations therefore add no conflict to each other,
whatever others enter in between.

## Main definitions

* `Logged.Repeats` : a step warns of what another step warned of.
* `FirstWins.Extends` : a table still has the definitions that another has.
* `enterTypes` : enters the types of a peripheral and all in it.
* `AddsNothing` : entering a peripheral some time after another adds no declaration and no conflict.

## Main results

* `FirstWins.defineAll_again` : definitions entered again.
* `deviceTypes_eq_foldlM` : the types of a device are entered one peripheral after the other.
* `SharesDeclarations.addsNothing` : peripherals that share their declarations.
-/

namespace RegisterMap

/-! ### Warnings -/

namespace Logged

variable {α β γ δ : Type}

/-- The warnings that a step writes. -/
def warnings (x : Logged α) : List Diagnostic := x.log.filter (·.level = .warning)

/-- Two steps have given results, and the one warns of exactly what the other warns of. -/
structure Repeats (again : Logged α) (a : α) (first : Logged β) (b : β) : Prop where
  outcome : again.outcome = .ok a
  first_outcome : first.outcome = .ok b
  warnings : again.warnings = first.warnings

namespace Repeats

variable {again : Logged α} {a : α} {first : Logged β} {b : β}

theorem bind {f : α → Logged γ} {c : γ} {g : β → Logged δ} {e : δ} (h : Repeats again a first b)
    (next : Repeats (f a) c (g b) e) : Repeats (again >>= f) c (first >>= g) e where
  outcome := by rw [outcome_bind, h.outcome]; exact next.outcome
  first_outcome := by rw [outcome_bind, h.first_outcome]; exact next.first_outcome
  warnings := by
    rw [Logged.warnings, Logged.warnings, log_bind_of_ok h.outcome, log_bind_of_ok h.first_outcome,
      List.filter_append, List.filter_append]
    exact congrArg₂ (· ++ ·) h.warnings next.warnings

theorem report (level : Level) (source message : String) :
    Repeats (Logged.report level source message) () (Logged.report level source message) () :=
  ⟨rfl, rfl, rfl⟩

theorem pure (a : α) (b : β) : Repeats (Pure.pure a : Logged α) a (Pure.pure b : Logged β) b :=
  ⟨rfl, rfl, rfl⟩

theorem ofExcept {x : Except Fault α} (hx : x = .ok a) :
    Repeats (Logged.ofExcept x) a (Logged.ofExcept x) a :=
  ⟨hx, hx, rfl⟩

end Repeats

end Logged

namespace Nim

/-! ### Tables that keep what they have -/

namespace FirstWins

variable {α : Type} {t t' t'' : FirstWins α} {key : String}

/-- A table of the same kind as another that still has all its definitions. -/
structure Extends (t t' : FirstWins α) : Prop where
  kind : t'.kind = t.kind
  isStrict : t'.strict = t.strict
  find? : ∀ key a, t.find? key = some a → t'.find? key = some a

theorem Extends.refl (t : FirstWins α) : t.Extends t := ⟨rfl, rfl, fun _ _ found => found⟩

theorem Extends.trans (h : t.Extends t') (h' : t'.Extends t'') : t.Extends t'' :=
  ⟨h'.kind.trans h.kind, h'.isStrict.trans h.isStrict,
    fun key a found => h'.find? key a (h.find? key a found)⟩

theorem lookup_cons_eq_ite (key name : String) (item : Option α)
    (entries : List (String × Option α)) : ((name, item) :: entries).lookup key =
      if key = name then some item else entries.lookup key := by
  by_cases h : key = name
  · simp [h]
  · rw [if_neg h, List.lookup_cons, beq_false_of_ne h]

/-- Replacing what is entered under a name changes what is found under that name only. -/
theorem lookup_replace (entries : List (String × Option α)) (key : String) (item : Option α)
    (other : String) :
    (entries.map fun e => if e.1 == key then (key, item) else e).lookup other =
      if other = key then (entries.lookup key).map fun _ => item else entries.lookup other := by
  induction entries with
  | nil => simp
  | cons e entries ih =>
    obtain ⟨k, old⟩ := e
    rw [List.map_cons, lookup_cons_eq_ite, lookup_cons_eq_ite]
    by_cases hk : k = key
    · subst hk
      rw [if_pos (beq_self_eq_true k), lookup_cons_eq_ite, ih]
      split <;> simp
    · have apart : ¬(k == key) = true := by simpa using hk
      rw [if_neg apart, lookup_cons_eq_ite, ih, if_neg (Ne.symm hk)]
      by_cases ho : other = key
      · rw [ho, if_neg (Ne.symm hk), if_pos rfl, if_pos rfl]
      · rw [if_neg ho, if_neg ho]

theorem isSome_lookup_eq_contains (t : FirstWins α) (key : String) :
    (t.entries.lookup key).isSome = t.contains key := by
  rw [contains]
  induction t.entries with
  | nil => rfl
  | cons e entries ih =>
    obtain ⟨k, old⟩ := e
    rw [lookup_cons_eq_ite, List.any_cons, ← ih]
    by_cases hk : key = k
    · simp [hk]
    · simp [hk, Ne.symm hk]

/-- What is entered under a name is found there, and nothing changes under other names. -/
theorem find?_set (t : FirstWins α) (key : String) (item : Option α) (other : String) :
    (t.set key item).find? other = if other = key then item else t.find? other := by
  have isSome := t.isSome_lookup_eq_contains key
  by_cases known : t.contains key = true
  · rw [known] at isSome
    obtain ⟨old, hold⟩ := Option.isSome_iff_exists.1 isSome
    rw [find?, set, if_pos known, lookup_replace, hold]
    split <;> rfl
  · rw [Bool.eq_false_of_not_eq_true known, Option.isSome_eq_false_iff, Option.isNone_iff_eq_none]
      at isSome
    rw [find?, set, if_neg known, List.lookup_append, lookup_cons_eq_ite]
    by_cases same : other = key
    · subst same
      simp [isSome]
    · simp [same, find?]

variable [DecidableEq α] {item : Option α} {isFirst : Bool}

theorem define_of_found {first : α} (found : t.find? key = some first) (item : Option α) :
    t.define key item =
      if some first = item then
        Logged.report .debug Source.generator (t.kind ++ " " ++ key ++ " already emitted") >>=
          fun _ => pure (false, t)
      else if t.strict then Logged.fail (.conflict t.kind key)
      else
        Logged.report .warning Source.generator (Fault.conflictMessage t.kind key) >>=
          fun _ => pure (false, t) := by
  rw [define, found]

theorem outcome_define_of_found {first : α} (found : t.find? key = some first) (item : Option α) :
    (t.define key item).outcome =
      if t.strict = true ∧ some first ≠ item then .error (.conflict t.kind key)
      else .ok (false, t) := by
  rw [define_of_found found]
  by_cases same : some first = item
  · rw [if_pos same, if_neg fun h => h.2 same]
    rfl
  · rw [if_neg same]
    cases t.strict with
    | true =>
      rw [if_pos rfl, if_pos ⟨rfl, same⟩]
      rfl
    | false =>
      rw [if_neg Bool.false_ne_true, if_neg fun h => Bool.false_ne_true h.1]
      rfl

/-- A table does not change where it has a definition. -/
theorem eq_of_define_of_found {first : α} (found : t.find? key = some first)
    (h : (t.define key item).outcome = .ok (isFirst, t')) : isFirst = false ∧ t' = t := by
  rw [outcome_define_of_found found] at h
  split at h
  · cases h
  · cases Except.ok.inj h
    exact ⟨rfl, rfl⟩

theorem define_extends (h : (t.define key item).outcome = .ok (isFirst, t')) : t.Extends t' := by
  cases found : t.find? key with
  | none =>
    rw [define_of_fresh found] at h
    cases Except.ok.inj h
    refine ⟨rfl, rfl, fun other a hother => ?_⟩
    have apart : other ≠ key := by
      rintro rfl
      cases found.symm.trans hother
    rw [find?_set, if_neg apart, hother]
  | some first =>
    obtain ⟨-, rfl⟩ := eq_of_define_of_found found h
    exact .refl _

theorem defineAll_extends {items : List (String × α)} {kept : List α}
    (h : (t.defineAll items).outcome = .ok (kept, t')) : t.Extends t' := by
  induction items generalizing t kept with
  | nil =>
    cases Except.ok.inj h
    exact .refl _
  | cons item items ih =>
    obtain ⟨isFirst, t₁, rest, h₁, h₂, -⟩ := outcome_defineAll_cons.1 h
    exact (define_extends h₁).trans (ih h₂)

/-- A definition that is entered again meets the definition that it met before, if only itself. -/
theorem define_again {item : α} (h : (t.define key (some item)).outcome = .ok (isFirst, t'))
    (later : t'.Extends t'') :
    (t''.define key (some item)).Repeats (false, t'') (t.define key (some item)) (isFirst, t') := by
  cases found : t.find? key with
  | none =>
    -- the item was the first of its key, and is the one that it meets now
    have fresh := define_of_fresh found (some item)
    rw [fresh] at h ⊢
    cases Except.ok.inj h
    have kept : t''.find? key = some item := later.find? key item (by rw [find?_set, if_pos rfl])
    refine ⟨outcome_define_of_equal kept, rfl, ?_⟩
    rw [define_of_found kept, if_pos rfl]
    rfl
  | some first =>
    -- the item met another, and the two meet again
    obtain ⟨rfl, rfl⟩ := eq_of_define_of_found found h
    have kept := later.find? key first found
    rw [define_of_found found] at h ⊢
    rw [define_of_found kept, later.isStrict, later.kind]
    by_cases same : some first = some item
    · rw [if_pos same, if_pos same]
      exact .bind (.report _ _ _) (.pure _ _)
    · rw [if_neg same] at h
      rw [if_neg same, if_neg same]
      split at h
      · cases h
      · next lax =>
        rw [if_neg lax, if_neg lax]
        exact .bind (.report _ _ _) (.pure _ _)

/-- Definitions that are entered again are not new, and the conflicts are those of the first
time. -/
theorem defineAll_again {items : List (String × α)} {kept : List α}
    (h : (t.defineAll items).outcome = .ok (kept, t')) (later : t'.Extends t'') :
    (t''.defineAll items).Repeats ([], t'') (t.defineAll items) (kept, t') := by
  induction items generalizing t kept with
  | nil =>
    cases Except.ok.inj h
    exact .pure _ _
  | cons item items ih =>
    obtain ⟨isFirst, t₁, rest, h₁, h₂, rfl⟩ := outcome_defineAll_cons.1 h
    have first := define_again h₁ ((defineAll_extends h₂).trans later)
    exact first.bind ((ih h₂).bind (.pure _ _))

end FirstWins

/-! ### Types -/

section

variable {names : TypeNames} {options : Options} {x : Peripheral} {t t' : FirstWins ObjectType}

/-- Enters the types of a peripheral and all in it. -/
def enterTypes (names : TypeNames) (options : Options) (t : FirstWins ObjectType) (p : Peripheral) :
    Logged (FirstWins ObjectType) := do
  let types ← nodeTypes names options p
  let (_, t) ← t.defineAll (types.map fun type => (type.name, type))
  pure t

/-- The types of a device are those of its peripherals, entered in order. -/
theorem deviceTypes_eq_foldlM (names : TypeNames) (options : Options) (d : Device) :
    deviceTypes names options d =
      d.peripherals.foldlM (enterTypes names options) ⟨"type", options.strict, []⟩ := rfl

theorem exists_of_enterTypes (h : (enterTypes names options t x).outcome = .ok t') :
    ∃ types kept, nodeTypes names options x = .ok types ∧
      (t.defineAll (types.map fun type => (type.name, type))).outcome = .ok (kept, t') := by
  rw [enterTypes] at h
  obtain ⟨types, (htypes : nodeTypes names options x = .ok types), h⟩ :=
    Logged.outcome_bind_eq_ok_iff.1 h
  obtain ⟨⟨kept, t₁⟩, hdefine, h⟩ := Logged.outcome_bind_eq_ok_iff.1 h
  cases Except.ok.inj h
  exact ⟨types, kept, htypes, hdefine⟩

theorem foldlM_enterTypes_extends {ps : List Peripheral}
    (h : (ps.foldlM (enterTypes names options) t).outcome = .ok t') : t.Extends t' := by
  induction ps generalizing t with
  | nil =>
    cases Except.ok.inj h
    exact .refl _
  | cons p ps ih =>
    rw [List.foldlM_cons] at h
    obtain ⟨t₁, h₁, h⟩ := Logged.outcome_bind_eq_ok_iff.1 h
    obtain ⟨types, kept, -, hdefine⟩ := exists_of_enterTypes h₁
    exact (FirstWins.defineAll_extends hdefine).trans (ih h)

end

/-! ### Declarations -/

namespace Tables

variable {names : TypeNames} {t t' t'' : Tables} {x y : Peripheral} {new : List Declaration}

/-- The tables still have all definitions that others have. -/
structure Extends (t t' : Tables) : Prop where
  structs : t.structs.Extends t'.structs
  enums : t.enums.Extends t'.enums
  accessors : t.accessors.Extends t'.accessors

theorem Extends.refl (t : Tables) : t.Extends t := ⟨.refl _, .refl _, .refl _⟩

theorem Extends.trans (h : t.Extends t') (h' : t'.Extends t'') : t.Extends t'' :=
  ⟨h.structs.trans h'.structs, h.enums.trans h'.enums, h.accessors.trans h'.accessors⟩

theorem define_extends (h : (t.define names x).outcome = .ok (new, t')) : t.Extends t' := by
  obtain ⟨_, _, _, _, _, _, _, structs, _, enums, _, routines, _⟩ := outcome_define.1 h
  exact ⟨FirstWins.defineAll_extends structs, FirstWins.defineAll_extends enums,
    FirstWins.defineAll_extends routines⟩

theorem defineAll_extends {ps : List Peripheral}
    (h : (t.defineAll names ps).outcome = .ok (new, t')) : t.Extends t' := by
  induction ps generalizing t new with
  | nil =>
    cases Except.ok.inj h
    exact .refl _
  | cons p ps ih =>
    obtain ⟨first, t₁, rest, h₁, h₂, -⟩ := outcome_defineAll_cons.1 h
    exact (define_extends h₁).trans (ih h₂)

/-- The declarations of a peripheral are not new after those of one that it shares them with. -/
theorem define_again (same : SharesDeclarations names x y)
    (h : (t.define names x).outcome = .ok (new, t')) (later : t'.Extends t'') :
    (t''.define names y).Repeats ([], t'') (t.define names x) (new, t') := by
  obtain ⟨structs, enums, routines, newStructs, newEnums, newRoutines, hstructs, enteredStructs,
    henums, enteredEnums, hroutines, enteredRoutines, rfl⟩ := outcome_define.1 h
  rw [define, define, ← same.fieldStructs, ← same.enumTypes, ← same.accessors]
  refine .bind (.ofExcept hstructs) (.bind (FirstWins.defineAll_again enteredStructs later.structs)
    (.bind (.ofExcept henums) (.bind (FirstWins.defineAll_again enteredEnums later.enums)
      (.bind (.ofExcept hroutines)
        (.bind (FirstWins.defineAll_again enteredRoutines later.accessors) (.pure _ _))))))

end Tables

/-! ### Peripherals that share their declarations -/

/-- To enter a peripheral after another, and after any that are entered in between, adds nothing: no
table changes, nothing new is declared, and the conflicts reported are those which the other had. -/
structure AddsNothing (names : TypeNames) (options : Options) (x y : Peripheral) : Prop where
  types : ∀ {t t' t'' : FirstWins ObjectType} {between : List Peripheral},
    (enterTypes names options t x).outcome = .ok t' →
    (between.foldlM (enterTypes names options) t').outcome = .ok t'' →
    (enterTypes names options t'' y).Repeats t'' (enterTypes names options t x) t'
  declarations : ∀ {t t' t'' : Tables} {between : List Peripheral} {new new' : List Declaration},
    (t.define names x).outcome = .ok (new, t') →
    (t'.defineAll names between).outcome = .ok (new', t'') →
    (t''.define names y).Repeats ([], t'') (t.define names x) (new, t')

theorem SharesDeclarations.addsNothing {names : TypeNames} {x y : Peripheral}
    (same : SharesDeclarations names x y) (options : Options) : AddsNothing names options x y where
  types h between := by
    obtain ⟨types, kept, htypes, entered⟩ := exists_of_enterTypes h
    have again := FirstWins.defineAll_again entered (foldlM_enterTypes_extends between)
    rw [enterTypes, enterTypes, ← same.nodeTypes options]
    exact .bind (.ofExcept htypes) (.bind again (.pure _ _))
  declarations h between := Tables.define_again same h (Tables.defineAll_extends between)

end Nim

end RegisterMap
