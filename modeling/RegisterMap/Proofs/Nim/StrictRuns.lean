import RegisterMap.Proofs.Nim.RepeatedEntries

/-!
# Strict runs

Options may ask that two different definitions of one name be a fault instead of a warning. Four
tables look at that option: the table of types is filled before anything else is declared, and the
three others in turns. A strict run is nevertheless the run of the same device that is not strict,
line by line and declaration by declaration, up to the first conflict that is reported there.

## Main definitions

* `Diagnostic.IsConflict` : a line reports two different definitions of one name.
* `Logged.StopsAtConflict` : a run is another one that was stopped at its first conflict.
* `FirstWins.IsStrictTwin` : two tables differ in that the one is strict.

## Main results

* `Logged.StopsAtConflict.bind`, `Logged.StopsAtConflict.foldlM` : runs that are put together.
* `FirstWins.IsStrictTwin.define` : one definition, entered into both tables.
* `generate_strict_iff` : when a strict run has a result, and what stops it otherwise.
-/

namespace RegisterMap

/-- The line warns of two different definitions of one name. -/
def Diagnostic.IsConflict (line : Diagnostic) : Prop :=
  line.level = .warning ∧ ∃ kind key, line.message = Fault.conflictMessage kind key

namespace Logged

variable {α β γ δ : Type}

/-- No line reports a conflict. -/
def IsQuiet (log : List Diagnostic) : Prop := ∀ line ∈ log, ¬line.IsConflict

theorem isQuiet_nil : IsQuiet [] := fun _ h => absurd h List.not_mem_nil

theorem isQuiet_append {log log' : List Diagnostic} :
    IsQuiet (log ++ log') ↔ IsQuiet log ∧ IsQuiet log' := List.forall_mem_append

/-- The first run does what the second does until the second reports a conflict, and fails there. If
there is no conflict, both end in the same fault or in results that are related. -/
inductive StopsAtConflict (R : α → β → Prop) : Logged α → Logged β → Prop
  | result {log : List Diagnostic} {a : α} {b : β} (quiet : IsQuiet log) (related : R a b) :
      StopsAtConflict R ⟨log, .ok a⟩ ⟨log, .ok b⟩
  | fault {log : List Diagnostic} (quiet : IsQuiet log) (fault : Fault) :
      StopsAtConflict R ⟨log, .error fault⟩ ⟨log, .error fault⟩
  | conflict {log rest : List Diagnostic} (quiet : IsQuiet log) (source kind key : String)
      (outcome : Except Fault β) :
      StopsAtConflict R ⟨log, .error (.conflict kind key)⟩
        ⟨log ++ ⟨.warning, source, Fault.conflictMessage kind key⟩ :: rest, outcome⟩

namespace StopsAtConflict

variable {R : α → β → Prop} {S : γ → δ → Prop} {x : Logged α} {y : Logged β}

theorem pure {a : α} {b : β} (h : R a b) : StopsAtConflict R (Pure.pure a) (Pure.pure b) :=
  .result isQuiet_nil h

theorem ofExcept (x : Except Fault α) :
    StopsAtConflict Eq (Logged.ofExcept x) (Logged.ofExcept x) := by
  cases x with
  | ok a => exact .result isQuiet_nil rfl
  | error fault => exact .fault isQuiet_nil fault

theorem report {level : Level} (h : level ≠ .warning) (source message : String) :
    StopsAtConflict Eq (Logged.report level source message)
      (Logged.report level source message) := by
  refine .result (fun line hline conflict => ?_) rfl
  rw [List.mem_singleton.1 hline] at conflict
  exact h conflict.1

/-- Lines without a conflict in front of both runs. -/
theorem prepend {log : List Diagnostic} (quiet : IsQuiet log) (h : StopsAtConflict R x y) :
    StopsAtConflict R ⟨log ++ x.log, x.outcome⟩ ⟨log ++ y.log, y.outcome⟩ := by
  cases h with
  | result own related => exact .result (isQuiet_append.2 ⟨quiet, own⟩) related
  | fault own fault => exact .fault (isQuiet_append.2 ⟨quiet, own⟩) fault
  | conflict own source kind key outcome =>
    rw [← List.append_assoc]
    exact .conflict (isQuiet_append.2 ⟨quiet, own⟩) source kind key outcome

/-- Two runs that stop at the first conflict of others, one after the other. -/
theorem bind {f : α → Logged γ} {g : β → Logged δ} (h : StopsAtConflict R x y)
    (next : ∀ a b, R a b → StopsAtConflict S (f a) (g b)) :
    StopsAtConflict S (x >>= f) (y >>= g) := by
  cases h with
  | result quiet related => exact (next _ _ related).prepend quiet
  | fault quiet fault => exact .fault quiet fault
  | @conflict log rest quiet source kind key outcome =>
    -- the second run may go on, and what it writes then stands behind the conflict
    cases outcome with
    | error fault => exact .conflict quiet source kind key (.error fault)
    | ok b =>
      change StopsAtConflict S ⟨log, _⟩ ⟨(log ++ _ :: rest) ++ (g b).log, _⟩
      rw [List.append_assoc, List.cons_append]
      exact .conflict quiet source kind key (g b).outcome

/-- Runs of steps that each stop at the first conflict of another. -/
theorem foldlM {ι : Type} {step : α → ι → Logged α} {step' : β → ι → Logged β}
    (hstep : ∀ a b i, R a b → StopsAtConflict R (step a i) (step' b i)) {a : α} {b : β} (h : R a b)
    (is : List ι) : StopsAtConflict R (is.foldlM step a) (is.foldlM step' b) := by
  induction is generalizing a b with
  | nil => exact .pure h
  | cons i is ih =>
    rw [List.foldlM_cons, List.foldlM_cons]
    exact (hstep a b i h).bind fun _ _ related => ih related

/-- The first run has a result exactly if the second has it and reports no conflict. -/
theorem outcome_eq_ok_iff {y : Logged α} (h : StopsAtConflict Eq x y) (a : α) :
    x.outcome = .ok a ↔ y.outcome = .ok a ∧ IsQuiet y.log := by
  cases h with
  | result quiet related => simp [related, quiet]
  | fault quiet fault => simp
  | conflict quiet source kind key outcome =>
    refine iff_of_false (fun failed => by cases failed) fun h => ?_
    exact h.2 _ (List.mem_append_right _ List.mem_cons_self) ⟨rfl, kind, key, rfl⟩

/-- If the second run reports a conflict, the first has failed for the first one. -/
theorem exists_conflict (h : StopsAtConflict R x y) (loud : ¬IsQuiet y.log) :
    ∃ line before after kind key, y.log = before ++ line :: after ∧ IsQuiet before ∧
      line.level = .warning ∧ line.message = Fault.conflictMessage kind key ∧
      x = ⟨before, .error (.conflict kind key)⟩ := by
  cases h with
  | result quiet related => exact absurd quiet loud
  | fault quiet fault => exact absurd quiet loud
  | conflict quiet source kind key outcome =>
    exact ⟨_, _, _, kind, key, rfl, quiet, rfl, rfl, rfl⟩

end StopsAtConflict

end Logged

namespace Nim

open Logged (StopsAtConflict)

/-! ### Tables -/

namespace FirstWins

variable {α : Type} {t t' : FirstWins α}

/-- Two tables have the same entries, and only the first is strict. -/
structure IsStrictTwin (t t' : FirstWins α) : Prop where
  isStrict : t.strict = true
  isLax : t'.strict = false
  kind : t.kind = t'.kind
  entries : t.entries = t'.entries

/-- The same was returned beside two such tables. -/
def SameBesideTwins {β : Type} (r r' : β × FirstWins α) : Prop :=
  r.1 = r'.1 ∧ r.2.IsStrictTwin r'.2

namespace IsStrictTwin

theorem empty (kind : String) : (⟨kind, true, []⟩ : FirstWins α).IsStrictTwin ⟨kind, false, []⟩ :=
  ⟨rfl, rfl, rfl, rfl⟩

theorem set (h : t.IsStrictTwin t') (key : String) (item : Option α) :
    (t.set key item).IsStrictTwin (t'.set key item) where
  isStrict := h.isStrict
  isLax := h.isLax
  kind := h.kind
  entries := by
    have known : t.contains key = t'.contains key := by rw [contains, contains, h.entries]
    simp only [FirstWins.set, known, h.entries]

theorem size_eq (h : t.IsStrictTwin t') : t.size = t'.size := congrArg List.length h.entries

theorem definitions_eq (h : t.IsStrictTwin t') : t.definitions = t'.definitions := by
  rw [definitions, definitions, values, values, h.entries]

variable [DecidableEq α]

/-- A definition is entered into both tables, or the strict one stops where the other warns. -/
theorem define (h : t.IsStrictTwin t') (key : String) (item : Option α) :
    StopsAtConflict SameBesideTwins (t.define key item) (t'.define key item) := by
  have found : t.find? key = t'.find? key := by rw [find?, find?, h.entries]
  cases hf : t'.find? key with
  | none =>
    rw [define_of_fresh (found.trans hf), define_of_fresh hf]
    exact .pure ⟨rfl, h.set key item⟩
  | some first =>
    rw [define_of_found (found.trans hf), define_of_found hf, h.kind, h.isStrict, h.isLax]
    by_cases same : some first = item
    · rw [if_pos same, if_pos same]
      exact (StopsAtConflict.report (by decide) _ _).bind fun _ _ _ => .pure ⟨rfl, h⟩
    · rw [if_neg same, if_neg same]
      exact .conflict Logged.isQuiet_nil _ _ _ _

/-- So are all definitions of a list, one after the other. -/
theorem defineAll (h : t.IsStrictTwin t') (items : List (String × α)) :
    StopsAtConflict SameBesideTwins (t.defineAll items) (t'.defineAll items) := by
  induction items generalizing t t' with
  | nil => exact .pure ⟨rfl, h⟩
  | cons item items ih =>
    refine (h.define item.1 (some item.2)).bind ?_
    rintro ⟨isFirst, t₁⟩ ⟨_, t₁'⟩ ⟨rfl, twins⟩
    refine (ih twins).bind ?_
    rintro ⟨kept, t₂⟩ ⟨_, t₂'⟩ ⟨rfl, twins⟩
    exact .pure ⟨rfl, twins⟩

end IsStrictTwin

end FirstWins

section

variable (options : Options) (names : TypeNames)

/-- The types that are made for a peripheral do not depend on the option. -/
theorem stopsAtConflict_enterTypes {t t' : FirstWins ObjectType} (h : t.IsStrictTwin t')
    (p : Peripheral) :
    StopsAtConflict FirstWins.IsStrictTwin
      (enterTypes names { options with strict := true } t p)
      (enterTypes names { options with strict := false } t' p) := by
  refine (StopsAtConflict.ofExcept (nodeTypes names options p)).bind ?_
  rintro types _ rfl
  refine (h.defineAll _).bind ?_
  rintro ⟨kept, t₁⟩ ⟨_, t₁'⟩ ⟨-, twins⟩
  exact .pure twins

theorem stopsAtConflict_deviceTypes (d : Device) :
    StopsAtConflict FirstWins.IsStrictTwin
      (deviceTypes names { options with strict := true } d)
      (deviceTypes names { options with strict := false } d) := by
  rw [deviceTypes_eq_foldlM, deviceTypes_eq_foldlM]
  exact .foldlM (fun _ _ p twins => stopsAtConflict_enterTypes options names twins p) (.empty _) _

end

namespace Tables

variable {t t' : Tables}

/-- Each of three tables beside its strict twin. -/
structure AreStrictTwins (t t' : Tables) : Prop where
  structs : t.structs.IsStrictTwin t'.structs
  enums : t.enums.IsStrictTwin t'.enums
  accessors : t.accessors.IsStrictTwin t'.accessors

/-- The same was declared beside such tables. -/
def SameDeclarations (r r' : List Declaration × Tables) : Prop :=
  r.1 = r'.1 ∧ r.2.AreStrictTwins r'.2

theorem AreStrictTwins.define (h : t.AreStrictTwins t') (names : TypeNames) (p : Peripheral) :
    StopsAtConflict SameDeclarations (t.define names p) (t'.define names p) := by
  refine (StopsAtConflict.ofExcept (fieldStructs p names)).bind ?_
  rintro structs _ rfl
  refine (h.structs.defineAll _).bind ?_
  rintro ⟨newStructs, structTable⟩ ⟨_, _⟩ ⟨rfl, structTwins⟩
  refine (StopsAtConflict.ofExcept (enumTypes p names)).bind ?_
  rintro enums _ rfl
  refine (h.enums.defineAll _).bind ?_
  rintro ⟨newEnums, enumTable⟩ ⟨_, _⟩ ⟨rfl, enumTwins⟩
  refine (StopsAtConflict.ofExcept (peripheralAccessors p names)).bind ?_
  rintro routines _ rfl
  refine (h.accessors.defineAll _).bind ?_
  rintro ⟨newRoutines, accessorTable⟩ ⟨_, _⟩ ⟨rfl, accessorTwins⟩
  exact .pure ⟨rfl, structTwins, enumTwins, accessorTwins⟩

theorem AreStrictTwins.defineAll (h : t.AreStrictTwins t') (names : TypeNames)
    (ps : List Peripheral) :
    StopsAtConflict SameDeclarations (t.defineAll names ps) (t'.defineAll names ps) := by
  induction ps generalizing t t' with
  | nil => exact .pure ⟨rfl, h⟩
  | cons p ps ih =>
    refine (h.define names p).bind ?_
    rintro ⟨first, t₁⟩ ⟨_, t₁'⟩ ⟨rfl, twins⟩
    refine (ih twins).bind ?_
    rintro ⟨rest, t₂⟩ ⟨_, t₂'⟩ ⟨rfl, twins⟩
    exact .pure ⟨rfl, twins⟩

end Tables

/-! ### Modules -/

theorem Module.stopsAtConflict_ofDevice (options : Options) (d : Device) :
    StopsAtConflict Eq (ofDevice { options with strict := true } d)
      (ofDevice { options with strict := false } d) := by
  refine (StopsAtConflict.ofExcept d.validate).bind fun _ _ _ => ?_
  refine (stopsAtConflict_deviceTypes options (.ofDevice d) d).bind fun types types' twins => ?_
  refine (StopsAtConflict.ofExcept
    (d.peripherals.mapM (Instance.ofPeripheral (.ofDevice d) options))).bind ?_
  rintro instances _ rfl
  have empty : (Tables.empty { options with strict := true }).AreStrictTwins
      (Tables.empty { options with strict := false }) := ⟨.empty _, .empty _, .empty _⟩
  refine (empty.defineAll (.ofDevice d) d.peripherals).bind ?_
  rintro ⟨declarations, tables⟩ ⟨_, tables'⟩ ⟨rfl, tableTwins⟩
  dsimp only
  rw [twins.size_eq, twins.definitions_eq, tableTwins.structs.size_eq, tableTwins.enums.size_eq,
    tableTwins.accessors.size_eq]
  exact (StopsAtConflict.report (by decide) _ _).bind fun _ _ _ => .pure rfl

theorem stopsAtConflict_generate (options : Options) (d : Device) :
    StopsAtConflict Eq (generate { options with strict := true } d)
      (generate { options with strict := false } d) := by
  refine (Module.stopsAtConflict_ofDevice options d).bind ?_
  rintro m _ rfl
  exact .pure rfl

/-- **Strict runs.** A strict run has a text exactly if the run that is not strict has that text and
reports no conflict. If that run reports conflicts, the strict one has written what stands before
the first, and fails for it. -/
theorem generate_strict_iff (options : Options) (d : Device) :
    (∀ text, (generate { options with strict := true } d).outcome = .ok text ↔
      (generate { options with strict := false } d).outcome = .ok text ∧
        Logged.IsQuiet (generate { options with strict := false } d).log) ∧
    (¬Logged.IsQuiet (generate { options with strict := false } d).log →
      ∃ line before after kind key,
        (generate { options with strict := false } d).log = before ++ line :: after ∧
        Logged.IsQuiet before ∧ line.level = .warning ∧
        line.message = Fault.conflictMessage kind key ∧
        generate { options with strict := true } d = ⟨before, .error (.conflict kind key)⟩) :=
  ⟨(stopsAtConflict_generate options d).outcome_eq_ok_iff,
    (stopsAtConflict_generate options d).exists_conflict⟩

/-- Two ports of one layout, whose control registers differ in size. Their types are the same, their
accessors are not. -/
def resizedPort : Device where
  name := "BOARD"
  peripherals := [
    { name := "PORT", baseAddress := 0x40000000, registers := [{ name := "CTRL", offset := 0 }] },
    { name := "GPIO", baseAddress := 0x40001000, headerStructName := some "PORT"
      registers := [{ name := "CTRL", offset := 0, properties := { size := some 16 } }] }]

theorem generate_strict_iff_resizedPort : ¬Logged.IsQuiet (generate {} resizedPort).log ∧
    ∃ before kind key, Logged.IsQuiet before ∧
      generate { strict := true } resizedPort = ⟨before, .error (.conflict kind key)⟩ := by
  have warned : (⟨.warning, Source.generator,
      Fault.conflictMessage "accessor" "read[PORT_CTRL_Type]"⟩ : Diagnostic) ∈
        (generate {} resizedPort).log := by
    decide +kernel
  have loud : ¬Logged.IsQuiet (generate {} resizedPort).log := fun quiet =>
    quiet _ warned ⟨rfl, _, _, rfl⟩
  obtain ⟨-, before, -, kind, key, -, quiet, -, -, stopped⟩ :=
    (generate_strict_iff {} resizedPort).2 loud
  exact ⟨loud, before, kind, key, quiet, stopped⟩

end Nim

end RegisterMap
