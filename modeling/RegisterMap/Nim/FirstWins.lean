import RegisterMap.Diagnostic.Logged

/-!
# Tables in which the first definition wins

Definitions are collected by name. A later definition under a name is dropped; if it differs from
the first one, that is reported, or in a strict table a fault. A name may be entered without a
definition, which its next definition replaces.

## Main definitions

* `FirstWins` : the definitions so far.
* `FirstWins.define` : enters a definition, and says whether it is the first of its name.
* `FirstWins.defineAll` : enters definitions in order and returns those that are first.

## Main results

* `FirstWins.define_of_fresh` : the first definition of a name is kept.
* `FirstWins.outcome_define_of_equal` : the same definition again changes nothing.
-/

namespace RegisterMap.Nim

/-- Definitions by name in the order of their names' first entry. The kind of definition is named
in reports. -/
structure FirstWins (α : Type) where
  kind : String
  strict : Bool
  entries : List (String × Option α) := []
  deriving Repr

namespace FirstWins

variable {α : Type}

/-- The definition of a name, if it has one. -/
def find? (t : FirstWins α) (key : String) : Option α := (t.entries.lookup key).join

/-- The name is entered. -/
def contains (t : FirstWins α) (key : String) : Bool := t.entries.any fun e => e.1 == key

/-- Number of names. -/
def size (t : FirstWins α) : Nat := t.entries.length

/-- What is entered, in order. -/
def values (t : FirstWins α) : List (Option α) := t.entries.map (·.2)

/-- The definitions in order. -/
def definitions (t : FirstWins α) : List α := t.values.filterMap id

/-- The table with something entered under a name: in the place of the name, or at the end. -/
def set (t : FirstWins α) (key : String) (item : Option α) : FirstWins α :=
  { t with
    entries :=
      if t.contains key then t.entries.map fun e => if e.1 == key then (key, item) else e
      else t.entries ++ [(key, item)] }

variable [DecidableEq α]

/-- Enters a definition under a name and says whether it is the first. A different definition under
the name is reported, or a fault in a strict table. -/
def define (t : FirstWins α) (key : String) (item : Option α) : Logged (Bool × FirstWins α) :=
  match t.find? key with
  | none => pure (true, t.set key item)
  | some first =>
    if some first = item then do
      Logged.report .debug Source.generator (t.kind ++ " " ++ key ++ " already emitted")
      pure (false, t)
    else if t.strict then Logged.fail (.conflict t.kind key)
    else do
      Logged.report .warning Source.generator (Fault.conflictMessage t.kind key)
      pure (false, t)

/-- Enters definitions in order and returns those that are the first of their names. -/
def defineAll (t : FirstWins α) : List (String × α) → Logged (List α × FirstWins α)
  | [] => pure ([], t)
  | (key, item) :: rest => do
    let (isFirst, t) ← t.define key (some item)
    let (kept, t) ← t.defineAll rest
    pure (if isFirst then item :: kept else kept, t)

/-- The first definition of a name is kept. -/
theorem define_of_fresh {t : FirstWins α} {key : String} (h : t.find? key = none)
    (item : Option α) : t.define key item = pure (true, t.set key item) := by
  rw [define, h]

/-- The same definition again changes nothing. -/
theorem outcome_define_of_equal {t : FirstWins α} {key : String} {item : α}
    (h : t.find? key = some item) : (t.define key (some item)).outcome = .ok (false, t) := by
  rw [define, h]
  simp only [if_pos]
  rfl

end FirstWins

end RegisterMap.Nim
