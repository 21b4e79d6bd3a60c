import RegisterMap.Diagnostic.Basic
import RegisterMap.Fault

/-!
# Logged computations

A step of the generator writes diagnostics and then has a result or a fault. What it wrote stays
written when it fails.

## Main definitions

* `Logged` : the diagnostics and the outcome of a step.
* `Logged.report`, `Logged.fail` : a step that writes one line, and one that fails.

## Main results

* `Logged.outcome_bind`, `Logged.log_bind_of_ok` : two steps in a row.
* The laws of a monad.
-/

namespace RegisterMap

/-- The diagnostics that a step writes, and its result or fault. -/
structure Logged (α : Type) where
  log : List Diagnostic
  outcome : Except Fault α

namespace Logged

variable {α β γ : Type}

@[ext] theorem ext {x y : Logged α} (log : x.log = y.log) (outcome : x.outcome = y.outcome) :
    x = y := by
  cases x
  cases y
  simp_all

/-- A result, with nothing written. -/
protected def pure (a : α) : Logged α := ⟨[], .ok a⟩

/-- A step and then another that depends on its result; a fault ends both. -/
protected def bind (x : Logged α) (f : α → Logged β) : Logged β :=
  match x.outcome with
  | .ok a => ⟨x.log ++ (f a).log, (f a).outcome⟩
  | .error fault => ⟨x.log, .error fault⟩

instance : Monad Logged where
  pure := Logged.pure
  bind := Logged.bind

/-- A step that writes one line. -/
def report (level : Level) (source message : String) : Logged Unit :=
  ⟨[⟨level, source, message⟩], .ok ()⟩

/-- A step that fails. -/
def fail (fault : Fault) : Logged α := ⟨[], .error fault⟩

/-- A step that writes nothing. -/
def ofExcept (x : Except Fault α) : Logged α := ⟨[], x⟩

instance : MonadLift (Except Fault) Logged where
  monadLift := ofExcept

@[simp] theorem liftM_ok (a : α) : (liftM (Except.ok a : Except Fault α) : Logged α) = pure a := rfl

@[simp] theorem log_pure (a : α) : (pure a : Logged α).log = [] := rfl

@[simp] theorem outcome_pure (a : α) : (pure a : Logged α).outcome = .ok a := rfl

@[simp] theorem log_ofExcept (x : Except Fault α) : (ofExcept x).log = [] := rfl

@[simp] theorem outcome_ofExcept (x : Except Fault α) : (ofExcept x).outcome = x := rfl

@[simp] theorem outcome_report (level : Level) (source message : String) :
    (report level source message).outcome = .ok () := rfl

@[simp] theorem outcome_fail (fault : Fault) : (fail fault : Logged α).outcome = .error fault := rfl

theorem bind_def (x : Logged α) (f : α → Logged β) : x >>= f =
    match x.outcome with
    | .ok a => ⟨x.log ++ (f a).log, (f a).outcome⟩
    | .error fault => ⟨x.log, .error fault⟩ := rfl

/-- The outcome of two steps in a row does not depend on what they write. -/
@[simp] theorem outcome_bind (x : Logged α) (f : α → Logged β) :
    (x >>= f).outcome = x.outcome >>= fun a => (f a).outcome := by
  rw [bind_def]
  cases x.outcome <;> rfl

/-- After a result the second step's lines follow the first's. -/
theorem log_bind_of_ok {x : Logged α} {a : α} (h : x.outcome = .ok a) (f : α → Logged β) :
    (x >>= f).log = x.log ++ (f a).log := by
  rw [bind_def, h]

protected theorem pure_bind (a : α) (f : α → Logged β) : (pure a : Logged α) >>= f = f a := rfl

protected theorem bind_pure (x : Logged α) : x >>= pure = x := by
  rcases x with ⟨log, fault | a⟩ <;> simp [bind_def]

protected theorem bind_assoc (x : Logged α) (f : α → Logged β) (g : β → Logged γ) :
    x >>= f >>= g = x >>= fun a => f a >>= g := by
  rcases x with ⟨log, fault | a⟩
  · simp [bind_def]
  · cases h : (f a).outcome <;> simp [bind_def, h]

instance : LawfulMonad Logged :=
  LawfulMonad.mk' Logged (fun x => Logged.bind_pure x) (fun a f => Logged.pure_bind a f)
    (fun x f g => Logged.bind_assoc x f g)

/-- The outcome of a traversal does not depend on what its steps write. -/
theorem outcome_mapM (f : α → Logged β) (xs : List α) :
    (xs.mapM f).outcome = xs.mapM fun a => (f a).outcome := by
  induction xs with
  | nil => rfl
  | cons a xs ih => simp only [List.mapM_cons, outcome_bind, ih, outcome_pure]; rfl

end Logged

end RegisterMap
