import RegisterMap.Device.Basic
import RegisterMap.Fault
import RegisterMap.Text.Blank
import RegisterMap.Text.CharClass

/-!
# Layout of repeated nodes

A repeated node has a count and a stride. Its instances are named by indices: numbers from zero, a
range of numbers or letters, or a list of names.

## Main definitions

* `Repetition.Layout` : count and stride of a repeated node.
* `layout` : the layout that a repetition declares.
* `Repetition.indices` : the indices of the instances.

## Main results

* `layout_eq_ok_iff` : exactly the repetitions with a positive count and a stride have a layout.
-/

namespace RegisterMap

/-- How a repeated node is laid out: the number of instances and the distance between them. -/
structure Repetition.Layout where
  count : Nat
  stride : Int
  deriving DecidableEq, Repr

/-- Distances of the instances from the first. -/
def Repetition.Layout.offsets (l : Repetition.Layout) : List Int :=
  (List.range l.count).map fun i : Nat => i * l.stride

@[simp] theorem Repetition.Layout.length_offsets (l : Repetition.Layout) :
    l.offsets.length = l.count := by
  simp [offsets]

/-- The layout that a repetition declares; `owner` names the node in a fault. -/
def layout (owner : String) (r : Option Repetition) : Except Fault Repetition.Layout :=
  match r.bind (·.count), r.bind (·.increment) with
  | some count, some increment =>
    if count < 1 then .error (.emptyRepetition owner count) else .ok ⟨count.toNat, increment⟩
  | _, _ => .error (.incompleteRepetition owner)

/-- Exactly the repetitions with a positive count and a stride have a layout. -/
theorem layout_eq_ok_iff {owner : String} {r : Option Repetition} {l : Repetition.Layout} :
    layout owner r = .ok l ↔
      1 ≤ l.count ∧ r.bind (·.count) = some (l.count : Int) ∧
        r.bind (·.increment) = some l.stride := by
  obtain ⟨n, s⟩ := l
  unfold layout
  split
  · next count increment hc hi =>
    rw [hc, hi]
    split
    · next h =>
      simp only [reduceCtorEq, Option.some.injEq, false_iff, not_and]
      omega
    · next h =>
      simp only [Except.ok.injEq, Repetition.Layout.mk.injEq, Option.some.injEq]
      omega
  · next h =>
    simp only [reduceCtorEq, false_iff, not_and]
    exact fun _ hc hi => h _ _ hc hi

/-! ### Indices -/

/-- Two parts of a text around a separator that occurs once, without the blanks around them. -/
def splitPair? (separator : Char) (s : String) : Option (List Char × List Char) :=
  match s.toList.splitOn separator with
  | [a, b] => some (Text.stripEnd (Text.stripStart a), Text.stripEnd (Text.stripStart b))
  | _ => none

/-- Value of a decimal number in the digits of any script. -/
def decimalNumber? : List Char → Option Nat
  | [] => none
  | cs => (cs.mapM Text.decimalValue?).map fun ds => ds.foldl (fun n d => 10 * n + d) 0

/-- Range of numbers, `a-b`. -/
def numberRange? (s : String) : Option (List String) := do
  let (a, b) ← splitPair? '-' s
  let first ← decimalNumber? a
  let last ← decimalNumber? b
  pure ((List.range' first (last + 1 - first)).map fun n : Nat => Numeral.decimal n)

/-- Range of ASCII letters, `A-F`. -/
def letterRange? (s : String) : Option (List String) :=
  match splitPair? '-' s with
  | some ([a], [b]) =>
    if a.isAlpha && b.isAlpha then
      let codes := List.range' a.toNat (b.toNat + 1 - a.toNat)
      some (codes.map fun n => String.singleton (Char.ofNat n))
    else none
  | _ => none

/-- Names between commas, without the blanks around them. -/
def nameList (s : String) : List String :=
  (s.toList.splitOn ',').map fun cs => Text.strip (String.ofList cs)

/-- The indices that an index text lists. -/
def listedIndices (s : String) : List String :=
  ((numberRange? s).or (letterRange? s)).getD (nameList s)

/-- The indices of the instances of a repeated node; there must be as many as instances. -/
def Repetition.indices (r : Repetition) (owner : String) : Except Fault (List String) :=
  let count := r.count.getD 0
  match r.index with
  | none => .ok ((List.range count.toNat).map fun n : Nat => Numeral.decimal n)
  | some text =>
    let names := listedIndices text
    if (names.length : Int) = count then .ok names
    else .error (.indexMismatch owner text names.length count)

end RegisterMap
