import Mathlib.Data.List.Sort
import RegisterMap.Nim.BitFields
import RegisterMap.Proofs.Nim.MergedNames

/-!
# Enumerations of named values

Each bit field whose values have names gets an enumeration. Nim wants the numbers of its members in
ascending order, so they are sorted, and no value is lost. The order is strict if no number is named
twice. The members are declared under identifiers made from the names, and these merge names that
differ in signs alone: `+6` and `-6` both become `x6`.

## Main definitions

* `EnumType.Declares` : an enumeration of given values.

## Main results

* `pairwise_lt_iff_nodup` : numbers in order ascend strictly if none occurs twice.
* `fieldEnums_declare` : the enumerations of a register's fields.
-/

namespace RegisterMap.Nim

/-! ### Sorting by number -/

/-- Numbers in order ascend strictly if and only if none occurs twice. -/
theorem pairwise_lt_iff_nodup {ns : List Int} (sorted : ns.Pairwise (· ≤ ·)) :
    ns.Pairwise (· < ·) ↔ ns.Nodup :=
  ⟨fun ascending => ascending.imp Int.ne_of_lt,
    fun distinct => sorted.imp₂ (fun _ _ => lt_of_le_of_ne) distinct⟩

theorem pairwise_le_mergeSort {α : Type} (number : α → Int) (xs : List α) :
    ((xs.mergeSort fun a b => number a ≤ number b).map number).Pairwise (· ≤ ·) := by
  have sorted : (xs.mergeSort fun a b => number a ≤ number b).map number =
      (xs.map number).mergeSort fun m n => m ≤ n := List.map_mergeSort fun _ _ _ _ => rfl
  rw [sorted]
  exact List.pairwise_mergeSort' _ _

/-! ### Enumerations -/

/-- The enumeration has one member for each value, under the identifier made from its name and with
its number. The numbers ascend strictly if no two values have the same, and the identifiers differ
if those of no two values are merged. -/
structure EnumType.Declares (e : EnumType) (values : List (String × Int)) : Prop where
  members_perm : e.members.Perm (values.map fun v => (Ident.ofText v.1, v.2))
  ascending_iff : (e.members.map (·.2)).Pairwise (· < ·) ↔ (values.map (·.2)).Nodup
  nodup_iff : (e.members.map (·.1)).Nodup ↔
    values.Pairwise fun v w => ¬Ident.AreMerged v.1 w.1

/-- No value is lost. -/
theorem members_fieldEnum_perm (typeName : String) (f : BitField) (values : EnumeratedValues) :
    (fieldEnum typeName f values).members.Perm
      (values.values.map fun v => (Ident.ofText v.1, v.2)) :=
  List.mergeSort_perm _ _

theorem declares_fieldEnum (typeName : String) (f : BitField) (values : EnumeratedValues) :
    (fieldEnum typeName f values).Declares values.values := by
  have perm := members_fieldEnum_perm typeName f values
  have sorted : ((fieldEnum typeName f values).members.map (·.2)).Pairwise (· ≤ ·) :=
    pairwise_le_mergeSort (fun m : String × Int => m.2) _
  refine ⟨perm, ?_, ?_⟩
  · rw [pairwise_lt_iff_nodup sorted, (perm.map _).nodup_iff, List.map_map]
    rfl
  · rw [(perm.map _).nodup_iff, List.map_map, List.Nodup, List.pairwise_map]
    exact List.Pairwise.iff fun v w => not_congr Ident.ofText_eq_ofText_iff

/-- **Enumerations of a register's fields.** Of the fields of a register exactly those whose values
have names get an enumeration, one each and in order, and it declares these values. -/
theorem fieldEnums_declare (r : Register) (typeName : String) :
    List.Forall₂ (fun f e => ∃ values, f.enumeratedValues = some values ∧
        EnumType.Declares e values.values)
      (r.fields.filter (·.enumeratedValues.isSome)) (fieldEnums r typeName) := by
  rw [fieldEnums]
  induction r.fields with
  | nil => exact .nil
  | cons f fs ih =>
    cases named : f.enumeratedValues with
    | none => simpa [named] using ih
    | some values =>
      rw [List.filter_cons_of_pos (by simp [named]),
        List.filterMap_cons_some (b := fieldEnum typeName f values) (by simp [named])]
      exact .cons ⟨values, named, declares_fieldEnum typeName f values⟩ ih

/-- A gain with a sign in front, either way. -/
def signedGain : Register where
  name := "GAIN"
  offset := 0
  fields := [{
    name := "STEP", lsb := 0, msb := 1
    enumeratedValues := some { values := [("+6", 1), ("-6", 0)] } }]

theorem not_forall_nodup_members : ¬∀ (r : Register) (typeName : String),
    (∀ f ∈ r.fields, ∀ values, f.enumeratedValues = some values →
      (values.values.map (·.1)).Nodup ∧ (values.values.map (·.2)).Nodup) →
    ∀ e ∈ fieldEnums r typeName, (e.members.map (·.1)).Nodup := by
  intro all
  have named : ∀ f ∈ signedGain.fields, ∀ values, f.enumeratedValues = some values →
      (values.values.map (·.1)).Nodup ∧ (values.values.map (·.2)).Nodup := by
    intro f hf values hvalues
    cases List.mem_singleton.1 hf
    cases hvalues
    decide
  have distinct := all signedGain "PORT_GAIN_Type" named _ (List.mem_singleton_self _)
  rw [((members_fieldEnum_perm _ _ _).map _).nodup_iff] at distinct
  exact absurd distinct (by decide +kernel)

end RegisterMap.Nim
