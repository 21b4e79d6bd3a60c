import RegisterMap.Nim.Declaration
import RegisterMap.Proofs.Nim.Idents
import RegisterMap.Proofs.Nim.Owners

/-!
# Identifiers of types

A type is declared under the identifier made from its name, and mentioned by the name itself. The
name is an identifier with an ending, so the two differ in backticks only. They differ at all where
the identifier without the ending reads as a keyword, and so stands between backticks in the name.

## Main definitions

* `numbered` : the ending of a name, after its number if it has one.

## Main results

* `variant_eq`, `fields_variant` : type names are an identifier with an ending.
* `TypeNames.ident_eq_name_iff` : the types that are declared under the names they are mentioned by.
-/

namespace RegisterMap.Nim

/-! ### Endings -/

/-- The ending of a name, after the number that it has if it is not the first. -/
def numbered (ending : String) : Nat → String
  | 0 => ending
  | n + 1 => Numeral.decimal (n + 1 : Nat) ++ "_" ++ ending

theorem variant_eq (stem : String) : (n : Nat) → variant stem n = stem ++ "_" ++ numbered "Type" n
  | 0 => by
      rw [variant, numbered, String.append_assoc]
      rfl
  | n + 1 => by
      simp only [variant, numbered, String.append_assoc]
      rfl

theorem fields_variant (stem : String) :
    (n : Nat) → TypeName.fields (variant stem n) = stem ++ "_" ++ numbered "Fields" n
  | 0 => by rw [variant, TypeName.fields, TypeName.append, TypeName.stem_append_ending, numbered]
  | n + 1 => by
      rw [variant, TypeName.fields, TypeName.append, TypeName.stem_append_ending, numbered]
      simp only [String.append_assoc]

theorem isWord_numbered {ending : String} (h : Ident.IsWord ending.toList) :
    (n : Nat) → Ident.IsWord (numbered ending n).toList
  | 0 => h
  | n + 1 => by
      rw [numbered, String.toList_append, String.toList_append, List.append_assoc]
      exact (Ident.isWord_decimal (n + 1)).append h

/-- An ending stays the ending behind a number. -/
theorem exists_toList_numbered (ending : String) :
    (n : Nat) → ∃ front, (numbered ending n).toList = front ++ ending.toList
  | 0 => ⟨[], rfl⟩
  | _ + 1 => ⟨_, String.toList_append⟩

/-- A type name becomes an identifier by losing the backticks that it has if its base reads as a
keyword. -/
theorem ofText_numbered (base : String) {ending : String} (word : Ident.IsWord ending.toList)
    (free : Ident.EndsNoKeyword ending.toList) (n : Nat) :
    let name := Ident.ofText base ++ "_" ++ numbered ending n
    Ident.ofText name = withoutBackticks name ∧
      (Ident.ofText name = name ↔ Ident.isQuoted base = false) := by
  obtain ⟨front, split⟩ := exists_toList_numbered ending n
  refine Ident.ofText_ofText_append base (isWord_numbered word n) ?_
  rw [split, ← List.cons_append, ← List.append_assoc]
  exact Ident.isKeyword_append (by simp) free

theorem isRun_type : Ident.IsRun "Type".toList := ⟨by simp, by simp⟩

theorem isRun_fields : Ident.IsRun "Fields".toList := ⟨by simp, by simp⟩

/-- The types named by a variant are declared under their names without backticks. Those are their
names unless the base reads as a keyword. -/
theorem ident_of_variant {base : String} {n : Nat} {t : ObjectType}
    (h : t.name = variant (Ident.ofText base) n ∨
      t.name = TypeName.fields (variant (Ident.ofText base) n)) :
    t.ident = withoutBackticks t.name ∧ (t.ident = t.name ↔ Ident.isQuoted base = false) := by
  rw [ObjectType.ident]
  rcases h with h | h
  · rw [h, variant_eq]
    exact ofText_numbered base (.run isRun_type) (by decide +kernel) n
  · rw [h, fields_variant]
    exact ofText_numbered base (.run isRun_fields) (by decide +kernel) n

/-! ### Types of a device -/

namespace TypeNames

/-- **Declared and mentioned names.** Every type name of a device is a numbered variant of the name
that its owner asks for. The type of that name, and the type of bit fields named after it, are
declared under their names without backticks. So the declaration has the very name that is mentioned
elsewhere exactly if what the owner asks for does not read as a keyword. -/
theorem ident_eq_name_iff {d : Device} {path : NodePath} {typeName : String}
    (h : (ofDevice d).lookup path = .ok typeName) :
    ∃ owner n, (owner, typeName) ∈ (registry d).claims ∧
      typeName = variant (Ident.ofText owner.requested) n ∧
      ∀ t : ObjectType, t.name = typeName ∨ t.name = TypeName.fields typeName →
        t.ident = withoutBackticks t.name ∧
          (t.ident = t.name ↔ Ident.isQuoted owner.requested = false) := by
  obtain ⟨owner, n, claimed, rfl⟩ := exists_claim_of_lookup h
  exact ⟨owner, n, claimed, rfl, fun t ht => ident_of_variant ht⟩

/-- A port whose layout the description calls by a keyword. -/
def keywordLayout : Device where
  name := "BOARD"
  peripherals := [
    { name := "PORT", baseAddress := 0x40000000, headerStructName := some "block"
      registers := [{ name := "CTRL", offset := 0 }] }]

theorem ident_eq_name_iff_keywordLayout :
    (ofDevice keywordLayout).lookup ["PORT"] = .ok "`block`_Type" ∧
      ∀ t : ObjectType, t.name = "`block`_Type" → t.ident = "block_Type" := by
  have name : (ofDevice keywordLayout).lookup ["PORT"] = .ok "`block`_Type" := by decide +kernel
  obtain ⟨owner, n, -, -, ident⟩ := ident_eq_name_iff name
  refine ⟨name, fun t ht => ?_⟩
  rw [(ident t (.inl ht)).1, ht]
  decide +kernel

theorem not_forall_ident_eq_name :
    ¬ ∀ (d : Device) (path : NodePath) (typeName : String),
      (ofDevice d).lookup path = .ok typeName →
        ∀ t : ObjectType, t.name = typeName ∨ t.name = TypeName.fields typeName →
          t.ident = t.name := by
  intro same
  have name : (ofDevice keywordLayout).lookup ["PORT"] = .ok "`block`_Type" := by decide +kernel
  have declared := same keywordLayout ["PORT"] _ name { name := "`block`_Type" } (.inl rfl)
  exact absurd declared (by decide +kernel)

end TypeNames

end RegisterMap.Nim
