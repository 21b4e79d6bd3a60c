import RegisterMap.Nim.MemberName
import RegisterMap.Nim.TypeNames
import RegisterMap.Proofs.Device.Contents
import RegisterMap.Proofs.Outcome

/-!
# Names of a device's nodes

Exactly the nodes of a device have type names, each under its path. What a registry gives is made of
letters, digits, underscores and backticks.

## Main definitions

* `IsPlain` : a name of letters, digits, underscores and backticks.
* `AllNamed` : all nodes in a node have type names.

## Main results

* `TypeNames.exists_lookup_iff` : the paths that have a type name.
* `isPlain_variant` : the names that a registry gives are plain.
-/

namespace RegisterMap.Nim

/-! ### Plain names -/

/-- A name of letters, digits, underscores and backticks. -/
def IsPlain (name : String) : Prop := ∀ c ∈ name.toList, Ident.isWordChar c = true ∨ c = '\x60'

theorem isPlain_of_all {name : String}
    (h : (name.toList.all fun c => Ident.isWordChar c || c == '\x60') = true) : IsPlain name := by
  simpa [IsPlain] using h

theorem isPlain_append {s t : String} (hs : IsPlain s) (ht : IsPlain t) : IsPlain (s ++ t) := by
  intro c hc
  rw [String.toList_append, List.mem_append] at hc
  exact hc.elim (hs c) (ht c)

/-- Identifiers are plain. -/
theorem isPlain_ofText (s : String) : IsPlain (Ident.ofText s) := by
  have letters : ∀ cs : List Char, (∀ c ∈ cs, Ident.isWordChar c = true) →
      ∀ c ∈ Ident.withLetterFirst cs, Ident.isWordChar c = true := by
    intro cs h
    cases cs with
    | nil => simp [Ident.withLetterFirst, Ident.isWordChar]
    | cons d cs =>
      rw [Ident.withLetterFirst]
      split
      · exact List.forall_mem_cons.2 ⟨by decide, h⟩
      · exact h
  have words := letters (Ident.joined s.toList) fun _ hc => Ident.isWordChar_of_mem_joined hc
  intro c hc
  rw [Ident.ofText, String.toList_ofList, Ident.protect] at hc
  split at hc
  · simp only [List.cons_append, List.mem_cons, List.mem_append, List.not_mem_nil, or_false] at hc
    rcases hc with rfl | hc | rfl
    · exact .inr rfl
    · exact .inl (words c hc)
    · exact .inr rfl
  · exact .inl (words c hc)

theorem isPlain_memberName (d : Decoration) : (m : Member) → IsPlain (d.memberName m)
  | .register _ => isPlain_ofText _
  | .cluster _ => isPlain_ofText _

/-- The names that a registry gives are plain. -/
theorem isPlain_variant (base : String) : (n : Nat) → IsPlain (variant (Ident.ofText base) n)
  | 0 => isPlain_append (isPlain_ofText base) (isPlain_of_all (by decide))
  | n + 1 => by
      have number : IsPlain (Numeral.decimal (n + 1 : Nat)) := by
        intro c hc
        rw [Numeral.toList_decimal_natCast] at hc
        have digit := Nat.isDigit_of_mem_toDigits (by omega) (by omega) hc
        exact .inl (by simp [Ident.isWordChar, Char.isAlphanum, digit])
      have mark : IsPlain "_" := isPlain_of_all (by decide)
      have ending : IsPlain TypeName.ending := isPlain_of_all (by decide)
      have numbered := isPlain_append (isPlain_append (isPlain_ofText base) mark) number
      exact isPlain_append numbered ending

/-! ### Names given to nodes -/

mutual

theorem map_fst_assignNode (path : NodePath) (parentType : String) :
    (n : Node) → (reg : Registry Owner) →
      (assignNode path parentType n reg).1.map Prod.fst = n.paths path
  | .register _, _ => rfl
  | .cluster _ members, _ => congrArg (path :: ·) (map_fst_assignNodes path _ members _)

theorem map_fst_assignNodes (path : NodePath) (typeName : String) :
    (ns : List Node) → (reg : Registry Owner) →
      (assignNodes path typeName ns reg).1.map Prod.fst = nodePaths path ns
  | [], _ => rfl
  | n :: ns, reg => by
      rw [assignNodes, nodePaths, List.map_append, map_fst_assignNode _ _ n,
        map_fst_assignNodes _ _ ns]

end

theorem map_fst_assignPeripheral (p : Peripheral) (reg : Registry Owner) :
    (assignPeripheral p reg).1.map Prod.fst = p.contents.paths [p.name] :=
  congrArg ([p.name] :: ·) (map_fst_assignNodes _ _ _ _)

theorem map_fst_assignPeripherals : (ps : List Peripheral) → (reg : Registry Owner) →
    (assignPeripherals ps reg).1.map Prod.fst =
      ps.flatMap fun p => p.contents.paths [p.name]
  | [], _ => rfl
  | p :: ps, reg => by
      rw [assignPeripherals, List.map_append, map_fst_assignPeripheral,
        map_fst_assignPeripherals ps, List.flatMap_cons]

namespace TypeNames

/-- What is looked up was given. -/
theorem mem_entries_of_lookup {names : TypeNames} {path : NodePath} {name : String}
    (h : names.lookup path = .ok name) : (path, name) ∈ names.entries :=
  List.mem_reverse.1 (mem_of_lookup_eq_some (lookup_eq_ok_iff.1 h))

/-- Exactly the nodes of a device have type names. -/
theorem exists_lookup_iff {d : Device} {path : NodePath} :
    (∃ name, (ofDevice d).lookup path = .ok name) ↔
      ∃ p ∈ d.peripherals, path ∈ p.contents.paths [p.name] := by
  have given : path ∈ (ofDevice d).entries.map Prod.fst ↔
      ∃ p ∈ d.peripherals, path ∈ p.contents.paths [p.name] := by
    rw [ofDevice, map_fst_assignPeripherals, List.mem_flatMap]
  rw [← given]
  constructor
  · rintro ⟨name, h⟩
    exact List.mem_map.2 ⟨_, mem_entries_of_lookup h, rfl⟩
  · intro h
    obtain ⟨⟨key, name⟩, he, rfl⟩ := List.mem_map.1 h
    cases hf : (ofDevice d).find? key with
    | some found => exact ⟨found, lookup_eq_ok_iff.2 hf⟩
    | none =>
      have absent := List.lookup_eq_none_iff.1 hf (key, name) (List.mem_reverse.2 he)
      simp at absent

end TypeNames

/-! ### Named nodes -/

section

variable {names : TypeNames} {path : NodePath}

/-- All nodes in a node that has the given path have type names. -/
def AllNamed (names : TypeNames) (path : NodePath) (c : Contents) : Prop :=
  ∀ q ∈ c.paths path, ∃ typeName, names.lookup q = .ok typeName

theorem allNamed_ofDevice {d : Device} {p : Peripheral} (hp : p ∈ d.peripherals) :
    AllNamed (TypeNames.ofDevice d) [p.name] p.contents := fun _ hq =>
  TypeNames.exists_lookup_iff.2 ⟨p, hp, hq⟩

theorem AllNamed.registersBelow {c : Contents} (h : AllNamed names path c)
    {q : NodePath × Register} (hq : q ∈ c.registersBelow path) :
    ∃ typeName, names.lookup q.1 = .ok typeName :=
  h _ (Contents.mem_paths_of_mem_registersBelow hq)

end

end RegisterMap.Nim
