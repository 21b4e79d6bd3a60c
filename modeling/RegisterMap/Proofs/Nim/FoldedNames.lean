import RegisterMap.Proofs.Nim.Idents
import RegisterMap.Proofs.Nim.Owners

/-!
# Type names that Nim takes for one

Type names are unique as texts, while Nim compares the first characters of two identifiers and,
ignoring underscores and case, the others. To Nim a variant is therefore its stem, the digits of its
number and `type`. Two names are one to Nim if their stems are, or if the digits of one number make
up for what the stems differ in. The first can be told from what is asked for on the device, since
nobody takes a variant of a stem while one with a smaller number is free.

## Main definitions

* `Owner.stem` : the identifier of which an owner's type name is a variant.
* `variantDigits` : what the number of a variant adds to what Nim compares.
* `Registry.IsDense` : no variant is skipped.
* `TypeNames.StemsApart` : the stems on a device differ to Nim, and so they do with their numbers.

## Main results

* `foldText_variant` : what Nim compares of a type name.
* `TypeNames.exists_lookup_variant` : the variants of smaller numbers are names of nodes, too.
* `TypeNames.foldText_ne_iff_stemsApart` : the devices whose type names differ to Nim.
-/

namespace RegisterMap.Nim

/-! ### What Nim compares of a variant -/

namespace Ident

/-- What Nim compares of characters behind the first. -/
def foldRest (s : String) : String := String.ofList ((s.toList.map Char.toLower).filter (· != '_'))

theorem foldRest_append (s t : String) : foldRest (s ++ t) = foldRest s ++ foldRest t := by
  simp [foldRest]

theorem foldText_append {s : String} (h : s.toList ≠ []) (t : String) :
    foldText (s ++ t) = foldText s ++ foldRest t := by
  obtain ⟨c, cs, split⟩ := List.exists_cons_of_ne_nil h
  simp [foldText, foldRest, fold, split, ← String.toList_inj]

/-- Nim compares all digits of a number. -/
theorem foldRest_decimal (n : Nat) : foldRest (Numeral.decimal n) = Numeral.decimal n := by
  have digits : ∀ c ∈ (Numeral.decimal n).toList, c.isDigit = true := fun c hc =>
    Nat.isDigit_of_mem_toDigits (by omega) (by omega) (Numeral.toList_decimal_natCast n ▸ hc)
  have lower : (Numeral.decimal n).toList.map Char.toLower = (Numeral.decimal n).toList := by
    refine (List.map_congr_left fun c hc => ?_).trans (List.map_id _)
    have digit := digits c hc
    -- only capital letters have another lower case
    refine dif_neg fun upper => ?_
    grind [Char.isDigit]
  have whole : (Numeral.decimal n).toList.filter (· != '_') = (Numeral.decimal n).toList := by
    refine List.filter_eq_self.2 fun c hc => ?_
    rw [bne_iff_ne]
    rintro rfl
    cases digits _ hc
  rw [foldRest, lower, whole, String.ofList_toList]

theorem ofText_ne_nil (s : String) : (ofText s).toList ≠ [] := by
  obtain ⟨-, c, cs, letters, -⟩ := letters_spec s
  rw [toList_ofText, protect, letters]
  split <;> simp

end Ident

/-- What the number of a variant adds to what Nim compares. -/
def variantDigits : Nat → String
  | 0 => ""
  | n + 1 => Numeral.decimal (n + 1 : Nat)

/-- Nim compares the stem of a variant and the digits of its number. -/
theorem foldText_variant (base : String) (n : Nat) :
    Ident.foldText (variant (Ident.ofText base) n) =
      Ident.foldText (Ident.ofText base) ++ variantDigits n ++ "type" := by
  have mark : Ident.foldRest "_" = "" := rfl
  have ending : Ident.foldRest TypeName.ending = "type" := by decide +kernel
  have stem := Ident.ofText_ne_nil base
  cases n with
  | zero => rw [variant, variantDigits, Ident.foldText_append stem, ending, String.append_empty]
  | succ n =>
    rw [variant, variantDigits, String.append_assoc, String.append_assoc,
      Ident.foldText_append stem, Ident.foldRest_append, Ident.foldRest_append, mark, ending,
      Ident.foldRest_decimal, String.empty_append, String.append_assoc]

/-! ### Variants that are taken -/

/-- The identifier of which an owner's type name is a variant. -/
def Owner.stem (o : Owner) : String := Ident.ofText o.requested

/-- No variant is skipped: before that of an owner, all with smaller numbers are taken. -/
def Registry.IsDense (reg : Registry Owner) : Prop :=
  ∀ owner n, (owner, variant owner.stem n) ∈ reg.claims →
    ∀ m < n, variant owner.stem m ∈ reg.claims.map Prod.snd

/-- A claim skips no variant. -/
theorem Registry.IsDense.claim {reg : Registry Owner} (h : reg.IsDense) {base : String}
    {owner : Owner} (hb : owner.requested = base) : (reg.claim base owner).2.IsDense := by
  cases hn : reg.nameOf? owner with
  | some name =>
    rw [claim_of_nameOf? hn]
    exact h
  | none =>
    rw [Registry.claim, hn]
    intro other n mem m hm
    refine List.mem_cons_of_mem _ ?_
    rcases List.mem_cons.1 mem with same | mem
    · obtain ⟨rfl, numbered⟩ := Prod.mk.inj same
      rw [Owner.stem, hb] at numbered ⊢
      rw [variant_injective _ numbered] at hm
      exact isTaken_eq_true.1 (isTaken_of_lt_firstFree hm)
    · exact h other n mem m hm

/-- A claim adds no name but the one that it returns. -/
theorem Registry.eq_or_mem_of_mem_claim {reg : Registry Owner} {base : String} {owner : Owner}
    {name : String} (h : name ∈ (reg.claim base owner).2.claims.map Prod.snd) :
    name = (reg.claim base owner).1 ∨ name ∈ reg.claims.map Prod.snd := by
  cases hn : reg.nameOf? owner with
  | some old =>
    rw [claim_of_nameOf? hn] at h
    exact .inr h
  | none =>
    rw [Registry.claim, hn] at h ⊢
    exact List.mem_cons.1 h

namespace TypeNames

/-- No variant is skipped, and every name in the registry is given to a node. -/
theorem keptByClaims_isDense : KeptByClaims fun given reg =>
    reg.IsDense ∧ ∀ name ∈ reg.claims.map Prod.snd, ∃ q, (q, name) ∈ given := by
  rintro given reg path base owner hb ⟨dense, named⟩
  refine ⟨dense.claim hb, fun name hname => ?_⟩
  rcases Registry.eq_or_mem_of_mem_claim hname with rfl | old
  · exact ⟨path, List.mem_append_right _ List.mem_cons_self⟩
  · obtain ⟨q, hq⟩ := named name old
    exact ⟨q, List.mem_append_left _ hq⟩

variable {d : Device}

/-- If a node has a variant of what it asks for, other nodes have the variants before it. -/
theorem exists_lookup_variant (h : d.nodePaths.Nodup) {owner : Owner} {n : Nat}
    (claimed : (owner, variant owner.stem n) ∈ (registry d).claims) {m : Nat} (hm : m ≤ n) :
    ∃ q, (ofDevice d).lookup q = .ok (variant owner.stem m) := by
  obtain ⟨dense, named⟩ := of_keptByClaims keptByClaims_isDense
    ⟨fun _ _ mem => absurd mem List.not_mem_nil, fun _ mem => absurd mem List.not_mem_nil⟩ d
  have taken : variant owner.stem m ∈ (registry d).claims.map Prod.snd := by
    rcases Nat.lt_or_eq_of_le hm with less | rfl
    · exact dense owner n claimed m less
    · exact List.mem_map_of_mem claimed
  obtain ⟨q, hq⟩ := named _ taken
  exact ⟨q, (lookup_eq_ok_iff_mem h).2 hq⟩

/-- The first variant of every stem is the name of a node. -/
theorem IsOwner.exists_lookup_first (h : d.nodePaths.Nodup) {q : NodePath} {owner : Owner}
    (ho : IsOwner (ofDevice d) d q owner) :
    ∃ q, (ofDevice d).lookup q = .ok (variant owner.stem 0) := by
  obtain ⟨name, -, claimed⟩ := ho.exists_lookup h
  obtain ⟨n, numbered : name = variant owner.stem n⟩ := (isUnique_registry d).variants _ claimed
  exact exists_lookup_variant h (numbered ▸ claimed) (Nat.zero_le n)

/-- Every type name is a variant of the stem of its node's owner. -/
theorem exists_isOwner_of_lookup (h : d.nodePaths.Nodup) {q : NodePath} {name : String}
    (hq : (ofDevice d).lookup q = .ok name) :
    ∃ owner n, IsOwner (ofDevice d) d q owner ∧ name = variant owner.stem n := by
  obtain ⟨p, hp, path⟩ := exists_lookup_iff.1 ⟨name, hq⟩
  obtain ⟨owner, ho⟩ := exists_isOwner (List.mem_flatMap.2 ⟨p, hp, path⟩)
  obtain ⟨n, numbered⟩ := (isUnique_registry d).variants _ (ho.mem_claims h hq)
  exact ⟨owner, n, ho, numbered⟩

/-! ### Names that differ to Nim -/

/-- What is asked for on a device differs to Nim: different stems do, and a stem with the digits of
a number does from any stem with those of another number. -/
structure StemsApart (names : TypeNames) (d : Device) : Prop where
  stems : ∀ q q' owner owner', IsOwner names d q owner → IsOwner names d q' owner' →
    owner.stem ≠ owner'.stem → Ident.foldText owner.stem ≠ Ident.foldText owner'.stem
  numbers : ∀ q q' owner owner' n n', IsOwner names d q owner → IsOwner names d q' owner' →
    names.lookup q = .ok (variant owner.stem n) → names.lookup q' = .ok (variant owner'.stem n') →
    n ≠ n' → Ident.foldText owner.stem ++ variantDigits n ≠
      Ident.foldText owner'.stem ++ variantDigits n'

/-- Nim takes two variants for one exactly if it does so with their stems and digits. -/
theorem foldText_variant_stem_eq_iff {owner owner' : Owner} {n n' : Nat} :
    Ident.foldText (variant owner.stem n) = Ident.foldText (variant owner'.stem n') ↔
      Ident.foldText owner.stem ++ variantDigits n =
        Ident.foldText owner'.stem ++ variantDigits n' := by
  rw [Owner.stem, Owner.stem, foldText_variant, foldText_variant, String.append_left_inj]

/-- **Type names to Nim.** Where no two nodes of a device have one path, different type names differ
to Nim exactly if the stems asked for on the device do, and no number makes up for what they differ
in. -/
theorem foldText_ne_iff_stemsApart (h : d.nodePaths.Nodup) :
    (∀ q q' name name', (ofDevice d).lookup q = .ok name → (ofDevice d).lookup q' = .ok name' →
      name ≠ name' → Ident.foldText name ≠ Ident.foldText name') ↔ StemsApart (ofDevice d) d := by
  constructor
  · intro apart
    refine ⟨fun q q' owner owner' ho ho' differ same => ?_,
      fun q q' owner owner' n n' ho ho' hq hq' differ same => ?_⟩
    · -- the first variants of the two stems are names of nodes
      obtain ⟨r, hr⟩ := ho.exists_lookup_first h
      obtain ⟨r', hr'⟩ := ho'.exists_lookup_first h
      refine apart r r' _ _ hr hr' (fun equal => differ ?_) (foldText_variant_stem_eq_iff.2 ?_)
      · exact (String.append_left_inj _).1 equal
      · rw [same]
    · refine apart q q' _ _ hq hq' (fun equal => differ ?_) (foldText_variant_stem_eq_iff.2 same)
      -- one name has one owner, and one number
      cases ((isUnique_registry d).name_eq_iff (ho.mem_claims h hq) (ho'.mem_claims h hq')).1 equal
      exact variant_injective _ equal
  · rintro ⟨stems, numbers⟩ q q' name name' hq hq' differ same
    obtain ⟨owner, n, ho, rfl⟩ := exists_isOwner_of_lookup h hq
    obtain ⟨owner', n', ho', rfl⟩ := exists_isOwner_of_lookup h hq'
    have read := foldText_variant_stem_eq_iff.1 same
    by_cases number : n = n'
    · subst number
      have stem : owner.stem ≠ owner'.stem := fun equal => differ (by rw [equal])
      exact stems q q' owner owner' ho ho' stem ((String.append_left_inj _).1 read)
    · exact numbers q q' owner owner' n n' ho ho' hq hq' number read

theorem foldText_ne_iff_stemsApart_clashingStems : clashingStems.nodePaths.Nodup ∧
    StemsApart (ofDevice clashingStems) clashingStems := by
  have nodup : clashingStems.nodePaths.Nodup := by decide +kernel
  have differ : ∀ e ∈ (ofDevice clashingStems).entries, ∀ e' ∈ (ofDevice clashingStems).entries,
      e.2 ≠ e'.2 → Ident.foldText e.2 ≠ Ident.foldText e'.2 := by
    decide +kernel
  refine ⟨nodup, (foldText_ne_iff_stemsApart nodup).1 fun q q' name name' hq hq' => ?_⟩
  exact differ (q, name) (mem_entries_of_lookup hq) (q', name') (mem_entries_of_lookup hq')

/-- Two ports whose names differ in case. -/
def mixedCase : Device where
  name := "BOARD"
  peripherals := [
    { name := "UART", baseAddress := 0x40000000, registers := [{ name := "CTRL", offset := 0 }] },
    { name := "Uart", baseAddress := 0x40001000, registers := [{ name := "CTRL", offset := 0 }] }]

theorem not_forall_foldText_ne : ¬ ∀ d : Device, d.nodePaths.Nodup → ∀ q q' name name',
    (ofDevice d).lookup q = .ok name → (ofDevice d).lookup q' = .ok name' → name ≠ name' →
      Ident.foldText name ≠ Ident.foldText name' := by
  intro differ
  have first : (ofDevice mixedCase).lookup ["UART"] = .ok "UART_Type" := by decide +kernel
  have second : (ofDevice mixedCase).lookup ["Uart"] = .ok "Uart_Type" := by decide +kernel
  exact differ mixedCase (by decide +kernel) _ _ _ _ first second (by decide) (by decide +kernel)

end TypeNames

end RegisterMap.Nim
