import RegisterMap.Proofs.Nim.IdentGrammar
import RegisterMap.Proofs.Nim.PackedFields

/-!
# Identifiers of bit fields

The names of fillers are chosen so that no bit field has them, as texts. An object type is declared
with identifiers made from the names, and Nim compares those by their first characters and, ignoring
underscores and case, by the others. Fillers are always apart for Nim, while a bit field may be
spelled unlike a filler and still be the same for Nim. This file tells from the names of the fields
and the number of gaps when that happens.

## Main definitions

* `memberFold` : what Nim compares of the field of an object type that has the given name.
* `UsesFiller` : the numbers that fillers of a register get.

## Main results

* `Ident.ofText_eq_self` : words are identifiers as they are.
* `mem_fillers_iff` : the names of the fillers of a register.
* `nodup_foldText_ident_iff` : when Nim tells the fields of an object type apart.
-/

namespace RegisterMap.Nim

/-! ### Identifiers of fillers -/

namespace Ident

/-- A word that begins with a letter and is no keyword is an identifier as it is. -/
theorem ofText_eq_self {s : String} {c : Char} {cs : List Char} (split : s.toList = c :: cs)
    (word : IsWord s.toList) (letter : c.isDigit = false)
    (other : isKeyword s.toList = false) : ofText s = s :=
  ofText_eq_iff.2 (.plain (mem_grammar_iff.2 ⟨word, c, cs, split, letter⟩) other)

/-- No keyword begins with a capital letter. -/
theorem isKeyword_of_isUpper {c : Char} {cs : List Char} (capital : c.isUpper = true) :
    isKeyword (c :: cs) = false := by
  have small : ∀ k ∈ keywords, k.toList.head?.all (!·.isUpper) = true := by decide +kernel
  refine Bool.eq_false_iff.2 fun keyword => ?_
  have first := small _ (List.contains_iff_mem.1 keyword)
  simp [fold, capital] at first

end Ident

theorem isDigit_of_mem_variantDigits {n : Nat} {c : Char} (hc : c ∈ (variantDigits n).toList) :
    c.isDigit = true := by
  cases n with
  | zero => exact absurd hc List.not_mem_nil
  | succ n =>
    rw [variantDigits, Numeral.toList_decimal_natCast] at hc
    exact Nat.isDigit_of_mem_toDigits (by omega) (by omega) hc

theorem foldRest_variantDigits (n : Nat) : Ident.foldRest (variantDigits n) = variantDigits n := by
  cases n with
  | zero => rfl
  | succ n => exact Ident.foldRest_decimal (n + 1)

/-- The name of a filler is one run of letters and digits. -/
theorem isRun_fillerName (n : Nat) : Ident.IsRun (fillerName n).toList := by
  have letters : "RESERVED".toList.all Char.isAlphanum = true := by decide
  rw [fillerName_eq, String.toList_append]
  refine ⟨by simp, fun c hc => ?_⟩
  rcases List.mem_append.1 hc with hc | hc
  · exact List.all_eq_true.1 letters c hc
  · simp [Char.isAlphanum, isDigit_of_mem_variantDigits hc]

/-- Fillers are declared under their names. -/
theorem ofText_fillerName (n : Nat) : Ident.ofText (fillerName n) = fillerName n := by
  have letters : (fillerName n).toList = 'R' :: ("ESERVED".toList ++ (variantDigits n).toList) := by
    rw [fillerName_eq, String.toList_append]
    rfl
  refine Ident.ofText_eq_self letters (.run (isRun_fillerName n)) (by decide) ?_
  rw [letters]
  exact Ident.isKeyword_of_isUpper (by decide)

/-- What Nim compares of the field of an object type that has the given name. -/
def memberFold (name : String) : String := Ident.foldText (Ident.ofText (baseName name))

/-- Nim compares the digits of a filler's number. -/
theorem memberFold_fillerName (n : Nat) :
    memberFold (fillerName n) = "Reserved" ++ variantDigits n := by
  have percent : '%' ∉ (fillerName n).toList := fun mem =>
    absurd ((isRun_fillerName n).2 _ mem) (by decide)
  rw [memberFold, baseName_of_not_mem percent, ofText_fillerName, fillerName_eq,
    Ident.foldText_append (by decide), foldRest_variantDigits]
  rfl

/-! ### Numbers of fillers -/

/-- A number whose filler stands in the object type of a register: no bit field has the filler's
name, and fewer of the names before it are free than there are gaps. -/
structure UsesFiller (r : Register) (n : Nat) : Prop where
  free : fillerName n ∉ r.fields.map (·.name)
  reached : ((List.range n).countP fun k => !(r.fields.map (·.name)).contains (fillerName k)) <
    (pack r.fields r.size).countP (·.isFiller)

section Supply

variable {taken : List String} {count n : Nat}

/-- The names before a number's in the supply are the free ones of smaller numbers. -/
theorem exists_fillerNames_eq (free : fillerName n ∉ taken) (less : n < taken.length + count) :
    ∃ front back, fillerNames taken count = front ++ fillerName n :: back ∧
      front.length = (List.range n).countP fun k => !taken.contains (fillerName k) := by
  obtain ⟨m, split⟩ := Nat.exists_eq_add_of_lt less
  have ranges : List.range (taken.length + count) =
      List.range n ++ n :: (List.range m).map (n + 1 + ·) := by
    rw [split, Nat.add_right_comm, List.range_add, List.range_succ, List.append_assoc,
      List.singleton_append]
  refine ⟨((List.range n).map fillerName).filter (!taken.contains ·),
    (((List.range m).map (n + 1 + ·)).map fillerName).filter (!taken.contains ·), ?_, ?_⟩
  · rw [fillerNames, ranges, List.map_append, List.filter_append, List.map_cons,
      List.filter_cons_of_pos (by simpa using free)]
  · rw [← List.countP_eq_length_filter, List.countP_map]
    rfl

/-- The names at the front of the supply are the free ones before which few are. -/
theorem mem_take_fillerNames_iff {gaps : Nat} (enough : gaps ≤ count) :
    fillerName n ∈ (fillerNames taken count).take gaps ↔ fillerName n ∉ taken ∧
      ((List.range n).countP fun k => !taken.contains (fillerName k)) < gaps := by
  by_cases free : fillerName n ∈ taken
  · exact iff_of_false (fun mem => notMem_of_mem_fillerNames (List.mem_of_mem_take mem) free)
      fun reached => reached.1 free
  by_cases less : n < taken.length + count
  · obtain ⟨front, back, split, length⟩ := exists_fillerNames_eq free less
    have fresh : fillerName n ∉ front := by
      have distinct : (fillerNames taken count).Nodup := nodup_fillerNames
      rw [split] at distinct
      exact fun mem => (List.nodup_append.1 distinct).2.2 _ mem _ List.mem_cons_self rfl
    rw [split, ← length, List.take_append, List.mem_append]
    constructor
    · rintro (mem | mem)
      · exact absurd (List.mem_of_mem_take mem) fresh
      · exact ⟨free, Nat.lt_of_sub_pos (List.length_pos_of_mem mem |>.trans_le (by simp))⟩
    · rintro ⟨-, reached⟩
      obtain ⟨rest, some⟩ := Nat.exists_eq_succ_of_ne_zero (Nat.sub_ne_zero_of_lt reached)
      exact .inr (by rw [some]; exact List.mem_cons_self)
  · -- so many names are free before that the supply ends before the number
    refine iff_of_false (fun mem => ?_) fun reached => ?_
    · obtain ⟨k, hk, same⟩ := List.mem_map.1 (List.mem_filter.1 (List.mem_of_mem_take mem)).1
      cases fillerName_injective same
      exact less (List.mem_range.1 hk)
    · have many := le_countP_free taken n
      omega

end Supply

section Register

variable {r : Register} {typeName : String} {t : ObjectType}

/-- At most one filler stands in front of each field and one at the end. -/
theorem countP_fillGaps_le {size next : Int} {names : List String} {fs : List BitField} :
    (fillGaps size names next fs).countP (·.isFiller) ≤ fs.length + 1 := by
  induction fs generalizing names next with
  | nil =>
    rw [fillGaps_nil]
    split <;> simp
  | cons f fs ih =>
    rw [fillGaps]
    split
    · rw [List.countP_cons_of_pos rfl, List.countP_cons_of_neg (by simp)]
      exact Nat.succ_le_succ ih
    · rw [List.countP_cons_of_neg (by simp)]
      exact Nat.le_succ_of_le ih

theorem countP_pack_le : (pack r.fields r.size).countP (·.isFiller) ≤ r.fields.length + 1 :=
  countP_fillGaps_le.trans_eq (by rw [List.length_mergeSort])

/-- The fillers of a register have the names of the numbers that it uses. -/
theorem mem_fillers_iff (made : fieldStruct r typeName = .ok t) {name : String} :
    name ∈ (t.fields.filter (!·.isPublic)).map (·.name) ↔
      ∃ n, UsesFiller r n ∧ fillerName n = name := by
  have used : ∀ n, fillerName n ∈ (t.fields.filter (!·.isPublic)).map (·.name) ↔
      UsesFiller r n := by
    intro n
    rw [map_name_private (forall₂_of_fieldStruct made), map_name_fillers_pack,
      mem_take_fillerNames_iff countP_pack_le]
    exact ⟨fun ⟨free, reached⟩ => ⟨free, reached⟩, fun uses => ⟨uses.free, uses.reached⟩⟩
  constructor
  · intro mem
    have supply := mem
    rw [map_name_private (forall₂_of_fieldStruct made), map_name_fillers_pack] at supply
    obtain ⟨n, -, rfl⟩ := List.mem_map.1 (List.mem_filter.1 (List.mem_of_mem_take supply)).1
    exact ⟨n, (used n).1 mem, rfl⟩
  · rintro ⟨n, uses, rfl⟩
    exact (used n).2 uses

/-- The public fields of an object type have the names of the bit fields. -/
theorem map_name_public (made : fieldStruct r typeName = .ok t) :
    ((t.fields.filter (·.isPublic)).map (·.name)).Perm (r.fields.map (·.name)) := by
  have shown := List.rel_filter (p := (!·.isFiller)) (q := (·.isPublic))
    (fun g m own => by simp [(PackedField.declaration_eq_ok own).2.2.1])
    (forall₂_of_fieldStruct made)
  rw [fields_pack] at shown
  have names := map_eq_map_of_forall₂ (shown.imp fun g m own =>
    (PackedField.declaration_eq_ok own).2.1.symm)
  rw [← names, List.map_map]
  exact (List.mergeSort_perm _ _).map _

/-- Bit fields and fillers together are the members of an object type. -/
theorem perm_map_memberFold (made : fieldStruct r typeName = .ok t) :
    (t.fields.map fun m => Ident.foldText m.ident).Perm
      ((r.fields.map fun f => memberFold f.name) ++
        ((t.fields.filter (!·.isPublic)).map (·.name)).map memberFold) := by
  have parts := (List.filter_append_perm (·.isPublic) t.fields).map fun m => memberFold m.name
  have shown := (map_name_public made).map memberFold
  rw [List.map_map, List.map_map] at shown
  rw [List.map_append] at parts
  rw [List.map_map]
  exact parts.symm.trans (shown.append_right _)

/-- Fillers are apart for Nim. -/
theorem nodup_map_memberFold_fillers (made : fieldStruct r typeName = .ok t) :
    (((t.fields.filter (!·.isPublic)).map (·.name)).map memberFold).Nodup := by
  refine (fillers_of_fieldStruct made).1.map_on fun name hname name' hname' same => ?_
  obtain ⟨n, -, rfl⟩ := (mem_fillers_iff made).1 hname
  obtain ⟨n', -, rfl⟩ := (mem_fillers_iff made).1 hname'
  rw [memberFold_fillerName, memberFold_fillerName, String.append_right_inj] at same
  rw [variantDigits_injective same]

/-- **Fillers apart from bit fields.** Nim tells the members of the object type of a register apart
if and only if, besides telling its bit fields apart, it takes none of them for a filler of the
register. -/
theorem nodup_foldText_ident_iff (made : fieldStruct r typeName = .ok t) :
    (t.fields.map fun m => Ident.foldText m.ident).Nodup ↔
      (r.fields.map fun f => memberFold f.name).Nodup ∧
        ∀ f ∈ r.fields, ∀ n, UsesFiller r n →
          memberFold f.name ≠ "Reserved" ++ variantDigits n := by
  rw [(perm_map_memberFold made).nodup_iff, List.nodup_append]
  refine and_congr_right fun _ => ⟨fun ⟨_, apart⟩ f hf n uses => ?_, fun apart => ?_⟩
  · rw [← memberFold_fillerName]
    exact apart _ (List.mem_map_of_mem hf) _
      (List.mem_map_of_mem ((mem_fillers_iff made).2 ⟨n, uses, rfl⟩))
  · refine ⟨nodup_map_memberFold_fillers made, fun a ha b hb => ?_⟩
    obtain ⟨f, hf, rfl⟩ := List.mem_map.1 ha
    obtain ⟨name, hname, rfl⟩ := List.mem_map.1 hb
    obtain ⟨n, uses, rfl⟩ := (mem_fillers_iff made).1 hname
    rw [memberFold_fillerName]
    exact apart f hf n uses

end Register

/-- A register with bit fields that differ from fillers in the case of the first letter and in a
number that no filler gets. -/
def nearFillers : Register where
  name := "CTRL"
  offset := 0
  properties := { size := some 16 }
  fields := [
    { name := "reserved1", lsb := 4, msb := 5 },
    { name := "Reserved2", lsb := 6, msb := 7 }]

theorem nodup_foldText_ident_iff_nearFillers :
    ∃ t, fieldStruct nearFillers "PORT_CTRL_Type" = .ok t ∧
      t.fields.map (·.ident) = ["RESERVED", "reserved1", "Reserved2", "RESERVED1"] ∧
      (t.fields.map fun m => Ident.foldText m.ident).Nodup ∧
      ∀ f ∈ nearFillers.fields, ∀ n, UsesFiller nearFillers n →
        memberFold f.name ≠ "Reserved" ++ variantDigits n := by
  have sorted : (nearFillers.fields.mergeSort fun f g => f.lsb ≤ g.lsb) = nearFillers.fields :=
    List.mergeSort_of_pairwise (by decide)
  have members : ((fieldStruct nearFillers "PORT_CTRL_Type").map fun t =>
      t.fields.map (·.ident)) = .ok ["RESERVED", "reserved1", "Reserved2", "RESERVED1"] := by
    rw [fieldStruct, pack, sorted]
    decide +kernel
  obtain ⟨t, made, idents⟩ := map_eq_ok_iff.1 members
  have apart : (t.fields.map fun m => Ident.foldText m.ident).Nodup := by
    have folded := congrArg (List.map Ident.foldText) idents
    rw [List.map_map] at folded
    exact folded ▸ by decide +kernel
  exact ⟨t, made, idents, apart, ((nodup_foldText_ident_iff made).1 apart).2⟩

/-- The field of this register is spelled like its filler but for the case. -/
def reservedField : Register where
  name := "CTRL"
  offset := 0
  properties := { size := some 8 }
  fields := [{ name := "Reserved", lsb := 4, msb := 7 }]

theorem not_forall_nodup_foldText_ident : ¬ ∀ (r : Register) (typeName : String) (t : ObjectType),
    (r.fields.map fun f => memberFold f.name).Nodup → fieldStruct r typeName = .ok t →
      (t.fields.map fun m => Ident.foldText m.ident).Nodup := by
  intro all
  have members : ((fieldStruct reservedField "PORT_CTRL_Type").map fun t =>
      t.fields.map fun m => Ident.foldText m.ident) = .ok ["Reserved", "Reserved"] := by
    decide +kernel
  obtain ⟨t, made, same⟩ := map_eq_ok_iff.1 members
  have apart := all reservedField "PORT_CTRL_Type" t (List.nodup_singleton _) made
  rw [same] at apart
  exact absurd apart (by decide)

end RegisterMap.Nim
