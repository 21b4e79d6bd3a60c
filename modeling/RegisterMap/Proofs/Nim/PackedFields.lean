import Mathlib.Data.List.Chain
import RegisterMap.Proofs.Nim.Existence
import RegisterMap.Proofs.Nim.FoldedNames

/-!
# Packed bit fields

The object type of a register has its bit fields in bit order, and a filler wherever bits are left
over. One pass over the sorted fields makes it and passes on the first bit that is not covered yet.
If the fields lie in the register and do not overlap, the members stand side by side from the first
bit to the last, so that each field begins where the register has it.

Fillers take the first names of a sequence that no field has. At most one filler stands in front of
each field and one at the end, and the supply holds as many names.

## Main definitions

* `Tiles` : ranges of bits stand side by side.
* `Register.HoldsFields` : the fields lie in the register and do not overlap.
* `placedFrom` : the fields of an object type with the bits where they begin.
* `ObjectType.Covers` : an object type has the fields of a register in their places.

## Main results

* `tiles_fillGaps` : one pass over sorted fields covers all bits.
* `filter_not_isFiller_fillGaps`, `map_name_fillers` : the fields are kept, and the fillers take
  names from the front of the supply.
* `exists_fieldStruct_covers` : the object type of a register covers it.
-/

namespace RegisterMap

/-- The bit fields of a register lie in it and do not overlap. -/
@[mk_iff] structure Register.HoldsFields (r : Register) : Prop where
  size_nonneg : 0 ≤ r.size
  inside : ∀ f ∈ r.fields, 0 ≤ f.lsb ∧ f.lsb ≤ f.msb ∧ f.msb < r.size
  disjoint : r.fields.Pairwise fun f g => f.msb < g.lsb ∨ g.msb < f.lsb

instance (r : Register) : Decidable r.HoldsFields :=
  decidable_of_iff _ r.holdsFields_iff.symm

namespace Nim

/-! ### Names of fillers -/

/-- Different numbers add something different. -/
theorem variantDigits_injective : Function.Injective variantDigits := by
  have numbered : ∀ n : Nat, variantDigits (n + 1) ≠ "" := by
    intro n h
    have digits := congrArg String.toList h
    rw [variantDigits, Numeral.toList_decimal_natCast] at digits
    exact Nat.toDigits_ne_nil digits
  intro m n h
  cases m with
  | zero =>
    cases n with
    | zero => rfl
    | succ n => exact absurd h.symm (numbered n)
  | succ m =>
    cases n with
    | zero => exact absurd h (numbered m)
    | succ n => exact Int.natCast_inj.1 (Numeral.decimal_injective h)

theorem fillerName_eq (n : Nat) : fillerName n = "RESERVED" ++ variantDigits n := by
  cases n <;> rfl

theorem fillerName_injective : Function.Injective fillerName := by
  intro m n h
  rw [fillerName_eq, fillerName_eq, String.append_right_inj] at h
  exact variantDigits_injective h

section Supply

variable {taken : List String} {count : Nat}

theorem nodup_fillerNames : (fillerNames taken count).Nodup :=
  (List.nodup_range.map fillerName_injective).filter _

theorem notMem_of_mem_fillerNames {name : String} (h : name ∈ fillerNames taken count) :
    name ∉ taken := by
  simpa using (List.mem_filter.1 h).2

/-- Each field takes away one name at most. -/
theorem countP_taken_le (taken : List String) (n : Nat) :
    ((List.range n).countP fun k => taken.contains (fillerName k)) ≤ taken.length := by
  rw [List.countP_eq_length_filter, ← List.length_map fillerName]
  refine (List.subperm_of_subset ((List.nodup_range.filter _).map fillerName_injective)
    fun name mem => ?_).length_le
  obtain ⟨k, hk, rfl⟩ := List.mem_map.1 mem
  simpa using (List.mem_filter.1 hk).2

/-- The names of the first numbers are taken by fields or free. -/
theorem le_countP_free (taken : List String) (n : Nat) :
    n ≤ taken.length + (List.range n).countP fun k => !taken.contains (fillerName k) := by
  have split := List.length_eq_countP_add_countP (l := List.range n)
    fun k => taken.contains (fillerName k)
  have few := countP_taken_le taken n
  simp only [List.length_range, Bool.not_eq_true, Bool.decide_eq_false] at split
  omega

/-- The supply holds as many names as it is asked for. -/
theorem le_length_fillerNames : count ≤ (fillerNames taken count).length := by
  have free := le_countP_free taken (taken.length + count)
  rw [fillerNames, ← List.countP_eq_length_filter, List.countP_map]
  exact Nat.le_of_add_le_add_left free

end Supply

/-! ### One pass over the fields -/

/-- The range of bits of a field. -/
def PackedField.ofField (f : BitField) : PackedField := ⟨f.name, f.lsb, f.msb, false⟩

/-- Ranges of bits stand side by side from the bit `start` up to the bit `stop`, which is not
covered any more. -/
inductive Tiles (stop : Int) : Int → List PackedField → Prop
  | nil : Tiles stop stop []
  | cons {start : Int} {g : PackedField} {gs : List PackedField} (lsb : g.lsb = start)
      (lsb_le_msb : g.lsb ≤ g.msb) (rest : Tiles stop (g.msb + 1) gs) : Tiles stop start (g :: gs)

namespace Tiles

variable {start stop : Int} {gs : List PackedField}

theorem sum_width (h : Tiles stop start gs) : (gs.map PackedField.width).sum = stop - start := by
  induction h with
  | nil => simp
  | cons lsb _ _ ih =>
    rw [List.map_cons, List.sum_cons, ih, PackedField.width, bitWidth, lsb]
    omega

theorem width_pos (h : Tiles stop start gs) : ∀ g ∈ gs, 0 < g.width := by
  induction h with
  | nil => exact fun _ hg => absurd hg List.not_mem_nil
  | cons _ lsb_le_msb _ ih =>
    refine List.forall_mem_cons.2 ⟨?_, ih⟩
    rw [PackedField.width, bitWidth]
    omega

end Tiles

section Pass

variable {size next : Int} {names : List String} {fs : List BitField}

/-- One pass over sorted fields covers all bits from the first that is not covered yet. -/
theorem tiles_fillGaps (sorted : fs.Pairwise fun f g => f.msb < g.lsb)
    (inside : ∀ f ∈ fs, next ≤ f.lsb ∧ f.lsb ≤ f.msb ∧ f.msb < size) (rest : next ≤ size) :
    Tiles size next (fillGaps size names next fs) := by
  have filler : ∀ {name : String} {start msb : Int} {gs : List PackedField}, start < msb →
      Tiles size msb gs → Tiles size start (⟨name, start, msb - 1, true⟩ :: gs) := by
    intro name start msb gs gap tail
    exact .cons rfl (Int.le_sub_one_of_lt gap) ((Int.sub_add_cancel msb 1).symm ▸ tail)
  induction fs generalizing names next with
  | nil =>
    rw [fillGaps_nil]
    split
    · next gap => exact filler gap .nil
    · next none =>
      obtain rfl : next = size := by omega
      exact .nil
  | cons f fs ih =>
    obtain ⟨⟨begins, lsb_le_msb, ends⟩, inside⟩ := List.forall_mem_cons.1 inside
    obtain ⟨behind, sorted⟩ := List.pairwise_cons.1 sorted
    have tail : ∀ names, Tiles size (f.msb + 1) (fillGaps size names (f.msb + 1) fs) := fun names =>
      ih sorted (fun g hg => ⟨behind g hg, (inside g hg).2⟩) ends
    rw [fillGaps]
    split
    · next gap => exact filler gap (.cons rfl lsb_le_msb (tail _))
    · next none => exact .cons (by change f.lsb = next; omega) lsb_le_msb (tail _)

/-- No field is lost or changed. -/
theorem filter_not_isFiller_fillGaps :
    (fillGaps size names next fs).filter (!·.isFiller) = fs.map PackedField.ofField := by
  induction fs generalizing names next with
  | nil =>
    rw [fillGaps_nil]
    split <;> rfl
  | cons f fs ih =>
    rw [fillGaps, List.map_cons]
    split
    · rw [List.filter_cons_of_neg (by simp), List.filter_cons_of_pos (by simp), ih]
      rfl
    · rw [List.filter_cons_of_pos (by simp), ih]
      rfl

/-- Behind a filler stands a field. -/
theorem isChain_fillGaps : (fillGaps size names next fs).IsChain fun g g' =>
    g.isFiller = false ∨ g'.isFiller = false := by
  have field : ∀ {f : BitField} {gs : List PackedField},
      (gs.IsChain fun g g' => g.isFiller = false ∨ g'.isFiller = false) →
      (PackedField.ofField f :: gs).IsChain fun g g' =>
        g.isFiller = false ∨ g'.isFiller = false := fun tail =>
    List.isChain_cons.2 ⟨fun _ _ => .inl rfl, tail⟩
  induction fs generalizing names next with
  | nil =>
    rw [fillGaps_nil]
    split
    · exact .singleton _
    · exact .nil
  | cons f fs ih =>
    rw [fillGaps]
    split
    · exact List.isChain_cons_cons.2 ⟨.inr rfl, field ih⟩
    · exact field ih

/-- Fillers take names from the front of the supply. -/
theorem map_name_fillers (enough : fs.length < names.length) :
    ((fillGaps size names next fs).filter (·.isFiller)).map (·.name) =
      names.take ((fillGaps size names next fs).countP (·.isFiller)) := by
  induction fs generalizing names next with
  | nil =>
    obtain ⟨name, names, rfl⟩ := List.exists_cons_of_length_pos enough
    rw [fillGaps_nil]
    split <;> rfl
  | cons f fs ih =>
    rw [fillGaps]
    split
    · obtain ⟨name, names, rfl⟩ := List.exists_cons_of_length_pos (Nat.zero_lt_of_lt enough)
      have rest := @ih (f.msb + 1) names (Nat.lt_of_succ_lt_succ enough)
      rw [List.filter_cons_of_pos rfl, List.filter_cons_of_neg (by simp), List.map_cons,
        List.countP_cons_of_pos rfl, List.countP_cons_of_neg (by simp), List.take_succ_cons]
      exact congrArg (name :: ·) rest
    · rw [List.filter_cons_of_neg (by simp), List.countP_cons_of_neg (by simp)]
      exact ih (Nat.lt_of_succ_lt enough)

end Pass

section Pack

variable {r : Register}

/-- The members of the object type of a register cover all its bits. -/
theorem tiles_pack (holds : r.HoldsFields) : Tiles r.size 0 (pack r.fields r.size) := by
  have order := List.mergeSort_perm r.fields fun f g => f.lsb ≤ g.lsb
  have inside : ∀ f ∈ r.fields.mergeSort fun f g => f.lsb ≤ g.lsb,
      0 ≤ f.lsb ∧ f.lsb ≤ f.msb ∧ f.msb < r.size := fun f hf =>
    holds.inside f (order.mem_iff.1 hf)
  have ascending : (r.fields.mergeSort fun f g => f.lsb ≤ g.lsb).Pairwise fun f g =>
      decide (f.lsb ≤ g.lsb) = true :=
    List.pairwise_mergeSort (fun f g h => by simpa using Int.le_trans)
      (fun f g => by simpa using Int.le_total _ _) r.fields
  have disjoint := order.symm.pairwise holds.disjoint Or.symm
  have sorted := (ascending.and disjoint).imp_of_mem
    (S := fun f g => f.msb < g.lsb) fun hf hg ⟨before, apart⟩ => by
      have first := inside _ hf
      have second := inside _ hg
      have before := of_decide_eq_true before
      omega
  exact tiles_fillGaps sorted inside holds.size_nonneg

theorem fields_pack : (pack r.fields r.size).filter (!·.isFiller) =
    (r.fields.mergeSort fun f g => f.lsb ≤ g.lsb).map PackedField.ofField :=
  filter_not_isFiller_fillGaps

/-- Fillers take names from the front of the supply. -/
theorem map_name_fillers_pack : ((pack r.fields r.size).filter (·.isFiller)).map (·.name) =
    (fillerNames (r.fields.map (·.name)) (r.fields.length + 1)).take
      ((pack r.fields r.size).countP (·.isFiller)) :=
  map_name_fillers (Nat.lt_of_lt_of_le (by rw [List.length_mergeSort]; exact Nat.lt_succ_self _)
    le_length_fillerNames)

end Pack

/-! ### Object types of bit fields -/

/-- Number of bits of a field of an object type. -/
def ObjectField.bits (m : ObjectField) : Int := m.bitSize.getD 0

/-- The fields of an object type with the bits where they begin, the first at a given bit. -/
def placedFrom : Int → List ObjectField → List (Int × ObjectField)
  | _, [] => []
  | start, m :: ms => (start, m) :: placedFrom (start + m.bits) ms

/-- A field of an object type stands for a bit field and begins where that does. -/
structure IsPlacedField (f : BitField) (placed : Int × ObjectField) : Prop where
  start : placed.1 = f.lsb
  name : placed.2.name = f.name
  type : valueType f.width = .ok placed.2.type
  isPublic : placed.2.isPublic = true
  bitSize : placed.2.bitSize = some (f.msb - f.lsb + 1)

/-- An object type covers a register. It has as many bits as the register. Its public fields are the
bit fields of the register, each once and in its place. The others are fillers: they hold at least
one bit, no two stand side by side, and their names are different and not those of bit fields. -/
structure ObjectType.Covers (t : ObjectType) (r : Register) : Prop where
  bits : (t.fields.map ObjectField.bits).sum = r.size
  declared : ∃ fields : List BitField, fields.Perm r.fields ∧
    List.Forall₂ IsPlacedField fields ((placedFrom 0 t.fields).filter (·.2.isPublic))
  bitSize : ∀ m ∈ t.fields, ∃ n, m.bitSize = some n ∧ 0 < n
  apart : t.fields.IsChain fun m m' => m.isPublic = true ∨ m'.isPublic = true
  names : ((t.fields.filter (!·.isPublic)).map (·.name)).Nodup
  fresh : ∀ m ∈ t.fields, m.isPublic = false → m.name ∉ r.fields.map (·.name)

section Declarations

variable {r : Register} {typeName : String} {t : ObjectType} {g : PackedField} {m : ObjectField}
  {gs : List PackedField} {ms : List ObjectField}

/-- A range of bits is declared under its name with its width, and fillers are private. -/
theorem PackedField.declaration_eq_ok (h : g.declaration = .ok m) :
    valueType g.width = .ok m.type ∧ m.name = g.name ∧ m.isPublic = !g.isFiller ∧
      m.bitSize = some g.width := by
  obtain ⟨type, made, rfl⟩ := map_eq_ok_iff.1 h
  exact ⟨made, rfl, rfl, rfl⟩

/-- The members of the object type of a register are declared one by one. -/
theorem forall₂_of_fieldStruct (h : fieldStruct r typeName = .ok t) :
    List.Forall₂ (fun g m => g.declaration = .ok m) (pack r.fields r.size) t.fields := by
  obtain ⟨members, made, h⟩ := bind_eq_ok_iff.1 h
  cases h
  exact mapM_eq_ok_iff.1 made

/-- Ranges side by side are declared where they begin. -/
theorem Tiles.forall₂_placedFrom {start stop : Int} (h : Tiles stop start gs)
    (made : List.Forall₂ (fun g m => g.declaration = .ok m) gs ms) :
    List.Forall₂ (fun g placed => placed.1 = g.lsb ∧ g.declaration = .ok placed.2) gs
      (placedFrom start ms) := by
  induction h generalizing ms with
  | nil =>
    cases made
    exact .nil
  | @cons start g gs lsb _ _ ih =>
    obtain _ | ⟨own, made⟩ := made
    rename_i m ms
    obtain ⟨-, -, -, bitSize⟩ := PackedField.declaration_eq_ok own
    have next : start + m.bits = g.msb + 1 := by
      rw [ObjectField.bits, bitSize, Option.getD_some, PackedField.width, bitWidth, lsb]
      omega
    refine .cons ⟨lsb.symm, own⟩ ?_
    rw [next]
    exact ih made

/-- The names of the fillers of an object type. -/
theorem map_name_private (made : List.Forall₂ (fun g m => g.declaration = .ok m) gs ms) :
    (ms.filter (!·.isPublic)).map (·.name) = (gs.filter (·.isFiller)).map (·.name) := by
  induction made with
  | nil => rfl
  | @cons g m gs ms own _ ih =>
    obtain ⟨-, name, isPublic, -⟩ := PackedField.declaration_eq_ok own
    cases filler : g.isFiller <;> simp [filler, isPublic, name, ih]

/-- The names of fillers are different and not those of bit fields. -/
theorem fillers_of_fieldStruct (h : fieldStruct r typeName = .ok t) :
    ((t.fields.filter (!·.isPublic)).map (·.name)).Nodup ∧
      ∀ m ∈ t.fields, m.isPublic = false → m.name ∉ r.fields.map (·.name) := by
  have names := map_name_private (forall₂_of_fieldStruct h)
  rw [map_name_fillers_pack] at names
  constructor
  · rw [names]
    exact nodup_fillerNames.sublist (List.take_sublist _ _)
  · intro m hm hidden
    have mem : m.name ∈ (t.fields.filter (!·.isPublic)).map (·.name) :=
      List.mem_map_of_mem (List.mem_filter.2 ⟨hm, by simp [hidden]⟩)
    exact notMem_of_mem_fillerNames (List.mem_of_mem_take (names ▸ mem))

/-- Behind a filler stands a bit field. -/
theorem isChain_of_fieldStruct (h : fieldStruct r typeName = .ok t) :
    t.fields.IsChain fun m m' => m.isPublic = true ∨ m'.isPublic = true := by
  have hidden : (pack r.fields r.size).map (·.isFiller) = t.fields.map (!·.isPublic) :=
    map_eq_map_of_forall₂ ((forall₂_of_fieldStruct h).imp fun g m made => by
      simp [(PackedField.declaration_eq_ok made).2.2.1])
  have chain : ((pack r.fields r.size).map (·.isFiller)).IsChain fun a b => a = false ∨ b = false :=
    (List.isChain_map _).2 isChain_fillGaps
  rw [hidden, List.isChain_map] at chain
  exact chain.imp fun m m' => by simp

/-- The public fields of an object type are the bit fields in their places. -/
theorem exists_placed_of_fieldStruct (holds : r.HoldsFields)
    (h : fieldStruct r typeName = .ok t) : ∃ fields : List BitField, fields.Perm r.fields ∧
      List.Forall₂ IsPlacedField fields ((placedFrom 0 t.fields).filter (·.2.isPublic)) := by
  have placed := (tiles_pack holds).forall₂_placedFrom (forall₂_of_fieldStruct h)
  have shown := List.rel_filter (p := (!·.isFiller)) (q := (·.2.isPublic))
    (fun g placed made => by simp [(PackedField.declaration_eq_ok made.2).2.2.1]) placed
  rw [fields_pack, List.forall₂_map_left_iff] at shown
  refine ⟨_, List.mergeSort_perm _ _, shown.imp fun f placed ⟨start, made⟩ => ?_⟩
  obtain ⟨type, name, isPublic, bitSize⟩ := PackedField.declaration_eq_ok made
  exact { start, name, type, isPublic, bitSize }

end Declarations

/-- **Covered bits.** If the bit fields of a register lie in it and do not overlap, its object type
exists and covers it, whatever the order of the fields. -/
theorem exists_fieldStruct_covers {r : Register} (holds : r.HoldsFields) (typeName : String) :
    ∃ t, fieldStruct r typeName = .ok t ∧ t.name = TypeName.fields typeName ∧ t.Covers r := by
  have widths : ∀ f ∈ r.fields, 0 ≤ f.width := by
    intro f hf
    have inside := holds.inside f hf
    rw [BitField.width, bitWidth]
    omega
  obtain ⟨t, h⟩ := (fieldStruct_succeedsUnless r typeName).spec.1.2 widths
  have made := forall₂_of_fieldStruct h
  have tiles := tiles_pack holds
  obtain ⟨names, fresh⟩ := fillers_of_fieldStruct h
  refine ⟨t, h, name_of_fieldStruct h, ?_, exists_placed_of_fieldStruct holds h, ?_,
    isChain_of_fieldStruct h, names, fresh⟩
  · have bits : (pack r.fields r.size).map PackedField.width = t.fields.map ObjectField.bits :=
      map_eq_map_of_forall₂ (made.imp fun g m own => by
        rw [ObjectField.bits, (PackedField.declaration_eq_ok own).2.2.2, Option.getD_some])
    rw [← bits, tiles.sum_width, Int.sub_zero]
  · intro m hm
    obtain ⟨g, hg, own⟩ := exists_of_mem_right made hm
    exact ⟨g.width, (PackedField.declaration_eq_ok own).2.2.2, tiles.width_pos g hg⟩

/-- A register whose bit fields are declared from the last to the first. One is called like a
filler. -/
def reversedFields : Register where
  name := "CTRL"
  offset := 0
  properties := { size := some 16 }
  fields := [
    { name := "MODE", lsb := 12, msb := 13 },
    { name := "RESERVED", lsb := 4, msb := 7 },
    { name := "EN", lsb := 0, msb := 0 }]

theorem exists_fieldStruct_covers_reversedFields : reversedFields.HoldsFields ∧
    ∃ t, fieldStruct reversedFields "PORT_CTRL_Type" = .ok t ∧
      t.fields.map (fun m => (m.name, m.bits, m.isPublic)) = [
        ("EN", 1, true), ("RESERVED1", 3, false), ("RESERVED", 4, true), ("RESERVED2", 4, false),
        ("MODE", 2, true), ("RESERVED3", 2, false)] ∧
      t.Covers reversedFields := by
  have holds : reversedFields.HoldsFields := by decide
  have sorted : (reversedFields.fields.mergeSort fun f g => f.lsb ≤ g.lsb) =
      reversedFields.fields.reverse := by
    simp [reversedFields, List.mergeSort, List.MergeSort.Internal.splitInTwo]
  have members : ((fieldStruct reversedFields "PORT_CTRL_Type").map fun t =>
      t.fields.map fun m => (m.name, m.bits, m.isPublic)) = .ok [
        ("EN", 1, true), ("RESERVED1", 3, false), ("RESERVED", 4, true), ("RESERVED2", 4, false),
        ("MODE", 2, true), ("RESERVED3", 2, false)] := by
    rw [fieldStruct, pack, sorted]
    decide +kernel
  obtain ⟨t, made, -, covers⟩ := exists_fieldStruct_covers holds "PORT_CTRL_Type"
  rw [made] at members
  exact ⟨holds, t, made, Except.ok.inj members, covers⟩

end Nim

end RegisterMap
