import RegisterMap.Proofs.Nim.Existence
import RegisterMap.Proofs.Nim.MergedNames

/-!
# Names of fields in the type of a node

The type of a node has a field for each member. A register's field has the texts of the peripheral
around its base name and a cluster's has not, and both become identifiers. Members that have
different base names may thus get one field name in two ways: identifiers merge the names, as `CTRL`
and `CTRL_`, or the texts around a register's name make it that of a cluster beside it.

## Main definitions

* `Decoration.writtenName` : the name of a member as it is before it becomes an identifier.

## Main results

* `map_name_compositeType` : the field names of a node's type.
* `nodup_fieldNames_iff` : the nodes whose members get different field names.
-/

namespace RegisterMap.Nim

/-- Name of a member with the texts of the peripheral around it if it is a register's. -/
def Decoration.writtenName (d : Decoration) : Member → String
  | .register r => d.before ++ baseName r.name ++ d.after
  | .cluster c => baseName c.name

theorem Decoration.memberName_eq (d : Decoration) :
    d.memberName = fun m => Ident.ofText (d.writtenName m) := by
  funext m
  cases m <;> rfl

section

variable {names : TypeNames} {decoration : Decoration} {path : NodePath} {c : Contents}
  {t : ObjectType}

/-- The fields are named after the members, in address order. -/
theorem map_name_compositeType (made : compositeType names decoration path c = .ok t) :
    t.fields.map (·.name) =
      c.sortedMembers.map fun m => Ident.ofText (decoration.writtenName m) := by
  have named := map_eq_map_of_forall₂ ((compositeType_eq_ok made).2.imp fun _ _ own =>
    (memberField_eq_ok own).1.symm)
  rw [← named, decoration.memberName_eq]

/-- **Field names of a node's type.** The fields of a node's type are named after its members in
address order, with the texts of the peripheral around the names of registers only. No name comes
twice if and only if no two members have such names that identifiers merge. -/
theorem nodup_fieldNames_iff (made : compositeType names decoration path c = .ok t) :
    t.fields.map (·.name) = c.sortedMembers.map (fun m => Ident.ofText (decoration.writtenName m)) ∧
    ((t.fields.map (·.name)).Nodup ↔ c.members.Pairwise fun m m' =>
      ¬Ident.AreMerged (decoration.writtenName m) (decoration.writtenName m')) := by
  refine ⟨map_name_compositeType made, ?_⟩
  rw [map_name_compositeType made, (c.sortedMembers_perm.map _).nodup_iff, List.Nodup,
    List.pairwise_map]
  exact List.Pairwise.iff fun m m' => not_congr Ident.ofText_eq_ofText_iff

end

/-- A port that puts a text in front of its register's name, and a cluster named like that. -/
def transmitPort : Peripheral where
  name := "PORT"
  baseAddress := 0x40000000
  prependToName := some "TX_"
  registers := [{ name := "CTRL", offset := 0 }]
  clusters := [{ name := "TX_CTRL", offset := 4, registers := [{ name := "DATA", offset := 0 }] }]

/-- A board with that port alone. -/
def transmitBoard : Device where
  name := "BOARD"
  peripherals := [transmitPort]

theorem exists_compositeType_transmitPort (options : Options) : ∃ t,
    compositeType (.ofDevice transmitBoard) (.ofPeripheral transmitPort options) ["PORT"]
      transmitPort.contents = .ok t :=
  have mem : transmitPort ∈ transmitBoard.peripherals := List.mem_singleton_self _
  exists_compositeType (allNamed_ofDevice mem)
    (transmitBoard.laidOut_of_validate (by decide) _ mem).2 _

theorem nodup_fieldNames_iff_transmitPort : (∃ t,
    compositeType (.ofDevice transmitBoard) (.ofPeripheral transmitPort { ignorePrepend := true })
      ["PORT"] transmitPort.contents = .ok t ∧ (t.fields.map (·.name)).Nodup) ∧
    ∃ t, compositeType (.ofDevice transmitBoard) (.ofPeripheral transmitPort {}) ["PORT"]
      transmitPort.contents = .ok t ∧ ¬(t.fields.map (·.name)).Nodup := by
  obtain ⟨plain, hplain⟩ := exists_compositeType_transmitPort { ignorePrepend := true }
  obtain ⟨decorated, hdecorated⟩ := exists_compositeType_transmitPort {}
  exact ⟨⟨plain, hplain, (nodup_fieldNames_iff hplain).2.2 (by decide +kernel)⟩,
    decorated, hdecorated, mt (nodup_fieldNames_iff hdecorated).2.1 (by decide +kernel)⟩

theorem not_forall_nodup_fieldNames : ¬∀ (d : Device) (options : Options), ∀ p ∈ d.peripherals,
    (p.contents.members.map fun m => baseName m.name).Nodup → ∀ t,
      compositeType (.ofDevice d) (.ofPeripheral p options) [p.name] p.contents = .ok t →
        (t.fields.map (·.name)).Nodup := by
  intro all
  obtain ⟨t, made⟩ := exists_compositeType_transmitPort {}
  have distinct := all transmitBoard {} _ (List.mem_singleton_self _) (by decide +kernel) t made
  rw [map_name_compositeType made, (Contents.sortedMembers_perm _).map _ |>.nodup_iff] at distinct
  exact absurd distinct (by decide +kernel)

end RegisterMap.Nim
