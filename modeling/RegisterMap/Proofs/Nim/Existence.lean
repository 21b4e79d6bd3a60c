import RegisterMap.Proofs.Nim.Assembly
import RegisterMap.Proofs.Nim.InstanceAddresses
import RegisterMap.Proofs.Nim.NodeFaults

/-!
# When a module exists

A device passes the check if all its repetitions have layouts. Everything that a module declares is
then made without a fault, except that the bit fields of a register may end before they begin. The
check does not look at bit fields, so this is found when their type is made.

## Main definitions

* `Register.HasWidths` : no bit field of a divided register ends too far before it begins.

## Main results

* `Device.validate_iff`, `Device.laidOut_of_validate` : what the check says.
* `exists_nodeTypes`, `fieldStructs_succeedsUnless` : which declarations are made.
* `generate_eq_ok_iff` : when a device that passed the check has a module.
-/

namespace RegisterMap

/-! ### What the check says -/

/-- The repetitions below a node of the given path. -/
def Contents.repetitions (path : String) (c : Contents) : List (String × Option Repetition) :=
  registerRepetitions path c.registers ++ clusterRepetitions path c.clusters

theorem Cluster.repetitions_eq (path : String) (c : Cluster) :
    c.repetitions path = ("cluster " ++ path, c.repetition) :: c.contents.repetitions path := by
  cases c
  rfl

theorem clusterRepetitions_eq_flatMap (path : String) (cs : List Cluster) :
    clusterRepetitions path cs = cs.flatMap fun c => c.repetitions (dotted path c.name) := by
  induction cs with
  | nil => rfl
  | cons c cs ih => rw [clusterRepetitions, ih, List.flatMap_cons]

/-- A repetition passes the check. -/
def IsChecked (o : String × Option Repetition) : Prop := o.2 = none ∨ ∃ l, layout o.1 o.2 = .ok l

/-- A repetition, where there is one, has a layout. -/
def IsSoundRepetition (r : Option Repetition) : Prop := r = none ∨ ∃ l, layout "" r = .ok l

theorem isChecked_iff {owner : String} {r : Option Repetition} :
    IsChecked (owner, r) ↔ IsSoundRepetition r :=
  or_congr_right (exists_congr fun _ => ⟨layout_eq_ok_of_owner, layout_eq_ok_of_owner⟩)

theorem IsSoundRepetition.hasLayout {r : Option Repetition} (h : IsSoundRepetition r) :
    HasLayout r := by
  rcases h with rfl | laidOut
  · exact nofun
  · exact fun _ => laidOut

/-- The repetitions below a node are those of the members below it. -/
theorem Contents.forall_isChecked_iff {path : String} {c : Contents} :
    (∀ o ∈ c.repetitions path, IsChecked o) ↔
      c.Everywhere fun m => IsSoundRepetition m.repetition := by
  induction c using Contents.induction generalizing path with
  | step c ih =>
    rw [everywhere_iff, repetitions, clusterRepetitions_eq_flatMap, registerRepetitions,
      List.forall_mem_append, List.forall_mem_map, List.forall_mem_flatMap]
    refine and_congr (forall₂_congr fun r _ => isChecked_iff) (forall₂_congr fun inner hc => ?_)
    rw [Cluster.repetitions_eq, List.forall_mem_cons, ih inner hc]
    exact and_congr_left fun _ => isChecked_iff

theorem Contents.Everywhere.laidOut {c : Contents}
    (h : c.Everywhere fun m => IsSoundRepetition m.repetition) : c.LaidOut := by
  induction h with
  | @intro c members _ ih =>
    obtain ⟨registers, clusters⟩ := forall_mem_members.1 members
    exact ⟨fun r hr => (registers r hr).hasLayout,
      fun inner hc => inner.laidOut_iff.2 ⟨(clusters inner hc).hasLayout, ih inner hc⟩⟩

/-- A device passes the check if the repetitions of its peripherals and of all members in them have
layouts. -/
theorem Device.validate_iff {d : Device} : d.validate = .ok () ↔
    ∀ p ∈ d.peripherals, IsSoundRepetition p.repetition ∧
      p.contents.Everywhere fun m => IsSoundRepetition m.repetition := by
  rw [validate_eq_ok_iff, repetitions, List.forall_mem_flatMap]
  refine forall₂_congr fun p _ => ?_
  change (∀ o ∈ ("peripheral " ++ p.name, p.repetition) :: p.contents.repetitions p.name,
    IsChecked o) ↔ _
  rw [List.forall_mem_cons, Contents.forall_isChecked_iff]
  exact and_congr_left fun _ => isChecked_iff

/-- Every repeated node of a device that passes the check has a layout. -/
theorem Device.laidOut_of_validate {d : Device} (h : d.validate = .ok ()) : d.LaidOut := by
  intro p hp
  obtain ⟨own, members⟩ := validate_iff.1 h p hp
  exact ⟨own.hasLayout, members.laidOut⟩

namespace Nim

/-! ### Tables that are not strict -/

namespace FirstWins

variable {α : Type} [DecidableEq α]

/-- A table that is not strict takes every definition. -/
theorem exists_outcome_define {t : FirstWins α} (h : t.strict = false) (key : String)
    (item : Option α) : ∃ isFirst t', (t.define key item).outcome = .ok (isFirst, t') ∧
      t'.strict = false := by
  rw [define]
  split
  · exact ⟨_, _, rfl, h⟩
  · split
    · exact ⟨_, _, rfl, h⟩
    · rw [h]
      exact ⟨_, _, rfl, h⟩

theorem exists_outcome_defineAll {t : FirstWins α} (h : t.strict = false)
    (items : List (String × α)) : ∃ kept t', (t.defineAll items).outcome = .ok (kept, t') ∧
      t'.strict = false := by
  induction items generalizing t with
  | nil => exact ⟨[], t, rfl, h⟩
  | cons item items ih =>
    obtain ⟨isFirst, t₁, first, h₁⟩ := exists_outcome_define h item.1 (some item.2)
    obtain ⟨kept, t₂, rest, h₂⟩ := ih h₁
    exact ⟨_, t₂, outcome_defineAll_cons.2 ⟨isFirst, t₁, kept, first, rest, rfl⟩, h₂⟩

omit [DecidableEq α] in
/-- So does a table that is not strict in a run of steps that each leave such a table. -/
theorem exists_outcome_foldlM {β : Type} {step : FirstWins α → β → Logged (FirstWins α)}
    {bs : List β} (hstep : ∀ b ∈ bs, ∀ t : FirstWins α, t.strict = false →
      ∃ t', (step t b).outcome = .ok t' ∧ t'.strict = false)
    {t : FirstWins α} (h : t.strict = false) : ∃ t', (bs.foldlM step t).outcome = .ok t' := by
  induction bs generalizing t with
  | nil => exact ⟨t, rfl⟩
  | cons b bs ih =>
    obtain ⟨first, rest⟩ := List.forall_mem_cons.1 hstep
    obtain ⟨t₁, h₁, strict₁⟩ := first t h
    obtain ⟨t', ht'⟩ := ih rest strict₁
    refine ⟨t', ?_⟩
    rw [List.foldlM_cons]
    exact Logged.outcome_bind_eq_ok_iff.2 ⟨t₁, h₁, ht'⟩

end FirstWins

/-! ### Types of nodes -/

/-- The type of a laid out node is made if all nodes below have type names. -/
theorem exists_compositeType {names : TypeNames} {path : NodePath} {c : Contents}
    (named : AllNamed names path c) (laidOut : c.LaidOut) (decoration : Decoration) :
    ∃ t, compositeType names decoration path c = .ok t :=
  (compositeType_failsOnlyFor (named.nodesFailOnlyFor laidOut.layoutsFailOnlyFor)
    decoration).exists_eq_ok

/-- The types of a laid out peripheral are made without a fault if all nodes have type names. -/
theorem exists_nodeTypes {names : TypeNames} {p : Peripheral}
    (named : AllNamed names [p.name] p.contents) (laidOut : p.contents.LaidOut)
    (options : Options) : ∃ ts, nodeTypes names options p = .ok ts :=
  (nodeTypes_failsOnlyFor (named.nodesFailOnlyFor laidOut.layoutsFailOnlyFor)
    options).exists_eq_ok

end Nim

/-! ### Bit fields -/

/-- No bit field of a register that is divided into fields ends more than one bit before it
begins. -/
def Register.HasWidths (r : Register) : Prop := r.hasFields = true → ∀ f ∈ r.fields, 0 ≤ f.width

namespace Nim

theorem maximum_succeedsUnless (width : Int) :
    SucceedsUnless .negativeWidth (maximum width) (0 ≤ width) := by
  rw [maximum]
  split
  · next negative => exact ⟨by omega, rfl⟩
  · next other => exact Int.not_lt.1 other

theorem declaration_succeedsUnless (f : PackedField) :
    SucceedsUnless .negativeWidth f.declaration (0 ≤ f.width) := by
  refine SucceedsUnless.map ?_
  rw [valueType]
  split
  · next one => exact (SucceedsUnless.of_eq_ok rfl).congr (iff_of_true trivial (by omega))
  · exact (maximum_succeedsUnless f.width).map

/-- Fillers hold at least one bit, and the fields are as wide as they were. -/
theorem forall_mem_fillGaps {size : Int} {names : List String} {next : Int} {fs : List BitField} :
    (∀ g ∈ fillGaps size names next fs, 0 ≤ g.width) ↔ ∀ f ∈ fs, 0 ≤ f.width := by
  have filler : ∀ (name : String) {lsb msb : Int}, lsb < msb →
      0 ≤ (⟨name, lsb, msb - 1, true⟩ : PackedField).width := by
    intro name lsb msb gap
    change 0 ≤ msb - 1 - lsb + 1
    omega
  induction fs generalizing names next with
  | nil =>
    rw [fillGaps_nil]
    split
    · next rest => simpa using filler _ rest
    · simp
  | cons f fs ih =>
    have own : (⟨f.name, f.lsb, f.msb, false⟩ : PackedField).width = f.width := rfl
    rw [fillGaps]
    split
    · next gap =>
      simp only [List.forall_mem_cons, own, ih, filler _ gap, true_and]
    · simp only [List.forall_mem_cons, own, ih]

theorem fieldStruct_succeedsUnless (r : Register) (typeName : String) :
    SucceedsUnless .negativeWidth (fieldStruct r typeName) (∀ f ∈ r.fields, 0 ≤ f.width) := by
  refine ((SucceedsUnless.mapM fun f _ => declaration_succeedsUnless f).bind fun fields _ =>
    SucceedsUnless.of_eq_ok rfl).congr ?_
  rw [and_true, pack, forall_mem_fillGaps]
  exact forall_congr' fun f => imp_congr_left List.mem_mergeSort

section

variable {names : TypeNames} {p : Peripheral}

theorem fieldStructs_succeedsUnless (named : AllNamed names [p.name] p.contents) :
    SucceedsUnless .negativeWidth (fieldStructs p names)
      (∀ q ∈ p.registersBelow, q.2.HasWidths) := by
  refine (SucceedsUnless.mapM (c := fun q => ∀ f ∈ q.2.fields, 0 ≤ f.width)
    fun q hq => ?_).congr ?_
  · obtain ⟨typeName, hname⟩ := named.registersBelow (List.mem_filter.1 hq).1
    exact SucceedsUnless.ok_bind hname (fieldStruct_succeedsUnless q.2 typeName)
  · simp only [List.mem_filter, and_imp, Register.HasWidths]

/-- What is made for every register from its type name alone is made without a fault. -/
theorem exists_flatten_mapM {α : Type} (f : Register → String → List α)
    (named : AllNamed names [p.name] p.contents) :
    ∃ ys, (p.registersBelow.mapM fun (path, r) => (names.lookup path).map (f r)).map
      List.flatten = .ok ys := by
  have made : ∀ q ∈ p.registersBelow, ∃ y, (names.lookup q.1).map (f q.2) = .ok y := by
    intro q hq
    obtain ⟨typeName, hname⟩ := named.registersBelow hq
    exact ⟨_, map_eq_ok_iff.2 ⟨typeName, hname, rfl⟩⟩
  obtain ⟨yss, hyss⟩ := exists_mapM made
  exact ⟨_, map_eq_ok_iff.2 ⟨yss, hyss, rfl⟩⟩

/-! ### Modules -/

/-- None of the tables is strict. -/
structure Tables.IsLax (t : Tables) : Prop where
  structs : t.structs.strict = false
  enums : t.enums.strict = false
  accessors : t.accessors.strict = false

/-- Tables that are not strict take all that is made for a peripheral. -/
theorem Tables.exists_outcome_define {t : Tables} (lax : t.IsLax)
    (named : AllNamed names [p.name] p.contents) {structs : List ObjectType}
    (h : fieldStructs p names = .ok structs) :
    ∃ new t', (t.define names p).outcome = .ok (new, t') ∧ t'.IsLax := by
  obtain ⟨enums, henums⟩ := exists_flatten_mapM fieldEnums named
  obtain ⟨routines, hroutines⟩ := exists_flatten_mapM RegisterMap.Nim.accessors named
  obtain ⟨newStructs, structTable, h₁, lax₁⟩ :=
    FirstWins.exists_outcome_defineAll lax.structs (structs.map fun s => (s.name, s))
  obtain ⟨newEnums, enumTable, h₂, lax₂⟩ :=
    FirstWins.exists_outcome_defineAll lax.enums (enums.map fun e => (e.name, e))
  obtain ⟨newRoutines, accessorTable, h₃, lax₃⟩ :=
    FirstWins.exists_outcome_defineAll lax.accessors routines
  exact ⟨_, ⟨structTable, enumTable, accessorTable⟩, outcome_define.2 ⟨structs, enums, routines,
    newStructs, newEnums, newRoutines, h, h₁, henums, h₂, hroutines, h₃, rfl⟩, ⟨lax₁, lax₂, lax₃⟩⟩

/-- So they take the declarations of a peripheral exactly if its bit fields have widths. -/
theorem Tables.define_succeedsUnless {t : Tables} (lax : t.IsLax)
    (named : AllNamed names [p.name] p.contents) :
    SucceedsUnless .negativeWidth (t.define names p).outcome
        (∀ q ∈ p.registersBelow, q.2.HasWidths) ∧
      ∀ r, (t.define names p).outcome = .ok r → r.2.IsLax := by
  have structs := fieldStructs_succeedsUnless named
  cases h : fieldStructs p names with
  | error fault =>
    have fails : (t.define names p).outcome = .error fault := by
      rw [define, Logged.outcome_bind]
      change fieldStructs p names >>= _ = _
      rw [h]
      rfl
    rw [h] at structs
    rw [fails]
    exact ⟨structs, fun r hr => by cases hr⟩
  | ok ts =>
    obtain ⟨new, t', made, lax'⟩ := exists_outcome_define lax named h
    rw [h] at structs
    rw [made]
    refine ⟨structs, fun r hr => ?_⟩
    cases Except.ok.inj hr
    exact lax'

theorem Tables.defineAll_succeedsUnless {t : Tables} (lax : t.IsLax) {ps : List Peripheral}
    (named : ∀ p ∈ ps, AllNamed names [p.name] p.contents) :
    SucceedsUnless .negativeWidth (t.defineAll names ps).outcome
      (∀ p ∈ ps, ∀ q ∈ p.registersBelow, q.2.HasWidths) := by
  induction ps generalizing t with
  | nil => exact fun p hp => absurd hp List.not_mem_nil
  | cons p ps ih =>
    obtain ⟨own, rest⟩ := List.forall_mem_cons.1 named
    obtain ⟨first, laxAfter⟩ := define_succeedsUnless lax own
    rw [defineAll, Logged.outcome_bind]
    refine (first.bind fun r hr => ?_).congr (List.forall_mem_cons
      (p := fun p : Peripheral => ∀ q ∈ p.registersBelow, q.2.HasWidths)).symm
    rw [Logged.outcome_bind]
    exact ((ih (laxAfter r hr) rest).bind fun _ _ => SucceedsUnless.of_eq_ok rfl).congr
      (and_iff_left trivial)

end

/-- The table of types takes the types of all peripherals if it is not strict. -/
theorem exists_deviceTypes {d : Device} (laidOut : d.LaidOut) {options : Options}
    (lax : options.strict = false) :
    ∃ t, (deviceTypes (TypeNames.ofDevice d) options d).outcome = .ok t := by
  refine FirstWins.exists_outcome_foldlM (fun p hp t strict => ?_) lax
  obtain ⟨types, htypes⟩ := exists_nodeTypes (allNamed_ofDevice hp) (laidOut p hp).2 options
  obtain ⟨kept, t', ht', strict'⟩ :=
    FirstWins.exists_outcome_defineAll strict (types.map fun t => (t.name, t))
  refine ⟨t', ?_, strict'⟩
  refine Logged.outcome_bind_eq_ok_iff.2 ⟨types, htypes, ?_⟩
  exact Logged.outcome_bind_eq_ok_iff.2 ⟨_, ht', rfl⟩

/-- The constants of all peripherals are made without a fault. -/
theorem exists_instances {d : Device} (laidOut : d.LaidOut) (options : Options) : ∃ instances,
    d.peripherals.mapM (Instance.ofPeripheral (TypeNames.ofDevice d) options) = .ok instances := by
  refine exists_mapM fun p hp => ?_
  exact (Instance.ofPeripheral_succeedsIff hp options).exists_eq_ok (laidOut p hp)

theorem Module.ofDevice_succeedsUnless {options : Options} (lax : options.strict = false)
    {d : Device} (valid : d.validate = .ok ()) :
    SucceedsUnless .negativeWidth (ofDevice options d).outcome
      (∀ p ∈ d.peripherals, ∀ q ∈ p.registersBelow, q.2.HasWidths) := by
  have laidOut := Device.laidOut_of_validate valid
  obtain ⟨table, htable⟩ := exists_deviceTypes laidOut lax
  obtain ⟨instances, hinstances⟩ := exists_instances laidOut options
  have tables : (Tables.empty options).IsLax := ⟨lax, lax, lax⟩
  rw [ofDevice, Logged.outcome_bind]
  refine SucceedsUnless.ok_bind valid ?_
  rw [Logged.outcome_bind]
  refine SucceedsUnless.ok_bind htable ?_
  rw [Logged.outcome_bind]
  refine SucceedsUnless.ok_bind hinstances ?_
  rw [Logged.outcome_bind]
  exact ((Tables.defineAll_succeedsUnless tables fun p hp => allNamed_ofDevice hp).bind
    fun _ _ => SucceedsUnless.of_eq_ok rfl).congr (and_iff_left trivial)

/-- **When a module exists.** If the tables are not strict, a device that passes the check has a
module exactly if the bit fields of all its divided registers have widths, and no other fault stops
it. -/
theorem generate_eq_ok_iff {options : Options} (lax : options.strict = false) {d : Device}
    (valid : d.validate = .ok ()) :
    ((∃ text, (generate options d).outcome = .ok text) ↔
        ∀ q ∈ d.peripherals.flatMap Peripheral.registersBelow, q.2.HasWidths) ∧
      ∀ fault, (generate options d).outcome = .error fault → fault = .negativeWidth := by
  refine SucceedsUnless.spec ?_
  rw [generate, Logged.outcome_bind]
  refine ((Module.ofDevice_succeedsUnless lax valid).bind
    fun _ _ => SucceedsUnless.of_eq_ok rfl).congr ?_
  rw [and_true, List.forall_mem_flatMap]

/-- A port whose control register has one bit field. -/
def fieldPort (lsb msb : Int) : Device where
  name := "BOARD"
  peripherals := [
    { name := "PORT", baseAddress := 0x40000000
      registers := [
        { name := "CTRL", offset := 0, fields := [{ name := "MODE", lsb, msb }] }] }]

theorem generate_eq_ok_iff_fieldPort : ({} : Options).strict = false ∧
    (fieldPort 4 7).validate = .ok () ∧
      ∃ text, (generate {} (fieldPort 4 7)).outcome = .ok text := by
  have valid : (fieldPort 4 7).validate = .ok () := by decide +kernel
  refine ⟨rfl, valid, (generate_eq_ok_iff rfl valid).1.2 ?_⟩
  have registers : (fieldPort 4 7).peripherals.flatMap Peripheral.registersBelow =
      [(["PORT", "CTRL"], { name := "CTRL", offset := 0
                            fields := [{ name := "MODE", lsb := 4, msb := 7 }] })] := rfl
  rw [registers]
  simp [Register.HasWidths, BitField.width, bitWidth]

theorem not_forall_validate_generate : ¬ ∀ (options : Options) (d : Device),
    options.strict = false → d.validate = .ok () →
      ∃ text, (generate options d).outcome = .ok text := by
  intro complete
  have fails : (generate {} (fieldPort 7 0)).outcome = .error .negativeWidth := by decide +kernel
  obtain ⟨text, made⟩ := complete {} (fieldPort 7 0) rfl (by decide +kernel)
  cases fails.symm.trans made

end Nim

end RegisterMap
