import RegisterMap.Proofs.Nim.Existence
import RegisterMap.Proofs.Nim.StrictRuns

/-!
# Looking up type names

Five walks go through a peripheral and look up the type names of what they come to: one with a work
list for the types, one by recursion for the constant, and three along the list of all registers,
for bit fields, enumerations and accessors. Each makes the paths of nodes on its own. Whatever the
table of names is, they ask for nodes of the peripheral only, and the table of a device has all of
them.

## Main definitions

* `Fault.IsMissingName` : a node has no type name.
* `WalksFailOnlyFor` : the walks through a peripheral fail for some faults alone.
* `IsMissingOnlyAt` : if a type name is missing, then that of one of some nodes.
* `IsOfModule` : the faults of a module.

## Main results

* `walks_failOnlyFor` : the walks through a peripheral fail where a single node fails.
* `generate_failsOnlyFor` : the faults for which a device has no module.
* `lookups_succeed` : no type name is looked up in vain.
-/

namespace RegisterMap

/-- The fault is that a node has no type name. -/
def Fault.IsMissingName (fault : Fault) : Prop := ∃ path, fault = .unnamed path

/-- A step that fails for some faults alone fails for more faults alone. -/
theorem FailsOnlyFor.mono {α : Type} {P Q : Fault → Prop} {x : Except Fault α}
    (h : FailsOnlyFor P x) (le : ∀ fault, P fault → Q fault) : FailsOnlyFor Q x :=
  fun fault hf => le fault (h fault hf)

theorem SucceedsUnless.failsOnlyFor {α : Type} {P : Fault → Prop} {x : Except Fault α}
    {fault : Fault} {c : Prop} (h : SucceedsUnless fault x c) (hP : P fault) : FailsOnlyFor P x :=
  fun _ hf => h.spec.2 _ hf ▸ hP

/-- A device is refused by the check for its layouts. -/
theorem Device.validate_failsOnlyFor (d : Device) : FailsOnlyFor Fault.IsOfLayout d.validate := by
  rw [validate]
  induction d.repetitions with
  | nil => exact .of_eq_ok rfl
  | cons o os ih =>
    rw [List.forM]
    refine FailsOnlyFor.bind ?_ fun _ _ => ih
    obtain ⟨owner, _ | r⟩ := o
    · exact .of_eq_ok rfl
    · exact (layout_failsOnlyFor owner (some r)).map

namespace Nim

/-! ### Walks through a peripheral -/

/-- The walks through a peripheral that look up type names fail for faults with a property alone. -/
structure WalksFailOnlyFor (P : Fault → Prop) (names : TypeNames) (options : Options)
    (p : Peripheral) : Prop where
  types : FailsOnlyFor P (nodeTypes names options p)
  fieldStructs : FailsOnlyFor P (fieldStructs p names)
  enums : FailsOnlyFor P (enumTypes p names)
  accessors : FailsOnlyFor P (peripheralAccessors p names)
  constant : FailsOnlyFor P (Instance.ofPeripheral names options p)

section

variable {P : Fault → Prop} {names : TypeNames} {options : Options} {p : Peripheral}

theorem WalksFailOnlyFor.mono {Q : Fault → Prop} (h : WalksFailOnlyFor P names options p)
    (le : ∀ fault, P fault → Q fault) : WalksFailOnlyFor Q names options p where
  types := h.types.mono le
  fieldStructs := h.fieldStructs.mono le
  enums := h.enums.mono le
  accessors := h.accessors.mono le
  constant := h.constant.mono le

/-- The walks fail only for what the look-ups of the peripheral's nodes, a layout, or the width of a
bit field fails for. -/
theorem walks_failOnlyFor
    (lookups : ∀ path ∈ p.contents.paths [p.name], FailsOnlyFor P (names.lookup path))
    (layouts : ∀ fault : Fault, fault.IsOfLayout → P fault) (widths : P .negativeWidth) :
    WalksFailOnlyFor P names options p := by
  have layout : ∀ r, LayoutFailsOnlyFor P r := fun r repeated owner =>
    (layoutFailsOnlyFor_isOfLayout r repeated owner).mono layouts
  have nodes : NodesFailOnlyFor P names [p.name] p.contents :=
    ⟨lookups, Contents.everywhere_of_forall (fun m => layout m.repetition) _⟩
  have register : ∀ q ∈ p.registersBelow, FailsOnlyFor P (names.lookup q.1) := fun q hq =>
    lookups q.1 (Contents.mem_paths_of_mem_registersBelow hq)
  refine ⟨nodeTypes_failsOnlyFor nodes options, .mapM fun q hq => ?_,
    (FailsOnlyFor.mapM fun q hq => (register q hq).map).map,
    (FailsOnlyFor.mapM fun q hq => (register q hq).map).map,
    Instance.ofPeripheral_failsOnlyFor nodes (layout p.repetition) options⟩
  exact (register q (List.mem_filter.1 hq).1).bind fun typeName _ =>
    (fieldStruct_succeedsUnless q.2 typeName).failsOnlyFor widths

end

/-! ### Nodes that are asked for -/

/-- If the fault is that a node has no type name, the node is one of those given, and the table does
not have it. -/
def IsMissingOnlyAt (paths : List NodePath) (names : TypeNames) (fault : Fault) : Prop :=
  ∀ path, fault = .unnamed path → path ∈ paths ∧ names.find? path = none

theorem TypeNames.lookup_failsOnlyFor (names : TypeNames) {paths : List NodePath} {path : NodePath}
    (h : path ∈ paths) : FailsOnlyFor (IsMissingOnlyAt paths names) (names.lookup path) := by
  intro fault hf
  unfold lookup at hf
  split at hf
  · cases hf
  · next missing =>
    cases hf
    rintro _ ⟨⟩
    exact ⟨h, missing⟩

/-- Whatever the table is, the walks ask for the nodes of the peripheral only. -/
theorem walks_ask_inside (names : TypeNames) (options : Options) (p : Peripheral) :
    WalksFailOnlyFor (IsMissingOnlyAt (p.contents.paths [p.name]) names) names options p := by
  refine walks_failOnlyFor (fun path h => names.lookup_failsOnlyFor h) (fun fault h path hf => ?_)
    nofun
  rw [hf] at h
  exact h.elim

/-- A table that has the nodes lacks none of them. -/
theorem AllNamed.not_isMissingName {names : TypeNames} {path : NodePath} {c : Contents}
    (named : AllNamed names path c) {fault : Fault}
    (h : IsMissingOnlyAt (c.paths path) names fault) : ¬fault.IsMissingName := by
  rintro ⟨q, hf⟩
  obtain ⟨hq, missing⟩ := h q hf
  obtain ⟨typeName, found⟩ := named q hq
  cases missing.symm.trans (TypeNames.lookup_eq_ok_iff.1 found)

/-! ### Modules -/

/-- What keeps a device from having a module: a layout, the width of a bit field, or two different
definitions of one name. -/
def IsOfModule (fault : Fault) : Prop :=
  fault.IsOfLayout ∨ fault = .negativeWidth ∨ ∃ kind key, fault = .conflict kind key

theorem IsOfModule.not_isMissingName {fault : Fault} (h : IsOfModule fault) :
    ¬fault.IsMissingName := by
  rintro ⟨path, rfl⟩
  obtain layout | ⟨⟨⟩⟩ | ⟨_, _, ⟨⟩⟩ := h
  exact layout

/-- A run that stops at the first conflict of another fails only for what that one fails for, or for
a conflict. -/
theorem stopsAtConflict_failsOnlyFor {α β : Type} {P : Fault → Prop} {R : α → β → Prop}
    {x : Logged α} {y : Logged β} (h : Logged.StopsAtConflict R x y)
    (hy : FailsOnlyFor P y.outcome) (conflicts : ∀ kind key, P (.conflict kind key)) :
    FailsOnlyFor P x.outcome := by
  cases h with
  | result quiet related => exact .of_eq_ok rfl
  | fault quiet fault => exact fun _ hf => hy _ (congrArg Except.error (Except.error.inj hf))
  | conflict quiet source kind key outcome =>
    rintro _ ⟨⟩
    exact conflicts kind key

theorem Module.ofDevice_failsOnlyFor (options : Options) (d : Device) :
    FailsOnlyFor IsOfModule (ofDevice options d).outcome := by
  have lax : FailsOnlyFor IsOfModule (ofDevice { options with strict := false } d).outcome := by
    cases valid : d.validate with
    | ok _ => exact (ofDevice_succeedsUnless rfl valid).failsOnlyFor (.inr (.inl rfl))
    | error fault =>
      rw [ofDevice, Logged.outcome_bind]
      refine (d.validate_failsOnlyFor.mono fun _ => Or.inl).bind fun _ made => ?_
      cases valid.symm.trans made
  cases strict : options.strict with
  | false => rwa [← strict] at lax
  | true =>
    have stops := stopsAtConflict_ofDevice options d
    rw [← strict] at stops
    exact stopsAtConflict_failsOnlyFor stops lax fun kind key => .inr (.inr ⟨kind, key, rfl⟩)

/-- A device has no module only for a layout, the width of a bit field, or a conflict. -/
theorem generate_failsOnlyFor (options : Options) (d : Device) :
    FailsOnlyFor IsOfModule (generate options d).outcome := by
  rw [generate, Logged.outcome_bind]
  exact (Module.ofDevice_failsOnlyFor options d).bind fun _ _ => .of_eq_ok rfl

/-- **Look-ups.** The walks through a peripheral ask for the type names of its own nodes only. If it
is a peripheral of a device, the table of the device has all of them, so that neither the walks nor
the making of the module fail because a node has no type name. The device may be any: nodes may be
nested to any depth and have the same paths as others. -/
theorem lookups_succeed (options : Options) (d : Device) :
    (∀ names p, WalksFailOnlyFor (IsMissingOnlyAt (p.contents.paths [p.name]) names)
      names options p) ∧
    (∀ p ∈ d.peripherals, (∀ path ∈ p.contents.paths [p.name],
        ∃ typeName, (TypeNames.ofDevice d).lookup path = .ok typeName) ∧
      WalksFailOnlyFor (fun fault => ¬fault.IsMissingName) (.ofDevice d) options p) ∧
    FailsOnlyFor (fun fault => ¬fault.IsMissingName) (generate options d).outcome := by
  refine ⟨fun names p => walks_ask_inside names options p, fun p hp => ?_,
    (generate_failsOnlyFor options d).mono fun _ h => h.not_isMissingName⟩
  have named := allNamed_ofDevice hp
  exact ⟨named, (walks_ask_inside (.ofDevice d) options p).mono fun _ => named.not_isMissingName⟩

/-- Two ports of one name. What stands at `PORT.BANK.BANK` is a cluster in the first, and in the
second a register of a cluster that is repeated without a stride. -/
def nestedBanks : Device where
  name := "BOARD"
  peripherals := [
    { name := "PORT", baseAddress := 0x40000000
      clusters := [
        { name := "BANK", offset := 16
          clusters := [
            { name := "BANK", offset := 0, registers := [{ name := "CTRL", offset := 0 }] }] }] },
    { name := "PORT", baseAddress := 0x40001000
      clusters := [
        { name := "BANK", offset := 0, repetition := some { count := some 2 }
          registers := [{ name := "BANK", offset := 0 }] }] }]

theorem lookups_succeed_nestedBanks : ∃ p q, nestedBanks.peripherals = [p, q] ∧ p.name = q.name ∧
    (∃ typeName, (TypeNames.ofDevice nestedBanks).lookup ["PORT", "BANK", "BANK", "CTRL"] =
      .ok typeName) ∧
    nodeTypes (.ofDevice nestedBanks) {} q = .error (.incompleteRepetition "BANK") ∧
    WalksFailOnlyFor (fun fault => ¬fault.IsMissingName) (.ofDevice nestedBanks) {} p ∧
    WalksFailOnlyFor (fun fault => ¬fault.IsMissingName) (.ofDevice nestedBanks) {} q := by
  obtain ⟨-, own, -⟩ := lookups_succeed {} nestedBanks
  obtain ⟨lookups, first⟩ := own _ List.mem_cons_self
  obtain ⟨-, second⟩ := own _ (List.mem_cons_of_mem _ List.mem_cons_self)
  exact ⟨_, _, rfl, rfl, lookups _ (by decide +kernel), by decide +kernel, first, second⟩

end Nim

end RegisterMap
