import RegisterMap.Proofs.Nim.Owners

/-!
# Type names and kinds of nodes

A peripheral asks for its type name as the owner of a layout's name, and a cluster or register as
the owner of a name that the description gives to its type, or of a part of its node's type. So no
peripheral shares its type name with a member, but a register and a cluster do if they ask alike.

## Main definitions

* `NodeKind` : peripheral, cluster or register.
* `Device.HasKind` : the kind of the node at a path.
* `TypeNames.AskAlike` : members of two nodes ask for one type name.

## Main results

* `TypeNames.lookup_eq_iff_askAlike` : the members that share a type name.
* `TypeNames.kinds_apart_iff` : the devices on which nodes of different kinds share none.
-/

namespace RegisterMap

/-! ### Kinds -/

/-- What a node of a device is. -/
inductive NodeKind where
  | peripheral
  | cluster
  | register
  deriving DecidableEq, Repr

/-- A member is a cluster or a register. -/
def Member.kind : Member → NodeKind
  | register _ => .register
  | cluster _ => .cluster

/-- The node at a path holds a member. -/
def Device.HasMember (d : Device) (path : NodePath) (m : Member) : Prop :=
  ∃ p ∈ d.peripherals, ∃ home, p.contents.HasNode [p.name] path home ∧ m ∈ home.members

/-- The node at a path is a peripheral, or a member of the node that the path leads through last. -/
inductive Device.HasKind (d : Device) : NodePath → NodeKind → Prop
  | peripheral {p : Peripheral} (hp : p ∈ d.peripherals) : HasKind d [p.name] .peripheral
  | member {path : NodePath} {m : Member} (hm : d.HasMember path m) :
      HasKind d (path ++ [m.name]) m.kind

namespace Nim.TypeNames

/-- Members of two nodes ask for one type name: the description gives one name to the types of both,
or to neither, and then the members have one base name and their nodes have one type name. -/
inductive AskAlike (names : TypeNames) (path path' : NodePath) (m m' : Member) : Prop
  | given {name : String} (given : givenName? m = some name) (given' : givenName? m' = some name)
  | part (given : givenName? m = none) (given' : givenName? m' = none)
      (base : baseName m.name = baseName m'.name) (parent : names.lookup path = names.lookup path')

theorem AskAlike.symm {names : TypeNames} {path path' : NodePath} {m m' : Member}
    (h : AskAlike names path path' m m') : AskAlike names path' path m' m := by
  cases h with
  | given given given' => exact .given given' given
  | part given given' base parent => exact .part given' given base.symm parent.symm

variable {d : Device} {path path' : NodePath} {m m' : Member}

/-! ### Names of members -/

/-- The owner of a member's type name is the one that its claim is for. -/
theorem isOwner_of_hasMember (hm : d.HasMember path m) : ∃ parentType,
    (ofDevice d).lookup path = .ok parentType ∧
      IsOwner (ofDevice d) d (path ++ [m.name]) (memberClaim parentType m).2 := by
  obtain ⟨p, hp, home, hn, hm⟩ := hm
  obtain ⟨parentType, parent⟩ := exists_lookup_iff.2 ⟨p, hp, hn.mem_paths⟩
  refine ⟨parentType, parent, ?_⟩
  cases given : givenName? m with
  | some name =>
    rw [memberClaim, given]
    exact .given hp hn hm given
  | none =>
    rw [memberClaim, given]
    exact .part hp hn hm given parent

/-- Where no two nodes have one path, nodes share a type name exactly if they share the owner. -/
theorem lookup_eq_iff_of_isOwner (h : d.nodePaths.Nodup) {q q' : NodePath} {owner owner' : Owner}
    (ho : IsOwner (ofDevice d) d q owner) (ho' : IsOwner (ofDevice d) d q' owner') :
    (ofDevice d).lookup q = (ofDevice d).lookup q' ↔ owner = owner' := by
  obtain ⟨name, found, claimed⟩ := ho.exists_lookup h
  obtain ⟨name', found', claimed'⟩ := ho'.exists_lookup h
  rw [found, found', Except.ok.injEq]
  exact (isUnique_registry d).name_eq_iff claimed claimed'

/-- Members share a type name exactly if they ask alike. -/
theorem lookup_eq_iff_askAlike (h : d.nodePaths.Nodup) (hm : d.HasMember path m)
    (hm' : d.HasMember path' m') :
    (ofDevice d).lookup (path ++ [m.name]) = (ofDevice d).lookup (path' ++ [m'.name]) ↔
      AskAlike (ofDevice d) path path' m m' := by
  obtain ⟨type, parent, ho⟩ := isOwner_of_hasMember hm
  obtain ⟨type', parent', ho'⟩ := isOwner_of_hasMember hm'
  rw [lookup_eq_iff_of_isOwner h ho ho']
  constructor
  · intro same
    cases given : givenName? m <;> cases given' : givenName? m' <;>
      rw [memberClaim, memberClaim, given, given'] at same
    case none.none =>
      obtain ⟨rfl, base⟩ := Owner.part.inj same
      exact .part given given' base (parent.trans parent'.symm)
    case some.some =>
      cases Owner.layout.inj same
      exact .given given given'
    all_goals cases same
  · intro alike
    cases alike with
    | given given given' => rw [memberClaim, memberClaim, given, given']
    | part given given' base nodes =>
      cases Except.ok.inj (parent.symm.trans (nodes.trans parent'))
      rw [memberClaim, memberClaim, given, given', base]

/-- No peripheral shares its type name with a member. -/
theorem lookup_peripheral_ne (h : d.nodePaths.Nodup) {p : Peripheral} (hp : p ∈ d.peripherals)
    (hm : d.HasMember path m) :
    (ofDevice d).lookup [p.name] ≠ (ofDevice d).lookup (path ++ [m.name]) := by
  obtain ⟨p', hp', home, hn, hm⟩ := hm
  obtain ⟨owner, ho, other⟩ := exists_isOwner_member hp' hn hm
  intro same
  exact other _ ((lookup_eq_iff_of_isOwner h (.peripheral hp) ho).1 same).symm

/-! ### Names of kinds -/

/-- **Kinds and type names.** Where no two nodes of a device have one path, nodes of different kinds
have different type names exactly if no register asks for its type name as a cluster does.
Peripherals never share theirs with nodes of another kind. -/
theorem kinds_apart_iff (h : d.nodePaths.Nodup) :
    (∀ q q' kind kind', d.HasKind q kind → d.HasKind q' kind' → kind ≠ kind' →
        (ofDevice d).lookup q ≠ (ofDevice d).lookup q') ↔
      ∀ path path' r c, d.HasMember path (.register r) → d.HasMember path' (.cluster c) →
        ¬AskAlike (ofDevice d) path path' (.register r) (.cluster c) := by
  constructor
  · intro apart path path' r c hr hc alike
    exact apart _ _ _ _ (.member hr) (.member hc) NodeKind.noConfusion
      ((lookup_eq_iff_askAlike h hr hc).2 alike)
  · intro apart q q' kind kind' hq hq' differ same
    cases hq with
    | peripheral hp =>
      cases hq' with
      | peripheral => exact differ rfl
      | member hm => exact lookup_peripheral_ne h hp hm same
    | @member path m hm =>
      cases hq' with
      | peripheral hp => exact lookup_peripheral_ne h hp hm same.symm
      | @member path' m' hm' =>
        have alike := (lookup_eq_iff_askAlike h hm hm').1 same
        cases m with
        | register r =>
          cases m' with
          | register => exact differ rfl
          | cluster c => exact apart path path' r c hm hm' alike
        | cluster c =>
          cases m' with
          | register r => exact apart path' path r c hm' hm alike.symm
          | cluster => exact differ rfl

/-- A port with a cluster of one register. -/
def blockPort : Device where
  name := "BOARD"
  peripherals := [{ name := "PORT", baseAddress := 0x40000000, clusters := [block] }]

theorem kinds_apart_iff_blockPort : blockPort.nodePaths.Nodup ∧
    ∀ q q' kind kind', blockPort.HasKind q kind → blockPort.HasKind q' kind' → kind ≠ kind' →
      (ofDevice blockPort).lookup q ≠ (ofDevice blockPort).lookup q' := by
  have nodup : blockPort.nodePaths.Nodup := by decide +kernel
  have members : ∀ path m, blockPort.HasMember path m →
      m = .cluster block ∨ m = .register { name := "C", offset := 0 } := by
    rintro path m ⟨p, hp, home, hn, hm⟩
    cases List.mem_singleton.1 hp
    cases hn with
    | self => exact .inl (List.mem_singleton.1 hm)
    | cluster hc hn =>
      cases List.mem_singleton.1 hc
      cases hn with
      | self => exact .inr (List.mem_singleton.1 hm)
      | cluster hc => cases hc
  refine ⟨nodup, (kinds_apart_iff nodup).2 fun path path' r c hr hc alike => ?_⟩
  obtain register | register := members _ _ hr <;> cases register
  obtain cluster | cluster := members _ _ hc <;> cases cluster
  cases alike with
  | given given => cases given
  | part _ _ base => exact absurd base (by decide +kernel)

/-- An array of registers that says how its type is called. -/
def linkArray : Register where
  name := "CTRL"
  offset := 0
  repetition := some { count := some 2, increment := some 4, name := some "LINK" }

/-- A cluster that calls its type by the same name. -/
def linkBlock : Cluster := { block with headerStructName := some "LINK" }

/-- Two ports that hold them. -/
def linkedKinds : Device where
  name := "BOARD"
  peripherals := [
    { name := "PORT", baseAddress := 0x40000000, registers := [linkArray] },
    { name := "GPIO", baseAddress := 0x40001000, clusters := [linkBlock] }]

theorem not_forall_kinds_apart : ¬ ∀ d : Device, d.nodePaths.Nodup → ∀ q q' kind kind',
    d.HasKind q kind → d.HasKind q' kind' → kind ≠ kind' →
      (ofDevice d).lookup q ≠ (ofDevice d).lookup q' := by
  intro apart
  have array : linkedKinds.HasMember ["PORT"] (.register linkArray) :=
    ⟨_, .head _, _, .self _ _, .head _⟩
  have cluster : linkedKinds.HasMember ["GPIO"] (.cluster linkBlock) :=
    ⟨_, .tail _ (.head _), _, .self _ _, .head _⟩
  exact apart linkedKinds (by decide +kernel) _ _ _ _ (.member array) (.member cluster) (by decide)
    (by decide +kernel)

end Nim.TypeNames

end RegisterMap
