import RegisterMap.Proofs.Nim.Names
import RegisterMap.Proofs.Nim.UniqueNames

/-!
# Owners of type names

The type names of a device are claimed in one run over all nodes, a node's members after the node.
Each node claims for an owner that depends on the name given to its parent, and the registry at the
end of the run holds all claims. Where no two nodes have one path, the names that are looked up are
those claims, so nodes share a name exactly if they share an owner.

## Main definitions

* `Device.nodePaths` : the paths of all nodes of a device.
* `TypeNames.IsOwner` : the owner of a node's type name.
* `IsAssigned` : a node and all nodes in it have names, claimed for their owners.
* `KeptByClaims` : a property of names and registry that every claim keeps.

## Main results

* `isAssigned_assignNode` : one step of the run, for a register and for a cluster.
* `isAssigned_assignPeripherals` : the run over a device.
* `TypeNames.of_keptByClaims` : what every claim keeps holds after the run.
* `TypeNames.exists_claim_of_lookup` : every type name is a variant of one that an owner asks for.
* `TypeNames.eq_iff_owner_eq` : nodes share a type name exactly if they share an owner.
-/

namespace RegisterMap

/-- The paths of all nodes of a device. -/
def Device.nodePaths (d : Device) : List NodePath :=
  d.peripherals.flatMap fun p => p.contents.paths [p.name]

namespace Nim

/-- The type name of a node belongs to an owner. A peripheral's belongs to the peripherals of its
layout's name. A member's belongs to the name that the description gives to its type, or else to the
parent's type and the member's own name. -/
inductive TypeNames.IsOwner (names : TypeNames) (d : Device) : NodePath → Owner → Prop
  | peripheral {p : Peripheral} (hp : p ∈ d.peripherals) :
      IsOwner names d [p.name] (.peripheral p.structName)
  | given {p : Peripheral} {path : NodePath} {home : Contents} {m : Member} {name : String}
      (hp : p ∈ d.peripherals) (hn : p.contents.HasNode [p.name] path home)
      (hm : m ∈ home.members) (given : givenName? m = some name) :
      IsOwner names d (path ++ [m.name]) (.layout name)
  | part {p : Peripheral} {path : NodePath} {home : Contents} {m : Member} {parentType : String}
      (hp : p ∈ d.peripherals) (hn : p.contents.HasNode [p.name] path home)
      (hm : m ∈ home.members) (given : givenName? m = none)
      (parent : names.lookup path = .ok parentType) :
      IsOwner names d (path ++ [m.name]) (.part parentType (baseName m.name))

/-! ### One run -/

/-- A node in a node of the given type, and all nodes in it, have names among those given, and the
registry holds each for its owner. -/
inductive IsAssigned (given : List (NodePath × String)) (reg : Registry Owner) :
    NodePath → String → Node → Prop
  | register {path : NodePath} {parentType name : String} {r : Register}
      (mem : (path, name) ∈ given)
      (claimed : ((memberClaim parentType (.register r)).2, name) ∈ reg.claims) :
      IsAssigned given reg path parentType (.register r)
  | cluster {path : NodePath} {parentType name : String} {c : Cluster} {members : List Node}
      (mem : (path, name) ∈ given)
      (claimed : ((memberClaim parentType (.cluster c)).2, name) ∈ reg.claims)
      (inner : ∀ n ∈ members, IsAssigned given reg (path ++ [n.member.name]) name n) :
      IsAssigned given reg path parentType (.cluster c members)

section

variable {given given' : List (NodePath × String)} {reg reg' : Registry Owner} {path : NodePath}
  {parentType : String}

/-- What was assigned stays assigned. -/
theorem IsAssigned.mono {n : Node} (h : IsAssigned given reg path parentType n)
    (hg : given ⊆ given') (hr : reg.claims ⊆ reg'.claims) :
    IsAssigned given' reg' path parentType n := by
  induction h with
  | register mem claimed => exact .register (hg mem) (hr claimed)
  | cluster mem claimed _ ih => exact .cluster (hg mem) (hr claimed) ih

theorem IsAssigned.exists_name {n : Node} (h : IsAssigned given reg path parentType n) :
    ∃ name, (path, name) ∈ given ∧ ((memberClaim parentType n.member).2, name) ∈ reg.claims := by
  cases h with
  | register mem claimed => exact ⟨_, mem, claimed⟩
  | cluster mem claimed _ => exact ⟨_, mem, claimed⟩

mutual

/-- Naming a node keeps the registry unique and what it holds, and assigns names to the node and all
in it. -/
theorem isAssigned_assignNode (path : NodePath) (parentType : String) :
    (n : Node) → (reg : Registry Owner) → reg.IsUnique →
      (assignNode path parentType n reg).2.IsUnique ∧
      reg.claims ⊆ (assignNode path parentType n reg).2.claims ∧
      IsAssigned (assignNode path parentType n reg).1 (assignNode path parentType n reg).2 path
        parentType n
  | .register r, reg, h => by
      obtain ⟨claimed, kept⟩ := reg.claim_mem (memberClaim parentType (.register r)).1
        (memberClaim parentType (.register r)).2
      exact ⟨h.claim (requested_memberClaim _ _), kept, .register List.mem_cons_self claimed⟩
  | .cluster c members, reg, h => by
      obtain ⟨claimed, kept⟩ := reg.claim_mem (memberClaim parentType (.cluster c)).1
        (memberClaim parentType (.cluster c)).2
      obtain ⟨unique, keptInner, inner⟩ := isAssigned_assignNodes path
        (reg.claim (memberClaim parentType (.cluster c)).1
          (memberClaim parentType (.cluster c)).2).1 members _ (h.claim (requested_memberClaim _ _))
      exact ⟨unique, List.Subset.trans kept keptInner, .cluster List.mem_cons_self
        (keptInner claimed) fun n hn =>
          (inner n hn).mono (List.subset_cons_self _ _) (List.Subset.refl _)⟩

/-- So does naming the members of a node. -/
theorem isAssigned_assignNodes (path : NodePath) (typeName : String) :
    (ns : List Node) → (reg : Registry Owner) → reg.IsUnique →
      (assignNodes path typeName ns reg).2.IsUnique ∧
      reg.claims ⊆ (assignNodes path typeName ns reg).2.claims ∧
      ∀ n ∈ ns, IsAssigned (assignNodes path typeName ns reg).1
        (assignNodes path typeName ns reg).2 (path ++ [n.member.name]) typeName n
  | [], _, h => ⟨h, List.Subset.refl _, fun _ hn => absurd hn List.not_mem_nil⟩
  | n :: ns, reg, h => by
      obtain ⟨unique, kept, first⟩ :=
        isAssigned_assignNode (path ++ [n.member.name]) typeName n reg h
      obtain ⟨unique, keptRest, rest⟩ := isAssigned_assignNodes path typeName ns _ unique
      refine ⟨unique, List.Subset.trans kept keptRest, List.forall_mem_cons.2 ⟨?_, ?_⟩⟩
      · exact first.mono (List.subset_append_left _ _) keptRest
      · exact fun m hm => (rest m hm).mono (List.subset_append_right _ _) (List.Subset.refl _)

end

/-- A peripheral and all nodes in it have names among those given, and the registry holds each for
its owner. -/
def IsAssignedPeripheral (given : List (NodePath × String)) (reg : Registry Owner)
    (p : Peripheral) : Prop :=
  ∃ name, ([p.name], name) ∈ given ∧ ((peripheralClaim p).2, name) ∈ reg.claims ∧
    ∀ n ∈ p.contents.nodes, IsAssigned given reg ([p.name] ++ [n.member.name]) name n

theorem IsAssignedPeripheral.mono {p : Peripheral} (h : IsAssignedPeripheral given reg p)
    (hg : given ⊆ given') (hr : reg.claims ⊆ reg'.claims) : IsAssignedPeripheral given' reg' p := by
  obtain ⟨name, mem, claimed, inner⟩ := h
  exact ⟨name, hg mem, hr claimed, fun n hn => (inner n hn).mono hg hr⟩

theorem isAssigned_assignPeripheral (p : Peripheral) (h : reg.IsUnique) :
    (assignPeripheral p reg).2.IsUnique ∧ reg.claims ⊆ (assignPeripheral p reg).2.claims ∧
      IsAssignedPeripheral (assignPeripheral p reg).1 (assignPeripheral p reg).2 p := by
  obtain ⟨claimed, kept⟩ := reg.claim_mem (peripheralClaim p).1 (peripheralClaim p).2
  obtain ⟨unique, keptInner, inner⟩ := isAssigned_assignNodes [p.name]
    (reg.claim (peripheralClaim p).1 (peripheralClaim p).2).1 p.contents.nodes _
    (h.claim (requested_peripheralClaim p))
  exact ⟨unique, List.Subset.trans kept keptInner, _, List.mem_cons_self, keptInner claimed,
    fun n hn => (inner n hn).mono (List.subset_cons_self _ _) (List.Subset.refl _)⟩

/-- After the run over a device the registry is unique and all peripherals and nodes have names. -/
theorem isAssigned_assignPeripherals (ps : List Peripheral) (h : reg.IsUnique) :
    (assignPeripherals ps reg).2.IsUnique ∧ reg.claims ⊆ (assignPeripherals ps reg).2.claims ∧
      ∀ p ∈ ps,
        IsAssignedPeripheral (assignPeripherals ps reg).1 (assignPeripherals ps reg).2 p := by
  induction ps generalizing reg with
  | nil => exact ⟨h, List.Subset.refl _, fun _ hp => absurd hp List.not_mem_nil⟩
  | cons p ps ih =>
    obtain ⟨unique, kept, first⟩ := isAssigned_assignPeripheral p h
    obtain ⟨unique, keptRest, rest⟩ := ih unique
    refine ⟨unique, List.Subset.trans kept keptRest, List.forall_mem_cons.2 ⟨?_, ?_⟩⟩
    · exact first.mono (List.subset_append_left _ _) keptRest
    · exact fun q hq => (rest q hq).mono (List.subset_append_right _ _) (List.Subset.refl _)

/-- A property of the names given so far and the registry that every claim keeps. -/
def KeptByClaims (P : List (NodePath × String) → Registry Owner → Prop) : Prop :=
  ∀ ⦃given reg⦄ (path : NodePath) ⦃base : String⦄ ⦃owner : Owner⦄, owner.requested = base →
    P given reg → P (given ++ [(path, (reg.claim base owner).1)]) (reg.claim base owner).2

namespace KeptByClaims

variable {P : List (NodePath × String) → Registry Owner → Prop}

mutual

/-- Naming a node keeps what every claim keeps. -/
theorem assignNode (keeps : KeptByClaims P) (path : NodePath) (parentType : String) :
    (n : Node) → {reg : Registry Owner} → {given : List (NodePath × String)} → P given reg →
      P (given ++ (assignNode path parentType n reg).1) (assignNode path parentType n reg).2
  | .register r, _, _, h => keeps path (requested_memberClaim parentType (.register r)) h
  | .cluster c members, reg, _, h => by
      have own := keeps path (requested_memberClaim parentType (.cluster c)) h
      have inner := assignNodes keeps path (reg.claim (memberClaim parentType (.cluster c)).1
        (memberClaim parentType (.cluster c)).2).1 members own
      rwa [List.append_assoc] at inner

/-- So does naming the members of a node. -/
theorem assignNodes (keeps : KeptByClaims P) (path : NodePath) (typeName : String) :
    (ns : List Node) → {reg : Registry Owner} → {given : List (NodePath × String)} →
      P given reg →
      P (given ++ (assignNodes path typeName ns reg).1) (assignNodes path typeName ns reg).2
  | [], _, _, h => by rwa [Nim.assignNodes, List.append_nil]
  | n :: ns, _, _, h => by
      have first := assignNode keeps (path ++ [n.member.name]) typeName n h
      have rest := assignNodes keeps path typeName ns first
      rwa [List.append_assoc] at rest

end

theorem assignPeripheral (keeps : KeptByClaims P) (p : Peripheral) (h : P given reg) :
    P (given ++ (assignPeripheral p reg).1) (assignPeripheral p reg).2 := by
  have own := keeps [p.name] (requested_peripheralClaim p) h
  have inner := keeps.assignNodes [p.name]
    (reg.claim (peripheralClaim p).1 (peripheralClaim p).2).1 p.contents.nodes own
  rwa [List.append_assoc] at inner

/-- So does the run over a device. -/
theorem assignPeripherals (keeps : KeptByClaims P) (ps : List Peripheral) (h : P given reg) :
    P (given ++ (assignPeripherals ps reg).1) (assignPeripherals ps reg).2 := by
  induction ps generalizing reg given with
  | nil => rwa [Nim.assignPeripherals, List.append_nil]
  | cons p ps ih =>
    have rest := ih (keeps.assignPeripheral p h)
    rwa [List.append_assoc] at rest

end KeptByClaims

/-- Every node in a named node has a name, for which its members have theirs. -/
theorem exists_typeName_of_hasNode {c : Contents} {typeName : String} {q : NodePath} {e : Contents}
    (own : (path, typeName) ∈ given)
    (h : ∀ n ∈ c.nodes, IsAssigned given reg (path ++ [n.member.name]) typeName n)
    (hn : c.HasNode path q e) : ∃ t, (q, t) ∈ given ∧ ∀ m ∈ e.members,
      ∃ name, (q ++ [m.name], name) ∈ given ∧ ((memberClaim t m).2, name) ∈ reg.claims := by
  induction hn generalizing typeName with
  | self path c =>
    refine ⟨typeName, own, fun m hm => ?_⟩
    obtain ⟨n, hn, rfl⟩ := Contents.exists_node_of_mem_members hm
    exact (h n hn).exists_name
  | @cluster path q c e inner hc _ ih =>
    have node := h inner.node (Contents.mem_nodes.2 (.inr ⟨inner, hc, rfl⟩))
    rw [Cluster.member_node, Cluster.node_eq] at node
    obtain _ | ⟨mem, -, members⟩ := node
    exact ih mem members

end

/-! ### The names of a device -/

namespace TypeNames

variable {d : Device}

theorem map_fst_entries (d : Device) : (ofDevice d).entries.map Prod.fst = d.nodePaths :=
  map_fst_assignPeripherals d.peripherals {}

/-- Where no two nodes have one path, what was given is what is looked up. -/
theorem lookup_eq_ok_iff_mem (h : d.nodePaths.Nodup) {q : NodePath} {name : String} :
    (ofDevice d).lookup q = .ok name ↔ (q, name) ∈ (ofDevice d).entries := by
  refine ⟨mem_entries_of_lookup, fun mem => ?_⟩
  have path : q ∈ d.nodePaths := map_fst_entries d ▸ List.mem_map.2 ⟨_, mem, rfl⟩
  obtain ⟨p, hp, hq⟩ := List.mem_flatMap.1 path
  obtain ⟨found, hfound⟩ := exists_lookup_iff.2 ⟨p, hp, hq⟩
  rw [← map_fst_entries] at h
  cases List.inj_on_of_nodup_map h (mem_entries_of_lookup hfound) mem rfl
  exact hfound

/-- The registry at the end of the run over a device. -/
def registry (d : Device) : Registry Owner := (assignPeripherals d.peripherals {}).2

theorem isUnique_registry (d : Device) : (registry d).IsUnique :=
  (isAssigned_assignPeripherals d.peripherals Registry.isUnique_empty).1

/-- What every claim keeps holds of the type names of a device and the registry. -/
theorem of_keptByClaims {P : List (NodePath × String) → Registry Owner → Prop}
    (keeps : KeptByClaims P) (start : P [] {}) (d : Device) :
    P (ofDevice d).entries (registry d) :=
  keeps.assignPeripherals d.peripherals start

/-- Every name given is the name of an owner. -/
theorem keptByClaims_exists_claim :
    KeptByClaims fun given reg => ∀ e ∈ given, ∃ owner, (owner, e.2) ∈ reg.claims := by
  intro given reg path base owner _ h
  obtain ⟨claimed, kept⟩ := reg.claim_mem base owner
  refine List.forall_mem_append.2 ⟨fun e he => ?_, List.forall_mem_singleton.2 ⟨owner, claimed⟩⟩
  obtain ⟨other, ho⟩ := h e he
  exact ⟨other, kept ho⟩

/-- Every type name is the name of an owner, and a variant of the one that the owner asks for. -/
theorem exists_claim_of_lookup {path : NodePath} {name : String}
    (h : (ofDevice d).lookup path = .ok name) :
    ∃ owner n, (owner, name) ∈ (registry d).claims ∧
      name = variant (Ident.ofText owner.requested) n := by
  obtain ⟨owner, claimed⟩ := of_keptByClaims keptByClaims_exists_claim
    (fun e he => absurd he List.not_mem_nil) d _ (mem_entries_of_lookup h)
  obtain ⟨n, numbered⟩ := (isUnique_registry d).variants _ claimed
  exact ⟨owner, n, claimed, numbered⟩

/-- Type names are plain. -/
theorem isPlain_of_lookup {path : NodePath} {name : String}
    (h : (ofDevice d).lookup path = .ok name) : IsPlain name := by
  obtain ⟨owner, n, -, rfl⟩ := exists_claim_of_lookup h
  exact isPlain_variant owner.requested n

/-- The registry holds the name of every node for its owner. -/
theorem IsOwner.exists_lookup (h : d.nodePaths.Nodup) {q : NodePath} {owner : Owner}
    (ho : IsOwner (ofDevice d) d q owner) :
    ∃ name, (ofDevice d).lookup q = .ok name ∧ (owner, name) ∈ (registry d).claims := by
  have assigned := (isAssigned_assignPeripherals d.peripherals Registry.isUnique_empty).2.2
  have member : ∀ {p : Peripheral} {path : NodePath} {home : Contents} {m : Member},
      p ∈ d.peripherals → p.contents.HasNode [p.name] path home → m ∈ home.members →
      ∃ t name, (ofDevice d).lookup path = .ok t ∧
        (ofDevice d).lookup (path ++ [m.name]) = .ok name ∧
        ((memberClaim t m).2, name) ∈ (registry d).claims := by
    intro p path home m hp hn hm
    obtain ⟨typeName, own, -, inner⟩ := assigned p hp
    obtain ⟨t, type, members⟩ := exists_typeName_of_hasNode own inner hn
    obtain ⟨name, mem, claimed⟩ := members m hm
    exact ⟨t, name, (lookup_eq_ok_iff_mem h).2 type, (lookup_eq_ok_iff_mem h).2 mem, claimed⟩
  cases ho with
  | peripheral hp =>
    obtain ⟨name, mem, claimed, -⟩ := assigned _ hp
    exact ⟨name, (lookup_eq_ok_iff_mem h).2 mem, claimed⟩
  | given hp hn hm given =>
    obtain ⟨t, name, -, found, claimed⟩ := member hp hn hm
    rw [memberClaim, given] at claimed
    exact ⟨name, found, claimed⟩
  | part hp hn hm given parent =>
    obtain ⟨t, name, type, found, claimed⟩ := member hp hn hm
    cases Except.ok.inj (parent.symm.trans type)
    rw [memberClaim, given] at claimed
    exact ⟨name, found, claimed⟩

/-- The type name that is found at a node is claimed for the node's owner. -/
theorem IsOwner.mem_claims (h : d.nodePaths.Nodup) {q : NodePath} {owner : Owner} {name : String}
    (ho : IsOwner (ofDevice d) d q owner) (hq : (ofDevice d).lookup q = .ok name) :
    (owner, name) ∈ (registry d).claims := by
  obtain ⟨found, hfound, claimed⟩ := ho.exists_lookup h
  cases Except.ok.inj (hq.symm.trans hfound)
  exact claimed

/-- Every member has an owner, and not one that peripherals have. -/
theorem exists_isOwner_member {p : Peripheral} (hp : p ∈ d.peripherals) {path : NodePath}
    {home : Contents} (hn : p.contents.HasNode [p.name] path home) {m : Member}
    (hm : m ∈ home.members) : ∃ owner, IsOwner (ofDevice d) d (path ++ [m.name]) owner ∧
      ∀ base, owner ≠ .peripheral base := by
  cases given : givenName? m with
  | some name => exact ⟨_, .given hp hn hm given, fun _ => Owner.noConfusion⟩
  | none =>
    obtain ⟨t, parent⟩ := exists_lookup_iff.2 ⟨p, hp, hn.mem_paths⟩
    exact ⟨_, .part hp hn hm given parent, fun _ => Owner.noConfusion⟩

/-- Every node of a device has an owner. -/
theorem exists_isOwner {q : NodePath} (hq : q ∈ d.nodePaths) :
    ∃ owner, IsOwner (ofDevice d) d q owner := by
  obtain ⟨p, hp, hq⟩ := List.mem_flatMap.1 hq
  rcases Contents.mem_paths_iff_hasNode.1 hq with rfl | ⟨path, home, hn, m, hm, rfl⟩
  · exact ⟨_, .peripheral hp⟩
  · obtain ⟨owner, ho, -⟩ := exists_isOwner_member hp hn hm
    exact ⟨owner, ho⟩

/-- **Type names and owners.** Where no two nodes of a device have one path, every node has exactly
one owner, its type name is a numbered variant of the name that the owner asks for, and two nodes
have the same type name exactly if they have the same owner. In particular a peripheral never shares
its type name with a cluster or register. -/
theorem eq_iff_owner_eq (h : d.nodePaths.Nodup) :
    (∀ q ∈ d.nodePaths, ∃ owner n, IsOwner (ofDevice d) d q owner ∧
      (∀ other, IsOwner (ofDevice d) d q other → other = owner) ∧
      (ofDevice d).lookup q = .ok (variant (Ident.ofText owner.requested) n)) ∧
    (∀ q q' owner owner' name name', IsOwner (ofDevice d) d q owner →
      IsOwner (ofDevice d) d q' owner' → (ofDevice d).lookup q = .ok name →
      (ofDevice d).lookup q' = .ok name' → (name = name' ↔ owner = owner')) ∧
    ∀ p ∈ d.peripherals, ∀ p' ∈ d.peripherals, ∀ path home,
      p'.contents.HasNode [p'.name] path home → ∀ m ∈ home.members,
      (ofDevice d).lookup [p.name] ≠ (ofDevice d).lookup (path ++ [m.name]) := by
  have unique := isUnique_registry d
  have same : ∀ {q q' owner owner' name name'}, IsOwner (ofDevice d) d q owner →
      IsOwner (ofDevice d) d q' owner' → (ofDevice d).lookup q = .ok name →
      (ofDevice d).lookup q' = .ok name' → (name = name' ↔ owner = owner') := by
    intro q q' owner owner' name name' ho ho' hq hq'
    obtain ⟨found, hfound, claimed⟩ := ho.exists_lookup h
    obtain ⟨found', hfound', claimed'⟩ := ho'.exists_lookup h
    cases Except.ok.inj (hq.symm.trans hfound)
    cases Except.ok.inj (hq'.symm.trans hfound')
    exact unique.name_eq_iff claimed claimed'
  refine ⟨fun q hq => ?_, fun q q' owner owner' name name' => same, ?_⟩
  · obtain ⟨owner, ho⟩ := exists_isOwner hq
    obtain ⟨name, found, claimed⟩ := ho.exists_lookup h
    obtain ⟨n, numbered⟩ := unique.variants _ claimed
    exact ⟨owner, n, ho, fun other hother => (same hother ho found found).1 rfl,
      found.trans (congrArg Except.ok numbered)⟩
  · intro p hp p' hp' path home hn m hm equal
    obtain ⟨owner, ho, other⟩ := exists_isOwner_member hp' hn hm
    obtain ⟨name, found, -⟩ := ho.exists_lookup h
    have shared : owner = .peripheral p.structName :=
      (same ho (.peripheral hp) found (equal.trans found)).1 rfl
    exact other _ shared

/-- A cluster of one register. -/
def block : Cluster where
  name := "B"
  offset := 0
  registers := [{ name := "C", offset := 0 }]

/-- Two peripherals of one layout, and one whose name is that of their cluster's type. -/
def clashingStems : Device where
  name := "BOARD"
  peripherals := [
    { name := "A", baseAddress := 0x1000, clusters := [block] },
    { name := "A1", baseAddress := 0x2000, headerStructName := some "A", clusters := [block] },
    { name := "A_B", baseAddress := 0x3000, registers := [{ name := "C", offset := 0 }] }]

theorem eq_iff_owner_eq_clashingStems : clashingStems.nodePaths.Nodup ∧
    (ofDevice clashingStems).lookup ["A_B"] = .ok "A_B_1_Type" ∧
    (ofDevice clashingStems).lookup ["A_B"] ≠ (ofDevice clashingStems).lookup ["A", "B"] ∧
    ∃ owner, IsOwner (ofDevice clashingStems) clashingStems ["A", "B"] owner ∧
      IsOwner (ofDevice clashingStems) clashingStems ["A1", "B"] owner := by
  have paths : clashingStems.nodePaths = [["A"], ["A", "B"], ["A", "B", "C"], ["A1"], ["A1", "B"],
      ["A1", "B", "C"], ["A_B"], ["A_B", "C"]] := by
    decide +kernel
  have nodup : clashingStems.nodePaths.Nodup := by
    rw [paths]
    decide
  obtain ⟨owners, same, apart⟩ := eq_iff_owner_eq nodup
  refine ⟨nodup, by decide +kernel, ?_, ?_⟩
  · exact apart _ (.tail _ (.tail _ (.head _))) _ (.head _) ["A"] _ (.self _ _) (.cluster block)
      (.head _)
  · obtain ⟨owner, -, ho, -⟩ := owners ["A", "B"] (by rw [paths]; decide)
    obtain ⟨owner', -, ho', -⟩ := owners ["A1", "B"] (by rw [paths]; decide)
    have shared : owner = owner' := (same _ _ _ _ "A_B_Type" "A_B_Type" ho ho' (by decide +kernel)
      (by decide +kernel)).1 rfl
    exact ⟨owner, ho, shared ▸ ho'⟩

end TypeNames

end Nim

end RegisterMap
