import RegisterMap.Proofs.Nim.Owners

/-!
# Names given again

An owner keeps its name. So naming the nodes of a peripheral once more, with a registry that holds
all claims of the device, gives the same names and claims nothing. The names below a peripheral
follow from the name of its layout and from what it holds, however many claims of others came in
between.

## Main definitions

* `layoutNames` : the names of a layout and all in it, by the paths inside it.

## Main results

* `Registry.IsUnique.claim_eq` : an owner that has a name gets it again.
* `assignNode_again`, `assignPeripherals_again` : naming nodes once more.
* `TypeNames.find?_ofDevice` : the name of a node follows from the layout of its peripheral.
-/

namespace RegisterMap.Nim

/-! ### Naming once more -/

/-- An owner that has a name gets it again. -/
theorem Registry.IsUnique.claim_eq {reg : Registry Owner} (h : reg.IsUnique) {owner : Owner}
    {name : String} (claimed : (owner, name) ∈ reg.claims) (base : String) :
    reg.claim base owner = (name, reg) := by
  refine Registry.claim_of_nameOf? ?_ base
  cases found : reg.nameOf? owner with
  | none => exact absurd (List.mem_map_of_mem claimed) (Registry.nameOf?_eq_none_iff.1 found)
  | some other => rw [(h.name_eq_iff claimed (mem_of_lookup_eq_some found)).2 rfl]

section Steps

variable (path : NodePath) (typeName : String) (reg : Registry Owner)

/-- The claim of a member in a node of the given type. -/
def claimMember (typeName : String) (m : Member) (reg : Registry Owner) :
    String × Registry Owner :=
  reg.claim (memberClaim typeName m).1 (memberClaim typeName m).2

theorem assignNode_register (r : Register) : assignNode path typeName (.register r) reg =
    ([(path, (claimMember typeName (.register r) reg).1)],
      (claimMember typeName (.register r) reg).2) := rfl

theorem assignNode_cluster (c : Cluster) (members : List Node) :
    assignNode path typeName (.cluster c members) reg =
      let own := claimMember typeName (.cluster c) reg
      let inner := assignNodes path own.1 members own.2
      ((path, own.1) :: inner.1, inner.2) := rfl

theorem assignNodes_cons (n : Node) (ns : List Node) : assignNodes path typeName (n :: ns) reg =
    let first := assignNode (path ++ [n.member.name]) typeName n reg
    let rest := assignNodes path typeName ns first.2
    (first.1 ++ rest.1, rest.2) := rfl

theorem assignPeripheral_def (p : Peripheral) : assignPeripheral p reg =
    let own := reg.claim p.structName (.peripheral p.structName)
    let inner := assignNodes [p.name] own.1 p.contents.nodes own.2
    (([p.name], own.1) :: inner.1, inner.2) := rfl

end Steps

section

variable {final reg : Registry Owner} (unique : final.IsUnique)

include unique

theorem claim_again {base : String} {owner : Owner}
    (kept : (reg.claim base owner).2.claims ⊆ final.claims) :
    final.claim base owner = ((reg.claim base owner).1, final) :=
  unique.claim_eq (kept (reg.claim_mem base owner).1) base

theorem claimMember_again {typeName : String} {m : Member}
    (kept : (claimMember typeName m reg).2.claims ⊆ final.claims) :
    claimMember typeName m final = ((claimMember typeName m reg).1, final) :=
  claim_again unique kept

end

theorem Registry.IsUnique.claimMember {reg : Registry Owner} (h : reg.IsUnique) (typeName : String)
    (m : Member) : (claimMember typeName m reg).2.IsUnique :=
  h.claim (requested_memberClaim typeName m)

mutual

/-- Naming a node once more gives the same names and claims nothing. -/
theorem assignNode_again {final : Registry Owner} (unique : final.IsUnique) (path : NodePath)
    (typeName : String) : (n : Node) → (reg : Registry Owner) → reg.IsUnique →
      (assignNode path typeName n reg).2.claims ⊆ final.claims →
      assignNode path typeName n final = ((assignNode path typeName n reg).1, final)
  | .register r, reg, _, kept => by
      rw [assignNode_register, claimMember_again unique kept, assignNode_register]
  | .cluster c members, reg, h, kept => by
      have inner := h.claimMember typeName (.cluster c)
      have keptInner := (isAssigned_assignNodes path (claimMember typeName (.cluster c) reg).1
        members _ inner).2.1
      have again := assignNodes_again unique path (claimMember typeName (.cluster c) reg).1
        members _ inner kept
      rw [assignNode_cluster, claimMember_again unique (List.Subset.trans keptInner kept),
        assignNode_cluster]
      simp only [again]

/-- So does naming the members of a node. -/
theorem assignNodes_again {final : Registry Owner} (unique : final.IsUnique) (path : NodePath)
    (typeName : String) : (ns : List Node) → (reg : Registry Owner) → reg.IsUnique →
      (assignNodes path typeName ns reg).2.claims ⊆ final.claims →
      assignNodes path typeName ns final = ((assignNodes path typeName ns reg).1, final)
  | [], _, _, _ => rfl
  | n :: ns, reg, h, kept => by
      have rest := (isAssigned_assignNode (path ++ [n.member.name]) typeName n reg h).1
      have keptRest := (isAssigned_assignNodes path typeName ns _ rest).2.1
      rw [assignNodes_cons, assignNodes_cons,
        assignNode_again unique (path ++ [n.member.name]) typeName n reg h
          (List.Subset.trans keptRest kept)]
      simp only [assignNodes_again unique path typeName ns _ rest kept]

end

section

variable {final reg : Registry Owner} (unique : final.IsUnique)

include unique

/-- So does naming a peripheral. -/
theorem assignPeripheral_again (h : reg.IsUnique) {p : Peripheral}
    (kept : (assignPeripheral p reg).2.claims ⊆ final.claims) :
    assignPeripheral p final = ((assignPeripheral p reg).1, final) := by
  have inner : (reg.claim p.structName (.peripheral p.structName)).2.IsUnique :=
    h.claim (requested_peripheralClaim p)
  have keptInner := (isAssigned_assignNodes [p.name]
    (reg.claim p.structName (.peripheral p.structName)).1 p.contents.nodes _ inner).2.1
  have again := assignNodes_again unique [p.name]
    (reg.claim p.structName (.peripheral p.structName)).1 p.contents.nodes _ inner kept
  rw [assignPeripheral_def, assignPeripheral_def,
    claim_again unique (List.Subset.trans keptInner kept)]
  simp only [again]

/-- The names of all peripherals are those that the registry at the end gives to each. -/
theorem assignPeripherals_again (h : reg.IsUnique) {ps : List Peripheral}
    (kept : (assignPeripherals ps reg).2.claims ⊆ final.claims) :
    (assignPeripherals ps reg).1 = ps.flatMap fun p => (assignPeripheral p final).1 := by
  induction ps generalizing reg with
  | nil => rfl
  | cons p ps ih =>
    obtain ⟨after, -, -⟩ := isAssigned_assignPeripheral p h
    have keptRest := (isAssigned_assignPeripherals ps after).2.1
    have own := assignPeripheral_again unique h (List.Subset.trans keptRest kept)
    have split : (assignPeripherals (p :: ps) reg).1 = (assignPeripheral p reg).1 ++
        (assignPeripherals ps (assignPeripheral p reg).2).1 := rfl
    rw [split, ih after kept, List.flatMap_cons, own]

end

/-! ### Names inside a layout -/

mutual

/-- The paths of the nodes in a node begin with the path of the node. -/
theorem assignNode_prefix (before path : NodePath) (parentType : String) :
    (n : Node) → (reg : Registry Owner) → assignNode (before ++ path) parentType n reg =
      ((assignNode path parentType n reg).1.map (Prod.map (before ++ ·) id),
        (assignNode path parentType n reg).2)
  | .register r, reg => rfl
  | .cluster c members, reg => by
      simp only [assignNode, assignNodes_prefix before path _ members]
      rfl

theorem assignNodes_prefix (before path : NodePath) (typeName : String) :
    (ns : List Node) → (reg : Registry Owner) → assignNodes (before ++ path) typeName ns reg =
      ((assignNodes path typeName ns reg).1.map (Prod.map (before ++ ·) id),
        (assignNodes path typeName ns reg).2)
  | [], reg => rfl
  | n :: ns, reg => by
      simp only [assignNodes, List.append_assoc, assignNode_prefix before _ typeName n,
        assignNodes_prefix before path typeName ns, List.map_append]

end

/-- The names of a layout and all in it, by the paths inside it, as a registry gives them. -/
def layoutNames (reg : Registry Owner) (structName : String) (c : Contents) :
    List (NodePath × String) :=
  let (name, reg) := reg.claim structName (.peripheral structName)
  ([], name) :: (assignNodes [] name c.nodes reg).1

/-- The names of a peripheral are those of its layout, below its own name. -/
theorem assignPeripheral_eq (p : Peripheral) (reg : Registry Owner) : (assignPeripheral p reg).1 =
    (layoutNames reg p.structName p.contents).map (Prod.map (p.name :: ·) id) := by
  have inner := fun typeName reg => assignNodes_prefix [p.name] [] typeName p.contents.nodes reg
  simp only [List.append_nil] at inner
  simp only [assignPeripheral, inner]
  rfl

namespace TypeNames

variable {d : Device} {p : Peripheral}

/-- What is found behind a key among entries whose keys all begin with it. -/
theorem lookup_map_cons (name : String) (rel : NodePath) (given : List (NodePath × String)) :
    (given.map (Prod.map (name :: ·) id)).lookup (name :: rel) = given.lookup rel := by
  induction given with
  | nil => rfl
  | cons e given ih =>
    obtain ⟨path, typeName⟩ := e
    rw [List.map_cons, Prod.map_apply, List.lookup_cons, List.lookup_cons, ih]
    by_cases same : rel = path <;> simp [same]

/-- A path below another peripheral is not among the names of a peripheral. -/
theorem lookup_map_cons_of_ne {name other : String} (h : name ≠ other) (rel : NodePath)
    (given : List (NodePath × String)) :
    (given.map (Prod.map (other :: ·) id)).lookup (name :: rel) = none := by
  refine List.lookup_eq_none_iff.2 fun e he => ?_
  obtain ⟨e, -, rfl⟩ := List.mem_map.1 he
  simp [h]

/-- Where names are distinct, what is found below a peripheral is found among its own names. -/
theorem lookup_reverse_flatMap {given : Peripheral → List (NodePath × String)}
    {ps : List Peripheral} (distinct : (ps.map (·.name)).Nodup) (hp : p ∈ ps) (rel : NodePath) :
    (ps.flatMap fun p => (given p).map (Prod.map (p.name :: ·) id)).reverse.lookup (p.name :: rel) =
      (given p).reverse.lookup rel := by
  have absent : ∀ {qs : List Peripheral}, p.name ∉ qs.map (·.name) →
      (qs.flatMap fun p => (given p).map (Prod.map (p.name :: ·) id)).reverse.lookup
        (p.name :: rel) = none := by
    intro qs hq
    refine List.lookup_eq_none_iff.2 fun e he => ?_
    obtain ⟨q, hmem, he⟩ := List.mem_flatMap.1 (List.mem_reverse.1 he)
    obtain ⟨e, -, rfl⟩ := List.mem_map.1 he
    have other : p.name ≠ q.name := fun same => hq (List.mem_map.2 ⟨q, hmem, same.symm⟩)
    simp [other]
  induction ps with
  | nil => exact absurd hp List.not_mem_nil
  | cons q ps ih =>
    obtain ⟨fresh, rest⟩ := List.nodup_cons.1 distinct
    rw [List.flatMap_cons, List.reverse_append, List.lookup_append, ← List.map_reverse]
    rcases List.mem_cons.1 hp with rfl | hp
    · rw [absent fresh, lookup_map_cons, Option.none_or]
    · have other : p.name ≠ q.name := fun same => fresh (List.mem_map.2 ⟨p, hp, same⟩)
      rw [ih rest hp, lookup_map_cons_of_ne other, Option.or_none]

/-- The name of a node follows from its path inside its peripheral, what the peripheral holds and
the name of its layout. -/
theorem find?_ofDevice (distinct : (d.peripherals.map (·.name)).Nodup) (hp : p ∈ d.peripherals)
    (rel : NodePath) : (ofDevice d).find? (p.name :: rel) =
      (layoutNames (registry d) p.structName p.contents).reverse.lookup rel := by
  have entries : (ofDevice d).entries =
      d.peripherals.flatMap fun p => (assignPeripheral p (registry d)).1 :=
    assignPeripherals_again (isUnique_registry d) Registry.isUnique_empty (List.Subset.refl _)
  rw [find?, entries]
  simp only [assignPeripheral_eq]
  exact lookup_reverse_flatMap distinct hp rel

end TypeNames

end RegisterMap.Nim
