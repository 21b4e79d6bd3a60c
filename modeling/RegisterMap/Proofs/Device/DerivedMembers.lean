import RegisterMap.Proofs.Device.MemberChains

/-!
# What derived nodes come out as

A derived register may name a sibling or a register anywhere in the device, which may be derived in
turn, and it may stand in a cluster or peripheral whose contents were taken over from another. In
the derived device it is completed by the register that its reference leads to there.

Nodes are found by their positions, since names may repeat: the position of a peripheral, and then
those of clusters, each among the clusters of the one before.

## Main definitions

* `Contents.inside?`, `Device.inside?` : what the node at some positions holds.
* `Device.Declares` : the contents are those of a node of the device.
* `Register.IsCompletion` : a register with what it declares and the rest from its base.
* `Register.DerivesTo` : what a register comes out as.

## Main results

* `ClusterChain.declares` : the contents of a completed cluster are declared somewhere.
* `Contents.CompletesTo.inside`, `Contents.CompletesTo.exists_declares` : every node that holds
  something has its completion at its position, and every completed node is that of a declared one.
* `Device.derive_members` : what derived registers and peripherals come out as.
-/

namespace RegisterMap

/-! ### Positions -/

/-- What the cluster at some positions in a node holds. -/
def Contents.inside? : List Nat → Contents → Option Contents
  | [], home => some home
  | i :: is, home => home.clusters[i]?.bind fun c => c.contents.inside? is

/-- What the peripheral at a position, or the cluster at some positions in it, holds. -/
def Device.inside? (d : Device) (i : Nat) (is : List Nat) : Option Contents :=
  d.peripherals[i]?.bind fun p => p.contents.inside? is

/-- A peripheral or cluster of the device holds the contents. -/
def Device.Declares (d : Device) (home : Contents) : Prop := ∃ i is, d.inside? i is = some home

theorem Contents.inside?_append (is js : List Nat) (home : Contents) :
    home.inside? (is ++ js) = (home.inside? is).bind fun below => below.inside? js := by
  induction is generalizing home with
  | nil => rfl
  | cons i is ih =>
    rw [List.cons_append, inside?, inside?, Option.bind_assoc]
    simp only [ih]

theorem Contents.inside?_cons_eq_some_iff {i : Nat} {is : List Nat} {home below : Contents} :
    home.inside? (i :: is) = some below ↔
      ∃ c, home.clusters[i]? = some c ∧ c.contents.inside? is = some below :=
  Option.bind_eq_some_iff

theorem Device.inside?_eq_some_iff {d : Device} {i : Nat} {is : List Nat} {below : Contents} :
    d.inside? i is = some below ↔
      ∃ p, d.peripherals[i]? = some p ∧ p.contents.inside? is = some below :=
  Option.bind_eq_some_iff

theorem Contents.register_mem_members {home : Contents} {r : Register} :
    .register r ∈ home.members ↔ r ∈ home.registers := by
  simp [members]

theorem Contents.cluster_mem_members {home : Contents} {c : Cluster} :
    .cluster c ∈ home.members ↔ c ∈ home.clusters := by
  simp [members]

/-- A node in which a node holds something holds something. -/
theorem Contents.isEmpty_eq_false_of_inside? {is : List Nat} {home below : Contents}
    (found : home.inside? is = some below) (layout : below.isEmpty = false) :
    home.isEmpty = false := by
  cases is with
  | nil =>
    cases found
    exact layout
  | cons i is =>
    obtain ⟨c, hc, -⟩ := inside?_cons_eq_some_iff.1 found
    simp [isEmpty, List.ne_nil_of_mem (List.mem_of_getElem? hc)]

section Declared

variable {d : Device} {ps : List Peripheral} {home home' : Contents} {c c' : Cluster}

theorem Device.declares_of_mem {p : Peripheral} (hp : p ∈ d.peripherals) :
    d.Declares p.contents := by
  obtain ⟨i, found⟩ := List.mem_iff_getElem?.1 hp
  exact ⟨i, [], inside?_eq_some_iff.2 ⟨p, found, rfl⟩⟩

theorem Device.Declares.cluster (h : d.Declares home) (hc : c ∈ home.clusters) :
    d.Declares c.contents := by
  obtain ⟨i, is, found⟩ := h
  obtain ⟨p, hp, path⟩ := inside?_eq_some_iff.1 found
  obtain ⟨k, hk⟩ := List.mem_iff_getElem?.1 hc
  refine ⟨i, is ++ [k], inside?_eq_some_iff.2 ⟨p, hp, ?_⟩⟩
  rw [Contents.inside?_append, path]
  exact Contents.inside?_cons_eq_some_iff.2 ⟨c, hk, rfl⟩

/-- A path leads to a member of a declared node. -/
theorem Device.Declares.descend (h : d.Declares home) {names : List String} {m : Member}
    {below : Contents} (found : home.descend names = some (m, below)) :
    d.Declares below ∧ m ∈ below.members := by
  induction names generalizing home with
  | nil => cases found
  | cons name names ih =>
    cases names with
    | nil =>
      obtain ⟨_, hm, same⟩ := Option.map_eq_some_iff.1 found
      cases same
      exact ⟨h, List.mem_of_find?_eq_some hm⟩
    | cons next names =>
      obtain ⟨c, hc, rest⟩ := Contents.descend_cons_cons_eq_some_iff.1 found
      exact ih (h.cluster (Contents.cluster_mem_members.1 (List.mem_of_find?_eq_some hc))) rest

section References

variable (declared : ∀ p ∈ ps, d.Declares p.contents)
include declared

/-- A reference leads to a member of a declared node. -/
theorem Device.Declares.findReference (h : d.Declares home) {reference : String} {m : Member}
    {below : Contents} (found : findReference ps reference home = .ok (m, below)) :
    d.Declares below ∧ m ∈ below.members := by
  rcases findReference_eq_ok_iff.1 found with ⟨_, _, _, -, p, hp, path⟩ | ⟨-, path⟩
  · exact (declared p (peripheralNamed?_eq_some hp).1).descend path
  · exact h.descend path

/-- The contents of a completed cluster are declared somewhere. -/
theorem ClusterChain.declares (chain : ClusterChain ps home c c') (h : d.Declares home)
    (hc : c ∈ home.clusters) : d.Declares c'.contents := by
  induction chain with
  | own _ => exact h.cluster hc
  | step derived found _ ih =>
    obtain ⟨below, mem⟩ := h.findReference declared found
    rw [Cluster.contents_completedBy]
    split
    · exact ih below (Contents.cluster_mem_members.1 mem)
    · exact h.cluster hc

/-- Every completed node is that of a declared one. -/
theorem Contents.CompletesTo.exists_declares (completed : home.CompletesTo ps home')
    (h : d.Declares home) {is : List Nat} {below' : Contents}
    (found : home'.inside? is = some below') :
    ∃ below, d.Declares below ∧ below.CompletesTo ps below' := by
  induction is generalizing home home' with
  | nil =>
    cases found
    exact ⟨home, h, completed⟩
  | cons i is ih =>
    obtain ⟨c', hc', rest⟩ := inside?_cons_eq_some_iff.1 found
    obtain ⟨c, hc, target⟩ := exists_getElem?_of_forall₂ completed.clusters.flip hc'
    cases target with
    | cluster chain inside =>
      exact ih inside (chain.declares declared h (List.mem_of_getElem? hc)) rest

end References

/-- Every node has its completion at its position, at least if it holds something. -/
theorem Contents.CompletesTo.inside (completed : home.CompletesTo ps home') {is : List Nat}
    {below : Contents} (found : home.inside? is = some below) (layout : below.isEmpty = false) :
    ∃ below', home'.inside? is = some below' ∧ below.CompletesTo ps below' := by
  induction is generalizing home home' with
  | nil =>
    cases found
    exact ⟨home', rfl, completed⟩
  | cons i is ih =>
    obtain ⟨c, hc, rest⟩ := inside?_cons_eq_some_iff.1 found
    obtain ⟨_, hc', target⟩ := exists_getElem?_of_forall₂ completed.clusters hc
    cases target with
    | cluster chain inside =>
      rw [chain.contents_eq (isEmpty_eq_false_of_inside? rest layout)] at inside
      obtain ⟨below', rest', completed⟩ := ih inside rest
      exact ⟨below', inside?_cons_eq_some_iff.2 ⟨_, hc', rest'⟩, completed⟩

end Declared

/-! ### Peripherals -/

section Peripherals

variable {d : Device} {ps qs : List Peripheral} {name : String} {n : Nat} {p q : Peripheral}

/-- The contents of a completed peripheral are declared somewhere. -/
theorem ReferenceChain.declares (chain : ReferenceChain d.peripherals name n q) :
    d.Declares q.contents := by
  induction chain with
  | root found _ => exact Device.declares_of_mem (peripheralNamed?_eq_some found).1
  | step found _ _ ih =>
    rw [Peripheral.contents_completedBy]
    split
    · exact ih
    · exact Device.declares_of_mem (peripheralNamed?_eq_some found).1

/-- A peripheral that holds something keeps it. -/
theorem ReferenceChain.contents_eq (chain : ReferenceChain ps name n q)
    (found : peripheralNamed? ps name = some p) (layout : p.contents.isEmpty = false) :
    q.contents = p.contents := by
  cases chain with
  | root found' _ => cases found.symm.trans found'; rfl
  | step found' _ _ =>
    cases found.symm.trans found'
    rw [Peripheral.contents_completedBy, layout]
    rfl

/-- Peripherals that hold the same do so with everything completed. -/
theorem completeInside_contents_eq {p' q' : Peripheral} (hp : completeInside ps p = .ok p')
    (hq : completeInside ps q = .ok q') (same : p.contents = q.contents) :
    p'.contents = q'.contents := by
  obtain ⟨inner, inside, hp⟩ := bind_eq_ok_iff.1 hp
  obtain ⟨inner', inside', hq⟩ := bind_eq_ok_iff.1 hq
  cases hp
  cases hq
  -- the name of a node only serves a fault that contents of no depth have
  have named : resolveContents ps (countClusters (ps.flatMap (·.clusters)) + 1) p.name p.contents =
      resolveContents ps (countClusters (ps.flatMap (·.clusters)) + 1) q.name p.contents := rfl
  rw [named, same] at inside
  cases inside.symm.trans inside'
  rfl

end Peripherals

/-! ### Derived registers -/

/-- A register with its own name and place, and with what it declares; the rest is its base's. -/
structure Register.IsCompletion (r base r' : Register) : Prop where
  name : r'.name = r.name
  offset : r'.offset = r.offset
  repetition : r'.repetition = r.repetition
  size : r'.properties.size = r.properties.size.or base.properties.size
  access : r'.properties.access = r.properties.access.or base.properties.access
  fields : r'.fields = if r.fields = [] then base.fields else r.fields
  description : r'.description =
    if r.description = none ∨ r.description = some "" then base.description else r.description
  resetValue : r'.resetValue = r.resetValue.or base.resetValue

theorem Register.isCompletion_completedBy (r base : Register) :
    r.IsCompletion base (r.completedBy base) where
  name := rfl
  offset := rfl
  repetition := rfl
  size := rfl
  access := rfl
  fields := by cases h : r.fields <;> simp [completedBy, h]
  description := by
    change nonemptyOr r.description base.description = _
    rcases r.description with _ | text
    · rfl
    · by_cases h : text = "" <;> simp [nonemptyOr, Option.filter, h]
  resetValue := rfl

/-- What a register comes out as in a node: a derived one is completed by the register that its
reference leads to there, another stays as it is. -/
inductive Register.DerivesTo (ps : List Peripheral) (home : Contents) (r : Register) :
    Register → Prop
  | own (own : r.derivedFrom = none) : DerivesTo ps home r r
  | completed {reference : String} {base r' : Register} {below : Contents}
      (derived : r.derivedFrom = some reference)
      (found : findReference ps reference home = .ok (.register base, below))
      (completion : r.IsCompletion base r') : DerivesTo ps home r r'

/-- The registers of a node come out as their references, read in the completed node, say. -/
theorem Contents.CompletesTo.forall₂_derivesTo {ps qs : List Peripheral} {home home' : Contents}
    (inside : ps.mapM (completeInside ps) = .ok qs) (completed : home.CompletesTo ps home') :
    List.Forall₂ (Register.DerivesTo qs home') home.registers home'.registers := by
  refine completed.registers.imp fun r r' chain => ?_
  cases derived : r.derivedFrom with
  | none =>
    cases chain with
    | own _ => exact .own derived
    | step derived' _ _ => cases derived.symm.trans derived'
  | some reference =>
    obtain ⟨base, below, found, rfl⟩ := chain.exists_base inside completed derived
    exact .completed derived found (r.isCompletion_completedBy base)

/-! ### Derived devices -/

section Derived

variable {d d' : Device} {ps qs : List Peripheral}
  (distinct : (d.peripherals.map (·.name)).Nodup)
  (resolved : resolvePeripherals d.peripherals (d.peripherals.map (·.name)) [] = .ok ps)

include resolved in
/-- Every peripheral is completed along the chain that starts at its name. -/
theorem forall₂_referenceChain : List.Forall₂
    (fun p q => ∃ n, ReferenceChain d.peripherals p.name n q) d.peripherals ps :=
  List.forall₂_map_left_iff.1 (forall₂_of_resolvePeripherals Completed.isSound_nil resolved)

include resolved in
theorem forall_declares : ∀ p ∈ ps, d.Declares p.contents := by
  intro q hq
  obtain ⟨p, -, n, chain⟩ := exists_of_mem_right (forall₂_referenceChain resolved) hq
  exact chain.declares

include distinct resolved in
/-- Every node that holds something has its completion at its position. -/
theorem exists_inside?_completesTo (inside : ps.mapM (completeInside ps) = .ok qs) {i : Nat}
    {is : List Nat} {home : Contents} (found : d.inside? i is = some home)
    (layout : home.isEmpty = false) :
    ∃ home', { d with peripherals := qs }.inside? i is = some home' ∧
      home.CompletesTo ps home' := by
  obtain ⟨p, hp, path⟩ := Device.inside?_eq_some_iff.1 found
  obtain ⟨q, hq, n, chain⟩ := exists_getElem?_of_forall₂ (forall₂_referenceChain resolved) hp
  obtain ⟨q', hq', completed⟩ := exists_getElem?_of_forall₂ (mapM_eq_ok_iff.1 inside) hq
  have completed := (completeInside_eq_ok completed).2
  have own := (peripheralNamed?_eq_some_iff distinct).2 ⟨List.mem_of_getElem? hp, rfl⟩
  rw [chain.contents_eq own (Contents.isEmpty_eq_false_of_inside? path layout)] at completed
  obtain ⟨home', path', completed⟩ := completed.inside path layout
  exact ⟨home', Device.inside?_eq_some_iff.2 ⟨q', hq', path'⟩, completed⟩

include resolved in
/-- Every completed node is that of a declared one. -/
theorem exists_declares_completesTo (inside : ps.mapM (completeInside ps) = .ok qs) {i : Nat}
    {is : List Nat} {home' : Contents}
    (found : { d with peripherals := qs }.inside? i is = some home') :
    ∃ home, d.Declares home ∧ home.CompletesTo ps home' := by
  obtain ⟨q', hq', path'⟩ := Device.inside?_eq_some_iff.1 found
  obtain ⟨q, hq, completed⟩ := exists_of_mem_results inside (List.mem_of_getElem? hq')
  exact (completeInside_eq_ok completed).2.exists_declares (forall_declares resolved)
    (forall_declares resolved q hq) path'

include distinct resolved in
/-- A derived peripheral that holds nothing comes out with what its base comes out with. -/
theorem exists_base_of_isEmpty (inside : ps.mapM (completeInside ps) = .ok qs) {i : Nat}
    {p : Peripheral} {reference : String} (found : d.peripherals[i]? = some p)
    (derived : p.derivedFrom = some reference) (nonempty : reference ≠ "")
    (layout : p.contents.isEmpty = true) :
    ∃ p' base, qs[i]? = some p' ∧ p'.name = p.name ∧ base ∈ qs ∧ base.name = reference ∧
      p'.contents = base.contents := by
  obtain ⟨q, hq, n, chain⟩ := exists_getElem?_of_forall₂ (forall₂_referenceChain resolved) found
  obtain ⟨p', hp', completed⟩ := exists_getElem?_of_forall₂ (mapM_eq_ok_iff.1 inside) hq
  have own := (peripheralNamed?_eq_some_iff distinct).2 ⟨List.mem_of_getElem? found, rfl⟩
  have refers : nonemptyOr p.derivedFrom none = some reference := by
    simp [nonemptyOr, derived, nonempty]
  cases chain with
  | root found' none =>
    cases own.symm.trans found'
    cases none.symm.trans refers
  | step found' refers' rest =>
    cases own.symm.trans found'
    cases refers.symm.trans refers'
    obtain ⟨declared, hdeclared, -⟩ := rest.exists_peripheralNamed?
    obtain ⟨mem, rfl⟩ := peripheralNamed?_eq_some hdeclared
    obtain ⟨base, hbase, m, chain⟩ := exists_of_mem_left (forall₂_referenceChain resolved) mem
    obtain ⟨-, rfl⟩ := rest.unique chain
    obtain ⟨base', hbase', completed'⟩ := exists_of_mem_mapM inside hbase
    refine ⟨p', base', hp', (completeInside_eq_ok completed).1, hbase',
      (completeInside_eq_ok completed').1.trans rest.name_eq,
      completeInside_contents_eq completed completed' ?_⟩
    rw [Peripheral.contents_completedBy, layout]
    rfl

end Derived

/-- **Derived members.** Let the names of the peripherals be distinct. In the derived device the
registers of every node that holds something are those that it declares, a derived one completed by
the register that its reference leads to in the derived device, read where the register stands. The
registers of every node, those with contents taken over included, are in this way those of a
declared one. A derived peripheral that holds nothing comes out with what its base comes out with,
and no register or cluster is still derived. -/
theorem Device.derive_members {d d' : Device} (distinct : (d.peripherals.map (·.name)).Nodup)
    (h : d.derive = .ok d') :
    (∀ i is home, d.inside? i is = some home → home.isEmpty = false →
      ∃ home', d'.inside? i is = some home' ∧
        List.Forall₂ (Register.DerivesTo d'.peripherals home') home.registers home'.registers) ∧
    (∀ i is home', d'.inside? i is = some home' → ∃ home, d.Declares home ∧
      List.Forall₂ (Register.DerivesTo d'.peripherals home') home.registers home'.registers) ∧
    (∀ (i : Nat) (p : Peripheral) (reference : String), d.peripherals[i]? = some p →
      p.derivedFrom = some reference → reference ≠ "" → p.contents.isEmpty = true →
      ∃ p' base : Peripheral, d'.peripherals[i]? = some p' ∧ p'.name = p.name ∧
        base ∈ d'.peripherals ∧ base.name = reference ∧ p'.contents = base.contents) ∧
    ∀ i is home', d'.inside? i is = some home' → ∀ m ∈ home'.members, m.derivedFrom = none := by
  obtain ⟨ps, qs, resolved, inside, rfl⟩ := derive_eq_ok_iff.1 h
  refine ⟨?_, ?_, ?_, ?_⟩
  · intro i is home found layout
    obtain ⟨home', found', completed⟩ :=
      exists_inside?_completesTo distinct resolved inside found layout
    exact ⟨home', found', completed.forall₂_derivesTo inside⟩
  · intro i is home' found'
    obtain ⟨home, declared, completed⟩ := exists_declares_completesTo resolved inside found'
    exact ⟨home, declared, completed.forall₂_derivesTo inside⟩
  · intro i p reference
    exact exists_base_of_isEmpty distinct resolved inside
  · intro i is home' found' m' hm'
    obtain ⟨home, -, completed⟩ := exists_declares_completesTo resolved inside found'
    obtain ⟨m, -, target⟩ := exists_of_mem_right completed.members hm'
    exact target.derivedFrom_eq_none

/-- A register derived across peripherals, from one in a cluster that was taken over. -/
def cascade : Device where
  name := "BOARD"
  peripherals := [
    { name := "A", baseAddress := 0x1000,
      clusters := [{ name := "G", offset := 0, registers := [
        { name := "R", offset := 0, resetValue := some 1 },
        { name := "S", offset := 4, derivedFrom := some "R" }] }] },
    { name := "B", baseAddress := 0x2000, derivedFrom := some "A" },
    { name := "C", baseAddress := 0x3000,
      registers := [{ name := "Z", offset := 0, derivedFrom := some "B.G.S" }] }]

theorem derive_members_cascade : (cascade.peripherals.map (·.name)).Nodup ∧
    ∃ d', cascade.derive = .ok d' ∧
      (∃ home', d'.inside? 2 [] = some home' ∧
        List.Forall₂ (Register.DerivesTo d'.peripherals home')
          [{ name := "Z", offset := 0, derivedFrom := some "B.G.S" }] home'.registers) ∧
      ∃ p' base : Peripheral, d'.peripherals[1]? = some p' ∧ p'.name = "B" ∧
        base ∈ d'.peripherals ∧ base.name = "A" ∧ p'.contents = base.contents := by
  have distinct : (cascade.peripherals.map (·.name)).Nodup := by decide
  cases h : cascade.derive with
  | error fault =>
    have accepted : cascade.derive.isOk := by decide +kernel
    rw [h] at accepted
    cases accepted
  | ok d' =>
    obtain ⟨declared, -, layouts, -⟩ := Device.derive_members distinct h
    exact ⟨distinct, d', rfl, declared 2 [] _ rfl rfl, layouts 1 _ "A" rfl rfl (by decide) rfl⟩

end RegisterMap
