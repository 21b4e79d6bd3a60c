import RegisterMap.Device.Flattening
import RegisterMap.Proofs.Device.DerivedMembers
import RegisterMap.Proofs.Device.ExpandedAddresses

/-!
# Where the peripherals of a prepared device come from

A peripheral is completed, then it stands for one or more peripherals, and each of these takes over
the properties of the device. A peripheral that declares nothing of its own, and the one that it is
derived from, come out with the same layout, under the same name of a type, whichever of the two
are lists. So do the instances of one list.

## Main definitions

* `Device.DerivesTo` : what a peripheral is completed to.
* `Device.ComesFrom` : a peripheral of the prepared device comes from a declared one.
* `Peripheral.SameLayout` : two peripherals are the same but for their names and places.
* `Peripheral.IsCopyOf` : a peripheral takes its whole layout from the one that it is derived from.

## Main results

* `Device.mem_prepare_iff` : every peripheral of the prepared device comes from a declared one.
* `Device.nodup_names_of_prepare` : different names in the end were different in the beginning.
* `Device.sameLayout_of_comesFrom`, `Device.sameLayout_of_isCopyOf` : what comes out alike.
-/

namespace RegisterMap

/-! ### Steps of preparation -/

/-- A peripheral of the device is completed to another. -/
def Device.DerivesTo (d : Device) (p p' : Peripheral) : Prop :=
  ∃ (e : Device) (i : Nat),
    d.derive = .ok e ∧ d.peripherals[i]? = some p ∧ e.peripherals[i]? = some p'

/-- A peripheral comes from one that the device declares: it is one of those that the completed
peripheral stands for, with the properties of the device handed down. -/
def Device.ComesFrom (d : Device) (p x : Peripheral) : Prop :=
  ∃ p' ps y, d.DerivesTo p p' ∧ p'.expand.outcome = .ok ps ∧ y ∈ ps ∧ x = y.inheriting d.properties

/-- A successful flattening completes the peripherals, expands each, and hands down properties. -/
theorem Device.flatten_eq_ok {d d' : Device} (h : d.flatten.outcome = .ok d') :
    ∃ e parts, d.derive = .ok e ∧
      List.Forall₂ (fun p ps => (Peripheral.expand p).outcome = .ok ps) e.peripherals parts ∧
      d' = { d with peripherals := parts.flatten.map (Peripheral.inheriting d.properties) } := by
  rw [flatten] at h
  obtain ⟨e, (he : d.derive = .ok e), h⟩ := Logged.outcome_bind_eq_ok_iff.1 h
  rw [Logged.outcome_bind, outcome_expand, ← map_flatten_mapM] at h
  obtain ⟨f, hf, h⟩ := bind_eq_ok_iff.1 h
  obtain ⟨ps, hps, rfl⟩ := map_eq_ok_iff.1 hf
  obtain ⟨parts, hparts, rfl⟩ := map_eq_ok_iff.1 hps
  cases Except.ok.inj h
  refine ⟨e, parts, he, mapM_eq_ok_iff.1 hparts, ?_⟩
  obtain ⟨-, -, -, -, rfl⟩ := derive_eq_ok_iff.1 he
  rfl

/-- A successful preparation does so too. -/
theorem Device.prepare_eq_ok {d d' : Device} (h : d.prepare.outcome = .ok d') :
    ∃ e parts, d.derive = .ok e ∧
      List.Forall₂ (fun p ps => (Peripheral.expand p).outcome = .ok ps) e.peripherals parts ∧
      d'.peripherals = parts.flatten.map (Peripheral.inheriting d.properties) := by
  rw [prepare] at h
  obtain ⟨-, -, h⟩ := Logged.outcome_bind_eq_ok_iff.1 h
  obtain ⟨-, -, h⟩ := Logged.outcome_bind_eq_ok_iff.1 h
  obtain ⟨e, parts, he, hparts, rfl⟩ := flatten_eq_ok h
  exact ⟨e, parts, he, hparts, rfl⟩

/-- Every peripheral of the prepared device comes from one that the device declares. -/
theorem Device.mem_prepare_iff {d d' : Device} (h : d.prepare.outcome = .ok d') {x : Peripheral} :
    x ∈ d'.peripherals ↔ ∃ p ∈ d.peripherals, d.ComesFrom p x := by
  obtain ⟨e, parts, he, hparts, peripherals⟩ := prepare_eq_ok h
  rw [peripherals, List.mem_map]
  constructor
  · rintro ⟨y, hy, rfl⟩
    obtain ⟨ps, hps, hy⟩ := List.mem_flatten.1 hy
    obtain ⟨p', hp', expanded⟩ := exists_of_mem_right hparts hps
    obtain ⟨i, found⟩ := List.mem_iff_getElem?.1 hp'
    obtain ⟨qs, rs, resolved, inside, rfl⟩ := derive_eq_ok_iff.1 he
    obtain ⟨q, hq, completed⟩ := exists_getElem?_of_forall₂ (mapM_eq_ok_iff.1 inside).flip found
    obtain ⟨p, hp, -⟩ := exists_getElem?_of_forall₂ (forall₂_referenceChain resolved).flip hq
    exact ⟨p, List.mem_of_getElem? hp, p', ps, y, ⟨_, i, he, hp, found⟩, expanded, hy, rfl⟩
  · rintro ⟨p, hp, p', ps, y, ⟨e', i, he', hpi, hp'⟩, expanded, hy, rfl⟩
    cases Except.ok.inj (he.symm.trans he')
    obtain ⟨ps', hps', expanded'⟩ := exists_of_mem_left hparts (List.mem_of_getElem? hp')
    cases Except.ok.inj (expanded.symm.trans expanded')
    exact ⟨y, List.mem_flatten.2 ⟨ps, hps', hy⟩, rfl⟩

/-- What a peripheral stands for is the peripheral with its contents expanded, or an instance of
that. -/
theorem Peripheral.mem_expand {p x : Peripheral} {ps : List Peripheral}
    (h : p.expand.outcome = .ok ps) (hx : x ∈ ps) :
    ∃ registers clusters, expandRegisters p.registers = .ok registers ∧
      expandClusters p.clusters = .ok clusters ∧
      (isList p.name p.repetition = false ∧ x = { p with registers, clusters } ∨
        ∃ name baseAddress, x = { p with
          name, baseAddress, registers, clusters
          headerStructName := some p.structName
          repetition := none }) := by
  rw [expand] at h
  obtain ⟨registers, (hr : expandRegisters p.registers = .ok registers), h⟩ :=
    Logged.outcome_bind_eq_ok_iff.1 h
  obtain ⟨clusters, (hc : expandClusters p.clusters = .ok clusters), h⟩ :=
    Logged.outcome_bind_eq_ok_iff.1 h
  refine ⟨registers, clusters, hr, hc, ?_⟩
  rw [expandSelf] at h
  split at h
  · obtain ⟨instances, -, h⟩ := Logged.outcome_bind_eq_ok_iff.1 h
    cases Except.ok.inj h
    obtain ⟨⟨index, distance⟩, -, rfl⟩ := List.mem_map.1 hx
    exact .inr ⟨_, _, rfl⟩
  · next single =>
    cases Except.ok.inj h
    exact .inl ⟨Bool.eq_false_iff.2 single, List.mem_singleton.1 hx⟩

/-! ### Distinct names -/

/-- A peripheral stands for at least one. -/
theorem Peripheral.expand_ne_nil {p : Peripheral} {ps : List Peripheral}
    (h : p.expand.outcome = .ok ps) : ps ≠ [] := by
  rw [expand] at h
  obtain ⟨registers, -, h⟩ := Logged.outcome_bind_eq_ok_iff.1 h
  obtain ⟨clusters, -, h⟩ := Logged.outcome_bind_eq_ok_iff.1 h
  rw [expandSelf] at h
  split at h
  · obtain ⟨instances, (hi : listInstances _ _ = .ok instances), h⟩ :=
      Logged.outcome_bind_eq_ok_iff.1 h
    cases Except.ok.inj h
    simpa using listInstances_ne_nil hi
  · cases Except.ok.inj h
    exact List.cons_ne_nil _ _

/-- If the peripherals of the prepared device have different names, so have the declared ones: of
two of one name, both would be completed to the same. -/
theorem Device.nodup_names_of_prepare {d d' : Device} (h : d.prepare.outcome = .ok d')
    (distinct : (d'.peripherals.map (·.name)).Nodup) : (d.peripherals.map (·.name)).Nodup := by
  obtain ⟨e, parts, he, hparts, peripherals⟩ := prepare_eq_ok h
  obtain ⟨ps, qs, resolved, inside, rfl⟩ := derive_eq_ok_iff.1 he
  have apart : parts.flatten.Nodup := by
    rw [peripherals, List.map_map] at distinct
    exact distinct.of_map
  obtain ⟨-, disjoint⟩ := List.nodup_flatten.1 apart
  refine List.pairwise_map.2 (List.pairwise_iff_getElem.2 fun i j hi hj lt same => ?_)
  obtain ⟨p, hp, n, chain⟩ :=
    exists_getElem?_of_forall₂ (forall₂_referenceChain resolved) (List.getElem?_eq_getElem hi)
  obtain ⟨p', hp', n', chain'⟩ :=
    exists_getElem?_of_forall₂ (forall₂_referenceChain resolved) (List.getElem?_eq_getElem hj)
  obtain ⟨-, rfl⟩ := chain.unique (same ▸ chain')
  obtain ⟨q, hq, completed⟩ := exists_getElem?_of_forall₂ (mapM_eq_ok_iff.1 inside) hp
  obtain ⟨q', hq', completed'⟩ := exists_getElem?_of_forall₂ (mapM_eq_ok_iff.1 inside) hp'
  cases Except.ok.inj (completed.symm.trans completed')
  obtain ⟨part, hpart, expanded⟩ := exists_getElem?_of_forall₂ hparts hq
  obtain ⟨part', hpart', expanded'⟩ := exists_getElem?_of_forall₂ hparts hq'
  cases Except.ok.inj (expanded.symm.trans expanded')
  obtain ⟨hi', rfl⟩ := List.getElem?_eq_some_iff.1 hpart
  obtain ⟨hj', equal⟩ := List.getElem?_eq_some_iff.1 hpart'
  have different := List.pairwise_iff_getElem.1 disjoint i j hi' hj' lt
  obtain ⟨y, hy⟩ := List.exists_mem_of_ne_nil _ (Peripheral.expand_ne_nil expanded)
  exact different hy (equal ▸ hy)

/-! ### Layouts that stay the same -/

/-- Two peripherals hold the same, with the same decoration and properties, and their layouts have
one name. -/
structure Peripheral.SameLayout (p q : Peripheral) : Prop where
  structName : p.structName = q.structName
  registers : p.registers = q.registers
  clusters : p.clusters = q.clusters
  prependToName : p.prependToName = q.prependToName
  appendToName : p.appendToName = q.appendToName
  properties : p.properties = q.properties

namespace Peripheral.SameLayout

variable {p q r x y : Peripheral}

theorem refl (p : Peripheral) : p.SameLayout p := ⟨rfl, rfl, rfl, rfl, rfl, rfl⟩

theorem symm (h : p.SameLayout q) : q.SameLayout p :=
  ⟨h.structName.symm, h.registers.symm, h.clusters.symm, h.prependToName.symm,
    h.appendToName.symm, h.properties.symm⟩

theorem trans (h : p.SameLayout q) (h' : q.SameLayout r) : p.SameLayout r :=
  ⟨h.structName.trans h'.structName, h.registers.trans h'.registers, h.clusters.trans h'.clusters,
    h.prependToName.trans h'.prependToName, h.appendToName.trans h'.appendToName,
    h.properties.trans h'.properties⟩

theorem inheriting (h : p.SameLayout q) (parent : Properties) :
    (p.inheriting parent).SameLayout (q.inheriting parent) where
  structName := h.structName
  registers := by rw [Peripheral.inheriting, Peripheral.inheriting, h.registers, h.properties]
  clusters := by rw [Peripheral.inheriting, Peripheral.inheriting, h.clusters, h.properties]
  prependToName := h.prependToName
  appendToName := h.appendToName
  properties := by rw [Peripheral.inheriting, Peripheral.inheriting, h.properties]

end Peripheral.SameLayout

/-- The instances of a list take its name for their layout. -/
theorem Peripheral.structName_instance {p x : Peripheral} (named : p.structName ≠ "")
    (header : x.headerStructName = some p.structName) (single : x.repetition = none) :
    x.structName = p.structName := by
  rw [structName, header, single]
  simp [repetitionName?, nonemptyOr, Option.filter, named]

/-- A peripheral and all that it stands for have one layout, apart from the lists in it. -/
theorem Peripheral.sameLayout_of_mem_expand {p x : Peripheral} {ps : List Peripheral}
    (h : p.expand.outcome = .ok ps) (hx : x ∈ ps) (named : p.structName ≠ "") :
    ∃ registers clusters, expandRegisters p.registers = .ok registers ∧
      expandClusters p.clusters = .ok clusters ∧ x.SameLayout { p with registers, clusters } := by
  obtain ⟨registers, clusters, hr, hc, ⟨-, rfl⟩ | ⟨name, baseAddress, rfl⟩⟩ := mem_expand h hx
  · exact ⟨registers, clusters, hr, hc, .refl _⟩
  · exact ⟨registers, clusters, hr, hc, structName_instance named rfl rfl, rfl, rfl, rfl, rfl, rfl⟩

/-- What two peripherals of one layout stand for has one layout. -/
theorem Peripheral.SameLayout.expand {p q x y : Peripheral} {ps qs : List Peripheral}
    (h : p.SameLayout q) (named : p.structName ≠ "") (hp : p.expand.outcome = .ok ps) (hx : x ∈ ps)
    (hq : q.expand.outcome = .ok qs) (hy : y ∈ qs) : x.SameLayout y := by
  obtain ⟨registers, clusters, hr, hc, same⟩ := sameLayout_of_mem_expand hp hx named
  obtain ⟨registers', clusters', hr', hc', same'⟩ :=
    sameLayout_of_mem_expand hq hy (h.structName ▸ named)
  cases Except.ok.inj (hr.symm.trans (h.registers ▸ hr'))
  cases Except.ok.inj (hc.symm.trans (h.clusters ▸ hc'))
  have expanded : { p with registers, clusters }.SameLayout { q with registers, clusters } :=
    ⟨h.structName, rfl, rfl, h.prependToName, h.appendToName, h.properties⟩
  exact same.trans (expanded.trans same'.symm)

/-! ### Copies -/

/-- The peripheral is derived from another and declares nothing that could set its layout apart from
the other's: no members, no name of a type, no decoration and no properties. -/
structure Peripheral.IsCopyOf (p base : Peripheral) : Prop where
  derivedFrom : p.derivedFrom = some base.name
  reference : base.name ≠ ""
  registers : p.registers = []
  clusters : p.clusters = []
  headerStructName : p.headerStructName = none
  repetitionName : repetitionName? p.repetition = none
  prependToName : p.prependToName = none
  appendToName : p.appendToName = none
  properties : p.properties = {}

/-- The layout of a copy has the name of its base's. -/
theorem Peripheral.IsCopyOf.sameLayout {p declared base : Peripheral} (h : p.IsCopyOf declared)
    (named : base.structName ≠ "") : (p.completedBy base).SameLayout base where
  structName := by
    have header : (p.completedBy base).headerStructName = some base.structName := by
      simp [completedBy, contents, Contents.isEmpty, h.registers, h.clusters, h.headerStructName]
    have repetition : (p.completedBy base).repetition = p.repetition := rfl
    rw [structName, header, repetition, h.repetitionName]
    simp [nonemptyOr, Option.filter, named]
  registers := by
    simp [completedBy, contents, Contents.isEmpty, h.registers, h.clusters]
  clusters := by
    simp [completedBy, contents, Contents.isEmpty, h.registers, h.clusters]
  prependToName := by simp [completedBy, h.prependToName]
  appendToName := by simp [completedBy, h.appendToName]
  properties := by simp [completedBy, h.properties]

/-- A layout that has a name keeps one when the peripheral is completed. -/
theorem Peripheral.structName_completedBy_ne {p : Peripheral} (h : p.structName ≠ "")
    (base : Peripheral) : (p.completedBy base).structName ≠ "" := by
  have header : (p.completedBy base).headerStructName = p.headerStructName ∨
      p.headerStructName = none ∧
        (p.completedBy base).headerStructName = some base.structName := by
    cases own : p.contents.isEmpty <;> cases given : p.headerStructName <;>
      simp [completedBy, own, given]
  rw [structName] at h ⊢
  change (repetitionName? p.repetition).getD ((nonemptyOr (p.completedBy base).headerStructName
    none).getD (baseName p.name)) ≠ ""
  rcases header with same | ⟨none, taken⟩
  · rwa [same]
  · cases hr : repetitionName? p.repetition with
    | some name => simpa [hr] using h
    | none =>
      rw [hr, none] at h
      rw [taken]
      by_cases named : base.structName = "" <;> simp_all [nonemptyOr, Option.filter]

/-! ### Layouts of a prepared device -/

namespace Device

variable {d : Device} {p p' q q' base base' x y : Peripheral}

/-- A peripheral is completed along its chain, and then inside. -/
theorem DerivesTo.exists_chain (h : d.DerivesTo p p') : ∃ ps n r,
    resolvePeripherals d.peripherals (d.peripherals.map (·.name)) [] = .ok ps ∧
      ReferenceChain d.peripherals p.name n r ∧ completeInside ps r = .ok p' := by
  obtain ⟨e, i, he, hp, hp'⟩ := h
  obtain ⟨ps, qs, resolved, inside, rfl⟩ := derive_eq_ok_iff.1 he
  obtain ⟨r, hr, n, chain⟩ := exists_getElem?_of_forall₂ (forall₂_referenceChain resolved) hp
  obtain ⟨r', hr', completed⟩ := exists_getElem?_of_forall₂ (mapM_eq_ok_iff.1 inside) hr
  cases Option.some.inj (hp'.symm.trans hr')
  exact ⟨ps, n, r, resolved, chain, completed⟩

/-- Every peripheral of a derived device ends a chain of references, but for what is in it. -/
theorem exists_referenceChain_of_mem_derive {e : Device} (he : d.derive = .ok e)
    (hp : p' ∈ e.peripherals) : ∃ name n p registers clusters,
      ReferenceChain d.peripherals name n p ∧ p' = { p with registers, clusters } := by
  obtain ⟨ps, qs, resolved, inside, rfl⟩ := derive_eq_ok_iff.1 he
  obtain ⟨r, hr, completed⟩ := exists_of_mem_results inside hp
  obtain ⟨declared, -, n, chain⟩ := exists_of_mem_right (forall₂_referenceChain resolved) hr
  obtain ⟨inner, -, made⟩ := bind_eq_ok_iff.1 completed
  exact ⟨_, n, r, _, _, chain, (Except.ok.inj made).symm⟩

theorem exists_derivesTo {e : Device} (he : d.derive = .ok e) (hp : p ∈ d.peripherals) :
    ∃ p', d.DerivesTo p p' := by
  obtain ⟨i, found⟩ := List.mem_iff_getElem?.1 hp
  obtain ⟨ps, qs, resolved, inside, rfl⟩ := derive_eq_ok_iff.1 he
  obtain ⟨r, hr, -⟩ := exists_getElem?_of_forall₂ (forall₂_referenceChain resolved) found
  obtain ⟨p', hp', -⟩ := exists_getElem?_of_forall₂ (mapM_eq_ok_iff.1 inside) hr
  exact ⟨p', _, i, he, found, hp'⟩

/-- A peripheral is completed to one. -/
theorem DerivesTo.unique (h : d.DerivesTo p p') (h' : d.DerivesTo p q') : p' = q' := by
  obtain ⟨ps, n, r, resolved, chain, completed⟩ := h.exists_chain
  obtain ⟨ps', n', r', resolved', chain', completed'⟩ := h'.exists_chain
  cases Except.ok.inj (resolved.symm.trans resolved')
  obtain ⟨-, rfl⟩ := chain.unique chain'
  exact Except.ok.inj (completed.symm.trans completed')

/-- What is in a peripheral does not depend on the name of the peripheral. -/
theorem resolveContents_name (ps : List Peripheral) (depth : Nat) (name name' : String)
    (home : Contents) : resolveContents ps (depth + 1) name home =
      resolveContents ps (depth + 1) name' home := rfl

/-- Completing what is inside keeps layouts the same. -/
theorem sameLayout_of_completeInside {ps : List Peripheral} (h : p.SameLayout q)
    (hp : completeInside ps p = .ok p') (hq : completeInside ps q = .ok q') : p'.SameLayout q' := by
  obtain ⟨inner, inside, hp⟩ := bind_eq_ok_iff.1 hp
  obtain ⟨inner', inside', hq⟩ := bind_eq_ok_iff.1 hq
  cases Except.ok.inj hp
  cases Except.ok.inj hq
  have contents : p.contents = q.contents := by
    rw [Peripheral.contents, Peripheral.contents, h.registers, h.clusters]
  rw [resolveContents_name ps _ p.name q.name, contents] at inside
  cases Except.ok.inj (inside.symm.trans inside')
  exact ⟨h.structName, rfl, rfl, h.prependToName, h.appendToName, h.properties⟩

/-- The layout of a peripheral has a name, as declared or completed. -/
def NamesLayout (d : Device) (p : Peripheral) : Prop :=
  p.structName ≠ "" ∨ ∃ p', d.DerivesTo p p' ∧ p'.structName ≠ ""

variable (distinct : (d.peripherals.map (·.name)).Nodup)

include distinct in
/-- If a layout has a name, it has one in the completed peripheral. -/
theorem NamesLayout.structName_ne (h : d.NamesLayout p) (derives : d.DerivesTo p p') :
    p'.structName ≠ "" := by
  rcases h with declared | ⟨q', derives', completed⟩
  · obtain ⟨ps, n, r, -, chain, completed⟩ := derives.exists_chain
    obtain ⟨inner, -, made⟩ := bind_eq_ok_iff.1 completed
    cases Except.ok.inj made
    change r.structName ≠ ""
    obtain ⟨-, i, -, hp, -⟩ := derives
    have own := (peripheralNamed?_eq_some_iff distinct).2 ⟨List.mem_of_getElem? hp, rfl⟩
    cases chain with
    | root found _ =>
      cases found.symm.trans own
      exact declared
    | step found _ _ =>
      cases found.symm.trans own
      exact Peripheral.structName_completedBy_ne declared _
  · cases derives.unique derives'
    exact completed

include distinct in
/-- A copy and its base are completed to the same layout. -/
theorem DerivesTo.sameLayout (h : p.IsCopyOf base) (hp : d.DerivesTo p p')
    (hbase : d.DerivesTo base base') (named : base'.structName ≠ "") : p'.SameLayout base' := by
  obtain ⟨ps, n, r, resolved, chain, completed⟩ := hp.exists_chain
  obtain ⟨ps', m, s, resolved', chain', completed'⟩ := hbase.exists_chain
  cases Except.ok.inj (resolved.symm.trans resolved')
  have reference : nonemptyOr p.derivedFrom none = some base.name := by
    simp [h.derivedFrom, nonemptyOr, Option.filter, h.reference]
  obtain ⟨-, i, -, hpi, -⟩ := hp
  have own := (peripheralNamed?_eq_some_iff distinct).2 ⟨List.mem_of_getElem? hpi, rfl⟩
  have layout : s.structName ≠ "" := by
    obtain ⟨inner, -, made⟩ := bind_eq_ok_iff.1 completed'
    cases Except.ok.inj made
    exact named
  refine sameLayout_of_completeInside ?_ completed completed'
  cases chain with
  | root found none =>
    cases found.symm.trans own
    cases reference.symm.trans none
  | step found derived rest =>
    cases found.symm.trans own
    cases reference.symm.trans derived
    obtain ⟨-, rfl⟩ := rest.unique chain'
    exact h.sameLayout layout

/-- What two peripherals come out as has one layout, if they are completed to one that has a
name. -/
theorem ComesFrom.sameLayout (hx : d.ComesFrom p x) (hy : d.ComesFrom q y)
    (h : ∀ p' q', d.DerivesTo p p' → d.DerivesTo q q' → p'.SameLayout q' ∧ p'.structName ≠ "") :
    x.SameLayout y := by
  obtain ⟨p', ps, v, derives, expanded, hv, rfl⟩ := hx
  obtain ⟨q', qs, w, derives', expanded', hw, rfl⟩ := hy
  obtain ⟨same, named⟩ := h p' q' derives derives'
  exact (same.expand named expanded hv expanded' hw).inheriting d.properties

include distinct in
/-- All that one peripheral comes out as has one layout, if the layout has a name. -/
theorem sameLayout_of_comesFrom (named : d.NamesLayout p) (hx : d.ComesFrom p x)
    (hy : d.ComesFrom p y) : x.SameLayout y :=
  hx.sameLayout hy fun p' _ derives derives' =>
    ⟨derives.unique derives' ▸ .refl p', named.structName_ne distinct derives⟩

include distinct in
/-- All that a copy and its base come out as has one layout, if the layout of the base has a
name. -/
theorem sameLayout_of_isCopyOf (h : p.IsCopyOf base) (hbase : base ∈ d.peripherals)
    (named : d.NamesLayout base) (hx : d.ComesFrom p x ∨ d.ComesFrom base x)
    (hy : d.ComesFrom p y ∨ d.ComesFrom base y) : x.SameLayout y := by
  have layouts : ∀ p' base', d.DerivesTo p p' → d.DerivesTo base base' →
      p'.SameLayout base' ∧ p'.structName ≠ "" := by
    intro p' base' derives derives'
    have layout := named.structName_ne distinct derives'
    have same := derives.sameLayout distinct h derives' layout
    exact ⟨same, same.structName ▸ layout⟩
  have copy : ∀ {z}, d.ComesFrom p z → d.NamesLayout p := by
    rintro z ⟨p', -, -, derives, -⟩
    have ⟨e, _, he, _⟩ := derives
    obtain ⟨base', derives'⟩ := exists_derivesTo he hbase
    exact .inr ⟨p', derives, (layouts p' base' derives derives').2⟩
  rcases hx with hx | hx <;> rcases hy with hy | hy
  · exact sameLayout_of_comesFrom distinct (copy hx) hx hy
  · exact hx.sameLayout hy layouts
  · exact (hy.sameLayout hx layouts).symm
  · exact sameLayout_of_comesFrom distinct named hx hy

end Device

end RegisterMap
