import RegisterMap.Proofs.Device.DerivedMembers

/-!
# Header structures of derived nodes

The header structure of a node names the type of its layout. A derived peripheral takes over the
name of its base only with the layout. A derived cluster takes it over whenever it gives none
itself, even if it has a layout of its own, and then two layouts have one name.

The base is itself completed first, along its own chain of references. That chain is the one that
the base has in the derived device, so the reference can be followed there.

## Main definitions

* `IsGiven` : a text is there and is not empty.
* `Cluster.TakesHeader` : where the header structure of a derived cluster is from.

## Main results

* `nonemptyOr_eq_left_iff`, `nonemptyOr_comm_iff` : when the first of two texts is kept, and when it
  does not matter which comes first.
* `ClusterChain.exists_base` : a derived cluster takes what it lacks from the cluster that its
  reference leads to in the derived device.
* `Device.derive_headers` : which derived nodes with layouts of their own keep their header
  structures.
-/

namespace RegisterMap

/-! ### Texts -/

/-- A text is there and is not empty. -/
def IsGiven (text : Option String) : Prop := ∃ name ∈ text, name ≠ ""

theorem not_isGiven_none : ¬IsGiven none := by
  rintro ⟨name, mem, -⟩
  cases mem

theorem isGiven_some_iff {name : String} : IsGiven (some name) ↔ name ≠ "" := by
  simp [IsGiven]

section Choice

variable {own other : Option String}

theorem nonemptyOr_of_isGiven (given : IsGiven own) : nonemptyOr own other = own := by
  obtain ⟨name, rfl, nonempty⟩ := given
  simp [nonemptyOr, Option.filter, nonempty]

theorem nonemptyOr_of_not_isGiven (missing : ¬IsGiven own) : nonemptyOr own other = other := by
  cases own with
  | none => rfl
  | some name =>
    obtain rfl : name = "" := not_not.1 (mt isGiven_some_iff.2 missing)
    rfl

/-- A text is kept if it is given or if the other is the same. -/
theorem nonemptyOr_eq_left_iff : nonemptyOr own other = own ↔ IsGiven own ∨ other = own := by
  by_cases given : IsGiven own
  · simp [nonemptyOr_of_isGiven given, given]
  · simp [nonemptyOr_of_not_isGiven given, given]

/-- It does not matter which of two texts comes first if only one is given or both are the same. -/
theorem nonemptyOr_comm_iff :
    nonemptyOr own other = nonemptyOr other own ↔
      ((IsGiven own ↔ IsGiven other) → own = other) := by
  by_cases given : IsGiven own <;> by_cases given' : IsGiven other <;>
    simp [nonemptyOr_of_isGiven, nonemptyOr_of_not_isGiven, given, given', eq_comm]

end Choice

/-! ### Clusters -/

section Clusters

variable {ps qs : List Peripheral} {home home' : Contents} {c c' : Cluster}
  (completed : ps.mapM (completeInside ps) = .ok qs)
include completed

/-- A derived cluster takes what it lacks from the cluster that its reference leads to in the
completed node. What that holds may be completed by then, its header structure is the same. -/
theorem ClusterChain.exists_base (h : home.CompletesTo ps home') {reference : String}
    (chain : ClusterChain ps home c c') (derived : c.derivedFrom = some reference) :
    ∃ base below, findReference qs reference home' = .ok (.cluster base, below) ∧
      c'.headerStructName = nonemptyOr c.headerStructName base.headerStructName := by
  cases chain with
  | own own => cases own.symm.trans derived
  | step derived' found rest =>
    cases derived.symm.trans derived'
    obtain ⟨m, below', found', -, target⟩ :=
      exists_findReference_of_completeInside completed h found
    cases target with
    | cluster chain inside =>
      cases rest.unique (fun _ _ => Member.cluster.inj) chain
      exact ⟨_, below', found', rfl⟩

end Clusters

/-- Where the header structure of a cluster in a derived node is from: it is the declared one, or
that of the cluster that the reference leads to if a derived cluster gives none. -/
inductive Cluster.TakesHeader (ps : List Peripheral) (home : Contents) (c c' : Cluster) : Prop
  | own (own : c.derivedFrom = none) (header : c'.headerStructName = c.headerStructName)
  | base {reference : String} {base : Cluster} {below : Contents}
      (derived : c.derivedFrom = some reference)
      (found : findReference ps reference home = .ok (.cluster base, below))
      (header : c'.headerStructName = nonemptyOr c.headerStructName base.headerStructName)

/-- The clusters of a completed node take their header structures as their references, read in the
completed node, say. -/
theorem Contents.CompletesTo.forall₂_takesHeader {ps qs : List Peripheral} {home home' : Contents}
    (inside : ps.mapM (completeInside ps) = .ok qs) (completed : home.CompletesTo ps home') :
    List.Forall₂ (Cluster.TakesHeader qs home') home.clusters home'.clusters := by
  refine completed.clusters.imp fun c c' target => ?_
  cases target with
  | cluster chain _ =>
    cases derived : c.derivedFrom with
    | none =>
      cases chain with
      | own _ => exact .own derived rfl
      | step derived' _ _ => cases derived.symm.trans derived'
    | some reference =>
      obtain ⟨base, below, found, header⟩ := chain.exists_base inside completed derived
      exact .base derived found header

/-! ### Peripherals -/

/-- A peripheral that holds something keeps its header structure. -/
theorem ReferenceChain.header_eq {ps : List Peripheral} {name : String} {n : Nat} {p q : Peripheral}
    (chain : ReferenceChain ps name n q) (found : peripheralNamed? ps name = some p)
    (layout : p.contents.isEmpty = false) : q.headerStructName = p.headerStructName := by
  cases chain with
  | root found' _ => cases found.symm.trans found'; rfl
  | step found' _ _ =>
    cases found.symm.trans found'
    simp [Peripheral.completedBy, layout]

/-- Completing what a peripheral holds does not change its header structure. -/
theorem header_of_completeInside {ps : List Peripheral} {p q : Peripheral}
    (h : completeInside ps p = .ok q) : q.headerStructName = p.headerStructName := by
  obtain ⟨inner, -, h⟩ := bind_eq_ok_iff.1 h
  cases h
  rfl

/-! ### Derived devices -/

/-- **Derived header structures.** Let the names of the peripherals be distinct. In the derived
device every peripheral that holds something has the header structure that it declares, derived or
not. A derived cluster has the one that it declares, whatever it holds, if and only if that is given
or is the one of the cluster that its reference leads to in the derived device. The clusters of
every node, those with contents taken over included, take theirs in this way. -/
theorem Device.derive_headers {d d' : Device} (distinct : (d.peripherals.map (·.name)).Nodup)
    (h : d.derive = .ok d') :
    (∀ (i : Nat) (p : Peripheral), d.peripherals[i]? = some p → p.contents.isEmpty = false →
      ∃ p', d'.peripherals[i]? = some p' ∧ p'.headerStructName = p.headerStructName) ∧
    (∀ i is home, d.inside? i is = some home → ∀ (j : Nat) (c : Cluster) (reference : String),
      home.clusters[j]? = some c → c.derivedFrom = some reference →
      ∃ home' c' base below, d'.inside? i is = some home' ∧ home'.clusters[j]? = some c' ∧
        findReference d'.peripherals reference home' = .ok (.cluster base, below) ∧
        (c'.headerStructName = c.headerStructName ↔
          IsGiven c.headerStructName ∨ base.headerStructName = c.headerStructName)) ∧
    ∀ i is home', d'.inside? i is = some home' → ∃ home, d.Declares home ∧
      List.Forall₂ (Cluster.TakesHeader d'.peripherals home') home.clusters home'.clusters := by
  obtain ⟨ps, qs, resolved, inside, rfl⟩ := derive_eq_ok_iff.1 h
  refine ⟨?_, ?_, ?_⟩
  · intro i p found layout
    obtain ⟨q, hq, n, chain⟩ := exists_getElem?_of_forall₂ (forall₂_referenceChain resolved) found
    obtain ⟨p', hp', completed⟩ := exists_getElem?_of_forall₂ (mapM_eq_ok_iff.1 inside) hq
    have own := (peripheralNamed?_eq_some_iff distinct).2 ⟨List.mem_of_getElem? found, rfl⟩
    exact ⟨p', hp', (header_of_completeInside completed).trans (chain.header_eq own layout)⟩
  · intro i is home found j c reference hc derived
    have layout : home.isEmpty = false := by
      simp [Contents.isEmpty, List.ne_nil_of_mem (List.mem_of_getElem? hc)]
    obtain ⟨home', found', completed⟩ :=
      exists_inside?_completesTo distinct resolved inside found layout
    obtain ⟨c', hc', takes⟩ :=
      exists_getElem?_of_forall₂ (completed.forall₂_takesHeader inside) hc
    cases takes with
    | own own => cases own.symm.trans derived
    | base derived' target header =>
      cases derived.symm.trans derived'
      refine ⟨home', c', _, _, found', hc', target, ?_⟩
      rw [header]
      exact nonemptyOr_eq_left_iff
  · intro i is home' found'
    obtain ⟨home, declared, completed⟩ := exists_declares_completesTo resolved inside found'
    exact ⟨home, declared, completed.forall₂_takesHeader inside⟩

/-- Two channels, the second derived from the first with a layout and a name of its own, and a port
derived from theirs with a layout of its own. -/
def receivers : Device where
  name := "BOARD"
  peripherals := [
    { name := "PORT", baseAddress := 0x40000000, headerStructName := some "SOCKET", clusters := [
      { name := "TX", offset := 0, headerStructName := some "CHANNEL",
        registers := [{ name := "CTRL", offset := 0 }] },
      { name := "RX", offset := 16, derivedFrom := some "TX", headerStructName := some "RECEIVER",
        registers := [{ name := "STAT", offset := 0 }] }] },
    { name := "AUX", baseAddress := 0x40001000, derivedFrom := some "PORT",
      registers := [{ name := "DATA", offset := 0 }] }]

theorem derive_headers_receivers : (receivers.peripherals.map (·.name)).Nodup ∧
    ∃ d', receivers.derive = .ok d' ∧
      (∃ p', d'.peripherals[1]? = some p' ∧ p'.headerStructName = none) ∧
      ∃ home' c', d'.inside? 0 [] = some home' ∧ home'.clusters[1]? = some c' ∧
        c'.headerStructName = some "RECEIVER" := by
  have distinct : (receivers.peripherals.map (·.name)).Nodup := by decide
  have run : (receivers.derive.map fun d' => d'.peripherals.map (·.name)) =
      .ok ["PORT", "AUX"] := by
    decide +kernel
  obtain ⟨d', h, -⟩ := map_eq_ok_iff.1 run
  obtain ⟨peripherals, clusters, -⟩ := Device.derive_headers distinct h
  refine ⟨distinct, d', h, peripherals 1 _ rfl rfl, ?_⟩
  obtain ⟨home', c', base, below, found', hc', -, keeps⟩ := clusters 0 [] _ rfl 1 _ "TX" rfl rfl
  exact ⟨home', c', found', hc', keeps.2 (.inl (isGiven_some_iff.2 (by decide)))⟩

/-- The second channel has a layout of its own, but no name for it. -/
def unnamedReceiver : Device where
  name := "BOARD"
  peripherals := [
    { name := "PORT", baseAddress := 0x40000000, clusters := [
      { name := "TX", offset := 0, headerStructName := some "CHANNEL",
        registers := [{ name := "CTRL", offset := 0 }] },
      { name := "RX", offset := 16, derivedFrom := some "TX",
        registers := [{ name := "STAT", offset := 0 }] }] }]

theorem not_forall_derive_headers : ¬ ∀ d d' : Device, (d.peripherals.map (·.name)).Nodup →
    d.derive = .ok d' → ∀ i is home home', d.inside? i is = some home →
      d'.inside? i is = some home' → ∀ (j : Nat) (c c' : Cluster), home.clusters[j]? = some c →
        home'.clusters[j]? = some c' → c.derivedFrom ≠ none → c.contents.isEmpty = false →
          c'.headerStructName = c.headerStructName := by
  intro all
  have run : (unnamedReceiver.derive.map fun d' => (d'.inside? 0 []).bind fun home' =>
      home'.clusters[1]?.map (·.headerStructName)) = .ok (some (some "CHANNEL")) := by
    decide +kernel
  obtain ⟨d', h, found⟩ := map_eq_ok_iff.1 run
  obtain ⟨home', hhome', found⟩ := Option.bind_eq_some_iff.1 found
  obtain ⟨c', hc', header⟩ := Option.map_eq_some_iff.1 found
  have kept := all unnamedReceiver d' (by decide) h 0 [] _ home' rfl hhome' 1 _ c' rfl hc'
    (by decide) rfl
  cases header.symm.trans kept

end RegisterMap
