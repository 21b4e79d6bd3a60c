import RegisterMap.Proofs.Device.Everywhere

/-!
# Flat devices

A device is flat when each of its nodes is complete, stands for itself alone, and has all properties
that the nodes around it hand down. Flattening makes a device flat, however lists, references and
properties are nested in it, and a flat device with distinct names is left alone by each step of
flattening.

## Main definitions

* `Contents.HasProperties` : everything below a node has the properties handed down to it.
* `Device.IsFlat` : nothing is left to complete, to expand or to hand down.

## Main results

* `Device.derive_eq_self`, `Device.expand_eq_self`, `Device.inheritProperties_eq_self` : what the
  steps of flattening leave alone.
* `Device.isFlat_of_flatten` : a flattened device is flat.
* `Device.flatten_flatten` : flattening again changes nothing.
-/

namespace RegisterMap

/-! ### Flat nodes -/

/-- Properties that a member gives. -/
def Member.properties : Member → Properties
  | register r => r.properties
  | cluster c => c.properties

/-- The members of a node have the properties that are handed down to it, and so have all nodes in
it the properties of theirs. -/
inductive Contents.HasProperties : Properties → Contents → Prop
  | intro {parent : Properties} {c : Contents}
      (members : ∀ m ∈ c.members, m.properties.inherit parent = m.properties)
      (inside : ∀ inner ∈ c.clusters, HasProperties inner.properties inner.contents) :
      HasProperties parent c

/-- Nothing is left to do in a peripheral of a device with the given properties: it is complete with
all its members, none of them is a list, and all have the properties that they lacked. -/
structure Peripheral.IsFlat (device : Properties) (p : Peripheral) : Prop where
  complete : nonemptyOr p.derivedFrom none = none
  single : isList p.name p.repetition = false
  properties : p.properties.inherit device = p.properties
  membersComplete : p.contents.Everywhere fun m => m.derivedFrom = none
  membersSingle : p.contents.Everywhere fun m => isList m.name m.repetition = false
  membersProperties : p.contents.HasProperties p.properties

/-- Nothing is left to complete, to expand or to hand down in a device. -/
def Device.IsFlat (d : Device) : Prop := ∀ p ∈ d.peripherals, p.IsFlat d.properties

/-! ### Nothing to complete -/

theorem countClusters_le_of_sublist {cs cs' : List Cluster} (h : cs.Sublist cs') :
    countClusters cs ≤ countClusters cs' := by
  induction h with
  | slnil => exact Nat.le_refl _
  | cons c _ ih => exact Nat.le_add_left_of_le ih
  | cons_cons c _ ih => exact Nat.add_le_add_left ih _

/-- A cluster has fewer clusters in it than the node that holds it. -/
theorem Contents.countClusters_lt {c : Contents} {inner : Cluster} (h : inner ∈ c.clusters) :
    countClusters inner.contents.clusters < countClusters c.clusters := by
  have own := countClusters_le_of_sublist (List.singleton_sublist.2 h)
  rw [countClusters, Cluster.count_eq] at own
  exact Nat.lt_of_succ_le own

/-- A peripheral has fewer clusters in it than its members are completed deep. -/
theorem countClusters_lt_of_mem {ps : List Peripheral} {p : Peripheral} (hp : p ∈ ps) :
    countClusters p.contents.clusters < countClusters (ps.flatMap (·.clusters)) + 1 :=
  Nat.lt_succ_of_le (countClusters_le_of_sublist
    (List.sublist_flatten_of_mem (List.mem_map.2 ⟨p, hp, rfl⟩)))

theorem resolveRegister_eq_self {ps : List Peripheral} {budget : Nat} {r : Register}
    {home : Contents} (own : r.derivedFrom = none) : resolveRegister ps budget r home = .ok r := by
  unfold resolveRegister
  rw [own]

theorem resolveCluster_eq_self {ps : List Peripheral} {budget : Nat} {c : Cluster}
    {home : Contents} (own : c.derivedFrom = none) : resolveCluster ps budget c home = .ok c := by
  unfold resolveCluster
  rw [own]

/-- Contents in which nothing is derived are complete. -/
theorem resolveContents_eq_self {ps : List Peripheral} {depth : Nat} {name : String} {c : Contents}
    (h : c.Everywhere fun m => m.derivedFrom = none) (deep : countClusters c.clusters < depth) :
    resolveContents ps depth name c = .ok c := by
  induction depth generalizing name c with
  | zero => cases deep
  | succ depth ih =>
    obtain ⟨registers, clusters⟩ := Contents.everywhere_iff.1 h
    refine bind_eq_ok_iff.2 ⟨c.registers, mapM_eq_ok_iff.2 (List.forall₂_same.2 fun r hr => ?_),
      bind_eq_ok_iff.2 ⟨c.clusters, mapM_eq_ok_iff.2 (List.forall₂_same.2 fun inner hc => ?_), rfl⟩⟩
    · exact resolveRegister_eq_self (registers r hr)
    · obtain ⟨own, inside⟩ := clusters inner hc
      have deep' := Nat.lt_of_lt_of_le (Contents.countClusters_lt hc) (Nat.le_of_lt_succ deep)
      refine bind_eq_ok_iff.2 ⟨inner, resolveCluster_eq_self own,
        bind_eq_ok_iff.2 ⟨inner.contents, ih inside deep', ?_⟩⟩
      exact congrArg Except.ok inner.eta

theorem completeInside_eq_self {ps : List Peripheral} {p : Peripheral} (hp : p ∈ ps)
    (h : p.contents.Everywhere fun m => m.derivedFrom = none) : completeInside ps p = .ok p :=
  bind_eq_ok_iff.2 ⟨p.contents, resolveContents_eq_self h (countClusters_lt_of_mem hp), rfl⟩

namespace Device

variable {d d' : Device}

/-- Derivation leaves a device alone in which nothing is derived. -/
theorem derive_eq_self (distinct : (d.peripherals.map (·.name)).Nodup)
    (complete : ∀ p ∈ d.peripherals, nonemptyOr p.derivedFrom none = none)
    (membersComplete : ∀ p ∈ d.peripherals, p.contents.Everywhere fun m => m.derivedFrom = none) :
    d.derive = .ok d := by
  refine derive_eq_ok_iff.2 ⟨d.peripherals, d.peripherals,
    resolvePeripherals_eq_ok Completed.isSound_nil ?_, mapM_eq_ok_iff.2 ?_, rfl⟩
  · rw [List.forall₂_map_left_iff]
    refine List.forall₂_same.2 fun p hp => ⟨0, Nat.zero_le _, .root ?_ (complete p hp)⟩
    exact (peripheralNamed?_eq_some_iff distinct).2 ⟨hp, rfl⟩
  · exact List.forall₂_same.2 fun p hp => completeInside_eq_self hp (membersComplete p hp)

/-! ### Nothing to expand -/

/-- Expansion leaves a device without lists alone, and nothing is written. -/
theorem expand_eq_self (single : ∀ p ∈ d.peripherals, isList p.name p.repetition = false)
    (membersSingle : ∀ p ∈ d.peripherals,
      p.contents.Everywhere fun m => isList m.name m.repetition = false) : d.expand = pure d := by
  rw [expand, mapM_eq_pure fun p hp => Peripheral.expand_eq_self (single p hp) (membersSingle p hp),
    pure_bind, ← List.flatMap_def, List.flatMap_singleton']

end Device

/-! ### Nothing to hand down -/

theorem Contents.inheriting_eq_self {parent : Properties} {c : Contents}
    (h : c.HasProperties parent) : c.inheriting parent = c := by
  induction h with
  | @intro parent c members _ ih =>
    obtain ⟨registers, clusters⟩ := forall_mem_members.1 members
    have sameRegister : ∀ r ∈ c.registers, r.inheriting parent = r := by
      intro r hr
      exact congrArg (fun properties => { r with properties }) (registers r hr)
    have sameCluster : ∀ inner ∈ c.clusters, inner.inheriting parent = inner := by
      intro inner hc
      have own : inner.properties.inherit parent = inner.properties := clusters inner hc
      obtain ⟨innerRegisters, innerClusters⟩ :
          inner.registers.map (·.inheriting inner.properties) = inner.registers ∧
            inner.clusters.map (·.inheriting inner.properties) = inner.clusters :=
        Contents.mk.inj (ih inner hc)
      rw [Cluster.inheriting_eq, own, innerRegisters, innerClusters]
      exact inner.eta
    rw [inheriting, List.map_congr_left sameRegister, List.map_congr_left sameCluster,
      List.map_id', List.map_id']

theorem Peripheral.inheriting_eq_self {parent : Properties} {p : Peripheral}
    (own : p.properties.inherit parent = p.properties)
    (members : p.contents.HasProperties p.properties) : p.inheriting parent = p := by
  obtain ⟨registers, clusters⟩ := Contents.mk.inj (Contents.inheriting_eq_self members)
  rw [inheriting, own]
  exact congrArg₂ (fun registers clusters => { p with registers, clusters }) registers clusters

namespace Device

variable {d d' : Device}

/-- Handing down properties leaves a device alone that has them all. -/
theorem inheritProperties_eq_self
    (own : ∀ p ∈ d.peripherals, p.properties.inherit d.properties = p.properties)
    (members : ∀ p ∈ d.peripherals, p.contents.HasProperties p.properties) :
    d.inheritProperties = d := by
  have same : ∀ p ∈ d.peripherals, p.inheriting d.properties = p :=
    fun p hp => Peripheral.inheriting_eq_self (own p hp) (members p hp)
  rw [inheritProperties, List.map_congr_left same, List.map_id']

/-! ### Flat devices -/

/-- A flat device with distinct names is left alone by flattening, and nothing is written. -/
theorem IsFlat.flatten_eq_self (flat : d.IsFlat) (distinct : (d.peripherals.map (·.name)).Nodup) :
    d.flatten = pure d := by
  have derived : d.derive = .ok d := derive_eq_self distinct (fun p hp => (flat p hp).complete)
    fun p hp => (flat p hp).membersComplete
  have expanded : d.expand = pure d := expand_eq_self (fun p hp => (flat p hp).single)
    fun p hp => (flat p hp).membersSingle
  have handedDown : d.inheritProperties = d := inheritProperties_eq_self
    (fun p hp => (flat p hp).properties) fun p hp => (flat p hp).membersProperties
  rw [flatten, derived]
  change d.expand >>= _ = _
  rw [expanded, pure_bind, handedDown]

end Device

/-! ### Flattened devices -/

theorem Member.properties_inheriting (parent : Properties) (m : Member) :
    (m.inheriting parent).properties = m.properties.inherit parent := by
  cases m with
  | register r => rfl
  | cluster c => exact congrArg Cluster.properties (c.inheriting_eq parent)

/-- Properties that are handed down need not be handed down again. -/
theorem Contents.hasProperties_inheriting (parent : Properties) (c : Contents) :
    (c.inheriting parent).HasProperties parent := by
  induction c using Contents.induction generalizing parent with
  | step c ih =>
    refine .intro ?_ (List.forall_mem_map.2 fun inner hc => ?_)
    · rw [members_inheriting, List.forall_mem_map]
      intro m _
      rw [Member.properties_inheriting, Properties.inherit_assoc, Properties.inherit_self]
    · rw [Cluster.contents_inheriting]
      have own : (inner.inheriting parent).properties = inner.properties.inherit parent :=
        congrArg Cluster.properties (inner.inheriting_eq parent)
      rw [own]
      exact ih inner hc _

namespace Device

variable {d d' : Device}

/-- The peripherals of a derived device are derived from no other. -/
theorem complete_of_derive (h : d.derive = .ok d') :
    ∀ p ∈ d'.peripherals, nonemptyOr p.derivedFrom none = none := by
  intro p' hp'
  obtain ⟨name, n, p, registers, clusters, chain, rfl⟩ := exists_referenceChain_of_mem_derive h hp'
  exact chain.derivedFrom_eq_none

/-- A flattened device is flat. -/
theorem isFlat_of_flatten (h : d.flatten.outcome = .ok d') : d'.IsFlat := by
  intro x hx
  have members : x.contents.Everywhere fun m =>
      m.derivedFrom = none ∧ isList m.name m.repetition = false := by
    refine everywhere_flatten (P := fun _ => True) (Q := fun m => m.derivedFrom = none) h
      (fun completed _ => completed.derivedFrom_eq_none)
      (fun made own => ⟨made.derivedFrom.trans own, made.expanded.single⟩)
      (fun m parent own => ?_) (fun p _ => Contents.everywhere_of_forall (fun _ => trivial) _) x hx
    simpa using own
  obtain ⟨e, derived, p, hp, ps, made, y, hy, rfl⟩ := exists_of_mem_flatten h hx
  obtain ⟨derivedFrom, expanded, -⟩ := Peripheral.isExpanded_of_mem_expand made hy
  have properties : d'.properties = d.properties := by
    obtain ⟨-, -, -, -, rfl⟩ := flatten_eq_ok h
    rfl
  exact {
    complete := (congrArg (nonemptyOr · none) derivedFrom).trans (complete_of_derive derived p hp)
    single := expanded.single
    properties := by
      rw [properties]
      change (y.properties.inherit d.properties).inherit d.properties = _
      rw [Properties.inherit_assoc, Properties.inherit_self]
      rfl
    membersComplete := members.imp fun _ own => own.1
    membersSingle := members.imp fun _ own => own.2
    membersProperties := y.contents.hasProperties_inheriting _ }

/-- **Flattening is idempotent.** A flattened device is flat: no member at any depth is derived, is
a list, or lacks a property that a node around it has. If the names of its peripherals are distinct,
flattening it again returns the same device and writes nothing. -/
theorem flatten_flatten (h : d.flatten.outcome = .ok d') :
    d'.IsFlat ∧ ((d'.peripherals.map (·.name)).Nodup → d'.flatten = pure d') :=
  ⟨isFlat_of_flatten h, (isFlat_of_flatten h).flatten_eq_self⟩

end Device

/-- Two timers with two channels each, and a third that is derived from them. -/
def timers : Device where
  name := "BOARD"
  properties := { size := some 16 }
  peripherals := [
    { name := "TIM%s", baseAddress := 0x1000
      repetition := some { count := some 2, increment := some 0x100 }
      clusters := [{
        name := "CH%s", offset := 0x10, properties := { access := some .readOnly }
        repetition := some { count := some 2, increment := some 8 }
        registers := [
          { name := "CNT", offset := 0 },
          { name := "CAP", offset := 4, derivedFrom := some "CNT" }] }] },
    { name := "WDT", baseAddress := 0x2000, derivedFrom := some "TIM%s" }]

theorem flatten_flatten_timers : ∃ d', timers.flatten.outcome = .ok d' ∧
    (d'.peripherals.flatMap (·.registersBelow)).map (fun q => (q.1, q.2.properties)) =
      (["TIM0", "TIM1", "WDT"].flatMap fun timer => ["CH0", "CH1"].flatMap fun channel =>
        ["CNT", "CAP"].map fun register =>
          ([timer, channel, register], ⟨some 16, some .readOnly⟩)) ∧
    d'.IsFlat ∧ d'.flatten = pure d' := by
  have names : (timers.flatten.outcome.map fun d' => d'.peripherals.map (·.name)) =
      .ok ["TIM0", "TIM1", "WDT"] := by
    decide +kernel
  have registers : (timers.flatten.outcome.map fun d' =>
      (d'.peripherals.flatMap (·.registersBelow)).map fun q => (q.1, q.2.properties)) =
      .ok (["TIM0", "TIM1", "WDT"].flatMap fun timer => ["CH0", "CH1"].flatMap fun channel =>
        ["CNT", "CAP"].map fun register =>
          ([timer, channel, register], ⟨some 16, some .readOnly⟩)) := by
    decide +kernel
  obtain ⟨d', h, names⟩ := map_eq_ok_iff.1 names
  rw [h] at registers
  have distinct : (d'.peripherals.map (·.name)).Nodup := by
    rw [names]
    decide
  obtain ⟨flat, again⟩ := Device.flatten_flatten h
  exact ⟨d', h, Except.ok.inj registers, flat, again distinct⟩

end RegisterMap
