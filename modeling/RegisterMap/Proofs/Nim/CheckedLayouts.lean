import RegisterMap.Proofs.Device.Everywhere
import RegisterMap.Proofs.Nim.Existence

/-!
# Layouts of checked devices

The check of a device looks for repetitions without a layout. Once it has passed, no step that lays
out repeated nodes can meet one: not the expansion of lists, the types and constants of peripherals
and the address map, whichever names and options the types and constants are made with. Completing
copies layouts between nodes and expanding drops, keeps or multiplies them, but neither makes one
that the check would not let pass, so a flattened device passes again.

## Main definitions

* `Device.HasNoLayoutFaults` : no step that lays out the nodes of a device fails for such a fault.

## Main results

* `Device.hasNoLayoutFaults_of_validate` : a device that passes the check has no layout faults.
* `Device.validate_of_derive`, `Device.validate_of_flatten` : completed and flattened devices pass
  the check again.
* `Device.layouts_of_validate` : so no such fault stops a device that passed it.
-/

namespace RegisterMap

/-! ### Faults -/

/-- The step does not fail because a repetition has no layout. -/
abbrev HasNoLayoutFault {α : Type} (x : Except Fault α) : Prop :=
  FailsOnlyFor (fun fault => ¬ fault.IsOfLayout) x

section Expansion

variable {r : Option Repetition} {owner : String}

/-! ### Expansion -/

theorem Repetition.hasNoLayoutFault_indices (r : Repetition) (owner : String) :
    HasNoLayoutFault (r.indices owner) := by
  intro fault h
  unfold indices at h
  split at h
  · cases h
  · dsimp only at h
    split at h
    · cases h
    · cases h
      exact id

/-- The instances of a list whose repetition has a layout. -/
theorem hasNoLayoutFault_listInstances {name : String} (list : isList name r = true)
    (sound : IsSoundRepetition r) : HasNoLayoutFault (listInstances owner r) := by
  rcases sound with rfl | ⟨l, hl⟩
  · cases list
  · exact (FailsOnlyFor.of_eq_ok (layout_eq_ok_of_owner hl)).bind fun l _ =>
      (Repetition.hasNoLayoutFault_indices _ owner).bind fun _ _ => .of_eq_ok rfl

theorem Register.hasNoLayoutFault_expand {r : Register} (sound : IsSoundRepetition r.repetition) :
    HasNoLayoutFault r.expand := by
  rw [expand]
  split
  · next list => exact (hasNoLayoutFault_listInstances list sound).bind fun _ _ => .of_eq_ok rfl
  · exact .of_eq_ok rfl

theorem Cluster.hasNoLayoutFault_expandSelf {c : Cluster}
    (sound : IsSoundRepetition c.repetition) : HasNoLayoutFault c.expandSelf := by
  rw [expandSelf]
  split
  · next list => exact (hasNoLayoutFault_listInstances list sound).bind fun _ _ => .of_eq_ok rfl
  · exact .of_eq_ok rfl

theorem Contents.hasNoLayoutFault_expand {c : Contents}
    (sound : c.Everywhere fun m => IsSoundRepetition m.repetition) :
    HasNoLayoutFault (expandRegisters c.registers) ∧
      HasNoLayoutFault (expandClusters c.clusters) := by
  induction c using Contents.induction with
  | step c ih =>
    obtain ⟨registers, clusters⟩ := everywhere_iff.1 sound
    rw [expandRegisters_eq_flatMapM, expandClusters_eq_flatMapM]
    refine ⟨.flatMapM fun r hr => Register.hasNoLayoutFault_expand (registers r hr),
      .flatMapM fun inner hc => ?_⟩
    obtain ⟨own, inside⟩ := clusters inner hc
    obtain ⟨innerRegisters, innerClusters⟩ := ih inner hc inside
    rw [Cluster.expand_eq]
    exact innerRegisters.bind fun _ _ => innerClusters.bind fun _ _ =>
      Cluster.hasNoLayoutFault_expandSelf own

theorem Peripheral.hasNoLayoutFault_expand {p : Peripheral}
    (own : IsSoundRepetition p.repetition)
    (members : p.contents.Everywhere fun m => IsSoundRepetition m.repetition) :
    HasNoLayoutFault p.expand.outcome := by
  obtain ⟨registers, clusters⟩ := Contents.hasNoLayoutFault_expand members
  rw [expand, Logged.outcome_bind]
  refine registers.bind fun _ _ => ?_
  rw [Logged.outcome_bind]
  refine clusters.bind fun _ _ => ?_
  rw [expandSelf]
  split
  · next list =>
    rw [Logged.outcome_bind]
    exact (hasNoLayoutFault_listInstances list own).bind fun _ _ => .of_eq_ok rfl
  · exact .of_eq_ok rfl

end Expansion

namespace Nim

/-! ### Types and constants -/

section

variable {names : TypeNames} {path : NodePath} {p : Peripheral}

theorem TypeNames.hasNoLayoutFault_lookup (names : TypeNames) (path : NodePath) :
    HasNoLayoutFault (names.lookup path) := by
  intro fault h
  unfold lookup at h
  split at h
  · cases h
  · cases h
    exact id

theorem nodesFailOnlyFor_of_laidOut {c : Contents} (laidOut : c.LaidOut) :
    NodesFailOnlyFor (fun fault => ¬ fault.IsOfLayout) names path c :=
  ⟨fun q _ => names.hasNoLayoutFault_lookup q, laidOut.layoutsFailOnlyFor⟩

theorem hasNoLayoutFault_nodeTypes (laidOut : p.contents.LaidOut) (options : Options) :
    HasNoLayoutFault (nodeTypes names options p) :=
  nodeTypes_failsOnlyFor (nodesFailOnlyFor_of_laidOut laidOut) options

theorem Instance.hasNoLayoutFault_ofPeripheral (own : HasLayout p.repetition)
    (inside : p.contents.LaidOut) (options : Options) :
    HasNoLayoutFault (ofPeripheral names options p) :=
  ofPeripheral_failsOnlyFor (nodesFailOnlyFor_of_laidOut inside) own.layoutFailsOnlyFor options

end

end Nim

/-! ### Devices -/

/-- What expansion leaves of a repetition that has a layout has one. -/
theorem IsExpanded.sound {name name' : String} {r r' : Option Repetition}
    (h : IsExpanded name r name' r') (sound : IsSoundRepetition r) : IsSoundRepetition r' := by
  rcases h with rfl | ⟨-, rfl, -⟩
  · exact .inl rfl
  · exact sound

/-- No step that lays out the nodes of a device fails because one of them has no layout: not the
expansion of its lists, the types and constants of its peripherals, whatever the names of types and
the options, nor its address map. -/
structure Device.HasNoLayoutFaults (d : Device) : Prop where
  expand : HasNoLayoutFault d.expand.outcome
  types : ∀ names options, ∀ p ∈ d.peripherals, HasNoLayoutFault (Nim.nodeTypes names options p)
  constants : ∀ names options, ∀ p ∈ d.peripherals,
    HasNoLayoutFault (Nim.Instance.ofPeripheral names options p)
  addressMap : HasNoLayoutFault d.addressMap

namespace Device

variable {d d' : Device}

theorem hasNoLayoutFaults_of_validate (valid : d.validate = .ok ()) : d.HasNoLayoutFaults := by
  have sound := validate_iff.1 valid
  have laidOut := laidOut_of_validate valid
  obtain ⟨m, map⟩ := d.addressMap_succeedsIff.exists_eq_ok laidOut
  refine ⟨?_, fun names options p hp => ?_, fun names options p hp => ?_, .of_eq_ok map⟩
  · rw [outcome_expand]
    refine (FailsOnlyFor.flatMapM fun p hp => ?_).map
    exact Peripheral.hasNoLayoutFault_expand (sound p hp).1 (sound p hp).2
  · exact Nim.hasNoLayoutFault_nodeTypes (laidOut p hp).2 options
  · exact Nim.Instance.hasNoLayoutFault_ofPeripheral (laidOut p hp).1 (laidOut p hp).2 options

/-- Completed peripherals have the repetitions of declared ones. -/
theorem forall_repetition_of_derive {P : Option Repetition → Prop} (h : d.derive = .ok d')
    (all : ∀ p ∈ d.peripherals, P p.repetition) : ∀ p ∈ d'.peripherals, P p.repetition := by
  intro p' hp'
  obtain ⟨name, n, p, registers, clusters, chain, rfl⟩ := exists_referenceChain_of_mem_derive h hp'
  obtain ⟨own, found, -, repetition⟩ := chain.exists_peripheralNamed?
  exact repetition ▸ all own (peripheralNamed?_eq_some found).1

/-- A device that passes the check does so when it is completed. -/
theorem validate_of_derive (valid : d.validate = .ok ()) (h : d.derive = .ok d') :
    d'.validate = .ok () := by
  have sound := validate_iff.1 valid
  refine validate_iff.2 fun p hp => ⟨?_, ?_⟩
  · exact forall_repetition_of_derive h (fun p hp => (sound p hp).1) p hp
  · refine everywhere_derive h (fun completed own => ?_) (fun p hp => (sound p hp).2) p hp
    rwa [completed.repetition_eq]

/-- So it does when it is flattened. -/
theorem validate_of_flatten (valid : d.validate = .ok ()) (h : d.flatten.outcome = .ok d') :
    d'.validate = .ok () := by
  refine validate_iff.2 fun x hx => ?_
  obtain ⟨e, derived, p, hp, ps, made, y, hy, rfl⟩ := exists_of_mem_flatten h hx
  obtain ⟨own, members⟩ := validate_iff.1 (validate_of_derive valid derived) p hp
  obtain ⟨-, expanded, hr, hc⟩ := Peripheral.isExpanded_of_mem_expand made hy
  have inside : y.contents.Everywhere fun m => IsSoundRepetition m.repetition :=
    members.expand (fun made own => made.expanded.sound own) hr hc
  refine ⟨expanded.sound own, inside.inheriting (fun m parent own => ?_) _⟩
  rwa [Member.repetition_inheriting]

/-- **Checked devices.** On a device that passes the check, no step that lays out its nodes fails
because a repetition is incomplete or has no instances. If the device can be completed, the
completed device passes the check too, and if it can be flattened, so does the flattened device. The
same then holds of them. -/
theorem layouts_of_validate (valid : d.validate = .ok ()) :
    d.HasNoLayoutFaults ∧
    (∀ e, d.derive = .ok e → e.validate = .ok () ∧ e.HasNoLayoutFaults) ∧
    ∀ d', d.flatten.outcome = .ok d' → d'.validate = .ok () ∧ d'.HasNoLayoutFaults := by
  refine ⟨hasNoLayoutFaults_of_validate valid, fun e h => ?_, fun d' h => ?_⟩
  · have again := validate_of_derive valid h
    exact ⟨again, hasNoLayoutFaults_of_validate again⟩
  · have again := validate_of_flatten valid h
    exact ⟨again, hasNoLayoutFaults_of_validate again⟩

end Device

theorem layouts_of_validate_serialPorts : serialPorts.validate = .ok () ∧
    serialPorts.HasNoLayoutFaults ∧
    (∃ e, serialPorts.derive = .ok e ∧ e.validate = .ok () ∧ e.HasNoLayoutFaults) ∧
    ∃ d', serialPorts.flatten.outcome = .ok d' ∧
      d'.peripherals.map (·.name) = ["UART0", "UART1"] ∧
      d'.validate = .ok () ∧ d'.HasNoLayoutFaults := by
  have valid : serialPorts.validate = .ok () := by decide +kernel
  have completed : (serialPorts.derive.map fun e => e.peripherals.map (·.name)) =
      .ok ["UART%s"] := by
    decide +kernel
  have flattened : (serialPorts.flatten.outcome.map fun d' => d'.peripherals.map (·.name)) =
      .ok ["UART0", "UART1"] := by
    decide +kernel
  obtain ⟨e, he, -⟩ := map_eq_ok_iff.1 completed
  obtain ⟨d', h, names⟩ := map_eq_ok_iff.1 flattened
  obtain ⟨own, derived, flat⟩ := Device.layouts_of_validate valid
  exact ⟨valid, own, ⟨e, he, derived e he⟩, d', h, names, flat d' h⟩

end RegisterMap
