import RegisterMap.Device.Expansion
import RegisterMap.Proofs.Device.Places

/-!
# Addresses of expanded lists

An address map lays out every repeated node with its stride, whether the node is a list or an array.
Expansion writes the same distances into the offsets of a list's instances and takes the repetition
away. The map of the expanded device therefore has the same addresses in the same order.

## Main definitions

* `Device.asArrays` : the device with every list read as an array.

## Main results

* `listInstances_eq_ok` : the instances of a list lie at the distances of its layout.
* `Contents.samePlaces_expand` : what a node holds lies where it does when expanded.
* `Device.places_addressMap_expand` : expansion keeps the address map.
-/

namespace RegisterMap

open AddressMap (Entry)

/-! ### Instances of lists -/

section Instances

variable {r : Option Repetition} {owner : String}
  {entries : String → Int → Except Fault (List Entry)}

/-- There are as many indices as the repetition has instances. -/
theorem Repetition.length_indices {r : Repetition} {names : List String}
    (h : r.indices owner = .ok names) : names.length = (r.count.getD 0).toNat := by
  unfold indices at h
  split at h
  · cases Except.ok.inj h
    simp
  · dsimp only at h
    split at h
    · next same =>
      cases Except.ok.inj h
      omega
    · cases h

/-- The instances of a list lie at the distances of its layout. -/
theorem listInstances_eq_ok {instances : List (String × Int)}
    (h : listInstances owner r = .ok instances) :
    ∃ l, layout owner r = .ok l ∧ instances.map Prod.snd = l.offsets := by
  obtain ⟨l, hl, h⟩ := bind_eq_ok_iff.1 h
  obtain ⟨indices, hindices, h⟩ := bind_eq_ok_iff.1 h
  cases Except.ok.inj h
  have length : indices.length = l.count := by
    obtain ⟨-, count, -⟩ := layout_eq_ok_iff.1 hl
    have same : ((r.getD {}).count.getD 0).toNat = l.count := by
      cases r with
      | none => cases count
      | some r => simp [show r.count = _ from count]
    exact (Repetition.length_indices hindices).trans same
  refine ⟨l, hl, List.ext_getElem (by simp [length]) fun i hi hi' => ?_⟩
  simp [Repetition.Layout.offsets]

/-- A list has an instance. -/
theorem listInstances_ne_nil {instances : List (String × Int)}
    (h : listInstances owner r = .ok instances) : instances ≠ [] := by
  obtain ⟨l, hl, distances⟩ := listInstances_eq_ok h
  rintro rfl
  exact offsets_ne_nil hl distances.symm

/-- A list written out as single nodes lists the places that it has as a repeated node. -/
theorem samePlaces_listInstances {α : Type} {instances : List (String × Int)}
    {node : String × Int → α} {f : α → Except Fault (List Entry)} {offset : Int}
    (hi : listInstances owner r = .ok instances)
    (h : ∀ i name, SamePlaces (f (node i)) (entries name (offset + i.2))) (name : String) :
    SamePlaces ((instances.map node).flatMapM f) (instanceEntries name offset r entries) := by
  obtain ⟨l, hl, distances⟩ := listInstances_eq_ok hi
  rw [instanceEntries, placements_of_layout hl, ← distances]
  refine SamePlaces.flatMapM (List.forall₂_iff_get.2 ⟨by simp, fun i hi hi' => ?_⟩)
  simpa using h _ _

end Instances

/-! ### Expanded nodes -/

/-- Replacing nodes by what they stand for keeps the places, if it does so for each node. -/
theorem samePlaces_flatMapM_expanded {α : Type} {expand : α → Except Fault (List α)}
    {f g : α → Except Fault (List Entry)} {xs ys : List α}
    (step : ∀ x ∈ xs, ∀ zs, expand x = .ok zs → SamePlaces (zs.flatMapM f) (g x))
    (h : xs.flatMapM expand = .ok ys) : SamePlaces (ys.flatMapM f) (xs.flatMapM g) := by
  induction xs generalizing ys with
  | nil =>
    cases Except.ok.inj h
    exact SamePlaces.refl
  | cons x xs ih =>
    rw [List.flatMapM_cons] at h
    obtain ⟨zs, hz, h⟩ := bind_eq_ok_iff.1 h
    obtain ⟨rest, hrest, h⟩ := bind_eq_ok_iff.1 h
    cases Except.ok.inj h
    rw [flatMapM_append, List.flatMapM_cons]
    exact (step x List.mem_cons_self zs hz).append
      (ih (fun x hx => step x (List.mem_cons_of_mem _ hx)) hrest)

theorem expandRegisters_eq_flatMapM (rs : List Register) :
    expandRegisters rs = rs.flatMapM Register.expand := map_flatten_mapM rs

theorem expandClusters_eq_flatMapM (cs : List Cluster) :
    expandClusters cs = cs.flatMapM Cluster.expand := by
  induction cs with
  | nil => rfl
  | cons c cs ih => rw [expandClusters, ih, List.flatMapM_cons]

/-- The registers that a register stands for lie where its instances do. -/
theorem Register.samePlaces_expand {r : Register} {rs : List Register} (h : r.expand = .ok rs)
    (path path' : String) (base : Int) :
    SamePlaces (rs.flatMapM (Register.entries path base)) (r.entries path' base) := by
  rw [Register.expand] at h
  split at h
  · obtain ⟨instances, hi, h⟩ := bind_eq_ok_iff.1 h
    cases Except.ok.inj h
    rw [Register.entries_eq_instanceEntries]
    refine samePlaces_listInstances hi (fun ⟨index, distance⟩ name => ?_) _
    rw [Register.entries_eq_instanceEntries, instanceEntries_of_not_isRepeated rfl]
    rfl
  · cases Except.ok.inj h
    rw [flatMapM_singleton, Register.entries_eq_instanceEntries,
      Register.entries_eq_instanceEntries]
    exact samePlaces_instanceEntries (r.samePlaces_instanceEntry path path' base) _ _

/-- The clusters that a cluster with expanded contents stands for lie where the cluster's instances
do. -/
theorem Cluster.samePlaces_expandSelf {c e : Cluster} {cs : List Cluster}
    (name : e.name = c.name) (offset : e.offset = c.offset)
    (repetition : e.repetition = c.repetition)
    (contents : ∀ path path' base,
      SamePlaces (e.contents.entries path base) (c.contents.entries path' base))
    (h : e.expandSelf = .ok cs) (path path' : String) (base : Int) :
    SamePlaces (cs.flatMapM (Cluster.entries path base)) (c.entries path' base) := by
  rw [Cluster.entries_eq_instanceEntries, ← name, ← offset, ← repetition]
  rw [Cluster.expandSelf] at h
  split at h
  · obtain ⟨instances, hi, h⟩ := bind_eq_ok_iff.1 h
    cases Except.ok.inj h
    refine samePlaces_listInstances hi (fun ⟨index, distance⟩ name => ?_) _
    rw [Cluster.entries_eq_instanceEntries, instanceEntries_of_not_isRepeated rfl]
    change SamePlaces (Contents.entries _ _ ⟨e.registers, e.clusters⟩) _
    exact contents _ _ _
  · cases Except.ok.inj h
    rw [flatMapM_singleton, Cluster.entries_eq_instanceEntries]
    refine samePlaces_instanceEntries (fun name name' offset => ?_) _ _
    exact contents _ _ _

/-- What a node holds lies where it does when expanded. -/
theorem Contents.samePlaces_expand {c : Contents} {rs : List Register} {cs : List Cluster}
    (hr : expandRegisters c.registers = .ok rs) (hc : expandClusters c.clusters = .ok cs)
    (path path' : String) (base : Int) :
    SamePlaces (Contents.entries path base ⟨rs, cs⟩) (c.entries path' base) := by
  induction c using Contents.induction generalizing rs cs path path' base with
  | step c ih =>
    rw [expandRegisters_eq_flatMapM] at hr
    rw [expandClusters_eq_flatMapM] at hc
    refine SamePlaces.append ?_ ?_
    · rw [registerEntries_eq_flatMapM, registerEntries_eq_flatMapM]
      exact samePlaces_flatMapM_expanded
        (fun r _ zs hz => Register.samePlaces_expand hz path path' base) hr
    · rw [clusterEntries_eq_flatMapM, clusterEntries_eq_flatMapM]
      refine samePlaces_flatMapM_expanded (fun inner hinner zs hz => ?_) hc
      rw [Cluster.expand_eq] at hz
      obtain ⟨innerRegisters, hir, hz⟩ := bind_eq_ok_iff.1 hz
      obtain ⟨innerClusters, hic, hz⟩ := bind_eq_ok_iff.1 hz
      have contents : ∀ path path' base,
          SamePlaces (Contents.entries path base ⟨innerRegisters, innerClusters⟩)
            (inner.contents.entries path' base) := ih inner hinner hir hic
      refine Cluster.samePlaces_expandSelf ?_ ?_ ?_ ?_ hz path path' base
      · rfl
      · rfl
      · rfl
      · exact contents

/-- The peripherals that a peripheral stands for lie where its instances do. -/
theorem Peripheral.samePlaces_expand {p : Peripheral} {ps : List Peripheral}
    (h : p.expand.outcome = .ok ps) : SamePlaces (ps.flatMapM Peripheral.entries) p.entries := by
  simp only [Peripheral.expand, Logged.outcome_bind] at h
  obtain ⟨rs, hr, h⟩ := bind_eq_ok_iff.1 h
  obtain ⟨cs, hc, h⟩ := bind_eq_ok_iff.1 h
  have contents : ∀ path path' base,
      SamePlaces (Contents.entries path base ⟨rs, cs⟩) (p.contents.entries path' base) :=
    Contents.samePlaces_expand hr hc
  rw [Peripheral.expandSelf] at h
  split at h
  · simp only [Logged.outcome_bind] at h
    obtain ⟨instances, hi, h⟩ := bind_eq_ok_iff.1 h
    cases Except.ok.inj h
    rw [Peripheral.entries_eq_instanceEntries]
    refine samePlaces_listInstances hi (fun ⟨index, distance⟩ name => ?_) _
    rw [Peripheral.entries_eq_instanceEntries, instanceEntries_of_not_isRepeated rfl]
    exact contents _ _ _
  · cases Except.ok.inj h
    rw [flatMapM_singleton, Peripheral.entries_eq_instanceEntries,
      Peripheral.entries_eq_instanceEntries]
    exact samePlaces_instanceEntries contents _ _

/-! ### Nodes without lists -/

theorem Register.expand_eq_self {r : Register} (single : isList r.name r.repetition = false) :
    r.expand = .ok [r] := by
  rw [expand, single]
  rfl

theorem Cluster.expandSelf_eq_self {c : Cluster} (single : isList c.name c.repetition = false) :
    c.expandSelf = .ok [c] := by
  rw [expandSelf, single]
  rfl

/-- A node without lists is left alone by expansion. -/
theorem Contents.expand_eq_self {c : Contents}
    (h : c.Everywhere fun m => isList m.name m.repetition = false) :
    expandRegisters c.registers = .ok c.registers ∧
      expandClusters c.clusters = .ok c.clusters := by
  induction c using Contents.induction with
  | step c ih =>
    obtain ⟨singles, clusters⟩ := everywhere_iff.1 h
    rw [expandRegisters_eq_flatMapM, expandClusters_eq_flatMapM]
    refine ⟨flatMapM_eq_self fun r hr => Register.expand_eq_self (singles r hr),
      flatMapM_eq_self fun inner hc => ?_⟩
    obtain ⟨single, inside⟩ := clusters inner hc
    obtain ⟨innerRegisters, innerClusters⟩ : expandRegisters inner.registers = .ok inner.registers ∧
        expandClusters inner.clusters = .ok inner.clusters := ih inner hc inside
    rw [Cluster.expand_eq, innerRegisters, innerClusters]
    change Cluster.expandSelf _ = _
    rw [inner.eta]
    exact Cluster.expandSelf_eq_self single

/-- So is a peripheral, and nothing is written. -/
theorem Peripheral.expand_eq_self {p : Peripheral} (single : isList p.name p.repetition = false)
    (inside : p.contents.Everywhere fun m => isList m.name m.repetition = false) :
    p.expand = pure [p] := by
  obtain ⟨registers, clusters⟩ : expandRegisters p.registers = .ok p.registers ∧
      expandClusters p.clusters = .ok p.clusters := Contents.expand_eq_self inside
  rw [expand, registers, clusters]
  change Peripheral.expandSelf _ = _
  rw [expandSelf, single]
  rfl

/-! ### Lists as arrays -/

/-- Name of a node whose list is read as an array. -/
def arrayName (name : String) (r : Option Repetition) : String :=
  if isList name r then fillPlaceholder name "[%s]" else name

/-- The register with a list read as an array. -/
def Register.asArray (r : Register) : Register := { r with name := arrayName r.name r.repetition }

mutual

/-- The cluster with every list in it, itself included, read as an array. -/
def Cluster.asArrays : Cluster → Cluster
  | c@{ name, registers, clusters, repetition, .. } =>
    { c with
      name := arrayName name repetition
      registers := registers.map Register.asArray
      clusters := clustersAsArrays clusters }

/-- The clusters with every list read as an array. -/
def clustersAsArrays : List Cluster → List Cluster
  | [] => []
  | c :: cs => c.asArrays :: clustersAsArrays cs

end

/-- What a node holds, with every list read as an array. -/
def Contents.asArrays (c : Contents) : Contents :=
  ⟨c.registers.map Register.asArray, clustersAsArrays c.clusters⟩

/-- The peripheral with every list in it, itself included, read as an array. -/
def Peripheral.asArrays (p : Peripheral) : Peripheral :=
  { p with
    name := arrayName p.name p.repetition
    registers := p.contents.asArrays.registers
    clusters := p.contents.asArrays.clusters }

/-- The device with every list read as an array. -/
def Device.asArrays (d : Device) : Device :=
  { d with peripherals := d.peripherals.map Peripheral.asArrays }

theorem clustersAsArrays_eq_map (cs : List Cluster) :
    clustersAsArrays cs = cs.map Cluster.asArrays := by
  induction cs with
  | nil => rfl
  | cons c cs ih => rw [clustersAsArrays, ih, List.map_cons]

theorem Cluster.asArrays_eq (c : Cluster) : c.asArrays =
    { c with
      name := arrayName c.name c.repetition
      registers := c.contents.asArrays.registers
      clusters := c.contents.asArrays.clusters } := by
  cases c
  rfl

theorem occursIn_substitute {cs : List Char} (h : occursIn ['%', 's'] cs = true) :
    occursIn ['[', '%', 's', ']'] (substitute ['[', '%', 's', ']'] cs) = true := by
  fun_induction substitute ['[', '%', 's', ']'] cs with
  | case1 cs ih => simp [occursIn, List.isPrefixOf]
  | case2 c cs other ih =>
    have later : occursIn ['%', 's'] cs = true := by
      rw [occursIn, Bool.or_eq_true] at h
      refine h.resolve_left fun first => ?_
      obtain ⟨rest, split⟩ := List.isPrefixOf_iff_prefix.1 first
      cases split
      exact other rest rfl rfl
    rw [occursIn, ih later, Bool.or_true]
  | case3 => exact absurd h (by decide)

/-- What is read as an array is not a list any more. -/
theorem isList_arrayName (name : String) (r : Option Repetition) :
    isList (arrayName name r) r = false := by
  rw [arrayName]
  split
  · next h =>
    simp only [isList, isListName, Bool.and_eq_true] at h
    have array : isArrayName (fillPlaceholder name "[%s]") = true := by
      rw [isArrayName, fillPlaceholder, String.toList_ofList]
      exact occursIn_substitute h.2.1
    simp [isList, isListName, array]
  · next h => exact Bool.eq_false_iff.2 h

/-- A list lies where the array does that it is read as. -/
theorem samePlaces_arrayName {name owner : String} {r : Option Repetition} {offset : Int}
    {entries entries' : String → Int → Except Fault (List Entry)}
    (hl : isList name r = true → ∃ instances, listInstances owner r = .ok instances)
    (h : ∀ name name' offset, SamePlaces (entries name offset) (entries' name' offset)) :
    SamePlaces (instanceEntries (arrayName name r) offset r entries)
      (instanceEntries name offset r entries') := by
  rw [arrayName]
  split
  · next list =>
    obtain ⟨instances, hi⟩ := hl list
    obtain ⟨l, layout, -⟩ := listInstances_eq_ok hi
    rw [instanceEntries, instanceEntries, placements_of_layout layout, placements_of_layout layout]
    refine SamePlaces.flatMapM (List.forall₂_iff_get.2 ⟨by simp, fun i hi hi' => ?_⟩)
    simpa using h _ _ _
  · exact samePlaces_instanceEntries h name offset

/-- A node with its lists read as arrays has no lists. -/
theorem Contents.everywhere_asArrays (c : Contents) :
    c.asArrays.Everywhere fun m => isList m.name m.repetition = false := by
  induction c using Contents.induction with
  | step c ih =>
    rw [asArrays, clustersAsArrays_eq_map]
    refine everywhere_iff.2 ⟨List.forall_mem_map.2 fun r _ => isList_arrayName _ _,
      List.forall_mem_map.2 fun inner hc => ?_⟩
    rw [Cluster.asArrays_eq]
    exact ⟨isList_arrayName _ _, ih inner hc⟩

theorem Peripheral.expand_asArrays (p : Peripheral) : p.asArrays.expand = pure [p.asArrays] :=
  expand_eq_self (isList_arrayName p.name p.repetition) p.contents.everywhere_asArrays

theorem Register.samePlaces_asArray {r : Register} {rs : List Register} (h : r.expand = .ok rs)
    (path path' : String) (base : Int) :
    SamePlaces (r.asArray.entries path base) (r.entries path' base) := by
  have instances : isList r.name r.repetition = true →
      ∃ instances, listInstances ("register " ++ r.name) r.repetition = .ok instances := by
    intro list
    rw [Register.expand, if_pos list] at h
    obtain ⟨instances, hi, -⟩ := bind_eq_ok_iff.1 h
    exact ⟨instances, hi⟩
  rw [Register.entries_eq_instanceEntries, Register.entries_eq_instanceEntries]
  exact samePlaces_arrayName instances (r.samePlaces_instanceEntry path path' base)

/-- What a node holds lies where it does with its lists read as arrays. -/
theorem Contents.samePlaces_asArrays {c : Contents} {rs : List Register} {cs : List Cluster}
    (hr : expandRegisters c.registers = .ok rs) (hc : expandClusters c.clusters = .ok cs)
    (path path' : String) (base : Int) :
    SamePlaces (c.asArrays.entries path base) (c.entries path' base) := by
  induction c using Contents.induction generalizing rs cs path path' base with
  | step c ih =>
    rw [expandRegisters_eq_flatMapM] at hr
    rw [expandClusters_eq_flatMapM] at hc
    refine SamePlaces.append ?_ ?_
    · rw [registerEntries_eq_flatMapM, registerEntries_eq_flatMapM, asArrays, flatMapM_map]
      refine SamePlaces.flatMapM (List.forall₂_same.2 fun r mem => ?_)
      obtain ⟨zs, hz⟩ := exists_of_mem_flatMapM hr mem
      exact Register.samePlaces_asArray hz path path' base
    · rw [clusterEntries_eq_flatMapM, clusterEntries_eq_flatMapM, asArrays,
        clustersAsArrays_eq_map, flatMapM_map]
      refine SamePlaces.flatMapM (List.forall₂_same.2 fun inner mem => ?_)
      obtain ⟨zs, hz⟩ := exists_of_mem_flatMapM hc mem
      rw [Cluster.expand_eq] at hz
      obtain ⟨innerRegisters, hir, hz⟩ := bind_eq_ok_iff.1 hz
      obtain ⟨innerClusters, hic, hz⟩ := bind_eq_ok_iff.1 hz
      have instances : isList inner.name inner.repetition = true →
          ∃ instances,
            listInstances ("cluster " ++ inner.name) inner.repetition = .ok instances := by
        intro list
        rw [Cluster.expandSelf, if_pos list] at hz
        obtain ⟨instances, hi, -⟩ := bind_eq_ok_iff.1 hz
        exact ⟨instances, hi⟩
      rw [Cluster.asArrays_eq, Cluster.entries_eq_instanceEntries,
        Cluster.entries_eq_instanceEntries]
      refine samePlaces_arrayName instances fun name name' offset => ?_
      exact ih inner mem hir hic _ _ _

theorem Peripheral.samePlaces_asArrays {p : Peripheral} {ps : List Peripheral}
    (h : p.expand.outcome = .ok ps) : SamePlaces p.asArrays.entries p.entries := by
  simp only [Peripheral.expand, Logged.outcome_bind] at h
  obtain ⟨rs, hr, h⟩ := bind_eq_ok_iff.1 h
  obtain ⟨cs, hc, h⟩ := bind_eq_ok_iff.1 h
  have instances : isList p.name p.repetition = true →
      ∃ instances, listInstances ("peripheral " ++ p.name) p.repetition = .ok instances := by
    intro list
    rw [Peripheral.expandSelf, if_pos list] at h
    obtain ⟨instances, hi, -⟩ := Logged.outcome_bind_eq_ok_iff.1 h
    exact ⟨instances, hi⟩
  rw [Peripheral.entries_eq_instanceEntries, Peripheral.entries_eq_instanceEntries]
  exact samePlaces_arrayName instances (Contents.samePlaces_asArrays hr hc)

/-! ### Devices -/

theorem Device.outcome_expand (d : Device) : d.expand.outcome =
    (d.peripherals.flatMapM fun p : Peripheral => p.expand.outcome).map fun ps =>
      { d with peripherals := ps } := by
  rw [Device.expand, Logged.outcome_bind, Logged.outcome_mapM, ← map_flatten_mapM]
  cases d.peripherals.mapM fun p => p.expand.outcome <;> rfl

/-- **Expansion keeps the address map.** The address maps of a device and of the expanded device
fail for the same fault, or hold the same addresses with the same sizes in the same order. So does
the map of the device with every list read as an array, in which nothing is left to expand. -/
theorem Device.places_addressMap_expand {d d' : Device} (h : d.expand.outcome = .ok d') :
    d'.addressMap.map AddressMap.places = d.addressMap.map AddressMap.places ∧
      d.asArrays.addressMap.map AddressMap.places = d.addressMap.map AddressMap.places ∧
      d.asArrays.expand.outcome = .ok d.asArrays := by
  rw [Device.outcome_expand] at h
  obtain ⟨ps, hps, rfl⟩ := map_eq_ok_iff.1 h
  refine ⟨?_, ?_, ?_⟩
  · exact Device.places_addressMap_eq
      (samePlaces_flatMapM_expanded (fun p _ zs hz => Peripheral.samePlaces_expand hz) hps)
  · refine Device.places_addressMap_eq ?_
    rw [Device.asArrays, flatMapM_map]
    refine SamePlaces.flatMapM (List.forall₂_same.2 fun p hp => ?_)
    obtain ⟨zs, hz⟩ := exists_of_mem_flatMapM hps hp
    exact Peripheral.samePlaces_asArrays hz
  · rw [Device.outcome_expand, flatMapM_eq_self fun p hp => ?_]
    · rfl
    · obtain ⟨q, -, rfl⟩ := List.mem_map.1 hp
      exact congrArg Logged.outcome q.expand_asArrays

/-- Two serial ports, each with an array of two channels of two registers. -/
def serialPorts : Device where
  name := "BOARD"
  peripherals := [{
    name := "UART%s", baseAddress := 0x1000
    repetition := some { count := some 2, increment := some 0x100 }
    clusters := [{
      name := "CH[%s]", offset := 0x10
      repetition := some { count := some 2, increment := some 0x20 }
      registers := [{
        name := "R%s", offset := 4, properties := { size := some 16 }
        repetition := some { count := some 2, increment := some 2, index := some "A,B" } }] }] }]

theorem places_addressMap_expand_serialPorts : ∃ d', serialPorts.expand.outcome = .ok d' ∧
    d'.peripherals.map (·.name) = ["UART0", "UART1"] ∧
    d'.addressMap.map AddressMap.places = .ok [(0x1014, 16), (0x1016, 16), (0x1034, 16),
      (0x1036, 16), (0x1114, 16), (0x1116, 16), (0x1134, 16), (0x1136, 16)] := by
  have run : (serialPorts.expand.outcome.map fun d' => d'.peripherals.map (·.name)) =
      .ok ["UART0", "UART1"] := by
    decide +kernel
  have places : (serialPorts.peripherals.flatMapM Peripheral.entries).map (List.map Entry.place) =
      .ok [(0x1014, 16), (0x1016, 16), (0x1034, 16), (0x1036, 16), (0x1114, 16), (0x1116, 16),
        (0x1134, 16), (0x1136, 16)] := by
    decide +kernel
  obtain ⟨d', h, names⟩ := map_eq_ok_iff.1 run
  refine ⟨d', h, names, (Device.places_addressMap_expand h).1.trans ?_⟩
  rw [Device.map_places_addressMap, places]
  exact congrArg Except.ok (List.mergeSort_of_pairwise (by decide))

end RegisterMap
