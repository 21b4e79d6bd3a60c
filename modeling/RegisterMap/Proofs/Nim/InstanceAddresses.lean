import RegisterMap.Proofs.Device.MapAddresses
import RegisterMap.Proofs.Nim.Locations
import RegisterMap.Proofs.Nim.Owners

/-!
# Addresses of instances

The constants of a device's peripherals and its address map are computed apart, from members in
address order and from registers before clusters. Both exist exactly if every repeated node has a
layout, and both hold the addresses to which the routes of the device lead.

## Main results

* `Instance.ofPeripheral_succeedsIff` : when a constant exists, and what its addresses are.
* `instances_agree_with_addressMap` : the locations in the constants' texts are the address map.
-/

namespace RegisterMap

/-- Every repeated node among a member and the nodes below it has a layout. -/
def Member.LaidOut : Member → Prop
  | register r => HasLayout r.repetition
  | cluster c => c.LaidOut

theorem Contents.laidOut_iff (c : Contents) : c.LaidOut ↔ ∀ m ∈ c.members, m.LaidOut := by
  simp only [LaidOut, members, List.forall_mem_append, List.forall_mem_map]
  rfl

namespace Nim

/-! ### Values -/

theorem elementAddresses_eq_flatMap (vs : List Value) :
    Value.elementAddresses vs = vs.flatMap Value.addresses := by
  induction vs with
  | nil => rfl
  | cons v vs ih => rw [Value.elementAddresses, ih, List.flatMap_cons]

/-- The value holds the addresses that routes lead to from a node at a given address. -/
def HoldsFrom (base : Int) (ts : List Route) (v : Value) : Prop :=
  (v.addresses : Multiset Int) = addressesFrom base ts

/-- So do the members of an object. -/
def MembersHoldFrom (base : Int) (ts : List Route) (ms : List (String × Value)) : Prop :=
  (Value.memberAddresses ms : Multiset Int) = addressesFrom base ts

section

variable {names : TypeNames} {decoration : Decoration} {path : NodePath}

theorem registerValue_succeedsIff {typeName : String} (hname : names.lookup path = .ok typeName)
    (base : Int) (r : Register) :
    SucceedsIff (registerValue names path base r) (HasLayout r.repetition)
      (HoldsFrom base [r.route]) := by
  rw [registerValue, hname]
  refine (SucceedsIff.ofLayout (d := True) (fun hr => ?_) fun hr l hl => ?_).congr
    (and_iff_left trivial) fun _ h => h
  · refine SucceedsIff.pure ?_
    rw [HoldsFrom, addressesFrom_route, Register.waypoint, Waypoint.places_of_not_isRepeated hr]
    rfl
  · refine SucceedsIff.pure ?_
    rw [HoldsFrom, addressesFrom_route, Register.waypoint, Waypoint.places_of_layout hr hl,
      Value.addresses, elementAddresses_eq_flatMap, List.flatMap_map, List.map_map,
      List.map_eq_flatMap]
    simp [Value.addresses, add_assoc]

theorem objectValue_succeedsIff {typeName owner : String} {r : Option Repetition} {d : Prop}
    {ts : List Route} {members : Int → Except Fault (List (String × Value))}
    (hm : ∀ base, SucceedsIff (members base) d (MembersHoldFrom base ts)) (base offset : Int) :
    SucceedsIff (objectValue typeName owner r (base + offset) members) (HasLayout r ∧ d)
      (HoldsFrom base (ts.map (Route.below ⟨offset, r⟩))) := by
  refine SucceedsIff.ofLayout (fun hr => SucceedsIff.bind_pure ?_) fun hr l hl =>
    SucceedsIff.bind_pure ?_
  · refine (hm (base + offset)).congr Iff.rfl fun ms h => ?_
    rw [HoldsFrom, addressesFrom_below, Waypoint.places_of_not_isRepeated hr, Value.addresses, h]
    simp
  · refine (SucceedsIff.mapM_const (offsets_ne_nil hl) fun distance _ =>
      SucceedsIff.bind_pure (Q := HoldsFrom (base + offset + distance) ts)
        (hm (base + offset + distance))).congr Iff.rfl fun objects h => ?_
    rw [HoldsFrom, addressesFrom_below, Waypoint.places_of_layout hr hl, Value.addresses,
      elementAddresses_eq_flatMap, coe_flatMap_eq_bind h, ← Multiset.map_coe, Multiset.bind_map]
    simp only [add_assoc]

/-- Members in address order hold what their nodes lead to. -/
theorem memberValues_succeedsIff {base : Int} {ns : List Node}
    (h : ∀ n ∈ ns, SucceedsIff (nodeValue names decoration (path ++ [n.member.name]) base n)
      n.member.LaidOut (HoldsFrom base n.member.routes)) :
    SucceedsIff (memberValues names decoration path base ns) (∀ n ∈ ns, n.member.LaidOut)
      (MembersHoldFrom base (ns.flatMap fun n => n.member.routes)) := by
  induction ns with
  | nil => exact ⟨fun _ h => absurd h List.not_mem_nil, rfl⟩
  | cons n ns ih =>
    have tail := ih fun n hn => h n (List.mem_cons_of_mem _ hn)
    rw [memberValues_cons]
    refine ((h n List.mem_cons_self).bind fun v hv =>
      SucceedsIff.bind_pure (tail.congr Iff.rfl fun rest hrest => ?_)).congr
        (List.forall_mem_cons (p := fun n : Node => n.member.LaidOut)).symm fun _ h => h
    rw [MembersHoldFrom, Value.memberAddresses, ← Multiset.coe_add, hv, hrest, List.flatMap_cons,
      addressesFrom_append]

/-- The members of a node hold what the node leads to. -/
theorem contentsValues_succeedsIff (c : Contents) (path : NodePath) (base : Int)
    (hnames : ∀ q ∈ c.paths path, ∃ typeName, names.lookup q = .ok typeName) :
    SucceedsIff (memberValues names decoration path base c.nodes) c.LaidOut
      (MembersHoldFrom base c.routes) := by
  induction c using Contents.induction generalizing path base with
  | step c ih =>
    have nodes : ∀ n ∈ c.nodes, SucceedsIff
        (nodeValue names decoration (path ++ [n.member.name]) base n) n.member.LaidOut
          (HoldsFrom base n.member.routes) := by
      intro n hn
      rcases Contents.mem_nodes.1 hn with ⟨r, hr, rfl⟩ | ⟨inner, hinner, rfl⟩
      · obtain ⟨typeName, hname⟩ := hnames _ (Contents.register_mem_paths hr)
        exact registerValue_succeedsIff hname base r
      · have below : ∀ q ∈ inner.contents.paths (path ++ [inner.name]),
            ∃ typeName, names.lookup q = .ok typeName := fun q hq =>
          hnames q (Contents.mem_paths_of_cluster hinner hq)
        obtain ⟨typeName, hname⟩ := below _ (inner.contents.self_mem_paths _)
        rw [Cluster.member_node, Cluster.node_eq, nodeValue_cluster, Member.name, hname,
          Member.routes, Cluster.routes_eq]
        exact SucceedsIff.ok_bind ((objectValue_succeedsIff
          (fun base => ih inner hinner _ base below) base inner.offset).congr
            inner.laidOut_iff.symm fun _ h => h)
    have sorted : ∀ {P : Member → Prop}, (∀ n ∈ c.nodes, P n.member) ↔ ∀ m ∈ c.members, P m := by
      intro P
      rw [← List.forall_mem_map, Contents.map_member_nodes]
      exact forall_congr' fun m => imp_congr_left c.sortedMembers_perm.mem_iff
    refine (memberValues_succeedsIff nodes).congr (sorted.trans c.laidOut_iff.symm)
      fun ms hms => ?_
    have routes : (c.nodes.flatMap fun n => n.member.routes).Perm c.routes := by
      rw [← List.flatMap_map, Contents.map_member_nodes, Contents.routes_eq_flatMap]
      exact c.sortedMembers_perm.flatMap_right _
    exact hms.trans (addressesFrom_perm routes base)

end

/-! ### Constants -/

/-- The constant of a peripheral exists exactly if every repeated node of it has a layout. Its text
then holds one location per register and choice of indices. -/
theorem Instance.ofPeripheral_succeedsIff {d : Device} {p : Peripheral} (hp : p ∈ d.peripherals)
    (options : Options) :
    SucceedsIff (ofPeripheral (TypeNames.ofDevice d) options p)
      (HasLayout p.repetition ∧ p.contents.LaidOut)
      fun i => (locations i.text : Multiset Int) = addressesFrom 0 p.routes := by
  have text : ∀ i, ofPeripheral (TypeNames.ofDevice d) options p = .ok i →
      locations i.text = i.value.addresses := by
    intro i hi
    have named := named_value (fun _ _ => TypeNames.isPlain_of_lookup)
      (isPlain_memberName _) hi
    refine locations_text ?_ named
    rw [ofPeripheral_eq] at hi
    obtain ⟨typeName, -, hi⟩ := bind_eq_ok_iff.1 hi
    obtain ⟨v, -, hi⟩ := bind_eq_ok_iff.1 hi
    cases Except.ok.inj hi
    exact isPlain_ofText _
  have hnames : ∀ q ∈ p.contents.paths [p.name],
      ∃ typeName, (TypeNames.ofDevice d).lookup q = .ok typeName := fun q hq =>
    TypeNames.exists_lookup_iff.2 ⟨p, hp, hq⟩
  obtain ⟨typeName, hname⟩ := hnames _ (p.contents.self_mem_paths _)
  have constant : SucceedsIff (ofPeripheral (TypeNames.ofDevice d) options p)
      (HasLayout p.repetition ∧ p.contents.LaidOut)
      fun i => HoldsFrom 0 p.routes i.value := by
    rw [ofPeripheral_eq, hname, ← zero_add p.baseAddress]
    exact SucceedsIff.ok_bind (SucceedsIff.bind_pure (objectValue_succeedsIff
      (fun base => contentsValues_succeedsIff p.contents _ base hnames) 0 p.baseAddress))
  cases hi : ofPeripheral (TypeNames.ofDevice d) options p with
  | error fault =>
    rw [hi] at constant
    exact constant
  | ok i =>
    rw [hi] at constant
    exact ⟨constant.1, (congrArg _ (text i hi)).trans constant.2⟩

/-- **Constants and address map agree.** Each route of a device leads to one register. Either every
peripheral has its constant and the device has its address map, and then the locations in the
constants' texts, sorted, are the addresses of the map in order, one per route and choice of one
index for each node of the route; or both the constants and the map fail, for a fault in the model
of the device. -/
theorem instances_agree_with_addressMap (options : Options) (d : Device) :
    d.routes.map Route.register = (d.peripherals.flatMap Peripheral.registersBelow).map Prod.snd ∧
    ((∃ constants m,
        d.peripherals.mapM (Instance.ofPeripheral (TypeNames.ofDevice d) options) = .ok constants ∧
        d.addressMap = .ok m ∧
        (constants.flatMap fun i => locations i.text).mergeSort (· ≤ ·) =
          m.entries.map AddressMap.Entry.address ∧
        (m.entries.map AddressMap.Entry.address).Perm (d.routes.flatMap Route.addresses)) ∨
      ∃ f g,
        d.peripherals.mapM (Instance.ofPeripheral (TypeNames.ofDevice d) options) = .error f ∧
        d.addressMap = .error g ∧ f.kind = .model ∧ g.kind = .model) := by
  refine ⟨d.map_register_routes, ?_⟩
  have constants : SucceedsIff
      (d.peripherals.mapM (Instance.ofPeripheral (TypeNames.ofDevice d) options)) d.LaidOut
      fun is => ((is.flatMap fun i => locations i.text : List Int) : Multiset Int) =
        addressesFrom 0 d.routes := by
    refine (SucceedsIff.mapM fun p hp => Instance.ofPeripheral_succeedsIff hp options).congr Iff.rfl
      fun is h => ?_
    rw [coe_flatMap_eq_bind h, Device.routes, addressesFrom, ← Multiset.coe_bind,
      Multiset.bind_assoc]
    rfl
  refine (constants.agree d.addressMap_succeedsIff).imp ?_ id
  rintro ⟨is, m, hi, hm, texts, sorted, map⟩
  refine ⟨is, m, hi, hm, ?_, ?_⟩
  · have same : (is.flatMap fun i => locations i.text).Perm (entryAddresses m.entries) :=
      Multiset.coe_eq_coe.1 (texts.trans map.symm)
    exact ((List.mergeSort_perm _ _).trans same).eq_of_pairwise'
      (List.pairwise_mergeSort' (· ≤ ·) _) sorted
  · exact Multiset.coe_eq_coe.1 (map.trans (addressesFrom_zero _))

end Nim

end RegisterMap
