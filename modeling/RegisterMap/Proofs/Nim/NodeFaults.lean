import RegisterMap.Proofs.Device.Everywhere
import RegisterMap.Proofs.Nim.Names
import RegisterMap.Proofs.Nim.NodeTypes
import RegisterMap.Proofs.Nim.Values

/-!
# Faults of types and constants

The types and the constant of a peripheral are made by walks of their own through all that it holds:
with a work list the one, by recursion over members in address order the other. At every node that
they come to, both find its type name and lay it out if it is repeated. They fail for nothing else,
and they come to no other nodes.

## Main definitions

* `Fault.IsOfLayout` : a repetition has no layout.
* `NodesFailOnlyFor` : finding the names of nodes and laying them out fails for some faults alone.

## Main results

* `layout_failsOnlyFor` : why a layout is refused.
* `nodeTypes_failsOnlyFor`, `Instance.ofPeripheral_failsOnlyFor` : types and constants fail to be
  made only for the faults of single nodes.
-/

namespace RegisterMap

/-! ### Layouts -/

/-- A repetition has no layout: it is incomplete, or has no instances. -/
def Fault.IsOfLayout : Fault → Prop
  | .incompleteRepetition _ | .emptyRepetition _ _ => True
  | _ => False

/-- A layout is refused for these faults alone. -/
theorem layout_failsOnlyFor (owner : String) (r : Option Repetition) :
    FailsOnlyFor Fault.IsOfLayout (layout owner r) := by
  intro fault h
  unfold layout at h
  split at h
  · split at h
    · cases h
      trivial
    · cases h
  · cases h
    trivial

/-- A node that is repeated is refused a layout for faults with a property alone. -/
def LayoutFailsOnlyFor (P : Fault → Prop) (r : Option Repetition) : Prop :=
  isRepeated r = true → ∀ owner, FailsOnlyFor P (layout owner r)

theorem layoutFailsOnlyFor_isOfLayout (r : Option Repetition) :
    LayoutFailsOnlyFor Fault.IsOfLayout r := fun _ owner => layout_failsOnlyFor owner r

theorem HasLayout.layoutFailsOnlyFor {P : Fault → Prop} {r : Option Repetition} (h : HasLayout r) :
    LayoutFailsOnlyFor P r := by
  intro repeated owner
  obtain ⟨l, hl⟩ := h repeated
  exact .of_eq_ok (layout_eq_ok_of_owner hl)

theorem Contents.LaidOut.layoutsFailOnlyFor {P : Fault → Prop} {c : Contents} (h : c.LaidOut) :
    c.Everywhere fun m => LayoutFailsOnlyFor P m.repetition := by
  induction c using Contents.induction with
  | step c ih =>
    refine .intro (fun m hm => (h.member hm).layoutFailsOnlyFor) fun inner hc => ih inner hc ?_
    exact (inner.laidOut_iff.1 (h.2 inner hc)).2

/-- A step that treats single nodes and arrays apart, with a layout for the arrays. -/
theorem FailsOnlyFor.ofLayout {α : Type} {P : Fault → Prop} {r : Option Repetition}
    {owner : String} {array : Repetition.Layout → Except Fault α} {single : Except Fault α}
    (h : LayoutFailsOnlyFor P r) (hs : FailsOnlyFor P single) (ha : ∀ l, FailsOnlyFor P (array l)) :
    FailsOnlyFor P (if isRepeated r = true then layout owner r >>= array else single) := by
  split
  · next repeated => exact (h repeated owner).bind fun l _ => ha l
  · exact hs

namespace Nim

/-- Finding the type names of a node that has the given path and of all nodes in it, and laying out
those that are repeated, fails for faults with a property alone. -/
structure NodesFailOnlyFor (P : Fault → Prop) (names : TypeNames) (path : NodePath) (c : Contents) :
    Prop where
  lookups : ∀ q ∈ c.paths path, FailsOnlyFor P (names.lookup q)
  layouts : c.Everywhere fun m => LayoutFailsOnlyFor P m.repetition

section

variable {P : Fault → Prop} {names : TypeNames} {decoration : Decoration} {path : NodePath}
  {c : Contents}

theorem AllNamed.nodesFailOnlyFor (h : AllNamed names path c)
    (layouts : c.Everywhere fun m => LayoutFailsOnlyFor P m.repetition) :
    NodesFailOnlyFor P names path c := by
  refine ⟨fun q hq => ?_, layouts⟩
  obtain ⟨typeName, hname⟩ := h q hq
  exact .of_eq_ok hname

theorem NodesFailOnlyFor.inner (h : NodesFailOnlyFor P names path c) {inner : Cluster}
    (hc : inner ∈ c.clusters) :
    NodesFailOnlyFor P names (path ++ [inner.name]) inner.contents :=
  ⟨fun q hq => h.lookups q (Contents.mem_paths_of_cluster hc hq), h.layouts.inside inner hc⟩

/-! ### Types -/

theorem memberType_failsOnlyFor {m : Member} (h : LayoutFailsOnlyFor P m.repetition)
    (typeName : String) : FailsOnlyFor P (memberType m typeName) := by
  rw [memberType]
  split
  · next repeated => exact (h repeated m.name).map
  · exact .of_eq_ok rfl

theorem compositeType_failsOnlyFor (h : NodesFailOnlyFor P names path c)
    (decoration : Decoration) : FailsOnlyFor P (compositeType names decoration path c) := by
  refine (h.lookups _ (c.self_mem_paths path)).bind fun _ _ =>
    (FailsOnlyFor.mapM fun m hm => ?_).bind fun _ _ => .of_eq_ok rfl
  have hm := c.sortedMembers_perm.mem_iff.1 hm
  exact (h.lookups _ (Contents.member_mem_paths hm)).bind fun typeName _ =>
    (memberType_failsOnlyFor (h.layouts.members m hm) typeName).bind fun _ _ => .of_eq_ok rfl

theorem registerTypes_failsOnlyFor (h : NodesFailOnlyFor P names path c) :
    FailsOnlyFor P (registerTypes names path c.registers) :=
  .mapM fun _ hr => (h.lookups _ (Contents.register_mem_paths hr)).map

/-- The clusters of a node are fit to be put on the work list. -/
theorem NodesFailOnlyFor.clusterWork (h : NodesFailOnlyFor P names path c) :
    ∀ w ∈ clusterWork path c.clusters, NodesFailOnlyFor P names w.1 w.2.contents := by
  intro w hw
  obtain ⟨inner, hc, rfl⟩ := mem_clusterWork.1 hw
  exact h.inner hc

/-- The work list leads to such nodes only. -/
theorem collectTypes_failsOnlyFor {work : List (NodePath × Cluster)} {found : List ObjectType}
    (h : ∀ w ∈ work, NodesFailOnlyFor P names w.1 w.2.contents) :
    FailsOnlyFor P (collectTypes names decoration work found) := by
  induction work, found using collectTypes.induct with
  | case1 found =>
    rw [collectTypes]
    exact .of_eq_ok rfl
  | case2 path c work found ih =>
    obtain ⟨first, rest⟩ := List.forall_mem_cons.1 h
    rw [collectTypes]
    exact (compositeType_failsOnlyFor first decoration).bind fun own _ =>
      (registerTypes_failsOnlyFor first).bind fun registers _ => ih own registers
        (List.forall_mem_append.2 ⟨first.clusterWork, rest⟩)

/-- The types of a peripheral fail to be made only where a single node fails. -/
theorem nodeTypes_failsOnlyFor {p : Peripheral}
    (h : NodesFailOnlyFor P names [p.name] p.contents) (options : Options) :
    FailsOnlyFor P (nodeTypes names options p) :=
  (compositeType_failsOnlyFor h _).bind fun _ _ => (registerTypes_failsOnlyFor h).bind fun _ _ =>
    collectTypes_failsOnlyFor h.clusterWork

/-! ### Constants -/

theorem registerValue_failsOnlyFor {r : Register} (named : FailsOnlyFor P (names.lookup path))
    (h : LayoutFailsOnlyFor P r.repetition) (base : Int) :
    FailsOnlyFor P (registerValue names path base r) :=
  named.bind fun _ _ => .ofLayout h (.of_eq_ok rfl) fun _ => .of_eq_ok rfl

theorem objectValue_failsOnlyFor {typeName owner : String} {r : Option Repetition}
    {members : Int → Except Fault (List (String × Value))} (h : LayoutFailsOnlyFor P r)
    (hm : ∀ base, FailsOnlyFor P (members base)) (base : Int) :
    FailsOnlyFor P (objectValue typeName owner r base members) := by
  have object : ∀ base, FailsOnlyFor P
      (members base >>= fun ms => pure (Value.object typeName ms)) :=
    fun base => (hm base).bind fun _ _ => .of_eq_ok rfl
  exact .ofLayout h (object base) fun l =>
    (FailsOnlyFor.mapM fun distance _ => object (base + distance)).bind fun _ _ => .of_eq_ok rfl

theorem memberValues_failsOnlyFor (h : NodesFailOnlyFor P names path c) (base : Int) :
    FailsOnlyFor P (memberValues names decoration path base c.nodes) := by
  induction c using Contents.induction generalizing path base with
  | step c ih =>
    have node : ∀ n ∈ c.nodes,
        FailsOnlyFor P (nodeValue names decoration (path ++ [n.member.name]) base n) := by
      obtain ⟨registers, clusters⟩ := Contents.everywhere_iff.1 h.layouts
      intro n hn
      rcases Contents.mem_nodes.1 hn with ⟨r, hr, rfl⟩ | ⟨inner, hc, rfl⟩
      · exact registerValue_failsOnlyFor (h.lookups _ (Contents.register_mem_paths hr))
          (registers r hr) base
      · have inside := h.inner hc
        rw [Cluster.member_node, Cluster.node_eq, nodeValue_cluster]
        exact (inside.lookups _ (inner.contents.self_mem_paths _)).bind fun _ _ =>
          objectValue_failsOnlyFor (clusters inner hc).1 (ih inner hc inside) _
    generalize c.nodes = ns at node
    induction ns with
    | nil => exact .of_eq_ok rfl
    | cons n ns rest =>
      obtain ⟨first, later⟩ := List.forall_mem_cons.1 node
      rw [memberValues_cons]
      exact first.bind fun _ _ => (rest later).bind fun _ _ => .of_eq_ok rfl

/-- The constant of a peripheral fails to be made only where a single node fails. -/
theorem Instance.ofPeripheral_failsOnlyFor {p : Peripheral}
    (h : NodesFailOnlyFor P names [p.name] p.contents) (own : LayoutFailsOnlyFor P p.repetition)
    (options : Options) : FailsOnlyFor P (ofPeripheral names options p) := by
  rw [ofPeripheral_eq]
  exact (h.lookups _ (p.contents.self_mem_paths _)).bind fun _ _ =>
    (objectValue_failsOnlyFor own (memberValues_failsOnlyFor h) _).bind fun _ _ => .of_eq_ok rfl

end

end Nim

end RegisterMap
