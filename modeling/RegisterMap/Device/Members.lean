import RegisterMap.Device.Basic

/-!
# Members

The registers and clusters of a node in the order of their addresses, and all registers below a
node with the path of names that leads to them.

## Main definitions

* `Member` : a register or a cluster.
* `Contents.sortedMembers` : the members of a node by ascending offset.
* `Node` : a member together with all its own members in address order, at every depth.
* `NodePath` : the names from a peripheral down to a node.
* `Peripheral.registersBelow` : every register of a peripheral with its path.

## Main results

* `Contents.sortedMembers_perm` : no member is lost or invented.
* `Contents.map_member_nodes` : the nodes of a node are its members in order.
-/

namespace RegisterMap

/-- A path of names from a peripheral down to a node. -/
abbrev NodePath := List String

/-- A register or a cluster. -/
inductive Member where
  | register (r : Register)
  | cluster (c : Cluster)

namespace Member

/-- Name of the member. -/
def name : Member → String
  | register r => r.name
  | cluster c => c.name

/-- Offset of the member in the node that holds it. -/
def offset : Member → Int
  | register r => r.offset
  | cluster c => c.offset

/-- Repetition of the member. -/
def repetition : Member → Option Repetition
  | register r => r.repetition
  | cluster c => c.repetition

/-- Node that the member is derived from. -/
def derivedFrom : Member → Option String
  | register r => r.derivedFrom
  | cluster c => c.derivedFrom

end Member

namespace Contents

/-- Registers and then clusters, in order of declaration. -/
def members (c : Contents) : List Member :=
  c.registers.map .register ++ c.clusters.map .cluster

/-- Members by ascending offset; those of one offset stay in order of declaration. -/
def sortedMembers (c : Contents) : List Member :=
  c.members.mergeSort fun a b => a.offset ≤ b.offset

theorem sortedMembers_perm (c : Contents) : c.sortedMembers.Perm c.members :=
  List.mergeSort_perm _ _

/-- The first member of a name. -/
def find? (c : Contents) (name : String) : Option Member :=
  c.members.find? fun m => m.name == name

end Contents

/-! ### Nodes in address order -/

/-- A register, or a cluster with its members in address order. -/
inductive Node where
  | register (r : Register)
  | cluster (c : Cluster) (members : List Node)

namespace Node

/-- The node itself, without its members. -/
def member : Node → Member
  | register r => .register r
  | cluster c _ => .cluster c

/-- Nodes by ascending offset; those of one offset keep their order. -/
def sort (nodes : List Node) : List Node :=
  nodes.mergeSort fun a b => a.member.offset ≤ b.member.offset

/-- Sorting nodes sorts the members that they are. -/
theorem map_member_sort (nodes : List Node) :
    (sort nodes).map member = (nodes.map member).mergeSort fun a b => a.offset ≤ b.offset :=
  List.map_mergeSort fun _ _ _ _ => rfl

end Node

mutual

/-- A cluster with its members in address order. -/
def Cluster.node : Cluster → Node
  | c@{ registers, clusters, .. } =>
    .cluster c (Node.sort (registers.map .register ++ clusterNodes clusters))

/-- Clusters with their members in address order. -/
def clusterNodes : List Cluster → List Node
  | [] => []
  | c :: cs => c.node :: clusterNodes cs

end

theorem clusterNodes_eq_map (cs : List Cluster) : clusterNodes cs = cs.map Cluster.node := by
  induction cs with
  | nil => rfl
  | cons c cs ih => rw [clusterNodes, ih, List.map_cons]

/-- The members of a node, each with its own members, in address order. -/
def Contents.nodes (c : Contents) : List Node :=
  Node.sort (c.registers.map .register ++ clusterNodes c.clusters)

theorem Cluster.node_eq (c : Cluster) : c.node = .cluster c c.contents.nodes := by
  cases c
  rfl

@[simp] theorem Cluster.member_node (c : Cluster) : c.node.member = .cluster c := by
  rw [Cluster.node_eq]
  rfl

/-- The nodes of a node are its members in address order. -/
theorem Contents.map_member_nodes (c : Contents) : c.nodes.map Node.member = c.sortedMembers := by
  rw [Contents.nodes, Node.map_member_sort, Contents.sortedMembers, Contents.members,
    clusterNodes_eq_map, List.map_append, List.map_map, List.map_map]
  congr 2
  exact List.map_congr_left fun c _ => Cluster.member_node c

/-! ### Registers below a node -/

mutual

/-- Every register below a cluster that has the given path, its own registers first. -/
def Cluster.registersBelow (path : NodePath) : Cluster → List (NodePath × Register)
  | { registers, clusters, .. } =>
    registers.map (fun r => (path ++ [r.name], r)) ++ clusterRegisters path clusters

/-- Every register below clusters in a node that has the given path. -/
def clusterRegisters (path : NodePath) : List Cluster → List (NodePath × Register)
  | [] => []
  | c :: cs => c.registersBelow (path ++ [c.name]) ++ clusterRegisters path cs

end

/-- Every register of a peripheral with its path, those of a node before those of its clusters. -/
def Peripheral.registersBelow (p : Peripheral) : List (NodePath × Register) :=
  p.registers.map (fun r => ([p.name, r.name], r)) ++ clusterRegisters [p.name] p.clusters

theorem clusterRegisters_eq_flatMap (path : NodePath) (cs : List Cluster) :
    clusterRegisters path cs = cs.flatMap fun c => c.registersBelow (path ++ [c.name]) := by
  induction cs with
  | nil => rfl
  | cons c cs ih => rw [clusterRegisters, ih, List.flatMap_cons]

end RegisterMap
