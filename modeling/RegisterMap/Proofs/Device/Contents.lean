import RegisterMap.Device.Members

/-!
# What a node holds

A peripheral and a cluster hold the same: registers and clusters. What is said of all nodes below
one is said of contents, by induction on the contents of inner clusters.

## Main definitions

* `Contents.Everywhere` : every register and cluster below a node has a property.
* `Contents.registersBelow` : every register below a node with its path.
* `Node.paths`, `Contents.paths` : the paths of a node and of all nodes in it.
* `Contents.HasNode` : a peripheral or cluster with its path, inside a node.

## Main results

* `Contents.induction` : the induction on the contents of inner clusters.
* `Contents.mem_registersBelow`, `Contents.mem_paths` : a register or node is in the node itself or
  below one of its clusters.
* `Contents.mem_paths_iff_hasNode` : every path below a node ends in a member of a node in it.
-/

namespace RegisterMap

/-- A statement holds of the contents of every node if it holds of all contents whose clusters'
contents have it. -/
theorem Contents.induction {P : Contents → Prop}
    (step : ∀ c : Contents, (∀ inner ∈ c.clusters, P inner.contents) → P c) (c : Contents) : P c :=
  step c fun inner _ =>
    Cluster.induction (P := fun c => P c.contents) (fun c ih => step c.contents ih) inner

/-- A cluster is made of its fields. Clusters nest, so this is not true by definition. -/
theorem Cluster.eta (c : Cluster) : Cluster.mk c.name c.offset c.registers c.clusters
    c.headerStructName c.repetition c.properties c.description c.derivedFrom = c := by
  cases c
  rfl

/-! ### Members at every depth -/

/-- Every register and cluster below a node, at every depth, has a property. -/
inductive Contents.Everywhere (P : Member → Prop) : Contents → Prop
  | intro {c : Contents} (members : ∀ m ∈ c.members, P m)
      (inside : ∀ inner ∈ c.clusters, Everywhere P inner.contents) : Everywhere P c

namespace Contents

variable {P Q : Member → Prop} {c : Contents}

theorem Everywhere.members (h : c.Everywhere P) : ∀ m ∈ c.members, P m := by
  cases h with
  | intro members _ => exact members

theorem Everywhere.inside (h : c.Everywhere P) :
    ∀ inner ∈ c.clusters, inner.contents.Everywhere P := by
  cases h with
  | intro _ inside => exact inside

theorem forall_mem_members : (∀ m ∈ c.members, P m) ↔
    (∀ r ∈ c.registers, P (.register r)) ∧ ∀ inner ∈ c.clusters, P (.cluster inner) := by
  rw [Contents.members, List.forall_mem_append, List.forall_mem_map, List.forall_mem_map]

theorem everywhere_iff : c.Everywhere P ↔ (∀ r ∈ c.registers, P (.register r)) ∧
    ∀ inner ∈ c.clusters, P (.cluster inner) ∧ inner.contents.Everywhere P := by
  constructor
  · intro h
    obtain ⟨registers, clusters⟩ := forall_mem_members.1 h.members
    exact ⟨registers, fun inner hc => ⟨clusters inner hc, h.inside inner hc⟩⟩
  · rintro ⟨registers, clusters⟩
    exact .intro (forall_mem_members.2 ⟨registers, fun inner hc => (clusters inner hc).1⟩)
      fun inner hc => (clusters inner hc).2

theorem Everywhere.imp (h : c.Everywhere P) (step : ∀ m, P m → Q m) : c.Everywhere Q := by
  induction h with
  | intro members _ ih => exact .intro (fun m hm => step m (members m hm)) ih

theorem everywhere_of_forall (h : ∀ m, P m) (c : Contents) : c.Everywhere P := by
  induction c using Contents.induction with
  | step c ih => exact .intro (fun m _ => h m) ih

end Contents

/-! ### Nodes in order -/

/-- The nodes of a node are its registers and its clusters, in some order. -/
theorem Contents.nodes_perm (c : Contents) :
    c.nodes.Perm (c.registers.map .register ++ c.clusters.map Cluster.node) := by
  rw [nodes, Node.sort, clusterNodes_eq_map]
  exact List.mergeSort_perm _ _

/-- The nodes of a node are its registers and its clusters with their own nodes. -/
theorem Contents.mem_nodes {c : Contents} {n : Node} : n ∈ c.nodes ↔
    (∃ r ∈ c.registers, n = .register r) ∨ ∃ inner ∈ c.clusters, n = inner.node := by
  rw [c.nodes_perm.mem_iff, List.mem_append, List.mem_map, List.mem_map]
  simp only [eq_comm]

/-! ### Registers -/

/-- Every register below a node that has the given path, its own registers first. -/
def Contents.registersBelow (path : NodePath) (c : Contents) : List (NodePath × Register) :=
  c.registers.map (fun r => (path ++ [r.name], r)) ++ clusterRegisters path c.clusters

theorem Cluster.registersBelow_eq (path : NodePath) (c : Cluster) :
    c.registersBelow path = c.contents.registersBelow path := by
  cases c
  rfl

theorem Contents.registersBelow_eq_append (path : NodePath) (c : Contents) :
    c.registersBelow path = c.registers.map (fun r => (path ++ [r.name], r)) ++
      c.clusters.flatMap fun inner => inner.contents.registersBelow (path ++ [inner.name]) := by
  rw [registersBelow, clusterRegisters_eq_flatMap]
  simp only [Cluster.registersBelow_eq]

/-- A register below a node is one of its own or below one of its clusters. -/
theorem Contents.mem_registersBelow {path : NodePath} {c : Contents} {q : NodePath × Register} :
    q ∈ c.registersBelow path ↔ (∃ r ∈ c.registers, q = (path ++ [r.name], r)) ∨
      ∃ inner ∈ c.clusters, q ∈ inner.contents.registersBelow (path ++ [inner.name]) := by
  rw [registersBelow_eq_append, List.mem_append, List.mem_map, List.mem_flatMap]
  simp only [eq_comm]

/-! ### Paths -/

mutual

/-- The paths of a node that has the given path and of all nodes in it. -/
def Node.paths (path : NodePath) : Node → List NodePath
  | .register _ => [path]
  | .cluster _ members => path :: nodePaths path members

/-- The paths of nodes in a node that has the given path, and of all nodes in them. -/
def nodePaths (path : NodePath) : List Node → List NodePath
  | [] => []
  | n :: ns => n.paths (path ++ [n.member.name]) ++ nodePaths path ns

end

theorem nodePaths_eq_flatMap (path : NodePath) (ns : List Node) :
    nodePaths path ns = ns.flatMap fun n => n.paths (path ++ [n.member.name]) := by
  induction ns with
  | nil => rfl
  | cons n ns ih => rw [nodePaths, ih, List.flatMap_cons]

/-- The paths of the node that has the given path and contents, and of all nodes in it. -/
def Contents.paths (path : NodePath) (c : Contents) : List NodePath :=
  path :: nodePaths path c.nodes

/-- The paths in a node are its own, those of its registers, and those in its clusters, in some
order. -/
theorem Contents.paths_perm (path : NodePath) (c : Contents) : (c.paths path).Perm
    (path :: ((c.registers.map fun r => path ++ [r.name]) ++
      c.clusters.flatMap fun inner => inner.contents.paths (path ++ [inner.name]))) := by
  have own : ∀ inner : Cluster, inner.node.paths (path ++ [inner.node.member.name]) =
      inner.contents.paths (path ++ [inner.name]) := by
    intro inner
    rw [Cluster.member_node, Cluster.node_eq]
    rfl
  have below := c.nodes_perm.flatMap_right fun n => n.paths (path ++ [n.member.name])
  rw [List.flatMap_append, List.flatMap_map, List.flatMap_map] at below
  simp only [own] at below
  rw [paths, nodePaths_eq_flatMap, List.map_eq_flatMap]
  exact below.cons path

/-- A node in a node is the node itself, one of its registers, or in one of its clusters. -/
theorem Contents.mem_paths {path q : NodePath} {c : Contents} :
    q ∈ c.paths path ↔ q = path ∨ (∃ r ∈ c.registers, q = path ++ [r.name]) ∨
      ∃ inner ∈ c.clusters, q ∈ inner.contents.paths (path ++ [inner.name]) := by
  rw [(c.paths_perm path).mem_iff, List.mem_cons, List.mem_append, List.mem_map, List.mem_flatMap]
  simp only [eq_comm]

theorem Contents.self_mem_paths (path : NodePath) (c : Contents) : path ∈ c.paths path :=
  mem_paths.2 (.inl rfl)

theorem Contents.register_mem_paths {path : NodePath} {c : Contents} {r : Register}
    (hr : r ∈ c.registers) : path ++ [r.name] ∈ c.paths path :=
  mem_paths.2 (.inr (.inl ⟨r, hr, rfl⟩))

theorem Contents.mem_paths_of_cluster {path q : NodePath} {c : Contents} {inner : Cluster}
    (hc : inner ∈ c.clusters) (hq : q ∈ inner.contents.paths (path ++ [inner.name])) :
    q ∈ c.paths path :=
  mem_paths.2 (.inr (.inr ⟨inner, hc, hq⟩))

theorem Contents.mem_paths_of_mem_registersBelow {path : NodePath} {c : Contents}
    {q : NodePath × Register} (hq : q ∈ c.registersBelow path) : q.1 ∈ c.paths path := by
  induction c using Contents.induction generalizing path with
  | step c ih =>
    rcases Contents.mem_registersBelow.1 hq with ⟨r, hr, rfl⟩ | ⟨inner, hc, hq⟩
    · exact register_mem_paths hr
    · exact mem_paths_of_cluster hc (ih inner hc hq)

/-- The path of a node in a node begins with the path of that node. -/
theorem Contents.isPrefix_of_mem_paths {path q : NodePath} {c : Contents} (h : q ∈ c.paths path) :
    path <+: q := by
  induction c using Contents.induction generalizing path with
  | step c ih =>
    rcases Contents.mem_paths.1 h with rfl | ⟨r, hr, rfl⟩ | ⟨inner, hc, hq⟩
    · exact List.prefix_rfl
    · exact List.prefix_append _ _
    · exact (List.prefix_append _ _).trans (ih inner hc hq)

/-! ### Nodes -/

/-- The node of the given path and contents is a node itself or a cluster somewhere in it. -/
inductive Contents.HasNode : NodePath → Contents → NodePath → Contents → Prop
  | self (path : NodePath) (c : Contents) : HasNode path c path c
  | cluster {path q : NodePath} {c e : Contents} {inner : Cluster} (hc : inner ∈ c.clusters)
      (h : HasNode (path ++ [inner.name]) inner.contents q e) : HasNode path c q e

/-- The members of a node are its registers and its clusters. -/
theorem Contents.mem_members {c : Contents} {m : Member} : m ∈ c.members ↔
    (∃ r ∈ c.registers, m = .register r) ∨ ∃ inner ∈ c.clusters, m = .cluster inner := by
  rw [members, List.mem_append, List.mem_map, List.mem_map]
  simp only [eq_comm]

theorem Contents.member_mem_paths {path : NodePath} {c : Contents} {m : Member}
    (hm : m ∈ c.members) : path ++ [m.name] ∈ c.paths path := by
  rcases mem_members.1 hm with ⟨r, hr, rfl⟩ | ⟨inner, hc, rfl⟩
  · exact register_mem_paths hr
  · exact mem_paths_of_cluster hc (self_mem_paths _ _)

/-- Every member of a node is one of the node's nodes. -/
theorem Contents.exists_node_of_mem_members {c : Contents} {m : Member} (h : m ∈ c.members) :
    ∃ n ∈ c.nodes, n.member = m :=
  List.mem_map.1 (c.map_member_nodes ▸ c.sortedMembers_perm.mem_iff.2 h)

theorem Contents.HasNode.mem_paths {path q : NodePath} {c e : Contents} (h : c.HasNode path q e) :
    q ∈ c.paths path := by
  induction h with
  | self path c => exact c.self_mem_paths path
  | cluster hc _ ih => exact Contents.mem_paths_of_cluster hc ih

/-- A node in a node is the node itself or a member of a node in it. -/
theorem Contents.mem_paths_iff_hasNode {path q : NodePath} {c : Contents} : q ∈ c.paths path ↔
    q = path ∨ ∃ p e, c.HasNode path p e ∧ ∃ m ∈ e.members, q = p ++ [m.name] := by
  constructor
  · intro h
    induction c using Contents.induction generalizing path with
    | step c ih =>
      rcases Contents.mem_paths.1 h with rfl | ⟨r, hr, rfl⟩ | ⟨inner, hc, hq⟩
      · exact .inl rfl
      · exact .inr ⟨path, c, .self path c, .register r, mem_members.2 (.inl ⟨r, hr, rfl⟩), rfl⟩
      · rcases ih inner hc hq with rfl | ⟨p, e, hn, hm⟩
        · exact .inr ⟨path, c, .self path c, .cluster inner,
            mem_members.2 (.inr ⟨inner, hc, rfl⟩), rfl⟩
        · exact .inr ⟨p, e, .cluster hc hn, hm⟩
  · rintro (rfl | ⟨p, e, hn, m, hm, rfl⟩)
    · exact c.self_mem_paths _
    · induction hn with
      | self path c => exact member_mem_paths hm
      | cluster hc _ ih => exact mem_paths_of_cluster hc (ih hm)

end RegisterMap
