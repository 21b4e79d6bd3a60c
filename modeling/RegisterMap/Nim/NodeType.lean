import RegisterMap.Device.Repetition
import RegisterMap.Nim.Declaration
import RegisterMap.Nim.MemberName
import RegisterMap.Nim.TypeNames

/-!
# Types of nodes

A peripheral or cluster has an object type with a field per member, in address order; a register
has an object type that holds its location. A type comes after the types that it is made of.

## Main definitions

* `compositeType`, `registerType` : the types of nodes.
* `nodeTypes` : the types of a peripheral and all in it, leaves first, found with a work list.
* `clusterTypes` : the types of a cluster and all in it, by recursion.

## Main results

* `workSize_lt_cons` : taking a cluster off the work list leaves fewer clusters to visit.
-/

namespace RegisterMap.Nim

/-- Type of a register: it knows where the register is. -/
def registerType (typeName : String) : ObjectType :=
  { name := typeName, fields := [{ name := "loc", type := .named "uint", isPublic := false }] }

/-- Type of a member's field: the member's type, or an array of it for an array. -/
def memberType (m : Member) (typeName : String) : Except Fault TypeExpr :=
  if isRepeated m.repetition then
    (layout m.name m.repetition).map fun l => .array l.count typeName
  else .ok (.named typeName)

/-- Field of a member in the type of the node that has the given path. -/
def memberField (names : TypeNames) (decoration : Decoration) (path : NodePath) (m : Member) :
    Except Fault ObjectField := do
  let typeName ← names.lookup (path ++ [m.name])
  let type ← memberType m typeName
  pure { name := decoration.memberName m, type }

/-- Type of a node that has the given path and contents. -/
def compositeType (names : TypeNames) (decoration : Decoration) (path : NodePath) (c : Contents) :
    Except Fault ObjectType := do
  let name ← names.lookup path
  let fields ← c.sortedMembers.mapM (memberField names decoration path)
  pure { name, fields }

/-- Types of the registers of a node that has the given path. -/
def registerTypes (names : TypeNames) (path : NodePath) (rs : List Register) :
    Except Fault (List ObjectType) :=
  rs.mapM fun r => (names.lookup (path ++ [r.name])).map registerType

/-! ### With a work list -/

/-- Number of clusters that a work list leads to. -/
def workSize (work : List (NodePath × Cluster)) : Nat := countClusters (work.map (·.2))

/-- The clusters of a node that has the given path, as work: the last is taken first. -/
def clusterWork (path : NodePath) (cs : List Cluster) : List (NodePath × Cluster) :=
  (cs.map fun c => (path ++ [c.name], c)).reverse

theorem workSize_clusterWork (path : NodePath) (cs : List Cluster) :
    workSize (clusterWork path cs) = countClusters cs := by
  have clusters : (cs.map fun c => (path ++ [c.name], c)).map (·.2) = cs := by
    rw [List.map_map]
    exact List.map_id cs
  rw [workSize, clusterWork, List.map_reverse, clusters, countClusters_reverse]

theorem workSize_append (work work' : List (NodePath × Cluster)) :
    workSize (work ++ work') = workSize work + workSize work' := by
  rw [workSize, List.map_append, countClusters_append, workSize, workSize]

/-- A cluster on the work list leads to itself and to the clusters in it. -/
theorem workSize_cons (path : NodePath) (c : Cluster) (work : List (NodePath × Cluster)) :
    workSize ((path, c) :: work) = workSize (clusterWork path c.clusters ++ work) + 1 := by
  have own : workSize ((path, c) :: work) = c.count + workSize work := rfl
  rw [own, workSize_append, workSize_clusterWork, Cluster.count_eq]
  omega

theorem workSize_lt_cons (path : NodePath) (c : Cluster) (work : List (NodePath × Cluster)) :
    workSize (clusterWork path c.clusters ++ work) < workSize ((path, c) :: work) := by
  rw [workSize_cons]
  exact Nat.lt_succ_self _

/-- The types of the clusters on a work list and of all in them, before those already found. A
cluster puts its inner clusters on the list, to be taken last first, and its own type after its
registers'. -/
def collectTypes (names : TypeNames) (decoration : Decoration) :
    (work : List (NodePath × Cluster)) → (found : List ObjectType) →
      Except Fault (List ObjectType)
  | [], found => pure found
  | (path, c) :: work, found => do
    let own ← compositeType names decoration path c.contents
    let registers ← registerTypes names path c.registers
    collectTypes names decoration (clusterWork path c.clusters ++ work)
      (registers.reverse ++ own :: found)
termination_by work => workSize work
decreasing_by exact workSize_lt_cons path c work

/-- The types of a peripheral and all in it, each after the types that it is made of. -/
def nodeTypes (names : TypeNames) (options : Options) (p : Peripheral) :
    Except Fault (List ObjectType) := do
  let decoration := Decoration.ofPeripheral p options
  let own ← compositeType names decoration [p.name] p.contents
  let registers ← registerTypes names [p.name] p.registers
  collectTypes names decoration (clusterWork [p.name] p.clusters) (registers.reverse ++ [own])

/-! ### By recursion -/

mutual

/-- The types of a cluster and all in it: inner clusters first, then registers from the last to the
first, then the cluster itself. -/
def clusterTypes (names : TypeNames) (decoration : Decoration) (path : NodePath) :
    Cluster → Except Fault (List ObjectType)
  | c@{ registers, clusters, .. } => do
    let inner ← innerTypes names decoration path clusters
    let registers ← registerTypes names path registers
    let own ← compositeType names decoration path c.contents
    pure (inner ++ registers.reverse ++ [own])

/-- The types of the clusters of a node that has the given path, and of all in them. -/
def innerTypes (names : TypeNames) (decoration : Decoration) (path : NodePath) :
    List Cluster → Except Fault (List ObjectType)
  | [] => pure []
  | c :: cs => do
    let first ← clusterTypes names decoration (path ++ [c.name]) c
    let rest ← innerTypes names decoration path cs
    pure (first ++ rest)

end

end RegisterMap.Nim
