import Mathlib.Data.List.Perm.Basic
import RegisterMap.Proofs.Nim.NodeTypes

/-!
# The walk through a peripheral

The types of a peripheral are found in a loop over a stack of clusters. A round takes the last
cluster off the stack, finds its type and those of its registers, and puts the clusters in it on the
stack. Types are found before those that they are made of, so they are reversed in the end; the
clusters of a node are taken from the last to the first, so that they are in order then. Every round
takes one cluster for good: there are as many rounds as clusters, whatever the names are.

## Main definitions

* `TypeWalk`, `TypeWalk.round`, `TypeWalk.rounds` : the loop.
* `TypedNode`, `contentsPostOrder` : the nodes that have types, in the order of the recursion.

## Main results

* `TypeWalk.workSize_rounds` : the clusters left after some rounds.
* `nodeTypes_eq_rounds` : the types of a peripheral are what the loop has found in the end.
* `contentsTypes_eq_ok_iff_postOrder` : the recursion yields one type for each node in post-order.
* `nodeTypes_postOrder` : loop and recursion, and the number of types.
-/

namespace RegisterMap.Nim

/-! ### The loop -/

/-- The loop between two rounds: the clusters to be visited, the next one last, and the types found
so far, in the order in which they were found. -/
structure TypeWalk where
  stack : List (NodePath × Cluster)
  found : List ObjectType

/-- The clusters of a node that has the given path, in order. -/
def clustersAt (path : NodePath) (cs : List Cluster) : List (NodePath × Cluster) :=
  cs.map fun c => (path ++ [c.name], c)

theorem reverse_clusterWork (path : NodePath) (cs : List Cluster) :
    (clusterWork path cs).reverse = clustersAt path cs :=
  List.reverse_reverse _

theorem workSize_clustersAt (path : NodePath) (cs : List Cluster) :
    workSize (clustersAt path cs) = countClusters cs := by
  rw [workSize, clustersAt, List.map_map]
  exact congrArg countClusters (List.map_id cs)

theorem workSize_eq_zero_iff {work : List (NodePath × Cluster)} :
    workSize work = 0 ↔ work = [] := by
  cases work with
  | nil => exact iff_of_true rfl rfl
  | cons w work =>
    have own : workSize (w :: work) = w.2.count + workSize work := rfl
    rw [own, Cluster.count_eq]
    simp

theorem workSize_reverse (work : List (NodePath × Cluster)) :
    workSize work.reverse = workSize work := by
  rw [workSize, List.map_reverse, countClusters_reverse, workSize]

namespace TypeWalk

variable (names : TypeNames) (decoration : Decoration)

/-- A round: the last cluster is taken off the stack, its type and those of its registers are found,
and its clusters are put on the stack. Without a cluster on the stack nothing is done. -/
def round (w : TypeWalk) : Except Fault TypeWalk :=
  match w.stack.getLast? with
  | none => pure w
  | some (path, c) => do
    let own ← compositeType names decoration path c.contents
    let registers ← registerTypes names path c.registers
    pure { stack := w.stack.dropLast ++ clustersAt path c.clusters
           found := w.found ++ own :: registers }

/-- As many rounds one after the other. -/
def rounds : Nat → TypeWalk → Except Fault TypeWalk
  | 0, w => pure w
  | n + 1, w => w.round names decoration >>= rounds n

/-- The loop before its first round: the types of a peripheral itself and of its registers. -/
def start (options : Options) (p : Peripheral) : Except Fault TypeWalk := do
  let own ← compositeType names (Decoration.ofPeripheral p options) [p.name] p.contents
  let registers ← registerTypes names [p.name] p.registers
  pure { stack := clustersAt [p.name] p.clusters, found := own :: registers }

/-- A round with a cluster on the stack, in terms of the work list. -/
theorem round_cons (path : NodePath) (c : Cluster) (work : List (NodePath × Cluster))
    (found : List ObjectType) :
    round names decoration ⟨((path, c) :: work).reverse, found.reverse⟩ = (do
      let own ← compositeType names decoration path c.contents
      let registers ← registerTypes names path c.registers
      pure ⟨(clusterWork path c.clusters ++ work).reverse,
        (registers.reverse ++ own :: found).reverse⟩) := by
  simp [round, reverse_clusterWork]

/-- After as many rounds as clusters are left, the loop has found what the work list yields. -/
theorem rounds_workSize (work : List (NodePath × Cluster)) (found : List ObjectType) :
    rounds names decoration (workSize work) ⟨work.reverse, found.reverse⟩ =
      (collectTypes names decoration work found).map fun ts => ⟨[], ts.reverse⟩ := by
  -- between rounds the stack is the work list, and what is found the list of types, both reversed
  induction work, found using collectTypes.induct with
  | case1 found =>
    rw [collectTypes]
    rfl
  | case2 path c work found ih =>
    rw [collectTypes, workSize_cons, rounds, round_cons]
    cases compositeType names decoration path c.contents with
    | error fault => rfl
    | ok own =>
      cases registerTypes names path c.registers with
      | error fault => rfl
      | ok registers => exact ih own registers

variable {names decoration}

/-- A round takes one cluster off those that are left, if any. -/
theorem workSize_round {w later : TypeWalk} (h : w.round names decoration = .ok later) :
    workSize later.stack = workSize w.stack - 1 := by
  obtain ⟨stack, found⟩ := w
  rw [← stack.reverse_reverse, ← found.reverse_reverse] at h
  cases work : stack.reverse with
  | nil =>
    rw [work] at h
    cases Except.ok.inj h
    rw [List.reverse_eq_nil_iff.1 work]
    rfl
  | cons top work' =>
    obtain ⟨path, c⟩ := top
    rw [work, round_cons] at h
    obtain ⟨own, -, h⟩ := bind_eq_ok_iff.1 h
    obtain ⟨registers, -, h⟩ := bind_eq_ok_iff.1 h
    cases Except.ok.inj h
    rw [workSize_reverse, ← workSize_reverse stack, work, workSize_cons, Nat.add_sub_cancel]

/-- After some rounds as many clusters fewer are left. -/
theorem workSize_rounds {n : Nat} {w later : TypeWalk}
    (h : w.rounds names decoration n = .ok later) :
    workSize later.stack = workSize w.stack - n := by
  induction n generalizing w with
  | zero =>
    cases Except.ok.inj h
    rfl
  | succ n ih =>
    obtain ⟨next, hround, h⟩ := bind_eq_ok_iff.1 h
    rw [ih h, workSize_round hround, Nat.sub_sub, Nat.add_comm]

end TypeWalk

section

variable {names : TypeNames} {options : Options} {p : Peripheral}

/-- The types of a peripheral are what the loop has found after as many rounds as there are
clusters, reversed. -/
theorem nodeTypes_eq_rounds : nodeTypes names options p = (do
    let start ← TypeWalk.start names options p
    let done ← start.rounds names (Decoration.ofPeripheral p options) (countClusters p.clusters)
    pure done.found.reverse) := by
  rw [nodeTypes, TypeWalk.start]
  cases compositeType names (Decoration.ofPeripheral p options) [p.name] p.contents with
  | error fault => rfl
  | ok own =>
    cases registerTypes names [p.name] p.registers with
    | error fault => rfl
    | ok registers =>
      have run := TypeWalk.rounds_workSize names (Decoration.ofPeripheral p options)
        (clusterWork [p.name] p.clusters) (registers.reverse ++ [own])
      rw [workSize_clusterWork, reverse_clusterWork, List.reverse_append, List.reverse_reverse]
        at run
      show collectTypes _ _ _ _ = TypeWalk.rounds _ _ _ ⟨_, [own].reverse ++ registers⟩ >>= _
      rw [run]
      cases collectTypes names (Decoration.ofPeripheral p options) (clusterWork [p.name] p.clusters)
        (registers.reverse ++ [own]) with
      | error fault => rfl
      | ok ts => exact congrArg Except.ok ts.reverse_reverse.symm

end

/-! ### The order of the recursion -/

/-- A node that has a type: a peripheral or cluster with what it holds, or a register. -/
inductive TypedNode where
  | container (path : NodePath) (c : Contents)
  | register (path : NodePath) (r : Register)

namespace TypedNode

/-- Path of the node. -/
def path : TypedNode → NodePath
  | container path _ => path
  | register path _ => path

/-- The register with its path, if the node is one. -/
def register? : TypedNode → Option (NodePath × Register)
  | container _ _ => none
  | register path r => some (path, r)

/-- Type of the node. -/
def type (names : TypeNames) (decoration : Decoration) : TypedNode → Except Fault ObjectType
  | container path c => compositeType names decoration path c
  | register path _ => (names.lookup path).map registerType

end TypedNode

/-- The registers of a node that has the given path, as nodes. -/
def registerNodes (path : NodePath) (rs : List Register) : List TypedNode :=
  rs.map fun r => .register (path ++ [r.name]) r

mutual

/-- A cluster that has the given path and all in it: inner clusters first, then registers from the
last to the first, then the cluster itself. -/
def clusterPostOrder (path : NodePath) : Cluster → List TypedNode
  | c@{ registers, clusters, .. } =>
    innerPostOrder path clusters ++ (registerNodes path registers).reverse ++
      [.container path c.contents]

/-- The clusters of a node that has the given path, and all in them. -/
def innerPostOrder (path : NodePath) : List Cluster → List TypedNode
  | [] => []
  | c :: cs => clusterPostOrder (path ++ [c.name]) c ++ innerPostOrder path cs

end

/-- A node that has the given path and contents, and all in it. -/
def contentsPostOrder (path : NodePath) (c : Contents) : List TypedNode :=
  innerPostOrder path c.clusters ++ (registerNodes path c.registers).reverse ++ [.container path c]

theorem clusterPostOrder_eq (path : NodePath) (c : Cluster) :
    clusterPostOrder path c = contentsPostOrder path c.contents := by
  cases c
  rfl

theorem innerPostOrder_eq_flatMap (path : NodePath) (cs : List Cluster) : innerPostOrder path cs =
    cs.flatMap fun c => contentsPostOrder (path ++ [c.name]) c.contents := by
  induction cs with
  | nil => rfl
  | cons c cs ih => rw [innerPostOrder, clusterPostOrder_eq, ih, List.flatMap_cons]

section

variable {names : TypeNames} {decoration : Decoration} {path : NodePath}

/-- The nodes have the types, one by one. -/
def HaveTypes (names : TypeNames) (decoration : Decoration) :
    List TypedNode → List ObjectType → Prop :=
  List.Forall₂ fun n t => n.type names decoration = .ok t

theorem registerTypes_eq_ok_iff (decoration : Decoration) {rs : List Register}
    {ts : List ObjectType} :
    registerTypes names path rs = .ok ts ↔
      HaveTypes names decoration (registerNodes path rs) ts := by
  rw [registerTypes, mapM_eq_ok_iff, HaveTypes, registerNodes, List.forall₂_map_left_iff]
  exact Iff.rfl

theorem innerTypes_eq_ok_iff_postOrder {cs : List Cluster} {ts : List ObjectType}
    (each : ∀ c ∈ cs, ∀ ts, contentsTypes names decoration (path ++ [c.name]) c.contents = .ok ts ↔
      HaveTypes names decoration (contentsPostOrder (path ++ [c.name]) c.contents) ts) :
    innerTypes names decoration path cs = .ok ts ↔
      HaveTypes names decoration (innerPostOrder path cs) ts := by
  induction cs generalizing ts with
  | nil =>
    rw [HaveTypes, innerPostOrder, List.forall₂_nil_left_iff]
    exact ⟨fun h => (Except.ok.inj h).symm, fun h => congrArg Except.ok h.symm⟩
  | cons c cs ih =>
    have rest : ∀ ts, innerTypes names decoration path cs = .ok ts ↔
        HaveTypes names decoration (innerPostOrder path cs) ts :=
      fun _ => ih fun c hc => each c (List.mem_cons_of_mem _ hc)
    rw [HaveTypes, innerPostOrder, forall₂_append_left, innerTypes, clusterTypes_eq,
      clusterPostOrder_eq]
    constructor
    · intro h
      obtain ⟨front, hfront, h⟩ := bind_eq_ok_iff.1 h
      obtain ⟨back, hback, h⟩ := bind_eq_ok_iff.1 h
      exact ⟨front, back, (Except.ok.inj h).symm, (each c List.mem_cons_self front).1 hfront,
        (rest back).1 hback⟩
    · rintro ⟨front, back, rfl, hfront, hback⟩
      rw [(each c List.mem_cons_self front).2 hfront, (rest back).2 hback]
      rfl

/-- The recursion yields one type for each node in post-order. -/
theorem contentsTypes_eq_ok_iff_postOrder {c : Contents} {ts : List ObjectType} :
    contentsTypes names decoration path c = .ok ts ↔
      HaveTypes names decoration (contentsPostOrder path c) ts := by
  induction c using Contents.induction generalizing path ts with
  | step c ih =>
    have inner : ∀ ts, innerTypes names decoration path c.clusters = .ok ts ↔
        HaveTypes names decoration (innerPostOrder path c.clusters) ts :=
      fun _ => innerTypes_eq_ok_iff_postOrder fun c hc _ => ih c hc
    rw [contentsTypes, HaveTypes, contentsPostOrder, forall₂_append_left]
    constructor
    · intro h
      obtain ⟨front, hfront, h⟩ := bind_eq_ok_iff.1 h
      obtain ⟨registers, hregisters, h⟩ := bind_eq_ok_iff.1 h
      obtain ⟨own, hown, h⟩ := bind_eq_ok_iff.1 h
      have reversed := List.forall₂_reverse_iff.2
        ((registerTypes_eq_ok_iff decoration).1 hregisters)
      exact ⟨_, [own], (Except.ok.inj h).symm, List.rel_append ((inner front).1 hfront) reversed,
        .cons hown .nil⟩
    · rintro ⟨before, last, rfl, hbefore, hlast⟩
      obtain ⟨front, reversed, rfl, hfront, hreversed⟩ := forall₂_append_left.1 hbefore
      obtain _ | ⟨hown, hnil⟩ := hlast
      cases hnil
      rw [← reversed.reverse_reverse, List.forall₂_reverse_iff] at hreversed
      exact bind_eq_ok_iff.2 ⟨front, (inner front).2 hfront, bind_eq_ok_iff.2
        ⟨reversed.reverse, (registerTypes_eq_ok_iff decoration).2 hreversed, bind_eq_ok_iff.2
          ⟨_, hown, by rw [List.reverse_reverse]; rfl⟩⟩⟩

end

/-! ### Every node once -/

/-- Up to their order, the nodes of a node are the node itself, its registers and the nodes of its
clusters. -/
theorem contentsPostOrder_perm (path : NodePath) (c : Contents) :
    (contentsPostOrder path c).Perm (.container path c :: (registerNodes path c.registers ++
      c.clusters.flatMap fun inner =>
        contentsPostOrder (path ++ [inner.name]) inner.contents)) := by
  rw [contentsPostOrder, innerPostOrder_eq_flatMap]
  refine (List.perm_append_singleton _ _).trans (.cons _ (List.perm_append_comm.trans ?_))
  exact (List.reverse_perm _).append_right _

/-- The nodes in post-order have the paths of all nodes. -/
theorem map_path_contentsPostOrder_perm (path : NodePath) (c : Contents) :
    ((contentsPostOrder path c).map TypedNode.path).Perm (c.paths path) := by
  induction c using Contents.induction generalizing path with
  | step c ih =>
    refine ((contentsPostOrder_perm path c).map _).trans (.trans ?_ (c.paths_perm path).symm)
    rw [List.map_cons, List.map_append, registerNodes, List.map_map, List.map_flatMap]
    exact .cons path (.append_left _ (List.Perm.flatMap_left _ fun inner hc => ih inner hc _))

/-- The registers among the nodes in post-order are all registers. -/
theorem registers_contentsPostOrder_perm (path : NodePath) (c : Contents) :
    ((contentsPostOrder path c).filterMap TypedNode.register?).Perm (c.registersBelow path) := by
  induction c using Contents.induction generalizing path with
  | step c ih =>
    have own : (registerNodes path c.registers).filterMap TypedNode.register? =
        c.registers.map fun r => (path ++ [r.name], r) := by
      rw [registerNodes, List.filterMap_map]
      exact congrFun List.filterMap_eq_map' c.registers
    refine ((contentsPostOrder_perm path c).filterMap _).trans ?_
    rw [Contents.registersBelow_eq_append, List.filterMap_cons_none rfl, List.filterMap_append, own,
      List.filterMap_flatMap]
    exact .append_left _ (List.Perm.flatMap_left _ fun inner hc => ih inner hc _)

/-- There are as many nodes as clusters and registers, and the node itself. -/
theorem length_contentsPostOrder (path : NodePath) (c : Contents) :
    (contentsPostOrder path c).length =
      countClusters c.clusters + (c.registersBelow path).length + 1 := by
  induction c using Contents.induction generalizing path with
  | step c ih =>
    have inside : ∀ cs ⊆ c.clusters,
        (cs.flatMap fun inner => contentsPostOrder (path ++ [inner.name]) inner.contents).length =
          countClusters cs + (cs.flatMap fun inner =>
            inner.contents.registersBelow (path ++ [inner.name])).length := by
      intro cs hcs
      induction cs with
      | nil => rfl
      | cons inner cs ih' =>
        have first := ih inner (hcs List.mem_cons_self) (path ++ [inner.name])
        have rest := ih' fun x hx => hcs (List.mem_cons_of_mem _ hx)
        have count : inner.count = countClusters inner.contents.clusters + 1 := inner.count_eq
        rw [List.flatMap_cons, List.length_append, first, rest, List.flatMap_cons,
          List.length_append, countClusters, count]
        omega
    rw [(contentsPostOrder_perm path c).length_eq, Contents.registersBelow_eq_append,
      List.length_cons, List.length_append, List.length_append,
      inside c.clusters (List.Subset.refl _), registerNodes, List.length_map, List.length_map]
    omega

/-! ### Loop and recursion -/

/-- **The loop and the recursion.** The types of a peripheral are what the loop over a stack has
found, reversed, when the stack is empty: after as many rounds as there are clusters in the
peripheral, and not before. They are the types in post-order, which the recursion yields whenever
the loop does: one for each node, so one for the peripheral and for every cluster and register. -/
theorem nodeTypes_postOrder (names : TypeNames) (options : Options) (p : Peripheral) :
    (nodeTypes names options p = do
      let start ← TypeWalk.start names options p
      let done ← start.rounds names (Decoration.ofPeripheral p options) (countClusters p.clusters)
      pure done.found.reverse) ∧
    (∀ start n later, TypeWalk.start names options p = .ok start →
      start.rounds names (Decoration.ofPeripheral p options) n = .ok later →
        (later.stack = [] ↔ countClusters p.clusters ≤ n)) ∧
    (∀ ts, nodeTypes names options p = .ok ts ↔
      contentsTypes names (Decoration.ofPeripheral p options) [p.name] p.contents = .ok ts) ∧
    (∀ ts, nodeTypes names options p = .ok ts →
      HaveTypes names (Decoration.ofPeripheral p options)
          (contentsPostOrder [p.name] p.contents) ts ∧
        ts.length = countClusters p.clusters + (p.contents.registersBelow [p.name]).length + 1) ∧
    ((contentsPostOrder [p.name] p.contents).map TypedNode.path).Perm
      (p.contents.paths [p.name]) ∧
    ((contentsPostOrder [p.name] p.contents).filterMap TypedNode.register?).Perm
      (p.contents.registersBelow [p.name]) := by
  refine ⟨nodeTypes_eq_rounds, ?_, fun ts => nodeTypes_eq_ok_iff, fun ts h => ?_,
    map_path_contentsPostOrder_perm _ _, registers_contentsPostOrder_perm _ _⟩
  · intro start n later hstart hrun
    obtain ⟨own, -, hstart⟩ := bind_eq_ok_iff.1 hstart
    obtain ⟨registers, -, hstart⟩ := bind_eq_ok_iff.1 hstart
    cases Except.ok.inj hstart
    have left := TypeWalk.workSize_rounds hrun
    rw [workSize_clustersAt] at left
    rw [← workSize_eq_zero_iff, left, Nat.sub_eq_zero_iff_le]
  · have types := contentsTypes_eq_ok_iff_postOrder.1 (nodeTypes_eq_ok_iff.1 h)
    exact ⟨types, types.length_eq.symm.trans (length_contentsPostOrder _ _)⟩

/-- A peripheral with a cluster `BANK` that holds a register `CTRL` and a cluster `LANE` with a
register `DATA`, and beside it a cluster `TAIL`. -/
def bankedPort : Peripheral :=
  { name := "PORT"
    baseAddress := 0x40000000
    clusters := [
      { name := "BANK", offset := 0, registers := [{ name := "CTRL", offset := 0 }], clusters := [
        { name := "LANE", offset := 4, registers := [{ name := "DATA", offset := 0 }] }] },
      { name := "TAIL", offset := 16 }] }

/-- A name table that has its nodes. -/
def bankedPortNames : TypeNames where
  entries := [
    (["PORT"], "PORT_Type"), (["PORT", "BANK"], "BANK_Type"),
    (["PORT", "BANK", "CTRL"], "CTRL_Type"), (["PORT", "BANK", "LANE"], "LANE_Type"),
    (["PORT", "BANK", "LANE", "DATA"], "DATA_Type"), (["PORT", "TAIL"], "TAIL_Type")]

/-- Its types in post-order. -/
def bankedPortTypes : List ObjectType := [
  registerType "DATA_Type",
  { name := "LANE_Type", fields := [{ name := "DATA", type := .named "DATA_Type" }] },
  registerType "CTRL_Type",
  { name := "BANK_Type", fields := [
    { name := "CTRL", type := .named "CTRL_Type" },
    { name := "LANE", type := .named "LANE_Type" }] },
  { name := "TAIL_Type", fields := [] },
  { name := "PORT_Type", fields := [
    { name := "BANK", type := .named "BANK_Type" },
    { name := "TAIL", type := .named "TAIL_Type" }] }]

theorem nodeTypes_postOrder_bankedPort :
    ∃ start done, TypeWalk.start bankedPortNames {} bankedPort = .ok start ∧
      start.rounds bankedPortNames (Decoration.ofPeripheral bankedPort {}) 3 = .ok done ∧
      done.stack = [] ∧ done.found.reverse = bankedPortTypes ∧
      HaveTypes bankedPortNames (Decoration.ofPeripheral bankedPort {})
        (contentsPostOrder ["PORT"] bankedPort.contents) bankedPortTypes := by
  obtain ⟨loop, empty, recursion, each, -⟩ := nodeTypes_postOrder bankedPortNames {} bankedPort
  have nodes : HaveTypes bankedPortNames (Decoration.ofPeripheral bankedPort {})
      (contentsPostOrder ["PORT"] bankedPort.contents) bankedPortTypes :=
    .cons rfl (.cons (compositeType_eq_ok_of_pairwise (by decide) rfl (by decide +kernel))
      (.cons rfl (.cons (compositeType_eq_ok_of_pairwise (by decide) rfl (by decide +kernel))
        (.cons (compositeType_eq_ok_of_pairwise (by decide) rfl rfl)
          (.cons (compositeType_eq_ok_of_pairwise (by decide) rfl (by decide +kernel)) .nil)))))
  have run := (recursion _).2 (contentsTypes_eq_ok_iff_postOrder.2 nodes)
  have found := loop.symm.trans run
  obtain ⟨start, hstart, found⟩ := bind_eq_ok_iff.1 found
  obtain ⟨done, hdone, found⟩ := bind_eq_ok_iff.1 found
  exact ⟨start, done, hstart, hdone, (empty start 3 done hstart hdone).2 (Nat.le_refl 3),
    Except.ok.inj found, (each _ run).1⟩

end RegisterMap.Nim
