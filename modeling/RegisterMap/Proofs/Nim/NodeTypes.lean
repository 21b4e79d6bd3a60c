import RegisterMap.Nim.NodeType
import RegisterMap.Proofs.Device.Contents
import RegisterMap.Proofs.Nim.FirstDefinitions

/-!
# Types of a peripheral's nodes

The work list yields the types of a peripheral in the order of the recursion: inner clusters, then
registers, then the node that holds them. Hence every type comes after the types of its fields, and
every node has a type under its name.

## Main definitions

* `contentsTypes` : the types of a node and all in it, by recursion.
* `TypeExpr.Suits` : the type of a field suits a member that may be repeated.
* `TypeExpr.IsKnown` : the type of a field is declared among given names.

## Main results

* `nodeTypes_eq_ok_iff` : what the work list yields.
* `eachAfter_contentsTypes` : a type comes after the types of its fields.
* `exists_type_of_mem_paths`, `registerType_mem` : every node has its type.
-/

namespace RegisterMap.Nim

section

variable {names : TypeNames} {decoration : Decoration} {path : NodePath}

/-! ### The order of the recursion -/

/-- The types of a node and all in it: inner clusters first, then registers from the last to the
first, then the node itself. -/
def contentsTypes (names : TypeNames) (decoration : Decoration) (path : NodePath) (c : Contents) :
    Except Fault (List ObjectType) := do
  let inner ← innerTypes names decoration path c.clusters
  let registers ← registerTypes names path c.registers
  let own ← compositeType names decoration path c
  pure (inner ++ registers.reverse ++ [own])

theorem clusterTypes_eq (c : Cluster) :
    clusterTypes names decoration path c = contentsTypes names decoration path c.contents := by
  cases c
  rfl

/-- Parts of a list of types belong to clusters in a node that has the given path. -/
def ClusterParts (names : TypeNames) (decoration : Decoration) (path : NodePath) :
    List Cluster → List (List ObjectType) → Prop :=
  List.Forall₂ fun c ts =>
    contentsTypes names decoration (path ++ [c.name]) c.contents = .ok ts

/-- The types of inner clusters are those of each cluster in turn. -/
theorem innerTypes_eq_ok_iff {cs : List Cluster} {ts : List ObjectType} :
    innerTypes names decoration path cs = .ok ts ↔
      ∃ parts, ClusterParts names decoration path cs parts ∧ ts = parts.flatten := by
  induction cs generalizing ts with
  | nil =>
    constructor
    · intro h
      exact ⟨[], .nil, (Except.ok.inj h).symm⟩
    · rintro ⟨parts, h, rfl⟩
      cases h
      rfl
  | cons c cs ih =>
    rw [innerTypes, clusterTypes_eq]
    constructor
    · intro h
      obtain ⟨first, hfirst, h⟩ := bind_eq_ok_iff.1 h
      obtain ⟨rest, hrest, h⟩ := bind_eq_ok_iff.1 h
      obtain ⟨parts, hparts, rfl⟩ := ih.1 hrest
      exact ⟨first :: parts, .cons hfirst hparts, (Except.ok.inj h).symm⟩
    · rintro ⟨parts, h, rfl⟩
      obtain _ | ⟨hfirst, hrest⟩ := h
      rw [hfirst, ih.2 ⟨_, hrest, rfl⟩]
      rfl

/-- The types of a node: those of its clusters, those of its registers from the last to the first,
and its own with a field per member. -/
theorem contentsTypes_eq_ok_iff {c : Contents} {ts : List ObjectType} :
    contentsTypes names decoration path c = .ok ts ↔ ∃ parts registers own,
      ClusterParts names decoration path c.clusters parts ∧
      registerTypes names path c.registers = .ok registers ∧
      compositeType names decoration path c = .ok own ∧
      ts = parts.flatten ++ registers.reverse ++ [own] := by
  rw [contentsTypes]
  constructor
  · intro h
    obtain ⟨inner, hinner, h⟩ := bind_eq_ok_iff.1 h
    obtain ⟨registers, hregisters, h⟩ := bind_eq_ok_iff.1 h
    obtain ⟨own, hown, h⟩ := bind_eq_ok_iff.1 h
    obtain ⟨parts, hparts, rfl⟩ := innerTypes_eq_ok_iff.1 hinner
    exact ⟨parts, registers, own, hparts, hregisters, hown, (Except.ok.inj h).symm⟩
  · rintro ⟨parts, registers, own, hparts, hregisters, hown, rfl⟩
    rw [innerTypes_eq_ok_iff.2 ⟨parts, hparts, rfl⟩, hregisters, hown]
    rfl

/-! ### The work list -/

theorem mem_clusterWork {cs : List Cluster} {w : NodePath × Cluster} :
    w ∈ clusterWork path cs ↔ ∃ c ∈ cs, w = (path ++ [c.name], c) := by
  rw [clusterWork, List.mem_reverse, List.mem_map]
  simp only [eq_comm]

/-- The work list of clusters holds them from the last to the first. -/
theorem forall₂_clusterWork_iff {cs : List Cluster} {parts : List (List ObjectType)} :
    List.Forall₂ (fun w ts => contentsTypes names decoration w.1 w.2.contents = .ok ts)
      (clusterWork path cs) parts ↔ ClusterParts names decoration path cs parts.reverse := by
  rw [clusterWork, ← parts.reverse_reverse, List.forall₂_reverse_iff,
    List.forall₂_map_left_iff, List.reverse_reverse]
  exact Iff.rfl

/-- The work list yields the types of its clusters by recursion, those of the last cluster first, in
front of the types already found. -/
theorem collectTypes_eq_ok_iff {work : List (NodePath × Cluster)} {found ts : List ObjectType} :
    collectTypes names decoration work found = .ok ts ↔ ∃ parts,
      List.Forall₂ (fun w ts => contentsTypes names decoration w.1 w.2.contents = .ok ts)
        work parts ∧ ts = parts.reverse.flatten ++ found := by
  induction work, found using collectTypes.induct with
  | case1 found =>
    rw [collectTypes]
    constructor
    · intro h
      exact ⟨[], .nil, (Except.ok.inj h).symm⟩
    · rintro ⟨parts, hparts, rfl⟩
      cases hparts
      rfl
  | case2 path c work found ih =>
    rw [collectTypes]
    -- the cluster's own clusters are put in front of the work left, and so are their types
    constructor
    · intro h
      obtain ⟨own, hown, h⟩ := bind_eq_ok_iff.1 h
      obtain ⟨registers, hregisters, h⟩ := bind_eq_ok_iff.1 h
      obtain ⟨parts, hparts, rfl⟩ := (ih own registers).1 h
      obtain ⟨first, rest, rfl, hfirst, hrest⟩ := forall₂_append_left.1 hparts
      have types := contentsTypes_eq_ok_iff.2
        ⟨_, registers, own, forall₂_clusterWork_iff.1 hfirst, hregisters, hown, rfl⟩
      exact ⟨_ :: rest, .cons types hrest, by simp⟩
    · rintro ⟨parts, hparts, rfl⟩
      obtain _ | ⟨types, hrest⟩ := hparts
      obtain ⟨inner, registers, own, hinner, hregisters, hown, rfl⟩ :=
        contentsTypes_eq_ok_iff.1 types
      have hfirst := forall₂_clusterWork_iff.2 (inner.reverse_reverse.symm ▸ hinner)
      have left := (ih own registers).2 ⟨_, List.rel_append hfirst hrest, by simp⟩
      exact bind_eq_ok_iff.2 ⟨own, hown, bind_eq_ok_iff.2 ⟨registers, hregisters, left⟩⟩

/-- The work list of a peripheral yields the types of its contents by recursion. -/
theorem nodeTypes_eq_ok_iff {options : Options} {p : Peripheral} {ts : List ObjectType} :
    nodeTypes names options p = .ok ts ↔
      contentsTypes names (Decoration.ofPeripheral p options) [p.name] p.contents = .ok ts := by
  rw [nodeTypes, contentsTypes_eq_ok_iff]
  constructor
  · intro h
    obtain ⟨own, hown, h⟩ := bind_eq_ok_iff.1 h
    obtain ⟨registers, hregisters, h⟩ := bind_eq_ok_iff.1 h
    obtain ⟨parts, hparts, rfl⟩ := collectTypes_eq_ok_iff.1 h
    exact ⟨_, registers, own, forall₂_clusterWork_iff.1 hparts, hregisters, hown, by simp⟩
  · rintro ⟨parts, registers, own, hparts, hregisters, hown, rfl⟩
    have work := forall₂_clusterWork_iff.2 (parts.reverse_reverse.symm ▸ hparts)
    refine bind_eq_ok_iff.2 ⟨own, hown, bind_eq_ok_iff.2 ⟨registers, hregisters, ?_⟩⟩
    exact collectTypes_eq_ok_iff.2 ⟨_, work, by simp⟩

/-! ### Types of members -/

/-- The type suits a node that has the given repetition and a type of the given name: it is that
type, or an array of it with as many elements as the node is declared to have instances. -/
inductive TypeExpr.Suits (r : Option Repetition) (typeName : String) : TypeExpr → Prop
  | named (hr : isRepeated r = false) : Suits r typeName (.named typeName)
  | array {n : Nat} (hr : isRepeated r = true) (count : r.bind (·.count) = some (n : Int)) :
      Suits r typeName (.array n typeName)

theorem suits_of_memberType {m : Member} {typeName : String} {type : TypeExpr}
    (h : memberType m typeName = .ok type) : type.Suits m.repetition typeName := by
  rw [memberType] at h
  split at h
  · next hr =>
    obtain ⟨l, hl, rfl⟩ := map_eq_ok_iff.1 h
    exact .array hr (layout_eq_ok_iff.1 hl).2.1
  · next hr =>
    cases Except.ok.inj h
    exact .named (Bool.eq_false_iff.2 hr)

theorem memberField_eq_ok {m : Member} {f : ObjectField}
    (h : memberField names decoration path m = .ok f) :
    f.name = decoration.memberName m ∧ ∃ typeName, names.lookup (path ++ [m.name]) = .ok typeName ∧
      f.type.Suits m.repetition typeName := by
  rw [memberField] at h
  obtain ⟨typeName, hname, h⟩ := bind_eq_ok_iff.1 h
  obtain ⟨type, htype, h⟩ := bind_eq_ok_iff.1 h
  cases Except.ok.inj h
  exact ⟨rfl, typeName, hname, suits_of_memberType htype⟩

theorem compositeType_eq_ok {c : Contents} {t : ObjectType}
    (h : compositeType names decoration path c = .ok t) : names.lookup path = .ok t.name ∧
      List.Forall₂ (fun m f => memberField names decoration path m = .ok f)
        c.sortedMembers t.fields := by
  rw [compositeType] at h
  obtain ⟨name, hname, h⟩ := bind_eq_ok_iff.1 h
  obtain ⟨fields, hfields, h⟩ := bind_eq_ok_iff.1 h
  cases Except.ok.inj h
  exact ⟨hname, mapM_eq_ok_iff.1 hfields⟩

/-- Type of a node whose members are declared in address order. -/
theorem compositeType_eq_ok_of_pairwise {c : Contents} {name : String} {fields : List ObjectField}
    (ordered : c.members.Pairwise fun a b => decide (a.offset ≤ b.offset))
    (hname : names.lookup path = .ok name)
    (hfields : c.members.mapM (memberField names decoration path) = .ok fields) :
    compositeType names decoration path c = .ok { name, fields } := by
  have sorted : c.sortedMembers = c.members := List.mergeSort_of_pairwise ordered
  exact bind_eq_ok_iff.2 ⟨name, hname, bind_eq_ok_iff.2 ⟨fields, sorted ▸ hfields, rfl⟩⟩

/-! ### Every node has its type -/

section

variable {c : Contents} {ts : List ObjectType}

theorem compositeType_mem (h : contentsTypes names decoration path c = .ok ts) :
    ∃ own ∈ ts, compositeType names decoration path c = .ok own := by
  obtain ⟨parts, registers, own, -, -, hown, rfl⟩ := contentsTypes_eq_ok_iff.1 h
  exact ⟨own, List.mem_append_right _ (List.mem_singleton_self own), hown⟩

theorem registerType_mem_of_mem_registers (h : contentsTypes names decoration path c = .ok ts)
    {r : Register} (hr : r ∈ c.registers) :
    ∃ typeName, names.lookup (path ++ [r.name]) = .ok typeName ∧ registerType typeName ∈ ts := by
  obtain ⟨parts, registers, own, -, hregisters, -, rfl⟩ := contentsTypes_eq_ok_iff.1 h
  obtain ⟨t, ht, hmap⟩ := exists_of_mem_mapM hregisters hr
  obtain ⟨typeName, hname, rfl⟩ := map_eq_ok_iff.1 hmap
  have reversed := List.mem_reverse.2 ht
  exact ⟨typeName, hname, List.mem_append_left _ (List.mem_append_right _ reversed)⟩

/-- The types of a node hold those of each of its clusters. -/
theorem contentsTypes_subset (h : contentsTypes names decoration path c = .ok ts) {inner : Cluster}
    (hc : inner ∈ c.clusters) : ∃ part ⊆ ts,
      contentsTypes names decoration (path ++ [inner.name]) inner.contents = .ok part := by
  obtain ⟨parts, registers, own, hparts, -, -, rfl⟩ := contentsTypes_eq_ok_iff.1 h
  obtain ⟨part, hpart, htypes⟩ := exists_of_mem_left hparts hc
  refine ⟨part, fun t ht => ?_, htypes⟩
  exact List.mem_append_left _ (List.mem_append_left _ (List.mem_flatten.2 ⟨part, hpart, ht⟩))

/-- Every node has a type under its name. -/
theorem exists_type_of_mem_paths (h : contentsTypes names decoration path c = .ok ts)
    {q : NodePath} (hq : q ∈ c.paths path) : ∃ t ∈ ts, names.lookup q = .ok t.name := by
  induction c using Contents.induction generalizing path ts with
  | step c ih =>
    rcases Contents.mem_paths.1 hq with rfl | ⟨r, hr, rfl⟩ | ⟨inner, hc, hq⟩
    · obtain ⟨own, hmem, hown⟩ := compositeType_mem h
      exact ⟨own, hmem, (compositeType_eq_ok hown).1⟩
    · obtain ⟨typeName, hname, hmem⟩ := registerType_mem_of_mem_registers h hr
      exact ⟨registerType typeName, hmem, hname⟩
    · obtain ⟨part, hsub, hpart⟩ := contentsTypes_subset h hc
      obtain ⟨t, ht, hname⟩ := ih inner hc hpart hq
      exact ⟨t, hsub ht, hname⟩

/-- Every type is the type of a node under its name. -/
theorem exists_lookup_of_mem_types (h : contentsTypes names decoration path c = .ok ts)
    {t : ObjectType} (ht : t ∈ ts) : ∃ q, names.lookup q = .ok t.name := by
  induction c using Contents.induction generalizing path ts with
  | step c ih =>
    obtain ⟨parts, registers, own, hparts, hregisters, hown, rfl⟩ := contentsTypes_eq_ok_iff.1 h
    rcases List.mem_append.1 ht with ht | ht
    · rcases List.mem_append.1 ht with ht | ht
      · obtain ⟨part, hpart, ht⟩ := List.mem_flatten.1 ht
        obtain ⟨inner, hc, htypes⟩ := exists_of_mem_right hparts hpart
        exact ih inner hc htypes ht
      · obtain ⟨r, -, hmap⟩ := exists_of_mem_results hregisters (List.mem_reverse.1 ht)
        obtain ⟨typeName, hname, rfl⟩ := map_eq_ok_iff.1 hmap
        exact ⟨_, hname⟩
    · cases List.mem_singleton.1 ht
      exact ⟨path, (compositeType_eq_ok hown).1⟩

/-- Every register has the type of a register under its name. -/
theorem registerType_mem (h : contentsTypes names decoration path c = .ok ts)
    {q : NodePath × Register} (hq : q ∈ c.registersBelow path) :
    ∃ typeName, names.lookup q.1 = .ok typeName ∧ registerType typeName ∈ ts := by
  induction c using Contents.induction generalizing path ts with
  | step c ih =>
    rcases Contents.mem_registersBelow.1 hq with ⟨r, hr, rfl⟩ | ⟨inner, hc, hq⟩
    · exact registerType_mem_of_mem_registers h hr
    · obtain ⟨part, hsub, hpart⟩ := contentsTypes_subset h hc
      obtain ⟨typeName, hname, hmem⟩ := ih inner hc hpart hq
      exact ⟨typeName, hname, hsub hmem⟩

end

/-! ### Types come after those they are made of -/

/-- The type of a field is the integer of addresses, or made of a declared type. -/
def TypeExpr.IsKnown (declared : List String) : TypeExpr → Prop
  | named name => name = "uint" ∨ name ∈ declared
  | array _ element => element ∈ declared
  | bool => False
  | upTo _ => False

/-- All fields of an object type have known types. -/
def ObjectType.IsMadeOf (declared : List String) (t : ObjectType) : Prop :=
  ∀ f ∈ t.fields, f.type.IsKnown declared

theorem ObjectType.isMadeOf_mono (declared declared' : List String) (t : ObjectType)
    (hs : declared ⊆ declared') (h : t.IsMadeOf declared) : t.IsMadeOf declared' := by
  intro f hf
  have known := h f hf
  revert known
  cases f.type with
  | named name => exact Or.imp_right fun hn => hs hn
  | array _ element => exact fun he => hs he
  | bool => exact id
  | upTo _ => exact id

theorem isMadeOf_registerType (declared : List String) (typeName : String) :
    (registerType typeName).IsMadeOf declared := by
  intro f hf
  rw [List.mem_singleton.1 hf]
  exact .inl rfl

/-- The type of a node is made of the types of its members. -/
theorem isMadeOf_compositeType {c : Contents} {t : ObjectType} {declared : List String}
    (h : compositeType names decoration path c = .ok t)
    (hm : ∀ m ∈ c.members, ∀ typeName, names.lookup (path ++ [m.name]) = .ok typeName →
      typeName ∈ declared) : t.IsMadeOf declared := by
  intro f hf
  obtain ⟨m, hmem, hfield⟩ := exists_of_mem_right (compositeType_eq_ok h).2 hf
  obtain ⟨-, typeName, hname, htype⟩ := memberField_eq_ok hfield
  have mem := hm m (c.sortedMembers_perm.mem_iff.1 hmem) typeName hname
  generalize f.type = type at htype ⊢
  cases htype with
  | named _ => exact .inr mem
  | array _ _ => exact mem

/-- Every type of a node comes after the types that it is made of. -/
theorem eachAfter_contentsTypes {c : Contents} {ts : List ObjectType}
    (h : contentsTypes names decoration path c = .ok ts) :
    EachAfter ObjectType.name ObjectType.IsMadeOf [] ts := by
  induction c using Contents.induction generalizing path ts with
  | step c ih =>
    obtain ⟨parts, registers, own, hparts, hregisters, hown, rfl⟩ := contentsTypes_eq_ok_iff.1 h
    have inner : EachAfter ObjectType.name ObjectType.IsMadeOf [] parts.flatten := by
      refine eachAfter_flatten ObjectType.isMadeOf_mono fun part hpart => ?_
      obtain ⟨inner, hc, htypes⟩ := exists_of_mem_right hparts hpart
      exact ih inner hc htypes
    have leaves : ∀ t ∈ registers.reverse, t.IsMadeOf ([] ++ parts.flatten.map (·.name)) := by
      intro t ht
      obtain ⟨r, -, hmap⟩ := exists_of_mem_results hregisters (List.mem_reverse.1 ht)
      obtain ⟨typeName, -, rfl⟩ := map_eq_ok_iff.1 hmap
      exact isMadeOf_registerType _ typeName
    refine eachAfter_append.2 ⟨eachAfter_append.2 ⟨inner,
      eachAfter_of_forall ObjectType.isMadeOf_mono leaves⟩,
        eachAfter_cons.2 ⟨isMadeOf_compositeType hown ?_, eachAfter_nil⟩⟩
    simp only [Contents.members, List.forall_mem_append, List.forall_mem_map, List.nil_append,
      List.map_append]
    constructor
    · intro r hr typeName hname
      obtain ⟨t, ht, hmap⟩ := exists_of_mem_mapM hregisters hr
      obtain ⟨found, hfound, rfl⟩ := map_eq_ok_iff.1 hmap
      cases Except.ok.inj (hname.symm.trans hfound)
      exact List.mem_append_right _ (List.mem_map_of_mem (List.mem_reverse.2 ht))
    · intro inner hc typeName hname
      obtain ⟨part, hpart, htypes⟩ := exists_of_mem_left hparts hc
      obtain ⟨t, ht, htype⟩ := compositeType_mem htypes
      cases Except.ok.inj (hname.symm.trans (compositeType_eq_ok htype).1)
      exact List.mem_append_left _ (List.mem_map_of_mem (List.mem_flatten.2 ⟨part, hpart, ht⟩))

end

end RegisterMap.Nim
