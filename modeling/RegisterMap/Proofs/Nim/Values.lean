import RegisterMap.Nim.Instance
import RegisterMap.Proofs.Device.Contents
import RegisterMap.Proofs.Outcome

/-!
# Values of nodes

A cluster and a peripheral are written in the same way: one object of their type, or an array of
such objects, with the members computed at the address of each instance. This file states that
common form, what its success means, and which names a value mentions.

## Main definitions

* `objectValue` : the value of a node with members.
* `Value.Named` : the names in a value are of given kinds.

## Main results

* `nodeValue_cluster`, `Instance.ofPeripheral_eq` : clusters and peripherals have that form.
* `objectValue_eq_ok`, `forall₂_of_memberValues`, `registerValue_eq_ok` : what a value that exists
  looks like.
* `named_memberValues`, `Instance.named_value` : the names that the values of nodes mention.
-/

namespace RegisterMap.Nim

/-! ### Nodes with members -/

/-- Value of a node of the given type whose members are computed from its address: an object, or an
array of one object per instance. -/
def objectValue (typeName owner : String) (r : Option Repetition) (base : Int)
    (members : Int → Except Fault (List (String × Value))) : Except Fault Value :=
  if isRepeated r = true then
    layout owner r >>= fun l =>
      (l.offsets.mapM fun distance =>
        members (base + distance) >>= fun ms => pure (.object typeName ms)) >>= fun objects =>
          pure (.array objects)
  else members base >>= fun ms => pure (.object typeName ms)

section

variable {names : TypeNames} {decoration : Decoration} {path : NodePath} {base : Int}

theorem nodeValue_cluster (c : Cluster) (ns : List Node) :
    nodeValue names decoration path base (.cluster c ns) =
      (names.lookup path >>= fun typeName =>
        objectValue typeName ("cluster " ++ c.name) c.repetition (base + c.offset) fun base =>
          memberValues names decoration path base ns) := by
  rw [nodeValue]
  rfl

theorem Instance.ofPeripheral_eq (options : Options) (p : Peripheral) :
    ofPeripheral names options p =
      (names.lookup [p.name] >>= fun typeName =>
        objectValue typeName ("peripheral " ++ p.name) p.repetition p.baseAddress (fun base =>
          memberValues names (Decoration.ofPeripheral p options) [p.name] base
            p.contents.nodes) >>= fun value =>
          pure ⟨Ident.ofText (baseName p.name), value⟩) := by
  rw [ofPeripheral]
  refine bind_congr fun typeName => ?_
  simp only [objectValue]
  split
  · simp only [bind_assoc]
  · rfl

end

section

variable {typeName owner : String} {r : Option Repetition} {base : Int} {v : Value}
  {members : Int → Except Fault (List (String × Value))}

/-- A node with members is an object, or an array of as many objects as it has instances. -/
theorem objectValue_eq_ok (h : objectValue typeName owner r base members = .ok v) :
    (isRepeated r = false ∧ ∃ ms, members base = .ok ms ∧ v = .object typeName ms) ∨
      isRepeated r = true ∧ ∃ l objects, layout owner r = .ok l ∧ v = .array objects ∧
        List.Forall₂ (fun distance o =>
          ∃ ms, members (base + distance) = .ok ms ∧ o = .object typeName ms)
          l.offsets objects := by
  have single : ∀ {b o}, (members b >>= fun ms => pure (Value.object typeName ms)) = .ok o →
      ∃ ms, members b = .ok ms ∧ o = .object typeName ms := by
    intro b o ho
    obtain ⟨ms, hms, ho⟩ := bind_eq_ok_iff.1 ho
    exact ⟨ms, hms, (Except.ok.inj ho).symm⟩
  rw [objectValue] at h
  cases hr : isRepeated r with
  | false =>
    rw [hr, if_neg Bool.false_ne_true] at h
    exact .inl ⟨rfl, single h⟩
  | true =>
    rw [hr, if_pos rfl] at h
    obtain ⟨l, hl, h⟩ := bind_eq_ok_iff.1 h
    obtain ⟨objects, ho, h⟩ := bind_eq_ok_iff.1 h
    exact .inr ⟨rfl, l, objects, hl, (Except.ok.inj h).symm,
      (mapM_eq_ok_iff.1 ho).imp fun _ _ => single⟩

/-- Every member has its name and value. -/
theorem forall₂_of_memberValues {names : TypeNames} {decoration : Decoration} {path : NodePath}
    {ns : List Node} {ms : List (String × Value)}
    (h : memberValues names decoration path base ns = .ok ms) :
    List.Forall₂ (fun n m => m.1 = decoration.memberName n.member ∧
      nodeValue names decoration (path ++ [n.member.name]) base n = .ok m.2) ns ms := by
  induction ns generalizing ms with
  | nil =>
    cases Except.ok.inj h
    exact .nil
  | cons n ns ih =>
    rw [memberValues_cons] at h
    obtain ⟨v, hv, h⟩ := bind_eq_ok_iff.1 h
    obtain ⟨rest, hrest, h⟩ := bind_eq_ok_iff.1 h
    cases Except.ok.inj h
    exact .cons ⟨rfl, hv⟩ (ih hrest)

/-- A register is its constructor, or an array of one constructor per instance. -/
theorem registerValue_eq_ok {names : TypeNames} {path : NodePath} {r : Register}
    (h : registerValue names path base r = .ok v) : ∃ typeName, names.lookup path = .ok typeName ∧
      ((isRepeated r.repetition = false ∧ v = .register typeName (base + r.offset)) ∨
        isRepeated r.repetition = true ∧ ∃ l, layout ("register " ++ r.name) r.repetition = .ok l ∧
          v = .array (l.offsets.map fun distance =>
            .register typeName (base + r.offset + distance))) := by
  rw [registerValue] at h
  obtain ⟨typeName, hname, h⟩ := bind_eq_ok_iff.1 h
  refine ⟨typeName, hname, ?_⟩
  cases hr : isRepeated r.repetition with
  | false =>
    rw [hr, if_neg Bool.false_ne_true] at h
    exact .inl ⟨rfl, (Except.ok.inj h).symm⟩
  | true =>
    rw [hr, if_pos rfl] at h
    obtain ⟨l, hl, h⟩ := bind_eq_ok_iff.1 h
    exact .inr ⟨rfl, l, hl, (Except.ok.inj h).symm⟩

end

/-! ### Names in values -/

/-- Every constructor in the value is of a type of one kind, and every member has a name of
another. -/
inductive Value.Named (types members : String → Prop) : Value → Prop
  | register {typeName : String} (address : Int) (h : types typeName) :
      Named types members (.register typeName address)
  | object {typeName : String} {ms : List (String × Value)} (h : types typeName)
      (names : ∀ m ∈ ms, members m.1) (values : ∀ m ∈ ms, Named types members m.2) :
      Named types members (.object typeName ms)
  | array {vs : List Value} (h : ∀ v ∈ vs, Named types members v) : Named types members (.array vs)

section

variable {names : TypeNames} {decoration : Decoration} {types members : String → Prop}

theorem named_objectValue {typeName owner : String} {r : Option Repetition} {base : Int} {v : Value}
    {inside : Int → Except Fault (List (String × Value))} (ht : types typeName)
    (hi : ∀ base ms, inside base = .ok ms → ∀ m ∈ ms, members m.1 ∧ m.2.Named types members)
    (h : objectValue typeName owner r base inside = .ok v) : v.Named types members := by
  have object : ∀ {ms}, (∀ m ∈ ms, members m.1 ∧ m.2.Named types members) →
      (Value.object typeName ms).Named types members := fun hms =>
    .object ht (fun m hm => (hms m hm).1) fun m hm => (hms m hm).2
  rcases objectValue_eq_ok h with ⟨-, ms, hms, rfl⟩ | ⟨-, l, objects, -, rfl, ho⟩
  · exact object (hi _ ms hms)
  · refine .array fun o hmem => ?_
    obtain ⟨distance, -, ms, hms, rfl⟩ := exists_of_mem_right ho hmem
    exact object (hi _ ms hms)

theorem named_registerValue {path : NodePath} {base : Int} {r : Register} {v : Value}
    (ht : ∀ path typeName, names.lookup path = .ok typeName → types typeName)
    (h : registerValue names path base r = .ok v) : v.Named types members := by
  obtain ⟨typeName, hname, ⟨-, rfl⟩ | ⟨-, l, -, rfl⟩⟩ := registerValue_eq_ok h
  · exact .register _ (ht _ _ hname)
  · refine .array fun o ho => ?_
    obtain ⟨distance, -, rfl⟩ := List.mem_map.1 ho
    exact .register _ (ht _ _ hname)

/-- The names that the members of a node mention. -/
theorem named_memberValues {path : NodePath} {base : Int} {c : Contents}
    {ms : List (String × Value)}
    (ht : ∀ path typeName, names.lookup path = .ok typeName → types typeName)
    (hm : ∀ m, members (decoration.memberName m))
    (h : memberValues names decoration path base c.nodes = .ok ms) :
    ∀ m ∈ ms, members m.1 ∧ m.2.Named types members := by
  induction c using Contents.induction generalizing path base ms with
  | step c ih =>
    intro m hmem
    obtain ⟨n, hn, name, hv⟩ := exists_of_mem_right (forall₂_of_memberValues h) hmem
    refine ⟨name ▸ hm _, ?_⟩
    rcases Contents.mem_nodes.1 hn with ⟨r, -, rfl⟩ | ⟨inner, hinner, rfl⟩
    · exact named_registerValue ht hv
    · rw [Cluster.node_eq, nodeValue_cluster] at hv
      obtain ⟨typeName, hname, hv⟩ := bind_eq_ok_iff.1 hv
      exact named_objectValue (ht _ _ hname) (fun _ _ => ih inner hinner) hv

end

/-- The names that the constant of a peripheral mentions. -/
theorem Instance.named_value {names : TypeNames} {options : Options} {p : Peripheral}
    {i : Instance} {types members : String → Prop}
    (ht : ∀ path typeName, names.lookup path = .ok typeName → types typeName)
    (hm : ∀ m, members ((Decoration.ofPeripheral p options).memberName m))
    (h : ofPeripheral names options p = .ok i) : i.value.Named types members := by
  rw [ofPeripheral_eq] at h
  obtain ⟨typeName, hname, h⟩ := bind_eq_ok_iff.1 h
  obtain ⟨v, hv, h⟩ := bind_eq_ok_iff.1 h
  cases Except.ok.inj h
  exact named_objectValue (ht _ _ hname) (fun _ _ => named_memberValues ht hm) hv

end RegisterMap.Nim
