import Mathlib.Data.List.TakeWhile
import RegisterMap.Device.Writer
import RegisterMap.Proofs.Device.ReadNodes

/-!
# Names of nodes that are read

Peripherals, interrupts, clusters, registers and fields must have names. Where the element of one of
them gives no text for its name, at whatever depth, the device is not read. A text of blanks is a
text, though, and nothing is left of it when the blanks around it are taken away: the node is read
with the empty name. So the names of a device that is read are all non-empty exactly if none of its
elements has such a text.

## Main definitions

* `Entity`, `EntityKind` : the nodes that must have names, and what they are.
* `Entity.inner`, `EntityKind.innerElements` : what is directly in a node, and in its element.
* `Device.HasEntity` : a node is part of a device.
* `DescribesEntity` : an element stands where a node of a kind is described.
* `HasBlankName` : the text for the name of an element holds blanks only.

## Main results

* `Entity.IsReadFrom.inner` : what is in a node is read from what is in its element.
* `DescribesEntity.exists_entity`, `Device.HasEntity.exists_element` : elements and nodes of a
  device that is read correspond.
* `Device.read_names` : when a device is read, and when all its names are non-empty.
-/

namespace RegisterMap.Text

/-- Nothing is left of a text exactly if it holds blanks only. -/
theorem strip_eq_empty_iff {s : String} : strip s = "" ↔ ∀ c ∈ s.toList, isBlank c = true := by
  rw [← String.toList_eq_nil_iff, toList_strip, stripEnd, List.reverse_eq_nil_iff,
    List.dropWhile_eq_nil_iff, stripStart]
  simp only [List.mem_reverse]
  constructor
  · intro blank
    have first := List.head?_dropWhile_not isBlank s.toList
    cases rest : s.toList.dropWhile isBlank with
    | nil => exact List.dropWhile_eq_nil_iff.1 rest
    | cons c cs =>
      rw [rest] at blank first
      exact absurd (blank c List.mem_cons_self) (by simpa using first)
  · intro blank c hc
    rw [List.dropWhile_eq_nil_iff.2 blank] at hc
    cases hc

end RegisterMap.Text

namespace RegisterMap

open Xml (Element)

/-! ### Nodes and their elements -/

/-- What a node that must have a name is. -/
inductive EntityKind where
  | peripheral
  | interrupt
  | cluster
  | register
  | field

/-- A node that must have a name. -/
inductive Entity where
  | peripheral (p : Peripheral)
  | interrupt (i : Interrupt)
  | cluster (c : Cluster)
  | register (r : Register)
  | field (f : BitField)

/-- Name of the node. -/
def Entity.name : Entity → String
  | peripheral p => p.name
  | interrupt i => i.name
  | cluster c => c.name
  | register r => r.name
  | field f => f.name

/-- The members of a node. -/
def Contents.entities (c : Contents) : List Entity :=
  c.registers.map .register ++ c.clusters.map .cluster

/-- The nodes directly in a node. -/
def Entity.inner : Entity → List Entity
  | peripheral p => p.interrupts.map .interrupt ++ p.contents.entities
  | cluster c => c.contents.entities
  | register r => r.fields.map .field
  | interrupt _ => []
  | field _ => []

/-- The node is part of the device, at whatever depth. -/
inductive Device.HasEntity (d : Device) : Entity → Prop
  | peripheral {p : Peripheral} (hp : p ∈ d.peripherals) : HasEntity d (.peripheral p)
  | inside {x y : Entity} (h : HasEntity d x) (hy : y ∈ x.inner) : HasEntity d y

/-- The elements of the members that stand in an element, with their kinds. -/
def memberElements (e : Element) : List (EntityKind × Element) :=
  (e.childrenNamed "register").map (.register, ·) ++ (e.childrenNamed "cluster").map (.cluster, ·)

/-- The elements of the nodes directly in a node of some kind, with their kinds. -/
def EntityKind.innerElements (e : Element) : EntityKind → List (EntityKind × Element)
  | peripheral => (e.childrenNamed "interrupt").map (.interrupt, ·) ++
      memberElements (memberElement e)
  | cluster => memberElements e
  | register => (fieldElements e).map (.field, ·)
  | interrupt => []
  | field => []

/-- The element stands where a device element, at whatever depth, describes a node of the kind. -/
inductive DescribesEntity (root : Element) : EntityKind → Element → Prop
  | peripheral {p : Element} (hp : p ∈ peripheralElements root) : DescribesEntity root .peripheral p
  | inside {kind inner : EntityKind} {e e' : Element} (h : DescribesEntity root kind e)
      (he : (inner, e') ∈ kind.innerElements e) : DescribesEntity root inner e'

/-- The node is what reading an element as a node of its kind yields. -/
inductive Entity.IsReadFrom : Entity → EntityKind → Element → Prop
  | peripheral {p : Peripheral} {e : Element} (h : (readPeripheral e).outcome = .ok p) :
      IsReadFrom (.peripheral p) .peripheral e
  | interrupt {owner : String} {i : Interrupt} {e : Element} (h : readInterrupt owner e = .ok i) :
      IsReadFrom (.interrupt i) .interrupt e
  | cluster {c : Cluster} {e : Element} (h : (readCluster e).outcome = .ok c) :
      IsReadFrom (.cluster c) .cluster e
  | register {r : Register} {e : Element} (h : (readRegister e).outcome = .ok r) :
      IsReadFrom (.register r) .register e
  | field {owner : String} {f : BitField} {e : Element} (h : (readField owner e).outcome = .ok f) :
      IsReadFrom (.field f) .field e

/-- The elements are read as the nodes, one by one. -/
def AreReadFrom : List (EntityKind × Element) → List Entity → Prop :=
  List.Forall₂ fun k x => x.IsReadFrom k.1 k.2

theorem areReadFrom_map {α : Type} {R : Element → α → Prop} {kind : EntityKind} {make : α → Entity}
    {es : List Element} {xs : List α} (h : List.Forall₂ R es xs)
    (made : ∀ e x, R e x → (make x).IsReadFrom kind e) :
    AreReadFrom (es.map (kind, ·)) (xs.map make) := by
  rw [AreReadFrom, List.forall₂_map_left_iff, List.forall₂_map_right_iff]
  exact h.imp made

theorem ReadsMembers.areReadFrom {e : Element} {c : Contents} (h : ReadsMembers e c) :
    AreReadFrom (memberElements e) c.entities :=
  List.rel_append (areReadFrom_map h.registers fun _ _ => .register)
    (areReadFrom_map h.clusters fun _ _ => .cluster)

section

variable {x : Entity} {kind : EntityKind} {e : Element} (h : x.IsReadFrom kind e)
include h

/-- The name of a node is the text for it in the element. -/
theorem Entity.IsReadFrom.name_eq : childText? e "name" = some x.name := by
  cases h with
  | peripheral made => exact (readPeripheral_eq_ok made).1
  | interrupt made => exact readInterrupt_eq_ok made
  | cluster made => exact (readCluster_eq_ok made).1
  | register made => exact (readRegister_eq_ok made).1
  | field made => exact readField_eq_ok made

/-- The nodes in a node are read from the elements in its own. -/
theorem Entity.IsReadFrom.inner : AreReadFrom (kind.innerElements e) x.inner := by
  cases h with
  | peripheral made =>
    obtain ⟨-, members, interrupts⟩ := readPeripheral_eq_ok made
    exact List.rel_append (areReadFrom_map interrupts fun _ _ => .interrupt) members.areReadFrom
  | cluster made => exact (readCluster_eq_ok made).2.areReadFrom
  | register made => exact areReadFrom_map (readRegister_eq_ok made).2 fun _ _ => .field
  | interrupt made => exact .nil
  | field made => exact .nil

end

section

variable {defaultName : String} {root e : Element} {d : Device} {kind : EntityKind} {x : Entity}

/-- Of every element that describes a node, a device that is read has the node. -/
theorem DescribesEntity.exists_entity (h : DescribesEntity root kind e)
    (read : (Device.read defaultName root).outcome = .ok d) :
    ∃ x, d.HasEntity x ∧ x.IsReadFrom kind e := by
  induction h with
  | peripheral hp =>
    obtain ⟨p, mem, made⟩ := exists_of_mem_left (Device.read_eq_ok read) hp
    exact ⟨.peripheral p, .peripheral mem, .peripheral made⟩
  | inside _ held ih =>
    obtain ⟨x, has, made⟩ := ih
    obtain ⟨y, hy, made⟩ := exists_of_mem_left made.inner held
    exact ⟨y, .inside has hy, made⟩

/-- Every node of a device that is read is described by an element. -/
theorem Device.HasEntity.exists_element (h : d.HasEntity x)
    (read : (Device.read defaultName root).outcome = .ok d) :
    ∃ kind e, DescribesEntity root kind e ∧ x.IsReadFrom kind e := by
  induction h with
  | peripheral hp =>
    obtain ⟨e, mem, made⟩ := exists_of_mem_right (Device.read_eq_ok read) hp
    exact ⟨.peripheral, e, .peripheral mem, .peripheral made⟩
  | inside _ hy ih =>
    obtain ⟨kind, e, described, made⟩ := ih
    obtain ⟨⟨inner, e'⟩, held, made⟩ := exists_of_mem_right made.inner hy
    exact ⟨inner, e', .inside described held, made⟩

/-! ### Blank names -/

/-- The first child for the name of an element has a text, and that holds blanks only. -/
def HasBlankName (e : Element) : Prop :=
  ∃ child, e.child? "name" = some child ∧ child.text ≠ "" ∧
    ∀ c ∈ child.text.toList, Text.isBlank c = true

theorem childText?_eq_empty_iff : childText? e "name" = some "" ↔ HasBlankName e := by
  rw [childText?_eq_some_iff, HasBlankName]
  simp only [Text.strip_eq_empty_iff]

/-- **Names that are missing and names that are blank.** A device is not read if the element of a
peripheral, interrupt, cluster, register or field in it, at whatever depth, has no text for its
name: the fault lies in the description. If it is read, all these nodes have non-empty names exactly
if none of their elements has a text of blanks for its name. -/
theorem Device.read_names (defaultName : String) (root : Element) :
    (∀ kind e, DescribesEntity root kind e → HoldsNothing e "name" →
      ∃ fault, (Device.read defaultName root).outcome = .error fault ∧ fault.kind = .document) ∧
    ∀ d, (Device.read defaultName root).outcome = .ok d →
      ((∀ x, d.HasEntity x → x.name ≠ "") ↔
        ∀ kind e, DescribesEntity root kind e → ¬HasBlankName e) := by
  constructor
  · intro kind e described nothing
    cases read : (Device.read defaultName root).outcome with
    | error fault => exact ⟨fault, rfl, Device.read_failsOnlyFor defaultName root fault read⟩
    | ok d =>
      obtain ⟨x, -, made⟩ := described.exists_entity read
      cases made.name_eq.symm.trans (childText?_eq_none_iff.2 nothing)
  · intro d read
    constructor
    · intro named kind e described blank
      obtain ⟨x, has, made⟩ := described.exists_entity read
      have empty := made.name_eq.symm.trans (childText?_eq_empty_iff.2 blank)
      exact named x has (Option.some.inj empty)
    · intro visible x has empty
      obtain ⟨kind, e, described, made⟩ := has.exists_element read
      have text := made.name_eq
      rw [empty] at text
      exact visible kind e described (childText?_eq_empty_iff.1 text)

end

/-- A field of a register `CTRL` in a cluster `BANK` of a peripheral, with texts for its name. -/
def bankedFieldElement (names : List Element) : Element :=
  { tag := "field", children := names ++ [textElement "bitOffset" "0"] }

/-- The device that holds it. -/
def bankedFieldDevice (names : List Element) : Element :=
  { tag := "device", children := [{ tag := "peripherals", children := [
    { tag := "peripheral", children := [textElement "name" "PORT",
      { tag := "registers", children := [
        { tag := "cluster", children := [textElement "name" "BANK",
          { tag := "register", children := [textElement "name" "CTRL",
            { tag := "fields", children := [bankedFieldElement names] }] }] }] }] }] }] }

theorem describesEntity_bankedField (names : List Element) :
    DescribesEntity (bankedFieldDevice names) .field (bankedFieldElement names) :=
  .inside (.inside (.inside (.peripheral List.mem_cons_self) List.mem_cons_self)
    List.mem_cons_self) List.mem_cons_self

theorem read_names_bankedField :
    (∃ fault, (Device.read "device" (bankedFieldDevice [])).outcome = .error fault ∧
      fault.kind = .document) ∧
    ∃ d, (Device.read "device" (bankedFieldDevice [textElement "name" " \t"])).outcome = .ok d ∧
      ¬∀ x, d.HasEntity x → x.name ≠ "" := by
  constructor
  · exact (Device.read_names "device" (bankedFieldDevice [])).1 .field _
      (describesEntity_bankedField []) nofun
  · refine ⟨_, rfl, fun named => ?_⟩
    have visible := ((Device.read_names "device" (bankedFieldDevice [textElement "name" " \t"])).2
      _ rfl).1 named
    exact visible .field _ (describesEntity_bankedField _)
      ⟨textElement "name" " \t", rfl, by decide, List.all_eq_true.1 rfl⟩

/-- A device element with one peripheral, whose name is a blank. -/
def blankPeripheralDevice : Element :=
  { tag := "device", children := [textElement "name" "BOARD",
    { tag := "peripherals", children := [{ tag := "peripheral", children := [
      textElement "name" " ", textElement "baseAddress" "0x40000000"] }] }] }

/-- A device that is read may have a node with an empty name. -/
theorem not_forall_read_name_ne_empty :
    ¬∀ (defaultName : String) (root : Element) (d : Device),
      (Device.read defaultName root).outcome = .ok d → ∀ x, d.HasEntity x → x.name ≠ "" := by
  intro all
  exact all "device" blankPeripheralDevice _ rfl _ (.peripheral List.mem_cons_self) rfl

end RegisterMap
