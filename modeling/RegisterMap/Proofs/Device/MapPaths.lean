import RegisterMap.Proofs.Device.Places
import RegisterMap.Proofs.Numeral.Spellings

/-!
# Paths in an address map

A path is one text, made of the names on the way to a register with dots between them, and an index
in brackets after the name of an array. If no name holds a dot or a bracket the text can be taken
apart again: cut at the dots it gives the names with their indices, and each of these up to the
bracket is the name. Where names are distinct in each node, paths are therefore distinct in the map,
and the look-up of a path finds the entry that has it.

## Main definitions

* `labels` : the parts of a path between its dots.
* `IsPathName`, `Device.HasPathNames` : names without dots and brackets, distinct in each node.
* `AreBelow` : entries with distinct paths that begin with some labels.

## Main results

* `labels_append` : the labels of a path that goes on.
* `areInside_instanceEntries`, `Contents.HasPathNames.areBelow_entries` : the paths of instances and
  in nodes.
* `Device.distinct_paths_addressMap` : the paths of an address map are distinct and lead to their
  entries.
-/

namespace RegisterMap

open AddressMap (Entry)

/-! ### Labels -/

/-- The parts of a path between its dots. -/
def labels (path : String) : List (List Char) := path.toList.splitOn '.'

theorem labels_of_notMem {name : String} (h : '.' ∉ name.toList) : labels name = [name.toList] :=
  List.splitOn_eq_singleton h

/-- The labels of a path that goes on after a dot. -/
theorem labels_append (path : String) {name : String} (h : '.' ∉ name.toList) :
    labels (path ++ "." ++ name) = labels path ++ [name.toList] := by
  have text : (path ++ "." ++ name).toList = path.toList ++ '.' :: name.toList := by
    simp [String.toList_append]
  rw [labels, text]
  refine (List.splitOnP_append_cons (p := (· == '.')) _ _ rfl).trans ?_
  exact congrArg (labels path ++ ·) (labels_of_notMem h)

/-- A label up to its bracket. -/
def labelName (label : List Char) : List Char := label.takeWhile (· != '[')

/-- A name that can stand in a path: it holds no dot and no bracket. -/
def IsPathName (name : String) : Prop := ∀ c ∈ name.toList, c ≠ '.' ∧ c ≠ '[' ∧ c ≠ ']'

instance (name : String) : Decidable (IsPathName name) :=
  List.decidableBAll (fun c => c ≠ '.' ∧ c ≠ '[' ∧ c ≠ ']') name.toList

/-! ### Instances -/

/-- Name of an instance of an array. -/
def indexedName (name : String) (i : Nat) : String := name ++ "[" ++ Numeral.decimal i ++ "]"

theorem toList_indexedName (name : String) (i : Nat) :
    (indexedName name i).toList = name.toList ++ '[' :: (Nat.toDigits 10 i ++ [']']) := by
  rw [indexedName, String.toList_append, String.toList_append, String.toList_append,
    Numeral.toList_decimal_natCast]
  simp

theorem indexedName_injective (name : String) : Function.Injective (indexedName name) := by
  intro i j h
  rw [indexedName, indexedName, String.append_left_inj, String.append_right_inj] at h
  exact Int.natCast_inj.1 (Numeral.decimal_injective h)

/-- The name of an instance is one label, and up to its bracket it is the name of the node. -/
structure IsInstanceName (name instance' : String) : Prop where
  undotted : '.' ∉ instance'.toList
  labelName_eq : labelName instance'.toList = name.toList

namespace IsPathName

variable {name : String}

theorem labelName_append (h : IsPathName name) (rest : List Char) :
    labelName (name.toList ++ rest) = name.toList ++ labelName rest :=
  List.takeWhile_append_of_pos fun c hc => by simpa using (h c hc).2.1

theorem isInstanceName (h : IsPathName name) : IsInstanceName name name where
  undotted hc := (h _ hc).1 rfl
  labelName_eq := by simpa [labelName] using h.labelName_append []

theorem isInstanceName_indexedName (h : IsPathName name) (i : Nat) :
    IsInstanceName name (indexedName name i) where
  undotted := by
    rw [toList_indexedName]
    intro hc
    simp only [List.mem_append, List.mem_cons, List.not_mem_nil] at hc
    rcases hc with hc | hc | hc | hc | hc
    · exact (h _ hc).1 rfl
    · cases hc
    · exact absurd (Nat.isDigit_of_mem_toDigits (by omega) (by omega) hc) (by decide)
    · cases hc
    · exact hc
  labelName_eq := by
    rw [toList_indexedName, h.labelName_append]
    exact List.append_nil _

/-- The places of a node have distinct names, each the name of an instance. -/
theorem placements (h : IsPathName (baseName name)) {offset : Int} {r : Option Repetition}
    {places : List (String × Int)} (made : RegisterMap.placements name offset r = .ok places) :
    (places.map Prod.fst).Nodup ∧ ∀ place ∈ places, IsInstanceName (baseName name) place.1 := by
  cases hr : isRepeated r with
  | false =>
    rw [placements_of_not_isRepeated hr] at made
    cases made
    exact ⟨List.nodup_singleton _, List.forall_mem_singleton.2 h.isInstanceName⟩
  | true =>
    rw [RegisterMap.placements, if_pos hr] at made
    obtain ⟨l, hl, made⟩ := bind_eq_ok_iff.1 made
    cases made
    have names : (l.offsets.mapIdx fun i distance =>
        (indexedName (baseName name) i, offset + distance)).map Prod.fst =
        (List.range l.count).map (indexedName (baseName name)) := by
      refine List.ext_getElem (by simp) fun i hi hi' => ?_
      simp
    refine ⟨?_, fun place hp => ?_⟩
    · exact names ▸ List.nodup_range.map (indexedName_injective _)
    · have hp := List.mem_map_of_mem (f := Prod.fst) hp
      obtain ⟨i, -, same⟩ := List.mem_map.1 (names ▸ hp)
      exact same ▸ h.isInstanceName_indexedName i

end IsPathName

/-! ### Distinct paths -/

/-- The paths of steps that each make distinct ones are distinct, if they tell the steps apart. -/
theorem nodup_path_flatMapM {α κ : Type} {f : α → Except Fault (List Entry)} {xs : List α}
    {es : List Entry} (key : α → κ) (keyOf : String → κ) (made : xs.flatMapM f = .ok es)
    (distinct : (xs.map key).Nodup)
    (own : ∀ x ∈ xs, ∀ zs, f x = .ok zs →
      (zs.map Entry.path).Nodup ∧ ∀ e ∈ zs, keyOf e.path = key x) : (es.map Entry.path).Nodup := by
  induction xs generalizing es with
  | nil =>
    cases made
    exact .nil
  | cons x xs ih =>
    rw [List.flatMapM_cons] at made
    obtain ⟨zs, hz, made⟩ := bind_eq_ok_iff.1 made
    obtain ⟨rest, hrest, made⟩ := bind_eq_ok_iff.1 made
    cases Except.ok.inj made
    obtain ⟨first, later⟩ := List.forall_mem_cons.1 own
    obtain ⟨fresh, distinct⟩ := List.nodup_cons.1 distinct
    rw [List.map_append, List.nodup_append]
    refine ⟨(first zs hz).1, ih hrest distinct later, fun path hp path' hp' same => fresh ?_⟩
    obtain ⟨e, he, rfl⟩ := List.mem_map.1 hp
    obtain ⟨e', he', rfl⟩ := List.mem_map.1 hp'
    obtain ⟨x', hx', zs', hz', he'⟩ := exists_of_mem_flatMapM_results hrest he'
    refine List.mem_map.2 ⟨x', hx', ?_⟩
    rw [← (later x' hx' zs' hz').2 e' he', ← same, (first zs hz).2 e he]

/-- The paths of entries are distinct, and each begins with the labels. -/
structure AreBelow (above : List (List Char)) (es : List Entry) : Prop where
  nodup : (es.map Entry.path).Nodup
  isPrefix : ∀ e ∈ es, above <+: labels e.path

/-- The paths of entries are distinct, and in each the labels go on with one of the given name. -/
structure AreInside (above : List (List Char)) (name : String) (es : List Entry) : Prop where
  nodup : (es.map Entry.path).Nodup
  exists_label : ∀ e ∈ es, ∃ label,
    labelName label = name.toList ∧ above ++ [label] <+: labels e.path

/-- What stands after labels that a path begins with. -/
theorem getElem?_of_isPrefix {above : List (List Char)} {label : List Char} {path : String}
    (h : above ++ [label] <+: labels path) : (labels path)[above.length]? = some label := by
  obtain ⟨rest, same⟩ := h
  rw [← same]
  simp

/-- The entries of all instances of a node, given those of each. -/
theorem areInside_instanceEntries {name : String} (plain : IsPathName (baseName name))
    {offset : Int} {r : Option Repetition} {entries : String → Int → Except Fault (List Entry)}
    {above : List (List Char)} {es : List Entry}
    (own : ∀ instance' offset zs, '.' ∉ instance'.toList → entries instance' offset = .ok zs →
      AreBelow (above ++ [instance'.toList]) zs)
    (made : instanceEntries name offset r entries = .ok es) :
    AreInside above (baseName name) es := by
  obtain ⟨places, hp, made⟩ := bind_eq_ok_iff.1 made
  obtain ⟨distinct, instances⟩ := plain.placements hp
  have below : ∀ place ∈ places, ∀ zs, entries place.1 place.2 = .ok zs →
      AreBelow (above ++ [place.1.toList]) zs :=
    fun place hp zs hz => own _ _ _ (instances place hp).undotted hz
  constructor
  · refine nodup_path_flatMapM (fun place => some place.1.toList)
      (fun path => (labels path)[above.length]?) made ?_ fun place hp zs hz => ?_
    · have apart := distinct.map (f := fun name => some name.toList) fun _ _ same =>
        String.toList_injective (Option.some.inj same)
      rwa [List.map_map] at apart
    · have zs := below place hp zs hz
      exact ⟨zs.nodup, fun e he => getElem?_of_isPrefix (zs.isPrefix e he)⟩
  · intro e he
    obtain ⟨place, hp, zs, hz, he⟩ := exists_of_mem_flatMapM_results made he
    exact ⟨_, (instances place hp).labelName_eq, (below place hp zs hz).isPrefix e he⟩

/-- Nodes of distinct names have entries with distinct paths. -/
theorem areBelow_flatMapM {α : Type} {f : α → Except Fault (List Entry)} {name : α → String}
    {xs : List α} {es : List Entry} {above : List (List Char)}
    (distinct : (xs.map name).Nodup)
    (own : ∀ x ∈ xs, ∀ zs, f x = .ok zs → AreInside above (name x) zs)
    (made : xs.flatMapM f = .ok es) : AreBelow above es := by
  constructor
  · refine nodup_path_flatMapM (fun x => some (name x).toList)
      (fun path => (labels path)[above.length]?.map labelName) made ?_ fun x hx zs hz => ?_
    · have apart := distinct.map (f := fun name => some name.toList) fun _ _ same =>
        String.toList_injective (Option.some.inj same)
      rwa [List.map_map] at apart
    · have zs := own x hx zs hz
      refine ⟨zs.nodup, fun e he => ?_⟩
      obtain ⟨label, named, begins⟩ := zs.exists_label e he
      rw [getElem?_of_isPrefix begins, Option.map_some, named]
  · intro e he
    obtain ⟨x, hx, zs, hz, he⟩ := exists_of_mem_flatMapM_results made he
    obtain ⟨label, -, begins⟩ := (own x hx zs hz).exists_label e he
    exact (List.prefix_append _ _).trans begins

/-! ### Nodes -/

/-- The names of the members of a node, without placeholders, are distinct and can stand in a path,
and so can those of all nodes in it. -/
inductive Contents.HasPathNames : Contents → Prop
  | intro {c : Contents} (plain : ∀ m ∈ c.members, IsPathName (baseName m.name))
      (distinct : (c.members.map fun m => baseName m.name).Nodup)
      (inside : ∀ inner ∈ c.clusters, inner.contents.HasPathNames) : HasPathNames c

/-- The entries of a member of a node that has the given path and address. -/
def Member.entries (path : String) (base : Int) : Member → Except Fault (List Entry)
  | register r => r.entries path base
  | cluster c => c.entries path base

theorem Contents.entries_eq_flatMapM (path : String) (base : Int) (c : Contents) :
    c.entries path base = c.members.flatMapM (Member.entries path base) := by
  rw [members, flatMapM_append, flatMapM_map, flatMapM_map, entries, registerEntries_eq_flatMapM,
    clusterEntries_eq_flatMapM]
  rfl

/-- The paths of entries in a node. -/
theorem Contents.HasPathNames.areBelow_entries {c : Contents} (h : c.HasPathNames) {path : String}
    {base : Int} {es : List Entry} (made : c.entries path base = .ok es) :
    AreBelow (labels path) es := by
  induction h generalizing path base es with
  | @intro c plain distinct _ ih =>
    rw [entries_eq_flatMapM] at made
    refine areBelow_flatMapM distinct (fun m hm zs hz => ?_) made
    rcases mem_members.1 hm with ⟨r, -, rfl⟩ | ⟨inner, hc, rfl⟩
    · rw [Member.entries, Register.entries_eq_instanceEntries] at hz
      refine areInside_instanceEntries (plain _ hm) (fun name offset zs undotted hz => ?_) hz
      cases hz
      refine ⟨List.nodup_singleton _, List.forall_mem_singleton.2 ?_⟩
      exact ⟨[], (List.append_nil _).trans (labels_append path undotted).symm⟩
    · rw [Member.entries, Cluster.entries_eq_instanceEntries] at hz
      refine areInside_instanceEntries (plain _ hm) (fun name offset zs undotted hz => ?_) hz
      exact labels_append path undotted ▸ ih inner hc hz

/-- The paths of entries in a peripheral. -/
theorem Peripheral.areInside_entries {p : Peripheral} (plain : IsPathName (baseName p.name))
    (inside : p.contents.HasPathNames) {es : List Entry} (made : p.entries = .ok es) :
    AreInside [] (baseName p.name) es := by
  rw [Peripheral.entries_eq_instanceEntries] at made
  refine areInside_instanceEntries plain (fun name offset zs undotted hz => ?_) made
  exact labels_of_notMem undotted ▸ inside.areBelow_entries hz

/-! ### Devices -/

/-- The names of the peripherals of a device, and of the members of each node in them, without
placeholders, are distinct and hold no dots or brackets. -/
structure Device.HasPathNames (d : Device) : Prop where
  plain : ∀ p ∈ d.peripherals, IsPathName (baseName p.name)
  distinct : (d.peripherals.map fun p => baseName p.name).Nodup
  inside : ∀ p ∈ d.peripherals, p.contents.HasPathNames

/-- **Paths lead to their entries.** If the names in each node of a device, without placeholders,
are distinct and hold no dots or brackets, then no two entries of its address map have one path, and
the path of every entry leads to that entry. -/
theorem Device.distinct_paths_addressMap {d : Device} (h : d.HasPathNames) {m : AddressMap}
    (made : d.addressMap = .ok m) :
    (m.entries.map Entry.path).Nodup ∧ ∀ e ∈ m.entries, m.named? e.path = some e := by
  rw [addressMap_eq] at made
  obtain ⟨es, hes, rfl⟩ := map_eq_ok_iff.1 made
  have below : AreBelow [] es := areBelow_flatMapM h.distinct
    (fun p hp zs hz => p.areInside_entries (h.plain p hp) (h.inside p hp) hz) hes
  have distinct := ((List.mergeSort_perm es
    fun a b => a.address ≤ b.address).map Entry.path).nodup_iff.2 below.nodup
  exact ⟨distinct, fun e he => (find?_reverse_eq_some_iff distinct).2 ⟨he, rfl⟩⟩

/-- Two ports, each with a register and an array of two channels, which hold an array in turn. -/
def ports : Device where
  name := "BOARD"
  peripherals := [{
    name := "PORT[%s]", baseAddress := 0x1000
    repetition := some { count := some 2, increment := some 0x100 }
    registers := [{ name := "CH1", offset := 0 }]
    clusters := [{
      name := "CH[%s]", offset := 0x10
      repetition := some { count := some 2, increment := some 0x20 }
      registers := [
        { name := "R[%s]", offset := 0
          repetition := some { count := some 2, increment := some 4 } }] }] }]

theorem distinct_paths_addressMap_ports : ports.HasPathNames ∧ ∃ m, ports.addressMap = .ok m ∧
    (m.entries.map Entry.path).Perm (["PORT[0]", "PORT[1]"].flatMap fun port =>
      (port ++ ".CH1") :: ["CH[0]", "CH[1]"].flatMap fun channel =>
        ["R[0]", "R[1]"].map fun register => port ++ "." ++ channel ++ "." ++ register) ∧
    (m.entries.map Entry.path).Nodup ∧ ∀ e ∈ m.entries, m.named? e.path = some e := by
  have channels : Contents.HasPathNames
      ⟨[{ name := "R[%s]", offset := 0
          repetition := some { count := some 2, increment := some 4 } }], []⟩ :=
    .intro (by decide) (by decide) nofun
  have names : ports.HasPathNames := {
    plain := by decide
    distinct := by decide
    inside := List.forall_mem_singleton.2
      (.intro (by decide) (by decide) (List.forall_mem_singleton.2 channels)) }
  have paths : (ports.peripherals.flatMapM Peripheral.entries).map (List.map Entry.path) =
      .ok (["PORT[0]", "PORT[1]"].flatMap fun port =>
        (port ++ ".CH1") :: ["CH[0]", "CH[1]"].flatMap fun channel =>
          ["R[0]", "R[1]"].map fun register => port ++ "." ++ channel ++ "." ++ register) := by
    decide +kernel
  obtain ⟨es, hes, paths⟩ := map_eq_ok_iff.1 paths
  have made := ports.addressMap_eq
  rw [hes] at made
  obtain ⟨distinct, found⟩ := Device.distinct_paths_addressMap names made
  exact ⟨names, _, made, paths ▸ (List.mergeSort_perm _ _).map _, distinct, found⟩

end RegisterMap
