import RegisterMap.Proofs.Device.MapAddresses

/-!
# Places in an address map

The address map gives every instance of a register an address and a size, and a path that plays no
part in them. This file compares steps that list entries by the places of the entries alone.

## Main definitions

* `AddressMap.places` : the addresses and sizes in a map, in order.
* `SamePlaces` : two steps fail for one fault or list entries at the same places.
* `instanceEntries` : the entries of all instances of a node.

## Main results

* `SamePlaces.append`, `SamePlaces.flatMapM` : places of steps in a row.
* `samePlaces_instanceEntries` : the places of all instances follow from those of one.
* `Device.map_places_addressMap` : the places in a map are those of its entries by address.
-/

namespace RegisterMap

open AddressMap (Entry)

/-! ### Places -/

/-- Address and size of an entry. -/
def AddressMap.Entry.place (e : Entry) : Int × Int := (e.address, e.size)

/-- Addresses and sizes of the entries of a map, in order. -/
def AddressMap.places (m : AddressMap) : List (Int × Int) := m.entries.map Entry.place

/-- Two steps fail for the same fault, or both list entries at the same places in the same order. -/
def SamePlaces (x y : Except Fault (List Entry)) : Prop :=
  x.map (List.map Entry.place) = y.map (List.map Entry.place)

/-- The places that two steps in a row list. -/
theorem map_place_append (x y : Except Fault (List Entry)) :
    (x >>= fun es => y >>= fun fs => pure (es ++ fs)).map (List.map Entry.place) =
      x.map (List.map Entry.place) >>= fun ps =>
        y.map (List.map Entry.place) >>= fun qs => pure (ps ++ qs) := by
  cases x with
  | error fault => rfl
  | ok es =>
    cases y with
    | error fault => rfl
    | ok fs => exact congrArg Except.ok List.map_append

namespace SamePlaces

variable {α β : Type} {x x' y y' : Except Fault (List Entry)}

protected theorem refl : SamePlaces x x := Eq.refl _

theorem append (hx : SamePlaces x x') (hy : SamePlaces y y') :
    SamePlaces (x >>= fun es => y >>= fun fs => pure (es ++ fs))
      (x' >>= fun es => y' >>= fun fs => pure (es ++ fs)) := by
  unfold SamePlaces
  rw [map_place_append, map_place_append, hx, hy]

/-- Traversals list the same places if their steps do. -/
theorem flatMapM {f : α → Except Fault (List Entry)} {g : β → Except Fault (List Entry)}
    {as : List α} {bs : List β} (h : List.Forall₂ (fun a b => SamePlaces (f a) (g b)) as bs) :
    SamePlaces (as.flatMapM f) (bs.flatMapM g) := by
  induction h with
  | nil => exact SamePlaces.refl
  | cons hab _ ih =>
    rw [List.flatMapM_cons, List.flatMapM_cons]
    exact hab.append ih

end SamePlaces

/-! ### Instances -/

/-- The entries of all instances of a node, given those of the instance of a name and an offset. -/
def instanceEntries (name : String) (offset : Int) (r : Option Repetition)
    (entries : String → Int → Except Fault (List Entry)) : Except Fault (List Entry) :=
  placements name offset r >>= List.flatMapM fun place => entries place.1 place.2

section Instances

variable {r : Option Repetition} {owner : String} {l : Repetition.Layout}
  {entries entries' : String → Int → Except Fault (List Entry)}

theorem isRepeated_of_layout (h : layout owner r = .ok l) : isRepeated r = true := by
  obtain ⟨-, count, -⟩ := layout_eq_ok_iff.1 h
  cases r with
  | none => cases count
  | some r => exact Option.isSome_iff_exists.2 ⟨_, count⟩

/-- A node that is not repeated has one instance. -/
theorem instanceEntries_of_not_isRepeated (hr : isRepeated r = false) (name : String)
    (offset : Int) : instanceEntries name offset r entries = entries (baseName name) offset := by
  rw [instanceEntries, placements_of_not_isRepeated hr]
  exact flatMapM_singleton _

theorem placements_of_layout (hl : layout owner r = .ok l) (name : String) (offset : Int) :
    placements name offset r = .ok (l.offsets.mapIdx fun i distance =>
      (baseName name ++ "[" ++ Numeral.decimal i ++ "]", offset + distance)) := by
  rw [placements, if_pos (isRepeated_of_layout hl), layout_eq_ok_of_owner hl]
  rfl

/-- The instances of a node list the same places if each of them does. -/
theorem samePlaces_instanceEntries
    (h : ∀ name name' offset, SamePlaces (entries name offset) (entries' name' offset))
    (name : String) (offset : Int) :
    SamePlaces (instanceEntries name offset r entries)
      (instanceEntries name offset r entries') := by
  unfold instanceEntries
  cases placements name offset r with
  | error fault => exact SamePlaces.refl
  | ok places => exact SamePlaces.flatMapM (List.forall₂_same.2 fun _ _ => h _ _ _)

end Instances

/-! ### Nodes -/

/-- The entry of the instance of a register that has the given name and offset. -/
def Register.instanceEntry (path : String) (base : Int) (r : Register) (name : String)
    (offset : Int) : Except Fault (List Entry) :=
  pure [⟨path ++ "." ++ name, base + offset, r.size, r⟩]

theorem Register.entries_eq_instanceEntries (path : String) (base : Int) (r : Register) :
    r.entries path base =
      instanceEntries r.name r.offset r.repetition (r.instanceEntry path base) := by
  have singles : ∀ places : List (String × Int),
      (places.flatMapM fun place => r.instanceEntry path base place.1 place.2) =
        pure (places.map fun place => ⟨path ++ "." ++ place.1, base + place.2, r.size, r⟩) := by
    intro places
    induction places with
    | nil => rfl
    | cons place places ih =>
      rw [List.flatMapM_cons, ih]
      rfl
  rw [Register.entries, instanceEntries]
  exact bind_congr fun places => (singles places).symm

/-- The path of a node does not move the register. -/
theorem Register.samePlaces_instanceEntry (path path' : String) (base : Int) (r : Register)
    (name name' : String) (offset : Int) :
    SamePlaces (r.instanceEntry path base name offset) (r.instanceEntry path' base name' offset) :=
  Eq.refl (Except.ok [(base + offset, r.size)])

theorem registerEntries_eq_flatMapM (path : String) (base : Int) (rs : List Register) :
    registerEntries path base rs = rs.flatMapM (Register.entries path base) :=
  map_flatten_mapM rs

theorem Cluster.entries_eq_instanceEntries (path : String) (base : Int) (c : Cluster) :
    c.entries path base = instanceEntries c.name c.offset c.repetition fun name offset =>
      c.contents.entries (path ++ "." ++ name) (base + offset) := by
  rw [Cluster.entries_eq]
  simp only [bind_flatten_mapM]
  rfl

theorem clusterEntries_eq_flatMapM (path : String) (base : Int) (cs : List Cluster) :
    clusterEntries path base cs = cs.flatMapM (Cluster.entries path base) := by
  induction cs with
  | nil => rfl
  | cons c cs ih => rw [clusterEntries, ih, List.flatMapM_cons]

theorem Peripheral.entries_eq_instanceEntries (p : Peripheral) :
    p.entries = instanceEntries p.name p.baseAddress p.repetition p.contents.entries := by
  have steps : p.entries = (do
      let places ← placements p.name p.baseAddress p.repetition
      let parts ← places.mapM fun place => p.contents.entries place.1 place.2
      pure parts.flatten) := rfl
  rw [steps]
  simp only [bind_flatten_mapM]
  rfl

/-! ### Devices -/

/-- The entries of an address map are those of the peripherals, by ascending address. -/
theorem Device.addressMap_eq (d : Device) : d.addressMap =
    (d.peripherals.flatMapM Peripheral.entries).map fun es =>
      ⟨d.name, es.mergeSort fun a b => a.address ≤ b.address⟩ := by
  rw [Device.addressMap, ← map_flatten_mapM]
  cases d.peripherals.mapM Peripheral.entries <;> rfl

/-- The places of an address map are those of the peripherals' entries, by ascending address. -/
theorem Device.map_places_addressMap (d : Device) : d.addressMap.map AddressMap.places =
    ((d.peripherals.flatMapM Peripheral.entries).map (List.map Entry.place)).map fun places =>
      places.mergeSort fun a b => a.1 ≤ b.1 := by
  rw [Device.addressMap_eq]
  cases d.peripherals.flatMapM Peripheral.entries with
  | error fault => rfl
  | ok es => exact congrArg Except.ok (List.map_mergeSort fun _ _ _ _ => rfl)

theorem Device.places_addressMap_eq {d d' : Device}
    (h : SamePlaces (d'.peripherals.flatMapM Peripheral.entries)
      (d.peripherals.flatMapM Peripheral.entries)) :
    d'.addressMap.map AddressMap.places = d.addressMap.map AddressMap.places := by
  rw [Device.map_places_addressMap, Device.map_places_addressMap, h]

end RegisterMap
