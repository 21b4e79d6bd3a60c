import Mathlib.Data.List.Sort
import RegisterMap.Device.AddressMap
import RegisterMap.Proofs.Device.Routes
import RegisterMap.Proofs.Outcome

/-!
# Addresses of an address map

The address map of a device exists exactly if every repeated node on the way to a register, or
without registers, has a layout. It then holds one entry per register and per choice of indices, at
the address that the route gives.

## Main definitions

* `HasLayout` : a node is not repeated, or has a layout.
* `Cluster.LaidOut`, `Device.LaidOut` : so do all nodes in a cluster, and of a device.

## Main results

* `SucceedsIff.ofLayout` : a step that treats single nodes and arrays apart.
* `Device.addressMap_succeedsIff` : when the map exists, and what its addresses are.
-/

namespace RegisterMap

/-! ### Layouts -/

/-- The node is not repeated, or its instances have a layout. -/
def HasLayout (r : Option Repetition) : Prop := isRepeated r = true → ∃ l, layout "" r = .ok l

/-- The owner only names the node in a fault. -/
theorem layout_eq_ok_of_owner {owner owner' : String} {r : Option Repetition}
    {l : Repetition.Layout} (h : layout owner r = .ok l) : layout owner' r = .ok l :=
  layout_eq_ok_iff.2 (layout_eq_ok_iff.1 h)

theorem kind_of_layout_eq_error {owner : String} {r : Option Repetition} {fault : Fault}
    (h : layout owner r = .error fault) : fault.kind = .model := by
  unfold layout at h
  split at h
  · split at h
    · cases h
      rfl
    · cases h
  · cases h
    rfl

theorem offsets_ne_nil {owner : String} {r : Option Repetition} {l : Repetition.Layout}
    (h : layout owner r = .ok l) : l.offsets ≠ [] := by
  obtain ⟨positive, -⟩ := layout_eq_ok_iff.1 h
  rw [ne_eq, ← List.length_eq_zero_iff, l.length_offsets]
  omega

namespace SucceedsIff

variable {α β : Type} {d : Prop} {Q : β → Prop}

/-- A step that treats single nodes and arrays apart needs a layout of the arrays. -/
theorem ofLayout {owner : String} {r : Option Repetition}
    {array : Repetition.Layout → Except Fault β} {single : Except Fault β}
    (hs : isRepeated r = false → SucceedsIff single d Q)
    (ha : isRepeated r = true → ∀ l, layout owner r = .ok l → SucceedsIff (array l) d Q) :
    SucceedsIff (if isRepeated r = true then layout owner r >>= array else single)
      (HasLayout r ∧ d) Q := by
  cases hr : isRepeated r with
  | false =>
    refine (hs hr).congr ?_ fun _ h => h
    simp [HasLayout, hr]
  | true =>
    rw [if_pos rfl]
    cases hl : layout owner r with
    | error fault =>
      refine ⟨fun h => ?_, kind_of_layout_eq_error hl⟩
      obtain ⟨l, same⟩ := h.1 hr
      rw [layout_eq_ok_of_owner same] at hl
      cases hl
    | ok l =>
      refine (ha hr l hl).congr ?_ fun _ h => h
      exact ⟨fun h => ⟨fun _ => ⟨l, layout_eq_ok_of_owner hl⟩, h⟩, And.right⟩

/-- A traversal of the instances of a node, all of which need the same. -/
theorem mapM_const {f : α → Except Fault β} {P : α → β → Prop} {xs : List α} (hxs : xs ≠ [])
    (h : ∀ a ∈ xs, SucceedsIff (f a) d (P a)) :
    SucceedsIff (xs.mapM f) d (List.Forall₂ P xs) := by
  refine (mapM h).congr ?_ fun _ h => h
  obtain ⟨a, ha⟩ := List.exists_mem_of_ne_nil xs hxs
  exact ⟨fun h => h a ha, fun h _ _ => h⟩

end SucceedsIff

/-- Results that stand for their elements stand for the elements together. -/
theorem coe_flatMap_eq_bind {α β : Type} {f : β → List Int} {g : α → Multiset Int} {xs : List α}
    {ys : List β} (h : List.Forall₂ (fun a b => (f b : Multiset Int) = g a) xs ys) :
    ((ys.flatMap f : List Int) : Multiset Int) = (xs : Multiset α).bind g := by
  induction h with
  | nil => rfl
  | cons hab _ ih =>
    rw [List.flatMap_cons, ← Multiset.coe_add, hab, ih, ← Multiset.cons_coe, Multiset.cons_bind]

/-! ### Devices with a layout -/

/-- Every repeated node among a cluster and the nodes below it has a layout. -/
inductive Cluster.LaidOut : Cluster → Prop
  | intro {c : Cluster} (own : HasLayout c.repetition)
      (registers : ∀ r ∈ c.registers, HasLayout r.repetition)
      (clusters : ∀ inner ∈ c.clusters, inner.LaidOut) : LaidOut c

/-- Every repeated node below a node has a layout. -/
def Contents.LaidOut (c : Contents) : Prop :=
  (∀ r ∈ c.registers, HasLayout r.repetition) ∧ ∀ inner ∈ c.clusters, inner.LaidOut

/-- Every repeated node of a device has a layout. -/
def Device.LaidOut (d : Device) : Prop :=
  ∀ p ∈ d.peripherals, HasLayout p.repetition ∧ p.contents.LaidOut

theorem Cluster.laidOut_iff (c : Cluster) :
    c.LaidOut ↔ HasLayout c.repetition ∧ c.contents.LaidOut :=
  ⟨fun ⟨own, registers, clusters⟩ => ⟨own, registers, clusters⟩,
    fun ⟨own, registers, clusters⟩ => ⟨own, registers, clusters⟩⟩

/-- A member of a node has a layout if it is repeated. -/
theorem Contents.LaidOut.member {c : Contents} (h : c.LaidOut) {m : Member} (hm : m ∈ c.members) :
    HasLayout m.repetition := by
  rcases mem_members.1 hm with ⟨r, hr, rfl⟩ | ⟨inner, hc, rfl⟩
  · exact h.1 r hr
  · exact (inner.laidOut_iff.1 (h.2 inner hc)).1

/-! ### Entries -/

open AddressMap (Entry)

/-- The addresses of entries. -/
def entryAddresses (es : List Entry) : List Int := es.map Entry.address

@[simp] theorem entryAddresses_append (es es' : List Entry) :
    entryAddresses (es ++ es') = entryAddresses es ++ entryAddresses es' := List.map_append

@[simp] theorem entryAddresses_flatten (parts : List (List Entry)) :
    entryAddresses parts.flatten = parts.flatMap entryAddresses := by
  rw [entryAddresses, List.map_flatten, List.flatMap]
  rfl

theorem placements_succeedsIff (name : String) (offset : Int) (r : Option Repetition) :
    SucceedsIff (placements name offset r) (HasLayout r)
      fun ps => ps ≠ [] ∧ ps.map Prod.snd = Waypoint.places ⟨offset, r⟩ := by
  refine (SucceedsIff.ofLayout (d := True) (fun hr => ?_) fun hr l hl => ?_).congr
    (and_iff_left trivial) fun _ h => h
  · refine SucceedsIff.pure ⟨List.cons_ne_nil _ _, ?_⟩
    rw [Waypoint.places_of_not_isRepeated hr]
    rfl
  · refine SucceedsIff.pure ⟨?_, ?_⟩
    · simpa using offsets_ne_nil hl
    · have numbered : l.offsets.map (offset + ·) =
          (l.offsets.zipIdx.map Prod.fst).map (offset + ·) := by rw [List.zipIdx_map_fst]
      rw [Waypoint.places_of_layout hr hl, numbered, List.mapIdx_eq_zipIdx_map, List.map_map,
        List.map_map]
      rfl

theorem Register.entries_succeedsIff (path : String) (base : Int) (r : Register) :
    SucceedsIff (r.entries path base) (HasLayout r.repetition)
      fun es => (entryAddresses es : Multiset Int) = addressesFrom base [r.route] := by
  refine SucceedsIff.bind_pure ?_
  refine (placements_succeedsIff _ _ _).congr Iff.rfl fun ps hps => ?_
  rw [addressesFrom_route, Register.waypoint, ← hps.2]
  simp [entryAddresses, Function.comp_def]

theorem registerEntries_succeedsIff (path : String) (base : Int) (rs : List Register) :
    SucceedsIff (registerEntries path base rs) (∀ r ∈ rs, HasLayout r.repetition)
      fun es => (entryAddresses es : Multiset Int) =
        addressesFrom base (rs.map Register.route) := by
  refine SucceedsIff.map ?_
  refine (SucceedsIff.mapM fun r _ => r.entries_succeedsIff path base).congr Iff.rfl
    fun parts h => ?_
  rw [entryAddresses_flatten, coe_flatMap_eq_bind h]
  simp [addressesFrom, Multiset.bind_map, ← Multiset.map_coe]

/-- The entries of a node that has the given path and address. -/
def Contents.entries (path : String) (base : Int) (c : Contents) : Except Fault (List Entry) := do
  let own ← registerEntries path base c.registers
  let inner ← clusterEntries path base c.clusters
  pure (own ++ inner)

theorem Cluster.entries_eq (path : String) (base : Int) (c : Cluster) : c.entries path base = (do
    let places ← placements c.name c.offset c.repetition
    let parts ← places.mapM fun place =>
      c.contents.entries (path ++ "." ++ place.1) (base + place.2)
    pure parts.flatten) := by
  cases c
  rfl

theorem clusterEntries_succeedsIff (path : String) (base : Int) {cs : List Cluster}
    (h : ∀ c ∈ cs, SucceedsIff (c.entries path base) c.LaidOut
      fun es => (entryAddresses es : Multiset Int) = addressesFrom base c.routes) :
    SucceedsIff (clusterEntries path base cs) (∀ c ∈ cs, c.LaidOut)
      fun es => (entryAddresses es : Multiset Int) = addressesFrom base (clusterRoutes cs) := by
  induction cs with
  | nil => exact ⟨fun _ h => absurd h List.not_mem_nil, rfl⟩
  | cons c cs ih =>
    have tail := ih fun c hc => h c (List.mem_cons_of_mem _ hc)
    refine ((h c List.mem_cons_self).bind fun first hfirst =>
      SucceedsIff.bind_pure (tail.congr Iff.rfl fun rest hrest => ?_)).congr ?_ fun _ h => h
    · rw [entryAddresses_append, ← Multiset.coe_add, hfirst, hrest, clusterRoutes,
        addressesFrom_append]
    · exact List.forall_mem_cons.symm

/-- The entries of all instances of a node, given those of what it holds. -/
theorem instanceEntries_succeedsIff (name : String) (w : Waypoint) {c : Contents} (base : Int)
    (prefixed : String → String)
    (h : ∀ path base, SucceedsIff (c.entries path base) c.LaidOut
      fun es => (entryAddresses es : Multiset Int) = addressesFrom base c.routes) :
    SucceedsIff (do
        let places ← placements name w.offset w.repetition
        let parts ← places.mapM fun place => c.entries (prefixed place.1) (base + place.2)
        pure parts.flatten)
      (HasLayout w.repetition ∧ c.LaidOut)
      fun es => (entryAddresses es : Multiset Int) =
        addressesFrom base (c.routes.map (Route.below w)) := by
  refine (placements_succeedsIff name w.offset w.repetition).bind fun ps hps =>
    SucceedsIff.bind_pure ?_
  refine (SucceedsIff.mapM_const hps.1 fun place _ => h (prefixed place.1) (base + place.2)).congr
    Iff.rfl fun parts hparts => ?_
  rw [entryAddresses_flatten, coe_flatMap_eq_bind hparts, addressesFrom_below, ← hps.2,
    ← Multiset.map_coe, Multiset.bind_map]

theorem Contents.entries_succeedsIff (c : Contents) (path : String) (base : Int) :
    SucceedsIff (c.entries path base) c.LaidOut
      fun es => (entryAddresses es : Multiset Int) = addressesFrom base c.routes := by
  induction c using Contents.induction generalizing path base with
  | step c ih =>
    have clusters : ∀ inner ∈ c.clusters, SucceedsIff (inner.entries path base) inner.LaidOut
        fun es => (entryAddresses es : Multiset Int) = addressesFrom base inner.routes := by
      intro inner hinner
      rw [Cluster.entries_eq, Cluster.routes_eq]
      exact (instanceEntries_succeedsIff inner.name inner.waypoint base _ (ih inner hinner)).congr
        inner.laidOut_iff.symm fun _ h => h
    refine (registerEntries_succeedsIff path base c.registers).bind fun own hown =>
      SucceedsIff.bind_pure ((clusterEntries_succeedsIff path base clusters).congr Iff.rfl
        fun inner hinner => ?_)
    rw [entryAddresses_append, ← Multiset.coe_add, hown, hinner, Contents.routes,
      addressesFrom_append]

theorem Peripheral.entries_succeedsIff (p : Peripheral) :
    SucceedsIff p.entries (HasLayout p.repetition ∧ p.contents.LaidOut)
      fun es => (entryAddresses es : Multiset Int) = addressesFrom 0 p.routes := by
  have h := instanceEntries_succeedsIff p.name p.waypoint 0 id p.contents.entries_succeedsIff
  simp only [zero_add] at h
  exact h

/-- The address map of a device exists exactly if every repeated node has a layout. It is sorted and
holds one address per register and choice of indices. -/
theorem Device.addressMap_succeedsIff (d : Device) :
    SucceedsIff d.addressMap d.LaidOut fun m =>
      (entryAddresses m.entries).Pairwise (· ≤ ·) ∧
        (entryAddresses m.entries : Multiset Int) = addressesFrom 0 d.routes := by
  refine SucceedsIff.bind_pure ?_
  refine (SucceedsIff.mapM fun p _ => p.entries_succeedsIff).congr Iff.rfl fun parts h => ?_
  have sorted : entryAddresses (parts.flatten.mergeSort fun a b => a.address ≤ b.address) =
      (entryAddresses parts.flatten).mergeSort (· ≤ ·) :=
    List.map_mergeSort fun _ _ _ _ => rfl
  rw [sorted]
  refine ⟨List.pairwise_mergeSort' _ _, ?_⟩
  rw [Multiset.coe_eq_coe.2 (List.mergeSort_perm _ _), entryAddresses_flatten,
    coe_flatMap_eq_bind h, Device.routes, addressesFrom, ← Multiset.coe_bind, Multiset.bind_assoc]
  rfl

end RegisterMap
