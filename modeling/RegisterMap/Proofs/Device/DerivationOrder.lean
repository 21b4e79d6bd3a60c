import Mathlib.Data.List.Nodup
import RegisterMap.Proofs.Device.ReferenceChains

/-!
# Derivation and the order of declaration

The peripherals of a device may be declared in any order. What each is completed to is the same in
all of them. Whether a device is accepted is not: a peripheral that is completed already ends the
chains that lead to it, so a chain longer than the limit is accepted when its peripherals are
declared base first and rejected when the last of them is declared first. Chains within the limit
are accepted in every order.

## Main definitions

* `select`, `Device.reorder` : the elements of a list at some positions, and a device with its
  peripherals in another order.
* `Device.HasShortChains` : no chain of references is over the limit.

## Main results

* `Device.eq_reorder_of_derive` : the results of two orders that are accepted agree.
* `Device.hasShortChains_of_length_le` : nine peripherals have no chain over the limit.
* `Device.derive_reorder` : devices without chains over the limit are accepted or rejected in all
  orders alike, and no others are accepted in all.
-/

namespace RegisterMap

/-! ### Other orders -/

section Select

variable {α β : Type} {order : List Nat} {xs : List α} {ys : List β}

/-- The elements of a list at some positions. -/
def select (order : List Nat) (xs : List α) : List α := order.filterMap (xs[·]?)

theorem map_select (f : α → β) (order : List Nat) (xs : List α) :
    (select order xs).map f = select order (xs.map f) := by
  rw [select, List.map_filterMap, select]
  simp only [List.getElem?_map]

theorem select_range (xs : List α) : select (List.range xs.length) xs = xs := by
  induction xs with
  | nil => rfl
  | cons x xs ih =>
    rw [select, List.length_cons, List.range_succ_eq_map, List.filterMap_cons, List.filterMap_map]
    exact congrArg (x :: ·) ih

/-- Every position once gives the elements in another order. -/
theorem select_perm (h : order.Perm (List.range xs.length)) : (select order xs).Perm xs := by
  have := h.filterMap (xs[·]?)
  rwa [← select, ← select, select_range] at this

/-- What corresponds one by one does so at any positions. -/
theorem forall₂_select {R : α → β → Prop} (h : List.Forall₂ R xs ys) (order : List Nat) :
    List.Forall₂ R (select order xs) (select order ys) := by
  induction order with
  | nil => exact .nil
  | cons i order ih =>
    rw [select, select, List.filterMap_cons, List.filterMap_cons]
    cases hx : xs[i]? with
    | none =>
      have short : ys[i]? = none := by
        rwa [List.getElem?_eq_none_iff, ← h.length_eq, ← List.getElem?_eq_none_iff]
      rw [short]
      exact ih
    | some x =>
      obtain ⟨y, hy, related⟩ := exists_getElem?_of_forall₂ h hx
      rw [hy]
      exact .cons related ih

end Select

/-- The device with the peripherals at some positions, in their order. -/
def Device.reorder (d : Device) (order : List Nat) : Device :=
  { d with peripherals := select order d.peripherals }

theorem Device.map_name_reorder (d : Device) (order : List Nat) :
    (d.reorder order).peripherals.map (·.name) = select order (d.peripherals.map (·.name)) :=
  map_select _ _ _

section Reorder

variable {ps qs : List Peripheral} {d d' e : Device} {order : List Nat}

/-! ### References -/

/-- The order of peripherals with distinct names does not matter to references. -/
theorem peripheralNamed?_perm (distinct : (ps.map (·.name)).Nodup) (h : qs.Perm ps)
    (name : String) : peripheralNamed? qs name = peripheralNamed? ps name := by
  have distinct' : (qs.map (·.name)).Nodup := (h.map _).nodup_iff.2 distinct
  refine Option.ext fun p => ?_
  rw [peripheralNamed?_eq_some_iff distinct', peripheralNamed?_eq_some_iff distinct, h.mem_iff]

theorem countClusters_perm {cs cs' : List Cluster} (h : cs.Perm cs') :
    countClusters cs = countClusters cs' := by
  induction h with
  | nil => rfl
  | cons c _ ih => rw [countClusters, countClusters, ih]
  | swap c c' cs => simp only [countClusters, Nat.add_left_comm]
  | trans _ _ ih ih' => exact ih.trans ih'

/-- The order of peripherals with distinct names does not matter to what is completed in one. -/
theorem completeInside_perm (distinct : (ps.map (·.name)).Nodup) (h : qs.Perm ps) :
    completeInside qs = completeInside ps := by
  funext p
  unfold completeInside
  rw [countClusters_perm (h.flatMap_right _), resolveContents_congr fun name =>
    congrArg (Option.map Peripheral.contents) (peripheralNamed?_perm distinct h name)]

/-! ### Orders that are accepted -/

/-- Where the peripherals of a reordered device are completed to the same, so is all in them. -/
theorem derive_reorder_of_resolve (distinct : (d.peripherals.map (·.name)).Nodup)
    (permuted : order.Perm (List.range d.peripherals.length))
    (hp : resolvePeripherals d.peripherals (d.peripherals.map (·.name)) [] = .ok ps)
    (hq : ps.mapM (completeInside ps) = .ok qs)
    (hr : resolvePeripherals (d.reorder order).peripherals
      ((d.reorder order).peripherals.map (·.name)) [] = .ok (select order ps)) :
    (d.reorder order).derive = .ok ({ d with peripherals := qs }.reorder order) := by
  have names := map_name_of_resolvePeripherals hp
  have perm := select_perm (length_of_resolvePeripherals hp ▸ permuted)
  refine Device.derive_eq_ok_iff.2 ⟨_, select order qs, hr, ?_, rfl⟩
  rw [completeInside_perm (names ▸ distinct) perm]
  exact mapM_eq_ok_iff.2 (forall₂_select (mapM_eq_ok_iff.1 hq) order)

/-- The chains of a reordered device are those of the device. -/
theorem referenceChain_reorder_iff (distinct : (d.peripherals.map (·.name)).Nodup)
    (permuted : order.Perm (List.range d.peripherals.length)) {name : String} {n : Nat}
    {p : Peripheral} : ReferenceChain (d.reorder order).peripherals name n p ↔
      ReferenceChain d.peripherals name n p := by
  have same := peripheralNamed?_perm distinct (select_perm permuted)
  exact ⟨.congr fun name => (same name).symm, .congr same⟩

/-- The peripherals of a reordered device are completed to the same as in the device, if they are
completed at all. -/
theorem resolvePeripherals_reorder (distinct : (d.peripherals.map (·.name)).Nodup)
    (permuted : order.Perm (List.range d.peripherals.length))
    (hp : List.Forall₂ (fun name q => ∃ n, ReferenceChain d.peripherals name n q)
      (d.peripherals.map (·.name)) ps)
    (hq : resolvePeripherals (d.reorder order).peripherals
      ((d.reorder order).peripherals.map (·.name)) [] = .ok qs) : qs = select order ps := by
  have reordered := forall₂_of_resolvePeripherals Completed.isSound_nil hq
  rw [Device.map_name_reorder] at reordered
  refine List.right_unique_forall₂' (R := fun name q => ∃ n, ReferenceChain d.peripherals name n q)
    ?_ (reordered.imp ?_) (forall₂_select hp order)
  · rintro name q q' ⟨n, chain⟩ ⟨m, chain'⟩
    exact (chain.unique chain').2
  · rintro name q ⟨n, chain⟩
    exact ⟨n, (referenceChain_reorder_iff distinct permuted).1 chain⟩

/-- The results of two orders that are accepted agree. -/
theorem Device.eq_reorder_of_derive (distinct : (d.peripherals.map (·.name)).Nodup)
    (permuted : order.Perm (List.range d.peripherals.length)) (h : d.derive = .ok d')
    (hr : (d.reorder order).derive = .ok e) : e = d'.reorder order := by
  obtain ⟨ps, qs, hp, hq, rfl⟩ := derive_eq_ok_iff.1 h
  obtain ⟨ps', _, hp', _⟩ := derive_eq_ok_iff.1 hr
  cases resolvePeripherals_reorder distinct permuted
    (forall₂_of_resolvePeripherals Completed.isSound_nil hp) hp'
  exact Except.ok.inj (hr.symm.trans (derive_reorder_of_resolve distinct permuted hp hq hp'))

/-- No chain of references between the peripherals is over the limit. -/
def Device.HasShortChains (d : Device) : Prop :=
  ∀ name n p, ReferenceChain d.peripherals name n p → n ≤ derivationLimit

/-- A device of few peripherals has no chain over the limit, since a chain passes none twice. -/
theorem Device.hasShortChains_of_length_le (h : d.peripherals.length ≤ derivationLimit + 1) :
    d.HasShortChains :=
  fun _ _ _ chain => Nat.le_of_lt_succ (Nat.lt_of_lt_of_le chain.lt_length h)

/-- Without chains over the limit every other order is accepted too. -/
theorem Device.HasShortChains.derive_eq_ok (short : d.HasShortChains)
    (distinct : (d.peripherals.map (·.name)).Nodup)
    (permuted : order.Perm (List.range d.peripherals.length)) (h : d.derive = .ok d') :
    (d.reorder order).derive = .ok (d'.reorder order) := by
  obtain ⟨ps, qs, hp, hq, rfl⟩ := derive_eq_ok_iff.1 h
  refine derive_reorder_of_resolve distinct permuted hp hq
    (resolvePeripherals_eq_ok Completed.isSound_nil ?_)
  have chains := forall₂_of_resolvePeripherals Completed.isSound_nil hp
  rw [map_name_reorder]
  refine forall₂_select (chains.imp ?_) order
  rintro name q ⟨n, chain⟩
  exact ⟨n, short _ _ _ chain, (referenceChain_reorder_iff distinct permuted).2 chain⟩

/-- Without chains over the limit no other order is accepted alone. -/
theorem Device.HasShortChains.exists_derive (short : d.HasShortChains)
    (distinct : (d.peripherals.map (·.name)).Nodup)
    (permuted : order.Perm (List.range d.peripherals.length))
    (h : (d.reorder order).derive = .ok e) : ∃ d', d.derive = .ok d' := by
  obtain ⟨ps', qs', hp', hq', -⟩ := derive_eq_ok_iff.1 h
  have chains : ∀ name ∈ d.peripherals.map (·.name),
      ∃ q, ∃ n ≤ derivationLimit, ReferenceChain d.peripherals name n q := by
    intro name hn
    obtain ⟨q, -, n, chain⟩ := exists_of_mem_left
      (forall₂_of_resolvePeripherals Completed.isSound_nil hp')
      (((select_perm permuted).map _).mem_iff.2 hn)
    have chain := (referenceChain_reorder_iff distinct permuted).1 chain
    exact ⟨q, n, short _ _ _ chain, chain⟩
  obtain ⟨ps, completed⟩ := exists_forall₂ chains
  have hp := resolvePeripherals_eq_ok Completed.isSound_nil completed
  cases resolvePeripherals_reorder distinct permuted
    (completed.imp fun _ _ ⟨n, _, chain⟩ => ⟨n, chain⟩) hp'
  have names := map_name_of_resolvePeripherals hp
  have perm := select_perm (length_of_resolvePeripherals hp ▸ permuted)
  rw [completeInside_perm (names ▸ distinct) perm] at hq'
  obtain ⟨qs, inside⟩ := exists_forall₂ (R := fun p q => completeInside ps p = .ok q) fun p hp => by
    obtain ⟨q, -, hq⟩ := exists_of_mem_mapM hq' (perm.mem_iff.2 hp)
    exact ⟨q, hq⟩
  exact ⟨_, derive_eq_ok_iff.2 ⟨ps, qs, hp, mapM_eq_ok_iff.2 inside, rfl⟩⟩

/-- A device that is accepted in every order has no chain over the limit: the order that starts with
the last peripheral of a chain follows all of it. -/
theorem Device.hasShortChains_of_forall_derive (distinct : (d.peripherals.map (·.name)).Nodup)
    (h : ∀ order, order.Perm (List.range d.peripherals.length) →
      ∃ e, (d.reorder order).derive = .ok e) : d.HasShortChains := by
  intro name n p chain
  obtain ⟨own, found, -⟩ := chain.exists_peripheralNamed?
  obtain ⟨mem, rfl⟩ := peripheralNamed?_eq_some found
  obtain ⟨i, hi, rfl⟩ := List.getElem_of_mem mem
  have permuted : (i :: (List.range d.peripherals.length).erase i).Perm
      (List.range d.peripherals.length) := (List.perm_cons_erase (List.mem_range.2 hi)).symm
  obtain ⟨e, he⟩ := h _ permuted
  obtain ⟨ps, -, hp, -⟩ := derive_eq_ok_iff.1 he
  rw [map_name_reorder, select,
    List.filterMap_cons_some (b := d.peripherals[i].name) (by simp [hi])] at hp
  obtain ⟨result, followed, -⟩ := bind_eq_ok_iff.1 hp
  refine ((referenceChain_reorder_iff distinct permuted).2 chain).le_derivationLimit ?_
  rw [followed]
  rfl

end Reorder

/-- **Order of declaration.** Let the names of the peripherals be distinct. Without chains over the
limit every order is accepted or rejected as the declared one is, and the result is the declared
one's in that order. Whatever the chains, two orders that are both accepted have results that agree;
but a device that is accepted in every order has no chain over the limit. -/
theorem Device.derive_reorder {d : Device} (distinct : (d.peripherals.map (·.name)).Nodup) :
    (d.HasShortChains → ∀ order, order.Perm (List.range d.peripherals.length) →
      ((∃ e, (d.reorder order).derive = .ok e) ↔ ∃ d', d.derive = .ok d') ∧
      ∀ d', d.derive = .ok d' → (d.reorder order).derive = .ok (d'.reorder order)) ∧
    (∀ order, order.Perm (List.range d.peripherals.length) → ∀ d' e, d.derive = .ok d' →
      (d.reorder order).derive = .ok e → e = d'.reorder order) ∧
    ((∀ order, order.Perm (List.range d.peripherals.length) →
      ∃ e, (d.reorder order).derive = .ok e) → d.HasShortChains) := by
  refine ⟨fun short order permuted => ⟨⟨?_, ?_⟩, fun d' => short.derive_eq_ok distinct permuted⟩,
    fun order permuted d' e => eq_reorder_of_derive distinct permuted,
    hasShortChains_of_forall_derive distinct⟩
  · rintro ⟨e, he⟩
    exact short.exists_derive distinct permuted he
  · rintro ⟨d', h⟩
    exact ⟨_, short.derive_eq_ok distinct permuted h⟩

/-- A peripheral, derived from its base and the base from another. -/
def relay : Device where
  name := "BOARD"
  peripherals := [
    { name := "C", baseAddress := 0x200, derivedFrom := some "B" },
    { name := "B", baseAddress := 0x100, derivedFrom := some "A" },
    { name := "A", baseAddress := 0, registers := [{ name := "X", offset := 0 }] }]

theorem derive_reorder_relay : (relay.peripherals.map (·.name)).Nodup ∧ relay.HasShortChains ∧
    ∃ d', relay.derive = .ok d' ∧
      (relay.reorder [2, 0, 1]).derive = .ok (d'.reorder [2, 0, 1]) := by
  have distinct : (relay.peripherals.map (·.name)).Nodup := by decide
  have short : relay.HasShortChains := Device.hasShortChains_of_length_le (by decide)
  obtain ⟨same, -⟩ := Device.derive_reorder distinct
  exact ⟨distinct, short, _, rfl, (same short [2, 0, 1] (by decide)).2 _ rfl⟩

/-- Ten peripherals, each derived from the one before. -/
def ladder : Device where
  name := "BOARD"
  peripherals := [
    { name := "P0", baseAddress := 0x40000000, registers := [{ name := "CTRL", offset := 0 }] },
    { name := "P1", baseAddress := 0x40001000, derivedFrom := some "P0" },
    { name := "P2", baseAddress := 0x40002000, derivedFrom := some "P1" },
    { name := "P3", baseAddress := 0x40003000, derivedFrom := some "P2" },
    { name := "P4", baseAddress := 0x40004000, derivedFrom := some "P3" },
    { name := "P5", baseAddress := 0x40005000, derivedFrom := some "P4" },
    { name := "P6", baseAddress := 0x40006000, derivedFrom := some "P5" },
    { name := "P7", baseAddress := 0x40007000, derivedFrom := some "P6" },
    { name := "P8", baseAddress := 0x40008000, derivedFrom := some "P7" },
    { name := "P9", baseAddress := 0x40009000, derivedFrom := some "P8" }]

theorem not_forall_derive_reorder : ¬ ∀ (d : Device) (order : List Nat),
    (d.peripherals.map (·.name)).Nodup → order.Perm (List.range d.peripherals.length) →
      ((∃ e, (d.reorder order).derive = .ok e) ↔ ∃ d', d.derive = .ok d') := by
  intro h
  obtain ⟨e, he⟩ := (h ladder [9, 8, 7, 6, 5, 4, 3, 2, 1, 0] (by decide) (by decide)).2 ⟨_, rfl⟩
  have rejected : (ladder.reorder [9, 8, 7, 6, 5, 4, 3, 2, 1, 0]).derive =
      .error (.chainTooDeep "P0") := rfl
  cases rejected.symm.trans he

end RegisterMap
