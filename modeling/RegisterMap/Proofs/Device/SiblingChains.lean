import RegisterMap.Proofs.Device.ChainLengths
import RegisterMap.Proofs.Device.FlatDevices

/-!
# Chains of sibling registers

A register of a node may be derived from its sibling, that from another, and so on, in any order of
declaration. Where a device holds one such chain and nothing else in it is derived, only the length
of the chain decides whether the device is completed. A peripheral is looked at for the limit before
it is known to be underived, a register after that, so that a chain of registers may have one
reference more than a chain of peripherals.

## Main definitions

* `Contents.HoldsChain` : a node holds a chain of registers and nothing else that is derived.
* `Device.HoldsChain` : a device holds such a node and nothing else that is derived.

## Main results

* `failsOnlyFor_resolveContents` : where no clusters are derived only registers can fail.
* `Device.derive_chain` : the chains that are accepted, and what the others are rejected for.
-/

namespace RegisterMap

open Relation (ReflTransGen)

/-! ### Chains in a node -/

/-- Siblings of a node make a chain of `n` references: the first is not derived and each other is
derived from the one before it, by the name that only that one is found by. Nothing else in the node
is derived. -/
structure Contents.HoldsChain (home : Contents) (chain : Nat → Register) (n : Nat) : Prop where
  mem : ∀ k ≤ n, chain k ∈ home.registers
  root : (chain 0).derivedFrom = none
  link : ∀ k < n, (chain (k + 1)).derivedFrom = some (chain k).name
  found : ∀ k < n, home.find? (chain k).name = some (.register (chain k))
  undotted : ∀ k < n, '.' ∉ (chain k).name.toList
  others : ∀ m ∈ home.members, m.derivedFrom = none ∨ ∃ k ≤ n, m = .register (chain k)

section Chain

variable {ps : List Peripheral} {home : Contents} {chain : Nat → Register} {n k : Nat}

/-- A name without dots leads to a sibling. -/
theorem findReference_of_not_mem {name : String} {m : Member} (undotted : '.' ∉ name.toList)
    (found : home.find? name = some m) : findReference ps name home = .ok (m, home) := by
  refine findReference_eq_ok_iff.2 (.inr ⟨?_, Option.map_eq_some_iff.2 ⟨m, found, rfl⟩⟩)
  rw [List.splitOn_eq_singleton undotted]
  exact nofun

namespace Contents.HoldsChain

variable (holds : home.HoldsChain chain n)
include holds

theorem refersTo (hk : k < n) : RefersTo ps (home, chain (k + 1)) (home, chain k) :=
  ⟨(chain k).name, holds.link k hk,
    findReference_of_not_mem (holds.undotted k hk) (holds.found k hk)⟩

/-- Every register of the chain has as many references before it as its number says. -/
theorem chainLength (hk : k ≤ n) : ChainLength ps (home, chain k) k := by
  induction k with
  | zero => exact .own holds.root
  | succ k ih => exact .step (holds.refersTo hk) (ih (Nat.le_of_succ_le hk))

/-- References lead from a register of the chain to registers of the chain. -/
theorem exists_eq_of_reflTransGen (hk : k ≤ n) {b : Contents × Register}
    (path : ReflTransGen (RefersTo ps) (home, chain k) b) : ∃ l ≤ n, b = (home, chain l) := by
  induction path with
  | refl => exact ⟨k, hk, rfl⟩
  | tail _ refers ih =>
    obtain ⟨l, hl, rfl⟩ := ih
    cases l with
    | zero => exact absurd holds.root refers.derivedFrom_ne_none
    | succ l => exact ⟨l, Nat.le_of_succ_le hl, refers.unique (holds.refersTo hl)⟩

/-- A register of the node is completed, or a register of the chain is blamed for its length. -/
theorem failsOnlyFor_resolveRegister {r : Register} (hr : r ∈ home.registers) (budget : Nat) :
    FailsOnlyFor (fun fault => budget < n ∧ ∃ k ≤ n, fault = .chainTooDeep (chain k).name)
      (resolveRegister ps budget r home) := by
  rcases holds.others _ (Contents.register_mem_members.2 hr) with own | ⟨k, hk, same⟩
  · exact .of_eq_ok (resolveRegister_eq_self own)
  · cases same
    have length : ChainLength ps (home, chain k) k := holds.chainLength hk
    rcases Nat.lt_or_ge budget k with short | enough
    · obtain ⟨b, path, blamed⟩ := length.exists_fault short
      obtain ⟨l, hl, rfl⟩ := holds.exists_eq_of_reflTransGen hk path
      intro fault failed
      cases blamed.symm.trans failed
      exact ⟨Nat.lt_of_lt_of_le short hk, l, hl, rfl⟩
    · obtain ⟨r', resolved⟩ := length.resolve enough
      exact .of_eq_ok resolved

/-- A node that is completed holds no chain that is too long. -/
theorem le_of_completesTo {home' : Contents} (completed : home.CompletesTo ps home') :
    n ≤ derivationLimit + 1 := by
  obtain ⟨m, hm, chain⟩ := completed.exists_chainLength (holds.mem n (Nat.le_refl n))
  exact chain.unique (holds.chainLength (Nat.le_refl n)) ▸ hm

end Contents.HoldsChain

end Chain

/-! ### Faults of registers -/

/-- Where no clusters are derived only registers can fail. -/
theorem failsOnlyFor_resolveContents {P : Fault → Prop} {ps : List Peripheral} {depth : Nat}
    {name : String} {home : Contents} (deep : countClusters home.clusters < depth)
    (h : ∀ is below, home.inside? is = some below →
      (∀ c ∈ below.clusters, c.derivedFrom = none) ∧
        ∀ r ∈ below.registers,
          FailsOnlyFor P (resolveRegister ps (derivationLimit + 1) r below)) :
    FailsOnlyFor P (resolveContents ps depth name home) := by
  induction depth generalizing name home with
  | zero => cases deep
  | succ depth ih =>
    obtain ⟨clusters, registers⟩ := h [] home rfl
    refine (FailsOnlyFor.mapM registers).bind fun rs _ => (FailsOnlyFor.mapM fun c hc => ?_).bind
      fun cs _ => .of_eq_ok rfl
    rw [resolveCluster_eq_self (clusters c hc)]
    refine (ih ?_ fun is below found => ?_).bind fun inner _ => .of_eq_ok rfl
    · exact Nat.lt_of_lt_of_le (Contents.countClusters_lt hc) (Nat.le_of_lt_succ deep)
    · obtain ⟨k, hk⟩ := List.mem_iff_getElem?.1 hc
      exact h (k :: is) below (Contents.inside?_cons_eq_some_iff.2 ⟨c, hk, found⟩)

theorem failsOnlyFor_completeInside {P : Fault → Prop} {ps : List Peripheral} {p : Peripheral}
    (hp : p ∈ ps) (h : ∀ is below, p.contents.inside? is = some below →
      (∀ c ∈ below.clusters, c.derivedFrom = none) ∧
        ∀ r ∈ below.registers,
          FailsOnlyFor P (resolveRegister ps (derivationLimit + 1) r below)) :
    FailsOnlyFor P (completeInside ps p) :=
  (failsOnlyFor_resolveContents (countClusters_lt_of_mem hp) h).bind fun _ _ => .of_eq_ok rfl

/-! ### Chains in a device -/

/-- The node at some positions of a device holds a chain, and nothing else in the device is
derived. -/
structure Device.HoldsChain (d : Device) (i : Nat) (is : List Nat) (chain : Nat → Register)
    (n : Nat) : Prop where
  inside : ∃ home, d.inside? i is = some home ∧ home.HoldsChain chain n
  peripherals : ∀ p ∈ d.peripherals, nonemptyOr p.derivedFrom none = none
  elsewhere : ∀ j js below, d.inside? j js = some below → (j, js) ≠ (i, is) →
    ∀ m ∈ below.members, m.derivedFrom = none

section Derivation

variable {d d' : Device} {i : Nat} {is : List Nat} {chain : Nat → Register} {n : Nat}
  {p : Peripheral}

/-- Where no peripheral is derived each name stands for the last peripheral that has it. -/
theorem exists_resolvePeripherals
    (own : ∀ p ∈ d.peripherals, nonemptyOr p.derivedFrom none = none) :
    ∃ ps, resolvePeripherals d.peripherals (d.peripherals.map (·.name)) [] = .ok ps ∧
      List.Forall₂ (fun p q => peripheralNamed? d.peripherals p.name = some q)
        d.peripherals ps := by
  have named : ∀ p ∈ d.peripherals, ∃ q, peripheralNamed? d.peripherals p.name = some q := by
    intro p hp
    refine Option.isSome_iff_exists.1 (List.find?_isSome.2 ⟨p, List.mem_reverse.2 hp, ?_⟩)
    exact beq_self_eq_true p.name
  obtain ⟨ps, hps⟩ := exists_forall₂ named
  refine ⟨ps, resolvePeripherals_eq_ok Completed.isSound_nil ?_, hps⟩
  refine List.forall₂_map_left_iff.2 (hps.imp fun p q found => ⟨0, Nat.zero_le _, .root found ?_⟩)
  exact own q (peripheralNamed?_eq_some found).1

namespace Device.HoldsChain

variable (holds : d.HoldsChain i is chain n) (hp : d.peripherals[i]? = some p)
include holds hp

/-- A device that is completed holds no chain that is too long in a peripheral that its name stands
for. -/
theorem le_of_derive (derived : d.derive = .ok d')
    (last : peripheralNamed? d.peripherals p.name = some p) : n ≤ derivationLimit + 1 := by
  obtain ⟨home, found, siblings⟩ := holds.inside
  obtain ⟨ps, resolved, named⟩ := exists_resolvePeripherals holds.peripherals
  obtain ⟨ps', qs, resolved', completed, -⟩ := derive_eq_ok_iff.1 derived
  cases resolved.symm.trans resolved'
  obtain ⟨own, hown, path⟩ := inside?_eq_some_iff.1 found
  cases hp.symm.trans hown
  obtain ⟨q, hq, stands⟩ := exists_getElem?_of_forall₂ named hp
  cases last.symm.trans stands
  obtain ⟨p', -, inside⟩ := exists_of_mem_mapM completed (List.mem_of_getElem? hq)
  have layout := Contents.isEmpty_eq_false_of_mem (siblings.mem 0 (Nat.zero_le n))
  obtain ⟨home', -, whole⟩ := (completeInside_eq_ok inside).2.inside path layout
  exact siblings.le_of_completesTo whole

/-- If completing the device fails, then for the length of the chain, which stands in a peripheral
that its name stands for. -/
theorem failsOnlyFor_derive :
    FailsOnlyFor (fun fault => peripheralNamed? d.peripherals p.name = some p ∧
      derivationLimit + 1 < n ∧ ∃ k ≤ n, fault = .chainTooDeep (chain k).name) d.derive := by
  obtain ⟨home, found, siblings⟩ := holds.inside
  obtain ⟨ps, resolved, named⟩ := exists_resolvePeripherals holds.peripherals
  rw [derive_eq, resolved]
  refine (FailsOnlyFor.mapM fun q hq => failsOnlyFor_completeInside hq fun js below path => ?_).bind
    fun qs _ => .of_eq_ok rfl
  obtain ⟨declared, -, stands⟩ := exists_of_mem_right named hq
  obtain ⟨mem, same⟩ := peripheralNamed?_eq_some stands
  obtain ⟨j, hj⟩ := List.mem_iff_getElem?.1 mem
  have here : d.inside? j js = some below := inside?_eq_some_iff.2 ⟨q, hj, path⟩
  by_cases position : (j, js) = (i, is)
  · obtain ⟨rfl, rfl⟩ := Prod.mk.inj position
    cases found.symm.trans here
    cases hp.symm.trans hj
    refine ⟨fun c hc => ?_, fun r hr fault failed => ?_⟩
    · rcases siblings.others _ (Contents.cluster_mem_members.2 hc) with own | ⟨_, _, same⟩
      · exact own
      · cases same
    · exact ⟨same ▸ stands, siblings.failsOnlyFor_resolveRegister hr _ fault failed⟩
  · obtain ⟨registers, clusters⟩ :=
      Contents.forall_mem_members.1 (holds.elsewhere j js below here position)
    exact ⟨clusters, fun r hr => .of_eq_ok (resolveRegister_eq_self (registers r hr))⟩

end Device.HoldsChain

/-- **Chains of siblings.** Let a device hold a chain of `n` references between the registers of one
of its nodes, and no other reference. The device is completed exactly when the chain has at most one
reference more than the limit, or another peripheral has taken the name of the one that holds it;
else the chain is rejected as too deep at one of its registers. -/
theorem Device.derive_chain (holds : d.HoldsChain i is chain n) (hp : d.peripherals[i]? = some p) :
    ((∃ d', d.derive = .ok d') ↔
      (peripheralNamed? d.peripherals p.name = some p → n ≤ derivationLimit + 1)) ∧
    ∀ fault, d.derive = .error fault → ∃ k ≤ n, fault = .chainTooDeep (chain k).name := by
  have blamed := holds.failsOnlyFor_derive hp
  refine ⟨⟨fun ⟨d', derived⟩ => holds.le_of_derive hp derived, fun short => ?_⟩,
    fun fault failed => (blamed fault failed).2.2⟩
  cases outcome : d.derive with
  | ok d' => exact ⟨d', rfl⟩
  | error fault =>
    obtain ⟨last, long, -⟩ := blamed fault outcome
    exact absurd (short last) (Nat.not_le_of_gt long)

end Derivation

/-! ### Chains of any length -/

/-- A register that is derived from the one whose name is a letter shorter. -/
def stair (k : Nat) : Register where
  name := String.ofList ('R' :: List.replicate k 'I')
  offset := 4 * k
  derivedFrom := if k = 0 then none else some (String.ofList ('R' :: List.replicate (k - 1) 'I'))

/-- A port with a chain of `n` references, derived registers before those they are derived from. -/
def staircase (n : Nat) : Device where
  name := "BOARD"
  peripherals := [
    { name := "PORT", baseAddress := 0x1000
      registers := ((List.range (n + 1)).map stair).reverse }]

theorem name_stair_injective : Function.Injective fun k => (stair k).name := by
  intro k l same
  simpa [stair] using congrArg String.length same

theorem holdsChain_stairs (n : Nat) :
    Contents.HoldsChain ⟨((List.range (n + 1)).map stair).reverse, []⟩ stair n where
  mem k hk := by
    rw [List.mem_reverse, List.mem_map]
    exact ⟨k, List.mem_range.2 (Nat.lt_succ_of_le hk), rfl⟩
  root := rfl
  link _ _ := rfl
  found k hk := by
    have distinct : (((List.range (n + 1)).map stair).map (·.name)).Nodup := by
      rw [List.map_map]
      exact List.nodup_range.map name_stair_injective
    have mem : stair k ∈ (List.range (n + 1)).map stair :=
      List.mem_map_of_mem (List.mem_range.2 (Nat.lt_succ_of_lt hk))
    have found := (find?_reverse_eq_some_iff distinct).2 ⟨mem, rfl⟩
    rw [Contents.find?, Contents.members, List.map_nil, List.append_nil, List.find?_map]
    exact Option.map_eq_some_iff.2 ⟨stair k, found, rfl⟩
  undotted k _ := by simp [stair]
  others m hm := by
    rcases Contents.mem_members.1 hm with ⟨r, hr, rfl⟩ | ⟨c, hc, -⟩
    · obtain ⟨k, hk, rfl⟩ := List.mem_map.1 (List.mem_reverse.1 hr)
      exact .inr ⟨k, Nat.le_of_lt_succ (List.mem_range.1 hk), rfl⟩
    · cases hc

theorem holdsChain_staircase (n : Nat) : (staircase n).HoldsChain 0 [] stair n where
  inside := ⟨_, rfl, holdsChain_stairs n⟩
  peripherals := List.forall_mem_singleton.2 rfl
  elsewhere j js below found other := by
    obtain ⟨p, hp, path⟩ := Device.inside?_eq_some_iff.1 found
    obtain _ | j := j
    · cases hp
      obtain _ | ⟨k, ks⟩ := js
      · exact absurd rfl other
      · obtain ⟨c, hc, -⟩ := Contents.inside?_cons_eq_some_iff.1 path
        cases hc
    · cases hp

/-- A chain of nine references is accepted and one of ten is not. -/
theorem derive_chain_staircase :
    ((staircase 9).HoldsChain 0 [] stair 9 ∧ ∃ d', (staircase 9).derive = .ok d') ∧
      (staircase 10).HoldsChain 0 [] stair 10 ∧
        ∃ k ≤ 10, (staircase 10).derive = .error (.chainTooDeep (stair k).name) := by
  obtain ⟨accepted, -⟩ := Device.derive_chain (holdsChain_staircase 9) rfl
  obtain ⟨rejected, blamed⟩ := Device.derive_chain (holdsChain_staircase 10) rfl
  refine ⟨⟨holdsChain_staircase 9, accepted.2 fun _ => by decide⟩, holdsChain_staircase 10, ?_⟩
  cases outcome : (staircase 10).derive with
  | ok d' => exact absurd (rejected.1 ⟨d', outcome⟩ rfl) (by decide)
  | error fault =>
    obtain ⟨k, hk, rfl⟩ := blamed fault outcome
    exact ⟨k, hk, rfl⟩

/-- Chains are not rejected exactly when they have more references than the limit. -/
theorem not_forall_derive_chain_iff : ¬∀ (d : Device) (i : Nat) (is : List Nat)
    (chain : Nat → Register) (n : Nat), (d.peripherals.map (·.name)).Nodup →
      d.HoldsChain i is chain n →
      ((∃ fault, d.derive = .error fault ∧ fault.kind = .model) ↔ derivationLimit < n) := by
  intro h
  obtain ⟨fault, failed, -⟩ := (h (staircase 9) 0 [] stair 9 (by decide) (holdsChain_staircase 9)).2
    (by decide)
  have accepted : (staircase 9).derive.isOk := by decide +kernel
  rw [failed] at accepted
  cases accepted

end RegisterMap
