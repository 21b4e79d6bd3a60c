import Mathlib.Data.List.Nodup
import Mathlib.Data.List.Perm.Subperm
import RegisterMap.Device.Derivation
import RegisterMap.Proofs.Outcome

/-!
# Chains of references between peripherals

The peripherals of a device are completed in order of declaration, and those completed already end
the chains of later ones. What a peripheral is completed to does not depend on that: it follows from
the chain of references that starts at its name.

## Main definitions

* `ReferenceChain` : the chain that starts at a name, its length and what it completes to.
* `Completed.IsSound` : a table of peripherals that are completed along their chains.
* `completeInside` : a peripheral with everything in it completed.

## Main results

* `ReferenceChain.unique` : a name starts one chain.
* `ReferenceChain.lt_length` : a chain passes no peripheral twice.
* `resolvePeripheral_sound`, `ReferenceChain.resolve` : chains within the budget are followed, and
  nothing else is returned.
* `ReferenceChain.le_derivationLimit` : with nothing completed already only chains within the limit
  are followed.
* `resolveContents_congr` : members are completed alike where references lead to the same.
* `Device.derive_eq_ok_iff` : the steps of a successful derivation.
-/

namespace RegisterMap

/-- The chain of references from the peripheral of a name ends after `n` references and completes
the peripheral to `p`, whatever the limit and the order of declaration. -/
inductive ReferenceChain (ps : List Peripheral) : String → Nat → Peripheral → Prop
  | root {name : String} {p : Peripheral} (found : peripheralNamed? ps name = some p)
      (own : nonemptyOr p.derivedFrom none = none) : ReferenceChain ps name 0 p
  | step {name reference : String} {n : Nat} {p base : Peripheral}
      (found : peripheralNamed? ps name = some p)
      (derived : nonemptyOr p.derivedFrom none = some reference)
      (rest : ReferenceChain ps reference n base) :
      ReferenceChain ps name (n + 1) (p.completedBy base)

section Chains

variable {ps qs : List Peripheral} {name : String} {names : List String} {n m budget : Nat}
  {p q : Peripheral} {done done' : Completed}

theorem Peripheral.contents_completedBy (p base : Peripheral) :
    (p.completedBy base).contents = if p.contents.isEmpty then base.contents else p.contents := by
  unfold completedBy
  cases p.contents.isEmpty <;> rfl

/-- Where names are distinct every peripheral is the one of its name. -/
theorem peripheralNamed?_eq_some_iff (distinct : (ps.map (·.name)).Nodup) {name : String}
    {p : Peripheral} : peripheralNamed? ps name = some p ↔ p ∈ ps ∧ p.name = name :=
  find?_reverse_eq_some_iff distinct

namespace ReferenceChain

/-- A name starts one chain. -/
theorem unique (h : ReferenceChain ps name n p) (h' : ReferenceChain ps name m q) :
    n = m ∧ p = q := by
  induction h generalizing m q with
  | root found own =>
    cases h' with
    | root found' _ => exact ⟨rfl, Option.some.inj (found.symm.trans found')⟩
    | step found' derived _ =>
      cases found.symm.trans found'
      cases own.symm.trans derived
  | step found derived _ ih =>
    cases h' with
    | root found' own =>
      cases found.symm.trans found'
      cases own.symm.trans derived
    | step found' derived' rest =>
      cases found.symm.trans found'
      cases derived.symm.trans derived'
      obtain ⟨rfl, rfl⟩ := ih rest
      exact ⟨rfl, rfl⟩

/-- The peripheral that a chain completes keeps its name and its repetition. -/
theorem exists_peripheralNamed? (h : ReferenceChain ps name n p) :
    ∃ own, peripheralNamed? ps name = some own ∧ own.name = p.name ∧
      own.repetition = p.repetition := by
  cases h with
  | root found _ => exact ⟨_, found, rfl, rfl⟩
  | step found _ _ => exact ⟨_, found, rfl, rfl⟩

theorem name_eq (h : ReferenceChain ps name n p) : p.name = name := by
  obtain ⟨own, found, same, -⟩ := h.exists_peripheralNamed?
  exact same ▸ (peripheralNamed?_eq_some found).2

/-- A completed peripheral refers to no other. -/
theorem derivedFrom_eq_none (h : ReferenceChain ps name n p) :
    nonemptyOr p.derivedFrom none = none := by
  cases h with
  | root _ own => exact own
  | step _ _ _ => rfl

/-- A chain depends only on which peripherals the names lead to. -/
theorem congr (same : ∀ name, peripheralNamed? qs name = peripheralNamed? ps name)
    (h : ReferenceChain ps name n p) : ReferenceChain qs name n p := by
  induction h with
  | root found own => exact .root ((same _).trans found) own
  | step found derived _ ih => exact .step ((same _).trans found) derived ih

/-- A chain passes different peripherals, since each starts a chain of another length. -/
theorem exists_names (h : ReferenceChain ps name n p) : ∃ names : List String,
    names.length = n + 1 ∧ names.Nodup ∧ ∀ passed ∈ names, passed ∈ ps.map (·.name) ∧
      ∃ m ≤ n, ∃ q, ReferenceChain ps passed m q := by
  induction h with
  | @root name p found own =>
    refine ⟨[name], rfl, List.nodup_singleton _, List.forall_mem_singleton.2 ⟨?_, 0, ?_⟩⟩
    · exact List.mem_map.2 ⟨p, peripheralNamed?_eq_some found⟩
    · exact ⟨Nat.le_refl _, p, .root found own⟩
  | @step name reference n p base found derived rest ih =>
    obtain ⟨names, length, distinct, passed⟩ := ih
    have whole := ReferenceChain.step found derived rest
    refine ⟨name :: names, congrArg Nat.succ length, List.nodup_cons.2 ⟨fun again => ?_, distinct⟩,
      List.forall_mem_cons.2 ⟨⟨?_, n + 1, Nat.le_refl _, _, whole⟩, fun other mem => ?_⟩⟩
    · obtain ⟨-, m, hm, q, shorter⟩ := passed name again
      obtain ⟨same, -⟩ := shorter.unique whole
      omega
    · exact List.mem_map.2 ⟨p, peripheralNamed?_eq_some found⟩
    · obtain ⟨named, m, hm, q, chain⟩ := passed other mem
      exact ⟨named, m, Nat.le_succ_of_le hm, q, chain⟩

/-- A chain has fewer references than there are peripherals. -/
theorem lt_length (h : ReferenceChain ps name n p) : n < ps.length := by
  obtain ⟨names, length, distinct, passed⟩ := h.exists_names
  have few := (List.subperm_of_subset distinct fun other mem => (passed other mem).1).length_le
  rw [length, List.length_map] at few
  exact few

end ReferenceChain

/-! ### Following a chain -/

/-- The peripherals of the table are completed along their chains. -/
def Completed.IsSound (ps : List Peripheral) (done : Completed) : Prop :=
  ∀ name p, done.lookup name = some p → ∃ n, ReferenceChain ps name n p

theorem Completed.isSound_nil : Completed.IsSound ps [] := fun _ _ h => nomatch h

theorem Completed.IsSound.cons (sound : Completed.IsSound ps done)
    (h : ReferenceChain ps name n p) : Completed.IsSound ps ((name, p) :: done) := by
  intro other q found
  rw [List.lookup_cons] at found
  split at found
  · next same =>
    cases eq_of_beq same
    cases found
    exact ⟨n, h⟩
  · exact sound other q found

/-- A peripheral is found in the table, needs no completion, or is completed by the next of its
chain, with one reference less to follow. -/
theorem resolvePeripheral_cases (h : resolvePeripheral ps budget name done = .ok (p, done')) :
    (done.lookup name = some p ∧ done' = done) ∨
    (done.lookup name = none ∧ 0 < budget ∧ peripheralNamed? ps name = some p ∧
      nonemptyOr p.derivedFrom none = none ∧ done' = (name, p) :: done) ∨
    ∃ rest own reference base done'', done.lookup name = none ∧ budget = rest + 1 ∧
      peripheralNamed? ps name = some own ∧
      nonemptyOr own.derivedFrom none = some reference ∧
      resolvePeripheral ps rest reference done = .ok (base, done'') ∧
      p = own.completedBy base ∧ done' = (name, p) :: done'' := by
  unfold resolvePeripheral at h
  split at h
  · next found =>
    cases h
    exact .inl ⟨found, rfl⟩
  · next fresh =>
    split at h
    · cases h
    · next rest =>
      split at h
      · cases h
      · next own found =>
        split at h
        · next own =>
          cases h
          exact .inr (.inl ⟨fresh, Nat.succ_pos _, found, own, rfl⟩)
        · next reference derived =>
          obtain ⟨⟨base, done''⟩, hbase, h⟩ := bind_eq_ok_iff.1 h
          cases h
          exact .inr (.inr ⟨rest, own, reference, base, done'', fresh, rfl, found, derived, hbase,
            rfl, rfl⟩)

/-- What is returned is completed along its chain, and so is all that the table holds then. -/
theorem resolvePeripheral_sound (sound : Completed.IsSound ps done)
    (h : resolvePeripheral ps budget name done = .ok (p, done')) :
    (∃ n, ReferenceChain ps name n p) ∧ Completed.IsSound ps done' := by
  induction budget generalizing name p done' with
  | zero =>
    rcases resolvePeripheral_cases h with ⟨found, rfl⟩ | ⟨-, none, -⟩ | ⟨_, _, _, _, _, -, none, -⟩
    · exact ⟨sound _ _ found, sound⟩
    · cases none
    · cases none
  | succ budget ih =>
    rcases resolvePeripheral_cases h with ⟨found, rfl⟩ | ⟨-, -, found, own, rfl⟩ |
      ⟨_, _, reference, base, done'', -, same, found, derived, hbase, rfl, rfl⟩
    · exact ⟨sound _ _ found, sound⟩
    · exact ⟨⟨0, .root found own⟩, sound.cons (.root found own)⟩
    · cases same
      obtain ⟨⟨n, rest⟩, sound'⟩ := ih hbase
      exact ⟨⟨n + 1, .step found derived rest⟩, sound'.cons (.step found derived rest)⟩

/-- A chain within the budget is followed. -/
theorem ReferenceChain.resolve (h : ReferenceChain ps name n p) (budget_gt : n < budget)
    (sound : Completed.IsSound ps done) :
    ∃ done', resolvePeripheral ps budget name done = .ok (p, done') := by
  induction h generalizing budget with
  | @root name p found own =>
    unfold resolvePeripheral
    obtain _ | budget := budget
    · cases budget_gt
    cases known : done.lookup name with
    | some q =>
      obtain ⟨m, chain⟩ := sound _ _ known
      obtain ⟨-, rfl⟩ := chain.unique (.root found own)
      exact ⟨done, rfl⟩
    | none => exact ⟨_, by simp only [found, own]; rfl⟩
  | @step name reference n p base found derived rest ih =>
    unfold resolvePeripheral
    obtain _ | budget := budget
    · cases budget_gt
    cases known : done.lookup name with
    | some q =>
      obtain ⟨m, chain⟩ := sound _ _ known
      obtain ⟨-, rfl⟩ := chain.unique (.step found derived rest)
      exact ⟨done, rfl⟩
    | none =>
      obtain ⟨done', hbase⟩ := ih (Nat.lt_of_succ_lt_succ budget_gt)
      exact ⟨_, by simp only [found, derived, hbase]; rfl⟩

/-- With nothing completed already only chains within the budget are followed. -/
theorem exists_chain_lt_of_resolvePeripheral
    (h : resolvePeripheral ps budget name [] = .ok (p, done')) :
    ∃ n < budget, ReferenceChain ps name n p := by
  induction budget generalizing name p done' with
  | zero =>
    rcases resolvePeripheral_cases h with ⟨found, -⟩ | ⟨-, none, -⟩ | ⟨_, _, _, _, _, -, none, -⟩
    · cases found
    · cases none
    · cases none
  | succ budget ih =>
    rcases resolvePeripheral_cases h with ⟨found, -⟩ | ⟨-, -, found, own, -⟩ |
      ⟨_, _, reference, base, done'', -, same, found, derived, hbase, rfl, -⟩
    · cases found
    · exact ⟨0, Nat.succ_pos _, .root found own⟩
    · cases same
      obtain ⟨n, hn, rest⟩ := ih hbase
      exact ⟨n + 1, Nat.succ_lt_succ hn, .step found derived rest⟩

/-- A chain that is followed with nothing completed already is within the limit. -/
theorem ReferenceChain.le_derivationLimit (h : ReferenceChain ps name n p)
    (accepted : (resolvePeripheral ps (derivationLimit + 1) name []).isOk) :
    n ≤ derivationLimit := by
  cases followed : resolvePeripheral ps (derivationLimit + 1) name [] with
  | error fault => rw [followed] at accepted; cases accepted
  | ok result =>
    obtain ⟨m, hm, chain⟩ := exists_chain_lt_of_resolvePeripheral followed
    obtain ⟨rfl, -⟩ := h.unique chain
    exact Nat.le_of_lt_succ hm

/-! ### All peripherals -/

/-- Every peripheral is completed along its chain. -/
theorem forall₂_of_resolvePeripherals (sound : Completed.IsSound ps done)
    (h : resolvePeripherals ps names done = .ok qs) :
    List.Forall₂ (fun name q => ∃ n, ReferenceChain ps name n q) names qs := by
  induction names generalizing done qs with
  | nil =>
    cases h
    exact .nil
  | cons name names ih =>
    obtain ⟨⟨q, done'⟩, hq, h⟩ := bind_eq_ok_iff.1 h
    obtain ⟨rest, hrest, h⟩ := bind_eq_ok_iff.1 h
    cases h
    obtain ⟨chain, sound'⟩ := resolvePeripheral_sound sound hq
    exact .cons chain (ih sound' hrest)

/-- Peripherals whose chains are within the limit are all completed. -/
theorem resolvePeripherals_eq_ok (sound : Completed.IsSound ps done)
    (h : List.Forall₂ (fun name q => ∃ n ≤ derivationLimit, ReferenceChain ps name n q) names qs) :
    resolvePeripherals ps names done = .ok qs := by
  induction h generalizing done with
  | nil => rfl
  | cons chain _ ih =>
    obtain ⟨n, hn, chain⟩ := chain
    obtain ⟨done', hq⟩ := chain.resolve (Nat.lt_succ_of_le hn) sound
    have sound' := (resolvePeripheral_sound sound hq).2
    exact bind_eq_ok_iff.2 ⟨_, hq, bind_eq_ok_iff.2 ⟨_, ih sound', rfl⟩⟩

/-- Completed peripherals keep their names. -/
theorem map_name_of_resolvePeripherals {names : List String}
    (h : resolvePeripherals ps names [] = .ok qs) : qs.map (·.name) = names := by
  have chains := forall₂_of_resolvePeripherals Completed.isSound_nil h
  have same : List.Forall₂ (· = ·) (qs.map (·.name)) names :=
    List.forall₂_map_left_iff.2 (chains.flip.imp fun _ _ ⟨_, chain⟩ => chain.name_eq)
  rwa [List.forall₂_eq_eq_eq] at same

theorem length_of_resolvePeripherals
    (h : resolvePeripherals ps (ps.map (·.name)) [] = .ok qs) : qs.length = ps.length := by
  rw [← List.length_map (·.name), map_name_of_resolvePeripherals h, List.length_map]

end Chains

/-! ### References between members -/

section Congruence

variable {ps qs : List Peripheral} (same : ∀ name,
  (peripheralNamed? qs name).map Peripheral.contents =
    (peripheralNamed? ps name).map Peripheral.contents)
include same

/-- Of the peripherals a reference looks at what they hold. -/
theorem findReference_congr (reference : String) (home : Contents) :
    findReference qs reference home = findReference ps reference home := by
  have descend : ∀ name names, ((peripheralNamed? qs name).bind fun p => p.contents.descend names) =
      (peripheralNamed? ps name).bind fun p => p.contents.descend names := by
    intro name names
    have inside := congrArg (Option.bind · fun c : Contents => c.descend names) (same name)
    rwa [Option.bind_map, Option.bind_map] at inside
  simp only [findReference, descend]

/-- Members are completed alike where names lead to peripherals that hold the same. -/
theorem resolveMember_congr (budget : Nat) :
    (∀ r home, resolveRegister qs budget r home = resolveRegister ps budget r home) ∧
      ∀ c home, resolveCluster qs budget c home = resolveCluster ps budget c home := by
  induction budget with
  | zero => exact ⟨fun r home => by unfold resolveRegister; rfl,
      fun c home => by unfold resolveCluster; rfl⟩
  | succ budget ih =>
    constructor
    · intro r home
      unfold resolveRegister
      simp only [findReference_congr same, ih.1, ih.2]
    · intro c home
      unfold resolveCluster
      simp only [findReference_congr same, ih.1, ih.2]

theorem resolveContents_congr (depth : Nat) (name : String) (home : Contents) :
    resolveContents qs depth name home = resolveContents ps depth name home := by
  induction depth generalizing name home with
  | zero => rfl
  | succ depth ih =>
    unfold resolveContents
    simp only [(resolveMember_congr same _).1, (resolveMember_congr same _).2, ih]

end Congruence

/-! ### Derivation of a device -/

/-- A peripheral with every member completed, at every depth. -/
def completeInside (ps : List Peripheral) (p : Peripheral) : Except Fault Peripheral := do
  let inner ← resolveContents ps (countClusters (ps.flatMap (·.clusters)) + 1) p.name p.contents
  pure { p with registers := inner.registers, clusters := inner.clusters }

/-- First all peripherals are completed along their chains, then all that is in them. -/
theorem Device.derive_eq (d : Device) : d.derive =
    resolvePeripherals d.peripherals (d.peripherals.map (·.name)) [] >>= fun ps =>
      ps.mapM (completeInside ps) >>= fun qs => .ok { d with peripherals := qs } := rfl

theorem Device.derive_eq_ok_iff {d d' : Device} : d.derive = .ok d' ↔
    ∃ ps qs, resolvePeripherals d.peripherals (d.peripherals.map (·.name)) [] = .ok ps ∧
      ps.mapM (completeInside ps) = .ok qs ∧ { d with peripherals := qs } = d' := by
  simp only [derive_eq, bind_eq_ok_iff, Except.ok.injEq, exists_and_left]

end RegisterMap
