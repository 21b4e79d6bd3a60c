import RegisterMap.Proofs.Device.ChainLengths

/-!
# Devices without one of their references

Let one register of a peripheral lose its reference, and nothing else change. Then every reference
leads to the same member as before, since names stay, and whatever is completed in the device
without the reference is completed in the other device too, but for registers whose chain comes to
the register that has lost its reference.

Contents are matched by value. A peripheral that is derived from the changed one may have taken over
its contents, and another may happen to hold the same as the changed one did.

## Main definitions

* `Device.withoutReference` : the device in which one register is not derived.
* `Contents.Matches`, `TargetMatches`, `Peripheral.Matches` : what is the same in both devices but
  for that register.

## Main results

* `resolvePeripherals_agree`, `exists_findReference_of_matches`, `resolveCluster_of_matches` :
  peripherals, references and clusters do not depend on the reference.
* `ChainLength.of_matches` : a chain is the same, or comes to the register without its reference.
* `exists_mapM_completeInside_of_matches` : what is completed without the reference is completed
  with it, if all registers are.
-/

namespace RegisterMap

open Relation (ReflTransGen)

/-- The register without its reference. -/
def Register.underived (r : Register) : Register := { r with derivedFrom := none }

/-- The contents in which the register at a position is not derived. -/
def Contents.withoutReference (j : Nat) (home : Contents) : Contents :=
  { home with registers := home.registers.modify j Register.underived }

/-- The peripheral in which the register at a position is not derived. -/
def Peripheral.withoutReference (j : Nat) (p : Peripheral) : Peripheral :=
  { p with registers := p.registers.modify j Register.underived }

/-- The device in which the register at a position of a peripheral is not derived. -/
def Device.withoutReference (d : Device) (i j : Nat) : Device :=
  { d with peripherals := d.peripherals.modify i (·.withoutReference j) }

/-! ### What is the same in both devices -/

/-- Two nodes hold the same, or the one is the whole node and the other that without a reference. -/
inductive Contents.Matches (whole : Contents) (j : Nat) : Contents → Contents → Prop
  | same (home : Contents) : whole.Matches j home home
  | bare : whole.Matches j whole (whole.withoutReference j)

/-- Two members in matching nodes are the same, or the one is the register that has lost its
reference in the other. -/
inductive TargetMatches (whole : Contents) (j : Nat) (m : Register) :
    Member × Contents → Member × Contents → Prop
  | same {home home₀ : Contents} (homes : whole.Matches j home home₀) (t : Member) :
      TargetMatches whole j m (t, home) (t, home₀)
  | bare : TargetMatches whole j m (.register m, whole)
      (.register m.underived, whole.withoutReference j)

/-- Two peripherals have one name and refer to one base, and they hold matching contents. -/
structure Peripheral.Matches (whole : Contents) (j : Nat) (p p₀ : Peripheral) : Prop where
  name : p.name = p₀.name
  derivedFrom : p.derivedFrom = p₀.derivedFrom
  contents : whole.Matches j p.contents p₀.contents

section Matches

variable {whole home home₀ : Contents} {j : Nat} {m : Register} {p p₀ base base₀ : Peripheral}
  {ps ps₀ : List Peripheral}

namespace Contents.Matches

theorem clusters_eq (h : whole.Matches j home home₀) : home.clusters = home₀.clusters := by
  cases h <;> rfl

theorem isEmpty_eq (h : whole.Matches j home home₀) : home.isEmpty = home₀.isEmpty := by
  cases h with
  | same => rfl
  | bare =>
    have registers : (whole.registers.modify j Register.underived).isEmpty =
        whole.registers.isEmpty := by
      cases whole.registers <;> cases j <;> rfl
    exact congrArg (· && whole.clusters.isEmpty) registers.symm

/-- Members of matching nodes match one by one. -/
theorem forall₂_members (hm : whole.registers[j]? = some m) (h : whole.Matches j home home₀) :
    List.Forall₂ (fun t t₀ => TargetMatches whole j m (t, home) (t₀, home₀))
      home.members home₀.members := by
  cases h with
  | same => exact List.forall₂_same.2 fun t _ => .same (.same home) t
  | bare =>
    refine List.rel_append ?_ (List.forall₂_same.2 fun t _ => .same .bare t)
    rw [List.forall₂_map_left_iff, List.forall₂_map_right_iff]
    refine forall₂_modify (fun r => .same .bare (.register r)) fun r hr => ?_
    cases hm.symm.trans hr
    exact .bare

end Contents.Matches

theorem TargetMatches.name_eq {t t₀ : Member × Contents} (h : TargetMatches whole j m t t₀) :
    t.1.name = t₀.1.name := by
  cases h <;> rfl

theorem TargetMatches.exists_register {t : Member × Contents} {r₀ : Register}
    (h : TargetMatches whole j m t (.register r₀, home₀)) : ∃ r home, t = (.register r, home) := by
  cases h <;> exact ⟨_, _, rfl⟩

/-- What matches a register is the same register, or the one that has lost its reference. -/
theorem TargetMatches.register_cases {r r₀ : Register}
    (h : TargetMatches whole j m (.register r, home) (.register r₀, home₀)) :
    r = r₀ ∧ whole.Matches j home home₀ ∨ r = m ∧ home = whole := by
  cases h with
  | same homes _ => exact .inl ⟨rfl, homes⟩
  | bare => exact .inr ⟨rfl, rfl⟩

/-! ### References -/

section References

variable (hm : whole.registers[j]? = some m)
include hm

theorem exists_find?_of_matches (homes : whole.Matches j home home₀) {name : String} {t₀ : Member}
    (found : home₀.find? name = some t₀) :
    ∃ t, home.find? name = some t ∧ TargetMatches whole j m (t, home) (t₀, home₀) :=
  exists_find?_of_forall₂ (R := fun t₀ t => TargetMatches whole j m (t, home) (t₀, home₀))
    (homes.forall₂_members hm).flip (fun t₀ t same => by rw [same.name_eq]) found

/-- A name leads to the same cluster. -/
theorem find?_cluster_of_matches (homes : whole.Matches j home home₀) {name : String} {c : Cluster}
    (found : home₀.find? name = some (.cluster c)) : home.find? name = some (.cluster c) := by
  obtain ⟨t, ht, target⟩ := exists_find?_of_matches hm homes found
  cases target
  exact ht

/-- A path leads to the same member. -/
theorem exists_descend_of_matches (homes : whole.Matches j home home₀) {names : List String}
    {t₀ : Member × Contents} (found : home₀.descend names = some t₀) :
    ∃ t, home.descend names = some t ∧ TargetMatches whole j m t t₀ := by
  obtain _ | ⟨name, _ | ⟨next, names⟩⟩ := names
  · cases found
  · obtain ⟨_, hfound, rfl⟩ := Option.map_eq_some_iff.1 found
    obtain ⟨t, ht, target⟩ := exists_find?_of_matches hm homes hfound
    exact ⟨(t, home), Option.map_eq_some_iff.2 ⟨t, ht, rfl⟩, target⟩
  · obtain ⟨c, hc, rest⟩ := Contents.descend_cons_cons_eq_some_iff.1 found
    have same := find?_cluster_of_matches hm homes hc
    exact ⟨t₀, Contents.descend_cons_cons_eq_some_iff.2 ⟨c, same, rest⟩, .same (.same _) _⟩

variable (peripherals : List.Forall₂ (Peripheral.Matches whole j) ps ps₀)
include peripherals

omit hm in
theorem rel_peripheralNamed?_of_matches (name : String) :
    Option.Rel (Peripheral.Matches whole j) (peripheralNamed? ps name)
      (peripheralNamed? ps₀ name) :=
  rel_find?_of_forall₂ (List.forall₂_reverse_iff.2 peripherals) fun p p₀ same => by rw [same.name]

/-- A reference leads to the same member. -/
theorem exists_findReference_of_matches (homes : whole.Matches j home home₀) {reference : String}
    {t₀ : Member × Contents} (found : findReference ps₀ reference home₀ = .ok t₀) :
    ∃ t, findReference ps reference home = .ok t ∧ TargetMatches whole j m t t₀ := by
  rcases findReference_eq_ok_iff.1 found with
    ⟨head, part, parts, split, p₀, hp₀, path⟩ | ⟨plain, path⟩
  · have named := rel_peripheralNamed?_of_matches peripherals (String.ofList head)
    rw [hp₀] at named
    obtain ⟨p, hp, same⟩ := exists_eq_some_of_rel named
    obtain ⟨t, path, target⟩ := exists_descend_of_matches hm same.contents path
    exact ⟨t, findReference_eq_ok_iff.2 (.inl ⟨head, part, parts, split, p, hp, path⟩), target⟩
  · obtain ⟨t, path, target⟩ := exists_descend_of_matches hm homes path
    exact ⟨t, findReference_eq_ok_iff.2 (.inr ⟨plain, path⟩), target⟩

/-- A cluster is completed to the same. -/
theorem resolveCluster_of_matches (homes : whole.Matches j home home₀) {budget : Nat}
    {c c' : Cluster} (resolved : resolveCluster ps₀ budget c home₀ = .ok c') :
    resolveCluster ps budget c home = .ok c' := by
  induction budget generalizing c c' home home₀ with
  | zero =>
    unfold resolveCluster at resolved ⊢
    exact resolved
  | succ budget ih =>
    unfold resolveCluster at resolved ⊢
    split at resolved
    · exact resolved
    · next reference derived =>
      obtain ⟨t₀, found₀, resolved⟩ := bind_eq_ok_iff.1 resolved
      obtain ⟨t, found, target⟩ := exists_findReference_of_matches hm peripherals homes found₀
      refine bind_eq_ok_iff.2 ⟨t, found, ?_⟩
      cases target with
      | @same below below₀ homes t =>
        cases t with
        | register r =>
          obtain ⟨_, _, resolved⟩ := bind_eq_ok_iff.1 resolved
          cases resolved
        | cluster base =>
          obtain ⟨base', hbase, resolved⟩ := bind_eq_ok_iff.1 resolved
          exact bind_eq_ok_iff.2 ⟨base', ih homes hbase, resolved⟩
      | bare =>
        obtain ⟨_, _, resolved⟩ := bind_eq_ok_iff.1 resolved
        cases resolved

/-- A chain is the same, or comes to the register that has lost its reference. -/
theorem ChainLength.of_matches {a₀ : Contents × Register} {n : Nat} (h : ChainLength ps₀ a₀ n)
    {r : Register}
    (same : TargetMatches whole j m (.register r, home) (.register a₀.2, a₀.1)) :
    (∃ n, ChainLength ps (home, r) n) ∨ ReflTransGen (RefersTo ps) (home, r) (whole, m) := by
  induction h generalizing home r with
  | own own =>
    rcases same.register_cases with ⟨rfl, -⟩ | ⟨rfl, rfl⟩
    · exact .inl ⟨0, .own own⟩
    · exact .inr .refl
  | step refers _ ih =>
    rcases same.register_cases with ⟨rfl, homes⟩ | ⟨rfl, rfl⟩
    · obtain ⟨reference, derived, found₀⟩ := refers
      obtain ⟨t, found, target⟩ := exists_findReference_of_matches hm peripherals homes found₀
      obtain ⟨base, below, rfl⟩ := target.exists_register
      rcases ih target with ⟨n, rest⟩ | path
      · exact .inl ⟨n + 1, .step ⟨reference, derived, found⟩ rest⟩
      · exact .inr (.head ⟨reference, derived, found⟩ path)
    · exact .inr .refl

end References

/-! ### Peripherals -/

/-- Completed by matching bases, matching peripherals match. -/
theorem Peripheral.Matches.completedBy (h : Peripheral.Matches whole j p p₀)
    (hbase : Peripheral.Matches whole j base base₀) :
    Peripheral.Matches whole j (p.completedBy base) (p₀.completedBy base₀) where
  name := h.name
  derivedFrom := rfl
  contents := by
    rw [contents_completedBy, contents_completedBy, h.contents.isEmpty_eq]
    split
    · exact hbase.contents
    · exact h.contents

/-- Two tables hold matching peripherals under the same names. -/
def Completed.Matches (whole : Contents) (j : Nat) : Completed → Completed → Prop :=
  List.Forall₂ fun e e₀ => e.1 = e₀.1 ∧ Peripheral.Matches whole j e.2 e₀.2

theorem Completed.Matches.rel_lookup {done done₀ : Completed} (h : done.Matches whole j done₀)
    (name : String) :
    Option.Rel (Peripheral.Matches whole j) (done.lookup name) (done₀.lookup name) := by
  induction h with
  | nil => exact .none
  | @cons e e₀ _ _ same _ ih =>
    rw [List.lookup_cons, List.lookup_cons, same.1]
    cases name == e₀.1 with
    | true => exact .some same.2
    | false => exact ih

section Resolution

variable (peripherals : List.Forall₂ (Peripheral.Matches whole j) ps ps₀)
include peripherals

/-- Chains of references between peripherals are followed alike. -/
theorem resolvePeripheral_agree (budget : Nat) (name : String) {done done₀ : Completed}
    (tables : done.Matches whole j done₀) :
    AgreeUnless (fun _ => False)
      (fun x x₀ => Peripheral.Matches whole j x.1 x₀.1 ∧ Completed.Matches whole j x.2 x₀.2)
      (resolvePeripheral ps budget name done) (resolvePeripheral ps₀ budget name done₀) := by
  induction budget generalizing name done done₀ with
  | zero =>
    unfold resolvePeripheral
    have known := tables.rel_lookup name
    generalize done.lookup name = x, done₀.lookup name = x₀ at known ⊢
    cases known with
    | none => exact .error _
    | some same => exact .ok ⟨same, tables⟩
  | succ budget ih =>
    unfold resolvePeripheral
    have known := tables.rel_lookup name
    generalize done.lookup name = x, done₀.lookup name = x₀ at known ⊢
    cases known with
    | some same => exact .ok ⟨same, tables⟩
    | none =>
      have named := rel_peripheralNamed?_of_matches peripherals name
      generalize peripheralNamed? ps name = x, peripheralNamed? ps₀ name = x₀ at named ⊢
      cases named with
      | none => exact .error _
      | @some p p₀ same =>
        dsimp only
        rw [same.derivedFrom]
        cases nonemptyOr p₀.derivedFrom none with
        | none => exact .ok ⟨same, .cons ⟨rfl, same⟩ tables⟩
        | some reference =>
          refine (ih reference tables).bind fun x x₀ base => ?_
          have completed := same.completedBy base.1
          exact .ok ⟨completed, .cons ⟨rfl, completed⟩ base.2⟩

theorem resolvePeripherals_agree (names : List String) {done done₀ : Completed}
    (tables : done.Matches whole j done₀) :
    AgreeUnless (fun _ => False) (List.Forall₂ (Peripheral.Matches whole j))
      (resolvePeripherals ps names done) (resolvePeripherals ps₀ names done₀) := by
  induction names generalizing done done₀ with
  | nil => exact .ok .nil
  | cons name names ih =>
    exact (resolvePeripheral_agree peripherals _ name tables).bind fun x x₀ first =>
      (ih first.2).bind fun rest rest₀ same => .ok (.cons first.1 same)

end Resolution

/-! ### Nodes -/

/-- Clusters at the same positions hold the same in matching nodes. -/
theorem Contents.Matches.exists_inside? (homes : whole.Matches j home home₀) {is : List Nat}
    {below : Contents} (found : home.inside? is = some below) :
    ∃ below₀, home₀.inside? is = some below₀ ∧ whole.Matches j below below₀ := by
  cases is with
  | nil =>
    cases found
    exact ⟨home₀, rfl, homes⟩
  | cons i is =>
    obtain ⟨c, hc, rest⟩ := inside?_cons_eq_some_iff.1 found
    rw [homes.clusters_eq] at hc
    exact ⟨below, inside?_cons_eq_some_iff.2 ⟨c, hc, rest⟩, .same below⟩

theorem Device.Declares.exists_matches {d d₀ : Device} (h : d.Declares home)
    (peripherals : List.Forall₂ (Peripheral.Matches whole j) d.peripherals d₀.peripherals) :
    ∃ home₀, d₀.Declares home₀ ∧ whole.Matches j home home₀ := by
  obtain ⟨i, is, found⟩ := h
  obtain ⟨p, hp, path⟩ := inside?_eq_some_iff.1 found
  obtain ⟨p₀, hp₀, same⟩ := exists_getElem?_of_forall₂ peripherals hp
  obtain ⟨home₀, path₀, homes⟩ := same.contents.exists_inside? path
  exact ⟨home₀, ⟨i, is, inside?_eq_some_iff.2 ⟨p₀, hp₀, path₀⟩⟩, homes⟩

section Completion

variable {d : Device} (hm : whole.registers[j]? = some m)
  (peripherals : List.Forall₂ (Peripheral.Matches whole j) ps ps₀)
  (declared : ∀ p ∈ ps, d.Declares p.contents)
  (registers : ∀ home, d.Declares home → ∀ r ∈ home.registers,
    ∃ r', resolveRegister ps (derivationLimit + 1) r home = .ok r')
include hm peripherals declared registers

/-- What is completed without the reference is completed, if the registers are. -/
theorem exists_resolveContents_of_matches {depth : Nat} {name : String} {home₀' : Contents}
    (h : d.Declares home) (homes : whole.Matches j home home₀)
    (resolved : resolveContents ps₀ depth name home₀ = .ok home₀') :
    ∃ home', resolveContents ps depth name home = .ok home' := by
  induction depth generalizing name home home₀ home₀' with
  | zero => cases resolved
  | succ depth ih =>
    obtain ⟨_, _, resolved⟩ := bind_eq_ok_iff.1 resolved
    obtain ⟨_, clusters₀, _⟩ := bind_eq_ok_iff.1 resolved
    obtain ⟨rs, hrs⟩ := exists_mapM (registers home h)
    have clusters : ∀ c ∈ home.clusters, ∃ c' : Cluster, (do
        let c ← resolveCluster ps (derivationLimit + 1) c home
        let inner ← resolveContents ps depth c.name c.contents
        pure { c with registers := inner.registers, clusters := inner.clusters }) = .ok c' := by
      intro c hc
      obtain ⟨_, -, made⟩ := exists_of_mem_mapM clusters₀ (homes.clusters_eq ▸ hc)
      obtain ⟨c', hc', made⟩ := bind_eq_ok_iff.1 made
      obtain ⟨_, inner₀, _⟩ := bind_eq_ok_iff.1 made
      have completed := resolveCluster_of_matches hm peripherals homes hc'
      have below := (resolveCluster_sound completed).declares declared h hc
      obtain ⟨inner, inside⟩ := ih below (.same _) inner₀
      exact ⟨_, bind_eq_ok_iff.2 ⟨c', completed, bind_eq_ok_iff.2 ⟨inner, inside, rfl⟩⟩⟩
    obtain ⟨cs, hcs⟩ := exists_mapM clusters
    exact ⟨⟨rs, cs⟩, bind_eq_ok_iff.2 ⟨rs, hrs, bind_eq_ok_iff.2 ⟨cs, hcs, rfl⟩⟩⟩

theorem exists_mapM_completeInside_of_matches {qs₀ : List Peripheral}
    (inside : ps₀.mapM (completeInside ps₀) = .ok qs₀) :
    ∃ qs, ps.mapM (completeInside ps) = .ok qs := by
  refine exists_mapM fun p hp => ?_
  obtain ⟨p₀, hp₀, same⟩ := exists_of_mem_left peripherals hp
  obtain ⟨_, -, completed⟩ := exists_of_mem_mapM inside hp₀
  obtain ⟨_, inner₀, -⟩ := bind_eq_ok_iff.1 completed
  have count : ps.flatMap (·.clusters) = ps₀.flatMap (·.clusters) := by
    rw [List.flatMap_def, List.flatMap_def]
    exact congrArg List.flatten
      (map_eq_map_of_forall₂ (peripherals.imp fun _ _ same => same.contents.clusters_eq))
  rw [← count] at inner₀
  obtain ⟨inner, resolved⟩ := exists_resolveContents_of_matches hm peripherals declared registers
    (declared p hp) same.contents inner₀
  exact ⟨_, bind_eq_ok_iff.2 ⟨inner, resolved, rfl⟩⟩

end Completion

end Matches

/-! ### Devices -/

section Devices

variable {d d₀' : Device} {i j : Nat} {p : Peripheral} {m : Register}

theorem Device.forall₂_withoutReference (hp : d.peripherals[i]? = some p) :
    List.Forall₂ (Peripheral.Matches p.contents j) d.peripherals
      (d.withoutReference i j).peripherals := by
  refine forall₂_modify (fun q => ⟨rfl, rfl, .same q.contents⟩) fun q hq => ?_
  cases hp.symm.trans hq
  exact ⟨rfl, rfl, .bare⟩

theorem Device.map_name_withoutReference (hp : d.peripherals[i]? = some p) :
    (d.withoutReference i j).peripherals.map (·.name) = d.peripherals.map (·.name) :=
  (map_eq_map_of_forall₂ ((forall₂_withoutReference hp).imp fun _ _ same => same.name)).symm

/-- A device that is completed without the reference has its peripherals completed with it. -/
theorem Device.exists_matches_of_derive (hp : d.peripherals[i]? = some p)
    (rest : (d.withoutReference i j).derive = .ok d₀') : ∃ ps ps₀ : List Peripheral,
      resolvePeripherals d.peripherals (d.peripherals.map (·.name)) [] = .ok ps ∧
      resolvePeripherals (d.withoutReference i j).peripherals
        ((d.withoutReference i j).peripherals.map (·.name)) [] = .ok ps₀ ∧
      List.Forall₂ (Peripheral.Matches p.contents j) ps ps₀ ∧
      ps₀.mapM (completeInside ps₀) = .ok d₀'.peripherals := by
  obtain ⟨ps₀, qs₀, resolved₀, inside₀, rfl⟩ := derive_eq_ok_iff.1 rest
  have tables : Completed.Matches p.contents j [] [] := .nil
  obtain ⟨ps, resolved, same⟩ :=
    (resolvePeripherals_agree (forall₂_withoutReference hp) _ tables).exists_eq_ok resolved₀
  rw [map_name_withoutReference hp] at resolved
  exact ⟨ps, ps₀, resolved, resolved₀, same, inside₀⟩

/-- Every register has a chain that ends, or its references come to the register whose reference
the other device lacks. -/
theorem Device.chainLength_or_reflTransGen (distinct : (d.peripherals.map (·.name)).Nodup)
    (hp : d.peripherals[i]? = some p) (hm : p.registers[j]? = some m) {ps ps₀ qs₀ : List Peripheral}
    (resolved₀ : resolvePeripherals (d.withoutReference i j).peripherals
      ((d.withoutReference i j).peripherals.map (·.name)) [] = .ok ps₀)
    (same : List.Forall₂ (Peripheral.Matches p.contents j) ps ps₀)
    (inside₀ : ps₀.mapM (completeInside ps₀) = .ok qs₀) {home : Contents} {r : Register}
    (h : d.Declares home) (hr : r ∈ home.registers) :
    (∃ n, ChainLength ps (home, r) n) ∨
      ReflTransGen (RefersTo ps) (home, r) (p.contents, m) := by
  obtain ⟨home₀, ⟨i', is, found₀⟩, homes⟩ :=
    h.exists_matches (forall₂_withoutReference (j := j) hp)
  have layout : home₀.isEmpty = false := by
    rw [← homes.isEmpty_eq]
    exact Contents.isEmpty_eq_false_of_mem hr
  have distinct₀ : ((d.withoutReference i j).peripherals.map (·.name)).Nodup := by
    rw [map_name_withoutReference hp]
    exact distinct
  obtain ⟨_, -, completed⟩ := exists_inside?_completesTo distinct₀ resolved₀ inside₀ found₀ layout
  obtain ⟨t₀, ht₀, target⟩ := exists_of_mem_left (homes.forall₂_members hm)
    (Contents.register_mem_members.2 hr)
  obtain ⟨r₀, rfl⟩ : ∃ r₀, t₀ = .register r₀ := by
    cases target <;> exact ⟨_, rfl⟩
  obtain ⟨n, -, chain⟩ := completed.exists_chainLength (Contents.register_mem_members.1 ht₀)
  exact chain.of_matches hm same target

end Devices

end RegisterMap
