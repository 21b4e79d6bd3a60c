import RegisterMap.Proofs.Device.Contents
import RegisterMap.Proofs.Device.ReferenceChains

/-!
# Chains of references between members

A register or cluster is completed along a chain of references that may cross the nodes of a device.
References are followed before what they lead to is completed. This file shows that they mean the
same afterwards: read in the completed node, a reference leads to what its target was completed to.

## Main definitions

* `MemberChain`, `RegisterChain`, `ClusterChain` : the chain of references from a member, and what
  it completes to.
* `Contents.CompletesTo`, `Member.CompletesTo` : what a node and a member in it are completed to.

## Main results

* `MemberChain.unique` : a member starts one chain.
* `Contents.CompletesTo.members` : the members of a node are completed one by one.
* `Contents.CompletesTo.descend`, `exists_findReference_of_completeInside` : paths and references
  lead to the same members before and after.
* `RegisterChain.exists_base` : a register is completed by what its reference leads to afterwards.
-/

namespace RegisterMap

/-- The chain of references from a member of one kind in a node ends, and completes the member to
another, whatever the limit. -/
inductive MemberChain {α : Type} (kind : α → Member) (complete : α → α → α)
    (ps : List Peripheral) : Contents → α → α → Prop
  | own {home : Contents} {a : α} (own : (kind a).derivedFrom = none) :
      MemberChain kind complete ps home a a
  | step {home baseHome : Contents} {reference : String} {a base completed : α}
      (derived : (kind a).derivedFrom = some reference)
      (found : findReference ps reference home = .ok (kind base, baseHome))
      (rest : MemberChain kind complete ps baseHome base completed) :
      MemberChain kind complete ps home a (complete a completed)

namespace MemberChain

variable {α : Type} {kind : α → Member} {complete : α → α → α} {ps : List Peripheral}
  {home : Contents} {a b c : α}

/-- A member starts one chain. -/
theorem unique (injective : kind.Injective) (h : MemberChain kind complete ps home a b)
    (h' : MemberChain kind complete ps home a c) : b = c := by
  induction h generalizing c with
  | own own =>
    cases h' with
    | own _ => rfl
    | step derived _ _ => cases own.symm.trans derived
  | step derived found _ ih =>
    cases h' with
    | own own => cases own.symm.trans derived
    | step derived' found' rest =>
      cases derived.symm.trans derived'
      obtain ⟨same, rfl⟩ := Prod.mk.inj (Except.ok.inj (found.symm.trans found'))
      cases injective same
      rw [ih rest]

/-- A member keeps its name, if completing it by another does not change that. -/
theorem name_eq (h : MemberChain kind complete ps home a b)
    (kept : ∀ base, (kind (complete a base)).name = (kind a).name) :
    (kind b).name = (kind a).name := by
  cases h with
  | own _ => rfl
  | step _ _ _ => exact kept _

/-- A member is not derived any more, if completing it by another ends that. -/
theorem derivedFrom_eq_none (h : MemberChain kind complete ps home a b)
    (ended : ∀ base, (kind (complete a base)).derivedFrom = none) :
    (kind b).derivedFrom = none := by
  cases h with
  | own own => exact own
  | step _ _ _ => exact ended _

end MemberChain

/-- The chain of references from a register in a node. -/
abbrev RegisterChain : List Peripheral → Contents → Register → Register → Prop :=
  MemberChain .register Register.completedBy

/-- The chain of references from a cluster in a node. -/
abbrev ClusterChain : List Peripheral → Contents → Cluster → Cluster → Prop :=
  MemberChain .cluster Cluster.completedBy

section Members

variable {ps qs : List Peripheral} {home home' : Contents} {r r' : Register} {c c' : Cluster}
  {budget : Nat}

/-! ### Single members -/

/-- A register that is returned is completed along its chain. -/
theorem resolveRegister_sound (h : resolveRegister ps budget r home = .ok r') :
    RegisterChain ps home r r' := by
  induction budget generalizing r home r' with
  | zero =>
    unfold resolveRegister at h
    split at h
    · next own =>
      cases h
      exact .own own
    · cases h
  | succ budget ih =>
    unfold resolveRegister at h
    split at h
    · next own =>
      cases h
      exact .own own
    · next reference derived =>
      obtain ⟨⟨base | base, baseHome⟩, found, h⟩ := bind_eq_ok_iff.1 h
      · obtain ⟨completed, hbase, h⟩ := bind_eq_ok_iff.1 h
        cases h
        exact .step derived found (ih hbase)
      · obtain ⟨_, _, h⟩ := bind_eq_ok_iff.1 h
        cases h

/-- A cluster that is returned is completed along its chain. -/
theorem resolveCluster_sound (h : resolveCluster ps budget c home = .ok c') :
    ClusterChain ps home c c' := by
  induction budget generalizing c home c' with
  | zero =>
    unfold resolveCluster at h
    split at h
    · next own =>
      cases h
      exact .own own
    · cases h
  | succ budget ih =>
    unfold resolveCluster at h
    split at h
    · next own =>
      cases h
      exact .own own
    · next reference derived =>
      obtain ⟨⟨base | base, baseHome⟩, found, h⟩ := bind_eq_ok_iff.1 h
      · obtain ⟨_, _, h⟩ := bind_eq_ok_iff.1 h
        cases h
      · obtain ⟨completed, hbase, h⟩ := bind_eq_ok_iff.1 h
        cases h
        exact .step derived found (ih hbase)

theorem Cluster.contents_completedBy (c base : Cluster) :
    (c.completedBy base).contents = if c.contents.isEmpty then base.contents else c.contents := by
  unfold completedBy
  cases c.contents.isEmpty <;> rfl

/-- A cluster that holds something keeps it. -/
theorem ClusterChain.contents_eq (h : ClusterChain ps home c c')
    (layout : c.contents.isEmpty = false) : c'.contents = c.contents := by
  cases h with
  | own _ => rfl
  | step _ _ _ => rw [Cluster.contents_completedBy, layout]; rfl

/-! ### Paths -/

theorem Contents.isEmpty_eq_false_of_mem (hr : r ∈ home.registers) : home.isEmpty = false := by
  simp [isEmpty, List.ne_nil_of_mem hr]

theorem Contents.isEmpty_eq_false_of_find? {name : String} {m : Member}
    (found : home.find? name = some m) : home.isEmpty = false := by
  have mem := List.mem_of_find?_eq_some found
  rcases mem_members.1 mem with ⟨r, hr, -⟩ | ⟨c, hc, -⟩
  · exact isEmpty_eq_false_of_mem hr
  · simp [isEmpty, List.ne_nil_of_mem hc]

theorem Contents.descend_cons_cons_eq_some_iff {name next : String} {names : List String}
    {target : Member × Contents} : home.descend (name :: next :: names) = some target ↔
      ∃ c, home.find? name = some (.cluster c) ∧
        c.contents.descend (next :: names) = some target := by
  rw [descend.eq_def]
  dsimp only
  split
  · next c found =>
    rw [found]
    exact ⟨fun h => ⟨c, rfl, h⟩, by rintro ⟨_, same, h⟩; cases same; exact h⟩
  · next other =>
    exact ⟨nofun, fun ⟨c, found, _⟩ => (other c found).elim⟩

theorem Contents.isEmpty_eq_false_of_descend {names : List String} {target : Member × Contents}
    (found : home.descend names = some target) : home.isEmpty = false := by
  obtain _ | ⟨name, _ | ⟨next, names⟩⟩ := names
  · cases found
  · obtain ⟨m, hm, -⟩ := Option.map_eq_some_iff.1 found
    exact isEmpty_eq_false_of_find? hm
  · obtain ⟨c, hc, -⟩ := descend_cons_cons_eq_some_iff.1 found
    exact isEmpty_eq_false_of_find? hc

/-- A reference with dots leads along a path from a peripheral, another to a sibling. -/
theorem findReference_eq_ok_iff {reference : String} {target : Member × Contents} :
    findReference ps reference home = .ok target ↔
      (∃ head part parts, reference.toList.splitOn '.' = head :: part :: parts ∧
        ∃ p, peripheralNamed? ps (String.ofList head) = some p ∧
          p.contents.descend ((part :: parts).map String.ofList) = some target) ∨
      ((∀ head part parts, reference.toList.splitOn '.' ≠ head :: part :: parts) ∧
        home.descend [reference] = some target) := by
  rcases path : reference.toList.splitOn '.' with _ | ⟨head, _ | ⟨part, parts⟩⟩
  · cases found : home.find? reference <;>
      simp [findReference, path, Contents.descend, found]
  · cases found : home.find? reference <;>
      simp [findReference, path, Contents.descend, found]
  · cases found : peripheralNamed? ps (String.ofList head) with
    | none => simp [findReference, path, found]
    | some p =>
      cases below : p.contents.descend (String.ofList part :: parts.map String.ofList) <;>
        simp [findReference, path, found, below]

/-! ### All that a node holds -/

/-- The contents are completed to others, at every depth. -/
def Contents.CompletesTo (ps : List Peripheral) (home home' : Contents) : Prop :=
  ∃ depth name, resolveContents ps depth name home = .ok home'

/-- A member of a node is completed along its chain, and a cluster then inside. -/
inductive Member.CompletesTo (ps : List Peripheral) (home : Contents) : Member → Member → Prop
  | register {r r' : Register} (chain : RegisterChain ps home r r') :
      CompletesTo ps home (.register r) (.register r')
  | cluster {c c' : Cluster} {inner : Contents} (chain : ClusterChain ps home c c')
      (inside : c'.contents.CompletesTo ps inner) :
      CompletesTo ps home (.cluster c)
        (.cluster { c' with registers := inner.registers, clusters := inner.clusters })

theorem Member.CompletesTo.name_eq {m m' : Member} (h : m.CompletesTo ps home m') :
    m'.name = m.name := by
  cases h with
  | register chain => exact chain.name_eq fun _ => rfl
  | cluster chain _ => exact chain.name_eq fun _ => rfl

theorem Member.CompletesTo.derivedFrom_eq_none {m m' : Member} (h : m.CompletesTo ps home m') :
    m'.derivedFrom = none := by
  cases h with
  | register chain => exact chain.derivedFrom_eq_none fun _ => rfl
  | cluster chain _ => exact chain.derivedFrom_eq_none fun _ => rfl

namespace Contents.CompletesTo

/-- Registers and clusters are completed one by one. -/
theorem registers_clusters (h : home.CompletesTo ps home') :
    List.Forall₂ (RegisterChain ps home) home.registers home'.registers ∧
      List.Forall₂ (fun c c' => Member.CompletesTo ps home (.cluster c) (.cluster c'))
        home.clusters home'.clusters := by
  obtain ⟨depth, name, h⟩ := h
  cases depth with
  | zero => cases h
  | succ depth =>
    obtain ⟨registers, hr, h⟩ := bind_eq_ok_iff.1 h
    obtain ⟨clusters, hc, h⟩ := bind_eq_ok_iff.1 h
    cases h
    refine ⟨(mapM_eq_ok_iff.1 hr).imp fun _ _ => resolveRegister_sound,
      (mapM_eq_ok_iff.1 hc).imp fun c c' h => ?_⟩
    obtain ⟨completed, chain, h⟩ := bind_eq_ok_iff.1 h
    obtain ⟨inner, inside, h⟩ := bind_eq_ok_iff.1 h
    cases h
    exact .cluster (resolveCluster_sound chain) ⟨depth, completed.name, inside⟩

theorem registers (h : home.CompletesTo ps home') :
    List.Forall₂ (RegisterChain ps home) home.registers home'.registers :=
  h.registers_clusters.1

theorem clusters (h : home.CompletesTo ps home') :
    List.Forall₂ (fun c c' => Member.CompletesTo ps home (.cluster c) (.cluster c'))
      home.clusters home'.clusters :=
  h.registers_clusters.2

/-- Members are completed one by one. -/
theorem members (h : home.CompletesTo ps home') :
    List.Forall₂ (Member.CompletesTo ps home) home.members home'.members := by
  refine List.rel_append ?_ ?_
  · rw [List.forall₂_map_left_iff, List.forall₂_map_right_iff]
    exact h.registers.imp fun _ _ => .register
  · rw [List.forall₂_map_left_iff, List.forall₂_map_right_iff]
    exact h.clusters

/-- A name leads to the same member before and after. -/
theorem find? (h : home.CompletesTo ps home') {name : String} {m : Member}
    (found : home.find? name = some m) :
    ∃ m', home'.find? name = some m' ∧ m.CompletesTo ps home m' :=
  exists_find?_of_forall₂ h.members (fun _ _ hm => by rw [hm.name_eq]) found

/-- A path leads to the same member before and after: the clusters on it hold something, and a
cluster that holds something keeps it. -/
theorem descend (h : home.CompletesTo ps home') {names : List String} {m : Member}
    {below : Contents} (found : home.descend names = some (m, below)) :
    ∃ m' below', home'.descend names = some (m', below') ∧ below.CompletesTo ps below' ∧
      m.CompletesTo ps below m' := by
  induction names generalizing home home' with
  | nil => cases found
  | cons name names ih =>
    cases names with
    | nil =>
      obtain ⟨_, hm, same⟩ := Option.map_eq_some_iff.1 found
      cases same
      obtain ⟨m', hm', completed⟩ := h.find? hm
      exact ⟨m', home', Option.map_eq_some_iff.2 ⟨m', hm', rfl⟩, h, completed⟩
    | cons next names =>
      obtain ⟨c, hc, rest⟩ := descend_cons_cons_eq_some_iff.1 found
      obtain ⟨m', hm', completed⟩ := h.find? hc
      cases completed with
      | cluster chain inside =>
        rw [chain.contents_eq (isEmpty_eq_false_of_descend rest)] at inside
        obtain ⟨m'', below', rest', completed⟩ := ih inside rest
        exact ⟨m'', below', descend_cons_cons_eq_some_iff.2 ⟨_, hm', rest'⟩, completed⟩

end Contents.CompletesTo

/-! ### References -/

/-- The peripherals are completed inside one by one. -/
theorem completeInside_eq_ok {p q : Peripheral} (h : completeInside ps p = .ok q) :
    q.name = p.name ∧ p.contents.CompletesTo ps q.contents := by
  obtain ⟨inner, inside, h⟩ := bind_eq_ok_iff.1 h
  cases h
  exact ⟨rfl, _, _, inside⟩

section References

variable (completed : ps.mapM (completeInside ps) = .ok qs)
include completed

/-- A name leads to the same peripheral before and after. -/
theorem exists_peripheralNamed?_of_completeInside {name : String} {p : Peripheral}
    (found : peripheralNamed? ps name = some p) :
    ∃ q, peripheralNamed? qs name = some q ∧ completeInside ps p = .ok q :=
  exists_find?_of_forall₂ (R := fun p q => completeInside ps p = .ok q)
    (List.forall₂_reverse_iff.2 (mapM_eq_ok_iff.1 completed))
    (fun p q h => by rw [(completeInside_eq_ok h).1]) found

/-- A reference leads to the same member before and after. -/
theorem exists_findReference_of_completeInside (h : home.CompletesTo ps home') {reference : String}
    {m : Member} {below : Contents} (found : findReference ps reference home = .ok (m, below)) :
    ∃ m' below', findReference qs reference home' = .ok (m', below') ∧
      below.CompletesTo ps below' ∧ m.CompletesTo ps below m' := by
  rcases findReference_eq_ok_iff.1 found with
    ⟨head, part, parts, split, p, hp, path⟩ | ⟨plain, path⟩
  · obtain ⟨q, hq, inside⟩ := exists_peripheralNamed?_of_completeInside completed hp
    obtain ⟨m', below', path', target⟩ := (completeInside_eq_ok inside).2.descend path
    exact ⟨m', below',
      findReference_eq_ok_iff.2 (.inl ⟨head, part, parts, split, q, hq, path'⟩), target⟩
  · obtain ⟨m', below', path', target⟩ := h.descend path
    exact ⟨m', below', findReference_eq_ok_iff.2 (.inr ⟨plain, path'⟩), target⟩

/-- **References of registers.** A derived register is completed by the register that its reference
leads to in the completed node. -/
theorem RegisterChain.exists_base (h : home.CompletesTo ps home') {reference : String}
    (chain : RegisterChain ps home r r') (derived : r.derivedFrom = some reference) :
    ∃ base below, findReference qs reference home' = .ok (.register base, below) ∧
      r' = r.completedBy base := by
  cases chain with
  | own own => cases own.symm.trans derived
  | step derived' found rest =>
    cases derived.symm.trans derived'
    obtain ⟨m, below', found', -, target⟩ :=
      exists_findReference_of_completeInside completed h found
    cases target with
    | register chain =>
      cases rest.unique (fun _ _ => Member.register.inj) chain
      exact ⟨_, below', found', rfl⟩

end References

end Members

end RegisterMap
