import RegisterMap.Proofs.Device.Provenance

/-!
# What holds of all members

Each step of flattening goes through all registers and clusters of a device, and what it does to one
of them depends on that member alone. A statement about the name, the repetition and the reference
of a member is therefore carried from all members of a device to all members of the flattened one,
at every depth, if it is carried from single members.

## Main definitions

* `IsExpanded`, `Member.IsInstance` : what expansion leaves of a node.
* `Contents.inheriting` : what a node holds, with properties handed down.

## Main results

* `Device.everywhere_derive`, `Contents.Everywhere.expand`, `Contents.Everywhere.inheriting` : each
  step of flattening carries a property from all members to all members.
* `Device.everywhere_flatten` : and so does flattening.
-/

namespace RegisterMap

/-! ### Positions -/

/-- The members below a node are those of the nodes at all positions in it. -/
theorem Contents.everywhere_iff_inside? {P : Member → Prop} {c : Contents} : c.Everywhere P ↔
    ∀ is below, c.inside? is = some below → ∀ m ∈ below.members, P m := by
  constructor
  · intro h is
    induction is generalizing c with
    | nil =>
      intro below found
      cases found
      exact h.members
    | cons i is ih =>
      intro below found
      obtain ⟨inner, hc, rest⟩ := inside?_cons_eq_some_iff.1 found
      exact ih (h.inside inner (List.mem_of_getElem? hc)) below rest
  · intro h
    induction c using Contents.induction with
    | step c ih =>
      refine .intro (h [] c rfl) fun inner hc => ih inner hc fun is below found => ?_
      obtain ⟨i, hi⟩ := List.mem_iff_getElem?.1 hc
      exact h (i :: is) below (inside?_cons_eq_some_iff.2 ⟨inner, hi, found⟩)

/-! ### Derivation -/

theorem Member.CompletesTo.repetition_eq {ps : List Peripheral} {home : Contents} {m m' : Member}
    (h : m.CompletesTo ps home m') : m'.repetition = m.repetition := by
  cases h with
  | register chain => cases chain <;> rfl
  | cluster chain _ => cases chain <;> rfl

section Derivation

variable {d d' : Device} {P Q : Member → Prop}

theorem Device.Declares.everywhere {home : Contents} (h : d.Declares home)
    (all : ∀ p ∈ d.peripherals, p.contents.Everywhere P) : ∀ m ∈ home.members, P m := by
  obtain ⟨i, is, found⟩ := h
  obtain ⟨p, hp, path⟩ := inside?_eq_some_iff.1 found
  exact Contents.everywhere_iff_inside?.1 (all p (List.mem_of_getElem? hp)) is home path

/-- Derivation carries a property from all members to all members, if it is carried from a member
to what that is completed to. -/
theorem Device.everywhere_derive (h : d.derive = .ok d')
    (step : ∀ {ps home m m'}, Member.CompletesTo ps home m m' → P m → Q m')
    (all : ∀ p ∈ d.peripherals, p.contents.Everywhere P) :
    ∀ p ∈ d'.peripherals, p.contents.Everywhere Q := by
  obtain ⟨ps, qs, resolved, inside, rfl⟩ := derive_eq_ok_iff.1 h
  intro p hp
  obtain ⟨i, hi⟩ := List.mem_iff_getElem?.1 hp
  refine Contents.everywhere_iff_inside?.2 fun is home' found m' hm' => ?_
  obtain ⟨home, declared, completed⟩ :=
    exists_declares_completesTo resolved inside (inside?_eq_some_iff.2 ⟨p, hi, found⟩)
  obtain ⟨m, hm, target⟩ := exists_of_mem_right completed.members hm'
  exact step target (declared.everywhere all m hm)

end Derivation

/-! ### Expansion -/

/-- What expansion leaves of a name and a repetition: either the repetition is gone, or they are
those of no list and stay. -/
def IsExpanded (name : String) (r : Option Repetition) (name' : String) (r' : Option Repetition) :
    Prop :=
  r' = none ∨ name' = name ∧ r' = r ∧ isList name r = false

/-- What expansion leaves is no list. -/
theorem IsExpanded.single {name name' : String} {r r' : Option Repetition}
    (h : IsExpanded name r name' r') : isList name' r' = false := by
  rcases h with rfl | ⟨rfl, rfl, single⟩
  · rfl
  · exact single

/-- What expansion leaves of a member. -/
structure Member.IsInstance (m m' : Member) : Prop where
  derivedFrom : m'.derivedFrom = m.derivedFrom
  expanded : IsExpanded m.name m.repetition m'.name m'.repetition

theorem Register.isInstance_of_mem_expand {r r' : Register} {rs : List Register}
    (h : r.expand = .ok rs) (hr : r' ∈ rs) : Member.IsInstance (.register r) (.register r') := by
  rw [Register.expand] at h
  split at h
  · obtain ⟨instances, -, h⟩ := bind_eq_ok_iff.1 h
    cases Except.ok.inj h
    obtain ⟨i, -, rfl⟩ := List.mem_map.1 hr
    exact ⟨rfl, .inl rfl⟩
  · next single =>
    cases Except.ok.inj h
    cases List.mem_singleton.1 hr
    exact ⟨rfl, .inr ⟨rfl, rfl, Bool.eq_false_iff.2 single⟩⟩

theorem Cluster.isInstance_of_mem_expandSelf {c c' : Cluster} {cs : List Cluster}
    (h : c.expandSelf = .ok cs) (hc : c' ∈ cs) :
    Member.IsInstance (.cluster c) (.cluster c') ∧ c'.contents = c.contents := by
  rw [Cluster.expandSelf] at h
  split at h
  · obtain ⟨instances, -, h⟩ := bind_eq_ok_iff.1 h
    cases Except.ok.inj h
    obtain ⟨i, -, rfl⟩ := List.mem_map.1 hc
    exact ⟨⟨rfl, .inl rfl⟩, rfl⟩
  · next single =>
    cases Except.ok.inj h
    cases List.mem_singleton.1 hc
    exact ⟨⟨rfl, .inr ⟨rfl, rfl, Bool.eq_false_iff.2 single⟩⟩, rfl⟩

/-- What expansion leaves of a peripheral, and of the members in it. -/
theorem Peripheral.isExpanded_of_mem_expand {p x : Peripheral} {ps : List Peripheral}
    (h : p.expand.outcome = .ok ps) (hx : x ∈ ps) :
    x.derivedFrom = p.derivedFrom ∧ IsExpanded p.name p.repetition x.name x.repetition ∧
      expandRegisters p.registers = .ok x.registers ∧
      expandClusters p.clusters = .ok x.clusters := by
  obtain ⟨registers, clusters, hr, hc, ⟨single, rfl⟩ | ⟨name, baseAddress, rfl⟩⟩ := mem_expand h hx
  · exact ⟨rfl, .inr ⟨rfl, rfl, single⟩, hr, hc⟩
  · exact ⟨rfl, .inl rfl, hr, hc⟩

/-- Expansion carries a property from all members to all members, if it is carried from a member to
each of its instances. -/
theorem Contents.Everywhere.expand {P Q : Member → Prop} {c c' : Contents} (h : c.Everywhere P)
    (step : ∀ {m m'}, Member.IsInstance m m' → P m → Q m')
    (hr : expandRegisters c.registers = .ok c'.registers)
    (hc : expandClusters c.clusters = .ok c'.clusters) : c'.Everywhere Q := by
  induction c using Contents.induction generalizing c' with
  | step c ih =>
    obtain ⟨registers, clusters⟩ := everywhere_iff.1 h
    rw [expandRegisters_eq_flatMapM] at hr
    rw [expandClusters_eq_flatMapM] at hc
    refine everywhere_iff.2 ⟨fun r' hr' => ?_, fun e' he' => ?_⟩
    · obtain ⟨r, mem, zs, made, hr'⟩ := exists_of_mem_flatMapM_results hr hr'
      exact step (Register.isInstance_of_mem_expand made hr') (registers r mem)
    · obtain ⟨inner, mem, zs, made, he'⟩ := exists_of_mem_flatMapM_results hc he'
      rw [Cluster.expand_eq] at made
      obtain ⟨innerRegisters, hir, made⟩ := bind_eq_ok_iff.1 made
      obtain ⟨innerClusters, hic, made⟩ := bind_eq_ok_iff.1 made
      obtain ⟨⟨reference, repetition⟩, contents⟩ := Cluster.isInstance_of_mem_expandSelf made he'
      have own : Member.IsInstance (.cluster inner) (.cluster e') := ⟨reference, repetition⟩
      refine ⟨step own (clusters inner mem).1, ?_⟩
      rw [contents]
      exact ih inner mem (clusters inner mem).2 hir hic

/-! ### Properties -/

/-- Member with the properties that it and all in it lack. -/
def Member.inheriting (parent : Properties) : Member → Member
  | register r => .register (r.inheriting parent)
  | cluster c => .cluster (c.inheriting parent)

/-- What a node holds, with the properties that it lacks. -/
def Contents.inheriting (parent : Properties) (c : Contents) : Contents :=
  ⟨c.registers.map (·.inheriting parent), c.clusters.map (·.inheriting parent)⟩

theorem Cluster.contents_inheriting (parent : Properties) (c : Cluster) :
    (c.inheriting parent).contents = c.contents.inheriting (c.properties.inherit parent) := by
  rw [Cluster.inheriting_eq]
  rfl

theorem Contents.members_inheriting (parent : Properties) (c : Contents) :
    (c.inheriting parent).members = c.members.map (·.inheriting parent) := by
  simp only [members, inheriting, List.map_append, List.map_map]
  rfl

namespace Member

variable (parent : Properties) (m : Member)

@[simp] theorem name_inheriting : (m.inheriting parent).name = m.name := by
  cases m with
  | register r => rfl
  | cluster c => cases c; rfl

@[simp] theorem repetition_inheriting : (m.inheriting parent).repetition = m.repetition := by
  cases m with
  | register r => rfl
  | cluster c => cases c; rfl

@[simp] theorem derivedFrom_inheriting : (m.inheriting parent).derivedFrom = m.derivedFrom := by
  cases m with
  | register r => rfl
  | cluster c => cases c; rfl

end Member

/-- Handing down properties carries a property from all members to all members, if it is carried
from single members. -/
theorem Contents.Everywhere.inheriting {P Q : Member → Prop} {c : Contents} (h : c.Everywhere P)
    (step : ∀ m parent, P m → Q (m.inheriting parent)) (parent : Properties) :
    (c.inheriting parent).Everywhere Q := by
  induction h generalizing parent with
  | @intro c members _ ih =>
    refine .intro ?_ fun inner hc => ?_
    · rw [members_inheriting, List.forall_mem_map]
      exact fun m hm => step m parent (members m hm)
    · obtain ⟨e, he, rfl⟩ := List.mem_map.1 hc
      rw [Cluster.contents_inheriting]
      exact ih e he _

/-! ### Flattening -/

/-- Every peripheral of the flattened device is left of a completed one. -/
theorem Device.exists_of_mem_flatten {d d' : Device} (h : d.flatten.outcome = .ok d')
    {x : Peripheral} (hx : x ∈ d'.peripherals) : ∃ e, d.derive = .ok e ∧
      ∃ p ∈ e.peripherals, ∃ ps, p.expand.outcome = .ok ps ∧
        ∃ y ∈ ps, x = y.inheriting d.properties := by
  obtain ⟨e, parts, derived, expanded, rfl⟩ := flatten_eq_ok h
  obtain ⟨y, hy, rfl⟩ := List.mem_map.1 hx
  obtain ⟨ps, hps, hy⟩ := List.mem_flatten.1 hy
  obtain ⟨p, hp, made⟩ := exists_of_mem_right expanded hps
  exact ⟨e, derived, p, hp, ps, made, y, hy, rfl⟩

/-- Flattening carries a property from all members to all members, if its steps do so for single
members. -/
theorem Device.everywhere_flatten {d d' : Device} {P Q R : Member → Prop}
    (h : d.flatten.outcome = .ok d')
    (completed : ∀ {ps home m m'}, Member.CompletesTo ps home m m' → P m → Q m')
    (expanded : ∀ {m m'}, Member.IsInstance m m' → Q m → R m')
    (inheriting : ∀ m parent, R m → R (m.inheriting parent))
    (all : ∀ p ∈ d.peripherals, p.contents.Everywhere P) :
    ∀ p ∈ d'.peripherals, p.contents.Everywhere R := by
  intro x hx
  obtain ⟨e, derived, p, hp, ps, made, y, hy, rfl⟩ := exists_of_mem_flatten h hx
  obtain ⟨-, -, hr, hc⟩ := Peripheral.isExpanded_of_mem_expand made hy
  have inside : y.contents.Everywhere R :=
    (everywhere_derive derived completed all p hp).expand expanded hr hc
  exact inside.inheriting inheriting _

end RegisterMap
