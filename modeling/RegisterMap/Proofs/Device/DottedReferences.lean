import RegisterMap.Proofs.Device.Everywhere
import RegisterMap.Proofs.Device.ReferenceRemoval

/-!
# References with dots

A reference with dots is followed where peripherals are completed and clusters are not. A path that
goes through a cluster without members of its own ends there, although the cluster has taken over
the members of another when the device is completed. All other paths mean the same before and after.

So let a device be completed without the reference of one register, and let that reference lead to
a register in what comes out. Whether the device is completed with the reference depends on the
clusters that the path goes through, and on the chains that it makes longer.

## Main definitions

* `IsDottedPath` : the names that a reference with dots spells.
* `Device.LeadsTo` : a path of names leads to a member of the device.
* `Contents.PassesLayouts` : a path goes through clusters with members of their own only.

## Main results

* `Contents.passesLayouts_of_descend`, `Contents.CompletesTo.exists_descend` : which paths of the
  completed node lead somewhere before.
* `Device.derive_dotted` : the devices that are completed with one more reference.
-/

namespace RegisterMap

open Relation (ReflTransGen TransGen)

/-! ### Paths through clusters -/

/-- The clusters that a path of names goes through hold members of their own. -/
def Contents.PassesLayouts : Contents → List String → Prop
  | home, name :: next :: names => ∀ c, home.find? name = some (.cluster c) →
      c.contents.isEmpty = false ∧ c.contents.PassesLayouts (next :: names)
  | _, _ => True

section Paths

variable {ps : List Peripheral} {home home' : Contents} {names : List String}

/-- A path that leads somewhere goes through clusters with members of their own. -/
theorem Contents.passesLayouts_of_descend {target : Member × Contents}
    (found : home.descend names = some target) : home.PassesLayouts names := by
  induction names generalizing home with
  | nil => trivial
  | cons name names ih =>
    cases names with
    | nil => trivial
    | cons next names =>
      obtain ⟨c, hc, rest⟩ := descend_cons_cons_eq_some_iff.1 found
      intro c' hc'
      cases hc.symm.trans hc'
      exact ⟨isEmpty_eq_false_of_descend rest, ih rest⟩

/-- A name leads in the completed node to what is completed from the member it leads to before. -/
theorem Contents.CompletesTo.exists_find? (h : home.CompletesTo ps home') {name : String}
    {m' : Member} (found : home'.find? name = some m') :
    ∃ m, home.find? name = some m ∧ m.CompletesTo ps home m' :=
  exists_find?_of_forall₂ (R := fun m' m => Member.CompletesTo ps home m m') h.members.flip
    (fun _ _ completed => by rw [completed.name_eq]) found

/-- What a path leads to in the completed node is completed from what it leads to before, if it goes
through clusters with members of their own. -/
theorem Contents.CompletesTo.exists_descend (h : home.CompletesTo ps home')
    (passes : home.PassesLayouts names) {m' : Member} {below' : Contents}
    (found : home'.descend names = some (m', below')) :
    ∃ m below, home.descend names = some (m, below) ∧ m.CompletesTo ps below m' := by
  induction names generalizing home home' with
  | nil => cases found
  | cons name names ih =>
    cases names with
    | nil =>
      obtain ⟨_, hm', same⟩ := Option.map_eq_some_iff.1 found
      cases same
      obtain ⟨m, hm, completed⟩ := h.exists_find? hm'
      exact ⟨m, home, Option.map_eq_some_iff.2 ⟨m, hm, rfl⟩, completed⟩
    | cons next names =>
      obtain ⟨c', hc', rest'⟩ := descend_cons_cons_eq_some_iff.1 found
      obtain ⟨m, hm, completed⟩ := h.exists_find? hc'
      cases completed with
      | @cluster c _ inner chain inside =>
        obtain ⟨layout, passes⟩ := passes c hm
        rw [chain.contents_eq layout] at inside
        obtain ⟨m, below, rest, target⟩ := ih inside passes rest'
        exact ⟨m, below, descend_cons_cons_eq_some_iff.2 ⟨c, hm, rest⟩, target⟩

end Paths

/-! ### References with dots -/

/-- A reference spells the name of a peripheral and, after dots, names of members. -/
def IsDottedPath (reference head : String) (names : List String) : Prop :=
  names ≠ [] ∧ reference.toList.splitOn '.' = (head :: names).map String.toList

/-- Names lead to a member of a device from the peripheral of the first name. -/
def Device.LeadsTo (d : Device) (head : String) (names : List String) (m : Member) : Prop :=
  ∃ p ∈ d.peripherals, p.name = head ∧ ∃ below, p.contents.descend names = some (m, below)

theorem IsDottedPath.findReference_eq_ok_iff {ps : List Peripheral} {home : Contents}
    {reference head : String} {names : List String} {target : Member × Contents}
    (path : IsDottedPath reference head names) : findReference ps reference home = .ok target ↔
      ∃ p, peripheralNamed? ps head = some p ∧ p.contents.descend names = some target := by
  obtain ⟨nonempty, split⟩ := path
  obtain ⟨next, names, rfl⟩ := List.exists_cons_of_ne_nil nonempty
  rw [RegisterMap.findReference_eq_ok_iff, split]
  simp [List.map_map, Function.comp_def]

/-! ### Chains with one reference more -/

section Derivation

variable {d d' d₀' : Device} {i j : Nat} {p : Peripheral} {m target : Register}
  {reference head : String} {names : List String} {ps ps₀ qs : List Peripheral}

/-- In a device that is completed every register has a chain of at most one reference more than the
limit. -/
theorem Device.exists_chainLength (distinct : (d.peripherals.map (·.name)).Nodup)
    (resolved : resolvePeripherals d.peripherals (d.peripherals.map (·.name)) [] = .ok ps)
    (inside : ps.mapM (completeInside ps) = .ok qs) {home : Contents} {r : Register}
    (h : d.Declares home) (hr : r ∈ home.registers) :
    ∃ n ≤ derivationLimit + 1, ChainLength ps (home, r) n := by
  obtain ⟨i, is, found⟩ := h
  obtain ⟨_, -, completed⟩ := exists_inside?_completesTo distinct resolved inside found
    (Contents.isEmpty_eq_false_of_mem hr)
  exact completed.exists_chainLength hr

/-- A path that goes through clusters with members of their own goes through such clusters without
the reference too. -/
theorem Contents.PassesLayouts.of_matches {whole home home₀ : Contents}
    (hm : whole.registers[j]? = some m) (homes : whole.Matches j home home₀)
    (passes : home.PassesLayouts names) : home₀.PassesLayouts names := by
  obtain _ | ⟨name, _ | ⟨next, names⟩⟩ := names
  · trivial
  · trivial
  · exact fun c hc => passes c (find?_cluster_of_matches hm homes hc)

/-- A reference that leads to a register of the device completed without it leads to a register, and
the chain of that ends or comes back. -/
theorem exists_refersTo_of_leadsTo (distinct : (d.peripherals.map (·.name)).Nodup)
    (hm : p.registers[j]? = some m) (derived : m.derivedFrom = some reference)
    (path : IsDottedPath reference head names)
    (same : List.Forall₂ (Peripheral.Matches p.contents j) ps ps₀)
    (named : ps₀.map (·.name) = d.peripherals.map (·.name))
    (inside₀ : ps₀.mapM (completeInside ps₀) = .ok d₀'.peripherals)
    (leads : d₀'.LeadsTo head names (.register target))
    (layouts : ∀ q ∈ ps, q.name = head → q.contents.PassesLayouts names) :
    ∃ b, RefersTo ps (p.contents, m) b ∧
      ((∃ n, ChainLength ps b n) ∨ ReflTransGen (RefersTo ps) b (p.contents, m)) := by
  obtain ⟨q₀', hq₀', rfl, below', found'⟩ := leads
  obtain ⟨q₀, hq₀, completed⟩ := exists_of_mem_results inside₀ hq₀'
  obtain ⟨name, completes⟩ := completeInside_eq_ok completed
  obtain ⟨q, hq, matched⟩ := exists_of_mem_right same hq₀
  have passes := (layouts q hq (matched.name.trans name.symm)).of_matches hm matched.contents
  obtain ⟨t₀, below₀, found₀, target⟩ := completes.exists_descend passes found'
  cases target with
  | @register base₀ _ chain =>
    obtain ⟨n, chain⟩ := chain.exists_chainLength
    have distinct₀ : (ps₀.map (·.name)).Nodup := by
      rw [named]
      exact distinct
    have own : findReference ps₀ reference (p.contents.withoutReference j) =
        .ok (.register base₀, below₀) :=
      path.findReference_eq_ok_iff.2
        ⟨q₀, (peripheralNamed?_eq_some_iff distinct₀).2 ⟨hq₀, name.symm⟩, found₀⟩
    obtain ⟨t, found, target⟩ := exists_findReference_of_matches hm same .bare own
    obtain ⟨base, below, rfl⟩ := target.exists_register
    exact ⟨(below, base), ⟨reference, derived, found⟩, chain.of_matches hm same target⟩

/-- The chain of a register with a reference with dots ends only if the path goes through clusters
with members of their own. -/
theorem passesLayouts_of_chainLength (distinct : (ps.map (·.name)).Nodup)
    (derived : m.derivedFrom = some reference) (path : IsDottedPath reference head names)
    {home : Contents} {n : Nat} (chain : ChainLength ps (home, m) n) {q : Peripheral} (hq : q ∈ ps)
    (name : q.name = head) : q.contents.PassesLayouts names := by
  cases chain with
  | own own => cases own.symm.trans derived
  | step refers _ =>
    obtain ⟨_, derived', found⟩ := refers
    cases derived.symm.trans derived'
    obtain ⟨q', hq', below⟩ := path.findReference_eq_ok_iff.1 found
    cases hq'.symm.trans ((peripheralNamed?_eq_some_iff distinct).2 ⟨hq, name⟩)
    exact Contents.passesLayouts_of_descend below

/-- A device that is completed without the reference is completed with it, if the chain of the
register ends and no chain is too long. -/
theorem Device.exists_derive_of_chainLength (distinct : (d.peripherals.map (·.name)).Nodup)
    (hp : d.peripherals[i]? = some p) (hm : p.registers[j]? = some m)
    (resolved : resolvePeripherals d.peripherals (d.peripherals.map (·.name)) [] = .ok ps)
    (resolved₀ : resolvePeripherals (d.withoutReference i j).peripherals
      ((d.withoutReference i j).peripherals.map (·.name)) [] = .ok ps₀)
    (same : List.Forall₂ (Peripheral.Matches p.contents j) ps ps₀)
    (inside₀ : ps₀.mapM (completeInside ps₀) = .ok qs) {n : Nat}
    (own : ChainLength ps (p.contents, m) n)
    (short : ∀ home r n, d.Declares home → r ∈ home.registers → ChainLength ps (home, r) n →
      n ≤ derivationLimit + 1) : ∃ d', d.derive = .ok d' := by
  have registers : ∀ home, d.Declares home → ∀ r ∈ home.registers,
      ∃ r', resolveRegister ps (derivationLimit + 1) r home = .ok r' := by
    intro home h r hr
    obtain ⟨k, chain⟩ : ∃ k, ChainLength ps (home, r) k := by
      rcases chainLength_or_reflTransGen distinct hp hm resolved₀ same inside₀ h hr with
        ends | back
      · exact ends
      · exact own.exists_of_reflTransGen back
    exact chain.resolve (short home r k h hr chain)
  obtain ⟨qs, inside⟩ := exists_mapM_completeInside_of_matches hm same (forall_declares resolved)
    registers inside₀
  exact ⟨_, derive_eq_ok_iff.2 ⟨ps, qs, resolved, inside, rfl⟩⟩

/-- **One more reference with dots.** Let the names of the peripherals be distinct, and let a device
be completed without the reference with dots of one register of a peripheral. If that reference
leads, name by name, to a register of the completed device, then the device is completed with it
exactly when

* every cluster that the path goes through has members of its own, where peripherals that are
  derived already hold what they take over,
* the register is not derived from itself in the end, and
* no register is the first of a chain of more than one reference over the limit. -/
theorem Device.derive_dotted (distinct : (d.peripherals.map (·.name)).Nodup)
    (hp : d.peripherals[i]? = some p) (hm : p.registers[j]? = some m)
    (derived : m.derivedFrom = some reference) (path : IsDottedPath reference head names)
    (rest : (d.withoutReference i j).derive = .ok d₀')
    (leads : d₀'.LeadsTo head names (.register target)) :
    ∃ ps, resolvePeripherals d.peripherals (d.peripherals.map (·.name)) [] = .ok ps ∧
      ((∃ d', d.derive = .ok d') ↔
        (∀ q ∈ ps, q.name = head → q.contents.PassesLayouts names) ∧
        ¬TransGen (RefersTo ps) (p.contents, m) (p.contents, m) ∧
        ∀ home r n, d.Declares home → r ∈ home.registers → ChainLength ps (home, r) n →
          n ≤ derivationLimit + 1) := by
  obtain ⟨ps, ps₀, resolved, resolved₀, same, inside₀⟩ := exists_matches_of_derive hp rest
  have names_eq := map_name_of_resolvePeripherals resolved
  have names_eq₀ := (map_name_of_resolvePeripherals resolved₀).trans (map_name_withoutReference hp)
  refine ⟨ps, resolved, ?_, ?_⟩
  · rintro ⟨d', derives⟩
    obtain ⟨_, qs, resolved', inside, -⟩ := derive_eq_ok_iff.1 derives
    cases resolved.symm.trans resolved'
    obtain ⟨n, -, chain⟩ := exists_chainLength distinct resolved inside
      (declares_of_mem (List.mem_of_getElem? hp)) (List.mem_of_getElem? hm)
    refine ⟨fun q => passesLayouts_of_chainLength (names_eq ▸ distinct) derived path chain,
      chain.not_transGen_self, fun home r k h hr long => ?_⟩
    obtain ⟨l, hl, short⟩ := exists_chainLength distinct resolved inside h hr
    exact long.unique short ▸ hl
  · rintro ⟨layouts, acyclic, short⟩
    obtain ⟨b, refers, ends⟩ := exists_refersTo_of_leadsTo distinct hm derived path same names_eq₀
      inside₀ leads layouts
    obtain ⟨n, own⟩ : ∃ n, ChainLength ps (p.contents, m) n := by
      rcases ends with ⟨n, chain⟩ | back
      · exact ⟨n + 1, .step refers chain⟩
      · exact absurd (TransGen.head' refers back) acyclic
    exact exists_derive_of_chainLength distinct hp hm resolved resolved₀ same inside₀ own short

end Derivation

/-! ### Paths through a derived cluster -/

/-- A port with a register that may be derived by a path, and with two clusters, of which the second
takes over the members of the first. -/
def radio (reference : Option String) : Device where
  name := "BOARD"
  peripherals := [
    { name := "PORT", baseAddress := 0x1000
      registers := [{ name := "COPY", offset := 32, derivedFrom := reference }]
      clusters := [
        { name := "RX", offset := 0, registers := [{ name := "DATA", offset := 0 }] },
        { name := "TX", offset := 16, derivedFrom := some "RX" }] }]

/-- The port with the second cluster completed. -/
def filledRadio : Device where
  name := "BOARD"
  peripherals := [
    { name := "PORT", baseAddress := 0x1000
      registers := [{ name := "COPY", offset := 32 }]
      clusters := [
        { name := "RX", offset := 0, registers := [{ name := "DATA", offset := 0 }] },
        { name := "TX", offset := 16, registers := [{ name := "DATA", offset := 0 }] }] }]

theorem derive_radio : (radio none).derive = .ok filledRadio := rfl

theorem isDottedPath_receiver : IsDottedPath "PORT.RX.DATA" "PORT" ["RX", "DATA"] :=
  ⟨by decide, by decide⟩

theorem isDottedPath_transmitter : IsDottedPath "PORT.TX.DATA" "PORT" ["TX", "DATA"] :=
  ⟨by decide, by decide⟩

theorem leadsTo_filledRadio {cluster : String} (h : cluster = "RX" ∨ cluster = "TX") :
    filledRadio.LeadsTo "PORT" [cluster, "DATA"] (.register { name := "DATA", offset := 0 }) := by
  rcases h with rfl | rfl <;> exact ⟨_, List.mem_singleton_self _, rfl, _, rfl⟩

/-- Both paths lead to a register of the completed port. A path through the first cluster is
accepted, one through the second is not. -/
theorem derive_dotted_radio :
    (((radio (some "PORT.RX.DATA")).withoutReference 0 0).derive = .ok filledRadio ∧
      filledRadio.LeadsTo "PORT" ["RX", "DATA"] (.register { name := "DATA", offset := 0 }) ∧
      ∃ ps, resolvePeripherals (radio (some "PORT.RX.DATA")).peripherals ["PORT"] [] = .ok ps ∧
        (∃ d', (radio (some "PORT.RX.DATA")).derive = .ok d') ∧
        ∀ q ∈ ps, q.name = "PORT" → q.contents.PassesLayouts ["RX", "DATA"]) ∧
    ((radio (some "PORT.TX.DATA")).withoutReference 0 0).derive = .ok filledRadio ∧
      filledRadio.LeadsTo "PORT" ["TX", "DATA"] (.register { name := "DATA", offset := 0 }) ∧
      ¬∃ d', (radio (some "PORT.TX.DATA")).derive = .ok d' := by
  refine ⟨⟨derive_radio, leadsTo_filledRadio (.inl rfl), ?_⟩,
    derive_radio, leadsTo_filledRadio (.inr rfl), ?_⟩
  · obtain ⟨ps, resolved, accepted⟩ := Device.derive_dotted
      (d := radio (some "PORT.RX.DATA")) (i := 0) (j := 0) (by decide) rfl rfl rfl
      isDottedPath_receiver derive_radio (leadsTo_filledRadio (.inl rfl))
    have derives : ∃ d', (radio (some "PORT.RX.DATA")).derive = .ok d' := ⟨_, rfl⟩
    exact ⟨ps, resolved, derives, (accepted.1 derives).1⟩
  · obtain ⟨ps, resolved, accepted⟩ := Device.derive_dotted
      (d := radio (some "PORT.TX.DATA")) (i := 0) (j := 0) (by decide) rfl rfl rfl
      isDottedPath_transmitter derive_radio (leadsTo_filledRadio (.inr rfl))
    intro derives
    cases resolved
    obtain ⟨layout, -⟩ := (accepted.1 derives).1 _ (List.mem_singleton_self _) rfl _ rfl
    cases layout

/-- In the port no register but one is derived. -/
theorem everywhere_radio (reference : Option String) : ∀ q ∈ (radio reference).peripherals,
    q.contents.Everywhere fun t => ∀ r, t = .register r →
      r = { name := "COPY", offset := 32, derivedFrom := reference } ∨ r.derivedFrom = none := by
  have cluster : ∀ c : Cluster, ∀ r, Member.cluster c = .register r →
      r = { name := "COPY", offset := 32, derivedFrom := reference } ∨ r.derivedFrom = none :=
    fun c r same => nomatch same
  refine List.forall_mem_singleton.2 (Contents.everywhere_iff.2 ⟨?_, ?_⟩)
  · refine List.forall_mem_singleton.2 fun r same => .inl ?_
    cases same
    rfl
  · refine List.forall_mem_cons.2 ⟨⟨cluster _,
        Contents.everywhere_iff.2 ⟨?_, List.forall_mem_nil _⟩⟩,
      List.forall_mem_singleton.2 ⟨cluster _,
        Contents.everywhere_iff.2 ⟨List.forall_mem_nil _, List.forall_mem_nil _⟩⟩⟩
    refine List.forall_mem_singleton.2 fun r same => .inr ?_
    cases same
    rfl

/-- It is not enough that the path leads to a register of the completed device, even if no other
register is derived. -/
theorem not_forall_derive_dotted : ¬∀ (d d₀' : Device) (i j : Nat) (p : Peripheral)
    (m target : Register) (reference head : String) (names : List String),
    (d.peripherals.map (·.name)).Nodup → d.peripherals[i]? = some p → p.registers[j]? = some m →
    m.derivedFrom = some reference → IsDottedPath reference head names →
    (d.withoutReference i j).derive = .ok d₀' → d₀'.LeadsTo head names (.register target) →
    target.name ≠ m.name →
    (∀ q ∈ d.peripherals, q.contents.Everywhere fun t =>
      ∀ r, t = .register r → r = m ∨ r.derivedFrom = none) →
    ∃ d', d.derive = .ok d' := by
  intro h
  obtain ⟨d', derives⟩ := h (radio (some "PORT.TX.DATA")) filledRadio 0 0 _ _ _ _ _ _ (by decide)
    rfl rfl rfl isDottedPath_transmitter derive_radio (leadsTo_filledRadio (.inr rfl))
    (by decide : ("DATA" : String) ≠ "COPY") (everywhere_radio _)
  have rejected : (radio (some "PORT.TX.DATA")).derive =
      .error (.targetNotFound "PORT.TX.DATA") := rfl
  cases rejected.symm.trans derives

end RegisterMap
