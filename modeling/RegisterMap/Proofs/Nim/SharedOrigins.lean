import RegisterMap.Proofs.Device.Provenance
import RegisterMap.Proofs.Nim.RepeatedEntries

/-!
# Types of copies and of lists

Deriving a peripheral without declaring anything for it, and declaring a list of peripherals, are
the two ways to have one layout at several places. In both the module declares the layout once:
everything made for one of the places is made for the others, under the same names.

## Main definitions

* `AreAlike` : two peripherals share their declarations and add nothing to each other's.

## Main results

* `areAlike_of_prepare` : what comes from a copy or its base is alike, and so is what comes from one
  list.
-/

namespace RegisterMap.Nim

/-- Two peripherals have one set of names and declarations, and neither adds a conflict to those of
the other, in whatever order the two are entered and whatever is entered in between. -/
structure AreAlike (names : TypeNames) (x y : Peripheral) : Prop where
  shares : SharesDeclarations names x y
  addsNothing : ∀ options, AddsNothing names options x y ∧ AddsNothing names options y x

theorem SharesDeclarations.symm {names : TypeNames} {x y : Peripheral}
    (h : SharesDeclarations names x y) : SharesDeclarations names y x where
  lookup_iff rel typeName := (h.lookup_iff rel typeName).symm
  nodeTypes options := (h.nodeTypes options).symm
  fieldStructs := h.fieldStructs.symm
  enumTypes := h.enumTypes.symm
  accessors := h.accessors.symm

theorem AreAlike.of_sameLayout {d : Device} {x y : Peripheral}
    (distinct : (d.peripherals.map (·.name)).Nodup) (hx : x ∈ d.peripherals)
    (hy : y ∈ d.peripherals) (layout : x.SameLayout y) : AreAlike (TypeNames.ofDevice d) x y := by
  have shares := SharesDeclarations.of_sameLayout distinct hx hy layout
  exact ⟨shares, fun options => ⟨shares.addsNothing options, shares.symm.addsNothing options⟩⟩

/-- **Copies and lists share their types.** Of a prepared device whose peripherals have different
names, every peripheral comes from a declared one. All that come from a copy or from its base are
alike, and so are all that come from one peripheral, as the instances of a list do. The layout needs
a name of its own for this, as it has unless a list is named by its placeholder alone. -/
theorem areAlike_of_prepare {d d' : Device} (h : d.prepare.outcome = .ok d')
    (distinct : (d'.peripherals.map (·.name)).Nodup) :
    (∀ x, x ∈ d'.peripherals ↔ ∃ p ∈ d.peripherals, d.ComesFrom p x) ∧
    (∀ p ∈ d.peripherals, ∀ base ∈ d.peripherals, p.IsCopyOf base → d.NamesLayout base →
      ∀ x y, (d.ComesFrom p x ∨ d.ComesFrom base x) → (d.ComesFrom p y ∨ d.ComesFrom base y) →
        AreAlike (TypeNames.ofDevice d') x y) ∧
    ∀ p ∈ d.peripherals, d.NamesLayout p → ∀ x y, d.ComesFrom p x → d.ComesFrom p y →
      AreAlike (TypeNames.ofDevice d') x y := by
  have apart := Device.nodup_names_of_prepare h distinct
  have origin : ∀ x, x ∈ d'.peripherals ↔ ∃ p ∈ d.peripherals, d.ComesFrom p x := fun x =>
    Device.mem_prepare_iff h
  refine ⟨origin, fun p hp base hbase copy named x y hx hy => ?_,
    fun p hp named x y hx hy => ?_⟩
  · have present : ∀ z, d.ComesFrom p z ∨ d.ComesFrom base z → z ∈ d'.peripherals := fun z hz =>
      (origin z).2 (hz.elim (fun hz => ⟨p, hp, hz⟩) fun hz => ⟨base, hbase, hz⟩)
    exact .of_sameLayout distinct (present x hx) (present y hy)
      (Device.sameLayout_of_isCopyOf apart copy hbase named hx hy)
  · exact .of_sameLayout distinct ((origin x).2 ⟨p, hp, hx⟩) ((origin y).2 ⟨p, hp, hy⟩)
      (Device.sameLayout_of_comesFrom apart named hx hy)

/-- A list of two timers. -/
def timerList : Peripheral where
  name := "TIM%s"
  baseAddress := 0x40000000
  repetition := some { count := some 2, increment := some 0x100 }
  registers := [{ name := "CTRL", offset := 0, fields := [{ name := "MODE", lsb := 0, msb := 1 }] }]

/-- A timer derived from the list. -/
def derivedTimer : Peripheral where
  name := "AUX"
  baseAddress := 0x40001000
  derivedFrom := some "TIM%s"

/-- A list of timers, and one more timer derived from it. -/
def timers : Device where
  name := "BOARD"
  peripherals := [timerList, derivedTimer]

/-- The two timers of the list and the derived one are alike, under the names that the list has. -/
theorem areAlike_of_prepare_timers : ∃ d', timers.prepare.outcome = .ok d' ∧
    d'.peripherals.map (·.name) = ["TIM0", "TIM1", "AUX"] ∧
    (TypeNames.ofDevice d').lookup ["AUX", "CTRL"] = .ok "TIM_CTRL_Type" ∧
    ∀ x ∈ d'.peripherals, ∀ y ∈ d'.peripherals, AreAlike (TypeNames.ofDevice d') x y := by
  have run : (timers.prepare.outcome.map fun d' => (d'.peripherals.map (·.name),
      (TypeNames.ofDevice d').lookup ["AUX", "CTRL"])) =
        .ok (["TIM0", "TIM1", "AUX"], .ok "TIM_CTRL_Type") := by
    decide +kernel
  obtain ⟨d', h, results⟩ := map_eq_ok_iff.1 run
  obtain ⟨names, typeName⟩ := Prod.mk.inj results
  obtain ⟨origin, copies, -⟩ := areAlike_of_prepare h (by rw [names]; decide)
  have copy : derivedTimer.IsCopyOf timerList :=
    ⟨rfl, by decide, rfl, rfl, rfl, rfl, rfl, rfl, rfl⟩
  have named : timers.NamesLayout timerList := .inl (by decide)
  have declared : timerList ∈ timers.peripherals ∧ derivedTimer ∈ timers.peripherals :=
    ⟨List.mem_cons_self, List.mem_cons_of_mem _ List.mem_cons_self⟩
  have comes : ∀ x ∈ d'.peripherals,
      timers.ComesFrom derivedTimer x ∨ timers.ComesFrom timerList x := by
    intro x hx
    obtain ⟨p, hp, source⟩ := (origin x).1 hx
    rcases List.mem_cons.1 hp with rfl | hp
    · exact .inr source
    · rw [List.mem_singleton.1 hp] at source
      exact .inl source
  refine ⟨d', h, names, typeName, fun x hx y hy => ?_⟩
  exact copies derivedTimer declared.2 timerList declared.1 copy named x y (comes x hx) (comes y hy)

end RegisterMap.Nim
