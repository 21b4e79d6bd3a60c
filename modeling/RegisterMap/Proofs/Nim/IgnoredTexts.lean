import RegisterMap.Nim.Module
import RegisterMap.Proofs.Device.Undecorated

/-!
# Ignored texts

The options can leave out the texts that peripherals put before or after the names of their
registers. The types and the constant of a peripheral look at its texts through its decoration
alone, and nothing else looks at them at all. So to leave them out is to generate the module of a
device that never had them.

## Main definitions

* `Options.ignoring` : options that leave out texts, besides those that they left out before.

## Main results

* `generate_undecorated` : the module of a device without texts is the module with them left out.
* `prepare_generate_undecorated` : so it is for the device before it is prepared.
-/

namespace RegisterMap.Nim

variable (before after : Bool) (options : Options)

/-- The options, leaving out the text before the names of registers, the text after them, or
both. -/
def Options.ignoring : Options :=
  { options with
    ignorePrepend := options.ignorePrepend || before
    ignoreAppend := options.ignoreAppend || after }

/-- A text that is left out might as well not be there. -/
theorem Decoration.ofPeripheral_undecorated (p : Peripheral) :
    ofPeripheral (p.undecorated before after) options =
      ofPeripheral p (options.ignoring before after) := by
  obtain ⟨ignorePrepend, ignoreAppend, strict⟩ := options
  cases ignorePrepend <;> cases ignoreAppend <;> cases before <;> cases after <;> rfl

/-! ### Type names -/

theorem assignPeripherals_undecorated (ps : List Peripheral) (reg : Registry Owner) :
    assignPeripherals (ps.map (·.undecorated before after)) reg = assignPeripherals ps reg := by
  induction ps generalizing reg with
  | nil => rfl
  | cons p ps ih =>
    have first : assignPeripheral (p.undecorated before after) reg = assignPeripheral p reg := rfl
    rw [List.map_cons, assignPeripherals, first]
    simp only [ih]
    rfl

theorem TypeNames.ofDevice_undecorated (d : Device) :
    ofDevice (d.undecorated before after) = ofDevice d := by
  rw [ofDevice, ofDevice, Device.undecorated, assignPeripherals_undecorated]

/-! ### Types, constants and declarations -/

section

variable (names : TypeNames)

theorem nodeTypes_undecorated (p : Peripheral) :
    nodeTypes names options (p.undecorated before after) =
      nodeTypes names (options.ignoring before after) p := by
  rw [nodeTypes, nodeTypes, Decoration.ofPeripheral_undecorated]
  rfl

theorem deviceTypes_undecorated (d : Device) :
    deviceTypes names options (d.undecorated before after) =
      deviceTypes names (options.ignoring before after) d := by
  rw [deviceTypes, deviceTypes, Device.undecorated, List.foldlM_map]
  simp only [nodeTypes_undecorated]
  rfl

theorem Instance.ofPeripheral_undecorated (p : Peripheral) :
    ofPeripheral names options (p.undecorated before after) =
      ofPeripheral names (options.ignoring before after) p := by
  rw [ofPeripheral, ofPeripheral, Decoration.ofPeripheral_undecorated]
  rfl

theorem Tables.defineAll_undecorated (t : Tables) (ps : List Peripheral) :
    t.defineAll names (ps.map (·.undecorated before after)) = t.defineAll names ps := by
  induction ps generalizing t with
  | nil => rfl
  | cons p ps ih =>
    have first : t.define names (p.undecorated before after) = t.define names p := rfl
    rw [List.map_cons, defineAll, defineAll, first]
    simp only [ih]

end

/-! ### Modules -/

theorem Module.ofDevice_undecorated (d : Device) :
    ofDevice options (d.undecorated before after) =
      ofDevice (options.ignoring before after) d := by
  have interrupts : (d.undecorated before after).interrupts = d.interrupts := by
    rw [Device.interrupts, Device.undecorated, List.flatMap_map]
    rfl
  have instances : (d.undecorated before after).peripherals.mapM
      (Instance.ofPeripheral (.ofDevice d) options) =
        d.peripherals.mapM
          (Instance.ofPeripheral (.ofDevice d) (options.ignoring before after)) := by
    rw [Device.undecorated, List.mapM_map]
    exact congrArg (d.peripherals.mapM ·)
      (funext (Instance.ofPeripheral_undecorated before after options _))
  have declarations : ∀ t : Tables, t.defineAll (.ofDevice d)
      (d.undecorated before after).peripherals = t.defineAll (.ofDevice d) d.peripherals :=
    fun t => t.defineAll_undecorated before after _ d.peripherals
  rw [ofDevice, ofDevice, TypeNames.ofDevice_undecorated, Device.validate_undecorated]
  simp only [deviceTypes_undecorated, instances, declarations, interrupts]
  rfl

/-- The module of a device without texts is the module of the device with them left out, to the last
line that is written on the way. -/
theorem generate_undecorated (d : Device) :
    generate options (d.undecorated before after) = generate (options.ignoring before after) d := by
  rw [generate, generate, Module.ofDevice_undecorated]

/-- The texts may be taken away before a device is prepared. -/
theorem prepare_generate_undecorated (d : Device) :
    (d.undecorated before after).prepare >>= generate options =
      d.prepare >>= generate (options.ignoring before after) := by
  rw [Device.prepare_undecorated, bind_map_left]
  simp only [generate_undecorated]

end RegisterMap.Nim
