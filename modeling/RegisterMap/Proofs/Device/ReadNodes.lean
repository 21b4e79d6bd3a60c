import RegisterMap.Device.Reader
import RegisterMap.Proofs.Outcome

/-!
# What is read of a node

The element of a node is read part by part. This file says of each kind of node what a successful
reading has found in its element: the text of its name, and the elements of the nodes in it, each of
which has been read in its turn. A reading that fails blames the description of the device.

## Main definitions

* `HoldsNothing` : an element gives no text under a tag.
* `IsOfDocument` : a fault lies in the description of a device.
* `fieldElements`, `memberElement`, `peripheralElements` : where the elements of inner nodes stand.
* `ReadsMembers` : the members in an element are read as what a node holds.

## Main results

* `outcome_readField` : a field is read if it has a name and a range of bits.
* `readRegister_eq_ok`, `readCluster_eq_ok`, `readPeripheral_eq_ok`, `Device.read_eq_ok` : what has
  been read of a node.
* `Device.read_failsOnlyFor` : reading fails only for what lies in the description.
-/

namespace RegisterMap

open Xml (Element)

variable {e : Element}

/-! ### Texts -/

/-- The element gives no text under the tag: it has no child of that tag, or the first one is
empty. -/
def HoldsNothing (e : Element) (tag : String) : Prop := ∀ child ∈ e.child? tag, child.text = ""

theorem childText?_eq_none_iff {tag : String} : childText? e tag = none ↔ HoldsNothing e tag := by
  unfold childText? HoldsNothing
  cases e.child? tag <;> simp

theorem childText?_eq_some_iff {tag text : String} : childText? e tag = some text ↔
    ∃ child, e.child? tag = some child ∧ child.text ≠ "" ∧ Text.strip child.text = text := by
  unfold childText?
  cases e.child? tag <;> simp

/-! ### Values -/

/-- An unknown access is reported, but it is no fault. -/
theorem exists_outcome_readProperties (e : Element) :
    ∃ properties, (readProperties e).outcome = .ok properties := by
  have access : ∀ text, ∃ a, (readAccess text).outcome = .ok a := by
    intro text
    unfold readAccess
    split
    · exact ⟨none, rfl⟩
    · split
      · exact ⟨some _, rfl⟩
      · exact ⟨none, rfl⟩
  obtain ⟨a, ha⟩ := access (childText? e "access")
  refine ⟨⟨childInteger? e "size", a⟩, ?_⟩
  rw [readProperties, Logged.outcome_bind, ha]
  rfl

/-- A named value that is no number is reported, but it is no fault. -/
theorem exists_outcome_readEnumeratedValue (e : Element) :
    ∃ value, ∀ owner, (readEnumeratedValue owner e).outcome = .ok value := by
  unfold readEnumeratedValue
  split
  · split
    · exact ⟨some _, fun _ => rfl⟩
    · exact ⟨none, fun _ => rfl⟩
  · exact ⟨none, fun _ => rfl⟩

theorem exists_outcome_readEnumeratedValues (e : Element) :
    ∃ values, ∀ owner, (readEnumeratedValues owner e).outcome = .ok values := by
  choose value hvalue using exists_outcome_readEnumeratedValue
  refine ⟨{
    values := ((e.childrenNamed "enumeratedValue").map value).filterMap id
    name := childText? e "name"
    headerName := childText? e "headerEnumName"
    derivedFrom := e.attribute? "derivedFrom" }, fun owner => ?_⟩
  rw [readEnumeratedValues, Logged.outcome_bind, Logged.outcome_mapM,
    mapM_eq_pure fun child _ => hvalue child owner]
  rfl

/-! ### Nodes that are read -/

/-- A field is read if it has a name and a range of bits. -/
theorem outcome_readField (register : String) (e : Element) :
    ∃ enumeratedValues, (readField register e).outcome = (do
      let name ← readName e ("field of register " ++ register)
      let (lsb, msb) ← readBitRange e ("field " ++ register ++ "." ++ name)
      pure {
        name, lsb, msb, enumeratedValues
        description := childDescription? e
        repetition := readRepetition e
        derivedFrom := e.attribute? "derivedFrom" }) := by
  have values : ∃ values, ∀ owner,
      ((e.child? "enumeratedValues").mapM (readEnumeratedValues owner)).outcome = .ok values := by
    cases e.child? "enumeratedValues" with
    | none => exact ⟨none, fun _ => rfl⟩
    | some child =>
      obtain ⟨values, hvalues⟩ := exists_outcome_readEnumeratedValues child
      refine ⟨some values, fun owner => ?_⟩
      rw [Option.mapM_some, map_eq_pure_bind, Logged.outcome_bind, hvalues]
      rfl
  obtain ⟨values, hvalues⟩ := values
  refine ⟨values, ?_⟩
  rw [readField, Logged.outcome_bind]
  refine congrArg _ (funext fun name => ?_)
  rw [Logged.outcome_bind]
  refine congrArg _ (funext fun range => ?_)
  rw [Logged.outcome_bind, hvalues]
  rfl

theorem readField_eq_ok {register : String} {f : BitField}
    (h : (readField register e).outcome = .ok f) : childText? e "name" = some f.name := by
  obtain ⟨values, outcome⟩ := outcome_readField register e
  rw [outcome] at h
  obtain ⟨name, hname, h⟩ := bind_eq_ok_iff.1 h
  obtain ⟨range, -, h⟩ := bind_eq_ok_iff.1 h
  cases Except.ok.inj h
  exact readName_eq_ok.1 hname

/-- The elements of a register's fields. -/
def fieldElements (e : Element) : List Element :=
  ((e.child? "fields").map (·.childrenNamed "field")).getD []

/-- The fields of a register are read one after the other, if there is a place for them. -/
theorem readRegister_eq (e : Element) : readRegister e = (do
    let name ← readName e "register"
    let fields ← (fieldElements e).mapM (readField name)
    let properties ← readProperties e
    pure {
      name, fields, properties
      offset := (childInteger? e "addressOffset").getD 0
      repetition := readRepetition e
      description := childDescription? e
      resetValue := childInteger? e "resetValue"
      derivedFrom := e.attribute? "derivedFrom" }) := by
  rw [readRegister, fieldElements]
  cases e.child? "fields" <;> rfl

/-- A register that is read has its name and fields. -/
theorem readRegister_eq_ok {r : Register} (h : (readRegister e).outcome = .ok r) :
    childText? e "name" = some r.name ∧
      List.Forall₂ (fun f field => (readField r.name f).outcome = .ok field) (fieldElements e)
        r.fields := by
  rw [readRegister_eq] at h
  obtain ⟨name, hname, h⟩ := Logged.outcome_bind_eq_ok_iff.1 h
  obtain ⟨fields, hfields, h⟩ := Logged.outcome_bind_eq_ok_iff.1 h
  obtain ⟨properties, -, h⟩ := Logged.outcome_bind_eq_ok_iff.1 h
  cases Except.ok.inj h
  exact ⟨readName_eq_ok.1 hname, mapM_eq_ok_iff.1 ((Logged.outcome_mapM ..).symm.trans hfields)⟩

/-- The members that stand in an element are read as what a node holds. -/
structure ReadsMembers (e : Element) (c : Contents) : Prop where
  registers : List.Forall₂ (fun r register => (readRegister r).outcome = .ok register)
    (e.childrenNamed "register") c.registers
  clusters : List.Forall₂ (fun k cluster => (readCluster k).outcome = .ok cluster)
    (e.childrenNamed "cluster") c.clusters

theorem ReadsMembers.of_outcome {c : Contents}
    (registers : (readRegisters e).outcome = .ok c.registers)
    (clusters : (readClusters e.children).outcome = .ok c.clusters) : ReadsMembers e c := by
  constructor
  · exact mapM_eq_ok_iff.1 ((Logged.outcome_mapM ..).symm.trans registers)
  · rw [readClusters_eq_mapM] at clusters
    exact mapM_eq_ok_iff.1 ((Logged.outcome_mapM ..).symm.trans clusters)

/-- A cluster that is read has its name and members. -/
theorem readCluster_eq_ok {c : Cluster} (h : (readCluster e).outcome = .ok c) :
    childText? e "name" = some c.name ∧ ReadsMembers e c.contents := by
  rw [readCluster_eq] at h
  obtain ⟨name, hname, h⟩ := Logged.outcome_bind_eq_ok_iff.1 h
  obtain ⟨registers, hregisters, h⟩ := Logged.outcome_bind_eq_ok_iff.1 h
  obtain ⟨clusters, hclusters, h⟩ := Logged.outcome_bind_eq_ok_iff.1 h
  obtain ⟨properties, -, h⟩ := Logged.outcome_bind_eq_ok_iff.1 h
  cases Except.ok.inj h
  exact ⟨readName_eq_ok.1 hname, .of_outcome hregisters hclusters⟩

theorem readInterrupt_eq_ok {peripheral : String} {i : Interrupt}
    (h : readInterrupt peripheral e = .ok i) : childText? e "name" = some i.name := by
  rw [readInterrupt] at h
  obtain ⟨name, hname, h⟩ := bind_eq_ok_iff.1 h
  split at h
  · cases Except.ok.inj h
    exact readName_eq_ok.1 hname
  · cases h

/-- The element that the members of a peripheral stand in. -/
def memberElement (e : Element) : Element := (e.child? "registers").getD { tag := "registers" }

/-- A peripheral that is read has its name, members and interrupts. -/
theorem readPeripheral_eq_ok {p : Peripheral} (h : (readPeripheral e).outcome = .ok p) :
    childText? e "name" = some p.name ∧ ReadsMembers (memberElement e) p.contents ∧
      List.Forall₂ (fun i interrupt => readInterrupt p.name i = .ok interrupt)
        (e.childrenNamed "interrupt") p.interrupts := by
  rw [readPeripheral] at h
  obtain ⟨name, hname, h⟩ := Logged.outcome_bind_eq_ok_iff.1 h
  obtain ⟨registers, hregisters, h⟩ := Logged.outcome_bind_eq_ok_iff.1 h
  obtain ⟨clusters, hclusters, h⟩ := Logged.outcome_bind_eq_ok_iff.1 h
  obtain ⟨interrupts, hinterrupts, h⟩ := Logged.outcome_bind_eq_ok_iff.1 h
  obtain ⟨properties, -, h⟩ := Logged.outcome_bind_eq_ok_iff.1 h
  cases Except.ok.inj h
  exact ⟨readName_eq_ok.1 hname, .of_outcome hregisters hclusters, mapM_eq_ok_iff.1 hinterrupts⟩

/-- The elements of a device's peripherals. -/
def peripheralElements (e : Element) : List Element :=
  ((e.child? "peripherals").map (·.childrenNamed "peripheral")).getD []

/-- A device that is read has its peripherals. -/
theorem Device.read_eq_ok {defaultName : String} {d : Device}
    (h : (Device.read defaultName e).outcome = .ok d) :
    List.Forall₂ (fun p peripheral => (readPeripheral p).outcome = .ok peripheral)
      (peripheralElements e) d.peripherals := by
  rw [Device.read] at h
  split at h
  · cases h
  · obtain ⟨peripherals, hperipherals, h⟩ := Logged.outcome_bind_eq_ok_iff.1 h
    obtain ⟨properties, -, h⟩ := Logged.outcome_bind_eq_ok_iff.1 h
    cases Except.ok.inj h
    rw [readPeripherals] at hperipherals
    rw [peripheralElements]
    split at hperipherals
    · next place found =>
      rw [found]
      exact mapM_eq_ok_iff.1 ((Logged.outcome_mapM ..).symm.trans hperipherals)
    · next missing =>
      rw [missing]
      cases Except.ok.inj hperipherals
      exact .nil

/-! ### Faults -/

/-- The fault lies in the description of the device. -/
def IsOfDocument (fault : Fault) : Prop := fault.kind = .document

theorem readName_failsOnlyFor (owner : String) : FailsOnlyFor IsOfDocument (readName e owner) := by
  intro fault h
  unfold readName at h
  split at h <;> cases h
  rfl

theorem readBitRange_failsOnlyFor (owner : String) :
    FailsOnlyFor IsOfDocument (readBitRange e owner) := by
  intro fault h
  unfold readBitRange at h
  repeat' split at h
  all_goals cases h
  all_goals rfl

theorem readField_failsOnlyFor (register : String) (e : Element) :
    FailsOnlyFor IsOfDocument (readField register e).outcome := by
  obtain ⟨values, outcome⟩ := outcome_readField register e
  rw [outcome]
  exact (readName_failsOnlyFor _).bind fun name _ =>
    (readBitRange_failsOnlyFor _).bind fun range _ => .of_eq_ok rfl

/-- Properties are always read. -/
theorem readProperties_failsOnlyFor {α : Type} {rest : Properties → Logged α}
    (h : ∀ properties, FailsOnlyFor IsOfDocument (rest properties).outcome) :
    FailsOnlyFor IsOfDocument (readProperties e >>= rest).outcome := by
  obtain ⟨properties, hproperties⟩ := exists_outcome_readProperties e
  rw [Logged.outcome_bind, hproperties]
  exact h properties

theorem readRegister_failsOnlyFor (e : Element) :
    FailsOnlyFor IsOfDocument (readRegister e).outcome := by
  rw [readRegister_eq, Logged.outcome_bind]
  refine (readName_failsOnlyFor _).bind fun name _ => ?_
  rw [Logged.outcome_bind, Logged.outcome_mapM]
  exact (FailsOnlyFor.mapM fun f _ => readField_failsOnlyFor name f).bind fun fields _ =>
    readProperties_failsOnlyFor fun properties => .of_eq_ok rfl

theorem readRegisters_failsOnlyFor (e : Element) :
    FailsOnlyFor IsOfDocument (readRegisters e).outcome := by
  rw [readRegisters, Logged.outcome_mapM]
  exact .mapM fun r _ => readRegister_failsOnlyFor r

/-- Clusters nest, so this goes by induction on the element. -/
theorem readCluster_failsOnlyFor (e : Element) :
    FailsOnlyFor IsOfDocument (readCluster e).outcome := by
  induction e using Element.induction with
  | step e ih =>
    have clusters : FailsOnlyFor IsOfDocument (readClusters e.children).outcome := by
      rw [readClusters_eq_mapM, Logged.outcome_mapM]
      exact .mapM fun k hk => ih k (List.mem_filter.1 hk).1
    rw [readCluster_eq, Logged.outcome_bind]
    refine (readName_failsOnlyFor _).bind fun name _ => ?_
    rw [Logged.outcome_bind]
    refine (readRegisters_failsOnlyFor e).bind fun registers _ => ?_
    rw [Logged.outcome_bind]
    exact clusters.bind fun clusters _ =>
      readProperties_failsOnlyFor fun properties => .of_eq_ok rfl

theorem readInterrupt_failsOnlyFor (peripheral : String) (e : Element) :
    FailsOnlyFor IsOfDocument (readInterrupt peripheral e) := by
  rw [readInterrupt]
  refine (readName_failsOnlyFor _).bind fun name _ => ?_
  split
  · exact .of_eq_ok rfl
  · intro fault h
    cases h
    rfl

theorem readPeripheral_failsOnlyFor (e : Element) :
    FailsOnlyFor IsOfDocument (readPeripheral e).outcome := by
  rw [readPeripheral, Logged.outcome_bind]
  refine (readName_failsOnlyFor _).bind fun name _ => ?_
  rw [Logged.outcome_bind]
  refine (readRegisters_failsOnlyFor _).bind fun registers _ => ?_
  rw [Logged.outcome_bind, readClusters_eq_mapM, Logged.outcome_mapM]
  refine (FailsOnlyFor.mapM fun k _ => readCluster_failsOnlyFor k).bind fun clusters _ => ?_
  rw [Logged.outcome_bind]
  exact FailsOnlyFor.bind (.mapM fun i _ => readInterrupt_failsOnlyFor name i) fun interrupts _ =>
    readProperties_failsOnlyFor fun properties => .of_eq_ok rfl

/-- Reading a device fails only for what lies in its description. -/
theorem Device.read_failsOnlyFor (defaultName : String) (e : Element) :
    FailsOnlyFor IsOfDocument (Device.read defaultName e).outcome := by
  rw [Device.read]
  split
  · intro fault h
    cases h
    rfl
  · rw [Logged.outcome_bind]
    refine FailsOnlyFor.bind ?_ fun peripherals _ =>
      readProperties_failsOnlyFor fun properties => .of_eq_ok rfl
    rw [readPeripherals]
    split
    · rw [Logged.outcome_mapM]
      exact .mapM fun p _ => readPeripheral_failsOnlyFor p
    · exact .of_eq_ok rfl

end RegisterMap
