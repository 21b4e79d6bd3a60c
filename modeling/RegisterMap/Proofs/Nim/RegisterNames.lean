import RegisterMap.Proofs.Nim.IgnoredTexts
import RegisterMap.Proofs.Nim.NodeTypes
import RegisterMap.Proofs.Nim.RepeatedEntries
import RegisterMap.Proofs.Nim.Values

/-!
# Names of registers

The texts that a peripheral puts before and after the names of its registers reach a module through
the names of members. Two runs for one device that ignore different texts go through the same steps.
They find the same type names and the same layouts, and make types and constants that differ in
nothing but the names of registers. So the two modules differ in nothing else.

There is one step that compares types. Where two types have one name, a strict run fails if they are
different, and to that the names of registers count.

## Main definitions

* `SameFields` : the fields of a node's type, but for the names of registers.
* `SameType` : two types of one node, but for the names of its registers.
* `Value.withoutRegisterNames` : a value without the names of registers.
* `FirstWins.Corresponds` : two tables of the same names with related definitions.
* `Module.SameButRegisterNames` : two modules, but for the names of registers.
* `Fault.IsTypeConflict` : two different types have one name.

## Main results

* `nodeTypes_agree`, `Instance.ofPeripheral_agree` : types and constants of a peripheral.
* `FirstWins.Corresponds.define` : related definitions are entered alike.
* `Module.ofDevice_agree` : two modules of one device.
* `generate_without_texts` : to ignore texts is to lack them, and they name registers only.
-/

namespace RegisterMap

/-- Two different types have one name. -/
def Fault.IsTypeConflict : Fault → Prop
  | .conflict kind _ => kind = "type"
  | _ => False

/-- A node in a node in a node. -/
theorem Contents.HasNode.trans {path q q' : NodePath} {c e e' : Contents} (h : c.HasNode path q e)
    (h' : e.HasNode q q' e') : c.HasNode path q' e' := by
  induction h with
  | self path c => exact h'
  | cluster hc _ ih => exact .cluster hc (ih h')

namespace Nim

/-- A node puts nodes of its own on the work list. -/
theorem hasNode_clusterWork {path q : NodePath} {c e : Contents} (h : c.HasNode path q e) :
    ∀ w ∈ clusterWork q e.clusters, c.HasNode path w.1 w.2.contents := by
  intro w hw
  obtain ⟨inner, hc, rfl⟩ := mem_clusterWork.1 hw
  exact h.trans (.cluster hc (.self _ _))

/-! ### Types -/

/-- Fields for the members of a node that are the same, but for the names of those that stand for
registers. -/
inductive SameFields : List Member → List ObjectField → List ObjectField → Prop
  | nil : SameFields [] [] []
  | register {ms : List Member} {fs fs' : List ObjectField} (r : Register) (f : ObjectField)
      (name : String) (rest : SameFields ms fs fs') :
      SameFields (.register r :: ms) (f :: fs) ({ f with name } :: fs')
  | cluster {ms : List Member} {fs fs' : List ObjectField} (c : Cluster) (f : ObjectField)
      (rest : SameFields ms fs fs') : SameFields (.cluster c :: ms) (f :: fs) (f :: fs')

/-- Two types are the same, or they are types of one node of the device that are the same but for
the names of the node's registers. -/
inductive SameType (d : Device) : ObjectType → ObjectType → Prop
  | refl (t : ObjectType) : SameType d t t
  | node {p : Peripheral} {path : NodePath} {c : Contents} {name : String}
      {fs fs' : List ObjectField} (hp : p ∈ d.peripherals)
      (hn : p.contents.HasNode [p.name] path c)
      (hname : (TypeNames.ofDevice d).lookup path = .ok name)
      (fields : SameFields c.sortedMembers fs fs') :
      SameType d { name, fields := fs } { name, fields := fs' }

theorem SameType.name_eq {d : Device} {t t' : ObjectType} (h : SameType d t t') :
    t.name = t'.name := by
  cases h <;> rfl

section

variable {P : Fault → Prop} {d : Device} {decoration decoration' : Decoration} {path : NodePath}

/-- The name of a field is all that differs, and it does so for registers alone. -/
theorem memberFields_agree (names : TypeNames) (ms : List Member) :
    AgreeUnless P (SameFields ms) (ms.mapM (memberField names decoration path))
      (ms.mapM (memberField names decoration' path)) := by
  induction ms with
  | nil => exact .ok .nil
  | cons m ms ih =>
    have first : AgreeUnless P
        (fun f f' => ∃ type, f = { name := decoration.memberName m, type } ∧
          f' = { name := decoration'.memberName m, type })
        (memberField names decoration path m) (memberField names decoration' path m) :=
      .same_bind _ fun _ _ => .same_bind _ fun type _ => .ok ⟨type, rfl, rfl⟩
    rw [List.mapM_cons, List.mapM_cons]
    refine first.bind ?_
    rintro _ _ ⟨type, rfl, rfl⟩
    refine ih.bind fun fs fs' rest => .ok ?_
    cases m with
    | register r => exact .register r _ _ rest
    | cluster c => exact .cluster c _ rest

theorem compositeType_agree {p : Peripheral} (hp : p ∈ d.peripherals) {c : Contents}
    (hn : p.contents.HasNode [p.name] path c) :
    AgreeUnless P (SameType d) (compositeType (.ofDevice d) decoration path c)
      (compositeType (.ofDevice d) decoration' path c) :=
  .same_bind _ fun _ hname => (memberFields_agree _ _).bind fun _ _ fields =>
    .ok (.node hp hn hname fields)

/-- The work list takes the same way. -/
theorem collectTypes_agree {p : Peripheral} (hp : p ∈ d.peripherals)
    {work : List (NodePath × Cluster)} {found found' : List ObjectType}
    (hwork : ∀ w ∈ work, p.contents.HasNode [p.name] w.1 w.2.contents)
    (hfound : List.Forall₂ (SameType d) found found') :
    AgreeUnless P (List.Forall₂ (SameType d)) (collectTypes (.ofDevice d) decoration work found)
      (collectTypes (.ofDevice d) decoration' work found') := by
  induction work, found using collectTypes.induct generalizing found' with
  | case1 found =>
    rw [collectTypes, collectTypes]
    exact .ok hfound
  | case2 path c work found ih =>
    obtain ⟨node, rest⟩ := List.forall_mem_cons.1 hwork
    rw [collectTypes, collectTypes]
    refine (compositeType_agree hp node).bind fun own own' hown =>
      .same_bind _ fun registers _ => ?_
    exact ih own registers (List.forall_mem_append.2 ⟨hasNode_clusterWork node, rest⟩)
      (List.rel_append (List.forall₂_same.2 fun t _ => .refl t) (.cons hown hfound))

/-- The types of a peripheral, with different texts ignored. -/
theorem nodeTypes_agree {p : Peripheral} (hp : p ∈ d.peripherals) (options options' : Options) :
    AgreeUnless P (List.Forall₂ (SameType d)) (nodeTypes (.ofDevice d) options p)
      (nodeTypes (.ofDevice d) options' p) := by
  have node : p.contents.HasNode [p.name] [p.name] p.contents := .self _ _
  refine (compositeType_agree hp node).bind fun own own' hown =>
    .same_bind _ fun registers _ => collectTypes_agree hp (hasNode_clusterWork node) ?_
  exact List.rel_append (List.forall₂_same.2 fun t _ => .refl t) (.cons hown .nil)

end

/-! ### Constants -/

namespace Value

/-- The value is a register or an array of registers. -/
def holdsRegister : Value → Bool
  | register _ _ => true
  | array (register _ _ :: _) => true
  | _ => false

mutual

/-- The value without the names of the registers in it. -/
def withoutRegisterNames : Value → Value
  | register typeName address => register typeName address
  | object typeName members => object typeName (membersWithoutRegisterNames members)
  | array elements => array (elementsWithoutRegisterNames elements)

/-- The members of an object without the names of registers, their own and those in them. -/
def membersWithoutRegisterNames : List (String × Value) → List (String × Value)
  | [] => []
  | (name, value) :: members =>
    (if value.holdsRegister then "" else name, value.withoutRegisterNames) ::
      membersWithoutRegisterNames members

/-- The elements of an array without the names of the registers in them. -/
def elementsWithoutRegisterNames : List Value → List Value
  | [] => []
  | value :: elements => value.withoutRegisterNames :: elementsWithoutRegisterNames elements

end

theorem elementsWithoutRegisterNames_eq_map (vs : List Value) :
    elementsWithoutRegisterNames vs = vs.map withoutRegisterNames := by
  induction vs with
  | nil => rfl
  | cons v vs ih => rw [elementsWithoutRegisterNames, ih, List.map_cons]

theorem holdsRegister_withoutRegisterNames (v : Value) :
    v.withoutRegisterNames.holdsRegister = v.holdsRegister := by
  rcases v with _ | _ | _ | ⟨_ | _, _⟩ <;> rfl

/-- Two values are the same, but for the names of registers. -/
def SameButNames (v v' : Value) : Prop := v.withoutRegisterNames = v'.withoutRegisterNames

/-- The members of two objects are the same, but for the names of registers. -/
def SameMembers (ms ms' : List (String × Value)) : Prop :=
  membersWithoutRegisterNames ms = membersWithoutRegisterNames ms'

theorem sameButNames_object {typeName : String} {ms ms' : List (String × Value)}
    (h : SameMembers ms ms') : (object typeName ms).SameButNames (object typeName ms') :=
  congrArg (object typeName) h

theorem sameButNames_array {vs vs' : List Value} (h : List.Forall₂ SameButNames vs vs') :
    (array vs).SameButNames (array vs') := by
  rw [SameButNames, withoutRegisterNames, withoutRegisterNames, elementsWithoutRegisterNames_eq_map,
    elementsWithoutRegisterNames_eq_map, map_eq_map_of_forall₂ h]

/-- The names of two members count only if they do not stand for registers. -/
theorem SameMembers.cons {name name' : String} {v v' : Value} {ms ms' : List (String × Value)}
    (same : v.SameButNames v') (h : v.holdsRegister = true ∨ name = name')
    (rest : SameMembers ms ms') : SameMembers ((name, v) :: ms) ((name', v') :: ms') := by
  have holds : v'.holdsRegister = v.holdsRegister := by
    rw [← holdsRegister_withoutRegisterNames, ← same, holdsRegister_withoutRegisterNames]
  rw [SameMembers, membersWithoutRegisterNames, membersWithoutRegisterNames, same, rest, holds]
  rcases h with h | rfl
  · rw [if_pos h, if_pos h]
  · rfl

end Value

theorem holdsRegister_of_registerValue {names : TypeNames} {path : NodePath} {base : Int}
    {r : Register} {v : Value} (h : registerValue names path base r = .ok v) :
    v.holdsRegister = true := by
  obtain ⟨typeName, -, ⟨-, rfl⟩ | ⟨-, l, hl, rfl⟩⟩ := registerValue_eq_ok h
  · rfl
  · cases hoffsets : l.offsets with
    | nil => exact absurd hoffsets (offsets_ne_nil hl)
    | cons distance distances => rfl

section

variable {P : Fault → Prop} {decoration decoration' : Decoration}

theorem objectValue_agree {members members' : Int → Except Fault (List (String × Value))}
    (h : ∀ base, AgreeUnless P Value.SameMembers (members base) (members' base))
    (typeName owner : String) (r : Option Repetition) (base : Int) :
    AgreeUnless P Value.SameButNames (objectValue typeName owner r base members)
      (objectValue typeName owner r base members') := by
  have object : ∀ base, AgreeUnless P Value.SameButNames
      (members base >>= fun ms => pure (Value.object typeName ms))
      (members' base >>= fun ms => pure (Value.object typeName ms)) :=
    fun base => (h base).bind fun _ _ same => .ok (Value.sameButNames_object same)
  rw [objectValue, objectValue]
  split
  · exact .same_bind _ fun l _ => (AgreeUnless.mapM fun distance _ => object (base + distance)).bind
      fun _ _ same => .ok (Value.sameButNames_array same)
  · exact object base

/-- The values of a node's members, at every depth. -/
theorem memberValues_agree (names : TypeNames) (path : NodePath) (base : Int) (c : Contents) :
    AgreeUnless P Value.SameMembers (memberValues names decoration path base c.nodes)
      (memberValues names decoration' path base c.nodes) := by
  induction c using Contents.induction generalizing path base with
  | step c ih =>
    have node : ∀ n ∈ c.nodes, AgreeUnless P
        (fun v v' => v.SameButNames v' ∧ (v.holdsRegister = true ∨
          decoration.memberName n.member = decoration'.memberName n.member))
        (nodeValue names decoration (path ++ [n.member.name]) base n)
        (nodeValue names decoration' (path ++ [n.member.name]) base n) := by
      intro n hn
      -- the value of a register shows that its name does not count; a cluster's has no text in it
      rcases Contents.mem_nodes.1 hn with ⟨r, -, rfl⟩ | ⟨inner, hc, rfl⟩
      · exact .refl _ fun v hv => ⟨rfl, .inl (holdsRegister_of_registerValue hv)⟩
      · rw [Cluster.member_node, Cluster.node_eq, nodeValue_cluster, nodeValue_cluster]
        exact .same_bind _ fun typeName _ =>
          (objectValue_agree (fun base => ih inner hc _ base) typeName _ _ _).imp
            fun _ _ same => ⟨same, .inr rfl⟩
    generalize c.nodes = ns at node
    induction ns with
    | nil => exact .ok rfl
    | cons n ns rest =>
      obtain ⟨first, later⟩ := List.forall_mem_cons.1 node
      rw [memberValues_cons, memberValues_cons]
      exact first.bind fun v v' same => (rest later).bind fun ms ms' others =>
        .ok (.cons same.1 same.2 others)

end

/-- The constant without the names of registers in it. -/
def Instance.withoutRegisterNames (i : Instance) : Instance :=
  { i with value := i.value.withoutRegisterNames }

/-- The constant of a peripheral, with different texts ignored. -/
theorem Instance.ofPeripheral_agree {P : Fault → Prop} (names : TypeNames)
    (options options' : Options) (p : Peripheral) :
    AgreeUnless P (fun i i' => i.withoutRegisterNames = i'.withoutRegisterNames)
      (ofPeripheral names options p) (ofPeripheral names options' p) := by
  rw [ofPeripheral_eq, ofPeripheral_eq]
  exact .same_bind _ fun typeName _ =>
    (objectValue_agree (fun base => memberValues_agree names _ base p.contents) _ _ _ _).bind
      fun _ _ same => .ok (congrArg (Instance.mk _) same)

/-! ### Tables -/

namespace FirstWins

variable {α : Type} {R : α → α → Prop} {t t' : FirstWins α}

/-- Something related is entered under the same name. -/
def SameEntry (R : α → α → Prop) (e e' : String × Option α) : Prop :=
  e.1 = e'.1 ∧ Option.Rel R e.2 e'.2

section

variable {entries entries' : List (String × Option α)}
  (h : List.Forall₂ (SameEntry R) entries entries')

include h

theorem rel_lookup_of_sameEntry (key : String) :
    Option.Rel R (entries.lookup key).join (entries'.lookup key).join := by
  induction h with
  | nil => exact .none
  | cons same _ ih =>
    rw [lookup_cons_eq_ite, lookup_cons_eq_ite, ← same.1]
    split
    · exact same.2
    · exact ih

theorem any_key_of_sameEntry (key : String) :
    (entries.any fun e => e.1 == key) = entries'.any fun e => e.1 == key := by
  induction h with
  | nil => rfl
  | cons same _ ih => rw [List.any_cons, List.any_cons, same.1, ih]

theorem forall₂_definitions_of_sameEntry :
    List.Forall₂ R ((entries.map (·.2)).filterMap id) ((entries'.map (·.2)).filterMap id) := by
  induction h with
  | nil => exact .nil
  | @cons e e' _ _ same _ ih =>
    obtain ⟨key, item⟩ := e
    obtain ⟨key', item'⟩ := e'
    cases same.2 with
    | none => exact ih
    | some related => exact .cons related ih

end

/-- Two tables, both of a given kind and strict or not, have related definitions under the same
names. -/
structure Corresponds (R : α → α → Prop) (kind : String) (strict : Bool) (t t' : FirstWins α) :
    Prop where
  kind_left : t.kind = kind
  kind_right : t'.kind = kind
  strict_left : t.strict = strict
  strict_right : t'.strict = strict
  entries : List.Forall₂ (SameEntry R) t.entries t'.entries

namespace Corresponds

variable {kind : String} {strict : Bool}

theorem empty (R : α → α → Prop) (kind : String) (strict : Bool) :
    Corresponds R kind strict ⟨kind, strict, []⟩ ⟨kind, strict, []⟩ := ⟨rfl, rfl, rfl, rfl, .nil⟩

theorem find? (h : Corresponds R kind strict t t') (key : String) :
    Option.Rel R (t.find? key) (t'.find? key) := rel_lookup_of_sameEntry h.entries key

theorem definitions (h : Corresponds R kind strict t t') :
    List.Forall₂ R t.definitions t'.definitions := forall₂_definitions_of_sameEntry h.entries

theorem set (h : Corresponds R kind strict t t') {item item' : Option α}
    (hi : Option.Rel R item item') (key : String) :
    Corresponds R kind strict (t.set key item) (t'.set key item') where
  kind_left := h.kind_left
  kind_right := h.kind_right
  strict_left := h.strict_left
  strict_right := h.strict_right
  entries := by
    have known : t.contains key = t'.contains key := any_key_of_sameEntry h.entries key
    rw [FirstWins.set, FirstWins.set, known]
    dsimp only
    split
    · rw [List.forall₂_map_left_iff, List.forall₂_map_right_iff]
      refine h.entries.imp fun e e' same => ?_
      rw [same.1]
      split
      · exact ⟨rfl, hi⟩
      · exact same
    · exact List.rel_append h.entries (.cons ⟨rfl, hi⟩ .nil)

variable [DecidableEq α] {P : Fault → Prop}
  (conflict : strict = true → ∀ key, P (.conflict kind key))

include conflict

/-- Related definitions are entered alike. Only in strict tables does it matter whether they differ
from the first definitions of their name. -/
theorem define (h : Corresponds R kind strict t t') {item item' : Option α}
    (hi : Option.Rel R item item') (key : String) :
    AgreeUnless P (fun r r' => Corresponds R kind strict r.2 r'.2) (t.define key item).outcome
      (t'.define key item').outcome := by
  have found := h.find? key
  cases hf : t.find? key with
  | none =>
    cases hf' : t'.find? key with
    | some first' => simp [hf, hf'] at found
    | none =>
      rw [define_of_fresh hf, define_of_fresh hf']
      exact .ok (h.set hi key)
  | some first =>
    cases hf' : t'.find? key with
    | none => simp [hf, hf'] at found
    | some first' =>
      rw [outcome_define_of_found hf, outcome_define_of_found hf', h.strict_left, h.strict_right,
        h.kind_left, h.kind_right]
      -- one table may find a difference where the other finds none, but only if both are strict
      split
      · next different => exact .left (conflict different.1 key) _
      · split
        · next different => exact .right (conflict different.1 key) _
        · exact .ok h

/-- So are all definitions of a list, one after the other. -/
theorem defineAll (h : Corresponds R kind strict t t') {items items' : List (String × α)}
    (hi : List.Forall₂ (fun i i' => i.1 = i'.1 ∧ R i.2 i'.2) items items') :
    AgreeUnless P (fun r r' => Corresponds R kind strict r.2 r'.2) (t.defineAll items).outcome
      (t'.defineAll items').outcome := by
  induction hi generalizing t t' with
  | nil => exact .ok h
  | @cons i i' _ _ same _ ih =>
    rw [FirstWins.defineAll, FirstWins.defineAll, same.1]
    exact (h.define conflict (.some same.2) i'.1).outcome_bind fun r r' hr =>
      (ih hr).outcome_bind fun _ _ rest => .ok rest

end Corresponds

end FirstWins

/-! ### Modules -/

section

variable {P : Fault → Prop} {options options' : Options} {d : Device}
  (conflict : options.strict = true → ∀ key, P (.conflict "type" key))

include conflict

theorem enterTypes_agree {t t' : FirstWins ObjectType} {p : Peripheral} (hp : p ∈ d.peripherals)
    (h : FirstWins.Corresponds (SameType d) "type" options.strict t t') :
    AgreeUnless P (FirstWins.Corresponds (SameType d) "type" options.strict)
      (enterTypes (.ofDevice d) options t p).outcome
      (enterTypes (.ofDevice d) options' t' p).outcome := by
  refine AgreeUnless.outcome_bind (nodeTypes_agree hp options options')
    fun types types' related => ?_
  refine (h.defineAll conflict ?_).outcome_bind fun _ _ tables => .ok tables
  rw [List.forall₂_map_left_iff, List.forall₂_map_right_iff]
  exact related.imp fun t t' ht => ⟨ht.name_eq, ht⟩

/-- The types of a device, with different texts ignored. -/
theorem deviceTypes_agree (same : options.strict = options'.strict) :
    AgreeUnless P (FirstWins.Corresponds (SameType d) "type" options.strict)
      (deviceTypes (.ofDevice d) options d).outcome
      (deviceTypes (.ofDevice d) options' d).outcome := by
  rw [deviceTypes_eq_foldlM, deviceTypes_eq_foldlM, ← same]
  refine .foldlM (fun p hp t t' h => ?_) (.empty _ _ _)
  exact enterTypes_agree conflict hp h

end

/-- Two modules of one device are the same, but for the names of registers: in the types of the
nodes that hold them, and in the constants. -/
structure Module.SameButRegisterNames (d : Device) (m m' : Module) : Prop where
  deviceName : m.deviceName = m'.deviceName
  cpu : m.cpu = m'.cpu
  interrupts : m.interrupts = m'.interrupts
  types : List.Forall₂ (SameType d) m.types m'.types
  instances : m.instances.map (·.withoutRegisterNames) = m'.instances.map (·.withoutRegisterNames)
  declarations : m.declarations = m'.declarations

/-- Two runs for one device that ignore different texts. -/
theorem Module.ofDevice_agree {options options' : Options}
    (same : options.strict = options'.strict) (d : Device) :
    AgreeUnless (fun fault => options.strict = true ∧ fault.IsTypeConflict)
      (SameButRegisterNames d) (ofDevice options d).outcome (ofDevice options' d).outcome := by
  have conflict : options.strict = true → ∀ key, options.strict = true ∧
      (Fault.conflict "type" key).IsTypeConflict := fun strict _ => ⟨strict, rfl⟩
  have tables : Tables.empty options' = Tables.empty options := by
    rw [Tables.empty, Tables.empty, same]
  rw [ofDevice, ofDevice, tables]
  refine AgreeUnless.outcome_bind (.refl (R := Eq) d.validate fun _ _ => rfl) fun _ _ _ => ?_
  refine (deviceTypes_agree conflict same).outcome_bind fun types types' htypes => ?_
  refine AgreeUnless.outcome_bind (AgreeUnless.mapM fun p _ =>
    Instance.ofPeripheral_agree _ options options' p) fun instances instances' hinstances => ?_
  refine AgreeUnless.outcome_bind (.refl (R := Eq) _ fun _ _ => rfl) ?_
  rintro ⟨declarations, tables⟩ _ rfl
  exact .ok ⟨rfl, rfl, rfl, htypes.definitions, map_eq_map_of_forall₂ hinstances, rfl⟩

/-- **Texts around the names of registers.** To ignore the texts that peripherals put before the
names of their registers is to generate a device without such texts: the same is written, and the
text or the fault is the same. So it is for the texts after the names. A device without texts fails
to be prepared exactly where it fails with them. And the texts name registers and do nothing else:
the map of addresses is the same without them, and the module is the same but for the names of
registers, unless the run is strict and those names tell two types of one name apart. -/
theorem generate_without_texts (d : Device) (options : Options) :
    ((d.undecorated true false).prepare >>= generate { options with ignorePrepend := false }) =
      (d.prepare >>= generate { options with ignorePrepend := true }) ∧
    ((d.undecorated false true).prepare >>= generate { options with ignoreAppend := false }) =
      (d.prepare >>= generate { options with ignoreAppend := true }) ∧
    ∀ before after : Bool,
      (∀ fault, (d.undecorated before after).prepare.outcome = .error fault ↔
        d.prepare.outcome = .error fault) ∧
      ((d.undecorated before after).prepare >>= fun ready => Logged.ofExcept ready.addressMap) =
        (d.prepare >>= fun ready => Logged.ofExcept ready.addressMap) ∧
      AgreeUnless (fun fault => options.strict = true ∧ fault.IsTypeConflict)
        (fun m m' => ∃ ready, d.prepare.outcome = .ok ready ∧
          Module.SameButRegisterNames ready m m')
        (d.prepare >>= Module.ofDevice options).outcome
        ((d.undecorated before after).prepare >>= Module.ofDevice options).outcome := by
  refine ⟨?_, ?_, fun before after => ?_⟩
  · rw [prepare_generate_undecorated, Options.ignoring, Bool.or_true, Bool.or_false]
  · rw [prepare_generate_undecorated, Options.ignoring, Bool.or_true, Bool.or_false]
  rw [Device.prepare_undecorated, bind_map_left, bind_map_left]
  refine ⟨fun fault => ?_, ?_, ?_⟩
  · rw [map_eq_pure_bind, Logged.outcome_bind]
    cases d.prepare.outcome <;> simp [bind, Except.bind]
  · simp only [Device.addressMap_undecorated]
  · have same : options.strict = (options.ignoring before after).strict := rfl
    simp only [Module.ofDevice_undecorated, Logged.outcome_bind]
    exact .same_bind _ fun ready hready =>
      (Module.ofDevice_agree same ready).imp fun _ _ h => ⟨ready, hready, h⟩

/-- Two ports of one layout, of which the second puts a text before the names of its registers. -/
def prefixedPort : Device where
  name := "BOARD"
  peripherals := [
    { name := "PORT", baseAddress := 0x40000000, registers := [{ name := "CTRL", offset := 0 }] },
    { name := "GPIO", baseAddress := 0x40001000, headerStructName := some "PORT"
      prependToName := some "G_", registers := [{ name := "CTRL", offset := 0 }] }]

/-- The text tells the two types apart, so that a strict run fails which would not without it. -/
example : (generate { strict := true } prefixedPort).outcome =
      .error (.conflict "type" "PORT_Type") ∧
    (generate { strict := true } (prefixedPort.undecorated true true)).outcome.isOk = true := by
  decide +kernel

end Nim

end RegisterMap
