import RegisterMap.Nim.Interrupts
import RegisterMap.Proofs.Device.Everywhere
import RegisterMap.Proofs.Device.ReadNodes
import RegisterMap.Proofs.Nim.Idents
import RegisterMap.Proofs.Numeral.Spellings
import RegisterMap.Proofs.Text.Words

/-!
# The text of the enumeration of interrupts

One enumeration has the exceptions of the core and then the interrupts of the device that have no
number of an exception. It is written with a line for each member, with the name, the number and
perhaps a remark behind them, and headings between the lines. The remark is the description of an
interrupt. It hides no members as long as it does not begin a new line itself, and since reading a
description makes all blanks in it single spaces, it never does.

## Main definitions

* `Device.ownInterrupts` : the interrupts for which no exception stands.
* `Device.HasPlainInterrupts` : interrupts are described on one line.
* `interruptMembers` : the members of the enumeration.
* `WritesMembers` : a text has one line for each of some members.

## Main results

* `Device.hasPlainInterrupts_of_read`, `Device.HasPlainInterrupts.flatten` : in a device that has
  been read interrupts are described on one line, and flattening keeps them so.
* `writesMembers_interrupts` : the enumeration is written with its members.
* `WritesMembers.unique` : a text has the lines of one list of members.
-/

namespace RegisterMap

/-! ### Interrupts of a device -/

/-- The interrupts of a device for which no exception stands, in order of declaration. -/
def Device.ownInterrupts (d : Device) : List Interrupt :=
  (d.peripherals.flatMap (·.interrupts)).filter fun i => 1 < i.value

/-- Each interrupt is described on one line, if it is described. -/
def Device.HasPlainInterrupts (d : Device) : Prop :=
  ∀ p ∈ d.peripherals, ∀ i ∈ p.interrupts, ∀ remark ∈ i.description, '\n' ∉ remark.toList

/-- What has been read of a description stands on one line. -/
theorem newline_notMem_of_readDescription {text : Option String} {remark : String}
    (h : remark ∈ readDescription text) : '\n' ∉ remark.toList := by
  obtain ⟨s, -, rfl⟩ := Option.map_eq_some_iff.1 h
  intro newline
  cases Text.eq_space_of_mem_normalizeSpace newline (by decide)

theorem description_of_readInterrupt {owner : String} {e : Xml.Element} {i : Interrupt}
    (h : readInterrupt owner e = .ok i) : i.description = childDescription? e := by
  obtain ⟨name, -, h⟩ := bind_eq_ok_iff.1 h
  split at h
  · cases Except.ok.inj h
    rfl
  · cases h

/-- Interrupts are read with their descriptions on one line. -/
theorem Device.hasPlainInterrupts_of_read {defaultName : String} {e : Xml.Element} {d : Device}
    (h : (Device.read defaultName e).outcome = .ok d) : d.HasPlainInterrupts := by
  intro p hp i hi
  obtain ⟨element, -, hread⟩ := exists_of_mem_right (Device.read_eq_ok h) hp
  obtain ⟨-, -, interrupts⟩ := readPeripheral_eq_ok hread
  obtain ⟨child, -, hchild⟩ := exists_of_mem_right interrupts hi
  rw [description_of_readInterrupt hchild]
  exact fun _ => newline_notMem_of_readDescription

/-- Each peripheral of a derived device has the interrupts that it declares. -/
theorem Device.exists_interrupts_eq_of_derive {d d' : Device} (h : d.derive = .ok d')
    {q : Peripheral} (hq : q ∈ d'.peripherals) :
    ∃ p ∈ d.peripherals, q.interrupts = p.interrupts := by
  obtain ⟨ps, qs, resolved, inside, rfl⟩ := derive_eq_ok_iff.1 h
  obtain ⟨completed, hcompleted, made⟩ := exists_of_mem_right (mapM_eq_ok_iff.1 inside) hq
  obtain ⟨name, -, n, chain⟩ :=
    exists_of_mem_right (forall₂_of_resolvePeripherals Completed.isSound_nil resolved) hcompleted
  have same : q.interrupts = completed.interrupts := by
    obtain ⟨inner, -, made⟩ := bind_eq_ok_iff.1 made
    cases made
    rfl
  rw [same]
  cases chain with
  | root found _ => exact ⟨_, (peripheralNamed?_eq_some found).1, rfl⟩
  | step found _ _ => exact ⟨_, (peripheralNamed?_eq_some found).1, rfl⟩

/-- Flattening leaves the descriptions of interrupts alone. -/
theorem Device.HasPlainInterrupts.flatten {d d' : Device} (plain : d.HasPlainInterrupts)
    (h : d.flatten.outcome = .ok d') : d'.HasPlainInterrupts := by
  intro x hx
  obtain ⟨e, derived, p, hp, ps, made, y, hy, rfl⟩ := Device.exists_of_mem_flatten h hx
  obtain ⟨own, declared, same⟩ := Device.exists_interrupts_eq_of_derive derived hp
  have expanded : y.interrupts = p.interrupts := by
    obtain ⟨registers, clusters, -, -, ⟨-, rfl⟩ | ⟨name, baseAddress, rfl⟩⟩ :=
      Peripheral.mem_expand made hy <;> rfl
  have kept : (y.inheriting d.properties).interrupts = own.interrupts := expanded.trans same
  rw [kept]
  exact plain own declared

namespace Nim

/-! ### Members and their lines -/

/-- The members of the enumeration: the exceptions of the core, and then the interrupts that these
do not stand for. -/
def interruptMembers (cpu : Option Cpu) (interrupts : List Interrupt) : List (String × Int) :=
  (exceptionsOf cpu).map (fun e => (e.name ++ "_IRQn", e.value)) ++
    (declaredInterrupts interrupts).map fun i => (interruptName i, i.value)

theorem declaredInterrupts_perm (d : Device) :
    (declaredInterrupts d.interrupts).Perm d.ownInterrupts :=
  (List.mergeSort_perm _ _).filter _

theorem sublist_exceptionsOf (cpu : Option Cpu) : (exceptionsOf cpu).Sublist coreExceptions :=
  List.filter_sublist

/-- A member as it is declared. -/
def memberItem (m : String × Int) : String := "  " ++ m.1 ++ " = " ++ Numeral.decimal m.2 ++ ","

/-- A line that declares a member, with or without a remark at some distance behind it. -/
inductive IsMemberLine (m : String × Int) : String → Prop
  | bare : IsMemberLine m (memberItem m ++ "\n")
  | remarked (distance : Nat) {remark : String} (oneLine : '\n' ∉ remark.toList) : IsMemberLine m
      (memberItem m ++ String.ofList (List.replicate distance ' ') ++ "# " ++ remark ++ "\n")

/-- Nothing in the name ends it before its line does. -/
def IsPlainName (name : String) : Prop := ' ' ∉ name.toList ∧ '\n' ∉ name.toList

/-- A text has a line for each of some members, in order, and headings between them. -/
inductive WritesMembers : List (String × Int) → String → Prop
  | nil : WritesMembers [] ""
  | heading {title : String} (oneLine : '\n' ∉ title.toList) {members : List (String × Int)}
      {text : String} (rest : WritesMembers members text) :
      WritesMembers members ("#" ++ title ++ "\n" ++ text)
  | member {m : String × Int} (named : IsPlainName m.1) {line : String} (own : IsMemberLine m line)
      {members : List (String × Int)} {text : String} (rest : WritesMembers members text) :
      WritesMembers (m :: members) (line ++ text)

/-- What is filled up keeps its place in front. -/
theorem exists_padRight_eq (width : Nat) (fill : Char) (s : String) :
    ∃ n, padRight width fill s = s ++ String.ofList (List.replicate n fill) := by
  refine ⟨width - s.toList.length, ?_⟩
  rw [← String.toList_inj, padRight, String.toList_ofList, List.rightpad, String.toList_append,
    String.toList_ofList]

theorem isMemberLine_padRight (width : Nat) (m : String × Int) {remark : String}
    (oneLine : '\n' ∉ remark.toList) :
    IsMemberLine m (padRight width ' ' (memberItem m) ++ "# " ++ remark ++ "\n") := by
  obtain ⟨distance, padded⟩ := exists_padRight_eq width ' ' (memberItem m)
  rw [padded]
  exact .remarked distance oneLine

theorem isPlainName_interruptName (i : Interrupt) : IsPlainName (interruptName i) := by
  have plain : ∀ c : Char, Ident.isWordChar c = false → c ≠ '\x60' → c ∉ "_IRQn".toList →
      c ∉ (interruptName i).toList := by
    intro c other unquoted ending
    rw [interruptName, String.toList_append, List.mem_append, not_or]
    exact ⟨Ident.notMem_ofText other unquoted, ending⟩
  exact ⟨plain _ (by decide) (by decide) (by decide), plain _ (by decide) (by decide) (by decide)⟩

theorem isMemberLine_interruptLine {i : Interrupt}
    (oneLine : ∀ remark ∈ i.description, '\n' ∉ remark.toList) :
    IsMemberLine (interruptName i, i.value) (interruptLine i) := by
  have item : "  " ++ interruptName i ++ " = " ++ Numeral.decimal i.value ++ "," =
      memberItem (interruptName i, i.value) := rfl
  simp only [interruptLine, item]
  split
  · next remark some =>
    refine isMemberLine_padRight 60 _ (oneLine remark ?_)
    exact (Option.filter_eq_some_iff.1 some).1
  · exact .bare

namespace WritesMembers

variable {members : List (String × Int)} {text : String}

theorem sectionLine {title : String} (oneLine : '\n' ∉ title.toList)
    (rest : WritesMembers members text) :
    WritesMembers members (Nim.sectionLine ("#" ++ title) ++ text) := by
  obtain ⟨n, padded⟩ := exists_padRight_eq 80 '#' ("#" ++ title)
  have whole : "#" ++ title ++ String.ofList (List.replicate n '#') =
      "#" ++ (title ++ String.ofList (List.replicate n '#')) := String.append_assoc
  rw [Nim.sectionLine, padded, whole]
  exact .heading (by simpa using oneLine) rest

/-- The line of an exception, perhaps after a heading. -/
theorem exceptionLine {e : CoreException} (named : IsPlainName (e.name ++ "_IRQn"))
    (oneLine : '\n' ∉ e.description.toList) (rest : WritesMembers members text) :
    WritesMembers ((e.name ++ "_IRQn", e.value) :: members) (e.line ++ text) := by
  have item : "  " ++ e.name ++ "_IRQn = " ++ Numeral.decimal e.value ++ "," =
      memberItem (e.name ++ "_IRQn", e.value) := by
    have mark : "_IRQn = " = "_IRQn" ++ " = " := rfl
    rw [memberItem, mark]
    simp only [String.append_assoc]
  have own : WritesMembers ((e.name ++ "_IRQn", e.value) :: members)
      (padRight 40 ' ' (memberItem (e.name ++ "_IRQn", e.value)) ++ "# " ++ e.description ++ "\n" ++
        text) :=
    .member (m := (e.name ++ "_IRQn", e.value)) named (isMemberLine_padRight 40 _ oneLine) rest
  rw [CoreException.line, item]
  split
  · have title : "# #### Device specific Interrupt numbers " =
        "#" ++ " #### Device specific Interrupt numbers " := rfl
    rw [title]
    have oneLine : '\n' ∉ " #### Device specific Interrupt numbers ".toList := by decide
    simpa only [String.append_assoc] using own.sectionLine oneLine
  · simpa only [String.append_assoc, String.empty_append] using own

theorem exceptions (rest : WritesMembers members text) {es : List CoreException}
    (plain : ∀ e ∈ es, IsPlainName (e.name ++ "_IRQn") ∧ '\n' ∉ e.description.toList) :
    WritesMembers (es.map (fun e => (e.name ++ "_IRQn", e.value)) ++ members)
      (String.join (es.map CoreException.line) ++ text) := by
  induction es with
  | nil => simpa using rest
  | cons e es ih =>
    obtain ⟨⟨named, oneLine⟩, others⟩ := List.forall_mem_cons.1 plain
    simp only [List.map_cons, String.join_cons, String.append_assoc, List.cons_append]
    exact (ih others).exceptionLine named oneLine

theorem interrupts {is : List Interrupt}
    (oneLine : ∀ i ∈ is, ∀ remark ∈ i.description, '\n' ∉ remark.toList) :
    WritesMembers (is.map fun i => (interruptName i, i.value))
      (String.join (is.map interruptLine)) := by
  induction is with
  | nil => exact .nil
  | cons i is ih =>
    obtain ⟨own, others⟩ := List.forall_mem_cons.1 oneLine
    rw [List.map_cons, List.map_cons, String.join_cons]
    exact .member (m := (interruptName i, i.value)) (isPlainName_interruptName i)
      (isMemberLine_interruptLine own) (ih others)

end WritesMembers

theorem newline_notMem_coreExceptions :
    ∀ e ∈ coreExceptions, '\n' ∉ e.description.toList := by
  -- looked up in the characters that the literals stand for; to decode the literals takes long
  have oneLine : ∀ cs : List Char, '\n' ∉ cs → '\n' ∉ (String.ofList cs).toList := by
    intro cs
    rw [String.toList_ofList]
    exact id
  simp only [coreExceptions, List.forall_mem_cons, List.not_mem_nil, false_implies, implies_true,
    and_true]
  and_intros <;> exact oneLine _ (by decide)

theorem isPlainName_coreExceptions :
    ∀ e ∈ coreExceptions, IsPlainName (e.name ++ "_IRQn") := by
  have named : ∀ e ∈ coreExceptions, ' ' ∉ e.name.toList ∧ '\n' ∉ e.name.toList := by
    decide +kernel
  have ending : ' ' ∉ "_IRQn".toList ∧ '\n' ∉ "_IRQn".toList := by decide
  intro e he
  simpa [IsPlainName] using named e he

/-- The text of the enumeration is its head and a line for each member. -/
theorem writesMembers_interrupts (cpu : Option Cpu) {d : Device} (plain : d.HasPlainInterrupts) :
    ∃ body, exceptionsText cpu ++ interruptsText d.interrupts =
        banner "# Interrupt Number Definition" ++ "type IRQn* = enum\n" ++ body ∧
      WritesMembers (interruptMembers cpu d.interrupts) body := by
  have core : ∀ e ∈ exceptionsOf cpu,
      IsPlainName (e.name ++ "_IRQn") ∧ '\n' ∉ e.description.toList := by
    intro e he
    have fixed := (sublist_exceptionsOf cpu).subset he
    exact ⟨isPlainName_coreExceptions e fixed, newline_notMem_coreExceptions e fixed⟩
  have own : ∀ i ∈ declaredInterrupts d.interrupts, ∀ remark ∈ i.description,
      '\n' ∉ remark.toList := by
    intro i hi
    have declared := List.mem_filter.1 ((declaredInterrupts_perm d).mem_iff.1 hi)
    obtain ⟨p, hp, hi⟩ := List.mem_flatMap.1 declared.1
    exact plain p hp i hi
  have title : "# #### Cortex-M Processor Exception Numbers " =
      "#" ++ " #### Cortex-M Processor Exception Numbers " := rfl
  have oneLine : '\n' ∉ " #### Cortex-M Processor Exception Numbers ".toList := by decide
  have members := ((WritesMembers.interrupts own).exceptions core).sectionLine oneLine
  rw [interruptMembers, exceptionsText, interruptsText, title]
  refine ⟨_, ?_, members⟩
  simp only [String.append_assoc]

/-! ### Reading the lines -/

/-- Where the first one of a kind stands, characters are divided in one way. -/
theorem eq_and_eq_of_append_cons {α : Type} {a : α} {xs ys before after : List α}
    (hx : a ∉ xs) (hy : a ∉ ys) (same : xs ++ a :: before = ys ++ a :: after) :
    xs = ys ∧ before = after := by
  induction xs generalizing ys with
  | nil =>
    cases ys with
    | nil => exact ⟨rfl, (List.cons.inj same).2⟩
    | cons y ys => exact absurd ((List.cons.inj same).1 ▸ List.mem_cons_self) hy
  | cons x xs ih =>
    obtain ⟨-, others⟩ := not_or.1 (mt List.mem_cons.2 hx)
    cases ys with
    | nil => exact absurd ((List.cons.inj same).1 ▸ List.mem_cons_self) hx
    | cons y ys =>
      obtain ⟨-, others'⟩ := not_or.1 (mt List.mem_cons.2 hy)
      obtain ⟨first, rest⟩ := List.cons.inj same
      obtain ⟨front, back⟩ := ih others others' rest
      exact ⟨congrArg₂ _ first front, back⟩

theorem toList_memberItem (m : String × Int) : (memberItem m).toList =
    ' ' :: ' ' :: (m.1.toList ++ ' ' :: '=' :: ' ' :: ((Numeral.decimal m.2).toList ++ [','])) := by
  simp [memberItem]

/-- A line says which member it declares. -/
theorem eq_of_memberItem_append {m n : String × Int} (hm : IsPlainName m.1) (hn : IsPlainName n.1)
    {rest rest' : List Char}
    (same : (memberItem m).toList ++ rest = (memberItem n).toList ++ rest') : m = n := by
  have number : ∀ k, ',' ∉ (Numeral.decimal k).toList := fun k mem =>
    absurd (@Numeral.mem_spelledChars .decimal k _ mem) (by decide)
  simp only [toList_memberItem, List.cons_append, List.append_assoc, List.nil_append] at same
  obtain ⟨-, same⟩ := List.cons.inj same
  obtain ⟨-, same⟩ := List.cons.inj same
  obtain ⟨name, same⟩ := eq_and_eq_of_append_cons hm.1 hn.1 same
  obtain ⟨-, same⟩ := List.cons.inj same
  obtain ⟨-, same⟩ := List.cons.inj same
  obtain ⟨value, -⟩ := eq_and_eq_of_append_cons (number m.2) (number n.2) same
  exact Prod.ext (String.toList_inj.1 name) (Numeral.decimal_injective (String.toList_inj.1 value))

theorem IsMemberLine.exists_toList_eq {m : String × Int} {line : String} (h : IsMemberLine m line) :
    ∃ rest, '\n' ∉ rest ∧ line.toList = (memberItem m).toList ++ (rest ++ ['\n']) := by
  cases h with
  | bare => exact ⟨[], List.not_mem_nil, by simp⟩
  | @remarked distance remark oneLine =>
    refine ⟨List.replicate distance ' ' ++ '#' :: ' ' :: remark.toList, ?_, by simp⟩
    simpa using oneLine

theorem WritesMembers.eq_of_toList_eq {members members' : List (String × Int)}
    {text text' : String} (h : WritesMembers members text) (h' : WritesMembers members' text')
    (same : text.toList = text'.toList) : members = members' := by
  induction h generalizing members' text' with
  | nil =>
    cases h' with
    | nil => rfl
    | heading => simp at same
    | member _ own =>
      obtain ⟨rest, -, line⟩ := own.exists_toList_eq
      simp [line, toList_memberItem] at same
  | heading oneLine rest ih =>
    cases h' with
    | nil => simp at same
    | heading oneLine' rest' =>
      simp only [String.toList_append, List.append_assoc] at same
      obtain ⟨-, same⟩ := List.cons.inj same
      exact ih rest' (eq_and_eq_of_append_cons oneLine oneLine' same).2
    | member _ own =>
      obtain ⟨rest, -, line⟩ := own.exists_toList_eq
      simp [line, toList_memberItem] at same
  | member named own rest ih =>
    obtain ⟨remark, oneLine, line⟩ := own.exists_toList_eq
    cases h' with
    | nil => simp [line, toList_memberItem] at same
    | heading => simp [line, toList_memberItem] at same
    | member named' own' rest' =>
      obtain ⟨remark', oneLine', line'⟩ := own'.exists_toList_eq
      simp only [String.toList_append, line, line', List.append_assoc,
        List.singleton_append] at same
      have own := eq_of_memberItem_append named named' same
      subst own
      obtain ⟨-, same⟩ := eq_and_eq_of_append_cons oneLine oneLine' (List.append_cancel_left same)
      rw [ih rest' same]

/-- A text has the lines of one list of members. -/
theorem WritesMembers.unique {members members' : List (String × Int)} {text : String}
    (h : WritesMembers members text) (h' : WritesMembers members' text) : members = members' :=
  h.eq_of_toList_eq h' rfl

end Nim

end RegisterMap
