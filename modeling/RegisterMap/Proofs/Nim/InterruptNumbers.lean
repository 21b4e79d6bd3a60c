import RegisterMap.Proofs.Nim.FoldedNames
import RegisterMap.Proofs.Nim.InterruptLines
import RegisterMap.Proofs.Nim.NamedValues

/-!
# The enumeration of interrupt numbers

The exceptions of a core and the interrupts of a device are members of one enumeration. Their
numbers do not meet: whatever has the number of a device interrupt that the first part declares is
left out of the second. Nothing of the kind is done for names. An interrupt called like an exception
of the core is declared beside it, and since interrupts are written in capital letters and Nim
ignores case after the first letter, `SYSTICK` is called like `SysTick`.

## Main definitions

* `interruptFold` : what Nim compares of the name of an interrupt.

## Main results

* `pairwise_lt_interruptMembers` : the numbers of the members ascend strictly.
* `count_interruptMembers` : each interrupt is one member.
* `interrupts_enumerated` : the enumeration, and when Nim tells its members apart.
-/

namespace RegisterMap.Nim

/-! ### Numbers -/

section

variable {cpu : Option Cpu} {d : Device}

/-- The numbers of the members ascend strictly. -/
theorem pairwise_lt_interruptMembers (distinct : (d.ownInterrupts.map (·.value)).Nodup) :
    ((interruptMembers cpu d.interrupts).map (·.2)).Pairwise (· < ·) := by
  have numbers : (interruptMembers cpu d.interrupts).map (·.2) =
      (exceptionsOf cpu).map (·.value) ++ (declaredInterrupts d.interrupts).map (·.value) := by
    rw [interruptMembers, List.map_append, List.map_map, List.map_map]
    rfl
  have core : (coreExceptions.map (·.value)).Pairwise (· < ·) := by decide
  have largest : ∀ e ∈ coreExceptions, e.value ≤ 1 := by decide
  have sorted : ((declaredInterrupts d.interrupts).map (·.value)).Pairwise (· ≤ ·) :=
    (pairwise_le_mergeSort (fun i : Interrupt => i.value) _).sublist
      (List.filter_sublist.map _)
  rw [numbers, List.pairwise_append]
  refine ⟨core.sublist ((sublist_exceptionsOf cpu).map _), ?_, ?_⟩
  · rw [pairwise_lt_iff_nodup sorted, ((declaredInterrupts_perm d).map _).nodup_iff]
    exact distinct
  · intro m hm n hn
    obtain ⟨e, he, rfl⟩ := List.mem_map.1 hm
    obtain ⟨i, hi, rfl⟩ := List.mem_map.1 hn
    have above : 1 < i.value := by simpa using (List.mem_filter.1 hi).2
    exact Int.lt_of_le_of_lt (largest e ((sublist_exceptionsOf cpu).subset he)) above

/-- Each interrupt for which no exception stands is one member. -/
theorem count_interruptMembers (distinct : (d.ownInterrupts.map (·.value)).Nodup) {i : Interrupt}
    (hi : i ∈ d.ownInterrupts) :
    (interruptMembers cpu d.interrupts).count (interruptName i, i.value) = 1 := by
  have numbers : ((interruptMembers cpu d.interrupts).map (·.2)).Nodup :=
    (pairwise_lt_interruptMembers distinct).imp Int.ne_of_lt
  refine List.count_eq_one_of_mem (List.Nodup.of_map (fun m : String × Int => m.2) numbers)
    (List.mem_append_right _ ?_)
  exact List.mem_map.2 ⟨i, (declaredInterrupts_perm d).mem_iff.2 hi, rfl⟩

/-! ### Names -/

/-- What Nim compares of the name of an interrupt, but for the ending. -/
def interruptFold (i : Interrupt) : String := Ident.foldText (Ident.ofText (Text.upper i.name))

theorem foldRest_ending : Ident.foldRest "_IRQn" = "irqn" := by
  decide +kernel

theorem foldText_interruptName (i : Interrupt) :
    Ident.foldText (interruptName i) = interruptFold i ++ "irqn" := by
  rw [interruptName, Ident.foldText_append (Ident.ofText_ne_nil _), foldRest_ending, interruptFold]

theorem foldText_exceptionName {e : CoreException} (he : e ∈ coreExceptions) :
    Ident.foldText (e.name ++ "_IRQn") = Ident.foldText e.name ++ "irqn" := by
  have named : ∀ e ∈ coreExceptions, e.name.toList ≠ [] := by decide
  rw [Ident.foldText_append (named e he), foldRest_ending]

/-- Nim tells the exceptions of a core apart. -/
theorem nodup_foldText_exceptions (cpu : Option Cpu) :
    ((exceptionsOf cpu).map fun e => Ident.foldText (e.name ++ "_IRQn")).Nodup := by
  -- lists of characters, since to compare texts takes much longer here
  have names : (coreExceptions.map fun e => Ident.fold e.name.toList).Nodup := by decide +kernel
  have own := names.sublist ((sublist_exceptionsOf cpu).map _)
  have ended := own.map (f := fun cs => String.ofList cs ++ "irqn") fun s t same =>
    String.ofList_injective ((String.append_left_inj _).1 same)
  rw [List.map_map] at ended
  rwa [List.map_congr_left fun e he =>
    foldText_exceptionName ((sublist_exceptionsOf cpu).subset he)]

/-- Nim tells the interrupts apart by their names without the ending. -/
theorem nodup_foldText_interrupts (apart : (d.ownInterrupts.map interruptFold).Nodup) :
    ((declaredInterrupts d.interrupts).map fun i => Ident.foldText (interruptName i)).Nodup := by
  have own := ((declaredInterrupts_perm d).map interruptFold).nodup_iff.2 apart
  have ended := own.map (f := (· ++ "irqn")) fun s t => (String.append_left_inj _).1
  rw [List.map_map] at ended
  simpa only [foldText_interruptName, Function.comp_def] using ended

theorem nodup_foldText_interruptMembers_iff (apart : (d.ownInterrupts.map interruptFold).Nodup) :
    ((interruptMembers cpu d.interrupts).map fun m => Ident.foldText m.1).Nodup ↔
      ∀ i ∈ d.ownInterrupts, ∀ e ∈ exceptionsOf cpu, interruptFold i ≠ Ident.foldText e.name := by
  have names : (interruptMembers cpu d.interrupts).map (fun m => Ident.foldText m.1) =
      ((exceptionsOf cpu).map fun e => Ident.foldText (e.name ++ "_IRQn")) ++
        (declaredInterrupts d.interrupts).map fun i => Ident.foldText (interruptName i) := by
    rw [interruptMembers, List.map_append, List.map_map, List.map_map]
    rfl
  have same : ∀ i, ∀ e ∈ exceptionsOf cpu,
      Ident.foldText (e.name ++ "_IRQn") = Ident.foldText (interruptName i) ↔
        interruptFold i = Ident.foldText e.name := by
    intro i e he
    rw [foldText_exceptionName ((sublist_exceptionsOf cpu).subset he), foldText_interruptName,
      String.append_left_inj, eq_comm]
  rw [names, List.nodup_append]
  constructor
  · rintro ⟨-, -, other⟩ i hi e he
    have declared := (declaredInterrupts_perm d).mem_iff.2 hi
    exact mt (same i e he).2 (other _ (List.mem_map_of_mem he) _ (List.mem_map_of_mem declared))
  · refine fun other => ⟨nodup_foldText_exceptions cpu, nodup_foldText_interrupts apart, ?_⟩
    intro s hs t ht
    obtain ⟨e, he, rfl⟩ := List.mem_map.1 hs
    obtain ⟨i, hi, rfl⟩ := List.mem_map.1 ht
    exact mt (same i e he).1 (other i ((declaredInterrupts_perm d).mem_iff.1 hi) e he)

/-- **The enumeration of interrupt numbers.** Let the interrupts for which no exception stands have
different numbers, and different names to Nim. The enumeration is written with the exceptions of the
core and these interrupts as its members. The numbers of all members ascend strictly, and each of
the interrupts is one member. Nim tells all members apart if and only if none of the interrupts is
called like an exception that the core has. -/
theorem interrupts_enumerated (cpu : Option Cpu) (d : Device)
    (distinct : (d.ownInterrupts.map (·.value)).Nodup)
    (apart : (d.ownInterrupts.map interruptFold).Nodup) :
    (d.HasPlainInterrupts → ∃ body, exceptionsText cpu ++ interruptsText d.interrupts =
        banner "# Interrupt Number Definition" ++ "type IRQn* = enum\n" ++ body ∧
      WritesMembers (interruptMembers cpu d.interrupts) body) ∧
    ((interruptMembers cpu d.interrupts).map (·.2)).Pairwise (· < ·) ∧
    (∀ i ∈ d.ownInterrupts,
      (interruptMembers cpu d.interrupts).count (interruptName i, i.value) = 1) ∧
    (((interruptMembers cpu d.interrupts).map fun m => Ident.foldText m.1).Nodup ↔
      ∀ i ∈ d.ownInterrupts, ∀ e ∈ exceptionsOf cpu, interruptFold i ≠ Ident.foldText e.name) :=
  ⟨writesMembers_interrupts cpu, pairwise_lt_interruptMembers distinct,
    fun _ hi => count_interruptMembers distinct hi, nodup_foldText_interruptMembers_iff apart⟩

end

/-- A board with an interrupt called like an exception that small cores lack. -/
def faultBoard : Device where
  name := "BOARD"
  peripherals := [
    { name := "BUS", baseAddress := 0x40000000
      interrupts := [{ name := "BusFault", value := 4 }, { name := "EARLY", value := 1 }] },
    { name := "PORT", baseAddress := 0x40001000
      interrupts := [{ name := "2.link", value := 2, description := some "Second link" }] }]

/-- A small core. -/
def smallCore : Cpu := { name := "CM0+" }

theorem interrupts_enumerated_faultBoard :
    (faultBoard.ownInterrupts.map (·.value)).Nodup ∧
    (faultBoard.ownInterrupts.map interruptFold).Nodup ∧ faultBoard.HasPlainInterrupts ∧
    (∃ body, exceptionsText (some smallCore) ++ interruptsText faultBoard.interrupts =
        banner "# Interrupt Number Definition" ++ "type IRQn* = enum\n" ++ body ∧
      WritesMembers (interruptMembers (some smallCore) faultBoard.interrupts) body) ∧
    ((interruptMembers (some smallCore) faultBoard.interrupts).map fun m =>
      Ident.foldText m.1).Nodup ∧
    ¬((interruptMembers none faultBoard.interrupts).map fun m => Ident.foldText m.1).Nodup := by
  have distinct : (faultBoard.ownInterrupts.map (·.value)).Nodup := by decide
  have apart : (faultBoard.ownInterrupts.map interruptFold).Nodup := by decide +kernel
  have plain : faultBoard.HasPlainInterrupts := by
    unfold Device.HasPlainInterrupts
    decide +kernel
  obtain ⟨written, -, -, small⟩ :=
    interrupts_enumerated (some smallCore) faultBoard distinct apart
  obtain ⟨-, -, -, other⟩ := interrupts_enumerated none faultBoard distinct apart
  exact ⟨distinct, apart, plain, written plain, small.2 (by decide +kernel),
    mt other.1 (by decide +kernel)⟩

/-- A board whose watchdog interrupts under a number of its own. -/
def watchdogBoard : Device where
  name := "BOARD"
  peripherals := [
    { name := "WDT", baseAddress := 0x40000000, interrupts := [{ name := "WWDG", value := 5 }] }]

theorem not_forall_nodup_interruptMembers : ¬∀ (cpu : Option Cpu) (d : Device),
    (d.ownInterrupts.map (·.value)).Nodup → (d.ownInterrupts.map interruptFold).Nodup →
      ((interruptMembers cpu d.interrupts).map fun m => Ident.foldText m.1).Nodup := by
  intro all
  have apart := all none watchdogBoard (List.nodup_singleton _) (List.nodup_singleton _)
  exact absurd apart (by decide +kernel)

end RegisterMap.Nim
