import RegisterMap.Nim.Preamble

/-!
# Interrupt numbers

The module declares one enumeration of interrupt numbers: the exceptions of the processor core,
which are fixed but for those that a core lacks, and then the interrupts of the peripherals.

## Main definitions

* `coreExceptions` : the fixed exceptions.
* `exceptionsOf` : the exceptions of a core.
* `Device.interrupts` : the interrupts of a device by number.
* `exceptionsText`, `interruptsText` : source text of the two parts of the enumeration.
-/

namespace RegisterMap

/-- The interrupts of all peripherals by ascending number; those of one number stay in order. -/
def Device.interrupts (d : Device) : List Interrupt :=
  (d.peripherals.flatMap (·.interrupts)).mergeSort fun a b => a.value ≤ b.value

namespace Nim

/-! ### Exceptions of the core -/

/-- An exception of the processor core. -/
structure CoreException where
  name : String
  value : Int
  description : String
  deriving DecidableEq, Repr

/-- The exceptions of Cortex-M cores, and the two device interrupts that are always declared. -/
def coreExceptions : List CoreException := [
  ⟨"NonMaskableInt", -14, "Exception 2: Non Maskable Interrupt"⟩,
  ⟨"HardFault", -13, "Exception 3: Hard fault Interrupt"⟩,
  ⟨"MemoryManagement", -12,
    "Exception 4: Memory Management Interrupt [Not on Cortex M0 variants]"⟩,
  ⟨"BusFault", -11, "Exception 5: Bus Fault Interrupt [Not on Cortex M0 variants]"⟩,
  ⟨"UsageFault", -10, "Exception 6: Usage Fault Interrupt [Not on Cortex M0 variants]"⟩,
  ⟨"SecureFault", -9, "Exception 7: Secure Fault Interrupt [Only on Armv8-M]"⟩,
  ⟨"SVCall", -5, "Exception 11: SV Call Interrupt"⟩,
  ⟨"DebugMonitor", -4, "Exception 12: Debug Monitor Interrupt [Not on Cortex M0 variants]"⟩,
  ⟨"PendSV", -2, "Exception 14: Pend SV Interrupt [Not on Cortex M0 variants]"⟩,
  ⟨"SysTick", -1, "Exception 15: System Tick Interrupt"⟩,
  ⟨"WWDG", 0, "Window WatchDog Interrupt"⟩,
  ⟨"PVD", 1, "PVD through EXTI Line detection Interrupt"⟩]

/-- The processor core is a Cortex-M0 or M0+. -/
def isSmallCore (cpu : Option Cpu) : Bool :=
  cpu.any fun c => ["CM0", "CM0+", "CM0PLUS"].contains (Text.upper c.name)

/-- Numbers of the exceptions that a core lacks. -/
def missingExceptions (cpu : Option Cpu) : List Int :=
  if isSmallCore cpu then [-12, -11, -10, -9, -4] else [-9]

/-- The exceptions of a core. -/
def exceptionsOf (cpu : Option Cpu) : List CoreException :=
  coreExceptions.filter fun e => !(missingExceptions cpu).contains e.value

/-- Source line of an exception; the first device interrupt has a heading in front. -/
def CoreException.line (e : CoreException) : String :=
  (if e.value = 0 then sectionLine "# #### Device specific Interrupt numbers " else "") ++
    padRight 40 ' ' ("  " ++ e.name ++ "_IRQn = " ++ Numeral.decimal e.value ++ ",") ++
    "# " ++ e.description ++ "\n"

/-- Source text of the enumeration's head and of the core's exceptions. -/
def exceptionsText (cpu : Option Cpu) : String :=
  banner "# Interrupt Number Definition" ++ "type IRQn* = enum\n" ++
    sectionLine "# #### Cortex-M Processor Exception Numbers " ++
    String.join ((exceptionsOf cpu).map CoreException.line)

/-! ### Interrupts of the device -/

/-- Name under which an interrupt is declared. -/
def interruptName (i : Interrupt) : String := Ident.ofText (Text.upper i.name) ++ "_IRQn"

/-- Source line of an interrupt, with its description if it has one. -/
def interruptLine (i : Interrupt) : String :=
  let item := "  " ++ interruptName i ++ " = " ++ Numeral.decimal i.value ++ ","
  match i.description.filter (· ≠ "") with
  | some description => padRight 60 ' ' item ++ "# " ++ description ++ "\n"
  | none => item ++ "\n"

/-- The interrupts that the fixed part of the enumeration does not declare. -/
def declaredInterrupts (interrupts : List Interrupt) : List Interrupt :=
  interrupts.filter fun i => 1 < i.value

/-- Source text of interrupts in the enumeration. -/
def interruptsText (interrupts : List Interrupt) : String :=
  String.join ((declaredInterrupts interrupts).map interruptLine)

end Nim

end RegisterMap
