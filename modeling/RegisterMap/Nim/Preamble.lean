import RegisterMap.Device.Basic
import RegisterMap.Nim.Ident
import RegisterMap.Numeral.Printer
import RegisterMap.Text.CharClass
import RegisterMap.Text.LetterCase

/-!
# Head of a module

A module begins with a comment that names the device and with constants that describe its processor
core. Comments as wide as the page divide what follows into parts.

## Main definitions

* `padRight` : a text filled up to a width.
* `banner`, `sectionLine` : headings as wide as the page.
* `coreName` : the identifier of a core.
* `preambleText` : the head of a module.
-/

namespace RegisterMap.Nim

/-! ### Headings -/

/-- Text filled up with a character to a width. -/
def padRight (width : Nat) (fill : Char) (s : String) : String :=
  String.ofList (s.toList.rightpad width fill)

/-- Line across the page. -/
def rule : String := padRight 80 '#' ""

/-- Heading between two lines across the page. -/
def banner (title : String) : String := "\n" ++ rule ++ "\n" ++ title ++ "\n" ++ rule ++ "\n"

/-- Heading that is itself a line across the page. -/
def sectionLine (title : String) : String := padRight 80 '#' title ++ "\n"

/-! ### Processor core -/

/-- Characters with the plus sign of a core's name spelled out: after the letter `M` and a number,
it is `PLUS`. The flag says that such a number comes before. -/
def spellPlus : (afterNumber afterM : Bool) → List Char → List Char
  | _, _, [] => []
  | afterNumber, afterM, c :: cs =>
    if c = '+' ∧ afterNumber then 'P' :: 'L' :: 'U' :: 'S' :: spellPlus false false cs
    else c :: spellPlus (Text.isDecimal c && (afterNumber || afterM)) (c == 'M') cs

/-- Identifier of a core: `CM0+` is `CM0PLUS`. -/
def coreName (cpu : Cpu) : String :=
  Ident.ofText (String.ofList (spellPlus false false cpu.name.toList))

/-- A truth value as a number. -/
def flag (b : Bool) : String := if b then "1" else "0"

/-- Source text of the constants that describe a core. -/
def coreText (deviceName : String) (cpu : Cpu) : String :=
  "# Some information about this device.\n" ++
  "const DEVICE* = \"" ++ deviceName ++ "\"\n" ++
  (if cpu.name = "" then "" else "const " ++ coreName cpu ++ "_REV* = 0x0001\n") ++
  "const MPU_PRESENT* = " ++ flag cpu.mpuPresent ++ "\n" ++
  "const FPU_PRESENT* = " ++ flag cpu.fpuPresent ++ "\n" ++
  "const VTOR_PRESENT* = " ++ flag cpu.vtorPresent ++ "\n" ++
  "const NVIC_PRIO_BITS* = " ++ Numeral.decimal cpu.nvicPriorityBits ++ "\n" ++
  "const Vendor_SysTickConfig* = " ++ flag cpu.vendorSysTickConfig ++ "\n"

/-! ### Head -/

/-- Head of the module of a device. -/
def preambleText (deviceName : String) (cpu : Option Cpu) : String :=
  "# Peripheral access API for " ++ Text.upper deviceName ++
    " microcontrollers (generated using svd2nim)\n\n" ++
  "import std/volatile\n\n" ++
  "\x7b.hint[name]: off.\x7d\n\n" ++
  (cpu.map (coreText deviceName)).getD ""

end RegisterMap.Nim
