import RegisterMap.CommandLine.Run

/-!
# The program

The only module that reads and writes files and streams. What is read goes to
`Settings.generate`, and the files of `Settings.outputs` are written.

## Main definitions

* `writeOutputs` : writing files.
* `perform` : a run with given settings.
* `main` : the program.
-/

namespace RegisterMap.CommandLine

/-- How to call the program. An `Outcome` leaves these words out. -/
def usageText : String :=
  "usage: svd2nim [-h] [-o OUTPUT] [--ignore-prepend] [--ignore-append] [--strict]\n" ++
  "               [--dump-addresses DUMP_ADDRESSES] [-v]\n" ++
  "               [--log-level \x7bDEBUG,INFO,WARNING,ERROR\x7d] [--quiet]\n" ++
  "               svd_file\n"

/-- Writes files in order and reports each, up to the first that is not made. -/
def writeOutputs (report : List Diagnostic → IO Unit) :
    List (Except Fault Output) → IO (Except Fault Unit)
  | [] => pure (.ok ())
  | .error fault :: _ => pure (.error fault)
  | .ok o :: os => do
    IO.FS.writeFile o.path.text o.text
    report [⟨.info, Source.application, o.report⟩]
    writeOutputs report os

/-- A run with the given settings on the files of the system. -/
def perform (settings : Settings) : IO UInt32 := do
  let logger := Logger.fresh.configure settings.logLevel settings.quiet
  let report := fun (log : List Diagnostic) => IO.eprint (logger.emitAll log)
  let input ← try
      let bytes ← IO.FS.readBinFile settings.input.text
      pure (Except.ok bytes.toList)
    catch e => pure (Except.error e)
  match input with
  | .error e =>
    report (settings.generate (.error (.fileNotFound settings.input.text))).log
    throw e
  | .ok bytes =>
    let made := settings.generate (.ok bytes)
    report made.log
    let written ← match made.outcome with
      | .ok (d, text) => writeOutputs report (settings.outputs d text)
      | .error fault => pure (.error fault)
    let (log, status) := conclude ⟨[], written⟩
    report log
    match status with
    | .exit code => pure code.toUInt32
    | .escaped fault => throw (IO.userError fault.message)

end RegisterMap.CommandLine

open RegisterMap.CommandLine in
/-- The program: zero when all is written, one after a fault of the description, two for arguments
that make no request. -/
def main (arguments : List String) : IO UInt32 := do
  match Request.ofArguments arguments with
  | .run settings => perform settings
  | .version =>
    IO.print (versionText ++ "\n")
    pure 0
  | .help =>
    IO.print usageText
    pure 0
  | .invalid =>
    IO.eprint usageText
    pure 2
