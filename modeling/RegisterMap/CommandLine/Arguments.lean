import RegisterMap.CommandLine.Path
import RegisterMap.Nim.MemberName
import RegisterMap.Text.CharClass

/-!
# Arguments

The arguments of a run name the device description and set options. Options and the name may come
in any order; a long option may be cut short as long as it is told apart, and two hyphens end the
options.

## Main definitions

* `Flag` : the options.
* `Settings` : what the arguments of a run say.
* `Word` : an argument by its form.
* `Request` : what a list of arguments asks for.
* `Request.ofArguments` : that request.
-/

namespace RegisterMap.CommandLine

/-! ### Options -/

/-- An option. -/
inductive Flag where
  | help
  | output
  | ignorePrepend
  | ignoreAppend
  | strict
  | dumpAddresses
  | version
  | logLevel
  | quiet
  deriving DecidableEq, Repr

namespace Flag

/-- The options under their spellings. -/
def spellings : List (String × Flag) := [
  ("-h", help), ("--help", help), ("-o", output), ("--output", output),
  ("--ignore-prepend", ignorePrepend), ("--ignore-append", ignoreAppend), ("--strict", strict),
  ("--dump-addresses", dumpAddresses), ("-v", version), ("--version", version),
  ("--log-level", logLevel), ("--quiet", quiet)]

/-- The option of a full spelling. -/
def ofText? (s : String) : Option Flag := spellings.lookup s

/-- The options whose spelling begins with some characters. -/
def startingWith (cs : List Char) : List Flag :=
  (spellings.filter fun s => cs.isPrefixOf s.1.toList).map (·.2)

/-- The option takes a value. -/
def takesValue : Flag → Bool
  | output | dumpAddresses | logLevel => true
  | help | ignorePrepend | ignoreAppend | strict | version | quiet => false

end Flag

/-! ### Words -/

/-- A value that is written in one word with its option, and whether an equals sign is between. -/
structure Attached where
  afterEquals : Bool
  text : List Char
  deriving DecidableEq, Repr

/-- An argument by its form: an option, something that looks like an option and is none, two hyphens
that end the options, or a value. Options of one letter can stand together in a word. -/
inductive Word where
  | long (flag : Flag) (attached : Option Attached)
  | short (flag : Flag) (attached : Option Attached)
  | unknown
  | separator
  | value (text : String)
  deriving DecidableEq, Repr

/-- A word with an equals sign, cut there. -/
def splitEquals (cs : List Char) : List Char × Option Attached :=
  match cs.dropWhile (· != '=') with
  | _ :: value => (cs.takeWhile (· != '='), some ⟨true, value⟩)
  | [] => (cs, none)

/-- Characters that write a negative number. -/
def isNegativeNumber : List Char → Bool
  | '-' :: cs =>
    match cs.splitOn '.' with
    | [digits] => !digits.isEmpty && digits.all Text.isDecimal
    | [whole, fraction] =>
      whole.all Text.isDecimal && !fraction.isEmpty && fraction.all Text.isDecimal
    | _ => false
  | _ => false

/-- The form of a word that no option matches: a value if it is a negative number or holds a
space. -/
def unmatched (s : String) : Word :=
  if isNegativeNumber s.toList || s.toList.contains ' ' then .value s else .unknown

/-- The form of an argument, unless more than one option may be meant. -/
def classify? (s : String) : Option Word :=
  match s.toList with
  | '-' :: '-' :: cs =>
    let (name, attached) := splitEquals ('-' :: '-' :: cs)
    match Flag.ofText? (String.ofList name), Flag.startingWith name with
    | some flag, _ => some (.long flag attached)
    | none, [flag] => some (.long flag attached)
    | none, [] => some (unmatched s)
    | none, _ => none
  | '-' :: c :: cs =>
    match Flag.ofText? (String.ofList ['-', c]) with
    | some flag =>
      some (.short flag (match cs with
        | [] => none
        | '=' :: value => some ⟨true, value⟩
        | cs => some ⟨false, cs⟩))
    | none => some (unmatched s)
  | _ => some (.value s)

/-- The forms of arguments. After two hyphens all are values. -/
def classifyAll? : List String → Option (List Word)
  | [] => some []
  | s :: rest =>
    if s = "--" then some (.separator :: rest.map .value)
    else do
      let word ← classify? s
      let words ← classifyAll? rest
      pure (word :: words)

/-! ### Requests -/

/-- What the arguments of a run say. -/
structure Settings where
  input : Path
  output : Option Path := none
  dump : Option Path := none
  options : Nim.Options := {}
  logLevel : String := "INFO"
  quiet : Bool := false
  deriving DecidableEq, Repr

/-- What a list of arguments asks for: a run, or to be told the usage or the version; or it is no
proper list of arguments. -/
inductive Request where
  | run (settings : Settings)
  | help
  | version
  | invalid
  deriving DecidableEq, Repr

namespace Request

/-- The levels that the option for them accepts. -/
def acceptedLevels : List String := ["DEBUG", "INFO", "WARNING", "ERROR"]

/-- What has been read of some arguments: the name of the input, the settings besides, and whether
there were arguments that nothing takes. -/
structure Reading where
  input : Option Path := none
  settings : Settings := { input := {} }
  hasExtra : Bool := false

/-- An option without a value is read. -/
def Reading.setFlag (r : Reading) : Flag → Reading
  | .ignorePrepend => { r with settings.options.ignorePrepend := true }
  | .ignoreAppend => { r with settings.options.ignoreAppend := true }
  | .strict => { r with settings.options.strict := true }
  | .quiet => { r with settings.quiet := true }
  | _ => r

/-- An option with its value is read, if it accepts the value. -/
def Reading.setValue? (r : Reading) (flag : Flag) (value : String) : Option Reading :=
  match flag with
  | .output => some { r with settings.output := some (Path.ofText value) }
  | .dumpAddresses => some { r with settings.dump := some (Path.ofText value) }
  | .logLevel =>
    if acceptedLevels.contains value then some { r with settings.logLevel := value } else none
  | _ => none

/-- What follows an option of one letter in its word is in order: more options of one letter, the
last of which may take the rest as its value; or, when the rest is empty, a value after the word. -/
def clusterIsValid (hasValueAfter : Bool) : (afterEquals : Bool) → List Char → Bool
  | _, [] => true
  | true, _ :: _ => false
  | false, c :: cs =>
    if c = '-' then false
    else match Flag.ofText? (String.ofList ['-', c]) with
      | none => true
      | some flag =>
        if flag.takesValue then !cs.isEmpty || hasValueAfter
        else match cs with
          | [] => true
          | '=' :: _ => false
          | cs => clusterIsValid hasValueAfter false cs

/-- The request that an option without a value makes by itself. -/
def immediate? : Flag → Option Request
  | .help => some help
  | .version => some version
  | _ => none

/-- The request at the end of the arguments. -/
def Reading.finish (r : Reading) : Request :=
  match r.input with
  | some input => if r.hasExtra then invalid else run { r.settings with input }
  | none => invalid

/-- The words begin with a value. -/
def startsWithValue : List Word → Bool
  | .value _ :: _ => true
  | _ => false

/-- The request that words make after what has been read. -/
def ofWords (r : Reading) : List Word → Request
  | [] => r.finish
  | .unknown :: words => ofWords { r with hasExtra := true } words
  | .value s :: words =>
    match r.input with
    | some _ => ofWords { r with hasExtra := true } words
    | none =>
      match words with
      | .separator :: words => ofWords { r with input := some (Path.ofText s) } words
      | words => ofWords { r with input := some (Path.ofText s) } words
  | .separator :: words =>
    match r.input, words with
    | none, .value s :: words => ofWords { r with input := some (Path.ofText s) } words
    | _, words => ofWords { r with hasExtra := true } words
  | .long flag attached :: words =>
    if flag.takesValue then
      match attached, words with
      | some a, words => match r.setValue? flag (String.ofList a.text) with
        | some r => ofWords r words
        | none => invalid
      | none, .value s :: words => match r.setValue? flag s with
        | some r => ofWords r words
        | none => invalid
      | none, _ => invalid
    else if attached.isSome then invalid
    else match immediate? flag with
      | some request => request
      | none => ofWords (r.setFlag flag) words
  | .short flag attached :: words =>
    if flag.takesValue then
      match attached, words with
      | some a, words => match r.setValue? flag (String.ofList a.text) with
        | some r => ofWords r words
        | none => invalid
      | none, .value s :: words => match r.setValue? flag s with
        | some r => ofWords r words
        | none => invalid
      | none, _ => invalid
    else
      let inOrder := match attached with
        | none => true
        | some a =>
          !(a.afterEquals && a.text.isEmpty) &&
            clusterIsValid (startsWithValue words) a.afterEquals a.text
      if inOrder then (immediate? flag).getD invalid else invalid

/-- The request that a list of arguments makes. -/
def ofArguments (arguments : List String) : Request :=
  match classifyAll? arguments with
  | some words => ofWords {} words
  | none => invalid

end Request

end RegisterMap.CommandLine
