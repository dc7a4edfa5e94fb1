import Emend.Path

/-!
# Command lines

What a command line asks for. `Request.ofArguments` reads it and gives nothing if
it is not well formed.

* A switch with a value is written `--name value`, `--name=value`, `-n value`,
  `-n=value` or `-nvalue`; letters without a value may share a dash. Only
  `--verbose` may be repeated. A value may be any bytes.
* `--verbose` may stand before the command and behind it; if it does both, what
  stands behind the command counts.
* Help can be asked for by a switch or by a word in the place of the command. Behind
  a switch that asks a question nothing is read.
-/

namespace Emend

/-- What is to be done. -/
inductive Command
  | apply (rules : Path) (workspace : Option Path) (dryRun diff json : Bool)
  | check (rules : Path) (workspace : Option Path) (json : Bool)
  | list (rules : Path)
  deriving DecidableEq, Repr

namespace Command

/-! ## Switches -/

/-- What can be switched on a command line. -/
inductive Switch
  | rules
  | workspace
  | dryRun
  | diff
  | json
  | verbose
  | version
  | help
  deriving DecidableEq, Repr

namespace Switch

/-- The name behind two dashes. -/
def name : Switch → String
  | rules => "rules"
  | workspace => "workspace"
  | dryRun => "dry-run"
  | diff => "diff"
  | json => "json"
  | verbose => "verbose"
  | version => "version"
  | help => "help"

/-- The letter behind one dash. -/
def letter? : Switch → Option Char
  | rules => some 'r'
  | workspace => some 'w'
  | dryRun => some 'n'
  | diff => some 'd'
  | json => none
  | verbose => some 'v'
  | version => some 'V'
  | help => some 'h'

/-- Does a value belong to the switch? -/
def takesValue : Switch → Bool
  | rules => true
  | workspace => true
  | _ => false

/-- Does the switch ask a question in the place of a command? -/
def isQuestion : Switch → Bool
  | version => true
  | help => true
  | _ => false

end Switch

/-- The words for commands. -/
inductive Word
  | apply
  | check
  | list
  deriving DecidableEq, Repr

namespace Word

/-- How the word is written. -/
def name : Word → String
  | apply => "apply"
  | check => "check"
  | list => "list"

/-- All words, in the order in which they are listed. -/
def all : List Word := [apply, check, list]

/-- The command that a word names. -/
def named? (s : SystemText) : Option Word := all.find? fun w => s = w.name

/-- The switches of a command, in the order in which they are listed. -/
def switches : Word → List Switch
  | apply => [.rules, .verbose, .workspace, .dryRun, .diff, .json, .help]
  | check => [.rules, .verbose, .workspace, .json, .help]
  | list => [.rules, .verbose, .help]

end Word

/-- The switches that may stand before the command. -/
def frontSwitches : List Switch := [.verbose, .help, .version]

/-- What help can be about. -/
inductive Topic
  | program
  | command (word : Word)
  | help
  deriving DecidableEq, Repr

/-! ## Reading arguments -/

/-- A switch that was given, with its value if it takes one. -/
structure Given where
  switch : Switch
  value : SystemText := .text ""
  deriving DecidableEq, Repr

/--
What an argument gives: switches, and one whose value has to be the next argument.
-/
structure Reading where
  given : List Given
  pending : Option Switch := none

/-- Is there a question among some switches? -/
def asks (gs : List Given) : Bool := gs.any (·.switch.isQuestion)

/-- The switches of some letters. Whatever follows a question is not read. -/
def readLetters (allowed : List Switch) : List UInt8 → Option Reading
  | [] => some { given := [] }
  | letter :: rest => do
    let s ← allowed.find? (·.letter?.any (·.toUInt8 = letter))
    if s.isQuestion then return { given := [{ switch := s }] }
    else if s.takesValue then
      match rest with
      | [] => return { given := [], pending := some s }
      | first :: more =>
        let value := if first = '='.toUInt8 then more else rest
        return { given := [{ switch := s, value := .ofOctets value }] }
    else
      let r ← readLetters allowed rest
      return { r with given := { switch := s } :: r.given }

/-- The switch of a name, with a value behind an equals sign. -/
def readName (allowed : List Switch) (bytes : List UInt8) : Option Reading := do
  let name := bytes.takeWhile (· ≠ '='.toUInt8)
  let s ← allowed.find? fun s => SystemText.octets s.name = name
  match bytes.drop name.length, s.takesValue with
  | [], true => return { given := [], pending := some s }
  | [], false => return { given := [{ switch := s }] }
  | _ :: value, true => return { given := [{ switch := s, value := .ofOctets value }] }
  | _ :: _, false => none

/-- What an argument with a dash gives. -/
def readArgument (allowed : List Switch) (arg : SystemText) : Option Reading :=
  match arg.octets with
  | first :: second :: rest =>
    if first ≠ '-'.toUInt8 then none
    else if second = '-'.toUInt8 then readName allowed rest
    else readLetters allowed (second :: rest)
  | _ => none

/-- May the argument be the value of the switch before it? -/
def isValue (arg : SystemText) : Bool := arg = "-" || arg.octets.head? ≠ some '-'.toUInt8

/-- What the arguments behind a command give. Two dashes may end them. -/
def readArguments (allowed : List Switch) : List SystemText → Option (List Given)
  | [] => some []
  | [.text "--"] => some []
  | [arg] => do
    let r ← readArgument allowed arg
    if r.pending.isSome then none else some r.given
  | arg :: next :: rest => do
    let r ← readArgument allowed arg
    if asks r.given then return r.given
    match r.pending with
    | none => return r.given ++ (← readArguments allowed (next :: rest))
    | some s =>
      if isValue next then
        return r.given ++ { switch := s, value := next } :: (← readArguments allowed rest)
      else none

/-! ## Making the request -/

/-- How often a switch was given. -/
def timesGiven (s : Switch) (gs : List Given) : Nat := gs.countP (·.switch = s)

/-- Was a switch given? -/
def isGiven (s : Switch) (gs : List Given) : Bool := timesGiven s gs ≠ 0

/-- The path that was given with a switch. -/
def pathOf? (s : Switch) (gs : List Given) : Option Path :=
  (gs.find? (·.switch = s)).map fun g => Path.ofSystemText g.value

/-- Is no value empty, and no switch repeated that must not be? -/
def wellGiven (gs : List Given) : Bool :=
  gs.all fun g =>
    (!g.switch.takesValue || !g.value.isEmpty) &&
      (g.switch = .verbose || timesGiven g.switch gs = 1)

/-- The command of a word with what was given. -/
def ofGiven? (word : Word) (gs : List Given) : Option Command :=
  if wellGiven gs then do
    let rules ← pathOf? .rules gs
    let workspace := pathOf? .workspace gs
    match word with
    | .apply =>
      return .apply rules workspace (isGiven .dryRun gs) (isGiven .diff gs) (isGiven .json gs)
    | .check => return .check rules workspace (isGiven .json gs)
    | .list => return .list rules
  else none

/-- What help is asked about by some words. -/
def Topic.ofWords? : List SystemText → Option Topic
  | [] => some .program
  | [word] => if word = "help" then some .help else (Word.named? word).map .command
  | _ => none

end Command

/-- What a command line asks for; `verbosity` is how much detail is logged. -/
inductive Request
  | version
  | help (topic : Command.Topic)
  | run (command : Command) (verbosity : Nat)
  deriving DecidableEq, Repr

namespace Request

open Command

/-- The request of a command with its arguments; `before` counts the detail asked for before it. -/
def ofCommand (before : Nat) (word : Word) (args : List SystemText) : Option Request := do
  let gs ← readArguments word.switches args
  if wellGiven gs && isGiven .help gs then return .help (.command word)
  let command ← ofGiven? word gs
  let behind := timesGiven .verbose gs
  return .run command (if behind = 0 then before else behind)

/-- Read arguments up to the command. -/
def readFront (before : Nat) : List SystemText → Option Request
  | [] => none
  | arg :: rest =>
    if arg = "help" then (Topic.ofWords? rest).map .help
    else match Word.named? arg with
    | some word => ofCommand before word rest
    | none => do
      let r ← readArgument frontSwitches arg
      if isGiven .help r.given then return .help .program
      if isGiven .version r.given then return .version
      readFront (before + r.given.length) rest

/-- What a command line asks for. -/
def ofArguments (args : List SystemText) : Option Request := readFront 0 args

end Request

end Emend
