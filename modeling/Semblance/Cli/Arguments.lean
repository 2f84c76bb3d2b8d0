/-!
# Command lines

A command line names a command, its inputs and options. The options for verbosity and format may
stand before the command or after its name; after it they count more.

Options are checked one step late: the value of an option, and an input, are looked at when the
next option or input is accepted, so that an unknown option is reported before them.
-/

namespace Semblance.Cli

/-- Why a command line is not carried out. -/
inductive Refusal where
  | missingArgument
  | unknownArgument
  | invalidValue
  | unexpectedValue
  | repeatedOption
  | unknownCommand
  | missingCommand
  | help
  /-- Nothing was asked for. -/
  | helpForNothing
  | version
  deriving DecidableEq, Repr

inductive Format where
  | text
  | json
  | tsv
  deriving DecidableEq, Repr

def Format.ofName? : String → Option Format
  | "text" => some .text
  | "json" => some .json
  | "tsv" => some .tsv
  | _ => none

/-- A command with its inputs. A path may be `-` for what the program is given to read. -/
inductive Command where
  | test (pattern : String) (values : List String) (ns : Option String)
  | score (rules left right : String) (ns : Option String)
  | check (rules : String)
  deriving DecidableEq, Repr

structure Invocation where
  command : Command
  verbose : Bool := false
  format : Format := .text
  deriving DecidableEq, Repr

inductive CommandName where
  | test
  | score
  | check
  deriving DecidableEq, Repr

def CommandName.ofName? : String → Option CommandName
  | "test" => some .test
  | "score" => some .score
  | "check" => some .check
  | _ => none

/-- What one level of a command line accepts: the level before the command, or that of a
command. -/
abbrev Level := Option CommandName

namespace Level

/-- How many inputs there may be; `none` if there is no bound. -/
def maxInputs : Level → Option Nat
  | none => some 0
  | some .test => none
  | some .score => some 3
  | some .check => some 1

/-- From this place on, inputs are values of one argument. -/
def firstOfMany : Level → Option Nat
  | some .test => some 1
  | _ => none

def takesNamespace (level : Level) : Bool := level = some .test || level = some .score

end Level

/-- An option that takes a value. -/
inductive ValueOption where
  | format
  | ns
  deriving DecidableEq, Repr

/-- What a word that starts with a hyphen asks for. -/
inductive Switch where
  | verbose
  | help
  | version
  | valued (option : ValueOption)
  deriving DecidableEq, Repr

namespace Level

def longOption? (level : Level) : String → Option Switch
  | "verbose" => some .verbose
  | "help" => some .help
  | "format" => some (.valued .format)
  | "version" => if level.isNone then some .version else none
  | "namespace" => if takesNamespace level then some (.valued .ns) else none
  | _ => none

def shortOption? (level : Level) : Char → Option Switch
  | 'v' => some .verbose
  | 'h' => some .help
  | 'f' => some (.valued .format)
  | 'V' => if level.isNone then some .version else none
  | _ => none

end Level

/-- What has been read but not yet checked. -/
inductive Pending where
  | option (option : ValueOption) (value : Option String)
  | inputs (paths : List String)
  deriving DecidableEq, Repr

/-- What has been read at one level. -/
structure Collected where
  verbose : Bool := false
  format : Option Format := none
  ns : Option String := none
  inputs : List String := []
  pending : Option Pending := none
  deriving DecidableEq, Repr

namespace Collected

/-- The last word was an option that still needs its value. -/
def awaitsValue (c : Collected) : Bool :=
  match c.pending with
  | some (.option _ none) => true
  | _ => false

/-- Set an option, which may be done once. -/
def setOption (c : Collected) (option : ValueOption) (value : String) :
    Except Refusal Collected :=
  match option with
  | .format =>
      if c.format.isSome then .error .repeatedOption
      else
        match Format.ofName? value with
        | some format => .ok { c with format := some format }
        | none => .error .invalidValue
  | .ns =>
      if c.ns.isSome then .error .repeatedOption
      else if value.isEmpty then .error .invalidValue
      else .ok { c with ns := some value }

/-- Check what is pending. -/
def resolve (c : Collected) : Except Refusal Collected :=
  let settled := { c with pending := none }
  match c.pending with
  | none => .ok settled
  | some (.option _ none) => .error .invalidValue
  | some (.option option (some value)) => settled.setOption option value
  | some (.inputs paths) =>
      if paths.contains "" then .error .invalidValue
      else .ok { settled with inputs := c.inputs ++ paths }

/-- Switch on an option without a value. -/
def addFlag (c : Collected) : Switch → Except Refusal Collected
  | .verbose => do
      let c ← c.resolve
      if c.verbose then .error .repeatedOption else .ok { c with verbose := true }
  | .help => do
      let _ ← c.resolve
      .error .help
  | .version => do
      let _ ← c.resolve
      .error .version
  | .valued _ => .ok c

/-- Add an option that takes a value, which may be attached to it. -/
def addOption (c : Collected) (option : ValueOption) (attached : Option String) :
    Except Refusal Collected := do
  let c ← c.resolve
  match attached with
  | some value => c.setOption option value
  | none => return { c with pending := some (.option option none) }

/-- Add an input. -/
def addInput (level : Level) (c : Collected) (path : String) : Except Refusal Collected :=
  match c.pending, Level.firstOfMany level with
  | some (.inputs paths), some first =>
      if first ≤ c.inputs.length then
        .ok { c with pending := some (.inputs (paths ++ [path])) }
      else do
        let c ← c.resolve
        return { c with pending := some (.inputs [path]) }
  | _, _ => do
      let c ← c.resolve
      return { c with pending := some (.inputs [path]) }

/-- How many inputs have been read. -/
def inputCount (c : Collected) : Nat :=
  match c.pending with
  | some (.inputs paths) => c.inputs.length + paths.length
  | _ => c.inputs.length

end Collected

/-- An option after two hyphens, with a value after an equals sign if there is one. -/
def readLong (level : Level) (c : Collected) (word : List Char) : Except Refusal Collected :=
  let name := String.ofList (word.takeWhile (· ≠ '='))
  let attached := match word.dropWhile (· ≠ '=') with
    | _ :: value => some (String.ofList value)
    | [] => none
  match Level.longOption? level name with
  | none => .error .unknownArgument
  | some (.valued option) => c.addOption option attached
  | some flag => if attached.isSome then .error .unexpectedValue else c.addFlag flag

/-- Options of one letter each. The first that takes a value has the rest of the word as its
value, without an equals sign in front. -/
def readShorts (level : Level) (c : Collected) : List Char → Except Refusal Collected
  | [] => .ok c
  | letter :: rest =>
      match Level.shortOption? level letter with
      | none => .error .unknownArgument
      | some (.valued option) =>
          c.addOption option <| match rest with
            | [] => none
            | '=' :: value => some (String.ofList value)
            | value => some (String.ofList value)
      | some flag => do
          let c ← c.addFlag flag
          readShorts level c rest

/-- A word that is none of the options. -/
def readInput (level : Level) (c : Collected) (word : String) : Except Refusal Collected :=
  if (Level.maxInputs level).all (c.inputCount < ·) then c.addInput level word
  else if level.isNone then .error .unknownCommand
  else .error .unknownArgument

/-- A word before which there was no `--`. -/
def readWord (level : Level) (c : Collected) (word : String) : Except Refusal Collected :=
  match word.toList with
  | '-' :: '-' :: name => readLong level c name
  | '-' :: letter :: letters => readShorts level c (letter :: letters)
  | _ =>
      match c.pending with
      | some (.option option none) =>
          .ok { c with pending := some (.option option (some word)) }
      | _ => readInput level c word

/-- Read the words of a command; after `--` all of them are inputs. -/
def readWords (level : Level) (onlyInputs : Bool) (c : Collected) :
    List String → Except Refusal Collected
  | [] => c.resolve
  | word :: rest =>
      if onlyInputs then do
        let c ← readInput level c word
        readWords level true c rest
      else if word = "--" then readWords level true c rest
      else do
        let c ← readWord level c word
        readWords level false c rest

/-- The command that the words after its name make. -/
def commandOf (name : CommandName) (c : Collected) : Except Refusal Command :=
  match name, c.inputs with
  | .test, pattern :: value :: values => .ok (.test pattern (value :: values) c.ns)
  | .score, [rules, left, right] => .ok (.score rules left right c.ns)
  | .check, [rules] => .ok (.check rules)
  | _, _ => .error .missingArgument

/-- The words after `help`, which may name a command. -/
def helpAbout : List String → Refusal
  | [] => .help
  | [word] => if word = "help" ∨ (CommandName.ofName? word).isSome then .help else .unknownCommand
  | _ => .unknownCommand

/-- Carry on with a command: read its words, and then check what came before its name. -/
def readCommand (outer : Collected) (name : CommandName) (words : List String) :
    Except Refusal Invocation := do
  let inner ← readWords (some name) false {} words
  let command ← commandOf name inner
  -- A fault before the command's name is reported after those behind it.
  let outer ← outer.resolve
  return {
    command
    verbose := inner.verbose || outer.verbose
    format := (inner.format.or outer.format).getD .text }

/-- There is no command. -/
def withoutCommand (c : Collected) : Refusal :=
  match c.resolve with
  | .error refusal => refusal
  | .ok c => if c.verbose || c.format.isSome then .missingCommand else .helpForNothing

/-- The word after `--` cannot name a command. -/
def afterHyphens (c : Collected) : List String → Refusal
  | [] => withoutCommand c
  | word :: _ =>
      if word = "help" ∨ (CommandName.ofName? word).isSome then .unknownArgument
      else .unknownCommand

/-- Read the words up to the command, and then the command. -/
def readOuter (c : Collected) : List String → Except Refusal Invocation
  | [] => .error (withoutCommand c)
  | word :: rest =>
      if word = "help" ∧ !c.awaitsValue then .error (helpAbout rest)
      else if word = "--" then .error (afterHyphens c rest)
      else
        match if c.awaitsValue then none else CommandName.ofName? word with
        | some name => readCommand c name rest
        | none => do
            let c ← readWord none c word
            readOuter c rest

/-- Read a command line. -/
def Invocation.ofWords (words : List String) : Except Refusal Invocation := readOuter {} words

end Semblance.Cli
