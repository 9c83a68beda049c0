import ClusterPrep.Number.Numeral
import ClusterPrep.Text.Quoted
import ClusterPrep.Text.Search

set_option autoImplicit false

/-
  The options of the command line. A long option may be shortened as long as no other begins the
  same way, and takes its value from the next argument or after an equals sign.
-/
namespace ClusterPrep.CommandLine

/-- The options. -/
inductive Flag
  | help
  | version
  | convert
  | grid
  | edit
deriving DecidableEq, Repr

/-- The spellings of the options. -/
def spellings : List (Text × Flag) := [
  ("-h", .help), ("--help", .help), ("--version", .version), ("--convert", .convert),
  ("--grid", .grid), ("--open", .edit)]

namespace Flag

/-- All spellings of an option, for messages. -/
def name : Flag → String
  | help => "-h/--help"
  | version => "--version"
  | convert => "--convert"
  | grid => "--grid"
  | edit => "--open"

def takesValue : Flag → Bool
  | help | version => false
  | _ => true

end Flag

/-- A number of processes as the command line gives it. -/
inductive GridCount
  | given (n : Int)
  /-- The option stands there with two dashes for its value, which are none. -/
  | lacking
deriving DecidableEq

/-- What the command line asks for: a script to convert, a number of processes to lay out, a script
    to start the editor with. An empty path asks for nothing. -/
structure Request where
  convert : Option Text := none
  grid : Option GridCount := none
  edit : Option Text := none
deriving DecidableEq

/-- Why a command line is refused. -/
inductive UsageError
  | ambiguous (given : Text) (matching : List Text)
  | missingValue (option : Flag)
  | uselessValue (option : Flag) (given : Text)
  | notInteger (option : Flag) (given : Text)
  | unrecognized (arguments : List Text)
  | countNotPositive
deriving DecidableEq

/-- The words for a usage error. -/
def UsageError.message : UsageError → Text
  | ambiguous given matching =>
    "ambiguous option: " ++ given ++ " could match " ++ Text.joinWith ", " matching
  | missingValue o => "argument " ++ o.name ++ ": expected one argument"
  | uselessValue o given =>
    "argument " ++ o.name ++ ": ignored explicit argument " ++ Text.quoted given
  | notInteger o given =>
    "argument " ++ o.name ++ ": invalid int value: " ++ Text.quoted given
  | unrecognized arguments => "unrecognized arguments: " ++ Text.unwords arguments
  | countNotPositive => "--grid needs a positive process count"

/-- An argument, told by its form. -/
inductive Argument
  | plain (s : Text)
  /-- Two dashes: all that follows is plain, but this is no value of an option. -/
  | separator
  | unknown (s : Text)
  /-- An option, the value after an equals sign or after the letter of a short option, and whether
      the option was written in its long form. -/
  | option (o : Flag) (long : Bool) (value : Option Text)

/-- A minus and a decimal number. -/
def isNegativeNumber (s : Text) : Bool :=
  match s with
  | '-' :: rest =>
    let whole := rest.takeWhile Text.isDecimalDigit
    match rest.dropWhile Text.isDecimalDigit with
    | [] | ['\n'] => !whole.isEmpty
    | '.' :: part =>
      let ds := part.takeWhile Text.isDecimalDigit
      let remainder := part.dropWhile Text.isDecimalDigit
      !ds.isEmpty && (remainder == [] || remainder == "\n")
    | _ => false
  | _ => false

/-- The spellings that begin with a text. -/
def spellingsFrom (s : Text) : List (Text × Flag) := spellings.filter fun x => s.isPrefixOf x.1

/-- The form of an argument before two dashes. -/
def classify (s : Text) : Except UsageError Argument :=
  match s with
  | '-' :: c :: rest =>
    match spellings.lookup s with
    | some o => return .option o (c == '-') none
    | none =>
      let (name, value) := Text.cut '=' s
      match spellings.lookup name, value with
      | some o, some v => return .option o (c == '-') (some v)
      | _, _ =>
        let otherwise : Argument :=
          if isNegativeNumber s ∨ s.contains ' ' then .plain s else .unknown s
        if c = '-' then
          match spellingsFrom name with
          | [] => return otherwise
          | [(_, o)] => return .option o true value
          | many => throw (UsageError.ambiguous s (many.map Prod.fst))
        else if c = 'h' then return .option .help false (some rest)
        else return otherwise
  | s => return .plain s

/-- The forms of all arguments. -/
def classifyAll : List Text → Except UsageError (List Argument)
  | [] => return []
  | s :: rest => do
    if s = "--" then return .separator :: rest.map .plain
    let a ← classify s
    return a :: (← classifyAll rest)

/-- What is to be done first of all. -/
inductive Outcome
  | showHelp
  | showVersion
  | refuse (e : UsageError)
  | run (r : Request)

/-- What follows `-h` in one argument: each letter must be that option again. -/
def afterHelp : Text → Outcome
  | ['h'] => .showHelp
  | 'h' :: rest => afterHelp rest
  | given => .refuse (.uselessValue .help given)

/-- A path from an option's value. Two dashes are no value. -/
def pathOf (v : Text) : Text := if v = "--" then [] else v

/-- The request with an option's value. -/
def Request.set (r : Request) (v : Text) : Flag → Except UsageError Request
  | .convert => return { r with convert := some (pathOf v) }
  | .edit => return { r with edit := some (pathOf v) }
  | .grid =>
    if v = "--" then return { r with grid := some .lacking }
    else match Numeral.readInt v with
      | .ok i => return { r with grid := some (.given i) }
      | .error _ => throw (.notInteger .grid v)
  | .help | .version => return r

/-- Carry out the arguments from the left, `extras` being those that nothing takes. -/
def interpret (r : Request) (extras : List Text) : List Argument → Outcome
  | [] =>
    if !extras.isEmpty then .refuse (.unrecognized extras)
    else match r.grid with
      | some (.given n) => if n < 1 then .refuse .countNotPositive else .run r
      | _ => .run r
  | .plain s :: rest => interpret r (extras ++ [s]) rest
  | .unknown s :: rest => interpret r (extras ++ [s]) rest
  | .separator :: rest => interpret r (extras ++ [("--" : Text)]) rest
  | .option o long value :: rest =>
    match value, rest with
    | some v, rest =>
      if o.takesValue then
        match r.set v o with
        | .ok r => interpret r extras rest
        | .error e => .refuse e
      else if long then .refuse (.uselessValue o v)
      else afterHelp v
    | none, rest =>
      match o, rest with
      | .help, _ => .showHelp
      | .version, _ => .showVersion
      | o, .plain v :: rest =>
        match r.set v o with
        | .ok r => interpret r extras rest
        | .error e => .refuse e
      | o, _ => .refuse (.missingValue o)

/-- What a command line comes to. -/
def outcome (args : List Text) : Outcome :=
  match classifyAll args with
  | .ok as => interpret {} [] as
  | .error e => .refuse e

end ClusterPrep.CommandLine
