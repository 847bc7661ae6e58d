import PowerLimits.CommandLine.Options

/-!
Reading a command line from the left. A value that stands in an argument of its own waits until the
next known option or the end shows that it was the only one; a value in the argument of its option is
read at once.
-/
namespace PowerLimits

inductive UsageError where
  | unknownArgument
  | missingValue
  | unwantedValue
  | helpRequested
  | repeated
  | invalidValue
deriving DecidableEq

def UsageError.message : UsageError → String
  | .unknownArgument => "unexpected argument found"
  | .missingValue => "a value is required for an option but none was supplied"
  | .unwantedValue => "unexpected value for an option"
  | .helpRequested => "help was asked for"
  | .repeated => "an option cannot be used multiple times"
  | .invalidValue => "invalid value for an option"

structure Reading where
  options : Options
  /-- The options whose values are in `options`. -/
  given : List Parameter
  /-- The last option, while its value is still to come or to be read. -/
  waiting : Option (Parameter × Option (List Char))

namespace Reading

def start : Reading := ⟨.standard, [], none⟩

/-- Read a value of an option that was not given before. -/
def assign (reading : Reading) (parameter : Parameter) (value : List Char) :
    Except UsageError Reading :=
  if parameter ∈ reading.given then .error .repeated
  else
    match parameter.assign? value reading.options with
    | some options => .ok { reading with options, given := parameter :: reading.given }
    | none => .error .invalidValue

def settle (reading : Reading) : Except UsageError Reading :=
  match reading.waiting with
  | none => .ok reading
  | some (_, none) => .error .missingValue
  | some (parameter, some value) => { reading with waiting := none }.assign parameter value

def turnOn (reading : Reading) (option : Switch) : Except UsageError Reading := do
  let reading ← reading.settle
  match option with
  | .help => .error .helpRequested
  | .countSockets =>
    if reading.options.countSockets then .error .repeated
    else .ok { reading with options := { reading.options with countSockets := true } }
  | .verbose =>
    if reading.options.verbose then .error .repeated
    else .ok { reading with options := { reading.options with verbose := true } }

/-- An option whose value, if there is one, is the next argument. -/
def await (reading : Reading) (parameter : Parameter) : Except UsageError Reading := do
  return { ← reading.settle with waiting := some (parameter, none) }

def attach (reading : Reading) (parameter : Parameter) (value : List Char) :
    Except UsageError Reading := do
  (← reading.settle).assign parameter value

def value (reading : Reading) (text : List Char) : Except UsageError Reading :=
  match reading.waiting with
  | some (parameter, none) => .ok { reading with waiting := some (parameter, some text) }
  | _ => .error .unknownArgument

/-- An argument after two hyphens: a name, and its value after an equals sign. -/
def long (reading : Reading) (text : List Char) : Except UsageError Reading :=
  let name := text.takeWhile (· ≠ '=')
  let attached := text.dropWhile (· ≠ '=')
  match Switch.ofName? name, Parameter.ofName? name, attached with
  | some option, _, [] => reading.turnOn option
  | some _, _, _ :: _ => .error .unwantedValue
  | none, some parameter, [] => reading.await parameter
  | none, some parameter, _ :: value => reading.attach parameter value
  | none, none, _ => .error .unknownArgument

/-- An argument after one hyphen: letters, the last of which may have its value behind it. -/
def short (reading : Reading) : List Char → Except UsageError Reading
  | [] => .ok reading
  | c :: rest =>
    match Switch.ofLetter? c, Parameter.ofLetter? c, rest with
    | some option, _, _ => do short (← reading.turnOn option) rest
    | none, some parameter, [] => reading.await parameter
    | none, some parameter, '=' :: value => reading.attach parameter value
    | none, some parameter, value => reading.attach parameter value
    | none, none, _ => .error .unknownArgument

/-- All arguments. Nothing may follow two hyphens that stand alone, whatever waits before them. -/
def arguments (reading : Reading) : List (List Char) → Except UsageError Reading
  | [] => reading.settle
  | ['-', '-'] :: rest => if rest = [] then reading.settle else .error .unknownArgument
  | ('-' :: '-' :: text) :: rest => do arguments (← reading.long text) rest
  | ('-' :: c :: text) :: rest => do arguments (← reading.short (c :: text)) rest
  | text :: rest => do arguments (← reading.value text) rest

end Reading

def Options.ofArguments (arguments : List String) : Except UsageError Options := do
  return (← Reading.start.arguments (arguments.map String.toList)).options

end PowerLimits
