/-!
# The command line of the demo

Three options, each with a number: how many messages to publish, how many to deliver at most, and
how long a request waits. Two flags ask for help and for the version.

## Main definitions

- `CommandLine.Settings` — the numbers, with their defaults
- `CommandLine.Stop` — why no settings were read, and the text that says so
- `CommandLine.parse` — the settings on a line of arguments

## Design notes

A value may follow its option as the next argument, after an equals sign, or, for a one-letter
option, directly. A value in an argument of its own is looked at only when the next option begins or
the line ends, so an unknown argument in between is reported first. An argument that begins with a
hyphen and is more than that is never a value of its own. Two hyphens alone end the options.
-/

namespace PubSub.CommandLine

/-- The settings that can be given a number. -/
inductive Field where
  | messages
  /-- The ceiling of the subscription. -/
  | max
  | timeout
  deriving DecidableEq

/-- The long form of an option with the placeholder of its value. -/
def Field.form : Field → String
  | messages => "--messages <MESSAGES>"
  | max => "--max <MAX>"
  | timeout => "--timeout-ms <TIMEOUT_MS>"

/-- The settings of the demo. -/
structure Settings where
  messages : Nat := 10
  /-- The ceiling of the subscription; zero is no limit. -/
  max : Nat := 0
  timeoutMs : Nat := 500
  deriving DecidableEq

/-- What is wrong with the text of a number. -/
inductive NumberError where
  | empty
  | invalidDigit
  | tooLarge
  deriving DecidableEq

/-- The text of a defect. -/
def NumberError.message : NumberError → String
  | empty => "cannot parse integer from empty string"
  | invalidDigit => "invalid digit found in string"
  | tooLarge => "number too large to fit in target type"

/-- Why no settings were read. -/
inductive Stop where
  | help
  | version
  | unknownArgument (argument : String)
  | missingValue (field : Field)
  | invalidValue (field : Field) (value : String) (cause : NumberError)
  | repeated (field : Field)
  | unexpectedValue (flag value : String)
  deriving DecidableEq

/-- The help text. -/
def helpText : String :=
  "Loopback demo of the streamlink delivery engine\n\n" ++
  "Usage: streamlink [OPTIONS]\n\n" ++
  "Options:\n" ++
  "  -m, --messages <MESSAGES>      Messages to publish to the demo subscription [default: 10]\n" ++
  "      --max <MAX>                Stop the demo subscription after this many deliveries; " ++
  "0 is unlimited [default: 0]\n" ++
  "  -t, --timeout-ms <TIMEOUT_MS>  Request timeout in milliseconds [default: 500]\n" ++
  "  -h, --help                     Print help\n" ++
  "  -V, --version                  Print version\n"

/-- The version text. -/
def versionText : String := "streamlink 0.1.0\n"

/-- The text of a reason: all of it for help and version, its first sentence for an error. -/
def Stop.message : Stop → String
  | help => helpText
  | version => versionText
  | unknownArgument argument => "error: unexpected argument '" ++ argument ++ "' found"
  | missingValue field =>
    "error: a value is required for '" ++ field.form ++ "' but none was supplied"
  | invalidValue field value cause =>
    "error: invalid value '" ++ value ++ "' for '" ++ field.form ++ "': " ++ cause.message
  | repeated field => "error: the argument '" ++ field.form ++ "' cannot be used multiple times"
  | unexpectedValue flag value =>
    "error: unexpected value '" ++ value ++ "' for '" ++ flag ++ "' found; no more were expected"

/-- The greatest number a value can have. -/
def greatest : Nat := 18446744073709551615

/-- The number that decimal digits continue, read from left to right. -/
def readDigits : Nat → List Char → Except NumberError Nat
  | n, [] => .ok n
  | n, c :: rest =>
    if c.isDigit then
      let n := n * 10 + (c.toNat - '0'.toNat)
      if n ≤ greatest then readDigits n rest else .error .tooLarge
    else .error .invalidDigit

/-- The number that a text denotes: decimal digits, perhaps after a plus sign. -/
def readNumber (text : String) : Except NumberError Nat :=
  match text.toList with
  | [] => .error .empty
  | ['+'] => .error .invalidDigit
  | '+' :: digits => readDigits 0 digits
  | digits => readDigits 0 digits

/-- An option whose turn it is: the value may still come. -/
structure Pending where
  field : Field
  value : Option String := none
  deriving DecidableEq

/-- What was read so far. -/
structure Reader where
  values : List (Field × Nat) := []
  /-- The option that was read last, while its value was not looked at. -/
  pending : Option Pending := none
  deriving DecidableEq

namespace Reader

/-- Accepts a value for an option that was not given yet. -/
def accept (r : Reader) (field : Field) (value : String) : Except Stop Reader :=
  if (r.values.lookup field).isSome then .error (.repeated field)
  else
    match readNumber value with
    | .ok n => .ok { r with values := r.values ++ [(field, n)] }
    | .error cause => .error (.invalidValue field value cause)

/-- Looks at the value of the option that was read last. -/
def resolve (r : Reader) : Except Stop Reader :=
  match r.pending with
  | none => .ok r
  | some { field := field, value := none } => .error (.missingValue field)
  | some { field := field, value := some value } =>
    { r with pending := none }.accept field value

/-- Begins an option whose value may follow. -/
def begin (r : Reader) (field : Field) : Except Stop Reader := do
  let r ← r.resolve
  return { r with pending := some { field := field } }

/-- Reads an option together with its value. -/
def give (r : Reader) (field : Field) (value : String) : Except Stop Reader := do
  let r ← r.resolve
  r.accept field value

/-- Reads a flag that ends the reading. -/
def halt (r : Reader) (stop : Stop) : Except Stop Reader := do
  let _ ← r.resolve
  throw stop

/-- The settings that were read. -/
def settings (r : Reader) : Settings where
  messages := (r.values.lookup .messages).getD 10
  max := (r.values.lookup .max).getD 0
  timeoutMs := (r.values.lookup .timeout).getD 500

end Reader

/-- The option with a long name. -/
def fieldOfLong? (name : String) : Option Field :=
  if name == "messages" then some .messages
  else if name == "max" then some .max
  else if name == "timeout-ms" then some .timeout
  else none

/-- The flag with a long name. -/
def flagOfLong? (name : String) : Option Stop :=
  if name == "help" then some .help
  else if name == "version" then some .version
  else none

/-- A name and what follows the first equals sign, if there is one. -/
def splitValue (text : List Char) : String × Option String :=
  let name := text.takeWhile (· != '=')
  match text.dropWhile (· != '=') with
  | [] => (String.ofList name, none)
  | _ :: value => (String.ofList name, some (String.ofList value))

/-- Reads an argument that begins with two hyphens; `text` is what follows them. -/
def readLong (r : Reader) (text : List Char) : Except Stop Reader :=
  let (name, value) := splitValue text
  match fieldOfLong? name, flagOfLong? name, value with
  | some field, _, none => r.begin field
  | some field, _, some value => r.give field value
  | none, some stop, none => r.halt stop
  | none, some _, some value => .error (.unexpectedValue ("--" ++ name) value)
  | none, none, _ => .error (.unknownArgument ("--" ++ name))

/-- Reads an argument that begins with one hyphen; `letter` and `rest` are what follows it. -/
def readShort (r : Reader) (letter : Char) (rest : List Char) : Except Stop Reader :=
  let field? : Option Field :=
    if letter = 'm' then some .messages else if letter = 't' then some .timeout else none
  match field?, rest with
  | some field, [] => r.begin field
  | some field, '=' :: value => r.give field (String.ofList value)
  | some field, value => r.give field (String.ofList value)
  | none, _ =>
    if letter = 'h' then r.halt .help
    else if letter = 'V' then r.halt .version
    else .error (.unknownArgument (String.ofList ['-', letter]))

/-- Reads an argument that is neither an option nor a flag: a value, if one is missing. -/
def readPlain (r : Reader) (argument : String) : Except Stop Reader :=
  match r.pending with
  | some { field := field, value := none } =>
    .ok { r with pending := some { field := field, value := some argument } }
  | _ => .error (.unknownArgument argument)

/-- Reads one argument before the end of the options. -/
def readArgument (r : Reader) (argument : String) : Except Stop Reader :=
  match argument.toList with
  | '-' :: '-' :: text => readLong r text
  | '-' :: letter :: rest => readShort r letter rest
  | _ => readPlain r argument

/-- Reads a list of arguments. -/
def readAll (r : Reader) : List String → Except Stop Reader
  | [] => r.resolve
  | argument :: rest =>
    if argument == "--" then
      match rest with
      | [] => r.resolve
      | argument :: _ => .error (.unknownArgument argument)
    else do
      let r ← readArgument r argument
      readAll r rest

/-- The settings on a line of arguments, or why there are none. -/
def parse (arguments : List String) : Except Stop Settings := do
  let r ← readAll {} arguments
  return r.settings

end PubSub.CommandLine
